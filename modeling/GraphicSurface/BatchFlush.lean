import GraphicSurface.LockCalls
import GraphicSurface.RemoteRequest

/-! A batch of flushes. `ProducerSurface::FlushBuffers` compares the numbers of buffers and of
fences; the producers below it go by the number of buffers alone and read four vectors at every
index. -/

namespace GraphicSurface

/-- An index that a vector does not have, or a pointer to extra data that is null. -/
inductive ReadFault
  | outOfBounds
  | nullPointer
deriving DecidableEq

/-- The arguments of `IBufferProducer::FlushBuffers`, after the fences were compared with null. -/
structure FlushVectors where
  sequences : List ℕ
  bedata : List (Option ExtraData)
  fences : List SyncFence
  configs : List BufferFlushConfigWithDamages
deriving DecidableEq

/-- What a batch comes to: the code that the caller gets, unless a process has ended, how many
buffers were flushed, and the producer. -/
structure FlushOutcome where
  ret : Except ReadFault Int32
  flushed : ℕ
  producer : BufferQueueProducer

namespace FlushVectors

/-- `sequences[i]`, `bedata[i]`, `fences[i]` and `configs[i]`, with what the flush takes from its
surroundings. -/
def args (v : FlushVectors) (env : ℕ → FlushEnv) (i : ℕ) : Option FlushArgs := do
  let sequence ← v.sequences[i]?
  let bedata ← v.bedata[i]?
  let fence ← v.fences[i]?
  let config ← v.configs[i]?
  some ⟨sequence, bedata, fence, config, env i⟩

/-- The loop of `BufferQueueProducer::FlushBuffers` from index `i` on. -/
def flushFrom (v : FlushVectors) (env : ℕ → FlushEnv) :
    (left i : ℕ) → BufferQueue → Except ReadFault GSError × ℕ × BufferQueue
  | 0, i, q => (.ok .ok, i, q)
  | left + 1, i, q =>
    match v.args env i with
    | none => (.error .outOfBounds, i, q)
    | some f =>
      match q.flushBuffer f.sequence f.bedata f.fence f.config f.env with
      | (ret, q) =>
        if q.fault then (.error .nullPointer, i, q)
        else if ret ≠ .ok then (.ok ret, i, q)
        else v.flushFrom env left (i + 1) q

end FlushVectors

/-- `BufferQueueProducer::FlushBuffers` with the vectors as they are passed. -/
def BufferQueueProducer.flushVectors (s : BufferQueueProducer) (v : FlushVectors)
    (env : ℕ → FlushEnv) : FlushOutcome :=
  if s.isDisconnectStrictly then ⟨.ok GSError.consumerDisconnected.code, 0, s⟩
  else
    match v.flushFrom env v.sequences.length 0 s.bufferQueue with
    | (ret, flushed, q) => ⟨ret.map GSError.code, flushed, s.withQueue q⟩

/-- The vectors of `ProducerSurface::FlushBuffers`. Each number is one of its C++ type, and extra
data has been filled by setting entries. -/
structure FlushBatch where
  buffers : List (Option SurfaceBuffer)
  fences : List (Option SyncFence)
  configs : List BufferFlushConfigWithDamages
  configsFit : ∀ config ∈ configs, config.Fits ∧ config.damages.length < 2 ^ 32
  bedataMade : ∀ buffer, some buffer ∈ buffers → ∀ d ∈ buffer.extraData,
    ∃ sets, Runs.Run ExtraData.SetStep ∅ sets d

namespace FlushBatch

variable (b : FlushBatch)

/-- What `ProducerSurface::FlushBuffers` passes on to its producer. -/
def vectors : Option FlushVectors :=
  if b.buffers = [] ∨ b.buffers.length ≠ b.fences.length ∨ surfaceMaxQueueSize < b.buffers.length then
    none
  else do
    let buffers ← b.buffers.mapM id
    let fences ← b.fences.mapM id
    some ⟨buffers.map (·.seqNum), buffers.map (·.extraData), fences, b.configs⟩

/-- The call up to the end of the producer's, for a producer in this process. -/
def flush (call : FlushVectors → FlushOutcome) (s : BufferQueueProducer) : FlushOutcome :=
  match b.vectors with
  | none => ⟨.ok GSError.invalidArguments.code, 0, s⟩
  | some v => call v

def Mismatched : Prop := b.fences.length ≠ b.buffers.length ∨ b.configs.length ≠ b.buffers.length

/-- No element is read that is not there, and vectors of different lengths are turned away before
anything is flushed. -/
def Right (outcome : FlushOutcome) : Prop :=
  ∃ ret, outcome.ret = .ok ret ∧
    (b.Mismatched → ret ≠ GSError.ok.code ∧ outcome.flushed = 0)

end FlushBatch

namespace BufferQueue

variable {q q' : BufferQueue} {k : ℕ}

theorem checkBufferQueueCacheLocked_ok : q.checkBufferQueueCacheLocked k = .ok ↔
    q.stateOf k = some .requested ∨ q.stateOf k = some .attached := by
  unfold checkBufferQueueCacheLocked stateOf
  cases q.bufferQueueCache.find k with
  | none => simp
  | some e =>
    dsimp only
    split
    · rename_i hs
      simp [hs.1, hs.2]
    · rename_i hs
      simpa [← or_iff_not_imp_left] using hs

theorem doFlushBufferLocked_fault (hfault : q.fault = false) {f : FlushArgs}
    (h : (q.doFlushBufferLocked f.sequence f.bedata f.fence f.config f.env).2.fault = true) :
    f.bedata = none := by
  unfold doFlushBufferLocked at h
  split at h
  · simp [hfault] at h
  · split at h
    · simp [hfault] at h
    · split at h
      · assumption
      · dsimp only at h
        split at h <;> simp [commitFlush, prepareFlush, hfault] at h

theorem doFlushBufferLocked_gone {f : FlushArgs}
    (hok : (q.doFlushBufferLocked f.sequence f.bedata f.fence f.config f.env).1 = .ok) :
    (q.doFlushBufferLocked f.sequence f.bedata f.fence f.config f.env).2.checkBufferQueueCacheLocked
      f.sequence ≠ .ok := by
  rw [ne_eq, checkBufferQueueCacheLocked_ok]
  unfold doFlushBufferLocked at hok ⊢
  split at hok
  · cases hok
  · rename_i e he
    split at hok
    · rename_i hdeleting
      rw [if_pos hdeleting]
      simp [stateOf, find_deleteNoWait]
    · rename_i hdeleting
      rw [if_neg hdeleting]
      split at hok
      · cases hok
      · dsimp only at hok ⊢
        split at hok
        · rename_i hcache
          exact absurd hok hcache.2
        · rename_i hcache
          rw [if_neg hcache]
          simp [stateOf, commitFlush, prepareFlush, he]

theorem flushBuffer_fault (hfault : q.fault = false) {f : FlushArgs}
    (h : (q.flushBuffer f.sequence f.bedata f.fence f.config f.env).2.fault = true) :
    f.bedata = none ∧ checkFlushConfig f.config = .ok ∧
      q.checkBufferQueueCacheLocked f.sequence = .ok := by
  unfold flushBuffer at h
  split_ifs at h with hvalid hconfig hcheck hlistener
  · simp [hfault] at h
  · simp [hfault] at h
  · simp [hfault] at h
  · simp [hfault] at h
  · exact ⟨doFlushBufferLocked_fault hfault h, not_not.mp hconfig, not_not.mp hcheck⟩

/-- A buffer that was flushed cannot be flushed again. -/
theorem flushBuffer_passed {f : FlushArgs}
    (hok : (q.flushBuffer f.sequence f.bedata f.fence f.config f.env).1 = .ok) :
    checkFlushConfig f.config = .ok ∧ q.checkBufferQueueCacheLocked f.sequence = .ok ∧
      (q.flushBuffer f.sequence f.bedata f.fence f.config f.env).2.checkBufferQueueCacheLocked
        f.sequence ≠ .ok := by
  unfold flushBuffer at hok ⊢
  split_ifs at hok ⊢ with hvalid hconfig hcheck hlistener
  · exact absurd hok hconfig
  · exact absurd hok hcheck
  · exact ⟨not_not.mp hconfig, not_not.mp hcheck, doFlushBufferLocked_gone hok⟩

theorem flushBuffer_refused {f : FlushArgs} (hconfig : checkFlushConfig f.config ≠ .ok) :
    (q.flushBuffer f.sequence f.bedata f.fence f.config f.env).1 ≠ .ok :=
  fun hok => hconfig (flushBuffer_passed hok).1

theorem flushBuffer_spares {f : FlushArgs} (hk : q.checkBufferQueueCacheLocked k ≠ .ok)
    (hne : f.sequence ≠ k) :
    (q.flushBuffer f.sequence f.bedata f.fence f.config f.env).2.checkBufferQueueCacheLocked k ≠
      .ok := by
  rw [ne_eq, checkBufferQueueCacheLocked_ok] at hk ⊢
  rwa [flushBuffer_others f hne]

end BufferQueue

/-- `WriteFlushConfig` does not reject the configuration for its size. -/
def BufferFlushConfigWithDamages.FitsParcel (config : BufferFlushConfigWithDamages) : Prop :=
  UInt32.ofNat config.damages.length ≤ surfaceParcelSizeLimit

namespace FlushVectors

variable {v : FlushVectors} {env : ℕ → FlushEnv}

def HasExtraData (v : FlushVectors) (i : ℕ) : Prop := ∃ d, v.bedata[i]? = some (some d)

/-- What the surface makes sure of. -/
structure Sized (v : FlushVectors) : Prop where
  bedata : v.bedata.length = v.sequences.length
  fences : v.fences.length = v.sequences.length

/-- The batch has a configuration for each buffer, or starts with one that no queue takes; a client
finds what it needs up to the first configuration that is too large to be sent; and a queue finds
extra data up to the first configuration that it does not take or the first buffer that the batch
has named before. -/
structure Proper (v : FlushVectors) : Prop where
  lengths : v.configs.length = v.sequences.length ∨
    ∃ config ∈ v.configs.head?, BufferQueue.checkFlushConfig config ≠ .ok
  written : ∀ i < v.sequences.length, (∀ config ∈ v.configs.take i, config.FitsParcel) →
    i < v.configs.length ∧ v.HasExtraData i
  flushed : ∀ i < v.sequences.length,
    (∀ config ∈ v.configs.take (i + 1), BufferQueue.checkFlushConfig config = .ok) →
      (v.sequences.take (i + 1)).Nodup → v.HasExtraData i

/-- What `i` flushes that went well leave. -/
structure Passed (v : FlushVectors) (i : ℕ) (q : BufferQueue) : Prop where
  fault : q.fault = false
  configs : ∀ config ∈ v.configs.take i, BufferQueue.checkFlushConfig config = .ok
  nodup : (v.sequences.take i).Nodup
  gone : ∀ k ∈ v.sequences.take i, q.checkBufferQueueCacheLocked k ≠ .ok

theorem Passed.start {q : BufferQueue} (hfault : q.fault = false) : v.Passed 0 q where
  fault := hfault
  configs := by simp
  nodup := by simp
  gone := by simp

theorem take_succ_of_getElem? {α : Type} {xs : List α} {i : ℕ} {x : α} (h : xs[i]? = some x) :
    xs.take (i + 1) = xs.take i ++ [x] := by
  rw [List.take_add_one, h, Option.toList_some]

theorem args_eq_some {i : ℕ} {f : FlushArgs} : v.args env i = some f ↔
    v.sequences[i]? = some f.sequence ∧ v.bedata[i]? = some f.bedata ∧
      v.fences[i]? = some f.fence ∧ v.configs[i]? = some f.config ∧ f.env = env i := by
  unfold args
  constructor
  · intro h
    simp only [Option.bind_eq_bind, Option.bind_eq_some_iff] at h
    obtain ⟨sequence, hsequence, bedata, hbedata, fence, hfence, config, hconfig, hf⟩ := h
    obtain rfl := Option.some.inj hf
    exact ⟨hsequence, hbedata, hfence, hconfig, rfl⟩
  · rintro ⟨hsequence, hbedata, hfence, hconfig, henv⟩
    simp [hsequence, hbedata, hfence, hconfig, ← henv]

theorem Proper.config_lt (h : v.Proper) {i : ℕ} (hi : i < v.sequences.length)
    (hpassed : ∀ config ∈ v.configs.take i, BufferQueue.checkFlushConfig config = .ok) :
    i < v.configs.length := by
  rcases h.lengths with hlength | ⟨config, hhead, hconfig⟩
  · rwa [hlength]
  · cases hconfigs : v.configs with
    | nil => simp [hconfigs] at hhead
    | cons first rest =>
      cases i with
      | zero => exact Nat.succ_pos _
      | succ i =>
        obtain rfl : first = config := by simpa [hconfigs] using hhead
        exact absurd (hpassed first (by simp [hconfigs])) hconfig

theorem exists_args (env : ℕ → FlushEnv) (hsized : v.Sized) (hproper : v.Proper) {i : ℕ}
    (hi : i < v.sequences.length) {q : BufferQueue} (hpassed : v.Passed i q) : ∃ f, v.args env i = some f := by
  have hbedata : i < v.bedata.length := hsized.bedata ▸ hi
  have hfences : i < v.fences.length := hsized.fences ▸ hi
  have hconfigs := hproper.config_lt hi hpassed.configs
  refine ⟨⟨v.sequences[i], v.bedata[i], v.fences[i], v.configs[i], env i⟩, args_eq_some.mpr ?_⟩
  simp [hi, hbedata, hfences, hconfigs]

theorem Passed.step (hproper : v.Proper) {i : ℕ} (hi : i < v.sequences.length) {q : BufferQueue}
    (hpassed : v.Passed i q) {f : FlushArgs} (hf : v.args env i = some f) :
    (q.flushBuffer f.sequence f.bedata f.fence f.config f.env).2.fault = false ∧
      ((q.flushBuffer f.sequence f.bedata f.fence f.config f.env).1 = .ok →
        v.Passed (i + 1) (q.flushBuffer f.sequence f.bedata f.fence f.config f.env).2) := by
  obtain ⟨hsequence, hbedata, -, hconfig, -⟩ := args_eq_some.mp hf
  have hsequences := take_succ_of_getElem? hsequence
  have hconfigs := take_succ_of_getElem? hconfig
  have hnew (hcheck : q.checkBufferQueueCacheLocked f.sequence = .ok) :
      (v.sequences.take (i + 1)).Nodup := by
    rw [hsequences]
    exact List.nodup_append.mpr ⟨hpassed.nodup, List.nodup_singleton _, fun k hk j hj heq =>
      hpassed.gone k hk ((heq.trans (List.mem_singleton.mp hj)) ▸ hcheck)⟩
  have hchecked (hok : BufferQueue.checkFlushConfig f.config = .ok) :
      ∀ config ∈ v.configs.take (i + 1), BufferQueue.checkFlushConfig config = .ok := by
    rw [hconfigs]
    exact List.forall_mem_append.mpr ⟨hpassed.configs, List.forall_mem_singleton.mpr hok⟩
  have hfault : (q.flushBuffer f.sequence f.bedata f.fence f.config f.env).2.fault = false := by
    rw [← Bool.not_eq_true]
    intro hend
    obtain ⟨hnone, hok, hcheck⟩ := BufferQueue.flushBuffer_fault hpassed.fault hend
    obtain ⟨d, hd⟩ := hproper.flushed i hi (hchecked hok) (hnew hcheck)
    rw [hbedata, hnone] at hd
    cases hd
  refine ⟨hfault, fun hret => ?_⟩
  obtain ⟨hok, hcheck, hgone⟩ := BufferQueue.flushBuffer_passed hret
  refine ⟨hfault, hchecked hok, hnew hcheck, fun k hk => ?_⟩
  by_cases hne : f.sequence = k
  · exact hne ▸ hgone
  · rw [hsequences, List.mem_append, List.mem_singleton] at hk
    exact BufferQueue.flushBuffer_spares
      (hpassed.gone k (hk.resolve_right fun h => hne h.symm)) hne

theorem flushFrom_returns (env : ℕ → FlushEnv) (hsized : v.Sized) (hproper : v.Proper) {left i : ℕ}
    (hleft : i + left = v.sequences.length) {q : BufferQueue} (hpassed : v.Passed i q) :
    ∃ ret, (v.flushFrom env left i q).1 = .ok ret := by
  induction left generalizing i q with
  | zero => exact ⟨.ok, rfl⟩
  | succ left ih =>
    have hi : i < v.sequences.length := by omega
    obtain ⟨f, hf⟩ := exists_args env hsized hproper hi hpassed
    obtain ⟨hfault, hstep⟩ := hpassed.step hproper hi hf
    unfold flushFrom
    rw [hf]
    dsimp only
    rw [if_neg (by simp [hfault])]
    split
    · exact ⟨_, rfl⟩
    · rename_i hret
      exact ih (by omega) (hstep (not_not.mp hret))

theorem flushFrom_eq_flushBuffers {fs : List FlushArgs} {i : ℕ}
    (hfs : ∀ j (hj : j < fs.length), v.args env (i + j) = some fs[j]) {q : BufferQueue}
    (hend : (q.flushBuffers fs).2.fault = false) :
    (v.flushFrom env fs.length i q).1 = .ok (q.flushBuffers fs).1 ∧
      (v.flushFrom env fs.length i q).2.2 = (q.flushBuffers fs).2 := by
  induction fs generalizing i q with
  | nil => exact ⟨rfl, rfl⟩
  | cons f fs ih =>
    have hf : v.args env i = some f := hfs 0 (Nat.succ_pos _)
    have hrest (j : ℕ) (hj : j < fs.length) : v.args env (i + 1 + j) = some fs[j] := by
      have hnext := hfs (j + 1) (Nat.succ_lt_succ hj)
      rwa [show i + (j + 1) = i + 1 + j by omega] at hnext
    rw [List.length_cons]
    unfold BufferQueue.flushBuffers at hend ⊢
    unfold flushFrom
    rw [hf]
    dsimp only at hend ⊢
    have hone : (q.flushBuffer f.sequence f.bedata f.fence f.config f.env).2.fault = false := by
      by_contra hfault
      rw [Bool.not_eq_false] at hfault
      split at hend
      · simp [hfault] at hend
      · simp [BufferQueue.fault_flushBuffers_of_fault hfault] at hend
    rw [if_neg (by simp [hone])]
    split
    · exact ⟨rfl, rfl⟩
    · rename_i hret
      rw [if_neg hret] at hend
      exact ih hrest hend

theorem flushFrom_of_refused {n : ℕ} {q : BufferQueue} (hfault : q.fault = false) {f : FlushArgs}
    (hf : v.args env 0 = some f) (hconfig : BufferQueue.checkFlushConfig f.config ≠ .ok) :
    ∃ ret, ret ≠ .ok ∧ (v.flushFrom env (n + 1) 0 q).1 = .ok ret ∧
      (v.flushFrom env (n + 1) 0 q).2.1 = 0 := by
  have hret := BufferQueue.flushBuffer_refused (q := q) hconfig
  have hsafe : (q.flushBuffer f.sequence f.bedata f.fence f.config f.env).2.fault = false := by
    rw [← Bool.not_eq_true]
    exact fun hend => hconfig (BufferQueue.flushBuffer_fault hfault hend).2.1
  refine ⟨_, hret, ?_⟩
  unfold flushFrom
  rw [hf]
  dsimp only
  rw [if_neg (by simp [hsafe]), if_pos hret]
  exact ⟨rfl, rfl⟩

end FlushVectors

/-! What a batch finds whose buffers the producer has all been given. -/

namespace BufferQueue

/-- The producer has these buffers, and nothing but their arguments can fail a flush. -/
structure Ready (q : BufferQueue) (ks : List ℕ) : Prop where
  fault : q.fault = false
  valid : q.isValidStatus = true
  listener : q.listenerRegistered = true
  held : ∀ k ∈ ks, ∃ e, q.bufferQueueCache.find k = some e ∧ e.state = .requested ∧
    e.isDeleting = false

variable {q : BufferQueue} {ks : List ℕ} {k : ℕ}

theorem Ready.flushBuffer_eq (h : q.Ready ks) {f : FlushArgs} (hk : f.sequence ∈ ks)
    (hconfig : checkFlushConfig f.config = .ok) :
    q.flushBuffer f.sequence f.bedata f.fence f.config f.env =
      q.doFlushBufferLocked f.sequence f.bedata f.fence f.config f.env := by
  obtain ⟨e, he, hs, -⟩ := h.held _ hk
  have hcheck : q.checkBufferQueueCacheLocked f.sequence = .ok := by
    rw [checkBufferQueueCacheLocked_ok]
    simp [stateOf, he, hs]
  unfold flushBuffer
  rw [if_neg (by simp [h.valid]), if_neg (not_not.mpr hconfig), if_neg (not_not.mpr hcheck),
    if_neg (by simp [h.listener])]

theorem Ready.flush (h : q.Ready (k :: ks)) (hk : k ∉ ks) {f : FlushArgs} (hsequence : f.sequence = k)
    (hconfig : checkFlushConfig f.config = .ok) {d : ExtraData} (hbedata : f.bedata = some d)
    (henv : f.env.flushCache = .ok) :
    (q.flushBuffer f.sequence f.bedata f.fence f.config f.env).1 = .ok ∧
      (q.flushBuffer f.sequence f.bedata f.fence f.config f.env).2.Ready ks := by
  obtain ⟨e, he, -, hdeleting⟩ := h.held k List.mem_cons_self
  have hflush : q.flushBuffer f.sequence f.bedata f.fence f.config f.env =
      (.ok, (q.prepareFlush k d).commitFlush k f.fence f.config f.env.now) := by
    rw [h.flushBuffer_eq (by simp [hsequence]) hconfig, hsequence]
    unfold doFlushBufferLocked
    rw [he, hbedata]
    dsimp only
    rw [hdeleting, if_neg Bool.false_ne_true, if_neg fun hcache => hcache.2 henv]
  rw [hflush]
  refine ⟨rfl, h.fault, h.valid, h.listener, fun j hj => ?_⟩
  have hne : k ≠ j := fun heq => hk (heq ▸ hj)
  obtain ⟨e', he', hs', hdeleting'⟩ := h.held j (List.mem_cons_of_mem k hj)
  exact ⟨e', by simp [commitFlush, prepareFlush, hne, he'], hs', hdeleting'⟩

theorem Ready.flush_null (h : q.Ready (k :: ks)) {f : FlushArgs} (hsequence : f.sequence = k)
    (hconfig : checkFlushConfig f.config = .ok) (hbedata : f.bedata = none) :
    (q.flushBuffer f.sequence f.bedata f.fence f.config f.env).2.fault = true := by
  obtain ⟨e, he, -, hdeleting⟩ := h.held k List.mem_cons_self
  rw [h.flushBuffer_eq (by simp [hsequence]) hconfig, hsequence]
  unfold doFlushBufferLocked
  rw [he, hbedata]
  dsimp only
  rw [hdeleting, if_neg Bool.false_ne_true]

theorem exists_ready {ks : List ℕ} (hnodup : ks.Nodup) (hmax : ks.length ≤ surfaceMaxQueueSize) :
    ∃ q : BufferQueue, Reachable q ∧ q.Ready ks ∧ q.bufferQueueSize = surfaceMaxQueueSize ∧
      q.getUsedSize = ks.length ∧ ∀ k, k ∉ ks → q.bufferQueueCache.find k = none := by
  induction ks with
  | nil =>
    exact ⟨.start { listener := true, bufferQueueSize := surfaceMaxQueueSize }, ⟨_, [], .nil⟩,
      ⟨rfl, rfl, rfl, fun k hk => absurd hk List.not_mem_nil⟩, rfl, BufferCache.size_empty,
      fun k _ => BufferCache.find_empty k⟩
  | cons k ks ih =>
    obtain ⟨hk, hks⟩ := List.nodup_cons.mp hnodup
    rw [List.length_cons] at hmax
    obtain ⟨q, ⟨s, ops, run⟩, hready, hsize, hused, hnone⟩ := ih hks (by omega)
    have hattach : Op.next q (.attachBufferToQueue (sampleBuffer k) .producerInvoker) =
        { q with bufferQueueCache := q.bufferQueueCache.put (.init (q.attachedBuffer (sampleBuffer k))
          .requested (sampleBuffer k).bufferRequestConfig (some invalidFence)) } := by
      change (q.attachBufferToQueueLocked (sampleBuffer k) .producerInvoker).2 = _
      have hfind : ¬ (q.bufferQueueCache.find (sampleBuffer k).seqNum).isSome = true := by
        rw [show (sampleBuffer k).seqNum = k from rfl, hnone k hk]
        exact Bool.false_ne_true
      unfold attachBufferToQueueLocked
      rw [if_neg (fun h => nomatch h.1), if_neg (by omega), if_neg hfind]
    have hstep : QueueStep q (.attachBufferToQueue (sampleBuffer k) .producerInvoker)
        (Op.next q (.attachBufferToQueue (sampleBuffer k) .producerInvoker)) :=
      ⟨trivial, rfl, by rw [hattach]; exact hready.fault⟩
    rw [hattach] at hstep
    refine ⟨_, ⟨s, _, run.snoc hstep⟩, ⟨hready.fault, hready.valid, hready.listener,
      fun j hj => ?_⟩, hsize, ?_, fun j hj => ?_⟩
    · by_cases hjk : k = j
      · exact ⟨_, (BufferCache.find_put _ _ j).trans (if_pos hjk), rfl, rfl⟩
      · obtain ⟨e, he, hs⟩ := hready.held j ((List.mem_cons.mp hj).resolve_left fun h => hjk h.symm)
        exact ⟨e, ((BufferCache.find_put _ _ j).trans (if_neg hjk)).trans he, hs⟩
    · have hfind : q.bufferQueueCache.find (q.attachedBuffer (sampleBuffer k)).seqNum = none :=
        hnone k hk
      unfold getUsedSize at hused ⊢
      rw [BufferCache.size_put, List.length_cons, ← hused]
      exact if_neg (by simp [BufferElement.init, hfind])
    · rw [List.mem_cons, not_or] at hj
      exact ((BufferCache.find_put _ _ j).trans (if_neg fun h => hj.1 h.symm)).trans (hnone j hj.2)

end BufferQueue

namespace FlushVectors

variable {v : FlushVectors}

/-- `FlushCache` succeeds, and the clock stands still. -/
def calmEnv (_ : ℕ) : FlushEnv := ⟨.ok, 0⟩

theorem flushFrom_le {env : ℕ → FlushEnv} (left i : ℕ) (q : BufferQueue) :
    i ≤ (v.flushFrom env left i q).2.1 := by
  induction left generalizing i q with
  | zero => exact Nat.le_refl i
  | succ left ih =>
    unfold flushFrom
    split
    · exact Nat.le_refl i
    · dsimp only
      split
      · exact Nat.le_refl i
      · split
        · exact Nat.le_refl i
        · exact (Nat.le_succ i).trans (ih (i + 1) _)

theorem ready_drop {i j : ℕ} (hij : i ≤ j) {sequence : ℕ}
    (hsequence : v.sequences[i]? = some sequence) :
    (v.sequences.take (j + 1)).drop i = sequence :: (v.sequences.take (j + 1)).drop (i + 1) := by
  obtain ⟨hi, hget⟩ := List.getElem?_eq_some_iff.mp hsequence
  rw [List.drop_eq_getElem_cons (by rw [List.length_take]; omega), List.getElem_take, hget]

theorem exists_calm_args (hsized : v.Sized) {i : ℕ} (hi : i < v.sequences.length)
    (hconfig : i < v.configs.length) :
    ∃ f, v.args calmEnv i = some f ∧ f.env = calmEnv i ∧ f.config ∈ v.configs.take (i + 1) := by
  have hbedata : i < v.bedata.length := hsized.bedata ▸ hi
  have hfences : i < v.fences.length := hsized.fences ▸ hi
  refine ⟨⟨v.sequences[i], v.bedata[i], v.fences[i], v.configs[i], calmEnv i⟩, ?_, rfl, ?_⟩
  · exact args_eq_some.mpr (by simp [hi, hbedata, hfences, hconfig])
  · rw [take_succ_of_getElem? (List.getElem?_eq_getElem hconfig)]
    exact List.mem_append_right _ (List.mem_singleton.mpr rfl)

/-- The loop gets to the null pointer at `j`, or to one before. -/
theorem flushFrom_null (hsized : v.Sized) {j : ℕ} (hj : j < v.sequences.length)
    (hconfig : j < v.configs.length)
    (hchecked : ∀ config ∈ v.configs.take (j + 1), BufferQueue.checkFlushConfig config = .ok)
    (hnodup : (v.sequences.take (j + 1)).Nodup) (hnull : ¬ v.HasExtraData j) {left i : ℕ}
    (hij : i ≤ j) (hleft : j < i + left) {q : BufferQueue}
    (hready : q.Ready ((v.sequences.take (j + 1)).drop i)) :
    (v.flushFrom calmEnv left i q).1 = .error .nullPointer := by
  induction left generalizing i q with
  | zero => omega
  | succ left ih =>
    obtain ⟨f, hf, henv, hmem⟩ := exists_calm_args hsized (i := i) (by omega) (by omega)
    obtain ⟨hsequence, hbedata, -⟩ := args_eq_some.mp hf
    have hok : BufferQueue.checkFlushConfig f.config = .ok :=
      hchecked f.config (List.take_subset_take_left v.configs (by omega) hmem)
    have hdrop := ready_drop hij hsequence
    rw [hdrop] at hready
    unfold flushFrom
    rw [hf]
    dsimp only
    cases hb : f.bedata with
    | none =>
      rw [← hb, if_pos (hready.flush_null rfl hok hb)]
    | some d =>
      have hne : i ≠ j := by
        rintro rfl
        exact hnull ⟨d, hb ▸ hbedata⟩
      have hnot : f.sequence ∉ (v.sequences.take (j + 1)).drop (i + 1) := by
        have hsub := hnodup.sublist (List.drop_sublist i _)
        rw [hdrop] at hsub
        exact (List.nodup_cons.mp hsub).1
      obtain ⟨hret, hready'⟩ := hready.flush hnot rfl hok hb (by rw [henv]; rfl)
      rw [← hb, if_neg (by simp [hready'.fault]), if_neg (not_not.mpr hret)]
      exact ih (by omega) (by omega) hready'

theorem flushFrom_mismatched (hsized : v.Sized) {n : ℕ} (hn : v.sequences.length = n + 1)
    (hhead : ∀ config ∈ v.configs.head?, BufferQueue.checkFlushConfig config = .ok)
    {q : BufferQueue} (hready : q.Ready (v.sequences.take 1)) {ret : GSError}
    (hret : (v.flushFrom calmEnv (n + 1) 0 q).1 = .ok ret) :
    0 < (v.flushFrom calmEnv (n + 1) 0 q).2.1 := by
  by_cases hconfig : 0 < v.configs.length
  · obtain ⟨f, hf, henv, hmem⟩ := exists_calm_args hsized (i := 0) (by omega) hconfig
    obtain ⟨hsequence, hbedata, -, hget, -⟩ := args_eq_some.mp hf
    have hok : BufferQueue.checkFlushConfig f.config = .ok :=
      hhead f.config (by rw [List.head?_eq_getElem?, hget]; rfl)
    have hone := ready_drop (Nat.le_refl 0) hsequence
    rw [List.drop_zero] at hone
    rw [hone] at hready
    unfold flushFrom at hret ⊢
    rw [hf] at hret ⊢
    dsimp only at hret ⊢
    cases hb : f.bedata with
    | none =>
      rw [if_pos (hready.flush_null rfl hok hb)] at hret
      cases hret
    | some d =>
      have hnot : f.sequence ∉ (v.sequences.take 1).drop 1 := by simp
      obtain ⟨hdone, hready'⟩ := hready.flush hnot rfl hok hb (by rw [henv]; rfl)
      rw [← hb, if_neg (by simp [hready'.fault]), if_neg (not_not.mpr hdone)]
      exact flushFrom_le n 1 _
  · have hnil : v.configs = [] := by simpa using hconfig
    have hargs : v.args calmEnv 0 = none := by
      cases hcase : v.args calmEnv 0 with
      | none => rfl
      | some f =>
        obtain ⟨-, -, -, hget, -⟩ := args_eq_some.mp hcase
        simp [hnil] at hget
    unfold flushFrom at hret
    rw [hargs] at hret
    cases hret

end FlushVectors

theorem BufferQueueProducer.flushVectors_of_connected {s : BufferQueueProducer}
    (h : s.isDisconnectStrictly = false) (v : FlushVectors) (env : ℕ → FlushEnv) :
    s.flushVectors v env =
      ⟨(v.flushFrom env v.sequences.length 0 s.bufferQueue).1.map GSError.code,
        (v.flushFrom env v.sequences.length 0 s.bufferQueue).2.1,
        s.withQueue (v.flushFrom env v.sequences.length 0 s.bufferQueue).2.2⟩ := by
  unfold flushVectors
  rw [if_neg (by simp [h])]

namespace BufferQueueProducer

variable {v : FlushVectors} {s : BufferQueueProducer}

theorem flushVectors_returns (hsized : v.Sized) (hproper : v.Proper)
    (hfault : s.bufferQueue.fault = false) (env : ℕ → FlushEnv) :
    ∃ ret, (s.flushVectors v env).ret = .ok ret := by
  cases hstrict : s.isDisconnectStrictly with
  | true =>
    unfold flushVectors
    rw [if_pos hstrict]
    exact ⟨_, rfl⟩
  | false =>
    obtain ⟨ret, hret⟩ := FlushVectors.flushFrom_returns env hsized hproper (Nat.zero_add _)
      (FlushVectors.Passed.start hfault)
    rw [flushVectors_of_connected hstrict, hret]
    exact ⟨ret.code, rfl⟩

theorem flushVectors_refused (hsized : v.Sized) (hproper : v.Proper) (hpos : 0 < v.sequences.length)
    (hfault : s.bufferQueue.fault = false) {config : BufferFlushConfigWithDamages}
    (hhead : v.configs.head? = some config) (hrefused : BufferQueue.checkFlushConfig config ≠ .ok)
    (env : ℕ → FlushEnv) :
    ∃ ret, ret ≠ GSError.ok.code ∧ (s.flushVectors v env).ret = .ok ret ∧
      (s.flushVectors v env).flushed = 0 := by
  cases hstrict : s.isDisconnectStrictly with
  | true =>
    unfold flushVectors
    rw [if_pos hstrict]
    exact ⟨_, by decide, rfl, rfl⟩
  | false =>
    obtain ⟨f, hf⟩ := FlushVectors.exists_args env hsized hproper hpos
      (FlushVectors.Passed.start hfault)
    obtain ⟨-, -, -, hget, -⟩ := FlushVectors.args_eq_some.mp hf
    obtain rfl : f.config = config := by
      rw [List.head?_eq_getElem?, hget] at hhead
      exact Option.some.inj hhead
    obtain ⟨n, hn⟩ := Nat.exists_eq_succ_of_ne_zero hpos.ne'
    obtain ⟨ret, hne, hret, hflushed⟩ := FlushVectors.flushFrom_of_refused (n := n) hfault hf hrefused
    rw [flushVectors_of_connected hstrict, hn, Nat.succ_eq_add_one, hret]
    exact ⟨ret.code, GSError.code_eq_ok.not.mpr hne, rfl, hflushed⟩

end BufferQueueProducer

namespace FlushBatch

variable {b : FlushBatch} {v : FlushVectors}

theorem eq_map_of_mapM {α : Type} {xs : List (Option α)} {ys : List α} (h : xs.mapM id = some ys) :
    xs = ys.map some := by
  induction xs generalizing ys with
  | nil => simpa using h.symm
  | cons x xs ih =>
    simp only [List.mapM_cons, id, Option.pure_def, Option.bind_eq_bind, Option.bind_eq_some_iff] at h
    obtain ⟨y, rfl, rest, hrest, hys⟩ := h
    obtain rfl := Option.some.inj hys
    rw [ih hrest, List.map_cons]

/-- What the surface has made sure of when it calls its producer. -/
structure Passes (b : FlushBatch) (v : FlushVectors) : Prop extends v.Sized where
  configs : v.configs = b.configs
  buffers : v.sequences.length = b.buffers.length
  samefences : b.fences.length = b.buffers.length
  pos : 0 < v.sequences.length
  max : v.sequences.length ≤ surfaceMaxQueueSize
  made : ∀ d, some d ∈ v.bedata → ∃ sets, Runs.Run ExtraData.SetStep ∅ sets d

theorem passes_of_vectors (hv : b.vectors = some v) : b.Passes v := by
  unfold vectors at hv
  split at hv
  · cases hv
  · rename_i hchecks
    simp only [not_or, not_not, not_lt] at hchecks
    obtain ⟨hne, hfences, hmax⟩ := hchecks
    simp only [Option.bind_eq_bind, Option.bind_eq_some_iff] at hv
    obtain ⟨buffers, hbuffers, fences, hmapM, hv⟩ := hv
    obtain rfl := Option.some.inj hv
    have hall := eq_map_of_mapM hbuffers
    have hlength : buffers.length = b.buffers.length := by rw [hall, List.length_map]
    have hlength' : fences.length = b.fences.length := by rw [eq_map_of_mapM hmapM, List.length_map]
    refine ⟨⟨by simp, ?_⟩, rfl, by simp [hlength], hfences.symm, ?_, ?_, ?_⟩
    · rw [List.length_map, hlength', hlength, hfences]
    · rw [List.length_map, hlength]
      exact List.length_pos_iff.mpr hne
    · rw [List.length_map, hlength]
      exact hmax
    · intro d hd
      obtain ⟨buffer, hbuffer, hdata⟩ := List.mem_map.mp hd
      exact b.bedataMade buffer (hall ▸ List.mem_map_of_mem hbuffer) d hdata

theorem Passes.mismatched (h : b.Passes v) : b.Mismatched ↔ v.configs.length ≠ v.sequences.length := by
  unfold Mismatched
  rw [h.configs, h.buffers]
  exact or_iff_right fun hne => hne h.samefences

theorem right_of_code {ret : GSError} {s : BufferQueueProducer} (hret : ret ≠ .ok) :
    b.Right ⟨.ok ret.code, 0, s⟩ :=
  ⟨ret.code, rfl, fun _ => ⟨GSError.code_eq_ok.not.mpr hret, rfl⟩⟩

theorem Passes.right_flushVectors (h : b.Passes v) (hproper : v.Proper) {s : BufferQueueProducer}
    (hfault : s.bufferQueue.fault = false) (env : ℕ → FlushEnv) :
    b.Right (s.flushVectors v env) := by
  obtain ⟨ret, hret⟩ := BufferQueueProducer.flushVectors_returns h.toSized hproper hfault env
  refine ⟨ret, hret, fun hmismatched => ?_⟩
  obtain ⟨config, hhead, hrefused⟩ := hproper.lengths.resolve_left (h.mismatched.mp hmismatched)
  obtain ⟨ret', hne, hret', hflushed⟩ :=
    BufferQueueProducer.flushVectors_refused h.toSized hproper h.pos hfault hhead hrefused env
  obtain rfl : ret' = ret := Except.ok.inj (hret'.symm.trans hret)
  exact ⟨hne, hflushed⟩

/-- The batch is right for every local producer. -/
def LocallyRight (b : FlushBatch) : Prop :=
  ∀ (s : BufferQueueProducer) (env : ℕ → FlushEnv), Reachable s.bufferQueue →
    b.Right (b.flush (s.flushVectors · env) s)

theorem LocallyRight.flushFrom (hright : b.LocallyRight) (hv : b.vectors = some v) {q : BufferQueue}
    (hq : Reachable q) : ∃ ret,
      (v.flushFrom FlushVectors.calmEnv v.sequences.length 0 q).1 = .ok ret ∧
        (b.Mismatched → (v.flushFrom FlushVectors.calmEnv v.sequences.length 0 q).2.1 = 0) := by
  obtain ⟨code, hcode, hflushed⟩ := hright (.start q) FlushVectors.calmEnv hq
  unfold flush at hcode hflushed
  rw [hv] at hcode hflushed
  dsimp only at hcode hflushed
  rw [BufferQueueProducer.flushVectors_of_connected rfl] at hcode hflushed
  obtain ⟨ret, hret⟩ : ∃ ret,
      (v.flushFrom FlushVectors.calmEnv v.sequences.length 0 q).1 = .ok ret := by
    cases hrun : (v.flushFrom FlushVectors.calmEnv v.sequences.length 0 q).1 with
    | ok ret => exact ⟨ret, rfl⟩
    | error fault =>
      change (v.flushFrom FlushVectors.calmEnv v.sequences.length 0 q).1.map GSError.code = _ at hcode
      rw [hrun] at hcode
      cases hcode
  exact ⟨ret, hret, fun hmismatched => (hflushed hmismatched).2⟩

theorem LocallyRight.lengths (hright : b.LocallyRight) (hv : b.vectors = some v) :
    v.configs.length = v.sequences.length ∨
      ∃ config ∈ v.configs.head?, BufferQueue.checkFlushConfig config ≠ .ok := by
  have h := passes_of_vectors hv
  by_contra hwrong
  simp only [not_or, not_exists, not_and, not_not] at hwrong
  obtain ⟨n, hn⟩ := Nat.exists_eq_succ_of_ne_zero h.pos.ne'
  have hone : (v.sequences.take 1).length ≤ 1 := List.length_take_le _ _
  have hnodup : (v.sequences.take 1).Nodup := by cases v.sequences <;> simp
  obtain ⟨q, hq, hready, -⟩ := BufferQueue.exists_ready hnodup (hone.trans (by decide))
  obtain ⟨ret, hret, hflushed⟩ := hright.flushFrom hv hq
  rw [hn, Nat.succ_eq_add_one] at hret hflushed
  have hpos := FlushVectors.flushFrom_mismatched h.toSized hn hwrong.2 hready hret
  exact hpos.ne' (hflushed (h.mismatched.mpr hwrong.1))

theorem LocallyRight.flushed (hright : b.LocallyRight) (hv : b.vectors = some v) (i : ℕ)
    (hi : i < v.sequences.length)
    (hchecked : ∀ config ∈ v.configs.take (i + 1), BufferQueue.checkFlushConfig config = .ok)
    (hnodup : (v.sequences.take (i + 1)).Nodup) : v.HasExtraData i := by
  have h := passes_of_vectors hv
  by_contra hnull
  have hconfig : i < v.configs.length := by
    rcases hright.lengths hv with hlength | ⟨config, hhead, hrefused⟩
    · rwa [hlength]
    · refine absurd (hchecked config ?_) hrefused
      cases hconfigs : v.configs with
      | nil => simp [hconfigs] at hhead
      | cons first rest => simpa [hconfigs, eq_comm] using Or.inl hhead
  have hlength : (v.sequences.take (i + 1)).length ≤ surfaceMaxQueueSize :=
    (List.length_take_le' _ _).trans h.max
  obtain ⟨q, hq, hready, -⟩ := BufferQueue.exists_ready hnodup hlength
  obtain ⟨ret, hret, -⟩ := hright.flushFrom hv hq
  rw [FlushVectors.flushFrom_null h.toSized hi hconfig hchecked hnodup hnull (Nat.zero_le i)
    (by omega) (by rwa [List.drop_zero])] at hret
  cases hret

end FlushBatch

end GraphicSurface
