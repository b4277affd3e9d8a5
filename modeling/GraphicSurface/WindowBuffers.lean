import GraphicSurface.SurfaceCaches

/-! The buffers that a native window hands out. The window and its surface both keep objects by
number; the surface replaces its own when the queue sends another object, and the window keeps the
one that it wrapped first. -/

namespace GraphicSurface

open Runs

namespace BufferCache

theorem values_eq (m : Std.ExtTreeMap ℕ BufferElement) : m.values = m.toList.map (·.2) := by
  obtain ⟨⟨m⟩⟩ := m
  induction m using Quotient.ind with
  | _ m =>
    change m.inner.values = (Std.DTreeMap.Internal.Impl.Const.toList m.inner).map (·.2)
    rw [Std.DTreeMap.Internal.Impl.values_eq_map_snd,
      Std.DTreeMap.Internal.Impl.Const.toList_eq_toListModel_map, List.map_map]
    rfl

theorem mem_values {c : BufferCache} {k : ℕ} {e : BufferElement} (he : c.find k = some e) :
    e ∈ c.entries.values := by
  rw [values_eq]
  exact List.mem_map.mpr ⟨(k, e), Std.ExtTreeMap.mem_toList_iff_getElem?_eq_some.mpr he, rfl⟩

theorem length_values (c : BufferCache) : c.entries.values.length = c.size := by
  rw [values_eq, List.length_map, Std.ExtTreeMap.length_toList, size]

end BufferCache

/-- Objects with the numbers under which they come to a surface. -/
abbrev Arrivals := List (ℕ × BufferRef)

namespace ProducerSurface

/-- The object in the window's wrapper of this number. -/
def wrapper (s : ProducerSurface) (k : ℕ) : Option BufferRef := s.window.bind (·.lookup k)

/-- The surface has the object in the wrapper, if it has one of this number. -/
def WindowAgrees (s : ProducerSurface) : Prop :=
  ∀ k kept wrapped, s.bufferProducerCache.lookup k = some kept → s.wrapper k = some wrapped →
    wrapped = kept

/-- No arriving object meets a wrapper of its number around another one. -/
def Fits (s : ProducerSurface) (arrivals : Arrivals) : Prop :=
  ∀ p ∈ arrivals, ∀ wrapped ∈ s.wrapper p.1, wrapped = p.2

instance (s : ProducerSurface) (arrivals : Arrivals) : Decidable (s.Fits arrivals) :=
  inferInstanceAs (Decidable (∀ _ ∈ _, _))

/-- What the surface has afterwards it had before, or it has arrived; no wrapper is new, and there is a
window if there was one. -/
structure Receives (arrivals : Arrivals) (s s' : ProducerSurface) : Prop where
  cache : ∀ k kept, s'.bufferProducerCache.lookup k = some kept →
    s.bufferProducerCache.lookup k = some kept ∨ (k, kept) ∈ arrivals
  window : ∀ k wrapped, s'.wrapper k = some wrapped → s.wrapper k = some wrapped
  hasWindow : s'.window.isSome = s.window.isSome

namespace Receives

variable {arrivals arrivals' : Arrivals} {s s₁ s' : ProducerSurface}

theorem of_same (hcache : s'.bufferProducerCache = s.bufferProducerCache)
    (hwindow : s'.window = s.window) : Receives [] s s' where
  cache k kept hkept := .inl (by rwa [hcache] at hkept)
  window k wrapped hwrapped := by rwa [wrapper, hwindow] at hwrapped
  hasWindow := by rw [hwindow]

theorem refl (s : ProducerSurface) : Receives [] s s := of_same rfl rfl

theorem trans (h : Receives arrivals s s₁) (h' : Receives arrivals' s₁ s') :
    Receives (arrivals ++ arrivals') s s' where
  cache k kept hkept := by
    rcases h'.cache k kept hkept with hkept | harrives
    · exact (h.cache k kept hkept).imp_right (List.mem_append_left _)
    · exact .inr (List.mem_append_right _ harrives)
  window k wrapped hwrapped := h.window k wrapped (h'.window k wrapped hwrapped)
  hasWindow := h'.hasWindow.trans h.hasWindow

theorem quietly (h : Receives arrivals s s₁) (h' : Receives [] s₁ s') : Receives arrivals s s' := by
  have hboth := h.trans h'
  rwa [List.append_nil] at hboth

theorem of_empty (hcache : s'.bufferProducerCache = ∅)
    (hwindow : ∀ k wrapped, s'.wrapper k = some wrapped → s.wrapper k = some wrapped)
    (hhas : s'.window.isSome = s.window.isSome) : Receives [] s s' where
  cache k kept hkept := by
    rw [hcache, AList.lookup_empty] at hkept
    cases hkept
  window := hwindow
  hasWindow := hhas

theorem keep (s : ProducerSurface) (k : ℕ) (buffer : BufferRef) :
    Receives [(k, buffer)] s (s.keep k buffer) where
  cache j kept hkept := by
    by_cases hj : j = k
    · subst hj
      rw [ProducerSurface.keep, AList.lookup_insert] at hkept
      cases hkept
      exact .inr (List.mem_singleton.mpr rfl)
    · rw [ProducerSurface.keep, AList.lookup_insert_ne hj] at hkept
      exact .inl hkept
  window _ _ hwrapped := hwrapped
  hasWindow := rfl

theorem lookup_of_lookup_erase {m : ObjectMap} {j k : ℕ} {kept : BufferRef}
    (h : (m.erase j).lookup k = some kept) : m.lookup k = some kept := by
  by_cases hk : k = j
  · subst hk
    rw [AList.lookup_erase] at h
    cases h
  · rwa [AList.lookup_erase_ne hk] at h

theorem eraseBuffer (s : ProducerSurface) (seqNum : ℕ) : Receives [] s (s.eraseBuffer seqNum) where
  cache k kept hkept := .inl (lookup_of_lookup_erase hkept)
  window k wrapped hwrapped := by
    cases hwindow : s.window with
    | none =>
      simp [wrapper, ProducerSurface.eraseBuffer, hwindow] at hwrapped
    | some window =>
      simp only [wrapper, ProducerSurface.eraseBuffer, hwindow, Option.map_some,
        Option.bind_some] at hwrapped ⊢
      exact lookup_of_lookup_erase hwrapped
  hasWindow := Option.isSome_map

theorem deleteCacheBufferLocked (s : ProducerSurface) (deletingBuffers : List ℕ) :
    Receives [] s (s.deleteCacheBufferLocked deletingBuffers) := by
  unfold ProducerSurface.deleteCacheBufferLocked
  induction deletingBuffers generalizing s with
  | nil => exact .refl s
  | cons seqNum deletingBuffers ih => exact (eraseBuffer s seqNum).quietly (ih _)

theorem cleanAllLocked (s : ProducerSurface) : Receives [] s s.cleanAllLocked := by
  refine of_empty rfl (fun k wrapped hwrapped => ?_) Option.isSome_map
  cases hwindow : s.window <;> simp [wrapper, ProducerSurface.cleanAllLocked, hwindow] at hwrapped

theorem cleanCacheLocked (link : Link) (s : ProducerSurface) :
    Receives [] s (s.cleanCacheLocked link).2 := by
  rw [cleanCacheLocked_eq]
  refine Receives.quietly ?_ (cleanAllLocked _)
  split
  · exact of_same rfl rfl
  · exact refl s

theorem windowAgrees (h : Receives arrivals s s') (hagrees : s.WindowAgrees)
    (hfits : s.Fits arrivals) : s'.WindowAgrees := by
  intro k kept wrapped hkept hwrapped
  have hwrapped := h.window k wrapped hwrapped
  rcases h.cache k kept hkept with hkept | harrives
  · exact hagrees k kept wrapped hkept hwrapped
  · exact hfits _ harrives wrapped hwrapped

end Receives

/-! What arrives with a reply of the queue. -/

/-- The objects of a whole queue, the first one of which is the `n`-th to cross the link. -/
def syncArrivals (link : Link) (n : ℕ) : List BufferElement → Arrivals
  | [] => []
  | e :: es => (e.buffer.seqNum, link.toClient n e.buffer) :: syncArrivals link (n + 1) es

/-- The object in the reply, or every object of the queue when the surface does not know the number
and reads them all. -/
def arrivals (link : Link) (s : ProducerSurface) (retval : RequestBufferReturnValue) : Arrivals :=
  match retval.buffer with
  | some buffer => [(retval.sequence, link.toClient s.crossings buffer)]
  | none =>
    if (s.bufferProducerCache.lookup retval.sequence).isSome then []
    else
      let buffers := s.queue.bufferQueueCache.entries.values
      if link.reads buffers.length then syncArrivals link s.crossings buffers else []

/-- What arrives with the replies of a batch, one after the other. -/
def batchArrivals (link : Link) (s : ProducerSurface) : List RequestBufferReturnValue → Arrivals
  | [] => []
  | retval :: retvalues =>
    s.arrivals link retval ++ (s.addCacheLocked link retval).2.batchArrivals link retvalues

variable (link : Link) {s : ProducerSurface}

theorem receives_keepReceived (s : ProducerSurface) (buffers : List BufferElement) :
    Receives (syncArrivals link s.crossings buffers) s (buffers.foldl (keepReceived link) s) := by
  induction buffers generalizing s with
  | nil => exact .refl s
  | cons e buffers ih =>
    have hkeep := Receives.keep { s with crossings := s.crossings + 1 } e.buffer.seqNum
      (link.toClient s.crossings e.buffer)
    have hone : Receives [(e.buffer.seqNum, link.toClient s.crossings e.buffer)] s
        (s.keepReceived link e) := ⟨hkeep.cache, hkeep.window, hkeep.hasWindow⟩
    exact hone.trans (ih (s.keepReceived link e))

theorem receives_syncProducerCacheLocked (s : ProducerSurface) :
    Receives (if link.reads s.queue.bufferQueueCache.entries.values.length then
        syncArrivals link s.crossings s.queue.bufferQueueCache.entries.values else [])
      s (s.syncProducerCacheLocked link) := by
  unfold syncProducerCacheLocked
  dsimp only
  split
  · exact receives_keepReceived link s _
  · exact .refl s

theorem receives_addCacheLocked (s : ProducerSurface) (retval : RequestBufferReturnValue) :
    Receives (s.arrivals link retval) s (s.addCacheLocked link retval).2 := by
  unfold addCacheLocked arrivals
  cases retval.buffer with
  | some buffer =>
    have hkeep := Receives.keep { s with crossings := s.crossings + 1 } retval.sequence
      (link.toClient s.crossings buffer)
    exact Receives.quietly ⟨hkeep.cache, hkeep.window, hkeep.hasWindow⟩ (.deleteCacheBufferLocked _ _)
  | none =>
    dsimp only
    cases hcached : s.bufferProducerCache.lookup retval.sequence with
    | some buffer => exact .deleteCacheBufferLocked _ _
    | none => exact (receives_syncProducerCacheLocked link s).quietly (.deleteCacheBufferLocked _ _)

theorem receives_addCachesLocked (s : ProducerSurface) (retvalues : List RequestBufferReturnValue) :
    Receives (s.batchArrivals link retvalues) s (s.addCachesLocked link retvalues).2 := by
  induction retvalues generalizing s with
  | nil => exact .refl s
  | cons retval retvalues ih => exact (receives_addCacheLocked link s retval).trans (ih _)

theorem receives_updateCacheLocked (s : ProducerSurface) (retval : RequestBufferReturnValue) :
    Receives [] s (s.updateCacheLocked link retval).2 := by
  have herase (s : ProducerSurface) : Receives [] s
      { s with bufferProducerCache := s.bufferProducerCache.erase retval.sequence } :=
    ⟨fun _ _ hkept => .inl (Receives.lookup_of_lookup_erase hkept), fun _ _ hwrapped => hwrapped, rfl⟩
  unfold updateCacheLocked
  cases retval.buffer with
  | some buffer =>
    have hone := herase { s with crossings := s.crossings + 1 }
    exact Receives.quietly ⟨hone.cache, hone.window, hone.hasWindow⟩ (.deleteCacheBufferLocked _ _)
  | none =>
    dsimp only
    split
    · exact .deleteCacheBufferLocked _ _
    · exact (herase s).quietly (.deleteCacheBufferLocked _ _)

def requestArrivals (s : ProducerSurface) (config : BufferRequestConfig) (a : Allocation) :
    Arrivals :=
  let (reply, producer) := s.producer.requestBuffer link.callingPid config a
  if reply.ret ≠ .ok then []
  else { s with producer := producer, isDisconnected := false }.arrivals link reply.retval

def requestsArrivals (s : ProducerSurface) (config : BufferRequestConfig) (as : List Allocation) :
    Arrivals :=
  let (ret, retvalues, producer) := s.producer.requestBuffers link.callingPid config as
  if ret ≠ .noBuffer ∧ ret ≠ .ok then []
  else { s with producer := producer, isDisconnected := false }.batchArrivals link retvalues

theorem receives_requestFailed (s : ProducerSurface) (reply : RequestReply) :
    Receives [] s (s.requestFailed link reply).2 := by
  have hclean : Receives [] s (if reply.ret = .noConsumer then (s.cleanCacheLocked link).2 else s) := by
    split
    · exact .cleanCacheLocked link s
    · exact .refl s
  unfold requestFailed
  dsimp only
  split <;> exact ⟨hclean.cache, hclean.window, hclean.hasWindow⟩

theorem receives_requestBufferLocked (s : ProducerSurface) (config : BufferRequestConfig)
    (a : Allocation) :
    Receives (s.requestArrivals link config a) s (s.requestBufferLocked link config a).2 := by
  unfold requestBufferLocked requestArrivals
  dsimp only
  split
  · have hfailed := receives_requestFailed link
      { s with producer := (s.producer.requestBuffer link.callingPid config a).2 }
      (s.producer.requestBuffer link.callingPid config a).1
    exact ⟨hfailed.cache, hfailed.window, hfailed.hasWindow⟩
  · have hadd := receives_addCacheLocked link
      { s with
        producer := (s.producer.requestBuffer link.callingPid config a).2
        isDisconnected := false }
      (s.producer.requestBuffer link.callingPid config a).1.retval
    exact ⟨hadd.cache, hadd.window, hadd.hasWindow⟩

theorem receives_requestAndDetachBuffer (s : ProducerSurface) (config : BufferRequestConfig)
    (a : Allocation) : Receives [] s (s.requestAndDetachBuffer link config a).2 := by
  unfold requestAndDetachBuffer
  dsimp only
  split
  · have hfailed := receives_requestFailed link
      { s with producer := (s.producer.requestAndDetachBuffer link.callingPid config a).2 }
      (s.producer.requestAndDetachBuffer link.callingPid config a).1
    exact ⟨hfailed.cache, hfailed.window, hfailed.hasWindow⟩
  · have hupdate := receives_updateCacheLocked link
      { s with
        producer := (s.producer.requestAndDetachBuffer link.callingPid config a).2
        isDisconnected := false }
      (s.producer.requestAndDetachBuffer link.callingPid config a).1.retval
    exact ⟨hupdate.cache, hupdate.window, hupdate.hasWindow⟩

theorem receives_requestBuffers (s : ProducerSurface) (config : BufferRequestConfig)
    (as : ℕ → Allocation) :
    Receives (s.requestsArrivals link config ((List.range surfaceMaxQueueSize).map as)) s
      (s.requestBuffers link config as).2 := by
  unfold requestBuffers requestsArrivals
  generalize s.producer.requestBuffers link.callingPid config
    ((List.range surfaceMaxQueueSize).map as) = r
  obtain ⟨ret, retvalues, producer⟩ := r
  dsimp only
  split
  · dsimp only
    split <;> exact .of_same rfl rfl
  · have hadd := receives_addCachesLocked link
      { s with producer := producer, isDisconnected := false } retvalues
    exact ⟨hadd.cache, hadd.window, hadd.hasWindow⟩

theorem receives_cleanIf {s₁ : ProducerSurface} (h : Receives [] s s₁) (c : Prop) [Decidable c] :
    Receives [] s (if c then (s₁.cleanCacheLocked link).2 else s₁) := by
  split
  · exact h.quietly (.cleanCacheLocked link s₁)
  · exact h

theorem receives_flushBuffer (s : ProducerSurface) (f : FlushArgs) :
    Receives [] s (s.flushBuffer link f).2 := by
  unfold flushBuffer
  split
  · exact .refl s
  · refine receives_cleanIf link ?_ _
    exact .of_same rfl rfl

theorem receives_flushBuffers (s : ProducerSurface) (fs : List FlushArgs) :
    Receives [] s (s.flushBuffers link fs).2 := by
  unfold flushBuffers
  split
  · exact .refl s
  · refine receives_cleanIf link ?_ _
    exact .of_same rfl rfl

theorem receives_cancelBuffer (s : ProducerSurface) (sequence : ℕ) (bedata : Option ExtraData) :
    Receives [] s (s.cancelBuffer sequence bedata).2 := by
  unfold cancelBuffer
  split
  · exact .refl s
  · dsimp only
    split <;> exact .of_same rfl rfl

/-- The object of a buffer arrives when the call that attaches it succeeds and has it cached. -/
def attachArrivals (buffer : SurfaceBuffer) (accepted : Bool) : Arrivals :=
  if accepted then [(buffer.seqNum, buffer.ref)] else []

theorem receives_attachBufferToQueue (s : ProducerSurface) (buffer : SurfaceBuffer) :
    Receives (attachArrivals buffer ((s.attachBufferToQueue link buffer).1 = .ok)) s
      (s.attachBufferToQueue link buffer).2 := by
  unfold attachBufferToQueue
  dsimp only
  split_ifs with hret hcached
  · rw [decide_eq_false hret]
    exact .of_same rfl rfl
  · exact .of_same rfl rfl
  · have hkeep := Receives.keep s buffer.seqNum buffer.ref
    exact ⟨hkeep.cache, hkeep.window, hkeep.hasWindow⟩

theorem receives_detachBufferFromQueue (s : ProducerSurface) (buffer : SurfaceBuffer) :
    Receives [] s (s.detachBufferFromQueue buffer).2 := by
  unfold detachBufferFromQueue
  dsimp only
  split_ifs
  · exact .of_same rfl rfl
  · exact .of_same rfl rfl
  · exact ⟨fun _ _ hkept => .inl (Receives.lookup_of_lookup_erase hkept),
      fun _ _ hwrapped => hwrapped, rfl⟩

theorem receives_addAttachedLocked (s : ProducerSurface) (buffer : SurfaceBuffer) :
    Receives (attachArrivals buffer (s.bufferProducerCache.lookup buffer.seqNum).isNone) s
      (s.addAttachedLocked buffer.ref) := by
  unfold addAttachedLocked
  change Receives _ s (if (s.bufferProducerCache.lookup buffer.seqNum).isSome = true then _ else _)
  cases s.bufferProducerCache.lookup buffer.seqNum with
  | some kept => exact .refl s
  | none =>
    rw [if_neg (by simp)]
    split
    · have hempty : Receives [] s { s with bufferProducerCache := ∅ } :=
        .of_empty rfl (fun _ _ hwrapped => hwrapped) rfl
      exact hempty.trans (.keep { s with bufferProducerCache := ∅ } buffer.seqNum buffer.ref)
    · exact .keep s buffer.seqNum buffer.ref

theorem receives_attachBuffer (s : ProducerSurface) (buffer : SurfaceBuffer) (timeOut : Int) :
    Receives (attachArrivals buffer ((s.attachBuffer link buffer timeOut).1 = .ok &&
        (s.bufferProducerCache.lookup buffer.seqNum).isNone))
      s (s.attachBuffer link buffer timeOut).2 := by
  unfold attachBuffer
  dsimp only
  split
  · rename_i hret
    rw [decide_eq_true hret, Bool.true_and]
    have hadd := receives_addAttachedLocked ((s.send link buffer).2.withQueue
      ((s.send link buffer).2.queue.attachBuffer (s.send link buffer).1 timeOut).2) buffer
    exact ⟨hadd.cache, hadd.window, hadd.hasWindow⟩
  · rename_i hret
    rw [decide_eq_false hret, Bool.false_and]
    exact .of_same rfl rfl

theorem receives_attachAndFlushBuffer (s : ProducerSurface) (buffer : SurfaceBuffer)
    (bedata : Option ExtraData) (fence : SyncFence) (config : BufferFlushConfigWithDamages)
    (env : FlushEnv) :
    Receives (attachArrivals buffer
        ((s.attachAndFlushBuffer link buffer bedata fence config env).1 = .ok))
      s (s.attachAndFlushBuffer link buffer bedata fence config env).2 := by
  unfold attachAndFlushBuffer
  split
  · exact .refl s
  · dsimp only
    split_ifs with hret hcached hconsumer
    · exact .of_same rfl rfl
    · have hkeep := Receives.keep s buffer.seqNum buffer.ref
      exact ⟨hkeep.cache, hkeep.window, hkeep.hasWindow⟩
    · rw [decide_eq_false hret]
      refine Receives.quietly ?_ (.cleanCacheLocked link _)
      exact .of_same rfl rfl
    · rw [decide_eq_false hret]
      exact .of_same rfl rfl

theorem receives_goBackground (s : ProducerSurface) : Receives [] s (s.goBackground link).2 := by
  have hclean := Receives.cleanAllLocked s
  exact ⟨hclean.cache, hclean.window, hclean.hasWindow⟩

theorem receives_cleanReleasedBuffers (s : ProducerSurface) :
    Receives [] s (s.cleanReleasedBuffers link).2 := by
  unfold cleanReleasedBuffers
  dsimp only
  split
  · exact .of_same rfl rfl
  · have hdelete := Receives.deleteCacheBufferLocked
      { s with producer := (s.producer.cleanReleasedBuffers link.callingPid).2.2 }
      (s.producer.cleanReleasedBuffers link.callingPid).2.1
    exact ⟨hdelete.cache, hdelete.window, hdelete.hasWindow⟩

theorem receives_connect (s : ProducerSurface) : Receives [] s (s.connect link).2 := by
  unfold connect
  split
  · exact .refl s
  · dsimp only
    split <;> exact .of_same rfl rfl

theorem receives_disconnect (s : ProducerSurface) : Receives [] s (s.disconnect link).2 := by
  unfold disconnect
  split
  · exact .refl s
  · have hclean := Receives.cleanAllLocked s
    dsimp only
    split <;> exact ⟨hclean.cache, hclean.window, hclean.hasWindow⟩

def lockArrivals (s : ProducerSurface) (config : BufferRequestConfig) (a : Allocation) : Arrivals :=
  if s.mLockedBuffer.isSome then []
  else
    s.requestArrivals link
      { config with usage := config.usage ||| (bufferUsageCpuRead ||| bufferUsageCpuWrite) } a

theorem receives_lockRequested (s : ProducerSurface) (buffer : BufferRef) (fence : SyncFence)
    (region : Region) (env : LockEnv) :
    Receives [] s (s.lockRequested buffer fence region env).2 := by
  unfold lockRequested
  split
  · exact receives_cancelBuffer s _ _
  · have hcancel := receives_cancelBuffer (s.lock buffer region) buffer.seqNum env.bedata
    dsimp only
    split
    · dsimp only
      split <;> exact ⟨hcancel.cache, hcancel.window, hcancel.hasWindow⟩
    · exact .of_same rfl rfl

theorem receives_lockBuffer (s : ProducerSurface) (config : BufferRequestConfig) (region : Region)
    (env : LockEnv) : Receives (s.lockArrivals link config env.allocation) s
      (s.producerSurfaceLockBuffer link config region env).2 := by
  have hrequest := receives_requestBufferLocked link s
    { config with usage := config.usage ||| (bufferUsageCpuRead ||| bufferUsageCpuWrite) }
    env.allocation
  unfold producerSurfaceLockBuffer lockArrivals
  split
  · exact .refl s
  · dsimp only
    split
    · exact hrequest
    · split
      · exact hrequest.quietly (receives_lockRequested _ _ _ region env)
      · exact ⟨hrequest.cache, hrequest.window, hrequest.hasWindow⟩

theorem receives_unlock (s : ProducerSurface) (env : UnlockEnv) :
    Receives [] s (s.producerSurfaceUnlockAndFlushBuffer link env).2 := by
  unfold producerSurfaceUnlockAndFlushBuffer
  split
  · exact .refl s
  · rename_i buffer _
    have hflush := receives_flushBuffer link s ⟨buffer.seqNum, env.bedata, invalidFence,
      ⟨s.unlockDamages, env.timestamp, env.desiredPresentTimestamp⟩, env.flush⟩
    dsimp only
    split
    · exact hflush
    · exact ⟨hflush.cache, hflush.window, hflush.hasWindow⟩

/-! What a reply makes of the number that the queue has selected. -/

variable {link} {retval : RequestBufferReturnValue} {buffer : BufferRef}

theorem source_of_addCacheLocked (hbuffer : (s.addCacheLocked link retval).1 = some buffer) :
    s.bufferProducerCache.lookup retval.sequence = some buffer ∨
      (retval.sequence, buffer) ∈ s.arrivals link retval := by
  unfold addCacheLocked at hbuffer
  unfold arrivals
  cases hobject : retval.buffer with
  | some sent =>
    rw [hobject] at hbuffer
    obtain rfl : link.toClient s.crossings sent = buffer := Option.some.inj hbuffer
    exact .inr (List.mem_singleton.mpr rfl)
  | none =>
    rw [hobject] at hbuffer
    dsimp only at hbuffer ⊢
    cases hcached : s.bufferProducerCache.lookup retval.sequence with
    | some cached =>
      rw [hcached] at hbuffer
      exact .inl hbuffer
    | none =>
      rw [hcached] at hbuffer
      exact ((receives_syncProducerCacheLocked link s).cache _ _ hbuffer).imp_left
        fun hkept => hcached ▸ hkept

theorem handedOut_of_addCacheLocked {kept : BufferRef}
    (hkept : (s.addCacheLocked link retval).2.bufferProducerCache.lookup retval.sequence =
      some kept) : (s.addCacheLocked link retval).1 = some kept := by
  have hdelete (s : ProducerSurface) (hkept : (s.deleteCacheBufferLocked
      retval.deletingBuffers).bufferProducerCache.lookup retval.sequence = some kept) :
      s.bufferProducerCache.lookup retval.sequence = some kept :=
    ((Receives.deleteCacheBufferLocked s retval.deletingBuffers).cache _ _ hkept).resolve_right
      List.not_mem_nil
  unfold addCacheLocked at hkept ⊢
  cases hobject : retval.buffer with
  | some sent =>
    rw [hobject] at hkept
    have hkept := hdelete _ hkept
    rw [keep, AList.lookup_insert] at hkept
    exact hkept
  | none =>
    rw [hobject] at hkept
    dsimp only at hkept ⊢
    cases hcached : s.bufferProducerCache.lookup retval.sequence with
    | some cached =>
      rw [hcached] at hkept
      exact hcached.symm.trans (hdelete _ hkept)
    | none =>
      rw [hcached] at hkept
      exact hdelete _ hkept

variable (link) in
/-- The surface has no object for the reply: none is sent, none is cached, and the reply with all the
buffers of the queue is not read. -/
def LacksObject (s : ProducerSurface) (retval : RequestBufferReturnValue) : Prop :=
  retval.buffer = none ∧ s.bufferProducerCache.lookup retval.sequence = none ∧
    link.reads s.queue.bufferQueueCache.entries.values.length = false

theorem isSome_keepReceived (s : ProducerSurface) (buffers : List BufferElement) {k : ℕ}
    (h : (s.bufferProducerCache.lookup k).isSome ∨ ∃ e ∈ buffers, e.buffer.seqNum = k) :
    ((buffers.foldl (keepReceived link) s).bufferProducerCache.lookup k).isSome := by
  induction buffers generalizing s with
  | nil => simpa using h
  | cons e buffers ih =>
    refine ih _ ?_
    unfold keepReceived receive keep
    dsimp only
    by_cases hk : k = e.buffer.seqNum
    · subst hk
      exact .inl (by rw [AList.lookup_insert]; rfl)
    · rw [AList.lookup_insert_ne hk]
      refine h.imp_right ?_
      rintro ⟨e', he', hseqNum⟩
      rcases List.mem_cons.mp he' with rfl | he'
      · exact absurd hseqNum.symm hk
      · exact ⟨e', he', hseqNum⟩

theorem isSome_addCacheLocked (hmarked : ∃ e, s.queue.bufferQueueCache.find retval.sequence = some e)
    (h : ¬ s.LacksObject link retval) : (s.addCacheLocked link retval).1.isSome := by
  unfold addCacheLocked
  cases hobject : retval.buffer with
  | some sent => rfl
  | none =>
    dsimp only
    cases hcached : s.bufferProducerCache.lookup retval.sequence with
    | some cached => rfl
    | none =>
      obtain ⟨e, he⟩ := hmarked
      have hreads : link.reads s.queue.bufferQueueCache.entries.values.length = true := by
        by_contra hreads
        exact h ⟨hobject, hcached, by simpa using hreads⟩
      dsimp only
      unfold syncProducerCacheLocked
      dsimp only
      rw [if_pos hreads]
      exact isSome_keepReceived s _
        (.inr ⟨e, BufferCache.mem_values he, BufferCache.seqNum_of_find he⟩)

variable (link) in
/-- The request is answered, and the surface has no object for it. -/
def RequestLacksObject (s : ProducerSurface) (config : BufferRequestConfig) (a : Allocation) : Prop :=
  (s.producer.requestBuffer link.callingPid config a).1.ret = .ok ∧
    { s with
      producer := (s.producer.requestBuffer link.callingPid config a).2
      isDisconnected := false }.LacksObject link
        (s.producer.requestBuffer link.callingPid config a).1.retval

/-- The answer to a request, seen from the state before it. -/
structure Answered (s s' : ProducerSurface) (buffer : BufferRef) (arrivals : Arrivals) : Prop where
  source : s.bufferProducerCache.lookup buffer.seqNum = some buffer ∨
    (buffer.seqNum, buffer) ∈ arrivals
  kept : ∀ kept, s'.bufferProducerCache.lookup buffer.seqNum = some kept → kept = buffer

theorem answered_requestBufferLocked (hkeyed : s.Keyed) {config : BufferRequestConfig}
    {a : Allocation} (hret : (s.requestBufferLocked link config a).1.ret = .ok)
    (hlacks : ¬ s.RequestLacksObject link config a) :
    ∃ buffer, (s.requestBufferLocked link config a).1.buffers = [some buffer] ∧
      Answered s (s.requestBufferLocked link config a).2 buffer (s.requestArrivals link config a) := by
  have hsound := s.producer.requestBuffer_sound link.callingPid config a
  unfold requestBufferLocked requestArrivals at *
  unfold RequestLacksObject at hlacks
  dsimp only at hret hlacks ⊢
  by_cases hok : (s.producer.requestBuffer link.callingPid config a).1.ret ≠ .ok
  · rw [if_pos hok] at hret
    exact absurd hret hok
  · have hok := not_not.mp hok
    rw [if_neg (not_not.mpr hok), if_neg (not_not.mpr hok)]
    obtain ⟨e, he, -⟩ := hsound.marked hok
    obtain ⟨buffer, hbuffer⟩ := Option.isSome_iff_exists.mp
      (isSome_addCacheLocked (s := { s with
        producer := (s.producer.requestBuffer link.callingPid config a).2
        isDisconnected := false }) ⟨e, he⟩ fun h => hlacks ⟨hok, h⟩)
    have hkeyed' : { s with
        producer := (s.producer.requestBuffer link.callingPid config a).2
        isDisconnected := false }.Keyed := hkeyed.of_cache rfl
    have hseqNum := seqNum_of_addCacheLocked hkeyed' (hsound.object hok) hbuffer
    refine ⟨buffer, by rw [hbuffer], ?_, fun kept hkept => ?_⟩
    · have hsource := source_of_addCacheLocked hbuffer
      rwa [← hseqNum] at hsource
    · rw [hseqNum] at hkept
      exact (Option.some.inj (hbuffer.symm.trans (handedOut_of_addCacheLocked hkept))).symm

/-- The two caches have objects with their numbers, and the same ones. -/
structure WindowInv (s : ProducerSurface) : Prop where
  keyed : s.Keyed
  agrees : s.WindowAgrees
  hasWindow : s.window.isSome

theorem Receives.windowInv {arrivals : Arrivals} {s s' : ProducerSurface}
    (h : Receives arrivals s s') (hs : s.WindowInv) (hkeyed : s'.Keyed) (hfits : s.Fits arrivals) :
    s'.WindowInv :=
  ⟨hkeyed, h.windowAgrees hs.agrees hfits, h.hasWindow.trans hs.hasWindow⟩

theorem Answered.wrapped_eq {s s' : ProducerSurface} {buffer wrapped : BufferRef}
    {arrivals : Arrivals} (h : Answered s s' buffer arrivals) (hreceives : Receives arrivals s s')
    (hagrees : s.WindowAgrees) (hfits : s.Fits arrivals)
    (hwrapped : s'.wrapper buffer.seqNum = some wrapped) : wrapped = buffer := by
  have hwrapped := hreceives.window _ _ hwrapped
  rcases h.source with hcached | harrives
  · exact hagrees _ _ _ hcached hwrapped
  · exact hfits _ harrives wrapped hwrapped

theorem nativeWindowAddToCache_eq {window : ObjectMap} (hwindow : s.window = some window)
    (hwrapped : ∀ wrapped, s.wrapper buffer.seqNum = some wrapped → wrapped = buffer) :
    (s.nativeWindowAddToCache window buffer).1 = buffer ∧
      ((s.nativeWindowAddToCache window buffer).2 = s ∨
        (s.nativeWindowAddToCache window buffer).2 =
          { s with window := some (window.insert buffer.seqNum buffer) }) := by
  unfold nativeWindowAddToCache
  cases hlookup : window.lookup buffer.seqNum with
  | some wrapped =>
    refine ⟨hwrapped wrapped ?_, .inl rfl⟩
    rw [wrapper, hwindow]
    exact hlookup
  | none => exact ⟨rfl, .inr rfl⟩

theorem WindowAgrees.insert (h : s.WindowAgrees) {window : ObjectMap}
    (hwindow : s.window = some window)
    (hkept : ∀ kept, s.bufferProducerCache.lookup buffer.seqNum = some kept → kept = buffer) :
    { s with window := some (window.insert buffer.seqNum buffer) }.WindowAgrees := by
  intro k kept wrapped hcached hwrapped
  change (window.insert buffer.seqNum buffer).lookup k = some wrapped at hwrapped
  by_cases hk : k = buffer.seqNum
  · subst hk
    rw [AList.lookup_insert] at hwrapped
    cases hwrapped
    exact (hkept kept hcached).symm
  · rw [AList.lookup_insert_ne hk] at hwrapped
    refine h k kept wrapped hcached ?_
    rw [wrapper, hwindow]
    exact hwrapped

def sized (gameUpscaleProcessor : Int × Int → Int × Int) (config : BufferRequestConfig) :
    BufferRequestConfig :=
  let (width, height) := gameUpscaleProcessor (config.width, config.height)
  { config with width := width, height := height }

section NativeRequest

variable {gameUpscaleProcessor : Int × Int → Int × Int} {config : BufferRequestConfig}
  {a : Allocation}

theorem nativeWindowRequestBuffer_of_error
    (hret : (s.requestBuffer link gameUpscaleProcessor config a).1.ret ≠ .ok) :
    s.nativeWindowRequestBuffer link gameUpscaleProcessor config a =
      ({ ret := (s.requestBuffer link gameUpscaleProcessor config a).1.ret },
        (s.requestBuffer link gameUpscaleProcessor config a).2) := by
  unfold nativeWindowRequestBuffer
  dsimp only
  rw [if_pos hret]

theorem nativeWindowRequestBuffer_sound (h : s.WindowInv)
    (hfits : s.Fits (s.requestArrivals link (sized gameUpscaleProcessor config) a))
    (hlacks : ¬ s.RequestLacksObject link (sized gameUpscaleProcessor config) a) :
    ((s.nativeWindowRequestBuffer link gameUpscaleProcessor config a).1.ret = .ok →
        ∃ handedOut ∈ (s.requestBuffer link gameUpscaleProcessor config a).1.buffers,
          handedOut.isSome ∧
          (s.nativeWindowRequestBuffer link gameUpscaleProcessor config a).1.buffers =
            [handedOut]) ∧
      (s.nativeWindowRequestBuffer link gameUpscaleProcessor config a).2.WindowInv := by
  have hreceives : Receives (s.requestArrivals link (sized gameUpscaleProcessor config) a) s
      (s.requestBuffer link gameUpscaleProcessor config a).2 :=
    receives_requestBufferLocked link s (sized gameUpscaleProcessor config) a
  have hinv := hreceives.windowInv h (h.keyed.requestBufferLocked link _ a) hfits
  by_cases hret : (s.requestBuffer link gameUpscaleProcessor config a).1.ret = .ok
  · obtain ⟨buffer, hbuffers, hanswered⟩ : ∃ buffer,
        (s.requestBuffer link gameUpscaleProcessor config a).1.buffers = [some buffer] ∧
          Answered s (s.requestBuffer link gameUpscaleProcessor config a).2 buffer
            (s.requestArrivals link (sized gameUpscaleProcessor config) a) :=
      answered_requestBufferLocked h.keyed hret hlacks
    unfold nativeWindowRequestBuffer
    generalize s.requestBuffer link gameUpscaleProcessor config a = r
      at hreceives hret hbuffers hanswered hinv ⊢
    obtain ⟨reply, s'⟩ := r
    have hwrapped (wrapped : BufferRef) (hwrapped : s'.wrapper buffer.seqNum = some wrapped) :=
      hanswered.wrapped_eq hreceives h.agrees hfits hwrapped
    obtain ⟨window, hwindow⟩ := Option.isSome_iff_exists.mp hinv.hasWindow
    dsimp only at hret hbuffers hinv hwrapped hwindow ⊢
    obtain ⟨hbuffer, hnext⟩ := nativeWindowAddToCache_eq hwindow hwrapped
    have hnext : (s'.nativeWindowAddToCache window buffer).2.WindowInv := by
      rcases hnext with hnext | hnext <;> rw [hnext]
      · exact hinv
      · exact ⟨hinv.keyed.of_cache rfl, hinv.agrees.insert hwindow hanswered.kept, rfl⟩
    rw [if_neg (not_not.mpr hret), hbuffers, hwindow]
    dsimp only
    split
    · exact ⟨fun _ => ⟨some buffer, List.mem_cons_self, rfl, hbuffers⟩,
        hnext.keyed.of_cache rfl, hnext.agrees, hnext.hasWindow⟩
    · refine ⟨fun _ => ⟨some buffer, List.mem_cons_self, rfl, ?_⟩, hnext⟩
      rw [hbuffer]
  · rw [nativeWindowRequestBuffer_of_error hret]
    exact ⟨fun hok => absurd hok hret, hinv⟩

end NativeRequest

end ProducerSurface

namespace SurfaceCall

variable (link : Link) (s : ProducerSurface)

def arrivals : SurfaceCall → Arrivals
  | requestBuffer gameUpscaleProcessor config a
  | nativeWindowRequestBuffer gameUpscaleProcessor config a =>
    s.requestArrivals link (ProducerSurface.sized gameUpscaleProcessor config) a
  | requestBuffers config as =>
    s.requestsArrivals link config ((List.range surfaceMaxQueueSize).map as)
  | attachBufferToQueue buffer =>
    ProducerSurface.attachArrivals buffer ((s.attachBufferToQueue link buffer).1 = .ok)
  | attachBuffer buffer timeOut =>
    ProducerSurface.attachArrivals buffer ((s.attachBuffer link buffer timeOut).1 = .ok &&
      (s.bufferProducerCache.lookup buffer.seqNum).isNone)
  | attachAndFlushBuffer buffer bedata fence config env =>
    ProducerSurface.attachArrivals buffer
      ((s.attachAndFlushBuffer link buffer bedata fence config env).1 = .ok)
  | lockBuffer config _ env => s.lockArrivals link config env.allocation
  | _ => []

/-- A request of the window is answered, and the surface has no object for it. -/
def LacksObject : SurfaceCall → Prop
  | nativeWindowRequestBuffer gameUpscaleProcessor config a =>
    s.RequestLacksObject link (ProducerSurface.sized gameUpscaleProcessor config) a
  | _ => False

instance (retval : RequestBufferReturnValue) : Decidable (s.LacksObject link retval) :=
  inferInstanceAs (Decidable (_ ∧ _ ∧ _))

instance (config : BufferRequestConfig) (a : Allocation) :
    Decidable (s.RequestLacksObject link config a) :=
  inferInstanceAs (Decidable (_ ∧ _))

instance (c : SurfaceCall) : Decidable (c.LacksObject link s) := by
  apply SurfaceCall.casesOn (motive := fun c => Decidable (c.LacksObject link s)) c <;> intros <;>
    unfold LacksObject <;> infer_instance

/-- The call brings no object that the window has already another one for, and no request of the window
goes without one. -/
def FitsWindow (c : SurfaceCall) : Prop :=
  s.Fits (c.arrivals link s) ∧ ¬ c.LacksObject link s

instance (c : SurfaceCall) : Decidable (c.FitsWindow link s) :=
  inferInstanceAs (Decidable (_ ∧ _))

/-- A request of the window that succeeds hands out the very object that the request of the surface
has returned in it. -/
def HandsOutRequested : SurfaceCall → Prop
  | nativeWindowRequestBuffer gameUpscaleProcessor config a =>
    (s.nativeWindowRequestBuffer link gameUpscaleProcessor config a).1.ret = .ok →
      ∃ handedOut ∈ (s.requestBuffer link gameUpscaleProcessor config a).1.buffers,
        handedOut.isSome ∧
        (s.nativeWindowRequestBuffer link gameUpscaleProcessor config a).1.buffers = [handedOut]
  | _ => True

instance (c : SurfaceCall) : Decidable (c.HandsOutRequested link s) := by
  apply SurfaceCall.casesOn (motive := fun c => Decidable (c.HandsOutRequested link s)) c <;>
    intros <;> unfold HandsOutRequested <;> infer_instance

variable {s} {c : SurfaceCall}

theorem receives_next (hnative : ∀ gameUpscaleProcessor config a,
    c ≠ .nativeWindowRequestBuffer gameUpscaleProcessor config a) :
    ProducerSurface.Receives (c.arrivals link s) s (c.next link s) := by
  cases c with
  | requestBuffer gameUpscaleProcessor config a => exact s.receives_requestBufferLocked link _ a
  | requestBuffers config as => exact s.receives_requestBuffers link config as
  | requestAndDetachBuffer config a => exact s.receives_requestAndDetachBuffer link config a
  | flushBuffer f => exact s.receives_flushBuffer link f
  | flushBuffers fs => exact s.receives_flushBuffers link fs
  | cancelBuffer sequence bedata => exact s.receives_cancelBuffer sequence bedata
  | attachBufferToQueue buffer => exact s.receives_attachBufferToQueue link buffer
  | detachBufferFromQueue buffer => exact s.receives_detachBufferFromQueue buffer
  | attachBuffer buffer timeOut => exact s.receives_attachBuffer link buffer timeOut
  | attachAndFlushBuffer buffer bedata fence config env =>
    exact s.receives_attachAndFlushBuffer link buffer bedata fence config env
  | cleanCache => exact .cleanCacheLocked link s
  | goBackground => exact s.receives_goBackground link
  | cleanReleasedBuffers => exact s.receives_cleanReleasedBuffers link
  | connect => exact s.receives_connect link
  | disconnect => exact s.receives_disconnect link
  | setDisconnectStrictly value => exact .of_same rfl rfl
  | lockBuffer config region env => exact s.receives_lockBuffer link config region env
  | unlockAndFlushBuffer env => exact s.receives_unlock link env
  | nativeWindowRequestBuffer gameUpscaleProcessor config a => exact absurd rfl (hnative _ _ _)
  | queue op => exact .of_same rfl rfl

theorem windowInv_next (h : s.WindowInv) (hfits : c.FitsWindow link s) :
    c.HandsOutRequested link s ∧ (c.next link s).WindowInv := by
  by_cases hnative : ∃ gameUpscaleProcessor config a,
      c = .nativeWindowRequestBuffer gameUpscaleProcessor config a
  · obtain ⟨gameUpscaleProcessor, config, a, rfl⟩ := hnative
    exact ProducerSurface.nativeWindowRequestBuffer_sound h hfits.1 hfits.2
  · simp only [not_exists] at hnative
    have hinv := (receives_next link hnative).windowInv h (next_keyed link h.keyed c) hfits.1
    cases c with
    | nativeWindowRequestBuffer gameUpscaleProcessor config a => exact absurd rfl (hnative _ _ _)
    | _ => exact ⟨trivial, hinv⟩

end SurfaceCall

/-- Every request of a native window that succeeds hands out the object that its surface has returned,
in every run in which no call brings an object that the window has another one for. -/
theorem window_hands_out_requested {link : Link} {q : QueueSettings} {calls : List SurfaceCall}
    (hcalls : Legal (SurfaceCall.next link) (fun s c => c.FitsWindow link s) (.start q (some ∅))
      calls) :
    Legal (SurfaceCall.next link) (fun s c => c.HandsOutRequested link s) (.start q (some ∅))
      calls := by
  have hstart : (ProducerSurface.start q (some ∅)).WindowInv :=
    ⟨.of_empty rfl, fun _ _ _ hkept => by simp [ProducerSurface.start] at hkept, rfl⟩
  refine (legal_congr_of ProducerSurface.WindowInv (fun s c h hfits => ?_) (fun s c h hfits _ => ?_)
    hstart hcalls).mpr (legal_true _ _ calls)
  · exact iff_of_true (SurfaceCall.windowInv_next link h hfits).1 trivial
  · exact (SurfaceCall.windowInv_next link h hfits).2

/-- The `n`-th request of a window, for a buffer like the sample. -/
def windowRequest (n : ℕ) : SurfaceCall :=
  .nativeWindowRequestBuffer id sampleConfig ⟨n, n, true, true⟩

def requestedTwice : List SurfaceCall :=
  [windowRequest 1, .flushBuffer ⟨1, some ∅, invalidFence, ⟨[], 0, 0⟩, ⟨.ok, 0⟩⟩,
    .queue (.acquireBuffer 0), .queue (.releaseBuffer 1 (some invalidFence) ⟨0, 0, fun _ => true⟩),
    windowRequest 2]

theorem window_hands_out_requested_twice :
    Legal (SurfaceCall.next (Link.inProcess 1)) (fun s c => c.HandsOutRequested (Link.inProcess 1) s)
      (.start { listener := true } (some ∅)) requestedTwice :=
  window_hands_out_requested (by decide)

/-- The window's buffer is detached, and attached again by the consumer, whose surface raises the flag.
The next answer brings the object, but the window still has the first one. -/
def reattached : List SurfaceCall :=
  let buffer : SurfaceBuffer := .allocated ⟨1, 1, true, true⟩ sampleConfig
  [windowRequest 1, .detachBufferFromQueue buffer,
    .queue (.attachBufferToQueue { buffer with consumerAttachBufferFlag := true } .consumerInvoker),
    .queue (.releaseBuffer 1 (some invalidFence) ⟨0, 0, fun _ => true⟩), windowRequest 2]

theorem window_hands_out_another :
    ¬ ∀ (link : Link) (q : QueueSettings) (calls : List SurfaceCall),
      Legal (SurfaceCall.next link) (fun s c => c.Sane link s) (.start q (some ∅)) calls →
      Legal (SurfaceCall.next link) (fun s c => c.HandsOutRequested link s) (.start q (some ∅))
        calls := by
  intro h
  have hreattached := h (.binder 1 (100 + ·)) { listener := true } reattached (by decide)
  revert hreattached
  decide

end GraphicSurface
