import GraphicSurface.CacheWrites
import GraphicSurface.DelegatedFlush
import GraphicSurface.LppHolding

/-! `lastConsumeTime_`: how long the consumer has held the buffer that was released last. A release
subtracts the entry's `lastAcquireTime`, which only some of the calls that make a buffer `ACQUIRED`
write. `AcquireLog` is no part of the code: it records when the calls were made. The two sections
of `AcquireBuffer` with a timestamp are calls of their own, as the releases between them are. -/

namespace GraphicSurface

open Runs BufferElement

inductive ConsumeCall
  | lpp (op : LppOp)
  | dropBuffersByLevel (now : Int)
  | acquireByTimestampSection (expectPresentTimestamp : Int) (isUsingAutoTimestamp : Bool)
  | markDelegated (sequence : ℕ)

namespace BufferQueue

/-- What has left the front of the dirty list between `q` and `q'`. -/
def taken (q q' : BufferQueue) : List ℕ :=
  q.dirtyList.take (q.dirtyList.length - q'.dirtyList.length)

end BufferQueue

namespace ConsumeCall

def next (l : LppQueue) : ConsumeCall → LppQueue
  | lpp op => op.next l
  | dropBuffersByLevel now => { l with queue := (l.queue.dropBuffersByLevel now).2 }
  | acquireByTimestampSection expectPresentTimestamp isUsingAutoTimestamp =>
    { l with queue := (l.queue.acquireByTimestampSection expectPresentTimestamp
        isUsingAutoTimestamp).2.2 }
  | markDelegated sequence => { l with queue := l.queue.markDelegated sequence }

def Fresh (l : LppQueue) : ConsumeCall → Prop
  | lpp op => op.Fresh l
  | _ => True

/-- The call is one section, and the clock that it reads is `now`. -/
def AtClock (now : Int) : ConsumeCall → Prop
  | lpp (.queue (.acquireBuffer clock)) => clock = now
  | lpp (.queue (.releaseBuffer _ _ env)) => env.now = now
  | lpp (.queue (.acquireBufferByTimestamp _ _ _ _)) => False
  | dropBuffersByLevel clock => clock = now
  | _ => True

instance (l : LppQueue) (c : ConsumeCall) : Decidable (c.Fresh l) := by
  unfold Fresh
  split <;> infer_instance

instance (now : Int) (c : ConsumeCall) : Decidable (c.AtClock now) := by
  unfold AtClock
  split <;> infer_instance

/-- The numbers of the buffers that the call makes `ACQUIRED`. -/
def acquired (l : LppQueue) : ConsumeCall → List ℕ
  | lpp (.queue (.acquireBuffer now)) => l.queue.taken (l.queue.acquireBuffer now).2
  | lpp (.queue (.attachBufferToQueue buffer .consumerInvoker)) =>
    if (l.queue.attachBufferToQueue buffer .consumerInvoker).1 = .ok then [buffer.seqNum] else []
  | lpp op => (op.taken l).toList
  | dropBuffersByLevel now => l.queue.taken (l.queue.dropBuffersByLevel now).2
  | acquireByTimestampSection expectPresentTimestamp isUsingAutoTimestamp =>
    l.queue.taken (l.queue.acquireByTimestampSection expectPresentTimestamp
      isUsingAutoTimestamp).2.2
  | markDelegated sequence => [sequence]

def records : ConsumeCall → Bool
  | lpp (.queue (.acquireBuffer _)) | dropBuffersByLevel _ => true
  | _ => false

end ConsumeCall

/-- For each number when the buffer became `ACQUIRED` for the last time, and when a call last
recorded that in its entry; a new entry has zero there. -/
structure AcquireLog where
  moment : ℕ → Option Int := fun _ => none
  recorded : ℕ → Int := fun _ => 0

def AcquireLog.after (log : AcquireLog) (l : LppQueue) (c : ConsumeCall) (now : Int) :
    AcquireLog where
  moment k := if k ∈ c.acquired l then some now else log.moment k
  recorded k :=
    if k ∈ c.acquired l ∧ c.records = true then now
    else if l.queue.bufferQueueCache.find k = none then 0 else log.recorded k

def consumeNext (s : LppQueue × AcquireLog) (a : ConsumeCall × Int) : LppQueue × AcquireLog :=
  (a.1.next s.1, s.2.after s.1 a.1 a.2)

def ConsumeStep (s : LppQueue × AcquireLog) (a : ConsumeCall × Int) (s' : LppQueue × AcquireLog) :
    Prop :=
  a.1.AtClock a.2 ∧ a.1.Fresh s.1 ∧ s' = consumeNext s a ∧ s'.1.queue.fault = false

/-- The entries hold what the log says has been recorded, and it knows of every acquired buffer. -/
structure Logged (q : BufferQueue) (log : AcquireLog) : Prop where
  recorded : ∀ k e, q.bufferQueueCache.find k = some e → e.lastAcquireTime = log.recorded k
  moment : ∀ k e, q.bufferQueueCache.find k = some e → e.state = .acquired →
    (log.moment k).isSome

namespace BufferQueue

variable {q q' q₁ : BufferQueue} {n : ℕ} {f : BufferElement → BufferElement}

/-- The first `n` frames are taken, each with the write `f`. -/
structure Takes (n : ℕ) (f : BufferElement → BufferElement) (q q' : BufferQueue) : Prop where
  le : n ≤ q.dirtyList.length
  dirtyList : q'.dirtyList = q.dirtyList.drop n
  find : ∀ k, q'.bufferQueueCache.find k =
    if k ∈ q.dirtyList.take n then (q.bufferQueueCache.find k).map f
    else q.bufferQueueCache.find k

theorem Takes.taken (h : Takes n f q q') : q.taken q' = q.dirtyList.take n := by
  rw [BufferQueue.taken, h.dirtyList, List.length_drop, Nat.sub_sub_self h.le]

theorem Takes.zero (hdirty : q'.dirtyList = q.dirtyList)
    (hcache : q'.bufferQueueCache = q.bufferQueueCache) : Takes 0 f q q' :=
  ⟨Nat.zero_le _, by rw [hdirty, List.drop_zero], fun k => by rw [hcache, List.take_zero]; rfl⟩

theorem Takes.cons {front : ℕ} {rest : List ℕ} (hf : ∀ e, f (f e) = f e)
    (hseq : ∀ e, (f e).buffer.seqNum = e.buffer.seqNum) (hdirty : q.dirtyList = front :: rest)
    (hfirst : q₁.dirtyList = rest)
    (hcache : q₁.bufferQueueCache = q.bufferQueueCache.modify front f hseq)
    (h : Takes n f q₁ q') : Takes (n + 1) f q q' := by
  refine ⟨?_, ?_, fun k => ?_⟩
  · rw [hdirty, List.length_cons, ← hfirst]
    exact Nat.succ_le_succ h.le
  · rw [h.dirtyList, hfirst, hdirty, List.drop_succ_cons]
  · rw [h.find, hfirst, hcache, hdirty, List.take_succ_cons, BufferCache.find_modify]
    by_cases hk : front = k
    · have htwice : ((q.bufferQueueCache.find k).map f).map f = (q.bufferQueueCache.find k).map f := by
        rw [Option.map_map]
        exact congrArg (Option.map · _) (funext hf)
      subst hk
      simp [htwice]
    · simp [hk, Ne.symm hk]

theorem setAcquired_twice (now : Int) (e : BufferElement) :
    (e.setAcquired now).setAcquired now = e.setAcquired now := rfl

theorem acquireBuffer_takes {now : Int} (hfault : (q.acquireBuffer now).2.fault = false) :
    ∃ n, Takes n (setAcquired now) q (q.acquireBuffer now).2 := by
  unfold acquireBuffer popFromDirtyListLocked at hfault ⊢
  cases hdirty : q.dirtyList with
  | nil => exact ⟨0, .zero rfl rfl⟩
  | cons front rest =>
    rw [hdirty] at hfault
    cases he : q.bufferQueueCache.find front with
    | none => simp [he] at hfault
    | some e =>
      have hfront := BufferCache.seqNum_of_find he
      simp only [he, hfront]
      exact ⟨1, .cons (setAcquired_twice now) (setAcquired_seqNum now) hdirty rfl rfl
        (.zero rfl rfl)⟩

theorem dropFronts_takes_some {now : Int} {dropCount : ℕ}
    (hfault : (q.dropFronts now dropCount).2.fault = false) :
    ∃ n, Takes n (setAcquired now) q (q.dropFronts now dropCount).2 := by
  induction dropCount generalizing q with
  | zero => exact ⟨0, .zero rfl rfl⟩
  | succ dropCount ih =>
    unfold dropFronts at hfault ⊢
    cases hdirty : q.dirtyList with
    | nil => exact ⟨0, .zero rfl rfl⟩
    | cons front rest =>
      rw [hdirty] at hfault
      cases he : q.bufferQueueCache.find front with
      | none => simp [he] at hfault
      | some e =>
        simp only [he] at hfault ⊢
        obtain ⟨n, htakes⟩ := ih hfault
        exact ⟨n + 1, .cons (setAcquired_twice now) (setAcquired_seqNum now) hdirty rfl rfl htakes⟩

theorem dropBuffersByLevel_takes_some {now : Int}
    (hfault : (q.dropBuffersByLevel now).2.fault = false) :
    ∃ n, Takes n (setAcquired now) q (q.dropBuffersByLevel now).2 := by
  unfold dropBuffersByLevel at hfault ⊢
  split
  · exact ⟨0, .zero rfl rfl⟩
  · rename_i hdrops
    rw [if_neg hdrops] at hfault
    exact dropFronts_takes_some hfault

theorem dropByTimestamp_takes_some {expect : Int} {auto : Bool} {l : List ℕ}
    (hl : q.dirtyList = l) (hfault : (q.dropByTimestamp expect auto l).2.fault = false) :
    ∃ n, Takes n (setState .acquired) q (q.dropByTimestamp expect auto l).2 := by
  induction l generalizing q with
  | nil => exact ⟨0, .zero rfl rfl⟩
  | cons first rest ih =>
    cases rest with
    | nil => exact ⟨0, .zero rfl rfl⟩
    | cons second rest =>
      unfold dropByTimestamp at hfault ⊢
      split
      · rename_i f s hf hs
        rw [hf, hs] at hfault
        dsimp only at hfault ⊢
        split
        · rename_i heligible
          rw [if_pos heligible] at hfault
          obtain ⟨n, htakes⟩ := ih rfl hfault
          exact ⟨n + 1, .cons (fun _ => rfl) (setState_seqNum _) hl rfl rfl htakes⟩
        · exact ⟨0, .zero rfl rfl⟩
      · rename_i hnone
        split at hfault
        · rename_i f s hf hs
          exact absurd hs (hnone f s hf)
        · cases hfault

theorem acquireByTimestampSection_takes_some {expect : Int} {auto : Bool}
    (hfault : (q.acquireByTimestampSection expect auto).2.2.fault = false) :
    ∃ n, Takes n (setState .acquired) q (q.acquireByTimestampSection expect auto).2.2 := by
  unfold acquireByTimestampSection at hfault ⊢
  cases hdirty : q.dirtyList with
  | nil => exact ⟨0, .zero rfl rfl⟩
  | cons front rest =>
    rw [hdirty] at hfault
    cases he : q.bufferQueueCache.find front with
    | none => simp [he] at hfault
    | some e =>
      simp only [he] at hfault ⊢
      by_cases hready : BufferElement.notReady e expect = true
      · rw [if_pos hready]
        exact ⟨0, .zero rfl rfl⟩
      · rw [if_neg hready] at hfault ⊢
        generalize hhead : (q.dropByTimestamp expect auto (front :: rest)).2.dirtyList.head?.bind
          (q.dropByTimestamp expect auto (front :: rest)).2.bufferQueueCache.find = head at hfault ⊢
        cases head with
        | none => cases hfault
        | some next =>
          dsimp only at hfault ⊢
          split
          · rename_i hlate
            rw [if_pos hlate] at hfault
            exact dropByTimestamp_takes_some hdirty hfault
          · rename_i hlate
            rw [if_neg hlate] at hfault
            exact dropByTimestamp_takes_some hdirty hfault

end BufferQueue

namespace BufferQueue

theorem attachBufferToQueueLocked_error {q : BufferQueue} {buffer : SurfaceBuffer}
    {invokerType : InvokerType} (hret : (q.attachBufferToQueueLocked buffer invokerType).1 ≠ .ok) :
    (q.attachBufferToQueueLocked buffer invokerType).2 = q := by
  unfold attachBufferToQueueLocked at hret ⊢
  split_ifs at hret ⊢ with hlistener hfull hcached
  · rfl
  · rfl
  · rfl
  · cases invokerType <;> exact absurd rfl hret

end BufferQueue

namespace Op

theorem lastAcquireTime_of_makes {q : BufferQueue} {op : Op} {e : BufferElement}
    (h : op.makes q e) : e.lastAcquireTime = 0 := by
  cases op with
  | requestBuffer config a | requestAndDetachBuffer config a => exact h.2.1.lastAcquireTime
  | requestBuffers config as =>
    obtain ⟨a, -, -, hblank, -⟩ := h
    exact hblank.lastAcquireTime
  | preAllocBuffers config count as => exact h.1.lastAcquireTime
  | attachBufferToQueue buffer invokerType => exact h.2.2.2.1
  | attachBuffer buffer timeOut => exact h.2.2.2.1
  | attachAndFlushBuffer buffer bedata fence config env => exact h.2.2.2.1
  | _ => exact h.elim

theorem attaches_of_makes {q : BufferQueue} {op : Op} {e : BufferElement} (h : op.makes q e)
    (he : e.state = .acquired) :
    ∃ buffer, op = .attachBufferToQueue buffer .consumerInvoker ∧
      e.buffer.seqNum = buffer.seqNum := by
  cases op with
  | requestBuffer config a | requestAndDetachBuffer config a => exact absurd he h.2.1.state
  | requestBuffers config as =>
    obtain ⟨a, -, -, hblank, -⟩ := h
    exact absurd he hblank.state
  | preAllocBuffers config count as => exact absurd he h.1.state
  | attachBufferToQueue buffer invokerType =>
    obtain ⟨-, hseq, -, -, hconsumer⟩ := h
    exact ⟨buffer, by rw [hconsumer he], hseq⟩
  | attachBuffer buffer timeOut => exact absurd (h.2.2.2.2 he) nofun
  | attachAndFlushBuffer buffer bedata fence config env => exact absurd (h.2.2.2.2 he) nofun
  | _ => exact h.elim

end Op

/-- What every write but an acquire does to an entry, as far as acquiring goes. -/
def KeepsAcquire (e e' : BufferElement) : Prop :=
  e'.lastAcquireTime = e.lastAcquireTime ∧ (e'.state = .acquired → e.state = .acquired)

theorem keepsAcquire_of_quiet {w : ElementWrite} (hw : w.Quiet) (e : BufferElement) :
    KeepsAcquire e (w.apply e) := by
  cases w with
  | setState s =>
    refine ⟨rfl, fun h => ?_⟩
    change s = .acquired at h
    rw [h] at hw
    cases hw
  | setFlushed fence config now =>
    refine ⟨?_, fun h => ?_⟩
    · change (e.setFlushed fence config now).lastAcquireTime = _
      unfold setFlushed setDesiredPresentTimestampAndUiTimestamp
      split_ifs <;> rfl
    · exact absurd ((setFlushed_state fence config now e).symm.trans h) nofun
  | setAcquired now => cases hw
  | setLppAcquired transform => cases hw
  | setCancelled bedata => exact ⟨rfl, nofun⟩
  | setReleased fence mergeFd => exact ⟨rfl, nofun⟩
  | _ => exact ⟨rfl, id⟩

namespace ConsumeCall

/-- Where an entry comes from that is there after the call: it was there before, or is new. It is
acquired because it was before, or because the call names it. -/
def Explains (l : LppQueue) (c : ConsumeCall) (now : Int) (k : ℕ) (e' : BufferElement) : Prop :=
  (∃ e, l.queue.bufferQueueCache.find k = some e ∧
      (e'.state = .acquired → k ∈ c.acquired l ∨ e.state = .acquired) ∧
      e'.lastAcquireTime = if k ∈ c.acquired l ∧ c.records = true then now else e.lastAcquireTime) ∨
    (l.queue.bufferQueueCache.find k = none ∧ c.records = false ∧ e'.lastAcquireTime = 0 ∧
      (e'.state = .acquired → k ∈ c.acquired l))

variable {l : LppQueue} {c : ConsumeCall} {now : Int} {k : ℕ} {e' : BufferElement}

theorem explains_of_takes {n : ℕ} {f : BufferElement → BufferElement} {q' : BufferQueue}
    (htakes : BufferQueue.Takes n f l.queue q') (hacquired : c.acquired l = l.queue.taken q')
    (hf : ∀ e, (f e).lastAcquireTime = if c.records = true then now else e.lastAcquireTime)
    (he' : q'.bufferQueueCache.find k = some e') : c.Explains l now k e' := by
  left
  rw [htakes.taken] at hacquired
  rw [htakes.find, ← hacquired] at he'
  by_cases hk : k ∈ c.acquired l
  · rw [if_pos hk] at he'
    obtain ⟨e, he, rfl⟩ := Option.map_eq_some_iff.mp he'
    exact ⟨e, he, fun _ => .inl hk, by rw [hf]; simp [hk]⟩
  · rw [if_neg hk] at he'
    exact ⟨e', he', .inr, by simp [hk]⟩

theorem explains_of_same (hrecords : c.records = false)
    (he' : l.queue.bufferQueueCache.find k = some e') : c.Explains l now k e' :=
  .inl ⟨e', he', .inr, by simp [hrecords]⟩

/-- A call that makes one cached buffer `ACQUIRED` and records nothing. -/
theorem explains_of_modify {s : ℕ} {f : BufferElement → BufferElement} {q' : BufferQueue}
    (hseq : ∀ e, (f e).buffer.seqNum = e.buffer.seqNum)
    (hcache : q'.bufferQueueCache = l.queue.bufferQueueCache.modify s f hseq)
    (hf : ∀ e, (f e).lastAcquireTime = e.lastAcquireTime) (hs : s ∈ c.acquired l)
    (hrecords : c.records = false) (he' : q'.bufferQueueCache.find k = some e') :
    c.Explains l now k e' := by
  rw [hcache, BufferCache.find_modify] at he'
  by_cases hk : s = k
  · rw [if_pos hk] at he'
    obtain ⟨e, he, rfl⟩ := Option.map_eq_some_iff.mp he'
    exact .inl ⟨e, he, fun _ => .inl (hk ▸ hs), by simp [hrecords, hf]⟩
  · rw [if_neg hk] at he'
    exact explains_of_same hrecords he'

theorem explains_of_lpp {op : LppOp} (hop : ∀ o, op ≠ .queue o)
    (he' : (op.next l).queue.bufferQueueCache.find k = some e') : (lpp op).Explains l now k e' := by
  have hrecords : (lpp op).records = false := by
    cases op with
    | queue o => exact absurd rfl (hop o)
    | _ => rfl
  have hacquired : (lpp op).acquired l = (op.taken l).toList := by
    cases op with
    | queue o => exact absurd rfl (hop o)
    | _ => rfl
  rcases op.next_queue l hop with ⟨-, hqueue⟩ | ⟨s, e, htaken, -, hqueue⟩
  · rw [hqueue] at he'
    exact explains_of_same hrecords he'
  · rw [hqueue] at he'
    exact explains_of_modify (setLppAcquired_seqNum _) rfl (fun _ => rfl)
      (by rw [hacquired, htaken]; exact List.mem_singleton_self s) hrecords he'

/-- Every operation but the acquires writes to the entries as `KeepsAcquire` says. -/
theorem explains_of_op {op : Op} (hop : op.isAcquire = false) (hfresh : op.Fresh l.queue)
    (he' : (op.run l.queue).2.bufferQueueCache.find k = some e') :
    (lpp (.queue op)).Explains l now k e' := by
  have hrecords : (lpp (.queue op)).records = false := by
    cases op with
    | acquireBuffer now => cases hop
    | _ => rfl
  have hdescends := (op.run_edited l.queue hop).descends (R := KeepsAcquire)
    (fun _ => ⟨rfl, id⟩) (fun _ _ _ h₁ h₂ => ⟨h₂.1.trans h₁.1, fun h => h₁.2 (h₂.2 h)⟩)
    (fun w hw e => keepsAcquire_of_quiet hw e) he'
  rcases hdescends with ⟨e, he, htime, hstate⟩ | ⟨e, hmade, hk, htime, hstate⟩
  · exact .inl ⟨e, he, fun h => .inr (hstate h), by simp [hrecords, htime]⟩
  · refine .inr ⟨hk ▸ hfresh.absent hmade, hrecords, htime.trans (Op.lastAcquireTime_of_makes hmade),
      fun h => ?_⟩
    obtain ⟨buffer, rfl, hseq⟩ := Op.attaches_of_makes hmade (hstate h)
    have hok : (l.queue.attachBufferToQueue buffer .consumerInvoker).1 = .ok := by
      by_contra hret
      have hsame : (l.queue.attachBufferToQueue buffer .consumerInvoker).2 = l.queue :=
        BufferQueue.attachBufferToQueueLocked_error hret
      change (l.queue.attachBufferToQueue buffer .consumerInvoker).2.bufferQueueCache.find k = _ at he'
      rw [hsame, ← hk, hfresh.absent hmade] at he'
      cases he'
    change k ∈ if _ = GSError.ok then [buffer.seqNum] else []
    rw [if_pos hok, List.mem_singleton, ← hk, hseq]

theorem next_explains (hclock : c.AtClock now) (hfresh : c.Fresh l)
    (hfault : (c.next l).queue.fault = false)
    (he' : (c.next l).queue.bufferQueueCache.find k = some e') : c.Explains l now k e' := by
  cases c with
  | lpp op =>
    by_cases hop : ∃ o, op = .queue o
    · obtain ⟨op, rfl⟩ := hop
      cases op with
      | acquireBuffer clock =>
        obtain rfl : clock = now := hclock
        obtain ⟨n, htakes⟩ := BufferQueue.acquireBuffer_takes (q := l.queue) hfault
        exact explains_of_takes htakes rfl (fun _ => rfl) he'
      | acquireBufferByTimestamp expect auto clock envs => exact hclock.elim
      | _ => exact explains_of_op rfl hfresh he'
    · exact explains_of_lpp (fun o h => hop ⟨o, h⟩) he'
  | dropBuffersByLevel clock =>
    obtain rfl : clock = now := hclock
    obtain ⟨n, htakes⟩ := BufferQueue.dropBuffersByLevel_takes_some (q := l.queue) hfault
    exact explains_of_takes htakes rfl (fun _ => rfl) he'
  | acquireByTimestampSection expect auto =>
    obtain ⟨n, htakes⟩ := BufferQueue.acquireByTimestampSection_takes_some (q := l.queue) hfault
    exact explains_of_takes htakes rfl (fun _ => rfl) he'
  | markDelegated sequence =>
    exact explains_of_modify (setState_seqNum _) rfl (fun _ => rfl) (List.mem_singleton_self _) rfl he'

end ConsumeCall

theorem Logged.start (s : QueueSettings) : Logged (BufferQueue.start s) {} :=
  ⟨fun k e he => by simp [BufferQueue.start] at he, fun k e he => by simp [BufferQueue.start] at he⟩

theorem Logged.step {s s' : LppQueue × AcquireLog} {a : ConsumeCall × Int}
    (h : Logged s.1.queue s.2) (hstep : ConsumeStep s a s') : Logged s'.1.queue s'.2 := by
  obtain ⟨l, log⟩ := s
  obtain ⟨c, now⟩ := a
  obtain ⟨hclock, hfresh, rfl, hfault⟩ := hstep
  refine ⟨fun k e' he' => ?_, fun k e' he' hacquired => ?_⟩
  · rcases ConsumeCall.next_explains hclock hfresh hfault he' with ⟨e, he, -, htime⟩ |
      ⟨habsent, hrecords, htime, -⟩
    · simp [consumeNext, AcquireLog.after, htime, he, h.recorded k e he]
    · simp [consumeNext, AcquireLog.after, htime, habsent, hrecords]
  · change (if k ∈ c.acquired l then some now else log.moment k).isSome = true
    by_cases hk : k ∈ c.acquired l
    · rw [if_pos hk]
      rfl
    · rw [if_neg hk]
      rcases ConsumeCall.next_explains hclock hfresh hfault he' with ⟨e, he, hstate, -⟩ |
        ⟨-, -, -, hstate⟩
      · exact h.moment k e he ((hstate hacquired).resolve_left hk)
      · exact absurd (hstate hacquired) hk

theorem logged_of_run {settings : QueueSettings} {as : List (ConsumeCall × Int)}
    {s : LppQueue × AcquireLog} (run : Run ConsumeStep (LppQueue.start settings, {}) as s) :
    Logged s.1.queue s.2 :=
  @Run.invariant _ _ _ _ _ _ (fun s => Logged s.1.queue s.2) (fun _ _ _ h hstep => h.step hstep)
    (.start settings) run

namespace BufferQueue

variable {q : BufferQueue} {sequence : ℕ} {e : BufferElement}

theorem lastConsumeTime_releaseBuffer (he : q.bufferQueueCache.find sequence = some e)
    (hacquired : e.state = .acquired) (fence : Option SyncFence) (env : ReleaseEnv) :
    (q.releaseBuffer sequence fence env).2.lastConsumeTime = env.now - e.lastAcquireTime := by
  have hrest : Edited ElementWrite.Calm nothing (q.releaseBufferLocked sequence fence env).2
      (q.releaseBuffer sequence fence env).2 := releaseBuffer_rest_edited q sequence fence env
  rw [hrest.consumeTime fun _ _ => nofun]
  unfold releaseBufferLocked
  simp only [he, hacquired, ne_eq, not_true_eq_false, false_and, if_false]
  split
  · have hdelete : Edited ElementWrite.Calm nothing (q.markReleased sequence e.lastAcquireTime fence
        env) _ := deleteNoWait_edited _ sequence
    exact hdelete.consumeTime fun _ _ => nofun
  · rfl

end BufferQueue

/-- The release reports the time since the buffer became `ACQUIRED` for the last time. -/
def ReportsConsumeTime (s : LppQueue × AcquireLog) (sequence : ℕ) (fence : Option SyncFence)
    (env : ReleaseEnv) : Prop :=
  ∃ moment, s.2.moment sequence = some moment ∧
    (s.1.queue.releaseBuffer sequence fence env).2.lastConsumeTime = env.now - moment

/-- After any run a release of an acquired buffer reports the real time exactly when the last time
that was recorded in the entry, or the zero of a new one, is the time of the last acquire. -/
theorem reportsConsumeTime_iff {settings : QueueSettings} {as : List (ConsumeCall × Int)}
    {s : LppQueue × AcquireLog} (run : Run ConsumeStep (LppQueue.start settings, {}) as s)
    {sequence : ℕ} {e : BufferElement}
    (he : s.1.queue.bufferQueueCache.find sequence = some e) (hacquired : e.state = .acquired)
    (fence : Option SyncFence) (env : ReleaseEnv) :
    ReportsConsumeTime s sequence fence env ↔
      s.2.moment sequence = some (s.2.recorded sequence) := by
  have hlogged := logged_of_run run
  obtain ⟨moment, hmoment⟩ := Option.isSome_iff_exists.mp (hlogged.moment sequence e he hacquired)
  unfold ReportsConsumeTime
  rw [BufferQueue.lastConsumeTime_releaseBuffer he hacquired, hlogged.recorded sequence e he, hmoment]
  constructor
  · rintro ⟨m, hm, htime⟩
    rw [Option.some.injEq] at hm ⊢
    omega
  · intro hm
    rw [Option.some.injEq] at hm
    exact ⟨moment, rfl, by rw [hm]⟩

def dropsFirst : List (ConsumeCall × Int) :=
  [(.lpp (.queue (.requestBuffer sampleConfig ⟨1, 1, true, true⟩)), 10),
    (.lpp (.queue (.requestBuffer sampleConfig ⟨2, 2, true, true⟩)), 20),
    (.lpp (.queue (.flushBuffer ⟨1, some ∅, invalidFence, ⟨[], 0, 1⟩, ⟨.ok, 30⟩⟩)), 30),
    (.lpp (.queue (.flushBuffer ⟨2, some ∅, invalidFence, ⟨[], 0, 2⟩, ⟨.ok, 40⟩⟩)), 40),
    (.acquireByTimestampSection 50 true, 100)]

def afterDropsFirst : LppQueue × AcquireLog :=
  execute consumeNext (LppQueue.start { listener := true }, {}) dropsFirst

theorem dropsFirst_run :
    Run ConsumeStep (LppQueue.start { listener := true }, {}) dropsFirst afterDropsFirst :=
  .of_legal (fun _ _ h => ⟨h.1, h.2.1, rfl, h.2.2⟩) (show Legal consumeNext (fun s a =>
    a.1.AtClock a.2 ∧ a.1.Fresh s.1 ∧ (consumeNext s a).1.queue.fault = false) _ _ by decide)

theorem first_acquired :
    ∃ e, afterDropsFirst.1.queue.bufferQueueCache.find 1 = some e ∧ e.state = .acquired :=
  ⟨_, rfl, rfl⟩

theorem reportsConsumeTime_iff_dropsFirst :
    ReportsConsumeTime afterDropsFirst 1 none ⟨150, 5, fun _ => true⟩ ↔
      afterDropsFirst.2.moment 1 = some (afterDropsFirst.2.recorded 1) := by
  obtain ⟨e, he, hacquired⟩ := first_acquired
  exact reportsConsumeTime_iff dropsFirst_run he hacquired none ⟨150, 5, fun _ => true⟩

/-- Nothing has been recorded for it, so its release reports the whole clock. -/
theorem drop_reports_clock :
    ¬ ∀ (settings : QueueSettings) (as : List (ConsumeCall × Int)) (s : LppQueue × AcquireLog)
      (sequence : ℕ) (e : BufferElement) (fence : Option SyncFence) (env : ReleaseEnv),
      Run ConsumeStep (LppQueue.start settings, {}) as s →
      s.1.queue.bufferQueueCache.find sequence = some e → e.state = .acquired →
      ReportsConsumeTime s sequence fence env := by
  intro h
  obtain ⟨e, he, hacquired⟩ := first_acquired
  obtain ⟨moment, hmoment, htime⟩ := h { listener := true } dropsFirst afterDropsFirst 1 e none
    ⟨150, 5, fun _ => true⟩ dropsFirst_run he hacquired
  have hlogged : afterDropsFirst.2.moment 1 = some 100 := by decide
  obtain rfl : 100 = moment := Option.some.inj (hlogged.symm.trans hmoment)
  exact absurd htime (by decide)

end GraphicSurface
