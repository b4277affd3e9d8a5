import GraphicSurface.FlushRace

/-! `BufferQueueProducer::RequestBuffers` among the other calls. The batch flag of the queue is set
and cleared around a loop of requests, each of which takes `mutex_` for itself, so every other call
that comes in between finds the flag set. -/

namespace GraphicSurface

open Runs Interleaving

/-- A thread is in a call of the queue, or in `RequestBuffers` after its `Connect`: `got` requests
of the loop have succeeded, and `pc` is where the next one stands. -/
inductive BatchPc
  | queue (pc : Pc)
  | looping (config : BufferRequestConfig) (count got : ℕ) (pc : Pc)

inductive BatchAction
  | queue (a : Action)
  | requestBuffers (config : BufferRequestConfig) (count : ℕ)
  | loop

def setBatchHandle (q : BufferQueue) (batch : Bool) : BufferQueue := { q with isBatch := batch }

/-- `RequestBuffers` when its loop has ended with `ret`. -/
def leaveBatch (q : BufferQueue) (got : ℕ) (ret : GSError) : BatchPc × BufferQueue :=
  (.queue (.idle (some (.code (if got = 0 then ret else .ok)))), setBatchHandle q false)

def batchThread : Thread BufferQueue BatchPc BatchAction := fun t q pc a =>
  match pc, a with
  | .queue pc, .queue a => (queueThread t q pc a).map fun r => (.queue r.1, r.2)
  | .queue (.idle _), .requestBuffers config count =>
    some (.looping config count 0 (.idle none), setBatchHandle q true)
  | .looping config count got (.idle none), .loop =>
    if got < count then
      (queueThread t q (.idle none) (.call (.requestBuffer config))).map fun r =>
        (.looping config count got r.1, r.2)
    else some (leaveBatch q got .ok)
  | .looping config count got (.idle (some (.request reply))), .loop =>
    if reply.ret = .ok then some (.looping config count (got + 1) (.idle none), q)
    else some (leaveBatch q got reply.ret)
  | .looping _ _ _ (.idle _), _ => none
  | .looping config count got pc, .queue a =>
    (queueThread t q pc a).map fun r => (.looping config count got r.1, r.2)
  | _, _ => none

/-- The ordinary requests that began when the status was false, and since when it has not been true:
which threads made one last, and whether one of its sections has changed the cache. -/
structure Watch where
  since : ℕ → Bool
  changed : ℕ → Bool

def recordRequests (t : ℕ) (w : Watch) (q : BufferQueue) (pc : BatchPc) (a : BatchAction)
    (r : BatchPc × BufferQueue) : Watch :=
  if q.isValidStatus || r.2.isValidStatus then { w with since := fun _ => false }
  else
    match pc, a with
    | .queue (.idle _), .queue (.call (.requestBuffer _)) =>
      { since := Function.update w.since t true
        changed := Function.update w.changed t (decide (r.2.bufferQueueCache ≠ q.bufferQueueCache)) }
    | .queue (.idle _), _ => { w with since := Function.update w.since t false }
    | _, _ =>
      { w with
        changed := Function.update w.changed t
          (w.changed t || decide (r.2.bufferQueueCache ≠ q.bufferQueueCache)) }

def ReusePoint.Passes : ReusePoint → Prop
  | .done reply => reply.ret ≠ .noConsumer
  | .setupNewBuffer _ | .reallocBuffer _ => True

namespace BufferQueue

variable {q : BufferQueue} {config : BufferRequestConfig}

/-- The queue is full, no free buffer can be taken and the request may block. -/
def MustWait (q : BufferQueue) (config : BufferRequestConfig) : Prop :=
  (q.isPriorityAlloc && decide (q.getUsedSize < q.unreservedSize)) = false ∧
    (q.popFromFreeListLocked config).1 = none ∧ q.unreservedSize ≤ q.getUsedSize ∧
      q.requestBufferNoBlockMode = false

instance (q : BufferQueue) (config : BufferRequestConfig) : Decidable (q.MustWait config) :=
  inferInstanceAs (Decidable (_ ∧ _ ∧ _ ∧ _))

def WaitsInBatch (q : BufferQueue) (config : BufferRequestConfig) : Prop :=
  checkRequestConfig { config with usage := config.usage ||| q.defaultUsage } = .ok ∧
    (q.isAllocatingBuffer = true ∨
      q.MustWait { config with usage := config.usage ||| q.defaultUsage })

instance (q : BufferQueue) (config : BufferRequestConfig) : Decidable (q.WaitsInBatch config) :=
  inferInstanceAs (Decidable (_ ∧ (_ ∨ _)))

theorem popFromFreeListLocked_of_none {q₁ : BufferQueue}
    (h : q.popFromFreeListLocked config = (none, q₁)) :
    q₁.bufferQueueCache = q.bufferQueueCache ∧ q₁.unreservedSize = q.unreservedSize ∧
      q₁.requestBufferNoBlockMode = q.requestBufferNoBlockMode := by
  unfold popFromFreeListLocked popFrontFree at h
  split at h
  · obtain ⟨-, rfl⟩ := Prod.mk.inj h
    exact ⟨rfl, rfl, rfl⟩
  · split_ifs at h
    · cases h
      exact ⟨rfl, rfl, rfl⟩
    · split at h
      · cases h
        exact ⟨rfl, rfl, rfl⟩
      · split at h
        · cases h
          exact ⟨rfl, rfl, rfl⟩
        · cases h

theorem ret_updateReuseBufferState (q : BufferQueue) (needRealloc : Bool) (sequence : ℕ)
    (listenerSeqAndFence : Bool) :
    (q.updateReuseBufferState needRealloc sequence listenerSeqAndFence).1.ret ≠ .noConsumer := by
  unfold updateReuseBufferState
  split
  · exact nofun
  · dsimp only
    split_ifs <;> exact nofun

theorem reuseBuffer_passes (q : BufferQueue) (config : BufferRequestConfig)
    (buffer : SurfaceBuffer) (listenerSeqAndFence : Bool) :
    (q.reuseBuffer config buffer listenerSeqAndFence).1.Passes := by
  unfold reuseBuffer
  split
  · change GSError.internal ≠ .noConsumer
    decide
  · split_ifs
    · exact ret_updateReuseBufferState q false buffer.seqNum listenerSeqAndFence
    · change GSError.noBuffer ≠ .noConsumer
      decide
    · trivial

theorem reuseBufferForBlockMode_passes (h : (!q.isValidStatus && !q.isBatch) = false)
    (config : BufferRequestConfig) : (q.reuseBufferForBlockMode config).1.Passes := by
  unfold reuseBufferForBlockMode
  rw [h, if_neg Bool.false_ne_true]
  split
  · exact reuseBuffer_passes _ config _ false
  · change GSError.noBuffer ≠ .noConsumer
    decide

theorem reuseBufferForNoBlockMode_passes (q : BufferQueue) (config : BufferRequestConfig) :
    (q.reuseBufferForNoBlockMode config).1.Passes := by
  unfold reuseBufferForNoBlockMode
  split
  · exact reuseBuffer_passes _ config _ false
  · change GSError.noBuffer ≠ .noConsumer
    decide

theorem requestBufferBody_of_mustWait (h : q.MustWait config) :
    (q.requestBufferBody config false).1 = .waitReq config ∧
      (q.requestBufferBody config false).2.bufferQueueCache = q.bufferQueueCache := by
  obtain ⟨hpriority, hnone, hfull, hblock⟩ := h
  cases hpop : q.popFromFreeListLocked config with
  | mk found q₁ =>
    obtain rfl : found = none := by rw [← hnone, hpop]
    obtain ⟨hcache, hsize, hmode⟩ := popFromFreeListLocked_of_none hpop
    have hfull₁ : q₁.unreservedSize ≤ q₁.getUsedSize := by
      rwa [hsize, getUsedSize, hcache]
    unfold requestBufferBody
    dsimp only
    rw [hpriority, hpop]
    simp only [Bool.not_false, Bool.true_or, if_true, Bool.false_eq_true, if_false]
    rw [if_pos hfull₁, hmode, hblock]
    exact ⟨rfl, hcache⟩

theorem requestBufferBody_of_not_mustWait (h : ¬ q.MustWait config) :
    ∃ point, (q.requestBufferBody config false).1 = .reached point ∧ point.Passes := by
  unfold requestBufferBody
  dsimp only
  by_cases hpriority : (q.isPriorityAlloc && decide (q.getUsedSize < q.unreservedSize)) = false
  · rw [hpriority]
    simp only [Bool.not_false, Bool.true_or, if_true, Bool.false_eq_true, if_false]
    cases hpop : q.popFromFreeListLocked config with
    | mk found q₁ =>
      cases found with
      | some buffer => exact ⟨_, rfl, reuseBuffer_passes q₁ config buffer false⟩
      | none =>
        obtain ⟨hcache, hsize, hmode⟩ := popFromFreeListLocked_of_none hpop
        dsimp only
        by_cases hfull : q₁.unreservedSize ≤ q₁.getUsedSize
        · rw [if_pos hfull, hmode]
          cases hblock : q.requestBufferNoBlockMode with
          | false =>
            have hfull' : q.unreservedSize ≤ q.getUsedSize := by
              rwa [hsize, getUsedSize, hcache] at hfull
            have hnone : (q.popFromFreeListLocked config).1 = none := by rw [hpop]
            exact absurd ⟨hpriority, hnone, hfull', hblock⟩ h
          | true => exact ⟨_, rfl, reuseBufferForNoBlockMode_passes q₁ config⟩
        · rw [if_neg hfull]
          exact ⟨_, rfl, trivial⟩
  · rw [Bool.not_eq_false] at hpriority
    rw [hpriority]
    exact ⟨_, rfl, trivial⟩

end BufferQueue

/-- The call has been turned away by a status check, or it waits for one. -/
def Pc.Refused : Pc → Prop
  | .idle reply => reply = some (.request (.error .noConsumer))
  | .requestWait false _ | .requestBlocked false _ => True
  | _ => False

def BatchPc.Refused : BatchPc → Prop
  | .queue pc => pc.Refused
  | .looping _ _ _ _ => False

namespace BufferQueue

variable {q : BufferQueue} {config : BufferRequestConfig}

theorem reach_not_refused {point : ReusePoint} (h : point.Passes) :
    ¬ (q.reach false point).1.Refused := by
  cases point with
  | done reply =>
    intro hrefused
    have hreply : Reply.request reply = .request (.error .noConsumer) := Option.some.inj hrefused
    obtain rfl := Reply.request.inj hreply
    exact h rfl
  | setupNewBuffer job => exact id
  | reallocBuffer job => exact id

theorem requestSection_refused_iff :
    (q.requestSection false config).1.Refused ∧
        (q.requestSection false config).2.bufferQueueCache = q.bufferQueueCache ↔
      q.MustWait config := by
  unfold requestSection
  constructor
  · rintro ⟨hrefused, -⟩
    by_contra hgoes
    obtain ⟨point, hpoint, hpasses⟩ := requestBufferBody_of_not_mustWait hgoes
    cases hbody : q.requestBufferBody config false with
    | mk found q₁ =>
      rw [hbody] at hrefused hpoint
      dsimp only at hpoint
      subst hpoint
      exact reach_not_refused hpasses hrefused
  · intro hwaits
    obtain ⟨hpoint, hcache⟩ := requestBufferBody_of_mustWait hwaits
    cases hbody : q.requestBufferBody config false with
    | mk found q₁ =>
      rw [hbody] at hpoint hcache
      dsimp only at hpoint
      subst hpoint
      exact ⟨trivial, hcache⟩

theorem startRequest_of_noBatch (hstatus : q.isValidStatus = false) (hbatch : q.isBatch = false) :
    q.startRequest false config = (.idle (some (.request (.error .noConsumer))), q) := by
  have hcheck : q.requestBufferCheckStatus = .noConsumer := by
    unfold requestBufferCheckStatus
    rw [hbatch, hstatus]
    rfl
  unfold startRequest requestBufferCheck
  rw [hcheck]
  rfl

theorem startRequest_refused_iff (hstatus : q.isValidStatus = false) :
    (q.startRequest false config).1.Refused ∧
        (q.startRequest false config).2.bufferQueueCache = q.bufferQueueCache ↔
      (q.isBatch = true → q.WaitsInBatch config) := by
  cases hbatch : q.isBatch with
  | false =>
    rw [startRequest_of_noBatch hstatus hbatch]
    simp [Pc.Refused]
  | true =>
    have hcheckStatus : q.requestBufferCheckStatus = .ok := by
      unfold requestBufferCheckStatus
      rw [if_pos hbatch]
    unfold startRequest requestBufferCheck WaitsInBatch
    rw [if_neg (not_not.mpr hcheckStatus)]
    dsimp only
    by_cases hcheck :
        checkRequestConfig { config with usage := config.usage ||| q.defaultUsage } = .ok
    · rw [if_neg (not_not.mpr hcheck)]
      dsimp only
      cases hbusy : q.isAllocatingBuffer with
      | true => simp [hcheck, Pc.Refused]
      | false => simpa [hcheck] using requestSection_refused_iff
    · rw [if_pos hcheck]
      simp [hcheck, Pc.Refused, RequestReply.error]

theorem blocked_refused_iff (hstatus : q.isValidStatus = false) {r : Pc × BufferQueue}
    (hr : (Pc.requestBlocked false config).advance q .go = some r) :
    r.1.Refused ∧ r.2.bufferQueueCache = q.bufferQueueCache ↔ q.isBatch = false := by
  obtain rfl : (q.reuseBufferForBlockMode config).2.reach false
      (q.reuseBufferForBlockMode config).1 = r := Option.some.inj hr
  cases hbatch : q.isBatch with
  | false =>
    have hblock : q.reuseBufferForBlockMode config = (.done (.error .noConsumer), q) := by
      unfold reuseBufferForBlockMode
      rw [hbatch, hstatus]
      rfl
    rw [hblock]
    simp [reach, finishCall, Pc.Refused]
  | true =>
    have hpasses := reuseBufferForBlockMode_passes (q := q) (by rw [hbatch]; simp) config
    simp only [Bool.true_eq_false, iff_false, not_and]
    exact fun hrefused => absurd hrefused (reach_not_refused hpasses)

end BufferQueue

/-- An ordinary request under a false status meets no batch, or it waits until the batch is over. -/
def HeedsStatus (t : ℕ) (s : BufferQueue × Watch) : BatchPc → BatchAction → Prop
  | .queue (.idle _), .queue (.call (.requestBuffer config)) =>
    s.1.isValidStatus = false → s.1.isBatch = true → s.1.WaitsInBatch config
  | .queue (.requestWait false config), .queue .go => s.2.since t = true → s.1.MustWait config
  | .queue (.requestBlocked false _), .queue .go => s.2.since t = true → s.1.isBatch = false
  | _, _ => True

abbrev watchedThread : Thread (BufferQueue × Watch) BatchPc BatchAction :=
  batchThread.observed recordRequests

/-- An ordinary request that is watched has touched nothing and will be turned away. -/
def Watch.Holds (t : ℕ) (s : BufferQueue × Watch) (pc : BatchPc) : Prop :=
  s.2.since t = true → s.1.isValidStatus = false ∧ s.2.changed t = false ∧ pc.Refused

theorem Pc.advance_requestWait {q : BufferQueue} {detach : Bool} {config : BufferRequestConfig}
    {r : Pc × BufferQueue} (h : (Pc.requestWait detach config).advance q .go = some r) :
    q.isAllocatingBuffer = false ∧ r = q.requestSection detach config := by
  change (if q.isAllocatingBuffer then none else some (q.requestSection detach config)) = some r at h
  split_ifs at h with hbusy
  cases h
  exact ⟨Bool.eq_false_of_not_eq_true hbusy, rfl⟩

section Step

variable {t : ℕ} {s : BufferQueue × Watch} {pc : BatchPc} {a : BatchAction}
  {r : BatchPc × BufferQueue × Watch}

theorem since_recordRequests {w : Watch} {q : BufferQueue} {r : BatchPc × BufferQueue}
    (h : (recordRequests t w q pc a r).since t = true) :
    q.isValidStatus = false ∧ r.2.isValidStatus = false ∧
      ((∃ reply config, pc = .queue (.idle reply) ∧ a = .queue (.call (.requestBuffer config)) ∧
          (recordRequests t w q pc a r).changed t =
            decide (r.2.bufferQueueCache ≠ q.bufferQueueCache)) ∨
        ((∀ reply, pc ≠ .queue (.idle reply)) ∧ w.since t = true ∧
          (recordRequests t w q pc a r).changed t =
            (w.changed t || decide (r.2.bufferQueueCache ≠ q.bufferQueueCache)))) := by
  unfold recordRequests at h ⊢
  by_cases hstatus : (q.isValidStatus || r.2.isValidStatus) = true
  · rw [if_pos hstatus] at h
    exact absurd h Bool.false_ne_true
  · rw [if_neg hstatus] at h ⊢
    simp only [Bool.not_eq_true, Bool.or_eq_false_iff] at hstatus
    refine ⟨hstatus.1, hstatus.2, ?_⟩
    split at h
    · exact .inl ⟨_, _, rfl, rfl, by simp⟩
    · simp at h
    · rename_i hidle _
      exact .inr ⟨fun reply hpc => hidle reply hpc, h, by simp⟩

theorem Watch.Holds.step_iff (h : Watch.Holds t s pc) (hr : watchedThread t s pc a = some r)
    (hsince : r.2.2.since t = true) :
    HeedsStatus t s pc a ↔ r.2.2.changed t = false ∧ r.1.Refused := by
  obtain ⟨r, hr', rfl⟩ := Thread.observed_eq_some.mp hr
  obtain ⟨hstatus, -, hbegins | ⟨hinside, hbefore, hchanged⟩⟩ := since_recordRequests hsince
  · obtain ⟨reply, config, rfl, rfl, hchanged⟩ := hbegins
    obtain ⟨r, hqueue, rfl⟩ := Option.map_eq_some_iff.mp hr'
    obtain ⟨-, hadvance, -⟩ := queueThread_eq_some.mp hqueue
    obtain rfl : s.1.startRequest false config = r := Option.some.inj hadvance
    dsimp only at hchanged ⊢
    rw [hchanged, decide_eq_false_iff_not, not_ne_iff]
    refine Iff.trans ?_ ((BufferQueue.startRequest_refused_iff hstatus).symm.trans and_comm)
    exact ⟨fun h => h hstatus, fun h _ => h⟩
  · obtain ⟨-, hsame, hrefused⟩ := h hbefore
    dsimp only
    rw [hchanged, hsame, Bool.false_or, decide_eq_false_iff_not, not_ne_iff]
    cases pc with
    | looping => exact hrefused.elim
    | queue pc =>
      have haction : ∃ a', a = .queue a' := by
        cases a with
        | queue a' => exact ⟨a', rfl⟩
        | requestBuffers | loop => cases pc <;> first | exact absurd rfl (hinside _) | cases hr'
      obtain ⟨a, rfl⟩ := haction
      obtain ⟨r, hqueue, rfl⟩ := Option.map_eq_some_iff.mp hr'
      obtain ⟨-, hadvance, -⟩ := queueThread_eq_some.mp hqueue
      dsimp only
      rw [and_comm]
      cases pc with
      | idle reply => exact absurd rfl (hinside reply)
      | requestWait detach config =>
        cases detach with
        | true => exact hrefused.elim
        | false =>
          cases a with
          | go =>
            obtain ⟨-, rfl⟩ := Pc.advance_requestWait hadvance
            refine Iff.trans ?_ BufferQueue.requestSection_refused_iff.symm
            exact ⟨fun h => h hbefore, fun h _ => h⟩
          | call | allocated | preAllocated | answered => cases hadvance
      | requestBlocked detach config =>
        cases detach with
        | true => exact hrefused.elim
        | false =>
          cases a with
          | go =>
            refine Iff.trans ?_ (BufferQueue.blocked_refused_iff hstatus hadvance).symm
            exact ⟨fun h => h hbefore, fun h _ => h⟩
          | call | allocated | preAllocated | answered => cases hadvance
      | _ => exact hrefused.elim

theorem recordRequests_of_ne {u : ℕ} (hne : u ≠ t) {w : Watch} {q : BufferQueue}
    {r : BatchPc × BufferQueue} (h : (recordRequests t w q pc a r).since u = true) :
    r.2.isValidStatus = false ∧ w.since u = true ∧
      (recordRequests t w q pc a r).changed u = w.changed u := by
  unfold recordRequests at h ⊢
  by_cases hstatus : (q.isValidStatus || r.2.isValidStatus) = true
  · rw [if_pos hstatus] at h
    exact absurd h Bool.false_ne_true
  · rw [if_neg hstatus] at h ⊢
    simp only [Bool.not_eq_true, Bool.or_eq_false_iff] at hstatus
    refine ⟨hstatus.2, ?_⟩
    split at h
    · simpa [Function.update_of_ne hne] using h
    · simpa [Function.update_of_ne hne] using h
    · simpa [Function.update_of_ne hne] using h

theorem batchThread_fault {q : BufferQueue} {r : BatchPc × BufferQueue} (hfault : q.fault = false)
    (hr : batchThread t q pc a = some r) : r.2.fault = false := by
  have hqueue {p : Pc} {b : Action} {g : Pc × BufferQueue → BatchPc}
      (h : (queueThread t q p b).map (fun r => (g r, r.2)) = some r) : r.2.fault = false := by
    obtain ⟨r', hr', rfl⟩ := Option.map_eq_some_iff.mp h
    exact (queueThread_eq_some.mp hr').2.2
  unfold batchThread at hr
  split at hr
  · exact hqueue hr
  · cases hr
    exact hfault
  · split_ifs at hr
    · exact hqueue hr
    · cases hr
      exact hfault
  · split_ifs at hr <;> cases hr <;> exact hfault
  · cases hr
  · exact hqueue hr
  · cases hr

theorem Watch.Holds.step (h : Watch.Holds t s pc) (hok : HeedsStatus t s pc a)
    (hr : watchedThread t s pc a = some r) : Watch.Holds t r.2 r.1 := by
  intro hsince
  obtain ⟨hchanged, hrefused⟩ := (h.step_iff hr hsince).mp hok
  obtain ⟨r, -, rfl⟩ := Thread.observed_eq_some.mp hr
  exact ⟨(since_recordRequests hsince).2.1, hchanged, hrefused⟩

theorem Watch.Holds.other {u : ℕ} {p : BatchPc} (h : Watch.Holds u s p) (hne : u ≠ t)
    (hr : watchedThread t s pc a = some r) : Watch.Holds u r.2 p := by
  intro hsince
  obtain ⟨r, -, rfl⟩ := Thread.observed_eq_some.mp hr
  obtain ⟨hstatus, hbefore, hsame⟩ := recordRequests_of_ne hne hsince
  obtain ⟨-, hchanged, hrefused⟩ := h hbefore
  exact ⟨hstatus, hsame.trans hchanged, hrefused⟩

end Step

def batchStart (s : QueueSettings) : Machine (BufferQueue × Watch) BatchPc :=
  ⟨(BufferQueue.start s, ⟨fun _ => false, fun _ => false⟩), fun _ => .queue (.idle none)⟩

/-- When no ordinary request that comes after `SetStatus(false)` is let through by a batch, each of
them is turned away and leaves the cache as it is. The second part says that nothing less will do,
the third that without a batch the request returns at once. -/
theorem batch_mode_stays_apart {s : QueueSettings} {ls : List (ℕ × BatchAction)}
    {m : Machine (BufferQueue × Watch) BatchPc}
    (run : Run (TurnIf watchedThread HeedsStatus) (batchStart s) ls m) :
    (∀ t, m.shared.2.since t = true →
      m.shared.2.changed t = false ∧ (m.procs t).Refused) ∧
    (∀ l m', Turn watchedThread m l m' → m'.shared.2.since l.1 = true →
      (HeedsStatus l.1 m.shared (m.procs l.1) l.2 ↔
        m'.shared.2.changed l.1 = false ∧ (m'.procs l.1).Refused)) ∧
    (∀ t reply config, m.procs t = .queue (.idle reply) → m.shared.1.isValidStatus = false →
      m.shared.1.isBatch = false →
      ∃ m', Turn watchedThread m (t, .queue (.call (.requestBuffer config))) m' ∧
        m'.shared.1 = m.shared.1 ∧
        m'.procs t = .queue (.idle (some (.request (.error .noConsumer))))) := by
  have hstart : ∀ t, Watch.Holds t (batchStart s).shared ((batchStart s).procs t) :=
    fun t hsince => absurd hsince Bool.false_ne_true
  obtain ⟨hfault, hholds⟩ := rely_guarantee (fun s => s.1.fault = false) Watch.Holds
    (fun t s pc a r hfault h hok hr => ⟨by
      obtain ⟨r, hr', rfl⟩ := Thread.observed_eq_some.mp hr
      exact batchThread_fault hfault hr', h.step hok hr⟩)
    (fun t s pc a r u p _ _ _ hr hne h => h.other hne hr) rfl hstart run
  refine ⟨fun t hsince => (hholds t hsince).2, ?_, ?_⟩
  · rintro l m' hturn hsince
    obtain ⟨r, hr, rfl⟩ := hturn.cases
    rw [Machine.procs_put_self]
    exact (hholds l.1).step_iff hr hsince
  · intro t reply config hidle hstatus hbatch
    have hqueue : queueThread t m.shared.1 (.idle reply) (.call (.requestBuffer config)) =
        some (.idle (some (.request (.error .noConsumer))), m.shared.1) := by
      refine queueThread_eq_some.mpr ⟨rfl, ?_, hfault⟩
      change some (m.shared.1.startRequest false config) = _
      rw [BufferQueue.startRequest_of_noBatch hstatus hbatch]
    have hbatchStep : batchThread t m.shared.1 (m.procs t)
        (.queue (.call (.requestBuffer config))) =
        some (.queue (.idle (some (.request (.error .noConsumer)))), m.shared.1) := by
      rw [hidle]
      change (queueThread t m.shared.1 _ _).map _ = _
      rw [hqueue]
      rfl
    have hstep : ∃ w, watchedThread t m.shared (m.procs t)
        (.queue (.call (.requestBuffer config))) =
        some (.queue (.idle (some (.request (.error .noConsumer)))), m.shared.1, w) :=
      ⟨_, Thread.observed_eq_some.mpr ⟨_, hbatchStep, rfl⟩⟩
    obtain ⟨w, hstep⟩ := hstep
    have hturn : Turn watchedThread m (t, .queue (.call (.requestBuffer config)))
        (m.put t (.queue (.idle (some (.request (.error .noConsumer)))), m.shared.1, w)) := by
      change (watchedThread t m.shared (m.procs t) _).map _ = _
      rw [hstep]
      rfl
    exact ⟨_, hturn, rfl, Machine.procs_put_self m t _⟩

instance (t : ℕ) (s : BufferQueue × Watch) (pc : BatchPc) (a : BatchAction) :
    Decidable (HeedsStatus t s pc a) := by
  unfold HeedsStatus
  split <;> infer_instance

/-- A batch of one request, in the course of which the status is withdrawn, and a request of
another thread that comes when it is over. -/
def requestAfterBatch : List (ℕ × BatchAction) :=
  [(1, .requestBuffers sampleConfig 1), (2, .queue (.call (.configure (.setStatus false)))),
    (1, .loop), (1, .queue (.allocated ⟨1, 1, true, true⟩)), (1, .loop), (1, .loop),
    (0, .queue (.call (.requestBuffer sampleConfig)))]

theorem batch_mode_stays_apart_requestAfterBatch :
    ∃ m, Run (TurnIf watchedThread HeedsStatus) (batchStart listening) requestAfterBatch m ∧
      m.shared.2.since 0 = true ∧ m.shared.2.changed 0 = false ∧ (m.procs 0).Refused := by
  have legal : Legal (Machine.next watchedThread)
      (fun m l => (m.next? watchedThread l).isSome ∧ HeedsStatus l.1 m.shared (m.procs l.1) l.2)
      (batchStart listening) requestAfterBatch := by
    decide
  have run : Run (TurnIf watchedThread HeedsStatus) (batchStart listening) requestAfterBatch _ :=
    .of_legal (fun _ _ h => ⟨Turn.next h.1, h.2⟩) legal
  exact ⟨_, run, by decide, (batch_mode_stays_apart run).1 0 (by decide)⟩

/-- A request that comes after the status is withdrawn, while the batch is still under way. -/
def requestInBatch : List (ℕ × BatchAction) :=
  [(1, .requestBuffers sampleConfig 2), (2, .queue (.call (.configure (.setStatus false)))),
    (0, .queue (.call (.requestBuffer sampleConfig))),
    (0, .queue (.allocated ⟨1, 1, true, true⟩))]

def BatchPc.ret? : BatchPc → Option GSError
  | .queue (.idle (some (.request reply))) => some reply.ret
  | .queue (.idle (some (.code ret))) => some ret
  | _ => none

/-- It gets a new buffer. -/
theorem batch_lets_request_through :
    ∃ m, Run (Turn watchedThread) (batchStart listening) requestInBatch m ∧
      m.shared.2.since 0 = true ∧ m.shared.1.isValidStatus = false ∧
        (m.procs 0).ret? = some .ok ∧ m.shared.2.changed 0 = true := by
  have legal : Legal (Machine.next watchedThread)
      (fun m l => (m.next? watchedThread l).isSome) (batchStart listening) requestInBatch := by
    decide
  exact ⟨_, .of_legal (fun _ _ h => Turn.next h) legal, by decide, by decide, by decide, by decide⟩

end GraphicSurface
