import GraphicSurface.ConcurrencyMoves
import GraphicSurface.RequestEffects
import GraphicSurface.Shrinking

/-! Requests that find the queue full and wait on `waitReqCon_`, among the calls that end such a
wait. `WaitForCondition` lets a request go on when a buffer is free and also when the queue has room
for a new one; what comes after the wait looks at the free list only. -/

namespace GraphicSurface

open Runs Interleaving

/-- Calls that change how much room there is, beside those of `Call`. -/
inductive RoomCall
  | setQueueSize (queueSize : ℕ)
  | setMaxQueueSize (queueSize : ℕ)
  | goBackground
  | cleanReleasedBuffers
  | cleanProducerBySeqNum (seqNums : List ℕ)
  | detachBuffer (sequence : ℕ)
  | setBatchHandle (batch : Bool)

inductive RoomWait
  | setQueueSize (queueSize count : ℕ)
  | goBackground
  | cleanReleasedBuffers

inductive RoomPc
  | queue (pc : Pc)
  | waiting (w : RoomWait)

inductive RoomAction
  | queue (a : Action)
  | call (c : RoomCall)
  | go

def RoomPc.code (ret : GSError) : RoomPc := .queue (.idle (some (.code ret)))

/-- `SetQueueSizeLocked`, to its end or to the wait in `DeleteBuffersLocked`. -/
def BufferQueue.resize (q : BufferQueue) (queueSize : ℕ) : RoomPc × BufferQueue :=
  if q.detachReserveSlotNum ≤ q.clampedSize queueSize ∧
      q.clampedSize queueSize < q.bufferQueueSize ∧ q.isAllocatingBuffer then
    (.waiting (.setQueueSize (q.clampedSize queueSize)
      (q.bufferQueueSize - q.clampedSize queueSize)), q)
  else (.code (q.setQueueSizeLocked queueSize).1, (q.setQueueSizeLocked queueSize).2)

def RoomWait.finish (q : BufferQueue) : RoomWait → RoomPc × BufferQueue
  | setQueueSize queueSize count =>
    (.code .ok, { q.deleteBuffersLocked count with bufferQueueSize := queueSize })
  | goBackground => (.code .ok, q.goBackground)
  | cleanReleasedBuffers =>
    (.queue (.idle (some (.cleaned q.cleanReleasedBuffers.1))), q.cleanReleasedBuffers.2)

def RoomWait.start (q : BufferQueue) (w : RoomWait) : RoomPc × BufferQueue :=
  if q.isAllocatingBuffer then (.waiting w, q) else w.finish q

def RoomCall.start (q : BufferQueue) : RoomCall → RoomPc × BufferQueue
  | setQueueSize queueSize =>
    if queueSize = 0 ∨ surfaceMaxQueueSize < queueSize then (.code .invalidArguments, q)
    else q.resize queueSize
  | setMaxQueueSize queueSize =>
    if queueSize = 0 ∨ surfaceMaxQueueSize < queueSize then (.code .invalidArguments, q)
    else if queueSize < q.bufferQueueSize then
      { q with maxQueueSize := queueSize }.resize queueSize
    else (.code .ok, { q with maxQueueSize := queueSize })
  | goBackground => RoomWait.start q .goBackground
  | cleanReleasedBuffers =>
    if q.freeList = [] then (.queue (.idle (some (.cleaned []))), q)
    else RoomWait.start q .cleanReleasedBuffers
  | cleanProducerBySeqNum seqNums => (.code .ok, q.cleanProducerBySeqNum seqNums)
  | detachBuffer sequence => (.code (q.detachBuffer sequence).1, (q.detachBuffer sequence).2)
  | setBatchHandle batch => (.code .ok, { q with isBatch := batch })

def roomThread : Thread BufferQueue RoomPc RoomAction := fun t q pc a =>
  match pc, a with
  | .queue pc, .queue a => (queueThread t q pc a).map fun r => (.queue r.1, r.2)
  | .queue (.idle _), .call c => some (c.start q)
  | .waiting w, .go => if q.isAllocatingBuffer then none else some (w.finish q)
  | _, _ => none

/-- The call has just returned `GSERROR_NO_BUFFER` to a request. -/
def Pc.Denied : Pc → Prop
  | .idle (some (.request reply)) => reply.ret = .noBuffer
  | _ => False

def RoomPc.Denied : RoomPc → Prop
  | .queue pc => pc.Denied
  | .waiting _ => False

instance (pc : Pc) : Decidable pc.Denied := by
  unfold Pc.Denied
  split <;> infer_instance

instance (pc : RoomPc) : Decidable pc.Denied :=
  match pc with
  | .queue pc => inferInstanceAs (Decidable pc.Denied)
  | .waiting _ => inferInstanceAs (Decidable False)

/-- A request that was denied, and the queue in the section in which it was. -/
structure Denial where
  thread : ℕ
  queue : BufferQueue

def recordDenials (t : ℕ) (denials : List Denial) (_ : BufferQueue) (_ : RoomPc) (_ : RoomAction)
    (r : RoomPc × BufferQueue) : List Denial :=
  if r.1.Denied then ⟨t, r.2⟩ :: denials else denials

/-- No room for a new buffer, and none that is free and not locked. -/
def BufferQueue.Exhausted (q : BufferQueue) : Prop :=
  q.unreservedSize ≤ q.getUsedSize ∧ ∀ k ∈ q.freeList, k = q.acquireLastFlushedBufSequence

/-- A request that goes on after its wait is turned away for the status, or there is no room either,
or some free buffer can be reused as it is. -/
def BufferQueue.ServesWoken (q : BufferQueue) (config : BufferRequestConfig) : Prop :=
  (q.isValidStatus = false ∧ q.isBatch = false) ∨ q.unreservedSize ≤ q.getUsedSize ∨
    ∃ k ∈ q.freeList, q.reusable config k = true

def ServesWoken (q : BufferQueue) : RoomPc → RoomAction → Prop
  | .queue (.requestBlocked _ config), .queue .go => q.ServesWoken config
  | _, _ => True

namespace BufferQueue

variable {q q' : BufferQueue} {config : BufferRequestConfig} {buffer : SurfaceBuffer}
  {detach : Bool} {point : ReusePoint} {reply : RequestReply}

theorem popFromFreeListLocked_fails (hp : q.popFromFreeListLocked config = (none, q'))
    (hfault : q'.fault = false) :
    q' = q ∧ (∀ k ∈ q.freeList, q.reusable config k = false) ∧
      (q.getUsedSize < q.unreservedSize ∨
        ∀ k ∈ q.freeList, k = q.acquireLastFlushedBufSequence) := by
  unfold popFromFreeListLocked at hp
  split at hp
  · rename_i k hfind
    obtain ⟨hnone, -⟩ := Prod.mk.inj hp
    have hreusable : q.reusable config k = true := List.find?_some hfind
    cases he : q.bufferQueueCache.find k with
    | none => simp [reusable, he] at hreusable
    | some e => simp [he] at hnone
  · rename_i hfind
    have hnot : ∀ k ∈ q.freeList, q.reusable config k = false := by
      simpa using List.find?_eq_none.mp hfind
    split_ifs at hp with hempty
    · obtain ⟨-, rfl⟩ := Prod.mk.inj hp
      refine ⟨rfl, hnot, ?_⟩
      rcases hempty with hempty | hroom | hlocked
      · exact .inr (by simp [hempty])
      · exact .inl hroom
      · exact .inr (by simp [hlocked])
    · unfold popFrontFree at hp
      split at hp
      · rename_i hrot
        have hperm := mem_rotateLocked q
        rw [hrot] at hperm
        exact absurd (.inl (List.nil_perm.mp hperm)) hempty
      · split at hp
        · obtain ⟨-, rfl⟩ := Prod.mk.inj hp
          cases hfault
        · cases hp

theorem popFromFreeListLocked_of_room (hnone : ∀ k ∈ q.freeList, q.reusable config k = false)
    (hroom : q.getUsedSize < q.unreservedSize) : q.popFromFreeListLocked config = (none, q) := by
  have hfind : q.freeList.find? (q.reusable config) = none :=
    List.find?_eq_none.mpr (by simpa using hnone)
  simp only [popFromFreeListLocked, hfind, hroom, true_or, or_true, if_true]

theorem updateReuse_not_noBuffer (needRealloc : Bool) (sequence : ℕ) :
    (q.updateReuseBufferState needRealloc sequence false).1.ret ≠ .noBuffer := by
  unfold updateReuseBufferState
  split
  · exact nofun
  · simp only [Bool.false_eq_true, if_false]
    split_ifs <;> exact nofun

theorem reuseBuffer_not_noBuffer (hdone : (q.reuseBuffer config buffer false).1 = .done reply) :
    reply.ret ≠ .noBuffer := by
  unfold reuseBuffer at hdone
  split at hdone
  · cases hdone
    exact nofun
  · simp only [Bool.false_eq_true, if_false] at hdone
    split_ifs at hdone
    · cases hdone
      exact updateReuse_not_noBuffer false _
    · cases hdone

theorem detach_not_noBuffer (q : BufferQueue) (sequence : ℕ) :
    (q.detachBufferFromQueueLocked sequence .producerInvoker false).1 ≠ .noBuffer := by
  unfold detachBufferFromQueueLocked
  split
  · unfold detachBufferCheck
    split
    · exact nofun
    · dsimp only
      split_ifs <;> exact nofun
  · exact nofun

/-- The detach in `RequestAndDetachBuffer` has no such code. -/
theorem finishCall_denied (h : (q.finishCall detach reply).1.Denied) :
    reply.ret = .noBuffer ∧ (q.finishCall detach reply).2 = q := by
  unfold finishCall at h ⊢
  split
  · rename_i hok
    rw [if_pos hok] at h
    exact absurd h (detach_not_noBuffer q reply.retval.sequence)
  · rename_i hok
    rw [if_neg hok] at h
    exact ⟨h, rfl⟩

theorem reach_denied (h : (q.reach detach point).1.Denied) :
    ∃ reply, point = .done reply ∧ reply.ret = .noBuffer ∧ (q.reach detach point).2 = q := by
  cases point with
  | done reply => exact ⟨reply, rfl, finishCall_denied h⟩
  | setupNewBuffer job => exact h.elim
  | reallocBuffer job => exact h.elim

theorem reuseBufferForNoBlockMode_denied
    (hdone : (q.reuseBufferForNoBlockMode config).1 = .done reply) (hret : reply.ret = .noBuffer)
    (hfault : (q.reuseBufferForNoBlockMode config).2.fault = false) :
    (q.reuseBufferForNoBlockMode config).2 = q ∧ q.fault = false := by
  cases hpop : q.popFromDirtyListLocked with
  | mk buffer q₁ =>
    cases buffer with
    | some buffer =>
      simp only [reuseBufferForNoBlockMode, hpop] at hdone
      exact absurd hret (reuseBuffer_not_noBuffer hdone)
    | none =>
      simp only [reuseBufferForNoBlockMode, hpop] at hfault ⊢
      unfold popFromDirtyListLocked at hpop
      split at hpop
      · obtain ⟨-, rfl⟩ := Prod.mk.inj hpop
        exact ⟨rfl, hfault⟩
      · split at hpop
        · obtain ⟨-, rfl⟩ := Prod.mk.inj hpop
          cases hfault
        · cases hpop

theorem requestBufferCheck_not_noBuffer {ret : GSError}
    (hcheck : q.requestBufferCheck config = .error ret) : ret ≠ .noBuffer := by
  unfold requestBufferCheck requestBufferCheckStatus at hcheck
  dsimp only at hcheck
  split_ifs at hcheck <;> cases hcheck <;> exact nofun

theorem requestSection_denied (h : (q.requestSection detach config).1.Denied)
    (hfault : (q.requestSection detach config).2.fault = false) :
    (q.requestSection detach config).2.Exhausted := by
  have hsetup (q₀ : BufferQueue) : ¬ ((q₀.setupNewBufferLocked config).2.reach detach
      (q₀.setupNewBufferLocked config).1).1.Denied := id
  cases hprio : q.isPriorityAlloc && decide (q.getUsedSize < q.unreservedSize) with
  | true =>
    simp only [requestSection, requestBufferBody_of_priority hprio] at h
    exact absurd h (hsetup _)
  | false =>
    cases hpop : q.popFromFreeListLocked config with
    | mk buffer q₁ =>
      cases buffer with
      | some buffer =>
        simp only [requestSection, requestBufferBody_of_some hprio hpop] at h
        obtain ⟨reply, hdone, hret, -⟩ := reach_denied h
        exact absurd hret (reuseBuffer_not_noBuffer hdone)
      | none =>
        have hbody := requestBufferBody_of_none hprio hpop
        by_cases hfull : q₁.unreservedSize ≤ q₁.getUsedSize
        · rw [if_pos hfull] at hbody
          by_cases hblock : q₁.requestBufferNoBlockMode = true
          · rw [if_pos hblock] at hbody
            simp only [requestSection, hbody] at h hfault ⊢
            obtain ⟨reply, hdone, hret, hsame⟩ := reach_denied h
            rw [hsame] at hfault ⊢
            obtain ⟨hkept, hfault₁⟩ := reuseBufferForNoBlockMode_denied hdone hret hfault
            obtain ⟨rfl, -, hfree⟩ := popFromFreeListLocked_fails hpop hfault₁
            rw [hkept]
            exact ⟨hfull, hfree.resolve_left (not_lt.mpr hfull)⟩
          · rw [if_neg hblock] at hbody
            simp only [requestSection, hbody] at h
            exact h.elim
        · rw [if_neg hfull] at hbody
          simp only [requestSection, hbody] at h
          exact absurd h (hsetup _)

theorem startRequest_denied (h : (q.startRequest detach config).1.Denied)
    (hfault : (q.startRequest detach config).2.fault = false) :
    (q.startRequest detach config).2.Exhausted := by
  cases hcheck : q.requestBufferCheck config with
  | error ret =>
    simp only [startRequest, hcheck] at h
    exact absurd h (requestBufferCheck_not_noBuffer hcheck)
  | ok updateConfig =>
    simp only [startRequest, hcheck] at h hfault ⊢
    split_ifs at h hfault ⊢
    · exact h.elim
    · exact requestSection_denied h hfault

end BufferQueue

def Pc.ofRequest : Pc → Bool
  | idle (some (.request _)) | allocating _ _ => true
  | _ => false

/-- Nobody waits for the allocator with a reply in hand. -/
def Pc.Proper : Pc → Prop
  | allocating _ (.done _) => False
  | _ => True

theorem Pc.proper_of_quiet {pc : Pc} (h : pc.ofRequest = false) : pc.Proper ∧ ¬ pc.Denied := by
  constructor
  · unfold Proper
    split
    · cases h
    · trivial
  · unfold Denied
    split
    · cases h
    · exact id

theorem BufferQueue.reach_proper (q : BufferQueue) (detach : Bool) (point : ReusePoint) :
    (q.reach detach point).1.Proper := by
  cases point with
  | done reply =>
    unfold reach finishCall
    dsimp only
    split <;> trivial
  | setupNewBuffer job => trivial
  | reallocBuffer job => trivial

namespace BufferQueue

variable (q : BufferQueue)

theorem requestSection_proper (detach : Bool) (config : BufferRequestConfig) :
    (q.requestSection detach config).1.Proper := by
  unfold requestSection
  split
  · exact reach_proper _ _ _
  · trivial

theorem startRequest_proper (detach : Bool) (config : BufferRequestConfig) :
    (q.startRequest detach config).1.Proper := by
  unfold startRequest
  split
  · trivial
  · split
    · trivial
    · exact requestSection_proper q detach _

theorem handOutSection_quiet : q.handOutSection.1.ofRequest = false := by
  unfold handOutSection
  dsimp only
  split
  · split <;> rfl
  · rfl

theorem handOutResume_quiet (updateConfig : BufferRequestConfig)
    (configs : List BufferRequestConfig) :
    (q.handOutResume updateConfig configs).1.ofRequest = false := by
  unfold handOutResume
  dsimp only
  split
  · split <;> rfl
  · rfl

theorem afterRelease_quiet : q.afterRelease.1.ofRequest = false := by
  unfold afterRelease
  split
  · exact handOutSection_quiet q
  · rfl

theorem releaseSection_quiet (sequence : ℕ) (fence : Option SyncFence) (now mergeFd : Int) :
    (q.releaseSection sequence fence now mergeFd).1.ofRequest = false := by
  unfold releaseSection
  dsimp only
  split
  · split
    · rfl
    · split
      · rfl
      · exact afterRelease_quiet _
  · rfl

theorem attachSection_quiet (buffer : SurfaceBuffer) (timeOut : Int) :
    (q.attachSection buffer timeOut).1.ofRequest = false := by
  unfold attachSection
  split
  · split <;> rfl
  · split
    · rfl
    · dsimp only
      split <;> rfl

theorem preAllocSection_quiet (config : BufferRequestConfig) (count : ℕ) :
    (q.preAllocSection config count).1.ofRequest = false := by
  unfold preAllocSection
  dsimp only
  split_ifs <;> rfl

theorem nextCallback_quiet (handed : List (ℕ × Option SyncFence)) :
    (nextCallback handed).ofRequest = false := by
  unfold nextCallback
  split <;> rfl

end BufferQueue

theorem Call.start_answers {q : BufferQueue} {c : Call} (hfault : (c.start q).2.fault = false) :
    (c.start q).1.Proper ∧ ((c.start q).1.Denied → (c.start q).2.Exhausted) := by
  have hquiet (h : (c.start q).1.ofRequest = false) :
      (c.start q).1.Proper ∧ ((c.start q).1.Denied → (c.start q).2.Exhausted) :=
    ⟨(Pc.proper_of_quiet h).1, fun hdenied => absurd hdenied (Pc.proper_of_quiet h).2⟩
  cases c with
  | requestBuffer config =>
    exact ⟨q.startRequest_proper false config, fun h => BufferQueue.startRequest_denied h hfault⟩
  | requestAndDetachBuffer config =>
    exact ⟨q.startRequest_proper true config, fun h => BufferQueue.startRequest_denied h hfault⟩
  | cancelBuffer | acquireBuffer | attachBufferToQueue | attachAndFlushBuffer =>
    exact hquiet rfl
  | flushBuffer f =>
    refine hquiet ?_
    simp only [start]
    split_ifs <;> rfl
  | detachBufferFromQueue sequence invokerType isReserveSlot =>
    refine hquiet ?_
    simp only [start, BufferQueue.detachSection]
    split_ifs <;> rfl
  | releaseBuffer sequence fence now mergeFd =>
    exact hquiet (q.releaseSection_quiet sequence fence now mergeFd)
  | attachBuffer buffer timeOut =>
    refine hquiet ?_
    simp only [start]
    split_ifs <;> rfl
  | preAllocBuffers config count => exact hquiet (q.preAllocSection_quiet config count)
  | cleanCache =>
    refine hquiet ?_
    simp only [start]
    split_ifs <;> rfl
  | configure s =>
    refine hquiet ?_
    simp only [start, BufferQueue.configureSection]
    split <;> rfl

theorem finishRequest_not_noBuffer {q : BufferQueue} {a : Allocation} {point : ReusePoint}
    (h : ∀ reply, point ≠ .done reply) : (q.finishRequest a point).1.ret ≠ .noBuffer := by
  have hjob (job : AllocJob) (hpoint : point = .setupNewBuffer job ∨ point = .reallocBuffer job) :
      (q.finishRequest a point).1.ret ≠ .noBuffer := by
    have hanswer := BufferQueue.finishRequest_answer q a job hpoint
    have hret := congrArg Prod.fst hanswer
    change (q.finishRequest a point).1.ret = _ at hret
    rw [hret]
    split <;> exact nofun
  cases point with
  | done reply => exact absurd rfl (h reply)
  | setupNewBuffer job => exact hjob job (.inl rfl)
  | reallocBuffer job => exact hjob job (.inr rfl)

theorem Pc.advance_answers {q : BufferQueue} {pc : Pc} {a : Action} {r : Pc × BufferQueue}
    (hproper : pc.Proper) (hr : pc.advance q a = some r) (hfault : r.2.fault = false) :
    (r.1.Proper ∧ (r.1.Denied → r.2.Exhausted)) ∨
      ∃ detach config, pc = .requestBlocked detach config ∧ a = .go := by
  have hquiet (h : r.1.ofRequest = false) : (r.1.Proper ∧ (r.1.Denied → r.2.Exhausted)) ∨
      ∃ detach config, pc = .requestBlocked detach config ∧ a = .go :=
    .inl ⟨(proper_of_quiet h).1, fun hdenied => absurd hdenied (proper_of_quiet h).2⟩
  unfold advance at hr
  split at hr
  · cases hr
    exact .inl (Call.start_answers hfault)
  · split at hr
    · cases hr
    · cases hr
      exact .inl ⟨q.requestSection_proper _ _,
        fun h => BufferQueue.requestSection_denied h hfault⟩
  · exact .inr ⟨_, _, rfl, rfl⟩
  · rename_i detach point a
    cases hr
    refine .inl ⟨BufferQueue.reach_proper _ detach (.done _), fun h => ?_⟩
    obtain ⟨hret, -⟩ := BufferQueue.finishCall_denied h
    refine absurd hret (finishRequest_not_noBuffer fun reply hpoint => ?_)
    subst hpoint
    exact hproper
  · split at hr <;> cases hr <;> exact hquiet rfl
  · cases hr
    refine hquiet ?_
    dsimp only
    split <;> rfl
  · cases hr
    exact hquiet rfl
  · cases hr
    refine hquiet ?_
    simp only [BufferQueue.flushSection]
    split <;> rfl
  · split at hr <;> cases hr
    exact hquiet rfl
  · split at hr <;> cases hr
    exact hquiet rfl
  · split at hr <;> cases hr
    exact hquiet (BufferQueue.afterRelease_quiet _)
  · split at hr <;> cases hr
    exact hquiet (q.handOutResume_quiet _ _)
  · cases hr
    refine hquiet ?_
    dsimp only
    split
    · exact BufferQueue.nextCallback_quiet _
    · rfl
  · split at hr <;> cases hr
    · exact hquiet rfl
    · refine hquiet ?_
      dsimp only
      split
      · exact BufferQueue.nextCallback_quiet _
      · rfl
    · exact hquiet rfl
  · split at hr <;> cases hr
    exact hquiet rfl
  · split at hr <;> cases hr
    exact hquiet (BufferQueue.nextCallback_quiet _)
  · split at hr <;> cases hr <;> exact hquiet rfl
  · cases hr
    exact hquiet (q.attachSection_quiet _ _)
  · split at hr <;> cases hr
    exact hquiet rfl
  · split at hr <;> cases hr
    exact hquiet rfl
  · cases hr
    exact hquiet rfl
  · cases hr
    exact hquiet rfl
  · split at hr <;> cases hr
    exact hquiet rfl
  · cases hr

namespace BufferQueue

variable {q : BufferQueue} {config : BufferRequestConfig} {detach : Bool} {r : Pc × BufferQueue}

theorem blocked_denial_iff (hr : (Pc.requestBlocked detach config).advance q .go = some r)
    (hfault : r.2.fault = false) : (r.1.Denied → r.2.Exhausted) ↔ q.ServesWoken config := by
  obtain rfl : (q.reuseBufferForBlockMode config).2.reach detach
      (q.reuseBufferForBlockMode config).1 = r := Option.some.inj hr
  by_cases hstatus : (!q.isValidStatus && !q.isBatch) = true
  · have hblock : q.reuseBufferForBlockMode config = (.done (.error .noConsumer), q) := by
      unfold reuseBufferForBlockMode
      rw [if_pos hstatus]
    rw [hblock]
    refine iff_of_true (fun h => ?_) (.inl (by simpa using hstatus))
    exact absurd (finishCall_denied h).1 nofun
  · cases hpop : q.popFromFreeListLocked config with
    | mk buffer q₁ =>
      cases buffer with
      | some buffer =>
        have hblock : q.reuseBufferForBlockMode config = q₁.reuseBuffer config buffer false := by
          unfold reuseBufferForBlockMode
          rw [if_neg hstatus, hpop]
        rw [hblock]
        refine iff_of_true (fun h => ?_) (.inr ?_)
        · obtain ⟨reply, hdone, hret, -⟩ := reach_denied h
          exact absurd hret (reuseBuffer_not_noBuffer hdone)
        · by_cases hfit : ∃ k ∈ q.freeList, q.reusable config k = true
          · exact .inr hfit
          · refine .inl (not_lt.mp fun hroom => ?_)
            have hnone : ∀ k ∈ q.freeList, q.reusable config k = false := by simpa using hfit
            rw [popFromFreeListLocked_of_room hnone hroom] at hpop
            cases hpop
      | none =>
        have hblock : q.reuseBufferForBlockMode config = (.done (.error .noBuffer), q₁) := by
          unfold reuseBufferForBlockMode
          rw [if_neg hstatus, hpop]
        rw [hblock] at hfault ⊢
        have hreach : q₁.reach detach (.done (.error .noBuffer)) =
            (.idle (some (.request (.error .noBuffer))), q₁) := by
          cases detach <;> rfl
        rw [hreach] at hfault ⊢
        obtain ⟨rfl, hnone, hfree⟩ := popFromFreeListLocked_fails hpop hfault
        refine ⟨fun h => .inr (.inl (h rfl).1), fun h _ => ?_⟩
        rcases h with ⟨hinvalid, hbatch⟩ | hfull | ⟨k, hk, hfit⟩
        · exact absurd (by simp [hinvalid, hbatch]) hstatus
        · exact ⟨hfull, hfree.resolve_left (not_lt.mpr hfull)⟩
        · exact absurd (hfit.symm.trans (hnone k hk)) (by decide)

theorem blocked_obtains (hr : (Pc.requestBlocked false config).advance q .go = some r)
    (hstatus : q.isValidStatus = true ∨ q.isBatch = true) (hroom : q.getUsedSize < q.unreservedSize)
    (hserves : q.ServesWoken config) :
    ∃ reply, r.1 = .idle (some (.request reply)) ∧ reply.ret = .ok := by
  obtain rfl : (q.reuseBufferForBlockMode config).2.reach false
      (q.reuseBufferForBlockMode config).1 = r := Option.some.inj hr
  have hpasses : ¬ (!q.isValidStatus && !q.isBatch) = true := by
    rcases hstatus with hstatus | hstatus <;> simp [hstatus]
  have hfit : ∃ k ∈ q.freeList, q.reusable config k = true := by
    rcases hserves with ⟨hinvalid, hbatch⟩ | hfull | hfit
    · exact absurd (by simp [hinvalid, hbatch]) hpasses
    · exact absurd hroom (not_lt.mpr hfull)
    · exact hfit
  obtain ⟨k, hfind⟩ := Option.isSome_iff_exists.mp (List.find?_isSome.mpr hfit)
  have hreusable : q.reusable config k = true := List.find?_some hfind
  unfold reusable at hreusable
  cases he : q.bufferQueueCache.find k with
  | none => simp [he] at hreusable
  | some e =>
    simp only [he, Bool.and_eq_true] at hreusable
    have hsame : config.same e.config = true := by
      rw [BufferRequestConfig.same_comm]
      exact hreusable.1
    have hpop : q.popFromFreeListLocked config =
        (some e.buffer, { q with freeList := q.freeList.erase k }) := by
      simp only [popFromFreeListLocked, hfind, he, Option.map_some]
    set q₁ : BufferQueue := { q with freeList := q.freeList.erase k }
    have he₁ : q₁.bufferQueueCache.find k = some e := he
    have hblock : q.reuseBufferForBlockMode config =
        (.done (q₁.updateReuseBufferState false k false).1,
          (q₁.updateReuseBufferState false k false).2) := by
      unfold reuseBufferForBlockMode
      rw [if_neg hpasses, hpop]
      simp only [reuseBuffer, BufferCache.seqNum_of_find he, he₁, hsame, if_true]
    rw [hblock]
    exact ⟨_, rfl, (updateReuse_grants false he₁).ret⟩

end BufferQueue

section Step

variable {t : ℕ} {q : BufferQueue} {pc : RoomPc} {a : RoomAction} {r : RoomPc × BufferQueue}

def RoomPc.Proper : RoomPc → Prop
  | queue pc => pc.Proper
  | waiting _ => True

theorem RoomWait.finish_quiet (q : BufferQueue) (w : RoomWait) :
    (w.finish q).1.Proper ∧ ¬ (w.finish q).1.Denied := by
  cases w <;> exact ⟨trivial, id⟩

theorem RoomWait.start_quiet (q : BufferQueue) (w : RoomWait) :
    (w.start q).1.Proper ∧ ¬ (w.start q).1.Denied := by
  unfold start
  split
  · exact ⟨trivial, id⟩
  · exact w.finish_quiet q

theorem BufferQueue.resize_quiet (q : BufferQueue) (queueSize : ℕ) :
    (q.resize queueSize).1.Proper ∧ ¬ (q.resize queueSize).1.Denied := by
  unfold resize
  split <;> exact ⟨trivial, id⟩

theorem RoomCall.start_quiet (q : BufferQueue) (c : RoomCall) :
    (c.start q).1.Proper ∧ ¬ (c.start q).1.Denied := by
  cases c with
  | setQueueSize queueSize =>
    simp only [start]
    split_ifs
    · exact ⟨trivial, id⟩
    · exact q.resize_quiet queueSize
  | setMaxQueueSize queueSize =>
    simp only [start]
    split_ifs
    · exact ⟨trivial, id⟩
    · exact BufferQueue.resize_quiet _ queueSize
    · exact ⟨trivial, id⟩
  | goBackground => exact RoomWait.start_quiet q _
  | cleanReleasedBuffers =>
    simp only [start]
    split_ifs
    · exact ⟨trivial, id⟩
    · exact RoomWait.start_quiet q _
  | cleanProducerBySeqNum | detachBuffer | setBatchHandle => exact ⟨trivial, id⟩

theorem roomThread_answers (hproper : pc.Proper) (hr : roomThread t q pc a = some r) :
    r.1.Proper ∧ ((r.1.Denied → r.2.Exhausted) ↔ ServesWoken q pc a) := by
  have hquiet (h : r.1.Proper ∧ ¬ r.1.Denied) (hserves : ServesWoken q pc a) :
      r.1.Proper ∧ ((r.1.Denied → r.2.Exhausted) ↔ ServesWoken q pc a) :=
    ⟨h.1, iff_of_true (fun hdenied => absurd hdenied h.2) hserves⟩
  unfold roomThread at hr
  split at hr
  · rename_i pc a
    obtain ⟨r, hqueue, rfl⟩ := Option.map_eq_some_iff.mp hr
    obtain ⟨-, hadvance, hfault⟩ := queueThread_eq_some.mp hqueue
    by_cases hblocked : ∃ detach config, pc = .requestBlocked detach config ∧ a = .go
    · obtain ⟨detach, config, rfl, rfl⟩ := hblocked
      refine ⟨?_, BufferQueue.blocked_denial_iff hadvance hfault⟩
      obtain rfl := Option.some.inj hadvance
      exact BufferQueue.reach_proper _ _ _
    · have hserves : ServesWoken q (.queue pc) (.queue a) := by
        unfold ServesWoken
        split
        · rename_i hpc ha
          cases hpc
          cases ha
          exact absurd ⟨_, _, rfl, rfl⟩ hblocked
        · trivial
      obtain ⟨hnext, hdenied⟩ :=
        (Pc.advance_answers hproper hadvance hfault).resolve_right hblocked
      exact ⟨hnext, iff_of_true hdenied hserves⟩
  · cases hr
    exact hquiet (RoomCall.start_quiet q _) trivial
  · split_ifs at hr
    cases hr
    exact hquiet (RoomWait.finish_quiet q _) trivial
  · cases hr

end Step

abbrev deniedThread : Thread (BufferQueue × List Denial) RoomPc RoomAction :=
  roomThread.observed recordDenials

def roomStart (s : QueueSettings) : Machine (BufferQueue × List Denial) RoomPc :=
  ⟨(BufferQueue.start s, []), fun _ => .queue (.idle none)⟩

/-- When every request that goes on after its wait is served, each request that was denied had found
the queue exhausted, and in any next step this needs the condition. A request that goes on when
there is room gets a buffer then. -/
theorem denied_when_exhausted {s : QueueSettings} {ls : List (ℕ × RoomAction)}
    {m : Machine (BufferQueue × List Denial) RoomPc}
    (run : Run (TurnIf deniedThread fun _ s pc a => ServesWoken s.1 pc a) (roomStart s) ls m) :
    (∀ d ∈ m.shared.2, d.queue.Exhausted) ∧
      ∀ t a r, roomThread t m.shared.1 (m.procs t) a = some r →
        ((r.1.Denied → r.2.Exhausted) ↔ ServesWoken m.shared.1 (m.procs t) a) ∧
        ∀ config, m.procs t = .queue (.requestBlocked false config) → a = .queue .go →
          (m.shared.1.isValidStatus = true ∨ m.shared.1.isBatch = true) →
          m.shared.1.getUsedSize < m.shared.1.unreservedSize →
          m.shared.1.ServesWoken config →
          ∃ reply, r.1 = .queue (.idle (some (.request reply))) ∧ reply.ret = .ok := by
  obtain ⟨hdenials, hproper⟩ := rely_guarantee (fun s => ∀ d ∈ s.2, d.queue.Exhausted)
    (fun _ _ pc => pc.Proper)
    (fun t s pc a r hdenials hproper hserves hr => by
      obtain ⟨r, hroom, rfl⟩ := Thread.observed_eq_some.mp hr
      obtain ⟨hnext, hright⟩ := roomThread_answers hproper hroom
      refine ⟨fun d hd => ?_, hnext⟩
      simp only [recordDenials] at hd
      split_ifs at hd with hdenied
      · rcases List.mem_cons.mp hd with rfl | hd
        · exact hright.mpr hserves hdenied
        · exact hdenials d hd
      · exact hdenials d hd)
    (fun _ _ _ _ _ _ _ _ _ _ _ _ hother => hother)
    (show ∀ d ∈ (roomStart s).shared.2, d.queue.Exhausted from fun d hd => absurd hd (by simp [roomStart]))
    (fun _ => trivial) run
  refine ⟨hdenials, fun t a r hr => ⟨(roomThread_answers (hproper t) hr).2, ?_⟩⟩
  intro config hpc ha hstatus hroom hserves
  rw [hpc, ha] at hr
  obtain ⟨r, hqueue, rfl⟩ := Option.map_eq_some_iff.mp hr
  obtain ⟨-, hadvance, -⟩ := queueThread_eq_some.mp hqueue
  obtain ⟨reply, hreply, hret⟩ := BufferQueue.blocked_obtains hadvance hstatus hroom hserves
  exact ⟨reply, congrArg RoomPc.queue hreply, hret⟩

instance (q : BufferQueue) (config : BufferRequestConfig) : Decidable (q.ServesWoken config) :=
  inferInstanceAs (Decidable (_ ∨ _ ∨ _))

instance (q : BufferQueue) (pc : RoomPc) (a : RoomAction) : Decidable (ServesWoken q pc a) := by
  unfold ServesWoken
  split <;> infer_instance

def secondWaits (meanwhile : List (ℕ × RoomAction)) : List (ℕ × RoomAction) :=
  [(0, .queue (.call (.requestBuffer sampleConfig))), (0, .queue (.allocated ⟨1, 1, true, true⟩)),
    (1, .queue (.call (.requestBuffer sampleConfig)))] ++ meanwhile ++ [(1, .queue .go)]

/-- Nothing happens: it is denied. -/
theorem denied_when_exhausted_secondWaits :
    ∃ m, Run (TurnIf deniedThread fun _ s pc a => ServesWoken s.1 pc a)
        (roomStart { listener := true, bufferQueueSize := 1 }) (secondWaits []) m ∧
      (m.procs 1).Denied ∧ ∃ d ∈ m.shared.2, d.thread = 1 ∧ d.queue.Exhausted := by
  have legal : Legal (Machine.next deniedThread)
      (fun m l => (m.next? deniedThread l).isSome ∧ ServesWoken m.shared.1 (m.procs l.1) l.2)
      (roomStart { listener := true, bufferQueueSize := 1 }) (secondWaits []) := by
    decide
  have run : Run (TurnIf deniedThread fun _ s pc a => ServesWoken s.1 pc a)
      (roomStart { listener := true, bufferQueueSize := 1 }) (secondWaits []) _ :=
    .of_legal (fun _ _ h => ⟨Turn.next h.1, h.2⟩) legal
  exact ⟨_, run, by decide, _, .head _, rfl, (denied_when_exhausted run).1 _ (.head _)⟩

/-- The queue is enlarged: it is denied all the same. -/
theorem denied_with_room :
    ¬ ∀ (s : QueueSettings) (ls : List (ℕ × RoomAction))
      (m : Machine (BufferQueue × List Denial) RoomPc), Run (Turn deniedThread) (roomStart s) ls m →
      ∀ d ∈ m.shared.2, d.queue.Exhausted := by
  intro h
  have legal : Legal (Machine.next deniedThread) (fun m l => (m.next? deniedThread l).isSome)
      (roomStart { listener := true, bufferQueueSize := 1 })
      (secondWaits [(2, .call (.setQueueSize 2))]) := by
    decide
  have hexhausted := h _ _ _ (.of_legal (fun _ _ h => Turn.next h) legal) _ (.head _)
  exact absurd hexhausted.1 (by decide)

end GraphicSurface
