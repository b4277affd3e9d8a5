import GraphicSurface.ConcurrencyMoves
import GraphicSurface.FlushRace
import GraphicSurface.ReservedSlots

/-! The size of the queue when its callers run at the same time. `AllocBuffer` gives up `mutex_`
between the size check and the insertion. `gain` is what a section adds to the cache or undertakes
to add; a section counts the cached buffers before it, but not the allocations that are running. -/

namespace GraphicSurface

open Runs SlotPool Interleaving

/-- The calls that put a buffer in the cache; besides them buffers are cancelled and settings
written. -/
def Call.fills : Call → Bool
  | requestBuffer _ | requestAndDetachBuffer _ | cancelBuffer _ _ | attachBufferToQueue _ _
  | attachBuffer _ _ | attachAndFlushBuffer _ _ _ _ _ | preAllocBuffers _ _ | configure _ => true
  | _ => false

def Action.fills : Action → Bool
  | .call c => c.fills
  | _ => true

namespace Pc

/-- Where the threads that make these calls can be, as long as the sizes are kept. -/
def fills : Pc → Bool
  | allocating _ (.done _) => false
  | idle _ | requestWait _ _ | requestBlocked _ _ | allocating _ _ | attachListener _ _
  | attachMain _ _ | attachWait _ | preAllocating _ _ | unRegistering => true
  | _ => false

def allocates : Pc → Bool
  | allocating _ _ => true
  | _ => false

def weight (pc : Pc) : ℕ := if pc.allocates then 1 else 0

end Pc

namespace BufferQueue

/-- The condition in `RequestBufferLocked` under which a request allocates a further buffer. -/
def mayAllocate (q : BufferQueue) (config : BufferRequestConfig) : Bool :=
  decide (q.getUsedSize < q.unreservedSize) &&
    (q.isPriorityAlloc || (q.popFromFreeListLocked config).1.isNone)

def startAllocates (q : BufferQueue) (config : BufferRequestConfig) : Bool :=
  match q.requestBufferCheck config with
  | .error _ => false
  | .ok updateConfig => !q.isAllocatingBuffer && q.mayAllocate updateConfig

/-- `AttachBufferToQueueLocked` takes the buffer. -/
def attachInserts (q : BufferQueue) (buffer : SurfaceBuffer) (invokerType : InvokerType) : Bool :=
  !(decide (invokerType = .consumerInvoker) && q.listenerSeqAndFenceActive) &&
    decide (q.getUsedSize < q.bufferQueueSize) && (q.bufferQueueCache.find buffer.seqNum).isNone

/-- The flush of `AttachAndFlushBuffer` keeps the buffer. -/
def flushKeeps (q : BufferQueue) (buffer : SurfaceBuffer) (config : BufferFlushConfigWithDamages)
    (env : FlushEnv) : Bool :=
  q.isValidStatus && q.listenerRegistered && checkFlushConfig config == .ok &&
    (buffer.bufferRequestConfig.usage &&& bufferUsageCpuWrite == 0 || env.flushCache == .ok)

end BufferQueue

/-- How many buffers a section adds to the cache, or starts to allocate on top of those there. -/
def Pc.gain (q : BufferQueue) : Pc → Action → ℕ
  | idle _, .call (.requestBuffer config) | idle _, .call (.requestAndDetachBuffer config) =>
    if q.startAllocates config then 1 else 0
  | idle _, .call (.attachBufferToQueue buffer invokerType) =>
    if q.attachInserts buffer invokerType then 1 else 0
  | idle _, .call (.attachAndFlushBuffer buffer _ _ config env) =>
    if q.attachInserts buffer .producerInvoker && q.flushKeeps buffer config env then 1 else 0
  | requestWait _ config, .go => if q.mayAllocate config then 1 else 0
  | attachMain buffer _, .go =>
    if decide (q.getUsedSize < q.bufferQueueSize) && (q.bufferQueueCache.find buffer.seqNum).isNone
    then 1 else 0
  | preAllocating config count, .preAllocated as =>
    min (BufferQueue.allocBuffers config count as).length (q.unreservedSize - q.getUsedSize)
  | _, _ => 0

namespace BufferQueue

variable {q q' : BufferQueue} {sequence : ℕ}

/-- The members that only requests and the calls about the producer's cache write. -/
def marks (q : BufferQueue) : Bool × Bool × List ℕ :=
  (q.isAllocatingBuffer, q.producerCacheClean, q.producerCacheList)

@[simp] theorem marks_popFree (q : BufferQueue) (config : BufferRequestConfig) :
    (q.popFromFreeListLocked config).2.marks = q.marks :=
  popFromFreeListLocked_induct (P := fun q' => q'.marks = q.marks) q config (fun _ => rfl) rfl
    fun _ _ => rfl

@[simp] theorem marks_popDirty (q : BufferQueue) : q.popFromDirtyListLocked.2.marks = q.marks :=
  popFromDirtyListLocked_induct (P := fun q' => q'.marks = q.marks) q (fun _ => rfl) rfl

@[simp] theorem marks_deleteNoWait (q : BufferQueue) (sequence : ℕ) :
    (q.deleteBufferInCacheNoWaitForAllocatingState sequence).marks = q.marks := by
  unfold deleteBufferInCacheNoWaitForAllocatingState
  split
  · rfl
  · split <;> rfl

/-! The flag `isAllocatingBuffer_` is written by the two halves of `AllocBuffer` alone. -/

theorem isAllocatingBuffer_popFree (q : BufferQueue) (config : BufferRequestConfig) :
    (q.popFromFreeListLocked config).2.isAllocatingBuffer = q.isAllocatingBuffer :=
  congrArg Prod.fst (q.marks_popFree config)

theorem isAllocatingBuffer_popDirty (q : BufferQueue) :
    q.popFromDirtyListLocked.2.isAllocatingBuffer = q.isAllocatingBuffer :=
  congrArg Prod.fst q.marks_popDirty

@[simp] theorem isAllocatingBuffer_deleteNoWait (q : BufferQueue) (sequence : ℕ) :
    (q.deleteBufferInCacheNoWaitForAllocatingState sequence).isAllocatingBuffer =
      q.isAllocatingBuffer :=
  congrArg Prod.fst (q.marks_deleteNoWait sequence)

@[simp] theorem isAllocatingBuffer_updateReuse (q : BufferQueue) (needRealloc : Bool)
    (sequence : ℕ) (listener : Bool) :
    (q.updateReuseBufferState needRealloc sequence listener).2.isAllocatingBuffer =
      q.isAllocatingBuffer := by
  have hpush (q : BufferQueue) : (q.pushProducerCacheList sequence).isAllocatingBuffer =
      q.isAllocatingBuffer :=
    pushProducerCacheList_induct (P := fun q' => q'.isAllocatingBuffer = q.isAllocatingBuffer) q
      sequence fun _ _ => rfl
  unfold updateReuseBufferState
  split
  · rfl
  · dsimp only
    split
    · split
      · rfl
      · exact hpush _
    · rfl

end BufferQueue

/-- A section of a request that does not set up a new buffer: when it ends the request, the flag is
as it was. -/
def ReusePoint.Still (q q' : BufferQueue) : ReusePoint → Prop
  | .done _ => q'.isAllocatingBuffer = q.isAllocatingBuffer
  | .reallocBuffer _ => True
  | .setupNewBuffer _ => False

theorem ReusePoint.Still.of_eq {q q₁ q' : BufferQueue} {point : ReusePoint}
    (h : point.Still q₁ q') (hflag : q₁.isAllocatingBuffer = q.isAllocatingBuffer) :
    point.Still q q' := by
  cases point with
  | done reply => exact Eq.trans h hflag
  | reallocBuffer job => trivial
  | setupNewBuffer job => exact h

namespace BufferQueue

theorem reuseBuffer_still (q : BufferQueue) (config : BufferRequestConfig)
    (buffer : SurfaceBuffer) (listener : Bool) :
    (q.reuseBuffer config buffer listener).1.Still q (q.reuseBuffer config buffer listener).2 := by
  unfold reuseBuffer
  split
  · exact rfl
  · split
    · exact isAllocatingBuffer_updateReuse q false buffer.seqNum listener
    · split
      · exact rfl
      · trivial

theorem reuseBufferForBlockMode_still (q : BufferQueue) (config : BufferRequestConfig) :
    (q.reuseBufferForBlockMode config).1.Still q (q.reuseBufferForBlockMode config).2 := by
  have hflag := isAllocatingBuffer_popFree q config
  unfold reuseBufferForBlockMode
  split
  · exact rfl
  · split
    · rename_i buffer q₁ hpop
      rw [hpop] at hflag
      exact (reuseBuffer_still q₁ config buffer false).of_eq hflag
    · rename_i q₁ hpop
      rw [hpop] at hflag
      exact hflag

theorem reuseBufferForNoBlockMode_still (q : BufferQueue) (config : BufferRequestConfig) :
    (q.reuseBufferForNoBlockMode config).1.Still q (q.reuseBufferForNoBlockMode config).2 := by
  have hflag := isAllocatingBuffer_popDirty q
  unfold reuseBufferForNoBlockMode
  split
  · rename_i buffer q₁ hpop
    rw [hpop] at hflag
    exact (reuseBuffer_still _ config _ false).of_eq hflag
  · rename_i q₁ hpop
    rw [hpop] at hflag
    exact hflag

theorem requestBufferBody_still (q : BufferQueue) (config : BufferRequestConfig) :
    (∃ job, (q.requestBufferBody config false).1 = .reached (.setupNewBuffer job) ∧
      q.mayAllocate config = true ∧
      (q.requestBufferBody config false).2.getUsedSize = q.getUsedSize) ∨
    (∃ point, (q.requestBufferBody config false).1 = .reached point ∧
      q.mayAllocate config = false ∧ point.Still q (q.requestBufferBody config false).2) ∨
    ∃ config', (q.requestBufferBody config false).1 = .waitReq config' ∧
      q.mayAllocate config = false ∧
      (q.requestBufferBody config false).2.isAllocatingBuffer = q.isAllocatingBuffer := by
  have hused := getUsedSize_pop q config
  have hflag := isAllocatingBuffer_popFree q config
  have hframe := (popFromFreeListLocked_frame q config).unreservedSize
  unfold requestBufferBody mayAllocate
  by_cases hprio : (q.isPriorityAlloc && decide (q.getUsedSize < q.unreservedSize)) = true
  · obtain ⟨hpriority, hroom⟩ := Bool.and_eq_true_iff.mp hprio
    rw [hpriority, hroom]
    exact .inl ⟨_, rfl, rfl, rfl⟩
  · rw [Bool.not_eq_true] at hprio
    simp only [hprio, Bool.not_false, Bool.true_or, if_true]
    cases hpop : q.popFromFreeListLocked config with
    | mk buffer q₁ =>
      rw [hpop] at hused hflag hframe
      dsimp only at hused hflag hframe
      cases buffer with
      | some buffer =>
        refine .inr (.inl ⟨_, rfl, ?_, (reuseBuffer_still q₁ config buffer false).of_eq hflag⟩)
        simpa [Bool.and_comm] using hprio
      | none =>
        dsimp only
        rw [if_neg Bool.false_ne_true, hused, hframe]
        by_cases hfull : q.unreservedSize ≤ q.getUsedSize
        · have hnone : ¬ q.getUsedSize < q.unreservedSize := not_lt.mpr hfull
          rw [if_pos hfull, decide_eq_false hnone, Bool.false_and]
          split
          · exact .inr (.inr ⟨_, rfl, rfl, hflag⟩)
          · exact .inr (.inl ⟨_, rfl, rfl, (reuseBufferForNoBlockMode_still q₁ config).of_eq hflag⟩)
        · rw [if_neg hfull]
          refine .inl ⟨_, rfl, ?_, hused⟩
          simpa using hfull

end BufferQueue

/-- What a section does to the used size, with the thread counting as a buffer while it allocates.
`weight` is what the thread counts before the section. -/
structure Fills (q : BufferQueue) (weight gain : ℕ) (r : Pc × BufferQueue) : Prop where
  fills : r.1.fills = true
  size : r.2.bufferQueueSize = q.bufferQueueSize
  reserve : q.detachReserveSlotNum = 0 → r.2.detachReserveSlotNum = 0
  load : r.2.getUsedSize + r.1.weight ≤ q.getUsedSize + weight + gain
  exact : 0 < gain → q.getUsedSize + weight + gain ≤ r.2.getUsedSize + r.1.weight
  allocating : r.2.isAllocatingBuffer = true →
    r.1.allocates = true ∨ weight = 0 ∧ q.isAllocatingBuffer = true

namespace Fills

variable {q q' : BufferQueue} {pc : Pc} {weight : ℕ}

theorem of_idle (hfills : pc.fills = true) (hidle : pc.allocates = false)
    (hsize : q'.bufferQueueSize = q.bufferQueueSize)
    (hreserve : q.detachReserveSlotNum = 0 → q'.detachReserveSlotNum = 0)
    (hused : q'.getUsedSize ≤ q.getUsedSize + weight)
    (hflag : q'.isAllocatingBuffer = true → weight = 0 ∧ q.isAllocatingBuffer = true) :
    Fills q weight 0 (pc, q') where
  fills := hfills
  size := hsize
  reserve := hreserve
  load := by
    simpa [Pc.weight, hidle] using hused
  exact := nofun
  allocating := fun h => .inr (hflag h)

theorem of_same (hfills : pc.fills = true) (hidle : pc.allocates = false) :
    Fills q 0 0 (pc, q) :=
  of_idle hfills hidle rfl id le_rfl fun h => ⟨rfl, h⟩

theorem of_allocating {detach : Bool} {point : ReusePoint}
    (hfills : (Pc.allocating detach point).fills = true)
    (hsize : q'.bufferQueueSize = q.bufferQueueSize)
    (hreserve : q.detachReserveSlotNum = 0 → q'.detachReserveSlotNum = 0)
    (hused : q'.getUsedSize + 1 ≤ q.getUsedSize + weight) :
    Fills q weight 0 (.allocating detach point, q') where
  fills := hfills
  size := hsize
  reserve := hreserve
  load := by
    simpa [Pc.weight, Pc.allocates] using hused
  exact := nofun
  allocating := fun _ => .inl rfl

theorem of_setup {detach : Bool} {point : ReusePoint}
    (hfills : (Pc.allocating detach point).fills = true)
    (hsize : q'.bufferQueueSize = q.bufferQueueSize)
    (hreserve : q.detachReserveSlotNum = 0 → q'.detachReserveSlotNum = 0)
    (hused : q'.getUsedSize = q.getUsedSize) : Fills q 0 1 (.allocating detach point, q') where
  fills := hfills
  size := hsize
  reserve := hreserve
  load := by
    simp [Pc.weight, Pc.allocates, hused]
  exact := fun _ => by
    simp [Pc.weight, Pc.allocates, hused]
  allocating := fun _ => .inl rfl

theorem of_insert (hfills : pc.fills = true) (hidle : pc.allocates = false)
    (hsize : q'.bufferQueueSize = q.bufferQueueSize)
    (hreserve : q.detachReserveSlotNum = 0 → q'.detachReserveSlotNum = 0)
    (hused : q'.getUsedSize = q.getUsedSize + 1)
    (hflag : q'.isAllocatingBuffer = q.isAllocatingBuffer) : Fills q 0 1 (pc, q') where
  fills := hfills
  size := hsize
  reserve := hreserve
  load := by
    simp [Pc.weight, hidle, hused]
  exact := fun _ => by
    simp [Pc.weight, hidle, hused]
  allocating := fun h => .inr ⟨rfl, hflag ▸ h⟩

end Fills

namespace BufferQueue

variable {q q' : BufferQueue} {weight : ℕ}

/-- `RequestAndDetachBuffer` ends with the detach of what it got. -/
theorem finishCall_fills (detach : Bool) (reply : RequestReply)
    (hsize : q'.bufferQueueSize = q.bufferQueueSize)
    (hreserve : q'.detachReserveSlotNum = q.detachReserveSlotNum)
    (hused : q'.getUsedSize ≤ q.getUsedSize + weight)
    (hflag : q'.isAllocatingBuffer = true → weight = 0 ∧ q.isAllocatingBuffer = true) :
    Fills q weight 0 (q'.finishCall detach reply) := by
  unfold finishCall
  dsimp only
  split
  · unfold detachBufferFromQueueLocked
    split
    · exact .of_idle rfl rfl hsize (fun h => hreserve.trans h) hused hflag
    · refine .of_idle rfl rfl hsize (fun h => hreserve.trans h) (le_trans ?_ hused) hflag
      simp only [getUsedSize, eraseForRS, onBufferDeleteForRS, BufferCache.size_erase]
      split <;> omega
  · exact .of_idle rfl rfl hsize (fun h => hreserve.trans h) hused hflag

theorem reach_fills (detach : Bool) {point : ReusePoint} (hroom : point.Room q q')
    (hstill : point.Still q q') (hsize : q'.bufferQueueSize = q.bufferQueueSize)
    (hreserve : q'.detachReserveSlotNum = q.detachReserveSlotNum) :
    Fills q 0 0 (q'.reach detach point) := by
  cases point with
  | done reply =>
    have hflag : q'.isAllocatingBuffer = q.isAllocatingBuffer := hstill
    exact finishCall_fills detach reply hsize hreserve hroom fun h => ⟨rfl, hflag ▸ h⟩
  | setupNewBuffer job => exact hstill.elim
  | reallocBuffer job => exact .of_allocating rfl hsize (fun h => hreserve.trans h) hroom

theorem requestSection_fills (q : BufferQueue) (detach : Bool) (config : BufferRequestConfig) :
    Fills q 0 (if q.mayAllocate config then 1 else 0) (q.requestSection detach config) := by
  have hframe := requestBufferBody_frame q config false
  have hroom := requestBufferBody_room q config false
  have hsize : (q.requestBufferBody config false).2.bufferQueueSize = q.bufferQueueSize := by
    rw [hframe.settings]
  unfold requestSection
  rcases requestBufferBody_still q config with ⟨job, hpoint, hmay, hused⟩ |
    ⟨point, hpoint, hmay, hstill⟩ | ⟨config', hpoint, hmay, hflag⟩
  · rw [hmay, if_pos rfl]
    generalize q.requestBufferBody config false = body at *
    obtain ⟨point, q'⟩ := body
    cases hpoint
    exact .of_setup rfl hsize (fun h => hframe.reserve.trans h) hused
  · rw [hmay, if_neg Bool.false_ne_true]
    generalize q.requestBufferBody config false = body at *
    obtain ⟨point', q'⟩ := body
    cases hpoint
    exact reach_fills detach hroom hstill hsize hframe.reserve
  · rw [hmay, if_neg Bool.false_ne_true]
    generalize q.requestBufferBody config false = body at *
    obtain ⟨point', q'⟩ := body
    cases hpoint
    exact .of_idle rfl rfl hsize (fun h => hframe.reserve.trans h) hroom fun h => ⟨rfl, hflag ▸ h⟩

theorem startRequest_fills (q : BufferQueue) (detach : Bool) (config : BufferRequestConfig) :
    Fills q 0 (if q.startAllocates config then 1 else 0) (q.startRequest detach config) := by
  unfold startRequest startAllocates
  cases q.requestBufferCheck config with
  | error ret => exact .of_same rfl rfl
  | ok updateConfig =>
    dsimp only
    cases hbusy : q.isAllocatingBuffer with
    | true => exact .of_same rfl rfl
    | false =>
      simp only [Bool.not_false, Bool.true_and, Bool.false_eq_true, if_false]
      exact requestSection_fills q detach updateConfig

theorem isAllocatingBuffer_allocBufferEnd (q : BufferQueue) (job : AllocJob) (a : Allocation) :
    (q.allocBufferEnd job a).2.isAllocatingBuffer = false := by
  unfold allocBufferEnd
  dsimp only
  split <;> rfl

theorem isAllocatingBuffer_finishRequest (q : BufferQueue) (a : Allocation) (point : ReusePoint)
    (hdone : ∀ reply, point = .done reply → q.isAllocatingBuffer = false) :
    (q.finishRequest a point).2.isAllocatingBuffer = false :=
  finishRequest_induct (P := fun q' => q'.isAllocatingBuffer = false) q a point hdone
    (fun job _ => isAllocatingBuffer_allocBufferEnd q job a) (fun _ h => h)
    fun q₁ sequence h => (isAllocatingBuffer_updateReuse q₁ true sequence false).trans h

theorem finishRequest_fills (q : BufferQueue) (detach : Bool) (a : Allocation) {point : ReusePoint}
    (hpoint : (Pc.allocating detach point).fills = true) :
    Fills q 1 0 ((q.finishRequest a point).2.finishCall detach (q.finishRequest a point).1) := by
  have hused := getUsedSize_finishRequest_job q a point
  obtain ⟨told, hframe, -⟩ := finishRequest_frame q a point
  have hflag := isAllocatingBuffer_finishRequest q a point fun reply hdone => by
    rw [hdone] at hpoint
    cases hpoint
  refine finishCall_fills detach _ (by rw [hframe.settings]) hframe.reserve hused fun h => ?_
  rw [hflag] at h
  cases h

theorem getUsedSize_put {e : BufferElement}
    (habsent : q.bufferQueueCache.find e.buffer.seqNum = none) :
    (q.bufferQueueCache.put e).size = q.getUsedSize + 1 := by
  simp [getUsedSize, habsent]

theorem attachBufferToQueueLocked_fills (q : BufferQueue) (buffer : SurfaceBuffer)
    (invokerType : InvokerType) (reply : Option Reply) :
    Fills q 0 (if q.attachInserts buffer invokerType then 1 else 0)
      (.idle reply, (q.attachBufferToQueueLocked buffer invokerType).2) := by
  unfold attachBufferToQueueLocked attachInserts
  by_cases hlistener : invokerType = .consumerInvoker ∧ q.listenerSeqAndFenceActive = true
  · rw [if_pos hlistener]
    simp only [hlistener.1, hlistener.2, decide_true, Bool.and_true, Bool.not_true, Bool.false_and]
    exact .of_same rfl rfl
  · have hpass : (!(decide (invokerType = .consumerInvoker) && q.listenerSeqAndFenceActive)) =
        true := by
      by_cases hconsumer : invokerType = .consumerInvoker <;> simp_all
    rw [if_neg hlistener, hpass, Bool.true_and]
    by_cases hfull : q.bufferQueueSize ≤ q.getUsedSize
    · rw [if_pos hfull, decide_eq_false (not_lt.mpr hfull), Bool.false_and]
      exact .of_same rfl rfl
    · rw [if_neg hfull, decide_eq_true (not_le.mp hfull), Bool.true_and]
      cases hfind : q.bufferQueueCache.find buffer.seqNum with
      | some e => exact .of_same rfl rfl
      | none =>
        cases invokerType with
        | producerInvoker => exact .of_insert rfl rfl rfl id (getUsedSize_put hfind) rfl
        | consumerInvoker =>
          refine .of_insert rfl rfl rfl (fun h => ?_) (getUsedSize_put hfind) rfl
          change q.detachReserveSlotNum - 1 = 0
          rw [h]

/-- A flush under one hold of `mutex_` keeps a buffer that is not condemned. -/
theorem flushImproved_keeps {sequence : ℕ} {e : BufferElement}
    (he : q.bufferQueueCache.find sequence = some e) (hdeleting : e.isDeleting = false)
    (bedata : Option ExtraData) (fence : SyncFence) (config : BufferFlushConfigWithDamages)
    (env : FlushEnv) :
    (q.flushBufferImprovedLocked sequence bedata fence config env).2.getUsedSize = q.getUsedSize ∧
      ((q.flushBufferImprovedLocked sequence bedata fence config env).2.bufferQueueCache.find
        sequence).isSome = true ∧
      (q.flushBufferImprovedLocked sequence bedata fence config env).2.isAllocatingBuffer =
        q.isAllocatingBuffer := by
  have hcached : (q.bufferQueueCache.find sequence).isSome = true := by
    rw [he]
    rfl
  refine flushBufferImprovedLocked_cases (motive := fun r => r.2.getUsedSize = q.getUsedSize ∧
    (r.2.bufferQueueCache.find sequence).isSome = true ∧
      r.2.isAllocatingBuffer = q.isAllocatingBuffer) ?_ ?_
  · exact fun _ _ => ⟨rfl, hcached, rfl⟩
  · intro _
    unfold doFlushBufferLocked
    rw [he]
    dsimp only
    rw [hdeleting, if_neg Bool.false_ne_true]
    cases bedata with
    | none => exact ⟨rfl, hcached, rfl⟩
    | some bedata =>
      dsimp only
      split
      · exact ⟨by simp [getUsedSize, prepareFlush], by simp [prepareFlush, he], rfl⟩
      · exact ⟨by simp [getUsedSize, commitFlush, prepareFlush],
          by simp [commitFlush, prepareFlush, he], rfl⟩

theorem flushImproved_ok_iff {sequence : ℕ} {e : BufferElement}
    (he : q.bufferQueueCache.find sequence = some e) (hdeleting : e.isDeleting = false)
    (hrequested : e.state = .requested) {bedata : Option ExtraData} {fence : SyncFence}
    {config : BufferFlushConfigWithDamages} {env : FlushEnv}
    (hfault : (q.flushBufferImprovedLocked sequence bedata fence config env).2.fault = false) :
    (q.flushBufferImprovedLocked sequence bedata fence config env).1 = .ok ↔
      q.isValidStatus ∧ q.listenerRegistered ∧ checkFlushConfig config = .ok ∧
        (e.config.usage &&& bufferUsageCpuWrite = 0 ∨ env.flushCache = .ok) := by
  refine ⟨flushImproved_ok he hdeleting, ?_⟩
  rintro ⟨hvalid, hlistener, hconfig, hcache⟩
  have hcheck : q.checkBufferQueueCacheLocked sequence = .ok := by
    simp [checkBufferQueueCacheLocked, he, hrequested]
  have heq : q.flushBufferImprovedLocked sequence bedata fence config env =
      q.doFlushBufferLocked sequence bedata fence config env := by
    unfold flushBufferImprovedLocked
    simp [hvalid, hlistener, hconfig, hcheck]
  rw [heq] at hfault ⊢
  unfold doFlushBufferLocked at hfault ⊢
  simp only [he, hdeleting, Bool.false_eq_true, if_false] at hfault ⊢
  cases bedata with
  | none => simp at hfault
  | some bedata =>
    have hpass : ¬ (e.config.usage &&& bufferUsageCpuWrite ≠ 0 ∧ env.flushCache ≠ .ok) := by
      rintro ⟨huse, hflush⟩
      exact hcache.elim huse hflush
    simp only [if_neg hpass]

theorem attachAndFlushBuffer_fills (q : BufferQueue) (buffer : SurfaceBuffer)
    (bedata : Option ExtraData) (fence : SyncFence) (config : BufferFlushConfigWithDamages)
    (env : FlushEnv) (reply : Option Reply)
    (hfault : (q.attachAndFlushBuffer buffer bedata fence config env).2.fault = false) :
    Fills q 0 (if q.attachInserts buffer .producerInvoker && q.flushKeeps buffer config env
        then 1 else 0)
      (.idle reply, (q.attachAndFlushBuffer buffer bedata fence config env).2) := by
  unfold attachAndFlushBuffer at hfault ⊢
  rcases attachToQueue_cases q buffer with ⟨hret, hsame⟩ | ⟨habsent, hroom, hattach⟩
  · have hout : q.attachInserts buffer .producerInvoker = false := by
      by_contra hin
      have hin : q.getUsedSize < q.bufferQueueSize ∧
          q.bufferQueueCache.find buffer.seqNum = none := by
        simpa [attachInserts] using hin
      simp [attachBufferToQueueLocked, hin.2, not_le.mpr hin.1] at hret
    simp only [hret, hsame, hout, ne_eq, not_false_eq_true, if_true, Bool.false_and,
      Bool.false_eq_true, if_false]
    exact .of_same rfl rfl
  · have hin : q.attachInserts buffer .producerInvoker = true := by
      simp [attachInserts, habsent, hroom]
    set ele : BufferElement := .init (q.attachedBuffer buffer) .requested
      buffer.bufferRequestConfig (some invalidFence) with hele
    rw [hattach] at hfault ⊢
    simp only [ne_eq, not_true_eq_false, if_false] at hfault ⊢
    generalize hp : { q with bufferQueueCache := q.bufferQueueCache.put ele } = p at hfault ⊢
    have hput : p.getUsedSize = q.getUsedSize + 1 := by
      rw [← hp]
      exact getUsedSize_put habsent
    have hfind : p.bufferQueueCache.find buffer.seqNum = some ele := by
      have hseq : ele.buffer.seqNum = buffer.seqNum := rfl
      simp [← hp, hseq]
    have hkeep : q.flushKeeps buffer config env = true ↔ p.isValidStatus ∧ p.listenerRegistered ∧
        checkFlushConfig config = .ok ∧
          (ele.config.usage &&& bufferUsageCpuWrite = 0 ∨ env.flushCache = .ok) := by
      simp [← hp, flushKeeps, and_assoc, listenerRegistered, hele, BufferElement.init]
    have hframe := flushBufferImprovedLocked_frame p buffer.seqNum bedata fence config env
    obtain ⟨hused, hcached, hflag⟩ := flushImproved_keeps hfind rfl bedata fence config env
    have hsize : (p.flushBufferImprovedLocked buffer.seqNum bedata fence config
        env).2.bufferQueueSize = q.bufferQueueSize := by
      rw [hframe.settings, ← hp]
    have hreserve : (p.flushBufferImprovedLocked buffer.seqNum bedata fence config
        env).2.detachReserveSlotNum = q.detachReserveSlotNum := by
      rw [hframe.reserve, ← hp]
    have hflag' : (p.flushBufferImprovedLocked buffer.seqNum bedata fence config
        env).2.isAllocatingBuffer = q.isAllocatingBuffer := by
      rw [hflag, ← hp]
    rw [hin, Bool.true_and]
    by_cases hret : (p.flushBufferImprovedLocked buffer.seqNum bedata fence config env).1 = .ok
    · rw [if_pos (hkeep.mpr (flushImproved_ok hfind rfl hret)), if_neg (not_not.mpr hret)]
      exact .of_insert rfl rfl hsize (fun h => hreserve.trans h) (hused.trans hput) hflag'
    · rw [if_pos hret] at hfault ⊢
      have hlost : q.flushKeeps buffer config env = false := by
        rw [← Bool.not_eq_true, hkeep, ← flushImproved_ok_iff hfind rfl rfl hfault]
        exact hret
      rw [hlost, if_neg Bool.false_ne_true]
      refine .of_idle rfl rfl hsize (fun h => hreserve.trans h) ?_ fun h => ⟨rfl, hflag' ▸ h⟩
      have herase := BufferCache.size_erase (p.flushBufferImprovedLocked buffer.seqNum bedata fence
        config env).2.bufferQueueCache buffer.seqNum
      rw [if_pos hcached] at herase
      change BufferCache.size _ ≤ _
      rw [herase]
      change (p.flushBufferImprovedLocked buffer.seqNum bedata fence config env).2.getUsedSize - 1 ≤ _
      omega

theorem deleteBuffersLocked_zero (q : BufferQueue) : q.deleteBuffersLocked 0 = q := by
  simp [deleteBuffersLocked, deleteFree, deleteDirty, markDeleting]

theorem marks_deleteBuffersLocked (q : BufferQueue) (count : ℕ) :
    (q.deleteBuffersLocked count).marks = q.marks :=
  deleteBuffersLocked_induct (P := fun q' => q'.marks = q.marks) rfl
    (fun q₁ sequence h => (marks_deleteNoWait q₁ sequence).trans h)
    (fun q₁ sequence _ h => (marks_deleteNoWait q₁ sequence).trans h) (fun _ _ h => h) count

theorem isAllocatingBuffer_deleteBuffersLocked (q : BufferQueue) (count : ℕ) :
    (q.deleteBuffersLocked count).isAllocatingBuffer = q.isAllocatingBuffer :=
  congrArg Prod.fst (q.marks_deleteBuffersLocked count)

/-- When the queue is full no allocation is running, so that a full queue does not make
`AttachBuffer` wait. -/
theorem attachSection_fills (h : q.Agrees)
    (hbusy : q.isAllocatingBuffer = true → q.getUsedSize < q.bufferQueueSize)
    (buffer : SurfaceBuffer) (timeOut : Int) :
    Fills q 0 (if decide (q.getUsedSize < q.bufferQueueSize) &&
        (q.bufferQueueCache.find buffer.seqNum).isNone then 1 else 0)
      (q.attachSection buffer timeOut) := by
  unfold attachSection
  cases hfind : q.bufferQueueCache.find buffer.seqNum with
  | some ele =>
    simp only [Option.isNone_some, Bool.and_false, Bool.false_eq_true, if_false]
    by_cases hreleased : ele.state = .released
    · simp only [attachBufferUpdateStatus, if_pos hreleased]
      refine .of_idle rfl rfl rfl id ?_ fun h => ⟨rfl, h⟩
      simp [getUsedSize]
    · rw [if_neg hreleased]
      exact .of_same rfl rfl
  | none =>
    simp only [Option.isNone_none, Bool.and_true, decide_eq_true_eq]
    unfold attachDeleteCount
    by_cases hroom : q.getUsedSize < q.bufferQueueSize
    · simp only [if_pos hroom, lt_irrefl, false_and, if_false, deleteBuffersLocked_zero]
      exact .of_insert rfl rfl rfl id (getUsedSize_put hfind) rfl
    · have hidle : q.isAllocatingBuffer = false := by
        cases hflag : q.isAllocatingBuffer with
        | false => rfl
        | true => exact absurd (hbusy hflag) hroom
      simp only [if_neg hroom]
      by_cases henough : q.getUsedSize - q.bufferQueueSize + 1 ≤
          q.dirtyList.length + q.freeList.length
      · have hused := used_deleteBuffersLocked h henough
        have hframe := deleteBuffersLocked_frame q (q.getUsedSize - q.bufferQueueSize + 1)
        simp only [if_pos henough, hidle, Bool.false_eq_true, and_false, if_false]
        refine .of_idle rfl rfl ?_ (fun h => hframe.reserve.trans h) ?_ fun hflag => ⟨rfl, ?_⟩
        · change (q.deleteBuffersLocked _).bufferQueueSize = _
          rw [hframe.settings]
        · refine (used_put_le _ _).trans ?_
          change (q.deleteBuffersLocked _).getUsedSize + 1 ≤ _
          omega
        · exact (isAllocatingBuffer_deleteBuffersLocked q _).symm.trans hflag
      · simp only [if_neg henough]
        exact .of_same rfl rfl

/-- `PreAllocBuffers` stops when the queue is full. -/
theorem used_insertPreAlloc (q : BufferQueue) (config : BufferRequestConfig)
    {buffers : List SurfaceBuffer} (hnodup : (buffers.map (·.seqNum)).Nodup)
    (habsent : ∀ b ∈ buffers, q.bufferQueueCache.find b.seqNum = none) :
    (q.insertPreAlloc config buffers).2.getUsedSize =
      q.getUsedSize + min buffers.length (q.unreservedSize - q.getUsedSize) ∧
    (q.insertPreAlloc config buffers).2.isAllocatingBuffer = q.isAllocatingBuffer := by
  induction buffers generalizing q with
  | nil => simp [insertPreAlloc]
  | cons buffer rest ih =>
    rw [List.map_cons, List.nodup_cons] at hnodup
    obtain ⟨hout, hnodup⟩ := hnodup
    unfold insertPreAlloc
    by_cases hfull : q.unreservedSize ≤ q.getUsedSize
    · rw [if_pos hfull, Nat.sub_eq_zero_of_le hfull, Nat.min_zero]
      exact ⟨rfl, rfl⟩
    · rw [if_neg hfull]
      generalize hp : { q with
        bufferQueueCache := q.bufferQueueCache.put
          { BufferElement.init buffer .released config (some invalidFence) with
            isPreAllocBuffer := true }
        freeList := q.freeList ++ [buffer.seqNum] } = p
      have hused : p.getUsedSize = q.getUsedSize + 1 := by
        rw [← hp]
        exact getUsedSize_put (habsent buffer List.mem_cons_self)
      have hroom : p.unreservedSize = q.unreservedSize := by
        rw [← hp]
        rfl
      have hother : ∀ k, buffer.seqNum ≠ k → p.bufferQueueCache.find k = q.bufferQueueCache.find k := by
        intro k hk
        rw [← hp]
        exact (BufferCache.find_put _ _ _).trans (if_neg hk)
      have hfresh : ∀ b ∈ rest, p.bufferQueueCache.find b.seqNum = none := by
        intro b hb
        have hne : buffer.seqNum ≠ b.seqNum := fun hsame => hout (by
          rw [hsame]
          exact List.mem_map_of_mem hb)
        rw [hother _ hne]
        exact habsent b (List.mem_cons_of_mem _ hb)
      obtain ⟨hrest, hflag⟩ := ih p hnodup hfresh
      refine ⟨?_, hflag.trans (by rw [← hp])⟩
      rw [hrest, hused, hroom, List.length_cons]
      omega

end BufferQueue

def recordAllocating (t : ℕ) (allocating : Finset ℕ) (_ : BufferQueue) (_ : Pc) (_ : Action)
    (r : Pc × BufferQueue) : Finset ℕ :=
  if r.1.allocates then insert t allocating else allocating.erase t

/-- What a section adds fits into the queue together with the cached buffers and the allocations
that are running. -/
def KeepsRoom (_ : ℕ) (s : BufferQueue × Finset ℕ) (pc : Pc) (a : Action) : Prop :=
  s.1.getUsedSize + s.2.card + pc.gain s.1 a ≤ s.1.bufferQueueSize

/-- The buffers in the cache and those under way fit into the queue. -/
structure RoomKept (s : BufferQueue × Finset ℕ) : Prop where
  agrees : s.1.Agrees
  fits : s.1.getUsedSize + s.2.card ≤ s.1.bufferQueueSize
  reserve : s.1.detachReserveSlotNum = 0
  width : s.1.bufferQueueSize < 2 ^ 32
  allocating : s.1.isAllocatingBuffer = true → s.2.Nonempty

theorem Call.start_fills (q : BufferQueue) {c : Call} (hc : c.fills = true)
    (hfault : (c.start q).2.fault = false) (reply : Option Reply) :
    Fills q 0 ((Pc.idle reply).gain q (.call c)) (c.start q) := by
  cases c with
  | requestBuffer config => exact q.startRequest_fills false config
  | requestAndDetachBuffer config => exact q.startRequest_fills true config
  | cancelBuffer sequence bedata =>
    have hframe := BufferQueue.cancelBufferLocked_frame q sequence bedata
    refine .of_idle rfl rfl ?_ (fun h => hframe.reserve.trans h) ?_ fun h => ⟨rfl, ?_⟩
    · exact congrArg QueueSettings.bufferQueueSize hframe.settings
    · change (q.cancelBufferLocked sequence bedata).2.getUsedSize ≤ _
      unfold BufferQueue.cancelBufferLocked
      split
      · exact le_rfl
      · split
        · exact le_rfl
        · simp [BufferQueue.getUsedSize]
    · rw [← h]
      change _ = (q.cancelBufferLocked sequence bedata).2.isAllocatingBuffer
      unfold BufferQueue.cancelBufferLocked
      split
      · rfl
      · split <;> rfl
  | attachBufferToQueue buffer invokerType =>
    exact q.attachBufferToQueueLocked_fills buffer invokerType _
  | attachBuffer buffer timeOut =>
    simp only [Call.start]
    split <;> exact .of_same rfl rfl
  | attachAndFlushBuffer buffer bedata fence config env =>
    exact q.attachAndFlushBuffer_fills buffer bedata fence config env _ hfault
  | preAllocBuffers config count =>
    change Fills q 0 0 (q.preAllocSection config count)
    unfold BufferQueue.preAllocSection
    dsimp only
    split
    · exact .of_same rfl rfl
    · split <;> exact .of_same rfl rfl
  | configure setting =>
    have hsize := q.bufferQueueSize_configure setting
    cases setting with
    | unRegisterProducerReleaseListener => exact .of_idle rfl rfl rfl id le_rfl fun h => ⟨rfl, h⟩
    | _ => exact .of_idle rfl rfl hsize id le_rfl fun h => ⟨rfl, h⟩
  | _ => cases hc

/-! The sections that follow the first one of a call. -/

namespace Pc

variable {q : BufferQueue} {a : Action} {r : Pc × BufferQueue}

theorem requestWait_fills {detach : Bool} {config : BufferRequestConfig}
    (hr : (requestWait detach config).advance q a = some r) :
    Fills q (requestWait detach config).weight ((requestWait detach config).gain q a) r := by
  cases a with
  | go =>
    change (if q.isAllocatingBuffer then none else some (q.requestSection detach config)) =
      some r at hr
    split_ifs at hr
    cases hr
    exact q.requestSection_fills detach config
  | _ => cases hr

theorem requestBlocked_fills {detach : Bool} {config : BufferRequestConfig}
    (hr : (requestBlocked detach config).advance q a = some r) :
    Fills q (requestBlocked detach config).weight ((requestBlocked detach config).gain q a) r := by
  cases a with
  | go =>
    have hframe := BufferQueue.reuseBufferForBlockMode_frame q config
    cases hr
    exact BufferQueue.reach_fills detach (q.reuseBufferForBlockMode_room config)
      (q.reuseBufferForBlockMode_still config)
      (congrArg QueueSettings.bufferQueueSize hframe.settings) hframe.reserve
  | _ => cases hr

theorem allocating_fills {detach : Bool} {point : ReusePoint}
    (hpc : (allocating detach point).fills = true)
    (hr : (allocating detach point).advance q a = some r) :
    Fills q (allocating detach point).weight ((allocating detach point).gain q a) r := by
  cases a with
  | allocated a =>
    cases hr
    exact q.finishRequest_fills detach a hpc
  | _ => cases hr

theorem attachListener_fills {buffer : SurfaceBuffer} {timeOut : Int}
    (hr : (attachListener buffer timeOut).advance q a = some r) :
    Fills q (attachListener buffer timeOut).weight ((attachListener buffer timeOut).gain q a) r := by
  cases a with
  | go =>
    change (if q.listenerRegistered then some _ else some _) = some r at hr
    split_ifs at hr <;> cases hr <;> exact .of_same rfl rfl
  | _ => cases hr

theorem attachMain_fills {s : BufferQueue × Finset ℕ} (h : RoomKept s) {buffer : SurfaceBuffer}
    {timeOut : Int} (hr : (attachMain buffer timeOut).advance s.1 a = some r) :
    Fills s.1 (attachMain buffer timeOut).weight ((attachMain buffer timeOut).gain s.1 a) r := by
  cases a with
  | go =>
    cases hr
    refine BufferQueue.attachSection_fills h.agrees (fun hbusy => ?_) buffer timeOut
    have hpos := (h.allocating hbusy).card_pos
    have hfits := h.fits
    omega
  | _ => cases hr

theorem attachWait_fills {sequence : ℕ} (hr : (attachWait sequence).advance q a = some r) :
    Fills q (attachWait sequence).weight ((attachWait sequence).gain q a) r := by
  cases a with
  | go =>
    unfold Pc.advance at hr
    dsimp only at hr
    split at hr
    · cases hr
    · cases hr
      refine .of_idle rfl rfl ?_ ?_ ?_ ?_
      all_goals
        unfold BufferQueue.attachBufferUpdateStatus
        split
      · rfl
      · rfl
      · exact id
      · exact id
      · simp [BufferQueue.getUsedSize]
      · exact le_rfl
      · exact fun h => ⟨rfl, h⟩
      · exact fun h => ⟨rfl, h⟩
  | _ => cases hr

theorem preAllocating_fills {config : BufferRequestConfig} {count : ℕ}
    (hfresh : a.fresh q (preAllocating config count))
    (hr : (preAllocating config count).advance q a = some r) :
    Fills q (preAllocating config count).weight ((preAllocating config count).gain q a) r := by
  cases a with
  | preAllocated as =>
    cases hr
    obtain ⟨hnodup, hmade⟩ := BufferQueue.allocBuffers_spec config count as
    have hall : ∀ j < count, q.bufferQueueCache.find (as j).sequence = none := by
      simpa [Action.fresh] using hfresh
    have habsent : ∀ b ∈ BufferQueue.allocBuffers config count as,
        q.bufferQueueCache.find b.seqNum = none := by
      intro b hb
      obtain ⟨i, hi, hseq⟩ := hmade b hb
      rw [← hseq]
      exact hall i hi
    obtain ⟨hused, hflag⟩ := BufferQueue.used_insertPreAlloc q config hnodup habsent
    have hframe := BufferQueue.insertPreAlloc_frame q config
      (BufferQueue.allocBuffers config count as)
    exact {
      fills := rfl
      size := congrArg QueueSettings.bufferQueueSize hframe.settings
      reserve := fun h => hframe.reserve.trans h
      load := hused.le
      exact := fun _ => hused.ge
      allocating := fun h => .inr ⟨rfl, hflag.symm.trans h⟩ }
  | _ => cases hr

theorem advance_fills {t : ℕ} {s : BufferQueue × Finset ℕ} (h : RoomKept s) {pc : Pc}
    (hpc : pc.fills = true) (ha : a.fills = true) (hr : queueThread t s.1 pc a = some r) :
    Fills s.1 pc.weight (pc.gain s.1 a) r := by
  obtain ⟨hfresh, hadvance, hfault⟩ := (queueThread_eq_some (t := t)).mp hr
  cases pc with
  | idle reply =>
    cases a with
    | call c =>
      cases hadvance
      exact Call.start_fills s.1 ha hfault reply
    | _ => cases hadvance
  | requestWait detach config => exact requestWait_fills hadvance
  | requestBlocked detach config => exact requestBlocked_fills hadvance
  | allocating detach point => exact allocating_fills hpc hadvance
  | attachListener buffer timeOut => exact attachListener_fills hadvance
  | attachMain buffer timeOut => exact attachMain_fills h hadvance
  | attachWait sequence => exact attachWait_fills hadvance
  | preAllocating config count => exact preAllocating_fills hfresh hadvance
  | unRegistering =>
    cases a with
    | go =>
      cases hadvance
      exact .of_idle rfl rfl rfl id le_rfl fun h => ⟨rfl, h⟩
    | _ => cases hadvance
  | _ => cases hpc

end Pc

theorem Pc.calm_of_fills {q : BufferQueue} {pc : Pc} {a : Action} (hpc : pc.fills = true)
    (ha : a.fills = true) : pc.Calm q a := by
  unfold Calm
  split
  · rename_i c
    cases c <;> first | exact trivial | cases ha
  all_goals first | exact trivial | cases hpc

theorem card_recordAllocating {t : ℕ} {allocating : Finset ℕ} {q : BufferQueue} {pc : Pc}
    {a : Action} {r : Pc × BufferQueue} (h : t ∈ allocating ↔ pc.allocates = true) :
    (recordAllocating t allocating q pc a r).card + pc.weight = allocating.card + r.1.weight := by
  unfold recordAllocating Pc.weight
  by_cases hr : r.1.allocates = true
  · rw [if_pos hr, if_pos hr]
    by_cases hpc : pc.allocates = true
    · rw [if_pos hpc, Finset.insert_eq_of_mem (h.mpr hpc)]
    · rw [if_neg hpc, Finset.card_insert_of_notMem fun hin => hpc (h.mp hin)]
  · rw [if_neg hr, if_neg hr]
    by_cases hpc : pc.allocates = true
    · rw [if_pos hpc, Finset.card_erase_add_one (h.mpr hpc), Nat.add_zero]
    · rw [if_neg hpc, Finset.erase_eq_of_notMem fun hin => hpc (h.mp hin)]

def Placed (t : ℕ) (s : BufferQueue × Finset ℕ) (pc : Pc) : Prop :=
  pc.fills = true ∧ (t ∈ s.2 ↔ pc.allocates = true)

namespace RoomKept

variable {t : ℕ} {s : BufferQueue × Finset ℕ} {pc : Pc} {a : Action}
  {r : Pc × BufferQueue × Finset ℕ}

theorem keepsRoom_iff (h : RoomKept s) (hpc : Placed t s pc) (ha : a.fills = true)
    (hr : Thread.observed queueThread recordAllocating t s pc a = some r) :
    KeepsRoom t s pc a ↔ r.2.1.getUsedSize + r.2.2.card ≤ r.2.1.bufferQueueSize := by
  obtain ⟨r, hr', rfl⟩ := Thread.observed_eq_some.mp hr
  have hfills := Pc.advance_fills h hpc.1 ha hr'
  have hcard := card_recordAllocating (q := s.1) (a := a) (r := r) hpc.2
  have hfits := h.fits
  have hload := hfills.load
  have hexact := hfills.exact
  change s.1.getUsedSize + s.2.card + pc.gain s.1 a ≤ s.1.bufferQueueSize ↔
    r.2.getUsedSize + (recordAllocating t s.2 s.1 pc a r).card ≤ r.2.bufferQueueSize
  rw [hfills.size]
  rcases Nat.eq_zero_or_pos (pc.gain s.1 a) with hgain | hgain
  · omega
  · have hleast := hexact hgain
    omega

theorem step (h : RoomKept s) (hpc : Placed t s pc) (ha : a.fills = true)
    (hok : KeepsRoom t s pc a)
    (hr : Thread.observed queueThread recordAllocating t s pc a = some r) :
    RoomKept r.2 ∧ Placed t r.2 r.1 := by
  have hfits := (h.keepsRoom_iff hpc ha hr).mp hok
  obtain ⟨r, hr', rfl⟩ := Thread.observed_eq_some.mp hr
  have hfills := Pc.advance_fills h hpc.1 ha hr'
  refine ⟨⟨queueThread_agrees h.agrees (Pc.calm_of_fills hpc.1 ha) hr', hfits,
    hfills.reserve h.reserve, hfills.size ▸ h.width, fun hflag => ?_⟩, hfills.fills, ?_⟩
  · rcases hfills.allocating hflag with hnext | ⟨hweight, hbusy⟩
    · refine ⟨t, ?_⟩
      change t ∈ recordAllocating t s.2 s.1 pc a r
      rw [recordAllocating, if_pos hnext]
      exact Finset.mem_insert_self t s.2
    · have hout : t ∉ s.2 := by
        rw [hpc.2]
        intro hallocates
        rw [Pc.weight, if_pos hallocates] at hweight
        cases hweight
      change (recordAllocating t s.2 s.1 pc a r).Nonempty
      unfold recordAllocating
      split
      · exact Finset.insert_nonempty t s.2
      · rw [Finset.erase_eq_of_notMem hout]
        exact h.allocating hbusy
  · change t ∈ recordAllocating t s.2 s.1 pc a r ↔ r.1.allocates = true
    unfold recordAllocating
    split
    · rename_i hnext
      exact ⟨fun _ => hnext, fun _ => Finset.mem_insert_self t s.2⟩
    · rename_i hnext
      exact ⟨fun hin => absurd hin (Finset.notMem_erase t s.2), fun hin => absurd hin hnext⟩

theorem others {u : ℕ} {pc' : Pc} (hpc : Placed u s pc') (hu : u ≠ t)
    (hr : Thread.observed queueThread recordAllocating t s pc a = some r) : Placed u r.2 pc' := by
  obtain ⟨r, -, rfl⟩ := Thread.observed_eq_some.mp hr
  refine ⟨hpc.1, ?_⟩
  change u ∈ recordAllocating t s.2 s.1 pc a r ↔ _
  unfold recordAllocating
  split
  · rw [Finset.mem_insert, or_iff_right hu]
    exact hpc.2
  · rw [Finset.mem_erase, and_iff_right hu]
    exact hpc.2

end RoomKept

/-- Runs of the calls that fill the cache, in which every section leaves room for the allocations
that are running. -/
def FillsWithRoom (t : ℕ) (s : BufferQueue × Finset ℕ) (pc : Pc) (a : Action) : Prop :=
  a.fills = true ∧ KeepsRoom t s pc a

def fillStart (s : QueueSettings) : Machine (BufferQueue × Finset ℕ) Pc :=
  ⟨(BufferQueue.start s, ∅), fun _ => .idle none⟩

/-- As long as every section that adds a buffer, or begins to allocate one, leaves room for the
allocations that are running, there are never more buffers than the queue has slots; and the next
step meets this exactly when the buffers still fit after it. -/
theorem capacity_kept {s : QueueSettings} (hsize : s.bufferQueueSize < 2 ^ 32)
    {ls : List (ℕ × Action)} {m : Machine (BufferQueue × Finset ℕ) Pc}
    (run : Run (TurnIf (Thread.observed queueThread recordAllocating) FillsWithRoom) (fillStart s)
      ls m) :
    m.shared.1.getUsedSize ≤ m.shared.1.bufferQueueSize ∧
      ∀ l m', l.2.fills = true → Turn (Thread.observed queueThread recordAllocating) m l m' →
        (KeepsRoom l.1 m.shared (m.procs l.1) l.2 ↔
          m'.shared.1.getUsedSize + m'.shared.2.card ≤ m'.shared.1.bufferQueueSize) := by
  have hstart : RoomKept (BufferQueue.start s, ∅) :=
    ⟨agrees_start s, by simp [BufferQueue.start, BufferQueue.getUsedSize], rfl, hsize, nofun⟩
  obtain ⟨h, hplaced⟩ := rely_guarantee RoomKept Placed
    (fun t s pc a r h hpc hok hr => h.step hpc hok.1 hok.2 hr)
    (fun t s pc a r u pc' _ _ _ hr hu hpc' => RoomKept.others hpc' hu hr) hstart
    (fun t => ⟨rfl, by simp [fillStart, Pc.allocates]⟩) run
  refine ⟨Nat.le_of_add_right_le h.fits, fun l m' hfills hturn => ?_⟩
  obtain ⟨r, hr, rfl⟩ := hturn.cases
  exact h.keepsRoom_iff (hplaced l.1) hfills hr

instance (t : ℕ) (s : BufferQueue × Finset ℕ) (pc : Pc) (a : Action) :
    Decidable (FillsWithRoom t s pc a) := inferInstanceAs (Decidable (_ ∧ _ ≤ _))

def attachInAllocation : List (ℕ × Action) :=
  [(0, .call (.requestBuffer sampleConfig)),
    (1, .call (.attachBufferToQueue (sampleBuffer 9) .producerInvoker)),
    (0, .allocated ⟨1, 1, true, true⟩)]

theorem capacity_kept_attachInAllocation :
    listening.bufferQueueSize < 2 ^ 32 ∧
    ∃ m, Run (TurnIf (Thread.observed queueThread recordAllocating) FillsWithRoom)
        (fillStart listening) attachInAllocation m ∧
      m.shared.1.getUsedSize = 2 ∧ m.shared.1.getUsedSize ≤ m.shared.1.bufferQueueSize := by
  have legal : Legal (Machine.next (Thread.observed queueThread recordAllocating))
      (fun m l => (m.next? (Thread.observed queueThread recordAllocating) l).isSome ∧
        FillsWithRoom l.1 m.shared (m.procs l.1) l.2)
      (fillStart listening) attachInAllocation := by
    decide
  have run : Run (TurnIf (Thread.observed queueThread recordAllocating) FillsWithRoom)
      (fillStart listening) attachInAllocation _ :=
    .of_legal (fun _ _ h => ⟨Turn.next h.1, h.2⟩) legal
  exact ⟨by decide, _, run, by decide, (capacity_kept (by decide) run).1⟩

/-- In a queue of one slot the calls of `attachInAllocation` leave two buffers. -/
theorem capacity_exceeded :
    ¬ ∀ (s : QueueSettings) (ls : List (ℕ × Action)) (m : Machine BufferQueue Pc),
      (∀ l ∈ ls, l.2.fills = true) →
      Run (Turn queueThread) ⟨BufferQueue.start s, fun _ => .idle none⟩ ls m →
      m.shared.getUsedSize ≤ m.shared.bufferQueueSize := by
  intro h
  have legal : Legal (Machine.next queueThread) (fun m l => (m.next? queueThread l).isSome)
      ⟨BufferQueue.start { listener := true, bufferQueueSize := 1 }, fun _ => .idle none⟩
      attachInAllocation := by
    decide
  have hover := h _ _ _ (by decide) (.of_legal (fun _ _ h => Turn.next h) legal)
  exact absurd hover (by decide)

end GraphicSurface
