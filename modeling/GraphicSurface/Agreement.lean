import GraphicSurface.AttachMoves

/-! Every call of the queue is a run of the moves it is allowed, and the lists of the queue agree
with the states of its buffers after every sequential run. -/

namespace GraphicSurface

open Runs SlotPool

def Op.moves : Op → Move ℕ → Prop
  | requestBuffer _ a => requests [a.sequence]
  | requestBuffers _ as => requests (as.map (·.sequence))
  | requestAndDetachBuffer _ a => requestsAndDetaches [a.sequence]
  | flushBuffer _ | flushBuffers _ => flushes
  | acquireBuffer _ => takes
  | acquireBufferByTimestamp _ _ _ _ => acquires
  | cancelBuffer _ _ | releaseBuffer _ _ _ => releases
  | attachBufferToQueue buffer _ => adoptsOne buffer.seqNum
  | detachBufferFromQueue _ _ _ | detachBuffer _ => detaches
  | attachBuffer buffer _ => attaches buffer.seqNum
  | attachAndFlushBuffer buffer _ _ _ _ => attachesAndFlushes buffer.seqNum
  | setQueueSize _ | setMaxQueueSize _ => drops
  | preAllocBuffers _ count as => stocks ((List.range count).map fun i => (as i).sequence)
  | cleanCache | goBackground | onConsumerDied | setProducerCacheCleanFlag _ => clears
  | cleanReleasedBuffers => cleansFree
  | cleanProducerBySeqNum _ => cleans
  | acquireLastFlushedBuffer | releaseLastFlushedBuffer _ | setScalingMode _
  | setBufferScalingMode _ _ | setVideoDimensionType _ | setSingleBufferMode _ | configure _ =>
    fun _ => False

namespace BufferQueue

variable {q q' : BufferQueue}

theorem requestBuffers_refines (h : q.Agrees) (config : BufferRequestConfig)
    (as : List Allocation) (hnodup : (as.map (·.sequence)).Nodup)
    (hfresh : ∀ a ∈ as, q.bufferQueueCache.find a.sequence = none) :
    Refines (requests (as.map (·.sequence))) q (q.requestBuffers config as).2.2 := by
  have hbatch : Refines (requests (as.map (·.sequence))) q { q with isBatch := true } :=
    .of_pool_eq rfl rfl
  have hloop := requestBuffersLoop_refines (hbatch.agrees h) config as hnodup hfresh
  exact (hbatch.trans hloop).trans (.of_pool_eq rfl rfl)

theorem setScalingMode_refines {allowed : Move ℕ → Prop} (q : BufferQueue) (scalingMode : Int) :
    Refines allowed q (q.setScalingMode scalingMode) := by
  refine .of_pool_eq ?_ rfl
  simp only [pool, setScalingMode, getUsedSize, BufferCache.size_mapAll,
    BufferCache.place_mapAll (BufferElement.setScalingMode_state scalingMode)]

theorem setVideoDimensionType_refines {allowed : Move ℕ → Prop} (q : BufferQueue)
    (videoDimType : Int) : Refines allowed q (q.setVideoDimensionType videoDimType) := by
  refine .of_pool_eq ?_ rfl
  simp only [pool, setVideoDimensionType, getUsedSize, BufferCache.size_mapAll,
    BufferCache.place_mapAll (BufferElement.setVideoDimensionType_state videoDimType)]

theorem setBufferScalingMode_refines {allowed : Move ℕ → Prop} (q : BufferQueue) (sequence : ℕ)
    (scalingMode : Int) : Refines allowed q (q.setBufferScalingMode sequence scalingMode).2 := by
  unfold setBufferScalingMode
  split
  · refine .of_pool_eq ?_ rfl
    simp only [pool, getUsedSize, BufferCache.size_modify,
      BufferCache.place_modify_of_state (BufferElement.setScalingMode_state scalingMode)]
  · exact .refl

end BufferQueue

theorem Op.run_refines {q : BufferQueue} {op : Op} (h : q.Agrees) (hfresh : op.Fresh q)
    (hsafe : op.HasExtraData ∨ (op.run q).2.fault = false) :
    Refines op.moves q (op.run q).2 := by
  cases op with
  | requestBuffer config a => exact BufferQueue.requestBufferLocked_refines h config a hfresh
  | requestBuffers config as =>
    exact BufferQueue.requestBuffers_refines h config as hfresh.1 hfresh.2
  | requestAndDetachBuffer config a =>
    exact BufferQueue.requestAndDetachBuffer_refines h config a hfresh
  | cancelBuffer sequence bedata => exact BufferQueue.cancelBufferLocked_refines trivial q bedata
  | flushBuffer f => exact BufferQueue.flushBuffer_refines h hsafe
  | flushBuffers fs => exact BufferQueue.flushBuffers_refines h fs hsafe
  | acquireBuffer now => exact BufferQueue.acquireBuffer_refines h now
  | acquireBufferByTimestamp expect auto now envs =>
    exact BufferQueue.acquireBufferByTimestamp_refines h expect auto now envs
  | releaseBuffer sequence fence env => exact BufferQueue.releaseBuffer_refines h sequence fence env
  | attachBufferToQueue buffer invokerType =>
    exact BufferQueue.attachBufferToQueueLocked_refines q buffer invokerType
  | detachBufferFromQueue sequence invokerType isReserveSlot =>
    exact BufferQueue.detachBufferFromQueueLocked_refines h sequence invokerType isReserveSlot
  | attachBuffer buffer timeOut => exact BufferQueue.attachBuffer_refines h buffer timeOut
  | detachBuffer sequence => exact BufferQueue.detachBuffer_refines q sequence
  | attachAndFlushBuffer buffer bedata fence config env =>
    exact BufferQueue.attachAndFlushBuffer_refines h hsafe
  | setQueueSize queueSize => exact BufferQueue.setQueueSize_refines h queueSize
  | setMaxQueueSize queueSize => exact BufferQueue.setMaxQueueSize_refines h queueSize
  | preAllocBuffers config count as =>
    exact BufferQueue.preAllocBuffers_refines config count as hfresh
  | cleanCache => exact BufferQueue.clearLocked_refines q
  | goBackground => exact (BufferQueue.clearLocked_refines q).trans (.of_pool_eq rfl rfl)
  | onConsumerDied => exact BufferQueue.clearLocked_refines q
  | setProducerCacheCleanFlag flag => exact BufferQueue.setProducerCacheCleanFlag_refines q flag
  | cleanReleasedBuffers => exact BufferQueue.cleanReleasedBuffers_refines h
  | cleanProducerBySeqNum seqNums => exact BufferQueue.cleanProducerBySeqNum_refines h seqNums
  | acquireLastFlushedBuffer =>
    obtain ⟨hpool, hfault⟩ := BufferQueue.pool_acquireLastFlushedBuffer q
    exact .of_pool_eq hpool hfault
  | releaseLastFlushedBuffer sequence =>
    obtain ⟨hpool, hfault⟩ := BufferQueue.pool_releaseLastFlushedBuffer q sequence
    exact .of_pool_eq hpool hfault
  | setScalingMode scalingMode => exact BufferQueue.setScalingMode_refines q scalingMode
  | setBufferScalingMode sequence scalingMode =>
    exact BufferQueue.setBufferScalingMode_refines q sequence scalingMode
  | setVideoDimensionType videoDimType =>
    exact BufferQueue.setVideoDimensionType_refines q videoDimType
  | setSingleBufferMode singleBufferMode => exact .of_pool_eq rfl rfl
  | configure s => exact .of_pool_eq rfl rfl

theorem QueueStep.refines {q q' : BufferQueue} {op : Op} (hstep : QueueStep q op q')
    (h : q.Agrees) : Refines op.moves q q' := by
  obtain ⟨hfresh, rfl, hfault⟩ := hstep
  exact op.run_refines h hfresh (.inr hfault)

/-- The queue itself never meets a null pointer: a call with fresh numbers and its extra data is
always a step. -/
theorem QueueStep.of_hasExtraData {q : BufferQueue} {op : Op} (h : q.Agrees)
    (hfault : q.fault = false) (hfresh : op.Fresh q) (hdata : op.HasExtraData) :
    QueueStep q op (op.run q).2 :=
  ⟨hfresh, rfl, (op.run_refines h hfresh (.inl hdata)).fault.trans hfault⟩

theorem agrees_start (s : QueueSettings) : (BufferQueue.start s).Agrees := by
  have hpool : (BufferQueue.start s).pool = ⟨fun _ => none, [], [], 0⟩ := by
    simp [BufferQueue.pool, BufferQueue.start, BufferQueue.getUsedSize]
  rw [BufferQueue.Agrees, hpool]
  exact .empty

theorem agrees_of_run {q q' : BufferQueue} {ops : List Op} (h : q.Agrees)
    (run : Run QueueStep q ops q') : q'.Agrees :=
  run.invariant (fun _ _ _ hq hstep => (hstep.refines hq).agrees hq) h

theorem Reachable.agrees {q : BufferQueue} (h : Reachable q) : q.Agrees := by
  obtain ⟨s, ops, run⟩ := h
  exact agrees_of_run (agrees_start s) run

/-- The lists of a reachable queue hold exactly the released and the flushed buffers. -/
theorem lists_agree_with_states {q : BufferQueue} (h : Reachable q) :
    q.freeList.Nodup ∧ q.dirtyList.Nodup ∧
      (∀ sequence, sequence ∈ q.freeList ↔
        ∃ ele, q.bufferQueueCache.find sequence = some ele ∧ ele.state = .released) ∧
      (∀ sequence, sequence ∈ q.dirtyList ↔
        ∃ ele, q.bufferQueueCache.find sequence = some ele ∧ ele.state = .flushed) ∧
      q.freeList.Disjoint q.dirtyList ∧
      (∀ sequence ele, q.bufferQueueCache.find sequence = some ele →
        ele.state = .requested ∨ ele.state = .acquired ∨ ele.state = .attached →
        sequence ∉ q.freeList ∧ sequence ∉ q.dirtyList) := by
  have hq := h.agrees
  refine ⟨hq.free_nodup, hq.pending_nodup, fun sequence => ⟨hq.state_of_mem_free, ?_⟩,
    fun sequence => ⟨hq.state_of_mem_dirty, ?_⟩, fun sequence => hq.disjoint, ?_⟩
  · rintro ⟨ele, hele, hs⟩
    exact (hq.mem_free_iff hele).mpr hs
  · rintro ⟨ele, hele, hs⟩
    exact (hq.mem_dirty_iff hele).mpr hs
  · intro sequence ele hele hs
    rw [hq.mem_free_iff hele, hq.mem_dirty_iff hele]
    rcases hs with hs | hs | hs <;> simp [hs]

def sampleConfig : BufferRequestConfig := ⟨10, 10, 8, 12, 0, 0, 4, 0, 1⟩

def cancelAndFlush : List Op :=
  [.configure .registerConsumerListener, .requestBuffer sampleConfig ⟨1, 1, true, true⟩,
    .requestBuffer sampleConfig ⟨2, 2, true, true⟩, .cancelBuffer 1 (some ∅),
    .flushBuffer ⟨2, some ∅, invalidFence, ⟨[], 0, 0⟩, ⟨.ok, 0⟩⟩]

theorem lists_agree_after_cancelAndFlush :
    (execute Op.next (BufferQueue.start {}) cancelAndFlush).freeList = [1] ∧
      (execute Op.next (BufferQueue.start {}) cancelAndFlush).dirtyList = [2] ∧
      (execute Op.next (BufferQueue.start {}) cancelAndFlush).freeList.Nodup ∧
      ∃ ele, (execute Op.next (BufferQueue.start {}) cancelAndFlush).bufferQueueCache.find 2 =
        some ele ∧ ele.state = .flushed := by
  have h := lists_agree_with_states
    (Reachable.of_legal (show Legal _ _ (BufferQueue.start {}) cancelAndFlush by decide))
  exact ⟨rfl, rfl, h.1, (h.2.2.2.1 2).mp (by decide)⟩

end GraphicSurface
