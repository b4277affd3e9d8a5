import GraphicSurface.Flush
import GraphicSurface.Request

/-! Buffers that enter and leave the queue as objects: the attach and detach calls, the two fused
calls, `DeleteBuffersLocked`, the queue sizes and `PreAllocBuffers`. -/

namespace GraphicSurface

def BufferElement.setDeleting (e : BufferElement) : BufferElement := { e with isDeleting := true }

theorem BufferElement.setDeleting_seqNum (e : BufferElement) :
    e.setDeleting.buffer.seqNum = e.buffer.seqNum := rfl

@[simp] theorem BufferElement.setDeleting_state (e : BufferElement) :
    e.setDeleting.state = e.state := rfl

namespace BufferQueue

/-- One round of the first loop of `DeleteBuffersLocked`; the number is erased a second time after
the deletion. -/
def deleteFreeFront (q : BufferQueue) (sequence : ℕ) : BufferQueue :=
  let q := q.deleteBufferInCacheNoWaitForAllocatingState sequence
  { q with freeList := q.freeList.erase sequence }

/-- One round of the second loop, over a dirty list that ends in `rest`. -/
def deleteDirtyFront (q : BufferQueue) (sequence : ℕ) (rest : List ℕ) : BufferQueue :=
  { q.deleteBufferInCacheNoWaitForAllocatingState sequence with dirtyList := rest }

/-- The first loop of `DeleteBuffersLocked`, over the free list; the result is the count that is
left. -/
def deleteFree (q : BufferQueue) : ℕ → ℕ × BufferQueue
  | 0 => (0, q)
  | count + 1 =>
    match q.freeList with
    | [] => (count + 1, q)
    | sequence :: _ => (q.deleteFreeFront sequence).deleteFree count

/-- The second loop, over the dirty list. -/
def deleteDirty (q : BufferQueue) : ℕ → ℕ × BufferQueue
  | 0 => (0, q)
  | count + 1 =>
    match q.dirtyList with
    | [] => (count + 1, q)
    | sequence :: rest => (q.deleteDirtyFront sequence rest).deleteDirty count

def markDeleting (q : BufferQueue) : List ℕ → BufferQueue
  | [] => q
  | sequence :: rest =>
    { q with
      bufferQueueCache := q.bufferQueueCache.modify sequence BufferElement.setDeleting
        BufferElement.setDeleting_seqNum }.markDeleting rest

/-- `DeleteBuffersLocked` after its wait: what the two loops leave of the count is marked in key
order. A count that is not positive does nothing. -/
def deleteBuffersLocked (q : BufferQueue) (count : ℕ) : BufferQueue :=
  let (count, q) := q.deleteFree count
  let (count, q) := q.deleteDirty count
  q.markDeleting (q.bufferQueueCache.keys.take count)

/-- The object as an attach stores it: the queue's scaling mode and video dimension type, and the
surface size read back from the handle. -/
def attachedBuffer (q : BufferQueue) (buffer : SurfaceBuffer) : SurfaceBuffer :=
  { buffer with
    surfaceBufferScalingMode := q.scalingMode
    surfaceBufferVideoDimensionType := q.videoDimType
    surfaceBufferWidth := buffer.width
    surfaceBufferHeight := buffer.height }

def attachBufferToQueueLocked (q : BufferQueue) (buffer : SurfaceBuffer)
    (invokerType : InvokerType) : GSError × BufferQueue :=
  if invokerType = .consumerInvoker ∧ q.listenerSeqAndFenceActive then (.invalidOperating, q)
  else if q.bufferQueueSize ≤ q.getUsedSize then (.bufferQueueFull, q)
  else if (q.bufferQueueCache.find buffer.seqNum).isSome then (.bufferIsIncache, q)
  else
    let ele (state : BufferState) : BufferElement :=
      .init (q.attachedBuffer buffer) state buffer.bufferRequestConfig (some invalidFence)
    match invokerType with
    | .producerInvoker =>
      (.ok, { q with bufferQueueCache := q.bufferQueueCache.put (ele .requested) })
    | .consumerInvoker =>
      (.ok, { q with
        detachReserveSlotNum := q.detachReserveSlotNum - 1
        bufferQueueCache := q.bufferQueueCache.put (ele .acquired) })

def attachBufferToQueue (q : BufferQueue) (buffer : SurfaceBuffer) (invokerType : InvokerType) :
    GSError × BufferQueue :=
  q.attachBufferToQueueLocked buffer invokerType

/-- The checks of `DetachBufferFromQueueLocked`. -/
def detachBufferCheck (q : BufferQueue) (sequence : ℕ) (invokerType : InvokerType) : GSError :=
  match q.bufferQueueCache.find sequence with
  | none => .bufferNotIncache
  | some ele =>
    match invokerType with
    | .producerInvoker => if ele.state ≠ .requested then .bufferStateInvalid else .ok
    | .consumerInvoker => if ele.state ≠ .acquired then .bufferStateInvalid else .ok

/-- The consumer's half of `DetachBufferFromQueueLocked` after the wait in
`DeleteBufferInCache`. -/
def detachForConsumer (q : BufferQueue) (sequence : ℕ) (isReserveSlot : Bool) : BufferQueue :=
  let q := q.deleteBufferInCacheNoWaitForAllocatingState sequence
  if isReserveSlot then
    { q with detachReserveSlotNum := (q.detachReserveSlotNum + 1) % 2 ^ 32 }
  else q

/-- `OnBufferDeleteForRS` and the erasure of one entry: how a producer's buffer leaves. -/
def eraseForRS (q : BufferQueue) (sequence : ℕ) : BufferQueue :=
  { q.onBufferDeleteForRS sequence with bufferQueueCache := q.bufferQueueCache.erase sequence }

def detachBufferFromQueueLocked (q : BufferQueue) (sequence : ℕ) (invokerType : InvokerType)
    (isReserveSlot : Bool) : GSError × BufferQueue :=
  if q.detachBufferCheck sequence invokerType ≠ .ok then
    (q.detachBufferCheck sequence invokerType, q)
  else
    match invokerType with
    | .producerInvoker => (.ok, q.eraseForRS sequence)
    | .consumerInvoker => (.ok, q.detachForConsumer sequence isReserveSlot)

def detachBufferFromQueue (q : BufferQueue) (sequence : ℕ) (invokerType : InvokerType)
    (isReserveSlot : Bool) : GSError × BufferQueue :=
  q.detachBufferFromQueueLocked sequence invokerType isReserveSlot

/-- `AttachBufferUpdateStatus` with nobody to release the buffer during its wait. -/
def attachBufferUpdateStatus (q : BufferQueue) (sequence : ℕ) (state : BufferState) :
    GSError × BufferQueue :=
  if state = .released then
    (.ok, { q with
      bufferQueueCache := q.bufferQueueCache.modify sequence (BufferElement.setState .attached)
        (BufferElement.setState_seqNum _)
      freeList := q.freeList.erase sequence })
  else (.bufferStateInvalid, q)

/-- The element that `AttachBuffer` inserts: no fence, and a configuration read from the handle. -/
def attachElement (q : BufferQueue) (buffer : SurfaceBuffer) (timeOut : Int) : BufferElement :=
  { BufferElement.init (q.attachedBuffer buffer) .attached
      { width := buffer.width, height := buffer.height, strideAlignment := 8,
        format := buffer.format, usage := buffer.usage, timeout := timeOut, colorGamut := 4,
        transform := 0, sourceType := 1 } none with
    damages := [⟨0, 0, buffer.width, buffer.height⟩] }

/-- How many buffers an attach to a full queue has to delete; `none` when there are not enough
free and dirty ones. -/
def attachDeleteCount (q : BufferQueue) : Option ℕ :=
  if q.getUsedSize < q.bufferQueueSize then some 0
  else if q.getUsedSize - q.bufferQueueSize + 1 ≤ q.dirtyList.length + q.freeList.length then
    some (q.getUsedSize - q.bufferQueueSize + 1)
  else none

def attachBuffer (q : BufferQueue) (buffer : SurfaceBuffer) (timeOut : Int) :
    GSError × BufferQueue :=
  if !q.isValidStatus then (.noConsumer, q)
  else if !q.listenerRegistered then (.consumerUnregisterListener, q)
  else
    match q.bufferQueueCache.find buffer.seqNum with
    | some ele => q.attachBufferUpdateStatus buffer.seqNum ele.state
    | none =>
      match q.attachDeleteCount with
      | none => (.outOfRange, q)
      | some count =>
        let ele := q.attachElement buffer timeOut
        let q := q.deleteBuffersLocked count
        (.ok, { q with bufferQueueCache := q.bufferQueueCache.put ele })

def detachBuffer (q : BufferQueue) (sequence : ℕ) : GSError × BufferQueue :=
  match q.bufferQueueCache.find sequence with
  | none => (.noEntry, q)
  | some ele =>
    if ele.state = .requested ∨ ele.state = .acquired then (.ok, q.eraseForRS sequence)
    else (.noEntry, q)

def requestAndDetachBuffer (q : BufferQueue) (config : BufferRequestConfig) (a : Allocation) :
    RequestReply × BufferQueue :=
  match q.requestBufferLocked config a false with
  | (reply, q) =>
    if reply.ret ≠ .ok then (reply, q)
    else
      match q.detachBufferFromQueueLocked reply.retval.sequence .producerInvoker false with
      | (ret, q) => ({ reply with ret := ret }, q)

def attachAndFlushBuffer (q : BufferQueue) (buffer : SurfaceBuffer) (bedata : Option ExtraData)
    (fence : SyncFence) (config : BufferFlushConfigWithDamages) (env : FlushEnv) :
    GSError × BufferQueue :=
  match q.attachBufferToQueueLocked buffer .producerInvoker with
  | (ret, q) =>
    if ret ≠ .ok then (ret, q)
    else
      match q.flushBufferImprovedLocked buffer.seqNum bedata fence config env with
      | (ret, q) =>
        if ret ≠ .ok then
          (ret, { q with
            dirtyList := q.dirtyList.erase buffer.seqNum
            bufferQueueCache := q.bufferQueueCache.erase buffer.seqNum })
        else (ret, q)

/-- The difference that `SetQueueSizeLocked` hands on is an `int32_t` that is positive here. -/
def setQueueSizeLocked (q : BufferQueue) (queueSize : ℕ) : GSError × BufferQueue :=
  let queueSize :=
    if q.maxQueueSize ≠ 0 ∧ q.maxQueueSize < queueSize then q.maxQueueSize else queueSize
  if queueSize < q.detachReserveSlotNum then (.invalidArguments, q)
  else if queueSize < q.bufferQueueSize then
    (.ok, { q.deleteBuffersLocked (q.bufferQueueSize - queueSize) with bufferQueueSize := queueSize })
  else (.ok, { q with bufferQueueSize := queueSize })

def setQueueSize (q : BufferQueue) (queueSize : ℕ) : GSError × BufferQueue :=
  if queueSize = 0 ∨ surfaceMaxQueueSize < queueSize then (.invalidArguments, q)
  else q.setQueueSizeLocked queueSize

def setMaxQueueSize (q : BufferQueue) (queueSize : ℕ) : GSError × BufferQueue :=
  if queueSize = 0 ∨ surfaceMaxQueueSize < queueSize then (.invalidArguments, q)
  else
    let q := { q with maxQueueSize := queueSize }
    if queueSize < q.bufferQueueSize then q.setQueueSizeLocked queueSize else (.ok, q)

/-- The smallest and the first invalid pixel format of `PreAllocBuffers`. -/
def pixelFmtClut8 : Int := 0
def pixelFmtButt : Int := 0x7FFFFFFF

def preAllocBuffersCheck (config : BufferRequestConfig) (allocBufferCount : ℕ) : GSError :=
  if config.width ≤ 0 ∨ config.height ≤ 0 ∨ config.format < pixelFmtClut8 ∨
      pixelFmtButt ≤ config.format ∨ allocBufferCount = 0 then .invalidArguments
  else .ok

/-- The first critical section of `PreAllocBuffers`. The room is a difference of 64-bit numbers. -/
def preAllocBuffersCount (q : BufferQueue) (allocBufferCount : ℕ) : ℕ :=
  min allocBufferCount ((q.unreservedSize + 2 ^ 64 - q.getUsedSize) % 2 ^ 64)

/-- `AllocBuffers`: the successful ones of `allocBufferCount` allocations, in the order of the map
that collects them. -/
def allocBuffers (config : BufferRequestConfig) (allocBufferCount : ℕ) (as : ℕ → Allocation) :
    List SurfaceBuffer :=
  let made := ((List.range allocBufferCount).map as).filter (·.alloc)
  (made.foldl (fun m a => m.insert a.sequence (SurfaceBuffer.allocated a config))
    (∅ : Std.ExtTreeMap ℕ SurfaceBuffer)).toList.map (·.2)

/-- The second critical section of `PreAllocBuffers`. -/
def insertPreAlloc (q : BufferQueue) (config : BufferRequestConfig) :
    List SurfaceBuffer → GSError × BufferQueue
  | [] => (.ok, q)
  | buffer :: rest =>
    if q.unreservedSize ≤ q.getUsedSize then (.bufferQueueFull, q)
    else
      { q with
        bufferQueueCache := q.bufferQueueCache.put
          { BufferElement.init buffer .released config (some invalidFence) with
            isPreAllocBuffer := true }
        freeList := q.freeList ++ [buffer.seqNum] }.insertPreAlloc config rest

def preAllocBuffers (q : BufferQueue) (config : BufferRequestConfig) (allocBufferCount : ℕ)
    (as : ℕ → Allocation) : GSError × BufferQueue :=
  if preAllocBuffersCheck config allocBufferCount ≠ .ok then
    (preAllocBuffersCheck config allocBufferCount, q)
  else
    let count := q.preAllocBuffersCount allocBufferCount
    if count = 0 then (.bufferQueueFull, q)
    else
      let updateConfig := { config with usage := config.usage ||| q.defaultUsage }
      q.insertPreAlloc updateConfig (allocBuffers updateConfig count as)

/-- `CleanReleasedBuffersLocked`: every free buffer goes, except the last flushed one and the
locked one. -/
def cleanReleasedBuffersLocked (q : BufferQueue) : List ℕ → List ℕ × BufferQueue
  | [] => ([], q)
  | sequence :: rest =>
    if sequence = q.lastFlusedSequence ∨ sequence = q.acquireLastFlushedBufSequence then
      q.cleanReleasedBuffersLocked rest
    else
      let q := if (q.bufferQueueCache.find sequence).isSome then q.onBufferDeleteForRS sequence else q
      let (cleanedSeqNums, q) := { q with
        bufferQueueCache := q.bufferQueueCache.erase sequence
        freeList := q.freeList.erase sequence }.cleanReleasedBuffersLocked rest
      (sequence :: cleanedSeqNums, q)

def cleanReleasedBuffers (q : BufferQueue) : List ℕ × BufferQueue :=
  q.cleanReleasedBuffersLocked q.freeList

/-- One round of `CleanProducerBySeqNum`; `std::list::remove` takes every occurrence out. -/
def cleanProducerOne (q : BufferQueue) (sequence : ℕ) : BufferQueue :=
  if (q.bufferQueueCache.find sequence).isSome then
    { q.onBufferDeleteForRS sequence with
      freeList := q.freeList.filter (· != sequence)
      dirtyList := q.dirtyList.filter (· != sequence)
      bufferQueueCache := q.bufferQueueCache.erase sequence }
  else q

def cleanProducerBySeqNum (q : BufferQueue) (seqNums : List ℕ) : BufferQueue :=
  seqNums.foldl cleanProducerOne q

def cleanCache (q : BufferQueue) : BufferQueue := q.clearLocked

def goBackground (q : BufferQueue) : BufferQueue :=
  q.clearLocked.setProducerCacheCleanFlagLocked false

def onConsumerDied (q : BufferQueue) : BufferQueue := q.clearLocked

def setProducerCacheCleanFlag (q : BufferQueue) (flag : Bool) : BufferQueue :=
  let q := if flag && q.listenerSeqAndFenceActive then q.cleanCache else q
  q.setProducerCacheCleanFlagLocked flag

/-- `AcquireLastFlushedBuffer`, without the matrix that it computes. -/
def acquireLastFlushedBuffer (q : BufferQueue) : GSError × BufferQueue :=
  if q.acquireLastFlushedBufSequence ≠ invalidSequence then (.bufferStateInvalid, q)
  else
    match q.bufferQueueCache.find q.lastFlusedSequence with
    | none => (.internal, q)
    | some ele =>
      if ele.state = .requested then (.bufferStateInvalid, q)
      else if ele.buffer.usage &&& bufferUsageProtected ≠ 0 then (.notSupport, q)
      else (.ok, { q with acquireLastFlushedBufSequence := q.lastFlusedSequence })

def releaseLastFlushedBuffer (q : BufferQueue) (sequence : ℕ) : GSError × BufferQueue :=
  if q.acquireLastFlushedBufSequence = invalidSequence ∨
      q.acquireLastFlushedBufSequence ≠ sequence then (.bufferStateInvalid, q)
  else (.ok, { q with acquireLastFlushedBufSequence := invalidSequence })

theorem acquireLastFlushedBuffer_induct {P : BufferQueue → Prop} (q : BufferQueue) (h : P q)
    (lock : P { q with acquireLastFlushedBufSequence := q.lastFlusedSequence }) :
    P q.acquireLastFlushedBuffer.2 := by
  unfold acquireLastFlushedBuffer
  split
  · exact h
  · split
    · exact h
    · split_ifs
      · exact h
      · exact h
      · exact lock

theorem releaseLastFlushedBuffer_induct {P : BufferQueue → Prop} (q : BufferQueue) (sequence : ℕ)
    (h : P q) (unlock : P { q with acquireLastFlushedBufSequence := invalidSequence }) :
    P (q.releaseLastFlushedBuffer sequence).2 := by
  unfold releaseLastFlushedBuffer
  split
  · exact h
  · exact unlock

/-! What holds before a loop and is kept by each of its rounds holds after it. -/

section Loops

variable {P : BufferQueue → Prop} {q : BufferQueue}

theorem deleteFree_induct (h : P q) (round : ∀ q sequence, P q → P (q.deleteFreeFront sequence))
    (count : ℕ) : P (q.deleteFree count).2 := by
  induction count generalizing q with
  | zero => exact h
  | succ count ih =>
    unfold deleteFree
    split
    · exact h
    · exact ih (round q _ h)

theorem deleteDirty_induct (h : P q)
    (round : ∀ q sequence rest, P q → P (q.deleteDirtyFront sequence rest)) (count : ℕ) :
    P (q.deleteDirty count).2 := by
  induction count generalizing q with
  | zero => exact h
  | succ count ih =>
    unfold deleteDirty
    split
    · exact h
    · exact ih (round q _ _ h)

theorem markDeleting_induct (h : P q) (round : ∀ q sequence, P q → P { q with
      bufferQueueCache := q.bufferQueueCache.modify sequence BufferElement.setDeleting
        BufferElement.setDeleting_seqNum }) (l : List ℕ) : P (q.markDeleting l) := by
  induction l generalizing q with
  | nil => exact h
  | cons sequence rest ih =>
    unfold markDeleting
    exact ih (round q sequence h)

theorem deleteBuffersLocked_induct (h : P q)
    (free : ∀ q sequence, P q → P (q.deleteFreeFront sequence))
    (dirty : ∀ q sequence rest, P q → P (q.deleteDirtyFront sequence rest))
    (mark : ∀ q sequence, P q → P { q with
      bufferQueueCache := q.bufferQueueCache.modify sequence BufferElement.setDeleting
        BufferElement.setDeleting_seqNum }) (count : ℕ) : P (q.deleteBuffersLocked count) :=
  markDeleting_induct (deleteDirty_induct (deleteFree_induct h free count) dirty _) mark _

theorem setQueueSizeLocked_induct (h : P q) (delete : ∀ count, P (q.deleteBuffersLocked count))
    (resize : ∀ q size, P q → P { q with bufferQueueSize := size }) (queueSize : ℕ) :
    P (q.setQueueSizeLocked queueSize).2 := by
  unfold setQueueSizeLocked
  dsimp only
  generalize (if q.maxQueueSize ≠ 0 ∧ q.maxQueueSize < queueSize then q.maxQueueSize
    else queueSize) = size
  split
  · exact h
  · split
    · exact resize _ size (delete _)
    · exact resize q size h

theorem cleanReleasedBuffersLocked_induct (h : P q)
    (round : ∀ q sequence, P q → P {
      (if (q.bufferQueueCache.find sequence).isSome then q.onBufferDeleteForRS sequence else q) with
      bufferQueueCache := q.bufferQueueCache.erase sequence
      freeList := q.freeList.erase sequence }) (l : List ℕ) :
    P (q.cleanReleasedBuffersLocked l).2 := by
  induction l generalizing q with
  | nil => exact h
  | cons sequence rest ih =>
    have hround := round q sequence h
    unfold cleanReleasedBuffersLocked
    split
    · exact ih h
    · dsimp only
      split at hround
      · rename_i hcached
        rw [if_pos hcached]
        exact ih hround
      · rename_i hcached
        rw [if_neg hcached]
        exact ih hround

theorem cleanProducerBySeqNum_induct (h : P q)
    (round : ∀ q sequence, P q → P (q.cleanProducerOne sequence)) (seqNums : List ℕ) :
    P (q.cleanProducerBySeqNum seqNums) := by
  unfold cleanProducerBySeqNum
  induction seqNums generalizing q with
  | nil => exact h
  | cons sequence rest ih =>
    rw [List.foldl_cons]
    exact ih (round q sequence h)

end Loops

end BufferQueue

end GraphicSurface
