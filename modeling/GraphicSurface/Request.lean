import GraphicSurface.BufferQueue

/-! `BufferQueue::RequestBuffer` and what it calls.
`AllocBuffer` gives `mutex_` up while the allocator runs, and the blocking mode gives it up while
it waits for a buffer. A request is therefore written as the section up to such a point
(`requestBufferBody`, `reuseBufferForBlockMode`) and the section after it (`finishRequest`);
`requestBufferLocked` runs them without anything in between. -/

namespace GraphicSurface

structure RequestReply where
  ret : GSError
  bedata : Option ExtraData
  retval : RequestBufferReturnValue
deriving DecidableEq

/-- The locals of `AllocBuffer` that were read before `mutex_` was released. -/
structure AllocJob where
  config : BufferRequestConfig
  scalingMode : Int
  videoDimType : Int
deriving DecidableEq

/-- Where a request stands when its section ends. -/
inductive ReusePoint
  | done (reply : RequestReply)
  | setupNewBuffer (job : AllocJob)
  | reallocBuffer (job : AllocJob)
deriving DecidableEq

inductive RequestPoint
  | reached (point : ReusePoint)
  | waitReq (config : BufferRequestConfig)
deriving DecidableEq

def AllocJob.element (job : AllocJob) (a : Allocation) : BufferElement :=
  .init
    { SurfaceBuffer.allocated a job.config with
      surfaceBufferScalingMode := job.scalingMode
      surfaceBufferVideoDimensionType := job.videoDimType }
    .requested job.config (some invalidFence)

/-- The element of a buffer that goes out with its object. -/
def BufferElement.setDelivered (e : BufferElement) : BufferElement :=
  { e with
    buffer := { e.buffer with consumerAttachBufferFlag := false }
    isPreAllocBuffer := false }

theorem BufferElement.setDelivered_seqNum (e : BufferElement) :
    e.setDelivered.buffer.seqNum = e.buffer.seqNum := rfl

@[simp] theorem BufferElement.setDelivered_state (e : BufferElement) :
    e.setDelivered.state = e.state := rfl

def RequestReply.error (ret : GSError) : RequestReply := ⟨ret, none, .empty⟩

namespace BufferQueue

/-- `AllocBuffer` up to `lock.unlock()`. -/
def allocBufferBegin (q : BufferQueue) (config : BufferRequestConfig) : AllocJob × BufferQueue :=
  (⟨config, q.scalingMode, q.videoDimType⟩, { q with isAllocatingBuffer := true })

/-- `AllocBuffer` from `lock.lock()` on; `none` is `SURFACE_ERROR_UNKOWN`. -/
def allocBufferEnd (q : BufferQueue) (job : AllocJob) (a : Allocation) :
    Option SurfaceBuffer × BufferQueue :=
  let q := { q with isAllocatingBuffer := false }
  if a.alloc && (job.config.usage &&& bufferUsageProtected != 0 || a.map) then
    (some (job.element a).buffer,
      { q with bufferQueueCache := q.bufferQueueCache.put (job.element a) })
  else (none, q)

/-- `producerCacheClean_` bookkeeping of one buffer that goes out with its object. The wait for
`isAllocatingBuffer_` in `SetProducerCacheCleanFlagLocked` is not a section boundary here: it
matters only while the flag is set and another allocation is running. -/
def pushProducerCacheList (q : BufferQueue) (sequence : ℕ) : BufferQueue :=
  if !q.producerCacheClean then q
  else if { q with producerCacheList :=
      q.producerCacheList ++ [sequence] }.checkProducerCacheListLocked then
    q.setProducerCacheCleanFlagLocked false
  else { q with producerCacheList := q.producerCacheList ++ [sequence] }

theorem pushProducerCacheList_induct {P : BufferQueue → Prop} (q : BufferQueue) (sequence : ℕ)
    (push : ∀ clean l, P { q with producerCacheClean := clean, producerCacheList := l }) :
    P (q.pushProducerCacheList sequence) := by
  unfold pushProducerCacheList
  split
  · exact push q.producerCacheClean q.producerCacheList
  · split
    · exact push false []
    · exact push q.producerCacheClean _

/-- The condition in `UpdateReuseBufferState` under which the buffer goes out with its object. -/
def needsObject (q : BufferQueue) (needRealloc : Bool) (ele : BufferElement) : Bool :=
  needRealloc || q.producerCacheClean || ele.buffer.consumerAttachBufferFlag ||
    ele.isPreAllocBuffer

def markRequested (q : BufferQueue) (sequence : ℕ) : BufferQueue :=
  { q with
    bufferQueueCache := q.bufferQueueCache.modify sequence (BufferElement.setState .requested)
      (BufferElement.setState_seqNum _) }

/-- A buffer that cannot go to the listener returns to the free list. -/
def putBack (q : BufferQueue) (sequence : ℕ) : BufferQueue :=
  { q with
    bufferQueueCache := q.bufferQueueCache.modify sequence (BufferElement.setState .released)
      (BufferElement.setState_seqNum _)
    freeList := q.freeList ++ [sequence] }

def deliverObject (q : BufferQueue) (sequence : ℕ) : BufferQueue :=
  { q.pushProducerCacheList sequence with
    bufferQueueCache := q.bufferQueueCache.modify sequence BufferElement.setDelivered
      BufferElement.setDelivered_seqNum }

/-- `UpdateReuseBufferState`. `retval.buffer` is the object that the element holds. -/
def updateReuseBufferState (q : BufferQueue) (needRealloc : Bool) (sequence : ℕ)
    (listenerSeqAndFence : Bool) : RequestReply × BufferQueue :=
  match q.bufferQueueCache.find sequence with
  | none => (.error .internal, { q with fault := true })
  | some ele =>
    let (deletingBuffers, q) := (q.markRequested sequence).addDeletingBuffersLocked []
    if q.needsObject needRealloc ele then
      if listenerSeqAndFence then
        (⟨.noBuffer, ele.buffer.extraData,
          ⟨sequence, some ele.buffer, ele.fence, deletingBuffers, false⟩⟩, q.putBack sequence)
      else
        (⟨.ok, ele.buffer.extraData,
          ⟨sequence, some ele.setDelivered.buffer, ele.fence, deletingBuffers, false⟩⟩,
          q.deliverObject sequence)
    else
      (⟨.ok, ele.buffer.extraData, ⟨sequence, none, ele.fence, deletingBuffers, false⟩⟩, q)

/-- `ReallocBufferLocked` up to the release of `mutex_` in `AllocBuffer`. -/
def reallocBufferLocked (q : BufferQueue) (config : BufferRequestConfig) (sequence : ℕ) :
    ReusePoint × BufferQueue :=
  let (job, q) := (q.deleteBufferInCacheNoWaitForAllocatingState sequence).allocBufferBegin config
  (.reallocBuffer job, q)

def reuseBuffer (q : BufferQueue) (config : BufferRequestConfig) (buffer : SurfaceBuffer)
    (listenerSeqAndFence : Bool) : ReusePoint × BufferQueue :=
  match q.bufferQueueCache.find buffer.seqNum with
  | none => (.done (.error .internal), q)
  | some ele =>
    if config.same ele.config then
      let (reply, q) := q.updateReuseBufferState false buffer.seqNum listenerSeqAndFence
      (.done reply, q)
    else if listenerSeqAndFence then
      (.done (.error .noBuffer), { q with freeList := q.freeList ++ [buffer.seqNum] })
    else q.reallocBufferLocked config buffer.seqNum

def setupNewBufferLocked (q : BufferQueue) (config : BufferRequestConfig) :
    ReusePoint × BufferQueue :=
  let (job, q) := q.allocBufferBegin config
  (.setupNewBuffer job, q)

/-- `ReuseBufferForBlockMode` once `waitReqCon_` has let it go on. -/
def reuseBufferForBlockMode (q : BufferQueue) (config : BufferRequestConfig) :
    ReusePoint × BufferQueue :=
  if !q.isValidStatus && !q.isBatch then (.done (.error .noConsumer), q)
  else
    match q.popFromFreeListLocked config with
    | (some buffer, q) => q.reuseBuffer config buffer false
    | (none, q) => (.done (.error .noBuffer), q)

def reuseBufferForNoBlockMode (q : BufferQueue) (config : BufferRequestConfig) :
    ReusePoint × BufferQueue :=
  match q.popFromDirtyListLocked with
  | (some buffer, q) =>
    let q := { q with
      bufferQueueCache := q.bufferQueueCache.modify buffer.seqNum
        (BufferElement.recolour config.colorGamut config.transform)
        (BufferElement.recolour_config_seqNum config) }
    q.reuseBuffer config
      (buffer.setColorGamutAndTransform config.colorGamut config.transform) false
  | (none, q) => (.done (.error .noBuffer), q)

/-- The configuration with `defaultUsage_`, or the code with which `RequestBufferLocked` stops
before it looks at any list. -/
def requestBufferCheck (q : BufferQueue) (config : BufferRequestConfig) :
    Except GSError BufferRequestConfig :=
  if q.requestBufferCheckStatus ≠ .ok then .error q.requestBufferCheckStatus
  else
    let updateConfig := { config with usage := config.usage ||| q.defaultUsage }
    if checkRequestConfig updateConfig ≠ .ok then .error .internal else .ok updateConfig

/-- `RequestBufferLocked` after the wait for a running allocation. -/
def requestBufferBody (q : BufferQueue) (config : BufferRequestConfig)
    (listenerSeqAndFence : Bool) : RequestPoint × BufferQueue :=
  let setup (q : BufferQueue) : RequestPoint × BufferQueue :=
    let (point, q) := q.setupNewBufferLocked config
    (.reached point, q)
  if !(q.isPriorityAlloc && decide (q.getUsedSize < q.unreservedSize)) || listenerSeqAndFence then
    match q.popFromFreeListLocked config with
    | (some buffer, q) =>
      let (point, q) := q.reuseBuffer config buffer listenerSeqAndFence
      (.reached point, q)
    | (none, q) =>
      if listenerSeqAndFence then (.reached (.done (.error .noBuffer)), q)
      else if q.unreservedSize ≤ q.getUsedSize then
        if !q.requestBufferNoBlockMode then (.waitReq config, q)
        else
          let (point, q) := q.reuseBufferForNoBlockMode config
          (.reached point, q)
      else setup q
  else setup q

def finishRequest (q : BufferQueue) (a : Allocation) : ReusePoint → RequestReply × BufferQueue
  | .done reply => (reply, q)
  | .setupNewBuffer job =>
    match q.allocBufferEnd job a with
    | (none, q) => (.error .internal, q)
    | (some buffer, q) =>
      let (deletingBuffers, q) := q.addDeletingBuffersLocked []
      (⟨.ok, buffer.extraData,
        ⟨buffer.seqNum, some buffer, some invalidFence, deletingBuffers, false⟩⟩, q)
  | .reallocBuffer job =>
    match q.allocBufferEnd job a with
    | (none, q) => (.error .internal, q)
    | (some buffer, q) => q.updateReuseBufferState true buffer.seqNum false

/-! What holds before a part of the request and is kept by each of its steps holds after it. -/

section Parts

variable {P : BufferQueue → Prop} {q : BufferQueue} {config : BufferRequestConfig}

theorem reuseBufferForBlockMode_induct (h : P q) (pop : P (q.popFromFreeListLocked config).2)
    (reuse : ∀ q buffer, P q → P (q.reuseBuffer config buffer false).2) :
    P (q.reuseBufferForBlockMode config).2 := by
  unfold reuseBufferForBlockMode
  split
  · exact h
  · split
    · rename_i buffer q₁ hpop
      rw [hpop] at pop
      exact reuse q₁ buffer pop
    · rename_i q₁ hpop
      rw [hpop] at pop
      exact pop

theorem reuseBufferForNoBlockMode_induct (pop : P q.popFromDirtyListLocked.2)
    (recolour : ∀ (q : BufferQueue) (sequence : ℕ), P q →
      P { q with
        bufferQueueCache := q.bufferQueueCache.modify sequence
          (BufferElement.recolour config.colorGamut config.transform)
          (BufferElement.recolour_config_seqNum config) })
    (reuse : ∀ q buffer, P q → P (q.reuseBuffer config buffer false).2) :
    P (q.reuseBufferForNoBlockMode config).2 := by
  unfold reuseBufferForNoBlockMode
  split
  · rename_i buffer q₁ hpop
    rw [hpop] at pop
    exact reuse _ _ (recolour q₁ buffer.seqNum pop)
  · rename_i q₁ hpop
    rw [hpop] at pop
    exact pop

theorem requestBufferBody_induct {listener : Bool} (pop : P (q.popFromFreeListLocked config).2)
    (begin : P (q.setupNewBufferLocked config).2)
    (reuse : ∀ q buffer, P q → P (q.reuseBuffer config buffer listener).2)
    (noBlock : ∀ q, P q → P (q.reuseBufferForNoBlockMode config).2)
    (setup : ∀ q, P q → P (q.setupNewBufferLocked config).2) :
    P (q.requestBufferBody config listener).2 := by
  unfold requestBufferBody
  dsimp only
  split
  · split
    · rename_i buffer q₁ hpop
      rw [hpop] at pop
      exact reuse q₁ buffer pop
    · rename_i q₁ hpop
      rw [hpop] at pop
      split
      · exact pop
      · split
        · split
          · exact pop
          · exact noBlock q₁ pop
        · exact setup q₁ pop
  · exact begin

end Parts

theorem finishRequest_induct {P : BufferQueue → Prop} (q : BufferQueue) (a : Allocation)
    (point : ReusePoint) (done : ∀ reply, point = .done reply → P q)
    (alloc : ∀ job, point = .setupNewBuffer job ∨ point = .reallocBuffer job →
      P (q.allocBufferEnd job a).2)
    (drain : ∀ q, P q → P (q.addDeletingBuffersLocked []).2)
    (reuse : ∀ q sequence, P q → P (q.updateReuseBufferState true sequence false).2) :
    P (q.finishRequest a point).2 := by
  cases point with
  | done reply => exact done reply rfl
  | setupNewBuffer job =>
    have halloc := alloc job (.inl rfl)
    unfold finishRequest
    dsimp only
    split
    · rename_i q₁ h
      rw [h] at halloc
      exact halloc
    · rename_i buffer q₁ h
      rw [h] at halloc
      exact drain q₁ halloc
  | reallocBuffer job =>
    have halloc := alloc job (.inr rfl)
    unfold finishRequest
    dsimp only
    split
    · rename_i q₁ h
      rw [h] at halloc
      exact halloc
    · rename_i buffer q₁ h
      rw [h] at halloc
      exact reuse q₁ buffer.seqNum halloc

def requestBufferLocked (q : BufferQueue) (config : BufferRequestConfig) (a : Allocation)
    (listenerSeqAndFence : Bool) : RequestReply × BufferQueue :=
  match q.requestBufferCheck config with
  | .error ret => (.error ret, q)
  | .ok updateConfig =>
    match q.requestBufferBody updateConfig listenerSeqAndFence with
    | (.reached point, q) => q.finishRequest a point
    | (.waitReq config, q) =>
      let (point, q) := q.reuseBufferForBlockMode config
      q.finishRequest a point

def requestBuffer (q : BufferQueue) (config : BufferRequestConfig) (a : Allocation) :
    RequestReply × BufferQueue :=
  q.requestBufferLocked config a false

/-- The loop of `BufferQueueProducer::RequestBuffers`, one allocation answer for each round. -/
def requestBuffersLoop (q : BufferQueue) (config : BufferRequestConfig) :
    List Allocation → GSError × List RequestReply × BufferQueue
  | [] => (.ok, [], q)
  | a :: as =>
    match q.requestBuffer config a with
    | (reply, q) =>
      if reply.ret ≠ .ok then (reply.ret, [], q)
      else
        let (ret, replies, q) := q.requestBuffersLoop config as
        (ret, reply :: replies, q)

end BufferQueue

end GraphicSurface
