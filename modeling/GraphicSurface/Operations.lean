import GraphicSurface.Attach
import GraphicSurface.Consume
import GraphicSurface.Runs

/-! The calls of a `BufferQueue` as operations of one sequential machine, with what each caller
gets back. No delegator and no low-power player is attached. `Fresh` is the promise of the
`SurfaceBufferImpl` constructor: a number it gives out belongs to no other live buffer. -/

namespace GraphicSurface

open Runs

/-- The setters that write one member of `QueueSettings` and nothing else. -/
inductive Setting
  | setStatus (status : Bool)
  | setDefaultUsage (usage : ℕ)
  | setTransform (transform : Int)
  | registerConsumerListener
  | registerConsumerListenerClazz
  | unregisterConsumerListener
  | setRequestBufferNoblockMode (noblock : Bool)
  | setIsPriorityAlloc (isPriorityAlloc : Bool)
  | setDropFrameLevel (level : Int)
  | setConnectedPidLocked (connectedPid : Int)
  | setListenerSeqAndFenceCallingPid (pid : Int)
  | registerProducerReleaseListener (listener : ℕ) (isOnReleaseBufferWithSequenceAndFence : Bool)
  | unRegisterProducerReleaseListener
deriving DecidableEq

def Setting.apply (s : QueueSettings) : Setting → QueueSettings
  | setStatus status => { s with isValidStatus := status }
  | setDefaultUsage usage => { s with defaultUsage := usage }
  | setTransform transform => { s with transform := transform }
  | registerConsumerListener => { s with listener := true }
  | registerConsumerListenerClazz => { s with listenerClazz := true }
  | unregisterConsumerListener => { s with listener := false, listenerClazz := false }
  | setRequestBufferNoblockMode noblock => { s with requestBufferNoBlockMode := noblock }
  | setIsPriorityAlloc isPriorityAlloc => { s with isPriorityAlloc := isPriorityAlloc }
  | setDropFrameLevel level => if level < 0 then s else { s with dropFrameLevel := level }
  | setConnectedPidLocked connectedPid => { s with connectedPid := connectedPid }
  | setListenerSeqAndFenceCallingPid pid => { s with listenerSeqAndFenceCallingPid := pid }
  | registerProducerReleaseListener listener flag =>
    { s with producerListener := some listener, isOnReleaseBufferWithSequenceAndFence := flag }
  | unRegisterProducerReleaseListener =>
    { s with
      producerListener := none
      isOnReleaseBufferWithSequenceAndFence := false
      listenerSeqAndFenceCallingPid := 0 }

namespace BufferElement

def setScalingMode (scalingMode : Int) (e : BufferElement) : BufferElement :=
  { e with buffer := { e.buffer with surfaceBufferScalingMode := scalingMode } }

def setVideoDimensionType (videoDimType : Int) (e : BufferElement) : BufferElement :=
  { e with buffer := { e.buffer with surfaceBufferVideoDimensionType := videoDimType } }

theorem setScalingMode_seqNum (scalingMode : Int) (e : BufferElement) :
    (e.setScalingMode scalingMode).buffer.seqNum = e.buffer.seqNum := rfl

theorem setVideoDimensionType_seqNum (videoDimType : Int) (e : BufferElement) :
    (e.setVideoDimensionType videoDimType).buffer.seqNum = e.buffer.seqNum := rfl

@[simp] theorem setScalingMode_state (scalingMode : Int) (e : BufferElement) :
    (e.setScalingMode scalingMode).state = e.state := rfl

@[simp] theorem setVideoDimensionType_state (videoDimType : Int) (e : BufferElement) :
    (e.setVideoDimensionType videoDimType).state = e.state := rfl

end BufferElement

namespace BufferQueue

def configure (q : BufferQueue) (s : Setting) : BufferQueue :=
  { q with toQueueSettings := s.apply q.toQueueSettings }

def setScalingMode (q : BufferQueue) (scalingMode : Int) : BufferQueue :=
  { q with
    bufferQueueCache := q.bufferQueueCache.mapAll (BufferElement.setScalingMode scalingMode)
      (BufferElement.setScalingMode_seqNum _)
    scalingMode := scalingMode }

/-- `SetScalingMode` of one cached buffer. -/
def setBufferScalingMode (q : BufferQueue) (sequence : ℕ) (scalingMode : Int) :
    GSError × BufferQueue :=
  if (q.bufferQueueCache.find sequence).isSome then
    (.ok, { q with
      bufferQueueCache := q.bufferQueueCache.modify sequence
        (BufferElement.setScalingMode scalingMode) (BufferElement.setScalingMode_seqNum _) })
  else (.noEntry, q)

def setVideoDimensionType (q : BufferQueue) (videoDimType : Int) : BufferQueue :=
  { q with
    bufferQueueCache := q.bufferQueueCache.mapAll
      (BufferElement.setVideoDimensionType videoDimType)
      (BufferElement.setVideoDimensionType_seqNum _)
    videoDimType := videoDimType }

/-- `BufferQueueProducer::RequestBuffers` on the queue: the results are cut off at the first
request that fails, and only an empty list of results makes the call fail. -/
def requestBuffers (q : BufferQueue) (config : BufferRequestConfig) (as : List Allocation) :
    GSError × List RequestReply × BufferQueue :=
  match { q with isBatch := true }.requestBuffersLoop config as with
  | (ret, replies, q) =>
    (if replies = [] then ret else .ok, replies, { q with isBatch := false })

end BufferQueue

inductive Op
  | requestBuffer (config : BufferRequestConfig) (a : Allocation)
  | requestBuffers (config : BufferRequestConfig) (as : List Allocation)
  | requestAndDetachBuffer (config : BufferRequestConfig) (a : Allocation)
  | cancelBuffer (sequence : ℕ) (bedata : Option ExtraData)
  | flushBuffer (f : FlushArgs)
  | flushBuffers (fs : List FlushArgs)
  | acquireBuffer (now : Int)
  | acquireBufferByTimestamp (expectPresentTimestamp : Int) (isUsingAutoTimestamp : Bool)
      (now : Int) (envs : ℕ → ReleaseEnv)
  | releaseBuffer (sequence : ℕ) (fence : Option SyncFence) (env : ReleaseEnv)
  | attachBufferToQueue (buffer : SurfaceBuffer) (invokerType : InvokerType)
  | detachBufferFromQueue (sequence : ℕ) (invokerType : InvokerType) (isReserveSlot : Bool)
  | attachBuffer (buffer : SurfaceBuffer) (timeOut : Int)
  | detachBuffer (sequence : ℕ)
  | attachAndFlushBuffer (buffer : SurfaceBuffer) (bedata : Option ExtraData) (fence : SyncFence)
      (config : BufferFlushConfigWithDamages) (env : FlushEnv)
  | setQueueSize (queueSize : ℕ)
  | setMaxQueueSize (queueSize : ℕ)
  | preAllocBuffers (config : BufferRequestConfig) (allocBufferCount : ℕ) (as : ℕ → Allocation)
  | cleanCache
  | goBackground
  | onConsumerDied
  | setProducerCacheCleanFlag (flag : Bool)
  | cleanReleasedBuffers
  | cleanProducerBySeqNum (seqNums : List ℕ)
  | acquireLastFlushedBuffer
  | releaseLastFlushedBuffer (sequence : ℕ)
  | setScalingMode (scalingMode : Int)
  | setBufferScalingMode (sequence : ℕ) (scalingMode : Int)
  | setVideoDimensionType (videoDimType : Int)
  | setSingleBufferMode (singleBufferMode : Int)
  | configure (s : Setting)

inductive Reply
  | code (ret : GSError)
  | request (reply : RequestReply)
  | requests (ret : GSError) (replies : List RequestReply)
  | acquire (reply : AcquireReply)
  | cleaned (cleanedSeqNums : List ℕ)
deriving DecidableEq

namespace Op

def run (q : BufferQueue) : Op → Reply × BufferQueue
  | requestBuffer config a => Prod.map .request id (q.requestBuffer config a)
  | requestBuffers config as =>
    let (ret, replies, q) := q.requestBuffers config as
    (.requests ret replies, q)
  | requestAndDetachBuffer config a => Prod.map .request id (q.requestAndDetachBuffer config a)
  | cancelBuffer sequence bedata => Prod.map .code id (q.cancelBufferLocked sequence bedata)
  | flushBuffer f =>
    Prod.map .code id (q.flushBuffer f.sequence f.bedata f.fence f.config f.env)
  | flushBuffers fs => Prod.map .code id (q.flushBuffers fs)
  | acquireBuffer now => Prod.map .acquire id (q.acquireBuffer now)
  | acquireBufferByTimestamp expect auto now envs =>
    Prod.map .acquire id (q.acquireBufferByTimestamp expect auto now envs)
  | releaseBuffer sequence fence env =>
    Prod.map .code id (q.releaseBuffer sequence fence env)
  | attachBufferToQueue buffer invoker =>
    Prod.map .code id (q.attachBufferToQueue buffer invoker)
  | detachBufferFromQueue sequence invoker reserve =>
    Prod.map .code id (q.detachBufferFromQueue sequence invoker reserve)
  | attachBuffer buffer timeOut => Prod.map .code id (q.attachBuffer buffer timeOut)
  | detachBuffer sequence => Prod.map .code id (q.detachBuffer sequence)
  | attachAndFlushBuffer buffer bedata fence config env =>
    Prod.map .code id (q.attachAndFlushBuffer buffer bedata fence config env)
  | setQueueSize size => Prod.map .code id (q.setQueueSize size)
  | setMaxQueueSize size => Prod.map .code id (q.setMaxQueueSize size)
  | preAllocBuffers config count as => Prod.map .code id (q.preAllocBuffers config count as)
  | cleanCache => (.code .ok, q.cleanCache)
  | goBackground => (.code .ok, q.goBackground)
  | onConsumerDied => (.code .ok, q.onConsumerDied)
  | setProducerCacheCleanFlag flag => (.code .ok, q.setProducerCacheCleanFlag flag)
  | cleanReleasedBuffers => Prod.map .cleaned id q.cleanReleasedBuffers
  | cleanProducerBySeqNum seqNums => (.code .ok, q.cleanProducerBySeqNum seqNums)
  | acquireLastFlushedBuffer => Prod.map .code id q.acquireLastFlushedBuffer
  | releaseLastFlushedBuffer sequence =>
    Prod.map .code id (q.releaseLastFlushedBuffer sequence)
  | setScalingMode mode => (.code .ok, q.setScalingMode mode)
  | setBufferScalingMode sequence mode =>
    Prod.map .code id (q.setBufferScalingMode sequence mode)
  | setVideoDimensionType type => (.code .ok, q.setVideoDimensionType type)
  | setSingleBufferMode mode => (.code .ok, { q with singleBufferMode := mode })
  | configure s => (.code .ok, q.configure s)

/-- The numbers that the buffers created by this operation may get: none of a cached buffer, and
no number twice. -/
def Fresh (q : BufferQueue) : Op → Prop
  | requestBuffer _ a | requestAndDetachBuffer _ a =>
    q.bufferQueueCache.find a.sequence = none
  | requestBuffers _ as =>
    (as.map (·.sequence)).Nodup ∧ ∀ a ∈ as, q.bufferQueueCache.find a.sequence = none
  | preAllocBuffers _ count as =>
    ∀ i < count, q.bufferQueueCache.find (as i).sequence = none
  | _ => True

/-- The extra data of a flush, which the queue dereferences, is not a null pointer. -/
def HasExtraData : Op → Prop
  | flushBuffer f => f.bedata.isSome
  | flushBuffers fs => ∀ f ∈ fs, f.bedata.isSome
  | attachAndFlushBuffer _ bedata _ _ _ => bedata.isSome
  | _ => True

end Op

/-- One operation of a sequential run. A call that goes through a null pointer leaves no state
behind, so it is no step. -/
def QueueStep (q : BufferQueue) (op : Op) (q' : BufferQueue) : Prop :=
  op.Fresh q ∧ q' = (op.run q).2 ∧ q'.fault = false

instance (q : BufferQueue) (op : Op) : Decidable (op.Fresh q) := by
  apply Op.casesOn (motive := fun op => Decidable (op.Fresh q)) op <;> intros <;>
    unfold Op.Fresh <;> infer_instance

def Op.next (q : BufferQueue) (op : Op) : BufferQueue := (op.run q).2

def BufferQueue.start (s : QueueSettings) : BufferQueue := { s with }

/-- What a sequential run of operations can reach from a new queue. -/
def Reachable (q : BufferQueue) : Prop :=
  ∃ s ops, Run QueueStep (BufferQueue.start s) ops q

theorem Reachable.of_legal {s : QueueSettings} {ops : List Op}
    (legal : Legal Op.next (fun q op => op.Fresh q ∧ (op.next q).fault = false)
      (BufferQueue.start s) ops) : Reachable (execute Op.next (BufferQueue.start s) ops) :=
  ⟨s, ops, .of_legal (fun _ _ h => ⟨h.1, rfl, h.2⟩) legal⟩

end GraphicSurface
