import GraphicSurface.AttributeSessions
import GraphicSurface.RemoteBatch
import GraphicSurface.RemoteFlush

/-! The messages that reach the stub of a queue, from any process and with anything in a parcel. A
message that fails at a read or a check of its stub leaves the producer alone, and every other one
makes one call. What goes into the replies lies in the modules about the single calls. The queries
that only write a reply, `GetLastFlushedBuffer` and `SyncProducerCache`, are left out. -/

namespace GraphicSurface

open Parcels Runs

/-- `ReadRemoteObject`: the number of an object, or a null pointer. -/
class ObjectParcel (P : Type) where
  readRemoteObject : P → Option ℕ × P

/-- What a stub has while it serves a message, besides the parcel: who calls, the object and the id
that a received buffer gets, the process of a remote object, whether the reply takes the init info,
and what the calls take from their surroundings. -/
structure Serving where
  callingPid : Int
  object : ℕ
  bufferId : UInt64
  heap : Bool
  processOf : ℕ → Int
  infoWritten : Bool
  fenceOf : Int32 → SyncFence
  allocation : ℕ → Allocation
  flush : ℕ → FlushEnv

structure FlushEntry where
  sequence : ℕ
  bedata : ExtraData
  fence : SyncFence
  config : BufferFlushConfigWithDamages

def FlushEntry.args (entry : FlushEntry) (env : FlushEnv) : FlushArgs :=
  ⟨entry.sequence, some entry.bedata, entry.fence, entry.config, env⟩

/-- The calls of the producer that a message can come to. -/
inductive BufferCall
  | requestBuffer (config : BufferRequestConfig)
  | requestBuffers (num : ℕ) (config : BufferRequestConfig)
  | requestAndDetachBuffer (config : BufferRequestConfig)
  | handleDeathRecipient (token : ℕ)
  | cancelBuffer (sequence : ℕ) (bedata : ExtraData)
  | flushBuffer (entry : FlushEntry)
  | flushBuffers (entries : List FlushEntry)
  | attachBufferToQueue (buffer : SurfaceBuffer)
  | detachBufferFromQueue (sequence : ℕ)
  | attachBuffer (buffer : SurfaceBuffer) (timeOut : Int)
  | attachAndFlushBuffer (buffer : SurfaceBuffer) (entry : FlushEntry) (needMap : Bool)
  | cleanCache (cleanAll : Bool)
  | goBackground
  | registerReleaseListener (listener : ℕ) (isOnReleaseBufferWithSequenceAndFence : Bool)
  | unRegisterReleaseListener
  | connect
  | disconnect
  | acquireLastFlushedBuffer (isUseNewMatrix : Bool)
  | preAllocBuffers (config : BufferRequestConfig) (allocBufferCount : ℕ)
  | cleanReleasedBuffers

namespace SurfaceBufferImpl

def getWidth (buffer : SurfaceBufferImpl) : Int := buffer.handle.elim (-1) (·.width.toInt)

def getHeight (buffer : SurfaceBufferImpl) : Int := buffer.handle.elim (-1) (·.height.toInt)

def getFormat (buffer : SurfaceBufferImpl) : Int := buffer.handle.elim (-1) (·.format.toInt)

def getUsage (buffer : SurfaceBufferImpl) : ℕ := buffer.handle.elim (2 ^ 64 - 1) (·.usage.toNat)

def toSurfaceBuffer (buffer : SurfaceBufferImpl) (object : ℕ) : SurfaceBuffer where
  object := object
  seqNum := buffer.sequenceNumber.toNat
  width := buffer.getWidth
  height := buffer.getHeight
  format := buffer.getFormat
  usage := buffer.getUsage
  bufferRequestConfig := buffer.bufferRequestConfig
  surfaceBufferColorGamut := buffer.surfaceBufferColorGamut.toInt
  surfaceBufferTransform := buffer.transform.toInt
  surfaceBufferScalingMode := buffer.scalingMode.toInt
  surfaceBufferVideoDimensionType := buffer.videoDimType.toInt
  surfaceBufferWidth := buffer.surfaceBufferWidth.toInt
  surfaceBufferHeight := buffer.surfaceBufferHeight.toInt
  singleBufferMode := singleBufferModeNone
  extraData := some ∅
  syncFence := none
  consumerAttachBufferFlag := false

end SurfaceBufferImpl

inductive StubStatus
  | errNone
  | errInvalidData
  | errInvalidReply
  | gsErrorBinder
  | ipcStubWriteParcelErr
deriving DecidableEq

/-- A stub that ends without its call, and what it has then written into the reply. -/
structure Refusal where
  status : StubStatus
  written : Option GSError := none
deriving DecidableEq

section Stubs

variable {P : Type} [Parcel P]

open Parcel

/-- The default is also what an unknown or a missing number is taken for. -/
def readVideoDimTypeOr2D : Coded Unit P Int32 := fun p =>
  match readInt32 p with
  | (.ok videoDimType, p) =>
    (.ok (if videoDimType < videoDimType2D.toInt32 ∨ videoDimTypeButt.toInt32 ≤ videoDimType then
      videoDimType2D.toInt32 else videoDimType), p)
  | (.error _, p) => (.ok videoDimType2D.toInt32, p)

/-- `SurfaceBufferImpl::ReadBufferRequestConfig`. -/
def readBufferRequestConfig (buffer : SurfaceBufferImpl) : Coded Unit P SurfaceBufferImpl := do
  let width ← readInt32
  let height ← readInt32
  let strideAlignment ← readInt32
  let format ← readInt32
  let usage ← readUint64
  let timeout ← readInt32
  let colorGamut ← readUint32
  let transform ← readUint32
  let scalingMode ← readInt32
  let videoDimType ← readVideoDimTypeOr2D
  pure { buffer with
    surfaceBufferColorGamut := colorGamut.toInt32
    transform := transform.toInt32
    surfaceBufferWidth := width
    surfaceBufferHeight := height
    scalingMode := scalingMode
    videoDimType := videoDimType
    bufferRequestConfig := { buffer.bufferRequestConfig with
      width := width.toInt, height := height.toInt, strideAlignment := strideAlignment.toInt,
      format := format.toInt, usage := usage.toNat, timeout := timeout.toInt,
      colorGamut := colorGamut.toInt32.toInt, transform := transform.toInt32.toInt } }

/-- `ReadSurfaceBufferImpl` with its codes. -/
def readReceivedBuffer (e : Serving) : Coded GSError P (Option SurfaceBufferImpl) := do
  let sequence ← readUint32.orFail .binder
  let hasBuffer ← readBool.orFail .binder
  if hasBuffer then
    let memory ← (readMemory e.heap).orFail .apiFailed
    pure (some { sequenceNumber := sequence, bufferId := e.bufferId, handle := memory.handle,
                 original := memory.original })
  else pure none

/-- A buffer that has to be there; `refuse` is what is written without one. -/
def requireBuffer (e : Serving) (refuse : GSError → GSError) :
    Coded Refusal P SurfaceBufferImpl := do
  let buffer ← (readReceivedBuffer e).mapError fun ret => ⟨.errInvalidData, some (refuse ret)⟩
  match buffer with
  | none => .fail ⟨.errInvalidData, some (refuse .ok)⟩
  | some buffer => pure buffer

def checkReceived (buffer : SurfaceBufferImpl) : Coded Refusal P Unit :=
  if buffer.checkBufferHandleFields then pure ()
  else .fail ⟨.errInvalidData, some .invalidOperating⟩

def attachBufferToQueueReadBuffer (e : Serving) : Coded Refusal P SurfaceBufferImpl := do
  let buffer ← requireBuffer e fun _ => .internal
  (readBufferRequestConfig buffer).orFail ⟨.errInvalidData, some .internal⟩

def Serving.entry (e : Serving) (sequence : UInt32)
    (read : ExtraData × Int32 × BufferFlushConfigWithDamages) : FlushEntry :=
  ⟨sequence.toNat, read.1, e.fenceOf read.2.1, read.2.2⟩

def readFlush : Coded Refusal P (ExtraData × Int32 × BufferFlushConfigWithDamages) :=
  readFlushEntry.orFail ⟨.errInvalidReply, none⟩

def requestBufferRemote : Coded Refusal P BufferCall := do
  let config ← (readRequestConfig emptyRequestConfig).orFail ⟨.gsErrorBinder, none⟩
  pure (.requestBuffer config)

/-- A number that no queue has ends the call, but not with an error. -/
def requestBuffersRemote : Coded Refusal P BufferCall := do
  let (num, config) ← readBatchRequest.orFail ⟨.gsErrorBinder, none⟩
  if num = 0 ∨ surfaceMaxQueueSize < num.toNat then .fail ⟨.errNone, none⟩
  else pure (.requestBuffers num.toNat config)

def requestAndDetachBufferRemote : Coded Refusal P BufferCall := do
  let config ← (readRequestConfig emptyRequestConfig).orFail ⟨.gsErrorBinder, none⟩
  pure (.requestAndDetachBuffer config)

def cancelBufferRemote : Coded Refusal P BufferCall := do
  let sequence ← readUint32.orFail ⟨.gsErrorBinder, none⟩
  let bedata ← ExtraData.readFromParcel.orFail ⟨.errInvalidReply, none⟩
  pure (.cancelBuffer sequence.toNat bedata)

def flushBufferRemote (e : Serving) : Coded Refusal P BufferCall := do
  let sequence ← readUint32.orFail ⟨.gsErrorBinder, none⟩
  let read ← readFlush
  pure (.flushBuffer (e.entry sequence read))

def flushBuffersRemote (e : Serving) : Coded Refusal P BufferCall := do
  let sequences ← readUInt32Vector.orFail ⟨.gsErrorBinder, none⟩
  if sequences = [] ∨ surfaceMaxQueueSize < sequences.length then .fail ⟨.errNone, none⟩
  else
    let reads ← (readFlushEntries sequences.length).orFail ⟨.errInvalidReply, none⟩
    pure (.flushBuffers (List.zipWith e.entry sequences reads))

def attachBufferToQueueRemote (e : Serving) : Coded Refusal P BufferCall := do
  let buffer ← attachBufferToQueueReadBuffer e
  checkReceived buffer
  pure (.attachBufferToQueue (buffer.toSurfaceBuffer e.object))

/-- The handle of the buffer is read, but only the number counts. -/
def detachBufferFromQueueRemote (e : Serving) : Coded Refusal P BufferCall := do
  let buffer ← requireBuffer e fun _ => .internal
  pure (.detachBufferFromQueue buffer.sequenceNumber.toNat)

/-- Without a buffer the reply has the code with which it was read. -/
def attachBufferRemote (e : Serving) : Coded Refusal P BufferCall := do
  let buffer ← requireBuffer e id
  checkReceived buffer
  let timeOut ← readInt32.orFail ⟨.gsErrorBinder, none⟩
  pure (.attachBuffer (buffer.toSurfaceBuffer e.object) timeOut.toInt)

/-- The stub of `DetachBuffer` reads nothing and does nothing. -/
def detachBufferRemote : Coded Refusal P BufferCall := .fail ⟨.errNone, none⟩

def attachAndFlushBufferRemote (e : Serving) : Coded Refusal P BufferCall := do
  let buffer ← attachBufferToQueueReadBuffer e
  checkReceived buffer
  let read ← readFlush
  let needMap ← readBool.orFail ⟨.gsErrorBinder, none⟩
  pure (.attachAndFlushBuffer (buffer.toSurfaceBuffer e.object)
    (e.entry buffer.sequenceNumber read) needMap)

def cleanCacheRemote : Coded Refusal P BufferCall := do
  let cleanAll ← readBool.orFail ⟨.gsErrorBinder, none⟩
  pure (.cleanCache cleanAll)

def acquireLastFlushedBufferRemote : Coded Refusal P BufferCall := do
  let isUseNewMatrix ← readBool.orFail ⟨.gsErrorBinder, none⟩
  pure (.acquireLastFlushedBuffer isUseNewMatrix)

def preAllocBuffersRemote : Coded Refusal P BufferCall := do
  let config ← (readRequestConfig emptyRequestConfig).orFail ⟨.gsErrorBinder, none⟩
  let allocBufferCount ← readUint32.orFail ⟨.gsErrorBinder, none⟩
  pure (.preAllocBuffers config allocBufferCount.toNat)

variable [ObjectParcel P]

def readRemoteObject : Coded Refusal P (Option ℕ) := fun p =>
  match ObjectParcel.readRemoteObject p with
  | (object, p) => (.ok object, p)

/-- The token of the client is watched only when the reply has taken the init info. -/
def getProducerInitInfoRemote (e : Serving) : Coded Refusal P BufferCall := do
  let token ← readRemoteObject
  match token with
  | none => .fail ⟨.errInvalidData, none⟩
  | some token =>
    let _ ← readString.orFail ⟨.errInvalidData, none⟩
    let listenerObject ← readRemoteObject
    if listenerObject.isNone then .fail ⟨.errInvalidData, none⟩
    else if !e.infoWritten then .fail ⟨.ipcStubWriteParcelErr, none⟩
    else pure (.handleDeathRecipient token)

def registerReleaseListenerRemote : Coded Refusal P BufferCall := do
  let listenerObject ← readRemoteObject
  let isOnReleaseBufferWithSequenceAndFence ← readBool.orFail ⟨.ipcStubWriteParcelErr, none⟩
  match listenerObject with
  | none => .fail ⟨.errInvalidReply, some .invalidArguments⟩
  | some listener => pure (.registerReleaseListener listener isOnReleaseBufferWithSequenceAndFence)

end Stubs

/-- The enumerators that name these calls in a message. -/
inductive BufferCode
  | getInitInfo
  | requestBuffer
  | requestBuffers
  | cancelBuffer
  | flushBuffer
  | flushBuffers
  | attachBuffer
  | detachBuffer
  | cleanCache
  | registerReleaseListener
  | disconnect
  | connect
  | goBackground
  | unregisterReleaseListener
  | attachBufferToQueue
  | detachBufferFromQueue
  | acquireLastFlushedBuffer
  | requestAndDetachBuffer
  | attachAndFlushBuffer
  | preAllocBuffers
  | cleanReleasedBuffers
deriving DecidableEq

/-- `memberFuncMap_` on these codes. -/
def bufferFuncMap {P : Type} [Parcel P] [ObjectParcel P] (e : Serving) :
    BufferCode → Coded Refusal P BufferCall
  | .getInitInfo => getProducerInitInfoRemote e
  | .requestBuffer => requestBufferRemote
  | .requestBuffers => requestBuffersRemote
  | .cancelBuffer => cancelBufferRemote
  | .flushBuffer => flushBufferRemote e
  | .flushBuffers => flushBuffersRemote e
  | .attachBuffer => attachBufferRemote e
  | .detachBuffer => detachBufferRemote
  | .cleanCache => cleanCacheRemote
  | .registerReleaseListener => registerReleaseListenerRemote
  | .disconnect => pure .disconnect
  | .connect => pure .connect
  | .goBackground => pure .goBackground
  | .unregisterReleaseListener => pure .unRegisterReleaseListener
  | .attachBufferToQueue => attachBufferToQueueRemote e
  | .detachBufferFromQueue => detachBufferFromQueueRemote e
  | .acquireLastFlushedBuffer => acquireLastFlushedBufferRemote
  | .requestAndDetachBuffer => requestAndDetachBufferRemote
  | .attachAndFlushBuffer => attachAndFlushBufferRemote e
  | .preAllocBuffers => preAllocBuffersRemote
  | .cleanReleasedBuffers => pure .cleanReleasedBuffers

namespace BufferQueueProducer

def onQueue (s : BufferQueueProducer) (call : BufferQueue → GSError × BufferQueue) :
    GSError × BufferQueueProducer :=
  Prod.map id s.withQueue (call s.bufferQueue)

def registerReleaseListener (s : BufferQueueProducer) (callingPid : Int) (listener : ℕ)
    (isOnReleaseBufferWithSequenceAndFence : Bool) : GSError × BufferQueueProducer :=
  let pid := if isOnReleaseBufferWithSequenceAndFence then callingPid else 0
  (.ok, s.withQueue ((s.bufferQueue.configure (.setListenerSeqAndFenceCallingPid pid)).configure
    (.registerProducerReleaseListener listener isOnReleaseBufferWithSequenceAndFence)))

end BufferQueueProducer

namespace BufferCall

def perform (e : Serving) (s : BufferQueueProducer) : BufferCall → GSError × BufferQueueProducer
  | requestBuffer config =>
    Prod.map (·.ret) id (s.requestBuffer e.callingPid config (e.allocation 0))
  | requestBuffers num config =>
    Prod.map id Prod.snd
      (s.requestBuffers e.callingPid config ((List.range num).map e.allocation))
  | requestAndDetachBuffer config =>
    Prod.map (·.ret) id (s.requestAndDetachBuffer e.callingPid config (e.allocation 0))
  | handleDeathRecipient token => (.ok, s.handleDeathRecipient (e.processOf token))
  | cancelBuffer sequence bedata => s.onQueue (·.cancelBufferLocked sequence (some bedata))
  | flushBuffer entry => s.flushBuffer (entry.args (e.flush 0))
  | flushBuffers entries => s.flushBuffers (entries.mapIdx fun i entry => entry.args (e.flush i))
  | attachBufferToQueue buffer => s.onQueue (·.attachBufferToQueue buffer .producerInvoker)
  | detachBufferFromQueue sequence =>
    s.onQueue (·.detachBufferFromQueue sequence .producerInvoker false)
  | attachBuffer buffer timeOut => s.onQueue (·.attachBuffer buffer timeOut)
  | attachAndFlushBuffer buffer entry _ =>
    s.attachAndFlushBuffer buffer (some entry.bedata) entry.fence entry.config (e.flush 0)
  | cleanCache _ => s.cleanCache e.callingPid
  | goBackground => s.goBackground e.callingPid
  | registerReleaseListener listener flag => s.registerReleaseListener e.callingPid listener flag
  | unRegisterReleaseListener =>
    (.ok, s.withQueue (s.bufferQueue.configure .unRegisterProducerReleaseListener))
  | connect => s.connect e.callingPid
  | disconnect => s.disconnect e.callingPid
  | acquireLastFlushedBuffer _ => s.onQueue (·.acquireLastFlushedBuffer)
  | preAllocBuffers config count => s.onQueue (·.preAllocBuffers config count e.allocation)
  | cleanReleasedBuffers => Prod.map id Prod.snd (s.cleanReleasedBuffers e.callingPid)

/-- The promise of the `SurfaceBufferImpl` constructor for the buffers that the call creates. -/
def Fresh (e : Serving) (q : BufferQueue) : BufferCall → Prop
  | requestBuffer config => (Op.requestBuffer config (e.allocation 0)).Fresh q
  | requestBuffers num config =>
    (Op.requestBuffers config ((List.range num).map e.allocation)).Fresh q
  | requestAndDetachBuffer config => (Op.requestAndDetachBuffer config (e.allocation 0)).Fresh q
  | preAllocBuffers config count => (Op.preAllocBuffers config count e.allocation).Fresh q
  | _ => True

/-- The calls that begin with `Connect` or `CheckConnectLocked`. -/
def gated : BufferCall → Bool
  | requestBuffer _ | requestBuffers _ _ | requestAndDetachBuffer _ | cleanCache _ | goBackground
  | connect | disconnect | cleanReleasedBuffers => true
  | _ => false

end BufferCall

theorem Reachable.operates {q : BufferQueue} (h : Reachable q) (op : Op) (hfresh : op.Fresh q)
    (hdata : op.HasExtraData) : Operates q (op.next q) :=
  .op op hfresh (QueueStep.of_hasExtraData h.agrees h.fault hfresh hdata).2.2

namespace BufferQueueProducer

variable {s : BufferQueueProducer} {callingPid : Int}

theorem behindConnect_operates (h : Reachable s.bufferQueue) (op : Op) {q' : BufferQueue}
    (hfresh : ∀ q, q.bufferQueueCache = s.bufferQueue.bufferQueueCache → op.Fresh q)
    (hdata : op.HasExtraData)
    (hq' : q' = (s.connect callingPid).2.bufferQueue ∨
      q' = op.next (s.connect callingPid).2.bufferQueue) : Operates s.bufferQueue q' := by
  have hconnect := s.connect_operates callingPid h.fault
  rcases hq' with rfl | rfl
  · exact hconnect
  · exact hconnect.trans
      ((hconnect.reachable h).operates op (hfresh _ (s.connect_cache callingPid)) hdata)

theorem requestWith_queue
    (request : BufferQueue → BufferRequestConfig → Allocation → RequestReply × BufferQueue)
    (config : BufferRequestConfig) (a : Allocation) (op : Op)
    (hnext : ∀ q, op.next q = (request q config a).2) :
    (requestWith request s callingPid config a).2.bufferQueue =
        (s.connect callingPid).2.bufferQueue ∨
      (requestWith request s callingPid config a).2.bufferQueue =
        op.next (s.connect callingPid).2.bufferQueue := by
  unfold requestWith
  rw [hnext]
  cases s.connect callingPid with
  | mk ret s' =>
    dsimp only
    split
    · exact .inl rfl
    · exact .inr rfl

theorem requestBuffers_queue (config : BufferRequestConfig) (as : List Allocation) :
    (s.requestBuffers callingPid config as).2.2.bufferQueue =
        (s.connect callingPid).2.bufferQueue ∨
      (s.requestBuffers callingPid config as).2.2.bufferQueue =
        (Op.requestBuffers config as).next (s.connect callingPid).2.bufferQueue := by
  unfold requestBuffers
  cases s.connect callingPid with
  | mk ret s' =>
    dsimp only
    split
    · exact .inl rfl
    · exact .inr rfl

theorem cleanQueue_operates (h : Reachable s.bufferQueue) :
    Operates s.bufferQueue s.cleanQueue.bufferQueue :=
  h.operates .cleanCache trivial trivial

theorem setConnectedPidLocked_operates (h : Reachable s.bufferQueue) (connectedPid : Int) :
    Operates s.bufferQueue (s.setConnectedPidLocked connectedPid).bufferQueue :=
  h.operates (.configure (.setConnectedPidLocked connectedPid)) trivial trivial

theorem disconnect_operates (h : Reachable s.bufferQueue) (callingPid : Int) :
    Operates s.bufferQueue (s.disconnect callingPid).2.bufferQueue := by
  have hclear := setConnectedPidLocked_operates h 0
  unfold disconnect disconnectLocked
  split_ifs with hcheck
  · dsimp only
    rw [if_pos hcheck]
    exact .refl _
  · dsimp only
    rw [if_neg (not_not.mpr rfl)]
    exact hclear.trans (cleanQueue_operates (hclear.reachable h))

theorem onRemoteDied_operates (h : Reachable s.bufferQueue) (pid : Int) :
    Operates s.bufferQueue (s.onRemoteDied pid).bufferQueue := by
  have hclear := setConnectedPidLocked_operates h 0
  unfold onRemoteDied onBufferProducerRemoteDied remoteDiedLocked
  split_ifs
  · exact .refl _
  · exact .refl _
  · exact hclear.trans (cleanQueue_operates (hclear.reachable h))

end BufferQueueProducer

namespace BufferCall

variable {e : Serving} {s : BufferQueueProducer}

theorem perform_operates (h : Reachable s.bufferQueue) (c : BufferCall)
    (hfresh : c.Fresh e s.bufferQueue) :
    Operates s.bufferQueue (c.perform e s).2.bufferQueue := by
  have op (op : Op) (hop : op.Fresh s.bufferQueue) (hdata : op.HasExtraData) :
      Operates s.bufferQueue (op.next s.bufferQueue) := h.operates op hop hdata
  cases c with
  | requestBuffer config =>
    exact BufferQueueProducer.behindConnect_operates h (.requestBuffer config (e.allocation 0))
      (fun q hq => (congrArg (fun c : BufferCache => c.find _ = none) hq).mpr hfresh) trivial
      (BufferQueueProducer.requestWith_queue BufferQueue.requestBuffer config (e.allocation 0)
        (.requestBuffer config (e.allocation 0)) fun _ => rfl)
  | requestBuffers num config =>
    refine BufferQueueProducer.behindConnect_operates h
      (.requestBuffers config ((List.range num).map e.allocation)) (fun q hq => ?_) trivial
      (BufferQueueProducer.requestBuffers_queue _ _)
    exact ⟨hfresh.1, fun a ha => (congrArg (fun c : BufferCache => c.find _ = none) hq).mpr
      (hfresh.2 a ha)⟩
  | requestAndDetachBuffer config =>
    exact BufferQueueProducer.behindConnect_operates h
      (.requestAndDetachBuffer config (e.allocation 0))
      (fun q hq => (congrArg (fun c : BufferCache => c.find _ = none) hq).mpr hfresh) trivial
      (BufferQueueProducer.requestWith_queue BufferQueue.requestAndDetachBuffer config
        (e.allocation 0) (.requestAndDetachBuffer config (e.allocation 0)) fun _ => rfl)
  | handleDeathRecipient token => exact .refl _
  | cancelBuffer sequence bedata => exact op (.cancelBuffer sequence (some bedata)) trivial trivial
  | flushBuffer entry =>
    simp only [perform, BufferQueueProducer.flushBuffer]
    split_ifs
    · exact .refl _
    · exact op (.flushBuffer (entry.args (e.flush 0))) trivial rfl
  | flushBuffers entries =>
    simp only [perform, BufferQueueProducer.flushBuffers]
    split_ifs
    · exact .refl _
    · refine op (.flushBuffers (entries.mapIdx fun i entry => entry.args (e.flush i))) trivial ?_
      intro f hf
      obtain ⟨i, hi, rfl⟩ := List.mem_mapIdx.mp hf
      rfl
  | attachBufferToQueue buffer =>
    exact op (.attachBufferToQueue buffer .producerInvoker) trivial trivial
  | detachBufferFromQueue sequence =>
    exact op (.detachBufferFromQueue sequence .producerInvoker false) trivial trivial
  | attachBuffer buffer timeOut => exact op (.attachBuffer buffer timeOut) trivial trivial
  | attachAndFlushBuffer buffer entry needMap =>
    simp only [perform, BufferQueueProducer.attachAndFlushBuffer]
    split_ifs
    · exact .refl _
    · exact op (.attachAndFlushBuffer buffer (some entry.bedata) entry.fence entry.config
        (e.flush 0)) trivial rfl
  | cleanCache cleanAll =>
    simp only [perform, BufferQueueProducer.cleanCache]
    split_ifs
    · exact .refl _
    · exact BufferQueueProducer.cleanQueue_operates h
  | goBackground =>
    simp only [perform, BufferQueueProducer.goBackground]
    split_ifs
    · exact .refl _
    · exact op (.setProducerCacheCleanFlag true) trivial trivial
  | registerReleaseListener listener flag =>
    have hpid := op (.configure (.setListenerSeqAndFenceCallingPid
      (if flag then e.callingPid else 0))) trivial trivial
    exact hpid.trans ((hpid.reachable h).operates
      (.configure (.registerProducerReleaseListener listener flag)) trivial trivial)
  | unRegisterReleaseListener =>
    exact op (.configure .unRegisterProducerReleaseListener) trivial trivial
  | connect => exact s.connect_operates e.callingPid h.fault
  | disconnect => exact BufferQueueProducer.disconnect_operates h e.callingPid
  | acquireLastFlushedBuffer isUseNewMatrix => exact op .acquireLastFlushedBuffer trivial trivial
  | preAllocBuffers config count =>
    exact op (.preAllocBuffers config count e.allocation) hfresh trivial
  | cleanReleasedBuffers =>
    simp only [perform, BufferQueueProducer.cleanReleasedBuffers]
    split_ifs
    · exact .refl _
    · exact op .cleanReleasedBuffers trivial trivial

end BufferCall

/-! Who is connected: as long as a process is, the calls of the others that ask for it come to
nothing, and only its own `Disconnect` or the news of a death changes it. -/

namespace BufferQueueProducer

variable {s : BufferQueueProducer} {callingPid : Int}

theorem connect_of_other (hsome : s.connectedPid ≠ 0) (hother : s.connectedPid ≠ callingPid) :
    s.connect callingPid = (.consumerIsConnected, s) := if_pos ⟨hsome, hother⟩

theorem checkConnectLocked_of_other (hsome : s.connectedPid ≠ 0)
    (hother : s.connectedPid ≠ callingPid) :
    s.checkConnectLocked callingPid = .consumerIsConnected := by
  rw [checkConnectLocked, if_neg hsome, if_pos hother]

theorem connect_keeps (hsome : s.connectedPid ≠ 0) (callingPid : Int) :
    (s.connect callingPid).2.connectedPid = s.connectedPid := by
  by_cases hother : s.connectedPid = callingPid
  · unfold connect
    split_ifs
    · rfl
    · rfl
    · exact hother.symm
  · rw [connect_of_other hsome hother]

theorem requestWith_keeps (hsome : s.connectedPid ≠ 0)
    (request : BufferQueue → BufferRequestConfig → Allocation → RequestReply × BufferQueue)
    (config : BufferRequestConfig) (a : Allocation) :
    (requestWith request s callingPid config a).2.connectedPid = s.connectedPid := by
  refine Eq.trans ?_ (connect_keeps hsome callingPid)
  unfold requestWith
  dsimp only
  split <;> rfl

theorem requestBuffers_keeps (hsome : s.connectedPid ≠ 0) (config : BufferRequestConfig)
    (as : List Allocation) :
    (s.requestBuffers callingPid config as).2.2.connectedPid = s.connectedPid := by
  refine Eq.trans ?_ (connect_keeps hsome callingPid)
  unfold requestBuffers
  dsimp only
  split <;> rfl

end BufferQueueProducer

namespace BufferCall

variable {e : Serving} {s : BufferQueueProducer} {c : BufferCall}

theorem perform_of_other (hsome : s.connectedPid ≠ 0) (hother : s.connectedPid ≠ e.callingPid)
    (h : c.gated = true) : c.perform e s = (.consumerIsConnected, s) := by
  have hconnect := BufferQueueProducer.connect_of_other hsome hother
  have hcheck := BufferQueueProducer.checkConnectLocked_of_other hsome hother
  cases c with
  | requestBuffer config =>
    simp [perform, BufferQueueProducer.requestBuffer, BufferQueueProducer.requestWith, hconnect,
      RequestReply.error]
  | requestBuffers num config => simp [perform, BufferQueueProducer.requestBuffers, hconnect]
  | requestAndDetachBuffer config =>
    simp [perform, BufferQueueProducer.requestAndDetachBuffer, BufferQueueProducer.requestWith,
      hconnect, RequestReply.error]
  | cleanCache cleanAll => simp [perform, BufferQueueProducer.cleanCache, hcheck]
  | goBackground => simp [perform, BufferQueueProducer.goBackground, hcheck]
  | connect => exact hconnect
  | disconnect =>
    simp [perform, BufferQueueProducer.disconnect, BufferQueueProducer.disconnectLocked, hcheck]
  | cleanReleasedBuffers => simp [perform, BufferQueueProducer.cleanReleasedBuffers, hcheck]
  | _ => cases h

theorem perform_keeps (hsome : s.connectedPid ≠ 0)
    (hstays : ¬ (e.callingPid = s.connectedPid ∧ c = .disconnect)) :
    (c.perform e s).2.connectedPid = s.connectedPid := by
  by_cases hother : c.gated = true ∧ s.connectedPid ≠ e.callingPid
  · rw [perform_of_other hsome hother.2 hother.1]
  cases c with
  | requestBuffer config =>
    exact BufferQueueProducer.requestWith_keeps hsome BufferQueue.requestBuffer _ _
  | requestBuffers num config => exact BufferQueueProducer.requestBuffers_keeps hsome _ _
  | requestAndDetachBuffer config =>
    exact BufferQueueProducer.requestWith_keeps hsome BufferQueue.requestAndDetachBuffer _ _
  | connect => exact BufferQueueProducer.connect_keeps hsome e.callingPid
  | disconnect => exact absurd ⟨(not_not.mp fun h => hother ⟨rfl, h⟩).symm, rfl⟩ hstays
  | flushBuffer entry =>
    simp only [perform, BufferQueueProducer.flushBuffer]
    split_ifs <;> rfl
  | flushBuffers entries =>
    simp only [perform, BufferQueueProducer.flushBuffers]
    split_ifs <;> rfl
  | attachAndFlushBuffer buffer entry needMap =>
    simp only [perform, BufferQueueProducer.attachAndFlushBuffer]
    split_ifs <;> rfl
  | cleanCache cleanAll =>
    simp only [perform, BufferQueueProducer.cleanCache]
    split_ifs <;> rfl
  | goBackground =>
    simp only [perform, BufferQueueProducer.goBackground]
    split_ifs <;> rfl
  | cleanReleasedBuffers =>
    simp only [perform, BufferQueueProducer.cleanReleasedBuffers]
    split_ifs <;> rfl
  | _ => rfl

end BufferCall

theorem AttributedProducer.performRemote_keeps (s : AttributedProducer) (c : RemoteCall) :
    (s.performRemote c).2.connectedPid = s.connectedPid := by
  cases c <;> try rfl
  all_goals
    simp only [performRemote, perform, returned, setVideoDimensionTypeChecked,
      setVideoDimensionType, setSingleBufferModeChecked, setQueueSingleBufferMode,
      setSurfaceAppFrameworkType, setCycleBuffersNumber, setFrameGravity, setFixedRotation,
      setAlphaType]
    split_ifs <;> rfl

structure BufferMessage (P : Type) where
  code : BufferCode
  arguments : P
  connection : Connection P
  serving : Serving

/-- What comes to a producer: a message of either kind, or the news of the death of a process. -/
inductive StubEvent (P : Type)
  | onAttribute (m : ProducerMessage P)
  | onBuffers (m : BufferMessage P)
  | death (pid : Int)

section Messages

theorem toOption_orFail {E E' P α β : Type} (read : Coded E P α) (refusal : E') (f : α → β)
    (p : P) :
    ((do let a ← read.orFail refusal; pure (f a)) p).1.toOption = (read p).1.toOption.map f := by
  cases hread : read p with
  | mk result p' =>
    cases result with
    | error e =>
      have hfail : read.orFail refusal p = (.error refusal, p') := by rw [Coded.orFail, hread]
      rw [Coded.bind_error hfail]
      rfl
    | ok a =>
      rw [Coded.bind_ok (Coded.orFail_ok hread)]
      rfl

variable {P : Type} [Parcel P] [ObjectParcel P]

def BufferMessage.call (m : BufferMessage P) : Option BufferCall :=
  match m.connection.checkInterfaceToken m.arguments with
  | (false, _) => none
  | (true, arguments) => (bufferFuncMap m.serving m.code arguments).1.toOption

def BufferMessage.next (s : AttributedProducer) (m : BufferMessage P) : AttributedProducer :=
  match m.call with
  | none => s
  | some c => { s with toBufferQueueProducer := (c.perform m.serving s.toBufferQueueProducer).2 }

theorem BufferMessage.next_cases (m : BufferMessage P) (s : AttributedProducer) :
    m.next s = s ∨ ∃ c, m.call = some c ∧ m.next s =
      { s with toBufferQueueProducer := (c.perform m.serving s.toBufferQueueProducer).2 } := by
  unfold next
  cases m.call with
  | none => exact .inl rfl
  | some c => exact .inr ⟨c, rfl, rfl⟩

/-! The stubs of the modules about single calls do the same to the producer. -/

section Stubs

variable {channel : Channel P} {m : BufferMessage P}

def RequestMethod.bufferCode : RequestMethod → BufferCode
  | requestBuffer => .requestBuffer
  | requestAndDetachBuffer => .requestAndDetachBuffer

def RequestMethod.bufferCall : RequestMethod → BufferRequestConfig → BufferCall
  | requestBuffer => .requestBuffer
  | requestAndDetachBuffer => .requestAndDetachBuffer

theorem BufferMessage.call_of_request (htoken : m.connection.checkInterfaceToken =
    channel.checkInterfaceToken) {method : RequestMethod} (hcode : m.code = method.bufferCode) :
    m.call = (channel.readArguments m.arguments).map method.bufferCall := by
  unfold call Channel.readArguments
  rw [htoken, hcode]
  cases channel.checkInterfaceToken m.arguments with
  | mk accepted arguments =>
    cases accepted with
    | false => rfl
    | true => cases method <;> exact toOption_orFail _ _ _ arguments

/-- `RequestBufferRemote` and `RequestAndDetachBufferRemote`. -/
theorem BufferMessage.next_of_request (htoken : m.connection.checkInterfaceToken =
    channel.checkInterfaceToken) {method : RequestMethod} (hcode : m.code = method.bufferCode)
    (s : AttributedProducer) :
    (m.next s).toBufferQueueProducer = (channel.stub method s.toBufferQueueProducer
      m.serving.callingPid (m.serving.allocation 0) m.arguments).2 := by
  rw [channel.stub_producer, next, call_of_request htoken hcode]
  cases channel.readArguments m.arguments with
  | none => rfl
  | some arrived => cases method <;> rfl

/-- `RequestBuffersRemote`. -/
theorem BufferMessage.next_of_batch (htoken : m.connection.checkInterfaceToken =
    channel.checkInterfaceToken) (hcode : m.code = .requestBuffers) (s : AttributedProducer) :
    (m.next s).toBufferQueueProducer = (channel.batchStub s.toBufferQueueProducer
      m.serving.callingPid m.serving.allocation m.arguments).2 := by
  unfold next call Channel.batchStub Channel.readBatchArguments
  rw [htoken, hcode]
  cases channel.checkInterfaceToken m.arguments with
  | mk accepted arguments =>
    cases accepted with
    | false => rfl
    | true =>
      dsimp only [bufferFuncMap, requestBuffersRemote]
      cases hread : readBatchRequest arguments with
      | mk result p' =>
        cases result with
        | error e =>
          have hfail : readBatchRequest.orFail (⟨.gsErrorBinder, none⟩ : Refusal) arguments =
              (.error ⟨.gsErrorBinder, none⟩, p') := by rw [Coded.orFail, hread]
          rw [Coded.bind_error hfail]
          rfl
        | ok request =>
          obtain ⟨num, config⟩ := request
          rw [Coded.bind_ok (Coded.orFail_ok hread)]
          by_cases hnum : num = 0 ∨ surfaceMaxQueueSize < num.toNat
          · simp only [Except.toOption, if_pos hnum]
            rfl
          · simp only [Except.toOption, if_neg hnum]
            have hproducer := congrArg (·.2.2) (s.requestBuffers_entries m.serving.callingPid config
              ((List.range num.toNat).map m.serving.allocation))
            cases writeBatchReply channel.memory channel.badFd (s.requestEntries
              m.serving.callingPid config ((List.range num.toNat).map m.serving.allocation)).1
              channel.reply with
            | mk written p' => cases written <;> exact hproducer

/-- The vectors that `FlushBuffersRemote` fills are as long as each other. -/
theorem flushVectors_received {s : BufferQueueProducer} (hreach : Reachable s.bufferQueue)
    {e : Serving} {sequences : List UInt32}
    {reads : List (ExtraData × Int32 × BufferFlushConfigWithDamages)}
    (hlength : reads.length = sequences.length) :
    (s.flushVectors (.received e.fenceOf sequences reads) e.flush).producer =
      (s.flushBuffers ((List.zipWith e.entry sequences reads).mapIdx fun i entry =>
        entry.args (e.flush i))).2 := by
  set fs := (List.zipWith e.entry sequences reads).mapIdx fun i entry => entry.args (e.flush i)
    with hfs
  have hcount : fs.length = sequences.length := by simp [hfs, hlength]
  unfold BufferQueueProducer.flushVectors BufferQueueProducer.flushBuffers
  split_ifs
  · rfl
  · have hdata : (Op.flushBuffers fs).HasExtraData := by
      intro f hf
      obtain ⟨i, hi, rfl⟩ := List.mem_mapIdx.mp hf
      rfl
    have hstep : QueueStep s.bufferQueue (.flushBuffers fs) _ :=
      .of_hasExtraData hreach.agrees hreach.fault trivial hdata
    have hend : (s.bufferQueue.flushBuffers fs).2.fault = false := hstep.2.2
    have hargs (j : ℕ) (hj : j < fs.length) :
        (FlushVectors.received e.fenceOf sequences reads).args e.flush (0 + j) = some fs[j] := by
      have hj' : j < sequences.length := hcount ▸ hj
      simp [FlushVectors.args, FlushVectors.received, hfs, hj', hlength, Serving.entry,
        FlushEntry.args]
    have hloop := FlushVectors.flushFrom_eq_flushBuffers hargs hend
    rw [show (FlushVectors.received e.fenceOf sequences reads).sequences.length = fs.length by
      simp [FlushVectors.received, hcount]]
    exact congrArg s.withQueue hloop.2

/-- `FlushBuffersRemote`. -/
theorem BufferMessage.next_of_flush (htoken : m.connection.checkInterfaceToken =
    channel.checkInterfaceToken) (hcode : m.code = .flushBuffers) {s : AttributedProducer}
    (hreach : Reachable s.bufferQueue) :
    (m.next s).toBufferQueueProducer = (channel.flushStub m.serving.fenceOf
      s.toBufferQueueProducer m.serving.flush m.arguments).1.producer := by
  unfold next call Channel.flushStub
  rw [htoken, hcode]
  cases channel.checkInterfaceToken m.arguments with
  | mk accepted arguments =>
    cases accepted with
    | false => rfl
    | true =>
      dsimp only [bufferFuncMap, flushBuffersRemote]
      cases hread : (Parcel.readUInt32Vector arguments : Except Unit (List UInt32) × P) with
      | mk result p' =>
        cases result with
        | error e =>
          have hfail : Parcel.readUInt32Vector.orFail (⟨.gsErrorBinder, none⟩ : Refusal) arguments =
              (.error ⟨.gsErrorBinder, none⟩, p') := by rw [Coded.orFail, hread]
          rw [Coded.bind_error hfail]
          rfl
        | ok sequences =>
          rw [Coded.bind_ok (Coded.orFail_ok hread)]
          by_cases hsize : sequences = [] ∨ surfaceMaxQueueSize < sequences.length
          · simp only [if_pos hsize]
            rfl
          · simp only [if_neg hsize]
            rw [toOption_orFail]
            cases hreads : readFlushEntries sequences.length p' with
            | mk result p'' =>
              cases result with
              | error e => rfl
              | ok reads =>
                exact (flushVectors_received hreach (readFlushEntries_length hreads)).symm

end Stubs

namespace StubEvent

def Fresh (s : AttributedProducer) : StubEvent P → Prop
  | onBuffers m => ∀ c ∈ m.call, c.Fresh m.serving s.bufferQueue
  | _ => True

def Ends (p : Int) : StubEvent P → Prop
  | onAttribute _ => False
  | onBuffers m => m.serving.callingPid = p ∧ m.call = some .disconnect
  | death _ => True

/-- Nothing comes of it while `p` is connected. -/
def idle (p : Int) : StubEvent P → Bool
  | onBuffers m => m.serving.callingPid != p && m.call.all BufferCall.gated
  | _ => false

variable [FloatParcel P]

def next (s : AttributedProducer) : StubEvent P → AttributedProducer
  | onAttribute m => ProducerMessage.next s m
  | onBuffers m => m.next s
  | death pid => { s with toBufferQueueProducer := s.toBufferQueueProducer.onRemoteDied pid }

variable {s : AttributedProducer} {p : Int} {x : StubEvent P}

theorem next_operates (h : Reachable s.bufferQueue) (hfresh : x.Fresh s) :
    Operates s.bufferQueue (next s x).bufferQueue := by
  cases x with
  | onAttribute m =>
    rcases ProducerMessage.next_cases s m with hsame | ⟨-, c, -, hcall⟩
    · rw [next, hsame]
      exact .refl _
    · rw [next, hcall]
      exact AttributedProducer.performRemote_operates h.agrees h.fault c
  | onBuffers m =>
    rcases m.next_cases s with hsame | ⟨c, hcall, hnext⟩
    · rw [next, hsame]
      exact .refl _
    · rw [next, hnext]
      exact c.perform_operates h (hfresh c hcall)
  | death pid => exact BufferQueueProducer.onRemoteDied_operates h pid

theorem next_of_idle (hs : s.connectedPid = p) (hsome : p ≠ 0) (h : x.idle p = true) :
    next s x = s := by
  cases x with
  | onAttribute m => cases h
  | death pid => cases h
  | onBuffers m =>
    obtain ⟨hother, hgated⟩ := Bool.and_eq_true_iff.mp h
    rcases m.next_cases s with hsame | ⟨c, hcall, hnext⟩
    · exact hsame
    · rw [hcall] at hgated
      have hstill := BufferCall.perform_of_other (hs.trans_ne hsome)
        (hs.trans_ne (bne_iff_ne.mp hother).symm) hgated
      rw [next, hnext, hstill]

theorem next_keeps (hs : s.connectedPid = p) (hsome : p ≠ 0) (h : ¬ x.Ends p) :
    (next s x).connectedPid = p := by
  refine Eq.trans ?_ hs
  cases x with
  | onAttribute m =>
    rcases ProducerMessage.next_cases s m with hsame | ⟨-, c, -, hcall⟩
    · rw [next, hsame]
    · rw [next, hcall]
      exact s.performRemote_keeps c
  | onBuffers m =>
    rcases m.next_cases s with hsame | ⟨c, hcall, hnext⟩
    · rw [next, hsame]
    · rw [next, hnext]
      refine c.perform_keeps (hs.trans_ne hsome) fun hdisconnect => h ?_
      exact ⟨hdisconnect.1.trans hs, hcall.trans (congrArg some hdisconnect.2)⟩
  | death pid => exact absurd trivial h

/-- Whatever arrives, the queue stays one that its own operations reach, and no null pointer is met.
While `p` stays connected, requests, disconnections and clean-ups by others could as well not have
been sent. -/
theorem messages_keep_the_queue {xs : List (StubEvent P)} (hreach : Reachable s.bufferQueue)
    (hfresh : Legal next (fun s x => x.Fresh s) s xs) :
    Reachable (execute next s xs).bufferQueue ∧
      ∀ p ≠ 0, s.connectedPid = p → (∀ x ∈ xs, ¬ x.Ends p) →
        (execute next s xs).connectedPid = p ∧
          execute next s xs = execute next s (xs.filter fun x => !x.idle p) := by
  induction xs generalizing s with
  | nil => exact ⟨hreach, fun p _ hp _ => ⟨hp, rfl⟩⟩
  | cons x xs ih =>
    obtain ⟨hx, hxs⟩ := hfresh
    obtain ⟨hreached, hothers⟩ := ih ((next_operates hreach hx).reachable hreach) hxs
    refine ⟨hreached, fun p hsome hp hstays => ?_⟩
    obtain ⟨hkept, hstruck⟩ := hothers p hsome
      (next_keeps hp hsome (hstays x (List.mem_cons_self ..)))
      fun y hy => hstays y (List.mem_cons_of_mem x hy)
    refine ⟨hkept, ?_⟩
    by_cases hidle : x.idle p = true
    · rw [List.filter_cons_of_neg (by simp [hidle]), execute, next_of_idle hp hsome hidle]
      rwa [next_of_idle hp hsome hidle] at hstruck
    · rw [List.filter_cons_of_pos (by simp [hidle])]
      exact hstruck

end StubEvent

end Messages

instance : ObjectParcel Wire where
  readRemoteObject p :=
    match Parcel.readUint32 p with
    | (.ok object, p) => (some object.toNat, p)
    | (.error _, p) => (none, p)

def plainServing (callingPid : Int) : Serving where
  callingPid := callingPid
  object := 0
  bufferId := 0
  heap := true
  processOf object := object
  infoWritten := true
  fenceOf _ := invalidFence
  allocation i := ⟨i, i, true, true⟩
  flush _ := ⟨.ok, 0⟩

def connectedProducer : AttributedProducer :=
  { namedProducer with toBufferQueueProducer := (openProducer.connect 1).2 }

def forgedCall (code : BufferCode) (callingPid : Int) : StubEvent Wire :=
  .onBuffers ⟨code, ProducerMessage.forgedParcel 4000, wireConnection true true,
    plainServing callingPid⟩

def strangers : List (StubEvent Wire) :=
  [forgedCall .disconnect 2, forgedCall .cleanReleasedBuffers 3, forgedCall .requestBuffers 2,
    .onAttribute ⟨.setQueueSize, ProducerMessage.forgedParcel 5, wireConnection true true⟩]

theorem messages_keep_the_queue_strangers :
    (execute StubEvent.next connectedProducer strangers).connectedPid = 1 ∧
      execute StubEvent.next connectedProducer strangers =
        execute StubEvent.next connectedProducer (strangers.drop 3) := by
  have hreach : Reachable connectedProducer.bufferQueue :=
    (openProducer.connect_operates 1 rfl).reachable reachable_openProducer
  have hfresh : Legal StubEvent.next (fun s x => x.Fresh s) connectedProducer strangers := by
    refine ⟨?_, ?_, ?_, trivial, trivial⟩
    · rintro c ⟨⟩
      trivial
    · rintro c ⟨⟩
      trivial
    · rintro c ⟨⟩
  have hstays : ∀ x ∈ strangers, ¬ x.Ends 1 := by
    simp [strangers, forgedCall, StubEvent.Ends, plainServing]
  exact (StubEvent.messages_keep_the_queue hreach hfresh).2 1 (by decide) rfl hstays

end GraphicSurface
