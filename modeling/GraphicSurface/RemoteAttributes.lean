import GraphicSurface.AllProperties
import GraphicSurface.RemoteObjects

/-! The attributes of a queue as its producer sees them, in the queue's process and through the
proxy `BufferClientProducer`. `SetTransform` is left to the module about the value that its proxy
remembers. `bufferQueue_` is never a null pointer. A brightness is its bits. -/

namespace GraphicSurface

open Parcels Runs

/-- The accesses for numbers of type `float`. -/
class FloatParcel (P : Type) where
  writeFloat : UInt32 → Coded Unit P Unit
  readFloat : Coded Unit P UInt32

structure FloatFifo (P F : Type) [Parcel P] [FloatParcel P] extends Fifo P F where
  write_float : ∀ v, toView.Writes (FloatParcel.writeFloat v) [.word32 v.toBitVec]
  read_float : ∀ p v, toView.Reads p FloatParcel.readFloat [.word32 v.toBitVec] fun b _ => b = v

theorem float_isFile (v : UInt32) : (Word.word32 v.toBitVec : Word WireFile).isFile = false := rfl

instance : FloatParcel Wire where
  writeFloat v := Wire.push (.word32 v.toBitVec) (float_isFile v)
  readFloat := Wire.pop fun w => (Wire.readWord32 w).map .ofBitVec

def wireFloats : FloatFifo Wire WireFile where
  toFifo := Wire.fifo
  write_float v := Wire.push_writes _ (float_isFile v)
  read_float p v := (Wire.pop_word32 _ p v.toBitVec).mono fun _ _ _ h => h

def maximumLengthOfAppFramework : ℕ := 64
def minFrameGravity : Int32 := -1
def maxFrameGravity : Int32 := 15
def minFixedRotation : Int32 := -1
def maxFixedRotation : Int32 := 1
def graphicAlphaTypeUnknown : Int32 := 0
def graphicAlphaTypePremul : Int32 := 2
def graphicAlphaTypeUnpremul : Int32 := 3
def singleBufferModeMaxValue : Int32 := 3

/-- The members of the queue that only these calls and the init info read or write. -/
structure QueueAttributes where
  name : String
  uniqueId : UInt64
  defaultWidth : Int32 := 0
  defaultHeight : Int32 := 0
  isBufferHold : Bool := false
  bufferName : String := ""
  sourceType : UInt32 := 0
  appFrameworkType : String := ""
  hdrWhitePointBrightness : UInt32 := 0
  sdrWhitePointBrightness : UInt32 := 0
  globalAlpha : Int32 := -1
  rotatingBufferNumber : UInt32 := 0
  frameGravity : Int32 := -1
  fixedRotation : Int32 := -1
  alphaType : Int32 := graphicAlphaTypePremul
deriving DecidableEq

structure AttributedProducer extends BufferQueueProducer, QueueAttributes
deriving DecidableEq

namespace AttributedProducer

variable (s : AttributedProducer)

def getQueueSize : UInt32 := .ofNat s.bufferQueue.bufferQueueSize

def setQueueSize (queueSize : UInt32) : GSError × AttributedProducer :=
  match s.bufferQueue.setQueueSize queueSize.toNat with
  | (ret, q) => (ret, { s with bufferQueue := q })

def getName : String := s.name

def getUniqueId : UInt64 := s.uniqueId

def getNameAndUniqueId : String × UInt64 := (s.name, s.uniqueId)

def getDefaultWidth : Int32 := s.defaultWidth

def getDefaultHeight : Int32 := s.defaultHeight

def setDefaultUsage (usage : UInt64) : GSError × AttributedProducer :=
  (.ok, { s with bufferQueue := s.bufferQueue.configure (.setDefaultUsage usage.toNat) })

def getDefaultUsage : UInt64 := .ofNat s.bufferQueue.defaultUsage

def connectStrictly : GSError × AttributedProducer :=
  (.ok, { s with isDisconnectStrictly := false })

def disconnectStrictly : GSError × AttributedProducer :=
  (.ok, { s with isDisconnectStrictly := true })

def setBufferScalingMode (sequence : UInt32) (scalingMode : Int32) :
    GSError × AttributedProducer :=
  match s.bufferQueue.setBufferScalingMode sequence.toNat scalingMode.toInt with
  | (ret, q) => (ret, { s with bufferQueue := q })

def setScalingMode (scalingMode : Int32) : GSError × AttributedProducer :=
  (.ok, { s with bufferQueue := s.bufferQueue.setScalingMode scalingMode.toInt })

def setVideoDimensionType (videoDimType : Int32) : GSError × AttributedProducer :=
  (.ok, { s with bufferQueue := s.bufferQueue.setVideoDimensionType videoDimType.toInt })

def getVideoDimensionType : Int32 := .ofInt s.bufferQueue.videoDimType

def setBufferHold (hold : Bool) : GSError × AttributedProducer :=
  (.ok, { s with isBufferHold := hold })

def setBufferName (bufferName : String) : GSError × AttributedProducer :=
  (.ok, { s with bufferName := bufferName })

def getTransform : UInt32 := .ofInt s.bufferQueue.transform

def setSurfaceSourceType (sourceType : UInt32) : GSError × AttributedProducer :=
  (.ok, { s with sourceType := sourceType })

def getSurfaceSourceType : UInt32 := s.sourceType

def setSurfaceAppFrameworkType (appFrameworkType : String) : GSError × AttributedProducer :=
  if appFrameworkType = "" then (.noEntry, s)
  else if maximumLengthOfAppFramework < appFrameworkType.utf8ByteSize then (.outOfRange, s)
  else (.ok, { s with appFrameworkType := appFrameworkType })

def getSurfaceAppFrameworkType : String := s.appFrameworkType

def setHdrWhitePointBrightness (brightness : UInt32) : GSError × AttributedProducer :=
  (.ok, { s with hdrWhitePointBrightness := brightness })

def setSdrWhitePointBrightness (brightness : UInt32) : GSError × AttributedProducer :=
  (.ok, { s with sdrWhitePointBrightness := brightness })

def releaseLastFlushedBuffer (sequence : UInt32) : GSError × AttributedProducer :=
  match s.bufferQueue.releaseLastFlushedBuffer sequence.toNat with
  | (ret, q) => (ret, { s with bufferQueue := q })

def setGlobalAlpha (alpha : Int32) : GSError × AttributedProducer :=
  (.ok, { s with globalAlpha := alpha })

def setRequestBufferNoblockMode (noblock : Bool) : GSError × AttributedProducer :=
  (.ok, { s with bufferQueue := s.bufferQueue.configure (.setRequestBufferNoblockMode noblock) })

/-- Without a number of its own the queue cycles through as many buffers as it has. -/
def getCycleBuffersNumber : UInt32 :=
  if s.rotatingBufferNumber = 0 then s.getQueueSize else s.rotatingBufferNumber

def setCycleBuffersNumber (cycleBuffersNumber : UInt32) : GSError × AttributedProducer :=
  if cycleBuffersNumber = 0 ∨ surfaceMaxQueueSize * 2 < cycleBuffersNumber.toNat then
    (.invalidArguments, s)
  else (.ok, { s with rotatingBufferNumber := cycleBuffersNumber })

def setFrameGravity (frameGravity : Int32) : GSError × AttributedProducer :=
  if frameGravity < minFrameGravity ∨ maxFrameGravity < frameGravity then (.invalidArguments, s)
  else (.ok, { s with frameGravity := frameGravity })

def setFixedRotation (fixedRotation : Int32) : GSError × AttributedProducer :=
  if fixedRotation < minFixedRotation ∨ maxFixedRotation < fixedRotation then
    (.invalidArguments, s)
  else (.ok, { s with fixedRotation := fixedRotation })

def setAlphaType (alphaType : Int32) : GSError × AttributedProducer :=
  if alphaType < graphicAlphaTypeUnknown ∨ graphicAlphaTypeUnpremul < alphaType then
    (.invalidArguments, s)
  else (.ok, { s with alphaType := alphaType })

/-- `BufferQueue::SetSingleBufferMode`, which `BufferQueueProducer` does not override. -/
def setQueueSingleBufferMode (singleBufferMode : Int32) : GSError × AttributedProducer :=
  (.ok, { s with bufferQueue := { s.bufferQueue with singleBufferMode := singleBufferMode.toInt } })

end AttributedProducer

/-- The calls of `IBufferProducer` about the attributes. -/
inductive RemoteCall
  | getQueueSize
  | setQueueSize (queueSize : UInt32)
  | getName
  | getUniqueId
  | getNameAndUniqueId
  | getDefaultWidth
  | getDefaultHeight
  | setDefaultUsage (usage : UInt64)
  | getDefaultUsage
  | connectStrictly
  | disconnectStrictly
  | setBufferScalingMode (sequence : UInt32) (scalingMode : Int32)
  | setScalingMode (scalingMode : Int32)
  | setVideoDimensionType (videoDimType : Int32)
  | getVideoDimensionType
  | setBufferHold (hold : Bool)
  | setBufferName (bufferName : String)
  | getTransform
  | setSurfaceSourceType (sourceType : UInt32)
  | getSurfaceSourceType
  | setSurfaceAppFrameworkType (appFrameworkType : String)
  | getSurfaceAppFrameworkType
  | setHdrWhitePointBrightness (brightness : UInt32)
  | setSdrWhitePointBrightness (brightness : UInt32)
  | releaseLastFlushedBuffer (sequence : UInt32)
  | setGlobalAlpha (alpha : Int32)
  | setRequestBufferNoblockMode (noblock : Bool)
  | getCycleBuffersNumber
  | setCycleBuffersNumber (cycleBuffersNumber : UInt32)
  | setFrameGravity (frameGravity : Int32)
  | setFixedRotation (fixedRotation : Int32)
  | setAlphaType (alphaType : Int32)
  | setSingleBufferMode (mode : Int32)
deriving DecidableEq

/-- What a call gives besides its code. -/
inductive AttributeValue
  | nothing
  | int32 (value : Int32)
  | uint32 (value : UInt32)
  | uint64 (value : UInt64)
  | string (value : String)
  | nameAndUniqueId (name : String) (uniqueId : UInt64)
deriving DecidableEq

/-- The code of a call, or what it gives when that is `GSERROR_OK`. -/
abbrev AttributeAnswer := Except Int32 AttributeValue

def AttributeAnswer.ofRet (ret : GSError) : AttributeAnswer :=
  if ret = .ok then .ok .nothing else .error ret.code

namespace AttributedProducer

def returned (r : GSError × AttributedProducer) : AttributeAnswer × AttributedProducer :=
  (.ofRet r.1, r.2)

/-- The calls on the `BufferQueueProducer` itself. -/
def perform (s : AttributedProducer) : RemoteCall → AttributeAnswer × AttributedProducer
  | .getQueueSize => (.ok (.uint32 s.getQueueSize), s)
  | .setQueueSize queueSize => returned (s.setQueueSize queueSize)
  | .getName => (.ok (.string s.getName), s)
  | .getUniqueId => (.ok (.uint64 s.getUniqueId), s)
  | .getNameAndUniqueId => (.ok (.nameAndUniqueId s.getName s.getUniqueId), s)
  | .getDefaultWidth => (.ok (.int32 s.getDefaultWidth), s)
  | .getDefaultHeight => (.ok (.int32 s.getDefaultHeight), s)
  | .setDefaultUsage usage => returned (s.setDefaultUsage usage)
  | .getDefaultUsage => (.ok (.uint64 s.getDefaultUsage), s)
  | .connectStrictly => returned s.connectStrictly
  | .disconnectStrictly => returned s.disconnectStrictly
  | .setBufferScalingMode sequence scalingMode =>
    returned (s.setBufferScalingMode sequence scalingMode)
  | .setScalingMode scalingMode => returned (s.setScalingMode scalingMode)
  | .setVideoDimensionType videoDimType => returned (s.setVideoDimensionType videoDimType)
  | .getVideoDimensionType => (.ok (.int32 s.getVideoDimensionType), s)
  | .setBufferHold hold => returned (s.setBufferHold hold)
  | .setBufferName bufferName => returned (s.setBufferName bufferName)
  | .getTransform => (.ok (.uint32 s.getTransform), s)
  | .setSurfaceSourceType sourceType => returned (s.setSurfaceSourceType sourceType)
  | .getSurfaceSourceType => (.ok (.uint32 s.getSurfaceSourceType), s)
  | .setSurfaceAppFrameworkType appFrameworkType =>
    returned (s.setSurfaceAppFrameworkType appFrameworkType)
  | .getSurfaceAppFrameworkType => (.ok (.string s.getSurfaceAppFrameworkType), s)
  | .setHdrWhitePointBrightness brightness => returned (s.setHdrWhitePointBrightness brightness)
  | .setSdrWhitePointBrightness brightness => returned (s.setSdrWhitePointBrightness brightness)
  | .releaseLastFlushedBuffer sequence => returned (s.releaseLastFlushedBuffer sequence)
  | .setGlobalAlpha alpha => returned (s.setGlobalAlpha alpha)
  | .setRequestBufferNoblockMode noblock => returned (s.setRequestBufferNoblockMode noblock)
  | .getCycleBuffersNumber => (.ok (.uint32 s.getCycleBuffersNumber), s)
  | .setCycleBuffersNumber cycleBuffersNumber =>
    returned (s.setCycleBuffersNumber cycleBuffersNumber)
  | .setFrameGravity frameGravity => returned (s.setFrameGravity frameGravity)
  | .setFixedRotation fixedRotation => returned (s.setFixedRotation fixedRotation)
  | .setAlphaType alphaType => returned (s.setAlphaType alphaType)
  | .setSingleBufferMode _ => (.error GSError.notSupport.code, s)

/-- The stub of `SetVideoDimensionType` looks at the range, which the call itself does not. -/
def setVideoDimensionTypeChecked (s : AttributedProducer) (videoDimType : Int32) :
    GSError × AttributedProducer :=
  if videoDimType < videoDimType2D.toInt32 ∨ videoDimTypeButt.toInt32 ≤ videoDimType then
    (.invalidArguments, s)
  else s.setVideoDimensionType videoDimType

/-- The stub of `SetSingleBufferMode` takes what it does not know for `SINGLE_BUFFER_MODE_NONE`. -/
def setSingleBufferModeChecked (s : AttributedProducer) (mode : Int32) :
    GSError × AttributedProducer :=
  if .ofInt singleBufferModeNone < mode ∧ mode < singleBufferModeMaxValue then
    s.setQueueSingleBufferMode mode
  else s.setQueueSingleBufferMode (.ofInt singleBufferModeNone)

/-- What the calls are when they come through a stub: the same but for two. -/
def performRemote (s : AttributedProducer) : RemoteCall → AttributeAnswer × AttributedProducer
  | .setVideoDimensionType videoDimType => returned (s.setVideoDimensionTypeChecked videoDimType)
  | .setSingleBufferMode mode => returned (s.setSingleBufferModeChecked mode)
  | c => s.perform c

end AttributedProducer

/-- The enumerators that name these calls in a message, and a number that names no method. -/
inductive ProducerCode
  | getQueueSize
  | setQueueSize
  | getName
  | getDefaultWidth
  | getDefaultHeight
  | getDefaultUsage
  | getUniqueId
  | getNameAndUniqueId
  | setScalingMode
  | getTransform
  | setDefaultUsage
  | setBufferHold
  | setSourceType
  | getSourceType
  | setAppFrameworkType
  | getAppFrameworkType
  | setScalingModeV2
  | setHdrWhitePointBrightness
  | setSdrWhitePointBrightness
  | releaseLastFlushedBuffer
  | setGlobalAlpha
  | setRequestBufferNoblockMode
  | setBufferName
  | getRotatingBuffersNumber
  | setRotatingBuffersNumber
  | setFrameGravity
  | setFixedRotation
  | connectStrictly
  | disconnectStrictly
  | setAlphaType
  | setSingleBufferMode
  | setVideoDimensionType
  | getVideoDimensionType
  | unassigned (code : UInt32)
deriving DecidableEq

section Stubs

variable {P : Type} [Parcel P] [FloatParcel P] {α β : Type}

open Parcel FloatParcel

/-- `ReadInt32` without an out parameter. -/
def readInt32OrZero : Coded Unit P Int32 := fun p =>
  match readInt32 p with
  | (.ok v, p) => (.ok v, p)
  | (.error _, p) => (.ok 0, p)

def writeRet (ret : GSError) : Coded Unit P Unit := writeInt32 ret.code

def writeChecked (write : β → Coded Unit P Unit) (b : β) : Coded Unit P Unit := do
  writeInt32 GSError.ok.code
  write b

def setterRemote (request : Coded Unit P α)
    (set : AttributedProducer → α → GSError × AttributedProducer) : Stub P AttributedProducer :=
  .of request set writeRet

def getterRemote (get : AttributedProducer → β) (writeReply : β → Coded Unit P Unit) :
    Stub P AttributedProducer :=
  .of (pure ()) (fun s _ => (get s, s)) writeReply

def readSequenceAndMode : Coded Unit P (UInt32 × Int32) := do
  let sequence ← readUint32
  let scalingMode ← readInt32
  pure (sequence, scalingMode)

def writeNameAndUniqueId (v : String × UInt64) : Coded Unit P Unit := do
  writeString v.1
  writeUint64 v.2

open AttributedProducer

def getQueueSizeRemote : Stub P AttributedProducer :=
  getterRemote getQueueSize fun queueSize => writeInt32 queueSize.toInt32

def setQueueSizeRemote : Stub P AttributedProducer := setterRemote readUint32 setQueueSize

def getNameRemote : Stub P AttributedProducer := getterRemote getName (writeChecked writeString)

def getUniqueIdRemote : Stub P AttributedProducer := getterRemote getUniqueId writeUint64

def getNameAndUniqueIdRemote : Stub P AttributedProducer :=
  getterRemote getNameAndUniqueId (writeChecked writeNameAndUniqueId)

def getDefaultWidthRemote : Stub P AttributedProducer := getterRemote getDefaultWidth writeInt32

def getDefaultHeightRemote : Stub P AttributedProducer := getterRemote getDefaultHeight writeInt32

def setDefaultUsageRemote : Stub P AttributedProducer := setterRemote readUint64 setDefaultUsage

def getDefaultUsageRemote : Stub P AttributedProducer := getterRemote getDefaultUsage writeUint64

def connectStrictlyRemote : Stub P AttributedProducer :=
  setterRemote (pure ()) fun s _ => s.connectStrictly

def disconnectStrictlyRemote : Stub P AttributedProducer :=
  setterRemote (pure ()) fun s _ => s.disconnectStrictly

def setScalingModeRemote : Stub P AttributedProducer :=
  setterRemote readSequenceAndMode fun s a => s.setBufferScalingMode a.1 a.2

def setScalingModeV2Remote : Stub P AttributedProducer := setterRemote readInt32 setScalingMode

def setVideoDimensionTypeRemote : Stub P AttributedProducer :=
  setterRemote readInt32OrZero setVideoDimensionTypeChecked

def getVideoDimensionTypeRemote : Stub P AttributedProducer :=
  getterRemote getVideoDimensionType (writeChecked writeInt32)

def setBufferHoldRemote : Stub P AttributedProducer := setterRemote readBool setBufferHold

def setBufferNameRemote : Stub P AttributedProducer := setterRemote readString setBufferName

def getTransformRemote : Stub P AttributedProducer :=
  getterRemote getTransform (writeChecked writeUint32)

def setSurfaceSourceTypeRemote : Stub P AttributedProducer :=
  setterRemote readUint32 setSurfaceSourceType

def getSurfaceSourceTypeRemote : Stub P AttributedProducer :=
  getterRemote getSurfaceSourceType (writeChecked writeUint32)

def setSurfaceAppFrameworkTypeRemote : Stub P AttributedProducer :=
  setterRemote readString setSurfaceAppFrameworkType

def getSurfaceAppFrameworkTypeRemote : Stub P AttributedProducer :=
  getterRemote getSurfaceAppFrameworkType (writeChecked writeString)

def setHdrWhitePointBrightnessRemote : Stub P AttributedProducer :=
  setterRemote readFloat setHdrWhitePointBrightness

def setSdrWhitePointBrightnessRemote : Stub P AttributedProducer :=
  setterRemote readFloat setSdrWhitePointBrightness

def releaseLastFlushedBufferRemote : Stub P AttributedProducer :=
  setterRemote readUint32 releaseLastFlushedBuffer

def setGlobalAlphaRemote : Stub P AttributedProducer := setterRemote readInt32 setGlobalAlpha

def setRequestBufferNoblockModeRemote : Stub P AttributedProducer :=
  setterRemote readBool setRequestBufferNoblockMode

def getRotatingBuffersNumberRemote : Stub P AttributedProducer :=
  getterRemote getCycleBuffersNumber (writeChecked writeUint32)

def setRotatingBuffersNumberRemote : Stub P AttributedProducer :=
  setterRemote readUint32 setCycleBuffersNumber

def setFrameGravityRemote : Stub P AttributedProducer := setterRemote readInt32 setFrameGravity

def setFixedRotationRemote : Stub P AttributedProducer := setterRemote readInt32 setFixedRotation

def setAlphaTypeRemote : Stub P AttributedProducer := setterRemote readInt32 setAlphaType

def setSingleBufferModeRemote : Stub P AttributedProducer :=
  setterRemote readInt32OrZero setSingleBufferModeChecked

/-- `memberFuncMap_`, as far as these calls go. -/
def memberFuncMap : ProducerCode → Option (Stub P AttributedProducer)
  | .getQueueSize => some getQueueSizeRemote
  | .setQueueSize => some setQueueSizeRemote
  | .getName => some getNameRemote
  | .getDefaultWidth => some getDefaultWidthRemote
  | .getDefaultHeight => some getDefaultHeightRemote
  | .getDefaultUsage => some getDefaultUsageRemote
  | .getUniqueId => some getUniqueIdRemote
  | .getNameAndUniqueId => some getNameAndUniqueIdRemote
  | .setScalingMode => some setScalingModeRemote
  | .getTransform => some getTransformRemote
  | .setDefaultUsage => some setDefaultUsageRemote
  | .setBufferHold => some setBufferHoldRemote
  | .setSourceType => some setSurfaceSourceTypeRemote
  | .getSourceType => some getSurfaceSourceTypeRemote
  | .setAppFrameworkType => some setSurfaceAppFrameworkTypeRemote
  | .getAppFrameworkType => some getSurfaceAppFrameworkTypeRemote
  | .setScalingModeV2 => some setScalingModeV2Remote
  | .setHdrWhitePointBrightness => some setHdrWhitePointBrightnessRemote
  | .setSdrWhitePointBrightness => some setSdrWhitePointBrightnessRemote
  | .releaseLastFlushedBuffer => some releaseLastFlushedBufferRemote
  | .setGlobalAlpha => some setGlobalAlphaRemote
  | .setRequestBufferNoblockMode => some setRequestBufferNoblockModeRemote
  | .setBufferName => some setBufferNameRemote
  | .getRotatingBuffersNumber => some getRotatingBuffersNumberRemote
  | .setRotatingBuffersNumber => some setRotatingBuffersNumberRemote
  | .setFrameGravity => some setFrameGravityRemote
  | .setFixedRotation => some setFixedRotationRemote
  | .connectStrictly => some connectStrictlyRemote
  | .disconnectStrictly => some disconnectStrictlyRemote
  | .setAlphaType => some setAlphaTypeRemote
  | .setSingleBufferMode => some setSingleBufferModeRemote
  | .setVideoDimensionType => some setVideoDimensionTypeRemote
  | .getVideoDimensionType => some getVideoDimensionTypeRemote
  | .unassigned _ => none

end Stubs

/-- `DEFAULT_NAME` of the proxy. -/
def defaultName : String := "not init"

/-- What a `BufferClientProducer` remembers of its queue. -/
structure BufferClientProducer where
  name : String := defaultName
  uniqueId : UInt64 := 0
deriving DecidableEq

namespace RemoteCall

/-- What the two macros of the proxy return. -/
def retOf : CallFailure → Int32
  | .message | .transport => GSError.binder.code
  | .noRemote => gsErrorServerError

def code : RemoteCall → ProducerCode
  | getQueueSize => .getQueueSize
  | setQueueSize _ => .setQueueSize
  | getName => .getName
  | getUniqueId => .getUniqueId
  | getNameAndUniqueId => .getNameAndUniqueId
  | getDefaultWidth => .getDefaultWidth
  | getDefaultHeight => .getDefaultHeight
  | setDefaultUsage _ => .setDefaultUsage
  | getDefaultUsage => .getDefaultUsage
  | connectStrictly => .connectStrictly
  | disconnectStrictly => .disconnectStrictly
  | setBufferScalingMode _ _ => .setScalingMode
  | setScalingMode _ => .setScalingModeV2
  | setVideoDimensionType _ => .setVideoDimensionType
  | getVideoDimensionType => .getVideoDimensionType
  | setBufferHold _ => .setBufferHold
  | setBufferName _ => .setBufferName
  | getTransform => .getTransform
  | setSurfaceSourceType _ => .setSourceType
  | getSurfaceSourceType => .getSourceType
  | setSurfaceAppFrameworkType _ => .setAppFrameworkType
  | getSurfaceAppFrameworkType => .getAppFrameworkType
  | setHdrWhitePointBrightness _ => .setHdrWhitePointBrightness
  | setSdrWhitePointBrightness _ => .setSdrWhitePointBrightness
  | releaseLastFlushedBuffer _ => .releaseLastFlushedBuffer
  | setGlobalAlpha _ => .setGlobalAlpha
  | setRequestBufferNoblockMode _ => .setRequestBufferNoblockMode
  | getCycleBuffersNumber => .getRotatingBuffersNumber
  | setCycleBuffersNumber _ => .setRotatingBuffersNumber
  | setFrameGravity _ => .setFrameGravity
  | setFixedRotation _ => .setFixedRotation
  | setAlphaType _ => .setAlphaType
  | setSingleBufferMode _ => .setSingleBufferMode

/-- What a getter without a code of its own makes of a number: a code of the proxy included. -/
def plainValue (v : Int32) : RemoteCall → Option AttributeValue
  | getQueueSize => some (.uint32 v.toUInt32)
  | getUniqueId | getDefaultUsage => some (.uint64 (.ofInt v.toInt))
  | getDefaultWidth | getDefaultHeight => some (.int32 v)
  | _ => none

def failed (c : RemoteCall) (failure : CallFailure) : AttributeAnswer :=
  match c.plainValue (retOf failure) with
  | some v => .ok v
  | none => .error (retOf failure)

def unread (c : RemoteCall) : AttributeAnswer :=
  match c.plainValue 0 with
  | some v => .ok v
  | none => .error GSError.binder.code

section Proxy

variable {P : Type} [Parcel P] [FloatParcel P]

open Parcel FloatParcel

def writeArguments : RemoteCall → Coded Unit P Unit
  | setQueueSize queueSize => writeUint32 queueSize
  | setDefaultUsage usage => writeUint64 usage
  | setBufferScalingMode sequence scalingMode => do
    writeUint32 sequence
    writeInt32 scalingMode
  | setScalingMode scalingMode => writeInt32 scalingMode
  | setVideoDimensionType videoDimType => writeInt32 videoDimType
  | setBufferHold hold => writeBool hold
  | setBufferName bufferName => writeString bufferName
  | setSurfaceSourceType sourceType => writeUint32 sourceType
  | setSurfaceAppFrameworkType appFrameworkType => writeString appFrameworkType
  | setHdrWhitePointBrightness brightness => writeFloat brightness
  | setSdrWhitePointBrightness brightness => writeFloat brightness
  | releaseLastFlushedBuffer sequence => writeUint32 sequence
  | setGlobalAlpha alpha => writeInt32 alpha
  | setRequestBufferNoblockMode noblock => writeBool noblock
  | setCycleBuffersNumber cycleBuffersNumber => writeUint32 cycleBuffersNumber
  | setFrameGravity frameGravity => writeInt32 frameGravity
  | setFixedRotation fixedRotation => writeInt32 fixedRotation
  | setAlphaType alphaType => writeInt32 alphaType
  | setSingleBufferMode mode => writeInt32 mode
  | _ => pure ()

/-- `CheckRetval`, and what the call reads after it. -/
def readChecked (read : Coded Unit P AttributeValue) : Coded Unit P AttributeAnswer := do
  let ret ← readInt32
  if ret ≠ GSError.ok.code then pure (.error ret)
  else do
    let v ← read
    pure (.ok v)

def readValue {β : Type} (read : Coded Unit P β) (value : β → AttributeValue) :
    Coded Unit P AttributeValue := do
  let v ← read
  pure (value v)

def readNameAndUniqueId : Coded Unit P AttributeValue := do
  let name ← readString
  let uniqueId ← readUint64
  pure (.nameAndUniqueId name uniqueId)

def readPlain (read : Coded Unit P AttributeValue) : Coded Unit P AttributeAnswer := do
  let v ← read
  pure (.ok v)

def readReply : RemoteCall → Coded Unit P AttributeAnswer
  | getQueueSize => readPlain (readValue readUint32 .uint32)
  | getName => readChecked (readValue readString .string)
  | getUniqueId => readPlain (readValue readUint64 .uint64)
  | getNameAndUniqueId => readChecked readNameAndUniqueId
  | getDefaultWidth => readPlain (readValue readInt32 .int32)
  | getDefaultHeight => readPlain (readValue readInt32 .int32)
  | getDefaultUsage => readPlain (readValue readUint64 .uint64)
  | getVideoDimensionType => readChecked (readValue readInt32OrZero .int32)
  | getTransform => readChecked (readValue readUint32 .uint32)
  | getSurfaceSourceType => readChecked (readValue readUint32 .uint32)
  | getSurfaceAppFrameworkType => readChecked (readValue readString .string)
  | getCycleBuffersNumber => readChecked (readValue readUint32 .uint32)
  | _ => readChecked (pure .nothing)

def exchange (c : RemoteCall) (connection : Connection P) (s : AttributedProducer) :
    Except CallFailure AttributeAnswer × AttributedProducer :=
  match connection.send memberFuncMap c.code c.writeArguments s with
  | (.error failure, s) => (.error failure, s)
  | (.ok reply, s) =>
    match c.readReply reply with
    | (.ok answer, _) => (.ok answer, s)
    | (.error _, _) => (.ok c.unread, s)

end Proxy

end RemoteCall

namespace BufferClientProducer

/-- The answer that the proxy has without asking. -/
def remembered (client : BufferClientProducer) : RemoteCall → Option AttributeValue
  | .getName => if client.name ≠ defaultName then some (.string client.name) else none
  | .getUniqueId => if client.uniqueId ≠ 0 then some (.uint64 client.uniqueId) else none
  | .getNameAndUniqueId =>
    if client.uniqueId ≠ 0 ∧ client.name ≠ defaultName then
      some (.nameAndUniqueId client.name client.uniqueId)
    else none
  | _ => none

def remember (client : BufferClientProducer) : RemoteCall → AttributeAnswer → BufferClientProducer
  | .getName, .ok (.string name) => { client with name := name }
  | .getUniqueId, .ok (.uint64 uniqueId) => { client with uniqueId := uniqueId }
  | .getNameAndUniqueId, .ok (.nameAndUniqueId name uniqueId) => ⟨name, uniqueId⟩
  | _, _ => client

variable {P : Type} [Parcel P] [FloatParcel P]

def call (client : BufferClientProducer) (c : RemoteCall) (connection : Connection P)
    (s : AttributedProducer) : AttributeAnswer × BufferClientProducer × AttributedProducer :=
  match client.remembered c with
  | some v => (.ok v, client, s)
  | none =>
    match c.exchange connection s with
    | (.error failure, s) => (c.failed failure, client, s)
    | (.ok answer, s) => (answer, client.remember c answer, s)

end BufferClientProducer

/-! What one exchange does, by the shape of the method. -/

namespace RemoteCall

section Carried

variable {P F β : Type} {view : View P F}

theorem carries_plain {write : β → Coded Unit P Unit} {read : Coded Unit P AttributeValue}
    {value : β → AttributeValue} (h : view.Carries write read value) :
    view.Carries write (readPlain read) fun b => .ok (value b) :=
  h.map fun v => (.ok v : AttributeAnswer)

variable [Parcel P] (fifo : Fifo P F)

theorem carries_ret :
    fifo.Carries writeRet (readChecked (pure .nothing)) AttributeAnswer.ofRet := by
  intro ret
  refine ⟨_, fifo.write_int32 ret.code, fun r => (fifo.reads_int32 r ret.code).finish ?_⟩
  rintro _ r' _ rfl
  unfold AttributeAnswer.ofRet
  by_cases hok : ret = .ok
  · rw [if_neg (not_not.mpr (GSError.code_eq_ok.mpr hok)), if_pos hok]
    exact View.Reads.pure rfl
  · rw [if_pos fun hcode => hok (GSError.code_eq_ok.mp hcode), if_neg hok]
    exact View.Reads.pure rfl

theorem carries_checked {write : β → Coded Unit P Unit} {read : Coded Unit P AttributeValue}
    {value : β → AttributeValue} (h : fifo.Carries write read value) :
    fifo.Carries (writeChecked write) (readChecked read) fun b => .ok (value b) := by
  intro b
  obtain ⟨words, hwrites, hreads⟩ := h b
  refine ⟨_, (fifo.write_int32 GSError.ok.code).seq hwrites, fun r =>
    (fifo.reads_int32 r GSError.ok.code).next fun r' _ => ?_⟩
  rw [if_neg (not_not.mpr rfl)]
  exact (hreads r').last fun v _ _ hv => congrArg Except.ok hv

/-- `ReadInt32` without an out parameter reads what lies there. -/
theorem carries_int32OrZero : fifo.Carries Parcel.writeInt32 readInt32OrZero id := by
  intro v
  refine ⟨_, fifo.write_int32 v, fun r rest hr => ?_⟩
  obtain ⟨a, r', hread, hrest, hkeeps, rfl⟩ := fifo.reads_int32 r v rest hr
  refine ⟨a, r', ?_, hrest, hkeeps, rfl⟩
  simp only [readInt32OrZero, hread]

theorem carries_sequenceAndMode :
    fifo.Carries (fun a : UInt32 × Int32 => do
      Parcel.writeUint32 a.1
      Parcel.writeInt32 a.2) readSequenceAndMode id := fun a =>
  ⟨_, (fifo.write_uint32 a.1).seq (fifo.write_int32 a.2), fun r =>
    (fifo.reads_uint32 r a.1).next fun r' _ =>
      (fifo.reads_int32 r' a.2).last fun _ _ _ hmode => Prod.ext rfl hmode⟩

theorem carries_nameAndUniqueId :
    fifo.Carries writeNameAndUniqueId readNameAndUniqueId fun v => .nameAndUniqueId v.1 v.2 :=
  fun v => ⟨_, (fifo.write_string v.1).seq (fifo.write_uint64 v.2), fun r =>
    (fifo.read_string r v.1).next fun r' _ =>
      (fifo.reads_uint64 r' v.2).last fun _ _ _ hid => congrArg _ hid⟩

end Carried

variable {P F : Type} [Parcel P] [FloatParcel P] {c : RemoteCall} {s : AttributedProducer}
  {connection : Connection P} {view : View P F}

theorem carries_float (fifo : FloatFifo P F) :
    fifo.Carries FloatParcel.writeFloat FloatParcel.readFloat id := fun v =>
  ⟨_, fifo.write_float v, fun r => fifo.read_float r v⟩

/-- Without an answer the call may have happened; with one it has, and the answer is its own. -/
def ExchangedFor (c : RemoteCall) (s : AttributedProducer)
    (r : Except CallFailure AttributeAnswer × AttributedProducer) : Prop :=
  (∃ failure, r.1 = .error failure ∧ (r.2 = s ∨ r.2 = (s.performRemote c).2)) ∨
    r = (.ok (s.performRemote c).1, (s.performRemote c).2)

theorem exchange_of {α α' β : Type} {a : α} {write : α → Coded Unit P Unit}
    {request : Coded Unit P α'} {call : AttributedProducer → α' → β × AttributedProducer}
    {writeReply : β → Coded Unit P Unit} {f : α → α'} {g : β → AttributeAnswer}
    (h : connection.Conveys view)
    (hstub : memberFuncMap c.code = some (Stub.of request call writeReply))
    (hwrite : c.writeArguments = write a) (hrequest : view.Carries write request f)
    (hreply : view.Carries writeReply c.readReply g)
    (hperform : s.performRemote c = (g (call s (f a)).1, (call s (f a)).2)) :
    c.ExchangedFor s (c.exchange connection s) := by
  have hcases := Connection.send_cases h hstub hrequest hreply a s
  unfold exchange ExchangedFor
  rw [hwrite, hperform]
  generalize connection.send memberFuncMap c.code (write a) s = sent at hcases
  obtain ⟨result, s'⟩ := sent
  rcases hcases with ⟨failure, rfl, hstate⟩ | ⟨rfl, reply, rfl, hread⟩
  · exact .inl ⟨failure, rfl, hstate⟩
  · refine .inr ?_
    dsimp only
    rw [Coded.eq_of_fst hread]

theorem exchange_setter {fifo : FloatFifo P F} (h : connection.Conveys fifo.toView)
    {α α' : Type} {a : α} {write : α → Coded Unit P Unit} {request : Coded Unit P α'} {f : α → α'}
    {set : AttributedProducer → α' → GSError × AttributedProducer}
    (hrequest : fifo.Carries write request f)
    (hstub : memberFuncMap c.code = some (setterRemote request set))
    (hwrite : c.writeArguments = write a)
    (hread : (c.readReply : Coded Unit P AttributeAnswer) = readChecked (pure .nothing))
    (hperform : s.performRemote c = AttributedProducer.returned (set s (f a))) :
    c.ExchangedFor s (c.exchange connection s) :=
  exchange_of h hstub hwrite hrequest (hread ▸ carries_ret fifo.toFifo) hperform

theorem exchange_getter (h : connection.Conveys view) {β : Type} {get : AttributedProducer → β}
    {writeReply : β → Coded Unit P Unit} {g : β → AttributeAnswer}
    (hreply : view.Carries writeReply c.readReply g)
    (hstub : memberFuncMap c.code = some (getterRemote get writeReply))
    (hwrite : c.writeArguments = (pure () : Coded Unit P Unit))
    (hperform : s.performRemote c = (g (get s), s)) : c.ExchangedFor s (c.exchange connection s) :=
  exchange_of (a := ()) h hstub hwrite
    (View.Carries.nothing : view.Carries (fun _ : Unit => (pure () : Coded Unit P Unit)) _ _) hreply
    hperform

theorem exchange_spec {fifo : FloatFifo P F} (h : connection.Conveys fifo.toView) (c : RemoteCall)
    (s : AttributedProducer) : c.ExchangedFor s (c.exchange connection s) := by
  have plain {β : Type} {write : β → Coded Unit P Unit} {read : Coded Unit P β} {f : β → β}
      (hvalue : fifo.Carries write read f) (value : β → AttributeValue) :=
    carries_plain (hvalue.map value)
  have checked {β : Type} {write : β → Coded Unit P Unit} {read : Coded Unit P β} {f : β → β}
      (hvalue : fifo.Carries write read f) (value : β → AttributeValue) :=
    carries_checked fifo.toFifo (hvalue.map value)
  have nothing :
      fifo.Carries (fun _ : Unit => (pure () : Coded Unit P Unit)) (pure ()) fun _ => () :=
    View.Carries.nothing
  cases c with
  | getQueueSize => exact exchange_getter h (plain fifo.carries_int32_uint32 .uint32) rfl rfl rfl
  | setQueueSize => exact exchange_setter h fifo.carries_uint32 rfl rfl rfl rfl
  | getName => exact exchange_getter h (checked fifo.carries_string .string) rfl rfl rfl
  | getUniqueId => exact exchange_getter h (plain fifo.carries_uint64 .uint64) rfl rfl rfl
  | getNameAndUniqueId =>
    exact exchange_getter h (carries_checked _ (carries_nameAndUniqueId fifo.toFifo)) rfl rfl rfl
  | getDefaultWidth => exact exchange_getter h (plain fifo.carries_int32 .int32) rfl rfl rfl
  | getDefaultHeight => exact exchange_getter h (plain fifo.carries_int32 .int32) rfl rfl rfl
  | setDefaultUsage => exact exchange_setter h fifo.carries_uint64 rfl rfl rfl rfl
  | getDefaultUsage => exact exchange_getter h (plain fifo.carries_uint64 .uint64) rfl rfl rfl
  | connectStrictly =>
    exact exchange_setter (a := ()) h nothing rfl rfl rfl rfl
  | disconnectStrictly =>
    exact exchange_setter (a := ()) h nothing rfl rfl rfl rfl
  | setBufferScalingMode sequence scalingMode =>
    exact exchange_setter (a := (sequence, scalingMode)) h (carries_sequenceAndMode fifo.toFifo)
      rfl rfl rfl rfl
  | setScalingMode => exact exchange_setter h fifo.carries_int32 rfl rfl rfl rfl
  | setVideoDimensionType =>
    exact exchange_setter h (carries_int32OrZero fifo.toFifo) rfl rfl rfl rfl
  | getVideoDimensionType =>
    exact exchange_getter h (checked (carries_int32OrZero fifo.toFifo) .int32) rfl rfl rfl
  | setBufferHold => exact exchange_setter h fifo.carries_bool rfl rfl rfl rfl
  | setBufferName => exact exchange_setter h fifo.carries_string rfl rfl rfl rfl
  | getTransform => exact exchange_getter h (checked fifo.carries_uint32 .uint32) rfl rfl rfl
  | setSurfaceSourceType =>
    exact exchange_setter h fifo.carries_uint32 rfl rfl rfl rfl
  | getSurfaceSourceType =>
    exact exchange_getter h (checked fifo.carries_uint32 .uint32) rfl rfl rfl
  | setSurfaceAppFrameworkType =>
    exact exchange_setter h fifo.carries_string rfl rfl rfl rfl
  | getSurfaceAppFrameworkType =>
    exact exchange_getter h (checked fifo.carries_string .string) rfl rfl rfl
  | setHdrWhitePointBrightness =>
    exact exchange_setter h (carries_float fifo) rfl rfl rfl rfl
  | setSdrWhitePointBrightness =>
    exact exchange_setter h (carries_float fifo) rfl rfl rfl rfl
  | releaseLastFlushedBuffer =>
    exact exchange_setter h fifo.carries_uint32 rfl rfl rfl rfl
  | setGlobalAlpha => exact exchange_setter h fifo.carries_int32 rfl rfl rfl rfl
  | setRequestBufferNoblockMode =>
    exact exchange_setter h fifo.carries_bool rfl rfl rfl rfl
  | getCycleBuffersNumber =>
    exact exchange_getter h (checked fifo.carries_uint32 .uint32) rfl rfl rfl
  | setCycleBuffersNumber =>
    exact exchange_setter h fifo.carries_uint32 rfl rfl rfl rfl
  | setFrameGravity => exact exchange_setter h fifo.carries_int32 rfl rfl rfl rfl
  | setFixedRotation => exact exchange_setter h fifo.carries_int32 rfl rfl rfl rfl
  | setAlphaType => exact exchange_setter h fifo.carries_int32 rfl rfl rfl rfl
  | setSingleBufferMode =>
    exact exchange_setter h (carries_int32OrZero fifo.toFifo) rfl rfl rfl rfl

end RemoteCall

end GraphicSurface
