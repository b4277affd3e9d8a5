import Mathlib.Tactic

/-! The records shared by the producer, the queue and the consumer.
Error codes keep the names of `graphic_common_c.h`; the `SURFACE_ERROR_*` spellings are
aliases there and are written here as the code they stand for (`SURFACE_ERROR_UNKOWN` is
`internal`). Enumerations that a caller can fill with any integer (colour gamut, transform,
scaling mode) stay integers, so that a check on them has something to reject. -/

namespace GraphicSurface

inductive GSError
  | ok
  | invalidArguments
  | noPermission
  | noBuffer
  | noEntry
  | outOfRange
  | noBufferReady
  | invalidOperating
  | noConsumer
  | notInit
  | typeError
  | consumerIsConnected
  | bufferStateInvalid
  | bufferIsIncache
  | bufferQueueFull
  | bufferNotIncache
  | consumerDisconnected
  | consumerUnregisterListener
  | apiFailed
  | internal
  | hdiError
  | notSupport
  | binder
deriving DecidableEq, Repr

inductive BufferState
  | released
  | requested
  | flushed
  | acquired
  | attached
deriving DecidableEq, Repr

inductive InvokerType
  | producerInvoker
  | consumerInvoker
deriving DecidableEq, Repr

def surfaceDefaultQueueSize : ℕ := 3
def surfaceMaxQueueSize : ℕ := 64
def surfaceMaxUserDataCount : ℕ := 1000
def invalidSequence : ℕ := 0xFFFFFFFF
def oneSecondTimestamp : Int := 1000000000
def bufferUsageCpuWrite : ℕ := 1 <<< 1
def bufferUsageProtected : ℕ := 1 <<< 11
def singleBufferModeNone : Int := 0

structure Rect where
  x : Int
  y : Int
  w : Int
  h : Int
deriving DecidableEq, Repr

structure BufferRequestConfig where
  width : Int
  height : Int
  strideAlignment : Int
  format : Int
  usage : ℕ
  timeout : Int
  colorGamut : Int
  transform : Int
  sourceType : Int
deriving DecidableEq, Repr

/-- `operator ==` of `BufferRequestConfig`: only these four fields are compared. -/
def BufferRequestConfig.same (a b : BufferRequestConfig) : Bool :=
  a.width == b.width && a.height == b.height && a.format == b.format && a.usage == b.usage

@[simp] theorem BufferRequestConfig.same_refl (c : BufferRequestConfig) : c.same c = true := by
  simp [BufferRequestConfig.same]

theorem BufferRequestConfig.same_comm (a b : BufferRequestConfig) : a.same b = b.same a := by
  simp only [BufferRequestConfig.same, Bool.beq_comm]

structure BufferFlushConfigWithDamages where
  damages : List Rect
  timestamp : Int
  desiredPresentTimestamp : Int
deriving DecidableEq, Repr

/-- A fence is its descriptor together with the points that still have to signal. -/
structure SyncFence where
  fenceFd : Int
  points : Finset ℕ
deriving DecidableEq

def SyncFence.isValid (f : SyncFence) : Bool := f.fenceFd != -1

def invalidFence : SyncFence := ⟨-1, ∅⟩

/-- `SyncFence::MergeFence`. The descriptor of the merged file comes from the kernel and is an
argument; `-1` stands for a merge that failed. -/
def SyncFence.mergeFence (newFenceFd : Int) (fence1 fence2 : Option SyncFence) : SyncFence :=
  match fence1, fence2 with
  | some f1, some f2 =>
    if f1.fenceFd < 0 ∧ f2.fenceFd < 0 then invalidFence
    else if newFenceFd = -1 then invalidFence
    else if f1.fenceFd < 0 then ⟨newFenceFd, f2.points⟩
    else if f2.fenceFd < 0 then ⟨newFenceFd, f1.points⟩
    else ⟨newFenceFd, f1.points ∪ f2.points⟩
  | _, _ => invalidFence

inductive ExtraValue
  | i32 (value : Int)
  | i64 (value : Int)
  | f64 (bits : ℕ)
  | string (value : String)
deriving DecidableEq, Repr

/-- `BufferExtraDataImpl::datas_`. -/
abbrev ExtraData := Std.ExtTreeMap String ExtraValue

/-- The overload of `ExtraGet` for `int32_t`, as far as the value goes: `none` when the entry is
absent or of another type, in which case the caller's variable is left alone. -/
def ExtraData.getInt32 (d : ExtraData) (key : String) : Option Int :=
  match d[key]? with
  | some (.i32 v) => some v
  | _ => none

def bufferSupportFastComposeKey : String := "SupportFastCompose"

/-- The part of a `SurfaceBufferImpl` that the queue and its two surfaces read or write.
`object` tells two objects apart that carry the same sequence number. -/
structure SurfaceBuffer where
  object : ℕ
  seqNum : ℕ
  width : Int
  height : Int
  format : Int
  usage : ℕ
  bufferRequestConfig : BufferRequestConfig
  surfaceBufferColorGamut : Int
  surfaceBufferTransform : Int
  surfaceBufferScalingMode : Int
  surfaceBufferVideoDimensionType : Int
  surfaceBufferWidth : Int
  surfaceBufferHeight : Int
  singleBufferMode : Int
  extraData : Option ExtraData
  syncFence : Option SyncFence
  consumerAttachBufferFlag : Bool
deriving DecidableEq

structure BufferElement where
  buffer : SurfaceBuffer
  state : BufferState
  isDeleting : Bool
  config : BufferRequestConfig
  fence : Option SyncFence
  timestamp : Int
  damages : List Rect
  desiredPresentTimestamp : Int
  isAutoTimestamp : Bool
  isPreAllocBuffer : Bool
  lastAcquireTime : Int
  requestedFromListenerClientPid : Int
deriving DecidableEq

/-- `BufferElement ele = { .buffer = …, .state = … }`: the members that an initialiser leaves out
are value-initialised. -/
def BufferElement.init (buffer : SurfaceBuffer) (state : BufferState)
    (config : BufferRequestConfig) (fence : Option SyncFence) : BufferElement where
  buffer := buffer
  state := state
  isDeleting := false
  config := config
  fence := fence
  timestamp := 0
  damages := []
  desiredPresentTimestamp := 0
  isAutoTimestamp := false
  isPreAllocBuffer := false
  lastAcquireTime := 0
  requestedFromListenerClientPid := 0

/-- `IBufferProducer::RequestBufferReturnValue`. -/
structure RequestBufferReturnValue where
  sequence : ℕ
  buffer : Option SurfaceBuffer
  fence : Option SyncFence
  deletingBuffers : List ℕ
  isConnected : Bool
deriving DecidableEq

def RequestBufferReturnValue.empty : RequestBufferReturnValue := ⟨0, none, none, [], false⟩

end GraphicSurface
