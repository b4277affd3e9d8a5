import GraphicSurface.ExtraDataCodec
import GraphicSurface.HandleCodec
import GraphicSurface.Producer
import GraphicSurface.RequestOutcome

/-! Requests over IPC. The client sends a configuration, the stub asks the queue and writes what it
got into the reply, and the client reads the reply. When one of the last two fails, the queue has
already changed. -/

namespace GraphicSurface

open Parcels

/-- The numbers of `graphic_common_c.h`. -/
def GSError.code : GSError → Int32
  | ok => 0
  | invalidArguments => 40001000
  | noPermission => 40301000
  | noBuffer => 40601000
  | noEntry => 40602000
  | outOfRange => 40603000
  | noBufferReady => 40605000
  | invalidOperating => 41201000
  | noConsumer => 41202000
  | notInit => 41203000
  | typeError => 41204000
  | consumerIsConnected => 41206000
  | bufferStateInvalid => 41207000
  | bufferIsIncache => 41208000
  | bufferQueueFull => 41209000
  | bufferNotIncache => 41210000
  | consumerDisconnected => 41211000
  | consumerUnregisterListener => 41212000
  | apiFailed => 50001000
  | internal => 50002000
  | hdiError => 50007000
  | notSupport => 50102000
  | binder => 50401000

theorem GSError.code_eq_ok {ret : GSError} : ret.code = GSError.ok.code ↔ ret = .ok := by
  cases ret <;> decide

def gsErrorServerError : Int32 := 50005000

structure OriginalFields where
  hasOriginalFields : Bool
  originalWidth : Int32
  originalHeight : Int32
  originalSize : Int32
  originalStride : Int32
deriving DecidableEq

def OriginalFields.absent : OriginalFields := ⟨false, 0, 0, 0, 0⟩

/-- What a `SurfaceBufferImpl` sends of itself. -/
structure BufferMemory where
  handle : Option BufferHandle
  original : OriginalFields
deriving DecidableEq

/-- What a client has after a request: the buffer comes with the configuration it was made for. -/
structure Received where
  sequence : UInt32
  buffer : Option (BufferMemory × BufferRequestConfig)
  bedata : ExtraData
  fence : Int32
  deletingBuffers : List UInt32

/-- The code that a client returns, and `retval.isConnected`. -/
structure RemoteError where
  ret : Int32
  isConnected : Bool
deriving DecidableEq

def RemoteError.of (ret : GSError) : RemoteError := ⟨ret.code, false⟩

section Codec

variable {P : Type} [Parcel P]

open Parcel

def writeOriginalFields (original : OriginalFields) : Coded Unit P Unit := do
  writeBool original.hasOriginalFields
  writeInt32 original.originalWidth
  writeInt32 original.originalHeight
  writeInt32 original.originalSize
  writeInt32 original.originalStride

/-- `SurfaceBufferImpl::WriteToMessageParcel`; nobody looks at the code with which it fails. -/
def writeToMessageParcel (memory : BufferMemory) : Coded Unit P Unit :=
  match memory.handle with
  | none => .fail ()
  | some handle => do
    writeBufferHandle handle
    writeOriginalFields memory.original

def writeSurfaceBufferImpl (sequence : ℕ) (buffer : Option BufferMemory) : Coded Unit P Unit := do
  writeUint32 (.ofNat sequence)
  writeBool buffer.isSome
  match buffer with
  | none => pure ()
  | some memory => writeToMessageParcel memory

/-- `badFd` is what `fcntl` says about the descriptors of the server. -/
def writeFence (badFd : Int32 → Bool) (fence : SyncFence) : Coded Unit P Unit :=
  let fd : Int32 := .ofInt fence.fenceFd
  let fd := if 0 ≤ fd ∧ badFd fd then -1 else fd
  do
    writeInt32 fd
    if fd < 0 then pure () else writeFileDescriptor fd

/-- What goes into the reply for a buffer. `memory` is what an object sends of itself. Through extra
data or a fence that is a null pointer the server ends, and there is no reply. -/
def writeGranted (memory : ℕ → BufferMemory) (badFd : Int32 → Bool) (reply : RequestReply) :
    Coded Unit P Unit := do
  writeSurfaceBufferImpl reply.retval.sequence (reply.retval.buffer.map fun b => memory b.object)
  (match reply.retval.buffer with
    | none => pure ()
    | some b => writeUint64 (.ofNat b.bufferRequestConfig.usage))
  (match reply.bedata with
    | none => .fail ()
    | some bedata => bedata.writeToParcel.orFail ())
  (match reply.retval.fence with
    | none => .fail ()
    | some fence => writeFence badFd fence)
  writeUInt32Vector (reply.retval.deletingBuffers.map .ofNat)

def writeReply (memory : ℕ → BufferMemory) (badFd : Int32 → Bool) (reply : RequestReply) :
    Coded Unit P Unit := do
  writeInt32 reply.ret.code
  if reply.ret = .ok then writeGranted memory badFd reply else writeBool reply.retval.isConnected

def readHandle (heap : Bool) : Coded Unit P BufferHandle := fun p =>
  match readBufferHandle heap none (.start p) with
  | (result, s) => (result, s.parcel)

def readOriginalFields : Coded Unit P OriginalFields := do
  let hasOriginalFields ← readBool
  let originalWidth ← readInt32
  let originalHeight ← readInt32
  let originalSize ← readInt32
  let originalStride ← readInt32
  pure ⟨hasOriginalFields, originalWidth, originalHeight, originalSize, originalStride⟩

/-- A buffer whose original fields could not be read is taken as one without them. -/
def readMemory (heap : Bool) : Coded Unit P BufferMemory := do
  let handle ← readHandle heap
  fun p =>
    match readOriginalFields p with
    | (.ok original, p) => (.ok ⟨some handle, original⟩, p)
    | (.error _, p) => (.ok ⟨some handle, .absent⟩, p)

def readSurfaceBufferImpl (heap : Bool) : Coded Unit P (UInt32 × Option BufferMemory) := do
  let sequence ← readUint32
  let hasBuffer ← readBool
  if hasBuffer then do
    let memory ← readMemory heap
    pure (sequence, some memory)
  else pure (sequence, none)

/-- `ReadInt32` without an out parameter gives `0` when it fails, which is taken for a fence. -/
def readFence {E : Type} : Coded E P Int32 := fun p =>
  let (fence, p) : Int32 × P := match readInt32 p with
    | (.ok fence, p) => (fence, p)
    | (.error _, p) => (0, p)
  if fence < 0 then (.ok (-1), p)
  else
    let (fd, p) := readFileDescriptor p
    (.ok fd, p)

def readRefusal (ret : Int32) : Coded RemoteError P Received := fun p =>
  match readBool p with
  | (.ok isConnected, p) => (.error ⟨ret, isConnected⟩, p)
  | (.error _, p) => (.error ⟨ret, false⟩, p)

def readUsage (config : BufferRequestConfig) :
    Option BufferMemory → Coded RemoteError P (Option (BufferMemory × BufferRequestConfig))
  | none => pure none
  | some memory => do
    let usage ← readUint64.orFail (.of .binder)
    pure (some (memory, { config with usage := usage.toNat }))

def readGranted (heap : Bool) (config : BufferRequestConfig) : Coded RemoteError P Received := do
  let (sequence, memory) ← (readSurfaceBufferImpl heap).orFail (.of .internal)
  let buffer ← readUsage config memory
  let bedata ← ExtraData.readFromParcel.orFail (.of .internal)
  let fence ← readFence
  let deletingBuffers ← readUInt32Vector.orFail (.of .binder)
  pure ⟨sequence, buffer, bedata, fence, deletingBuffers⟩

/-- `RequestBufferCommon` after `SendRequest`. -/
def readReply (heap : Bool) (config : BufferRequestConfig) : Coded RemoteError P Received := do
  let ret ← readInt32.orFail (.of .binder)
  if ret ≠ GSError.ok.code then readRefusal ret else readGranted heap config

end Codec

/-- The two calls that share `RequestBufferCommon` and have stubs of the same text. -/
inductive RequestMethod
  | requestBuffer
  | requestAndDetachBuffer
deriving DecidableEq

def RequestMethod.call : RequestMethod → BufferQueueProducer → Int → BufferRequestConfig →
    Allocation → RequestReply × BufferQueueProducer
  | requestBuffer => BufferQueueProducer.requestBuffer
  | requestAndDetachBuffer => BufferQueueProducer.requestAndDetachBuffer

/-- What lies between a client and the producer: their fresh parcels, the transport of the request
and of its answer, and what the two processes know about memory and descriptors. -/
structure Channel (P : Type) where
  arguments : P
  reply : P
  writeInterfaceToken : Coded Unit P Unit
  checkInterfaceToken : P → Bool × P
  remote : Bool
  deliver : P → Option P
  answer : P → Option P
  memory : ℕ → BufferMemory
  badFd : Int32 → Bool
  heap : Bool

/-- `BufferRequestConfig config = {}`. -/
def emptyRequestConfig : BufferRequestConfig := ⟨0, 0, 0, 0, 0, 0, 4, 0, 1⟩

namespace Channel

variable {P : Type} [Parcel P] (channel : Channel P)

def writeArguments (config : BufferRequestConfig) : Coded RemoteError P Unit := do
  channel.writeInterfaceToken.orFail (.of .binder)
  (writeRequestConfig config).orFail (.of .binder)

/-- The configuration that the stub reads; without one it gives up. -/
def readArguments (arguments : P) : Option BufferRequestConfig :=
  match channel.checkInterfaceToken arguments with
  | (false, _) => none
  | (true, arguments) => (readRequestConfig emptyRequestConfig arguments).1.toOption

/-- `RequestBufferRemote` and `RequestAndDetachBufferRemote`, with the reply if they end with
`ERR_NONE`. -/
def stub (method : RequestMethod) (s : BufferQueueProducer) (callingPid : Int) (a : Allocation)
    (arguments : P) : Option P × BufferQueueProducer :=
  match channel.readArguments arguments with
  | none => (none, s)
  | some config =>
    match method.call s callingPid config a with
    | (reply, s) =>
      match writeReply channel.memory channel.badFd reply channel.reply with
      | (.ok _, p) => (some p, s)
      | (.error _, _) => (none, s)

/-- `BufferClientProducer::RequestBufferCommon`, with what it does to the producer. -/
def requestBufferCommon (method : RequestMethod) (config : BufferRequestConfig)
    (s : BufferQueueProducer) (callingPid : Int) (a : Allocation) :
    Except RemoteError Received × BufferQueueProducer :=
  match channel.writeArguments config channel.arguments with
  | (.error e, _) => (.error e, s)
  | (.ok _, arguments) =>
    if !channel.remote then (.error ⟨gsErrorServerError, false⟩, s)
    else
      match channel.deliver arguments with
      | none => (.error (.of .binder), s)
      | some arguments =>
        match channel.stub method s callingPid a arguments with
        | (none, s) => (.error (.of .binder), s)
        | (some reply, s) =>
          match channel.answer reply with
          | none => (.error (.of .binder), s)
          | some reply => ((readReply channel.heap config reply).1, s)

/-- The configuration with which the request gets to the producer, if it does. -/
def arrives (config : BufferRequestConfig) : Option BufferRequestConfig :=
  match channel.writeArguments config channel.arguments with
  | (.error _, _) => none
  | (.ok _, arguments) =>
    if !channel.remote then none else (channel.deliver arguments).bind channel.readArguments

/-- The request is not let in, or the queue reuses no buffer for it, and inserts none that stays. -/
def LeavesNothing (method : RequestMethod) (config : BufferRequestConfig) (s : BufferQueueProducer)
    (callingPid : Int) (a : Allocation) : Prop :=
  ∀ arrived, channel.arrives config = some arrived → (s.connect callingPid).1 = .ok →
    s.bufferQueue.reusedBuffer arrived = none ∧
      (method = .requestAndDetachBuffer ∨ s.bufferQueue.getsNewBuffer arrived a = false)

theorem stub_producer (method : RequestMethod) (s : BufferQueueProducer) (callingPid : Int)
    (a : Allocation) (arguments : P) :
    (channel.stub method s callingPid a arguments).2 =
      match channel.readArguments arguments with
      | none => s
      | some arrived => (method.call s callingPid arrived a).2 := by
  unfold stub
  cases channel.readArguments arguments with
  | none => rfl
  | some arrived =>
    dsimp only
    cases writeReply channel.memory channel.badFd (method.call s callingPid arrived a).1
      channel.reply with
    | mk written p => cases written <;> rfl

theorem requestBufferCommon_producer (method : RequestMethod) (config : BufferRequestConfig)
    (s : BufferQueueProducer) (callingPid : Int) (a : Allocation) :
    (channel.requestBufferCommon method config s callingPid a).2 =
      match channel.arrives config with
      | none => s
      | some arrived => (method.call s callingPid arrived a).2 := by
  unfold requestBufferCommon arrives
  cases channel.writeArguments config channel.arguments with
  | mk written arguments =>
    cases written with
    | error e => rfl
    | ok _ =>
      dsimp only
      cases channel.remote with
      | false => rfl
      | true =>
        simp only [Bool.not_true, Bool.false_eq_true, if_false]
        cases channel.deliver arguments with
        | none => rfl
        | some arguments =>
          rw [Option.bind_some, ← channel.stub_producer method s callingPid a arguments]
          dsimp only
          cases channel.stub method s callingPid a arguments with
          | mk reply s' =>
            cases reply with
            | none => rfl
            | some reply =>
              dsimp only
              cases channel.answer reply <;> rfl

end Channel

/-! The pid that a connection leaves in the queue is not what a request looks at. -/

namespace BufferQueue

variable (q : BufferQueue) (pid : Int)

theorem popFromFreeListLocked_setConnectedPidLocked (config : BufferRequestConfig) :
    ((q.configure (.setConnectedPidLocked pid)).popFromFreeListLocked config).1 =
      (q.popFromFreeListLocked config).1 := by
  have hfront : ((q.configure (.setConnectedPidLocked pid)).popFrontFree config).1 =
      (q.popFrontFree config).1 := by
    unfold popFrontFree
    rw [show (q.configure (.setConnectedPidLocked pid)).rotateLocked = q.rotateLocked from rfl]
    cases q.rotateLocked with
    | nil => rfl
    | cons front rest =>
      dsimp only
      rw [show (q.configure (.setConnectedPidLocked pid)).bufferQueueCache = q.bufferQueueCache from rfl]
      cases q.bufferQueueCache.find front <;> rfl
  unfold popFromFreeListLocked
  rw [show (q.configure (.setConnectedPidLocked pid)).freeList.find?
    ((q.configure (.setConnectedPidLocked pid)).reusable config) =
      q.freeList.find? (q.reusable config) from rfl]
  cases q.freeList.find? (q.reusable config) with
  | some sequence => rfl
  | none =>
    change (if q.freeList = [] ∨ q.getUsedSize < q.unreservedSize ∨
      q.freeList = [q.acquireLastFlushedBufSequence] then _ else _ : Option SurfaceBuffer × _).1 = _
    dsimp only
    split_ifs
    · rfl
    · exact hfront

theorem popFromDirtyListLocked_setConnectedPidLocked :
    (q.configure (.setConnectedPidLocked pid)).popFromDirtyListLocked.1 =
      q.popFromDirtyListLocked.1 := by
  unfold popFromDirtyListLocked
  rw [show (q.configure (.setConnectedPidLocked pid)).dirtyList = q.dirtyList from rfl]
  cases q.dirtyList with
  | nil => rfl
  | cons front rest =>
    dsimp only
    rw [show (q.configure (.setConnectedPidLocked pid)).bufferQueueCache = q.bufferQueueCache from rfl]
    cases q.bufferQueueCache.find front <;> rfl

theorem reusedBuffer_setConnectedPidLocked (config : BufferRequestConfig) :
    (q.configure (.setConnectedPidLocked pid)).reusedBuffer config = q.reusedBuffer config := by
  unfold reusedBuffer
  rw [popFromDirtyListLocked_setConnectedPidLocked]
  simp only [popFromFreeListLocked_setConnectedPidLocked]
  rfl

end BufferQueue

section Leaks

variable {P : Type} [Parcel P] {s : BufferQueueProducer} {callingPid : Int} {config : BufferRequestConfig} {a : Allocation}
  {request : BufferQueue → BufferRequestConfig → Allocation → RequestReply × BufferQueue}

theorem requestWith_of_error (h : (s.connect callingPid).1 ≠ .ok) :
    (s.requestWith request callingPid config a).2 = s := by
  have hsame := BufferQueueProducer.connect_of_error h
  unfold BufferQueueProducer.requestWith
  generalize s.connect callingPid = connected at h hsame
  obtain ⟨ret, s'⟩ := connected
  dsimp only at h hsame ⊢
  rw [if_pos h, hsame]

theorem requestWith_of_ok (h : (s.connect callingPid).1 = .ok) :
    (s.requestWith request callingPid config a).2.bufferQueue =
      (request (s.bufferQueue.configure (.setConnectedPidLocked callingPid)) config a).2 := by
  unfold BufferQueueProducer.requestWith
  rw [BufferQueueProducer.connect_of_ok h]
  rfl

theorem call_of_error {method : RequestMethod} (h : (s.connect callingPid).1 ≠ .ok) :
    (method.call s callingPid config a).2 = s := by
  cases method
  · exact requestWith_of_error h
  · exact requestWith_of_error h

theorem call_noLeak {method : RequestMethod} (h : s.bufferQueue.Agrees)
    (hfresh : s.bufferQueue.bufferQueueCache.find a.sequence = none)
    (hconnect : (s.connect callingPid).1 = .ok) :
    NoLeak s.bufferQueue (method.call s callingPid config a).2.bufferQueue ↔
      s.bufferQueue.reusedBuffer config = none ∧
        (method = .requestAndDetachBuffer ∨ s.bufferQueue.getsNewBuffer config a = false) := by
  have hsame (q' : BufferQueue) :
      NoLeak (s.bufferQueue.configure (.setConnectedPidLocked callingPid)) q' ↔
        NoLeak s.bufferQueue q' :=
    ⟨fun hleak => ⟨hleak.requested, hleak.cached⟩, fun hleak => ⟨hleak.requested, hleak.cached⟩⟩
  have hagrees : (s.bufferQueue.configure (.setConnectedPidLocked callingPid)).Agrees := h
  have hgets : (s.bufferQueue.configure (.setConnectedPidLocked callingPid)).getsNewBuffer config a =
      s.bufferQueue.getsNewBuffer config a := rfl
  cases method with
  | requestBuffer =>
    have hcall : ((RequestMethod.requestBuffer.call) s callingPid config a).2.bufferQueue = _ :=
      requestWith_of_ok hconnect
    rw [hcall, ← hsame, BufferQueue.requestBuffer_noLeak hagrees hfresh,
      BufferQueue.reusedBuffer_setConnectedPidLocked, hgets]
    simp
  | requestAndDetachBuffer =>
    have hcall : ((RequestMethod.requestAndDetachBuffer.call) s callingPid config a).2.bufferQueue =
        _ := requestWith_of_ok hconnect
    rw [hcall, ← hsame, BufferQueue.requestAndDetachBuffer_noLeak hagrees hfresh,
      BufferQueue.reusedBuffer_setConnectedPidLocked]
    simp

theorem requestBufferCommon_noLeak (channel : Channel P) {method : RequestMethod}
    (h : s.bufferQueue.Agrees) (hfresh : s.bufferQueue.bufferQueueCache.find a.sequence = none) :
    NoLeak s.bufferQueue
        (channel.requestBufferCommon method config s callingPid a).2.bufferQueue ↔
      channel.LeavesNothing method config s callingPid a := by
  rw [channel.requestBufferCommon_producer]
  unfold Channel.LeavesNothing
  cases channel.arrives config with
  | none => exact ⟨fun _ arrived harrived => (by cases harrived), fun _ => .of_find fun k => rfl⟩
  | some arrived =>
    dsimp only
    by_cases hconnect : (s.connect callingPid).1 = .ok
    · rw [call_noLeak h hfresh hconnect]
      refine ⟨fun hcase arrived' harrived _ => ?_, fun hcase => hcase arrived rfl hconnect⟩
      obtain rfl := Option.some.inj harrived
      exact hcase
    · rw [call_of_error hconnect]
      exact ⟨fun _ _ _ hok => absurd hok hconnect, fun _ => .of_find fun k => rfl⟩

end Leaks

/-- A remote request that fails leaves no buffer requested and none missing exactly when it was not
let in, or the queue had nothing to give: what was given is not taken back. -/
theorem failed_request_leaks_nothing {P : Type} [Parcel P] (channel : Channel P)
    (method : RequestMethod) (config : BufferRequestConfig) (s : BufferQueueProducer)
    (callingPid : Int) (a : Allocation) (hreach : Reachable s.bufferQueue)
    (hfresh : s.bufferQueue.bufferQueueCache.find a.sequence = none) :
    ∀ e, (channel.requestBufferCommon method config s callingPid a).1 = .error e →
      (NoLeak s.bufferQueue
          (channel.requestBufferCommon method config s callingPid a).2.bufferQueue ↔
        channel.LeavesNothing method config s callingPid a) :=
  fun _ _ => requestBufferCommon_noLeak channel hreach.agrees hfresh

/-- A client and a producer between which everything arrives; the server's descriptors are those of
the parcel for the reply. -/
def wireChannel (reply : Wire) : Channel Wire where
  arguments := emptyWire
  reply := reply
  writeInterfaceToken := Parcel.writeString "surf.IBufferProducer"
  checkInterfaceToken p :=
    match (Parcel.readString p : Except Unit String × Wire) with
    | (.ok descriptor, p) => (descriptor == "surf.IBufferProducer", p)
    | (.error _, p) => (false, p)
  remote := true
  deliver := some
  answer := some
  memory _ := ⟨some sampleHandle, .absent⟩
  badFd _ := false
  heap := true

theorem exists_error {E α : Type} {result : Except E α} (h : result.isOk = false) :
    ∃ e, result = .error e := by
  cases result with
  | error e => exact ⟨e, rfl⟩
  | ok a => cases h

def openProducer : BufferQueueProducer := .start { listener := true }

theorem reachable_openProducer : Reachable openProducer.bufferQueue := by
  have hlegal : Runs.Legal Op.next (fun q op => op.Fresh q ∧ (op.next q).fault = false)
      (BufferQueue.start {}) [.configure .registerConsumerListener] := by decide
  exact .of_legal hlegal

/-- Without a consumer listener the request is refused, and nothing is taken. -/
theorem failed_request_leaks_nothing_refused :
    NoLeak (BufferQueue.start {}) ((wireChannel twoFiles).requestBufferCommon .requestBuffer
      sampleConfig (.start (.start {})) 1 ⟨1, 1, true, true⟩).2.bufferQueue := by
  have hfails : ((wireChannel twoFiles).requestBufferCommon .requestBuffer sampleConfig
      (.start (.start {})) 1 ⟨1, 1, true, true⟩).1.isOk = false := by decide +kernel
  obtain ⟨e, herror⟩ := exists_error hfails
  refine (failed_request_leaks_nothing (wireChannel twoFiles) .requestBuffer sampleConfig
    (.start (.start {})) 1 ⟨1, 1, true, true⟩ ⟨{}, [], .nil⟩ rfl e herror).mpr ?_
  intro arrived harrived _
  have hconfig : (wireChannel twoFiles).arrives sampleConfig = some sampleConfig := by
    decide +kernel
  rw [hconfig] at harrived
  obtain rfl := Option.some.inj harrived
  decide +kernel

/-- A descriptor of the buffer cannot be duplicated into the reply. The client is told that the
request failed, and the buffer stays with it. -/
theorem failed_request_leaves_buffer :
    ¬ ∀ (channel : Channel Wire) (method : RequestMethod) (config : BufferRequestConfig)
      (s : BufferQueueProducer) (callingPid : Int) (a : Allocation), Reachable s.bufferQueue →
      s.bufferQueue.bufferQueueCache.find a.sequence = none →
      ∀ e, (channel.requestBufferCommon method config s callingPid a).1 = .error e →
        NoLeak s.bufferQueue
          (channel.requestBufferCommon method config s callingPid a).2.bufferQueue := by
  intro h
  have hfails : ((wireChannel emptyWire).requestBufferCommon .requestBuffer sampleConfig
      openProducer 1 ⟨1, 1, true, true⟩).1.isOk = false := by decide +kernel
  obtain ⟨e, herror⟩ := exists_error hfails
  have hleak := h (wireChannel emptyWire) .requestBuffer sampleConfig openProducer 1
    ⟨1, 1, true, true⟩ reachable_openProducer rfl e herror
  have hstate : ((((wireChannel emptyWire).requestBufferCommon .requestBuffer sampleConfig
      openProducer 1 ⟨1, 1, true, true⟩).2.bufferQueue.bufferQueueCache.find 1).map (·.state)) =
      some .requested := by
    decide +kernel
  obtain ⟨e', he', hs'⟩ := Option.map_eq_some_iff.mp hstate
  obtain ⟨e₀, he₀, -⟩ := hleak.requested 1 e' he' hs'
  cases he₀

end GraphicSurface
