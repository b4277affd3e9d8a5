import GraphicSurface.Producer
import Mathlib.Data.List.AList

/-! `ProducerSurface`, a producer's end of a queue. The queue sends the object of a buffer only when
it believes that the producer has none, so the surface keeps the objects by number, and the native
window of the surface keeps the objects that it has wrapped and handed out. -/

namespace GraphicSurface

/-- A pointer to a `SurfaceBuffer`: the object, and the number that it was made with. -/
structure BufferRef where
  object : ℕ
  seqNum : ℕ
deriving DecidableEq

def SurfaceBuffer.ref (b : SurfaceBuffer) : BufferRef := ⟨b.object, b.seqNum⟩

/-- `std::map<uint32_t, sptr<SurfaceBuffer>>`. -/
abbrev ObjectMap := AList fun _ : ℕ => BufferRef

/-- The way between a surface and its queue. The `n`-th buffer that goes over it is another object on
the other side when the two are in different processes, and a reply with all the buffers of a queue
is read only up to some length. -/
structure Link where
  callingPid : Int
  toClient : ℕ → SurfaceBuffer → BufferRef
  toServer : ℕ → SurfaceBuffer → SurfaceBuffer
  reads : ℕ → Bool
  toClient_seqNum : ∀ n b, (toClient n b).seqNum = b.seqNum
  toServer_seqNum : ∀ n b, (toServer n b).seqNum = b.seqNum

/-- The surface calls the `BufferQueueProducer` itself. -/
def Link.inProcess (callingPid : Int) : Link where
  callingPid := callingPid
  toClient _ b := b.ref
  toServer _ b := b
  reads _ := true
  toClient_seqNum _ _ := rfl
  toServer_seqNum _ _ := rfl

/-- The surface calls through a `BufferClientProducer`. -/
def Link.binder (callingPid : Int) (object : ℕ → ℕ) : Link where
  callingPid := callingPid
  toClient n b := ⟨object n, b.seqNum⟩
  toServer n b := { b with object := object n }
  reads size := size ≤ surfaceMaxQueueSize
  toClient_seqNum _ _ := rfl
  toServer_seqNum _ _ := rfl

structure RegionRect where
  x : Int
  y : Int
  w : ℕ
  h : ℕ
deriving DecidableEq

structure Region where
  rects : Option (List RegionRect) := none
  rectNumber : Int := 0
deriving DecidableEq

def damagesMaxSize : Int := 1000

def bufferUsageCpuRead : ℕ := 1 <<< 0

def Region.usable (region : Region) : Bool :=
  region.rectNumber ≤ damagesMaxSize && 0 < region.rectNumber && region.rects.isSome

/-- The sizes are converted from `uint32_t` to `int32_t`. -/
def RegionRect.damage (rect : RegionRect) : Rect :=
  ⟨rect.x, rect.y, (rect.w : Int).bmod (2 ^ 32), (rect.h : Int).bmod (2 ^ 32)⟩

namespace BufferQueueProducer

def withQueue (s : BufferQueueProducer) (q : BufferQueue) : BufferQueueProducer :=
  { s with bufferQueue := q }

/-- `RequestBuffers`. Without a single buffer the results are one new element, which says that the
producer is connected. -/
def requestBuffers (s : BufferQueueProducer) (callingPid : Int) (config : BufferRequestConfig)
    (as : List Allocation) : GSError × List RequestBufferReturnValue × BufferQueueProducer :=
  match s.connect callingPid with
  | (ret, s) =>
    if ret ≠ .ok then (ret, as.map fun _ => .empty, s)
    else
      match s.bufferQueue.requestBuffers config as with
      | (ret, replies, q) =>
        (ret,
          if replies = [] then [{ RequestBufferReturnValue.empty with isConnected := true }]
          else replies.map (·.retval),
          s.withQueue q)

def flushBuffer (s : BufferQueueProducer) (f : FlushArgs) : GSError × BufferQueueProducer :=
  if s.isDisconnectStrictly then (.consumerDisconnected, s)
  else
    Prod.map id s.withQueue
      (s.bufferQueue.flushBuffer f.sequence f.bedata f.fence f.config f.env)

def flushBuffers (s : BufferQueueProducer) (fs : List FlushArgs) : GSError × BufferQueueProducer :=
  if s.isDisconnectStrictly then (.consumerDisconnected, s)
  else Prod.map id s.withQueue (s.bufferQueue.flushBuffers fs)

def attachAndFlushBuffer (s : BufferQueueProducer) (buffer : SurfaceBuffer)
    (bedata : Option ExtraData) (fence : SyncFence) (config : BufferFlushConfigWithDamages)
    (env : FlushEnv) : GSError × BufferQueueProducer :=
  if s.isDisconnectStrictly then (.consumerDisconnected, s)
  else
    Prod.map id s.withQueue (s.bufferQueue.attachAndFlushBuffer buffer bedata fence config env)

def cleanCache (s : BufferQueueProducer) (callingPid : Int) : GSError × BufferQueueProducer :=
  if s.checkConnectLocked callingPid ≠ .ok then (s.checkConnectLocked callingPid, s)
  else (.ok, s.cleanQueue)

def goBackground (s : BufferQueueProducer) (callingPid : Int) : GSError × BufferQueueProducer :=
  if s.checkConnectLocked callingPid ≠ .ok then (s.checkConnectLocked callingPid, s)
  else (.ok, s.withQueue (s.bufferQueue.setProducerCacheCleanFlag true))

def cleanReleasedBuffers (s : BufferQueueProducer) (callingPid : Int) :
    GSError × List ℕ × BufferQueueProducer :=
  if s.checkConnectLocked callingPid ≠ .ok then (s.checkConnectLocked callingPid, [], s)
  else (.ok, Prod.map id s.withQueue s.bufferQueue.cleanReleasedBuffers)

end BufferQueueProducer

/-- `window` is the `bufferCache_` of the native window, if there is one, with the object in each
wrapper. `crossings` counts the buffers that have gone over the link, and `fault` is set when a null
pointer is dereferenced. -/
structure ProducerSurface where
  bufferProducerCache : ObjectMap := ∅
  isDisconnected : Bool := true
  window : Option ObjectMap := none
  windowWidth : Int := 0
  windowHeight : Int := 0
  mLockedBuffer : Option BufferRef := none
  region : Region := {}
  crossings : ℕ := 0
  fault : Bool := false
  producer : BufferQueueProducer

structure SurfaceReply where
  ret : GSError
  buffers : List (Option BufferRef) := []
  fences : List (Option SyncFence) := []
  cleanedSeqNums : List ℕ := []
deriving DecidableEq

/-- What locking takes from its surroundings: the allocator, the results of `Map` and of the copy of
the rectangles, and the extra data that the buffer has then. -/
structure LockEnv where
  allocation : Allocation
  map : GSError
  copied : Bool
  bedata : Option ExtraData

/-- The times of a flush that unlocks are not initialized. -/
structure UnlockEnv where
  bedata : Option ExtraData
  timestamp : Int
  desiredPresentTimestamp : Int
  flush : FlushEnv

namespace ProducerSurface

def queue (s : ProducerSurface) : BufferQueue := s.producer.bufferQueue

def withQueue (s : ProducerSurface) (q : BufferQueue) : ProducerSurface :=
  { s with producer := s.producer.withQueue q }

/-- One round of the loop of `DeleteCacheBufferLocked`, and of the one of `CleanReleasedBuffers`. -/
def eraseBuffer (s : ProducerSurface) (seqNum : ℕ) : ProducerSurface :=
  { s with
    bufferProducerCache := s.bufferProducerCache.erase seqNum
    window := s.window.map (·.erase seqNum) }

def deleteCacheBufferLocked (s : ProducerSurface) (deletingBuffers : List ℕ) : ProducerSurface :=
  deletingBuffers.foldl eraseBuffer s

/-- `bufferProducerCache_[sequence] = buffer`. -/
def keep (s : ProducerSurface) (sequence : ℕ) (buffer : BufferRef) : ProducerSurface :=
  { s with bufferProducerCache := s.bufferProducerCache.insert sequence buffer }

def cleanAllLocked (s : ProducerSurface) : ProducerSurface :=
  { s with bufferProducerCache := ∅, window := s.window.map fun _ => ∅ }

section Calls

variable (link : Link)

def receive (s : ProducerSurface) (buffer : SurfaceBuffer) : BufferRef × ProducerSurface :=
  (link.toClient s.crossings buffer, { s with crossings := s.crossings + 1 })

def send (s : ProducerSurface) (buffer : SurfaceBuffer) : SurfaceBuffer × ProducerSurface :=
  (link.toServer s.crossings buffer, { s with crossings := s.crossings + 1 })

/-- One round of the loop of `SyncProducerCacheLocked`. -/
def keepReceived (s : ProducerSurface) (e : BufferElement) : ProducerSurface :=
  let (buffer, s) := s.receive link e.buffer
  s.keep e.buffer.seqNum buffer

/-- `SyncProducerCacheLocked`, which fails when the reply is not read. -/
def syncProducerCacheLocked (s : ProducerSurface) : ProducerSurface :=
  let buffers := s.queue.bufferQueueCache.entries.values
  if link.reads buffers.length then buffers.foldl (keepReceived link) s else s

/-- `AddCacheLocked` for a reply. Its callers do not look at the error, which it returns exactly when
the buffer stays a null pointer. -/
def addCacheLocked (s : ProducerSurface) (retval : RequestBufferReturnValue) :
    Option BufferRef × ProducerSurface :=
  match retval.buffer with
  | some buffer =>
    let (buffer, s) := s.receive link buffer
    (some buffer, (s.keep retval.sequence buffer).deleteCacheBufferLocked retval.deletingBuffers)
  | none =>
    match s.bufferProducerCache.lookup retval.sequence with
    | some buffer => (some buffer, s.deleteCacheBufferLocked retval.deletingBuffers)
    | none =>
      let s := s.syncProducerCacheLocked link
      (s.bufferProducerCache.lookup retval.sequence,
        s.deleteCacheBufferLocked retval.deletingBuffers)

/-- `UpdateCacheLocked`: the buffer leaves with the caller. -/
def updateCacheLocked (s : ProducerSurface) (retval : RequestBufferReturnValue) :
    Option BufferRef × ProducerSurface :=
  let (buffer, s) :=
    match retval.buffer with
    | some buffer => Prod.map some id (s.receive link buffer)
    | none => (s.bufferProducerCache.lookup retval.sequence, s)
  match buffer with
  | none => (none, s.deleteCacheBufferLocked retval.deletingBuffers)
  | some buffer =>
    (some buffer,
      { s with bufferProducerCache := s.bufferProducerCache.erase retval.sequence
        }.deleteCacheBufferLocked retval.deletingBuffers)

/-- `AddCacheLocked` for an attached buffer. -/
def addAttachedLocked (s : ProducerSurface) (buffer : BufferRef) : ProducerSurface :=
  if (s.bufferProducerCache.lookup buffer.seqNum).isSome then s
  else if s.queue.bufferQueueSize ≤ s.bufferProducerCache.keys.length then
    { s with bufferProducerCache := ∅ }.keep buffer.seqNum buffer
  else s.keep buffer.seqNum buffer

def cleanCacheLocked (s : ProducerSurface) : GSError × ProducerSurface :=
  let (ret, producer) := s.producer.cleanCache link.callingPid
  (ret, { s with producer := producer }.cleanAllLocked)

/-- What `RequestBufferLocked` and `RequestAndDetachBuffer` do with an error. -/
def requestFailed (s : ProducerSurface) (reply : RequestReply) : SurfaceReply × ProducerSurface :=
  let s := if reply.ret = .noConsumer then (s.cleanCacheLocked link).2 else s
  ({ ret := reply.ret }, if reply.retval.isConnected then { s with isDisconnected := false } else s)

def requestBufferLocked (s : ProducerSurface) (config : BufferRequestConfig) (a : Allocation) :
    SurfaceReply × ProducerSurface :=
  let (reply, producer) := s.producer.requestBuffer link.callingPid config a
  let s := { s with producer := producer }
  if reply.ret ≠ .ok then s.requestFailed link reply
  else
    let (buffer, s) := { s with isDisconnected := false }.addCacheLocked link reply.retval
    ({ ret := .ok, buffers := [buffer], fences := [reply.retval.fence] }, s)

/-- `gameUpscaleProcessor` is the change of the size that the surface was told to make. -/
def requestBuffer (s : ProducerSurface) (gameUpscaleProcessor : Int × Int → Int × Int)
    (config : BufferRequestConfig) (a : Allocation) : SurfaceReply × ProducerSurface :=
  let (width, height) := gameUpscaleProcessor (config.width, config.height)
  s.requestBufferLocked link { config with width := width, height := height } a

def requestAndDetachBuffer (s : ProducerSurface) (config : BufferRequestConfig) (a : Allocation) :
    SurfaceReply × ProducerSurface :=
  let (reply, producer) := s.producer.requestAndDetachBuffer link.callingPid config a
  let s := { s with producer := producer }
  if reply.ret ≠ .ok then s.requestFailed link reply
  else
    let (buffer, s) := { s with isDisconnected := false }.updateCacheLocked link reply.retval
    ({ ret := .ok, buffers := [buffer], fences := [reply.retval.fence] }, s)

/-- The loop at the end of `RequestBuffers`. -/
def addCachesLocked (s : ProducerSurface) :
    List RequestBufferReturnValue → List (Option BufferRef) × ProducerSurface
  | [] => ([], s)
  | retval :: retvalues =>
    let (buffer, s) := s.addCacheLocked link retval
    Prod.map (buffer :: ·) id (s.addCachesLocked retvalues)

/-- `as n` answers the `n`-th of the requests that the batch makes. -/
def requestBuffers (s : ProducerSurface) (config : BufferRequestConfig) (as : ℕ → Allocation) :
    SurfaceReply × ProducerSurface :=
  let (ret, retvalues, producer) :=
    s.producer.requestBuffers link.callingPid config ((List.range surfaceMaxQueueSize).map as)
  let s := { s with producer := producer }
  if ret ≠ .noBuffer ∧ ret ≠ .ok then
    ({ ret := ret },
      if retvalues.head?.any (·.isConnected) then { s with isDisconnected := false } else s)
  else
    let (buffers, s) := { s with isDisconnected := false }.addCachesLocked link retvalues
    ({ ret := .ok, buffers := buffers, fences := retvalues.map (·.fence) }, s)

def flushBuffer (s : ProducerSurface) (f : FlushArgs) : GSError × ProducerSurface :=
  if f.bedata.isNone then (.invalidArguments, s)
  else
    let (ret, producer) := s.producer.flushBuffer f
    let s := { s with producer := producer }
    (ret, if ret = .noConsumer then (s.cleanCacheLocked link).2 else s)

def flushBuffers (s : ProducerSurface) (fs : List FlushArgs) : GSError × ProducerSurface :=
  if fs = [] ∨ surfaceMaxQueueSize < fs.length then (.invalidArguments, s)
  else
    let (ret, producer) := s.producer.flushBuffers fs
    let s := { s with producer := producer }
    (ret, if ret = .noConsumer then (s.cleanCacheLocked link).2 else s)

/-- `CancelBuffer`, and `ProducerSurfaceCancelBufferLocked`, which is called with the lock. -/
def cancelBuffer (s : ProducerSurface) (sequence : ℕ) (bedata : Option ExtraData) :
    GSError × ProducerSurface :=
  if bedata.isNone then (.internal, s)
  else
    let (ret, q) := s.queue.cancelBufferLocked sequence bedata
    let s := s.withQueue q
    (ret, if ret = .ok then { s with mLockedBuffer := none, region := {} } else s)

def attachBufferToQueue (s : ProducerSurface) (buffer : SurfaceBuffer) :
    GSError × ProducerSurface :=
  let (sent, s) := s.send link buffer
  let (ret, q) := s.queue.attachBufferToQueue sent .producerInvoker
  let s := s.withQueue q
  if ret ≠ .ok then (ret, s)
  else if (s.bufferProducerCache.lookup buffer.seqNum).isSome then (.bufferIsIncache, s)
  else (.ok, s.keep buffer.seqNum buffer.ref)

def detachBufferFromQueue (s : ProducerSurface) (buffer : SurfaceBuffer) :
    GSError × ProducerSurface :=
  let (ret, q) := s.queue.detachBufferFromQueue buffer.seqNum .producerInvoker false
  let s := s.withQueue q
  if ret ≠ .ok then (ret, s)
  else if (s.bufferProducerCache.lookup buffer.seqNum).isNone then (.bufferNotIncache, s)
  else (.ok, { s with bufferProducerCache := s.bufferProducerCache.erase buffer.seqNum })

/-- `AttachBuffer` with a timeout; without one the cache of the surface is left alone. -/
def attachBuffer (s : ProducerSurface) (buffer : SurfaceBuffer) (timeOut : Int) :
    GSError × ProducerSurface :=
  let (sent, s) := s.send link buffer
  let (ret, q) := s.queue.attachBuffer sent timeOut
  let s := s.withQueue q
  (ret, if ret = .ok then s.addAttachedLocked buffer.ref else s)

def attachAndFlushBuffer (s : ProducerSurface) (buffer : SurfaceBuffer) (bedata : Option ExtraData)
    (fence : SyncFence) (config : BufferFlushConfigWithDamages) (env : FlushEnv) :
    GSError × ProducerSurface :=
  if bedata.isNone then (.invalidArguments, s)
  else
    let (sent, s) := s.send link buffer
    let (ret, producer) := s.producer.attachAndFlushBuffer sent bedata fence config env
    let s := { s with producer := producer }
    if ret = .ok then
      if (s.bufferProducerCache.lookup buffer.seqNum).isSome then (.bufferIsIncache, s)
      else (.ok, s.keep buffer.seqNum buffer.ref)
    else (ret, if ret = .noConsumer then (s.cleanCacheLocked link).2 else s)

def goBackground (s : ProducerSurface) : GSError × ProducerSurface :=
  let s := s.cleanAllLocked
  let (ret, producer) := s.producer.goBackground link.callingPid
  (ret, { s with producer := producer })

def cleanReleasedBuffers (s : ProducerSurface) : SurfaceReply × ProducerSurface :=
  let (ret, cleanedSeqNums, producer) := s.producer.cleanReleasedBuffers link.callingPid
  let s := { s with producer := producer }
  if ret ≠ .ok then ({ ret := ret }, s)
  else ({ ret := .ok, cleanedSeqNums := cleanedSeqNums }, cleanedSeqNums.foldl eraseBuffer s)

def connect (s : ProducerSurface) : GSError × ProducerSurface :=
  if !s.isDisconnected then (.consumerIsConnected, s)
  else
    let (ret, producer) := s.producer.connect link.callingPid
    let s := { s with producer := producer }
    (ret, if ret = .ok then { s with isDisconnected := false } else s)

def disconnect (s : ProducerSurface) : GSError × ProducerSurface :=
  if s.isDisconnected then (.consumerDisconnected, s)
  else
    let (ret, producer) := s.producer.disconnect link.callingPid
    let s := { s with producer := producer }
    (ret, (if ret = .ok then { s with isDisconnected := true } else s).cleanAllLocked)

/-- `DisconnectStrictly` and `ConnectStrictly`. -/
def setDisconnectStrictly (s : ProducerSurface) (value : Bool) : GSError × ProducerSurface :=
  (.ok, { s with producer := { s.producer with isDisconnectStrictly := value } })

def lock (s : ProducerSurface) (buffer : BufferRef) (region : Region) : ProducerSurface :=
  { s with
    mLockedBuffer := some buffer
    region :=
      { rects := if region.usable then region.rects else s.region.rects
        rectNumber := region.rectNumber } }

/-- `ProducerSurfaceLockBuffer` once it has been given a buffer. -/
def lockRequested (s : ProducerSurface) (buffer : BufferRef) (fence : SyncFence) (region : Region)
    (env : LockEnv) : SurfaceReply × ProducerSurface :=
  if env.map ≠ .ok then ({ ret := env.map }, (s.cancelBuffer buffer.seqNum env.bedata).2)
  else
    let s := s.lock buffer region
    if region.usable ∧ env.copied = false then
      let (ret, s) := s.cancelBuffer buffer.seqNum env.bedata
      ({ ret := .internal }, if ret ≠ .ok then { s with region := {} } else s)
    else ({ ret := .ok, buffers := [some buffer], fences := [some fence] }, s)

/-- The buffer and its fence are used without a check. -/
def producerSurfaceLockBuffer (s : ProducerSurface) (config : BufferRequestConfig) (region : Region)
    (env : LockEnv) : SurfaceReply × ProducerSurface :=
  if s.mLockedBuffer.isSome then ({ ret := .invalidOperating }, s)
  else
    let usage := config.usage ||| (bufferUsageCpuRead ||| bufferUsageCpuWrite)
    match s.requestBufferLocked link { config with usage := usage } env.allocation with
    | (reply, s) =>
      if reply.ret ≠ .ok then ({ ret := reply.ret }, s)
      else
        match reply.buffers, reply.fences with
        | [some buffer], [some fence] => s.lockRequested buffer fence region env
        | _, _ => (reply, { s with fault := true })

/-- The rectangles that were locked, or the whole window. -/
def unlockDamages (s : ProducerSurface) : List Rect :=
  if s.region.usable then
    ((s.region.rects.getD []).take s.region.rectNumber.toNat).map RegionRect.damage
  else [⟨0, 0, s.windowWidth, s.windowHeight⟩]

def producerSurfaceUnlockAndFlushBuffer (s : ProducerSurface) (env : UnlockEnv) :
    GSError × ProducerSurface :=
  match s.mLockedBuffer with
  | none => (.invalidOperating, s)
  | some buffer =>
    let config := ⟨s.unlockDamages, env.timestamp, env.desiredPresentTimestamp⟩
    let (ret, s) :=
      s.flushBuffer link ⟨buffer.seqNum, env.bedata, invalidFence, config, env.flush⟩
    if ret ≠ .ok then (ret, s)
    else (.ok, { s with mLockedBuffer := none, region := { s.region with rects := none } })

/-- `NativeWindowAddToCache`: a buffer whose number has a wrapper is handed out in that wrapper. -/
def nativeWindowAddToCache (s : ProducerSurface) (window : ObjectMap) (sfbuffer : BufferRef) :
    BufferRef × ProducerSurface :=
  match window.lookup sfbuffer.seqNum with
  | some wrapped => (wrapped, s)
  | none => (sfbuffer, { s with window := some (window.insert sfbuffer.seqNum sfbuffer) })

/-- `NativeWindowRequestBuffer`. The reply has the object in the wrapper; the fence is duplicated
without a check. -/
def nativeWindowRequestBuffer (s : ProducerSurface) (gameUpscaleProcessor : Int × Int → Int × Int)
    (config : BufferRequestConfig) (a : Allocation) : SurfaceReply × ProducerSurface :=
  match s.requestBuffer link gameUpscaleProcessor config a with
  | (reply, s) =>
    if reply.ret ≠ .ok then ({ ret := reply.ret }, s)
    else
      match reply.buffers, s.window with
      | [some sfbuffer], some window =>
        let (wrapped, s) := s.nativeWindowAddToCache window sfbuffer
        if reply.fences.any (·.isNone) then (reply, { s with fault := true })
        else ({ reply with buffers := [some wrapped] }, s)
      | _, _ => ({ ret := reply.ret }, s)

end Calls

end ProducerSurface

inductive SurfaceCall
  | requestBuffer (gameUpscaleProcessor : Int × Int → Int × Int) (config : BufferRequestConfig)
      (a : Allocation)
  | requestBuffers (config : BufferRequestConfig) (as : ℕ → Allocation)
  | requestAndDetachBuffer (config : BufferRequestConfig) (a : Allocation)
  | flushBuffer (f : FlushArgs)
  | flushBuffers (fs : List FlushArgs)
  | cancelBuffer (sequence : ℕ) (bedata : Option ExtraData)
  | attachBufferToQueue (buffer : SurfaceBuffer)
  | detachBufferFromQueue (buffer : SurfaceBuffer)
  | attachBuffer (buffer : SurfaceBuffer) (timeOut : Int)
  | attachAndFlushBuffer (buffer : SurfaceBuffer) (bedata : Option ExtraData) (fence : SyncFence)
      (config : BufferFlushConfigWithDamages) (env : FlushEnv)
  | cleanCache
  | goBackground
  | cleanReleasedBuffers
  | connect
  | disconnect
  | setDisconnectStrictly (value : Bool)
  | lockBuffer (config : BufferRequestConfig) (region : Region) (env : LockEnv)
  | unlockAndFlushBuffer (env : UnlockEnv)
  | nativeWindowRequestBuffer (gameUpscaleProcessor : Int × Int → Int × Int)
      (config : BufferRequestConfig) (a : Allocation)
  | queue (op : Op)

namespace SurfaceCall

def run (link : Link) (s : ProducerSurface) : SurfaceCall → SurfaceReply × ProducerSurface
  | requestBuffer gameUpscaleProcessor config a =>
    s.requestBuffer link gameUpscaleProcessor config a
  | requestBuffers config as => s.requestBuffers link config as
  | requestAndDetachBuffer config a => s.requestAndDetachBuffer link config a
  | flushBuffer f => Prod.map ({ ret := · }) id (s.flushBuffer link f)
  | flushBuffers fs => Prod.map ({ ret := · }) id (s.flushBuffers link fs)
  | cancelBuffer sequence bedata => Prod.map ({ ret := · }) id (s.cancelBuffer sequence bedata)
  | attachBufferToQueue buffer => Prod.map ({ ret := · }) id (s.attachBufferToQueue link buffer)
  | detachBufferFromQueue buffer => Prod.map ({ ret := · }) id (s.detachBufferFromQueue buffer)
  | attachBuffer buffer timeOut => Prod.map ({ ret := · }) id (s.attachBuffer link buffer timeOut)
  | attachAndFlushBuffer buffer bedata fence config env =>
    Prod.map ({ ret := · }) id (s.attachAndFlushBuffer link buffer bedata fence config env)
  | cleanCache => Prod.map ({ ret := · }) id (s.cleanCacheLocked link)
  | goBackground => Prod.map ({ ret := · }) id (s.goBackground link)
  | cleanReleasedBuffers => s.cleanReleasedBuffers link
  | connect => Prod.map ({ ret := · }) id (s.connect link)
  | disconnect => Prod.map ({ ret := · }) id (s.disconnect link)
  | setDisconnectStrictly value => Prod.map ({ ret := · }) id (s.setDisconnectStrictly value)
  | lockBuffer config region env => s.producerSurfaceLockBuffer link config region env
  | unlockAndFlushBuffer env =>
    Prod.map ({ ret := · }) id (s.producerSurfaceUnlockAndFlushBuffer link env)
  | nativeWindowRequestBuffer gameUpscaleProcessor config a =>
    s.nativeWindowRequestBuffer link gameUpscaleProcessor config a
  | queue op => ({ ret := .ok }, s.withQueue (op.next s.queue))

def next (link : Link) (s : ProducerSurface) (c : SurfaceCall) : ProducerSurface := (c.run link s).2

/-- The buffers that the call makes get numbers that the queue does not have. -/
def Fresh (s : ProducerSurface) : SurfaceCall → Prop
  | requestBuffer _ config a | nativeWindowRequestBuffer _ config a =>
    (Op.requestBuffer config a).Fresh s.queue
  | requestBuffers config as =>
    (Op.requestBuffers config ((List.range surfaceMaxQueueSize).map as)).Fresh s.queue
  | requestAndDetachBuffer config a => (Op.requestAndDetachBuffer config a).Fresh s.queue
  | lockBuffer config _ env => (Op.requestBuffer config env.allocation).Fresh s.queue
  | queue op => op.Fresh s.queue
  | _ => True

instance (s : ProducerSurface) (c : SurfaceCall) : Decidable (c.Fresh s) := by
  apply SurfaceCall.casesOn (motive := fun c => Decidable (c.Fresh s)) c <;> intros <;>
    unfold Fresh <;> infer_instance

/-- A call that goes through a null pointer leaves nothing behind. -/
def Sane (link : Link) (s : ProducerSurface) (c : SurfaceCall) : Prop :=
  c.Fresh s ∧ (c.next link s).fault = false ∧ (c.next link s).queue.fault = false

instance (link : Link) (s : ProducerSurface) (c : SurfaceCall) : Decidable (c.Sane link s) :=
  inferInstanceAs (Decidable (_ ∧ _ ∧ _))

end SurfaceCall

def SurfaceStep (link : Link) (s : ProducerSurface) (c : SurfaceCall) (s' : ProducerSurface) : Prop :=
  c.Sane link s ∧ s' = c.next link s

def ProducerSurface.start (q : QueueSettings) (window : Option ObjectMap) :
    ProducerSurface :=
  { window := window, producer := .start (.start q) }

namespace ProducerSurface

/-- `CleanCache` empties the queue when the caller is connected, and both caches in any case. -/
theorem cleanCacheLocked_eq (link : Link) (s : ProducerSurface) :
    (s.cleanCacheLocked link).2 =
      (if s.producer.checkConnectLocked link.callingPid = .ok then s.withQueue s.queue.cleanCache
        else s).cleanAllLocked := by
  unfold cleanCacheLocked BufferQueueProducer.cleanCache
  by_cases h : s.producer.checkConnectLocked link.callingPid = .ok
  · rw [if_neg (not_not.mpr h), if_pos h]
    rfl
  · rw [if_pos h, if_neg h]

end ProducerSurface

end GraphicSurface
