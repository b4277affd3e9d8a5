import GraphicSurface.Interleaving
import GraphicSurface.Operations

/-! The calls of a `BufferQueue` made by threads that share it. A step is one critical section of
`mutex_`, one read or write under one of the listener mutexes, or one answer from outside (the
allocator, a callback). A program point is where a thread stands between two of them: it names
what comes next and holds the locals that it needs. Every wait on `isAllocatingBufferCon_` is a
program point; the waits with a timeout may go on at any time. `producerListenerMutex_`, which
`UnRegisterProducerReleaseListener` keeps over two writes, is not modelled: leaving it out only
adds interleavings. -/

namespace GraphicSurface

open Interleaving

inductive Pc
  | idle (reply : Option Reply)
  | requestWait (detach : Bool) (config : BufferRequestConfig)
  | requestBlocked (detach : Bool) (config : BufferRequestConfig)
  | allocating (detach : Bool) (point : ReusePoint)
  | flushChecking (f : FlushArgs)
  | flushListener (f : FlushArgs)
  | flushCancel (f : FlushArgs)
  | flushDo (f : FlushArgs)
  | flushDelete (sequence : ℕ)
  | detachDelete (sequence : ℕ) (isReserveSlot : Bool)
  | releaseDelete (sequence : ℕ)
  | handOutWait (config : BufferRequestConfig) (configs : List BufferRequestConfig)
  | releaseCallback (handed : List (ℕ × Option SyncFence))
  | callback (handed : List (ℕ × Option SyncFence))
  | clientCancel (bedata : Option ExtraData) (handed : List (ℕ × Option SyncFence))
  | takeBack (handed : List (ℕ × Option SyncFence))
  | attachListener (buffer : SurfaceBuffer) (timeOut : Int)
  | attachMain (buffer : SurfaceBuffer) (timeOut : Int)
  | attachWait (sequence : ℕ)
  | attachDelete (ele : BufferElement) (count : ℕ)
  | preAllocating (config : BufferRequestConfig) (count : ℕ)
  | unRegistering
  | clearWait

inductive Call
  | requestBuffer (config : BufferRequestConfig)
  | requestAndDetachBuffer (config : BufferRequestConfig)
  | cancelBuffer (sequence : ℕ) (bedata : Option ExtraData)
  | flushBuffer (f : FlushArgs)
  | detachBufferFromQueue (sequence : ℕ) (invokerType : InvokerType) (isReserveSlot : Bool)
  | acquireBuffer (now : Int)
  | releaseBuffer (sequence : ℕ) (fence : Option SyncFence) (now mergeFd : Int)
  | attachBufferToQueue (buffer : SurfaceBuffer) (invokerType : InvokerType)
  | attachBuffer (buffer : SurfaceBuffer) (timeOut : Int)
  | attachAndFlushBuffer (buffer : SurfaceBuffer) (bedata : Option ExtraData) (fence : SyncFence)
      (config : BufferFlushConfigWithDamages) (env : FlushEnv)
  | preAllocBuffers (config : BufferRequestConfig) (allocBufferCount : ℕ)
  | cleanCache
  | configure (s : Setting)

/-- The three ways through `ProducerSurface::OnBufferReleasedWithSequenceAndFence`. Which one it
takes depends on the client's own cache and on the function that it has registered. -/
inductive ClientPath
  | notCached
  | function (ok : Bool)
  | noFunction (bedata : Option ExtraData)
deriving DecidableEq

inductive Action
  | call (c : Call)
  | go
  | allocated (a : Allocation)
  | preAllocated (as : ℕ → Allocation)
  | answered (path : ClientPath)

namespace BufferQueue

/-- The end of a request: `RequestAndDetachBuffer` keeps `mutex_` and detaches what it got. -/
def finishCall (q : BufferQueue) (detach : Bool) (reply : RequestReply) : Pc × BufferQueue :=
  if detach && reply.ret == .ok then
    match q.detachBufferFromQueueLocked reply.retval.sequence .producerInvoker false with
    | (ret, q) => (.idle (some (.request { reply with ret := ret })), q)
  else (.idle (some (.request reply)), q)

def reach (q : BufferQueue) (detach : Bool) : ReusePoint → Pc × BufferQueue
  | .done reply => q.finishCall detach reply
  | point => (.allocating detach point, q)

/-- `RequestBufferLocked` from the end of its wait for a running allocation. -/
def requestSection (q : BufferQueue) (detach : Bool) (config : BufferRequestConfig) :
    Pc × BufferQueue :=
  match q.requestBufferBody config false with
  | (.reached point, q) => q.reach detach point
  | (.waitReq config, q) => (.requestBlocked detach config, q)

def startRequest (q : BufferQueue) (detach : Bool) (config : BufferRequestConfig) :
    Pc × BufferQueue :=
  match q.requestBufferCheck config with
  | .error ret => (.idle (some (.request (.error ret))), q)
  | .ok updateConfig =>
    if q.isAllocatingBuffer then (.requestWait detach updateConfig, q)
    else q.requestSection detach updateConfig

/-- The section of `DoFlushBuffer`, which does not look at the state again. -/
def flushSection (q : BufferQueue) (f : FlushArgs) : Pc × BufferQueue :=
  if q.isAllocatingBuffer && (q.bufferQueueCache.find f.sequence).any (·.isDeleting) then
    (.flushDelete f.sequence, q)
  else
    match q.doFlushBufferLocked f.sequence f.bedata f.fence f.config f.env with
    | (ret, q) => (.idle (some (.code ret)), q)

def detachSection (q : BufferQueue) (sequence : ℕ) (invokerType : InvokerType)
    (isReserveSlot : Bool) : Pc × BufferQueue :=
  if invokerType = .consumerInvoker ∧ q.detachBufferCheck sequence invokerType = .ok ∧
      q.isAllocatingBuffer then (.detachDelete sequence isReserveSlot, q)
  else
    match q.detachBufferFromQueueLocked sequence invokerType isReserveSlot with
    | (ret, q) => (.idle (some (.code ret)), q)

/-- The first configuration for which a request for the listener gets as far as its wait for a
running allocation, with the configurations from there on. -/
def firstAllowed (q : BufferQueue) :
    List BufferRequestConfig → Option (BufferRequestConfig × List BufferRequestConfig)
  | [] => none
  | config :: configs =>
    match q.requestBufferCheck config with
    | .error _ => q.firstAllowed configs
    | .ok updateConfig => some (updateConfig, config :: configs)

/-- `RequestBuffersForListenerLocked`, to its end or to the wait in its first request. -/
def handOutSection (q : BufferQueue) : Pc × BufferQueue :=
  let configs := q.collectConfigs q.freeList []
  if q.isAllocatingBuffer then
    match q.firstAllowed configs with
    | none => (.releaseCallback [], q)
    | some (updateConfig, configs) => (.handOutWait updateConfig configs, q)
  else
    let (handed, q) := q.handOut (q.freeList.length + configs.length) configs
    (.releaseCallback handed, q)

def handOutResume (q : BufferQueue) (updateConfig : BufferRequestConfig)
    (configs : List BufferRequestConfig) : Pc × BufferQueue :=
  let fuel := q.freeList.length + configs.length
  match q.requestBufferBody updateConfig true with
  | (.reached (.done reply), q) =>
    if reply.ret = .ok then
      let (handed, q) := (q.setRequestedFromListener reply.retval.sequence).handOut fuel configs
      (.releaseCallback ((reply.retval.sequence, reply.retval.fence) :: handed), q)
    else
      let (handed, q) := q.handOut fuel configs.tail
      (.releaseCallback handed, q)
  | (_, q) => (.releaseCallback [], q)

/-- The rest of the section of `ReleaseBuffer` after `ReleaseBufferLocked`. -/
def afterRelease (q : BufferQueue) : Pc × BufferQueue :=
  if q.listenerSeqAndFenceActive then q.handOutSection else (.releaseCallback [], q)

def releaseSection (q : BufferQueue) (sequence : ℕ) (fence : Option SyncFence)
    (now mergeFd : Int) : Pc × BufferQueue :=
  let env : ReleaseEnv := ⟨now, mergeFd, fun _ => true⟩
  match q.bufferQueueCache.find sequence with
  | some ele =>
    if q.isAllocatingBuffer && ele.isDeleting && (ele.state == .acquired || ele.state == .attached) then
      (.releaseDelete sequence, q.markReleased sequence ele.lastAcquireTime fence env)
    else
      match q.releaseBufferLocked sequence fence env with
      | (ret, q) => if ret ≠ .ok then (.idle (some (.code ret)), q) else q.afterRelease
  | none => (.idle (some (.code .bufferNotIncache)), q)

def nextCallback (handed : List (ℕ × Option SyncFence)) : Pc :=
  if handed = [] then .idle (some (.code .ok)) else .callback handed

def attachSection (q : BufferQueue) (buffer : SurfaceBuffer) (timeOut : Int) : Pc × BufferQueue :=
  match q.bufferQueueCache.find buffer.seqNum with
  | some ele =>
    if ele.state = .released then
      match q.attachBufferUpdateStatus buffer.seqNum ele.state with
      | (ret, q) => (.idle (some (.code ret)), q)
    else (.attachWait buffer.seqNum, q)
  | none =>
    match q.attachDeleteCount with
    | none => (.idle (some (.code .outOfRange)), q)
    | some count =>
      let ele := q.attachElement buffer timeOut
      if 0 < count ∧ q.isAllocatingBuffer then (.attachDelete ele count, q)
      else
        let q := q.deleteBuffersLocked count
        (.idle (some (.code .ok)), { q with bufferQueueCache := q.bufferQueueCache.put ele })

def preAllocSection (q : BufferQueue) (config : BufferRequestConfig) (allocBufferCount : ℕ) :
    Pc × BufferQueue :=
  if preAllocBuffersCheck config allocBufferCount ≠ .ok then
    (.idle (some (.code (preAllocBuffersCheck config allocBufferCount))), q)
  else
    let count := q.preAllocBuffersCount allocBufferCount
    if count = 0 then (.idle (some (.code .bufferQueueFull)), q)
    else (.preAllocating { config with usage := config.usage ||| q.defaultUsage } count, q)

/-- `UnRegisterProducerReleaseListener` takes `mutex_` only for its third write. -/
def configureSection (q : BufferQueue) : Setting → Pc × BufferQueue
  | .unRegisterProducerReleaseListener =>
    (.unRegistering,
      { q with producerListener := none, isOnReleaseBufferWithSequenceAndFence := false })
  | s => (.idle (some (.code .ok)), q.configure s)

end BufferQueue

def Call.start (q : BufferQueue) : Call → Pc × BufferQueue
  | requestBuffer config => q.startRequest false config
  | requestAndDetachBuffer config => q.startRequest true config
  | cancelBuffer sequence bedata =>
    match q.cancelBufferLocked sequence bedata with
    | (ret, q) => (.idle (some (.code ret)), q)
  | flushBuffer f =>
    if !q.isValidStatus then (.idle (some (.code .noConsumer)), q)
    else if BufferQueue.checkFlushConfig f.config ≠ .ok then
      (.idle (some (.code (BufferQueue.checkFlushConfig f.config))), q)
    else (.flushChecking f, q)
  | detachBufferFromQueue sequence invokerType isReserveSlot =>
    q.detachSection sequence invokerType isReserveSlot
  | acquireBuffer now =>
    match q.acquireBuffer now with
    | (reply, q) => (.idle (some (.acquire reply)), q)
  | releaseBuffer sequence fence now mergeFd => q.releaseSection sequence fence now mergeFd
  | attachBufferToQueue buffer invokerType =>
    match q.attachBufferToQueueLocked buffer invokerType with
    | (ret, q) => (.idle (some (.code ret)), q)
  | attachBuffer buffer timeOut =>
    if !q.isValidStatus then (.idle (some (.code .noConsumer)), q)
    else (.attachListener buffer timeOut, q)
  | attachAndFlushBuffer buffer bedata fence config env =>
    match q.attachAndFlushBuffer buffer bedata fence config env with
    | (ret, q) => (.idle (some (.code ret)), q)
  | preAllocBuffers config allocBufferCount => q.preAllocSection config allocBufferCount
  | cleanCache =>
    if q.isAllocatingBuffer then (.clearWait, q) else (.idle (some (.code .ok)), q.clearLocked)
  | configure s => q.configureSection s

namespace Pc

/-- What a thread does next. A thread that waits for the end of an allocation cannot go on while
one is running. -/
def advance (q : BufferQueue) : Pc → Action → Option (Pc × BufferQueue)
  | idle _, .call c => some (c.start q)
  | requestWait detach config, .go =>
    if q.isAllocatingBuffer then none else some (q.requestSection detach config)
  | requestBlocked detach config, .go =>
    match q.reuseBufferForBlockMode config with
    | (point, q) => some (q.reach detach point)
  | allocating detach point, .allocated a =>
    match q.finishRequest a point with
    | (reply, q) => some (q.finishCall detach reply)
  | flushChecking f, .go =>
    if q.checkBufferQueueCacheLocked f.sequence ≠ .ok then
      some (idle (some (.code (q.checkBufferQueueCacheLocked f.sequence))), q)
    else some (flushListener f, q)
  | flushListener f, .go => some (if q.listenerRegistered then flushDo f else flushCancel f, q)
  | flushCancel f, .go =>
    some (idle (some (.code .consumerUnregisterListener)), (q.cancelBufferLocked f.sequence f.bedata).2)
  | flushDo f, .go => some (q.flushSection f)
  | flushDelete sequence, .go =>
    if q.isAllocatingBuffer then none
    else some (idle (some (.code .ok)), q.deleteBufferInCacheNoWaitForAllocatingState sequence)
  | detachDelete sequence isReserveSlot, .go =>
    if q.isAllocatingBuffer then none
    else some (idle (some (.code .ok)), q.detachForConsumer sequence isReserveSlot)
  | releaseDelete sequence, .go =>
    if q.isAllocatingBuffer then none
    else some (q.deleteBufferInCacheNoWaitForAllocatingState sequence).afterRelease
  | handOutWait updateConfig configs, .go =>
    if q.isAllocatingBuffer then none else some (q.handOutResume updateConfig configs)
  | releaseCallback handed, .go =>
    some (if q.producerListener.isSome then BufferQueue.nextCallback handed
      else idle (some (.code .ok)), q)
  | callback handed, .answered path =>
    match path with
    | .notCached => some (takeBack handed, q)
    | .function ok => some (if ok then BufferQueue.nextCallback handed.tail else takeBack handed, q)
    | .noFunction bedata => some (clientCancel bedata handed, q)
  | clientCancel bedata handed, .go =>
    match handed with
    | [] => none
    | d :: _ =>
      some (takeBack handed,
        if bedata.isSome then (q.cancelBufferLocked d.1 bedata).2 else q)
  | takeBack handed, .go =>
    match handed with
    | [] => none
    | d :: rest => some (BufferQueue.nextCallback rest, q.takeBack d.1)
  | attachListener buffer timeOut, .go =>
    if q.listenerRegistered then some (attachMain buffer timeOut, q)
    else some (idle (some (.code .consumerUnregisterListener)), q)
  | attachMain buffer timeOut, .go => some (q.attachSection buffer timeOut)
  | attachWait sequence, .go =>
    match q.bufferQueueCache.find sequence with
    | none => none
    | some ele =>
      match q.attachBufferUpdateStatus sequence ele.state with
      | (ret, q) => some (idle (some (.code ret)), q)
  | attachDelete ele count, .go =>
    if q.isAllocatingBuffer then none
    else
      let q := q.deleteBuffersLocked count
      some (idle (some (.code .ok)), { q with bufferQueueCache := q.bufferQueueCache.put ele })
  | preAllocating config count, .preAllocated as =>
    match q.insertPreAlloc config (BufferQueue.allocBuffers config count as) with
    | (ret, q) => some (idle (some (.code ret)), q)
  | unRegistering, .go =>
    some (idle (some (.code .ok)), { q with listenerSeqAndFenceCallingPid := 0 })
  | clearWait, .go =>
    if q.isAllocatingBuffer then none else some (idle (some (.code .ok)), q.clearLocked)
  | _, _ => none

end Pc

/-- The promise of the `SurfaceBufferImpl` constructor at the moment of an insertion. -/
def Action.fresh (q : BufferQueue) (pc : Pc) : Action → Bool
  | .allocated a => (q.bufferQueueCache.find a.sequence).isNone
  | .preAllocated as =>
    match pc with
    | .preAllocating _ count =>
      (List.range count).all fun i => (q.bufferQueueCache.find (as i).sequence).isNone
    | _ => true
  | _ => true

/-- One step of one thread. As in `QueueStep`, a section that goes through a null pointer leaves no
state behind. -/
def queueThread : Thread BufferQueue Pc Action := fun _ q pc a =>
  if a.fresh q pc then (pc.advance q a).filter fun r => !r.2.fault else none

end GraphicSurface
