import GraphicSurface.BufferCache

/-! The state of one `BufferQueue` and the steps that several of its calls share.
A function named `…Locked` is one critical section of `mutex_` or a part of one. `QueueSettings`
holds the members that only their own setters write. Three members are not in the source:
`fault` is raised where the code would go through a null pointer or a missing map entry,
`noticed` records every number ever pushed on `deletingList_`, and `deletedForRS` records the
calls of `OnBufferDeleteForRS`. No function branches on these three. -/

namespace GraphicSurface

structure QueueSettings where
  bufferQueueSize : ℕ := surfaceDefaultQueueSize
  maxQueueSize : ℕ := 0
  defaultUsage : ℕ := 0
  scalingMode : Int := 1
  videoDimType : Int := 0
  transform : Int := 0
  listener : Bool := false
  listenerClazz : Bool := false
  isValidStatus : Bool := true
  isBatch : Bool := false
  acquireLastFlushedBufSequence : ℕ := invalidSequence
  requestBufferNoBlockMode : Bool := false
  isPriorityAlloc : Bool := false
  dropFrameLevel : Int := 0
  connectedPid : Int := 0
  listenerSeqAndFenceCallingPid : Int := 0
  isOnReleaseBufferWithSequenceAndFence : Bool := false
  producerListener : Option ℕ := none
deriving DecidableEq

structure BufferQueue extends QueueSettings where
  freeList : List ℕ := []
  dirtyList : List ℕ := []
  deletingList : List ℕ := []
  producerCacheList : List ℕ := []
  bufferQueueCache : BufferCache := BufferCache.empty
  producerCacheClean : Bool := false
  lastFlusedSequence : ℕ := 0
  lastFlusedFence : Option SyncFence := none
  lastFlushedTransform : Int := 0
  lastFlushedDesiredPresentTimeStamp : Int := 0
  bufferSupportFastCompose : Bool := false
  isAllocatingBuffer : Bool := false
  detachReserveSlotNum : ℕ := 0
  lastConsumeTime : Int := 0
  singleBufferMode : Int := singleBufferModeNone
  fault : Bool := false
  noticed : List ℕ := []
  deletedForRS : List ℕ := []
deriving DecidableEq

/-- What the outside world decides about one allocation: the object and the number that the
`SurfaceBufferImpl` constructor gives, and whether `Alloc` and `Map` succeed. -/
structure Allocation where
  object : ℕ
  sequence : ℕ
  alloc : Bool
  map : Bool
deriving DecidableEq

namespace SurfaceBuffer

def setColorGamutAndTransform (b : SurfaceBuffer) (colorGamut transform : Int) : SurfaceBuffer :=
  { b with surfaceBufferColorGamut := colorGamut, surfaceBufferTransform := transform }

/-- A `SurfaceBufferImpl` after a successful `Alloc(config)`. -/
def allocated (a : Allocation) (config : BufferRequestConfig) : SurfaceBuffer where
  object := a.object
  seqNum := a.sequence
  width := config.width
  height := config.height
  format := config.format
  usage := config.usage
  bufferRequestConfig := config
  surfaceBufferColorGamut := config.colorGamut
  surfaceBufferTransform := config.transform
  surfaceBufferScalingMode := 1
  surfaceBufferVideoDimensionType := 0
  surfaceBufferWidth := config.width
  surfaceBufferHeight := config.height
  singleBufferMode := singleBufferModeNone
  extraData := some ∅
  syncFence := none
  consumerAttachBufferFlag := false

end SurfaceBuffer

/-! Writes to an element. None of them touches the sequence number of its buffer. -/

namespace BufferElement

def setState (s : BufferState) (e : BufferElement) : BufferElement := { e with state := s }

def recolour (colorGamut transform : Int) (e : BufferElement) : BufferElement :=
  { e with buffer := e.buffer.setColorGamutAndTransform colorGamut transform }

def setCancelled (bedata : Option ExtraData) (e : BufferElement) : BufferElement :=
  { e with
    state := .released
    buffer := { e.buffer with extraData := bedata }
    requestedFromListenerClientPid := 0 }

theorem setState_seqNum (s : BufferState) (e : BufferElement) :
    (e.setState s).buffer.seqNum = e.buffer.seqNum := rfl

theorem recolour_seqNum (colorGamut transform : Int) (e : BufferElement) :
    (e.recolour colorGamut transform).buffer.seqNum = e.buffer.seqNum := rfl

theorem recolour_config_seqNum (config : BufferRequestConfig) (e : BufferElement) :
    (e.recolour config.colorGamut config.transform).buffer.seqNum = e.buffer.seqNum := rfl

theorem setCancelled_seqNum (bedata : Option ExtraData) (e : BufferElement) :
    (e.setCancelled bedata).buffer.seqNum = e.buffer.seqNum := rfl

@[simp] theorem setState_state (s : BufferState) (e : BufferElement) :
    (e.setState s).state = s := rfl

@[simp] theorem recolour_state (colorGamut transform : Int) (e : BufferElement) :
    (e.recolour colorGamut transform).state = e.state := rfl

@[simp] theorem setCancelled_state (bedata : Option ExtraData) (e : BufferElement) :
    (e.setCancelled bedata).state = .released := rfl

end BufferElement

namespace BufferQueue

/-- `GetUsedSize`; the cast to 32 bits is left out, the keys being numbers of live buffers. -/
def getUsedSize (q : BufferQueue) : ℕ := q.bufferQueueCache.size

/-- The 32-bit expression `bufferQueueSize_ - detachReserveSlotNum_`. -/
def unreservedSize (q : BufferQueue) : ℕ :=
  (q.bufferQueueSize + 2 ^ 32 - q.detachReserveSlotNum) % 2 ^ 32

def listenerRegistered (q : BufferQueue) : Bool := q.listener || q.listenerClazz

/-- The condition under which a release hands free buffers to the producer's listener. -/
def listenerSeqAndFenceActive (q : BufferQueue) : Bool :=
  q.isOnReleaseBufferWithSequenceAndFence && q.listenerSeqAndFenceCallingPid != 0 &&
    q.connectedPid == q.listenerSeqAndFenceCallingPid

/-- The test in the search loop of `PopFromFreeListLocked`. -/
def reusable (q : BufferQueue) (config : BufferRequestConfig) (sequence : ℕ) : Bool :=
  match q.bufferQueueCache.find sequence with
  | some ele => ele.config.same config && sequence != q.acquireLastFlushedBufSequence
  | none => false

/-- The free list with the locked last-flushed buffer moved from the front to the back. -/
def rotateLocked (q : BufferQueue) : List ℕ :=
  match q.freeList with
  | [] => []
  | front :: rest =>
    if front = q.acquireLastFlushedBufSequence then rest ++ [front] else front :: rest

/-- The second half of `PopFromFreeListLocked`: no buffer has the wanted configuration and the
queue is full, so the oldest free one is taken whatever its configuration. -/
def popFrontFree (q : BufferQueue) (config : BufferRequestConfig) :
    Option SurfaceBuffer × BufferQueue :=
  match q.rotateLocked with
  | [] => (none, q)
  | front :: rest =>
    match q.bufferQueueCache.find front with
    | none => (none, { q with fault := true })
    | some ele =>
      (some (ele.recolour config.colorGamut config.transform).buffer,
        { q with
          freeList := rest
          bufferQueueCache := q.bufferQueueCache.modify front
            (BufferElement.recolour config.colorGamut config.transform)
            (BufferElement.recolour_seqNum _ _) })

/-- `none` is the error code `GSERROR_NO_BUFFER`. -/
def popFromFreeListLocked (q : BufferQueue) (config : BufferRequestConfig) :
    Option SurfaceBuffer × BufferQueue :=
  match q.freeList.find? (q.reusable config) with
  | some sequence =>
    ((q.bufferQueueCache.find sequence).map (·.buffer),
      { q with freeList := q.freeList.erase sequence })
  | none =>
    if q.freeList = [] ∨ q.getUsedSize < q.unreservedSize ∨
        q.freeList = [q.acquireLastFlushedBufSequence] then (none, q)
    else q.popFrontFree config

theorem popFromFreeListLocked_induct {P : BufferQueue → Prop} (q : BufferQueue)
    (config : BufferRequestConfig) (take : ∀ l, P { q with freeList := l })
    (lost : P { q with fault := true })
    (front : ∀ k l, P { q with
      freeList := l
      bufferQueueCache := q.bufferQueueCache.modify k
        (BufferElement.recolour config.colorGamut config.transform)
        (BufferElement.recolour_seqNum _ _) }) :
    P (q.popFromFreeListLocked config).2 := by
  unfold popFromFreeListLocked popFrontFree
  split
  · exact take _
  · split
    · exact take q.freeList
    · split
      · exact take q.freeList
      · split
        · exact lost
        · exact front _ _

def popFromDirtyListLocked (q : BufferQueue) : Option SurfaceBuffer × BufferQueue :=
  match q.dirtyList with
  | [] => (none, q)
  | front :: rest =>
    match q.bufferQueueCache.find front with
    | none => (none, { q with fault := true })
    | some ele => (some ele.buffer, { q with dirtyList := rest })

theorem popFromDirtyListLocked_induct {P : BufferQueue → Prop} (q : BufferQueue)
    (take : ∀ l, P { q with dirtyList := l }) (lost : P { q with fault := true }) :
    P q.popFromDirtyListLocked.2 := by
  unfold popFromDirtyListLocked
  split
  · exact take q.dirtyList
  · split
    · exact lost
    · exact take _

def checkRequestConfig (config : BufferRequestConfig) : GSError :=
  if config.colorGamut ≤ -1 ∨ 10 + 1 < config.colorGamut then .invalidArguments
  else if config.transform < 0 ∨ 12 ≤ config.transform then .invalidArguments
  else .ok

def checkFlushConfig (config : BufferFlushConfigWithDamages) : GSError :=
  if config.damages.any (fun d => d.w < 0 || d.h < 0) then .invalidArguments else .ok

def requestBufferCheckStatus (q : BufferQueue) : GSError :=
  if q.isBatch then .ok
  else if !q.isValidStatus then .noConsumer
  else if !q.listenerRegistered then .consumerUnregisterListener
  else .ok

def addDeletingBuffersLocked (q : BufferQueue) (deletingBuffers : List ℕ) :
    List ℕ × BufferQueue :=
  (deletingBuffers ++ q.deletingList, { q with deletingList := [] })

/-- `OnBufferDeleteForRS` for a cached number. -/
def onBufferDeleteForRS (q : BufferQueue) (sequence : ℕ) : BufferQueue :=
  { q with deletedForRS := q.deletedForRS ++ [sequence] }

def deleteBufferInCacheNoWaitForAllocatingState (q : BufferQueue) (sequence : ℕ) : BufferQueue :=
  match q.bufferQueueCache.find sequence with
  | none => q
  | some ele =>
    if ele.isPreAllocBuffer then
      { q with
        bufferQueueCache := q.bufferQueueCache.erase sequence
        freeList := q.freeList.erase sequence }
    else
      { q.onBufferDeleteForRS sequence with
        bufferQueueCache := q.bufferQueueCache.erase sequence
        freeList := q.freeList.erase sequence
        deletingList := q.deletingList ++ [sequence]
        noticed := q.noticed ++ [sequence] }

def cancelBufferLocked (q : BufferQueue) (sequence : ℕ) (bedata : Option ExtraData) :
    GSError × BufferQueue :=
  match q.bufferQueueCache.find sequence with
  | none => (.bufferNotIncache, q)
  | some ele =>
    if ele.state ≠ .requested ∧ ele.state ≠ .attached then (.bufferStateInvalid, q)
    else
      (.ok,
        { q with
          freeList := q.freeList ++ [sequence]
          bufferQueueCache := q.bufferQueueCache.modify sequence
            (BufferElement.setCancelled bedata) (BufferElement.setCancelled_seqNum bedata) })

def checkBufferQueueCacheLocked (q : BufferQueue) (sequence : ℕ) : GSError :=
  match q.bufferQueueCache.find sequence with
  | none => .bufferNotIncache
  | some ele =>
    if ele.state ≠ .requested ∧ ele.state ≠ .attached then .bufferStateInvalid else .ok

def setProducerCacheCleanFlagLocked (q : BufferQueue) (flag : Bool) : BufferQueue :=
  { q with producerCacheClean := flag, producerCacheList := [] }

def checkProducerCacheListLocked (q : BufferQueue) : Bool :=
  q.bufferQueueCache.keys.all (q.producerCacheList.contains ·)

/-- `ClearLocked`. Erasing the whole map calls `OnBufferDeleteForRS` for every key first. -/
def clearLocked (q : BufferQueue) : BufferQueue :=
  { q with
    deletedForRS := q.deletedForRS ++ q.bufferQueueCache.keys
    bufferQueueCache := BufferCache.empty
    freeList := []
    dirtyList := []
    deletingList := [] }

end BufferQueue

end GraphicSurface
