import GraphicSurface.BufferQueue

/-! `BufferQueue::FlushBuffer`. The call checks the buffer in one critical section
(`CheckBufferQueueCache`) and changes it in another (`DoFlushBuffer`); `flushBuffer` runs the two
back to back, and `FlushBufferImprovedLocked` is the variant that keeps `mutex_`. -/

namespace GraphicSurface

/-- What a flush takes from its surroundings: the result of `FlushCache` and the clock. -/
structure FlushEnv where
  flushCache : GSError
  now : Int
deriving DecidableEq

/-- One element of a batch flush. -/
structure FlushArgs where
  sequence : ℕ
  bedata : Option ExtraData
  fence : SyncFence
  config : BufferFlushConfigWithDamages
  env : FlushEnv

def int64Max : Int := 2 ^ 63 - 1

/-- `SetDesiredPresentTimestampAndUiTimestamp`; `uiTimestamp` is the flush timestamp seen as an
unsigned number, so the negative ones are beyond `int64Max`. -/
def BufferElement.setDesiredPresentTimestampAndUiTimestamp (e : BufferElement)
    (desiredPresentTimestamp uiTimestamp now : Int) : BufferElement :=
  let e := { e with timestamp := uiTimestamp }
  if 0 < desiredPresentTimestamp then
    { e with isAutoTimestamp := false, desiredPresentTimestamp := desiredPresentTimestamp }
  else if desiredPresentTimestamp = 0 ∧ 0 < uiTimestamp ∧ uiTimestamp ≤ int64Max then
    { e with isAutoTimestamp := false, desiredPresentTimestamp := uiTimestamp }
  else { e with isAutoTimestamp := true, desiredPresentTimestamp := now }

/-- The buffer as `DoFlushBufferLocked` leaves it before `FlushCache`. -/
def SurfaceBuffer.setFlushed (b : SurfaceBuffer) (bedata : ExtraData)
    (transform singleBufferMode : Int) : SurfaceBuffer :=
  { b with
    extraData := some bedata
    surfaceBufferTransform := transform
    singleBufferMode :=
      if singleBufferMode = singleBufferModeNone then b.singleBufferMode else singleBufferMode }

namespace BufferElement

def setPrepared (bedata : ExtraData) (transform singleBufferMode : Int) (e : BufferElement) :
    BufferElement :=
  { e with buffer := e.buffer.setFlushed bedata transform singleBufferMode }

def setFlushed (fence : SyncFence) (config : BufferFlushConfigWithDamages) (now : Int)
    (e : BufferElement) : BufferElement :=
  setDesiredPresentTimestampAndUiTimestamp
    { e with
      state := .flushed
      fence := some fence
      damages := config.damages
      requestedFromListenerClientPid := 0 }
    config.desiredPresentTimestamp config.timestamp now

theorem setPrepared_seqNum (bedata : ExtraData) (transform singleBufferMode : Int)
    (e : BufferElement) :
    (e.setPrepared bedata transform singleBufferMode).buffer.seqNum = e.buffer.seqNum := rfl

@[simp] theorem setPrepared_state (bedata : ExtraData) (transform singleBufferMode : Int)
    (e : BufferElement) : (e.setPrepared bedata transform singleBufferMode).state = e.state := rfl

theorem setFlushed_seqNum (fence : SyncFence) (config : BufferFlushConfigWithDamages) (now : Int)
    (e : BufferElement) : (e.setFlushed fence config now).buffer.seqNum = e.buffer.seqNum := by
  unfold setFlushed setDesiredPresentTimestampAndUiTimestamp
  split_ifs <;> rfl

@[simp] theorem setFlushed_isDeleting (fence : SyncFence) (config : BufferFlushConfigWithDamages)
    (now : Int) (e : BufferElement) : (e.setFlushed fence config now).isDeleting = e.isDeleting := by
  unfold setFlushed setDesiredPresentTimestampAndUiTimestamp
  split_ifs <;> rfl

@[simp] theorem setFlushed_pid (fence : SyncFence) (config : BufferFlushConfigWithDamages)
    (now : Int) (e : BufferElement) :
    (e.setFlushed fence config now).requestedFromListenerClientPid = 0 := by
  unfold setFlushed setDesiredPresentTimestampAndUiTimestamp
  split_ifs <;> rfl

@[simp] theorem setFlushed_state (fence : SyncFence) (config : BufferFlushConfigWithDamages)
    (now : Int) (e : BufferElement) : (e.setFlushed fence config now).state = .flushed := by
  unfold setFlushed setDesiredPresentTimestampAndUiTimestamp
  split_ifs <;> rfl

end BufferElement

namespace BufferQueue

/-- The part of `DoFlushBufferLocked` that runs before `FlushCache` and is not undone by it. -/
def prepareFlush (q : BufferQueue) (sequence : ℕ) (bedata : ExtraData) : BufferQueue :=
  { q with
    bufferQueueCache := q.bufferQueueCache.modify sequence
      (BufferElement.setPrepared bedata q.transform q.singleBufferMode)
      (BufferElement.setPrepared_seqNum _ _ _)
    bufferSupportFastCompose := (bedata.getInt32 bufferSupportFastComposeKey).getD 0 != 0
    singleBufferMode := singleBufferModeNone }

/-- The part of `DoFlushBufferLocked` after `FlushCache`. -/
def commitFlush (q : BufferQueue) (sequence : ℕ) (fence : SyncFence)
    (config : BufferFlushConfigWithDamages) (now : Int) : BufferQueue :=
  { q with
    bufferQueueCache := q.bufferQueueCache.modify sequence
      (BufferElement.setFlushed fence config now) (BufferElement.setFlushed_seqNum _ _ _)
    dirtyList := q.dirtyList ++ [sequence]
    lastFlusedSequence := sequence
    lastFlusedFence := some fence
    lastFlushedTransform := q.transform
    lastFlushedDesiredPresentTimeStamp :=
      ((q.bufferQueueCache.find sequence).map
        (fun e => (e.setFlushed fence config now).desiredPresentTimestamp)).getD
          q.lastFlushedDesiredPresentTimeStamp }

/-- `DoFlushBufferLocked`. The extra data is dereferenced without a check. -/
def doFlushBufferLocked (q : BufferQueue) (sequence : ℕ) (bedata : Option ExtraData)
    (fence : SyncFence) (config : BufferFlushConfigWithDamages) (env : FlushEnv) :
    GSError × BufferQueue :=
  match q.bufferQueueCache.find sequence with
  | none => (.bufferNotIncache, q)
  | some ele =>
    if ele.isDeleting then (.ok, q.deleteBufferInCacheNoWaitForAllocatingState sequence)
    else
      match bedata with
      | none => (.internal, { q with fault := true })
      | some bedata =>
        let q := q.prepareFlush sequence bedata
        if ele.config.usage &&& bufferUsageCpuWrite ≠ 0 ∧ env.flushCache ≠ .ok then
          (env.flushCache, q)
        else (.ok, q.commitFlush sequence fence config env.now)

def flushBuffer (q : BufferQueue) (sequence : ℕ) (bedata : Option ExtraData)
    (fence : SyncFence) (config : BufferFlushConfigWithDamages) (env : FlushEnv) :
    GSError × BufferQueue :=
  if !q.isValidStatus then (.noConsumer, q)
  else if checkFlushConfig config ≠ .ok then (checkFlushConfig config, q)
  else if q.checkBufferQueueCacheLocked sequence ≠ .ok then
    (q.checkBufferQueueCacheLocked sequence, q)
  else if !q.listenerRegistered then
    (.consumerUnregisterListener, (q.cancelBufferLocked sequence bedata).2)
  else q.doFlushBufferLocked sequence bedata fence config env

def flushBufferImprovedLocked (q : BufferQueue) (sequence : ℕ) (bedata : Option ExtraData)
    (fence : SyncFence) (config : BufferFlushConfigWithDamages) (env : FlushEnv) :
    GSError × BufferQueue :=
  if !q.isValidStatus then (.noConsumer, q)
  else if checkFlushConfig config ≠ .ok then (checkFlushConfig config, q)
  else if q.checkBufferQueueCacheLocked sequence ≠ .ok then
    (q.checkBufferQueueCacheLocked sequence, q)
  else if !q.listenerRegistered then (.consumerUnregisterListener, q)
  else q.doFlushBufferLocked sequence bedata fence config env

section Cases

variable {motive : GSError × BufferQueue → Prop} {q : BufferQueue} {sequence : ℕ}
  {bedata : Option ExtraData} {fence : SyncFence} {config : BufferFlushConfigWithDamages}
  {env : FlushEnv}

theorem flushBuffer_cases (refused : ∀ ret, ret ≠ .ok → motive (ret, q))
    (cancelled : q.isValidStatus = true → checkFlushConfig config = .ok →
      q.checkBufferQueueCacheLocked sequence = .ok → q.listenerRegistered = false →
      motive (.consumerUnregisterListener, (q.cancelBufferLocked sequence bedata).2))
    (flushed : q.checkBufferQueueCacheLocked sequence = .ok →
      motive (q.doFlushBufferLocked sequence bedata fence config env)) :
    motive (q.flushBuffer sequence bedata fence config env) := by
  unfold flushBuffer
  split_ifs with hvalid hconfig hcheck hlistener
  · exact refused _ (by decide)
  · exact refused _ hconfig
  · exact refused _ hcheck
  · exact cancelled (by simpa using hvalid) (not_not.mp hconfig) (not_not.mp hcheck)
      (by simpa using hlistener)
  · exact flushed (not_not.mp hcheck)

theorem flushBufferImprovedLocked_cases (refused : ∀ ret, ret ≠ .ok → motive (ret, q))
    (flushed : q.checkBufferQueueCacheLocked sequence = .ok →
      motive (q.doFlushBufferLocked sequence bedata fence config env)) :
    motive (q.flushBufferImprovedLocked sequence bedata fence config env) := by
  unfold flushBufferImprovedLocked
  split_ifs with hvalid hconfig hcheck hlistener
  · exact refused _ (by decide)
  · exact refused _ hconfig
  · exact refused _ hcheck
  · exact refused _ (by decide)
  · exact flushed (not_not.mp hcheck)

end Cases

/-- The loop of `BufferQueueProducer::FlushBuffers`: it stops at the first error. -/
def flushBuffers (q : BufferQueue) : List FlushArgs → GSError × BufferQueue
  | [] => (.ok, q)
  | f :: fs =>
    match q.flushBuffer f.sequence f.bedata f.fence f.config f.env with
    | (ret, q) => if ret ≠ .ok then (ret, q) else q.flushBuffers fs

theorem flushBuffers_preserves {R : BufferQueue → BufferQueue → Prop} (refl : ∀ q, R q q)
    (step : ∀ (q : BufferQueue) (f : FlushArgs),
      R q (q.flushBuffer f.sequence f.bedata f.fence f.config f.env).2)
    (trans : ∀ {p q r}, R p q → R q r → R p r) (q : BufferQueue) (fs : List FlushArgs) :
    R q (q.flushBuffers fs).2 := by
  induction fs generalizing q with
  | nil => exact refl q
  | cons f fs ih =>
    have hone := step q f
    unfold flushBuffers
    dsimp only
    split
    · exact hone
    · exact trans hone (ih _)

end BufferQueue

end GraphicSurface
