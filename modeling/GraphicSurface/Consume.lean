import GraphicSurface.Flush
import GraphicSurface.Request

/-! The consumer's side: `ReleaseBuffer` with its hand-out to a producer listener, and
`AcquireBuffer` in both forms. A release is one critical section followed by the callbacks; the
callbacks of one release run one after the other, and a failing one makes the server take the
buffer back in a critical section of its own. -/

namespace GraphicSurface

abbrev BufferAndFence := SurfaceBuffer × Option SyncFence

/-- What one release takes from its surroundings: the clock, the descriptor of a merged fence,
and whether the listener's callback for a sequence number returns `GSERROR_OK`. -/
structure ReleaseEnv where
  now : Int
  mergeFd : Int
  callback : ℕ → Bool

structure AcquireReply where
  ret : GSError
  buffer : Option SurfaceBuffer
  fence : Option SyncFence
  timestamp : Int
  damages : List Rect
deriving DecidableEq

def AcquireReply.error (ret : GSError) : AcquireReply := ⟨ret, none, none, 0, []⟩

def BufferElement.releaseFence (e : BufferElement) (fence : Option SyncFence) (mergeFd : Int) :
    Option SyncFence :=
  match fence with
  | none => e.buffer.syncFence
  | some f =>
    if e.buffer.syncFence.any (·.isValid) then
      some (SyncFence.mergeFence mergeFd e.buffer.syncFence fence)
    else some f

/-- `SetAndMergeSyncFence`. -/
def SurfaceBuffer.setAndMergeSyncFence (b : SurfaceBuffer) (syncFence : Option SyncFence)
    (mergeFd : Int) : SurfaceBuffer :=
  match syncFence with
  | none => b
  | some f =>
    if b.syncFence.any (·.isValid) then
      { b with syncFence := some (SyncFence.mergeFence mergeFd b.syncFence (some f)) }
    else { b with syncFence := some f }

namespace BufferElement

/-- The writes of `ReleaseBufferLocked` to the element. The release passes a null pointer to
`SetAndMergeSyncFence`. -/
def setReleased (fence : Option SyncFence) (mergeFd : Int) (e : BufferElement) : BufferElement :=
  { e with
    state := .released
    fence := e.releaseFence fence mergeFd
    buffer :=
      { e.buffer.setAndMergeSyncFence none mergeFd with singleBufferMode := singleBufferModeNone } }

def setRequestedFromListener (pid : Int) (e : BufferElement) : BufferElement :=
  { e with requestedFromListenerClientPid := pid }

def setAcquired (now : Int) (e : BufferElement) : BufferElement :=
  { e with state := .acquired, lastAcquireTime := now }

theorem setReleased_seqNum (fence : Option SyncFence) (mergeFd : Int) (e : BufferElement) :
    (e.setReleased fence mergeFd).buffer.seqNum = e.buffer.seqNum := rfl

theorem setRequestedFromListener_seqNum (pid : Int) (e : BufferElement) :
    (e.setRequestedFromListener pid).buffer.seqNum = e.buffer.seqNum := rfl

theorem setAcquired_seqNum (now : Int) (e : BufferElement) :
    (e.setAcquired now).buffer.seqNum = e.buffer.seqNum := rfl

@[simp] theorem setReleased_state (fence : Option SyncFence) (mergeFd : Int) (e : BufferElement) :
    (e.setReleased fence mergeFd).state = .released := rfl

@[simp] theorem setRequestedFromListener_state (pid : Int) (e : BufferElement) :
    (e.setRequestedFromListener pid).state = e.state := rfl

@[simp] theorem setAcquired_state (now : Int) (e : BufferElement) :
    (e.setAcquired now).state = .acquired := rfl

end BufferElement

namespace BufferQueue

/-- `ReleaseBufferLocked`, up to the wait in `DeleteBufferInCache`. -/
def markReleased (q : BufferQueue) (sequence : ℕ) (lastAcquireTime : Int)
    (fence : Option SyncFence) (env : ReleaseEnv) : BufferQueue :=
  { q with
    bufferQueueCache := q.bufferQueueCache.modify sequence
      (BufferElement.setReleased fence env.mergeFd) (BufferElement.setReleased_seqNum _ _)
    lastConsumeTime := env.now - lastAcquireTime }

def releaseBufferLocked (q : BufferQueue) (sequence : ℕ) (fence : Option SyncFence)
    (env : ReleaseEnv) : GSError × BufferQueue :=
  match q.bufferQueueCache.find sequence with
  | none => (.bufferNotIncache, q)
  | some ele =>
    if ele.state ≠ .acquired ∧ ele.state ≠ .attached then (.bufferStateInvalid, q)
    else
      let q := q.markReleased sequence ele.lastAcquireTime fence env
      if ele.isDeleting then (.ok, q.deleteBufferInCacheNoWaitForAllocatingState sequence)
      else (.ok, { q with freeList := q.freeList ++ [sequence] })

/-- The configurations that `RequestBuffersForListenerLocked` collects from the free list, each
one once in the sense of `operator ==`. -/
def collectConfigs (q : BufferQueue) : List ℕ → List BufferRequestConfig → List BufferRequestConfig
  | [], configs => configs
  | sequence :: rest, configs =>
    match q.bufferQueueCache.find sequence with
    | none => q.collectConfigs rest configs
    | some ele =>
      let config := { ele.buffer.bufferRequestConfig with timeout := 0 }
      if configs.any (·.same config) then q.collectConfigs rest configs
      else q.collectConfigs rest (configs ++ [config])

/-- An allocator that is never asked: a request for the listener does not allocate. -/
def noAllocation : Allocation := ⟨0, 0, false, false⟩

def setRequestedFromListener (q : BufferQueue) (sequence : ℕ) : BufferQueue :=
  { q with
    bufferQueueCache := q.bufferQueueCache.modify sequence
      (BufferElement.setRequestedFromListener q.listenerSeqAndFenceCallingPid)
      (BufferElement.setRequestedFromListener_seqNum _) }

/-- The `while` loop of `RequestBuffersForListenerLocked`. Every round hands out a free buffer or
goes on to the next configuration, so `fuel` counts both. -/
def handOut (q : BufferQueue) :
    ℕ → List BufferRequestConfig → List (ℕ × Option SyncFence) × BufferQueue
  | 0, _ => ([], q)
  | _ + 1, [] => ([], q)
  | fuel + 1, config :: configs =>
    match q.requestBufferLocked config noAllocation true with
    | (reply, q) =>
      if reply.ret = .ok then
        let (handed, q) :=
          (q.setRequestedFromListener reply.retval.sequence).handOut fuel (config :: configs)
        ((reply.retval.sequence, reply.retval.fence) :: handed, q)
      else q.handOut fuel configs

def requestBuffersForListenerLocked (q : BufferQueue) :
    List (ℕ × Option SyncFence) × BufferQueue :=
  let configs := q.collectConfigs q.freeList []
  q.handOut (q.freeList.length + configs.length) configs

/-- The critical section of `ReleaseBuffer`. -/
def releaseBufferSection (q : BufferQueue) (sequence : ℕ) (fence : Option SyncFence)
    (env : ReleaseEnv) : GSError × List (ℕ × Option SyncFence) × BufferQueue :=
  match q.releaseBufferLocked sequence fence env with
  | (ret, q) =>
    if ret ≠ .ok then (ret, [], q)
    else if q.listenerSeqAndFenceActive then (ret, q.requestBuffersForListenerLocked)
    else (ret, [], q)

/-- The critical section of `OnReleaseBufferWithSequenceAndFence` for a callback that failed. -/
def takeBack (q : BufferQueue) (sequence : ℕ) : BufferQueue :=
  match q.bufferQueueCache.find sequence with
  | none => q
  | some ele => (q.cancelBufferLocked sequence ele.buffer.extraData).2

/-- `OnReleaseBufferWithSequenceAndFence` with nothing in between. -/
def onReleaseBufferWithSequenceAndFence (q : BufferQueue) (callback : ℕ → Bool)
    (handed : List (ℕ × Option SyncFence)) : BufferQueue :=
  handed.foldl (fun q h => if callback h.1 then q else q.takeBack h.1) q

def releaseBuffer (q : BufferQueue) (sequence : ℕ) (fence : Option SyncFence)
    (env : ReleaseEnv) : GSError × BufferQueue :=
  match q.releaseBufferSection sequence fence env with
  | (ret, handed, q) =>
    if q.producerListener.isSome then
      (ret, q.onReleaseBufferWithSequenceAndFence env.callback handed)
    else (ret, q)

/-- Write `ACQUIRED` and the clock to a cached element. -/
def markAcquired (q : BufferQueue) (sequence : ℕ) (now : Int) : BufferQueue :=
  { q with
    bufferQueueCache := q.bufferQueueCache.modify sequence (BufferElement.setAcquired now)
      (BufferElement.setAcquired_seqNum now) }

def acquireBuffer (q : BufferQueue) (now : Int) : AcquireReply × BufferQueue :=
  match q.popFromDirtyListLocked with
  | (none, q) => (.error .noBuffer, q)
  | (some buffer, q) =>
    match q.bufferQueueCache.find buffer.seqNum with
    | none => (.error .noBuffer, { q with fault := true })
    | some ele =>
      (⟨.ok, some buffer, ele.fence, ele.timestamp, ele.damages⟩, q.markAcquired buffer.seqNum now)

/-- `dropCount` rounds of `DropBuffersByLevel`. -/
def dropFronts (q : BufferQueue) (now : Int) : ℕ → List BufferAndFence × BufferQueue
  | 0 => ([], q)
  | dropCount + 1 =>
    match q.dirtyList with
    | [] => ([], q)
    | front :: rest =>
      match q.bufferQueueCache.find front with
      | none => ([], { q with fault := true })
      | some ele =>
        let (dropped, q) := { q.markAcquired front now with dirtyList := rest }.dropFronts now dropCount
        ((ele.buffer, ele.fence) :: dropped, q)

def dropBuffersByLevel (q : BufferQueue) (now : Int) : List BufferAndFence × BufferQueue :=
  if q.dropFrameLevel ≤ 0 ∨ (q.dirtyList.length : Int) ≤ q.dropFrameLevel then ([], q)
  else q.dropFronts now (q.dirtyList.length - q.dropFrameLevel.toNat)

/-- A frame that an acquire for `expectPresentTimestamp` may take or drop. -/
def BufferElement.eligible (e : BufferElement) (expectPresentTimestamp : Int)
    (isUsingAutoTimestamp : Bool) : Bool :=
  !(e.isAutoTimestamp && !isUsingAutoTimestamp) &&
    decide (e.desiredPresentTimestamp ≤ expectPresentTimestamp)

/-- The `while` loop of the timestamp variant, over the dirty list it walks. The front of the
queue is dropped while it and its successor are both eligible. -/
def dropByTimestamp (q : BufferQueue) (expectPresentTimestamp : Int) (isUsingAutoTimestamp : Bool) :
    List ℕ → List BufferAndFence × BufferQueue
  | [] => ([], q)
  | [_] => ([], q)
  | first :: second :: rest =>
    match q.bufferQueueCache.find first, q.bufferQueueCache.find second with
    | some f, some s =>
      if BufferElement.eligible f expectPresentTimestamp isUsingAutoTimestamp &&
          BufferElement.eligible s expectPresentTimestamp isUsingAutoTimestamp then
        let (dropped, q) := { q with
          dirtyList := second :: rest
          bufferQueueCache := q.bufferQueueCache.modify first
            (BufferElement.setState .acquired) (BufferElement.setState_seqNum _) }.dropByTimestamp expectPresentTimestamp isUsingAutoTimestamp
              (second :: rest)
        ((f.buffer, f.fence) :: dropped, q)
      else ([], q)
    | _, _ => ([], { q with fault := true })

/-- `ReleaseDropBuffers`: every dropped buffer goes through `ReleaseBuffer`. -/
def releaseDropBuffers (q : BufferQueue) (envs : ℕ → ReleaseEnv) (dropBuffers : List BufferAndFence) :
    BufferQueue :=
  dropBuffers.foldl (fun q d => (q.releaseBuffer d.1.seqNum d.2 (envs d.1.seqNum)).2) q

/-- The front frame is shown at a fixed time that is ahead, by at most a second. -/
def BufferElement.notReady (e : BufferElement) (expectPresentTimestamp : Int) : Bool :=
  !e.isAutoTimestamp && decide (expectPresentTimestamp < e.desiredPresentTimestamp) &&
    decide (e.desiredPresentTimestamp - oneSecondTimestamp ≤ expectPresentTimestamp)

/-- `isBufferUtilPresentTimestampReady`. -/
def isPresentTimestampReady (desiredPresentTimestamp expectPresentTimestamp : Int) : Bool :=
  decide (desiredPresentTimestamp ≤ expectPresentTimestamp) ||
    decide (expectPresentTimestamp < desiredPresentTimestamp - oneSecondTimestamp)

/-- The second critical section of the timestamp variant: an error code to return at once, or
`ok` with the dropped frames. On the last exit the dropped frames are not released. -/
def acquireByTimestampSection (q : BufferQueue) (expectPresentTimestamp : Int)
    (isUsingAutoTimestamp : Bool) : GSError × List BufferAndFence × BufferQueue :=
  match q.dirtyList with
  | [] => (.noBuffer, [], q)
  | front :: _ =>
    match q.bufferQueueCache.find front with
    | none => (.noBuffer, [], { q with fault := true })
    | some ele =>
      if BufferElement.notReady ele expectPresentTimestamp then (.noBufferReady, [], q)
      else
        let (dropped, q) := q.dropByTimestamp expectPresentTimestamp isUsingAutoTimestamp q.dirtyList
        match q.dirtyList.head?.bind q.bufferQueueCache.find with
        | none => (.noBuffer, [], { q with fault := true })
        | some ele =>
          if !ele.isAutoTimestamp &&
              !isPresentTimestampReady ele.desiredPresentTimestamp expectPresentTimestamp then
            (.noBufferReady, [], q)
          else (.ok, dropped, q)

/-- `AcquireBuffer` with a present timestamp. -/
def acquireBufferByTimestamp (q : BufferQueue) (expectPresentTimestamp : Int)
    (isUsingAutoTimestamp : Bool) (now : Int) (envs : ℕ → ReleaseEnv) :
    AcquireReply × BufferQueue :=
  if expectPresentTimestamp ≤ 0 then q.acquireBuffer now
  else if q.dirtyList = [] then (.error .noBuffer, q)
  else
    let (dropped, q) := q.dropBuffersByLevel now
    let q := q.releaseDropBuffers envs dropped
    match q.acquireByTimestampSection expectPresentTimestamp isUsingAutoTimestamp with
    | (ret, dropped, q) =>
      if ret ≠ .ok then (.error ret, q)
      else (q.releaseDropBuffers envs dropped).acquireBuffer now

/-! What holds before a loop and is kept by each of its rounds holds after it. -/

section Loops

variable {P : BufferQueue → Prop} {q : BufferQueue}

theorem onReleaseBufferWithSequenceAndFence_induct (h : P q)
    (round : ∀ q sequence, P q → P (q.takeBack sequence)) (callback : ℕ → Bool)
    (handed : List (ℕ × Option SyncFence)) :
    P (q.onReleaseBufferWithSequenceAndFence callback handed) := by
  unfold onReleaseBufferWithSequenceAndFence
  induction handed generalizing q with
  | nil => exact h
  | cons d handed ih =>
    rw [List.foldl_cons]
    split
    · exact ih h
    · exact ih (round q d.1 h)

theorem releaseDropBuffers_induct (h : P q) (envs : ℕ → ReleaseEnv)
    (round : ∀ q sequence fence, P q → P (q.releaseBuffer sequence fence (envs sequence)).2)
    (dropBuffers : List BufferAndFence) : P (q.releaseDropBuffers envs dropBuffers) := by
  unfold releaseDropBuffers
  induction dropBuffers generalizing q with
  | nil => exact h
  | cons d dropBuffers ih =>
    rw [List.foldl_cons]
    exact ih (round q d.1.seqNum d.2 h)

theorem acquireBuffer_induct {now : Int} (pop : P q.popFromDirtyListLocked.2)
    (lost : ∀ q, P q → P { q with fault := true })
    (mark : ∀ q sequence, P q → P (q.markAcquired sequence now)) : P (q.acquireBuffer now).2 := by
  unfold acquireBuffer
  split
  · rename_i q₁ h
    rw [h] at pop
    exact pop
  · rename_i buffer q₁ h
    rw [h] at pop
    split
    · exact lost q₁ pop
    · exact mark q₁ buffer.seqNum pop

theorem dropFronts_induct {now : Int} (h : P q) (lost : ∀ q, P q → P { q with fault := true })
    (round : ∀ q front rest, P q → P { q.markAcquired front now with dirtyList := rest })
    (dropCount : ℕ) : P (q.dropFronts now dropCount).2 := by
  induction dropCount generalizing q with
  | zero => exact h
  | succ dropCount ih =>
    unfold dropFronts
    split
    · exact h
    · split
      · exact lost q h
      · exact ih (round q _ _ h)

theorem dropBuffersByLevel_induct {now : Int} (h : P q)
    (lost : ∀ q, P q → P { q with fault := true })
    (round : ∀ q front rest, P q → P { q.markAcquired front now with dirtyList := rest }) :
    P (q.dropBuffersByLevel now).2 := by
  unfold dropBuffersByLevel
  split
  · exact h
  · exact dropFronts_induct h lost round _

theorem dropByTimestamp_induct (h : P q) (lost : ∀ q, P q → P { q with fault := true })
    (round : ∀ q first rest, P q → P { q with
      dirtyList := rest
      bufferQueueCache := q.bufferQueueCache.modify first (BufferElement.setState .acquired)
        (BufferElement.setState_seqNum _) })
    (expectPresentTimestamp : Int) (isUsingAutoTimestamp : Bool) (l : List ℕ) :
    P (q.dropByTimestamp expectPresentTimestamp isUsingAutoTimestamp l).2 := by
  induction l generalizing q with
  | nil => exact h
  | cons first rest ih =>
    cases rest with
    | nil => exact h
    | cons second rest =>
      unfold dropByTimestamp
      split
      · split
        · exact ih (round q _ _ h)
        · exact h
      · exact lost q h

theorem acquireByTimestampSection_induct (h : P q) (lost : ∀ q, P q → P { q with fault := true })
    (round : ∀ q first rest, P q → P { q with
      dirtyList := rest
      bufferQueueCache := q.bufferQueueCache.modify first (BufferElement.setState .acquired)
        (BufferElement.setState_seqNum _) })
    (expectPresentTimestamp : Int) (isUsingAutoTimestamp : Bool) :
    P (q.acquireByTimestampSection expectPresentTimestamp isUsingAutoTimestamp).2.2 := by
  unfold acquireByTimestampSection
  split
  · exact h
  · split
    · exact lost q h
    · split
      · exact h
      · have hdrop := dropByTimestamp_induct h lost round expectPresentTimestamp
          isUsingAutoTimestamp q.dirtyList
        dsimp only
        split
        · exact lost _ hdrop
        · split <;> exact hdrop

end Loops

end BufferQueue

end GraphicSurface
