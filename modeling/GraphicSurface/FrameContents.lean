import GraphicSurface.FrameOrder
import GraphicSurface.Passages
import GraphicSurface.TimelyFrames

/-! What the consumer receives with a buffer. A flush writes a fence, a timestamp, the damages, the
extra data and the transform next to the buffer, and an acquire returns what it finds there. A record
of the last flush of every number describes all entries that wait, whatever else is called. -/

namespace GraphicSurface

open Runs BufferElement

structure FrameContent where
  sequence : ℕ
  fence : Option SyncFence
  timestamp : Int
  damages : List Rect
  extraData : Option ExtraData
  transform : Int
deriving DecidableEq

structure PendingFrame extends FrameContent where
  presentTime : Option Int
deriving DecidableEq

/-- The time that a flush asks for, if it asks for one. -/
def BufferFlushConfigWithDamages.presentTime (config : BufferFlushConfigWithDamages) : Option Int :=
  if 0 < config.desiredPresentTimestamp then some config.desiredPresentTimestamp
  else if config.desiredPresentTimestamp = 0 ∧ 0 < config.timestamp ∧ config.timestamp ≤ int64Max then
    some config.timestamp
  else none

/-- The frame that a flush with these arguments gives to a queue with this transform. -/
def FlushArgs.frame (f : FlushArgs) (transform : Int) : PendingFrame where
  sequence := f.sequence
  fence := some f.fence
  timestamp := f.config.timestamp
  damages := f.config.damages
  extraData := f.bedata
  transform := transform
  presentTime := f.config.presentTime

def BufferElement.frame (e : BufferElement) : PendingFrame where
  sequence := e.buffer.seqNum
  fence := e.fence
  timestamp := e.timestamp
  damages := e.damages
  extraData := e.buffer.extraData
  transform := e.buffer.surfaceBufferTransform
  presentTime := e.presentTime

/-- The last frame that was given under each number. -/
abbrev FrameRecord := ℕ → Option PendingFrame

namespace FrameRecord

def write (record : FrameRecord) (frame : PendingFrame) : FrameRecord :=
  Function.update record frame.sequence (some frame)

def writes (record : FrameRecord) (frames : List PendingFrame) : FrameRecord :=
  frames.foldl write record

@[simp] theorem writes_nil (record : FrameRecord) : record.writes [] = record := rfl

theorem writes_append (record : FrameRecord) (frames frames' : List PendingFrame) :
    record.writes (frames ++ frames') = (record.writes frames).writes frames' := List.foldl_append

theorem writes_of_notMem (record : FrameRecord) {k : ℕ} {frames : List PendingFrame}
    (hk : k ∉ frames.map (·.sequence)) : record.writes frames k = record k := by
  induction frames generalizing record with
  | nil => rfl
  | cons frame frames ih =>
    rw [List.map_cons, List.mem_cons, not_or] at hk
    change (record.write frame).writes frames k = record k
    rw [ih _ hk.2, write, Function.update_of_ne hk.1]

theorem writes_of_mem (record : FrameRecord) {frames : List PendingFrame}
    (hnodup : (frames.map (·.sequence)).Nodup) {frame : PendingFrame} (hframe : frame ∈ frames) :
    record.writes frames frame.sequence = some frame := by
  induction frames generalizing record with
  | nil => cases hframe
  | cons first frames ih =>
    rw [List.map_cons, List.nodup_cons] at hnodup
    change (record.write first).writes frames frame.sequence = some frame
    rcases List.mem_cons.mp hframe with rfl | hframe
    · rw [writes_of_notMem _ hnodup.1, write, Function.update_self]
    · exact ih _ hnodup.2 hframe

end FrameRecord

namespace BufferQueue

/-- The record tells the frame in every entry that waits for the consumer. -/
def Recorded (q : BufferQueue) (record : FrameRecord) : Prop :=
  ∀ k e, q.bufferQueueCache.find k = some e → e.state = .flushed → record k = some e.frame

variable {q q' : BufferQueue} {record : FrameRecord} {sequence : ℕ} {e : BufferElement}

namespace Recorded

theorem of_cache (h : q.Recorded record) (hcache : q'.bufferQueueCache = q.bufferQueueCache) :
    q'.Recorded record := by
  intro k e he
  rw [hcache] at he
  exact h k e he

theorem of_modify (h : q.Recorded record) {f : BufferElement → BufferElement}
    (hf : ∀ e, (f e).buffer.seqNum = e.buffer.seqNum)
    (hcache : q'.bufferQueueCache = q.bufferQueueCache.modify sequence f hf)
    (hframe : ∀ e, q.bufferQueueCache.find sequence = some e → (f e).state = .flushed →
      e.state = .flushed ∧ (f e).frame = e.frame) : q'.Recorded record := by
  intro k e' he' hflushed
  rw [hcache, BufferCache.find_modify] at he'
  split_ifs at he' with hk
  · subst hk
    obtain ⟨e, he, rfl⟩ := Option.map_eq_some_iff.mp he'
    obtain ⟨hstate, hsame⟩ := hframe e he hflushed
    rw [hsame]
    exact h _ e he hstate
  · exact h k e' he' hflushed

theorem of_mapAll (h : q.Recorded record) {f : BufferElement → BufferElement}
    (hf : ∀ e, (f e).buffer.seqNum = e.buffer.seqNum)
    (hcache : q'.bufferQueueCache = q.bufferQueueCache.mapAll f hf)
    (hstate : ∀ e, (f e).state = e.state) (hframe : ∀ e, (f e).frame = e.frame) :
    q'.Recorded record := by
  intro k e' he' hflushed
  rw [hcache, BufferCache.find_mapAll] at he'
  obtain ⟨e, he, rfl⟩ := Option.map_eq_some_iff.mp he'
  rw [hframe]
  exact h k e he ((hstate e).symm.trans hflushed)

theorem of_removed (h : q.Recorded record) (hfind : ∀ k, q'.bufferQueueCache.find k =
      if sequence = k then none else q.bufferQueueCache.find k) : q'.Recorded record := by
  intro k e' he'
  rw [hfind] at he'
  split_ifs at he'
  exact h k e' he'

theorem of_erase (h : q.Recorded record)
    (hcache : q'.bufferQueueCache = q.bufferQueueCache.erase sequence) : q'.Recorded record :=
  h.of_removed fun k => (congrArg (·.find k) hcache).trans (BufferCache.find_erase _ _ _)

theorem of_put (h : q.Recorded record) (hcache : q'.bufferQueueCache = q.bufferQueueCache.put e)
    (hstate : e.state ≠ .flushed) : q'.Recorded record := by
  intro k e' he' hflushed
  rw [hcache, BufferCache.find_put] at he'
  split_ifs at he'
  · exact absurd (Option.some.inj he' ▸ hflushed) hstate
  · exact h k e' he' hflushed

theorem congr {record' : FrameRecord} (h : q.Recorded record) (j : ℕ)
    (hsame : ∀ k ≠ j, record' k = record k)
    (hstate : ∀ e, q.bufferQueueCache.find j = some e → e.state ≠ .flushed) :
    q.Recorded record' := by
  intro k e he hflushed
  by_cases hk : k = j
  · subst hk
    exact absurd hflushed (hstate e he)
  · rw [hsame k hk]
    exact h k e he hflushed

end Recorded

theorem deleteNoWait_recorded (h : q.Recorded record) (sequence : ℕ) :
    (q.deleteBufferInCacheNoWaitForAllocatingState sequence).Recorded record :=
  h.of_removed (find_deleteNoWait q sequence)

theorem cancelBufferLocked_recorded (h : q.Recorded record) (sequence : ℕ)
    (bedata : Option ExtraData) : (q.cancelBufferLocked sequence bedata).2.Recorded record := by
  rcases cancel_cases q sequence bedata with ⟨hsame, -⟩ | ⟨e, -, -, hcache⟩
  · rwa [hsame]
  · exact h.of_modify (setCancelled_seqNum bedata) hcache fun _ _ hflushed => by cases hflushed

/-! Requests. Only the buffer that is taken from the dirty list gets another colour while its entry
is still marked as flushed. -/

theorem updateReuse_recorded (h : q.Recorded record) (needRealloc : Bool) (sequence : ℕ)
    (listener : Bool) :
    (q.updateReuseBufferState needRealloc sequence listener).2.Recorded record := by
  have hmark : ((q.markRequested sequence).addDeletingBuffersLocked []).2.Recorded record :=
    h.of_modify (setState_seqNum _) rfl fun _ _ hflushed => by cases hflushed
  unfold updateReuseBufferState
  split
  · exact h.of_cache rfl
  · dsimp only
    split_ifs
    · exact hmark.of_modify (setState_seqNum _) rfl fun _ _ hflushed => by cases hflushed
    · exact hmark.of_modify setDelivered_seqNum rfl fun _ _ hflushed => ⟨hflushed, rfl⟩
    · exact hmark

theorem reuseBuffer_recorded (h : q.Recorded record) (config : BufferRequestConfig)
    (buffer : SurfaceBuffer) (listener : Bool) :
    (q.reuseBuffer config buffer listener).2.Recorded record := by
  unfold reuseBuffer
  split
  · exact h
  · split
    · exact updateReuse_recorded h false buffer.seqNum listener
    · split
      · exact h.of_cache rfl
      · exact (deleteNoWait_recorded h buffer.seqNum).of_cache rfl

theorem not_flushed_of_reuse (q : BufferQueue) (config : BufferRequestConfig)
    (buffer : SurfaceBuffer) {e : BufferElement}
    (he : (q.reuseBuffer config buffer false).2.bufferQueueCache.find buffer.seqNum = some e) :
    e.state ≠ .flushed := by
  unfold reuseBuffer at he
  split at he
  · rename_i hnone
    rw [hnone] at he
    cases he
  · rename_i ele hele
    split at he
    · obtain ⟨e', he', -, -, hstate⟩ := find_updateReuse_self false false hele
      have heq : e = e' := Option.some.inj (he.symm.trans he')
      rcases hstate with hstate | ⟨hl, -⟩
      · simp [heq, hstate]
      · cases hl
    · have hgone := find_deleteNoWait q buffer.seqNum buffer.seqNum
      rw [if_pos rfl] at hgone
      exact absurd (hgone.symm.trans he) (by simp)

theorem popFromFreeListLocked_recorded (h : q.Recorded record) (hagrees : q.Agrees)
    {config : BufferRequestConfig} {buffer : SurfaceBuffer}
    (hp : q.popFromFreeListLocked config = (some buffer, q')) : q'.Recorded record := by
  unfold popFromFreeListLocked at hp
  split at hp
  · obtain ⟨-, rfl⟩ := Prod.mk.inj hp
    exact h.of_cache rfl
  · split at hp
    · cases hp
    · have hfree : ∀ k ∈ q.rotateLocked, k ∈ q.freeList := by
        intro k hk
        unfold rotateLocked at hk
        split at hk
        · cases hk
        · split_ifs at hk <;> simp_all [or_comm]
      unfold popFrontFree at hp
      split at hp
      · cases hp
      · rename_i front rest hrotate
        split at hp
        · cases hp
        · rename_i ele hele
          obtain ⟨-, rfl⟩ := Prod.mk.inj hp
          refine h.of_modify (recolour_seqNum _ _) rfl fun e he hflushed => ?_
          obtain ⟨e₁, he₁, hstate⟩ := hagrees.state_of_mem_free (hfree front (by simp [hrotate]))
          rw [he, Option.some.injEq] at he₁
          subst he₁
          exact absurd (hflushed : e.state = .flushed) (by simp [hstate])

theorem popAndReuse_recorded (h : q.Recorded record) (hagrees : q.Agrees)
    {config config' : BufferRequestConfig} {buffer : SurfaceBuffer}
    (hp : q.popFromFreeListLocked config = (some buffer, q')) (listener : Bool) :
    (q'.reuseBuffer config' buffer listener).2.Recorded record :=
  reuseBuffer_recorded (popFromFreeListLocked_recorded h hagrees hp) config' buffer listener

theorem reuseBufferForBlockMode_recorded (h : q.Recorded record) (hagrees : q.Agrees)
    (config : BufferRequestConfig) : (q.reuseBufferForBlockMode config).2.Recorded record := by
  unfold reuseBufferForBlockMode
  split
  · exact h
  · split
    · rename_i buffer q₁ hpop
      exact popAndReuse_recorded h hagrees hpop false
    · rename_i q₁ hpop
      obtain rfl := popFromFreeListLocked_none hagrees hpop
      exact h

theorem reuseBufferForNoBlockMode_recorded (h : q.Recorded record) (hagrees : q.Agrees)
    (config : BufferRequestConfig) : (q.reuseBufferForNoBlockMode config).2.Recorded record := by
  unfold reuseBufferForNoBlockMode
  split
  · rename_i buffer q₁ hpop
    obtain ⟨rest, e, hdirty, he, rfl, rfl⟩ := popFromDirtyListLocked_some hpop
    dsimp only
    -- the entry of the buffer waits in another colour until it is reused
    let coloured : FrameRecord :=
      Function.update record e.buffer.seqNum (some (e.recolour config.colorGamut config.transform).frame)
    have hcolour : BufferQueue.Recorded { q with
        dirtyList := rest
        bufferQueueCache := q.bufferQueueCache.modify e.buffer.seqNum
          (BufferElement.recolour config.colorGamut config.transform)
          (BufferElement.recolour_config_seqNum config) } coloured := by
      intro k e' he' hflushed
      rw [BufferCache.find_modify] at he'
      split_ifs at he' with hk
      · subst hk
        rw [he, Option.map_some, Option.some.injEq] at he'
        subst he'
        exact Function.update_self _ _ _
      · rw [show coloured k = record k from Function.update_of_ne (Ne.symm hk) _ _]
        exact h k e' he' hflushed
    refine (reuseBuffer_recorded hcolour config _ false).congr e.buffer.seqNum
      (fun k hk => (Function.update_of_ne hk _ _).symm) fun e' he' => ?_
    exact not_flushed_of_reuse _ config _ he'
  · rename_i q₁ hpop
    obtain ⟨rfl, _⟩ := popFromDirtyListLocked_none hagrees hpop
    exact h

theorem requestBufferBody_recorded (h : q.Recorded record) (hagrees : q.Agrees)
    (config : BufferRequestConfig) (listener : Bool) :
    (q.requestBufferBody config listener).2.Recorded record := by
  unfold requestBufferBody
  dsimp only
  split
  · split
    · rename_i buffer q₁ hpop
      exact popAndReuse_recorded h hagrees hpop listener
    · rename_i q₁ hpop
      obtain rfl := popFromFreeListLocked_none hagrees hpop
      split
      · exact h
      · split
        · split
          · exact h
          · exact reuseBufferForNoBlockMode_recorded h hagrees config
        · exact h.of_cache rfl
  · exact h.of_cache rfl

theorem allocBufferEnd_recorded (h : q.Recorded record) (job : AllocJob) (a : Allocation) :
    (q.allocBufferEnd job a).2.Recorded record := by
  unfold allocBufferEnd
  dsimp only
  split
  · exact h.of_put (e := job.element a) rfl (by simp [AllocJob.element, BufferElement.init])
  · exact h.of_cache rfl

theorem finishRequest_recorded (h : q.Recorded record) (a : Allocation) (point : ReusePoint) :
    (q.finishRequest a point).2.Recorded record :=
  finishRequest_induct (P := fun q => q.Recorded record) q a point (fun _ _ => h)
    (fun job _ => allocBufferEnd_recorded h job a) (fun _ h => h.of_cache rfl)
    fun _ sequence h => updateReuse_recorded h true sequence false

theorem requestBufferLocked_recorded (h : q.Recorded record) (hagrees : q.Agrees)
    (config : BufferRequestConfig) (a : Allocation) (listener : Bool) :
    (q.requestBufferLocked config a listener).2.Recorded record := by
  unfold requestBufferLocked
  split
  · exact h
  · rename_i updateConfig _
    have hbody := requestBufferBody_recorded h hagrees updateConfig listener
    split
    · rename_i point q₁ hb
      rw [hb] at hbody
      exact finishRequest_recorded hbody a point
    · rename_i config' q₁ hb
      obtain rfl := requestBufferBody_waits hagrees hb
      exact finishRequest_recorded (reuseBufferForBlockMode_recorded h hagrees config') a _

theorem requestBuffersLoop_recorded (h : q.Recorded record) (hagrees : q.Agrees)
    (config : BufferRequestConfig) (as : List Allocation) (hnodup : (as.map (·.sequence)).Nodup)
    (hfresh : ∀ a ∈ as, q.bufferQueueCache.find a.sequence = none) :
    (q.requestBuffersLoop config as).2.2.Recorded record := by
  induction as generalizing q with
  | nil => exact h
  | cons a as ih =>
    have hone := requestBufferLocked_recorded h hagrees config a false
    unfold requestBuffersLoop
    dsimp only
    split
    · exact hone
    · exact ih hone (requestBuffer_agrees hagrees config (hfresh a List.mem_cons_self))
        hnodup.of_cons (fresh_of_requestBuffer hagrees config hnodup hfresh)

theorem requestAndDetachBuffer_recorded (h : q.Recorded record) (hagrees : q.Agrees)
    (config : BufferRequestConfig) (a : Allocation) :
    (q.requestAndDetachBuffer config a).2.Recorded record := by
  have hrequest := requestBufferLocked_recorded h hagrees config a false
  unfold requestAndDetachBuffer
  dsimp only
  split
  · exact hrequest
  · unfold detachBufferFromQueueLocked
    split
    · exact hrequest
    · exact hrequest.of_erase rfl

theorem releaseBufferLocked_recorded (h : q.Recorded record) (sequence : ℕ)
    (fence : Option SyncFence) (env : ReleaseEnv) :
    (q.releaseBufferLocked sequence fence env).2.Recorded record := by
  unfold releaseBufferLocked
  split
  · exact h
  · rename_i ele _
    have hmark : (q.markReleased sequence ele.lastAcquireTime fence env).Recorded record :=
      h.of_modify (setReleased_seqNum _ _) rfl fun _ _ hflushed => by cases hflushed
    split
    · exact h
    · dsimp only
      split
      · exact deleteNoWait_recorded hmark sequence
      · exact hmark.of_cache rfl

theorem handOut_recorded (h : q.Recorded record) (hagrees : q.Agrees) (fuel : ℕ)
    (configs : List BufferRequestConfig) : (q.handOut fuel configs).2.Recorded record := by
  induction fuel generalizing q configs with
  | zero => exact h
  | succ fuel ih =>
    cases configs with
    | nil => exact h
    | cons config configs =>
      have hone := requestBufferLocked_recorded h hagrees config noAllocation true
      have hagrees₁ := (requestBufferLocked_refines_listener hagrees config noAllocation).agrees hagrees
      unfold handOut
      dsimp only
      split
      · refine ih (hone.of_modify (setRequestedFromListener_seqNum _) rfl
          fun _ _ hflushed => ⟨hflushed, rfl⟩) ?_ _
        rw [Agrees, pool_setRequestedFromListener]
        exact hagrees₁
      · exact ih hone hagrees₁ _

theorem takeBack_recorded (h : q.Recorded record) (sequence : ℕ) :
    (q.takeBack sequence).Recorded record := by
  unfold takeBack
  split
  · exact h
  · exact cancelBufferLocked_recorded h sequence _

theorem releaseBuffer_recorded (h : q.Recorded record) (hagrees : q.Agrees) (sequence : ℕ)
    (fence : Option SyncFence) (env : ReleaseEnv) :
    (q.releaseBuffer sequence fence env).2.Recorded record := by
  have hrelease := releaseBufferLocked_recorded h sequence fence env
  have hagrees₁ := (releaseBufferLocked_refines hagrees sequence fence env).agrees hagrees
  have hsection : (q.releaseBufferSection sequence fence env).2.2.Recorded record := by
    unfold releaseBufferSection requestBuffersForListenerLocked
    dsimp only
    split
    · exact hrelease
    · split
      · exact handOut_recorded hrelease hagrees₁ _ _
      · exact hrelease
  unfold releaseBuffer
  dsimp only
  split
  · exact onReleaseBufferWithSequenceAndFence_induct (P := fun q => q.Recorded record) hsection
      (fun _ sequence h => takeBack_recorded h sequence) _ _
  · exact hsection

theorem releaseDropBuffers_recorded (h : q.Recorded record) (hagrees : q.Agrees)
    (envs : ℕ → ReleaseEnv) (dropBuffers : List BufferAndFence) :
    (q.releaseDropBuffers envs dropBuffers).Recorded record := by
  unfold releaseDropBuffers
  induction dropBuffers generalizing q with
  | nil => exact h
  | cons d dropBuffers ih =>
    rw [List.foldl_cons]
    exact ih (releaseBuffer_recorded h hagrees d.1.seqNum d.2 (envs d.1.seqNum))
      ((releaseBuffer_refines hagrees d.1.seqNum d.2 (envs d.1.seqNum)).agrees hagrees)

theorem deleteBuffersLocked_recorded (h : q.Recorded record) (count : ℕ) :
    (q.deleteBuffersLocked count).Recorded record :=
  deleteBuffersLocked_induct (P := fun q => q.Recorded record) h
    (fun _ sequence h => deleteNoWait_recorded h sequence)
    (fun _ sequence _ h => deleteNoWait_recorded (h.of_cache rfl) sequence)
    (fun _ _ h => h.of_modify setDeleting_seqNum rfl fun _ _ hflushed => ⟨hflushed, rfl⟩) count

theorem clearLocked_recorded (q : BufferQueue) (record : FrameRecord) :
    q.clearLocked.Recorded record := by
  intro k e he
  simp [clearLocked] at he

theorem setQueueSizeLocked_recorded (h : q.Recorded record) (queueSize : ℕ) :
    (q.setQueueSizeLocked queueSize).2.Recorded record :=
  setQueueSizeLocked_induct (P := fun q => q.Recorded record) h
    (fun count => deleteBuffersLocked_recorded h count) (fun _ _ h => h.of_cache rfl) queueSize

theorem attachBufferToQueueLocked_recorded (h : q.Recorded record) (buffer : SurfaceBuffer)
    (invokerType : InvokerType) :
    (q.attachBufferToQueueLocked buffer invokerType).2.Recorded record := by
  unfold attachBufferToQueueLocked
  split_ifs
  · exact h
  · exact h
  · exact h
  · cases invokerType with
    | producerInvoker =>
      exact h.of_put (e := .init (q.attachedBuffer buffer) .requested buffer.bufferRequestConfig
        (some invalidFence)) rfl (by simp [BufferElement.init])
    | consumerInvoker =>
      exact h.of_put (e := .init (q.attachedBuffer buffer) .acquired buffer.bufferRequestConfig
        (some invalidFence)) rfl (by simp [BufferElement.init])

theorem attachBuffer_recorded (h : q.Recorded record) (buffer : SurfaceBuffer) (timeOut : Int) :
    (q.attachBuffer buffer timeOut).2.Recorded record := by
  unfold attachBuffer
  split
  · exact h
  · split
    · exact h
    · split
      · unfold attachBufferUpdateStatus
        split
        · exact h.of_modify (setState_seqNum _) rfl fun _ _ hflushed => by cases hflushed
        · exact h
      · split
        · exact h
        · rename_i count _
          exact (deleteBuffersLocked_recorded h count).of_put (e := q.attachElement buffer timeOut)
            rfl (by simp [attachElement, BufferElement.init])

theorem insertPreAlloc_recorded (h : q.Recorded record) (config : BufferRequestConfig)
    (buffers : List SurfaceBuffer) : (q.insertPreAlloc config buffers).2.Recorded record := by
  induction buffers generalizing q with
  | nil => exact h
  | cons buffer rest ih =>
    unfold insertPreAlloc
    split
    · exact h
    · exact ih (h.of_put (e := { BufferElement.init buffer .released config (some invalidFence) with
        isPreAllocBuffer := true }) rfl (by simp [BufferElement.init]))

/-! Flushes. One that succeeds gives its frame to the queue, unless the buffer is condemned. -/

def frameFor (q : BufferQueue) (f : FlushArgs) (ret : GSError) : List PendingFrame :=
  if ret = .ok ∧ q.markedDeleting f.sequence = false then [f.frame q.transform] else []

theorem frameFor_error (q : BufferQueue) (f : FlushArgs) {ret : GSError} (hret : ret ≠ .ok) :
    q.frameFor f ret = [] := if_neg fun h => hret h.1

theorem frameFor_marked {f : FlushArgs} (hmarked : q.markedDeleting f.sequence = true)
    (ret : GSError) : q.frameFor f ret = [] := if_neg fun h => by simp [hmarked] at h

theorem frameFor_ok {f : FlushArgs} (hmarked : q.markedDeleting f.sequence = false) :
    q.frameFor f .ok = [f.frame q.transform] := if_pos ⟨rfl, hmarked⟩

def flushedFrame (q : BufferQueue) (f : FlushArgs) : List PendingFrame :=
  q.frameFor f (q.flushBuffer f.sequence f.bedata f.fence f.config f.env).1

def flushedFrames (q : BufferQueue) : List FlushArgs → List PendingFrame
  | [] => []
  | f :: fs =>
    match q.flushBuffer f.sequence f.bedata f.fence f.config f.env with
    | (ret, q') => q.flushedFrame f ++ if ret ≠ .ok then [] else q'.flushedFrames fs

theorem frame_setFlushed (fence : SyncFence) (config : BufferFlushConfigWithDamages) (now : Int)
    (e : BufferElement) : (e.setFlushed fence config now).frame =
      ⟨⟨e.buffer.seqNum, some fence, config.timestamp, config.damages, e.buffer.extraData,
        e.buffer.surfaceBufferTransform⟩, config.presentTime⟩ := by
  unfold setFlushed setDesiredPresentTimestampAndUiTimestamp BufferFlushConfigWithDamages.presentTime
  dsimp only
  split_ifs <;> simp [BufferElement.frame, BufferElement.presentTime]

theorem doFlushBufferLocked_recorded (h : q.Recorded record) (f : FlushArgs)
    (hheld : ∀ e, q.bufferQueueCache.find f.sequence = some e →
      e.state = .requested ∨ e.state = .attached) :
    (q.doFlushBufferLocked f.sequence f.bedata f.fence f.config f.env).2.Recorded
      (record.writes (q.frameFor f
        (q.doFlushBufferLocked f.sequence f.bedata f.fence f.config f.env).1)) := by
  unfold doFlushBufferLocked
  cases hfind : q.bufferQueueCache.find f.sequence with
  | none =>
    rw [frameFor_error q f (by simp)]
    exact h
  | some e =>
    dsimp only
    by_cases hdeleting : e.isDeleting = true
    · rw [if_pos hdeleting, frameFor_marked (by simp [markedDeleting, hfind, hdeleting])]
      exact deleteNoWait_recorded h f.sequence
    · rw [if_neg hdeleting]
      cases hbedata : f.bedata with
      | none =>
        rw [frameFor_error q f (by simp)]
        exact h.of_cache rfl
      | some bedata =>
        have hprepare : (q.prepareFlush f.sequence bedata).Recorded record := by
          refine h.of_modify (setPrepared_seqNum _ _ _) rfl fun e' he' hflushed => ?_
          rw [setPrepared_state] at hflushed
          rcases hheld e' he' with hstate | hstate <;> rw [hstate] at hflushed <;> cases hflushed
        dsimp only
        by_cases hcache : e.config.usage &&& bufferUsageCpuWrite ≠ 0 ∧ f.env.flushCache ≠ .ok
        · rw [if_pos hcache, frameFor_error q f hcache.2]
          exact hprepare
        · rw [if_neg hcache, frameFor_ok (by simp [markedDeleting, hfind, hdeleting])]
          -- the entry of the buffer is the frame that is written, the others are as before
          intro k e' he' hflushed
          rw [commitFlush, BufferCache.find_modify] at he'
          split_ifs at he' with hk
          · subst hk
            rw [find_prepareFlush hfind, Option.map_some, Option.some.injEq] at he'
            subst he'
            rw [frame_setFlushed]
            simp [FrameRecord.writes, FrameRecord.write, FlushArgs.frame, setPrepared,
              SurfaceBuffer.setFlushed, hbedata, BufferCache.seqNum_of_find hfind]
          · have hne : k ∉ [f.frame q.transform].map (·.sequence) := by
              simpa [FlushArgs.frame] using Ne.symm hk
            rw [FrameRecord.writes_of_notMem _ hne]
            exact hprepare k e' he' hflushed

theorem flushBuffer_recorded (h : q.Recorded record) (f : FlushArgs) :
    (q.flushBuffer f.sequence f.bedata f.fence f.config f.env).2.Recorded
      (record.writes (q.flushedFrame f)) := by
  unfold flushedFrame
  refine flushBuffer_cases (motive := fun r => r.2.Recorded (record.writes (q.frameFor f r.1)))
    ?_ ?_ ?_
  · intro ret hret
    rw [frameFor_error q f hret]
    exact h
  · intro _ _ _ _
    rw [frameFor_error q f (by simp)]
    exact cancelBufferLocked_recorded h _ _
  · exact fun hcheck => doFlushBufferLocked_recorded h f fun e he => handed_of_check hcheck he

theorem flushBuffers_recorded (h : q.Recorded record) (fs : List FlushArgs) :
    (q.flushBuffers fs).2.Recorded (record.writes (q.flushedFrames fs)) := by
  induction fs generalizing q record with
  | nil => exact h
  | cons f fs ih =>
    have hone := flushBuffer_recorded h f
    unfold flushBuffers flushedFrames
    dsimp only
    split
    · rwa [List.append_nil]
    · rw [FrameRecord.writes_append]
      exact ih hone

theorem map_sequence_flushedFrame (q : BufferQueue) (f : FlushArgs) :
    (q.flushedFrame f).map (·.sequence) = unmarked (q.successfulFlush f) := by
  unfold flushedFrame frameFor successfulFlush
  by_cases hok : (q.flushBuffer f.sequence f.bedata f.fence f.config f.env).1 = .ok <;>
    cases hmarked : q.markedDeleting f.sequence <;> simp [hok, unmarked, FlushArgs.frame]

theorem map_sequence_flushedFrames (q : BufferQueue) (fs : List FlushArgs) :
    (q.flushedFrames fs).map (·.sequence) = unmarked (q.successfulFlushes fs) := by
  induction fs generalizing q with
  | nil => rfl
  | cons f fs ih =>
    unfold flushedFrames successfulFlushes
    dsimp only
    rw [List.map_append, unmarked_append, map_sequence_flushedFrame]
    split
    · rfl
    · rw [ih]

theorem find_attached (q : BufferQueue) (buffer : SurfaceBuffer)
    (hok : (q.attachBufferToQueueLocked buffer .producerInvoker).1 = .ok) :
    (q.attachBufferToQueueLocked buffer .producerInvoker).2.bufferQueueCache.find buffer.seqNum =
      some (.init (q.attachedBuffer buffer) .requested buffer.bufferRequestConfig
        (some invalidFence)) ∧
      (q.attachBufferToQueueLocked buffer .producerInvoker).2.transform = q.transform := by
  have hinvoker : ¬ (InvokerType.producerInvoker = .consumerInvoker ∧
      q.listenerSeqAndFenceActive = true) := by simp
  unfold attachBufferToQueueLocked at hok ⊢
  rw [if_neg hinvoker] at hok ⊢
  by_cases hfull : q.bufferQueueSize ≤ q.getUsedSize
  · simp [hfull] at hok
  · rw [if_neg hfull] at hok ⊢
    by_cases hin : (q.bufferQueueCache.find buffer.seqNum).isSome
    · simp [hin] at hok
    · rw [if_neg hin]
      exact ⟨by simp [attachedBuffer, BufferElement.init], rfl⟩

def attachedFrame (q : BufferQueue) (f : FlushArgs) (ret : GSError) : List PendingFrame :=
  if ret = .ok then [f.frame q.transform] else []

theorem attachAndFlushBuffer_recorded (h : q.Recorded record) (buffer : SurfaceBuffer)
    (bedata : Option ExtraData) (fence : SyncFence) (config : BufferFlushConfigWithDamages)
    (env : FlushEnv) : (q.attachAndFlushBuffer buffer bedata fence config env).2.Recorded
      (record.writes (q.attachedFrame ⟨buffer.seqNum, bedata, fence, config, env⟩
        (q.attachAndFlushBuffer buffer bedata fence config env).1)) := by
  have hattach := attachBufferToQueueLocked_recorded h buffer .producerInvoker
  have hfound := q.find_attached buffer
  unfold attachAndFlushBuffer
  rcases hq : q.attachBufferToQueueLocked buffer .producerInvoker with ⟨ret, p⟩
  simp only [hq] at hattach hfound ⊢
  by_cases hok : ret = .ok
  · obtain ⟨hfind, htransform⟩ := hfound hok
    have hmarked : p.markedDeleting buffer.seqNum = false := by
      simp [markedDeleting, hfind, BufferElement.init]
    have hflush : (p.flushBufferImprovedLocked buffer.seqNum bedata fence config env).2.Recorded
        (record.writes (q.attachedFrame ⟨buffer.seqNum, bedata, fence, config, env⟩
          (p.flushBufferImprovedLocked buffer.seqNum bedata fence config env).1)) := by
      refine flushBufferImprovedLocked_cases (motive := fun r => r.2.Recorded
        (record.writes (q.attachedFrame ⟨buffer.seqNum, bedata, fence, config, env⟩ r.1))) ?_ ?_
      · intro ret hret
        rw [attachedFrame, if_neg hret]
        exact hattach
      · intro hcheck
        have hdo := doFlushBufferLocked_recorded hattach ⟨buffer.seqNum, bedata, fence, config, env⟩
          fun e he => handed_of_check hcheck he
        simpa only [frameFor, attachedFrame, hmarked, and_true, htransform] using hdo
    by_cases hret : (p.flushBufferImprovedLocked buffer.seqNum bedata fence config env).1 = .ok
    · simpa [hok, hret] using hflush
    · rw [attachedFrame, if_neg hret] at hflush
      simpa [hok, hret, attachedFrame] using hflush.of_erase rfl
  · simpa [hok, attachedFrame] using hattach

theorem acquireBuffer_recorded (h : q.Recorded record) (now : Int) :
    (q.acquireBuffer now).2.Recorded record :=
  acquireBuffer_induct (P := fun q => q.Recorded record)
    (popFromDirtyListLocked_induct (P := fun q => q.Recorded record) q (fun _ => h.of_cache rfl) (h.of_cache rfl))
    (fun _ h => h.of_cache rfl)
    fun _ _ h => h.of_modify (setAcquired_seqNum now) rfl fun _ _ hflushed => by cases hflushed

theorem dropBuffersByLevel_recorded (h : q.Recorded record) (now : Int) :
    (q.dropBuffersByLevel now).2.Recorded record :=
  dropBuffersByLevel_induct (P := fun q => q.Recorded record) h (fun _ h => h.of_cache rfl)
    fun _ _ _ h => h.of_modify (setAcquired_seqNum now) rfl fun _ _ hflushed => by cases hflushed

theorem acquireByTimestampSection_recorded (h : q.Recorded record) (expect : Int) (auto : Bool) :
    (q.acquireByTimestampSection expect auto).2.2.Recorded record :=
  acquireByTimestampSection_induct (P := fun q => q.Recorded record) h (fun _ h => h.of_cache rfl)
    (fun _ _ _ h => h.of_modify (setState_seqNum _) rfl fun _ _ hflushed => by cases hflushed)
    expect auto

theorem acquireBufferByTimestamp_last (h : q.Recorded record) (hagrees : q.Agrees) (expect : Int)
    (auto : Bool) (now : Int) (envs : ℕ → ReleaseEnv) :
    (∃ (ret : GSError) (q' : BufferQueue), ret ≠ .ok ∧ q'.Recorded record ∧
        q.acquireBufferByTimestamp expect auto now envs = (.error ret, q')) ∨
      ∃ q' : BufferQueue, q'.Recorded record ∧ q'.Agrees ∧
        q.acquireBufferByTimestamp expect auto now envs = q'.acquireBuffer now := by
  unfold acquireBufferByTimestamp
  split
  · exact .inr ⟨q, h, hagrees, rfl⟩
  · split
    · exact .inl ⟨.noBuffer, q, by simp, h, rfl⟩
    · have hlevel := (dropBuffersByLevel_refines hagrees now).agrees hagrees
      have hreleased := releaseDropBuffers_recorded (dropBuffersByLevel_recorded h now) hlevel envs
        (q.dropBuffersByLevel now).1
      have hagrees₁ := (releaseDropBuffers_refines hlevel envs (q.dropBuffersByLevel now).1).agrees
        hlevel
      have hsection := acquireByTimestampSection_recorded hreleased expect auto
      have hagrees₂ := (acquireByTimestampSection_refines hagrees₁ expect auto).agrees hagrees₁
      dsimp only
      split
      · exact .inl ⟨_, _, ‹_›, hsection, rfl⟩
      · exact .inr ⟨_, releaseDropBuffers_recorded hsection hagrees₂ envs _,
          (releaseDropBuffers_refines hagrees₂ envs _).agrees hagrees₂, rfl⟩

theorem acquireBufferByTimestamp_recorded (h : q.Recorded record) (hagrees : q.Agrees) (expect : Int)
    (auto : Bool) (now : Int) (envs : ℕ → ReleaseEnv) :
    (q.acquireBufferByTimestamp expect auto now envs).2.Recorded record := by
  rcases acquireBufferByTimestamp_last h hagrees expect auto now envs with
    ⟨ret, q', -, hq', heq⟩ | ⟨q', hq', -, heq⟩
  · rw [heq]
    exact hq'
  · rw [heq]
    exact acquireBuffer_recorded hq' now

theorem detachBufferFromQueueLocked_recorded (h : q.Recorded record) (sequence : ℕ)
    (invokerType : InvokerType) (isReserveSlot : Bool) :
    (q.detachBufferFromQueueLocked sequence invokerType isReserveSlot).2.Recorded record := by
  unfold detachBufferFromQueueLocked
  split
  · exact h
  · cases invokerType with
    | producerInvoker => exact h.of_erase rfl
    | consumerInvoker =>
      have hdelete := deleteNoWait_recorded h sequence
      dsimp only
      unfold detachForConsumer
      dsimp only
      split
      · exact hdelete.of_cache rfl
      · exact hdelete

theorem detachBuffer_recorded (h : q.Recorded record) (sequence : ℕ) :
    (q.detachBuffer sequence).2.Recorded record := by
  unfold detachBuffer
  split
  · exact h
  · split
    · exact h.of_erase rfl
    · exact h

theorem setQueueSize_recorded (h : q.Recorded record) (queueSize : ℕ) :
    (q.setQueueSize queueSize).2.Recorded record := by
  unfold setQueueSize
  split
  · exact h
  · exact setQueueSizeLocked_recorded h queueSize

theorem setMaxQueueSize_recorded (h : q.Recorded record) (queueSize : ℕ) :
    (q.setMaxQueueSize queueSize).2.Recorded record := by
  unfold setMaxQueueSize
  dsimp only
  split
  · exact h
  · split
    · exact setQueueSizeLocked_recorded (q := { q with maxQueueSize := queueSize })
        (h.of_cache rfl) queueSize
    · exact h.of_cache rfl

theorem preAllocBuffers_recorded (h : q.Recorded record) (config : BufferRequestConfig) (count : ℕ)
    (as : ℕ → Allocation) : (q.preAllocBuffers config count as).2.Recorded record := by
  unfold preAllocBuffers
  dsimp only
  split
  · exact h
  · split
    · exact h
    · exact insertPreAlloc_recorded h _ _

theorem setProducerCacheCleanFlag_recorded (h : q.Recorded record) (flag : Bool) :
    (q.setProducerCacheCleanFlag flag).Recorded record := by
  unfold setProducerCacheCleanFlag
  split
  · exact (q.clearLocked_recorded record).of_cache rfl
  · exact h.of_cache rfl

theorem cleanReleasedBuffersLocked_recorded (h : q.Recorded record) (l : List ℕ) :
    (q.cleanReleasedBuffersLocked l).2.Recorded record := by
  refine cleanReleasedBuffersLocked_induct (P := fun q => q.Recorded record) h
    (fun q₁ sequence h => ?_) l
  split <;> exact h.of_erase rfl

theorem cleanProducerBySeqNum_recorded (h : q.Recorded record) (seqNums : List ℕ) :
    (q.cleanProducerBySeqNum seqNums).Recorded record := by
  refine cleanProducerBySeqNum_induct (P := fun q => q.Recorded record) h
    (fun q₁ sequence h => ?_) seqNums
  unfold cleanProducerOne
  split
  · exact h.of_erase rfl
  · exact h

theorem setBufferScalingMode_recorded (h : q.Recorded record) (sequence : ℕ) (scalingMode : Int) :
    (q.setBufferScalingMode sequence scalingMode).2.Recorded record := by
  unfold setBufferScalingMode
  split
  · exact h.of_modify (BufferElement.setScalingMode_seqNum _) rfl
      fun _ _ hflushed => ⟨hflushed, rfl⟩
  · exact h

end BufferQueue

def AcquireReply.content (reply : AcquireReply) : Option FrameContent :=
  if reply.ret = .ok then
    reply.buffer.map fun b =>
      ⟨b.seqNum, reply.fence, reply.timestamp, reply.damages, b.extraData, b.surfaceBufferTransform⟩
  else none

theorem AcquireReply.map_sequence_content (reply : AcquireReply) :
    reply.content.map (·.sequence) = reply.frame := by
  unfold content frame
  split_ifs
  · rw [Option.map_map]
    rfl
  · rfl

namespace BufferQueue

variable {q : BufferQueue} {record : FrameRecord}

theorem content_acquireBuffer (h : q.Recorded record) (hagrees : q.Agrees) (now : Int)
    {content : FrameContent} (hcontent : (q.acquireBuffer now).1.content = some content) :
    ∃ frame, record content.sequence = some frame ∧ frame.toFrameContent = content := by
  unfold acquireBuffer at hcontent
  split at hcontent
  · simp [AcquireReply.content, AcquireReply.error] at hcontent
  · rename_i buffer q₁ hpop
    obtain ⟨rest, e, hdirty, he, rfl, rfl⟩ := popFromDirtyListLocked_some hpop
    obtain ⟨e', he', hstate⟩ := hagrees.state_of_mem_dirty (k := e.buffer.seqNum) (by simp [hdirty])
    rw [he, Option.some.injEq] at he'
    subst he'
    have hframe := h _ e he hstate
    simp only [he, AcquireReply.content, if_true, Option.map_some, Option.some.injEq] at hcontent
    subst hcontent
    exact ⟨e.frame, hframe, rfl⟩

theorem content_acquireBufferByTimestamp (h : q.Recorded record) (hagrees : q.Agrees) (expect : Int)
    (auto : Bool) (now : Int) (envs : ℕ → ReleaseEnv) {content : FrameContent}
    (hcontent : (q.acquireBufferByTimestamp expect auto now envs).1.content = some content) :
    ∃ frame, record content.sequence = some frame ∧ frame.toFrameContent = content := by
  rcases acquireBufferByTimestamp_last h hagrees expect auto now envs with
    ⟨ret, q', hret, -, heq⟩ | ⟨q', hq', hagrees', heq⟩
  · rw [heq] at hcontent
    simp [AcquireReply.content, AcquireReply.error, hret] at hcontent
  · rw [heq] at hcontent
    exact content_acquireBuffer hq' hagrees' now hcontent

def pendingFrames (q : BufferQueue) : List PendingFrame :=
  q.dirtyList.filterMap fun k => (q.bufferQueueCache.find k).map (·.frame)

theorem pendingFrames_eq (h : q.Recorded record) (hagrees : q.Agrees) :
    q.pendingFrames = q.dirtyList.filterMap record := by
  refine List.filterMap_congr fun k hk => ?_
  obtain ⟨e, he, hstate⟩ := hagrees.state_of_mem_dirty hk
  rw [he, h k e he hstate, Option.map_some]

end BufferQueue

namespace Op

def givenFrames (q : BufferQueue) : Op → List PendingFrame
  | flushBuffer f => q.flushedFrame f
  | flushBuffers fs => q.flushedFrames fs
  | attachAndFlushBuffer buffer bedata fence config env =>
    q.attachedFrame ⟨buffer.seqNum, bedata, fence, config, env⟩
      (q.attachAndFlushBuffer buffer bedata fence config env).1
  | _ => []

def content (q : BufferQueue) (op : Op) : Option FrameContent :=
  match (op.run q).1 with
  | .acquire reply => reply.content
  | _ => none

theorem map_sequence_content (q : BufferQueue) (op : Op) :
    (op.content q).map (·.sequence) = op.frame q := by
  unfold content frame
  cases (op.run q).1 with
  | acquire reply => exact reply.map_sequence_content
  | _ => rfl

theorem map_sequence_givenFrames (q : BufferQueue) (op : Op) :
    (op.givenFrames q).map (·.sequence) = unmarked (op.flushes q) := by
  cases op with
  | flushBuffer f => exact q.map_sequence_flushedFrame f
  | flushBuffers fs => exact q.map_sequence_flushedFrames fs
  | attachAndFlushBuffer buffer bedata fence config env =>
    unfold givenFrames flushes BufferQueue.attachedFrame
    by_cases hok : (q.attachAndFlushBuffer buffer bedata fence config env).1 = .ok
    · have hattach : (q.attachBufferToQueueLocked buffer .producerInvoker).1 = .ok := by
        unfold BufferQueue.attachAndFlushBuffer at hok
        by_contra hret
        simp [hret] at hok
      have hmarked : (q.attachBufferToQueueLocked buffer .producerInvoker).2.markedDeleting
          buffer.seqNum = false := by
        simp [BufferQueue.markedDeleting, (q.find_attached buffer hattach).1, BufferElement.init]
      simp [hok, hmarked, unmarked, FlushArgs.frame]
    · simp [hok]
  | _ => rfl

variable {q : BufferQueue} {op : Op} {record : FrameRecord}

theorem run_recorded (h : q.Recorded record) (hagrees : q.Agrees) (hfresh : op.Fresh q) :
    (op.run q).2.Recorded (record.writes (op.givenFrames q)) := by
  cases op with
  | requestBuffer config a => exact BufferQueue.requestBufferLocked_recorded h hagrees config a false
  | requestBuffers config as =>
    exact (BufferQueue.requestBuffersLoop_recorded (q := { q with isBatch := true })
      (h.of_cache rfl) hagrees config as hfresh.1 hfresh.2).of_cache rfl
  | requestAndDetachBuffer config a =>
    exact BufferQueue.requestAndDetachBuffer_recorded h hagrees config a
  | cancelBuffer sequence bedata => exact BufferQueue.cancelBufferLocked_recorded h sequence bedata
  | flushBuffer f => exact BufferQueue.flushBuffer_recorded h f
  | flushBuffers fs => exact BufferQueue.flushBuffers_recorded h fs
  | acquireBuffer now => exact BufferQueue.acquireBuffer_recorded h now
  | acquireBufferByTimestamp expect auto now envs =>
    exact BufferQueue.acquireBufferByTimestamp_recorded h hagrees expect auto now envs
  | releaseBuffer sequence fence env =>
    exact BufferQueue.releaseBuffer_recorded h hagrees sequence fence env
  | attachBufferToQueue buffer invokerType =>
    exact BufferQueue.attachBufferToQueueLocked_recorded h buffer invokerType
  | detachBufferFromQueue sequence invokerType isReserveSlot =>
    exact BufferQueue.detachBufferFromQueueLocked_recorded h sequence invokerType isReserveSlot
  | attachBuffer buffer timeOut => exact BufferQueue.attachBuffer_recorded h buffer timeOut
  | detachBuffer sequence => exact BufferQueue.detachBuffer_recorded h sequence
  | attachAndFlushBuffer buffer bedata fence config env =>
    exact BufferQueue.attachAndFlushBuffer_recorded h buffer bedata fence config env
  | setQueueSize queueSize => exact BufferQueue.setQueueSize_recorded h queueSize
  | setMaxQueueSize queueSize => exact BufferQueue.setMaxQueueSize_recorded h queueSize
  | preAllocBuffers config count as =>
    exact BufferQueue.preAllocBuffers_recorded h config count as
  | cleanCache | onConsumerDied => exact q.clearLocked_recorded record
  | goBackground => exact (q.clearLocked_recorded record).of_cache rfl
  | setProducerCacheCleanFlag flag => exact BufferQueue.setProducerCacheCleanFlag_recorded h flag
  | cleanReleasedBuffers => exact BufferQueue.cleanReleasedBuffersLocked_recorded h q.freeList
  | cleanProducerBySeqNum seqNums => exact BufferQueue.cleanProducerBySeqNum_recorded h seqNums
  | acquireLastFlushedBuffer =>
    exact BufferQueue.acquireLastFlushedBuffer_induct (P := fun q => q.Recorded record) q h
      (h.of_cache rfl)
  | releaseLastFlushedBuffer sequence =>
    exact BufferQueue.releaseLastFlushedBuffer_induct (P := fun q => q.Recorded record) q sequence h
      (h.of_cache rfl)
  | setScalingMode scalingMode =>
    exact h.of_mapAll (BufferElement.setScalingMode_seqNum _) rfl (fun _ => rfl) fun _ => rfl
  | setBufferScalingMode sequence scalingMode =>
    exact BufferQueue.setBufferScalingMode_recorded h sequence scalingMode
  | setVideoDimensionType videoDimType =>
    exact h.of_mapAll (BufferElement.setVideoDimensionType_seqNum _) rfl (fun _ => rfl) fun _ => rfl
  | setSingleBufferMode | configure => exact h.of_cache rfl

theorem content_recorded (h : q.Recorded record) (hagrees : q.Agrees) {content : FrameContent}
    (hcontent : op.content q = some content) : op.givenFrames q = [] ∧
      ∃ frame, record content.sequence = some frame ∧ frame.toFrameContent = content := by
  cases op with
  | acquireBuffer now => exact ⟨rfl, BufferQueue.content_acquireBuffer h hagrees now hcontent⟩
  | acquireBufferByTimestamp expect auto now envs =>
    exact ⟨rfl, BufferQueue.content_acquireBufferByTimestamp h hagrees expect auto now envs hcontent⟩
  | _ => cases hcontent

end Op

/-- The frames of a run: those that the producer has given, those that the consumer has received, and
why frames may have been taken out in between. -/
structure DeliveryHistory where
  given : List PendingFrame := []
  shown : List FrameContent := []
  removals : List Removal := []

def DeliveryHistory.record (h : DeliveryHistory) (q : BufferQueue) (op : Op) : DeliveryHistory where
  given := h.given ++ op.givenFrames q
  shown := h.shown ++ (op.content q).toList
  removals := h.removals ++ (op.removal q).toList

def deliveryNext (s : BufferQueue × DeliveryHistory) (op : Op) : BufferQueue × DeliveryHistory :=
  (op.next s.1, s.2.record s.1 op)

def DeliveryStep (s : BufferQueue × DeliveryHistory) (op : Op) (t : BufferQueue × DeliveryHistory) :
    Prop :=
  QueueStep s.1 op t.1 ∧ t.2 = s.2.record s.1 op

namespace FrameRecord

def of (frames : List PendingFrame) : FrameRecord := writes (fun _ => none) frames

theorem filterMap_writes (record : FrameRecord) {ks : List ℕ} {frames : List PendingFrame}
    (hnodup : (ks ++ frames.map (·.sequence)).Nodup) :
    (ks ++ frames.map (·.sequence)).filterMap (record.writes frames) =
      ks.filterMap record ++ frames := by
  obtain ⟨-, hframes, hdisjoint⟩ := List.nodup_append.mp hnodup
  have hold : ks.filterMap (record.writes frames) = ks.filterMap record :=
    List.filterMap_congr fun k hk => writes_of_notMem record fun hmem => hdisjoint k hk k hmem rfl
  have hnew : (frames.map (·.sequence)).filterMap (record.writes frames) = frames := by
    rw [List.filterMap_map]
    calc frames.filterMap (record.writes frames ∘ (·.sequence))
        = frames.filterMap some :=
          List.filterMap_congr fun frame hframe => writes_of_mem record hframes hframe
      _ = frames := List.filterMap_some
  rw [List.filterMap_append, hold, hnew]

end FrameRecord

/-- The history is exact for the queue that it belongs to. -/
structure Delivers (s : BufferQueue × DeliveryHistory) : Prop where
  agrees : s.1.Agrees
  recorded : s.1.Recorded (.of s.2.given)
  frames : ∃ taken : List PendingFrame, taken.map (·.toFrameContent) = s.2.shown ∧
    (taken ++ s.1.pendingFrames).Sublist s.2.given ∧
    (s.2.removals = [] → taken ++ s.1.pendingFrames = s.2.given)

namespace Delivers

variable {s t : BufferQueue × DeliveryHistory} {op : Op}

theorem start (settings : QueueSettings) : Delivers (BufferQueue.start settings, {}) where
  agrees := agrees_start settings
  recorded k e he := by simp [BufferQueue.start] at he
  frames := ⟨[], rfl, by simp [BufferQueue.pendingFrames, BufferQueue.start], fun _ => rfl⟩

theorem pending (hdelivers : Delivers s) (hstep : DeliveryStep s op t) :
    ∃ taken : List PendingFrame, taken.map (·.toFrameContent) = (op.content s.1).toList ∧
      (taken ++ t.1.pendingFrames).Sublist (s.1.pendingFrames ++ op.givenFrames s.1) ∧
      (op.removal s.1 = none →
        taken ++ t.1.pendingFrames = s.1.pendingFrames ++ op.givenFrames s.1) := by
  have haccounts := hstep.1.accounts hdelivers.agrees
  have hagrees := (hstep.1.refines hdelivers.agrees).agrees hdelivers.agrees
  have hrecorded : t.1.Recorded ((FrameRecord.of s.2.given).writes (op.givenFrames s.1)) := by
    rw [hstep.1.2.1]
    exact Op.run_recorded hdelivers.recorded hdelivers.agrees hstep.1.1
  have hnodup := haccounts.nodup
  have hbefore : (s.1.dirtyList ++ unmarked (op.flushes s.1)).filterMap
      ((FrameRecord.of s.2.given).writes (op.givenFrames s.1)) =
        s.1.pendingFrames ++ op.givenFrames s.1 := by
    rw [← Op.map_sequence_givenFrames] at hnodup ⊢
    rw [FrameRecord.filterMap_writes _ hnodup,
      BufferQueue.pendingFrames_eq hdelivers.recorded hdelivers.agrees]
  have hafter := BufferQueue.pendingFrames_eq hrecorded hagrees
  have hflow := haccounts.flow
  have hkept := haccounts.kept
  rw [← hbefore, hafter]
  rw [← Op.map_sequence_content] at hflow hkept
  cases hcontent : op.content s.1 with
  | none =>
    rw [hcontent] at hflow hkept
    refine ⟨[], rfl, ?_, fun hnone => ?_⟩
    · exact List.Sublist.filterMap _ hflow
    · rw [hkept hnone]
      rfl
  | some content =>
    obtain ⟨hgiven, frame, hframe, hsame⟩ :=
      Op.content_recorded hdelivers.recorded hdelivers.agrees hcontent
    rw [hcontent] at hflow hkept
    have htold : (FrameRecord.of s.2.given).writes (op.givenFrames s.1) content.sequence =
        some frame := by
      rw [hgiven]
      exact hframe
    refine ⟨[frame], by simp [hsame], ?_, fun hnone => ?_⟩
    · obtain ⟨dropped, hqueue⟩ := hflow
      rw [hqueue, List.filterMap_append, List.filterMap_cons_some htold]
      exact List.sublist_append_right _ _
    · rw [hkept hnone, List.filterMap_append, Option.map_some, Option.toList_some,
        List.filterMap_cons_some htold]
      rfl

theorem step (hdelivers : Delivers s) (hstep : DeliveryStep s op t) : Delivers t := by
  obtain ⟨taken, hshown, hsub, hall⟩ := hdelivers.frames
  obtain ⟨taken', hshown', hsub', hall'⟩ := hdelivers.pending hstep
  obtain ⟨q, h⟩ := s
  obtain ⟨q', h'⟩ := t
  obtain ⟨hqueue, rfl⟩ := hstep
  refine ⟨(hqueue.refines hdelivers.agrees).agrees hdelivers.agrees, ?_,
    taken ++ taken', ?_, ?_, fun hnone => ?_⟩
  · have hrecorded := Op.run_recorded hdelivers.recorded hdelivers.agrees hqueue.1
    rw [← hqueue.2.1] at hrecorded
    simpa only [FrameRecord.of, DeliveryHistory.record, FrameRecord.writes_append] using hrecorded
  · simp only [DeliveryHistory.record, List.map_append, hshown, hshown']
  · have hgiven : (taken ++ (q.pendingFrames ++ op.givenFrames q)).Sublist
        (h.given ++ op.givenFrames q) := by
      rw [← List.append_assoc]
      exact hsub.append_right _
    rw [List.append_assoc]
    exact (hsub'.append_left taken).trans hgiven
  · obtain ⟨hbefore, hnow⟩ := List.append_eq_nil_iff.mp hnone
    have hremoval : op.removal q = none := by simpa using hnow
    simp only [DeliveryHistory.record]
    rw [List.append_assoc, hall' hremoval, ← List.append_assoc, hall hbefore]

end Delivers

def flushTwoAcquireOne : List Op :=
  let flush (k : ℕ) (time : Int) : Op :=
    .flushBuffer ⟨k, some ∅, invalidFence, ⟨[⟨0, 0, 4, 4⟩], time, 0⟩, ⟨.ok, 7⟩⟩
  [.configure .registerConsumerListener, .requestBuffer sampleConfig ⟨1, 1, true, true⟩,
    .requestBuffer sampleConfig ⟨2, 2, true, true⟩, flush 2 20, flush 1 0, .acquireBuffer 9]

end GraphicSurface
