import GraphicSurface.Capacity

/-! The three members that few calls write. `isAllocatingBuffer_` between two calls: only a request
sets it, and the same call takes it back. -/

namespace GraphicSurface

open Runs

namespace BufferQueue

variable {q q' : BufferQueue} {sequence : ℕ}

@[simp] theorem marks_cancel (q : BufferQueue) (sequence : ℕ)
    (bedata : Option ExtraData) :
    (q.cancelBufferLocked sequence bedata).2.marks = q.marks := by
  unfold cancelBufferLocked
  split
  · rfl
  · split <;> rfl

@[simp] theorem marks_takeBack (q : BufferQueue) (sequence : ℕ) :
    (q.takeBack sequence).marks = q.marks := by
  unfold takeBack
  split <;> simp

@[simp] theorem marks_doFlush (q : BufferQueue) (sequence : ℕ)
    (bedata : Option ExtraData) (fence : SyncFence) (config : BufferFlushConfigWithDamages)
    (env : FlushEnv) : (q.doFlushBufferLocked sequence bedata fence config env).2.marks =
      q.marks := by
  unfold doFlushBufferLocked
  split
  · rfl
  · split
    · simp
    · split
      · rfl
      · dsimp only
        split <;> rfl

@[simp] theorem marks_flushBuffer (q : BufferQueue) (sequence : ℕ)
    (bedata : Option ExtraData) (fence : SyncFence) (config : BufferFlushConfigWithDamages)
    (env : FlushEnv) : (q.flushBuffer sequence bedata fence config env).2.marks =
      q.marks := by
  refine flushBuffer_cases (motive := fun r => r.2.marks = q.marks) ?_ ?_ ?_
  · exact fun _ _ => rfl
  · exact fun _ _ _ _ => by simp
  · exact fun _ => by simp

theorem marks_flushBuffers (q : BufferQueue) (fs : List FlushArgs) :
    (q.flushBuffers fs).2.marks = q.marks :=
  flushBuffers_preserves (R := fun q q' => q'.marks = q.marks)
    (fun _ => rfl)
    (fun q f => q.marks_flushBuffer f.sequence f.bedata f.fence f.config f.env)
    (fun hone hrest => hrest.trans hone) q fs

@[simp] theorem marks_acquireBuffer (q : BufferQueue) (now : Int) :
    (q.acquireBuffer now).2.marks = q.marks :=
  acquireBuffer_induct (P := fun q' => q'.marks = q.marks) q.marks_popDirty (fun _ h => h)
    fun _ _ h => h

@[simp] theorem marks_releaseBufferLocked (q : BufferQueue) (sequence : ℕ)
    (fence : Option SyncFence) (env : ReleaseEnv) :
    (q.releaseBufferLocked sequence fence env).2.marks = q.marks := by
  unfold releaseBufferLocked
  split
  · rfl
  · split
    · rfl
    · dsimp only
      split
      · exact marks_deleteNoWait _ sequence
      · rfl

theorem marks_updateReuse_listener (q : BufferQueue) (needRealloc : Bool) (sequence : ℕ) :
    (q.updateReuseBufferState needRealloc sequence true).2.marks = q.marks := by
  unfold updateReuseBufferState
  split
  · rfl
  · dsimp only
    split <;> rfl

theorem marks_requestForListener (q : BufferQueue) (config : BufferRequestConfig) :
    (q.requestBufferLocked config noAllocation true).2.marks = q.marks := by
  have hpop (config : BufferRequestConfig) := q.marks_popFree config
  unfold requestBufferLocked
  split
  · rfl
  · rename_i updateConfig _
    have hbody : (q.requestBufferBody updateConfig true).2.marks = q.marks := by
      unfold requestBufferBody
      simp only [Bool.or_true, if_true]
      split
      · rename_i buffer q₁ h
        have hflag := hpop updateConfig
        rw [h] at hflag
        unfold reuseBuffer
        split
        · exact hflag
        · split
          · exact (marks_updateReuse_listener q₁ _ _).trans hflag
          · exact hflag
      · rename_i q₁ h
        have hflag := hpop updateConfig
        rw [h] at hflag
        exact hflag
    obtain ⟨reply, hdone⟩ := requestBufferBody_listener_done q updateConfig
    have hsplit : q.requestBufferBody updateConfig true =
        (.reached (.done reply), (q.requestBufferBody updateConfig true).2) := Prod.ext hdone rfl
    rw [hsplit]
    exact hbody

@[simp] theorem marks_handOut (q : BufferQueue) (fuel : ℕ)
    (configs : List BufferRequestConfig) :
    (q.handOut fuel configs).2.marks = q.marks := by
  induction fuel generalizing q configs with
  | zero => rfl
  | succ fuel ih =>
    cases configs with
    | nil => rfl
    | cons config configs =>
      have hone := q.marks_requestForListener config
      unfold handOut
      dsimp only
      split
      · exact (ih _ _).trans hone
      · exact (ih _ _).trans hone

@[simp] theorem marks_releaseBuffer (q : BufferQueue) (sequence : ℕ)
    (fence : Option SyncFence) (env : ReleaseEnv) :
    (q.releaseBuffer sequence fence env).2.marks = q.marks := by
  have hsection : (q.releaseBufferSection sequence fence env).2.2.marks =
      q.marks := by
    unfold releaseBufferSection requestBuffersForListenerLocked
    dsimp only
    split
    · simp
    · split <;> simp
  have hcallbacks (q : BufferQueue) (handed : List (ℕ × Option SyncFence)) :
      (q.onReleaseBufferWithSequenceAndFence env.callback handed).marks =
        q.marks :=
    onReleaseBufferWithSequenceAndFence_induct (P := fun q' => q'.marks = q.marks) rfl
      (fun q₁ sequence h => (q₁.marks_takeBack sequence).trans h) env.callback handed
  unfold releaseBuffer
  dsimp only
  split
  · exact (hcallbacks _ _).trans hsection
  · exact hsection

theorem marks_releaseDropBuffers (q : BufferQueue) (envs : ℕ → ReleaseEnv)
    (dropBuffers : List BufferAndFence) :
    (q.releaseDropBuffers envs dropBuffers).marks = q.marks :=
  releaseDropBuffers_induct (P := fun q' => q'.marks = q.marks) rfl envs
    (fun q₁ sequence fence h => (q₁.marks_releaseBuffer sequence fence _).trans h) dropBuffers

theorem marks_dropBuffersByLevel (q : BufferQueue) (now : Int) :
    (q.dropBuffersByLevel now).2.marks = q.marks :=
  dropBuffersByLevel_induct (P := fun q' => q'.marks = q.marks) rfl (fun _ h => h) fun _ _ _ h => h

theorem marks_acquireByTimestampSection (q : BufferQueue) (expect : Int)
    (auto : Bool) :
    (q.acquireByTimestampSection expect auto).2.2.marks = q.marks :=
  acquireByTimestampSection_induct (P := fun q' => q'.marks = q.marks) rfl (fun _ h => h)
    (fun _ _ _ h => h) expect auto

theorem marks_acquireBufferByTimestamp (q : BufferQueue) (expect : Int) (auto : Bool)
    (now : Int) (envs : ℕ → ReleaseEnv) :
    (q.acquireBufferByTimestamp expect auto now envs).2.marks =
      q.marks := by
  have hfirst : ((q.dropBuffersByLevel now).2.releaseDropBuffers envs
      (q.dropBuffersByLevel now).1).marks = q.marks := by
    rw [marks_releaseDropBuffers, marks_dropBuffersByLevel]
  unfold acquireBufferByTimestamp
  split
  · simp
  · split
    · rfl
    · dsimp only
      split
      · rw [marks_acquireByTimestampSection, hfirst]
      · rw [marks_acquireBuffer, marks_releaseDropBuffers,
          marks_acquireByTimestampSection, hfirst]

theorem marks_attachBufferToQueueLocked (q : BufferQueue) (buffer : SurfaceBuffer)
    (invokerType : InvokerType) :
    (q.attachBufferToQueueLocked buffer invokerType).2.marks = q.marks := by
  unfold attachBufferToQueueLocked
  split_ifs
  · rfl
  · rfl
  · rfl
  · cases invokerType <;> rfl

@[simp] theorem marks_detachBufferFromQueueLocked (q : BufferQueue) (sequence : ℕ)
    (invokerType : InvokerType) (isReserveSlot : Bool) :
    (q.detachBufferFromQueueLocked sequence invokerType isReserveSlot).2.marks =
      q.marks := by
  unfold detachBufferFromQueueLocked
  split
  · rfl
  · cases invokerType with
    | producerInvoker => rfl
    | consumerInvoker =>
      unfold detachForConsumer
      dsimp only
      split <;> exact marks_deleteNoWait q sequence

theorem marks_attachBuffer (q : BufferQueue) (buffer : SurfaceBuffer)
    (timeOut : Int) : (q.attachBuffer buffer timeOut).2.marks = q.marks := by
  unfold attachBuffer
  split_ifs
  · rfl
  · rfl
  · split
    · unfold attachBufferUpdateStatus
      split <;> rfl
    · split
      · rfl
      · exact marks_deleteBuffersLocked q _

theorem marks_detachBuffer (q : BufferQueue) (sequence : ℕ) :
    (q.detachBuffer sequence).2.marks = q.marks := by
  unfold detachBuffer
  split
  · rfl
  · split <;> rfl

theorem marks_attachAndFlushBuffer (q : BufferQueue) (buffer : SurfaceBuffer)
    (bedata : Option ExtraData) (fence : SyncFence) (config : BufferFlushConfigWithDamages)
    (env : FlushEnv) :
    (q.attachAndFlushBuffer buffer bedata fence config env).2.marks =
      q.marks := by
  have hattach := q.marks_attachBufferToQueueLocked buffer .producerInvoker
  have hflush (q : BufferQueue) :
      (q.flushBufferImprovedLocked buffer.seqNum bedata fence config env).2.marks =
        q.marks := by
    unfold flushBufferImprovedLocked
    split_ifs <;> simp
  unfold attachAndFlushBuffer
  dsimp only
  split
  · exact hattach
  · split <;> exact (hflush _).trans hattach

theorem marks_setQueueSizeLocked (q : BufferQueue) (queueSize : ℕ) :
    (q.setQueueSizeLocked queueSize).2.marks = q.marks :=
  setQueueSizeLocked_induct (P := fun q' => q'.marks = q.marks) rfl
    (fun count => marks_deleteBuffersLocked q count) (fun _ _ h => h) queueSize

theorem marks_preAllocBuffers (q : BufferQueue) (config : BufferRequestConfig)
    (count : ℕ) (as : ℕ → Allocation) :
    (q.preAllocBuffers config count as).2.marks = q.marks := by
  have hinsert (config : BufferRequestConfig) (l : List SurfaceBuffer) (q : BufferQueue) :
      (q.insertPreAlloc config l).2.marks = q.marks := by
    induction l generalizing q with
    | nil => rfl
    | cons buffer rest ih =>
      unfold insertPreAlloc
      split
      · rfl
      · exact ih _
  unfold preAllocBuffers
  split
  · rfl
  · dsimp only
    split
    · rfl
    · exact hinsert _ _ q

theorem marks_cleanReleasedBuffersLocked (q : BufferQueue) (l : List ℕ) :
    (q.cleanReleasedBuffersLocked l).2.marks = q.marks := by
  refine cleanReleasedBuffersLocked_induct (P := fun q' => q'.marks = q.marks) rfl
    (fun q₁ sequence h => ?_) l
  split <;> exact h

theorem marks_cleanProducerBySeqNum (q : BufferQueue) (seqNums : List ℕ) :
    (q.cleanProducerBySeqNum seqNums).marks = q.marks := by
  refine cleanProducerBySeqNum_induct (P := fun q' => q'.marks = q.marks) rfl
    (fun q₁ sequence h => ?_) seqNums
  unfold cleanProducerOne
  split <;> exact h

theorem isAllocatingBuffer_requestBuffer (q : BufferQueue) (config : BufferRequestConfig)
    (a : Allocation) (hq : q.isAllocatingBuffer = false) :
    (q.requestBuffer config a).2.isAllocatingBuffer = false := by
  have hfinish (point : ReusePoint) (q' : BufferQueue)
      (hstill : ∀ reply, point = .done reply → q'.isAllocatingBuffer = q.isAllocatingBuffer) :
      (q'.finishRequest a point).2.isAllocatingBuffer = false :=
    isAllocatingBuffer_finishRequest q' a point fun reply hdone => (hstill reply hdone).trans hq
  unfold requestBuffer requestBufferLocked
  split
  · exact hq
  · rename_i updateConfig _
    have hbody := requestBufferBody_still q updateConfig
    split
    · rename_i point q₁ hb
      rw [hb] at hbody
      refine hfinish point q₁ fun reply hdone => ?_
      subst hdone
      rcases hbody with ⟨job, hpoint, -⟩ | ⟨point, hpoint, -, hstill⟩ | ⟨config', hpoint, -⟩
      · cases hpoint
      · obtain rfl := RequestPoint.reached.inj hpoint
        exact hstill
      · cases hpoint
    · rename_i config' q₁ hb
      rw [hb] at hbody
      have hstill := reuseBufferForBlockMode_still q₁ config'
      refine hfinish (q₁.reuseBufferForBlockMode config').1 (q₁.reuseBufferForBlockMode config').2
        fun reply hdone => ?_
      rw [hdone] at hstill
      rcases hbody with ⟨job, hpoint, -⟩ | ⟨point, hpoint, -⟩ | ⟨config'', hpoint, -, hflag⟩
      · cases hpoint
      · cases hpoint
      · exact Eq.trans hstill hflag

theorem isAllocatingBuffer_requestBuffers (q : BufferQueue) (config : BufferRequestConfig)
    (as : List Allocation) (hq : q.isAllocatingBuffer = false) :
    (q.requestBuffers config as).2.2.isAllocatingBuffer = false := by
  have hloop (q : BufferQueue) (hq : q.isAllocatingBuffer = false) :
      (q.requestBuffersLoop config as).2.2.isAllocatingBuffer = false := by
    induction as generalizing q with
    | nil => exact hq
    | cons a as ih =>
      have hone := isAllocatingBuffer_requestBuffer q config a hq
      unfold requestBuffersLoop
      dsimp only
      split
      · exact hone
      · exact ih _ hone
  exact hloop { q with isBatch := true } hq

end BufferQueue

def Op.writesMarks : Op → Bool
  | .requestBuffer .. | .requestBuffers .. | .requestAndDetachBuffer .. | .goBackground
  | .setProducerCacheCleanFlag _ => true
  | _ => false

theorem Op.next_marks (q : BufferQueue) {op : Op} (hop : op.writesMarks = false) :
    (op.next q).marks = q.marks := by
  cases op with
  | requestBuffer | requestBuffers | requestAndDetachBuffer | goBackground
  | setProducerCacheCleanFlag => cases hop
  | cancelBuffer sequence bedata => exact q.marks_cancel sequence bedata
  | flushBuffer f => exact q.marks_flushBuffer _ _ _ _ _
  | flushBuffers fs => exact q.marks_flushBuffers fs
  | acquireBuffer now => exact q.marks_acquireBuffer now
  | acquireBufferByTimestamp expect auto now envs =>
    exact q.marks_acquireBufferByTimestamp expect auto now envs
  | releaseBuffer sequence fence env => exact q.marks_releaseBuffer sequence fence env
  | attachBufferToQueue buffer invoker => exact q.marks_attachBufferToQueueLocked buffer invoker
  | detachBufferFromQueue sequence invoker reserve =>
    exact q.marks_detachBufferFromQueueLocked sequence invoker reserve
  | attachBuffer buffer timeOut => exact q.marks_attachBuffer buffer timeOut
  | detachBuffer sequence => exact q.marks_detachBuffer sequence
  | attachAndFlushBuffer buffer bedata fence config env =>
    exact q.marks_attachAndFlushBuffer buffer bedata fence config env
  | setQueueSize size =>
    change (q.setQueueSize size).2.marks = q.marks
    unfold BufferQueue.setQueueSize
    split
    · rfl
    · exact q.marks_setQueueSizeLocked size
  | setMaxQueueSize size =>
    change (q.setMaxQueueSize size).2.marks = q.marks
    unfold BufferQueue.setMaxQueueSize
    split
    · rfl
    · dsimp only
      split
      · exact BufferQueue.marks_setQueueSizeLocked _ size
      · rfl
  | preAllocBuffers config count as => exact q.marks_preAllocBuffers config count as
  | cleanCache | onConsumerDied => rfl
  | cleanReleasedBuffers => exact q.marks_cleanReleasedBuffersLocked q.freeList
  | cleanProducerBySeqNum seqNums => exact q.marks_cleanProducerBySeqNum seqNums
  | acquireLastFlushedBuffer =>
    exact BufferQueue.acquireLastFlushedBuffer_induct (P := fun q' => q'.marks = q.marks) q rfl rfl
  | releaseLastFlushedBuffer sequence =>
    exact BufferQueue.releaseLastFlushedBuffer_induct (P := fun q' => q'.marks = q.marks) q sequence
      rfl rfl
  | setBufferScalingMode sequence mode =>
    change (q.setBufferScalingMode sequence mode).2.marks = q.marks
    unfold BufferQueue.setBufferScalingMode
    split <;> rfl
  | setScalingMode | setVideoDimensionType | setSingleBufferMode | configure => rfl

theorem Op.next_notAllocating {q : BufferQueue} (hq : q.isAllocatingBuffer = false) (op : Op) :
    (op.next q).isAllocatingBuffer = false := by
  cases hop : op.writesMarks with
  | false => exact (congrArg Prod.fst (op.next_marks q hop)).trans hq
  | true =>
    cases op with
    | requestBuffer config a => exact q.isAllocatingBuffer_requestBuffer config a hq
    | requestBuffers config as => exact q.isAllocatingBuffer_requestBuffers config as hq
    | requestAndDetachBuffer config a =>
      have hrequest : (q.requestBufferLocked config a false).2.isAllocatingBuffer = false :=
        q.isAllocatingBuffer_requestBuffer config a hq
      change (q.requestAndDetachBuffer config a).2.isAllocatingBuffer = false
      unfold BufferQueue.requestAndDetachBuffer
      dsimp only
      split
      · exact hrequest
      · exact (congrArg Prod.fst
          (BufferQueue.marks_detachBufferFromQueueLocked _ _ _ _)).trans hrequest
    | goBackground => exact hq
    | setProducerCacheCleanFlag flag =>
      change (q.setProducerCacheCleanFlag flag).isAllocatingBuffer = false
      unfold BufferQueue.setProducerCacheCleanFlag
      dsimp only
      split <;> exact hq
    | _ => cases hop

theorem Reachable.notAllocating {q : BufferQueue} (hq : Reachable q) :
    q.isAllocatingBuffer = false := by
  obtain ⟨s, ops, run⟩ := hq
  induction run with
  | nil => rfl
  | snoc run step ih =>
    obtain ⟨-, rfl, -⟩ := step
    exact Op.next_notAllocating ih _

end GraphicSurface
