import GraphicSurface.Operations

/-! What the calls leave alone, and where a deletion notice goes. `Conserves told q q'` says that
between `q` and `q'` the notices `told` left the front of `deletingList_` for some reply, and
that everything pushed in between was put at its end. -/

namespace GraphicSurface

open Runs

structure Conserves (told : List ℕ) (q q' : BufferQueue) : Prop where
  balance : ∃ new, q'.noticed = q.noticed ++ new ∧ q.deletingList ++ new = told ++ q'.deletingList

structure Frame (told : List ℕ) (q q' : BufferQueue) : Prop extends Conserves told q q' where
  settings : q'.toQueueSettings = q.toQueueSettings
  reserve : q'.detachReserveSlotNum = q.detachReserveSlotNum

theorem Conserves.of_eq {q q' : BufferQueue} (hnoticed : q'.noticed = q.noticed)
    (hdeleting : q'.deletingList = q.deletingList) : Conserves [] q q' :=
  ⟨⟨[], by simp [hnoticed], by simp [hdeleting]⟩⟩

theorem Conserves.trans {told told' : List ℕ} {q q₁ q₂ : BufferQueue}
    (h₁ : Conserves told q q₁) (h₂ : Conserves told' q₁ q₂) : Conserves (told ++ told') q q₂ := by
  obtain ⟨new₁, hnoticed₁, hbalance₁⟩ := h₁.balance
  obtain ⟨new₂, hnoticed₂, hbalance₂⟩ := h₂.balance
  refine ⟨new₁ ++ new₂, ?_, ?_⟩
  · rw [hnoticed₂, hnoticed₁, List.append_assoc]
  · calc q.deletingList ++ (new₁ ++ new₂) = told ++ (q₁.deletingList ++ new₂) := by
          rw [← List.append_assoc, hbalance₁, List.append_assoc]
      _ = told ++ told' ++ q₂.deletingList := by rw [hbalance₂, List.append_assoc]

namespace Frame

variable {told told' : List ℕ} {q q₁ q₂ : BufferQueue}

theorem of_eq (hsettings : q₁.toQueueSettings = q.toQueueSettings)
    (hreserve : q₁.detachReserveSlotNum = q.detachReserveSlotNum)
    (hnoticed : q₁.noticed = q.noticed) (hdeleting : q₁.deletingList = q.deletingList) :
    Frame [] q q₁ :=
  ⟨.of_eq hnoticed hdeleting, hsettings, hreserve⟩

theorem refl : Frame [] q q :=
  of_eq rfl rfl rfl rfl

theorem trans (h₁ : Frame told q q₁) (h₂ : Frame told' q₁ q₂) : Frame (told ++ told') q q₂ :=
  ⟨h₁.toConserves.trans h₂.toConserves, h₂.settings.trans h₁.settings,
    h₂.reserve.trans h₁.reserve⟩

theorem after (h₁ : Frame [] q q₁) (h₂ : Frame told q₁ q₂) : Frame told q q₂ :=
  h₁.trans h₂

theorem before (h₁ : Frame told q q₁) (h₂ : Frame [] q₁ q₂) : Frame told q q₂ := by
  simpa using h₁.trans h₂

end Frame

/-- The notices that a request has already put into its reply when its section ends. -/
def ReusePoint.told : ReusePoint → List ℕ
  | .done reply => reply.retval.deletingBuffers
  | .setupNewBuffer _ | .reallocBuffer _ => []

def RequestPoint.told : RequestPoint → List ℕ
  | .reached point => point.told
  | .waitReq _ => []

namespace BufferQueue

theorem popFromFreeListLocked_frame (q : BufferQueue) (config : BufferRequestConfig) :
    Frame [] q (q.popFromFreeListLocked config).2 :=
  popFromFreeListLocked_induct q config (fun _ => .of_eq rfl rfl rfl rfl) (.of_eq rfl rfl rfl rfl)
    fun _ _ => .of_eq rfl rfl rfl rfl

theorem popFromDirtyListLocked_frame (q : BufferQueue) :
    Frame [] q q.popFromDirtyListLocked.2 :=
  popFromDirtyListLocked_induct q (fun _ => .of_eq rfl rfl rfl rfl) (.of_eq rfl rfl rfl rfl)

theorem addDeletingBuffersLocked_frame (q : BufferQueue) :
    Frame (q.addDeletingBuffersLocked []).1 q (q.addDeletingBuffersLocked []).2 :=
  ⟨⟨⟨[], by simp [addDeletingBuffersLocked], by simp [addDeletingBuffersLocked]⟩⟩, rfl, rfl⟩

theorem deleteNoWait_frame (q : BufferQueue) (sequence : ℕ) :
    Frame [] q (q.deleteBufferInCacheNoWaitForAllocatingState sequence) := by
  unfold deleteBufferInCacheNoWaitForAllocatingState
  split
  · exact .refl
  · split
    · exact .of_eq rfl rfl rfl rfl
    · exact ⟨⟨⟨[sequence], rfl, rfl⟩⟩, rfl, rfl⟩

theorem cancelBufferLocked_frame (q : BufferQueue) (sequence : ℕ) (bedata : Option ExtraData) :
    Frame [] q (q.cancelBufferLocked sequence bedata).2 := by
  unfold cancelBufferLocked
  split
  · exact .refl
  · split
    · exact .refl
    · exact .of_eq rfl rfl rfl rfl

theorem pushProducerCacheList_frame (q : BufferQueue) (sequence : ℕ) :
    Frame [] q (q.pushProducerCacheList sequence) :=
  pushProducerCacheList_induct q sequence fun _ _ => .of_eq rfl rfl rfl rfl

theorem allocBufferEnd_frame (q : BufferQueue) (job : AllocJob) (a : Allocation) :
    Frame [] q (q.allocBufferEnd job a).2 := by
  unfold allocBufferEnd
  dsimp only
  split <;> exact .of_eq rfl rfl rfl rfl

theorem deliverObject_frame (q : BufferQueue) (sequence : ℕ) :
    Frame [] q (q.deliverObject sequence) :=
  (pushProducerCacheList_frame q sequence).trans (.of_eq rfl rfl rfl rfl)

theorem updateReuseBufferState_frame (q : BufferQueue) (needRealloc : Bool) (sequence : ℕ)
    (listenerSeqAndFence : Bool) :
    Frame (q.updateReuseBufferState needRealloc sequence
        listenerSeqAndFence).1.retval.deletingBuffers q
      (q.updateReuseBufferState needRealloc sequence listenerSeqAndFence).2 := by
  unfold updateReuseBufferState
  split
  · exact .of_eq rfl rfl rfl rfl
  · have hmark : Frame [] q (q.markRequested sequence) := .of_eq rfl rfl rfl rfl
    have hdrain := hmark.after (addDeletingBuffersLocked_frame _)
    dsimp only
    split
    · split
      · exact hdrain.before (.of_eq rfl rfl rfl rfl)
      · exact hdrain.before (deliverObject_frame _ sequence)
    · exact hdrain

theorem reallocBufferLocked_frame (q : BufferQueue) (config : BufferRequestConfig)
    (sequence : ℕ) : Frame [] q (q.reallocBufferLocked config sequence).2 :=
  (deleteNoWait_frame q sequence).before (.of_eq rfl rfl rfl rfl)

theorem reuseBuffer_frame (q : BufferQueue) (config : BufferRequestConfig)
    (buffer : SurfaceBuffer) (listenerSeqAndFence : Bool) :
    Frame (q.reuseBuffer config buffer listenerSeqAndFence).1.told q
      (q.reuseBuffer config buffer listenerSeqAndFence).2 := by
  unfold reuseBuffer
  split
  · exact .refl
  · split
    · exact updateReuseBufferState_frame q false buffer.seqNum listenerSeqAndFence
    · split
      · exact .of_eq rfl rfl rfl rfl
      · exact reallocBufferLocked_frame q config buffer.seqNum

theorem setupNewBufferLocked_frame (q : BufferQueue) (config : BufferRequestConfig) :
    Frame [] q (q.setupNewBufferLocked config).2 :=
  .of_eq rfl rfl rfl rfl

theorem reuseBufferForBlockMode_frame (q : BufferQueue) (config : BufferRequestConfig) :
    Frame (q.reuseBufferForBlockMode config).1.told q (q.reuseBufferForBlockMode config).2 := by
  have hpop := popFromFreeListLocked_frame q config
  unfold reuseBufferForBlockMode
  split
  · exact .refl
  · split
    · rename_i buffer q₁ h
      rw [h] at hpop
      exact hpop.after (reuseBuffer_frame q₁ config buffer false)
    · rename_i q₁ h
      rw [h] at hpop
      exact hpop

theorem reuseBufferForNoBlockMode_frame (q : BufferQueue) (config : BufferRequestConfig) :
    Frame (q.reuseBufferForNoBlockMode config).1.told q
      (q.reuseBufferForNoBlockMode config).2 := by
  have hpop := popFromDirtyListLocked_frame q
  unfold reuseBufferForNoBlockMode
  split
  · rename_i buffer q₁ h
    rw [h] at hpop
    dsimp only
    refine Frame.after ?_ (reuseBuffer_frame _ config _ false)
    exact hpop.before (.of_eq rfl rfl rfl rfl)
  · rename_i q₁ h
    rw [h] at hpop
    exact hpop

theorem requestBufferBody_frame (q : BufferQueue) (config : BufferRequestConfig)
    (listenerSeqAndFence : Bool) :
    Frame (q.requestBufferBody config listenerSeqAndFence).1.told q
      (q.requestBufferBody config listenerSeqAndFence).2 := by
  have hpop := popFromFreeListLocked_frame q config
  unfold requestBufferBody
  dsimp only
  split
  · split
    · rename_i buffer q₁ h
      rw [h] at hpop
      exact hpop.after (reuseBuffer_frame q₁ config buffer listenerSeqAndFence)
    · rename_i q₁ h
      rw [h] at hpop
      split
      · exact hpop
      · split
        · split
          · exact hpop
          · exact hpop.after (reuseBufferForNoBlockMode_frame q₁ config)
        · exact hpop.after (setupNewBufferLocked_frame q₁ config)
  · exact setupNewBufferLocked_frame q config

theorem finishRequest_frame (q : BufferQueue) (a : Allocation) (point : ReusePoint) :
    ∃ told, Frame told q (q.finishRequest a point).2 ∧
      point.told ++ told = (q.finishRequest a point).1.retval.deletingBuffers := by
  cases point with
  | done reply => exact ⟨[], .refl, List.append_nil _⟩
  | setupNewBuffer job =>
    have halloc := allocBufferEnd_frame q job a
    unfold finishRequest
    dsimp only
    split
    · rename_i q₁ h
      rw [h] at halloc
      exact ⟨[], halloc, rfl⟩
    · rename_i buffer q₁ h
      rw [h] at halloc
      exact ⟨_, halloc.after (addDeletingBuffersLocked_frame q₁), rfl⟩
  | reallocBuffer job =>
    have halloc := allocBufferEnd_frame q job a
    unfold finishRequest
    dsimp only
    split
    · rename_i q₁ h
      rw [h] at halloc
      exact ⟨[], halloc, rfl⟩
    · rename_i buffer q₁ h
      rw [h] at halloc
      exact ⟨_, halloc.after (updateReuseBufferState_frame q₁ true buffer.seqNum false), rfl⟩

theorem finish_frame {q q₁ : BufferQueue} {point : ReusePoint} (h : Frame point.told q q₁)
    (a : Allocation) :
    Frame (q₁.finishRequest a point).1.retval.deletingBuffers q (q₁.finishRequest a point).2 := by
  obtain ⟨told, hfinish, htold⟩ := finishRequest_frame q₁ a point
  rw [← htold]
  exact h.trans hfinish

theorem requestBufferLocked_frame (q : BufferQueue) (config : BufferRequestConfig)
    (a : Allocation) (listenerSeqAndFence : Bool) :
    Frame (q.requestBufferLocked config a listenerSeqAndFence).1.retval.deletingBuffers q
      (q.requestBufferLocked config a listenerSeqAndFence).2 := by
  unfold requestBufferLocked
  split
  · exact .refl
  · rename_i updateConfig _
    have hbody := requestBufferBody_frame q updateConfig listenerSeqAndFence
    split
    · rename_i point q₁ h
      rw [h] at hbody
      exact finish_frame hbody a
    · rename_i config' q₁ h
      rw [h] at hbody
      exact finish_frame (hbody.after (reuseBufferForBlockMode_frame q₁ config')) a

theorem requestBuffersLoop_frame (q : BufferQueue) (config : BufferRequestConfig)
    (as : List Allocation) : ∃ told, Frame told q (q.requestBuffersLoop config as).2.2 := by
  induction as generalizing q with
  | nil => exact ⟨[], .refl⟩
  | cons a as ih =>
    have hone := requestBufferLocked_frame q config a false
    unfold requestBuffersLoop requestBuffer
    dsimp only
    split
    · exact ⟨_, hone⟩
    · obtain ⟨told, hrest⟩ := ih (q.requestBufferLocked config a false).2
      exact ⟨_, hone.trans hrest⟩

theorem doFlushBufferLocked_frame (q : BufferQueue) (sequence : ℕ) (bedata : Option ExtraData)
    (fence : SyncFence) (config : BufferFlushConfigWithDamages) (env : FlushEnv) :
    Frame [] q (q.doFlushBufferLocked sequence bedata fence config env).2 := by
  unfold doFlushBufferLocked
  split
  · exact .refl
  · split
    · exact deleteNoWait_frame q sequence
    · split
      · exact .of_eq rfl rfl rfl rfl
      · dsimp only
        split <;> exact .of_eq rfl rfl rfl rfl

theorem flushBuffer_frame (q : BufferQueue) (sequence : ℕ) (bedata : Option ExtraData)
    (fence : SyncFence) (config : BufferFlushConfigWithDamages) (env : FlushEnv) :
    Frame [] q (q.flushBuffer sequence bedata fence config env).2 := by
  refine flushBuffer_cases (motive := fun r => Frame [] q r.2) ?_ ?_ ?_
  · exact fun _ _ => .refl
  · exact fun _ _ _ _ => cancelBufferLocked_frame q sequence bedata
  · exact fun _ => doFlushBufferLocked_frame q sequence bedata fence config env

theorem flushBufferImprovedLocked_frame (q : BufferQueue) (sequence : ℕ)
    (bedata : Option ExtraData) (fence : SyncFence) (config : BufferFlushConfigWithDamages)
    (env : FlushEnv) :
    Frame [] q (q.flushBufferImprovedLocked sequence bedata fence config env).2 := by
  refine flushBufferImprovedLocked_cases (motive := fun r => Frame [] q r.2) ?_ ?_
  · exact fun _ _ => .refl
  · exact fun _ => doFlushBufferLocked_frame q sequence bedata fence config env

theorem flushBuffers_frame (q : BufferQueue) (fs : List FlushArgs) :
    Frame [] q (q.flushBuffers fs).2 :=
  flushBuffers_preserves (fun _ => .refl)
    (fun q f => flushBuffer_frame q f.sequence f.bedata f.fence f.config f.env) .after q fs

theorem releaseBufferLocked_frame (q : BufferQueue) (sequence : ℕ) (fence : Option SyncFence)
    (env : ReleaseEnv) : Frame [] q (q.releaseBufferLocked sequence fence env).2 := by
  unfold releaseBufferLocked
  split
  · exact .refl
  · rename_i ele _
    split
    · exact .refl
    · have hmark : Frame [] q (q.markReleased sequence ele.lastAcquireTime fence env) :=
        .of_eq rfl rfl rfl rfl
      dsimp only
      split
      · exact hmark.after (deleteNoWait_frame _ sequence)
      · exact hmark.after (.of_eq rfl rfl rfl rfl)

def handOutTold (q : BufferQueue) : ℕ → List BufferRequestConfig → List ℕ
  | 0, _ => []
  | _ + 1, [] => []
  | fuel + 1, config :: configs =>
    match q.requestBufferLocked config noAllocation true with
    | (reply, q) =>
      reply.retval.deletingBuffers ++
        if reply.ret = .ok then
          (q.setRequestedFromListener reply.retval.sequence).handOutTold fuel (config :: configs)
        else q.handOutTold fuel configs

theorem handOut_frame (q : BufferQueue) (fuel : ℕ) (configs : List BufferRequestConfig) :
    Frame (q.handOutTold fuel configs) q (q.handOut fuel configs).2 := by
  induction fuel generalizing q configs with
  | zero => exact .refl
  | succ fuel ih =>
    cases configs with
    | nil => exact .refl
    | cons config configs =>
      have hone := requestBufferLocked_frame q config noAllocation true
      unfold handOut handOutTold
      dsimp only
      split
      · refine hone.trans (Frame.after ?_ (ih _ (config :: configs)))
        exact .of_eq rfl rfl rfl rfl
      · exact hone.trans (ih _ configs)

theorem takeBack_frame (q : BufferQueue) (sequence : ℕ) : Frame [] q (q.takeBack sequence) := by
  unfold takeBack
  split
  · exact .refl
  · exact cancelBufferLocked_frame q sequence _

theorem onReleaseBufferWithSequenceAndFence_frame (q : BufferQueue) (callback : ℕ → Bool)
    (handed : List (ℕ × Option SyncFence)) :
    Frame [] q (q.onReleaseBufferWithSequenceAndFence callback handed) :=
  onReleaseBufferWithSequenceAndFence_induct .refl
    (fun q₁ sequence h => h.before (takeBack_frame q₁ sequence)) callback handed

def releaseBufferTold (q : BufferQueue) (sequence : ℕ) (fence : Option SyncFence)
    (env : ReleaseEnv) : List ℕ :=
  match q.releaseBufferLocked sequence fence env with
  | (ret, q) =>
    if ret ≠ .ok then []
    else if q.listenerSeqAndFenceActive then
      let configs := q.collectConfigs q.freeList []
      q.handOutTold (q.freeList.length + configs.length) configs
    else []

theorem releaseBuffer_frame (q : BufferQueue) (sequence : ℕ) (fence : Option SyncFence)
    (env : ReleaseEnv) :
    Frame (q.releaseBufferTold sequence fence env) q (q.releaseBuffer sequence fence env).2 := by
  have hrelease := releaseBufferLocked_frame q sequence fence env
  have hsection : Frame (q.releaseBufferTold sequence fence env) q
      (q.releaseBufferSection sequence fence env).2.2 := by
    unfold releaseBufferTold releaseBufferSection requestBuffersForListenerLocked
    dsimp only
    split
    · exact hrelease
    · split
      · exact hrelease.after (handOut_frame _ _ _)
      · exact hrelease
  unfold releaseBuffer
  dsimp only
  split
  · exact hsection.before (onReleaseBufferWithSequenceAndFence_frame _ _ _)
  · exact hsection

def releaseDropBuffersTold (q : BufferQueue) (envs : ℕ → ReleaseEnv) : List BufferAndFence → List ℕ
  | [] => []
  | d :: dropBuffers =>
    q.releaseBufferTold d.1.seqNum d.2 (envs d.1.seqNum) ++
      (q.releaseBuffer d.1.seqNum d.2 (envs d.1.seqNum)).2.releaseDropBuffersTold envs dropBuffers

theorem releaseDropBuffers_frame (q : BufferQueue) (envs : ℕ → ReleaseEnv)
    (dropBuffers : List BufferAndFence) :
    Frame (q.releaseDropBuffersTold envs dropBuffers) q (q.releaseDropBuffers envs dropBuffers) := by
  unfold releaseDropBuffers
  induction dropBuffers generalizing q with
  | nil => exact .refl
  | cons d dropBuffers ih =>
    rw [List.foldl_cons]
    exact (releaseBuffer_frame q d.1.seqNum d.2 (envs d.1.seqNum)).trans (ih _)

theorem acquireBuffer_frame (q : BufferQueue) (now : Int) :
    Frame [] q (q.acquireBuffer now).2 :=
  acquireBuffer_induct (popFromDirtyListLocked_frame q)
    (fun _ h => h.before (.of_eq rfl rfl rfl rfl)) fun _ _ h => h.before (.of_eq rfl rfl rfl rfl)

theorem dropBuffersByLevel_frame (q : BufferQueue) (now : Int) :
    Frame [] q (q.dropBuffersByLevel now).2 :=
  dropBuffersByLevel_induct .refl (fun _ h => h.before (.of_eq rfl rfl rfl rfl))
    fun _ _ _ h => h.before (.of_eq rfl rfl rfl rfl)

theorem acquireByTimestampSection_frame (q : BufferQueue) (expect : Int) (auto : Bool) :
    Frame [] q (q.acquireByTimestampSection expect auto).2.2 :=
  acquireByTimestampSection_induct .refl (fun _ h => h.before (.of_eq rfl rfl rfl rfl))
    (fun _ _ _ h => h.before (.of_eq rfl rfl rfl rfl)) expect auto

def acquireBufferByTimestampTold (q : BufferQueue) (expectPresentTimestamp : Int)
    (isUsingAutoTimestamp : Bool) (now : Int) (envs : ℕ → ReleaseEnv) : List ℕ :=
  if expectPresentTimestamp ≤ 0 ∨ q.dirtyList = [] then []
  else
    let (dropped, q) := q.dropBuffersByLevel now
    let q' := q.releaseDropBuffers envs dropped
    q.releaseDropBuffersTold envs dropped ++
      match q'.acquireByTimestampSection expectPresentTimestamp isUsingAutoTimestamp with
      | (ret, dropped, q) => if ret ≠ .ok then [] else q.releaseDropBuffersTold envs dropped

theorem acquireBufferByTimestamp_frame (q : BufferQueue) (expect : Int) (auto : Bool) (now : Int)
    (envs : ℕ → ReleaseEnv) :
    Frame (q.acquireBufferByTimestampTold expect auto now envs) q
      (q.acquireBufferByTimestamp expect auto now envs).2 := by
  unfold acquireBufferByTimestamp acquireBufferByTimestampTold
  by_cases hplain : expect ≤ 0
  · rw [if_pos hplain, if_pos (.inl hplain)]
    exact acquireBuffer_frame q now
  · rw [if_neg hplain]
    by_cases hdirty : q.dirtyList = []
    · rw [if_pos hdirty, if_pos (.inr hdirty)]
      exact .refl
    · rw [if_neg hdirty, if_neg (by simp [hplain, hdirty])]
      have hlevel := (dropBuffersByLevel_frame q now).after
        (releaseDropBuffers_frame (q.dropBuffersByLevel now).2 envs (q.dropBuffersByLevel now).1)
      have hsection := hlevel.before (acquireByTimestampSection_frame _ expect auto)
      dsimp only
      split
      · rw [List.append_nil]
        exact hsection
      · exact (hsection.trans (releaseDropBuffers_frame _ envs _)).before
          (acquireBuffer_frame _ now)

theorem deleteBuffersLocked_frame (q : BufferQueue) (count : ℕ) :
    Frame [] q (q.deleteBuffersLocked count) :=
  deleteBuffersLocked_induct .refl
    (fun q₁ sequence h => (h.before (deleteNoWait_frame q₁ sequence)).before (.of_eq rfl rfl rfl rfl))
    (fun q₁ sequence _ h =>
      (h.before (deleteNoWait_frame q₁ sequence)).before (.of_eq rfl rfl rfl rfl))
    (fun _ _ h => h.before (.of_eq rfl rfl rfl rfl)) count

theorem detachForConsumer_conserves (q : BufferQueue) (sequence : ℕ) (isReserveSlot : Bool) :
    Conserves [] q (q.detachForConsumer sequence isReserveSlot) := by
  have hdelete := (deleteNoWait_frame q sequence).toConserves
  unfold detachForConsumer
  dsimp only
  split
  · exact hdelete.trans (.of_eq rfl rfl)
  · exact hdelete

theorem attachBufferToQueueLocked_conserves (q : BufferQueue) (buffer : SurfaceBuffer)
    (invokerType : InvokerType) :
    Conserves [] q (q.attachBufferToQueueLocked buffer invokerType).2 := by
  unfold attachBufferToQueueLocked
  split_ifs
  · exact .of_eq rfl rfl
  · exact .of_eq rfl rfl
  · exact .of_eq rfl rfl
  · cases invokerType <;> exact .of_eq rfl rfl

theorem attachBuffer_frame (q : BufferQueue) (buffer : SurfaceBuffer) (timeOut : Int) :
    Frame [] q (q.attachBuffer buffer timeOut).2 := by
  unfold attachBuffer attachBufferUpdateStatus
  split
  · exact .refl
  · split
    · exact .refl
    · split
      · split <;> exact .of_eq rfl rfl rfl rfl
      · split
        · exact .refl
        · exact (deleteBuffersLocked_frame q _).before (.of_eq rfl rfl rfl rfl)

theorem detachBuffer_frame (q : BufferQueue) (sequence : ℕ) :
    Frame [] q (q.detachBuffer sequence).2 := by
  unfold detachBuffer
  split
  · exact .refl
  · split <;> exact .of_eq rfl rfl rfl rfl

theorem insertPreAlloc_frame (q : BufferQueue) (config : BufferRequestConfig)
    (buffers : List SurfaceBuffer) : Frame [] q (q.insertPreAlloc config buffers).2 := by
  induction buffers generalizing q with
  | nil => exact .refl
  | cons buffer rest ih =>
    unfold insertPreAlloc
    split
    · exact .refl
    · refine Frame.after ?_ (ih _)
      exact .of_eq rfl rfl rfl rfl

theorem preAllocBuffers_frame (q : BufferQueue) (config : BufferRequestConfig) (count : ℕ)
    (as : ℕ → Allocation) : Frame [] q (q.preAllocBuffers config count as).2 := by
  unfold preAllocBuffers
  dsimp only
  split
  · exact .refl
  · split
    · exact .refl
    · exact insertPreAlloc_frame q _ _

theorem cleanReleasedBuffersLocked_frame (q : BufferQueue) (l : List ℕ) :
    Frame [] q (q.cleanReleasedBuffersLocked l).2 := by
  refine cleanReleasedBuffersLocked_induct .refl (fun q₁ sequence h => ?_) l
  split <;> exact h.before (.of_eq rfl rfl rfl rfl)

theorem cleanProducerBySeqNum_frame (q : BufferQueue) (seqNums : List ℕ) :
    Frame [] q (q.cleanProducerBySeqNum seqNums) := by
  refine cleanProducerBySeqNum_induct .refl (fun q₁ sequence h => ?_) seqNums
  unfold cleanProducerOne
  split <;> exact h.before (.of_eq rfl rfl rfl rfl)

theorem detachBufferFromQueueLocked_conserves (q : BufferQueue) (sequence : ℕ)
    (invokerType : InvokerType) (isReserveSlot : Bool) :
    Conserves [] q (q.detachBufferFromQueueLocked sequence invokerType isReserveSlot).2 := by
  unfold detachBufferFromQueueLocked
  split
  · exact .of_eq rfl rfl
  · cases invokerType with
    | producerInvoker => exact .of_eq rfl rfl
    | consumerInvoker => exact detachForConsumer_conserves q sequence isReserveSlot

theorem attachAndFlushBuffer_conserves (q : BufferQueue) (buffer : SurfaceBuffer)
    (bedata : Option ExtraData) (fence : SyncFence) (config : BufferFlushConfigWithDamages)
    (env : FlushEnv) :
    Conserves [] q (q.attachAndFlushBuffer buffer bedata fence config env).2 := by
  have hattach := attachBufferToQueueLocked_conserves q buffer .producerInvoker
  have hflush := (flushBufferImprovedLocked_frame
    (q.attachBufferToQueueLocked buffer .producerInvoker).2 buffer.seqNum bedata fence config
    env).toConserves
  unfold attachAndFlushBuffer
  dsimp only
  split
  · exact hattach
  · split
    · exact (hattach.trans hflush).trans (.of_eq rfl rfl)
    · exact hattach.trans hflush

theorem setQueueSizeLocked_conserves (q : BufferQueue) (queueSize : ℕ) :
    Conserves [] q (q.setQueueSizeLocked queueSize).2 :=
  setQueueSizeLocked_induct (.of_eq rfl rfl) (fun count => (deleteBuffersLocked_frame q count).toConserves)
    (fun _ _ h => h.trans (.of_eq rfl rfl)) queueSize

theorem setQueueSize_conserves (q : BufferQueue) (queueSize : ℕ) :
    Conserves [] q (q.setQueueSize queueSize).2 := by
  unfold setQueueSize
  split
  · exact .of_eq rfl rfl
  · exact setQueueSizeLocked_conserves q queueSize

theorem setMaxQueueSize_conserves (q : BufferQueue) (queueSize : ℕ) :
    Conserves [] q (q.setMaxQueueSize queueSize).2 := by
  have hmax : Conserves [] q { q with maxQueueSize := queueSize } := .of_eq rfl rfl
  unfold setMaxQueueSize
  dsimp only
  split
  · exact .of_eq rfl rfl
  · split
    · exact hmax.trans (setQueueSizeLocked_conserves _ queueSize)
    · exact hmax

theorem acquireLastFlushedBuffer_conserves (q : BufferQueue) :
    Conserves [] q q.acquireLastFlushedBuffer.2 :=
  acquireLastFlushedBuffer_induct q (.of_eq rfl rfl) (.of_eq rfl rfl)

theorem releaseLastFlushedBuffer_conserves (q : BufferQueue) (sequence : ℕ) :
    Conserves [] q (q.releaseLastFlushedBuffer sequence).2 :=
  releaseLastFlushedBuffer_induct q sequence (.of_eq rfl rfl) (.of_eq rfl rfl)

theorem setBufferScalingMode_conserves (q : BufferQueue) (sequence : ℕ) (scalingMode : Int) :
    Conserves [] q (q.setBufferScalingMode sequence scalingMode).2 := by
  unfold setBufferScalingMode
  split <;> exact .of_eq rfl rfl

end BufferQueue

end GraphicSurface
