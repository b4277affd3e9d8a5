import GraphicSurface.ConsumeMoves
import GraphicSurface.ReservedSlots
import GraphicSurface.Replies

/-! Where the deletion notices go. A successful reply to the producer reports the front of
`deletingList_` and a clear of the whole queue discards the list. The hand-out to a listener
drains it as well, into replies that nobody sees. -/

namespace GraphicSurface

open Runs SlotPool

inductive Fate
  | reported
  | cleared
deriving DecidableEq, Repr

namespace Op

def reported (q : BufferQueue) (op : Op) : List ℕ :=
  match op, (op.run q).1 with
  | requestBuffer _ _, .request reply | requestAndDetachBuffer _ _, .request reply =>
    if reply.ret = .ok then reply.retval.deletingBuffers else []
  | requestBuffers _ _, .requests _ replies =>
    replies.flatMap fun reply => reply.retval.deletingBuffers
  | _, _ => []

def cleared (q : BufferQueue) : Op → List ℕ
  | cleanCache | goBackground | onConsumerDied => q.deletingList
  | setProducerCacheCleanFlag flag =>
    if flag && q.listenerSeqAndFenceActive then q.deletingList else []
  | _ => []

end Op

/-- Every notice that has left the list, in the order of the pushes, with its fate. -/
def recordFates (fates : List (ℕ × Fate)) (q : BufferQueue) (op : Op) : List (ℕ × Fate) :=
  fates ++ (op.reported q).map (·, .reported) ++ (op.cleared q).map (·, .cleared)

def FateStep (s : BufferQueue × List (ℕ × Fate)) (op : Op) (t : BufferQueue × List (ℕ × Fate)) :
    Prop :=
  QueueStep s.1 op t.1 ∧ t.2 = recordFates s.2 s.1 op

namespace BufferQueue

def wouldHandOut (q : BufferQueue) (config : BufferRequestConfig) : Bool :=
  match q.requestBufferCheck config with
  | .error _ => false
  | .ok updateConfig => q.freeList.any (q.reusable updateConfig)

/-- The branch that goes wrong: a release in listener mode hands a buffer out while notices are
waiting. The queue is looked at after `ReleaseBufferLocked`. -/
def releaseDrains (q : BufferQueue) (sequence : ℕ) (fence : Option SyncFence) (env : ReleaseEnv) :
    Bool :=
  match q.releaseBufferLocked sequence fence env with
  | (ret, q) =>
    ret == .ok && q.listenerSeqAndFenceActive && q.deletingList != [] &&
      (q.collectConfigs q.freeList []).any q.wouldHandOut

def releaseDropsDrain (q : BufferQueue) (envs : ℕ → ReleaseEnv) : List BufferAndFence → Bool
  | [] => false
  | d :: dropBuffers =>
    q.releaseDrains d.1.seqNum d.2 (envs d.1.seqNum) ||
      (q.releaseBuffer d.1.seqNum d.2 (envs d.1.seqNum)).2.releaseDropsDrain envs dropBuffers

def acquireDrains (q : BufferQueue) (expectPresentTimestamp : Int) (isUsingAutoTimestamp : Bool)
    (now : Int) (envs : ℕ → ReleaseEnv) : Bool :=
  if expectPresentTimestamp ≤ 0 ∨ q.dirtyList = [] then false
  else
    let (dropped, q) := q.dropBuffersByLevel now
    let q' := q.releaseDropBuffers envs dropped
    q.releaseDropsDrain envs dropped ||
      match q'.acquireByTimestampSection expectPresentTimestamp isUsingAutoTimestamp with
      | (ret, dropped, q) => ret == .ok && q.releaseDropsDrain envs dropped

end BufferQueue

/-- The call makes a release that hands a buffer to the listener while notices are waiting. -/
def Op.drains (q : BufferQueue) : Op → Bool
  | releaseBuffer sequence fence env => q.releaseDrains sequence fence env
  | acquireBufferByTimestamp expect auto now envs => q.acquireDrains expect auto now envs
  | _ => false

namespace BufferQueue

variable {q q' : BufferQueue}

/-- What a request for the listener that finds nothing may still do: rotate the free list and
recolour a buffer. -/
structure Similar (q q' : BufferQueue) : Prop where
  settings : q'.toQueueSettings = q.toQueueSettings
  deleting : q'.deletingList = q.deletingList
  free : q'.freeList.Perm q.freeList
  configs : ∀ k, (q'.bufferQueueCache.find k).map (·.config) =
    (q.bufferQueueCache.find k).map (·.config)

theorem Similar.refl : Similar q q :=
  ⟨rfl, rfl, .refl _, fun _ => rfl⟩

theorem Similar.reusable (h : Similar q q') (config : BufferRequestConfig) (sequence : ℕ) :
    q'.reusable config sequence = q.reusable config sequence := by
  have hconfig := h.configs sequence
  unfold BufferQueue.reusable
  rw [h.settings]
  cases hfind : q.bufferQueueCache.find sequence <;>
    cases hfind' : q'.bufferQueueCache.find sequence <;> simp_all

theorem requestBufferCheck_congr (h : q'.toQueueSettings = q.toQueueSettings)
    (config : BufferRequestConfig) : q'.requestBufferCheck config = q.requestBufferCheck config := by
  cases q
  cases q'
  cases h
  rfl

theorem Similar.wouldHandOut (h : Similar q q') (config : BufferRequestConfig) :
    q'.wouldHandOut config = q.wouldHandOut config := by
  have hcheck := requestBufferCheck_congr h.settings config
  have hany (c : BufferRequestConfig) : q'.freeList.any (q'.reusable c) =
      q.freeList.any (q.reusable c) := by
    have hfun : q'.reusable c = q.reusable c := funext (h.reusable c)
    rw [hfun, h.free.any_eq]
  unfold BufferQueue.wouldHandOut
  rw [hcheck]
  cases q.requestBufferCheck config <;> simp [hany]

structure PopsOldest (q : BufferQueue) (config : BufferRequestConfig) (front : ℕ) (rest : List ℕ)
    (e : BufferElement) : Prop where
  full : q.unreservedSize ≤ q.getUsedSize
  order : q.rotateLocked = front :: rest
  unlocked : front ≠ q.acquireLastFlushedBufSequence
  entry : q.bufferQueueCache.find front = some e
  other : config.same e.config = false
  pop : q.popFromFreeListLocked config =
    (some (e.recolour config.colorGamut config.transform).buffer, { q with
      freeList := rest
      bufferQueueCache := q.bufferQueueCache.modify front
        (BufferElement.recolour config.colorGamut config.transform)
        (BufferElement.recolour_seqNum _ _) })

/-- What `PopFromFreeListLocked` does when no free buffer is reusable: it fails, or it takes the
oldest free buffer, whose configuration is another one. -/
theorem pop_of_not_reusable (h : q.Agrees) {config : BufferRequestConfig}
    (hnone : q.freeList.any (q.reusable config) = false) :
    (q.popFromFreeListLocked config = (none, q) ∧ (q.freeList = [] ∨
        q.getUsedSize < q.unreservedSize ∨ q.freeList = [q.acquireLastFlushedBufSequence])) ∨
      ∃ front rest e, q.PopsOldest config front rest e := by
  have hfind : q.freeList.find? (q.reusable config) = none := by
    rw [List.find?_eq_none]
    simpa using hnone
  by_cases hempty : q.freeList = [] ∨ q.getUsedSize < q.unreservedSize ∨
      q.freeList = [q.acquireLastFlushedBufSequence]
  · refine .inl ⟨?_, hempty⟩
    simp only [popFromFreeListLocked, hfind, if_pos hempty]
  · have hpop : q.popFromFreeListLocked config = q.popFrontFree config := by
      simp only [popFromFreeListLocked, hfind, if_neg hempty]
    simp only [not_or] at hempty
    obtain ⟨hne, hfull, hlocked⟩ := hempty
    have hperm := mem_rotateLocked q
    cases hrot : q.rotateLocked with
    | nil =>
      rw [hrot] at hperm
      exact absurd (List.nil_perm.mp hperm) hne
    | cons front rest =>
      have hmem : front ∈ q.freeList := hperm.subset (by simp [hrot])
      obtain ⟨e, he, _⟩ := h.state_of_mem_free hmem
      have hunlocked := front_rotateLocked h hlocked hrot
      have hnot : q.reusable config front = false := by
        rw [List.any_eq_false] at hnone
        simpa using hnone front hmem
      refine .inr ⟨front, rest, e, not_lt.mp hfull, hrot, hunlocked, he, ?_, ?_⟩
      · rw [BufferRequestConfig.same_comm]
        simpa [reusable, he, hunlocked] using hnot
      · rw [hpop, popFrontFree, hrot]
        simp only [he]

/-- No free buffer has the configuration, so at most the oldest one is taken and put back. -/
theorem requestBufferBody_of_not_reusable (h : q.Agrees) {config : BufferRequestConfig}
    (hnone : q.freeList.any (q.reusable config) = false) :
    (q.requestBufferBody config true).1 = .reached (.done (.error .noBuffer)) ∧
      Similar q (q.requestBufferBody config true).2 := by
  unfold requestBufferBody
  simp only [Bool.or_true, if_true]
  rcases pop_of_not_reusable h hnone with ⟨hpop, -⟩ | ⟨front, rest, e, hoff⟩
  · rw [hpop]
    exact ⟨rfl, .refl⟩
  · obtain ⟨-, hrot, -, he, hsame, hpop⟩ := hoff
    have hperm : (front :: rest).Perm q.freeList := hrot ▸ mem_rotateLocked q
    have hseq : (e.recolour config.colorGamut config.transform).buffer.seqNum = front :=
      (BufferElement.recolour_seqNum _ _ e).trans (BufferCache.seqNum_of_find he)
    rw [hpop]
    have hfind : (q.bufferQueueCache.modify front
        (BufferElement.recolour config.colorGamut config.transform)
        (BufferElement.recolour_seqNum _ _)).find front =
        some (e.recolour config.colorGamut config.transform) := by
      simp [he]
    have hsame' : config.same (e.recolour config.colorGamut config.transform).config = false := hsame
    simp only [reuseBuffer, hseq, hfind, hsame', if_true, Bool.false_eq_true, if_false]
    refine ⟨trivial, rfl, rfl, (List.perm_append_singleton front rest).trans hperm, fun k => ?_⟩
    by_cases hk : front = k
    · subst hk
      simp [he, BufferElement.recolour]
    · simp [hk]

theorem request_of_not_wouldHandOut (h : q.Agrees) {config : BufferRequestConfig}
    (hnone : q.wouldHandOut config = false) (a : Allocation) :
    (q.requestBufferLocked config a true).1.ret ≠ .ok ∧
      (q.requestBufferLocked config a true).1.retval.deletingBuffers = [] ∧
      Similar q (q.requestBufferLocked config a true).2 := by
  unfold wouldHandOut at hnone
  cases hcheck : q.requestBufferCheck config with
  | error ret =>
    have hreply : q.requestBufferLocked config a true = (.error ret, q) := by
      simp [requestBufferLocked, hcheck]
    rw [hreply]
    exact ⟨requestBufferCheck_error hcheck, rfl, .refl⟩
  | ok updateConfig =>
    simp only [hcheck] at hnone
    obtain ⟨hpoint, hsimilar⟩ := requestBufferBody_of_not_reusable h hnone
    rcases hbody : q.requestBufferBody updateConfig true with ⟨point, q₁⟩
    rw [hbody] at hpoint hsimilar
    dsimp only at hpoint hsimilar
    subst hpoint
    have hreply : q.requestBufferLocked config a true = (.error .noBuffer, q₁) := by
      simp [requestBufferLocked, hcheck, hbody, finishRequest]
    rw [hreply]
    exact ⟨by simp [RequestReply.error], rfl, hsimilar⟩

theorem handOutTold_of_not_wouldHandOut (h : q.Agrees) (fuel : ℕ)
    (configs : List BufferRequestConfig) (hnone : configs.any q.wouldHandOut = false) :
    q.handOutTold fuel configs = [] := by
  induction fuel generalizing q configs with
  | zero => rfl
  | succ fuel ih =>
    cases configs with
    | nil => rfl
    | cons config configs =>
      rw [List.any_cons, Bool.or_eq_false_iff] at hnone
      obtain ⟨hret, htold, hsimilar⟩ := request_of_not_wouldHandOut h hnone.1 noAllocation
      have hagrees := (requestBufferLocked_refines_listener h config noAllocation).agrees h
      have hfun : (q.requestBufferLocked config noAllocation true).2.wouldHandOut =
          q.wouldHandOut := funext hsimilar.wouldHandOut
      unfold handOutTold
      dsimp only
      rw [if_neg hret, htold, List.nil_append]
      exact ih hagrees configs (by rw [hfun]; exact hnone.2)

theorem noticed_updateReuse_listener (q : BufferQueue) (sequence : ℕ) :
    (q.updateReuseBufferState false sequence true).2.noticed = q.noticed := by
  unfold updateReuseBufferState
  split
  · rfl
  · dsimp only
    split <;> rfl

theorem noticed_reuse_listener (q : BufferQueue) (config : BufferRequestConfig)
    (buffer : SurfaceBuffer) : (q.reuseBuffer config buffer true).2.noticed = q.noticed := by
  unfold reuseBuffer
  split
  · rfl
  · split
    · exact noticed_updateReuse_listener q buffer.seqNum
    · rfl

theorem noticed_pop (q : BufferQueue) (config : BufferRequestConfig) :
    (q.popFromFreeListLocked config).2.noticed = q.noticed :=
  popFromFreeListLocked_induct (P := fun q' => q'.noticed = q.noticed) q config (fun _ => rfl) rfl
    fun _ _ => rfl

theorem noticed_request_listener (q : BufferQueue) (config : BufferRequestConfig)
    (a : Allocation) : (q.requestBufferLocked config a true).2.noticed = q.noticed := by
  unfold requestBufferLocked
  split
  · rfl
  · rename_i updateConfig _
    obtain ⟨reply, hdone⟩ := requestBufferBody_listener_done q updateConfig
    have hbody : (q.requestBufferBody updateConfig true).2.noticed = q.noticed := by
      have hpop := noticed_pop q updateConfig
      unfold requestBufferBody
      simp only [Bool.or_true, if_true]
      split
      · rename_i buffer q₁ h
        rw [h] at hpop
        exact (noticed_reuse_listener q₁ updateConfig buffer).trans hpop
      · rename_i q₁ h
        rw [h] at hpop
        exact hpop
    split
    · rename_i point q₁ h
      rw [h] at hdone hbody
      cases hdone
      exact hbody
    · rename_i config' q₁ h
      rw [h] at hdone
      cases hdone

theorem handOutTold_of_empty (hempty : q.deletingList = []) (fuel : ℕ)
    (configs : List BufferRequestConfig) : q.handOutTold fuel configs = [] := by
  induction fuel generalizing q configs with
  | zero => rfl
  | succ fuel ih =>
    cases configs with
    | nil => rfl
    | cons config configs =>
      obtain ⟨new, hnoticed, hbalance⟩ :=
        (requestBufferLocked_frame q config noAllocation true).balance
      rw [noticed_request_listener] at hnoticed
      have hnew : new = [] := by simpa using hnoticed
      rw [hempty, hnew, List.nil_append, eq_comm, List.append_eq_nil_iff] at hbalance
      unfold handOutTold
      dsimp only
      rw [hbalance.1, List.nil_append]
      split
      · have hmark : ((q.requestBufferLocked config noAllocation true).2.setRequestedFromListener
            (q.requestBufferLocked config noAllocation true).1.retval.sequence).deletingList = [] :=
          hbalance.2
        exact ih hmark _
      · exact ih hbalance.2 _

theorem releaseBufferTold_of_not_drains (h : q.Agrees) {sequence : ℕ} {fence : Option SyncFence}
    {env : ReleaseEnv} (hok : q.releaseDrains sequence fence env = false) :
    q.releaseBufferTold sequence fence env = [] := by
  have hagrees := (releaseBufferLocked_refines h sequence fence env).agrees h
  unfold releaseDrains at hok
  unfold releaseBufferTold
  dsimp only at hok ⊢
  split
  · rfl
  · rename_i hret
    split
    · rename_i hactive
      rw [not_not.mp hret, hactive] at hok
      by_cases hempty : (q.releaseBufferLocked sequence fence env).2.deletingList = []
      · exact handOutTold_of_empty hempty _ _
      · refine handOutTold_of_not_wouldHandOut hagrees _ _ ?_
        simpa [hempty] using hok
    · rfl

theorem releaseDropBuffersTold_of_not_drains (h : q.Agrees) (envs : ℕ → ReleaseEnv)
    (dropBuffers : List BufferAndFence) (hok : q.releaseDropsDrain envs dropBuffers = false) :
    q.releaseDropBuffersTold envs dropBuffers = [] := by
  induction dropBuffers generalizing q with
  | nil => rfl
  | cons d dropBuffers ih =>
    unfold releaseDropsDrain at hok
    rw [Bool.or_eq_false_iff] at hok
    have hagrees := (releaseBuffer_refines h d.1.seqNum d.2 (envs d.1.seqNum)).agrees h
    unfold releaseDropBuffersTold
    rw [releaseBufferTold_of_not_drains h hok.1, ih hagrees hok.2]
    rfl

theorem acquireBufferByTimestampTold_of_not_drains (h : q.Agrees) {expect : Int} {auto : Bool}
    {now : Int} {envs : ℕ → ReleaseEnv} (hok : q.acquireDrains expect auto now envs = false) :
    q.acquireBufferByTimestampTold expect auto now envs = [] := by
  have hlevel := (dropBuffersByLevel_refines h now).agrees h
  have hreleased := (releaseDropBuffers_refines hlevel envs (q.dropBuffersByLevel now).1).agrees
    hlevel
  have hsection := (acquireByTimestampSection_refines hreleased expect auto).agrees hreleased
  unfold acquireDrains at hok
  unfold acquireBufferByTimestampTold
  split
  · rfl
  · rename_i hdirty
    rw [if_neg hdirty] at hok
    dsimp only at hok ⊢
    rw [Bool.or_eq_false_iff] at hok
    rw [releaseDropBuffersTold_of_not_drains hlevel envs _ hok.1, List.nil_append]
    split
    · rfl
    · rename_i hret
      refine releaseDropBuffersTold_of_not_drains hsection envs _ ?_
      simpa [not_not.mp hret] using hok.2

end BufferQueue

theorem BufferQueue.requestBuffersLoop_reported (q : BufferQueue) (config : BufferRequestConfig)
    (as : List Allocation) :
    Conserves ((q.requestBuffersLoop config as).2.1.flatMap fun reply => reply.retval.deletingBuffers)
      q (q.requestBuffersLoop config as).2.2 := by
  induction as generalizing q with
  | nil => exact .of_eq rfl rfl
  | cons a as ih =>
    have hone := (BufferQueue.requestBufferLocked_frame q config a false).toConserves
    have hsound := BufferQueue.requestBufferLocked_sound q config a false
    unfold BufferQueue.requestBuffersLoop BufferQueue.requestBuffer
    dsimp only
    split
    · rename_i hret
      rw [hsound.quiet rfl hret] at hone
      exact hone
    · exact hone.trans (ih _)

theorem BufferQueue.requestBuffer_reported (q : BufferQueue) (config : BufferRequestConfig)
    (a : Allocation) :
    Conserves (if (q.requestBufferLocked config a false).1.ret = .ok then
        (q.requestBufferLocked config a false).1.retval.deletingBuffers else []) q
      (q.requestBufferLocked config a false).2 := by
  have hone := (BufferQueue.requestBufferLocked_frame q config a false).toConserves
  have hsound := BufferQueue.requestBufferLocked_sound q config a false
  by_cases hret : (q.requestBufferLocked config a false).1.ret = .ok
  · rw [if_pos hret]
    exact hone
  · rw [if_neg hret, ← hsound.quiet rfl hret]
    exact hone

theorem Conserves.requestAndDetach {told : List ℕ} {q : BufferQueue} {config : BufferRequestConfig}
    {a : Allocation} (h : Conserves told q (q.requestBufferLocked config a false).2) :
    Conserves told q (q.requestAndDetachBuffer config a).2 := by
  unfold BufferQueue.requestAndDetachBuffer
  dsimp only
  split
  · exact h
  · have hdetach := BufferQueue.detachBufferFromQueueLocked_conserves
      (q.requestBufferLocked config a false).2
      (q.requestBufferLocked config a false).1.retval.sequence .producerInvoker false
    simpa using h.trans hdetach

theorem Conserves.clearLocked (q : BufferQueue) : Conserves q.deletingList q q.clearLocked :=
  ⟨⟨[], by simp [BufferQueue.clearLocked], by simp [BufferQueue.clearLocked]⟩⟩

theorem QueueStep.conserves {q q' : BufferQueue} {op : Op} (hagrees : q.Agrees)
    (hstep : QueueStep q op q') (hok : op.drains q = false) :
    Conserves (op.reported q ++ op.cleared q) q q' := by
  obtain ⟨_, rfl, _⟩ := hstep
  cases op with
  | requestBuffer config a =>
    have hreport := BufferQueue.requestBuffer_reported q config a
    have htold : (Op.requestBuffer config a).reported q ++ (Op.requestBuffer config a).cleared q =
        if (q.requestBufferLocked config a false).1.ret = .ok then
          (q.requestBufferLocked config a false).1.retval.deletingBuffers else [] :=
      List.append_nil _
    rw [htold]
    exact hreport
  | requestBuffers config as =>
    have hreport := BufferQueue.requestBuffersLoop_reported { q with isBatch := true } config as
    have htold : (Op.requestBuffers config as).reported q ++ (Op.requestBuffers config as).cleared q =
        (BufferQueue.requestBuffersLoop { q with isBatch := true } config as).2.1.flatMap
          fun reply => reply.retval.deletingBuffers := List.append_nil _
    rw [htold]
    exact ⟨hreport.balance⟩
  | requestAndDetachBuffer config a =>
    have hreport := BufferQueue.requestBuffer_reported q config a
    have htold : (Op.requestAndDetachBuffer config a).reported q ++
        (Op.requestAndDetachBuffer config a).cleared q =
          if (q.requestAndDetachBuffer config a).1.ret = .ok then
            (q.requestAndDetachBuffer config a).1.retval.deletingBuffers else [] :=
      List.append_nil _
    rw [htold, BufferQueue.requestAndDetach_ret]
    exact hreport.requestAndDetach
  | cancelBuffer sequence bedata =>
    exact (BufferQueue.cancelBufferLocked_frame q sequence bedata).toConserves
  | flushBuffer f => exact (BufferQueue.flushBuffer_frame q _ _ _ _ _).toConserves
  | flushBuffers fs => exact (BufferQueue.flushBuffers_frame q fs).toConserves
  | acquireBuffer now => exact (BufferQueue.acquireBuffer_frame q now).toConserves
  | acquireBufferByTimestamp expect auto now envs =>
    have hframe := BufferQueue.acquireBufferByTimestamp_frame q expect auto now envs
    rw [BufferQueue.acquireBufferByTimestampTold_of_not_drains hagrees hok] at hframe
    exact hframe.toConserves
  | releaseBuffer sequence fence env =>
    have hframe := BufferQueue.releaseBuffer_frame q sequence fence env
    rw [BufferQueue.releaseBufferTold_of_not_drains hagrees hok] at hframe
    exact hframe.toConserves
  | attachBufferToQueue buffer invokerType =>
    exact BufferQueue.attachBufferToQueueLocked_conserves q buffer invokerType
  | detachBufferFromQueue sequence invokerType isReserveSlot =>
    exact BufferQueue.detachBufferFromQueueLocked_conserves q sequence invokerType isReserveSlot
  | attachBuffer buffer timeOut => exact (BufferQueue.attachBuffer_frame q buffer timeOut).toConserves
  | detachBuffer sequence => exact (BufferQueue.detachBuffer_frame q sequence).toConserves
  | attachAndFlushBuffer buffer bedata fence config env =>
    exact BufferQueue.attachAndFlushBuffer_conserves q buffer bedata fence config env
  | setQueueSize queueSize => exact BufferQueue.setQueueSize_conserves q queueSize
  | setMaxQueueSize queueSize => exact BufferQueue.setMaxQueueSize_conserves q queueSize
  | preAllocBuffers config count as =>
    exact (BufferQueue.preAllocBuffers_frame q config count as).toConserves
  | cleanCache | onConsumerDied => exact .clearLocked q
  | goBackground => exact ⟨(Conserves.clearLocked q).balance⟩
  | setProducerCacheCleanFlag flag =>
    change Conserves (if flag && q.listenerSeqAndFenceActive then q.deletingList else []) q
      (q.setProducerCacheCleanFlag flag)
    unfold BufferQueue.setProducerCacheCleanFlag
    split
    · exact ⟨(Conserves.clearLocked q).balance⟩
    · exact .of_eq rfl rfl
  | cleanReleasedBuffers =>
    exact (BufferQueue.cleanReleasedBuffersLocked_frame q q.freeList).toConserves
  | cleanProducerBySeqNum seqNums =>
    exact (BufferQueue.cleanProducerBySeqNum_frame q seqNums).toConserves
  | acquireLastFlushedBuffer => exact BufferQueue.acquireLastFlushedBuffer_conserves q
  | releaseLastFlushedBuffer sequence =>
    exact BufferQueue.releaseLastFlushedBuffer_conserves q sequence
  | setBufferScalingMode sequence scalingMode =>
    exact BufferQueue.setBufferScalingMode_conserves q sequence scalingMode
  | setScalingMode | setVideoDimensionType | setSingleBufferMode | configure => exact .of_eq rfl rfl

/-- Every notice so far has met one fate or is still waiting, in the order of the pushes. -/
structure Noticed (s : BufferQueue × List (ℕ × Fate)) : Prop where
  agrees : s.1.Agrees
  accounted : s.1.noticed = s.2.map (·.1) ++ s.1.deletingList

namespace Noticed

theorem start (s : QueueSettings) : Noticed (BufferQueue.start s, []) :=
  ⟨agrees_start s, rfl⟩

theorem step {s t : BufferQueue × List (ℕ × Fate)} {op : Op} (h : Noticed s)
    (hstep : FateStep s op t) (hok : op.drains s.1 = false) : Noticed t := by
  obtain ⟨hqueue, hfates⟩ := hstep
  obtain ⟨new, hnoticed, hbalance⟩ := (hqueue.conserves h.agrees hok).balance
  have hkeys : t.2.map (·.1) = s.2.map (·.1) ++ (op.reported s.1 ++ op.cleared s.1) := by
    rw [hfates]
    simp [recordFates, Function.comp_def]
  refine ⟨(hqueue.refines h.agrees).agrees h.agrees, ?_⟩
  calc t.1.noticed = s.2.map (·.1) ++ (s.1.deletingList ++ new) := by
        rw [hnoticed, h.accounted, List.append_assoc]
    _ = t.2.map (·.1) ++ t.1.deletingList := by
        rw [hbalance, hkeys, List.append_assoc, List.append_assoc, List.append_assoc]

theorem of_run {s t : BufferQueue × List (ℕ × Fate)} {ops : List Op} (h : Noticed s)
    (run : Run (restrict FateStep fun s op => op.drains s.1 = false) s ops t) : Noticed t :=
  run.invariant (fun _ _ _ hs hstep => hs.step hstep.1 hstep.2) h

end Noticed

/-- As long as no release hands a buffer to the listener while notices are waiting, every notice is
reported to the producer once, or cleared, or still waiting, and only these calls shorten the
list. -/
theorem deletion_notices_conserved {s : QueueSettings} {ops : List Op} {q : BufferQueue}
    {fates : List (ℕ × Fate)}
    (run : Run (restrict FateStep fun s op => op.drains s.1 = false) (BufferQueue.start s, []) ops
      (q, fates)) :
    q.noticed = fates.map (·.1) ++ q.deletingList ∧
      ∀ op q', QueueStep q op q' → op.drains q = false →
        ∃ new, q'.noticed = q.noticed ++ new ∧
          q.deletingList ++ new = op.reported q ++ op.cleared q ++ q'.deletingList := by
  have h := (Noticed.start s).of_run run
  exact ⟨h.accounted, fun op q' hstep hok => (hstep.conserves h.agrees hok).balance⟩

/-- Three buffers are made; one goes to the consumer and the queue is shrunk, which deletes one of
the two that the producer cancels. -/
def shrinkWithListener : List Op :=
  [.configure .registerConsumerListener, .configure (.setConnectedPidLocked 7),
    .configure (.registerProducerReleaseListener 1 true),
    .configure (.setListenerSeqAndFenceCallingPid 7),
    .requestBuffer sampleConfig ⟨1, 1, true, true⟩, .requestBuffer sampleConfig ⟨2, 2, true, true⟩,
    .requestBuffer sampleConfig ⟨3, 3, true, true⟩,
    .flushBuffer ⟨1, some ∅, invalidFence, ⟨[], 0, 0⟩, ⟨.ok, 0⟩⟩, .acquireBuffer 0,
    .cancelBuffer 2 (some ∅), .cancelBuffer 3 (some ∅), .setQueueSize 2]

def fateNext (s : BufferQueue × List (ℕ × Fate)) (op : Op) : BufferQueue × List (ℕ × Fate) :=
  (op.next s.1, recordFates s.2 s.1 op)

theorem deletion_notices_conserved_shrinkWithListener :
    (execute fateNext (BufferQueue.start {}, [])
        (shrinkWithListener ++ [.requestBuffer sampleConfig ⟨4, 4, true, true⟩])).2 =
      [(2, .reported)] ∧
    (execute fateNext (BufferQueue.start {}, [])
        (shrinkWithListener ++ [.requestBuffer sampleConfig ⟨4, 4, true, true⟩])).1.noticed = [2] := by
  have legal : Legal fateNext
      (fun s op => (op.Fresh s.1 ∧ (op.next s.1).fault = false) ∧ op.drains s.1 = false)
      (BufferQueue.start {}, [])
      (shrinkWithListener ++ [.requestBuffer sampleConfig ⟨4, 4, true, true⟩]) := by decide
  have h := deletion_notices_conserved
    (.of_legal (fun _ _ h => ⟨⟨⟨h.1.1, rfl, h.1.2⟩, rfl⟩, h.2⟩) legal)
  exact ⟨by decide, h.1.trans (by decide)⟩

/-- The release that follows hands the other buffer to the listener and the notice is gone. -/
theorem release_drops_deletion_notice :
    ¬ ∀ (ops : List Op) (q : BufferQueue) (fates : List (ℕ × Fate)),
      Run FateStep (BufferQueue.start {}, []) ops (q, fates) →
        q.noticed = fates.map (·.1) ++ q.deletingList := by
  intro h
  have legal : Legal fateNext (fun s op => op.Fresh s.1 ∧ (op.next s.1).fault = false)
      (BufferQueue.start {}, [])
      (shrinkWithListener ++ [.releaseBuffer 1 (some invalidFence) ⟨0, 0, fun _ => true⟩]) := by
    decide
  have hlost := h _ _ _ (.of_legal (fun _ _ h => ⟨⟨h.1, rfl, h.2⟩, rfl⟩) legal)
  revert hlost
  decide

end GraphicSurface
