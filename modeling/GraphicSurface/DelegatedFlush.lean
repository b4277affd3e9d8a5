import GraphicSurface.Agreement
import GraphicSurface.TimedAcquire

/-! `FlushBuffer` with a consumer surface delegator. The normal flush comes first, with the push on
`dirtyList_` and the listener's `OnBufferAvailable`; then `DelegatorQueueBuffer` writes `ACQUIRED`
to the entry, shows the buffer to the delegator and releases it. The listener runs without a lock
and may call the queue; what it calls is an argument. -/

namespace GraphicSurface

open Runs SlotPool BufferElement

/-- What a delegated flush takes from its surroundings: the calls of the listener, and the
surroundings of the release. -/
structure DelegateEnv where
  onBufferAvailable : List Op
  release : ReleaseEnv

namespace BufferQueue

variable {q q' : BufferQueue} {sequence : ℕ} {e : BufferElement}

def markDelegated (q : BufferQueue) (sequence : ℕ) : BufferQueue :=
  { q with
    bufferQueueCache := q.bufferQueueCache.modify sequence (setState .acquired)
      (setState_seqNum _) }

/-- `DelegatorQueueBuffer`. What the delegator's `QueueBuffer` returns is logged and then
overwritten by the result of the release, so it is no argument. -/
def delegatorQueueBuffer (q : BufferQueue) (sequence : ℕ) (env : ReleaseEnv) :
    GSError × BufferQueue :=
  match q.bufferQueueCache.find sequence with
  | none => (.noEntry, q)
  | some ele =>
    (q.markDelegated sequence).releaseBuffer ele.buffer.seqNum (some invalidFence) env

/-- The queue when `DelegatorQueueBuffer` begins, after `OnBufferAvailable`. -/
def afterListener (q : BufferQueue) (f : FlushArgs) (env : DelegateEnv) : BufferQueue :=
  execute Op.next (q.flushBuffer f.sequence f.bedata f.fence f.config f.env).2 env.onBufferAvailable

/-- `FlushBuffer` while a delegator is registered. -/
def flushBufferDelegated (q : BufferQueue) (f : FlushArgs) (env : DelegateEnv) :
    GSError × BufferQueue :=
  match q.flushBuffer f.sequence f.bedata f.fence f.config f.env with
  | (ret, q₁) =>
    if ret ≠ .ok then (ret, q₁)
    else (execute Op.next q₁ env.onBufferAvailable).delegatorQueueBuffer f.sequence env.release

structure InOneList (q : BufferQueue) (sequence : ℕ) : Prop where
  once : q.freeList.count sequence + q.dirtyList.count sequence ≤ 1
  free : sequence ∈ q.freeList →
    ∃ e, q.bufferQueueCache.find sequence = some e ∧ e.state = .released
  pending : sequence ∈ q.dirtyList →
    ∃ e, q.bufferQueueCache.find sequence = some e ∧ e.state = .flushed

theorem Agrees.inOneList (h : q.Agrees) (sequence : ℕ) : q.InOneList sequence := by
  refine ⟨?_, h.state_of_mem_free, h.state_of_mem_dirty⟩
  have hfree := List.nodup_iff_count_le_one.mp h.free_nodup sequence
  have hdirty := List.nodup_iff_count_le_one.mp h.pending_nodup sequence
  by_cases hin : sequence ∈ q.freeList
  · have hzero : q.dirtyList.count sequence = 0 := List.count_eq_zero.mpr (h.disjoint hin)
    rw [hzero]
    exact hfree
  · rw [List.count_eq_zero.mpr hin, Nat.zero_add]
    exact hdirty

/-- The frame is out of the lists; a condemned one may be free, and is then deleted. -/
def OutOfLists (q : BufferQueue) (sequence : ℕ) : Prop :=
  ∀ e, q.bufferQueueCache.find sequence = some e →
    sequence ∉ q.dirtyList ∧ (sequence ∈ q.freeList → e.isDeleting = true)

theorem releaseBuffer_agrees (fence : Option SyncFence) (env : ReleaseEnv)
    (h : (q.releaseBufferLocked sequence fence env).2.Agrees) :
    (q.releaseBuffer sequence fence env).2.Agrees := by
  have hsection : (q.releaseBufferSection sequence fence env).2.2.Agrees := by
    unfold releaseBufferSection requestBuffersForListenerLocked
    dsimp only
    split
    · exact h
    · split
      · exact (handOut_refines h _ _).agrees h
      · exact h
  unfold releaseBuffer
  dsimp only
  split
  · exact (onReleaseBufferWithSequenceAndFence_refines _ _ _).agrees hsection
  · exact hsection

theorem place_markDelegated (he : q.bufferQueueCache.find sequence = some e) :
    (q.markDelegated sequence).bufferQueueCache.place =
      Function.update q.bufferQueueCache.place sequence (some .held) :=
  BufferCache.place_modify he _ (setState_seqNum _)

theorem delegatorQueueBuffer_agrees (h : q.Agrees) (hout : q.OutOfLists sequence)
    (env : ReleaseEnv) : (q.delegatorQueueBuffer sequence env).2.Agrees := by
  unfold delegatorQueueBuffer
  cases he : q.bufferQueueCache.find sequence with
  | none => exact h
  | some e =>
    obtain ⟨hdirty, hfree⟩ := hout e he
    dsimp only
    rw [BufferCache.seqNum_of_find he]
    refine releaseBuffer_agrees _ _ ?_
    have hfind : (q.markDelegated sequence).bufferQueueCache.find sequence =
        some (e.setState .acquired) := by
      simp [markDelegated, he]
    by_cases hin : sequence ∈ q.freeList
    · -- a condemned free buffer: its place is the old one again when it is deleted
      have hreleased := (h.mem_free_iff he).mp hin
      have hdeleting := hfree hin
      set p := (q.markDelegated sequence).markReleased sequence
        (e.setState .acquired).lastAcquireTime (some invalidFence) env with hp
      have hfindp : p.bufferQueueCache.find sequence =
          some ((e.setState .acquired).setReleased (some invalidFence) env.mergeFd) := by
        simp [hp, markReleased, hfind]
      have hagrees : p.Agrees := by
        have hpool : p.pool = q.pool := by
          have hplace : p.bufferQueueCache.place = q.bufferQueueCache.place := by
            rw [hp, markReleased, BufferCache.place_modify hfind, place_markDelegated he,
              Function.update_idem, setReleased_state]
            refine Function.update_eq_self_iff.mpr ?_
            rw [BufferCache.place_of_find he, hreleased]
          simp only [pool, hplace]
          simp [hp, markReleased, markDelegated, getUsedSize]
        rw [Agrees, hpool]
        exact h
      have hlocked : ((q.markDelegated sequence).releaseBufferLocked sequence (some invalidFence)
          env).2 = p.deleteBufferInCacheNoWaitForAllocatingState sequence := by
        simp only [releaseBufferLocked, hfind]
        simp [setState, hdeleting, hp]
      rw [hlocked]
      have hdelete : Refines drops p (p.deleteBufferInCacheNoWaitForAllocatingState sequence) :=
        delete_free trivial hfindp rfl
      exact hdelete.agrees hagrees
    · have hheld : e.state.place = .held := by
        rw [h.mem_free_iff he] at hin
        rw [h.mem_dirty_iff he] at hdirty
        cases hs : e.state <;> simp_all [BufferState.place]
      have hagrees : (q.markDelegated sequence).Agrees := by
        have hpool : (q.markDelegated sequence).pool = q.pool := by
          have hplace : (q.markDelegated sequence).bufferQueueCache.place =
              q.bufferQueueCache.place := by
            rw [place_markDelegated he]
            refine Function.update_eq_self_iff.mpr ?_
            rw [BufferCache.place_of_find he, hheld]
          simp only [pool, hplace]
          simp [markDelegated, getUsedSize]
        rw [Agrees, hpool]
        exact h
      exact (releaseBufferLocked_refines hagrees _ _ _).agrees hagrees

theorem releaseBuffer_condemned (hactive : q.listenerSeqAndFenceActive = false)
    (he : q.bufferQueueCache.find sequence = some e) (hacquired : e.state = .acquired)
    (hdeleting : e.isDeleting = true) (fence : Option SyncFence) (env : ReleaseEnv) :
    (q.releaseBuffer sequence fence env).2.dirtyList = q.dirtyList ∧
      (q.releaseBuffer sequence fence env).2.bufferQueueCache.find sequence = none := by
  set p := q.markReleased sequence e.lastAcquireTime fence env
  have hlocked : q.releaseBufferLocked sequence fence env =
      (.ok, p.deleteBufferInCacheNoWaitForAllocatingState sequence) := by
    simp [releaseBufferLocked, he, hacquired, hdeleting, p]
  have hframe := deleteNoWait_frame p sequence
  have hactive' :
      (p.deleteBufferInCacheNoWaitForAllocatingState sequence).listenerSeqAndFenceActive = false :=
    (listenerSeqAndFenceActive_congr hframe.settings).trans hactive
  have hsection : q.releaseBufferSection sequence fence env =
      (.ok, [], p.deleteBufferInCacheNoWaitForAllocatingState sequence) := by
    rw [releaseBufferSection, hlocked]
    simp [hactive']
  have hrelease : (q.releaseBuffer sequence fence env).2 =
      p.deleteBufferInCacheNoWaitForAllocatingState sequence := by
    rw [releaseBuffer, hsection]
    dsimp only
    split <;> rfl
  rw [hrelease, find_deleteNoWait, if_pos rfl]
  refine ⟨?_, rfl⟩
  unfold deleteBufferInCacheNoWaitForAllocatingState
  split
  · rfl
  · split <;> rfl

theorem delegatorQueueBuffer_twice (hactive : q.listenerSeqAndFenceActive = false) (env : ReleaseEnv)
    (he : q.bufferQueueCache.find sequence = some e)
    (hin : sequence ∈ q.dirtyList ∨ sequence ∈ q.freeList ∧ e.isDeleting = false) :
    ¬ (q.delegatorQueueBuffer sequence env).2.InOneList sequence := by
  have hfind : (q.markDelegated sequence).bufferQueueCache.find sequence =
      some (e.setState .acquired) := by
    simp [markDelegated, he]
  have hcall : q.delegatorQueueBuffer sequence env =
      (q.markDelegated sequence).releaseBuffer sequence (some invalidFence) env := by
    simp only [delegatorQueueBuffer, he, BufferCache.seqNum_of_find he]
  rw [hcall]
  intro hone
  by_cases hdeleting : e.isDeleting = true
  · obtain ⟨hdirty, hgone⟩ := (q.markDelegated sequence).releaseBuffer_condemned hactive hfind rfl
      hdeleting (some invalidFence) env
    have hmem : sequence ∈ q.dirtyList := hin.resolve_right fun h => by simp [hdeleting] at h
    obtain ⟨e', he', -⟩ := hone.pending (hdirty ▸ hmem)
    simp [hgone] at he'
  · have hreturns := (q.markDelegated sequence).releaseBuffer_returns hactive hfind rfl
      (Bool.eq_false_iff.mpr hdeleting) (some invalidFence) env
    have honce := hone.once
    rw [hreturns.freeList, hreturns.dirtyList, List.count_append, List.count_singleton_self] at honce
    rcases hin with hmem | ⟨hmem, -⟩
    · have hpos : 0 < (q.markDelegated sequence).dirtyList.count sequence :=
        List.count_pos_iff.mpr hmem
      omega
    · have hpos : 0 < (q.markDelegated sequence).freeList.count sequence :=
        List.count_pos_iff.mpr hmem
      omega

end BufferQueue

/-- The calls of a queue that has a delegator at some times: those that do not meet it, and the
requests and flushes that do. -/
inductive DelegatedOp
  | queue (op : Op)
  | requestBuffer
  | flushBuffer (f : FlushArgs) (env : DelegateEnv)

/-- A delegated request is answered by the delegator, before the queue is looked at. -/
def DelegatedOp.next (q : BufferQueue) : DelegatedOp → BufferQueue
  | queue op => op.next q
  | requestBuffer => q
  | flushBuffer f env => (q.flushBufferDelegated f env).2

/-- What the listener calls is a run of operations like any other. -/
def DelegatedOp.Fresh (q : BufferQueue) : DelegatedOp → Prop
  | queue op => op.Fresh q
  | requestBuffer => True
  | flushBuffer f env =>
    (q.flushBuffer f.sequence f.bedata f.fence f.config f.env).2.fault = false ∧
      Legal Op.next (fun q op => op.Fresh q ∧ (op.next q).fault = false)
        (q.flushBuffer f.sequence f.bedata f.fence f.config f.env).2 env.onBufferAvailable

def DelegatedStep (q : BufferQueue) (op : DelegatedOp) (q' : BufferQueue) : Prop :=
  op.Fresh q ∧ q' = op.next q ∧ q'.fault = false

/-- The frame is out of the lists when the second half of a delegated flush begins. -/
def DelegatedOp.TakenOut (q : BufferQueue) : DelegatedOp → Prop
  | queue _ => True
  | requestBuffer => True
  | flushBuffer f env => (q.flushBuffer f.sequence f.bedata f.fence f.config f.env).1 = .ok →
    (q.afterListener f env).OutOfLists f.sequence

theorem DelegatedStep.agrees_afterListener {q q' : BufferQueue} {f : FlushArgs} {env : DelegateEnv}
    (h : q.Agrees) (hstep : DelegatedStep q (.flushBuffer f env) q') :
    (q.flushBuffer f.sequence f.bedata f.fence f.config f.env).2.Agrees ∧
      (q.afterListener f env).Agrees := by
  obtain ⟨⟨hfault, hlegal⟩, -⟩ := hstep
  have hflush : QueueStep q (.flushBuffer f) _ := ⟨trivial, rfl, hfault⟩
  have hagrees := (hflush.refines h).agrees h
  have hrun : Run QueueStep (q.flushBuffer f.sequence f.bedata f.fence f.config f.env).2
      env.onBufferAvailable (q.afterListener f env) :=
    .of_legal (fun _ _ h => ⟨h.1, rfl, h.2⟩) hlegal
  exact ⟨hagrees, agrees_of_run hagrees hrun⟩

theorem DelegatedStep.agrees {q q' : BufferQueue} {op : DelegatedOp} (h : q.Agrees)
    (hstep : DelegatedStep q op q') (hok : op.TakenOut q) : q'.Agrees := by
  cases op with
  | queue op =>
    have hqueue : QueueStep q op q' := hstep
    exact (hqueue.refines h).agrees h
  | requestBuffer =>
    obtain ⟨-, rfl, -⟩ := hstep
    exact h
  | flushBuffer f env =>
    obtain ⟨hflushed, hlistener⟩ := hstep.agrees_afterListener h
    obtain ⟨-, rfl, -⟩ := hstep
    change (q.flushBufferDelegated f env).2.Agrees
    unfold BufferQueue.flushBufferDelegated
    dsimp only
    split
    · exact hflushed
    · rename_i hret
      exact BufferQueue.delegatorQueueBuffer_agrees hlistener (hok (not_not.mp hret)) env.release

/-- In a run in which the listener takes every delegated frame out of the lists, every number is in
at most one list, at most once, and its state is the one of its list. For the next flush that
succeeds, with no listener that is served from the free list, this needs the frame to be out. -/
theorem delegated_flush_consistent {s : QueueSettings} {ops : List DelegatedOp} {q : BufferQueue}
    (run : Run (restrict DelegatedStep fun q op => op.TakenOut q) (BufferQueue.start s) ops q) :
    (∀ sequence, q.InOneList sequence) ∧
      ∀ f env q', DelegatedStep q (.flushBuffer f env) q' →
        (q.flushBufferDelegated f env).1 = .ok →
        ((DelegatedOp.flushBuffer f env).TakenOut q → q'.InOneList f.sequence) ∧
          ((q.afterListener f env).listenerSeqAndFenceActive = false → q'.InOneList f.sequence →
            (DelegatedOp.flushBuffer f env).TakenOut q) := by
  have hagrees : q.Agrees := by
    refine run.invariant (fun q op q' hq hstep => ?_) (agrees_start s)
    exact DelegatedStep.agrees hq hstep.1 hstep.2
  refine ⟨hagrees.inOneList, fun f env q' hstep hret => ⟨fun hok => ?_, fun hactive hone => ?_⟩⟩
  · exact (hstep.agrees hagrees hok).inOneList f.sequence
  · obtain ⟨-, rfl, -⟩ := hstep
    change (q.flushBufferDelegated f env).2.InOneList f.sequence at hone
    intro hflush e he
    have hcall : q.flushBufferDelegated f env =
        (q.afterListener f env).delegatorQueueBuffer f.sequence env.release := by
      unfold BufferQueue.flushBufferDelegated BufferQueue.afterListener
      simp [hflush]
    rw [hcall] at hone
    refine ⟨fun hin => ?_, fun hin => ?_⟩
    · exact BufferQueue.delegatorQueueBuffer_twice hactive env.release he (.inl hin) hone
    · by_contra hdeleting
      exact BufferQueue.delegatorQueueBuffer_twice hactive env.release he
        (.inr ⟨hin, Bool.eq_false_iff.mpr hdeleting⟩) hone

def oneDelegated (onBufferAvailable : List Op) : List DelegatedOp :=
  [.queue (.requestBuffer sampleConfig ⟨1, 1, true, true⟩),
    .flushBuffer ⟨1, some ∅, invalidFence, ⟨[], 0, 0⟩, ⟨.ok, 0⟩⟩
      ⟨onBufferAvailable, ⟨0, 0, fun _ => true⟩⟩]

instance (q : BufferQueue) (op : DelegatedOp) : Decidable (op.Fresh q) := by
  cases op <;> unfold DelegatedOp.Fresh <;> infer_instance

instance (q : BufferQueue) (sequence : ℕ) : Decidable (q.OutOfLists sequence) :=
  match h : q.bufferQueueCache.find sequence with
  | none => .isTrue (by simp [BufferQueue.OutOfLists, h])
  | some e =>
    decidable_of_iff
      (sequence ∉ q.dirtyList ∧ (sequence ∈ q.freeList → e.isDeleting = true))
      (by simp [BufferQueue.OutOfLists, h])

instance (q : BufferQueue) (op : DelegatedOp) : Decidable (op.TakenOut q) := by
  cases op <;> unfold DelegatedOp.TakenOut <;> infer_instance

/-- The listener acquires the frame at once. -/
theorem delegated_flush_consistent_oneDelegated :
    ∃ q, Run (restrict DelegatedStep fun q op => op.TakenOut q)
        (BufferQueue.start { listener := true }) (oneDelegated [.acquireBuffer 0]) q ∧
      q.freeList = [1] ∧ q.InOneList 1 := by
  have legal : Legal DelegatedOp.next
      (fun q op => (op.Fresh q ∧ (op.next q).fault = false) ∧ op.TakenOut q)
      (BufferQueue.start { listener := true }) (oneDelegated [.acquireBuffer 0]) := by
    decide
  have run : Run (restrict DelegatedStep fun q op => op.TakenOut q)
      (BufferQueue.start { listener := true }) (oneDelegated [.acquireBuffer 0]) _ :=
    .of_legal (fun _ _ h => ⟨⟨h.1.1, rfl, h.1.2⟩, h.2⟩) legal
  exact ⟨_, run, by decide, (delegated_flush_consistent run).1 1⟩

/-- A listener that acquires later leaves the frame in both lists. -/
theorem delegated_frame_in_both_lists :
    ¬ ∀ (s : QueueSettings) (ops : List DelegatedOp) (q q' : BufferQueue) (f : FlushArgs)
      (env : DelegateEnv), Run DelegatedStep (BufferQueue.start s) ops q →
      DelegatedStep q (.flushBuffer f env) q' → (q.flushBufferDelegated f env).1 = .ok →
      q'.InOneList f.sequence := by
  intro h
  have legal : Legal DelegatedOp.next (fun q op => op.Fresh q ∧ (op.next q).fault = false)
      (BufferQueue.start { listener := true }) ((oneDelegated []).take 1) := by
    decide
  have run : Run DelegatedStep (BufferQueue.start { listener := true })
      ((oneDelegated []).take 1) _ :=
    .of_legal (fun _ _ h => ⟨h.1, rfl, h.2⟩) legal
  have hone := h _ _ _ _ ⟨1, some ∅, invalidFence, ⟨[], 0, 0⟩, ⟨.ok, 0⟩⟩
    ⟨[], ⟨0, 0, fun _ => true⟩⟩ run ⟨by decide, rfl, by decide⟩ (by decide)
  exact absurd hone.once (by decide)

end GraphicSurface
