import GraphicSurface.Room

/-! The slots that a consumer reserves when it detaches a buffer. Requests, pre-allocations and
the consumer's own attach respect `detachReserveSlotNum_`; the three attach calls of a producer
compare the used size with `bufferQueueSize_` alone. -/

namespace GraphicSurface

open Runs SlotPool

/-- Used and reserved slots fit into the queue, whose size is a 32-bit number. -/
structure Slots (q : BufferQueue) : Prop where
  fit : q.getUsedSize + q.detachReserveSlotNum ≤ q.bufferQueueSize
  width : q.bufferQueueSize < 2 ^ 32

/-- Some slot is reserved, and every slot is used or reserved. -/
def BufferQueue.tight (q : BufferQueue) : Prop :=
  0 < q.detachReserveSlotNum ∧ q.bufferQueueSize ≤ q.getUsedSize + q.detachReserveSlotNum

/-- A producer's attach that puts a new buffer into a queue whose last slots are reserved. The
fused call counts when its flush goes through, since it takes the buffer out again otherwise. -/
def Op.overfills (q : BufferQueue) : Op → Prop
  | attachBufferToQueue buffer .producerInvoker =>
    q.tight ∧ q.bufferQueueCache.find buffer.seqNum = none
  | attachBuffer buffer _ =>
    q.tight ∧ q.bufferQueueCache.find buffer.seqNum = none ∧ q.isValidStatus ∧ q.listenerRegistered
  | attachAndFlushBuffer buffer _ _ config env =>
    q.tight ∧ q.bufferQueueCache.find buffer.seqNum = none ∧ q.isValidStatus ∧
      q.listenerRegistered ∧ BufferQueue.checkFlushConfig config = .ok ∧
      (buffer.bufferRequestConfig.usage &&& bufferUsageCpuWrite = 0 ∨ env.flushCache = .ok)
  | _ => False

def GrowingStep (q : BufferQueue) (op : Op) (q' : BufferQueue) : Prop :=
  QueueStep q op q' ∧ q.bufferQueueSize ≤ q'.bufferQueueSize

namespace Slots

variable {q q' : BufferQueue}

theorem start {s : QueueSettings} (hsize : s.bufferQueueSize < 2 ^ 32) :
    Slots (BufferQueue.start s) where
  fit := by simp [BufferQueue.start, BufferQueue.getUsedSize]
  width := hsize

theorem unreservedSize (h : Slots q) :
    q.unreservedSize = q.bufferQueueSize - q.detachReserveSlotNum := by
  have hfit := h.fit
  have hwidth := h.width
  unfold BufferQueue.unreservedSize
  omega

theorem of_used (h : Slots q) (hused : q'.getUsedSize ≤ q.getUsedSize)
    (hreserve : q'.detachReserveSlotNum = q.detachReserveSlotNum)
    (hsize : q'.bufferQueueSize = q.bufferQueueSize) : Slots q' where
  fit := by
    have hfit := h.fit
    omega
  width := hsize ▸ h.width

theorem of_frame (h : Slots q) {told : List ℕ} (hframe : Frame told q q')
    (hused : q'.getUsedSize ≤ q.getUsedSize) : Slots q' :=
  h.of_used hused hframe.reserve (by rw [hframe.settings])

theorem of_room (h : Slots q) (hused : q'.getUsedSize ≤ max q.getUsedSize q.unreservedSize)
    (hreserve : q'.detachReserveSlotNum = q.detachReserveSlotNum)
    (hsize : q'.bufferQueueSize = q.bufferQueueSize) : Slots q' where
  fit := by
    have hfit := h.fit
    rw [h.unreservedSize] at hused
    omega
  width := hsize ▸ h.width

end Slots

theorem not_grows_of_takes {m : Move ℕ} (h : takes m) : ¬ m.grows := by
  cases m <;> simp_all [takes, Move.grows]

theorem not_grows_of_releases {m : Move ℕ} (h : releases m) : ¬ m.grows := by
  cases m <;> simp_all [releases, Move.grows]

theorem not_grows_of_acquires {m : Move ℕ} (h : acquires m) : ¬ m.grows :=
  h.elim not_grows_of_takes not_grows_of_releases

theorem not_grows_of_flushes {m : Move ℕ} (h : flushes m) : ¬ m.grows := by
  cases m <;> simp_all [flushes, Move.grows]

theorem not_grows_of_detaches {m : Move ℕ} (h : detaches m) : ¬ m.grows := by
  cases m <;> simp_all [detaches, Move.grows]

theorem not_grows_of_cleansFree {m : Move ℕ} (h : cleansFree m) : ¬ m.grows := by
  cases m <;> simp_all [cleansFree, Move.grows]

theorem not_grows_of_cleans {m : Move ℕ} (h : cleans m) : ¬ m.grows := by
  cases m <;> simp_all [cleans, Move.grows]

namespace BufferQueue

variable {q q' : BufferQueue}

theorem used_deleteFreeFront (h : q.Agrees) {sequence : ℕ} {rest : List ℕ}
    (hfree : q.freeList = sequence :: rest) :
    (q.deleteFreeFront sequence).getUsedSize + 1 = q.getUsedSize ∧
      (q.deleteFreeFront sequence).freeList = rest ∧
      (q.deleteFreeFront sequence).dirtyList = q.dirtyList := by
  obtain ⟨e, he, _⟩ := h.state_of_mem_free (k := sequence) (by simp [hfree])
  have hnodup : (sequence :: rest).Nodup := hfree ▸ h.free_nodup
  have hout : sequence ∉ rest := (List.nodup_cons.mp hnodup).1
  have hpool := pool_deleteNoWait he
  simp only [pool, Pool.mk.injEq] at hpool
  refine ⟨getUsedSize_deleteNoWait he, ?_, hpool.2.2.1⟩
  simp [deleteFreeFront, hpool.2.1, hfree, List.erase_of_not_mem hout]

theorem used_deleteFree (h : q.Agrees) (count : ℕ) :
    (q.deleteFree count).2.getUsedSize + count = q.getUsedSize + (q.deleteFree count).1 ∧
      (q.deleteFree count).2.dirtyList = q.dirtyList ∧
      (q.deleteFree count).1 = count - q.freeList.length := by
  induction count generalizing q with
  | zero => simp [deleteFree]
  | succ count ih =>
    unfold deleteFree
    split
    · rename_i hfree
      simp [hfree]
    · rename_i sequence rest hfree
      have hmem : sequence ∈ q.freeList := by simp [hfree]
      have hone := deleteFreeFront_refines h hmem
      obtain ⟨hused, hrest, hdirty⟩ := used_deleteFreeFront h hfree
      obtain ⟨hsum, hsame, hleft⟩ := ih (hone.agrees h)
      refine ⟨by omega, hsame.trans hdirty, ?_⟩
      rw [hleft, hrest, hfree, List.length_cons]
      omega

theorem used_deleteDirty (h : q.Agrees) (count : ℕ) :
    (q.deleteDirty count).2.getUsedSize + count = q.getUsedSize + (q.deleteDirty count).1 ∧
      (q.deleteDirty count).1 = count - q.dirtyList.length := by
  induction count generalizing q with
  | zero => simp [deleteDirty]
  | succ count ih =>
    unfold deleteDirty
    split
    · rename_i hdirty
      simp [hdirty]
    · rename_i sequence rest hdirty
      obtain ⟨e, he, _⟩ := h.state_of_mem_dirty (k := sequence) (by simp [hdirty])
      have hone := deleteDirtyFront_refines h hdirty
      have hused : (q.deleteDirtyFront sequence rest).getUsedSize + 1 = q.getUsedSize :=
        getUsedSize_deleteNoWait he
      have hrest : (q.deleteDirtyFront sequence rest).dirtyList = rest := rfl
      obtain ⟨hsum, hleft⟩ := ih (hone.agrees h)
      refine ⟨by omega, ?_⟩
      rw [hleft, hrest, hdirty, List.length_cons]
      omega

theorem used_deleteBuffersLocked (h : q.Agrees) {count : ℕ}
    (hcount : count ≤ q.dirtyList.length + q.freeList.length) :
    (q.deleteBuffersLocked count).getUsedSize + count = q.getUsedSize := by
  obtain ⟨hfree, hdirty, hleft⟩ := used_deleteFree h count
  obtain ⟨hsum, hrest⟩ := used_deleteDirty ((deleteFree_refines h count).agrees h)
    (q.deleteFree count).1
  have hmark := (pool_markDeleting ((q.deleteFree count).2.deleteDirty (q.deleteFree count).1).2
    (((q.deleteFree count).2.deleteDirty (q.deleteFree count).1).2.bufferQueueCache.keys.take
      ((q.deleteFree count).2.deleteDirty (q.deleteFree count).1).1)).1
  simp only [pool, Pool.mk.injEq] at hmark
  rw [hdirty] at hrest
  have hdelete : (q.deleteBuffersLocked count).getUsedSize =
      ((q.deleteFree count).2.deleteDirty (q.deleteFree count).1).2.getUsedSize := hmark.2.2.2
  omega

theorem used_put_le (c : BufferCache) (e : BufferElement) : (c.put e).size ≤ c.size + 1 := by
  rw [BufferCache.size_put]
  split_ifs <;> omega

theorem slots_attachBufferToQueue (h : Slots q) (buffer : SurfaceBuffer) (invokerType : InvokerType)
    (hok : ¬ (Op.attachBufferToQueue buffer invokerType).overfills q) :
    Slots (q.attachBufferToQueueLocked buffer invokerType).2 := by
  have hfit := h.fit
  unfold attachBufferToQueueLocked
  split_ifs with hlistener hfull hin
  · exact h
  · exact h
  · exact h
  · have habsent : q.bufferQueueCache.find buffer.seqNum = none := by simpa using hin
    cases invokerType with
    | producerInvoker =>
      have hroom : q.getUsedSize + 1 + q.detachReserveSlotNum ≤ q.bufferQueueSize := by
        simp only [Op.overfills, tight, habsent, and_true, not_and, not_le] at hok
        rcases Nat.eq_zero_or_pos q.detachReserveSlotNum with hzero | hpos
        · omega
        · have htight := hok hpos
          omega
      exact ⟨(Nat.add_le_add_right (used_put_le _ _) _).trans hroom, h.width⟩
    | consumerInvoker =>
      have hroom : q.getUsedSize + 1 + (q.detachReserveSlotNum - 1) ≤ q.bufferQueueSize := by omega
      exact ⟨(Nat.add_le_add_right (used_put_le _ _) _).trans hroom, h.width⟩

theorem slots_attachBuffer (h : Slots q) (hagrees : q.Agrees) (buffer : SurfaceBuffer)
    (timeOut : Int) (hok : ¬ (Op.attachBuffer buffer timeOut).overfills q) :
    Slots (q.attachBuffer buffer timeOut).2 := by
  have hfit := h.fit
  unfold attachBuffer
  split
  · exact h
  · rename_i hvalid
    split
    · exact h
    · rename_i hlistener
      split
      · rename_i e he
        exact h.of_frame (by
          unfold attachBufferUpdateStatus
          split <;> exact .of_eq rfl rfl rfl rfl) (by
          unfold attachBufferUpdateStatus getUsedSize
          split <;> simp)
      · rename_i habsent
        have hroom : q.detachReserveSlotNum = 0 ∨
            q.getUsedSize + q.detachReserveSlotNum < q.bufferQueueSize := by
          by_contra hfull
          rw [not_or, not_lt] at hfull
          exact hok ⟨⟨Nat.pos_of_ne_zero hfull.1, hfull.2⟩, habsent, by simpa using hvalid,
            by simpa using hlistener⟩
        unfold attachDeleteCount
        split
        · exact h
        · rename_i count hcount
          have hcount' : count ≤ q.dirtyList.length + q.freeList.length ∧
              q.getUsedSize + 1 ≤ q.bufferQueueSize + count := by
            split_ifs at hcount with hless henough
            · cases hcount
              exact ⟨Nat.zero_le _, by omega⟩
            · cases hcount
              exact ⟨henough, by omega⟩
          have hzero : 0 < count → q.bufferQueueSize ≤ q.getUsedSize := by
            intro hpos
            split_ifs at hcount with hless henough
            · cases hcount
              omega
            · omega
          have hused := used_deleteBuffersLocked hagrees hcount'.1
          have hframe := deleteBuffersLocked_frame q count
          refine ⟨?_, ?_⟩
          · refine (Nat.add_le_add_right (used_put_le _ _) _).trans ?_
            show (q.deleteBuffersLocked count).getUsedSize + 1 +
              (q.deleteBuffersLocked count).detachReserveSlotNum ≤
                (q.deleteBuffersLocked count).bufferQueueSize
            rw [hframe.reserve, hframe.settings]
            omega
          · show (q.deleteBuffersLocked count).bufferQueueSize < 2 ^ 32
            rw [hframe.settings]
            exact h.width

/-- A flush under one hold of `mutex_` adds no buffer. -/
theorem used_flushImproved_le (q : BufferQueue) (sequence : ℕ) (bedata : Option ExtraData)
    (fence : SyncFence) (config : BufferFlushConfigWithDamages) (env : FlushEnv) :
    (q.flushBufferImprovedLocked sequence bedata fence config env).2.getUsedSize ≤
      q.getUsedSize := by
  refine flushBufferImprovedLocked_cases (motive := fun r => r.2.getUsedSize ≤ q.getUsedSize)
    ?_ ?_
  · exact fun _ _ => le_rfl
  · intro _
    unfold doFlushBufferLocked
    split
    · exact le_rfl
    · split
      · exact getUsedSize_deleteNoWait_le q sequence
      · split
        · exact le_rfl
        · dsimp only
          split <;> simp [getUsedSize, commitFlush, prepareFlush]

theorem attachToQueue_cases (q : BufferQueue) (buffer : SurfaceBuffer) :
    ((q.attachBufferToQueueLocked buffer .producerInvoker).1 ≠ .ok ∧
      (q.attachBufferToQueueLocked buffer .producerInvoker).2 = q) ∨
    (q.bufferQueueCache.find buffer.seqNum = none ∧ q.getUsedSize < q.bufferQueueSize ∧
      q.attachBufferToQueueLocked buffer .producerInvoker = (.ok, { q with
        bufferQueueCache := q.bufferQueueCache.put (.init (q.attachedBuffer buffer) .requested
          buffer.bufferRequestConfig (some invalidFence)) })) := by
  have hproducer : ¬ (InvokerType.producerInvoker = .consumerInvoker ∧
      q.listenerSeqAndFenceActive = true) := by simp
  unfold attachBufferToQueueLocked
  rw [if_neg hproducer]
  by_cases hfull : q.bufferQueueSize ≤ q.getUsedSize
  · simp [if_pos hfull]
  · rw [if_neg hfull]
    by_cases hin : (q.bufferQueueCache.find buffer.seqNum).isSome = true
    · simp [if_pos hin]
    · rw [if_neg hin]
      exact .inr ⟨by simpa using hin, by omega, rfl⟩

/-- What a flush under one hold of `mutex_` has passed when it succeeds. -/
theorem flushImproved_ok {sequence : ℕ} {bedata : Option ExtraData} {fence : SyncFence}
    {config : BufferFlushConfigWithDamages} {env : FlushEnv} {e : BufferElement}
    (he : q.bufferQueueCache.find sequence = some e) (hdeleting : e.isDeleting = false)
    (hret : (q.flushBufferImprovedLocked sequence bedata fence config env).1 = .ok) :
    q.isValidStatus ∧ q.listenerRegistered ∧ checkFlushConfig config = .ok ∧
      (e.config.usage &&& bufferUsageCpuWrite = 0 ∨ env.flushCache = .ok) := by
  unfold flushBufferImprovedLocked at hret
  split_ifs at hret with hvalid hconfig hcheck hlistener
  · exact absurd hret hconfig
  · exact absurd hret hcheck
  · refine ⟨by simpa using hvalid, by simpa using hlistener, not_not.mp hconfig, ?_⟩
    unfold doFlushBufferLocked at hret
    simp only [he, hdeleting, Bool.false_eq_true, if_false] at hret
    cases bedata with
    | none => simp at hret
    | some bedata =>
      by_cases hcache : e.config.usage &&& bufferUsageCpuWrite ≠ 0 ∧ env.flushCache ≠ .ok
      · simp only [if_pos hcache] at hret
        exact .inr hret
      · rcases not_and_or.mp hcache with huse | hflush
        · exact .inl (not_not.mp huse)
        · exact .inr (not_not.mp hflush)

theorem slots_attachAndFlushBuffer (h : Slots q) (buffer : SurfaceBuffer)
    (bedata : Option ExtraData) (fence : SyncFence) (config : BufferFlushConfigWithDamages)
    (env : FlushEnv) (hok : ¬ (Op.attachAndFlushBuffer buffer bedata fence config env).overfills q) :
    Slots (q.attachAndFlushBuffer buffer bedata fence config env).2 := by
  have hfit := h.fit
  unfold attachAndFlushBuffer
  rcases attachToQueue_cases q buffer with ⟨hret, hsame⟩ | ⟨habsent, hroom, hattach⟩
  · simp only [hret, ne_eq, not_false_eq_true, if_true, hsame]
    exact h
  · set ele : BufferElement := .init (q.attachedBuffer buffer) .requested
      buffer.bufferRequestConfig (some invalidFence) with hele
    rw [hattach]
    simp only [ne_eq, not_true_eq_false, if_false]
    generalize hp : { q with bufferQueueCache := q.bufferQueueCache.put ele } = p
    have hused : p.getUsedSize ≤ q.getUsedSize + 1 := hp ▸ used_put_le q.bufferQueueCache ele
    have hfind : p.bufferQueueCache.find buffer.seqNum = some ele := by
      have hseq : ele.buffer.seqNum = buffer.seqNum := rfl
      simp [← hp, hseq]
    have hframe := flushBufferImprovedLocked_frame p buffer.seqNum bedata fence config env
    have hreserve : p.detachReserveSlotNum = q.detachReserveSlotNum := by rw [← hp]
    have hsize : p.bufferQueueSize = q.bufferQueueSize := by rw [← hp]
    have hwidth : (p.flushBufferImprovedLocked buffer.seqNum bedata fence config
        env).2.bufferQueueSize < 2 ^ 32 := by
      rw [hframe.settings, hsize]
      exact h.width
    have hsize' : (p.flushBufferImprovedLocked buffer.seqNum bedata fence config
        env).2.bufferQueueSize = q.bufferQueueSize := by rw [hframe.settings, hsize]
    have hreserve' := hframe.reserve.trans hreserve
    by_cases hret : (p.flushBufferImprovedLocked buffer.seqNum bedata fence config env).1 = .ok
    · simp only [hret, not_true_eq_false, if_false]
      obtain ⟨hvalid, hlistener, hconfig, hcache⟩ := flushImproved_ok hfind rfl hret
      have hloose : ¬ q.tight := fun htight =>
        hok ⟨htight, habsent, by simpa [← hp] using hvalid,
          by simpa [← hp, listenerRegistered] using hlistener, hconfig, hcache⟩
      have hle := used_flushImproved_le p buffer.seqNum bedata fence config env
      refine ⟨?_, hwidth⟩
      rw [hreserve', hsize']
      unfold tight at hloose
      omega
    · simp only [hret, not_false_eq_true, if_true]
      have hpool := pool_flushImproved_error hret
      simp only [pool, Pool.mk.injEq] at hpool
      obtain ⟨hplace, _, _, hsame⟩ := hpool
      have hfound : ((p.flushBufferImprovedLocked buffer.seqNum bedata fence config
          env).2.bufferQueueCache.find buffer.seqNum).isSome = true := by
        have hp' := congrFun hplace buffer.seqNum
        rw [BufferCache.place_of_find hfind] at hp'
        obtain ⟨e, he, _⟩ := BufferCache.find_of_place hp'
        simp [he]
      refine h.of_used ?_ hreserve' hsize'
      have herase := BufferCache.size_erase (p.flushBufferImprovedLocked buffer.seqNum bedata fence
        config env).2.bufferQueueCache buffer.seqNum
      rw [if_pos hfound] at herase
      have hsame' : (p.flushBufferImprovedLocked buffer.seqNum bedata fence config
          env).2.bufferQueueCache.size = p.bufferQueueCache.size := hsame
      have hused' : p.bufferQueueCache.size ≤ q.getUsedSize + 1 := hused
      show BufferCache.size _ ≤ _
      rw [herase]
      omega

theorem slots_detachBufferFromQueue (h : Slots q) (sequence : ℕ) (invokerType : InvokerType)
    (isReserveSlot : Bool) :
    Slots (q.detachBufferFromQueueLocked sequence invokerType isReserveSlot).2 := by
  have hfit := h.fit
  unfold detachBufferFromQueueLocked
  split
  · exact h
  · rename_i hcheck
    obtain ⟨e, he, _⟩ := held_of_detachBufferCheck (not_not.mp hcheck)
    cases invokerType with
    | producerInvoker =>
      refine h.of_used ?_ rfl rfl
      simp only [getUsedSize, eraseForRS, onBufferDeleteForRS, BufferCache.size_erase]
      split <;> omega
    | consumerInvoker =>
      have hused := getUsedSize_deleteNoWait he
      have hframe := deleteNoWait_frame q sequence
      have hsettings := hframe.settings
      have hreserve := hframe.reserve
      unfold detachForConsumer
      dsimp only
      split
      · have hmod : (q.detachReserveSlotNum + 1) % 2 ^ 32 ≤ q.detachReserveSlotNum + 1 :=
          Nat.mod_le _ _
        refine ⟨?_, ?_⟩
        · show (q.deleteBufferInCacheNoWaitForAllocatingState sequence).getUsedSize +
            ((q.deleteBufferInCacheNoWaitForAllocatingState sequence).detachReserveSlotNum + 1) %
              2 ^ 32 ≤ (q.deleteBufferInCacheNoWaitForAllocatingState sequence).bufferQueueSize
          rw [hreserve, hsettings]
          omega
        · show (q.deleteBufferInCacheNoWaitForAllocatingState sequence).bufferQueueSize < 2 ^ 32
          rw [hsettings]
          exact h.width
      · exact h.of_frame hframe (by omega)

theorem slots_requestAndDetach (h : Slots q) (config : BufferRequestConfig) (a : Allocation) :
    Slots (q.requestAndDetachBuffer config a).2 := by
  have hframe := requestBufferLocked_frame q config a false
  have hrequest : Slots (q.requestBufferLocked config a false).2 :=
    h.of_room (getUsedSize_requestBufferLocked q config a false) hframe.reserve
      (by rw [hframe.settings])
  unfold requestAndDetachBuffer
  dsimp only
  split
  · exact hrequest
  · exact slots_detachBufferFromQueue hrequest _ .producerInvoker false

theorem slots_requestBuffers (h : Slots q) (config : BufferRequestConfig) (as : List Allocation) :
    Slots (q.requestBuffers config as).2.2 := by
  have hbatch : Slots { q with isBatch := true } := ⟨h.fit, h.width⟩
  obtain ⟨told, hframe⟩ := requestBuffersLoop_frame { q with isBatch := true } config as
  have hloop := hbatch.of_room (getUsedSize_requestBuffersLoop _ config as) hframe.reserve
    (by rw [hframe.settings])
  exact ⟨hloop.fit, hloop.width⟩

theorem slots_preAllocBuffers (h : Slots q) (config : BufferRequestConfig) (count : ℕ)
    (as : ℕ → Allocation) : Slots (q.preAllocBuffers config count as).2 := by
  have hframe := preAllocBuffers_frame q config count as
  refine h.of_room ?_ hframe.reserve (by rw [hframe.settings])
  unfold preAllocBuffers
  dsimp only
  split
  · exact le_max_left _ _
  · split
    · exact le_max_left _ _
    · exact getUsedSize_insertPreAlloc q _ _

theorem slots_setQueueSizeLocked (h : Slots q) {queueSize : ℕ} (hsmall : queueSize < 2 ^ 32)
    (hgrow : q.bufferQueueSize ≤ (q.setQueueSizeLocked queueSize).2.bufferQueueSize) :
    Slots (q.setQueueSizeLocked queueSize).2 := by
  have hfit := h.fit
  unfold setQueueSizeLocked at hgrow ⊢
  dsimp only at hgrow ⊢
  have hclamp : (if q.maxQueueSize ≠ 0 ∧ q.maxQueueSize < queueSize then q.maxQueueSize
      else queueSize) ≤ queueSize := by
    split_ifs <;> omega
  revert hclamp hgrow
  generalize (if q.maxQueueSize ≠ 0 ∧ q.maxQueueSize < queueSize then q.maxQueueSize
    else queueSize) = size
  intro hgrow hclamp
  split_ifs at hgrow ⊢ with hreserve hshrink
  · exact h
  · have hcontra : q.bufferQueueSize ≤ size := hgrow
    omega
  · exact ⟨hfit.trans (not_lt.mp hshrink), lt_of_le_of_lt hclamp hsmall⟩

theorem slots_clearLocked (h : Slots q) : Slots q.clearLocked :=
  h.of_used (by simp [clearLocked, getUsedSize]) rfl rfl

theorem bufferQueueSize_configure (q : BufferQueue) (s : Setting) :
    (q.configure s).bufferQueueSize = q.bufferQueueSize := by
  cases s with
  | setDropFrameLevel level =>
    simp only [configure, Setting.apply]
    split <;> rfl
  | _ => rfl

end BufferQueue

theorem Slots.step {q q' : BufferQueue} {op : Op} (h : Slots q) (hagrees : q.Agrees)
    (hstep : GrowingStep q op q') (hok : ¬ op.overfills q) : Slots q' := by
  have hrefines := hstep.1.refines hagrees
  obtain ⟨⟨_, rfl, _⟩, hgrow⟩ := hstep
  cases op with
  | requestBuffer config a =>
    have hframe := BufferQueue.requestBufferLocked_frame q config a false
    exact h.of_room (BufferQueue.getUsedSize_requestBufferLocked q config a false) hframe.reserve
      (by rw [Op.run, Prod.map_snd, id, BufferQueue.requestBuffer, hframe.settings])
  | requestBuffers config as => exact BufferQueue.slots_requestBuffers h config as
  | requestAndDetachBuffer config a => exact BufferQueue.slots_requestAndDetach h config a
  | cancelBuffer sequence bedata =>
    exact h.of_frame (BufferQueue.cancelBufferLocked_frame q sequence bedata)
      (hrefines.used_le fun m => not_grows_of_releases)
  | flushBuffer f =>
    exact h.of_frame (BufferQueue.flushBuffer_frame q _ _ _ _ _)
      (hrefines.used_le fun m => not_grows_of_flushes)
  | flushBuffers fs =>
    exact h.of_frame (BufferQueue.flushBuffers_frame q fs)
      (hrefines.used_le fun m => not_grows_of_flushes)
  | acquireBuffer now =>
    exact h.of_frame (BufferQueue.acquireBuffer_frame q now)
      (hrefines.used_le fun m => not_grows_of_takes)
  | acquireBufferByTimestamp expect auto now envs =>
    exact h.of_frame (BufferQueue.acquireBufferByTimestamp_frame q expect auto now envs)
      (hrefines.used_le fun m => not_grows_of_acquires)
  | releaseBuffer sequence fence env =>
    exact h.of_frame (BufferQueue.releaseBuffer_frame q sequence fence env)
      (hrefines.used_le fun m => not_grows_of_releases)
  | attachBufferToQueue buffer invokerType =>
    exact BufferQueue.slots_attachBufferToQueue h buffer invokerType hok
  | detachBufferFromQueue sequence invokerType isReserveSlot =>
    exact BufferQueue.slots_detachBufferFromQueue h sequence invokerType isReserveSlot
  | attachBuffer buffer timeOut => exact BufferQueue.slots_attachBuffer h hagrees buffer timeOut hok
  | detachBuffer sequence =>
    exact h.of_frame (BufferQueue.detachBuffer_frame q sequence)
      (hrefines.used_le fun m => not_grows_of_detaches)
  | attachAndFlushBuffer buffer bedata fence config env =>
    exact BufferQueue.slots_attachAndFlushBuffer h buffer bedata fence config env hok
  | setQueueSize queueSize =>
    simp only [Op.run, Prod.map_snd, id, BufferQueue.setQueueSize] at hgrow ⊢
    split_ifs at hgrow ⊢ with hsize
    · exact h
    · refine BufferQueue.slots_setQueueSizeLocked h ?_ hgrow
      simp only [surfaceMaxQueueSize, not_or, not_lt] at hsize
      omega
  | setMaxQueueSize queueSize =>
    have hmax : Slots { q with maxQueueSize := queueSize } := ⟨h.fit, h.width⟩
    simp only [Op.run, Prod.map_snd, id, BufferQueue.setMaxQueueSize] at hgrow ⊢
    split_ifs at hgrow ⊢ with hsize
    · exact h
    · refine BufferQueue.slots_setQueueSizeLocked hmax ?_ hgrow
      simp only [surfaceMaxQueueSize, not_or, not_lt] at hsize
      omega
    · exact hmax
  | preAllocBuffers config count as => exact BufferQueue.slots_preAllocBuffers h config count as
  | cleanCache => exact BufferQueue.slots_clearLocked h
  | goBackground => exact (BufferQueue.slots_clearLocked h).of_used le_rfl rfl rfl
  | onConsumerDied => exact BufferQueue.slots_clearLocked h
  | setProducerCacheCleanFlag flag =>
    simp only [Op.run, BufferQueue.setProducerCacheCleanFlag]
    split
    · exact (BufferQueue.slots_clearLocked h).of_used le_rfl rfl rfl
    · exact h.of_used le_rfl rfl rfl
  | cleanReleasedBuffers =>
    exact h.of_frame (BufferQueue.cleanReleasedBuffersLocked_frame q q.freeList)
      (hrefines.used_le fun m => not_grows_of_cleansFree)
  | cleanProducerBySeqNum seqNums =>
    exact h.of_frame (BufferQueue.cleanProducerBySeqNum_frame q seqNums)
      (hrefines.used_le fun m => not_grows_of_cleans)
  | acquireLastFlushedBuffer =>
    refine h.of_used (hrefines.used_le fun m hm => hm.elim) ?_ ?_
    all_goals
      simp only [Op.run, Prod.map_snd, id, BufferQueue.acquireLastFlushedBuffer]
      split_ifs
      · rfl
      · split
        · rfl
        · split_ifs <;> rfl
  | releaseLastFlushedBuffer sequence =>
    refine h.of_used (hrefines.used_le fun m hm => hm.elim) ?_ ?_
    all_goals
      simp only [Op.run, Prod.map_snd, id, BufferQueue.releaseLastFlushedBuffer]
      split_ifs <;> rfl
  | setScalingMode scalingMode => exact h.of_used (hrefines.used_le fun m hm => hm.elim) rfl rfl
  | setBufferScalingMode sequence scalingMode =>
    refine h.of_used (hrefines.used_le fun m hm => hm.elim) ?_ ?_
    all_goals
      simp only [Op.run, Prod.map_snd, id, BufferQueue.setBufferScalingMode]
      split_ifs <;> rfl
  | setVideoDimensionType videoDimType =>
    exact h.of_used (hrefines.used_le fun m hm => hm.elim) rfl rfl
  | setSingleBufferMode singleBufferMode => exact h.of_used le_rfl rfl rfl
  | configure s => exact h.of_used le_rfl rfl (BufferQueue.bufferQueueSize_configure q s)

/-- The steps of a run in which no producer's attach takes a reserved slot. -/
abbrev RespectfulStep := restrict GrowingStep fun q op => ¬ op.overfills q

theorem slots_of_run {q q' : BufferQueue} {ops : List Op} (h : Slots q) (hagrees : q.Agrees)
    (run : Run RespectfulStep q ops q') : Slots q' :=
  (run.invariant₂ (fun _ _ _ ha hstep => (hstep.1.1.refines ha).agrees ha)
    (fun _ _ _ ha hs hstep => hs.step ha hstep.1 hstep.2) hagrees h).2

def detachWithReserve : List Op :=
  [.configure .registerConsumerListener, .requestBuffer sampleConfig ⟨1, 1, true, true⟩,
    .requestBuffer sampleConfig ⟨2, 2, true, true⟩, .requestBuffer sampleConfig ⟨3, 3, true, true⟩,
    .flushBuffer ⟨1, some ∅, invalidFence, ⟨[], 0, 0⟩, ⟨.ok, 0⟩⟩, .acquireBuffer 0,
    .detachBufferFromQueue 1 .consumerInvoker true]

def sampleBuffer (sequence : ℕ) : SurfaceBuffer :=
  .allocated ⟨sequence, sequence, true, true⟩ sampleConfig

instance (q : BufferQueue) (op : Op) : Decidable (op.overfills q) := by
  unfold Op.overfills BufferQueue.tight
  split <;> infer_instance

end GraphicSurface
