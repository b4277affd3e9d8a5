import GraphicSurface.ConsumeMoves

/-! The moves of the calls that bring buffers in or take them out: deletion, attach, detach, the
two fused calls, the queue sizes, pre-allocation and the cleaning calls. -/

namespace GraphicSurface

open Runs SlotPool

def drops : Move ℕ → Prop
  | .dropFree _ | .dropPending _ => True
  | _ => False

def adoptsOne (k : ℕ) : Move ℕ → Prop
  | .adopt j => j = k
  | _ => False

/-- What `AttachBuffer` does: a cached buffer is lent, a new one displaces others. -/
def attaches (k : ℕ) : Move ℕ → Prop
  | .lend _ => True
  | m => drops m ∨ adoptsOne k m

def detaches : Move ℕ → Prop
  | .retire _ => True
  | _ => False

def requestsAndDetaches (fresh : List ℕ) (m : Move ℕ) : Prop := requests fresh m ∨ detaches m

def attachesAndFlushes (k : ℕ) (m : Move ℕ) : Prop := adoptsOne k m ∨ flushes m

def stocks (fresh : List ℕ) : Move ℕ → Prop
  | .stock k => k ∈ fresh
  | _ => False

def cleansFree : Move ℕ → Prop
  | .dropFree _ => True
  | _ => False

def cleans : Move ℕ → Prop
  | .dropFree _ | .dropPending _ | .retire _ => True
  | _ => False

def clears : Move ℕ → Prop
  | .clear => True
  | _ => False

theorem attaches_of_drops {k : ℕ} {m : Move ℕ} (h : drops m) : attaches k m := by
  cases m <;> simp_all [drops, attaches]

theorem attaches_of_adoptsOne {k : ℕ} {m : Move ℕ} (h : adoptsOne k m) : attaches k m := by
  cases m <;> simp_all [adoptsOne, attaches, drops]

theorem stocks_mono {fresh fresh' : List ℕ} (hsub : fresh ⊆ fresh') {m : Move ℕ}
    (h : stocks fresh m) : stocks fresh' m := by
  cases m <;> simp_all [stocks]
  exact hsub h

theorem ne_of_drops {m : Move ℕ} (h : drops m) (k : ℕ) : m ≠ .adopt k ∧ m ≠ .stock k := by
  cases m <;> simp_all [drops]

namespace BufferQueue

variable {q q' : BufferQueue} {sequence : ℕ} {e : BufferElement}

theorem deleteFreeFront_refines (h : q.Agrees) (hs : sequence ∈ q.freeList) :
    Refines drops q (q.deleteFreeFront sequence) := by
  obtain ⟨e, he, hreleased⟩ := h.state_of_mem_free hs
  have hdelete := pool_deleteNoWait he
  have hpool := hdelete
  simp only [pool, Pool.mk.injEq] at hpool
  obtain ⟨hplace, hfree, hdirty, hused⟩ := hpool
  have hgone : sequence ∉ q.freeList.erase sequence := h.free_nodup.not_mem_erase
  have hone : Refines drops q (q.deleteBufferInCacheNoWaitForAllocatingState sequence) :=
    delete_free trivial he hreleased
  refine hone.trans (.of_pool_eq ?_ rfl)
  simp only [pool, deleteFreeFront, hfree, List.erase_of_not_mem hgone, getUsedSize]

theorem deleteFree_refines (h : q.Agrees) (count : ℕ) :
    Refines drops q (q.deleteFree count).2 := by
  induction count generalizing q with
  | zero => exact .refl
  | succ count ih =>
    unfold deleteFree
    split
    · exact .refl
    · rename_i sequence rest hfree
      have hmem : sequence ∈ q.freeList := by simp [hfree]
      have hone := deleteFreeFront_refines h hmem
      exact hone.trans (ih (hone.agrees h))

theorem deleteDirtyFront_refines (h : q.Agrees) {rest : List ℕ}
    (hdirty : q.dirtyList = sequence :: rest) :
    Refines drops q (q.deleteDirtyFront sequence rest) := by
  obtain ⟨e, he, hflushed⟩ := h.state_of_mem_dirty (k := sequence) (by simp [hdirty])
  have hfree : sequence ∉ q.freeList := by simp [h.mem_free_iff he, hflushed]
  have hpool := pool_deleteNoWait he
  simp only [pool, Pool.mk.injEq] at hpool
  obtain ⟨hplace, hlist, _, hused⟩ := hpool
  refine .move (m := .dropPending sequence) trivial ?_ ?_ (fault_deleteNoWait q sequence)
  · simp [Move.enabled, pool, BufferCache.place_of_find he, hflushed, BufferState.place]
  · rw [List.erase_of_not_mem hfree] at hlist
    have hused' : (q.deleteBufferInCacheNoWaitForAllocatingState sequence).bufferQueueCache.size =
        q.bufferQueueCache.size - 1 := hused
    simp [pool, deleteDirtyFront, Move.apply, hplace, hlist, getUsedSize, hused', hdirty]

theorem deleteDirty_refines (h : q.Agrees) (count : ℕ) :
    Refines drops q (q.deleteDirty count).2 := by
  induction count generalizing q with
  | zero => exact .refl
  | succ count ih =>
    unfold deleteDirty
    split
    · exact .refl
    · rename_i sequence rest hdirty
      have hone := deleteDirtyFront_refines h hdirty
      exact hone.trans (ih (hone.agrees h))

theorem pool_markDeleting (q : BufferQueue) (l : List ℕ) :
    (q.markDeleting l).pool = q.pool ∧ (q.markDeleting l).fault = q.fault := by
  induction l generalizing q with
  | nil => exact ⟨rfl, rfl⟩
  | cons sequence rest ih =>
    unfold markDeleting
    refine ⟨(ih _).1.trans ?_, (ih _).2⟩
    simp only [pool, getUsedSize, BufferCache.size_modify,
      BufferCache.place_modify_of_state BufferElement.setDeleting_state]

theorem deleteBuffersLocked_refines (h : q.Agrees) (count : ℕ) :
    Refines drops q (q.deleteBuffersLocked count) := by
  unfold deleteBuffersLocked
  have hfree := deleteFree_refines h count
  have hdirty := hfree.trans (deleteDirty_refines (hfree.agrees h) (q.deleteFree count).1)
  exact hdirty.trans (.of_pool_eq (pool_markDeleting _ _).1 (pool_markDeleting _ _).2)

theorem put_refines {allowed : Move ℕ → Prop} (hallowed : allowed (.adopt e.buffer.seqNum))
    (habsent : q.bufferQueueCache.find e.buffer.seqNum = none) (hheld : e.state.place = .held)
    (hcache : q'.bufferQueueCache = q.bufferQueueCache.put e) (hfree : q'.freeList = q.freeList)
    (hdirty : q'.dirtyList = q.dirtyList) (hfault : q'.fault = q.fault) : Refines allowed q q' := by
  refine .move hallowed (BufferCache.place_eq_none.mpr habsent) ?_ hfault
  simp only [pool, Move.apply, getUsedSize, hcache, hfree, hdirty, BufferCache.place_put,
    BufferCache.size_put, habsent, hheld]
  rfl

theorem attachBufferToQueueLocked_refines (q : BufferQueue) (buffer : SurfaceBuffer)
    (invokerType : InvokerType) :
    Refines (adoptsOne buffer.seqNum) q (q.attachBufferToQueueLocked buffer invokerType).2 := by
  unfold attachBufferToQueueLocked
  split
  · exact .refl
  · split
    · exact .refl
    · split
      · exact .refl
      · rename_i habsent
        have habsent : q.bufferQueueCache.find buffer.seqNum = none := by simpa using habsent
        let ele (state : BufferState) : BufferElement :=
          .init (q.attachedBuffer buffer) state buffer.bufferRequestConfig (some invalidFence)
        cases invokerType with
        | producerInvoker =>
          exact put_refines (e := ele .requested) rfl habsent rfl rfl rfl rfl rfl
        | consumerInvoker =>
          exact put_refines (e := ele .acquired) rfl habsent rfl rfl rfl rfl rfl

theorem eraseForRS_refines {allowed : Move ℕ → Prop} (hallowed : allowed (.retire sequence))
    (he : q.bufferQueueCache.find sequence = some e) (hheld : e.state.place = .held) :
    Refines allowed q (q.eraseForRS sequence) := by
  refine .move hallowed ?_ ?_ rfl
  · rw [Move.enabled, pool_place he, hheld]
  · simp only [pool, eraseForRS, Move.apply, getUsedSize, BufferCache.place_erase,
      BufferCache.size_erase, he]
    rfl

theorem detachForConsumer_refines (h : q.Agrees) (he : q.bufferQueueCache.find sequence = some e)
    (hheld : e.state.place = .held) (isReserveSlot : Bool) :
    Refines detaches q (q.detachForConsumer sequence isReserveSlot) := by
  have hdelete : Refines detaches q (q.deleteBufferInCacheNoWaitForAllocatingState sequence) :=
    delete_held trivial h he hheld
  unfold detachForConsumer
  dsimp only
  split
  · exact hdelete.trans (.of_pool_eq rfl rfl)
  · exact hdelete

theorem held_of_detachBufferCheck {invokerType : InvokerType}
    (hcheck : q.detachBufferCheck sequence invokerType = .ok) :
    ∃ e, q.bufferQueueCache.find sequence = some e ∧ e.state.place = .held := by
  unfold detachBufferCheck at hcheck
  cases hfind : q.bufferQueueCache.find sequence with
  | none => simp [hfind] at hcheck
  | some e =>
    refine ⟨e, rfl, ?_⟩
    cases invokerType <;> cases hs : e.state <;> simp_all [BufferState.place]

theorem detachBufferFromQueueLocked_refines (h : q.Agrees) (sequence : ℕ)
    (invokerType : InvokerType) (isReserveSlot : Bool) :
    Refines detaches q (q.detachBufferFromQueueLocked sequence invokerType isReserveSlot).2 := by
  unfold detachBufferFromQueueLocked
  split
  · exact .refl
  · rename_i hcheck
    obtain ⟨e, he, hheld⟩ := held_of_detachBufferCheck (not_not.mp hcheck)
    cases invokerType with
    | producerInvoker => exact eraseForRS_refines trivial he hheld
    | consumerInvoker => exact detachForConsumer_refines h he hheld isReserveSlot

theorem detachBuffer_refines (q : BufferQueue) (sequence : ℕ) :
    Refines detaches q (q.detachBuffer sequence).2 := by
  unfold detachBuffer
  split
  · exact .refl
  · rename_i e he
    split
    · rename_i hs
      refine eraseForRS_refines trivial he ?_
      rcases hs with hs | hs <;> simp [hs, BufferState.place]
    · exact .refl

theorem attachBufferUpdateStatus_refines (he : q.bufferQueueCache.find sequence = some e) (k : ℕ) :
    Refines (attaches k) q (q.attachBufferUpdateStatus sequence e.state).2 := by
  unfold attachBufferUpdateStatus
  split
  · rename_i hs
    refine .move (m := .lend sequence) trivial ?_ ?_ rfl
    · rw [Move.enabled, pool_place he, hs]
      rfl
    · simp only [pool, Move.apply, getUsedSize, BufferCache.size_modify,
        BufferCache.place_modify he]
      rfl
  · exact .refl

theorem attachBuffer_refines (h : q.Agrees) (buffer : SurfaceBuffer) (timeOut : Int) :
    Refines (attaches buffer.seqNum) q (q.attachBuffer buffer timeOut).2 := by
  unfold attachBuffer
  split
  · exact .refl
  · split
    · exact .refl
    · split
      · rename_i e he
        exact attachBufferUpdateStatus_refines he _
      · rename_i habsent
        split
        · exact .refl
        · rename_i count _
          have hdelete := deleteBuffersLocked_refines h count
          have habsent' : (q.deleteBuffersLocked count).bufferQueueCache.find buffer.seqNum =
              none := Refines.absent hdelete (fun m hm => ne_of_drops hm _) habsent
          refine (hdelete.mono fun _ => attaches_of_drops).trans ?_
          exact put_refines (e := q.attachElement buffer timeOut)
            (attaches_of_adoptsOne rfl) habsent' rfl rfl rfl rfl rfl

theorem requestAndDetachBuffer_refines (h : q.Agrees) (config : BufferRequestConfig)
    (a : Allocation) (hfresh : q.bufferQueueCache.find a.sequence = none) :
    Refines (requestsAndDetaches [a.sequence]) q (q.requestAndDetachBuffer config a).2 := by
  have hrequest := requestBufferLocked_refines h config a hfresh
  have hrequest' : Refines (requestsAndDetaches [a.sequence]) q
      (q.requestBufferLocked config a false).2 := hrequest.mono fun _ => Or.inl
  unfold requestAndDetachBuffer
  dsimp only
  split
  · exact hrequest'
  · exact hrequest'.trans ((detachBufferFromQueueLocked_refines (hrequest.agrees h) _ _ _).mono
      fun _ => Or.inr)

theorem pool_doFlush_error {bedata : Option ExtraData} {fence : SyncFence}
    {config : BufferFlushConfigWithDamages} {env : FlushEnv}
    (hret : (q.doFlushBufferLocked sequence bedata fence config env).1 ≠ .ok) :
    (q.doFlushBufferLocked sequence bedata fence config env).2.pool = q.pool := by
  unfold doFlushBufferLocked at hret ⊢
  cases hfind : q.bufferQueueCache.find sequence with
  | none => rfl
  | some e =>
    simp only [hfind] at hret ⊢
    by_cases hdeleting : e.isDeleting = true
    · simp [hdeleting] at hret
    · rw [if_neg hdeleting] at hret ⊢
      cases bedata with
      | none => rfl
      | some bedata =>
        dsimp only at hret ⊢
        by_cases hcache : e.config.usage &&& bufferUsageCpuWrite ≠ 0 ∧ env.flushCache ≠ .ok
        · rw [if_pos hcache]
          exact pool_prepareFlush _ _ _
        · simp [if_neg hcache] at hret

theorem pool_flushImproved_error {bedata : Option ExtraData} {fence : SyncFence}
    {config : BufferFlushConfigWithDamages} {env : FlushEnv}
    (hret : (q.flushBufferImprovedLocked sequence bedata fence config env).1 ≠ .ok) :
    (q.flushBufferImprovedLocked sequence bedata fence config env).2.pool = q.pool := by
  revert hret
  refine flushBufferImprovedLocked_cases (motive := fun r => r.1 ≠ .ok → r.2.pool = q.pool) ?_ ?_
  · exact fun _ _ _ => rfl
  · exact fun _ => pool_doFlush_error

theorem held_of_attach {buffer : SurfaceBuffer}
    (hret : (q.attachBufferToQueueLocked buffer .producerInvoker).1 = .ok) :
    (q.attachBufferToQueueLocked buffer .producerInvoker).2.pool.place buffer.seqNum =
      some .held := by
  unfold attachBufferToQueueLocked at hret ⊢
  by_cases hinvoker : InvokerType.producerInvoker = .consumerInvoker ∧ q.listenerSeqAndFenceActive
  · simp at hinvoker
  · rw [if_neg hinvoker] at hret ⊢
    by_cases hfull : q.bufferQueueSize ≤ q.getUsedSize
    · simp [hfull] at hret
    · rw [if_neg hfull] at hret ⊢
      by_cases hin : (q.bufferQueueCache.find buffer.seqNum).isSome
      · simp [hin] at hret
      · rw [if_neg hin]
        let ele : BufferElement :=
          .init (q.attachedBuffer buffer) .requested buffer.bufferRequestConfig (some invalidFence)
        have hput : (q.bufferQueueCache.put ele).find buffer.seqNum = some ele := by
          rw [BufferCache.find_put]
          exact if_pos rfl
        exact BufferCache.place_of_find hput

theorem rollback_refines (h : q.Agrees) (hheld : q.pool.place sequence = some .held) :
    Refines flushes q
      { q with
        dirtyList := q.dirtyList.erase sequence
        bufferQueueCache := q.bufferQueueCache.erase sequence } := by
  obtain ⟨e, he, _⟩ := BufferCache.find_of_place hheld
  have hdirty : sequence ∉ q.dirtyList := by
    intro hmem
    simpa [hheld] using (h.mem_pending sequence).mp hmem
  refine .move (m := .retire sequence) trivial hheld ?_ rfl
  simp [pool, Move.apply, getUsedSize, he, List.erase_of_not_mem hdirty]

theorem attachAndFlushBuffer_refines (h : q.Agrees) {buffer : SurfaceBuffer}
    {bedata : Option ExtraData} {fence : SyncFence} {config : BufferFlushConfigWithDamages}
    {env : FlushEnv}
    (hsafe : Safe bedata (q.attachAndFlushBuffer buffer bedata fence config env).2) :
    Refines (attachesAndFlushes buffer.seqNum) q
      (q.attachAndFlushBuffer buffer bedata fence config env).2 := by
  have hattach := attachBufferToQueueLocked_refines q buffer .producerInvoker
  have hattach' : Refines (attachesAndFlushes buffer.seqNum) q
      (q.attachBufferToQueueLocked buffer .producerInvoker).2 := hattach.mono fun _ => Or.inl
  unfold attachAndFlushBuffer at hsafe ⊢
  dsimp only at hsafe ⊢
  by_cases hok : (q.attachBufferToQueueLocked buffer .producerInvoker).1 ≠ .ok
  · rw [if_pos hok]
    exact hattach'
  · rw [if_neg hok] at hsafe ⊢
    by_cases hret : ((q.attachBufferToQueueLocked buffer
        .producerInvoker).2.flushBufferImprovedLocked buffer.seqNum bedata fence config env).1 ≠ .ok
    · rw [if_pos hret] at hsafe ⊢
      have hflushed := hattach'.trans ((flushBufferImprovedLocked_refines (hattach.agrees h)
        hsafe).mono fun _ => Or.inr)
      have hheld := held_of_attach (not_not.mp hok)
      rw [← pool_flushImproved_error hret] at hheld
      exact hflushed.trans ((rollback_refines (hflushed.agrees h) hheld).mono fun _ => Or.inr)
    · rw [if_neg hret] at hsafe ⊢
      exact hattach'.trans ((flushBufferImprovedLocked_refines (hattach.agrees h)
        hsafe).mono fun _ => Or.inr)

theorem setQueueSizeLocked_refines (h : q.Agrees) (queueSize : ℕ) :
    Refines drops q (q.setQueueSizeLocked queueSize).2 :=
  setQueueSizeLocked_induct .refl (fun count => deleteBuffersLocked_refines h count)
    (fun _ _ h => h.trans (.of_pool_eq rfl rfl)) queueSize

theorem setQueueSize_refines (h : q.Agrees) (queueSize : ℕ) :
    Refines drops q (q.setQueueSize queueSize).2 := by
  unfold setQueueSize
  split
  · exact .refl
  · exact setQueueSizeLocked_refines h queueSize

theorem setMaxQueueSize_refines (h : q.Agrees) (queueSize : ℕ) :
    Refines drops q (q.setMaxQueueSize queueSize).2 := by
  have hmax : Refines drops q { q with maxQueueSize := queueSize } := .of_pool_eq rfl rfl
  unfold setMaxQueueSize
  dsimp only
  split
  · exact .refl
  · split
    · exact hmax.trans (setQueueSizeLocked_refines (hmax.agrees h) queueSize)
    · exact hmax

theorem insertPreAlloc_refines (config : BufferRequestConfig) (buffers : List SurfaceBuffer)
    (hnodup : (buffers.map (·.seqNum)).Nodup)
    (hfresh : ∀ b ∈ buffers, q.bufferQueueCache.find b.seqNum = none) :
    Refines (stocks (buffers.map (·.seqNum))) q (q.insertPreAlloc config buffers).2 := by
  induction buffers generalizing q with
  | nil => exact .refl
  | cons buffer rest ih =>
    rw [List.map_cons, List.nodup_cons] at hnodup
    have habsent := hfresh buffer List.mem_cons_self
    unfold insertPreAlloc
    split
    · exact .refl
    · have hstock : Refines (stocks ((buffer :: rest).map (·.seqNum))) q { q with
          bufferQueueCache := q.bufferQueueCache.put
            { BufferElement.init buffer .released config (some invalidFence) with
              isPreAllocBuffer := true }
          freeList := q.freeList ++ [buffer.seqNum] } := by
        refine .move (m := .stock buffer.seqNum) (by simp [stocks])
          (BufferCache.place_eq_none.mpr habsent) ?_ rfl
        simp [pool, Move.apply, getUsedSize, BufferElement.init, habsent, BufferState.place]
      refine hstock.trans ((ih hnodup.2 fun b hb => ?_).mono fun _ => stocks_mono (by simp))
      have hne : buffer.seqNum ≠ b.seqNum := by
        intro heq
        exact hnodup.1 (heq ▸ List.mem_map_of_mem hb)
      simpa [BufferElement.init, hne] using hfresh b (List.mem_cons_of_mem buffer hb)

theorem allocBuffers_filed (config : BufferRequestConfig) (made : List Allocation)
    (m : Std.ExtTreeMap ℕ SurfaceBuffer)
    (hm : ∀ (k : ℕ) (b : SurfaceBuffer), m[k]? = some b → b.seqNum = k) (k : ℕ)
    (b : SurfaceBuffer)
    (hb : (made.foldl (fun m a => m.insert a.sequence (SurfaceBuffer.allocated a config)) m)[k]? =
      some b) : b.seqNum = k ∧ (m[k]? = some b ∨ ∃ a ∈ made, a.sequence = k) := by
  induction made generalizing m with
  | nil => exact ⟨hm k b hb, .inl hb⟩
  | cons a made ih =>
    have hinsert (j : ℕ) (c : SurfaceBuffer)
        (hc : (m.insert a.sequence (SurfaceBuffer.allocated a config))[j]? = some c) :
        (a.sequence = j ∧ c = SurfaceBuffer.allocated a config) ∨ m[j]? = some c := by
      rw [Std.ExtTreeMap.getElem?_insert] at hc
      by_cases hj : a.sequence = j
      · exact .inl ⟨hj, by simpa [hj] using hc.symm⟩
      · exact .inr (by simpa [hj] using hc)
    rw [List.foldl_cons] at hb
    obtain ⟨hseq, hfound⟩ := ih _ (fun j c hc => by
      rcases hinsert j c hc with ⟨hj, rfl⟩ | hc
      · exact hj
      · exact hm j c hc) hb
    refine ⟨hseq, ?_⟩
    rcases hfound with hfound | ⟨a', ha', hk⟩
    · rcases hinsert k b hfound with ⟨hk, _⟩ | hfound
      · exact .inr ⟨a, List.mem_cons_self, hk⟩
      · exact .inl hfound
    · exact .inr ⟨a', List.mem_cons_of_mem a ha', hk⟩

theorem allocated_of_allocBuffers {config : BufferRequestConfig} {count : ℕ} {as : ℕ → Allocation}
    {b : SurfaceBuffer} (hb : b ∈ allocBuffers config count as) :
    ∃ a, b = SurfaceBuffer.allocated a config := by
  have hfold (made : List Allocation) (m : Std.ExtTreeMap ℕ SurfaceBuffer)
      (hm : ∀ (k : ℕ) (b : SurfaceBuffer), m[k]? = some b →
        ∃ a, b = SurfaceBuffer.allocated a config) (k : ℕ) (b : SurfaceBuffer)
      (hb : (made.foldl (fun m a => m.insert a.sequence (SurfaceBuffer.allocated a config)) m)[k]? =
        some b) : ∃ a, b = SurfaceBuffer.allocated a config := by
    induction made generalizing m with
    | nil => exact hm k b hb
    | cons a made ih =>
      refine ih _ (fun j c hc => ?_) hb
      rw [Std.ExtTreeMap.getElem?_insert] at hc
      split_ifs at hc
      · exact ⟨a, (Option.some.inj hc).symm⟩
      · exact hm j c hc
  unfold allocBuffers at hb
  obtain ⟨p, hp, rfl⟩ := List.mem_map.mp hb
  exact hfold _ ∅ (by simp) p.1 p.2 (Std.ExtTreeMap.mem_toList_iff_getElem?_eq_some.mp hp)

theorem allocBuffers_spec (config : BufferRequestConfig) (count : ℕ) (as : ℕ → Allocation) :
    ((allocBuffers config count as).map (·.seqNum)).Nodup ∧
      ∀ b ∈ allocBuffers config count as, ∃ i < count, (as i).sequence = b.seqNum := by
  unfold allocBuffers
  dsimp only
  set made := ((List.range count).map as).filter (·.alloc) with hmade
  set m := made.foldl (fun m a => m.insert a.sequence (SurfaceBuffer.allocated a config))
    (∅ : Std.ExtTreeMap ℕ SurfaceBuffer) with hm
  have hfiled (p : ℕ × SurfaceBuffer) (hp : p ∈ m.toList) :
      p.2.seqNum = p.1 ∧ ∃ a ∈ made, a.sequence = p.1 := by
    have hget : m[p.1]? = some p.2 := Std.ExtTreeMap.mem_toList_iff_getElem?_eq_some.mp hp
    simpa using allocBuffers_filed config made ∅ (by simp) p.1 p.2 hget
  constructor
  · have hkeys : (m.toList.map (·.2)).map (·.seqNum) = m.keys := by
      rw [← Std.ExtTreeMap.map_fst_toList_eq_keys, List.map_map]
      exact List.map_congr_left fun p hp => (hfiled p hp).1
    rw [hkeys]
    exact (Std.ExtTreeMap.distinct_keys (t := m)).imp fun hne heq => hne (by simp [heq])
  · intro b hb
    obtain ⟨p, hp, rfl⟩ := List.mem_map.mp hb
    obtain ⟨hseq, a, ha, hk⟩ := hfiled p hp
    rw [hmade, List.mem_filter, List.mem_map] at ha
    obtain ⟨⟨i, hi, rfl⟩, _⟩ := ha
    exact ⟨i, List.mem_range.mp hi, hk.trans hseq.symm⟩

theorem preAllocBuffers_refines (config : BufferRequestConfig) (allocBufferCount : ℕ)
    (as : ℕ → Allocation)
    (hfresh : ∀ i < allocBufferCount, q.bufferQueueCache.find (as i).sequence = none) :
    Refines (stocks ((List.range allocBufferCount).map fun i => (as i).sequence)) q
      (q.preAllocBuffers config allocBufferCount as).2 := by
  unfold preAllocBuffers
  dsimp only
  split
  · exact .refl
  · split
    · exact .refl
    · have hcount : q.preAllocBuffersCount allocBufferCount ≤ allocBufferCount := min_le_left _ _
      obtain ⟨hnodup, hmade⟩ := allocBuffers_spec
        { config with usage := config.usage ||| q.defaultUsage }
        (q.preAllocBuffersCount allocBufferCount) as
      refine (insertPreAlloc_refines _ _ hnodup fun b hb => ?_).mono fun m hm => ?_
      · obtain ⟨i, hi, hseq⟩ := hmade b hb
        rw [← hseq]
        exact hfresh i (by omega)
      · refine stocks_mono (fun k hk => ?_) hm
        obtain ⟨b, hb, rfl⟩ := List.mem_map.mp hk
        obtain ⟨i, hi, hseq⟩ := hmade b hb
        exact List.mem_map.mpr ⟨i, List.mem_range.mpr (by omega), hseq⟩

theorem cleanReleasedBuffersLocked_refines (h : q.Agrees) (l : List ℕ) (hnodup : l.Nodup)
    (hl : l ⊆ q.freeList) : Refines cleansFree q (q.cleanReleasedBuffersLocked l).2 := by
  induction l generalizing q with
  | nil => exact .refl
  | cons sequence rest ih =>
    obtain ⟨hout, hnodup⟩ := List.nodup_cons.mp hnodup
    obtain ⟨hs, hrest⟩ := List.cons_subset.mp hl
    obtain ⟨e, he, hreleased⟩ := h.state_of_mem_free hs
    unfold cleanReleasedBuffersLocked
    split
    · exact ih h hnodup hrest
    · simp only [he, Option.isSome_some, if_true]
      have hdrop : Refines cleansFree q { q.onBufferDeleteForRS sequence with
          bufferQueueCache := (q.onBufferDeleteForRS sequence).bufferQueueCache.erase sequence
          freeList := (q.onBufferDeleteForRS sequence).freeList.erase sequence } := by
        refine .move (m := .dropFree sequence) trivial ((h.mem_free sequence).mp hs) ?_ rfl
        simp [pool, Move.apply, getUsedSize, onBufferDeleteForRS, he]
      refine hdrop.trans (ih (hdrop.agrees h) hnodup fun k hk => ?_)
      have hne : k ≠ sequence := by
        rintro rfl
        exact hout hk
      exact (List.mem_erase_of_ne hne).mpr (hrest hk)

theorem cleanReleasedBuffers_refines (h : q.Agrees) :
    Refines cleansFree q q.cleanReleasedBuffers.2 :=
  cleanReleasedBuffersLocked_refines h q.freeList h.free_nodup (List.Subset.refl _)

theorem cleanProducerOne_refines (h : q.Agrees) (sequence : ℕ) :
    Refines cleans q (q.cleanProducerOne sequence) := by
  unfold cleanProducerOne
  split
  · rename_i hin
    obtain ⟨e, he⟩ := Option.isSome_iff_exists.mp hin
    have hfree := h.free_nodup.erase_eq_filter sequence
    have hdirty := h.pending_nodup.erase_eq_filter sequence
    have hplace := pool_place he
    have hpool : { q.onBufferDeleteForRS sequence with
        freeList := (q.onBufferDeleteForRS sequence).freeList.filter (· != sequence)
        dirtyList := (q.onBufferDeleteForRS sequence).dirtyList.filter (· != sequence)
        bufferQueueCache :=
          (q.onBufferDeleteForRS sequence).bufferQueueCache.erase sequence }.pool =
        ⟨Function.update q.pool.place sequence none, q.freeList.erase sequence,
          q.dirtyList.erase sequence, q.getUsedSize - 1⟩ := by
      simp only [pool] at hfree hdirty
      simp [pool, getUsedSize, onBufferDeleteForRS, he, hfree, hdirty]
    cases hs : e.state.place with
    | free =>
      have hout : sequence ∉ q.dirtyList := by simp_all [h.mem_dirty_iff he]
      rw [List.erase_of_not_mem hout] at hpool
      exact .move (m := .dropFree sequence) trivial (by rw [Move.enabled, hplace, hs]) hpool rfl
    | pending =>
      have hout : sequence ∉ q.freeList := by simp_all [h.mem_free_iff he]
      rw [List.erase_of_not_mem hout] at hpool
      exact .move (m := .dropPending sequence) trivial (by rw [Move.enabled, hplace, hs]) hpool rfl
    | held =>
      have hout : sequence ∉ q.freeList := by
        rw [h.mem_free_iff he, ← BufferState.place_eq_free, hs]
        simp
      have hout' : sequence ∉ q.dirtyList := by
        rw [h.mem_dirty_iff he, ← BufferState.place_eq_pending, hs]
        simp
      rw [List.erase_of_not_mem hout, List.erase_of_not_mem hout'] at hpool
      exact .move (m := .retire sequence) trivial (by rw [Move.enabled, hplace, hs]) hpool rfl
  · exact .refl

theorem cleanProducerBySeqNum_refines (h : q.Agrees) (seqNums : List ℕ) :
    Refines cleans q (q.cleanProducerBySeqNum seqNums) := by
  unfold cleanProducerBySeqNum
  induction seqNums generalizing q with
  | nil => exact .refl
  | cons sequence rest ih =>
    have hone := cleanProducerOne_refines h sequence
    rw [List.foldl_cons]
    exact hone.trans (ih (hone.agrees h))

theorem clearLocked_refines (q : BufferQueue) : Refines clears q q.clearLocked := by
  refine .move (m := .clear) trivial trivial ?_ rfl
  simp [pool, clearLocked, getUsedSize, Move.apply]

theorem setProducerCacheCleanFlag_refines (q : BufferQueue) (flag : Bool) :
    Refines clears q (q.setProducerCacheCleanFlag flag) := by
  unfold setProducerCacheCleanFlag
  dsimp only
  split
  · exact (clearLocked_refines q).trans (.of_pool_eq rfl rfl)
  · exact .of_pool_eq rfl rfl

theorem pool_acquireLastFlushedBuffer (q : BufferQueue) :
    q.acquireLastFlushedBuffer.2.pool = q.pool ∧
      q.acquireLastFlushedBuffer.2.fault = q.fault :=
  acquireLastFlushedBuffer_induct (P := fun q' => q'.pool = q.pool ∧ q'.fault = q.fault) q
    ⟨rfl, rfl⟩ ⟨rfl, rfl⟩

theorem pool_releaseLastFlushedBuffer (q : BufferQueue) (sequence : ℕ) :
    (q.releaseLastFlushedBuffer sequence).2.pool = q.pool ∧
      (q.releaseLastFlushedBuffer sequence).2.fault = q.fault :=
  releaseLastFlushedBuffer_induct (P := fun q' => q'.pool = q.pool ∧ q'.fault = q.fault) q sequence
    ⟨rfl, rfl⟩ ⟨rfl, rfl⟩

end BufferQueue

end GraphicSurface
