import GraphicSurface.Refinement

/-! The moves of a request. A buffer that is reused is lent, one that has to be reallocated is
dropped before its successor enters, and a request made for the listener at most changes the
order of the free list when it hands nothing out. -/

namespace GraphicSurface

open Runs SlotPool

/-- What a section of a request does when it may not take pending frames. -/
def lends : Move ℕ → Prop
  | .shuffle _ | .lend _ | .dropFree _ => True
  | _ => False

/-- What any section of a request does before the allocator: in the no-block mode it may take the
oldest pending frame. -/
def reuses : Move ℕ → Prop
  | .shuffle _ | .lend _ | .dropFree _ | .take _ | .dropPending _ => True
  | _ => False

/-- What a request made for the listener does. -/
def handsOut : Move ℕ → Prop
  | .shuffle _ | .lend _ => True
  | _ => False

/-- The new buffers may only have the given numbers. -/
def adopts (fresh : List ℕ) : Move ℕ → Prop
  | .adopt k => k ∈ fresh
  | _ => False

def requests (fresh : List ℕ) (m : Move ℕ) : Prop := reuses m ∨ adopts fresh m

def requestsBlocking (fresh : List ℕ) (m : Move ℕ) : Prop := lends m ∨ adopts fresh m

theorem reuses_of_lends {m : Move ℕ} (h : lends m) : reuses m := by
  cases m <;> simp_all [lends, reuses]

theorem adopts_mono {fresh fresh' : List ℕ} (hsub : fresh ⊆ fresh') {m : Move ℕ}
    (h : adopts fresh m) : adopts fresh' m := by
  cases m <;> simp_all [adopts]
  exact hsub h

theorem ne_of_reuses {m : Move ℕ} (h : reuses m) (k : ℕ) : m ≠ .adopt k ∧ m ≠ .stock k := by
  cases m <;> simp_all [reuses]

theorem ne_of_requests {fresh : List ℕ} {m : Move ℕ} (h : requests fresh m) {k : ℕ}
    (hk : k ∉ fresh) : m ≠ .adopt k ∧ m ≠ .stock k := by
  rcases h with h | h
  · exact ne_of_reuses h k
  · cases m <;> simp_all [adopts]
    rintro rfl
    exact hk h

namespace BufferQueue

variable {q q' : BufferQueue} {config : BufferRequestConfig} {buffer : SurfaceBuffer}
  {sequence : ℕ} {e : BufferElement}

@[simp] theorem pool_pushProducerCacheList (q : BufferQueue) (sequence : ℕ) :
    (q.pushProducerCacheList sequence).pool = q.pool :=
  pushProducerCacheList_induct (P := fun q' => q'.pool = q.pool) q sequence fun _ _ => rfl

@[simp] theorem fault_pushProducerCacheList (q : BufferQueue) (sequence : ℕ) :
    (q.pushProducerCacheList sequence).fault = q.fault :=
  pushProducerCacheList_induct (P := fun q' => q'.fault = q.fault) q sequence fun _ _ => rfl

@[simp] theorem pool_addDeletingBuffersLocked (q : BufferQueue) (deletingBuffers : List ℕ) :
    (q.addDeletingBuffersLocked deletingBuffers).2.pool = q.pool := rfl

theorem pool_markRequested (he : q.bufferQueueCache.find sequence = some e) :
    (q.markRequested sequence).pool =
      { q.pool with place := Function.update q.pool.place sequence (some .held) } := by
  simp only [pool, markRequested, getUsedSize, BufferCache.size_modify,
    BufferCache.place_modify he]
  rfl

@[simp] theorem pool_deliverObject (q : BufferQueue) (sequence : ℕ) :
    (q.deliverObject sequence).pool = q.pool := by
  have hpush := pool_pushProducerCacheList q sequence
  simp only [pool, Pool.mk.injEq] at hpush
  obtain ⟨_, hfree, hdirty, _⟩ := hpush
  simp only [pool, deliverObject, hfree, hdirty, getUsedSize, BufferCache.size_modify,
    BufferCache.place_modify_of_state BufferElement.setDelivered_state]

theorem pool_putBack (he : q.bufferQueueCache.find sequence = some e) :
    (q.putBack sequence).pool =
      { q.pool with
        place := Function.update q.pool.place sequence (some .free)
        free := q.freeList ++ [sequence] } := by
  simp only [pool, putBack, getUsedSize, BufferCache.size_modify, BufferCache.place_modify he]
  rfl

theorem pool_updateReuse (needRealloc : Bool) (he : q.bufferQueueCache.find sequence = some e) :
    (q.updateReuseBufferState needRealloc sequence false).2.pool =
      { q.pool with place := Function.update q.pool.place sequence (some .held) } := by
  unfold updateReuseBufferState
  rw [he, ← pool_markRequested he]
  dsimp only
  split <;> simp

theorem fault_updateReuse (needRealloc listener : Bool)
    (he : q.bufferQueueCache.find sequence = some e) :
    (q.updateReuseBufferState needRealloc sequence listener).2.fault = q.fault := by
  unfold updateReuseBufferState
  rw [he]
  dsimp only
  split_ifs
  · rfl
  · exact fault_pushProducerCacheList _ _
  · rfl

theorem pool_updateReuse_listener (he : q.bufferQueueCache.find sequence = some e)
    (hs : e.state = .released) :
    (q.updateReuseBufferState false sequence true).2.pool =
        { q.pool with place := Function.update q.pool.place sequence (some .held) } ∨
      (q.updateReuseBufferState false sequence true).2.pool =
        { q.pool with free := q.freeList ++ [sequence] } := by
  have hmark := pool_markRequested he
  have hfind : (q.markRequested sequence).bufferQueueCache.find sequence =
      some (e.setState .requested) := by
    simp [markRequested, he]
  have hold : q.pool.place sequence = some .free := by
    simp [pool, BufferCache.place_of_find he, hs, BufferState.place]
  unfold updateReuseBufferState
  rw [he]
  dsimp only
  split
  · right
    have hback := pool_putBack (q := ((q.markRequested sequence).addDeletingBuffersLocked []).2)
      hfind
    simp only [if_true, hback, pool_addDeletingBuffersLocked, hmark, Function.update_idem, ← hold,
      Function.update_eq_self]
    rfl
  · left
    rw [pool_addDeletingBuffersLocked, hmark]

theorem pool_allocBufferEnd (job : AllocJob) (a : Allocation)
    (hfresh : q.bufferQueueCache.find a.sequence = none) :
    ((q.allocBufferEnd job a).1 = none ∧ (q.allocBufferEnd job a).2.pool = q.pool) ∨
      ((q.allocBufferEnd job a).1 = some (job.element a).buffer ∧
        (q.allocBufferEnd job a).2.bufferQueueCache = q.bufferQueueCache.put (job.element a) ∧
        (q.allocBufferEnd job a).2.pool = (Move.adopt a.sequence).apply q.pool) := by
  have hseq : (job.element a).buffer.seqNum = a.sequence := rfl
  unfold allocBufferEnd
  dsimp only
  split_ifs
  · refine Or.inr ⟨rfl, rfl, ?_⟩
    simp [pool, Move.apply, getUsedSize, hseq, hfresh]
    rfl
  · exact Or.inl ⟨rfl, rfl⟩

@[simp] theorem fault_allocBufferEnd (q : BufferQueue) (job : AllocJob) (a : Allocation) :
    (q.allocBufferEnd job a).2.fault = q.fault := by
  unfold allocBufferEnd
  dsimp only
  split_ifs <;> rfl

theorem finishRequest_refines (a : Allocation)
    (hfresh : q.bufferQueueCache.find a.sequence = none) (point : ReusePoint) :
    Refines (adopts [a.sequence]) q (q.finishRequest a point).2 := by
  have adopted (job : AllocJob) :
      Refines (adopts [a.sequence]) q (q.allocBufferEnd job a).2 := by
    rcases pool_allocBufferEnd job a hfresh with ⟨_, hpool⟩ | ⟨_, _, hpool⟩
    · exact .of_pool_eq hpool (by simp)
    · exact .move (m := .adopt a.sequence) (by simp [adopts]) (BufferCache.place_eq_none.mpr hfresh) hpool
        (by simp)
  cases point with
  | done reply => exact .refl
  | setupNewBuffer job =>
    have hadopt := adopted job
    unfold finishRequest
    dsimp only
    split
    · rename_i q₁ h
      rw [h] at hadopt
      exact hadopt
    · rename_i b q₁ h
      rw [h] at hadopt
      exact hadopt.trans (.of_pool_eq rfl rfl)
  | reallocBuffer job =>
    have hadopt := adopted job
    have hcases := pool_allocBufferEnd job a hfresh
    unfold finishRequest
    dsimp only
    split
    · rename_i q₁ h
      rw [h] at hadopt
      exact hadopt
    · rename_i b q₁ h
      rw [h] at hadopt hcases
      obtain ⟨hb, hcache, hpool⟩ : some b = some (job.element a).buffer ∧
          q₁.bufferQueueCache = q.bufferQueueCache.put (job.element a) ∧
          q₁.pool = (Move.adopt a.sequence).apply q.pool := by
        simpa using hcases
      cases hb
      have he : q₁.bufferQueueCache.find (job.element a).buffer.seqNum = some (job.element a) := by
        simp [hcache]
      refine hadopt.trans (.of_pool_eq ?_ (fault_updateReuse true false he))
      have hheld : q₁.pool.place (job.element a).buffer.seqNum = some .held :=
        BufferCache.place_of_find he
      rw [pool_updateReuse true he, ← hheld, Function.update_eq_self]

theorem lend_after_pop {allowed : Move ℕ → Prop} (hshuffle : ∀ order, allowed (.shuffle order))
    (hlend : allowed (.lend sequence)) (h : q.Agrees) {order : List ℕ}
    (hperm : (sequence :: order).Perm q.freeList)
    (hpool : q'.pool = ⟨Function.update q.pool.place sequence (some .held), order, q.dirtyList,
      q.getUsedSize⟩) (hfault : q'.fault = q.fault) : Refines allowed q q' := by
  have hfree : q.pool.place sequence = some .free :=
    (h.mem_free sequence).mp (hperm.subset List.mem_cons_self)
  refine ⟨⟨[.shuffle (sequence :: order), .lend sequence], ?_, ?_⟩, hfault⟩
  · simp [hshuffle, hlend]
  · refine .cons ⟨hperm, rfl⟩ (.single ⟨hfree, ?_⟩)
    rw [hpool]
    simp [Move.apply, pool]

theorem shuffle_after_pop {allowed : Move ℕ → Prop} (hshuffle : ∀ order, allowed (.shuffle order))
    {order : List ℕ} (hperm : (sequence :: order).Perm q.freeList)
    (hpool : q'.pool = { q.pool with free := order ++ [sequence] }) (hfault : q'.fault = q.fault) :
    Refines allowed q q' :=
  .move (hshuffle (order ++ [sequence]))
    ((List.perm_append_singleton sequence order).trans hperm) hpool hfault

theorem drop_after_pop {allowed : Move ℕ → Prop} (hshuffle : ∀ order, allowed (.shuffle order))
    (hdrop : allowed (.dropFree sequence)) (h : q.Agrees) {order : List ℕ}
    (hperm : (sequence :: order).Perm q.freeList)
    (hpool : q'.pool = ⟨Function.update q.pool.place sequence none, order, q.dirtyList,
      q.getUsedSize - 1⟩) (hfault : q'.fault = q.fault) : Refines allowed q q' := by
  have hfree : q.pool.place sequence = some .free :=
    (h.mem_free sequence).mp (hperm.subset List.mem_cons_self)
  refine ⟨⟨[.shuffle (sequence :: order), .dropFree sequence], ?_, ?_⟩, hfault⟩
  · simp [hshuffle, hdrop]
  · refine .cons ⟨hperm, rfl⟩ (.single ⟨hfree, ?_⟩)
    rw [hpool]
    simp [Move.apply, pool]

/-- `ReallocBufferLocked` up to the allocator deletes the buffer and nothing else. -/
theorem pool_reallocBufferLocked (config : BufferRequestConfig)
    (he : q.bufferQueueCache.find sequence = some e) :
    (q.reallocBufferLocked config sequence).2.pool =
      ⟨Function.update q.pool.place sequence none, q.freeList.erase sequence, q.dirtyList,
        q.getUsedSize - 1⟩ :=
  pool_deleteNoWait he

@[simp] theorem fault_reallocBufferLocked (q : BufferQueue) (config : BufferRequestConfig)
    (sequence : ℕ) : (q.reallocBufferLocked config sequence).2.fault = q.fault :=
  fault_deleteNoWait q sequence

theorem reuse_popped (h : q.Agrees) {order : List ℕ} {cache : BufferCache}
    (hperm : (buffer.seqNum :: order).Perm q.freeList)
    (hplace : cache.place = q.bufferQueueCache.place)
    (hsize : cache.size = q.bufferQueueCache.size) :
    Refines lends q
      ({ q with freeList := order, bufferQueueCache := cache }.reuseBuffer config buffer false).2 := by
  have hmem : buffer.seqNum ∈ q.freeList := hperm.subset List.mem_cons_self
  have hold : cache.place buffer.seqNum = some .free := by
    rw [hplace]
    exact (h.mem_free _).mp hmem
  obtain ⟨e, he, _⟩ := BufferCache.find_of_place hold
  have hout : buffer.seqNum ∉ order :=
    (List.nodup_cons.mp (hperm.nodup_iff.mpr h.free_nodup)).1
  unfold reuseBuffer
  rw [he]
  dsimp only
  split
  · refine lend_after_pop (by simp [lends]) (by simp [lends]) h hperm
      ?_ (fault_updateReuse false false he)
    have hpool := pool_updateReuse
      (q := { q with freeList := order, bufferQueueCache := cache }) false he
    simpa [pool, hplace, getUsedSize, hsize] using hpool
  · refine drop_after_pop (by simp [lends]) (by simp [lends]) h hperm
      ?_ (fault_reallocBufferLocked _ _ _)
    have hpool := pool_reallocBufferLocked
      (q := { q with freeList := order, bufferQueueCache := cache }) config he
    simpa [pool, hplace, getUsedSize, hsize, List.erase_of_not_mem hout] using hpool

/-- A request for the listener never makes the queue allocate. -/
theorem reuse_popped_listener (h : q.Agrees) {order : List ℕ} {cache : BufferCache}
    (hperm : (buffer.seqNum :: order).Perm q.freeList)
    (hplace : cache.place = q.bufferQueueCache.place)
    (hsize : cache.size = q.bufferQueueCache.size) :
    Refines handsOut q
      ({ q with freeList := order, bufferQueueCache := cache }.reuseBuffer config buffer true).2 := by
  have hmem : buffer.seqNum ∈ q.freeList := hperm.subset List.mem_cons_self
  have hold : cache.place buffer.seqNum = some .free := by
    rw [hplace]
    exact (h.mem_free _).mp hmem
  obtain ⟨e, he, hs⟩ := BufferCache.find_of_place hold
  unfold reuseBuffer
  rw [he]
  dsimp only
  split
  · rcases pool_updateReuse_listener
      (q := { q with freeList := order, bufferQueueCache := cache }) he (by simpa using hs)
      with hpool | hpool
    · refine lend_after_pop (by simp [handsOut]) (by simp [handsOut])
        h hperm ?_ (fault_updateReuse false true he)
      simpa [pool, hplace, getUsedSize, hsize] using hpool
    · refine shuffle_after_pop (by simp [handsOut]) hperm ?_
        (fault_updateReuse false true he)
      simpa [pool, hplace, getUsedSize, hsize] using hpool
  · refine shuffle_after_pop (by simp [handsOut]) hperm ?_ rfl
    simp [pool, hplace, getUsedSize, hsize]

/-- The pop and the reuse together, in the words of `RequestBufferLocked`. -/
theorem popAndReuse_refines (h : q.Agrees)
    (hp : q.popFromFreeListLocked config = (some buffer, q')) {config' : BufferRequestConfig} :
    Refines lends q (q'.reuseBuffer config' buffer false).2 := by
  obtain ⟨order, cache, rfl, hperm, hplace, hsize⟩ := popFromFreeListLocked_some h hp
  exact reuse_popped h hperm hplace hsize

theorem popAndReuse_refines_listener (h : q.Agrees)
    (hp : q.popFromFreeListLocked config = (some buffer, q')) {config' : BufferRequestConfig} :
    Refines handsOut q (q'.reuseBuffer config' buffer true).2 := by
  obtain ⟨order, cache, rfl, hperm, hplace, hsize⟩ := popFromFreeListLocked_some h hp
  exact reuse_popped_listener h hperm hplace hsize

theorem reuseBufferForNoBlockMode_refines (h : q.Agrees) (config : BufferRequestConfig) :
    Refines reuses q (q.reuseBufferForNoBlockMode config).2 := by
  unfold reuseBufferForNoBlockMode popFromDirtyListLocked
  cases hdirty : q.dirtyList with
  | nil => exact .refl
  | cons front rest =>
    have hmem : front ∈ q.dirtyList := by simp [hdirty]
    obtain ⟨e, he, hs⟩ := h.state_of_mem_dirty hmem
    have hseq := BufferCache.seqNum_of_find he
    have hhead : q.pool.pending.head? = some front := by simp [pool, hdirty]
    have hfree : front ∉ q.freeList := by simp [h.mem_free_iff he, hs]
    simp only [he]
    have he' : (q.bufferQueueCache.modify e.buffer.seqNum
        (BufferElement.recolour config.colorGamut config.transform)
        (BufferElement.recolour_seqNum _ _)).find front =
        some (e.recolour config.colorGamut config.transform) := by
      simp [hseq, he]
    have hplace := BufferCache.place_modify_of_state (c := q.bufferQueueCache)
      (k := e.buffer.seqNum) (BufferElement.recolour_state config.colorGamut config.transform)
      (BufferElement.recolour_seqNum _ _)
    have hname : (e.buffer.setColorGamutAndTransform config.colorGamut config.transform).seqNum =
        front := hseq
    unfold reuseBuffer
    simp only [hname, he']
    split
    · refine .move (m := .take front) trivial ⟨hhead, (h.mem_pending front).mp hmem⟩ ?_
        (fault_updateReuse false false he')
      have hpool := pool_updateReuse (q := { q with
        dirtyList := rest
        bufferQueueCache := q.bufferQueueCache.modify e.buffer.seqNum
          (BufferElement.recolour config.colorGamut config.transform)
          (BufferElement.recolour_seqNum _ _) }) false he'
      simpa [pool, hplace, getUsedSize, Move.apply, hdirty] using hpool
    · refine .move (m := .dropPending front) trivial ((h.mem_pending front).mp hmem) ?_
        (fault_reallocBufferLocked _ _ _)
      have hpool := pool_reallocBufferLocked (q := { q with
        dirtyList := rest
        bufferQueueCache := q.bufferQueueCache.modify e.buffer.seqNum
          (BufferElement.recolour config.colorGamut config.transform)
          (BufferElement.recolour_seqNum _ _) }) config he'
      simpa [pool, hplace, getUsedSize, Move.apply, hdirty, List.erase_of_not_mem hfree] using hpool

theorem setupNewBufferLocked_refines {allowed : Move ℕ → Prop} (q : BufferQueue)
    (config : BufferRequestConfig) : Refines allowed q (q.setupNewBufferLocked config).2 :=
  .of_pool_eq rfl rfl

theorem requestBufferBody_refines (h : q.Agrees) (config : BufferRequestConfig) :
    Refines reuses q (q.requestBufferBody config false).2 := by
  have hlends {p : BufferQueue} (hp : Refines lends q p) : Refines reuses q p :=
    hp.mono fun _ => reuses_of_lends
  unfold requestBufferBody
  dsimp only
  split
  · split
    · rename_i buffer q₁ hpop
      exact hlends (popAndReuse_refines h hpop)
    · rename_i q₁ hpop
      obtain rfl := popFromFreeListLocked_none h hpop
      simp only [Bool.false_eq_true, if_false]
      split
      · split
        · exact .refl
        · exact reuseBufferForNoBlockMode_refines h config
      · exact setupNewBufferLocked_refines _ config
  · exact setupNewBufferLocked_refines _ config

theorem requestBufferBody_refines_block (h : q.Agrees) (hblock : !q.requestBufferNoBlockMode)
    (config : BufferRequestConfig) :
    Refines lends q (q.requestBufferBody config false).2 := by
  unfold requestBufferBody
  dsimp only
  split
  · split
    · rename_i buffer q₁ hpop
      exact popAndReuse_refines h hpop
    · rename_i q₁ hpop
      obtain rfl := popFromFreeListLocked_none h hpop
      simp only [Bool.false_eq_true, if_false, hblock, if_true]
      split
      · exact .refl
      · exact setupNewBufferLocked_refines _ config
  · exact setupNewBufferLocked_refines _ config

theorem requestBufferBody_refines_listener (h : q.Agrees) (config : BufferRequestConfig) :
    Refines handsOut q (q.requestBufferBody config true).2 := by
  unfold requestBufferBody
  simp only [Bool.or_true, if_true]
  split
  · rename_i buffer q₁ hpop
    exact popAndReuse_refines_listener h hpop
  · rename_i q₁ hpop
    obtain rfl := popFromFreeListLocked_none h hpop
    exact .refl

theorem reuseBufferForBlockMode_refines (h : q.Agrees) (config : BufferRequestConfig) :
    Refines lends q (q.reuseBufferForBlockMode config).2 := by
  unfold reuseBufferForBlockMode
  split
  · exact .refl
  · split
    · rename_i buffer q₁ hpop
      exact popAndReuse_refines h hpop
    · rename_i q₁ hpop
      obtain rfl := popFromFreeListLocked_none h hpop
      exact .refl

theorem finish_after {before : Move ℕ → Prop} (hbefore : ∀ m, before m → reuses m)
    (hsection : Refines before q q') (a : Allocation)
    (hfresh : q.bufferQueueCache.find a.sequence = none) (point : ReusePoint) :
    Refines (fun m => before m ∨ adopts [a.sequence] m) q (q'.finishRequest a point).2 := by
  have habsent := Refines.absent hsection (fun m hm => ne_of_reuses (hbefore m hm) a.sequence)
    hfresh
  exact (hsection.mono fun _ => Or.inl).trans
    ((finishRequest_refines a habsent point).mono fun _ => Or.inr)

theorem requestBufferLocked_refines (h : q.Agrees) (config : BufferRequestConfig)
    (a : Allocation) (hfresh : q.bufferQueueCache.find a.sequence = none) :
    Refines (requests [a.sequence]) q (q.requestBufferLocked config a false).2 := by
  unfold requestBufferLocked
  split
  · exact .refl
  · rename_i updateConfig _
    have hbody := requestBufferBody_refines h updateConfig
    split
    · rename_i point q₁ hb
      rw [hb] at hbody
      exact finish_after (fun _ => id) hbody a hfresh point
    · rename_i config' q₁ hb
      rw [hb] at hbody
      have hwait := hbody.trans ((reuseBufferForBlockMode_refines
        (hbody.agrees h) config').mono fun _ => reuses_of_lends)
      exact finish_after (fun _ => id) hwait a hfresh _

theorem requestBufferLocked_refines_block (h : q.Agrees) (hblock : !q.requestBufferNoBlockMode)
    (config : BufferRequestConfig) (a : Allocation)
    (hfresh : q.bufferQueueCache.find a.sequence = none) :
    Refines (requestsBlocking [a.sequence]) q (q.requestBufferLocked config a false).2 := by
  unfold requestBufferLocked
  split
  · exact .refl
  · rename_i updateConfig _
    have hbody := requestBufferBody_refines_block h hblock updateConfig
    split
    · rename_i point q₁ hb
      rw [hb] at hbody
      exact finish_after (fun _ => reuses_of_lends) hbody a hfresh point
    · rename_i config' q₁ hb
      rw [hb] at hbody
      have hwait := hbody.trans (reuseBufferForBlockMode_refines (hbody.agrees h) config')
      exact finish_after (fun _ => reuses_of_lends) hwait a hfresh _

theorem requestBuffersLoop_refines (h : q.Agrees) (config : BufferRequestConfig)
    (as : List Allocation) (hnodup : (as.map (·.sequence)).Nodup)
    (hfresh : ∀ a ∈ as, q.bufferQueueCache.find a.sequence = none) :
    Refines (requests (as.map (·.sequence))) q (q.requestBuffersLoop config as).2.2 := by
  induction as generalizing q with
  | nil => exact .refl
  | cons a as ih =>
    rw [List.map_cons, List.nodup_cons] at hnodup
    have hone := requestBufferLocked_refines h config a (hfresh a List.mem_cons_self)
    have hone' : Refines (requests (a.sequence :: as.map (·.sequence))) q
        (q.requestBufferLocked config a false).2 :=
      hone.mono fun _ => Or.imp_right (adopts_mono (by simp))
    unfold requestBuffersLoop requestBuffer
    dsimp only
    split_ifs
    · exact hone'
    · refine hone'.trans ((ih (hone.agrees h) hnodup.2 fun b hb => ?_).mono fun _ =>
        Or.imp_right (adopts_mono (by simp)))
      have hne : b.sequence ≠ a.sequence := by
        rintro heq
        exact hnodup.1 (heq ▸ List.mem_map_of_mem hb)
      exact Refines.absent hone (fun m hm => ne_of_requests hm (by simpa using hne))
        (hfresh b (List.mem_cons_of_mem a hb))

end BufferQueue

end GraphicSurface
