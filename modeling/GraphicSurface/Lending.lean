import GraphicSurface.ConsumeMoves
import GraphicSurface.Replies

/-! What a request does to the entries of the cache, one by one. It takes an entry that is free or
waiting for the consumer and gives it to the producer; it may delete such an entry and insert a
new one. A buffer that is out with somebody keeps its state, its `isDeleting` flag and the pid of
the listener's client that it was handed to. -/

namespace GraphicSurface

namespace BufferElement

/-- The entry waits in one of the two lists. -/
def Parked (e : BufferElement) : Prop := e.state = .released ∨ e.state = .flushed

structure SameCore (e e' : BufferElement) : Prop where
  state : e'.state = e.state
  isDeleting : e'.isDeleting = e.isDeleting
  pid : e'.requestedFromListenerClientPid = e.requestedFromListenerClientPid

theorem SameCore.refl (e : BufferElement) : SameCore e e := ⟨rfl, rfl, rfl⟩

theorem SameCore.trans {e e₁ e₂ : BufferElement} (h₁ : SameCore e e₁) (h₂ : SameCore e₁ e₂) :
    SameCore e e₂ :=
  ⟨h₂.state.trans h₁.state, h₂.isDeleting.trans h₁.isDeleting, h₂.pid.trans h₁.pid⟩

/-- With `keep` the pid of a buffer that is lent stays as it was too. -/
def Lent (keep : Bool) (e e' : BufferElement) : Prop :=
  SameCore e e' ∨
    (e.Parked ∧ e'.state = .requested ∧ (e.isDeleting = false → e'.isDeleting = false) ∧
      (keep → e'.requestedFromListenerClientPid = e.requestedFromListenerClientPid))

/-- An entry as `AllocBuffer` inserts it. -/
structure Born (e' : BufferElement) : Prop where
  state : e'.state = .requested
  isDeleting : e'.isDeleting = false
  pid : e'.requestedFromListenerClientPid = 0

theorem Lent.trans {keep : Bool} {e e₁ e₂ : BufferElement} (h₁ : Lent keep e e₁)
    (h₂ : Lent keep e₁ e₂) : Lent keep e e₂ := by
  rcases h₁ with h₁ | ⟨hparked, hstate, hdel, hpid⟩
  · rcases h₂ with h₂ | ⟨hparked, hstate, hdel, hpid⟩
    · exact .inl (h₁.trans h₂)
    · refine .inr ⟨?_, hstate, fun h => hdel (h₁.isDeleting.trans h),
        fun hkeep => (hpid hkeep).trans h₁.pid⟩
      rwa [Parked, h₁.state] at hparked
  · rcases h₂ with h₂ | ⟨hparked', -⟩
    · exact .inr ⟨hparked, h₂.state.trans hstate, fun h => h₂.isDeleting.trans (hdel h),
        fun hkeep => h₂.pid.trans (hpid hkeep)⟩
    · simp [Parked, hstate] at hparked'

theorem Born.lent {keep : Bool} {e e' : BufferElement} (h : e.Born) (hlent : Lent keep e e') :
    e'.Born := by
  rcases hlent with hcore | ⟨hparked, -⟩
  · exact ⟨hcore.state.trans h.state, hcore.isDeleting.trans h.isDeleting, hcore.pid.trans h.pid⟩
  · simp [Parked, h.state] at hparked

theorem Lent.isDeleting {keep : Bool} {e e' : BufferElement} (h : Lent keep e e')
    (hdel : e.isDeleting = false) : e'.isDeleting = false := by
  rcases h with h | h
  · exact h.isDeleting.trans hdel
  · exact h.2.2.1 hdel

end BufferElement

open BufferElement

/-- Between `q` and `q'` entries were only lent, deleted out of a list, or born. -/
structure Lends (keep : Bool) (q q' : BufferQueue) : Prop where
  kept : ∀ k e, q.bufferQueueCache.find k = some e → ¬ e.Parked →
    ∃ e', q'.bufferQueueCache.find k = some e' ∧ SameCore e e'
  made : ∀ k e', q'.bufferQueueCache.find k = some e' →
    (∃ e, q.bufferQueueCache.find k = some e ∧ Lent keep e e') ∨ e'.Born

namespace Lends

variable {keep : Bool} {q q₁ q₂ : BufferQueue} {sequence : ℕ} {e : BufferElement}

theorem of_cache (h : q₁.bufferQueueCache = q.bufferQueueCache) : Lends keep q q₁ where
  kept k e he _ := ⟨e, by rw [h, he], .refl e⟩
  made k e' he' := .inl ⟨e', by rw [← h, he'], .inl (.refl e')⟩

theorem refl : Lends keep q q := of_cache rfl

theorem trans (h₁ : Lends keep q q₁) (h₂ : Lends keep q₁ q₂) : Lends keep q q₂ where
  kept k e he hout := by
    obtain ⟨e₁, he₁, hcore₁⟩ := h₁.kept k e he hout
    have hout₁ : ¬ e₁.Parked := by rwa [Parked, hcore₁.state]
    obtain ⟨e₂, he₂, hcore₂⟩ := h₂.kept k e₁ he₁ hout₁
    exact ⟨e₂, he₂, hcore₁.trans hcore₂⟩
  made k e₂ he₂ := by
    rcases h₂.made k e₂ he₂ with ⟨e₁, he₁, hlent₂⟩ | hborn
    · rcases h₁.made k e₁ he₁ with ⟨e, he, hlent₁⟩ | hborn
      · exact .inl ⟨e, he, hlent₁.trans hlent₂⟩
      · exact .inr (hborn.lent hlent₂)
    · exact .inr hborn

theorem of_parked (hother : ∀ k, k ≠ sequence → q₁.bufferQueueCache.find k =
      q.bufferQueueCache.find k)
    (he : q.bufferQueueCache.find sequence = some e) (hparked : e.Parked)
    (hlent : ∀ e', q₁.bufferQueueCache.find sequence = some e' → Lent keep e e') : Lends keep q q₁ where
  kept k e' he' hout := by
    by_cases hk : k = sequence
    · subst hk
      rw [he, Option.some.injEq] at he'
      exact absurd (he' ▸ hparked) hout
    · exact ⟨e', by rw [hother k hk, he'], .refl e'⟩
  made k e' he' := by
    by_cases hk : k = sequence
    · subst hk
      exact .inl ⟨e, he, hlent e' he'⟩
    · exact .inl ⟨e', by rw [← hother k hk, he'], .inl (.refl e')⟩

theorem of_core {e' : BufferElement} (hother : ∀ k, k ≠ sequence →
      q₁.bufferQueueCache.find k = q.bufferQueueCache.find k)
    (he : q.bufferQueueCache.find sequence = some e)
    (he' : q₁.bufferQueueCache.find sequence = some e') (hcore : SameCore e e') : Lends keep q q₁ where
  kept k e₀ he₀ _ := by
    by_cases hk : k = sequence
    · subst hk
      rw [he, Option.some.injEq] at he₀
      exact ⟨e', he', he₀ ▸ hcore⟩
    · exact ⟨e₀, by rw [hother k hk, he₀], .refl e₀⟩
  made k e₀ he₀ := by
    by_cases hk : k = sequence
    · subst hk
      rw [he', Option.some.injEq] at he₀
      exact .inl ⟨e, he, .inl (he₀ ▸ hcore)⟩
    · exact .inl ⟨e₀, by rw [← hother k hk, he₀], .inl (.refl e₀)⟩

theorem of_modify {f : BufferElement → BufferElement}
    (hf : ∀ e, (f e).buffer.seqNum = e.buffer.seqNum) (hcore : ∀ e, SameCore e (f e))
    (h : q₁.bufferQueueCache = q.bufferQueueCache.modify sequence f hf) : Lends keep q q₁ where
  kept k e he _ := by
    by_cases hk : sequence = k
    · exact ⟨f e, by simp [h, hk, he], hcore e⟩
    · exact ⟨e, by simp [h, hk, he], .refl e⟩
  made k e' he' := by
    rw [h, BufferCache.find_modify] at he'
    split_ifs at he' with hk
    · obtain ⟨e, he, rfl⟩ := Option.map_eq_some_iff.mp he'
      exact .inl ⟨e, he, .inl (hcore e)⟩
    · exact .inl ⟨e', he', .inl (.refl e')⟩

theorem of_put (habsent : q.bufferQueueCache.find e.buffer.seqNum = none) (hborn : e.Born)
    (h : q₁.bufferQueueCache = q.bufferQueueCache.put e) : Lends keep q q₁ where
  kept k e₀ he₀ _ := by
    have hk : e.buffer.seqNum ≠ k := by
      rintro rfl
      simp [habsent] at he₀
    exact ⟨e₀, by simp [h, hk, he₀], .refl e₀⟩
  made k e' he' := by
    rw [h, BufferCache.find_put] at he'
    split_ifs at he' with hk
    · rw [Option.some.injEq] at he'
      exact .inr (he' ▸ hborn)
    · exact .inl ⟨e', he', .inl (.refl e')⟩

theorem parked_back (h : Lends keep q q₁) {k : ℕ} {e₁ : BufferElement}
    (he₁ : q₁.bufferQueueCache.find k = some e₁) (hparked : e₁.Parked) :
    ∃ e, q.bufferQueueCache.find k = some e ∧ e.Parked := by
  rcases h.made k e₁ he₁ with ⟨e, he, hcore | ⟨-, hstate, -⟩⟩ | hborn
  · exact ⟨e, he, by rwa [Parked, hcore.state] at hparked⟩
  · simp [Parked, hstate] at hparked
  · simp [Parked, hborn.state] at hparked

theorem not_deleting (h : Lends keep q q₁)
    (hq : ∀ k e, q.bufferQueueCache.find k = some e → e.isDeleting = false) :
    ∀ k e, q₁.bufferQueueCache.find k = some e → e.isDeleting = false := by
  intro k e' he'
  rcases h.made k e' he' with ⟨e, he, hlent⟩ | hborn
  · exact hlent.isDeleting (hq k e he)
  · exact hborn.isDeleting

end Lends

/-- The reply of a section that hands a buffer out names a buffer that was parked before it. -/
def ReusePoint.Took (q : BufferQueue) : ReusePoint → Prop
  | .done reply => reply.ret = .ok →
    ∃ e, q.bufferQueueCache.find reply.retval.sequence = some e ∧ e.Parked
  | .setupNewBuffer _ | .reallocBuffer _ => True

def RequestPoint.Took (q : BufferQueue) : RequestPoint → Prop
  | .reached point => point.Took q
  | .waitReq _ => True

theorem ReusePoint.Took.error {q : BufferQueue} {ret : GSError} (hret : ret ≠ .ok) :
    (ReusePoint.done (.error ret)).Took q := fun h => absurd h hret

namespace BufferQueue

variable {keep : Bool} {q q' : BufferQueue} {sequence : ℕ} {e : BufferElement}

theorem find_deleteNoWait (q : BufferQueue) (sequence k : ℕ) :
    (q.deleteBufferInCacheNoWaitForAllocatingState sequence).bufferQueueCache.find k =
      if sequence = k then none else q.bufferQueueCache.find k := by
  unfold deleteBufferInCacheNoWaitForAllocatingState
  split
  · rename_i hnone
    split_ifs with hk
    · rw [← hk, hnone]
    · rfl
  · split <;> simp

theorem find_updateReuse_other (needRealloc listener : Bool)
    (he : q.bufferQueueCache.find sequence = some e) {k : ℕ} (hk : k ≠ sequence) :
    (q.updateReuseBufferState needRealloc sequence listener).2.bufferQueueCache.find k =
      q.bufferQueueCache.find k := by
  unfold updateReuseBufferState
  rw [he]
  dsimp only
  split_ifs <;>
    simp [markRequested, addDeletingBuffersLocked, putBack, deliverObject, Ne.symm hk]

/-- The entry that `UpdateReuseBufferState` leaves behind. -/
theorem find_updateReuse_self (needRealloc listener : Bool)
    (he : q.bufferQueueCache.find sequence = some e) :
    ∃ e', (q.updateReuseBufferState needRealloc sequence listener).2.bufferQueueCache.find sequence =
        some e' ∧ e'.isDeleting = e.isDeleting ∧
      e'.requestedFromListenerClientPid = e.requestedFromListenerClientPid ∧
      (e'.state = .requested ∨ listener = true ∧ e'.state = .released) := by
  unfold updateReuseBufferState
  rw [he]
  dsimp only
  split_ifs with _ hlistener
  · exact ⟨(e.setState .requested).setState .released,
      by simp [addDeletingBuffersLocked, markRequested, putBack, he], rfl, rfl, .inr ⟨hlistener, rfl⟩⟩
  · exact ⟨(e.setState .requested).setDelivered,
      by simp [addDeletingBuffersLocked, markRequested, deliverObject, he], rfl, rfl, .inl rfl⟩
  · exact ⟨e.setState .requested, by simp [addDeletingBuffersLocked, markRequested, he], rfl, rfl,
      .inl rfl⟩

/-- `UpdateReuseBufferState` on a parked buffer; the listener is only offered free ones. -/
theorem updateReuse_lends {needRealloc listener : Bool}
    (he : q.bufferQueueCache.find sequence = some e) (hparked : e.Parked)
    (hlistener : listener = true → e.state = .released) :
    Lends keep q (q.updateReuseBufferState needRealloc sequence listener).2 := by
  obtain ⟨e₁, he₁, hdeleting, hpid, hstate⟩ := find_updateReuse_self needRealloc listener he
  refine .of_parked (fun k hk => find_updateReuse_other needRealloc listener he hk) he hparked
    fun e' he' => ?_
  rw [he₁, Option.some.injEq] at he'
  subst he'
  rcases hstate with hstate | ⟨hl, hstate⟩
  · exact .inr ⟨hparked, hstate, hdeleting.trans, fun _ => hpid⟩
  · exact .inl ⟨hstate.trans (hlistener hl).symm, hdeleting, hpid⟩

theorem updateReuse_lends_requested (needRealloc : Bool)
    (he : q.bufferQueueCache.find sequence = some e) (hs : e.state = .requested) :
    Lends keep q (q.updateReuseBufferState needRealloc sequence false).2 := by
  obtain ⟨e₁, he₁, hdeleting, hpid, hstate⟩ := find_updateReuse_self needRealloc false he
  refine .of_core (fun k hk => find_updateReuse_other needRealloc false he hk) he he₁
    ⟨?_, hdeleting, hpid⟩
  rcases hstate with hstate | ⟨hl, -⟩
  · rw [hstate, hs]
  · cases hl

theorem reuseBuffer_lends {config : BufferRequestConfig} {buffer : SurfaceBuffer}
    {listener : Bool} (he : q.bufferQueueCache.find buffer.seqNum = some e) (hparked : e.Parked)
    (hlistener : listener = true → e.state = .released) :
    Lends keep q (q.reuseBuffer config buffer listener).2 := by
  unfold reuseBuffer
  rw [he]
  dsimp only
  split
  · exact updateReuse_lends he hparked hlistener
  · split
    · exact .of_cache rfl
    · refine .of_parked (fun k hk => ?_) he hparked fun e' he' => ?_
      · exact (find_deleteNoWait q buffer.seqNum k).trans (if_neg (Ne.symm hk))
      · have hnone := find_deleteNoWait q buffer.seqNum buffer.seqNum
        rw [if_pos rfl] at hnone
        change (q.deleteBufferInCacheNoWaitForAllocatingState buffer.seqNum).bufferQueueCache.find
          buffer.seqNum = some e' at he'
        simp [hnone] at he'

theorem pop_lends (h : q.Agrees) {config : BufferRequestConfig} {buffer : SurfaceBuffer}
    (hp : q.popFromFreeListLocked config = (some buffer, q')) :
    Lends keep q q' ∧ ∃ e, q'.bufferQueueCache.find buffer.seqNum = some e ∧ e.state = .released := by
  have hmem : buffer.seqNum ∈ q.freeList := by
    obtain ⟨order, cache, -, hperm, -, -⟩ := popFromFreeListLocked_some h hp
    exact hperm.subset List.mem_cons_self
  obtain ⟨e, he, hs⟩ := h.state_of_mem_free hmem
  unfold popFromFreeListLocked at hp
  split at hp
  · obtain ⟨_, rfl⟩ := Prod.mk.inj hp
    exact ⟨.of_cache rfl, e, he, hs⟩
  · split at hp
    · cases hp
    unfold popFrontFree at hp
    split at hp
    · cases hp
    · rename_i front rest _
      split at hp
      · cases hp
      · rename_i e' he'
        obtain ⟨hbuffer, rfl⟩ := Prod.mk.inj hp
        have hseq : buffer.seqNum = front := by
          rw [← Option.some.inj hbuffer, BufferElement.recolour_seqNum]
          exact BufferCache.seqNum_of_find he'
        refine ⟨.of_modify (BufferElement.recolour_seqNum config.colorGamut config.transform)
          (fun e => ⟨rfl, rfl, rfl⟩) rfl, e.recolour config.colorGamut config.transform, ?_, hs⟩
        simp [hseq, hseq ▸ he]

theorem popAndReuse_lends (h : q.Agrees) {config config' : BufferRequestConfig}
    {buffer : SurfaceBuffer} (hp : q.popFromFreeListLocked config = (some buffer, q'))
    (listener : Bool) : Lends keep q (q'.reuseBuffer config' buffer listener).2 := by
  obtain ⟨hlends, e, he, hs⟩ := pop_lends h hp
  exact hlends.trans (reuseBuffer_lends he (.inl hs) fun _ => hs)

theorem reuseBufferForBlockMode_lends (h : q.Agrees) (config : BufferRequestConfig) :
    Lends keep q (q.reuseBufferForBlockMode config).2 := by
  unfold reuseBufferForBlockMode
  split
  · exact .refl
  · split
    · rename_i buffer q₁ hpop
      exact popAndReuse_lends h hpop false
    · rename_i q₁ hpop
      obtain rfl := popFromFreeListLocked_none h hpop
      exact .refl

theorem reuseBufferForNoBlockMode_lends (h : q.Agrees) (config : BufferRequestConfig) :
    Lends keep q (q.reuseBufferForNoBlockMode config).2 := by
  unfold reuseBufferForNoBlockMode
  split
  · rename_i buffer q₁ hpop
    obtain ⟨rest, e, hdirty, he, rfl, rfl⟩ := popFromDirtyListLocked_some hpop
    obtain ⟨e', he', hs⟩ := h.state_of_mem_dirty (k := e.buffer.seqNum) (by simp [hdirty])
    rw [he, Option.some.injEq] at he'
    subst he'
    dsimp only
    have hrecolour : Lends keep q { q with
        dirtyList := rest
        bufferQueueCache := q.bufferQueueCache.modify e.buffer.seqNum
          (BufferElement.recolour config.colorGamut config.transform)
          (BufferElement.recolour_seqNum _ _) } :=
      .of_modify (BufferElement.recolour_seqNum config.colorGamut config.transform)
        (fun e => ⟨rfl, rfl, rfl⟩) rfl
    refine hrecolour.trans ?_
    refine reuseBuffer_lends (e := e.recolour config.colorGamut config.transform) ?_ (.inr hs)
      (by simp)
    change BufferCache.find _ e.buffer.seqNum = _
    simp [he]
  · rename_i q₁ hpop
    obtain ⟨rfl, _⟩ := popFromDirtyListLocked_none h hpop
    exact .refl

theorem requestBufferBody_lends (h : q.Agrees) (config : BufferRequestConfig) (listener : Bool) :
    Lends keep q (q.requestBufferBody config listener).2 := by
  unfold requestBufferBody
  dsimp only
  split
  · split
    · rename_i buffer q₁ hpop
      exact popAndReuse_lends h hpop listener
    · rename_i q₁ hpop
      obtain rfl := popFromFreeListLocked_none h hpop
      split
      · exact .refl
      · split
        · split
          · exact .refl
          · exact reuseBufferForNoBlockMode_lends h config
        · exact .of_cache rfl
  · exact .of_cache rfl

theorem allocBufferEnd_lends (job : AllocJob) (a : Allocation)
    (hfresh : q.bufferQueueCache.find a.sequence = none) :
    Lends keep q (q.allocBufferEnd job a).2 := by
  unfold allocBufferEnd
  dsimp only
  split
  · exact .of_put (e := job.element a) hfresh ⟨rfl, rfl, rfl⟩ rfl
  · exact .of_cache rfl

theorem finishRequest_lends (a : Allocation) (hfresh : q.bufferQueueCache.find a.sequence = none)
    (point : ReusePoint) : Lends keep q (q.finishRequest a point).2 := by
  cases point with
  | done reply => exact .refl
  | setupNewBuffer job =>
    have halloc : Lends keep q (q.allocBufferEnd job a).2 := allocBufferEnd_lends job a hfresh
    unfold finishRequest
    dsimp only
    split
    · rename_i q₁ h
      rw [h] at halloc
      exact halloc
    · rename_i b q₁ h
      rw [h] at halloc
      exact halloc.trans (.of_cache rfl)
  | reallocBuffer job =>
    have halloc : Lends keep q (q.allocBufferEnd job a).2 := allocBufferEnd_lends job a hfresh
    have hcases := pool_allocBufferEnd job a hfresh
    unfold finishRequest
    dsimp only
    split
    · rename_i q₁ h
      rw [h] at halloc
      exact halloc
    · rename_i b q₁ h
      rw [h] at halloc hcases
      obtain ⟨hb, hcache, -⟩ : some b = some (job.element a).buffer ∧
          q₁.bufferQueueCache = q.bufferQueueCache.put (job.element a) ∧
          q₁.pool = (SlotPool.Move.adopt a.sequence).apply q.pool := by
        simpa using hcases
      cases hb
      exact halloc.trans (updateReuse_lends_requested true (e := job.element a)
        (by simp [hcache]) rfl)

theorem sequence_updateReuse (needRealloc listener : Bool)
    (he : q.bufferQueueCache.find sequence = some e) :
    (q.updateReuseBufferState needRealloc sequence listener).1.retval.sequence = sequence := by
  unfold updateReuseBufferState
  rw [he]
  dsimp only
  split_ifs <;> rfl

theorem sequence_finishRequest (q : BufferQueue) (a : Allocation) {point : ReusePoint}
    (hpoint : ∀ reply, point ≠ .done reply) (hok : (q.finishRequest a point).1.ret = .ok) :
    (q.finishRequest a point).1.retval.sequence = a.sequence := by
  cases point with
  | done reply => exact absurd rfl (hpoint reply)
  | setupNewBuffer job =>
    unfold finishRequest allocBufferEnd at hok ⊢
    dsimp only at hok ⊢
    split at hok
    · simp [RequestReply.error] at hok
    · rename_i b q₁ hb
      split at hb
      · cases hb
        rfl
      · cases hb
  | reallocBuffer job =>
    unfold finishRequest allocBufferEnd at hok ⊢
    dsimp only at hok ⊢
    split at hok
    · simp [RequestReply.error] at hok
    · rename_i b q₁ hb
      split at hb
      · cases hb
        exact sequence_updateReuse true false (e := job.element a)
          (by simp [AllocJob.element, BufferElement.init, SurfaceBuffer.allocated])
      · cases hb

theorem reuseBuffer_took {config : BufferRequestConfig} {buffer : SurfaceBuffer} {listener : Bool}
    {p : BufferQueue} (hp : ∃ e, p.bufferQueueCache.find buffer.seqNum = some e ∧ e.Parked)
    (he : q.bufferQueueCache.find buffer.seqNum = some e) :
    (q.reuseBuffer config buffer listener).1.Took p := by
  unfold reuseBuffer
  rw [he]
  dsimp only
  split
  · intro _
    rw [sequence_updateReuse false listener he]
    exact hp
  · split
    · exact .error (by simp)
    · trivial

theorem popAndReuse_took (h : q.Agrees) {config config' : BufferRequestConfig}
    {buffer : SurfaceBuffer} (hp : q.popFromFreeListLocked config = (some buffer, q'))
    (listener : Bool) : (q'.reuseBuffer config' buffer listener).1.Took q := by
  obtain ⟨hlends, e', he', hs'⟩ : Lends true q q' ∧ _ := pop_lends h hp
  refine reuseBuffer_took ?_ he'
  rcases hlends.made _ _ he' with ⟨e, he, hlent | ⟨hparked, -⟩⟩ | hborn
  · exact ⟨e, he, .inl (hlent.state.symm.trans hs')⟩
  · exact ⟨e, he, hparked⟩
  · simp [hborn.state] at hs'

theorem reuseBufferForBlockMode_took (h : q.Agrees) (config : BufferRequestConfig) :
    (q.reuseBufferForBlockMode config).1.Took q := by
  unfold reuseBufferForBlockMode
  split
  · exact ReusePoint.Took.error (by simp)
  · split
    · rename_i buffer q₁ hpop
      exact popAndReuse_took h hpop false
    · exact ReusePoint.Took.error (by simp)

theorem reuseBufferForNoBlockMode_took (h : q.Agrees) (config : BufferRequestConfig) :
    (q.reuseBufferForNoBlockMode config).1.Took q := by
  unfold reuseBufferForNoBlockMode
  split
  · rename_i buffer q₁ hpop
    obtain ⟨rest, e, hdirty, he, rfl, rfl⟩ := popFromDirtyListLocked_some hpop
    obtain ⟨e', he', hs⟩ := h.state_of_mem_dirty (k := e.buffer.seqNum) (by simp [hdirty])
    refine reuseBuffer_took (e := e.recolour config.colorGamut config.transform)
      ⟨e', he', .inr hs⟩ ?_
    change BufferCache.find _ e.buffer.seqNum = _
    simp [he]
  · exact ReusePoint.Took.error (by simp)

theorem requestBufferBody_took (h : q.Agrees) (config : BufferRequestConfig) (listener : Bool) :
    (q.requestBufferBody config listener).1.Took q := by
  unfold requestBufferBody
  dsimp only
  split
  · split
    · rename_i buffer q₁ hpop
      exact popAndReuse_took h hpop listener
    · rename_i q₁ hpop
      obtain rfl := popFromFreeListLocked_none h hpop
      split
      · exact ReusePoint.Took.error (by simp)
      · split
        · split
          · trivial
          · exact reuseBufferForNoBlockMode_took h config
        · trivial
  · trivial

theorem requestBufferBody_waits (h : q.Agrees) {config config' : BufferRequestConfig}
    {listener : Bool} (hb : q.requestBufferBody config listener = (.waitReq config', q')) :
    q' = q := by
  unfold requestBufferBody at hb
  dsimp only at hb
  split at hb
  · split at hb
    · cases hb
    · rename_i q₁ hpop
      obtain rfl := popFromFreeListLocked_none h hpop
      split at hb
      · cases hb
      · split at hb
        · split at hb
          · exact (Prod.mk.inj hb).2.symm
          · cases hb
        · cases hb
  · cases hb

theorem requestBufferLocked_lends (h : q.Agrees) (config : BufferRequestConfig) (a : Allocation)
    (hfresh : q.bufferQueueCache.find a.sequence = none) :
    Lends keep q (q.requestBufferLocked config a false).2 := by
  unfold requestBufferLocked
  split
  · exact .refl
  · rename_i updateConfig _
    have hlends : Lends keep q (q.requestBufferBody updateConfig false).2 :=
      requestBufferBody_lends h updateConfig false
    have habsent := (requestBufferBody_refines h updateConfig).absent
      (fun m hm => ne_of_reuses hm a.sequence) hfresh
    split
    · rename_i point q₁ hb
      rw [hb] at hlends habsent
      exact hlends.trans (finishRequest_lends a habsent point)
    · rename_i config' q₁ hb
      obtain rfl := requestBufferBody_waits h hb
      have habsent' := (reuseBufferForBlockMode_refines h config').absent
        (fun m hm => ne_of_reuses (reuses_of_lends hm) a.sequence) hfresh
      exact (reuseBufferForBlockMode_lends h config').trans (finishRequest_lends a habsent' _)

theorem requestBufferLocked_took (h : q.Agrees) (config : BufferRequestConfig) (a : Allocation)
    (hok : (q.requestBufferLocked config a false).1.ret = .ok) :
    (∃ e, q.bufferQueueCache.find (q.requestBufferLocked config a false).1.retval.sequence =
        some e ∧ e.Parked) ∨
      (q.requestBufferLocked config a false).1.retval.sequence = a.sequence := by
  have hpoint {p : BufferQueue} {point : ReusePoint} (htook : point.Took q)
      (hret : (p.finishRequest a point).1.ret = .ok) :
      (∃ e, q.bufferQueueCache.find (p.finishRequest a point).1.retval.sequence = some e ∧
          e.Parked) ∨ (p.finishRequest a point).1.retval.sequence = a.sequence := by
    cases point with
    | done reply => exact .inl (htook hret)
    | setupNewBuffer job => exact .inr (sequence_finishRequest p a (by simp) hret)
    | reallocBuffer job => exact .inr (sequence_finishRequest p a (by simp) hret)
  revert hok
  unfold requestBufferLocked
  split
  · rename_i ret hcheck
    exact fun hok => absurd hok (requestBufferCheck_error hcheck)
  · rename_i updateConfig _
    have htook := requestBufferBody_took h updateConfig false
    split
    · rename_i point q₁ hb
      rw [hb] at htook
      exact hpoint htook
    · rename_i config' q₁ hb
      obtain rfl := requestBufferBody_waits h hb
      exact hpoint (reuseBufferForBlockMode_took h config')

theorem setRequestedFromListener_lends (hlends : Lends false q q')
    (htook : ∃ e, q.bufferQueueCache.find sequence = some e ∧ e.Parked)
    (hmarked : ∃ e', q'.bufferQueueCache.find sequence = some e' ∧ e'.state = .requested) :
    Lends false q (q'.setRequestedFromListener sequence) := by
  obtain ⟨e, he, hparked⟩ := htook
  obtain ⟨e', he', hs'⟩ := hmarked
  have hfind (k : ℕ) : (q'.setRequestedFromListener sequence).bufferQueueCache.find k =
      if sequence = k then (q'.bufferQueueCache.find k).map
        (BufferElement.setRequestedFromListener q'.listenerSeqAndFenceCallingPid)
      else q'.bufferQueueCache.find k :=
    BufferCache.find_modify _ _ _ _ (BufferElement.setRequestedFromListener_seqNum _)
  refine ⟨fun k e₀ he₀ hout => ?_, fun k e₁ he₁ => ?_⟩
  · have hk : sequence ≠ k := by
      rintro rfl
      rw [he, Option.some.injEq] at he₀
      exact hout (he₀ ▸ hparked)
    obtain ⟨e₁, he₁, hcore⟩ := hlends.kept k e₀ he₀ hout
    exact ⟨e₁, by rw [hfind, if_neg hk, he₁], hcore⟩
  · rw [hfind] at he₁
    split_ifs at he₁ with hk
    · subst hk
      rw [he', Option.map_some, Option.some.injEq] at he₁
      subst he₁
      refine .inl ⟨e, he, .inr ⟨hparked, hs', fun hdel => ?_, by simp⟩⟩
      rcases hlends.made _ _ he' with ⟨e₂, he₂, hlent⟩ | hborn
      · rw [he, Option.some.injEq] at he₂
        exact hlent.isDeleting (he₂ ▸ hdel)
      · exact hborn.isDeleting
    · exact hlends.made k e₁ he₁

theorem requestForListener_lends (h : q.Agrees) (config : BufferRequestConfig) :
    Lends keep q (q.requestBufferLocked config noAllocation true).2 ∧
      ((q.requestBufferLocked config noAllocation true).1.ret = .ok →
        ∃ e, q.bufferQueueCache.find
          (q.requestBufferLocked config noAllocation true).1.retval.sequence = some e ∧
            e.Parked) := by
  unfold requestBufferLocked
  split
  · rename_i ret hcheck
    exact ⟨.refl, fun hok => absurd hok (requestBufferCheck_error hcheck)⟩
  · rename_i updateConfig _
    have hlends : Lends keep q (q.requestBufferBody updateConfig true).2 :=
      requestBufferBody_lends h updateConfig true
    have htook := requestBufferBody_took h updateConfig true
    obtain ⟨reply, hdone⟩ := requestBufferBody_listener_done q updateConfig
    split
    · rename_i point q₁ hb
      rw [hb] at hlends htook hdone
      cases hdone
      exact ⟨hlends, htook⟩
    · rename_i config' q₁ hb
      rw [hb] at hdone
      cases hdone

theorem handOut_lends (h : q.Agrees) (fuel : ℕ) (configs : List BufferRequestConfig) :
    Lends false q (q.handOut fuel configs).2 := by
  induction fuel generalizing q configs with
  | zero => exact .refl
  | succ fuel ih =>
    cases configs with
    | nil => exact .refl
    | cons config configs =>
      obtain ⟨hlends, htook⟩ := requestForListener_lends h config
      have hagrees := (requestBufferLocked_refines_listener h config noAllocation).agrees h
      have hsound := requestBufferLocked_sound q config noAllocation true
      unfold handOut
      dsimp only
      split
      · rename_i hret
        have hmark := setRequestedFromListener_lends hlends (htook hret) (hsound.marked hret)
        have hagrees' : ((q.requestBufferLocked config noAllocation true).2.setRequestedFromListener
            (q.requestBufferLocked config noAllocation true).1.retval.sequence).Agrees := by
          rw [Agrees, pool_setRequestedFromListener]
          exact hagrees
        exact hmark.trans (ih hagrees' _)
      · exact hlends.trans (ih hagrees _)

theorem handOut_took (h : q.Agrees) (fuel : ℕ) (configs : List BufferRequestConfig) :
    ∀ d ∈ (q.handOut fuel configs).1, ∃ e, q.bufferQueueCache.find d.1 = some e ∧ e.Parked := by
  induction fuel generalizing q configs with
  | zero => simp [handOut]
  | succ fuel ih =>
    cases configs with
    | nil => simp [handOut]
    | cons config configs =>
      obtain ⟨hlends, htook⟩ : Lends false q _ ∧ _ := requestForListener_lends h config
      have hagrees := (requestBufferLocked_refines_listener h config noAllocation).agrees h
      have hsound := requestBufferLocked_sound q config noAllocation true
      unfold handOut
      dsimp only
      split
      · rename_i hret
        have hmark := setRequestedFromListener_lends hlends (htook hret) (hsound.marked hret)
        have hagrees' : ((q.requestBufferLocked config noAllocation true).2.setRequestedFromListener
            (q.requestBufferLocked config noAllocation true).1.retval.sequence).Agrees := by
          rw [Agrees, pool_setRequestedFromListener]
          exact hagrees
        intro d hd
        rcases List.mem_cons.mp hd with rfl | hd
        · exact htook hret
        · obtain ⟨e, he, hparked⟩ := ih hagrees' _ d hd
          exact hmark.parked_back he hparked
      · intro d hd
        obtain ⟨e, he, hparked⟩ := ih hagrees _ d hd
        exact hlends.parked_back he hparked

end BufferQueue

end GraphicSurface
