import GraphicSurface.Frames
import GraphicSurface.Lending

/-! What becomes of the entries of the cache, whatever the call. `Buries ins q q'` says that only
the numbers `ins` may enter the cache and that every notice pushed on the way is about a number
that has left it. `Settles` adds, when it is strict, what happens to the entries that stay: a buffer that is condemned
remains so, and no condemned buffer gets into a list. -/

namespace GraphicSurface

open SlotPool BufferElement

structure Buries (ins : List ℕ) (q q' : BufferQueue) : Prop where
  absent : ∀ k, q.bufferQueueCache.find k = none → k ∉ ins → q'.bufferQueueCache.find k = none
  notices : ∃ new, q'.noticed = q.noticed ++ new ∧
    (∀ k ∈ q'.deletingList, k ∈ q.deletingList ∨ k ∈ new) ∧
    ∀ k ∈ new, ((q.bufferQueueCache.find k).isSome ∨ k ∈ ins) ∧ q'.bufferQueueCache.find k = none

namespace Buries

variable {ins ins' : List ℕ} {q q₁ q₂ : BufferQueue} {sequence : ℕ}

theorem of_absent (habsent : ∀ k, q.bufferQueueCache.find k = none → k ∉ ins →
      q₁.bufferQueueCache.find k = none)
    (hnoticed : q₁.noticed = q.noticed) (hdeleting : q₁.deletingList ⊆ q.deletingList) :
    Buries ins q q₁ :=
  ⟨habsent, [], by simp [hnoticed], fun _ hk => .inl (hdeleting hk), by simp⟩

theorem of_cache (hcache : q₁.bufferQueueCache = q.bufferQueueCache)
    (hnoticed : q₁.noticed = q.noticed) (hdeleting : q₁.deletingList ⊆ q.deletingList) :
    Buries ins q q₁ :=
  of_absent (fun k hk _ => by rw [hcache, hk]) hnoticed hdeleting

theorem of_modify {f : BufferElement → BufferElement}
    (hf : ∀ e, (f e).buffer.seqNum = e.buffer.seqNum)
    (hcache : q₁.bufferQueueCache = q.bufferQueueCache.modify sequence f hf)
    (hnoticed : q₁.noticed = q.noticed) (hdeleting : q₁.deletingList ⊆ q.deletingList) :
    Buries ins q q₁ := by
  refine of_absent (fun k hk _ => ?_) hnoticed hdeleting
  rw [hcache, BufferCache.find_modify, hk]
  simp

theorem of_put {e : BufferElement} (hcache : q₁.bufferQueueCache = q.bufferQueueCache.put e)
    (hnoticed : q₁.noticed = q.noticed) (hdeleting : q₁.deletingList ⊆ q.deletingList) :
    Buries [e.buffer.seqNum] q q₁ := by
  refine of_absent (fun k hk hins => ?_) hnoticed hdeleting
  have hne : e.buffer.seqNum ≠ k := fun heq => hins (by simp [heq])
  simp [hcache, hne, hk]

theorem refl : Buries ins q q :=
  of_cache rfl rfl (List.Subset.refl _)

theorem trans (h₁ : Buries ins q q₁) (h₂ : Buries ins' q₁ q₂)
    (hfresh : ∀ k ∈ ins', q.bufferQueueCache.find k = none ∧ k ∉ ins) :
    Buries (ins ++ ins') q q₂ := by
  obtain ⟨new₁, hnoticed₁, hdeleting₁, hgone₁⟩ := h₁.notices
  obtain ⟨new₂, hnoticed₂, hdeleting₂, hgone₂⟩ := h₂.notices
  refine ⟨fun k hk hins => ?_, new₁ ++ new₂, ?_, fun k hk => ?_, fun k hk => ?_⟩
  · rw [List.mem_append, not_or] at hins
    exact h₂.absent k (h₁.absent k hk hins.1) hins.2
  · rw [hnoticed₂, hnoticed₁, List.append_assoc]
  · rw [List.mem_append]
    rcases hdeleting₂ k hk with hk | hk
    · exact (hdeleting₁ k hk).imp_right .inl
    · exact .inr (.inr hk)
  · rcases List.mem_append.mp hk with hk | hk
    · obtain ⟨hold, hnone⟩ := hgone₁ k hk
      refine ⟨hold.imp_right (List.mem_append_left _), h₂.absent k hnone fun hins => ?_⟩
      obtain ⟨hq, hout⟩ := hfresh k hins
      rcases hold with hold | hold
      · simp [hq] at hold
      · exact hout hold
    · obtain ⟨hold, hnone⟩ := hgone₂ k hk
      refine ⟨?_, hnone⟩
      rcases hold with hold | hold
      · by_cases hins : k ∈ ins
        · exact .inr (List.mem_append_left _ hins)
        · refine .inl ?_
          by_contra hq
          rw [h₁.absent k (by simpa using hq) hins] at hold
          cases hold
      · exact .inr (List.mem_append_right _ hold)

theorem after (h₁ : Buries [] q q₁) (h₂ : Buries ins q₁ q₂)
    (hfresh : ∀ k ∈ ins, q.bufferQueueCache.find k = none) : Buries ins q q₂ :=
  h₁.trans h₂ fun k hk => ⟨hfresh k hk, List.not_mem_nil⟩

theorem before (h₁ : Buries ins q q₁) (h₂ : Buries [] q₁ q₂) : Buries ins q q₂ := by
  simpa using h₁.trans h₂ (by simp)

theorem mono (h : Buries ins q q₁) (hsub : ins ⊆ ins') : Buries ins' q q₁ := by
  obtain ⟨new, hnoticed, hdeleting, hgone⟩ := h.notices
  exact ⟨fun k hk hins => h.absent k hk fun hin => hins (hsub hin), new, hnoticed, hdeleting,
    fun k hk => ⟨(hgone k hk).1.imp_right (hsub ·), (hgone k hk).2⟩⟩

end Buries

namespace BufferElement

/-- The buffer is not condemned while it waits in a list. -/
def Clear (e : BufferElement) : Prop := e.isDeleting = true → ¬ e.Parked

def Turns (e e' : BufferElement) : Prop :=
  e.Clear → e'.Clear ∧ (e.isDeleting = true → e'.isDeleting = true)

theorem Turns.refl (e : BufferElement) : Turns e e := fun h => ⟨h, id⟩

theorem Turns.trans {e e₁ e₂ : BufferElement} (h₁ : Turns e e₁) (h₂ : Turns e₁ e₂) :
    Turns e e₂ := fun h =>
  ⟨(h₂ (h₁ h).1).1, fun hdel => (h₂ (h₁ h).1).2 ((h₁ h).2 hdel)⟩

theorem Turns.of_core {e e' : BufferElement} (h : SameCore e e') : Turns e e' := by
  intro hclear
  refine ⟨fun hdel hparked => ?_, fun hdel => h.isDeleting.trans hdel⟩
  rw [Parked, h.state] at hparked
  exact hclear (h.isDeleting ▸ hdel) hparked

theorem Turns.of_held {e e' : BufferElement} (hout : ¬ e'.Parked)
    (hdel : e'.isDeleting = e.isDeleting) : Turns e e' :=
  fun _ => ⟨fun _ => hout, fun h => hdel.trans h⟩

theorem Turns.of_spared {e e' : BufferElement} (he : e.isDeleting = false)
    (hdel : e'.isDeleting = e.isDeleting) : Turns e e' :=
  fun _ => ⟨fun h => absurd (hdel.symm.trans h) (by simp [he]), fun h => hdel.trans h⟩

theorem Clear.of_spared {e : BufferElement} (h : e.isDeleting = false) : e.Clear :=
  fun hdel => absurd hdel (by simp [h])

end BufferElement

structure Settles (strict : Bool) (ins : List ℕ) (q q' : BufferQueue) : Prop
    extends Buries ins q q' where
  entries : strict → ∀ k e e', q.bufferQueueCache.find k = some e → q'.bufferQueueCache.find k = some e' →
    Turns e e'
  made : strict → ∀ k e', q.bufferQueueCache.find k = none → q'.bufferQueueCache.find k = some e' → e'.Clear

namespace Settles

variable {strict : Bool} {ins ins' : List ℕ} {q q₁ q₂ : BufferQueue} {sequence : ℕ}
  {e : BufferElement}

theorem trans (h₁ : Settles strict ins q q₁) (h₂ : Settles strict ins' q₁ q₂)
    (hfresh : ∀ k ∈ ins', q.bufferQueueCache.find k = none ∧ k ∉ ins) :
    Settles strict (ins ++ ins') q q₂ := by
  refine ⟨h₁.toBuries.trans h₂.toBuries hfresh, fun hstrict k e e₂ he he₂ => ?_,
    fun hstrict k e₂ hk he₂ => ?_⟩
  · cases he₁ : q₁.bufferQueueCache.find k with
    | none =>
      by_cases hins : k ∈ ins'
      · simp [(hfresh k hins).1] at he
      · simp [h₂.absent k he₁ hins] at he₂
    | some e₁ =>
      exact (h₁.entries hstrict k e e₁ he he₁).trans (h₂.entries hstrict k e₁ e₂ he₁ he₂)
  · cases he₁ : q₁.bufferQueueCache.find k with
    | none => exact h₂.made hstrict k e₂ he₁ he₂
    | some e₁ => exact (h₂.entries hstrict k e₁ e₂ he₁ he₂ (h₁.made hstrict k e₁ hk he₁)).1

theorem after (h₁ : Settles strict [] q q₁) (h₂ : Settles strict ins q₁ q₂)
    (hfresh : ∀ k ∈ ins, q.bufferQueueCache.find k = none) : Settles strict ins q q₂ :=
  h₁.trans h₂ fun k hk => ⟨hfresh k hk, List.not_mem_nil⟩

theorem before (h₁ : Settles strict ins q q₁) (h₂ : Settles strict [] q₁ q₂) : Settles strict ins q q₂ := by
  simpa using h₁.trans h₂ (by simp)

theorem mono (h : Settles strict ins q q₁) (hsub : ins ⊆ ins') : Settles strict ins' q q₁ :=
  ⟨h.toBuries.mono hsub, h.entries, h.made⟩

theorem of_entries (hburies : Buries [] q q₁)
    (hentries : strict → ∀ k e e', q.bufferQueueCache.find k = some e →
      q₁.bufferQueueCache.find k = some e' → Turns e e') : Settles strict [] q q₁ :=
  ⟨hburies, hentries, fun _ k e' hk he' => by simp [hburies.absent k hk List.not_mem_nil] at he'⟩

theorem of_cache (hcache : q₁.bufferQueueCache = q.bufferQueueCache)
    (hnoticed : q₁.noticed = q.noticed) (hdeleting : q₁.deletingList ⊆ q.deletingList) :
    Settles strict [] q q₁ := by
  refine of_entries (.of_cache hcache hnoticed hdeleting) fun _ k e e' he he' => ?_
  rw [hcache, he, Option.some.injEq] at he'
  exact he' ▸ .refl e

theorem refl : Settles strict [] q q :=
  of_cache rfl rfl (List.Subset.refl _)

theorem of_modify {f : BufferElement → BufferElement}
    (hf : ∀ e, (f e).buffer.seqNum = e.buffer.seqNum)
    (hcache : q₁.bufferQueueCache = q.bufferQueueCache.modify sequence f hf)
    (hturns : strict → ∀ e, q.bufferQueueCache.find sequence = some e → Turns e (f e))
    (hnoticed : q₁.noticed = q.noticed) (hdeleting : q₁.deletingList ⊆ q.deletingList) :
    Settles strict [] q q₁ := by
  refine of_entries (.of_modify hf hcache hnoticed hdeleting) fun hstrict k e e' he he' => ?_
  rw [hcache, BufferCache.find_modify, he] at he'
  split_ifs at he' with hk
  · subst hk
    obtain rfl := Option.some.inj he'
    exact hturns hstrict e he
  · exact Option.some.inj he' ▸ .refl e

theorem of_removed (hburies : Buries [] q q₁)
    (hfind : ∀ k, q₁.bufferQueueCache.find k =
      if sequence = k then none else q.bufferQueueCache.find k) : Settles strict [] q q₁ := by
  refine of_entries hburies fun _ k e e' he he' => ?_
  rw [hfind] at he'
  split_ifs at he'
  rw [he, Option.some.injEq] at he'
  exact he' ▸ .refl e

theorem of_erase (hcache : q₁.bufferQueueCache = q.bufferQueueCache.erase sequence)
    (hnoticed : q₁.noticed = q.noticed) (hdeleting : q₁.deletingList ⊆ q.deletingList) :
    Settles strict [] q q₁ := by
  have hfind (k : ℕ) : q₁.bufferQueueCache.find k =
      if sequence = k then none else q.bufferQueueCache.find k := by
    rw [hcache, BufferCache.find_erase]
  refine of_removed (.of_absent (fun k hk _ => ?_) hnoticed hdeleting) hfind
  rw [hfind, hk]
  simp

theorem of_put (hcache : q₁.bufferQueueCache = q.bufferQueueCache.put e)
    (habsent : q.bufferQueueCache.find e.buffer.seqNum = none) (hclear : e.Clear)
    (hnoticed : q₁.noticed = q.noticed) (hdeleting : q₁.deletingList ⊆ q.deletingList) :
    Settles strict [e.buffer.seqNum] q q₁ := by
  have hfind (k : ℕ) : q₁.bufferQueueCache.find k =
      if e.buffer.seqNum = k then some e else q.bufferQueueCache.find k := by
    rw [hcache, BufferCache.find_put]
  refine ⟨.of_put hcache hnoticed hdeleting, fun _ k e₀ e' he he' => ?_, fun _ k e' hk he' => ?_⟩
  · rw [hfind] at he'
    split_ifs at he' with hk
    · rw [← hk, habsent] at he
      cases he
    · rw [he, Option.some.injEq] at he'
      exact he' ▸ .refl e₀
  · rw [hfind, hk] at he'
    split_ifs at he'
    exact Option.some.inj he' ▸ hclear

theorem of_lends {keep : Bool} (hburies : Buries ins q q₁) (hlends : Lends keep q q₁) :
    Settles strict ins q q₁ := by
  refine ⟨hburies, fun _ k e e' he he' hclear => ?_, fun _ k e' hk he' => ?_⟩
  · by_cases hparked : e.Parked
    · have hspared : e.isDeleting = false := by
        by_contra hdel
        exact hclear (by simpa using hdel) hparked
      refine ⟨?_, fun hdel => absurd hdel (by simp [hspared])⟩
      rcases hlends.made k e' he' with ⟨e₀, he₀, hlent⟩ | hborn
      · rw [he, Option.some.injEq] at he₀
        exact .of_spared (hlent.isDeleting (he₀ ▸ hspared))
      · exact .of_spared hborn.isDeleting
    · obtain ⟨e₁, he₁, hcore⟩ := hlends.kept k e he hparked
      rw [he', Option.some.injEq] at he₁
      exact Turns.of_core (he₁ ▸ hcore) hclear
  · rcases hlends.made k e' he' with ⟨e₀, he₀, -⟩ | hborn
    · simp [hk] at he₀
    · exact .of_spared hborn.isDeleting

end Settles

namespace BufferQueue

variable {strict : Bool} {q q' : BufferQueue} {sequence : ℕ} {e : BufferElement}

theorem deleteNoWait_buries (q : BufferQueue) (sequence : ℕ) :
    Buries [] q (q.deleteBufferInCacheNoWaitForAllocatingState sequence) := by
  have hfind := find_deleteNoWait q sequence
  refine ⟨fun k hk _ => by rw [hfind, hk]; simp, ?_⟩
  unfold deleteBufferInCacheNoWaitForAllocatingState
  split
  · exact ⟨[], by simp, fun _ hk => .inl hk, by simp⟩
  · rename_i e he
    split
    · exact ⟨[], by simp, fun _ hk => .inl hk, by simp⟩
    · exact ⟨[sequence], rfl, fun _ hk => List.mem_append.mp hk, by simp [he]⟩

theorem deleteNoWait_settles (q : BufferQueue) (sequence : ℕ) :
    Settles strict [] q (q.deleteBufferInCacheNoWaitForAllocatingState sequence) :=
  .of_removed (deleteNoWait_buries q sequence) (find_deleteNoWait q sequence)

/-! The sections of a request before the allocator: nothing enters. -/

theorem popFromFreeListLocked_buries (q : BufferQueue) (config : BufferRequestConfig) :
    Buries [] q (q.popFromFreeListLocked config).2 :=
  popFromFreeListLocked_induct q config (fun _ => .of_cache rfl rfl (List.Subset.refl _))
    (.of_cache rfl rfl (List.Subset.refl _))
    fun _ _ => .of_modify (recolour_seqNum _ _) rfl rfl (List.Subset.refl _)

theorem pushProducerCacheList_buries (q : BufferQueue) (sequence : ℕ) :
    Buries [] q (q.pushProducerCacheList sequence) :=
  pushProducerCacheList_induct q sequence fun _ _ => .of_cache rfl rfl (List.Subset.refl _)

theorem deliverObject_buries (q : BufferQueue) (sequence : ℕ) :
    Buries [] q (q.deliverObject sequence) := by
  have hcache : (q.deliverObject sequence).bufferQueueCache =
      (q.pushProducerCacheList sequence).bufferQueueCache.modify sequence setDelivered
        setDelivered_seqNum := by
    rw [find_pushProducerCacheList]
    rfl
  exact (pushProducerCacheList_buries q sequence).before
    (.of_modify setDelivered_seqNum hcache rfl (List.Subset.refl _))

theorem updateReuseBufferState_buries (q : BufferQueue) (needRealloc : Bool) (sequence : ℕ)
    (listener : Bool) : Buries [] q (q.updateReuseBufferState needRealloc sequence listener).2 := by
  have hmark : Buries [] q (q.markRequested sequence) :=
    .of_modify (setState_seqNum _) rfl rfl (List.Subset.refl _)
  have hdrain : Buries [] q ((q.markRequested sequence).addDeletingBuffersLocked []).2 :=
    hmark.before (.of_cache rfl rfl (List.nil_subset _))
  unfold updateReuseBufferState
  split
  · exact .of_cache rfl rfl (List.Subset.refl _)
  · dsimp only
    split
    · split
      · exact hdrain.before (.of_modify (setState_seqNum _) rfl rfl (List.Subset.refl _))
      · exact hdrain.before (deliverObject_buries _ sequence)
    · exact hdrain

theorem reuseBuffer_buries (q : BufferQueue) (config : BufferRequestConfig)
    (buffer : SurfaceBuffer) (listener : Bool) :
    Buries [] q (q.reuseBuffer config buffer listener).2 := by
  unfold reuseBuffer
  split
  · exact .refl
  · split
    · exact updateReuseBufferState_buries q false buffer.seqNum listener
    · split
      · exact .of_cache rfl rfl (List.Subset.refl _)
      · exact (deleteNoWait_buries q buffer.seqNum).before (.of_cache rfl rfl (List.Subset.refl _))

theorem reuseBufferForBlockMode_buries (q : BufferQueue) (config : BufferRequestConfig) :
    Buries [] q (q.reuseBufferForBlockMode config).2 :=
  reuseBufferForBlockMode_induct .refl (popFromFreeListLocked_buries q config)
    fun q₁ buffer h => h.before (reuseBuffer_buries q₁ config buffer false)

theorem reuseBufferForNoBlockMode_buries (q : BufferQueue) (config : BufferRequestConfig) :
    Buries [] q (q.reuseBufferForNoBlockMode config).2 := by
  have hpop : Buries [] q q.popFromDirtyListLocked.2 :=
    popFromDirtyListLocked_induct q (fun _ => .of_cache rfl rfl (List.Subset.refl _))
      (.of_cache rfl rfl (List.Subset.refl _))
  refine reuseBufferForNoBlockMode_induct hpop (fun q₁ sequence h => h.before ?_)
    fun q₁ buffer h => h.before (reuseBuffer_buries q₁ config buffer false)
  exact .of_modify (recolour_seqNum _ _) rfl rfl (List.Subset.refl _)

theorem requestBufferBody_buries (q : BufferQueue) (config : BufferRequestConfig)
    (listener : Bool) : Buries [] q (q.requestBufferBody config listener).2 := by
  have hsetup (q : BufferQueue) : Buries [] q (q.setupNewBufferLocked config).2 :=
    .of_cache rfl rfl (List.Subset.refl _)
  exact requestBufferBody_induct (popFromFreeListLocked_buries q config) (hsetup q)
    (fun q₁ buffer h => h.before (reuseBuffer_buries q₁ config buffer listener))
    (fun q₁ h => h.before (reuseBufferForNoBlockMode_buries q₁ config))
    fun q₁ h => h.before (hsetup q₁)

theorem finishRequest_buries (q : BufferQueue) (a : Allocation) (point : ReusePoint) :
    Buries [a.sequence] q (q.finishRequest a point).2 := by
  refine finishRequest_induct q a point (fun _ _ => .refl) (fun job _ => ?_)
    (fun _ h => h.before (.of_cache rfl rfl (List.nil_subset _)))
    fun q₁ sequence h => h.before (updateReuseBufferState_buries q₁ true sequence false)
  unfold allocBufferEnd
  dsimp only
  split
  · exact .of_put (e := job.element a) rfl rfl (List.Subset.refl _)
  · exact .of_cache rfl rfl (List.Subset.refl _)

end BufferQueue

end GraphicSurface
