import GraphicSurface.Lending

/-! What any call does to the entries of the cache, and what it reports through
`OnBufferDeleteForRS`. `Edits made q q'` says that an entry that stays keeps its modes and is not
marked as pre-allocated later, that the others are new ones as `made` describes them, and that an
entry that goes is reported exactly once, unless it is marked as pre-allocated. -/

namespace GraphicSurface

open BufferElement

/-- What every write of the queue to an entry leaves alone. -/
structure BufferElement.Rewrites (e e' : BufferElement) : Prop where
  scalingMode : e'.buffer.surfaceBufferScalingMode = e.buffer.surfaceBufferScalingMode
  videoDimType : e'.buffer.surfaceBufferVideoDimensionType = e.buffer.surfaceBufferVideoDimensionType
  preAlloc : e'.isPreAllocBuffer = true → e.isPreAllocBuffer = true

namespace BufferElement

variable {e e₁ e₂ : BufferElement}

theorem Rewrites.refl (e : BufferElement) : Rewrites e e := ⟨rfl, rfl, id⟩

theorem Rewrites.trans (h₁ : Rewrites e e₁) (h₂ : Rewrites e₁ e₂) : Rewrites e e₂ :=
  ⟨h₂.scalingMode.trans h₁.scalingMode, h₂.videoDimType.trans h₁.videoDimType,
    fun h => h₁.preAlloc (h₂.preAlloc h)⟩

theorem rewrites_setDelivered (e : BufferElement) : Rewrites e e.setDelivered :=
  ⟨rfl, rfl, nofun⟩

theorem rewrites_setFlushed (fence : SyncFence) (config : BufferFlushConfigWithDamages) (now : Int)
    (e : BufferElement) : Rewrites e (e.setFlushed fence config now) := by
  unfold setFlushed setDesiredPresentTimestampAndUiTimestamp
  split_ifs <;> exact ⟨rfl, rfl, id⟩

end BufferElement

structure Edits (made : BufferElement → Prop) (q q' : BufferQueue) : Prop where
  modes : q'.scalingMode = q.scalingMode ∧ q'.videoDimType = q.videoDimType
  entries : ∀ k e', q'.bufferQueueCache.find k = some e' →
    (∃ e, q.bufferQueueCache.find k = some e ∧ Rewrites e e') ∨
      (q.bufferQueueCache.find k = none ∧ ∃ e, made e ∧ e.buffer.seqNum = k ∧ Rewrites e e')
  reports : ∃ new, q'.deletedForRS = q.deletedForRS ++ new ∧ new.Nodup ∧
    (∀ k ∈ new, ((q.bufferQueueCache.find k).isSome ∨ ∃ e, made e ∧ e.buffer.seqNum = k) ∧
      q'.bufferQueueCache.find k = none) ∧
    ∀ k e, q.bufferQueueCache.find k = some e → q'.bufferQueueCache.find k = none →
      e.isPreAllocBuffer = false → k ∈ new

def nothing (_ : BufferElement) : Prop := False

namespace Edits

variable {made made₁ made₂ : BufferElement → Prop} {q q₁ q₂ : BufferQueue} {sequence : ℕ}
  {e : BufferElement}

theorem trans (h₁ : Edits made₁ q q₁) (h₂ : Edits made₂ q₁ q₂)
    (hfresh : ∀ e, made₂ e → q.bufferQueueCache.find e.buffer.seqNum = none ∧
      ∀ e₁, made₁ e₁ → e₁.buffer.seqNum ≠ e.buffer.seqNum) :
    Edits (fun e => made₁ e ∨ made₂ e) q q₂ := by
  obtain ⟨new₁, hreport₁, hnodup₁, hgone₁, hall₁⟩ := h₁.reports
  obtain ⟨new₂, hreport₂, hnodup₂, hgone₂, hall₂⟩ := h₂.reports
  -- what the first part has taken out stays out
  have hout : ∀ k, q₁.bufferQueueCache.find k = none →
      ((q.bufferQueueCache.find k).isSome ∨ ∃ e, made₁ e ∧ e.buffer.seqNum = k) →
      q₂.bufferQueueCache.find k = none := by
    intro k hnone hbefore
    cases hk : q₂.bufferQueueCache.find k with
    | none => rfl
    | some e' =>
      rcases h₂.entries k e' hk with ⟨e, he, -⟩ | ⟨-, e, hmade, rfl, -⟩
      · rw [hnone] at he
        cases he
      · obtain ⟨hq, hother⟩ := hfresh e hmade
        rcases hbefore with hbefore | ⟨e₁, hmade₁, hsame⟩
        · rw [hq] at hbefore
          cases hbefore
        · exact absurd hsame (hother e₁ hmade₁)
  refine ⟨⟨h₂.modes.1.trans h₁.modes.1, h₂.modes.2.trans h₁.modes.2⟩, ?_, new₁ ++ new₂, ?_, ?_, ?_, ?_⟩
  · intro k e₂ he₂
    rcases h₂.entries k e₂ he₂ with ⟨e₁, he₁, hwrites₂⟩ | ⟨-, e, hmade, rfl, hwrites₂⟩
    · rcases h₁.entries k e₁ he₁ with ⟨e, he, hwrites₁⟩ | ⟨hnone, e, hmade, hk, hwrites₁⟩
      · exact .inl ⟨e, he, hwrites₁.trans hwrites₂⟩
      · exact .inr ⟨hnone, e, .inl hmade, hk, hwrites₁.trans hwrites₂⟩
    · exact .inr ⟨(hfresh e hmade).1, e, .inr hmade, rfl, hwrites₂⟩
  · rw [hreport₂, hreport₁, List.append_assoc]
  · refine List.nodup_append.mpr ⟨hnodup₁, hnodup₂, ?_⟩
    rintro k hk _ hk' rfl
    obtain ⟨hbefore, hnone⟩ := hgone₁ k hk
    obtain ⟨hold | ⟨e, hmade, rfl⟩, -⟩ := hgone₂ k hk'
    · rw [hnone] at hold
      cases hold
    · obtain ⟨hq, hother⟩ := hfresh e hmade
      rcases hbefore with hbefore | ⟨e₁, hmade₁, hsame⟩
      · rw [hq] at hbefore
        cases hbefore
      · exact hother e₁ hmade₁ hsame
  · intro k hk
    rcases List.mem_append.mp hk with hk | hk
    · obtain ⟨hbefore, hnone⟩ := hgone₁ k hk
      exact ⟨hbefore.imp_right fun ⟨e, hmade, he⟩ => ⟨e, .inl hmade, he⟩, hout k hnone hbefore⟩
    · obtain ⟨hbefore, hnone⟩ := hgone₂ k hk
      refine ⟨?_, hnone⟩
      rcases hbefore with hbefore | ⟨e, hmade, he⟩
      · obtain ⟨e₁, he₁⟩ := Option.isSome_iff_exists.mp hbefore
        rcases h₁.entries k e₁ he₁ with ⟨e, he, -⟩ | ⟨-, e, hmade, he, -⟩
        · exact .inl (by rw [he]; rfl)
        · exact .inr ⟨e, .inl hmade, he⟩
      · exact .inr ⟨e, .inr hmade, he⟩
  · intro k e he hnone hunmarked
    rw [List.mem_append]
    cases hk : q₁.bufferQueueCache.find k with
    | none => exact .inl (hall₁ k e he hk hunmarked)
    | some e₁ =>
      right
      refine hall₂ k e₁ hk hnone ?_
      rcases h₁.entries k e₁ hk with ⟨e₀, he₀, hwrites⟩ | ⟨hq, -⟩
      · rw [he, Option.some.injEq] at he₀
        subst he₀
        by_contra hmarked
        rw [hwrites.preAlloc (by simpa using hmarked)] at hunmarked
        cases hunmarked
      · rw [he] at hq
        cases hq

theorem mono (h : Edits made₁ q q₁) (hsub : ∀ e, made₁ e → made₂ e) : Edits made₂ q q₁ := by
  obtain ⟨new, hreport, hnodup, hgone, hall⟩ := h.reports
  refine ⟨h.modes, fun k e' he' => ?_, new, hreport, hnodup, fun k hk => ?_, hall⟩
  · exact (h.entries k e' he').imp_right fun ⟨hnone, e, hmade, he⟩ => ⟨hnone, e, hsub e hmade, he⟩
  · obtain ⟨hbefore, hnone⟩ := hgone k hk
    exact ⟨hbefore.imp_right fun ⟨e, hmade, he⟩ => ⟨e, hsub e hmade, he⟩, hnone⟩

theorem after (h₁ : Edits nothing q q₁) (h₂ : Edits made q₁ q₂)
    (hfresh : ∀ e, made e → q.bufferQueueCache.find e.buffer.seqNum = none) : Edits made q q₂ :=
  (h₁.trans h₂ fun e he => ⟨hfresh e he, fun _ h => h.elim⟩).mono
    fun _ he => he.resolve_left id

theorem before (h₁ : Edits made q q₁) (h₂ : Edits nothing q₁ q₂) : Edits made q q₂ :=
  (h₁.trans h₂ fun _ h => h.elim).mono fun _ he => he.resolve_right id

theorem absent_of_made (h : Edits made q q₁) {k : ℕ} (hk : q.bufferQueueCache.find k = none)
    (hother : ∀ e, made e → e.buffer.seqNum ≠ k) : q₁.bufferQueueCache.find k = none := by
  cases he : q₁.bufferQueueCache.find k with
  | none => rfl
  | some e' =>
    rcases h.entries k e' he with ⟨e, he, -⟩ | ⟨-, e, hmade, hsame, -⟩
    · rw [hk] at he
      cases he
    · exact absurd hsame (hother e hmade)

theorem absent (h : Edits nothing q q₁) {k : ℕ} (hk : q.bufferQueueCache.find k = none) :
    q₁.bufferQueueCache.find k = none :=
  h.absent_of_made hk fun _ hmade => hmade.elim

theorem of_entries (hmodes : q₁.scalingMode = q.scalingMode ∧ q₁.videoDimType = q.videoDimType)
    (hentries : ∀ k e', q₁.bufferQueueCache.find k = some e' →
      ∃ e, q.bufferQueueCache.find k = some e ∧ Rewrites e e')
    (hstays : ∀ k e, q.bufferQueueCache.find k = some e → q₁.bufferQueueCache.find k ≠ none)
    (hreport : q₁.deletedForRS = q.deletedForRS) : Edits made q q₁ :=
  ⟨hmodes, fun k e' he' => .inl (hentries k e' he'), [], by simp [hreport], List.nodup_nil,
    by simp, fun k e he hnone _ => absurd hnone (hstays k e he)⟩

theorem of_cache (hmodes : q₁.scalingMode = q.scalingMode ∧ q₁.videoDimType = q.videoDimType)
    (hcache : q₁.bufferQueueCache = q.bufferQueueCache)
    (hreport : q₁.deletedForRS = q.deletedForRS) : Edits made q q₁ :=
  of_entries hmodes (fun k e' he' => ⟨e', by rw [← hcache, he'], .refl e'⟩)
    (fun k e he => by simp [hcache, he]) hreport

theorem refl : Edits made q q := of_cache ⟨rfl, rfl⟩ rfl rfl

theorem of_modify {f : BufferElement → BufferElement}
    (hf : ∀ e, (f e).buffer.seqNum = e.buffer.seqNum)
    (hcache : q₁.bufferQueueCache = q.bufferQueueCache.modify sequence f hf)
    (hwrites : ∀ e, Rewrites e (f e))
    (hmodes : q₁.scalingMode = q.scalingMode ∧ q₁.videoDimType = q.videoDimType)
    (hreport : q₁.deletedForRS = q.deletedForRS) : Edits made q q₁ := by
  refine of_entries hmodes (fun k e' he' => ?_) (fun k e he => ?_) hreport
  · rw [hcache, BufferCache.find_modify] at he'
    split_ifs at he' with hk
    · obtain ⟨e, he, rfl⟩ := Option.map_eq_some_iff.mp he'
      exact ⟨e, he, hwrites e⟩
    · exact ⟨e', he', .refl e'⟩
  · rw [hcache, BufferCache.find_modify, he]
    split_ifs <;> simp

theorem of_removed (hmodes : q₁.scalingMode = q.scalingMode ∧ q₁.videoDimType = q.videoDimType)
    (hfind : ∀ k, q₁.bufferQueueCache.find k =
      if sequence = k then none else q.bufferQueueCache.find k)
    (hreport : q₁.deletedForRS = q.deletedForRS ++ [sequence] ∧
        (q.bufferQueueCache.find sequence).isSome ∨
      q₁.deletedForRS = q.deletedForRS ∧
        ∀ e, q.bufferQueueCache.find sequence = some e → e.isPreAllocBuffer = true) :
    Edits made q q₁ := by
  refine ⟨hmodes, fun k e' he' => ?_, ?_⟩
  · rw [hfind] at he'
    split_ifs at he'
    exact .inl ⟨e', he', .refl e'⟩
  · have hgone : ∀ k e, q.bufferQueueCache.find k = some e → q₁.bufferQueueCache.find k = none →
        k = sequence := by
      intro k e he hnone
      rw [hfind] at hnone
      split_ifs at hnone with hk
      · exact hk.symm
      · rw [he] at hnone
        cases hnone
    rcases hreport with ⟨hreport, hsome⟩ | ⟨hreport, hmarked⟩
    · refine ⟨[sequence], hreport, List.nodup_singleton _, ?_, ?_⟩
      · intro k hk
        rw [List.mem_singleton] at hk
        subst hk
        exact ⟨.inl hsome, by rw [hfind, if_pos rfl]⟩
      · intro k e he hnone _
        exact List.mem_singleton.mpr (hgone k e he hnone)
    · refine ⟨[], by simp [hreport], List.nodup_nil, by simp, ?_⟩
      intro k e he hnone hunmarked
      have hk := hgone k e he hnone
      subst hk
      rw [hmarked e he] at hunmarked
      cases hunmarked

theorem rollback (h : Edits made q q₁) (habsent : q.bufferQueueCache.find sequence = none)
    (hcache : q₂.bufferQueueCache = q₁.bufferQueueCache.erase sequence)
    (hmodes : q₂.scalingMode = q₁.scalingMode ∧ q₂.videoDimType = q₁.videoDimType)
    (hreport : q₂.deletedForRS = q₁.deletedForRS) : Edits made q q₂ := by
  have hfind : ∀ k, q₂.bufferQueueCache.find k =
      if sequence = k then none else q₁.bufferQueueCache.find k := by
    intro k
    rw [hcache, BufferCache.find_erase]
  obtain ⟨new, hnew, hnodup, hgone, hall⟩ := h.reports
  refine ⟨⟨hmodes.1.trans h.modes.1, hmodes.2.trans h.modes.2⟩, fun k e' he' => ?_, new,
    hreport.trans hnew, hnodup, fun k hk => ?_, fun k e he hnone => ?_⟩
  · rw [hfind] at he'
    split_ifs at he'
    exact h.entries k e' he'
  · obtain ⟨hbefore, hnone⟩ := hgone k hk
    refine ⟨hbefore, ?_⟩
    rw [hfind, hnone]
    split_ifs <;> rfl
  · rw [hfind] at hnone
    split_ifs at hnone with hk
    · subst hk
      rw [habsent] at he
      cases he
    · exact hall k e he hnone

theorem of_put (hmodes : q₁.scalingMode = q.scalingMode ∧ q₁.videoDimType = q.videoDimType)
    (hcache : q₁.bufferQueueCache = q.bufferQueueCache.put e)
    (habsent : q.bufferQueueCache.find e.buffer.seqNum = none) (hmade : made e)
    (hreport : q₁.deletedForRS = q.deletedForRS) : Edits made q q₁ := by
  refine ⟨hmodes, fun k e' he' => ?_, [], by simp [hreport], List.nodup_nil, by simp, ?_⟩
  · rw [hcache, BufferCache.find_put] at he'
    split_ifs at he' with hk
    · subst hk
      cases he'
      exact .inr ⟨habsent, e, hmade, rfl, .refl e⟩
    · exact .inl ⟨e', he', .refl e'⟩
  · intro k e₀ he₀ hnone
    rw [hcache, BufferCache.find_put, he₀] at hnone
    split_ifs at hnone

end Edits

def AllocJob.makes (job : AllocJob) (a : Allocation) (e : BufferElement) : Prop :=
  (a.alloc && (job.config.usage &&& bufferUsageProtected != 0 || a.map)) = true ∧ e = job.element a

def ReusePoint.makes (a : Allocation) : ReusePoint → BufferElement → Prop
  | .done _, _ => False
  | .setupNewBuffer job, e | .reallocBuffer job, e => job.makes a e

def Allocation.makes (a : Allocation) (e : BufferElement) : Prop :=
  a.alloc = true ∧ e.buffer.seqNum = a.sequence

theorem AllocJob.makes_allocation {job : AllocJob} {a : Allocation} {e : BufferElement}
    (h : job.makes a e) : a.makes e := by
  obtain ⟨hgranted, rfl⟩ := h
  exact ⟨(Bool.and_eq_true_iff.mp hgranted).1, rfl⟩

theorem ReusePoint.makes_allocation {a : Allocation} {point : ReusePoint} {e : BufferElement}
    (h : point.makes a e) : a.makes e := by
  cases point with
  | done reply => exact h.elim
  | setupNewBuffer job => exact job.makes_allocation h
  | reallocBuffer job => exact job.makes_allocation h

namespace BufferQueue

variable {made : BufferElement → Prop} {q q' : BufferQueue} {sequence : ℕ} {e : BufferElement}

theorem deleteNoWait_edits (q : BufferQueue) (sequence : ℕ) :
    Edits nothing q (q.deleteBufferInCacheNoWaitForAllocatingState sequence) := by
  have hfind := find_deleteNoWait q sequence
  unfold deleteBufferInCacheNoWaitForAllocatingState at hfind ⊢
  cases he : q.bufferQueueCache.find sequence with
  | none => exact .refl
  | some ele =>
    rw [he] at hfind
    dsimp only at hfind ⊢
    by_cases hmarked : ele.isPreAllocBuffer = true
    · rw [if_pos hmarked] at hfind ⊢
      refine .of_removed ⟨rfl, rfl⟩ hfind (.inr ⟨rfl, fun e he' => ?_⟩)
      rw [he, Option.some.injEq] at he'
      exact he' ▸ hmarked
    · rw [if_neg hmarked] at hfind ⊢
      exact .of_removed ⟨rfl, rfl⟩ hfind (.inl ⟨rfl, by rw [he]; rfl⟩)

theorem eraseForRS_edits (he : (q.bufferQueueCache.find sequence).isSome) :
    Edits nothing q (q.eraseForRS sequence) :=
  .of_removed ⟨rfl, rfl⟩ (fun k => BufferCache.find_erase _ sequence k) (.inl ⟨rfl, he⟩)

/-! The sections of a request before the allocator: nothing enters. -/

theorem popFromFreeListLocked_edits (q : BufferQueue) (config : BufferRequestConfig) :
    Edits nothing q (q.popFromFreeListLocked config).2 :=
  popFromFreeListLocked_induct q config (fun _ => .of_cache ⟨rfl, rfl⟩ rfl rfl)
    (.of_cache ⟨rfl, rfl⟩ rfl rfl)
    fun _ _ => .of_modify (recolour_seqNum _ _) rfl (fun _ => ⟨rfl, rfl, id⟩) ⟨rfl, rfl⟩ rfl

theorem popFromDirtyListLocked_edits (q : BufferQueue) :
    Edits nothing q q.popFromDirtyListLocked.2 :=
  popFromDirtyListLocked_induct q (fun _ => .of_cache ⟨rfl, rfl⟩ rfl rfl)
    (.of_cache ⟨rfl, rfl⟩ rfl rfl)

theorem pushProducerCacheList_edits (q : BufferQueue) (sequence : ℕ) :
    Edits nothing q (q.pushProducerCacheList sequence) :=
  pushProducerCacheList_induct q sequence fun _ _ => .of_cache ⟨rfl, rfl⟩ rfl rfl

theorem deliverObject_edits (q : BufferQueue) (sequence : ℕ) :
    Edits nothing q (q.deliverObject sequence) := by
  have hcache : (q.deliverObject sequence).bufferQueueCache =
      (q.pushProducerCacheList sequence).bufferQueueCache.modify sequence setDelivered
        setDelivered_seqNum := by
    rw [find_pushProducerCacheList]
    rfl
  exact (pushProducerCacheList_edits q sequence).before
    (.of_modify setDelivered_seqNum hcache rewrites_setDelivered ⟨rfl, rfl⟩ rfl)

theorem updateReuseBufferState_edits (q : BufferQueue) (needRealloc : Bool) (sequence : ℕ)
    (listener : Bool) :
    Edits nothing q (q.updateReuseBufferState needRealloc sequence listener).2 := by
  have hmark : Edits nothing q (q.markRequested sequence) :=
    .of_modify (setState_seqNum _) rfl (fun _ => ⟨rfl, rfl, id⟩) ⟨rfl, rfl⟩ rfl
  have hdrain : Edits nothing q ((q.markRequested sequence).addDeletingBuffersLocked []).2 :=
    hmark.before (.of_cache ⟨rfl, rfl⟩ rfl rfl)
  unfold updateReuseBufferState
  split
  · exact .of_cache ⟨rfl, rfl⟩ rfl rfl
  · dsimp only
    split
    · split
      · exact hdrain.before (.of_modify (setState_seqNum _) rfl (fun _ => ⟨rfl, rfl, id⟩) ⟨rfl, rfl⟩ rfl)
      · exact hdrain.before (deliverObject_edits _ sequence)
    · exact hdrain

theorem reuseBuffer_edits (q : BufferQueue) (config : BufferRequestConfig)
    (buffer : SurfaceBuffer) (listener : Bool) :
    Edits nothing q (q.reuseBuffer config buffer listener).2 := by
  unfold reuseBuffer
  split
  · exact .refl
  · split
    · exact updateReuseBufferState_edits q false buffer.seqNum listener
    · split
      · exact .of_cache ⟨rfl, rfl⟩ rfl rfl
      · exact (deleteNoWait_edits q buffer.seqNum).before (.of_cache ⟨rfl, rfl⟩ rfl rfl)

theorem reuseBufferForBlockMode_edits (q : BufferQueue) (config : BufferRequestConfig) :
    Edits nothing q (q.reuseBufferForBlockMode config).2 :=
  reuseBufferForBlockMode_induct .refl (popFromFreeListLocked_edits q config)
    fun q₁ buffer h => h.before (reuseBuffer_edits q₁ config buffer false)

theorem reuseBufferForNoBlockMode_edits (q : BufferQueue) (config : BufferRequestConfig) :
    Edits nothing q (q.reuseBufferForNoBlockMode config).2 := by
  refine reuseBufferForNoBlockMode_induct (popFromDirtyListLocked_edits q)
    (fun q₁ sequence h => h.before ?_)
    fun q₁ buffer h => h.before (reuseBuffer_edits q₁ config buffer false)
  exact .of_modify (recolour_seqNum _ _) rfl (fun _ => ⟨rfl, rfl, id⟩) ⟨rfl, rfl⟩ rfl

theorem requestBufferBody_edits (q : BufferQueue) (config : BufferRequestConfig)
    (listener : Bool) : Edits nothing q (q.requestBufferBody config listener).2 := by
  have hsetup (q : BufferQueue) : Edits nothing q (q.setupNewBufferLocked config).2 :=
    .of_cache ⟨rfl, rfl⟩ rfl rfl
  exact requestBufferBody_induct (popFromFreeListLocked_edits q config) (hsetup q)
    (fun q₁ buffer h => h.before (reuseBuffer_edits q₁ config buffer listener))
    (fun q₁ h => h.before (reuseBufferForNoBlockMode_edits q₁ config))
    fun q₁ h => h.before (hsetup q₁)

theorem allocBufferEnd_edits (q : BufferQueue) (job : AllocJob) {a : Allocation}
    (hfresh : a.alloc = true → q.bufferQueueCache.find a.sequence = none) :
    Edits (job.makes a) q (q.allocBufferEnd job a).2 := by
  unfold allocBufferEnd
  dsimp only
  split
  · rename_i hgranted
    exact .of_put ⟨rfl, rfl⟩ rfl (hfresh (Bool.and_eq_true_iff.mp hgranted).1) ⟨hgranted, rfl⟩ rfl
  · exact .of_cache ⟨rfl, rfl⟩ rfl rfl

theorem finishRequest_edits (q : BufferQueue) {a : Allocation} (point : ReusePoint)
    (hfresh : a.alloc = true → q.bufferQueueCache.find a.sequence = none) :
    Edits (point.makes a) q (q.finishRequest a point).2 := by
  refine finishRequest_induct q a point ?_ ?_ (fun _ h => h.before (.of_cache ⟨rfl, rfl⟩ rfl rfl))
    fun q₁ sequence h => h.before (updateReuseBufferState_edits q₁ true sequence false)
  · rintro reply rfl
    exact .refl
  · rintro job (rfl | rfl)
    · exact allocBufferEnd_edits q job hfresh
    · exact allocBufferEnd_edits q job hfresh

theorem requestBufferLocked_edits (q : BufferQueue) (config : BufferRequestConfig)
    {a : Allocation} (listener : Bool)
    (hfresh : a.alloc = true → q.bufferQueueCache.find a.sequence = none) :
    Edits a.makes q (q.requestBufferLocked config a listener).2 := by
  have hfinish {q₁ : BufferQueue} (point : ReusePoint) (h : Edits nothing q q₁) :
      Edits a.makes q (q₁.finishRequest a point).2 := by
    refine h.after ((finishRequest_edits q₁ point fun ha => h.absent (hfresh ha)).mono
      fun _ he => point.makes_allocation he) ?_
    rintro e ⟨ha, hseq⟩
    rw [hseq]
    exact hfresh ha
  unfold requestBufferLocked
  split
  · exact .refl
  · rename_i updateConfig _
    have hbody := requestBufferBody_edits q updateConfig listener
    split
    · rename_i point q₁ h
      rw [h] at hbody
      exact hfinish point hbody
    · rename_i config' q₁ h
      rw [h] at hbody
      exact hfinish _ (hbody.before (reuseBufferForBlockMode_edits q₁ config'))

theorem cancelBufferLocked_edits (q : BufferQueue) (sequence : ℕ) (bedata : Option ExtraData) :
    Edits nothing q (q.cancelBufferLocked sequence bedata).2 := by
  unfold cancelBufferLocked
  split
  · exact .refl
  · split
    · exact .refl
    · exact .of_modify (setCancelled_seqNum bedata) rfl (fun _ => ⟨rfl, rfl, id⟩) ⟨rfl, rfl⟩ rfl

theorem doFlushBufferLocked_edits (q : BufferQueue) (sequence : ℕ) (bedata : Option ExtraData)
    (fence : SyncFence) (config : BufferFlushConfigWithDamages) (env : FlushEnv) :
    Edits nothing q (q.doFlushBufferLocked sequence bedata fence config env).2 := by
  unfold doFlushBufferLocked
  split
  · exact .refl
  · split
    · exact deleteNoWait_edits q sequence
    · split
      · exact .of_cache ⟨rfl, rfl⟩ rfl rfl
      · rename_i bedata
        have hprepare : Edits nothing q (q.prepareFlush sequence bedata) :=
          .of_modify (setPrepared_seqNum _ _ _) rfl (fun _ => ⟨rfl, rfl, id⟩) ⟨rfl, rfl⟩ rfl
        dsimp only
        split
        · exact hprepare
        · exact hprepare.before
            (.of_modify (setFlushed_seqNum _ _ _) rfl (rewrites_setFlushed fence config env.now)
              ⟨rfl, rfl⟩ rfl)

theorem flushBufferImprovedLocked_edits (q : BufferQueue) (sequence : ℕ)
    (bedata : Option ExtraData) (fence : SyncFence) (config : BufferFlushConfigWithDamages)
    (env : FlushEnv) :
    Edits nothing q (q.flushBufferImprovedLocked sequence bedata fence config env).2 := by
  refine flushBufferImprovedLocked_cases (motive := fun r => Edits nothing q r.2) ?_ ?_
  · exact fun _ _ => .refl
  · exact fun _ => doFlushBufferLocked_edits q sequence bedata fence config env

theorem markAcquired_edits (q : BufferQueue) (sequence : ℕ) (now : Int) :
    Edits nothing q (q.markAcquired sequence now) :=
  .of_modify (setAcquired_seqNum now) rfl (fun _ => ⟨rfl, rfl, id⟩) ⟨rfl, rfl⟩ rfl

theorem acquireBuffer_edits (q : BufferQueue) (now : Int) :
    Edits nothing q (q.acquireBuffer now).2 :=
  acquireBuffer_induct (popFromDirtyListLocked_edits q)
    (fun _ h => h.before (.of_cache ⟨rfl, rfl⟩ rfl rfl))
    fun q₁ sequence h => h.before (markAcquired_edits q₁ sequence now)

theorem markReleased_edits (q : BufferQueue) (sequence : ℕ) (lastAcquireTime : Int)
    (fence : Option SyncFence) (env : ReleaseEnv) :
    Edits nothing q (q.markReleased sequence lastAcquireTime fence env) :=
  .of_modify (setReleased_seqNum _ _) rfl (fun _ => ⟨rfl, rfl, id⟩) ⟨rfl, rfl⟩ rfl

theorem releaseBufferLocked_edits (q : BufferQueue) (sequence : ℕ) (fence : Option SyncFence)
    (env : ReleaseEnv) : Edits nothing q (q.releaseBufferLocked sequence fence env).2 := by
  unfold releaseBufferLocked
  split
  · exact .refl
  · rename_i ele _
    split
    · exact .refl
    · have hmark := markReleased_edits q sequence ele.lastAcquireTime fence env
      dsimp only
      split
      · exact hmark.before (deleteNoWait_edits _ sequence)
      · exact hmark.before (.of_cache ⟨rfl, rfl⟩ rfl rfl)

theorem setRequestedFromListener_edits (q : BufferQueue) (sequence : ℕ) :
    Edits nothing q (q.setRequestedFromListener sequence) :=
  .of_modify (setRequestedFromListener_seqNum _) rfl (fun _ => ⟨rfl, rfl, id⟩) ⟨rfl, rfl⟩ rfl

theorem requestForListener_edits (q : BufferQueue) (config : BufferRequestConfig) :
    Edits nothing q (q.requestBufferLocked config noAllocation true).2 :=
  (requestBufferLocked_edits q config true fun h => absurd h Bool.false_ne_true).mono
    fun _ he => absurd he.1 Bool.false_ne_true

theorem handOut_edits (q : BufferQueue) (fuel : ℕ) (configs : List BufferRequestConfig) :
    Edits nothing q (q.handOut fuel configs).2 := by
  induction fuel generalizing q configs with
  | zero => exact .refl
  | succ fuel ih =>
    cases configs with
    | nil => exact .refl
    | cons config configs =>
      have hone := requestForListener_edits q config
      unfold handOut
      dsimp only
      split
      · exact (hone.before (setRequestedFromListener_edits _ _)).before (ih _ (config :: configs))
      · exact hone.before (ih _ configs)

theorem takeBack_edits (q : BufferQueue) (sequence : ℕ) : Edits nothing q (q.takeBack sequence) := by
  unfold takeBack
  split
  · exact .refl
  · exact cancelBufferLocked_edits q sequence _

theorem onReleaseBufferWithSequenceAndFence_edits (q : BufferQueue) (callback : ℕ → Bool)
    (handed : List (ℕ × Option SyncFence)) :
    Edits nothing q (q.onReleaseBufferWithSequenceAndFence callback handed) :=
  onReleaseBufferWithSequenceAndFence_induct .refl
    (fun q₁ sequence h => h.before (takeBack_edits q₁ sequence)) callback handed

theorem releaseBuffer_edits (q : BufferQueue) (sequence : ℕ) (fence : Option SyncFence)
    (env : ReleaseEnv) : Edits nothing q (q.releaseBuffer sequence fence env).2 := by
  have hrelease := releaseBufferLocked_edits q sequence fence env
  have hsection : Edits nothing q (q.releaseBufferSection sequence fence env).2.2 := by
    unfold releaseBufferSection requestBuffersForListenerLocked
    dsimp only
    split
    · exact hrelease
    · split
      · exact hrelease.before (handOut_edits _ _ _)
      · exact hrelease
  unfold releaseBuffer
  dsimp only
  split
  · exact hsection.before (onReleaseBufferWithSequenceAndFence_edits _ _ _)
  · exact hsection

theorem releaseDropBuffers_edits (q : BufferQueue) (envs : ℕ → ReleaseEnv)
    (dropBuffers : List BufferAndFence) : Edits nothing q (q.releaseDropBuffers envs dropBuffers) :=
  releaseDropBuffers_induct .refl envs
    (fun q₁ sequence fence h => h.before (releaseBuffer_edits q₁ sequence fence (envs sequence)))
    dropBuffers

theorem dropBuffersByLevel_edits (q : BufferQueue) (now : Int) :
    Edits nothing q (q.dropBuffersByLevel now).2 :=
  dropBuffersByLevel_induct .refl (fun _ h => h.before (.of_cache ⟨rfl, rfl⟩ rfl rfl))
    fun q₁ front _ h =>
      (h.before (markAcquired_edits q₁ front now)).before (.of_cache ⟨rfl, rfl⟩ rfl rfl)

theorem acquireByTimestampSection_edits (q : BufferQueue) (expect : Int) (auto : Bool) :
    Edits nothing q (q.acquireByTimestampSection expect auto).2.2 :=
  acquireByTimestampSection_induct .refl (fun _ h => h.before (.of_cache ⟨rfl, rfl⟩ rfl rfl))
    (fun _ _ _ h => h.before
      (.of_modify (setState_seqNum _) rfl (fun _ => ⟨rfl, rfl, id⟩) ⟨rfl, rfl⟩ rfl)) expect auto

theorem deleteBuffersLocked_edits (q : BufferQueue) (count : ℕ) :
    Edits nothing q (q.deleteBuffersLocked count) :=
  deleteBuffersLocked_induct .refl
    (fun q₁ sequence h =>
      (h.before (deleteNoWait_edits q₁ sequence)).before (.of_cache ⟨rfl, rfl⟩ rfl rfl))
    (fun q₁ sequence _ h =>
      (h.before (deleteNoWait_edits q₁ sequence)).before (.of_cache ⟨rfl, rfl⟩ rfl rfl))
    (fun _ _ h => h.before
      (.of_modify setDeleting_seqNum rfl (fun _ => ⟨rfl, rfl, id⟩) ⟨rfl, rfl⟩ rfl)) count

theorem detachForConsumer_edits (q : BufferQueue) (sequence : ℕ) (isReserveSlot : Bool) :
    Edits nothing q (q.detachForConsumer sequence isReserveSlot) := by
  have hdelete := deleteNoWait_edits q sequence
  unfold detachForConsumer
  dsimp only
  split
  · exact hdelete.before (.of_cache ⟨rfl, rfl⟩ rfl rfl)
  · exact hdelete

theorem detachBufferFromQueueLocked_edits (q : BufferQueue) (sequence : ℕ)
    (invokerType : InvokerType) (isReserveSlot : Bool) :
    Edits nothing q (q.detachBufferFromQueueLocked sequence invokerType isReserveSlot).2 := by
  unfold detachBufferFromQueueLocked
  split
  · exact .refl
  · rename_i hcheck
    have hcached : (q.bufferQueueCache.find sequence).isSome := by
      cases he : q.bufferQueueCache.find sequence with
      | none => simp [detachBufferCheck, he] at hcheck
      | some e => rfl
    cases invokerType with
    | producerInvoker => exact eraseForRS_edits hcached
    | consumerInvoker => exact detachForConsumer_edits q sequence isReserveSlot

theorem detachBuffer_edits (q : BufferQueue) (sequence : ℕ) :
    Edits nothing q (q.detachBuffer sequence).2 := by
  unfold detachBuffer
  cases he : q.bufferQueueCache.find sequence with
  | none => exact .refl
  | some e =>
    dsimp only
    split
    · exact eraseForRS_edits (by rw [he]; rfl)
    · exact .refl

def madeByAttach (q : BufferQueue) (buffer : SurfaceBuffer) (e : BufferElement) : Prop :=
  e.buffer = q.attachedBuffer buffer

theorem attachBufferToQueueLocked_edits (q : BufferQueue) (buffer : SurfaceBuffer)
    (invokerType : InvokerType) :
    Edits (q.madeByAttach buffer) q (q.attachBufferToQueueLocked buffer invokerType).2 := by
  unfold attachBufferToQueueLocked
  split_ifs with hlistener hfull hcached
  · exact .refl
  · exact .refl
  · exact .refl
  · have habsent : q.bufferQueueCache.find buffer.seqNum = none := by simpa using hcached
    cases invokerType <;> exact .of_put ⟨rfl, rfl⟩ rfl habsent rfl rfl

theorem absent_of_attached {buffer : SurfaceBuffer} {invokerType : InvokerType}
    (hok : (q.attachBufferToQueueLocked buffer invokerType).1 = .ok) :
    q.bufferQueueCache.find buffer.seqNum = none := by
  unfold attachBufferToQueueLocked at hok
  split_ifs at hok with hlistener hfull hcached
  simpa using hcached

theorem attachBufferUpdateStatus_edits (q : BufferQueue) (sequence : ℕ) (state : BufferState) :
    Edits nothing q (q.attachBufferUpdateStatus sequence state).2 := by
  unfold attachBufferUpdateStatus
  split
  · exact .of_modify (setState_seqNum _) rfl (fun _ => ⟨rfl, rfl, id⟩) ⟨rfl, rfl⟩ rfl
  · exact .refl

/-- The end of `AttachBuffer`, with the element that it has made before. -/
theorem attachEnd_edits (ele : BufferElement) (count : ℕ)
    (habsent : q.bufferQueueCache.find ele.buffer.seqNum = none) :
    Edits (· = ele) q { q.deleteBuffersLocked count with
      bufferQueueCache := (q.deleteBuffersLocked count).bufferQueueCache.put ele } := by
  have hdelete := deleteBuffersLocked_edits q count
  refine hdelete.after (.of_put ⟨rfl, rfl⟩ rfl (hdelete.absent habsent) rfl rfl) ?_
  rintro e rfl
  exact habsent

theorem attachBuffer_edits (q : BufferQueue) (buffer : SurfaceBuffer) (timeOut : Int) :
    Edits (q.madeByAttach buffer) q (q.attachBuffer buffer timeOut).2 := by
  unfold attachBuffer
  split
  · exact .refl
  · split
    · exact .refl
    · cases he : q.bufferQueueCache.find buffer.seqNum with
      | some ele =>
        exact (attachBufferUpdateStatus_edits q _ _).mono fun _ h => h.elim
      | none =>
        dsimp only
        split
        · exact .refl
        · exact (attachEnd_edits (q.attachElement buffer timeOut) _ he).mono
            fun _ h => h ▸ rfl

theorem attachAndFlushBuffer_edits (q : BufferQueue) (buffer : SurfaceBuffer)
    (bedata : Option ExtraData) (fence : SyncFence) (config : BufferFlushConfigWithDamages)
    (env : FlushEnv) :
    Edits (q.madeByAttach buffer) q (q.attachAndFlushBuffer buffer bedata fence config env).2 := by
  have hattach := attachBufferToQueueLocked_edits q buffer .producerInvoker
  have hflush := flushBufferImprovedLocked_edits
    (q.attachBufferToQueueLocked buffer .producerInvoker).2 buffer.seqNum bedata fence config env
  unfold attachAndFlushBuffer
  dsimp only
  split
  · exact hattach
  · rename_i hok
    split
    · exact (hattach.before hflush).rollback (absent_of_attached (not_not.mp hok)) rfl ⟨rfl, rfl⟩ rfl
    · exact hattach.before hflush

/-- The buffers that `PreAllocBuffers` has allocated, as entries. -/
def madeByPreAlloc (buffers : List SurfaceBuffer) (e : BufferElement) : Prop :=
  e.buffer ∈ buffers

theorem insertPreAlloc_edits (q : BufferQueue) (config : BufferRequestConfig)
    {buffers : List SurfaceBuffer} (hnodup : (buffers.map (·.seqNum)).Nodup)
    (habsent : ∀ b ∈ buffers, q.bufferQueueCache.find b.seqNum = none) :
    Edits (madeByPreAlloc buffers) q (q.insertPreAlloc config buffers).2 := by
  induction buffers generalizing q with
  | nil => exact .refl
  | cons buffer rest ih =>
    rw [List.map_cons, List.nodup_cons] at hnodup
    obtain ⟨hout, hnodup⟩ := hnodup
    unfold insertPreAlloc
    split
    · exact .refl
    · set q₁ : BufferQueue := { q with
        bufferQueueCache := q.bufferQueueCache.put
          { BufferElement.init buffer .released config (some invalidFence) with
            isPreAllocBuffer := true }
        freeList := q.freeList ++ [buffer.seqNum] } with hq₁
      have hput : Edits (fun e => e.buffer = buffer) q q₁ :=
        .of_put ⟨rfl, rfl⟩ rfl (habsent buffer List.mem_cons_self) rfl rfl
      have hrest : ∀ b ∈ rest, buffer.seqNum ≠ b.seqNum :=
        fun b hb hsame => hout (by rw [hsame]; exact List.mem_map_of_mem hb)
      have hfresh : ∀ b ∈ rest, q₁.bufferQueueCache.find b.seqNum = none := by
        intro b hb
        have hfind : q₁.bufferQueueCache.find b.seqNum =
            if buffer.seqNum = b.seqNum then some _ else q.bufferQueueCache.find b.seqNum :=
          BufferCache.find_put _ _ _
        rw [hfind, if_neg (hrest b hb)]
        exact habsent b (List.mem_cons_of_mem _ hb)
      refine (hput.trans (ih q₁ hnodup hfresh) ?_).mono ?_
      · intro e he
        refine ⟨habsent _ (List.mem_cons_of_mem _ he), ?_⟩
        intro e₁ he₁
        rw [he₁]
        exact hrest _ he
      · rintro e (rfl | he)
        · exact List.mem_cons_self
        · exact List.mem_cons_of_mem _ he

theorem cleanReleasedBuffersLocked_edits (q : BufferQueue) (l : List ℕ) :
    Edits nothing q (q.cleanReleasedBuffersLocked l).2 := by
  refine cleanReleasedBuffersLocked_induct .refl (fun q₁ sequence h => h.before ?_) l
  split
  · rename_i hcached
    exact .of_removed ⟨rfl, rfl⟩ (fun k => BufferCache.find_erase _ sequence k)
      (.inl ⟨rfl, hcached⟩)
  · rename_i habsent
    refine .of_removed ⟨rfl, rfl⟩ (fun k => BufferCache.find_erase _ sequence k)
      (.inr ⟨rfl, fun e he => ?_⟩)
    exact absurd (by rw [he]; rfl) habsent

theorem cleanProducerBySeqNum_edits (q : BufferQueue) (seqNums : List ℕ) :
    Edits nothing q (q.cleanProducerBySeqNum seqNums) := by
  refine cleanProducerBySeqNum_induct .refl (fun q₁ sequence h => ?_) seqNums
  unfold cleanProducerOne
  split
  · rename_i hcached
    exact h.before (.of_removed ⟨rfl, rfl⟩ (fun k => BufferCache.find_erase _ sequence k)
      (.inl ⟨rfl, hcached⟩))
  · exact h

theorem clearLocked_edits (q : BufferQueue) : Edits nothing q q.clearLocked := by
  refine ⟨⟨rfl, rfl⟩, fun k e' he' => ?_, _, rfl, q.bufferQueueCache.keys_nodup, ?_, ?_⟩
  · simp [clearLocked] at he'
  · intro k hk
    exact ⟨.inl ((BufferCache.mem_keys _ k).mp hk), BufferCache.find_empty k⟩
  · intro k e he _ _
    exact (BufferCache.mem_keys _ k).mpr (by rw [he]; rfl)

theorem configure_edits (q : BufferQueue) (s : Setting) : Edits nothing q (q.configure s) := by
  cases s with
  | setDropFrameLevel level =>
    refine .of_cache ?_ rfl rfl
    change (if level < 0 then q.toQueueSettings else _).scalingMode = _ ∧
      (if level < 0 then q.toQueueSettings else _).videoDimType = _
    split_ifs <;> exact ⟨rfl, rfl⟩
  | _ => exact .of_cache ⟨rfl, rfl⟩ rfl rfl

end BufferQueue

end GraphicSurface
