import GraphicSurface.Circulation
import GraphicSurface.ConfigCodec

/-! What one request takes from the queue, told from the queue before it: a cached buffer that it
reuses, a new one, or nothing. -/

namespace GraphicSurface

open Runs

/-- No buffer is `REQUESTED` that was not so before, and none has disappeared. -/
structure NoLeak (q q' : BufferQueue) : Prop where
  requested : ∀ k e', q'.bufferQueueCache.find k = some e' → e'.state = .requested →
    ∃ e, q.bufferQueueCache.find k = some e ∧ e.state = .requested
  cached : ∀ k e, q.bufferQueueCache.find k = some e → (q'.bufferQueueCache.find k).isSome

namespace BufferQueue

/-- A request that waits for a buffer goes on with nobody in between. -/
def goOn : RequestPoint × BufferQueue → ReusePoint × BufferQueue
  | (.reached point, q) => (point, q)
  | (.waitReq config, q) => q.reuseBufferForBlockMode config

/-- Where a request stands when it gives `mutex_` up for the allocator, or ends. -/
def requestPoint (q : BufferQueue) (config : BufferRequestConfig) : ReusePoint × BufferQueue :=
  match q.requestBufferCheck config with
  | .error ret => (.done (.error ret), q)
  | .ok updateConfig => goOn (q.requestBufferBody updateConfig false)

def reusedBuffer (q : BufferQueue) (config : BufferRequestConfig) : Option SurfaceBuffer :=
  match q.requestBufferCheck config with
  | .error _ => none
  | .ok updateConfig =>
    if q.isPriorityAlloc && decide (q.getUsedSize < q.unreservedSize) then none
    else
      match (q.popFromFreeListLocked updateConfig).1 with
      | some buffer => some buffer
      | none =>
        if q.unreservedSize ≤ q.getUsedSize ∧ q.requestBufferNoBlockMode then
          q.popFromDirtyListLocked.1
        else none

/-- A request that reuses nothing gets a new buffer. -/
def getsNewBuffer (q : BufferQueue) (config : BufferRequestConfig) (a : Allocation) : Bool :=
  match q.requestBufferCheck config with
  | .error _ => false
  | .ok updateConfig =>
    decide (q.getUsedSize < q.unreservedSize) &&
      AllocJob.granted ⟨updateConfig, q.scalingMode, q.videoDimType⟩ a

variable {q q' : BufferQueue} {config : BufferRequestConfig} {buffer : SurfaceBuffer}
  {e : BufferElement} {a : Allocation}

theorem requestBuffer_eq (q : BufferQueue) (config : BufferRequestConfig) (a : Allocation) :
    q.requestBuffer config a = (q.requestPoint config).2.finishRequest a (q.requestPoint config).1 := by
  unfold requestBuffer requestBufferLocked requestPoint
  cases q.requestBufferCheck config with
  | error ret => rfl
  | ok updateConfig =>
    dsimp only
    cases q.requestBufferBody updateConfig false with
    | mk point q₁ => cases point <;> rfl

/-- The buffer that was popped is handed out or deleted for a new one. -/
def Reuses (sequence : ℕ) (r : ReusePoint × BufferQueue) : Prop :=
  (∃ reply, r.1 = .done reply ∧ reply.ret = .ok ∧ reply.retval.sequence = sequence) ∨
    ∃ job, r.1 = .reallocBuffer job ∧ r.2.bufferQueueCache.find sequence = none

theorem reuseBuffer_reuses (config : BufferRequestConfig)
    (he : q.bufferQueueCache.find buffer.seqNum = some e) :
    Reuses buffer.seqNum (q.reuseBuffer config buffer false) := by
  unfold reuseBuffer
  rw [he]
  dsimp only
  split
  · refine .inl ⟨_, rfl, ?_, sequence_updateReuse false false he⟩
    unfold updateReuseBufferState
    rw [he]
    dsimp only
    split <;> rfl
  · exact .inr ⟨_, rfl, (find_deleteNoWait q buffer.seqNum buffer.seqNum).trans (if_pos rfl)⟩

theorem popAndReuse_reuses (h : q.Agrees) (hp : q.popFromFreeListLocked config = (some buffer, q')) :
    (∃ e, q.bufferQueueCache.find buffer.seqNum = some e ∧ e.Parked) ∧
      Reuses buffer.seqNum (q'.reuseBuffer config buffer false) := by
  obtain ⟨hlends, e', he', hs'⟩ : Lends true q q' ∧ _ := pop_lends h hp
  exact ⟨hlends.parked_back he' (.inl hs'), reuseBuffer_reuses config he'⟩

theorem reuseBufferForNoBlockMode_reuses (h : q.Agrees)
    (hp : q.popFromDirtyListLocked.1 = some buffer) :
    (∃ e, q.bufferQueueCache.find buffer.seqNum = some e ∧ e.Parked) ∧
      Reuses buffer.seqNum (q.reuseBufferForNoBlockMode config) := by
  unfold reuseBufferForNoBlockMode
  split
  · rename_i buffer' q₁ hpop
    rw [hpop] at hp
    obtain rfl : buffer' = buffer := Option.some.inj hp
    obtain ⟨rest, e, hdirty, he, rfl, rfl⟩ := popFromDirtyListLocked_some hpop
    obtain ⟨e', he', hs⟩ := h.state_of_mem_dirty (k := e.buffer.seqNum) (by simp [hdirty])
    refine ⟨⟨e', he', .inr hs⟩, ?_⟩
    refine reuseBuffer_reuses config (e := e.recolour config.colorGamut config.transform) ?_
    simp [he]
  · rename_i q₁ hpop
    rw [hpop] at hp
    cases hp

theorem reuseBufferForNoBlockMode_refuses (h : q.Agrees) (config : BufferRequestConfig)
    (hp : q.popFromDirtyListLocked.1 = none) :
    (q.reuseBufferForNoBlockMode config).2 = q ∧
      ∃ reply, (q.reuseBufferForNoBlockMode config).1 = .done reply ∧ reply.ret ≠ .ok := by
  have hpop : q.popFromDirtyListLocked = (none, q.popFromDirtyListLocked.2) := Prod.ext hp rfl
  unfold reuseBufferForNoBlockMode
  rw [hpop]
  exact ⟨(popFromDirtyListLocked_none h hpop).1, _, rfl, by simp [RequestReply.error]⟩

theorem reuseBufferForBlockMode_refuses (hp : q.popFromFreeListLocked config = (none, q)) :
    (q.reuseBufferForBlockMode config).2 = q ∧
      ∃ reply, (q.reuseBufferForBlockMode config).1 = .done reply ∧ reply.ret ≠ .ok := by
  unfold reuseBufferForBlockMode
  split
  · exact ⟨rfl, _, rfl, by simp [RequestReply.error]⟩
  · rw [hp]
    exact ⟨rfl, _, rfl, by simp [RequestReply.error]⟩

/-- `RequestBufferLocked` by what the pop from the free list finds. -/
theorem requestBufferBody_of_some
    (hprio : (q.isPriorityAlloc && decide (q.getUsedSize < q.unreservedSize)) = false)
    (hpop : q.popFromFreeListLocked config = (some buffer, q')) :
    q.requestBufferBody config false = (.reached (q'.reuseBuffer config buffer false).1,
      (q'.reuseBuffer config buffer false).2) := by
  unfold requestBufferBody
  simp only [hprio, hpop, Bool.not_false, Bool.or_false, if_true]

theorem requestBufferBody_of_none
    (hprio : (q.isPriorityAlloc && decide (q.getUsedSize < q.unreservedSize)) = false)
    (hpop : q.popFromFreeListLocked config = (none, q')) :
    q.requestBufferBody config false =
      if q'.unreservedSize ≤ q'.getUsedSize then
        if q'.requestBufferNoBlockMode then (.reached (q'.reuseBufferForNoBlockMode config).1,
          (q'.reuseBufferForNoBlockMode config).2)
        else (.waitReq config, q')
      else (.reached (q'.setupNewBufferLocked config).1, (q'.setupNewBufferLocked config).2) := by
  unfold requestBufferBody
  simp only [hprio, hpop, Bool.not_false, Bool.or_false, if_true, Bool.false_eq_true, if_false]
  cases q'.requestBufferNoBlockMode <;> rfl

theorem requestBufferBody_of_priority
    (hprio : (q.isPriorityAlloc && decide (q.getUsedSize < q.unreservedSize)) = true) :
    q.requestBufferBody config false =
      (.reached (q.setupNewBufferLocked config).1, (q.setupNewBufferLocked config).2) := by
  unfold requestBufferBody
  simp only [hprio, Bool.not_true, Bool.or_false, Bool.false_eq_true, if_false]

theorem requestPoint_of_check {updateConfig : BufferRequestConfig}
    (hcheck : q.requestBufferCheck config = .ok updateConfig) {r : RequestPoint × BufferQueue}
    (hbody : q.requestBufferBody updateConfig false = r) :
    q.requestPoint config = goOn r := by
  unfold requestPoint
  rw [hcheck, ← hbody]

theorem requestPoint_induction {S : BufferQueue → BufferQueue → Prop}
    {P : ReusePoint × BufferQueue → Prop} (refl : S q q)
    (popFree : ∀ q₁ config, S q q₁ → S q (q₁.popFromFreeListLocked config).2)
    (popDirty : ∀ q₁, S q q₁ → S q q₁.popFromDirtyListLocked.2)
    (recolour : ∀ q₁ k colorGamut transform, S q q₁ → S q { q₁ with
      bufferQueueCache := q₁.bufferQueueCache.modify k (BufferElement.recolour colorGamut transform)
        (BufferElement.recolour_seqNum _ _) })
    (error : ∀ q₁ ret, S q q₁ → ret ≠ .ok → P (.done (.error ret), q₁))
    (setup : ∀ q₁ config, S q q₁ → P (q₁.setupNewBufferLocked config))
    (reuse : ∀ q₁ config buffer, S q q₁ → P (q₁.reuseBuffer config buffer false)) :
    P (q.requestPoint config) := by
  cases hcheck : q.requestBufferCheck config with
  | error ret =>
    rw [requestPoint, hcheck]
    exact error q ret refl (requestBufferCheck_error hcheck)
  | ok updateConfig =>
    cases hprio : q.isPriorityAlloc && decide (q.getUsedSize < q.unreservedSize) with
    | true =>
      rw [requestPoint_of_check hcheck (requestBufferBody_of_priority hprio)]
      exact setup q updateConfig refl
    | false =>
      have hfirst := popFree q updateConfig refl
      rcases hpop : q.popFromFreeListLocked updateConfig with ⟨_ | buffer, q₁⟩
      · rw [hpop] at hfirst
        have hbody := requestBufferBody_of_none hprio hpop
        split_ifs at hbody <;> rw [requestPoint_of_check hcheck hbody]
        · have hdirty := popDirty q₁ hfirst
          dsimp only [goOn]
          unfold reuseBufferForNoBlockMode
          split
          · rename_i buffer q₂ hfront
            rw [hfront] at hdirty
            exact reuse _ _ _ (recolour q₂ _ _ _ hdirty)
          · rename_i q₂ hnone
            rw [hnone] at hdirty
            exact error q₂ _ hdirty (by simp)
        · have hsecond := popFree q₁ updateConfig hfirst
          dsimp only [goOn]
          unfold reuseBufferForBlockMode
          split
          · exact error q₁ _ hfirst (by simp)
          · split
            · rename_i buffer q₂ hfront
              rw [hfront] at hsecond
              exact reuse q₂ _ _ hsecond
            · rename_i q₂ hnone
              rw [hnone] at hsecond
              exact error q₂ _ hsecond (by simp)
        · exact setup q₁ updateConfig hfirst
      · rw [hpop] at hfirst
        rw [requestPoint_of_check hcheck (requestBufferBody_of_some hprio hpop)]
        exact reuse q₁ updateConfig buffer hfirst

theorem requestPoint_of_reused (h : q.Agrees) (hreused : q.reusedBuffer config = some buffer) :
    (∃ e, q.bufferQueueCache.find buffer.seqNum = some e ∧ e.Parked) ∧
      Reuses buffer.seqNum (q.requestPoint config) := by
  unfold reusedBuffer at hreused
  split at hreused
  · cases hreused
  rename_i updateConfig hcheck
  split at hreused
  · cases hreused
  rename_i hprio
  have hprio := Bool.eq_false_iff.mpr hprio
  split at hreused
  · rename_i popped hpopped
    obtain rfl := Option.some.inj hreused
    have hpop : q.popFromFreeListLocked updateConfig =
        (some popped, (q.popFromFreeListLocked updateConfig).2) := Prod.ext hpopped rfl
    rw [requestPoint_of_check hcheck (requestBufferBody_of_some hprio hpop)]
    exact popAndReuse_reuses h hpop
  · rename_i hpopped
    have hpop := popFromFreeListLocked_none h (Prod.ext hpopped rfl)
    split at hreused
    · rename_i hfull
      have hbody := requestBufferBody_of_none hprio (Prod.ext hpopped hpop)
      rw [if_pos hfull.1, if_pos hfull.2] at hbody
      rw [requestPoint_of_check hcheck hbody]
      exact reuseBufferForNoBlockMode_reuses h hreused
    · cases hreused

theorem requestPoint_of_not_reused (h : q.Agrees) (hreused : q.reusedBuffer config = none) :
    (q.requestPoint config).2.bufferQueueCache = q.bufferQueueCache ∧
      ((∃ updateConfig, q.requestBufferCheck config = .ok updateConfig ∧
          q.getUsedSize < q.unreservedSize ∧ (q.requestPoint config).1 =
            .setupNewBuffer ⟨updateConfig, q.scalingMode, q.videoDimType⟩) ∨
        (∀ updateConfig, q.requestBufferCheck config = .ok updateConfig →
          q.unreservedSize ≤ q.getUsedSize) ∧
        ∃ reply, (q.requestPoint config).1 = .done reply ∧ reply.ret ≠ .ok) := by
  unfold reusedBuffer at hreused
  split at hreused
  · rename_i ret hcheck
    have hpoint : q.requestPoint config = (.done (.error ret), q) := by
      unfold requestPoint
      rw [hcheck]
    rw [hpoint]
    refine ⟨rfl, .inr ⟨fun updateConfig hok => ?_, _, rfl, requestBufferCheck_error hcheck⟩⟩
    rw [hcheck] at hok
    cases hok
  rename_i updateConfig hcheck
  split at hreused
  · rename_i hprio
    rw [requestPoint_of_check hcheck (requestBufferBody_of_priority hprio)]
    simp only [Bool.and_eq_true, decide_eq_true_eq] at hprio
    exact ⟨rfl, .inl ⟨updateConfig, hcheck, hprio.2, rfl⟩⟩
  rename_i hprio
  have hprio := Bool.eq_false_iff.mpr hprio
  split at hreused
  · cases hreused
  rename_i hpopped
  have hpop : q.popFromFreeListLocked updateConfig = (none, q) :=
    Prod.ext hpopped (popFromFreeListLocked_none h (Prod.ext hpopped rfl))
  have hbody := requestBufferBody_of_none hprio hpop
  by_cases hfull : q.unreservedSize ≤ q.getUsedSize
  · rw [if_pos hfull] at hbody
    by_cases hblock : q.requestBufferNoBlockMode = true
    · rw [if_pos hblock] at hbody
      rw [if_pos ⟨hfull, hblock⟩] at hreused
      obtain ⟨hsame, hrefused⟩ := reuseBufferForNoBlockMode_refuses h updateConfig hreused
      rw [requestPoint_of_check hcheck hbody]
      exact ⟨congrArg bufferQueueCache hsame, .inr ⟨fun _ _ => hfull, hrefused⟩⟩
    · rw [if_neg hblock] at hbody
      obtain ⟨hsame, hrefused⟩ := reuseBufferForBlockMode_refuses hpop
      rw [requestPoint_of_check hcheck hbody]
      exact ⟨congrArg bufferQueueCache hsame, .inr ⟨fun _ _ => hfull, hrefused⟩⟩
  · rw [if_neg hfull] at hbody
    rw [requestPoint_of_check hcheck hbody]
    exact ⟨rfl, .inl ⟨updateConfig, hcheck, Nat.not_le.mp hfull, rfl⟩⟩

theorem find_finishRequest_other (q : BufferQueue) (point : ReusePoint) {k : ℕ}
    (hk : k ≠ a.sequence) :
    (q.finishRequest a point).2.bufferQueueCache.find k = q.bufferQueueCache.find k := by
  have hseq (job : AllocJob) : (job.element a).buffer.seqNum = a.sequence := rfl
  cases point with
  | done reply => rfl
  | setupNewBuffer job =>
    unfold finishRequest allocBufferEnd
    dsimp only
    split
    · rename_i q₁ hend
      split at hend <;> cases hend
      rfl
    · rename_i b q₁ hend
      split at hend <;> cases hend
      exact (BufferCache.find_put _ _ _).trans (if_neg (hseq job ▸ hk.symm))
  | reallocBuffer job =>
    unfold finishRequest allocBufferEnd
    dsimp only
    split
    · rename_i q₁ hend
      split at hend <;> cases hend
      rfl
    · rename_i b q₁ hend
      split at hend <;> cases hend
      rw [find_updateReuse_other true false (e := job.element a) (by simp) (hseq job ▸ hk)]
      exact (BufferCache.find_put _ _ _).trans (if_neg (hseq job ▸ hk.symm))

theorem find_finishRequest_setup (q : BufferQueue) (job : AllocJob) (hgranted : job.granted a = false)
    (k : ℕ) : (q.finishRequest a (.setupNewBuffer job)).2.bufferQueueCache.find k =
      q.bufferQueueCache.find k := by
  unfold finishRequest allocBufferEnd
  rw [AllocJob.granted] at hgranted
  simp only [hgranted, Bool.false_eq_true, if_false]

theorem find_requestAndDetachBuffer (q : BufferQueue) (config : BufferRequestConfig)
    (a : Allocation) (k : ℕ) :
    (q.requestAndDetachBuffer config a).2.bufferQueueCache.find k =
      if (q.requestBuffer config a).1.ret = .ok ∧
          (q.requestBuffer config a).1.retval.sequence = k then none
      else (q.requestBuffer config a).2.bufferQueueCache.find k := by
  have hsound : (q.requestBuffer config a).1.Sound false (q.requestBuffer config a).2 :=
    requestBufferLocked_sound q config a false
  unfold requestAndDetachBuffer
  rw [show q.requestBufferLocked config a false = q.requestBuffer config a from rfl]
  generalize q.requestBuffer config a = r at hsound ⊢
  obtain ⟨reply, q₁⟩ := r
  dsimp only at hsound ⊢
  by_cases hok : reply.ret = .ok
  · obtain ⟨e, he, hs⟩ := hsound.marked hok
    have hcheck : q₁.detachBufferCheck reply.retval.sequence .producerInvoker = .ok := by
      simp [detachBufferCheck, he, hs]
    unfold detachBufferFromQueueLocked
    simp only [hok, hcheck, ne_eq, not_true_eq_false, if_false, true_and]
    exact find_eraseForRS q₁ reply.retval.sequence k
  · simp only [hok, ne_eq, not_false_eq_true, if_true, false_and, if_false]

end BufferQueue

theorem NoLeak.of_find {q q' : BufferQueue}
    (h : ∀ k, q'.bufferQueueCache.find k = q.bufferQueueCache.find k) : NoLeak q q' where
  requested k e' he' hs := ⟨e', by rw [← h k, he'], hs⟩
  cached k e he := by rw [h k, he, Option.isSome_some]

namespace BufferQueue

variable {q : BufferQueue} {config : BufferRequestConfig} {buffer : SurfaceBuffer} {a : Allocation}

theorem requestBuffer_of_reused (h : q.Agrees) (hfresh : q.bufferQueueCache.find a.sequence = none)
    (hreused : q.reusedBuffer config = some buffer) :
    (∃ e, q.bufferQueueCache.find buffer.seqNum = some e ∧ e.Parked) ∧
      (((q.requestBuffer config a).1.ret = .ok ∧
          (q.requestBuffer config a).1.retval.sequence = buffer.seqNum) ∨
        (q.requestBuffer config a).2.bufferQueueCache.find buffer.seqNum = none) := by
  obtain ⟨⟨e, he, hparked⟩, hreuses⟩ := requestPoint_of_reused h hreused
  refine ⟨⟨e, he, hparked⟩, ?_⟩
  rw [requestBuffer_eq]
  rcases hreuses with ⟨reply, hpoint, hret, hseq⟩ | ⟨job, hpoint, hgone⟩
  · rw [hpoint]
    exact .inl ⟨hret, hseq⟩
  · have hne : buffer.seqNum ≠ a.sequence := by
      intro heq
      rw [heq, hfresh] at he
      cases he
    exact .inr ((find_finishRequest_other _ _ hne).trans hgone)

theorem requestBuffer_of_not_reused (h : q.Agrees) (hreused : q.reusedBuffer config = none) :
    if q.getsNewBuffer config a then (q.requestBuffer config a).1.ret = .ok ∧
        (q.requestBuffer config a).1.retval.sequence = a.sequence ∧
        ∀ k, k ≠ a.sequence → (q.requestBuffer config a).2.bufferQueueCache.find k =
          q.bufferQueueCache.find k
    else (q.requestBuffer config a).1.ret ≠ .ok ∧
      ∀ k, (q.requestBuffer config a).2.bufferQueueCache.find k = q.bufferQueueCache.find k := by
  obtain ⟨hcache, hpoint⟩ := requestPoint_of_not_reused h hreused
  rw [requestBuffer_eq]
  rcases hpoint with ⟨updateConfig, hcheck, hroom, hsetup⟩ | ⟨hnoroom, reply, hdone, hret⟩
  · have hgets : q.getsNewBuffer config a =
        AllocJob.granted ⟨updateConfig, q.scalingMode, q.videoDimType⟩ a := by
      unfold getsNewBuffer
      rw [hcheck]
      simp only [hroom, decide_true, Bool.true_and]
    have hanswer := finishRequest_answer (q.requestPoint config).2 a
      ⟨updateConfig, q.scalingMode, q.videoDimType⟩ (.inl hsetup)
    rw [hgets]
    split
    · rename_i hgranted
      rw [if_pos hgranted] at hanswer
      obtain ⟨hret, hseq⟩ := Prod.mk.inj hanswer
      exact ⟨hret, hseq, fun k hk => (find_finishRequest_other _ _ hk).trans (by rw [hcache])⟩
    · rename_i hgranted
      rw [if_neg hgranted] at hanswer
      refine ⟨fun hok => ?_, fun k => ?_⟩
      · have hret := (Prod.mk.inj hanswer).1
        rw [hok] at hret
        cases hret
      · rw [hsetup, find_finishRequest_setup _ _ (Bool.eq_false_iff.mpr hgranted), hcache]
  · have hgets : q.getsNewBuffer config a = false := by
      unfold getsNewBuffer
      split
      · rfl
      · rename_i updateConfig hcheck
        have hfull := hnoroom updateConfig hcheck
        simp only [Nat.not_lt.mpr hfull, decide_false, Bool.false_and]
    rw [hgets, if_neg Bool.false_ne_true, hdone]
    exact ⟨hret, fun k => by rw [finishRequest, hcache]⟩

theorem requestBuffer_noLeak (h : q.Agrees) (hfresh : q.bufferQueueCache.find a.sequence = none) :
    NoLeak q (q.requestBuffer config a).2 ↔
      q.reusedBuffer config = none ∧ q.getsNewBuffer config a = false := by
  have hsound : (q.requestBuffer config a).1.Sound false (q.requestBuffer config a).2 :=
    requestBufferLocked_sound q config a false
  cases hreused : q.reusedBuffer config with
  | some buffer =>
    obtain ⟨⟨e, he, hparked⟩, htaken⟩ := requestBuffer_of_reused h hfresh hreused
    refine ⟨fun hleak => ?_, fun hcase => (by cases hcase.1)⟩
    rcases htaken with ⟨hret, hseq⟩ | hgone
    · obtain ⟨e', he', hs'⟩ := hsound.marked hret
      obtain ⟨e₀, he₀, hs₀⟩ := hleak.requested _ e' he' hs'
      rw [hseq, he, Option.some.injEq] at he₀
      subst he₀
      rcases hparked with hs | hs <;> simp [hs₀] at hs
    · have hcached := hleak.cached _ e he
      rw [hgone] at hcached
      cases hcached
  | none =>
    have hkept := requestBuffer_of_not_reused (a := a) h hreused
    split at hkept
    · rename_i hgets
      refine ⟨fun hleak => ?_, fun hcase => absurd (hgets.symm.trans hcase.2) (by decide)⟩
      obtain ⟨e', he', hs'⟩ := hsound.marked hkept.1
      obtain ⟨e₀, he₀, -⟩ := hleak.requested _ e' he' hs'
      rw [hkept.2.1, hfresh] at he₀
      cases he₀
    · rename_i hgets
      exact ⟨fun _ => ⟨rfl, Bool.eq_false_iff.mpr hgets⟩, fun _ => .of_find hkept.2⟩

theorem requestAndDetachBuffer_noLeak (h : q.Agrees)
    (hfresh : q.bufferQueueCache.find a.sequence = none) :
    NoLeak q (q.requestAndDetachBuffer config a).2 ↔ q.reusedBuffer config = none := by
  cases hreused : q.reusedBuffer config with
  | some buffer =>
    obtain ⟨⟨e, he, -⟩, htaken⟩ := requestBuffer_of_reused h hfresh hreused
    refine ⟨fun hleak => ?_, fun hcase => (by cases hcase)⟩
    have hcached := hleak.cached _ e he
    rw [find_requestAndDetachBuffer] at hcached
    rcases htaken with htaken | hgone
    · rw [if_pos htaken] at hcached
      cases hcached
    · rw [hgone, ite_self] at hcached
      cases hcached
  | none =>
    have hkept := requestBuffer_of_not_reused (a := a) h hreused
    refine ⟨fun _ => rfl, fun _ => .of_find fun k => ?_⟩
    rw [find_requestAndDetachBuffer]
    split at hkept
    · by_cases hk : k = a.sequence
      · rw [hk, if_pos ⟨hkept.1, hkept.2.1⟩, hfresh]
      · rw [if_neg fun hcase => hk (hcase.2.symm.trans hkept.2.1), hkept.2.2 k hk]
    · rw [if_neg fun hcase => hkept.1 hcase.1, hkept.2 k]

end BufferQueue

end GraphicSurface
