import GraphicSurface.BlockedRequests
import GraphicSurface.RequestOutcome

/-! When a request sends no object: the buffer that it reuses has the wanted configuration, and no
flag says that the producer is without the object. The queue before the request tells. -/

namespace GraphicSurface

namespace BufferQueue

/-- The number that a request answers with and without the object. -/
def omittedBuffer (q : BufferQueue) (config : BufferRequestConfig) : Option ℕ := do
  let updateConfig ← (q.requestBufferCheck config).toOption
  let buffer ← q.reusedBuffer config
  let ele ← q.bufferQueueCache.find buffer.seqNum
  if updateConfig.same ele.config && !q.needsObject false ele then some buffer.seqNum else none

/-- A batch finds nothing for its first request and has no room for a new buffer. -/
def hasNoBuffer (q : BufferQueue) (config : BufferRequestConfig) : Prop :=
  (q.requestBufferCheck config).isOk ∧ q.reusedBuffer config = none ∧
    q.unreservedSize ≤ q.getUsedSize

instance (q : BufferQueue) (config : BufferRequestConfig) : Decidable (q.hasNoBuffer config) :=
  inferInstanceAs (Decidable (_ ∧ _ ∧ _))

/-- Every entry is still there, with what decides whether its object is sent. -/
structure KeepsMarks (q q' : BufferQueue) : Prop where
  getUsedSize : q'.getUsedSize = q.getUsedSize
  entries : ∀ k e, q.bufferQueueCache.find k = some e → ∃ e',
    q'.bufferQueueCache.find k = some e' ∧ e'.config = e.config ∧
      q'.needsObject false e' = q.needsObject false e

variable {q q₁ q' : BufferQueue} {config updateConfig : BufferRequestConfig}
  {buffer : SurfaceBuffer} {e : BufferElement} {a : Allocation} {k : ℕ}

namespace KeepsMarks

theorem of_cache (h : q'.bufferQueueCache = q.bufferQueueCache)
    (hclean : q'.producerCacheClean = q.producerCacheClean) : KeepsMarks q q' where
  getUsedSize := congrArg BufferCache.size h
  entries k e he := ⟨e, by rw [h, he], rfl, by rw [needsObject, hclean]; rfl⟩

theorem of_recolour {colorGamut transform : Int}
    (h : q'.bufferQueueCache = q.bufferQueueCache.modify k
      (BufferElement.recolour colorGamut transform) (BufferElement.recolour_seqNum _ _))
    (hclean : q'.producerCacheClean = q.producerCacheClean) : KeepsMarks q q' where
  getUsedSize := (congrArg BufferCache.size h).trans (BufferCache.size_modify _ _ _ _)
  entries k' e he := by
    rw [h, BufferCache.find_modify, he]
    split_ifs
    · exact ⟨_, rfl, rfl, by rw [needsObject, hclean]; rfl⟩
    · exact ⟨e, rfl, rfl, by rw [needsObject, hclean]; rfl⟩

theorem trans (h : KeepsMarks q q₁) (h' : KeepsMarks q₁ q') : KeepsMarks q q' where
  getUsedSize := h'.getUsedSize.trans h.getUsedSize
  entries k e he := by
    obtain ⟨e₁, he₁, hconfig, hneeds⟩ := h.entries k e he
    obtain ⟨e', he', hconfig', hneeds'⟩ := h'.entries k e₁ he₁
    exact ⟨e', he', hconfig'.trans hconfig, hneeds'.trans hneeds⟩

end KeepsMarks

theorem popFromFreeListLocked_keepsMarks (q : BufferQueue) (config : BufferRequestConfig) :
    KeepsMarks q (q.popFromFreeListLocked config).2 :=
  popFromFreeListLocked_induct q config (fun _ => .of_cache rfl rfl) (.of_cache rfl rfl)
    fun _ _ => .of_recolour rfl rfl

theorem popFromDirtyListLocked_keepsMarks (q : BufferQueue) :
    KeepsMarks q q.popFromDirtyListLocked.2 :=
  popFromDirtyListLocked_induct q (fun _ => .of_cache rfl rfl) (.of_cache rfl rfl)

theorem reuseBufferForNoBlockMode_of_front (config : BufferRequestConfig)
    (hfront : q.popFromDirtyListLocked = (some buffer, q₁)) :
    q.reuseBufferForNoBlockMode config =
      { q₁ with
        bufferQueueCache := q₁.bufferQueueCache.modify buffer.seqNum
          (BufferElement.recolour config.colorGamut config.transform)
          (BufferElement.recolour_config_seqNum config) }.reuseBuffer config
        (buffer.setColorGamutAndTransform config.colorGamut config.transform) false := by
  unfold reuseBufferForNoBlockMode
  rw [hfront]

/-- A request that reuses a buffer comes down to `ReuseBuffer`, with nothing changed before it but a
list and a colour. -/
theorem requestPoint_eq_reuseBuffer (hcheck : q.requestBufferCheck config = .ok updateConfig)
    (h : q.Agrees) (hreused : q.reusedBuffer config = some buffer) :
    ∃ q₁ buffer₁, KeepsMarks q q₁ ∧ buffer₁.seqNum = buffer.seqNum ∧
      q.requestPoint config = q₁.reuseBuffer updateConfig buffer₁ false := by
  have hfree := q.popFromFreeListLocked_keepsMarks updateConfig
  unfold reusedBuffer at hreused
  rw [hcheck] at hreused
  dsimp only at hreused
  split at hreused
  · cases hreused
  rename_i hprio
  have hprio := Bool.eq_false_iff.mpr hprio
  rcases hpop : q.popFromFreeListLocked updateConfig with ⟨_ | popped, q₁⟩
  · obtain rfl := popFromFreeListLocked_none h hpop
    have hbody := requestBufferBody_of_none hprio hpop
    rw [hpop] at hreused
    dsimp only at hreused
    split_ifs at hreused with hfull
    rw [if_pos hfull.1, if_pos hfull.2] at hbody
    rw [requestPoint_of_check hcheck hbody]
    have hdirty := q₁.popFromDirtyListLocked_keepsMarks
    rcases hfront : q₁.popFromDirtyListLocked with ⟨_ | front, q₂⟩
    · rw [hfront] at hreused
      cases hreused
    · rw [hfront] at hreused hdirty
      obtain rfl := Option.some.inj hreused
      have hpoint := reuseBufferForNoBlockMode_of_front updateConfig hfront
      refine ⟨_, _, ?_, ?_, hpoint⟩
      · exact hdirty.trans (.of_recolour rfl rfl)
      · rfl
  · rw [hpop] at hreused hfree
    obtain rfl := Option.some.inj hreused
    rw [requestPoint_of_check hcheck (requestBufferBody_of_some hprio hpop)]
    exact ⟨q₁, popped, hfree, rfl, rfl⟩

theorem check_of_reused (hreused : q.reusedBuffer config = some buffer) :
    ∃ updateConfig, q.requestBufferCheck config = .ok updateConfig := by
  unfold reusedBuffer at hreused
  split at hreused
  · cases hreused
  · rename_i updateConfig hcheck
    exact ⟨updateConfig, hcheck⟩

theorem omittedBuffer_of_not_reused (hreused : q.reusedBuffer config = none) :
    q.omittedBuffer config = none := by
  unfold omittedBuffer
  rw [hreused]
  cases q.requestBufferCheck config <;> rfl

theorem omittedBuffer_of_reused (hcheck : q.requestBufferCheck config = .ok updateConfig)
    (hreused : q.reusedBuffer config = some buffer)
    (he : q.bufferQueueCache.find buffer.seqNum = some e) :
    q.omittedBuffer config = some k ↔
      updateConfig.same e.config = true ∧ q.needsObject false e = false ∧ buffer.seqNum = k := by
  simp [omittedBuffer, hcheck, hreused, he, Except.toOption, and_assoc]

theorem reuseBuffer_of_find (config : BufferRequestConfig)
    (he : q.bufferQueueCache.find buffer.seqNum = some e) :
    q.reuseBuffer config buffer false =
      if config.same e.config then
        (.done (q.updateReuseBufferState false buffer.seqNum false).1,
          (q.updateReuseBufferState false buffer.seqNum false).2)
      else q.reallocBufferLocked config buffer.seqNum := by
  unfold reuseBuffer
  rw [he]
  rfl

theorem updateReuse_omits_iff (he : q.bufferQueueCache.find k = some e) (needRealloc : Bool) :
    (q.updateReuseBufferState needRealloc k false).1.ret = .ok ∧
      ((q.updateReuseBufferState needRealloc k false).1.retval.buffer = none ↔
        q.needsObject needRealloc e = false) := by
  have hneeds : ((q.markRequested k).addDeletingBuffersLocked []).2.needsObject needRealloc e =
      q.needsObject needRealloc e := rfl
  unfold updateReuseBufferState
  rw [he]
  dsimp only
  rw [hneeds]
  cases q.needsObject needRealloc e with
  | true => exact ⟨rfl, iff_of_false nofun nofun⟩
  | false => exact ⟨rfl, iff_of_true rfl rfl⟩

theorem finishRequest_sends (q : BufferQueue) (a : Allocation) {point : ReusePoint} {job : AllocJob}
    (hpoint : point = .setupNewBuffer job ∨ point = .reallocBuffer job)
    (hret : (q.finishRequest a point).1.ret = .ok) :
    (q.finishRequest a point).1.retval.buffer ≠ none := by
  rcases hpoint with rfl | rfl
  · unfold finishRequest at hret ⊢
    dsimp only at hret ⊢
    split at hret
    · cases hret
    · rename_i b q₁ hend
      exact Option.some_ne_none b
  · unfold finishRequest at hret ⊢
    dsimp only at hret ⊢
    split at hret
    · cases hret
    · rename_i b q₁ hend
      cases he : q₁.bufferQueueCache.find b.seqNum with
      | none =>
        unfold updateReuseBufferState at hret
        rw [he] at hret
        cases hret
      | some e =>
        rw [Ne, (updateReuse_omits_iff he true).2]
        simp [needsObject]

/-- A request for the configuration that the reused buffer has is all in `UpdateReuseBufferState`. -/
theorem requestBuffer_of_same (hcheck : q.requestBufferCheck config = .ok updateConfig)
    (h : q.Agrees) (hreused : q.reusedBuffer config = some buffer)
    (he : q.bufferQueueCache.find buffer.seqNum = some e) :
    ∃ q₁ e₁, KeepsMarks q q₁ ∧ q₁.bufferQueueCache.find buffer.seqNum = some e₁ ∧
      q₁.needsObject false e₁ = q.needsObject false e ∧
      if updateConfig.same e.config then
        q.requestBuffer config a = q₁.updateReuseBufferState false buffer.seqNum false
      else ∃ job, (q.requestPoint config).1 = .reallocBuffer job := by
  obtain ⟨q₁, buffer₁, hmarks, hseqNum, hpoint⟩ := requestPoint_eq_reuseBuffer hcheck h hreused
  obtain ⟨e₁, he₁, hconfig, hneeds⟩ := hmarks.entries _ e he
  refine ⟨q₁, e₁, hmarks, he₁, hneeds, ?_⟩
  have hreuse := reuseBuffer_of_find updateConfig (hseqNum ▸ he₁)
  rw [← hpoint, hconfig, hseqNum] at hreuse
  split_ifs at hreuse ⊢ with hsame
  · rw [requestBuffer_eq, hreuse]
    rfl
  · rw [hreuse]
    exact ⟨_, rfl⟩

theorem requestBuffer_omits_iff (h : q.Agrees) (config : BufferRequestConfig) (a : Allocation) :
    (q.requestBuffer config a).1.ret = .ok ∧
        (q.requestBuffer config a).1.retval.buffer = none ∧
        (q.requestBuffer config a).1.retval.sequence = k ↔
      q.omittedBuffer config = some k := by
  have hnew {job : AllocJob} (hpoint : (q.requestPoint config).1 = .setupNewBuffer job ∨
      (q.requestPoint config).1 = .reallocBuffer job) :
      ¬ ((q.requestBuffer config a).1.ret = .ok ∧
        (q.requestBuffer config a).1.retval.buffer = none ∧
        (q.requestBuffer config a).1.retval.sequence = k) := by
    rw [requestBuffer_eq]
    exact fun hreply => finishRequest_sends _ a hpoint hreply.1 hreply.2.1
  cases hreused : q.reusedBuffer config with
  | none =>
    rw [omittedBuffer_of_not_reused hreused]
    refine iff_of_false ?_ (by simp)
    obtain ⟨-, ⟨updateConfig, -, -, hsetup⟩ | ⟨-, reply, hdone, hret⟩⟩ :=
      requestPoint_of_not_reused h hreused
    · exact hnew (.inl hsetup)
    · rw [requestBuffer_eq, hdone]
      exact fun hreply => hret hreply.1
  | some buffer =>
    obtain ⟨updateConfig, hcheck⟩ := check_of_reused hreused
    obtain ⟨⟨e, he, -⟩, -⟩ := requestPoint_of_reused h hreused
    obtain ⟨q₁, e₁, -, he₁, hneeds, hrequest⟩ := requestBuffer_of_same hcheck h hreused he
    rw [omittedBuffer_of_reused hcheck hreused he]
    split_ifs at hrequest with hsame
    · obtain ⟨hret, hbuffer⟩ := updateReuse_omits_iff he₁ false
      rw [hrequest, hret, hbuffer, hneeds, sequence_updateReuse false false he₁, hsame]
      simp only [true_and]
    · obtain ⟨job, hpoint⟩ := hrequest
      exact iff_of_false (hnew (.inr hpoint)) fun homits => hsame homits.1

theorem requestBuffer_omits_size (h : q.Agrees) (hk : q.omittedBuffer config = some k)
    (a : Allocation) : (q.requestBuffer config a).2.getUsedSize = q.getUsedSize := by
  cases hreused : q.reusedBuffer config with
  | none =>
    rw [omittedBuffer_of_not_reused hreused] at hk
    cases hk
  | some buffer =>
    obtain ⟨updateConfig, hcheck⟩ := check_of_reused hreused
    obtain ⟨⟨e, he, -⟩, -⟩ := requestPoint_of_reused h hreused
    obtain ⟨q₁, e₁, hmarks, -, -, hrequest⟩ := requestBuffer_of_same hcheck h hreused he
    rw [omittedBuffer_of_reused hcheck hreused he] at hk
    rw [if_pos hk.1] at hrequest
    rw [hrequest, getUsedSize_updateReuse, hmarks.getUsedSize]

theorem requestPoint_of_full (h : q.Agrees) (hbatch : q.isBatch = true)
    (hcheck : q.requestBufferCheck config = .ok updateConfig) (hreused : q.reusedBuffer config = none)
    (hfull : q.unreservedSize ≤ q.getUsedSize) :
    (q.requestPoint config).1 = .done (.error .noBuffer) := by
  have hprio : (q.isPriorityAlloc && decide (q.getUsedSize < q.unreservedSize)) = false := by
    rw [decide_eq_false (Nat.not_lt.mpr hfull), Bool.and_false]
  unfold reusedBuffer at hreused
  rw [hcheck] at hreused
  simp only [hprio, Bool.false_eq_true, if_false] at hreused
  split at hreused
  · cases hreused
  rename_i hpopped
  have hpop : q.popFromFreeListLocked updateConfig = (none, q) :=
    Prod.ext hpopped (popFromFreeListLocked_none h (Prod.ext hpopped rfl))
  have hbody := requestBufferBody_of_none hprio hpop
  rw [if_pos hfull] at hbody
  split_ifs at hbody with hblock
  · rw [if_pos ⟨hfull, hblock⟩] at hreused
    have hfront : q.popFromDirtyListLocked = (none, q.popFromDirtyListLocked.2) :=
      Prod.ext hreused rfl
    rw [requestPoint_of_check hcheck hbody]
    dsimp only [goOn]
    unfold reuseBufferForNoBlockMode
    rw [hfront]
  · rw [requestPoint_of_check hcheck hbody]
    dsimp only [goOn]
    unfold reuseBufferForBlockMode
    rw [hpop, hbatch]
    simp only [Bool.not_true, Bool.and_false, Bool.false_eq_true, if_false]

/-- A request of a batch fails with `GSERROR_NO_BUFFER` when there is nothing to reuse and no room. -/
theorem requestBuffer_noBuffer_iff (h : q.Agrees) (hbatch : q.isBatch = true)
    (config : BufferRequestConfig) (a : Allocation) :
    (q.requestBuffer config a).1.ret = .noBuffer ↔ q.hasNoBuffer config := by
  have hnew {job : AllocJob} (hpoint : (q.requestPoint config).1 = .setupNewBuffer job ∨
      (q.requestPoint config).1 = .reallocBuffer job) :
      (q.requestBuffer config a).1.ret ≠ .noBuffer := by
    rw [requestBuffer_eq]
    refine finishRequest_not_noBuffer fun reply hdone => ?_
    rcases hpoint with hpoint | hpoint <;> rw [hdone] at hpoint <;> cases hpoint
  cases hreused : q.reusedBuffer config with
  | some buffer =>
    obtain ⟨updateConfig, hcheck⟩ := check_of_reused hreused
    obtain ⟨⟨e, he, -⟩, -⟩ := requestPoint_of_reused h hreused
    obtain ⟨q₁, e₁, -, -, -, hrequest⟩ := requestBuffer_of_same (a := a) hcheck h hreused he
    have hcached : ¬ q.hasNoBuffer config := by simp [hasNoBuffer, hreused]
    refine iff_of_false ?_ hcached
    split_ifs at hrequest
    · rw [hrequest]
      exact updateReuse_not_noBuffer false _
    · obtain ⟨job, hpoint⟩ := hrequest
      exact hnew (.inr hpoint)
  | none =>
    cases hcheck : q.requestBufferCheck config with
    | error ret =>
      have hchecked : ¬ q.hasNoBuffer config := by
        simp [hasNoBuffer, hcheck, Except.toBool, Except.isOk]
      refine iff_of_false ?_ hchecked
      rw [requestBuffer_eq, requestPoint, hcheck]
      exact requestBufferCheck_not_noBuffer hcheck
    | ok updateConfig =>
      by_cases hfull : q.unreservedSize ≤ q.getUsedSize
      · refine iff_of_true ?_ ⟨by rw [hcheck]; rfl, hreused, hfull⟩
        rw [requestBuffer_eq, requestPoint_of_full h hbatch hcheck hreused hfull]
        rfl
      · refine iff_of_false ?_ fun hnone => hfull hnone.2.2
        obtain ⟨-, ⟨_, -, -, hsetup⟩ | ⟨hnoroom, -⟩⟩ := requestPoint_of_not_reused h hreused
        · exact hnew (.inl hsetup)
        · exact absurd (hnoroom updateConfig hcheck) hfull

theorem requestBuffersLoop_of_ok (as : List Allocation)
    (h : (q.requestBuffer config a).1.ret = .ok) :
    (q.requestBuffersLoop config (a :: as)).2.1 ≠ [] := by
  unfold requestBuffersLoop
  dsimp only
  rw [if_neg (not_not.mpr h)]
  exact List.cons_ne_nil _ _

theorem requestBuffersLoop_of_error {as : List Allocation}
    (h : (q.requestBuffer config a).1.ret ≠ .ok) :
    q.requestBuffersLoop config (a :: as) =
      ((q.requestBuffer config a).1.ret, [], (q.requestBuffer config a).2) := by
  unfold requestBuffersLoop
  dsimp only
  rw [if_pos h]

/-- A batch that hands nothing out has the code of its first request, and any other one `OK`. -/
theorem requestBuffers_ok_iff (q : BufferQueue) (config : BufferRequestConfig)
    {as : List Allocation} (has : as ≠ []) :
    (q.requestBuffers config as).1 = .ok ↔ (q.requestBuffers config as).2.1 ≠ [] := by
  obtain ⟨a, as, rfl⟩ := List.exists_cons_of_ne_nil has
  unfold requestBuffers
  dsimp only
  by_cases hret : ({ q with isBatch := true }.requestBuffer config a).1.ret = .ok
  · have hsome := requestBuffersLoop_of_ok as hret
    exact iff_of_true (if_neg hsome) hsome
  · rw [requestBuffersLoop_of_error hret]
    exact iff_of_false hret (not_not.mpr rfl)

theorem requestBuffers_noBuffer_iff (h : q.Agrees) (config : BufferRequestConfig)
    {as : List Allocation} (has : as ≠ []) :
    (q.requestBuffers config as).1 = .noBuffer ↔ { q with isBatch := true }.hasNoBuffer config := by
  obtain ⟨a, as, rfl⟩ := List.exists_cons_of_ne_nil has
  have hfirst := requestBuffer_noBuffer_iff (q := { q with isBatch := true }) h rfl config a
  rw [← hfirst]
  unfold requestBuffers
  dsimp only
  by_cases hret : ({ q with isBatch := true }.requestBuffer config a).1.ret = .ok
  · rw [if_neg (requestBuffersLoop_of_ok _ hret), hret]
  · rw [requestBuffersLoop_of_error hret]
    exact Iff.rfl

end BufferQueue

end GraphicSurface
