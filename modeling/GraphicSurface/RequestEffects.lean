import GraphicSurface.DeletionNotices
import GraphicSurface.RequestOutcome

/-! What a request does to the queue as a whole: the buffer it hands out, the one buffer it may
delete for it, and the states, configurations and list places of all others. -/

namespace GraphicSurface

open SlotPool Runs

def BufferElement.standing (e : BufferElement) : BufferState × BufferRequestConfig :=
  (e.state, e.config)

/-- All buffers but these keep their state, their configuration and their places. `order` is the
free list that the places are told from. -/
structure Spares (gone order : List ℕ) (q q' : BufferQueue) : Prop where
  entries : ∀ k ∉ gone, (q'.bufferQueueCache.find k).map BufferElement.standing =
    (q.bufferQueueCache.find k).map BufferElement.standing
  freeList : q'.freeList = order.filter (· ∉ gone)
  dirtyList : q'.dirtyList = q.dirtyList.filter (· ∉ gone)

namespace Spares

variable {gone order : List ℕ} {q q₁ q₂ : BufferQueue} {k : ℕ}

theorem step (h : Spares gone order q q₁) (hk : k ∈ gone)
    (hother : ∀ j, j ≠ k → q₂.bufferQueueCache.find j = q₁.bufferQueueCache.find j)
    (hfree : q₂.freeList = q₁.freeList) (hdirty : q₂.dirtyList = q₁.dirtyList) :
    Spares gone order q q₂ where
  entries j hj := by
    have hne : j ≠ k := fun heq => hj (heq ▸ hk)
    rw [hother j hne, h.entries j hj]
  freeList := hfree.trans h.freeList
  dirtyList := hdirty.trans h.dirtyList

theorem leaveOut (h : Spares gone order q q₁) (hfree : k ∉ order) (hdirty : k ∉ q.dirtyList) :
    Spares (k :: gone) order q q₁ := by
  have hfilter (l : List ℕ) (hl : k ∉ l) : l.filter (· ∉ k :: gone) = l.filter (· ∉ gone) := by
    refine List.filter_congr fun j hj => ?_
    have hne : j ≠ k := fun heq => hl (heq ▸ hj)
    simp [hne]
  refine ⟨fun j hj => h.entries j fun hmem => hj (.tail _ hmem), ?_, ?_⟩
  · rw [h.freeList, hfilter order hfree]
  · rw [h.dirtyList, hfilter q.dirtyList hdirty]

theorem refl (q : BufferQueue) : Spares [] q.freeList q q :=
  ⟨fun _ _ => rfl, by simp, by simp⟩

end Spares

namespace BufferQueue

def requestedConfig (q : BufferQueue) (config : BufferRequestConfig) : BufferRequestConfig :=
  { config with usage := config.usage ||| q.defaultUsage }

/-- The cached buffer that a request takes out of its list: the first free one that it can reuse;
else, in a full queue, the oldest free one that is not locked, for which a locked front goes to the
back; else, with the no-block mode on, the oldest pending one. -/
inductive Picks (q : BufferQueue) (config : BufferRequestConfig) (k : ℕ) : List ℕ → Prop
  | reusable (hfind : q.freeList.find? (q.reusable config) = some k) : Picks q config k q.freeList
  | oldest {rest : List ℕ} (hfull : q.unreservedSize ≤ q.getUsedSize)
      (hnone : ∀ j ∈ q.freeList, q.reusable config j = false)
      (hlocked : k ≠ q.acquireLastFlushedBufSequence) (horder : q.rotateLocked = k :: rest) :
      Picks q config k q.rotateLocked
  | pending {rest : List ℕ} (hfull : q.unreservedSize ≤ q.getUsedSize)
      (hnone : q.freeList = [] ∨ q.freeList = [q.acquireLastFlushedBufSequence])
      (hblock : q.requestBufferNoBlockMode = true) (horder : q.dirtyList = k :: rest) :
      Picks q config k q.freeList

/-- The buffer `k` has been deleted for a new one, having another configuration. `deleted` is the
list in which that is told, which a buffer that was never handed out does not enter. -/
structure Replaces (q : BufferQueue) (config : BufferRequestConfig) (k : ℕ) (order : List ℕ)
    (q' : BufferQueue) (deleted : List ℕ) : Prop where
  picked : q.Picks config k order
  old : ∃ e, q.bufferQueueCache.find k = some e ∧ config.same e.config = false ∧
    deleted = q.deletingList ++ if e.isPreAllocBuffer then [] else [k]
  erased : q'.bufferQueueCache.find k = none

/-- A request that succeeds. -/
structure Serves (q : BufferQueue) (config : BufferRequestConfig)
    (r : RequestReply × BufferQueue) : Prop where
  requested : ∃ e, r.2.bufferQueueCache.find r.1.retval.sequence = some e ∧
    e.state = .requested ∧ config.same e.config = true
  before : ∀ e, q.bufferQueueCache.find r.1.retval.sequence = some e → e.Parked
  others : (Spares [r.1.retval.sequence] q.freeList q r.2 ∧
      r.1.retval.deletingBuffers = q.deletingList) ∨
    ∃ k order, q.Replaces config k order r.2 r.1.retval.deletingBuffers ∧
      Spares [r.1.retval.sequence, k] order q r.2

/-- A request that reuses a free buffer as it is: no buffer comes or goes. -/
structure ServesReusable (q : BufferQueue) (config : BufferRequestConfig)
    (r : RequestReply × BufferQueue) : Prop where
  ret : r.1.ret = .ok
  earliest : q.freeList.find? (q.reusable config) = some r.1.retval.sequence
  others : Spares [r.1.retval.sequence] q.freeList q r.2
  cached : ∀ k, (r.2.bufferQueueCache.find k).isSome = (q.bufferQueueCache.find k).isSome
  deleted : r.1.retval.deletingBuffers = q.deletingList

def Refuses (q : BufferQueue) (config : BufferRequestConfig) (q' : BufferQueue) : Prop :=
  (q'.bufferQueueCache = q.bufferQueueCache ∧ q'.freeList = q.freeList ∧
    q'.dirtyList = q.dirtyList ∧ q'.deletingList = q.deletingList) ∨
  ∃ k order, q.Replaces config k order q' q'.deletingList ∧ Spares [k] order q q'

variable {q q' q₁ : BufferQueue} {config : BufferRequestConfig} {buffer : SurfaceBuffer}
  {e : BufferElement} {a : Allocation} {k : ℕ} {order : List ℕ}

/-! Everything after the pop concerns the popped buffer and the new one only. -/

/-- The reply hands out `k`, which is requested now, and the queue is otherwise as before. -/
structure Grants (k : ℕ) (config : BufferRequestConfig) (q : BufferQueue)
    (r : RequestReply × BufferQueue) : Prop where
  ret : r.1.ret = .ok
  sequence : r.1.retval.sequence = k
  deleted : r.1.retval.deletingBuffers = q.deletingList
  requested : ∃ e, r.2.bufferQueueCache.find k = some e ∧ e.state = .requested ∧ e.config = config
  others : ∀ j, j ≠ k → r.2.bufferQueueCache.find j = q.bufferQueueCache.find j
  freeList : r.2.freeList = q.freeList
  dirtyList : r.2.dirtyList = q.dirtyList

theorem updateReuse_grants (needRealloc : Bool) (he : q.bufferQueueCache.find k = some e) :
    Grants k e.config q (q.updateReuseBufferState needRealloc k false) := by
  have hother := fun j (hj : j ≠ k) => find_updateReuse_other needRealloc false he hj
  unfold updateReuseBufferState at hother ⊢
  rw [he] at hother ⊢
  dsimp only at hother ⊢
  simp only [Bool.false_eq_true, if_false] at hother ⊢
  split_ifs at hother ⊢
  · have hcache : ((q.markRequested k).addDeletingBuffersLocked []).2.bufferQueueCache.find k =
        some (e.setState .requested) := by
      simp [addDeletingBuffersLocked, markRequested, he]
    refine ⟨rfl, rfl, rfl, ⟨(e.setState .requested).setDelivered, ?_, rfl, rfl⟩, hother, ?_, ?_⟩
    · simp [deliverObject, hcache]
    · exact congrArg Pool.free (pool_deliverObject _ k)
    · exact congrArg Pool.pending (pool_deliverObject _ k)
  · refine ⟨rfl, rfl, rfl, ⟨e.setState .requested, ?_, rfl, rfl⟩, hother, rfl, rfl⟩
    simp [addDeletingBuffersLocked, markRequested, he]

theorem finishRequest_grants {job : AllocJob} {point : ReusePoint}
    (hpoint : point = .setupNewBuffer job ∨ point = .reallocBuffer job) :
    if job.granted a then Grants a.sequence job.config q (q.finishRequest a point)
    else (q.finishRequest a point).1.ret ≠ .ok ∧
      (q.finishRequest a point).2 = { q with isAllocatingBuffer := false } := by
  have hseq : (job.element a).buffer.seqNum = a.sequence := rfl
  split
  · rename_i hgranted
    have hend : q.allocBufferEnd job a = (some (job.element a).buffer,
        { q with
          isAllocatingBuffer := false
          bufferQueueCache := q.bufferQueueCache.put (job.element a) }) := by
      unfold allocBufferEnd
      exact if_pos hgranted
    have hfind : (q.bufferQueueCache.put (job.element a)).find a.sequence =
        some (job.element a) := by
      rw [BufferCache.find_put, if_pos hseq]
    have hother : ∀ j, j ≠ a.sequence →
        (q.bufferQueueCache.put (job.element a)).find j = q.bufferQueueCache.find j :=
      fun j hj => by rw [BufferCache.find_put, if_neg (hseq ▸ hj.symm)]
    rcases hpoint with rfl | rfl
    · simp only [finishRequest, hend]
      exact ⟨rfl, rfl, rfl, ⟨_, hfind, rfl, rfl⟩, hother, rfl, rfl⟩
    · simp only [finishRequest, hend]
      rw [hseq]
      have hgrants := updateReuse_grants (q := { q with
        isAllocatingBuffer := false
        bufferQueueCache := q.bufferQueueCache.put (job.element a) }) true hfind
      exact { hgrants with others := fun j hj => (hgrants.others j hj).trans (hother j hj) }
  · rename_i hgranted
    have hend : q.allocBufferEnd job a = (none, { q with isAllocatingBuffer := false }) := by
      unfold allocBufferEnd
      exact if_neg hgranted
    rcases hpoint with rfl | rfl
    all_goals
      simp only [finishRequest, hend, RequestReply.error, ne_eq, reduceCtorEq, not_false_eq_true,
        true_and]

/-- The queue after the pop of `k`, whose entry was `e`. -/
structure Picked (q : BufferQueue) (config : BufferRequestConfig) (k : ℕ) (e : BufferElement)
    (order : List ℕ) (q₁ : BufferQueue) : Prop where
  picks : q.Picks config k order
  sub : order ⊆ q.freeList
  entry : q.bufferQueueCache.find k = some e
  parked : e.Parked
  popped : ∃ e₁, q₁.bufferQueueCache.find k = some e₁ ∧ e₁.config = e.config ∧
    e₁.isPreAllocBuffer = e.isPreAllocBuffer
  spares : Spares [k] order q q₁
  deleting : q₁.deletingList = q.deletingList

def Meets (q : BufferQueue) (config : BufferRequestConfig) (r : RequestReply × BufferQueue) :
    Prop :=
  (r.1.ret = .ok → q.Serves config r) ∧ (r.1.ret ≠ .ok → q.Refuses config r.2)

theorem uncached_nowhere (h : q.Agrees) (hfresh : q.bufferQueueCache.find k = none) :
    k ∉ q.freeList ∧ k ∉ q.dirtyList := by
  refine ⟨fun hmem => ?_, fun hmem => ?_⟩
  · obtain ⟨e, he, -⟩ := h.state_of_mem_free hmem
    simp [hfresh] at he
  · obtain ⟨e, he, -⟩ := h.state_of_mem_dirty hmem
    simp [hfresh] at he

namespace Picked

/-- Only the pop of the oldest free buffer can rotate the list, and it never fits. -/
theorem order_of_same (h : q.Picked config k e order q₁) (hsame : config.same e.config = true) :
    order = q.freeList := by
  have hentry := h.entry
  have hsub := h.sub
  cases h.picks with
  | reusable => rfl
  | pending => rfl
  | oldest _ hnone hlocked horder =>
    have hmem : k ∈ q.freeList := hsub (by simp [horder])
    have hnot := hnone k hmem
    rw [BufferRequestConfig.same_comm] at hsame
    simp [reusable, hentry, hsame, hlocked] at hnot

theorem reuse_same (h : q.Picked config k e order q₁) (hsame : config.same e.config = true)
    (hseq : buffer.seqNum = k) :
    q₁.reuseBuffer config buffer false =
        (.done (q₁.updateReuseBufferState false k false).1,
          (q₁.updateReuseBufferState false k false).2) ∧
      Grants k e.config q₁ (q₁.updateReuseBufferState false k false) := by
  obtain ⟨e₁, he₁, hconfig, -⟩ := h.popped
  refine ⟨?_, hconfig ▸ updateReuse_grants false he₁⟩
  simp only [reuseBuffer, hseq, he₁, hconfig, hsame, if_true]

theorem meets_of_same (h : q.Picked config k e order q₁) (hsame : config.same e.config = true)
    (hseq : buffer.seqNum = k) :
    q.Meets config ((q₁.reuseBuffer config buffer false).2.finishRequest a
      (q₁.reuseBuffer config buffer false).1) := by
  obtain ⟨hreuse, hgrants⟩ := h.reuse_same hsame hseq
  obtain ⟨e', he', hstate, hconfig⟩ := hgrants.requested
  rw [hreuse]
  change q.Meets config (q₁.updateReuseBufferState false k false)
  refine ⟨fun _ => ⟨⟨e', ?_, hstate, hconfig ▸ hsame⟩, fun e₀ he₀ => ?_, .inl ⟨?_, ?_⟩⟩,
    fun hret => absurd hgrants.ret hret⟩
  · rw [hgrants.sequence, he']
  · rw [hgrants.sequence, h.entry] at he₀
    exact Option.some.inj he₀ ▸ h.parked
  · rw [hgrants.sequence, ← h.order_of_same hsame]
    exact h.spares.step (by simp) hgrants.others hgrants.freeList hgrants.dirtyList
  · rw [hgrants.deleted, h.deleting]

theorem meets_of_other (hq : q.Agrees) (hfresh : q.bufferQueueCache.find a.sequence = none)
    (h : q.Picked config k e order q₁) (hother : config.same e.config = false)
    (hseq : buffer.seqNum = k) :
    q.Meets config ((q₁.reuseBuffer config buffer false).2.finishRequest a
      (q₁.reuseBuffer config buffer false).1) := by
  obtain ⟨e₁, he₁, hconfig, hpre⟩ := h.popped
  set q₂ := { q₁.deleteBufferInCacheNoWaitForAllocatingState k with isAllocatingBuffer := true }
    with hq₂
  set job : AllocJob := ⟨config, (q₁.deleteBufferInCacheNoWaitForAllocatingState k).scalingMode,
    (q₁.deleteBufferInCacheNoWaitForAllocatingState k).videoDimType⟩
  have hreuse : q₁.reuseBuffer config buffer false = (.reallocBuffer job, q₂) := by
    simp only [reuseBuffer, hseq, he₁, hconfig, hother, Bool.false_eq_true, if_false]
    rfl
  have hnot : k ∉ q₁.freeList := by
    rw [h.spares.freeList]
    simp
  have hlists : q₂.freeList = q₁.freeList ∧ q₂.dirtyList = q₁.dirtyList ∧
      q₂.deletingList = q.deletingList ++ if e.isPreAllocBuffer then [] else [k] := by
    rw [← h.deleting, ← hpre]
    simp only [hq₂, deleteBufferInCacheNoWaitForAllocatingState, he₁]
    split
    · exact ⟨List.erase_of_not_mem hnot, rfl, by simp⟩
    · exact ⟨List.erase_of_not_mem hnot, rfl, rfl⟩
  have hfind := find_deleteNoWait q₁ k
  have hspares : Spares [k] order q q₂ :=
    h.spares.step (by simp) (fun j hj => (hfind j).trans (if_neg hj.symm)) hlists.1 hlists.2.1
  have hgone : q₂.bufferQueueCache.find k = none := (hfind k).trans (if_pos rfl)
  have hreplaces {q' : BufferQueue} (hk : q'.bufferQueueCache.find k = none) :
      q.Replaces config k order q' q₂.deletingList :=
    ⟨h.picks, ⟨e, h.entry, hother, hlists.2.2⟩, hk⟩
  have hne : k ≠ a.sequence := by
    intro heq
    have hentry := h.entry
    rw [heq, hfresh] at hentry
    cases hentry
  rw [hreuse]
  have hanswer := finishRequest_grants (q := q₂) (a := a)
    (.inr rfl : ReusePoint.reallocBuffer job = .setupNewBuffer job ∨ _)
  split at hanswer
  · obtain ⟨e', he', hstate, hconfig'⟩ := hanswer.requested
    refine ⟨fun _ => ⟨⟨e', ?_, hstate, hconfig' ▸ config.same_refl⟩, fun e₀ he₀ => ?_,
      .inr ⟨k, order, ?_, ?_⟩⟩, fun hret => absurd hanswer.ret hret⟩
    · rw [hanswer.sequence, he']
    · rw [hanswer.sequence, hfresh] at he₀
      cases he₀
    · rw [hanswer.deleted]
      exact hreplaces ((hanswer.others k hne).trans hgone)
    · obtain ⟨hfree, hdirty⟩ := uncached_nowhere hq hfresh
      rw [hanswer.sequence]
      exact (hspares.leaveOut (fun hmem => hfree (h.sub hmem)) hdirty).step (by simp)
        hanswer.others hanswer.freeList hanswer.dirtyList
  · obtain ⟨hret, hsame⟩ := hanswer
    refine ⟨fun hok => absurd hok hret, fun _ => .inr ⟨k, order, ?_, ?_⟩⟩
    · rw [hsame]
      exact hreplaces hgone
    · rw [hsame]
      exact hspares.step (k := k) (by simp) (fun _ _ => rfl) rfl rfl

theorem meets (hq : q.Agrees) (hfresh : q.bufferQueueCache.find a.sequence = none)
    (h : q.Picked config k e order q₁) (hseq : buffer.seqNum = k) :
    q.Meets config ((q₁.reuseBuffer config buffer false).2.finishRequest a
      (q₁.reuseBuffer config buffer false).1) := by
  cases hsame : config.same e.config with
  | true => exact h.meets_of_same hsame hseq
  | false => exact meets_of_other hq hfresh h hsame hseq

end Picked

theorem filter_absent {l : List ℕ} (hk : k ∉ l) : l.filter (· ∉ [k]) = l := by
  refine List.filter_eq_self.mpr fun j hj => ?_
  have hne : j ≠ k := fun heq => hk (heq ▸ hj)
  simp [hne]

theorem filter_front {l : List ℕ} (hnodup : (k :: l).Nodup) : (k :: l).filter (· ∉ [k]) = l := by
  have hskip : (k :: l).filter (· ∉ [k]) = l.filter (· ∉ [k]) :=
    List.filter_cons_of_neg (by simp)
  rw [hskip, filter_absent (List.nodup_cons.mp hnodup).1]

theorem picked_reusable (h : q.Agrees) (hfind : q.freeList.find? (q.reusable config) = some k) :
    ∃ e, q.popFromFreeListLocked config =
        (some e.buffer, { q with freeList := q.freeList.erase k }) ∧ e.buffer.seqNum = k ∧
      config.same e.config = true ∧
      q.Picked config k e q.freeList { q with freeList := q.freeList.erase k } := by
  have hmem := List.mem_of_find?_eq_some hfind
  obtain ⟨e, he, hstate⟩ := h.state_of_mem_free hmem
  have hreusable : q.reusable config k = true := List.find?_some hfind
  simp only [reusable, he, Bool.and_eq_true] at hreusable
  have hdirty : k ∉ q.dirtyList := h.disjoint hmem
  refine ⟨e, ?_, BufferCache.seqNum_of_find he, ?_, .reusable hfind, List.Subset.refl _, he,
    .inl hstate, ⟨e, he, rfl, rfl⟩, ⟨fun _ _ => rfl, ?_, ?_⟩, rfl⟩
  · simp only [popFromFreeListLocked, hfind, he, Option.map_some]
  · rw [BufferRequestConfig.same_comm]
    exact hreusable.1
  · have hnodup : q.freeList.Nodup := h.free_nodup
    change q.freeList.erase k = _
    rw [hnodup.erase_eq_filter]
    exact List.filter_congr fun j _ => by by_cases hj : j = k <;> simp [hj]
  · exact (filter_absent hdirty).symm

theorem PopsOldest.picked {rest : List ℕ} (h : q.Agrees) (hpop : q.PopsOldest config k rest e)
    (hnone : ∀ j ∈ q.freeList, q.reusable config j = false) :
    q.Picked config k e q.rotateLocked (q.popFromFreeListLocked config).2 := by
  have hperm := mem_rotateLocked q
  have hmem : k ∈ q.freeList := hperm.subset (by simp [hpop.order])
  have hnodup : (k :: rest).Nodup := hpop.order ▸ hperm.symm.nodup h.free_nodup
  have hdirty : k ∉ q.dirtyList := h.disjoint hmem
  obtain ⟨e₀, he₀, hstate⟩ := h.state_of_mem_free hmem
  rw [hpop.entry, Option.some.injEq] at he₀
  subst he₀
  rw [hpop.pop]
  refine ⟨.oldest hpop.full hnone hpop.unlocked hpop.order, hperm.subset, hpop.entry, .inl hstate,
    ⟨e.recolour config.colorGamut config.transform, ?_, rfl, rfl⟩, ⟨fun j hj => ?_, ?_, ?_⟩, rfl⟩
  · simp [hpop.entry]
  · have hne : k ≠ j := fun heq => hj (by simp [heq])
    simp [hne]
  · rw [hpop.order, filter_front hnodup]
  · exact (filter_absent hdirty).symm

theorem picked_pending {rest : List ℕ} (h : q.Agrees) (hfull : q.unreservedSize ≤ q.getUsedSize)
    (hnone : q.freeList = [] ∨ q.freeList = [q.acquireLastFlushedBufSequence])
    (hblock : q.requestBufferNoBlockMode = true) (horder : q.dirtyList = k :: rest)
    (he : q.bufferQueueCache.find k = some e) :
    q.Picked config k e q.freeList { q with
      dirtyList := rest
      bufferQueueCache := q.bufferQueueCache.modify k
        (BufferElement.recolour config.colorGamut config.transform)
        (BufferElement.recolour_seqNum _ _) } := by
  have hmem : k ∈ q.dirtyList := by simp [horder]
  have hnodup : (k :: rest).Nodup := horder ▸ h.pending_nodup
  obtain ⟨e₀, he₀, hstate⟩ := h.state_of_mem_dirty hmem
  rw [he, Option.some.injEq] at he₀
  subst he₀
  refine ⟨.pending hfull hnone hblock horder, List.Subset.refl _, he, .inr hstate,
    ⟨e.recolour config.colorGamut config.transform, ?_, rfl, rfl⟩, ⟨fun j hj => ?_, ?_, ?_⟩, rfl⟩
  · simp [he]
  · have hne : k ≠ j := fun heq => hj (by simp [heq])
    simp [hne]
  · exact (filter_absent fun hfree : k ∈ q.freeList => h.disjoint hfree hmem).symm
  · rw [horder, filter_front hnodup]

theorem meets_of_setup (h : q.Agrees) (hfresh : q.bufferQueueCache.find a.sequence = none) :
    q.Meets config ((q.setupNewBufferLocked config).2.finishRequest a
      (q.setupNewBufferLocked config).1) := by
  set job := (q.allocBufferBegin config).1
  have hanswer := finishRequest_grants (q := (q.setupNewBufferLocked config).2) (a := a)
    (.inl rfl : ReusePoint.setupNewBuffer job = .setupNewBuffer job ∨ _)
  change q.Meets config ((q.setupNewBufferLocked config).2.finishRequest a
    (.setupNewBuffer job))
  split at hanswer
  · obtain ⟨e, he, hstate, hconfig⟩ := hanswer.requested
    have hconfig : e.config = config := hconfig
    obtain ⟨hfree, hdirty⟩ := uncached_nowhere h hfresh
    refine ⟨fun _ => ⟨⟨e, ?_, hstate, hconfig ▸ config.same_refl⟩, fun e₀ he₀ => ?_,
      .inl ⟨?_, hanswer.deleted⟩⟩, fun hret => absurd hanswer.ret hret⟩
    · rw [hanswer.sequence, he]
    · rw [hanswer.sequence, hfresh] at he₀
      cases he₀
    · rw [hanswer.sequence]
      exact ((Spares.refl q).leaveOut hfree hdirty).step (by simp) hanswer.others hanswer.freeList
        hanswer.dirtyList
  · obtain ⟨hret, hsame⟩ := hanswer
    exact ⟨fun hok => absurd hok hret, fun _ => .inl (by rw [hsame]; exact ⟨rfl, rfl, rfl, rfl⟩)⟩

theorem meets_of_refused {reply : RequestReply} (hret : reply.ret ≠ .ok) :
    q.Meets config (reply, q) :=
  ⟨fun hok => absurd hok hret, fun _ => .inl ⟨rfl, rfl, rfl, rfl⟩⟩

theorem reuseBufferForNoBlockMode_meets (h : q.Agrees)
    (hfresh : q.bufferQueueCache.find a.sequence = none)
    (hfull : q.unreservedSize ≤ q.getUsedSize)
    (hnone : q.freeList = [] ∨ q.freeList = [q.acquireLastFlushedBufSequence])
    (hblock : q.requestBufferNoBlockMode = true) :
    q.Meets config ((q.reuseBufferForNoBlockMode config).2.finishRequest a
      (q.reuseBufferForNoBlockMode config).1) := by
  unfold reuseBufferForNoBlockMode
  split
  · rename_i buffer q₁ hpop
    obtain ⟨rest, e, hdirty, he, rfl, rfl⟩ := popFromDirtyListLocked_some hpop
    exact (picked_pending h hfull hnone hblock hdirty he).meets h hfresh rfl
  · rename_i q₁ hpop
    obtain ⟨rfl, -⟩ := popFromDirtyListLocked_none h hpop
    exact meets_of_refused (by simp [RequestReply.error])

theorem requestBufferCheck_ok {updateConfig : BufferRequestConfig}
    (hcheck : q.requestBufferCheck config = .ok updateConfig) :
    updateConfig = q.requestedConfig config := by
  unfold requestBufferCheck at hcheck
  dsimp only at hcheck
  split_ifs at hcheck
  exact (Except.ok.inj hcheck).symm

theorem requestBuffer_meets (h : q.Agrees) (hfresh : q.bufferQueueCache.find a.sequence = none) :
    q.Meets (q.requestedConfig config) (q.requestBuffer config a) := by
  rw [requestBuffer_eq]
  cases hcheck : q.requestBufferCheck config with
  | error ret =>
    have hpoint : q.requestPoint config = (.done (.error ret), q) := by
      unfold requestPoint
      rw [hcheck]
    rw [hpoint]
    exact meets_of_refused (requestBufferCheck_error hcheck)
  | ok updateConfig =>
    obtain rfl := requestBufferCheck_ok hcheck
    cases hprio : q.isPriorityAlloc && decide (q.getUsedSize < q.unreservedSize) with
    | true =>
      rw [requestPoint_of_check hcheck (requestBufferBody_of_priority hprio)]
      exact meets_of_setup h hfresh
    | false =>
      cases hfind : q.freeList.find? (q.reusable (q.requestedConfig config)) with
      | some k =>
        obtain ⟨e, hpop, hseq, -, hpicked⟩ := picked_reusable h hfind
        rw [requestPoint_of_check hcheck (requestBufferBody_of_some hprio hpop)]
        exact hpicked.meets h hfresh hseq
      | none =>
        have hnone : ∀ j ∈ q.freeList, q.reusable (q.requestedConfig config) j = false := by
          simpa using List.find?_eq_none.mp hfind
        rcases pop_of_not_reusable h (List.any_eq_false.mpr (by simpa using hnone)) with
          ⟨hpop, hwhy⟩ | ⟨front, rest, e, hoff⟩
        · have hbody := requestBufferBody_of_none hprio hpop
          by_cases hfull : q.unreservedSize ≤ q.getUsedSize
          · have hfree : q.freeList = [] ∨ q.freeList = [q.acquireLastFlushedBufSequence] :=
              hwhy.imp_right fun h => h.resolve_left (not_lt.mpr hfull)
            rw [if_pos hfull] at hbody
            by_cases hblock : q.requestBufferNoBlockMode = true
            · rw [if_pos hblock] at hbody
              rw [requestPoint_of_check hcheck hbody]
              exact reuseBufferForNoBlockMode_meets h hfresh hfull hfree hblock
            · rw [if_neg hblock] at hbody
              obtain ⟨hsame, reply, hdone, hret⟩ := reuseBufferForBlockMode_refuses hpop
              rw [requestPoint_of_check hcheck hbody, goOn, hsame, hdone]
              exact meets_of_refused hret
          · rw [if_neg hfull] at hbody
            rw [requestPoint_of_check hcheck hbody]
            exact meets_of_setup h hfresh
        · have hpicked := hoff.picked h hnone
          have hpop := hoff.pop
          rw [requestPoint_of_check hcheck (requestBufferBody_of_some hprio hpop)]
          rw [hpop] at hpicked
          exact hpicked.meets h hfresh
            ((BufferElement.recolour_seqNum _ _ e).trans (BufferCache.seqNum_of_find hoff.entry))

theorem requestBuffer_servesReusable (h : q.Agrees) {updateConfig : BufferRequestConfig}
    (hcheck : q.requestBufferCheck config = .ok updateConfig)
    (hprio : q.isPriorityAlloc = false ∨ q.unreservedSize ≤ q.getUsedSize)
    (hfit : ∃ k ∈ q.freeList, q.reusable updateConfig k = true) :
    q.ServesReusable updateConfig (q.requestBuffer config a) ∧
      ∀ a', q.requestBuffer config a' = q.requestBuffer config a := by
  have hprio : (q.isPriorityAlloc && decide (q.getUsedSize < q.unreservedSize)) = false := by
    rcases hprio with hprio | hfull
    · simp [hprio]
    · simp [hfull]
  obtain ⟨k, hfind⟩ := Option.isSome_iff_exists.mp (List.find?_isSome.mpr hfit)
  obtain ⟨e, hpop, hseq, hsame, hpicked⟩ := picked_reusable h hfind
  obtain ⟨hreuse, hgrants⟩ := hpicked.reuse_same hsame hseq
  have hpoint := requestPoint_of_check hcheck (requestBufferBody_of_some hprio hpop)
  rw [hreuse] at hpoint
  have hrequest (a' : Allocation) : q.requestBuffer config a' =
      ({ q with freeList := q.freeList.erase k } : BufferQueue).updateReuseBufferState false k
        false := by
    rw [requestBuffer_eq, hpoint]
    rfl
  rw [hrequest a]
  have hfirst := hfind.trans (congrArg some hgrants.sequence.symm)
  refine ⟨⟨hgrants.ret, hfirst, ?_, fun j => ?_, hgrants.deleted⟩, hrequest⟩
  · rw [hgrants.sequence]
    exact hpicked.spares.step (by simp) hgrants.others hgrants.freeList hgrants.dirtyList
  · by_cases hj : j = k
    · obtain ⟨e', he', -⟩ := hgrants.requested
      rw [hj, he', hpicked.entry]
      rfl
    · rw [hgrants.others j hj]

end BufferQueue

def lockedFront : List Op :=
  [.requestBuffer sampleConfig ⟨1, 1, true, true⟩, .requestBuffer sampleConfig ⟨2, 2, true, true⟩,
    .requestBuffer sampleConfig ⟨3, 3, true, true⟩,
    .flushBuffer ⟨1, some ∅, invalidFence, ⟨[], 0, 0⟩, ⟨.ok, 0⟩⟩, .acquireLastFlushedBuffer,
    .acquireBuffer 0, .releaseBuffer 1 none ⟨0, 0, fun _ => true⟩, .cancelBuffer 2 (some ∅),
    .cancelBuffer 3 (some ∅)]

theorem reachable_lockedFront :
    Reachable (execute Op.next (BufferQueue.start { listener := true }) lockedFront) :=
  Reachable.of_legal
    (show Legal _ _ (BufferQueue.start { listener := true }) lockedFront by decide)

def widerConfig : BufferRequestConfig := { sampleConfig with width := 11 }

end GraphicSurface
