import GraphicSurface.Passages
import GraphicSurface.ReservedSlots

/-! `SetQueueSize` with a smaller size. `DeleteBuffersLocked` gets the difference of the two sizes
and goes through the free list, the dirty list and the rest of the map, whatever it meets there. -/

namespace GraphicSurface

open Runs SlotPool BufferElement

namespace BufferCache

theorem keys_sorted (c : BufferCache) : c.keys.Pairwise (· < ·) :=
  Std.ExtTreeMap.ordered_keys.imp fun hlt => compare_lt_iff_lt.mp hlt

theorem keys_eq_filter {c d : BufferCache} {p : ℕ → Bool}
    (h : ∀ k, (d.find k).isSome ↔ (c.find k).isSome ∧ p k = true) :
    d.keys = c.keys.filter p := by
  have hanti : ∀ a b : ℕ, a ∈ d.keys → b ∈ c.keys.filter p → a < b → b < a → a = b := by omega
  refine List.Perm.eq_of_pairwise hanti d.keys_sorted (c.keys_sorted.filter p) ?_
  refine (List.perm_ext_iff_of_nodup d.keys_nodup (c.keys_nodup.filter p)).mpr fun k => ?_
  rw [mem_keys, h, List.mem_filter, mem_keys]

end BufferCache

namespace BufferQueue

variable {q q' : BufferQueue} {n m : ℕ}

def owned (q : BufferQueue) : List ℕ :=
  q.bufferQueueCache.keys.filter fun k => !(q.freeList.contains k || q.dirtyList.contains k)

/-- Every cached buffer, in the order in which `DeleteBuffersLocked` comes to it. -/
def deletionOrder (q : BufferQueue) : List ℕ := q.freeList ++ q.dirtyList ++ q.owned

/-- Cached and not marked `isDeleting`. -/
def spared (q : BufferQueue) (k : ℕ) : Bool :=
  (q.bufferQueueCache.find k).any fun e => !e.isDeleting

def live (q : BufferQueue) : ℕ := (q.bufferQueueCache.keys.filter q.spared).length

def lost (q q' : BufferQueue) : List ℕ :=
  q.bufferQueueCache.keys.filter fun k => q.spared k && !q'.spared k

theorem mem_owned {k : ℕ} : k ∈ q.owned ↔
    (q.bufferQueueCache.find k).isSome ∧ k ∉ q.freeList ∧ k ∉ q.dirtyList := by
  simp [owned]

theorem deletionOrder_nodup (h : q.Agrees) : q.deletionOrder.Nodup := by
  refine List.nodup_append'.mpr ⟨List.nodup_append'.mpr ⟨h.free_nodup, h.pending_nodup, ?_⟩,
    q.bufferQueueCache.keys_nodup.filter _, ?_⟩
  · exact fun k hfree hdirty => h.disjoint hfree hdirty
  · intro k hlists howned
    rw [mem_owned] at howned
    rcases List.mem_append.mp hlists with hk | hk
    · exact howned.2.1 hk
    · exact howned.2.2 hk

theorem deletionOrder_perm (h : q.Agrees) : q.deletionOrder.Perm q.bufferQueueCache.keys := by
  refine (List.perm_ext_iff_of_nodup (deletionOrder_nodup h) q.bufferQueueCache.keys_nodup).mpr
    fun k => ?_
  rw [BufferCache.mem_keys, deletionOrder, List.mem_append, List.mem_append, mem_owned]
  constructor
  · rintro ((hk | hk) | hk)
    · obtain ⟨e, he, -⟩ := h.state_of_mem_free hk
      simp [he]
    · obtain ⟨e, he, -⟩ := h.state_of_mem_dirty hk
      simp [he]
    · exact hk.1
  · intro hk
    tauto

theorem length_deletionOrder (h : q.Agrees) : q.deletionOrder.length = q.getUsedSize := by
  rw [(deletionOrder_perm h).length_eq, BufferCache.length_keys]
  rfl

theorem deleteFree_find (h : q.Agrees) (count : ℕ) :
    (q.deleteFree count).2.freeList = q.freeList.drop count ∧
      (q.deleteFree count).2.dirtyList = q.dirtyList ∧
      ∀ k, (q.deleteFree count).2.bufferQueueCache.find k =
        if k ∈ q.freeList.take count then none else q.bufferQueueCache.find k := by
  induction count generalizing q with
  | zero => simp [deleteFree]
  | succ count ih =>
    unfold deleteFree
    split
    · rename_i hfree
      simp [hfree]
    · rename_i sequence rest hfree
      have hmem : sequence ∈ q.freeList := by simp [hfree]
      have hone := deleteFreeFront_refines h hmem
      obtain ⟨-, hrest, hdirty⟩ := used_deleteFreeFront h hfree
      obtain ⟨hfree', hdirty', hfind⟩ := ih (hone.agrees h)
      refine ⟨by rw [hfree', hrest, hfree, List.drop_succ_cons], hdirty'.trans hdirty, fun k => ?_⟩
      have hfront : (q.deleteFreeFront sequence).bufferQueueCache.find k =
          if sequence = k then none else q.bufferQueueCache.find k := find_deleteNoWait q sequence k
      rw [hfind, hfront, hrest, hfree, List.take_succ_cons]
      by_cases hk : sequence = k
      · simp [hk]
      · simp [hk, Ne.symm hk]

theorem deleteDirty_find (h : q.Agrees) (count : ℕ) :
    (q.deleteDirty count).2.dirtyList = q.dirtyList.drop count ∧
      ∀ k, (q.deleteDirty count).2.bufferQueueCache.find k =
        if k ∈ q.dirtyList.take count then none else q.bufferQueueCache.find k := by
  induction count generalizing q with
  | zero => simp [deleteDirty]
  | succ count ih =>
    unfold deleteDirty
    split
    · rename_i hdirty
      simp [hdirty]
    · rename_i sequence rest hdirty
      have hone := deleteDirtyFront_refines h hdirty
      obtain ⟨hrest, hfind⟩ := ih (hone.agrees h)
      refine ⟨by rw [hrest, hdirty, List.drop_succ_cons]; rfl, fun k => ?_⟩
      have hfront : (q.deleteDirtyFront sequence rest).bufferQueueCache.find k =
          if sequence = k then none else q.bufferQueueCache.find k := find_deleteNoWait q sequence k
      have hlist : (q.deleteDirtyFront sequence rest).dirtyList = rest := rfl
      rw [hfind, hfront, hlist, hdirty, List.take_succ_cons]
      by_cases hk : sequence = k
      · simp [hk]
      · simp [hk, Ne.symm hk]

theorem markDeleting_find (q : BufferQueue) (l : List ℕ) (k : ℕ) :
    (q.markDeleting l).bufferQueueCache.find k =
      if k ∈ l then (q.bufferQueueCache.find k).map setDeleting
      else q.bufferQueueCache.find k := by
  induction l generalizing q with
  | nil => simp [markDeleting]
  | cons sequence rest ih =>
    unfold markDeleting
    rw [ih, BufferCache.find_modify]
    by_cases hk : sequence = k
    · have htwice : setDeleting ∘ setDeleting = setDeleting := rfl
      simp [hk, htwice]
    · simp [hk, Ne.symm hk]

theorem keys_deleteDirty (h : q.Agrees) {count : ℕ}
    (hall : q.freeList.length + q.dirtyList.length ≤ count) :
    ((q.deleteFree count).2.deleteDirty (q.deleteFree count).1).2.bufferQueueCache.keys =
      q.owned := by
  obtain ⟨-, hdirty, hfind⟩ := deleteFree_find h count
  have hagrees := (deleteFree_refines h count).agrees h
  have hcount : (q.deleteFree count).1 = count - q.freeList.length := (used_deleteFree h count).2.2
  obtain ⟨-, hfind₂⟩ := deleteDirty_find hagrees (q.deleteFree count).1
  refine BufferCache.keys_eq_filter fun k => ?_
  rw [hfind₂, hfind, hdirty, hcount, List.take_of_length_le (by omega),
    List.take_of_length_le (by omega)]
  by_cases hd : k ∈ q.dirtyList <;> by_cases hf : k ∈ q.freeList <;> simp [hd, hf]

theorem take_deletionOrder (q : BufferQueue) (count : ℕ) : q.deletionOrder.take count =
    (q.freeList ++ q.dirtyList).take count ++
      q.owned.take (count - q.freeList.length - q.dirtyList.length) := by
  have hsplit : count - (q.freeList ++ q.dirtyList).length =
      count - q.freeList.length - q.dirtyList.length := by
    rw [List.length_append, Nat.sub_add_eq]
  rw [← hsplit]
  exact List.take_append

theorem mem_take_deletionOrder {k count : ℕ} : k ∈ q.deletionOrder.take count ↔
    k ∈ (q.freeList ++ q.dirtyList).take count ∨
      k ∈ q.owned.take (count - q.freeList.length - q.dirtyList.length) := by
  rw [take_deletionOrder, List.mem_append]

theorem deleteBuffersLocked_find (h : q.Agrees) (count : ℕ) (k : ℕ) :
    (q.deleteBuffersLocked count).bufferQueueCache.find k =
      if k ∈ (q.freeList ++ q.dirtyList).take count then none
      else if k ∈ q.deletionOrder.take count then (q.bufferQueueCache.find k).map setDeleting
      else q.bufferQueueCache.find k := by
  obtain ⟨-, hdirty, hfind⟩ := deleteFree_find h count
  have hagrees := (deleteFree_refines h count).agrees h
  have hcount : (q.deleteFree count).1 = count - q.freeList.length := (used_deleteFree h count).2.2
  obtain ⟨-, hfind₂⟩ := deleteDirty_find hagrees (q.deleteFree count).1
  have hleft := (used_deleteDirty hagrees (q.deleteFree count).1).2
  have hkeys (hall : q.freeList.length + q.dirtyList.length ≤ count) := keys_deleteDirty h hall
  rw [hdirty, hcount] at hleft
  rw [hcount] at hfind₂ hkeys
  unfold deleteBuffersLocked
  dsimp only
  rw [hcount]
  have hlists : k ∈ (q.freeList ++ q.dirtyList).take count ↔
      k ∈ q.freeList.take count ∨ k ∈ q.dirtyList.take (count - q.freeList.length) := by
    rw [List.take_append, List.mem_append]
  have hbase : ((q.deleteFree count).2.deleteDirty (count - q.freeList.length)).2.bufferQueueCache.find k =
      if k ∈ (q.freeList ++ q.dirtyList).take count then none else q.bufferQueueCache.find k := by
    rw [hfind₂, hfind, hdirty]
    by_cases hd : k ∈ q.dirtyList.take (count - q.freeList.length) <;> simp [hlists, hd]
  have howned : k ∈ ((q.deleteFree count).2.deleteDirty
      (count - q.freeList.length)).2.bufferQueueCache.keys.take
        (count - q.freeList.length - q.dirtyList.length) ↔
      k ∈ q.owned.take (count - q.freeList.length - q.dirtyList.length) := by
    by_cases hall : q.freeList.length + q.dirtyList.length ≤ count
    · rw [hkeys hall]
    · have hnone : count - q.freeList.length - q.dirtyList.length = 0 := by omega
      simp [hnone]
  rw [markDeleting_find, hbase, hleft]
  simp only [howned, mem_take_deletionOrder]
  by_cases hin : k ∈ (q.freeList ++ q.dirtyList).take count <;> simp [hin]

theorem deleteBuffersLocked_dirtyList (h : q.Agrees) (count : ℕ) :
    (q.deleteBuffersLocked count).dirtyList = q.dirtyList.drop (count - q.freeList.length) := by
  obtain ⟨-, hdirty, -⟩ := deleteFree_find h count
  have hagrees := (deleteFree_refines h count).agrees h
  have hcount : (q.deleteFree count).1 = count - q.freeList.length := (used_deleteFree h count).2.2
  obtain ⟨hdropped, -⟩ := deleteDirty_find hagrees (q.deleteFree count).1
  unfold deleteBuffersLocked
  dsimp only
  have hpool := congrArg Pool.pending (pool_markDeleting
    ((q.deleteFree count).2.deleteDirty (q.deleteFree count).1).2
    ((((q.deleteFree count).2.deleteDirty (q.deleteFree count).1).2.bufferQueueCache.keys.take
      ((q.deleteFree count).2.deleteDirty (q.deleteFree count).1).1))).1
  rw [hcount, hdirty] at hdropped
  rw [hcount] at hpool ⊢
  exact hpool.trans hdropped

theorem lost_perm (h : q.Agrees) (count : ℕ) :
    (q.lost (q.deleteBuffersLocked count)).Perm ((q.deletionOrder.take count).filter q.spared) := by
  refine (List.perm_ext_iff_of_nodup (q.bufferQueueCache.keys_nodup.filter _)
    (((deletionOrder_nodup h).sublist (List.take_sublist _ _)).filter _)).mpr fun k => ?_
  have horder : (q.freeList ++ q.dirtyList).take count ⊆ q.deletionOrder.take count := by
    rw [take_deletionOrder]
    exact List.subset_append_left _ _
  simp only [List.mem_filter, Bool.and_eq_true, Bool.not_eq_true']
  have hfind := deleteBuffersLocked_find h count k
  constructor
  · rintro ⟨-, hspared, hgone⟩
    refine ⟨?_, hspared⟩
    by_contra hout
    rw [if_neg fun hin => hout (horder hin), if_neg hout] at hfind
    rw [spared, hfind] at hgone
    exact absurd (hspared.symm.trans hgone) (by simp)
  · rintro ⟨hin, hspared⟩
    have hcached := (deletionOrder_perm h).mem_iff.mp (List.mem_of_mem_take hin)
    refine ⟨hcached, hspared, ?_⟩
    rw [spared, hfind]
    split_ifs
    · rfl
    · cases q.bufferQueueCache.find k <;> rfl

/-- How many of the first `count` buffers are marked already. -/
def condemnedAmong (q : BufferQueue) (count : ℕ) : ℕ :=
  ((q.deletionOrder.take count).filter fun k => !q.spared k).length

theorem length_lost (h : q.Agrees) (count : ℕ) :
    (q.lost (q.deleteBuffersLocked count)).length + q.condemnedAmong count =
      min count q.getUsedSize := by
  rw [(lost_perm h count).length_eq, condemnedAmong, ← length_deletionOrder h,
    ← List.length_take]
  exact (List.length_eq_length_filter_add q.spared).symm

theorem live_add_condemned (h : q.Agrees) (count : ℕ) :
    q.live + q.condemnedAmong count ≤ q.getUsedSize := by
  have hsplit : q.getUsedSize = (q.deletionOrder.filter q.spared).length +
      (q.deletionOrder.filter fun k => !q.spared k).length := by
    rw [← length_deletionOrder h]
    exact List.length_eq_length_filter_add q.spared
  have hlive : (q.deletionOrder.filter q.spared).length = q.live :=
    ((deletionOrder_perm h).filter _).length_eq
  have hsub : q.condemnedAmong count ≤ (q.deletionOrder.filter fun k => !q.spared k).length :=
    ((List.take_sublist count q.deletionOrder).filter _).length_le
  omega

/-- A shrink to `size` takes the surplus and nothing else: the free buffers before the pending
frames, and those before the owned ones. -/
structure ShrinksTo (q q' : BufferQueue) (size : ℕ) : Prop where
  surplus : (q.lost q').length = q.live - size
  freeFirst : ∀ k ∈ q.lost q', k ∉ q.freeList → ∀ j ∈ q.freeList, q'.bufferQueueCache.find j = none
  ownedLast : ∀ k ∈ q.lost q', k ∉ q.freeList → k ∉ q.dirtyList →
    ∀ j ∈ q.dirtyList, q'.bufferQueueCache.find j = none
  remaining : q'.live ≤ size
  pending : q.live ≤ size → q'.dirtyList = q.dirtyList

theorem live_deleteBuffersLocked (h : q.Agrees) (count : ℕ) :
    (q.deleteBuffersLocked count).live + (q.lost (q.deleteBuffersLocked count)).length = q.live := by
  set q' := q.deleteBuffersLocked count with hq'
  have hkept : ∀ k, q'.spared k = true → q.spared k = true := by
    intro k hk
    have hfind := deleteBuffersLocked_find h count k
    rw [spared, hfind] at hk
    split_ifs at hk
    · simp at hk
    · rw [Option.any_map] at hk
      simp [setDeleting] at hk
    · exact hk
  have hkeys : (q'.bufferQueueCache.keys.filter q'.spared).Perm
      (q.bufferQueueCache.keys.filter fun k => q.spared k && q'.spared k) := by
    refine (List.perm_ext_iff_of_nodup (q'.bufferQueueCache.keys_nodup.filter _)
      (q.bufferQueueCache.keys_nodup.filter _)).mpr fun k => ?_
    have hcached {q : BufferQueue} (hk : q.spared k = true) : (q.bufferQueueCache.find k).isSome := by
      cases hfind : q.bufferQueueCache.find k with
      | none => simp [spared, hfind] at hk
      | some e => rfl
    simp only [List.mem_filter, BufferCache.mem_keys, Bool.and_eq_true]
    constructor
    · rintro ⟨-, hk⟩
      exact ⟨hcached (hkept k hk), hkept k hk, hk⟩
    · rintro ⟨-, -, hk⟩
      exact ⟨hcached hk, hk⟩
  have hsplit := List.length_eq_length_filter_add (l := q.bufferQueueCache.keys.filter q.spared)
    q'.spared
  rw [List.filter_filter, List.filter_filter] at hsplit
  rw [live, live, hkeys.length_eq, lost]
  simp only [Bool.and_comm (q.spared _)]
  exact hsplit.symm

theorem lost_order (h : q.Agrees) {count k j : ℕ}
    (hk : k ∈ q.lost (q.deleteBuffersLocked count)) :
    (k ∉ q.freeList → j ∈ q.freeList →
      (q.deleteBuffersLocked count).bufferQueueCache.find j = none) ∧
      (k ∉ q.freeList → k ∉ q.dirtyList → j ∈ q.dirtyList →
        (q.deleteBuffersLocked count).bufferQueueCache.find j = none) := by
  have htaken := (List.mem_filter.mp ((lost_perm h count).mem_iff.mp hk)).1
  rw [mem_take_deletionOrder, List.take_append, List.mem_append] at htaken
  have hgone (hj : j ∈ (q.freeList ++ q.dirtyList).take count) :
      (q.deleteBuffersLocked count).bufferQueueCache.find j = none := by
    rw [deleteBuffersLocked_find h, if_pos hj]
  rw [List.take_append, List.mem_append] at hgone
  have hbeyond (hk : k ∉ q.freeList) : q.freeList.length ≤ count := by
    rcases htaken with (hin | hin) | hin
    · exact absurd (List.mem_of_mem_take hin) hk
    · have hlen := List.length_pos_of_mem hin
      rw [List.length_take] at hlen
      omega
    · have hlen := List.length_pos_of_mem hin
      rw [List.length_take] at hlen
      omega
  refine ⟨fun hfree hj => hgone (.inl ?_), fun hfree hdirty hj => hgone (.inr ?_)⟩
  · rwa [List.take_of_length_le (hbeyond hfree)]
  · have hall : q.dirtyList.length ≤ count - q.freeList.length := by
      rcases htaken with (hin | hin) | hin
      · exact absurd (List.mem_of_mem_take hin) hfree
      · exact absurd (List.mem_of_mem_take hin) hdirty
      · have hlen := List.length_pos_of_mem hin
        rw [List.length_take] at hlen
        omega
    rwa [List.take_of_length_le hall]

/-- The size that `SetQueueSizeLocked` goes on with. -/
def clampedSize (q : BufferQueue) (queueSize : ℕ) : ℕ :=
  if q.maxQueueSize ≠ 0 ∧ q.maxQueueSize < queueSize then q.maxQueueSize else queueSize

/-- The difference of the two sizes is what has to go. -/
def differenceIsSurplus (q : BufferQueue) (size : ℕ) : Prop :=
  (q.live ≤ size ∧ ∀ k ∈ q.deletionOrder.take (q.bufferQueueSize - size), q.spared k = false) ∨
    (size < q.live ∧ q.live + q.condemnedAmong (q.bufferQueueSize - size) = q.bufferQueueSize)

theorem shrinksTo_iff (h : q.Agrees) (hspares : q.SparesPending) {size : ℕ} (hsize : 0 < size)
    (hsmall : size < q.bufferQueueSize) :
    q.ShrinksTo (q.deleteBuffersLocked (q.bufferQueueSize - size)) size ↔
      q.differenceIsSurplus size := by
  have hlost := length_lost h (q.bufferQueueSize - size)
  have hcondemned := live_add_condemned h (q.bufferQueueSize - size)
  have hlive := live_deleteBuffersLocked h (q.bufferQueueSize - size)
  have hnone : (q.lost (q.deleteBuffersLocked (q.bufferQueueSize - size))).length = 0 ↔
      ∀ k ∈ q.deletionOrder.take (q.bufferQueueSize - size), q.spared k = false := by
    rw [(lost_perm h _).length_eq, List.length_eq_zero_iff, List.filter_eq_nil_iff]
    simp
  constructor
  · intro hshrinks
    have hsurplus := hshrinks.surplus
    rcases le_or_gt q.live size with hle | hgt
    · exact .inl ⟨hle, hnone.mp (by omega)⟩
    · exact .inr ⟨hgt, by omega⟩
  · intro hmatch
    have hsurplus : (q.lost (q.deleteBuffersLocked (q.bufferQueueSize - size))).length =
        q.live - size := by
      rcases hmatch with ⟨hle, hall⟩ | ⟨hgt, hsum⟩
      · rw [hnone.mpr hall]
        omega
      · omega
    refine ⟨hsurplus, fun k hk hfree j hj => (lost_order h hk).1 hfree hj,
      fun k hk hfree hdirty j hj => (lost_order h hk).2 hfree hdirty hj, by omega, fun hle => ?_⟩
    have hall := hnone.mp (by omega)
    rw [deleteBuffersLocked_dirtyList h]
    by_cases hcount : q.bufferQueueSize - size ≤ q.freeList.length
    · rw [Nat.sub_eq_zero_of_le hcount, List.drop_zero]
    · cases hdirty : q.dirtyList with
      | nil => simp
      | cons front rest =>
        -- the front of the pending frames would be taken, and it is not condemned
        obtain ⟨e, he, hflushed⟩ := h.state_of_mem_dirty (k := front) (by simp [hdirty])
        have htaken : front ∈ q.deletionOrder.take (q.bufferQueueSize - size) := by
          rw [mem_take_deletionOrder, List.take_append, List.mem_append, hdirty]
          obtain ⟨n, hn⟩ : ∃ n, q.bufferQueueSize - size - q.freeList.length = n + 1 :=
            ⟨_, (Nat.succ_pred_eq_of_pos (by omega)).symm⟩
          exact .inl (.inr (by simp [hn]))
        have hdel := hall front htaken
        simp [spared, he, hspares front e he hflushed] at hdel

theorem setQueueSize_shrinks (hok : (q.setQueueSize n).1 = .ok)
    (hsmall : q.clampedSize n < q.bufferQueueSize) :
    0 < q.clampedSize n ∧ (q.setQueueSize n).2 =
      { q.deleteBuffersLocked (q.bufferQueueSize - q.clampedSize n) with
        bufferQueueSize := q.clampedSize n } := by
  rw [setQueueSize] at hok ⊢
  by_cases hrange : n = 0 ∨ surfaceMaxQueueSize < n
  · rw [if_pos hrange] at hok
    cases hok
  rw [if_neg hrange, setQueueSizeLocked, ← clampedSize] at hok ⊢
  by_cases hreserve : q.clampedSize n < q.detachReserveSlotNum
  · rw [if_pos hreserve] at hok
    cases hok
  rw [if_neg hreserve, if_pos hsmall]
  refine ⟨?_, rfl⟩
  unfold clampedSize
  split_ifs <;> omega

end BufferQueue

def threeInUse : List Op :=
  [.requestBuffer sampleConfig ⟨1, 1, true, true⟩, .requestBuffer sampleConfig ⟨2, 2, true, true⟩,
    .requestBuffer sampleConfig ⟨3, 3, true, true⟩,
    .flushBuffer ⟨1, some ∅, invalidFence, ⟨[], 0, 0⟩, ⟨.ok, 0⟩⟩]

def onePending : List Op :=
  [.requestBuffer sampleConfig ⟨1, 1, true, true⟩,
    .flushBuffer ⟨1, some ∅, invalidFence, ⟨[], 0, 0⟩, ⟨.ok, 0⟩⟩]

end GraphicSurface
