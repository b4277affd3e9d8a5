import GraphicSurface.Shrinking

/-! How many buffers `PreAllocBuffers` asks the allocator for. The room is
`bufferQueueSize_ - detachReserveSlotNum_ - bufferQueueCache_.size()` in unsigned arithmetic: a
32-bit difference less a 64-bit size. -/

namespace GraphicSurface

open Runs

/-- The first difference wraps at 32 bits, the second at 64. -/
def wrappedRoom (size reserved used : ℕ) : ℕ :=
  ((size + 2 ^ 32 - reserved) % 2 ^ 32 + 2 ^ 64 - used) % 2 ^ 64

theorem wrappedRoom_of_fits {size reserved used : ℕ} (hsize : size < 2 ^ 32)
    (hfits : reserved + used ≤ size) : wrappedRoom size reserved used = size - reserved - used := by
  unfold wrappedRoom
  have hfirst : (size + 2 ^ 32 - reserved) % 2 ^ 32 = size - reserved := by omega
  rw [hfirst]
  omega

theorem wrappedRoom_eq_zero_iff {size reserved used : ℕ} (hsize : size < 2 ^ 32)
    (hreserved : reserved < 2 ^ 32) (hused : used ≤ 2 ^ 32) (hover : size < reserved + used) :
    wrappedRoom size reserved used = 0 ↔
      size < reserved ∧ reserved + used = size + 2 ^ 32 := by
  unfold wrappedRoom
  by_cases hfit : reserved ≤ size
  · have hfirst : (size + 2 ^ 32 - reserved) % 2 ^ 32 = size - reserved := by omega
    have hsecond : (size - reserved + 2 ^ 64 - used) % 2 ^ 64 = size - reserved + 2 ^ 64 - used :=
      Nat.mod_eq_of_lt (by omega)
    rw [hfirst, hsecond]
    omega
  · have hfirst : (size + 2 ^ 32 - reserved) % 2 ^ 32 = size + 2 ^ 32 - reserved :=
      Nat.mod_eq_of_lt (by omega)
    rw [hfirst]
    omega

theorem wrappedRoom_le_iff {size reserved used count : ℕ} (hsize : size < 2 ^ 32)
    (hreserved : reserved < 2 ^ 32) (hused : used ≤ 2 ^ 32) (hcount : 0 < count) :
    min count (wrappedRoom size reserved used) ≤ size - reserved - used ↔
      reserved + used ≤ size ∨ size < reserved ∧ reserved + used = size + 2 ^ 32 := by
  by_cases hfits : reserved + used ≤ size
  · rw [wrappedRoom_of_fits hsize hfits]
    simp [hfits]
  · have hnone : size - reserved - used = 0 := by omega
    have hzero := wrappedRoom_eq_zero_iff hsize hreserved hused (Nat.not_le.mp hfits)
    rw [hnone, Nat.le_zero, Nat.min_eq_zero_iff, hzero]
    omega

/-- The members are values of their C++ types, the keys of the map as well. -/
structure Typed (q : BufferQueue) : Prop where
  size : q.bufferQueueSize < 2 ^ 32
  reserved : q.detachReserveSlotNum < 2 ^ 32
  keys : ∀ k ∈ q.bufferQueueCache.keys, k < 2 ^ 32

theorem Typed.used {q : BufferQueue} (h : Typed q) : q.getUsedSize ≤ 2 ^ 32 := by
  have hsub : q.bufferQueueCache.keys ⊆ List.range (2 ^ 32) := fun k hk =>
    List.mem_range.mpr (h.keys k hk)
  have hlength := (List.subperm_of_subset q.bufferQueueCache.keys_nodup hsub).length_le
  rwa [BufferCache.length_keys, List.length_range] at hlength

namespace BufferQueue

variable {q : BufferQueue} {config : BufferRequestConfig} {count : ℕ} {as : ℕ → Allocation}

/-- The number of allocations that `AllocBuffers` tries. -/
def preAllocTries (q : BufferQueue) (config : BufferRequestConfig) (count : ℕ) : ℕ :=
  if preAllocBuffersCheck config count ≠ .ok then 0 else q.preAllocBuffersCount count

def freeRoom (q : BufferQueue) : ℕ := q.bufferQueueSize - q.detachReserveSlotNum - q.getUsedSize

/-- The call tries no more allocations than there is room for, and says so when there is none. -/
structure PreAllocFits (q : BufferQueue) (config : BufferRequestConfig) (count : ℕ)
    (as : ℕ → Allocation) : Prop where
  tries : q.preAllocTries config count ≤ q.freeRoom
  full : preAllocBuffersCheck config count = .ok →
    q.freeRoom = 0 ∨ q.preAllocTries config count = 0 →
      (q.preAllocBuffers config count as).1 = .bufferQueueFull

theorem preAllocBuffersCount_eq (q : BufferQueue) (count : ℕ) :
    q.preAllocBuffersCount count =
      min count (wrappedRoom q.bufferQueueSize q.detachReserveSlotNum q.getUsedSize) := rfl

theorem count_pos_of_check (hvalid : preAllocBuffersCheck config count = .ok) : 0 < count := by
  unfold preAllocBuffersCheck at hvalid
  split_ifs at hvalid with hrefused
  simp only [not_or] at hrefused
  omega

theorem preAllocBuffers_full (hvalid : preAllocBuffersCheck config count = .ok)
    (hnone : q.preAllocTries config count = 0) :
    (q.preAllocBuffers config count as).1 = .bufferQueueFull := by
  rw [preAllocTries, if_neg (by simp [hvalid])] at hnone
  simp [preAllocBuffers, hvalid, hnone]

/-- `PreAllocBuffers` keeps to the room exactly when it turns the arguments down, or the cached
buffers and the reserved slots fit into the queue (or both wraps cancel out). -/
theorem preAllocFits_iff (htyped : Typed q) :
    q.PreAllocFits config count as ↔ preAllocBuffersCheck config count ≠ .ok ∨
      q.detachReserveSlotNum + q.getUsedSize ≤ q.bufferQueueSize ∨
      q.bufferQueueSize < q.detachReserveSlotNum ∧
        q.detachReserveSlotNum + q.getUsedSize = q.bufferQueueSize + 2 ^ 32 := by
  by_cases hvalid : preAllocBuffersCheck config count = .ok
  · have htries : q.preAllocTries config count =
        min count (wrappedRoom q.bufferQueueSize q.detachReserveSlotNum q.getUsedSize) := by
      rw [preAllocTries, if_neg (by simp [hvalid]), preAllocBuffersCount_eq]
    have hwithin := wrappedRoom_le_iff htyped.size htyped.reserved htyped.used
      (count_pos_of_check hvalid)
    rw [← htries] at hwithin
    simp only [hvalid, ne_eq, not_true_eq_false, false_or]
    rw [← hwithin]
    constructor
    · exact fun h => h.tries
    · intro htries
      refine ⟨htries, fun _ hnone => preAllocBuffers_full hvalid ?_⟩
      rcases hnone with hroom | hnone
      · exact Nat.le_zero.mp (hroom ▸ htries)
      · exact hnone
  · simp only [ne_eq, hvalid, not_false_eq_true, true_or, iff_true]
    refine ⟨?_, fun h => absurd h hvalid⟩
    rw [preAllocTries, if_pos hvalid]
    exact Nat.zero_le _

end BufferQueue

def shrunkWhileOwned : List Op :=
  threeInUse.take 3 ++ [.setQueueSize 1]

theorem preAllocFits_onePending :
    let q := execute Op.next (BufferQueue.start { listener := true }) onePending
    (q.PreAllocFits sampleConfig 5 (fun i => ⟨i + 5, i + 5, true, true⟩) ↔
      BufferQueue.preAllocBuffersCheck sampleConfig 5 ≠ .ok ∨
      q.detachReserveSlotNum + q.getUsedSize ≤ q.bufferQueueSize ∨
      q.bufferQueueSize < q.detachReserveSlotNum ∧
        q.detachReserveSlotNum + q.getUsedSize = q.bufferQueueSize + 2 ^ 32) ∧
    q.preAllocTries sampleConfig 5 = 2 := by
  intro q
  exact ⟨BufferQueue.preAllocFits_iff ⟨by decide, by decide, by decide⟩, by decide⟩

/-- Three buffers in a queue of one slot: the difference wraps, and five more are allocated. -/
theorem preAlloc_exceeds_room :
    ¬ ∀ (q : BufferQueue) (config : BufferRequestConfig) (count : ℕ) (as : ℕ → Allocation),
      Reachable q → Typed q → q.PreAllocFits config count as := by
  intro h
  have hfits := h _ sampleConfig 5 (fun i => ⟨i + 5, i + 5, true, true⟩) (Reachable.of_legal
    (show Legal _ _ (BufferQueue.start { listener := true }) shrunkWhileOwned by decide))
    ⟨by decide, by decide, by decide⟩
  exact absurd hfits.tries (by decide)

end GraphicSurface
