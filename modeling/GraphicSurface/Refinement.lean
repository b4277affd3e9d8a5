import GraphicSurface.Operations
import GraphicSurface.SlotPool

/-! The queue as a pool of slots: `RELEASED` is free, `FLUSHED` is pending, and the three states
of a buffer that is out with a party are held. Every section of a call is shown to be a run of
pool moves of the kinds that the call is allowed, from any queue whose lists agree with its
states. The lemmas go up the call graph, one for each function. -/

namespace GraphicSurface

open Runs SlotPool

def BufferState.place : BufferState → Place
  | .released => .free
  | .flushed => .pending
  | .requested | .acquired | .attached => .held

@[simp] theorem BufferState.place_eq_free {s : BufferState} : s.place = .free ↔ s = .released := by
  cases s <;> simp [place]

@[simp] theorem BufferState.place_eq_pending {s : BufferState} :
    s.place = .pending ↔ s = .flushed := by
  cases s <;> simp [place]

namespace BufferCache

def place (c : BufferCache) (k : ℕ) : Option Place := (c.find k).map (·.state.place)

@[simp] theorem place_empty : empty.place = fun _ => none := by
  funext k
  simp [place]

theorem place_modify {c : BufferCache} {k : ℕ} {e : BufferElement} (h : c.find k = some e)
    (f : BufferElement → BufferElement) (hf : ∀ e, (f e).buffer.seqNum = e.buffer.seqNum) :
    (c.modify k f hf).place = Function.update c.place k (some (f e).state.place) := by
  funext j
  by_cases hj : j = k
  · subst hj
    simp [place, h]
  · simp [place, hj, Ne.symm hj]

/-- A write that keeps the state of every element keeps every place. -/
theorem place_modify_of_state {c : BufferCache} {k : ℕ} {f : BufferElement → BufferElement}
    (hstate : ∀ e, (f e).state = e.state) (hf : ∀ e, (f e).buffer.seqNum = e.buffer.seqNum) :
    (c.modify k f hf).place = c.place := by
  funext j
  by_cases hj : k = j
  · subst hj
    cases h : c.find k <;> simp [place, h, hstate]
  · simp [place, hj]

theorem place_mapAll {c : BufferCache} {f : BufferElement → BufferElement}
    (hstate : ∀ e, (f e).state = e.state) (hf : ∀ e, (f e).buffer.seqNum = e.buffer.seqNum) :
    (c.mapAll f hf).place = c.place := by
  funext j
  cases h : c.find j <;> simp [place, h, hstate]

@[simp] theorem place_erase (c : BufferCache) (k : ℕ) :
    (c.erase k).place = Function.update c.place k none := by
  funext j
  by_cases hj : j = k
  · subst hj
    simp [place]
  · simp [place, hj, Ne.symm hj]

@[simp] theorem place_put (c : BufferCache) (e : BufferElement) :
    (c.put e).place = Function.update c.place e.buffer.seqNum (some e.state.place) := by
  funext j
  by_cases hj : j = e.buffer.seqNum
  · subst hj
    simp [place]
  · simp [place, hj, Ne.symm hj]

theorem place_of_find {c : BufferCache} {k : ℕ} {e : BufferElement} (h : c.find k = some e) :
    c.place k = some e.state.place := by
  simp [place, h]

theorem place_eq_none {c : BufferCache} {k : ℕ} : c.place k = none ↔ c.find k = none := by
  simp [place]

theorem find_of_place {c : BufferCache} {k : ℕ} {p : Place} (h : c.place k = some p) :
    ∃ e, c.find k = some e ∧ e.state.place = p :=
  Option.map_eq_some_iff.mp h

end BufferCache

namespace BufferQueue

def pool (q : BufferQueue) : Pool ℕ where
  place := q.bufferQueueCache.place
  free := q.freeList
  pending := q.dirtyList
  used := q.getUsedSize

abbrev Agrees (q : BufferQueue) : Prop := SlotPool.Agrees q.pool

end BufferQueue

/-- Going from `q` to `q'` is a run of pool moves of the allowed kinds, and no null pointer is
met on the way. -/
structure Refines (allowed : Move ℕ → Prop) (q q' : BufferQueue) : Prop where
  moves : ∃ ms, (∀ m ∈ ms, allowed m) ∧ Run Step q.pool ms q'.pool
  fault : q'.fault = q.fault

namespace Refines

variable {allowed allowed' : Move ℕ → Prop} {q q₁ q₂ : BufferQueue}

theorem of_pool_eq (hpool : q₁.pool = q.pool) (hfault : q₁.fault = q.fault) :
    Refines allowed q q₁ :=
  ⟨⟨[], by simp, by rw [hpool]; exact .nil⟩, hfault⟩

theorem refl : Refines allowed q q :=
  of_pool_eq rfl rfl

theorem move {m : Move ℕ} (hallowed : allowed m) (hm : m.enabled q.pool)
    (hpool : q₁.pool = m.apply q.pool) (hfault : q₁.fault = q.fault) : Refines allowed q q₁ :=
  ⟨⟨[m], by simpa using hallowed, .single ⟨hm, hpool⟩⟩, hfault⟩

theorem trans (h₁ : Refines allowed q q₁) (h₂ : Refines allowed q₁ q₂) :
    Refines allowed q q₂ := by
  obtain ⟨ms₁, hms₁, run₁⟩ := h₁.moves
  obtain ⟨ms₂, hms₂, run₂⟩ := h₂.moves
  refine ⟨⟨ms₁ ++ ms₂, ?_, run₁.append run₂⟩, h₂.fault.trans h₁.fault⟩
  intro m hm
  rcases List.mem_append.mp hm with hm | hm
  · exact hms₁ m hm
  · exact hms₂ m hm

theorem mono (h : Refines allowed q q₁) (hle : ∀ m, allowed m → allowed' m) :
    Refines allowed' q q₁ := by
  obtain ⟨ms, hms, run⟩ := h.moves
  exact ⟨⟨ms, fun m hm => hle m (hms m hm), run⟩, h.fault⟩

theorem agrees (h : Refines allowed q q₁) (hq : q.Agrees) : q₁.Agrees := by
  obtain ⟨_, _, run⟩ := h.moves
  exact SlotPool.Agrees.run hq run

theorem used_le (h : Refines allowed q q₁) (hgrows : ∀ m, allowed m → ¬ m.grows) :
    q₁.getUsedSize ≤ q.getUsedSize := by
  obtain ⟨_, hms, run⟩ := h.moves
  exact used_le_of_run run fun m hm => hgrows m (hms m hm)

theorem dirtyList_eq (h : Refines allowed q q₁) (hquiet : ∀ m, allowed m → m.quiet) :
    q₁.dirtyList = q.dirtyList := by
  obtain ⟨_, hms, run⟩ := h.moves
  exact pending_eq_of_run run fun m hm => hquiet m (hms m hm)

theorem dirtyList_sublist (h : Refines allowed q q₁) (hsilent : ∀ m, allowed m → m.silent) :
    q₁.dirtyList.Sublist q.dirtyList := by
  obtain ⟨_, hms, run⟩ := h.moves
  exact pending_sublist_of_run run fun m hm => hsilent m (hms m hm)

theorem dirtyList_suffix (h : Refines allowed q q₁)
    (htakes : ∀ m, allowed m → m.quiet ∨ ∃ k, m = .take k) : q₁.dirtyList <:+ q.dirtyList := by
  obtain ⟨_, hms, run⟩ := h.moves
  exact pending_suffix_of_run run fun m hm => htakes m (hms m hm)

/-- A number that is not in the cache stays out unless a buffer enters under it. -/
theorem absent (h : Refines allowed q q₁) {k : ℕ}
    (hne : ∀ m, allowed m → m ≠ .adopt k ∧ m ≠ .stock k)
    (habsent : q.bufferQueueCache.find k = none) : q₁.bufferQueueCache.find k = none := by
  obtain ⟨_, hms, run⟩ := h.moves
  exact BufferCache.place_eq_none.mp (absent_of_run run (fun m hm => hne m (hms m hm))
    (BufferCache.place_eq_none.mpr habsent))

end Refines

namespace BufferQueue

variable {q q' : BufferQueue} {sequence : ℕ} {e : BufferElement}

theorem Agrees.state_of_mem_free (h : q.Agrees) {k : ℕ} (hs : k ∈ q.freeList) :
    ∃ e, q.bufferQueueCache.find k = some e ∧ e.state = .released := by
  obtain ⟨e, he, hp⟩ := BufferCache.find_of_place ((h.mem_free k).mp hs)
  exact ⟨e, he, by simpa using hp⟩

theorem Agrees.state_of_mem_dirty (h : q.Agrees) {k : ℕ} (hs : k ∈ q.dirtyList) :
    ∃ e, q.bufferQueueCache.find k = some e ∧ e.state = .flushed := by
  obtain ⟨e, he, hp⟩ := BufferCache.find_of_place ((h.mem_pending k).mp hs)
  exact ⟨e, he, by simpa using hp⟩

theorem Agrees.mem_free_iff (h : q.Agrees) (he : q.bufferQueueCache.find sequence = some e) :
    sequence ∈ q.freeList ↔ e.state = .released := by
  have hp := h.mem_free sequence
  simpa [pool, BufferCache.place, he] using hp

theorem Agrees.mem_dirty_iff (h : q.Agrees) (he : q.bufferQueueCache.find sequence = some e) :
    sequence ∈ q.dirtyList ↔ e.state = .flushed := by
  have hp := h.mem_pending sequence
  simpa [pool, BufferCache.place, he] using hp

theorem pool_deleteNoWait (he : q.bufferQueueCache.find sequence = some e) :
    (q.deleteBufferInCacheNoWaitForAllocatingState sequence).pool =
      ⟨Function.update q.pool.place sequence none, q.freeList.erase sequence, q.dirtyList,
        q.getUsedSize - 1⟩ := by
  unfold deleteBufferInCacheNoWaitForAllocatingState
  rw [he]
  dsimp only
  split_ifs <;> simp [pool, getUsedSize, he, onBufferDeleteForRS]

@[simp] theorem fault_deleteNoWait (q : BufferQueue) (sequence : ℕ) :
    (q.deleteBufferInCacheNoWaitForAllocatingState sequence).fault = q.fault := by
  unfold deleteBufferInCacheNoWaitForAllocatingState
  split
  · rfl
  · split_ifs <;> rfl

/-- A buffer that a party holds is deleted: it is in neither list. -/
theorem delete_held {allowed : Move ℕ → Prop} (hallowed : allowed (.retire sequence))
    (h : q.Agrees) (he : q.bufferQueueCache.find sequence = some e) (hs : e.state.place = .held) :
    Refines allowed q (q.deleteBufferInCacheNoWaitForAllocatingState sequence) := by
  have hfree : sequence ∉ q.freeList := by
    rw [h.mem_free_iff he]
    rintro hr
    simp [hr, BufferState.place] at hs
  refine Refines.move hallowed ?_ ?_ (by simp)
  · simp [Move.enabled, pool, BufferCache.place_of_find he, hs]
  · rw [pool_deleteNoWait he, List.erase_of_not_mem hfree]
    rfl

theorem delete_free {allowed : Move ℕ → Prop} (hallowed : allowed (.dropFree sequence))
    (he : q.bufferQueueCache.find sequence = some e) (hs : e.state = .released) :
    Refines allowed q (q.deleteBufferInCacheNoWaitForAllocatingState sequence) := by
  refine Refines.move hallowed ?_ ?_ (by simp)
  · simp [Move.enabled, pool, BufferCache.place_of_find he, hs, BufferState.place]
  · rw [pool_deleteNoWait he]
    rfl

theorem mem_rotateLocked (q : BufferQueue) : q.rotateLocked.Perm q.freeList := by
  unfold rotateLocked
  split
  · simp_all
  · rename_i front rest hfree
    rw [hfree]
    split_ifs
    · exact List.perm_append_singleton _ _
    · exact List.Perm.refl _

/-- The rotation leaves the locked buffer at the front only when there is no other one. -/
theorem front_rotateLocked (h : q.Agrees) {front : ℕ} {rest : List ℕ}
    (hlocked : q.freeList ≠ [q.acquireLastFlushedBufSequence])
    (hrot : q.rotateLocked = front :: rest) : front ≠ q.acquireLastFlushedBufSequence := by
  unfold rotateLocked at hrot
  split at hrot
  · cases hrot
  · rename_i first others hfree
    split_ifs at hrot with hfirst
    · cases others with
      | nil => exact absurd (by rw [hfree, hfirst]) hlocked
      | cons second others =>
        have hnodup : (first :: second :: others).Nodup := hfree ▸ h.free_nodup
        have hsecond : second = front := by simpa using congrArg List.head? hrot
        rw [← hsecond, ← hfirst]
        intro heq
        simp [heq] at hnodup
    · have hhead : first = front := by simpa using congrArg List.head? hrot
      exact hhead ▸ hfirst

/-- A pop from the free list that finds nothing leaves the queue alone. -/
theorem popFromFreeListLocked_none (h : q.Agrees) {config : BufferRequestConfig}
    (hp : q.popFromFreeListLocked config = (none, q')) : q' = q := by
  unfold popFromFreeListLocked at hp
  split at hp
  · rename_i sequence hfind
    have hmem := List.mem_of_find?_eq_some hfind
    obtain ⟨e, he, _⟩ := h.state_of_mem_free hmem
    simp [he] at hp
  · split_ifs at hp with hempty
    · cases hp
      rfl
    · unfold popFrontFree at hp
      split at hp
      · cases hp
        rfl
      · rename_i front rest hrot
        have hmem : front ∈ q.freeList := (mem_rotateLocked q).subset (by simp [hrot])
        obtain ⟨e, he, _⟩ := h.state_of_mem_free hmem
        simp [he] at hp

/-- A pop from the free list takes one number out, and may recolour its buffer. -/
theorem popFromFreeListLocked_some (h : q.Agrees) {config : BufferRequestConfig}
    {buffer : SurfaceBuffer} (hp : q.popFromFreeListLocked config = (some buffer, q')) :
    ∃ order cache, q' = { q with freeList := order, bufferQueueCache := cache } ∧
      (buffer.seqNum :: order).Perm q.freeList ∧ cache.place = q.bufferQueueCache.place ∧
      cache.size = q.bufferQueueCache.size := by
  unfold popFromFreeListLocked at hp
  split at hp
  · rename_i sequence hfind
    have hmem := List.mem_of_find?_eq_some hfind
    obtain ⟨e, he, _⟩ := h.state_of_mem_free hmem
    simp only [he, Option.map_some, Prod.mk.injEq, Option.some.injEq] at hp
    obtain ⟨rfl, rfl⟩ := hp
    refine ⟨q.freeList.erase sequence, q.bufferQueueCache, rfl, ?_, rfl, rfl⟩
    rw [BufferCache.seqNum_of_find he]
    exact (List.perm_cons_erase hmem).symm
  · split_ifs at hp with hempty
    · cases hp
    · unfold popFrontFree at hp
      split at hp
      · cases hp
      · rename_i front rest hrot
        split at hp
        · cases hp
        · rename_i e he
          simp only [Prod.mk.injEq, Option.some.injEq] at hp
          obtain ⟨rfl, rfl⟩ := hp
          refine ⟨rest, _, rfl, ?_, 
            BufferCache.place_modify_of_state (BufferElement.recolour_state _ _) _, by simp⟩
          rw [BufferElement.recolour_seqNum, BufferCache.seqNum_of_find he, ← hrot]
          exact mem_rotateLocked q

end BufferQueue

end GraphicSurface
