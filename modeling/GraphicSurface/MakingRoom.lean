import GraphicSurface.Shrinking

/-! `AttachBuffer` of a buffer that is not cached. When the queue is full, or holds more buffers
than its size, the attach deletes as many as it takes to come back to the size with the new one
in it: free buffers first, then pending frames, each list from its front. -/

namespace GraphicSurface

open Runs SlotPool BufferElement

namespace BufferQueue

variable {q q' : BufferQueue} {buffer : SurfaceBuffer} {timeOut : Int}

/-- Deleting the buffer puts its number on `deletingList_`. -/
def announces (q : BufferQueue) (sequence : ℕ) : Bool :=
  (q.bufferQueueCache.find sequence).any fun e => !e.isPreAllocBuffer

theorem deletingList_deleteNoWait (q : BufferQueue) (sequence : ℕ) :
    (q.deleteBufferInCacheNoWaitForAllocatingState sequence).deletingList =
      q.deletingList ++ [sequence].filter q.announces := by
  unfold deleteBufferInCacheNoWaitForAllocatingState announces
  cases hfind : q.bufferQueueCache.find sequence with
  | none => simp [hfind]
  | some e =>
    dsimp only
    by_cases hpre : e.isPreAllocBuffer = true
    · simp [hfind, hpre]
    · simp [hfind, hpre]

theorem announces_deleteNoWait {sequence : ℕ} {l : List ℕ} (hout : sequence ∉ l) :
    l.filter (q.deleteBufferInCacheNoWaitForAllocatingState sequence).announces =
      l.filter q.announces := by
  refine List.filter_congr fun k hk => ?_
  have hne : sequence ≠ k := fun heq => hout (heq ▸ hk)
  rw [announces, find_deleteNoWait, if_neg hne, announces]

theorem deleteFree_deletingList (h : q.Agrees) (count : ℕ) :
    (q.deleteFree count).2.deletingList =
      q.deletingList ++ (q.freeList.take count).filter q.announces := by
  induction count generalizing q with
  | zero => simp [deleteFree]
  | succ count ih =>
    unfold deleteFree
    split
    · rename_i hfree
      simp [hfree]
    · rename_i sequence rest hfree
      have hmem : sequence ∈ q.freeList := by simp [hfree]
      have hout : sequence ∉ rest.take count := fun hin =>
        (List.nodup_cons.mp (hfree ▸ h.free_nodup)).1 (List.mem_of_mem_take hin)
      obtain ⟨-, hrest, -⟩ := used_deleteFreeFront h hfree
      have hone : (q.deleteFreeFront sequence).deletingList =
          q.deletingList ++ [sequence].filter q.announces := deletingList_deleteNoWait q sequence
      have hsame : (rest.take count).filter (q.deleteFreeFront sequence).announces =
          (rest.take count).filter q.announces := announces_deleteNoWait hout
      rw [ih ((deleteFreeFront_refines h hmem).agrees h), hone, hrest, hsame, hfree,
        List.take_succ_cons, List.append_assoc, ← List.filter_append, List.singleton_append]

theorem deleteDirtyFront_freeList (h : q.Agrees) {sequence : ℕ} {rest : List ℕ}
    (hdirty : q.dirtyList = sequence :: rest) :
    (q.deleteDirtyFront sequence rest).freeList = q.freeList := by
  obtain ⟨e, he, hflushed⟩ := h.state_of_mem_dirty (k := sequence) (by simp [hdirty])
  have hfree : sequence ∉ q.freeList := by simp [h.mem_free_iff he, hflushed]
  have hpool := congrArg Pool.free (pool_deleteNoWait he)
  exact hpool.trans (List.erase_of_not_mem hfree)

theorem deleteDirty_lists (h : q.Agrees) (count : ℕ) :
    (q.deleteDirty count).2.freeList = q.freeList ∧
      (q.deleteDirty count).2.deletingList =
        q.deletingList ++ (q.dirtyList.take count).filter q.announces := by
  induction count generalizing q with
  | zero => simp [deleteDirty]
  | succ count ih =>
    unfold deleteDirty
    split
    · rename_i hdirty
      simp [hdirty]
    · rename_i sequence rest hdirty
      have hout : sequence ∉ rest.take count := fun hin =>
        (List.nodup_cons.mp (hdirty ▸ h.pending_nodup)).1 (List.mem_of_mem_take hin)
      have hrest : (q.deleteDirtyFront sequence rest).dirtyList = rest := rfl
      have hone : (q.deleteDirtyFront sequence rest).deletingList =
          q.deletingList ++ [sequence].filter q.announces := deletingList_deleteNoWait q sequence
      have hsame : (rest.take count).filter (q.deleteDirtyFront sequence rest).announces =
          (rest.take count).filter q.announces := announces_deleteNoWait hout
      obtain ⟨hfree, hdeleting⟩ := ih ((deleteDirtyFront_refines h hdirty).agrees h)
      refine ⟨hfree.trans (deleteDirtyFront_freeList h hdirty), ?_⟩
      rw [hdeleting, hone, hrest, hsame, hdirty, List.take_succ_cons, List.append_assoc,
        ← List.filter_append, List.singleton_append]

theorem markDeleting_lists (q : BufferQueue) (l : List ℕ) :
    (q.markDeleting l).freeList = q.freeList ∧
      (q.markDeleting l).deletingList = q.deletingList := by
  induction l generalizing q with
  | nil => exact ⟨rfl, rfl⟩
  | cons sequence rest ih => exact ih _

/-- What `DeleteBuffersLocked` leaves of the free list, and the notices that it adds. -/
theorem deleteBuffersLocked_lists (h : q.Agrees) (count : ℕ) :
    (q.deleteBuffersLocked count).freeList = q.freeList.drop count ∧
      (q.deleteBuffersLocked count).deletingList =
        q.deletingList ++ ((q.freeList ++ q.dirtyList).take count).filter q.announces := by
  obtain ⟨hfree, hdirty, hfind⟩ := deleteFree_find h count
  have hagrees := (deleteFree_refines h count).agrees h
  have hcount : (q.deleteFree count).1 = count - q.freeList.length := (used_deleteFree h count).2.2
  obtain ⟨hfree₂, hdeleting₂⟩ := deleteDirty_lists hagrees (q.deleteFree count).1
  have hmark := markDeleting_lists ((q.deleteFree count).2.deleteDirty (q.deleteFree count).1).2
    (((q.deleteFree count).2.deleteDirty (q.deleteFree count).1).2.bufferQueueCache.keys.take
      ((q.deleteFree count).2.deleteDirty (q.deleteFree count).1).1)
  have hpending : (q.dirtyList.take (count - q.freeList.length)).filter
      (q.deleteFree count).2.announces =
        (q.dirtyList.take (count - q.freeList.length)).filter q.announces := by
    refine List.filter_congr fun k hk => ?_
    have hout : k ∉ q.freeList.take count := fun hin =>
      h.disjoint (List.mem_of_mem_take hin) (List.mem_of_mem_take hk)
    rw [announces, hfind, if_neg hout, announces]
  refine ⟨hmark.1.trans (hfree₂.trans hfree), hmark.2.trans ?_⟩
  rw [hdeleting₂, deleteFree_deletingList h, hdirty, hcount, hpending, List.append_assoc,
    ← List.filter_append, ← List.take_append]

/-- How many buffers have to go so that one more fits, as the difference of the signed copies. -/
def surplus (q : BufferQueue) : Int := max 0 ((q.getUsedSize : Int) - q.bufferQueueSize + 1)

/-- The buffers that an attach deletes, in the order of the deletions. -/
def makeRoomFor (q : BufferQueue) : List ℕ := (q.freeList ++ q.dirtyList).take q.surplus.toNat

/-- An attach of `buffer` has made room for it and has touched nothing else. -/
structure MakesRoom (q : BufferQueue) (buffer : SurfaceBuffer) (timeOut : Int)
    (q' : BufferQueue) : Prop where
  attached : q'.bufferQueueCache.find buffer.seqNum = some (q.attachElement buffer timeOut)
  fits : q'.getUsedSize ≤ q'.bufferQueueSize ∧ q'.bufferQueueSize = q.bufferQueueSize
  number : (q.makeRoomFor.length : Int) = q.surplus
  deleted : ∀ k, ((q.bufferQueueCache.find k).isSome ∧ q'.bufferQueueCache.find k = none) ↔
    k ∈ q.makeRoomFor
  others : ∀ k, k ≠ buffer.seqNum → k ∉ q.makeRoomFor →
    q'.bufferQueueCache.find k = q.bufferQueueCache.find k
  owned : ∀ k e, q.bufferQueueCache.find k = some e →
    e.state = .requested ∨ e.state = .acquired ∨ e.state = .attached →
      q'.bufferQueueCache.find k = some e
  freeList : q'.freeList = q.freeList.drop q.surplus.toNat
  dirtyList : q'.dirtyList = q.dirtyList.drop (q.surplus.toNat - q.freeList.length)
  deletingList : q'.deletingList = q.deletingList ++ q.makeRoomFor.filter q.announces

/-- The count that is handed to `DeleteBuffersLocked` never reaches its third loop. -/
theorem attachDeleteCount_eq {count : ℕ} (hcount : q.attachDeleteCount = some count) :
    (count : Int) = q.surplus ∧ count ≤ q.freeList.length + q.dirtyList.length := by
  simp only [attachDeleteCount] at hcount
  unfold surplus
  by_cases hroom : q.getUsedSize < q.bufferQueueSize
  · rw [if_pos hroom, Option.some.injEq] at hcount
    omega
  · rw [if_neg hroom] at hcount
    by_cases henough : q.getUsedSize - q.bufferQueueSize + 1 ≤
        q.dirtyList.length + q.freeList.length
    · rw [if_pos henough, Option.some.injEq] at hcount
      omega
    · rw [if_neg henough] at hcount
      cases hcount

theorem find_deleteToFit (h : q.Agrees) {count : ℕ}
    (hfew : count ≤ q.freeList.length + q.dirtyList.length) (k : ℕ) :
    (q.deleteBuffersLocked count).bufferQueueCache.find k =
      if k ∈ (q.freeList ++ q.dirtyList).take count then none else q.bufferQueueCache.find k := by
  have hthird : count - q.freeList.length - q.dirtyList.length = 0 := by omega
  rw [deleteBuffersLocked_find h, take_deletionOrder, hthird, List.take_zero, List.append_nil]
  by_cases hin : k ∈ (q.freeList ++ q.dirtyList).take count
  · rw [if_pos hin, if_pos hin]
  · rw [if_neg hin, if_neg hin, if_neg hin]

theorem attach_makesRoom (h : q.Agrees) (hnew : q.bufferQueueCache.find buffer.seqNum = none)
    {count : ℕ} (hcount : q.attachDeleteCount = some count) :
    q.MakesRoom buffer timeOut { q.deleteBuffersLocked count with
      bufferQueueCache := (q.deleteBuffersLocked count).bufferQueueCache.put
        (q.attachElement buffer timeOut) } := by
  obtain ⟨hsurplus, hfew⟩ := attachDeleteCount_eq hcount
  have htoNat : q.surplus.toNat = count := by omega
  have hseq : (q.attachElement buffer timeOut).buffer.seqNum = buffer.seqNum := rfl
  have hfind := find_deleteToFit h hfew
  have hframe := (deleteBuffersLocked_frame q count).settings
  have hlists := deleteBuffersLocked_lists h count
  have hvictim {k : ℕ} (hk : k ∈ (q.freeList ++ q.dirtyList).take count) :
      (q.bufferQueueCache.find k).isSome ∧ ∀ e, q.bufferQueueCache.find k = some e →
        e.state = .released ∨ e.state = .flushed := by
    rcases List.mem_append.mp (List.mem_of_mem_take hk) with hfree | hdirty
    · obtain ⟨e, he, hreleased⟩ := h.state_of_mem_free hfree
      simp [he, hreleased]
    · obtain ⟨e, he, hflushed⟩ := h.state_of_mem_dirty hdirty
      simp [he, hflushed]
  have hother (k : ℕ) (hk : k ≠ buffer.seqNum) :
      ((q.deleteBuffersLocked count).bufferQueueCache.put
        (q.attachElement buffer timeOut)).find k =
          if k ∈ (q.freeList ++ q.dirtyList).take count then none
          else q.bufferQueueCache.find k := by
    rw [BufferCache.find_put, hseq, if_neg hk.symm, hfind]
  have hself : ((q.deleteBuffersLocked count).bufferQueueCache.put
      (q.attachElement buffer timeOut)).find buffer.seqNum =
        some (q.attachElement buffer timeOut) := by
    rw [BufferCache.find_put, hseq, if_pos rfl]
  constructor
  case attached => exact hself
  case fits =>
    have hlists : count ≤ q.dirtyList.length + q.freeList.length := by omega
    have hused := used_deleteBuffersLocked h hlists
    have hput := used_put_le (q.deleteBuffersLocked count).bufferQueueCache
      (q.attachElement buffer timeOut)
    have hsize : (q.deleteBuffersLocked count).bufferQueueSize = q.bufferQueueSize :=
      congrArg QueueSettings.bufferQueueSize hframe
    refine ⟨?_, hsize⟩
    change ((q.deleteBuffersLocked count).bufferQueueCache.put _).size ≤
      (q.deleteBuffersLocked count).bufferQueueSize
    simp only [getUsedSize] at hused
    simp only [surplus, getUsedSize] at hsurplus
    omega
  case number =>
    rw [makeRoomFor, htoNat, List.length_take_of_le (by rw [List.length_append]; exact hfew)]
    exact hsurplus
  case deleted =>
    intro k
    rw [makeRoomFor, htoNat]
    by_cases hk : k = buffer.seqNum
    · subst hk
      have hout : buffer.seqNum ∉ (q.freeList ++ q.dirtyList).take count := fun hin => by
        simpa [hnew] using (hvictim hin).1
      simp [hnew, hout]
    · change _ ∧ ((q.deleteBuffersLocked count).bufferQueueCache.put _).find k = none ↔ _
      rw [hother k hk]
      by_cases hin : k ∈ (q.freeList ++ q.dirtyList).take count
      · simp [hin, (hvictim hin).1]
      · rw [if_neg hin]
        simp only [hin, iff_false]
        rintro ⟨hsome, hnone⟩
        simp [hnone] at hsome
  case others =>
    intro k hk hout
    rw [makeRoomFor, htoNat] at hout
    exact (hother k hk).trans (if_neg hout)
  case owned =>
    intro k e he hstate
    have hk : k ≠ buffer.seqNum := by
      rintro rfl
      simp [hnew] at he
    have hout : k ∉ (q.freeList ++ q.dirtyList).take count := fun hin => by
      rcases (hvictim hin).2 e he with hs | hs <;> simp [hs] at hstate
    exact (hother k hk).trans ((if_neg hout).trans he)
  case freeList => rw [htoNat]; exact hlists.1
  case dirtyList => rw [htoNat]; exact deleteBuffersLocked_dirtyList h count
  case deletingList => rw [makeRoomFor, htoNat]; exact hlists.2

end BufferQueue

def freeAndPending : List Op :=
  threeInUse ++ [.cancelBuffer 2 (some ∅)]

def allOwned : List Op :=
  threeInUse.take 3

end GraphicSurface
