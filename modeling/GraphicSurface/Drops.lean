import GraphicSurface.Agreement

/-! The frames that an acquire drops before it takes one: those beyond the drop level, and those
whose successor is due as well. Both loops take frames from the front of `dirtyList_`; how many
is a function of the list. -/

namespace GraphicSurface

open SlotPool BufferElement

/-- How many frames the timestamp loop drops: the front goes as long as it and its successor are
both eligible. -/
def outrun (eligible : ℕ → Bool) : List ℕ → ℕ
  | first :: second :: rest =>
    if eligible first && eligible second then outrun eligible (second :: rest) + 1 else 0
  | _ => 0

theorem outrun_lt (eligible : ℕ → Bool) {l : List ℕ} (hl : l ≠ []) :
    outrun eligible l < l.length := by
  induction l with
  | nil => exact absurd rfl hl
  | cons first rest ih =>
    cases rest with
    | nil => simp [outrun]
    | cons second rest =>
      have hrest := ih (by simp)
      rw [outrun]
      split_ifs
      · simpa using hrest
      · simp

theorem outrun_congr {eligible eligible' : ℕ → Bool} {l : List ℕ}
    (h : ∀ k ∈ l, eligible k = eligible' k) : outrun eligible l = outrun eligible' l := by
  induction l with
  | nil => rfl
  | cons first rest ih =>
    cases rest with
    | nil => rfl
    | cons second rest =>
      rw [outrun, outrun, h first (by simp), h second (by simp),
        ih fun k hk => h k (List.mem_cons_of_mem first hk)]

theorem eligible_of_outrun (eligible : ℕ → Bool) (l : List ℕ) (hdrop : outrun eligible l ≠ 0) :
    ∃ front rest, l.drop (outrun eligible l) = front :: rest ∧ eligible front = true := by
  induction l with
  | nil => exact absurd rfl hdrop
  | cons first rest ih =>
    cases rest with
    | nil => exact absurd rfl hdrop
    | cons second rest =>
      rw [outrun] at hdrop ⊢
      split_ifs at hdrop ⊢ with hboth
      · rw [List.drop_succ_cons]
        by_cases hmore : outrun eligible (second :: rest) = 0
        · rw [hmore]
          exact ⟨second, rest, rfl, (Bool.and_eq_true_iff.mp hboth).2⟩
        · exact ih hmore
      · exact absurd rfl hdrop

namespace BufferQueue

variable {q q₁ : BufferQueue} {front : ℕ} {rest : List ℕ} {e : BufferElement}

def framesOf (q : BufferQueue) (l : List ℕ) : List BufferAndFence :=
  l.filterMap fun k => (q.bufferQueueCache.find k).map fun e => (e.buffer, e.fence)

theorem framesOf_congr {l : List ℕ}
    (h : ∀ k ∈ l, q₁.bufferQueueCache.find k = q.bufferQueueCache.find k) :
    q₁.framesOf l = q.framesOf l :=
  List.filterMap_congr fun k hk => by rw [h k hk]

theorem map_seqNum_framesOf {l : List ℕ} (h : ∀ k ∈ l, (q.bufferQueueCache.find k).isSome) :
    (q.framesOf l).map (·.1.seqNum) = l := by
  induction l with
  | nil => rfl
  | cons k l ih =>
    obtain ⟨e, he⟩ := Option.isSome_iff_exists.mp (h k List.mem_cons_self)
    have hrest := ih fun j hj => h j (List.mem_cons_of_mem k hj)
    rw [framesOf, List.filterMap_cons, he]
    simp only [Option.map_some, List.map_cons]
    rw [BufferCache.seqNum_of_find he]
    exact congrArg (k :: ·) hrest

/-- The first `n` frames were taken, each with the write `f`, and nothing else has changed. -/
structure TakesFrames (q : BufferQueue) (n : ℕ) (f : BufferElement → BufferElement)
    (r : List BufferAndFence × BufferQueue) : Prop where
  frames : r.1 = q.framesOf (q.dirtyList.take n)
  dirtyList : r.2.dirtyList = q.dirtyList.drop n
  freeList : r.2.freeList = q.freeList
  settings : r.2.toQueueSettings = q.toQueueSettings
  find : ∀ k, r.2.bufferQueueCache.find k =
    if k ∈ q.dirtyList.take n then (q.bufferQueueCache.find k).map f
    else q.bufferQueueCache.find k

namespace TakesFrames

variable {n : ℕ} {f : BufferElement → BufferElement} {r : List BufferAndFence × BufferQueue}

theorem none (q : BufferQueue) (f : BufferElement → BufferElement) : TakesFrames q 0 f ([], q) :=
  ⟨by simp [framesOf], rfl, rfl, rfl, by simp⟩

/-- The front frame, and then `n` frames of what is left. -/
theorem cons (h : q.Agrees) (hdirty : q.dirtyList = front :: rest)
    (he : q.bufferQueueCache.find front = some e)
    (hf : ∀ e, (f e).buffer.seqNum = e.buffer.seqNum)
    (hr : TakesFrames { q with
      dirtyList := rest
      bufferQueueCache := q.bufferQueueCache.modify front f hf } n f r) :
    TakesFrames q (n + 1) f ((e.buffer, e.fence) :: r.1, r.2) := by
  have hnodup : (front :: rest).Nodup := hdirty ▸ h.pending_nodup
  have hout : ∀ k ∈ rest, front ≠ k := fun k hk heq =>
    (List.nodup_cons.mp hnodup).1 (heq ▸ hk)
  have htake {k : ℕ} (hk : k ∈ rest.take n) : front ≠ k := hout k (List.mem_of_mem_take hk)
  refine ⟨?_, ?_, hr.freeList, hr.settings, fun k => ?_⟩
  · change (e.buffer, e.fence) :: r.1 = _
    rw [hr.frames, hdirty, List.take_succ_cons]
    change _ = List.filterMap _ (front :: rest.take n)
    rw [List.filterMap_cons, he]
    refine congrArg ((e.buffer, e.fence) :: ·) (framesOf_congr fun k hk => ?_)
    change (q.bufferQueueCache.modify front f hf).find k = _
    rw [BufferCache.find_modify, if_neg (htake hk)]
  · rw [hdirty, List.drop_succ_cons]
    exact hr.dirtyList
  · have hfind := hr.find k
    change r.2.bufferQueueCache.find k = if k ∈ rest.take n then
      ((q.bufferQueueCache.modify front f hf).find k).map f
      else (q.bufferQueueCache.modify front f hf).find k at hfind
    rw [hfind, hdirty, List.take_succ_cons, BufferCache.find_modify]
    by_cases hk : front = k
    · have hnot : k ∉ rest.take n := fun hin => htake hin hk
      simp [hk, hnot]
    · simp [hk, Ne.symm hk]

end TakesFrames

theorem dropFronts_takes (h : q.Agrees) (now : Int) (n : ℕ) :
    TakesFrames q n (setAcquired now) (q.dropFronts now n) := by
  induction n generalizing q with
  | zero => exact .none q _
  | succ n ih =>
    unfold dropFronts
    split
    · rename_i hdirty
      exact ⟨by simp [hdirty, framesOf], by simp [hdirty], rfl, rfl, by simp [hdirty]⟩
    · rename_i front rest hdirty
      obtain ⟨e, he, -⟩ := h.state_of_mem_dirty (k := front) (by simp [hdirty])
      simp only [he]
      have hone := takeFront_refines h hdirty (place_markAcquired he now)
        (BufferCache.size_modify _ _ _ (setAcquired_seqNum now))
      exact .cons h hdirty he (setAcquired_seqNum now) (ih (hone.agrees h))

def levelDrops (q : BufferQueue) : ℕ :=
  if 0 < q.dropFrameLevel then q.dirtyList.length - q.dropFrameLevel.toNat else 0

theorem dropBuffersByLevel_takes (h : q.Agrees) (now : Int) :
    TakesFrames q q.levelDrops (setAcquired now) (q.dropBuffersByLevel now) := by
  unfold dropBuffersByLevel
  by_cases hnone : q.dropFrameLevel ≤ 0 ∨ (q.dirtyList.length : Int) ≤ q.dropFrameLevel
  · have hzero : q.levelDrops = 0 := by
      unfold levelDrops
      split_ifs <;> omega
    rw [if_pos hnone, hzero]
    exact .none q _
  · have hsome : q.levelDrops = q.dirtyList.length - q.dropFrameLevel.toNat := if_pos (by omega)
    rw [if_neg hnone, hsome]
    exact dropFronts_takes h now _

/-- The frame that a number stands for is due, and may be dropped for its successor. -/
def eligible (q : BufferQueue) (expect : Int) (auto : Bool) (k : ℕ) : Bool :=
  (q.bufferQueueCache.find k).any (BufferElement.eligible · expect auto)

theorem dropByTimestamp_takes (h : q.Agrees) (expect : Int) (auto : Bool) (l : List ℕ)
    (hl : q.dirtyList = l) :
    TakesFrames q (outrun (q.eligible expect auto) l) (setState .acquired)
      (q.dropByTimestamp expect auto l) := by
  induction l generalizing q with
  | nil => exact .none q _
  | cons first rest ih =>
    cases rest with
    | nil => exact .none q _
    | cons second rest =>
      obtain ⟨f, hf, -⟩ := h.state_of_mem_dirty (k := first) (by simp [hl])
      obtain ⟨s, hs, -⟩ := h.state_of_mem_dirty (k := second) (by simp [hl])
      have hfirst : q.eligible expect auto first = BufferElement.eligible f expect auto := by
        simp [eligible, hf]
      have hsecond : q.eligible expect auto second = BufferElement.eligible s expect auto := by
        simp [eligible, hs]
      rw [outrun, hfirst, hsecond]
      unfold dropByTimestamp
      simp only [hf, hs]
      split_ifs with hboth
      · have hone := takeFront_refines h hl
          (BufferCache.place_modify hf (setState .acquired) (setState_seqNum _))
          (BufferCache.size_modify _ _ _ (setState_seqNum _))
        have hnodup : (first :: second :: rest).Nodup := hl ▸ h.pending_nodup
        have hcount := ih (hone.agrees h) rfl
        have hsame : ∀ k ∈ second :: rest, eligible { q with
            dirtyList := second :: rest
            bufferQueueCache := q.bufferQueueCache.modify first (setState .acquired)
              (setState_seqNum _) } expect auto k = q.eligible expect auto k := by
          intro k hk
          have hne : first ≠ k := fun heq => (List.nodup_cons.mp hnodup).1 (heq ▸ hk)
          simp [eligible, hne]
        rw [outrun_congr hsame] at hcount
        exact .cons h hl hf (setState_seqNum _) hcount
      · exact .none q _

end BufferQueue

end GraphicSurface
