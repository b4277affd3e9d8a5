import Mathlib.Tactic

/-! Tickets for the elements that pass through a queue. Every submission gets the next number;
after each operation on the queue the ledger compares its open tickets with the keys that are
left, and files the tickets that are gone as returned or as removed for a reason. `Sound` says
that the ledger is exact: each number is in one place, the returned and the open ones are in the
order of submission, and the open ones spell the queue. -/

namespace GraphicSurface.Tickets

structure Ledger (K R : Type*) where
  log : List K := []
  pending : List (K × ℕ) := []
  returned : List (K × ℕ) := []
  removed : List (ℕ × R) := []
deriving DecidableEq

variable {K R : Type*}

namespace Ledger

def issue (L : Ledger K R) (submitted : List K) : Ledger K R :=
  { L with
    log := L.log ++ submitted
    pending := L.pending ++ submitted.zipIdx L.log.length }

variable [DecidableEq K]

def settle (L : Ledger K R) (taken : Option K) (left : List K) (reason : R) : Ledger K R :=
  let gone := L.pending.filter fun t => decide (t.1 ∉ left)
  { L with
    pending := L.pending.filter fun t => decide (t.1 ∈ left)
    returned := L.returned ++ gone.filter fun t => decide (some t.1 = taken)
    removed := L.removed ++
      (gone.filter fun t => !decide (some t.1 = taken)).map fun t => (t.2, reason) }

def observe (L : Ledger K R) (submitted : List K) (taken : Option K) (left : List K) (reason : R) :
    Ledger K R :=
  (L.issue submitted).settle taken left reason

end Ledger

structure Sound (L : Ledger K R) (queue frames : List K) : Prop where
  pending_keys : L.pending.map (·.1) = queue
  returned_keys : L.returned.map (·.1) = frames
  ordered : ((L.returned ++ L.pending).map (·.2)).Pairwise (· < ·)
  keyed : ∀ t ∈ L.returned ++ L.pending, L.log[t.2]? = some t.1
  accounted :
    ((L.returned ++ L.pending).map (·.2) ++ L.removed.map (·.1)).Perm (List.range L.log.length)

theorem filter_mem_of_sublist [DecidableEq K] {l l' : List K} (hnodup : l.Nodup)
    (hsub : l'.Sublist l) : l.filter (fun k => decide (k ∈ l')) = l' := by
  induction hsub with
  | slnil => rfl
  | @cons l₁ l₂ a hsub ih =>
    obtain ⟨ha, hnodup⟩ := List.nodup_cons.mp hnodup
    have hout : a ∉ l₁ := fun h => ha (hsub.subset h)
    rw [List.filter_cons_of_neg (by simpa using hout), ih hnodup]
  | @cons_cons l₁ l₂ a hsub ih =>
    obtain ⟨ha, hnodup⟩ := List.nodup_cons.mp hnodup
    have hrest : l₂.filter (fun k => decide (k ∈ a :: l₁)) =
        l₂.filter (fun k => decide (k ∈ l₁)) := by
      refine List.filter_congr fun k hk => ?_
      have hne : k ≠ a := by
        rintro rfl
        exact ha hk
      simp [hne]
    rw [List.filter_cons_of_pos (by simp), hrest, ih hnodup]

/-- Tickets in increasing order, from the number `m` on, spell a subsequence of the log. -/
theorem sublist_drop_of_keyed {log : List K} (l : List (K × ℕ))
    (hordered : (l.map (·.2)).Pairwise (· < ·)) (hkeyed : ∀ t ∈ l, log[t.2]? = some t.1) (m : ℕ)
    (hm : ∀ t ∈ l, m ≤ t.2) : (l.map (·.1)).Sublist (log.drop m) := by
  induction l generalizing m with
  | nil => simp
  | cons t rest ih =>
    rw [List.map_cons, List.pairwise_cons] at hordered
    obtain ⟨hlt, hk⟩ := List.getElem?_eq_some_iff.mp (hkeyed t List.mem_cons_self)
    have hrest : (rest.map (·.1)).Sublist (log.drop (t.2 + 1)) :=
      ih hordered.2 (fun u hu => hkeyed u (List.mem_cons_of_mem t hu)) (t.2 + 1)
        fun u hu => hordered.1 u.2 (List.mem_map_of_mem hu)
    have hdrop : log.drop t.2 = t.1 :: log.drop (t.2 + 1) := by
      rw [List.drop_eq_getElem_cons hlt, hk]
    have hhere : ((t :: rest).map (·.1)).Sublist (log.drop t.2) := by
      rw [hdrop, List.map_cons]
      exact hrest.cons_cons t.1
    exact hhere.trans (List.drop_sublist_drop_left log (hm t List.mem_cons_self))

namespace Sound

variable {L : Ledger K R} {queue frames : List K}

theorem start : Sound ({} : Ledger K R) [] [] := by
  constructor <;> simp

/-- Numbers are given out in order, so a new ticket is later than all the others. -/
theorem issue (h : Sound L queue frames) (submitted : List K) :
    Sound (L.issue submitted) (queue ++ submitted) frames where
  pending_keys := by
    simp [Ledger.issue, h.pending_keys, List.zipIdx_map_fst]
  returned_keys := h.returned_keys
  ordered := by
    have hbound : ∀ n ∈ (L.returned ++ L.pending).map (·.2), n < L.log.length := by
      intro n hn
      exact List.mem_range.mp (h.accounted.subset (List.mem_append_left _ hn))
    have hsplit : (((L.issue submitted).returned ++ (L.issue submitted).pending).map (·.2)) =
        (L.returned ++ L.pending).map (·.2) ++ List.range' L.log.length submitted.length := by
      simp [Ledger.issue, List.zipIdx_map_snd]
    rw [hsplit, List.pairwise_append]
    refine ⟨h.ordered, List.pairwise_lt_range', fun n hn m hm => ?_⟩
    have hlow := hbound n hn
    rw [List.mem_range'_1] at hm
    omega
  keyed t ht := by
    have hcases : t ∈ L.returned ++ L.pending ∨ t ∈ submitted.zipIdx L.log.length := by
      simpa [Ledger.issue, or_assoc] using ht
    rcases hcases with hold | hnew
    · have hget := h.keyed t hold
      have hlt : t.2 < L.log.length := (List.getElem?_eq_some_iff.mp hget).1
      simpa [Ledger.issue, List.getElem?_append_left hlt] using hget
    · obtain ⟨hle, hget⟩ := List.mk_mem_zipIdx_iff_le_and_getElem?_sub.mp hnew
      simpa [Ledger.issue, List.getElem?_append_right hle] using hget
  accounted := by
    have hlog : List.range (L.issue submitted).log.length =
        List.range L.log.length ++ List.range' L.log.length submitted.length := by
      have happend := List.range'_append_1 (s := 0) (m := L.log.length) (n := submitted.length)
      rw [Nat.zero_add] at happend
      simp [Ledger.issue, List.range_eq_range', happend]
    have hleft : (((L.issue submitted).returned ++ (L.issue submitted).pending).map (·.2) ++
        (L.issue submitted).removed.map (·.1)) =
        (L.returned ++ L.pending).map (·.2) ++ List.range' L.log.length submitted.length ++
          L.removed.map (·.1) := by
      simp [Ledger.issue, List.zipIdx_map_snd]
    rw [hlog, hleft, List.append_assoc]
    refine (List.Perm.append_left _ List.perm_append_comm).trans ?_
    rw [← List.append_assoc]
    exact h.accounted.append_right _

section Settle

variable [DecidableEq K] {taken : Option K} {left : List K} {reason : R}

/-- What a settlement keeps open is what the queue has kept. -/
theorem pending_settle (h : Sound L queue frames) (hnodup : queue.Nodup)
    (hsub : left.Sublist queue) : (L.settle taken left reason).pending.map (·.1) = left := by
  have hmap : (L.settle taken left reason).pending.map (·.1) =
      (L.pending.map (·.1)).filter fun k => decide (k ∈ left) := by
    simp only [Ledger.settle, List.filter_map]
    rfl
  rw [hmap, h.pending_keys, filter_mem_of_sublist hnodup hsub]

/-- A settlement moves tickets and loses none. -/
theorem accounted_settle (h : Sound L queue frames) :
    (((L.settle taken left reason).returned ++ (L.settle taken left reason).pending).map (·.2) ++
      (L.settle taken left reason).removed.map (·.1)).Perm
        (List.range (L.settle taken left reason).log.length) := by
  set gone := L.pending.filter fun t => decide (t.1 ∉ left) with hgone
  set kept := L.pending.filter fun t => decide (t.1 ∈ left) with hkept
  have hopen : (kept ++ gone).Perm L.pending := by
    have hperm := List.filter_append_perm (fun t : K × ℕ => decide (t.1 ∈ left)) L.pending
    simpa [hgone, hkept] using hperm
  have hsplit := List.filter_append_perm (fun t : K × ℕ => decide (some t.1 = taken)) gone
  have hremoved : (L.settle taken left reason).removed.map (·.1) =
      L.removed.map (·.1) ++ (gone.filter fun t => !decide (some t.1 = taken)).map (·.2) := by
    simp [Ledger.settle, hgone]
  have hreturned : (L.settle taken left reason).returned =
      L.returned ++ gone.filter fun t => decide (some t.1 = taken) := by
    simp [Ledger.settle, hgone]
  have hpending : (L.settle taken left reason).pending = kept := rfl
  rw [hremoved, hreturned, hpending]
  refine List.Perm.trans ?_ h.accounted
  rw [List.perm_iff_count]
  intro n
  have hopen' := (hopen.map (·.2)).count_eq n
  have hsplit' := (hsplit.map (·.2)).count_eq n
  simp only [List.map_append, List.count_append] at hopen' hsplit' ⊢
  omega

theorem settle_none (h : Sound L queue frames) (hnodup : queue.Nodup)
    (hsub : left.Sublist queue) : Sound (L.settle none left reason) left frames where
  pending_keys := h.pending_settle hnodup hsub
  returned_keys := by simp [Ledger.settle, h.returned_keys]
  ordered := by
    refine h.ordered.sublist (List.Sublist.map _ ?_)
    simp [Ledger.settle]
  keyed t ht := by
    refine h.keyed t ?_
    have hcases : t ∈ L.returned ∨ t ∈ L.pending ∧ t.1 ∈ left := by
      simpa [Ledger.settle] using ht
    rcases hcases with hreturned | ⟨hpending, _⟩
    · exact List.mem_append_left _ hreturned
    · exact List.mem_append_right _ hpending
  accounted := h.accounted_settle

/-- A key that is taken from behind others: the open tickets before it are removed. -/
theorem settle_eq (h : Sound L queue frames) (hnodup : queue.Nodup) {dropped : List K} {k : K}
    (hqueue : queue = dropped ++ k :: left) (reason : R) :
    ∃ before n after, L.pending = before ++ (k, n) :: after ∧ after.map (·.1) = left ∧
      before.map (·.1) = dropped ∧ L.settle (some k) left reason =
        { L with
          pending := after
          returned := L.returned ++ [(k, n)]
          removed := L.removed ++ before.map fun t => (t.2, reason) } := by
  have hkeys := h.pending_keys
  rw [hqueue, List.map_eq_append_iff] at hkeys
  obtain ⟨before, rest, hpending, hbefore, hrest⟩ := hkeys
  obtain ⟨⟨k', n⟩, after, rfl, hk, hafter⟩ := List.map_eq_cons_iff.mp hrest
  obtain rfl : k = k' := hk.symm
  rw [hqueue, List.nodup_append] at hnodup
  obtain ⟨_, hnodup, hdisjoint⟩ := hnodup
  rw [List.nodup_cons] at hnodup
  have hbefore_out : ∀ t ∈ before, t.1 ∉ left ∧ t.1 ≠ k := by
    intro t ht
    have hmem : t.1 ∈ dropped := hbefore ▸ List.mem_map_of_mem ht
    exact ⟨fun hleft => hdisjoint t.1 hmem t.1 (List.mem_cons_of_mem k hleft) rfl,
      hdisjoint t.1 hmem k List.mem_cons_self⟩
  have hafter_in : ∀ t ∈ after, t.1 ∈ left := by
    intro t ht
    exact hafter ▸ List.mem_map_of_mem ht
  have hkept : L.pending.filter (fun t => decide (t.1 ∈ left)) = after := by
    rw [hpending, List.filter_append, List.filter_cons_of_neg (by simpa using hnodup.1),
      List.filter_eq_nil_iff.mpr (by simpa using fun a b hb => (hbefore_out (a, b) hb).1),
      List.filter_eq_self.mpr (by simpa using fun a b hb => hafter_in (a, b) hb), List.nil_append]
  have hgone : L.pending.filter (fun t => decide (t.1 ∉ left)) = before ++ [(k, n)] := by
    rw [hpending, List.filter_append, List.filter_cons_of_pos (by simpa using hnodup.1),
      List.filter_eq_self.mpr (by simpa using fun a b hb => (hbefore_out (a, b) hb).1),
      List.filter_eq_nil_iff.mpr (by simpa using fun a b hb => hafter_in (a, b) hb)]
  have htaken : (before ++ [(k, n)]).filter (fun t => decide (some t.1 = some k)) = [(k, n)] := by
    rw [List.filter_append,
      List.filter_eq_nil_iff.mpr (by simpa using fun a b hb => (hbefore_out (a, b) hb).2)]
    simp
  have hremoved : (before ++ [(k, n)]).filter (fun t => !decide (some t.1 = some k)) = before := by
    rw [List.filter_append,
      List.filter_eq_self.mpr (by simpa using fun a b hb => (hbefore_out (a, b) hb).2)]
    simp
  refine ⟨before, n, after, hpending, hafter, hbefore, ?_⟩
  simp only [Ledger.settle, hgone, hkept, htaken, hremoved]

theorem settle_some (h : Sound L queue frames) (hnodup : queue.Nodup) {dropped : List K} {k : K}
    (hqueue : queue = dropped ++ k :: left) :
    Sound (L.settle (some k) left reason) left (frames ++ [k]) := by
  obtain ⟨before, n, after, hpending, hafter, _, heq⟩ := h.settle_eq hnodup hqueue reason
  have haccounted : (((L.settle (some k) left reason).returned ++
      (L.settle (some k) left reason).pending).map (·.2) ++
      (L.settle (some k) left reason).removed.map (·.1)).Perm
        (List.range (L.settle (some k) left reason).log.length) := h.accounted_settle
  have hsub : (L.returned ++ [(k, n)] ++ after).Sublist (L.returned ++ L.pending) := by
    rw [hpending, List.append_assoc, List.singleton_append]
    exact (List.sublist_append_right before _).append_left _
  rw [heq] at haccounted ⊢
  exact
    { pending_keys := hafter
      returned_keys := by simp [h.returned_keys]
      ordered := h.ordered.sublist (hsub.map _)
      keyed := fun t ht => h.keyed t (hsub.subset ht)
      accounted := haccounted }

/-- Nothing is removed when every key that is gone was taken. -/
theorem removed_settle (h : Sound L queue frames) (hnodup : queue.Nodup)
    (hqueue : queue = taken.toList ++ left) : (L.settle taken left reason).removed = L.removed := by
  cases taken with
  | none =>
    have hall : ∀ t ∈ L.pending, t.1 ∈ left := by
      intro t ht
      have hmem : t.1 ∈ queue := h.pending_keys ▸ List.mem_map_of_mem ht
      simpa [hqueue] using hmem
    have hgone : L.pending.filter (fun t => decide (t.1 ∉ left)) = [] :=
      List.filter_eq_nil_iff.mpr (by simpa using fun a b hb => hall (a, b) hb)
    simp only [Ledger.settle, hgone, List.filter_nil, List.map_nil, List.append_nil]
  | some k =>
    have hqueue' : queue = [] ++ k :: left := by simpa using hqueue
    obtain ⟨before, n, after, _, _, hbefore, heq⟩ := h.settle_eq hnodup hqueue' reason
    have hnil : before = [] := by simpa using hbefore
    simp [heq, hnil]

end Settle

/-- How one operation leaves a queue: something may be taken from behind dropped elements, or
elements go anywhere and nothing is taken. -/
def Flow (queue : List K) (taken : Option K) (left : List K) : Prop :=
  match taken with
  | none => left.Sublist queue
  | some k => ∃ dropped, queue = dropped ++ k :: left

section Observe

variable [DecidableEq K] {submitted left : List K} {taken : Option K} {reason : R}

theorem observe (h : Sound L queue frames) (hnodup : (queue ++ submitted).Nodup)
    (hflow : Flow (queue ++ submitted) taken left) :
    Sound (L.observe submitted taken left reason) left (frames ++ taken.toList) := by
  have hissue := h.issue submitted
  cases taken with
  | none =>
    rw [Option.toList_none, List.append_nil]
    exact hissue.settle_none hnodup hflow
  | some k =>
    obtain ⟨dropped, hqueue⟩ := hflow
    exact hissue.settle_some hnodup hqueue

theorem removed_observe (h : Sound L queue frames) (hnodup : (queue ++ submitted).Nodup)
    (hqueue : queue ++ submitted = taken.toList ++ left) :
    (L.observe submitted taken left reason).removed = L.removed :=
  (h.issue submitted).removed_settle hnodup hqueue

theorem mem_removed_observe {t : ℕ × R} (ht : t ∈ (L.observe submitted taken left reason).removed) :
    t ∈ L.removed ∨ t.2 = reason := by
  simp only [Ledger.observe, Ledger.settle, List.mem_append, List.mem_map] at ht
  rcases ht with hold | ⟨u, _, rfl⟩
  · exact .inl hold
  · exact .inr rfl

end Observe

/-- What is taken is in the order of submission, and is taken at most once. -/
theorem frames_sublist (h : Sound L queue frames) : frames.Sublist L.log := by
  have hordered : (L.returned.map (·.2)).Pairwise (· < ·) :=
    h.ordered.sublist ((List.sublist_append_left _ _).map _)
  have hkeyed : ∀ t ∈ L.returned, L.log[t.2]? = some t.1 :=
    fun t ht => h.keyed t (List.mem_append_left _ ht)
  rw [← h.returned_keys]
  simpa using sublist_drop_of_keyed L.returned hordered hkeyed 0 (by simp)

end Sound

end GraphicSurface.Tickets
