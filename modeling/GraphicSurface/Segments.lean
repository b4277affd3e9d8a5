import Mathlib.Tactic

/-! Consecutive stretches of numbers, and copies of single cells that are made in any order. -/

namespace GraphicSurface.Segments

/-- Stretches of the given lengths one after the other, each as its start and its length. -/
def layOut (start : ℕ) : List ℕ → List (ℕ × ℕ)
  | [] => []
  | n :: ns => (start, n) :: layOut (start + n) ns

variable {start k : ℕ} {ns ms : List ℕ} {s : ℕ × ℕ}

theorem layOut_append :
    layOut start (ns ++ ms) = layOut start ns ++ layOut (start + ns.sum) ms := by
  induction ns generalizing start with
  | nil => simp [layOut]
  | cons n ns ih => simp [layOut, ih, add_assoc]

theorem layOut_lengths : (layOut start ns).map Prod.snd = ns := by
  induction ns generalizing start with
  | nil => rfl
  | cons n ns ih => rw [layOut, List.map_cons, ih]

theorem layOut_bounds (hs : s ∈ layOut start ns) : start ≤ s.1 ∧ s.1 + s.2 ≤ start + ns.sum := by
  induction ns generalizing start with
  | nil => simp [layOut] at hs
  | cons n ns ih =>
    rw [List.sum_cons]
    rcases List.mem_cons.mp hs with rfl | hs
    · dsimp only
      omega
    · have hrest := ih hs
      omega

theorem layOut_ordered : (layOut start ns).Pairwise fun s t => s.1 + s.2 ≤ t.1 := by
  induction ns generalizing start with
  | nil => exact .nil
  | cons n ns ih => exact .cons (fun t ht => (layOut_bounds ht).1) ih

/-- Together the stretches are one. -/
theorem layOut_covers :
    (∃ s ∈ layOut start ns, s.1 ≤ k ∧ k < s.1 + s.2) ↔ start ≤ k ∧ k < start + ns.sum := by
  induction ns generalizing start with
  | nil =>
    simp only [layOut, List.not_mem_nil, false_and, exists_false, List.sum_nil, false_iff]
    omega
  | cons n ns ih =>
    simp only [layOut, List.mem_cons, exists_eq_or_imp, ih, List.sum_cons]
    omega

section Cells

variable {α β : Type*} [DecidableEq α] {memory : α → β} {ws ws' : List (α × α)} {w : α × α} {a : α}

/-- Copies of cells one after the other. In a pair the first is where to, the second where from. -/
def copyCells (memory : α → β) : List (α × α) → α → β
  | [] => memory
  | w :: ws => copyCells (Function.update memory w.1 (memory w.2)) ws

theorem copyCells_of_untouched (h : ∀ w ∈ ws, w.1 ≠ a) : copyCells memory ws a = memory a := by
  induction ws generalizing memory with
  | nil => rfl
  | cons w ws ih =>
    rw [copyCells, ih fun w hw => h w (List.mem_cons_of_mem _ hw)]
    exact Function.update_of_ne (h w List.mem_cons_self).symm _ _

/-- When no copy writes what another reads, and what is written twice is written from one place,
each copy does its work. -/
theorem copyCells_of_mem (hapart : ∀ w ∈ ws, ∀ w' ∈ ws, w.2 ≠ w'.1)
    (hsingle : ∀ w ∈ ws, ∀ w' ∈ ws, w.1 = w'.1 → w.2 = w'.2) (hw : w ∈ ws) :
    copyCells memory ws w.1 = memory w.2 := by
  induction ws generalizing memory w with
  | nil => exact absurd hw List.not_mem_nil
  | cons v ws ih =>
    have hkept : Function.update memory v.1 (memory v.2) w.2 = memory w.2 :=
      Function.update_of_ne (hapart w hw v List.mem_cons_self) _ _
    by_cases hlater : ∃ u ∈ ws, u.1 = w.1
    · obtain ⟨u, hu, hsame⟩ := hlater
      have hfrom : u.2 = w.2 := hsingle u (List.mem_cons_of_mem _ hu) w hw hsame
      have hrest : copyCells (Function.update memory v.1 (memory v.2)) ws u.1 =
          Function.update memory v.1 (memory v.2) u.2 := ih
        (fun w hw w' hw' => hapart w (List.mem_cons_of_mem _ hw) w' (List.mem_cons_of_mem _ hw'))
        (fun w hw w' hw' => hsingle w (List.mem_cons_of_mem _ hw) w' (List.mem_cons_of_mem _ hw')) hu
      rw [copyCells, ← hsame, hrest, hfrom, hkept]
    · rcases List.mem_cons.mp hw with rfl | hw
      · rw [copyCells, copyCells_of_untouched fun u hu hsame => hlater ⟨u, hu, hsame⟩]
        exact Function.update_self _ _ _
      · exact absurd ⟨w, hw, rfl⟩ hlater

/-- What comes out depends on the copies alone, not on their order or number. -/
theorem copyCells_congr (hapart : ∀ w ∈ ws, ∀ w' ∈ ws, w.2 ≠ w'.1)
    (hsingle : ∀ w ∈ ws, ∀ w' ∈ ws, w.1 = w'.1 → w.2 = w'.2) (hsame : ∀ w, w ∈ ws' ↔ w ∈ ws) :
    copyCells memory ws' = copyCells memory ws := by
  funext a
  by_cases ha : ∃ w ∈ ws, w.1 = a
  · obtain ⟨w, hw, rfl⟩ := ha
    rw [copyCells_of_mem hapart hsingle hw]
    exact copyCells_of_mem
      (fun w hw w' hw' => hapart w ((hsame w).mp hw) w' ((hsame w').mp hw'))
      (fun w hw w' hw' => hsingle w ((hsame w).mp hw) w' ((hsame w').mp hw')) ((hsame w).mpr hw)
  · rw [copyCells_of_untouched fun w hw hwa => ha ⟨w, hw, hwa⟩,
      copyCells_of_untouched fun w hw hwa => ha ⟨w, (hsame w).mp hw, hwa⟩]

end Cells

end GraphicSurface.Segments
