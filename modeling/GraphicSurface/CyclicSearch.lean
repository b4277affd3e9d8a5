import Mathlib.Tactic

/-! The search for an unused index that goes once around a ring of `size` indices. The index after
the last one is written `size` and is read as zero. -/

namespace GraphicSurface.CyclicSearch

variable {size : ℕ} {used : Finset ℕ} {stop fuel k d : ℕ}

def wrap (size k : ℕ) : ℕ := if k = size then 0 else k

theorem wrap_lt (hk : k ≤ size) (hsize : 0 < size) : wrap size k < size := by
  unfold wrap
  split_ifs <;> omega

theorem wrap_eq_mod (hk : k ≤ size) : wrap size k = k % size := by
  unfold wrap
  split_ifs with h
  · rw [h, Nat.mod_self]
  · rw [Nat.mod_eq_of_lt (by omega)]

theorem wrap_succ_add (hk : k ≤ size) (i : ℕ) :
    (wrap size k + 1 + i) % size = (k + (i + 1)) % size := by
  rw [wrap_eq_mod hk, add_assoc, Nat.mod_add_mod, add_comm 1 i]

/-- From `k` on, the first unused index; `none` when `stop` is used too. The fuel is no part of the
search: one for each index is enough. -/
def search (size : ℕ) (used : Finset ℕ) (stop : ℕ) : ℕ → ℕ → Option ℕ
  | 0, _ => none
  | fuel + 1, k =>
    if wrap size k ∉ used then some (wrap size k)
    else if wrap size k = stop then none
    else search size used stop fuel (wrap size k + 1)

theorem search_of_unused (hk : k < size) (hunused : k ∉ used) :
    search size used stop (fuel + 1) k = some k := by
  have hwrap : wrap size k = k := if_neg hk.ne
  rw [search, hwrap, if_pos hunused]

theorem search_sound (hk : k ≤ size) (hsize : 0 < size) {n : ℕ}
    (h : search size used stop fuel k = some n) : n < size ∧ n ∉ used := by
  induction fuel generalizing k with
  | zero => simp [search] at h
  | succ fuel ih =>
    have hwrap := wrap_lt hk hsize
    rw [search] at h
    split_ifs at h with hused hstop
    · exact ih hwrap h
    · cases h
      exact ⟨hwrap, hused⟩

/-- What is found is the first unused index, going around. -/
theorem search_first (hk : k ≤ size) (hsize : 0 < size) {n : ℕ}
    (h : search size used stop fuel k = some n) :
    ∃ d, n = (k + d) % size ∧ ∀ e < d, (k + e) % size ∈ used := by
  induction fuel generalizing k with
  | zero => simp [search] at h
  | succ fuel ih =>
    have hmod := wrap_eq_mod hk
    rw [search] at h
    split_ifs at h with hused hstop
    · obtain ⟨d, rfl, hbefore⟩ := ih (wrap_lt hk hsize) h
      have hshift := wrap_succ_add hk
      refine ⟨d + 1, hshift d, fun e he => ?_⟩
      cases e with
      | zero => rwa [add_zero, ← hmod]
      | succ e =>
        rw [← hshift e]
        exact hbefore e (by omega)
    · cases h
      exact ⟨0, hmod, by simp⟩

/-- A search that ends `d` places further on finds nothing exactly when all of them are used. -/
theorem search_eq_none_iff (hk : k ≤ size) (hd : d < size) (hfuel : d < fuel) :
    search size used ((k + d) % size) fuel k = none ↔ ∀ i ≤ d, (k + i) % size ∈ used := by
  induction fuel generalizing k d with
  | zero => omega
  | succ fuel ih =>
    have hwrap := wrap_lt hk (by omega)
    have hmod := wrap_eq_mod hk
    have hzero : (k + 0) % size = wrap size k := hmod.symm
    rw [search]
    by_cases hused : wrap size k ∈ used
    · rw [if_neg (not_not.mpr hused)]
      cases d with
      | zero =>
        rw [if_pos hzero.symm]
        simp only [true_iff, Nat.le_zero]
        rintro i rfl
        rwa [hzero]
      | succ d =>
        have hne : wrap size k ≠ (k + (d + 1)) % size := by
          rw [hmod]
          intro h
          have hcong : 0 ≡ d + 1 [MOD size] := Nat.ModEq.add_left_cancel' k h
          rw [Nat.ModEq, Nat.zero_mod, Nat.mod_eq_of_lt hd] at hcong
          omega
        have hshift := wrap_succ_add hk
        rw [if_neg hne, ← hshift d, ih hwrap (by omega) (by omega)]
        constructor
        · intro h i hi
          cases i with
          | zero => rwa [hzero]
          | succ i =>
            rw [← hshift i]
            exact h i (by omega)
        · intro h i hi
          rw [hshift i]
          exact h (i + 1) (by omega)
    · rw [if_pos hused]
      simp only [reduceCtorEq, false_iff, not_forall]
      exact ⟨0, Nat.zero_le d, by rwa [hzero]⟩

/-- Fuel beyond the place to stop at changes nothing. -/
theorem search_fuel {fuel' : ℕ} (hk : k ≤ size) (hd : d < size) (hfuel : d < fuel)
    (hfuel' : d < fuel') :
    search size used ((k + d) % size) fuel k = search size used ((k + d) % size) fuel' k := by
  induction d generalizing k fuel fuel' with
  | zero =>
    obtain ⟨fuel, rfl⟩ := Nat.exists_eq_succ_of_ne_zero hfuel.ne'
    obtain ⟨fuel', rfl⟩ := Nat.exists_eq_succ_of_ne_zero hfuel'.ne'
    have hlast : wrap size k = (k + 0) % size := wrap_eq_mod hk
    rw [search, search, if_pos hlast, if_pos hlast]
  | succ d ih =>
    obtain ⟨fuel, rfl⟩ := Nat.exists_eq_succ_of_ne_zero (Nat.ne_zero_of_lt hfuel)
    obtain ⟨fuel', rfl⟩ := Nat.exists_eq_succ_of_ne_zero (Nat.ne_zero_of_lt hfuel')
    have hrest : search size used ((wrap size k + 1 + d) % size) fuel (wrap size k + 1) =
        search size used ((wrap size k + 1 + d) % size) fuel' (wrap size k + 1) :=
      ih (wrap_lt hk (by omega)) (by omega) (by omega) (by omega)
    rw [search, search, ← wrap_succ_add hk d, hrest]

/-- Once around the ring: nothing is found exactly when every index is used. -/
theorem search_around (hk : k < size) :
    search size used ((k + (size - 1)) % size) size k = none ↔ ∀ n < size, n ∈ used := by
  rw [search_eq_none_iff hk.le (by omega) (by omega)]
  constructor
  · intro h n hn
    have hplace : (k + (n + size - k) % size) % size = n := by
      rw [Nat.add_mod_mod, show k + (n + size - k) = n + size by omega, Nat.add_mod_right,
        Nat.mod_eq_of_lt hn]
    rw [← hplace]
    exact h _ (by have := Nat.mod_lt (n + size - k) (show 0 < size by omega); omega)
  · intro h i _
    exact h _ (Nat.mod_lt _ (by omega))

end GraphicSurface.CyclicSearch
