import Mathlib.GroupTheory.SpecificGroups.Dihedral
import Mathlib.Tactic

/-! The symmetries of the unit square, as permutations of the plane over a commutative ring: the
quarter turn about the centre, the two flips, and the action of the dihedral group of order eight
that they generate. -/

namespace GraphicSurface.SquareSymmetries

open DihedralGroup

section Ring

variable {K : Type*} [CommRing K]

/-- The quarter turn about the centre of the square. -/
def turn : Equiv.Perm (K × K) where
  toFun p := (1 - p.2, p.1)
  invFun p := (p.2, 1 - p.1)
  left_inv p := by simp
  right_inv p := by simp

def flipH : Equiv.Perm (K × K) where
  toFun p := (1 - p.1, p.2)
  invFun p := (1 - p.1, p.2)
  left_inv p := by simp
  right_inv p := by simp

def flipV : Equiv.Perm (K × K) where
  toFun p := (p.1, 1 - p.2)
  invFun p := (p.1, 1 - p.2)
  left_inv p := by simp
  right_inv p := by simp

@[simp] theorem turn_apply (p : K × K) : turn p = (1 - p.2, p.1) := rfl

@[simp] theorem turn_inv_apply (p : K × K) : turn⁻¹ p = (p.2, 1 - p.1) := rfl

@[simp] theorem flipH_apply (p : K × K) : flipH p = (1 - p.1, p.2) := rfl

@[simp] theorem flipV_apply (p : K × K) : flipV p = (p.1, 1 - p.2) := rfl

@[simp] theorem flipH_inv : (flipH : Equiv.Perm (K × K))⁻¹ = flipH := rfl

@[simp] theorem flipV_inv : (flipV : Equiv.Perm (K × K))⁻¹ = flipV := rfl

theorem turn_sq_apply (p : K × K) : (turn ^ 2) p = (1 - p.1, 1 - p.2) := rfl

theorem turn_pow_three : (turn : Equiv.Perm (K × K)) ^ 3 = turn⁻¹ := by
  ext p <;> simp [pow_succ]

theorem turn_pow_four : (turn : Equiv.Perm (K × K)) ^ 4 = 1 := by
  rw [pow_succ, turn_pow_three, inv_mul_cancel]

theorem flipH_eq : (flipH : Equiv.Perm (K × K)) = flipV * turn ^ 2 := by
  ext p <;> simp [turn_sq_apply]

theorem flipV_conj_turn : flipV * turn * flipV⁻¹ = (turn : Equiv.Perm (K × K))⁻¹ := by
  ext p <;> simp

/-- The turns by the multiples of a right angle. -/
def turnBy (i : ZMod 4) : Equiv.Perm (K × K) := turn ^ i.val

theorem turnBy_add (i j : ZMod 4) : (turnBy (i + j) : Equiv.Perm (K × K)) = turnBy i * turnBy j := by
  rw [turnBy, ZMod.val_add, ← pow_eq_pow_mod _ turn_pow_four, pow_add, turnBy, turnBy]

theorem turnBy_neg (i : ZMod 4) : (turnBy (-i) : Equiv.Perm (K × K)) = (turnBy i)⁻¹ := by
  have hzero : (turnBy (-i + i) : Equiv.Perm (K × K)) = 1 := by
    rw [neg_add_cancel]
    rfl
  rw [turnBy_add] at hzero
  exact eq_inv_of_mul_eq_one_left hzero

/-- A flip turns a turn around. -/
theorem turnBy_flipV (i : ZMod 4) :
    turnBy i * flipV = flipV * (turnBy (-i) : Equiv.Perm (K × K)) := by
  have hconj : flipV * turnBy i * flipV⁻¹ = (turnBy (-i) : Equiv.Perm (K × K)) := by
    rw [turnBy_neg, turnBy, ← conj_pow, flipV_conj_turn, inv_pow]
  have hself : (flipV : Equiv.Perm (K × K)) * flipV = 1 := by
    ext p <;> simp
  rw [← hconj, flipV_inv, ← mul_assoc, ← mul_assoc, hself, one_mul]

/-- The symmetry group of the square acts on the plane: `r i` by the turn by `i` right angles,
`sr 0` by the vertical flip. -/
def action : DihedralGroup 4 →* Equiv.Perm (K × K) where
  toFun
    | r i => turnBy i
    | sr i => flipV * turnBy i
  map_one' := rfl
  map_mul' a b := by
    cases a with
    | r i =>
      cases b with
      | r j => exact turnBy_add i j
      | sr j =>
        rw [r_mul_sr]
        change flipV * turnBy (j - i) = turnBy i * (flipV * turnBy j)
        rw [← mul_assoc, turnBy_flipV, mul_assoc, ← turnBy_add, neg_add_eq_sub]
    | sr i =>
      cases b with
      | r j =>
        rw [sr_mul_r]
        change flipV * turnBy (i + j) = flipV * turnBy i * turnBy j
        rw [turnBy_add, mul_assoc]
      | sr j =>
        have hself : (flipV : Equiv.Perm (K × K)) * flipV = 1 := by
          ext p <;> simp
        rw [sr_mul_sr]
        change turnBy (j - i) = flipV * turnBy i * (flipV * turnBy j)
        rw [mul_assoc, ← mul_assoc (turnBy i), turnBy_flipV, mul_assoc, ← turnBy_add,
          neg_add_eq_sub, ← mul_assoc, hself, one_mul]

theorem action_r (i : ZMod 4) : action (r i) = (turnBy i : Equiv.Perm (K × K)) := rfl

theorem action_sr (i : ZMod 4) : action (sr i) = (flipV * turnBy i : Equiv.Perm (K × K)) := rfl

theorem action_quarter : action (r 1) = (turn : Equiv.Perm (K × K)) := rfl

theorem action_half : action (r 2) = (turn ^ 2 : Equiv.Perm (K × K)) := rfl

theorem action_threeQuarters : action (r 3) = (turn ^ 3 : Equiv.Perm (K × K)) := rfl

theorem action_flipV : action (sr 0) = (flipV : Equiv.Perm (K × K)) := rfl

theorem action_flipH : action (sr 2) = (flipH : Equiv.Perm (K × K)) := flipH_eq.symm

theorem turnBy_cases (i : ZMod 4) : (turnBy i : Equiv.Perm (K × K)) = 1 ∧ i = 0 ∨
    (turnBy i : Equiv.Perm (K × K)) = turn ∨ (turnBy i : Equiv.Perm (K × K)) = turn ^ 2 ∨
      (turnBy i : Equiv.Perm (K × K)) = turn⁻¹ := by
  fin_cases i
  · exact .inl ⟨rfl, rfl⟩
  · exact .inr (.inl rfl)
  · exact .inr (.inr (.inl rfl))
  · exact .inr (.inr (.inr turn_pow_three))

/-- Two corners of the square already tell the eight symmetries apart. -/
theorem action_injective [Nontrivial K] :
    Function.Injective (action : DihedralGroup 4 →* Equiv.Perm (K × K)) := by
  rw [injective_iff_map_eq_one]
  intro g hg
  have horigin : action g ((0, 0) : K × K) = (0, 0) := by rw [hg]; rfl
  have hright : action g ((1, 0) : K × K) = (1, 0) := by rw [hg]; rfl
  cases g with
  | r i =>
    rw [action_r] at horigin
    rcases turnBy_cases (K := K) i with ⟨-, rfl⟩ | h | h | h
    · rfl
    all_goals
      rw [h] at horigin
      simp [turn_sq_apply] at horigin
  | sr i =>
    rw [action_sr, Equiv.Perm.mul_apply] at horigin hright
    rcases turnBy_cases (K := K) i with ⟨h, -⟩ | h | h | h
    all_goals
      rw [h] at horigin hright
      simp [turn_sq_apply] at horigin hright

end Ring

section Order

variable {K : Type*} [CommRing K] [LinearOrder K] [IsStrictOrderedRing K]

def unitSquare : Set (K × K) := Set.Icc 0 1 ×ˢ Set.Icc 0 1

omit [IsStrictOrderedRing K] in
theorem mem_unitSquare {p : K × K} :
    p ∈ unitSquare ↔ (0 ≤ p.1 ∧ p.1 ≤ 1) ∧ 0 ≤ p.2 ∧ p.2 ≤ 1 := Iff.rfl

theorem turn_mem_unitSquare (p : K × K) : turn p ∈ unitSquare ↔ p ∈ unitSquare := by
  simp only [mem_unitSquare, turn_apply, sub_nonneg, sub_le_self_iff]
  tauto

theorem flipV_mem_unitSquare (p : K × K) : flipV p ∈ unitSquare ↔ p ∈ unitSquare := by
  simp only [mem_unitSquare, flipV_apply, sub_nonneg, sub_le_self_iff]
  tauto

theorem turnBy_mem_unitSquare (i : ZMod 4) (p : K × K) :
    turnBy i p ∈ unitSquare ↔ p ∈ unitSquare := by
  have hpow (n : ℕ) : ∀ p : K × K, (turn ^ n) p ∈ unitSquare ↔ p ∈ unitSquare := by
    induction n with
    | zero => exact fun p => Iff.rfl
    | succ n ih =>
      intro p
      rw [pow_succ, Equiv.Perm.mul_apply, ih, turn_mem_unitSquare]
  exact hpow i.val p

/-- Every symmetry maps the square onto itself. -/
theorem action_bijOn (g : DihedralGroup 4) :
    Set.BijOn (action g : K × K → K × K) unitSquare unitSquare := by
  refine Equiv.bijOn (action g) fun p => ?_
  cases g with
  | r i => exact turnBy_mem_unitSquare i p
  | sr i =>
    rw [action_sr, Equiv.Perm.mul_apply, flipV_mem_unitSquare, turnBy_mem_unitSquare]

end Order

section Field

variable {K : Type*} [Field K] [LinearOrder K] [IsStrictOrderedRing K]

/-- Scaling, shifting and one flip map the unit square onto a rectangle. -/
theorem scaled_bijOn {a b s r : K} (hs : 0 < s) (hr : 0 < r) :
    Set.BijOn (fun p : K × K => (s * p.1 + a, b + r - r * p.2)) unitSquare
      (Set.Icc a (a + s) ×ˢ Set.Icc b (b + r)) := by
  refine ⟨?_, ?_, ?_⟩
  · rintro ⟨x, y⟩ hp
    obtain ⟨⟨hx0, hx1⟩, hy0, hy1⟩ := mem_unitSquare.mp hp
    refine ⟨⟨?_, ?_⟩, ?_, ?_⟩ <;> dsimp only at * <;> nlinarith
  · rintro ⟨x, y⟩ - ⟨x', y'⟩ - heq
    simp only [Prod.mk.injEq, add_left_inj, sub_right_inj] at heq ⊢
    exact ⟨mul_left_cancel₀ hs.ne' heq.1, mul_left_cancel₀ hr.ne' heq.2⟩
  · rintro ⟨x, y⟩ ⟨⟨hx0, hx1⟩, hy0, hy1⟩
    refine ⟨((x - a) / s, (b + r - y) / r), mem_unitSquare.mpr ⟨⟨?_, ?_⟩, ?_, ?_⟩, ?_⟩
    · exact div_nonneg (sub_nonneg.mpr hx0) hs.le
    · rw [div_le_one hs]
      exact sub_le_iff_le_add'.mpr hx1
    · exact div_nonneg (sub_nonneg.mpr hy1) hr.le
    · rw [div_le_one hr]
      dsimp only at hy0
      linarith
    · dsimp only
      rw [mul_div_cancel₀ _ hs.ne', mul_div_cancel₀ _ hr.ne']
      simp

end Field

end GraphicSurface.SquareSymmetries
