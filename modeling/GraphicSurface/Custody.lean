import Mathlib.Logic.Function.Basic
import Mathlib.Tactic

/-! Resources in the hands of holders, each holder with at most one. A live resource that two
holders have would be freed twice, and one that nobody has would never be freed. -/

namespace Custody

variable {ι ρ : Type*} {held : ι → Option ρ} {live live' : ρ → Prop} {i j : ι} {r s : ρ}

/-- What a holder has is live and not another holder's. -/
structure Sole (held : ι → Option ρ) (live : ρ → Prop) : Prop where
  isLive : ∀ {i r}, held i = some r → live r
  alone : ∀ {i j r}, held i = some r → held j = some r → i = j

/-- Something is live that nobody has. -/
def Stray (held : ι → Option ρ) (live : ρ → Prop) : Prop := ∃ r, live r ∧ ∀ i, held i ≠ some r

/-- Every live resource has one holder. -/
def Exclusive (held : ι → Option ρ) (live : ρ → Prop) : Prop := Sole held live ∧ ¬ Stray held live

theorem sole_nothing (live : ρ → Prop) : Sole (fun _ : ι => none) live where
  isLive h := by cases h
  alone h := by cases h

/-- When nobody has anything and nothing is stray, nothing is live. -/
theorem dead_of_none (h : ¬ Stray held live) (hnone : ∀ i, held i = none) (r : ρ) : ¬ live r :=
  fun hr => h ⟨r, hr, fun i hi => by rw [hnone i] at hi; cases hi⟩

section Update

variable [DecidableEq ι]

/-- A holder gives up what it has, and that may die with it. -/
theorem Sole.release (h : Sole held live) (hlive : ∀ s, live s → held i ≠ some s → live' s) :
    Sole (Function.update held i none) live' where
  isLive {j s} hj := by
    by_cases hji : j = i
    · subst hji
      simp at hj
    · rw [Function.update_of_ne hji] at hj
      exact hlive s (h.isLive hj) fun hi => hji (h.alone hj hi)
  alone {j k s} hj hk := by
    by_cases hji : j = i
    · subst hji
      simp at hj
    · by_cases hki : k = i
      · subst hki
        simp at hk
      · rw [Function.update_of_ne hji] at hj
        rw [Function.update_of_ne hki] at hk
        exact h.alone hj hk

/-- Something that nobody has comes to a holder with nothing. -/
theorem Sole.grant (h : Sole held live) (hi : held i = none) (hr : ∀ j, held j ≠ some r)
    (hnew : live' r) (hlive : ∀ s, live s → live' s) :
    Sole (Function.update held i (some r)) live' where
  isLive {j s} hj := by
    by_cases hji : j = i
    · subst hji
      rw [Function.update_self] at hj
      exact Option.some.inj hj ▸ hnew
    · rw [Function.update_of_ne hji] at hj
      exact hlive s (h.isLive hj)
  alone {j k s} hj hk := by
    by_cases hji : j = i
    · by_cases hki : k = i
      · rw [hji, hki]
      · subst hji
        rw [Function.update_self] at hj
        rw [Function.update_of_ne hki, ← Option.some.inj hj] at hk
        exact absurd hk (hr k)
    · rw [Function.update_of_ne hji] at hj
      by_cases hki : k = i
      · subst hki
        rw [Function.update_self] at hk
        exact absurd (Option.some.inj hk ▸ hj) (hr j)
      · rw [Function.update_of_ne hki] at hk
        exact h.alone hj hk

/-- What is given up dies: nothing becomes stray, and nothing stray is found again. -/
theorem stray_release (hlive : ∀ s, live' s ↔ live s ∧ held i ≠ some s) :
    Stray (Function.update held i none) live' ↔ Stray held live := by
  constructor
  · rintro ⟨s, hs, hnobody⟩
    obtain ⟨hs, hi⟩ := (hlive s).mp hs
    refine ⟨s, hs, fun j => ?_⟩
    by_cases hji : j = i
    · exact hji ▸ hi
    · have hj := hnobody j
      rwa [Function.update_of_ne hji] at hj
  · rintro ⟨s, hs, hnobody⟩
    refine ⟨s, (hlive s).mpr ⟨hs, hnobody i⟩, fun j => ?_⟩
    by_cases hji : j = i
    · subst hji
      simp
    · rw [Function.update_of_ne hji]
      exact hnobody j

/-- What is given up lives on. -/
theorem Sole.stray_abandon (h : Sole held live) (hi : held i = some r) :
    Stray (Function.update held i none) live := by
  refine ⟨r, h.isLive hi, fun j => ?_⟩
  by_cases hji : j = i
  · subst hji
    simp
  · rw [Function.update_of_ne hji]
    exact fun hj => hji (h.alone hj hi)

theorem stray_grant (hi : held i = none) (hr : ¬ live r) (hlive : ∀ s, live' s ↔ live s ∨ s = r) :
    Stray (Function.update held i (some r)) live' ↔ Stray held live := by
  constructor
  · rintro ⟨s, hs, hnobody⟩
    rcases (hlive s).mp hs with hs | rfl
    · refine ⟨s, hs, fun j => ?_⟩
      by_cases hji : j = i
      · rw [hji, hi]
        simp
      · have hj := hnobody j
        rwa [Function.update_of_ne hji] at hj
    · exact absurd (Function.update_self ..) (hnobody i)
  · rintro ⟨s, hs, hnobody⟩
    refine ⟨s, (hlive s).mpr (.inl hs), fun j => ?_⟩
    by_cases hji : j = i
    · subst hji
      rw [Function.update_self]
      exact fun hrs => hr (Option.some.inj hrs ▸ hs)
    · rw [Function.update_of_ne hji]
      exact hnobody j

theorem Exclusive.release (h : Exclusive held live)
    (hlive : ∀ s, live' s ↔ live s ∧ held i ≠ some s) :
    Exclusive (Function.update held i none) live' :=
  ⟨h.1.release fun s hs hi => (hlive s).mpr ⟨hs, hi⟩, (stray_release hlive).not.mpr h.2⟩

theorem Exclusive.grant (h : Exclusive held live) (hi : held i = none) (hr : ¬ live r)
    (hlive : ∀ s, live' s ↔ live s ∨ s = r) :
    Exclusive (Function.update held i (some r)) live' :=
  ⟨h.1.grant hi (fun _ hj => hr (h.1.isLive hj)) ((hlive r).mpr (.inr rfl)) fun s hs =>
    (hlive s).mpr (.inl hs), (stray_grant hi hr hlive).not.mpr h.2⟩

end Update

end Custody
