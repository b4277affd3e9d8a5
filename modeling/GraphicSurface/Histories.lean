import Mathlib.Tactic

/-! Properties of everything that has happened, oldest first, and of every prefix of it: the latest
event of a kind, and the first one with the largest key. -/

namespace GraphicSurface.Histories

variable {ℓ : Type*} {A B : ℓ → Prop} {ls : List ℓ} {l : ℓ}

/-- There was an `A`, and no `B` has come after it. -/
def Since (A B : ℓ → Prop) (ls : List ℓ) : Prop :=
  ∃ before a after, ls = before ++ a :: after ∧ A a ∧ ∀ b ∈ after, ¬ B b

theorem not_since_nil : ¬ Since A B [] := by
  rintro ⟨before, a, after, hsplit, -⟩
  simp at hsplit

/-- One event later: it is an `A` itself, or it is no `B` and there was an `A` before it. -/
theorem since_append_singleton : Since A B (ls ++ [l]) ↔ A l ∨ Since A B ls ∧ ¬ B l := by
  constructor
  · rintro ⟨before, a, after, hsplit, ha, hafter⟩
    rcases after.eq_nil_or_concat with rfl | ⟨after, b, rfl⟩
    · obtain ⟨-, hlast⟩ := List.append_inj' hsplit rfl
      cases hlast
      exact Or.inl ha
    · rw [List.concat_eq_append, ← List.cons_append, ← List.append_assoc] at hsplit
      obtain ⟨rfl, hlast⟩ := List.append_inj' hsplit rfl
      cases hlast
      refine Or.inr ⟨⟨before, a, after, rfl, ha, fun c hc => hafter c ?_⟩, hafter l ?_⟩ <;> simp [*]
  · rintro (ha | ⟨⟨before, a, after, rfl, ha, hafter⟩, hb⟩)
    · exact ⟨ls, l, [], rfl, ha, by simp⟩
    · refine ⟨before, a, after ++ [l], by simp, ha, fun c hc => ?_⟩
      rcases List.mem_append.mp hc with hc | hc
      · exact hafter c hc
      · rwa [List.mem_singleton.mp hc]

/-- `P` holds of every prefix exactly when every event meets the condition under which it keeps
`P`. -/
theorem forall_prefix_iff {P : List ℓ → Prop} {C : List ℓ → ℓ → Prop} (start : P [])
    (step : ∀ done l, done ++ [l] <+: ls → P done → (P (done ++ [l]) ↔ C done l)) :
    (∀ done, done <+: ls → P done) ↔ ∀ done l, done ++ [l] <+: ls → C done l := by
  constructor
  · intro h done l hpart
    have hbefore : done <+: ls := (List.prefix_append done [l]).trans hpart
    exact (step done l hpart (h done hbefore)).mp (h _ hpart)
  · intro h done
    induction done using List.reverseRecOn with
    | nil => exact fun _ => start
    | append_singleton done l ih =>
      intro hpart
      have hbefore : done <+: ls := (List.prefix_append done [l]).trans hpart
      exact (step done l hpart (ih hbefore)).mpr (h done l hpart)

section Peaks

variable {κ : Type*} [LinearOrder κ] {key : ℓ → κ} {before after : List ℓ} {p : ℓ}

/-- The number of events from the first one with the largest key on. -/
def sincePeak (key : ℓ → κ) (ls : List ℓ) : ℕ :=
  (ls.dropWhile fun l => decide (∃ m ∈ ls, key l < key m)).length

theorem sincePeak_eq (hbefore : ∀ m ∈ before, key m < key p) (hafter : ∀ m ∈ after, key m ≤ key p) :
    sincePeak key (before ++ p :: after) = after.length + 1 := by
  have hdropped : ∀ l ∈ before, decide (∃ m ∈ before ++ p :: after, key l < key m) = true :=
    fun l hl => decide_eq_true ⟨p, by simp, hbefore l hl⟩
  have hkept : ¬ ∃ m ∈ before ++ p :: after, key p < key m := by
    rintro ⟨m, hm, hlt⟩
    rcases List.mem_append.mp hm with hm | hm
    · exact lt_asymm hlt (hbefore m hm)
    · rcases List.mem_cons.mp hm with rfl | hm
      · exact lt_irrefl _ hlt
      · exact not_lt_of_ge (hafter m hm) hlt
  rw [sincePeak, List.dropWhile_append_of_pos hdropped,
    List.dropWhile_cons_of_neg (by simpa using hkept), List.length_cons]

theorem exists_peak (key : ℓ → κ) (hls : ls ≠ []) : ∃ before p after, ls = before ++ p :: after ∧
    (∀ m ∈ before, key m < key p) ∧ ∀ m ∈ after, key m ≤ key p := by
  induction ls using List.reverseRecOn with
  | nil => exact absurd rfl hls
  | append_singleton ls l ih =>
    by_cases hempty : ls = []
    · exact ⟨[], l, [], by simp [hempty], by simp, by simp⟩
    · obtain ⟨before, p, after, rfl, hbefore, hafter⟩ := ih hempty
      by_cases hlt : key p < key l
      · refine ⟨before ++ p :: after, l, [], rfl, fun m hm => ?_, by simp⟩
        rcases List.mem_append.mp hm with hm | hm
        · exact (hbefore m hm).trans hlt
        · rcases List.mem_cons.mp hm with rfl | hm
          · exact hlt
          · exact (hafter m hm).trans_lt hlt
      · refine ⟨before, p, after ++ [l], by simp, hbefore, fun m hm => ?_⟩
        rcases List.mem_append.mp hm with hm | hm
        · exact hafter m hm
        · rw [List.mem_singleton.mp hm]
          exact not_lt.mp hlt

theorem sincePeak_pos (key : ℓ → κ) (hls : ls ≠ []) : 0 < sincePeak key ls := by
  obtain ⟨before, p, after, rfl, hbefore, hafter⟩ := exists_peak key hls
  rw [sincePeak_eq hbefore hafter]
  exact Nat.succ_pos _

theorem sincePeak_append_of_lt (h : ∀ m ∈ ls, key m < key l) : sincePeak key (ls ++ [l]) = 1 :=
  sincePeak_eq h (by simp)

theorem sincePeak_append_of_le (h : ∃ m ∈ ls, key l ≤ key m) :
    sincePeak key (ls ++ [l]) = sincePeak key ls + 1 := by
  obtain ⟨m, hm, hle⟩ := h
  obtain ⟨before, p, after, rfl, hbefore, hafter⟩ := exists_peak key (List.ne_nil_of_mem hm)
  have hpeak : key l ≤ key p := by
    rcases List.mem_append.mp hm with hm | hm
    · exact hle.trans (hbefore m hm).le
    · rcases List.mem_cons.mp hm with rfl | hm
      · exact hle
      · exact hle.trans (hafter m hm)
  have hafter' : ∀ m ∈ after ++ [l], key m ≤ key p := by
    intro m hm
    rcases List.mem_append.mp hm with hm | hm
    · exact hafter m hm
    · rwa [List.mem_singleton.mp hm]
  rw [List.append_assoc, List.cons_append, sincePeak_eq hbefore hafter', sincePeak_eq hbefore hafter,
    List.length_append, List.length_singleton]

end Peaks

end GraphicSurface.Histories
