import Mathlib.Tactic

/-! Finite runs of a labelled step relation over arbitrary states and labels: composition,
invariants, and restriction to the steps that meet a condition.
A run grows at its end, so that a property of the whole history is an induction on the run. -/

namespace GraphicSurface.Runs

variable {σ ℓ : Type*}

inductive Run (step : σ → ℓ → σ → Prop) (s : σ) : List ℓ → σ → Prop
  | nil : Run step s [] s
  | snoc {ls : List ℓ} {t u : σ} {l : ℓ} (run : Run step s ls t) (last : step t l u) :
      Run step s (ls ++ [l]) u

/-- The steps of `step` that meet the condition `ok` on the state before them and the label. -/
def restrict (step : σ → ℓ → σ → Prop) (ok : σ → ℓ → Prop) (s : σ) (l : ℓ) (t : σ) : Prop :=
  step s l t ∧ ok s l

/-- Running a deterministic step over a list of labels. -/
def execute (f : σ → ℓ → σ) (s : σ) : List ℓ → σ
  | [] => s
  | l :: ls => execute f (f s l) ls

theorem execute_append (f : σ → ℓ → σ) (s : σ) (ls ms : List ℓ) :
    execute f s (ls ++ ms) = execute f (execute f s ls) ms := by
  induction ls generalizing s with
  | nil => rfl
  | cons l ls ih => exact ih (f s l)

/-- A step that is refused in the closed states. -/
def gated (f : σ → ℓ → σ) (closed : σ → Prop) [DecidablePred closed] (s : σ) (l : ℓ) : σ :=
  if closed s then s else f s l

/-- The first closed state is the last: a run of a gated step makes the steps before it, and none
after it. -/
theorem execute_gated (f : σ → ℓ → σ) (closed : σ → Prop) [DecidablePred closed] (s : σ)
    (ls : List ℓ) :
    ∃ kept lost, ls = kept ++ lost ∧ execute (gated f closed) s ls = execute f s kept ∧
      (lost ≠ [] → closed (execute f s kept)) ∧
      ∀ early late, kept = early ++ late → late ≠ [] → ¬ closed (execute f s early) := by
  induction ls generalizing s with
  | nil =>
    refine ⟨[], [], rfl, rfl, fun h => absurd rfl h, fun early late h hlate => ?_⟩
    exact absurd (List.append_eq_nil_iff.mp h.symm).2 hlate
  | cons l ls ih =>
    by_cases h : closed s
    · have still : gated f closed s l = s := if_pos h
      obtain ⟨kept, lost, rfl, hrun, hlost, hopen⟩ := ih s
      -- nothing is kept in a closed state
      obtain rfl : kept = [] := by
        by_contra hkept
        exact hopen [] kept rfl hkept h
      refine ⟨[], l :: lost, rfl, ?_, fun _ => h, hopen⟩
      exact (congrArg (execute (gated f closed) · lost) still).trans hrun
    · have moved : gated f closed s l = f s l := if_neg h
      obtain ⟨kept, lost, rfl, hrun, hlost, hopen⟩ := ih (f s l)
      refine ⟨l :: kept, lost, rfl, ?_, hlost, fun early late hsplit hlate => ?_⟩
      · exact (congrArg (execute (gated f closed) · (kept ++ lost)) moved).trans hrun
      · cases early with
        | nil => exact h
        | cons e early =>
          obtain ⟨rfl, hrest⟩ := List.cons.inj hsplit
          exact hopen early late hrest hlate

/-- Every label is allowed in the state that it is met in. -/
def Legal (f : σ → ℓ → σ) (ok : σ → ℓ → Prop) (s : σ) : List ℓ → Prop
  | [] => True
  | l :: ls => ok s l ∧ Legal f ok (f s l) ls

instance Legal.decidable (f : σ → ℓ → σ) (ok : σ → ℓ → Prop) [∀ s l, Decidable (ok s l)] (s : σ) :
    (ls : List ℓ) → Decidable (Legal f ok s ls)
  | [] => inferInstanceAs (Decidable True)
  | l :: ls =>
    have : Decidable (Legal f ok (f s l) ls) := Legal.decidable f ok (f s l) ls
    inferInstanceAs (Decidable (_ ∧ _))

theorem Legal.append {f : σ → ℓ → σ} {ok : σ → ℓ → Prop} {s : σ} {ls ms : List ℓ}
    (first : Legal f ok s ls) (second : Legal f ok (execute f s ls) ms) :
    Legal f ok s (ls ++ ms) := by
  induction ls generalizing s with
  | nil => exact second
  | cons l ls ih => exact ⟨first.1, ih first.2 second⟩

theorem legal_invariant {f : σ → ℓ → σ} {ok : σ → ℓ → Prop} {inv : σ → Prop}
    (kept : ∀ s l, inv s → ok s l → inv (f s l)) {s : σ} (start : inv s) {ls : List ℓ}
    (legal : Legal f ok s ls) : inv (execute f s ls) := by
  induction ls generalizing s with
  | nil => exact start
  | cons l ls ih => exact ih (kept s l start legal.1) legal.2

/-- Two conditions on the labels that agree under an invariant and a third condition allow the same
of the runs that meet the third. -/
theorem legal_congr_of {f : σ → ℓ → σ} {base ok ok' : σ → ℓ → Prop} (inv : σ → Prop)
    (agree : ∀ s l, inv s → base s l → (ok s l ↔ ok' s l))
    (kept : ∀ s l, inv s → base s l → ok' s l → inv (f s l)) {s : σ} (start : inv s)
    {ls : List ℓ} (legal : Legal f base s ls) : Legal f ok s ls ↔ Legal f ok' s ls := by
  induction ls generalizing s with
  | nil => exact Iff.rfl
  | cons l ls ih =>
    exact (and_congr_left fun _ => agree s l start legal.1).trans
      (and_congr_right fun hok => ih (kept s l start legal.1 hok) legal.2)

theorem legal_true (f : σ → ℓ → σ) (s : σ) (ls : List ℓ) : Legal f (fun _ _ => True) s ls := by
  induction ls generalizing s with
  | nil => trivial
  | cons l ls ih => exact ⟨trivial, ih (f s l)⟩

theorem legal_congr {f : σ → ℓ → σ} {ok ok' : σ → ℓ → Prop} (inv : σ → Prop)
    (agree : ∀ s l, inv s → (ok s l ↔ ok' s l)) (kept : ∀ s l, inv s → ok' s l → inv (f s l))
    {s : σ} (start : inv s) (ls : List ℓ) : Legal f ok s ls ↔ Legal f ok' s ls :=
  legal_congr_of inv (fun s l h _ => agree s l h) (fun s l h _ => kept s l h) start
    (legal_true f s ls)

namespace Run

variable {step : σ → ℓ → σ → Prop} {s t u : σ} {ls ms : List ℓ} {l : ℓ}

theorem single (h : step s l t) : Run step s [l] t :=
  snoc nil h

theorem append (first : Run step s ls t) (second : Run step t ms u) :
    Run step s (ls ++ ms) u := by
  induction second with
  | nil => simpa using first
  | snoc _ last ih =>
    rw [← List.append_assoc]
    exact snoc ih last

theorem cons (first : step s l t) (rest : Run step t ls u) : Run step s (l :: ls) u :=
  (single first).append rest

theorem of_legal {f : σ → ℓ → σ} {ok : σ → ℓ → Prop} (h : ∀ s l, ok s l → step s l (f s l))
    (legal : Legal f ok s ls) : Run step s ls (execute f s ls) := by
  induction ls generalizing s with
  | nil => exact nil
  | cons l ls ih => exact cons (h s l legal.1) (ih legal.2)

/-- What holds at the start and is kept by every step holds at the end. -/
theorem invariant {inv : σ → Prop} (preserved : ∀ s l t, inv s → step s l t → inv t)
    (start : inv s) (run : Run step s ls t) : inv t := by
  induction run with
  | nil => exact start
  | snoc _ last ih => exact preserved _ _ _ ih last

/-- An invariant may be used in showing that a second property is kept. -/
theorem invariant₂ {base inv : σ → Prop} (kept : ∀ s l t, base s → step s l t → base t)
    (preserved : ∀ s l t, base s → inv s → step s l t → inv t)
    (startBase : base s) (start : inv s) (run : Run step s ls t) : base t ∧ inv t := by
  induction run with
  | nil => exact ⟨startBase, start⟩
  | snoc _ last ih => exact ⟨kept _ _ _ ih.1 last, preserved _ _ _ ih.1 ih.2 last⟩

theorem mono {step' : σ → ℓ → σ → Prop} (h : ∀ s l t, step s l t → step' s l t)
    (run : Run step s ls t) : Run step' s ls t := by
  induction run with
  | nil => exact nil
  | snoc _ last ih => exact snoc ih (h _ _ _ last)

/-- Every step is, seen through `view`, a step of another relation; an invariant may be used. -/
theorem simulate {τ μ : Type*} {step' : τ → μ → τ → Prop} {inv : σ → Prop} (view : σ → τ)
    (label : ℓ → μ) (kept : ∀ s l t, inv s → step s l t → inv t)
    (simulates : ∀ s l t, inv s → step s l t → step' (view s) (label l) (view t)) (start : inv s)
    (run : Run step s ls t) : Run step' (view s) (ls.map label) (view t) := by
  induction run with
  | nil => exact nil
  | snoc run last ih =>
    rw [List.map_append]
    exact snoc ih (simulates _ _ _ (run.invariant kept start) last)

end Run

end GraphicSurface.Runs
