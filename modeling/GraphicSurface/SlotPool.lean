import GraphicSurface.Runs

/-! A pool of slots lent to two parties, over an arbitrary type of keys.
A slot in the pool is free, pending (handed in and not yet taken), or held by one of the parties.
The pool keeps the free and the pending slots in two queues besides the place of each slot, and
`Agrees` says that the queues and the places tell the same story. Every move keeps it. -/

namespace GraphicSurface.SlotPool

open Runs

inductive Place
  | free
  | pending
  | held
deriving DecidableEq, Repr

structure Pool (K : Type*) where
  place : K → Option Place
  free : List K
  pending : List K
  used : ℕ

inductive Move (K : Type*)
  | shuffle (order : List K)
  | lend (k : K)
  | take (k : K)
  | adopt (k : K)
  | stock (k : K)
  | giveBack (k : K)
  | submit (k : K)
  | retire (k : K)
  | dropFree (k : K)
  | dropPending (k : K)
  | clear

variable {K : Type*} [DecidableEq K]

namespace Move

def enabled (m : Move K) (p : Pool K) : Prop :=
  match m with
  | shuffle order => order.Perm p.free
  | lend k => p.place k = some .free
  | take k => p.pending.head? = some k ∧ p.place k = some .pending
  | adopt k => p.place k = none
  | stock k => p.place k = none
  | giveBack k => p.place k = some .held
  | submit k => p.place k = some .held
  | retire k => p.place k = some .held
  | dropFree k => p.place k = some .free
  | dropPending k => p.place k = some .pending
  | clear => True

def apply (m : Move K) (p : Pool K) : Pool K :=
  match m with
  | shuffle order => { p with free := order }
  | lend k =>
    { p with place := Function.update p.place k (some .held), free := p.free.erase k }
  | take k =>
    { p with place := Function.update p.place k (some .held), pending := p.pending.tail }
  | adopt k => { p with place := Function.update p.place k (some .held), used := p.used + 1 }
  | stock k =>
    { p with
      place := Function.update p.place k (some .free)
      free := p.free ++ [k]
      used := p.used + 1 }
  | giveBack k =>
    { p with place := Function.update p.place k (some .free), free := p.free ++ [k] }
  | submit k =>
    { p with place := Function.update p.place k (some .pending), pending := p.pending ++ [k] }
  | retire k => { p with place := Function.update p.place k none, used := p.used - 1 }
  | dropFree k =>
    { p with
      place := Function.update p.place k none
      free := p.free.erase k
      used := p.used - 1 }
  | dropPending k =>
    { p with
      place := Function.update p.place k none
      pending := p.pending.erase k
      used := p.used - 1 }
  | clear => ⟨fun _ => none, [], [], 0⟩

/-- The move brings a new slot into the pool. -/
def grows : Move K → Prop
  | adopt _ | stock _ => True
  | _ => False

def quiet : Move K → Prop
  | take _ | submit _ | dropPending _ | clear => False
  | _ => True

/-- The move hands nothing in. -/
def silent : Move K → Prop
  | submit _ => False
  | _ => True

omit [DecidableEq K] in
theorem silent_of_quiet {m : Move K} (h : m.quiet) : m.silent := by
  cases m <;> simp_all [quiet, silent]

end Move

def Step (p : Pool K) (m : Move K) (p' : Pool K) : Prop :=
  m.enabled p ∧ p' = m.apply p

/-- The queues hold exactly the free and the pending slots, each one once. -/
structure Agrees (p : Pool K) : Prop where
  free_nodup : p.free.Nodup
  pending_nodup : p.pending.Nodup
  mem_free : ∀ k, k ∈ p.free ↔ p.place k = some .free
  mem_pending : ∀ k, k ∈ p.pending ↔ p.place k = some .pending

namespace Agrees

variable {p : Pool K}

omit [DecidableEq K] in
theorem empty : Agrees (⟨fun _ => none, [], [], 0⟩ : Pool K) := by
  constructor <;> simp

omit [DecidableEq K] in
theorem disjoint (h : Agrees p) {k : K} (hf : k ∈ p.free) : k ∉ p.pending := by
  intro hp
  have h1 := (h.mem_free k).mp hf
  have h2 := (h.mem_pending k).mp hp
  simp [h1] at h2

theorem shuffle (h : Agrees p) {order : List K} (hm : order.Perm p.free) :
    Agrees ((Move.shuffle order).apply p) where
  free_nodup := hm.nodup_iff.mpr h.free_nodup
  pending_nodup := h.pending_nodup
  mem_free k := hm.mem_iff.trans (h.mem_free k)
  mem_pending := h.mem_pending

/-- A slot that leaves the free queue for a place other than the two queues. -/
theorem leaveFree (h : Agrees p) {k : K} (hk : p.place k = some .free) {place : Option Place}
    (hfree : place ≠ some .free) (hpending : place ≠ some .pending) (used : ℕ) :
    Agrees ⟨Function.update p.place k place, p.free.erase k, p.pending, used⟩ where
  free_nodup := h.free_nodup.erase k
  pending_nodup := h.pending_nodup
  mem_free j := by
    by_cases hj : j = k
    · subst hj
      simp [h.free_nodup.not_mem_erase, hfree]
    · simp [List.mem_erase_of_ne hj, hj, h.mem_free]
  mem_pending j := by
    by_cases hj : j = k
    · subst hj
      simp [h.mem_pending, hk, hpending]
    · simp [hj, h.mem_pending]

/-- A slot that leaves the pending queue for a place other than the two queues. -/
theorem leavePending (h : Agrees p) {k : K} (hk : p.place k = some .pending)
    {place : Option Place} (hfree : place ≠ some .free) (hpending : place ≠ some .pending)
    (used : ℕ) :
    Agrees ⟨Function.update p.place k place, p.free, p.pending.erase k, used⟩ where
  free_nodup := h.free_nodup
  pending_nodup := h.pending_nodup.erase k
  mem_free j := by
    by_cases hj : j = k
    · subst hj
      simp [h.mem_free, hk, hfree]
    · simp [hj, h.mem_free]
  mem_pending j := by
    by_cases hj : j = k
    · subst hj
      simp [h.pending_nodup.not_mem_erase, hpending]
    · simp [List.mem_erase_of_ne hj, hj, h.mem_pending]

/-- A slot outside the two queues that is written to a place outside them. -/
theorem stayOut (h : Agrees p) {k : K} (hf : p.place k ≠ some .free)
    (hp : p.place k ≠ some .pending) {place : Option Place} (hfree : place ≠ some .free)
    (hpending : place ≠ some .pending) (used : ℕ) :
    Agrees ⟨Function.update p.place k place, p.free, p.pending, used⟩ where
  free_nodup := h.free_nodup
  pending_nodup := h.pending_nodup
  mem_free j := by
    by_cases hj : j = k
    · subst hj
      simp [h.mem_free, hf, hfree]
    · simp [hj, h.mem_free]
  mem_pending j := by
    by_cases hj : j = k
    · subst hj
      simp [h.mem_pending, hp, hpending]
    · simp [hj, h.mem_pending]

theorem enterFree (h : Agrees p) {k : K} (hf : p.place k ≠ some .free)
    (hp : p.place k ≠ some .pending) (used : ℕ) :
    Agrees ⟨Function.update p.place k (some .free), p.free ++ [k], p.pending, used⟩ where
  free_nodup := by
    have hk : k ∉ p.free := fun hk => hf ((h.mem_free k).mp hk)
    simpa [List.nodup_append] using ⟨h.free_nodup, fun a ha hak => hk (hak ▸ ha)⟩
  pending_nodup := h.pending_nodup
  mem_free j := by
    by_cases hj : j = k
    · subst hj
      simp
    · simp [hj, h.mem_free]
  mem_pending j := by
    by_cases hj : j = k
    · subst hj
      simp [h.mem_pending, hp]
    · simp [hj, h.mem_pending]

theorem enterPending (h : Agrees p) {k : K} (hf : p.place k ≠ some .free)
    (hp : p.place k ≠ some .pending) (used : ℕ) :
    Agrees ⟨Function.update p.place k (some .pending), p.free, p.pending ++ [k], used⟩ where
  free_nodup := h.free_nodup
  pending_nodup := by
    have hk : k ∉ p.pending := fun hk => hp ((h.mem_pending k).mp hk)
    simpa [List.nodup_append] using ⟨h.pending_nodup, fun a ha hak => hk (hak ▸ ha)⟩
  mem_free j := by
    by_cases hj : j = k
    · subst hj
      simp [h.mem_free, hf]
    · simp [hj, h.mem_free]
  mem_pending j := by
    by_cases hj : j = k
    · subst hj
      simp
    · simp [hj, h.mem_pending]

theorem take (h : Agrees p) {k : K} (hk : p.pending.head? = some k)
    (hplace : p.place k = some .pending) : Agrees ((Move.take k).apply p) := by
  obtain ⟨rest, hrest⟩ := List.head?_eq_some_iff.mp hk
  have hmove : Agrees ⟨Function.update p.place k (some .held), p.free, p.pending.erase k, p.used⟩ :=
    h.leavePending hplace (by simp) (by simp) p.used
  have htail : p.pending.erase k = p.pending.tail := by simp [hrest]
  rw [htail] at hmove
  exact hmove

/-- Every enabled move keeps the agreement: one case for each kind of move. -/
theorem apply (h : Agrees p) {m : Move K} (hm : m.enabled p) : Agrees (m.apply p) := by
  cases m with
  | shuffle order => exact h.shuffle hm
  | lend k => exact h.leaveFree hm (by simp) (by simp) p.used
  | take k => exact h.take hm.1 hm.2
  | adopt k =>
    simp only [Move.enabled] at hm
    exact h.stayOut (by simp [hm]) (by simp [hm]) (by simp) (by simp) _
  | stock k =>
    simp only [Move.enabled] at hm
    exact h.enterFree (by simp [hm]) (by simp [hm]) _
  | giveBack k =>
    simp only [Move.enabled] at hm
    exact h.enterFree (by simp [hm]) (by simp [hm]) _
  | submit k =>
    simp only [Move.enabled] at hm
    exact h.enterPending (by simp [hm]) (by simp [hm]) _
  | retire k =>
    simp only [Move.enabled] at hm
    exact h.stayOut (by simp [hm]) (by simp [hm]) (by simp) (by simp) _
  | dropFree k => exact h.leaveFree hm (by simp) (by simp) _
  | dropPending k => exact h.leavePending hm (by simp) (by simp) _
  | clear => exact empty

theorem step {p' : Pool K} {m : Move K} (h : Agrees p) (hs : Step p m p') : Agrees p' := by
  obtain ⟨hm, rfl⟩ := hs
  exact h.apply hm

theorem run {p' : Pool K} {ms : List (Move K)} (h : Agrees p) (hr : Run Step p ms p') :
    Agrees p' :=
  hr.invariant (fun _ _ _ h hs => h.step hs) h

end Agrees

/-- A run without `adopt` and `stock` makes no slot appear. -/
theorem used_le_of_run {p p' : Pool K} {ms : List (Move K)} (hr : Run Step p ms p')
    (h : ∀ m ∈ ms, ¬ m.grows) : p'.used ≤ p.used := by
  induction hr with
  | nil => exact le_rfl
  | @snoc ls t u m _ last ih =>
    obtain ⟨_, rfl⟩ := last
    have hbefore := ih fun m hm => h m (by simp [hm])
    have hlast : ¬ m.grows := h m (by simp)
    cases m <;> simp_all [Move.apply, Move.grows] <;> omega

/-- A slot appears only by its own `adopt` or `stock`. -/
theorem absent_of_run {p p' : Pool K} {ms : List (Move K)} (hr : Run Step p ms p') {k : K}
    (h : ∀ m ∈ ms, m ≠ .adopt k ∧ m ≠ .stock k) (hk : p.place k = none) : p'.place k = none := by
  induction hr with
  | nil => exact hk
  | @snoc ls t u m _ last ih =>
    obtain ⟨hm, rfl⟩ := last
    have hbefore := ih fun m hm => h m (by simp [hm])
    have hlast := h m (by simp)
    have hupdate (j : K) (x : Option Place) (hj : j = k → x = none) :
        Function.update t.place j x k = none := by
      by_cases hjk : k = j
      · simp [hjk, hj hjk.symm]
      · simp [hjk, hbefore]
    cases m with
    | shuffle order => exact hbefore
    | lend j | giveBack j | submit j =>
      refine hupdate j _ fun hj => ?_
      simp [Move.enabled, hj, hbefore] at hm
    | take j =>
      refine hupdate j _ fun hj => ?_
      simp [Move.enabled, hj, hbefore] at hm
    | adopt j | stock j =>
      refine hupdate j _ fun hj => ?_
      simp [hj] at hlast
    | retire j | dropFree j | dropPending j => exact hupdate j _ fun _ => rfl
    | clear => rfl

theorem pending_eq_of_run {p p' : Pool K} {ms : List (Move K)} (hr : Run Step p ms p')
    (h : ∀ m ∈ ms, m.quiet) : p'.pending = p.pending := by
  induction hr with
  | nil => rfl
  | @snoc ls t u m _ last ih =>
    obtain ⟨_, rfl⟩ := last
    have hbefore := ih fun m hm => h m (by simp [hm])
    have hlast : m.quiet := h m (by simp)
    cases m <;> simp_all [Move.apply, Move.quiet]

/-- As long as nothing is handed in, what is pending was pending before, in the same order. -/
theorem pending_sublist_of_run {p p' : Pool K} {ms : List (Move K)} (hr : Run Step p ms p')
    (h : ∀ m ∈ ms, m.silent) : p'.pending.Sublist p.pending := by
  induction hr with
  | nil => exact List.Sublist.refl _
  | @snoc ls t u m _ last ih =>
    obtain ⟨_, rfl⟩ := last
    have hbefore := ih fun m hm => h m (by simp [hm])
    have hlast : m.silent := h m (by simp)
    cases m with
    | submit k => simp [Move.silent] at hlast
    | take k => exact (List.tail_sublist _).trans hbefore
    | dropPending k => exact (List.erase_sublist ..).trans hbefore
    | clear => exact List.nil_sublist _
    | shuffle | lend | adopt | stock | giveBack | retire | dropFree => exact hbefore

/-- A run that changes the pending queue by `take` alone consumes a prefix of it. -/
theorem pending_suffix_of_run {p p' : Pool K} {ms : List (Move K)} (hr : Run Step p ms p')
    (h : ∀ m ∈ ms, m.quiet ∨ ∃ k, m = .take k) : p'.pending <:+ p.pending := by
  induction hr with
  | nil => exact List.suffix_rfl
  | @snoc ls t u m _ last ih =>
    obtain ⟨_, rfl⟩ := last
    have hbefore := ih fun m hm => h m (by simp [hm])
    have hlast : m.quiet ∨ ∃ k, m = .take k := h m (by simp)
    cases m with
    | take k => exact (List.tail_suffix _).trans hbefore
    | submit k | dropPending k | clear => simp [Move.quiet] at hlast
    | shuffle | lend | adopt | stock | giveBack | retire | dropFree => exact hbefore

end GraphicSurface.SlotPool
