import GraphicSurface.Runs

/-! Threads that take turns on a shared state, over arbitrary states, program points and actions.
One step of one thread is atomic; a step that is not possible is `none`. An invariant of the
shared state may be proved together with a fact about each thread that the steps of the other
threads leave true. -/

namespace GraphicSurface.Interleaving

open Runs

variable {σ π α γ : Type*}

/-- What a thread with a given number does in one step. -/
abbrev Thread (σ π α : Type*) := ℕ → σ → π → α → Option (π × σ)

structure Machine (σ π : Type*) where
  shared : σ
  procs : ℕ → π

namespace Machine

/-- The machine after thread `t` has gone to `r.1` and left `r.2` behind. -/
def put (m : Machine σ π) (t : ℕ) (r : π × σ) : Machine σ π :=
  ⟨r.2, fun u => if u = t then r.1 else m.procs u⟩

@[simp] theorem shared_put (m : Machine σ π) (t : ℕ) (r : π × σ) : (m.put t r).shared = r.2 := rfl

@[simp] theorem procs_put_self (m : Machine σ π) (t : ℕ) (r : π × σ) :
    (m.put t r).procs t = r.1 := if_pos rfl

theorem procs_put_ne (m : Machine σ π) {t u : ℕ} (r : π × σ) (h : u ≠ t) :
    (m.put t r).procs u = m.procs u := if_neg h

def next? (step : Thread σ π α) (m : Machine σ π) (l : ℕ × α) : Option (Machine σ π) :=
  (step l.1 m.shared (m.procs l.1) l.2).map (m.put l.1)

/-- The same as a total function, for running a schedule. -/
def next (step : Thread σ π α) (m : Machine σ π) (l : ℕ × α) : Machine σ π :=
  (m.next? step l).getD m

end Machine

/-- A thread stands still while others take their turns. -/
theorem Machine.procs_execute {step : Thread σ π α} {ls : List (ℕ × α)} {u : ℕ}
    (h : ∀ l ∈ ls, u ≠ l.1) (m : Machine σ π) :
    (execute (Machine.next step) m ls).procs u = m.procs u := by
  induction ls generalizing m with
  | nil => rfl
  | cons l ls ih =>
    have hnext : (m.next step l).procs u = m.procs u := by
      unfold next next?
      cases step l.1 m.shared (m.procs l.1) l.2 with
      | none => rfl
      | some r => exact procs_put_ne m r (h l List.mem_cons_self)
    rw [execute, ih fun l' hl' => h l' (List.mem_cons_of_mem l hl'), hnext]

/-- One step of the machine; the label names the thread and its action. -/
def Turn (step : Thread σ π α) (m : Machine σ π) (l : ℕ × α) (m' : Machine σ π) : Prop :=
  m.next? step l = some m'

theorem Turn.next {step : Thread σ π α} {m : Machine σ π} {l : ℕ × α}
    (h : (m.next? step l).isSome) : Turn step m l (m.next step l) := by
  obtain ⟨m', hm'⟩ := Option.isSome_iff_exists.mp h
  simp [Turn, Machine.next, hm']

theorem Turn.cases {step : Thread σ π α} {m m' : Machine σ π} {l : ℕ × α}
    (h : Turn step m l m') :
    ∃ r, step l.1 m.shared (m.procs l.1) l.2 = some r ∧ m' = m.put l.1 r := by
  obtain ⟨r, hr, rfl⟩ := Option.map_eq_some_iff.mp h
  exact ⟨r, hr, rfl⟩

/-- The steps that meet a condition on the thread, the shared state, its program point and the
action. -/
abbrev TurnIf (step : Thread σ π α) (ok : ℕ → σ → π → α → Prop) :
    Machine σ π → ℕ × α → Machine σ π → Prop :=
  restrict (Turn step) fun m l => ok l.1 m.shared (m.procs l.1) l.2

/-- The rule for an invariant `inv` of the shared state and a fact `loc` about each thread: a step
keeps `inv`, makes `loc` true of the thread that takes it, and leaves it true of the others. -/
theorem rely_guarantee {step : Thread σ π α} {ok : ℕ → σ → π → α → Prop} (inv : σ → Prop)
    (loc : ℕ → σ → π → Prop)
    (own : ∀ t s p a r, inv s → loc t s p → ok t s p a → step t s p a = some r →
      inv r.2 ∧ loc t r.2 r.1)
    (others : ∀ t s p a r u q, inv s → loc t s p → ok t s p a → step t s p a = some r → u ≠ t →
      loc u s q → loc u r.2 q)
    {m m' : Machine σ π} {ls : List (ℕ × α)} (hinv : inv m.shared)
    (hloc : ∀ t, loc t m.shared (m.procs t)) (run : Run (TurnIf step ok) m ls m') :
    inv m'.shared ∧ ∀ t, loc t m'.shared (m'.procs t) := by
  have hstep : ∀ m l m', (inv m.shared ∧ ∀ t, loc t m.shared (m.procs t)) → TurnIf step ok m l m' →
      inv m'.shared ∧ ∀ t, loc t m'.shared (m'.procs t) := by
    rintro m l m' ⟨hm, hthreads⟩ ⟨hturn, hok⟩
    obtain ⟨r, hr, rfl⟩ := hturn.cases
    obtain ⟨hinv', hself⟩ := own _ _ _ _ _ hm (hthreads l.1) hok hr
    refine ⟨hinv', fun u => ?_⟩
    by_cases hu : u = l.1
    · subst hu
      simpa using hself
    · rw [Machine.procs_put_ne m r hu]
      exact others _ _ _ _ _ u _ hm (hthreads l.1) hok hr hu (hthreads u)
  exact @Run.invariant _ _ _ _ _ _ (fun m => inv m.shared ∧ ∀ t, loc t m.shared (m.procs t))
    hstep ⟨hinv, hloc⟩ run

/-- The threads with a history beside the shared state, which no thread reads. -/
def Thread.observed (step : Thread σ π α) (record : ℕ → γ → σ → π → α → π × σ → γ) :
    Thread (σ × γ) π α :=
  fun t s p a => (step t s.1 p a).map fun r => (r.1, r.2, record t s.2 s.1 p a r)

theorem Thread.observed_eq_some {step : Thread σ π α}
    {record : ℕ → γ → σ → π → α → π × σ → γ} {t : ℕ} {s : σ × γ} {p : π} {a : α}
    {r : π × σ × γ} :
    step.observed record t s p a = some r ↔
      ∃ r', step t s.1 p a = some r' ∧ r = (r'.1, r'.2, record t s.2 s.1 p a r') := by
  simp [Thread.observed, eq_comm]

end GraphicSurface.Interleaving
