import GraphicSurface.ConfigCodec
import GraphicSurface.Interleaving

/-! `BufferClientProducer::SetTransform`, which answers from the value that it tried to set last.
Each thread is a caller of the client or another party that sets the transform of the same queue. -/

namespace GraphicSurface

open Runs Interleaving

/-- The transform of the queue and what the client remembers. `history` lists the values that the
queue has had, the newest last; no step reads it. -/
structure TransformState where
  transform : Int := graphicRotateNone
  lastSetTransformType : Int := graphicRotateButt
  history : List Int := [graphicRotateNone]
deriving DecidableEq

/-- Where a call of `SetTransform` stands: what it does next, and the place in the history where
it began. -/
inductive SetTransformPoint
  | idle
  | building (transform : Int) (since : ℕ)
  | sending (transform : Int) (since : ℕ)
  | replied (transform : Int) (since : ℕ) (ret : GSError)
  | returned (transform : Int) (since : ℕ) (ret : GSError)
deriving DecidableEq

/-- `build` is the message with its word, `serve` and `refuse` are the two ends of the server's
call, `lose` is a `SendRequest` that fails before or after the server has acted, and `setTransform`
is the call of another party. -/
inductive SetTransformAction
  | call (transform : Int)
  | build (written : Bool)
  | serve
  | refuse (ret : GSError)
  | lose (ret : GSError)
  | unreadable
  | finish
  | setTransform (transform : Int)
deriving DecidableEq

namespace TransformState

/-- `BufferQueue::SetTransform`, without the call of the consumer's listener. -/
def setTransform (s : TransformState) (transform : Int) : TransformState :=
  if s.transform = transform then s
  else { s with transform := transform, history := s.history ++ [transform] }

/-- The last value of the history is the present one. -/
def Recorded (s : TransformState) : Prop := s.history.getLast? = some s.transform

/-- The queue has had the value since a place in the history. -/
def HadSince (s : TransformState) (since : ℕ) (transform : Int) : Prop :=
  transform ∈ s.history.drop since

variable {s : TransformState}

theorem transform_setTransform (s : TransformState) (transform : Int) :
    (s.setTransform transform).transform = transform := by
  unfold setTransform
  split_ifs with h
  · exact h
  · rfl

theorem lastSet_setTransform (s : TransformState) (transform : Int) :
    (s.setTransform transform).lastSetTransformType = s.lastSetTransformType := by
  unfold setTransform
  split_ifs <;> rfl

theorem Recorded.setTransform (h : s.Recorded) (transform : Int) :
    (s.setTransform transform).Recorded := by
  unfold TransformState.setTransform
  split_ifs
  · exact h
  · exact List.getLast?_concat

theorem Recorded.length_pos (h : s.Recorded) : 0 < s.history.length := by
  have hne : s.history ≠ [] := by
    intro hnil
    simp [Recorded, hnil] at h
  exact List.length_pos_iff.mpr hne

theorem length_le_setTransform (s : TransformState) (transform : Int) :
    s.history.length ≤ (s.setTransform transform).history.length := by
  unfold setTransform
  split_ifs <;> simp

theorem HadSince.setTransform {since : ℕ} {t : Int} (h : s.HadSince since t) (transform : Int) :
    (s.setTransform transform).HadSince since t := by
  unfold TransformState.setTransform
  split_ifs
  · exact h
  · have hmem : t ∈ (s.history ++ [transform]).drop since := by
      rw [List.drop_append]
      exact List.mem_append_left _ h
    exact hmem

/-- At any moment since the place, the present value is one that the queue has had. -/
theorem Recorded.hadSince (h : s.Recorded) {since : ℕ} (hsince : since < s.history.length) :
    s.HadSince since s.transform := by
  obtain ⟨init, hinit⟩ := List.getLast?_eq_some_iff.mp h
  have hle : since ≤ init.length := by
    rw [hinit, List.length_append, List.length_singleton] at hsince
    omega
  unfold HadSince
  rw [hinit, List.drop_append_of_le_length hle]
  exact List.mem_append_right _ List.mem_cons_self

theorem Recorded.hadSince_last (h : s.Recorded) (t : Int) :
    s.HadSince (s.history.length - 1) t ↔ t = s.transform := by
  obtain ⟨init, hinit⟩ := List.getLast?_eq_some_iff.mp h
  unfold HadSince
  rw [hinit, List.length_append, List.length_singleton, Nat.add_sub_cancel, List.drop_left,
    List.mem_singleton]

end TransformState

namespace SetTransformPoint

def start (s : TransformState) (transform : Int) : SetTransformPoint × TransformState :=
  if s.lastSetTransformType = transform then (returned transform (s.history.length - 1) .ok, s)
  else (building transform (s.history.length - 1), { s with lastSetTransformType := transform })

def active : SetTransformPoint → Bool
  | building _ _ | sending _ _ | replied _ _ _ => true
  | _ => false

def step : Thread TransformState SetTransformPoint SetTransformAction := fun _ s p a =>
  match p, a with
  | idle, .call transform | returned _ _ _, .call transform => some (start s transform)
  | idle, .setTransform transform => some (idle, s.setTransform transform)
  | building t since, .build written =>
    some (if written then sending t since else returned t since .binder, s)
  | sending t since, .serve => some (replied t since .ok, s.setTransform t)
  | sending t since, .refuse ret => if ret = .ok then none else some (replied t since ret, s)
  | sending t since, .lose ret | replied t since _, .lose ret =>
    if ret = .ok then none else some (returned t since ret, s)
  | replied t since _, .unreadable => some (replied t since .binder, s)
  | replied t since ret, .finish =>
    some (returned t since ret,
      if ret = .ok then s else { s with lastSetTransformType := graphicRotateButt })
  | _, _ => none

/-- A call that has reported success was right: the queue had the value at some moment since the
call began. -/
def InForce (s : TransformState) : SetTransformPoint → Prop
  | returned t since .ok => s.HadSince since t
  | _ => True

/-- A call that answers from the remembered value finds the queue at this value. -/
def AnswersTruly (_ : ℕ) (s : TransformState) (_ : SetTransformPoint) :
    SetTransformAction → Prop
  | .call transform => s.lastSetTransformType = transform → s.transform = transform
  | _ => True

instance (t : ℕ) (s : TransformState) (p : SetTransformPoint) (a : SetTransformAction) :
    Decidable (AnswersTruly t s p a) := by
  unfold AnswersTruly
  split <;> infer_instance

/-- What a call in progress knows: where it began, and after a good reply that its value was set. -/
def Knows (_ : ℕ) (s : TransformState) : SetTransformPoint → Prop
  | idle => True
  | building _ since | sending _ since => since < s.history.length
  | replied t since ret => since < s.history.length ∧ (ret = .ok → s.HadSince since t)
  | returned t since ret => ret = .ok → s.HadSince since t

variable {s : TransformState} {p : SetTransformPoint} {t : ℕ}

theorem Knows.inForce (h : Knows t s p) : p.InForce s := by
  unfold InForce
  split
  · exact h rfl
  · trivial

theorem Knows.of_history {s' : TransformState} (h : Knows t s p) (hhistory : s'.history = s.history) :
    Knows t s' p := by
  unfold Knows TransformState.HadSince at h ⊢
  rw [hhistory]
  exact h

theorem Knows.setTransform (h : Knows t s p) (transform : Int) :
    Knows t (s.setTransform transform) p := by
  have hlength := s.length_le_setTransform transform
  cases p with
  | idle => trivial
  | building v since | sending v since => exact lt_of_lt_of_le h hlength
  | replied v since ret =>
    exact ⟨lt_of_lt_of_le h.1 hlength, fun hret => (h.2 hret).setTransform transform⟩
  | returned v since ret => exact fun hret => (h hret).setTransform transform

theorem knows_start (h : s.Recorded) {transform : Int}
    (hok : s.lastSetTransformType = transform → s.transform = transform) :
    Knows t (start s transform).2 (start s transform).1 := by
  have hlength := h.length_pos
  unfold start
  split_ifs with hhit
  · exact fun _ => (h.hadSince_last transform).mpr (hok hhit).symm
  · show s.history.length - 1 < s.history.length
    omega

theorem step_shared {a : SetTransformAction} {r : SetTransformPoint × TransformState}
    (hstep : step t s p a = some r) :
    (∃ v, r.2 = { s with lastSetTransformType := v }) ∨ ∃ v, r.2 = s.setTransform v := by
  have hstart (transform : Int) :
      (∃ v, (start s transform).2 = { s with lastSetTransformType := v }) ∨
        ∃ v, (start s transform).2 = s.setTransform v := by
    unfold start
    split_ifs
    · exact .inl ⟨s.lastSetTransformType, rfl⟩
    · exact .inl ⟨transform, rfl⟩
  have hsame : (∃ v, s = { s with lastSetTransformType := v }) ∨ ∃ v, s = s.setTransform v :=
    .inl ⟨s.lastSetTransformType, rfl⟩
  unfold step at hstep
  split at hstep
  · cases hstep
    exact hstart _
  · cases hstep
    exact hstart _
  · cases hstep
    exact .inr ⟨_, rfl⟩
  · cases hstep
    exact hsame
  · cases hstep
    exact .inr ⟨_, rfl⟩
  · split_ifs at hstep
    cases hstep
    exact hsame
  · split_ifs at hstep
    cases hstep
    exact hsame
  · split_ifs at hstep
    cases hstep
    exact hsame
  · cases hstep
    exact hsame
  · cases hstep
    dsimp only
    split_ifs
    · exact hsame
    · exact .inl ⟨_, rfl⟩
  · cases hstep

theorem recorded_step {a : SetTransformAction} {r : SetTransformPoint × TransformState}
    (h : s.Recorded) (hstep : step t s p a = some r) : r.2.Recorded := by
  obtain ⟨v, hv⟩ | ⟨v, hv⟩ := step_shared hstep
  · rw [hv]
    exact h
  · rw [hv]
    exact h.setTransform v

theorem knows_others {a : SetTransformAction} {r : SetTransformPoint × TransformState}
    {u : ℕ} {p' : SetTransformPoint} (hknows : Knows u s p') (hstep : step t s p a = some r) :
    Knows u r.2 p' := by
  obtain ⟨v, hv⟩ | ⟨v, hv⟩ := step_shared hstep
  · rw [hv]
    exact hknows.of_history rfl
  · rw [hv]
    exact hknows.setTransform v

theorem knows_step {a : SetTransformAction} {r : SetTransformPoint × TransformState}
    (h : s.Recorded) (hknows : Knows t s p) (hok : AnswersTruly t s p a)
    (hstep : step t s p a = some r) : Knows t r.2 r.1 := by
  unfold step at hstep
  split at hstep
  · cases hstep
    exact knows_start h hok
  · cases hstep
    exact knows_start h hok
  · cases hstep
    trivial
  · rename_i v since written
    cases hstep
    cases written with
    | true => exact hknows
    | false => exact fun hret => by simp at hret
  · rename_i v since
    cases hstep
    have hlength := s.length_le_setTransform v
    have hsince : since < (s.setTransform v).history.length := lt_of_lt_of_le hknows hlength
    refine ⟨hsince, fun _ => ?_⟩
    have hhad := (h.setTransform v).hadSince hsince
    rwa [s.transform_setTransform v] at hhad
  · split_ifs at hstep with hret
    cases hstep
    exact ⟨hknows, fun hok' => absurd hok' hret⟩
  · split_ifs at hstep with hret
    cases hstep
    exact fun hok' => absurd hok' hret
  · split_ifs at hstep with hret
    cases hstep
    exact fun hok' => absurd hok' hret
  · cases hstep
    exact ⟨hknows.1, fun hret => by simp at hret⟩
  · rename_i v since ret
    cases hstep
    dsimp only
    have hreturned : Knows t s (returned v since ret) := hknows.2
    split_ifs
    · exact hreturned
    · exact hreturned.of_history rfl
  · cases hstep

theorem not_inForce_of_stale {a : SetTransformAction} {r : SetTransformPoint × TransformState}
    (h : s.Recorded) (hbad : ¬ AnswersTruly t s p a) (hstep : step t s p a = some r) :
    ¬ InForce r.2 r.1 := by
  unfold AnswersTruly at hbad
  split at hbad
  · rename_i transform
    rw [Classical.not_imp] at hbad
    obtain ⟨hhit, hvalue⟩ := hbad
    have hr : r = (returned transform (s.history.length - 1) .ok, s) := by
      have hstart : start s transform = (returned transform (s.history.length - 1) .ok, s) :=
        if_pos hhit
      unfold step at hstep
      split at hstep <;> simp_all
    subst hr
    exact fun hforce => hvalue ((h.hadSince_last transform).mp hforce).symm
  · exact absurd trivial hbad

/-- The client has one call at a time, for a transform that exists, its messages arrive, and nobody
else sets the transform. -/
def Undisturbed (m : Machine TransformState SetTransformPoint) (l : ℕ × SetTransformAction) : Prop :=
  match l.2 with
  | .call transform => transform ≠ graphicRotateButt ∧ ∀ u, (m.procs u).active = false
  | .build written => written = true
  | .lose _ | .setTransform _ => False
  | _ => True

/-- What a call in progress leaves to be done before the remembered value is the queue's. -/
def Pending (s : TransformState) : SetTransformPoint → Prop
  | building t _ | sending t _ => s.lastSetTransformType = t
  | replied t _ .ok => s.lastSetTransformType = t ∧ s.transform = t
  | _ => True

/-- At most one call is in progress, and with none the remembered value is the queue's. -/
structure Settled (m : Machine TransformState SetTransformPoint) : Prop where
  one : ∀ t u, (m.procs t).active = true → (m.procs u).active = true → t = u
  pending : ∀ t, Pending m.shared (m.procs t)
  agreed : (∀ t, (m.procs t).active = false) → m.shared.lastSetTransformType = graphicRotateButt ∨
    m.shared.lastSetTransformType = m.shared.transform

def Agreed (s : TransformState) : Prop :=
  s.lastSetTransformType = graphicRotateButt ∨ s.lastSetTransformType = s.transform

theorem pending_of_inactive (hp : p.active = false) : Pending s p := by
  cases p <;> trivial

theorem action_of_inactive {a : SetTransformAction} {r : SetTransformPoint × TransformState}
    (hp : p.active = false) (hstep : step t s p a = some r) :
    (∃ transform, a = .call transform) ∨ ∃ transform, a = .setTransform transform := by
  unfold step at hstep
  split at hstep
  · exact .inl ⟨_, rfl⟩
  · exact .inl ⟨_, rfl⟩
  · exact .inr ⟨_, rfl⟩
  all_goals contradiction

theorem start_settles {transform : Int} (hagreed : Agreed s) :
    Pending (start s transform).2 (start s transform).1 ∧
      ((start s transform).1.active = false → Agreed (start s transform).2) := by
  unfold start
  split_ifs
  · exact ⟨trivial, fun _ => hagreed⟩
  · exact ⟨rfl, fun h => by simp [active] at h⟩

theorem settles_own {a : SetTransformAction} {r : SetTransformPoint × TransformState}
    (hpending : Pending s p) (hagreed : p.active = false → Agreed s)
    (hquiet : ∀ v, a ≠ .build false ∧ a ≠ .setTransform v) (hlose : ∀ ret, a ≠ .lose ret)
    (hstep : step t s p a = some r) : Pending r.2 r.1 ∧ (r.1.active = false → Agreed r.2) := by
  unfold step at hstep
  split at hstep
  · cases hstep
    exact start_settles (hagreed rfl)
  · cases hstep
    exact start_settles (hagreed rfl)
  · rename_i v
    exact absurd rfl (hquiet v).2
  · rename_i v since written
    cases hstep
    cases written with
    | true => exact ⟨hpending, fun h => by simp [active] at h⟩
    | false => exact absurd rfl (hquiet 0).1
  · rename_i v since
    cases hstep
    refine ⟨⟨?_, s.transform_setTransform v⟩, fun h => by simp [active] at h⟩
    rw [s.lastSet_setTransform v]
    exact hpending
  · rename_i v since ret
    split_ifs at hstep with hret
    cases hstep
    refine ⟨?_, fun h => by simp [active] at h⟩
    cases ret <;> trivial
  · rename_i ret
    exact absurd rfl (hlose ret)
  · rename_i ret
    exact absurd rfl (hlose ret)
  · cases hstep
    exact ⟨trivial, fun h => by simp [active] at h⟩
  · rename_i v since ret
    cases hstep
    refine ⟨trivial, fun _ => ?_⟩
    by_cases hret : ret = .ok
    · subst hret
      obtain ⟨hlast, hvalue⟩ := hpending
      exact .inr (hlast.trans hvalue.symm)
    · dsimp only
      rw [if_neg hret]
      exact .inl rfl
  · cases hstep

theorem Settled.step {m m' : Machine TransformState SetTransformPoint}
    {l : ℕ × SetTransformAction} (h : Settled m) (hquiet : Undisturbed m l)
    (hturn : Turn SetTransformPoint.step m l m') : Settled m' := by
  obtain ⟨r, hr, rfl⟩ := hturn.cases
  obtain ⟨t, a⟩ := l
  dsimp only at hr
  have hothers : ∀ u, u ≠ t → (m.procs u).active = false := by
    intro u hu
    cases hp : (m.procs t).active with
    | true =>
      by_contra hactive
      exact hu (h.one u t (by simpa using hactive) hp)
    | false =>
      obtain ⟨v, rfl⟩ | ⟨v, rfl⟩ := action_of_inactive hp hr
      · exact hquiet.2 u
      · exact hquiet.elim
  have hagreed : (m.procs t).active = false → Agreed m.shared := by
    intro hp
    refine h.agreed fun u => ?_
    by_cases hu : u = t
    · rw [hu]
      exact hp
    · exact hothers u hu
  have hbuild : ∀ v, a ≠ .build false ∧ a ≠ .setTransform v := by
    refine fun v => ⟨?_, ?_⟩
    · rintro rfl
      simp [Undisturbed] at hquiet
    · rintro rfl
      exact hquiet
  have hlose : ∀ ret, a ≠ .lose ret := by
    rintro ret rfl
    exact hquiet
  obtain ⟨hpending, hafter⟩ := settles_own (h.pending t) hagreed hbuild hlose hr
  refine ⟨?_, ?_, ?_⟩
  · intro u v hu hv
    have hself : ∀ w, ((m.put t r).procs w).active = true → w = t := by
      intro w hw
      by_contra hne
      rw [Machine.procs_put_ne m r hne, hothers w hne] at hw
      simp at hw
    rw [hself u hu, hself v hv]
  · intro u
    by_cases hu : u = t
    · subst hu
      simpa using hpending
    · rw [Machine.procs_put_ne m r hu]
      exact pending_of_inactive (hothers u hu)
  · intro hall
    have hself := hall t
    rw [Machine.procs_put_self] at hself
    exact hafter hself

theorem Settled.answersTruly {m : Machine TransformState SetTransformPoint}
    {l : ℕ × SetTransformAction} (h : Settled m) (hquiet : Undisturbed m l) :
    AnswersTruly l.1 m.shared (m.procs l.1) l.2 := by
  obtain ⟨t, a⟩ := l
  cases a with
  | call v =>
    intro hhit
    obtain ⟨hvalue, hidle⟩ : v ≠ graphicRotateButt ∧ ∀ u, (m.procs u).active = false := hquiet
    rcases h.agreed hidle with hbutt | hsame
    · exact absurd (hhit.symm.trans hbutt) hvalue
    · exact hsame.symm.trans hhit
  | _ => trivial

end SetTransformPoint

open SetTransformPoint

def newTransformClient : Machine TransformState SetTransformPoint := ⟨{}, fun _ => .idle⟩

/-- As long as every call that answers from the remembered value finds the queue at this value, a
call that has reported success was right, and the next step keeps that exactly when it is no
other answer. A client that nothing disturbs answers so. -/
theorem reported_transform_in_force (ls : List (ℕ × SetTransformAction))
    (m : Machine TransformState SetTransformPoint) :
    (Run (TurnIf SetTransformPoint.step AnswersTruly) newTransformClient ls m →
      (∀ t, (m.procs t).InForce m.shared) ∧ ∀ l m', Turn SetTransformPoint.step m l m' →
        ((m'.procs l.1).InForce m'.shared ↔ AnswersTruly l.1 m.shared (m.procs l.1) l.2)) ∧
    (Run (restrict (Turn SetTransformPoint.step) Undisturbed) newTransformClient ls m →
      Run (TurnIf SetTransformPoint.step AnswersTruly) newTransformClient ls m) := by
  constructor
  · intro run
    have hrecorded : newTransformClient.shared.Recorded := rfl
    obtain ⟨hinv, hknows⟩ := rely_guarantee TransformState.Recorded Knows
      (fun t s p a r h hk hok hstep => ⟨recorded_step h hstep, knows_step h hk hok hstep⟩)
      (fun t s p a r u q _ _ _ hstep _ hk => knows_others hk hstep) hrecorded
      (fun _ => trivial) run
    refine ⟨fun t => (hknows t).inForce, fun l m' hturn => ?_⟩
    obtain ⟨r, hr, rfl⟩ := hturn.cases
    rw [Machine.shared_put, Machine.procs_put_self]
    constructor
    · intro hforce
      by_contra hbad
      exact not_inForce_of_stale hinv hbad hr hforce
    · intro hok
      exact (knows_step hinv (hknows l.1) hok hr).inForce
  · intro run
    have hstart : Settled newTransformClient :=
      ⟨fun t u ht => by simp [newTransformClient, active] at ht, fun _ => trivial,
        fun _ => .inl rfl⟩
    have hboth : Settled m ∧ Run (TurnIf SetTransformPoint.step AnswersTruly) newTransformClient ls m := by
      induction run with
      | nil => exact ⟨hstart, .nil⟩
      | snoc _ last ih =>
        obtain ⟨hsettled, hrun⟩ := ih
        exact ⟨hsettled.step last.2 last.1, .snoc hrun ⟨last.1, hsettled.answersTruly last.2⟩⟩
    exact hboth.2

def setTwice : List (ℕ × SetTransformAction) :=
  [(0, .call 1), (0, .build true), (0, .serve), (0, .finish), (0, .call 1)]

theorem reported_transform_in_force_setTwice :
    ((execute (Machine.next SetTransformPoint.step) newTransformClient setTwice).procs 0).InForce
      (execute (Machine.next SetTransformPoint.step) newTransformClient setTwice).shared := by
  have legal : Legal (Machine.next SetTransformPoint.step) (fun m l =>
      (m.next? SetTransformPoint.step l).isSome ∧
        AnswersTruly l.1 m.shared (m.procs l.1) l.2) newTransformClient setTwice := by decide
  exact ((reported_transform_in_force _ _).1
    (.of_legal (fun _ _ hok => ⟨Turn.next hok.1, hok.2⟩) legal)).1 0

/-- The first message is lost, and the second call reports success for a value that the queue never
had. -/
theorem lost_transform_reported :
    ¬ ∀ (ls : List (ℕ × SetTransformAction)) (m : Machine TransformState SetTransformPoint),
      Run (Turn SetTransformPoint.step) newTransformClient ls m →
        ∀ t, (m.procs t).InForce m.shared := by
  intro h
  have legal : Legal (Machine.next SetTransformPoint.step) (fun m l =>
      (m.next? SetTransformPoint.step l).isSome = true) newTransformClient
      [(0, .call 1), (0, .build true), (0, .lose .binder), (0, .call 1)] := by decide
  have hforce := h _ _ (.of_legal (fun _ _ hok => Turn.next hok) legal) 0
  revert hforce
  show ¬ (1 : Int) ∈ [graphicRotateNone].drop 0
  decide

end GraphicSurface
