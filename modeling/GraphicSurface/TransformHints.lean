import GraphicSurface.ConfigCodec
import GraphicSurface.Runs

/-! The transform hint of a queue and the copies of it that the producers keep. A call in progress,
its reply and the notifications to the other producers are messages; no message is lost, and a
notification is delivered before the server's call ends. A producer in the queue's process registers
no listener for them. -/

namespace GraphicSurface

open Runs

/-- One call of `SetTransformHint`. The consumer calls as number 0. -/
structure HintCall where
  caller : ℕ
  hint : Int
deriving DecidableEq

/-- The call that holds the mutex of the `BufferQueueProducer` and has changed the hint: the copy
of the listeners that are still to be told, once it is made, and the notifications under way. -/
structure HintServer where
  call : HintCall
  toTell : Option (List ℕ) := none
  inFlight : List ℕ := []
deriving DecidableEq

/-- `lastSet` is the `lastSetTransformHint_` of each producer. `reading` are the calls of
`GetProducerInitInfo` that have still to register their listener, `answered` those that have
returned to `Init`, both with the hint that was read; `completed` are the producers that are through
with `Init`. -/
structure HintState where
  transformHint : Int := graphicRotateNone
  producerId : ℕ := 1
  listeners : List ℕ := []
  lastSet : ℕ → Int := fun _ => graphicRotateNone
  calls : List HintCall := []
  server : Option HintServer := none
  replies : List HintCall := []
  reading : List HintCall := []
  answered : List HintCall := []
  completed : List ℕ := []

inductive HintAction
  | getProducerInitInfo (inProcess : Bool)
  | registerPropertyListener (info : HintCall)
  | init (info : HintCall)
  | setTransformHint (call : HintCall)
  | serve (call : HintCall)
  | copyListeners
  | notify
  | deliver (producer : ℕ)
  | finish
  | reply (call : HintCall)
deriving DecidableEq

def propertyChangeListenerMaxNum : ℕ := 50

/-- What the listener's stub makes of the hint in a notification. -/
def readSurfaceProperty (hint : Int) : Option Int :=
  if 0 ≤ hint ∧ hint ≤ graphicRotateButt then some hint else none

theorem readSurfaceProperty_isSome {hint : Int} :
    (readSurfaceProperty hint).isSome ↔ readSurfaceProperty hint = some hint := by
  unfold readSurfaceProperty
  split_ifs <;> simp

namespace HintServer

/-- The copy is made without the caller, which the loop skips. -/
def copyListeners (v : HintServer) (listeners : List ℕ) : HintServer :=
  { v with toTell := some (listeners.filter (· ≠ v.call.caller)) }

def notify (v : HintServer) : HintServer :=
  match v.toTell with
  | some (p :: l) => { v with toTell := some l, inFlight := p :: v.inFlight }
  | _ => v

theorem notify_cases (v : HintServer) :
    v.notify = v ∨ ∃ p l, v.toTell = some (p :: l) ∧
      v.notify = { v with toTell := some l, inFlight := p :: v.inFlight } := by
  unfold notify
  split
  · rename_i p l hstage
    exact .inr ⟨p, l, hstage, rfl⟩
  · exact .inl rfl

theorem call_notify (v : HintServer) : v.notify.call = v.call := by
  rcases v.notify_cases with hsame | ⟨p, l, -, hnotify⟩
  · rw [hsame]
  · rw [hnotify]

end HintServer

namespace HintState

def getProducerInitInfo (s : HintState) (inProcess : Bool) : HintState :=
  let info : HintCall := ⟨s.producerId, s.transformHint⟩
  if inProcess then
    { s with producerId := s.producerId + 1, answered := info :: s.answered }
  else
    { s with producerId := s.producerId + 1, reading := info :: s.reading }

/-- `GetProducerInitInfo` fails for a producer too many. -/
def registerPropertyListener (s : HintState) (info : HintCall) : HintState :=
  if propertyChangeListenerMaxNum < s.listeners.length then
    { s with reading := s.reading.erase info }
  else
    { s with
      reading := s.reading.erase info
      listeners := s.listeners ++ [info.caller]
      answered := info :: s.answered }

/-- A producer that asks for the hint that it has is answered on the spot. -/
def setTransformHint (s : HintState) (call : HintCall) : HintState :=
  if call.caller ≠ 0 ∧ s.lastSet call.caller = call.hint then s
  else { s with calls := call :: s.calls }

/-- `BufferQueue::SetTransformHint` up to its first unlock. -/
def serve (s : HintState) (call : HintCall) : HintState :=
  if s.transformHint = call.hint then
    { s with calls := s.calls.erase call, replies := call :: s.replies }
  else
    { s with
      calls := s.calls.erase call
      transformHint := call.hint
      server := some { call := call } }

end HintState

namespace HintAction

open HintState

/-- What must be there for the action to be taken: the message, and a server that is free or has
come so far. Only a producer that is ready and the consumer make calls. -/
def Allowed (s : HintState) : HintAction → Prop
  | getProducerInitInfo _ => True
  | registerPropertyListener info => info ∈ s.reading
  | init info => info ∈ s.answered
  | setTransformHint call => call.caller = 0 ∨ call.caller ∈ s.completed
  | serve call => call ∈ s.calls ∧ s.server = none
  | copyListeners => ∃ v, s.server = some v ∧ v.toTell = none
  | notify => ∃ v, s.server = some v ∧ v.toTell ≠ none ∧ v.toTell ≠ some []
  | deliver producer => ∃ v, s.server = some v ∧ producer ∈ v.inFlight
  | finish => ∃ v, s.server = some v ∧ v.toTell = some [] ∧ v.inFlight = []
  | reply call => call ∈ s.replies

def apply (s : HintState) : HintAction → HintState
  | getProducerInitInfo inProcess => s.getProducerInitInfo inProcess
  | registerPropertyListener info => s.registerPropertyListener info
  | init info =>
    { s with
      answered := s.answered.erase info
      lastSet := Function.update s.lastSet info.caller info.hint
      completed := info.caller :: s.completed }
  | setTransformHint call => s.setTransformHint call
  | serve call => s.serve call
  | copyListeners => { s with server := s.server.map (·.copyListeners s.listeners) }
  | notify => { s with server := s.server.map HintServer.notify }
  | deliver producer =>
    match s.server with
    | none => s
    | some v =>
      { s with
        server := some { v with inFlight := v.inFlight.erase producer }
        lastSet :=
          match readSurfaceProperty v.call.hint with
          | some hint => Function.update s.lastSet producer hint
          | none => s.lastSet }
  | finish =>
    match s.server with
    | none => s
    | some v => { s with server := none, replies := v.call :: s.replies }
  | reply call =>
    { s with
      replies := s.replies.erase call
      lastSet :=
        if call.caller = 0 then s.lastSet
        else Function.update s.lastSet call.caller call.hint }

end HintAction

instance decidableServer (s : HintState) (P : HintServer → Prop) [DecidablePred P] :
    Decidable (∃ v, s.server = some v ∧ P v) :=
  match h : s.server with
  | none => isFalse fun ⟨v, hv, _⟩ => by simp at hv
  | some v => decidable_of_iff (P v) (by simp)

instance (s : HintState) (a : HintAction) : Decidable (a.Allowed s) := by
  cases a <;> unfold HintAction.Allowed <;> infer_instance

def HintStep (s : HintState) (a : HintAction) (s' : HintState) : Prop :=
  a.Allowed s ∧ s' = a.apply s

namespace HintState

/-- The call has still to notify the producer, or has a notification under way to it. -/
def Notifies (s : HintState) (v : HintServer) (p : ℕ) : Prop :=
  match v.toTell with
  | none => p ∈ s.listeners
  | some l => p ∈ l ∨ p ∈ v.inFlight

/-- The notification can be read. -/
def Owes (s : HintState) (v : HintServer) (p : ℕ) : Prop :=
  (readSurfaceProperty v.call.hint).isSome ∧ s.Notifies v p

/-- News of the present hint is on its way to the producer: from the call that the server is at,
or as the reply to its own call. -/
def Awaits (s : HintState) (p : ℕ) : Prop :=
  (∃ v, s.server = some v ∧ (v.call.caller = p ∨ s.Owes v p)) ∨ ⟨p, s.transformHint⟩ ∈ s.replies

/-- Every producer has the hint of the queue, or will hear of it. -/
def Told (s : HintState) : Prop :=
  ∀ p ∈ s.completed, s.lastSet p = s.transformHint ∨ s.Awaits p

/-- All calls have returned and no message is in flight. -/
structure Quiet (s : HintState) : Prop where
  calls : s.calls = []
  server : s.server = none
  replies : s.replies = []

theorem Told.converged {s : HintState} (h : s.Told) (hquiet : s.Quiet) {p : ℕ}
    (hp : p ∈ s.completed) : s.lastSet p = s.transformHint := by
  rcases h p hp with hsame | ⟨v, hserver, -⟩ | hreply
  · exact hsame
  · rw [hquiet.server] at hserver
    cases hserver
  · rw [hquiet.replies] at hreply
    cases hreply

/-- The bookkeeping of the messages: only ready producers and the consumer call. -/
structure Sound (s : HintState) : Prop where
  id_pos : 0 < s.producerId
  reading : ∀ i ∈ s.reading, 0 < i.caller
  answered : ∀ i ∈ s.answered, 0 < i.caller
  completed : ∀ p ∈ s.completed, 0 < p
  calls : ∀ c ∈ s.calls, c.caller = 0 ∨ c.caller ∈ s.completed
  replies : ∀ c ∈ s.replies, c.caller = 0 ∨ c.caller ∈ s.completed
  server : ∀ v, s.server = some v →
    v.call.hint = s.transformHint ∧ (v.call.caller = 0 ∨ v.call.caller ∈ s.completed)

variable {s : HintState} {a : HintAction}

theorem Sound.start : Sound {} := by
  constructor <;> simp

theorem serve_cases (s : HintState) (call : HintCall) :
    s.transformHint = call.hint ∧
        s.serve call = { s with calls := s.calls.erase call, replies := call :: s.replies } ∨
      s.serve call = { s with
        calls := s.calls.erase call
        transformHint := call.hint
        server := some { call := call } } := by
  unfold serve
  split_ifs with hsame
  · exact .inl ⟨hsame, rfl⟩
  · exact .inr rfl

namespace Sound

theorem getProducerInitInfo (h : Sound s) (inProcess : Bool) :
    Sound (s.getProducerInitInfo inProcess) := by
  have hmore {l : List HintCall} (hl : ∀ i ∈ l, 0 < i.caller) :
      ∀ i ∈ (⟨s.producerId, s.transformHint⟩ : HintCall) :: l, 0 < i.caller := by
    intro i hi
    rcases List.mem_cons.mp hi with rfl | hi
    · exact h.id_pos
    · exact hl i hi
  cases inProcess with
  | false =>
    exact ⟨Nat.succ_pos _, hmore h.reading, h.answered, h.completed, h.calls, h.replies, h.server⟩
  | true =>
    exact ⟨Nat.succ_pos _, h.reading, hmore h.answered, h.completed, h.calls, h.replies, h.server⟩

theorem registerPropertyListener (h : Sound s) {info : HintCall} (hinfo : info ∈ s.reading) :
    Sound (s.registerPropertyListener info) := by
  have hreading : ∀ i ∈ s.reading.erase info, 0 < i.caller := fun i hi =>
    h.reading i (List.mem_of_mem_erase hi)
  unfold HintState.registerPropertyListener
  split_ifs
  · exact ⟨h.id_pos, hreading, h.answered, h.completed, h.calls, h.replies, h.server⟩
  · refine ⟨h.id_pos, hreading, ?_, h.completed, h.calls, h.replies, h.server⟩
    intro i hi
    rcases List.mem_cons.mp hi with rfl | hi
    · exact h.reading i hinfo
    · exact h.answered i hi

theorem init (h : Sound s) {info : HintCall} (hinfo : info ∈ s.answered) :
    Sound ((HintAction.init info).apply s) := by
  have hmore {c : HintCall} (hc : c.caller = 0 ∨ c.caller ∈ s.completed) :
      c.caller = 0 ∨ c.caller ∈ info.caller :: s.completed :=
    hc.imp_right (List.mem_cons_of_mem _)
  refine ⟨h.id_pos, h.reading, fun i hi => h.answered i (List.mem_of_mem_erase hi), ?_,
    fun c hc => hmore (h.calls c hc), fun c hc => hmore (h.replies c hc), ?_⟩
  · intro p hp
    rcases List.mem_cons.mp hp with rfl | hp
    · exact h.answered info hinfo
    · exact h.completed p hp
  · intro v hv
    exact ⟨(h.server v hv).1, hmore (h.server v hv).2⟩

theorem setTransformHint (h : Sound s) {call : HintCall}
    (hcaller : call.caller = 0 ∨ call.caller ∈ s.completed) : Sound (s.setTransformHint call) := by
  unfold HintState.setTransformHint
  split_ifs
  · exact h
  · refine ⟨h.id_pos, h.reading, h.answered, h.completed, ?_, h.replies, h.server⟩
    intro c hc
    rcases List.mem_cons.mp hc with rfl | hc
    · exact hcaller
    · exact h.calls c hc

theorem serve (h : Sound s) {call : HintCall} (hmem : call ∈ s.calls) : Sound (s.serve call) := by
  have hcall := h.calls call hmem
  have hcalls : ∀ c ∈ s.calls.erase call, c.caller = 0 ∨ c.caller ∈ s.completed := fun c hc =>
    h.calls c (List.mem_of_mem_erase hc)
  rcases s.serve_cases call with ⟨-, hserve⟩ | hserve
  · rw [hserve]
    refine ⟨h.id_pos, h.reading, h.answered, h.completed, hcalls, ?_, h.server⟩
    intro c hc
    rcases List.mem_cons.mp hc with rfl | hc
    · exact hcall
    · exact h.replies c hc
  · rw [hserve]
    refine ⟨h.id_pos, h.reading, h.answered, h.completed, hcalls, h.replies, ?_⟩
    intro v hv
    cases hv
    exact ⟨rfl, hcall⟩

theorem finish (h : Sound s) {v : HintServer} (hv : s.server = some v) :
    Sound (HintAction.finish.apply s) := by
  simp only [HintAction.apply, hv]
  refine ⟨h.id_pos, h.reading, h.answered, h.completed, h.calls, ?_, ?_⟩
  · intro c hc
    rcases List.mem_cons.mp hc with rfl | hc
    · exact (h.server v hv).2
    · exact h.replies c hc
  · intro w hw
    cases hw

theorem step (h : Sound s) (hallowed : a.Allowed s) : Sound (a.apply s) := by
  cases a with
  | getProducerInitInfo inProcess => exact h.getProducerInitInfo inProcess
  | registerPropertyListener info => exact h.registerPropertyListener hallowed
  | init info => exact h.init hallowed
  | setTransformHint call => exact h.setTransformHint hallowed
  | serve call => exact h.serve hallowed.1
  | copyListeners =>
    refine ⟨h.id_pos, h.reading, h.answered, h.completed, h.calls, h.replies, ?_⟩
    intro w hw
    obtain ⟨v, hv, rfl⟩ := Option.map_eq_some_iff.mp hw
    exact h.server v hv
  | notify =>
    refine ⟨h.id_pos, h.reading, h.answered, h.completed, h.calls, h.replies, ?_⟩
    intro w hw
    obtain ⟨v, hv, rfl⟩ := Option.map_eq_some_iff.mp hw
    rw [v.call_notify]
    exact h.server v hv
  | deliver producer =>
    obtain ⟨v, hv, -⟩ := hallowed
    simp only [HintAction.apply, hv]
    refine ⟨h.id_pos, h.reading, h.answered, h.completed, h.calls, h.replies, ?_⟩
    intro w hw
    cases hw
    exact h.server v hv
  | finish =>
    obtain ⟨v, hv, -⟩ := hallowed
    exact h.finish hv
  | reply call =>
    exact ⟨h.id_pos, h.reading, h.answered, h.completed, h.calls,
      fun c hc => h.replies c (List.mem_of_mem_erase hc), h.server⟩

end Sound

/-- The producer will have the hint of the call once the call is served: it has it, or it made the
call, or a reply to it carries the hint, or it has a listener and the hint can be read. -/
def Reaches (s : HintState) (call : HintCall) (p : ℕ) : Prop :=
  s.lastSet p = call.hint ∨ call.caller = p ∨ ⟨p, call.hint⟩ ∈ s.replies ∨
    p ∈ s.listeners ∧ (readSurfaceProperty call.hint).isSome

/-- A change of the hint reaches every producer, and a producer is given another hint than the
queue's only while news of the queue's hint is still on its way to it: by the end of its own call, or
by the end of `Init`. -/
def Timely (s : HintState) : HintAction → Prop
  | .serve call => s.transformHint = call.hint ∨ ∀ p ∈ s.completed, s.Reaches call p
  | .init info => info.hint = s.transformHint ∨ s.Awaits info.caller
  | .reply call => call.caller = 0 ∨ call.hint = s.transformHint ∨ s.Awaits call.caller
  | _ => True

instance (s : HintState) (v : HintServer) (p : ℕ) : Decidable (s.Notifies v p) := by
  unfold Notifies
  split <;> infer_instance

instance (s : HintState) (v : HintServer) (p : ℕ) : Decidable (s.Owes v p) := by
  unfold Owes
  infer_instance

instance (s : HintState) (call : HintCall) (p : ℕ) : Decidable (s.Reaches call p) := by
  unfold Reaches
  infer_instance

instance (s : HintState) (p : ℕ) : Decidable (s.Awaits p) := by
  unfold Awaits
  infer_instance

instance (s : HintState) (a : HintAction) : Decidable (s.Timely a) := by
  unfold Timely
  split <;> infer_instance

variable {s' : HintState}

theorem Told.of_awaits (h : Told s) (hlast : s'.lastSet = s.lastSet)
    (hhint : s'.transformHint = s.transformHint) (hcompleted : s'.completed = s.completed)
    (hawaits : ∀ p, s.Awaits p → s'.Awaits p) : Told s' := by
  intro p hp
  rw [hcompleted] at hp
  rw [hlast, hhint]
  exact (h p hp).imp_right (hawaits p)

theorem awaits_copyListeners {p : ℕ} (h : s.Awaits p) :
    (HintAction.copyListeners.apply s).Awaits p ∨
      ∃ v, s.server = some v ∧ v.toTell ≠ none := by
  rcases h with ⟨v, hv, howes⟩ | hreply
  · cases hstage : v.toTell with
    | some l => exact .inr ⟨v, hv, by simp [hstage]⟩
    | none =>
      refine .inl (.inl ⟨v.copyListeners s.listeners, ?_, ?_⟩)
      · change s.server.map (·.copyListeners s.listeners) = _
        rw [hv]
        rfl
      · by_cases hcaller : v.call.caller = p
        · exact .inl hcaller
        · obtain ⟨hread, howed⟩ := howes.resolve_left hcaller
          have hlistener : p ∈ s.listeners := by
            simpa only [Notifies, hstage] using howed
          have hmem : p ∈ s.listeners.filter (· ≠ v.call.caller) :=
            List.mem_filter.mpr ⟨hlistener, by simpa using fun hsame => hcaller hsame.symm⟩
          exact .inr ⟨hread, .inl hmem⟩
  · exact .inl (.inr hreply)

theorem awaits_notify {p : ℕ} (h : s.Awaits p) : (HintAction.notify.apply s).Awaits p := by
  rcases h with ⟨v, hv, howes⟩ | hreply
  · refine .inl ⟨v.notify, ?_, ?_⟩
    · change s.server.map HintServer.notify = _
      rw [hv]
      rfl
    · rw [Owes, v.call_notify]
      refine howes.imp_right fun howed => ⟨howed.1, ?_⟩
      rcases v.notify_cases with hsame | ⟨q, l, hstage, hnotify⟩
      · rw [hsame]
        exact howed.2
      · have hnotifies := howed.2
        rw [hnotify]
        simp only [Notifies, hstage, List.mem_cons] at hnotifies ⊢
        tauto
  · exact .inr hreply

theorem awaits_finish {p : ℕ} {v : HintServer} (hv : s.server = some v) (htold : v.toTell = some [])
    (hlanded : v.inFlight = []) (hhint : v.call.hint = s.transformHint) (h : s.Awaits p) :
    (HintAction.finish.apply s).Awaits p := by
  simp only [HintAction.apply, hv]
  rcases h with ⟨w, hw, howes⟩ | hreply
  · rw [hv, Option.some.injEq] at hw
    subst hw
    rcases howes with hcaller | howed
    · refine .inr ?_
      have hcall : (⟨p, s.transformHint⟩ : HintCall) = v.call := by
        rw [← hcaller, ← hhint]
      exact hcall ▸ List.mem_cons_self
    · simp [Owes, Notifies, htold, hlanded] at howed
  · exact .inr (List.mem_cons_of_mem _ hreply)

theorem told_deliver {producer : ℕ} (h : Told s) (hsound : Sound s)
    (hallowed : (HintAction.deliver producer).Allowed s) :
    Told ((HintAction.deliver producer).apply s) := by
  obtain ⟨v, hv, -⟩ := hallowed
  have hhint := (hsound.server v hv).1
  have hkept {p : ℕ} (hother : p ≠ producer ∨ (readSurfaceProperty v.call.hint).isSome = false)
      (hawaits : s.Awaits p) : ((HintAction.deliver producer).apply s).Awaits p := by
    simp only [HintAction.apply, hv]
    refine hawaits.imp_left ?_
    rintro ⟨w, hw, howes⟩
    rw [hv, Option.some.injEq] at hw
    subst hw
    refine ⟨_, rfl, howes.imp_right ?_⟩
    rintro ⟨hread, hnotifies⟩
    refine ⟨hread, ?_⟩
    have hne := hother.resolve_right (by rw [hread]; decide)
    unfold Notifies at hnotifies ⊢
    cases hstage : v.toTell with
    | none => simpa only [hstage] using hnotifies
    | some l =>
      simp only [hstage] at hnotifies ⊢
      exact hnotifies.imp_right (List.mem_erase_of_ne hne).mpr
  intro p hp
  have hp' : p ∈ s.completed := by simpa only [HintAction.apply, hv] using hp
  cases hread : readSurfaceProperty v.call.hint with
  | none =>
    refine (h p hp').imp ?_ (hkept (.inr (by rw [hread]; rfl)))
    simp only [HintAction.apply, hv, hread]
    exact id
  | some hint =>
    by_cases hself : p = producer
    · subst hself
      have hsame := readSurfaceProperty_isSome.mp (by rw [hread]; rfl)
      rw [hread, Option.some.injEq] at hsame
      refine .inl ?_
      simp only [HintAction.apply, hv, hread]
      rw [Function.update_self, hsame, hhint]
    · refine (h p hp').imp ?_ (hkept (.inl hself))
      simp only [HintAction.apply, hv, hread]
      exact (Function.update_of_ne hself _ _).trans

theorem awaits_change {call : HintCall} {p : ℕ} :
    HintState.Awaits { s with
      calls := s.calls.erase call
      transformHint := call.hint
      server := some { call := call } } p ↔
    call.caller = p ∨ (p ∈ s.listeners ∧ (readSurfaceProperty call.hint).isSome) ∨
      ⟨p, call.hint⟩ ∈ s.replies := by
  simp [Awaits, Owes, Notifies, or_assoc, and_comm]

theorem told_serve {call : HintCall} (h : Told s) (hok : s.Timely (.serve call)) :
    Told (s.serve call) := by
  unfold serve
  split_ifs with hsame
  · refine h.of_awaits rfl rfl rfl fun p hp => ?_
    exact hp.imp_right (List.mem_cons_of_mem _)
  · intro p hp
    rcases hok.resolve_left hsame p hp with hlast | hcaller | hreply | hlistener
    · exact .inl hlast
    · exact .inr (awaits_change.mpr (.inl hcaller))
    · exact .inr (awaits_change.mpr (.inr (.inr hreply)))
    · exact .inr (awaits_change.mpr (.inr (.inl hlistener)))

theorem timely_of_told_serve {call : HintCall} (h : Told (s.serve call)) :
    s.Timely (.serve call) := by
  by_cases hsame : s.transformHint = call.hint
  · exact .inl hsame
  · rw [serve, if_neg hsame] at h
    refine .inr fun p hp => ?_
    rcases h p hp with hlast | hawaits
    · exact .inl hlast
    · rcases awaits_change.mp hawaits with hcaller | hlistener | hreply
      · exact .inr (.inl hcaller)
      · exact .inr (.inr (.inr hlistener))
      · exact .inr (.inr (.inl hreply))

theorem told_init {info : HintCall} (h : Told s) (hok : s.Timely (.init info)) :
    Told ((HintAction.init info).apply s) := by
  intro p hp
  by_cases hself : p = info.caller
  · subst hself
    have hlast : ((HintAction.init info).apply s).lastSet info.caller = info.hint :=
      Function.update_self _ _ _
    exact hok.imp_left hlast.trans
  · have hlast : ((HintAction.init info).apply s).lastSet p = s.lastSet p :=
      Function.update_of_ne hself _ _
    have hold : p ∈ s.completed := (List.mem_cons.mp hp).resolve_left hself
    exact (h p hold).imp_left hlast.trans

theorem told_reply {call : HintCall} (h : Told s) (hsound : Sound s)
    (hok : s.Timely (.reply call)) : Told ((HintAction.reply call).apply s) := by
  intro p hp
  have hpos := hsound.completed p hp
  have hkeep (hne : (⟨p, s.transformHint⟩ : HintCall) ≠ call) (hawaits : s.Awaits p) :
      ((HintAction.reply call).apply s).Awaits p :=
    hawaits.imp_right (List.mem_erase_of_ne hne).mpr
  by_cases hself : p = call.caller
  · subst hself
    have hlast : ((HintAction.reply call).apply s).lastSet call.caller = call.hint := by
      change (if call.caller = 0 then s.lastSet else _) call.caller = _
      rw [if_neg hpos.ne', Function.update_self]
    by_cases hhint : call.hint = s.transformHint
    · exact .inl (hlast.trans hhint)
    · have hawaits := (hok.resolve_left hpos.ne').resolve_left hhint
      exact .inr (hkeep (fun hcall => hhint (by rw [← hcall])) hawaits)
  · have hlast : ((HintAction.reply call).apply s).lastSet p = s.lastSet p := by
      change (if call.caller = 0 then s.lastSet else _) p = _
      split_ifs
      · rfl
      · exact Function.update_of_ne hself _ _
    exact (h p hp).imp hlast.trans (hkeep fun hcall => hself (by rw [← hcall]))

theorem Told.step (h : Told s) (hsound : Sound s) (hallowed : a.Allowed s) (hok : s.Timely a) :
    Told (a.apply s) := by
  cases a with
  | getProducerInitInfo inProcess =>
    cases inProcess <;> exact h.of_awaits rfl rfl rfl fun _ hp => hp
  | registerPropertyListener info =>
    change Told (s.registerPropertyListener info)
    unfold registerPropertyListener
    split_ifs
    · exact h.of_awaits rfl rfl rfl fun _ hp => hp
    · refine h.of_awaits rfl rfl rfl fun p hp => hp.imp_left ?_
      rintro ⟨v, hv, howes⟩
      refine ⟨v, hv, howes.imp_right (And.imp_right fun hnotifies => ?_)⟩
      unfold Notifies at hnotifies ⊢
      cases hstage : v.toTell with
      | none =>
        simp only [hstage] at hnotifies ⊢
        exact List.mem_append_left _ hnotifies
      | some l => simpa only [hstage] using hnotifies
  | init info => exact told_init h hok
  | setTransformHint call =>
    change Told (s.setTransformHint call)
    unfold setTransformHint
    split_ifs
    · exact h
    · exact h.of_awaits rfl rfl rfl fun _ hp => hp
  | serve call => exact told_serve h hok
  | copyListeners =>
    refine h.of_awaits rfl rfl rfl fun p hp => ?_
    rcases awaits_copyListeners hp with hcopied | ⟨v, hv, hstage⟩
    · exact hcopied
    · obtain ⟨w, hw, hnone⟩ := hallowed
      rw [hv, Option.some.injEq] at hw
      exact absurd (hw ▸ hnone) hstage
  | notify => exact h.of_awaits rfl rfl rfl fun _ hp => awaits_notify hp
  | deliver producer => exact told_deliver h hsound hallowed
  | finish =>
    obtain ⟨v, hv, htold, hlanded⟩ := hallowed
    have hsame : (HintAction.finish.apply s).lastSet = s.lastSet ∧
        (HintAction.finish.apply s).transformHint = s.transformHint ∧
        (HintAction.finish.apply s).completed = s.completed := by
      simp only [HintAction.apply, hv, and_self]
    exact h.of_awaits hsame.1 hsame.2.1 hsame.2.2 fun _ hp =>
      awaits_finish hv htold hlanded (hsound.server v hv).1 hp
  | reply call => exact told_reply h hsound hok

theorem not_told_of_not_timely (hsound : Sound s) (hallowed : a.Allowed s) (hbad : ¬ s.Timely a) :
    ¬ Told (a.apply s) := by
  intro htold
  cases a with
  | init info =>
    simp only [Timely, not_or] at hbad
    have hlast : ((HintAction.init info).apply s).lastSet info.caller = info.hint :=
      Function.update_self _ _ _
    rcases htold info.caller List.mem_cons_self with hsame | hawaits
    · exact hbad.1 (hlast.symm.trans hsame)
    · exact hbad.2 hawaits
  | reply call =>
    simp only [Timely, not_or] at hbad
    obtain ⟨hproducer, hhint, hnews⟩ := hbad
    have hlast : ((HintAction.reply call).apply s).lastSet call.caller = call.hint := by
      change (if call.caller = 0 then s.lastSet else _) call.caller = _
      rw [if_neg hproducer, Function.update_self]
    have hcompleted := (hsound.replies call hallowed).resolve_left hproducer
    rcases htold call.caller hcompleted with hsame | hawaits
    · exact hhint (hlast.symm.trans hsame)
    · exact hnews (hawaits.imp_right List.mem_of_mem_erase)
  | serve call => exact hbad (timely_of_told_serve htold)
  | _ => exact hbad trivial

end HintState

open HintState

/-- In a run in which every change reaches the producers, and none is given an outdated hint with no
news on its way, all producers have the hint of the queue whenever everything is quiet; and a step
keeps every producer informed exactly when it is no such step. -/
theorem transform_hints_converge {as : List HintAction} {s : HintState}
    (run : Run (restrict HintStep Timely) {} as s) :
    (s.Quiet → ∀ p ∈ s.completed, s.lastSet p = s.transformHint) ∧
      ∀ a s', HintStep s a s' → (s'.Told ↔ s.Timely a) := by
  have hstart : Told {} := fun p hp => by simp at hp
  have hinv : Sound s ∧ Told s := by
    refine run.invariant₂ ?_ ?_ Sound.start hstart
    · rintro s a _ hsound ⟨⟨hallowed, rfl⟩, -⟩
      exact hsound.step hallowed
    · rintro s a _ hsound htold ⟨⟨hallowed, rfl⟩, hok⟩
      exact htold.step hsound hallowed hok
  obtain ⟨hsound, htold⟩ := hinv
  refine ⟨fun hquiet p hp => htold.converged hquiet hp, ?_⟩
  rintro a s' ⟨hallowed, rfl⟩
  constructor
  · intro hafter
    by_contra hbad
    exact not_told_of_not_timely hsound hallowed hbad hafter
  · intro hok
    exact htold.step hsound hallowed hok

def hintFromFirst : List HintAction :=
  [.getProducerInitInfo false, .registerPropertyListener ⟨1, 0⟩, .init ⟨1, 0⟩,
    .getProducerInitInfo false, .registerPropertyListener ⟨2, 0⟩, .init ⟨2, 0⟩,
    .setTransformHint ⟨1, 1⟩, .serve ⟨1, 1⟩, .copyListeners, .notify, .deliver 2, .finish]

theorem transform_hints_converge_hintFromFirst :
    (execute (fun s a => HintAction.apply s a) {} (hintFromFirst ++ [.reply ⟨1, 1⟩])).lastSet 2 =
      (execute (fun s a => HintAction.apply s a) {}
        (hintFromFirst ++ [.reply ⟨1, 1⟩])).transformHint := by
  have legal : Legal (fun s a => HintAction.apply s a) (fun s a => a.Allowed s ∧ s.Timely a)
      {} (hintFromFirst ++ [.reply ⟨1, 1⟩]) := by decide
  exact (transform_hints_converge (.of_legal (fun _ _ hok => ⟨⟨hok.1, rfl⟩, hok.2⟩) legal)).1
    ⟨rfl, rfl, rfl⟩ 2 (by decide)

/-- Before the reply to the first producer arrives, the second one asks for hint 2; the first hears
of that and then goes back to hint 1. -/
theorem late_reply_overwrites_hint :
    ¬ ∀ (as : List HintAction) (s : HintState), Run HintStep {} as s →
      s.Quiet → ∀ p ∈ s.completed, s.lastSet p = s.transformHint := by
  intro h
  have legal : Legal (fun s a => HintAction.apply s a) (fun s a => a.Allowed s) {}
      (hintFromFirst ++ [.setTransformHint ⟨2, 2⟩, .serve ⟨2, 2⟩, .copyListeners, .notify,
        .deliver 1, .finish, .reply ⟨2, 2⟩, .reply ⟨1, 1⟩]) := by decide
  have hsame := h _ _ (.of_legal (fun _ _ hok => ⟨hok, rfl⟩) legal) ⟨rfl, rfl, rfl⟩ 1 (by decide)
  revert hsame
  decide

/-- A producer in the queue's process does not hear of the consumer's hint. -/
example : (execute (fun s a => HintAction.apply s a) {} [.getProducerInitInfo true, .init ⟨1, 0⟩,
    .setTransformHint ⟨0, 1⟩, .serve ⟨0, 1⟩, .copyListeners, .finish, .reply ⟨0, 1⟩]).lastSet 1 = 0 :=
  rfl

/-- A hint that is no transform is refused by the listener's stub. -/
example : (execute (fun s a => HintAction.apply s a) {} [.getProducerInitInfo false,
    .registerPropertyListener ⟨1, 0⟩, .init ⟨1, 0⟩, .setTransformHint ⟨0, 13⟩, .serve ⟨0, 13⟩,
    .copyListeners, .notify, .deliver 1, .finish, .reply ⟨0, 13⟩]).lastSet 1 = 0 := by
  decide

end GraphicSurface
