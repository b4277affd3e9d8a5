import GraphicSurface.ExtraDataCodec

/-! The user data of a surface, and the listeners that are told when it changes. `ProducerSurface`
and `ConsumerSurface` have the same text. The number of entries is checked before the key is looked
up, and no call takes an entry out. A value is any bytes: HDR metadata are kept as values. -/

namespace GraphicSurface

open Runs

/-- A listener is whatever its calls are recorded for. -/
structure UserData (φ : Type) where
  userData : Std.ExtTreeMap String (List UInt8) := ∅
  onUserDataChange : Std.ExtTreeMap String φ := ∅

/-- One call of a listener. -/
structure UserDataChange (φ : Type) where
  func : φ
  key : String
  val : List UInt8
deriving DecidableEq

inductive UserDataCall (φ : Type)
  | setUserData (key : String) (val : List UInt8)
  | registerUserDataChangeListener (funcName : String) (func : Option φ)
  | unRegisterUserDataChangeListener (funcName : String)
  | clearUserDataChangeListener

namespace UserData

variable {φ : Type} (s : UserData φ)

def setUserData (key : String) (val : List UInt8) :
    GSError × List (UserDataChange φ) × UserData φ :=
  if surfaceMaxUserDataCount ≤ s.userData.size then (.outOfRange, [], s)
  else if s.userData[key]? = some val then (.apiFailed, [], s)
  else
    (.ok, s.onUserDataChange.toList.map fun entry => ⟨entry.2, key, val⟩,
      { s with userData := s.userData.insert key val })

/-- A key without a value reads as the empty text. -/
def getUserData (key : String) : List UInt8 := s.userData[key]?.getD []

def registerUserDataChangeListener (funcName : String) (func : Option φ) : GSError × UserData φ :=
  match func with
  | none => (.invalidArguments, s)
  | some func =>
    if funcName ∈ s.onUserDataChange then (.invalidArguments, s)
    else (.ok, { s with onUserDataChange := s.onUserDataChange.insert funcName func })

def unRegisterUserDataChangeListener (funcName : String) : GSError × UserData φ :=
  if funcName ∈ s.onUserDataChange then
    (.ok, { s with onUserDataChange := s.onUserDataChange.erase funcName })
  else (.invalidArguments, s)

def clearUserDataChangeListener : GSError × UserData φ := (.ok, { s with onUserDataChange := ∅ })

end UserData

namespace UserDataCall

variable {φ : Type}

def run (s : UserData φ) : UserDataCall φ → GSError × List (UserDataChange φ) × UserData φ
  | setUserData key val => s.setUserData key val
  | registerUserDataChangeListener funcName func =>
    Prod.map id (Prod.mk []) (s.registerUserDataChangeListener funcName func)
  | unRegisterUserDataChangeListener funcName =>
    Prod.map id (Prod.mk []) (s.unRegisterUserDataChangeListener funcName)
  | clearUserDataChangeListener => Prod.map id (Prod.mk []) s.clearUserDataChangeListener

def next (s : UserData φ) (c : UserDataCall φ) : UserData φ := (c.run s).2.2

def setting : UserDataCall φ → Option (String × List UInt8)
  | setUserData key val => some (key, val)
  | _ => none

def removes (name : String) : UserDataCall φ → Bool
  | unRegisterUserDataChangeListener funcName => funcName = name
  | clearUserDataChangeListener => true
  | _ => false

end UserDataCall

/-- The key and the value of a call of this listener. -/
def UserDataChange.heardBy {φ : Type} [DecidableEq φ] (func : φ) (c : UserDataChange φ) :
    Option (String × List UInt8) :=
  if c.func = func then some (c.key, c.val) else none

namespace UserData

variable {φ : Type}

open UserDataCall

def changes (s : UserData φ) : List (UserDataCall φ) → List (UserDataChange φ)
  | [] => []
  | c :: cs => (c.run s).2.1 ++ changes (c.next s) cs

def insertion (m : Std.ExtTreeMap String (List UInt8)) (p : String × List UInt8) :
    Std.ExtTreeMap String (List UInt8) :=
  m.insert p.1 p.2

def Full (m : Std.ExtTreeMap String (List UInt8)) : Prop := surfaceMaxUserDataCount ≤ m.size

instance : DecidablePred Full := fun _ => inferInstanceAs (Decidable (_ ≤ _))

theorem insert_of_mem {m : Std.ExtTreeMap String (List UInt8)} {key : String} {val : List UInt8}
    (h : m[key]? = some val) : m.insert key val = m := by
  refine Std.ExtTreeMap.ext_getElem? fun {k} => ?_
  rw [Std.ExtTreeMap.getElem?_insert]
  split_ifs with hk
  · rw [← Std.LawfulEqCmp.eq_of_compare hk, h]
  · rfl

theorem getElem?_execute_insertion (m : Std.ExtTreeMap String (List UInt8))
    (ps : List (String × List UInt8)) (key : String) :
    (execute insertion m ps)[key]? = (ps.reverse.lookup key).or m[key]? := by
  induction ps generalizing m with
  | nil => rfl
  | cons p ps ih =>
    obtain ⟨k, value⟩ := p
    rw [show execute insertion m ((k, value) :: ps) = execute insertion (m.insert k value) ps
      from rfl, ih, List.reverse_cons, List.lookup_append, Option.or_assoc]
    congr 1
    by_cases h : key = k
    · subst h
      simp
    · have hbeq : (key == k) = false := beq_false_of_ne h
      have hcmp : compare k key ≠ .eq := fun hc => h (Std.LawfulEqCmp.eq_of_compare hc).symm
      simp [List.lookup_cons, hbeq, Std.ExtTreeMap.getElem?_insert, hcmp]

theorem execute_insertion_const {m : Std.ExtTreeMap String (List UInt8)} {p : String × List UInt8}
    {ps : List (String × List UInt8)} (hne : ps ≠ []) (hps : ∀ q ∈ ps, q = p) :
    execute insertion m ps = insertion m p := by
  induction ps generalizing m with
  | nil => exact absurd rfl hne
  | cons q ps ih =>
    obtain rfl := hps q List.mem_cons_self
    by_cases h : ps = []
    · subst h
      rfl
    · refine (ih h fun r hr => hps r (List.mem_cons_of_mem q hr)).trans ?_
      exact insert_of_mem Std.ExtTreeMap.getElem?_insert_self

variable {s : UserData φ}

theorem setUserData_full {key : String} {val : List UInt8} (full : Full s.userData) :
    s.setUserData key val = (.outOfRange, [], s) :=
  if_pos full

theorem setUserData_same {key : String} {val : List UInt8} (room : ¬ Full s.userData)
    (same : s.userData[key]? = some val) : s.setUserData key val = (.apiFailed, [], s) :=
  (if_neg room).trans (if_pos same)

theorem setUserData_new {key : String} {val : List UInt8} (room : ¬ Full s.userData)
    (new : s.userData[key]? ≠ some val) :
    s.setUserData key val = (.ok, s.onUserDataChange.toList.map fun entry => ⟨entry.2, key, val⟩,
      { s with userData := s.userData.insert key val }) :=
  (if_neg room).trans (if_neg new)

theorem next_userData (s : UserData φ) (c : UserDataCall φ) :
    (c.next s).userData = match c.setting with
      | none => s.userData
      | some p => gated insertion Full s.userData p := by
  cases c with
  | setUserData key val =>
    change (s.setUserData key val).2.2.userData = gated insertion Full s.userData (key, val)
    by_cases full : Full s.userData
    · rw [setUserData_full full, gated, if_pos full]
    · rw [gated, if_neg full]
      by_cases same : s.userData[key]? = some val
      · rw [setUserData_same full same]
        exact (insert_of_mem same).symm
      · rw [setUserData_new full same]
        rfl
  | registerUserDataChangeListener funcName func =>
    unfold next run UserData.registerUserDataChangeListener
    cases func with
    | none => rfl
    | some func =>
      dsimp only
      split_ifs <;> rfl
  | unRegisterUserDataChangeListener funcName =>
    unfold next run UserData.unRegisterUserDataChangeListener
    dsimp only
    split_ifs <;> rfl
  | clearUserDataChangeListener => rfl

theorem execute_userData (s : UserData φ) (cs : List (UserDataCall φ)) :
    (execute next s cs).userData =
      execute (gated insertion Full) s.userData (cs.filterMap setting) := by
  induction cs generalizing s with
  | nil => rfl
  | cons c cs ih =>
    refine (ih (c.next s)).trans ?_
    rw [next_userData]
    cases h : c.setting with
    | none => rw [List.filterMap_cons_none h]
    | some p =>
      rw [List.filterMap_cons_some h]
      rfl

theorem next_listener {name : String} {func : φ} {c : UserDataCall φ}
    (h : s.onUserDataChange[name]? = some func) (kept : c.removes name = false) :
    (c.next s).onUserDataChange[name]? = some func := by
  cases c with
  | setUserData key val =>
    unfold next run UserData.setUserData
    dsimp only
    split_ifs <;> exact h
  | registerUserDataChangeListener funcName other =>
    unfold next run UserData.registerUserDataChangeListener
    cases other with
    | none => exact h
    | some other =>
      dsimp only
      split_ifs with hmem
      · exact h
      · have hne : compare funcName name ≠ .eq := by
          intro hc
          rw [Std.LawfulEqCmp.eq_of_compare hc, Std.ExtTreeMap.mem_iff_isSome_getElem?, h] at hmem
          exact hmem rfl
        exact (Std.ExtTreeMap.getElem?_insert.trans (if_neg hne)).trans h
  | unRegisterUserDataChangeListener funcName =>
    unfold next run UserData.unRegisterUserDataChangeListener
    dsimp only
    split_ifs
    · have hne : compare funcName name ≠ .eq := by
        intro hc
        exact absurd (Std.LawfulEqCmp.eq_of_compare hc) (of_decide_eq_false kept)
      exact (Std.ExtTreeMap.getElem?_erase.trans (if_neg hne)).trans h
    · exact h
  | clearUserDataChangeListener => exact absurd kept Bool.true_eq_false_eq_False.elim

theorem heard_of_call [DecidableEq φ] {name : String} {func : φ}
    (h : s.onUserDataChange[name]? = some func) (c : UserDataCall φ) :
    execute insertion s.userData ((c.run s).2.1.filterMap (·.heardBy func)) =
      (c.next s).userData := by
  cases c with
  | setUserData key val =>
    change execute insertion s.userData ((s.setUserData key val).2.1.filterMap _) =
      (s.setUserData key val).2.2.userData
    by_cases full : Full s.userData
    · rw [setUserData_full full]
      rfl
    by_cases same : s.userData[key]? = some val
    · rw [setUserData_same full same]
      rfl
    · rw [setUserData_new full same]
      refine execute_insertion_const (p := (key, val)) (fun hnil => ?_) fun q hq => ?_
      · have hmem : (name, func) ∈ s.onUserDataChange.toList :=
          Std.ExtTreeMap.mem_toList_iff_getElem?_eq_some.mpr h
        have hnone := List.filterMap_eq_nil_iff.mp hnil _ (List.mem_map_of_mem hmem)
        exact absurd hnone (by simp [UserDataChange.heardBy])
      · obtain ⟨change, hchange, hheard⟩ := List.mem_filterMap.mp hq
        obtain ⟨entry, -, rfl⟩ := List.mem_map.mp hchange
        obtain ⟨-, hpair⟩ := Option.ite_none_right_eq_some.mp hheard
        exact (Option.some.inj hpair).symm
  | registerUserDataChangeListener funcName other =>
    unfold next run UserData.registerUserDataChangeListener
    cases other with
    | none => rfl
    | some other =>
      dsimp only
      split_ifs <;> rfl
  | unRegisterUserDataChangeListener funcName =>
    unfold next run UserData.unRegisterUserDataChangeListener
    dsimp only
    split_ifs <;> rfl
  | clearUserDataChangeListener => rfl

theorem heard_of_run [DecidableEq φ] {name : String} {func : φ}
    (h : s.onUserDataChange[name]? = some func) {cs : List (UserDataCall φ)}
    (kept : ∀ c ∈ cs, c.removes name = false) :
    execute insertion s.userData ((s.changes cs).filterMap (·.heardBy func)) =
      (execute next s cs).userData := by
  induction cs generalizing s with
  | nil => rfl
  | cons c cs ih =>
    have hnext := next_listener h (kept c List.mem_cons_self)
    rw [changes, List.filterMap_append, execute_append, heard_of_call h c]
    exact ih hnext fun d hd => kept d (List.mem_cons_of_mem c hd)

/-- The data follow the settings up to the one that fills the surface and then never change, not
even for a key that they hold; a listener that no call takes away hears all that happens to them. -/
theorem user_data_freezes [DecidableEq φ] (s : UserData φ) (cs : List (UserDataCall φ)) :
    (∃ kept lost, cs.filterMap setting = kept ++ lost ∧
      (∀ key, (execute next s cs).getUserData key =
        (kept.reverse.lookup key).getD (s.getUserData key)) ∧
      (lost ≠ [] → surfaceMaxUserDataCount ≤ (execute next s cs).userData.size) ∧
      ∀ early late, kept = early ++ late → late ≠ [] →
        (execute insertion s.userData early).size < surfaceMaxUserDataCount) ∧
    ∀ name func, s.onUserDataChange[name]? = some func →
      (∀ c ∈ cs, c.removes name = false) →
      execute insertion s.userData ((s.changes cs).filterMap (·.heardBy func)) =
        (execute next s cs).userData := by
  refine ⟨?_, fun name func h kept => heard_of_run h kept⟩
  obtain ⟨kept, lost, hsplit, hrun, hlost, hopen⟩ :=
    execute_gated insertion Full s.userData (cs.filterMap setting)
  have hdata := (execute_userData s cs).trans hrun
  refine ⟨kept, lost, hsplit, fun key => ?_, fun h => ?_, fun early late h hlate => ?_⟩
  · unfold getUserData
    rw [hdata, getElem?_execute_insertion, Option.getD_or]
  · rw [hdata]
    exact hlost h
  · exact not_le.mp (hopen early late h hlate)

end UserData

end GraphicSurface
