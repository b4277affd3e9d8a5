import GraphicSurface.Histories
import GraphicSurface.Runs

/-! Which process `FrameReport` takes for the game that is played. A bit of `sceneType_` says that
there is one, `activelyPid_` says which; they are set together and cleared separately. -/

namespace GraphicSurface

open Runs Histories

def frDefaultPid : ℤ := 0
def frDefaultUniqueId : ℕ := 0

def frSceneNone : BitVec 32 := 0
def frSceneGame : BitVec 32 := 1
def frSceneHwsched : BitVec 32 := 2

def frGameBackground : ℤ := 0
def frGameForeground : ℤ := 1
def frGameSched : ℤ := 2
def frSceneBackground : ℤ := 3
def frSceneForeground : ℤ := 4

/-- `isLoaded` stands for the handle and the function of `libraryInfo_` too: the three are set and
cleared together. -/
structure HwschedReporter where
  pidSet : Finset ℤ := ∅
  activePid : ℤ := -1
  isLoaded : Bool := false
deriving DecidableEq

namespace HwschedReporter

/-- `opens`: the library can be opened and has the function. -/
def loadLibrary (r : HwschedReporter) (opens : Bool) : HwschedReporter :=
  { r with isLoaded := r.isLoaded || opens }

def activate (r : HwschedReporter) (pid : ℤ) : HwschedReporter :=
  if pid ≤ frDefaultPid then r else { r with pidSet := insert pid r.pidSet }

def deactivate (_ : HwschedReporter) : HwschedReporter :=
  { pidSet := ∅, activePid := -1, isLoaded := false }

/-- A process that is found in the set is remembered in `activePid_`. -/
def isActiveWithPid (r : HwschedReporter) (pid : ℤ) : Bool × HwschedReporter :=
  if pid ≤ frDefaultPid then (false, r)
  else if r.activePid = pid then (true, r)
  else if pid ∈ r.pidSet then (true, { r with activePid := pid })
  else (false, r)

def isActive (r : HwschedReporter) : Bool := decide (r.pidSet.Nonempty)

/-- `reported`: the function of the library returns zero. -/
def report (r : HwschedReporter) (reported : Bool) : HwschedReporter :=
  if r.activePid ≤ frDefaultPid then r
  else if r.isLoaded = false then r
  else if reported then r
  else r.deactivate

end HwschedReporter

/-- `isGameSoLoaded` stands for `gameSoHandle_` and `notifyFrameInfoFunc_` too. -/
structure FrameReport where
  activelyPid : ℤ := frDefaultPid
  activelyUniqueId : ℕ := frDefaultUniqueId
  sceneType : BitVec 32 := frSceneNone
  hwschedReporter : HwschedReporter := {}
  isGameSoLoaded : Bool := false
deriving DecidableEq

namespace FrameReport

def loadLibrary (r : FrameReport) (opens : Bool) : FrameReport :=
  { r with isGameSoLoaded := r.isGameSoLoaded || opens }

def setGameScene (r : FrameReport) (pid state : ℤ) (opens : Bool) : FrameReport :=
  if state = frGameBackground then
    let r := { r with sceneType := r.sceneType &&& ~~~frSceneGame }
    if r.activelyPid = pid then
      { r with activelyPid := frDefaultPid, activelyUniqueId := frDefaultUniqueId }
    else r
  else if state = frGameForeground then r.loadLibrary opens
  else if state = frGameSched then
    if pid > frDefaultPid then
      { r with activelyPid := pid, sceneType := r.sceneType ||| frSceneGame }
    else r
  else if state = frSceneForeground then
    { r with
      hwschedReporter := (r.hwschedReporter.loadLibrary opens).activate pid
      sceneType := r.sceneType ||| frSceneHwsched }
  else if state = frSceneBackground then
    { r with
      hwschedReporter := r.hwschedReporter.deactivate
      sceneType := r.sceneType &&& ~~~frSceneHwsched }
  else r

def isActiveGameWithPid (r : FrameReport) (pid : ℤ) : Bool × FrameReport :=
  if pid ≤ frDefaultPid then (false, r)
  else if r.sceneType &&& frSceneGame ≠ 0 ∧ r.activelyPid = pid then (true, r)
  else if r.sceneType &&& frSceneHwsched ≠ 0 then
    match r.hwschedReporter.isActiveWithPid pid with
    | (active, hwschedReporter) => (active, { r with hwschedReporter := hwschedReporter })
  else (false, r)

def setQueueBufferTime (r : FrameReport) (uniqueId : ℕ) : FrameReport :=
  { r with activelyUniqueId := uniqueId }

def deletePidInfo (r : FrameReport) : FrameReport :=
  { r with activelyPid := frDefaultPid, activelyUniqueId := frDefaultUniqueId }

/-- `notified`: what the function of the library returns. -/
def notifyFrameInfo (r : FrameReport) (notified : Bool) : FrameReport :=
  if r.isGameSoLoaded = false then r else if notified then r else r.deletePidInfo

/-- `Report` once its message is written. The scenes are read before the game is notified. -/
def report (r : FrameReport) (notified reported : Bool) : FrameReport :=
  let type := r.sceneType
  let r :=
    if type &&& frSceneGame ≠ 0 ∧ r.activelyPid ≠ frDefaultPid then r.notifyFrameInfo notified
    else r
  if type &&& frSceneHwsched ≠ 0 ∧ r.hwschedReporter.isActive then
    let r := { r with hwschedReporter := r.hwschedReporter.report reported }
    if r.hwschedReporter.isActive then r
    else { r with sceneType := r.sceneType &&& ~~~frSceneHwsched }
  else r

end FrameReport

inductive SceneAction
  | setGameScene (pid state : ℤ) (opens : Bool)
  | isActiveGameWithPid (pid : ℤ)
  | setQueueBufferTime (uniqueId : ℕ)
  | report (notified reported : Bool)
deriving DecidableEq

namespace SceneAction

def apply (r : FrameReport) : SceneAction → FrameReport
  | setGameScene pid state opens => r.setGameScene pid state opens
  | isActiveGameWithPid pid => (r.isActiveGameWithPid pid).2
  | setQueueBufferTime uniqueId => r.setQueueBufferTime uniqueId
  | report notified reported => r.report notified reported

/-- No scene of the hardware scheduler, and no report that fails. -/
def InGame : SceneAction → Prop
  | setGameScene _ state _ =>
    state = frGameBackground ∨ state = frGameForeground ∨ state = frGameSched
  | report notified reported => notified = true ∧ reported = true
  | _ => True

instance (a : SceneAction) : Decidable a.InGame := by
  cases a <;> unfold InGame <;> infer_instance

def Schedules (p : ℤ) (a : SceneAction) : Prop := ∃ opens, a = setGameScene p frGameSched opens

def Backgrounds (p : ℤ) (a : SceneAction) : Prop :=
  ∃ opens, a = setGameScene p frGameBackground opens

end SceneAction

open SceneAction

/-- The latest scheduling call with a positive process named `p`, and no background call for `p` has
come after it. -/
def Playing (p : ℤ) (done : List SceneAction) : Prop :=
  Since (Schedules p) (fun a => (∃ q > 0, a.Schedules q) ∨ a.Backgrounds p) done

/-- The latest scheduling call with a positive process named `p`, and no background call at all has
come after it. -/
def ScheduledLast (p : ℤ) (done : List SceneAction) : Prop :=
  Since (Schedules p) (fun a => (∃ q > 0, a.Schedules q) ∨ ∃ q, a.Backgrounds q) done

def ActiveIffPlaying (done : List SceneAction) : Prop :=
  ∀ p > 0, ((execute apply {} done).isActiveGameWithPid p).1 = true ↔ Playing p done

theorem playing_append_singleton {p : ℤ} {done : List SceneAction} {a : SceneAction} :
    Playing p (done ++ [a]) ↔
      a.Schedules p ∨ Playing p done ∧ ¬ ((∃ q > 0, a.Schedules q) ∨ a.Backgrounds p) :=
  since_append_singleton

namespace FrameReport

/-- What `isActiveGameWithPid` comes to without a scene of the hardware scheduler. -/
def Active (p : ℤ) (r : FrameReport) : Prop :=
  r.sceneType &&& frSceneGame ≠ 0 ∧ r.activelyPid = p

variable {r : FrameReport} {p : ℤ}

theorem game_bit_cleared (r : FrameReport) :
    r.sceneType &&& ~~~frSceneGame &&& frSceneGame = 0 := by
  rw [BitVec.and_assoc, show ~~~frSceneGame &&& frSceneGame = 0 by decide]
  exact BitVec.and_zero

theorem game_bit_set (r : FrameReport) : (r.sceneType ||| frSceneGame) &&& frSceneGame ≠ 0 := by
  rw [BitVec.and_or_distrib_right, BitVec.and_self]
  intro h
  exact absurd (BitVec.or_eq_zero_iff.mp h).2 (by decide)

theorem isActiveGameWithPid_iff (hscene : r.sceneType &&& frSceneHwsched = 0) (hp : 0 < p) :
    (r.isActiveGameWithPid p).1 = true ↔ r.Active p := by
  have hpos : ¬ p ≤ frDefaultPid := not_le.mpr hp
  unfold isActiveGameWithPid Active
  rw [if_neg hpos, if_neg (not_not.mpr hscene)]
  split_ifs with h
  · exact iff_of_true rfl h
  · exact iff_of_false nofun h

theorem setGameScene_background (r : FrameReport) (pid : ℤ) (opens : Bool) :
    (r.setGameScene pid frGameBackground opens).sceneType = r.sceneType &&& ~~~frSceneGame := by
  rw [setGameScene, if_pos rfl]
  dsimp only
  split_ifs <;> rfl

theorem isActiveGameWithPid_quiet (hscene : r.sceneType &&& frSceneHwsched = 0) (pid : ℤ) :
    (r.isActiveGameWithPid pid).2 = r := by
  rw [isActiveGameWithPid, if_neg (not_not.mpr hscene)]
  split_ifs <;> rfl

theorem report_quiet (hscene : r.sceneType &&& frSceneHwsched = 0) : r.report true true = r := by
  have hnotify : r.notifyFrameInfo true = r := by
    rw [notifyFrameInfo, if_pos rfl, ite_self]
  unfold report
  dsimp only
  rw [hnotify, ite_self]
  exact if_neg fun h => h.1 hscene

end FrameReport

namespace SceneAction

open FrameReport

variable {r : FrameReport} {p q : ℤ} {a : SceneAction}

theorem Backgrounds.not_schedules (h : a.Backgrounds q) : ¬ a.Schedules p := by
  obtain ⟨opens, rfl⟩ := h
  rintro ⟨opens', h⟩
  cases h

theorem Backgrounds.eq (h : a.Backgrounds q) (h' : a.Backgrounds p) : p = q := by
  obtain ⟨opens, rfl⟩ := h
  obtain ⟨opens', h⟩ := h'
  cases h
  rfl

theorem Schedules.eq (h : a.Schedules q) (h' : a.Schedules p) : p = q := by
  obtain ⟨opens, rfl⟩ := h
  obtain ⟨opens', h⟩ := h'
  cases h
  rfl

theorem apply_cases (ha : a.InGame) (hscene : r.sceneType &&& frSceneHwsched = 0) :
    (∃ q, a.Backgrounds q ∧ (a.apply r).sceneType = r.sceneType &&& ~~~frSceneGame) ∨
    (∃ q > 0, a.Schedules q ∧ (a.apply r).sceneType = r.sceneType ||| frSceneGame ∧
      (a.apply r).activelyPid = q) ∨
    ((∀ q, ¬ a.Backgrounds q) ∧ (∀ q > 0, ¬ a.Schedules q) ∧
      (a.apply r).sceneType = r.sceneType ∧ (a.apply r).activelyPid = r.activelyPid) := by
  cases a with
  | setGameScene pid state opens =>
    rcases ha with rfl | rfl | rfl
    · exact Or.inl ⟨pid, ⟨opens, rfl⟩, setGameScene_background r pid opens⟩
    · refine Or.inr (Or.inr ⟨?_, ?_, rfl, rfl⟩)
      · rintro q ⟨opens', h⟩
        cases h
      · rintro q - ⟨opens', h⟩
        cases h
    · by_cases hpid : pid > frDefaultPid
      · have happly : apply r (.setGameScene pid frGameSched opens) =
            { r with activelyPid := pid, sceneType := r.sceneType ||| frSceneGame } := if_pos hpid
        rw [happly]
        exact Or.inr (Or.inl ⟨pid, hpid, ⟨opens, rfl⟩, rfl, rfl⟩)
      · have happly : apply r (.setGameScene pid frGameSched opens) = r := if_neg hpid
        rw [happly]
        refine Or.inr (Or.inr ⟨?_, ?_, rfl, rfl⟩)
        · rintro q ⟨opens', h⟩
          cases h
        · rintro q hq ⟨opens', h⟩
          cases h
          exact hpid hq
  | isActiveGameWithPid pid =>
    have happly : apply r (.isActiveGameWithPid pid) = r := isActiveGameWithPid_quiet hscene pid
    rw [happly]
    exact Or.inr (Or.inr ⟨nofun, nofun, rfl, rfl⟩)
  | setQueueBufferTime uniqueId => exact Or.inr (Or.inr ⟨nofun, nofun, rfl, rfl⟩)
  | report notified reported =>
    obtain ⟨rfl, rfl⟩ := ha
    have happly : apply r (.report true true) = r := report_quiet hscene
    rw [happly]
    exact Or.inr (Or.inr ⟨nofun, nofun, rfl, rfl⟩)

theorem apply_hwsched (ha : a.InGame) (hscene : r.sceneType &&& frSceneHwsched = 0) :
    (a.apply r).sceneType &&& frSceneHwsched = 0 := by
  rcases apply_cases ha hscene with ⟨q, -, htype⟩ | ⟨q, -, -, htype, -⟩ | ⟨-, -, htype, -⟩
  · rw [htype, BitVec.and_assoc, show ~~~frSceneGame &&& frSceneHwsched = frSceneHwsched by decide]
    exact hscene
  · rw [htype, BitVec.and_or_distrib_right, hscene]
    decide
  · rw [htype, hscene]

theorem apply_active (ha : a.InGame) (hscene : r.sceneType &&& frSceneHwsched = 0) (hp : 0 < p) :
    (a.apply r).Active p ↔
      a.Schedules p ∨ r.Active p ∧ ¬ ((∃ q > 0, a.Schedules q) ∨ ∃ q, a.Backgrounds q) := by
  unfold Active
  rcases apply_cases ha hscene with ⟨q, hback, htype⟩ | ⟨q, hq, hsched, htype, hpid⟩ |
    ⟨hback, hsched, htype, hpid⟩
  · rw [htype, game_bit_cleared]
    refine iff_of_false (fun h => h.1 rfl) ?_
    rintro (hsched | ⟨-, hnone⟩)
    · exact hback.not_schedules hsched
    · exact hnone (Or.inr ⟨q, hback⟩)
  · rw [htype, hpid]
    constructor
    · rintro ⟨-, rfl⟩
      exact Or.inl hsched
    · rintro (hsched' | ⟨-, hnone⟩)
      · exact ⟨game_bit_set r, (hsched.eq hsched').symm⟩
      · exact absurd (Or.inl ⟨q, hq, hsched⟩) hnone
  · rw [htype, hpid]
    constructor
    · intro h
      refine Or.inr ⟨h, ?_⟩
      rintro (⟨q, hq, h⟩ | ⟨q, h⟩)
      · exact hsched q hq h
      · exact hback q h
    · rintro (h | ⟨h, -⟩)
      · exact absurd h (hsched p hp)
      · exact h

theorem execute_hwsched {done : List SceneAction} (h : ∀ a ∈ done, a.InGame) :
    (execute apply {} done).sceneType &&& frSceneHwsched = 0 := by
  induction done using List.reverseRecOn with
  | nil => decide
  | append_singleton done a ih =>
    rw [execute_append]
    exact apply_hwsched (h a (by simp)) (ih fun b hb => h b (by simp [hb]))

end SceneAction

open FrameReport

variable {actions done : List SceneAction} {a : SceneAction}

theorem activeIffPlaying_iff (h : ∀ a ∈ done, a.InGame) :
    ActiveIffPlaying done ↔ ∀ p > 0, (execute apply {} done).Active p ↔ Playing p done :=
  forall₂_congr fun _ hp => iff_congr (isActiveGameWithPid_iff (execute_hwsched h) hp) Iff.rfl

theorem activeIffPlaying_append (h : ∀ b ∈ done ++ [a], b.InGame) (hdone : ActiveIffPlaying done) :
    ActiveIffPlaying (done ++ [a]) ↔ ∀ q, a.Backgrounds q → ∀ p > 0, Playing p done → p = q := by
  have hbefore : ∀ b ∈ done, b.InGame := fun b hb => h b (by simp [hb])
  have hscene := execute_hwsched hbefore
  have hstep := (activeIffPlaying_iff hbefore).mp hdone
  rw [activeIffPlaying_iff h, execute_append]
  constructor
  · intro hafter q hback p hp hplaying
    by_contra hne
    have hkept : Playing p (done ++ [a]) := by
      refine playing_append_singleton.mpr (Or.inr ⟨hplaying, ?_⟩)
      rintro (⟨q', -, hsched⟩ | hback')
      · exact hback.not_schedules hsched
      · exact hne (hback.eq hback')
    rcases (apply_active (h a (by simp)) hscene hp).mp ((hafter p hp).mpr hkept) with hsched | ⟨-, hnone⟩
    · exact hback.not_schedules hsched
    · exact hnone (Or.inr ⟨q, hback⟩)
  · intro hcond p hp
    refine (apply_active (h a (by simp)) hscene hp).trans ?_
    rw [playing_append_singleton, hstep p hp]
    refine or_congr_right (and_congr_right fun hplaying => not_congr (or_congr_right ?_))
    constructor
    · rintro ⟨q, hback⟩
      rwa [hcond q hback p hp hplaying]
    · exact fun hback => ⟨p, hback⟩

theorem active_game_follows_schedule (h : ∀ a ∈ actions, a.InGame) :
    (∀ done, done <+: actions → ActiveIffPlaying done) ↔
      ∀ done a, done ++ [a] <+: actions →
        ∀ q, a.Backgrounds q → ∀ p > 0, Playing p done → p = q := by
  have hstart : ActiveIffPlaying [] := by
    intro p hp
    refine iff_of_false ?_ not_since_nil
    rw [isActiveGameWithPid_iff (by decide) hp]
    exact fun h => h.1 rfl
  exact forall_prefix_iff hstart fun done a hpart =>
    activeIffPlaying_append fun b hb => h b (hpart.subset hb)

/-- A process is the active game exactly when the latest scheduling call named it and no background
call, for whatever process, came after. -/
theorem active_game_scheduled_last (h : ∀ a ∈ done, a.InGame) :
    ∀ p > 0, ((execute apply {} done).isActiveGameWithPid p).1 = true ↔ ScheduledLast p done := by
  intro p hp
  rw [isActiveGameWithPid_iff (execute_hwsched h) hp]
  induction done using List.reverseRecOn with
  | nil => exact iff_of_false (fun hactive => hactive.1 rfl) not_since_nil
  | append_singleton done a ih =>
    have hbefore : ∀ b ∈ done, b.InGame := fun b hb => h b (by simp [hb])
    rw [execute_append]
    refine (apply_active (h a (by simp)) (execute_hwsched hbefore) hp).trans ?_
    rw [ih hbefore]
    exact since_append_singleton.symm

/-- One game is scheduled over another and sent to the background. -/
theorem active_game_scheduled_last_takeover :
    ((execute apply {} [.setGameScene 1 frGameSched false, .setGameScene 2 frGameSched false,
      .setGameScene 2 frGameBackground false]).isActiveGameWithPid 1).1 = true ↔
    ScheduledLast 1 [.setGameScene 1 frGameSched false, .setGameScene 2 frGameSched false,
      .setGameScene 2 frGameBackground false] :=
  active_game_scheduled_last (by decide) 1 one_pos

/-- A background call for process 2 while process 1 is playing. -/
theorem background_of_another_deactivates :
    ¬ ActiveIffPlaying
      [.setGameScene 1 frGameSched false, .setGameScene 2 frGameBackground false] := by
  intro h
  have hplaying : Playing 1
      [.setGameScene 1 frGameSched false, .setGameScene 2 frGameBackground false] := by
    refine ⟨[], _, _, rfl, ⟨false, rfl⟩, ?_⟩
    rintro b hb (⟨q, hq, opens, rfl⟩ | ⟨opens, rfl⟩) <;>
      simp [frGameSched, frGameBackground] at hb
  exact absurd ((h 1 one_pos).mpr hplaying) (by decide)

end GraphicSurface
