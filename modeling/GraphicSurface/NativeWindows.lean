import GraphicSurface.SurfaceUtils

/-! A native window lives as long as somebody holds a handle or a reference to it. Three calls hand
windows out, and `NativeWindowReadFromParcel` hands a cached one out without a reference of its
own. -/

namespace GraphicSurface

open Runs

namespace Objects

/-- The strong count of a window is the number of handles and references in the hands of callers. -/
def Held (h : Objects) : Prop := ∀ w, h.windowCount w = h.handles w + h.references w

namespace Held

variable {h : Objects}

theorem unused (hheld : Held h) (hsane : Sane h) {w : ℕ} (hw : h.created ≤ w) :
    h.handles w = 0 ∧ h.references w = 0 := by
  have hcount := hheld w
  rw [hsane.unusedWindow w hw] at hcount
  omega

theorem createNativeWindow (hheld : Held h) (hsane : Sane h) (s : ℕ) :
    Held ((ObjectCall.createNativeWindowFromSurface s).run h) := by
  intro w
  have hcount := hheld w
  change Function.update h.windowCount h.created 1 w = inc h.handles h.created w + h.references w
  rw [inc_apply]
  split_ifs with hw
  · subst hw
    have hunused := hheld.unused hsane le_rfl
    rw [Function.update_self]
    omega
  · rw [Function.update_of_ne hw]
    exact hcount

theorem referenceForHandle (hheld : Held h) (w : ℕ) :
    Held { h.referenceWindow w with handles := inc h.handles w } := by
  intro v
  have hcount := hheld v
  change inc h.windowCount w v = inc h.handles w v + h.references v
  rw [inc_apply, inc_apply]
  split_ifs <;> omega

theorem windowCount_unreference (h : Objects) (w : ℕ) :
    (h.unreferenceWindow w).windowCount = dec h.windowCount w := by
  unfold unreferenceWindow
  split_ifs <;> rfl

theorem unreferenceWindow_callers (h : Objects) (w : ℕ) :
    (h.unreferenceWindow w).handles = h.handles ∧
      (h.unreferenceWindow w).references = h.references := by
  unfold unreferenceWindow
  split_ifs <;> exact ⟨rfl, rfl⟩

theorem unreference (hheld : Held h) {w : ℕ} (hw : 0 < h.references w) :
    Held ((ObjectCall.nativeObjectUnreference w).run h) := by
  intro v
  have hcount := hheld v
  change (h.unreferenceWindow w).windowCount v = (h.unreferenceWindow w).handles v +
    dec h.references w v
  rw [windowCount_unreference, (unreferenceWindow_callers h w).1, dec_apply, dec_apply]
  split_ifs with hv
  · subst hv
    omega
  · exact hcount

theorem destory (hheld : Held h) {w : ℕ} (hw : 0 < h.handles w) :
    Held ((ObjectCall.destoryNativeWindow w).run h) := by
  intro v
  have hcount := hheld v
  change (h.unreferenceWindow w).windowCount v = dec h.handles w v +
    (h.unreferenceWindow w).references v
  rw [windowCount_unreference, (unreferenceWindow_callers h w).2, dec_apply, dec_apply]
  split_ifs with hv
  · subst hv
    omega
  · exact hcount

end Held

end Objects

namespace ObjectCall

open Objects

/-- The call finds a window of the id in the cache. -/
def readsCached (h : Objects) : ObjectCall → Prop
  | nativeWindowReadFromParcel uniqueId => (h.nativeWindowCache uniqueId).isSome
  | _ => False

instance (h : Objects) (c : ObjectCall) : Decidable (c.readsCached h) := by
  apply ObjectCall.casesOn (motive := fun c => Decidable (c.readsCached h)) c <;> intros <;>
    unfold readsCached <;> infer_instance

variable {h : Objects} {c : ObjectCall}

theorem held_step (hheld : Held h) (hvalid : Valid h) (hallowed : c.Allowed h)
    (hok : ¬ c.readsCached h) : Held (c.run h) := by
  cases c with
  | createSurfaceAsProducer | createSurfaceAsConsumer | copySurface | dropSurface => exact hheld
  | getSurface uniqueId =>
    rcases run_getSurface h uniqueId with hsame | ⟨s, -, hrun⟩
    · rw [hsame]
      exact hheld
    · rw [hrun]
      exact hheld
  | createNativeWindowFromSurface s => exact hheld.createNativeWindow hvalid.sane s
  | createNativeWindowFromSurfaceId uniqueId =>
    rcases run_createFromId h uniqueId with ⟨w, -, hrun⟩ | hsame | ⟨s, -, -, hrun⟩
    · rw [hrun]
      exact hheld.referenceForHandle w
    · rw [hsame]
      exact hheld
    · rw [hrun]
      exact hheld.createNativeWindow hvalid.sane s
  | nativeWindowReadFromParcel uniqueId =>
    have hnone : h.nativeWindowCache uniqueId = none := by simpa [readsCached] using hok
    have hcreate : Held ((createSurfaceAsProducer uniqueId).run h) := hheld
    have hsane := (hvalid.createSurfaceAsProducer uniqueId).sane
    rw [run_read_of_none hnone]
    exact hcreate.createNativeWindow hsane h.created
  | nativeObjectReference w =>
    intro v
    have hcount := hheld v
    change inc h.windowCount w v = h.handles v + inc h.references w v
    rw [inc_apply, inc_apply]
    split_ifs <;> omega
  | nativeObjectUnreference w => exact hheld.unreference hallowed.1
  | destoryNativeWindow w => exact hheld.destory hallowed.1

theorem not_held_of_readsCached (hheld : Held h) (hcached : c.readsCached h) :
    ¬ Held (c.run h) := by
  cases c with
  | nativeWindowReadFromParcel uniqueId =>
    obtain ⟨w, hw⟩ := Option.isSome_iff_exists.mp hcached
    rw [run_read_of_some hw]
    intro hafter
    have hcount := hheld w
    have hcount' := hafter w
    change h.windowCount w = inc h.handles w w + h.references w at hcount'
    rw [inc_apply, if_pos rfl] at hcount'
    omega
  | _ => exact hcached.elim

end ObjectCall

open Objects

/-- In a run in which no window is read from a parcel while one of its id is cached, a window is
alive exactly while a handle or a reference to it is out; and a call counts what it hands out
exactly when it is not such a read. -/
theorem windows_live_while_held {calls : List ObjectCall} {h : Objects}
    (run : Run (restrict ObjectStep fun h c => ¬ c.readsCached h) {} calls h) :
    (∀ w, 0 < h.windowCount w ↔ 0 < h.handles w + h.references w) ∧
      ∀ c h', ObjectStep h c h' →
        ((∀ w, h'.windowCount w = h'.handles w + h'.references w) ↔ ¬ c.readsCached h) := by
  have hstart : Held {} := fun _ => rfl
  have hinv : Valid h ∧ Held h := by
    refine run.invariant₂ ?_ ?_ Valid.start hstart
    · rintro h c _ hvalid ⟨⟨hallowed, rfl⟩, -⟩
      exact hvalid.step hallowed
    · rintro h c _ hvalid hheld ⟨⟨hallowed, rfl⟩, hok⟩
      exact ObjectCall.held_step hheld hvalid hallowed hok
  obtain ⟨hvalid, hheld⟩ := hinv
  refine ⟨fun w => by rw [hheld w], ?_⟩
  rintro c h' ⟨hallowed, rfl⟩
  constructor
  · intro hafter hcached
    exact ObjectCall.not_held_of_readsCached hheld hcached hafter
  · intro hok
    exact ObjectCall.held_step hheld hvalid hallowed hok

def shareById : List ObjectCall :=
  [.createSurfaceAsProducer 7, .createNativeWindowFromSurface 0, .createNativeWindowFromSurfaceId 7,
    .destoryNativeWindow 1]

theorem windows_live_while_held_shareById :
    0 < (execute (fun h c => ObjectCall.run h c) {} shareById).windowCount 1 ↔
      0 < (execute (fun h c => ObjectCall.run h c) {} shareById).handles 1 +
        (execute (fun h c => ObjectCall.run h c) {} shareById).references 1 := by
  have legal : Legal (fun h c => ObjectCall.run h c) (fun h c => c.Allowed h ∧ ¬ c.readsCached h)
      {} shareById := by decide
  exact (windows_live_while_held
    (.of_legal (fun _ _ hok => ⟨⟨hok.1, rfl⟩, hok.2⟩) legal)).1 1

/-- The same window read from a parcel: the first of its two owners destroys it for both. -/
theorem read_window_destroyed_early :
    ¬ ∀ (calls : List ObjectCall) (h : Objects), Run ObjectStep {} calls h →
      ∀ w, 0 < h.windowCount w ↔ 0 < h.handles w + h.references w := by
  intro hall
  have legal : Legal (fun h c => ObjectCall.run h c) (fun h c => c.Allowed h) {}
      [.createSurfaceAsProducer 7, .createNativeWindowFromSurface 0, .nativeWindowReadFromParcel 7,
        .destoryNativeWindow 1] := by decide
  have hlive := hall _ _ (.of_legal (fun _ _ hok => ⟨hok, rfl⟩) legal) 1
  revert hlive
  decide

end GraphicSurface
