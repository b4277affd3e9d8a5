import GraphicSurface.Registry
import GraphicSurface.Runs

/-! The surfaces and native windows of one process: the reference counts of `RefBase`, the two
caches of `SurfaceUtils`, and the calls that create, share and give up the objects. An object is
alive while its strong count is positive; the destructor runs in the call that takes the last
reference. Object numbers are never used twice. -/

namespace GraphicSurface

open Runs

/-- `sptrs` counts the smart pointers to a surface in the hands of callers, `handles` and
`references` what they got from the creating calls and from `NativeObjectReference`; `stored` marks
the windows that `AddNativeWindow` put in the cache. No call branches on the last one. -/
structure Objects where
  created : ℕ := 0
  uniqueId : ℕ → ℕ := fun _ => 0
  isConsumer : ℕ → Bool := fun _ => false
  surfaceCount : ℕ → ℕ := fun _ => 0
  windowSurface : ℕ → ℕ := fun _ => 0
  windowCount : ℕ → ℕ := fun _ => 0
  surfaceCache : ℕ → Option ℕ := fun _ => none
  nativeWindowCache : ℕ → Option ℕ := fun _ => none
  sptrs : ℕ → ℕ := fun _ => 0
  handles : ℕ → ℕ := fun _ => 0
  references : ℕ → ℕ := fun _ => 0
  stored : ℕ → Bool := fun _ => false

/-- One more, and one less, of what is counted for `o`. -/
def inc (count : ℕ → ℕ) (o : ℕ) : ℕ → ℕ := Function.update count o (count o + 1)
def dec (count : ℕ → ℕ) (o : ℕ) : ℕ → ℕ := Function.update count o (count o - 1)

theorem inc_apply (count : ℕ → ℕ) (o p : ℕ) :
    inc count o p = if p = o then count p + 1 else count p := by
  unfold inc
  rw [Function.update_apply]
  split_ifs with h
  · rw [h]
  · rfl

theorem dec_apply (count : ℕ → ℕ) (o p : ℕ) :
    dec count o p = if p = o then count p - 1 else count p := by
  unfold dec
  rw [Function.update_apply]
  split_ifs with h
  · rw [h]
  · rfl

theorem dec_inc (count : ℕ → ℕ) (o : ℕ) : dec (inc count o) o = count := by
  funext p
  rw [dec_apply, inc_apply]
  split_ifs <;> omega

namespace Objects

/-- `SurfaceUtils::GetSurface`: a weak pointer is promoted while its object lives. -/
def getSurface (h : Objects) (uniqueId : ℕ) : Option ℕ :=
  match h.surfaceCache uniqueId with
  | none => none
  | some s => if 0 < h.surfaceCount s then some s else none

def getNativeWindow (h : Objects) (uniqueId : ℕ) : Option ℕ := h.nativeWindowCache uniqueId

def newSurface (h : Objects) (uniqueId : ℕ) (isConsumer : Bool) : Objects :=
  { h with
    created := h.created + 1
    uniqueId := Function.update h.uniqueId h.created uniqueId
    isConsumer := Function.update h.isConsumer h.created isConsumer
    surfaceCount := Function.update h.surfaceCount h.created 1 }

/-- The new surface is number `h.created`; `Init` gives it the id of the queue. -/
def createSurfaceAsProducer (h : Objects) (uniqueId : ℕ) : Objects :=
  { h.newSurface uniqueId false with
    surfaceCache := Registry.add h.surfaceCache uniqueId h.created }

def holdSurface (h : Objects) (s : ℕ) : Objects := { h with surfaceCount := inc h.surfaceCount s }

/-- The last pointer runs `~ProducerSurface`, which calls `Remove` with its id. -/
def dropSurface (h : Objects) (s : ℕ) : Objects :=
  { h with
    surfaceCount := dec h.surfaceCount s
    surfaceCache :=
      if h.surfaceCount s = 1 ∧ h.isConsumer s = false then
        Registry.erase h.surfaceCache (h.uniqueId s)
      else h.surfaceCache }

/-- A new window, number `h.created`, with one reference, and `AddNativeWindow` of it. -/
def newWindow (h : Objects) (s : ℕ) : Objects :=
  { h.holdSurface s with
    created := h.created + 1
    windowSurface := Function.update h.windowSurface h.created s
    windowCount := Function.update h.windowCount h.created 1
    nativeWindowCache := Registry.add h.nativeWindowCache (h.uniqueId s) h.created
    stored := Function.update h.stored h.created (h.nativeWindowCache (h.uniqueId s)).isNone }

def windowId (h : Objects) (w : ℕ) : ℕ := h.uniqueId (h.windowSurface w)

/-- `IncStrongRef` of a window. -/
def referenceWindow (h : Objects) (w : ℕ) : Objects := { h with windowCount := inc h.windowCount w }

/-- The window without its last reference: `~NativeWindow` before it lets its surface go. -/
def closeWindow (h : Objects) (w : ℕ) : Objects :=
  { h with
    windowCount := dec h.windowCount w
    nativeWindowCache := Registry.erase h.nativeWindowCache (h.windowId w) }

/-- `DecStrongRef` of a window. -/
def unreferenceWindow (h : Objects) (w : ℕ) : Objects :=
  if h.windowCount w = 1 then (h.closeWindow w).dropSurface (h.windowSurface w)
  else { h with windowCount := dec h.windowCount w }

def createNativeWindowFromSurface (h : Objects) (s : ℕ) : Objects × Option ℕ :=
  (h.newWindow s, some h.created)

def createNativeWindowFromSurfaceId (h : Objects) (uniqueId : ℕ) : Objects × Option ℕ :=
  match h.getNativeWindow uniqueId with
  | some w => (h.referenceWindow w, some w)
  | none =>
    match h.getSurface uniqueId with
    | none => (h, none)
    | some s => h.createNativeWindowFromSurface s

/-- The parcel holds the producer of a queue. The surface made for it is a local variable. -/
def nativeWindowReadFromParcel (h : Objects) (uniqueId : ℕ) : Objects × Option ℕ :=
  let windowSurface := h.created
  let h := h.createSurfaceAsProducer uniqueId
  match h.getNativeWindow uniqueId with
  | some w => (h.dropSurface windowSurface, some w)
  | none =>
    match h.createNativeWindowFromSurface windowSurface with
    | (h, w) => (h.dropSurface windowSurface, w)

def keepHandle (r : Objects × Option ℕ) : Objects :=
  match r.2 with
  | none => r.1
  | some w => { r.1 with handles := inc r.1.handles w }

end Objects

inductive ObjectCall
  | createSurfaceAsProducer (uniqueId : ℕ)
  | createSurfaceAsConsumer (uniqueId : ℕ)
  | copySurface (s : ℕ)
  | dropSurface (s : ℕ)
  | getSurface (uniqueId : ℕ)
  | createNativeWindowFromSurface (s : ℕ)
  | createNativeWindowFromSurfaceId (uniqueId : ℕ)
  | nativeWindowReadFromParcel (uniqueId : ℕ)
  | nativeObjectReference (w : ℕ)
  | nativeObjectUnreference (w : ℕ)
  | destoryNativeWindow (w : ℕ)

namespace ObjectCall

open Objects

/-- What a caller must have before it makes the call: a pointer to the surface, a handle or a
reference to give up, and a window that is not destroyed yet. -/
def Allowed (h : Objects) : ObjectCall → Prop
  | copySurface s | dropSurface s | createNativeWindowFromSurface s => 0 < h.sptrs s
  | nativeObjectReference w => 0 < h.handles w + h.references w ∧ 0 < h.windowCount w
  | nativeObjectUnreference w => 0 < h.references w ∧ 0 < h.windowCount w
  | destoryNativeWindow w => 0 < h.handles w ∧ 0 < h.windowCount w
  | _ => True

def run (h : Objects) : ObjectCall → Objects
  | createSurfaceAsProducer uniqueId =>
    { h.createSurfaceAsProducer uniqueId with sptrs := inc h.sptrs h.created }
  | createSurfaceAsConsumer uniqueId =>
    { h.newSurface uniqueId true with sptrs := inc h.sptrs h.created }
  | copySurface s => { h.holdSurface s with sptrs := inc h.sptrs s }
  | dropSurface s => { h.dropSurface s with sptrs := dec h.sptrs s }
  | getSurface uniqueId =>
    match h.getSurface uniqueId with
    | none => h
    | some s => { h.holdSurface s with sptrs := inc h.sptrs s }
  | createNativeWindowFromSurface s => keepHandle (h.createNativeWindowFromSurface s)
  | createNativeWindowFromSurfaceId uniqueId =>
    keepHandle (h.createNativeWindowFromSurfaceId uniqueId)
  | nativeWindowReadFromParcel uniqueId => keepHandle (h.nativeWindowReadFromParcel uniqueId)
  | nativeObjectReference w => { h.referenceWindow w with references := inc h.references w }
  | nativeObjectUnreference w => { h.unreferenceWindow w with references := dec h.references w }
  | destoryNativeWindow w => { h.unreferenceWindow w with handles := dec h.handles w }

instance (h : Objects) (c : ObjectCall) : Decidable (c.Allowed h) := by
  apply ObjectCall.casesOn (motive := fun c => Decidable (c.Allowed h)) c <;> intros <;>
    unfold Allowed <;> infer_instance

end ObjectCall

def ObjectStep (h : Objects) (c : ObjectCall) (h' : Objects) : Prop := c.Allowed h ∧ h' = c.run h

namespace Objects

variable {h : Objects}

/-- A live `ProducerSurface`: only `CreateSurfaceAsProducer` makes one. -/
def registered (h : Objects) (s : ℕ) : Prop := 0 < h.surfaceCount s ∧ h.isConsumer s = false

/-- A live window that `AddNativeWindow` put in the cache. -/
def cached (h : Objects) (w : ℕ) : Prop := 0 < h.windowCount w ∧ h.stored w = true

def windowsOn (h : Objects) (s : ℕ) : Finset ℕ :=
  (Finset.range h.created).filter fun w => 0 < h.windowCount w ∧ h.windowSurface w = s

theorem mem_windowsOn {w s : ℕ} :
    w ∈ h.windowsOn s ↔ w < h.created ∧ 0 < h.windowCount w ∧ h.windowSurface w = s := by
  simp [windowsOn]

/-- What every call keeps: the numbers to come are unused, and the two caches refer to live objects
of their ids. -/
structure Sane (h : Objects) : Prop where
  unusedSurface : ∀ s, h.created ≤ s → h.surfaceCount s = 0
  unusedWindow : ∀ w, h.created ≤ w → h.windowCount w = 0
  surface_lt : ∀ w, 0 < h.windowCount w → h.windowSurface w < h.created
  surfaces : Registry.Sound h.uniqueId h.registered h.surfaceCache
  windows : Registry.Sound h.windowId h.cached h.nativeWindowCache

namespace Sane

theorem lt_of_surface (hsane : Sane h) {s : ℕ} (hs : 0 < h.surfaceCount s) : s < h.created := by
  by_contra hge
  rw [hsane.unusedSurface s (not_lt.mp hge)] at hs
  exact lt_irrefl 0 hs

theorem lt_of_window (hsane : Sane h) {w : ℕ} (hw : 0 < h.windowCount w) : w < h.created := by
  by_contra hge
  rw [hsane.unusedWindow w (not_lt.mp hge)] at hw
  exact lt_irrefl 0 hw

theorem newSurface (hsane : Sane h) (uniqueId : ℕ) (isConsumer : Bool) :
    Sane (h.newSurface uniqueId isConsumer) where
  unusedSurface s hs := by
    have hne : s ≠ h.created := by
      rintro rfl
      exact absurd hs (Nat.not_succ_le_self _)
    exact (Function.update_of_ne hne _ _).trans (hsane.unusedSurface s (Nat.le_of_succ_le hs))
  unusedWindow w hw := hsane.unusedWindow w (Nat.le_of_succ_le hw)
  surface_lt w hw := Nat.lt_succ_of_lt (hsane.surface_lt w hw)
  surfaces := by
    have hne : ∀ s, h.registered s → s ≠ h.created := fun s hs => (hsane.lt_of_surface hs.1).ne
    refine hsane.surfaces.mono (fun s hs => Function.update_of_ne (hne s hs) _ _) fun s hs => ?_
    refine ⟨?_, ?_⟩
    · exact hs.1.trans_eq (Function.update_of_ne (hne s hs) 1 h.surfaceCount).symm
    · exact (Function.update_of_ne (hne s hs) _ _).trans hs.2
  windows := by
    refine hsane.windows.mono (fun w hw => ?_) fun w hw => hw
    exact Function.update_of_ne (hsane.surface_lt w hw.1).ne _ _

theorem createSurfaceAsProducer (hsane : Sane h) (uniqueId : ℕ) :
    Sane (h.createSurfaceAsProducer uniqueId) := by
  have hnew := hsane.newSurface uniqueId false
  have hid : (h.newSurface uniqueId false).uniqueId h.created = uniqueId := Function.update_self _ _ _
  have hlive : (h.newSurface uniqueId false).registered h.created := by
    refine ⟨?_, Function.update_self _ _ _⟩
    exact Nat.one_pos.trans_eq (Function.update_self h.created 1 h.surfaceCount).symm
  have hadd := hnew.surfaces.add hlive
  rw [hid] at hadd
  exact ⟨hnew.unusedSurface, hnew.unusedWindow, hnew.surface_lt, hadd, hnew.windows⟩

theorem holdSurface (hsane : Sane h) {s : ℕ} (hs : s < h.created) : Sane (h.holdSurface s) where
  unusedSurface r hr := by
    have hne : r ≠ s := (lt_of_lt_of_le hs hr).ne'
    exact (Function.update_of_ne hne _ _).trans (hsane.unusedSurface r hr)
  unusedWindow := hsane.unusedWindow
  surface_lt := hsane.surface_lt
  surfaces := hsane.surfaces.mono (fun _ _ => rfl) fun r hr => by
    refine ⟨?_, hr.2⟩
    have hlive := hr.1
    change 0 < inc h.surfaceCount s r
    rw [inc_apply]
    split_ifs <;> omega
  windows := hsane.windows

theorem dropSurface (hsane : Sane h) (s : ℕ) : Sane (h.dropSurface s) where
  unusedSurface r hr := by
    have hzero := hsane.unusedSurface r hr
    change dec h.surfaceCount s r = 0
    rw [dec_apply]
    split_ifs <;> omega
  unusedWindow := hsane.unusedWindow
  surface_lt := hsane.surface_lt
  surfaces := by
    have hother : ∀ r, h.registered r → r ≠ s ∨ h.surfaceCount s ≠ 1 →
        (h.dropSurface s).registered r := by
      rintro r ⟨hlive, hproducer⟩ hne
      refine ⟨?_, hproducer⟩
      change 0 < dec h.surfaceCount s r
      rw [dec_apply]
      split_ifs with hr
      · subst hr
        omega
      · exact hlive
    change Registry.Sound h.uniqueId _ (if h.surfaceCount s = 1 ∧ h.isConsumer s = false then
      Registry.erase h.surfaceCache (h.uniqueId s) else h.surfaceCache)
    split_ifs with hlast
    · exact hsane.surfaces.erase fun r hr hne => hother r hr (.inl fun hrs => hne (by rw [hrs]))
    · refine hsane.surfaces.mono (fun _ _ => rfl) fun r hr => hother r hr ?_
      by_contra hsame
      rw [not_or, not_not, not_not] at hsame
      obtain ⟨rfl, hcount⟩ := hsame
      exact hlast ⟨hcount, hr.2⟩
  windows := hsane.windows

theorem newWindow (hsane : Sane h) {s : ℕ} (hs : s < h.created) : Sane (h.newWindow s) := by
  have hhold := hsane.holdSurface hs
  have hne : ∀ w, 0 < h.windowCount w → w ≠ h.created := fun w hw => (hsane.lt_of_window hw).ne
  have hsound : Registry.Sound (h.newWindow s).windowId (h.newWindow s).cached
      h.nativeWindowCache := by
    refine hsane.windows.mono (fun w hw => ?_) fun w hw => ⟨?_, ?_⟩
    · exact congrArg h.uniqueId (Function.update_of_ne (hne w hw.1) _ _)
    · exact hw.1.trans_eq (Function.update_of_ne (hne w hw.1) 1 h.windowCount).symm
    · exact (Function.update_of_ne (hne w hw.1) _ _).trans hw.2
  refine ⟨fun r hr => hhold.unusedSurface r (Nat.le_of_succ_le hr), fun w hw => ?_, fun w hw => ?_,
    hhold.surfaces, ?_⟩
  · have hw' : w ≠ h.created := by
      rintro rfl
      exact absurd hw (Nat.not_succ_le_self _)
    exact (Function.update_of_ne hw' _ _).trans (hsane.unusedWindow w (Nat.le_of_succ_le hw))
  · change Function.update h.windowSurface h.created s w < h.created + 1
    by_cases hw' : w = h.created
    · rw [hw', Function.update_self]
      omega
    · rw [Function.update_of_ne hw']
      have hlive : 0 < h.windowCount w := by
        rwa [show (h.newWindow s).windowCount w = h.windowCount w from
          Function.update_of_ne hw' _ _] at hw
      exact Nat.lt_succ_of_lt (hsane.surface_lt w hlive)
  · have hid : (h.newWindow s).windowId h.created = h.uniqueId s :=
      congrArg h.uniqueId (Function.update_self _ _ _)
    change Registry.Sound _ _ (Registry.add h.nativeWindowCache (h.uniqueId s) h.created)
    cases hentry : h.nativeWindowCache (h.uniqueId s) with
    | some w =>
      rw [Registry.add_of_some hentry]
      exact hsound
    | none =>
      have hcached : (h.newWindow s).cached h.created := by
        refine ⟨Nat.one_pos.trans_eq (Function.update_self h.created 1 h.windowCount).symm, ?_⟩
        refine (Function.update_self _ _ _).trans ?_
        rw [hentry]
        rfl
      rw [← hid]
      exact hsound.add hcached

theorem referenceWindow (hsane : Sane h) {w : ℕ} (hw : 0 < h.windowCount w) :
    Sane (h.referenceWindow w) where
  unusedSurface := hsane.unusedSurface
  unusedWindow v hv := by
    have hne : v ≠ w := (lt_of_lt_of_le (hsane.lt_of_window hw) hv).ne'
    exact (Function.update_of_ne hne _ _).trans (hsane.unusedWindow v hv)
  surface_lt v hv := by
    refine hsane.surface_lt v ?_
    change 0 < inc h.windowCount w v at hv
    rw [inc_apply] at hv
    split_ifs at hv with hvw
    · rwa [hvw]
    · exact hv
  surfaces := hsane.surfaces
  windows := hsane.windows.mono (fun _ _ => rfl) fun v hv => by
    refine ⟨?_, hv.2⟩
    have hlive := hv.1
    change 0 < inc h.windowCount w v
    rw [inc_apply]
    split_ifs <;> omega

theorem closeWindow (hsane : Sane h) (w : ℕ) : Sane (h.closeWindow w) where
  unusedSurface := hsane.unusedSurface
  unusedWindow v hv := by
    have hzero := hsane.unusedWindow v hv
    change dec h.windowCount w v = 0
    rw [dec_apply]
    split_ifs <;> omega
  surface_lt v hv := by
    refine hsane.surface_lt v ?_
    change 0 < dec h.windowCount w v at hv
    rw [dec_apply] at hv
    split_ifs at hv <;> omega
  surfaces := hsane.surfaces
  windows := by
    refine hsane.windows.erase fun v hv hne => ⟨?_, hv.2⟩
    change 0 < dec h.windowCount w v
    rw [dec_apply, if_neg fun hvw => hne (by rw [hvw])]
    exact hv.1

theorem unreferenceWindow (hsane : Sane h) (w : ℕ) : Sane (h.unreferenceWindow w) := by
  unfold Objects.unreferenceWindow
  split_ifs with hlast
  · exact (hsane.closeWindow w).dropSurface _
  · have hclose := hsane.closeWindow w
    refine ⟨hclose.unusedSurface, hclose.unusedWindow, hclose.surface_lt, hclose.surfaces, ?_⟩
    refine hsane.windows.mono (fun _ _ => rfl) fun v hv => ⟨?_, hv.2⟩
    have hlive := hv.1
    change 0 < dec h.windowCount w v
    rw [dec_apply]
    split_ifs with hvw
    · subst hvw
      omega
    · exact hlive

end Sane

/-- The strong count of a surface is the number of pointers to it. -/
def Owned (h : Objects) : Prop := ∀ s, h.surfaceCount s = h.sptrs s + (h.windowsOn s).card

theorem windowsOn_newSurface (hsane : Sane h) (uniqueId : ℕ) (isConsumer : Bool) (s : ℕ) :
    (h.newSurface uniqueId isConsumer).windowsOn s = h.windowsOn s := by
  ext w
  rw [mem_windowsOn, mem_windowsOn]
  constructor
  · rintro ⟨-, hlive, hs⟩
    exact ⟨hsane.lt_of_window hlive, hlive, hs⟩
  · rintro ⟨hlt, hlive, hs⟩
    exact ⟨Nat.lt_succ_of_lt hlt, hlive, hs⟩

theorem windowsOn_newWindow (hsane : Sane h) (s r : ℕ) :
    (h.newWindow s).windowsOn r = if r = s then insert h.created (h.windowsOn r) else h.windowsOn r := by
  ext w
  have hiff : w ∈ (h.newWindow s).windowsOn r ↔ w = h.created ∧ r = s ∨ w ∈ h.windowsOn r := by
    rw [mem_windowsOn, mem_windowsOn]
    change w < h.created + 1 ∧ 0 < Function.update h.windowCount h.created 1 w ∧
      Function.update h.windowSurface h.created s w = r ↔ _
    by_cases hw : w = h.created
    · subst hw
      rw [Function.update_self, Function.update_self]
      simp [eq_comm]
    · rw [Function.update_of_ne hw, Function.update_of_ne hw]
      constructor
      · rintro ⟨-, hlive, hs⟩
        exact .inr ⟨hsane.lt_of_window hlive, hlive, hs⟩
      · rintro (⟨rfl, -⟩ | ⟨hlt, hlive, hs⟩)
        · exact absurd rfl hw
        · exact ⟨by omega, hlive, hs⟩
  rw [hiff]
  split_ifs with hr <;> simp [hr]

theorem windowsOn_closeWindow {w : ℕ} (hlast : h.windowCount w = 1) (s : ℕ) :
    (h.closeWindow w).windowsOn s = (h.windowsOn s).erase w := by
  ext v
  rw [Finset.mem_erase, mem_windowsOn, mem_windowsOn]
  change v < h.created ∧ 0 < dec h.windowCount w v ∧ h.windowSurface v = s ↔ _
  rw [dec_apply]
  split_ifs with hv
  · subst hv
    rw [hlast]
    simp
  · simp [hv]

theorem windowsOn_congr {g : Objects} (hcreated : g.created = h.created)
    (hsurface : g.windowSurface = h.windowSurface)
    (hlive : ∀ w, 0 < g.windowCount w ↔ 0 < h.windowCount w) (s : ℕ) :
    g.windowsOn s = h.windowsOn s := by
  ext w
  rw [mem_windowsOn, mem_windowsOn, hcreated, hsurface, hlive]

namespace Owned

theorem unused (howned : Owned h) (hsane : Sane h) {s : ℕ} (hs : h.created ≤ s) :
    h.sptrs s = 0 ∧ (h.windowsOn s).card = 0 := by
  have hcount := howned s
  rw [hsane.unusedSurface s hs] at hcount
  omega

theorem live (howned : Owned h) {s : ℕ} (hs : 0 < h.sptrs s) : 0 < h.surfaceCount s := by
  have hcount := howned s
  omega

theorem newSurface (howned : Owned h) (hsane : Sane h) {g : Objects} (uniqueId : ℕ)
    (isConsumer : Bool) (hcount : g.surfaceCount = (h.newSurface uniqueId isConsumer).surfaceCount)
    (hwindows : ∀ s, g.windowsOn s = (h.newSurface uniqueId isConsumer).windowsOn s)
    (hsptrs : g.sptrs = inc h.sptrs h.created) : Owned g := by
  intro s
  rw [hwindows, windowsOn_newSurface hsane, hcount, hsptrs, inc_apply]
  change Function.update h.surfaceCount h.created 1 s = _
  split_ifs with hs
  · subst hs
    have hunused := howned.unused hsane le_rfl
    rw [Function.update_self]
    omega
  · rw [Function.update_of_ne hs]
    exact howned s

theorem holdSurface (howned : Owned h) (s : ℕ) :
    Owned { h.holdSurface s with sptrs := inc h.sptrs s } := by
  intro r
  have hcount := howned r
  change inc h.surfaceCount s r = inc h.sptrs s r + (h.windowsOn r).card
  rw [inc_apply, inc_apply]
  split_ifs <;> omega

theorem dropSurface (howned : Owned h) {s : ℕ} (hs : 0 < h.sptrs s) :
    Owned { h.dropSurface s with sptrs := dec h.sptrs s } := by
  intro r
  have hcount := howned r
  change dec h.surfaceCount s r = dec h.sptrs s r + (h.windowsOn r).card
  rw [dec_apply, dec_apply]
  split_ifs with hr
  · subst hr
    omega
  · exact hcount

theorem newWindow (howned : Owned h) (hsane : Sane h) (s : ℕ) : Owned (h.newWindow s) := by
  intro r
  have hcount := howned r
  have hnew : h.created ∉ h.windowsOn r := fun hmem => lt_irrefl _ (mem_windowsOn.mp hmem).1
  rw [windowsOn_newWindow hsane]
  change inc h.surfaceCount s r = h.sptrs r + _
  rw [inc_apply]
  split_ifs with hr
  · rw [Finset.card_insert_of_notMem hnew]
    omega
  · exact hcount

theorem congr (howned : Owned h) {g : Objects} (hcount : g.surfaceCount = h.surfaceCount)
    (hsptrs : g.sptrs = h.sptrs) (hwindows : ∀ s, g.windowsOn s = h.windowsOn s) : Owned g := by
  intro s
  rw [hcount, hsptrs, hwindows]
  exact howned s

theorem unreferenceWindow (howned : Owned h) (hsane : Sane h) {w : ℕ} (hw : 0 < h.windowCount w) :
    Owned (h.unreferenceWindow w) := by
  unfold Objects.unreferenceWindow
  split_ifs with hlast
  · intro s
    have hcount := howned s
    have hclose := windowsOn_closeWindow hlast s
    change dec h.surfaceCount (h.windowSurface w) s =
      h.sptrs s + ((h.closeWindow w).windowsOn s).card
    rw [hclose, dec_apply]
    split_ifs with hs
    · subst hs
      have hmem : w ∈ h.windowsOn (h.windowSurface w) :=
        mem_windowsOn.mpr ⟨hsane.lt_of_window hw, hw, rfl⟩
      have hpos := Finset.card_pos.mpr ⟨w, hmem⟩
      rw [Finset.card_erase_of_mem hmem]
      omega
    · have hnot : w ∉ h.windowsOn s := fun hmem => hs (mem_windowsOn.mp hmem).2.2.symm
      rw [Finset.erase_eq_of_notMem hnot]
      exact hcount
  · refine howned.congr rfl rfl (windowsOn_congr rfl rfl fun v => ?_)
    change 0 < dec h.windowCount w v ↔ _
    rw [dec_apply]
    split_ifs with hv
    · subst hv
      omega
    · rfl

end Owned

theorem getSurface_eq_some {uniqueId s : ℕ} (hget : h.getSurface uniqueId = some s) :
    h.surfaceCache uniqueId = some s ∧ 0 < h.surfaceCount s := by
  unfold getSurface at hget
  split at hget
  · simp at hget
  · rename_i r hr
    split_ifs at hget with hlive
    cases hget
    exact ⟨hr, hlive⟩

theorem getSurface_of_registered {uniqueId s : ℕ} (hentry : h.surfaceCache uniqueId = some s)
    (hlive : 0 < h.surfaceCount s) : h.getSurface uniqueId = some s := by
  unfold getSurface
  rw [hentry]
  exact if_pos hlive

end Objects

namespace ObjectCall

open Objects

variable {h h' : Objects} {c : ObjectCall}

theorem run_read_of_some {uniqueId w : ℕ} (hw : h.nativeWindowCache uniqueId = some w) :
    (nativeWindowReadFromParcel uniqueId).run h =
      { (dropSurface h.created).run ((createSurfaceAsProducer uniqueId).run h) with
        handles := inc h.handles w } := by
  have hget : (h.createSurfaceAsProducer uniqueId).getNativeWindow uniqueId = some w := hw
  simp only [run, Objects.nativeWindowReadFromParcel, hget, keepHandle, dec_inc]
  rfl

theorem run_read_of_none {uniqueId : ℕ} (hnone : h.nativeWindowCache uniqueId = none) :
    (nativeWindowReadFromParcel uniqueId).run h =
      (dropSurface h.created).run ((createNativeWindowFromSurface h.created).run
        ((createSurfaceAsProducer uniqueId).run h)) := by
  have hget : (h.createSurfaceAsProducer uniqueId).getNativeWindow uniqueId = none := hnone
  simp only [run, Objects.nativeWindowReadFromParcel, hget, keepHandle,
    Objects.createNativeWindowFromSurface]
  have hsptrs := dec_inc h.sptrs h.created
  change _ = Objects.mk _ _ _ _ _ _ _ _ (dec (inc h.sptrs h.created) h.created) _ _ _
  rw [hsptrs]
  rfl

theorem run_getSurface (h : Objects) (uniqueId : ℕ) :
    (getSurface uniqueId).run h = h ∨ ∃ s, h.getSurface uniqueId = some s ∧
      (getSurface uniqueId).run h = { h.holdSurface s with sptrs := inc h.sptrs s } := by
  cases hget : h.getSurface uniqueId with
  | none => exact .inl (by simp only [run, hget])
  | some s => exact .inr ⟨s, rfl, by simp only [run, hget]⟩

theorem run_createFromId (h : Objects) (uniqueId : ℕ) :
    (∃ w, h.nativeWindowCache uniqueId = some w ∧
      (createNativeWindowFromSurfaceId uniqueId).run h =
        { h.referenceWindow w with handles := inc h.handles w }) ∨
    (createNativeWindowFromSurfaceId uniqueId).run h = h ∨
    ∃ s, h.nativeWindowCache uniqueId = none ∧ h.getSurface uniqueId = some s ∧
      (createNativeWindowFromSurfaceId uniqueId).run h =
        (createNativeWindowFromSurface s).run h := by
  cases hw : h.nativeWindowCache uniqueId with
  | some w =>
    have hget : h.getNativeWindow uniqueId = some w := hw
    refine .inl ⟨w, rfl, ?_⟩
    simp only [run, Objects.createNativeWindowFromSurfaceId, hget, keepHandle]
    rfl
  | none =>
    have hget : h.getNativeWindow uniqueId = none := hw
    cases hs : h.getSurface uniqueId with
    | none =>
      refine .inr (.inl ?_)
      simp only [run, Objects.createNativeWindowFromSurfaceId, hget, hs, keepHandle]
    | some s =>
      refine .inr (.inr ⟨s, rfl, rfl, ?_⟩)
      simp only [run, Objects.createNativeWindowFromSurfaceId, hget, hs]

end ObjectCall

namespace Objects

structure Valid (h : Objects) : Prop where
  sane : Sane h
  owned : Owned h

variable {h : Objects}

theorem Sane.of_sptrs (hsane : Sane h) (sptrs : ℕ → ℕ) : Sane { h with sptrs := sptrs } :=
  ⟨hsane.unusedSurface, hsane.unusedWindow, hsane.surface_lt, hsane.surfaces, hsane.windows⟩

namespace Valid

theorem start : Valid {} where
  sane := by
    refine ⟨fun _ _ => rfl, fun _ _ => rfl, ?_, ?_, ?_⟩
    · intro w hw
      exact absurd hw (lt_irrefl 0)
    · intro k s hs
      simp at hs
    · intro k w hw
      simp at hw
  owned := fun _ => rfl

theorem of_callers (hvalid : Valid h) (handles references : ℕ → ℕ) :
    Valid { h with handles := handles, references := references } :=
  ⟨⟨hvalid.sane.unusedSurface, hvalid.sane.unusedWindow, hvalid.sane.surface_lt,
    hvalid.sane.surfaces, hvalid.sane.windows⟩, hvalid.owned⟩

theorem createSurfaceAsProducer (hvalid : Valid h) (uniqueId : ℕ) :
    Valid ((ObjectCall.createSurfaceAsProducer uniqueId).run h) :=
  have howned : Owned ((ObjectCall.createSurfaceAsProducer uniqueId).run h) :=
    hvalid.owned.newSurface hvalid.sane uniqueId false rfl (fun _ => rfl) rfl
  ⟨(hvalid.sane.createSurfaceAsProducer uniqueId).of_sptrs _, howned⟩

theorem holdSurface (hvalid : Valid h) {s : ℕ} (hs : 0 < h.surfaceCount s) :
    Valid { h.holdSurface s with sptrs := inc h.sptrs s } :=
  ⟨(hvalid.sane.holdSurface (hvalid.sane.lt_of_surface hs)).of_sptrs _, hvalid.owned.holdSurface s⟩

theorem dropSurface (hvalid : Valid h) {s : ℕ} (hs : 0 < h.sptrs s) :
    Valid ((ObjectCall.dropSurface s).run h) :=
  ⟨(hvalid.sane.dropSurface s).of_sptrs _, hvalid.owned.dropSurface hs⟩

theorem newWindow (hvalid : Valid h) {s : ℕ} (hs : 0 < h.surfaceCount s) : Valid (h.newWindow s) :=
  ⟨hvalid.sane.newWindow (hvalid.sane.lt_of_surface hs), hvalid.owned.newWindow hvalid.sane s⟩

theorem referenceWindow (hvalid : Valid h) {w : ℕ} (hw : 0 < h.windowCount w) :
    Valid (h.referenceWindow w) := by
  refine ⟨hvalid.sane.referenceWindow hw, hvalid.owned.congr rfl rfl (windowsOn_congr rfl rfl ?_)⟩
  intro v
  change 0 < inc h.windowCount w v ↔ _
  rw [inc_apply]
  split_ifs with hv
  · subst hv
    omega
  · rfl

theorem unreferenceWindow (hvalid : Valid h) {w : ℕ} (hw : 0 < h.windowCount w) :
    Valid (h.unreferenceWindow w) :=
  ⟨hvalid.sane.unreferenceWindow w, hvalid.owned.unreferenceWindow hvalid.sane hw⟩

theorem live_of_cached (hvalid : Valid h) {uniqueId w : ℕ}
    (hw : h.nativeWindowCache uniqueId = some w) : 0 < h.windowCount w :=
  (hvalid.sane.windows _ _ hw).1.1

theorem step {c : ObjectCall} (hvalid : Valid h) (hallowed : c.Allowed h) : Valid (c.run h) := by
  cases c with
  | createSurfaceAsProducer uniqueId => exact hvalid.createSurfaceAsProducer uniqueId
  | createSurfaceAsConsumer uniqueId =>
    have howned : Owned ((ObjectCall.createSurfaceAsConsumer uniqueId).run h) :=
      hvalid.owned.newSurface hvalid.sane uniqueId true rfl (fun _ => rfl) rfl
    exact ⟨(hvalid.sane.newSurface uniqueId true).of_sptrs _, howned⟩
  | copySurface s => exact hvalid.holdSurface (hvalid.owned.live hallowed)
  | dropSurface s => exact hvalid.dropSurface hallowed
  | getSurface uniqueId =>
    rcases ObjectCall.run_getSurface h uniqueId with hsame | ⟨s, hget, hrun⟩
    · rw [hsame]
      exact hvalid
    · rw [hrun]
      exact hvalid.holdSurface (getSurface_eq_some hget).2
  | createNativeWindowFromSurface s =>
    exact (hvalid.newWindow (hvalid.owned.live hallowed)).of_callers _ _
  | createNativeWindowFromSurfaceId uniqueId =>
    rcases ObjectCall.run_createFromId h uniqueId with ⟨w, hw, hrun⟩ | hsame | ⟨s, -, hget, hrun⟩
    · rw [hrun]
      exact (hvalid.referenceWindow (hvalid.live_of_cached hw)).of_callers _ _
    · rw [hsame]
      exact hvalid
    · rw [hrun]
      exact (hvalid.newWindow (getSurface_eq_some hget).2).of_callers _ _
  | nativeWindowReadFromParcel uniqueId =>
    have hcreate := hvalid.createSurfaceAsProducer uniqueId
    have hsptr : 0 < ((ObjectCall.createSurfaceAsProducer uniqueId).run h).sptrs h.created := by
      change 0 < inc h.sptrs h.created h.created
      rw [inc_apply, if_pos rfl]
      omega
    cases hw : h.nativeWindowCache uniqueId with
    | some w =>
      rw [ObjectCall.run_read_of_some hw]
      exact (hcreate.dropSurface hsptr).of_callers _ _
    | none =>
      rw [ObjectCall.run_read_of_none hw]
      exact ((hcreate.newWindow (hcreate.owned.live hsptr)).of_callers _ _).dropSurface hsptr
  | nativeObjectReference w => exact (hvalid.referenceWindow hallowed.2).of_callers _ _
  | nativeObjectUnreference w => exact (hvalid.unreferenceWindow hallowed.2).of_callers _ _
  | destoryNativeWindow w => exact (hvalid.unreferenceWindow hallowed.2).of_callers _ _

end Valid

end Objects

end GraphicSurface
