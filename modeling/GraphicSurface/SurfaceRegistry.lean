import GraphicSurface.SurfaceUtils

/-! Which objects the two caches of `SurfaceUtils` can still find. `Add` keeps the first entry of an
id, and the destructors erase the entry of their id without asking whose it is. -/

namespace GraphicSurface

open Runs

namespace Objects

variable {h : Objects}

/-- No other registered surface has the id of `s`. -/
def SoleOwner (h : Objects) (s : ℕ) : Prop :=
  ∀ r, h.registered r → h.uniqueId r = h.uniqueId s → r = s

/-- Some other registered surface has the id of the producer's surface `s`. -/
def sharesId (h : Objects) (s : ℕ) : Prop :=
  h.isConsumer s = false ∧
    ∃ r < h.created, r ≠ s ∧ h.registered r ∧ h.uniqueId r = h.uniqueId s

/-- The cache holds another window under the id of `w`. -/
def othersEntry (h : Objects) (w : ℕ) : Prop :=
  h.nativeWindowCache (h.windowId w) ≠ none ∧ h.nativeWindowCache (h.windowId w) ≠ some w

instance (h : Objects) (s : ℕ) : Decidable (h.registered s) := by
  unfold registered
  infer_instance

instance (h : Objects) (s : ℕ) : Decidable (h.sharesId s) := by
  unfold sharesId
  infer_instance

instance (h : Objects) (w : ℕ) : Decidable (h.othersEntry w) := by
  unfold othersEntry
  infer_instance

/-- Every registered surface and every window that was put in the cache is found by its id. -/
structure Findable (h : Objects) : Prop where
  surfaces : ∀ s, h.registered s → ∃ r, h.getSurface (h.uniqueId s) = some r ∧ h.registered r ∧
    h.uniqueId r = h.uniqueId s
  windows : ∀ w, h.cached w → h.getNativeWindow (h.windowId w) = some w

theorem Findable.not_lost (hfind : Findable h) {s : ℕ} (hs : h.registered s)
    (hgone : h.getSurface (h.uniqueId s) = none) : False := by
  obtain ⟨r, hr, -⟩ := hfind.surfaces s hs
  rw [hgone] at hr
  simp at hr

/-- The entries that are gone are those of objects that are gone. -/
structure KeepsEntries (h h' : Objects) : Prop where
  surfaces : Registry.Keeps (fun s => 0 < h'.surfaceCount s) h.surfaceCache h'.surfaceCache
  windows : Registry.Keeps (fun w => 0 < h'.windowCount w) h.nativeWindowCache h'.nativeWindowCache

/-- The part of `Findable` that a step keeps: the rest is that entries are sound. -/
structure Found (h : Objects) : Prop where
  complete : Registry.Complete h.uniqueId h.registered h.surfaceCache
  first : ∀ w, h.cached w → h.nativeWindowCache (h.windowId w) = some w

theorem Found.findable (hfound : Found h) (hsane : Sane h) : Findable h where
  surfaces s hs := by
    obtain ⟨r, hr⟩ := Option.isSome_iff_exists.mp (hfound.complete s hs)
    obtain ⟨hlive, hid⟩ := hsane.surfaces _ _ hr
    exact ⟨r, getSurface_of_registered hr hlive.1, hlive, hid⟩
  windows := hfound.first

theorem soleOwner_of_not_sharesId (hsane : Sane h) {s : ℕ} (hproducer : h.isConsumer s = false)
    (hs : ¬ h.sharesId s) : SoleOwner h s := by
  intro r hr hid
  by_contra hne
  exact hs ⟨hproducer, r, hsane.lt_of_surface hr.1, hne, hr, hid⟩

theorem registered_of_dropSurface {s r : ℕ} (hr : (h.dropSurface s).registered r) :
    h.registered r ∧ (r = s → h.surfaceCount s ≠ 1) := by
  obtain ⟨hlive, hproducer⟩ := hr
  change 0 < dec h.surfaceCount s r at hlive
  rw [dec_apply] at hlive
  split_ifs at hlive with hrs
  · subst hrs
    exact ⟨⟨by omega, hproducer⟩, fun _ => by omega⟩
  · exact ⟨⟨hlive, hproducer⟩, fun hsame => absurd hsame hrs⟩

theorem surfaceCache_dropSurface {s : ℕ} (hcount : h.surfaceCount s ≠ 1) :
    (h.dropSurface s).surfaceCache = h.surfaceCache :=
  if_neg fun hlast => hcount hlast.1

theorem complete_dropSurface (hcomplete : Registry.Complete h.uniqueId h.registered h.surfaceCache)
    {s : ℕ} (hsole : h.surfaceCount s = 1 → h.isConsumer s = false → SoleOwner h s) :
    Registry.Complete (h.dropSurface s).uniqueId (h.dropSurface s).registered
      (h.dropSurface s).surfaceCache := by
  change Registry.Complete h.uniqueId (h.dropSurface s).registered (if h.surfaceCount s = 1 ∧
    h.isConsumer s = false then Registry.erase h.surfaceCache (h.uniqueId s) else h.surfaceCache)
  split_ifs with hlast
  · refine hcomplete.erase fun r hr => ?_
    obtain ⟨hold, hne⟩ := registered_of_dropSurface hr
    exact ⟨hold, fun hid => hne (hsole hlast.1 hlast.2 r hold hid) hlast.1⟩
  · exact hcomplete.mono (fun _ _ => rfl) fun r hr => (registered_of_dropSurface hr).1

theorem keeps_dropSurface (hsane : Sane h) {s : ℕ}
    (hsole : h.surfaceCount s = 1 → h.isConsumer s = false → SoleOwner h s) :
    Registry.Keeps (fun r => 0 < (h.dropSurface s).surfaceCount r) h.surfaceCache
      (h.dropSurface s).surfaceCache := by
  change Registry.Keeps _ h.surfaceCache (if h.surfaceCount s = 1 ∧ h.isConsumer s = false then
    Registry.erase h.surfaceCache (h.uniqueId s) else h.surfaceCache)
  split_ifs with hlast
  · refine Registry.Keeps.erase fun r hentry hlive => ?_
    obtain ⟨hr, hid⟩ := hsane.surfaces _ _ hentry
    obtain rfl := hsole hlast.1 hlast.2 r hr hid
    change 0 < dec h.surfaceCount r r at hlive
    rw [dec_apply, if_pos rfl, hlast.1] at hlive
    exact lt_irrefl 0 hlive
  · exact .refl _ _

theorem lost_dropSurface {s r : ℕ} (hlast : h.surfaceCount s = 1) (hproducer : h.isConsumer s = false)
    (hne : r ≠ s) (hr : h.registered r) (hid : h.uniqueId r = h.uniqueId s) :
    (h.dropSurface s).registered r ∧ (h.dropSurface s).getSurface (h.uniqueId r) = none := by
  refine ⟨⟨?_, hr.2⟩, ?_⟩
  · change 0 < dec h.surfaceCount s r
    rw [dec_apply, if_neg hne]
    exact hr.1
  · have hentry : (h.dropSurface s).surfaceCache (h.uniqueId r) = none := by
      change (if h.surfaceCount s = 1 ∧ h.isConsumer s = false then
        Registry.erase h.surfaceCache (h.uniqueId s) else h.surfaceCache) (h.uniqueId r) = none
      rw [if_pos ⟨hlast, hproducer⟩, hid]
      exact Registry.erase_self _ _
    unfold getSurface
    rw [hentry]

theorem registered_newSurface {uniqueId : ℕ} {isConsumer : Bool} {r : ℕ}
    (hr : (h.newSurface uniqueId isConsumer).registered r) :
    r = h.created ∧ isConsumer = false ∨ r ≠ h.created ∧ h.registered r := by
  obtain ⟨hlive, hproducer⟩ := hr
  change 0 < Function.update h.surfaceCount h.created 1 r at hlive
  change Function.update h.isConsumer h.created isConsumer r = false at hproducer
  by_cases hnew : r = h.created
  · subst hnew
    rw [Function.update_self] at hproducer
    exact .inl ⟨rfl, hproducer⟩
  · rw [Function.update_of_ne hnew] at hlive hproducer
    exact .inr ⟨hnew, hlive, hproducer⟩

theorem uniqueId_newSurface {uniqueId : ℕ} {isConsumer : Bool} {r : ℕ} (hr : r ≠ h.created) :
    (h.newSurface uniqueId isConsumer).uniqueId r = h.uniqueId r :=
  Function.update_of_ne hr _ _

namespace Found

theorem start : Found {} where
  complete := fun _ hs => absurd hs.1 (lt_irrefl 0)
  first := fun _ hw => absurd hw.1 (lt_irrefl 0)

theorem first_newSurface (hfound : Found h) (hsane : Sane h) (uniqueId : ℕ) (isConsumer : Bool)
    {w : ℕ} (hw : h.cached w) :
    h.nativeWindowCache ((h.newSurface uniqueId isConsumer).windowId w) = some w := by
  have hid : (h.newSurface uniqueId isConsumer).windowId w = h.windowId w :=
    uniqueId_newSurface (hsane.surface_lt w hw.1).ne
  rw [hid]
  exact hfound.first w hw

theorem createSurfaceAsProducer (hfound : Found h) (hsane : Sane h) (uniqueId : ℕ) :
    Found (h.createSurfaceAsProducer uniqueId) where
  complete := by
    have hold : Registry.Complete (h.newSurface uniqueId false).uniqueId
        (fun r => r ≠ h.created ∧ h.registered r) h.surfaceCache :=
      hfound.complete.mono (fun _ hr => uniqueId_newSurface hr.1) fun _ hr => hr.2
    have hid : (h.newSurface uniqueId false).uniqueId h.created = uniqueId :=
      Function.update_self _ _ _
    have hlive : ∀ r, (h.newSurface uniqueId false).registered r →
        (r ≠ h.created ∧ h.registered r) ∨ r = h.created :=
      fun r hr => (registered_newSurface hr).symm.imp_right And.left
    have hadd := hold.add h.created hlive
    rw [hid] at hadd
    exact hadd
  first _ hw := hfound.first_newSurface hsane uniqueId false hw

theorem createConsumer (hfound : Found h) (hsane : Sane h) (uniqueId : ℕ) :
    Found (h.newSurface uniqueId true) where
  complete := by
    have hold : ∀ r, (h.newSurface uniqueId true).registered r → r ≠ h.created ∧ h.registered r :=
      fun r hr => (registered_newSurface hr).resolve_left fun hnew => by simp at hnew
    exact hfound.complete.mono (fun r hr => uniqueId_newSurface (hold r hr).1)
      fun r hr => (hold r hr).2
  first _ hw := hfound.first_newSurface hsane uniqueId true hw

theorem holdSurface (hfound : Found h) {s : ℕ} (hs : 0 < h.surfaceCount s) :
    Found (h.holdSurface s) where
  complete := hfound.complete.mono (fun _ _ => rfl) fun r hr => by
    refine ⟨?_, hr.2⟩
    have hlive := hr.1
    change 0 < inc h.surfaceCount s r at hlive
    rw [inc_apply] at hlive
    split_ifs at hlive with hrs
    · rwa [hrs]
    · exact hlive
  first := hfound.first

theorem dropSurface (hfound : Found h) {s : ℕ}
    (hsole : h.surfaceCount s = 1 → h.isConsumer s = false → SoleOwner h s) :
    Found (h.dropSurface s) where
  complete := complete_dropSurface hfound.complete hsole
  first := hfound.first

theorem newWindow (hfound : Found h) {s : ℕ} (hs : 0 < h.surfaceCount s) :
    Found (h.newWindow s) where
  complete := (hfound.holdSurface hs).complete
  first w hw := by
    obtain ⟨hlive, hstored⟩ := hw
    change 0 < Function.update h.windowCount h.created 1 w at hlive
    change Function.update h.stored h.created (h.nativeWindowCache (h.uniqueId s)).isNone w = true
      at hstored
    change Registry.add h.nativeWindowCache (h.uniqueId s) h.created
      (h.uniqueId (Function.update h.windowSurface h.created s w)) = some w
    by_cases hnew : w = h.created
    · subst hnew
      rw [Function.update_self] at hstored ⊢
      rw [Registry.add_of_none (Option.isNone_iff_eq_none.mp hstored), Function.update_self]
    · rw [Function.update_of_ne hnew] at hlive hstored ⊢
      exact Registry.add_of_mem (hfound.first w ⟨hlive, hstored⟩) _

theorem referenceWindow (hfound : Found h) {w : ℕ} (hw : 0 < h.windowCount w) :
    Found (h.referenceWindow w) where
  complete := hfound.complete
  first v hv := by
    refine hfound.first v ⟨?_, hv.2⟩
    have hlive := hv.1
    change 0 < inc h.windowCount w v at hlive
    rw [inc_apply] at hlive
    split_ifs at hlive with hvw
    · rwa [hvw]
    · exact hlive

theorem closeWindow (hfound : Found h) {w : ℕ} (hlast : h.windowCount w = 1)
    (hentry : ¬ h.othersEntry w) : Found (h.closeWindow w) where
  complete := hfound.complete
  first v hv := by
    obtain ⟨hlive, hstored⟩ := hv
    change 0 < dec h.windowCount w v at hlive
    rw [dec_apply] at hlive
    split_ifs at hlive with hvw
    · subst hvw
      omega
    · have hfirst := hfound.first v ⟨hlive, hstored⟩
      have hne : h.windowId v ≠ h.windowId w := by
        intro hid
        rw [hid] at hfirst
        exact hentry ⟨by simp [hfirst], by simpa [hfirst] using hvw⟩
      exact (Registry.erase_of_ne hne).trans hfirst

theorem dropReference (hfound : Found h) (w : ℕ) :
    Found { h with windowCount := dec h.windowCount w } where
  complete := hfound.complete
  first v hv := by
    refine hfound.first v ⟨?_, hv.2⟩
    have hlive := hv.1
    change 0 < dec h.windowCount w v at hlive
    rw [dec_apply] at hlive
    split_ifs at hlive <;> omega

theorem of_callers (hfound : Found h) (sptrs handles references : ℕ → ℕ) :
    Found { h with sptrs := sptrs, handles := handles, references := references } :=
  ⟨hfound.complete, hfound.first⟩

end Found

/-- The last reference of `w` may go: no other window is cached under its id, and if its surface
goes with it, that one shares its id with nobody. -/
def strandsNobody (h : Objects) (w : ℕ) : Prop :=
  h.windowCount w = 1 → ¬ h.othersEntry w ∧
    (h.surfaceCount (h.windowSurface w) = 1 → ¬ h.sharesId (h.windowSurface w))

theorem found_unreferenceWindow (hfound : Found h) (hsane : Sane h) {w : ℕ}
    (hok : h.strandsNobody w) : Found (h.unreferenceWindow w) := by
  unfold unreferenceWindow
  split_ifs with hlast
  · obtain ⟨hentry, hshare⟩ := hok hlast
    exact (hfound.closeWindow hlast hentry).dropSurface fun hcount hproducer =>
      soleOwner_of_not_sharesId hsane hproducer (hshare hcount)
  · exact hfound.dropReference w

theorem keeps_unreferenceWindow (hsane : Sane h) {w : ℕ} (hok : h.strandsNobody w) :
    KeepsEntries h (h.unreferenceWindow w) := by
  unfold unreferenceWindow
  split_ifs with hlast
  · obtain ⟨hentry, hshare⟩ := hok hlast
    refine ⟨keeps_dropSurface (hsane.closeWindow w) fun hcount hproducer =>
      soleOwner_of_not_sharesId hsane hproducer (hshare hcount), ?_⟩
    refine Registry.Keeps.erase fun v hv hlive => ?_
    have hvw : v = w := by
      by_contra hne
      exact hentry ⟨by simp [hv], by simpa [hv] using hne⟩
    subst hvw
    change 0 < dec h.windowCount v v at hlive
    rw [dec_apply, if_pos rfl, hlast] at hlive
    exact lt_irrefl 0 hlive
  · exact ⟨.refl _ _, .refl _ _⟩

theorem Findable.of_callers {sptrs handles references : ℕ → ℕ}
    (hfind : Findable { h with sptrs := sptrs, handles := handles, references := references }) :
    Findable h := ⟨hfind.surfaces, hfind.windows⟩

theorem lost_unreferenceWindow {w : ℕ} (hsane : Sane h) (hlast : h.windowCount w = 1)
    (hbad : h.othersEntry w ∨
      h.surfaceCount (h.windowSurface w) = 1 ∧ h.sharesId (h.windowSurface w)) :
    ¬ (Findable (h.unreferenceWindow w) ∧ KeepsEntries h (h.unreferenceWindow w)) := by
  unfold unreferenceWindow
  rw [if_pos hlast]
  rintro ⟨hfind, hkeep⟩
  rcases hbad with ⟨hsome, hother⟩ | ⟨hcount, hproducer, r, -, hne, hr, hid⟩
  · obtain ⟨v, hv⟩ := Option.ne_none_iff_exists'.mp hsome
    have hvw : v ≠ w := by
      rintro rfl
      exact hother hv
    have hlive : 0 < dec h.windowCount w v := by
      rw [dec_apply, if_neg hvw]
      exact (hsane.windows _ _ hv).1.1
    have hgone := hkeep.windows _ _ hv hlive
    change Registry.erase h.nativeWindowCache (h.windowId w) (h.windowId w) = some v at hgone
    rw [Registry.erase_self] at hgone
    simp at hgone
  · obtain ⟨hlive, hgone⟩ := lost_dropSurface (h := h.closeWindow w) hcount hproducer hne hr hid
    exact hfind.not_lost hlive hgone

end Objects

namespace ObjectCall

open Objects

/-- The call destroys a surface that shares its id with another registered one, or a window whose
id is cached for another window. -/
def strands (h : Objects) : ObjectCall → Prop
  | dropSurface s => h.surfaceCount s = 1 ∧ h.sharesId s
  | nativeObjectUnreference w | destoryNativeWindow w =>
    h.windowCount w = 1 ∧ (h.othersEntry w ∨
      h.surfaceCount (h.windowSurface w) = 1 ∧ h.sharesId (h.windowSurface w))
  | nativeWindowReadFromParcel uniqueId =>
    (h.nativeWindowCache uniqueId).isSome ∧
      ∃ r < h.created, h.registered r ∧ h.uniqueId r = uniqueId
  | _ => False

instance (h : Objects) (c : ObjectCall) : Decidable (c.strands h) := by
  apply ObjectCall.casesOn (motive := fun c => Decidable (c.strands h)) c <;> intros <;>
    unfold strands <;> infer_instance

variable {h : Objects} {c : ObjectCall}

theorem strandsNobody_of_not_strands {w : ℕ} (hok : ¬ (nativeObjectUnreference w).strands h) :
    h.strandsNobody w := by
  intro hlast
  simp only [strands, not_and, not_or] at hok
  exact hok hlast

theorem soleOwner_of_read {uniqueId : ℕ} (hsane : Sane h)
    (halone : ∀ r < h.created, h.registered r → h.uniqueId r ≠ uniqueId) :
    SoleOwner (h.createSurfaceAsProducer uniqueId) h.created := by
  intro r hr hid
  have hnew : (h.newSurface uniqueId false).registered r := hr
  rcases registered_newSurface hnew with ⟨hnew, -⟩ | ⟨hne, hold⟩
  · exact hnew
  · have hid' : h.uniqueId r = uniqueId := by
      have hself : (h.createSurfaceAsProducer uniqueId).uniqueId h.created = uniqueId :=
        Function.update_self _ _ _
      have hother : (h.createSurfaceAsProducer uniqueId).uniqueId r = h.uniqueId r :=
        Function.update_of_ne hne _ _
      rwa [hself, hother] at hid
    exact absurd hid' (halone r (hsane.lt_of_surface hold.1) hold)

theorem surfaceCount_readWindow (h : Objects) (uniqueId : ℕ) :
    ((h.createSurfaceAsProducer uniqueId).newWindow h.created).surfaceCount h.created = 2 := by
  change inc (Function.update h.surfaceCount h.created 1) h.created h.created = 2
  rw [inc_apply, if_pos rfl, Function.update_self]

theorem found_step (hfound : Found h) (hvalid : Valid h) (hallowed : c.Allowed h)
    (hok : ¬ c.strands h) : Found (c.run h) := by
  have hsane := hvalid.sane
  cases c with
  | createSurfaceAsProducer uniqueId =>
    exact (hfound.createSurfaceAsProducer hsane uniqueId).of_callers _ h.handles h.references
  | createSurfaceAsConsumer uniqueId =>
    exact (hfound.createConsumer hsane uniqueId).of_callers _ h.handles h.references
  | copySurface s =>
    exact (hfound.holdSurface (hvalid.owned.live hallowed)).of_callers _ h.handles h.references
  | dropSurface s =>
    have hdrop : Found (h.dropSurface s) := hfound.dropSurface fun hlast hproducer =>
      soleOwner_of_not_sharesId hsane hproducer fun hshare => hok ⟨hlast, hshare⟩
    exact hdrop.of_callers _ h.handles h.references
  | getSurface uniqueId =>
    rcases run_getSurface h uniqueId with hsame | ⟨s, hget, hrun⟩
    · rw [hsame]
      exact hfound
    · rw [hrun]
      exact (hfound.holdSurface (getSurface_eq_some hget).2).of_callers _ h.handles h.references
  | createNativeWindowFromSurface s =>
    exact (hfound.newWindow (hvalid.owned.live hallowed)).of_callers h.sptrs _ h.references
  | createNativeWindowFromSurfaceId uniqueId =>
    rcases run_createFromId h uniqueId with ⟨w, hw, hrun⟩ | hsame | ⟨s, -, hget, hrun⟩
    · rw [hrun]
      exact (hfound.referenceWindow (hvalid.live_of_cached hw)).of_callers h.sptrs _ h.references
    · rw [hsame]
      exact hfound
    · rw [hrun]
      exact (hfound.newWindow (getSurface_eq_some hget).2).of_callers h.sptrs _ h.references
  | nativeWindowReadFromParcel uniqueId =>
    have hcreate := hfound.createSurfaceAsProducer hsane uniqueId
    cases hw : h.nativeWindowCache uniqueId with
    | some w =>
      have halone : ∀ r < h.created, h.registered r → h.uniqueId r ≠ uniqueId := by
        intro r hlt hr hid
        exact hok ⟨by rw [hw]; rfl, r, hlt, hr, hid⟩
      have hdrop := hcreate.dropSurface fun _ _ => soleOwner_of_read hsane halone
      rw [run_read_of_some hw]
      exact hdrop.of_callers _ _ h.references
    | none =>
      have hlive : 0 < (h.createSurfaceAsProducer uniqueId).surfaceCount h.created :=
        Nat.one_pos.trans_eq (Function.update_self h.created 1 h.surfaceCount).symm
      have hwindow := hcreate.newWindow hlive
      have hcount := surfaceCount_readWindow h uniqueId
      have hdrop := hwindow.dropSurface fun hlast => absurd hlast (by rw [hcount]; decide)
      rw [run_read_of_none hw]
      exact hdrop.of_callers _ _ h.references
  | nativeObjectReference w =>
    exact (hfound.referenceWindow hallowed.2).of_callers h.sptrs h.handles _
  | nativeObjectUnreference w =>
    exact (found_unreferenceWindow hfound hsane (strandsNobody_of_not_strands hok)).of_callers
      (h.unreferenceWindow w).sptrs (h.unreferenceWindow w).handles _
  | destoryNativeWindow w =>
    exact (found_unreferenceWindow hfound hsane (strandsNobody_of_not_strands hok)).of_callers
      (h.unreferenceWindow w).sptrs _ (h.unreferenceWindow w).references

theorem keeps_step (hvalid : Valid h) (hok : ¬ c.strands h) : KeepsEntries h (c.run h) := by
  have hsane := hvalid.sane
  have hsame : KeepsEntries h h := ⟨.refl _ _, .refl _ _⟩
  cases c with
  | createSurfaceAsProducer uniqueId => exact ⟨.add _ _ _ _, .refl _ _⟩
  | createSurfaceAsConsumer | copySurface => exact ⟨.refl _ _, .refl _ _⟩
  | dropSurface s =>
    refine ⟨keeps_dropSurface hsane fun hlast hproducer => ?_, .refl _ _⟩
    exact soleOwner_of_not_sharesId hsane hproducer fun hshare => hok ⟨hlast, hshare⟩
  | getSurface uniqueId =>
    rcases run_getSurface h uniqueId with hrun | ⟨s, -, hrun⟩
    · rw [hrun]
      exact hsame
    · rw [hrun]
      exact ⟨.refl _ _, .refl _ _⟩
  | createNativeWindowFromSurface s => exact ⟨.refl _ _, .add _ _ _ _⟩
  | createNativeWindowFromSurfaceId uniqueId =>
    rcases run_createFromId h uniqueId with ⟨w, -, hrun⟩ | hrun | ⟨s, -, -, hrun⟩
    · rw [hrun]
      exact ⟨.refl _ _, .refl _ _⟩
    · rw [hrun]
      exact hsame
    · rw [hrun]
      exact ⟨.refl _ _, .add _ _ _ _⟩
  | nativeWindowReadFromParcel uniqueId =>
    have hcreate := hsane.createSurfaceAsProducer uniqueId
    cases hw : h.nativeWindowCache uniqueId with
    | some w =>
      have halone : ∀ r < h.created, h.registered r → h.uniqueId r ≠ uniqueId := by
        intro r hlt hr hid
        exact hok ⟨by rw [hw]; rfl, r, hlt, hr, hid⟩
      have hdrop := keeps_dropSurface hcreate (s := h.created) fun _ _ =>
        soleOwner_of_read hsane halone
      rw [run_read_of_some hw]
      have hadd : Registry.Keeps (fun r => 0 < (h.createSurfaceAsProducer uniqueId).surfaceCount r)
          h.surfaceCache (h.createSurfaceAsProducer uniqueId).surfaceCache := .add _ _ _ _
      have hless : ∀ r, 0 < ((h.createSurfaceAsProducer uniqueId).dropSurface
          h.created).surfaceCount r → 0 < (h.createSurfaceAsProducer uniqueId).surfaceCount r := by
        intro r hr
        change 0 < dec _ h.created r at hr
        rw [dec_apply] at hr
        split_ifs at hr
        · exact lt_of_lt_of_le hr (Nat.sub_le _ _)
        · exact hr
      exact ⟨hadd.trans hdrop hless, .refl _ _⟩
    | none =>
      have hcount := surfaceCount_readWindow h uniqueId
      have hcache := surfaceCache_dropSurface (h := (h.createSurfaceAsProducer uniqueId).newWindow
        h.created) (s := h.created) (by rw [hcount]; decide)
      rw [run_read_of_none hw]
      refine ⟨?_, .add _ _ _ _⟩
      change Registry.Keeps _ h.surfaceCache (((h.createSurfaceAsProducer uniqueId).newWindow
        h.created).dropSurface h.created).surfaceCache
      rw [hcache]
      exact .add _ _ _ _
  | nativeObjectReference w => exact ⟨.refl _ _, .refl _ _⟩
  | nativeObjectUnreference w =>
    have hkeep := keeps_unreferenceWindow hsane (strandsNobody_of_not_strands hok)
    exact ⟨hkeep.surfaces, hkeep.windows⟩
  | destoryNativeWindow w =>
    have hkeep := keeps_unreferenceWindow hsane (strandsNobody_of_not_strands hok)
    exact ⟨hkeep.surfaces, hkeep.windows⟩

theorem lost_of_strands (hvalid : Valid h) (hbad : c.strands h) :
    ¬ (Findable (c.run h) ∧ KeepsEntries h (c.run h)) := by
  cases c with
  | dropSurface s =>
    rintro ⟨hfind, -⟩
    obtain ⟨hlast, hproducer, r, -, hne, hr, hid⟩ := hbad
    obtain ⟨hlive, hgone⟩ := lost_dropSurface hlast hproducer hne hr hid
    exact (Findable.of_callers hfind).not_lost hlive hgone
  | nativeWindowReadFromParcel uniqueId =>
    obtain ⟨hsome, r, hlt, hr, hid⟩ := hbad
    obtain ⟨w, hw⟩ := Option.isSome_iff_exists.mp hsome
    rw [run_read_of_some hw]
    rintro ⟨hfind, -⟩
    have hne : r ≠ h.created := hlt.ne
    have hother : (h.createSurfaceAsProducer uniqueId).uniqueId r = h.uniqueId r :=
      Function.update_of_ne hne _ _
    have hlast : (h.createSurfaceAsProducer uniqueId).surfaceCount h.created = 1 :=
      Function.update_self _ _ _
    have hproducer : (h.createSurfaceAsProducer uniqueId).isConsumer h.created = false :=
      Function.update_self _ _ _
    have hself : (h.createSurfaceAsProducer uniqueId).uniqueId h.created = uniqueId :=
      Function.update_self _ _ _
    have hconsumer : (h.createSurfaceAsProducer uniqueId).isConsumer r = h.isConsumer r :=
      Function.update_of_ne hne _ _
    have hr' : (h.createSurfaceAsProducer uniqueId).registered r :=
      ⟨hr.1.trans_eq (Function.update_of_ne hne 1 h.surfaceCount).symm, hconsumer.trans hr.2⟩
    obtain ⟨hlive, hgone⟩ := lost_dropSurface hlast hproducer hne hr' (by rw [hother, hid, hself])
    exact (Findable.of_callers hfind).not_lost hlive hgone
  | nativeObjectUnreference w | destoryNativeWindow w =>
    rintro ⟨hfind, hkeep⟩
    exact lost_unreferenceWindow hvalid.sane hbad.1 hbad.2
      ⟨hfind.of_callers, hkeep.surfaces, hkeep.windows⟩
  | _ => exact hbad.elim

end ObjectCall

open Objects

/-- In a run in which no call destroys a surface or a window whose id belongs to another one too,
the live surfaces and cached windows are found, and a call keeps that up and drops no entry of a
live object exactly when it is no such call. -/
theorem live_surfaces_findable {calls : List ObjectCall} {h : Objects}
    (run : Run (restrict ObjectStep fun h c => ¬ c.strands h) {} calls h) :
    Findable h ∧ ∀ c h', ObjectStep h c h' →
      (Findable h' ∧ KeepsEntries h h' ↔ ¬ c.strands h) := by
  have hinv : Valid h ∧ Found h := by
    refine run.invariant₂ ?_ ?_ Valid.start Found.start
    · rintro h c _ hvalid ⟨⟨hallowed, rfl⟩, -⟩
      exact hvalid.step hallowed
    · rintro h c _ hvalid hfound ⟨⟨hallowed, rfl⟩, hok⟩
      exact ObjectCall.found_step hfound hvalid hallowed hok
  obtain ⟨hvalid, hfound⟩ := hinv
  refine ⟨hfound.findable hvalid.sane, ?_⟩
  rintro c h' ⟨hallowed, rfl⟩
  constructor
  · intro hkept hbad
    exact ObjectCall.lost_of_strands hvalid hbad hkept
  · intro hok
    exact ⟨(ObjectCall.found_step hfound hvalid hallowed hok).findable (hvalid.step hallowed).sane,
      ObjectCall.keeps_step hvalid hok⟩

def twoSurfaces : List ObjectCall := [.createSurfaceAsProducer 7, .createSurfaceAsProducer 7]

theorem live_surfaces_findable_twoSurfaces :
    Findable (execute (fun h c => ObjectCall.run h c) {} twoSurfaces) := by
  have legal : Legal (fun h c => ObjectCall.run h c) (fun h c => c.Allowed h ∧ ¬ c.strands h)
      {} twoSurfaces := by decide
  exact (live_surfaces_findable
    (.of_legal (fun _ _ hok => ⟨⟨hok.1, rfl⟩, hok.2⟩) legal)).1

/-- When the second one is destroyed, the first is not found any more although it is alive. -/
theorem destroyed_surface_hides_another :
    ¬ ∀ (calls : List ObjectCall) (h : Objects), Run ObjectStep {} calls h → Findable h := by
  intro hall
  have legal : Legal (fun h c => ObjectCall.run h c) (fun h c => c.Allowed h) {}
      (twoSurfaces ++ [.dropSurface 1]) := by decide
  have hfind := (hall _ _ (.of_legal (fun _ _ hok => ⟨hok, rfl⟩) legal)).surfaces 0 (by decide)
  obtain ⟨r, hr, -⟩ := hfind
  revert hr
  simp [execute, twoSurfaces, ObjectCall.run, getSurface, dropSurface, createSurfaceAsProducer,
    newSurface, Registry.add, Registry.erase]

end GraphicSurface
