import GraphicSurface.Custody
import GraphicSurface.MetadataCache
import GraphicSurface.Runs

/-! The memory behind the `SurfaceBufferImpl` objects of a process: the handles that the display
service allocates and their mappings. The service and the memory manager are not in the repository,
and what they answer is an input of each call; a successful `Mmap` leaves its address in the handle,
and a successful `Unmap` makes it invalid. A handle is known by its address, which is given out
again only when it has been freed. -/

namespace GraphicSurface

open Custody Runs

def graphicDisplaySuccess : Int := 0
def graphicDisplayNotSupport : Int := -5

/-- A `BufferHandle`, as far as its memory goes. What the memory manager has reclaimed is its own
knowledge. -/
structure MemoryHandle where
  fd : Int
  usage : ℕ
  virAddr : Option ℕ := none
  reclaimed : Bool := false
deriving DecidableEq

/-- A `SurfaceBufferImpl`, as far as its memory goes. -/
structure MemoryOwner where
  handle : Option ℕ := none
  isReclaimed : Bool := false
  surfaceBufferColorGamut : Int := 4
  transform : Int := 0
  surfaceBufferWidth : Int := 0
  surfaceBufferHeight : Int := 0
  bufferRequestConfig : Option BufferRequestConfig := none
deriving DecidableEq

/-- `displayBuffer` is whether `g_displayBuffer` is set. The heap of handles and the mapped
addresses belong to the process. A fault is a handle that is used or freed when it is not there. -/
structure GraphicMemory (ι : Type) where
  displayBuffer : Bool := false
  initMemMgrSucceed : Bool := false
  owners : ι → Option MemoryOwner := fun _ => none
  handles : ℕ → Option MemoryHandle := fun _ => none
  mapped : ℕ → Bool := fun _ => false
  fault : Bool := false

/-- What happens in one `Alloc`: whether `IDisplayBuffer::Get` finds the service, whether it dies
before the old handle is freed, whether it unmaps that, and what it answers. -/
structure AllocAnswers where
  get : Bool
  died : Bool
  unmap : Bool
  ret : Int
  handle : Option (ℕ × MemoryHandle)
  registered : Int

namespace GraphicMemory

variable {ι : Type} [DecidableEq ι] (w : GraphicMemory ι) (b : ι) (p : ℕ)

/-- `handle_`. -/
def handleOf : Option ℕ := (w.owners b).bind (·.handle)

def addressOf : Option ℕ := (w.handles p).bind (·.virAddr)

def getOrResetDisplayBuffer (get : Bool) : GraphicMemory ι :=
  { w with displayBuffer := w.displayBuffer || get }

def touch : GraphicMemory ι := { w with fault := w.fault || (w.handles p).isNone }

def writeOwner (f : MemoryOwner → MemoryOwner) : GraphicMemory ι :=
  { w with owners := Function.update w.owners b ((w.owners b).map f) }

def noteReclaimed (reclaimed : Bool) : GraphicMemory ι :=
  w.writeOwner b fun s => { s with isReclaimed := reclaimed }

def writeHandle (f : MemoryHandle → MemoryHandle) : GraphicMemory ι :=
  { w with handles := Function.update w.handles p ((w.handles p).map f) }

/-- The handle goes back to the heap, and `handle_` is a null pointer. -/
def dropHandle : GraphicMemory ι :=
  let w := w.touch p
  let w := w.writeOwner b fun s => { s with handle := none }
  { w with handles := Function.update w.handles p none }

def takeHandle (h : MemoryHandle) : GraphicMemory ι :=
  let w := w.writeOwner b fun s => { s with handle := some p }
  { w with handles := Function.update w.handles p (some h) }

/-- Without the service `FreeBufferHandle` closes the descriptors and frees the handle; a mapping is
only undone by the service. -/
def freeBufferHandleLocked (unmap : Bool) : GraphicMemory ι :=
  match w.handleOf b with
  | none => w
  | some p =>
    if w.displayBuffer = false then w.dropHandle b p
    else
      match w.addressOf p with
      | none => w.dropHandle b p
      | some a =>
        if unmap then { w.dropHandle b p with mapped := Function.update w.mapped a false }
        else w.dropHandle b p

/-- `previous` is a buffer other than this one, whose mutex is locked already. -/
def alloc (config : BufferRequestConfig) (previous : Option ι) (hdi : AllocAnswers) :
    GSError × GraphicMemory ι :=
  let w := w.getOrResetDisplayBuffer hdi.get
  if w.displayBuffer = false then (.internal, w)
  else
    let w := { w with displayBuffer := !hdi.died }
    let w := w.freeBufferHandleLocked b hdi.unmap
    if checkBufferConfig config.width config.height config.format ≠ .ok then (.invalidArguments, w)
    else
      let w := (previous.bind w.handleOf).elim w w.touch
      let w := hdi.handle.elim w fun (p, h) => w.takeHandle b p h
      if hdi.ret = graphicDisplaySuccess ∧ hdi.handle.isSome then
        if hdi.registered ≠ graphicDisplaySuccess ∧ hdi.registered ≠ graphicDisplayNotSupport then
          (.hdiError, w)
        else
          (.ok, w.writeOwner b fun s => { s with
            surfaceBufferColorGamut := config.colorGamut
            transform := config.transform
            surfaceBufferWidth := config.width
            surfaceBufferHeight := config.height
            bufferRequestConfig := some config })
      else (.hdiError, w)

def withHandle (get : Bool)
    (call : GraphicMemory ι → ℕ → MemoryHandle → GSError × GraphicMemory ι) :
    GSError × GraphicMemory ι :=
  let w := w.getOrResetDisplayBuffer get
  if w.displayBuffer = false then (.internal, w)
  else
    match w.handleOf b with
    | none => (.invalidOperating, w)
    | some p =>
      match w.handles p with
      | none => (.hdiError, w.touch p)
      | some h => call w p h

/-- A protected buffer is never mapped. -/
def map (get : Bool) (mmap : Option ℕ) : GSError × GraphicMemory ι :=
  w.withHandle b get fun w p h =>
    if h.virAddr.isSome then (.ok, w)
    else if h.usage &&& bufferUsageProtected ≠ 0 then (.ok, w)
    else
      match mmap with
      | none => (.hdiError, w)
      | some a =>
        let w := w.writeHandle p fun h => { h with virAddr := some a }
        (.ok, { w with mapped := Function.update w.mapped a true })

def unmap (get success : Bool) : GSError × GraphicMemory ι :=
  w.withHandle b get fun w p h =>
    match h.virAddr with
    | none => (.ok, w)
    | some a =>
      if success then
        let w := w.writeHandle p fun h => { h with virAddr := none }
        (.ok, { w with mapped := Function.update w.mapped a false })
      else (.hdiError, w)

def getVirAddr (get : Bool) (mmap : Option ℕ) : Option ℕ × GraphicMemory ι :=
  match w.map b get mmap with
  | (ret, w) => (if ret ≠ .ok then none else (w.handleOf b).bind w.addressOf, w)

def flushCache (get success : Bool) : GSError × GraphicMemory ι :=
  w.withHandle b get fun w _ _ => (if success then .ok else .hdiError, w)

def invalidateCache (get success : Bool) : GSError × GraphicMemory ι :=
  w.withHandle b get fun w _ _ => (if success then .ok else .hdiError, w)

/-- What `RegisterBuffer` answers is only logged. -/
def setBufferHandle (handle : Option (ℕ × MemoryHandle)) (unmap : Bool) : GraphicMemory ι :=
  match handle with
  | none => w
  | some (p, h) =>
    if w.handleOf b = some p then w else (w.freeBufferHandleLocked b unmap).takeHandle b p h

/-- What `TryReclaim` and `TryResumeIfNeeded` share: `expected` is the flag that the call needs, and
`ret` what the memory manager returns. -/
def remember (expected : Bool) (ret : Int) : GSError × GraphicMemory ι :=
  if w.initMemMgrSucceed = false then (.invalidArguments, w)
  else if ((w.owners b).elim false (·.isReclaimed)) ≠ expected then (.invalidOperating, w)
  else
    match w.handleOf b with
    | none => (.invalidArguments, w)
    | some p =>
      if (w.handles p).elim true (·.fd < 0) then (.invalidArguments, w.touch p)
      else if ret = 0 then
        let w := w.writeHandle p fun h => { h with reclaimed := !expected }
        (.ok, w.noteReclaimed b !expected)
      else (.apiFailed, w.noteReclaimed b expected)

def tryReclaim (ret : Int) : GSError × GraphicMemory ι := w.remember b false ret

def tryResumeIfNeeded (ret : Int) : GSError × GraphicMemory ι := w.remember b true ret

def create : GraphicMemory ι := { w with owners := Function.update w.owners b (some {}) }

def destroy (unmap : Bool) : GraphicMemory ι :=
  let w := w.freeBufferHandleLocked b unmap
  { w with owners := Function.update w.owners b none }

def onRemoteDied : GraphicMemory ι := { w with displayBuffer := false }

end GraphicMemory

inductive MemoryOp (ι : Type)
  | create (b : ι)
  | destroy (b : ι) (unmaps : Bool)
  | alloc (b : ι) (config : BufferRequestConfig) (previous : Option ι) (hdi : AllocAnswers)
  | map (b : ι) (get : Bool) (mmap : Option ℕ)
  | unmap (b : ι) (get success : Bool)
  | getVirAddr (b : ι) (get : Bool) (mmap : Option ℕ)
  | flushCache (b : ι) (get success : Bool)
  | invalidateCache (b : ι) (get success : Bool)
  | setBufferHandle (b : ι) (handle : Option (ℕ × MemoryHandle)) (unmaps : Bool)
  | tryReclaim (b : ι) (ret : Int)
  | tryResumeIfNeeded (b : ι) (ret : Int)
  | onRemoteDied

namespace MemoryOp

variable {ι : Type} [DecidableEq ι]

def next (w : GraphicMemory ι) : MemoryOp ι → GraphicMemory ι
  | create b => w.create b
  | destroy b unmaps => w.destroy b unmaps
  | alloc b config previous hdi => (w.alloc b config previous hdi).2
  | map b get mmap => (w.map b get mmap).2
  | unmap b get success => (w.unmap b get success).2
  | getVirAddr b get mmap => (w.getVirAddr b get mmap).2
  | flushCache b get success => (w.flushCache b get success).2
  | invalidateCache b get success => (w.invalidateCache b get success).2
  | setBufferHandle b handle unmaps => w.setBufferHandle b handle unmaps
  | tryReclaim b ret => (w.tryReclaim b ret).2
  | tryResumeIfNeeded b ret => (w.tryResumeIfNeeded b ret).2
  | onRemoteDied => w.onRemoteDied

/-- A new handle is neither mapped nor reclaimed, and its address is not in use, unless by the
handle of this buffer that is freed first. -/
def NewFor (w : GraphicMemory ι) (b : ι) (handle : Option (ℕ × MemoryHandle)) : Prop :=
  ∀ p h, handle = some (p, h) →
    h.virAddr = none ∧ h.reclaimed = false ∧ ((w.handles p).isNone ∨ w.handleOf b = some p)

/-- What callers and the service promise: calls are made on objects that exist, `Alloc` is not given
its own buffer as the previous one, new handles are new, and `Mmap` gives an address that is not
mapped. -/
def Allowed (w : GraphicMemory ι) : MemoryOp ι → Prop
  | create b => w.owners b = none
  | destroy b _ | unmap b _ _ | flushCache b _ _ | invalidateCache b _ _ | tryReclaim b _
  | tryResumeIfNeeded b _ => (w.owners b).isSome
  | alloc b _ previous hdi => (w.owners b).isSome ∧ previous ≠ some b ∧ NewFor w b hdi.handle
  | map b _ mmap | getVirAddr b _ mmap =>
    (w.owners b).isSome ∧ ∀ a, mmap = some a → w.mapped a = false
  | setBufferHandle b handle _ => (w.owners b).isSome ∧ NewFor w b handle
  | onRemoteDied => True

/-- The handle of `b` would be freed without its mapping being undone. -/
def Strands (w : GraphicMemory ι) (b : ι) (displayBuffer unmaps : Bool) : Prop :=
  ((w.handleOf b).bind w.addressOf).isSome ∧ (displayBuffer = false ∨ unmaps = false)

/-- The step frees a mapped handle while the service is dead, or the service refuses to unmap it. -/
def strands (w : GraphicMemory ι) : MemoryOp ι → Prop
  | destroy b unmaps => Strands w b w.displayBuffer unmaps
  | alloc b _ _ hdi => (w.displayBuffer || hdi.get) = true ∧ Strands w b (!hdi.died) hdi.unmap
  | setBufferHandle b handle unmaps =>
    (∃ p h, handle = some (p, h) ∧ w.handleOf b ≠ some p) ∧ Strands w b w.displayBuffer unmaps
  | _ => False

end MemoryOp

namespace GraphicMemory

variable {ι : Type} {w w' w₁ : GraphicMemory ι} {b : ι} {p a : ℕ}

/-- Every handle on the heap is one buffer's, no two handles share a mapped address, and no handle
has been used or freed that was not there. -/
structure Sound (w : GraphicMemory ι) : Prop where
  handles : Exclusive w.handleOf fun p => (w.handles p).isSome
  addresses : Sole w.addressOf fun a => w.mapped a = true
  fault : w.fault = false

def Leaks (w : GraphicMemory ι) : Prop := Stray w.addressOf fun a => w.mapped a = true

/-- From a sound process to a sound one, with a leak more if `strands` holds. -/
structure Keeps (strands : Prop) (w w' : GraphicMemory ι) : Prop where
  sound : w'.Sound
  leaks : w'.Leaks ↔ w.Leaks ∨ strands

theorem Keeps.refl (h : w.Sound) : Keeps False w w := ⟨h, by simp⟩

theorem Keeps.trans {strands strands' : Prop} (h : Keeps strands w w₁) (h' : Keeps strands' w₁ w') :
    Keeps (strands ∨ strands') w w' :=
  ⟨h'.sound, by rw [h'.leaks, h.leaks, or_assoc]⟩

theorem Keeps.of_eq (h : w.Sound) (hhandleOf : w'.handleOf = w.handleOf)
    (haddressOf : w'.addressOf = w.addressOf)
    (hlive : ∀ p, (w'.handles p).isSome = (w.handles p).isSome) (hmapped : w'.mapped = w.mapped)
    (hfault : w'.fault = w.fault) : Keeps False w w' := by
  have hhandles : (fun p => ((w'.handles p).isSome : Prop)) =
      fun p => ((w.handles p).isSome : Prop) :=
    funext fun p => by rw [hlive]
  refine ⟨⟨?_, ?_, hfault.trans h.fault⟩, ?_⟩
  · rw [hhandleOf, hhandles]
    exact h.handles
  · rw [haddressOf, hmapped]
    exact h.addresses
  · rw [Leaks, haddressOf, hmapped, or_false]
    rfl

/-! What the parts of the calls do to the two maps. -/

theorem addressOf_setHandles (w : GraphicMemory ι) (p : ℕ) (h : Option MemoryHandle) :
    ({ w with handles := Function.update w.handles p h } : GraphicMemory ι).addressOf =
      Function.update w.addressOf p (h.bind (·.virAddr)) := by
  funext q
  unfold addressOf
  dsimp only
  by_cases hq : q = p
  · subst hq
    rw [Function.update_self, Function.update_self]
  · rw [Function.update_of_ne hq, Function.update_of_ne hq]

theorem addressOf_of_free (h : w.handles p = none) : w.addressOf p = none := by
  rw [addressOf, h]
  rfl

/-- A handle that somebody has is on the heap, so that looking at it is no fault. -/
theorem Sound.touch (h : w.Sound) (hp : w.handleOf b = some p) : w.touch p = w := by
  obtain ⟨h', hh'⟩ := Option.isSome_iff_exists.mp (h.handles.1.isLive hp)
  unfold GraphicMemory.touch
  rw [hh', Option.isNone_some, Bool.or_false]

theorem touch_previous (h : w.Sound) (previous : Option ι) :
    (previous.bind w.handleOf).elim w w.touch = w := by
  cases hp : previous.bind w.handleOf with
  | none => rfl
  | some p =>
    obtain ⟨c, -, hc⟩ := Option.bind_eq_some_iff.mp hp
    exact h.touch hc

theorem writeHandle_keeps (h : w.Sound) (p : ℕ) {f : MemoryHandle → MemoryHandle}
    (hf : ∀ s, (f s).virAddr = s.virAddr) : Keeps False w (w.writeHandle p f) := by
  refine .of_eq h rfl ?_ (fun q => ?_) rfl rfl
  · refine (addressOf_setHandles w p _).trans (Function.update_eq_self_iff.mpr ?_)
    unfold addressOf
    cases w.handles p <;> simp [hf]
  · unfold writeHandle
    by_cases hq : q = p
    · subst hq
      simp
    · simp [Function.update_of_ne hq]

theorem displayBuffer_keeps (h : w.Sound) (displayBuffer : Bool) :
    Keeps False w { w with displayBuffer := displayBuffer } :=
  .of_eq h rfl rfl (fun _ => rfl) rfl rfl

/-- The mappings after `writeHandle` has written the address of a handle. -/
theorem setAddress_keeps (h : w.Sound) {h' : MemoryHandle} (hp : w.handles p = some h')
    {virAddr : Option ℕ} {mapped : ℕ → Bool}
    (hsole : Sole (Function.update w.addressOf p virAddr) fun a => mapped a = true)
    (hleaks : (Stray (Function.update w.addressOf p virAddr) fun a => mapped a = true) ↔ w.Leaks) :
    Keeps False w
      { w.writeHandle p fun s => { s with virAddr := virAddr } with mapped := mapped } := by
  have haddress : (w.writeHandle p fun s => { s with virAddr := virAddr }).addressOf =
      Function.update w.addressOf p virAddr := by
    refine (addressOf_setHandles w p _).trans ?_
    rw [hp]
    rfl
  refine ⟨⟨?_, ?_, h.fault⟩, ?_⟩
  · have hlive : ∀ q, ((w.writeHandle p fun s => { s with virAddr := virAddr }).handles q).isSome =
        (w.handles q).isSome := by
      intro q
      unfold writeHandle
      by_cases hq : q = p
      · subst hq
        simp
      · simp [Function.update_of_ne hq]
    change Exclusive w.handleOf _
    simp only [hlive]
    exact h.handles
  · change Sole (w.writeHandle p fun s => { s with virAddr := virAddr }).addressOf _
    rw [haddress]
    exact hsole
  · rw [or_false, ← hleaks, ← haddress]
    rfl

theorem owner_of_handleOf (hp : w.handleOf b = some p) : (w.owners b).isSome := by
  unfold handleOf at hp
  cases hs : w.owners b with
  | none => simp [hs] at hp
  | some s => rfl

theorem Sound.nothing_left (h : w.Sound) (hgone : ∀ b, w.owners b = none) :
    (∀ p, w.handles p = none) ∧ (¬ w.Leaks → ∀ a, w.mapped a = false) := by
  have hhandles : ∀ p, w.handles p = none := fun p =>
    Option.not_isSome_iff_eq_none.mp (dead_of_none h.handles.2 (fun b => by
      rw [handleOf, hgone b]
      rfl) p)
  exact ⟨hhandles, fun hleaks a =>
    Bool.not_eq_true _ ▸ dead_of_none hleaks (fun p => addressOf_of_free (hhandles p)) a⟩

theorem sound_start (loaded : Bool) :
    ({ initMemMgrSucceed := loaded } : GraphicMemory ι).Sound where
  handles := ⟨sole_nothing _, by rintro ⟨p, hp, -⟩; exact absurd hp (by simp)⟩
  addresses := sole_nothing _
  fault := rfl

theorem not_leaks_start (loaded : Bool) :
    ¬ ({ initMemMgrSucceed := loaded } : GraphicMemory ι).Leaks := by
  rintro ⟨a, ha, -⟩
  exact absurd ha (by simp)

/-! The calls that hand the handle to the service. -/

theorem withHandle_keeps (h : w.Sound) (get : Bool)
    {call : GraphicMemory ι → ℕ → MemoryHandle → GSError × GraphicMemory ι}
    (hcall : ∀ p h', w.handleOf b = some p → w.handles p = some h' →
      Keeps False (w.getOrResetDisplayBuffer get) (call (w.getOrResetDisplayBuffer get) p h').2) :
    Keeps False w (w.withHandle b get call).2 := by
  have hopen : Keeps False w (w.getOrResetDisplayBuffer get) :=
    displayBuffer_keeps h (w.displayBuffer || get)
  have hhandle : (w.getOrResetDisplayBuffer get).handleOf b = w.handleOf b := rfl
  have hheap : (w.getOrResetDisplayBuffer get).handles = w.handles := rfl
  unfold withHandle
  simp only [hhandle, hheap]
  split_ifs
  · exact hopen
  · cases hp : w.handleOf b with
    | none => exact hopen
    | some p =>
      obtain ⟨h', hh'⟩ := Option.isSome_iff_exists.mp (h.handles.1.isLive hp)
      simp only [hh']
      have hboth := hopen.trans (hcall p h' hp hh')
      rwa [or_false] at hboth

theorem addressOf_of_handle {h' : MemoryHandle} (hp : w.handles p = some h') :
    w.addressOf p = h'.virAddr := by
  rw [addressOf, hp]
  rfl

theorem map_keeps (h : w.Sound) (get : Bool) {mmap : Option ℕ}
    (hfresh : ∀ a, mmap = some a → w.mapped a = false) : Keeps False w (w.map b get mmap).2 := by
  refine withHandle_keeps h get fun p h' hp hh' => ?_
  have hv : (w.getOrResetDisplayBuffer get).Sound := (displayBuffer_keeps h _).sound
  have hheap : (w.getOrResetDisplayBuffer get).handles p = some h' := hh'
  split_ifs with hmapped
  · exact .refl hv
  · exact .refl hv
  · cases mmap with
    | none => exact .refl hv
    | some a =>
      have hnone : (w.getOrResetDisplayBuffer get).addressOf p = none := by
        rw [addressOf_of_handle hheap]
        exact Option.not_isSome_iff_eq_none.mp hmapped
      have ha : ¬ (w.getOrResetDisplayBuffer get).mapped a = true := by
        simp [getOrResetDisplayBuffer, hfresh a rfl]
      have hlive : ∀ c, Function.update (w.getOrResetDisplayBuffer get).mapped a true c = true ↔
          (w.getOrResetDisplayBuffer get).mapped c = true ∨ c = a := by
        intro c
        by_cases hc : c = a
        · subst hc
          simp
        · simp [hc]
      exact setAddress_keeps hv hheap
        (hv.addresses.grant hnone (fun q hq => ha (hv.addresses.isLive hq))
          ((hlive a).mpr (.inr rfl)) fun c hc => (hlive c).mpr (.inl hc))
        (stray_grant hnone ha hlive)

theorem unmap_keeps (h : w.Sound) (get success : Bool) :
    Keeps False w (w.unmap b get success).2 := by
  refine withHandle_keeps h get fun p h' hp hh' => ?_
  have hv : (w.getOrResetDisplayBuffer get).Sound := (displayBuffer_keeps h _).sound
  have hheap : (w.getOrResetDisplayBuffer get).handles p = some h' := hh'
  cases ha : h'.virAddr with
  | none => exact .refl hv
  | some a =>
    have hsome : (w.getOrResetDisplayBuffer get).addressOf p = some a :=
      (addressOf_of_handle hheap).trans ha
    cases success with
    | false => exact .refl hv
    | true =>
      have hlive : ∀ c, Function.update (w.getOrResetDisplayBuffer get).mapped a false c = true ↔
          (w.getOrResetDisplayBuffer get).mapped c = true ∧
            (w.getOrResetDisplayBuffer get).addressOf p ≠ some c := by
        intro c
        rw [hsome]
        by_cases hc : c = a
        · subst hc
          simp
        · simp [Function.update_of_ne hc, Ne.symm hc]
      exact setAddress_keeps hv hheap
        (hv.addresses.release fun c hc hne => (hlive c).mpr ⟨hc, hne⟩) (stray_release hlive)

theorem flushCache_keeps (h : w.Sound) (get success : Bool) :
    Keeps False w (w.flushCache b get success).2 :=
  withHandle_keeps h get fun _ _ _ _ => .refl (displayBuffer_keeps h _).sound

theorem invalidateCache_keeps (h : w.Sound) (get success : Bool) :
    Keeps False w (w.invalidateCache b get success).2 :=
  withHandle_keeps h get fun _ _ _ _ => .refl (displayBuffer_keeps h _).sound

variable [DecidableEq ι]

theorem handleOf_writeOwner (w : GraphicMemory ι) (b : ι) (f : MemoryOwner → MemoryOwner)
    (hf : ∀ s, (f s).handle = s.handle) : (w.writeOwner b f).handleOf = w.handleOf := by
  funext c
  unfold handleOf writeOwner
  dsimp only
  by_cases hc : c = b
  · subst hc
    rw [Function.update_self]
    cases w.owners c <;> simp [hf]
  · rw [Function.update_of_ne hc]

theorem handleOf_setHandle (w : GraphicMemory ι) {b : ι} (hb : (w.owners b).isSome)
    (handle : Option ℕ) :
    (w.writeOwner b fun s => { s with handle := handle }).handleOf =
      Function.update w.handleOf b handle := by
  funext c
  unfold handleOf writeOwner
  dsimp only
  by_cases hc : c = b
  · subst hc
    rw [Function.update_self, Function.update_self]
    obtain ⟨s, hs⟩ := Option.isSome_iff_exists.mp hb
    simp [hs]
  · rw [Function.update_of_ne hc, Function.update_of_ne hc]

theorem Sound.dropHandle (h : w.Sound) (hp : w.handleOf b = some p) {mapped : ℕ → Bool}
    (hmapped : ∀ a, w.mapped a = true → w.addressOf p ≠ some a → mapped a = true) :
    ({ w.dropHandle b p with mapped := mapped } : GraphicMemory ι).Sound := by
  unfold GraphicMemory.dropHandle
  rw [h.touch hp]
  refine ⟨?_, ?_, h.fault⟩
  · change Exclusive (w.writeOwner b fun s => { s with handle := none }).handleOf _
    rw [handleOf_setHandle w (owner_of_handleOf hp)]
    refine h.handles.release fun q => ?_
    rw [hp]
    by_cases hq : q = p
    · subst hq
      simp
    · simp [Function.update_of_ne hq, Ne.symm hq, writeOwner]
  · change Sole
      ({ w with handles := Function.update w.handles p none } : GraphicMemory ι).addressOf _
    rw [addressOf_setHandles]
    exact h.addresses.release hmapped

theorem leaks_dropHandle (h : w.Sound) (hp : w.handleOf b = some p) (mapped : ℕ → Bool) :
    ({ w.dropHandle b p with mapped := mapped } : GraphicMemory ι).Leaks ↔
      Stray (Function.update w.addressOf p none) fun a => mapped a = true := by
  unfold GraphicMemory.dropHandle
  rw [h.touch hp]
  change Stray
    ({ w with handles := Function.update w.handles p none } : GraphicMemory ι).addressOf _ ↔ _
  rw [addressOf_setHandles]
  rfl

theorem freeBufferHandleLocked_keeps (h : w.Sound) (b : ι) (unmaps : Bool) :
    Keeps (MemoryOp.Strands w b w.displayBuffer unmaps) w (w.freeBufferHandleLocked b unmaps) := by
  unfold freeBufferHandleLocked MemoryOp.Strands
  cases hp : w.handleOf b with
  | none => exact ⟨h, by simp⟩
  | some p =>
    rw [Option.bind_some]
    have whole := h.dropHandle hp fun _ ha _ => ha
    have wholeLeaks := leaks_dropHandle h hp w.mapped
    cases ha : w.addressOf p with
    | none =>
      have hkeeps : Keeps False w (w.dropHandle b p) :=
        ⟨whole, by rw [or_false]; exact wholeLeaks.trans (stray_release fun a => by simp [ha])⟩
      simpa [ha] using hkeeps
    | some a =>
      have hstranded : Keeps True w (w.dropHandle b p) :=
        ⟨whole, iff_of_true (wholeLeaks.mpr (h.addresses.stray_abandon ha)) (.inr trivial)⟩
      cases hservice : w.displayBuffer with
      | false => simpa [ha] using hstranded
      | true =>
        cases unmaps with
        | false => simpa [ha] using hstranded
        | true =>
          have hlive : ∀ c, Function.update w.mapped a false c = true ↔
              w.mapped c = true ∧ w.addressOf p ≠ some c := by
            intro c
            rw [ha]
            by_cases hc : c = a
            · subst hc
              simp
            · simp [Function.update_of_ne hc, Ne.symm hc]
          have hkeeps : Keeps False w
              { w.dropHandle b p with mapped := Function.update w.mapped a false } :=
            ⟨h.dropHandle hp fun c hc hne => (hlive c).mpr ⟨hc, hne⟩, by
              rw [or_false]; exact (leaks_dropHandle h hp _).trans (stray_release hlive)⟩
          simpa [ha] using hkeeps

theorem freeBufferHandleLocked_cases (w : GraphicMemory ι) (b : ι) (unmaps : Bool) :
    (w.handleOf b = none ∧ w.freeBufferHandleLocked b unmaps = w) ∨
      ∃ p mapped, w.handleOf b = some p ∧
        w.freeBufferHandleLocked b unmaps = { w.dropHandle b p with mapped := mapped } := by
  unfold freeBufferHandleLocked
  cases w.handleOf b with
  | none => exact .inl ⟨rfl, rfl⟩
  | some p =>
    refine .inr ?_
    dsimp only
    cases w.displayBuffer with
    | false => exact ⟨p, w.mapped, rfl, rfl⟩
    | true =>
      cases w.addressOf p with
      | none => exact ⟨p, w.mapped, rfl, rfl⟩
      | some a =>
        cases unmaps with
        | false => exact ⟨p, w.mapped, rfl, rfl⟩
        | true => exact ⟨p, Function.update w.mapped a false, rfl, rfl⟩

theorem owners_dropHandle (w : GraphicMemory ι) (b c : ι) (p : ℕ) :
    ((w.dropHandle b p).owners c).isSome = (w.owners c).isSome := by
  unfold dropHandle writeOwner GraphicMemory.touch
  dsimp only
  by_cases hc : c = b
  · subst hc
    rw [Function.update_self, Option.isSome_map]
  · rw [Function.update_of_ne hc]

theorem owners_free (w : GraphicMemory ι) (b c : ι) (unmaps : Bool) :
    ((w.freeBufferHandleLocked b unmaps).owners c).isSome = (w.owners c).isSome := by
  rcases w.freeBufferHandleLocked_cases b unmaps with ⟨-, hsame⟩ | ⟨p, mapped, -, hdrop⟩
  · rw [hsame]
  · rw [hdrop]
    exact owners_dropHandle w b c p

theorem handleOf_free (w : GraphicMemory ι) (b : ι) (unmaps : Bool) :
    (w.freeBufferHandleLocked b unmaps).handleOf b = none := by
  rcases w.freeBufferHandleLocked_cases b unmaps with ⟨hnone, hsame⟩ | ⟨p, mapped, hp, hdrop⟩
  · rw [hsame]
    exact hnone
  · have hset := congrFun (handleOf_setHandle (w.touch p) (owner_of_handleOf hp) none) b
    rw [Function.update_self] at hset
    rw [hdrop]
    exact hset

theorem handles_free (w : GraphicMemory ι) (b : ι) (unmaps : Bool) {p : ℕ}
    (hp : (w.handles p).isNone ∨ w.handleOf b = some p) :
    (w.freeBufferHandleLocked b unmaps).handles p = none := by
  rcases w.freeBufferHandleLocked_cases b unmaps with ⟨hnone, hsame⟩ | ⟨q, mapped, hq, hdrop⟩
  · rw [hsame]
    rw [hnone] at hp
    exact Option.isNone_iff_eq_none.mp (hp.resolve_right (by simp))
  · rw [hdrop]
    change Function.update w.handles q none p = none
    by_cases hpq : p = q
    · rw [hpq, Function.update_self]
    · rw [Function.update_of_ne hpq]
      rw [hq, Option.some.injEq] at hp
      exact Option.isNone_iff_eq_none.mp (hp.resolve_right (Ne.symm hpq))

theorem takeHandle_keeps (h : w.Sound) (hb : (w.owners b).isSome) (hnone : w.handleOf b = none)
    (hp : w.handles p = none) {h' : MemoryHandle} (hv : h'.virAddr = none) :
    Keeps False w (w.takeHandle b p h') := by
  have haddress : (w.takeHandle b p h').addressOf = w.addressOf := by
    refine (addressOf_setHandles (w.writeOwner b fun s => { s with handle := some p }) p _).trans ?_
    rw [Option.bind_some, hv]
    exact Function.update_eq_self_iff.mpr (addressOf_of_free hp).symm
  refine ⟨⟨?_, ?_, h.fault⟩, ?_⟩
  · change Exclusive (w.writeOwner b fun s => { s with handle := some p }).handleOf _
    rw [handleOf_setHandle w hb]
    refine h.handles.grant hnone (by simp [hp]) fun q => ?_
    by_cases hq : q = p
    · subst hq
      simp [takeHandle]
    · simp [takeHandle, writeOwner, hq]
  · rw [haddress]
    exact h.addresses
  · rw [Leaks, haddress, or_false]
    rfl

theorem writeOwner_keeps (h : w.Sound) (b : ι) {f : MemoryOwner → MemoryOwner}
    (hf : ∀ s, (f s).handle = s.handle) : Keeps False w (w.writeOwner b f) :=
  .of_eq h (handleOf_writeOwner w b f hf) rfl (fun _ => rfl) rfl rfl

theorem noteReclaimed_keeps (h : w.Sound) (b : ι) (reclaimed : Bool) :
    Keeps False w (w.noteReclaimed b reclaimed) :=
  writeOwner_keeps h b fun _ => rfl

theorem takeAll_keeps (h : w.Sound) (hb : (w.owners b).isSome) (hnone : w.handleOf b = none)
    {handle : Option (ℕ × MemoryHandle)}
    (hnew : ∀ p h', handle = some (p, h') → w.handles p = none ∧ h'.virAddr = none) :
    Keeps False w (handle.elim w fun (p, h') => w.takeHandle b p h') := by
  cases handle with
  | none => exact .refl h
  | some new =>
    obtain ⟨hp, hv⟩ := hnew new.1 new.2 rfl
    exact takeHandle_keeps h hb hnone hp hv

theorem alloc_keeps (h : w.Sound) (config : BufferRequestConfig) (previous : Option ι)
    (hdi : AllocAnswers) (hb : (w.owners b).isSome) (hnew : MemoryOp.NewFor w b hdi.handle) :
    Keeps ((w.displayBuffer || hdi.get) = true ∧ MemoryOp.Strands w b (!hdi.died) hdi.unmap) w
      (w.alloc b config previous hdi).2 := by
  unfold alloc getOrResetDisplayBuffer
  cases hservice : w.displayBuffer || hdi.get with
  | false => simpa using displayBuffer_keeps h false
  | true =>
    simp only [Bool.true_eq_false, if_false, true_and]
    have hopen := displayBuffer_keeps h (!hdi.died)
    set v : GraphicMemory ι := { w with displayBuffer := !hdi.died } with hv
    have hfree := freeBufferHandleLocked_keeps hopen.sound b hdi.unmap
    have hfreed := hopen.trans hfree
    rw [false_or] at hfreed
    set u := v.freeBufferHandleLocked b hdi.unmap with hu
    have hstrands : MemoryOp.Strands v b v.displayBuffer hdi.unmap =
        MemoryOp.Strands w b (!hdi.died) hdi.unmap := rfl
    rw [hstrands] at hfreed
    by_cases hconfig : checkBufferConfig config.width config.height config.format = .ok
    · rw [if_neg (not_not_intro hconfig), touch_previous hfreed.sound]
      have htaken : Keeps False u (hdi.handle.elim u fun (p, h') => u.takeHandle b p h') :=
        takeAll_keeps hfreed.sound (by rw [hu, owners_free]; exact hb) (handleOf_free v b _)
          fun p h' hp => ⟨handles_free v b _ (hnew p h' hp).2.2, (hnew p h' hp).1⟩
      have hall := hfreed.trans htaken
      rw [or_false] at hall
      split_ifs with hret hregistered
      · exact hall
      · have hwritten := hall.trans (writeOwner_keeps hall.sound b (f := fun s => { s with
          surfaceBufferColorGamut := config.colorGamut
          transform := config.transform
          surfaceBufferWidth := config.width
          surfaceBufferHeight := config.height
          bufferRequestConfig := some config }) fun _ => rfl)
        rwa [or_false] at hwritten
      · exact hall
    · rw [if_pos hconfig]
      exact hfreed

theorem setBufferHandle_keeps (h : w.Sound) (hb : (w.owners b).isSome)
    {handle : Option (ℕ × MemoryHandle)} (unmaps : Bool) (hnew : MemoryOp.NewFor w b handle) :
    Keeps ((∃ p h', handle = some (p, h') ∧ w.handleOf b ≠ some p) ∧
      MemoryOp.Strands w b w.displayBuffer unmaps) w (w.setBufferHandle b handle unmaps) := by
  unfold setBufferHandle
  cases handle with
  | none => simpa using Keeps.refl h
  | some new =>
    obtain ⟨p, h'⟩ := new
    obtain ⟨hv, -, hp⟩ := hnew p h' rfl
    by_cases hsame : w.handleOf b = some p
    · simpa [hsame] using Keeps.refl h
    · have hfree := freeBufferHandleLocked_keeps h b unmaps
      have htaken := takeHandle_keeps hfree.sound ((owners_free w b b unmaps).symm ▸ hb)
        (handleOf_free w b unmaps) (handles_free w b unmaps hp) hv
      have hboth := hfree.trans htaken
      rw [or_false] at hboth
      have hothers : ∃ q h'', some (p, h') = some (q, h'') ∧ w.handleOf b ≠ some q :=
        ⟨p, h', rfl, hsame⟩
      simpa [hsame, hothers] using hboth

theorem remember_keeps (h : w.Sound) (b : ι) (expected : Bool) (ret : Int) :
    Keeps False w (w.remember b expected ret).2 := by
  unfold remember
  split
  · exact .refl h
  split
  · exact .refl h
  · cases hp : w.handleOf b with
    | none => exact .refl h
    | some p =>
      dsimp only
      split_ifs
      · rw [h.touch hp]
        exact .refl h
      · have hhandle := writeHandle_keeps h p (f := fun s => { s with reclaimed := !expected })
          fun _ => rfl
        have hboth := hhandle.trans (noteReclaimed_keeps hhandle.sound b !expected)
        rwa [or_false] at hboth
      · exact noteReclaimed_keeps h b expected

theorem create_keeps (h : w.Sound) (hb : w.owners b = none) : Keeps False w (w.create b) := by
  refine .of_eq h ?_ rfl (fun _ => rfl) rfl rfl
  funext c
  unfold handleOf create
  dsimp only
  by_cases hc : c = b
  · subst hc
    rw [Function.update_self, hb]
    rfl
  · rw [Function.update_of_ne hc]

theorem destroy_keeps (h : w.Sound) (b : ι) (unmaps : Bool) :
    Keeps (MemoryOp.Strands w b w.displayBuffer unmaps) w (w.destroy b unmaps) := by
  have hfree := freeBufferHandleLocked_keeps h b unmaps
  have hgone : Keeps False (w.freeBufferHandleLocked b unmaps) (w.destroy b unmaps) := by
    refine .of_eq hfree.sound ?_ rfl (fun _ => rfl) rfl rfl
    funext c
    by_cases hc : c = b
    · subst hc
      rw [handleOf_free]
      unfold handleOf destroy
      simp
    · unfold handleOf destroy
      simp [Function.update_of_ne hc]
  have hboth := hfree.trans hgone
  rwa [or_false] at hboth

end GraphicMemory

namespace MemoryOp

variable {ι : Type} [DecidableEq ι] {w : GraphicMemory ι}

open GraphicMemory

theorem next_keeps (h : w.Sound) {op : MemoryOp ι} (hop : op.Allowed w) :
    Keeps (op.strands w) w (op.next w) := by
  cases op with
  | create b => exact create_keeps h hop
  | destroy b unmaps => exact destroy_keeps h b unmaps
  | alloc b config previous hdi => exact alloc_keeps h config previous hdi hop.1 hop.2.2
  | map b get mmap => exact map_keeps h get hop.2
  | unmap b get success => exact unmap_keeps h get success
  | getVirAddr b get mmap => exact map_keeps h get hop.2
  | flushCache b get success => exact flushCache_keeps h get success
  | invalidateCache b get success => exact invalidateCache_keeps h get success
  | setBufferHandle b handle unmaps => exact setBufferHandle_keeps h hop.1 unmaps hop.2
  | tryReclaim b ret => exact remember_keeps h b false ret
  | tryResumeIfNeeded b ret => exact remember_keeps h b true ret
  | onRemoteDied => exact displayBuffer_keeps h false

/-- A run of calls, by induction on the calls. -/
theorem execute_keeps (h : w.Sound) {ops : List (MemoryOp ι)}
    (legal : Legal next (fun w op => op.Allowed w) w ops) :
    Keeps (¬ Legal next (fun w op => ¬ op.strands w) w ops) w (execute next w ops) := by
  induction ops generalizing w with
  | nil => simpa [Legal, execute] using Keeps.refl h
  | cons op ops ih =>
    have first := next_keeps h legal.1
    have both := first.trans (ih first.sound legal.2)
    have hlegal : ¬ Legal next (fun w op => ¬ op.strands w) w (op :: ops) ↔
        op.strands w ∨ ¬ Legal next (fun w op => ¬ op.strands w) (op.next w) ops := by
      rw [Legal, not_and_or, not_not]
    rwa [hlegal]

/-- Over the whole life of a process no handle is lost, freed twice or used after it has been
freed, and no address is in two handles. A mapping is lost if and only if a mapped handle has been
freed that the service could not unmap, and otherwise nothing outlives the buffers. -/
theorem memory_is_accounted_for (loaded : Bool) (ops : List (MemoryOp ι))
    (legal : Legal next (fun w op => op.Allowed w) { initMemMgrSucceed := loaded } ops) :
    (execute next { initMemMgrSucceed := loaded } ops).Sound ∧
      ((execute next { initMemMgrSucceed := loaded } ops).Leaks ↔
        ¬ Legal next (fun w op => ¬ op.strands w) { initMemMgrSucceed := loaded } ops) ∧
      ((∀ b, (execute next { initMemMgrSucceed := loaded } ops).owners b = none) →
        (∀ p, (execute next { initMemMgrSucceed := loaded } ops).handles p = none) ∧
          (Legal next (fun w op => ¬ op.strands w) { initMemMgrSucceed := loaded } ops →
            ∀ a, (execute next { initMemMgrSucceed := loaded } ops).mapped a = false)) := by
  have hrun := execute_keeps (sound_start loaded) legal
  have hleaks := hrun.leaks.trans (or_iff_right (not_leaks_start loaded))
  refine ⟨hrun.sound, hleaks, fun hgone => ?_⟩
  obtain ⟨hhandles, hmapped⟩ := hrun.sound.nothing_left hgone
  exact ⟨hhandles, fun hkept => hmapped fun hlost => hleaks.mp hlost hkept⟩

def orphaned : List (MemoryOp Bool) :=
  [create true,
    alloc true ⟨8, 8, 8, 12, 0, 0, 4, 0, 1⟩ none
      { get := true, died := false, unmap := true, ret := 0,
        handle := some (7, { fd := 3, usage := 0 }), registered := 0 },
    map true true (some 4096), onRemoteDied, destroy true true]

theorem orphaned_allowed :
    Legal next (fun w op => op.Allowed w) { initMemMgrSucceed := false } orphaned := by
  refine ⟨rfl, ⟨rfl, by simp, fun p h hp => ?_⟩, ⟨rfl, fun a _ => rfl⟩, trivial, rfl, trivial⟩
  obtain ⟨rfl, rfl⟩ : 7 = p ∧ { fd := 3, usage := 0 } = h := by simpa using hp
  exact ⟨rfl, rfl, .inl rfl⟩

theorem memory_is_accounted_for_orphaned :
    (execute next { initMemMgrSucceed := false } orphaned).owners true = none ∧
      (execute next { initMemMgrSucceed := false } orphaned).Sound ∧
      (execute next { initMemMgrSucceed := false } orphaned).Leaks := by
  obtain ⟨hsound, hleaks, -⟩ := memory_is_accounted_for false orphaned orphaned_allowed
  refine ⟨rfl, hsound, hleaks.mpr fun kept => ?_⟩
  exact kept.2.2.2.2.1 ⟨rfl, .inl rfl⟩

end MemoryOp

end GraphicSurface
