import GraphicSurface.SurfaceMemory

/-! `isReclaimed_` beside what the memory manager has reclaimed. `Alloc` and `SetBufferHandle` give
an object another handle and leave the flag as it is. -/

namespace GraphicSurface

open Custody Runs

namespace GraphicMemory

variable {ι : Type} {w w' : GraphicMemory ι} {b : ι} {p : ℕ}

/-- `IsReclaimed`. -/
def isReclaimed (w : GraphicMemory ι) (b : ι) : Bool := (w.owners b).elim false (·.isReclaimed)

def memoryReclaimed (w : GraphicMemory ι) (b : ι) : Bool :=
  ((w.handleOf b).bind w.handles).elim false (·.reclaimed)

/-- The flag of every object says what has become of its memory. -/
def Honest (w : GraphicMemory ι) : Prop := ∀ b, w.isReclaimed b = w.memoryReclaimed b

theorem Honest.congr (hflags : ∀ c, w'.isReclaimed c = w.isReclaimed c)
    (hmemories : ∀ c, w'.memoryReclaimed c = w.memoryReclaimed c) : w'.Honest ↔ w.Honest := by
  simp only [Honest, hflags, hmemories]

theorem Honest.replaced (h : w.Honest) (hflags : ∀ c, w'.isReclaimed c = w.isReclaimed c)
    (hothers : ∀ c, c ≠ b → w'.memoryReclaimed c = w.memoryReclaimed c)
    (hnew : w'.memoryReclaimed b = false) : w'.Honest ↔ w.isReclaimed b = false := by
  constructor
  · intro h'
    rw [← hflags, h', hnew]
  · intro hb c
    by_cases hc : c = b
    · rw [hc, hflags, hb, hnew]
    · rw [hflags, hothers c hc]
      exact h c

theorem memoryReclaimed_of_handleOf (hp : w.handleOf b = some p) :
    w.memoryReclaimed b = (w.handles p).elim false (·.reclaimed) := by
  rw [memoryReclaimed, hp]
  rfl

theorem memoryReclaimed_of_none (hp : w.handleOf b = none) : w.memoryReclaimed b = false := by
  rw [memoryReclaimed, hp]
  rfl

theorem memoryReclaimed_of_others {c : ι} (hhandle : w'.handleOf c = w.handleOf c)
    (hhandles : ∀ q, q ≠ p → w'.handles q = w.handles q) (hp : w.handleOf c ≠ some p) :
    w'.memoryReclaimed c = w.memoryReclaimed c := by
  unfold memoryReclaimed
  rw [hhandle]
  cases hq : w.handleOf c with
  | none => rfl
  | some q =>
    rw [Option.bind_some, Option.bind_some, hhandles q fun hqp => hp (hqp ▸ hq)]

theorem withHandle_honest (hw : w.Honest) (b : ι) (get : Bool)
    {call : GraphicMemory ι → ℕ → MemoryHandle → GSError × GraphicMemory ι}
    (hcall : ∀ v p h', v.Honest → (call v p h').2.Honest) : (w.withHandle b get call).2.Honest := by
  have hopen : (w.getOrResetDisplayBuffer get).Honest :=
    (Honest.congr (fun _ => rfl) fun _ => rfl).mpr hw
  unfold withHandle
  dsimp only
  split
  · exact hopen
  · split
    · exact hopen
    · split
      · exact (Honest.congr (fun _ => rfl) fun _ => rfl).mpr hopen
      · exact hcall _ _ _ hopen

theorem setAddress_honest (hw : w.Honest) (p : ℕ) (virAddr : Option ℕ) (mapped : ℕ → Bool) :
    ({ w.writeHandle p fun s => { s with virAddr := virAddr } with
      mapped := mapped } : GraphicMemory ι).Honest := by
  refine Iff.mpr (Honest.congr (w := w) ?_ fun c => ?_) hw
  · exact fun _ => rfl
  change ((w.handleOf c).bind (Function.update w.handles p _)).elim false _ =
    ((w.handleOf c).bind w.handles).elim false _
  cases w.handleOf c with
  | none => rfl
  | some q =>
    rw [Option.bind_some, Option.bind_some]
    by_cases hq : q = p
    · subst hq
      rw [Function.update_self]
      cases w.handles q <;> rfl
    · rw [Function.update_of_ne hq]

theorem map_honest (hw : w.Honest) (b : ι) (get : Bool) (mmap : Option ℕ) :
    (w.map b get mmap).2.Honest := by
  refine withHandle_honest hw b get fun v p h' hv => ?_
  split_ifs
  · exact hv
  · exact hv
  · cases mmap with
    | none => exact hv
    | some a => exact setAddress_honest hv p (some a) _

theorem unmap_honest (hw : w.Honest) (b : ι) (get success : Bool) :
    (w.unmap b get success).2.Honest := by
  refine withHandle_honest hw b get fun v p h' hv => ?_
  cases h'.virAddr with
  | none => exact hv
  | some a =>
    cases success with
    | false => exact hv
    | true => exact setAddress_honest hv p none _

variable [DecidableEq ι]

theorem isReclaimed_writeOwner (w : GraphicMemory ι) (b c : ι) {f : MemoryOwner → MemoryOwner}
    (hf : ∀ s, (f s).isReclaimed = s.isReclaimed) :
    (w.writeOwner b f).isReclaimed c = w.isReclaimed c := by
  unfold isReclaimed writeOwner
  dsimp only
  by_cases hc : c = b
  · subst hc
    rw [Function.update_self]
    cases w.owners c <;> simp [hf]
  · rw [Function.update_of_ne hc]

theorem writeOwner_honest (w : GraphicMemory ι) (b : ι) {f : MemoryOwner → MemoryOwner}
    (hhandle : ∀ s, (f s).handle = s.handle) (hf : ∀ s, (f s).isReclaimed = s.isReclaimed) :
    (w.writeOwner b f).Honest ↔ w.Honest := by
  refine Honest.congr (fun c => isReclaimed_writeOwner w b c hf) fun c => ?_
  unfold memoryReclaimed
  rw [handleOf_writeOwner w b f hhandle]
  rfl

theorem isReclaimed_noteReclaimed (w : GraphicMemory ι) (b c : ι) (reclaimed : Bool) :
    (w.noteReclaimed b reclaimed).isReclaimed c =
      if c = b then (w.owners b).isSome && reclaimed else w.isReclaimed c := by
  unfold isReclaimed noteReclaimed writeOwner
  dsimp only
  by_cases hc : c = b
  · subst hc
    rw [Function.update_self, if_pos rfl]
    cases w.owners c <;> rfl
  · rw [Function.update_of_ne hc, if_neg hc]

theorem handleOf_noteReclaimed (w : GraphicMemory ι) (b : ι) (reclaimed : Bool) :
    (w.noteReclaimed b reclaimed).handleOf = w.handleOf :=
  handleOf_writeOwner w b _ fun _ => rfl

theorem isReclaimed_free (w : GraphicMemory ι) (b c : ι) (unmaps : Bool) :
    (w.freeBufferHandleLocked b unmaps).isReclaimed c = w.isReclaimed c := by
  rcases w.freeBufferHandleLocked_cases b unmaps with ⟨-, hsame⟩ | ⟨p, mapped, -, hdrop⟩
  · rw [hsame]
  · rw [hdrop]
    exact isReclaimed_writeOwner (w.touch p) b c fun _ => rfl

theorem handleOf_free_of_ne (w : GraphicMemory ι) {b c : ι} (hc : c ≠ b) (unmaps : Bool) :
    (w.freeBufferHandleLocked b unmaps).handleOf c = w.handleOf c := by
  rcases w.freeBufferHandleLocked_cases b unmaps with ⟨-, hsame⟩ | ⟨p, mapped, hp, hdrop⟩
  · rw [hsame]
  · rw [hdrop]
    have hset := congrFun (handleOf_setHandle (w.touch p) (owner_of_handleOf hp) none) c
    rw [Function.update_of_ne hc] at hset
    exact hset

theorem memoryReclaimed_free (h : w.Sound) {b c : ι} (hc : c ≠ b) (unmaps : Bool) :
    (w.freeBufferHandleLocked b unmaps).memoryReclaimed c = w.memoryReclaimed c := by
  have hhandle := handleOf_free_of_ne w hc unmaps
  rcases w.freeBufferHandleLocked_cases b unmaps with ⟨-, hsame⟩ | ⟨p, mapped, hp, hdrop⟩
  · rw [hsame]
  · refine memoryReclaimed_of_others (p := p) hhandle (fun q hq => ?_) fun hcp =>
      hc (h.handles.1.alone hcp hp)
    rw [hdrop]
    exact Function.update_of_ne hq none w.handles

theorem free_honest (h : w.Sound) (hw : w.Honest) (b : ι) (unmaps : Bool) :
    (w.freeBufferHandleLocked b unmaps).Honest ↔ w.isReclaimed b = false :=
  hw.replaced (fun c => isReclaimed_free w b c unmaps)
    (fun _ hc => memoryReclaimed_free h hc unmaps) (memoryReclaimed_of_none (handleOf_free w b unmaps))

theorem isReclaimed_takeHandle (w : GraphicMemory ι) (b c : ι) (p : ℕ) (h' : MemoryHandle) :
    (w.takeHandle b p h').isReclaimed c = w.isReclaimed c :=
  isReclaimed_writeOwner w b c fun _ => rfl

theorem memoryReclaimed_takeHandle (h : w.Sound) (hb : (w.owners b).isSome)
    (hp : w.handles p = none) (h' : MemoryHandle) (c : ι) :
    (w.takeHandle b p h').memoryReclaimed c =
      if c = b then h'.reclaimed else w.memoryReclaimed c := by
  have hset : (w.takeHandle b p h').handleOf c = Function.update w.handleOf b (some p) c :=
    congrFun (handleOf_setHandle w hb (some p)) c
  by_cases hc : c = b
  · subst hc
    rw [Function.update_self] at hset
    rw [if_pos rfl, memoryReclaimed_of_handleOf hset]
    change ((Function.update w.handles p (some h')) p).elim false (·.reclaimed) = h'.reclaimed
    rw [Function.update_self]
    rfl
  · rw [Function.update_of_ne hc] at hset
    rw [if_neg hc]
    refine memoryReclaimed_of_others (p := p) hset (fun q hq => ?_) fun hcp => ?_
    · exact Function.update_of_ne hq (some h') w.handles
    · simpa [hp] using h.handles.1.isLive hcp

theorem reallocated_honest (h : w.Sound) (hw : w.Honest) (hb : (w.owners b).isSome) (unmaps : Bool)
    {handle : Option (ℕ × MemoryHandle)} (hnew : MemoryOp.NewFor w b handle) :
    (handle.elim (w.freeBufferHandleLocked b unmaps) fun (p, h') =>
      (w.freeBufferHandleLocked b unmaps).takeHandle b p h').Honest ↔ w.isReclaimed b = false := by
  cases handle with
  | none => exact free_honest h hw b unmaps
  | some new =>
    obtain ⟨p, h'⟩ := new
    obtain ⟨-, hfresh, hp⟩ := hnew p h' rfl
    have hfree := (freeBufferHandleLocked_keeps h b unmaps).sound
    have htaken := memoryReclaimed_takeHandle hfree ((owners_free w b b unmaps).symm ▸ hb)
      (handles_free w b unmaps hp) h'
    refine hw.replaced (fun c => ?_) (fun c hc => ?_) ?_
    · exact (isReclaimed_takeHandle _ b c p h').trans (isReclaimed_free w b c unmaps)
    · rw [Option.elim_some, htaken, if_neg hc]
      exact memoryReclaimed_free h hc unmaps
    · rw [Option.elim_some, htaken, if_pos rfl]
      exact hfresh

theorem alloc_honest (h : w.Sound) (hw : w.Honest) (config : BufferRequestConfig)
    (previous : Option ι) (hdi : AllocAnswers) (hb : (w.owners b).isSome)
    (hnew : MemoryOp.NewFor w b hdi.handle) :
    (w.alloc b config previous hdi).2.Honest ↔
      ¬ ((w.displayBuffer || hdi.get) = true ∧ w.isReclaimed b = true) := by
  unfold alloc getOrResetDisplayBuffer
  cases hservice : w.displayBuffer || hdi.get with
  | false =>
    have hsame : ({ w with displayBuffer := false } : GraphicMemory ι).Honest ↔ w.Honest :=
      Honest.congr (fun _ => rfl) fun _ => rfl
    simpa using hsame.mpr hw
  | true =>
    simp only [Bool.true_eq_false, if_false, true_and, Bool.not_eq_true]
    have hopen := displayBuffer_keeps h (!hdi.died)
    set v : GraphicMemory ι := { w with displayBuffer := !hdi.died } with hv
    have hvw : v.Honest := (Honest.congr (fun _ => rfl) fun _ => rfl).mpr hw
    have hfreed := free_honest hopen.sound hvw b hdi.unmap
    have htaken := reallocated_honest hopen.sound hvw hb hdi.unmap hnew
    by_cases hconfig : checkBufferConfig config.width config.height config.format = .ok
    · rw [if_neg (not_not_intro hconfig),
        touch_previous (freeBufferHandleLocked_keeps hopen.sound b hdi.unmap).sound]
      split_ifs with hret hregistered
      · exact htaken
      · refine Iff.trans (writeOwner_honest _ b ?_ ?_) htaken
        · exact fun _ => rfl
        · exact fun _ => rfl
      · exact htaken
    · rw [if_pos hconfig]
      exact hfreed

theorem setBufferHandle_honest (h : w.Sound) (hw : w.Honest) (hb : (w.owners b).isSome)
    {handle : Option (ℕ × MemoryHandle)} (unmaps : Bool) (hnew : MemoryOp.NewFor w b handle) :
    (w.setBufferHandle b handle unmaps).Honest ↔
      ¬ ((∃ p h', handle = some (p, h') ∧ w.handleOf b ≠ some p) ∧ w.isReclaimed b = true) := by
  unfold setBufferHandle
  cases handle with
  | none => simpa using hw
  | some new =>
    obtain ⟨p, h'⟩ := new
    by_cases hsame : w.handleOf b = some p
    · simpa [hsame] using hw
    · have hothers : ∃ q h'', some (p, h') = some (q, h'') ∧ w.handleOf b ≠ some q :=
        ⟨p, h', rfl, hsame⟩
      simpa [hsame, hothers] using reallocated_honest h hw hb unmaps hnew

theorem create_honest (hw : w.Honest) (hb : w.owners b = none) : (w.create b).Honest := by
  refine (Honest.congr (fun c => ?_) fun c => ?_).mpr hw
  all_goals
    by_cases hc : c = b
    · subst hc
      simp [isReclaimed, memoryReclaimed, handleOf, create, hb]
    · simp [isReclaimed, memoryReclaimed, handleOf, create, hc]

theorem destroy_honest (h : w.Sound) (hw : w.Honest) (b : ι) (unmaps : Bool) :
    (w.destroy b unmaps).Honest := by
  intro c
  by_cases hc : c = b
  · subst hc
    simp [isReclaimed, memoryReclaimed, handleOf, destroy]
  · have hflag : (w.destroy b unmaps).isReclaimed c =
        (w.freeBufferHandleLocked b unmaps).isReclaimed c := by
      simp [isReclaimed, destroy, hc]
    have hmemory : (w.destroy b unmaps).memoryReclaimed c =
        (w.freeBufferHandleLocked b unmaps).memoryReclaimed c := by
      simp [memoryReclaimed, handleOf, destroy, hc]
    rw [hflag, hmemory, isReclaimed_free, memoryReclaimed_free h hc]
    exact hw c

theorem reclaimed_honest (h : w.Sound) (hw : w.Honest) (hp : w.handleOf b = some p)
    (reclaimed : Bool) :
    ((w.writeHandle p fun s => { s with reclaimed := reclaimed }).noteReclaimed b
      reclaimed).Honest := by
  set v := w.writeHandle p fun s => { s with reclaimed := reclaimed } with hv
  obtain ⟨h', hh'⟩ := Option.isSome_iff_exists.mp (h.handles.1.isLive hp)
  have hhandle : (v.noteReclaimed b reclaimed).handleOf = w.handleOf := handleOf_noteReclaimed v b _
  have hb : (v.owners b).isSome = true := owner_of_handleOf hp
  intro c
  rw [isReclaimed_noteReclaimed, hb, Bool.true_and]
  by_cases hc : c = b
  · rw [if_pos hc, hc, memoryReclaimed_of_handleOf ((congrFun hhandle b).trans hp)]
    change _ = ((Function.update w.handles p ((w.handles p).map _)) p).elim false (·.reclaimed)
    rw [Function.update_self, hh']
    rfl
  · rw [if_neg hc, memoryReclaimed_of_others (w := w) (p := p) (congrFun hhandle c)
      (fun q hq => Function.update_of_ne hq _ w.handles) fun hcp => hc (h.handles.1.alone hcp hp)]
    exact hw c

theorem remember_honest (h : w.Sound) (hw : w.Honest) (b : ι) (expected : Bool) (ret : Int) :
    (w.remember b expected ret).2.Honest := by
  unfold remember
  split
  · exact hw
  split
  · exact hw
  · rename_i hflag
    cases hp : w.handleOf b with
    | none => exact hw
    | some p =>
      have hb := owner_of_handleOf hp
      dsimp only
      split_ifs
      · exact (Honest.congr (w := w) (fun _ => rfl) fun _ => rfl).mpr hw
      · exact reclaimed_honest h hw hp !expected
      · refine (Honest.congr (w := w) (fun c => ?_) fun c => ?_).mpr hw
        · rw [isReclaimed_noteReclaimed, hb, Bool.true_and]
          split_ifs with hc
          · rw [hc]
            exact (not_ne_iff.mp hflag).symm
          · rfl
        · unfold memoryReclaimed
          rw [handleOf_noteReclaimed]
          rfl

end GraphicMemory

namespace MemoryOp

variable {ι : Type} [DecidableEq ι] {w : GraphicMemory ι}

open GraphicMemory

/-- An object whose memory is reclaimed gets another handle. -/
def forgets (w : GraphicMemory ι) : MemoryOp ι → Prop
  | alloc b _ _ hdi => (w.displayBuffer || hdi.get) = true ∧ w.isReclaimed b = true
  | setBufferHandle b handle _ =>
    (∃ p h, handle = some (p, h) ∧ w.handleOf b ≠ some p) ∧ w.isReclaimed b = true
  | _ => False

theorem next_honest (h : w.Sound) (hw : w.Honest) {op : MemoryOp ι} (hop : op.Allowed w) :
    (op.next w).Honest ↔ ¬ op.forgets w := by
  cases op with
  | create b => exact iff_of_true (create_honest hw hop) not_false
  | destroy b unmaps => exact iff_of_true (destroy_honest h hw b unmaps) not_false
  | alloc b config previous hdi => exact alloc_honest h hw config previous hdi hop.1 hop.2.2
  | map b get mmap => exact iff_of_true (map_honest hw b get mmap) not_false
  | unmap b get success => exact iff_of_true (unmap_honest hw b get success) not_false
  | getVirAddr b get mmap => exact iff_of_true (map_honest hw b get mmap) not_false
  | flushCache b get success =>
    exact iff_of_true (withHandle_honest hw b get fun _ _ _ hv => hv) not_false
  | invalidateCache b get success =>
    exact iff_of_true (withHandle_honest hw b get fun _ _ _ hv => hv) not_false
  | setBufferHandle b handle unmaps => exact setBufferHandle_honest h hw hop.1 unmaps hop.2
  | tryReclaim b ret => exact iff_of_true (remember_honest h hw b false ret) not_false
  | tryResumeIfNeeded b ret => exact iff_of_true (remember_honest h hw b true ret) not_false
  | onRemoteDied => exact iff_of_true ((Honest.congr (fun _ => rfl) fun _ => rfl).mpr hw) not_false

/-- The flags tell the truth after every call if and only if no object is given another handle
while its memory is reclaimed. -/
theorem flags_are_honest (loaded : Bool) (ops : List (MemoryOp ι))
    (legal : Legal next (fun w op => op.Allowed w) { initMemMgrSucceed := loaded } ops) :
    Legal next (fun w op => (op.next w).Honest) { initMemMgrSucceed := loaded } ops ↔
      Legal next (fun w op => ¬ op.forgets w) { initMemMgrSucceed := loaded } ops :=
  legal_congr_of (fun w => w.Sound ∧ w.Honest) (fun _ _ h hop => next_honest h.1 h.2 hop)
    (fun _ _ h hop hkept => ⟨(next_keeps h.1 hop).sound, (next_honest h.1 h.2 hop).mpr hkept⟩)
    ⟨sound_start loaded, fun _ => rfl⟩ legal

def reallocated : List (MemoryOp Bool) :=
  [create true,
    alloc true ⟨8, 8, 8, 12, 0, 0, 4, 0, 1⟩ none
      { get := true, died := false, unmap := true, ret := 0,
        handle := some (7, { fd := 3, usage := 0 }), registered := 0 },
    tryReclaim true 0,
    alloc true ⟨8, 8, 8, 12, 0, 0, 4, 0, 1⟩ none
      { get := true, died := false, unmap := true, ret := 0,
        handle := some (9, { fd := 4, usage := 0 }), registered := 0 }]

theorem reallocated_allowed :
    Legal next (fun w op => op.Allowed w) { initMemMgrSucceed := true } reallocated := by
  refine ⟨rfl, ⟨rfl, by simp, fun p h hp => ?_⟩, rfl, ⟨rfl, by simp, fun p h hp => ?_⟩, trivial⟩
  · obtain ⟨rfl, rfl⟩ : 7 = p ∧ { fd := 3, usage := 0 } = h := by simpa using hp
    exact ⟨rfl, rfl, .inl rfl⟩
  · obtain ⟨rfl, rfl⟩ : 9 = p ∧ { fd := 4, usage := 0 } = h := by simpa using hp
    exact ⟨rfl, rfl, .inl rfl⟩

theorem flags_are_honest_reallocated :
    (execute next { initMemMgrSucceed := true } reallocated).isReclaimed true = true ∧
      (execute next { initMemMgrSucceed := true } reallocated).memoryReclaimed true = false ∧
      ¬ Legal next (fun w op => (op.next w).Honest) { initMemMgrSucceed := true } reallocated := by
  refine ⟨rfl, rfl, fun honest => ?_⟩
  have kept := (flags_are_honest true reallocated reallocated_allowed).mp honest
  exact kept.2.2.2.1 ⟨rfl, rfl⟩

end MemoryOp

end GraphicSurface
