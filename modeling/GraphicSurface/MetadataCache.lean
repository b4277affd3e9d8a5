import GraphicSurface.Runs
import GraphicSurface.Types

/-! The metadata of a `SurfaceBufferImpl`. The display HDI keeps it with the handle, and
`metaDataCache_` remembers what was written with `enableCache`, so that a repeated write can be left
out. `surface_buffer.h` prohibits different values of `enableCache` for one object. -/

namespace GraphicSurface

open Runs

abbrev Metadata := UInt32 → Option (List UInt8)

/-- Whether there is a display buffer service, and whether it accepts the call. -/
structure HdiAnswer where
  displayBuffer : Bool
  success : Bool
deriving DecidableEq

/-- The answers to `AllocMem` or `ReAllocMem` and to `RegisterBuffer`. A new handle comes with the
metadata that the HDI has for it. -/
structure HdiAllocation (H : Type) where
  displayBuffer : Bool
  success : Bool
  handle : Option (H × Metadata)
  registered : Bool

/-- `stored` is what the HDI holds for the handle. -/
structure BufferMetadata (H : Type) where
  handle : Option H := none
  stored : Metadata := fun _ => none
  metaDataCache : Metadata := fun _ => none

inductive MetadataCall (H : Type)
  | setMetadata (key : UInt32) (value : List UInt8) (enableCache : Bool) (hdi : HdiAnswer)
  | getMetadata (key : UInt32) (hdi : HdiAnswer)
  | eraseMetadataKey (key : UInt32) (hdi : HdiAnswer)
  | alloc (config : BufferRequestConfig) (hdi : HdiAllocation H)
  | setBufferHandle (handle : Option (H × Metadata))

/-- The code, and what `GetMetadata` has written to `value`. -/
abbrev MetadataReply := GSError × Option (List UInt8)

def graphicPixelFmtButt : Int := 0x7FFFFFFF

def checkBufferConfig (width height format : Int) : GSError :=
  if width ≤ 0 ∨ height ≤ 0 then .invalidArguments
  else if format < 0 ∨ graphicPixelFmtButt < format then .invalidArguments
  else .ok

namespace MetadataCall

variable {H : Type}

/-- The same call as it is made without the cache. -/
def uncached : MetadataCall H → MetadataCall H
  | setMetadata key value _ hdi => setMetadata key value false hdi
  | call => call

/-- A write has this value of `enableCache`. -/
def Uniform (enableCache : Bool) : MetadataCall H → Prop
  | setMetadata _ _ enableCache' _ => enableCache' = enableCache
  | _ => True

end MetadataCall

namespace BufferMetadata

section Calls

variable {H : Type} (attrKeyEnd : UInt32) (s : BufferMetadata H)

/-- What the calls on one key check before they look at the key: `ATTRKEY_END` is a constant of the
HDI. -/
def checkKey (key : UInt32) (hdi : HdiAnswer) : GSError :=
  if key = 0 ∨ attrKeyEnd ≤ key then .invalidArguments
  else if hdi.displayBuffer = false then .internal
  else if s.handle.isNone then .notInit
  else .ok

def metaDataCached (key : UInt32) (value : List UInt8) : Bool :=
  s.metaDataCache key == some value

def setMetadata (key : UInt32) (value : List UInt8) (enableCache : Bool) (hdi : HdiAnswer) :
    GSError × BufferMetadata H :=
  if s.checkKey attrKeyEnd key hdi ≠ .ok then (s.checkKey attrKeyEnd key hdi, s)
  else if enableCache && s.metaDataCached key value then (.ok, s)
  else if hdi.success then
    let s := { s with stored := Function.update s.stored key (some value) }
    (.ok, if enableCache then
      { s with metaDataCache := Function.update s.metaDataCache key (some value) } else s)
  else (.hdiError, s)

/-- The HDI has nothing to read for a key that it does not hold. -/
def getMetadata (key : UInt32) (hdi : HdiAnswer) : MetadataReply :=
  if s.checkKey attrKeyEnd key hdi ≠ .ok then (s.checkKey attrKeyEnd key hdi, none)
  else
    match s.stored key with
    | some value => if hdi.success then (.ok, some value) else (.hdiError, none)
    | none => (.hdiError, none)

def eraseMetadataKey (key : UInt32) (hdi : HdiAnswer) : GSError × BufferMetadata H :=
  if s.checkKey attrKeyEnd key hdi ≠ .ok then (s.checkKey attrKeyEnd key hdi, s)
  else if hdi.success then
    (.ok, { s with
      stored := Function.update s.stored key none
      metaDataCache := Function.update s.metaDataCache key none })
  else (.hdiError, s)

/-- A buffer with this handle, once `FreeBufferHandleLocked` has cleared the cache. -/
def ofHandle (handle : Option (H × Metadata)) : BufferMetadata H :=
  { handle := handle.map (·.1), stored := handle.elim (fun _ => none) (·.2) }

/-- `Alloc`, as far as the handle is concerned. -/
def alloc (config : BufferRequestConfig) (hdi : HdiAllocation H) : GSError × BufferMetadata H :=
  if hdi.displayBuffer = false then (.internal, s)
  else if checkBufferConfig config.width config.height config.format ≠ .ok then
    (.invalidArguments, ofHandle none)
  else
    (if hdi.success && hdi.handle.isSome && hdi.registered then .ok else .hdiError,
      ofHandle hdi.handle)

/-- The two buffers have the same handle with the same metadata. -/
def SameContents (s u : BufferMetadata H) : Prop := s.handle = u.handle ∧ s.stored = u.stored

/-- What is remembered is what the HDI holds. -/
def Coherent : Prop := ∀ key value, s.metaDataCache key = some value → s.stored key = some value

/-- The cache is used by all writes or stays empty. -/
def CacheKept (enableCache : Bool) : Prop :=
  s.Coherent ∧ (enableCache = false → ∀ key, s.metaDataCache key = none)

variable {attrKeyEnd : UInt32} {s u : BufferMetadata H} {key : UInt32} {value : List UInt8}
  {enableCache : Bool} {hdi : HdiAnswer}

theorem checkKey_ok : s.checkKey attrKeyEnd key hdi = .ok ↔
    ¬ (key = 0 ∨ attrKeyEnd ≤ key) ∧ hdi.displayBuffer = true ∧ s.handle.isSome := by
  unfold checkKey
  split_ifs with hkey hservice hhandle
  · simp [hkey]
  · simp [hservice]
  · simp [Option.isNone_iff_eq_none.mp hhandle]
  · rw [Bool.not_eq_true, Option.isNone_eq_false_iff] at hhandle
    simpa [hkey, hhandle] using hservice

theorem checkKey_congr (h : s.handle = u.handle) :
    s.checkKey attrKeyEnd key hdi = u.checkKey attrKeyEnd key hdi := by
  unfold checkKey
  rw [h]

/-- A write is refused, or left out because the value is in the cache, or it reaches the HDI. -/
theorem setMetadata_cases {P : GSError × BufferMetadata H → Prop}
    (refused : ∀ ret, ret ≠ .ok → P (ret, s))
    (leftOut : s.checkKey attrKeyEnd key hdi = .ok → enableCache = true →
      s.metaDataCache key = some value → P (.ok, s))
    (written : s.checkKey attrKeyEnd key hdi = .ok → hdi.success = true →
      P (.ok, { s with
        stored := Function.update s.stored key (some value)
        metaDataCache := if enableCache then Function.update s.metaDataCache key (some value)
          else s.metaDataCache })) :
    P (s.setMetadata attrKeyEnd key value enableCache hdi) := by
  unfold setMetadata
  split
  · rename_i hcheck
    exact refused _ hcheck
  · rename_i hcheck
    rw [not_not] at hcheck
    split
    · rename_i hhit
      simp only [Bool.and_eq_true, metaDataCached, beq_iff_eq] at hhit
      exact leftOut hcheck hhit.1 hhit.2
    · split
      · rename_i hsuccess
        have hwritten := written hcheck hsuccess
        cases enableCache <;> exact hwritten
      · exact refused _ (by simp)

theorem eraseMetadataKey_cases {P : GSError × BufferMetadata H → Prop}
    (refused : ∀ ret, ret ≠ .ok → P (ret, s))
    (erased : P (.ok, { s with
      stored := Function.update s.stored key none
      metaDataCache := Function.update s.metaDataCache key none })) :
    P (s.eraseMetadataKey attrKeyEnd key hdi) := by
  unfold eraseMetadataKey
  split
  · rename_i hcheck
    exact refused _ hcheck
  · split
    · exact erased
    · exact refused _ (by simp)

theorem cacheKept_ofHandle (handle : Option (H × Metadata)) :
    (ofHandle handle).CacheKept enableCache :=
  ⟨fun _ _ h => (by cases h), fun _ _ => rfl⟩

/-- The cache follows the HDI. -/
theorem Coherent.update (h : s.Coherent) (key : UInt32) (value : Option (List UInt8)) :
    Coherent { s with
      stored := Function.update s.stored key value
      metaDataCache := Function.update s.metaDataCache key value } := by
  intro k v hk
  change Function.update s.metaDataCache key value k = some v at hk
  change Function.update s.stored key value k = some v
  by_cases heq : k = key
  · rw [heq, Function.update_self] at hk ⊢
    exact hk
  · rw [Function.update_of_ne heq] at hk ⊢
    exact h k v hk

theorem CacheKept.setMetadata (h : s.CacheKept enableCache) :
    (s.setMetadata attrKeyEnd key value enableCache hdi).2.CacheKept enableCache := by
  refine setMetadata_cases (P := fun r => r.2.CacheKept enableCache) (fun _ _ => h)
    (fun _ _ _ => h) fun _ _ => ?_
  cases enableCache with
  | false =>
    refine ⟨fun k v hk => ?_, h.2⟩
    change s.metaDataCache k = some v at hk
    rw [h.2 rfl] at hk
    cases hk
  | true => exact ⟨h.1.update key (some value), nofun⟩

theorem CacheKept.eraseMetadataKey (h : s.CacheKept enableCache) :
    (s.eraseMetadataKey attrKeyEnd key hdi).2.CacheKept enableCache := by
  refine eraseMetadataKey_cases (P := fun r => r.2.CacheKept enableCache) (fun _ _ => h) ?_
  refine ⟨h.1.update key none, fun hnone k => ?_⟩
  change Function.update s.metaDataCache key none k = none
  by_cases heq : k = key
  · rw [heq, Function.update_self]
  · rw [Function.update_of_ne heq]
    exact h.2 hnone k

theorem CacheKept.alloc (h : s.CacheKept enableCache) (config : BufferRequestConfig)
    (hdi : HdiAllocation H) : (s.alloc config hdi).2.CacheKept enableCache := by
  unfold BufferMetadata.alloc
  split
  · exact h
  · split
    · exact cacheKept_ofHandle none
    · exact cacheKept_ofHandle hdi.handle

/-- A write that the cache leaves out would not have changed what the HDI holds. -/
theorem SameContents.setMetadata (h : s.SameContents u) (hs : s.Coherent) (key : UInt32)
    (value : List UInt8) (enableCache : Bool) (hdi : HdiAnswer) :
    (s.setMetadata attrKeyEnd key value enableCache hdi).2.SameContents
        (u.setMetadata attrKeyEnd key value false hdi).2 ∧
      ((s.setMetadata attrKeyEnd key value enableCache hdi).1 =
          (u.setMetadata attrKeyEnd key value false hdi).1 ∨
        enableCache = true ∧ s.metaDataCache key = some value ∧
          (s.setMetadata attrKeyEnd key value enableCache hdi).1 = .ok) := by
  obtain ⟨hhandle, hstored⟩ := h
  unfold BufferMetadata.setMetadata
  rw [checkKey_congr hhandle]
  split
  · exact ⟨⟨hhandle, hstored⟩, .inl rfl⟩
  · rw [Bool.false_and, if_neg Bool.false_ne_true]
    split
    · rename_i hhit
      simp only [Bool.and_eq_true, metaDataCached, beq_iff_eq] at hhit
      have hsame : u.stored = Function.update u.stored key (some value) := by
        rw [← hstored, ← hs key value hhit.2, Function.update_eq_self]
      refine ⟨?_, .inr ⟨hhit.1, hhit.2, rfl⟩⟩
      split
      · exact ⟨hhandle, hstored.trans hsame⟩
      · exact ⟨hhandle, hstored⟩
    · split
      · have hupdate : Function.update s.stored key (some value) =
            Function.update u.stored key (some value) := by rw [hstored]
        refine ⟨?_, .inl rfl⟩
        cases enableCache <;> exact ⟨hhandle, hupdate⟩
      · exact ⟨⟨hhandle, hstored⟩, .inl rfl⟩

theorem SameContents.eraseMetadataKey (h : s.SameContents u) (key : UInt32) (hdi : HdiAnswer) :
    (s.eraseMetadataKey attrKeyEnd key hdi).2.SameContents (u.eraseMetadataKey attrKeyEnd key hdi).2 ∧
      (s.eraseMetadataKey attrKeyEnd key hdi).1 = (u.eraseMetadataKey attrKeyEnd key hdi).1 := by
  obtain ⟨hhandle, hstored⟩ := h
  unfold BufferMetadata.eraseMetadataKey
  rw [checkKey_congr hhandle]
  split
  · exact ⟨⟨hhandle, hstored⟩, rfl⟩
  · split
    · exact ⟨⟨hhandle, congrArg (Function.update · key none) hstored⟩, rfl⟩
    · exact ⟨⟨hhandle, hstored⟩, rfl⟩

theorem SameContents.alloc (h : s.SameContents u) (config : BufferRequestConfig)
    (hdi : HdiAllocation H) :
    (s.alloc config hdi).2.SameContents (u.alloc config hdi).2 ∧
      (s.alloc config hdi).1 = (u.alloc config hdi).1 := by
  unfold BufferMetadata.alloc
  split_ifs
  · exact ⟨h, rfl⟩
  · exact ⟨⟨rfl, rfl⟩, rfl⟩
  · exact ⟨⟨rfl, rfl⟩, rfl⟩
  · exact ⟨⟨rfl, rfl⟩, rfl⟩

theorem getMetadata_of_setMetadata (hs : s.Coherent)
    (hret : (s.setMetadata attrKeyEnd key value enableCache hdi).1 = .ok) {t : BufferMetadata H}
    (hstored : t.stored key = (s.setMetadata attrKeyEnd key value enableCache hdi).2.stored key)
    (hhandle : t.handle = (s.setMetadata attrKeyEnd key value enableCache hdi).2.handle)
    {hdi' : HdiAnswer} (hservice : hdi'.displayBuffer = true) (hsuccess : hdi'.success = true) :
    t.getMetadata attrKeyEnd key hdi' = (.ok, some value) := by
  have hwritten : s.checkKey attrKeyEnd key hdi = .ok ∧ t.stored key = some value ∧
      t.handle = s.handle := by
    revert hret hstored hhandle
    refine setMetadata_cases (P := fun r => r.1 = .ok → t.stored key = r.2.stored key →
      t.handle = r.2.handle → _) ?_ ?_ ?_
    · exact fun ret hne hret => absurd hret hne
    · exact fun hcheck _ hhit _ hstored hhandle =>
        ⟨hcheck, hstored.trans (hs key value hhit), hhandle⟩
    · exact fun hcheck _ _ hstored hhandle =>
        ⟨hcheck, hstored.trans (Function.update_self ..), hhandle⟩
  obtain ⟨hcheck, hvalue, hsame⟩ := hwritten
  have hcheck' : t.checkKey attrKeyEnd key hdi' = .ok := by
    rw [checkKey_ok] at hcheck ⊢
    rw [hsame]
    exact ⟨hcheck.1, hservice, hcheck.2.2⟩
  unfold getMetadata
  rw [hcheck', if_neg (not_not.mpr rfl), hvalue]
  exact if_pos hsuccess

end Calls

variable {H : Type} [DecidableEq H] (attrKeyEnd : UInt32) (s : BufferMetadata H)

def setBufferHandle (handle : Option (H × Metadata)) : BufferMetadata H :=
  match handle with
  | none => s
  | some handle => if s.handle = some handle.1 then s else ofHandle (some handle)

def call : MetadataCall H → MetadataReply × BufferMetadata H
  | .setMetadata key value enableCache hdi =>
    Prod.map (·, none) id (s.setMetadata attrKeyEnd key value enableCache hdi)
  | .getMetadata key hdi => (s.getMetadata attrKeyEnd key hdi, s)
  | .eraseMetadataKey key hdi => Prod.map (·, none) id (s.eraseMetadataKey attrKeyEnd key hdi)
  | .alloc config hdi => Prod.map (·, none) id (s.alloc config hdi)
  | .setBufferHandle handle => ((.ok, none), s.setBufferHandle handle)

def reply (c : MetadataCall H) : MetadataReply := (s.call attrKeyEnd c).1

def next (c : MetadataCall H) : BufferMetadata H := (s.call attrKeyEnd c).2

/-- The buffer after these calls, from a new one on. -/
def after (calls : List (MetadataCall H)) : BufferMetadata H := execute (next attrKeyEnd) {} calls

/-- The call has changed the value of the key, or the handle. -/
def Changes (key : UInt32) (c : MetadataCall H) : Prop :=
  match c with
  | .setMetadata key' _ _ _ | .eraseMetadataKey key' _ => key' = key ∧ (s.reply attrKeyEnd c).1 = .ok
  | .getMetadata _ _ => False
  | .alloc _ _ => (s.reply attrKeyEnd c).1 ≠ .internal
  | .setBufferHandle handle => ∃ h, handle = some h ∧ s.handle ≠ some h.1

/-- What a successful write has written is read back until the next change of the key. -/
def ReadsBack (calls : List (MetadataCall H)) : Prop :=
  ∀ before key value enableCache hdi later rest,
    calls = before ++ .setMetadata key value enableCache hdi :: (later ++ rest) →
    ((after attrKeyEnd before).reply attrKeyEnd (.setMetadata key value enableCache hdi)).1 = .ok →
    Legal (next attrKeyEnd) (fun s c => ¬ s.Changes attrKeyEnd key c)
      ((after attrKeyEnd before).next attrKeyEnd (.setMetadata key value enableCache hdi)) later →
    ∀ hdi' : HdiAnswer, hdi'.displayBuffer = true → hdi'.success = true →
      (after attrKeyEnd (before ++ .setMetadata key value enableCache hdi :: later)).reply attrKeyEnd
        (.getMetadata key hdi') = (.ok, some value)

/-- The write has been left out, since the value is in the cache. -/
def LeavesOut (c : MetadataCall H) : Prop :=
  match c with
  | .setMetadata key value enableCache _ =>
    enableCache = true ∧ s.metaDataCache key = some value ∧ (s.reply attrKeyEnd c).1 = .ok
  | _ => False

/-- Whatever the calls return and leave with the HDI, they would have done so without the cache; only
a write that has been left out may have been refused. -/
def Transparent (calls : List (MetadataCall H)) : Prop :=
  ∀ before rest, calls = before ++ rest →
    (after attrKeyEnd before).SameContents (after attrKeyEnd (before.map .uncached)) ∧
    ∀ c later, rest = c :: later →
      (after attrKeyEnd before).reply attrKeyEnd c =
          (after attrKeyEnd (before.map .uncached)).reply attrKeyEnd c.uncached ∨
        (after attrKeyEnd before).LeavesOut attrKeyEnd c

variable {attrKeyEnd : UInt32} {s u : BufferMetadata H} {key : UInt32} {value : List UInt8}
  {enableCache : Bool} {hdi : HdiAnswer}

theorem CacheKept.next (h : s.CacheKept enableCache) {c : MetadataCall H}
    (hc : c.Uniform enableCache) : (s.next attrKeyEnd c).CacheKept enableCache := by
  cases c with
  | setMetadata key value enableCache' hdi =>
    obtain rfl : enableCache' = enableCache := hc
    exact CacheKept.setMetadata h
  | getMetadata key hdi => exact h
  | eraseMetadataKey key hdi => exact CacheKept.eraseMetadataKey h
  | alloc config hdi => exact CacheKept.alloc h config hdi
  | setBufferHandle handle =>
    change (s.setBufferHandle handle).CacheKept enableCache
    unfold setBufferHandle
    split
    · exact h
    · split_ifs
      · exact h
      · exact cacheKept_ofHandle _

theorem CacheKept.after {calls : List (MetadataCall H)}
    (hcalls : ∀ c ∈ calls, c.Uniform enableCache) : (after attrKeyEnd calls).CacheKept enableCache := by
  have hrun (s : BufferMetadata H) (hs : s.CacheKept enableCache) :
      (execute (BufferMetadata.next attrKeyEnd) s calls).CacheKept enableCache := by
    induction calls generalizing s with
    | nil => exact hs
    | cons c calls ih =>
      exact ih (fun c hc => hcalls c (List.mem_cons_of_mem _ hc)) _
        (hs.next (hcalls c List.mem_cons_self))
  exact hrun {} (cacheKept_ofHandle none)

theorem SameContents.next (h : s.SameContents u) (hs : s.Coherent) (c : MetadataCall H) :
    (s.next attrKeyEnd c).SameContents (u.next attrKeyEnd c.uncached) ∧
      (s.reply attrKeyEnd c = u.reply attrKeyEnd c.uncached ∨ s.LeavesOut attrKeyEnd c) := by
  cases c with
  | setMetadata key value enableCache hdi =>
    obtain ⟨hnext, hret⟩ := SameContents.setMetadata h hs key value enableCache hdi
    exact ⟨hnext, hret.imp_left (congrArg (·, none))⟩
  | getMetadata key hdi =>
    refine ⟨h, .inl ?_⟩
    change s.getMetadata attrKeyEnd key hdi = u.getMetadata attrKeyEnd key hdi
    unfold getMetadata
    rw [checkKey_congr h.1, h.2]
  | eraseMetadataKey key hdi =>
    obtain ⟨hnext, hret⟩ := SameContents.eraseMetadataKey h key hdi
    exact ⟨hnext, .inl (congrArg (·, none) hret)⟩
  | alloc config hdi =>
    obtain ⟨hnext, hret⟩ := SameContents.alloc h config hdi
    exact ⟨hnext, .inl (congrArg (·, none) hret)⟩
  | setBufferHandle handle =>
    refine ⟨?_, .inl rfl⟩
    change (s.setBufferHandle handle).SameContents (u.setBufferHandle handle)
    unfold setBufferHandle
    rw [h.1]
    split
    · exact h
    · split_ifs
      · exact h
      · exact ⟨rfl, rfl⟩

theorem SameContents.run {calls : List (MetadataCall H)}
    (hcalls : ∀ c ∈ calls, c.Uniform enableCache) (h : s.SameContents u)
    (hs : s.CacheKept enableCache) : (execute (BufferMetadata.next attrKeyEnd) s calls).SameContents
      (execute (BufferMetadata.next attrKeyEnd) u (calls.map .uncached)) := by
  induction calls generalizing s u with
  | nil => exact h
  | cons c calls ih =>
    exact ih (fun c hc => hcalls c (List.mem_cons_of_mem _ hc)) (h.next hs.1 c).1
      (hs.next (hcalls c List.mem_cons_self))

/-- A call that changes nothing about the key leaves its value and the handle. -/
theorem next_of_not_changes {c : MetadataCall H} (h : ¬ s.Changes attrKeyEnd key c) :
    (s.next attrKeyEnd c).stored key = s.stored key ∧
      (s.next attrKeyEnd c).handle = s.handle := by
  cases c with
  | setMetadata key' value enableCache hdi =>
    revert h
    refine setMetadata_cases (P := fun r => ¬ (key' = key ∧ r.1 = .ok) →
      r.2.stored key = s.stored key ∧ r.2.handle = s.handle) ?_ ?_ ?_
    · exact fun _ _ _ => ⟨rfl, rfl⟩
    · exact fun _ _ _ _ => ⟨rfl, rfl⟩
    · refine fun _ _ h => ⟨Function.update_of_ne (fun heq => h ⟨heq.symm, rfl⟩) _ _, rfl⟩
  | getMetadata key' hdi => exact ⟨rfl, rfl⟩
  | eraseMetadataKey key' hdi =>
    revert h
    refine eraseMetadataKey_cases (P := fun r => ¬ (key' = key ∧ r.1 = .ok) →
      r.2.stored key = s.stored key ∧ r.2.handle = s.handle) ?_ ?_
    · exact fun _ _ _ => ⟨rfl, rfl⟩
    · exact fun h => ⟨Function.update_of_ne (fun heq => h ⟨heq.symm, rfl⟩) _ _, rfl⟩
  | alloc config hdi =>
    have hinternal : (s.alloc config hdi).1 = .internal := not_not.mp h
    change (s.alloc config hdi).2.stored key = s.stored key ∧ (s.alloc config hdi).2.handle = s.handle
    unfold alloc at hinternal ⊢
    split_ifs at hinternal ⊢
    exact ⟨rfl, rfl⟩
  | setBufferHandle handle =>
    change (s.setBufferHandle handle).stored key = s.stored key ∧
      (s.setBufferHandle handle).handle = s.handle
    unfold setBufferHandle
    cases handle with
    | none => exact ⟨rfl, rfl⟩
    | some handle =>
      have hsame : s.handle = some handle.1 := by_contra fun hne => h ⟨handle, rfl, hne⟩
      dsimp only
      rw [if_pos hsame]
      exact ⟨rfl, rfl⟩

theorem run_of_not_changes {calls : List (MetadataCall H)}
    (h : Legal (next attrKeyEnd) (fun s c => ¬ s.Changes attrKeyEnd key c) s calls) :
    (execute (next attrKeyEnd) s calls).stored key = s.stored key ∧
      (execute (next attrKeyEnd) s calls).handle = s.handle := by
  induction calls generalizing s with
  | nil => exact ⟨rfl, rfl⟩
  | cons c calls ih =>
    obtain ⟨hstored, hhandle⟩ := next_of_not_changes h.1
    obtain ⟨hstored', hhandle'⟩ := ih h.2
    exact ⟨hstored'.trans hstored, hhandle'.trans hhandle⟩

/-- With one value of `enableCache` for all writes, what was written is read back until it is
changed, and the calls do what they would do without the cache. -/
theorem uniform_cache_transparent {calls : List (MetadataCall H)}
    (hcalls : ∀ c ∈ calls, c.Uniform enableCache) :
    ReadsBack attrKeyEnd calls ∧ Transparent attrKeyEnd calls := by
  refine ⟨?_, ?_⟩
  · rintro before key value enableCache' hdi later rest rfl hret hlater hdi' hservice hsuccess
    have hs : (after attrKeyEnd before).CacheKept enableCache :=
      CacheKept.after fun c hc => hcalls c (List.mem_append_left _ hc)
    obtain ⟨hstored, hhandle⟩ := run_of_not_changes hlater
    unfold after at hs hstored hhandle hret ⊢
    rw [execute_append]
    exact getMetadata_of_setMetadata hs.1 hret hstored hhandle hservice hsuccess
  · rintro before rest rfl
    have hsame : (after attrKeyEnd before).SameContents (after attrKeyEnd (before.map .uncached)) :=
      SameContents.run (fun c hc => hcalls c (List.mem_append_left _ hc)) ⟨rfl, rfl⟩
        (cacheKept_ofHandle none)
    have hs : (after attrKeyEnd before).CacheKept enableCache :=
      CacheKept.after fun c hc => hcalls c (List.mem_append_left _ hc)
    exact ⟨hsame, fun c _ _ => (hsame.next hs.1 c).2⟩

def allocated : MetadataCall ℕ :=
  .alloc ⟨4, 4, 8, 12, 0, 0, 1, 0, 0⟩ ⟨true, true, some (1, fun _ => none), true⟩

def writtenTwice : List (MetadataCall ℕ) :=
  [allocated, .setMetadata 2 [7] true ⟨true, true⟩, .setMetadata 2 [7] true ⟨true, false⟩]

theorem uniform_cache_transparent_twice :
    ReadsBack 100 writtenTwice ∧ Transparent 100 writtenTwice := by
  have hcalls : ∀ c ∈ writtenTwice, c.Uniform true := by
    intro c hc
    simp only [writtenTwice, List.mem_cons, List.not_mem_nil, or_false] at hc
    rcases hc with rfl | rfl | rfl
    · trivial
    · rfl
    · rfl
  exact uniform_cache_transparent hcalls

/-- After a write past the cache a third write is left out although the HDI holds another value. Where
the values do agree, a write that is left out succeeds although the HDI would have refused it. -/
theorem mixed_cache_stale :
    (¬ ∀ calls : List (MetadataCall ℕ), ReadsBack 100 calls) ∧
      (after 100 [allocated, .setMetadata 2 [7] true ⟨true, true⟩]).reply 100
          (.setMetadata 2 [7] true ⟨true, false⟩) ≠
        (after 100 [allocated, .setMetadata 2 [7] false ⟨true, true⟩]).reply 100
          (.setMetadata 2 [7] false ⟨true, false⟩) := by
  refine ⟨fun h => ?_, by decide⟩
  have hread := h [allocated, .setMetadata 2 [7] true ⟨true, true⟩,
      .setMetadata 2 [8] false ⟨true, true⟩, .setMetadata 2 [7] true ⟨true, true⟩]
    [allocated, .setMetadata 2 [7] true ⟨true, true⟩, .setMetadata 2 [8] false ⟨true, true⟩]
    2 [7] true ⟨true, true⟩ [] [] rfl (by decide) trivial ⟨true, true⟩ rfl rfl
  exact absurd hread (by decide)

end BufferMetadata

end GraphicSurface
