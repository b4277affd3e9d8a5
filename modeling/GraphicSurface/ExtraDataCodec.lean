import GraphicSurface.ConfigCodec
import GraphicSurface.Runs

/-! `BufferExtraDataImpl`: a map from keys to values of four types, set entry by entry and sent with
every buffer. Setter, writer and reader each have a limit of their own. -/

namespace GraphicSurface

open Parcels Runs

def bufferExtraDataMagic : Int32 := 0x4567

namespace ExtraValue

def type : ExtraValue → Int32
  | i32 _ => 0
  | i64 _ => 1
  | f64 _ => 2
  | string _ => 3

def Fits : ExtraValue → Prop
  | i32 value => fitsInt32 value
  | i64 value => fitsInt64 value
  | f64 bits => bits < 2 ^ 64
  | string _ => True

end ExtraValue

namespace ExtraData

def extraSet (d : ExtraData) (key : String) (value : ExtraValue) : GSError × ExtraData :=
  if key ∉ d ∧ surfaceMaxUserDataCount < d.size then (.outOfRange, d)
  else (.ok, d.insert key value)

section Codec

variable {P : Type} [Parcel P]

open Parcel

def writeValue : ExtraValue → Coded Unit P Unit
  | .i32 value => writeInt32 (.ofInt value)
  | .i64 value => writeInt64 (.ofInt value)
  | .f64 bits => writeDouble (.ofNat bits)
  | .string value => writeString value

def writeKey (entry : String × ExtraValue) : Coded Unit P Unit := do
  writeString entry.1
  writeInt32 entry.2.type

def writeEntry (entry : String × ExtraValue) : Coded Unit P Unit := do
  writeKey entry
  writeValue entry.2

def writeHeader (d : ExtraData) : Coded Unit P Unit := do
  writeInt32 bufferExtraDataMagic
  writeInt32 (.ofNat d.size)

/-- The loop of `WriteToParcel`. A value that could not be written does not stop it, and `ipcRet` is
what became of the last one. -/
def writeEntries : Bool → List (String × ExtraValue) → Coded GSError P Bool
  | ipcRet, [] => pure ipcRet
  | _, entry :: entries => do
    (writeKey entry).orFail .binder
    let ipcRet ← (writeValue entry.2).attempt
    writeEntries ipcRet entries

def writeToParcel (d : ExtraData) : Coded GSError P Unit := do
  (writeHeader d).orFail .binder
  let ipcRet ← writeEntries true d.toList
  if ipcRet then pure () else .fail .binder

/-- The writes of `WriteToParcel` when none of them fails. -/
def writeAll (d : ExtraData) : Coded Unit P Unit := do
  writeHeader d
  d.toList.forM writeEntry

/-- `return ExtraSet(key, type, val)`. -/
def set (d : ExtraData) (key : String) (value : ExtraValue) : Coded GSError P ExtraData :=
  match d.extraSet key value with
  | (.ok, d) => pure d
  | (ret, _) => .fail ret

/-- A number that is no type is passed over. -/
def readExtraDataItem (d : ExtraData) (key : String) (type : Int32) : Coded GSError P ExtraData :=
  if type = 0 then do
    let val ← readInt32.orFail .internal
    d.set key (.i32 val.toInt)
  else if type = 1 then do
    let val ← readInt64.orFail .internal
    d.set key (.i64 val.toInt)
  else if type = 2 then do
    let val ← readDouble.orFail .internal
    d.set key (.f64 val.toNat)
  else if type = 3 then do
    let val ← readString.orFail .internal
    d.set key (.string val)
  else pure d

def readEntries : ℕ → ExtraData → Coded GSError P ExtraData
  | 0, d => pure d
  | n + 1, d => do
    let key ← readString.orFail .internal
    let typeVal ← readInt32.orFail .internal
    let d ← readExtraDataItem d key typeVal
    readEntries n d

/-- `ReadFromParcel` of a fresh object. A negative entry count is no entries. -/
def readFromParcel : Coded GSError P ExtraData := do
  let magic ← readInt32.orFail .internal
  if magic ≠ bufferExtraDataMagic then .fail .internal
  else
    let size ← readInt32.orFail .internal
    if surfaceMaxUserDataCount < size.toInt then .fail .internal
    else readEntries size.toInt.toNat ∅

theorem writeEntries_of_forM {entries : List (String × ExtraValue)} {p p' : P}
    (h : entries.forM writeEntry p = (.ok (), p')) :
    writeEntries true entries p = (.ok true, p') := by
  induction entries generalizing p with
  | nil =>
    obtain ⟨-, rfl⟩ := Prod.mk.inj h
    rfl
  | cons entry entries ih =>
    obtain ⟨_, p₁, hentry, hrest⟩ := Coded.of_bind_ok h
    obtain ⟨_, p₂, hkey, hvalue⟩ := Coded.of_bind_ok hentry
    unfold writeEntries
    rw [Coded.bind_ok (Coded.orFail_ok hkey), Coded.bind_ok (Coded.attempt_ok hvalue)]
    exact ih hrest

theorem writeToParcel_of_writeAll {d : ExtraData} {p p' : P} (h : d.writeAll p = (.ok (), p')) :
    d.writeToParcel p = (.ok (), p') := by
  obtain ⟨_, p₁, hheader, hentries⟩ := Coded.of_bind_ok h
  unfold writeToParcel
  rw [Coded.bind_ok (Coded.orFail_ok hheader), Coded.bind_ok (writeEntries_of_forM hentries)]
  rfl

end Codec

section RoundTrip

variable {P F : Type} [Parcel P] (fifo : Fifo P F)

def valueWords : ExtraValue → List (Word F)
  | .i32 value => [int32Word value]
  | .i64 value => [int64Word value]
  | .f64 bits => [.word64 (UInt64.ofNat bits).toBitVec]
  | .string value => [.string value]

def entryWords (entry : String × ExtraValue) : List (Word F) :=
  [.string entry.1] ++ ([.word32 entry.2.type.toBitVec] ++ valueWords entry.2)

def headerWords (d : ExtraData) : List (Word F) :=
  [.word32 bufferExtraDataMagic.toBitVec] ++ [.word32 (Int32.ofNat d.size).toBitVec]

theorem writeValue_writes (value : ExtraValue) : fifo.Writes (writeValue value) (valueWords value) := by
  cases value with
  | i32 value => exact fifo.write_int32 _
  | i64 value => exact fifo.write_int64 _
  | f64 bits => exact fifo.write_double _
  | string value => exact fifo.write_string _

theorem writeAll_writes (d : ExtraData) :
    fifo.Writes d.writeAll (d.headerWords ++ d.toList.flatMap entryWords) := by
  refine .seq ((fifo.write_int32 _).seq (fifo.write_int32 _)) (.forM fun entry _ => ?_)
  have hkey : fifo.Writes (writeKey entry) ([.string entry.1] ++ [.word32 entry.2.type.toBitVec]) :=
    (fifo.write_string _).seq (fifo.write_int32 _)
  have hentry := hkey.seq (writeValue_writes fifo entry.2)
  rwa [List.append_assoc] at hentry

theorem extraSet_ok {d : ExtraData} (h : d.size ≤ surfaceMaxUserDataCount) (key : String)
    (value : ExtraValue) : d.extraSet key value = (.ok, d.insert key value) := by
  unfold extraSet
  rw [if_neg fun hfull => absurd hfull.2 (Nat.not_lt.mpr h)]

theorem set_reads {d : ExtraData} (h : d.size ≤ surfaceMaxUserDataCount) (key : String)
    (value : ExtraValue) (p : P) :
    fifo.Reads p (d.set key value) [] fun read _ => read = d.insert key value := by
  unfold set
  rw [extraSet_ok h]
  exact .pure rfl

theorem readExtraDataItem_reads {d : ExtraData} (h : d.size ≤ surfaceMaxUserDataCount)
    {key : String} {value : ExtraValue} (hvalue : value.Fits) (p : P) :
    fifo.Reads p (d.readExtraDataItem key value.type) (valueWords value)
      fun read _ => read = d.insert key value := by
  cases value with
  | i32 value =>
    refine ((reads_int32 fifo hvalue p).orFail _).finish fun val p _ hval => ?_
    rw [hval]
    exact set_reads fifo h key _ p
  | i64 value =>
    refine ((reads_int64 fifo hvalue p).orFail _).finish fun val p _ hval => ?_
    rw [hval]
    exact set_reads fifo h key _ p
  | f64 bits =>
    refine ((fifo.reads_double p (.ofNat bits)).orFail _).finish fun val p _ hval => ?_
    rw [hval, UInt64.toNat_ofNat_of_lt' hvalue]
    exact set_reads fifo h key _ p
  | string value =>
    refine ((fifo.read_string p value).orFail _).finish fun val p _ hval => ?_
    rw [hval]
    exact set_reads fifo h key _ p

theorem readEntries_reads {entries : List (String × ExtraValue)}
    (hfits : ∀ entry ∈ entries, entry.2.Fits) {d : ExtraData}
    (h : d.size + entries.length ≤ surfaceMaxUserDataCount) (p : P) :
    fifo.Reads p (readEntries entries.length d) (entries.flatMap entryWords)
      fun read _ => read = d.insertMany entries := by
  induction entries generalizing d p with
  | nil => exact .pure rfl
  | cons entry entries ih =>
    obtain ⟨key, value⟩ := entry
    have hsize : d.size ≤ surfaceMaxUserDataCount := le_trans (Nat.le_add_right _ _) h
    rw [List.flatMap_cons, entryWords, List.append_assoc, List.append_assoc]
    refine ((fifo.read_string p key).orFail _).next fun p _ => ?_
    refine ((fifo.reads_int32 p value.type).orFail _).next fun p _ => ?_
    have hvalue : value.Fits := hfits _ List.mem_cons_self
    refine (readExtraDataItem_reads fifo hsize hvalue p).next fun p _ => ?_
    have hnext : (d.insert key value).size + entries.length ≤ surfaceMaxUserDataCount := by
      have hinsert : (d.insert key value).size ≤ d.size + 1 := Std.ExtTreeMap.size_insert_le
      rw [List.length_cons] at h
      omega
    rw [Std.ExtTreeMap.insertMany_cons]
    exact ih (fun e he => hfits e (List.mem_cons_of_mem _ he)) hnext p

theorem insertMany_toList (d : ExtraData) : (∅ : ExtraData).insertMany d.toList = d := by
  rw [← Std.ExtTreeMap.ofList_eq_insertMany_empty]
  refine Std.ExtTreeMap.ext_getElem? fun key => ?_
  cases hkey : d[key]? with
  | some value =>
    exact Std.ExtTreeMap.getElem?_ofList_of_mem (by simp) Std.ExtTreeMap.distinct_keys_toList
      (Std.ExtTreeMap.mem_toList_iff_getElem?_eq_some.mpr hkey)
  | none =>
    refine Std.ExtTreeMap.getElem?_ofList_of_contains_eq_false ?_
    rw [Std.ExtTreeMap.map_fst_toList_eq_keys, Std.ExtTreeMap.contains_keys]
    rw [← Std.ExtTreeMap.isSome_getElem?_eq_contains, hkey, Option.isSome_none]

theorem readFromParcel_reads {d : ExtraData} (hfits : ∀ entry ∈ d.toList, entry.2.Fits)
    (hsize : d.size ≤ surfaceMaxUserDataCount) (p : P) :
    fifo.Reads p readFromParcel (d.headerWords ++ d.toList.flatMap entryWords)
      fun read _ => read = d := by
  have hcount : (Int32.ofNat d.size).toInt = d.size :=
    Int32.toInt_ofNat_of_lt (lt_of_le_of_lt hsize (by decide))
  rw [headerWords, List.append_assoc]
  refine ((fifo.reads_int32 p bufferExtraDataMagic).orFail _).next fun p _ => ?_
  rw [if_neg (not_not_intro rfl)]
  refine ((fifo.reads_int32 p (Int32.ofNat d.size)).orFail _).next fun p _ => ?_
  rw [hcount, if_neg (by rw [Nat.cast_lt]; exact Nat.not_lt.mpr hsize), Int.toNat_natCast,
    ← Std.ExtTreeMap.length_toList]
  refine (readEntries_reads fifo hfits ?_ p).mono fun read _ _ hread => ?_
  · rw [Std.ExtTreeMap.size_empty, Std.ExtTreeMap.length_toList, Nat.zero_add]
    exact hsize
  · rw [hread, insertMany_toList]

theorem size_of_readFromParcel {d read : ExtraData} {r r' : P} {rest : List (Word F)}
    (hsize : d.size < 2 ^ 31) (hcontents : fifo.contents r = d.headerWords ++ rest)
    (hread : readFromParcel r = (.ok read, r')) : d.size ≤ surfaceMaxUserDataCount := by
  obtain ⟨magic, r₁, hmagic, hbody⟩ := Coded.of_bind_ok hread
  have hcontents' : fifo.contents r = [.word32 bufferExtraDataMagic.toBitVec] ++
      ([.word32 (Int32.ofNat d.size).toBitVec] ++ rest) := by
    rw [hcontents, headerWords, List.append_assoc]
  obtain ⟨_, r₂, hmagic', hrest, -, -⟩ := fifo.reads_int32 r bufferExtraDataMagic _ hcontents'
  rw [Coded.of_orFail_ok hmagic] at hmagic'
  obtain ⟨-, rfl⟩ := Prod.mk.inj hmagic'
  split at hbody
  · cases hbody
  · obtain ⟨size, r₃, hsizeRun, hentries⟩ := Coded.of_bind_ok hbody
    obtain ⟨sent, r₄, hsent, -, -, hvalue⟩ := fifo.reads_int32 r₁ (Int32.ofNat d.size) _ hrest
    rw [Coded.of_orFail_ok hsizeRun] at hsent
    obtain rfl : size = sent := Except.ok.inj (Prod.mk.inj hsent).1
    split at hentries
    · cases hentries
    · rename_i hlimit
      rw [hvalue, Int32.toInt_ofNat_of_lt hsize] at hlimit
      omega

end RoundTrip

/-- A call of one of the four `ExtraSet` overloads. -/
def SetStep (d : ExtraData) (set : String × ExtraValue) (d' : ExtraData) : Prop :=
  set.2.Fits ∧ d' = (d.extraSet set.1 set.2).2

theorem extraSet_entries {d : ExtraData} (h : ∀ entry ∈ d.toList, entry.2.Fits) {key : String}
    {value : ExtraValue} (hvalue : value.Fits) :
    ∀ entry ∈ (d.extraSet key value).2.toList, entry.2.Fits := by
  unfold extraSet
  split
  · exact h
  · rintro ⟨k, v⟩ hentry
    rw [Std.ExtTreeMap.mem_toList_iff_getElem?_eq_some, Std.ExtTreeMap.getElem?_insert] at hentry
    split at hentry
    · exact Option.some.inj hentry ▸ hvalue
    · exact h (k, v) (Std.ExtTreeMap.mem_toList_iff_getElem?_eq_some.mpr hentry)

theorem extraSet_size {d : ExtraData} (h : d.size ≤ surfaceMaxUserDataCount + 1) (key : String)
    (value : ExtraValue) : (d.extraSet key value).2.size ≤ surfaceMaxUserDataCount + 1 := by
  unfold extraSet
  split
  · exact h
  · rename_i hroom
    rw [Std.ExtTreeMap.size_insert]
    split
    · exact h
    · rename_i hkey
      have hnew : key ∉ d := by simpa using hkey
      exact Nat.succ_le_succ (Nat.not_lt.mp fun hfull => hroom ⟨hnew, hfull⟩)

theorem entries_of_run {sets : List (String × ExtraValue)} {d : ExtraData}
    (run : Run SetStep ∅ sets d) : ∀ entry ∈ d.toList, entry.2.Fits := by
  induction run with
  | nil => simp [Std.ExtTreeMap.toList_eq_nil_iff.mpr rfl]
  | snoc _ last ih =>
    rw [last.2]
    exact extraSet_entries ih last.1

theorem size_of_run {sets : List (String × ExtraValue)} {d : ExtraData}
    (run : Run SetStep ∅ sets d) : d.size ≤ surfaceMaxUserDataCount + 1 := by
  induction run with
  | nil => exact Nat.zero_le _
  | snoc _ last ih =>
    rw [last.2]
    exact extraSet_size ih _ _

section Survival

variable {P F : Type} [Parcel P]

def Survives (fifo : Fifo P F) (d : ExtraData) (r : P) (rest : List (Word F)) : Prop :=
  ∃ r', readFromParcel r = (.ok d, r') ∧ fifo.contents r' = rest

/-- Extra data comes out of the parcel as it was set, as long as it has no more entries than the
reader allows. -/
theorem extra_data_survives (fifo : Fifo P F) {sets : List (String × ExtraValue)} {d : ExtraData}
    {p p' r : P} {rest : List (Word F)} (run : Run SetStep ∅ sets d)
    (hwrite : d.writeToParcel p = (.ok (), p')) (hall : (d.writeAll p).1 = .ok ())
    (hsent : fifo.Sent p p' r rest) :
    Survives fifo d r rest ↔ d.size ≤ surfaceMaxUserDataCount := by
  have hall' : d.writeAll p = (.ok (), p') := by
    have hpair : d.writeAll p = (.ok (), (d.writeAll p).2) := Prod.ext hall rfl
    have hsame := (writeToParcel_of_writeAll hpair).symm.trans hwrite
    rw [hpair, (Prod.mk.inj hsame).2]
  have hcontents := (writeAll_writes fifo d _).sent hall' hsent
  have hfits := entries_of_run run
  have hsize := size_of_run run
  constructor
  · rintro ⟨r', hread, -⟩
    rw [List.append_assoc] at hcontents
    exact size_of_readFromParcel fifo (lt_of_le_of_lt hsize (by decide)) hcontents hread
  · intro hle
    obtain ⟨read, r', hread, hrest, -, rfl⟩ := readFromParcel_reads fifo hfits hle r rest hcontents
    exact ⟨r', hread, hrest⟩

end Survival

theorem writeAll_wire (d : ExtraData) (p : Wire) : ∃ p', d.writeAll p = (.ok (), p') := by
  have hentries (entries : List (String × ExtraValue)) (p : Wire) :
      ∃ p', entries.forM writeEntry p = (.ok (), p') := by
    induction entries generalizing p with
    | nil => exact ⟨p, rfl⟩
    | cons entry entries ih =>
      obtain ⟨key, value⟩ := entry
      cases value <;> exact ih _
  exact hentries d.toList _

theorem extra_data_survives_overwritten :
    ∃ d : ExtraData, d["fps"]? = some (.string "sixty") ∧ ∃ r rest, Survives Wire.fifo d r rest := by
  have run : Run SetStep ∅ [("fps", .i32 60), ("fps", .string "sixty")]
      (((∅ : ExtraData).extraSet "fps" (.i32 60)).2.extraSet "fps" (.string "sixty")).2 :=
    .cons ⟨(by decide : fitsInt32 60), rfl⟩ (.single ⟨trivial, rfl⟩)
  obtain ⟨p', hall⟩ := writeAll_wire _ emptyWire
  refine ⟨_, by simp [extraSet], p', [], (extra_data_survives Wire.fifo run
    (writeToParcel_of_writeAll hall) (congrArg Prod.fst hall)
    ⟨p'.words, rfl, (List.append_nil _).symm⟩).mpr ?_⟩
  simp [extraSet, surfaceMaxUserDataCount, Std.ExtTreeMap.size_insert]

def nthKey (n : ℕ) : String := String.ofList (List.replicate n 'k')

theorem nthKey_injective : Function.Injective nthKey := by
  intro m n h
  have hlist := String.ofList_injective h
  simpa using congrArg List.length hlist

/-- The first `n` keys, set one after the other. -/
def fill : ℕ → ExtraData
  | 0 => ∅
  | n + 1 => ((fill n).extraSet (nthKey n) (.i32 0)).2

theorem fill_run (n : ℕ) :
    Run SetStep ∅ ((List.range n).map fun i => (nthKey i, .i32 0)) (fill n) := by
  induction n with
  | zero => exact .nil
  | succ n ih =>
    rw [List.range_succ, List.map_append]
    exact .snoc ih ⟨⟨by decide, by decide⟩, rfl⟩

theorem fill_size {n : ℕ} (h : n ≤ surfaceMaxUserDataCount + 1) :
    (fill n).size = n ∧ ∀ j, nthKey j ∈ fill n ↔ j < n := by
  induction n with
  | zero => simp [fill]
  | succ n ih =>
    obtain ⟨hsize, hkeys⟩ := ih (Nat.le_of_succ_le h)
    have hroom : (fill n).size ≤ surfaceMaxUserDataCount := by
      rw [hsize]
      exact Nat.le_of_succ_le_succ h
    have hnew : nthKey n ∉ fill n := by
      rw [hkeys]
      exact Nat.lt_irrefl n
    rw [fill, extraSet_ok hroom]
    refine ⟨?_, fun j => ?_⟩
    · rw [Std.ExtTreeMap.size_insert, if_neg (by simpa using hnew), hsize]
    · rw [Std.ExtTreeMap.mem_insert, hkeys, Std.LawfulEqCmp.compare_eq_iff_eq, nthKey_injective.eq_iff]
      omega

/-- With one entry more than `SURFACE_MAX_USER_DATA_COUNT`, which the setter accepts and the writer
sends, the reader fails. -/
theorem full_extra_data_lost :
    ¬ ∀ (sets : List (String × ExtraValue)) (d : ExtraData) (p p' r : Wire)
      (rest : List (Word WireFile)), Run SetStep ∅ sets d → d.writeToParcel p = (.ok (), p') →
      Wire.fifo.Sent p p' r rest → Survives Wire.fifo d r rest := by
  intro h
  have hsize := (fill_size (Nat.le_refl (surfaceMaxUserDataCount + 1))).1
  obtain ⟨p', hall⟩ := writeAll_wire (fill (surfaceMaxUserDataCount + 1)) emptyWire
  have hwrite := writeToParcel_of_writeAll hall
  have hsent : Wire.fifo.Sent emptyWire p' p' [] := ⟨p'.words, rfl, (List.append_nil _).symm⟩
  obtain ⟨r', hread, -⟩ := h _ _ emptyWire p' p' [] (fill_run _) hwrite hsent
  have hcontents := (writeAll_writes Wire.fifo _ _).sent hall hsent
  rw [List.append_assoc] at hcontents
  have hle := size_of_readFromParcel Wire.fifo (by rw [hsize]; decide) hcontents hread
  rw [hsize] at hle
  exact Nat.not_succ_le_self _ hle

end ExtraData

end GraphicSurface
