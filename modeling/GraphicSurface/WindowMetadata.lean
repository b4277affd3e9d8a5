import Mathlib.Data.List.TakeWhile
import GraphicSurface.MetadataHelper
import GraphicSurface.UserData

/-! The colour space and the HDR metadata of a native window. What the window is told is kept as
user data of its surface, as text for what is a number, and `SetMetadataValue` writes it to each
buffer that is handed to the producer, except by `RequestBuffers`. -/

namespace GraphicSurface

open Layouts Runs

namespace Decimal

def digits (n : ℕ) : List UInt8 := (Nat.toDigits 10 n).map fun c => UInt8.ofNat c.toNat

def toString : ℤ → List UInt8
  | .ofNat n => digits n
  | .negSucc n => 45 :: digits (n + 1)

def isSpace (b : UInt8) : Bool := b = 32 ∨ 9 ≤ b ∧ b ≤ 13

def isDigit (b : UInt8) : Bool := 48 ≤ b ∧ b ≤ 57

def value (ds : List UInt8) : ℕ := ds.foldl (fun n d => 10 * n + (d.toNat - 48)) 0

/-- The standard leaves open what becomes of a number that is no `int`. -/
def atoi (text : List UInt8) : ℤ :=
  let text := text.dropWhile isSpace
  if text.head? = some 45 then -(value (text.tail.takeWhile isDigit) : ℤ)
  else if text.head? = some 43 then value (text.tail.takeWhile isDigit)
  else value (text.takeWhile isDigit)

theorem char_bounds {n : ℕ} {c : Char} (h : c ∈ Nat.toDigits 10 n) :
    48 ≤ c.toNat ∧ c.toNat ≤ 57 := by
  have hdigit := Nat.isDigit_of_mem_toDigits (by decide) (by decide) h
  simp only [Char.isDigit, Bool.and_eq_true, decide_eq_true_eq, ge_iff_le, UInt32.le_iff_toNat_le]
    at hdigit
  exact hdigit

theorem toNat_of_mem {n : ℕ} {c : Char} (h : c ∈ Nat.toDigits 10 n) :
    (UInt8.ofNat c.toNat).toNat = c.toNat := by
  have hc := char_bounds h
  rw [UInt8.toNat_ofNat', Nat.mod_eq_of_lt (by omega)]

theorem digit_bounds {n : ℕ} {b : UInt8} (h : b ∈ digits n) : 48 ≤ b.toNat ∧ b.toNat ≤ 57 := by
  obtain ⟨c, hc, rfl⟩ := List.mem_map.mp h
  rw [toNat_of_mem hc]
  exact char_bounds hc

theorem value_digits (n : ℕ) : value (digits n) = n := by
  have hchars : value (digits n) = Nat.ofDigitChars 10 (Nat.toDigits 10 n) 0 := by
    rw [Nat.ofDigitChars_eq_foldl, value, digits, List.foldl_map]
    refine List.foldl_ext _ _ _ fun m c hc => ?_
    rw [toNat_of_mem hc]
    rfl
  rw [hchars, Nat.ofDigitChars_ten_toDigits]

theorem digits_ne_nil (n : ℕ) : digits n ≠ [] := by
  unfold digits
  rw [Ne, List.map_eq_nil_iff]
  exact Nat.toDigits_ne_nil

theorem toString_ne_nil (v : ℤ) : toString v ≠ [] := by
  cases v with
  | ofNat n => exact digits_ne_nil n
  | negSucc n => exact List.cons_ne_nil 45 (digits (n + 1))

theorem takeWhile_digits (n : ℕ) : (digits n).takeWhile isDigit = digits n := by
  refine List.takeWhile_eq_self_iff.mpr fun b hb => ?_
  simp only [isDigit, Bool.decide_and, Bool.and_eq_true, decide_eq_true_eq, UInt8.le_iff_toNat_le]
  exact digit_bounds hb

theorem atoi_digits (n : ℕ) : atoi (digits n) = n := by
  obtain ⟨b, bs, hcons⟩ := List.exists_cons_of_ne_nil (digits_ne_nil n)
  obtain ⟨hlow, hhigh⟩ := digit_bounds (n := n) (b := b) (hcons ▸ List.mem_cons_self)
  -- a digit is neither a space nor a sign
  have hne (m : UInt8) (hm : m.toNat < 48) : b ≠ m := fun h => by
    rw [h] at hlow
    omega
  have hspace : isSpace b = false := by
    simp only [isSpace, decide_eq_false_iff_not, not_or, not_and, UInt8.le_iff_toNat_le]
    exact ⟨hne 32 (by decide), fun _ => by simpa using (by omega : ¬ b.toNat ≤ 13)⟩
  have hdrop : (digits n).dropWhile isSpace = digits n := by
    rw [hcons, List.dropWhile_cons_of_neg (by rw [hspace]; exact Bool.false_ne_true)]
  unfold atoi
  dsimp only
  rw [hdrop, if_neg, if_neg, takeWhile_digits, value_digits]
  · rw [hcons]
    exact fun h => hne 43 (by decide) (Option.some.inj h)
  · rw [hcons]
    exact fun h => hne 45 (by decide) (Option.some.inj h)

theorem atoi_toString (v : ℤ) : atoi (toString v) = v := by
  cases v with
  | ofNat n => exact atoi_digits n
  | negSucc n =>
    change -(value ((digits (n + 1)).takeWhile isDigit) : ℤ) = Int.negSucc n
    rw [takeWhile_digits, value_digits, Int.negSucc_eq, Nat.cast_succ]

end Decimal

/-- What the window is told: as user data of the surface, and as metadata of a buffer. -/
inductive ToldKey
  | colorSpace
  | hdrDynamic
  | hdrStatic
  | hdrType
deriving DecidableEq

namespace ToldKey

def name : ToldKey → String
  | colorSpace => "ATTRKEY_COLORSPACE_INFO"
  | hdrDynamic => "OH_HDR_DYNAMIC_METADATA"
  | hdrStatic => "OH_HDR_STATIC_METADATA"
  | hdrType => "OH_HDR_METADATA_TYPE"

def hdiKey (keys : MetadataKeys) : ToldKey → UInt32
  | colorSpace => keys.colorSpaceInfo
  | hdrDynamic => keys.hdrDynamicMetadata
  | hdrStatic => keys.hdrStaticMetadata
  | hdrType => keys.hdrMetadataType

/-- The order in which a buffer is told. -/
def order : List ToldKey := [colorSpace, hdrDynamic, hdrStatic, hdrType]

theorem mem_order (k : ToldKey) : k ∈ order := by
  cases k <;> decide

theorem order_nodup : order.Nodup := by
  decide

end ToldKey

/-- Constants of the display HDI: what the enumerators of the native interface are there, in the
order in which a search for a value finds them, and the keys. Those that a window sets differ. The
window and the buffer have a map of their own for the metadata types; the window's, as it is
compiled, has fewer. Other numbers stand for other types, and zero for none. -/
structure HdiConstants where
  keys : MetadataKeys
  masks : ColorSpaceMasks
  nativeColorSpaceToHdiMap : List (ℕ × UInt32)
  windowMetadataTypes : List (UInt8 × UInt32)
  bufferMetadataTypes : List (UInt8 × UInt32)
  hdiKey_injective : Function.Injective (ToldKey.hdiKey keys)
  window_subset_buffer : windowMetadataTypes ⊆ bufferMetadataTypes
  types_distinct : ∀ e ∈ bufferMetadataTypes, ∀ e' ∈ bufferMetadataTypes, e.2 = e'.2 → e = e'
  types_nonzero : ∀ e ∈ bufferMetadataTypes, e.2 ≠ 0
  /-- The order in which the standard library goes through an `unordered_map`. -/
  iterated : List (UInt8 × UInt32) → List (UInt8 × UInt32)
  iterated_perm : ∀ types, (iterated types).Perm types

inductive NativeMetadataKey
  | hdrMetadataType
  | hdrStaticMetadata
  | hdrDynamicMetadata
  | regionOfInterestMetadata
deriving DecidableEq

def metaDataMaxSize : ℕ := 3000

/-- `std::to_string` of an HDI number, which `atoi` takes back. -/
def hdiText (v : UInt32) : List UInt8 := Decimal.toString v.toBitVec.toInt

def hdiNumber (text : List UInt8) : UInt32 := UInt32.ofBitVec (BitVec.ofInt 32 (Decimal.atoi text))

theorem hdiNumber_hdiText (v : UInt32) : hdiNumber (hdiText v) = v := by
  unfold hdiNumber hdiText
  rw [Decimal.atoi_toString, BitVec.ofInt_toInt]

/-- `operator []` of the window's map: a type that the map does not have is put in as zero. -/
def hdiMetadataType (types : List (UInt8 × UInt32)) (hdrMetadataType : UInt8) :
    UInt32 × List (UInt8 × UInt32) :=
  match types.lookup hdrMetadataType with
  | some v => (v, types)
  | none => (0, (hdrMetadataType, 0) :: types)

/-- A type as it is copied to the caller. -/
def metadataTypeBytes (hdrMetadataType : UInt8) : List UInt8 :=
  MetadataHelper.convertMetadataToVec Layout.uint32 hdrMetadataType.toUInt32

def metadataTypeReply (types : List (UInt8 × UInt32)) (hdrMetadataType : UInt32) : MetadataReply :=
  match types.find? (·.2 == hdrMetadataType) with
  | some entry => (.ok, some (metadataTypeBytes entry.1))
  | none => (.notSupport, none)

namespace UserData

variable {φ : Type} (c : HdiConstants) (s : UserData φ)

/-- What is there already is not set once more. A failure of `SetUserData` has no low error, so
that it is never the one that reads "Not supported". -/
def tellWindow (k : ToldKey) (param : List UInt8) :
    GSError × List (UserDataChange φ) × UserData φ :=
  if param ≠ s.getUserData k.name then
    let r := s.setUserData k.name param
    (if r.1 = .ok then .ok else .internal, r.2)
  else (.ok, [], s)

/-- `OH_NativeWindow_SetColorSpace`. -/
def nativeWindowSetColorSpace (colorSpace : ℕ) : GSError × List (UserDataChange φ) × UserData φ :=
  match c.nativeColorSpaceToHdiMap.lookup colorSpace with
  | none => (.invalidArguments, [], s)
  | some v => s.tellWindow .colorSpace (hdiText v)

/-- `OH_NativeWindow_GetColorSpace`. -/
def nativeWindowGetColorSpace : GSError × Option ℕ :=
  let value := s.getUserData ToldKey.colorSpace.name
  if value = [] then (.internal, none)
  else
    match c.nativeColorSpaceToHdiMap.find? (·.2 == hdiNumber value) with
    | some entry => (.ok, some entry.1)
    | none => (.internal, none)

/-- `OH_NativeWindow_SetMetadataValue`, with the window's map. -/
def nativeWindowSetMetadataValue (types : List (UInt8 × UInt32)) (metadataKey : NativeMetadataKey)
    (metadata : List UInt8) :
    (GSError × List (UserDataChange φ) × UserData φ) × List (UInt8 × UInt32) :=
  if metadata.length = 0 ∨ metaDataMaxSize < metadata.length then
    ((.invalidArguments, [], s), types)
  else
    match metadataKey with
    | .hdrDynamicMetadata => (s.tellWindow .hdrDynamic metadata, types)
    | .hdrStaticMetadata => (s.tellWindow .hdrStatic metadata, types)
    | .hdrMetadataType =>
      let r := hdiMetadataType types (metadata.headD 0)
      (s.tellWindow .hdrType (hdiText r.1), r.2)
    | .regionOfInterestMetadata => ((.notSupport, [], s), types)

/-- `OH_NativeWindow_GetMatedataValueType`. -/
def nativeWindowGetMetadataType (types : List (UInt8 × UInt32)) : MetadataReply :=
  metadataTypeReply (c.iterated types) (hdiNumber (s.getUserData ToldKey.hdrType.name))

def nativeWindowGetMetadataBytes (k : ToldKey) : MetadataReply :=
  let value := s.getUserData k.name
  if value = [] then (.internal, none) else (.ok, some value)

/-- `OH_NativeWindow_GetMetadataValue`. -/
def nativeWindowGetMetadataValue (types : List (UInt8 × UInt32)) : NativeMetadataKey → MetadataReply
  | .hdrDynamicMetadata => s.nativeWindowGetMetadataBytes .hdrDynamic
  | .hdrStaticMetadata => s.nativeWindowGetMetadataBytes .hdrStatic
  | .hdrMetadataType => s.nativeWindowGetMetadataType c types
  | .regionOfInterestMetadata => (.internal, none)

variable {H : Type}

/-- One of the writes of `SetMetadataValue`: the others of the call are left out once one fails. -/
def tellBuffer (hdi : ToldKey → HdiAnswer) (r : GSError × Option (BufferMetadata H))
    (k : ToldKey) : GSError × Option (BufferMetadata H) :=
  if r.1 ≠ .ok then r
  else
    let value := s.getUserData k.name
    if value = [] then r
    else
      match k with
      | .colorSpace =>
        MetadataHelper.setColorSpaceType c.keys r.2 (hdi k) c.masks (hdiNumber value)
      | .hdrDynamic => MetadataHelper.setHDRDynamicMetadata c.keys r.2 (hdi k) value
      | .hdrStatic => MetadataHelper.setHDRStaticMetadata c.keys r.2 (hdi k) value
      | .hdrType => MetadataHelper.setHDRMetadataType c.keys r.2 (hdi k) (hdiNumber value)

def setMetadataValue (hdi : ToldKey → HdiAnswer) (buffer : Option (BufferMetadata H)) :
    GSError × Option (BufferMetadata H) :=
  ToldKey.order.foldl (s.tellBuffer c hdi) (.ok, buffer)

end UserData

section Readers

variable {H : Type} (c : HdiConstants) (buffer : Option (BufferMetadata H)) (hdi : HdiAnswer)

/-- A failure, as the native interface reports it. -/
def nativeBufferError (ret : GSError) : GSError :=
  if ret = .hdiError then .notSupport else .internal

/-- `OH_NativeBuffer_GetColorSpace`. -/
def nativeBufferGetColorSpace : GSError × Option ℕ :=
  match MetadataHelper.getColorSpaceType c.keys buffer hdi with
  | (.ok, some colorSpaceType) =>
    match c.nativeColorSpaceToHdiMap.find? (·.2 == colorSpaceType) with
    | some entry => (.ok, some entry.1)
    | none => (.internal, none)
  | (ret, _) => (nativeBufferError ret, none)

/-- `OH_NativeBuffer_GetMatedataValueType`. -/
def nativeBufferGetMetadataType : MetadataReply :=
  match MetadataHelper.getHDRMetadataType c.keys buffer hdi with
  | (.ok, some hdrMetadataType) => metadataTypeReply c.bufferMetadataTypes hdrMetadataType
  | (ret, _) => (nativeBufferError ret, none)

def nativeBufferGetMetadataBytes (reply : MetadataReply) : MetadataReply :=
  match reply with
  | (.ok, some value) => if value = [] then (.internal, none) else (.ok, some value)
  | (ret, _) => (nativeBufferError ret, none)

/-- `OH_NativeBuffer_GetMetadataValue`. -/
def nativeBufferGetMetadataValue : NativeMetadataKey → MetadataReply
  | .hdrDynamicMetadata =>
    nativeBufferGetMetadataBytes (MetadataHelper.getHDRDynamicMetadata c.keys buffer hdi)
  | .hdrStaticMetadata =>
    nativeBufferGetMetadataBytes (MetadataHelper.getHDRStaticMetadata c.keys buffer hdi)
  | .regionOfInterestMetadata =>
    nativeBufferGetMetadataBytes (MetadataHelper.getROIMetadata c.keys buffer hdi)
  | .hdrMetadataType => nativeBufferGetMetadataType c buffer hdi

end Readers

/-- A window, the user data of its surface and the buffers of its producer by sequence number. The
map of the metadata types belongs to the process. -/
structure MetadataWindow (φ H : Type) where
  surface : UserData φ := {}
  types : List (UInt8 × UInt32)
  buffers : ℕ → BufferMetadata H

/-- Calls on the window, other calls on the user data, `SetMetadataValue` for the buffer that a
request or a release hands to the producer, the requests of several buffers at once, which leave it
out, and what else is done to the metadata of a buffer. -/
inductive MetadataWindowCall (φ H : Type)
  | setColorSpace (colorSpace : ℕ)
  | setMetadataValue (metadataKey : NativeMetadataKey) (metadata : List UInt8)
  | onSurface (call : UserDataCall φ)
  | handOut (sequence : ℕ) (hdi : ToldKey → HdiAnswer)
  | requestBuffers (sequences : List ℕ)
  | onBuffer (sequence : ℕ) (call : MetadataCall H)

namespace MetadataWindowCall

variable {φ H : Type} (c : HdiConstants)

/-- What the call sets in the user data: a type that the window has not counts as zero. -/
def setting : MetadataWindowCall φ H → Option (String × List UInt8)
  | setColorSpace colorSpace =>
    (c.nativeColorSpaceToHdiMap.lookup colorSpace).map fun v =>
      (ToldKey.colorSpace.name, hdiText v)
  | setMetadataValue metadataKey metadata =>
    if metadata.length = 0 ∨ metaDataMaxSize < metadata.length then none
    else
      match metadataKey with
      | .hdrDynamicMetadata => some (ToldKey.hdrDynamic.name, metadata)
      | .hdrStaticMetadata => some (ToldKey.hdrStatic.name, metadata)
      | .hdrMetadataType =>
        some (ToldKey.hdrType.name,
          hdiText ((c.windowMetadataTypes.lookup (metadata.headD 0)).getD 0))
      | .regionOfInterestMetadata => none
  | onSurface call => call.setting
  | handOut _ _ | requestBuffers _ | onBuffer _ _ => none

def target : MetadataWindowCall φ H → Option ℕ
  | handOut sequence _ | onBuffer sequence _ => some sequence
  | _ => none

/-- The metadata of a buffer are written through its cache, as `surface_buffer.h` asks for. -/
def Cached : MetadataWindowCall φ H → Prop
  | onBuffer _ call => call.Uniform true
  | _ => True

variable [DecidableEq H]

def next (s : MetadataWindow φ H) : MetadataWindowCall φ H → MetadataWindow φ H
  | setColorSpace colorSpace =>
    { s with surface := (s.surface.nativeWindowSetColorSpace c colorSpace).2.2 }
  | setMetadataValue metadataKey metadata =>
    let r := s.surface.nativeWindowSetMetadataValue s.types metadataKey metadata
    { s with surface := r.1.2.2, types := r.2 }
  | onSurface call => { s with surface := call.next s.surface }
  | handOut sequence hdi => { s with
      buffers := Function.update s.buffers sequence
        ((s.surface.setMetadataValue c hdi (some (s.buffers sequence))).2.getD
          (s.buffers sequence)) }
  | requestBuffers _ => s
  | onBuffer sequence call => { s with
      buffers := Function.update s.buffers sequence
        ((s.buffers sequence).next c.keys.attrKeyEnd call) }

end MetadataWindowCall

namespace ToldKey

def bytes (c : HdiConstants) (value : List UInt8) : ToldKey → List UInt8
  | colorSpace => MetadataHelper.convertMetadataToVec ColorSpaceInfo.layout
      (MetadataHelper.convertColorSpaceTypeToInfo c.masks (hdiNumber value))
  | hdrDynamic | hdrStatic => value
  | hdrType => MetadataHelper.convertMetadataToVec Layout.uint32 (hdiNumber value)

end ToldKey

namespace UserData

variable {φ H : Type} {c : HdiConstants} {s : UserData φ} {hdi : ToldKey → HdiAnswer}

open MetadataHelper

theorem tellWindow_userData (k : ToldKey) {param : List UInt8} (hparam : param ≠ []) :
    (s.tellWindow k param).2.2.userData = gated insertion Full s.userData (k.name, param) := by
  unfold tellWindow
  split_ifs with hnew
  · exact next_userData s (.setUserData k.name param)
  · rw [not_not] at hnew
    have hpresent : s.userData[k.name]? = some param := by
      unfold getUserData at hnew
      cases hvalue : s.userData[k.name]? with
      | none =>
        rw [hvalue] at hnew
        exact absurd hnew hparam
      | some value =>
        rw [hvalue] at hnew
        exact congrArg some hnew.symm
    unfold gated
    split_ifs
    · rfl
    · exact (insert_of_mem hpresent).symm

theorem tellBuffer_failed {r : GSError × Option (BufferMetadata H)} (h : r.1 ≠ .ok)
    (ks : List ToldKey) : ks.foldl (s.tellBuffer c hdi) r = r := by
  induction ks with
  | nil => rfl
  | cons k ks ih =>
    have hstep : s.tellBuffer c hdi r k = r := if_pos h
    rw [List.foldl_cons, hstep, ih]

theorem tellBuffer_untold {b : BufferMetadata H} {k : ToldKey} (h : s.getUserData k.name = []) :
    s.tellBuffer c hdi (.ok, some b) k = (.ok, some b) := by
  unfold tellBuffer
  rw [if_neg (not_not.mpr rfl), h]
  exact if_pos rfl

theorem tellBuffer_told {b : BufferMetadata H} {k : ToldKey} (h : s.getUserData k.name ≠ []) :
    s.tellBuffer c hdi (.ok, some b) k = Prod.map id some (b.setMetadata c.keys.attrKeyEnd
      (k.hdiKey c.keys) (k.bytes c (s.getUserData k.name)) true (hdi k)) := by
  unfold tellBuffer
  rw [if_neg (not_not.mpr rfl)]
  dsimp only
  rw [if_neg h]
  cases k <;> rfl

/-- What a hand-out leaves of a buffer: the writes before the first that fails are made, and no
other metadata change. -/
structure Told (c : HdiConstants) (s : UserData φ) (b b' : BufferMetadata H)
    (done : List ToldKey) : Prop where
  coherent : b'.Coherent
  handle : b'.handle = b.handle
  others : ∀ key, (∀ k ∈ done, k.hdiKey c.keys ≠ key) → b'.stored key = b.stored key
  holds : ∀ k ∈ done, s.getUserData k.name ≠ [] →
    Holds c.keys b' (k.hdiKey c.keys) (k.bytes c (s.getUserData k.name))

theorem Told.nil {b : BufferMetadata H} (hb : b.Coherent) : Told c s b b [] :=
  ⟨hb, rfl, fun _ _ => rfl, fun _ h => absurd h List.not_mem_nil⟩

theorem Told.cons_untold {b b' : BufferMetadata H} {k : ToldKey} {done : List ToldKey}
    (h : Told c s b b' done) (untold : s.getUserData k.name = []) : Told c s b b' (k :: done) where
  coherent := h.coherent
  handle := h.handle
  others key hkey := h.others key fun k' hk' => hkey k' (List.mem_cons_of_mem k hk')
  holds k' hk' told := by
    obtain rfl | hk' := List.mem_cons.mp hk'
    · exact absurd untold told
    · exact h.holds k' hk' told

theorem Told.cons_written {b b' : BufferMetadata H} {k : ToldKey} {done : List ToldKey}
    {answer : HdiAnswer} (hb : b.Coherent) (hk : k ∉ done)
    (written : (b.setMetadata c.keys.attrKeyEnd (k.hdiKey c.keys)
      (k.bytes c (s.getUserData k.name)) true answer).1 = .ok)
    (h : Told c s (b.setMetadata c.keys.attrKeyEnd (k.hdiKey c.keys)
      (k.bytes c (s.getUserData k.name)) true answer).2 b' done) :
    Told c s b b' (k :: done) where
  coherent := h.coherent
  handle := h.handle.trans handle_of_setMetadata
  others key hkey :=
    (h.others key fun k' hk' => hkey k' (List.mem_cons_of_mem k hk')).trans
      (stored_of_setMetadata_ne (hkey k List.mem_cons_self).symm)
  holds k' hk' told := by
    obtain rfl | hk' := List.mem_cons.mp hk'
    · obtain ⟨hvalid, hhandle, hstored⟩ := holds_of_setMetadata hb written
      -- the later writes are under other keys
      have hkept := h.others (k'.hdiKey c.keys) fun k hkdone heq =>
        hk (c.hdiKey_injective heq ▸ hkdone)
      exact ⟨hvalid, (congrArg Option.isSome h.handle).trans hhandle, hkept.trans hstored⟩
    · exact h.holds k' hk' told

theorem foldl_tellBuffer {b : BufferMetadata H} (hb : b.Coherent) {ks : List ToldKey}
    (hks : ks.Nodup) :
    ∃ b' done rest, (ks.foldl (s.tellBuffer c hdi) (.ok, some b)).2 = some b' ∧
      ks = done ++ rest ∧ Told c s b b' done ∧
      ((ks.foldl (s.tellBuffer c hdi) (.ok, some b)).1 = .ok ↔ rest = []) := by
  induction ks generalizing b with
  | nil => exact ⟨b, [], [], rfl, rfl, Told.nil hb, iff_of_true rfl rfl⟩
  | cons k ks ih =>
    obtain ⟨hk, hks⟩ := List.nodup_cons.mp hks
    rw [List.foldl_cons]
    by_cases untold : s.getUserData k.name = []
    · rw [tellBuffer_untold untold]
      obtain ⟨b', done, rest, hb', rfl, told, hret⟩ := ih hb hks
      exact ⟨b', k :: done, rest, hb', rfl, told.cons_untold untold, hret⟩
    · rw [tellBuffer_told untold]
      by_cases written : (b.setMetadata c.keys.attrKeyEnd (k.hdiKey c.keys)
          (k.bytes c (s.getUserData k.name)) true (hdi k)).1 = .ok
      · obtain ⟨b', done, rest, hb', rfl, told, hret⟩ := ih (coherent_of_setMetadata hb) hks
        have hdone : k ∉ done := fun h => hk (List.mem_append_left rest h)
        rw [show Prod.map id some (b.setMetadata c.keys.attrKeyEnd (k.hdiKey c.keys)
          (k.bytes c (s.getUserData k.name)) true (hdi k)) = (.ok, some _) from
          Prod.ext written rfl]
        exact ⟨b', k :: done, rest, hb', rfl, told.cons_written hb hdone written, hret⟩
      · rw [tellBuffer_failed written]
        refine ⟨b, [], k :: ks, ?_, rfl, Told.nil hb, ?_⟩
        · exact congrArg some (setMetadata_of_failed written)
        · exact iff_of_false written (List.cons_ne_nil k ks)

theorem setMetadataValue_told (s : UserData φ) (hdi : ToldKey → HdiAnswer) {b : BufferMetadata H}
    (hb : b.Coherent) :
    ∃ b' done rest, (s.setMetadataValue c hdi (some b)).2 = some b' ∧
      ToldKey.order = done ++ rest ∧ Told c s b b' done ∧
      ((s.setMetadataValue c hdi (some b)).1 = .ok ↔ rest = []) :=
  foldl_tellBuffer hb ToldKey.order_nodup

/-- A buffer shows a value that the window has been told, and shows it as the window does. Of the
metadata types these are the ones that the window has; any other is told as zero, which is no type
of the buffer. -/
def Shows (c : HdiConstants) (s : UserData φ) (types : List (UInt8 × UInt32)) (b : BufferMetadata H)
    (answer : HdiAnswer) (value : List UInt8) : ToldKey → Prop
  | .colorSpace =>
    nativeBufferGetColorSpace c (some b) answer = s.nativeWindowGetColorSpace c ∧
      ∀ v, value = hdiText v → getColorSpaceType c.keys (some b) answer = (.ok, some v)
  | .hdrType =>
    (∀ v, value = hdiText v → getHDRMetadataType c.keys (some b) answer = (.ok, some v)) ∧
    (∀ e ∈ c.windowMetadataTypes, value = hdiText e.2 →
      nativeBufferGetMetadataValue c (some b) answer .hdrMetadataType =
        s.nativeWindowGetMetadataValue c types .hdrMetadataType ∧
      s.nativeWindowGetMetadataValue c types .hdrMetadataType =
        (.ok, some (metadataTypeBytes e.1))) ∧
    (value = hdiText 0 →
      nativeBufferGetMetadataValue c (some b) answer .hdrMetadataType = (.notSupport, none))
  | .hdrDynamic =>
    nativeBufferGetMetadataValue c (some b) answer .hdrDynamicMetadata =
        s.nativeWindowGetMetadataValue c types .hdrDynamicMetadata ∧
      s.nativeWindowGetMetadataValue c types .hdrDynamicMetadata = (.ok, some value)
  | .hdrStatic =>
    nativeBufferGetMetadataValue c (some b) answer .hdrStaticMetadata =
        s.nativeWindowGetMetadataValue c types .hdrStaticMetadata ∧
      s.nativeWindowGetMetadataValue c types .hdrStaticMetadata = (.ok, some value)

section Types

/-- The window's map is what was compiled and types that were asked for since. -/
structure Grown (c : HdiConstants) (types : List (UInt8 × UInt32)) : Prop where
  lookup : ∀ t, (types.lookup t).getD 0 = (c.windowMetadataTypes.lookup t).getD 0
  kept : c.windowMetadataTypes ⊆ types
  added : ∀ e ∈ types, e ∈ c.windowMetadataTypes ∨ e.2 = 0

variable {types : List (UInt8 × UInt32)} {e : UInt8 × UInt32}

theorem Grown.compiled (c : HdiConstants) : Grown c c.windowMetadataTypes :=
  ⟨fun _ => rfl, List.Subset.refl _, fun _ he => .inl he⟩

theorem hdiMetadataType_fst (types : List (UInt8 × UInt32)) (t : UInt8) :
    (hdiMetadataType types t).1 = (types.lookup t).getD 0 := by
  unfold hdiMetadataType
  cases types.lookup t <;> rfl

theorem Grown.hdiMetadataType (h : Grown c types) (t : UInt8) :
    Grown c (hdiMetadataType types t).2 := by
  unfold GraphicSurface.hdiMetadataType
  cases hlookup : types.lookup t with
  | some v => exact h
  | none =>
    refine ⟨fun t' => ?_, fun e he => List.mem_cons_of_mem _ (h.kept he), fun e he => ?_⟩
    · rw [← h.lookup t', List.lookup_cons]
      by_cases hsame : t' = t
      · simp [hsame, hlookup]
      · simp [beq_false_of_ne hsame]
    · rcases List.mem_cons.mp he with rfl | he
      · exact .inr rfl
      · exact h.added e he

theorem metadataTypeReply_of_mem (he : e ∈ types) (hdistinct : ∀ e' ∈ types, e'.2 = e.2 → e' = e) :
    metadataTypeReply types e.2 = (.ok, some (metadataTypeBytes e.1)) := by
  unfold metadataTypeReply
  cases hfind : types.find? (·.2 == e.2) with
  | none => exact absurd (beq_self_eq_true e.2) (List.find?_eq_none.mp hfind e he)
  | some e' =>
    have hnumber : (e'.2 == e.2) = true :=
      List.find?_some (p := fun x : UInt8 × UInt32 => x.2 == e.2) hfind
    rw [hdistinct e' (List.mem_of_find?_eq_some hfind) (eq_of_beq hnumber)]

theorem metadataTypeReply_zero (h : ∀ e ∈ types, e.2 ≠ 0) :
    metadataTypeReply types 0 = (.notSupport, none) := by
  unfold metadataTypeReply
  rw [List.find?_eq_none.mpr fun e he => by simpa using h e he]

theorem Grown.reply (h : Grown c types) (he : e ∈ c.windowMetadataTypes) :
    metadataTypeReply (c.iterated types) e.2 = (.ok, some (metadataTypeBytes e.1)) := by
  have hmem : ∀ e', e' ∈ c.iterated types ↔ e' ∈ types := fun e' => (c.iterated_perm types).mem_iff
  refine metadataTypeReply_of_mem ((hmem e).mpr (h.kept he)) fun e' he' hsame => ?_
  rcases h.added e' ((hmem e').mp he') with hcompiled | hzero
  · exact c.types_distinct e' (c.window_subset_buffer hcompiled) e (c.window_subset_buffer he) hsame
  · exact absurd (hsame.symm.trans hzero) (c.types_nonzero e (c.window_subset_buffer he))

end Types

section Shown

variable {types : List (UInt8 × UInt32)} {b : BufferMetadata H} {answer : HdiAnswer}

theorem nativeWindowGetMetadataBytes_told {k : ToldKey} (told : s.getUserData k.name ≠ []) :
    s.nativeWindowGetMetadataBytes k = (.ok, some (s.getUserData k.name)) :=
  if_neg told

theorem nativeBufferGetMetadataBytes_told {k : ToldKey} (told : s.getUserData k.name ≠ [])
    (h : Holds c.keys b (k.hdiKey c.keys) (s.getUserData k.name)) (done : answer.Done) :
    nativeBufferGetMetadataBytes (getBytes c.keys (k.hdiKey c.keys) (some b) answer) =
      (.ok, some (s.getUserData k.name)) := by
  unfold nativeBufferGetMetadataBytes
  rw [getBytes_of_holds h done]
  exact if_neg told

theorem shows_hdrType (h : Holds c.keys b c.keys.hdrMetadataType
      (ToldKey.hdrType.bytes c (s.getUserData ToldKey.hdrType.name)))
    (grown : Grown c types) (done : answer.Done) :
    Shows c s types b answer (s.getUserData ToldKey.hdrType.name) .hdrType := by
  have hbuffer : ∀ v, s.getUserData ToldKey.hdrType.name = hdiText v →
      getHDRMetadataType c.keys (some b) answer = (.ok, some v) := by
    intro v hv
    rw [← hdiNumber_hdiText v, ← hv]
    exact getRecord_of_holds h done
  have hshown : ∀ v, s.getUserData ToldKey.hdrType.name = hdiText v →
      nativeBufferGetMetadataValue c (some b) answer .hdrMetadataType =
        metadataTypeReply c.bufferMetadataTypes v := by
    intro v hv
    unfold nativeBufferGetMetadataValue nativeBufferGetMetadataType
    rw [hbuffer v hv]
  refine ⟨hbuffer, fun e he hv => ?_, fun hv => ?_⟩
  · have hwindow : s.nativeWindowGetMetadataValue c types .hdrMetadataType =
        (.ok, some (metadataTypeBytes e.1)) := by
      unfold nativeWindowGetMetadataValue nativeWindowGetMetadataType
      rw [hv, hdiNumber_hdiText]
      exact grown.reply he
    refine ⟨?_, hwindow⟩
    rw [hshown e.2 hv, hwindow]
    have hmem := c.window_subset_buffer he
    exact metadataTypeReply_of_mem hmem fun e' he' => c.types_distinct e' he' e hmem
  · rw [hshown 0 hv]
    exact metadataTypeReply_zero c.types_nonzero

theorem shows_of_holds {k : ToldKey} (told : s.getUserData k.name ≠ [])
    (h : Holds c.keys b (k.hdiKey c.keys) (k.bytes c (s.getUserData k.name)))
    (grown : Grown c types) (done : answer.Done) :
    Shows c s types b answer (s.getUserData k.name) k := by
  cases k with
  | colorSpace =>
    have htype := getColorSpaceType_of_holds h done
    refine ⟨?_, fun v hv => ?_⟩
    · unfold nativeBufferGetColorSpace UserData.nativeWindowGetColorSpace
      rw [htype]
      dsimp only
      rw [if_neg told]
    · rw [htype, hv, hdiNumber_hdiText]
  | hdrType => exact shows_hdrType h grown done
  | hdrDynamic =>
    have hwindow := nativeWindowGetMetadataBytes_told told
    exact ⟨(nativeBufferGetMetadataBytes_told told h done).trans hwindow.symm, hwindow⟩
  | hdrStatic =>
    have hwindow := nativeWindowGetMetadataBytes_told told
    exact ⟨(nativeBufferGetMetadataBytes_told told h done).trans hwindow.symm, hwindow⟩

end Shown

end UserData

namespace MetadataWindow

variable {φ H : Type} {c : HdiConstants} [DecidableEq H]

open MetadataWindowCall MetadataHelper

theorem next_grown {s : MetadataWindow φ H} (h : UserData.Grown c s.types)
    (call : MetadataWindowCall φ H) : UserData.Grown c (call.next c s).types := by
  cases call with
  | setMetadataValue metadataKey metadata =>
    unfold MetadataWindowCall.next UserData.nativeWindowSetMetadataValue
    dsimp only
    split_ifs
    · exact h
    · cases metadataKey with
      | hdrMetadataType => exact h.hdiMetadataType _
      | hdrStaticMetadata | hdrDynamicMetadata | regionOfInterestMetadata => exact h
  | setColorSpace | onSurface | handOut | requestBuffers | onBuffer => exact h

theorem execute_grown {s : MetadataWindow φ H} (h : UserData.Grown c s.types)
    (calls : List (MetadataWindowCall φ H)) :
    UserData.Grown c (execute (MetadataWindowCall.next c) s calls).types := by
  induction calls generalizing s with
  | nil => exact h
  | cons call calls ih => exact ih (next_grown h call)

theorem next_surface {s : MetadataWindow φ H} (grown : UserData.Grown c s.types)
    (call : MetadataWindowCall φ H) :
    (call.next c s).surface.userData = match call.setting c with
      | none => s.surface.userData
      | some p => gated UserData.insertion UserData.Full s.surface.userData p := by
  cases call with
  | setColorSpace colorSpace =>
    unfold MetadataWindowCall.next UserData.nativeWindowSetColorSpace setting
    dsimp only
    cases c.nativeColorSpaceToHdiMap.lookup colorSpace with
    | none => rfl
    | some v => exact UserData.tellWindow_userData .colorSpace (Decimal.toString_ne_nil _)
  | setMetadataValue metadataKey metadata =>
    unfold MetadataWindowCall.next UserData.nativeWindowSetMetadataValue setting
    dsimp only
    split_ifs with hlength
    · rfl
    · have hne : metadata ≠ [] := fun h => hlength (.inl (List.length_eq_zero_iff.mpr h))
      cases metadataKey with
      | hdrMetadataType =>
        have htold := s.surface.tellWindow_userData .hdrType (Decimal.toString_ne_nil
          (hdiMetadataType s.types (metadata.headD 0)).1.toBitVec.toInt)
        rw [UserData.hdiMetadataType_fst] at htold
        dsimp only
        rw [UserData.hdiMetadataType_fst, ← grown.lookup]
        exact htold
      | hdrStaticMetadata => exact UserData.tellWindow_userData .hdrStatic hne
      | hdrDynamicMetadata => exact UserData.tellWindow_userData .hdrDynamic hne
      | regionOfInterestMetadata => rfl
  | onSurface call => exact UserData.next_userData s.surface call
  | handOut sequence hdi => rfl
  | requestBuffers sequences => rfl
  | onBuffer sequence call => rfl

theorem execute_surface {s : MetadataWindow φ H} (grown : UserData.Grown c s.types)
    (calls : List (MetadataWindowCall φ H)) :
    (execute (MetadataWindowCall.next c) s calls).surface.userData =
      execute (gated UserData.insertion UserData.Full) s.surface.userData
        (calls.filterMap (setting c)) := by
  induction calls generalizing s with
  | nil => rfl
  | cons call calls ih =>
    refine (ih (next_grown grown call)).trans ?_
    rw [next_surface grown]
    cases h : call.setting c with
    | none => rw [List.filterMap_cons_none h]
    | some p =>
      rw [List.filterMap_cons_some h]
      rfl

theorem next_coherent {s : MetadataWindow φ H} (hs : ∀ i, (s.buffers i).Coherent)
    {call : MetadataWindowCall φ H} (cached : call.Cached) (i : ℕ) :
    ((call.next c s).buffers i).Coherent := by
  cases call with
  | setColorSpace colorSpace => exact hs i
  | setMetadataValue metadataKey metadata => exact hs i
  | onSurface call => exact hs i
  | requestBuffers sequences => exact hs i
  | handOut sequence hdi =>
    change (Function.update s.buffers sequence _ i).Coherent
    by_cases h : i = sequence
    · obtain ⟨b', done, rest, hb', -, told, -⟩ :=
        s.surface.setMetadataValue_told (c := c) hdi (hs sequence)
      rw [h, Function.update_self, hb']
      exact told.coherent
    · rw [Function.update_of_ne h]
      exact hs i
  | onBuffer sequence call =>
    change (Function.update s.buffers sequence _ i).Coherent
    by_cases h : i = sequence
    · rw [h, Function.update_self]
      exact (BufferMetadata.CacheKept.next ⟨hs sequence, Bool.noConfusion⟩ cached).1
    · rw [Function.update_of_ne h]
      exact hs i

theorem next_buffers (s : MetadataWindow φ H) {call : MetadataWindowCall φ H} {i : ℕ}
    (h : call.target ≠ some i) : (call.next c s).buffers i = s.buffers i := by
  cases call with
  | setColorSpace colorSpace => rfl
  | setMetadataValue metadataKey metadata => rfl
  | onSurface call => rfl
  | requestBuffers sequences => rfl
  | handOut sequence hdi => exact Function.update_of_ne (fun heq => h (congrArg some heq.symm)) ..
  | onBuffer sequence call => exact Function.update_of_ne (fun heq => h (congrArg some heq.symm)) ..

theorem execute_buffers (s : MetadataWindow φ H) {calls : List (MetadataWindowCall φ H)} {i : ℕ}
    (h : ∀ call ∈ calls, call.target ≠ some i) :
    (execute (MetadataWindowCall.next c) s calls).buffers i = s.buffers i := by
  induction calls generalizing s with
  | nil => rfl
  | cons call calls ih =>
    exact (ih (call.next c s) fun d hd => h d (List.mem_cons_of_mem call hd)).trans
      (next_buffers s (h call List.mem_cons_self))

theorem execute_coherent {s : MetadataWindow φ H} (hs : ∀ i, (s.buffers i).Coherent)
    {calls : List (MetadataWindowCall φ H)} (cached : ∀ call ∈ calls, call.Cached) (i : ℕ) :
    ((execute (MetadataWindowCall.next c) s calls).buffers i).Coherent := by
  induction calls generalizing s with
  | nil => exact hs i
  | cons call calls ih =>
    exact ih (next_coherent hs (cached call List.mem_cons_self)) fun d hd =>
      cached d (List.mem_cons_of_mem call hd)

/-- What a window has been told, up to the setting that fills the user data, is what every buffer
shows that is handed out afterwards, but for `RequestBuffers`, as long as the writes of the hand-out
succeed and nothing else is done to the metadata of the buffer. -/
theorem window_metadata_reaches_buffers {s : MetadataWindow φ H}
    (hs : ∀ i, (s.buffers i).Coherent) (grown : UserData.Grown c s.types) {before later : List (MetadataWindowCall φ H)}
    (cached : ∀ call ∈ before, call.Cached) {i : ℕ} {hdi : ToldKey → HdiAnswer}
    (ok : ((execute (MetadataWindowCall.next c) s before).surface.setMetadataValue c hdi
      (some ((execute (MetadataWindowCall.next c) s before).buffers i))).1 = .ok)
    (untouched : ∀ call ∈ later, call.target ≠ some i) :
    ∃ kept lost, before.filterMap (setting c) = kept ++ lost ∧
      (lost ≠ [] → surfaceMaxUserDataCount ≤
        (execute (MetadataWindowCall.next c) s before).surface.userData.size) ∧
      ∀ k value, (kept.reverse.lookup k.name).getD (s.surface.getUserData k.name) = value →
        value ≠ [] → ∀ answer : HdiAnswer, answer.Done →
        UserData.Shows c (execute (MetadataWindowCall.next c) s before).surface
          (execute (MetadataWindowCall.next c) s before).types
          ((execute (MetadataWindowCall.next c) s (before ++ .handOut i hdi :: later)).buffers i)
          answer value k := by
  obtain ⟨kept, lost, hsplit, hrun, hlost, -⟩ := execute_gated UserData.insertion UserData.Full
    s.surface.userData (before.filterMap (setting c))
  have hdata := (execute_surface grown before).trans hrun
  have hgrown := execute_grown grown before
  refine ⟨kept, lost, hsplit, fun h => ?_, ?_⟩
  · rw [hdata]
    exact hlost h
  rintro k value hvalue told answer done
  generalize hsurface : execute (MetadataWindowCall.next c) s before = r at *
  have hget : r.surface.getUserData k.name = value := by
    unfold UserData.getUserData
    rw [hdata, UserData.getElem?_execute_insertion, Option.getD_or]
    exact hvalue
  have hr : (r.buffers i).Coherent := hsurface ▸ execute_coherent hs cached i
  obtain ⟨b', written, rest, hb', horder, htold, hret⟩ :=
    r.surface.setMetadataValue_told (c := c) hdi hr
  obtain rfl := hret.mp ok
  have hk : k ∈ written := by
    rw [List.append_nil] at horder
    exact horder ▸ k.mem_order
  have hbuffer : (execute (MetadataWindowCall.next c) s
      (before ++ .handOut i hdi :: later)).buffers i = b' := by
    rw [execute_append, hsurface]
    refine (execute_buffers _ untouched).trans ?_
    change Function.update r.buffers i
      ((r.surface.setMetadataValue c hdi (some (r.buffers i))).2.getD (r.buffers i)) i = b'
    rw [Function.update_self, hb']
    rfl
  rw [hbuffer, ← hget]
  rw [← hget] at told
  exact UserData.shows_of_holds told (htold.holds k hk told) hgrown done

theorem sampleMasks_start : (0xFF00 : UInt32) >>> transFuncOffset <<< transFuncOffset = 0xFF00 ∧
    (0x1F0000 : UInt32) >>> matrixOffset <<< matrixOffset = 0x1F0000 ∧
    (0xFFE00000 : UInt32) >>> rangeOffset <<< rangeOffset = 0xFFE00000 := by
  decide

theorem sampleMasks_complete :
    (0xFF : UInt32) ||| 0xFF00 ||| 0x1F0000 ||| 0xFFE00000 = 0xFFFFFFFF := by
  decide

def sampleKeys : MetadataKeys := ⟨100, 1, 2, 3, 4, 5, 6⟩

theorem sampleKeys_injective : Function.Injective (ToldKey.hdiKey sampleKeys) := by
  intro k k'
  cases k <;> cases k' <;> decide

def sampleWindowTypes : List (UInt8 × UInt32) := [(0, 1), (1, 2), (2, 3)]

def sampleBufferTypes : List (UInt8 × UInt32) :=
  sampleWindowTypes ++ [(3, 4), (4, 5), (5, 6), (6, 7)]

theorem sampleTypes_subset : sampleWindowTypes ⊆ sampleBufferTypes :=
  List.subset_append_left _ _

theorem sampleTypes_distinct :
    ∀ e ∈ sampleBufferTypes, ∀ e' ∈ sampleBufferTypes, e.2 = e'.2 → e = e' := by
  simp [sampleBufferTypes, sampleWindowTypes]

theorem sampleTypes_nonzero : ∀ e ∈ sampleBufferTypes, e.2 ≠ 0 := by
  simp [sampleBufferTypes, sampleWindowTypes]

def sampleHdiConstants : HdiConstants where
  keys := sampleKeys
  masks := ⟨0xFF, 0xFF00, 0x1F0000, 0xFFE00000, sampleMasks_start.1, sampleMasks_start.2.1,
    sampleMasks_start.2.2, sampleMasks_complete⟩
  nativeColorSpaceToHdiMap := [(3, 0x00230301)]
  windowMetadataTypes := sampleWindowTypes
  bufferMetadataTypes := sampleBufferTypes
  hdiKey_injective := sampleKeys_injective
  window_subset_buffer := sampleTypes_subset
  types_distinct := sampleTypes_distinct
  types_nonzero := sampleTypes_nonzero
  iterated := id
  iterated_perm := List.Perm.refl

def sampleMetadataWindow : MetadataWindow Unit Unit where
  types := sampleWindowTypes
  buffers := fun _ => { handle := some () }

/-- A type that only the buffer has reads back from the window, and not from the buffer. -/
example : UserData.nativeWindowGetMetadataValue sampleHdiConstants
      (execute (MetadataWindowCall.next sampleHdiConstants) sampleMetadataWindow
        [.setMetadataValue .hdrMetadataType [3]]).surface
      (execute (MetadataWindowCall.next sampleHdiConstants) sampleMetadataWindow
        [.setMetadataValue .hdrMetadataType [3]]).types .hdrMetadataType =
        (.ok, some (metadataTypeBytes 3)) ∧
    nativeBufferGetMetadataValue sampleHdiConstants
      (some ((execute (MetadataWindowCall.next sampleHdiConstants) sampleMetadataWindow
        [.setMetadataValue .hdrMetadataType [3], .handOut 0 fun _ => ⟨true, true⟩]).buffers 0))
      ⟨true, true⟩ .hdrMetadataType = (.notSupport, none) := by
  decide

/-- A window is told a colour space, and hands out a buffer. -/
theorem window_metadata_reaches_buffers_told :
    ∃ kept lost, [MetadataWindowCall.setColorSpace (φ := Unit) (H := Unit) 3].filterMap
        (setting sampleHdiConstants) = kept ++ lost ∧
      (lost ≠ [] → surfaceMaxUserDataCount ≤
        (execute (MetadataWindowCall.next sampleHdiConstants) sampleMetadataWindow
          [.setColorSpace 3]).surface.userData.size) ∧
      ∀ k value, (kept.reverse.lookup k.name).getD
          (sampleMetadataWindow.surface.getUserData k.name) = value →
        value ≠ [] → ∀ answer : HdiAnswer, answer.Done →
        UserData.Shows sampleHdiConstants
          (execute (MetadataWindowCall.next sampleHdiConstants) sampleMetadataWindow
            [.setColorSpace 3]).surface
          (execute (MetadataWindowCall.next sampleHdiConstants) sampleMetadataWindow
            [.setColorSpace 3]).types
          ((execute (MetadataWindowCall.next sampleHdiConstants) sampleMetadataWindow
            ([.setColorSpace 3] ++ .handOut 0 (fun _ => ⟨true, true⟩) :: [])).buffers 0)
          answer value k :=
  window_metadata_reaches_buffers (fun _ _ _ h => absurd h (Option.some_ne_none _).symm)
    (UserData.Grown.compiled sampleHdiConstants) (fun call h => (List.mem_singleton.mp h) ▸ trivial) (by decide)
    fun call h => absurd h List.not_mem_nil

end MetadataWindow

end GraphicSurface
