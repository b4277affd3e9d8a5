import GraphicSurface.Layouts
import GraphicSurface.MetadataCache

/-! `MetadataHelper`: records as the metadata of a buffer. The keys, the masks and the enumerations
are constants of the display HDI. All writes go through the cache of the buffer. -/

namespace GraphicSurface

open Layouts

structure ColorSpaceInfo where
  primaries : UInt32
  transfunc : UInt32
  matrix : UInt32
  range : UInt32
deriving DecidableEq

namespace ColorSpaceInfo

def ofParts (p : UInt32 × UInt32 × UInt32 × UInt32) : ColorSpaceInfo :=
  ⟨p.1, p.2.1, p.2.2.1, p.2.2.2⟩

def parts (info : ColorSpaceInfo) : UInt32 × UInt32 × UInt32 × UInt32 :=
  (info.primaries, info.transfunc, info.matrix, info.range)

theorem parts_ofParts (p : UInt32 × UInt32 × UInt32 × UInt32) : (ofParts p).parts = p := rfl

theorem ofParts_parts (info : ColorSpaceInfo) : ofParts info.parts = info := rfl

open Layout in
def layout : Layout ColorSpaceInfo :=
  (uint32.seq (uint32.seq (uint32.seq uint32))).along ⟨ofParts, parts, parts_ofParts, ofParts_parts⟩

end ColorSpaceInfo

def transFuncOffset : UInt32 := 8
def matrixOffset : UInt32 := 16
def rangeOffset : UInt32 := 21

/-- The parts of a colour space type: their masks, which are constants of the HDI. A part starts
where `buffer_common.h` says that it does, and there is no bit without a part. -/
structure ColorSpaceMasks where
  primaries : UInt32
  transfunc : UInt32
  matrix : UInt32
  range : UInt32
  transfunc_start : transfunc >>> transFuncOffset <<< transFuncOffset = transfunc
  matrix_start : matrix >>> matrixOffset <<< matrixOffset = matrix
  range_start : range >>> rangeOffset <<< rangeOffset = range
  complete : primaries ||| transfunc ||| matrix ||| range = 0xFFFFFFFF

/-- The keys that the metadata of a buffer are kept under. -/
structure MetadataKeys where
  attrKeyEnd : UInt32
  colorSpaceInfo : UInt32
  hdrMetadataType : UInt32
  hdrStaticMetadata : UInt32
  hdrDynamicMetadata : UInt32
  roiMetadata : UInt32
  videoTvPq : UInt32

/-- The HDI answers the call, and does what it is asked to. -/
def HdiAnswer.Done (hdi : HdiAnswer) : Prop := hdi.displayBuffer = true ∧ hdi.success = true

instance (hdi : HdiAnswer) : Decidable hdi.Done := inferInstanceAs (Decidable (_ ∧ _))

namespace MetadataHelper

section Convert

variable (masks : ColorSpaceMasks)

def convertColorSpaceTypeToInfo (colorSpaceType : UInt32) : ColorSpaceInfo where
  primaries := colorSpaceType &&& masks.primaries
  transfunc := (colorSpaceType &&& masks.transfunc) >>> transFuncOffset
  matrix := (colorSpaceType &&& masks.matrix) >>> matrixOffset
  range := (colorSpaceType &&& masks.range) >>> rangeOffset

def convertColorSpaceInfoToType (info : ColorSpaceInfo) : UInt32 :=
  info.primaries ||| (info.transfunc <<< transFuncOffset) ||| (info.matrix <<< matrixOffset) |||
    (info.range <<< rangeOffset)

theorem part_shifts {t mask n : UInt32} (h : mask >>> n <<< n = mask) :
    (t &&& mask) >>> n <<< n = t &&& mask := by
  rw [← UInt32.toBitVec_inj] at h ⊢
  simp only [UInt32.toBitVec_shiftLeft, UInt32.toBitVec_shiftRight, UInt32.toBitVec_and,
    BitVec.shiftLeft_eq', BitVec.ushiftRight_eq'] at h ⊢
  ext i hi
  have hbit := congrArg (·.getLsbD i) h
  simp only [BitVec.getLsbD_shiftLeft, BitVec.getLsbD_ushiftRight] at hbit
  simp only [BitVec.getLsbD_and, ← BitVec.getLsbD_eq_getElem]
  by_cases low : i < (n.toBitVec % UInt32.toBitVec 32).toNat
  · grind
  · grind

theorem and_parts (t a b : UInt32) : t &&& a ||| t &&& b = t &&& (a ||| b) :=
  UInt32.toBitVec_inj.mp BitVec.and_or_distrib_left.symm

theorem convertColorSpaceInfoToType_ofType (colorSpaceType : UInt32) :
    convertColorSpaceInfoToType (convertColorSpaceTypeToInfo masks colorSpaceType) =
      colorSpaceType := by
  unfold convertColorSpaceInfoToType convertColorSpaceTypeToInfo
  dsimp only
  rw [part_shifts masks.transfunc_start, part_shifts masks.matrix_start,
    part_shifts masks.range_start, and_parts, and_parts, and_parts, masks.complete]
  exact UInt32.and_neg_one

def convertMetadataToVec {α : Type} (layout : Layout α) (metadata : α) : List UInt8 :=
  layout.write metadata

def convertVecToMetadata {α : Type} (layout : Layout α) (data : List UInt8) : GSError × Option α :=
  match layout.read? data with
  | some metadata => (.ok, some metadata)
  | none => (.notSupport, none)

theorem convertVecToMetadata_write {α : Type} {layout : Layout α} {metadata : α} :
    convertVecToMetadata layout (convertMetadataToVec layout metadata) = (.ok, some metadata) := by
  unfold convertVecToMetadata convertMetadataToVec
  rw [Layout.read?_write]

end Convert

section Buffers

variable {H α : Type} (keys : MetadataKeys)

/-- The writes of bytes under a key, to a buffer that may be null. -/
def setBytes (key : UInt32) (buffer : Option (BufferMetadata H)) (value : List UInt8)
    (hdi : HdiAnswer) : GSError × Option (BufferMetadata H) :=
  match buffer with
  | none => (.noBuffer, none)
  | some buffer => Prod.map id some (buffer.setMetadata keys.attrKeyEnd key value true hdi)

def getBytes (key : UInt32) (buffer : Option (BufferMetadata H)) (hdi : HdiAnswer) :
    MetadataReply :=
  match buffer with
  | none => (.noBuffer, none)
  | some buffer => buffer.getMetadata keys.attrKeyEnd key hdi

def setRecord (layout : Layout α) (key : UInt32) (buffer : Option (BufferMetadata H)) (metadata : α)
    (hdi : HdiAnswer) : GSError × Option (BufferMetadata H) :=
  setBytes keys key buffer (convertMetadataToVec layout metadata) hdi

def getRecord (layout : Layout α) (key : UInt32) (buffer : Option (BufferMetadata H))
    (hdi : HdiAnswer) : GSError × Option α :=
  match getBytes keys key buffer hdi with
  | (.ok, some data) => convertVecToMetadata layout data
  | (ret, _) => (ret, none)

variable (buffer : Option (BufferMetadata H)) (hdi : HdiAnswer)

def setColorSpaceInfo (colorSpaceInfo : ColorSpaceInfo) : GSError × Option (BufferMetadata H) :=
  setRecord keys ColorSpaceInfo.layout keys.colorSpaceInfo buffer colorSpaceInfo hdi

def getColorSpaceInfo : GSError × Option ColorSpaceInfo :=
  getRecord keys ColorSpaceInfo.layout keys.colorSpaceInfo buffer hdi

def setColorSpaceType (masks : ColorSpaceMasks) (colorSpaceType : UInt32) :
    GSError × Option (BufferMetadata H) :=
  setColorSpaceInfo keys buffer hdi (convertColorSpaceTypeToInfo masks colorSpaceType)

def getColorSpaceType : GSError × Option UInt32 :=
  Prod.map id (Option.map convertColorSpaceInfoToType) (getColorSpaceInfo keys buffer hdi)

def setHDRMetadataType (hdrMetadataType : UInt32) : GSError × Option (BufferMetadata H) :=
  setRecord keys Layout.uint32 keys.hdrMetadataType buffer hdrMetadataType hdi

def getHDRMetadataType : GSError × Option UInt32 :=
  getRecord keys Layout.uint32 keys.hdrMetadataType buffer hdi

def setHDRStaticMetadata (hdrStaticMetadata : List UInt8) : GSError × Option (BufferMetadata H) :=
  setBytes keys keys.hdrStaticMetadata buffer hdrStaticMetadata hdi

def getHDRStaticMetadata : MetadataReply := getBytes keys keys.hdrStaticMetadata buffer hdi

def setHDRDynamicMetadata (hdrDynamicMetadata : List UInt8) : GSError × Option (BufferMetadata H) :=
  setBytes keys keys.hdrDynamicMetadata buffer hdrDynamicMetadata hdi

def getHDRDynamicMetadata : MetadataReply := getBytes keys keys.hdrDynamicMetadata buffer hdi

def getROIMetadata : MetadataReply := getBytes keys keys.roiMetadata buffer hdi

section Held

variable {keys} {key : UInt32} {b : BufferMetadata H} {value : List UInt8} {hdi hdi' : HdiAnswer}

def Holds (keys : MetadataKeys) (b : BufferMetadata H) (key : UInt32) (value : List UInt8) : Prop :=
  ¬ (key = 0 ∨ keys.attrKeyEnd ≤ key) ∧ b.handle.isSome ∧ b.stored key = some value

theorem coherent_of_setMetadata (h : b.Coherent) :
    (b.setMetadata keys.attrKeyEnd key value true hdi).2.Coherent := by
  have hkept : b.CacheKept true := ⟨h, Bool.noConfusion⟩
  exact hkept.setMetadata.1

theorem handle_of_setMetadata :
    (b.setMetadata keys.attrKeyEnd key value true hdi).2.handle = b.handle :=
  BufferMetadata.setMetadata_cases (P := fun r => r.2.handle = b.handle) (fun _ _ => rfl)
    (fun _ _ _ => rfl) fun _ _ => rfl

theorem stored_of_setMetadata_ne {key' : UInt32} (h : key' ≠ key) :
    (b.setMetadata keys.attrKeyEnd key value true hdi).2.stored key' = b.stored key' :=
  BufferMetadata.setMetadata_cases (P := fun r => r.2.stored key' = b.stored key') (fun _ _ => rfl)
    (fun _ _ _ => rfl) fun _ _ => Function.update_of_ne h ..

theorem setMetadata_of_failed (h : (b.setMetadata keys.attrKeyEnd key value true hdi).1 ≠ .ok) :
    (b.setMetadata keys.attrKeyEnd key value true hdi).2 = b := by
  revert h
  exact BufferMetadata.setMetadata_cases (P := fun r => r.1 ≠ .ok → r.2 = b) (fun _ _ _ => rfl)
    (fun _ _ _ _ => rfl) fun _ _ h => absurd rfl h

/-- A write that is left out has been made before, so that a successful write is always there. -/
theorem holds_of_setMetadata (h : b.Coherent)
    (hret : (b.setMetadata keys.attrKeyEnd key value true hdi).1 = .ok) :
    Holds keys (b.setMetadata keys.attrKeyEnd key value true hdi).2 key value := by
  revert hret
  refine BufferMetadata.setMetadata_cases (P := fun r => r.1 = .ok → Holds keys r.2 key value)
    (fun ret hne hret => absurd hret hne) (fun hcheck _ hhit _ => ?_) fun hcheck _ _ => ?_
  · obtain ⟨hkey, -, hhandle⟩ := BufferMetadata.checkKey_ok.mp hcheck
    exact ⟨hkey, hhandle, h key value hhit⟩
  · obtain ⟨hkey, -, hhandle⟩ := BufferMetadata.checkKey_ok.mp hcheck
    exact ⟨hkey, hhandle, Function.update_self ..⟩

theorem stored_of_setMetadata (h : b.Coherent)
    (ready : ¬ (key = 0 ∨ keys.attrKeyEnd ≤ key) ∧ b.handle.isSome) (done : hdi.Done) :
    (b.setMetadata keys.attrKeyEnd key value true hdi).2.stored =
      Function.update b.stored key (some value) := by
  have hcheck : b.checkKey keys.attrKeyEnd key hdi = .ok :=
    BufferMetadata.checkKey_ok.mpr ⟨ready.1, done.1, ready.2⟩
  unfold BufferMetadata.setMetadata
  rw [hcheck, if_neg (not_not.mpr rfl)]
  by_cases hhit : b.metaDataCache key = some value
  · rw [if_pos (by simp [BufferMetadata.metaDataCached, hhit]), ← h key value hhit,
      Function.update_eq_self]
  · rw [if_neg (by simp [BufferMetadata.metaDataCached, hhit]), if_pos done.2]
    rfl

theorem setMetadata_of_not_done (h : ¬ hdi.Done) :
    (b.setMetadata keys.attrKeyEnd key value true hdi).2 = b := by
  refine BufferMetadata.setMetadata_cases (P := fun r => r.2 = b) (fun _ _ => rfl)
    (fun _ _ _ => rfl) fun hcheck success => ?_
  exact absurd ⟨(BufferMetadata.checkKey_ok.mp hcheck).2.1, success⟩ h

theorem getBytes_eq_ok (ready : ¬ (key = 0 ∨ keys.attrKeyEnd ≤ key) ∧ b.handle.isSome)
    {found : Option (List UInt8)} :
    getBytes keys key (some b) hdi = (.ok, found) ↔
      hdi.Done ∧ ∃ value, b.stored key = some value ∧ found = some value := by
  unfold getBytes BufferMetadata.getMetadata
  dsimp only
  by_cases service : hdi.displayBuffer = true
  · rw [BufferMetadata.checkKey_ok.mpr ⟨ready.1, service, ready.2⟩, if_neg (not_not.mpr rfl)]
    cases hstored : b.stored key with
    | none => simp
    | some value =>
      by_cases success : hdi.success = true
      · simp [HdiAnswer.Done, service, success, eq_comm]
      · simp [HdiAnswer.Done, success]
  · have hcheck : b.checkKey keys.attrKeyEnd key hdi ≠ .ok := fun h =>
      service (BufferMetadata.checkKey_ok.mp h).2.1
    rw [if_pos hcheck]
    simp [HdiAnswer.Done, service, hcheck]

theorem getRecord_eq_ok {layout : Layout α} {metadata : α}
    (ready : ¬ (key = 0 ∨ keys.attrKeyEnd ≤ key) ∧ b.handle.isSome) :
    getRecord keys layout key (some b) hdi = (.ok, some metadata) ↔
      hdi.Done ∧ b.stored key = some (convertMetadataToVec layout metadata) := by
  unfold getRecord
  constructor
  · intro h
    split at h
    · rename_i data hget
      obtain ⟨done, value, hstored, hdata⟩ := (getBytes_eq_ok ready).mp hget
      obtain rfl := Option.some.inj hdata
      unfold convertVecToMetadata at h
      split at h
      · rename_i m hread
        obtain rfl : m = metadata := Option.some.inj (Prod.ext_iff.mp h).2
        exact ⟨done, hstored.trans (congrArg some (Layout.read?_eq_some.mp hread))⟩
      · cases (Prod.ext_iff.mp h).2
    · cases (Prod.ext_iff.mp h).2
  · rintro ⟨done, hstored⟩
    rw [(getBytes_eq_ok ready).mpr ⟨done, _, hstored, rfl⟩]
    exact convertVecToMetadata_write

theorem getBytes_of_holds (h : Holds keys b key value) (done : hdi.Done) :
    getBytes keys key (some b) hdi = (.ok, some value) :=
  (getBytes_eq_ok ⟨h.1, h.2.1⟩).mpr ⟨done, value, h.2.2, rfl⟩

theorem getRecord_of_holds {layout : Layout α} {metadata : α}
    (h : Holds keys b key (convertMetadataToVec layout metadata)) (done : hdi.Done) :
    getRecord keys layout key (some b) hdi = (.ok, some metadata) :=
  (getRecord_eq_ok ⟨h.1, h.2.1⟩).mpr ⟨done, h.2.2⟩

theorem getColorSpaceType_of_holds {masks : ColorSpaceMasks} {colorSpaceType : UInt32}
    (h : Holds keys b keys.colorSpaceInfo (convertMetadataToVec ColorSpaceInfo.layout
      (convertColorSpaceTypeToInfo masks colorSpaceType))) (done : hdi.Done) :
    getColorSpaceType keys (some b) hdi = (.ok, some colorSpaceType) := by
  unfold getColorSpaceType getColorSpaceInfo
  rw [getRecord_of_holds h done]
  exact congrArg (GSError.ok, some ·) (convertColorSpaceInfoToType_ofType masks colorSpaceType)

end Held

end Buffers

end MetadataHelper

end GraphicSurface
