import GraphicSurface.MetadataHelper
import GraphicSurface.Runs

/-! The picture quality metadata of a television. A setter of `MetadataHelper` reads the whole
record, changes a part of it and writes the whole record, and takes a record of zeros where it could
not read one. -/

namespace GraphicSurface

open Layouts Runs

/-- The record is packed; four of its numbers have four bits. -/
structure TvPQMetadata where
  sceneTag : UInt16
  uiFrameCnt : UInt8
  vidFrameCnt : UInt8
  vidFps : UInt8
  vidWinX : UInt16
  vidWinY : UInt16
  vidWinWidth : UInt16
  vidWinHeight : UInt16
  vidWinSize : UInt8
  vidVdhWidth : UInt16
  vidVdhHeight : UInt16
  scaleMode : BitVec 4
  dpPixFmt : BitVec 4
  colorimetry : BitVec 4
  hdr : BitVec 4
  hdrLuminance : UInt16
  hdrRatio : UInt16
  reserved : UInt32
deriving DecidableEq

structure TvVideoWindow where
  x : UInt16
  y : UInt16
  width : UInt16
  height : UInt16
  size : UInt8

namespace TvPQMetadata

/-- The bytes, in three groups. -/
abbrev Fields : Type :=
  (UInt16 × UInt8 × UInt8 × UInt8) ×
    (UInt16 × UInt16 × UInt16 × UInt16 × UInt8 × UInt16 × UInt16) ×
    ((BitVec 4 × BitVec 4) × (BitVec 4 × BitVec 4) × UInt16 × UInt16 × UInt32)

def ofFields : Fields → TvPQMetadata
  | ((sceneTag, uiFrameCnt, vidFrameCnt, vidFps), (x, y, width, height, size, vdhWidth, vdhHeight),
      ((scaleMode, dpPixFmt), (colorimetry, hdr), luminance, ratio, reserved)) =>
    ⟨sceneTag, uiFrameCnt, vidFrameCnt, vidFps, x, y, width, height, size, vdhWidth, vdhHeight,
      scaleMode, dpPixFmt, colorimetry, hdr, luminance, ratio, reserved⟩

def fields (m : TvPQMetadata) : Fields :=
  ((m.sceneTag, m.uiFrameCnt, m.vidFrameCnt, m.vidFps),
    (m.vidWinX, m.vidWinY, m.vidWinWidth, m.vidWinHeight, m.vidWinSize, m.vidVdhWidth,
      m.vidVdhHeight),
    ((m.scaleMode, m.dpPixFmt), (m.colorimetry, m.hdr), m.hdrLuminance, m.hdrRatio, m.reserved))

theorem fields_ofFields (f : Fields) : (ofFields f).fields = f := rfl

theorem ofFields_fields (m : TvPQMetadata) : ofFields m.fields = m := rfl

open Layout in
def layout : Layout TvPQMetadata :=
  ((uint16.seq (byte.seq (byte.seq byte))).seq
    ((uint16.seq (uint16.seq (uint16.seq (uint16.seq (byte.seq (uint16.seq uint16)))))).seq
      (nibbles.seq (nibbles.seq (uint16.seq (uint16.seq uint32)))))).along
    ⟨ofFields, fields, fields_ofFields, ofFields_fields⟩

example : layout.size = 28 := rfl

def zero : TvPQMetadata := ofFields ((0, 0, 0, 0), (0, 0, 0, 0, 0, 0, 0), ((0, 0), (0, 0), 0, 0, 0))

end TvPQMetadata

/-- The setters, with what they are given. -/
inductive TvUpdate
  | setSceneTag (value : UInt8)
  | setUIFrameCount (value : UInt8)
  | setVideoFrameCount (value : UInt8)
  | setVideoFrameRate (value : UInt8)
  | setVideoTVInfo (tvVideoWindow : TvVideoWindow)
  | setVideoDecoderHigh (vidVdhWidth vidVdhHeight : UInt16)
  | setVideoTVScaleMode (value : UInt8)
  | setVideoTVDpPixelFormat (value : UInt32)
  | setVideoColorimetryHdr (hdr colorimetry : UInt8)

/-- What the setters set, each for its own, and what none of them sets. -/
inductive TvPart
  | sceneTag
  | uiFrameCnt
  | vidFrameCnt
  | vidFps
  | vidWin
  | vidVdh
  | scaleMode
  | dpPixFmt
  | colorimetryHdr
  | rest
deriving DecidableEq

namespace TvPart

def get (m : TvPQMetadata) : TvPart → List ℕ
  | sceneTag => [m.sceneTag.toNat]
  | uiFrameCnt => [m.uiFrameCnt.toNat]
  | vidFrameCnt => [m.vidFrameCnt.toNat]
  | vidFps => [m.vidFps.toNat]
  | vidWin => [m.vidWinX.toNat, m.vidWinY.toNat, m.vidWinWidth.toNat, m.vidWinHeight.toNat,
      m.vidWinSize.toNat]
  | vidVdh => [m.vidVdhWidth.toNat, m.vidVdhHeight.toNat]
  | scaleMode => [m.scaleMode.toNat]
  | dpPixFmt => [m.dpPixFmt.toNat]
  | colorimetryHdr => [m.colorimetry.toNat, m.hdr.toNat]
  | rest => [m.hdrLuminance.toNat, m.hdrRatio.toNat, m.reserved.toNat]

theorem ext_get {m m' : TvPQMetadata} (h : ∀ p, get m p = get m' p) : m = m' := by
  have h1 := h sceneTag
  have h2 := h uiFrameCnt
  have h3 := h vidFrameCnt
  have h4 := h vidFps
  have h5 := h vidWin
  have h6 := h vidVdh
  have h7 := h scaleMode
  have h8 := h dpPixFmt
  have h9 := h colorimetryHdr
  have h10 := h rest
  cases m
  cases m'
  simp only [get, List.cons.injEq, and_true, UInt16.toNat_inj, UInt8.toNat_inj, UInt32.toNat_inj,
    BitVec.toNat_inj] at h1 h2 h3 h4 h5 h6 h7 h8 h9 h10
  simp only [h1, h2, h3, h4, h5, h6, h7, h8, h9, h10]

end TvPart

namespace TvUpdate

/-- A number is cut to the bits of its field. -/
def apply (m : TvPQMetadata) : TvUpdate → TvPQMetadata
  | setSceneTag value => { m with sceneTag := value.toUInt16 }
  | setUIFrameCount value => { m with uiFrameCnt := value }
  | setVideoFrameCount value => { m with vidFrameCnt := value }
  | setVideoFrameRate value => { m with vidFps := value }
  | setVideoTVInfo tvVideoWindow => { m with
      vidWinX := tvVideoWindow.x
      vidWinY := tvVideoWindow.y
      vidWinWidth := tvVideoWindow.width
      vidWinHeight := tvVideoWindow.height
      vidWinSize := tvVideoWindow.size }
  | setVideoDecoderHigh vidVdhWidth vidVdhHeight => { m with
      vidVdhWidth := vidVdhWidth
      vidVdhHeight := vidVdhHeight }
  | setVideoTVScaleMode value => { m with scaleMode := value.toBitVec.setWidth 4 }
  | setVideoTVDpPixelFormat value => { m with dpPixFmt := value.toBitVec.setWidth 4 }
  | setVideoColorimetryHdr hdr colorimetry => { m with
      colorimetry := colorimetry.toBitVec.setWidth 4
      hdr := hdr.toBitVec.setWidth 4 }

def part : TvUpdate → TvPart
  | setSceneTag _ => .sceneTag
  | setUIFrameCount _ => .uiFrameCnt
  | setVideoFrameCount _ => .vidFrameCnt
  | setVideoFrameRate _ => .vidFps
  | setVideoTVInfo _ => .vidWin
  | setVideoDecoderHigh _ _ => .vidVdh
  | setVideoTVScaleMode _ => .scaleMode
  | setVideoTVDpPixelFormat _ => .dpPixFmt
  | setVideoColorimetryHdr _ _ => .colorimetryHdr

def value : TvUpdate → List ℕ
  | setSceneTag value | setUIFrameCount value | setVideoFrameCount value
  | setVideoFrameRate value => [value.toNat]
  | setVideoTVInfo w => [w.x.toNat, w.y.toNat, w.width.toNat, w.height.toNat, w.size.toNat]
  | setVideoDecoderHigh vidVdhWidth vidVdhHeight => [vidVdhWidth.toNat, vidVdhHeight.toNat]
  | setVideoTVScaleMode value => [value.toNat % 16]
  | setVideoTVDpPixelFormat value => [value.toNat % 16]
  | setVideoColorimetryHdr hdr colorimetry => [colorimetry.toNat % 16, hdr.toNat % 16]

theorem get_apply (u : TvUpdate) (m : TvPQMetadata) (p : TvPart) :
    p.get (u.apply m) = if p = u.part then u.value else p.get m := by
  split_ifs with h
  · subst h
    cases u <;> simp [TvPart.get, apply, part, value]
  · cases u <;> cases p <;> first | rfl | exact absurd rfl h

end TvUpdate

namespace MetadataHelper

variable {H : Type} (keys : MetadataKeys) (buffer : Option (BufferMetadata H))

def setVideoTVMetadata (tvMetadata : TvPQMetadata) (hdi : HdiAnswer) :
    GSError × Option (BufferMetadata H) :=
  setRecord keys TvPQMetadata.layout keys.videoTvPq buffer tvMetadata hdi

def getVideoTVMetadata (hdi : HdiAnswer) : GSError × Option TvPQMetadata :=
  getRecord keys TvPQMetadata.layout keys.videoTvPq buffer hdi

/-- `read` and `write` are the answers to the two calls. -/
def updateTVMetadataField (func : TvPQMetadata → TvPQMetadata) (read write : HdiAnswer) :
    GSError × Option (BufferMetadata H) :=
  match buffer with
  | none => (.noBuffer, none)
  | some _ =>
    let tvMetadata := match getVideoTVMetadata keys buffer read with
      | (.ok, some tvMetadata) => tvMetadata
      | _ => TvPQMetadata.zero
    setVideoTVMetadata keys buffer (func tvMetadata) write

def eraseVideoTVInfoKey (hdi : HdiAnswer) : GSError × Option (BufferMetadata H) :=
  match buffer with
  | none => (.noBuffer, none)
  | some buffer => Prod.map id some (buffer.eraseMetadataKey keys.attrKeyEnd keys.videoTvPq hdi)

end MetadataHelper

/-- The calls on the television metadata of a buffer. -/
inductive TvCall
  | update (u : TvUpdate) (read write : HdiAnswer)
  | setVideoTVMetadata (tvMetadata : TvPQMetadata) (write : HdiAnswer)
  | eraseVideoTVInfoKey (hdi : HdiAnswer)

namespace TvCall

variable {H : Type} (keys : MetadataKeys)

def run (b : BufferMetadata H) : TvCall → GSError × Option (BufferMetadata H)
  | update u read write =>
    MetadataHelper.updateTVMetadataField keys (some b) (fun m => u.apply m) read write
  | setVideoTVMetadata tvMetadata write =>
    MetadataHelper.setVideoTVMetadata keys (some b) tvMetadata write
  | eraseVideoTVInfoKey hdi => MetadataHelper.eraseVideoTVInfoKey keys (some b) hdi

def next (b : BufferMetadata H) (c : TvCall) : BufferMetadata H := (c.run keys b).2.getD b

end TvCall

namespace BufferMetadata

variable {H : Type}

def tvHeld (keys : MetadataKeys) (b : BufferMetadata H) : Option TvPQMetadata :=
  (b.stored keys.videoTvPq).bind TvPQMetadata.layout.read?

def TvReady (keys : MetadataKeys) (b : BufferMetadata H) : Prop :=
  ¬ (keys.videoTvPq = 0 ∨ keys.attrKeyEnd ≤ keys.videoTvPq) ∧ b.handle.isSome

end BufferMetadata

namespace TvPart

/-- A part as a register of its own: a setter of another part that could read the record keeps it,
and one that could not sets it to zero. -/
def next (p : TvPart) (old : Option (List ℕ)) : TvCall → Option (List ℕ)
  | .update u read write =>
    if write.Done then
      some (if p = u.part then u.value
        else if read.Done then old.getD (p.get TvPQMetadata.zero)
        else p.get TvPQMetadata.zero)
    else old
  | .setVideoTVMetadata tvMetadata write => if write.Done then some (p.get tvMetadata) else old
  | .eraseVideoTVInfoKey hdi => if hdi.Done then none else old

end TvPart

/-- The call is not made, or is a setter of another part that could read the record. -/
def TvCall.Spares (p : TvPart) : TvCall → Prop
  | .update u read write => write.Done → u.part ≠ p ∧ read.Done
  | .setVideoTVMetadata _ write => ¬ write.Done
  | .eraseVideoTVInfoKey hdi => ¬ hdi.Done

theorem TvPart.next_spares {p : TvPart} {v : List ℕ} {c : TvCall} (h : c.Spares p) :
    p.next (some v) c = some v := by
  cases c with
  | update u read write =>
    unfold TvPart.next
    dsimp only
    by_cases written : write.Done
    · obtain ⟨other, done⟩ := h written
      rw [if_pos written, if_neg (Ne.symm other), if_pos done]
      rfl
    · exact if_neg written
  | setVideoTVMetadata tvMetadata write => exact if_neg h
  | eraseVideoTVInfoKey hdi => exact if_neg h

namespace BufferMetadata

variable {H : Type} {keys : MetadataKeys} {b : BufferMetadata H}

open MetadataHelper

theorem tvHeld_setVideoTVMetadata (hb : b.Coherent) (ready : b.TvReady keys) (m : TvPQMetadata)
    (write : HdiAnswer) :
    tvHeld keys ((setVideoTVMetadata keys (some b) m write).2.getD b) =
      if write.Done then some m else tvHeld keys b := by
  change tvHeld keys (b.setMetadata keys.attrKeyEnd keys.videoTvPq (TvPQMetadata.layout.write m)
    true write).2 = _
  split_ifs with done
  · unfold tvHeld
    rw [stored_of_setMetadata hb ready done, Function.update_self]
    exact Layout.read?_write m
  · rw [setMetadata_of_not_done done]

theorem read_tvHeld (ready : b.TvReady keys) (read : HdiAnswer) :
    (match getVideoTVMetadata keys (some b) read with
      | (.ok, some tvMetadata) => tvMetadata
      | _ => TvPQMetadata.zero) =
      if read.Done then (tvHeld keys b).getD TvPQMetadata.zero else TvPQMetadata.zero := by
  split
  · rename_i m hget
    obtain ⟨done, hstored⟩ := (getRecord_eq_ok ready).mp hget
    unfold tvHeld
    rw [if_pos done, hstored]
    exact (congrArg (·.getD TvPQMetadata.zero) (Layout.read?_write m)).symm
  · rename_i hfailed
    split_ifs with done
    · cases hheld : tvHeld keys b with
      | none => rfl
      | some m =>
        obtain ⟨value, hstored, hread⟩ := Option.bind_eq_some_iff.mp hheld
        rw [Layout.read?_eq_some.mp hread] at hstored
        exact absurd ((getRecord_eq_ok ready).mpr ⟨done, hstored⟩) (hfailed m)
    · rfl

theorem tvHeld_eraseVideoTVInfoKey (ready : b.TvReady keys) (hdi : HdiAnswer) :
    tvHeld keys ((eraseVideoTVInfoKey keys (some b) hdi).2.getD b) =
      if hdi.Done then none else tvHeld keys b := by
  change tvHeld keys (b.eraseMetadataKey keys.attrKeyEnd keys.videoTvPq hdi).2 = _
  unfold eraseMetadataKey
  by_cases service : hdi.displayBuffer = true
  · rw [checkKey_ok.mpr ⟨ready.1, service, ready.2⟩, if_neg (not_not.mpr rfl)]
    by_cases success : hdi.success = true
    · rw [if_pos success, if_pos ⟨service, success⟩]
      exact congrArg (Option.bind · TvPQMetadata.layout.read?)
        (Function.update_self keys.videoTvPq none b.stored)
    · rw [if_neg success, if_neg fun done => success done.2]
  · rw [if_pos fun h => service (checkKey_ok.mp h).2.1, if_neg fun done => service done.1]

theorem next_ready (hb : b.Coherent) (ready : b.TvReady keys) (c : TvCall) :
    (c.next keys b).Coherent ∧ (c.next keys b).TvReady keys := by
  cases c with
  | update u read write =>
    exact ⟨coherent_of_setMetadata hb, ready.1,
      (congrArg Option.isSome handle_of_setMetadata).trans ready.2⟩
  | setVideoTVMetadata tvMetadata write =>
    exact ⟨coherent_of_setMetadata hb, ready.1,
      (congrArg Option.isSome handle_of_setMetadata).trans ready.2⟩
  | eraseVideoTVInfoKey hdi =>
    refine eraseMetadataKey_cases (P := fun r => r.2.Coherent ∧ r.2.TvReady keys)
      (fun _ _ => ⟨hb, ready⟩) ⟨hb.update keys.videoTvPq none, ready⟩

theorem tvHeld_next (hb : b.Coherent) (ready : b.TvReady keys) (c : TvCall) (p : TvPart) :
    (tvHeld keys (c.next keys b)).map (p.get ·) =
      p.next ((tvHeld keys b).map (p.get ·)) c := by
  cases c with
  | update u read write =>
    refine (congrArg (Option.map (p.get ·))
      (tvHeld_setVideoTVMetadata hb ready (u.apply _) write)).trans ?_
    rw [read_tvHeld ready read]
    unfold TvPart.next
    dsimp only
    by_cases written : write.Done
    · rw [if_pos written, if_pos written, Option.map_some, u.get_apply]
      by_cases done : read.Done
      · rw [if_pos done, if_pos done, Option.getD_map]
      · rw [if_neg done, if_neg done]
    · rw [if_neg written, if_neg written]
  | setVideoTVMetadata tvMetadata write =>
    refine (congrArg (Option.map (p.get ·))
      (tvHeld_setVideoTVMetadata hb ready tvMetadata write)).trans ?_
    unfold TvPart.next
    dsimp only
    split_ifs <;> rfl
  | eraseVideoTVInfoKey hdi =>
    refine (congrArg (Option.map (p.get ·)) (tvHeld_eraseVideoTVInfoKey ready hdi)).trans ?_
    unfold TvPart.next
    dsimp only
    split_ifs <;> rfl

theorem execute_tvHeld (hb : b.Coherent) (ready : b.TvReady keys) (cs : List TvCall)
    (p : TvPart) :
    (tvHeld keys (execute (TvCall.next keys) b cs)).map (p.get ·) =
      execute p.next ((tvHeld keys b).map (p.get ·)) cs := by
  induction cs generalizing b with
  | nil => rfl
  | cons c cs ih =>
    obtain ⟨hb', ready'⟩ := next_ready hb ready c
    refine (ih hb' ready').trans ?_
    rw [tvHeld_next hb ready c p]
    rfl

/-- The parts of the record are registers of their own, although every setter writes all of them. A
part holds what it was set to last, as long as no later setter of another part failed to read. -/
theorem parts_are_registers (hb : b.Coherent) (ready : b.TvReady keys) (cs : List TvCall)
    (p : TvPart) :
    (tvHeld keys (execute (TvCall.next keys) b cs)).map (p.get ·) =
        execute p.next ((tvHeld keys b).map (p.get ·)) cs ∧
      ∀ before u read write after, cs = before ++ .update u read write :: after → u.part = p →
        write.Done → (∀ c ∈ after, c.Spares p) →
        (tvHeld keys (execute (TvCall.next keys) b cs)).map (p.get ·) = some u.value := by
  refine ⟨execute_tvHeld hb ready cs p, ?_⟩
  rintro before u read write after rfl rfl done spared
  rw [execute_tvHeld hb ready, execute_append]
  have hset (old : Option (List ℕ)) : u.part.next old (.update u read write) = some u.value := by
    unfold TvPart.next
    dsimp only
    rw [if_pos done, if_pos rfl]
  change execute u.part.next (u.part.next _ (.update u read write)) after = _
  rw [hset]
  clear hset
  induction after with
  | nil => rfl
  | cons c after ih =>
    change execute u.part.next (u.part.next (some u.value) c) after = _
    rw [TvPart.next_spares (spared c List.mem_cons_self)]
    exact ih fun d hd => spared d (List.mem_cons_of_mem c hd)

theorem parts_are_registers_scaled :
    (tvHeld ⟨100, 1, 2, 3, 4, 5, 6⟩ (execute (TvCall.next ⟨100, 1, 2, 3, 4, 5, 6⟩)
      { handle := some () }
      [.update (.setVideoTVScaleMode 0x1F) ⟨true, true⟩ ⟨true, true⟩,
        .update (.setSceneTag 7) ⟨true, true⟩ ⟨true, true⟩])).map
      (TvPart.scaleMode.get ·) = some [15] :=
  (parts_are_registers (fun _ _ h => absurd h (Option.some_ne_none _).symm) ⟨by decide, rfl⟩
    _ _).2 [] (.setVideoTVScaleMode 0x1F) ⟨true, true⟩ ⟨true, true⟩ _ rfl rfl (by decide)
    fun c hc => (List.mem_singleton.mp hc) ▸ fun _ => by decide

end BufferMetadata

end GraphicSurface
