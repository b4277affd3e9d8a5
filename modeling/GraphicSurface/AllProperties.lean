import GraphicSurface.RemoteRequest

/-! A `SurfaceBufferImpl` in a parcel with all its properties. Besides what is sent a buffer has the
configuration of its request and the fields that its handle had when it was allocated, which
`CheckBufferHandleFields` compares with the handle. -/

namespace GraphicSurface

open Parcels

/-- `Rect` with the integers of the machine. -/
structure CropRect where
  x : Int32
  y : Int32
  w : Int32
  h : Int32
deriving DecidableEq

/-- Enumerations are the numbers they are stored as, and a fence is its descriptor. -/
structure SurfaceBufferImpl where
  sequenceNumber : UInt32
  bufferId : UInt64
  handle : Option BufferHandle := none
  surfaceBufferColorGamut : Int32 := 4
  transform : Int32 := 0
  scalingMode : Int32 := 1
  surfaceBufferWidth : Int32 := 0
  surfaceBufferHeight : Int32 := 0
  isReclaimed : Bool := false
  crop : CropRect := ⟨0, 0, 0, 0⟩
  syncFence : Option Int32 := none
  videoDimType : Int32 := 0
  bufferRequestConfig : BufferRequestConfig := emptyRequestConfig
  original : OriginalFields := .absent
deriving DecidableEq

def videoDimType2D : UInt32 := 0
def videoDimTypeButt : UInt32 := 3

namespace SurfaceBufferImpl

/-- `RecordOriginalBufferHandleFields`. -/
def recordOriginalBufferHandleFields (buffer : SurfaceBufferImpl) : SurfaceBufferImpl :=
  match buffer.handle with
  | none => buffer
  | some handle =>
    { buffer with original := ⟨true, handle.width, handle.height, handle.size, handle.stride⟩ }

def checkBufferHandleFields (buffer : SurfaceBufferImpl) : Bool :=
  match buffer.handle with
  | none => false
  | some handle =>
    !buffer.original.hasOriginalFields ||
      (handle.width == buffer.original.originalWidth &&
        handle.height == buffer.original.originalHeight &&
        handle.size == buffer.original.originalSize &&
        handle.stride == buffer.original.originalStride)

end SurfaceBufferImpl

section Codec

variable {P : Type} [Parcel P]

open Parcel

def writeHandleOrNull (handle : Option BufferHandle) : Coded Unit P Unit :=
  match handle with
  | none => writeBool false
  | some handle => do
    writeBool true
    writeBufferHandle handle

def writeFixedProperties (buffer : SurfaceBufferImpl) : Coded Unit P Unit := do
  writeUint32 buffer.surfaceBufferColorGamut.toUInt32
  writeUint32 buffer.transform.toUInt32
  writeUint32 buffer.scalingMode.toUInt32
  writeInt32 buffer.surfaceBufferWidth
  writeInt32 buffer.surfaceBufferHeight
  writeBool buffer.isReclaimed
  writeInt32 buffer.crop.x
  writeInt32 buffer.crop.y
  writeInt32 buffer.crop.w
  writeInt32 buffer.crop.h

/-- `SyncFence::WriteToMessageParcel`. -/
def writeSyncFence (badFd : Int32 → Bool) (fenceFd : Int32) : Coded Unit P Unit :=
  let fence := if 0 ≤ fenceFd ∧ badFd fenceFd then -1 else fenceFd
  do
    writeInt32 fence
    if fence < 0 then pure () else writeFileDescriptor fence

def writeSyncFenceOrNull (badFd : Int32 → Bool) (syncFence : Option Int32) : Coded Unit P Unit := do
  writeBool syncFence.isSome
  match syncFence with
  | none => pure ()
  | some fence => writeSyncFence badFd fence

def writeAllPropertiesToMessageParcel (badFd : Int32 → Bool) (buffer : SurfaceBufferImpl) :
    Coded GSError P Unit := .orFail .apiFailed do
  writeUint32 buffer.sequenceNumber
  writeUint64 buffer.bufferId
  writeHandleOrNull buffer.handle
  writeFixedProperties buffer
  writeSyncFenceOrNull badFd buffer.syncFence
  writeUint32 buffer.videoDimType.toUInt32

def readHandleOrNull (heap : Bool) : Coded Unit P (Option BufferHandle) := do
  let hasHandle ← readBool
  if hasHandle then do
    let handle ← readHandle heap
    pure (some handle)
  else pure none

def readCrop : Coded Unit P CropRect := do
  let x ← readInt32
  let y ← readInt32
  let w ← readInt32
  let h ← readInt32
  pure ⟨x, y, w, h⟩

def readFixedProperties (buffer : SurfaceBufferImpl) : Coded Unit P SurfaceBufferImpl := do
  let colorGamut ← readUint32
  let transform ← readUint32
  let scalingMode ← readUint32
  let width ← readInt32
  let height ← readInt32
  let isReclaimed ← readBool
  let crop ← readCrop
  pure { buffer with
    surfaceBufferColorGamut := colorGamut.toInt32, transform := transform.toInt32
    scalingMode := scalingMode.toInt32, surfaceBufferWidth := width
    surfaceBufferHeight := height, isReclaimed := isReclaimed, crop := crop }

def readSyncFenceOrNull : Coded Unit P (Option Int32) := do
  let hasSyncFence ← readBool
  if hasSyncFence then do
    let fence ← readFence
    pure (some fence)
  else pure none

/-- A type that is none, or could not be read, is taken as two-dimensional. -/
def readVideoDimType : Coded Unit P Int32 := fun p =>
  match readUint32 p with
  | (.ok videoDimType, p) =>
    (.ok (if videoDimType < videoDimType2D ∨ videoDimTypeButt ≤ videoDimType then videoDimType2D
      else videoDimType).toInt32, p)
  | (.error _, p) => (.ok videoDimType2D.toInt32, p)

/-- The members that are not sent keep what `buffer` had. -/
def readAllPropertiesFromMessageParcel (heap : Bool) (buffer : SurfaceBufferImpl) :
    Coded GSError P SurfaceBufferImpl := .orFail .apiFailed do
  let sequenceNumber ← readUint32
  let bufferId ← readUint64
  let handle ← readHandleOrNull heap
  let buffer ← readFixedProperties
    { buffer with sequenceNumber := sequenceNumber, bufferId := bufferId, handle := handle }
  let syncFence ← readSyncFenceOrNull
  let videoDimType ← readVideoDimType
  pure { buffer with syncFence := syncFence, videoDimType := videoDimType }

end Codec

section Transfer

variable {P F : Type} [Parcel P] (fifo : Fifo P F)

def fenceFile (p : P) (fence : Int32) : Option F := if 0 ≤ fence then fifo.fileOf p fence else none

/-- The handle has few reserved slots, and its file is as long as it says. -/
def Transferable (p : P) (handle : BufferHandle) : Prop :=
  handle.reserveFds ≤ 1024 ∧ handle.reserveInts ≤ 1024 ∧
    (0 ≤ handle.fd → ∀ file, fifo.fileOf p handle.fd = some file →
      ∃ n : ℕ, fifo.fileLength file = some n ∧ handle.size.toInt ≤ n)

/-- What has arrived in `r` is what was there in `p`, descriptors by the files they refer to. -/
structure Preserved (p : P) (buffer : SurfaceBufferImpl) (r : P) (copy : SurfaceBufferImpl) : Prop where
  sequenceNumber : copy.sequenceNumber = buffer.sequenceNumber
  bufferId : copy.bufferId = buffer.bufferId
  handle : Option.Rel (fun handle handle' => Copies fifo p handle r handle') buffer.handle copy.handle
  colorGamut : copy.surfaceBufferColorGamut = buffer.surfaceBufferColorGamut
  transform : copy.transform = buffer.transform
  scalingMode : copy.scalingMode = buffer.scalingMode
  width : copy.surfaceBufferWidth = buffer.surfaceBufferWidth
  height : copy.surfaceBufferHeight = buffer.surfaceBufferHeight
  isReclaimed : copy.isReclaimed = buffer.isReclaimed
  crop : copy.crop = buffer.crop
  syncFence : buffer.syncFence.map (fenceFile fifo p) = copy.syncFence.map (fenceFile fifo r)
  videoDimType : copy.videoDimType = buffer.videoDimType
  bufferRequestConfig : copy.bufferRequestConfig = buffer.bufferRequestConfig
  verdict : copy.checkBufferHandleFields = buffer.checkBufferHandleFields

/-- What does not travel is as in a new buffer: the configuration is the default one, the video
dimension type is one of the three, and a handle still has the fields recorded for it. -/
structure SurfaceBufferImpl.Travels (buffer : SurfaceBufferImpl) : Prop where
  bufferRequestConfig : buffer.bufferRequestConfig = emptyRequestConfig
  videoDimType : buffer.videoDimType.toUInt32 < videoDimTypeButt
  handle : buffer.handle.isSome → buffer.checkBufferHandleFields = true

def FenceArrives (p : P) (fence : Int32) (r : P) (copy : Int32) : Prop :=
  match fenceFile fifo p fence with
  | none => ¬ 0 ≤ copy
  | some file => 0 ≤ copy ∧ fifo.fileOf r copy = some file

variable {fifo} {p₀ p p' r r' : P}

theorem FenceArrives.keeps {fence copy : Int32} (h : FenceArrives fifo p fence r copy)
    (hkeeps : fifo.Keeps r r') : FenceArrives fifo p fence r' copy := by
  unfold FenceArrives at h ⊢
  split at h
  · exact h
  · exact ⟨h.1, hkeeps _ _ h.2⟩

theorem FenceArrives.file {fence copy : Int32} (h : FenceArrives fifo p fence r copy) :
    fenceFile fifo p fence = fenceFile fifo r copy := by
  unfold FenceArrives at h
  split at h
  · rename_i hfence
    rw [hfence, fenceFile, if_neg h]
  · rename_i file hfence
    rw [hfence, fenceFile, if_pos h.1, h.2]

theorem Copies.keeps {handle copy : BufferHandle} (h : Copies fifo p handle r copy)
    (hkeeps : fifo.Keeps r r') : Copies fifo p handle r' copy where
  numbers := h.numbers
  noFd := h.noFd
  fd hfd := (h.fd hfd).imp_right fun ⟨file, hfile, hcopy⟩ => ⟨file, hfile, hkeeps _ _ hcopy⟩
  fds := h.fds.imp fun _ _ ⟨file, hfile, hcopy⟩ => ⟨file, hfile, hkeeps _ _ hcopy⟩
  ints := h.ints

theorem readHandle_reads {handle : BufferHandle} {main : Option F} {files : List F}
    (hfdsCount : handle.reserveFds ≤ 1024) (hintsCount : handle.reserveInts ≤ 1024)
    (hmain : MainFile fifo p handle main) (hfiles : Refer fifo p handle.fds files) (r : P) :
    fifo.Reads r (readHandle true) (handleWords handle main files)
      fun copy r' => Copies fifo p handle r' copy := by
  intro rest hr
  obtain ⟨copy, s, hread, hrest, hkeeps, hcopies⟩ :=
    readBufferHandle_reads hfdsCount hintsCount hmain hfiles (.start r) rest hr
  refine ⟨copy, s.parcel, ?_, hrest, hkeeps, hcopies⟩
  unfold readHandle
  rw [hread]

theorem handleOrNull_carried {handle : Option BufferHandle} (hbase : fifo.fileOf p = fifo.fileOf p₀)
    (htransferable : ∀ h, handle = some h → Transferable fifo p₀ h)
    (h : writeHandleOrNull handle p = (.ok (), p')) :
    ∃ words, fifo.contents p' = fifo.contents p ++ words ∧ fifo.fileOf p' = fifo.fileOf p₀ ∧
      ∀ r, fifo.Reads r (readHandleOrNull true) words fun copy r' =>
        Option.Rel (fun handle copy => Copies fifo p₀ handle r' copy) handle copy := by
  cases handle with
  | none =>
    obtain ⟨hwords, hsame⟩ := fifo.write_bool false p p' h
    refine ⟨_, hwords, hsame.trans hbase, fun r =>
      (fifo.read_bool r _).finish fun flag r _ hflag => ?_⟩
    rw [hflag, if_neg Bool.false_ne_true]
    exact .pure .none
  | some handle =>
    obtain ⟨_, p₁, hflag, hwrite⟩ := Coded.of_bind_ok h
    obtain ⟨hwords₁, hkept⟩ := fifo.write_bool true p p₁ hflag
    have hsame₁ : fifo.fileOf p₁ = fifo.fileOf p₀ := hkept.trans hbase
    obtain ⟨hfds, hints, hsize⟩ := htransferable handle rfl
    obtain ⟨⟨main, hmain⟩, files, hfiles⟩ := sent_of_writeBufferHandle fifo hwrite
    obtain ⟨hwords₂, hsame₂⟩ := writeBufferHandle_writesAt hmain hfiles p' hwrite
    have hmainFile : MainFile fifo p₀ handle main := by
      cases main with
      | none => exact hmain
      | some file =>
        have hfile : fifo.fileOf p₀ handle.fd = some file := hsame₁ ▸ hmain.2
        exact ⟨hmain.1, hfile, hsize hmain.1 file hfile⟩
    have hfiles' : Refer fifo p₀ handle.fds files := by rwa [Refer, hsame₁] at hfiles
    refine ⟨[.bool true] ++ handleWords handle main files, ?_, hsame₂.trans hsame₁, fun r => ?_⟩
    · rw [hwords₂, hwords₁, List.append_assoc]
    · refine (fifo.read_bool r _).next fun r _ => ?_
      rw [if_pos rfl]
      exact (readHandle_reads hfds hints hmainFile hfiles' r).last fun _ _ _ hcopies => .some hcopies

def cropWords (crop : CropRect) : List (Word F) :=
  [.word32 crop.x.toBitVec, .word32 crop.y.toBitVec, .word32 crop.w.toBitVec,
    .word32 crop.h.toBitVec]

def fixedWords (buffer : SurfaceBufferImpl) : List (Word F) :=
  .word32 buffer.surfaceBufferColorGamut.toUInt32.toBitVec ::
    .word32 buffer.transform.toUInt32.toBitVec ::
    .word32 buffer.scalingMode.toUInt32.toBitVec ::
    .word32 buffer.surfaceBufferWidth.toBitVec ::
    .word32 buffer.surfaceBufferHeight.toBitVec ::
    .bool buffer.isReclaimed :: cropWords buffer.crop

variable (fifo) in
theorem writeFixedProperties_writes (buffer : SurfaceBufferImpl) :
    fifo.Writes (writeFixedProperties buffer) (fixedWords buffer) :=
  (fifo.write_uint32 _).seq <| (fifo.write_uint32 _).seq <| (fifo.write_uint32 _).seq <|
    (fifo.write_int32 _).seq <| (fifo.write_int32 _).seq <| (fifo.write_bool _).seq <|
    (fifo.write_int32 _).seq <| (fifo.write_int32 _).seq <| (fifo.write_int32 _).seq <|
    fifo.write_int32 _

variable (fifo) in
theorem readCrop_reads (crop : CropRect) (r : P) :
    fifo.Reads r readCrop (cropWords crop) fun read _ => read = crop := by
  refine (fifo.reads_int32 r crop.x).next fun r _ => ?_
  refine (fifo.reads_int32 r crop.y).next fun r _ => ?_
  refine (fifo.reads_int32 r crop.w).next fun r _ => ?_
  exact (fifo.reads_int32 r crop.h).last fun _ _ _ hh => by rw [hh]

theorem readFixedProperties_reads (blank buffer : SurfaceBufferImpl) (r : P) :
    fifo.Reads r (readFixedProperties blank) (fixedWords buffer) fun read _ =>
      read = { blank with
        surfaceBufferColorGamut := buffer.surfaceBufferColorGamut, transform := buffer.transform
        scalingMode := buffer.scalingMode, surfaceBufferWidth := buffer.surfaceBufferWidth
        surfaceBufferHeight := buffer.surfaceBufferHeight, isReclaimed := buffer.isReclaimed
        crop := buffer.crop } := by
  refine (fifo.reads_uint32 r buffer.surfaceBufferColorGamut.toUInt32).next fun r _ => ?_
  refine (fifo.reads_uint32 r buffer.transform.toUInt32).next fun r _ => ?_
  refine (fifo.reads_uint32 r buffer.scalingMode.toUInt32).next fun r _ => ?_
  refine (fifo.reads_int32 r buffer.surfaceBufferWidth).next fun r _ => ?_
  refine (fifo.reads_int32 r buffer.surfaceBufferHeight).next fun r _ => ?_
  refine (fifo.read_bool r buffer.isReclaimed).next fun r _ => ?_
  refine (readCrop_reads fifo buffer.crop r).last fun crop r _ hcrop => ?_
  rw [hcrop]
  rfl

theorem rel_imp {α β : Type} {R S : α → β → Prop} (h : ∀ a b, R a b → S a b)
    {x : Option α} {y : Option β} (hxy : Option.Rel R x y) : Option.Rel S x y := by
  cases hxy with
  | none => exact .none
  | some hab => exact .some (h _ _ hab)

theorem map_eq_of_rel {α β γ : Type} {R : α → β → Prop} {f : α → γ} {g : β → γ}
    (h : ∀ a b, R a b → f a = g b) {x : Option α} {y : Option β} (hxy : Option.Rel R x y) :
    x.map f = y.map g := by
  cases hxy with
  | none => rfl
  | some hab => exact congrArg some (h _ _ hab)

theorem sentFence_of_none {badFd : Int32 → Bool} {fence : Int32}
    (hbad : ∀ fd, 0 ≤ fd → (badFd fd = true ↔ fifo.fileOf p₀ fd = none))
    (h : fenceFile fifo p₀ fence = none) :
    (if 0 ≤ fence ∧ badFd fence = true then (-1 : Int32) else fence) < 0 := by
  unfold fenceFile at h
  split_ifs with hsent
  · decide
  · refine Int32.not_le.mp fun hfence => hsent ⟨hfence, ?_⟩
    rw [if_pos hfence] at h
    exact (hbad fence hfence).mpr h

/-- `badFd` tells whether a descriptor is open. -/
theorem syncFence_carried {badFd : Int32 → Bool} {fence : Int32}
    (hbase : fifo.fileOf p = fifo.fileOf p₀)
    (hbad : ∀ fd, 0 ≤ fd → (badFd fd = true ↔ fifo.fileOf p₀ fd = none))
    (h : writeSyncFence badFd fence p = (.ok (), p')) :
    ∃ words, fifo.contents p' = fifo.contents p ++ words ∧ fifo.fileOf p' = fifo.fileOf p₀ ∧
      ∀ r, fifo.Reads r (readFence : Coded Unit P Int32) words fun copy r' =>
        FenceArrives fifo p₀ fence r' copy := by
  obtain ⟨_, p₁, hnumber, h⟩ := Coded.of_bind_ok h
  obtain ⟨hwords₁, hkept⟩ := fifo.write_int32 _ p p₁ hnumber
  have hsame₁ : fifo.fileOf p₁ = fifo.fileOf p₀ := hkept.trans hbase
  unfold FenceArrives
  cases hfile : fenceFile fifo p₀ fence with
  | none =>
    have hfd := sentFence_of_none hbad hfile
    rw [if_pos hfd] at h
    obtain ⟨-, rfl⟩ := Prod.mk.inj h
    refine ⟨_, hwords₁, hsame₁, fun r rest hr => ?_⟩
    obtain ⟨number, r', hread, hrest, hkeeps, rfl⟩ := fifo.reads_int32 r _ rest hr
    have hnone : ¬ (0 : Int32) ≤ -1 := by decide
    refine ⟨-1, r', ?_, hrest, hkeeps, hnone⟩
    unfold readFence
    rw [hread]
    exact if_pos hfd
  | some file =>
    unfold fenceFile at hfile
    split_ifs at hfile with hfence
    have hopen : ¬ (0 ≤ fence ∧ badFd fence = true) := by
      rintro ⟨-, hclosed⟩
      rw [(hbad fence hfence).mp hclosed] at hfile
      cases hfile
    rw [if_neg hopen] at hwords₁ h
    rw [if_neg (Int32.not_lt.mpr hfence)] at h
    obtain ⟨file', hfile', hwords₂, hsame₂⟩ := fifo.write_file fence p₁ p' h
    obtain rfl : file = file' := by
      rw [hsame₁, hfile] at hfile'
      exact Option.some.inj hfile'
    refine ⟨[.word32 fence.toBitVec] ++ [.file file], ?_, hsame₂.trans hsame₁, fun r rest hr => ?_⟩
    · rw [hwords₂, hwords₁, List.append_assoc]
    · rw [List.append_assoc] at hr
      obtain ⟨number, r₁, hread, hrest, hkeeps, rfl⟩ := fifo.reads_int32 r fence _ hr
      obtain ⟨copy, r', htake, hcopy, -, hcopied, hrest', hkeeps'⟩ := fifo.read_file r₁ file rest hrest
      refine ⟨copy, r', ?_, hrest', hkeeps.trans hkeeps', hcopy, hcopied⟩
      unfold readFence
      rw [hread]
      dsimp only
      rw [if_neg (Int32.not_lt.mpr hfence), htake]

theorem syncFenceOrNull_carried {badFd : Int32 → Bool} {fence : Option Int32}
    (hbase : fifo.fileOf p = fifo.fileOf p₀)
    (hbad : ∀ fd, 0 ≤ fd → (badFd fd = true ↔ fifo.fileOf p₀ fd = none))
    (h : writeSyncFenceOrNull badFd fence p = (.ok (), p')) :
    ∃ words, fifo.contents p' = fifo.contents p ++ words ∧ fifo.fileOf p' = fifo.fileOf p₀ ∧
      ∀ r, fifo.Reads r readSyncFenceOrNull words fun copy r' =>
        Option.Rel (fun fence copy => FenceArrives fifo p₀ fence r' copy) fence copy := by
  obtain ⟨_, p₁, hflag, hwrite⟩ := Coded.of_bind_ok h
  obtain ⟨hwords₁, hkept⟩ := fifo.write_bool fence.isSome p p₁ hflag
  have hsame₁ : fifo.fileOf p₁ = fifo.fileOf p₀ := hkept.trans hbase
  cases fence with
  | none =>
    obtain ⟨-, rfl⟩ := Prod.mk.inj hwrite
    refine ⟨_, hwords₁, hsame₁, fun r => (fifo.read_bool r _).finish fun flag r _ hflag => ?_⟩
    rw [hflag, if_neg (by simp)]
    exact .pure .none
  | some fence =>
    obtain ⟨words, hwords₂, hsame₂, hreads⟩ := syncFence_carried hsame₁ hbad hwrite
    refine ⟨[.bool true] ++ words, ?_, hsame₂, fun r => ?_⟩
    · rw [hwords₂, hwords₁, List.append_assoc]
      rfl
    · refine (fifo.read_bool r _).next fun r _ => ?_
      rw [if_pos rfl]
      exact (hreads r).last fun copy r _ hcopy => .some hcopy

variable (fifo) in
theorem readVideoDimType_reads (videoDimType : Int32) (r : P) :
    fifo.Reads r readVideoDimType [.word32 videoDimType.toBitVec] fun read _ =>
      read = if videoDimType.toUInt32 < videoDimTypeButt then videoDimType else 0 := by
  intro rest hr
  obtain ⟨value, r', hread, hrest, hkeeps, rfl⟩ := fifo.reads_uint32 r videoDimType.toUInt32 rest hr
  refine ⟨_, r', ?_, hrest, hkeeps, rfl⟩
  have hnot (value : UInt32) : ¬ value < videoDimType2D := by
    unfold videoDimType2D
    simp
  unfold readVideoDimType
  rw [hread]
  simp only [hnot, false_or, ← UInt32.not_lt, ite_not, apply_ite UInt32.toInt32,
    Int32.toInt32_toUInt32]
  rfl

theorem verdict_of_copy {buffer copy : SurfaceBufferImpl}
    (hhandle : Option.Rel (fun handle copy => Copies fifo p handle r copy) buffer.handle copy.handle)
    (horiginal : copy.original.hasOriginalFields = false) :
    copy.checkBufferHandleFields = buffer.handle.isSome := by
  unfold SurfaceBufferImpl.checkBufferHandleFields
  generalize buffer.handle = handle at hhandle ⊢
  generalize copy.handle = handle' at hhandle ⊢
  cases hhandle with
  | none => rfl
  | some hcopies => simp [horiginal]

structure ReadAs (fifo : Fifo P F) (p : P) (buffer blank : SurfaceBufferImpl) (r : P)
    (copy : SurfaceBufferImpl) : Prop where
  handle : Option.Rel (fun handle handle' => Copies fifo p handle r handle') buffer.handle copy.handle
  syncFence : Option.Rel (fun fence fence' => FenceArrives fifo p fence r fence') buffer.syncFence
    copy.syncFence
  others : copy = { buffer with
    handle := copy.handle, syncFence := copy.syncFence
    videoDimType := if buffer.videoDimType.toUInt32 < videoDimTypeButt then buffer.videoDimType else 0
    bufferRequestConfig := blank.bufferRequestConfig, original := blank.original }

theorem readAllProperties_reads {buffer : SurfaceBufferImpl} {handleWords fenceWords : List (Word F)}
    (hhandle : ∀ r, fifo.Reads r (readHandleOrNull true) handleWords fun copy r' =>
      Option.Rel (fun handle copy => Copies fifo p handle r' copy) buffer.handle copy)
    (hfence : ∀ r, fifo.Reads r readSyncFenceOrNull fenceWords fun copy r' =>
      Option.Rel (fun fence copy => FenceArrives fifo p fence r' copy) buffer.syncFence copy)
    (blank : SurfaceBufferImpl) (r : P) :
    fifo.Reads r (readAllPropertiesFromMessageParcel true blank)
      ([.word32 buffer.sequenceNumber.toBitVec] ++ ([.word64 buffer.bufferId.toBitVec] ++
        (handleWords ++ (fixedWords buffer ++
          (fenceWords ++ [.word32 buffer.videoDimType.toUInt32.toBitVec])))))
      fun copy r' => ReadAs fifo p buffer blank r' copy := by
  refine .orFail ?_ _
  refine (fifo.reads_uint32 r buffer.sequenceNumber).next fun r _ => ?_
  refine (fifo.reads_uint64 r buffer.bufferId).next fun r _ => ?_
  refine (hhandle r).bind fun handle r₁ _ hcopies => ?_
  refine (readFixedProperties_reads _ buffer r₁).bind fun fixed r₂ hkeeps₂ hfixed => ?_
  refine (hfence r₂).bind fun fence r₃ hkeeps₃ harrives => ?_
  refine (readVideoDimType_reads fifo buffer.videoDimType r₃).last fun dim r₄ hkeeps₄ hdim => ?_
  have hkeeps : fifo.Keeps r₁ r₄ := (hkeeps₂.trans hkeeps₃).trans hkeeps₄
  rw [hfixed, hdim]
  refine ⟨?_, ?_, rfl⟩
  · exact rel_imp (fun _ _ h => h.keeps hkeeps) hcopies
  · exact rel_imp (fun _ _ h => h.keeps hkeeps₄) harrives

theorem ReadAs.preserved_iff {buffer blank copy : SurfaceBufferImpl}
    (h : ReadAs fifo p buffer blank r copy)
    (hconfig : blank.bufferRequestConfig = emptyRequestConfig)
    (horiginal : blank.original.hasOriginalFields = false) :
    Preserved fifo p buffer r copy ↔ buffer.Travels := by
  have hfence : buffer.syncFence.map (fenceFile fifo p) = copy.syncFence.map (fenceFile fifo r) :=
    map_eq_of_rel (fun _ _ h => h.file) h.syncFence
  have hverdict : copy.checkBufferHandleFields = buffer.handle.isSome :=
    verdict_of_copy h.handle (by rw [h.others]; exact horiginal)
  have hdim : copy.videoDimType = buffer.videoDimType ↔
      buffer.videoDimType.toUInt32 < videoDimTypeButt := by
    rw [h.others]
    dsimp only
    split_ifs with hvalid
    · exact iff_of_true rfl hvalid
    · refine iff_of_false (fun hzero => hvalid ?_) hvalid
      rw [← hzero]
      decide
  constructor
  · intro hpreserved
    refine ⟨?_, hdim.mp hpreserved.videoDimType, fun hhandle => ?_⟩
    · rw [← hpreserved.bufferRequestConfig, h.others]
      exact hconfig
    · rw [← hpreserved.verdict, hverdict, hhandle]
  · intro htravels
    have hverdict' : copy.checkBufferHandleFields = buffer.checkBufferHandleFields := by
      rw [hverdict]
      cases hhandle : buffer.handle with
      | none =>
        rw [SurfaceBufferImpl.checkBufferHandleFields, hhandle]
        rfl
      | some handle =>
        rw [htravels.handle (by rw [hhandle]; rfl)]
        rfl
    have hconfig' : copy.bufferRequestConfig = buffer.bufferRequestConfig := by
      rw [htravels.bufferRequestConfig, h.others]
      exact hconfig
    have hdim' := hdim.mpr htravels.videoDimType
    have hothers := h.others
    constructor
    case handle => exact h.handle
    case syncFence => exact hfence
    case videoDimType => exact hdim'
    case bufferRequestConfig => exact hconfig'
    case verdict => exact hverdict'
    all_goals rw [hothers]

variable (fifo) in
/-- What was written is read into a new object, and the two agree exactly when the buffer has nothing
that stays behind. -/
theorem allProperties_preserved_iff {badFd : Int32 → Bool} {buffer : SurfaceBufferImpl}
    {rest : List (Word F)}
    (htransferable : ∀ handle, buffer.handle = some handle → Transferable fifo p handle)
    (hbad : ∀ fd, 0 ≤ fd → (badFd fd = true ↔ fifo.fileOf p fd = none))
    (hwrite : writeAllPropertiesToMessageParcel badFd buffer p = (.ok (), p'))
    (hsent : fifo.Sent p p' r rest) (sequenceNumber : UInt32) (bufferId : UInt64) :
    ∃ copy r', readAllPropertiesFromMessageParcel true
        { sequenceNumber := sequenceNumber, bufferId := bufferId } r = (.ok copy, r') ∧
      fifo.contents r' = rest ∧ (Preserved fifo p buffer r' copy ↔ buffer.Travels) := by
  obtain ⟨_, p₁, hsequence, hwrite⟩ := Coded.of_bind_ok (Coded.of_orFail_ok hwrite)
  obtain ⟨_, p₂, hid, hwrite⟩ := Coded.of_bind_ok hwrite
  obtain ⟨_, p₃, hhandle, hwrite⟩ := Coded.of_bind_ok hwrite
  obtain ⟨_, p₄, hfixed, hwrite⟩ := Coded.of_bind_ok hwrite
  obtain ⟨_, p₅, hfence, hdim⟩ := Coded.of_bind_ok hwrite
  obtain ⟨hwords₁, hsame₁⟩ := fifo.write_uint32 buffer.sequenceNumber p p₁ hsequence
  obtain ⟨hwords₂, hsame₂⟩ := fifo.write_uint64 buffer.bufferId p₁ p₂ hid
  obtain ⟨handleWords, hwords₃, hsame₃, hhandleReads⟩ :=
    handleOrNull_carried (hsame₂.trans hsame₁) htransferable hhandle
  obtain ⟨hwords₄, hsame₄⟩ := writeFixedProperties_writes fifo buffer p₃ p₄ hfixed
  obtain ⟨fenceWords, hwords₅, hsame₅, hfenceReads⟩ :=
    syncFenceOrNull_carried (hsame₄.trans hsame₃) hbad hfence
  obtain ⟨hwords₆, -⟩ := fifo.write_uint32 buffer.videoDimType.toUInt32 p₅ p' hdim
  obtain ⟨words, hwritten, hr⟩ := hsent
  rw [hwords₆, hwords₅, hwords₄, hwords₃, hwords₂, hwords₁] at hwritten
  simp only [List.append_assoc] at hwritten
  rw [← List.append_cancel_left hwritten] at hr
  obtain ⟨copy, r', hread, hrest, -, hcopy⟩ := readAllProperties_reads hhandleReads hfenceReads
    { sequenceNumber := sequenceNumber, bufferId := bufferId } r rest hr
  exact ⟨copy, r', hread, hrest, hcopy.preserved_iff rfl rfl⟩

end Transfer

/-- As `Alloc` leaves it, with a fence. -/
def allocatedImpl : SurfaceBufferImpl := SurfaceBufferImpl.recordOriginalBufferHandleFields
  { sequenceNumber := 7, bufferId := 9, handle := some sampleHandle, syncFence := some 1
    bufferRequestConfig := ⟨4, 4, 8, 12, 0, 0, 4, 0, 1⟩ }

def plainImpl : SurfaceBufferImpl := { allocatedImpl with bufferRequestConfig := emptyRequestConfig }

def tamperedImpl : SurfaceBufferImpl :=
  { allocatedImpl with handle := some { sampleHandle with width := 8 } }

def closedInTwoFiles (fd : Int32) : Bool := (twoFiles.fileOf fd).isNone

theorem closedInTwoFiles_iff (fd : Int32) :
    closedInTwoFiles fd = true ↔ Wire.fifo.fileOf twoFiles fd = none := by
  unfold closedInTwoFiles
  rw [Option.isNone_iff_eq_none]
  rfl

theorem transferable_in_twoFiles {handle : BufferHandle} (hfds : handle.reserveFds ≤ 1024)
    (hints : handle.reserveInts ≤ 1024) (hfd : handle.fd = 0) (hsize : handle.size.toInt ≤ 64) :
    Transferable Wire.fifo twoFiles handle := by
  refine ⟨hfds, hints, fun _ file hfile => ⟨64, ?_, hsize⟩⟩
  rw [hfd] at hfile
  obtain rfl : (⟨0, 64⟩ : WireFile) = file := Option.some.inj hfile
  rfl

theorem handle_transferable {buffer : SurfaceBufferImpl} {width : Int32}
    (hbuffer : buffer.handle = some { sampleHandle with width := width }) (handle : BufferHandle)
    (hhandle : buffer.handle = some handle) : Transferable Wire.fifo twoFiles handle := by
  rw [hbuffer] at hhandle
  obtain rfl := Option.some.inj hhandle
  exact transferable_in_twoFiles (show sampleHandle.reserveFds ≤ 1024 by decide)
    (show sampleHandle.reserveInts ≤ 1024 by decide) (show sampleHandle.fd = 0 from rfl)
    (show sampleHandle.size.toInt ≤ 64 by decide)

def parcelOf (buffer : SurfaceBufferImpl) : Wire :=
  (writeAllPropertiesToMessageParcel closedInTwoFiles buffer twoFiles).2

theorem allProperties_preserved_plainImpl :
    ∃ copy r', readAllPropertiesFromMessageParcel true { sequenceNumber := 0, bufferId := 0 }
        (parcelOf plainImpl) = (.ok copy, r') ∧ Wire.fifo.contents r' = [] ∧
      (Preserved Wire.fifo twoFiles plainImpl r' copy ↔ plainImpl.Travels) := by
  have hwrite : writeAllPropertiesToMessageParcel closedInTwoFiles plainImpl twoFiles =
      (.ok (), parcelOf plainImpl) := Coded.eq_of_fst (by decide +kernel)
  have hsent (p : Wire) : Wire.fifo.Sent twoFiles p p [] := ⟨p.words, rfl, (List.append_nil _).symm⟩
  exact allProperties_preserved_iff Wire.fifo (handle_transferable rfl)
    (fun fd _ => closedInTwoFiles_iff fd) hwrite (hsent _) 0 0

/-- Neither the configuration nor the verdict on a handle that was changed arrives. -/
theorem allProperties_lost :
    ¬ ∀ (buffer : SurfaceBufferImpl) (p' : Wire),
      (∀ handle, buffer.handle = some handle → Transferable Wire.fifo twoFiles handle) →
      writeAllPropertiesToMessageParcel closedInTwoFiles buffer twoFiles = (.ok (), p') →
      ∃ copy r', readAllPropertiesFromMessageParcel true { sequenceNumber := 0, bufferId := 0 } p' =
        (.ok copy, r') ∧ copy.bufferRequestConfig = buffer.bufferRequestConfig ∧
          copy.checkBufferHandleFields = buffer.checkBufferHandleFields := by
  intro h
  have hwrite : writeAllPropertiesToMessageParcel closedInTwoFiles tamperedImpl twoFiles =
      (.ok (), parcelOf tamperedImpl) := Coded.eq_of_fst (by decide +kernel)
  have hread : (readAllPropertiesFromMessageParcel true { sequenceNumber := 0, bufferId := 0 }
      (parcelOf tamperedImpl)).1.toOption.map (fun copy =>
        (copy.bufferRequestConfig, copy.checkBufferHandleFields)) =
      some (emptyRequestConfig, true) := by decide +kernel
  obtain ⟨copy, r', hcopy, hconfig, hverdict⟩ :=
    h tamperedImpl (parcelOf tamperedImpl) (handle_transferable rfl) hwrite
  rw [hcopy] at hread
  have hpair : (copy.bufferRequestConfig, copy.checkBufferHandleFields) =
      (emptyRequestConfig, true) := Option.some.inj hread
  rw [hconfig, hverdict] at hpair
  exact absurd hpair (by decide)

end GraphicSurface
