import GraphicSurface.Parcel
import GraphicSurface.Agreement

/-! Requests and flushes on their way to the queue: `buffer_utils` writes the two configurations
into a parcel and reads them back, each with bounds of its own. -/

namespace GraphicSurface

open Parcels

def surfaceParcelSizeLimit : UInt32 := 1024
def graphicColorGamutInvalid : Int := -1
def graphicColorGamutDisplayBt2020 : Int := 10
def graphicRotateNone : Int := 0
def graphicRotateButt : Int := 12

section Codecs

variable {P : Type} [Parcel P]

open Parcel

def writeRequestConfig (config : BufferRequestConfig) : Coded GSError P Unit := .orFail .binder do
  writeInt32 (.ofInt config.width)
  writeInt32 (.ofInt config.height)
  writeInt32 (.ofInt config.strideAlignment)
  writeInt32 (.ofInt config.format)
  writeUint64 (.ofNat config.usage)
  writeInt32 (.ofInt config.timeout)
  writeInt32 (.ofInt config.colorGamut)
  writeInt32 (.ofInt config.transform)

/-- A colour gamut outside the enumeration is read as invalid. -/
def readColorGamut (colorGamut : Int) : Int :=
  if colorGamut < graphicColorGamutInvalid ∨ graphicColorGamutDisplayBt2020 < colorGamut then
    graphicColorGamutInvalid
  else colorGamut

def readTransform (transform : Int) : Int :=
  if transform < graphicRotateNone ∨ graphicRotateButt < transform then graphicRotateButt
  else transform

/-- The members that are not sent keep what `config` had. -/
def readRequestConfig (config : BufferRequestConfig) : Coded Unit P BufferRequestConfig := do
  let width ← readInt32
  let height ← readInt32
  let strideAlignment ← readInt32
  let format ← readInt32
  let usage ← readUint64
  let timeout ← readInt32
  let colorGamutVal ← readInt32
  let transformVal ← readInt32
  pure { config with
    width := width.toInt, height := height.toInt, strideAlignment := strideAlignment.toInt,
    format := format.toInt, usage := usage.toNat, timeout := timeout.toInt,
    colorGamut := readColorGamut colorGamutVal.toInt, transform := readTransform transformVal.toInt }

def writeRect (rect : Rect) : Coded Unit P Unit := do
  writeInt32 (.ofInt rect.x)
  writeInt32 (.ofInt rect.y)
  writeInt32 (.ofInt rect.w)
  writeInt32 (.ofInt rect.h)

def readRect : Coded Unit P Rect := do
  let x ← readInt32
  let y ← readInt32
  let w ← readInt32
  let h ← readInt32
  pure ⟨x.toInt, y.toInt, w.toInt, h.toInt⟩

def readRects : ℕ → Coded Unit P (List Rect)
  | 0 => pure []
  | n + 1 => do
    let rect ← readRect
    let rects ← readRects n
    pure (rect :: rects)

/-- The damage count is an unsigned number of 32 bits. -/
def writeFlushConfig (config : BufferFlushConfigWithDamages) : Coded GSError P Unit :=
  let size := UInt32.ofNat config.damages.length
  if surfaceParcelSizeLimit < size then .fail .invalidArguments
  else .orFail .binder do
    writeUint32 size
    config.damages.forM writeRect
    writeInt64 (.ofInt config.timestamp)
    writeInt64 (.ofInt config.desiredPresentTimestamp)

def readFlushConfig : Coded GSError P BufferFlushConfigWithDamages := .orFail .binder do
  let size ← readUint32
  if size = 0 then .fail ()
  else if surfaceParcelSizeLimit < size then .fail ()
  else
    let damages ← readRects size.toNat
    let timestamp ← readInt64
    let desiredPresentTimestamp ← readInt64
    pure ⟨damages, timestamp.toInt, desiredPresentTimestamp.toInt⟩

end Codecs

def fitsInt32 (v : Int) : Prop := -2 ^ 31 ≤ v ∧ v < 2 ^ 31

def fitsInt64 (v : Int) : Prop := -2 ^ 63 ≤ v ∧ v < 2 ^ 63

instance (v : Int) : Decidable (fitsInt32 v) := inferInstanceAs (Decidable (_ ∧ _))

instance (v : Int) : Decidable (fitsInt64 v) := inferInstanceAs (Decidable (_ ∧ _))

structure BufferRequestConfig.Fits (config : BufferRequestConfig) : Prop where
  width : fitsInt32 config.width
  height : fitsInt32 config.height
  strideAlignment : fitsInt32 config.strideAlignment
  format : fitsInt32 config.format
  usage : config.usage < 2 ^ 64
  timeout : fitsInt32 config.timeout

structure Rect.Fits (rect : Rect) : Prop where
  x : fitsInt32 rect.x
  y : fitsInt32 rect.y
  w : fitsInt32 rect.w
  h : fitsInt32 rect.h

structure BufferFlushConfigWithDamages.Fits (config : BufferFlushConfigWithDamages) : Prop where
  damages : ∀ rect ∈ config.damages, rect.Fits
  timestamp : fitsInt64 config.timestamp
  desiredPresentTimestamp : fitsInt64 config.desiredPresentTimestamp

theorem toInt_ofInt32 {v : Int} (h : fitsInt32 v) : (Int32.ofInt v).toInt = v :=
  Int32.toInt_ofInt_of_le h.1 h.2

theorem toInt_ofInt64 {v : Int} (h : fitsInt64 v) : (Int64.ofInt v).toInt = v :=
  Int64.toInt_ofInt_of_le h.1 h.2

theorem readColorGamut_eq {colorGamut : Int} (h : 0 ≤ colorGamut) :
    readColorGamut colorGamut = colorGamut ↔ colorGamut ≤ 10 := by
  simp only [readColorGamut, graphicColorGamutInvalid, graphicColorGamutDisplayBt2020]
  split_ifs <;> omega

theorem readTransform_eq {transform : Int} (h : 0 ≤ transform) (h' : transform < 12) :
    readTransform transform = transform := by
  simp only [readTransform, graphicRotateNone, graphicRotateButt]
  split_ifs <;> omega

theorem checkRequestConfig_ok {config : BufferRequestConfig} :
    BufferQueue.checkRequestConfig config = .ok ↔
      (0 ≤ config.colorGamut ∧ config.colorGamut ≤ 11) ∧ 0 ≤ config.transform ∧
        config.transform < 12 := by
  unfold BufferQueue.checkRequestConfig
  split_ifs <;> simp <;> omega

section RoundTrips

variable {P F : Type} [Parcel P] (fifo : Fifo P F)

def int32Word (v : Int) : Word F := .word32 (Int32.ofInt v).toBitVec

def int64Word (v : Int) : Word F := .word64 (Int64.ofInt v).toBitVec

def requestWords (config : BufferRequestConfig) : List (Word F) :=
  [int32Word config.width] ++ ([int32Word config.height] ++ ([int32Word config.strideAlignment] ++
    ([int32Word config.format] ++ ([.word64 (UInt64.ofNat config.usage).toBitVec] ++
      ([int32Word config.timeout] ++ ([int32Word config.colorGamut] ++
        [int32Word config.transform]))))))

def rectWords (rect : Rect) : List (Word F) :=
  [int32Word rect.x] ++ ([int32Word rect.y] ++ ([int32Word rect.w] ++ [int32Word rect.h]))

def flushWords (config : BufferFlushConfigWithDamages) : List (Word F) :=
  [.word32 (UInt32.ofNat config.damages.length).toBitVec] ++ (config.damages.flatMap rectWords ++
    ([int64Word config.timestamp] ++ [int64Word config.desiredPresentTimestamp]))

theorem writes_int32 (v : Int) : fifo.Writes (Parcel.writeInt32 (.ofInt v)) [int32Word v] :=
  fifo.write_int32 _

theorem writes_int64 (v : Int) : fifo.Writes (Parcel.writeInt64 (.ofInt v)) [int64Word v] :=
  fifo.write_int64 _

theorem reads_int32 {v : Int} (h : fitsInt32 v) (p : P) :
    fifo.Reads p Parcel.readInt32 [int32Word v] fun b _ => b.toInt = v :=
  (fifo.reads_int32 p (.ofInt v)).mono fun _ _ _ hb => hb ▸ toInt_ofInt32 h

theorem reads_int64 {v : Int} (h : fitsInt64 v) (p : P) :
    fifo.Reads p Parcel.readInt64 [int64Word v] fun b _ => b.toInt = v :=
  (fifo.reads_int64 p (.ofInt v)).mono fun _ _ _ hb => hb ▸ toInt_ofInt64 h

theorem writeRequestConfig_writes (config : BufferRequestConfig) :
    fifo.Writes (writeRequestConfig config) (requestWords config) :=
  .orFail ((writes_int32 fifo _).seq <| (writes_int32 fifo _).seq <| (writes_int32 fifo _).seq <|
    (writes_int32 fifo _).seq <| (fifo.write_uint64 _).seq <| (writes_int32 fifo _).seq <|
    (writes_int32 fifo _).seq <| writes_int32 fifo _) _

theorem readRequestConfig_reads {config : BufferRequestConfig} (h : config.Fits)
    (hgamut : fitsInt32 config.colorGamut) (htransform : fitsInt32 config.transform)
    (initial : BufferRequestConfig) (p : P) :
    fifo.Reads p (readRequestConfig initial) (requestWords config) fun read _ =>
      read = { config with
        colorGamut := readColorGamut config.colorGamut
        transform := readTransform config.transform
        sourceType := initial.sourceType } := by
  refine (reads_int32 fifo h.width p).bind fun width p _ hwidth => ?_
  refine (reads_int32 fifo h.height p).bind fun height p _ hheight => ?_
  refine (reads_int32 fifo h.strideAlignment p).bind fun stride p _ hstride => ?_
  refine (reads_int32 fifo h.format p).bind fun format p _ hformat => ?_
  refine (fifo.reads_uint64 p (.ofNat config.usage)).bind fun usage p _ husage => ?_
  refine (reads_int32 fifo h.timeout p).bind fun timeout p _ htimeout => ?_
  refine (reads_int32 fifo hgamut p).bind fun gamut p _ hgamutVal => ?_
  refine (reads_int32 fifo htransform p).last fun transform p _ htransformVal => ?_
  have husageNat : usage.toNat = config.usage := by
    rw [husage, UInt64.toNat_ofNat_of_lt' h.usage]
  rw [hwidth, hheight, hstride, hformat, husageNat, htimeout, hgamutVal, htransformVal]

theorem writeRect_writes (rect : Rect) : fifo.Writes (writeRect rect) (rectWords rect) :=
  (writes_int32 fifo _).seq <| (writes_int32 fifo _).seq <| (writes_int32 fifo _).seq <|
    writes_int32 fifo _

theorem readRect_reads {rect : Rect} (h : rect.Fits) (p : P) :
    fifo.Reads p readRect (rectWords rect) fun read _ => read = rect := by
  refine (reads_int32 fifo h.x p).bind fun x p _ hx => ?_
  refine (reads_int32 fifo h.y p).bind fun y p _ hy => ?_
  refine (reads_int32 fifo h.w p).bind fun w p _ hw => ?_
  refine (reads_int32 fifo h.h p).last fun v p _ hv => ?_
  rw [hx, hy, hw, hv]

theorem readRects_reads {rects : List Rect} (h : ∀ rect ∈ rects, rect.Fits) (p : P) :
    fifo.Reads p (readRects rects.length) (rects.flatMap rectWords) fun read _ => read = rects := by
  induction rects generalizing p with
  | nil => exact .pure rfl
  | cons rect rects ih =>
    rw [List.flatMap_cons]
    refine (readRect_reads fifo (h rect List.mem_cons_self) p).next fun p _ => ?_
    refine (ih (fun r hr => h r (List.mem_cons_of_mem rect hr)) p).last fun read p _ hread => ?_
    rw [hread]

theorem readRects_length {n : ℕ} {p p' : P} {rects : List Rect}
    (h : readRects n p = (.ok rects, p')) : rects.length = n := by
  induction n generalizing p p' rects with
  | zero =>
    obtain ⟨hrects, -⟩ := Prod.mk.inj h
    rw [← Except.ok.inj hrects, List.length_nil]
  | succ n ih =>
    obtain ⟨rect, p₁, -, hrest⟩ := Coded.of_bind_ok h
    obtain ⟨others, p₂, hothers, hpure⟩ := Coded.of_bind_ok hrest
    obtain ⟨hrects, -⟩ := Prod.mk.inj hpure
    rw [← Except.ok.inj hrects, List.length_cons, ih hothers]

theorem writeFlushConfig_writes (config : BufferFlushConfigWithDamages) :
    fifo.Writes (writeFlushConfig config) (flushWords config) := by
  unfold writeFlushConfig
  dsimp only
  split
  · intro p p' h
    cases h
  · refine .orFail ((fifo.write_uint32 _).seq ?_) _
    exact (View.Writes.forM fun rect _ => writeRect_writes fifo rect).seq <|
      (writes_int64 fifo _).seq <| writes_int64 fifo _

theorem readFlushConfig_reads {config : BufferFlushConfigWithDamages} (h : config.Fits)
    (hne : 0 < config.damages.length) (hle : config.damages.length ≤ 1024) (p : P) :
    fifo.Reads p readFlushConfig (flushWords config) fun read _ => read = config := by
  have hsize : (UInt32.ofNat config.damages.length).toNat = config.damages.length :=
    UInt32.toNat_ofNat_of_lt' (lt_of_le_of_lt hle (by decide))
  refine .orFail ((fifo.reads_uint32 p _).next fun p _ => ?_) _
  rw [if_neg, if_neg, hsize]
  · refine (readRects_reads fifo h.damages p).next fun p _ => ?_
    refine (reads_int64 fifo h.timestamp p).bind fun timestamp p _ htimestamp => ?_
    refine (reads_int64 fifo h.desiredPresentTimestamp p).last fun present p _ hpresent => ?_
    rw [htimestamp, hpresent]
  · rw [UInt32.not_lt, UInt32.le_iff_toNat_le, hsize]
    exact hle
  · rw [← UInt32.toNat_inj, hsize]
    exact hne.ne'

end RoundTrips

/-! The member that is not sent is one the queue never reads. -/

def BufferRequestConfig.withSource (config : BufferRequestConfig) (sourceType : Int) :
    BufferRequestConfig :=
  { config with sourceType := sourceType }

def RequestReply.answer (reply : RequestReply) : GSError × ℕ := (reply.ret, reply.retval.sequence)

/-- `AllocBuffer` gets a buffer, and a mapping of it unless it is protected. -/
def AllocJob.granted (job : AllocJob) (a : Allocation) : Bool :=
  a.alloc && (job.config.usage &&& bufferUsageProtected != 0 || a.map)

def ReusePoint.withSource (sourceType : Int) : ReusePoint → ReusePoint
  | .done reply => .done reply
  | .setupNewBuffer job => .setupNewBuffer { job with config := job.config.withSource sourceType }
  | .reallocBuffer job => .reallocBuffer { job with config := job.config.withSource sourceType }

def RequestPoint.withSource (sourceType : Int) : RequestPoint → RequestPoint
  | .reached point => .reached (point.withSource sourceType)
  | .waitReq config => .waitReq (config.withSource sourceType)

namespace BufferQueue

theorem reuseBuffer_withSource (q : BufferQueue) (config : BufferRequestConfig)
    (buffer : SurfaceBuffer) (listener : Bool) (sourceType : Int) :
    q.reuseBuffer (config.withSource sourceType) buffer listener =
      ((q.reuseBuffer config buffer listener).1.withSource sourceType,
        (q.reuseBuffer config buffer listener).2) := by
  unfold reuseBuffer
  split
  · rfl
  · rename_i e he
    have hsame : (config.withSource sourceType).same e.config = config.same e.config := rfl
    rw [hsame]
    split_ifs <;> rfl

theorem reuseBufferForBlockMode_withSource (q : BufferQueue) (config : BufferRequestConfig)
    (sourceType : Int) :
    q.reuseBufferForBlockMode (config.withSource sourceType) =
      ((q.reuseBufferForBlockMode config).1.withSource sourceType,
        (q.reuseBufferForBlockMode config).2) := by
  have hpop : q.popFromFreeListLocked (config.withSource sourceType) =
    q.popFromFreeListLocked config := rfl
  unfold reuseBufferForBlockMode
  rw [hpop]
  split_ifs
  · rfl
  · split
    · exact reuseBuffer_withSource _ _ _ _ _
    · rfl

theorem reuseBufferForNoBlockMode_withSource (q : BufferQueue) (config : BufferRequestConfig)
    (sourceType : Int) :
    q.reuseBufferForNoBlockMode (config.withSource sourceType) =
      ((q.reuseBufferForNoBlockMode config).1.withSource sourceType,
        (q.reuseBufferForNoBlockMode config).2) := by
  unfold reuseBufferForNoBlockMode
  split
  · exact reuseBuffer_withSource _ _ _ _ _
  · rfl

theorem finishRequest_answer (q : BufferQueue) (a : Allocation) (job : AllocJob) {point : ReusePoint}
    (hpoint : point = .setupNewBuffer job ∨ point = .reallocBuffer job) :
    (q.finishRequest a point).1.answer =
      if job.granted a then (.ok, a.sequence) else (.internal, 0) := by
  rcases hpoint with rfl | rfl
  all_goals
    simp only [finishRequest, allocBufferEnd, AllocJob.granted]
    by_cases hgranted : (a.alloc && (job.config.usage &&& bufferUsageProtected != 0 || a.map)) = true
  · simp [hgranted, RequestReply.answer, AllocJob.element, BufferElement.init,
      SurfaceBuffer.allocated]
  · simp [hgranted, RequestReply.answer, RequestReply.error, RequestBufferReturnValue.empty]
  · have hseq : (job.element a).buffer.seqNum = a.sequence := rfl
    simp [hgranted, updateReuseBufferState, needsObject, RequestReply.answer, hseq]
  · simp [hgranted, RequestReply.answer, RequestReply.error, RequestBufferReturnValue.empty]

theorem finishRequest_withSource (q : BufferQueue) (a : Allocation) (point : ReusePoint)
    (sourceType : Int) :
    (q.finishRequest a (point.withSource sourceType)).1.answer =
      (q.finishRequest a point).1.answer := by
  cases point with
  | done reply => rfl
  | setupNewBuffer job =>
    exact (finishRequest_answer q a _ (.inl rfl)).trans
      (finishRequest_answer q a job (.inl rfl)).symm
  | reallocBuffer job =>
    exact (finishRequest_answer q a _ (.inr rfl)).trans
      (finishRequest_answer q a job (.inr rfl)).symm

theorem requestBufferCheck_withSource (q : BufferQueue) (config : BufferRequestConfig)
    (sourceType : Int) :
    q.requestBufferCheck (config.withSource sourceType) =
      (q.requestBufferCheck config).map (·.withSource sourceType) := by
  change (if q.requestBufferCheckStatus ≠ .ok then Except.error q.requestBufferCheckStatus
    else if checkRequestConfig { config with usage := config.usage ||| q.defaultUsage } ≠ .ok then
      Except.error .internal
    else Except.ok (BufferRequestConfig.withSource
      { config with usage := config.usage ||| q.defaultUsage } sourceType)) = _
  unfold requestBufferCheck
  dsimp only
  split_ifs <;> rfl

theorem requestBufferBody_withSource (q : BufferQueue) (config : BufferRequestConfig)
    (listener : Bool) (sourceType : Int) :
    q.requestBufferBody (config.withSource sourceType) listener =
      ((q.requestBufferBody config listener).1.withSource sourceType,
        (q.requestBufferBody config listener).2) := by
  have hpop : q.popFromFreeListLocked (config.withSource sourceType) =
    q.popFromFreeListLocked config := rfl
  unfold requestBufferBody
  dsimp only
  rw [hpop]
  split
  · split
    · rw [reuseBuffer_withSource]
      rfl
    · split_ifs
      · rfl
      · rfl
      · rw [reuseBufferForNoBlockMode_withSource]
        rfl
      · rfl
  · rfl

theorem requestBuffer_withSource (q : BufferQueue) (config : BufferRequestConfig) (a : Allocation)
    (sourceType : Int) :
    (q.requestBuffer (config.withSource sourceType) a).1.answer =
      (q.requestBuffer config a).1.answer := by
  unfold requestBuffer requestBufferLocked
  rw [requestBufferCheck_withSource]
  cases q.requestBufferCheck config with
  | error ret => rfl
  | ok updated =>
    simp only [Except.map]
    rw [requestBufferBody_withSource]
    cases hbody : q.requestBufferBody updated false with
    | mk point q' =>
      cases point with
      | reached point => exact finishRequest_withSource q' a point sourceType
      | waitReq config =>
        have hwait := reuseBufferForBlockMode_withSource q' config sourceType
        simp only [RequestPoint.withSource, hwait]
        exact finishRequest_withSource _ a _ sourceType

end BufferQueue

section Survival

variable {P F : Type} [Parcel P] (fifo : Fifo P F)

/-- The reader gets the configuration that was written, but for the member that is not sent, and
stops behind it. -/
def RequestSurvives (config initial : BufferRequestConfig) (r : P) (rest : List (Word F)) : Prop :=
  ∃ r', readRequestConfig initial r = (.ok (config.withSource initial.sourceType), r') ∧
    fifo.contents r' = rest

def FlushSurvives (config : BufferFlushConfigWithDamages) (r : P) (rest : List (Word F)) : Prop :=
  ∃ r', readFlushConfig r = (.ok config, r') ∧ fifo.contents r' = rest

variable {fifo} {p p' r : P} {rest : List (Word F)}

theorem requestSurvives_iff {config initial : BufferRequestConfig} (h : config.Fits)
    (hcheck : BufferQueue.checkRequestConfig config = .ok)
    (hwrite : writeRequestConfig config p = (.ok (), p')) (hsent : fifo.Sent p p' r rest) :
    RequestSurvives fifo config initial r rest ↔ config.colorGamut ≠ 11 := by
  obtain ⟨hgamut, htransform⟩ := checkRequestConfig_ok.mp hcheck
  have hgamutFits : fitsInt32 config.colorGamut := by unfold fitsInt32; omega
  have htransformFits : fitsInt32 config.transform := by unfold fitsInt32; omega
  have hcontents := (writeRequestConfig_writes fifo config _).sent hwrite hsent
  obtain ⟨read, r', hrun, hrest, -, hread⟩ :=
    readRequestConfig_reads fifo h hgamutFits htransformFits initial r rest hcontents
  have hsame : config.colorGamut ≠ 11 ↔ readColorGamut config.colorGamut = config.colorGamut := by
    rw [readColorGamut_eq hgamut.1]
    omega
  rw [hsame]
  constructor
  · rintro ⟨r₁, hrun₁, -⟩
    rw [hrun] at hrun₁
    have hconfig := Except.ok.inj (Prod.mk.inj hrun₁).1
    rw [hread] at hconfig
    exact congrArg BufferRequestConfig.colorGamut hconfig
  · intro hgamutSame
    refine ⟨r', ?_, hrest⟩
    rw [hrun, hread, hgamutSame, readTransform_eq htransform.1 htransform.2]
    rfl

theorem flushSurvives_iff {config : BufferFlushConfigWithDamages} (h : config.Fits)
    (hwrite : writeFlushConfig config p = (.ok (), p')) (hsent : fifo.Sent p p' r rest) :
    FlushSurvives fifo config r rest ↔
      0 < config.damages.length ∧ config.damages.length ≤ 1024 := by
  have hcontents := (writeFlushConfig_writes fifo config _).sent hwrite hsent
  constructor
  · rintro ⟨r', hrun, -⟩
    obtain ⟨size, r₁, hsize, hbody⟩ := Coded.of_bind_ok (Coded.of_orFail_ok hrun)
    obtain ⟨sent, r₂, hsent, -, -, hvalue⟩ :=
      fifo.reads_uint32 r (.ofNat config.damages.length) _ (by rw [hcontents, flushWords, List.append_assoc])
    rw [hsize] at hsent
    obtain rfl : size = sent := Except.ok.inj (Prod.mk.inj hsent).1
    split_ifs at hbody with hzero hlimit
    · cases hbody
    · cases hbody
    · obtain ⟨damages, r₃, hdamages, htimes⟩ := Coded.of_bind_ok hbody
      obtain ⟨timestamp, r₄, -, hpresent⟩ := Coded.of_bind_ok htimes
      obtain ⟨present, r₅, -, hpure⟩ := Coded.of_bind_ok hpresent
      obtain rfl := Except.ok.inj (Prod.mk.inj hpure).1
      have hlength : damages.length = size.toNat := readRects_length hdamages
      have hpos : size.toNat ≠ 0 := fun hz => hzero (UInt32.toNat_inj.mp hz)
      have hle : size.toNat ≤ 1024 := by
        rw [UInt32.not_lt, UInt32.le_iff_toNat_le] at hlimit
        exact hlimit
      dsimp only
      omega
  · rintro ⟨hpos, hle⟩
    obtain ⟨read, r', hrun, hrest, -, rfl⟩ := readFlushConfig_reads fifo h hpos hle r rest hcontents
    exact ⟨r', hrun, hrest⟩

/-- Which configurations come out of a parcel as they went in, and that the queue needs no more
than what comes out. -/
theorem configs_survive (fifo : Fifo P F) :
    (∀ (config initial : BufferRequestConfig) (p p' r : P) (rest : List (Word F)), config.Fits →
      BufferQueue.checkRequestConfig config = .ok → writeRequestConfig config p = (.ok (), p') →
      fifo.Sent p p' r rest →
      (RequestSurvives fifo config initial r rest ↔ config.colorGamut ≠ 11)) ∧
    (∀ (config : BufferFlushConfigWithDamages) (p p' r : P) (rest : List (Word F)), config.Fits →
      writeFlushConfig config p = (.ok (), p') → fifo.Sent p p' r rest →
      (FlushSurvives fifo config r rest ↔
        0 < config.damages.length ∧ config.damages.length ≤ 1024)) ∧
    ∀ (config initial : BufferRequestConfig) (q : BufferQueue) (a : Allocation),
      (q.requestBuffer (config.withSource initial.sourceType) a).1.answer =
        (q.requestBuffer config a).1.answer :=
  ⟨fun _ _ _ _ _ _ h hcheck hwrite hsent => requestSurvives_iff h hcheck hwrite hsent,
    fun _ _ _ _ _ h hwrite hsent => flushSurvives_iff h hwrite hsent,
    fun config initial q a => q.requestBuffer_withSource config a initial.sourceType⟩

end Survival

def emptyWire : Wire := ⟨[], [], by decide⟩

def oneDamage : BufferFlushConfigWithDamages := ⟨[⟨0, 0, 4, 4⟩], 1, 2⟩

theorem fits_sampleConfig (colorGamut : Int) :
    BufferRequestConfig.Fits { sampleConfig with colorGamut := colorGamut } := by
  have h : sampleConfig.Fits := by constructor <;> decide
  exact ⟨h.width, h.height, h.strideAlignment, h.format, h.usage, h.timeout⟩

theorem configs_survive_displayBt2020 :
    RequestSurvives Wire.fifo { sampleConfig with colorGamut := 10 } sampleConfig
      (writeRequestConfig { sampleConfig with colorGamut := 10 } emptyWire).2 [] ∧
    FlushSurvives Wire.fifo oneDamage (writeFlushConfig oneDamage emptyWire).2 [] := by
  have hsent (p : Wire) : Wire.fifo.Sent emptyWire p p [] := ⟨p.words, rfl, (List.append_nil _).symm⟩
  refine ⟨?_, ?_⟩
  · refine ((configs_survive Wire.fifo).1 { sampleConfig with colorGamut := 10 } sampleConfig
      emptyWire _ _ [] (fits_sampleConfig 10) (by decide) rfl (hsent _)).mpr (by decide)
  · have hfits : oneDamage.Fits := by
      refine ⟨?_, by decide, by decide⟩
      intro rect hrect
      obtain rfl := List.mem_singleton.mp hrect
      exact ⟨by decide, by decide, by decide, by decide⟩
    exact ((configs_survive Wire.fifo).2.1 oneDamage emptyWire _ _ [] hfits rfl (hsent _)).mpr
      (by decide)

/-- A colour gamut one above the last one passes the check of the queue and is read as invalid, and
a flush without damages is written but not read. -/
theorem configs_lost :
    (¬ ∀ (config initial : BufferRequestConfig) (p p' r : Wire) (rest : List (Word WireFile)),
      config.Fits → BufferQueue.checkRequestConfig config = .ok →
      writeRequestConfig config p = (.ok (), p') → Wire.fifo.Sent p p' r rest →
      RequestSurvives Wire.fifo config initial r rest) ∧
    ¬ ∀ (config : BufferFlushConfigWithDamages) (p p' r : Wire) (rest : List (Word WireFile)),
      config.Fits → writeFlushConfig config p = (.ok (), p') → Wire.fifo.Sent p p' r rest →
      FlushSurvives Wire.fifo config r rest := by
  have hsent (p : Wire) : Wire.fifo.Sent emptyWire p p [] := ⟨p.words, rfl, (List.append_nil _).symm⟩
  refine ⟨fun h => ?_, fun h => ?_⟩
  · have hfits := fits_sampleConfig 11
    have hsurvives := h { sampleConfig with colorGamut := 11 } sampleConfig emptyWire _ _ [] hfits
      (by decide) rfl (hsent _)
    exact (requestSurvives_iff hfits (by decide) rfl (hsent _)).mp hsurvives rfl
  · have hfits : BufferFlushConfigWithDamages.Fits ⟨[], 0, 0⟩ := ⟨by simp, by decide, by decide⟩
    have hsurvives := h ⟨[], 0, 0⟩ emptyWire _ _ [] hfits rfl (hsent _)
    exact absurd ((flushSurvives_iff hfits rfl (hsent _)).mp hsurvives).1 (by decide)

end GraphicSurface
