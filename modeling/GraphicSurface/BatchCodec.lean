import GraphicSurface.RemoteRequest

/-! The reply to a batch of requests: the code, the number of entries and the entries. What the stub
has written the client reads back, as long as the extra data are not too many for the reader. -/

namespace GraphicSurface

open Parcels

/-- One element of `bedataimpls` and of `retvalues`. -/
structure BatchEntry where
  bedata : Option ExtraData
  retval : RequestBufferReturnValue
deriving DecidableEq

/-- As `new BufferExtraDataImpl` and `resize` make it. -/
def BatchEntry.fresh : BatchEntry := ⟨some ∅, .empty⟩

/-- The element that stands for a batch without a buffer. -/
def BatchEntry.refused : BatchEntry := ⟨some ∅, { RequestBufferReturnValue.empty with isConnected := true }⟩

def RequestReply.entry (reply : RequestReply) : BatchEntry := ⟨reply.bedata, reply.retval⟩

structure BatchReply where
  ret : GSError
  entries : List BatchEntry

/-- Why the stub sends no reply: a parcel refused an access, or the server has ended. -/
inductive StubFailure
  | parcel
  | nullPointer
deriving DecidableEq

section Codec

variable {P : Type} [Parcel P]

open Parcel

def writeBatchEntry (memory : ℕ → BufferMemory) (badFd : Int32 → Bool) (entry : BatchEntry) :
    Coded StubFailure P Unit := do
  (writeSurfaceBufferImpl entry.retval.sequence
    (entry.retval.buffer.map fun b => memory b.object)).orFail .parcel
  (match entry.retval.buffer with
    | none => pure ()
    | some b => (writeUint64 (.ofNat b.bufferRequestConfig.usage)).orFail .parcel)
  (match entry.bedata with
    | none => .fail .nullPointer
    | some bedata => bedata.writeToParcel.orFail .parcel)
  (match entry.retval.fence with
    | none => .fail .nullPointer
    | some fence => (writeFence badFd fence).orFail .parcel)
  (writeUInt32Vector (entry.retval.deletingBuffers.map .ofNat)).orFail .parcel

def writeBatchReply (memory : ℕ → BufferMemory) (badFd : Int32 → Bool) (reply : BatchReply) :
    Coded StubFailure P Unit := do
  (writeInt32 reply.ret.code).orFail .parcel
  if reply.ret = .ok ∨ reply.ret = .noBuffer then do
    (writeUint32 (.ofNat reply.entries.length)).orFail .parcel
    reply.entries.forM (writeBatchEntry memory badFd)
  else (writeBool (reply.entries.head?.any (·.retval.isConnected))).orFail .parcel

/-- The rounds of `ReadRequestBuffersReply`. -/
def readBatchEntries (heap : Bool) (config : BufferRequestConfig) :
    ℕ → Coded RemoteError P (List Received)
  | 0 => pure []
  | n + 1 => do
    let received ← readGranted heap config
    let others ← readBatchEntries heap config n
    pure (received :: others)

/-- `RequestBuffers` of the client after `SendRequest`, for `count` elements of `bedata`. What it
returns in the end is the code of the last round. -/
def readBatchReply (heap : Bool) (config : BufferRequestConfig) (count : ℕ) :
    Coded RemoteError P (List Received) := do
  let ret ← readInt32.orFail (.of .binder)
  if ret ≠ GSError.ok.code ∧ ret ≠ GSError.noBuffer.code then do
    let received ← readRefusal ret
    pure [received]
  else do
    let num ← readUint32.orFail (.of .binder)
    if surfaceMaxQueueSize < num.toNat ∨ num = 0 then .fail (.of .internal)
    else if count < num.toNat then .fail (.of .invalidArguments)
    else readBatchEntries heap config num.toNat

def writeBatchRequest (count : ℕ) (config : BufferRequestConfig) : Coded RemoteError P Unit := do
  (writeUint32 (.ofNat count)).orFail (.of .binder)
  (writeRequestConfig config).orFail (.of .binder)

def readBatchRequest : Coded Unit P (UInt32 × BufferRequestConfig) := do
  let num ← readUint32
  let config ← readRequestConfig emptyRequestConfig
  pure (num, config)

end Codec

/-! What a caller compares: the code, and for each element the number, whether there is an object,
and the deleted buffers. -/

abbrev BatchOutcome := Int32 × List (UInt32 × Bool × List UInt32)

def Received.summary (received : Received) : UInt32 × Bool × List UInt32 :=
  (received.sequence, received.buffer.isSome, received.deletingBuffers)

def BatchEntry.summary (entry : BatchEntry) : UInt32 × Bool × List UInt32 :=
  (.ofNat entry.retval.sequence, entry.retval.buffer.isSome,
    entry.retval.deletingBuffers.map .ofNat)

def BatchReply.outcome (reply : BatchReply) : BatchOutcome :=
  (reply.ret.code, reply.entries.map BatchEntry.summary)

/-- A client that was refused has the elements that it came with. One that gives up among the entries
has read some of them, but then its code is not the one that the stub has written. -/
def remoteOutcome (count : ℕ) : Except RemoteError (List Received) → BatchOutcome
  | .ok received => (GSError.ok.code, received.map Received.summary)
  | .error e => (e.ret, List.replicate count BatchEntry.fresh.summary)

section Survival

variable {P F : Type} [Parcel P]

/-- Every handle of the object has few reserved slots, and its file is as long as it says. -/
def BufferMemory.Sound (fifo : Fifo P F) (p : P) (memory : BufferMemory) : Prop :=
  ∀ handle, memory.handle = some handle → handle.reserveFds ≤ 1024 ∧ handle.reserveInts ≤ 1024 ∧
    (0 ≤ handle.fd → ∀ file, fifo.fileOf p handle.fd = some file →
      ∃ n : ℕ, fifo.fileLength file = some n ∧ handle.size.toInt ≤ n)

def originalWords (original : OriginalFields) : List (Word F) :=
  [.bool original.hasOriginalFields] ++ ([.word32 original.originalWidth.toBitVec] ++
    ([.word32 original.originalHeight.toBitVec] ++ ([.word32 original.originalSize.toBitVec] ++
      [.word32 original.originalStride.toBitVec])))

variable (fifo : Fifo P F)

theorem writeOriginalFields_writes (original : OriginalFields) :
    fifo.Writes (writeOriginalFields original) (originalWords original) :=
  (fifo.write_bool _).seq <| (fifo.write_int32 _).seq <| (fifo.write_int32 _).seq <|
    (fifo.write_int32 _).seq <| fifo.write_int32 _

theorem readOriginalFields_reads (original : OriginalFields) (p : P) :
    fifo.Reads p readOriginalFields (originalWords original) fun read _ => read = original := by
  refine (fifo.read_bool p _).next fun p _ => ?_
  refine (fifo.reads_int32 p _).next fun p _ => ?_
  refine (fifo.reads_int32 p _).next fun p _ => ?_
  refine (fifo.reads_int32 p _).next fun p _ => ?_
  exact (fifo.reads_int32 p _).last fun _ _ _ hstride => by rw [hstride]

variable {fifo}

theorem memory_carried {memory : BufferMemory} {p p' : P} (hsound : memory.Sound fifo p)
    (h : writeToMessageParcel memory p = (.ok (), p')) :
    memory.handle.isSome ∧ fifo.Carried p p' (readMemory true) fun _ => True := by
  unfold writeToMessageParcel at h
  cases hhandle : memory.handle with
  | none =>
    rw [hhandle] at h
    cases h
  | some handle =>
    rw [hhandle] at h
    obtain ⟨_, p₁, hwrite, horiginal⟩ := Coded.of_bind_ok h
    obtain ⟨hfds, hints, hsize⟩ := hsound handle hhandle
    obtain ⟨⟨main, hmain⟩, files, hfiles⟩ := sent_of_writeBufferHandle fifo hwrite
    have hmainFile : MainFile fifo p handle main := by
      cases main with
      | none => exact hmain
      | some file => exact ⟨hmain.1, hmain.2, hsize hmain.1 file hmain.2⟩
    obtain ⟨hhandleWords, hsame⟩ := writeBufferHandle_writesAt hmain hfiles p₁ hwrite
    obtain ⟨horiginalWords, hsame'⟩ := writeOriginalFields_writes fifo memory.original p₁ p' horiginal
    refine ⟨rfl, handleWords handle main files ++ originalWords memory.original, ?_,
      hsame'.trans hsame, fun r rest hr => ?_⟩
    · rw [horiginalWords, hhandleWords, List.append_assoc]
    · rw [List.append_assoc] at hr
      obtain ⟨copy, s, hread, hrest, hkeeps, -⟩ :=
        readBufferHandle_reads hfds hints hmainFile hfiles (.start r) _ hr
      obtain ⟨original, r', horiginal', hrest', hkeeps', -⟩ :=
        readOriginalFields_reads fifo memory.original s.parcel rest hrest
      have hhandle' : readHandle true r = (.ok copy, s.parcel) := by
        unfold readHandle
        rw [hread]
      have hkept : fifo.Keeps r s.parcel := hkeeps
      refine ⟨⟨some copy, original⟩, r', ?_, hrest', hkept.trans hkeeps', trivial⟩
      refine (Coded.bind_ok hhandle' _).trans ?_
      rw [horiginal']

theorem surfaceBuffer_carried {sequence : ℕ} {buffer : Option BufferMemory} {p p' : P}
    (hsound : ∀ memory, buffer = some memory → memory.Sound fifo p)
    (h : writeSurfaceBufferImpl sequence buffer p = (.ok (), p')) :
    (∀ memory, buffer = some memory → memory.handle.isSome) ∧
      fifo.Carried p p' (readSurfaceBufferImpl true) fun read =>
        read.1 = .ofNat sequence ∧ read.2.isSome = buffer.isSome := by
  obtain ⟨_, p₁, hsequence, h⟩ := Coded.of_bind_ok h
  obtain ⟨_, p₂, hflag, h⟩ := Coded.of_bind_ok h
  obtain ⟨hwords₁, hsame₁⟩ := fifo.write_uint32 (.ofNat sequence) p p₁ hsequence
  obtain ⟨hwords₂, hsame₂⟩ := fifo.write_bool buffer.isSome p₁ p₂ hflag
  cases buffer with
  | none =>
    obtain ⟨-, rfl⟩ := Prod.mk.inj h
    refine ⟨nofun, [.word32 (UInt32.ofNat sequence).toBitVec] ++ [.bool false], ?_,
      hsame₂.trans hsame₁, fun r => ?_⟩
    · rw [hwords₂, hwords₁, List.append_assoc]
      rfl
    · refine (fifo.reads_uint32 r _).next fun r _ => ?_
      refine (fifo.read_bool r _).finish fun flag r _ hflag => ?_
      rw [hflag, if_neg Bool.false_ne_true]
      exact .pure ⟨rfl, rfl⟩
  | some memory =>
    have hsound₂ : memory.Sound fifo p₂ := by
      unfold BufferMemory.Sound
      rw [hsame₂, hsame₁]
      exact hsound memory rfl
    obtain ⟨hhandle, words, hwords, hsame, hreads⟩ := memory_carried hsound₂ h
    refine ⟨fun m hm => Option.some.inj hm ▸ hhandle, [.word32 (UInt32.ofNat sequence).toBitVec] ++
      ([.bool true] ++ words), ?_, hsame.trans (hsame₂.trans hsame₁), fun r => ?_⟩
    · rw [hwords, hwords₂, hwords₁]
      simp
    · refine (fifo.reads_uint32 r _).next fun r _ => ?_
      refine (fifo.read_bool r _).next fun r _ => ?_
      rw [if_pos rfl]
      exact (hreads r).last fun read r _ _ => ⟨rfl, rfl⟩

variable (fifo) in
theorem fence_carried {E : Type} {badFd : Int32 → Bool} {fence : SyncFence} {p p' : P}
    (h : writeFence badFd fence p = (.ok (), p')) :
    fifo.Carried p p' (readFence : Coded E P Int32) fun _ => True := by
  unfold writeFence at h
  generalize (if 0 ≤ Int32.ofInt fence.fenceFd ∧ badFd (.ofInt fence.fenceFd) then -1
    else Int32.ofInt fence.fenceFd) = fd at h
  obtain ⟨_, p₁, hnumber, h⟩ := Coded.of_bind_ok h
  obtain ⟨hwords₁, hsame₁⟩ := fifo.write_int32 fd p p₁ hnumber
  split at h
  · rename_i hfd
    obtain ⟨-, rfl⟩ := Prod.mk.inj h
    refine ⟨_, hwords₁, hsame₁, fun r rest hr => ?_⟩
    obtain ⟨fence, r', hread, hrest, hkeeps, rfl⟩ := fifo.reads_int32 r fd rest hr
    refine ⟨-1, r', ?_, hrest, hkeeps, trivial⟩
    unfold readFence
    rw [hread]
    dsimp only
    rw [if_pos hfd]
  · rename_i hfd
    obtain ⟨file, -, hwords₂, hsame₂⟩ := fifo.write_file fd p₁ p' h
    refine ⟨[.word32 fd.toBitVec] ++ [.file file], ?_, hsame₂.trans hsame₁, fun r rest hr => ?_⟩
    · rw [hwords₂, hwords₁, List.append_assoc]
    · rw [List.append_assoc] at hr
      obtain ⟨fence, r₁, hread, hrest, hkeeps, rfl⟩ := fifo.reads_int32 r fd _ hr
      obtain ⟨copy, r', hopen, -, -, -, hrest', hkeeps'⟩ := fifo.read_file r₁ file rest hrest
      refine ⟨copy, r', ?_, hrest', hkeeps.trans hkeeps', trivial⟩
      unfold readFence
      rw [hread]
      dsimp only
      rw [if_neg hfd, hopen]

variable {fifo : VectorFifo P F}

variable (fifo) in
theorem bedata_carried {d : ExtraData} {p p' : P}
    (hplain : ∀ p : P, (d.writeAll p).1 = .ok ()) (hfits : ∀ entry ∈ d.toList, entry.2.Fits)
    (hsize : d.size < 2 ^ 31) (h : d.writeToParcel p = (.ok (), p')) :
    ∃ words, fifo.contents p' = fifo.contents p ++ words ∧ fifo.fileOf p' = fifo.fileOf p ∧
      (d.size ≤ surfaceMaxUserDataCount →
        ∀ r, fifo.Reads r ExtraData.readFromParcel words fun _ _ => True) ∧
      ∀ r rest read r', fifo.contents r = words ++ rest →
        ExtraData.readFromParcel r = (.ok read, r') → d.size ≤ surfaceMaxUserDataCount := by
  have hall : d.writeAll p = (.ok (), p') := by
    have hpair := Coded.eq_of_fst (hplain p)
    have hsame := (ExtraData.writeToParcel_of_writeAll hpair).symm.trans h
    rw [hpair, (Prod.mk.inj hsame).2]
  obtain ⟨hwords, hsame⟩ := ExtraData.writeAll_writes fifo.toFifo d p p' hall
  refine ⟨_, hwords, hsame, fun hle r => ?_, fun r rest read r' hr hread => ?_⟩
  · exact (ExtraData.readFromParcel_reads fifo.toFifo hfits hle r).mono fun _ _ _ _ => trivial
  · rw [List.append_assoc] at hr
    exact ExtraData.size_of_readFromParcel fifo.toFifo hsize hr hread

variable (fifo) in
theorem usage_carried {buffer : Option SurfaceBuffer} {p p' : P}
    (h : (match buffer with
      | none => pure ()
      | some b => (Parcel.writeUint64 (.ofNat b.bufferRequestConfig.usage)).orFail StubFailure.parcel :
        Coded StubFailure P Unit) p = (.ok (), p')) :
    ∃ words, fifo.contents p' = fifo.contents p ++ words ∧ fifo.fileOf p' = fifo.fileOf p ∧
      ∀ (config : BufferRequestConfig) (memory : Option BufferMemory), memory.isSome = buffer.isSome →
        ∀ r, fifo.Reads r (readUsage config memory) words fun read _ => read.isSome = buffer.isSome := by
  cases buffer with
  | none =>
    obtain ⟨-, rfl⟩ := Prod.mk.inj h
    refine ⟨[], (List.append_nil _).symm, rfl, fun config memory hmemory r => ?_⟩
    cases memory with
    | none => exact .pure rfl
    | some memory => cases hmemory
  | some b =>
    obtain ⟨hwords, hsame⟩ := fifo.write_uint64 _ p p' (Coded.of_orFail_ok h)
    refine ⟨_, hwords, hsame, fun config memory hmemory r => ?_⟩
    cases memory with
    | none => cases hmemory
    | some memory => exact ((fifo.reads_uint64 r _).orFail _).last fun _ _ _ _ => rfl

/-- What the stub can put into its reply: the extra data and the fence are there, the reader allows
that much extra data, and an object has a handle. -/
structure BatchEntry.Sendable (memory : ℕ → BufferMemory) (entry : BatchEntry) : Prop where
  bedata : entry.bedata.isSome
  size : ∀ d, entry.bedata = some d → d.size ≤ surfaceMaxUserDataCount
  fence : entry.retval.fence.isSome
  handle : ∀ b, entry.retval.buffer = some b → (memory b.object).handle.isSome

/-- The values are of their C++ types, and the setters let that many in. -/
def BatchEntry.Proper (entry : BatchEntry) : Prop :=
  ∀ d, entry.bedata = some d → (∀ e ∈ d.toList, e.2.Fits) ∧ d.size < 2 ^ 31

variable (fifo) in
theorem entry_carried {memory : ℕ → BufferMemory} {badFd : Int32 → Bool} {entry : BatchEntry}
    {p p' : P} (hplain : ∀ (d : ExtraData) (p : P), (d.writeAll p).1 = .ok ())
    (hsound : ∀ object, (memory object).Sound fifo.toFifo p) (hproper : entry.Proper)
    (h : writeBatchEntry memory badFd entry p = (.ok (), p')) :
    (entry.bedata.isSome ∧ entry.retval.fence.isSome ∧
      ∀ b, entry.retval.buffer = some b → (memory b.object).handle.isSome) ∧
    ∃ words, fifo.contents p' = fifo.contents p ++ words ∧ fifo.fileOf p' = fifo.fileOf p ∧
      ((∀ d, entry.bedata = some d → d.size ≤ surfaceMaxUserDataCount) →
        ∀ config r, fifo.Reads r (readGranted true config) words
          fun received _ => received.summary = entry.summary) ∧
      ∀ config r rest received r', fifo.contents r = words ++ rest →
        readGranted true config r = (.ok received, r') →
        ∀ d, entry.bedata = some d → d.size ≤ surfaceMaxUserDataCount := by
  obtain ⟨_, p₁, hbuffer, h⟩ := Coded.of_bind_ok h
  obtain ⟨_, p₂, husage, h⟩ := Coded.of_bind_ok h
  obtain ⟨_, p₃, hbedata, h⟩ := Coded.of_bind_ok h
  obtain ⟨_, p₄, hfence, hvector⟩ := Coded.of_bind_ok h
  obtain ⟨hhandle, words₁, hwords₁, hsame₁, hreads₁⟩ :=
    surfaceBuffer_carried (fun m hm => by
      obtain ⟨b, -, rfl⟩ := Option.map_eq_some_iff.mp hm
      exact hsound b.object) (Coded.of_orFail_ok hbuffer)
  obtain ⟨words₂, hwords₂, hsame₂, hreads₂⟩ := usage_carried fifo husage
  cases hd : entry.bedata with
  | none =>
    rw [hd] at hbedata
    cases hbedata
  | some d =>
    cases hf : entry.retval.fence with
    | none =>
      rw [hf] at hfence
      cases hfence
    | some fence =>
      rw [hd] at hbedata
      rw [hf] at hfence
      obtain ⟨hfits, hsize⟩ := hproper d hd
      obtain ⟨words₃, hwords₃, hsame₃, hreads₃, hlimit⟩ :=
        bedata_carried fifo (hplain d) hfits hsize (Coded.of_orFail_ok hbedata)
      obtain ⟨words₄, hwords₄, hsame₄, hreads₄⟩ :=
        fence_carried fifo.toFifo (E := RemoteError) (Coded.of_orFail_ok hfence)
      obtain ⟨hwords₅, hsame₅⟩ := fifo.write_vector _ p₄ p' (Coded.of_orFail_ok hvector)
      refine ⟨⟨rfl, rfl, fun b hb => hhandle _ (by rw [hb]; rfl)⟩,
        words₁ ++ (words₂ ++ (words₃ ++ (words₄ ++
          [.vector (entry.retval.deletingBuffers.map .ofNat)]))), ?_,
        hsame₅.trans (hsame₄.trans (hsame₃.trans (hsame₂.trans hsame₁))), ?_, ?_⟩
      · rw [hwords₅, hwords₄, hwords₃, hwords₂, hwords₁]
        simp only [List.append_assoc]
      · intro hle config r
        refine ((hreads₁ r).orFail _).bind fun got r _ hgot => ?_
        obtain ⟨sequence, object⟩ := got
        obtain ⟨hsequence, hobject⟩ := hgot
        rw [Option.isSome_map] at hobject
        refine (hreads₂ config object hobject r).bind fun buffer r _ hbuffer => ?_
        refine ((hreads₃ (hle d rfl) r).orFail _).bind fun bedata r _ _ => ?_
        refine (hreads₄ r).bind fun fence r _ _ => ?_
        refine ((fifo.read_vector r _).orFail _).last fun deletingBuffers r _ hvector => ?_
        exact Prod.ext hsequence (Prod.ext hbuffer hvector)
      · intro config r rest received r' hr hread d' hd'
        obtain rfl : d = d' := Option.some.inj hd'
        rw [List.append_assoc] at hr
        obtain ⟨got, r₁, hgot, hread⟩ := Coded.of_bind_ok hread
        obtain ⟨got', r₁', hgot', hrest₁, -, -, hobject⟩ := (hreads₁ r).orFail (RemoteError.of .internal) _ hr
        rw [hgot] at hgot'
        obtain ⟨hsame, rfl⟩ := Prod.mk.inj hgot'
        obtain rfl := Except.ok.inj hsame
        obtain ⟨sequence, object⟩ := got
        rw [Option.isSome_map] at hobject
        obtain ⟨buffer, r₂, husage', hread⟩ := Coded.of_bind_ok hread
        rw [List.append_assoc] at hrest₁
        obtain ⟨buffer', r₂', hbuffer', hrest₂, -, -⟩ := hreads₂ config object hobject r₁ _ hrest₁
        rw [husage'] at hbuffer'
        obtain ⟨-, rfl⟩ := Prod.mk.inj hbuffer'
        obtain ⟨bedata, r₃, hbedata', -⟩ := Coded.of_bind_ok hread
        rw [List.append_assoc] at hrest₂
        exact hlimit r₂ _ bedata r₃ hrest₂ (Coded.of_orFail_ok hbedata')

variable (fifo) in
theorem entries_carried {memory : ℕ → BufferMemory} {badFd : Int32 → Bool}
    {entries : List BatchEntry} {p p' : P}
    (hplain : ∀ (d : ExtraData) (p : P), (d.writeAll p).1 = .ok ())
    (hsound : ∀ object, (memory object).Sound fifo.toFifo p)
    (hproper : ∀ entry ∈ entries, entry.Proper)
    (h : entries.forM (writeBatchEntry memory badFd) p = (.ok (), p')) :
    (∀ entry ∈ entries, entry.bedata.isSome ∧ entry.retval.fence.isSome ∧
      ∀ b, entry.retval.buffer = some b → (memory b.object).handle.isSome) ∧
    ∃ words, fifo.contents p' = fifo.contents p ++ words ∧
      ((∀ entry ∈ entries, ∀ d, entry.bedata = some d → d.size ≤ surfaceMaxUserDataCount) →
        ∀ config r, fifo.Reads r (readBatchEntries true config entries.length) words
          fun received _ => received.map Received.summary = entries.map BatchEntry.summary) ∧
      ∀ config r rest received r', fifo.contents r = words ++ rest →
        readBatchEntries true config entries.length r = (.ok received, r') →
        ∀ entry ∈ entries, ∀ d, entry.bedata = some d → d.size ≤ surfaceMaxUserDataCount := by
  induction entries generalizing p with
  | nil =>
    obtain ⟨-, rfl⟩ := Prod.mk.inj h
    have hnone {Q : BatchEntry → Prop} : ∀ entry ∈ ([] : List BatchEntry), Q entry :=
      fun _ hentry => absurd hentry List.not_mem_nil
    exact ⟨hnone, [], (List.append_nil _).symm, fun _ config r => .pure rfl,
      fun _ _ _ _ _ _ _ => hnone⟩
  | cons entry entries ih =>
    obtain ⟨_, p₁, hentry, hrest⟩ := Coded.of_bind_ok h
    obtain ⟨hpresent, words, hwords, hsame, hreads, hlimit⟩ :=
      entry_carried fifo hplain hsound (hproper entry List.mem_cons_self) hentry
    have hsound₁ (object : ℕ) : (memory object).Sound fifo.toFifo p₁ := by
      unfold BufferMemory.Sound
      rw [hsame]
      exact hsound object
    obtain ⟨hothers, words', hwords', hreads', hlimit'⟩ :=
      ih hsound₁ (fun e he => hproper e (List.mem_cons_of_mem entry he)) hrest
    refine ⟨List.forall_mem_cons.mpr ⟨hpresent, hothers⟩, words ++ words', ?_, ?_, ?_⟩
    · rw [hwords', hwords, List.append_assoc]
    · intro hle config r
      obtain ⟨hfirst, hle'⟩ := List.forall_mem_cons.mp hle
      refine (hreads hfirst config r).bind fun received r _ hreceived => ?_
      refine (hreads' hle' config r).last fun others r _ hothers => ?_
      rw [List.map_cons, List.map_cons, hreceived, hothers]
    · intro config r rest received r' hr hread
      rw [List.append_assoc] at hr
      obtain ⟨first, r₁, hgranted, hread⟩ := Coded.of_bind_ok hread
      have hfirst := hlimit config r _ first r₁ hr hgranted
      obtain ⟨first', r₁', hgranted', hrest₁, -, -⟩ := hreads hfirst config r _ hr
      rw [hgranted] at hgranted'
      obtain ⟨-, rfl⟩ := Prod.mk.inj hgranted'
      obtain ⟨others, r₂, hothersRead, -⟩ := Coded.of_bind_ok hread
      exact List.forall_mem_cons.mpr
        ⟨hfirst, hlimit' config r₁ rest others r₂ hrest₁ hothersRead⟩

end Survival

end GraphicSurface
