import GraphicSurface.BatchCodec
import GraphicSurface.ProducerSurface
import GraphicSurface.SourceTypes

/-! A batch of requests over IPC. The stub writes one entry for each buffer that the batch got; when
the first request finds no buffer it writes the one entry that `RequestBuffers` puts in its place. -/

namespace GraphicSurface

open Parcels

/-- `RequestBuffers` with the elements of the caller, which come fresh, one for each answer of the
allocator. -/
def BufferQueueProducer.requestEntries (s : BufferQueueProducer) (callingPid : Int)
    (config : BufferRequestConfig) (as : List Allocation) : BatchReply × BufferQueueProducer :=
  match s.connect callingPid with
  | (ret, s) =>
    if ret ≠ .ok then (⟨ret, as.map fun _ => .fresh⟩, s)
    else
      match s.bufferQueue.requestBuffers config as with
      | (ret, replies, q) =>
        (⟨ret, if replies = [] then [.refused] else replies.map RequestReply.entry⟩, s.withQueue q)

theorem BufferQueueProducer.requestBuffers_entries (s : BufferQueueProducer) (callingPid : Int)
    (config : BufferRequestConfig) (as : List Allocation) :
    s.requestBuffers callingPid config as =
      ((s.requestEntries callingPid config as).1.ret,
        (s.requestEntries callingPid config as).1.entries.map (·.retval),
        (s.requestEntries callingPid config as).2) := by
  unfold requestBuffers requestEntries
  generalize s.connect callingPid = connected
  obtain ⟨ret, s'⟩ := connected
  dsimp only
  split
  · rw [List.map_map]
    rfl
  · generalize s'.bufferQueue.requestBuffers config as = batch
    obtain ⟨ret, replies, q⟩ := batch
    dsimp only
    split
    · rfl
    · rw [List.map_map]
      rfl

namespace Channel

variable {P : Type} [Parcel P] (channel : Channel P)

def writeBatchArguments (count : ℕ) (config : BufferRequestConfig) : Coded RemoteError P Unit := do
  channel.writeInterfaceToken.orFail (.of .binder)
  writeBatchRequest count config

def readBatchArguments (arguments : P) : Option (UInt32 × BufferRequestConfig) :=
  match channel.checkInterfaceToken arguments with
  | (false, _) => none
  | (true, arguments) => (readBatchRequest arguments).1.toOption

/-- `RequestBuffersRemote`. A number of buffers that no queue has ends with `ERR_NONE` and an empty
reply. -/
def batchStub (s : BufferQueueProducer) (callingPid : Int) (a : ℕ → Allocation) (arguments : P) :
    Except StubFailure P × BufferQueueProducer :=
  match channel.readBatchArguments arguments with
  | none => (.error .parcel, s)
  | some (num, config) =>
    if num = 0 ∨ surfaceMaxQueueSize < num.toNat then (.ok channel.reply, s)
    else
      match s.requestEntries callingPid config ((List.range num.toNat).map a) with
      | (reply, s) =>
        match writeBatchReply channel.memory channel.badFd reply channel.reply with
        | (.ok _, p) => (.ok p, s)
        | (.error failure, _) => (.error failure, s)

/-- `BufferClientProducer::RequestBuffers` with `count` elements, what it does to the producer, and
whether the server has gone through a null pointer. -/
def requestBuffers (count : ℕ) (config : BufferRequestConfig) (s : BufferQueueProducer)
    (callingPid : Int) (a : ℕ → Allocation) :
    Except RemoteError (List Received) × Bool × BufferQueueProducer :=
  match channel.writeBatchArguments count config channel.arguments with
  | (.error e, _) => (.error e, false, s)
  | (.ok _, arguments) =>
    if !channel.remote then (.error ⟨gsErrorServerError, false⟩, false, s)
    else
      match channel.deliver arguments with
      | none => (.error (.of .binder), false, s)
      | some arguments =>
        match channel.batchStub s callingPid a arguments with
        | (.error failure, s) => (.error (.of .binder), decide (failure = .nullPointer), s)
        | (.ok reply, s) =>
          match channel.answer reply with
          | none => (.error (.of .binder), false, s)
          | some reply => ((readBatchReply channel.heap config count reply).1, false, s)

/-- The remote call ends as the local one, and the server has not gone through a null pointer. -/
def BatchAgrees (count : ℕ) (config : BufferRequestConfig) (s : BufferQueueProducer)
    (callingPid : Int) (a : ℕ → Allocation) : Prop :=
  remoteOutcome count (channel.requestBuffers count config s callingPid a).1 =
      (s.requestEntries callingPid config ((List.range count).map a)).1.outcome ∧
    (channel.requestBuffers count config s callingPid a).2.1 = false

/-- What the requests of a batch get, each in the state that the one before it has left, can be sent. -/
def AllSendable (q : BufferQueue) (config : BufferRequestConfig) : List Allocation → Prop
  | [] => True
  | a :: as => (q.requestBuffer config a).1.ret = .ok →
      (q.requestBuffer config a).1.entry.Sendable channel.memory ∧
        AllSendable (q.requestBuffer config a).2 config as

def batchQueue (s : BufferQueueProducer) (callingPid : Int) : BufferQueue :=
  { s.bufferQueue.configure (.setConnectedPidLocked callingPid) with isBatch := true }

/-- The caller is not let in; or the first request is refused, but not for want of a buffer, and is
the only one; or it is served, the configuration arrives as it is, and what is got can be sent. -/
def BatchServed (count : ℕ) (config : BufferRequestConfig) (s : BufferQueueProducer)
    (callingPid : Int) (a : ℕ → Allocation) : Prop :=
  let first := ((batchQueue s callingPid).requestBuffer config (a 0)).1.ret
  (s.connect callingPid).1 ≠ .ok ∨ (count = 1 ∧ first ≠ .ok ∧ first ≠ .noBuffer) ∨
    (first = .ok ∧ config.colorGamut ≠ 11 ∧
      channel.AllSendable (batchQueue s callingPid) config ((List.range count).map a))

end Channel

def BufferRequestConfig.received (config : BufferRequestConfig) : BufferRequestConfig :=
  { config with
    colorGamut := readColorGamut config.colorGamut
    transform := readTransform config.transform
    sourceType := emptyRequestConfig.sourceType }

/-- The request of the batch arrives, no write into a parcel fails but for an object that has no
handle, and the reply that was written arrives. -/
structure Channel.Carries {P F : Type} [Parcel P] (channel : Channel P) (fifo : VectorFifo P F)
    (count : ℕ) (config : BufferRequestConfig) (reply : BatchReply) : Prop where
  remote : channel.remote = true
  heap : channel.heap = true
  request : ∃ p p' r r' rest, channel.writeInterfaceToken channel.arguments = (.ok (), p) ∧
    writeBatchRequest count config p = (.ok (), p') ∧ channel.deliver p' = some r ∧
    channel.checkInterfaceToken r = (true, r') ∧ fifo.Sent p p' r' rest
  plain : ∀ (d : ExtraData) (p : P), (d.writeAll p).1 = .ok ()
  written : (∀ entry ∈ reply.entries, ∀ b, entry.retval.buffer = some b →
      (channel.memory b.object).handle.isSome) →
    (writeBatchReply channel.memory channel.badFd reply channel.reply).1 ≠ .error .parcel
  sound : ∀ object, (channel.memory object).Sound fifo.toFifo channel.reply
  answer : ∀ p, writeBatchReply channel.memory channel.badFd reply channel.reply = (.ok (), p) →
    ∃ r, channel.answer p = some r ∧ fifo.Sent channel.reply p r []

theorem GSError.code_eq_noBuffer {ret : GSError} : ret.code = GSError.noBuffer.code ↔ ret = .noBuffer := by
  cases ret <;> decide

section Requests

variable {P F : Type} [Parcel P] {fifo : VectorFifo P F} {config : BufferRequestConfig}

theorem readBatchRequest_reads (count : ℕ) (hfits : config.Fits)
    (hgamut : fitsInt32 config.colorGamut) (htransform : fitsInt32 config.transform) (p : P) :
    fifo.Reads p readBatchRequest
      ([.word32 (UInt32.ofNat count).toBitVec] ++ requestWords config)
      fun read _ => read = (.ofNat count, config.received) := by
  refine (fifo.reads_uint32 p _).next fun p _ => ?_
  refine (readRequestConfig_reads fifo.toFifo hfits hgamut htransform emptyRequestConfig p).last
    fun read _ _ hread => ?_
  rw [hread]
  rfl

theorem writeBatchRequest_writes (count : ℕ) (config : BufferRequestConfig) :
    fifo.Writes (writeBatchRequest count config)
      ([.word32 (UInt32.ofNat count).toBitVec] ++ requestWords config) :=
  ((fifo.write_uint32 _).orFail _).seq ((writeRequestConfig_writes fifo.toFifo config).orFail _)

theorem requestBuffers_eq {channel : Channel P} {count : ℕ} {reply : BatchReply}
    (hcarries : channel.Carries fifo count config reply) (hpos : 0 < count)
    (hmax : count ≤ surfaceMaxQueueSize) (hfits : config.Fits)
    (hgamut : fitsInt32 config.colorGamut) (htransform : fitsInt32 config.transform)
    (s : BufferQueueProducer) (callingPid : Int) (a : ℕ → Allocation)
    (hreply : (s.requestEntries callingPid config.received ((List.range count).map a)).1 = reply) :
    (∃ p r, writeBatchReply channel.memory channel.badFd reply channel.reply = (.ok (), p) ∧
      fifo.Sent channel.reply p r [] ∧
      (channel.requestBuffers count config s callingPid a).1 = (readBatchReply true config count r).1 ∧
      (channel.requestBuffers count config s callingPid a).2.1 = false) ∨
    ∃ failure p, writeBatchReply channel.memory channel.badFd reply channel.reply =
        (.error failure, p) ∧
      (channel.requestBuffers count config s callingPid a).1 = .error (.of .binder) ∧
      (channel.requestBuffers count config s callingPid a).2.1 = decide (failure = .nullPointer) := by
  obtain ⟨p, p', r, r', rest, htoken, hwrite, hdeliver, hcheck, hsent⟩ := hcarries.request
  have hlt : count < 2 ^ 32 := lt_of_le_of_lt hmax (by decide)
  have hnat : (UInt32.ofNat count).toNat = count := UInt32.toNat_ofNat_of_lt' hlt
  have harguments : channel.writeBatchArguments count config channel.arguments = (.ok (), p') :=
    (Coded.bind_ok (Coded.orFail_ok htoken) _).trans hwrite
  have hread : channel.readBatchArguments r = some (.ofNat count, config.received) := by
    have hcontents := (writeBatchRequest_writes count config p).sent hwrite hsent
    obtain ⟨read, r₁, hread, -, -, rfl⟩ :=
      readBatchRequest_reads count hfits hgamut htransform r' rest hcontents
    unfold Channel.readBatchArguments
    rw [hcheck]
    dsimp only
    rw [hread]
    rfl
  have hnum : ¬ (UInt32.ofNat count = 0 ∨ surfaceMaxQueueSize < (UInt32.ofNat count).toNat) := by
    rw [hnat, not_or, Nat.not_lt]
    refine ⟨fun hzero => ?_, hmax⟩
    rw [← UInt32.toNat_inj, hnat] at hzero
    exact absurd hzero (Nat.pos_iff_ne_zero.mp hpos)
  have hstub : (channel.batchStub s callingPid a r).1 =
      match writeBatchReply channel.memory channel.badFd reply channel.reply with
      | (.ok _, p) => .ok p
      | (.error failure, _) => .error failure := by
    unfold Channel.batchStub
    rw [hread]
    dsimp only
    rw [if_neg hnum, hnat, ← hreply]
    cases hwritten : writeBatchReply channel.memory channel.badFd
      (s.requestEntries callingPid config.received ((List.range count).map a)).1 channel.reply with
    | mk result p => cases result <;> rfl
  unfold Channel.requestBuffers
  rw [harguments]
  dsimp only
  rw [hcarries.remote, hdeliver]
  simp only [Bool.not_true, Bool.false_eq_true, if_false]
  cases hresult : channel.batchStub s callingPid a r with
  | mk result s' =>
    rw [hresult] at hstub
    dsimp only at hstub
    cases hwritten : writeBatchReply channel.memory channel.badFd reply channel.reply with
    | mk written p₂ =>
      rw [hwritten] at hstub
      cases written with
      | ok _ =>
        obtain ⟨r₂, hanswer, hsent₂⟩ := hcarries.answer p₂ hwritten
        rw [hstub]
        dsimp only
        rw [hanswer, hcarries.heap]
        exact .inl ⟨p₂, r₂, rfl, hsent₂, rfl, rfl⟩
      | error failure =>
        rw [hstub]
        exact .inr ⟨failure, p₂, rfl, rfl, rfl⟩

theorem readBatchReply_refused {memory : ℕ → BufferMemory} {badFd : Int32 → Bool}
    {reply : BatchReply} {p p' r : P} {rest : List (Word F)} (hok : reply.ret ≠ .ok)
    (hbuffer : reply.ret ≠ .noBuffer) (h : writeBatchReply memory badFd reply p = (.ok (), p'))
    (hsent : fifo.Sent p p' r rest) (config : BufferRequestConfig) (count : ℕ) :
    ∃ isConnected, (readBatchReply true config count r).1 = .error ⟨reply.ret.code, isConnected⟩ := by
  have hwrites : fifo.Writes (writeBatchReply memory badFd reply)
      ([.word32 reply.ret.code.toBitVec] ++
        [.bool (reply.entries.head?.any (·.retval.isConnected))]) := by
    unfold writeBatchReply
    rw [if_neg (not_or.mpr ⟨hok, hbuffer⟩)]
    exact ((fifo.write_int32 _).orFail _).seq ((fifo.write_bool _).orFail _)
  have hcontents := (hwrites p).sent h hsent
  rw [List.append_assoc] at hcontents
  obtain ⟨ret, r₁, hret, hrest, -, rfl⟩ :=
    (fifo.reads_int32 r reply.ret.code).orFail (RemoteError.of .binder) _ hcontents
  obtain ⟨flag, r₂, hflag, -, -, -⟩ := fifo.read_bool r₁ _ rest hrest
  have hrefused : reply.ret.code ≠ GSError.ok.code ∧ reply.ret.code ≠ GSError.noBuffer.code :=
    ⟨mt GSError.code_eq_ok.mp hok, mt GSError.code_eq_noBuffer.mp hbuffer⟩
  refine ⟨flag, ?_⟩
  unfold readBatchReply
  rw [Coded.bind_ok hret, if_pos hrefused]
  have hrefusal : (readRefusal reply.ret.code : Coded RemoteError P Received) r₁ =
      (.error ⟨reply.ret.code, flag⟩, r₂) := by
    unfold readRefusal
    rw [hflag]
  rw [Coded.bind_error hrefusal]

theorem readBatchReply_served {memory : ℕ → BufferMemory} {badFd : Int32 → Bool}
    {reply : BatchReply} {p p' r : P} (hplain : ∀ (d : ExtraData) (p : P), (d.writeAll p).1 = .ok ())
    (hsound : ∀ object, (memory object).Sound fifo.toFifo p)
    (hproper : ∀ entry ∈ reply.entries, entry.Proper) (hok : reply.ret = .ok)
    (h : writeBatchReply memory badFd reply p = (.ok (), p')) (hsent : fifo.Sent p p' r [])
    {count : ℕ} (hpos : 0 < reply.entries.length) (hcount : reply.entries.length ≤ count)
    (hmax : count ≤ surfaceMaxQueueSize) (config : BufferRequestConfig) :
    ((∀ entry ∈ reply.entries, entry.Sendable memory) →
      ∃ received, (readBatchReply true config count r).1 = .ok received ∧
        received.map Received.summary = reply.entries.map BatchEntry.summary) ∧
    ∀ received, (readBatchReply true config count r).1 = .ok received →
      ∀ entry ∈ reply.entries, entry.Sendable memory := by
  unfold writeBatchReply at h
  rw [if_pos (.inl hok)] at h
  obtain ⟨_, p₁, hret, h⟩ := Coded.of_bind_ok h
  obtain ⟨_, p₂, hnum, h⟩ := Coded.of_bind_ok h
  obtain ⟨hwords₁, hsame₁⟩ := fifo.write_int32 _ p p₁ (Coded.of_orFail_ok hret)
  obtain ⟨hwords₂, hsame₂⟩ := fifo.write_uint32 _ p₁ p₂ (Coded.of_orFail_ok hnum)
  have hsound₂ (object : ℕ) : (memory object).Sound fifo.toFifo p₂ := by
    unfold BufferMemory.Sound
    rw [hsame₂, hsame₁]
    exact hsound object
  obtain ⟨hpresent, words, hwords, hreads, hlimit⟩ :=
    entries_carried fifo hplain hsound₂ hproper h
  have hcontents : fifo.contents r = [.word32 GSError.ok.code.toBitVec] ++
      ([.word32 (UInt32.ofNat reply.entries.length).toBitVec] ++ (words ++ [])) := by
    obtain ⟨sent, hwritten, hr⟩ := hsent
    rw [hwords, hwords₂, hwords₁, List.append_assoc, List.append_assoc] at hwritten
    rw [hr, ← List.append_cancel_left hwritten, hok]
    simp
  obtain ⟨ret, r₁, hret', hrest₁, -, rfl⟩ :=
    (fifo.reads_int32 r GSError.ok.code).orFail (RemoteError.of .binder) _ hcontents
  obtain ⟨num, r₂, hnum', hrest₂, -, rfl⟩ :=
    (fifo.reads_uint32 r₁ _).orFail (RemoteError.of .binder) _ hrest₁
  have hlt : reply.entries.length < 2 ^ 32 := lt_of_le_of_lt (hcount.trans hmax) (by decide)
  have hnat : (UInt32.ofNat reply.entries.length).toNat = reply.entries.length :=
    UInt32.toNat_ofNat_of_lt' hlt
  have hread : readBatchReply true config count r =
      readBatchEntries true config reply.entries.length r₂ := by
    unfold readBatchReply
    rw [Coded.bind_ok hret', if_neg (fun hrefused => hrefused.1 rfl), Coded.bind_ok hnum', hnat,
      if_neg ?_, if_neg (Nat.not_lt.mpr hcount)]
    rw [not_or, Nat.not_lt]
    refine ⟨hcount.trans hmax, fun hzero => ?_⟩
    rw [← UInt32.toNat_inj, hnat] at hzero
    exact absurd hzero (Nat.pos_iff_ne_zero.mp hpos)
  rw [hread]
  constructor
  · intro hsendable
    obtain ⟨received, r₃, hentries, -, -, hsummary⟩ :=
      hreads (fun entry hentry => (hsendable entry hentry).size) config r₂ [] hrest₂
    exact ⟨received, by rw [hentries], hsummary⟩
  · intro received hreceived entry hentry
    obtain ⟨hbedata, hfence, hhandle⟩ := hpresent entry hentry
    exact ⟨hbedata, hlimit config r₂ [] received _ hrest₂ (Coded.eq_of_fst hreceived) entry hentry,
      hfence, hhandle⟩

end Requests

section Failures

variable {P : Type} [Parcel P] {memory : ℕ → BufferMemory} {badFd : Int32 → Bool}

theorem writeBatchEntry_failsWith {entry : BatchEntry} (hbedata : entry.bedata.isSome)
    (hfence : entry.retval.fence.isSome) :
    (writeBatchEntry memory badFd entry : Coded StubFailure P Unit).FailsWith .parcel := by
  obtain ⟨d, hd⟩ := Option.isSome_iff_exists.mp hbedata
  obtain ⟨fence, hf⟩ := Option.isSome_iff_exists.mp hfence
  unfold writeBatchEntry
  rw [hd, hf]
  refine (Coded.FailsWith.orFail _ _).bind fun _ => ?_
  refine Coded.FailsWith.bind ?_ fun _ => ?_
  · cases entry.retval.buffer with
    | none => exact .pure _ ()
    | some b => exact .orFail _ _
  · refine (Coded.FailsWith.orFail _ _).bind fun _ => ?_
    exact (Coded.FailsWith.orFail _ _).bind fun _ => .orFail _ _

theorem writeBatchReply_failsWith {reply : BatchReply}
    (h : reply.ret = .ok ∨ reply.ret = .noBuffer →
      ∀ entry ∈ reply.entries, entry.bedata.isSome ∧ entry.retval.fence.isSome) :
    (writeBatchReply memory badFd reply : Coded StubFailure P Unit).FailsWith .parcel := by
  unfold writeBatchReply
  refine (Coded.FailsWith.orFail _ _).bind fun _ => ?_
  split
  · rename_i hret
    refine (Coded.FailsWith.orFail _ _).bind fun _ => .forM fun entry hentry => ?_
    exact writeBatchEntry_failsWith (h hret entry hentry).1 (h hret entry hentry).2
  · exact .orFail _ _

theorem writeBatchReply_noBuffer {reply : BatchReply} (hret : reply.ret = .noBuffer)
    (hentries : reply.entries = [.refused]) {p p' : P} :
    writeBatchReply memory badFd reply p ≠ (.ok (), p') := by
  intro h
  unfold writeBatchReply at h
  rw [if_pos (.inr hret), hentries] at h
  obtain ⟨_, p₁, -, h⟩ := Coded.of_bind_ok h
  obtain ⟨_, p₂, -, h⟩ := Coded.of_bind_ok h
  obtain ⟨_, p₃, hentry, -⟩ := Coded.of_bind_ok h
  obtain ⟨_, p₄, -, hentry⟩ := Coded.of_bind_ok hentry
  obtain ⟨_, p₅, -, hentry⟩ := Coded.of_bind_ok hentry
  obtain ⟨_, p₆, -, hentry⟩ := Coded.of_bind_ok hentry
  obtain ⟨_, p₇, hfence, -⟩ := Coded.of_bind_ok hentry
  cases (Prod.mk.inj hfence).1

end Failures

/-- `RequestBuffers` when its loop has ended with `ret`. -/
def BatchReply.of (ret : GSError) (replies : List RequestReply) : BatchReply :=
  if replies = [] then ⟨ret, [.refused]⟩ else ⟨.ok, replies.map RequestReply.entry⟩

section Answers

variable {s : BufferQueueProducer} {callingPid : Int} {config : BufferRequestConfig}

theorem requestEntries_of_refused (h : (s.connect callingPid).1 ≠ .ok) (as : List Allocation) :
    (s.requestEntries callingPid config as).1 =
      ⟨(s.connect callingPid).1, as.map fun _ => .fresh⟩ := by
  unfold BufferQueueProducer.requestEntries
  generalize s.connect callingPid = connected at h ⊢
  obtain ⟨ret, s'⟩ := connected
  dsimp only at h ⊢
  rw [if_pos h]

theorem requestEntries_of_connected (h : (s.connect callingPid).1 = .ok) (as : List Allocation) :
    (s.requestEntries callingPid config as).1 =
      .of ((Channel.batchQueue s callingPid).requestBuffersLoop config as).1
        ((Channel.batchQueue s callingPid).requestBuffersLoop config as).2.1 := by
  have hret : ((s.setConnectedPidLocked callingPid).bufferQueue.requestBuffers config as).1 =
      if ((Channel.batchQueue s callingPid).requestBuffersLoop config as).2.1 = [] then
        ((Channel.batchQueue s callingPid).requestBuffersLoop config as).1 else .ok := rfl
  have hreplies : ((s.setConnectedPidLocked callingPid).bufferQueue.requestBuffers config as).2.1 =
      ((Channel.batchQueue s callingPid).requestBuffersLoop config as).2.1 := rfl
  unfold BufferQueueProducer.requestEntries
  rw [BufferQueueProducer.connect_of_ok h]
  dsimp only
  rw [if_neg (not_not_intro rfl), hret, hreplies]
  unfold BatchReply.of
  split_ifs <;> rfl

end Answers

/-! A request of a batch ends with a buffer, for want of one, or with an internal error. -/

/-- How a request may have ended where no status check has stopped it. -/
def GSError.EndsInBatch (ret : GSError) : Prop := ret = .ok ∨ ret = .noBuffer ∨ ret = .internal

def ReusePoint.EndsInBatch : ReusePoint → Prop
  | .done reply => reply.ret.EndsInBatch
  | .setupNewBuffer _ | .reallocBuffer _ => True

namespace BufferQueue

variable {q : BufferQueue} {config : BufferRequestConfig} {a : Allocation}

theorem updateReuse_endsInBatch (q : BufferQueue) (needRealloc : Bool) (sequence : ℕ) :
    (q.updateReuseBufferState needRealloc sequence false).1.ret.EndsInBatch := by
  unfold updateReuseBufferState
  split
  · exact .inr (.inr rfl)
  · dsimp only
    split
    · exact .inl rfl
    · exact .inl rfl

theorem reuseBuffer_endsInBatch (q : BufferQueue) (config : BufferRequestConfig)
    (buffer : SurfaceBuffer) : (q.reuseBuffer config buffer false).1.EndsInBatch := by
  unfold reuseBuffer
  split
  · exact .inr (.inr rfl)
  · dsimp only
    split
    · exact updateReuse_endsInBatch q false buffer.seqNum
    · exact trivial

theorem reuseBufferForNoBlockMode_endsInBatch (q : BufferQueue) (config : BufferRequestConfig) :
    (q.reuseBufferForNoBlockMode config).1.EndsInBatch := by
  unfold reuseBufferForNoBlockMode
  split
  · exact reuseBuffer_endsInBatch _ config _
  · exact .inr (.inl rfl)

theorem reuseBufferForBlockMode_endsInBatch (hbatch : q.isBatch = true)
    (config : BufferRequestConfig) : (q.reuseBufferForBlockMode config).1.EndsInBatch := by
  unfold reuseBufferForBlockMode
  rw [if_neg (by simp [hbatch])]
  split
  · exact reuseBuffer_endsInBatch _ config _
  · exact .inr (.inl rfl)

theorem isBatch_popFromFreeListLocked (q : BufferQueue) (config : BufferRequestConfig) :
    (q.popFromFreeListLocked config).2.isBatch = q.isBatch :=
  popFromFreeListLocked_induct (P := fun q' => q'.isBatch = q.isBatch) q config (fun _ => rfl) rfl
    fun _ _ => rfl

theorem requestBufferCheck_of_batch (hbatch : q.isBatch = true) (config : BufferRequestConfig) :
    q.requestBufferCheck config =
      if checkRequestConfig config = .ok then
        .ok { config with usage := config.usage ||| q.defaultUsage }
      else .error .internal := by
  have hcheck : checkRequestConfig { config with usage := config.usage ||| q.defaultUsage } =
      checkRequestConfig config := rfl
  unfold requestBufferCheck requestBufferCheckStatus
  rw [if_pos hbatch, if_neg (not_not.mpr rfl)]
  dsimp only
  rw [hcheck]
  by_cases hok : checkRequestConfig config = .ok
  · rw [if_neg (not_not.mpr hok), if_pos hok]
  · rw [if_pos hok, if_neg hok]

theorem requestPoint_endsInBatch (hbatch : q.isBatch = true) (config : BufferRequestConfig) :
    (q.requestPoint config).1.EndsInBatch := by
  cases hcheck : q.requestBufferCheck config with
  | error ret =>
    rw [requestBufferCheck_of_batch hbatch] at hcheck
    unfold requestPoint
    rw [requestBufferCheck_of_batch hbatch]
    split at hcheck
    · cases hcheck
    · rename_i hnot
      rw [if_neg hnot]
      exact .inr (.inr rfl)
  | ok updateConfig =>
    cases hprio : q.isPriorityAlloc && decide (q.getUsedSize < q.unreservedSize) with
    | true =>
      rw [requestPoint_of_check hcheck (requestBufferBody_of_priority hprio)]
      trivial
    | false =>
      rcases hpop : q.popFromFreeListLocked updateConfig with ⟨_ | buffer, q₁⟩
      · have hbatch₁ : q₁.isBatch = true := by
          rw [← hbatch, ← isBatch_popFromFreeListLocked q updateConfig, hpop]
        have hbody := requestBufferBody_of_none hprio hpop
        split_ifs at hbody <;> rw [requestPoint_of_check hcheck hbody]
        · exact reuseBufferForNoBlockMode_endsInBatch q₁ updateConfig
        · exact reuseBufferForBlockMode_endsInBatch hbatch₁ updateConfig
        · trivial
      · rw [requestPoint_of_check hcheck (requestBufferBody_of_some hprio hpop)]
        exact reuseBuffer_endsInBatch q₁ updateConfig buffer

theorem requestBuffer_endsInBatch (hbatch : q.isBatch = true) (config : BufferRequestConfig)
    (a : Allocation) : (q.requestBuffer config a).1.ret.EndsInBatch := by
  have hpoint := requestPoint_endsInBatch hbatch config
  rw [requestBuffer_eq]
  generalize q.requestPoint config = r at hpoint ⊢
  obtain ⟨point, q₁⟩ := r
  dsimp only at hpoint ⊢
  unfold finishRequest
  cases point with
  | done reply => exact hpoint
  | setupNewBuffer job =>
    dsimp only
    split
    · exact .inr (.inr rfl)
    · exact .inl rfl
  | reallocBuffer job =>
    dsimp only
    split
    · exact .inr (.inr rfl)
    · exact updateReuse_endsInBatch _ true _

theorem requestBuffer_of_check (hbatch : q.isBatch = true) (hcheck : checkRequestConfig config ≠ .ok)
    (a : Allocation) : (q.requestBuffer config a).1.ret = .internal := by
  unfold requestBuffer requestBufferLocked
  rw [requestBufferCheck_of_batch hbatch, if_neg hcheck]
  rfl

theorem requestBuffersLoop_of_refused {as : List Allocation}
    (h : (q.requestBuffer config a).1.ret ≠ .ok) :
    (q.requestBuffersLoop config (a :: as)).1 = (q.requestBuffer config a).1.ret ∧
      (q.requestBuffersLoop config (a :: as)).2.1 = [] := by
  unfold requestBuffersLoop
  dsimp only
  rw [if_pos h]
  exact ⟨rfl, rfl⟩

theorem requestBuffersLoop_of_granted {as : List Allocation}
    (h : (q.requestBuffer config a).1.ret = .ok) :
    (q.requestBuffersLoop config (a :: as)).2.1 = (q.requestBuffer config a).1 ::
      ((q.requestBuffer config a).2.requestBuffersLoop config as).2.1 := by
  have hcall : q.requestBuffersLoop config (a :: as) =
      if (q.requestBuffer config a).1.ret ≠ .ok then
        ((q.requestBuffer config a).1.ret, [], (q.requestBuffer config a).2)
      else (((q.requestBuffer config a).2.requestBuffersLoop config as).1,
        (q.requestBuffer config a).1 :: ((q.requestBuffer config a).2.requestBuffersLoop config as).2.1,
        ((q.requestBuffer config a).2.requestBuffersLoop config as).2.2) := rfl
  rw [hcall, if_neg (not_not.mpr h)]

theorem requestBuffersLoop_length (q : BufferQueue) (config : BufferRequestConfig)
    (as : List Allocation) : (q.requestBuffersLoop config as).2.1.length ≤ as.length := by
  induction as generalizing q with
  | nil => exact le_rfl
  | cons a as ih =>
    by_cases h : (q.requestBuffer config a).1.ret = .ok
    · rw [requestBuffersLoop_of_granted h]
      exact Nat.succ_le_succ (ih _)
    · rw [(requestBuffersLoop_of_refused h).2]
      exact Nat.zero_le _

end BufferQueue

/-! The configuration of the client and the one that the stub has read. -/

theorem checkRequestConfig_received {config : BufferRequestConfig} :
    BufferQueue.checkRequestConfig config.received = .ok ↔
      BufferQueue.checkRequestConfig config = .ok ∧ config.colorGamut ≠ 11 := by
  rw [checkRequestConfig_ok, checkRequestConfig_ok]
  simp only [BufferRequestConfig.received, readColorGamut, readTransform, graphicColorGamutInvalid,
    graphicColorGamutDisplayBt2020, graphicRotateNone, graphicRotateButt]
  split_ifs <;> omega

theorem received_of_check {config : BufferRequestConfig}
    (h : BufferQueue.checkRequestConfig config.received = .ok) :
    config.received = config.withSource emptyRequestConfig.sourceType := by
  obtain ⟨hcheck, hgamut⟩ := checkRequestConfig_received.mp h
  obtain ⟨⟨hpos, hmax⟩, htransform⟩ := checkRequestConfig_ok.mp hcheck
  unfold BufferRequestConfig.received BufferRequestConfig.withSource
  rw [(readColorGamut_eq hpos).mpr (by omega), readTransform_eq htransform.1 htransform.2]

section SameReplies

variable {memory : ℕ → BufferMemory} {sourceType : Int}

theorem summary_stamp (reply : RequestReply) :
    (reply.stamp sourceType).entry.summary = reply.entry.summary := by
  unfold BatchEntry.summary RequestReply.stamp RequestReply.entry
  dsimp only
  rw [Option.isSome_map]

theorem sendable_stamp (reply : RequestReply) :
    (reply.stamp sourceType).entry.Sendable memory ↔ reply.entry.Sendable memory := by
  refine ⟨fun h => ⟨h.bedata, h.size, h.fence, fun b hb => ?_⟩, fun h =>
    ⟨h.bedata, h.size, h.fence, fun b hb => ?_⟩⟩
  · exact h.handle (b.stamp sourceType) (congrArg (Option.map (SurfaceBuffer.stamp sourceType)) hb)
  · obtain ⟨b', hb', rfl⟩ := Option.map_eq_some_iff.mp hb
    exact h.handle b' hb'

theorem summaries_of_stamp {replies replies' : List RequestReply}
    (h : replies.map (RequestReply.stamp sourceType) = replies'.map (RequestReply.stamp sourceType)) :
    replies.map (fun reply => reply.entry.summary) =
      replies'.map fun reply => reply.entry.summary := by
  have hsame (replies : List RequestReply) : replies.map (fun reply => reply.entry.summary) =
      (replies.map (RequestReply.stamp sourceType)).map fun reply => reply.entry.summary := by
    rw [List.map_map]
    exact List.map_congr_left fun reply _ => (summary_stamp reply).symm
  rw [hsame replies, h, ← hsame replies']

theorem sendable_of_stamp {replies replies' : List RequestReply}
    (h : replies.map (RequestReply.stamp sourceType) = replies'.map (RequestReply.stamp sourceType)) :
    (∀ reply ∈ replies, reply.entry.Sendable memory) ↔
      ∀ reply ∈ replies', reply.entry.Sendable memory := by
  have hsame (replies : List RequestReply) : (∀ reply ∈ replies, reply.entry.Sendable memory) ↔
      ∀ reply ∈ replies.map (RequestReply.stamp sourceType), reply.entry.Sendable memory := by
    rw [List.forall_mem_map]
    exact forall₂_congr fun reply _ => (sendable_stamp reply).symm
  rw [hsame replies, h, ← hsame replies']

end SameReplies

theorem allSendable_iff {P : Type} [Parcel P] (channel : Channel P) (q : BufferQueue)
    (config : BufferRequestConfig) (as : List Allocation) :
    channel.AllSendable q config as ↔
      ∀ reply ∈ (q.requestBuffersLoop config as).2.1, reply.entry.Sendable channel.memory := by
  induction as generalizing q with
  | nil => exact iff_of_true trivial (List.forall_mem_nil _)
  | cons a as ih =>
    unfold Channel.AllSendable
    by_cases h : (q.requestBuffer config a).1.ret = .ok
    · rw [BufferQueue.requestBuffersLoop_of_granted h, List.forall_mem_cons, ← ih, imp_iff_right h]
    · rw [(BufferQueue.requestBuffersLoop_of_refused h).2]
      exact iff_of_true (fun hok => absurd hok h) (List.forall_mem_nil _)

end GraphicSurface
