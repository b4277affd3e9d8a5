import GraphicSurface.BatchCodec
import GraphicSurface.BatchFlush

/-! A batch of flushes over IPC. The client reads its vectors while it writes the request, so an
index that is not there ends its process before the producer has heard of the batch. -/

namespace GraphicSurface

open Parcels

/-- Why a client sends nothing: it has a code for its caller, or its process has ended. -/
inductive FlushFailure
  | code (ret : GSError)
  | fault (fault : ReadFault)

section Codec

variable {P : Type} [Parcel P]

open Parcel

def elementAt {α : Type} (xs : List α) (i : ℕ) : Coded FlushFailure P α :=
  match xs[i]? with
  | some x => pure x
  | none => .fail (.fault .outOfBounds)

def dereference : Option ExtraData → Coded FlushFailure P ExtraData
  | some bedata => pure bedata
  | none => .fail (.fault .nullPointer)

/-- One round of the loop of `BufferClientProducer::FlushBuffers`. -/
def writeFlushEntry (badFd : Int32 → Bool) (v : FlushVectors) (i : ℕ) : Coded FlushFailure P Unit := do
  let pointer ← elementAt v.bedata i
  let bedata ← dereference pointer
  bedata.writeToParcel.mapError .code
  let fence ← elementAt v.fences i
  (writeFence badFd fence).orFail (.code .binder)
  let config ← elementAt v.configs i
  (writeFlushConfig config).mapError .code

/-- The rounds from index `i` on. -/
def writeFlushEntries (badFd : Int32 → Bool) (v : FlushVectors) :
    (left i : ℕ) → Coded FlushFailure P Unit
  | 0, _ => pure ()
  | left + 1, i => do
    writeFlushEntry badFd v i
    writeFlushEntries badFd v left (i + 1)

/-- One round of the loop of `FlushBuffersRemote`. -/
def readFlushEntry : Coded Unit P (ExtraData × Int32 × BufferFlushConfigWithDamages) := do
  let bedata ← ExtraData.readFromParcel.orFail ()
  let fence ← readFence
  let config ← readFlushConfig.orFail ()
  pure (bedata, fence, config)

def readFlushEntries : ℕ → Coded Unit P (List (ExtraData × Int32 × BufferFlushConfigWithDamages))
  | 0 => pure []
  | n + 1 => do
    let entry ← readFlushEntry
    let entries ← readFlushEntries n
    pure (entry :: entries)

end Codec

/-- The vectors that the stub fills, where `fenceOf` is the fence that a descriptor stands for. -/
def FlushVectors.received (fenceOf : Int32 → SyncFence) (sequences : List UInt32)
    (entries : List (ExtraData × Int32 × BufferFlushConfigWithDamages)) : FlushVectors where
  sequences := sequences.map (·.toNat)
  bedata := entries.map fun entry => some entry.1
  fences := entries.map fun entry => fenceOf entry.2.1
  configs := entries.map fun entry => entry.2.2

namespace Channel

variable {P : Type} [Parcel P] (channel : Channel P)

def writeFlushVectors (v : FlushVectors) : Coded FlushFailure P Unit := do
  channel.writeInterfaceToken.orFail (.code .binder)
  if v.sequences = [] ∨ surfaceMaxQueueSize < v.sequences.length then .fail (.code .internal)
  else do
    (Parcel.writeUInt32Vector (v.sequences.map .ofNat)).orFail (.code .binder)
    writeFlushEntries channel.badFd v v.sequences.length 0

def writeRetval (ret : Except ReadFault Int32) : Option P :=
  match ret with
  | .error _ => none
  | .ok ret =>
    match (Parcel.writeInt32 ret channel.reply : Except Unit Unit × P) with
    | (.ok _, reply) => some reply
    | (.error _, _) => none

/-- `FlushBuffersRemote`, with the reply if it ends with `ERR_NONE`. A batch that it does not
understand never gets to the queue. -/
def flushStub (fenceOf : Int32 → SyncFence) (s : BufferQueueProducer) (env : ℕ → FlushEnv)
    (arguments : P) : FlushOutcome × Option P :=
  match channel.checkInterfaceToken arguments with
  | (false, _) => (⟨.ok GSError.binder.code, 0, s⟩, none)
  | (true, arguments) =>
    match (Parcel.readUInt32Vector arguments : Except Unit (List UInt32) × P) with
    | (.error _, _) => (⟨.ok GSError.binder.code, 0, s⟩, none)
    | (.ok sequences, arguments) =>
      if sequences = [] ∨ surfaceMaxQueueSize < sequences.length then
        (⟨.ok GSError.binder.code, 0, s⟩, some channel.reply)
      else
        match readFlushEntries sequences.length arguments with
        | (.error _, _) => (⟨.ok GSError.binder.code, 0, s⟩, none)
        | (.ok entries, _) =>
          (s.flushVectors (.received fenceOf sequences entries) env,
            channel.writeRetval (s.flushVectors (.received fenceOf sequences entries) env).ret)

/-- `CheckRetval` on the answer, or the code of `SendRequest` without one. -/
def checkRetval (reply : Option P) : Int32 :=
  match reply.bind channel.answer with
  | none => GSError.binder.code
  | some reply =>
    match (Parcel.readInt32 reply : Except Unit Int32 × P) with
    | (.ok ret, _) => ret
    | (.error _, _) => GSError.binder.code

/-- `BufferClientProducer::FlushBuffers`. -/
def flushBuffers (fenceOf : Int32 → SyncFence) (v : FlushVectors) (s : BufferQueueProducer)
    (env : ℕ → FlushEnv) : FlushOutcome :=
  match channel.writeFlushVectors v channel.arguments with
  | (.error (.code ret), _) => ⟨.ok ret.code, 0, s⟩
  | (.error (.fault fault), _) => ⟨.error fault, 0, s⟩
  | (.ok _, arguments) =>
    if !channel.remote then ⟨.ok gsErrorServerError, 0, s⟩
    else
      match channel.deliver arguments with
      | none => ⟨.ok GSError.binder.code, 0, s⟩
      | some arguments =>
        match channel.flushStub fenceOf s env arguments with
        | (outcome, reply) => { outcome with ret := outcome.ret.map fun _ => channel.checkRetval reply }

/-- The stub finds what was written behind the token and the client finds what the stub has written,
as far as either gets anything, and no write of extra data fails. -/
structure Delivers {F : Type} (channel : Channel P) (fifo : VectorFifo P F) : Prop where
  request : ∀ p p' r r' words, channel.writeInterfaceToken channel.arguments = (.ok (), p) →
    fifo.contents p' = fifo.contents p ++ words → channel.deliver p' = some r →
      channel.checkInterfaceToken r = (true, r') → fifo.contents r' = words
  fresh : fifo.contents channel.reply = []
  answer : ∀ p r, channel.answer p = some r → fifo.contents r = fifo.contents p
  plain : ∀ (d : ExtraData) (p : P), (d.writeAll p).1 = .ok ()

end Channel

/-! The client's side: with proper vectors its process does not end. -/

section Client

variable {P : Type} [Parcel P] {badFd : Int32 → Bool} {v : FlushVectors}

/-- An error that the caller of the client gets. -/
def FlushFailure.IsCode : FlushFailure → Prop
  | .code ret => ret ≠ .ok
  | .fault _ => False

theorem FlushFailure.IsCode.of_ne {ret : GSError} (h : ret ≠ .ok) : FlushFailure.IsCode (.code ret) := h

theorem writeToParcel_fails (d : ExtraData) :
    Coded.FailsAs (· ≠ .ok) (d.writeToParcel : Coded GSError P Unit) := by
  have hentries (ipcRet : Bool) (entries : List (String × ExtraValue)) :
      Coded.FailsAs (· ≠ .ok) (ExtraData.writeEntries ipcRet entries : Coded GSError P Bool) := by
    induction entries generalizing ipcRet with
    | nil => exact .pure _ ipcRet
    | cons entry entries ih =>
      exact (Coded.FailsAs.orFail nofun _).bind fun _ => (Coded.FailsAs.attempt _ _).bind fun _ => ih _
  refine (Coded.FailsAs.orFail nofun _).bind fun _ => (hentries true d.toList).bind fun ipcRet => ?_
  cases ipcRet with
  | true => exact .pure _ ()
  | false => exact .fail nofun

theorem writeFlushConfig_fails (config : BufferFlushConfigWithDamages) :
    Coded.FailsAs (· ≠ .ok) (writeFlushConfig config : Coded GSError P Unit) := by
  unfold writeFlushConfig
  dsimp only
  split
  · exact .fail nofun
  · exact .orFail nofun _

theorem writeFlushEntry_eq {i : ℕ} {d : ExtraData} {fence : SyncFence}
    {config : BufferFlushConfigWithDamages} (hbedata : v.bedata[i]? = some (some d))
    (hfence : v.fences[i]? = some fence) (hconfig : v.configs[i]? = some config) :
    (writeFlushEntry badFd v i : Coded FlushFailure P Unit) = (do
      d.writeToParcel.mapError .code
      (writeFence badFd fence).orFail (.code .binder)
      (writeFlushConfig config).mapError .code) := by
  unfold writeFlushEntry elementAt
  rw [hbedata, hfence, hconfig]
  rfl

theorem fitsParcel_of_write {config : BufferFlushConfigWithDamages} {p p' : P}
    (h : writeFlushConfig config p = (.ok (), p')) : config.FitsParcel := by
  unfold writeFlushConfig at h
  split at h
  · cases h
  · rename_i hlimit
    exact UInt32.not_lt.mp hlimit

/-- The entries that the client finds up to index `i`, with the configurations before it sent. -/
theorem exists_entry (hsized : v.Sized) (hproper : v.Proper) {i : ℕ} (hi : i < v.sequences.length)
    (hfits : ∀ config ∈ v.configs.take i, config.FitsParcel) :
    ∃ d fence config, v.bedata[i]? = some (some d) ∧ v.fences[i]? = some fence ∧
      v.configs[i]? = some config := by
  obtain ⟨hconfig, d, hd⟩ := hproper.written i hi hfits
  have hfences : i < v.fences.length := hsized.fences ▸ hi
  exact ⟨d, v.fences[i], v.configs[i], hd, List.getElem?_eq_getElem hfences,
    List.getElem?_eq_getElem hconfig⟩

theorem writeFlushEntry_spec (badFd : Int32 → Bool) {i : ℕ} {d : ExtraData} {fence : SyncFence}
    {config : BufferFlushConfigWithDamages} (hbedata : v.bedata[i]? = some (some d))
    (hfence : v.fences[i]? = some fence) (hconfig : v.configs[i]? = some config) :
    Coded.FailsAs FlushFailure.IsCode (writeFlushEntry badFd v i : Coded FlushFailure P Unit) ∧
      ∀ p p' : P, writeFlushEntry badFd v i p = (.ok (), p') →
        ∃ p₁ p₂, d.writeToParcel p = (.ok (), p₁) ∧ writeFence badFd fence p₁ = (.ok (), p₂) ∧
          writeFlushConfig config p₂ = (.ok (), p') := by
  rw [writeFlushEntry_eq hbedata hfence hconfig]
  refine ⟨((writeToParcel_fails d).mapError fun _ => FlushFailure.IsCode.of_ne).bind fun _ =>
    (Coded.FailsAs.orFail (.of_ne nofun) _).bind fun _ =>
      (writeFlushConfig_fails config).mapError fun _ => FlushFailure.IsCode.of_ne, fun p p' h => ?_⟩
  obtain ⟨_, p₁, hdata, h⟩ := Coded.of_bind_ok h
  obtain ⟨_, p₂, hwritten, h⟩ := Coded.of_bind_ok h
  exact ⟨p₁, p₂, Coded.of_mapError_ok hdata, Coded.of_orFail_ok hwritten, Coded.of_mapError_ok h⟩

theorem writeFlushEntries_safe (hsized : v.Sized) (hproper : v.Proper) {left i : ℕ}
    (hleft : i + left = v.sequences.length)
    (hfits : ∀ config ∈ v.configs.take i, config.FitsParcel) :
    Coded.FailsAs FlushFailure.IsCode
      (writeFlushEntries badFd v left i : Coded FlushFailure P Unit) := by
  induction left generalizing i with
  | zero => exact .pure _ ()
  | succ left ih =>
    obtain ⟨d, fence, config, hbedata, hfence, hconfig⟩ :=
      exists_entry hsized hproper (i := i) (by omega) hfits
    obtain ⟨hfails, hspec⟩ := writeFlushEntry_spec (P := P) badFd hbedata hfence hconfig
    intro p e p' h
    unfold writeFlushEntries at h
    cases hentry : (writeFlushEntry badFd v i : Coded FlushFailure P Unit) p with
    | mk result p₁ =>
      cases result with
      | error e' =>
        rw [Coded.bind_error hentry] at h
        exact Except.error.inj (Prod.mk.inj h).1 ▸ hfails p e' p₁ hentry
      | ok _ =>
        rw [Coded.bind_ok hentry] at h
        obtain ⟨p₂, p₃, -, -, hwrite⟩ := hspec p p₁ hentry
        refine ih (by omega) ?_ p₁ e p' h
        rw [FlushVectors.take_succ_of_getElem? hconfig]
        exact List.forall_mem_append.mpr
          ⟨hfits, List.forall_mem_singleton.mpr (fitsParcel_of_write hwrite)⟩

theorem writeFlushVectors_safe (hsized : v.Sized) (hproper : v.Proper) (channel : Channel P) :
    Coded.FailsAs FlushFailure.IsCode (channel.writeFlushVectors v) := by
  unfold Channel.writeFlushVectors
  refine (Coded.FailsAs.orFail (.of_ne nofun) _).bind fun _ => ?_
  split
  · exact .fail (.of_ne nofun)
  · exact (Coded.FailsAs.orFail (.of_ne nofun) _).bind fun _ =>
      writeFlushEntries_safe hsized hproper (Nat.zero_add _) (by simp)

end Client

/-! The stub's side: its vectors all have the same length, and the first configuration is the one
that was sent. -/

section Stub

variable {P F : Type} [Parcel P] {fifo : VectorFifo P F} {badFd : Int32 → Bool} {v : FlushVectors}
  {fenceOf : Int32 → SyncFence} {s : BufferQueueProducer} {env : ℕ → FlushEnv}

theorem readFlushEntries_length {n : ℕ} {p p' : P}
    {entries : List (ExtraData × Int32 × BufferFlushConfigWithDamages)}
    (h : readFlushEntries n p = (.ok entries, p')) : entries.length = n := by
  induction n generalizing p p' entries with
  | zero =>
    obtain ⟨hentries, -⟩ := Prod.mk.inj h
    rw [← Except.ok.inj hentries, List.length_nil]
  | succ n ih =>
    obtain ⟨entry, p₁, -, hrest⟩ := Coded.of_bind_ok h
    obtain ⟨others, p₂, hothers, hpure⟩ := Coded.of_bind_ok hrest
    obtain ⟨hentries, -⟩ := Prod.mk.inj hpure
    rw [← Except.ok.inj hentries, List.length_cons, ih hothers]

theorem received_sized (fenceOf : Int32 → SyncFence) {sequences : List UInt32}
    {entries : List (ExtraData × Int32 × BufferFlushConfigWithDamages)}
    (h : entries.length = sequences.length) :
    (FlushVectors.received fenceOf sequences entries).Sized := by
  constructor <;> simp [FlushVectors.received, h]

theorem received_proper (fenceOf : Int32 → SyncFence) {sequences : List UInt32}
    {entries : List (ExtraData × Int32 × BufferFlushConfigWithDamages)}
    (h : entries.length = sequences.length) :
    (FlushVectors.received fenceOf sequences entries).Proper := by
  have hdata (i : ℕ) (hi : i < (FlushVectors.received fenceOf sequences entries).sequences.length) :
      i < (FlushVectors.received fenceOf sequences entries).configs.length ∧
        (FlushVectors.received fenceOf sequences entries).HasExtraData i := by
    have hlt : i < entries.length := by simpa [FlushVectors.received, h] using hi
    exact ⟨by simpa [FlushVectors.received] using hlt, entries[i].1, by
      simp [FlushVectors.received, hlt]⟩
  exact ⟨.inl (by simp [FlushVectors.received, h]), fun i hi _ => hdata i hi,
    fun i hi _ _ => (hdata i hi).2⟩

variable (fifo) in
theorem writeFlushEntry_carried {i : ℕ} {d : ExtraData} {fence : SyncFence}
    {config : BufferFlushConfigWithDamages} (hbedata : v.bedata[i]? = some (some d))
    (hfence : v.fences[i]? = some fence) (hconfig : v.configs[i]? = some config)
    (hplain : ∀ p : P, (d.writeAll p).1 = .ok ()) (hmade : ∃ sets, Runs.Run ExtraData.SetStep ∅ sets d)
    {p p' : P} (hwrite : writeFlushEntry badFd v i p = (.ok (), p')) :
    ∃ words₁ words₂,
      fifo.contents p' = fifo.contents p ++ (words₁ ++ (words₂ ++ flushWords config)) ∧
      config.FitsParcel ∧
      (∀ r rest read r', fifo.contents r = words₁ ++ rest →
        ExtraData.readFromParcel r = (.ok read, r') → fifo.contents r' = rest) ∧
      ∀ r, fifo.Reads r (readFence : Coded Unit P Int32) words₂ fun _ _ => True := by
  obtain ⟨p₁, p₂, hdata, hsent, hlast⟩ :=
    (writeFlushEntry_spec badFd hbedata hfence hconfig).2 p p' hwrite
  obtain ⟨sets, run⟩ := hmade
  have hsize : d.size < 2 ^ 31 := lt_of_le_of_lt (ExtraData.size_of_run run) (by decide)
  obtain ⟨words₁, hwords₁, -, hreads, hread⟩ :=
    bedata_carried fifo hplain (ExtraData.entries_of_run run) hsize hdata
  obtain ⟨words₂, hwords₂, -, hfenceReads⟩ := fence_carried (E := Unit) fifo.toFifo hsent
  obtain ⟨hwords₃, -⟩ := writeFlushConfig_writes fifo.toFifo config p₂ p' hlast
  refine ⟨words₁, words₂, ?_, fitsParcel_of_write hlast, fun r rest read r' hr h => ?_, hfenceReads⟩
  · rw [hwords₃, hwords₂, hwords₁, List.append_assoc, List.append_assoc]
  · obtain ⟨read', r'', h', hrest, -⟩ := hreads (hread r rest read r' hr h) r rest hr
    rw [h'] at h
    exact (Prod.mk.inj h).2 ▸ hrest

theorem readFlushEntry_config {words₁ words₂ : List (Word F)} {config : BufferFlushConfigWithDamages}
    (hbedata : ∀ r rest read r', fifo.contents r = words₁ ++ rest →
      ExtraData.readFromParcel r = (.ok read, r') → fifo.contents r' = rest)
    (hfence : ∀ r, fifo.Reads r (readFence : Coded Unit P Int32) words₂ fun _ _ => True)
    (hsent : config.FitsParcel) (hfits : config.Fits) (hcount : config.damages.length < 2 ^ 32)
    (hne : config.damages ≠ []) {r r' : P} {rest : List (Word F)}
    {entry : ExtraData × Int32 × BufferFlushConfigWithDamages}
    (hr : fifo.contents r = words₁ ++ (words₂ ++ flushWords config) ++ rest)
    (hread : readFlushEntry r = (.ok entry, r')) : entry.2.2 = config := by
  have hlimit : config.damages.length ≤ 1024 := by
    have hle := UInt32.le_iff_toNat_le.mp hsent
    rwa [UInt32.toNat_ofNat_of_lt' hcount] at hle
  obtain ⟨read, r₁, hfirst, hread⟩ := Coded.of_bind_ok hread
  obtain ⟨fd, r₂, hsecond, hread⟩ := Coded.of_bind_ok hread
  obtain ⟨last, r₃, hthird, hpure⟩ := Coded.of_bind_ok hread
  rw [List.append_assoc] at hr
  have hrest₁ := hbedata r _ read r₁ hr (Coded.of_orFail_ok hfirst)
  rw [List.append_assoc] at hrest₁
  obtain ⟨fd', r₂', hsecond', hrest₂, -⟩ := hfence r₁ _ hrest₁
  obtain rfl : r₂' = r₂ := (Prod.mk.inj (hsecond'.symm.trans hsecond)).2
  obtain ⟨last', r₃', hthird', -, -, rfl⟩ := readFlushConfig_reads fifo.toFifo hfits
    (List.length_pos_iff.mpr hne) hlimit r₂' _ hrest₂
  have hsame := (Prod.mk.inj (hthird'.symm.trans (Coded.of_orFail_ok hthird))).1
  rw [← Except.ok.inj (Prod.mk.inj hpure).1, ← Except.ok.inj hsame]

variable (fifo) in
theorem writeFlushEntries_appends (hsized : v.Sized) (hproper : v.Proper)
    (hmade : ∀ d, some d ∈ v.bedata → ∃ sets, Runs.Run ExtraData.SetStep ∅ sets d)
    (hplain : ∀ (d : ExtraData) (p : P), (d.writeAll p).1 = .ok ()) {left i : ℕ}
    (hleft : i + left = v.sequences.length)
    (hfits : ∀ config ∈ v.configs.take i, config.FitsParcel) {p p' : P}
    (h : writeFlushEntries badFd v left i p = (.ok (), p')) :
    ∃ words, fifo.contents p' = fifo.contents p ++ words := by
  induction left generalizing i p with
  | zero =>
    obtain ⟨-, rfl⟩ := Prod.mk.inj h
    exact ⟨[], (List.append_nil _).symm⟩
  | succ left ih =>
    obtain ⟨_, p₁, hentry, hrest⟩ := Coded.of_bind_ok h
    obtain ⟨d, fence, config, hbedata, hfence, hconfig⟩ :=
      exists_entry hsized hproper (i := i) (by omega) hfits
    obtain ⟨words₁, words₂, hwords, hsent, -⟩ := writeFlushEntry_carried fifo hbedata hfence
      hconfig (hplain d) (hmade d (List.mem_of_getElem? hbedata)) hentry
    obtain ⟨words, hothers⟩ := ih (i := i + 1) (by omega) (by
      rw [FlushVectors.take_succ_of_getElem? hconfig]
      exact List.forall_mem_append.mpr ⟨hfits, List.forall_mem_singleton.mpr hsent⟩) hrest
    exact ⟨_, by rw [hothers, hwords, List.append_assoc]⟩

theorem flushStub_returns (fenceOf : Int32 → SyncFence) (env : ℕ → FlushEnv) (channel : Channel P)
    (hfault : s.bufferQueue.fault = false) (r : P) :
    ∃ ret, (channel.flushStub fenceOf s env r).1.ret = .ok ret := by
  unfold Channel.flushStub
  split
  · exact ⟨_, rfl⟩
  · split
    · exact ⟨_, rfl⟩
    · rename_i sequences r' _
      split
      · exact ⟨_, rfl⟩
      · split
        · exact ⟨_, rfl⟩
        · rename_i entries _ hentries
          have hlength := readFlushEntries_length hentries
          exact BufferQueueProducer.flushVectors_returns (received_sized fenceOf hlength)
            (received_proper fenceOf hlength) hfault env

theorem checkRetval_writeRetval {channel : Channel P} (hdelivers : channel.Delivers fifo) {ret : Int32}
    (hne : ret ≠ GSError.ok.code) :
    channel.checkRetval (channel.writeRetval (.ok ret)) ≠ GSError.ok.code := by
  have hlost : channel.checkRetval none ≠ GSError.ok.code :=
    show GSError.binder.code ≠ GSError.ok.code by decide
  unfold Channel.writeRetval
  dsimp only
  split
  · rename_i reply hwritten
    obtain ⟨hcontents, -⟩ := fifo.write_int32 ret _ reply hwritten
    rw [hdelivers.fresh, List.nil_append] at hcontents
    unfold Channel.checkRetval
    rw [Option.bind_some]
    split
    · decide
    · rename_i answer hanswer
      obtain ⟨got, r, hread, -, -, rfl⟩ :=
        fifo.reads_int32 answer ret [] ((hdelivers.answer reply answer hanswer).trans hcontents)
      rw [hread]
      exact hne
  · exact hlost

theorem flushStub_refused {channel : Channel P} (hdelivers : channel.Delivers fifo)
    (hfault : s.bufferQueue.fault = false) {sequences : List UInt32} (hpos : 0 < sequences.length)
    (hmax : sequences.length ≤ surfaceMaxQueueSize) {r r' : P} {words : List (Word F)}
    (hcheck : channel.checkInterfaceToken r = (true, r'))
    (hr : fifo.contents r' = .vector sequences :: words)
    (hrefused : ∀ r'' entry r₁, fifo.contents r'' = words → readFlushEntry r'' = (.ok entry, r₁) →
      BufferQueue.checkFlushConfig entry.2.2 ≠ .ok) :
    (channel.flushStub fenceOf s env r).1.flushed = 0 ∧
      channel.checkRetval (channel.flushStub fenceOf s env r).2 ≠ GSError.ok.code := by
  obtain ⟨read, r₁, hvector, hrest, -, rfl⟩ := fifo.read_vector r' sequences words hr
  have hlost : channel.checkRetval none ≠ GSError.ok.code :=
    show GSError.binder.code ≠ GSError.ok.code by decide
  unfold Channel.flushStub
  rw [hcheck]
  dsimp only
  rw [hvector]
  dsimp only
  rw [if_neg (by simp [List.length_pos_iff.mp hpos, hmax])]
  split
  · exact ⟨rfl, hlost⟩
  · rename_i entries r₂ hentries
    have hlength := readFlushEntries_length hentries
    obtain ⟨n, hn⟩ := Nat.exists_eq_succ_of_ne_zero hpos.ne'
    rw [hn] at hentries
    obtain ⟨entry, r₃, hentry, hothers⟩ := Coded.of_bind_ok hentries
    obtain ⟨others, r₄, -, hpure⟩ := Coded.of_bind_ok hothers
    obtain rfl : entry :: others = entries := Except.ok.inj (Prod.mk.inj hpure).1
    obtain ⟨ret, hne, hret, hflushed⟩ := BufferQueueProducer.flushVectors_refused
      (received_sized fenceOf hlength) (received_proper fenceOf hlength)
      (by simpa [FlushVectors.received] using hpos) hfault rfl
      (hrefused r₁ entry r₃ hrest hentry) env
    refine ⟨hflushed, ?_⟩
    rw [hret]
    exact checkRetval_writeRetval hdelivers hne

end Stub

theorem damages_of_refused {config : BufferFlushConfigWithDamages}
    (h : BufferQueue.checkFlushConfig config ≠ .ok) : config.damages ≠ [] := by
  intro hnil
  unfold BufferQueue.checkFlushConfig at h
  simp [hnil] at h

namespace FlushBatch

section Remote

variable {P F : Type} [Parcel P] {fifo : VectorFifo P F} {channel : Channel P} {b : FlushBatch}
  {v : FlushVectors} {fenceOf : Int32 → SyncFence} {s : BufferQueueProducer}

theorem Passes.refused_first (h : b.Passes v) (hproper : v.Proper) (hdelivers : channel.Delivers fifo)
    {config : BufferFlushConfigWithDamages} (hhead : v.configs.head? = some config)
    (hrefused : BufferQueue.checkFlushConfig config ≠ .ok) {p : P}
    (hwrite : channel.writeFlushVectors v channel.arguments = (.ok (), p)) :
    ∃ p₀ words, channel.writeInterfaceToken channel.arguments = (.ok (), p₀) ∧
      fifo.contents p = fifo.contents p₀ ++ .vector (v.sequences.map .ofNat) :: words ∧
      ∀ r entry r', fifo.contents r = words → readFlushEntry r = (.ok entry, r') →
        BufferQueue.checkFlushConfig entry.2.2 ≠ .ok := by
  obtain ⟨_, p₀, htoken, hwrite⟩ := Coded.of_bind_ok hwrite
  rw [if_neg (by simp [List.length_pos_iff.mp h.pos, h.max])] at hwrite
  obtain ⟨_, p₁, hvector, hentries⟩ := Coded.of_bind_ok hwrite
  obtain ⟨hwords, -⟩ := fifo.write_vector _ _ p₁ (Coded.of_orFail_ok hvector)
  obtain ⟨n, hn⟩ := Nat.exists_eq_succ_of_ne_zero h.pos.ne'
  rw [hn] at hentries
  obtain ⟨_, p₂, hentry, hothers⟩ := Coded.of_bind_ok hentries
  obtain ⟨d, fence, config', hbedata, hfence, hconfig⟩ :=
    exists_entry h.toSized hproper h.pos (by simp)
  obtain rfl : config' = config := by
    rw [List.head?_eq_getElem?, hconfig] at hhead
    exact Option.some.inj hhead
  obtain ⟨hfits, hcount⟩ := b.configsFit config' (h.configs ▸ List.mem_of_getElem? hconfig)
  obtain ⟨words₁, words₂, hfirst, hsent, hreadData, hreadFence⟩ := writeFlushEntry_carried fifo
    hbedata hfence hconfig (hdelivers.plain d) (h.made d (List.mem_of_getElem? hbedata)) hentry
  obtain ⟨words, hrest⟩ := writeFlushEntries_appends fifo h.toSized hproper h.made
    hdelivers.plain (show 1 + n = v.sequences.length by omega) (by
      rw [FlushVectors.take_succ_of_getElem? hconfig]
      simpa using hsent) hothers
  refine ⟨p₀, words₁ ++ (words₂ ++ flushWords config') ++ words, Coded.of_orFail_ok htoken, ?_,
    fun r entry r' hr hread => ?_⟩
  · rw [hrest, hfirst, hwords, List.append_assoc, List.append_assoc]
    rfl
  · rwa [readFlushEntry_config hreadData hreadFence hsent hfits hcount (damages_of_refused hrefused)
      hr hread]

theorem Passes.right_flushBuffers (h : b.Passes v) (hproper : v.Proper)
    (hdelivers : channel.Delivers fifo) (hfault : s.bufferQueue.fault = false) (env : ℕ → FlushEnv) :
    b.Right (channel.flushBuffers fenceOf v s env) := by
  unfold Channel.flushBuffers
  cases hwrite : channel.writeFlushVectors v channel.arguments with
  | mk result p =>
    cases result with
    | error e =>
      have hcode := writeFlushVectors_safe h.toSized hproper channel _ e p hwrite
      cases e with
      | code ret => exact right_of_code hcode
      | fault fault => exact hcode.elim
    | ok _ =>
      dsimp only
      split
      · exact ⟨_, rfl, fun _ => ⟨by decide, rfl⟩⟩
      · split
        · exact right_of_code nofun
        · rename_i r hdeliver
          obtain ⟨ret, hret⟩ := flushStub_returns fenceOf env channel hfault r
          refine ⟨channel.checkRetval (channel.flushStub fenceOf s env r).2, ?_, fun hmismatched => ?_⟩
          · dsimp only
            rw [hret]
            rfl
          · obtain ⟨config, hhead, hrefused⟩ :=
              hproper.lengths.resolve_left (h.mismatched.mp hmismatched)
            obtain ⟨p₀, words, htoken, hcontents, hfirst⟩ :=
              h.refused_first hproper hdelivers hhead hrefused hwrite
            cases hcheck : channel.checkInterfaceToken r with
            | mk known r' =>
              cases known with
              | false =>
                unfold Channel.flushStub
                rw [hcheck]
                exact ⟨show GSError.binder.code ≠ GSError.ok.code by decide, rfl⟩
              | true =>
                have hr := hdelivers.request p₀ p r r' _ htoken hcontents hdeliver hcheck
                exact (flushStub_refused hdelivers hfault (by simpa using h.pos)
                  (by simpa using h.max) hcheck hr hfirst).symm

end Remote

end FlushBatch

/-! A channel on which everything arrives but descriptors, of which the client has none. -/

def closedChannel : Channel Wire := { wireChannel emptyWire with badFd := fun _ => true }

theorem closedChannel_delivers : closedChannel.Delivers Wire.vectorFifo where
  request p p' r r' words htoken hcontents hdeliver hcheck := by
    obtain rfl : p' = r := Option.some.inj hdeliver
    obtain ⟨-, rfl⟩ := Prod.mk.inj htoken
    obtain ⟨sent, files, room⟩ := p'
    obtain rfl : sent = .string "surf.IBufferProducer" :: words := hcontents
    change ((_, (⟨words, files, _⟩ : Wire)) : Bool × Wire) = _ at hcheck
    exact (Prod.mk.inj hcheck).2 ▸ rfl
  fresh := rfl
  answer p r h := Option.some.inj h ▸ rfl
  plain d p := by
    obtain ⟨p', h⟩ := ExtraData.writeAll_wire d p
    rw [h]

theorem writeRects_wire (rects : List Rect) (p : Wire) :
    ∃ p', (rects.forM writeRect : Coded Unit Wire Unit) p = (.ok (), p') := by
  induction rects generalizing p with
  | nil => exact ⟨p, rfl⟩
  | cons rect rects ih => exact ih _

theorem writeFlushConfig_wire {config : BufferFlushConfigWithDamages} (h : config.FitsParcel)
    (p : Wire) : ∃ p', writeFlushConfig config p = (.ok (), p') := by
  unfold writeFlushConfig
  rw [if_neg (UInt32.not_lt.mpr h)]
  obtain ⟨p₁, hsize⟩ : ∃ p₁,
      (Parcel.writeUint32 (.ofNat config.damages.length) : Coded Unit Wire Unit) p = (.ok (), p₁) :=
    ⟨_, rfl⟩
  obtain ⟨p₂, hrects⟩ := writeRects_wire config.damages p₁
  refine Exists.imp (fun _ => Coded.orFail_ok) ?_
  rw [Coded.bind_ok hsize, Coded.bind_ok hrects]
  exact ⟨_, rfl⟩

theorem writeFence_wire (fence : SyncFence) (p : Wire) :
    ∃ p', writeFence (fun _ => true) fence p = (.ok (), p') := by
  unfold writeFence
  by_cases h : 0 ≤ Int32.ofInt fence.fenceFd
  · rw [if_pos ⟨h, rfl⟩, if_pos (by decide)]
    exact ⟨_, rfl⟩
  · rw [if_neg fun hfd => h hfd.1, if_pos (by simpa using h)]
    exact ⟨_, rfl⟩

section Wire

variable {v : FlushVectors}

theorem writeFlushEntry_wire {i : ℕ} {d : ExtraData} {fence : SyncFence}
    {config : BufferFlushConfigWithDamages} (hbedata : v.bedata[i]? = some (some d))
    (hfence : v.fences[i]? = some fence) (hconfig : v.configs[i]? = some config)
    (hfits : config.FitsParcel) (p : Wire) :
    ∃ p', writeFlushEntry (fun _ => true) v i p = (.ok (), p') := by
  rw [writeFlushEntry_eq hbedata hfence hconfig]
  obtain ⟨p₁, hdata⟩ := ExtraData.writeAll_wire d p
  obtain ⟨p₂, hsent⟩ := writeFence_wire fence p₁
  obtain ⟨p₃, hlast⟩ := writeFlushConfig_wire hfits p₂
  refine ⟨p₃, ?_⟩
  rw [Coded.bind_ok (Coded.mapError_ok (ExtraData.writeToParcel_of_writeAll hdata)),
    Coded.bind_ok (Coded.orFail_ok hsent), Coded.mapError_ok hlast]

theorem writeFlushEntry_faults (hsized : v.Sized) {i : ℕ} (hi : i < v.sequences.length)
    (hwrong : ¬ (i < v.configs.length ∧ v.HasExtraData i)) (p : Wire) :
    ∃ fault p', writeFlushEntry (fun _ => true) v i p = (.error (.fault fault), p') := by
  have hbedata : i < v.bedata.length := hsized.bedata ▸ hi
  have hfences : i < v.fences.length := hsized.fences ▸ hi
  unfold writeFlushEntry elementAt
  rw [List.getElem?_eq_getElem hbedata, List.getElem?_eq_getElem hfences]
  cases hd : v.bedata[i] with
  | none => exact ⟨.nullPointer, p, rfl⟩
  | some d =>
    have hdata : v.HasExtraData i := ⟨d, by rw [List.getElem?_eq_getElem hbedata, hd]⟩
    have hconfig : v.configs[i]? = none :=
      List.getElem?_eq_none (Nat.not_lt.mp fun hlt => hwrong ⟨hlt, hdata⟩)
    obtain ⟨p₁, hall⟩ := ExtraData.writeAll_wire d p
    obtain ⟨p₂, hsent⟩ := writeFence_wire v.fences[i] p₁
    have hwritten : d.writeToParcel.mapError FlushFailure.code p = (.ok (), p₁) :=
      Coded.mapError_ok (ExtraData.writeToParcel_of_writeAll hall)
    have hfence : (writeFence (fun _ => true) v.fences[i]).orFail (FlushFailure.code .binder) p₁ =
        (.ok (), p₂) := Coded.orFail_ok hsent
    rw [hconfig]
    refine ⟨.outOfBounds, p₂, ?_⟩
    change ((d.writeToParcel.mapError FlushFailure.code >>= fun _ =>
      (writeFence (fun _ => true) v.fences[i]).orFail (FlushFailure.code .binder) >>= fun _ =>
        Coded.fail (FlushFailure.fault .outOfBounds)) : Coded FlushFailure Wire Unit) p = _
    rw [Coded.bind_ok hwritten, Coded.bind_ok hfence]
    rfl

theorem writeFlushEntries_faults (hsized : v.Sized) {j : ℕ} (hj : j < v.sequences.length)
    (hfits : ∀ config ∈ v.configs.take j, config.FitsParcel)
    (hwrong : ¬ (j < v.configs.length ∧ v.HasExtraData j)) {left i : ℕ} (hij : i ≤ j)
    (hleft : j < i + left) (p : Wire) :
    ∃ fault p', writeFlushEntries (fun _ => true) v left i p = (.error (.fault fault), p') := by
  induction left generalizing i p with
  | zero => omega
  | succ left ih =>
    have hi : i < v.sequences.length := by omega
    unfold writeFlushEntries
    by_cases hright : i < v.configs.length ∧ v.HasExtraData i
    · obtain ⟨hconfig, d, hd⟩ := hright
      have hne : i ≠ j := by
        rintro rfl
        exact hwrong ⟨hconfig, d, hd⟩
      have hfences : i < v.fences.length := hsized.fences ▸ hi
      have hmem : v.configs[i] ∈ v.configs.take j :=
        List.mem_take_iff_getElem.mpr ⟨i, by omega, rfl⟩
      obtain ⟨p₁, hentry⟩ := writeFlushEntry_wire hd (List.getElem?_eq_getElem hfences)
        (List.getElem?_eq_getElem hconfig) (hfits _ hmem) p
      rw [Coded.bind_ok hentry]
      exact ih (by omega) (by omega) p₁
    · obtain ⟨fault, p₁, hentry⟩ := writeFlushEntry_faults hsized hi hright p
      exact ⟨fault, p₁, Coded.bind_error hentry _⟩

theorem writeFlushVectors_faults (hsized : v.Sized) (hmax : v.sequences.length ≤ surfaceMaxQueueSize)
    {j : ℕ} (hj : j < v.sequences.length) (hfits : ∀ config ∈ v.configs.take j, config.FitsParcel)
    (hwrong : ¬ (j < v.configs.length ∧ v.HasExtraData j)) :
    ∃ fault p, closedChannel.writeFlushVectors v closedChannel.arguments =
      (.error (.fault fault), p) := by
  obtain ⟨p₀, htoken⟩ : ∃ p₀, closedChannel.writeInterfaceToken.orFail (FlushFailure.code .binder)
      closedChannel.arguments = (.ok (), p₀) := ⟨_, rfl⟩
  obtain ⟨p₁, hvector⟩ : ∃ p₁, (Parcel.writeUInt32Vector (v.sequences.map .ofNat)).orFail
      (FlushFailure.code .binder) p₀ = (.ok (), p₁) := ⟨_, rfl⟩
  unfold Channel.writeFlushVectors
  rw [Coded.bind_ok htoken, if_neg (by simp [List.length_pos_iff.mp (Nat.zero_lt_of_lt hj), hmax]),
    Coded.bind_ok hvector]
  exact writeFlushEntries_faults hsized hj hfits hwrong (Nat.zero_le j) (by omega) p₁

end Wire

namespace FlushBatch

/-- Whatever the producer and whatever the channel to it, and whether there is one. -/
structure AlwaysRight (b : FlushBatch) : Prop where
  locally : b.LocallyRight
  remotely : ∀ (P F : Type) [Parcel P] (fifo : VectorFifo P F) (channel : Channel P)
    (fenceOf : Int32 → SyncFence) (s : BufferQueueProducer) (env : ℕ → FlushEnv),
      channel.Delivers fifo → Reachable s.bufferQueue →
        b.Right (b.flush (channel.flushBuffers fenceOf · s env) s)

theorem right_of_turnedAway {b : FlushBatch} (hv : b.vectors = none)
    (call : FlushVectors → FlushOutcome) (s : BufferQueueProducer) : b.Right (b.flush call s) := by
  unfold flush
  rw [hv]
  exact right_of_code nofun

/-- When a batch flush reads nothing that is not there and turns vectors of different lengths away:
the surface has done so, or what it passes on is proper. -/
theorem batch_flush_stays_inside (b : FlushBatch) :
    b.AlwaysRight ↔ ∀ v, b.vectors = some v → v.Proper := by
  constructor
  · rintro ⟨hlocal, hremote⟩ v hv
    have h := passes_of_vectors hv
    refine ⟨hlocal.lengths hv, fun j hj hfits => ?_, hlocal.flushed hv⟩
    by_contra hwrong
    obtain ⟨fault, p, hwrite⟩ := writeFlushVectors_faults h.toSized h.max hj hfits hwrong
    obtain ⟨ret, hret, -⟩ := hremote Wire WireFile Wire.vectorFifo closedChannel (fun _ => invalidFence)
      (.start (.start {})) FlushVectors.calmEnv closedChannel_delivers ⟨{}, [], .nil⟩
    unfold flush Channel.flushBuffers at hret
    rw [hv] at hret
    dsimp only at hret
    rw [hwrite] at hret
    cases hret
  · intro hproper
    cases hv : b.vectors with
    | none =>
      exact ⟨fun s env _ => right_of_turnedAway hv _ s,
        fun P F _ fifo channel fenceOf s env _ _ => right_of_turnedAway hv _ s⟩
    | some v =>
      have h := passes_of_vectors hv
      refine ⟨fun s env hreach => ?_, fun P F _ fifo channel fenceOf s env hdelivers hreach => ?_⟩
      · unfold flush
        rw [hv]
        exact h.right_flushVectors (hproper v hv) hreach.fault env
      · unfold flush
        rw [hv]
        exact h.right_flushBuffers (hproper v hv) hdelivers hreach.fault env

def withoutConfig : FlushBatch where
  buffers := [some (sampleBuffer 1)]
  fences := [some invalidFence]
  configs := []
  configsFit _ h := nomatch h
  bedataMade buffer hbuffer d hd := by
    obtain rfl : buffer = sampleBuffer 1 := Option.some.inj (List.mem_singleton.mp hbuffer)
    obtain rfl : ∅ = d := Option.some.inj hd
    exact ⟨[], .nil⟩

/-- The surface lets the batch pass, and the producer reads `configs[0]`. -/
theorem missing_config_is_read : ¬ ∀ b : FlushBatch, b.AlwaysRight := by
  intro h
  obtain ⟨ret, hret, -⟩ := (h withoutConfig).locally (.start (.start {})) FlushVectors.calmEnv
    ⟨{}, [], .nil⟩
  have hfault : (withoutConfig.flush ((BufferQueueProducer.start (.start {})).flushVectors ·
      FlushVectors.calmEnv) (.start (.start {}))).ret = .error .outOfBounds := rfl
  rw [hfault] at hret
  cases hret

end FlushBatch

end GraphicSurface
