import Mathlib.Tactic

/-! Parcels: typed reads and writes that may fail. A value of `P` is a parcel together with the
descriptor table of the process that uses it. The operations are parameters; `Fifo` states what a
codec relies on, namely that what was written is read back in order. -/

namespace Parcels

/-- A computation on a parcel that ends with a value or an error. -/
def Coded (E P α : Type) := P → Except E α × P

namespace Coded

variable {E E' P α β : Type}

instance : Monad (Coded E P) where
  pure a := fun p => (.ok a, p)
  bind m f := fun p =>
    match m p with
    | (.ok a, p) => f a p
    | (.error e, p) => (.error e, p)

def fail (e : E) : Coded E P α := fun p => (.error e, p)

def orFail (e : E') (m : Coded E P α) : Coded E' P α := fun p =>
  match m p with
  | (.ok a, p) => (.ok a, p)
  | (.error _, p) => (.error e, p)

/-- The same computation for a caller that has its own name for each error. -/
def mapError (g : E → E') (m : Coded E P α) : Coded E' P α := fun p =>
  match m p with
  | (.ok a, p) => (.ok a, p)
  | (.error e, p) => (.error (g e), p)

/-- Whether the computation ended well, for a caller that goes on in any case. -/
def attempt (m : Coded E P α) : Coded E' P Bool := fun p =>
  match m p with
  | (.ok _, p) => (.ok true, p)
  | (.error _, p) => (.ok false, p)

theorem eq_of_fst {m : Coded E P α} {p : P} {result : Except E α} (h : (m p).1 = result) :
    m p = (result, (m p).2) :=
  Prod.ext h rfl

theorem bind_ok {m : Coded E P α} {p p' : P} {a : α} (h : m p = (.ok a, p')) (f : α → Coded E P β) :
    (m >>= f) p = f a p' := by
  change (match m p with | (.ok a, p) => f a p | (.error e, p) => (.error e, p)) = _
  rw [h]

theorem bind_error {m : Coded E P α} {p p' : P} {e : E} (h : m p = (.error e, p'))
    (f : α → Coded E P β) : (m >>= f) p = (.error e, p') := by
  change (match m p with | (.ok a, p) => f a p | (.error e, p) => (.error e, p)) = _
  rw [h]

/-- What a sequence that ended well did: its first part ended well, and then the second. -/
theorem of_bind_ok {m : Coded E P α} {f : α → Coded E P β} {p p' : P} {b : β}
    (h : (m >>= f) p = (.ok b, p')) : ∃ a p₁, m p = (.ok a, p₁) ∧ f a p₁ = (.ok b, p') := by
  change (match m p with | (.ok a, p) => f a p | (.error e, p) => (.error e, p)) = _ at h
  split at h
  · rename_i a p₁ hm
    exact ⟨a, p₁, hm, h⟩
  · cases h

theorem of_orFail_ok {e : E'} {m : Coded E P α} {p p' : P} {a : α}
    (h : m.orFail e p = (.ok a, p')) : m p = (.ok a, p') := by
  unfold orFail at h
  split at h
  · rename_i a₁ p₁ hm
    obtain ⟨ha, hp⟩ := Prod.mk.inj h
    rw [hm, Except.ok.inj ha, hp]
  · cases h

theorem orFail_ok {e : E'} {m : Coded E P α} {p p' : P} {a : α} (h : m p = (.ok a, p')) :
    m.orFail e p = (.ok a, p') := by
  unfold orFail
  rw [h]

theorem of_mapError_ok {g : E → E'} {m : Coded E P α} {p p' : P} {a : α}
    (h : m.mapError g p = (.ok a, p')) : m p = (.ok a, p') := by
  unfold mapError at h
  split at h
  · rename_i a₁ p₁ hm
    obtain ⟨ha, hp⟩ := Prod.mk.inj h
    rw [hm, Except.ok.inj ha, hp]
  · cases h

theorem mapError_ok {g : E → E'} {m : Coded E P α} {p p' : P} {a : α} (h : m p = (.ok a, p')) :
    m.mapError g p = (.ok a, p') := by
  unfold mapError
  rw [h]

theorem attempt_ok {m : Coded E P α} {p p' : P} {a : α} (h : m p = (.ok a, p')) :
    (m.attempt : Coded E' P Bool) p = (.ok true, p') := by
  unfold attempt
  rw [h]

/-- What is known of every error that the computation ends with. -/
def FailsAs (Q : E → Prop) (m : Coded E P α) : Prop := ∀ p e p', m p = (.error e, p') → Q e

theorem FailsAs.pure (Q : E → Prop) (a : α) : FailsAs Q (Pure.pure a : Coded E P α) := by
  intro p e p' h
  cases (Prod.mk.inj h).1

theorem FailsAs.fail {Q : E → Prop} {e : E} (he : Q e) : FailsAs Q (Coded.fail e : Coded E P α) := by
  intro p e' p' h
  exact Except.error.inj (Prod.mk.inj h).1 ▸ he

theorem FailsAs.orFail {Q : E' → Prop} {e : E'} (he : Q e) (m : Coded E P α) :
    FailsAs Q (m.orFail e) := by
  intro p e' p' h
  unfold Coded.orFail at h
  split at h
  · cases (Prod.mk.inj h).1
  · exact Except.error.inj (Prod.mk.inj h).1 ▸ he

theorem FailsAs.mapError {Q : E → Prop} {Q' : E' → Prop} {g : E → E'} {m : Coded E P α}
    (h : FailsAs Q m) (hg : ∀ e, Q e → Q' (g e)) : FailsAs Q' (m.mapError g) := by
  intro p e' p' hrun
  unfold Coded.mapError at hrun
  split at hrun
  · cases (Prod.mk.inj hrun).1
  · rename_i e p₁ hm
    exact Except.error.inj (Prod.mk.inj hrun).1 ▸ hg e (h p e p₁ hm)

theorem FailsAs.attempt (Q : E' → Prop) (m : Coded E P α) :
    FailsAs Q (m.attempt : Coded E' P Bool) := by
  intro p e' p' h
  unfold Coded.attempt at h
  split at h <;> cases (Prod.mk.inj h).1

theorem FailsAs.bind {Q : E → Prop} {m : Coded E P α} {f : α → Coded E P β} (h : FailsAs Q m)
    (h' : ∀ a, FailsAs Q (f a)) : FailsAs Q (m >>= f) := by
  intro p e p' hrun
  change (match m p with | (.ok a, p) => f a p | (.error e, p) => (.error e, p)) = _ at hrun
  split at hrun
  · rename_i a p₁ _
    exact h' a p₁ e p' hrun
  · rename_i e₁ p₁ hm
    obtain ⟨herror, -⟩ := Prod.mk.inj hrun
    exact Except.error.inj herror ▸ h p e₁ p₁ hm

/-- The only error that the computation ends with. -/
def FailsWith (e : E) (m : Coded E P α) : Prop := ∀ p e' p', m p = (.error e', p') → e' = e

theorem FailsWith.pure (e : E) (a : α) : FailsWith e (Pure.pure a : Coded E P α) :=
  FailsAs.pure (· = e) a

theorem FailsWith.orFail (e : E') (m : Coded E P α) : FailsWith e (m.orFail e) :=
  FailsAs.orFail (Q := (· = e)) rfl m

theorem FailsWith.bind {e : E} {m : Coded E P α} {f : α → Coded E P β} (h : FailsWith e m)
    (h' : ∀ a, FailsWith e (f a)) : FailsWith e (m >>= f) :=
  FailsAs.bind (Q := (· = e)) h h'

theorem FailsWith.forM {e : E} {step : β → Coded E P Unit} {xs : List β}
    (h : ∀ x ∈ xs, FailsWith e (step x)) : FailsWith e (xs.forM step) := by
  induction xs with
  | nil => exact .pure e ()
  | cons x xs ih =>
    exact (h x List.mem_cons_self).bind fun _ => ih fun y hy => h y (List.mem_cons_of_mem x hy)

end Coded

/-- The typed accesses of a parcel, and what the kernel says about a descriptor. -/
class Parcel (P : Type) where
  writeBool : Bool → Coded Unit P Unit
  readBool : Coded Unit P Bool
  writeInt32 : Int32 → Coded Unit P Unit
  readInt32 : Coded Unit P Int32
  writeUint32 : UInt32 → Coded Unit P Unit
  readUint32 : Coded Unit P UInt32
  writeInt64 : Int64 → Coded Unit P Unit
  readInt64 : Coded Unit P Int64
  writeUint64 : UInt64 → Coded Unit P Unit
  readUint64 : Coded Unit P UInt64
  writeDouble : UInt64 → Coded Unit P Unit
  readDouble : Coded Unit P UInt64
  writeString : String → Coded Unit P Unit
  readString : Coded Unit P String
  writeUInt32Vector : List UInt32 → Coded Unit P Unit
  readUInt32Vector : Coded Unit P (List UInt32)
  /-- The parcel keeps a duplicate of its own. -/
  writeFileDescriptor : Int32 → Coded Unit P Unit
  /-- `-1` when there is no descriptor at this place. -/
  readFileDescriptor : P → Int32 × P
  /-- `lseek (fd, 0, SEEK_END)`. -/
  seekEnd : P → Int32 → Int

/-- What lies in a parcel. Signed and unsigned numbers of one width look alike. -/
inductive Word (F : Type)
  | bool (value : Bool)
  | word32 (bits : BitVec 32)
  | word64 (bits : BitVec 64)
  | string (value : String)
  | vector (values : List UInt32)
  | file (file : F)
deriving DecidableEq

/-- How a parcel shows its contents and its process's descriptors, each as the open file it
refers to. -/
structure View (P F : Type) where
  contents : P → List (Word F)
  fileOf : P → Int32 → Option F

namespace View

variable {P F E α β : Type} (view : View P F)

/-- Open descriptors stay what they are. -/
def Keeps (p p' : P) : Prop := ∀ fd file, view.fileOf p fd = some file → view.fileOf p' fd = some file

/-- When the write succeeds here it has appended these words. -/
def WritesAt (p : P) (m : Coded E P Unit) (words : List (Word F)) : Prop :=
  ∀ p', m p = (.ok (), p') →
    view.contents p' = view.contents p ++ words ∧ view.fileOf p' = view.fileOf p

def Writes (m : Coded E P Unit) (words : List (Word F)) : Prop := ∀ p, view.WritesAt p m words

/-- The read succeeds on these words, takes exactly them and ends in `Q`. -/
def Reads (p : P) (m : Coded E P α) (words : List (Word F)) (Q : α → P → Prop) : Prop :=
  ∀ rest, view.contents p = words ++ rest →
    ∃ a p', m p = (.ok a, p') ∧ view.contents p' = rest ∧ view.Keeps p p' ∧ Q a p'

/-- What is left to read in `r` starts with what was written between `p` and `p'`. -/
def Sent (p p' r : P) (rest : List (Word F)) : Prop :=
  ∃ words, view.contents p' = view.contents p ++ words ∧ view.contents r = words ++ rest

variable {view}

theorem Keeps.refl (p : P) : view.Keeps p p := fun _ _ h => h

theorem Keeps.trans {p₁ p₂ p₃ : P} (h : view.Keeps p₁ p₂) (h' : view.Keeps p₂ p₃) :
    view.Keeps p₁ p₃ := fun fd file hfile => h' fd file (h fd file hfile)

theorem WritesAt.pure (p : P) : view.WritesAt p (pure () : Coded E P Unit) [] := by
  intro p' h
  obtain ⟨-, rfl⟩ := Prod.mk.inj h
  simp

theorem WritesAt.seq {p : P} {m m' : Coded E P Unit} {words words' : List (Word F)}
    (h : view.WritesAt p m words)
    (h' : ∀ p', view.fileOf p' = view.fileOf p → view.WritesAt p' m' words') :
    view.WritesAt p (m >>= fun _ => m') (words ++ words') := by
  intro p' hrun
  obtain ⟨_, p₁, hm, hm'⟩ := Coded.of_bind_ok hrun
  have hfirst := h p₁ hm
  have hsecond := h' p₁ hfirst.2 p' hm'
  refine ⟨?_, hsecond.2.trans hfirst.2⟩
  rw [hsecond.1, hfirst.1, List.append_assoc]

theorem Writes.pure : view.Writes (pure () : Coded E P Unit) [] := WritesAt.pure

theorem Writes.seq {m m' : Coded E P Unit} {words words' : List (Word F)}
    (h : view.Writes m words) (h' : view.Writes m' words') :
    view.Writes (m >>= fun _ => m') (words ++ words') :=
  fun p => (h p).seq fun p' _ => h' p'

theorem Writes.orFail {E' : Type} {m : Coded E P Unit} {words : List (Word F)}
    (h : view.Writes m words) (e : E') : view.Writes (m.orFail e) words :=
  fun p p' hrun => h p p' (Coded.of_orFail_ok hrun)

/-- A loop writes the words of its rounds in order. -/
theorem Writes.forM {step : β → Coded E P Unit} {words : β → List (Word F)} {xs : List β}
    (h : ∀ x ∈ xs, view.Writes (step x) (words x)) :
    view.Writes (xs.forM step) (xs.flatMap words) := by
  induction xs with
  | nil => exact Writes.pure
  | cons x xs ih =>
    rw [List.flatMap_cons]
    exact (h x List.mem_cons_self).seq (ih fun y hy => h y (List.mem_cons_of_mem x hy))

theorem WritesAt.sent {m : Coded E P Unit} {words rest : List (Word F)} {p p' r : P}
    (h : view.WritesAt p m words) (hm : m p = (.ok (), p')) (hsent : view.Sent p p' r rest) :
    view.contents r = words ++ rest := by
  obtain ⟨sent, hwritten, hr⟩ := hsent
  rw [(h p' hm).1] at hwritten
  rw [hr, List.append_cancel_left hwritten]

theorem Reads.pure {p : P} {a : α} {Q : α → P → Prop} (h : Q a p) :
    view.Reads p (pure a : Coded E P α) [] Q :=
  fun _ hp => ⟨a, p, rfl, hp, .refl p, h⟩

theorem Reads.bind {p : P} {m : Coded E P α} {f : α → Coded E P β} {words words' : List (Word F)}
    {Q : α → P → Prop} {R : β → P → Prop} (h : view.Reads p m words Q)
    (h' : ∀ a p', view.Keeps p p' → Q a p' → view.Reads p' (f a) words' R) :
    view.Reads p (m >>= f) (words ++ words') R := by
  intro rest hp
  obtain ⟨a, p₁, hm, hcontents, hkeeps, hQ⟩ := h (words' ++ rest) (by rw [hp, List.append_assoc])
  obtain ⟨b, p₂, hf, hrest, hkeeps', hR⟩ := h' a p₁ hkeeps hQ rest hcontents
  exact ⟨b, p₂, by rw [Coded.bind_ok hm, hf], hrest, hkeeps.trans hkeeps', hR⟩

/-- The common case: the value read is known and the descriptors do not matter. -/
theorem Reads.next {p : P} {m : Coded E P α} {f : α → Coded E P β} {words words' : List (Word F)}
    {a : α} {R : β → P → Prop} (h : view.Reads p m words fun b _ => b = a)
    (h' : ∀ p', view.Keeps p p' → view.Reads p' (f a) words' R) :
    view.Reads p (m >>= f) (words ++ words') R :=
  h.bind fun _ p' hkeeps hb => hb ▸ h' p' hkeeps

/-- The end of a sequence: nothing more is read. -/
theorem Reads.finish {p : P} {m : Coded E P α} {f : α → Coded E P β} {words : List (Word F)}
    {Q : α → P → Prop} {R : β → P → Prop} (h : view.Reads p m words Q)
    (h' : ∀ a p', view.Keeps p p' → Q a p' → view.Reads p' (f a) [] R) :
    view.Reads p (m >>= f) words R := by
  have hbind := h.bind h'
  rwa [List.append_nil] at hbind

theorem Reads.last {p : P} {m : Coded E P α} {g : α → β} {words : List (Word F)}
    {Q : α → P → Prop} {R : β → P → Prop} (h : view.Reads p m words Q)
    (h' : ∀ a p', view.Keeps p p' → Q a p' → R (g a) p') :
    view.Reads p (m >>= fun a => Pure.pure (g a)) words R :=
  h.finish fun a p' hkeeps hQ => .pure (h' a p' hkeeps hQ)

theorem Reads.mono {p : P} {m : Coded E P α} {words : List (Word F)} {Q R : α → P → Prop}
    (h : view.Reads p m words Q) (hQR : ∀ a p', view.Keeps p p' → Q a p' → R a p') :
    view.Reads p m words R := by
  intro rest hp
  obtain ⟨a, p', hm, hrest, hkeeps, hQ⟩ := h rest hp
  exact ⟨a, p', hm, hrest, hkeeps, hQR a p' hkeeps hQ⟩

theorem Reads.orFail {E' : Type} {p : P} {m : Coded E P α} {words : List (Word F)}
    {Q : α → P → Prop} (h : view.Reads p m words Q) (e : E') :
    view.Reads p (m.orFail e) words Q := by
  intro rest hp
  obtain ⟨a, p', hm, hrest⟩ := h rest hp
  exact ⟨a, p', Coded.orFail_ok hm, hrest⟩

end View

/-- The documented behaviour of the accesses: what one write appends is what the read of the same
width takes, a descriptor comes back as a new one for the same open file, and the end of a file is
at its length. -/
structure Fifo (P F : Type) [Parcel P] extends View P F where
  fileLength : F → Option ℕ
  write_bool : ∀ v, toView.Writes (Parcel.writeBool v) [.bool v]
  read_bool : ∀ p v, toView.Reads p Parcel.readBool [.bool v] fun b _ => b = v
  write_int32 : ∀ v, toView.Writes (Parcel.writeInt32 v) [.word32 v.toBitVec]
  read_int32 : ∀ p bits, toView.Reads p Parcel.readInt32 [.word32 bits] fun v _ => v.toBitVec = bits
  write_uint32 : ∀ v, toView.Writes (Parcel.writeUint32 v) [.word32 v.toBitVec]
  read_uint32 : ∀ p bits, toView.Reads p Parcel.readUint32 [.word32 bits] fun v _ => v.toBitVec = bits
  write_int64 : ∀ v, toView.Writes (Parcel.writeInt64 v) [.word64 v.toBitVec]
  read_int64 : ∀ p bits, toView.Reads p Parcel.readInt64 [.word64 bits] fun v _ => v.toBitVec = bits
  write_uint64 : ∀ v, toView.Writes (Parcel.writeUint64 v) [.word64 v.toBitVec]
  read_uint64 : ∀ p bits, toView.Reads p Parcel.readUint64 [.word64 bits] fun v _ => v.toBitVec = bits
  write_double : ∀ v, toView.Writes (Parcel.writeDouble v) [.word64 v.toBitVec]
  read_double : ∀ p bits, toView.Reads p Parcel.readDouble [.word64 bits] fun v _ => v.toBitVec = bits
  write_string : ∀ v, toView.Writes (Parcel.writeString v) [.string v]
  read_string : ∀ p v, toView.Reads p Parcel.readString [.string v] fun s _ => s = v
  write_file : ∀ fd p p', Parcel.writeFileDescriptor fd p = (.ok (), p') →
    ∃ file, toView.fileOf p fd = some file ∧
      toView.contents p' = toView.contents p ++ [.file file] ∧ toView.fileOf p' = toView.fileOf p
  read_file : ∀ p file rest, toView.contents p = .file file :: rest →
    ∃ fd p', Parcel.readFileDescriptor p = (fd, p') ∧ 0 ≤ fd ∧ toView.fileOf p fd = none ∧
      toView.fileOf p' fd = some file ∧ toView.contents p' = rest ∧ toView.Keeps p p'
  seek_end : ∀ p fd file n, toView.fileOf p fd = some file → fileLength file = some n →
    Parcel.seekEnd p fd = n

namespace Fifo

variable {P F : Type} [Parcel P] (fifo : Fifo P F)

theorem reads_int32 (p : P) (v : Int32) :
    fifo.Reads p Parcel.readInt32 [.word32 v.toBitVec] fun b _ => b = v :=
  (fifo.read_int32 p v.toBitVec).mono fun _ _ _ h => Int32.toBitVec_inj.mp h

theorem reads_uint32 (p : P) (v : UInt32) :
    fifo.Reads p Parcel.readUint32 [.word32 v.toBitVec] fun b _ => b = v :=
  (fifo.read_uint32 p v.toBitVec).mono fun _ _ _ h => UInt32.toBitVec_inj.mp h

theorem reads_int64 (p : P) (v : Int64) :
    fifo.Reads p Parcel.readInt64 [.word64 v.toBitVec] fun b _ => b = v :=
  (fifo.read_int64 p v.toBitVec).mono fun _ _ _ h => Int64.toBitVec_inj.mp h

theorem reads_uint64 (p : P) (v : UInt64) :
    fifo.Reads p Parcel.readUint64 [.word64 v.toBitVec] fun b _ => b = v :=
  (fifo.read_uint64 p v.toBitVec).mono fun _ _ _ h => UInt64.toBitVec_inj.mp h

theorem reads_double (p : P) (v : UInt64) :
    fifo.Reads p Parcel.readDouble [.word64 v.toBitVec] fun b _ => b = v :=
  (fifo.read_double p v.toBitVec).mono fun _ _ _ h => UInt64.toBitVec_inj.mp h

end Fifo

structure VectorFifo (P F : Type) [Parcel P] extends Fifo P F where
  write_vector : ∀ v, toView.Writes (Parcel.writeUInt32Vector v) [.vector v]
  read_vector : ∀ p v, toView.Reads p Parcel.readUInt32Vector [.vector v] fun b _ => b = v

/-- What was written between `p` and `p'` is read with a result in `Q`, wherever it lies. -/
def Fifo.Carried {P F E α : Type} [Parcel P] (fifo : Fifo P F) (p p' : P) (m : Coded E P α)
    (Q : α → Prop) : Prop :=
  ∃ words, fifo.contents p' = fifo.contents p ++ words ∧ fifo.fileOf p' = fifo.fileOf p ∧
    ∀ r, fifo.Reads r m words fun a _ => Q a

/-! A parcel of words, in which every access behaves as documented. -/

structure WireFile where
  node : ℕ
  length : ℕ
deriving DecidableEq

def Word.isFile {F : Type} : Word F → Bool
  | .file _ => true
  | _ => false

/-- The words still to be read and the open files, where a descriptor is the position of its file.
There is always a number left for each descriptor in the parcel. -/
structure Wire where
  words : List (Word WireFile)
  files : List WireFile
  room : words.countP Word.isFile + files.length < 2 ^ 31
deriving DecidableEq

namespace Wire

variable {α : Type}

def push (word : Word WireFile) (h : word.isFile = false) : Coded Unit Wire Unit := fun p =>
  (.ok (), ⟨p.words ++ [word], p.files, by
    rw [List.countP_append, List.countP_cons, h]; exact p.room⟩)

def pushFile (file : WireFile) : Coded Unit Wire Unit := fun p =>
  if h : (p.words ++ [Word.file file]).countP Word.isFile + p.files.length < 2 ^ 31 then
    (.ok (), ⟨p.words ++ [Word.file file], p.files, h⟩)
  else (.error (), p)

theorem room_tail {word : Word WireFile} {words : List (Word WireFile)} {files : List WireFile}
    (h : (word :: words).countP Word.isFile + files.length < 2 ^ 31) :
    words.countP Word.isFile + files.length < 2 ^ 31 := by
  rw [List.countP_cons] at h
  omega

def pop (read : Word WireFile → Option α) : Coded Unit Wire α
  | ⟨[], files, room⟩ => (.error (), ⟨[], files, room⟩)
  | ⟨word :: words, files, room⟩ =>
    match read word with
    | some a => (.ok a, ⟨words, files, room_tail room⟩)
    | none => (.error (), ⟨word :: words, files, room⟩)

def fileOf (p : Wire) (fd : Int32) : Option WireFile :=
  if 0 ≤ fd.toInt then p.files[fd.toInt.toNat]? else none

def readWord32 : Word WireFile → Option (BitVec 32)
  | .word32 bits => some bits
  | _ => none

def readWord64 : Word WireFile → Option (BitVec 64)
  | .word64 bits => some bits
  | _ => none

def readBoolWord : Word WireFile → Option Bool
  | .bool value => some value
  | _ => none

def readStringWord : Word WireFile → Option String
  | .string value => some value
  | _ => none

def openFile : Wire → Int32 × Wire
  | ⟨.file file :: words, files, room⟩ =>
    (.ofNat files.length, ⟨words, files ++ [file], by
      rw [List.countP_cons_of_pos rfl] at room
      rw [List.length_append, List.length_singleton]
      omega⟩)
  | p => (-1, p)

instance : Parcel Wire where
  writeBool v := push (.bool v) rfl
  readBool := pop readBoolWord
  writeInt32 v := push (.word32 v.toBitVec) rfl
  readInt32 := pop fun w => (readWord32 w).map .ofBitVec
  writeUint32 v := push (.word32 v.toBitVec) rfl
  readUint32 := pop fun w => (readWord32 w).map .ofBitVec
  writeInt64 v := push (.word64 v.toBitVec) rfl
  readInt64 := pop fun w => (readWord64 w).map .ofBitVec
  writeUint64 v := push (.word64 v.toBitVec) rfl
  readUint64 := pop fun w => (readWord64 w).map .ofBitVec
  writeDouble v := push (.word64 v.toBitVec) rfl
  readDouble := pop fun w => (readWord64 w).map .ofBitVec
  writeString v := push (.string v) rfl
  readString := pop readStringWord
  writeUInt32Vector v := push (.vector v) rfl
  readUInt32Vector := pop fun | .vector v => some v | _ => none
  writeFileDescriptor fd := fun p =>
    match p.fileOf fd with
    | some file => pushFile file p
    | none => (.error (), p)
  readFileDescriptor := openFile
  seekEnd p fd := ((p.fileOf fd).map fun file => (file.length : Int)).getD (-1)

def view : View Wire WireFile := ⟨words, fileOf⟩

theorem push_writes (word : Word WireFile) (hword : word.isFile = false) :
    view.Writes (push word hword) [word] := by
  intro p p' h
  obtain ⟨-, rfl⟩ := Prod.mk.inj h
  exact ⟨rfl, rfl⟩

theorem pushFile_writes (file : WireFile) : view.Writes (pushFile file) [.file file] := by
  intro p p' h
  unfold pushFile at h
  split at h
  · obtain ⟨-, rfl⟩ := Prod.mk.inj h
    exact ⟨rfl, rfl⟩
  · cases h

theorem pop_reads (read : Word WireFile → Option α) (word : Word WireFile) {a : α}
    (h : read word = some a) (p : Wire) : view.Reads p (pop read) [word] fun b _ => b = a := by
  intro rest hp
  obtain ⟨words, files, room⟩ := p
  obtain rfl : words = word :: rest := hp
  refine ⟨a, ⟨rest, files, room_tail room⟩, ?_, rfl, fun _ _ hfile => hfile, rfl⟩
  simp only [pop, h]

theorem pop_word32 (g : BitVec 32 → α) (p : Wire) (bits : BitVec 32) :
    view.Reads p (pop fun w => (readWord32 w).map g) [.word32 bits] fun a _ => a = g bits :=
  pop_reads (fun w => (readWord32 w).map g) (.word32 bits) rfl p

theorem pop_word64 (g : BitVec 64 → α) (p : Wire) (bits : BitVec 64) :
    view.Reads p (pop fun w => (readWord64 w).map g) [.word64 bits] fun a _ => a = g bits :=
  pop_reads (fun w => (readWord64 w).map g) (.word64 bits) rfl p

theorem openFile_reads (p : Wire) (file : WireFile) (rest : List (Word WireFile))
    (hp : p.words = .file file :: rest) :
    ∃ fd p', openFile p = (fd, p') ∧ 0 ≤ fd ∧ p.fileOf fd = none ∧ p'.fileOf fd = some file ∧
      p'.words = rest ∧ view.Keeps p p' := by
  obtain ⟨words, files, room⟩ := p
  obtain rfl : words = .file file :: rest := hp
  have hlength : files.length < 2 ^ 31 := lt_of_le_of_lt (Nat.le_add_left _ _) room
  have hfd : (Int32.ofNat files.length).toInt = files.length := Int32.toInt_ofNat_of_lt hlength
  refine ⟨.ofNat files.length, _, rfl, ?_, ?_, ?_, rfl, ?_⟩
  · rw [Int32.le_iff_toInt_le, hfd]
    exact Int.natCast_nonneg _
  · simp [fileOf, hfd]
  · simp [fileOf, hfd]
  · intro fd f hf
    simp only [view, fileOf] at hf ⊢
    split_ifs at hf ⊢
    rw [List.getElem?_append_left (List.getElem?_eq_some_iff.mp hf).choose]
    exact hf

def fifo : Fifo Wire WireFile where
  toView := view
  fileLength file := some file.length
  write_bool _ := push_writes _ rfl
  read_bool p v := pop_reads readBoolWord (.bool v) rfl p
  write_int32 _ := push_writes _ rfl
  read_int32 p bits := (pop_word32 _ p bits).mono fun _ _ _ h => congrArg _ h
  write_uint32 _ := push_writes _ rfl
  read_uint32 p bits := (pop_word32 _ p bits).mono fun _ _ _ h => congrArg _ h
  write_int64 _ := push_writes _ rfl
  read_int64 p bits := (pop_word64 _ p bits).mono fun _ _ _ h => congrArg _ h
  write_uint64 _ := push_writes _ rfl
  read_uint64 p bits := (pop_word64 _ p bits).mono fun _ _ _ h => congrArg _ h
  write_double _ := push_writes _ rfl
  read_double p bits := (pop_word64 _ p bits).mono fun _ _ _ h => congrArg _ h
  write_string _ := push_writes _ rfl
  read_string p v := pop_reads readStringWord (.string v) rfl p
  write_file fd p p' h := by
    change (match p.fileOf fd with
      | some file => pushFile file p
      | none => (.error (), p)) = _ at h
    split at h
    · rename_i file hfile
      exact ⟨file, hfile, pushFile_writes file p p' h⟩
    · cases h
  read_file p file rest hp := openFile_reads p file rest hp
  seek_end p fd file n hfile hlength := by
    have hfile : p.fileOf fd = some file := hfile
    change ((p.fileOf fd).map fun file => (file.length : Int)).getD (-1) = n
    rw [hfile, ← Option.some.inj hlength]
    rfl

def vectorFifo : VectorFifo Wire WireFile where
  toFifo := fifo
  write_vector _ := push_writes _ rfl
  read_vector p v := pop_reads (fun | .vector v => some v | _ => none) (.vector v) rfl p

end Wire

end Parcels
