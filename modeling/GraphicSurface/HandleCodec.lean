import GraphicSurface.ConfigCodec

/-! Buffer handles in a parcel. A handle is one block with two counts and one array, reserved
descriptors first; the reader has to give back every descriptor it has taken when it gives up. -/

namespace GraphicSurface

open Parcels

def bufferHandleReserveMaxSize : UInt32 := 1024

structure BufferHandle where
  fd : Int32
  width : Int32
  stride : Int32
  height : Int32
  size : Int32
  format : Int32
  usage : UInt64
  phyAddr : UInt64
  reserveFds : UInt32
  reserveInts : UInt32
  reserve : List Int32
  reserve_length : reserve.length = reserveFds.toNat + reserveInts.toNat
deriving DecidableEq

namespace BufferHandle

def setFd (handle : BufferHandle) (fd : Int32) : BufferHandle := { handle with fd := fd }

def setReserve (handle : BufferHandle) (i : ℕ) (value : Int32) : BufferHandle :=
  { handle with
    reserve := handle.reserve.set i value
    reserve_length := (List.length_set ..).trans handle.reserve_length }

/-- `reserve[0 .. reserveFds)`. -/
def fds (handle : BufferHandle) : List Int32 := handle.reserve.take handle.reserveFds.toNat

/-- `reserve[reserveFds .. reserveFds + reserveInts)`. -/
def ints (handle : BufferHandle) : List Int32 := handle.reserve.drop handle.reserveFds.toNat

/-- The descriptors that a handle holds, in the order in which `FreeBufferHandle` closes them. -/
def descriptors (handle : BufferHandle) : List Int32 := (handle.fd :: handle.fds).filter (0 ≤ ·)

/-- The scalar fields of a handle that are sent as they are. -/
def numbers (handle : BufferHandle) :
    Int32 × Int32 × Int32 × Int32 × Int32 × UInt64 × UInt64 × UInt32 × UInt32 :=
  (handle.width, handle.stride, handle.height, handle.size, handle.format, handle.usage,
    handle.phyAddr, handle.reserveFds, handle.reserveInts)

/-- `SurfaceBufferImpl::GetSize`; the size goes from a signed to an unsigned number. -/
def getSize : Option BufferHandle → UInt32
  | none => 0
  | some handle => handle.size.toUInt32

end BufferHandle

/-- `heap` is whether `malloc` succeeds. -/
def allocateBufferHandle (heap : Bool) (reserveFds reserveInts : UInt32) : Option BufferHandle :=
  if bufferHandleReserveMaxSize < reserveFds ∨ bufferHandleReserveMaxSize < reserveInts then none
  else if heap then
    some {
      fd := -1, width := 0, stride := 0, height := 0, size := 0, format := 0, usage := 0, phyAddr := 0
      reserveFds := reserveFds
      reserveInts := reserveInts
      reserve := List.replicate reserveFds.toNat (-1) ++ List.replicate reserveInts.toNat 0
      reserve_length := by simp }
  else none

/-- The parcel, the descriptors taken from it, the descriptors that were closed and what `lseek`
reported for the descriptor of the buffer. -/
structure Ledger (P : Type) where
  parcel : P
  took : List Int32
  closed : List Int32
  fdSize : Option Int

section Codec

variable {P : Type} [Parcel P]

open Parcel

def writeScalars (handle : BufferHandle) : Coded Unit P Unit := do
  writeUint32 handle.reserveFds
  writeUint32 handle.reserveInts
  writeInt32 handle.width
  writeInt32 handle.stride
  writeInt32 handle.height
  writeInt32 handle.size
  writeInt32 handle.format
  writeInt64 handle.usage.toInt64
  writeUint64 handle.phyAddr

def writeBufferHandle (handle : BufferHandle) : Coded Unit P Unit := do
  writeScalars handle
  writeBool (decide (0 ≤ handle.fd))
  (if 0 ≤ handle.fd then writeFileDescriptor handle.fd else pure ())
  handle.fds.forM writeFileDescriptor
  handle.ints.forM writeInt32

namespace Ledger

variable {α : Type}

def start (p : P) : Ledger P := ⟨p, [], [], none⟩

def read (m : Coded Unit P α) : Coded Unit (Ledger P) α := fun s =>
  match m s.parcel with
  | (.ok a, p) => (.ok a, { s with parcel := p })
  | (.error e, p) => (.error e, { s with parcel := p })

/-- `readSafeFdFunc ? readSafeFdFunc(parcel, readFdDefaultFunc) : parcel.ReadFileDescriptor()`. -/
def takeFd (readSafeFdFunc : Option (P → Int32 × P)) : Coded Unit (Ledger P) Int32 := fun s =>
  match readSafeFdFunc.getD readFileDescriptor s.parcel with
  | (fd, p) => (.ok fd, { s with parcel := p, took := s.took ++ [fd].filter (0 ≤ ·) })

def freeBufferHandle (handle : BufferHandle) (s : Ledger P) : Ledger P :=
  { s with closed := s.closed ++ handle.descriptors }

/-- `FreeBufferHandle(handle); return nullptr;`. -/
def giveUp (handle : BufferHandle) : Coded Unit (Ledger P) α := fun s =>
  (.error (), s.freeBufferHandle handle)

/-- A read after the handle was allocated: the handle is freed when it fails. -/
def orFree (handle : BufferHandle) (m : Coded Unit (Ledger P) α) : Coded Unit (Ledger P) α := fun s =>
  match m s with
  | (.ok a, s) => (.ok a, s)
  | (.error _, s) => giveUp handle s

end Ledger

open Ledger

def readScalars (handle : BufferHandle) : Coded Unit P BufferHandle := do
  let width ← readInt32
  let stride ← readInt32
  let height ← readInt32
  let size ← readInt32
  let format ← readInt32
  let usage ← readUint64
  let phyAddr ← readUint64
  pure { handle with
    width := width, stride := stride, height := height, size := size, format := format
    usage := usage, phyAddr := phyAddr }

def checkFdSize (handle : BufferHandle) : Coded Unit (Ledger P) BufferHandle := fun s =>
  let fdSize := seekEnd s.parcel handle.fd
  if fdSize < 0 ∨ fdSize < handle.size.toInt then giveUp handle { s with fdSize := some fdSize }
  else (.ok handle, { s with fdSize := some fdSize })

def readFd (readSafeFdFunc : Option (P → Int32 × P)) (handle : BufferHandle) :
    Coded Unit (Ledger P) BufferHandle := do
  let fd ← takeFd readSafeFdFunc
  if fd = -1 then giveUp (handle.setFd fd) else checkFdSize (handle.setFd fd)

/-- `n` more rounds of the loop over the reserved descriptors, from the round `i` on. -/
def readReserveFds (readSafeFdFunc : Option (P → Int32 × P)) :
    ℕ → ℕ → BufferHandle → Coded Unit (Ledger P) BufferHandle
  | 0, _, handle => pure handle
  | n + 1, i, handle => do
    let fd ← takeFd readSafeFdFunc
    if fd = -1 then giveUp (handle.setReserve i fd)
    else readReserveFds readSafeFdFunc n (i + 1) (handle.setReserve i fd)

def readReserveInts : ℕ → ℕ → BufferHandle → Coded Unit (Ledger P) BufferHandle
  | 0, _, handle => pure handle
  | n + 1, j, handle => do
    let value ← orFree handle (read readInt32)
    readReserveInts n (j + 1) (handle.setReserve (handle.reserveFds.toNat + j) value)

def readBufferHandle (heap : Bool) (readSafeFdFunc : Option (P → Int32 × P)) :
    Coded Unit (Ledger P) BufferHandle := do
  let reserveFds ← read readUint32
  let reserveInts ← read readUint32
  match allocateBufferHandle heap reserveFds reserveInts with
  | none => .fail ()
  | some handle =>
    let handle ← orFree handle (read (readScalars handle))
    let validFd ← orFree handle (read readBool)
    let handle ← (if validFd then readFd readSafeFdFunc handle else pure handle)
    let handle ← readReserveFds readSafeFdFunc handle.reserveFds.toNat 0 handle
    readReserveInts handle.reserveInts.toNat 0 handle

end Codec

namespace BufferHandle

theorem fds_length (handle : BufferHandle) : handle.fds.length = handle.reserveFds.toNat := by
  rw [fds, List.length_take, handle.reserve_length]
  omega

theorem length_setReserve (handle : BufferHandle) (i : ℕ) (value : Int32) :
    (handle.setReserve i value).reserve.length = handle.reserve.length :=
  List.length_set

theorem fds_setReserve (handle : BufferHandle) (i : ℕ) (value : Int32) :
    (handle.setReserve i value).fds = handle.fds.set i value :=
  List.take_set

theorem filter_replicate_invalid (n : ℕ) :
    (List.replicate n (-1 : Int32)).filter (0 ≤ ·) = [] := by
  rw [List.filter_replicate_of_neg (by decide)]

/-- The slots from `i` on are still empty. -/
def Blank (handle : BufferHandle) (i : ℕ) : Prop :=
  handle.fds = handle.fds.take i ++ List.replicate (handle.reserveFds.toNat - i) (-1)

theorem Blank.set {handle : BufferHandle} {i : ℕ} (h : handle.Blank i)
    (hi : i < handle.reserveFds.toNat) (fd : Int32) :
    (handle.setReserve i fd).fds = handle.fds.take i ++ fd ::
      List.replicate (handle.reserveFds.toNat - (i + 1)) (-1) := by
  have hlength : (handle.fds.take i).length = i := by
    rw [List.length_take, handle.fds_length]
    omega
  have hslots : handle.reserveFds.toNat - i = handle.reserveFds.toNat - (i + 1) + 1 := by omega
  rw [fds_setReserve, h, hslots, List.replicate_succ, List.set_append_right _ _ (by rw [hlength]), hlength,
    Nat.sub_self, List.set_cons_zero, List.take_append_of_le_length (by rw [hlength])]
  rw [List.take_take, Nat.min_self]

theorem Blank.next {handle : BufferHandle} {i : ℕ} (h : handle.Blank i)
    (hi : i < handle.reserveFds.toNat) (fd : Int32) : (handle.setReserve i fd).Blank (i + 1) := by
  have hlength : (handle.fds.take i ++ [fd]).length = i + 1 := by
    rw [List.length_append, List.length_take, handle.fds_length, List.length_singleton]
    omega
  have hset : (handle.setReserve i fd).fds = (handle.fds.take i ++ [fd]) ++
      List.replicate (handle.reserveFds.toNat - (i + 1)) (-1) := by
    rw [h.set hi fd, List.append_assoc, List.singleton_append]
  unfold Blank
  conv_rhs => rw [hset, List.take_append_of_le_length (le_of_eq hlength.symm), ← hlength, List.take_length]
  rw [hset, hlength]
  rfl

theorem Blank.descriptors_set {handle : BufferHandle} {i : ℕ} (h : handle.Blank i)
    (hi : i < handle.reserveFds.toNat) (fd : Int32) :
    (handle.setReserve i fd).descriptors = handle.descriptors ++ [fd].filter (0 ≤ ·) := by
  have hbefore : handle.descriptors = (handle.fd :: handle.fds.take i).filter (0 ≤ ·) := by
    rw [descriptors, h, ← List.cons_append, List.filter_append, filter_replicate_invalid,
      List.append_nil, ← h]
  have hafter : (handle.setReserve i fd).descriptors =
      ((handle.fd :: handle.fds.take i) ++ [fd] ++
        List.replicate (handle.reserveFds.toNat - (i + 1)) (-1)).filter (0 ≤ ·) := by
    rw [descriptors, h.set hi fd]
    simp [setReserve]
  rw [hafter, hbefore, List.filter_append, List.filter_append, filter_replicate_invalid,
    List.append_nil]

theorem descriptors_setReserve_int (handle : BufferHandle) (j : ℕ) (value : Int32) :
    (handle.setReserve (handle.reserveFds.toNat + j) value).descriptors = handle.descriptors := by
  have hfds : (handle.setReserve (handle.reserveFds.toNat + j) value).fds = handle.fds := by
    rw [fds_setReserve, List.set_eq_of_length_le]
    rw [handle.fds_length]
    exact Nat.le_add_right _ _
  rw [descriptors, descriptors, hfds]
  rfl

end BufferHandle

section Release

variable {P α β : Type}

/-- The descriptors taken so far are those that the handle holds, and none is closed. -/
def Ledger.Holds (s : Ledger P) (handle : BufferHandle) : Prop :=
  s.took = handle.descriptors ∧ s.closed = []

/-- The computation ends in `Q`, or with every descriptor taken closed again. -/
def Safe (m : Coded Unit (Ledger P) α) (s : Ledger P) (Q : α → Ledger P → Prop) : Prop :=
  (∀ a s', m s = (.ok a, s') → Q a s') ∧ ∀ s', m s = (.error (), s') → s'.closed = s'.took

theorem Safe.pure {s : Ledger P} {a : α} {Q : α → Ledger P → Prop} (h : Q a s) :
    Safe (pure a : Coded Unit (Ledger P) α) s Q := by
  refine ⟨fun b s' hrun => ?_, fun s' hrun => (by cases hrun)⟩
  obtain ⟨hb, rfl⟩ := Prod.mk.inj hrun
  exact Except.ok.inj hb ▸ h

theorem Safe.bind {m : Coded Unit (Ledger P) α} {f : α → Coded Unit (Ledger P) β} {s : Ledger P}
    {Q : α → Ledger P → Prop} {R : β → Ledger P → Prop} (h : Safe m s Q)
    (h' : ∀ a s', Q a s' → Safe (f a) s' R) : Safe (m >>= f) s R := by
  cases hm : m s with
  | mk result s₁ =>
    cases result with
    | ok a =>
      have hf := h' a s₁ (h.1 a s₁ hm)
      refine ⟨fun b s' hrun => hf.1 b s' ?_, fun s' hrun => hf.2 s' ?_⟩
      · rwa [Coded.bind_ok hm] at hrun
      · rwa [Coded.bind_ok hm] at hrun
    | error e =>
      have hrun' : (m >>= f) s = (.error e, s₁) := Coded.bind_error hm f
      refine ⟨fun b s' hrun => ?_, fun s' hrun => ?_⟩
      · rw [hrun'] at hrun
        cases hrun
      · rw [hrun'] at hrun
        obtain ⟨-, rfl⟩ := Prod.mk.inj hrun
        exact h.2 s₁ hm

theorem Safe.mono {m : Coded Unit (Ledger P) α} {s : Ledger P} {Q R : α → Ledger P → Prop}
    (h : Safe m s Q) (hQR : ∀ a s', Q a s' → R a s') : Safe m s R :=
  ⟨fun a s' hrun => hQR a s' (h.1 a s' hrun), h.2⟩

theorem Safe.giveUp {s : Ledger P} {handle : BufferHandle} (h : s.Holds handle)
    {Q : α → Ledger P → Prop} : Safe (Ledger.giveUp handle) s Q := by
  refine ⟨fun a s' hrun => (by cases hrun), fun s' hrun => ?_⟩
  obtain ⟨-, rfl⟩ := Prod.mk.inj hrun
  change s.closed ++ handle.descriptors = s.took
  rw [h.1, h.2, List.nil_append]

theorem read_ledger {m : Coded Unit P α} {s s' : Ledger P} {result : Except Unit α}
    (h : Ledger.read m s = (result, s')) :
    s'.took = s.took ∧ s'.closed = s.closed ∧ m s.parcel = (result, s'.parcel) := by
  unfold Ledger.read at h
  split at h
  all_goals
    rename_i hm
    obtain ⟨rfl, rfl⟩ := Prod.mk.inj h
    exact ⟨rfl, rfl, hm⟩

theorem Ledger.of_orFree_ok {handle : BufferHandle} {m : Coded Unit (Ledger P) α}
    {s s' : Ledger P} {a : α} (h : Ledger.orFree handle m s = (.ok a, s')) : m s = (.ok a, s') := by
  unfold Ledger.orFree at h
  split at h
  · rename_i hm
    obtain ⟨ha, rfl⟩ := Prod.mk.inj h
    rw [hm, Except.ok.inj ha]
  · cases h

theorem Ledger.fdSize_of_read {m : Coded Unit P α} {s s' : Ledger P}
    {result : Except Unit α} (h : Ledger.read m s = (result, s')) : s'.fdSize = s.fdSize := by
  unfold Ledger.read at h
  split at h
  all_goals
    obtain ⟨-, rfl⟩ := Prod.mk.inj h
    rfl

theorem Safe.read {m : Coded Unit P α} {s : Ledger P} (h : s.closed = s.took) :
    Safe (Ledger.read m) s fun _ s' => s'.took = s.took ∧ s'.closed = s.closed := by
  refine ⟨fun a s' hrun => ?_, fun s' hrun => ?_⟩
  · exact ⟨(read_ledger hrun).1, (read_ledger hrun).2.1⟩
  · rw [(read_ledger hrun).1, (read_ledger hrun).2.1, h]

theorem Safe.orFree_read {m : Coded Unit P α} {s : Ledger P} {handle : BufferHandle}
    (h : s.Holds handle) :
    Safe (Ledger.orFree handle (Ledger.read m)) s fun a s' =>
      s'.Holds handle ∧ m s.parcel = (.ok a, s'.parcel) := by
  cases hm : Ledger.read m s with
  | mk result s₁ =>
    obtain ⟨htook, hclosed, hparcel⟩ := read_ledger hm
    have hholds : s₁.Holds handle := ⟨htook.trans h.1, hclosed.trans h.2⟩
    unfold Safe Ledger.orFree
    rw [hm]
    cases result with
    | ok a =>
      refine ⟨fun b s' hrun => ?_, fun s' hrun => (by cases hrun)⟩
      obtain ⟨hb, rfl⟩ := Prod.mk.inj hrun
      exact ⟨hholds, Except.ok.inj hb ▸ hparcel⟩
    | error e => exact Safe.giveUp hholds (Q := fun a s' => s'.Holds handle ∧ m s.parcel = (.ok a, s'.parcel))

end Release

section Reading

variable {P : Type} [Parcel P] (readSafeFdFunc : Option (P → Int32 × P))

open Ledger

theorem Safe.takeFd (s : Ledger P) :
    Safe (takeFd readSafeFdFunc) s fun fd s' =>
      s'.took = s.took ++ [fd].filter (0 ≤ ·) ∧ s'.closed = s.closed := by
  refine ⟨fun fd s' hrun => ?_, fun s' hrun => (by cases hrun)⟩
  obtain ⟨hfd, rfl⟩ := Prod.mk.inj hrun
  rw [← Except.ok.inj hfd]
  exact ⟨rfl, rfl⟩

theorem readScalars_block {handle handle' : BufferHandle} {p p' : P}
    (h : readScalars handle p = (.ok handle', p')) :
    handle'.fd = handle.fd ∧ handle'.reserveFds = handle.reserveFds ∧
      handle'.reserve = handle.reserve := by
  obtain ⟨width, p₁, -, h⟩ := Coded.of_bind_ok h
  obtain ⟨stride, p₂, -, h⟩ := Coded.of_bind_ok h
  obtain ⟨height, p₃, -, h⟩ := Coded.of_bind_ok h
  obtain ⟨size, p₄, -, h⟩ := Coded.of_bind_ok h
  obtain ⟨format, p₅, -, h⟩ := Coded.of_bind_ok h
  obtain ⟨usage, p₆, -, h⟩ := Coded.of_bind_ok h
  obtain ⟨phyAddr, p₇, -, h⟩ := Coded.of_bind_ok h
  obtain ⟨hhandle, -⟩ := Prod.mk.inj h
  rw [← Except.ok.inj hhandle]
  exact ⟨rfl, rfl, rfl⟩

theorem checkFdSize_safe {handle : BufferHandle} {s : Ledger P} (h : s.Holds handle) :
    Safe (checkFdSize handle) s fun handle' s' => s'.Holds handle' ∧ handle' = handle := by
  have hsought : Ledger.Holds { s with fdSize := some (Parcel.seekEnd s.parcel handle.fd) } handle := h
  unfold checkFdSize Safe
  dsimp only
  split_ifs
  · exact Safe.giveUp hsought
  · exact Safe.pure ⟨hsought, rfl⟩

theorem readFd_safe {handle : BufferHandle} {s : Ledger P} (h : s.Holds handle)
    (hfd : handle.fd = -1) (hblank : handle.Blank 0) :
    Safe (readFd readSafeFdFunc handle) s fun handle' s' => s'.Holds handle' ∧ handle'.Blank 0 := by
  refine (Safe.takeFd readSafeFdFunc s).bind fun fd s₁ htake => ?_
  have hholds : s₁.Holds (handle.setFd fd) := by
    refine ⟨?_, htake.2.trans h.2⟩
    have hbefore : handle.descriptors = [] := by
      rw [BufferHandle.descriptors, hblank, hfd]
      simp
    have hafter : (handle.setFd fd).descriptors = [fd].filter (0 ≤ ·) := by
      have hfds : (handle.setFd fd).fds = handle.fds := rfl
      rw [BufferHandle.descriptors, hfds, hblank, ← List.singleton_append, List.filter_append,
        List.take_zero, List.nil_append, BufferHandle.filter_replicate_invalid, List.append_nil]
      rfl
    rw [htake.1, h.1, hbefore, hafter, List.nil_append]
  by_cases hinvalid : fd = -1
  · rw [if_pos hinvalid]
    exact .giveUp hholds
  · rw [if_neg hinvalid]
    exact (checkFdSize_safe hholds).mono fun _ _ h => ⟨h.1, h.2 ▸ hblank⟩

theorem readReserveFds_safe {n i : ℕ} {handle : BufferHandle} {s : Ledger P} (h : s.Holds handle)
    (hn : i + n = handle.reserveFds.toNat) (hblank : handle.Blank i) :
    Safe (readReserveFds readSafeFdFunc n i handle) s fun handle' s' => s'.Holds handle' := by
  induction n generalizing i handle s with
  | zero => exact .pure h
  | succ n ih =>
    refine (Safe.takeFd readSafeFdFunc s).bind fun fd s₁ htake => ?_
    have hi : i < handle.reserveFds.toNat := by omega
    have hholds : s₁.Holds (handle.setReserve i fd) := by
      refine ⟨?_, htake.2.trans h.2⟩
      rw [htake.1, h.1, hblank.descriptors_set hi]
    split
    · exact .giveUp hholds
    · exact ih hholds (by change i + 1 + n = handle.reserveFds.toNat; omega) (hblank.next hi fd)

theorem readReserveInts_safe {n j : ℕ} {handle : BufferHandle} {s : Ledger P} (h : s.Holds handle) :
    Safe (readReserveInts n j handle) s fun handle' s' => s'.Holds handle' := by
  induction n generalizing j handle s with
  | zero => exact .pure h
  | succ n ih =>
    refine (Safe.orFree_read h).bind fun value s₁ hread => ih ?_
    refine ⟨?_, hread.1.2⟩
    rw [hread.1.1, handle.descriptors_setReserve_int]

theorem allocateBufferHandle_blank {heap : Bool} {reserveFds reserveInts : UInt32}
    {handle : BufferHandle} (h : allocateBufferHandle heap reserveFds reserveInts = some handle) :
    handle.fd = -1 ∧ handle.Blank 0 := by
  unfold allocateBufferHandle at h
  split_ifs at h
  obtain rfl := Option.some.inj h
  refine ⟨rfl, ?_⟩
  simp [BufferHandle.Blank, BufferHandle.fds]

theorem readBufferHandle_safe (heap : Bool) (p : P) :
    Safe (readBufferHandle heap readSafeFdFunc) (.start p) fun handle s => s.Holds handle := by
  refine (Safe.read rfl).bind fun reserveFds s₁ h₁ => ?_
  refine (Safe.read (by rw [h₁.1, h₁.2]; rfl)).bind fun reserveInts s₂ h₂ => ?_
  have hnone : s₂.took = [] ∧ s₂.closed = [] := ⟨h₂.1.trans h₁.1, h₂.2.trans h₁.2⟩
  split
  · refine ⟨fun a s' hrun => (by cases hrun), fun s' hrun => ?_⟩
    obtain ⟨-, rfl⟩ := Prod.mk.inj hrun
    rw [hnone.1, hnone.2]
  · rename_i handle halloc
    obtain ⟨hfd, hblank⟩ := allocateBufferHandle_blank halloc
    have hholds : s₂.Holds handle := by
      refine ⟨?_, hnone.2⟩
      rw [hnone.1, BufferHandle.descriptors, hblank, hfd]
      simp
    refine (Safe.orFree_read hholds).bind fun handle₃ s₃ h₃ => ?_
    obtain ⟨hfd₃, hcount₃, hreserve₃⟩ := readScalars_block h₃.2
    have hfds₃ : handle₃.fds = handle.fds := by
      rw [BufferHandle.fds, BufferHandle.fds, hcount₃, hreserve₃]
    have hholds₃ : s₃.Holds handle₃ := by
      refine ⟨?_, h₃.1.2⟩
      rw [h₃.1.1, BufferHandle.descriptors, BufferHandle.descriptors, hfd₃, hfds₃]
    have hblank₃ : handle₃.Blank 0 := by
      rw [BufferHandle.Blank, hfds₃, hcount₃]
      exact hblank
    refine (Safe.orFree_read hholds₃).bind fun validFd s₄ h₄ => ?_
    have hfdRead : Safe (if validFd then readFd readSafeFdFunc handle₃ else pure handle₃) s₄
        fun handle' s' => s'.Holds handle' ∧ handle'.Blank 0 := by
      cases validFd with
      | true => exact readFd_safe readSafeFdFunc h₄.1 (hfd₃.trans hfd) hblank₃
      | false => exact .pure ⟨h₄.1, hblank₃⟩
    refine hfdRead.bind fun handle₅ s₅ h₅ => ?_
    refine (readReserveFds_safe readSafeFdFunc h₅.1 (Nat.zero_add _) h₅.2).bind fun handle₆ s₆ h₆ => ?_
    exact readReserveInts_safe h₆

end Reading

section LedgerView

variable {P F α : Type}

/-- The ledger shows the parcel in it. -/
def Ledger.view (view : View P F) : View (Ledger P) F :=
  ⟨fun s => view.contents s.parcel, fun s => view.fileOf s.parcel⟩

theorem read_reads {view : View P F} {s : Ledger P} {m : Coded Unit P α} {words : List (Word F)}
    {Q : α → P → Prop} (h : view.Reads s.parcel m words Q) :
    (Ledger.view view).Reads s (Ledger.read m) words fun a s' => Q a s'.parcel := by
  intro rest hs
  obtain ⟨a, p', hm, hrest, hkeeps, hQ⟩ := h rest hs
  refine ⟨a, { s with parcel := p' }, ?_, hrest, hkeeps, hQ⟩
  unfold Ledger.read
  rw [hm]

theorem orFree_reads {view : View P F} {s : Ledger P} {m : Coded Unit (Ledger P) α}
    {words : List (Word F)} {Q : α → Ledger P → Prop} (h : (Ledger.view view).Reads s m words Q)
    (handle : BufferHandle) : (Ledger.view view).Reads s (Ledger.orFree handle m) words Q := by
  intro rest hs
  obtain ⟨a, s', hm, hrest⟩ := h rest hs
  refine ⟨a, s', ?_, hrest⟩
  unfold Ledger.orFree
  rw [hm]

end LedgerView

section RoundTrip

variable {P F : Type} [Parcel P] (fifo : Fifo P F)

open Ledger

def scalarWords (handle : BufferHandle) : List (Word F) :=
  [.word32 handle.width.toBitVec] ++ ([.word32 handle.stride.toBitVec] ++
    ([.word32 handle.height.toBitVec] ++ ([.word32 handle.size.toBitVec] ++
      ([.word32 handle.format.toBitVec] ++ ([.word64 handle.usage.toBitVec] ++
        [.word64 handle.phyAddr.toBitVec])))))

def Refer (p : P) (fds : List Int32) (files : List F) : Prop :=
  List.Forall₂ (fun fd file => fifo.fileOf p fd = some file) fds files

variable {fifo}

variable (fifo) in
theorem writeScalars_writes (handle : BufferHandle) :
    fifo.Writes (writeScalars handle) ([.word32 handle.reserveFds.toBitVec] ++
      ([.word32 handle.reserveInts.toBitVec] ++ scalarWords handle)) :=
  (fifo.write_uint32 _).seq <| (fifo.write_uint32 _).seq <| (fifo.write_int32 _).seq <|
    (fifo.write_int32 _).seq <| (fifo.write_int32 _).seq <| (fifo.write_int32 _).seq <|
    (fifo.write_int32 _).seq <| (fifo.write_int64 _).seq <| fifo.write_uint64 _

theorem writeFd_writesAt {p : P} {fd : Int32} {file : F} (h : fifo.fileOf p fd = some file) :
    fifo.WritesAt p (Parcel.writeFileDescriptor fd) [.file file] := by
  intro p' hrun
  obtain ⟨file', hfile', hwritten⟩ := fifo.write_file fd p p' hrun
  rw [h] at hfile'
  rwa [Option.some.inj hfile']

theorem writeFds_writesAt {p : P} {fds : List Int32} {files : List F} (h : Refer fifo p fds files) :
    fifo.WritesAt p (fds.forM Parcel.writeFileDescriptor) (files.map .file) := by
  induction fds generalizing p files with
  | nil =>
    obtain rfl := List.forall₂_nil_left_iff.mp h
    exact .pure p
  | cons fd fds ih =>
    obtain ⟨file, others, hfile, hothers, rfl⟩ := List.forall₂_cons_left_iff.mp h
    refine (writeFd_writesAt hfile).seq fun p' hsame => ih ?_
    rwa [Refer, hsame]

variable (fifo) in
theorem writeFds_refer {fds : List Int32} {p p' : P}
    (h : fds.forM Parcel.writeFileDescriptor p = (.ok (), p')) : ∃ files, Refer fifo p fds files := by
  induction fds generalizing p with
  | nil => exact ⟨[], .nil⟩
  | cons fd fds ih =>
    obtain ⟨_, p₁, hfd, hrest⟩ := Coded.of_bind_ok h
    obtain ⟨file, hfile, -, hsame⟩ := fifo.write_file fd p p₁ hfd
    obtain ⟨files, hfiles⟩ := ih hrest
    refine ⟨file :: files, .cons hfile ?_⟩
    rwa [Refer, hsame] at hfiles

theorem takeFd_reads (s : Ledger P) (file : F) :
    (Ledger.view fifo.toView).Reads s (takeFd none) [.file file] fun fd s' =>
      0 ≤ fd ∧ fifo.fileOf s'.parcel fd = some file := by
  intro rest hs
  obtain ⟨fd, p', hread, hfd, -, hfile, hrest, hkeeps⟩ := fifo.read_file s.parcel file rest hs
  refine ⟨fd, { s with parcel := p', took := s.took ++ [fd].filter (0 ≤ ·) }, ?_, hrest, hkeeps, hfd, hfile⟩
  unfold takeFd
  rw [Option.getD_none, hread]

theorem readScalars_reads (blank handle : BufferHandle) (p : P) :
    fifo.Reads p (readScalars blank) (scalarWords handle) fun read _ =>
      read = { blank with
        width := handle.width, stride := handle.stride, height := handle.height
        size := handle.size, format := handle.format, usage := handle.usage
        phyAddr := handle.phyAddr } := by
  refine (fifo.reads_int32 p handle.width).next fun p _ => ?_
  refine (fifo.reads_int32 p handle.stride).next fun p _ => ?_
  refine (fifo.reads_int32 p handle.height).next fun p _ => ?_
  refine (fifo.reads_int32 p handle.size).next fun p _ => ?_
  refine (fifo.reads_int32 p handle.format).next fun p _ => ?_
  refine (fifo.reads_uint64 p handle.usage).next fun p _ => ?_
  refine (fifo.reads_uint64 p handle.phyAddr).last fun phyAddr p _ hphyAddr => ?_
  rw [hphyAddr]

end RoundTrip

namespace BufferHandle

def withReserve (handle : BufferHandle) (reserve : List Int32)
    (h : reserve.length = handle.reserve.length) : BufferHandle :=
  { handle with reserve := reserve, reserve_length := h.trans handle.reserve_length }

theorem withReserve_congr {handle : BufferHandle} {l l' : List Int32} (h : l = l')
    (hl : l.length = handle.reserve.length) :
    handle.withReserve l hl = handle.withReserve l' (h ▸ hl) := by
  subst h
  rfl

theorem reserveFds_of_numbers {handle copy : BufferHandle}
    (h : copy.numbers = handle.numbers) : copy.reserveFds = handle.reserveFds :=
  congrArg (fun numbers => numbers.2.2.2.2.2.2.2.1) h

theorem reserveInts_of_numbers {handle copy : BufferHandle}
    (h : copy.numbers = handle.numbers) : copy.reserveInts = handle.reserveInts :=
  congrArg (fun numbers => numbers.2.2.2.2.2.2.2.2) h

/-- What the slots hold once the one at `i` is set and those behind it are overwritten. -/
theorem overwrite_set (l values : List Int32) {i : ℕ} (hi : i < l.length) (v : Int32) :
    (l.set i v).take (i + 1) ++ values ++ (l.set i v).drop (i + 1 + values.length) =
      l.take i ++ (v :: values) ++ l.drop (i + (v :: values).length) := by
  have hset : l.set i v = (l.take i ++ [v]) ++ l.drop (i + 1) := by
    rw [List.set_eq_take_append_cons_drop, if_pos hi, List.append_assoc, List.singleton_append]
  have hlength : (l.take i ++ [v]).length = i + 1 := by
    rw [List.length_append, List.length_take, List.length_singleton]
    omega
  have hdrop : ((l.take i ++ [v]) ++ l.drop (i + 1)).drop (i + 1 + values.length) =
      l.drop (i + (v :: values).length) := by
    rw [← List.drop_drop, List.drop_left' hlength, List.drop_drop, List.length_cons]
    congr 1
    omega
  rw [hset, List.take_left' hlength, hdrop, List.append_assoc, List.append_assoc,
    List.append_assoc, List.singleton_append, List.cons_append]

end BufferHandle

section Survival

variable {P F : Type} [Parcel P] {fifo : Fifo P F}

open Ledger

theorem readReserveFds_reads {files : List F} {i : ℕ} {handle : BufferHandle}
    (hi : i + files.length ≤ handle.reserve.length) (s : Ledger P) :
    (Ledger.view fifo.toView).Reads s (readReserveFds none files.length i handle) (files.map .file)
      fun read s' => ∃ fds, Refer fifo s'.parcel fds files ∧ ∃ hlength,
        read = handle.withReserve
          (handle.reserve.take i ++ fds ++ handle.reserve.drop (i + fds.length)) hlength := by
  induction files generalizing i handle s with
  | nil =>
    refine .pure ⟨[], .nil, by simp, ?_⟩
    simp [BufferHandle.withReserve]
  | cons file files ih =>
    have hlt : i < handle.reserve.length := by
      rw [List.length_cons] at hi
      omega
    refine (takeFd_reads s file).bind fun fd s₁ _ hfd => ?_
    have hvalid : fd ≠ -1 := by
      rintro rfl
      exact absurd hfd.1 (by decide)
    rw [if_neg hvalid]
    have hi' : i + 1 + files.length ≤ (handle.setReserve i fd).reserve.length := by
      rw [List.length_cons] at hi
      simp only [BufferHandle.setReserve, List.length_set]
      omega
    refine (ih hi' s₁).mono fun read s₂ hkeeps ⟨fds, hfds, hlength, hread⟩ => ?_
    have hsame := BufferHandle.overwrite_set handle.reserve fds hlt fd
    have hlength' := hlength.trans (handle.length_setReserve i fd)
    refine ⟨fd :: fds, .cons (hkeeps fd file hfd.2) hfds, hsame ▸ hlength', ?_⟩
    rw [hread]
    exact BufferHandle.withReserve_congr hsame hlength'

theorem readReserveInts_reads {values : List Int32} {j : ℕ} {handle : BufferHandle}
    (hj : handle.reserveFds.toNat + j + values.length ≤ handle.reserve.length) (s : Ledger P) :
    (Ledger.view fifo.toView).Reads s (readReserveInts values.length j handle)
      (values.flatMap fun v => [.word32 v.toBitVec])
      fun read _ => ∃ hlength, read = handle.withReserve
        (handle.reserve.take (handle.reserveFds.toNat + j) ++ values ++
          handle.reserve.drop (handle.reserveFds.toNat + j + values.length)) hlength := by
  induction values generalizing j handle s with
  | nil =>
    refine .pure ⟨by simp, ?_⟩
    simp [BufferHandle.withReserve]
  | cons value values ih =>
    have hlt : handle.reserveFds.toNat + j < handle.reserve.length := by
      rw [List.length_cons] at hj
      omega
    rw [List.flatMap_cons]
    refine (orFree_reads (read_reads (fifo.reads_int32 s.parcel value)) handle).next fun s₁ _ => ?_
    have hj' : (handle.setReserve (handle.reserveFds.toNat + j) value).reserveFds.toNat + (j + 1) +
        values.length ≤ (handle.setReserve (handle.reserveFds.toNat + j) value).reserve.length := by
      rw [List.length_cons] at hj
      simp only [BufferHandle.setReserve, List.length_set]
      omega
    refine (ih hj' s₁).mono fun read s₂ _ ⟨hlength, hread⟩ => ?_
    have hsame := BufferHandle.overwrite_set handle.reserve values hlt value
    have hlength' := hlength.trans (handle.length_setReserve (handle.reserveFds.toNat + j) value)
    refine ⟨hsame ▸ hlength', ?_⟩
    rw [hread]
    exact BufferHandle.withReserve_congr hsame hlength'

variable (fifo) in
/-- The copy has the same numbers, and each of its descriptors refers to the file that the
descriptor at its place referred to. -/
structure Copies (p : P) (handle : BufferHandle) (r : P) (copy : BufferHandle) : Prop where
  numbers : copy.numbers = handle.numbers
  noFd : ¬ 0 ≤ handle.fd → copy.fd = -1
  fd : 0 ≤ handle.fd → 0 ≤ copy.fd ∧
    ∃ file, fifo.fileOf p handle.fd = some file ∧ fifo.fileOf r copy.fd = some file
  fds : List.Forall₂ (fun fd fd' => ∃ file, fifo.fileOf p fd = some file ∧
    fifo.fileOf r fd' = some file) handle.fds copy.fds
  ints : copy.ints = handle.ints

theorem Refer.keeps {r r' : P} {fds : List Int32} {files : List F} (h : Refer fifo r fds files)
    (hkeeps : fifo.Keeps r r') : Refer fifo r' fds files :=
  h.imp fun fd file hfile => hkeeps fd file hfile

theorem Refer.same_file {p r : P} {fds fds' : List Int32} {files : List F}
    (h : Refer fifo p fds files) (h' : Refer fifo r fds' files) :
    List.Forall₂ (fun fd fd' => ∃ file, fifo.fileOf p fd = some file ∧
      fifo.fileOf r fd' = some file) fds fds' := by
  induction files generalizing fds fds' with
  | nil =>
    rw [List.forall₂_nil_right_iff.mp h, List.forall₂_nil_right_iff.mp h']
    exact .nil
  | cons file files ih =>
    obtain ⟨fd, others, hfile, hothers, rfl⟩ := List.forall₂_cons_right_iff.mp h
    obtain ⟨fd', others', hfile', hothers', rfl⟩ := List.forall₂_cons_right_iff.mp h'
    exact .cons ⟨file, hfile, hfile'⟩ (ih hothers hothers')

theorem readFd_reads {handle : BufferHandle} {file : F} {n : ℕ} (hlength : fifo.fileLength file = some n)
    (hsize : handle.size.toInt ≤ n) (s : Ledger P) :
    (Ledger.view fifo.toView).Reads s (readFd none handle) [.file file] fun read s' =>
      0 ≤ read.fd ∧ fifo.fileOf s'.parcel read.fd = some file ∧ read = handle.setFd read.fd := by
  refine (takeFd_reads s file).finish fun fd s₁ _ hfd => ?_
  have hvalid : fd ≠ -1 := by
    rintro rfl
    exact absurd hfd.1 (by decide)
  have hend : Parcel.seekEnd s₁.parcel fd = n := fifo.seek_end s₁.parcel fd file n hfd.2 hlength
  have hcheck : checkFdSize (handle.setFd fd) s₁ =
      (.ok (handle.setFd fd), { s₁ with fdSize := some (n : Int) }) := by
    change (if Parcel.seekEnd s₁.parcel fd < 0 ∨ Parcel.seekEnd s₁.parcel fd < handle.size.toInt then
      _ else (_, { s₁ with fdSize := some (Parcel.seekEnd s₁.parcel fd) })) = _
    rw [hend, if_neg (by omega)]
  rw [if_neg hvalid]
  intro rest hs
  exact ⟨_, _, hcheck, hs, .refl s₁.parcel, hfd.1, hfd.2, rfl⟩

def handleWords (handle : BufferHandle) (main : Option F) (files : List F) : List (Word F) :=
  [.word32 handle.reserveFds.toBitVec] ++ ([.word32 handle.reserveInts.toBitVec] ++
    (scalarWords handle ++ ([.bool (decide (0 ≤ handle.fd))] ++ (main.toList.map .file ++
      (files.map .file ++ handle.ints.flatMap fun v => [.word32 v.toBitVec])))))

def MainFile (fifo : Fifo P F) (p : P) (handle : BufferHandle) (main : Option F) : Prop :=
  match main with
  | none => ¬ 0 ≤ handle.fd
  | some file => 0 ≤ handle.fd ∧ fifo.fileOf p handle.fd = some file ∧
    ∃ n : ℕ, fifo.fileLength file = some n ∧ handle.size.toInt ≤ n

def BufferHandle.outline (handle : BufferHandle) : BufferHandle :=
  handle.withReserve (List.replicate handle.reserveFds.toNat (-1) ++
    List.replicate handle.reserveInts.toNat 0) (by simp [handle.reserve_length]) |>.setFd (-1)

theorem readMain_reads {p : P} {handle : BufferHandle} {main : Option F}
    (hmain : MainFile fifo p handle main) (s : Ledger P) :
    (Ledger.view fifo.toView).Reads s
      (if decide (0 ≤ handle.fd) then readFd none handle.outline else pure handle.outline)
      (main.toList.map .file) fun read s' =>
        read = handle.outline.setFd read.fd ∧ (¬ 0 ≤ handle.fd → read.fd = -1) ∧
        (0 ≤ handle.fd → 0 ≤ read.fd ∧
          ∃ file, fifo.fileOf p handle.fd = some file ∧ fifo.fileOf s'.parcel read.fd = some file) := by
  cases main with
  | none =>
    have hfd : ¬ 0 ≤ handle.fd := hmain
    rw [if_neg (by simpa using hfd)]
    exact .pure ⟨rfl, fun _ => rfl, fun h => absurd h hfd⟩
  | some file =>
    obtain ⟨hfd, hfile, n, hlength, hsize⟩ := hmain
    rw [if_pos (by simpa using hfd)]
    have hsize' : handle.outline.size.toInt ≤ n := hsize
    refine (readFd_reads hlength hsize' s).mono fun read s' _ hread => ?_
    exact ⟨hread.2.2, fun h => absurd hfd h, fun _ => ⟨hread.1, file, hfile, hread.2.1⟩⟩

theorem readBufferHandle_reads {p : P} {handle : BufferHandle} {main : Option F} {files : List F}
    (hfdsCount : handle.reserveFds ≤ 1024) (hintsCount : handle.reserveInts ≤ 1024)
    (hmain : MainFile fifo p handle main) (hfiles : Refer fifo p handle.fds files) (s : Ledger P) :
    (Ledger.view fifo.toView).Reads s (readBufferHandle true none) (handleWords handle main files)
      fun copy s' => Copies fifo p handle s'.parcel copy := by
  have hcount : files.length = handle.reserveFds.toNat := by
    rw [← hfiles.length_eq, handle.fds_length]
  have hints : handle.ints.length = handle.reserveInts.toNat := by
    rw [BufferHandle.ints, List.length_drop, handle.reserve_length]
    omega
  refine (read_reads (fifo.reads_uint32 s.parcel handle.reserveFds)).next fun s₁ _ => ?_
  refine (read_reads (fifo.reads_uint32 s₁.parcel handle.reserveInts)).next fun s₂ _ => ?_
  rw [allocateBufferHandle, if_neg (by
    rw [not_or, UInt32.not_lt, UInt32.not_lt]
    exact ⟨hfdsCount, hintsCount⟩), if_pos rfl]
  dsimp only
  refine (orFree_reads (read_reads (readScalars_reads _ handle s₂.parcel)) _).next fun s₃ _ => ?_
  refine (orFree_reads (read_reads (fifo.read_bool s₃.parcel _)) _).next fun s₄ _ => ?_
  refine (readMain_reads hmain s₄).bind fun handle₅ s₅ _ ⟨hhandle₅, hnoFd, hfd⟩ => ?_
  have hroom : 0 + files.length ≤ handle₅.reserve.length := by
    rw [hhandle₅, hcount]
    simp [BufferHandle.outline, BufferHandle.withReserve, BufferHandle.setFd]
  have hnumbers₅ : handle₅.numbers = handle.numbers := hhandle₅ ▸ rfl
  have hcount₅ : handle₅.reserveFds.toNat = files.length := by
    rw [hcount, BufferHandle.reserveFds_of_numbers hnumbers₅]
  rw [hcount₅]
  refine (readReserveFds_reads hroom s₅).bind fun handle₆ s₆ hkeeps₆ ⟨fds, hfds, hlength₆, hhandle₆⟩ => ?_
  have hfdsLength : fds.length = handle.reserveFds.toNat := by rw [hfds.length_eq, hcount]
  have hreserve₆ : handle₆.reserve = fds ++ handle₅.reserve.drop fds.length := by
    rw [hhandle₆]
    simp [BufferHandle.withReserve]
  have hfd₆ : handle₆.fd = handle₅.fd := by
    rw [hhandle₆]
    rfl
  have hnumbers₆ : handle₆.numbers = handle.numbers := by
    rw [hhandle₆]
    exact hnumbers₅
  have hcount₆ : handle₆.reserveInts.toNat = handle.ints.length := by
    rw [hints, BufferHandle.reserveInts_of_numbers hnumbers₆]
  have hfdsCount₆ : handle₆.reserveFds.toNat = fds.length := by
    rw [hfdsLength, BufferHandle.reserveFds_of_numbers hnumbers₆]
  rw [hcount₆]
  have hroom₆ : handle₆.reserveFds.toNat + 0 + handle.ints.length ≤ handle₆.reserve.length := by
    rw [handle₆.reserve_length, hcount₆, Nat.add_zero]
  refine (readReserveInts_reads hroom₆ s₆).mono fun copy s₇ hkeeps₇ ⟨hlength₇, hcopy⟩ => ?_
  have hreserve : copy.reserve = fds ++ handle.ints := by
    rw [hcopy]
    change handle₆.reserve.take _ ++ handle.ints ++ handle₆.reserve.drop _ = _
    rw [List.drop_eq_nil_of_le (by rw [handle₆.reserve_length, hcount₆, Nat.add_zero]),
      List.append_nil, Nat.add_zero, hfdsCount₆, hreserve₆, List.take_left]
  have hfdCopy : copy.fd = handle₅.fd := by
    rw [hcopy]
    exact hfd₆
  have hnumbers : copy.numbers = handle.numbers := by
    rw [hcopy]
    exact hnumbers₆
  have hslots : copy.reserveFds.toNat = fds.length := by
    rw [hfdsLength, BufferHandle.reserveFds_of_numbers hnumbers]
  have hkeeps : fifo.Keeps s₅.parcel s₇.parcel := hkeeps₆.trans hkeeps₇
  refine ⟨hnumbers, ?_, ?_, ?_, ?_⟩
  · rw [hfdCopy]
    exact hnoFd
  · rw [hfdCopy]
    intro hvalid
    obtain ⟨hfd₅, file, hfile, hread⟩ := hfd hvalid
    exact ⟨hfd₅, file, hfile, hkeeps _ _ hread⟩
  · rw [BufferHandle.fds, BufferHandle.fds, hreserve, hslots, List.take_left]
    exact hfiles.same_file (hfds.keeps hkeeps₇)
  · rw [BufferHandle.ints, hreserve, hslots, List.drop_left]

def SentFile (fifo : Fifo P F) (p : P) (handle : BufferHandle) (main : Option F) : Prop :=
  match main with
  | none => ¬ 0 ≤ handle.fd
  | some file => 0 ≤ handle.fd ∧ fifo.fileOf p handle.fd = some file

theorem SentFile.writesAt {p : P} {handle : BufferHandle} {main : Option F}
    (h : SentFile fifo p handle main) :
    fifo.WritesAt p (if 0 ≤ handle.fd then Parcel.writeFileDescriptor handle.fd else pure ())
      (main.toList.map .file) := by
  cases main with
  | none =>
    rw [if_neg h]
    exact .pure p
  | some file =>
    rw [if_pos h.1]
    exact writeFd_writesAt h.2

variable (fifo) in
theorem sentFile_of_write {p p' : P} {handle : BufferHandle}
    (h : (if 0 ≤ handle.fd then Parcel.writeFileDescriptor handle.fd else pure ()) p =
      (.ok (), p')) : ∃ main, SentFile fifo p handle main := by
  by_cases hvalid : 0 ≤ handle.fd
  · rw [if_pos hvalid] at h
    obtain ⟨file, hfile, -, -⟩ := fifo.write_file handle.fd p p' h
    exact ⟨some file, hvalid, hfile⟩
  · exact ⟨none, hvalid⟩

theorem writeBufferHandle_writesAt {p : P} {handle : BufferHandle} {main : Option F} {files : List F}
    (hmain : SentFile fifo p handle main) (hfiles : Refer fifo p handle.fds files) :
    fifo.WritesAt p (writeBufferHandle handle) (handleWords handle main files) := by
  have hints : fifo.Writes (handle.ints.forM Parcel.writeInt32)
      (handle.ints.flatMap fun v => [.word32 v.toBitVec]) := .forM fun v _ => fifo.write_int32 v
  have hmainAt (p' : P) (hsame : fifo.fileOf p' = fifo.fileOf p) : SentFile fifo p' handle main := by
    cases main with
    | none => exact hmain
    | some file => exact ⟨hmain.1, by rw [hsame]; exact hmain.2⟩
  have hwrites := (writeScalars_writes fifo handle p).seq fun p₁ h₁ =>
    (fifo.write_bool (decide (0 ≤ handle.fd)) p₁).seq fun p₂ h₂ =>
    (hmainAt p₂ (h₂.trans h₁)).writesAt.seq fun p₃ h₃ =>
    (writeFds_writesAt (by rwa [Refer, h₃, h₂, h₁])).seq fun p₄ _ => hints p₄
  rw [List.append_assoc, List.append_assoc] at hwrites
  exact hwrites

variable (fifo) in
theorem sent_of_writeBufferHandle {p p' : P} {handle : BufferHandle}
    (h : writeBufferHandle handle p = (.ok (), p')) :
    (∃ main, SentFile fifo p handle main) ∧ ∃ files, Refer fifo p handle.fds files := by
  obtain ⟨_, p₁, hscalars, h⟩ := Coded.of_bind_ok h
  obtain ⟨_, p₂, hbool, h⟩ := Coded.of_bind_ok h
  obtain ⟨_, p₃, hfd, h⟩ := Coded.of_bind_ok h
  obtain ⟨_, p₄, hfds, -⟩ := Coded.of_bind_ok h
  have hsame₂ : fifo.fileOf p₂ = fifo.fileOf p :=
    (fifo.write_bool _ p₁ p₂ hbool).2.trans (writeScalars_writes fifo handle p p₁ hscalars).2
  obtain ⟨main, hmain⟩ := sentFile_of_write fifo hfd
  have hsame₃ : fifo.fileOf p₃ = fifo.fileOf p := (hmain.writesAt p₃ hfd).2.trans hsame₂
  obtain ⟨files, hfiles⟩ := writeFds_refer fifo hfds
  refine ⟨⟨main, ?_⟩, files, by rwa [Refer, hsame₃] at hfiles⟩
  cases main with
  | none => exact hmain
  | some file => exact ⟨hmain.1, by rw [← hsame₂]; exact hmain.2⟩

/-- A handle comes out of the parcel as it went in, with duplicates of its descriptors; and whatever
the parcel holds, a reader that gives up has closed what it took and nothing else. -/
theorem buffer_handles_survive :
    (∀ {P F : Type} [Parcel P] (fifo : Fifo P F) (handle : BufferHandle) (p p' r : P)
      (rest : List (Word F)), handle.reserveFds ≤ 1024 → handle.reserveInts ≤ 1024 →
      (0 ≤ handle.fd → ∀ file, fifo.fileOf p handle.fd = some file →
        ∃ n : ℕ, fifo.fileLength file = some n ∧ handle.size.toInt ≤ n) →
      writeBufferHandle handle p = (.ok (), p') → fifo.Sent p p' r rest →
      ∃ copy s, readBufferHandle true none (.start r) = (.ok copy, s) ∧
        fifo.contents s.parcel = rest ∧ Copies fifo p handle s.parcel copy) ∧
    ∀ {P : Type} [Parcel P] (heap : Bool) (readSafeFdFunc : Option (P → Int32 × P)) (p : P)
      (s : Ledger P), readBufferHandle heap readSafeFdFunc (.start p) = (.error (), s) →
      s.closed = s.took := by
  refine ⟨?_, fun heap readSafeFdFunc p s h => (readBufferHandle_safe readSafeFdFunc heap p).2 s h⟩
  intro P F _ fifo handle p p' r rest hfds hints hsize hwrite hsent
  obtain ⟨⟨main, hmain⟩, files, hfiles⟩ := sent_of_writeBufferHandle fifo hwrite
  have hcontents := (writeBufferHandle_writesAt hmain hfiles).sent hwrite hsent
  have hmainFile : MainFile fifo p handle main := by
    cases main with
    | none => exact hmain
    | some file => exact ⟨hmain.1, hmain.2, hsize hmain.1 file hmain.2⟩
  obtain ⟨copy, s, hread, hrest, -, hcopies⟩ :=
    readBufferHandle_reads hfds hints hmainFile hfiles (.start r) rest hcontents
  exact ⟨copy, s, hread, hrest, hcopies⟩

end Survival

def sampleHandle : BufferHandle :=
  ⟨0, 4, 16, 4, 64, 12, 8, 0, 1, 1, [1, 7], by decide⟩

def twoFiles : Wire := ⟨[], [⟨0, 64⟩, ⟨1, 0⟩], by decide⟩

def message (size : Int32) (reserveFds : UInt32) : Wire where
  words := [.word32 reserveFds.toBitVec, .word32 0, .word32 4, .word32 16, .word32 4,
    .word32 size.toBitVec, .word32 12, .word64 8, .word64 0, .bool true, .file ⟨0, 64⟩]
  files := []
  room := by simp [List.countP_cons, Word.isFile]

theorem buffer_handles_survive_sampleHandle :
    (∃ copy s, readBufferHandle true none (.start (writeBufferHandle sampleHandle twoFiles).2) =
      (.ok copy, s) ∧ Wire.fifo.contents s.parcel = [] ∧
      Copies Wire.fifo twoFiles sampleHandle s.parcel copy) ∧
    (readBufferHandle true none (.start (message 64 1))).2.closed =
      (readBufferHandle true none (.start (message 64 1))).2.took := by
  have hwrite : writeBufferHandle sampleHandle twoFiles =
      (.ok (), (writeBufferHandle sampleHandle twoFiles).2) := Coded.eq_of_fst (by decide +kernel)
  have hsent (p : Wire) : Wire.fifo.Sent twoFiles p p [] := ⟨p.words, rfl, (List.append_nil _).symm⟩
  have hcut : readBufferHandle true none (.start (message 64 1)) =
      (.error (), (readBufferHandle true none (.start (message 64 1))).2) :=
    Coded.eq_of_fst (by decide +kernel)
  refine ⟨buffer_handles_survive.1 Wire.fifo sampleHandle twoFiles _ _ [] (by decide) (by decide)
    (fun _ file hfile => ?_) hwrite (hsent _),
    buffer_handles_survive.2 true none _ _ hcut⟩
  obtain rfl : (⟨0, 64⟩ : WireFile) = file := Option.some.inj hfile
  exact ⟨64, rfl, by decide⟩

/-! The size a sender claims, against what the kernel says about the file. -/

def claimedSize {P : Type} [Parcel P] : Coded Unit P Int32 := do
  let _ ← Parcel.readUint32
  let _ ← Parcel.readUint32
  let _ ← Parcel.readInt32
  let _ ← Parcel.readInt32
  let _ ← Parcel.readInt32
  Parcel.readInt32

section Size

variable {P : Type} [Parcel P] {readSafeFdFunc : Option (P → Int32 × P)}

theorem size_of_readScalars {blank handle : BufferHandle} {p p' : P}
    (h : readScalars blank p = (.ok handle, p')) :
    ∃ p₁, (do
      let _ ← Parcel.readInt32
      let _ ← Parcel.readInt32
      let _ ← Parcel.readInt32
      Parcel.readInt32 : Coded Unit P Int32) p = (.ok handle.size, p₁) := by
  obtain ⟨width, p₁, hwidth, h⟩ := Coded.of_bind_ok h
  obtain ⟨stride, p₂, hstride, h⟩ := Coded.of_bind_ok h
  obtain ⟨height, p₃, hheight, h⟩ := Coded.of_bind_ok h
  obtain ⟨size, p₄, hsize, h⟩ := Coded.of_bind_ok h
  obtain ⟨format, p₅, -, h⟩ := Coded.of_bind_ok h
  obtain ⟨usage, p₆, -, h⟩ := Coded.of_bind_ok h
  obtain ⟨phyAddr, p₇, -, h⟩ := Coded.of_bind_ok h
  obtain ⟨hhandle, -⟩ := Prod.mk.inj h
  refine ⟨p₄, ?_⟩
  rw [Coded.bind_ok hwidth, Coded.bind_ok hstride, Coded.bind_ok hheight, hsize,
    ← Except.ok.inj hhandle]

theorem readReserveFds_keeps {n i : ℕ} {handle read : BufferHandle} {s s' : Ledger P}
    (h : readReserveFds readSafeFdFunc n i handle s = (.ok read, s')) :
    read.fd = handle.fd ∧ read.size = handle.size ∧ s'.fdSize = s.fdSize := by
  induction n generalizing i handle s with
  | zero =>
    obtain ⟨hread, rfl⟩ := Prod.mk.inj h
    rw [Except.ok.inj hread]
    exact ⟨rfl, rfl, rfl⟩
  | succ n ih =>
    obtain ⟨fd, s₁, htake, hrest⟩ := Coded.of_bind_ok h
    have hsought : s₁.fdSize = s.fdSize := by
      obtain ⟨-, rfl⟩ := Prod.mk.inj htake
      rfl
    split at hrest
    · cases hrest
    · obtain ⟨hfd, hsize, hfdSize⟩ := ih hrest
      exact ⟨hfd, hsize, hfdSize.trans hsought⟩

theorem readReserveInts_keeps {n j : ℕ} {handle read : BufferHandle} {s s' : Ledger P}
    (h : readReserveInts n j handle s = (.ok read, s')) :
    read.fd = handle.fd ∧ read.size = handle.size ∧ s'.fdSize = s.fdSize := by
  induction n generalizing j handle s with
  | zero =>
    obtain ⟨hread, rfl⟩ := Prod.mk.inj h
    rw [Except.ok.inj hread]
    exact ⟨rfl, rfl, rfl⟩
  | succ n ih =>
    obtain ⟨value, s₁, hvalue, hrest⟩ := Coded.of_bind_ok h
    obtain ⟨hfd, hsize, hfdSize⟩ := ih hrest
    exact ⟨hfd, hsize, hfdSize.trans (Ledger.fdSize_of_read (Ledger.of_orFree_ok hvalue))⟩

theorem readFd_checks {handle read : BufferHandle} {s s' : Ledger P}
    (h : readFd readSafeFdFunc handle s = (.ok read, s')) :
    read.size = handle.size ∧
      ∃ length, s'.fdSize = some length ∧ 0 ≤ length ∧ handle.size.toInt ≤ length := by
  obtain ⟨fd, s₁, -, hrest⟩ := Coded.of_bind_ok h
  split at hrest
  · cases hrest
  · unfold checkFdSize at hrest
    dsimp only at hrest
    split at hrest
    · cases hrest
    · rename_i hcheck
      obtain ⟨hread, rfl⟩ := Prod.mk.inj hrest
      rw [not_or, not_lt, not_lt] at hcheck
      refine ⟨?_, _, rfl, hcheck.1, hcheck.2⟩
      rw [← Except.ok.inj hread]
      rfl

theorem readBufferHandle_checks {heap : Bool} {p : P} {handle : BufferHandle} {s : Ledger P}
    (h : readBufferHandle heap readSafeFdFunc (.start p) = (.ok handle, s)) (hfd : 0 ≤ handle.fd) :
    (∃ p', claimedSize p = (.ok handle.size, p')) ∧
      ∃ length, s.fdSize = some length ∧ 0 ≤ length ∧ handle.size.toInt ≤ length := by
  obtain ⟨reserveFds, s₁, hreserveFds, h⟩ := Coded.of_bind_ok h
  obtain ⟨reserveInts, s₂, hreserveInts, h⟩ := Coded.of_bind_ok h
  cases halloc : allocateBufferHandle heap reserveFds reserveInts with
  | none =>
    rw [halloc] at h
    cases h
  | some handle₀ =>
    rw [halloc] at h
    obtain ⟨handle₃, s₃, hscalars, h⟩ := Coded.of_bind_ok h
    obtain ⟨validFd, s₄, hvalidFd, h⟩ := Coded.of_bind_ok h
    obtain ⟨handle₅, s₅, hmain, h⟩ := Coded.of_bind_ok h
    obtain ⟨handle₆, s₆, hfds, hints⟩ := Coded.of_bind_ok h
    have hkeeps₆ := readReserveFds_keeps hfds
    have hkeeps := readReserveInts_keeps hints
    have hread₃ := (read_ledger (Ledger.of_orFree_ok hscalars)).2.2
    obtain ⟨p₁, hsize⟩ := size_of_readScalars hread₃
    cases validFd with
    | false =>
      obtain ⟨hhandle₅, -⟩ := Prod.mk.inj hmain
      have hinvalid : handle.fd = -1 := by
        rw [hkeeps.1, hkeeps₆.1, ← Except.ok.inj hhandle₅, (readScalars_block hread₃).1]
        exact (allocateBufferHandle_blank halloc).1
      rw [hinvalid] at hfd
      exact absurd hfd (by decide)
    | true =>
      obtain ⟨hsize₅, length, hlength, hpos, hle⟩ := readFd_checks hmain
      have hsame : handle.size = handle₃.size := hkeeps.2.1.trans (hkeeps₆.2.1.trans hsize₅)
      refine ⟨⟨p₁, ?_⟩, length, ?_, hpos, ?_⟩
      · have hfirst : Parcel.readUint32 p = (.ok reserveFds, s₁.parcel) :=
          (read_ledger hreserveFds).2.2
        rw [claimedSize, Coded.bind_ok hfirst, Coded.bind_ok (read_ledger hreserveInts).2.2, hsame]
        exact hsize
      · rw [hkeeps.2.2, hkeeps₆.2.2]
        exact hlength
      · rw [hsame]
        exact hle

theorem toNat_toUInt32 (size : Int32) :
    (size.toUInt32.toNat : Int) = if 0 ≤ size.toInt then size.toInt else size.toInt + 2 ^ 32 := by
  have hnat : size.toUInt32.toNat = size.toBitVec.toNat := rfl
  have hint : size.toInt = size.toBitVec.toInt := rfl
  rw [hnat, hint, BitVec.toInt_eq_toNat_cond]
  have hlt := size.toBitVec.isLt
  split_ifs <;> omega

/-- The size that a buffer reports stays within its file exactly when the claimed size is not
negative, or wraps around to a number that the file still has. -/
theorem reported_size_within_file (heap : Bool) (p : P) (handle : BufferHandle) (s : Ledger P)
    (h : readBufferHandle heap readSafeFdFunc (.start p) = (.ok handle, s)) (hfd : 0 ≤ handle.fd) :
    ∃ size length, (claimedSize p).1 = .ok size ∧ s.fdSize = some length ∧
      (((BufferHandle.getSize (some handle)).toNat : Int) ≤ length ↔
        0 ≤ size.toInt ∨ size.toInt + 2 ^ 32 ≤ length) := by
  obtain ⟨⟨p', hclaimed⟩, length, hlength, hpos, hle⟩ := readBufferHandle_checks h hfd
  refine ⟨handle.size, length, by rw [hclaimed], hlength, ?_⟩
  have hreported := toNat_toUInt32 handle.size
  change ((handle.size.toUInt32.toNat : Int) ≤ length ↔ _)
  rw [hreported]
  split_ifs with hnonneg
  · exact ⟨fun _ => .inl hnonneg, fun _ => hle⟩
  · exact ⟨.inr, fun hcase => hcase.resolve_left hnonneg⟩

end Size

theorem reported_size_within_file_message :
    ∃ handle, (readBufferHandle true none (.start (message 64 0))).1 = .ok handle ∧
      ∃ size length, (claimedSize (message 64 0)).1 = .ok size ∧
        (readBufferHandle true none (.start (message 64 0))).2.fdSize = some length ∧
        (((BufferHandle.getSize (some handle)).toNat : Int) ≤ length ↔
          0 ≤ size.toInt ∨ size.toInt + 2 ^ 32 ≤ length) := by
  let handle : BufferHandle := ⟨0, 4, 16, 4, 64, 12, 8, 0, 0, 0, [], by decide⟩
  have hread : (readBufferHandle true none (.start (message 64 0))).1 = .ok handle := by
    decide +kernel
  exact ⟨handle, hread, reported_size_within_file true (message 64 0) handle _
    (Coded.eq_of_fst hread) (by decide)⟩

/-- A negative size passes the check and is reported as almost four gigabytes. -/
theorem forged_size_passes :
    ¬ ∀ (heap : Bool) (readSafeFdFunc : Option (Wire → Int32 × Wire)) (p : Wire)
      (handle : BufferHandle) (s : Ledger Wire) (length : Int),
      readBufferHandle heap readSafeFdFunc (.start p) = (.ok handle, s) → 0 ≤ handle.fd →
      s.fdSize = some length → ((BufferHandle.getSize (some handle)).toNat : Int) ≤ length := by
  intro h
  have hread : (readBufferHandle true none (.start (message (-1) 0))).1 =
      .ok ⟨0, 4, 16, 4, -1, 12, 8, 0, 0, 0, [], by decide⟩ := by decide +kernel
  have hlength : (readBufferHandle true none (.start (message (-1) 0))).2.fdSize = some 64 := by
    decide +kernel
  exact absurd (h true none _ _ _ 64 (Coded.eq_of_fst hread) (by decide) hlength) (by decide)

end GraphicSurface
