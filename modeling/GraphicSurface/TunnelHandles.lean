import GraphicSurface.ConfigCodec
import GraphicSurface.Runs

/-! `SetTunnelHandle`, in the queue's process and through a parcel. A descriptor is its number
together with the open file behind it, so that two handles can be compared by what they carry. -/

namespace GraphicSurface

open Parcels Runs

/-- A descriptor as it is passed around: `file` is missing when the number is not that of an open
descriptor. -/
structure Descriptor (F : Type) where
  number : Int32
  file : Option F
  nonneg : file.isSome → 0 ≤ number
deriving DecidableEq

/-- A number that the kernel may give to a new descriptor. -/
abbrev FreeNumber := { n : Int32 // 0 ≤ n }

namespace Descriptor

variable {F : Type}

def closed (F : Type) : Descriptor F := ⟨-1, none, nofun⟩

def opened (n : FreeNumber) (file : F) : Descriptor F := ⟨n.1, some file, fun _ => n.2⟩

/-- `dup`; the number comes from the kernel, when it has one to give. -/
def dup (n : Option FreeNumber) (fd : Descriptor F) : Descriptor F :=
  match fd.file, n with
  | some file, some n => opened n file
  | _, _ => closed F

variable {n : Option FreeNumber} {fd fd' : Descriptor F}

theorem dup_congr (h : fd'.file = fd.file) : fd'.dup n = fd.dup n := by
  unfold dup
  rw [h]

theorem dup_of_closed (n : Option FreeNumber) (h : fd.file = none) : fd.dup n = closed F := by
  unfold dup
  rw [h]

@[simp] theorem dup_none (fd : Descriptor F) : fd.dup none = closed F := by
  unfold dup
  split
  · rename_i h
    cases h
  · rfl

theorem dup_of_open (n : FreeNumber) {file : F} (h : fd.file = some file) :
    fd.dup (some n) = opened n file := by
  unfold dup
  rw [h]

theorem number_dup (h : (fd.dup n).file = none) : (fd.dup n).number = -1 := by
  unfold dup at h ⊢
  split at h
  · cases h
  · rfl

end Descriptor

/-- `reserveInts` is the length of `reserve`. -/
structure GraphicExtDataHandle (F : Type) where
  fd : Descriptor F
  reserve : List Int32
deriving DecidableEq

def GraphicExtDataHandle.contents {F : Type} (handle : GraphicExtDataHandle F) :
    Option F × List Int32 := (handle.fd.file, handle.reserve)

/-- What a call finds: whether `malloc` succeeds, whether the parcel takes an open descriptor, the
number under which a stub takes it from the parcel, and the one that `SetHandle` gets from `dup`. Of
a number that is missing the code keeps `-1`. -/
structure HandleResources where
  heap : Bool
  sent : Bool
  received : Option FreeNumber
  newFd : Option FreeNumber
deriving DecidableEq

/-- `tunnelHandle_` of a `SurfaceTunnelHandle`, null or not. -/
structure SurfaceTunnelHandle (F : Type) where
  tunnelHandle : Option (GraphicExtDataHandle F) := none
deriving DecidableEq

namespace SurfaceTunnelHandle

variable {F : Type}

def setHandle (w : SurfaceTunnelHandle F) (r : HandleResources) :
    Option (GraphicExtDataHandle F) → GSError × SurfaceTunnelHandle F
  | none => (.ok, w)
  | some handle =>
    if r.heap then (.ok, ⟨some { handle with fd := handle.fd.dup r.newFd }⟩)
    else (.invalidOperating, ⟨none⟩)

/-- The loop over `reserve`. -/
def differentReserve : List Int32 → List Int32 → Bool
  | x :: xs, y :: ys => x != y || differentReserve xs ys
  | _, _ => false

def different (w : SurfaceTunnelHandle F) (handle : Option (SurfaceTunnelHandle F)) : Bool :=
  match w.tunnelHandle, handle.bind (·.tunnelHandle) with
  | none, _ => false
  | some _, none => true
  | some own, some other =>
    if own.fd.number ≠ other.fd.number ∨ own.reserve.length ≠ other.reserve.length then true
    else differentReserve own.reserve other.reserve

theorem differentReserve_eq_false {xs ys : List Int32} (h : xs.length = ys.length) :
    differentReserve xs ys = false ↔ xs = ys := by
  induction xs generalizing ys with
  | nil =>
    have hnil : ys = [] := List.length_eq_zero_iff.mp h.symm
    simp [hnil, differentReserve]
  | cons x xs ih =>
    cases ys with
    | nil => cases h
    | cons y ys => simp [differentReserve, ih (Nat.succ.inj h)]

end SurfaceTunnelHandle

section Codec

variable {F : Type}

/-- `WriteFileDescriptor`: a number whose descriptor is not open is sent as `-1`. -/
def writeFileDescriptor (sent : Bool) (fd : Descriptor F) : Except GSError (List (Word F)) :=
  match fd.file with
  | some file => if sent then .ok [.word32 fd.number.toBitVec, .file file] else .error .binder
  | none => .ok [.word32 (if 0 ≤ fd.number then (-1 : Int32) else fd.number).toBitVec]

def writeExtDataHandle (sent : Bool) (handle : GraphicExtDataHandle F) :
    Except GSError (List (Word F)) :=
  if surfaceParcelSizeLimit.toNat < handle.reserve.length then .error .invalidArguments
  else
    (writeFileDescriptor sent handle.fd).map fun fd =>
      .word32 (BitVec.ofNat 32 handle.reserve.length) ::
        (fd ++ handle.reserve.map fun i => .word32 i.toBitVec)

/-- `ReadFileDescriptor`, whose result is not looked at: a number below zero is kept, and a
descriptor that is not there or finds no number is `-1`. -/
def readFileDescriptor (n : Option FreeNumber) : List (Word F) → Descriptor F × List (Word F)
  | .word32 bits :: rest =>
    if Int32.ofBitVec bits < 0 then (⟨.ofBitVec bits, none, nofun⟩, rest)
    else
      match rest, n with
      | .file file :: rest, some n => (.opened n file, rest)
      | .file _ :: rest, none => (.closed F, rest)
      | rest, _ => (.closed F, rest)
  | words => (.closed F, words)

def readInts : ℕ → List (Word F) → Option (List Int32)
  | 0, _ => some []
  | n + 1, .word32 bits :: rest => (readInts n rest).map (.ofBitVec bits :: ·)
  | _ + 1, _ => none

/-- The handle of a fresh `SurfaceTunnelHandle`; every failure is `GSERROR_BINDER`. -/
def readExtDataHandle (r : HandleResources) : List (Word F) → Option (SurfaceTunnelHandle F)
  | .word32 bits :: rest =>
    if surfaceParcelSizeLimit.toNat < bits.toNat ∨ r.heap = false then none
    else
      (readInts bits.toNat (readFileDescriptor r.received rest).2).map fun reserve =>
        (SurfaceTunnelHandle.setHandle {} r (some ⟨(readFileDescriptor r.received rest).1, reserve⟩)).2
  | _ => none

theorem readInts_map (ints : List Int32) (rest : List (Word F)) :
    readInts ints.length (ints.map (fun i => .word32 i.toBitVec) ++ rest) = some ints := by
  induction ints with
  | nil => rfl
  | cons i ints ih => simp [readInts, ih]

theorem readFileDescriptor_write {sent : Bool} {fd : Descriptor F} {words : List (Word F)}
    (n : Option FreeNumber) (hwrite : writeFileDescriptor sent fd = .ok words)
    (rest : List (Word F)) :
    (readFileDescriptor n (words ++ rest)).2 = rest ∧
      (readFileDescriptor n (words ++ rest)).1.file = (fd.dup n).file := by
  unfold writeFileDescriptor at hwrite
  split at hwrite
  · rename_i file hfile
    split_ifs at hwrite
    obtain rfl := Except.ok.inj hwrite
    have hnonneg : ¬ fd.number < 0 := by
      have h := fd.nonneg (by rw [hfile]; rfl)
      rw [Int32.lt_iff_toInt_lt]
      rw [Int32.le_iff_toInt_le] at h
      omega
    cases n with
    | none => simp [readFileDescriptor, hnonneg]
    | some n => simp [readFileDescriptor, hnonneg, Descriptor.dup_of_open n hfile]
  · rename_i hfile
    obtain rfl := Except.ok.inj hwrite
    have hneg : (if 0 ≤ fd.number then (-1 : Int32) else fd.number) < 0 := by
      split_ifs with h
      · decide
      · rw [Int32.lt_iff_toInt_lt]
        rw [Int32.le_iff_toInt_le] at h
        omega
    simp [readFileDescriptor, hneg, Descriptor.dup_of_closed n hfile, Descriptor.closed]

theorem readExtDataHandle_writeExtDataHandle {handle : GraphicExtDataHandle F} {words : List (Word F)}
    {r : HandleResources} {sent : Bool} (hwrite : writeExtDataHandle sent handle = .ok words)
    (hheap : r.heap = true) :
    readExtDataHandle r words =
      some ⟨some { handle with fd := (handle.fd.dup r.received).dup r.newFd }⟩ := by
  unfold writeExtDataHandle at hwrite
  split_ifs at hwrite with hlimit
  obtain ⟨fd, hfd, rfl⟩ : ∃ fd, writeFileDescriptor sent handle.fd = .ok fd ∧
      .word32 (BitVec.ofNat 32 handle.reserve.length) ::
        (fd ++ handle.reserve.map fun i => .word32 i.toBitVec) = words := by
    cases hfd : writeFileDescriptor sent handle.fd with
    | error ret => rw [hfd] at hwrite; cases hwrite
    | ok fd => rw [hfd] at hwrite; exact ⟨fd, rfl, Except.ok.inj hwrite⟩
  have hlength : (BitVec.ofNat 32 handle.reserve.length).toNat = handle.reserve.length := by
    have hlt : handle.reserve.length < 2 ^ 32 := by
      rw [show surfaceParcelSizeLimit.toNat = 1024 from rfl] at hlimit
      omega
    exact (BitVec.toNat_ofNat ..).trans (Nat.mod_eq_of_lt hlt)
  obtain ⟨hrest, hfile⟩ := readFileDescriptor_write r.received hfd
    (handle.reserve.map fun i => (.word32 i.toBitVec : Word F))
  have hints := readInts_map handle.reserve ([] : List (Word F))
  rw [List.append_nil] at hints
  simp only [readExtDataHandle]
  rw [hlength, if_neg (by simp [hlimit, hheap]), hrest, hints]
  simp [SurfaceTunnelHandle.setHandle, hheap, Descriptor.dup_congr hfile]

end Codec

/-- The part of a `BufferQueue` that its tunnel handle is about. -/
structure TunnelHandles (F : Type) where
  tunnelHandle : Option (SurfaceTunnelHandle F) := none
  listener : Bool := false
  listenerClazz : Bool := false
deriving DecidableEq

inductive TunnelHandleCall (F : Type)
  | registerConsumerListener (listener : Bool)
  | registerConsumerListenerClazz (listener : Bool)
  | unregisterConsumerListener
  | setTunnelHandle (remote : Bool) (r : HandleResources) (handle : Option (GraphicExtDataHandle F))

namespace TunnelHandles

variable {F : Type} {s : TunnelHandles F}

/-- The tail of `BufferQueue::SetTunnelHandle`, after the comparison. -/
def replaceTunnelHandle (s : TunnelHandles F) (handle : Option (SurfaceTunnelHandle F)) :
    GSError × TunnelHandles F :=
  (if s.listener || s.listenerClazz then .ok else .consumerUnregisterListener,
    { s with tunnelHandle := handle })

def setTunnelHandle (s : TunnelHandles F) (handle : Option (SurfaceTunnelHandle F)) :
    GSError × TunnelHandles F :=
  match s.tunnelHandle, handle with
  | none, none => (.invalidArguments, s)
  | none, some _ => s.replaceTunnelHandle handle
  | some tunnelHandle, _ =>
    if tunnelHandle.different handle then s.replaceTunnelHandle handle else (.noEntry, s)

/-- `BufferQueueProducer::SetTunnelHandle (const GraphicExtDataHandle *)`. -/
def setTunnelHandleLocal (s : TunnelHandles F) (r : HandleResources)
    (handle : Option (GraphicExtDataHandle F)) : GSError × TunnelHandles F :=
  match SurfaceTunnelHandle.setHandle {} r handle with
  | (.ok, tunnelHandle) => s.setTunnelHandle (some tunnelHandle)
  | _ => (.invalidOperating, s)

/-- The stub, with the words of its parcel. -/
def setTunnelHandleRemote (s : TunnelHandles F) (r : HandleResources) :
    List (Word F) → GSError × TunnelHandles F
  | .bool false :: _ => s.setTunnelHandle none
  | .bool true :: rest =>
    match readExtDataHandle r rest with
    | some handle => s.setTunnelHandle (some handle)
    | none => (.binder, s)
  | _ => (.binder, s)

/-- What `BufferClientProducer::SetTunnelHandle` sends. -/
def writeTunnelHandle (sent : Bool) :
    Option (GraphicExtDataHandle F) → Except GSError (List (Word F))
  | none => .ok [.bool false]
  | some handle => (writeExtDataHandle sent handle).map (.bool true :: ·)

/-- A client's call over a connection that delivers what is sent. -/
def setTunnelHandleClient (s : TunnelHandles F) (r : HandleResources)
    (handle : Option (GraphicExtDataHandle F)) : GSError × TunnelHandles F :=
  match writeTunnelHandle r.sent handle with
  | .ok arguments => s.setTunnelHandleRemote r arguments
  | .error ret => (ret, s)

def setTunnelHandleBy (s : TunnelHandles F) (remote : Bool) (r : HandleResources)
    (handle : Option (GraphicExtDataHandle F)) : GSError × TunnelHandles F :=
  if remote then s.setTunnelHandleClient r handle else s.setTunnelHandleLocal r handle

def next (s : TunnelHandles F) : TunnelHandleCall F → TunnelHandles F
  | .registerConsumerListener listener => { s with listener := listener }
  | .registerConsumerListenerClazz listener => { s with listenerClazz := listener }
  | .unregisterConsumerListener => { s with listener := false, listenerClazz := false }
  | .setTunnelHandle remote r handle => (s.setTunnelHandleBy remote r handle).2

/-- What the stored handle carries; no handle and a wrapper around none carry nothing. -/
def contents (s : TunnelHandles F) : Option (Option F × List Int32) :=
  (s.tunnelHandle.bind (·.tunnelHandle)).map GraphicExtDataHandle.contents

/-- `GSERROR_NO_ENTRY` is for a handle that carries what the stored one does, and the other way to
make the call would have done the same. -/
def Replaces (s : TunnelHandles F) : TunnelHandleCall F → Prop
  | .setTunnelHandle remote r handle =>
    ((s.setTunnelHandleBy remote r handle).1 = .noEntry →
      s.contents = handle.map GraphicExtDataHandle.contents) ∧
    (s.setTunnelHandleBy (!remote) r handle).1 = (s.setTunnelHandleBy remote r handle).1 ∧
    (s.setTunnelHandleBy (!remote) r handle).2.contents =
      (s.setTunnelHandleBy remote r handle).2.contents
  | _ => True

/-- An open descriptor can be sent and arrives when it can be copied. When it cannot be copied, the
stored handle is not one without a descriptor that has the same `reserve`. -/
def KeepsFile (s : TunnelHandles F) (r : HandleResources) (handle : GraphicExtDataHandle F) : Prop :=
  handle.fd.file.isSome → r.sent = true ∧ (r.newFd.isSome → r.received.isSome) ∧
    (r.newFd = none → s.contents ≠ some (none, handle.reserve))

/-- A call without a handle finds something stored; one with a handle does not find a wrapper around
none, and its handle fits a parcel and the memory and keeps its descriptor. -/
def CanReplace (s : TunnelHandles F) : TunnelHandleCall F → Prop
  | .setTunnelHandle _ _ none => s.tunnelHandle ≠ none
  | .setTunnelHandle _ r (some handle) =>
    s.tunnelHandle ≠ some ⟨none⟩ ∧ handle.reserve.length ≤ surfaceParcelSizeLimit.toNat ∧
      r.heap = true ∧ s.KeepsFile r handle
  | _ => True

/-- The kernel gives a number that the stored descriptor does not have while it is open. -/
def FreshFd (s : TunnelHandles F) : TunnelHandleCall F → Prop
  | .setTunnelHandle _ r _ => ∀ n ∈ r.newFd, ∀ handle, s.tunnelHandle = some ⟨some handle⟩ →
      handle.fd.file.isSome → handle.fd.number ≠ n.1
  | _ => True

/-- A stored descriptor comes from `dup`. -/
def Duplicated (s : TunnelHandles F) : Prop :=
  ∀ handle, s.tunnelHandle = some ⟨some handle⟩ → handle.fd.file = none → handle.fd.number = -1

/-! The two ways to make a call, as calls of the queue. -/

/-- The handle that the queue is given for `handle`. -/
def wrapped (r : HandleResources) (handle : GraphicExtDataHandle F) : SurfaceTunnelHandle F :=
  ⟨some { handle with fd := handle.fd.dup r.newFd }⟩

/-- What a stub makes of `handle` before it wraps it. -/
def received (r : HandleResources) (handle : GraphicExtDataHandle F) : GraphicExtDataHandle F :=
  { handle with fd := handle.fd.dup r.received }

variable {r : HandleResources} {handle : GraphicExtDataHandle F}

theorem setTunnelHandleLocal_some (hheap : r.heap = true) :
    s.setTunnelHandleLocal r (some handle) = s.setTunnelHandle (some (wrapped r handle)) := by
  simp [setTunnelHandleLocal, SurfaceTunnelHandle.setHandle, hheap, wrapped]

theorem setTunnelHandleLocal_heapless (hheap : r.heap = false) :
    s.setTunnelHandleLocal r (some handle) = (.invalidOperating, s) := by
  simp [setTunnelHandleLocal, SurfaceTunnelHandle.setHandle, hheap]

theorem setTunnelHandleClient_over (h : surfaceParcelSizeLimit.toNat < handle.reserve.length) :
    s.setTunnelHandleClient r (some handle) = (.invalidArguments, s) := by
  have hwrite : writeTunnelHandle r.sent (some handle) = .error .invalidArguments := by
    simp only [writeTunnelHandle, writeExtDataHandle]
    rw [if_pos h]
    rfl
  rw [setTunnelHandleClient, hwrite]

theorem setTunnelHandleClient_unsent (h : handle.reserve.length ≤ surfaceParcelSizeLimit.toNat)
    (hopen : handle.fd.file.isSome) (hsent : r.sent = false) :
    s.setTunnelHandleClient r (some handle) = (.binder, s) := by
  obtain ⟨file, hfile⟩ := Option.isSome_iff_exists.mp hopen
  have hfd : writeFileDescriptor (F := F) false handle.fd = .error .binder := by
    rw [writeFileDescriptor, hfile]
    rfl
  have hwrite : writeTunnelHandle r.sent (some handle) = .error .binder := by
    rw [writeTunnelHandle, writeExtDataHandle, if_neg (not_lt.mpr h), hsent, hfd]
    rfl
  rw [setTunnelHandleClient, hwrite]

theorem writeTunnelHandle_some (h : handle.reserve.length ≤ surfaceParcelSizeLimit.toNat)
    {sent : Bool} (hsent : handle.fd.file.isSome → sent = true) :
    ∃ words, writeExtDataHandle sent handle = .ok words ∧
      writeTunnelHandle sent (some handle) = .ok (.bool true :: words) := by
  have hfd : ∃ fd, writeFileDescriptor sent handle.fd = .ok fd := by
    unfold writeFileDescriptor
    split
    · rename_i file hfile
      exact ⟨_, if_pos (hsent (by rw [hfile]; rfl))⟩
    · exact ⟨_, rfl⟩
  obtain ⟨fd, hfd⟩ := hfd
  have hwrite : ∃ words, writeExtDataHandle sent handle = .ok words := by
    rw [writeExtDataHandle, if_neg (not_lt.mpr h), hfd]
    exact ⟨_, rfl⟩
  obtain ⟨words, hwords⟩ := hwrite
  refine ⟨words, hwords, ?_⟩
  rw [writeTunnelHandle, hwords]
  rfl

theorem setTunnelHandleClient_some (h : handle.reserve.length ≤ surfaceParcelSizeLimit.toNat)
    (hheap : r.heap = true) (hsent : handle.fd.file.isSome → r.sent = true) :
    s.setTunnelHandleClient r (some handle) =
      s.setTunnelHandle (some (wrapped r (received r handle))) := by
  obtain ⟨words, hwords, hwrite⟩ := writeTunnelHandle_some h hsent
  rw [setTunnelHandleClient, hwrite]
  dsimp only [setTunnelHandleRemote]
  rw [readExtDataHandle_writeExtDataHandle hwords hheap]
  rfl

theorem readExtDataHandle_heapless (hheap : r.heap = false) (words : List (Word F)) :
    readExtDataHandle r words = none := by
  unfold readExtDataHandle
  split
  · exact if_pos (.inr hheap)
  · rfl

theorem setTunnelHandleClient_heapless (hheap : r.heap = false) :
    (s.setTunnelHandleClient r (some handle)).1 = .invalidArguments ∨
      (s.setTunnelHandleClient r (some handle)).1 = .binder := by
  by_cases h : surfaceParcelSizeLimit.toNat < handle.reserve.length
  · rw [setTunnelHandleClient_over h]
    exact .inl rfl
  · by_cases hunsent : handle.fd.file.isSome ∧ r.sent = false
    · rw [setTunnelHandleClient_unsent (not_lt.mp h) hunsent.1 hunsent.2]
      exact .inr rfl
    · have hsent : handle.fd.file.isSome → r.sent = true := fun hopen =>
        Bool.of_not_eq_false fun hfalse => hunsent ⟨hopen, hfalse⟩
      obtain ⟨words, -, hwrite⟩ := writeTunnelHandle_some (not_lt.mp h) hsent
      rw [setTunnelHandleClient, hwrite]
      dsimp only [setTunnelHandleRemote]
      rw [readExtDataHandle_heapless hheap]
      exact .inr rfl

theorem ret_replaceTunnelHandle (s : TunnelHandles F) (handle : Option (SurfaceTunnelHandle F)) :
    (s.replaceTunnelHandle handle).1 = .ok ∨
      (s.replaceTunnelHandle handle).1 = .consumerUnregisterListener := by
  unfold replaceTunnelHandle
  split_ifs
  · exact .inl rfl
  · exact .inr rfl

theorem setTunnelHandle_null (h : s.tunnelHandle = none) :
    s.setTunnelHandle none = (.invalidArguments, s) := by
  unfold setTunnelHandle
  rw [h]

theorem setTunnelHandle_first (h : s.tunnelHandle = none) (w : SurfaceTunnelHandle F) :
    s.setTunnelHandle (some w) = s.replaceTunnelHandle (some w) := by
  unfold setTunnelHandle
  rw [h]

/-- `Different` of a wrapper around none is false whatever it is asked about, so the wrapper stays. -/
theorem setTunnelHandle_of_wrapper (h : s.tunnelHandle = some ⟨none⟩)
    (handle : Option (SurfaceTunnelHandle F)) : s.setTunnelHandle handle = (.noEntry, s) := by
  unfold setTunnelHandle
  rw [h]
  cases handle <;> rfl

theorem setTunnelHandle_cases (s : TunnelHandles F) (w : SurfaceTunnelHandle F) :
    s.setTunnelHandle (some w) = (.noEntry, s) ∨
      s.setTunnelHandle (some w) = s.replaceTunnelHandle (some w) := by
  unfold setTunnelHandle
  split
  · rename_i hnull
    cases hnull
  · exact .inr rfl
  · split_ifs
    · exact .inr rfl
    · exact .inl rfl

theorem contents_of_noEntry (hdup : s.Duplicated)
    (hfresh : ∀ n ∈ r.newFd, ∀ own, s.tunnelHandle = some ⟨some own⟩ → own.fd.file.isSome →
      own.fd.number ≠ n.1)
    (hwrapper : s.tunnelHandle ≠ some ⟨none⟩)
    (h : (s.setTunnelHandle (some (wrapped r handle))).1 = .noEntry) :
    (handle.fd.dup r.newFd).file = none ∧ s.contents = some (none, handle.reserve) := by
  have hreplaced : (s.replaceTunnelHandle (some (wrapped r handle))).1 ≠ .noEntry := by
    rcases ret_replaceTunnelHandle s (some (wrapped r handle)) with hret | hret <;> rw [hret] <;> nofun
  rcases hstored : s.tunnelHandle with _ | ⟨_ | own⟩
  · rw [setTunnelHandle_first hstored] at h
    exact absurd h hreplaced
  · exact absurd hstored hwrapper
  · have hsame : SurfaceTunnelHandle.different ⟨some own⟩ (some (wrapped r handle)) = false := by
      unfold setTunnelHandle at h
      rw [hstored] at h
      dsimp only at h
      split_ifs at h with hdifferent
      · exact absurd h hreplaced
      · exact (Bool.not_eq_true _).mp hdifferent
    simp only [SurfaceTunnelHandle.different, wrapped, Option.bind_some] at hsame
    split_ifs at hsame with hhead
    obtain ⟨hnumber, hlength⟩ := not_or.mp hhead
    have hreserve := (SurfaceTunnelHandle.differentReserve_eq_false (not_not.mp hlength)).mp hsame
    have hnumbers := not_not.mp hnumber
    have hclosed : (handle.fd.dup r.newFd).file = none := by
      by_contra hopen
      obtain ⟨file, hfile⟩ := Option.ne_none_iff_exists'.mp hopen
      cases hnew : r.newFd with
      | none =>
        rw [hnew, Descriptor.dup_none] at hfile
        cases hfile
      | some n =>
        cases hother : handle.fd.file with
        | none =>
          rw [Descriptor.dup_of_closed r.newFd hother] at hfile
          cases hfile
        | some other =>
          rw [hnew, Descriptor.dup_of_open n hother] at hnumbers
          cases hown : own.fd.file with
          | none =>
            have hnonneg := n.2
            rw [show n.1 = own.fd.number from hnumbers.symm, hdup own hstored hown] at hnonneg
            exact absurd hnonneg (by decide)
          | some file => exact hfresh n hnew own hstored (by rw [hown]; rfl) hnumbers
    have hown : own.fd.file = none := by
      by_contra hopen
      have hnonneg := own.fd.nonneg (Option.isSome_iff_ne_none.mpr hopen)
      rw [hnumbers, Descriptor.number_dup hclosed] at hnonneg
      exact absurd hnonneg (by decide)
    refine ⟨hclosed, ?_⟩
    simp [contents, hstored, GraphicExtDataHandle.contents, hown, hreserve]

theorem noEntry_of_contents (hdup : s.Duplicated) (hclosed : (handle.fd.dup r.newFd).file = none)
    (h : s.contents = some (none, handle.reserve)) :
    (s.setTunnelHandle (some (wrapped r handle))).1 = .noEntry := by
  rcases hstored : s.tunnelHandle with _ | ⟨_ | own⟩
  · simp [contents, hstored] at h
  · simp [contents, hstored] at h
  · have hsame : own.fd.file = none ∧ own.reserve = handle.reserve := by
      simpa [contents, hstored, GraphicExtDataHandle.contents] using h
    have hnumbers : own.fd.number = (handle.fd.dup r.newFd).number := by
      rw [hdup own hstored hsame.1, Descriptor.number_dup hclosed]
    have hdifferent : SurfaceTunnelHandle.different ⟨some own⟩ (some (wrapped r handle)) = false := by
      simp only [SurfaceTunnelHandle.different, wrapped, Option.bind_some]
      rw [if_neg (by simp [hnumbers, hsame.2])]
      exact (SurfaceTunnelHandle.differentReserve_eq_false (by rw [hsame.2])).mpr hsame.2
    unfold setTunnelHandle
    rw [hstored]
    dsimp only
    rw [hdifferent]
    rfl

theorem replaces_iff (remote : Bool) (handle : Option (GraphicExtDataHandle F)) :
    s.Replaces (.setTunnelHandle remote r handle) ↔
      ((s.setTunnelHandleLocal r handle).1 = .noEntry →
        s.contents = handle.map GraphicExtDataHandle.contents) ∧
      (s.setTunnelHandleClient r handle).1 = (s.setTunnelHandleLocal r handle).1 ∧
      (s.setTunnelHandleClient r handle).2.contents = (s.setTunnelHandleLocal r handle).2.contents := by
  cases remote with
  | false => exact Iff.rfl
  | true =>
    constructor
    · rintro ⟨hentry, hret, hcontents⟩
      exact ⟨fun h => hentry (hret.symm.trans h), hret.symm, hcontents.symm⟩
    · rintro ⟨hentry, hret, hcontents⟩
      exact ⟨fun h => hentry (hret.symm.trans h), hret.symm, hcontents.symm⟩

theorem replaces_none_iff (remote : Bool) :
    s.Replaces (.setTunnelHandle remote r none) ↔ s.tunnelHandle ≠ none := by
  rw [replaces_iff]
  have hlocal : s.setTunnelHandleLocal r none = s.setTunnelHandle (some ⟨none⟩) := rfl
  have hclient : s.setTunnelHandleClient r none = s.setTunnelHandle none := rfl
  rw [hlocal, hclient]
  rcases hstored : s.tunnelHandle with _ | ⟨_ | own⟩
  · refine iff_of_false ?_ (not_not.mpr rfl)
    rintro ⟨-, hret, -⟩
    rw [setTunnelHandle_null hstored, setTunnelHandle_first hstored] at hret
    rcases ret_replaceTunnelHandle s (some ⟨none⟩) with h | h <;> rw [h] at hret <;> cases hret
  · rw [setTunnelHandle_of_wrapper hstored, setTunnelHandle_of_wrapper hstored]
    exact iff_of_true ⟨fun _ => by simp [contents, hstored], rfl, rfl⟩ nofun
  · have hreplaced (w : Option (SurfaceTunnelHandle F)) (hw : w.bind (·.tunnelHandle) = none) :
        s.setTunnelHandle w = s.replaceTunnelHandle w := by
      unfold setTunnelHandle
      rw [hstored]
      dsimp only
      rw [SurfaceTunnelHandle.different, hw]
      rfl
    rw [hreplaced none rfl, hreplaced (some ⟨none⟩) rfl]
    refine iff_of_true ⟨fun h => ?_, rfl, rfl⟩ nofun
    rcases ret_replaceTunnelHandle s (some ⟨none⟩) with hret | hret <;> rw [hret] at h <;> cases h

theorem ret_setTunnelHandle (s : TunnelHandles F) (w : SurfaceTunnelHandle F) :
    (s.setTunnelHandle (some w)).1 ≠ .invalidArguments ∧ (s.setTunnelHandle (some w)).1 ≠ .binder := by
  rcases s.setTunnelHandle_cases w with h | h
  · rw [h]
    exact ⟨nofun, nofun⟩
  · rw [h]
    rcases ret_replaceTunnelHandle s (some w) with hret | hret <;> rw [hret] <;> exact ⟨nofun, nofun⟩

section Copies

variable (hdup : s.Duplicated)
  (hfresh : ∀ n ∈ r.newFd, ∀ own, s.tunnelHandle = some ⟨some own⟩ → own.fd.file.isSome →
    own.fd.number ≠ n.1)
  (hwrapper : s.tunnelHandle ≠ some ⟨none⟩)
include hdup hfresh hwrapper

theorem noEntry_matches_iff :
    ((s.setTunnelHandle (some (wrapped r handle))).1 = .noEntry →
      s.contents = some handle.contents) ↔
    (handle.fd.file.isSome → r.newFd = none → s.contents ≠ some (none, handle.reserve)) := by
  constructor
  · intro h hopen hnew hcontents
    have hclosed : (handle.fd.dup r.newFd).file = none := by
      rw [hnew, Descriptor.dup_none]
      rfl
    have hsame := h (noEntry_of_contents hdup hclosed hcontents)
    rw [hcontents, Option.some.injEq, GraphicExtDataHandle.contents, Prod.mk.injEq] at hsame
    rw [← hsame.1] at hopen
    cases hopen
  · intro h hentry
    obtain ⟨hclosed, hcontents⟩ := contents_of_noEntry hdup hfresh hwrapper hentry
    cases hfile : handle.fd.file with
    | none => rw [hcontents, GraphicExtDataHandle.contents, hfile]
    | some file =>
      cases hnew : r.newFd with
      | none => exact absurd hcontents (h (by rw [hfile]; rfl) hnew)
      | some n =>
        rw [hnew, Descriptor.dup_of_open n hfile] at hclosed
        cases hclosed

theorem lost_on_the_way {n : FreeNumber} {file : F} (hnew : r.newFd = some n)
    (hfile : handle.fd.file = some file) (hreceived : r.received = none) :
    ¬ ((s.setTunnelHandle (some (wrapped r (received r handle)))).1 =
        (s.setTunnelHandle (some (wrapped r handle))).1 ∧
      (s.setTunnelHandle (some (wrapped r (received r handle)))).2.contents =
        (s.setTunnelHandle (some (wrapped r handle))).2.contents) := by
  rintro ⟨hret, hcontents⟩
  have hcopy : (handle.fd.dup r.newFd).file = some file := by
    rw [hnew, Descriptor.dup_of_open n hfile]
    rfl
  have hentry : (s.setTunnelHandle (some (wrapped r handle))).1 ≠ .noEntry := by
    intro hentry
    have hclosed := (contents_of_noEntry hdup hfresh hwrapper hentry).1
    rw [hcopy] at hclosed
    cases hclosed
  have hlocal := (s.setTunnelHandle_cases (wrapped r handle)).resolve_left
    fun h => hentry (congrArg Prod.fst h)
  have hclient := (s.setTunnelHandle_cases (wrapped r (received r handle))).resolve_left
    fun h => hentry (hret ▸ congrArg Prod.fst h)
  have hclosed : (received r handle).fd.dup r.newFd = .closed F :=
    Descriptor.dup_of_closed _ (by rw [received, hreceived, Descriptor.dup_none]; rfl)
  rw [hlocal, hclient] at hcontents
  simp [replaceTunnelHandle, contents, wrapped, GraphicExtDataHandle.contents, hclosed, hcopy,
    Descriptor.closed] at hcontents

theorem replaces_some_iff (remote : Bool) (hheap : r.heap = true)
    (hlimit : handle.reserve.length ≤ surfaceParcelSizeLimit.toNat) :
    s.Replaces (.setTunnelHandle remote r (some handle)) ↔ s.KeepsFile r handle := by
  rw [replaces_iff, setTunnelHandleLocal_some hheap]
  by_cases hunsent : handle.fd.file.isSome ∧ r.sent = false
  · rw [setTunnelHandleClient_unsent hlimit hunsent.1 hunsent.2]
    refine iff_of_false ?_ fun h => ?_
    · rintro ⟨-, hret, -⟩
      exact (s.ret_setTunnelHandle _).2 hret.symm
    · rw [(h hunsent.1).1] at hunsent
      cases hunsent.2
  · have hsent : handle.fd.file.isSome → r.sent = true := fun hopen =>
      Bool.of_not_eq_false fun hfalse => hunsent ⟨hopen, hfalse⟩
    rw [setTunnelHandleClient_some hlimit hheap hsent]
    by_cases hlost : handle.fd.file.isSome ∧ r.newFd.isSome ∧ r.received = none
    · obtain ⟨hopen, hnew, hreceived⟩ := hlost
      obtain ⟨file, hfile⟩ := Option.isSome_iff_exists.mp hopen
      obtain ⟨n, hn⟩ := Option.isSome_iff_exists.mp hnew
      refine iff_of_false (fun h => ?_) fun h => ?_
      · exact lost_on_the_way hdup hfresh hwrapper hn hfile hreceived h.2
      · have harrives := (h hopen).2.1 hnew
        rw [hreceived] at harrives
        cases harrives
    · -- the copy of the copy is the copy
      have hcopies : (received r handle).fd.dup r.newFd = handle.fd.dup r.newFd := by
        cases hfile : handle.fd.file with
        | none =>
          rw [received, Descriptor.dup_of_closed _ hfile, Descriptor.dup_of_closed _ hfile]
          rfl
        | some file =>
          cases hnew : r.newFd with
          | none => rw [Descriptor.dup_none, Descriptor.dup_none]
          | some n =>
            obtain ⟨m, hm⟩ : ∃ m, r.received = some m := Option.ne_none_iff_exists'.mp fun h =>
              hlost ⟨by rw [hfile]; rfl, by rw [hnew]; rfl, h⟩
            refine Descriptor.dup_congr ?_
            rw [received, hm, Descriptor.dup_of_open m hfile, hfile]
            rfl
      have hwrapped : wrapped r (received r handle) = wrapped r handle := by
        rw [wrapped, hcopies]
        rfl
      rw [hwrapped, Option.map_some, noEntry_matches_iff hdup hfresh hwrapper]
      constructor
      · rintro ⟨h, -, -⟩ hopen
        refine ⟨hsent hopen, fun hnew => ?_, h hopen⟩
        exact Option.isSome_iff_ne_none.mpr fun hreceived => hlost ⟨hopen, hnew, hreceived⟩
      · exact fun h => ⟨fun hopen => (h hopen).2.2, rfl, rfl⟩

end Copies

theorem replaces_handle_iff (hdup : s.Duplicated)
    (hfresh : ∀ n ∈ r.newFd, ∀ own, s.tunnelHandle = some ⟨some own⟩ → own.fd.file.isSome →
      own.fd.number ≠ n.1) (remote : Bool) :
    s.Replaces (.setTunnelHandle remote r (some handle)) ↔
      s.tunnelHandle ≠ some ⟨none⟩ ∧ handle.reserve.length ≤ surfaceParcelSizeLimit.toNat ∧
        r.heap = true ∧ s.KeepsFile r handle := by
  by_cases hheap : r.heap = true
  · by_cases hlimit : handle.reserve.length ≤ surfaceParcelSizeLimit.toNat
    · by_cases hwrapper : s.tunnelHandle = some ⟨none⟩
      · refine iff_of_false ?_ fun h => h.1 hwrapper
        rw [replaces_iff, setTunnelHandleLocal_some hheap]
        rintro ⟨hentry, -⟩
        rw [setTunnelHandle_of_wrapper hwrapper] at hentry
        have hcontents := hentry rfl
        simp [contents, hwrapper] at hcontents
      · rw [replaces_some_iff hdup hfresh hwrapper remote hheap hlimit]
        exact ⟨fun h => ⟨hwrapper, hlimit, hheap, h⟩, fun h => h.2.2.2⟩
    · refine iff_of_false ?_ fun h => hlimit h.2.1
      rw [replaces_iff, setTunnelHandleLocal_some hheap]
      rintro ⟨-, hret, -⟩
      rw [setTunnelHandleClient_over (not_le.mp hlimit)] at hret
      exact (s.ret_setTunnelHandle _).1 hret.symm
  · refine iff_of_false ?_ fun h => hheap h.2.2.1
    rw [replaces_iff]
    rintro ⟨-, hret, -⟩
    rw [Bool.not_eq_true] at hheap
    rw [setTunnelHandleLocal_heapless hheap] at hret
    have hclient : (s.setTunnelHandleClient r (some handle)).1 = .invalidArguments ∨
        (s.setTunnelHandleClient r (some handle)).1 = .binder :=
      setTunnelHandleClient_heapless hheap
    rcases hclient with h | h <;> rw [h] at hret <;> cases hret

theorem replaces_iff_canReplace (hdup : s.Duplicated) {call : TunnelHandleCall F}
    (hfresh : s.FreshFd call) : s.Replaces call ↔ s.CanReplace call := by
  cases call with
  | setTunnelHandle remote r handle =>
    cases handle with
    | none => exact replaces_none_iff remote
    | some handle => exact replaces_handle_iff hdup hfresh remote
  | registerConsumerListener | registerConsumerListenerClazz | unregisterConsumerListener =>
    exact Iff.rfl

theorem duplicated_empty : Duplicated ({} : TunnelHandles F) := by
  intro own hown
  cases hown

theorem duplicated_wrapped (r : HandleResources) (handle : GraphicExtDataHandle F) :
    Duplicated { s with tunnelHandle := some (wrapped r handle) } := by
  rintro own hown hclosed
  obtain rfl : { handle with fd := handle.fd.dup r.newFd } = own := by
    simpa [wrapped] using hown
  exact Descriptor.number_dup hclosed

theorem Duplicated.setTunnelHandle (h : s.Duplicated) {w : Option (SurfaceTunnelHandle F)}
    (hw : Duplicated { s with tunnelHandle := w }) : (s.setTunnelHandle w).2.Duplicated := by
  unfold TunnelHandles.setTunnelHandle
  split
  · exact h
  · exact hw
  · split_ifs
    · exact hw
    · exact h

theorem Duplicated.next (h : s.Duplicated) {call : TunnelHandleCall F} (hcan : s.CanReplace call) :
    (s.next call).Duplicated := by
  cases call with
  | setTunnelHandle remote r handle =>
    cases handle with
    | none =>
      cases remote
      · exact h.setTunnelHandle (w := some ⟨none⟩) nofun
      · exact h.setTunnelHandle (w := none) nofun
    | some handle =>
      obtain ⟨-, hlimit, hheap, hkeeps⟩ := hcan
      cases remote
      · rw [TunnelHandles.next, setTunnelHandleBy, if_neg (by decide),
          setTunnelHandleLocal_some hheap]
        exact h.setTunnelHandle (duplicated_wrapped r handle)
      · rw [TunnelHandles.next, setTunnelHandleBy, if_pos rfl,
          setTunnelHandleClient_some hlimit hheap fun hopen => (hkeeps hopen).1]
        exact h.setTunnelHandle (duplicated_wrapped r _)
  | registerConsumerListener | registerConsumerListenerClazz | unregisterConsumerListener => exact h

/-- Over any run of calls from a queue without a handle, a handle can be replaced by a different one
and the two ways to make a call agree exactly when no call without a handle comes while nothing is
stored, none with a handle finds a wrapper around none, and the handles fit a parcel and the memory
and keep their descriptors. -/
theorem run_replaces_iff {calls : List (TunnelHandleCall F)} (hfresh : Legal next FreshFd {} calls) :
    Legal next Replaces {} calls ↔ Legal next CanReplace {} calls :=
  legal_congr_of Duplicated (fun _ _ hdup h => replaces_iff_canReplace hdup h)
    (fun _ _ hdup _ hcan => hdup.next hcan) duplicated_empty hfresh

def plenty (n m : FreeNumber) : HandleResources := ⟨true, true, some n, some m⟩

/-- Two handles without a descriptor, one set here and one by a client, each replaced by the next. -/
theorem run_replaces_two : Legal next Replaces ({} : TunnelHandles ℕ)
    [.setTunnelHandle false (plenty ⟨4, by decide⟩ ⟨5, by decide⟩) (some ⟨.closed ℕ, [0]⟩),
      .setTunnelHandle true (plenty ⟨4, by decide⟩ ⟨5, by decide⟩) (some ⟨.closed ℕ, [1]⟩)] := by
  have hfresh : Legal next FreshFd ({} : TunnelHandles ℕ)
      [.setTunnelHandle false (plenty ⟨4, by decide⟩ ⟨5, by decide⟩) (some ⟨.closed ℕ, [0]⟩),
        .setTunnelHandle true (plenty ⟨4, by decide⟩ ⟨5, by decide⟩) (some ⟨.closed ℕ, [1]⟩)] := by
    refine ⟨fun _ _ _ hown => absurd hown nofun, ?_, trivial⟩
    rintro n - own hown hopen
    obtain rfl : own = ⟨.closed ℕ, [0]⟩ := by
      have hstored : some (SurfaceTunnelHandle.mk (some ⟨.closed ℕ, [0]⟩)) = some ⟨some own⟩ := hown
      simpa using hstored.symm
    cases hopen
  refine (run_replaces_iff hfresh).mpr ⟨?_, ?_, trivial⟩
  · exact ⟨nofun, by decide, rfl, nofun⟩
  · exact ⟨by decide, by decide, rfl, nofun⟩

/-- A null handle set in the queue's process leaves a wrapper that no handle replaces. -/
theorem run_stuck_wrapper : ¬ ∀ calls : List (TunnelHandleCall ℕ), Legal next FreshFd {} calls →
    Legal next Replaces {} calls := by
  intro h
  have hrun := h [.setTunnelHandle false (plenty ⟨4, by decide⟩ ⟨5, by decide⟩) none,
    .setTunnelHandle false (plenty ⟨4, by decide⟩ ⟨5, by decide⟩) (some ⟨.closed ℕ, [0]⟩)]
    ⟨fun _ _ _ hown => absurd hown nofun, fun _ _ _ hown => absurd hown nofun, trivial⟩
  have hcontents := hrun.2.1.1 rfl
  cases hcontents

/-- An open descriptor that `dup` has no number for compares equal to none. -/
example : ¬ Replaces ({ tunnelHandle := some ⟨some ⟨.closed ℕ, [0]⟩⟩ } : TunnelHandles ℕ)
    (.setTunnelHandle false { plenty ⟨4, by decide⟩ ⟨5, by decide⟩ with newFd := none }
      (some ⟨.opened ⟨6, by decide⟩ 0, [0]⟩)) := by
  intro h
  cases h.1 rfl

end TunnelHandles

end GraphicSurface
