import Mathlib.Tactic

/-! Fixed-size records in memory: the bytes of a value, and the value of as many bytes. What a
layout accepts is exactly what it writes, so that copying bytes to and fro loses nothing. A number
of several bytes has its low byte first, and a bit field its low bits first. -/

namespace GraphicSurface.Layouts

structure Layout (α : Type) where
  size : ℕ
  write : α → List UInt8
  read : List UInt8 → α
  length_write : ∀ a, (write a).length = size
  read_write : ∀ a, read (write a) = a
  write_read : ∀ bs, bs.length = size → write (read bs) = bs

namespace Layout

variable {α β : Type} {A : Layout α} {B : Layout β}

/-- Only as many bytes as the record has are read. -/
def read? (A : Layout α) (bs : List UInt8) : Option α :=
  if bs.length = A.size then some (A.read bs) else none

theorem read?_write (a : α) : A.read? (A.write a) = some a := by
  rw [read?, if_pos (A.length_write a), A.read_write]

theorem read?_eq_some {bs : List UInt8} {a : α} : A.read? bs = some a ↔ bs = A.write a := by
  constructor
  · intro h
    obtain ⟨hlength, hread⟩ := Option.ite_none_right_eq_some.mp h
    rw [← Option.some.inj hread, A.write_read bs hlength]
  · rintro rfl
    exact read?_write a

section Byte

theorem byte_length (b : UInt8) : [b].length = 1 := rfl

theorem byte_read (b : UInt8) : [b].headD 0 = b := rfl

theorem byte_write (bs : List UInt8) (h : bs.length = 1) : [bs.headD 0] = bs := by
  obtain ⟨b, rfl⟩ := List.length_eq_one_iff.mp h
  rfl

def byte : Layout UInt8 where
  size := 1
  write b := [b]
  read bs := bs.headD 0
  length_write := byte_length
  read_write := byte_read
  write_read := byte_write

end Byte

section Seq

variable (A B)

theorem seq_length (p : α × β) : (A.write p.1 ++ B.write p.2).length = A.size + B.size := by
  rw [List.length_append, A.length_write, B.length_write]

theorem seq_read (p : α × β) :
    (A.read ((A.write p.1 ++ B.write p.2).take A.size),
      B.read ((A.write p.1 ++ B.write p.2).drop A.size)) = p := by
  rw [List.take_left' (A.length_write p.1), List.drop_left' (A.length_write p.1), A.read_write,
    B.read_write]

theorem seq_write (bs : List UInt8) (h : bs.length = A.size + B.size) :
    A.write (A.read (bs.take A.size)) ++ B.write (B.read (bs.drop A.size)) = bs := by
  have hfirst : (bs.take A.size).length = A.size := by
    rw [List.length_take, h, Nat.min_eq_left (Nat.le_add_right ..)]
  have hrest : (bs.drop A.size).length = B.size := by
    rw [List.length_drop, h, Nat.add_sub_cancel_left]
  rw [A.write_read _ hfirst, B.write_read _ hrest, List.take_append_drop]

/-- One record after the other, without padding. -/
def seq : Layout (α × β) where
  size := A.size + B.size
  write p := A.write p.1 ++ B.write p.2
  read bs := (A.read (bs.take A.size), B.read (bs.drop A.size))
  length_write := A.seq_length B
  read_write := A.seq_read B
  write_read := A.seq_write B

end Seq

section Along

variable (A) (e : α ≃ β)

theorem along_read (b : β) : e (A.read (A.write (e.symm b))) = b := by
  rw [A.read_write, e.apply_symm_apply]

theorem along_write (bs : List UInt8) (h : bs.length = A.size) :
    A.write (e.symm (e (A.read bs))) = bs := by
  rw [e.symm_apply_apply, A.write_read bs h]

/-- The same bytes, read as something else. -/
def along : Layout β where
  size := A.size
  write b := A.write (e.symm b)
  read bs := e (A.read bs)
  length_write b := A.length_write (e.symm b)
  read_write := A.along_read e
  write_read := A.along_write e

end Along

end Layout

section Numbers

variable {m n : ℕ}

theorem join_left (p : BitVec m × BitVec n) :
    ((p.2 ++ p.1).extractLsb' 0 m, (p.2 ++ p.1).extractLsb' m n) = p := by
  rw [BitVec.extractLsb'_append_eq_right, BitVec.extractLsb'_append_eq_left]

theorem join_right (x : BitVec (n + m)) : x.extractLsb' m n ++ x.extractLsb' 0 m = x :=
  BitVec.extractLsb'_append_extractLsb'

/-- Two bit fields, the low one first. -/
def join : BitVec m × BitVec n ≃ BitVec (n + m) where
  toFun p := p.2 ++ p.1
  invFun x := (x.extractLsb' 0 m, x.extractLsb' m n)
  left_inv := join_left
  right_inv := join_right

theorem bits8_left (b : UInt8) : UInt8.ofBitVec b.toBitVec = b := rfl

theorem bits8_right (x : BitVec 8) : (UInt8.ofBitVec x).toBitVec = x := rfl

def bits8 : UInt8 ≃ BitVec 8 := ⟨UInt8.toBitVec, UInt8.ofBitVec, bits8_left, bits8_right⟩

theorem bits16_left (b : UInt16) : UInt16.ofBitVec b.toBitVec = b := rfl

theorem bits16_right (x : BitVec 16) : (UInt16.ofBitVec x).toBitVec = x := rfl

def bits16 : UInt16 ≃ BitVec 16 := ⟨UInt16.toBitVec, UInt16.ofBitVec, bits16_left, bits16_right⟩

theorem bits32_left (b : UInt32) : UInt32.ofBitVec b.toBitVec = b := rfl

theorem bits32_right (x : BitVec 32) : (UInt32.ofBitVec x).toBitVec = x := rfl

def bits32 : UInt32 ≃ BitVec 32 := ⟨UInt32.toBitVec, UInt32.ofBitVec, bits32_left, bits32_right⟩

end Numbers

namespace Layout

def word8 : Layout (BitVec 8) := byte.along bits8

def word16 : Layout (BitVec 16) := (word8.seq word8).along (join (m := 8) (n := 8))

def word32 : Layout (BitVec 32) := (word16.seq word16).along (join (m := 16) (n := 16))

def uint16 : Layout UInt16 := word16.along bits16.symm

def uint32 : Layout UInt32 := word32.along bits32.symm

/-- Two bit fields that share a byte. -/
def nibbles : Layout (BitVec 4 × BitVec 4) := word8.along (join (m := 4) (n := 4)).symm

example : uint32.write 0x01020304 = [4, 3, 2, 1] ∧ nibbles.write (0xA, 0x5) = [0x5A] := by decide

end Layout

end GraphicSurface.Layouts
