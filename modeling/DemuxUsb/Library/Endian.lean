import Mathlib.Algebra.Group.Nat.Defs
import Mathlib.Data.List.Basic

/-!
# Integers in byte sequences

`leNat` and `beNat` read a byte sequence as a number, `leBytes` and `beBytes` write
one. A fixed width reader such as `le32 data off` reads the `field` of its width at
`off`; bytes that are not there count as zero, so a caller that needs them checks the
length first.

The three facts about `field` are all that is needed to decode a record of known
layout: it is found at the front (`field_zero_append`), behind what precedes it
(`field_append_right`), and does not depend on what follows (`field_append_left`).
-/

namespace Endian

/-! ## Numbers and bytes -/

/-- The value of a byte sequence, least significant byte first. -/
def leNat : List UInt8 → Nat
  | [] => 0
  | b :: bs => b.toNat + 256 * leNat bs

/-- The value of a byte sequence, most significant byte first. -/
def beNat (bs : List UInt8) : Nat := leNat bs.reverse

/-- The low `n` bytes of `v`, least significant first. -/
def leBytes : Nat → Nat → List UInt8
  | 0, _ => []
  | n + 1, v => UInt8.ofNat v :: leBytes n (v / 256)

def beBytes (n v : Nat) : List UInt8 := (leBytes n v).reverse

@[simp] theorem length_leBytes (n v : Nat) : (leBytes n v).length = n := by
  induction n generalizing v with
  | zero => rfl
  | succ n ih => simp [leBytes, ih]

@[simp] theorem length_beBytes (n v : Nat) : (beBytes n v).length = n := by
  simp [beBytes]

theorem leNat_leBytes (n v : Nat) : leNat (leBytes n v) = v % 256 ^ n := by
  induction n generalizing v with
  | zero => simp [leBytes, leNat, Nat.mod_one]
  | succ n ih =>
    have hb : (UInt8.ofNat v).toNat = v % 256 := rfl
    rw [leBytes, leNat, ih, hb, Nat.pow_succ, Nat.mul_comm (256 ^ n), Nat.mod_mul]

theorem leNat_leBytes_of_lt {n v : Nat} (h : v < 256 ^ n) : leNat (leBytes n v) = v := by
  rw [leNat_leBytes, Nat.mod_eq_of_lt h]

theorem leBytes_leNat (bs : List UInt8) : leBytes bs.length (leNat bs) = bs := by
  induction bs with
  | nil => rfl
  | cons b bs ih =>
    have hb := b.toNat_lt
    have hhead : UInt8.ofNat (b.toNat + 256 * leNat bs) = b := by
      apply UInt8.toNat_inj.mp
      rw [UInt8.toNat_ofNat']
      omega
    have htail : (b.toNat + 256 * leNat bs) / 256 = leNat bs := by omega
    rw [List.length_cons, leNat, leBytes, hhead, htail, ih]

theorem leNat_append (bs cs : List UInt8) :
    leNat (bs ++ cs) = leNat bs + 256 ^ bs.length * leNat cs := by
  induction bs with
  | nil => simp [leNat]
  | cons b bs ih =>
    rw [List.cons_append, leNat, ih, leNat, List.length_cons, Nat.pow_succ', Nat.mul_add,
      Nat.mul_assoc, Nat.add_assoc]

theorem beNat_append (bs cs : List UInt8) :
    beNat (bs ++ cs) = beNat bs * 256 ^ cs.length + beNat cs := by
  rw [beNat, List.reverse_append, leNat_append, List.length_reverse, Nat.add_comm, Nat.mul_comm]
  rfl

theorem beNat_beBytes_of_lt {n v : Nat} (h : v < 256 ^ n) : beNat (beBytes n v) = v := by
  rw [beNat, beBytes, List.reverse_reverse, leNat_leBytes_of_lt h]

/-! ## Fields -/

/-- The `n` bytes at offset `off`, or as many of them as there are. -/
def field (data : List UInt8) (off n : Nat) : List UInt8 := (data.drop off).take n

theorem field_append_left {l : List UInt8} {off n : Nat} (h : off + n ≤ l.length)
    (r : List UInt8) : field (l ++ r) off n = field l off n := by
  have hlen : n ≤ (l.drop off).length := by
    rw [List.length_drop]
    omega
  rw [field, field, List.drop_append_of_le_length (by omega), List.take_append_of_le_length hlen]

theorem field_append_right {l : List UInt8} {off : Nat} (h : l.length ≤ off)
    (r : List UInt8) (n : Nat) : field (l ++ r) off n = field r (off - l.length) n := by
  rw [field, field, List.drop_append, List.drop_eq_nil_of_le h, List.nil_append]

theorem field_zero_append {l : List UInt8} {n : Nat} (h : l.length = n) (r : List UInt8) :
    field (l ++ r) 0 n = l := by
  rw [field, List.drop_zero, ← h, List.take_left]

/-! ## Fixed width readers and writers -/

def u8 (data : List UInt8) (off : Nat) : UInt8 := data.getD off 0
def le16 (data : List UInt8) (off : Nat) : UInt16 := UInt16.ofNat (leNat (field data off 2))
def le32 (data : List UInt8) (off : Nat) : UInt32 := UInt32.ofNat (leNat (field data off 4))
def le64 (data : List UInt8) (off : Nat) : UInt64 := UInt64.ofNat (leNat (field data off 8))
def be16 (data : List UInt8) (off : Nat) : UInt16 := UInt16.ofNat (beNat (field data off 2))
def be32 (data : List UInt8) (off : Nat) : UInt32 := UInt32.ofNat (beNat (field data off 4))

def le16Bytes (v : UInt16) : List UInt8 := leBytes 2 v.toNat
def le32Bytes (v : UInt32) : List UInt8 := leBytes 4 v.toNat
def le64Bytes (v : UInt64) : List UInt8 := leBytes 8 v.toNat
def be16Bytes (v : UInt16) : List UInt8 := beBytes 2 v.toNat
def be32Bytes (v : UInt32) : List UInt8 := beBytes 4 v.toNat

@[simp] theorem length_le16Bytes (v : UInt16) : (le16Bytes v).length = 2 := length_leBytes 2 _
@[simp] theorem length_le32Bytes (v : UInt32) : (le32Bytes v).length = 4 := length_leBytes 4 _
@[simp] theorem length_le64Bytes (v : UInt64) : (le64Bytes v).length = 8 := length_leBytes 8 _
@[simp] theorem length_be16Bytes (v : UInt16) : (be16Bytes v).length = 2 := length_beBytes 2 _
@[simp] theorem length_be32Bytes (v : UInt32) : (be32Bytes v).length = 4 := length_beBytes 4 _

@[simp] theorem u8_cons_zero (b : UInt8) (r : List UInt8) : u8 (b :: r) 0 = b := rfl

@[simp] theorem u8_cons_succ (b : UInt8) (r : List UInt8) (off : Nat) :
    u8 (b :: r) (off + 1) = u8 r off := by
  simp [u8]

@[simp] theorem le16_cons_succ (b : UInt8) (r : List UInt8) (off : Nat) :
    le16 (b :: r) (off + 1) = le16 r off := rfl

@[simp] theorem le32_cons_succ (b : UInt8) (r : List UInt8) (off : Nat) :
    le32 (b :: r) (off + 1) = le32 r off := rfl

@[simp] theorem le64_cons_succ (b : UInt8) (r : List UInt8) (off : Nat) :
    le64 (b :: r) (off + 1) = le64 r off := rfl

@[simp] theorem le16_le16Bytes_append (v : UInt16) (r : List UInt8) :
    le16 (le16Bytes v ++ r) 0 = v := by
  rw [le16, field_zero_append (length_le16Bytes v), le16Bytes,
    leNat_leBytes_of_lt v.toNat_lt, UInt16.ofNat_toNat]

@[simp] theorem le16_le16Bytes (v : UInt16) : le16 (le16Bytes v) 0 = v := by
  simpa using le16_le16Bytes_append v []

/-- Two bytes are what is written for the number they spell. -/
theorem le16Bytes_le16 (x y : UInt8) (r : List UInt8) :
    le16Bytes (le16 (x :: y :: r) 0) = [x, y] := by
  have hfield : field (x :: y :: r) 0 2 = [x, y] := rfl
  have hx := x.toNat_lt
  have hy := y.toNat_lt
  have hval : (UInt16.ofNat (leNat [x, y])).toNat = leNat [x, y] := by
    rw [UInt16.toNat_ofNat']
    simp only [leNat]
    omega
  rw [le16, hfield, le16Bytes, hval]
  exact leBytes_leNat [x, y]

theorem be16Bytes_be16 (x y : UInt8) (r : List UInt8) :
    be16Bytes (be16 (x :: y :: r) 0) = [x, y] := by
  have hfield : field (x :: y :: r) 0 2 = [x, y] := rfl
  have hx := x.toNat_lt
  have hy := y.toNat_lt
  have hval : (UInt16.ofNat (beNat [x, y])).toNat = leNat [y, x] := by
    rw [UInt16.toNat_ofNat']
    simp only [beNat, List.reverse_cons, List.reverse_nil, List.nil_append, List.cons_append, leNat]
    omega
  rw [be16, hfield, be16Bytes, hval, beBytes]
  exact congrArg List.reverse (leBytes_leNat [y, x])

@[simp] theorem le32_le32Bytes_append (v : UInt32) (r : List UInt8) :
    le32 (le32Bytes v ++ r) 0 = v := by
  rw [le32, field_zero_append (length_le32Bytes v), le32Bytes,
    leNat_leBytes_of_lt v.toNat_lt, UInt32.ofNat_toNat]

@[simp] theorem le32_le32Bytes (v : UInt32) : le32 (le32Bytes v) 0 = v := by
  simpa using le32_le32Bytes_append v []

@[simp] theorem le64_le64Bytes_append (v : UInt64) (r : List UInt8) :
    le64 (le64Bytes v ++ r) 0 = v := by
  rw [le64, field_zero_append (length_le64Bytes v), le64Bytes,
    leNat_leBytes_of_lt v.toNat_lt, UInt64.ofNat_toNat]

@[simp] theorem le64_le64Bytes (v : UInt64) : le64 (le64Bytes v) 0 = v := by
  simpa using le64_le64Bytes_append v []

@[simp] theorem be16_be16Bytes_append (v : UInt16) (r : List UInt8) :
    be16 (be16Bytes v ++ r) 0 = v := by
  rw [be16, field_zero_append (length_be16Bytes v), be16Bytes,
    beNat_beBytes_of_lt v.toNat_lt, UInt16.ofNat_toNat]

@[simp] theorem be16_be16Bytes (v : UInt16) : be16 (be16Bytes v) 0 = v := by
  simpa using be16_be16Bytes_append v []

@[simp] theorem be32_be32Bytes_append (v : UInt32) (r : List UInt8) :
    be32 (be32Bytes v ++ r) 0 = v := by
  rw [be32, field_zero_append (length_be32Bytes v), be32Bytes,
    beNat_beBytes_of_lt v.toNat_lt, UInt32.ofNat_toNat]

/-- Two halves of a number, the more significant one first. -/
theorem be32_be16Bytes_append (high low : UInt16) (r : List UInt8) :
    be32 (be16Bytes high ++ (be16Bytes low ++ r)) 0 =
      UInt32.ofNat (high.toNat * 2 ^ 16 + low.toNat) := by
  have hlen : (be16Bytes high ++ be16Bytes low).length = 4 := by simp
  rw [be32, ← List.append_assoc, field_zero_append hlen, beNat_append, be16Bytes, be16Bytes,
    beNat_beBytes_of_lt high.toNat_lt, beNat_beBytes_of_lt low.toNat_lt, length_beBytes,
    show 256 ^ 2 = 2 ^ 16 from rfl]

section Append

variable {l : List UInt8} {off : Nat} (r : List UInt8)

theorem u8_append_left (h : off < l.length) : u8 (l ++ r) off = u8 l off := by
  simp [u8, List.getElem?_append_left h]

theorem u8_append_right (h : l.length ≤ off) : u8 (l ++ r) off = u8 r (off - l.length) := by
  simp [u8, List.getElem?_append_right h]

theorem le16_append_right (h : l.length ≤ off) :
    le16 (l ++ r) off = le16 r (off - l.length) := by
  rw [le16, field_append_right h, le16]

theorem le32_append_right (h : l.length ≤ off) :
    le32 (l ++ r) off = le32 r (off - l.length) := by
  rw [le32, field_append_right h, le32]

theorem le64_append_right (h : l.length ≤ off) :
    le64 (l ++ r) off = le64 r (off - l.length) := by
  rw [le64, field_append_right h, le64]

theorem be16_append_right (h : l.length ≤ off) :
    be16 (l ++ r) off = be16 r (off - l.length) := by
  rw [be16, field_append_right h, be16]

theorem be32_append_left (h : off + 4 ≤ l.length) : be32 (l ++ r) off = be32 l off := by
  rw [be32, field_append_left h, be32]

theorem be32_append_right (h : l.length ≤ off) :
    be32 (l ++ r) off = be32 r (off - l.length) := by
  rw [be32, field_append_right h, be32]

end Append

end Endian
