import DemuxUsb.Library.Endian

/-!
# Capture bytes and structures

The definitions of `demuxusb.hpp`. A `byte_array` is the list of its bytes; the null
array is the empty list, which no structure can be read from. A trivially copyable
structure is described by its `Layout`, the little endian image `std::memcpy` moves.
-/

namespace DemuxUsb

abbrev Bytes := List UInt8

/-! ## Endpoint addresses -/

def usbEndpointIn (endpoint : UInt8) : Bool := endpoint &&& 0x80 != 0
def usbEndpointOut (endpoint : UInt8) : Bool := !usbEndpointIn endpoint
def usbEndpointId (endpoint : UInt8) : UInt8 := endpoint &&& 0x7F

theorem usbEndpointOut_iff {endpoint : UInt8} :
    usbEndpointOut endpoint = true ↔ usbEndpointIn endpoint = false := by
  simp [usbEndpointOut]

theorem usbEndpointId_idem (endpoint : UInt8) :
    usbEndpointId (usbEndpointId endpoint) = usbEndpointId endpoint := by
  simp [usbEndpointId, UInt8.and_assoc]

/-! ## Apple identifiers -/

def appleVid : UInt16 := 0x05ac
def usbClassApplicationSpecific : UInt8 := 0xFF
def usbSubclassDfu : UInt8 := 0x01
def appleSubclassUsbmux : UInt8 := 0xFE
def appleProtocolUsbmux2 : UInt8 := 0x02

def irecvKRecoveryMode1 : UInt16 := 0x1280
def irecvKRecoveryMode2 : UInt16 := 0x1281
def irecvKRecoveryMode3 : UInt16 := 0x1282
def irecvKRecoveryMode4 : UInt16 := 0x1283
def irecvKWtfMode : UInt16 := 0x1222
def irecvKDfuMode : UInt16 := 0x1227

/-! ## Structures in capture memory -/

/-- The image of a trivially copyable structure. `decode` is only ever applied to
`size` bytes, except where the source copies fewer bytes over a zeroed structure. -/
class Layout (T : Type) where
  size : Nat
  decode : Bytes → T
  encode : T → Bytes
  length_encode : ∀ t, (encode t).length = size
  decode_encode : ∀ t, decode (encode t) = t

attribute [simp] Layout.length_encode Layout.decode_encode

/-- Copies a structure out of capture memory, or fails when too little is there. -/
def readStruct (T : Type) [Layout T] (data : Bytes) : Option T :=
  if data.length < Layout.size T then none else some (Layout.decode (data.take (Layout.size T)))

section ReadStruct

variable {T : Type} [Layout T]

theorem readStruct_of_lt {data : Bytes} (h : data.length < Layout.size T) :
    readStruct T data = none := if_pos h

theorem readStruct_of_le {data : Bytes} (h : Layout.size T ≤ data.length) :
    readStruct T data = some (Layout.decode (data.take (Layout.size T))) := if_neg (by omega)

theorem size_le_of_readStruct {data : Bytes} {t : T} (h : readStruct T data = some t) :
    Layout.size T ≤ data.length := by
  by_contra hlt
  rw [readStruct_of_lt (by omega)] at h
  cases h

/-- A structure is read back from its image, whatever follows. -/
@[simp] theorem readStruct_encode (t : T) (r : Bytes) :
    readStruct T (Layout.encode t ++ r) = some t := by
  rw [readStruct_of_le (by simp), ← Layout.length_encode t, List.take_left, Layout.decode_encode]

/-- Bytes behind the structure are not looked at. -/
theorem readStruct_append {data : Bytes} (h : Layout.size T ≤ data.length) (r : Bytes) :
    readStruct T (data ++ r) = readStruct T data := by
  rw [readStruct_of_le h, readStruct_of_le (by rw [List.length_append]; omega),
    List.take_append_of_le_length h]

end ReadStruct

/-! ## String descriptors -/

/-- A continuation byte: the low six bits of `value`. -/
def utf8Trail (value : UInt32) : UInt8 := ((0x80 : UInt32) ||| (value &&& 0x3F)).toUInt8

/-- The UTF-8 bytes `utf16leToUtf8` emits for one code point. -/
def utf8OfCodepoint (codepoint : UInt32) : Bytes :=
  if codepoint < 0x80 then [codepoint.toUInt8]
  else if codepoint < 0x800 then
    [((0xC0 : UInt32) ||| (codepoint >>> 6)).toUInt8, utf8Trail codepoint]
  else if codepoint < 0x10000 then
    [((0xE0 : UInt32) ||| (codepoint >>> 12)).toUInt8, utf8Trail (codepoint >>> 6),
      utf8Trail codepoint]
  else
    [((0xF0 : UInt32) ||| (codepoint >>> 18)).toUInt8, utf8Trail (codepoint >>> 12),
      utf8Trail (codepoint >>> 6), utf8Trail codepoint]

/-- Decodes UTF-16LE (as used by USB string descriptors) into UTF-8. An unpaired
surrogate becomes U+FFFD; a last odd byte is ignored. -/
def utf16leToUtf8 (data : Bytes) : Bytes :=
  match data with
  | b₀ :: b₁ :: rest =>
    let unit := b₀.toUInt32 ||| (b₁.toUInt32 <<< 8)
    if 0xD800 ≤ unit ∧ unit ≤ 0xDBFF ∧ 2 ≤ rest.length then
      let low := (Endian.u8 rest 0).toUInt32 ||| ((Endian.u8 rest 1).toUInt32 <<< 8)
      if 0xDC00 ≤ low ∧ low ≤ 0xDFFF then
        utf8OfCodepoint ((0x10000 : UInt32) + ((unit - 0xD800) <<< 10) + (low - 0xDC00)) ++
          utf16leToUtf8 (rest.drop 2)
      else utf8OfCodepoint 0xFFFD ++ utf16leToUtf8 rest
    else if 0xD800 ≤ unit ∧ unit ≤ 0xDFFF then utf8OfCodepoint 0xFFFD ++ utf16leToUtf8 rest
    else utf8OfCodepoint unit ++ utf16leToUtf8 rest
  | _ => []
termination_by data.length
decreasing_by
  all_goals
    rw [List.length_cons, List.length_cons]
    try rw [List.length_drop]
    omega

/-! ## Packed identifiers -/

/-- A number put above another one that fits below it. -/
theorem toNat_shiftLeft_or64 {a b : UInt64} {k : Nat} (hk : k < 64)
    (ha : a.toNat * 2 ^ k < 2 ^ 64) (hb : b.toNat < 2 ^ k) :
    ((a <<< UInt64.ofNat k) ||| b).toNat = a.toNat * 2 ^ k + b.toNat := by
  have hmod : (UInt64.ofNat k).toNat % 64 = k := by
    rw [UInt64.toNat_ofNat']
    omega
  rw [UInt64.toNat_or, UInt64.toNat_shiftLeft, hmod, Nat.shiftLeft_eq, Nat.mod_eq_of_lt ha,
    ← Nat.shiftLeft_eq, ← Nat.shiftLeft_add_eq_or_of_lt hb, Nat.shiftLeft_eq]

theorem toNat_shiftLeft_or32 {a b : UInt32} {k : Nat} (hk : k < 32)
    (ha : a.toNat * 2 ^ k < 2 ^ 32) (hb : b.toNat < 2 ^ k) :
    ((a <<< UInt32.ofNat k) ||| b).toNat = a.toNat * 2 ^ k + b.toNat := by
  have hmod : (UInt32.ofNat k).toNat % 32 = k := by
    rw [UInt32.toNat_ofNat']
    omega
  rw [UInt32.toNat_or, UInt32.toNat_shiftLeft, hmod, Nat.shiftLeft_eq, Nat.mod_eq_of_lt ha,
    ← Nat.shiftLeft_eq, ← Nat.shiftLeft_add_eq_or_of_lt hb, Nat.shiftLeft_eq]

/-- Both numbers can be read off. -/
theorem packed_inj {a a' b b' n : Nat} (hb : b < n) (hb' : b' < n)
    (h : a * n + b = a' * n + b') : a = a' ∧ b = b' := by
  have hlow : b = b' := by
    have hmod := congrArg (· % n) h
    simpa [Nat.mod_eq_of_lt hb, Nat.mod_eq_of_lt hb'] using hmod
  rw [hlow] at h
  exact ⟨Nat.eq_of_mul_eq_mul_right (by omega) (Nat.add_right_cancel h), hlow⟩

theorem shiftLeft_or64_inj {a a' b b' : UInt64} {k : Nat} (hk : k < 64)
    (ha : a.toNat * 2 ^ k < 2 ^ 64) (ha' : a'.toNat * 2 ^ k < 2 ^ 64)
    (hb : b.toNat < 2 ^ k) (hb' : b'.toNat < 2 ^ k)
    (h : (a <<< UInt64.ofNat k) ||| b = (a' <<< UInt64.ofNat k) ||| b') : a = a' ∧ b = b' := by
  have heq := congrArg UInt64.toNat h
  rw [toNat_shiftLeft_or64 hk ha hb, toNat_shiftLeft_or64 hk ha' hb'] at heq
  obtain ⟨hhigh, hlow⟩ := packed_inj hb hb' heq
  exact ⟨UInt64.toNat_inj.mp hhigh, UInt64.toNat_inj.mp hlow⟩

theorem shiftLeft_or32_inj {a a' b b' : UInt32} {k : Nat} (hk : k < 32)
    (ha : a.toNat * 2 ^ k < 2 ^ 32) (ha' : a'.toNat * 2 ^ k < 2 ^ 32)
    (hb : b.toNat < 2 ^ k) (hb' : b'.toNat < 2 ^ k)
    (h : (a <<< UInt32.ofNat k) ||| b = (a' <<< UInt32.ofNat k) ||| b') : a = a' ∧ b = b' := by
  have heq := congrArg UInt32.toNat h
  rw [toNat_shiftLeft_or32 hk ha hb, toNat_shiftLeft_or32 hk ha' hb'] at heq
  obtain ⟨hhigh, hlow⟩ := packed_inj hb hb' heq
  exact ⟨UInt32.toNat_inj.mp hhigh, UInt32.toNat_inj.mp hlow⟩

/-! ## Formatted text -/

/-- `%0<width>x` of the source's format strings. -/
def hexText (width n : Nat) : String :=
  let digits := Nat.toDigits 16 n
  String.ofList (List.replicate (width - digits.length) '0' ++ digits)

end DemuxUsb
