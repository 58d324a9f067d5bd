import DemuxUsb.Base
import DemuxUsb.Library.Utf16

/-!
# String descriptors

The text of a string descriptor is UTF-16LE. `units` splits it into 16 bit units, whose
scalar values `Utf16.decode` says, and `utf16leToUtf8` writes these in UTF-8.
-/

namespace DemuxUsb

open Endian

/-! ## Units -/

/-- The little endian 16 bit units of a byte sequence; a last odd byte is ignored. -/
def units : Bytes → List UInt16
  | b₀ :: b₁ :: rest => le16 [b₀, b₁] 0 :: units rest
  | _ => []

/-- The bytes of a sequence of units. -/
def utf16leBytes (us : List UInt16) : Bytes := us.flatMap le16Bytes

theorem units_utf16leBytes (us : List UInt16) : units (utf16leBytes us) = us := by
  induction us with
  | nil => rfl
  | cons u us ih =>
    have hbytes : le16Bytes u = [UInt8.ofNat u.toNat, UInt8.ofNat (u.toNat / 256)] := rfl
    have hread := le16_le16Bytes u
    rw [hbytes] at hread
    unfold utf16leBytes at ih ⊢
    rw [List.flatMap_cons, hbytes, List.cons_append, List.singleton_append, units, ih, hread]

theorem toNat_le16_pair (b₀ b₁ : UInt8) : (le16 [b₀, b₁] 0).toNat = b₁.toNat * 2 ^ 8 + b₀.toNat := by
  have h₀ := b₀.toNat_lt
  have h₁ := b₁.toNat_lt
  have hvalue : leNat (field [b₀, b₁] 0 2) = b₀.toNat + 256 * (b₁.toNat + 256 * 0) := rfl
  rw [le16, UInt16.toNat_ofNat', hvalue]
  omega

theorem exists_cons_cons {data : Bytes} (h : 2 ≤ data.length) :
    ∃ b₀ b₁ rest, data = b₀ :: b₁ :: rest := by
  cases data with
  | nil => exact absurd h (by decide)
  | cons b₀ data =>
    cases data with
    | nil => exact absurd h (by simp)
    | cons b₁ rest => exact ⟨b₀, b₁, rest, rfl⟩

theorem units_eq_nil {data : Bytes} (h : data.length < 2) : units data = [] := by
  cases data with
  | nil => rfl
  | cons b₀ data =>
    cases data with
    | nil => rfl
    | cons b₁ rest => exact absurd h (by simp)

/-- The unit as the loop of `utf16leToUtf8` reads it. -/
theorem toNat_unit (b₀ b₁ : UInt8) :
    (b₀.toUInt32 ||| (b₁.toUInt32 <<< 8)).toNat = (le16 [b₀, b₁] 0).toNat := by
  have h₀ := b₀.toNat_lt
  have h₁ := b₁.toNat_lt
  rw [UInt32.or_comm, toNat_le16_pair]
  exact toNat_shiftLeft_or32 (k := 8) (by decide) (by rw [UInt8.toNat_toUInt32]; omega)
    (by rw [UInt8.toNat_toUInt32]; omega)

/-! ## UTF-8 -/

/-- A mark above a number that fits below it. -/
theorem toNat_mark_or {mark value : UInt32} {m k : Nat} (hmark : mark.toNat = m * 2 ^ k)
    (hvalue : value.toNat < 2 ^ k) : (mark ||| value).toNat = value.toNat + mark.toNat := by
  rw [UInt32.toNat_or, hmark, ← Nat.shiftLeft_eq, ← Nat.shiftLeft_add_eq_or_of_lt hvalue,
    Nat.add_comm]

/-- A byte after the first: six bits of the code point. -/
theorem utf8Trail_eq (value : UInt32) :
    utf8Trail value = UInt8.ofNat (value.toNat % 0x40 + 0x80) := by
  have hlow : (value &&& 0x3F).toNat = value.toNat % 2 ^ 6 := by
    rw [UInt32.toNat_and]
    exact Nat.and_two_pow_sub_one_eq_mod _ 6
  have hor : ((0x80 : UInt32) ||| (value &&& 0x3F)).toNat = (value &&& 0x3F).toNat + 0x80 :=
    toNat_mark_or (m := 2) (k := 6) rfl (by rw [hlow]; omega)
  apply UInt8.toNat_inj.mp
  rw [utf8Trail, UInt32.toNat_toUInt8, hor, hlow, UInt8.toNat_ofNat']
  rfl

theorem toNat_shiftRight {value s : UInt32} (hs : s.toNat < 32) :
    (value >>> s).toNat = value.toNat / 2 ^ s.toNat := by
  rw [UInt32.toNat_shiftRight, Nat.mod_eq_of_lt hs, Nat.shiftRight_eq_div_pow]

theorem utf8Trail_shiftRight {value s : UInt32} (hs : s.toNat < 32) :
    utf8Trail (value >>> s) = UInt8.ofNat (value.toNat / 2 ^ s.toNat % 0x40 + 0x80) := by
  rw [utf8Trail_eq, toNat_shiftRight hs]

/-- The first byte: the high bits of the code point under a mark. -/
theorem lead_eq {mark value s : UInt32} {m k : Nat} (hmark : mark.toNat = m * 2 ^ k)
    (hs : s.toNat < 32) (hvalue : value.toNat / 2 ^ s.toNat < 2 ^ k) :
    (mark ||| (value >>> s)).toUInt8 =
      UInt8.ofNat (value.toNat / 2 ^ s.toNat % 2 ^ k + mark.toNat) := by
  have hshifted : (value >>> s).toNat = value.toNat / 2 ^ s.toNat := toNat_shiftRight hs
  apply UInt8.toNat_inj.mp
  rw [UInt32.toNat_toUInt8, toNat_mark_or hmark (by rwa [hshifted]), hshifted,
    Nat.mod_eq_of_lt hvalue, UInt8.toNat_ofNat']

/-- The bytes of a scalar value. -/
theorem utf8OfCodepoint_eq {codepoint : UInt32} (hvalid : codepoint.toNat.isValidChar) :
    utf8OfCodepoint codepoint = String.utf8EncodeChar (Char.ofNat codepoint.toNat) := by
  have hchar : (Char.ofNat codepoint.toNat).val.toNat = codepoint.toNat :=
    Utf16.toNat_ofNat_of_isValidChar hvalid
  have hmax : codepoint.toNat < 0x110000 := by
    rcases hvalid with hvalid | ⟨-, hvalid⟩
    · omega
    · exact hvalid
  have hone : codepoint < 0x80 ↔ codepoint.toNat ≤ 0x7f := by
    rw [UInt32.lt_iff_toNat_lt]
    exact Nat.lt_succ_iff
  have htwo : codepoint < 0x800 ↔ codepoint.toNat ≤ 0x7ff := by
    rw [UInt32.lt_iff_toNat_lt]
    exact Nat.lt_succ_iff
  have hthree : codepoint < 0x10000 ↔ codepoint.toNat ≤ 0xffff := by
    rw [UInt32.lt_iff_toNat_lt]
    exact Nat.lt_succ_iff
  unfold utf8OfCodepoint String.utf8EncodeChar
  rw [hchar]
  dsimp only
  split
  · next h =>
    rw [if_pos (hone.mp h), UInt8.ofNat_uInt32ToNat]
  next h₁ =>
  rw [if_neg (fun h => h₁ (hone.mpr h))]
  split
  · next h =>
    have hle := htwo.mp h
    have hlead : ((0xC0 : UInt32) ||| (codepoint >>> 6)).toUInt8 =
        UInt8.ofNat (codepoint.toNat / 64 % 0x20 + 0xc0) :=
      lead_eq (m := 6) (k := 5) rfl (by decide) (Nat.div_lt_of_lt_mul (Nat.lt_succ_of_le hle))
    rw [if_pos hle, hlead, utf8Trail_eq]
  next h₂ =>
  rw [if_neg (fun h => h₂ (htwo.mpr h))]
  split
  · next h =>
    have hle := hthree.mp h
    have hlead : ((0xE0 : UInt32) ||| (codepoint >>> 12)).toUInt8 =
        UInt8.ofNat (codepoint.toNat / 4096 % 0x10 + 0xe0) :=
      lead_eq (m := 14) (k := 4) rfl (by decide) (Nat.div_lt_of_lt_mul (Nat.lt_succ_of_le hle))
    have htrail : utf8Trail (codepoint >>> 6) =
        UInt8.ofNat (codepoint.toNat / 64 % 0x40 + 0x80) := utf8Trail_shiftRight (by decide)
    rw [if_pos hle, hlead, htrail, utf8Trail_eq]
  next h₃ =>
  have hlead : ((0xF0 : UInt32) ||| (codepoint >>> 18)).toUInt8 =
      UInt8.ofNat (codepoint.toNat / 262144 % 0x08 + 0xf0) :=
    lead_eq (m := 30) (k := 3) rfl (by decide) (Nat.div_lt_of_lt_mul (Nat.lt_trans hmax (by decide)))
  have htrail₁ : utf8Trail (codepoint >>> 12) =
      UInt8.ofNat (codepoint.toNat / 4096 % 0x40 + 0x80) := utf8Trail_shiftRight (by decide)
  have htrail₂ : utf8Trail (codepoint >>> 6) =
      UInt8.ofNat (codepoint.toNat / 64 % 0x40 + 0x80) := utf8Trail_shiftRight (by decide)
  rw [if_neg (fun h => h₃ (hthree.mpr h)), hlead, htrail₁, htrail₂, utf8Trail_eq]

/-! ## Transcoding -/

/-- The surrogates of a pair, as the loop of `utf16leToUtf8` puts them together. -/
theorem toNat_pair {unit low : UInt32} {u v : UInt16} (hunit : unit.toNat = u.toNat)
    (hlow : low.toNat = v.toNat) (hu : Utf16.IsHigh u) (hv : Utf16.IsLow v) :
    ((0x10000 : UInt32) + ((unit - 0xD800) <<< 10) + (low - 0xDC00)).toNat =
      Utf16.pairValue u v := by
  obtain ⟨hu, hu'⟩ := hu
  obtain ⟨hv, hv'⟩ := hv
  have hhigh : (unit - 0xD800).toNat = u.toNat - 0xD800 := by
    rw [UInt32.toNat_sub_of_le, hunit]
    · rfl
    · rw [UInt32.le_iff_toNat_le, hunit]
      exact hu
  have hshift : ((unit - 0xD800) <<< 10).toNat = (u.toNat - 0xD800) * 0x400 := by
    rw [UInt32.toNat_shiftLeft, hhigh]
    show (u.toNat - 0xD800) <<< 10 % 2 ^ 32 = _
    rw [Nat.shiftLeft_eq]
    omega
  have hlast : (low - 0xDC00).toNat = v.toNat - 0xDC00 := by
    rw [UInt32.toNat_sub_of_le, hlow]
    · rfl
    · rw [UInt32.le_iff_toNat_le, hlow]
      exact hv
  rw [UInt32.toNat_add, UInt32.toNat_add, hshift, hlast]
  show ((0x10000 + (u.toNat - 0xD800) * 0x400) % 2 ^ 32 + (v.toNat - 0xDC00)) % 2 ^ 32 = _
  unfold Utf16.pairValue
  omega

theorem utf8_replacement : utf8OfCodepoint 0xFFFD = String.utf8EncodeChar '\uFFFD' := by
  decide

theorem isHigh_iff {unit : UInt32} {u : UInt16} (hunit : unit.toNat = u.toNat) :
    0xD800 ≤ unit ∧ unit ≤ 0xDBFF ↔ Utf16.IsHigh u := by
  rw [UInt32.le_iff_toNat_le, UInt32.le_iff_toNat_le, hunit]
  exact Iff.rfl

theorem isLow_iff {unit : UInt32} {u : UInt16} (hunit : unit.toNat = u.toNat) :
    0xDC00 ≤ unit ∧ unit ≤ 0xDFFF ↔ Utf16.IsLow u := by
  rw [UInt32.le_iff_toNat_le, UInt32.le_iff_toNat_le, hunit]
  exact Iff.rfl

theorem isSurrogate_iff {unit : UInt32} {u : UInt16} (hunit : unit.toNat = u.toNat) :
    0xD800 ≤ unit ∧ unit ≤ 0xDFFF ↔ Utf16.IsHigh u ∨ Utf16.IsLow u := by
  have hfirst : (0xD800 : UInt32).toNat = 0xD800 := rfl
  have hlast : (0xDFFF : UInt32).toNat = 0xDFFF := rfl
  rw [UInt32.le_iff_toNat_le, UInt32.le_iff_toNat_le, hunit, hfirst, hlast]
  unfold Utf16.IsHigh Utf16.IsLow
  omega

/-- A surrogate that does not begin a pair. -/
theorem decode_replacement {u : UInt16} {us : List UInt16}
    (hsurrogate : Utf16.IsHigh u ∨ Utf16.IsLow u)
    (h : ∀ v ∈ us.head?, ¬ (Utf16.IsHigh u ∧ Utf16.IsLow v)) :
    (Utf16.decode (u :: us)).flatMap String.utf8EncodeChar =
      utf8OfCodepoint 0xFFFD ++ (Utf16.decode us).flatMap String.utf8EncodeChar := by
  rw [Utf16.decode_single h, Utf16.single, if_pos hsurrogate, List.flatMap_cons, utf8_replacement]

/-- **Spec lemma.** -/
theorem utf16leToUtf8_eq (data : Bytes) :
    utf16leToUtf8 data = (Utf16.decode (units data)).flatMap String.utf8EncodeChar := by
  fun_induction utf16leToUtf8 data with
  | case1 b₀ b₁ rest unit hpair low hlow ih =>
    -- a pair
    obtain ⟨c₀, c₁, rest, rfl⟩ := exists_cons_cons hpair.2.2
    have hunit : unit.toNat = (le16 [b₀, b₁] 0).toNat := toNat_unit b₀ b₁
    have hnext : low.toNat = (le16 [c₀, c₁] 0).toNat := toNat_unit c₀ c₁
    have hhigh := (isHigh_iff hunit).mp ⟨hpair.1, hpair.2.1⟩
    have hlow := (isLow_iff hnext).mp hlow
    have hvalue := toNat_pair hunit hnext hhigh hlow
    have hvalid := Utf16.isValidChar_pairValue hhigh hlow
    rw [← hvalue] at hvalid
    rw [utf8OfCodepoint_eq hvalid, hvalue, ih, units, units, Utf16.decode_pair hhigh hlow,
      List.flatMap_cons]
    rfl
  | case2 b₀ b₁ rest unit hpair low hlow ih =>
    -- a high surrogate with another unit behind it
    obtain ⟨c₀, c₁, rest, rfl⟩ := exists_cons_cons hpair.2.2
    have hunit : unit.toNat = (le16 [b₀, b₁] 0).toNat := toNat_unit b₀ b₁
    have hnext : low.toNat = (le16 [c₀, c₁] 0).toNat := toNat_unit c₀ c₁
    have hhigh := (isHigh_iff hunit).mp ⟨hpair.1, hpair.2.1⟩
    rw [isLow_iff hnext] at hlow
    rw [ih]
    refine (decode_replacement (Or.inl hhigh) ?_).symm
    intro v hv
    obtain rfl := Option.some.inj hv
    exact fun h => hlow h.2
  | case3 b₀ b₁ rest unit hpair hsurrogate ih =>
    have hunit : unit.toNat = (le16 [b₀, b₁] 0).toNat := toNat_unit b₀ b₁
    rw [ih]
    refine (decode_replacement ((isSurrogate_iff hunit).mp hsurrogate) ?_).symm
    -- a high surrogate is here only when no unit follows
    intro v hv h
    have hhigh := (isHigh_iff hunit).mpr h.1
    have hshort : rest.length < 2 := by
      by_contra hlong
      exact hpair ⟨hhigh.1, hhigh.2, Nat.not_lt.mp hlong⟩
    rw [units_eq_nil hshort] at hv
    cases hv
  | case4 b₀ b₁ rest unit hpair hother ih =>
    have hunit : unit.toNat = (le16 [b₀, b₁] 0).toNat := toNat_unit b₀ b₁
    rw [isSurrogate_iff hunit] at hother
    have hvalid := Utf16.isValidChar_of_not_surrogate hother
    have hhigh := (not_or.mp hother).1
    rw [← hunit] at hvalid
    rw [utf8OfCodepoint_eq hvalid, hunit, ih, units, Utf16.decode_cons_of_not_high hhigh,
      Utf16.single, if_neg hother, List.flatMap_cons]
  | case5 data h =>
    have hshort : data.length < 2 := by
      by_contra hlong
      obtain ⟨b₀, b₁, rest, hdata⟩ := exists_cons_cons (Nat.not_lt.mp hlong)
      exact h b₀ b₁ rest hdata
    rw [units_eq_nil hshort]
    rfl

/-- **String descriptors.** Whatever the bytes are, the text is the UTF-8 of the scalar values
their units stand for; a text that was encoded is read back. -/
theorem utf16leToUtf8_exact :
    (∀ data : Bytes, (utf16leToUtf8 data).toByteArray.IsValidUTF8 ∧
      utf16leToUtf8 data = (Utf16.decode (units data)).flatMap String.utf8EncodeChar) ∧
    ∀ cs : List Char, utf16leToUtf8 (utf16leBytes (Utf16.encode cs)) =
      cs.flatMap String.utf8EncodeChar := by
  refine ⟨?_, ?_⟩
  · intro data
    refine ⟨⟨Utf16.decode (units data), ?_⟩, utf16leToUtf8_eq data⟩
    rw [List.utf8Encode, ← utf16leToUtf8_eq]
  · intro cs
    rw [utf16leToUtf8_eq, units_utf16leBytes, Utf16.decode_encode]

end DemuxUsb
