import Mathlib.Data.Char

/-!
# UTF-16

Sequences of 16 bit units and the Unicode scalar values they stand for. `decode` is defined
for every sequence: a surrogate that is not part of a pair stands for U+FFFD.
`decode_encode` says that it reads every encoded text back.
-/

namespace Utf16

/-! ## Units -/

/-- The first unit of a pair. -/
def IsHigh (u : UInt16) : Prop := 0xD800 ≤ u.toNat ∧ u.toNat ≤ 0xDBFF

/-- The second unit of a pair. -/
def IsLow (u : UInt16) : Prop := 0xDC00 ≤ u.toNat ∧ u.toNat ≤ 0xDFFF

instance (u : UInt16) : Decidable (IsHigh u) := inferInstanceAs (Decidable (_ ∧ _))
instance (u : UInt16) : Decidable (IsLow u) := inferInstanceAs (Decidable (_ ∧ _))

/-- The number of the scalar value of a pair. -/
def pairValue (high low : UInt16) : Nat :=
  0x10000 + (high.toNat - 0xD800) * 0x400 + (low.toNat - 0xDC00)

/-- A unit by itself. -/
def single (u : UInt16) : Char := if IsHigh u ∨ IsLow u then '\uFFFD' else Char.ofNat u.toNat

/-- The scalar values of a sequence of units, from the left. -/
def decode : List UInt16 → List Char
  | [] => []
  | [u] => [single u]
  | u :: v :: us =>
    if IsHigh u ∧ IsLow v then Char.ofNat (pairValue u v) :: decode us
    else single u :: decode (v :: us)

/-- The units of a scalar value. -/
def encodeChar (c : Char) : List UInt16 :=
  if c.toNat < 0x10000 then [UInt16.ofNat c.toNat]
  else
    [UInt16.ofNat (0xD800 + (c.toNat - 0x10000) / 0x400),
      UInt16.ofNat (0xDC00 + (c.toNat - 0x10000) % 0x400)]

def encode (cs : List Char) : List UInt16 := cs.flatMap encodeChar

/-! ## Scalar values -/

theorem isValidChar_pairValue {high low : UInt16} (hhigh : IsHigh high) (hlow : IsLow low) :
    (pairValue high low).isValidChar := by
  obtain ⟨hh, hh'⟩ := hhigh
  obtain ⟨hl, hl'⟩ := hlow
  unfold pairValue
  right
  omega

theorem isValidChar_of_not_surrogate {u : UInt16} (h : ¬ (IsHigh u ∨ IsLow u)) :
    u.toNat.isValidChar := by
  have hlt := u.toNat_lt
  unfold IsHigh IsLow at h
  unfold Nat.isValidChar
  omega

theorem toNat_ofNat_of_isValidChar {n : Nat} (h : n.isValidChar) : (Char.ofNat n).toNat = n := by
  unfold Char.ofNat
  rw [dif_pos h]
  rfl

/-! ## Round trip -/

theorem decode_pair {u v : UInt16} (hhigh : IsHigh u) (hlow : IsLow v) (us : List UInt16) :
    decode (u :: v :: us) = Char.ofNat (pairValue u v) :: decode us := by
  rw [decode, if_pos ⟨hhigh, hlow⟩]

/-- A unit that does not begin a pair. -/
theorem decode_single {u : UInt16} {us : List UInt16}
    (h : ∀ v ∈ us.head?, ¬ (IsHigh u ∧ IsLow v)) : decode (u :: us) = single u :: decode us := by
  cases us with
  | nil => rfl
  | cons v us => rw [decode, if_neg (h v rfl)]

theorem decode_cons_of_not_high {u : UInt16} (h : ¬ IsHigh u) (us : List UInt16) :
    decode (u :: us) = single u :: decode us :=
  decode_single (fun _ _ hpair => h hpair.1)

theorem decode_encodeChar_append (c : Char) (us : List UInt16) :
    decode (encodeChar c ++ us) = c :: decode us := by
  have hvalid : c.toNat < 0xD800 ∨ 0xDFFF < c.toNat ∧ c.toNat < 0x110000 := c.valid
  unfold encodeChar
  split
  · next hsmall =>
    have hnat : (UInt16.ofNat c.toNat).toNat = c.toNat := by
      rw [UInt16.toNat_ofNat']
      omega
    have hhigh : ¬ IsHigh (UInt16.ofNat c.toNat) := by
      unfold IsHigh
      omega
    have hlow : ¬ IsLow (UInt16.ofNat c.toNat) := by
      unfold IsLow
      omega
    rw [List.singleton_append, decode_cons_of_not_high hhigh, single,
      if_neg (not_or.mpr ⟨hhigh, hlow⟩), hnat, Char.ofNat_toNat]
  · next hlarge =>
    have hfirst : (UInt16.ofNat (0xD800 + (c.toNat - 0x10000) / 0x400)).toNat =
        0xD800 + (c.toNat - 0x10000) / 0x400 := by
      rw [UInt16.toNat_ofNat']
      omega
    have hsecond : (UInt16.ofNat (0xDC00 + (c.toNat - 0x10000) % 0x400)).toNat =
        0xDC00 + (c.toNat - 0x10000) % 0x400 := by
      rw [UInt16.toNat_ofNat']
      omega
    have hhigh : IsHigh (UInt16.ofNat (0xD800 + (c.toNat - 0x10000) / 0x400)) := by
      unfold IsHigh
      omega
    have hlow : IsLow (UInt16.ofNat (0xDC00 + (c.toNat - 0x10000) % 0x400)) := by
      unfold IsLow
      omega
    have hvalue : pairValue (UInt16.ofNat (0xD800 + (c.toNat - 0x10000) / 0x400))
        (UInt16.ofNat (0xDC00 + (c.toNat - 0x10000) % 0x400)) = c.toNat := by
      unfold pairValue
      omega
    rw [List.cons_append, List.singleton_append, decode_pair hhigh hlow, hvalue, Char.ofNat_toNat]

/-- **Round trip.** -/
theorem decode_encode (cs : List Char) : decode (encode cs) = cs := by
  induction cs with
  | nil => rfl
  | cons c cs ih =>
    unfold encode at ih ⊢
    rw [List.flatMap_cons, decode_encodeChar_append, ih]

end Utf16
