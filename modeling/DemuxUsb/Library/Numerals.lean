import Mathlib.Data.List.Basic

/-!
# Numerals

A number is read back from its digits in any base up to 16, whether or not zeros were put
in front. In a text, a numeral ends at the first character that is no digit, so a text that
starts with a numeral determines it.
-/

namespace Numerals

/-! ## Reading digits -/

/-- The value of a digit of a base up to 16. -/
def digitValue (c : Char) : Nat :=
  if c.toNat ≤ '9'.toNat then c.toNat - '0'.toNat else c.toNat - 'a'.toNat + 10

theorem digitValue_digitChar {d : Nat} (h : d < 16) : digitValue (Nat.digitChar d) = d := by
  have hall : ∀ d : Fin 16, digitValue (Nat.digitChar d) = d := by decide
  exact hall ⟨d, h⟩

/-- The number that digits stand for. -/
def value (b : Nat) (digits : List Char) : Nat :=
  digits.foldl (fun v c => b * v + digitValue c) 0

theorem value_append_single (b : Nat) (digits : List Char) (c : Char) :
    value b (digits ++ [c]) = b * value b digits + digitValue c := by
  rw [value, List.foldl_append]
  rfl

theorem value_toDigits {b : Nat} (hb : 1 < b) (hb' : b ≤ 16) (n : Nat) :
    value b (Nat.toDigits b n) = n := by
  induction n using Nat.strongRecOn with
  | ind n ih =>
    rw [Nat.toDigits_eq_if hb]
    split
    · next hn =>
      have hsingle := value_append_single b [] (Nat.digitChar n)
      rw [digitValue_digitChar (Nat.lt_of_lt_of_le hn hb')] at hsingle
      rw [List.nil_append] at hsingle
      rw [hsingle]
      exact Nat.zero_add n
    · next hn =>
      have hpos : 0 < n := by omega
      have hmod : n % b < b := Nat.mod_lt n (by omega)
      rw [value_append_single, ih (n / b) (Nat.div_lt_self hpos hb),
        digitValue_digitChar (Nat.lt_of_lt_of_le hmod hb')]
      exact Nat.div_add_mod n b

/-- Zeros in front change nothing. -/
theorem value_replicate_zero (b k : Nat) (digits : List Char) :
    value b (List.replicate k '0' ++ digits) = value b digits := by
  have hzero : b * 0 + digitValue '0' = 0 := rfl
  induction k with
  | zero => rfl
  | succ k ih =>
    rw [value, List.replicate_succ, List.cons_append, List.foldl_cons, hzero]
    exact ih

/-! ## Numerals in a text -/

theorem mem_toDigits {b n : Nat} (hb : 1 < b) {c : Char} (h : c ∈ Nat.toDigits b n) :
    ∃ d, d < b ∧ c = Nat.digitChar d := by
  induction n using Nat.strongRecOn with
  | ind n ih =>
    rw [Nat.toDigits_eq_if hb] at h
    split at h
    · next hn => exact ⟨n, hn, List.mem_singleton.mp h⟩
    · next hn =>
      have hpos : 0 < n := by omega
      rcases List.mem_append.mp h with h | h
      · exact ih (n / b) (Nat.div_lt_self hpos hb) h
      · exact ⟨n % b, Nat.mod_lt n (by omega), List.mem_singleton.mp h⟩

theorem isAlphanum_digitChar {d : Nat} (h : d < 16) : (Nat.digitChar d).isAlphanum = true := by
  have hall : ∀ d : Fin 16, (Nat.digitChar d).isAlphanum = true := by decide
  exact hall ⟨d, h⟩

/-- The characters up to one that is no letter and no digit are determined. -/
theorem append_cons_inj {xs ys s t : List Char} {c d : Char}
    (hxs : ∀ x ∈ xs, x.isAlphanum = true) (hys : ∀ y ∈ ys, y.isAlphanum = true)
    (hc : c.isAlphanum = false) (hd : d.isAlphanum = false)
    (h : xs ++ c :: s = ys ++ d :: t) : xs = ys ∧ c = d ∧ s = t := by
  have htake : ∀ {zs r : List Char} {e : Char}, (∀ z ∈ zs, z.isAlphanum = true) →
      e.isAlphanum = false → (zs ++ e :: r).takeWhile Char.isAlphanum = zs := by
    intro zs r e hzs he
    have hstop : ¬ e.isAlphanum = true := he ▸ Bool.false_ne_true
    rw [List.takeWhile_append_of_pos hzs, List.takeWhile_cons_of_neg hstop, List.append_nil]
  have heq : xs = ys := by
    rw [← htake hxs hc, h, htake hys hd]
  rw [heq] at h
  obtain ⟨hcd, hst⟩ := List.cons.inj (List.append_cancel_left h)
  exact ⟨heq, hcd, hst⟩

/-- A numeral with zeros in front, and a text after it that starts with no digit. -/
theorem padded_append_inj {b : Nat} (hb : 1 < b) (hb' : b ≤ 16) {k l m n : Nat} {s t : List Char}
    {c d : Char} (hc : c.isAlphanum = false) (hd : d.isAlphanum = false)
    (h : List.replicate k '0' ++ Nat.toDigits b m ++ c :: s =
      List.replicate l '0' ++ Nat.toDigits b n ++ d :: t) : m = n ∧ c = d ∧ s = t := by
  have halpha : ∀ (k n : Nat), ∀ x ∈ List.replicate k '0' ++ Nat.toDigits b n,
      x.isAlphanum = true := by
    intro k n x hx
    rcases List.mem_append.mp hx with hx | hx
    · rw [List.eq_of_mem_replicate hx]
      rfl
    · obtain ⟨e, he, rfl⟩ := mem_toDigits hb hx
      exact isAlphanum_digitChar (Nat.lt_of_lt_of_le he hb')
  obtain ⟨hdigits, hrest⟩ := append_cons_inj (halpha k m) (halpha l n) hc hd h
  refine ⟨?_, hrest⟩
  rw [← value_toDigits hb hb' m, ← value_replicate_zero b k, hdigits, value_replicate_zero,
    value_toDigits hb hb']

theorem decimal_append_inj {m n : Nat} {s t : List Char} {c d : Char}
    (hc : c.isAlphanum = false) (hd : d.isAlphanum = false)
    (h : Nat.toDigits 10 m ++ c :: s = Nat.toDigits 10 n ++ d :: t) : m = n ∧ c = d ∧ s = t :=
  padded_append_inj (k := 0) (l := 0) (by omega) (by omega) hc hd h

theorem hex_append_inj {k l m n : Nat} {s t : List Char} {c d : Char}
    (hc : c.isAlphanum = false) (hd : d.isAlphanum = false)
    (h : List.replicate k '0' ++ Nat.toDigits 16 m ++ c :: s =
      List.replicate l '0' ++ Nat.toDigits 16 n ++ d :: t) : m = n ∧ c = d ∧ s = t :=
  padded_append_inj (by omega) (by omega) hc hd h

end Numerals
