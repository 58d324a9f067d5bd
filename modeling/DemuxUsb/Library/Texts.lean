import DemuxUsb.Library.Numerals

/-!
# Lines of printable text

A text that is made of lines, each with a separator behind it, is read back line by line if no
line holds the separator. Words and numerals are printable ASCII, so they hold no line feed, and
each of their characters is one printable byte of UTF-8.
-/

namespace Texts

/-! ## Lines -/

/-- Nothing follows the last separator. -/
theorem splitOn_lines {β : Type} [BEq β] [LawfulBEq β] {feed : β} {lines : List (List β)}
    (h : ∀ line ∈ lines, feed ∉ line) :
    (lines.flatMap fun line => line ++ [feed]).splitOn feed = lines ++ [[]] := by
  induction lines with
  | nil => rfl
  | cons line lines ih =>
    have hline : ∀ b ∈ line, (b == feed) = false := by
      intro b hb
      apply beq_false_of_ne
      rintro rfl
      exact h line List.mem_cons_self hb
    rw [List.flatMap_cons, List.append_assoc, List.singleton_append, List.splitOn_eq_splitOnP,
      List.splitOnP_append_cons_of_forall_mem hline _ (beq_self_eq_true feed),
      ← List.splitOn_eq_splitOnP, ih fun line hmem => h line (List.mem_cons_of_mem _ hmem)]
    rfl

/-! ## Printable characters -/

/-- A character of ASCII that is no control character. -/
def printableAscii (c : Char) : Bool := decide (0x20 ≤ c.toNat) && decide (c.toNat < 0x7F)

/-- A text of printable ASCII. -/
def Printed (text : String) : Prop := text.toList.all printableAscii = true

instance (text : String) : Decidable (Printed text) := inferInstanceAs (Decidable (_ = _))

section Printed

variable {a b text : String}

theorem Printed.append (ha : Printed a) (hb : Printed b) : Printed (a ++ b) := by
  unfold Printed at *
  rw [String.toList_append, List.all_append, ha, hb, Bool.and_true]

theorem Printed.bounds (h : Printed text) {c : Char} (hc : c ∈ text.toList) :
    0x20 ≤ c.toNat ∧ c.toNat < 0x7F := by
  have hprintable := List.all_eq_true.mp h c hc
  rw [printableAscii, Bool.and_eq_true, decide_eq_true_iff, decide_eq_true_iff] at hprintable
  exact hprintable

theorem Printed.not_mem_feed (h : Printed text) : '\n' ∉ text.toList := fun hmem =>
  absurd (h.bounds hmem).1 (by decide)

theorem printed_ofList_toDigits {b : Nat} (hb : 1 < b) (hb' : b ≤ 16) (n : Nat) :
    Printed (String.ofList (Nat.toDigits b n)) := by
  have hall : ∀ d : Fin 16, printableAscii (Nat.digitChar d) = true := by decide
  apply List.all_eq_true.mpr
  intro c hc
  rw [String.toList_ofList] at hc
  obtain ⟨d, hd, rfl⟩ := Numerals.mem_toDigits hb hc
  exact hall ⟨d, Nat.lt_of_lt_of_le hd hb'⟩

theorem printed_repr (n : Nat) : Printed n.repr := by
  have hdigits := printed_ofList_toDigits (b := 10) (by omega) (by omega) n
  rwa [← Nat.toList_repr, String.ofList_toList] at hdigits

/-- A printable character is one byte. -/
theorem utf8EncodeChar_of_printable {c : Char} (h : c.toNat < 0x7F) :
    String.utf8EncodeChar c = [UInt8.ofNat c.toNat] := by
  have hsize : c.utf8Size = 1 := by
    rw [Char.utf8Size_eq_one_iff, UInt32.le_iff_toNat_le]
    exact Nat.le_of_lt h
  rw [String.utf8EncodeChar_eq_singleton hsize]
  congr 1

end Printed

end Texts
