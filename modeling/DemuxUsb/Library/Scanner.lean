import Mathlib.Data.List.Basic

/-!
# Scanning with a state

A `Scanner` looks at the front of a sequence, knows what it has learned so far, and either
stops or takes some symbols, with an item if they are one. Its law is `stable`: what it takes
does not depend on the symbols behind, so that more symbols add items at the end only
(`Scanner.run_append`). Where it stops may depend on them: this is what tells it from a
`Framing.Framer`.
-/

namespace Scanning

variable {σ β ι : Type}

/-- What was taken from the front of a sequence. -/
structure Taken (σ ι : Type) where
  state : σ
  item : Option ι
  used : Nat

/-- A scanner with states `σ` that takes items `ι` from symbols `β`. -/
structure Scanner (σ β ι : Type) where
  next : σ → List β → Option (Taken σ ι)
  used_pos : ∀ {s b r}, next s b = some r → 0 < r.used
  used_le : ∀ {s b r}, next s b = some r → r.used ≤ b.length
  stable : ∀ {s b r}, next s b = some r → ∀ c, next s (b ++ c) = some r

namespace Scanner

variable (S : Scanner σ β ι)

/-- The items up to where the scanner stops. -/
def run (s : σ) (b : List β) : List ι :=
  match _hnext : S.next s b with
  | none => []
  | some r => r.item.toList ++ run r.state (b.drop r.used)
termination_by b.length
decreasing_by
  have hpos := S.used_pos _hnext
  have hle := S.used_le _hnext
  rw [List.length_drop]
  omega

variable {S}

theorem run_of_none {s : σ} {b : List β} (h : S.next s b = none) : S.run s b = [] := by
  rw [run]
  split <;> simp_all

theorem run_of_some {s : σ} {b : List β} {r : Taken σ ι} (h : S.next s b = some r) :
    S.run s b = r.item.toList ++ S.run r.state (b.drop r.used) := by
  conv => lhs; rw [run]
  split <;> simp_all

/-- The induction over a run. -/
theorem run_induction {motive : σ → List β → Prop}
    (stop : ∀ s b, S.next s b = none → motive s b)
    (take : ∀ s b r, S.next s b = some r → motive r.state (b.drop r.used) → motive s b)
    (s : σ) (b : List β) : motive s b := by
  induction hlen : b.length using Nat.strongRecOn generalizing s b with
  | ind len ih =>
    cases h : S.next s b with
    | none => exact stop s b h
    | some r =>
      have hpos := S.used_pos h
      have hle := S.used_le h
      refine take s b r h (ih (b.drop r.used).length ?_ r.state (b.drop r.used) rfl)
      rw [List.length_drop]
      omega

/-- More symbols add items at the end. -/
theorem run_append (s : σ) (b c : List β) : S.run s b <+: S.run s (b ++ c) := by
  induction s, b using run_induction (S := S) with
  | stop s b h =>
    rw [run_of_none h]
    exact List.nil_prefix
  | take s b r h ih =>
    rw [run_of_some h, run_of_some (S.stable h c), List.drop_append_of_le_length (S.used_le h)]
    exact (List.prefix_append_right_inj _).mpr ih

/-- The first symbols have the first items. -/
theorem run_take (s : σ) (b : List β) (n : Nat) : S.run s (b.take n) <+: S.run s b := by
  have happend := S.run_append s (b.take n) (b.drop n)
  rwa [List.take_append_drop] at happend

end Scanner

end Scanning
