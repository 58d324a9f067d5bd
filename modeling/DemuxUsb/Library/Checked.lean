import Mathlib.Data.List.Basic

/-!
# Checked computations

A program that reads memory at offsets and subtracts unsigned numbers is written with
`slice` and `sub`, which end with a `Fault` where the program would leave the memory or
wrap around, and its loops with `loop`, which ends with a `Fault` when the rounds it was
given do not suffice.

That such a program has no fault is proved by saying what it computes: `sub_of_le` and
`slice_of_le` for the operations, `loop_eq` for a loop whose rounds make a measure
smaller, `foldlM_eq` for one thing done after the other. A run of steps of which one throws
ends there (`foldlM_of_throws`).
-/

namespace Checked

inductive Fault where
  | outOfBounds
  | underflow
  | timeout
  deriving DecidableEq

variable {α β σ : Type}

/-! ## Operations -/

/-- The difference of two unsigned numbers. -/
def sub (a b : Nat) : Except Fault Nat := if a < b then .error .underflow else .ok (a - b)

/-- The `length` elements at `offset`. -/
def slice (memory : List β) (offset length : Nat) : Except Fault (List β) :=
  if memory.length < offset + length then .error .outOfBounds
  else .ok ((memory.drop offset).take length)

@[simp] theorem ok_bind (a : α) (f : α → Except Fault β) : (Except.ok a >>= f) = f a := rfl

theorem sub_of_le {a b : Nat} (h : b ≤ a) : sub a b = .ok (a - b) := if_neg (Nat.not_lt.mpr h)

theorem slice_of_le {memory : List β} {offset length : Nat} (h : offset + length ≤ memory.length) :
    slice memory offset length = .ok ((memory.drop offset).take length) :=
  if_neg (Nat.not_lt.mpr h)

/-! ## Loops -/

/-- A loop of at most `rounds` rounds. A round ends in another state or with a result. -/
def loop (step : σ → Except Fault (σ ⊕ α)) : Nat → σ → Except Fault α
  | 0, _ => .error .timeout
  | rounds + 1, s => do
    match ← step s with
    | .inl s' => loop step rounds s'
    | .inr a => .ok a

/-- The rule for loops: every round from a state with the invariant either ends with what
`result` says, or in a smaller state with the invariant and the same result. -/
theorem loop_eq {step : σ → Except Fault (σ ⊕ α)} {invariant : σ → Prop} {measure : σ → Nat}
    {result : σ → α}
    (hround : ∀ s, invariant s → step s = .ok (.inr (result s)) ∨
      ∃ s', step s = .ok (.inl s') ∧ invariant s' ∧ measure s' < measure s ∧
        result s' = result s)
    {rounds : Nat} {s : σ} (hinv : invariant s) (hrounds : measure s < rounds) :
    loop step rounds s = .ok (result s) := by
  induction rounds generalizing s with
  | zero => exact absurd hrounds (Nat.not_lt_zero _)
  | succ rounds ih =>
    rcases hround s hinv with hdone | ⟨s', hstep, hinv', hless, hresult⟩
    · rw [loop, hdone, ok_bind]
    · rw [loop, hstep, ok_bind, ← hresult]
      exact ih hinv' (by omega)

/-! ## Runs -/

section Throws

variable {ε : Type} {step : σ → β → Except ε σ} {next : σ → β → σ}

/-- A run of steps that do not throw. -/
theorem foldlM_of_forall {bs : List β} (hstep : ∀ b ∈ bs, ∀ s, step s b = .ok (next s b)) (s : σ) :
    bs.foldlM step s = .ok (bs.foldl next s) := by
  induction bs generalizing s with
  | nil => rfl
  | cons b bs ih =>
    rw [List.foldlM_cons, List.foldl_cons, hstep b List.mem_cons_self]
    exact ih (fun b' hb' => hstep b' (List.mem_cons_of_mem _ hb')) (next s b)

/-- The first step that throws ends the run; it throws what was done before. -/
theorem foldlM_of_throws {before after : List β} {b : β} {thrown : σ → ε}
    (hbefore : ∀ b' ∈ before, ∀ s, step s b' = .ok (next s b'))
    (hthrows : ∀ s, step s b = .error (thrown s)) (s : σ) :
    (before ++ b :: after).foldlM step s = .error (thrown (before.foldl next s)) := by
  rw [List.foldlM_append, foldlM_of_forall hbefore]
  show (b :: after).foldlM step (before.foldl next s) = _
  rw [List.foldlM_cons, hthrows]
  rfl

end Throws

/-- A run of steps that have no fault has none. -/
theorem foldlM_eq {step : σ → β → Except Fault σ} {next : σ → β → σ}
    (hstep : ∀ s b, step s b = .ok (next s b)) (bs : List β) (s : σ) :
    bs.foldlM step s = .ok (bs.foldl next s) :=
  foldlM_of_forall (fun b _ s => hstep s b) s

end Checked
