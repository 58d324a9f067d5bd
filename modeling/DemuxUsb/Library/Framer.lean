import Mathlib.Data.List.Basic

/-!
# Incremental frame decoding

A `Framer` looks at the front of a buffer and either waits for more symbols, takes one
frame, or halts because what it sees cannot be a frame. Its one law is `stable`: a
verdict other than "wait" does not change when more symbols arrive.

From that law alone:

* `Framer.run_append`: a run that waits can be resumed when more symbols arrive, so that
  feeding a sequence chunk by chunk gives what feeding it whole gives;
* `Framer.run_flatMap`: a concatenation of encoded frames followed by an incomplete one
  is decoded to exactly those frames, and the incomplete one stays in the buffer;
* `Framer.next_of_properPrefix`: a proper prefix of a frame makes the framer wait;
* `Framer.map_prefix_frames`: encoded frames at the front of a sequence are the first that
  its run takes, so that no other frames reach further.
-/

namespace Framing

variable {β φ ε : Type}

/-- What a framer says about the front of a buffer. -/
inductive Verdict (φ ε : Type) where
  | more
  | frame (f : φ) (used : Nat)
  | halt (e : ε)

/-- A frame decoder for symbols `β`, frames `φ` and reasons `ε` to stop. -/
structure Framer (β φ ε : Type) where
  next : List β → Verdict φ ε
  used_pos : ∀ {b f n}, next b = .frame f n → 0 < n
  used_le : ∀ {b f n}, next b = .frame f n → n ≤ b.length
  stable : ∀ {b}, next b ≠ .more → ∀ c, next (b ++ c) = next b

/-- The frames taken from a buffer, what is left in it, and why the decoder stopped,
if it did. -/
structure Outcome (β φ ε : Type) where
  frames : List φ
  rest : List β
  halted : Option ε

namespace Framer

variable (F : Framer β φ ε)

/-- Take frames until the framer waits or halts. -/
def run (b : List β) : Outcome β φ ε :=
  match _hnext : F.next b with
  | .more => ⟨[], b, none⟩
  | .halt e => ⟨[], [], some e⟩
  | .frame f n =>
    let o := run (b.drop n)
    ⟨f :: o.frames, o.rest, o.halted⟩
termination_by b.length
decreasing_by
  have hpos := F.used_pos _hnext
  have hle := F.used_le _hnext
  rw [List.length_drop]
  omega

variable {F}

theorem run_of_more {b : List β} (h : F.next b = .more) : F.run b = ⟨[], b, none⟩ := by
  rw [run]
  split <;> simp_all

theorem run_of_halt {b : List β} {e : ε} (h : F.next b = .halt e) :
    F.run b = ⟨[], [], some e⟩ := by
  rw [run]
  split <;> simp_all

theorem run_of_frame {b : List β} {f : φ} {n : Nat} (h : F.next b = .frame f n) :
    F.run b = ⟨f :: (F.run (b.drop n)).frames, (F.run (b.drop n)).rest,
      (F.run (b.drop n)).halted⟩ := by
  conv => lhs; rw [run]
  split <;> simp_all

/-- The induction over a run: the buffer shrinks by the frame that is taken. -/
theorem run_induction {motive : List β → Prop}
    (more : ∀ b, F.next b = .more → motive b)
    (halt : ∀ b e, F.next b = .halt e → motive b)
    (frame : ∀ b f n, F.next b = .frame f n → motive (b.drop n) → motive b) (b : List β) :
    motive b := by
  induction hlen : b.length using Nat.strongRecOn generalizing b with
  | ind len ih =>
    cases h : F.next b with
    | more => exact more b h
    | halt e => exact halt b e h
    | frame f n =>
      have hpos := F.used_pos h
      have hle := F.used_le h
      refine frame b f n h (ih (b.drop n).length ?_ (b.drop n) rfl)
      rw [List.length_drop]
      omega

/-- A run leaves symbols on which the framer waits, provided it waits on none. -/
theorem next_rest (hempty : F.next [] = .more) (b : List β) : F.next (F.run b).rest = .more := by
  induction b using run_induction (F := F) with
  | more b hb =>
    rw [run_of_more hb]
    exact hb
  | halt b e hb =>
    rw [run_of_halt hb]
    exact hempty
  | frame b f n hb ih =>
    rw [run_of_frame hb]
    exact ih

/-- Once a run has halted, later symbols change nothing. -/
theorem run_append_of_halted {b : List β} {e : ε} (h : (F.run b).halted = some e)
    (c : List β) : F.run (b ++ c) = F.run b := by
  induction b using run_induction (F := F) with
  | more b hb => simp [run_of_more hb] at h
  | halt b e' hb => rw [run_of_halt hb, run_of_halt ((F.stable (by simp [hb]) c).trans hb)]
  | frame b f n hb ih =>
    have hstep : F.next (b ++ c) = .frame f n := (F.stable (by simp [hb]) c).trans hb
    rw [run_of_frame hb] at h
    rw [run_of_frame hstep, run_of_frame hb, List.drop_append_of_le_length (F.used_le hb), ih h]

/-- A run that waits can be resumed on what it left in the buffer. -/
theorem run_append {b : List β} (h : (F.run b).halted = none) (c : List β) :
    F.run (b ++ c) = ⟨(F.run b).frames ++ (F.run ((F.run b).rest ++ c)).frames,
      (F.run ((F.run b).rest ++ c)).rest, (F.run ((F.run b).rest ++ c)).halted⟩ := by
  induction b using run_induction (F := F) with
  | more b hb => simp [run_of_more hb]
  | halt b e hb => simp [run_of_halt hb] at h
  | frame b f n hb ih =>
    have hstep : F.next (b ++ c) = .frame f n := (F.stable (by simp [hb]) c).trans hb
    rw [run_of_frame hb] at h ⊢
    rw [run_of_frame hstep, List.drop_append_of_le_length (F.used_le hb), ih h,
      List.cons_append]

/-- A prefix of a sequence whose run does not halt does not halt either. -/
theorem halted_of_append {b c : List β} (h : (F.run (b ++ c)).halted = none) :
    (F.run b).halted = none := by
  cases hb : (F.run b).halted with
  | none => rfl
  | some e => rw [run_append_of_halted hb, hb] at h; cases h

/-! ## Encoded frames -/

/-- A proper prefix of a whole frame makes the framer wait. -/
theorem next_of_properPrefix {b c : List β} {f : φ} (h : F.next (b ++ c) = .frame f (b ++ c).length)
    (hc : c ≠ []) : F.next b = .more := by
  cases hb : F.next b with
  | more => rfl
  | halt e =>
    have := (F.stable (by simp [hb]) c).symm.trans h
    simp [hb] at this
  | frame g n =>
    have hle := F.used_le hb
    have hstep := (F.stable (by simp [hb]) c).symm.trans h
    rw [hb] at hstep
    obtain ⟨-, rfl⟩ := Verdict.frame.inj hstep
    have hpos := List.length_pos_iff.mpr hc
    rw [List.length_append] at hle
    omega

/-- **Round trip.** Encoded frames followed by symbols on which the framer waits. -/
theorem run_flatMap {ι : Type} {enc : ι → List β} {out : ι → φ} (is : List ι)
    (hframe : ∀ i ∈ is, F.next (enc i) = .frame (out i) (enc i).length)
    {tail : List β} (htail : F.next tail = .more) :
    F.run (is.flatMap enc ++ tail) = ⟨is.map out, tail, none⟩ := by
  induction is with
  | nil => simpa using run_of_more htail
  | cons i is ih =>
    have hi := hframe i List.mem_cons_self
    have hnext : F.next (enc i ++ (is.flatMap enc ++ tail)) = .frame (out i) (enc i).length :=
      (F.stable (by simp [hi]) _).trans hi
    rw [List.flatMap_cons, List.append_assoc, run_of_frame hnext, List.drop_left,
      ih (fun j hj => hframe j (List.mem_cons_of_mem _ hj)), List.map_cons]

/-- Encoded frames at the front of a sequence are the first frames of its run. -/
theorem map_prefix_frames {ι : Type} {enc : ι → List β} {out : ι → φ} {is : List ι}
    (hframe : ∀ i ∈ is, F.next (enc i) = .frame (out i) (enc i).length) {b : List β}
    (h : is.flatMap enc <+: b) : is.map out <+: (F.run b).frames := by
  induction is generalizing b with
  | nil => exact List.nil_prefix
  | cons i is ih =>
    obtain ⟨rest, rfl⟩ := h
    have hi := hframe i List.mem_cons_self
    have hnext : F.next (enc i ++ (is.flatMap enc ++ rest)) = .frame (out i) (enc i).length :=
      (F.stable (by simp [hi]) _).trans hi
    rw [List.flatMap_cons, List.append_assoc, run_of_frame hnext, List.drop_left, List.map_cons]
    exact List.cons_prefix_cons.mpr
      ⟨rfl, ih (fun j hj => hframe j (List.mem_cons_of_mem _ hj)) (List.prefix_append _ _)⟩

theorem forall_mem_frames {P : φ → Prop} (h : ∀ {b f n}, F.next b = .frame f n → P f)
    (b : List β) : ∀ f ∈ (F.run b).frames, P f := by
  induction b using run_induction (F := F) with
  | more b hb =>
    rw [run_of_more hb]
    exact List.forall_mem_nil P
  | halt b e hb =>
    rw [run_of_halt hb]
    exact List.forall_mem_nil P
  | frame b f n hb ih =>
    rw [run_of_frame hb]
    exact List.forall_mem_cons.mpr ⟨h hb, ih⟩

end Framer

/-- The frames of a framer that hands on what it takes are the front of the sequence. -/
theorem flatten_frames_prefix {F : Framer β (List β) ε}
    (hself : ∀ {b f n}, F.next b = .frame f n → b = f ++ b.drop n) (b : List β) :
    (F.run b).frames.flatten <+: b := by
  induction b using Framer.run_induction (F := F) with
  | more b hb =>
    rw [Framer.run_of_more hb]
    exact List.nil_prefix
  | halt b e hb =>
    rw [Framer.run_of_halt hb]
    exact List.nil_prefix
  | frame b f n hb ih =>
    rw [Framer.run_of_frame hb, List.flatten_cons]
    conv => rhs; rw [hself hb]
    exact List.prefix_append_right_inj f |>.mpr ih

end Framing
