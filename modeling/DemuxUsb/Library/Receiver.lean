import DemuxUsb.Library.Framer

/-!
# Receivers that start again

A `Receiver` keeps the symbols its framer waits on. When the framer halts, the receiver drops
what it has and starts again with the next chunk; a halt is counted.

The chunks of a run fall into `Episode`s, each of which ends with the chunk that makes the
framer halt, and a rest on which it does not (`Split`). A run takes from each episode the
frames of that episode alone:

* `exists_split`: every sequence of chunks has such a split;
* `foldl_receive_split`: what a run over it comes to;
* `foldl_receive_clean`: chunks without a halt are taken as one sequence of symbols.
-/

namespace Framing

variable {β φ ε : Type}

theorem Framer.rest_of_halted {F : Framer β φ ε} {b : List β} (h : (F.run b).halted ≠ none) :
    (F.run b).rest = [] := by
  induction b using Framer.run_induction (F := F) with
  | more b hb =>
    rw [run_of_more hb] at h
    exact absurd rfl h
  | halt b e hb => rw [run_of_halt hb]
  | frame b f n hb ih =>
    rw [run_of_frame hb] at h ⊢
    exact ih h

/-- What is waited on, the frames so far, and how often the framer has halted. -/
structure Receiver (β φ : Type) where
  buffer : List β := []
  frames : List φ := []
  halts : Nat := 0

namespace Receiver

variable (F : Framer β φ ε)

/-- One more chunk. -/
def receive (r : Receiver β φ) (chunk : List β) : Receiver β φ :=
  let o := F.run (r.buffer ++ chunk)
  { buffer := o.rest
    frames := r.frames ++ o.frames
    halts := if o.halted.isSome then r.halts + 1 else r.halts }

/-- The receiver `r` after symbols on which the framer does not halt. -/
def after (r : Receiver β φ) (b : List β) : Receiver β φ :=
  { r with buffer := (F.run b).rest, frames := r.frames ++ (F.run b).frames }

variable {F}

theorem after_nil (hempty : F.next [] = .more) {r : Receiver β φ} (hbuffer : r.buffer = []) :
    r.after F [] = r := by
  rw [after, Framer.run_of_more hempty, List.append_nil, ← hbuffer]

theorem next_receive (hempty : F.next [] = .more) (r : Receiver β φ) (chunk : List β) :
    F.next (r.receive F chunk).buffer = .more := Framer.next_rest hempty _

/-! ## Chunks -/

section Chunks

variable {r : Receiver β φ} {b chunk : List β}

/-- **Step lemma.** A chunk on which the framer does not halt. -/
theorem receive_after (h : (F.run (b ++ chunk)).halted = none) :
    (r.after F b).receive F chunk = r.after F (b ++ chunk) := by
  have hrun := Framer.run_append (Framer.halted_of_append h) chunk
  rw [hrun] at h
  unfold receive after
  dsimp only at h ⊢
  rw [h, hrun, List.append_assoc]
  rfl

/-- **Step lemma.** A chunk on which it does. -/
theorem receive_halts (hclean : (F.run b).halted = none)
    (h : (F.run (b ++ chunk)).halted ≠ none) :
    (r.after F b).receive F chunk =
      ⟨[], r.frames ++ (F.run (b ++ chunk)).frames, r.halts + 1⟩ := by
  have hrun := Framer.run_append hclean chunk
  have hrest := Framer.rest_of_halted h
  rw [hrun] at h hrest
  unfold receive after
  dsimp only at h hrest ⊢
  rw [hrest, if_pos (Option.isSome_iff_ne_none.mpr h), hrun, List.append_assoc]

theorem foldl_receive_after {chunks : List (List β)}
    (h : (F.run (b ++ chunks.flatten)).halted = none) :
    chunks.foldl (receive F) (r.after F b) = r.after F (b ++ chunks.flatten) := by
  induction chunks generalizing b with
  | nil => rw [List.flatten_nil, List.append_nil, List.foldl_nil]
  | cons chunk chunks ih =>
    rw [List.flatten_cons, ← List.append_assoc] at h ⊢
    rw [List.foldl_cons, receive_after (Framer.halted_of_append h), ih h]

/-- **Run lemma.** Chunks without a halt, behind an empty buffer. -/
theorem foldl_receive_clean (hempty : F.next [] = .more) (hbuffer : r.buffer = [])
    {chunks : List (List β)} (h : (F.run chunks.flatten).halted = none) :
    chunks.foldl (receive F) r = r.after F chunks.flatten := by
  have hrun := foldl_receive_after (r := r) (b := []) h
  rwa [after_nil hempty hbuffer] at hrun

end Chunks

/-! ## Episodes -/

/-- The framer halts on the chunks, and not before the last one. -/
structure Episode (F : Framer β φ ε) (chunks : List (List β)) : Prop where
  halts : (F.run chunks.flatten).halted ≠ none
  clean : (F.run chunks.dropLast.flatten).halted = none

/-- The chunks are those of some episodes, and a rest without a halt. -/
structure Split (F : Framer β φ ε) (chunks : List (List β)) (episodes : List (List (List β)))
    (rest : List (List β)) : Prop where
  chunks : chunks = episodes.flatten ++ rest
  episodes : ∀ episode ∈ episodes, Episode F episode
  rest : (F.run rest.flatten).halted = none

/-- The frames of some chunks for themselves. -/
def framesOf (F : Framer β φ ε) (chunks : List (List β)) : List φ := (F.run chunks.flatten).frames

section Episodes

variable (hempty : F.next [] = .more)
include hempty

/-- An episode leaves the buffer empty. -/
theorem foldl_receive_episode {r : Receiver β φ} (hbuffer : r.buffer = [])
    {episode : List (List β)} (h : Episode F episode) :
    episode.foldl (receive F) r = ⟨[], r.frames ++ framesOf F episode, r.halts + 1⟩ := by
  rcases List.eq_nil_or_concat episode with rfl | ⟨first, last, rfl⟩
  · have hhalts := h.halts
    rw [List.flatten_nil, Framer.run_of_more hempty] at hhalts
    exact absurd rfl hhalts
  · have hclean := h.clean
    have hhalts := h.halts
    rw [List.concat_eq_append] at hclean hhalts ⊢
    rw [List.dropLast_concat] at hclean
    rw [List.flatten_concat] at hhalts
    rw [List.foldl_concat, foldl_receive_clean hempty hbuffer hclean,
      receive_halts hclean hhalts, framesOf, List.flatten_concat]

theorem foldl_receive_episodes {r : Receiver β φ} (hbuffer : r.buffer = [])
    {episodes : List (List (List β))} (h : ∀ episode ∈ episodes, Episode F episode) :
    episodes.flatten.foldl (receive F) r =
      ⟨[], r.frames ++ episodes.flatMap (framesOf F), r.halts + episodes.length⟩ := by
  induction episodes generalizing r with
  | nil =>
    rw [List.flatten_nil, List.foldl_nil, List.flatMap_nil, List.append_nil, List.length_nil,
      Nat.add_zero, ← hbuffer]
  | cons episode episodes ih =>
    obtain ⟨hfirst, hrest⟩ := List.forall_mem_cons.mp h
    rw [List.flatten_cons, List.foldl_append, foldl_receive_episode hempty hbuffer hfirst,
      ih rfl hrest, List.flatMap_cons, List.append_assoc, List.length_cons, Nat.add_assoc,
      Nat.add_comm 1]

/-- **Run lemma.** Every episode is taken for itself, and so is the rest. -/
theorem foldl_receive_split {r : Receiver β φ} (hbuffer : r.buffer = [])
    {chunks rest : List (List β)} {episodes : List (List (List β))}
    (h : Split F chunks episodes rest) :
    chunks.foldl (receive F) r =
      ⟨(F.run rest.flatten).rest, r.frames ++ (episodes.flatMap (framesOf F) ++ framesOf F rest),
        r.halts + episodes.length⟩ := by
  rw [h.chunks, List.foldl_append, foldl_receive_episodes hempty hbuffer h.episodes,
    foldl_receive_clean hempty rfl h.rest, after, List.append_assoc]
  rfl

theorem halted_nil : (F.run ([] : List (List β)).flatten).halted = none := by
  rw [List.flatten_nil, Framer.run_of_more hempty]

theorem exists_split_append {pending : List (List β)} (hpending : (F.run pending.flatten).halted = none)
    (chunks : List (List β)) : ∃ episodes rest, Split F (pending ++ chunks) episodes rest := by
  induction chunks generalizing pending with
  | nil =>
    refine ⟨[], pending, ?_, List.forall_mem_nil _, hpending⟩
    rw [List.append_nil]
    rfl
  | cons chunk chunks ih =>
    by_cases hclean : (F.run (pending ++ [chunk]).flatten).halted = none
    · rw [List.append_cons]
      exact ih hclean
    · -- the episode ends with this chunk
      obtain ⟨episodes, rest, hsplit⟩ := @ih [] (halted_nil hempty)
      refine ⟨(pending ++ [chunk]) :: episodes, rest, ?_, ?_, hsplit.rest⟩
      · have hchunks := hsplit.chunks
        rw [List.nil_append] at hchunks
        rw [List.append_cons, hchunks, List.flatten_cons, List.append_assoc (pending ++ [chunk])]
      · refine List.forall_mem_cons.mpr ⟨⟨hclean, ?_⟩, hsplit.episodes⟩
        rw [List.dropLast_concat]
        exact hpending

/-- Every sequence of chunks has a split. -/
theorem exists_split (chunks : List (List β)) : ∃ episodes rest, Split F chunks episodes rest := by
  exact exists_split_append hempty (halted_nil hempty) chunks

end Episodes

end Receiver

end Framing
