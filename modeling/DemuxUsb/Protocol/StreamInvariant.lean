import DemuxUsb.Library.Isolation
import DemuxUsb.Protocol.MuxDecoding

/-!
# The state of a stream between chunks

`drain` leaves its loop in six places. `Settled` is what a direction looks like behind each
of them: how much it can hold on to, and where the next message begins.

* `settled_drain`, `Settled.consume`: every exit of the loop, and every chunk, restores it.
* `confined_pass`: a chunk changes its own side of the stream only.
* `stream_invariant`: both over every interleaving of chunks.
-/

namespace DemuxUsb.MuxStream

open Endian

variable {π : Type}

/-! ## The invariant of a direction -/

/-- A direction between two chunks, with the messages it recorded. -/
structure Settled (direction : Direction) (messages : List (MuxMessage π)) : Prop where
  skips : direction.encoding = .raw ∨ direction.encoding = .tls → direction.buffer = []
  undecided : direction.encoding = .unknown → messages = [] ∧ direction.buffer.length < 12
  waits : direction.encoding = .plist → direction.buffer.length < 4 ∨
    4 ≤ direction.buffer.length ∧ 1 ≤ (readBigEndian32 direction.buffer).toNat ∧
      (readBigEndian32 direction.buffer).toNat ≤ 64 * 1024 * 1024 ∧
      direction.buffer.length - 4 < (readBigEndian32 direction.buffer).toNat

/-- The direction was given up: nothing is kept of it. -/
theorem settled_skipped {direction : Direction} (messages : List (MuxMessage π))
    (hskips : direction.encoding = .raw ∨ direction.encoding = .tls)
    (hempty : direction.buffer = []) : Settled direction messages := by
  refine ⟨fun _ => hempty, ?_, ?_⟩
  · intro hunknown
    rcases hskips with h | h <;> cases h.symm.trans hunknown
  · intro hplist
    rcases hskips with h | h <;> cases h.symm.trans hplist

/-- The direction waits for more of its buffer. -/
theorem settled_waiting {direction : Direction} {messages : List (MuxMessage π)}
    (hopen : direction.encoding = .unknown ∧ messages = [] ∨ direction.encoding = .plist)
    (hundecided : direction.encoding = .unknown → direction.buffer.length < 12)
    (hwaits : direction.encoding = .plist → direction.buffer.length < 4 ∨
      4 ≤ direction.buffer.length ∧ 1 ≤ (readBigEndian32 direction.buffer).toNat ∧
        (readBigEndian32 direction.buffer).toNat ≤ 64 * 1024 * 1024 ∧
        direction.buffer.length - 4 < (readBigEndian32 direction.buffer).toNat) :
    Settled direction messages := by
  refine ⟨?_, ?_, hwaits⟩
  · intro hskips
    rcases hopen with ⟨h, -⟩ | h <;> rcases hskips with h' | h' <;> cases h.symm.trans h'
  · intro hunknown
    rcases hopen with ⟨-, hnone⟩ | hplist
    · exact ⟨hnone, hundecided hunknown⟩
    · cases hunknown.symm.trans hplist

theorem size_bounds {size : UInt32} (h : ¬(size = 0 ∨ maxPlistMessage < size)) :
    1 ≤ size.toNat ∧ size.toNat ≤ 64 * 1024 * 1024 := by
  obtain ⟨hzero, hmax⟩ := not_or.mp h
  constructor
  · apply Nat.pos_of_ne_zero
    intro heq
    exact hzero (UInt32.toNat_inj.mp heq)
  · exact UInt32.le_iff_toNat_le.mp (UInt32.not_lt.mp hmax)

variable [Libplist π]

/-- **Step lemma.** By cases of the exits of the loop. -/
theorem settled_drain (direction : Direction) (messages : List (MuxMessage π))
    (hopen : direction.encoding = .unknown ∧ messages = [] ∨ direction.encoding = .plist) :
    Settled (drain direction messages).1 (drain direction messages).2 := by
  fun_induction drain direction messages with
  | case1 direction messages hshort =>
    exact settled_waiting hopen (fun _ => Nat.lt_trans hshort (by decide)) (fun _ => Or.inl hshort)
  | case2 direction messages hlength htls => exact settled_skipped _ (Or.inr rfl) rfl
  | case3 direction messages hlength htls size hsize => exact settled_skipped _ (Or.inl rfl) rfl
  | case4 direction messages hlength htls size hsize available needed hfew =>
    obtain ⟨hunknown, hneeded⟩ := hfew
    have hsignature : needed ≤ 8 := Nat.min_le_right _ _
    have hbuffer : direction.buffer.length < 12 := by omega
    refine settled_waiting hopen (fun _ => hbuffer) ?_
    intro hplist
    cases hunknown.symm.trans hplist
  | case5 direction messages hlength htls size hsize payload available needed hfew hsig =>
    exact settled_skipped _ (Or.inl rfl) rfl
  | case6 direction messages hlength htls size hsize payload available needed hfew hsig encoding
      havailable =>
    have hplist : encoding = .plist := by
      rcases hopen with ⟨hunknown, -⟩ | hplist
      · exact dif_pos hunknown
      · exact (dif_neg (by rw [hplist]; exact StreamEncoding.noConfusion)).trans hplist
    obtain ⟨hpos, hmax⟩ := size_bounds hsize
    have hfour : 4 ≤ direction.buffer.length := Nat.not_lt.mp hlength
    refine settled_waiting (Or.inr hplist) ?_ fun _ => Or.inr ⟨hfour, hpos, hmax, havailable⟩
    intro hunknown
    cases hplist.symm.trans hunknown
  | case7 direction messages hlength htls size hsize payload available needed hfew hsig encoding
      havailable ih =>
    apply ih
    rcases hopen with ⟨hunknown, -⟩ | hplist
    · exact Or.inr (dif_pos hunknown)
    · exact Or.inr ((dif_neg (by rw [hplist]; exact StreamEncoding.noConfusion)).trans hplist)

/-- A chunk for a direction that was given up. -/
theorem consume_skipped {direction : Direction}
    (hskips : direction.encoding = .raw ∨ direction.encoding = .tls)
    (messages : List (MuxMessage π)) (c : Bytes) :
    consume direction messages c =
      ({ direction with bytes := direction.bytes + UInt64.ofNat c.length }, messages) := by
  unfold consume
  dsimp only
  rw [if_pos hskips, ite_self]

theorem Settled.consume {direction : Direction} {messages : List (MuxMessage π)}
    (h : Settled direction messages) (c : Bytes) :
    Settled (consume direction messages c).1 (consume direction messages c).2 := by
  by_cases hskips : direction.encoding = .raw ∨ direction.encoding = .tls
  · rw [consume_skipped hskips]
    exact settled_skipped _ hskips (h.skips hskips)
  unfold MuxStream.consume
  dsimp only
  rw [if_neg hskips]
  by_cases hnil : c.length = 0
  · rw [if_pos hnil]
    exact ⟨h.skips, h.undecided, h.waits⟩
  · rw [if_neg hnil]
    apply settled_drain
    dsimp only
    cases hencoding : direction.encoding with
    | unknown => exact Or.inl ⟨rfl, (h.undecided hencoding).1⟩
    | plist => exact Or.inr rfl
    | raw => exact absurd (Or.inl hencoding) hskips
    | tls => exact absurd (Or.inr hencoding) hskips

/-! ## One side of a stream -/

/-- The messages that are there already do not matter to the loop. -/
theorem drain_append (direction : Direction) (messages base : List (MuxMessage π)) :
    drain direction (base ++ messages) =
      ((drain direction messages).1, base ++ (drain direction messages).2) := by
  fun_induction drain direction messages with
  | case1 direction messages hshort => rw [drain, if_pos hshort]
  | case2 direction messages hlength htls => rw [drain, if_neg hlength, if_pos htls]
  | case3 direction messages hlength htls size hsize =>
    rw [drain, if_neg hlength, if_neg htls]
    exact if_pos hsize
  | case4 direction messages hlength htls size hsize available needed hfew =>
    rw [drain, if_neg hlength, if_neg htls]
    exact (if_neg hsize).trans (if_pos hfew)
  | case5 direction messages hlength htls size hsize payload available needed hfew hsig =>
    rw [drain, if_neg hlength, if_neg htls]
    exact (if_neg hsize).trans ((if_neg hfew).trans (if_pos hsig))
  | case6 direction messages hlength htls size hsize payload available needed hfew hsig encoding
      havailable =>
    rw [drain, if_neg hlength, if_neg htls]
    exact (if_neg hsize).trans ((if_neg hfew).trans ((if_neg hsig).trans (if_pos havailable)))
  | case7 direction messages hlength htls size hsize payload available needed hfew hsig encoding
      havailable ih =>
    rw [drain, if_neg hlength, if_neg htls]
    refine (if_neg hsize).trans ((if_neg hfew).trans ((if_neg hsig).trans
      ((if_neg havailable).trans ?_)))
    rw [List.append_assoc]
    exact ih

/-- A chunk adds the same messages to any that are there. -/
theorem consume_eq (direction : Direction) (messages : List (MuxMessage π)) (c : Bytes) :
    consume direction messages c = ((consume direction ([] : List (MuxMessage π)) c).1,
      messages ++ (consume direction ([] : List (MuxMessage π)) c).2) := by
  unfold consume
  dsimp only
  split
  · rw [List.append_nil]
  split
  · rw [List.append_nil]
  · rw [← drain_append, List.append_nil]

/-- `consume` for a direction with its messages. -/
def step (side : Direction × List (MuxMessage π)) (chunk : Bool × Bytes) :
    Direction × List (MuxMessage π) := consume side.1 side.2 chunk.2

/-- A stream whose directions are tagged as what they are. -/
def Tagged (π : Type) : Type :=
  { stream : MuxStream π // ∀ outbound, (stream.direction outbound).outbound = outbound }

omit [Libplist π] in
theorem tagged_fresh (host device : UInt16) (outbound : Bool) :
    ((fresh host device : MuxStream π).direction outbound).outbound = outbound := by
  cases outbound <;> rfl

namespace Tagged

/-- A chunk keeps the tags. -/
def pass (stream : Tagged π) (chunk : Bool × Bytes) : Tagged π where
  val := stream.val.pass chunk.1 chunk.2
  property := by
    obtain ⟨hown, hother, -⟩ := pass_eq stream.val chunk.1 chunk.2
    intro outbound
    by_cases hside : outbound = chunk.1
    · rw [hside, hown, (consume_appends _ _ _).1]
      exact stream.property _
    · rw [Bool.eq_not.mpr hside, hother]
      exact stream.property _

/-- A direction with its messages. -/
def view (stream : Tagged π) (outbound : Bool) : Direction × List (MuxMessage π) :=
  (stream.val.direction outbound, stream.val.messagesOf outbound)

theorem foldl_pass (stream : Tagged π) (chunks : List (Bool × Bytes)) :
    (chunks.foldl pass stream).val = stream.val.run chunks := by
  induction chunks generalizing stream with
  | nil => rfl
  | cons chunk chunks ih => exact ih (stream.pass chunk)

/-- A chunk is seen by its own side only. -/
theorem confined_pass :
    Isolation.Confined (pass : Tagged π → Bool × Bytes → Tagged π) view
      (fun outbound chunk => chunk.1 == outbound) (fun _ => step) where
  own := by
    rintro stream ⟨side, c⟩ outbound hown
    obtain rfl : side = outbound := beq_iff_eq.mp hown
    obtain ⟨hdirection, -, hmessages⟩ := pass_eq stream.val side c
    obtain ⟨-, added, hadded, htags⟩ :=
      consume_appends (stream.val.direction side) ([] : List (MuxMessage π)) c
    rw [List.nil_append] at hadded
    -- the new messages are those of this side
    have hfilter : added.filter (fun m => m.outbound == side) = added := by
      apply List.filter_eq_self.mpr
      intro m hm
      rw [htags m hm, stream.property]
      exact beq_self_eq_true side
    rw [consume_eq, hadded] at hdirection hmessages
    unfold view pass step
    dsimp only
    rw [consume_eq, hadded, hdirection]
    refine congrArg _ ?_
    rw [messagesOf, hmessages, List.filter_append, hfilter]
    rfl
  other := by
    rintro stream ⟨side, c⟩ outbound hother
    have hside : side ≠ outbound := by simpa using hother
    obtain ⟨-, hkept, hmessages⟩ := pass_eq stream.val side c
    obtain ⟨-, added, hadded, htags⟩ :=
      consume_appends (stream.val.direction side) stream.val.messages c
    have hfilter : added.filter (fun m => m.outbound == outbound) = [] := by
      apply List.filter_eq_nil_iff.mpr
      intro m hm
      rw [htags m hm, stream.property, beq_iff_eq]
      exact hside
    rw [← Bool.eq_not.mpr (Ne.symm hside)] at hkept
    unfold view pass
    dsimp only
    rw [hkept, messagesOf, hmessages, hadded, List.filter_append, hfilter, List.append_nil]
    rfl

end Tagged

/-- What one side of a stream is after a run. -/
theorem view_run (stream : Tagged π) (chunks : List (Bool × Bytes)) (outbound : Bool) :
    ((stream.val.run chunks).direction outbound, (stream.val.run chunks).messagesOf outbound) =
      (chunks.filter fun chunk => chunk.1 == outbound).foldl step (stream.view outbound) := by
  rw [← Tagged.confined_pass.view_foldl, Tagged.view, Tagged.foldl_pass]

/-! ## Runs -/

section Runs

variable (side : Direction × List (MuxMessage π)) (chunks : List (Bool × Bytes))

/-- **Run lemma** for the invariant. -/
theorem settled_foldl (h : Settled side.1 side.2) :
    Settled (chunks.foldl step side).1 (chunks.foldl step side).2 := by
  induction chunks generalizing side with
  | nil => exact h
  | cons chunk chunks ih => exact ih _ (h.consume chunk.2)

/-- **Run lemma** for the counter. -/
theorem bytes_foldl :
    (chunks.foldl step side).1.bytes =
      side.1.bytes + UInt64.ofNat (chunks.flatMap Prod.snd).length := by
  induction chunks generalizing side with
  | nil => exact (UInt64.add_zero _).symm
  | cons chunk chunks ih =>
    rw [List.foldl_cons, ih, step, consume_bytes, List.flatMap_cons, List.length_append,
      UInt64.ofNat_add, UInt64.add_assoc]

/-- **Run lemma** for a direction that was given up. -/
theorem skipped_foldl (hskips : side.1.encoding = .raw ∨ side.1.encoding = .tls) :
    chunks.foldl step side =
      ({ side.1 with bytes := side.1.bytes + UInt64.ofNat (chunks.flatMap Prod.snd).length },
        side.2) := by
  induction chunks generalizing side with
  | nil =>
    have hzero : side.1.bytes + UInt64.ofNat 0 = side.1.bytes := UInt64.add_zero _
    rw [List.foldl_nil, List.flatMap_nil, List.length_nil, hzero]
  | cons chunk chunks ih =>
    have hrest := ih ({ side.1 with bytes := side.1.bytes + UInt64.ofNat chunk.2.length }, side.2)
      hskips
    rw [List.foldl_cons, step, consume_skipped hskips, hrest, List.flatMap_cons,
      List.length_append, UInt64.ofNat_add, ← UInt64.add_assoc]

end Runs

omit [Libplist π] in
theorem settled_fresh (outbound : Bool) : Settled (π := π) { outbound := outbound } [] := by
  refine ⟨fun _ => rfl, fun _ => ⟨rfl, Nat.zero_lt_succ 11⟩, ?_⟩
  intro hplist
  cases hplist

/-- A direction of a new stream, from the chunks that it was fed. -/
theorem view_fresh (host device : UInt16) (outbound : Bool) (chunks : List (Bool × Bytes)) :
    (((fresh host device : MuxStream π).run chunks).direction outbound,
      ((fresh host device : MuxStream π).run chunks).messagesOf outbound) =
        (chunks.filter fun chunk => chunk.1 == outbound).foldl step
          ({ outbound := outbound }, []) := by
  let tagged : Tagged π := ⟨fresh host device, tagged_fresh host device⟩
  have hstart : tagged.view outbound = ({ outbound := outbound }, []) := by
    cases outbound with
    | true => rfl
    | false => rfl
  rw [← hstart]
  exact view_run tagged chunks outbound

/-- **Invariant.** After any interleaving of chunks, each direction counts the bytes it was
fed and is settled. Once it is given up, no later chunk changes its encoding, its buffer or
its messages. Two runs that feed it the same chunks leave it the same. -/
theorem stream_invariant (host device : UInt16) (chunks : List (Bool × Bytes)) (outbound : Bool) :
    let stream : MuxStream π := (fresh host device).run chunks
    let direction := stream.direction outbound
    direction.bytes = UInt64.ofNat (bytesOf outbound chunks).length ∧
      Settled direction (stream.messagesOf outbound) ∧
      (∀ later : List (Bool × Bytes), direction.encoding = .raw ∨ direction.encoding = .tls →
        ((stream.run later).direction outbound).encoding = direction.encoding ∧
          ((stream.run later).direction outbound).buffer = direction.buffer ∧
          (stream.run later).messagesOf outbound = stream.messagesOf outbound) ∧
      ∀ chunks' : List (Bool × Bytes),
        (chunks'.filter fun chunk => chunk.1 == outbound) =
            (chunks.filter fun chunk => chunk.1 == outbound) →
        ((fresh host device : MuxStream π).run chunks').direction outbound = direction ∧
          ((fresh host device : MuxStream π).run chunks').messagesOf outbound =
            stream.messagesOf outbound := by
  intro stream direction
  have hown := view_fresh (π := π) host device outbound chunks
  refine ⟨?_, ?_, ?_, ?_⟩
  · have hdirection : direction = _ := congrArg Prod.fst hown
    rw [hdirection, bytes_foldl]
    exact UInt64.zero_add _
  · have hsettled := settled_foldl ({ outbound := outbound }, [])
      (chunks.filter fun chunk => chunk.1 == outbound) (settled_fresh (π := π) outbound)
    rw [← hown] at hsettled
    exact hsettled
  · intro later hskips
    have hlater := view_fresh (π := π) host device outbound (chunks ++ later)
    rw [List.filter_append, List.foldl_append, ← hown, skipped_foldl _ _ hskips] at hlater
    have hrun : stream.run later = (fresh host device : MuxStream π).run (chunks ++ later) :=
      List.foldl_append.symm
    obtain ⟨hdirection, hmessages⟩ := Prod.mk.inj hlater
    rw [hrun, hdirection]
    exact ⟨rfl, rfl, hmessages⟩
  · intro chunks' hsame
    have hother := view_fresh (π := π) host device outbound chunks'
    rw [hsame, ← hown] at hother
    exact Prod.mk.inj hother

end DemuxUsb.MuxStream
