import DemuxUsb.Protocol.MuxFraming

/-!
# Decoding a stream chunk by chunk

`decoded b` is what a direction makes of the bytes `b` when it sees them whole. A
direction that was fed `b` in pieces is `dirOf outbound b`, with the same messages, as
long as no signature overruns a first message that is too short for it (`Fed.run`). The
chunks of the two directions may be interleaved in any way.

* `decoding_split_independent_iff`: the decoding of a byte sequence is the same for every
  way of splitting it exactly when there is no such overrun.
* `length_prefixed_messages_survive`: length prefixed messages of legal size, the first
  with a signature, are recorded one by one whatever the chunks are.
-/

namespace DemuxUsb.MuxStream

open Endian Framing

variable {π : Type}

/-! ## Runs -/

/-- Feed one side of a stream. -/
def pass [Libplist π] (stream : MuxStream π) (outbound : Bool) (data : Bytes) : MuxStream π :=
  if outbound then stream.sendBytes data else stream.receiveBytes data

/-- Feed chunks to the sides they are tagged with. -/
def run [Libplist π] (stream : MuxStream π) (chunks : List (Bool × Bytes)) : MuxStream π :=
  chunks.foldl (fun stream chunk => stream.pass chunk.1 chunk.2) stream

def direction (stream : MuxStream π) (outbound : Bool) : Direction :=
  if outbound then stream.mOut else stream.mIn

/-- The messages recorded for one direction, in order. -/
def messagesOf (stream : MuxStream π) (outbound : Bool) : List (MuxMessage π) :=
  stream.messages.filter (fun m => m.outbound == outbound)

/-- The bytes fed to one side of a stream. -/
def bytesOf (outbound : Bool) (chunks : List (Bool × Bytes)) : Bytes :=
  (chunks.filter (fun chunk => chunk.1 == outbound)).flatMap Prod.snd

/-! ## Bytes seen whole -/

/-- The encoding a direction settles on, the bytes it keeps, and the messages it took. -/
def decoded (b : Bytes) : StreamEncoding × Bytes × List Bytes :=
  match framing b with
  | .unknown => (.unknown, b, [])
  | .plist =>
    let o := plistFramer.run b
    (o.halted.getD .plist, o.rest, o.frames)
  | encoding => (encoding, [], [])

/-- The direction that was fed `b`. -/
def dirOf (outbound : Bool) (b : Bytes) : Direction :=
  ⟨outbound, (decoded b).1, UInt64.ofNat b.length, (decoded b).2.1⟩

theorem plistFramer_halted {b : Bytes} {e : StreamEncoding}
    (h : (plistFramer.run b).halted = some e) : e = .raw ∨ e = .tls := by
  induction b using Framer.run_induction (F := plistFramer) with
  | more b hb => simp [Framer.run_of_more hb] at h
  | halt b e' hb =>
    rw [Framer.run_of_halt hb] at h
    obtain rfl := Option.some.inj h
    simp only [plistFramer, plistNext] at hb
    split at hb
    · cases hb
    split at hb
    · exact Or.inr (Verdict.halt.inj hb).symm
    split at hb
    · exact Or.inl (Verdict.halt.inj hb).symm
    split at hb <;> cases hb
  | frame b m n hb ih =>
    rw [Framer.run_of_frame hb] at h
    exact ih h

section Consume

variable [Libplist π]

/-- One more chunk for a direction that was fed `b`, when a decision already made stands.
The messages it adds are those that `decoded` finds in addition. -/
theorem consume_dirOf (outbound : Bool) {b c : Bytes}
    (hstands : framing b ≠ .unknown → framing (b ++ c) = framing b)
    (messages : List (MuxMessage π)) :
    ∃ added : List Bytes, (decoded (b ++ c)).2.2 = (decoded b).2.2 ++ added ∧
      consume (dirOf outbound b) messages c =
        (dirOf outbound (b ++ c), messages ++ added.map (message outbound)) := by
  by_cases hc : c.length = 0
  · have hnil : c = [] := List.length_eq_zero_iff.mp hc
    subst hnil
    refine ⟨[], by simp, ?_⟩
    simp [consume, dirOf]
  have hbytes : UInt64.ofNat b.length + UInt64.ofNat c.length = UInt64.ofNat (b ++ c).length := by
    rw [List.length_append, UInt64.ofNat_add]
  cases hf : framing b with
  | unknown =>
    have hb : dirOf outbound b = ⟨outbound, .unknown, UInt64.ofNat b.length, b⟩ := by
      simp [dirOf, decoded, hf]
    rw [hb, consume]
    simp only [hc, if_false, reduceCtorEq, or_self, hbytes]
    rw [drain_unknown _ rfl]
    cases hf' : framing (b ++ c) with
    | plist =>
      refine ⟨(plistFramer.run (b ++ c)).frames, by simp [decoded, hf, hf'], ?_⟩
      simp only
      rw [drain_plist _ rfl]
      simp [dirOf, decoded, hf']
    | unknown => exact ⟨[], by simp [decoded, hf, hf'], by simp [dirOf, decoded, hf']⟩
    | raw => exact ⟨[], by simp [decoded, hf, hf'], by simp [dirOf, decoded, hf']⟩
    | tls => exact ⟨[], by simp [decoded, hf, hf'], by simp [dirOf, decoded, hf']⟩
  | raw =>
    have hf' : framing (b ++ c) = .raw := (hstands (by simp [hf])).trans hf
    refine ⟨[], by simp [decoded, hf, hf'], ?_⟩
    simp [consume, dirOf, decoded, hf, hf', hc]
  | tls =>
    have hf' : framing (b ++ c) = .tls := (hstands (by simp [hf])).trans hf
    refine ⟨[], by simp [decoded, hf, hf'], ?_⟩
    simp [consume, dirOf, decoded, hf, hf', hc]
  | plist =>
    have hf' : framing (b ++ c) = .plist := (hstands (by simp [hf])).trans hf
    cases hhalt : (plistFramer.run b).halted with
    | some e =>
      have hrun := Framer.run_append_of_halted hhalt c
      refine ⟨[], by simp [decoded, hf, hf', hrun], ?_⟩
      rcases plistFramer_halted hhalt with rfl | rfl <;>
        simp [consume, dirOf, decoded, hf, hf', hhalt, hrun, hc]
    | none =>
      have hrun := Framer.run_append hhalt c
      refine ⟨(plistFramer.run ((plistFramer.run b).rest ++ c)).frames, ?_, ?_⟩
      · simp [decoded, hf, hf', hrun]
      · have hb : dirOf outbound b =
            ⟨outbound, .plist, UInt64.ofNat b.length, (plistFramer.run b).rest⟩ := by
          simp [dirOf, decoded, hf, hhalt]
        rw [hb, consume]
        simp only [hc, if_false, reduceCtorEq, or_self, hbytes]
        rw [drain_plist _ rfl]
        simp [dirOf, decoded, hf', hrun]

/-- The loop counts nothing; the bytes were counted before it. -/
theorem drain_bytes (direction : Direction) (messages : List (MuxMessage π)) :
    (drain direction messages).1.bytes = direction.bytes := by
  fun_induction drain direction messages with
  | case7 direction messages hlen htls size hbad payload available needed hfew hsig encoding
      havail ih => exact ih
  | _ => rfl

theorem consume_bytes (direction : Direction) (messages : List (MuxMessage π)) (c : Bytes) :
    (consume direction messages c).1.bytes = direction.bytes + UInt64.ofNat c.length := by
  unfold consume
  dsimp only
  split
  · rfl
  split
  · rfl
  · exact drain_bytes _ _

theorem consume_of_raw {direction : Direction} (hraw : direction.encoding = .raw)
    (messages : List (MuxMessage π)) (c : Bytes) : (consume direction messages c).2 = messages := by
  unfold consume
  dsimp only
  split
  · rfl
  · rw [if_pos (Or.inl hraw)]

theorem drain_appends (direction : Direction) (messages : List (MuxMessage π)) :
    (drain direction messages).1.outbound = direction.outbound ∧
      ∃ added, (drain direction messages).2 = messages ++ added ∧
        ∀ m ∈ added, m.outbound = direction.outbound := by
  fun_induction drain direction messages with
  | case7 direction messages hlen htls size hbad payload available needed hfew hsig encoding
      havail ih =>
    obtain ⟨hout, added, heq, hadded⟩ := ih
    refine ⟨hout, _, by rw [heq, List.append_assoc], ?_⟩
    intro m hm
    rcases List.mem_append.mp hm with hm | hm
    · rw [List.mem_singleton.mp hm]
    · exact hadded m hm
  | _ => exact ⟨rfl, [], by simp, by simp⟩

theorem consume_appends (direction : Direction) (messages : List (MuxMessage π)) (c : Bytes) :
    (consume direction messages c).1.outbound = direction.outbound ∧
      ∃ added, (consume direction messages c).2 = messages ++ added ∧
        ∀ m ∈ added, m.outbound = direction.outbound := by
  unfold consume
  dsimp only
  split
  · exact ⟨rfl, [], by simp, by simp⟩
  split
  · exact ⟨rfl, [], by simp, by simp⟩
  · exact drain_appends _ _

end Consume

/-! ## One side of a stream -/

/-- One side of the stream has been fed `b`, whatever happened on the other side. -/
structure Fed [Libplist π] (stream : MuxStream π) (outbound : Bool) (b : Bytes) : Prop where
  direction : stream.direction outbound = dirOf outbound b
  messages : stream.messagesOf outbound = (decoded b).2.2.map (message outbound)
  other : (stream.direction (!outbound)).outbound = !outbound

/-- A stream just opened between two ports. -/
def fresh (host device : UInt16) : MuxStream π := { host := host, device := device }

section Fed

variable [Libplist π] {stream : MuxStream π} {outbound : Bool} {b : Bytes}

theorem fed_fresh (host device : UInt16) (outbound : Bool) :
    Fed (fresh host device : MuxStream π) outbound [] := by
  have hdecoded : decoded [] = (.unknown, [], []) := by simp [decoded, framing]
  refine ⟨?_, ?_, ?_⟩
  · cases outbound <;> simp [MuxStream.direction, fresh, dirOf, hdecoded]
  · simp [messagesOf, fresh, hdecoded]
  · cases outbound <;> rfl

theorem pass_eq (stream : MuxStream π) (outbound : Bool) (c : Bytes) :
    (stream.pass outbound c).direction outbound =
        (consume (stream.direction outbound) stream.messages c).1 ∧
      (stream.pass outbound c).direction (!outbound) = stream.direction (!outbound) ∧
      (stream.pass outbound c).messages =
        (consume (stream.direction outbound) stream.messages c).2 := by
  cases outbound <;> exact ⟨rfl, rfl, rfl⟩

/-- Bytes do not change what a stream is called. -/
theorem pass_keeps (stream : MuxStream π) (outbound : Bool) (c : Bytes) :
    (stream.pass outbound c).host = stream.host ∧ (stream.pass outbound c).device = stream.device ∧
      (stream.pass outbound c).serviceName = stream.serviceName := by
  cases outbound <;> exact ⟨rfl, rfl, rfl⟩

theorem run_keeps (stream : MuxStream π) (chunks : List (Bool × Bytes)) :
    (stream.run chunks).host = stream.host ∧ (stream.run chunks).device = stream.device := by
  induction chunks generalizing stream with
  | nil => exact ⟨rfl, rfl⟩
  | cons chunk chunks ih =>
    obtain ⟨hhost, hdevice, -⟩ := pass_keeps stream chunk.1 chunk.2
    obtain ⟨hhost', hdevice'⟩ := ih (stream.pass chunk.1 chunk.2)
    exact ⟨hhost'.trans hhost, hdevice'.trans hdevice⟩

theorem Fed.pass_own (hfed : Fed stream outbound b) {c : Bytes}
    (hstands : framing b ≠ .unknown → framing (b ++ c) = framing b) :
    Fed (stream.pass outbound c) outbound (b ++ c) := by
  obtain ⟨hdir, hother, hmessages⟩ := pass_eq stream outbound c
  rw [hfed.direction] at hdir hmessages
  obtain ⟨added, hframes, hconsume⟩ := consume_dirOf outbound hstands stream.messages
  rw [hconsume] at hdir hmessages
  refine ⟨hdir, ?_, by rw [hother, hfed.other]⟩
  have hold := hfed.messages
  simp only [messagesOf] at hold ⊢
  rw [hmessages, hframes, List.filter_append, hold, List.map_append]
  congr 1
  apply List.filter_eq_self.mpr
  intro m hm
  obtain ⟨payload, -, rfl⟩ := List.mem_map.mp hm
  simp [message]

theorem Fed.pass_other (hfed : Fed stream outbound b) (c : Bytes) :
    Fed (stream.pass (!outbound) c) outbound b := by
  obtain ⟨hdir, hother, hmessages⟩ := pass_eq stream (!outbound) c
  rw [Bool.not_not] at hother
  obtain ⟨hout, added, hadded, htag⟩ :=
    consume_appends (stream.direction (!outbound)) stream.messages c
  rw [hfed.other] at hout htag
  refine ⟨by rw [hother, hfed.direction], ?_, by rw [hdir, hout]⟩
  have hold := hfed.messages
  simp only [messagesOf] at hold ⊢
  rw [hmessages, hadded, List.filter_append, hold, List.append_right_eq_self]
  apply List.filter_eq_nil_iff.mpr
  intro m hm
  rw [htag m hm]
  cases outbound <;> simp

/-- **Run lemma.** Whatever the chunks are and however those of the two sides are
interleaved, a side ends where its own bytes lead it. -/
theorem Fed.run (hfed : Fed stream outbound b) (chunks : List (Bool × Bytes))
    (hover : ¬ SignatureOverrun (b ++ bytesOf outbound chunks)) :
    Fed (stream.run chunks) outbound (b ++ bytesOf outbound chunks) := by
  induction chunks generalizing stream b with
  | nil => simpa [MuxStream.run, bytesOf] using hfed
  | cons chunk chunks ih =>
    obtain ⟨side, c⟩ := chunk
    by_cases hside : side = outbound
    · subst hside
      have hbytes : bytesOf side ((side, c) :: chunks) = c ++ bytesOf side chunks := by
        simp [bytesOf]
      rw [hbytes, ← List.append_assoc] at hover ⊢
      exact ih (hfed.pass_own (fun hf => framing_append hf (fun h => hover (h.append _)))) hover
    · have hbytes : bytesOf outbound ((side, c) :: chunks) = bytesOf outbound chunks := by
        simp [bytesOf, hside]
      have hnot : side = !outbound := by
        cases side <;> cases outbound <;> simp_all
      rw [hbytes] at hover ⊢
      subst hnot
      exact ih (hfed.pass_other c) hover

end Fed

/-! ## Splits of one side -/

/-- `chunks` is a way of cutting `b` into consecutive non-empty pieces. -/
def IsSplit (b : Bytes) (chunks : List Bytes) : Prop :=
  chunks.flatten = b ∧ ∀ c ∈ chunks, c ≠ []

theorem isSplit_singleton {b : Bytes} (h : 0 < b.length) : IsSplit b [b] := by
  refine ⟨List.flatten_singleton, ?_⟩
  intro c hc
  rw [List.mem_singleton.mp hc]
  exact List.ne_nil_of_length_pos h

/-- A cut inside a sequence. -/
theorem isSplit_take_drop {b : Bytes} {k : Nat} (hpos : 0 < k) (hlong : k < b.length) :
    IsSplit b [b.take k, b.drop k] := by
  constructor
  · rw [List.flatten_cons, List.flatten_singleton, List.take_append_drop]
  · intro c hc
    rw [List.mem_pair] at hc
    rcases hc with rfl | rfl
    · apply List.ne_nil_of_length_pos
      rw [List.length_take]
      omega
    · apply List.ne_nil_of_length_pos
      rw [List.length_drop]
      omega

/-- Feed chunks to one side of a fresh stream. -/
def decodeChunks [Libplist π] (host device : UInt16) (outbound : Bool) (chunks : List Bytes) :
    MuxStream π :=
  (fresh host device).run (chunks.map (fun c => (outbound, c)))

/-- Same encoding, same messages, same residual buffer. -/
def SameDecoding (outbound : Bool) (s t : MuxStream π) : Prop :=
  (s.direction outbound).encoding = (t.direction outbound).encoding ∧
    s.messages = t.messages ∧
    (s.direction outbound).buffer = (t.direction outbound).buffer

section Splits

variable [Libplist π]

theorem bytesOf_own (outbound : Bool) (chunks : List Bytes) :
    bytesOf outbound (chunks.map (fun c => (outbound, c))) = chunks.flatten := by
  induction chunks with
  | nil => rfl
  | cons c chunks ih => simpa [bytesOf] using ih

theorem bytesOf_other (outbound : Bool) (chunks : List Bytes) :
    bytesOf (!outbound) (chunks.map (fun c => (outbound, c))) = [] := by
  cases outbound <;> simp [bytesOf]

/-- The direction of a stream that was fed on one side only. -/
theorem decodeChunks_direction (host device : UInt16) (outbound : Bool) (chunks : List Bytes)
    (hover : ¬ SignatureOverrun chunks.flatten) :
    (decodeChunks host device outbound chunks : MuxStream π).direction outbound =
      dirOf outbound chunks.flatten := by
  have hfed := (fed_fresh (π := π) host device outbound).run
    (chunks.map (fun c => (outbound, c))) (by simpa [bytesOf_own] using hover)
  rw [bytesOf_own, List.nil_append] at hfed
  exact hfed.direction

/-- The messages of a stream that was fed on one side only. -/
theorem decodeChunks_messages (host device : UInt16) (outbound : Bool) (chunks : List Bytes)
    (hover : ¬ SignatureOverrun chunks.flatten) :
    (decodeChunks host device outbound chunks : MuxStream π).messages =
      (decoded chunks.flatten).2.2.map (message outbound) := by
  have hown := (fed_fresh (π := π) host device outbound).run
    (chunks.map (fun c => (outbound, c))) (by simpa [bytesOf_own] using hover)
  have hother := (fed_fresh (π := π) host device (!outbound)).run
    (chunks.map (fun c => (outbound, c))) (by simp [bytesOf_other, SignatureOverrun])
  rw [bytesOf_own, List.nil_append] at hown
  rw [bytesOf_other, List.nil_append] at hother
  have hnone := hother.messages
  simp only [decoded, framing, List.length_nil, Nat.zero_lt_succ, if_true, List.map_nil,
    messagesOf, List.filter_eq_nil_iff] at hnone
  rw [← hown.messages, messagesOf, decodeChunks, eq_comm, List.filter_eq_self]
  intro m hm
  have hm' := hnone m hm
  cases outbound <;> simpa using hm'

/-- The first message of an overrun is shorter than the longest signature, and not the last
thing in the bytes. -/
theorem SignatureOverrun.bounds {b : Bytes} (h : SignatureOverrun b) :
    (readBigEndian32 b).toNat < 8 ∧ 4 + (readBigEndian32 b).toNat < b.length := by
  obtain ⟨hlen, -, hsig⟩ := h
  have hdrop : (b.drop 4).length = b.length - 4 := List.length_drop
  have hxml : xmlPlistPrefix.length = 5 := rfl
  have hbin : binaryPlistPrefix.length = 8 := rfl
  rcases hsig with ⟨hsize, hpre⟩ | ⟨hsize, hpre⟩ <;>
    · have hle := hpre.length_le
      omega

/-- The length of its first message is one that `drain` accepts. -/
theorem SignatureOverrun.accepted {b : Bytes} (h : SignatureOverrun b) :
    ¬ looksLikeTLS b = true ∧
      ¬ (readBigEndian32 b = 0 ∨ maxPlistMessage < readBigEndian32 b) := by
  have hsize := h.bounds.1
  obtain ⟨hlen, hzero, -⟩ := h
  have hmax : ¬ maxPlistMessage < readBigEndian32 b := by
    rw [UInt32.lt_iff_toNat_lt]
    have hval : maxPlistMessage.toNat = 2 ^ 26 := rfl
    omega
  exact ⟨fun ht => hmax (maxPlistMessage_lt_of_tls hlen ht), not_or.mpr ⟨hzero, hmax⟩⟩

/-- Seen whole, an overrun is framed as property lists. -/
theorem SignatureOverrun.framing_whole {b : Bytes} (h : SignatureOverrun b) :
    framing b = .plist := by
  have hlong := h.bounds.2
  obtain ⟨htls, hbad⟩ := h.accepted
  obtain ⟨hlen, -, hsig⟩ := h
  have hdrop : (b.drop 4).length = b.length - 4 := List.length_drop
  have havail : ¬ b.length - 4 < min (readBigEndian32 b).toNat binaryPlistPrefix.length := by
    omega
  have hfound : ¬ (startsWith (b.drop 4) (b.length - 4) xmlPlistPrefix ||
      startsWith (b.drop 4) (b.length - 4) binaryPlistPrefix) = false := by
    rw [Bool.not_eq_false, Bool.or_eq_true, startsWith_iff hdrop, startsWith_iff hdrop]
    exact hsig.imp And.right And.right
  rw [framing_of_length hlen htls hbad, if_neg havail, if_neg hfound]

/-- Cut at the end of its first message, it is not. -/
theorem SignatureOverrun.framing_cut {b : Bytes} (h : SignatureOverrun b) :
    framing (b.take (4 + (readBigEndian32 b).toNat)) = .raw := by
  obtain ⟨hsize, hlong⟩ := h.bounds
  obtain ⟨htls, hbad⟩ := h.accepted
  obtain ⟨hlen, hzero, hsig⟩ := h
  have hxml : xmlPlistPrefix.length = 5 := rfl
  have hbin : binaryPlistPrefix.length = 8 := rfl
  obtain ⟨front, back, rfl, hfront⟩ : ∃ front back, b = front ++ back ∧
      front.length = 4 + (readBigEndian32 b).toNat :=
    ⟨b.take (4 + (readBigEndian32 b).toNat), b.drop (4 + (readBigEndian32 b).toNat),
      (List.take_append_drop _ _).symm, by rw [List.length_take]; omega⟩
  rw [← hfront, List.take_left]
  rw [readBigEndian32_append (by omega)] at *
  rw [looksLikeTLS_append (by omega)] at htls
  have hdrop : (front.drop 4).length = front.length - 4 := List.length_drop
  have hpre : front.drop 4 <+: (front ++ back).drop 4 := by
    rw [List.drop_append_of_le_length (by omega)]
    exact List.prefix_append _ _
  have havail : ¬ front.length - 4 < min (readBigEndian32 front).toNat
      binaryPlistPrefix.length := by
    omega
  have hlost : (startsWith (front.drop 4) (front.length - 4) xmlPlistPrefix ||
      startsWith (front.drop 4) (front.length - 4) binaryPlistPrefix) = false := by
    rw [← Bool.not_eq_true, Bool.or_eq_true, startsWith_iff hdrop, startsWith_iff hdrop, not_or]
    constructor
    · intro hx
      have hle := hx.length_le
      rcases hsig with ⟨hlt, -⟩ | ⟨-, hb⟩
      · omega
      · -- the two signatures do not begin alike
        have habs := List.prefix_of_prefix_length_le (hx.trans hpre) hb (by decide)
        exact absurd habs (by decide)
    · intro hb
      have hle := hb.length_le
      omega
  rw [framing_of_length (by omega) htls hbad, if_neg havail, if_pos hlost]

/-- **Split independence.** Every two ways of cutting a byte sequence decode alike exactly
when no signature overruns the first message. -/
theorem decoding_split_independent_iff (host device : UInt16) (outbound : Bool) (b : Bytes) :
    (∀ first second, IsSplit b first → IsSplit b second →
      SameDecoding outbound (decodeChunks host device outbound first : MuxStream π)
        (decodeChunks host device outbound second)) ↔ ¬ SignatureOverrun b := by
  constructor
  · intro hsame hover
    have hwhole := hover.framing_whole
    have hcut := hover.framing_cut
    have hlong := hover.bounds.2
    generalize hk : 4 + (readBigEndian32 b).toNat = k at hcut hlong
    have hpos : 0 < k := by omega
    have hmessages := (hsame [b] [b.take k, b.drop k] (isSplit_singleton (by omega))
      (isSplit_take_drop hpos hlong)).2.1
    -- whole, the bytes hold a message
    have hone := ((fed_fresh (π := π) host device outbound).pass_own (c := b)
      (fun hf => absurd rfl hf)).messages
    -- cut, the direction is given up before the second piece arrives
    have hnone := (fed_fresh (π := π) host device outbound).pass_own (c := b.take k)
      (fun hf => absurd rfl hf)
    have hdropped := (pass_eq ((fresh host device : MuxStream π).pass outbound (b.take k))
      outbound (b.drop k)).2.2
    rw [consume_of_raw (by rw [hnone.direction, List.nil_append, dirOf, decoded, hcut])] at hdropped
    have hsecond := hnone.messages
    simp only [messagesOf, List.nil_append, decoded, hcut, List.map_nil] at hsecond
    simp only [messagesOf, List.nil_append, decoded, hwhole] at hone
    have hempty : (plistFramer.run b).frames.map (message (π := π) outbound) = [] := by
      rw [← hone, ← hsecond, ← hdropped]
      exact congrArg (List.filter _) hmessages
    have hnext : plistFramer.next b =
        .frame ((b.drop 4).take (readBigEndian32 b).toNat) (4 + (readBigEndian32 b).toNat) := by
      obtain ⟨hlen, htls, hbad⟩ := length_of_framing hwhole
      simp only [plistFramer, plistNext]
      rw [if_neg (by omega), if_neg htls, if_neg hbad, if_neg (by omega)]
    rw [Framer.run_of_frame hnext, List.map_cons] at hempty
    cases hempty
  · rintro hover first second ⟨rfl, -⟩ ⟨hsecond, -⟩
    have hover' : ¬ SignatureOverrun second.flatten := hsecond.symm ▸ hover
    have hdirection : (decodeChunks host device outbound first : MuxStream π).direction outbound =
        (decodeChunks host device outbound second : MuxStream π).direction outbound := by
      rw [decodeChunks_direction _ _ _ _ hover, decodeChunks_direction _ _ _ _ hover', hsecond]
    refine ⟨?_, ?_, ?_⟩
    · rw [hdirection]
    · rw [decodeChunks_messages _ _ _ _ hover, decodeChunks_messages _ _ _ _ hover', hsecond]
    · rw [hdirection]

/-- A first message of four bytes, `"<?xm"`, and one more byte that completes the
signature `"<?xml"`: cut at the end of the message, or not at all. -/
theorem decoding_split_dependent :
    ¬ ∀ (b : Bytes) (first second : List Bytes), IsSplit b first → IsSplit b second →
      SameDecoding true (decodeChunks 49152 62078 true first : MuxStream Empty)
        (decodeChunks 49152 62078 true second) := by
  intro h
  have hsame := h [0, 0, 0, 4, 0x3C, 0x3F, 0x78, 0x6D, 0x6C]
    [[0, 0, 0, 4, 0x3C, 0x3F, 0x78, 0x6D], [0x6C]]
    [[0, 0, 0, 4, 0x3C, 0x3F, 0x78, 0x6D, 0x6C]] (by simp [IsSplit]) (by simp [IsSplit])
  have hencoding := hsame.1
  revert hencoding
  decide +kernel

end Splits

/-! ## Length prefixed messages -/

/-- A message as services send it. -/
def lengthPrefixed (m : Bytes) : Bytes := be32Bytes (UInt32.ofNat m.length) ++ m

theorem length_lengthPrefixed (m : Bytes) : (lengthPrefixed m).length = 4 + m.length := by
  rw [lengthPrefixed, List.length_append, length_be32Bytes]

theorem drop_lengthPrefixed (m r : Bytes) : (lengthPrefixed m ++ r).drop 4 = m ++ r := by
  rw [lengthPrefixed, List.append_assoc]
  exact List.drop_left' (length_be32Bytes _)

/-- The length of a legal message, read back from what precedes it. -/
theorem readBigEndian32_lengthPrefixed {m : Bytes} (hpos : 1 ≤ m.length)
    (hle : m.length ≤ maxPlistMessage.toNat) (r : Bytes) :
    (readBigEndian32 (lengthPrefixed m ++ r)).toNat = m.length ∧
      ¬ (readBigEndian32 (lengthPrefixed m ++ r) = 0 ∨
        maxPlistMessage < readBigEndian32 (lengthPrefixed m ++ r)) ∧
      ¬ looksLikeTLS (lengthPrefixed m ++ r) = true := by
  have hmax : maxPlistMessage.toNat = 2 ^ 26 := rfl
  have hread : readBigEndian32 (lengthPrefixed m ++ r) = UInt32.ofNat m.length := by
    rw [lengthPrefixed, List.append_assoc]
    exact be32_be32Bytes_append _ _
  have hlen : (UInt32.ofNat m.length).toNat = m.length := by
    rw [UInt32.toNat_ofNat']
    omega
  have hnlt : ¬ maxPlistMessage < UInt32.ofNat m.length := by
    rw [UInt32.lt_iff_toNat_lt, hlen]
    omega
  refine ⟨by rw [hread, hlen], ?_, ?_⟩
  · rw [hread, not_or]
    refine ⟨fun hz => ?_, hnlt⟩
    rw [hz] at hlen
    have hzero : (0 : UInt32).toNat = 0 := rfl
    omega
  · intro htls
    have hfour : 4 ≤ (lengthPrefixed m ++ r).length := by
      rw [List.length_append, length_lengthPrefixed]
      omega
    have hlt := maxPlistMessage_lt_of_tls hfour htls
    rw [hread] at hlt
    exact hnlt hlt

theorem plistNext_lengthPrefixed {m : Bytes} (hpos : 1 ≤ m.length)
    (hle : m.length ≤ maxPlistMessage.toNat) :
    plistNext (lengthPrefixed m) = .frame m (lengthPrefixed m).length := by
  obtain ⟨hread, hsize, htls⟩ := readBigEndian32_lengthPrefixed hpos hle []
  have hdrop := drop_lengthPrefixed m []
  rw [List.append_nil] at hread hsize htls hdrop
  rw [List.append_nil] at hdrop
  have hlen := length_lengthPrefixed m
  unfold plistNext
  dsimp only
  rw [if_neg (by omega), if_neg htls, if_neg hsize, hread, if_neg (by omega), hdrop,
    List.take_length, hlen]

/-- A first message with a signature settles the framing. -/
theorem framing_lengthPrefixed {m : Bytes} (hle : m.length ≤ maxPlistMessage.toNat)
    (hsig : xmlPlistPrefix <+: m ∨ binaryPlistPrefix <+: m) (r : Bytes) :
    framing (lengthPrefixed m ++ r) = .plist ∧ ¬ SignatureOverrun (lengthPrefixed m ++ r) := by
  have hxml : xmlPlistPrefix.length = 5 := rfl
  have hbin : binaryPlistPrefix.length = 8 := rfl
  have hfive : 5 ≤ m.length := by
    rcases hsig with h | h
    · exact hxml ▸ h.length_le
    · exact Nat.le_trans (by decide) (hbin ▸ h.length_le)
  obtain ⟨hread, hsize, htls⟩ := readBigEndian32_lengthPrefixed (by omega) hle r
  have hdrop := drop_lengthPrefixed m r
  have hlen : (lengthPrefixed m ++ r).length = 4 + m.length + r.length := by
    rw [List.length_append, length_lengthPrefixed]
  have hpre : m <+: m ++ r := List.prefix_append m r
  constructor
  · have hfound : (startsWith (m ++ r) (4 + m.length + r.length - 4) xmlPlistPrefix ||
        startsWith (m ++ r) (4 + m.length + r.length - 4) binaryPlistPrefix) = true := by
      have havail : (m ++ r).length = 4 + m.length + r.length - 4 := by
        rw [List.length_append]
        omega
      rw [Bool.or_eq_true, startsWith_iff havail, startsWith_iff havail]
      exact hsig.imp (·.trans hpre) (·.trans hpre)
    rw [framing_of_length (by omega) htls hsize, hread, hdrop, hlen, if_neg (by omega),
      if_neg (by rw [hfound]; exact Bool.noConfusion)]
  · rintro ⟨-, -, hover⟩
    rw [hread, hdrop] at hover
    rcases hover with ⟨hlt, -⟩ | ⟨hlt, hbinary⟩
    · omega
    · rcases hsig with hx | hb
      · -- the two signatures do not begin alike
        exact absurd (List.prefix_of_prefix_length_le (hx.trans hpre) hbinary (by decide))
          (by decide)
      · have hle := hb.length_le
        omega

section Survive

variable [Libplist π]

/-- **Messages survive.** Length prefixed messages, the first with a signature, are
recorded one by one, however their bytes are cut and whatever the other side sends in
between. -/
theorem length_prefixed_messages_survive (host device : UInt16) (outbound : Bool)
    (first : Bytes) (rest : List Bytes)
    (hsize : ∀ m ∈ first :: rest, 1 ≤ m.length ∧ m.length ≤ 64 * 1024 * 1024)
    (hsig : xmlPlistPrefix <+: first ∨ binaryPlistPrefix <+: first)
    (chunks : List (Bool × Bytes))
    (hchunks : bytesOf outbound chunks = (first :: rest).flatMap lengthPrefixed) :
    let stream : MuxStream π := (fresh host device).run chunks
    (stream.direction outbound).encoding = .plist ∧
      (stream.direction outbound).buffer = [] ∧
      stream.messagesOf outbound = (first :: rest).map fun m =>
        ⟨outbound, UInt32.ofNat m.length,
          if binaryPlistPrefix <+: m then Libplist.plistFromBin m else Libplist.plistFromXml m⟩ := by
  intro stream
  have hmax : maxPlistMessage.toNat = 64 * 1024 * 1024 := rfl
  rw [← hmax] at hsize
  obtain ⟨hframing, hover⟩ := framing_lengthPrefixed (hsize first List.mem_cons_self).2 hsig
    (rest.flatMap lengthPrefixed)
  rw [← List.flatMap_cons, ← hchunks] at hframing hover
  have hfed := (fed_fresh (π := π) host device outbound).run chunks
    (by rwa [List.nil_append])
  rw [List.nil_append] at hfed
  have hrun : plistFramer.run (bytesOf outbound chunks) = ⟨first :: rest, [], none⟩ := by
    have hframe : ∀ m ∈ first :: rest,
        plistFramer.next (lengthPrefixed m) = .frame (id m) (lengthPrefixed m).length :=
      fun m hm => plistNext_lengthPrefixed (hsize m hm).1 (hsize m hm).2
    have htail : plistFramer.next [] = .more := rfl
    have hround := Framer.run_flatMap (first :: rest) hframe htail
    rwa [List.append_nil, List.map_id, ← hchunks] at hround
  have hdecoded : decoded (bytesOf outbound chunks) = (.plist, [], first :: rest) := by
    simp only [decoded, hframing, hrun, Option.getD_none]
  refine ⟨?_, ?_, ?_⟩
  · rw [hfed.direction, dirOf, hdecoded]
  · rw [hfed.direction, dirOf, hdecoded]
  · rw [hfed.messages, hdecoded]
    apply List.map_congr_left
    intro m _
    simp only [message, decodePlist, List.take_length, startsWith_iff rfl]

/-- Two messages, cut inside the first length and inside the second message, with bytes
of the other side in between. -/
theorem length_prefixed_messages_survive_example :
    let stream : MuxStream Empty := (fresh 49152 62078).run
      [(true, [0, 0]), (false, [0x16, 3, 1]), (true, [0, 5, 0x3C, 0x3F, 0x78, 0x6D, 0x6C, 0, 0]),
        (true, [0, 2, 0x16]), (false, [9]), (true, []), (true, [0x03])]
    (stream.direction true).encoding = .plist ∧ (stream.direction true).buffer = [] ∧
      stream.messagesOf true = [⟨true, 5, none⟩, ⟨true, 2, none⟩] := by
  have h := length_prefixed_messages_survive (π := Empty) 49152 62078 true
    [0x3C, 0x3F, 0x78, 0x6D, 0x6C] [[0x16, 0x03]] (by decide) (Or.inl (by decide))
    [(true, [0, 0]), (false, [0x16, 3, 1]), (true, [0, 5, 0x3C, 0x3F, 0x78, 0x6D, 0x6C, 0, 0]),
      (true, [0, 2, 0x16]), (false, [9]), (true, []), (true, [0x03])] (by decide)
  exact h

end Survive

end DemuxUsb.MuxStream
