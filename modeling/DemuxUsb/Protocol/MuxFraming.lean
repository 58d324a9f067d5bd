import DemuxUsb.Library.Framer
import DemuxUsb.Protocol.MuxStream

/-!
# Message framing of a stream

The loop of `MuxStream.drain` in two parts: `framing` decides what a direction carries
on its first bytes, and on a property list direction the loop is a run of `plistFramer`.

* `framing_append`: a decision stands when more bytes arrive, unless a signature reaches
  past the end of a first message that is too short for it (`SignatureOverrun`).
* `drain_unknown`, `drain_plist`: the loop is the decision followed by the run.
-/

namespace DemuxUsb.MuxStream

open Endian Framing

/-! ## The prefix of a buffer -/

theorem readBigEndian32_append {b : Bytes} (h : 4 ≤ b.length) (c : Bytes) :
    readBigEndian32 (b ++ c) = readBigEndian32 b := be32_append_left c (by omega)

theorem looksLikeTLS_append {b : Bytes} (h : 3 ≤ b.length) (c : Bytes) :
    looksLikeTLS (b ++ c) = looksLikeTLS b := by
  have hlen : 3 ≤ (b ++ c).length := by
    rw [List.length_append]
    omega
  simp only [looksLikeTLS, h, hlen, u8_append_left c (show 0 < b.length by omega),
    u8_append_left c (show 1 < b.length by omega), u8_append_left c (show 2 < b.length by omega)]

theorem readBigEndian32_cons (b₀ b₁ b₂ b₃ : UInt8) (r : Bytes) :
    (readBigEndian32 (b₀ :: b₁ :: b₂ :: b₃ :: r)).toNat =
      b₀.toNat * 2 ^ 24 + b₁.toNat * 2 ^ 16 + b₂.toNat * 2 ^ 8 + b₃.toNat := by
  have h₀ := b₀.toNat_lt
  have h₁ := b₁.toNat_lt
  have h₂ := b₂.toNat_lt
  have h₃ := b₃.toNat_lt
  simp only [readBigEndian32, be32, field, List.drop_zero, List.take_succ_cons, List.take_zero,
    beNat, List.reverse_cons, List.reverse_nil, List.nil_append, List.cons_append, leNat,
    UInt32.toNat_ofNat']
  omega

/-- A TLS record starts like a length prefix far above the limit for a message. -/
theorem maxPlistMessage_lt_of_tls {b : Bytes} (hlen : 4 ≤ b.length) (h : looksLikeTLS b = true) :
    maxPlistMessage < readBigEndian32 b := by
  match b, hlen with
  | b₀ :: b₁ :: b₂ :: b₃ :: r, _ =>
    simp only [looksLikeTLS, Bool.and_eq_true, Bool.or_eq_true, beq_iff_eq, u8_cons_zero] at h
    have h₀ : 0x16 ≤ b₀.toNat := by
      rcases h.1.1.2 with rfl | rfl <;> decide
    rw [UInt32.lt_iff_toNat_lt, readBigEndian32_cons]
    have hmax : maxPlistMessage.toNat = 2 ^ 26 := rfl
    omega

theorem startsWith_iff {data signature : Bytes} {length : Nat} (h : data.length = length) :
    startsWith data length signature = true ↔ signature <+: data := by
  simp only [startsWith, Bool.and_eq_true, decide_eq_true_eq, beq_iff_eq]
  constructor
  · rintro ⟨-, heq⟩
    exact List.prefix_iff_eq_take.mpr heq.symm
  · intro hpre
    exact ⟨h ▸ hpre.length_le, (List.prefix_iff_eq_take.mp hpre).symm⟩

/-! ## The decision -/

/-- What the first bytes of a direction say about its framing. -/
def framing (b : Bytes) : StreamEncoding :=
  if b.length < 4 then .unknown
  else if looksLikeTLS b then .tls
  else
    let size := readBigEndian32 b
    if size = 0 ∨ maxPlistMessage < size then .raw
    else if b.length - 4 < min size.toNat binaryPlistPrefix.length then .unknown
    else if (startsWith (b.drop 4) (b.length - 4) xmlPlistPrefix ||
        startsWith (b.drop 4) (b.length - 4) binaryPlistPrefix) = false then .raw
    else .plist

/-- The decision when a possible length is there. -/
theorem framing_of_length {b : Bytes} (hlen : 4 ≤ b.length) (htls : ¬ looksLikeTLS b = true)
    (hsize : ¬ (readBigEndian32 b = 0 ∨ maxPlistMessage < readBigEndian32 b)) :
    framing b =
      if b.length - 4 < min (readBigEndian32 b).toNat binaryPlistPrefix.length then .unknown
      else if (startsWith (b.drop 4) (b.length - 4) xmlPlistPrefix ||
          startsWith (b.drop 4) (b.length - 4) binaryPlistPrefix) = false then .raw
      else .plist := by
  unfold framing
  rw [if_neg (by omega), if_neg htls]
  exact if_neg hsize

theorem length_of_framing {b : Bytes} (h : framing b = .plist) :
    4 ≤ b.length ∧ ¬ looksLikeTLS b = true ∧
      ¬ (readBigEndian32 b = 0 ∨ maxPlistMessage < readBigEndian32 b) := by
  unfold framing at h
  dsimp only at h
  split at h
  · cases h
  split at h
  · cases h
  split at h
  · cases h
  rename_i hlen htls hsize
  exact ⟨by omega, htls, hsize⟩

/-- The first message is shorter than the signature that begins where it begins: what
spells the signature is, in part, not the message. -/
def SignatureOverrun (b : Bytes) : Prop :=
  4 ≤ b.length ∧ readBigEndian32 b ≠ 0 ∧
    (((readBigEndian32 b).toNat < xmlPlistPrefix.length ∧ xmlPlistPrefix <+: b.drop 4) ∨
      ((readBigEndian32 b).toNat < binaryPlistPrefix.length ∧ binaryPlistPrefix <+: b.drop 4))

instance (b : Bytes) : Decidable (SignatureOverrun b) :=
  inferInstanceAs (Decidable (_ ∧ _ ∧ (_ ∨ _)))

theorem SignatureOverrun.append {b : Bytes} (h : SignatureOverrun b) (c : Bytes) :
    SignatureOverrun (b ++ c) := by
  obtain ⟨hlen, hzero, hsig⟩ := h
  have hdrop : (b ++ c).drop 4 = b.drop 4 ++ c := List.drop_append_of_le_length hlen
  refine ⟨by rw [List.length_append]; omega, ?_, ?_⟩
  · rwa [readBigEndian32_append hlen]
  · rw [readBigEndian32_append hlen, hdrop]
    rcases hsig with ⟨hsize, hpre⟩ | ⟨hsize, hpre⟩
    · exact Or.inl ⟨hsize, hpre.trans (List.prefix_append _ _)⟩
    · exact Or.inr ⟨hsize, hpre.trans (List.prefix_append _ _)⟩

/-- A signature that is complete with more bytes and was not complete without them is
longer than what was there. -/
theorem length_lt_of_new_prefix {b c signature : Bytes} (hnew : signature <+: b ++ c)
    (hold : ¬ signature <+: b) : b.length < signature.length := by
  by_contra hle
  exact hold (List.prefix_of_prefix_length_le hnew (List.prefix_append b c) (by omega))

/-- A decision, once made, stands, unless the signature overruns the first message. -/
theorem framing_append {b c : Bytes} (h : framing b ≠ .unknown)
    (hover : ¬ SignatureOverrun (b ++ c)) : framing (b ++ c) = framing b := by
  have hlen : 4 ≤ b.length := by
    by_contra hlt
    exact h (if_pos (by omega))
  have hlen' : (b ++ c).length = b.length + c.length := List.length_append
  have hdrop : (b ++ c).drop 4 = b.drop 4 ++ c := List.drop_append_of_le_length hlen
  have hsize := readBigEndian32_append hlen c
  have hnlt : ¬ b.length < 4 := by omega
  have hnlt' : ¬ (b ++ c).length < 4 := by omega
  simp only [framing, hnlt, hnlt', if_false, looksLikeTLS_append (show 3 ≤ b.length by omega),
    hsize] at h ⊢
  split
  · rfl
  split
  · rfl
  rename_i htls hbad
  simp only [htls, hbad, if_false] at h
  have havail : ¬ b.length - 4 < min (readBigEndian32 b).toNat binaryPlistPrefix.length := by
    intro hlt
    exact h (if_pos hlt)
  have havail' :
      ¬ (b ++ c).length - 4 < min (readBigEndian32 b).toNat binaryPlistPrefix.length := by
    omega
  rw [if_neg havail, if_neg havail']
  -- a signature that only the later bytes complete would overrun the message
  have hsig : ∀ signature : Bytes, signature.length ≤ binaryPlistPrefix.length →
      (signature = xmlPlistPrefix ∨ signature = binaryPlistPrefix) →
      startsWith ((b ++ c).drop 4) ((b ++ c).length - 4) signature =
        startsWith (b.drop 4) (b.length - 4) signature := by
    intro signature hle hkind
    rw [Bool.eq_iff_iff, startsWith_iff (List.length_drop ..), startsWith_iff (List.length_drop ..),
      hdrop]
    constructor
    · intro hnew
      by_contra hold
      have hlt := length_lt_of_new_prefix hnew hold
      rw [List.length_drop] at hlt
      apply hover
      refine ⟨by omega, ?_, ?_⟩
      · rw [hsize]
        intro hz
        exact hbad (Or.inl hz)
      · rw [hsize, hdrop]
        rcases hkind with rfl | rfl
        · exact Or.inl ⟨by omega, hnew⟩
        · exact Or.inr ⟨by omega, hnew⟩
    · intro hold
      exact hold.trans (List.prefix_append _ _)
  rw [hsig _ (by decide) (Or.inl rfl), hsig _ (by decide) (Or.inr rfl)]

/-! ## Length prefixed messages -/

/-- What `drain` makes of the front of a buffer that holds property lists. -/
def plistNext (b : Bytes) : Verdict Bytes StreamEncoding :=
  if b.length < 4 then .more
  else if looksLikeTLS b then .halt .tls
  else
    let size := readBigEndian32 b
    if size = 0 ∨ maxPlistMessage < size then .halt .raw
    else if b.length - 4 < size.toNat then .more
    else .frame ((b.drop 4).take size.toNat) (4 + size.toNat)

theorem plistNext_frame {b m : Bytes} {n : Nat} (h : plistNext b = .frame m n) :
    4 ≤ b.length ∧ looksLikeTLS b = false ∧ readBigEndian32 b ≠ 0 ∧
      ¬ maxPlistMessage < readBigEndian32 b ∧ n ≤ b.length ∧
      n = 4 + (readBigEndian32 b).toNat ∧ m = (b.drop 4).take (readBigEndian32 b).toNat := by
  simp only [plistNext] at h
  split at h
  · cases h
  split at h
  · cases h
  split at h
  · cases h
  split at h
  · cases h
  rename_i hlen htls hbad havail
  obtain ⟨rfl, rfl⟩ := Verdict.frame.inj h
  rw [not_or] at hbad
  exact ⟨by omega, by simpa using htls, hbad.1, hbad.2, by omega, rfl, rfl⟩

theorem plistNext_append {b : Bytes} (h : plistNext b ≠ .more) (c : Bytes) :
    plistNext (b ++ c) = plistNext b := by
  have hlen : 4 ≤ b.length := by
    by_contra hlt
    exact h (if_pos (by omega))
  have hlen' : (b ++ c).length = b.length + c.length := List.length_append
  have hdrop : (b ++ c).drop 4 = b.drop 4 ++ c := List.drop_append_of_le_length hlen
  have hnlt : ¬ b.length < 4 := by omega
  have hnlt' : ¬ (b ++ c).length < 4 := by omega
  simp only [plistNext, hnlt, hnlt', if_false, looksLikeTLS_append (show 3 ≤ b.length by omega),
    readBigEndian32_append hlen] at h ⊢
  split
  · rfl
  split
  · rfl
  rename_i htls hbad
  simp only [htls, hbad, if_false] at h
  have havail : ¬ b.length - 4 < (readBigEndian32 b).toNat := fun hlt => h (if_pos hlt)
  have htake : (readBigEndian32 b).toNat ≤ (b.drop 4).length := by
    rw [List.length_drop]
    omega
  rw [if_neg havail, if_neg (by omega), hdrop, List.take_append_of_le_length htake]

/-- The framer of a property list direction. It halts when the direction turns out to
carry TLS records or something that is no message. -/
def plistFramer : Framer UInt8 Bytes StreamEncoding where
  next := plistNext
  used_pos hnext := by
    have := (plistNext_frame hnext).2.2.2.2.2.1
    omega
  used_le hnext := (plistNext_frame hnext).2.2.2.2.1
  stable := plistNext_append

/-- A message as it is recorded for a direction. -/
def message {π : Type} [Libplist π] (outbound : Bool) (payload : Bytes) : MuxMessage π :=
  ⟨outbound, UInt32.ofNat payload.length, decodePlist payload payload.length⟩

section Drain

variable {π : Type} [Libplist π]

theorem decodePlist_take (payload : Bytes) (size : Nat) :
    (decodePlist (payload.take size) size : Option π) = decodePlist payload size := by
  have hsig : startsWith (payload.take size) size binaryPlistPrefix =
      startsWith payload size binaryPlistPrefix := by
    by_cases hle : binaryPlistPrefix.length ≤ size
    · simp only [startsWith, List.take_take, Nat.min_eq_left hle]
    · simp only [startsWith, hle, decide_false, Bool.false_and]
  have htake : (payload.take size).take size = payload.take size := by
    rw [List.take_take, Nat.min_self]
  simp only [decodePlist, hsig, htake]

/-- On a property list direction the loop takes the messages `plistFramer` takes. -/
theorem drain_plist (direction : Direction) (hplist : direction.encoding = .plist)
    (messages : List (MuxMessage π)) :
    drain direction messages =
      ({ direction with
          encoding := (plistFramer.run direction.buffer).halted.getD .plist
          buffer := (plistFramer.run direction.buffer).rest },
        messages ++ (plistFramer.run direction.buffer).frames.map (message direction.outbound)) := by
  obtain ⟨outbound, encoding, bytes, buffer⟩ := direction
  dsimp only at hplist
  subst hplist
  induction buffer using Framer.run_induction (F := plistFramer) generalizing messages with
  | more b hb =>
    rw [Framer.run_of_more hb, drain]
    simp only [plistFramer, plistNext] at hb
    split at hb
    · rename_i hlen
      simp [hlen]
    split at hb
    · cases hb
    split at hb
    · cases hb
    split at hb
    · rename_i hlen htls hbad havail
      simp [hlen, htls, hbad, havail]
    · cases hb
  | halt b e hb =>
    rw [Framer.run_of_halt hb, drain]
    simp only [plistFramer, plistNext] at hb
    split at hb
    · cases hb
    split at hb
    · rename_i hlen htls
      obtain rfl := Verdict.halt.inj hb
      simp [hlen, htls]
    split at hb
    · rename_i hlen htls hbad
      obtain rfl := Verdict.halt.inj hb
      simp [hlen, htls, hbad]
    split at hb <;> cases hb
  | frame b m n hb ih =>
    obtain ⟨hlen, htls, hzero, hmax, hn, rfl, rfl⟩ := plistNext_frame hb
    have hbad : ¬ (readBigEndian32 b = 0 ∨ maxPlistMessage < readBigEndian32 b) := by
      rw [not_or]
      exact ⟨hzero, hmax⟩
    have htake : (readBigEndian32 b).toNat ≤ (b.drop 4).length := by
      rw [List.length_drop]
      omega
    have hm : message outbound ((b.drop 4).take (readBigEndian32 b).toNat) =
        (⟨outbound, readBigEndian32 b, decodePlist (b.drop 4) (readBigEndian32 b).toNat⟩ :
          MuxMessage π) := by
      rw [message, List.length_take, Nat.min_eq_left htake, decodePlist_take,
        UInt32.ofNat_toNat]
    rw [Framer.run_of_frame hb, drain]
    simp only [show ¬ b.length < 4 by omega, htls, hbad,
      show ¬ b.length - 4 < (readBigEndian32 b).toNat by omega, if_false, Bool.false_eq_true,
      reduceCtorEq, false_and]
    rw [ih, List.map_cons, hm, List.append_assoc]
    rfl

/-- On a fresh direction the loop starts with the decision about the framing. -/
theorem drain_unknown (direction : Direction) (hunknown : direction.encoding = .unknown)
    (messages : List (MuxMessage π)) :
    drain direction messages =
      match framing direction.buffer with
      | .unknown => (direction, messages)
      | .plist => drain { direction with encoding := .plist } messages
      | encoding => ({ direction with encoding := encoding, buffer := [] }, messages) := by
  obtain ⟨outbound, encoding, bytes, b⟩ := direction
  dsimp only at hunknown ⊢
  subst hunknown
  by_cases hlen : b.length < 4
  · rw [drain]
    simp [framing, hlen]
  by_cases htls : looksLikeTLS b = true
  · rw [drain]
    simp [framing, hlen, htls]
  by_cases hbad : readBigEndian32 b = 0 ∨ maxPlistMessage < readBigEndian32 b
  · rw [drain]
    simp [framing, hlen, htls, hbad]
  rw [framing_of_length (by omega) htls hbad, drain]
  by_cases havail : b.length - 4 < min (readBigEndian32 b).toNat binaryPlistPrefix.length
  · simp only [hlen, htls, hbad, havail, if_true, if_false, and_self, Bool.false_eq_true]
  by_cases hsig : (startsWith (b.drop 4) (b.length - 4) xmlPlistPrefix ||
      startsWith (b.drop 4) (b.length - 4) binaryPlistPrefix) = false
  · simp only [hlen, htls, hbad, havail, hsig, if_true, if_false, and_self, and_false,
      Bool.false_eq_true]
  · rw [if_neg havail, if_neg hsig, drain]
    simp only [hlen, htls, hbad, havail, hsig, if_false, and_false, if_true, reduceCtorEq,
      Bool.false_eq_true, Bool.true_eq_false]

end Drain

end DemuxUsb.MuxStream
