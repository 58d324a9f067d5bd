import DemuxUsb.Library.Framer
import DemuxUsb.Protocol.USBMUXInterfaceExpert

/-!
# Reassembly of usbmux packets

The loop of `feed` is a run of `muxFramer`, so a direction that was fed some transfers
holds what a run over their concatenation leaves (`foldl_feedLogged`).

* `feed_reassembles`: usbmux packets, cut into transfers in any way, are handed to
  `processPacket` one by one, and an incomplete packet behind them stays in the buffer.
-/

namespace DemuxUsb.USBMUXInterfaceExpert

open Endian Framing

/-! ## The front of a buffer -/

/-- The size of the header at the front of a buffer that holds a whole packet. -/
def headerLength (b : Bytes) : Nat :=
  if muxHeaderSize ≤ (readBigEndian32 (b.drop 4)).toNat ∧
      (readBigEndian32 (b.drop muxMagicOffset) = usbmuxMagicIn ∨
        readBigEndian32 (b.drop muxMagicOffset) = usbmuxMagicOut) then
    muxHeaderSize
  else muxHeaderV1Size

/-- Framing is lost: no packet begins like this. -/
def Lost (b : Bytes) : Prop :=
  (readBigEndian32 (b.drop 4)).toNat < muxHeaderV1Size ∨
    maxMuxPacket < readBigEndian32 (b.drop 4) ∨ muxProtoTcp < readBigEndian32 b

instance (b : Bytes) : Decidable (Lost b) := inferInstanceAs (Decidable (_ ∨ _ ∨ _))

/-- What `feed` makes of the front of a buffer. -/
def muxNext (b : Bytes) : Verdict (UInt32 × Bytes) Unit :=
  if b.length < muxHeaderV1Size then .more
  else if Lost b then .halt ()
  else if b.length < (readBigEndian32 (b.drop 4)).toNat then .more
  else
    .frame (readBigEndian32 b,
        (b.drop (headerLength b)).take ((readBigEndian32 (b.drop 4)).toNat - headerLength b))
      (readBigEndian32 (b.drop 4)).toNat

theorem muxNext_frame {b : Bytes} {f : UInt32 × Bytes} {n : Nat} (h : muxNext b = .frame f n) :
    muxHeaderV1Size ≤ b.length ∧ ¬ Lost b ∧ n ≤ b.length ∧
      n = (readBigEndian32 (b.drop 4)).toNat ∧
      f = (readBigEndian32 b, (b.drop (headerLength b)).take (n - headerLength b)) := by
  unfold muxNext at h
  split at h
  · cases h
  split at h
  · cases h
  split at h
  · cases h
  rename_i hlen hlost havail
  obtain ⟨rfl, rfl⟩ := Verdict.frame.inj h
  exact ⟨by omega, hlost, by omega, rfl, rfl⟩

theorem readBigEndian32_drop_append {b : Bytes} {k : Nat} (h : k + 4 ≤ b.length) (c : Bytes) :
    readBigEndian32 ((b ++ c).drop k) = readBigEndian32 (b.drop k) := by
  have hdrop : 0 + 4 ≤ (b.drop k).length := by
    rw [List.length_drop]
    omega
  unfold readBigEndian32
  rw [List.drop_append_of_le_length (by omega), be32_append_left c hdrop]

theorem muxNext_append {b : Bytes} (h : muxNext b ≠ .more) (c : Bytes) :
    muxNext (b ++ c) = muxNext b := by
  have hlen : muxHeaderV1Size ≤ b.length := by
    by_contra hlt
    exact h (if_pos (by omega))
  have height : muxHeaderV1Size = 8 := rfl
  have hlen' : (b ++ c).length = b.length + c.length := List.length_append
  have hprotocol : readBigEndian32 (b ++ c) = readBigEndian32 b :=
    readBigEndian32_drop_append (b := b) (k := 0) (by omega) c
  have hlength := readBigEndian32_drop_append (b := b) (k := 4) (by omega) c
  have hlost : Lost (b ++ c) ↔ Lost b := by
    unfold Lost
    rw [hprotocol, hlength]
  unfold muxNext at h ⊢
  rw [if_neg (show ¬ b.length < muxHeaderV1Size by omega)] at h ⊢
  rw [if_neg (show ¬ (b ++ c).length < muxHeaderV1Size by omega), hprotocol, hlength]
  by_cases hbad : Lost b
  · rw [if_pos hbad, if_pos (hlost.mpr hbad)]
  rw [if_neg hbad] at h ⊢
  rw [if_neg (mt hlost.mp hbad)]
  have havail : ¬ b.length < (readBigEndian32 (b.drop 4)).toNat := fun hlt => h (if_pos hlt)
  -- the magic is looked at only where it is inside the packet
  have hheader : headerLength (b ++ c) = headerLength b := by
    unfold headerLength
    rw [hlength]
    by_cases hlong : muxHeaderSize ≤ (readBigEndian32 (b.drop 4)).toNat
    · have hsixteen : muxHeaderSize = 16 := rfl
      have hmagic := readBigEndian32_drop_append (k := muxMagicOffset)
        (show muxMagicOffset + 4 ≤ b.length by unfold muxMagicOffset; omega) c
      rw [hmagic]
    · rw [if_neg (fun hand => hlong hand.1), if_neg (fun hand => hlong hand.1)]
  have hle : headerLength b ≤ (readBigEndian32 (b.drop 4)).toNat := by
    unfold Lost at hbad
    unfold headerLength
    split
    · rename_i hand
      exact hand.1
    · omega
  have htake : (readBigEndian32 (b.drop 4)).toNat - headerLength b ≤
      (b.drop (headerLength b)).length := by
    rw [List.length_drop]
    omega
  rw [if_neg havail, if_neg (by omega), hheader, List.drop_append_of_le_length (by omega),
    List.take_append_of_le_length htake]

/-- The framer of a usbmux direction. It halts when framing is lost. -/
def muxFramer : Framer UInt8 (UInt32 × Bytes) Unit where
  next := muxNext
  used_pos hnext := by
    obtain ⟨-, hlost, -, rfl, -⟩ := muxNext_frame hnext
    unfold Lost at hlost
    have height : muxHeaderV1Size = 8 := rfl
    omega
  used_le hnext := (muxNext_frame hnext).2.2.1
  stable := muxNext_append

/-! ## The loop -/

section Feed

variable {σ : Type} (processPacket : σ → UInt32 → Bytes → σ)

/-- Hand on packets one after the other. -/
def handOn (s : σ) (packets : List (UInt32 × Bytes)) : σ :=
  packets.foldl (fun s packet => processPacket s packet.1 packet.2) s

theorem handOn_cons (s : σ) (packet : UInt32 × Bytes) (packets : List (UInt32 × Bytes)) :
    handOn processPacket s (packet :: packets) =
      handOn processPacket (processPacket s packet.1 packet.2) packets := rfl

theorem feedLoop_eq (s : FeedState σ) :
    feedLoop processPacket s =
      ⟨handOn processPacket s.expert (muxFramer.run s.buffer).frames,
        (muxFramer.run s.buffer).rest,
        if (muxFramer.run s.buffer).halted = none then s.resyncs else s.resyncs + 1⟩ := by
  obtain ⟨expert, b, resyncs⟩ := s
  induction b using Framer.run_induction (F := muxFramer) generalizing expert with
  | more b hb =>
    rw [Framer.run_of_more hb, feedLoop]
    simp only [muxFramer, muxNext] at hb
    split at hb
    · rename_i hlen
      rw [if_pos hlen]
      rfl
    split at hb
    · cases hb
    split at hb
    · rename_i hlen hlost havail
      unfold Lost at hlost
      simp only [hlen, hlost, havail, if_false, if_true]
      split <;> rfl
    · cases hb
  | halt b e hb =>
    rw [Framer.run_of_halt hb, feedLoop]
    simp only [muxFramer, muxNext] at hb
    split at hb
    · cases hb
    split at hb
    · rename_i hlen hlost
      unfold Lost at hlost
      simp only [hlen, hlost, if_false, if_true]
      rfl
    split at hb <;> cases hb
  | frame b f n hb ih =>
    obtain ⟨hlen, hlost, hn, rfl, rfl⟩ := muxNext_frame hb
    unfold Lost at hlost
    rw [Framer.run_of_frame hb, feedLoop]
    have hpeek : ¬ b.length < min (readBigEndian32 (b.drop 4)).toNat muxHeaderSize := by omega
    have hnlt : ¬ b.length < muxHeaderV1Size := by omega
    have havail : ¬ b.length < (readBigEndian32 (b.drop 4)).toNat := by omega
    simp only [hnlt, hlost, hpeek, havail, if_false]
    rw [ih]
    rfl

/-- What a direction that was fed `b` stands at. -/
def stateAfter (s : σ) (resyncs : UInt64) (b : Bytes) : FeedState σ :=
  ⟨handOn processPacket s (muxFramer.run b).frames, (muxFramer.run b).rest, resyncs⟩

/-- **Step lemma.** One more transfer, while framing is not lost. -/
theorem feedInto_stateAfter (s : σ) (resyncs : UInt64) {b data : Bytes}
    (hkept : (muxFramer.run (b ++ data)).halted = none) :
    feedInto processPacket (stateAfter processPacket s resyncs b) data =
      stateAfter processPacket s resyncs (b ++ data) := by
  unfold feedInto
  by_cases hdata : data.length = 0
  · rw [if_pos hdata, List.length_eq_zero_iff.mp hdata, List.append_nil]
  have hrun := Framer.run_append (Framer.halted_of_append hkept) data
  have hrest : (muxFramer.run ((muxFramer.run b).rest ++ data)).halted = none := by
    rwa [hrun] at hkept
  rw [if_neg hdata, feedLoop_eq]
  simp only [stateAfter, hrun, hrest, handOn, List.foldl_append, if_true]

end Feed

/-! ## Packets -/

inductive MuxHeader where
  | v1
  /-- `outbound` says which of the two magics the header carries. -/
  | v2 (outbound : Bool) (txSeq rxSeq : UInt16)
  deriving DecidableEq

def MuxHeader.size : MuxHeader → Nat
  | .v1 => muxHeaderV1Size
  | .v2 .. => muxHeaderSize

/-- The header behind its protocol and length. -/
def MuxHeader.tail : MuxHeader → Bytes
  | .v1 => []
  | .v2 outbound txSeq rxSeq =>
    be32Bytes (if outbound then usbmuxMagicOut else usbmuxMagicIn) ++
      (be16Bytes txSeq ++ be16Bytes rxSeq)

/-- A usbmux packet. The payload behind a v1 header does not look like the rest of a v2
header. -/
structure MuxPacket where
  header : MuxHeader
  protocol : UInt32
  payload : Bytes
  protocol_le : protocol ≤ muxProtoTcp
  length_le : header.size + payload.length ≤ maxMuxPacket.toNat
  unambiguous : header = .v1 → payload.length < 8 ∨
    readBigEndian32 payload ≠ usbmuxMagicIn ∧ readBigEndian32 payload ≠ usbmuxMagicOut

namespace MuxPacket

/-- `muxPacket` -/
def encode (p : MuxPacket) : Bytes :=
  be32Bytes p.protocol ++ (be32Bytes (UInt32.ofNat (p.header.size + p.payload.length)) ++
    (p.header.tail ++ p.payload))

theorem length_encode (p : MuxPacket) :
    p.encode.length = p.header.size + p.payload.length := by
  unfold encode
  cases hheader : p.header <;>
    simp [MuxHeader.size, MuxHeader.tail, muxHeaderV1Size, muxHeaderSize] <;> omega

theorem readBigEndian32_encode (p : MuxPacket) : readBigEndian32 p.encode = p.protocol :=
  be32_be32Bytes_append _ _

theorem drop_four_encode (p : MuxPacket) :
    p.encode.drop 4 = be32Bytes (UInt32.ofNat (p.header.size + p.payload.length)) ++
      (p.header.tail ++ p.payload) :=
  List.drop_left' (length_be32Bytes _)

theorem drop_eight_encode (p : MuxPacket) : p.encode.drop 8 = p.header.tail ++ p.payload := by
  rw [show 8 = 4 + 4 from rfl, ← List.drop_drop, drop_four_encode]
  exact List.drop_left' (length_be32Bytes _)

theorem toNat_length (p : MuxPacket) :
    (readBigEndian32 (p.encode.drop 4)).toNat = p.header.size + p.payload.length := by
  have hle := p.length_le
  have hmax : maxMuxPacket.toNat = 2 ^ 20 := rfl
  have hread : readBigEndian32 (p.encode.drop 4) =
      UInt32.ofNat (p.header.size + p.payload.length) := by
    rw [drop_four_encode]
    exact be32_be32Bytes_append _ _
  rw [hread, UInt32.toNat_ofNat']
  omega

theorem headerLength_encode (p : MuxPacket) : headerLength p.encode = p.header.size := by
  unfold headerLength
  rw [toNat_length, show muxMagicOffset = 8 from rfl, drop_eight_encode]
  cases hheader : p.header with
  | v1 =>
    have hsize : MuxHeader.size .v1 = 8 := rfl
    have hsixteen : muxHeaderSize = 16 := rfl
    apply if_neg
    rintro ⟨hlong, hmagic⟩
    rcases p.unambiguous hheader with hshort | hneither
    · omega
    · exact hmagic.elim hneither.1 hneither.2
  | v2 outbound txSeq rxSeq =>
    refine if_pos ⟨Nat.le_add_right _ _, ?_⟩
    have hread : readBigEndian32 ((MuxHeader.v2 outbound txSeq rxSeq).tail ++ p.payload) =
        if outbound then usbmuxMagicOut else usbmuxMagicIn := by
      unfold MuxHeader.tail readBigEndian32
      rw [List.append_assoc, be32_be32Bytes_append]
    rw [hread]
    cases outbound
    · exact Or.inl rfl
    · exact Or.inr rfl

theorem drop_header_encode (p : MuxPacket) : p.encode.drop p.header.size = p.payload := by
  have htail : p.header.size = 8 + p.header.tail.length := by
    cases p.header <;> simp [MuxHeader.size, MuxHeader.tail, muxHeaderV1Size, muxHeaderSize]
  rw [htail, ← List.drop_drop, drop_eight_encode, List.drop_left]

/-- A whole packet is taken as it is. -/
theorem muxNext_encode (p : MuxPacket) :
    muxNext p.encode = .frame (p.protocol, p.payload) p.encode.length := by
  have hlen := p.length_encode
  have hsize : muxHeaderV1Size ≤ p.header.size := by
    cases p.header <;> simp [MuxHeader.size, muxHeaderV1Size, muxHeaderSize]
  have hlost : ¬ Lost p.encode := by
    unfold Lost
    rw [readBigEndian32_encode, toNat_length, not_or, not_or, UInt32.lt_iff_toNat_lt,
      toNat_length, UInt32.not_lt]
    exact ⟨by omega, Nat.not_lt.mpr p.length_le, p.protocol_le⟩
  unfold muxNext
  rw [if_neg (by omega), if_neg hlost, toNat_length, if_neg (by omega), headerLength_encode,
    readBigEndian32_encode, drop_header_encode, hlen, Nat.add_sub_cancel_left, List.take_length]

end MuxPacket

/-! ## Any segmentation -/

/-- The start of a packet that is not there in full. -/
def IsCut (tail : Bytes) (p : MuxPacket) : Prop := tail <+: p.encode ∧ tail ≠ p.encode

theorem muxNext_of_isCut {tail : Bytes} {p : MuxPacket} (h : IsCut tail p) :
    muxFramer.next tail = .more := by
  obtain ⟨⟨rest, hrest⟩, hne⟩ := h
  refine Framer.next_of_properPrefix (c := rest) (f := (p.protocol, p.payload)) ?_ ?_
  · rw [hrest]
    exact p.muxNext_encode
  · rintro rfl
    exact hne (by rw [← hrest, List.append_nil])

theorem run_packets (packets : List MuxPacket) {tail : Bytes} {last : MuxPacket}
    (htail : IsCut tail last) :
    muxFramer.run (packets.flatMap MuxPacket.encode ++ tail) =
      ⟨packets.map (fun p => (p.protocol, p.payload)), tail, none⟩ :=
  Framer.run_flatMap packets (fun p _ => p.muxNext_encode) (muxNext_of_isCut htail)

section Expert

variable {π : Type} [Libplist π]

/-- `processPacket` with a log of its calls. -/
def processLogged (outbound : Bool) (s : USBMUXInterfaceExpert π × List (UInt32 × Bytes))
    (protocol : UInt32) (payload : Bytes) : USBMUXInterfaceExpert π × List (UInt32 × Bytes) :=
  (s.1.processPacket outbound protocol payload, s.2 ++ [(protocol, payload)])

/-- `feed` with a log of the calls of `processPacket`. -/
def feedLogged (outbound : Bool) (s : USBMUXInterfaceExpert π × List (UInt32 × Bytes))
    (data : Bytes) : USBMUXInterfaceExpert π × List (UInt32 × Bytes) :=
  let r := feedInto (processLogged outbound) ⟨s, s.1.buffer outbound, s.1.resyncs⟩ data
  ({ r.expert.1.setBuffer outbound r.buffer with resyncs := r.resyncs }, r.expert.2)

theorem handOn_processLogged (outbound : Bool) (e : USBMUXInterfaceExpert π)
    (log packets : List (UInt32 × Bytes)) :
    handOn (processLogged outbound) (e, log) packets =
      (handOn (fun e => e.processPacket outbound) e packets, log ++ packets) := by
  induction packets generalizing e log with
  | nil => rw [List.append_nil]; rfl
  | cons packet packets ih =>
    rw [handOn_cons, handOn_cons, processLogged, ih, List.append_assoc]
    rfl

/-- The log is only a log. -/
theorem feedLogged_fst (outbound : Bool) (s : USBMUXInterfaceExpert π × List (UInt32 × Bytes))
    (data : Bytes) : (feedLogged outbound s data).1 = s.1.feed outbound data := by
  obtain ⟨e, log⟩ := s
  unfold feedLogged feed feedInto
  by_cases hdata : data.length = 0
  · simp only [if_pos hdata]
  · simp only [if_neg hdata, feedLoop_eq, handOn_processLogged]

theorem foldl_feedLogged_fst (outbound : Bool) (transfers : List Bytes)
    (s : USBMUXInterfaceExpert π × List (UInt32 × Bytes)) :
    (transfers.foldl (feedLogged outbound) s).1 =
      transfers.foldl (fun e data => e.feed outbound data) s.1 := by
  induction transfers generalizing s with
  | nil => rfl
  | cons data transfers ih => rw [List.foldl_cons, List.foldl_cons, ih, feedLogged_fst]

/-- `processPacket` has nothing to do with the buffers. -/
theorem processPacket_setBuffer (e : USBMUXInterfaceExpert π) (side outbound : Bool) (b : Bytes)
    (protocol : UInt32) (payload : Bytes) :
    (e.setBuffer side b).processPacket outbound protocol payload =
      (e.processPacket outbound protocol payload).setBuffer side b := by
  unfold processPacket
  cases side <;>
    · split
      · split <;> rfl
      · split <;> rfl

@[simp] theorem resyncs_processPacket (e : USBMUXInterfaceExpert π) (outbound : Bool)
    (protocol : UInt32) (payload : Bytes) :
    (e.processPacket outbound protocol payload).resyncs = e.resyncs := by
  unfold processPacket
  split
  · split <;> rfl
  · split <;> rfl

theorem handOn_setBuffer (e : USBMUXInterfaceExpert π) (outbound : Bool) (b : Bytes)
    (packets : List (UInt32 × Bytes)) :
    handOn (fun e => e.processPacket outbound) (e.setBuffer outbound b) packets =
      (handOn (fun e => e.processPacket outbound) e packets).setBuffer outbound b := by
  induction packets generalizing e with
  | nil => rfl
  | cons packet packets ih =>
    rw [handOn_cons, handOn_cons, processPacket_setBuffer, ih]

theorem resyncs_handOn (e : USBMUXInterfaceExpert π) (outbound : Bool)
    (packets : List (UInt32 × Bytes)) :
    (handOn (fun e => e.processPacket outbound) e packets).resyncs = e.resyncs := by
  induction packets generalizing e with
  | nil => rfl
  | cons packet packets ih =>
    rw [handOn_cons, ih, resyncs_processPacket]

/-- An expert whose direction was fed `b`, and its log. -/
def expertAfter (e : USBMUXInterfaceExpert π) (outbound : Bool) (b : Bytes) :
    USBMUXInterfaceExpert π × List (UInt32 × Bytes) :=
  ((handOn (fun e => e.processPacket outbound) e (muxFramer.run b).frames).setBuffer outbound
    (muxFramer.run b).rest, (muxFramer.run b).frames)

theorem expertAfter_nil (e : USBMUXInterfaceExpert π) {outbound : Bool}
    (hempty : e.buffer outbound = []) : expertAfter e outbound [] = (e, []) := by
  have hnil : muxFramer.run [] = ⟨[], [], none⟩ := Framer.run_of_more rfl
  unfold expertAfter
  rw [hnil, ← hempty]
  exact Prod.ext (setBuffer_buffer e outbound) rfl

theorem feedLogged_expertAfter (e : USBMUXInterfaceExpert π) (outbound : Bool) {b data : Bytes}
    (hkept : (muxFramer.run (b ++ data)).halted = none) :
    feedLogged outbound (expertAfter e outbound b) data = expertAfter e outbound (b ++ data) := by
  have hstep := feedInto_stateAfter (processLogged outbound)
    (e.setBuffer outbound (muxFramer.run b).rest, []) e.resyncs hkept
  simp only [stateAfter, handOn_processLogged, handOn_setBuffer, List.nil_append] at hstep
  unfold feedLogged expertAfter
  simp only [buffer_setBuffer, resyncs_setBuffer, resyncs_handOn, hstep, setBuffer_setBuffer]
  refine Prod.ext ?_ rfl
  cases outbound <;> simp [setBuffer, resyncs_handOn]

/-- **Run lemma.** Any transfers, while framing is not lost. -/
theorem foldl_feedLogged (e : USBMUXInterfaceExpert π) (outbound : Bool) (b : Bytes)
    (transfers : List Bytes) (hkept : (muxFramer.run (b ++ transfers.flatten)).halted = none) :
    transfers.foldl (feedLogged outbound) (expertAfter e outbound b) =
      expertAfter e outbound (b ++ transfers.flatten) := by
  induction transfers generalizing b with
  | nil => rw [List.foldl_nil, List.flatten_nil, List.append_nil]
  | cons data transfers ih =>
    rw [List.flatten_cons, ← List.append_assoc] at hkept ⊢
    rw [List.foldl_cons, feedLogged_expertAfter _ _ (Framer.halted_of_append hkept), ih _ hkept]

/-- A packet fed whole to a direction with an empty buffer. -/
theorem feed_encode (e : USBMUXInterfaceExpert π) {outbound : Bool}
    (hempty : e.buffer outbound = []) (p : MuxPacket) :
    e.feed outbound p.encode = e.processPacket outbound p.protocol p.payload := by
  have hnil : muxFramer.run [] = ⟨[], [], none⟩ := Framer.run_of_more rfl
  have hrun : muxFramer.run p.encode = ⟨[(p.protocol, p.payload)], [], none⟩ := by
    rw [Framer.run_of_frame p.muxNext_encode, List.drop_length, hnil]
  have hstart := expertAfter_nil e hempty
  have hkept : (muxFramer.run ([] ++ p.encode)).halted = none := by rw [List.nil_append, hrun]
  have hfed := feedLogged_expertAfter e outbound hkept
  rw [hstart, List.nil_append] at hfed
  have hfst := feedLogged_fst outbound (e, []) p.encode
  rw [hfed, expertAfter, hrun] at hfst
  rw [← hfst, ← hempty]
  show (e.processPacket outbound p.protocol p.payload).setBuffer outbound (e.buffer outbound) = _
  rw [← processPacket_setBuffer, setBuffer_buffer]

/-- **Reassembly.** Usbmux packets and the start of one more, cut into transfers in any
way and fed to a direction with an empty buffer: each packet is handed on once, in order,
with its protocol and payload; what is left is the start of the last one, and framing is
never lost. -/
theorem feed_reassembles (e : USBMUXInterfaceExpert π) (outbound : Bool)
    (hempty : e.buffer outbound = []) (packets : List MuxPacket) (last : MuxPacket)
    (tail : Bytes) (htail : IsCut tail last) (transfers : List Bytes)
    (hcut : transfers.flatten = packets.flatMap MuxPacket.encode ++ tail) :
    let e' := transfers.foldl (fun e data => e.feed outbound data) e
    transfers.foldl (feedLogged outbound) (e, []) =
        (e', packets.map (fun p => (p.protocol, p.payload))) ∧
      e' = (packets.foldl (fun e p => e.processPacket outbound p.protocol p.payload) e).setBuffer
        outbound tail ∧
      e'.buffer outbound = tail ∧ e'.resyncs = e.resyncs := by
  intro e'
  have hrun := run_packets packets htail
  rw [← hcut] at hrun
  have hstart := expertAfter_nil e hempty
  have hfold := foldl_feedLogged e outbound [] transfers (by rw [List.nil_append, hrun])
  rw [hstart, List.nil_append, expertAfter, hrun] at hfold
  have he' : e' = (handOn (fun e => e.processPacket outbound) e
      (packets.map (fun p => (p.protocol, p.payload)))).setBuffer outbound tail := by
    have hfst := foldl_feedLogged_fst outbound transfers (e, [])
    rw [hfold] at hfst
    exact hfst.symm
  refine ⟨?_, ?_, ?_, ?_⟩
  · rw [hfold, he']
  · rw [he', handOn, List.foldl_map]
  · rw [he', buffer_setBuffer]
  · rw [he', resyncs_setBuffer, resyncs_handOn]

/-- A version packet and a control packet, cut inside both headers, and twelve bytes of
a third packet. -/
theorem feed_reassembles_example :
    let e : USBMUXInterfaceExpert Empty := { configuration := 1, interface := 1 }
    let e' := [[0, 0, 0], [], [0, 0, 0, 0, 12, 0, 0, 0, 2, 0, 0, 0, 1, 0, 0],
      [0, 17, 0xFE, 0xED, 0xFA, 0xCE, 0, 1, 0, 2, 7, 0, 0, 0, 1, 0, 0, 0, 17],
      [0xFE, 0xED, 0xFA, 0xCE]].foldl (fun e data => e.feed true data) e
    e'.mOut = [0, 0, 0, 1, 0, 0, 0, 17, 0xFE, 0xED, 0xFA, 0xCE] ∧ e'.resyncs = 0 ∧
      e'.version = 2 := by
  intro e e'
  let version : MuxPacket :=
    ⟨.v1, 0, [0, 0, 0, 2], by decide, by decide, fun _ => Or.inl (by decide)⟩
  let control : MuxPacket :=
    ⟨.v2 true 1 2, 1, [7], by decide, by decide, fun h => MuxHeader.noConfusion h⟩
  have hcut : IsCut [0, 0, 0, 1, 0, 0, 0, 17, 0xFE, 0xED, 0xFA, 0xCE] control := by
    refine ⟨?_, ?_⟩ <;> decide
  have h := feed_reassembles e true rfl [version, control] control _ hcut
    [[0, 0, 0], [], [0, 0, 0, 0, 12, 0, 0, 0, 2, 0, 0, 0, 1, 0, 0],
      [0, 17, 0xFE, 0xED, 0xFA, 0xCE, 0, 1, 0, 2, 7, 0, 0, 0, 1, 0, 0, 0, 17],
      [0xFE, 0xED, 0xFA, 0xCE]] (by decide)
  obtain ⟨-, hfinal, hbuffer, hresyncs⟩ := h
  exact ⟨hbuffer, hresyncs, by rw [show e' = _ from hfinal]; decide⟩

end Expert

end DemuxUsb.USBMUXInterfaceExpert
