import DemuxUsb.File.PacketBounds
import DemuxUsb.Protocol.MuxVersions

/-!
# Bounds of the reassembly

`feed` with the offsets and lengths that the source computes: the header fields are read
inside the buffer, a payload is a slice of the packet at the front of it, the data of a TCP
segment is a slice of that payload, and every difference is one of unsigned numbers.

* `feedChecked_eq`: whatever the bytes are, `feed` has no fault and ends.
* `reassembly_in_bounds`: so has no run of transfers on both directions, and between
  transfers a buffer holds less than a header, or a header and not all of its packet.
-/

namespace DemuxUsb

open Checked Endian Framing

/-! ## TCP segments -/

namespace StreamTable

variable {π : Type} [Libplist π]

/-- The rest of `processTCP`, for a segment with this header and data. -/
def processSegment (t : StreamTable π) (outbound : Bool) (tcpHeader : Tcphdr) (data : Bytes) :
    StreamTable π :=
  let flags := tcpHeader.flags &&& 0x3F
  let found :=
    if outbound then
      if flags &&& usbTcpFlagSyn ≠ 0 ∧ flags &&& usbTcpFlagAck = 0 then
        t.beginStream tcpHeader.source tcpHeader.dest
      else t.getStreamId tcpHeader.source tcpHeader.dest
    else t.getStreamId tcpHeader.dest tcpHeader.source
  let t := found.1.touch found.2
  match t.streams[found.2]?.join with
  | none => t
  | some stream =>
    let firstNew := stream.messages.length
    let fed :=
      if 0 < data.length then
        if outbound then stream.sendBytes data else stream.receiveBytes data
      else stream
    let t := if 0 < data.length then t.learnServices fed firstNew else t
    let closed := if flags &&& (usbTcpFlagRst ||| usbTcpFlagFin) ≠ 0 then fed.close else fed
    { t with streams := t.streams.insert found.2 (some closed) }

/-- `processTCP` -/
def processTCPChecked (t : StreamTable π) (outbound : Bool) (payload : Bytes) :
    Except Fault (StreamTable π) := do
  match ← readStructAt Tcphdr payload 0 payload.length with
  | none => .ok t
  | some tcpHeader =>
    let dataOffset := (tcpHeader.flags >>> 12).toNat * 4
    let dataOffset :=
      if dataOffset < Layout.size Tcphdr ∨ payload.length < dataOffset then Layout.size Tcphdr
      else dataOffset
    let dataLength ← sub payload.length dataOffset
    let data ← slice payload dataOffset dataLength
    .ok (t.processSegment outbound tcpHeader data)

/-- The data of a segment is inside its payload, whatever the data offset. -/
theorem processTCPChecked_eq (t : StreamTable π) (outbound : Bool) (payload : Bytes) :
    t.processTCPChecked outbound payload = .ok (t.processTCP outbound payload) := by
  unfold processTCPChecked processTCP
  rw [readStructAt_zero, ok_bind]
  cases htcp : readStruct Tcphdr payload with
  | none => rfl
  | some tcpHeader =>
    have hsize := size_le_of_readStruct htcp
    dsimp only
    generalize hoffset : (if (tcpHeader.flags >>> 12).toNat * 4 < Layout.size Tcphdr ∨
        payload.length < (tcpHeader.flags >>> 12).toNat * 4 then Layout.size Tcphdr
      else (tcpHeader.flags >>> 12).toNat * 4) = offset
    have hle : offset ≤ payload.length := by
      rw [← hoffset]
      split
      · exact hsize
      · omega
    have hdata : (payload.drop offset).take (payload.length - offset) = payload.drop offset :=
      List.take_of_length_le (Nat.le_of_eq List.length_drop)
    rw [sub_of_le hle, ok_bind, slice_of_le (by omega), ok_bind, hdata]
    rfl

end StreamTable

namespace USBMUXInterfaceExpert

/-! ## The loop -/

/-- The size of the header, once as much of the packet is there as a header takes. -/
def headerLengthChecked (b : Bytes) (length : Nat) : Except Fault Nat :=
  if muxHeaderSize ≤ length then do
    let magic ← slice b muxMagicOffset 4
    .ok (if readBigEndian32 magic = usbmuxMagicIn ∨ readBigEndian32 magic = usbmuxMagicOut then
      muxHeaderSize else muxHeaderV1Size)
  else .ok muxHeaderV1Size

theorem readBigEndian32_take (b : Bytes) : readBigEndian32 (b.take 4) = readBigEndian32 b := by
  unfold readBigEndian32 be32 field
  rw [List.drop_zero, List.drop_zero, List.take_take, Nat.min_self]

/-- The magic is looked at only where it is inside the buffer. -/
theorem headerLengthChecked_eq {b : Bytes}
    (h : ¬ b.length < min (readBigEndian32 (b.drop 4)).toNat muxHeaderSize) :
    headerLengthChecked b (readBigEndian32 (b.drop 4)).toNat = .ok (headerLength b) := by
  have hsixteen : muxHeaderSize = 16 := rfl
  have hmagic : muxMagicOffset = 8 := rfl
  unfold headerLengthChecked headerLength
  by_cases hlong : muxHeaderSize ≤ (readBigEndian32 (b.drop 4)).toNat
  · rw [if_pos hlong, slice_of_le (by omega), ok_bind, readBigEndian32_take]
    simp only [hlong, true_and]
  · rw [if_neg hlong, if_neg fun hand => hlong hand.1]

/-- A header is inside its packet. -/
theorem headerLength_le {b : Bytes} (h : muxHeaderV1Size ≤ (readBigEndian32 (b.drop 4)).toNat) :
    headerLength b ≤ (readBigEndian32 (b.drop 4)).toNat := by
  unfold headerLength
  split
  · rename_i hmagic
    exact hmagic.1
  · exact h

section Feed

variable {σ : Type}

/-- A round of the loop of `feed`: one more packet is taken, or the loop is left. The payload
is a slice of the packet, and not only of the buffer. -/
def feedRound (processPacket : σ → UInt32 → Bytes → Except Fault σ) (s : FeedState σ) :
    Except Fault (FeedState σ ⊕ FeedState σ) :=
  if s.buffer.length < muxHeaderV1Size then .ok (.inr s)
  else do
    let protocol := readBigEndian32 (← slice s.buffer 0 4)
    let length := readBigEndian32 (← slice s.buffer 4 4)
    if length.toNat < muxHeaderV1Size ∨ maxMuxPacket < length ∨ muxProtoTcp < protocol then
      .ok (.inr { s with buffer := [], resyncs := s.resyncs + 1 })
    else if s.buffer.length < min length.toNat muxHeaderSize then .ok (.inr s)
    else do
      let headerLength ← headerLengthChecked s.buffer length.toNat
      if s.buffer.length < length.toNat then .ok (.inr s)
      else do
        let packet ← slice s.buffer 0 length.toNat
        let payloadLength ← sub length.toNat headerLength
        let payload ← slice packet headerLength payloadLength
        let expert ← processPacket s.expert protocol payload
        .ok (.inl { s with expert := expert, buffer := s.buffer.drop length.toNat })

/-- **Step lemma** of the loop. A round has no fault: it ends the loop where `feedLoop` ends,
or takes the packet that `feedLoop` takes. -/
theorem feedRound_eq {checked : σ → UInt32 → Bytes → Except Fault σ}
    {processPacket : σ → UInt32 → Bytes → σ}
    (hchecked : ∀ s protocol payload,
      checked s protocol payload = .ok (processPacket s protocol payload)) (s : FeedState σ) :
    feedRound checked s = .ok (.inr (feedLoop processPacket s)) ∨
      ∃ s', feedRound checked s = .ok (.inl s') ∧ True ∧ s'.buffer.length < s.buffer.length ∧
        feedLoop processPacket s' = feedLoop processPacket s := by
  have height : muxHeaderV1Size = 8 := rfl
  rw [feedLoop.eq_def processPacket s]
  unfold feedRound
  by_cases hfew : s.buffer.length < muxHeaderV1Size
  · rw [if_pos hfew, if_pos hfew]
    exact Or.inl rfl
  rw [if_neg hfew, if_neg hfew, slice_of_le (by omega), slice_of_le (by omega)]
  simp only [ok_bind, List.drop_zero, readBigEndian32_take]
  by_cases hlost : (readBigEndian32 (s.buffer.drop 4)).toNat < muxHeaderV1Size ∨
      maxMuxPacket < readBigEndian32 (s.buffer.drop 4) ∨ muxProtoTcp < readBigEndian32 s.buffer
  · rw [if_pos hlost, if_pos hlost]
    exact Or.inl rfl
  rw [if_neg hlost, if_neg hlost]
  by_cases hpeek : s.buffer.length < min (readBigEndian32 (s.buffer.drop 4)).toNat muxHeaderSize
  · rw [if_pos hpeek, if_pos hpeek]
    exact Or.inl rfl
  rw [if_neg hpeek, if_neg hpeek, headerLengthChecked_eq hpeek, ok_bind]
  by_cases hlength : s.buffer.length < (readBigEndian32 (s.buffer.drop 4)).toNat
  · rw [if_pos hlength, if_pos hlength]
    exact Or.inl rfl
  rw [if_neg hlength, if_neg hlength]
  have hpacket := Nat.not_lt.mp (not_or.mp hlost).1
  have hheader := headerLength_le hpacket
  have htake : (s.buffer.take (readBigEndian32 (s.buffer.drop 4)).toNat).length =
      (readBigEndian32 (s.buffer.drop 4)).toNat := by
    rw [List.length_take]
    omega
  rw [slice_of_le (by omega), ok_bind, List.drop_zero, sub_of_le hheader, ok_bind,
    slice_of_le (by omega), ok_bind, List.drop_take, List.take_take, Nat.min_self, hchecked, ok_bind]
  refine Or.inr ⟨_, rfl, trivial, ?_, rfl⟩
  rw [List.length_drop]
  omega

/-- **Run lemma** of the loop. -/
theorem loop_feedRound {checked : σ → UInt32 → Bytes → Except Fault σ}
    {processPacket : σ → UInt32 → Bytes → σ}
    (hchecked : ∀ s protocol payload,
      checked s protocol payload = .ok (processPacket s protocol payload)) {rounds : Nat}
    {s : FeedState σ} (hrounds : s.buffer.length < rounds) :
    loop (feedRound checked) rounds s = .ok (feedLoop processPacket s) :=
  loop_eq (fun s _ => feedRound_eq hchecked s) trivial hrounds

end Feed

section Expert

variable {π : Type} [Libplist π]

/-- `processPacket` -/
def processPacketChecked (e : USBMUXInterfaceExpert π) (outbound : Bool) (protocol : UInt32)
    (payload : Bytes) : Except Fault (USBMUXInterfaceExpert π) :=
  if protocol = muxProtoVersion then
    if 4 ≤ payload.length then do
      let version ← slice payload 0 4
      .ok { e with version := readBigEndian32 version }
    else .ok e
  else if protocol = muxProtoTcp then do
    let table ← e.table.processTCPChecked outbound payload
    .ok { e with table := table }
  else .ok e

theorem processPacketChecked_eq (e : USBMUXInterfaceExpert π) (outbound : Bool)
    (protocol : UInt32) (payload : Bytes) :
    e.processPacketChecked outbound protocol payload =
      .ok (e.processPacket outbound protocol payload) := by
  unfold processPacketChecked processPacket
  split
  · by_cases hversion : 4 ≤ payload.length
    · rw [if_pos hversion, if_pos hversion, slice_of_le (by omega), ok_bind, List.drop_zero,
        readBigEndian32_take]
    · rw [if_neg hversion, if_neg hversion]
  · split
    · rw [StreamTable.processTCPChecked_eq, ok_bind]
    · rfl

/-- `feed`. The loop may have a round for every byte of the buffer. -/
def feedChecked (e : USBMUXInterfaceExpert π) (outbound : Bool) (data : Bytes) :
    Except Fault (USBMUXInterfaceExpert π) :=
  if data.length = 0 then .ok e
  else do
    let buffer := e.buffer outbound ++ data
    let s ← loop (feedRound fun e => e.processPacketChecked outbound) (buffer.length + 1)
      ⟨e, buffer, e.resyncs⟩
    .ok { s.expert.setBuffer outbound s.buffer with resyncs := s.resyncs }

/-- **Spec lemma** of `feed`. It has no fault and ends, whatever the bytes are. -/
theorem feedChecked_eq (e : USBMUXInterfaceExpert π) (outbound : Bool) (data : Bytes) :
    e.feedChecked outbound data = .ok (e.feed outbound data) := by
  unfold feedChecked feed feedInto
  by_cases hdata : data.length = 0
  · rw [if_pos hdata, if_pos hdata]
    dsimp only
    rw [setBuffer_buffer]
  · rw [if_neg hdata, if_neg hdata]
    have hloop := loop_feedRound (fun e : USBMUXInterfaceExpert π => e.processPacketChecked_eq outbound)
      (s := ⟨e, e.buffer outbound ++ data, e.resyncs⟩) (Nat.lt_succ_self _)
    dsimp only [Nat.succ_eq_add_one] at hloop ⊢
    rw [hloop, ok_bind]

/-- One transfer, with the side it is on. -/
def transfer (e : USBMUXInterfaceExpert π) (p : Bool × Bytes) : USBMUXInterfaceExpert π :=
  if p.1 then e.processBulkOut p.2 else e.processBulkIn p.2

def processBulkOutChecked (e : USBMUXInterfaceExpert π) (data : Bytes) :
    Except Fault (USBMUXInterfaceExpert π) :=
  feedChecked { e with toInterfaceExpert := e.toInterfaceExpert.processBulkOut data } true data

def processBulkInChecked (e : USBMUXInterfaceExpert π) (data : Bytes) :
    Except Fault (USBMUXInterfaceExpert π) :=
  feedChecked { e with toInterfaceExpert := e.toInterfaceExpert.processBulkIn data } false data

def transferChecked (e : USBMUXInterfaceExpert π) (p : Bool × Bytes) :
    Except Fault (USBMUXInterfaceExpert π) :=
  if p.1 then e.processBulkOutChecked p.2 else e.processBulkInChecked p.2

theorem transferChecked_eq (e : USBMUXInterfaceExpert π) (p : Bool × Bytes) :
    e.transferChecked p = .ok (e.transfer p) := by
  unfold transferChecked transfer
  split
  · exact feedChecked_eq _ true p.2
  · exact feedChecked_eq _ false p.2

end Expert

/-! ## What waits in a buffer -/

/-- The header of a packet that is not there in full. -/
structure Incomplete (b : Bytes) : Prop where
  header : muxHeaderV1Size ≤ b.length
  protocol : readBigEndian32 b ≤ muxProtoTcp
  least : muxHeaderV1Size ≤ (readBigEndian32 (b.drop 4)).toNat
  greatest : (readBigEndian32 (b.drop 4)).toNat ≤ maxMuxPacket.toNat
  missing : b.length < (readBigEndian32 (b.drop 4)).toNat

/-- What may be in a buffer between transfers. -/
def Waiting (b : Bytes) : Prop := b.length < muxHeaderV1Size ∨ Incomplete b

theorem Waiting.length_lt {b : Bytes} (h : Waiting b) : b.length < maxMuxPacket.toNat := by
  rcases h with hfew | hincomplete
  · exact Nat.lt_trans hfew (by decide)
  · exact Nat.lt_of_lt_of_le hincomplete.missing hincomplete.greatest

/-- The framer waits for more bytes. -/
theorem waiting_of_more {b : Bytes} (h : muxNext b = .more) : Waiting b := by
  unfold muxNext at h
  by_cases hfew : b.length < muxHeaderV1Size
  · exact Or.inl hfew
  rw [if_neg hfew] at h
  by_cases hlost : Lost b
  · rw [if_pos hlost] at h
    cases h
  rw [if_neg hlost] at h
  obtain ⟨hleast, hrest⟩ := not_or.mp hlost
  obtain ⟨hgreatest, hprotocol⟩ := not_or.mp hrest
  by_cases hmissing : b.length < (readBigEndian32 (b.drop 4)).toNat
  · exact Or.inr ⟨Nat.not_lt.mp hfew, UInt32.not_lt.mp hprotocol, Nat.not_lt.mp hleast,
      UInt32.le_iff_toNat_le.mp (UInt32.not_lt.mp hgreatest), hmissing⟩
  · rw [if_neg hmissing] at h
    cases h

/-- Every way out of the loop leaves bytes on which the framer waits. -/
theorem waiting_feedLoop {σ : Type} (processPacket : σ → UInt32 → Bytes → σ) (s : FeedState σ) :
    Waiting (feedLoop processPacket s).buffer := by
  rw [feedLoop_eq]
  exact waiting_of_more (Framer.next_rest (F := muxFramer) rfl s.buffer)

section Expert

variable {π : Type} [Libplist π]

theorem buffer_processPacket (e : USBMUXInterfaceExpert π) (outbound : Bool) (protocol : UInt32)
    (payload : Bytes) (side : Bool) :
    (e.processPacket outbound protocol payload).buffer side = e.buffer side := by
  unfold processPacket
  split
  · split
    · rfl
    · rfl
  · split
    · rfl
    · rfl

/-- **Step lemma.** A transfer leaves the other side as it is, and bytes that wait on its
own. -/
theorem waiting_feed {e : USBMUXInterfaceExpert π} (h : ∀ side, Waiting (e.buffer side))
    (outbound : Bool) (data : Bytes) (side : Bool) :
    Waiting ((e.feed outbound data).buffer side) := by
  have hother := feedInto_induction (motive := fun e' => ∀ side, e'.buffer side = e.buffer side)
    (fun e' protocol payload he' side =>
      (e'.buffer_processPacket outbound protocol payload side).trans (he' side))
    ⟨e, e.buffer outbound, e.resyncs⟩ data fun _ => rfl
  have hown : Waiting (feedInto (fun e => e.processPacket outbound)
      ⟨e, e.buffer outbound, e.resyncs⟩ data).buffer := by
    unfold feedInto
    split
    · exact h outbound
    · exact waiting_feedLoop _ _
  unfold feed
  by_cases hside : side = outbound
  · rw [hside]
    cases outbound with
    | true => exact hown
    | false => exact hown
  · have hkept := h side
    rw [← hother side] at hkept
    cases outbound with
    | true =>
      obtain rfl : side = false := by simpa using hside
      exact hkept
    | false =>
      obtain rfl : side = true := by simpa using hside
      exact hkept

/-- **Run lemma.** -/
theorem waiting_transfers {e : USBMUXInterfaceExpert π} (h : ∀ side, Waiting (e.buffer side))
    (transfers : List (Bool × Bytes)) (side : Bool) :
    Waiting ((transfers.foldl transfer e).buffer side) := by
  induction transfers generalizing e with
  | nil => exact h side
  | cons p transfers ih =>
    apply ih
    unfold transfer
    split
    · exact waiting_feed
        (e := { e with toInterfaceExpert := e.toInterfaceExpert.processBulkOut p.2 }) h true p.2
    · exact waiting_feed
        (e := { e with toInterfaceExpert := e.toInterfaceExpert.processBulkIn p.2 }) h false p.2

/-- **Bounds.** Whatever bytes arrive on the two directions of a new expert, in whatever
transfers, nothing is read outside the packet or the payload it belongs to, no difference
wraps around, every transfer ends, and between transfers each buffer waits for the rest of
a header or of a packet, with less than the largest packet in it. -/
theorem reassembly_in_bounds (configuration interface : UInt8) (transfers : List (Bool × Bytes)) :
    let e : USBMUXInterfaceExpert π := new configuration interface
    transfers.foldlM transferChecked e = .ok (transfers.foldl transfer e) ∧
      ∀ side, Waiting ((transfers.foldl transfer e).buffer side) ∧
        ((transfers.foldl transfer e).buffer side).length < 1024 * 1024 := by
  intro e
  have hempty : ∀ side, Waiting (e.buffer side) := by
    intro side
    rw [buffer_new]
    exact Or.inl (by decide)
  refine ⟨foldlM_eq transferChecked_eq transfers e, ?_⟩
  intro side
  have hwaiting := waiting_transfers hempty transfers side
  exact ⟨hwaiting, hwaiting.length_lt⟩

end Expert

end USBMUXInterfaceExpert

end DemuxUsb
