import DemuxUsb.Library.Isolation
import DemuxUsb.Library.Receiver
import DemuxUsb.Protocol.StreamTables

/-!
# Transfers in both directions

An expert keeps one buffer for each direction, and both directions write to the same tables.
A `Link` is what the transfers come to before any packet is looked into: a `Receiver` for each
side, and the packets of both sides in the order in which they become whole. `Carries` says
that an expert is what the packets of a link make of it, and every transfer keeps it so.

* `transfers_reassembled`: a new expert after any transfers, in terms of the episodes between
  lost framings;
* `recovers_from_lost_framing`: packets behind a transfer on which framing was lost are read
  as if nothing had been there before;
* `streams_of_transfers`: the streams of a new expert are those of the TCP segments that it
  was handed.
-/

namespace DemuxUsb.USBMUXInterfaceExpert

open Framing Receiver

/-- A packet with its direction, its protocol and its payload. -/
abbrev LinkPacket := Bool × UInt32 × Bytes

/-! ## The link -/

/-- The two directions of an interface, and what has come out of them. -/
structure Link where
  sides : Bool → Receiver UInt8 (UInt32 × Bytes) := fun _ => {}
  packets : List LinkPacket := []

namespace Link

/-- The packets that a transfer makes whole. -/
def completes (link : Link) (p : Bool × Bytes) : List (UInt32 × Bytes) :=
  (muxFramer.run ((link.sides p.1).buffer ++ p.2)).frames

def transfer (link : Link) (p : Bool × Bytes) : Link where
  sides side := if p.1 = side then (link.sides side).receive muxFramer p.2 else link.sides side
  packets := link.packets ++ (link.completes p).map (p.1, ·)

/-- The link after some transfers. -/
def run (transfers : List (Bool × Bytes)) : Link := transfers.foldl transfer {}

theorem run_append (before after : List (Bool × Bytes)) :
    run (before ++ after) = after.foldl transfer (run before) := List.foldl_append

/-- A transfer changes its own side only. -/
theorem confined_transfer :
    Isolation.Confined transfer sides (fun side p => p.1 == side)
      (fun _ r p => r.receive muxFramer p.2) where
  own link p side howns := if_pos (by simpa using howns)
  other link p side hother := if_neg (by simpa using hother)

/-- The halts of both sides. -/
def halts (link : Link) : Nat := (link.sides true).halts + (link.sides false).halts

theorem halts_transfer (link : Link) (side : Bool) (data : Bytes) :
    (link.transfer (side, data)).halts =
      if (muxFramer.run ((link.sides side).buffer ++ data)).halted = none then link.halts
      else link.halts + 1 := by
  have hreceive : ((link.sides side).receive muxFramer data).halts =
      if (muxFramer.run ((link.sides side).buffer ++ data)).halted = none then
        (link.sides side).halts
      else (link.sides side).halts + 1 := by
    unfold Receiver.receive
    dsimp only
    generalize (muxFramer.run ((link.sides side).buffer ++ data)).halted = halted
    cases halted with
    | none => rfl
    | some e => rfl
  cases side with
  | true =>
    show ((link.sides true).receive muxFramer data).halts + (link.sides false).halts = _
    rw [hreceive, halts]
    split <;> omega
  | false =>
    show (link.sides true).halts + ((link.sides false).receive muxFramer data).halts = _
    rw [hreceive, halts]
    split <;> omega

end Link

/-- What the transfers of one side carry. -/
def chunksOn (side : Bool) (transfers : List (Bool × Bytes)) : List Bytes :=
  (transfers.filter (·.1 == side)).map Prod.snd

/-- The packets of one side. -/
def packetsOn (side : Bool) (packets : List LinkPacket) : List (UInt32 × Bytes) :=
  (packets.filter (·.1 == side)).map Prod.snd

theorem packetsOn_append (side : Bool) (packets more : List LinkPacket) :
    packetsOn side (packets ++ more) = packetsOn side packets ++ packetsOn side more := by
  unfold packetsOn
  rw [List.filter_append, List.map_append]

/-- A side is what its own transfers make of it, whatever is between them. -/
theorem sides_run (transfers : List (Bool × Bytes)) (side : Bool) (link : Link) :
    (transfers.foldl Link.transfer link).sides side =
      (chunksOn side transfers).foldl (receive muxFramer) (link.sides side) := by
  rw [Link.confined_transfer.view_foldl, chunksOn, List.foldl_map]

theorem packetsOn_completes (side : Bool) (link : Link) (p : Bool × Bytes) :
    packetsOn side ((link.completes p).map (p.1, ·)) =
      if p.1 = side then link.completes p else [] := by
  unfold packetsOn
  by_cases hside : p.1 = side
  · rw [if_pos hside, List.filter_eq_self.mpr]
    · rw [List.map_map]
      exact List.map_id _
    · intro packet hpacket
      obtain ⟨frame, -, rfl⟩ := List.mem_map.mp hpacket
      simpa using hside
  · rw [if_neg hside, List.filter_eq_nil_iff.mpr]
    · rfl
    · intro packet hpacket
      obtain ⟨frame, -, rfl⟩ := List.mem_map.mp hpacket
      simpa using hside

/-- The packets of a side are those its receiver has taken. -/
theorem packetsOn_run (transfers : List (Bool × Bytes)) (side : Bool) {link : Link}
    (h : packetsOn side link.packets = (link.sides side).frames) :
    packetsOn side (transfers.foldl Link.transfer link).packets =
      ((transfers.foldl Link.transfer link).sides side).frames := by
  induction transfers generalizing link with
  | nil => exact h
  | cons p transfers ih =>
    apply ih
    show packetsOn side (link.packets ++ (link.completes p).map (p.1, ·)) = _
    rw [packetsOn_append, packetsOn_completes, h]
    unfold Link.transfer
    dsimp only
    split
    · next hside =>
      rw [← hside]
      rfl
    · rw [List.append_nil]

/-! ## The expert -/

/-- The version in a version packet. -/
def versionOf (packet : LinkPacket) : Option UInt32 :=
  if packet.2.1 = muxProtoVersion ∧ 4 ≤ packet.2.2.length then
    some (readBigEndian32 packet.2.2)
  else none

/-- The payload of a TCP packet, with its direction. -/
def tcpOf (packet : LinkPacket) : Option (Bool × Bytes) :=
  if packet.2.1 = muxProtoTcp then some (packet.1, packet.2.2) else none

/-- The version that was said last, or `version`. -/
def versionAfter (version : UInt32) (packets : List LinkPacket) : UInt32 :=
  (packets.filterMap versionOf).getLast?.getD version

theorem versionAfter_append (version : UInt32) (packets more : List LinkPacket) :
    versionAfter version (packets ++ more) = versionAfter (versionAfter version packets) more := by
  unfold versionAfter
  rw [List.filterMap_append, List.getLast?_append, Option.getD_or]

section Expert

variable {π : Type} [Libplist π]

def tableAfter (t : StreamTable π) (packets : List LinkPacket) : StreamTable π :=
  (packets.filterMap tcpOf).foldl (fun t p => t.processTCP p.1 p.2) t

theorem tableAfter_append (t : StreamTable π) (packets more : List LinkPacket) :
    tableAfter t (packets ++ more) = tableAfter (tableAfter t packets) more := by
  unfold tableAfter
  rw [List.filterMap_append, List.foldl_append]

/-- **Spec lemma** of `processPacket`. -/
theorem processPacket_eq (e : USBMUXInterfaceExpert π) (side : Bool) (protocol : UInt32)
    (payload : Bytes) :
    e.processPacket side protocol payload =
      { e with
        version := versionAfter e.version [(side, protocol, payload)]
        table := tableAfter e.table [(side, protocol, payload)] } := by
  have hprotocols : muxProtoVersion ≠ muxProtoTcp := by decide
  unfold processPacket versionAfter tableAfter versionOf tcpOf
  by_cases hversion : protocol = muxProtoVersion
  · by_cases hlength : 4 ≤ payload.length
    · simp [hversion, hlength, hprotocols]
    · simp [hversion, hlength, hprotocols]
  · by_cases htcp : protocol = muxProtoTcp
    · simp [hprotocols.symm, htcp]
    · simp [hversion, htcp]

/-- The packets of one side, handed on one by one. -/
theorem handOn_eq (e : USBMUXInterfaceExpert π) (side : Bool) (frames : List (UInt32 × Bytes)) :
    handOn (fun e => e.processPacket side) e frames =
      { e with
        version := versionAfter e.version (frames.map (side, ·))
        table := tableAfter e.table (frames.map (side, ·)) } := by
  induction frames generalizing e with
  | nil => rfl
  | cons frame frames ih =>
    have hversion := versionAfter_append e.version [(side, frame)] (frames.map (side, ·))
    have htable := tableAfter_append e.table [(side, frame)] (frames.map (side, ·))
    rw [List.singleton_append] at hversion htable
    rw [handOn_cons, ih, processPacket_eq, List.map_cons, hversion, htable]

/-- **Spec lemma** of `feed`, for a buffer that waits. -/
theorem feed_eq (e : USBMUXInterfaceExpert π) {side : Bool}
    (hwaits : muxFramer.next (e.buffer side) = .more) (data : Bytes) :
    let o := muxFramer.run (e.buffer side ++ data)
    e.feed side data =
      { setBuffer { e with
          version := versionAfter e.version (o.frames.map (side, ·))
          table := tableAfter e.table (o.frames.map (side, ·)) } side o.rest with
        resyncs := if o.halted = none then e.resyncs else e.resyncs + 1 } := by
  intro o
  unfold feed feedInto
  by_cases hdata : data.length = 0
  · have ho : o = ⟨[], e.buffer side, none⟩ := by
      show muxFramer.run (e.buffer side ++ data) = _
      rw [List.length_eq_zero_iff.mp hdata, List.append_nil, Framer.run_of_more hwaits]
    rw [if_pos hdata, ho]
    rfl
  · rw [if_neg hdata, feedLoop_eq, handOn_eq]

/-- The expert is what the packets of the link make of a new one. -/
structure Carries (e : USBMUXInterfaceExpert π) (link : Link) : Prop where
  buffer : ∀ side, e.buffer side = (link.sides side).buffer
  waits : ∀ side, muxFramer.next (link.sides side).buffer = .more
  resyncs : e.resyncs = UInt64.ofNat link.halts
  version : e.version = versionAfter 0 link.packets
  table : e.table = tableAfter {} link.packets

theorem carries_new (configuration interface : UInt8) :
    Carries (new configuration interface : USBMUXInterfaceExpert π) {} := by
  refine ⟨buffer_new configuration interface, ?_, rfl, rfl, rfl⟩
  intro side
  rfl

omit [Libplist π] in
theorem setBuffer_other (e : USBMUXInterfaceExpert π) {side other : Bool} (h : side ≠ other)
    (b : Bytes) : (e.setBuffer side b).buffer other = e.buffer other := by
  cases side <;> cases other
  · exact absurd rfl h
  · rfl
  · rfl
  · exact absurd rfl h

omit [Libplist π] in
theorem setBuffer_keeps (e : USBMUXInterfaceExpert π) (side : Bool) (b : Bytes) :
    (e.setBuffer side b).version = e.version ∧ (e.setBuffer side b).table = e.table := by
  cases side with
  | true => exact ⟨rfl, rfl⟩
  | false => exact ⟨rfl, rfl⟩

/-- **Step lemma.** -/
theorem Carries.feed {e : USBMUXInterfaceExpert π} {link : Link} (h : Carries e link)
    (side : Bool) (data : Bytes) : Carries (e.feed side data) (link.transfer (side, data)) := by
  have hwaits : muxFramer.next (e.buffer side) = .more := by
    rw [h.buffer]
    exact h.waits side
  rw [feed_eq e hwaits data, h.buffer side]
  have hother : ∀ other, side ≠ other →
      (link.transfer (side, data)).sides other = link.sides other :=
    fun other hne => if_neg hne
  have hown : (link.transfer (side, data)).sides side = (link.sides side).receive muxFramer data :=
    if_pos rfl
  refine ⟨?_, ?_, ?_, ?_, ?_⟩
  · intro other
    by_cases hside : side = other
    · obtain rfl := hside
      rw [hown]
      exact buffer_setBuffer _ side _
    · rw [hother other hside, ← h.buffer other]
      exact setBuffer_other _ hside _
  · intro other
    by_cases hside : side = other
    · obtain rfl := hside
      rw [hown]
      exact next_receive rfl _ _
    · rw [hother other hside]
      exact h.waits other
  · rw [link.halts_transfer, h.resyncs]
    dsimp only
    split
    · rfl
    · rw [UInt64.ofNat_add]
      rfl
  · show USBMUXInterfaceExpert.version _ = versionAfter 0 (link.packets ++ _)
    rw [versionAfter_append, ← h.version]
    exact (setBuffer_keeps _ side _).1
  · show USBMUXInterfaceExpert.table _ = tableAfter {} (link.packets ++ _)
    rw [tableAfter_append, ← h.table]
    exact (setBuffer_keeps _ side _).2

/-- The counters of an expert are not looked at. -/
theorem Carries.count {e : USBMUXInterfaceExpert π} {link : Link} (h : Carries e link)
    (counters : InterfaceExpert) : Carries { e with toInterfaceExpert := counters } link where
  buffer := h.buffer
  waits := h.waits
  resyncs := h.resyncs
  version := h.version
  table := h.table

/-- **Run lemma.** -/
theorem Carries.transfers {e : USBMUXInterfaceExpert π} {link : Link} (h : Carries e link)
    (transfers : List (Bool × Bytes)) :
    Carries (transfers.foldl transfer e) (transfers.foldl Link.transfer link) := by
  induction transfers generalizing e link with
  | nil => exact h
  | cons p transfers ih =>
    obtain ⟨side, data⟩ := p
    apply ih
    cases side with
    | true => exact (h.count (e.toInterfaceExpert.processBulkOut data)).feed true data
    | false => exact (h.count (e.toInterfaceExpert.processBulkIn data)).feed false data

/-! ## New experts -/

section New

variable (configuration interface : UInt8)

/-- A new expert after some transfers. -/
def afterTransfers (transfers : List (Bool × Bytes)) : USBMUXInterfaceExpert π :=
  transfers.foldl transfer (new configuration interface)

theorem carries_transfers (transfers : List (Bool × Bytes)) :
    Carries (afterTransfers configuration interface transfers : USBMUXInterfaceExpert π)
      (Link.run transfers) := (carries_new configuration interface).transfers transfers

/-- **Reassembly.** The transfers of each side fall into episodes, each of which ends where
framing is lost, and a rest. The packets of a side are those of its episodes, each taken for
itself, and of the rest; what is left of the rest waits in the buffer; every episode is one
resynchronisation. The version is the one that the packets of both sides said last, and the
tables are what the TCP packets of both sides make of empty ones, in the order in which they
became whole. -/
theorem transfers_reassembled (transfers : List (Bool × Bytes)) :
    let e : USBMUXInterfaceExpert π := afterTransfers configuration interface transfers
    let packets := (Link.run transfers).packets
    ∃ (episodes : Bool → List (List Bytes)) (rest : Bool → List Bytes),
      (∀ side, Split muxFramer (chunksOn side transfers) (episodes side) (rest side)) ∧
      (∀ side, packetsOn side packets =
        (episodes side).flatMap (framesOf muxFramer) ++ framesOf muxFramer (rest side)) ∧
      (∀ side, e.buffer side = (muxFramer.run (rest side).flatten).rest) ∧
      e.resyncs = UInt64.ofNat ((episodes true).length + (episodes false).length) ∧
      e.version = versionAfter 0 packets ∧ e.table = tableAfter {} packets := by
  intro e packets
  have hcarries : Carries e (Link.run transfers) := carries_transfers _ _ transfers
  choose episodes rest hsplit using fun side =>
    exists_split (F := muxFramer) rfl (chunksOn side transfers)
  have hsides : ∀ side, (Link.run transfers).sides side = ⟨(muxFramer.run (rest side).flatten).rest,
      (episodes side).flatMap (framesOf muxFramer) ++ framesOf muxFramer (rest side),
      (episodes side).length⟩ := by
    intro side
    have hrun := foldl_receive_split (r := {}) rfl rfl (hsplit side)
    rw [List.nil_append, Nat.zero_add] at hrun
    rw [← hrun]
    exact sides_run transfers side {}
  refine ⟨episodes, rest, hsplit, ?_, ?_, ?_, hcarries.version, hcarries.table⟩
  · intro side
    have hempty : packetsOn side ({} : Link).packets = (({} : Link).sides side).frames := rfl
    rw [show packetsOn side packets = _ from packetsOn_run transfers side hempty]
    exact congrArg Receiver.frames (hsides side)
  · intro side
    rw [hcarries.buffer, hsides]
  · rw [hcarries.resyncs, Link.halts, hsides, hsides]

/-- Framing is lost on a transfer exactly when it is counted. -/
theorem halted_of_resyncs {before : List (Bool × Bytes)} {side : Bool} {data : Bytes}
    (hlost : (afterTransfers configuration interface (before ++ [(side, data)]) :
        USBMUXInterfaceExpert π).resyncs ≠
      (afterTransfers configuration interface before : USBMUXInterfaceExpert π).resyncs) :
    (muxFramer.run (((Link.run before).sides side).buffer ++ data)).halted ≠ none := by
  intro hclean
  apply hlost
  rw [(carries_transfers configuration interface (before ++ [(side, data)])).resyncs,
    (carries_transfers configuration interface before).resyncs, Link.run_append]
  show UInt64.ofNat ((Link.run before).transfer (side, data)).halts = _
  rw [Link.halts_transfer, if_pos hclean]

/-- **Recovery.** After a transfer on which framing was lost, whatever was on both sides before
it, usbmux packets are handed on one by one, however they are cut into transfers and whatever
the other side carries in between, and an incomplete packet behind them waits. -/
theorem recovers_from_lost_framing (before after : List (Bool × Bytes)) (side : Bool)
    (data : Bytes)
    (hlost : (afterTransfers configuration interface (before ++ [(side, data)]) :
        USBMUXInterfaceExpert π).resyncs ≠
      (afterTransfers configuration interface before : USBMUXInterfaceExpert π).resyncs)
    {packets : List MuxPacket} {tail : Bytes} {last : MuxPacket} (htail : IsCut tail last)
    (hbytes : (chunksOn side after).flatten = packets.flatMap MuxPacket.encode ++ tail) :
    let transfers := before ++ (side, data) :: after
    packetsOn side (Link.run transfers).packets =
        packetsOn side (Link.run (before ++ [(side, data)])).packets ++
          packets.map (fun p => (p.protocol, p.payload)) ∧
      (afterTransfers configuration interface transfers :
        USBMUXInterfaceExpert π).buffer side = tail := by
  intro transfers
  have hhalts := halted_of_resyncs configuration interface hlost
  have hlink : Link.run transfers = after.foldl Link.transfer (Link.run (before ++ [(side, data)])) := by
    show Link.run (before ++ (side, data) :: after) = _
    rw [List.append_cons, Link.run_append]
  -- the side starts again with an empty buffer
  have hempty : ((Link.run (before ++ [(side, data)])).sides side).buffer = [] := by
    rw [Link.run_append]
    show (if side = side then ((Link.run before).sides side).receive muxFramer data else _).buffer = []
    rw [if_pos rfl]
    exact Framer.rest_of_halted hhalts
  have hrun := run_packets packets htail
  rw [← hbytes] at hrun
  have hside : (Link.run transfers).sides side =
      ((Link.run (before ++ [(side, data)])).sides side).after muxFramer
        (chunksOn side after).flatten := by
    rw [hlink, sides_run]
    apply foldl_receive_clean rfl hempty
    rw [hrun]
  have hframes : ∀ transfers, packetsOn side (Link.run transfers).packets =
      ((Link.run transfers).sides side).frames := fun transfers => packetsOn_run transfers side rfl
  constructor
  · rw [hframes, hframes, hside, Receiver.after, hrun]
  · rw [(carries_transfers configuration interface transfers).buffer, hside, Receiver.after, hrun]

/-- A direction that lost framing on a packet of length 1, then a version packet of which the
first byte comes alone, with a transfer of the other side behind it. -/
theorem recovers_from_lost_framing_example :
    packetsOn false (Link.run [(false, [0, 0, 0, 6, 0, 0, 0, 1]), (false, [0]), (true, [1, 2]),
      (false, [0, 0, 0, 0, 0, 0, 12, 0, 0, 0, 2])]).packets = [(0, [0, 0, 0, 2])] := by
  let packet : MuxPacket := ⟨.v1, 0, [0, 0, 0, 2], by decide, by decide, fun _ => Or.inl (by decide)⟩
  let last : MuxPacket := ⟨.v1, 0, [], by decide, by decide, fun _ => Or.inl (by decide)⟩
  have htail : IsCut [] last := ⟨List.nil_prefix, by decide⟩
  have hbytes : (chunksOn false [(false, [0]), (true, [1, 2]),
      (false, [0, 0, 0, 0, 0, 0, 12, 0, 0, 0, 2])]).flatten =
        [packet].flatMap MuxPacket.encode ++ [] := by decide
  have hrecovers := recovers_from_lost_framing (π := Empty) 1 1 []
    [(false, [0]), (true, [1, 2]), (false, [0, 0, 0, 0, 0, 0, 12, 0, 0, 0, 2])] false
    [0, 0, 0, 6, 0, 0, 0, 1] (by decide +kernel) htail hbytes
  rw [List.nil_append] at hrecovers
  rw [hrecovers.1]
  decide +kernel

/-! ## Streams -/

/-- The segment in a packet. A TCP packet without a whole header has none. -/
def segmentOf (packet : LinkPacket) : Option Segment :=
  if packet.2.1 = muxProtoTcp ∧ 20 ≤ packet.2.2.length then
    some (Segment.parse packet.1 packet.2.2)
  else none

theorem demultiplexed_tableAfter {t : StreamTable π} {segments : List Segment}
    (h : t.Demultiplexed segments) {packets : List LinkPacket}
    (hnum : StreamTable.Numbered (segments ++ packets.filterMap segmentOf)) :
    (tableAfter t packets).Demultiplexed (segments ++ packets.filterMap segmentOf) := by
  induction packets generalizing t segments with
  | nil =>
    rw [List.filterMap_nil, List.append_nil]
    exact h
  | cons packet packets ih =>
    rw [← List.singleton_append, List.filterMap_append, ← List.append_assoc] at hnum ⊢
    rw [tableAfter_append]
    apply ih _ hnum
    by_cases htcp : packet.2.1 = muxProtoTcp
    · have hpacket : tableAfter t [packet] = t.processTCP packet.1 packet.2.2 := by
        unfold tableAfter tcpOf
        simp [htcp]
      rw [hpacket]
      by_cases hheader : 20 ≤ packet.2.2.length
      · have hsegment : [packet].filterMap segmentOf = [Segment.parse packet.1 packet.2.2] := by
          simp [segmentOf, htcp, hheader]
        rw [hsegment] at hnum ⊢
        exact (h.processTCP hheader hnum.of_append).1
      · have hsegment : [packet].filterMap segmentOf = [] := by
          simp [segmentOf, hheader]
        rw [hsegment, List.append_nil, StreamTable.processTCP_of_short t (Nat.not_le.mp hheader)]
        exact h
    · have hpacket : tableAfter t [packet] = t := by
        unfold tableAfter tcpOf
        simp [htcp]
      have hsegment : [packet].filterMap segmentOf = [] := by
        simp [segmentOf, htcp]
      rw [hpacket, hsegment, List.append_nil]
      exact h

/-- **Streams.** Whatever bytes arrive on the two sides of a new expert, in whatever transfers,
its streams are those of the TCP segments in the packets that became whole, each with its own
segments in order. -/
theorem streams_of_transfers (transfers : List (Bool × Bytes))
    (hnum : StreamTable.Numbered ((Link.run transfers).packets.filterMap segmentOf)) :
    (afterTransfers configuration interface transfers :
        USBMUXInterfaceExpert π).table.Demultiplexed
      ((Link.run transfers).packets.filterMap segmentOf) := by
  rw [(carries_transfers configuration interface transfers).table]
  exact @demultiplexed_tableAfter π _ {} [] StreamTable.demultiplexed_empty _ hnum

/-- A connection older than the capture, whose packet comes in two transfers, after a transfer
of the same side that is no usbmux packet. -/
theorem streams_of_transfers_example :
    ∃ name, (afterTransfers 1 1 [(false, [0, 0, 0, 6, 0, 0, 0, 1]), (false, [0, 0, 0, 6]),
      (true, []), (false, [0, 0, 0, 29, 0xF2, 0x7E, 0xC0, 0, 0, 0, 0, 0, 0, 0, 0, 0, 0x50, 0x10, 2,
        0, 0, 0, 0, 0, 1])] : USBMUXInterfaceExpert Empty).table.streams[
          streamId 49152 62078 1]? =
      some (some (MuxStream.ofSegments 49152 62078 name
        [⟨false, 49152, 62078, false, false, [1]⟩])) := by
  have hsegments : (Link.run [(false, [0, 0, 0, 6, 0, 0, 0, 1]), (false, [0, 0, 0, 6]), (true, []),
      (false, [0, 0, 0, 29, 0xF2, 0x7E, 0xC0, 0, 0, 0, 0, 0, 0, 0, 0, 0, 0x50, 0x10, 2,
        0, 0, 0, 0, 0, 1])]).packets.filterMap segmentOf =
      [⟨false, 49152, 62078, false, false, [1]⟩] := by decide +kernel
  have hdemux := streams_of_transfers (π := Empty) 1 1 [(false, [0, 0, 0, 6, 0, 0, 0, 1]),
    (false, [0, 0, 0, 6]), (true, []), (false, [0, 0, 0, 29, 0xF2, 0x7E, 0xC0, 0, 0, 0, 0, 0, 0, 0,
      0, 0, 0x50, 0x10, 2, 0, 0, 0, 0, 0, 1])]
    (by rw [hsegments]; exact StreamTable.numbered_of_length (by decide))
  rw [hsegments] at hdemux
  exact hdemux.held 49152 62078 0 _ (by decide)

end New

end Expert

end DemuxUsb.USBMUXInterfaceExpert
