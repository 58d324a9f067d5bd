import DemuxUsb.Protocol.MuxReassembly
import DemuxUsb.Protocol.StreamDemux

/-!
# The two versions of the usbmux header

A header is taken for a v2 header when the magic of one stands behind protocol and
length. In a v1 packet the ports of the TCP segment stand there, so there are two port
pairs that turn a v1 packet into a v2 packet: its bytes are those of a `MuxPacket` of
either kind.

* `readBigEndian32_segment`: the ports as the decoder reads them;
* `v1_attributed`: a v1 packet is attributed to its ports unless they spell a magic.
-/

namespace DemuxUsb.USBMUXInterfaceExpert

open Endian

/-! ## Segments in v1 packets -/

/-- The payload of a usbmux packet: a TCP segment, with its options and its data behind the
header. -/
def tcpSegment (tcp : Tcphdr) (body : Bytes) : Bytes := Layout.encode tcp ++ body

/-- The data of a segment. The data offset counts words of four bytes from the start of the
header, so the words behind the fifth are options; an offset that leaves out a part of the header
or lies behind the segment speaks of no options. -/
def segmentData (tcp : Tcphdr) (body : Bytes) : Bytes :=
  let words := (tcp.flags >>> 12).toNat
  if 5 ≤ words ∧ words * 4 ≤ 20 + body.length then body.drop (words * 4 - 20) else body

/-- A TCP segment in a usbmux packet with the v1 header. -/
def v1Packet (tcp : Tcphdr) (body : Bytes) : Bytes :=
  be32Bytes muxProtoTcp ++
    (be32Bytes (UInt32.ofNat (muxHeaderV1Size + (tcpSegment tcp body).length)) ++
      tcpSegment tcp body)

/-- The ports spell one of the two magics. -/
def SpellsMagic (tcp : Tcphdr) : Prop :=
  tcp.dest = 0xFACE ∧ (tcp.source = 0xFACE ∨ tcp.source = 0xFEED)

theorem length_tcpSegment (tcp : Tcphdr) (body : Bytes) :
    (tcpSegment tcp body).length = 20 + body.length := by
  rw [tcpSegment, List.length_append, Layout.length_encode]
  rfl

/-- The decoder reads the ports of a segment as one number. -/
theorem readBigEndian32_segment (tcp : Tcphdr) (body : Bytes) :
    readBigEndian32 (tcpSegment tcp body) = streamPort tcp.source tcp.dest := by
  have hs := tcp.source.toNat_lt
  have hd := tcp.dest.toNat_lt
  have hport : (streamPort tcp.source tcp.dest).toNat =
      tcp.source.toNat * 2 ^ 16 + tcp.dest.toNat :=
    toNat_shiftLeft_or32 (k := 16) (by omega) (by rw [UInt16.toNat_toUInt32]; omega)
      (by rw [UInt16.toNat_toUInt32]; omega)
  have hread : readBigEndian32 (tcpSegment tcp body) =
      UInt32.ofNat (tcp.source.toNat * 2 ^ 16 + tcp.dest.toNat) := by
    show be32 (tcpSegment tcp body) 0 = _
    unfold tcpSegment Layout.encode instLayoutTcphdr
    simp only [List.append_assoc]
    exact be32_be16Bytes_append tcp.source tcp.dest _
  rw [hread, ← hport, UInt32.ofNat_toNat]

theorem readBigEndian32_segment_eq_magic_iff (tcp : Tcphdr) (body : Bytes) :
    (readBigEndian32 (tcpSegment tcp body) = usbmuxMagicIn ∨
      readBigEndian32 (tcpSegment tcp body) = usbmuxMagicOut) ↔ SpellsMagic tcp := by
  have hin : usbmuxMagicIn = streamPort 0xFACE 0xFACE := by decide
  have hout : usbmuxMagicOut = streamPort 0xFEED 0xFACE := by decide
  rw [readBigEndian32_segment, hin, hout]
  constructor
  · rintro (hport | hport)
    · obtain ⟨hsource, hdest⟩ := streamPort_inj hport
      exact ⟨hdest, Or.inl hsource⟩
    · obtain ⟨hsource, hdest⟩ := streamPort_inj hport
      exact ⟨hdest, Or.inr hsource⟩
  · rintro ⟨hdest, hsource | hsource⟩
    · rw [hsource, hdest]
      exact Or.inl rfl
    · rw [hsource, hdest]
      exact Or.inr rfl

/-! ## The packet that is read -/

section Packets

variable {tcp : Tcphdr} {body : Bytes}

/-- A v1 packet is read as one. -/
theorem exists_v1_packet
    (hlength : muxHeaderV1Size + (tcpSegment tcp body).length ≤ maxMuxPacket.toNat)
    (hports : ¬ SpellsMagic tcp) :
    ∃ p : MuxPacket, p.encode = v1Packet tcp body ∧ p.protocol = muxProtoTcp ∧
      p.payload = tcpSegment tcp body := by
  have hneither := not_or.mp (mt (readBigEndian32_segment_eq_magic_iff tcp body).mp hports)
  exact ⟨⟨.v1, muxProtoTcp, tcpSegment tcp body, by decide, hlength, fun _ => Or.inr hneither⟩,
    rfl, rfl, rfl⟩

/-- The front of a segment whose ports spell a magic is the rest of a v2 header. -/
theorem exists_v2_header (hports : SpellsMagic tcp) (body : Bytes) :
    ∃ outbound txSeq rxSeq,
      (MuxHeader.v2 outbound txSeq rxSeq).tail = (tcpSegment tcp body).take 8 := by
  obtain ⟨a, b, c, d, hseq⟩ : ∃ a b c d, be32Bytes tcp.seq = [a, b, c, d] := ⟨_, _, _, _, rfl⟩
  have htake : (tcpSegment tcp body).take 8 =
      (be16Bytes tcp.source ++ be16Bytes tcp.dest) ++ ([a, b] ++ [c, d]) := by
    obtain ⟨rest, hrest⟩ : ∃ rest, tcpSegment tcp body =
        ((be16Bytes tcp.source ++ be16Bytes tcp.dest) ++ be32Bytes tcp.seq) ++ rest := by
      unfold tcpSegment Layout.encode instLayoutTcphdr
      simp only [List.append_assoc]
      exact ⟨_, rfl⟩
    rw [hrest, hseq, List.take_left' (by simp)]
    rfl
  obtain ⟨hdest, hsource⟩ := hports
  rw [htake, hdest, ← be16Bytes_be16 a b [], ← be16Bytes_be16 c d []]
  rcases hsource with hsource | hsource
  · rw [hsource]
    exact ⟨false, _, _, rfl⟩
  · rw [hsource]
    exact ⟨true, _, _, rfl⟩

/-- A v1 packet is read as a v2 packet, which has eight bytes less of payload. -/
theorem exists_v2_packet
    (hlength : muxHeaderV1Size + (tcpSegment tcp body).length ≤ maxMuxPacket.toNat)
    (hports : SpellsMagic tcp) :
    ∃ p : MuxPacket, p.encode = v1Packet tcp body ∧ p.protocol = muxProtoTcp ∧
      p.payload.length + 8 = (tcpSegment tcp body).length := by
  obtain ⟨outbound, txSeq, rxSeq, htail⟩ := exists_v2_header hports body
  have hlen := length_tcpSegment tcp body
  have hdrop : ((tcpSegment tcp body).drop 8).length + 8 = (tcpSegment tcp body).length := by
    rw [List.length_drop]
    omega
  have hsize : (MuxHeader.v2 outbound txSeq rxSeq).size = 16 := rfl
  have height : muxHeaderV1Size = 8 := rfl
  refine ⟨⟨.v2 outbound txSeq rxSeq, muxProtoTcp, (tcpSegment tcp body).drop 8, by decide,
    by omega, fun h => MuxHeader.noConfusion h⟩, ?_, rfl, hdrop⟩
  unfold MuxPacket.encode v1Packet
  dsimp only
  rw [htail, List.take_append_drop, hsize, height, ← hdrop]
  congr 4
  omega

end Packets

/-! ## The stream of a single segment -/

section Streams

variable {π : Type}

/-- The expert of an interface before any traffic. -/
def new (configuration interface : UInt8) : USBMUXInterfaceExpert π :=
  { configuration := configuration, interface := interface }

theorem buffer_new (configuration interface : UInt8) (outbound : Bool) :
    (new configuration interface : USBMUXInterfaceExpert π).buffer outbound = [] := by
  cases outbound <;> rfl

variable [Libplist π]

/-- The stream of the port pair is the only one, and it has counted the data, on the
direction of the packet only. -/
def Attributed (e : USBMUXInterfaceExpert π) (outbound : Bool) (host device : UInt16)
    (data : Bytes) : Prop :=
  ∃ stream : MuxStream π,
    (∀ id, e.table.streams[id]? =
      if id = streamId host device 1 then some (some stream) else none) ∧
    stream.host = host ∧ stream.device = device ∧
    (stream.direction outbound).bytes.toNat = data.length ∧
    (stream.direction (!outbound)).bytes.toNat = 0

/-- **Spec lemma.** What the first segment leaves. -/
theorem streams_processTCP_single (outbound : Bool) {payload : Bytes}
    (hheader : 20 ≤ payload.length) :
    ∃ name, ∀ id, (({} : StreamTable π).processTCP outbound payload).streams[id]? =
      if id = streamId (Segment.parse outbound payload).host
          (Segment.parse outbound payload).device 1 then
        some (some (MuxStream.ofSegments (Segment.parse outbound payload).host
          (Segment.parse outbound payload).device name [Segment.parse outbound payload]))
      else none := by
  have hnum : StreamTable.Numbered ([] ++ [Segment.parse outbound payload]) :=
    StreamTable.numbered_of_length (by rw [List.nil_append, List.length_singleton]; omega)
  obtain ⟨hdemux, -⟩ := (StreamTable.demultiplexed_empty (π := π)).processTCP hheader hnum
  generalize Segment.parse outbound payload = s at *
  have hown : streamsOf s.host s.device ([] ++ [s]) = [[s]] := by
    rw [streamsOf_snoc_own]
    exact (place_of_new (Or.inr rfl)).1
  obtain ⟨name, hheld⟩ := hdemux.held s.host s.device 0 [s] (by rw [hown]; rfl)
  refine ⟨name, ?_⟩
  intro id
  by_cases hid : id = streamId s.host s.device 1
  · rw [if_pos hid, hid]
    exact hheld
  · rw [if_neg hid]
    apply Std.ExtTreeMap.getElem?_eq_none
    intro hmem
    obtain ⟨host, device, i, hi, rfl⟩ := hdemux.only id hmem
    by_cases hpair : s.host = host ∧ s.device = device
    · obtain ⟨rfl, rfl⟩ := hpair
      rw [hown] at hi
      obtain rfl : i = 0 := Nat.lt_one_iff.mp hi
      exact hid rfl
    · rw [streamsOf_snoc_other _ hpair] at hi
      exact absurd hi (Nat.not_lt_zero i)

/-- The bytes a stream has counted of a single segment. -/
theorem bytes_ofSegments_single (host device : UInt16) (name : Bytes) (s : Segment) :
    ((MuxStream.ofSegments host device name [s] : MuxStream π).direction s.outbound).bytes =
        UInt64.ofNat s.data.length ∧
      ((MuxStream.ofSegments host device name [s] : MuxStream π).direction (!s.outbound)).bytes =
        0 := by
  have hfresh : ∀ outbound, ((MuxStream.fresh host device : MuxStream π).direction
      outbound).bytes = 0 := by
    intro outbound
    cases outbound <;> rfl
  obtain ⟨hown, hother, -⟩ :=
    MuxStream.pass_eq (MuxStream.fresh host device : MuxStream π) s.outbound s.data
  have hof : ∀ outbound,
      (MuxStream.ofSegments host device name [s] : MuxStream π).direction outbound =
        ((MuxStream.fresh host device : MuxStream π).pass s.outbound s.data).direction outbound := by
    intro outbound
    cases outbound <;> rfl
  rw [hof, hof, hown, hother, MuxStream.consume_bytes, hfresh, hfresh, UInt64.zero_add]
  exact ⟨rfl, rfl⟩

/-- What is read of a segment. -/
theorem parse_tcpSegment (outbound : Bool) (tcp : Tcphdr) (body : Bytes) :
    (Segment.parse outbound (tcpSegment tcp body)).data = segmentData tcp body ∧
      (Segment.parse outbound (tcpSegment tcp body)).host =
        (if outbound then tcp.source else tcp.dest) ∧
      (Segment.parse outbound (tcpSegment tcp body)).device =
        (if outbound then tcp.dest else tcp.source) := by
  have hlen : (Layout.encode tcp).length = 20 := Layout.length_encode tcp
  have htcp : (Layout.decode ((tcpSegment tcp body).take 20) : Tcphdr) = tcp := by
    unfold tcpSegment
    rw [List.take_left' hlen, Layout.decode_encode]
  unfold Segment.parse
  rw [htcp]
  refine ⟨?_, rfl, rfl⟩
  unfold segmentData Tcphdr.dataOffset
  dsimp only
  rw [length_tcpSegment]
  by_cases hoffset : 5 ≤ (tcp.flags >>> 12).toNat ∧ (tcp.flags >>> 12).toNat * 4 ≤ 20 + body.length
  · -- the options are skipped with the header
    have hskip : (tcp.flags >>> 12).toNat * 4 =
        (Layout.encode tcp).length + ((tcp.flags >>> 12).toNat * 4 - 20) := by omega
    rw [if_pos (by omega), if_pos hoffset, tcpSegment]
    conv_lhs => rw [hskip, ← List.drop_drop, List.drop_left]
  · rw [if_neg (by omega), if_neg hoffset, tcpSegment, List.drop_left' hlen]

theorem length_segmentData (tcp : Tcphdr) (body : Bytes) :
    (segmentData tcp body).length ≤ body.length := by
  unfold segmentData
  dsimp only
  split
  · rw [List.length_drop]
    exact Nat.sub_le _ _
  · exact Nat.le_refl _

section Attribution

variable {configuration interface : UInt8} {outbound : Bool} {tcp : Tcphdr} {body : Bytes}

theorem maxMuxPacket_of_length (hlength : (v1Packet tcp body).length ≤ 1024 * 1024) :
    muxHeaderV1Size + (tcpSegment tcp body).length ≤ maxMuxPacket.toNat := by
  have height : muxHeaderV1Size = 8 := rfl
  have hmega : maxMuxPacket.toNat = 1024 * 1024 := rfl
  unfold v1Packet at hlength
  rw [List.length_append, List.length_append, length_be32Bytes, length_be32Bytes] at hlength
  omega

theorem attributed_of_ports (hlength : (v1Packet tcp body).length ≤ 1024 * 1024)
    (hports : ¬ SpellsMagic tcp) :
    Attributed ((new configuration interface : USBMUXInterfaceExpert π).feed outbound
        (v1Packet tcp body)) outbound (if outbound then tcp.source else tcp.dest)
      (if outbound then tcp.dest else tcp.source) (segmentData tcp body) := by
  have hmax := maxMuxPacket_of_length hlength
  have hlen := length_tcpSegment tcp body
  have hless := length_segmentData tcp body
  have hheader : 20 ≤ (tcpSegment tcp body).length := by omega
  obtain ⟨p, hencode, hprotocol, hpayload⟩ := exists_v1_packet hmax hports
  have htable : ((new configuration interface : USBMUXInterfaceExpert π).feed outbound
      (v1Packet tcp body)).table =
        ({} : StreamTable π).processTCP outbound (tcpSegment tcp body) := by
    rw [← hencode, feed_encode _ (buffer_new _ _ _), hprotocol, hpayload]
    rfl
  obtain ⟨name, hsingle⟩ := streams_processTCP_single (π := π) outbound hheader
  obtain ⟨hdata, hhost, hdevice⟩ := parse_tcpSegment outbound tcp body
  have hside : (Segment.parse outbound (tcpSegment tcp body)).outbound = outbound := rfl
  generalize Segment.parse outbound (tcpSegment tcp body) = s at *
  rw [hhost, hdevice] at hsingle
  generalize (if outbound then tcp.source else tcp.dest) = host at *
  generalize (if outbound then tcp.dest else tcp.source) = device at *
  obtain ⟨hown, hother⟩ := bytes_ofSegments_single (π := π) host device name s
  rw [hside, hdata] at hown
  rw [hside] at hother
  obtain ⟨hkeptHost, hkeptDevice⟩ := MuxStream.run_keeps
    (MuxStream.fresh host device : MuxStream π) ([s].map fun s => (s.outbound, s.data))
  refine ⟨MuxStream.ofSegments host device name [s], ?_, hkeptHost, hkeptDevice, ?_, ?_⟩
  · intro id
    rw [htable, hsingle]
  · have hmega : maxMuxPacket.toNat = 1024 * 1024 := rfl
    rw [hown, UInt64.toNat_ofNat']
    omega
  · rw [hother]
    rfl

/-- Without options, what is taken for a v2 packet has not all of the data. -/
theorem not_attributed_of_magic (hlength : (v1Packet tcp body).length ≤ 1024 * 1024)
    (hports : SpellsMagic tcp) (host device : UInt16) :
    ¬ Attributed ((new configuration interface : USBMUXInterfaceExpert π).feed outbound
        (v1Packet tcp body)) outbound host device body := by
  have hmax := maxMuxPacket_of_length hlength
  have hlen := length_tcpSegment tcp body
  obtain ⟨p, hencode, hprotocol, hpayload⟩ := exists_v2_packet hmax hports
  have htable : ((new configuration interface : USBMUXInterfaceExpert π).feed outbound
      (v1Packet tcp body)).table = ({} : StreamTable π).processTCP outbound p.payload := by
    rw [← hencode, feed_encode _ (buffer_new _ _ _), hprotocol]
    rfl
  rintro ⟨stream, hstreams, -, -, hbytes, -⟩
  have hfound := hstreams (streamId host device 1)
  rw [if_pos rfl, htable] at hfound
  rcases Nat.lt_or_ge p.payload.length 20 with hshort | hlong
  · -- no TCP header is left
    have hnone : ({} : StreamTable π).processTCP outbound p.payload = {} := by
      unfold StreamTable.processTCP
      rw [readStruct_of_lt hshort]
    rw [hnone] at hfound
    cases (Std.ExtTreeMap.getElem?_empty (a := _)).symm.trans hfound
  · -- the stream that is found has eight bytes less
    obtain ⟨name, hsingle⟩ := streams_processTCP_single (π := π) outbound hlong
    have hshorter : (Segment.parse outbound p.payload).data.length ≤ p.payload.length - 20 := by
      unfold Segment.parse Tcphdr.dataOffset
      dsimp only
      rw [List.length_drop]
      split <;> omega
    have hside : (Segment.parse outbound p.payload).outbound = outbound := rfl
    have hmega : maxMuxPacket.toNat = 1024 * 1024 := rfl
    generalize Segment.parse outbound p.payload = s at *
    rw [hsingle] at hfound
    split at hfound
    · obtain rfl := Option.some.inj (Option.some.inj hfound)
      rw [← hside, (bytes_ofSegments_single _ _ _ s).1, UInt64.toNat_ofNat'] at hbytes
      omega
    · cases hfound

end Attribution

/-- **Versions.** A TCP segment in a v1 packet, with whatever header and options, fed whole to a
fresh expert, is attributed to the stream of its ports with exactly its data unless its ports
spell the magic of a v2 header. A segment without options whose ports do is not. -/
theorem v1_attributed (configuration interface : UInt8) (outbound : Bool) (tcp : Tcphdr)
    (body : Bytes) (hlength : (v1Packet tcp body).length ≤ 1024 * 1024) :
    (¬ SpellsMagic tcp →
      Attributed ((new configuration interface : USBMUXInterfaceExpert π).feed outbound
        (v1Packet tcp body)) outbound (if outbound then tcp.source else tcp.dest)
        (if outbound then tcp.dest else tcp.source) (segmentData tcp body)) ∧
      (SpellsMagic tcp → segmentData tcp body = body → ∀ host device,
        ¬ Attributed ((new configuration interface : USBMUXInterfaceExpert π).feed outbound
          (v1Packet tcp body)) outbound host device (segmentData tcp body)) := by
  refine ⟨fun hports => attributed_of_ports hlength hports, ?_⟩
  intro hports hdata host device
  rw [hdata]
  exact not_attributed_of_magic hlength hports host device

/-- One byte from host port 49152 to lockdownd, behind a word of options. -/
theorem v1_attributed_example :
    Attributed ((new 1 1 : USBMUXInterfaceExpert Empty).feed true
      (v1Packet ⟨49152, 62078, 0, 0, 0x6010, 0x0200, 0, 0⟩ [1, 1, 1, 0, 7])) true 49152 62078 [7] := by
  have hports : ¬ SpellsMagic ⟨49152, 62078, 0, 0, 0x6010, 0x0200, 0, 0⟩ := by
    rintro ⟨hdest, -⟩
    exact absurd hdest (by decide)
  exact (v1_attributed 1 1 true ⟨49152, 62078, 0, 0, 0x6010, 0x0200, 0, 0⟩ [1, 1, 1, 0, 7]
    (by decide)).1 hports

/-- A SYN from host port 0xFEED to device port 0xFACE opens no stream. -/
theorem not_v1_attributed :
    ¬ ∀ (configuration interface : UInt8) (outbound : Bool) (tcp : Tcphdr) (body : Bytes),
      (v1Packet tcp body).length ≤ 1024 * 1024 →
        Attributed ((new configuration interface : USBMUXInterfaceExpert Empty).feed outbound
          (v1Packet tcp body)) outbound (if outbound then tcp.source else tcp.dest)
          (if outbound then tcp.dest else tcp.source) (segmentData tcp body) := by
  intro hall
  have hattributed := hall 1 1 true ⟨0xFEED, 0xFACE, 0, 0, 0x5002, 0x0200, 0, 0⟩ [] (by decide)
  exact not_attributed_of_magic (by decide) ⟨rfl, Or.inr rfl⟩ _ _ hattributed

end Streams

end DemuxUsb.USBMUXInterfaceExpert
