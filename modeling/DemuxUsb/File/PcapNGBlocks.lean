import DemuxUsb.File.PcapNGFrames

/-!
# The blocks of a pcapng file

A little endian pcapng file is a list of blocks that begins with a section header. A
packet block refers to the interfaces declared since the last section header; the blocks
of a `PcapNGFile` refer to none that is not there. One round of the parser reads one
block, whatever follows (`parseBlock_encode`).
-/

namespace DemuxUsb.PcapNGInputFile

open Endian

/-! ## Blocks -/

/-- A block of a file. The padding of packet data, options and whatever else follows the
fields the parser knows is the last part of each. -/
inductive FileBlock where
  | sectionHeader (majorVersion minorVersion : UInt16) (sectionLength : UInt64) (options : Bytes)
  | interface (descriptor : PcapInterfaceDescriptor) (options : Bytes)
  | enhanced (interfaceId timestampHigh timestampLow packetLen : UInt32) (data trailer : Bytes)
  | simple (packetLen : UInt32) (data : Bytes)
  | other (type : UInt32) (body : Bytes)
  deriving DecidableEq

namespace FileBlock

def type : FileBlock → UInt32
  | sectionHeader .. => typeSectionHeader
  | interface .. => timeInterfaceDescriptorBlock
  | enhanced .. => typeEnhancedPacketBlock
  | simple .. => typeSimplePacketBlock
  | other type _ => type

/-- The block between its length and the repeated length. -/
def body : FileBlock → Bytes
  | sectionHeader majorVersion minorVersion sectionLength options =>
    Layout.encode (⟨pcapngByteOrderMagic, majorVersion, minorVersion, sectionLength⟩ :
      PcapngShb) ++ options
  | interface descriptor options => Layout.encode descriptor ++ options
  | enhanced interfaceId timestampHigh timestampLow packetLen data trailer =>
    Layout.encode (⟨interfaceId, timestampHigh, timestampLow, UInt32.ofNat data.length,
      packetLen⟩ : PcapngEpb) ++ (data ++ trailer)
  | simple packetLen data => Layout.encode (⟨packetLen⟩ : PcapngSpb) ++ data
  | other _ body => body

/-- The number of bytes of a block. -/
def length (b : FileBlock) : Nat := b.body.length + blockOverhead

def encode (b : FileBlock) : Bytes :=
  Layout.encode (⟨b.type, UInt32.ofNat b.length⟩ : Block) ++
    (b.body ++ Layout.encode (UInt32.ofNat b.length))

def isSectionHeader : FileBlock → Bool
  | sectionHeader .. => true
  | _ => false

/-- A block that can be written, with nothing undeclared: `interfaces` are those of its
section before it. -/
structure WellFormed (interfaces : List PcapngInterface) (b : FileBlock) : Prop where
  aligned : b.body.length % 4 = 0
  fits : b.length < 2 ^ 32
  declared : match b with
    | enhanced interfaceId _ _ _ _ _ => interfaceId.toNat < interfaces.length
    | simple _ _ => interfaces ≠ []
    | other type _ => type ∉ [typeSectionHeader, timeInterfaceDescriptorBlock,
        typeEnhancedPacketBlock, typeSimplePacketBlock]
    | _ => True

/-- The interfaces of the section behind a block. -/
def interfacesAfter (interfaces : List PcapngInterface) : FileBlock → List PcapngInterface
  | sectionHeader .. => []
  | interface descriptor _ => interfaces ++ [⟨descriptor.linktype, descriptor.snaplen⟩]
  | _ => interfaces

/-- The link type and the bytes of a packet block. A simple one has no captured length: it holds
as many bytes as the packet, the block and the snapshot length (unless that is 0) allow. -/
def packet? (interfaces : List PcapngInterface) : FileBlock → Option (UInt32 × Bytes)
  | enhanced interfaceId _ _ _ data _ =>
    interfaces[interfaceId.toNat]?.map fun i => (i.linktype.toUInt32, data)
  | simple packetLen data =>
    interfaces[0]?.map fun i =>
      (i.linktype.toUInt32,
        data.take (if i.snaplen = 0 then min packetLen.toNat data.length
          else min (min packetLen.toNat data.length) i.snaplen.toNat))
  | _ => none

theorem length_encode (b : FileBlock) : b.encode.length = b.length := by
  have hblock : Layout.size Block = 8 := rfl
  have hword : Layout.size UInt32 = 4 := rfl
  have hoverhead : blockOverhead = 12 := rfl
  rw [encode, List.length_append, List.length_append, Layout.length_encode,
    Layout.length_encode, length]
  omega

theorem blockOverhead_le (b : FileBlock) : blockOverhead ≤ b.length := Nat.le_add_left _ _

theorem type_eq_sectionHeader {interfaces : List PcapngInterface} {b : FileBlock}
    (hwf : b.WellFormed interfaces) : b.type = typeSectionHeader ↔ b.isSectionHeader = true := by
  cases b with
  | sectionHeader => exact iff_of_true rfl rfl
  | interface =>
    have htype : timeInterfaceDescriptorBlock ≠ typeSectionHeader := by decide
    exact iff_of_false htype Bool.false_ne_true
  | enhanced =>
    have htype : typeEnhancedPacketBlock ≠ typeSectionHeader := by decide
    exact iff_of_false htype Bool.false_ne_true
  | simple =>
    have htype : typeSimplePacketBlock ≠ typeSectionHeader := by decide
    exact iff_of_false htype Bool.false_ne_true
  | other type body =>
    refine iff_of_false ?_ Bool.false_ne_true
    rintro (rfl : type = typeSectionHeader)
    exact hwf.declared List.mem_cons_self

end FileBlock

/-! ## Reading a block -/

section Reading

variable {interfaces : List PcapngInterface} {b : FileBlock}

theorem toNat_length_of_wellFormed (hwf : b.WellFormed interfaces) :
    (UInt32.ofNat b.length).toNat = b.length := by
  rw [UInt32.toNat_ofNat', Nat.mod_eq_of_lt hwf.fits]

theorem sectionHeaderError_encode (majorVersion minorVersion : UInt16) (sectionLength : UInt64)
    (rest : Bytes) : sectionHeaderError (Layout.encode (⟨pcapngByteOrderMagic, majorVersion,
      minorVersion, sectionLength⟩ : PcapngShb) ++ rest) = none := by
  unfold sectionHeaderError
  rw [readStruct_encode]
  rfl

/-- A packet block that was written is read back. -/
theorem parseEnhanced_encode {interfaceId timestampHigh timestampLow packetLen : UInt32}
    {data trailer : Bytes}
    (hwf : (FileBlock.enhanced interfaceId timestampHigh timestampLow packetLen data
      trailer).WellFormed interfaces)
    {interface : PcapngInterface} (hinterface : interfaces[interfaceId.toNat]? = some interface) :
    parseEnhanced interfaces (Layout.encode (⟨interfaceId, timestampHigh, timestampLow,
        UInt32.ofNat data.length, packetLen⟩ : PcapngEpb) ++ (data ++ trailer)) =
      .packet interface.linktype.toUInt32 data := by
  have hfits := hwf.fits
  have hsize : Layout.size PcapngEpb = 20 := rfl
  simp only [FileBlock.length, FileBlock.body, List.length_append, Layout.length_encode,
    hsize] at hfits
  have hcaptured : (UInt32.ofNat data.length).toNat = data.length := by
    rw [UInt32.toNat_ofNat', Nat.mod_eq_of_lt (by omega)]
  let epb : PcapngEpb :=
    ⟨interfaceId, timestampHigh, timestampLow, UInt32.ofNat data.length, packetLen⟩
  have himage : (Layout.encode epb).length = 20 := Layout.length_encode epb
  unfold parseEnhanced
  rw [readStruct_encode]
  dsimp only
  rw [hinterface, hcaptured, hsize]
  dsimp only
  rw [if_neg, List.drop_left' himage, List.take_left]
  rw [List.length_append, List.length_append, himage]
  omega

theorem simpleCaptured_eq (interface : PcapngInterface) (packetLen : UInt32) (dataLength : Nat) :
    simpleCaptured interface packetLen dataLength =
      if interface.snaplen = 0 then min packetLen.toNat dataLength
      else min (min packetLen.toNat dataLength) interface.snaplen.toNat := by
  unfold simpleCaptured
  by_cases hsnaplen : interface.snaplen = 0
  · rw [if_pos hsnaplen, if_neg (not_not.mpr hsnaplen)]
  · rw [if_neg hsnaplen, if_pos hsnaplen]

/-- The switch over the block types finds what was written. -/
theorem parseBody_body (hwf : b.WellFormed interfaces) :
    parseBody (if b.type = typeSectionHeader then [] else interfaces) b.type b.body =
      (b.interfacesAfter interfaces,
        (b.packet? interfaces).map fun p => .packet p.1 p.2) := by
  cases b with
  | sectionHeader majorVersion minorVersion sectionLength options => rfl
  | interface descriptor options =>
    show parseInterface interfaces (Layout.encode descriptor ++ options) = _
    unfold parseInterface
    rw [readStruct_encode]
    rfl
  | enhanced interfaceId timestampHigh timestampLow packetLen data trailer =>
    have hinterface := List.getElem?_eq_getElem (show interfaceId.toNat < interfaces.length from
      hwf.declared)
    show (interfaces, some (parseEnhanced interfaces (Layout.encode (⟨interfaceId, timestampHigh,
        timestampLow, UInt32.ofNat data.length, packetLen⟩ : PcapngEpb) ++ (data ++ trailer)))) =
      (interfaces, (interfaces[interfaceId.toNat]?.map fun i =>
        (i.linktype.toUInt32, data)).map fun p => ParseEvent.packet p.1 p.2)
    rw [parseEnhanced_encode hwf hinterface, hinterface]
    rfl
  | simple packetLen data =>
    have hdeclared : interfaces ≠ [] := hwf.declared
    let spb : PcapngSpb := ⟨packetLen⟩
    have hdata : (Layout.encode spb ++ data).drop (Layout.size PcapngSpb) = data :=
      List.drop_left' (Layout.length_encode spb)
    show (interfaces, some (parseSimple interfaces (Layout.encode spb ++ data))) = _
    unfold parseSimple
    rw [readStruct_encode, hdata]
    cases interfaces with
    | nil => exact absurd rfl hdeclared
    | cons interface rest =>
      dsimp only
      rw [simpleCaptured_eq]
      rfl
  | other type body =>
    have hother : type ∉ [typeSectionHeader, timeInterfaceDescriptorBlock,
      typeEnhancedPacketBlock, typeSimplePacketBlock] := hwf.declared
    simp only [List.mem_cons, List.not_mem_nil, or_false, not_or] at hother
    obtain ⟨hheader, hinterface, henhanced, hsimple⟩ := hother
    show parseBody (if type = typeSectionHeader then [] else interfaces) type body =
      (interfaces, none)
    unfold parseBody
    rw [if_neg hheader, if_neg hinterface, if_neg henhanced, if_neg hsimple]

theorem readStruct_block (b : FileBlock) (rest : Bytes) :
    readStruct Block (b.encode ++ rest) = some ⟨b.type, UInt32.ofNat b.length⟩ := by
  rw [FileBlock.encode, List.append_assoc, readStruct_encode]

/-- Behind the type and the length of a block. -/
theorem drop_block (b : FileBlock) (rest : Bytes) :
    (b.encode ++ rest).drop (Layout.size Block) =
      b.body ++ (Layout.encode (UInt32.ofNat b.length) ++ rest) := by
  rw [FileBlock.encode, List.append_assoc, List.append_assoc,
    List.drop_left' (Layout.length_encode _)]

/-- The section header of a file is accepted. -/
theorem sectionHeaderError_block (hwf : b.WellFormed interfaces) (rest : Bytes) :
    (if b.type = typeSectionHeader then
      sectionHeaderError ((b.encode ++ rest).drop (Layout.size Block)) else none) = none := by
  by_cases htype : b.type = typeSectionHeader
  · rw [if_pos htype, drop_block]
    rw [FileBlock.type_eq_sectionHeader hwf] at htype
    cases b with
    | sectionHeader majorVersion minorVersion sectionLength options =>
      rw [FileBlock.body, List.append_assoc]
      exact sectionHeaderError_encode majorVersion minorVersion sectionLength _
    | interface => cases htype
    | enhanced => cases htype
    | simple => cases htype
    | other => cases htype
  · exact if_neg htype

/-- A block as a type and a body. -/
def FileBlock.raw (hwf : b.WellFormed interfaces) : RawBlock := ⟨b.type, b.body, hwf.aligned, hwf.fits⟩

/-- **Round trip.** A block is read from its image, whatever follows. -/
theorem parseBlock_encode (hwf : b.WellFormed interfaces) {offset : Nat}
    (hheader : offset = 0 → b.isSectionHeader = true) (rest : Bytes) :
    parseBlock interfaces offset (b.encode ++ rest) =
      .continues b.length (b.interfacesAfter interfaces)
        ((b.packet? interfaces).map fun p => .packet p.1 p.2) := by
  have hframe := (FileBlock.raw hwf).parseBlock_encode interfaces
    (fun hzero => (FileBlock.type_eq_sectionHeader hwf).mpr (hheader hzero)) rest
  have herror : (FileBlock.raw hwf).headerError rest = none := by
    have hblock := sectionHeaderError_block hwf rest
    rwa [drop_block] at hblock
  have hparsed : (FileBlock.raw hwf).parsed interfaces = _ := parseBody_body hwf
  rw [herror, hparsed] at hframe
  exact hframe

end Reading

/-! ## Files -/

/-- The image of a list of blocks. -/
def encodeBlocks (blocks : List FileBlock) : Bytes := blocks.flatMap FileBlock.encode

/-- The interfaces behind a list of blocks. -/
def interfacesAfter (interfaces : List PcapngInterface) (blocks : List FileBlock) :
    List PcapngInterface :=
  blocks.foldl FileBlock.interfacesAfter interfaces

/-- Every block is well formed behind those before it. -/
def WellFormed (interfaces : List PcapngInterface) : List FileBlock → Prop
  | [] => True
  | b :: blocks => b.WellFormed interfaces ∧ WellFormed (b.interfacesAfter interfaces) blocks

/-- The packets of a list of blocks, each with the offset behind its block. -/
def placedPackets (interfaces : List PcapngInterface) (offset : Nat) :
    List FileBlock → List (Nat × UInt32 × Bytes)
  | [] => []
  | b :: blocks =>
    ((b.packet? interfaces).map fun p => (offset + b.length, p)).toList ++
      placedPackets (b.interfacesAfter interfaces) (offset + b.length) blocks

/-- A little endian pcapng file: sections, each a section header with the blocks that
follow it. -/
structure PcapNGFile where
  blocks : List FileBlock
  header : ∀ b ∈ blocks.head?, b.isSectionHeader = true
  wellFormed : WellFormed [] blocks

namespace PcapNGFile

def encode (file : PcapNGFile) : Bytes := encodeBlocks file.blocks

/-- The link types and the bytes of the packet blocks, in order. -/
def packets (file : PcapNGFile) : List (UInt32 × Bytes) :=
  (placedPackets [] 0 file.blocks).map Prod.snd

end PcapNGFile

theorem length_encodeBlocks_cons (b : FileBlock) (blocks : List FileBlock) :
    (encodeBlocks (b :: blocks)).length = b.length + (encodeBlocks blocks).length := by
  rw [encodeBlocks, List.flatMap_cons, List.length_append, FileBlock.length_encode]
  rfl

/-- The calls of `processPacket` for a list of packets. -/
def calls (packets : List (Nat × UInt32 × Bytes)) : List ParseEvent :=
  packets.map fun p => .packet p.2.1 p.2.2

theorem calls_placedPackets_cons (interfaces : List PcapngInterface) (offset : Nat)
    (b : FileBlock) (blocks : List FileBlock) :
    calls (placedPackets interfaces offset (b :: blocks)) =
      ((b.packet? interfaces).map fun p => ParseEvent.packet p.1 p.2).toList ++
        calls (placedPackets (b.interfacesAfter interfaces) (offset + b.length) blocks) := by
  rw [placedPackets, calls, List.map_append]
  cases b.packet? interfaces with
  | none => rfl
  | some p => rfl

/-- One round of the loop on a block that is there. -/
theorem parseLoop_cons {interfaces : List PcapngInterface} {b : FileBlock}
    (hwf : b.WellFormed interfaces) {offset : Nat}
    (hheader : offset = 0 → b.isSectionHeader = true) (rest : Bytes) :
    parseLoop interfaces offset (b.encode ++ rest) =
      (((b.packet? interfaces).map fun p => ParseEvent.packet p.1 p.2).toList ++
          (parseLoop (b.interfacesAfter interfaces) (offset + b.length) rest).1,
        (parseLoop (b.interfacesAfter interfaces) (offset + b.length) rest).2) := by
  have hdrop : (b.encode ++ rest).drop b.length = rest := List.drop_left' b.length_encode
  rw [parseLoop_of_continues (parseBlock_encode hwf hheader rest), hdrop]

/-- **Run lemma.** The loop delivers the packets of the blocks that are there and goes on
behind them. -/
theorem parseLoop_append {interfaces : List PcapngInterface} {blocks : List FileBlock}
    (hwf : WellFormed interfaces blocks) (offset : Nat)
    (hheader : offset = 0 → ∀ b ∈ blocks.head?, b.isSectionHeader = true) (rest : Bytes) :
    parseLoop interfaces offset (encodeBlocks blocks ++ rest) =
      (calls (placedPackets interfaces offset blocks) ++
          (parseLoop (interfacesAfter interfaces blocks)
            (offset + (encodeBlocks blocks).length) rest).1,
        (parseLoop (interfacesAfter interfaces blocks)
          (offset + (encodeBlocks blocks).length) rest).2) := by
  induction blocks generalizing interfaces offset with
  | nil => rfl
  | cons b blocks ih =>
    have hoverhead := b.blockOverhead_le
    have h12 : blockOverhead = 12 := rfl
    have htail := ih hwf.2 (offset + b.length) (fun hzero => by omega)
    have hcons : encodeBlocks (b :: blocks) ++ rest = b.encode ++ (encodeBlocks blocks ++ rest) :=
      List.append_assoc _ _ _
    rw [hcons, parseLoop_cons hwf.1 (fun hzero => hheader hzero b rfl), htail,
      calls_placedPackets_cons, length_encodeBlocks_cons, List.append_assoc, ← Nat.add_assoc]
    rfl

/-! ## Delivery -/

section Delivery

variable {π : Type} [Libplist π]

/-- A parse that only delivers packets. -/
theorem foldl_perform_calls (f : InputFile π) (packets : List (Nat × UInt32 × Bytes)) :
    (calls packets).foldl perform f =
      packets.foldl (fun f p => (f.processPacket p.2.1 p.2.2).1) f := by
  rw [calls, List.foldl_map]
  rfl

/-- **Delivery.** The parser reads every file to its end, without an error or a warning of
its own, and calls `processPacket` for exactly the packets of the file, in order. -/
theorem packets_delivered (f : InputFile π) (file : PcapNGFile) :
    parseLoop [] 0 file.encode = (file.packets.map fun p => .packet p.1 p.2, none) ∧
      parse f file.encode =
        (file.packets.foldl (fun f p => (f.processPacket p.1 p.2).1) f, none) := by
  have hrun := parseLoop_append file.wellFormed 0 (fun _ => file.header) []
  have hend : parseLoop (interfacesAfter [] file.blocks)
      (0 + (encodeBlocks file.blocks).length) [] = ([], none) := by
    rw [parseLoop]
    rfl
  rw [hend, List.append_nil, List.append_nil] at hrun
  have hloop : parseLoop [] 0 file.encode = (calls (placedPackets [] 0 file.blocks), none) := hrun
  have hcalls : calls (placedPackets [] 0 file.blocks) =
      file.packets.map fun p => .packet p.1 p.2 := by
    rw [calls, PcapNGFile.packets, List.map_map]
    rfl
  constructor
  · rw [hloop, hcalls]
  · unfold parse
    rw [hloop]
    dsimp only
    rw [foldl_perform_calls, PcapNGFile.packets, List.foldl_map]

end Delivery

end DemuxUsb.PcapNGInputFile
