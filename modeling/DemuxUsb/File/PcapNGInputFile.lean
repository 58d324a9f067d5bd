import DemuxUsb.File.InputFile

/-!
# `PcapNGInputFile`

The pcapng reader. Nothing it reads depends on what became of the packets before, so its
loop is written as the list of what it does to the capture (`ParseEvent`), with the error
it throws, if it does; `parse` carries the list out.
-/

namespace DemuxUsb.PcapNGInputFile

/-- `BLOCK_OVERHEAD`: type and length at the start and the repeated length at the end. -/
def blockOverhead : Nat := 12

/-- `pcapng_interface` -/
structure PcapngInterface where
  linktype : UInt16
  snaplen : UInt32
  deriving DecidableEq

/-- A call of `processPacket` or of `warn`. -/
inductive ParseEvent where
  | packet (linktype : UInt32) (data : Bytes)
  | warning (text : String)
  deriving DecidableEq

/-- What the loop of `parse` does with a block: it throws, warns and stops, or goes on
behind the block. -/
inductive BlockResult where
  | throws (error : String)
  | stops (warning : String)
  | continues (length : Nat) (interfaces : List PcapngInterface) (event : Option ParseEvent)
  deriving DecidableEq

/-- The error thrown for the part of a section header behind type and length. -/
def sectionHeaderError (data : Bytes) : Option String :=
  match readStruct PcapngShb data with
  | none => some "Truncated PCAPNG section header block"
  | some sectionHeader =>
    if sectionHeader.byteOrderMagic = pcapngByteOrderMagicSwapped then
      some "Big endian PCAPNG captures are not supported"
    else if sectionHeader.byteOrderMagic ≠ pcapngByteOrderMagic then
      some "Corrupt PCAPNG section header byte order magic"
    else none

/-- `TIME_INTERFACE_DESCRIPTOR_BLOCK` -/
def parseInterface (interfaces : List PcapngInterface) (body : Bytes) :
    List PcapngInterface × Option ParseEvent :=
  match readStruct PcapInterfaceDescriptor body with
  | none => (interfaces, some (.warning "Truncated interface description block"))
  | some descriptor => (interfaces ++ [⟨descriptor.linktype, descriptor.snaplen⟩], none)

/-- `TYPE_ENHANCED_PACKET_BLOCK` -/
def parseEnhanced (interfaces : List PcapngInterface) (body : Bytes) : ParseEvent :=
  match readStruct PcapngEpb body with
  | none => .warning "Truncated enhanced packet block"
  | some epb =>
    match interfaces[epb.interfaceId.toNat]? with
    | none => .warning s!"Packet references undeclared interface {epb.interfaceId.toNat}"
    | some interface =>
      if body.length - Layout.size PcapngEpb < epb.capturedLen.toNat then
        .warning "Enhanced packet block data overruns the block"
      else
        .packet interface.linktype.toUInt32
          ((body.drop (Layout.size PcapngEpb)).take epb.capturedLen.toNat)

/-- How much of a simple packet block is the packet. -/
def simpleCaptured (interface : PcapngInterface) (packetLen : UInt32) (dataLength : Nat) : Nat :=
  let captured := min packetLen.toNat dataLength
  if interface.snaplen ≠ 0 then min captured interface.snaplen.toNat else captured

/-- `TYPE_SIMPLE_PACKET_BLOCK` -/
def parseSimple (interfaces : List PcapngInterface) (body : Bytes) : ParseEvent :=
  match readStruct PcapngSpb body, interfaces with
  | some spb, interface :: _ =>
    let data := body.drop (Layout.size PcapngSpb)
    .packet interface.linktype.toUInt32
      (data.take (simpleCaptured interface spb.packetLen data.length))
  | _, _ => .warning "Simple packet block without an interface"

/-- The switch over the block types. -/
def parseBody (interfaces : List PcapngInterface) (type : UInt32) (body : Bytes) :
    List PcapngInterface × Option ParseEvent :=
  if type = timeInterfaceDescriptorBlock then parseInterface interfaces body
  else if type = typeEnhancedPacketBlock then (interfaces, some (parseEnhanced interfaces body))
  else if type = typeSimplePacketBlock then (interfaces, some (parseSimple interfaces body))
  else (interfaces, none)

/-- One round of the loop. -/
def parseBlock (interfaces : List PcapngInterface) (offset : Nat) (blockStart : Bytes) :
    BlockResult :=
  match (if blockStart.length < blockOverhead then none else readStruct Block blockStart) with
  | none => .stops "Capture ends with a truncated block"
  | some block =>
    if offset = 0 ∧ block.type ≠ typeSectionHeader then
      .throws "Not a PCAPNG file: missing section header block"
    else
      match (if block.type = typeSectionHeader then
          sectionHeaderError (blockStart.drop (Layout.size Block)) else none) with
      | some error => .throws error
      | none =>
        -- interface ids are scoped to their section
        let interfaces := if block.type = typeSectionHeader then [] else interfaces
        let length := block.length.toNat
        if length < blockOverhead ∨ length % 4 ≠ 0 ∨ blockStart.length < length then
          if offset = 0 then .throws "Corrupt PCAPNG section header block length"
          else .stops s!"Corrupt or truncated block at offset {offset}; stopping"
        else
          let trailingLength := (readStruct UInt32 (blockStart.drop (length - 4))).getD 0
          if trailingLength ≠ block.length then
            if offset = 0 then .throws "Corrupt PCAPNG section header block"
            else .stops s!"Block at offset {offset} has mismatched trailing length; stopping"
          else
            let body := (blockStart.drop (Layout.size Block)).take (length - blockOverhead)
            let parsed := parseBody interfaces block.type body
            .continues length parsed.1 parsed.2

/-- The loop goes on only behind a block that is there. -/
theorem length_of_continues {interfaces interfaces' : List PcapngInterface} {offset length : Nat}
    {blockStart : Bytes} {event : Option ParseEvent}
    (h : parseBlock interfaces offset blockStart = .continues length interfaces' event) :
    0 < length ∧ length ≤ blockStart.length := by
  unfold parseBlock at h
  split at h
  · cases h
  · split at h
    · cases h
    · split at h
      · cases h
      · dsimp only at h
        split at h
        · split at h <;> cases h
        · rename_i hlength
          split at h
          · split at h <;> cases h
          · rw [BlockResult.continues.injEq] at h
            have hoverhead : blockOverhead = 12 := rfl
            omega

/-- The loop of `parse` at `offset`, and the error it throws, if it does. -/
def parseLoop (interfaces : List PcapngInterface) (offset : Nat) (data : Bytes) :
    List ParseEvent × Option String :=
  if data.length = 0 then ([], none)
  else
    match _hblock : parseBlock interfaces offset data with
    | .throws error => ([], some error)
    | .stops warning => ([.warning warning], none)
    | .continues length interfaces event =>
      let rest := parseLoop interfaces (offset + length) (data.drop length)
      (event.toList ++ rest.1, rest.2)
termination_by data.length
decreasing_by
  have hlength := length_of_continues _hblock
  rw [List.length_drop]
  omega

/-! ## Rounds of the loop -/

section Rounds

variable {interfaces interfaces' : List PcapngInterface} {offset length : Nat} {data : Bytes}

theorem parseLoop_of_continues {event : Option ParseEvent}
    (h : parseBlock interfaces offset data = .continues length interfaces' event) :
    parseLoop interfaces offset data =
      (event.toList ++ (parseLoop interfaces' (offset + length) (data.drop length)).1,
        (parseLoop interfaces' (offset + length) (data.drop length)).2) := by
  have hlength := length_of_continues h
  rw [parseLoop, if_neg (by omega)]
  split
  · rename_i error hblock
    rw [h] at hblock
    cases hblock
  · rename_i warning hblock
    rw [h] at hblock
    cases hblock
  · rename_i length' interfaces'' event' hblock
    rw [h] at hblock
    obtain ⟨rfl, rfl, rfl⟩ := BlockResult.continues.inj hblock
    rfl

theorem parseLoop_of_stops {warning : String} (h : parseBlock interfaces offset data = .stops warning)
    (hdata : 0 < data.length) : parseLoop interfaces offset data = ([.warning warning], none) := by
  rw [parseLoop, if_neg (by omega)]
  split
  · rename_i error hblock
    rw [h] at hblock
    cases hblock
  · rename_i warning' hblock
    rw [h] at hblock
    obtain rfl := BlockResult.stops.inj hblock
    rfl
  · rename_i length interfaces' event hblock
    rw [h] at hblock
    cases hblock

theorem parseLoop_of_throws {error : String} (h : parseBlock interfaces offset data = .throws error)
    (hdata : 0 < data.length) : parseLoop interfaces offset data = ([], some error) := by
  rw [parseLoop, if_neg (by omega)]
  split
  · rename_i error' hblock
    rw [h] at hblock
    obtain rfl := BlockResult.throws.inj hblock
    rfl
  · rename_i warning hblock
    rw [h] at hblock
    cases hblock
  · rename_i length interfaces' event hblock
    rw [h] at hblock
    cases hblock

end Rounds

/-! ## The capture -/

variable {π : Type} [Libplist π]

def perform (f : InputFile π) : ParseEvent → InputFile π
  | .packet linktype data => (f.processPacket linktype data).1
  | .warning text => f.warn text

/-- The capture after `parse`, and the `ParseError` it throws, if it does. -/
def parse (f : InputFile π) (data : Bytes) : InputFile π × Option String :=
  let parsed := parseLoop [] 0 data
  (parsed.1.foldl perform f, parsed.2)

end DemuxUsb.PcapNGInputFile
