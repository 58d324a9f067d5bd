import DemuxUsb.File.PacketBounds
import DemuxUsb.File.PcapInputFile

/-!
# Bounds of the capture readers

The loops of `PcapNGInputFile::parse` and `PcapInputFile::parse` with the offsets into the
file that the source computes. A round of a loop carries out its calls of `processPacket`
and `warn` at once, so the state of a loop has the capture in it.

* `PcapNGInputFile.parseChecked_eq`, `PcapInputFile.parseChecked_eq`: with more rounds than
  the file has bytes the loops end without a fault, with what `parse` returns.
* `hostile_files_in_bounds`: both, and the packets.
-/

namespace DemuxUsb

open Checked

variable {π : Type} [Libplist π]

/-! ## pcapng -/

namespace PcapNGInputFile

/-- What the loop of `parse` works on. -/
structure ParseState (π : Type) where
  capture : InputFile π
  offset : Nat := 0
  interfaces : List PcapngInterface := []

/-- The block header at an offset. -/
def blockChecked (file : Bytes) (offset remaining : Nat) : Except Fault (Option Block) :=
  if remaining < blockOverhead then .ok none else readStructAt Block file offset remaining

/-- The error thrown for the section header behind a block header, if it is one. -/
def sectionHeaderChecked (file : Bytes) (type : UInt32) (offset remaining : Nat) :
    Except Fault (Option String) :=
  if type = typeSectionHeader then do
    let available ← sub remaining (Layout.size Block)
    match ← readStructAt PcapngShb file (offset + Layout.size Block) available with
    | none => .ok (some "Truncated PCAPNG section header block")
    | some sectionHeader =>
      if sectionHeader.byteOrderMagic = pcapngByteOrderMagicSwapped then
        .ok (some "Big endian PCAPNG captures are not supported")
      else if sectionHeader.byteOrderMagic ≠ pcapngByteOrderMagic then
        .ok (some "Corrupt PCAPNG section header byte order magic")
      else .ok none
  else .ok none

/-- `TIME_INTERFACE_DESCRIPTOR_BLOCK` -/
def interfaceChecked (file : Bytes) (interfaces : List PcapngInterface)
    (body bodyLength : Nat) : Except Fault (List PcapngInterface × Option ParseEvent) := do
  match ← readStructAt PcapInterfaceDescriptor file body bodyLength with
  | none => .ok (interfaces, some (.warning "Truncated interface description block"))
  | some descriptor => .ok (interfaces ++ [⟨descriptor.linktype, descriptor.snaplen⟩], none)

/-- `TYPE_ENHANCED_PACKET_BLOCK` -/
def enhancedChecked (file : Bytes) (interfaces : List PcapngInterface)
    (body bodyLength : Nat) : Except Fault ParseEvent := do
  match ← readStructAt PcapngEpb file body bodyLength with
  | none => .ok (.warning "Truncated enhanced packet block")
  | some epb =>
    match interfaces[epb.interfaceId.toNat]? with
    | none => .ok (.warning s!"Packet references undeclared interface {epb.interfaceId.toNat}")
    | some interface =>
      let behind ← sub bodyLength (Layout.size PcapngEpb)
      if behind < epb.capturedLen.toNat then
        .ok (.warning "Enhanced packet block data overruns the block")
      else
        let packet ← slice file (body + Layout.size PcapngEpb) epb.capturedLen.toNat
        .ok (.packet interface.linktype.toUInt32 packet)

/-- `TYPE_SIMPLE_PACKET_BLOCK` -/
def simpleChecked (file : Bytes) (interfaces : List PcapngInterface) (body bodyLength : Nat) :
    Except Fault ParseEvent := do
  match ← readStructAt PcapngSpb file body bodyLength, interfaces with
  | some spb, interface :: _ =>
    let behind ← sub bodyLength (Layout.size PcapngSpb)
    let packet ← slice file (body + Layout.size PcapngSpb)
      (simpleCaptured interface spb.packetLen behind)
    .ok (.packet interface.linktype.toUInt32 packet)
  | _, _ => .ok (.warning "Simple packet block without an interface")

/-- The switch over the block types. -/
def bodyChecked (file : Bytes) (interfaces : List PcapngInterface) (type : UInt32)
    (body bodyLength : Nat) : Except Fault (List PcapngInterface × Option ParseEvent) :=
  if type = timeInterfaceDescriptorBlock then interfaceChecked file interfaces body bodyLength
  else if type = typeEnhancedPacketBlock then do
    .ok (interfaces, some (← enhancedChecked file interfaces body bodyLength))
  else if type = typeSimplePacketBlock then do
    .ok (interfaces, some (← simpleChecked file interfaces body bodyLength))
  else .ok (interfaces, none)

/-- `perform`, with the packet read inside its bounds. -/
def performChecked (f : InputFile π) : Option ParseEvent → Except Fault (InputFile π)
  | none => .ok f
  | some (.packet linktype data) => do .ok (← f.processPacketChecked linktype data).1
  | some (.warning text) => .ok (f.warn text)

/-- One round of the loop of `parse`. -/
def parseStep (file : Bytes) (s : ParseState π) :
    Except Fault (ParseState π ⊕ InputFile π × Option String) :=
  if file.length ≤ s.offset then .ok (.inr (s.capture, none))
  else do
    let remaining ← sub file.length s.offset
    match ← blockChecked file s.offset remaining with
    | none => .ok (.inr (s.capture.warn "Capture ends with a truncated block", none))
    | some block =>
      if s.offset = 0 ∧ block.type ≠ typeSectionHeader then
        .ok (.inr (s.capture, some "Not a PCAPNG file: missing section header block"))
      else
        match ← sectionHeaderChecked file block.type s.offset remaining with
        | some error => .ok (.inr (s.capture, some error))
        | none =>
          -- interface ids are scoped to their section
          let interfaces := if block.type = typeSectionHeader then [] else s.interfaces
          let length := block.length.toNat
          if length < blockOverhead ∨ length % 4 ≠ 0 ∨ remaining < length then
            if s.offset = 0 then
              .ok (.inr (s.capture, some "Corrupt PCAPNG section header block length"))
            else
              .ok (.inr (s.capture.warn
                s!"Corrupt or truncated block at offset {s.offset}; stopping", none))
          else
            let trailer ← sub (s.offset + length) 4
            let trailingLength ← readStructAt UInt32 file trailer 4
            if trailingLength.getD 0 ≠ block.length then
              if s.offset = 0 then
                .ok (.inr (s.capture, some "Corrupt PCAPNG section header block"))
              else
                .ok (.inr (s.capture.warn
                  s!"Block at offset {s.offset} has mismatched trailing length; stopping", none))
            else
              let bodyLength ← sub length blockOverhead
              let parsed ←
                bodyChecked file interfaces block.type (s.offset + Layout.size Block) bodyLength
              let capture ← performChecked s.capture parsed.2
              .ok (.inl ⟨capture, s.offset + length, parsed.1⟩)

/-- `parse` with at most so many rounds of its loop. -/
def parseChecked (rounds : Nat) (f : InputFile π) (file : Bytes) :
    Except Fault (InputFile π × Option String) :=
  loop (parseStep file) rounds { capture := f }

/-! ### Blocks -/

section Blocks

variable {file : Bytes} {offset body bodyLength : Nat}

theorem blockChecked_eq (h : offset ≤ file.length) :
    blockChecked file offset (file.length - offset) =
      .ok (if (file.drop offset).length < blockOverhead then none
        else readStruct Block (file.drop offset)) := by
  unfold blockChecked
  rw [List.length_drop]
  split
  · rfl
  · exact readStructAt_drop h

theorem sectionHeaderChecked_eq (type : UInt32) (h : offset + blockOverhead ≤ file.length) :
    sectionHeaderChecked file type offset (file.length - offset) =
      .ok (if type = typeSectionHeader then
        sectionHeaderError ((file.drop offset).drop (Layout.size Block)) else none) := by
  have height : Layout.size Block = 8 := rfl
  have hoverhead : blockOverhead = 12 := rfl
  have hbehind : file.length - offset - Layout.size Block =
      file.length - (offset + Layout.size Block) := by omega
  unfold sectionHeaderChecked sectionHeaderError
  split
  · rw [sub_of_le (by omega), ok_bind, hbehind, readStructAt_drop (by omega), ok_bind,
      List.drop_drop]
    cases readStruct PcapngShb (file.drop (offset + Layout.size Block)) with
    | none => rfl
    | some sectionHeader =>
      dsimp only
      split
      · rfl
      · split
        · rfl
        · rfl
  · rfl

theorem interfaceChecked_eq (interfaces : List PcapngInterface)
    (h : body + bodyLength ≤ file.length) :
    interfaceChecked file interfaces body bodyLength =
      .ok (parseInterface interfaces ((file.drop body).take bodyLength)) := by
  unfold interfaceChecked parseInterface
  rw [readStructAt_eq h, ok_bind]
  cases readStruct PcapInterfaceDescriptor ((file.drop body).take bodyLength) with
  | none => rfl
  | some descriptor => rfl

theorem enhancedChecked_eq (interfaces : List PcapngInterface)
    (h : body + bodyLength ≤ file.length) :
    enhancedChecked file interfaces body bodyLength =
      .ok (parseEnhanced interfaces ((file.drop body).take bodyLength)) := by
  have hlen : ((file.drop body).take bodyLength).length = bodyLength := by
    rw [List.length_take, List.length_drop]
    omega
  unfold enhancedChecked parseEnhanced
  rw [readStructAt_eq h, ok_bind]
  cases hepb : readStruct PcapngEpb ((file.drop body).take bodyLength) with
  | none => rfl
  | some epb =>
    have hsize := size_le_of_readStruct hepb
    rw [hlen] at hsize
    dsimp only
    cases interfaces[epb.interfaceId.toNat]? with
    | none => rfl
    | some interface =>
      dsimp only
      rw [sub_of_le hsize, ok_bind, hlen]
      split
      · rfl
      · rename_i hcaptured
        rw [slice_of_le (by omega), ok_bind, List.drop_take, List.take_take, List.drop_drop,
          Nat.min_eq_left (by omega)]

theorem simpleCaptured_le (interface : PcapngInterface) (packetLen : UInt32) (dataLength : Nat) :
    simpleCaptured interface packetLen dataLength ≤ dataLength := by
  unfold simpleCaptured
  dsimp only
  split
  · omega
  · omega

theorem simpleChecked_eq (interfaces : List PcapngInterface)
    (h : body + bodyLength ≤ file.length) :
    simpleChecked file interfaces body bodyLength =
      .ok (parseSimple interfaces ((file.drop body).take bodyLength)) := by
  have hlen : ((file.drop body).take bodyLength).length = bodyLength := by
    rw [List.length_take, List.length_drop]
    omega
  unfold simpleChecked parseSimple
  rw [readStructAt_eq h, ok_bind]
  cases hspb : readStruct PcapngSpb ((file.drop body).take bodyLength) with
  | none => rfl
  | some spb =>
    have hsize := size_le_of_readStruct hspb
    rw [hlen] at hsize
    cases interfaces with
    | nil => rfl
    | cons interface rest =>
      have hcaptured := simpleCaptured_le interface spb.packetLen
        (bodyLength - Layout.size PcapngSpb)
      dsimp only
      rw [sub_of_le hsize, ok_bind, slice_of_le (by omega), ok_bind, List.length_drop, hlen,
        List.drop_take, List.take_take, List.drop_drop, Nat.min_eq_left hcaptured]

theorem bodyChecked_eq (interfaces : List PcapngInterface) (type : UInt32)
    (h : body + bodyLength ≤ file.length) :
    bodyChecked file interfaces type body bodyLength =
      .ok (parseBody interfaces type ((file.drop body).take bodyLength)) := by
  unfold bodyChecked parseBody
  rw [interfaceChecked_eq interfaces h, enhancedChecked_eq interfaces h,
    simpleChecked_eq interfaces h]
  repeat' split
  all_goals rfl

theorem performChecked_eq (f : InputFile π) (event : Option ParseEvent) :
    performChecked f event = .ok (event.toList.foldl perform f) := by
  cases event with
  | none => rfl
  | some event =>
    cases event with
    | packet linktype data =>
      show (f.processPacketChecked linktype data >>= fun r => .ok r.1) = _
      rw [InputFile.processPacketChecked_eq, ok_bind]
      rfl
    | warning text => rfl

end Blocks

/-! ### Rounds -/

/-- What a round makes of the block at the offset. -/
def afterBlock (s : ParseState π) : BlockResult → ParseState π ⊕ InputFile π × Option String
  | .throws error => .inr (s.capture, some error)
  | .stops warning => .inr (s.capture.warn warning, none)
  | .continues length interfaces event =>
    .inl ⟨event.toList.foldl perform s.capture, s.offset + length, interfaces⟩

/-- **Step lemma.** A round has no fault. -/
theorem parseStep_eq {file : Bytes} {s : ParseState π} (h : s.offset < file.length) :
    parseStep file s =
      .ok (afterBlock s (parseBlock s.interfaces s.offset (file.drop s.offset))) := by
  have hoverhead : blockOverhead = 12 := rfl
  have height : Layout.size Block = 8 := rfl
  have hremaining : (file.drop s.offset).length = file.length - s.offset := List.length_drop
  unfold parseStep parseBlock
  rw [if_neg (by omega), sub_of_le (by omega), ok_bind, blockChecked_eq (by omega), ok_bind]
  cases hblock : (if (file.drop s.offset).length < blockOverhead then none
      else readStruct Block (file.drop s.offset)) with
  | none => rfl
  | some block =>
    have hlong : s.offset + blockOverhead ≤ file.length := by
      rw [Option.ite_none_left_eq_some] at hblock
      omega
    dsimp only
    split
    · rfl
    rw [sectionHeaderChecked_eq block.type hlong, ok_bind]
    cases (if block.type = typeSectionHeader then
        sectionHeaderError ((file.drop s.offset).drop (Layout.size Block)) else none) with
    | some error => rfl
    | none =>
      dsimp only
      rw [hremaining]
      split
      · split
        · rfl
        · rfl
      · rename_i hlength
        have htrailer : s.offset + block.length.toNat - 4 = s.offset + (block.length.toNat - 4) := by
          omega
        have hfour : ∀ r : Bytes, readStruct UInt32 (r.take 4) = readStruct UInt32 r :=
          readStruct_take_size
        rw [sub_of_le (by omega), ok_bind, readStructAt_eq (by omega), ok_bind, htrailer,
          hfour, ← List.drop_drop]
        split
        · split
          · rfl
          · rfl
        · rw [sub_of_le (by omega), ok_bind, bodyChecked_eq _ _ (by omega), ok_bind,
            performChecked_eq, ok_bind, List.drop_drop]
          rfl

/-- What `parse` makes of the rest of the file. -/
def parseRest (file : Bytes) (s : ParseState π) : InputFile π × Option String :=
  let parsed := parseLoop s.interfaces s.offset (file.drop s.offset)
  (parsed.1.foldl perform s.capture, parsed.2)

/-- A round makes the rest of the file shorter. -/
theorem parseStep_parseRest {file : Bytes} {s : ParseState π} (hinv : s.offset ≤ file.length) :
    parseStep file s = .ok (.inr (parseRest file s)) ∨
      ∃ s', parseStep file s = .ok (.inl s') ∧ s'.offset ≤ file.length ∧
        file.length - s'.offset < file.length - s.offset ∧ parseRest file s' = parseRest file s := by
  have hremaining : (file.drop s.offset).length = file.length - s.offset := List.length_drop
  rcases Nat.lt_or_eq_of_le hinv with hlt | hend
  · rw [parseStep_eq hlt]
    unfold parseRest
    cases hblock : parseBlock s.interfaces s.offset (file.drop s.offset) with
    | throws error =>
      rw [parseLoop_of_throws hblock (by omega)]
      exact Or.inl rfl
    | stops warning =>
      rw [parseLoop_of_stops hblock (by omega)]
      exact Or.inl rfl
    | continues length interfaces event =>
      have hlength := length_of_continues hblock
      refine Or.inr ⟨_, rfl, ?_, ?_, ?_⟩
      · show s.offset + length ≤ file.length
        omega
      · show file.length - (s.offset + length) < file.length - s.offset
        omega
      · dsimp only
        rw [parseLoop_of_continues hblock, List.drop_drop, List.foldl_append]
  · refine Or.inl ?_
    have hnil : file.drop s.offset = [] := List.drop_eq_nil_of_le (by omega)
    unfold parseStep parseRest
    rw [if_pos (by omega), hnil, parseLoop]
    rfl

/-- **Run lemma.** The loop ends, and has no fault. -/
theorem parseChecked_eq (f : InputFile π) {file : Bytes} {rounds : Nat}
    (hrounds : file.length < rounds) : parseChecked rounds f file = .ok (parse f file) := by
  have hstart : ({ capture := f } : ParseState π).offset ≤ file.length := Nat.zero_le _
  exact loop_eq (fun s => parseStep_parseRest) hstart hrounds

end PcapNGInputFile

/-! ## Classic pcap -/

namespace PcapInputFile

open PcapNGInputFile (ParseEvent perform)

/-- What the loop of `parse` works on. -/
structure ParseState (π : Type) where
  capture : InputFile π
  offset : Nat

/-- One round of the loop of `parse`. -/
def parseStep (linktype : UInt32) (swapped : Bool) (file : Bytes) (s : ParseState π) :
    Except Fault (ParseState π ⊕ InputFile π × Option String) :=
  if file.length ≤ s.offset then .ok (.inr (s.capture, none))
  else do
    let remaining ← sub file.length s.offset
    match ← readStructAt PcapRecordHeader file s.offset remaining with
    | none => .ok (.inr (s.capture.warn "Capture ends with a truncated record header", none))
    | some record =>
      let included := (value swapped record.inclLen).toNat
      let behind ← sub remaining (Layout.size PcapRecordHeader)
      if behind < included then
        .ok (.inr (s.capture.warn s!"Record at offset {s.offset} overruns the file; stopping", none))
      else
        let packet ← slice file (s.offset + Layout.size PcapRecordHeader) included
        let processed ← s.capture.processPacketChecked linktype packet
        .ok (.inl ⟨processed.1, s.offset + (Layout.size PcapRecordHeader + included)⟩)

/-- `parse` with at most so many rounds of its loop. -/
def parseChecked (rounds : Nat) (f : InputFile π) (file : Bytes) :
    Except Fault (InputFile π × Option String) := do
  match ← readStructAt PcapFileHeader file 0 file.length with
  | none => .ok (f, some "Truncated pcap file header")
  | some header =>
    match byteOrder header.magic with
    | none => .ok (f, some "Not a pcap file: bad magic")
    | some swapped =>
      loop (parseStep (linktypeOf swapped header) swapped file) rounds
        ⟨f, Layout.size PcapFileHeader⟩

/-- What a round makes of the record at the offset. -/
def afterRecord (linktype : UInt32) (file : Bytes) (s : ParseState π) :
    RecordResult → ParseState π ⊕ InputFile π × Option String
  | .stops warning => .inr (s.capture.warn warning, none)
  | .continues included =>
    .inl ⟨perform s.capture (.packet linktype
        (((file.drop s.offset).drop (Layout.size PcapRecordHeader)).take included)),
      s.offset + (Layout.size PcapRecordHeader + included)⟩

/-- **Step lemma.** A round has no fault. -/
theorem parseStep_eq (linktype : UInt32) (swapped : Bool) {file : Bytes} {s : ParseState π}
    (h : s.offset < file.length) :
    parseStep linktype swapped file s =
      .ok (afterRecord linktype file s (parseRecord swapped s.offset (file.drop s.offset))) := by
  have hremaining : (file.drop s.offset).length = file.length - s.offset := List.length_drop
  unfold parseStep parseRecord
  rw [if_neg (by omega), sub_of_le (by omega), ok_bind, readStructAt_drop (by omega), ok_bind]
  cases hrecord : readStruct PcapRecordHeader (file.drop s.offset) with
  | none => rfl
  | some record =>
    have hsize := size_le_of_readStruct hrecord
    rw [hremaining] at hsize
    dsimp only
    rw [sub_of_le hsize, ok_bind, hremaining]
    split
    · rfl
    · rename_i hincluded
      rw [slice_of_le (by omega), ok_bind, InputFile.processPacketChecked_eq, ok_bind,
        ← List.drop_drop]
      rfl

/-- What `parse` makes of the rest of the file. -/
def parseRest (linktype : UInt32) (swapped : Bool) (file : Bytes) (s : ParseState π) :
    InputFile π × Option String :=
  ((parseLoop linktype swapped s.offset (file.drop s.offset)).foldl perform s.capture, none)

/-- A round makes the rest of the file shorter. -/
theorem parseStep_parseRest (linktype : UInt32) (swapped : Bool) {file : Bytes}
    {s : ParseState π} (hinv : s.offset ≤ file.length) :
    parseStep linktype swapped file s = .ok (.inr (parseRest linktype swapped file s)) ∨
      ∃ s', parseStep linktype swapped file s = .ok (.inl s') ∧ s'.offset ≤ file.length ∧
        file.length - s'.offset < file.length - s.offset ∧
        parseRest linktype swapped file s' = parseRest linktype swapped file s := by
  have hremaining : (file.drop s.offset).length = file.length - s.offset := List.length_drop
  rcases Nat.lt_or_eq_of_le hinv with hlt | hend
  · rw [parseStep_eq linktype swapped hlt]
    unfold parseRest
    cases hrecord : parseRecord swapped s.offset (file.drop s.offset) with
    | stops warning =>
      rw [parseLoop_of_stops hrecord (by omega)]
      exact Or.inl rfl
    | continues included =>
      have hlength := length_of_continues hrecord
      have hsixteen : Layout.size PcapRecordHeader = 16 := rfl
      refine Or.inr ⟨_, rfl, ?_, ?_, ?_⟩
      · show s.offset + (Layout.size PcapRecordHeader + included) ≤ file.length
        omega
      · show file.length - (s.offset + (Layout.size PcapRecordHeader + included)) <
          file.length - s.offset
        omega
      · dsimp only
        rw [parseLoop_of_continues hrecord, List.foldl_cons]
        simp only [List.drop_drop]
  · refine Or.inl ?_
    have hnil : file.drop s.offset = [] := List.drop_eq_nil_of_le (by omega)
    unfold parseStep parseRest
    rw [if_pos (by omega), hnil, parseLoop]
    rfl

/-- **Run lemma.** The loop ends, and has no fault. -/
theorem parseChecked_eq (f : InputFile π) {file : Bytes} {rounds : Nat}
    (hrounds : file.length < rounds) : parseChecked rounds f file = .ok (parse f file) := by
  unfold parseChecked parse
  rw [readStructAt_zero, ok_bind]
  cases hheader : readStruct PcapFileHeader file with
  | none => rfl
  | some header =>
    have hstart := size_le_of_readStruct hheader
    have hmeasure : file.length - Layout.size PcapFileHeader < rounds := by omega
    dsimp only
    cases byteOrder header.magic with
    | none => rfl
    | some swapped =>
      let start : ParseState π := ⟨f, Layout.size PcapFileHeader⟩
      have hinv : start.offset ≤ file.length := hstart
      exact loop_eq (fun s => parseStep_parseRest (linktypeOf swapped header) swapped) hinv hmeasure

end PcapInputFile

/-! ## Hostile files -/

/-- **Bounds.** Whatever the file is, both readers end, having read every structure and
sliced every packet inside the file and subtracted no larger number from a smaller one;
and whatever the link type and the packet are, so does `processPacket` inside the packet.
What they return is what the model of them returns. -/
theorem hostile_files_in_bounds (f : InputFile π) (file : Bytes) :
    (∀ rounds, file.length < rounds →
      PcapNGInputFile.parseChecked rounds f file = .ok (PcapNGInputFile.parse f file) ∧
      PcapInputFile.parseChecked rounds f file = .ok (PcapInputFile.parse f file)) ∧
    ∀ (linktype : UInt32) (data : Bytes),
      f.processPacketChecked linktype data = .ok (f.processPacket linktype data) := by
  refine ⟨?_, ?_⟩
  · intro rounds hrounds
    exact ⟨PcapNGInputFile.parseChecked_eq f hrounds, PcapInputFile.parseChecked_eq f hrounds⟩
  · intro linktype data
    exact f.processPacketChecked_eq linktype data

end DemuxUsb
