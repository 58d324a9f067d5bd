import DemuxUsb.File.CaptureSessions
import DemuxUsb.File.PcapCuts
import DemuxUsb.Library.Scanner

/-!
# From a file to its devices

`InputFile.open` chooses the reader by the magic number of the file, and the readers check it
again. What a file delivers is a matter of its bytes alone.

* `Reader.checks_agree`: a reader that was chosen never finds that the file is of the other
  kind, and what it can still find;
* `delivered_take`: the first bytes of any file deliver the first packets of the file;
* `containers_agree`: the same packets in a classic file and in a pcapng file are the same
  capture.
-/

namespace DemuxUsb

open PcapNGInputFile (ParseEvent perform packetCalls ownWarnings PcapngInterface blockOverhead
  sectionHeaderError parseBody PcapNGFile)

/-! ## Opening a file -/

/-- The two classes of files. -/
inductive Reader where
  | pcapng
  | pcap
  deriving DecidableEq

/-- The switch of `InputFile::open` over the magic. -/
def Reader.ofMagic (magic : UInt32) : Option Reader :=
  if magic = typeSectionHeader then some .pcapng
  else if magic = pcapMagicMicroseconds ∨ magic = pcapMagicNanoseconds ∨
      magic = pcapMagicMicrosecondsSwapped ∨ magic = pcapMagicNanosecondsSwapped then some .pcap
  else none

/-- What the reader does to the capture, and the `ParseError` it throws, if it does. -/
def Reader.events : Reader → Bytes → List ParseEvent × Option String
  | pcapng, data => PcapNGInputFile.parseLoop [] 0 data
  | pcap, data => PcapInputFile.parseEvents data

namespace InputFile

/-- `InputFile::open` of a path with what the file holds, if there is one. -/
def «open» (path : String) (file : Option Bytes) : Except String Reader :=
  match file with
  | none => .error s!"Unable to open {path}"
  | some data =>
    match readStruct UInt32 data with
    | none => .error s!"{path} is too short to be a capture"
    | some magic =>
      match Reader.ofMagic magic with
      | none => .error s!"{path} is not a pcap or pcapng capture"
      | some reader => .ok reader

end InputFile

/-- `parse` of the class that was chosen. -/
def Reader.parse {π : Type} [Libplist π] (reader : Reader) (f : InputFile π) (data : Bytes) :
    InputFile π × Option String :=
  match reader with
  | pcapng => PcapNGInputFile.parse f data
  | pcap => PcapInputFile.parse f data

theorem Reader.parse_eq {π : Type} [Libplist π] (reader : Reader) (f : InputFile π)
    (data : Bytes) :
    reader.parse f data =
      ((reader.events data).1.foldl perform f, (reader.events data).2) := by
  cases reader with
  | pcapng => rfl
  | pcap => exact PcapInputFile.parse_eq f data

/-! ## Blocks that are there -/

namespace PcapNGInputFile

/-- The body of a block. -/
def bodyOf (data : Bytes) (block : Block) : Bytes :=
  (data.drop (Layout.size Block)).take (block.length.toNat - blockOverhead)

/-- The checks of a block that the loop goes on behind. -/
structure Passes (offset : Nat) (data : Bytes) (block : Block) : Prop where
  overhead : blockOverhead ≤ data.length
  read : readStruct Block data = some block
  first : ¬ (offset = 0 ∧ block.type ≠ typeSectionHeader)
  header : (if block.type = typeSectionHeader then
    sectionHeaderError (data.drop (Layout.size Block)) else none) = none
  framed : ¬ (block.length.toNat < blockOverhead ∨ block.length.toNat % 4 ≠ 0 ∨
    data.length < block.length.toNat)
  trailing : (readStruct UInt32 (data.drop (block.length.toNat - 4))).getD 0 = block.length

section Blocks

variable {interfaces interfaces' : List PcapngInterface} {offset length : Nat} {data : Bytes}
  {event : Option ParseEvent}

theorem parseBlock_of_passes {block : Block} (h : Passes offset data block) :
    parseBlock interfaces offset data =
      .continues block.length.toNat
        (parseBody (if block.type = typeSectionHeader then [] else interfaces) block.type
          (bodyOf data block)).1
        (parseBody (if block.type = typeSectionHeader then [] else interfaces) block.type
          (bodyOf data block)).2 := by
  have hoverhead : ¬ data.length < blockOverhead := Nat.not_lt.mpr h.overhead
  unfold parseBlock
  rw [if_neg hoverhead, h.read]
  dsimp only
  rw [if_neg h.first, h.header]
  dsimp only
  rw [if_neg h.framed, if_neg (not_not_intro h.trailing)]
  rfl

theorem passes_of_continues
    (h : parseBlock interfaces offset data = .continues length interfaces' event) :
    ∃ block, Passes offset data block := by
  unfold parseBlock at h
  split at h
  · cases h
  · next block hread =>
    rw [Option.ite_none_left_eq_some] at hread
    split at h
    · cases h
    · next hfirst =>
      split at h
      · cases h
      · next hheader =>
        dsimp only at h
        split at h
        · split at h <;> cases h
        · next hframed =>
          split at h
          · split at h <;> cases h
          · next htrailing =>
            exact ⟨block, Nat.not_lt.mp hread.1, hread.2, hfirst, hheader, hframed,
              not_not.mp htrailing⟩

/-- What is read of a block does not depend on the bytes behind it. -/
theorem Passes.append {block : Block} (h : Passes offset data block) (rest : Bytes) :
    Passes offset (data ++ rest) block ∧ bodyOf (data ++ rest) block = bodyOf data block := by
  have hoverhead := h.overhead
  have hframed := h.framed
  have htwelve : blockOverhead = 12 := rfl
  have hblock : Layout.size Block = 8 := rfl
  have hword : Layout.size UInt32 = 4 := rfl
  have hlength : (data ++ rest).length = data.length + rest.length := List.length_append
  refine ⟨⟨by omega, ?_, h.first, ?_, by omega, ?_⟩, ?_⟩
  · rw [readStruct_append (by omega), h.read]
  · have hheader := h.header
    by_cases htype : block.type = typeSectionHeader
    · rw [if_pos htype] at hheader ⊢
      rw [List.drop_append_of_le_length (by omega), sectionHeaderError_append ?_, hheader]
      -- a header that is cut is an error
      by_contra hshort
      rw [sectionHeaderError, readStruct_of_lt (Nat.not_le.mp hshort)] at hheader
      cases hheader
    · exact if_neg htype
  · rw [List.drop_append_of_le_length (by omega), readStruct_append, h.trailing]
    rw [List.length_drop]
    omega
  · rw [bodyOf, bodyOf, List.drop_append_of_le_length (by omega), List.take_append_of_le_length]
    rw [List.length_drop]
    omega

theorem parseBlock_append
    (h : parseBlock interfaces offset data = .continues length interfaces' event) (rest : Bytes) :
    parseBlock interfaces offset (data ++ rest) = .continues length interfaces' event := by
  obtain ⟨block, hpasses⟩ := passes_of_continues h
  obtain ⟨happend, hbody⟩ := hpasses.append rest
  rw [parseBlock_of_passes happend, hbody, ← parseBlock_of_passes hpasses, h]

end Blocks

/-- The rounds that the loop goes on behind. -/
def blocks : Scanning.Scanner (List PcapngInterface × Nat) UInt8 ParseEvent where
  next s data :=
    match parseBlock s.1 s.2 data with
    | .throws _ => none
    | .stops _ => none
    | .continues length interfaces event => some ⟨(interfaces, s.2 + length), event, length⟩
  used_pos := by
    intro s data r h
    split at h
    · cases h
    · cases h
    · next hblock =>
      rw [← Option.some.inj h]
      exact (length_of_continues hblock).1
  used_le := by
    intro s data r h
    split at h
    · cases h
    · cases h
    · next hblock =>
      rw [← Option.some.inj h]
      exact (length_of_continues hblock).2
  stable := by
    intro s data r h rest
    split at h
    · cases h
    · cases h
    · next hblock =>
      rw [parseBlock_append hblock]
      exact h

/-- All packets come from these rounds. -/
theorem packetCalls_parseLoop (s : List PcapngInterface × Nat) (data : Bytes) :
    packetCalls (parseLoop s.1 s.2 data).1 = packetCalls (blocks.run s data) := by
  induction s, data using Scanning.Scanner.run_induction (S := blocks) with
  | stop s data h =>
    rw [Scanning.Scanner.run_of_none h]
    by_cases hdata : data.length = 0
    · rw [parseLoop, if_pos hdata]
    · simp only [blocks] at h
      split at h
      · next hblock => rw [parseLoop_of_throws hblock (by omega)]
      · next hblock =>
        rw [parseLoop_of_stops hblock (by omega)]
        rfl
      · cases h
  | take s data r h ih =>
    rw [Scanning.Scanner.run_of_some h]
    simp only [blocks] at h
    split at h
    · cases h
    · cases h
    · next hblock =>
      obtain rfl := Option.some.inj h
      rw [parseLoop_of_continues hblock, packetCalls, List.filterMap_append, packetCalls,
        List.filterMap_append]
      exact congrArg _ ih

end PcapNGInputFile

/-! ## Records that are there -/

namespace PcapInputFile

theorem parseRecord_append {swapped : Bool} {offset included : Nat} {data : Bytes}
    (h : parseRecord swapped offset data = .continues included) (rest : Bytes) :
    parseRecord swapped offset (data ++ rest) = .continues included := by
  unfold parseRecord at h ⊢
  cases hread : readStruct PcapRecordHeader data with
  | none =>
    rw [hread] at h
    cases h
  | some record =>
    rw [hread] at h
    rw [readStruct_append (size_le_of_readStruct hread), hread]
    dsimp only at h ⊢
    split at h
    · cases h
    · next hincluded =>
      rw [if_neg, h]
      rw [List.length_append]
      omega

/-- The rounds that the loop goes on behind. -/
def records (linktype : UInt32) (swapped : Bool) : Scanning.Scanner Nat UInt8 ParseEvent where
  next offset data :=
    if let .continues included := parseRecord swapped offset data then
      some ⟨offset + (Layout.size PcapRecordHeader + included),
        some (.packet linktype ((data.drop (Layout.size PcapRecordHeader)).take included)),
        Layout.size PcapRecordHeader + included⟩
    else none
  used_pos := by
    intro offset data r h
    split at h
    · have hsixteen : Layout.size PcapRecordHeader = 16 := rfl
      rw [← Option.some.inj h]
      dsimp only
      omega
    · cases h
  used_le := by
    intro offset data r h
    split at h
    · next hrecord =>
      rw [← Option.some.inj h]
      exact length_of_continues hrecord
    · cases h
  stable := by
    intro offset data r h rest
    split at h
    · next included hrecord =>
      have hlength := length_of_continues hrecord
      rw [parseRecord_append hrecord]
      dsimp only
      rw [List.drop_append_of_le_length (by omega), List.take_append_of_le_length, h]
      rw [List.length_drop]
      omega
    · cases h

theorem records_next_of_stops {linktype : UInt32} {swapped : Bool} {offset : Nat} {data : Bytes}
    {warning : String} (h : parseRecord swapped offset data = .stops warning) :
    (records linktype swapped).next offset data = none := by
  simp only [records, h]

theorem records_next_of_continues {linktype : UInt32} {swapped : Bool} {offset included : Nat}
    {data : Bytes} (h : parseRecord swapped offset data = .continues included) :
    (records linktype swapped).next offset data =
      some ⟨offset + (Layout.size PcapRecordHeader + included),
        some (.packet linktype ((data.drop (Layout.size PcapRecordHeader)).take included)),
        Layout.size PcapRecordHeader + included⟩ := by
  simp only [records, h]

/-- All packets come from these rounds. -/
theorem packetCalls_parseLoop (linktype : UInt32) (swapped : Bool) (offset : Nat) (data : Bytes) :
    packetCalls (parseLoop linktype swapped offset data) =
      packetCalls ((records linktype swapped).run offset data) := by
  induction offset, data using Scanning.Scanner.run_induction (S := records linktype swapped) with
  | stop offset data h =>
    rw [Scanning.Scanner.run_of_none h]
    by_cases hdata : data.length = 0
    · rw [parseLoop, if_pos hdata]
    · cases hrecord : parseRecord swapped offset data with
      | stops warning =>
        rw [parseLoop_of_stops hrecord (by omega)]
        rfl
      | continues included =>
        rw [records_next_of_continues hrecord] at h
        cases h
  | take offset data r h ih =>
    rw [Scanning.Scanner.run_of_some h]
    cases hrecord : parseRecord swapped offset data with
    | stops warning =>
      rw [records_next_of_stops hrecord] at h
      cases h
    | continues included =>
      rw [records_next_of_continues hrecord] at h
      obtain rfl := Option.some.inj h
      rw [parseLoop_of_continues hrecord]
      exact congrArg (List.cons _) ih

/-- A file that is cut in its header delivers nothing. -/
theorem packetCalls_parseEvents_take (data : Bytes) (n : Nat) :
    packetCalls (parseEvents (data.take n)).1 <+: packetCalls (parseEvents data).1 := by
  unfold parseEvents
  cases hread : readStruct PcapFileHeader (data.take n) with
  | none => exact List.nil_prefix
  | some header =>
    have hsize := size_le_of_readStruct hread
    have hwhole : readStruct PcapFileHeader data = some header := by
      rw [← hread, ← readStruct_append hsize (data.drop n), List.take_append_drop]
    rw [hwhole]
    dsimp only
    cases byteOrder header.magic with
    | none => exact List.nil_prefix
    | some swapped =>
      dsimp only
      rw [packetCalls_parseLoop, packetCalls_parseLoop, List.drop_take]
      exact (Scanning.Scanner.run_take _ _ _).filterMap _

end PcapInputFile

/-! ## What a file delivers -/

/-- The reader that `open` chooses. -/
def chosen (data : Bytes) : Option Reader := (readStruct UInt32 data).bind Reader.ofMagic

/-- The packets of a file, as they are handed to `processPacket`. -/
def delivered (data : Bytes) : List Captured :=
  match chosen data with
  | none => []
  | some reader => packetCalls (reader.events data).1

theorem delivered_of_chosen {data : Bytes} {reader : Reader} (h : chosen data = some reader) :
    delivered data = packetCalls (reader.events data).1 := by
  rw [delivered, h]

theorem InputFile.open_of_chosen {data : Bytes} {reader : Reader} (h : chosen data = some reader)
    (path : String) : InputFile.open path (some data) = .ok reader := by
  obtain ⟨magic, hread, hmagic⟩ := Option.bind_eq_some_iff.mp h
  unfold InputFile.open
  dsimp only
  rw [hread]
  dsimp only
  rw [hmagic]

theorem chosen_of_open {data : Bytes} {reader : Reader} {path : String}
    (h : InputFile.open path (some data) = .ok reader) : chosen data = some reader := by
  unfold InputFile.open at h
  dsimp only at h
  split at h
  · cases h
  · next magic hread =>
    split at h
    · cases h
    · next reader' hmagic =>
      rw [chosen, hread, Option.bind_some, hmagic]
      exact congrArg some (Except.ok.inj h)

theorem chosen_take {data : Bytes} {n : Nat} {reader : Reader}
    (h : chosen (data.take n) = some reader) : chosen data = some reader := by
  obtain ⟨magic, hread, hmagic⟩ := Option.bind_eq_some_iff.mp h
  have hwhole := readStruct_append (size_le_of_readStruct hread) (data.drop n)
  rw [List.take_append_drop, hread] at hwhole
  rw [chosen, hwhole, Option.bind_some, hmagic]

namespace InputFile

variable {π : Type} [Libplist π]

/-- What `main` does with a path: the capture that was parsed, with the error in it, or the
error of `open`. -/
def load (path : String) (file : Option Bytes) : Except String (InputFile π × Option String) :=
  (InputFile.open path file).map fun reader => reader.parse new (file.getD [])

theorem devices_processPacket_congr {f g : InputFile π} (h : f.devices = g.devices)
    (p : Captured) :
    (f.processPacket p.1 p.2).1.devices = (g.processPacket p.1 p.2).1.devices := by
  cases hdecoded : p.decoded with
  | none => rw [f.devices_of_no_decoder hdecoded, g.devices_of_no_decoder hdecoded, h]
  | some d =>
    rw [f.devices_of_decoded hdecoded, g.devices_of_decoded hdecoded]
    cases d with
    | rejected warning => exact h
    | rejectedAt address warning => exact congrArg (·.register address { id := address }) h
    | accepted address c =>
      cases c with
      | none => exact congrArg (·.register address { id := address }) h
      | some c =>
        exact congrArg (fun m => (m.register address { id := address }).modify address (·.call c)) h

/-- The devices are those of the packets. -/
theorem devices_foldl_perform {f g : InputFile π} (h : f.devices = g.devices)
    (events : List ParseEvent) :
    (events.foldl perform f).devices =
      ((packetCalls events).foldl (fun f p => (f.processPacket p.1 p.2).1) g).devices := by
  induction events generalizing f g with
  | nil => exact h
  | cons e events ih =>
    cases e with
    | warning text => exact @ih (f.warn text) g h
    | packet linktype data => exact ih (devices_processPacket_congr h (linktype, data))

end InputFile

/-- The devices of a file that was opened are those of the packets it delivers. -/
theorem InputFile.devices_load {π : Type} [Libplist π] (path : String) (data : Bytes) :
    (InputFile.load path (some data)).toOption.map (fun r : InputFile π × Option String =>
        r.1.devices) =
      (chosen data).map fun _ => (InputFile.ofPackets (delivered data)).devices := by
  cases hchosen : chosen data with
  | none =>
    cases hopen : InputFile.open path (some data) with
    | error e => rw [InputFile.load, hopen]; rfl
    | ok reader =>
      rw [chosen_of_open hopen] at hchosen
      cases hchosen
  | some reader =>
    rw [InputFile.load, InputFile.open_of_chosen hchosen, Option.map_some,
      delivered_of_chosen hchosen]
    show some (reader.parse {} data).1.devices = _
    rw [Reader.parse_eq]
    exact congrArg some (InputFile.devices_foldl_perform rfl _)

theorem delivered_take_isPrefix (data : Bytes) (n : Nat) :
    delivered (data.take n) <+: delivered data := by
  cases hchosen : chosen (data.take n) with
  | none =>
    rw [delivered, hchosen]
    exact List.nil_prefix
  | some reader =>
    rw [delivered_of_chosen hchosen, delivered_of_chosen (chosen_take hchosen)]
    cases reader with
    | pcap => exact PcapInputFile.packetCalls_parseEvents_take data n
    | pcapng =>
      show packetCalls (PcapNGInputFile.parseLoop [] 0 _).1 <+:
        packetCalls (PcapNGInputFile.parseLoop [] 0 _).1
      rw [PcapNGInputFile.packetCalls_parseLoop ([], 0),
        PcapNGInputFile.packetCalls_parseLoop ([], 0)]
      exact (Scanning.Scanner.run_take _ _ _).filterMap _

/-- **Prefixes.** Whatever the bytes of a file are, and wherever the file is cut, the devices
are those of the packets it delivers, and the first bytes deliver the first packets: what was
read of a capture that is still written is never revised. -/
theorem delivered_take {π : Type} [Libplist π] (path : String) (data : Bytes) (n : Nat) :
    delivered (data.take n) <+: delivered data ∧
      (InputFile.load path (some data)).toOption.map (fun r : InputFile π × Option String =>
          r.1.devices) =
        (chosen data).map fun _ => (InputFile.ofPackets (delivered data)).devices :=
  ⟨delivered_take_isPrefix data n, InputFile.devices_load path data⟩

/-! ## Containers -/

namespace PcapInputFile

def PcapFile.packets (file : PcapFile) : List Captured :=
  file.records.map fun r => (file.linktype, r.data)

theorem parseLoop_encodeRecords (linktype : UInt32) (swapped : Bool) (offset : Nat)
    (records : List PcapRecord) :
    parseLoop linktype swapped offset (encodeRecords swapped records) =
      records.map fun r => .packet linktype r.data := by
  induction records generalizing offset with
  | nil =>
    rw [parseLoop]
    rfl
  | cons r records ih =>
    have hcons : encodeRecords swapped (r :: records) =
        r.encode swapped ++ encodeRecords swapped records := rfl
    rw [hcons, parseLoop_record, ih, List.map_cons]

theorem parseEvents_encode (file : PcapFile) :
    parseEvents file.encode = (file.packets.map fun p => .packet p.1 p.2, none) := by
  have htake := parseEvents_take file (n := file.encode.length)
    (by rw [PcapFile.encode, List.length_append, Layout.length_encode]; omega)
  have hlength : file.encode.length - Layout.size PcapFileHeader =
      (encodeRecords file.swapped file.records).length := by
    rw [PcapFile.encode, List.length_append, Layout.length_encode]
    omega
  rw [List.take_length, hlength, List.take_length, parseLoop_encodeRecords] at htake
  rw [htake, PcapFile.packets, List.map_map]
  rfl

theorem chosen_encode (file : PcapFile) : chosen file.encode = some .pcap := by
  have hread : readStruct UInt32 file.encode = some file.header.magic := by
    have hfields : file.encode = Layout.encode file.header.magic ++
        (file.encode.drop 4) := by
      rw [PcapFile.encode]
      rfl
    rw [hfields, readStruct_encode]
  have hmagic : ∀ swapped nanoseconds : Bool, Reader.ofMagic (value swapped
      (if nanoseconds then pcapMagicNanoseconds else pcapMagicMicroseconds)) = some .pcap := by
    decide
  rw [chosen, hread]
  exact hmagic file.swapped file.nanoseconds

end PcapInputFile

namespace PcapNGInputFile

theorem parseLoop_encode (file : PcapNGFile) :
    parseLoop [] 0 file.encode = (file.packets.map fun p => .packet p.1 p.2, none) := by
  have hrun := parseLoop_append file.wellFormed 0 (fun _ => file.header) []
  have hend : parseLoop (interfacesAfter [] file.blocks)
      (0 + (encodeBlocks file.blocks).length) [] = ([], none) := by
    rw [parseLoop]
    rfl
  rw [hend, List.append_nil, List.append_nil] at hrun
  rw [PcapNGFile.encode, hrun, PcapNGFile.packets, List.map_map]
  rfl

theorem chosen_encode {file : PcapNGFile} (hblocks : file.blocks ≠ []) :
    chosen file.encode = some .pcapng := by
  obtain ⟨b, blocks, hcons⟩ := List.exists_cons_of_ne_nil hblocks
  have hfirst : b.isSectionHeader = true := file.header b (by rw [hcons]; rfl)
  have hwf := file.wellFormed
  rw [hcons] at hwf
  have htype : b.type = typeSectionHeader := (FileBlock.type_eq_sectionHeader hwf.1).mpr hfirst
  have hfields : file.encode = Layout.encode b.type ++ (Layout.encode (UInt32.ofNat b.length) ++
      (b.body ++ (Layout.encode (UInt32.ofNat b.length) ++ encodeBlocks blocks))) := by
    rw [PcapNGFile.encode, hcons, encodeBlocks, List.flatMap_cons, FileBlock.encode,
      List.append_assoc, List.append_assoc]
    exact List.append_assoc _ _ _
  rw [chosen, hfields, readStruct_encode, htype]
  rfl

end PcapNGInputFile

/-- **Containers.** A capture does not depend on the container of its packets: a classic file
of either byte order and resolution and a pcapng file with any sections, interfaces and other
blocks are opened by their own readers, read to the end without an error, and come to what
`processPacket` makes of the packets. -/
theorem containers_agree {π : Type} [Libplist π] (path : String) (file : PcapInputFile.PcapFile)
    (file' : PcapNGFile) (hblocks : file'.blocks ≠ []) :
    InputFile.load (π := π) path (some file.encode) = .ok (InputFile.ofPackets file.packets, none) ∧
      InputFile.load (π := π) path (some file'.encode) =
        .ok (InputFile.ofPackets file'.packets, none) := by
  have hcalls : ∀ packets : List Captured,
      (packets.map fun p => ParseEvent.packet p.1 p.2).foldl perform ({} : InputFile π) =
        InputFile.ofPackets packets := by
    intro packets
    rw [List.foldl_map]
    rfl
  constructor
  · rw [InputFile.load, InputFile.open_of_chosen (PcapInputFile.chosen_encode file)]
    show Except.ok (Reader.pcap.parse {} file.encode) = _
    rw [Reader.parse_eq, Reader.events, PcapInputFile.parseEvents_encode, hcalls]
  · rw [InputFile.load, InputFile.open_of_chosen (PcapNGInputFile.chosen_encode hblocks)]
    show Except.ok (Reader.pcapng.parse {} file'.encode) = _
    rw [Reader.parse_eq, Reader.events, PcapNGInputFile.parseLoop_encode, hcalls]

/-- Two packets in a classic file of the other byte order and in a pcapng file. -/
def twoPackets : PcapNGFile where
  blocks := [.sectionHeader 1 0 (-1) [],
    .interface ⟨linktypeUsbDarwin.toUInt16, 0, 0⟩ [],
    .enhanced 0 0 0 3 [1, 2, 3] [0],
    .enhanced 0 0 0 1 [4] [0, 0, 0]]
  header := by
    intro b hb
    obtain rfl := Option.some.inj hb
    rfl
  wellFormed := by
    refine ⟨⟨rfl, by decide, trivial⟩, ⟨rfl, by decide, trivial⟩, ⟨rfl, by decide, ?_⟩,
      ⟨rfl, by decide, ?_⟩, trivial⟩ <;> exact Nat.zero_lt_one

theorem containers_agree_example :
    InputFile.load (π := Empty) "a" (some PcapInputFile.twoRecords.encode) =
      InputFile.load "a" (some twoPackets.encode) := by
  obtain ⟨hpcap, hpcapng⟩ := containers_agree (π := Empty) "a" PcapInputFile.twoRecords twoPackets
    (List.cons_ne_nil _ _)
  have hpackets : PcapInputFile.twoRecords.packets = twoPackets.packets := rfl
  rw [hpcap, hpcapng, hpackets]

/-! ## What can be wrong with a file that was opened -/

namespace PcapNGInputFile

/-- The errors of a section header that is read. -/
def headerErrors : List String := ["Truncated PCAPNG section header block",
  "Big endian PCAPNG captures are not supported",
  "Corrupt PCAPNG section header byte order magic"]

/-- The errors of the first block alone. -/
def firstErrors : List String := ["Corrupt PCAPNG section header block length",
  "Corrupt PCAPNG section header block"]

theorem sectionHeaderError_mem {data : Bytes} {e : String} (h : sectionHeaderError data = some e) :
    e ∈ headerErrors := by
  unfold sectionHeaderError at h
  split at h
  · obtain rfl := Option.some.inj h
    exact List.mem_cons_self
  · split at h
    · obtain rfl := Option.some.inj h
      exact List.mem_cons_of_mem _ List.mem_cons_self
    · split at h
      · obtain rfl := Option.some.inj h
        exact List.mem_cons_of_mem _ (List.mem_cons_of_mem _ List.mem_cons_self)
      · cases h

section Errors

variable {interfaces : List PcapngInterface} {offset : Nat} {data : Bytes} {e : String}

/-- **Step lemma.** A round throws for what a section header says, or for the first block. -/
theorem parseBlock_throws_cases (h : parseBlock interfaces offset data = .throws e) :
    e ∈ headerErrors ∨ offset = 0 ∧
      (e ∈ firstErrors ∨ ∃ block, readStruct Block data = some block ∧
        block.type ≠ typeSectionHeader) := by
  unfold parseBlock at h
  split at h
  · cases h
  · next block hread =>
    rw [Option.ite_none_left_eq_some] at hread
    split at h
    · next hfirst => exact Or.inr ⟨hfirst.1, Or.inr ⟨block, hread.2, hfirst.2⟩⟩
    · split at h
      · next error herror =>
        obtain rfl := BlockResult.throws.inj h
        split at herror
        · exact Or.inl (sectionHeaderError_mem herror)
        · cases herror
      · dsimp only at h
        split at h
        · split at h
          · next hzero =>
            obtain rfl := BlockResult.throws.inj h
            exact Or.inr ⟨hzero, Or.inl List.mem_cons_self⟩
          · cases h
        · split at h
          · split at h
            · next hzero =>
              obtain rfl := BlockResult.throws.inj h
              exact Or.inr ⟨hzero, Or.inl (List.mem_cons_of_mem _ List.mem_cons_self)⟩
            · cases h
          · cases h

/-- **Run lemma.** An error behind the first block is one of a section header. -/
theorem parseLoop_throws_cases (s : List PcapngInterface × Nat) (data : Bytes) {e : String}
    (h : (parseLoop s.1 s.2 data).2 = some e) :
    e ∈ headerErrors ∨ s.2 = 0 ∧ (parseLoop s.1 s.2 data).1 = [] ∧
      (e ∈ firstErrors ∨ ∃ block, readStruct Block data = some block ∧
        block.type ≠ typeSectionHeader) := by
  induction s, data using Scanning.Scanner.run_induction (S := blocks) with
  | stop s data hstop =>
    by_cases hdata : data.length = 0
    · rw [parseLoop, if_pos hdata] at h
      cases h
    · simp only [blocks] at hstop
      split at hstop
      · next hblock =>
        rw [parseLoop_of_throws hblock (by omega)] at h ⊢
        obtain rfl := Option.some.inj h
        rcases parseBlock_throws_cases hblock with hheader | ⟨hzero, hfirst⟩
        · exact Or.inl hheader
        · exact Or.inr ⟨hzero, rfl, hfirst⟩
      · next hblock =>
        rw [parseLoop_of_stops hblock (by omega)] at h
        cases h
      · cases hstop
  | take s data r htake ih =>
    simp only [blocks] at htake
    split at htake
    · cases htake
    · cases htake
    · next length interfaces event hblock =>
      obtain rfl := Option.some.inj htake
      rw [parseLoop_of_continues hblock] at h
      rcases ih h with hheader | ⟨hzero, -⟩
      · exact Or.inl hheader
      · have hpos : 0 < length := (length_of_continues hblock).1
        exact absurd hzero (by show ¬ s.2 + length = 0; omega)

end Errors

/-- The type of a block is its first field. -/
theorem readStruct_type {data : Bytes} {block : Block} (h : readStruct Block data = some block) :
    readStruct UInt32 data = some block.type := by
  have hsize := size_le_of_readStruct h
  have hblock : Layout.size Block = 8 := rfl
  have hword : Layout.size UInt32 = 4 := rfl
  rw [readStruct_of_le hsize] at h
  rw [readStruct_of_le (by omega), ← Option.some.inj h]
  show some (Endian.le32 (data.take 4) 0) = some (Endian.le32 (data.take 8) 0)
  simp [Endian.le32, Endian.field, List.take_take]

end PcapNGInputFile

theorem PcapInputFile.byteOrder_of_ofMagic {magic : UInt32} (h : Reader.ofMagic magic = some .pcap) :
    ∃ swapped, byteOrder magic = some swapped := by
  unfold Reader.ofMagic at h
  unfold byteOrder
  split at h
  · cases h
  · split at h
    · next hmagic =>
      split
      · exact ⟨_, rfl⟩
      · next hnot =>
        rw [if_pos (by tauto)]
        exact ⟨_, rfl⟩
    · cases h

/-- The errors of a reader that `open` chose. -/
def Reader.errors : Reader → List String
  | pcapng => PcapNGInputFile.headerErrors ++ PcapNGInputFile.firstErrors
  | pcap => ["Truncated pcap file header"]

theorem PcapInputFile.error_of_chosen {data : Bytes} (h : chosen data = some .pcap) :
    (parseEvents data).2 = if data.length < 24 then some "Truncated pcap file header" else none := by
  obtain ⟨magic, hread, hmagic⟩ := Option.bind_eq_some_iff.mp h
  have hsize : Layout.size PcapFileHeader = 24 := rfl
  unfold parseEvents
  by_cases hshort : data.length < 24
  · rw [readStruct_of_lt hshort, if_pos hshort]
  · have hfirst : (Layout.decode (data.take 24) : PcapFileHeader).magic = magic := by
      rw [readStruct_of_le (by show 4 ≤ data.length; omega)] at hread
      rw [← Option.some.inj hread]
      show Endian.le32 (data.take 24) 0 = Endian.le32 (data.take 4) 0
      simp [Endian.le32, Endian.field, List.take_take]
    obtain ⟨swapped, hswapped⟩ := byteOrder_of_ofMagic hmagic
    rw [readStruct_of_le (by omega), if_neg hshort]
    dsimp only [hsize]
    rw [show Layout.size PcapFileHeader = 24 from rfl, hfirst, hswapped]

/-- **Two checks.** The readers check the magic that `open` chose them by and never find it
wrong. A classic file is read if and only if its header is there; a pcapng file is given up for
what one of its section headers says, or for the frame of the first one, and then nothing was
read. -/
theorem Reader.checks_agree {π : Type} [Libplist π] {path : String} {data : Bytes}
    {reader : Reader} (hopen : InputFile.open path (some data) = .ok reader) (f : InputFile π) :
    (∀ e ∈ (reader.parse f data).2, e ∈ reader.errors ∧
      (e ∉ PcapNGInputFile.headerErrors → (reader.parse f data).1 = f)) ∧
      (reader = .pcap → ((reader.parse f data).2 = none ↔ 24 ≤ data.length)) := by
  have hchosen := chosen_of_open hopen
  rw [Reader.parse_eq]
  cases reader with
  | pcap =>
    have herror := PcapInputFile.error_of_chosen hchosen
    have hempty : data.length < 24 → (PcapInputFile.parseEvents data).1 = [] := by
      intro hshort
      unfold PcapInputFile.parseEvents
      rw [readStruct_of_lt hshort]
    refine ⟨?_, fun _ => ?_⟩
    · intro e he
      rw [Option.mem_def, Reader.events, herror] at he
      obtain ⟨hshort, heq⟩ := Option.ite_none_right_eq_some.mp he
      refine ⟨by rw [← Option.some.inj heq]; exact List.mem_singleton_self _, fun _ => ?_⟩
      rw [Reader.events, hempty hshort]
      rfl
    · rw [Reader.events, herror]
      split
      · next hshort => exact iff_of_false (Option.some_ne_none _) (Nat.not_le.mpr hshort)
      · next hlong => exact iff_of_true rfl (Nat.not_lt.mp hlong)
  | pcapng =>
    refine ⟨?_, fun h => nomatch h⟩
    intro e he
    rcases PcapNGInputFile.parseLoop_throws_cases ([], 0) data he with hheader | ⟨-, hempty, hfirst⟩
    · exact ⟨List.mem_append_left _ hheader, fun hnot => absurd hheader hnot⟩
    · refine ⟨List.mem_append_right _ ?_, fun _ => ?_⟩
      · -- the type of the first block is the magic
        refine hfirst.resolve_right ?_
        rintro ⟨block, hblock, htype⟩
        obtain ⟨magic, hread, hmagic⟩ := Option.bind_eq_some_iff.mp hchosen
        rw [PcapNGInputFile.readStruct_type hblock] at hread
        rw [← Option.some.inj hread, Reader.ofMagic, if_neg htype] at hmagic
        split at hmagic <;> cases hmagic
      · show ((PcapNGInputFile.parseLoop [] 0 data).1.foldl perform f) = f
        rw [hempty]
        rfl

/-- A classic file that ends in its header. -/
theorem Reader.checks_agree_example :
    (Reader.pcap.parse ({} : InputFile Empty) [0xD4, 0xC3, 0xB2, 0xA1, 2]).2 ≠ none := by
  have hopen : InputFile.open "a" (some [0xD4, 0xC3, 0xB2, 0xA1, 2]) = .ok .pcap := rfl
  have hcheck := (Reader.checks_agree hopen ({} : InputFile Empty)).2 rfl
  rw [ne_eq, hcheck]
  decide

end DemuxUsb
