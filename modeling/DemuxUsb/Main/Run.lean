import DemuxUsb.File.OpenedFiles
import DemuxUsb.File.Recordings
import DemuxUsb.File.Warnings
import DemuxUsb.Main.DeviceReport

/-!
# Runs of the program

`main` as a function of the command line and of the file system: how it ends, what goes to the
two output streams, and the files that are written. A capture is untrusted, and whatever is wrong
with it behind its magic number goes to the error stream only. What the program does not survive
is a directory that cannot be made.

* `main_exact`: what a run leaves, for every command line and every file system;
* `main_containers`: the same packets in either container give the same run;
* `main_recording`: a recording of a bus is reported device by device, and nothing is amiss.
-/

namespace DemuxUsb.Main

open Fixture
open PcapNGInputFile (PcapNGFile)

/-! ## Texts -/

def usageText (program : String) : String :=
  s!"Usage: {program} [options] <capture_file.pcapng|capture_file.pcap>\n" ++
    "\nOptions:\n" ++
    "  -v, --verbose        Show decoded protocol details (recovery commands, plist summaries,\n" ++
    "                       DFU requests and anomalies)\n" ++
    "  -p, --plists         Print every decoded USBMUX property list as XML\n" ++
    "  -x, --extract <dir>  Write DFU images, recovery uploads and plist transcripts to <dir>\n" ++
    "  -w, --warnings       Print packets that could not be decoded\n" ++
    "  -h, --help           Show this help\n"

namespace Refusal

def exitCode : Refusal → Nat
  | help => 0
  | usage => 1
  | unknownOption _ => 1

def text (program : String) : Refusal → String
  | help => usageText program
  | usage => usageText program
  | unknownOption argument => s!"Unknown option {argument}\n" ++ usageText program

end Refusal

/-- What is said of an error behind which a capture was read. -/
def errorText : Option String → String
  | none => ""
  | some e => s!"Error: {e}\nReporting what was parsed before the error.\n"

/-- What is said of the warnings: how many there were, and the ones that were kept. -/
def warningsText (o : Options) (count : UInt64) (kept : List String) : String :=
  if count = 0 then ""
  else
    s!"\n{count.toNat} packets could not be fully decoded" ++
      (if o.warnings then ":" else " (use --warnings to list them)") ++ "\n" ++
      if o.warnings then
        String.join (kept.map fun warning => s!"  {warning}\n") ++
          if kept.length < count.toNat then "  ...\n" else ""
      else ""

/-! ## The program -/

/-- How a run ends: `main` returns, or an exception that nothing catches aborts it. -/
inductive Ending where
  | exited (code : Nat)
  | aborted
  deriving DecidableEq

/-- What a run leaves behind: what it put into its two output streams, of which an abort may lose
what is not flushed yet, and the files that it wrote, in order. -/
structure Outcome where
  ending : Ending
  out : Bytes := []
  err : String := ""
  files : List (String × Bytes) := []
  deriving DecidableEq

variable (π : Type) [LibplistXml π]

/-- The report on a capture, with the error that ended it, if there was one. -/
def report (fs : FileSystem) (o : Options) (f : InputFile π) (error : Option String) : Outcome :=
  match f.getDevices.zipIdx.foldlM (reportDevice fs o) {} with
  | .error w => { ending := .aborted, out := w.out, err := errorText error, files := w.files }
  | .ok w =>
    { ending := .exited 0
      out := w.out
      err := errorText error ++ warningsText o f.warningCount f.warnings
      files := w.files }

/-- `main` -/
def main (program : String) (arguments : List String) (fs : FileSystem) : Outcome :=
  match parseArguments arguments with
  | .error refusal => { ending := .exited refusal.exitCode, err := refusal.text program }
  | .ok o =>
    match (InputFile.load o.inputPath (fs.contents o.inputPath) :
        Except String (InputFile π × Option String)) with
    | .error e => { ending := .exited 1, err := s!"Error: {e}\n" }
    | .ok parsed => report π fs o parsed.1 parsed.2

/-! ## Reports -/

variable {π}

/-- A run leaves the report on these devices, up to a directory that cannot be made. -/
structure Reports (fs : FileSystem) (o : Options) (devices : List (Device π))
    (error warnings : String) (run : Outcome) : Prop where
  completed : (∀ place ∈ devices.zipIdx, ¬ fs.Stops o place) →
    run = { ending := .exited 0
            out := reportText o devices
            err := error ++ warnings
            files := extractedFiles o devices }
  /-- The devices before that one are reported and extracted, and it is reported. -/
  stopped : ∀ before place after, devices.zipIdx = before ++ place :: after →
    (∀ place ∈ before, ¬ fs.Stops o place) → fs.Stops o place →
      run = { ending := .aborted
              out := before.flatMap (deviceText o) ++ headText o place.1
              err := error
              files := before.flatMap (extract o.extractDirectory) }

/-- There is no device that stops the loop, or a first one. -/
theorem stops_cases (fs : FileSystem) (o : Options) (places : List (Device π × Nat)) :
    (∀ place ∈ places, ¬ fs.Stops o place) ∨
      ∃ before place after, places = before ++ place :: after ∧
        (∀ place ∈ before, ¬ fs.Stops o place) ∧ fs.Stops o place := by
  cases hfind : places.find? fun place => decide (fs.Stops o place) with
  | none =>
    left
    intro place hplace hstops
    exact List.find?_eq_none.mp hfind place hplace (decide_eq_true hstops)
  | some place =>
    right
    obtain ⟨hstops, before, after, hplaces, hbefore⟩ := List.find?_eq_some_iff_append.mp hfind
    refine ⟨before, place, after, hplaces, ?_, of_decide_eq_true hstops⟩
    intro place hplace hstops
    have hnot := hbefore place hplace
    rw [decide_eq_true hstops] at hnot
    cases hnot

theorem reports_report (fs : FileSystem) (o : Options) (f : InputFile π) (error : Option String) :
    Reports fs o f.getDevices (errorText error) (warningsText o f.warningCount f.warnings)
      (report π fs o f error) := by
  constructor
  · intro hnone
    unfold report
    rw [reportDevices_eq hnone]
    dsimp only
    rw [flatMap_filesOf]
    rfl
  · intro before place after hplaces hbefore hstops
    unfold report
    rw [hplaces, reportDevices_of_stops hbefore hstops]
    dsimp only
    rw [flatMap_filesOf, if_pos hstops.1]
    rfl

section Reports

variable {fs : FileSystem} {o : Options} {devices : List (Device π)} {error warnings : String}
  {run : Outcome}

/-- The run ends well exactly when all directories can be made. -/
theorem Reports.exited_iff (h : Reports fs o devices error warnings run) :
    run.ending = .exited 0 ↔ ∀ place ∈ devices.zipIdx, ¬ fs.Stops o place := by
  constructor
  · intro hexited place hplace hstops
    rcases stops_cases fs o devices.zipIdx with hnone | ⟨before, first, after, hplaces, hbefore, hfirst⟩
    · exact hnone place hplace hstops
    · rw [h.stopped before first after hplaces hbefore hfirst] at hexited
      cases hexited
  · intro hnone
    rw [h.completed hnone]

theorem Reports.aborted_iff (h : Reports fs o devices error warnings run) :
    run.ending = .aborted ↔ ∃ place ∈ devices.zipIdx, fs.Stops o place := by
  constructor
  · intro haborted
    by_contra hnone
    push Not at hnone
    rw [h.completed hnone] at haborted
    cases haborted
  · rintro ⟨place, hplace, hstops⟩
    rcases stops_cases fs o devices.zipIdx with hnone | ⟨before, first, after, hplaces, hbefore, hfirst⟩
    · exact absurd hstops (hnone place hplace)
    · rw [h.stopped before first after hplaces hbefore hfirst]

end Reports

/-! ## Command lines that are accepted -/

/-- The command line is accepted, and the path that it names holds the start of a capture. -/
structure Chooses (arguments : List String) (fs : FileSystem) (o : Options) (data : Bytes)
    (reader : Reader) : Prop where
  arguments : parseArguments arguments = .ok o
  contents : fs.contents o.inputPath = some data
  reader : chosen data = some reader

/-- The devices of the packets that a file delivers. -/
def devicesOfFile (data : Bytes) : List (Device π) :=
  (InputFile.ofPackets (delivered data) : InputFile π).getDevices

/-- The warnings about a file. -/
def warningsTextOf (o : Options) (reader : Reader) (data : Bytes) : String :=
  warningsText o (UInt64.ofNat (warningsOf (reader.events data).1).length)
    ((warningsOf (reader.events data).1).take InputFile.maxWarnings)

omit [LibplistXml π] in
theorem getDevices_congr {f g : InputFile π} (h : f.devices = g.devices) :
    f.getDevices = g.getDevices := by
  unfold InputFile.getDevices
  rw [h]

/-- The report depends on the packets that were delivered, and on what the reader said. -/
theorem reports_parse (fs : FileSystem) {data : Bytes} {reader : Reader}
    (h : chosen data = some reader) (o : Options) :
    Reports fs o (devicesOfFile data : List (Device π)) (errorText (reader.events data).2)
      (warningsTextOf o reader data)
      (report π fs o (reader.parse (InputFile.new : InputFile π) data).1
        (reader.parse (InputFile.new : InputFile π) data).2) := by
  have hreports := InputFile.reports_foldl (π := π) (reader.events data).1
  have hdevices : ((reader.events data).1.foldl PcapNGInputFile.perform
      (InputFile.new : InputFile π)).getDevices = devicesOfFile data := by
    unfold devicesOfFile
    rw [delivered_of_chosen h]
    exact getDevices_congr (InputFile.devices_foldl_perform rfl _)
  have hcount := hreports.warningCount
  have hkept := hreports.warnings
  rw [show ({} : InputFile π) = InputFile.new from rfl] at hcount hkept
  have hreport := reports_report fs o ((reader.events data).1.foldl PcapNGInputFile.perform
    (InputFile.new : InputFile π)) (reader.events data).2
  rw [hdevices, hcount, hkept] at hreport
  rw [Reader.parse_eq]
  exact hreport

section Chosen

variable {arguments : List String} {fs : FileSystem} {o : Options} {data : Bytes} {reader : Reader}

theorem Chooses.main_eq (h : Chooses arguments fs o data reader) (program : String) :
    main π program arguments fs =
      report π fs o (reader.parse (InputFile.new : InputFile π) data).1
        (reader.parse (InputFile.new : InputFile π) data).2 := by
  have hload : InputFile.load (π := π) o.inputPath (some data) =
      .ok (reader.parse InputFile.new data) := by
    rw [InputFile.load, InputFile.open_of_chosen h.reader]
    rfl
  unfold main
  rw [h.arguments]
  dsimp only
  rw [h.contents, hload]

theorem Chooses.reports (h : Chooses arguments fs o data reader) (program : String) :
    Reports fs o (devicesOfFile data : List (Device π)) (errorText (reader.events data).2)
      (warningsTextOf o reader data) (main π program arguments fs) := by
  rw [h.main_eq program]
  exact reports_parse fs h.reader o

/-- A command line that is refused, or a file that is not opened. -/
theorem main_of_not_chooses (h : ∀ o data reader, ¬ Chooses arguments fs o data reader)
    (program : String) :
    (∃ refusal, parseArguments arguments = .error refusal ∧ main π program arguments fs =
      { ending := .exited refusal.exitCode, err := refusal.text program }) ∨
    ∃ o, parseArguments arguments = .ok o ∧ ∃ e : String, main π program arguments fs =
      { ending := .exited 1, err := s!"Error: {e}\n" } := by
  unfold main
  cases harguments : parseArguments arguments with
  | error refusal => exact Or.inl ⟨refusal, rfl, rfl⟩
  | ok o =>
    have hload : ∃ e : String,
        InputFile.load (π := π) o.inputPath (fs.contents o.inputPath) = .error e := by
      cases hfile : fs.contents o.inputPath with
      | none => exact ⟨_, rfl⟩
      | some data =>
        cases hopen : InputFile.open o.inputPath (some data) with
        | error e => exact ⟨e, by rw [InputFile.load, hopen]; rfl⟩
        | ok reader => exact absurd ⟨harguments, hfile, chosen_of_open hopen⟩ (h o data reader)
    obtain ⟨e, he⟩ := hload
    refine Or.inr ⟨o, rfl, e, ?_⟩
    dsimp only
    rw [he]

end Chosen

/-! ## Runs -/

/-- **Runs.** The program succeeds exactly when it is asked for help, or for a file that begins
like a capture and all directories can be made; it is aborted exactly when one cannot be made.
Without such a file it prints no report and writes no file. With one, the report and the files
are those of the packets that the file delivers, and everything that is wrong with the rest of
the file is said on the error stream. -/
theorem main_exact (program : String) (arguments : List String) (fs : FileSystem) :
    ((main π program arguments fs).ending = .exited 0 ↔
        parseArguments arguments = .error .help ∨
          ∃ o data reader, Chooses arguments fs o data reader ∧
            ∀ place ∈ (devicesOfFile data : List (Device π)).zipIdx, ¬ fs.Stops o place) ∧
      ((main π program arguments fs).ending = .aborted ↔
        ∃ o data reader, Chooses arguments fs o data reader ∧
          ∃ place ∈ (devicesOfFile data : List (Device π)).zipIdx, fs.Stops o place) ∧
      ((∀ o data reader, ¬ Chooses arguments fs o data reader) →
        (main π program arguments fs).out = [] ∧ (main π program arguments fs).files = []) ∧
      ∀ o data reader, Chooses arguments fs o data reader →
        Reports fs o (devicesOfFile data : List (Device π)) (errorText (reader.events data).2)
          (warningsTextOf o reader data) (main π program arguments fs) := by
  refine ⟨?_, ?_, ?_, ?_⟩
  · constructor
    · intro hexited
      by_cases hchooses : ∃ o data reader, Chooses arguments fs o data reader
      · obtain ⟨o, data, reader, hchooses⟩ := hchooses
        exact Or.inr ⟨o, data, reader, hchooses, (hchooses.reports program).exited_iff.mp hexited⟩
      push Not at hchooses
      rcases main_of_not_chooses (π := π) hchooses program with
        ⟨refusal, hrefusal, hmain⟩ | ⟨o, -, e, hmain⟩
      · rw [hmain] at hexited
        cases refusal with
        | help => exact Or.inl hrefusal
        | usage => cases hexited
        | unknownOption argument => cases hexited
      · rw [hmain] at hexited
        cases hexited
    · rintro (hhelp | ⟨o, data, reader, hchooses, hnone⟩)
      · rw [main, hhelp]
        rfl
      · exact (hchooses.reports program).exited_iff.mpr hnone
  · constructor
    · intro haborted
      by_cases hchooses : ∃ o data reader, Chooses arguments fs o data reader
      · obtain ⟨o, data, reader, hchooses⟩ := hchooses
        exact ⟨o, data, reader, hchooses, (hchooses.reports program).aborted_iff.mp haborted⟩
      push Not at hchooses
      rcases main_of_not_chooses (π := π) hchooses program with
        ⟨refusal, -, hmain⟩ | ⟨o, -, e, hmain⟩
      · rw [hmain] at haborted
        cases haborted
      · rw [hmain] at haborted
        cases haborted
    · rintro ⟨o, data, reader, hchooses, hstops⟩
      exact (hchooses.reports program).aborted_iff.mpr hstops
  · intro hnone
    rcases main_of_not_chooses (π := π) hnone program with ⟨refusal, -, hmain⟩ | ⟨o, -, e, hmain⟩
    · rw [hmain]
      exact ⟨rfl, rfl⟩
    · rw [hmain]
      exact ⟨rfl, rfl⟩
  · intro o data reader hchooses
    exact hchooses.reports program

/-- **Damage.** Packets that could be read are reported, whatever the file holds behind them. -/
theorem main_keeps_start (program : String) {arguments : List String} {o : Options}
    (harguments : parseArguments arguments = .ok o) {start : Bytes} {reader : Reader}
    (hstart : chosen start = some reader) (rest : Bytes) {fs : FileSystem}
    (hcontents : fs.contents o.inputPath = some (start ++ rest)) :
    ∃ more error warnings,
      Reports fs o (InputFile.ofPackets (delivered start ++ more) : InputFile π).getDevices
        error warnings (main π program arguments fs) := by
  have htake : (start ++ rest).take start.length = start := List.take_left
  have hchosen : chosen (start ++ rest) = some reader := by
    apply chosen_take (n := start.length)
    rw [htake, hstart]
  have hdelivered := delivered_take_isPrefix (start ++ rest) start.length
  rw [htake] at hdelivered
  obtain ⟨more, hmore⟩ := hdelivered
  have hchooses : Chooses arguments fs o (start ++ rest) reader := ⟨harguments, hcontents, hchosen⟩
  have hreports := hchooses.reports (π := π) program
  unfold devicesOfFile at hreports
  rw [← hmore] at hreports
  exact ⟨more, _, _, hreports⟩

/-- A directory with one file, and nothing that could not be made next to it. -/
def onlyFile (path : String) (data : Bytes) : FileSystem where
  contents p := if p = path then some data else none
  refuses p := (path ++ "/").toList.isPrefixOf p.toList

/-- The header of a classic file, and a record that is cut. -/
theorem main_keeps_start_example :
    ∃ more error warnings,
      Reports (onlyFile "a.pcap" ([0xD4, 0xC3, 0xB2, 0xA1, 2, 0, 4, 0, 0, 0, 0, 0, 0, 0, 0, 0, 0, 0, 1,
          0, 189, 0, 0, 0] ++ [1, 2, 3]))
        { extractDirectory := "a.pcap", inputPath := "a.pcap" }
        (InputFile.ofPackets (delivered [0xD4, 0xC3, 0xB2, 0xA1, 2, 0, 4, 0, 0, 0, 0, 0, 0, 0, 0, 0, 0, 0,
          1, 0, 189, 0, 0, 0] ++ more) : InputFile Empty).getDevices
        error warnings
        (main Empty "demuxusb" ["-x", "a.pcap", "a.pcap"] (onlyFile "a.pcap" ([0xD4, 0xC3, 0xB2, 0xA1,
          2, 0, 4, 0, 0, 0, 0, 0, 0, 0, 0, 0, 0, 0, 1, 0, 189, 0, 0, 0] ++ [1, 2, 3]))) :=
  @main_keeps_start Empty _ "demuxusb" ["-x", "a.pcap", "a.pcap"] _ rfl _ .pcap rfl [1, 2, 3] _ rfl

/-- **Containers.** A classic file and a pcapng file of the same packets give the same run,
whatever the command line asks for and whatever directories can be made. -/
theorem main_containers (program : String) (arguments : List String) (refuses : String → Bool)
    (file : PcapInputFile.PcapFile) (file' : PcapNGFile) (hblocks : file'.blocks ≠ [])
    (hpackets : file.packets = file'.packets) :
    main π program arguments ⟨fun _ => some file.encode, refuses⟩ =
      main π program arguments ⟨fun _ => some file'.encode, refuses⟩ := by
  cases harguments : parseArguments arguments with
  | error refusal => rw [main, main, harguments]
  | ok o =>
    have hclassic : Chooses arguments ⟨fun _ => some file.encode, refuses⟩ o file.encode .pcap :=
      ⟨harguments, rfl, PcapInputFile.chosen_encode file⟩
    have hng : Chooses arguments ⟨fun _ => some file'.encode, refuses⟩ o file'.encode .pcapng :=
      ⟨harguments, rfl, PcapNGInputFile.chosen_encode hblocks⟩
    rw [hclassic.main_eq, hng.main_eq, Reader.parse_eq, Reader.parse_eq, Reader.events,
      Reader.events, PcapInputFile.parseEvents_encode, PcapNGInputFile.parseLoop_encode, hpackets]
    rfl

theorem main_containers_example :
    main Empty "demuxusb" ["-w", "a"] ⟨fun _ => some PcapInputFile.twoRecords.encode, fun _ => false⟩ =
      main Empty "demuxusb" ["-w", "a"] ⟨fun _ => some twoPackets.encode, fun _ => false⟩ :=
  main_containers "demuxusb" ["-w", "a"] (fun _ => false) PcapInputFile.twoRecords twoPackets
    (List.cons_ne_nil _ _) rfl

/-- **Recordings.** What is printed and written of a recording, in whatever container it is kept,
is what its transfers say, device by device; nothing is missed, doubled or complained of. -/
theorem main_recording (program : String) {arguments : List String} {o : Options}
    (harguments : parseArguments arguments = .ok o) {stages : List Stage}
    (horderly : Orderly (fun _ => none) stages) (hfits : ∀ s ∈ stages, s.recorded.transfer.Fits)
    {data : Bytes} (hdata : IsFileOf (stages.map Stage.captured) data) {fs : FileSystem}
    (hcontents : fs.contents o.inputPath = some data) :
    Reports fs o (devicesOf stages : List (Device π)) "" "" (main π program arguments fs) := by
  obtain ⟨reader, hchosen, hevents⟩ := hdata.events
  have hpackets : delivered data = stages.map Stage.captured := by
    rw [delivered_of_chosen hchosen, hevents]
    exact packetCalls_packets _
  have hchooses : Chooses arguments fs o data reader := ⟨harguments, hcontents, hchosen⟩
  have hreports := hchooses.reports (π := π) program
  unfold devicesOfFile warningsTextOf at hreports
  rw [hpackets, (devices_of_recording horderly hfits).1, hevents, warnings_of_recording hfits]
    at hreports
  exact hreports

/-- Two devices in the layouts of two tools, with one identifier for three transfers; a control
transfer begins first and ends last. -/
def twoTools : List Stage :=
  let control : Recorded := ⟨.usbmon, 5, 0, 7, .ofControl ⟨0x40, 0, 0, 0, 1⟩ [9]⟩
  let bulk : Recorded := ⟨.usbpcap, 6, 0, 7, .ofBulkOut 4 [1, 2]⟩
  let interrupted : Recorded := ⟨.usbmon, 5, 0, 7, .ofBulkIn 5 [3]⟩
  [.submission control, .submission bulk, .submission interrupted, .completion bulk,
    .completion interrupted, .completion control]

/-- The block of a packet, on the interface of its tool. -/
def recordedBlock (s : Stage) : PcapNGInputFile.FileBlock :=
  .enhanced (if s.recorded.format = .usbmon then 0 else 1) 0 0 (UInt32.ofNat s.data.length) s.data
    (List.replicate ((4 - s.data.length % 4) % 4) 0)

/-- Their packets in one file. -/
def recordedFile : PcapNGFile where
  blocks := [.sectionHeader 1 0 (-1) [], .interface ⟨Format.usbmon.linktype.code.toUInt16, 0, 0⟩ [],
    .interface ⟨Format.usbpcap.linktype.code.toUInt16, 0, 0⟩ []] ++ twoTools.map recordedBlock
  header := by
    intro b hb
    obtain rfl := Option.some.inj hb
    rfl
  wellFormed := by
    have hblocks : ∀ s ∈ twoTools,
        (recordedBlock s).body.length % 4 = 0 ∧ (recordedBlock s).length < 2 ^ 32 := by
      decide +kernel
    simp only [twoTools, List.forall_mem_cons] at hblocks
    obtain ⟨h₁, h₂, h₃, h₄, h₅, h₆, -⟩ := hblocks
    -- the interfaces are those of the tools: usbmon is the first, USBPcap the second
    have hfirst : 0 < 2 := Nat.zero_lt_two
    have hsecond : 1 < 2 := Nat.one_lt_two
    exact ⟨⟨rfl, by decide, trivial⟩, ⟨rfl, by decide, trivial⟩, ⟨rfl, by decide, trivial⟩,
      ⟨h₁.1, h₁.2, hfirst⟩, ⟨h₂.1, h₂.2, hsecond⟩, ⟨h₃.1, h₃.2, hfirst⟩, ⟨h₄.1, h₄.2, hsecond⟩,
      ⟨h₅.1, h₅.2, hfirst⟩, ⟨h₆.1, h₆.2, hfirst⟩, trivial⟩

theorem main_recording_example :
    Reports (onlyFile "a.pcapng" recordedFile.encode)
      { extractDirectory := "out", inputPath := "a.pcapng" }
      (devicesOf twoTools : List (Device Empty)) "" ""
      (main Empty "demuxusb" ["-x", "out", "a.pcapng"] (onlyFile "a.pcapng" recordedFile.encode)) :=
  @main_recording Empty _ "demuxusb" ["-x", "out", "a.pcapng"] _ rfl twoTools (by decide) (by decide)
    _ (.pcapng recordedFile (List.cons_ne_nil _ _) rfl) _ rfl

end DemuxUsb.Main
