import DemuxUsb.Library.Checked
import DemuxUsb.Main.CommandLine
import DemuxUsb.Protocol.DownloadReport
import DemuxUsb.Protocol.RecoveryReport
import DemuxUsb.Protocol.StreamReport
import DemuxUsb.Usb.DescriptorHistory
import DemuxUsb.Usb.ExpertHistory
import DemuxUsb.Usb.Extraction

/-!
# The report of a device

What `main` prints of a device, and the files that it writes. Every device has a directory of
its own, named by its place in the report and its identifier, so that devices never overwrite
the files of each other, whatever their artifacts are called.

* `extracted_iff`: the files behind an extraction, device by device;
* `reportDevices_eq`, `reportDevices_of_stops`: the loop over the devices, to its end or up to a
  directory that cannot be made.
-/

namespace DemuxUsb

variable {π : Type}

/-! ## Experts -/

namespace Expert

def toString : Expert π → Bytes
  | usbmux e => e.toString
  | dfu e => textBytes e.toString
  | recovery e => textBytes e.toString

def details [Libplist π] : Expert π → Bytes
  | usbmux e => e.details
  | dfu e => textBytes e.details
  | recovery e => e.details

end Expert

namespace Main

/-- The property lists of a stream, as `--plists` prints them. -/
def plistText [LibplistXml π] (id : UInt64) (stream : MuxStream π) : Bytes :=
  stream.messages.flatMap fun message =>
    textBytes s!"    --- stream {hexText 0 id.toNat} " ++
      textBytes (if message.outbound then "host -> device" else "device -> host") ++
      textBytes " ---\n" ++ message.xml

/-- The property lists of an expert. Only a usbmux expert has any. -/
def plistsText [LibplistXml π] : Expert π → Bytes
  | .usbmux e => e.forStreams plistText
  | .dfu _ => []
  | .recovery _ => []

/-- What is printed of an expert. -/
def expertText [LibplistXml π] (o : Options) (e : Expert π) : Bytes :=
  if e.isEmpty then []
  else
    textBytes "    " ++ e.toString ++ textBytes "\n" ++ (if o.verbose then e.details else []) ++
      if o.plists then plistsText e else []

/-! ## Devices -/

def identityText (d : Device π) : Bytes :=
  textBytes s!"\n\nDevice ID: {hexText 0 d.device.toNat}\n" ++
    (if d.hasDeviceDescriptor then
      textBytes s!"  VID/PID: {hexText 4 d.getVendorId.toNat}:{hexText 4 d.getProductId.toNat} ({d.getMode} mode)\n"
    else []) ++
    (textBytes "  Manufacturer: " ++ d.getManufacturer ++ textBytes "\n") ++
    (textBytes "  Product: " ++ d.getProduct ++ textBytes "\n") ++
    (textBytes "  Serial: " ++ d.getSerial ++ textBytes "\n")

def statisticsText (d : Device π) : Bytes :=
  textBytes s!"  Statistics: {d.packetCount.toNat} packets and {d.byteCount.toNat} bytes. (control {d.controlPacketCount.toNat} packets, {d.controlByteCount.toNat} bytes).\n"

def anomaliesText (d : Device π) : Bytes :=
  d.anomalies.flatMap fun anomaly => textBytes s!"  ! {anomaly}\n"

def expertsText [LibplistXml π] (o : Options) (d : Device π) : Bytes :=
  textBytes "  Interface Experts:\n" ++
    d.getExperts.flatMap fun n => (d.experts[n]?.map (expertText o)).getD []

/-! ## Extraction -/

/-- `directory / name` -/
def joinPath (directory name : String) : String :=
  if directory = "" ∨ directory.toList.getLast? = some '/' then directory ++ name
  else directory ++ "/" ++ name

/-- The directory of a device. -/
def deviceDirectory (directory : String) (index : Nat) (identifier : UInt64) : String :=
  joinPath directory s!"device-{index}-{hexText 0 identifier.toNat}"

/-- The path of an artifact. -/
def artifactPath (directory : String) (place : Device π × Nat) (name : String) : String :=
  joinPath (deviceDirectory directory place.2 place.1.device) name

/-- What the program finds: what the files hold, and the directories that `create_directories`
cannot make, because a file is in the way or for any other reason. -/
structure FileSystem where
  contents : String → Option Bytes
  refuses : String → Bool

/-- What was printed and written so far. A file that cannot be written goes unnoticed. -/
structure Written where
  out : Bytes := []
  files : List (String × Bytes) := []
  deriving DecidableEq

def Written.add (w : Written) (out : Bytes) (files : List (String × Bytes)) : Written where
  out := w.out ++ out
  files := w.files ++ files

section Text

variable [LibplistXml π]

/-- The loop body of `extract`. The directory is made before every artifact; the exception that
`create_directories` throws is caught nowhere. -/
def extractArtifact (fs : FileSystem) (directory : String) (place : Device π × Nat) (w : Written)
    (artifact : ExtractedArtifact) : Except Written Written :=
  if fs.refuses (deviceDirectory directory place.2 place.1.device) then .error w
  else
    let path := artifactPath directory place artifact.name
    .ok (w.add (textBytes s!"  Extracted {path} ({artifact.data.length} bytes)\n")
      [(path, artifact.data)])

/-- What is printed of a device before its files are extracted. -/
def headText (o : Options) (d : Device π) : Bytes :=
  identityText d ++ statisticsText d ++ (if o.verbose then anomaliesText d else []) ++
    expertsText o d

/-- The loop body of `main` over the devices. -/
def reportDevice (fs : FileSystem) (o : Options) (w : Written) (place : Device π × Nat) :
    Except Written Written :=
  let w := w.add (headText o place.1) []
  if o.extractDirectory ≠ "" then
    place.1.artifacts.foldlM (extractArtifact fs o.extractDirectory place) w
  else .ok w

/-! ## Devices whose directory can be made -/

/-- The files that `extract` writes for a device, in order. -/
def extract (directory : String) (place : Device π × Nat) : List (String × Bytes) :=
  place.1.artifacts.map fun artifact =>
    (artifactPath directory place artifact.name, artifact.data)

def extractText (directory : String) (place : Device π × Nat) : Bytes :=
  (extract directory place).flatMap fun file =>
    textBytes s!"  Extracted {file.1} ({file.2.length} bytes)\n"

/-- All that is printed of a device. -/
def deviceText (o : Options) (place : Device π × Nat) : Bytes :=
  headText o place.1 ++
    if o.extractDirectory ≠ "" then extractText o.extractDirectory place else []

/-- What is printed of all devices. -/
def reportText (o : Options) (devices : List (Device π)) : Bytes :=
  devices.zipIdx.flatMap (deviceText o)

/-- All files that are written, in order. -/
def extractedFiles (o : Options) (devices : List (Device π)) : List (String × Bytes) :=
  if o.extractDirectory ≠ "" then devices.zipIdx.flatMap (extract o.extractDirectory) else []

/-- A device that has something to extract, and no place to put it. -/
def FileSystem.Stops (fs : FileSystem) (o : Options) (place : Device π × Nat) : Prop :=
  o.extractDirectory ≠ "" ∧ place.1.artifacts ≠ [] ∧
    fs.refuses (deviceDirectory o.extractDirectory place.2 place.1.device) = true

instance (fs : FileSystem) (o : Options) (place : Device π × Nat) : Decidable (fs.Stops o place) :=
  inferInstanceAs (Decidable (_ ∧ _ ∧ _))

end Text

/-! ## The loops -/

section Loops

variable [LibplistXml π] {fs : FileSystem} {o : Options} {place : Device π × Nat}

theorem Written.add_add (w : Written) (out out' : Bytes) (files files' : List (String × Bytes)) :
    (w.add out files).add out' files' = w.add (out ++ out') (files ++ files') := by
  unfold Written.add
  rw [List.append_assoc, List.append_assoc]

theorem Written.add_nil (w : Written) : w.add [] [] = w := by
  unfold Written.add
  rw [List.append_nil, List.append_nil]

/-- What a loop adds in each of its rounds. -/
theorem Written.foldl_add {A : Type} (text : A → Bytes) (files : A → List (String × Bytes))
    (xs : List A) (w : Written) :
    xs.foldl (fun w x => w.add (text x) (files x)) w = w.add (xs.flatMap text) (xs.flatMap files) := by
  induction xs generalizing w with
  | nil => exact w.add_nil.symm
  | cons x xs ih => rw [List.foldl_cons, ih, Written.add_add, List.flatMap_cons, List.flatMap_cons]

/-- The files of a device, if they are asked for. -/
def filesOf (o : Options) (place : Device π × Nat) : List (String × Bytes) :=
  if o.extractDirectory ≠ "" then extract o.extractDirectory place else []

/-- **Spec lemma** of the loop over the artifacts. -/
theorem extractArtifacts_eq {directory : String}
    (h : fs.refuses (deviceDirectory directory place.2 place.1.device) = false) (w : Written) :
    place.1.artifacts.foldlM (extractArtifact fs directory place) w =
      .ok (w.add (extractText directory place) (extract directory place)) := by
  have hround : ∀ artifact ∈ place.1.artifacts, ∀ w : Written,
      extractArtifact fs directory place w artifact =
        .ok (w.add (textBytes s!"  Extracted {artifactPath directory place artifact.name} ({artifact.data.length} bytes)\n")
          [(artifactPath directory place artifact.name, artifact.data)]) := by
    intro artifact _ w
    unfold extractArtifact
    rw [h, if_neg Bool.false_ne_true]
  rw [Checked.foldlM_of_forall hround, Written.foldl_add]
  unfold extractText extract
  rw [List.flatMap_map, List.map_eq_flatMap]

/-- **Step lemma.** -/
theorem reportDevice_of_not_stops (h : ¬ fs.Stops o place) (w : Written) :
    reportDevice fs o w place = .ok (w.add (deviceText o place) (filesOf o place)) := by
  unfold reportDevice deviceText filesOf
  dsimp only
  by_cases hdirectory : o.extractDirectory = ""
  · rw [if_neg (not_not.mpr hdirectory), if_neg (not_not.mpr hdirectory),
      if_neg (not_not.mpr hdirectory), List.append_nil]
  rw [if_pos hdirectory, if_pos hdirectory, if_pos hdirectory]
  by_cases hempty : place.1.artifacts = []
  · unfold extractText extract
    rw [hempty]
    exact congrArg Except.ok (congrArg (w.add · []) (List.append_nil _).symm)
  · have hmade := eq_false_of_ne_true fun hrefuses => h ⟨hdirectory, hempty, hrefuses⟩
    rw [extractArtifacts_eq hmade, Written.add_add, List.nil_append]

/-- **Step lemma.** The first artifact of the device ends the loops. -/
theorem reportDevice_of_stops (h : fs.Stops o place) (w : Written) :
    reportDevice fs o w place = .error (w.add (headText o place.1) []) := by
  obtain ⟨hdirectory, hsome, hrefuses⟩ := h
  obtain ⟨artifact, artifacts, hartifacts⟩ := List.exists_cons_of_ne_nil hsome
  unfold reportDevice
  rw [if_pos hdirectory, hartifacts, List.foldlM_cons, extractArtifact, if_pos hrefuses]
  rfl

theorem flatMap_filesOf (o : Options) (places : List (Device π × Nat)) :
    places.flatMap (filesOf o) =
      if o.extractDirectory ≠ "" then places.flatMap (extract o.extractDirectory) else [] := by
  unfold filesOf
  split
  · rfl
  · exact List.flatMap_eq_nil_iff.mpr fun _ _ => rfl

/-- **Run lemma.** Every device is reported. -/
theorem reportDevices_eq {places : List (Device π × Nat)}
    (h : ∀ place ∈ places, ¬ fs.Stops o place) (w : Written) :
    places.foldlM (reportDevice fs o) w =
      .ok (w.add (places.flatMap (deviceText o)) (places.flatMap (filesOf o))) := by
  rw [Checked.foldlM_of_forall fun place hplace w => reportDevice_of_not_stops (h place hplace) w,
    Written.foldl_add]

/-- **Run lemma.** The first device whose directory cannot be made is the last that is reported. -/
theorem reportDevices_of_stops {before after : List (Device π × Nat)}
    (hbefore : ∀ place ∈ before, ¬ fs.Stops o place) (h : fs.Stops o place) (w : Written) :
    (before ++ place :: after).foldlM (reportDevice fs o) w =
      .error (w.add (before.flatMap (deviceText o) ++ headText o place.1)
        (before.flatMap (filesOf o))) := by
  rw [Checked.foldlM_of_throws
    (fun place hplace w => reportDevice_of_not_stops (hbefore place hplace) w)
    fun w => reportDevice_of_stops h w, Written.foldl_add, Written.add_add, List.append_nil]

end Loops

/-! ## Paths -/

/-- What `joinPath` puts in front of a name. -/
def separated (directory : String) : String :=
  if directory = "" ∨ directory.toList.getLast? = some '/' then directory else directory ++ "/"

theorem joinPath_eq (directory name : String) : joinPath directory name = separated directory ++ name := by
  unfold joinPath separated
  split
  · rfl
  · rfl

theorem toList_hexText (width n : Nat) : (hexText width n).toList =
    List.replicate (width - (Nat.toDigits 16 n).length) '0' ++ Nat.toDigits 16 n :=
  String.toList_ofList

theorem slash_notMem_toDigits {b : Nat} (hb : 1 < b) (hb' : b ≤ 16) (n : Nat) :
    '/' ∉ Nat.toDigits b n := by
  intro h
  obtain ⟨d, hd, hslash⟩ := Numerals.mem_toDigits hb h
  have halnum := Numerals.isAlphanum_digitChar (Nat.lt_of_lt_of_le hd hb')
  rw [← hslash] at halnum
  cases halnum

theorem deviceDirectory_eq (directory : String) (index : Nat) (identifier : UInt64) :
    deviceDirectory directory index identifier = separated directory ++
      ("device-" ++ index.repr ++ "-" ++ hexText 0 identifier.toNat) := by
  rw [deviceDirectory, joinPath_eq]
  rfl

/-- The directory of a device ends with a digit. -/
theorem separated_deviceDirectory (directory : String) (index : Nat) (identifier : UInt64) :
    separated (deviceDirectory directory index identifier) =
      deviceDirectory directory index identifier ++ "/" := by
  have hdigits : (deviceDirectory directory index identifier).toList.getLast? =
      (Nat.toDigits 16 identifier.toNat).getLast? := by
    rw [deviceDirectory_eq, String.toList_append, String.toList_append, toList_hexText,
      Nat.zero_sub, List.replicate_zero, List.nil_append, ← List.append_assoc,
      List.getLast?_append_of_ne_nil _ Nat.toDigits_ne_nil]
  unfold separated
  apply if_neg
  rintro (hempty | hslash)
  · rw [hempty] at hdigits
    exact Nat.toDigits_ne_nil (List.getLast?_eq_none_iff.mp hdigits.symm)
  · rw [hdigits] at hslash
    exact slash_notMem_toDigits (by omega) (by omega) _ (List.mem_of_getLast? hslash)

/-- The characters of a path, with the first that ends a number set apart. -/
theorem toList_artifactPath (directory : String) (place : Device π × Nat) (name : String) :
    (artifactPath directory place name).toList =
      (separated directory ++ "device-").toList ++ (Nat.toDigits 10 place.2 ++ '-' ::
        (List.replicate 0 '0' ++ Nat.toDigits 16 place.1.device.toNat ++ '/' :: name.toList)) := by
  have hdash : "-".toList = ['-'] := rfl
  have hslash : "/".toList = ['/'] := rfl
  rw [artifactPath, joinPath_eq, separated_deviceDirectory, deviceDirectory_eq]
  simp only [String.toList_append, toList_hexText, Nat.toList_repr, Nat.zero_sub, hdash, hslash,
    List.append_assoc, List.cons_append, List.replicate_zero, List.nil_append]

/-- A path says which device it is of, and which artifact. -/
theorem artifactPath_inj {directory : String} {place place' : Device π × Nat} {name name' : String}
    (h : artifactPath directory place name = artifactPath directory place' name') :
    place.2 = place'.2 ∧ name = name' := by
  have hdash : '-'.isAlphanum = false := rfl
  have hslash : '/'.isAlphanum = false := rfl
  have hchars := congrArg String.toList h
  rw [toList_artifactPath, toList_artifactPath] at hchars
  obtain ⟨hindex, -, hrest⟩ := Numerals.decimal_append_inj hdash hdash (List.append_cancel_left hchars)
  obtain ⟨-, -, hname⟩ := Numerals.hex_append_inj hslash hslash hrest
  exact ⟨hindex, String.toList_inj.mp hname⟩

/-- A name that says nothing about directories. -/
def NoSlash (name : String) : Prop := '/' ∉ name.toList

instance (name : String) : Decidable (NoSlash name) := inferInstanceAs (Decidable (_ ∉ _))

theorem NoSlash.append {name more : String} (h : NoSlash name) (hmore : NoSlash more) :
    NoSlash (name ++ more) := by
  unfold NoSlash
  rw [String.toList_append, List.mem_append, not_or]
  exact ⟨h, hmore⟩

theorem noSlash_repr (n : Nat) : NoSlash n.repr := by
  unfold NoSlash
  rw [Nat.toList_repr]
  exact slash_notMem_toDigits (by omega) (by omega) n

theorem noSlash_hexText (width n : Nat) : NoSlash (hexText width n) := by
  unfold NoSlash
  rw [toList_hexText, List.mem_append, not_or]
  constructor
  · intro h
    cases List.eq_of_mem_replicate h
  · exact slash_notMem_toDigits (by omega) (by omega) n

/-- An artifact stays in the directory of its device, whatever it is called. -/
theorem noSlash_text (a : ArtifactName) : NoSlash a.text := by
  have hnumbered : ∀ {start stop : String} (i : Nat), NoSlash start → NoSlash stop →
      NoSlash (start ++ i.repr ++ stop) :=
    fun i hstart hstop => (hstart.append (noSlash_repr i)).append hstop
  cases a with
  | dfuImage i => exact @hnumbered "dfu-image-" ".bin" i (by decide) (by decide)
  | dfuPartialImage i => exact @hnumbered "dfu-image-" "-partial.bin" i (by decide) (by decide)
  | recoveryUpload i => exact @hnumbered "recovery-upload-" ".bin" i (by decide) (by decide)
  | recoveryConsole => decide
  | plist id host device =>
    have hdash : NoSlash "-" := by decide
    have hid : NoSlash ("usbmux-" ++ hexText 16 id.toNat) :=
      NoSlash.append (by decide) (noSlash_hexText 16 _)
    have hports := ((hid.append hdash).append (noSlash_repr host.toNat)).append hdash
    exact (hports.append (noSlash_repr device.toNat)).append (by decide)

/-! ## Extracted files -/

variable [LibplistXml π]

/-- The artifacts of a device, as they are written. -/
def entriesOf (place : Device π × Nat) : List (String × Bytes) :=
  place.1.artifacts.map fun artifact => (artifact.name, artifact.data)

theorem extract_eq (directory : String) (places : List (Device π × Nat)) :
    places.flatMap (extract directory) = Maps.grouped (artifactPath directory) entriesOf places := by
  unfold Maps.grouped
  congr 1
  ext1 place
  rw [entriesOf, List.map_map]
  rfl

theorem getElem?_extract (place : Device π × Nat) (name : String) :
    place.1.extract[name]? = Maps.lastOf name (entriesOf place) := by
  rw [← Maps.getElem?_foldl_insert, entriesOf, List.foldl_map]
  rfl

/-- **Extraction.** The files that are there when all devices are extracted to a directory are,
for every device, those of an extraction of this device alone, in the directory of the device:
no device overwrites a file of another, and no file lands elsewhere. -/
theorem extracted_iff (directory : String) (devices : List (Device π)) (path : String)
    (data : Bytes) :
    ((devices.zipIdx.flatMap (extract directory)).foldl
        (fun files file => files.insert file.1 file.2)
        (∅ : Std.ExtTreeMap String Bytes))[path]? = some data ↔
      ∃ index d name, devices[index]? = some d ∧ path = artifactPath directory (d, index) name ∧
        NoSlash name ∧ d.extract[name]? = some data := by
  have hplace : ∀ {d : Device π} {index : Nat}, (d, index) ∈ devices.zipIdx ↔
      devices[index]? = some d := by
    intro d index
    rw [List.mem_zipIdx_iff_getElem?]
  have hnodup : devices.zipIdx.Nodup := by
    apply List.Nodup.of_map Prod.snd
    rw [List.zipIdx_map_snd]
    exact List.nodup_range'
  have hinj : ∀ place ∈ devices.zipIdx, ∀ place' ∈ devices.zipIdx, ∀ name name',
      artifactPath directory place name = artifactPath directory place' name' →
        place = place' ∧ name = name' := by
    rintro ⟨d, index⟩ hmem ⟨d', index'⟩ hmem' name name' hpath
    obtain ⟨hindex, hname⟩ := artifactPath_inj hpath
    obtain rfl : index = index' := hindex
    rw [hplace] at hmem hmem'
    rw [hmem] at hmem'
    rw [Option.some.inj hmem']
    exact ⟨rfl, hname⟩
  rw [Maps.getElem?_foldl_insert, extract_eq]
  constructor
  · intro hlast
    obtain ⟨⟨d, index⟩, hmem, name, hentry, rfl⟩ := Maps.mem_grouped.mp (Maps.mem_of_lastOf hlast)
    rw [Maps.lastOf_grouped hnodup hinj hmem] at hlast
    refine ⟨index, d, name, hplace.mp hmem, rfl, ?_, ?_⟩
    · obtain ⟨artifact, hartifact, heq⟩ := List.mem_map.mp hentry
      have hname : name ∈ d.artifacts.map ExtractedArtifact.name :=
        List.mem_map.mpr ⟨artifact, hartifact, (Prod.mk.inj heq).1⟩
      rw [Device.artifacts_names] at hname
      obtain ⟨a, -, rfl⟩ := List.mem_map.mp hname
      exact noSlash_text a
    · exact (getElem?_extract (d, index) name).trans hlast
  · rintro ⟨index, d, name, hmem, rfl, -, hdata⟩
    rw [Maps.lastOf_grouped hnodup hinj (hplace.mpr hmem), ← getElem?_extract]
    exact hdata

end Main

end DemuxUsb
