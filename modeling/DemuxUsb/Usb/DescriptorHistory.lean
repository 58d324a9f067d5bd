import DemuxUsb.Protocol.Artifacts
import DemuxUsb.Usb.ControlRouting
import DemuxUsb.Usb.CorruptReads

/-!
# What a device knows of itself

Everything that a device holds of its control pipe is a function of what was read and selected
there: the last device descriptor, the last string of each index, the first set of each
configuration, every BOS descriptor and every irregular answer, the configuration that was
selected last, and the alternate settings that were selected since. The names that the report
shows come from strings that may have been read before the descriptor that refers to them.

* `names_exact`: the names of a device;
* `control_pipe_exact`: what was read and what is selected, as functions of the transfers.
-/

namespace DemuxUsb

open Endian
open UsbConfiguration (ofSet valueOf)

/-! ## Answers -/

namespace Answer

/-- What is reported of an answer: a descriptor of another type, or a set that is malformed. -/
def anomaly? (a : Answer) : Option String :=
  if a.data.length < 2 then none
  else if u8 a.data 1 ≠ a.type then
    some s!"GET_DESCRIPTOR(0x{hexText 2 a.type.toNat}) returned descriptor type 0x{hexText 2 (u8 a.data 1).toNat}"
  else
    a.set.bind fun set =>
      if (UsbConfiguration.descriptors set).flatten = set then none
      else (readStruct UsbConfigDescriptor a.data).map fun descriptor =>
        s!"Malformed configuration descriptor {descriptor.bConfigurationValue.toNat}"

end Answer

/-- The answers to the descriptor requests of a run, in order. -/
def answersOf (packets : List DevicePacket) : List Answer := packets.filterMap DevicePacket.answer

namespace UsbConfiguration

/-- A configuration without its experts. -/
def bare (config : UsbConfiguration) : UsbConfiguration := config.assign fun _ => none

theorem bare_of_bare {config : UsbConfiguration} (h : config.Bare) : config.bare = config := by
  have hinterfaces := h.interfaces
  unfold bare assign
  unfold assign at hinterfaces
  simp only [Std.ExtTreeMap.getElem?_empty] at hinterfaces
  rw [hinterfaces]

theorem bare_assign (config : UsbConfiguration) (f : UInt8 → Option Nat) :
    (config.assign f).bare = config.bare := by
  unfold bare assign
  rw [List.map_map]
  rfl

end UsbConfiguration

namespace Device

variable {π : Type}

theorem bare_attachExperts (d : Device π) (set : Bytes) :
    (d.attachExperts (ofSet set)).2.bare = ofSet set := by
  obtain ⟨f, hf, -⟩ := d.attachExperts_spec (bare_ofSet set)
  rw [hf, UsbConfiguration.bare_assign, UsbConfiguration.bare_of_bare (bare_ofSet set)]

theorem bare_storeSet (d : Device π) (set : Bytes) (value : UInt8) :
    ((d.storeSet set).configurations[value]?).map UsbConfiguration.bare =
      ((d.configurations[value]?).map UsbConfiguration.bare).or
        (if valueOf set = value then some (ofSet set) else none) := by
  unfold storeSet
  by_cases hstored : valueOf set ∈ d.configurations
  · rw [if_pos hstored]
    by_cases hvalue : valueOf set = value
    · rw [hvalue, Std.ExtTreeMap.mem_iff_isSome_getElem?] at hstored
      obtain ⟨config, hconfig⟩ := Option.isSome_iff_exists.mp hstored
      rw [hconfig]
      rfl
    · rw [if_neg hvalue, Option.or_none]
  · rw [if_neg hstored]
    dsimp only
    by_cases hvalue : valueOf set = value
    · have hnone : d.configurations[valueOf set]? = none := by
        rw [Std.ExtTreeMap.mem_iff_isSome_getElem?] at hstored
        exact Option.not_isSome_iff_eq_none.mp hstored
      rw [← hvalue, hnone, Std.ExtTreeMap.getElem?_insert_self, if_pos rfl, Option.map_some,
        bare_attachExperts]
      rfl
    · rw [Maps.getElem?_insert_ne (Ne.symm hvalue), if_neg hvalue, Option.or_none]

/-! ## Anomalies -/

theorem anomalies_processDeviceDescriptor (d : Device π) (data : Bytes) :
    (d.processDeviceDescriptor data).anomalies = d.anomalies := by
  unfold processDeviceDescriptor
  split
  · rfl
  · rfl

theorem anomalies_processStringDescriptor (d : Device π) (index : UInt8)
    (header : UsbDescriptorHeader) (data : Bytes) :
    (d.processStringDescriptor index header data).anomalies = d.anomalies := by
  unfold processStringDescriptor
  split
  · rfl
  split
  · rfl
  · rfl

theorem anomalies_processBosDescriptor (d : Device π) (data : Bytes) :
    (d.processBosDescriptor data).anomalies = d.anomalies := by
  unfold processBosDescriptor
  split
  · rfl
  dsimp only
  split
  · rfl
  split
  · rfl
  · rfl

/-- A malformed set is reported, whether or not the configuration is stored already. -/
theorem anomalies_processConfigDescriptor (d : Device π) {a : Answer} (h : a.IsOf usbDtConfig) :
    (d.processConfigDescriptor a.data).anomalies = d.anomalies ++ a.anomaly?.toList := by
  have hanomaly : a.anomaly? = a.set.bind fun set =>
      if (UsbConfiguration.descriptors set).flatten = set then none
      else (readStruct UsbConfigDescriptor a.data).map fun descriptor =>
        s!"Malformed configuration descriptor {descriptor.bConfigurationValue.toNat}" := by
    rw [Answer.anomaly?, if_neg (Nat.not_lt.mpr h.2.1), if_neg (not_not.mpr (h.2.2.trans h.1.symm))]
  rw [hanomaly, Answer.set, if_pos h]
  unfold processConfigDescriptor
  cases readStruct UsbConfigDescriptor a.data with
  | none => exact (List.append_nil _).symm
  | some descriptor =>
    dsimp only [Option.bind_some]
    by_cases hpartial : a.data.length < descriptor.wTotalLength.toNat ∨
        descriptor.wTotalLength.toNat ≤ usbDtConfigSize
    · rw [if_pos hpartial, if_pos hpartial]
      exact (List.append_nil _).symm
    rw [if_neg hpartial, if_neg hpartial, UsbConfiguration.parse_eq]
    dsimp only [Option.bind_some]
    by_cases hset : (UsbConfiguration.descriptors
        (a.data.take descriptor.wTotalLength.toNat)).flatten =
          a.data.take descriptor.wTotalLength.toNat
    · rw [decide_eq_true hset, if_pos rfl, if_pos hset]
      split
      · exact (List.append_nil _).symm
      · exact (List.append_nil _).symm
    · rw [decide_eq_false hset, if_neg Bool.false_ne_true, if_neg hset]
      split
      · rfl
      · rfl

/-- An answer of the type that was asked for is reported if it is a set that is malformed. -/
theorem anomaly?_eq_none {a : Answer} (hmatch : u8 a.data 1 = a.type) (htype : a.type ≠ usbDtConfig) :
    a.anomaly? = none := by
  rw [Answer.anomaly?]
  split
  · rfl
  · rw [if_neg (not_not.mpr hmatch), Answer.set, if_neg fun h => htype h.1]
    rfl

/-- **Step lemma.** -/
theorem anomalies_answered (d : Device π) (a : Answer) :
    (d.answered a).anomalies = d.anomalies ++ a.anomaly?.toList := by
  unfold answered processDescriptor
  dsimp only
  rw [show (a.wValue >>> 8).toUInt8 = a.type from rfl]
  cases hheader : readStruct UsbDescriptorHeader a.data with
  | none =>
    have hshort : a.data.length < 2 := by
      by_contra hlong
      rw [UsbConfiguration.readStruct_header (Nat.not_lt.mp hlong)] at hheader
      cases hheader
    rw [Answer.anomaly?, if_pos hshort]
    exact (List.append_nil _).symm
  | some header =>
    have hlength : 2 ≤ a.data.length := size_le_of_readStruct hheader
    rw [UsbConfiguration.readStruct_header hlength] at hheader
    obtain rfl := Option.some.inj hheader
    dsimp only
    by_cases hmatch : u8 a.data 1 = a.type
    swap
    · rw [if_pos hmatch, Answer.anomaly?, if_neg (Nat.not_lt.mpr hlength), if_pos hmatch]
      rfl
    rw [if_neg (not_not.mpr hmatch)]
    by_cases hconfig : a.type = usbDtConfig
    · rw [if_neg (by rw [hconfig]; decide), if_pos hconfig]
      exact d.anomalies_processConfigDescriptor ⟨hconfig, hlength, hmatch.trans hconfig⟩
    rw [anomaly?_eq_none hmatch hconfig, Option.toList_none, List.append_nil]
    split
    · exact d.anomalies_processDeviceDescriptor a.data
    split
    · exact d.anomalies_processStringDescriptor _ _ a.data
    split
    · exact d.anomalies_processBosDescriptor a.data
    · rfl

/-! ## What was read -/

/-- What a device holds of the answers to its descriptor requests. -/
structure Reads (d : Device π) (answers : List Answer) : Prop where
  hasDeviceDescriptor : d.hasDeviceDescriptor = (answers.filterMap Answer.device).getLast?.isSome
  deviceDescriptor : d.deviceDescriptor = (answers.filterMap Answer.device).getLast?.getD default
  strings : ∀ index : UInt8, d.strings[index]? =
    Maps.lastOf index (answers.filterMap Answer.string)
  bosDescriptors : d.bosDescriptors = answers.filterMap Answer.bos
  /-- The experts aside, a configuration is what its first set declares. -/
  configurations : ∀ value : UInt8, (d.configurations[value]?).map UsbConfiguration.bare =
    ((answers.filterMap Answer.set).find? (valueOf · = value)).map ofSet
  anomalies : d.anomalies = answers.filterMap Answer.anomaly?

theorem Reads.of_sameReads {d d' : Device π} {answers : List Answer} (h : d.Reads answers)
    (hsame : SameReads d d') : d'.Reads answers where
  hasDeviceDescriptor := hsame.hasDeviceDescriptor.trans h.hasDeviceDescriptor
  deviceDescriptor := hsame.deviceDescriptor.trans h.deviceDescriptor
  strings index := by rw [hsame.strings, h.strings]
  bosDescriptors := hsame.bosDescriptors.trans h.bosDescriptors
  configurations value := by rw [hsame.configurations, h.configurations]
  anomalies := hsame.anomalies.trans h.anomalies

/-- **Step lemma.** -/
theorem Reads.answered {d : Device π} {answers : List Answer} (h : d.Reads answers) (a : Answer) :
    (d.answered a).Reads (answers ++ [a]) := by
  have hstep := answers_answered d a
  have hdevice := hstep.device
  refine ⟨?_, ?_, ?_, ?_, ?_, ?_⟩
  · rw [Places.filterMap_concat]
    cases hread : a.device with
    | none =>
      rw [hread] at hdevice
      rw [Option.toList_none, List.append_nil, (Prod.mk.inj hdevice).1, h.hasDeviceDescriptor]
    | some descriptor =>
      rw [hread] at hdevice
      rw [Option.toList_some, List.getLast?_concat, (Prod.mk.inj hdevice).1]
      rfl
  · rw [Places.filterMap_concat]
    cases hread : a.device with
    | none =>
      rw [hread] at hdevice
      rw [Option.toList_none, List.append_nil, (Prod.mk.inj hdevice).2, h.deviceDescriptor]
    | some descriptor =>
      rw [hread] at hdevice
      rw [Option.toList_some, List.getLast?_concat, (Prod.mk.inj hdevice).2]
      rfl
  · intro index
    have hstrings := hstep.strings
    rw [Places.filterMap_concat]
    cases hread : a.string with
    | none =>
      rw [hread] at hstrings
      rw [Option.toList_none, List.append_nil, hstrings, h.strings]
    | some entry =>
      rw [hread] at hstrings
      rw [Option.toList_some, hstrings]
      exact Maps.getElem?_insert_lastOf h.strings entry index
  · rw [Places.filterMap_concat, hstep.bosDescriptors, h.bosDescriptors]
  · intro value
    have hstored := hstep.configurations
    rw [Places.filterMap_concat, List.find?_append]
    cases hread : a.set with
    | none =>
      rw [hread] at hstored
      rw [(Prod.mk.inj hstored).2, h.configurations, Option.toList_none, List.find?_nil,
        Option.or_none]
    | some set =>
      rw [hread] at hstored
      rw [(Prod.mk.inj hstored).2, bare_storeSet, h.configurations, Option.toList_some,
        List.find?_singleton, Option.map_or]
      by_cases hvalue : valueOf set = value
      · simp [hvalue]
      · simp [hvalue]
  · rw [Places.filterMap_concat, anomalies_answered, h.anomalies]

variable [Libplist π]

/-- **Step lemma.** Only an answer changes what was read. -/
theorem Reads.process {d : Device π} {answers : List Answer} (h : d.Reads answers)
    (p : DevicePacket) : (d.process p).Reads (answers ++ p.answer.toList) := by
  cases hanswer : p.answer with
  | none =>
    rw [Option.toList_none, List.append_nil]
    exact h.of_sameReads (sameReads_process d hanswer)
  | some a =>
    have hcounted : (d.counted a.data).Reads answers :=
      h.of_sameReads ⟨rfl, rfl, rfl, rfl, rfl, rfl⟩
    rw [d.process_of_answer hanswer]
    exact hcounted.answered a

/-- **Run lemma.** -/
theorem reads_run (id : UInt64) (packets : List DevicePacket) :
    ((new id : Device π).run packets).Reads (answersOf packets) := by
  induction packets using List.reverseRecOn with
  | nil =>
    refine ⟨rfl, rfl, fun index => Std.ExtTreeMap.getElem?_empty, rfl, ?_, rfl⟩
    intro value
    rw [run_nil, new, Std.ExtTreeMap.getElem?_empty]
    rfl
  | append_singleton packets p ih =>
    rw [run_concat, answersOf, Places.filterMap_concat]
    exact ih.process p

/-! ## Names -/

/-- UTF-8 decoded string descriptor, or `<unknown>`. -/
def getString (d : Device π) (index : UInt8) : Bytes :=
  d.strings[index]?.getD (textBytes "<unknown>")

def getProduct (d : Device π) : Bytes := d.getString d.deviceDescriptor.iProduct

def getManufacturer (d : Device π) : Bytes := d.getString d.deviceDescriptor.iManufacturer

def getSerial (d : Device π) : Bytes := d.getString d.deviceDescriptor.iSerialNumber

/-- The string that a field of the last device descriptor refers to. -/
def nameIn (answers : List Answer) (field : UsbDeviceDescriptor → UInt8) : Option Bytes :=
  (answers.filterMap Answer.device).getLast?.bind fun descriptor =>
    Maps.lastOf (field descriptor) (answers.filterMap Answer.string)

omit [Libplist π] in
/-- String zero is no string. -/
theorem lastOf_string_zero (answers : List Answer) :
    Maps.lastOf 0 (answers.filterMap Answer.string) = none := by
  rw [Maps.lastOf, List.filter_eq_nil_iff.mpr]
  · rfl
  · intro entry hentry hzero
    obtain ⟨a, -, hstring⟩ := List.mem_filterMap.mp hentry
    rw [Answer.string] at hstring
    split_ifs at hstring with hread
    obtain rfl := Option.some.inj hstring
    exact hread.2.1 (of_decide_eq_true hzero)

omit [Libplist π] in
theorem Reads.getString {d : Device π} {answers : List Answer} (h : d.Reads answers)
    (field : UsbDeviceDescriptor → UInt8) (hfield : field default = 0) :
    d.getString (field d.deviceDescriptor) =
      (nameIn answers field).getD (textBytes "<unknown>") := by
  rw [Device.getString, h.strings, h.deviceDescriptor, nameIn]
  cases (answers.filterMap Answer.device).getLast? with
  | none => rw [Option.getD_none, hfield, lastOf_string_zero, Option.bind_none]
  | some descriptor => rfl

/-- The names in the report are the last strings of the indices in the last device descriptor,
whichever was read first; without a descriptor, or for index zero, they are unknown. -/
theorem names_exact (id : UInt64) (packets : List DevicePacket) :
    let d : Device π := (new id).run packets
    let answers := answersOf packets
    d.getProduct = (nameIn answers (·.iProduct)).getD (textBytes "<unknown>") ∧
      d.getManufacturer = (nameIn answers (·.iManufacturer)).getD (textBytes "<unknown>") ∧
      d.getSerial = (nameIn answers (·.iSerialNumber)).getD (textBytes "<unknown>") := by
  intro d answers
  have hreads : d.Reads answers := reads_run id packets
  exact ⟨hreads.getString (·.iProduct) rfl, hreads.getString (·.iManufacturer) rfl,
    hreads.getString (·.iSerialNumber) rfl⟩

end Device

/-! ## What is selected -/

namespace DevicePacket

/-- SET_INTERFACE on endpoint 0. -/
def IsAlternate (endpoint : UInt8) (setup : UsbSetup) : Prop :=
  usbEndpointId endpoint = 0 ∧ setup.bmRequestType &&& usbTypeMask = usbTypeStandard ∧
    setup.bmRequestType &&& usbRecipMask = usbRecipInterface ∧ setup.bRequest = usbReqSetInterface

instance (endpoint : UInt8) (setup : UsbSetup) : Decidable (IsAlternate endpoint setup) :=
  inferInstanceAs (Decidable (_ ∧ _ ∧ _ ∧ _))

/-- The interface and the alternate setting that a transfer selects. -/
def alternate? : DevicePacket → Option (UInt8 × UInt8)
  | controlOut endpoint setup _ =>
    if IsAlternate endpoint setup then
      some ((setup.wIndex &&& 0xFF).toUInt8, (setup.wValue &&& 0xFF).toUInt8)
    else none
  | _ => none

/-- The alternate settings that were selected since the configuration was. -/
def alternatesSince (packets : List DevicePacket) : List (UInt8 × UInt8) :=
  (packets.rtakeWhile fun p => p.selection = none).filterMap alternate?

theorem alternatesSince_concat (packets : List DevicePacket) (p : DevicePacket) :
    alternatesSince (packets ++ [p]) =
      if p.selection = none then alternatesSince packets ++ p.alternate?.toList else [] := by
  unfold alternatesSince
  rw [List.rtakeWhile_concat]
  split
  · next hnone => rw [if_pos (of_decide_eq_true hnone), Places.filterMap_concat]
  · next hsome =>
    rw [if_neg fun hnone => hsome (decide_eq_true hnone)]
    rfl

end DevicePacket

namespace Device

variable {π : Type}

theorem withExpert_alternates (d : Device π) (i : Option Nat) (f : Expert π → Expert π) :
    (d.withExpert i f).alternates = d.alternates := by
  cases i <;> rfl

theorem DescriptorEffect.alternates {d d' : Device π} {setup : UsbSetup} {data : Bytes}
    (h : DescriptorEffect d setup data d') : d'.alternates = d.alternates := by
  cases h <;> rfl

variable [Libplist π]

/-- **Step lemma.** -/
theorem alternates_process (d : Device π) (p : DevicePacket) :
    (d.process p).alternates =
      if p.selection = none then
        p.alternate?.toList.foldl (fun m entry => m.insert entry.1 entry.2) d.alternates
      else ∅ := by
  cases p with
  | bulkIn endpoint data => exact withExpert_alternates _ _ _
  | bulkOut endpoint data => exact withExpert_alternates _ _ _
  | controlIn endpoint setup data =>
    show (d.processControlPacketIn endpoint setup data).alternates = d.alternates
    unfold processControlPacketIn
    dsimp only
    split
    · rfl
    split
    · split
      · exact (processDescriptor_effect _ setup data).alternates
      · rfl
    · exact withExpert_alternates _ _ _
  | controlOut endpoint setup data =>
    show (d.processControlPacketOut endpoint setup data).alternates = _
    rw [DevicePacket.selection, DevicePacket.alternate?]
    unfold processControlPacketOut
    dsimp only
    by_cases hselection : DevicePacket.IsSelection endpoint setup
    · rw [if_neg (not_not.mpr hselection.1), if_pos hselection.2.1, if_pos hselection.2.2,
        if_pos hselection, if_neg (Option.some_ne_none _)]
    rw [if_neg hselection, if_pos rfl]
    by_cases halternate : DevicePacket.IsAlternate endpoint setup
    · obtain ⟨hendpoint, hstandard, hset⟩ := id halternate
      rw [if_neg (not_not.mpr hendpoint), if_pos hstandard,
        if_neg fun h => hselection ⟨hendpoint, hstandard, h⟩, if_pos hset, if_pos halternate]
      rfl
    rw [if_neg halternate]
    split
    · rfl
    next hendpoint =>
    split
    · next hstandard =>
      rw [if_neg fun h => hselection ⟨not_not.mp hendpoint, hstandard, h⟩,
        if_neg fun h => halternate ⟨not_not.mp hendpoint, hstandard, h⟩]
      rfl
    · exact withExpert_alternates _ _ _

/-- **Run lemma.** -/
theorem alternates_run (id : UInt64) (packets : List DevicePacket) (n : UInt8) :
    ((new id : Device π).run packets).alternates[n]? =
      Maps.lastOf n (DevicePacket.alternatesSince packets) := by
  induction packets using List.reverseRecOn generalizing n with
  | nil => exact Std.ExtTreeMap.getElem?_empty
  | append_singleton packets p ih =>
    rw [run_concat, alternates_process, DevicePacket.alternatesSince_concat]
    by_cases hselection : p.selection = none
    · rw [if_pos hselection, if_pos hselection]
      cases p.alternate? with
      | none =>
        rw [Option.toList_none, List.append_nil]
        exact ih n
      | some entry => exact Maps.getElem?_insert_lastOf ih entry n
    · rw [if_neg hselection, if_neg hselection]
      exact Std.ExtTreeMap.getElem?_empty

/-- In every run, what a device holds of its descriptors is a function of the answers alone,
whatever is between them; its configuration is the one that was selected last, and the
alternate setting of an interface the one that was selected last since then. -/
theorem control_pipe_exact (id : UInt64) (packets : List DevicePacket) :
    let d : Device π := (new id).run packets
    d.Reads (answersOf packets) ∧
      d.currentConfiguration = (DevicePacket.lastSelection packets).getD 0 ∧
      ∀ n, d.getAlternateSetting n =
        (Maps.lastOf n (DevicePacket.alternatesSince packets)).getD 0 := by
  intro d
  refine ⟨reads_run id packets, currentConfiguration_run (new id) packets, ?_⟩
  intro n
  rw [getAlternateSetting, alternates_run]

end Device

end DemuxUsb
