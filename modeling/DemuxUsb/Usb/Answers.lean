import DemuxUsb.Usb.ConfigurationGrammar
import DemuxUsb.Usb.Routing

/-!
# Answers to descriptor requests

What a device stores of an answer is a function of the answer: a device descriptor, the set
of a configuration, a string or a BOS descriptor. `answers_answered` says once what each
field of a device is behind an answer; every other transfer leaves all of them alone
(`sameReads_process`).
-/

namespace DemuxUsb

open Endian

/-! ## Answers -/

/-- What a GET_DESCRIPTOR request asked for, and the data of its answer. -/
structure Answer where
  wValue : UInt16
  data : Bytes
  deriving DecidableEq

namespace Answer

def type (a : Answer) : UInt8 := (a.wValue >>> 8).toUInt8
def index (a : Answer) : UInt8 := (a.wValue &&& 0xFF).toUInt8

/-- A descriptor of the type that was asked for. -/
def IsOf (a : Answer) (type : UInt8) : Prop :=
  a.type = type ∧ 2 ≤ a.data.length ∧ u8 a.data 1 = type

instance (a : Answer) (type : UInt8) : Decidable (a.IsOf type) :=
  inferInstanceAs (Decidable (_ ∧ _ ∧ _))

/-- The device descriptor of an answer that holds all of it. -/
def device (a : Answer) : Option UsbDeviceDescriptor :=
  if a.IsOf usbDtDevice then readStruct UsbDeviceDescriptor a.data else none

/-- The descriptor set of an answer that holds all of it. An answer of nine bytes is taken
for the read that asks how long the set is. -/
def set (a : Answer) : Option Bytes :=
  if a.IsOf usbDtConfig then
    (readStruct UsbConfigDescriptor a.data).bind fun descriptor =>
      if a.data.length < descriptor.wTotalLength.toNat ∨
          descriptor.wTotalLength.toNat ≤ usbDtConfigSize then none
      else some (a.data.take descriptor.wTotalLength.toNat)
  else none

/-- The string of an answer that holds all of it, with its index. String zero is the list of
languages. -/
def string (a : Answer) : Option (UInt8 × Bytes) :=
  if a.IsOf usbDtString ∧ a.index ≠ 0 ∧
      ¬ (u8 a.data 0 < 2 ∨ a.data.length < (u8 a.data 0).toNat) then
    some (a.index, utf16leToUtf8 ((a.data.drop 2).take ((u8 a.data 0).toNat - 2)))
  else none

/-- The BOS descriptor of an answer that holds all of it. -/
def bos (a : Answer) : Option BosDescriptor :=
  if a.IsOf usbDtBos then
    (readStruct UsbBosDescriptor a.data).bind fun descriptor =>
      let total := descriptor.wTotalLength.toNat
      if total < usbDtBosSize ∨ a.data.length < total then none
      else if total = usbDtBosSize ∧ descriptor.bNumDeviceCaps ≠ 0 then none
      else some ⟨descriptor, (a.data.take total).drop usbDtBosSize⟩
  else none

end Answer

/-- The answer in a transfer to the device on endpoint 0. -/
def DevicePacket.answer : DevicePacket → Option Answer
  | .controlIn endpoint setup data =>
    if usbEndpointId endpoint = 0 ∧ setup.bmRequestType &&& usbTypeMask = usbTypeStandard ∧
        setup.bRequest = usbReqGetDescriptor ∧
        setup.bmRequestType &&& usbRecipMask = usbRecipDevice then
      some ⟨setup.wValue, data⟩
    else none
  | _ => none

namespace UsbConfiguration

/-- What a descriptor set declares, as far as it is well formed. -/
def ofSet (set : Bytes) : UsbConfiguration := interpret (descriptors set)

/-- The value of the configuration that a descriptor set declares. -/
def valueOf (set : Bytes) : UInt8 := (ofSet set).descriptor.bConfigurationValue

theorem parse_eq_ofSet (set : Bytes) : (parse {} set).1 = ofSet set := congrArg Prod.fst (parse_eq set)

end UsbConfiguration

namespace Device

open UsbConfiguration (ofSet valueOf)

variable {π : Type}

/-- The device behind an answer. -/
def answered (d : Device π) (a : Answer) : Device π := d.processDescriptor ⟨0, 0, a.wValue, 0, 0⟩ a.data

/-- What was read from the device is the same. -/
structure SameReads (d d' : Device π) : Prop where
  hasDeviceDescriptor : d'.hasDeviceDescriptor = d.hasDeviceDescriptor
  deviceDescriptor : d'.deviceDescriptor = d.deviceDescriptor
  configurations : d'.configurations = d.configurations
  strings : d'.strings = d.strings
  bosDescriptors : d'.bosDescriptors = d.bosDescriptors
  anomalies : d'.anomalies = d.anomalies

/-! ## What is stored -/

/-- The configuration of a descriptor set, unless one of its value is stored. -/
def storeSet (d : Device π) (set : Bytes) : Device π :=
  if valueOf set ∈ d.configurations then d
  else
    { d with
      experts := (d.attachExperts (ofSet set)).1
      configurations := d.configurations.insert (valueOf set) (d.attachExperts (ofSet set)).2 }

section Kinds

variable (d : Device π) (a : Answer)

theorem processDeviceDescriptor_eq (h : a.IsOf usbDtDevice) :
    d.processDeviceDescriptor a.data =
      match a.device with
      | none => d
      | some descriptor => { d with deviceDescriptor := descriptor, hasDeviceDescriptor := true } := by
  have hsize : Layout.size UsbDeviceDescriptor = usbDtDeviceSize := rfl
  unfold processDeviceDescriptor
  rw [Answer.device, if_pos h]
  by_cases hshort : a.data.length < usbDtDeviceSize
  · rw [if_pos hshort, readStruct_of_lt (by omega)]
  · rw [if_neg hshort, readStruct_of_le (by omega)]
    rfl

theorem processConfigDescriptor_eq (h : a.IsOf usbDtConfig) :
    match a.set with
    | none => d.processConfigDescriptor a.data = d
    | some set => ∃ anomalies,
      d.processConfigDescriptor a.data = { d.storeSet set with anomalies := anomalies } ∧
        (UsbConfiguration.IsSet set → anomalies = d.anomalies) := by
  unfold processConfigDescriptor
  rw [Answer.set, if_pos h]
  cases readStruct UsbConfigDescriptor a.data with
  | none => rfl
  | some descriptor =>
    dsimp only [Option.bind_some]
    by_cases hpartial : a.data.length < descriptor.wTotalLength.toNat ∨
        descriptor.wTotalLength.toNat ≤ usbDtConfigSize
    · rw [if_pos hpartial, if_pos hpartial]
    rw [if_neg hpartial, if_neg hpartial]
    dsimp only
    rw [UsbConfiguration.parse_eq]
    dsimp only
    -- the report of a malformed set changes nothing that the set is stored by
    have hstore : ∀ anomalies, (if valueOf (a.data.take descriptor.wTotalLength.toNat) ∈
          d.configurations then { d with anomalies := anomalies }
        else
          { d with
            anomalies := anomalies
            experts := (d.attachExperts
              (ofSet (a.data.take descriptor.wTotalLength.toNat))).1
            configurations := d.configurations.insert
              (valueOf (a.data.take descriptor.wTotalLength.toNat))
              (d.attachExperts (ofSet (a.data.take descriptor.wTotalLength.toNat))).2 }) =
        { d.storeSet (a.data.take descriptor.wTotalLength.toNat) with anomalies := anomalies } := by
      intro anomalies
      unfold storeSet
      split <;> rfl
    by_cases hset : (UsbConfiguration.descriptors
        (a.data.take descriptor.wTotalLength.toNat)).flatten =
          a.data.take descriptor.wTotalLength.toNat
    · rw [decide_eq_true hset, if_pos rfl]
      exact ⟨d.anomalies, hstore d.anomalies, fun _ => rfl⟩
    · rw [decide_eq_false hset, if_neg Bool.false_ne_true]
      exact ⟨_, hstore _, fun hwell => absurd ((UsbConfiguration.isSet_iff _).mp hwell) hset⟩

theorem processStringDescriptor_eq (h : a.IsOf usbDtString) :
    d.processStringDescriptor a.index ⟨u8 a.data 0, u8 a.data 1⟩ a.data =
      match a.string with
      | none => d
      | some (index, text) => { d with strings := d.strings.insert index text } := by
  unfold processStringDescriptor Answer.string
  by_cases hzero : a.index = 0
  · rw [if_pos hzero, if_neg (fun hr => hr.2.1 hzero)]
  rw [if_neg hzero]
  by_cases hpartial : u8 a.data 0 < 2 ∨ a.data.length < (u8 a.data 0).toNat
  · rw [if_pos hpartial, if_neg (fun hr => hr.2.2 hpartial)]
  · rw [if_neg hpartial, if_pos ⟨h, hzero, hpartial⟩]

theorem processBosDescriptor_eq (h : a.IsOf usbDtBos) :
    d.processBosDescriptor a.data =
      { d with bosDescriptors := d.bosDescriptors ++ a.bos.toList } := by
  have hnil : d = { d with bosDescriptors := d.bosDescriptors ++ [] } := by
    rw [List.append_nil]
  unfold processBosDescriptor
  rw [Answer.bos, if_pos h]
  cases readStruct UsbBosDescriptor a.data with
  | none => exact hnil
  | some descriptor =>
    dsimp only [Option.bind_some]
    split
    · exact hnil
    split
    · exact hnil
    · rfl

end Kinds

/-- What an answer makes of a device. -/
structure Answers (d : Device π) (a : Answer) (d' : Device π) : Prop where
  device : (d'.hasDeviceDescriptor, d'.deviceDescriptor) =
    match a.device with
    | none => (d.hasDeviceDescriptor, d.deviceDescriptor)
    | some descriptor => (true, descriptor)
  configurations : (d'.experts, d'.configurations) =
    match a.set with
    | none => (d.experts, d.configurations)
    | some set => ((d.storeSet set).experts, (d.storeSet set).configurations)
  strings : d'.strings =
    match a.string with
    | none => d.strings
    | some (index, text) => d.strings.insert index text
  bosDescriptors : d'.bosDescriptors = d.bosDescriptors ++ a.bos.toList
  anomalies : a.IsOf a.type → (∀ set ∈ a.set, UsbConfiguration.IsSet set) →
    d'.anomalies = d.anomalies

section Answered

variable {d : Device π} {a : Answer}

theorem device_eq_none (h : ¬ a.IsOf usbDtDevice) : a.device = none := if_neg h

theorem set_eq_none (h : ¬ a.IsOf usbDtConfig) : a.set = none := if_neg h

theorem string_eq_none (h : ¬ a.IsOf usbDtString) : a.string = none := if_neg (fun hr => h hr.1)

theorem bos_eq_none (h : ¬ a.IsOf usbDtBos) : a.bos = none := if_neg h

/-- The type that was asked for is the only one. -/
theorem not_isOf {type other : UInt8} (h : a.IsOf type) (hne : type ≠ other) : ¬ a.IsOf other :=
  fun hother => hne (h.1.symm.trans hother.1)

/-- An answer of which nothing is stored. -/
theorem Answers.of_kept {anomalies : List String} (hdevice : ¬ a.IsOf usbDtDevice)
    (hconfig : ¬ a.IsOf usbDtConfig) (hstring : ¬ a.IsOf usbDtString) (hbos : ¬ a.IsOf usbDtBos)
    (hanomalies : a.IsOf a.type → anomalies = d.anomalies) :
    Answers d a { d with anomalies := anomalies } := by
  constructor
  · rw [device_eq_none hdevice]
  · rw [set_eq_none hconfig]
  · rw [string_eq_none hstring]
  · rw [bos_eq_none hbos]
    exact (List.append_nil _).symm
  · intro hmatch _
    exact hanomalies hmatch

theorem answers_device (h : a.IsOf usbDtDevice) : Answers d a (d.processDeviceDescriptor a.data) := by
  rw [processDeviceDescriptor_eq d a h]
  constructor
  · cases a.device <;> rfl
  · rw [set_eq_none (not_isOf h (by decide))]
    cases a.device <;> rfl
  · rw [string_eq_none (not_isOf h (by decide))]
    cases a.device <;> rfl
  · rw [bos_eq_none (not_isOf h (by decide))]
    cases a.device <;> exact (List.append_nil _).symm
  · intro _ _
    cases a.device <;> rfl

theorem storeSet_same (d : Device π) (set : Bytes) :
    SameReads { d with configurations := (d.storeSet set).configurations } (d.storeSet set) := by
  unfold storeSet
  split <;> exact ⟨rfl, rfl, rfl, rfl, rfl, rfl⟩

theorem answers_config (h : a.IsOf usbDtConfig) : Answers d a (d.processConfigDescriptor a.data) := by
  have hdevice := device_eq_none (not_isOf h (by decide))
  have hstring := string_eq_none (not_isOf h (by decide))
  have hbos := bos_eq_none (not_isOf h (by decide))
  have heq := processConfigDescriptor_eq d a h
  cases hset : a.set with
  | none =>
    rw [hset] at heq
    dsimp only at heq
    rw [heq]
    constructor
    · rw [hdevice]
    · rw [hset]
    · rw [hstring]
    · rw [hbos]
      exact (List.append_nil _).symm
    · exact fun _ _ => rfl
  | some set =>
    rw [hset] at heq
    obtain ⟨anomalies, heq, hanomalies⟩ := heq
    have hsame := storeSet_same d set
    rw [heq]
    constructor
    · rw [hdevice]
      exact Prod.ext hsame.hasDeviceDescriptor hsame.deviceDescriptor
    · rw [hset]
    · rw [hstring]
      exact hsame.strings
    · rw [hbos]
      exact hsame.bosDescriptors.trans (List.append_nil _).symm
    · intro _ hwell
      exact hanomalies (hwell set hset)

theorem answers_string (h : a.IsOf usbDtString) :
    Answers d a (d.processStringDescriptor a.index ⟨u8 a.data 0, u8 a.data 1⟩ a.data) := by
  rw [processStringDescriptor_eq d a h]
  constructor
  · rw [device_eq_none (not_isOf h (by decide))]
    cases a.string <;> rfl
  · rw [set_eq_none (not_isOf h (by decide))]
    cases a.string <;> rfl
  · cases a.string <;> rfl
  · rw [bos_eq_none (not_isOf h (by decide))]
    cases a.string <;> exact (List.append_nil _).symm
  · intro _ _
    cases a.string <;> rfl

theorem answers_bos (h : a.IsOf usbDtBos) : Answers d a (d.processBosDescriptor a.data) := by
  rw [processBosDescriptor_eq d a h]
  constructor
  · rw [device_eq_none (not_isOf h (by decide))]
  · rw [set_eq_none (not_isOf h (by decide))]
  · rw [string_eq_none (not_isOf h (by decide))]
  · rfl
  · exact fun _ _ => rfl

/-- **Step lemma.** -/
theorem answers_answered (d : Device π) (a : Answer) : Answers d a (d.answered a) := by
  unfold answered processDescriptor
  dsimp only
  have htype : (a.wValue >>> 8).toUInt8 = a.type := rfl
  rw [htype]
  cases hheader : readStruct UsbDescriptorHeader a.data with
  | none =>
    have hshort : ∀ type, ¬ a.IsOf type := by
      intro type hof
      rw [UsbConfiguration.readStruct_header hof.2.1] at hheader
      cases hheader
    exact .of_kept (hshort _) (hshort _) (hshort _) (hshort _) (fun _ => rfl)
  | some header =>
    have hlength : 2 ≤ a.data.length := size_le_of_readStruct hheader
    rw [UsbConfiguration.readStruct_header hlength] at hheader
    obtain rfl := Option.some.inj hheader
    dsimp only
    by_cases hmatch : u8 a.data 1 = a.type
    swap
    · rw [if_pos hmatch]
      have hnone : ∀ type, ¬ a.IsOf type := fun type hof => hmatch (hof.2.2.trans hof.1.symm)
      exact .of_kept (hnone _) (hnone _) (hnone _) (hnone _) (fun hof => absurd hof (hnone _))
    have hof : ∀ type, a.IsOf type ↔ a.type = type := fun type =>
      ⟨And.left, fun h => ⟨h, hlength, hmatch.trans h⟩⟩
    rw [if_neg (not_not.mpr hmatch)]
    by_cases hdevice : a.type = usbDtDevice
    · rw [if_pos hdevice]
      exact answers_device ((hof _).mpr hdevice)
    rw [if_neg hdevice]
    by_cases hconfig : a.type = usbDtConfig
    · rw [if_pos hconfig]
      exact answers_config ((hof _).mpr hconfig)
    rw [if_neg hconfig]
    by_cases hstring : a.type = usbDtString
    · rw [if_pos hstring]
      exact answers_string ((hof _).mpr hstring)
    rw [if_neg hstring]
    by_cases hbos : a.type = usbDtBos
    · rw [if_pos hbos]
      exact answers_bos ((hof _).mpr hbos)
    rw [if_neg hbos]
    exact .of_kept (mt (hof _).mp hdevice) (mt (hof _).mp hconfig) (mt (hof _).mp hstring)
      (mt (hof _).mp hbos) (fun _ => rfl)

end Answered

/-! ## Transfers -/

variable [Libplist π]

/-- The bytes of a transfer on endpoint 0 are counted. -/
def counted (d : Device π) (data : Bytes) : Device π :=
  { d with
    controlPacketCount := d.controlPacketCount + 1
    controlByteCount := d.controlByteCount + UInt64.ofNat data.length }

theorem process_of_answer (d : Device π) {p : DevicePacket} {a : Answer} (h : p.answer = some a) :
    d.process p = (d.counted a.data).answered a := by
  cases p with
  | controlIn endpoint setup data =>
    rw [DevicePacket.answer] at h
    by_cases hread : usbEndpointId endpoint = 0 ∧
        setup.bmRequestType &&& usbTypeMask = usbTypeStandard ∧
        setup.bRequest = usbReqGetDescriptor ∧ setup.bmRequestType &&& usbRecipMask = usbRecipDevice
    · rw [if_pos hread] at h
      obtain rfl := Option.some.inj h
      obtain ⟨hendpoint, hstandard, hget⟩ := hread
      show d.processControlPacketIn endpoint setup data = _
      unfold processControlPacketIn
      dsimp only
      rw [if_neg (not_not.mpr hendpoint), if_pos hstandard, if_pos hget]
      rfl
    · rw [if_neg hread] at h
      cases h
  | controlOut endpoint setup data => cases h
  | bulkIn endpoint data => cases h
  | bulkOut endpoint data => cases h

omit [Libplist π] in
theorem sameReads_withExpert {d d' : Device π} (h : SameReads d d') (i : Option Nat)
    (f : Expert π → Expert π) : SameReads d (d'.withExpert i f) := by
  cases i with
  | none => exact h
  | some i => exact ⟨h.1, h.2, h.3, h.4, h.5, h.6⟩

/-- Nothing else is read from the device. -/
theorem sameReads_process (d : Device π) {p : DevicePacket} (h : p.answer = none) :
    SameReads d (d.process p) := by
  cases p with
  | controlIn endpoint setup data =>
    rw [DevicePacket.answer] at h
    have hread : ¬ (usbEndpointId endpoint = 0 ∧
        setup.bmRequestType &&& usbTypeMask = usbTypeStandard ∧
        setup.bRequest = usbReqGetDescriptor ∧
        setup.bmRequestType &&& usbRecipMask = usbRecipDevice) := by
      intro hread
      rw [if_pos hread] at h
      cases h
    show SameReads d (d.processControlPacketIn endpoint setup data)
    unfold processControlPacketIn
    dsimp only
    split
    · exact ⟨rfl, rfl, rfl, rfl, rfl, rfl⟩
    next hendpoint =>
    split
    · next hstandard =>
      rw [if_neg (fun hget => hread ⟨not_not.mp hendpoint, hstandard, hget⟩)]
      exact ⟨rfl, rfl, rfl, rfl, rfl, rfl⟩
    · refine sameReads_withExpert ?_ _ _
      exact ⟨rfl, rfl, rfl, rfl, rfl, rfl⟩
  | controlOut endpoint setup data =>
    show SameReads d (d.processControlPacketOut endpoint setup data)
    unfold processControlPacketOut
    dsimp only
    split
    · exact ⟨rfl, rfl, rfl, rfl, rfl, rfl⟩
    split
    · split
      · exact ⟨rfl, rfl, rfl, rfl, rfl, rfl⟩
      split <;> exact ⟨rfl, rfl, rfl, rfl, rfl, rfl⟩
    · refine sameReads_withExpert ?_ _ _
      exact ⟨rfl, rfl, rfl, rfl, rfl, rfl⟩
  | bulkIn endpoint data =>
    show SameReads d (d.processBulkPacketIn endpoint data)
    refine sameReads_withExpert ?_ _ _
    exact ⟨rfl, rfl, rfl, rfl, rfl, rfl⟩
  | bulkOut endpoint data =>
    show SameReads d (d.processBulkPacketOut endpoint data)
    refine sameReads_withExpert ?_ _ _
    exact ⟨rfl, rfl, rfl, rfl, rfl, rfl⟩

end Device

end DemuxUsb
