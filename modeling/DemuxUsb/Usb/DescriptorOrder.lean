import DemuxUsb.Usb.ExpertAttachment

/-!
# The order of the descriptors

Experts are attached when a configuration is stored, by the device descriptor known by
then. When the configuration was captured before the device descriptor, every device looks
like one of no vendor. `descriptors_in_either_order_iff` says for which descriptors that
makes no difference: those whose interfaces are decided by their class.
-/

namespace DemuxUsb

variable {π : Type}

/-! ## Responses -/

/-- A response to a GET_DESCRIPTOR request to the device on endpoint 0. -/
structure DescriptorRead (descriptorType : UInt8) where
  endpoint : UInt8
  setup : UsbSetup
  data : Bytes
  control : usbEndpointId endpoint = 0
  standard : setup.bmRequestType &&& usbTypeMask = usbTypeStandard
  recipient : setup.bmRequestType &&& usbRecipMask = usbRecipDevice
  request : setup.bRequest = usbReqGetDescriptor
  value : (setup.wValue >>> 8).toUInt8 = descriptorType
  header : UsbDescriptorHeader
  read_header : readStruct UsbDescriptorHeader data = some header
  type : header.bDescriptorType = descriptorType

def DescriptorRead.packet {descriptorType : UInt8} (r : DescriptorRead descriptorType) :
    DevicePacket := .controlIn r.endpoint r.setup r.data

/-- A complete device descriptor. -/
structure DeviceDescriptorRead extends DescriptorRead usbDtDevice where
  descriptor : UsbDeviceDescriptor
  read : readStruct UsbDeviceDescriptor data = some descriptor

/-- A complete descriptor set of a configuration, well-formed or not. -/
structure ConfigDescriptorRead extends DescriptorRead usbDtConfig where
  descriptor : UsbConfigDescriptor
  read : readStruct UsbConfigDescriptor data = some descriptor
  complete : descriptor.wTotalLength.toNat ≤ data.length

/-- The configuration that is read. -/
def ConfigDescriptorRead.configuration (r : ConfigDescriptorRead) : UsbConfiguration :=
  (UsbConfiguration.parse {} (r.data.take r.descriptor.wTotalLength.toNat)).1

namespace Device

/-! ## What the devices have in common -/

/-- The class of the expert of every entry of a configuration. -/
def kinds (d : Device π) (config : UsbConfiguration) : List (Option ExpertKind) :=
  config.interfaces.map fun i => (i.expert.bind (d.experts[·]?)).map (·.identity.kind)

/-- The same descriptors, and experts of the same class. -/
structure Alike (d d' : Device π) : Prop where
  hasDeviceDescriptor : d.hasDeviceDescriptor = d'.hasDeviceDescriptor
  deviceDescriptor : d.deviceDescriptor = d'.deviceDescriptor
  configurations : ∀ value : UInt8,
    (d.configurations[value]?).map (·.assign fun _ => none) =
      (d'.configurations[value]?).map (·.assign fun _ => none)
  kinds : ∀ (value : UInt8) (config config' : UsbConfiguration),
    d.configurations[value]? = some config → d'.configurations[value]? = some config' →
      d.kinds config = d'.kinds config'

end Device

/-! ## What decides the class of an expert -/

namespace UsbInterfaceDescriptor

def IsUsbmux (descriptor : UsbInterfaceDescriptor) : Prop :=
  descriptor.bInterfaceClass = usbClassApplicationSpecific ∧
    descriptor.bInterfaceSubClass = appleSubclassUsbmux ∧
    descriptor.bInterfaceProtocol = appleProtocolUsbmux2

def IsDfu (descriptor : UsbInterfaceDescriptor) : Prop :=
  descriptor.bInterfaceClass = usbClassDfu ∧ descriptor.bInterfaceSubClass = usbSubclassDfu

instance (descriptor : UsbInterfaceDescriptor) : Decidable descriptor.IsUsbmux :=
  inferInstanceAs (Decidable (_ ∧ _ ∧ _))

instance (descriptor : UsbInterfaceDescriptor) : Decidable descriptor.IsDfu :=
  inferInstanceAs (Decidable (_ ∧ _))

theorem IsUsbmux.not_isDfu {descriptor : UsbInterfaceDescriptor} (h : descriptor.IsUsbmux) :
    ¬ descriptor.IsDfu := by
  intro hdfu
  have hclass : usbClassApplicationSpecific = usbClassDfu := h.1.symm.trans hdfu.1
  exact absurd hclass (by decide)

end UsbInterfaceDescriptor

namespace Device

/-- Every interface gets an expert of the class it would get on a device of no vendor. -/
def DecidedByClass (d : Device π) (config : UsbConfiguration) : Prop :=
  let descriptors := config.interfaces.map UsbInterface.interface
  if d.isApple = false then True
  else if d.isAppleDFU = true then
    ∀ x ∈ descriptors, ∃ y ∈ descriptors, y.bInterfaceNumber = x.bInterfaceNumber ∧ y.IsDfu
  else if d.isAppleRecovery = true then descriptors = []
  else
    ∀ x ∈ descriptors, ∀ y,
      descriptors.find? (fun y => y.bInterfaceNumber = x.bInterfaceNumber ∧
        (y.IsUsbmux ∨ y.IsDfu)) = some y → ¬ y.IsUsbmux

/-- The class of a DFU expert of the configuration. -/
def dfuKind (config : UsbConfiguration) : ExpertKind :=
  .dfu (if config.hasDfuDescriptor then config.dfuDescriptor.wTransferSize else 0)

section Kinds

variable {d : Device π} {config : UsbConfiguration} {x : UsbInterfaceDescriptor}

theorem interfaceExpert_eq (d : Device π) (config : UsbConfiguration)
    (x : UsbInterfaceDescriptor) : d.interfaceExpert config x =
      if d.isApple = true ∧ x.IsUsbmux then
        some (.usbmux { configuration := config.descriptor.bConfigurationValue
                        interface := x.bInterfaceNumber })
      else if x.IsDfu then some (dfuExpert config x.bInterfaceNumber) else none := rfl

variable (config) in
theorem interfaceExpert_of_isUsbmux (happle : d.isApple = true) (h : x.IsUsbmux) :
    ∃ e, d.interfaceExpert config x = some e ∧ e.identity.kind = .usbmux := by
  rw [interfaceExpert_eq, if_pos ⟨happle, h⟩]
  exact ⟨_, rfl, rfl⟩

variable (d config) in
theorem interfaceExpert_of_isDfu (h : x.IsDfu) :
    ∃ e, d.interfaceExpert config x = some e ∧ e.identity.kind = dfuKind config := by
  have husbmux : ¬ (d.isApple = true ∧ x.IsUsbmux) := by
    rintro ⟨-, husbmux⟩
    exact husbmux.not_isDfu h
  rw [interfaceExpert_eq, if_neg husbmux, if_pos h]
  exact ⟨_, rfl, rfl⟩

theorem interfaceExpert_of_not (husbmux : ¬ (d.isApple = true ∧ x.IsUsbmux)) (hdfu : ¬ x.IsDfu) :
    d.interfaceExpert config x = none := by
  rw [interfaceExpert_eq, if_neg husbmux, if_neg hdfu]

theorem calledFor_cons (number : UInt8) (rest : List UsbInterfaceDescriptor) :
    d.calledFor config number (x :: rest) =
      (if x.bInterfaceNumber = number then d.interfaceExpert config x else none).or
        (d.calledFor config number rest) := by
  unfold calledFor
  rw [List.findSome?_cons]
  cases (if x.bInterfaceNumber = number then d.interfaceExpert config x else none) <;> rfl

theorem calledFor_cons_some {number : UInt8} {e : Expert π} (hnumber : x.bInterfaceNumber = number)
    (he : d.interfaceExpert config x = some e) (rest : List UsbInterfaceDescriptor) :
    d.calledFor config number (x :: rest) = some e := by
  rw [calledFor_cons, if_pos hnumber, he, Option.some_or]

theorem calledFor_cons_none {number : UInt8}
    (h : x.bInterfaceNumber = number → d.interfaceExpert config x = none)
    (rest : List UsbInterfaceDescriptor) :
    d.calledFor config number (x :: rest) = d.calledFor config number rest := by
  rw [calledFor_cons]
  split
  · next hnumber => rw [h hnumber, Option.none_or]
  · exact Option.none_or

/-- Without a vendor only the DFU class counts. -/
theorem calledFor_of_not_isApple (happle : d.isApple = false) (number : UInt8)
    (descriptors : List UsbInterfaceDescriptor) :
    (d.calledFor config number descriptors).map (·.identity.kind) =
      if ∃ x ∈ descriptors, x.bInterfaceNumber = number ∧ x.IsDfu then some (dfuKind config)
      else none := by
  induction descriptors with
  | nil => rfl
  | cons x rest ih =>
    by_cases hx : x.bInterfaceNumber = number ∧ x.IsDfu
    · obtain ⟨e, he, hkind⟩ := interfaceExpert_of_isDfu d config hx.2
      have hexists : ∃ y ∈ x :: rest, y.bInterfaceNumber = number ∧ y.IsDfu :=
        ⟨x, List.mem_cons_self, hx⟩
      rw [calledFor_cons_some hx.1 he, if_pos hexists, Option.map_some, hkind]
    · rw [calledFor_cons_none, ih]
      · simp only [List.exists_mem_cons_iff, hx, false_or]
      · intro hnumber
        refine interfaceExpert_of_not ?_ fun hdfu => hx ⟨hnumber, hdfu⟩
        rw [happle]
        exact fun h => Bool.noConfusion h.1

/-- The usbmux class counts only with the vendor; it matters when it comes first. -/
theorem calledFor_kind_eq_iff {d' : Device π} (happle : d.isApple = true)
    (happle' : d'.isApple = false) (number : UInt8) (descriptors : List UsbInterfaceDescriptor) :
    (d.calledFor config number descriptors).map (·.identity.kind) =
        (d'.calledFor config number descriptors).map (·.identity.kind) ↔
      ∀ y, descriptors.find? (fun y => y.bInterfaceNumber = number ∧
        (y.IsUsbmux ∨ y.IsDfu)) = some y → ¬ y.IsUsbmux := by
  induction descriptors with
  | nil => simp [calledFor]
  | cons x rest ih =>
    by_cases hnumber : x.bInterfaceNumber = number
    · by_cases husbmux : x.IsUsbmux
      · obtain ⟨e, he, hkind⟩ := interfaceExpert_of_isUsbmux config happle husbmux
        rw [calledFor_cons_some hnumber he, Option.map_some, hkind,
          calledFor_of_not_isApple happle']
        rw [List.find?_cons_of_pos (by simp [hnumber, husbmux])]
        constructor
        · intro h
          split at h
          · cases Option.some.inj h
          · cases h
        · intro h
          exact absurd husbmux (h x rfl)
      by_cases hdfu : x.IsDfu
      · obtain ⟨e, he, hkind⟩ := interfaceExpert_of_isDfu d config hdfu
        obtain ⟨e', he', hkind'⟩ := interfaceExpert_of_isDfu d' config hdfu
        rw [calledFor_cons_some hnumber he, calledFor_cons_some hnumber he', Option.map_some,
          Option.map_some, hkind, hkind', List.find?_cons_of_pos (by simp [hnumber, hdfu])]
        constructor
        · rintro - y hy
          rw [← Option.some.inj hy]
          exact husbmux
        · exact fun _ => rfl
      · rw [calledFor_cons_none fun _ => interfaceExpert_of_not (fun h => husbmux h.2) hdfu,
          calledFor_cons_none fun _ => interfaceExpert_of_not (fun h => husbmux h.2) hdfu, ih,
          List.find?_cons_of_neg (by simp [husbmux, hdfu])]
    · rw [calledFor_cons_none fun h => absurd h hnumber,
        calledFor_cons_none fun h => absurd h hnumber, ih,
        List.find?_cons_of_neg (by simp [hnumber])]

theorem expertFor_of_not_isApple (happle : d.isApple = false) (number : UInt8) :
    d.expertFor config number =
      d.calledFor config number (config.interfaces.map UsbInterface.interface) := by
  have hdevice : d.deviceExpert config = none := by
    unfold isApple at happle
    simp only [deviceExpert, isAppleDFU, isAppleRecovery, happle, Bool.false_and,
      Bool.false_eq_true, if_false]
  rw [expertFor, hdevice]

theorem calledFor_congr {d' : Device π} (happle : d.isApple = d'.isApple) (number : UInt8)
    (descriptors : List UsbInterfaceDescriptor) :
    d.calledFor config number descriptors = d'.calledFor config number descriptors := by
  simp only [calledFor, interfaceExpert_eq, happle]

/-- Two devices that differ in their descriptors give every interface an expert of the same
class. -/
theorem decidedByClass_iff {d' : Device π} (happle' : d'.isApple = false) :
    (∀ x ∈ config.interfaces.map UsbInterface.interface,
      (d.expertFor config x.bInterfaceNumber).map (·.identity.kind) =
        (d'.expertFor config x.bInterfaceNumber).map (·.identity.kind)) ↔
      d.DecidedByClass config := by
  simp only [expertFor_of_not_isApple happle']
  unfold DecidedByClass
  dsimp only
  split
  · next happle =>
    refine iff_of_true ?_ trivial
    intro x _
    rw [expertFor_of_not_isApple happle, calledFor_congr (happle.trans happle'.symm)]
  next happle =>
  rw [Bool.not_eq_false] at happle
  split
  · next hdfu =>
    have hexpert : ∀ number, (d.expertFor config number).map (·.identity.kind) =
        some (dfuKind config) := by
      intro number
      rw [expertFor, deviceExpert, if_pos hdfu]
      rfl
    apply forall₂_congr
    intro x _
    rw [hexpert, calledFor_of_not_isApple happle']
    split
    · next hexists => exact iff_of_true rfl hexists
    · next hnone => exact iff_of_false (fun h => by cases h) hnone
  next hdfu =>
  split
  · next hrecovery =>
    have hexpert : ∀ number, (d.expertFor config number).map (·.identity.kind) =
        some .recovery := by
      intro number
      rw [expertFor, deviceExpert, if_neg hdfu, if_pos hrecovery]
      rfl
    rw [List.eq_nil_iff_forall_not_mem]
    apply forall₂_congr
    intro x _
    rw [hexpert, calledFor_of_not_isApple happle']
    refine iff_false_intro fun h => ?_
    split at h
    · cases Option.some.inj h
    · cases h
  · next hrecovery =>
    have hexpert : ∀ number, d.expertFor config number =
        d.calledFor config number (config.interfaces.map UsbInterface.interface) := by
      intro number
      rw [expertFor, deviceExpert, if_neg hdfu, if_neg hrecovery]
    apply forall₂_congr
    intro x _
    rw [hexpert]
    exact calledFor_kind_eq_iff happle happle' _ _

end Kinds

/-! ## What the responses do -/

section Reads

variable {d : Device π} {config : UsbConfiguration}

theorem kinds_attachExperts {d' : Device π} (hbare : config.Bare)
    (hexperts : d'.experts = (d.attachExperts config).1) :
    d'.kinds (d.attachExperts config).2 = config.interfaces.map fun i =>
      (d.expertFor config i.interface.bInterfaceNumber).map (·.identity.kind) := by
  obtain ⟨f, hf, hcalled, -⟩ := d.attachExperts_spec hbare
  rw [kinds, hf, UsbConfiguration.assign, List.map_map]
  apply List.map_congr_left
  intro i _
  have hi := hcalled i.interface.bInterfaceNumber
  dsimp only [Function.comp_apply]
  rw [hexperts]
  cases hn : f i.interface.bInterfaceNumber with
  | none =>
    rw [hn] at hi
    rw [Option.map_eq_none_iff.mp hi.symm]
    rfl
  | some n =>
    rw [hn, Option.map_some] at hi
    obtain ⟨e, he, hsome⟩ := Option.map_eq_some_iff.mp hi.symm
    rw [he, Option.bind_some, ← hsome]

theorem assign_attachExperts (hbare : config.Bare) (g : UInt8 → Option Nat) :
    (d.attachExperts config).2.assign g = config.assign g := by
  obtain ⟨f, hf, -⟩ := d.attachExperts_spec hbare
  rw [hf, UsbConfiguration.assign, UsbConfiguration.assign, List.map_map]
  rfl

variable [Libplist π]

theorem process_read (d : Device π) {descriptorType : UInt8} (r : DescriptorRead descriptorType) :
    d.process r.packet = processDescriptor
      { d with controlPacketCount := d.controlPacketCount + 1
               controlByteCount := d.controlByteCount + UInt64.ofNat r.data.length }
      r.setup r.data := by
  unfold process DescriptorRead.packet processControlPacketIn
  dsimp only
  rw [if_neg (not_not.mpr r.control), if_pos r.standard, if_pos ⟨r.request, r.recipient⟩]

theorem process_deviceRead (d : Device π) (r : DeviceDescriptorRead) :
    (d.process r.packet).hasDeviceDescriptor = true ∧
      (d.process r.packet).deviceDescriptor = r.descriptor ∧
      (d.process r.packet).configurations = d.configurations ∧
      (d.process r.packet).experts = d.experts := by
  rw [process_read]
  unfold processDescriptor
  have hlen : ¬ r.data.length < usbDtDeviceSize := Nat.not_lt.mpr (size_le_of_readStruct r.read)
  simp only [r.read_header, r.type, r.value, ne_eq, not_true_eq_false, if_false, if_true,
    processDeviceDescriptor, hlen, r.read, Option.getD_some, and_self]

omit [Libplist π] in
theorem processConfigDescriptor_of_read (d : Device π) {data : Bytes}
    {descriptor : UsbConfigDescriptor} (hread : readStruct UsbConfigDescriptor data = some descriptor)
    (hcomplete : descriptor.wTotalLength.toNat ≤ data.length)
    (hnew : (UsbConfiguration.parse {} (data.take
      descriptor.wTotalLength.toNat)).1.descriptor.bConfigurationValue ∉ d.configurations) :
    (d.processConfigDescriptor data).hasDeviceDescriptor = d.hasDeviceDescriptor ∧
      (d.processConfigDescriptor data).deviceDescriptor = d.deviceDescriptor ∧
      if descriptor.wTotalLength.toNat ≤ usbDtConfigSize then
        (d.processConfigDescriptor data).configurations = d.configurations
      else d.Stores (UsbConfiguration.parse {} (data.take descriptor.wTotalLength.toNat)).1
        (d.processConfigDescriptor data) := by
  unfold processConfigDescriptor
  rw [hread]
  dsimp only
  by_cases hshort : descriptor.wTotalLength.toNat ≤ usbDtConfigSize
  · rw [if_pos (Or.inr hshort), if_pos hshort]
    exact ⟨rfl, rfl, rfl⟩
  rw [if_neg (not_or.mpr ⟨Nat.not_lt.mpr hcomplete, hshort⟩), if_neg hshort]
  split
  · exact ⟨rfl, rfl, hnew, rfl, rfl⟩
  · rw [if_neg (show _ ∉ (d.anomaly _).configurations from hnew)]
    exact ⟨rfl, rfl, hnew, rfl, rfl⟩

theorem process_configRead (d : Device π) (r : ConfigDescriptorRead)
    (hnone : d.configurations = ∅) :
    (d.process r.packet).hasDeviceDescriptor = d.hasDeviceDescriptor ∧
      (d.process r.packet).deviceDescriptor = d.deviceDescriptor ∧
      if r.descriptor.wTotalLength.toNat ≤ usbDtConfigSize then
        (d.process r.packet).configurations = ∅
      else d.Stores r.configuration (d.process r.packet) := by
  have hprocess : d.process r.packet = processConfigDescriptor
      { d with controlPacketCount := d.controlPacketCount + 1
               controlByteCount := d.controlByteCount + UInt64.ofNat r.data.length } r.data := by
    rw [process_read, processDescriptor, r.read_header]
    dsimp only
    rw [if_neg (not_not.mpr (r.type.trans r.value.symm)), r.value, if_neg (by decide), if_pos rfl]
  have hspec := processConfigDescriptor_of_read
    { d with controlPacketCount := d.controlPacketCount + 1
             controlByteCount := d.controlByteCount + UInt64.ofNat r.data.length }
    r.read r.complete (by rw [hnone]; exact Std.ExtTreeMap.not_mem_empty)
  rw [← hprocess] at hspec
  obtain ⟨hhas, hdescriptor, hstores⟩ := hspec
  refine ⟨hhas, hdescriptor, ?_⟩
  split at hstores
  · next hshort =>
    rw [if_pos hshort, hstores, ← hnone]
  · next hlong =>
    rw [if_neg hlong]
    exact ⟨hstores.1, hstores.2, hstores.3⟩

/-- A set that is no longer than the configuration descriptor has no interfaces. -/
theorem interfaces_of_short (r : ConfigDescriptorRead)
    (hshort : r.descriptor.wTotalLength.toNat ≤ usbDtConfigSize) :
    r.configuration.interfaces = [] := by
  have hlen : (r.data.take r.descriptor.wTotalLength.toNat).length ≤ usbDtConfigSize :=
    Nat.le_trans (List.length_take_le _ _) hshort
  unfold ConfigDescriptorRead.configuration UsbConfiguration.parse UsbConfiguration.parseLoop
  split
  · rfl
  split
  · rfl
  next header hheader =>
  split
  · rfl
  next hfits =>
  have htype : header.bDescriptorType = usbDtConfig := by
    have hread := readStruct_append (size_le_of_readStruct hheader)
      (r.data.drop r.descriptor.wTotalLength.toNat)
    rw [List.take_append_drop, r.read_header, hheader] at hread
    rw [← Option.some.inj hread, r.type]
  unfold UsbConfiguration.parseDescriptor
  rw [if_pos htype]
  split
  · next hnone => rfl
  next config current hsome =>
  split at hsome
  · cases hsome
  next hconfig =>
  obtain ⟨rfl, rfl⟩ := Prod.mk.inj (Option.some.inj hsome)
  -- nothing is left behind the configuration descriptor
  have hnil : ((r.data.take r.descriptor.wTotalLength.toNat).drop header.bLength.toNat).length =
      0 := by
    rw [List.length_drop]
    omega
  unfold UsbConfiguration.parseLoop
  rw [if_pos hnil]

omit [Libplist π] in
theorem decidedByClass_congr {d' : Device π} (h : d.deviceDescriptor = d'.deviceDescriptor) :
    d.DecidedByClass config ↔ d'.DecidedByClass config := by
  unfold DecidedByClass isApple isAppleDFU isAppleRecovery
  rw [h]

omit [Libplist π] in
/-- Two devices that read the same configuration before they had any are alike when the
experts of the interfaces are of the same class. -/
theorem alike_of_stores_iff {d₁ d₂ a b : Device π} (hbare : config.Bare)
    (hnone : d₁.configurations = ∅) (hnone' : d₂.configurations = ∅)
    (ha : d₁.Stores config a) (hb : d₂.Stores config b)
    (hhas : a.hasDeviceDescriptor = b.hasDeviceDescriptor)
    (hdescriptor : a.deviceDescriptor = b.deviceDescriptor) :
    Alike a b ↔ ∀ x ∈ config.interfaces.map UsbInterface.interface,
      (d₁.expertFor config x.bInterfaceNumber).map (·.identity.kind) =
        (d₂.expertFor config x.bInterfaceNumber).map (·.identity.kind) := by
  have hkinds : a.kinds (d₁.attachExperts config).2 = b.kinds (d₂.attachExperts config).2 ↔
      ∀ x ∈ config.interfaces.map UsbInterface.interface,
        (d₁.expertFor config x.bInterfaceNumber).map (·.identity.kind) =
          (d₂.expertFor config x.bInterfaceNumber).map (·.identity.kind) := by
    rw [kinds_attachExperts hbare ha.experts, kinds_attachExperts hbare hb.experts,
      List.map_inj_left, List.forall_mem_map]
  have haget := ha.configurations
  have hbget := hb.configurations
  rw [hnone] at haget
  rw [hnone'] at hbget
  rw [← hkinds]
  constructor
  · intro h
    apply h.kinds config.descriptor.bConfigurationValue
    · rw [haget, Std.ExtTreeMap.getElem?_insert_self]
    · rw [hbget, Std.ExtTreeMap.getElem?_insert_self]
  · intro h
    refine ⟨hhas, hdescriptor, ?_, ?_⟩
    · intro value
      rw [haget, hbget]
      by_cases hvalue : value = config.descriptor.bConfigurationValue
      · rw [hvalue, Std.ExtTreeMap.getElem?_insert_self, Std.ExtTreeMap.getElem?_insert_self,
          Option.map_some, Option.map_some, assign_attachExperts hbare,
          assign_attachExperts hbare]
      · rw [Maps.getElem?_insert_ne hvalue, Maps.getElem?_insert_ne hvalue]
    · intro value c c' hc hc'
      rw [haget] at hc
      rw [hbget] at hc'
      by_cases hvalue : value = config.descriptor.bConfigurationValue
      · rw [hvalue, Std.ExtTreeMap.getElem?_insert_self] at hc hc'
        rw [← Option.some.inj hc, ← Option.some.inj hc', h]
      · rw [Maps.getElem?_insert_ne hvalue, Std.ExtTreeMap.getElem?_empty] at hc
        cases hc

/-- **The order of the descriptors.** It makes no difference exactly when the classes of
the interfaces decide their experts. -/
theorem descriptors_in_either_order_iff (id : UInt64) (device : DeviceDescriptorRead)
    (config : ConfigDescriptorRead) :
    Alike ((new id : Device π).run [device.packet, config.packet])
        ((new id : Device π).run [config.packet, device.packet]) ↔
      DecidedByClass { (new id : Device π) with deviceDescriptor := device.descriptor }
        config.configuration := by
  have hvendor : (new id : Device π).isApple = false := rfl
  simp only [run_cons, run_nil]
  -- the device descriptor first
  obtain ⟨hhas₁, hdescriptor₁, hnone₁, -⟩ := process_deviceRead (new id : Device π) device
  obtain ⟨hhas, hdescriptor, hstores⟩ :=
    process_configRead ((new id : Device π).process device.packet) config hnone₁
  -- the configuration first
  obtain ⟨-, -, hstores'⟩ := process_configRead (new id : Device π) config rfl
  obtain ⟨hhas₂, hdescriptor₂, hconfigurations₂, hexperts₂⟩ :=
    process_deviceRead ((new id : Device π).process config.packet) device
  have hdecided : (∀ x ∈ config.configuration.interfaces.map UsbInterface.interface,
      (((new id : Device π).process device.packet).expertFor config.configuration
        x.bInterfaceNumber).map (·.identity.kind) =
      ((new id : Device π).expertFor config.configuration x.bInterfaceNumber).map
        (·.identity.kind)) ↔
      ((new id : Device π).process device.packet).DecidedByClass config.configuration :=
    decidedByClass_iff hvendor
  have hsame : ((new id : Device π).process device.packet).DecidedByClass config.configuration ↔
      DecidedByClass { (new id : Device π) with deviceDescriptor := device.descriptor }
        config.configuration := decidedByClass_congr hdescriptor₁
  rw [← hsame, ← hdecided]
  by_cases hshort : config.descriptor.wTotalLength.toNat ≤ usbDtConfigSize
  · rw [if_pos hshort] at hstores hstores'
    refine iff_of_true ⟨?_, ?_, ?_, ?_⟩ ?_
    · rw [hhas, hhas₁, hhas₂]
    · rw [hdescriptor, hdescriptor₁, hdescriptor₂]
    · intro value
      rw [hstores, hconfigurations₂, hstores']
    · intro value c c' hc
      rw [hstores, Std.ExtTreeMap.getElem?_empty] at hc
      cases hc
    · rw [interfaces_of_short config hshort]
      intro x hx
      cases hx
  · rw [if_neg hshort] at hstores hstores'
    apply alike_of_stores_iff (UsbConfiguration.bare_parse _) hnone₁ rfl hstores
    · exact ⟨hstores'.isNew, hexperts₂.trans hstores'.experts,
        hconfigurations₂.trans hstores'.configurations⟩
    · rw [hhas, hhas₁, hhas₂]
    · rw [hdescriptor, hdescriptor₁, hdescriptor₂]

end Reads

/-! ## A phone whose configuration was captured first -/

/-- The device descriptor of an Apple device in normal mode. -/
def phoneRead : DeviceDescriptorRead where
  endpoint := 0x80
  setup := ⟨0x80, 6, 0x0100, 0, 18⟩
  data := Layout.encode
    (⟨18, 1, 0x0200, 0, 0, 0, 64, appleVid, 0x12A8, 0, 1, 2, 3, 1⟩ : UsbDeviceDescriptor)
  control := rfl
  standard := rfl
  recipient := rfl
  request := rfl
  value := rfl
  header := ⟨18, 1⟩
  read_header := rfl
  type := rfl
  descriptor := ⟨18, 1, 0x0200, 0, 0, 0, 64, appleVid, 0x12A8, 0, 1, 2, 3, 1⟩
  read := rfl

/-- A configuration with a usbmux interface. -/
def usbmuxRead : ConfigDescriptorRead where
  endpoint := 0x80
  setup := ⟨0x80, 6, 0x0200, 0, 18⟩
  data := Layout.encode (⟨9, 2, 18, 1, 1, 0, 0x80, 50⟩ : UsbConfigDescriptor) ++
    Layout.encode (⟨9, 4, 1, 0, 0, 0xFF, 0xFE, 2, 0⟩ : UsbInterfaceDescriptor)
  control := rfl
  standard := rfl
  recipient := rfl
  request := rfl
  value := rfl
  header := ⟨9, 2⟩
  read_header := rfl
  type := rfl
  descriptor := ⟨9, 2, 18, 1, 1, 0, 0x80, 50⟩
  read := rfl
  complete := by decide

/-- Captured first, the usbmux interface gets no expert, and never will. -/
theorem not_descriptors_in_either_order :
    ¬ ∀ (id : UInt64) (device : DeviceDescriptorRead) (config : ConfigDescriptorRead),
      Alike ((new id : Device Empty).run [device.packet, config.packet])
        ((new id : Device Empty).run [config.packet, device.packet]) := by
  intro h
  have hkinds := (h 1 phoneRead usbmuxRead).kinds 1
    { descriptor := ⟨9, 2, 18, 1, 1, 0, 0x80, 50⟩
      interfaces := [⟨⟨9, 4, 1, 0, 0, 0xFF, 0xFE, 2, 0⟩, [], some 0⟩] }
    { descriptor := ⟨9, 2, 18, 1, 1, 0, 0x80, 50⟩
      interfaces := [⟨⟨9, 4, 1, 0, 0, 0xFF, 0xFE, 2, 0⟩, [], none⟩] }
    (by decide +kernel) (by decide +kernel)
  exact absurd hkinds (by decide +kernel)

end Device

end DemuxUsb
