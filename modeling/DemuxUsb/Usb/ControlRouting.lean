import Mathlib.Data.List.Induction
import DemuxUsb.Usb.MissedRequests

/-!
# Class and vendor requests

While a configuration is selected, a request to an interface is for the expert of that
interface, and a request to the device for the first expert of the configuration. The
routing does not keep to it where the request is for an endpoint, or where the selected
configuration was not seen: then it takes the first expert it finds, in the stored
configuration of the lowest value if need be.
-/

namespace DemuxUsb

variable {π : Type}

/-! ## Requests and selections -/

namespace DevicePacket

/-- A class or vendor request on endpoint 0. -/
def Requests (setup : UsbSetup) : DevicePacket → Prop
  | controlIn endpoint setup' _ | controlOut endpoint setup' _ =>
    setup' = setup ∧ usbEndpointId endpoint = 0 ∧
      (setup.bmRequestType &&& usbTypeMask = usbTypeClass ∨
        setup.bmRequestType &&& usbTypeMask = usbTypeVendor)
  | _ => False

/-- SET_CONFIGURATION on endpoint 0. -/
def IsSelection (endpoint : UInt8) (setup : UsbSetup) : Prop :=
  usbEndpointId endpoint = 0 ∧ setup.bmRequestType &&& usbTypeMask = usbTypeStandard ∧
    setup.bmRequestType &&& usbRecipMask = usbRecipDevice ∧
    setup.bRequest = usbReqSetConfiguration

instance (endpoint : UInt8) (setup : UsbSetup) : Decidable (IsSelection endpoint setup) :=
  inferInstanceAs (Decidable (_ ∧ _ ∧ _ ∧ _))

/-- The configuration that a transfer selects. -/
def selection : DevicePacket → Option UInt8
  | controlOut endpoint setup _ =>
    if IsSelection endpoint setup then some (setup.wValue &&& 0xFF).toUInt8 else none
  | _ => none

/-- The configuration that was selected last. -/
def lastSelection (packets : List DevicePacket) : Option UInt8 :=
  (packets.filterMap selection).getLast?

theorem lastSelection_concat (packets : List DevicePacket) (p : DevicePacket) :
    lastSelection (packets ++ [p]) = p.selection.or (lastSelection packets) := by
  rw [lastSelection, List.filterMap_append, List.getLast?_append, lastSelection]
  cases hp : p.selection with
  | none => simp [hp]
  | some value => simp [hp]

end DevicePacket

namespace Device

theorem withExpert_currentConfiguration (d : Device π) (i : Option Nat)
    (f : Expert π → Expert π) : (d.withExpert i f).currentConfiguration = d.currentConfiguration := by
  cases i <;> rfl

theorem DescriptorEffect.currentConfiguration {d d' : Device π} {setup : UsbSetup} {data : Bytes}
    (h : DescriptorEffect d setup data d') : d'.currentConfiguration = d.currentConfiguration := by
  cases h <;> rfl

section Selected

variable [Libplist π]

/-- **Step lemma.** -/
theorem currentConfiguration_process (d : Device π) (p : DevicePacket) :
    (d.process p).currentConfiguration = p.selection.getD d.currentConfiguration := by
  cases p with
  | bulkIn endpoint data => exact withExpert_currentConfiguration _ _ _
  | bulkOut endpoint data => exact withExpert_currentConfiguration _ _ _
  | controlIn endpoint setup data =>
    show (d.processControlPacketIn endpoint setup data).currentConfiguration = _
    unfold processControlPacketIn
    dsimp only
    split
    · rfl
    split
    · split
      · exact (processDescriptor_effect _ setup data).currentConfiguration
      · rfl
    · exact withExpert_currentConfiguration _ _ _
  | controlOut endpoint setup data =>
    show (d.processControlPacketOut endpoint setup data).currentConfiguration = _
    rw [DevicePacket.selection]
    unfold processControlPacketOut
    dsimp only
    by_cases hselection : DevicePacket.IsSelection endpoint setup
    · have ⟨hendpoint, hstandard, hset⟩ := hselection
      rw [if_neg (not_not.mpr hendpoint), if_pos hstandard, if_pos hset, if_pos hselection]
      rfl
    · rw [if_neg hselection, Option.getD_none]
      split
      · rfl
      next hendpoint =>
      split
      · next hstandard =>
        rw [if_neg fun hset => hselection ⟨not_not.mp hendpoint, hstandard, hset⟩]
        split <;> rfl
      · exact withExpert_currentConfiguration _ _ _

/-- **Run lemma.** The configuration of a device is the last one that was selected. -/
theorem currentConfiguration_run (d : Device π) (packets : List DevicePacket) :
    (d.run packets).currentConfiguration =
      (DevicePacket.lastSelection packets).getD d.currentConfiguration := by
  induction packets using List.reverseRecOn with
  | nil => rfl
  | append_singleton packets p ih =>
    rw [run_concat, currentConfiguration_process, ih, DevicePacket.lastSelection_concat]
    cases p.selection <;> rfl

end Selected

/-! ## Routing by the selected configuration -/

end Device

namespace UsbConfiguration

/-- The request is for the expert `n`: that of the interface it names, or for a request to the
device the first one. -/
def Addresses (config : UsbConfiguration) (setup : UsbSetup) (n : Nat) : Prop :=
  setup.bmRequestType &&& usbRecipMask = usbRecipInterface ∧
      (∃ i ∈ config.interfaces,
        i.interface.bInterfaceNumber = (setup.wIndex &&& 0xFF).toUInt8 ∧ i.expert = some n) ∨
    setup.bmRequestType &&& usbRecipMask = usbRecipDevice ∧
      config.interfaces.findSome? UsbInterface.expert = some n

/-- An interface has an expert, the one that is named if the request is to an interface. -/
def Takes (config : UsbConfiguration) (setup : UsbSetup) : Prop :=
  ∃ i ∈ config.interfaces, i.expert ≠ none ∧
    (setup.bmRequestType &&& usbRecipMask = usbRecipInterface →
      i.interface.bInterfaceNumber = (setup.wIndex &&& 0xFF).toUInt8)

variable {config : UsbConfiguration} {setup : UsbSetup}

theorem addresses_of_interface {n : Nat}
    (hinterface : setup.bmRequestType &&& usbRecipMask = usbRecipInterface)
    (h : config.expertForControl setup = some n) : config.Addresses setup n := by
  rw [expertForControl, if_pos hinterface] at h
  obtain ⟨i, hfind, hn⟩ := Option.bind_eq_some_iff.mp h
  refine Or.inl ⟨hinterface, i, List.mem_of_find?_eq_some hfind, ?_, hn⟩
  simpa using List.find?_some hfind

theorem addresses_of_device {n : Nat}
    (hdevice : setup.bmRequestType &&& usbRecipMask = usbRecipDevice)
    (h : config.expertForControl setup = some n) : config.Addresses setup n := by
  have hinterface : ¬ setup.bmRequestType &&& usbRecipMask = usbRecipInterface := by
    rw [hdevice]
    decide
  rw [expertForControl, if_neg hinterface] at h
  exact Or.inr ⟨hdevice, h⟩

theorem Addresses.exists_entry {n : Nat} (h : config.Addresses setup n) :
    ∃ i ∈ config.interfaces, i.expert = some n := by
  rcases h with ⟨-, i, hi, -, hn⟩ | ⟨-, hfirst⟩
  · exact ⟨i, hi, hn⟩
  · obtain ⟨i, hi, hn⟩ := List.exists_of_findSome?_eq_some hfirst
    exact ⟨i, hi, hn⟩

/-- Some expert is found exactly when there is one to take the request. The entries of an
interface share their expert, so that the first of them speaks for all. -/
theorem expertForControl_ne_none_iff (hshared : config.SharesExperts) :
    config.expertForControl setup ≠ none ↔ config.Takes setup := by
  unfold expertForControl Takes
  split
  · next hinterface =>
    constructor
    · intro h
      obtain ⟨n, hn⟩ := Option.ne_none_iff_exists'.mp h
      obtain ⟨i, hfind, hi⟩ := Option.bind_eq_some_iff.mp hn
      refine ⟨i, List.mem_of_find?_eq_some hfind, ?_, fun _ => ?_⟩
      · rw [hi]
        exact Option.some_ne_none n
      · simpa using List.find?_some hfind
    · rintro ⟨j, hj, hexpert, hnumber⟩ hnone
      cases hfind : config.interfaces.find? fun i =>
          i.interface.bInterfaceNumber = (setup.wIndex &&& 0xFF).toUInt8 with
      | none =>
        apply List.find?_eq_none.mp hfind j hj
        simpa using hnumber hinterface
      | some i =>
        rw [hfind, Option.bind_some] at hnone
        apply hexpert
        rw [← hnone]
        apply hshared j hj i (List.mem_of_find?_eq_some hfind)
        have hi : i.interface.bInterfaceNumber = (setup.wIndex &&& 0xFF).toUInt8 := by
          simpa using List.find?_some hfind
        rw [hnumber hinterface, hi]
  · next hinterface =>
    rw [ne_eq, List.findSome?_eq_none_iff]
    push Not
    apply exists_congr
    intro i
    simp [hinterface]

end UsbConfiguration

namespace Device

/-- With a configuration selected, the requests go by it, or by the stored configuration of
the lowest value where the selected one is not stored. -/
theorem getExpertForControl_of_selected (d : Device π) (h : d.currentConfiguration ≠ 0)
    (setup : UsbSetup) :
    d.getExpertForControl setup =
      (d.configurations[d.currentConfiguration]?.or (d.configurations.minEntry?.map Prod.snd)).bind
        (·.expertForControl setup) := by
  have hactive : d.activeConfiguration = d.configurations[d.currentConfiguration]? := by
    unfold activeConfiguration
    cases d.configurations[d.currentConfiguration]? with
    | none => exact if_neg fun hzero => h hzero.1
    | some config => rfl
  unfold getExpertForControl
  rw [hactive]
  cases d.configurations[d.currentConfiguration]? with
  | some config => rfl
  | none =>
    cases d.configurations.minEntry? with
    | none => rfl
    | some first => rfl

theorem route_of_requests (d : Device π) {p : DevicePacket} {setup : UsbSetup}
    (h : p.Requests setup) : ∃ x, d.route p = (d.getExpertForControl setup).map (·, x) := by
  have hstandard : setup.bmRequestType &&& usbTypeMask = usbTypeClass ∨
      setup.bmRequestType &&& usbTypeMask = usbTypeVendor →
        setup.bmRequestType &&& usbTypeMask ≠ usbTypeStandard := by
    rintro (h | h) <;> rw [h] <;> decide
  cases p with
  | controlIn endpoint setup' data =>
    obtain ⟨rfl, hendpoint, htype⟩ := h
    exact ⟨_, if_neg (not_or.mpr ⟨not_not.mpr hendpoint, hstandard htype⟩)⟩
  | controlOut endpoint setup' data =>
    obtain ⟨rfl, hendpoint, htype⟩ := h
    exact ⟨_, if_neg (not_or.mpr ⟨not_not.mpr hendpoint, hstandard htype⟩)⟩
  | bulkIn endpoint data => exact h.elim
  | bulkOut endpoint data => exact h.elim

/-! ## Requests that go astray -/

/-- The request reaches only the expert of the configuration `value` that it is for. -/
structure ReachesOnlyAddressed [Libplist π] (d : Device π) (value : UInt8) (setup : UsbSetup)
    (p : DevicePacket) : Prop where
  /-- Whoever is handed the request was made for the configuration, and is addressed. -/
  handed : ∀ n x, d.route p = some (n, x) →
    ∃ config e, d.configurations[value]? = some config ∧ config.Addresses setup n ∧
      d.experts[n]? = some e ∧ e.identity.configuration = value
  /-- No other expert is changed when the transfer is processed. -/
  unchanged : ∀ n e, d.experts[n]? = some e →
    (∀ config, d.configurations[value]? = some config → ¬ config.Addresses setup n) →
      (d.process p).experts[n]? = some e

/-- There is no expert for the request to go astray to. -/
structure NoneAstray (d : Device π) (value : UInt8) (setup : UsbSetup) : Prop where
  /-- A request to something else than an interface or the device goes to the first expert. -/
  known : ∀ config, d.configurations[value]? = some config →
    setup.bmRequestType &&& usbRecipMask = usbRecipInterface ∨
      setup.bmRequestType &&& usbRecipMask = usbRecipDevice ∨
        ∀ i ∈ config.interfaces, i.expert = none
  /-- In place of a configuration that was not seen stands the one of the lowest value. -/
  unknown : d.configurations[value]? = none →
    ∀ first, d.configurations.minEntry? = some first → ¬ first.2.Takes setup

section Astray

variable [Libplist π] {d : Device π} {value : UInt8} {p : DevicePacket} {setup : UsbSetup}

/-- What is handed to nobody else changes nobody else. -/
theorem ReachesOnlyAddressed.of_handed
    (h : ∀ n x, d.route p = some (n, x) →
      ∃ config e, d.configurations[value]? = some config ∧ config.Addresses setup n ∧
        d.experts[n]? = some e ∧ e.identity.configuration = value) :
    d.ReachesOnlyAddressed value setup p := by
  refine ⟨h, ?_⟩
  intro n e he hother
  have hnone : (d.route p).toList.filter (fun r => r.1 == n) = [] := by
    rw [List.filter_eq_nil_iff]
    rintro ⟨m, x⟩ hroute hm
    obtain rfl : m = n := eq_of_beq hm
    obtain ⟨config, -, hconfig, haddresses, -⟩ := h m x (Option.mem_toList.mp hroute)
    exact hother config hconfig haddresses
  rw [d.experts_process p e he, hnone]
  rfl

theorem ReachesOnlyAddressed.of_getExpertForControl (h : d.ReachesOnlyAddressed value setup p)
    (hp : p.Requests setup) {n : Nat} (hn : d.getExpertForControl setup = some n) :
    ∃ config, d.configurations[value]? = some config ∧ config.Addresses setup n := by
  obtain ⟨x, hroute⟩ := d.route_of_requests hp
  rw [hn, Option.map_some] at hroute
  obtain ⟨config, e, hconfig, haddresses, -⟩ := h.handed n x hroute
  exact ⟨config, hconfig, haddresses⟩

theorem ReachesOnlyAddressed.noneAstray (h : d.ReachesOnlyAddressed value setup p)
    (hattached : d.Attached) (hvalue : value ≠ 0) (hselected : d.currentConfiguration = value)
    (hp : p.Requests setup) : d.NoneAstray value setup := by
  subst hselected
  have hexpert := d.getExpertForControl_of_selected hvalue setup
  constructor
  · intro config hconfig
    rw [hconfig, Option.some_or, Option.bind_some] at hexpert
    by_cases hinterface : setup.bmRequestType &&& usbRecipMask = usbRecipInterface
    · exact Or.inl hinterface
    by_cases hdevice : setup.bmRequestType &&& usbRecipMask = usbRecipDevice
    · exact Or.inr (Or.inl hdevice)
    refine Or.inr (Or.inr fun i hi => ?_)
    by_contra hne
    have hsome := (UsbConfiguration.expertForControl_ne_none_iff
      (hattached _ config hconfig).shared).mpr ⟨i, hi, hne, fun hr => absurd hr hinterface⟩
    obtain ⟨n, hn⟩ := Option.ne_none_iff_exists'.mp hsome
    obtain ⟨config', -, haddresses⟩ := h.of_getExpertForControl hp (hexpert.trans hn)
    rcases haddresses with ⟨hr, -⟩ | ⟨hr, -⟩
    · exact hinterface hr
    · exact hdevice hr
  · intro hconfig first hfirst htakes
    rw [hconfig, hfirst, Option.none_or, Option.map_some, Option.bind_some] at hexpert
    have hstored := Std.ExtTreeMap.mem_toList_iff_getElem?_eq_some.mp (Maps.minEntry_mem hfirst)
    obtain ⟨n, hn⟩ := Option.ne_none_iff_exists'.mp
      ((UsbConfiguration.expertForControl_ne_none_iff (hattached _ _ hstored).shared).mpr htakes)
    obtain ⟨config, hconfig', -⟩ := h.of_getExpertForControl hp (hexpert.trans hn)
    rw [hconfig] at hconfig'
    cases hconfig'

theorem NoneAstray.reachesOnlyAddressed (h : d.NoneAstray value setup)
    (hattached : d.Attached) (hvalue : value ≠ 0) (hselected : d.currentConfiguration = value)
    (hp : p.Requests setup) : d.ReachesOnlyAddressed value setup p := by
  subst hselected
  apply ReachesOnlyAddressed.of_handed
  intro n x hroute
  obtain ⟨x', hroute'⟩ := d.route_of_requests hp
  rw [hroute, d.getExpertForControl_of_selected hvalue] at hroute'
  obtain ⟨n', hexpert, heq⟩ := Option.map_eq_some_iff.mp hroute'.symm
  obtain rfl : n' = n := congrArg Prod.fst heq
  cases hconfig : d.configurations[d.currentConfiguration]? with
  | none =>
    rw [hconfig, Option.none_or] at hexpert
    obtain ⟨config, hfound, hn⟩ := Option.bind_eq_some_iff.mp hexpert
    obtain ⟨first, hfirst, rfl⟩ := Option.map_eq_some_iff.mp hfound
    have hstored := Std.ExtTreeMap.mem_toList_iff_getElem?_eq_some.mp (Maps.minEntry_mem hfirst)
    refine absurd ?_ (h.unknown hconfig first hfirst)
    apply (UsbConfiguration.expertForControl_ne_none_iff (hattached _ _ hstored).shared).mp
    rw [hn]
    exact Option.some_ne_none n'
  | some config =>
    rw [hconfig, Option.some_or, Option.bind_some] at hexpert
    have haddresses : config.Addresses setup n' := by
      rcases h.known config hconfig with hinterface | hdevice | hnone
      · exact UsbConfiguration.addresses_of_interface hinterface hexpert
      · exact UsbConfiguration.addresses_of_device hdevice hexpert
      · have hsome : config.expertForControl setup ≠ none := by
          rw [hexpert]
          exact Option.some_ne_none n'
        obtain ⟨i, hi, hne, -⟩ := (UsbConfiguration.expertForControl_ne_none_iff
          (hattached _ config hconfig).shared).mp hsome
        exact absurd (hnone i hi) hne
    obtain ⟨i, hi, hn⟩ := haddresses.exists_entry
    obtain ⟨identity, hidentity, hmade⟩ := (hattached _ config hconfig).made i hi n' hn
    rw [List.getElem?_map] at hidentity
    obtain ⟨e, he, rfl⟩ := Option.map_eq_some_iff.mp hidentity
    exact ⟨config, e, rfl, haddresses, he, hmade⟩

end Astray

variable [Libplist π]

/-- In every run after which a configuration is the last one selected, a class or vendor
request reaches only the expert it is for exactly when there is no other one for it to go
astray to. -/
theorem reachesOnlyAddressed_iff (id : UInt64) (packets : List DevicePacket) {value : UInt8}
    (hvalue : value ≠ 0) (hlast : DevicePacket.lastSelection packets = some value)
    {p : DevicePacket} {setup : UsbSetup} (hp : p.Requests setup) :
    ((new id : Device π).run packets).ReachesOnlyAddressed value setup p ↔
      ((new id : Device π).run packets).NoneAstray value setup := by
  have hattached : ((new id : Device π).run packets).Attached := attached_run id packets
  have hselected : ((new id : Device π).run packets).currentConfiguration = value := by
    rw [currentConfiguration_run, hlast, Option.getD_some]
  exact ⟨fun h => h.noneAstray hattached hvalue hselected hp,
    fun h => h.reachesOnlyAddressed hattached hvalue hselected hp⟩

/-- What a DFU device answers with one configuration, and the selection of some configuration. -/
def selecting (value : UInt16) : List DevicePacket :=
  [.ofDescriptor 2 alternatesDescriptor,
    .controlOut 0 ⟨0, usbReqSetConfiguration, value, 0, 0⟩ []]

/-- The configuration of `alternatesDescriptor`, as it is stored. -/
def alternatesConfiguration : UsbConfiguration :=
  { descriptor := ⟨9, 2, 36, 1, 1, 0, 0x80, 50⟩
    interfaces := [⟨⟨9, 4, 0, 0, 0, 0xFE, 1, 1, 0⟩, [], some 0⟩,
      ⟨⟨9, 4, 0, 1, 1, 0xFE, 1, 1, 0⟩, [⟨9, 5, 0x81, 2, 512, 0, 0, 0⟩], some 0⟩] }

/-- A DFU request to the interface 0. -/
def interfaceRequest : UsbSetup := ⟨0xA1, 3, 0, 0, 6⟩

/-- The same request to an endpoint. -/
def endpointRequest : UsbSetup := ⟨0xA2, 3, 0, 0x81, 6⟩

theorem reachesOnlyAddressed_interface :
    ((new 1 : Device Empty).run (selecting 1)).ReachesOnlyAddressed 1 interfaceRequest
      (.controlIn 0x80 interfaceRequest [0]) := by
  have hrequests : (DevicePacket.controlIn 0x80 interfaceRequest [0]).Requests interfaceRequest :=
    ⟨rfl, by decide, Or.inl rfl⟩
  apply (reachesOnlyAddressed_iff 1 (selecting 1) (by decide) (by decide) hrequests).mpr
  constructor
  · intro config hconfig
    exact Or.inl rfl
  · intro hnone
    have hsome : ((new 1 : Device Empty).run (selecting 1)).configurations[(1 : UInt8)]? ≠ none := by
      decide +kernel
    exact absurd hnone hsome

/-- The request to an endpoint is taken for one to the interface, and the request to an
interface of the configuration 2, which was not seen, for one to that of the configuration 1. -/
theorem not_reachesOnlyAddressed :
    (DevicePacket.lastSelection (selecting 1) = some 1 ∧
      ¬ ((new 1 : Device Empty).run (selecting 1)).ReachesOnlyAddressed 1 endpointRequest
        (.controlIn 0x80 endpointRequest [0])) ∧
    (DevicePacket.lastSelection (selecting 2) = some 2 ∧
      ¬ ((new 1 : Device Empty).run (selecting 2)).ReachesOnlyAddressed 2 interfaceRequest
        (.controlIn 0x80 interfaceRequest [0])) := by
  refine ⟨⟨by decide, fun h => ?_⟩, by decide, fun h => ?_⟩
  · have hastray := h.noneAstray (attached_run 1 _) (by decide) (by decide +kernel)
      ⟨rfl, by decide, Or.inl rfl⟩
    have hknown := hastray.known alternatesConfiguration (by decide +kernel)
    revert hknown
    decide
  · have hastray := h.noneAstray (attached_run 1 _) (by decide) (by decide +kernel)
      ⟨rfl, by decide, Or.inl rfl⟩
    have honly : ((new 1 : Device Empty).run (selecting 2)).configurations.toList =
        [(1, alternatesConfiguration)] := by
      decide +kernel
    apply hastray.unknown (by decide +kernel) (1, alternatesConfiguration)
    · rw [Maps.eq_insert_of_toList honly, Maps.minEntry_insert_empty]
    · exact ⟨_, List.mem_cons_self, Option.some_ne_none 0, fun _ => rfl⟩

end Device

end DemuxUsb
