import DemuxUsb.Usb.SharedExperts

/-!
# Missed selections

A capture may begin after the host selected the configuration and the alternate settings.
With a single stored configuration, whose endpoint addresses each belong to one interface,
that makes no difference: `UsbConfiguration.route` says where a transfer goes by the
configuration alone, and `route_of_ready` that a device does just that, whatever
configuration and alternate settings it believes to be selected.
-/

namespace DemuxUsb

variable {π : Type}

/-! ## Selections -/

namespace DevicePacket

/-- A request that selects the configuration `value`, or some alternate setting. -/
def Selects (value : UInt8) : DevicePacket → Prop
  | controlOut _ setup _ =>
    setup.bmRequestType &&& usbTypeMask = usbTypeStandard ∧
      (setup.bmRequestType &&& usbRecipMask = usbRecipDevice ∧
          setup.bRequest = usbReqSetConfiguration ∧ (setup.wValue &&& 0xFF).toUInt8 = value ∨
        setup.bmRequestType &&& usbRecipMask = usbRecipInterface ∧
          setup.bRequest = usbReqSetInterface)
  | _ => False

/-- A bulk transfer, or a control transfer that is not a standard request. -/
def IsTraffic : DevicePacket → Prop
  | controlIn _ setup _ => setup.bmRequestType &&& usbTypeMask ≠ usbTypeStandard
  | controlOut _ setup _ => setup.bmRequestType &&& usbTypeMask ≠ usbTypeStandard
  | bulkIn _ _ => True
  | bulkOut _ _ => True

end DevicePacket

/-- `kept` is what a capture has of `packets` when it misses some of the selections. -/
inductive MissesSelections (value : UInt8) : List DevicePacket → List DevicePacket → Prop where
  | nil : MissesSelections value [] []
  | keep (p : DevicePacket) {packets kept : List DevicePacket}
      (rest : MissesSelections value packets kept) :
      MissesSelections value (p :: packets) (p :: kept)
  | miss {p : DevicePacket} (hselects : p.Selects value) {packets kept : List DevicePacket}
      (rest : MissesSelections value packets kept) : MissesSelections value (p :: packets) kept

/-! ## A single configuration -/

namespace UsbConfiguration

/-- No endpoint address is declared under two interface numbers. -/
def EndpointsSeparate (config : UsbConfiguration) : Prop :=
  ∀ i ∈ config.interfaces, ∀ j ∈ config.interfaces, ∀ a ∈ i.endpoints, ∀ b ∈ j.endpoints,
    a.bEndpointAddress = b.bEndpointAddress →
      i.interface.bInterfaceNumber = j.interface.bInterfaceNumber

instance (config : UsbConfiguration) : Decidable config.EndpointsSeparate :=
  inferInstanceAs (Decidable (∀ i ∈ config.interfaces, ∀ j ∈ config.interfaces,
    ∀ a ∈ i.endpoints, ∀ b ∈ j.endpoints, a.bEndpointAddress = b.bEndpointAddress →
      i.interface.bInterfaceNumber = j.interface.bInterfaceNumber))

def SharesExperts (config : UsbConfiguration) : Prop :=
  ∀ i ∈ config.interfaces, ∀ j ∈ config.interfaces,
    i.interface.bInterfaceNumber = j.interface.bInterfaceNumber → i.expert = j.expert

/-- The expert of the interface that declares the endpoint. -/
def expertForEndpoint (config : UsbConfiguration) (endpoint : UInt8) : Option Nat :=
  (config.interfaces.find? fun i =>
    i.endpoints.any fun e => e.bEndpointAddress = endpoint).bind UsbInterface.expert

def expertForControl (config : UsbConfiguration) (setup : UsbSetup) : Option Nat :=
  if setup.bmRequestType &&& usbRecipMask = usbRecipInterface then
    (config.interfaces.find? fun i =>
      i.interface.bInterfaceNumber = (setup.wIndex &&& 0xFF).toUInt8).bind UsbInterface.expert
  else config.interfaces.findSome? UsbInterface.expert

def routeControl (config : UsbConfiguration) (endpoint : UInt8) (setup : UsbSetup)
    (x : Delivery) : Option (Nat × Delivery) :=
  if usbEndpointId endpoint ≠ 0 ∨ setup.bmRequestType &&& usbTypeMask = usbTypeStandard then none
  else (config.expertForControl setup).map (·, x)

/-- Where a transfer goes, by the configuration alone. -/
def route (config : UsbConfiguration) : DevicePacket → Option (Nat × Delivery)
  | .controlIn endpoint setup data => config.routeControl endpoint setup (.controlIn setup data)
  | .controlOut endpoint setup data =>
    config.routeControl endpoint setup (.controlOut setup data)
  | .bulkIn endpoint data =>
    (config.expertForEndpoint (endpoint ||| 0x80)).map (·, .bulkIn data)
  | .bulkOut endpoint data =>
    (config.expertForEndpoint (usbEndpointId endpoint)).map (·, .bulkOut data)

theorem route_of_selects (config : UsbConfiguration) {value : UInt8} {p : DevicePacket}
    (h : p.Selects value) : config.route p = none := by
  cases p with
  | controlOut endpoint setup data => exact if_pos (Or.inr h.1)
  | controlIn endpoint setup data => exact h.elim
  | bulkIn endpoint data => exact h.elim
  | bulkOut endpoint data => exact h.elim

end UsbConfiguration

namespace MissesSelections

variable {value : UInt8} {packets kept : List DevicePacket}

theorem subset (h : MissesSelections value packets kept) : kept ⊆ packets := by
  induction h with
  | nil => exact List.Subset.refl []
  | keep p rest ih => exact List.cons_subset_cons p ih
  | miss hselects rest ih => exact List.subset_cons_of_subset _ ih

theorem filterMap_route (h : MissesSelections value packets kept) (config : UsbConfiguration) :
    kept.filterMap config.route = packets.filterMap config.route := by
  induction h with
  | nil => rfl
  | keep p rest ih => rw [List.filterMap_cons, List.filterMap_cons, ih]
  | miss hselects rest ih =>
    rw [List.filterMap_cons, config.route_of_selects hselects]
    exact ih

end MissesSelections

namespace Device

/-- The search meets alternate settings of one interface only. Whether one of them is
selected or the first is taken instead, the expert is the same. -/
theorem searchEndpoint_of_forall (d : Device π) {x fallback : Option Nat}
    {interfaces : List UsbInterface} (hall : ∀ i ∈ interfaces, i.expert = x)
    (hfallback : fallback = x ∨ fallback = none ∧ interfaces ≠ []) :
    d.searchEndpoint fallback interfaces = x := by
  induction interfaces generalizing fallback with
  | nil =>
    rcases hfallback with rfl | ⟨-, hne⟩
    · rfl
    · exact absurd rfl hne
  | cons i rest ih =>
    have hi : i.expert = x := hall i List.mem_cons_self
    rw [searchEndpoint]
    split
    · exact hi
    · apply ih fun j hj => hall j (List.mem_cons_of_mem _ hj)
      left
      rcases hfallback with rfl | ⟨rfl, -⟩
      · rw [hi]
        cases fallback <;> rfl
      · rw [hi]
        rfl

theorem sameRouting_of_isTraffic [Libplist π] (d : Device π) {p : DevicePacket}
    (h : p.IsTraffic) : SameRouting d (d.process p) := by
  cases p with
  | bulkIn endpoint data =>
    unfold process processBulkPacketIn
    apply SameRouting.of_withExpert
    exact ⟨rfl, rfl, rfl⟩
  | bulkOut endpoint data =>
    unfold process processBulkPacketOut
    apply SameRouting.of_withExpert
    exact ⟨rfl, rfl, rfl⟩
  | controlIn endpoint setup data =>
    unfold process processControlPacketIn
    dsimp only
    split
    · exact ⟨rfl, rfl, rfl⟩
    rw [if_neg h]
    apply SameRouting.of_withExpert
    exact ⟨rfl, rfl, rfl⟩
  | controlOut endpoint setup data =>
    unfold process processControlPacketOut
    dsimp only
    split
    · exact ⟨rfl, rfl, rfl⟩
    rw [if_neg h]
    apply SameRouting.of_withExpert
    exact ⟨rfl, rfl, rfl⟩

/-- The device has one configuration, and selected no other. -/
structure Ready (d : Device π) (value : UInt8) (config : UsbConfiguration) : Prop where
  only : d.configurations.toList = [(value, config)]
  selected : d.currentConfiguration = 0 ∨ d.currentConfiguration = value

namespace Ready

variable {d : Device π} {value : UInt8} {config : UsbConfiguration}

theorem configurations_eq (h : d.Ready value config) :
    d.configurations = (∅ : Std.ExtTreeMap UInt8 UsbConfiguration).insert value config :=
  Maps.eq_insert_of_toList h.only

theorem activeConfiguration (h : d.Ready value config) : d.activeConfiguration = some config := by
  unfold Device.activeConfiguration
  rw [h.configurations_eq]
  by_cases hvalue : d.currentConfiguration = value
  · rw [hvalue, Std.ExtTreeMap.getElem?_insert_self]
  · have hzero : d.currentConfiguration = 0 := h.selected.resolve_right hvalue
    rw [Maps.getElem?_insert_ne hvalue, Std.ExtTreeMap.getElem?_empty]
    have hsize : ((∅ : Std.ExtTreeMap UInt8 UsbConfiguration).insert value config).size = 1 := rfl
    dsimp only
    rw [if_pos ⟨hzero, hsize⟩, Maps.minEntry_insert_empty]
    rfl

theorem getExpertForEndpoint (h : d.Ready value config) (hshared : config.SharesExperts)
    (hseparate : config.EndpointsSeparate) (endpoint : UInt8) :
    d.getExpertForEndpoint endpoint = config.expertForEndpoint endpoint := by
  unfold Device.getExpertForEndpoint UsbConfiguration.expertForEndpoint
  rw [h.activeConfiguration]
  dsimp only
  cases hfind : config.interfaces.find? fun i =>
      i.endpoints.any fun e => e.bEndpointAddress = endpoint with
  | none =>
    have hnil : (config.interfaces.flatMap fun i =>
        (i.endpoints.filter (fun e => e.bEndpointAddress = endpoint)).map (fun _ => i)) = [] := by
      apply List.flatMap_eq_nil_iff.mpr
      intro i hi
      rw [List.map_eq_nil_iff, List.filter_eq_nil_iff]
      intro e he haddress
      exact List.find?_eq_none.mp hfind i hi (List.any_eq_true.mpr ⟨e, he, haddress⟩)
    rw [hnil]
    rfl
  | some i =>
    have hi : i ∈ config.interfaces := List.mem_of_find?_eq_some hfind
    have hany := List.find?_some hfind
    obtain ⟨a, ha, haddress⟩ := List.any_eq_true.mp hany
    apply d.searchEndpoint_of_forall
    · intro j hj
      obtain ⟨j', hj', hmem⟩ := List.mem_flatMap.mp hj
      obtain ⟨b, hb, rfl⟩ := List.mem_map.mp hmem
      obtain ⟨hb, hbaddress⟩ := List.mem_filter.mp hb
      apply hshared j' hj' i hi
      apply hseparate j' hj' i hi b hb a ha
      rw [of_decide_eq_true hbaddress, of_decide_eq_true haddress]
    · refine Or.inr ⟨rfl, List.ne_nil_of_mem (a := i) ?_⟩
      apply List.mem_flatMap.mpr
      exact ⟨i, hi, List.mem_map.mpr ⟨a, List.mem_filter.mpr ⟨ha, haddress⟩, rfl⟩⟩

theorem getExpertForControl (h : d.Ready value config) (setup : UsbSetup) :
    d.getExpertForControl setup = config.expertForControl setup := by
  unfold Device.getExpertForControl
  rw [h.activeConfiguration]
  rfl

theorem route (h : d.Ready value config) (hshared : config.SharesExperts)
    (hseparate : config.EndpointsSeparate) (p : DevicePacket) : d.route p = config.route p := by
  cases p with
  | bulkIn endpoint data =>
    rw [Device.route, h.getExpertForEndpoint hshared hseparate, UsbConfiguration.route]
  | bulkOut endpoint data =>
    rw [Device.route, h.getExpertForEndpoint hshared hseparate, UsbConfiguration.route]
  | controlIn endpoint setup data =>
    rw [Device.route, routeControl, h.getExpertForControl]
    rfl
  | controlOut endpoint setup data =>
    rw [Device.route, routeControl, h.getExpertForControl]
    rfl

variable [Libplist π]

omit [Libplist π] in
theorem of_sameRouting {d' : Device π} (h : d.Ready value config) (hsame : SameRouting d d') :
    d'.Ready value config where
  only := by rw [hsame.configurations, h.only]
  selected := by rw [hsame.currentConfiguration]; exact h.selected

/-- **Step lemma.** -/
theorem process (h : d.Ready value config) {p : DevicePacket}
    (hp : p.IsTraffic ∨ p.Selects value) : (d.process p).Ready value config := by
  rcases hp with htraffic | hselects
  · exact h.of_sameRouting (sameRouting_of_isTraffic d htraffic)
  · cases p with
    | controlIn endpoint setup data => exact hselects.elim
    | bulkIn endpoint data => exact hselects.elim
    | bulkOut endpoint data => exact hselects.elim
    | controlOut endpoint setup data =>
      unfold Device.process processControlPacketOut
      dsimp only
      obtain ⟨hstandard, hselects⟩ := hselects
      rw [if_pos hstandard]
      split
      · exact ⟨h.only, h.selected⟩
      split
      · next hconfiguration =>
        refine ⟨h.only, Or.inr ?_⟩
        rcases hselects with ⟨-, -, hvalue⟩ | ⟨hrecipient, -⟩
        · exact hvalue
        · rw [hconfiguration.1] at hrecipient
          exact absurd hrecipient (by decide)
      split
      · exact ⟨h.only, h.selected⟩
      · exact ⟨h.only, h.selected⟩

/-- **Run lemma.** -/
theorem deliveries_eq (h : d.Ready value config) (hshared : config.SharesExperts)
    (hseparate : config.EndpointsSeparate) (packets : List DevicePacket)
    (hpackets : ∀ p ∈ packets, p.IsTraffic ∨ p.Selects value) :
    d.deliveries packets = packets.filterMap config.route := by
  induction packets generalizing d with
  | nil => rfl
  | cons p packets ih =>
    have hnext := ih (h.process (hpackets p List.mem_cons_self))
      (fun q hq => hpackets q (List.mem_cons_of_mem _ hq))
    rw [deliveries, hnext, h.route hshared hseparate, List.filterMap_cons]
    cases config.route p <;> rfl

end Ready

/-! ## Runs -/

/-- Every delivery of a run is the same without the selections that were missed. -/
theorem Ready.deliveries_of_misses [Libplist π] {d : Device π} {value : UInt8}
    {config : UsbConfiguration} (h : d.Ready value config) (hshared : config.SharesExperts)
    (hseparate : config.EndpointsSeparate) {packets kept : List DevicePacket}
    (hpackets : ∀ p ∈ packets, p.IsTraffic ∨ p.Selects value)
    (hmisses : MissesSelections value packets kept) :
    d.deliveries kept = d.deliveries packets := by
  have hkept : ∀ p ∈ kept, p.IsTraffic ∨ p.Selects value := fun p hp =>
    hpackets p (hmisses.subset hp)
  rw [h.deliveries_eq hshared hseparate packets hpackets,
    h.deliveries_eq hshared hseparate kept hkept, hmisses.filterMap_route]

/-- A capture that missed selections routes every transfer as before: every expert is handed
the same transfers in the same order, and ends in the same state. -/
theorem missed_selections_route_alike [Libplist π] (id : UInt64) (before : List DevicePacket)
    (value : UInt8) (config : UsbConfiguration)
    (honly : ((new id : Device π).run before).configurations.toList = [(value, config)])
    (hendpoints : config.EndpointsSeparate)
    (hselected : ((new id : Device π).run before).currentConfiguration = 0 ∨
      ((new id : Device π).run before).currentConfiguration = value)
    (packets kept : List DevicePacket)
    (hpackets : ∀ p ∈ packets, p.IsTraffic ∨ p.Selects value)
    (hmisses : MissesSelections value packets kept) (i : Nat) :
    ((new id : Device π).run before).deliveredTo i kept =
        ((new id : Device π).run before).deliveredTo i packets ∧
      ∀ e, ((new id : Device π).run before).experts[i]? = some e →
        (((new id : Device π).run before).run kept).experts[i]? =
          (((new id : Device π).run before).run packets).experts[i]? := by
  have hready : ((new id : Device π).run before).Ready value config := ⟨honly, hselected⟩
  have hconfig : ((new id : Device π).run before).configurations[value]? = some config := by
    rw [hready.configurations_eq, Std.ExtTreeMap.getElem?_insert_self]
  have hshared : config.SharesExperts := (attached_run id before value config hconfig).shared
  have hdelivered : ((new id : Device π).run before).deliveredTo i kept =
      ((new id : Device π).run before).deliveredTo i packets := by
    rw [deliveredTo, hready.deliveries_of_misses hshared hendpoints hpackets hmisses, deliveredTo]
  refine ⟨hdelivered, ?_⟩
  intro e he
  rw [experts_run _ kept e he, experts_run _ packets e he, hdelivered]

/-- A DFU interface with two alternate settings, the second with an IN endpoint. -/
def alternatesDescriptor : Bytes :=
  Layout.encode (⟨9, 2, 36, 1, 1, 0, 0x80, 50⟩ : UsbConfigDescriptor) ++
    Layout.encode (⟨9, 4, 0, 0, 0, 0xFE, 1, 1, 0⟩ : UsbInterfaceDescriptor) ++
    Layout.encode (⟨9, 4, 0, 1, 1, 0xFE, 1, 1, 0⟩ : UsbInterfaceDescriptor) ++
    Layout.encode (⟨9, 5, 0x81, 2, 512, 0, 0, 0⟩ : UsbEndpointDescriptor)

/-- Missing the selection of the configuration, or of the alternate setting, or both. -/
theorem missed_selections_route_alike_example :
    ((new 1 : Device Empty).run [.ofDescriptor 2 alternatesDescriptor]).deliveredTo 0
        [.bulkIn 0x81 [1, 2]] =
      ((new 1 : Device Empty).run [.ofDescriptor 2 alternatesDescriptor]).deliveredTo 0
        [.controlOut 0 ⟨0, 9, 1, 0, 0⟩ [], .controlOut 0 ⟨1, 11, 1, 0, 0⟩ [],
          .bulkIn 0x81 [1, 2]] := by
  have hconfiguration : (DevicePacket.controlOut 0 ⟨0, 9, 1, 0, 0⟩ []).Selects 1 :=
    ⟨rfl, Or.inl ⟨rfl, rfl, rfl⟩⟩
  have halternate : (DevicePacket.controlOut 0 ⟨1, 11, 1, 0, 0⟩ []).Selects 1 :=
    ⟨rfl, Or.inr ⟨rfl, rfl⟩⟩
  refine (missed_selections_route_alike 1 [.ofDescriptor 2 alternatesDescriptor] 1
    { descriptor := ⟨9, 2, 36, 1, 1, 0, 0x80, 50⟩
      interfaces := [⟨⟨9, 4, 0, 0, 0, 0xFE, 1, 1, 0⟩, [], some 0⟩,
        ⟨⟨9, 4, 0, 1, 1, 0xFE, 1, 1, 0⟩, [⟨9, 5, 0x81, 2, 512, 0, 0, 0⟩], some 0⟩] }
    (by decide +kernel) (by decide) (Or.inl (by decide +kernel)) _ _ ?_
    (.miss hconfiguration (.miss halternate (.keep _ .nil))) 0).1
  intro p hp
  rcases List.mem_cons.mp hp with rfl | hp
  · exact Or.inr hconfiguration
  rcases List.mem_cons.mp hp with rfl | hp
  · exact Or.inr halternate
  · rw [List.mem_singleton.mp hp]
    exact Or.inl trivial

end Device

end DemuxUsb
