import DemuxUsb.Usb.DescriptorEffect

/-!
# Routing

A transfer is handed to at most one expert, `route` says to which and as what. It is the
only way in which an expert changes: `process_effect` lists what a transfer can do to the
experts and the configurations of a device, and `experts_run` says of a whole run that an
expert is what the transfers delivered to it made of it.
-/

namespace DemuxUsb

variable {π : Type}

/-- The response to a GET_DESCRIPTOR request. -/
def DevicePacket.ofDescriptor (descriptorType : UInt8) (data : Bytes) : DevicePacket :=
  .controlIn 0x80 ⟨0x80, usbReqGetDescriptor, descriptorType.toUInt16 <<< 8, 0, 0xFF⟩ data

/-! ## Deliveries -/

/-- A transfer as an expert takes it. -/
inductive Delivery where
  | controlIn (setup : UsbSetup) (data : Bytes)
  | controlOut (setup : UsbSetup) (data : Bytes)
  | bulkIn (data : Bytes)
  | bulkOut (data : Bytes)
  deriving DecidableEq

namespace Expert

/-- The expert after one transfer. -/
def receive [Libplist π] (e : Expert π) : Delivery → Expert π
  | .controlIn setup data => e.processControlIn setup data
  | .controlOut setup data => e.processControlOut setup data
  | .bulkIn data => e.processBulkIn data
  | .bulkOut data => e.processBulkOut data

end Expert

namespace Device

/-- The expert that is handed a control transfer on endpoint 0 that is not a standard one. -/
def routeControl (d : Device π) (endpoint : UInt8) (setup : UsbSetup) (x : Delivery) :
    Option (Nat × Delivery) :=
  if usbEndpointId endpoint ≠ 0 ∨ setup.bmRequestType &&& usbTypeMask = usbTypeStandard then none
  else (d.getExpertForControl setup).map (·, x)

/-- The expert that is handed the transfer, and what it is handed. -/
def route (d : Device π) : DevicePacket → Option (Nat × Delivery)
  | .controlIn endpoint setup data => d.routeControl endpoint setup (.controlIn setup data)
  | .controlOut endpoint setup data => d.routeControl endpoint setup (.controlOut setup data)
  | .bulkIn endpoint data => (d.getExpertForEndpoint (endpoint ||| 0x80)).map (·, .bulkIn data)
  | .bulkOut endpoint data =>
    (d.getExpertForEndpoint (usbEndpointId endpoint)).map (·, .bulkOut data)

/-- A device nothing was seen of yet. -/
def new (id : UInt64) : Device π := { device := id }

variable [Libplist π]

/-- A run of transfers. -/
def run (d : Device π) (packets : List DevicePacket) : Device π := packets.foldl process d

/-- What a run hands to which expert, in order. -/
def deliveries (d : Device π) : List DevicePacket → List (Nat × Delivery)
  | [] => []
  | p :: packets => (d.route p).toList ++ (d.process p).deliveries packets

/-- What a run hands to the expert `i`, in order. -/
def deliveredTo (d : Device π) (i : Nat) (packets : List DevicePacket) : List Delivery :=
  ((d.deliveries packets).filter (·.1 == i)).map Prod.snd

@[simp] theorem run_nil (d : Device π) : d.run [] = d := rfl

@[simp] theorem run_cons (d : Device π) (p : DevicePacket) (packets : List DevicePacket) :
    d.run (p :: packets) = (d.process p).run packets := rfl

theorem run_append (d : Device π) (before after : List DevicePacket) :
    d.run (before ++ after) = (d.run before).run after := List.foldl_append

theorem run_concat (d : Device π) (packets : List DevicePacket) (p : DevicePacket) :
    d.run (packets ++ [p]) = (d.run packets).process p := List.foldl_concat _ _ _ _

/-- The induction over the states of a run. -/
theorem run_induction {motive : Device π → Prop}
    (step : ∀ d p, motive d → motive (d.process p)) {d : Device π} (hd : motive d)
    (packets : List DevicePacket) : motive (d.run packets) := by
  induction packets generalizing d with
  | nil => exact hd
  | cons p packets ih => exact ih (step d p hd)

/-! ## What a transfer does -/

/-- What the routing of transfers looks at is the same. -/
structure SameRouting (d d' : Device π) : Prop where
  configurations : d'.configurations = d.configurations
  currentConfiguration : d'.currentConfiguration = d.currentConfiguration
  alternates : d'.alternates = d.alternates

omit [Libplist π] in
theorem SameRouting.of_withExpert {d d' : Device π} (h : SameRouting d d') (i : Option Nat)
    (f : Expert π → Expert π) : SameRouting d (d'.withExpert i f) := by
  cases i with
  | none => exact h
  | some i => exact ⟨h.1, h.2, h.3⟩

omit [Libplist π] in
theorem SameRouting.activeConfiguration {d d' : Device π} (h : SameRouting d d') :
    d'.activeConfiguration = d.activeConfiguration := by
  rw [Device.activeConfiguration, Device.activeConfiguration, h.configurations,
    h.currentConfiguration]

omit [Libplist π] in
theorem SameRouting.getExpertForEndpoint {d d' : Device π} (h : SameRouting d d')
    (endpoint : UInt8) : d'.getExpertForEndpoint endpoint = d.getExpertForEndpoint endpoint := by
  have hsearch : ∀ fallback interfaces,
      d'.searchEndpoint fallback interfaces = d.searchEndpoint fallback interfaces := by
    intro fallback interfaces
    induction interfaces generalizing fallback with
    | nil => rfl
    | cons i rest ih =>
      rw [searchEndpoint, searchEndpoint, ih, getAlternateSetting, getAlternateSetting,
        h.alternates]
  rw [Device.getExpertForEndpoint, Device.getExpertForEndpoint, h.activeConfiguration]
  cases d.activeConfiguration with
  | none => rfl
  | some config => exact hsearch _ _

omit [Libplist π] in
theorem SameRouting.getExpertForControl {d d' : Device π} (h : SameRouting d d')
    (setup : UsbSetup) : d'.getExpertForControl setup = d.getExpertForControl setup := by
  rw [Device.getExpertForControl, Device.getExpertForControl, h.activeConfiguration,
    h.configurations]

omit [Libplist π] in
/-- The routing of a transfer looks at nothing else. -/
theorem SameRouting.route {d d' : Device π} (h : SameRouting d d') (p : DevicePacket) :
    d'.route p = d.route p := by
  cases p with
  | bulkIn endpoint data => rw [Device.route, Device.route, h.getExpertForEndpoint]
  | bulkOut endpoint data => rw [Device.route, Device.route, h.getExpertForEndpoint]
  | controlIn endpoint setup data =>
    rw [Device.route, Device.route, routeControl, routeControl, h.getExpertForControl]
  | controlOut endpoint setup data =>
    rw [Device.route, Device.route, routeControl, routeControl, h.getExpertForControl]

/-- The configuration was read in full, and is stored under its value with the experts it
calls for. -/
structure Stores (d : Device π) (config : UsbConfiguration) (d' : Device π) : Prop where
  isNew : config.descriptor.bConfigurationValue ∉ d.configurations
  experts : d'.experts = (d.attachExperts config).1
  configurations : d'.configurations =
    d.configurations.insert config.descriptor.bConfigurationValue (d.attachExperts config).2

omit [Libplist π] in
/-- A descriptor is stored as a configuration, or not. -/
theorem DescriptorEffect.stores {d d' : Device π} {setup : UsbSetup} {data : Bytes}
    (h : DescriptorEffect d setup data d') :
    d'.experts = d.experts ∧ d'.configurations = d.configurations ∨
      ∃ total, d.Stores (UsbConfiguration.parse {} (data.take total)).1 d' := by
  cases h with
  | kept anomalies => exact Or.inl ⟨rfl, rfl⟩
  | device hrequested hreturned hcomplete descriptor => exact Or.inl ⟨rfl, rfl⟩
  | config total config hconfig hnew anomalies =>
    refine Or.inr ⟨total, ?_⟩
    rw [← hconfig]
    exact ⟨hnew, rfl, rfl⟩
  | string index text => exact Or.inl ⟨rfl, rfl⟩
  | bos descriptor => exact Or.inl ⟨rfl, rfl⟩

/-- What one transfer can do. -/
inductive Effect (d : Device π) (p : DevicePacket) (d' : Device π) : Prop where
  /-- It is handed to an expert. -/
  | delivered (i : Nat) (x : Delivery) (hroute : d.route p = some (i, x))
      (hexperts : d'.experts = d.experts.modify i (·.receive x)) (hsame : SameRouting d d')
  /-- It is handed to no expert. -/
  | kept (hroute : d.route p = none) (hexperts : d'.experts = d.experts)
      (hconfigurations : d'.configurations = d.configurations)
  /-- It is a descriptor set that was not stored yet. -/
  | stored (hroute : d.route p = none) (data : Bytes)
      (hstores : d.Stores (UsbConfiguration.parse {} data).1 d')

theorem effect_of_withExpert {d d' : Device π} {p : DevicePacket} {i : Option Nat}
    (x : Delivery) (hroute : d'.route p = i.map (·, x)) (hexperts : d'.experts = d.experts)
    (hsame : SameRouting d d') : Effect d p (d'.withExpert i (·.receive x)) := by
  rw [hsame.route] at hroute
  cases i with
  | none => exact .kept hroute hexperts hsame.configurations
  | some i =>
    refine .delivered i x hroute ?_ (hsame.of_withExpert _ _)
    rw [withExpert, hexperts]

omit [Libplist π] in
/-- The descriptors of a standard request, and the selections of a configuration and of an
alternate setting, are handed to no expert. -/
theorem route_of_standard {endpoint : UInt8} {setup : UsbSetup}
    (h : usbEndpointId endpoint ≠ 0 ∨ setup.bmRequestType &&& usbTypeMask = usbTypeStandard)
    (d : Device π) (x : Delivery) : d.routeControl endpoint setup x = none := if_pos h

/-- **Step lemma.** -/
theorem process_effect (d : Device π) (p : DevicePacket) : Effect d p (d.process p) := by
  cases p with
  | bulkIn endpoint data =>
    unfold process processBulkPacketIn
    exact effect_of_withExpert (.bulkIn data) rfl rfl ⟨rfl, rfl, rfl⟩
  | bulkOut endpoint data =>
    unfold process processBulkPacketOut
    exact effect_of_withExpert (.bulkOut data) rfl rfl ⟨rfl, rfl, rfl⟩
  | controlIn endpoint setup data =>
    unfold process processControlPacketIn
    dsimp only
    split
    · next hendpoint =>
      exact .kept (route_of_standard (Or.inl hendpoint) d _) rfl rfl
    next hendpoint =>
    split
    · next hstandard =>
      have hroute : d.route (.controlIn endpoint setup data) = none :=
        route_of_standard (Or.inr hstandard) d _
      split
      · -- the counted packet does not matter to what is stored
        rcases (processDescriptor_effect _ setup data).stores with ⟨he, hc⟩ | ⟨total, hstores⟩
        · exact .kept hroute he hc
        · exact .stored hroute _ ⟨hstores.1, hstores.2, hstores.3⟩
      · exact .kept hroute rfl rfl
    · next hstandard =>
      refine effect_of_withExpert (.controlIn setup data) ?_ rfl ⟨rfl, rfl, rfl⟩
      exact if_neg (not_or.mpr ⟨hendpoint, hstandard⟩)
  | controlOut endpoint setup data =>
    unfold process processControlPacketOut
    dsimp only
    split
    · next hendpoint =>
      exact .kept (route_of_standard (Or.inl hendpoint) d _) rfl rfl
    next hendpoint =>
    split
    · next hstandard =>
      have hroute : d.route (.controlOut endpoint setup data) = none :=
        route_of_standard (Or.inr hstandard) d _
      split
      · exact .kept hroute rfl rfl
      split
      · exact .kept hroute rfl rfl
      · exact .kept hroute rfl rfl
    · next hstandard =>
      refine effect_of_withExpert (.controlOut setup data) ?_ rfl ⟨rfl, rfl, rfl⟩
      exact if_neg (not_or.mpr ⟨hendpoint, hstandard⟩)

/-! ## Runs -/

/-- An expert as a configuration calls for it, before it was handed anything. -/
inductive NewExpert (config : UsbConfiguration) : Expert π → Prop
  | usbmux (number : UInt8) : NewExpert config
      (.usbmux { configuration := config.descriptor.bConfigurationValue, interface := number })
  | dfu (number : UInt8) : NewExpert config (dfuExpert config number)
  | recovery : NewExpert config
      (.recovery { configuration := config.descriptor.bConfigurationValue, interface := 0 })

omit [Libplist π] in
theorem newExpert_of_interface {d : Device π} {config : UsbConfiguration}
    {x : UsbInterfaceDescriptor} {e : Expert π} (h : d.interfaceExpert config x = some e) :
    NewExpert config e := by
  unfold interfaceExpert at h
  split at h
  · obtain rfl := Option.some.inj h
    exact .usbmux _
  split at h
  · obtain rfl := Option.some.inj h
    exact .dfu _
  · cases h

omit [Libplist π] in
theorem newExpert_of_device {d : Device π} {config : UsbConfiguration} {e : Expert π}
    (h : d.deviceExpert config = some e) : NewExpert config e := by
  unfold deviceExpert at h
  split at h
  · obtain rfl := Option.some.inj h
    exact .dfu _
  split at h
  · obtain rfl := Option.some.inj h
    exact .recovery
  · cases h

omit [Libplist π] in
/-- An interface adds at most one expert. -/
theorem attachInterface_new (d : Device π) (config : UsbConfiguration) (s : Attaching π)
    (i : Nat × UsbInterfaceDescriptor) :
    ∃ new, (d.attachInterface config s i).experts = s.experts ++ new ∧
      ∀ e ∈ new, NewExpert config e := by
  have hsame : s.experts = s.experts ++ [] := (List.append_nil _).symm
  unfold attachInterface
  dsimp only
  split
  · exact ⟨[], hsame, List.forall_mem_nil _⟩
  · split
    · exact ⟨[], hsame, List.forall_mem_nil _⟩
    · next hexpert =>
      refine ⟨_, rfl, ?_⟩
      intro e he
      rw [List.mem_singleton.mp he]
      exact newExpert_of_interface hexpert

omit [Libplist π] in
/-- Experts are added at the end. -/
theorem attachExperts_new (d : Device π) (config : UsbConfiguration) :
    ∃ new, (d.attachExperts config).1 = d.experts ++ new ∧ ∀ e ∈ new, NewExpert config e := by
  unfold attachExperts
  split
  · next hexpert =>
    refine ⟨_, rfl, ?_⟩
    intro e he
    rw [List.mem_singleton.mp he]
    exact newExpert_of_device hexpert
  · have h : ∀ (places : List (Nat × UsbInterfaceDescriptor)) (s : Attaching π),
        ∃ new, (places.foldl (d.attachInterface config) s).experts = s.experts ++ new ∧
          ∀ e ∈ new, NewExpert config e := by
      intro places
      induction places with
      | nil => exact fun s => ⟨[], (List.append_nil _).symm, List.forall_mem_nil _⟩
      | cons i places ih =>
        intro s
        obtain ⟨first, hfirst, hnew⟩ := d.attachInterface_new config s i
        obtain ⟨rest, hrest, hnew'⟩ := ih (d.attachInterface config s i)
        refine ⟨first ++ rest, ?_, ?_⟩
        · rw [List.foldl_cons, hrest, hfirst, List.append_assoc]
        · intro e he
          rcases List.mem_append.mp he with he | he
          · exact hnew e he
          · exact hnew' e he
    exact h _ { experts := d.experts, interfaces := config.interfaces }

omit [Libplist π] in
theorem attachExperts_experts (d : Device π) (config : UsbConfiguration) :
    d.experts <+: (d.attachExperts config).1 := by
  obtain ⟨new, hnew, -⟩ := d.attachExperts_new config
  exact ⟨new, hnew.symm⟩

theorem deliveredTo_cons (d : Device π) (i : Nat) (p : DevicePacket)
    (packets : List DevicePacket) :
    d.deliveredTo i (p :: packets) =
      ((d.route p).toList.filter (·.1 == i)).map Prod.snd ++
        (d.process p).deliveredTo i packets := by
  rw [deliveredTo, deliveries, List.filter_append, List.map_append]
  rfl

/-- The expert `i` after one transfer. -/
theorem experts_process (d : Device π) (p : DevicePacket) {i : Nat} (e : Expert π)
    (he : d.experts[i]? = some e) :
    (d.process p).experts[i]? =
      some ((((d.route p).toList.filter (·.1 == i)).map Prod.snd).foldl Expert.receive e) := by
  cases d.process_effect p with
  | delivered j x hroute hexperts =>
    rw [hexperts, hroute, List.getElem?_modify, he]
    by_cases hj : j = i
    · simp [hj]
    · simp [hj]
  | kept hroute hexperts => rw [hexperts, hroute, he]; rfl
  | stored hroute data hstores =>
    obtain ⟨new, hnew⟩ := d.attachExperts_experts (UsbConfiguration.parse {} data).1
    rw [hstores.experts, hroute, ← hnew, List.getElem?_append_left, he]
    · rfl
    · exact (List.getElem?_eq_some_iff.mp he).1

/-- **Run lemma.** An expert is what the transfers delivered to it made of it. -/
theorem experts_run (d : Device π) (packets : List DevicePacket) {i : Nat} (e : Expert π)
    (he : d.experts[i]? = some e) :
    (d.run packets).experts[i]? =
      some ((d.deliveredTo i packets).foldl Expert.receive e) := by
  induction packets generalizing d e with
  | nil => exact he
  | cons p packets ih =>
    rw [run_cons, deliveredTo_cons, List.foldl_append]
    exact ih _ _ (d.experts_process p e he)

/-- What holds of new experts, and transfers keep, holds of every expert in every run. -/
theorem forall_experts_run {motive : Expert π → Prop}
    (new : ∀ config e, NewExpert config e → motive e)
    (receive : ∀ e x, motive e → motive (e.receive x)) (id : UInt64)
    (packets : List DevicePacket) :
    ∀ e ∈ ((Device.new id : Device π).run packets).experts, motive e := by
  apply run_induction (motive := fun d : Device π => ∀ e ∈ d.experts, motive e)
  · intro d p hd e he
    cases d.process_effect p with
    | delivered i x hroute hexperts =>
      obtain ⟨n, hn⟩ := List.mem_iff_getElem?.mp he
      rw [hexperts, List.getElem?_modify] at hn
      obtain ⟨old, hold, rfl⟩ := Option.map_eq_some_iff.mp hn
      have hkept := hd old (List.mem_of_getElem? hold)
      split
      · exact receive old x hkept
      · exact hkept
    | kept hroute hexperts =>
      rw [hexperts] at he
      exact hd e he
    | stored hroute data hstores =>
      obtain ⟨added, hadded, hnew⟩ := d.attachExperts_new (UsbConfiguration.parse {} data).1
      rw [hstores.experts, hadded] at he
      rcases List.mem_append.mp he with he | he
      · exact hd e he
      · exact new _ e (hnew e he)
  · intro e he
    cases he

end Device

end DemuxUsb
