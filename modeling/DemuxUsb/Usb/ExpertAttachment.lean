import DemuxUsb.Library.Maps
import DemuxUsb.Usb.ExpertIdentity

/-!
# `attachExperts`

The experts are attached in one pass over the entries of a configuration, which may find
what an interface calls for at a late alternate setting and then writes it back to the
earlier ones. `attachExperts_spec` gives the result in one piece: which expert an entry
gets depends on the number of its interface alone.
-/

namespace DemuxUsb

variable {π : Type}

/-! ## The loop -/

/-- No expert is attached yet. -/
def UsbConfiguration.Bare (config : UsbConfiguration) : Prop :=
  ∀ i ∈ config.interfaces, i.expert = none

/-- Every entry gets the expert of its interface number. -/
def UsbConfiguration.assign (config : UsbConfiguration) (f : UInt8 → Option Nat) :
    UsbConfiguration :=
  { config with
    interfaces := config.interfaces.map
      (fun entry => { entry with expert := f entry.interface.bInterfaceNumber }) }

theorem UsbConfiguration.Bare.interfaces {config : UsbConfiguration} (h : config.Bare) :
    (config.assign fun number => (∅ : Std.ExtTreeMap UInt8 Nat)[number]?).interfaces =
      config.interfaces := by
  unfold UsbConfiguration.assign
  conv_rhs => rw [← List.map_id' config.interfaces]
  apply List.map_congr_left
  intro entry hentry
  dsimp only
  rw [Std.ExtTreeMap.getElem?_empty, ← h entry hentry]

namespace Device

/-- The expert the entries of an interface call for: the first that one of them does. -/
def calledFor (d : Device π) (config : UsbConfiguration) (number : UInt8)
    (descriptors : List UsbInterfaceDescriptor) : Option (Expert π) :=
  descriptors.findSome? fun descriptor =>
    if descriptor.bInterfaceNumber = number then d.interfaceExpert config descriptor else none

/-- The expert an interface of the configuration gets. -/
def expertFor (d : Device π) (config : UsbConfiguration) (number : UInt8) : Option (Expert π) :=
  match d.deviceExpert config with
  | some expert => some expert
  | none => d.calledFor config number (config.interfaces.map UsbInterface.interface)

/-- What holds after the descriptors `done`. -/
structure AttachInvariant (d : Device π) (config : UsbConfiguration)
    (done : List UsbInterfaceDescriptor) (s : Attaching π) : Prop where
  interfaces : s.interfaces = (config.assign fun number => s.byInterface[number]?).interfaces
  experts : d.experts <+: s.experts
  called : ∀ number : UInt8, (s.byInterface[number]?).map (s.experts[·]?) =
    (d.calledFor config number done).map some

variable {d : Device π} {config : UsbConfiguration}

theorem calledFor_append_single (number : UInt8) (done : List UsbInterfaceDescriptor)
    (x : UsbInterfaceDescriptor) :
    d.calledFor config number (done ++ [x]) =
      (d.calledFor config number done).or
        (if x.bInterfaceNumber = number then d.interfaceExpert config x else none) := by
  unfold calledFor
  rw [List.findSome?_append, List.findSome?_singleton]

/-- The entry at a place that is reached a second time has the expert already. -/
theorem assign_modify (f : UInt8 → Option Nat) {k : Nat} {x : UsbInterfaceDescriptor}
    (hplace : (config.interfaces[k]?).map UsbInterface.interface = some x) :
    (config.assign f).interfaces.modify k
        (fun entry => { entry with expert := f x.bInterfaceNumber }) =
      (config.assign f).interfaces := by
  apply List.ext_getElem?
  intro i
  rw [List.getElem?_modify]
  by_cases hi : k = i
  · subst hi
    obtain ⟨entry, hentry, rfl⟩ := Option.map_eq_some_iff.mp hplace
    simp [UsbConfiguration.assign, hentry]
  · simp [hi]

/-- A new expert reaches the entries of its interface, the earlier ones included. -/
theorem assign_insert (byInterface : Std.ExtTreeMap UInt8 Nat) (number : UInt8) (n : Nat) :
    (config.assign fun m => byInterface[m]?).interfaces.map
        (fun other => if other.interface.bInterfaceNumber = number then
          { other with expert := some n } else other) =
      (config.assign fun m => (byInterface.insert number n)[m]?).interfaces := by
  unfold UsbConfiguration.assign
  rw [List.map_map]
  apply List.map_congr_left
  intro entry _
  by_cases hnumber : entry.interface.bInterfaceNumber = number
  · subst hnumber
    simp
  · simp [hnumber, Maps.getElem?_insert_ne hnumber]

theorem AttachInvariant.exists_expert {done : List UsbInterfaceDescriptor} {s : Attaching π}
    (h : AttachInvariant d config done s) {number : UInt8} {n : Nat}
    (hn : s.byInterface[number]? = some n) :
    ∃ e, d.calledFor config number done = some e ∧ s.experts[n]? = some e := by
  have hcalled := h.called number
  rw [hn, Option.map_some] at hcalled
  obtain ⟨e, he, hsome⟩ := Option.map_eq_some_iff.mp hcalled.symm
  exact ⟨e, he, hsome.symm⟩

/-- **Step lemma.** -/
theorem AttachInvariant.step {done : List UsbInterfaceDescriptor} {s : Attaching π}
    (h : AttachInvariant d config done s) {k : Nat} {x : UsbInterfaceDescriptor}
    (hplace : (config.interfaces[k]?).map UsbInterface.interface = some x) :
    AttachInvariant d config (done ++ [x]) (d.attachInterface config s (k, x)) := by
  unfold attachInterface
  dsimp only
  cases hfound : s.byInterface[x.bInterfaceNumber]? with
  | some expert =>
    obtain ⟨e, hcalled, _⟩ := h.exists_expert hfound
    refine ⟨?_, h.experts, ?_⟩
    · have hmodify := assign_modify (fun number => s.byInterface[number]?) hplace
      simp only [hfound] at hmodify
      simp only [h.interfaces]
      exact hmodify
    · intro number
      rw [h.called, calledFor_append_single]
      by_cases hnumber : x.bInterfaceNumber = number
      · subst hnumber
        rw [hcalled]
        rfl
      · rw [if_neg hnumber, Option.or_none]
  | none =>
    dsimp only
    have hnone : d.calledFor config x.bInterfaceNumber done = none := by
      have := h.called x.bInterfaceNumber
      rw [hfound] at this
      exact Option.map_eq_none_iff.mp this.symm
    cases hexpert : d.interfaceExpert config x with
    | none =>
      refine ⟨h.interfaces, h.experts, ?_⟩
      intro number
      rw [h.called, calledFor_append_single, hexpert, ite_self, Option.or_none]
    | some e =>
      refine ⟨?_, h.experts.trans (List.prefix_append _ _), ?_⟩
      · simp only [h.interfaces]
        exact assign_insert _ _ _
      · intro number
        rw [calledFor_append_single]
        by_cases hnumber : number = x.bInterfaceNumber
        · subst hnumber
          rw [Std.ExtTreeMap.getElem?_insert_self, hnone, if_pos rfl, hexpert]
          simp
        · rw [Maps.getElem?_insert_ne hnumber, if_neg (Ne.symm hnumber), Option.or_none,
            ← h.called]
          -- the places of the experts made before are below the new one
          cases hn : s.byInterface[number]? with
          | none => rfl
          | some n =>
            obtain ⟨e', _, he'⟩ := h.exists_expert hn
            rw [Option.map_some, Option.map_some, List.getElem?_append_left
              (List.getElem?_eq_some_iff.mp he').1]

/-- **Run lemma.** -/
theorem AttachInvariant.run {done : List UsbInterfaceDescriptor} {s : Attaching π}
    (h : AttachInvariant d config done s) (places : List (Nat × UsbInterfaceDescriptor))
    (hplaces : ∀ i ∈ places,
      (config.interfaces[i.1]?).map UsbInterface.interface = some i.2) :
    AttachInvariant d config (done ++ places.map Prod.snd)
      (places.foldl (d.attachInterface config) s) := by
  induction places generalizing done s with
  | nil => simpa using h
  | cons i places ih =>
    rw [List.foldl_cons, List.map_cons, List.append_cons]
    apply ih (h.step (hplaces i List.mem_cons_self))
    intro j hj
    exact hplaces j (List.mem_cons_of_mem _ hj)

variable (d) in
/-- The entries of an interface share the expert it calls for, if any. -/
theorem attachExperts_spec (hbare : config.Bare) :
    ∃ f : UInt8 → Option Nat, (d.attachExperts config).2 = config.assign f ∧
      (∀ number, (f number).map ((d.attachExperts config).1[·]?) =
        (d.expertFor config number).map some) ∧
      (d.deviceExpert config ≠ none → ∀ number, f number = some d.experts.length) := by
  unfold attachExperts expertFor
  cases d.deviceExpert config with
  | some expert =>
    refine ⟨fun _ => some d.experts.length, rfl, ?_, fun _ _ => rfl⟩
    intro number
    simp
  | none =>
    dsimp only
    have hstart : AttachInvariant d config []
        { experts := d.experts, interfaces := config.interfaces } := by
      refine ⟨hbare.interfaces.symm, List.prefix_rfl, ?_⟩
      intro number
      rw [Std.ExtTreeMap.getElem?_empty]
      rfl
    have hrun := hstart.run
      (config.interfaces.zipIdx.map fun entry => (entry.2, entry.1.interface)) (by
        intro i hi
        obtain ⟨entry, hentry, rfl⟩ := List.mem_map.mp hi
        rw [List.mk_mem_zipIdx_iff_getElem?.mp hentry]
        rfl)
    have hdone : (config.interfaces.zipIdx.map fun entry => (entry.2, entry.1.interface)).map
        Prod.snd = config.interfaces.map UsbInterface.interface := by
      conv_rhs => rw [← List.zipIdx_map_fst 0 config.interfaces]
      rw [List.map_map, List.map_map]
      rfl
    rw [List.nil_append, hdone] at hrun
    refine ⟨_, ?_, hrun.called, fun hdevice => absurd rfl hdevice⟩
    rw [UsbConfiguration.assign, hrun.interfaces]
    rfl

/-! ## Identities -/

theorem interfaceExpert_identity {x : UsbInterfaceDescriptor} {e : Expert π}
    (h : d.interfaceExpert config x = some e) :
    e.identity.configuration = config.descriptor.bConfigurationValue ∧
      e.identity.interface = x.bInterfaceNumber := by
  unfold interfaceExpert at h
  split at h
  · obtain rfl := Option.some.inj h
    exact ⟨rfl, rfl⟩
  split at h
  · obtain rfl := Option.some.inj h
    exact ⟨rfl, rfl⟩
  · cases h

/-- The expert of a whole device is a DFU or a recovery expert. -/
theorem deviceExpert_identity {e : Expert π} (h : d.deviceExpert config = some e) :
    e.identity.configuration = config.descriptor.bConfigurationValue ∧
      e.identity.kind ≠ .usbmux := by
  unfold deviceExpert at h
  split at h
  · obtain rfl := Option.some.inj h
    exact ⟨rfl, ExpertKind.noConfusion⟩
  split at h
  · obtain rfl := Option.some.inj h
    exact ⟨rfl, ExpertKind.noConfusion⟩
  · cases h

theorem calledFor_identity {number : UInt8} {descriptors : List UsbInterfaceDescriptor}
    {e : Expert π} (h : d.calledFor config number descriptors = some e) :
    e.identity.configuration = config.descriptor.bConfigurationValue ∧
      e.identity.interface = number := by
  obtain ⟨x, _, hx⟩ := List.exists_of_findSome?_eq_some h
  split at hx
  · next hnumber =>
    rw [← hnumber]
    exact interfaceExpert_identity hx
  · cases hx

theorem expertFor_configuration {number : UInt8} {e : Expert π}
    (h : d.expertFor config number = some e) :
    e.identity.configuration = config.descriptor.bConfigurationValue := by
  unfold expertFor at h
  split at h
  · next he =>
    obtain rfl := Option.some.inj h
    exact (deviceExpert_identity he).1
  · exact (calledFor_identity h).1

end Device

/-! ## Parsed configurations -/

namespace UsbConfiguration

theorem Bare.addEndpoint {config : UsbConfiguration} (h : config.Bare)
    (endpoint : UsbEndpointDescriptor) : (config.addEndpoint endpoint).Bare := by
  intro i hi
  obtain ⟨k, hk⟩ := List.mem_iff_getElem?.mp hi
  rw [UsbConfiguration.addEndpoint, List.getElem?_modify] at hk
  obtain ⟨entry, hentry, rfl⟩ := Option.map_eq_some_iff.mp hk
  have hnone := h entry (List.mem_of_getElem? hentry)
  split
  · exact hnone
  · exact hnone

theorem Bare.parseDescriptor {config config' : UsbConfiguration} {current current' : Bool}
    {header : UsbDescriptorHeader} {data : Bytes} (h : config.Bare)
    (hparse : config.parseDescriptor current header data = some (config', current')) :
    config'.Bare := by
  unfold UsbConfiguration.parseDescriptor at hparse
  dsimp only at hparse
  split at hparse
  · split at hparse
    · cases hparse
    · obtain ⟨rfl, _⟩ := Prod.mk.inj (Option.some.inj hparse)
      exact h
  split at hparse
  · split at hparse
    · cases hparse
    · obtain ⟨rfl, _⟩ := Prod.mk.inj (Option.some.inj hparse)
      intro i hi
      rcases List.mem_append.mp hi with hi | hi
      · exact h i hi
      · rw [List.mem_singleton.mp hi]
  split at hparse
  · split at hparse
    · cases hparse
    split at hparse
    · obtain ⟨rfl, _⟩ := Prod.mk.inj (Option.some.inj hparse)
      exact h
    · obtain ⟨rfl, _⟩ := Prod.mk.inj (Option.some.inj hparse)
      exact h.addEndpoint _
  split at hparse
  · split at hparse
    · obtain ⟨rfl, _⟩ := Prod.mk.inj (Option.some.inj hparse)
      exact h
    · obtain ⟨rfl, _⟩ := Prod.mk.inj (Option.some.inj hparse)
      exact h
  · obtain ⟨rfl, _⟩ := Prod.mk.inj (Option.some.inj hparse)
    exact h

theorem Bare.parseLoop {config : UsbConfiguration} {current : Bool} {data : Bytes}
    (h : config.Bare) : (config.parseLoop current data).1.Bare := by
  fun_induction UsbConfiguration.parseLoop config current data with
  | case1 config current data hdata => exact h
  | case2 config current data hdata hheader => exact h
  | case3 config current data hdata header hheader hlength => exact h
  | case4 config current data hdata header hheader hlength hparse => exact h
  | case5 config current data hdata header hheader hlength config' current' hparse ih =>
    exact ih (h.parseDescriptor hparse)

theorem bare_parse (data : Bytes) : (parse {} data).1.Bare := by
  apply Bare.parseLoop
  intro i hi
  cases hi

end UsbConfiguration

end DemuxUsb
