import Mathlib.Data.List.Nodup
import DemuxUsb.Usb.ExpertAttachment

/-!
# All alternate settings of an interface share one expert

`WellAttached` says how the experts of a stored configuration are attached, in terms of
their identities, which no transfer changes. It holds of every stored configuration in
every run (`attached_run`), and with it what an analysis relies on
(`experts_shared_for_life`).
-/

namespace DemuxUsb

variable {π : Type}

/-! ## The invariant -/

/-- The experts of a stored configuration; `ids` are the identities of the experts of the
device. -/
structure WellAttached (ids : List ExpertIdentity) (value : UInt8) (config : UsbConfiguration) :
    Prop where
  /-- An attached expert was made for this configuration. -/
  made : ∀ i ∈ config.interfaces, ∀ n, i.expert = some n →
    ∃ x, ids[n]? = some x ∧ x.configuration = value
  /-- The alternate settings of an interface share their expert. -/
  shared : ∀ i ∈ config.interfaces, ∀ j ∈ config.interfaces,
    i.interface.bInterfaceNumber = j.interface.bInterfaceNumber → i.expert = j.expert
  /-- Different interfaces share an expert only when the whole device does. -/
  separate :
    (∃ n x, ids[n]? = some x ∧ x.kind ≠ .usbmux ∧
      ∀ i ∈ config.interfaces, i.expert = some n) ∨
    ∀ i ∈ config.interfaces, ∀ j ∈ config.interfaces, ∀ n,
      i.expert = some n → j.expert = some n →
        i.interface.bInterfaceNumber = j.interface.bInterfaceNumber

theorem WellAttached.mono {ids ids' : List ExpertIdentity} {value : UInt8}
    {config : UsbConfiguration} (h : WellAttached ids value config) (hids : ids <+: ids') :
    WellAttached ids' value config := by
  obtain ⟨new, rfl⟩ := hids
  have hkeep : ∀ {n : Nat} {x}, ids[n]? = some x → (ids ++ new)[n]? = some x := by
    intro n x hx
    rw [List.getElem?_append_left (List.getElem?_eq_some_iff.mp hx).1, hx]
  refine ⟨?_, h.shared, ?_⟩
  · intro i hi n hn
    obtain ⟨x, hx, hvalue⟩ := h.made i hi n hn
    exact ⟨x, hkeep hx, hvalue⟩
  · rcases h.separate with ⟨n, x, hx, hkind, hall⟩ | hdistinct
    · exact Or.inl ⟨n, x, hkeep hx, hkind, hall⟩
    · exact Or.inr hdistinct

namespace Device

theorem wellAttached_attachExperts (d : Device π) {config : UsbConfiguration}
    (hbare : config.Bare) :
    WellAttached ((d.attachExperts config).1.map Expert.identity)
      config.descriptor.bConfigurationValue (d.attachExperts config).2 := by
  obtain ⟨f, hf, hcalled, hdevice⟩ := d.attachExperts_spec hbare
  have hentry : ∀ {i}, i ∈ (d.attachExperts config).2.interfaces →
      i.expert = f i.interface.bInterfaceNumber := by
    intro i hi
    rw [hf] at hi
    obtain ⟨entry, _, rfl⟩ := List.mem_map.mp hi
    rfl
  have hexpert : ∀ {number n}, f number = some n → ∃ e, d.expertFor config number = some e ∧
      ((d.attachExperts config).1.map Expert.identity)[n]? = some e.identity := by
    intro number n hn
    have hsome := hcalled number
    rw [hn, Option.map_some] at hsome
    obtain ⟨e, he, heq⟩ := Option.map_eq_some_iff.mp hsome.symm
    refine ⟨e, he, ?_⟩
    rw [List.getElem?_map, ← heq]
    rfl
  refine ⟨?_, ?_, ?_⟩
  · intro i hi n hn
    rw [hentry hi] at hn
    obtain ⟨e, he, hid⟩ := hexpert hn
    exact ⟨_, hid, expertFor_configuration he⟩
  · intro i hi j hj hnumber
    rw [hentry hi, hentry hj, hnumber]
  · cases hwide : d.deviceExpert config with
    | some e =>
      have hall : ∀ number, f number = some d.experts.length := by
        apply hdevice
        rw [hwide]
        exact Option.some_ne_none e
      obtain ⟨e', he', hid⟩ := hexpert (hall 0)
      rw [expertFor, hwide] at he'
      obtain rfl := Option.some.inj he'
      refine Or.inl ⟨_, _, hid, (deviceExpert_identity hwide).2, ?_⟩
      intro i hi
      rw [hentry hi, hall]
    | none =>
      right
      intro i hi j hj n hin hjn
      rw [hentry hi] at hin
      rw [hentry hj] at hjn
      obtain ⟨e, he, hid⟩ := hexpert hin
      obtain ⟨e', he', hid'⟩ := hexpert hjn
      rw [expertFor, hwide] at he he'
      have hsame : e.identity = e'.identity := Option.some.inj (hid.symm.trans hid')
      rw [← (calledFor_identity he).2, ← (calledFor_identity he').2, hsame]

theorem mem_foldl_listExpert (interfaces : List UsbInterface) (result : List Nat) (n : Nat) :
    n ∈ interfaces.foldl listExpert result ↔
      n ∈ result ∨ ∃ i ∈ interfaces, i.expert = some n := by
  induction interfaces generalizing result with
  | nil => simp
  | cons i interfaces ih =>
    rw [List.foldl_cons, ih, List.exists_mem_cons_iff, ← or_assoc]
    apply or_congr_left
    unfold listExpert
    cases i.expert with
    | none => simp
    | some m =>
      dsimp only
      split
      · next hm =>
        constructor
        · exact Or.inl
        · rintro (h | h)
          · exact h
          · exact Option.some.inj h ▸ hm
      · rw [List.mem_append, List.mem_singleton, Option.some.injEq, eq_comm]

theorem nodup_foldl_listExpert (interfaces : List UsbInterface) {result : List Nat}
    (h : result.Nodup) : (interfaces.foldl listExpert result).Nodup := by
  induction interfaces generalizing result with
  | nil => exact h
  | cons i interfaces ih =>
    apply ih
    unfold listExpert
    cases i.expert with
    | none => exact h
    | some m =>
      dsimp only
      split
      · exact h
      · next hm =>
        rw [← List.concat_eq_append]
        exact List.Nodup.concat hm h

/-- The experts that are attached to some interface. -/
theorem mem_getExperts {d : Device π} {n : Nat} :
    n ∈ d.getExperts ↔ ∃ (value : UInt8) (config : UsbConfiguration),
      d.configurations[value]? = some config ∧ ∃ i ∈ config.interfaces, i.expert = some n := by
  rw [getExperts, mem_foldl_listExpert]
  constructor
  · rintro (h | ⟨i, hi, hn⟩)
    · cases h
    · obtain ⟨⟨value, config⟩, hmem, hconfig⟩ := List.mem_flatMap.mp hi
      exact ⟨value, config, Std.ExtTreeMap.mem_toList_iff_getElem?_eq_some.mp hmem, i, hconfig, hn⟩
  · rintro ⟨value, config, hconfig, i, hi, hn⟩
    refine Or.inr ⟨i, List.mem_flatMap.mpr ⟨(value, config), ?_, hi⟩, hn⟩
    exact Std.ExtTreeMap.mem_toList_iff_getElem?_eq_some.mpr hconfig

theorem nodup_getExperts (d : Device π) : d.getExperts.Nodup :=
  nodup_foldl_listExpert _ List.nodup_nil

/-- Every stored configuration is well attached. -/
def Attached (d : Device π) : Prop :=
  ∀ (value : UInt8) (config : UsbConfiguration), d.configurations[value]? = some config →
    WellAttached (d.experts.map Expert.identity) value config

variable [Libplist π]

theorem identities_modify (experts : List (Expert π)) (i : Nat) (x : Delivery) :
    (experts.modify i (·.receive x)).map Expert.identity = experts.map Expert.identity := by
  apply List.ext_getElem?
  intro j
  rw [List.getElem?_map, List.getElem?_map, List.getElem?_modify]
  cases experts[j]? with
  | none => rfl
  | some e =>
    by_cases hij : i = j
    · simp [hij, Expert.identity_receive]
    · simp [hij]

/-- A configuration that is stored stays. -/
theorem configurations_process {d : Device π} {value : UInt8} {config : UsbConfiguration}
    (h : d.configurations[value]? = some config) (p : DevicePacket) :
    (d.process p).configurations[value]? = some config := by
  cases d.process_effect p with
  | delivered i x hroute hexperts hsame => rw [hsame.configurations, h]
  | kept hroute hexperts hconfigurations => rw [hconfigurations, h]
  | stored hroute data hstores =>
    rw [hstores.configurations, Maps.getElem?_insert_ne, h]
    intro hvalue
    apply hstores.isNew
    rw [← hvalue, Std.ExtTreeMap.mem_iff_isSome_getElem?, h]
    rfl

/-- **Step lemma.** -/
theorem Attached.process {d : Device π} (h : d.Attached) (p : DevicePacket) :
    (d.process p).Attached := by
  intro value config hconfig
  cases d.process_effect p with
  | delivered i x hroute hexperts hsame =>
    rw [hsame.configurations] at hconfig
    rw [hexperts, identities_modify]
    exact h value config hconfig
  | kept hroute hexperts hconfigurations =>
    rw [hconfigurations] at hconfig
    rw [hexperts]
    exact h value config hconfig
  | stored hroute data hstores =>
    rw [hstores.configurations] at hconfig
    rw [hstores.experts]
    by_cases hvalue : value = (UsbConfiguration.parse {} data).1.descriptor.bConfigurationValue
    · subst hvalue
      rw [Std.ExtTreeMap.getElem?_insert_self] at hconfig
      obtain rfl := Option.some.inj hconfig
      exact d.wellAttached_attachExperts (UsbConfiguration.bare_parse data)
    · rw [Maps.getElem?_insert_ne hvalue] at hconfig
      exact (h value config hconfig).mono ((d.attachExperts_experts _).map Expert.identity)

/-- **Run lemma.** -/
theorem attached_run (id : UInt64) (packets : List DevicePacket) :
    ((new id : Device π).run packets).Attached := by
  apply run_induction (fun d p h => h.process p)
  intro value config hconfig
  rw [new, Std.ExtTreeMap.getElem?_empty] at hconfig
  cases hconfig

/-- What the alternate settings of an interface share. -/
structure SharedExperts (d : Device π) : Prop where
  same_interface : ∀ (value : UInt8) (config : UsbConfiguration),
    d.configurations[value]? = some config →
      ∀ i ∈ config.interfaces, ∀ j ∈ config.interfaces,
        i.interface.bInterfaceNumber = j.interface.bInterfaceNumber → i.expert = j.expert
  /-- The common expert is one of DFU or recovery. -/
  common_or_separate : ∀ (value : UInt8) (config : UsbConfiguration),
    d.configurations[value]? = some config →
      (∃ (n : Nat) (e : Expert π), d.experts[n]? = some e ∧ e.identity.kind ≠ .usbmux ∧
        ∀ i ∈ config.interfaces, i.expert = some n) ∨
      ∀ i ∈ config.interfaces, ∀ j ∈ config.interfaces, ∀ n,
        i.interface.bInterfaceNumber ≠ j.interface.bInterfaceNumber →
          i.expert = some n → j.expert ≠ some n
  different_configurations : ∀ (value other : UInt8) (config config' : UsbConfiguration),
    value ≠ other → d.configurations[value]? = some config → d.configurations[other]? = some config' →
      ∀ i ∈ config.interfaces, ∀ j ∈ config'.interfaces, ∀ n,
        i.expert = some n → j.expert ≠ some n
  listed_once : d.getExperts.Nodup
  listed : ∀ n, n ∈ d.getExperts ↔ ∃ (value : UInt8) (config : UsbConfiguration),
    d.configurations[value]? = some config ∧ ∃ i ∈ config.interfaces, i.expert = some n

omit [Libplist π] in
theorem Attached.sharedExperts {d : Device π} (h : d.Attached) : d.SharedExperts where
  same_interface value config hconfig := (h value config hconfig).shared
  common_or_separate := by
    intro value config hconfig
    rcases (h value config hconfig).separate with ⟨n, x, hx, hkind, hall⟩ | hdistinct
    · rw [List.getElem?_map] at hx
      obtain ⟨e, he, rfl⟩ := Option.map_eq_some_iff.mp hx
      exact Or.inl ⟨n, e, he, hkind, hall⟩
    · refine Or.inr fun i hi j hj n hnumber hin hjn => hnumber ?_
      exact hdistinct i hi j hj n hin hjn
  different_configurations := by
    intro value other config config' hne hconfig hconfig' i hi j hj n hin hjn
    obtain ⟨x, hx, hvalue⟩ := (h value config hconfig).made i hi n hin
    obtain ⟨y, hy, hother⟩ := (h other config' hconfig').made j hj n hjn
    have hxy : x = y := Option.some.inj (hx.symm.trans hy)
    exact hne (by rw [← hvalue, ← hother, hxy])
  listed_once := d.nodup_getExperts
  listed n := mem_getExperts

/-- At every point of every run the alternate settings of an interface share their expert,
and from then on a stored configuration and its experts stay: an expert changes only
through the transfers that are delivered to it. -/
theorem experts_shared_for_life (id : UInt64) (before after : List DevicePacket) :
    ((new id : Device π).run before).SharedExperts ∧
      ∀ (value : UInt8) (config : UsbConfiguration),
        ((new id : Device π).run before).configurations[value]? = some config →
          ((new id : Device π).run (before ++ after)).configurations[value]? = some config ∧
            ∀ i ∈ config.interfaces, ∀ n, i.expert = some n →
              ∃ e, ((new id : Device π).run before).experts[n]? = some e ∧
                ((new id : Device π).run (before ++ after)).experts[n]? =
                  some ((((new id : Device π).run before).deliveredTo n after).foldl
                    Expert.receive e) := by
  have hattached : ((new id : Device π).run before).Attached := attached_run id before
  refine ⟨hattached.sharedExperts, ?_⟩
  intro value config hconfig
  rw [run_append]
  constructor
  · apply run_induction (motive := fun d => d.configurations[value]? = some config)
      (fun d p h => configurations_process h p) hconfig
  · intro i hi n hn
    obtain ⟨x, hx, _⟩ := (hattached value config hconfig).made i hi n hn
    rw [List.getElem?_map] at hx
    obtain ⟨e, he, rfl⟩ := Option.map_eq_some_iff.mp hx
    exact ⟨e, he, experts_run _ after e he⟩

end Device

end DemuxUsb
