import DemuxUsb.Usb.Answers
import DemuxUsb.Usb.ExpertAttachment

/-!
# Configurations that were read badly

A device keeps the first descriptor set of a configuration, well formed or not
(`declarations_run`). So what a configuration declares is what its first set does, and a good
set that is read later is lost.

* `goodReadsKept_iff`: the good sets of a configuration count exactly when its first set
  declares what one of them does.
-/

namespace DemuxUsb

open UsbConfiguration (ofSet valueOf IsSet)

/-- The interfaces and the endpoints of a configuration. -/
def UsbConfiguration.declarations (config : UsbConfiguration) :
    List (UsbInterfaceDescriptor × List UsbEndpointDescriptor) :=
  config.interfaces.map fun i => (i.interface, i.endpoints)

/-- The descriptor sets that were read, in order. -/
def sets (packets : List DevicePacket) : List Bytes :=
  packets.filterMap fun p => p.answer.bind Answer.set

/-- A well formed set of the configuration `value` was read. -/
def IsGoodRead (packets : List DevicePacket) (value : UInt8) (set : Bytes) : Prop :=
  set ∈ sets packets ∧ IsSet set ∧ valueOf set = value

namespace Device

variable {π : Type}

/-! ## The sets that are stored -/

theorem bare_ofSet (set : Bytes) : (ofSet set).Bare := by
  rw [← UsbConfiguration.parse_eq_ofSet]
  exact UsbConfiguration.bare_parse set

/-- Experts are no part of what a configuration declares. -/
theorem declarations_attachExperts (d : Device π) (set : Bytes) :
    (d.attachExperts (ofSet set)).2.declarations = (ofSet set).declarations := by
  obtain ⟨f, hf, -⟩ := d.attachExperts_spec (bare_ofSet set)
  rw [hf]
  unfold UsbConfiguration.declarations UsbConfiguration.assign
  rw [List.map_map]
  rfl

theorem declarations_storeSet (d : Device π) (set : Bytes) (value : UInt8) :
    ((d.storeSet set).configurations[value]?).map UsbConfiguration.declarations =
      ((d.configurations[value]?).map UsbConfiguration.declarations).or
        (if valueOf set = value then some (ofSet set).declarations else none) := by
  unfold storeSet
  by_cases hstored : valueOf set ∈ d.configurations
  · rw [if_pos hstored]
    by_cases hvalue : valueOf set = value
    · rw [hvalue, Std.ExtTreeMap.mem_iff_isSome_getElem?] at hstored
      obtain ⟨config, hconfig⟩ := Option.isSome_iff_exists.mp hstored
      rw [hconfig]
      rfl
    · rw [if_neg hvalue, Option.or_none]
  · rw [if_neg hstored]
    dsimp only
    by_cases hvalue : valueOf set = value
    · have hnone : d.configurations[valueOf set]? = none := by
        rw [Std.ExtTreeMap.mem_iff_isSome_getElem?] at hstored
        exact Option.not_isSome_iff_eq_none.mp hstored
      rw [← hvalue, hnone, Std.ExtTreeMap.getElem?_insert_self, if_pos rfl, Option.map_some,
        declarations_attachExperts]
      rfl
    · rw [Maps.getElem?_insert_ne (Ne.symm hvalue), if_neg hvalue, Option.or_none]

variable [Libplist π]

/-- **Step lemma.** -/
theorem declarations_process (d : Device π) (p : DevicePacket) (value : UInt8) :
    ((d.process p).configurations[value]?).map UsbConfiguration.declarations =
      ((d.configurations[value]?).map UsbConfiguration.declarations).or
        (((p.answer.bind Answer.set).filter (valueOf · = value)).map
          fun set => (ofSet set).declarations) := by
  cases hanswer : p.answer with
  | none =>
    rw [(sameReads_process d hanswer).configurations]
    exact (Option.or_none).symm
  | some a =>
    have hstored := (answers_answered (d.counted a.data) a).configurations
    have hcounted : (d.counted a.data).configurations = d.configurations := rfl
    rw [d.process_of_answer hanswer, Option.bind_some]
    cases hset : a.set with
    | none =>
      rw [hset] at hstored
      rw [(Prod.mk.inj hstored).2, hcounted]
      exact (Option.or_none).symm
    | some set =>
      rw [hset] at hstored
      rw [(Prod.mk.inj hstored).2, declarations_storeSet, hcounted]
      rw [Option.filter_some]
      congr 1
      by_cases hvalue : valueOf set = value
      · simp [hvalue]
      · simp [hvalue]

/-- **Run lemma.** What is stored of a configuration is its first set. -/
theorem declarations_run (id : UInt64) (packets : List DevicePacket) (value : UInt8) :
    ((((new id : Device π).run packets).configurations[value]?).map
        UsbConfiguration.declarations) =
      ((sets packets).find? (valueOf · = value)).map fun set => (ofSet set).declarations := by
  induction packets using List.reverseRecOn with
  | nil =>
    rw [run_nil, new, Std.ExtTreeMap.getElem?_empty]
    rfl
  | append_singleton packets p ih =>
    have hsets : sets (packets ++ [p]) = sets packets ++ (p.answer.bind Answer.set).toList := by
      unfold sets
      rw [List.filterMap_append, List.filterMap_cons]
      cases p.answer.bind Answer.set <;> rfl
    have hlast : (p.answer.bind Answer.set).toList.find? (valueOf · = value) =
        (p.answer.bind Answer.set).filter (valueOf · = value) := by
      cases p.answer.bind Answer.set with
      | none => rfl
      | some set =>
        rw [Option.toList_some, List.find?_cons, Option.filter_some]
        by_cases hvalue : valueOf set = value
        · simp [hvalue]
        · simp [hvalue]
    rw [run_concat, declarations_process, ih, hsets, List.find?_append, hlast]
    cases (sets packets).find? (valueOf · = value) <;> rfl

/-! ## Good sets -/

variable (π) in
/-- Once a good set of a configuration was read, the configuration is stored as one of its
good sets declares it. -/
def GoodReadsKept (id : UInt64) (packets : List DevicePacket) : Prop :=
  ∀ value, (∃ set, IsGoodRead packets value set) →
    ∃ config, ((new id : Device π).run packets).configurations[value]? = some config ∧
      ∃ set, IsGoodRead packets value set ∧ config.declarations = (ofSet set).declarations

/-- **Corrupt reads.** The good sets count if and only if the first set of the configuration,
well formed or not, declares what one of them does. -/
theorem goodReadsKept_iff (id : UInt64) (packets : List DevicePacket) :
    GoodReadsKept π id packets ↔ ∀ value, (∃ set, IsGoodRead packets value set) →
      ∀ first ∈ (sets packets).find? (valueOf · = value),
        ∃ set, IsGoodRead packets value set ∧
          (ofSet first).declarations = (ofSet set).declarations := by
  refine forall_congr' fun value => imp_congr_right fun hgood => ?_
  have hrun := declarations_run (π := π) id packets value
  obtain ⟨good, hread, -, hvalue⟩ := hgood
  obtain ⟨first, hfirst⟩ : ∃ first, (sets packets).find? (valueOf · = value) = some first := by
    rw [← Option.isSome_iff_exists, List.find?_isSome]
    exact ⟨good, hread, decide_eq_true hvalue⟩
  rw [hfirst] at hrun ⊢
  obtain ⟨config, hconfig, hdeclarations⟩ := Option.map_eq_some_iff.mp hrun
  constructor
  · rintro ⟨stored, hstored, set, hset, hsame⟩ _ ⟨⟩
    obtain rfl := Option.some.inj (hstored.symm.trans hconfig)
    exact ⟨set, hset, hdeclarations.symm.trans hsame⟩
  · intro h
    obtain ⟨set, hset, hsame⟩ := h first rfl
    exact ⟨config, hconfig, set, hset, hdeclarations.trans hsame⟩

/-- A configuration with the value 1 and `rest` behind its descriptor. -/
def setOf (rest : Bytes) : Bytes :=
  Layout.encode (⟨9, 2, UInt16.ofNat (9 + rest.length), 1, 1, 0, 0x80, 50⟩ : UsbConfigDescriptor) ++
    rest

/-- A set that breaks off in front of its interface. -/
def corruptSet : Bytes := setOf [0, 0]

/-- The set that it should have been. -/
def goodSet : Bytes := setOf (Layout.encode (⟨9, 4, 0, 0, 0, 0xFE, 1, 0, 0⟩ : UsbInterfaceDescriptor))

/-- The corrupt set hides the good one. -/
theorem not_goodReadsKept : ¬ GoodReadsKept Empty 1
    [.ofDescriptor usbDtConfig corruptSet, .ofDescriptor usbDtConfig goodSet] := by
  have hsets : sets [.ofDescriptor usbDtConfig corruptSet, .ofDescriptor usbDtConfig goodSet] =
      [corruptSet, goodSet] := by decide +kernel
  have hgood : IsSet goodSet := by
    rw [UsbConfiguration.isSet_iff]
    decide +kernel
  have hcorrupt : ¬ IsSet corruptSet := by
    rw [UsbConfiguration.isSet_iff]
    decide +kernel
  have hvalue : valueOf goodSet = 1 := by decide +kernel
  have hfirst : ([corruptSet, goodSet].find? (valueOf · = 1)).map
      (fun set => (ofSet set).declarations) = some [] := by decide +kernel
  have hdeclares : (ofSet goodSet).declarations ≠ [] := by decide +kernel
  intro h
  have hrun := declarations_run (π := Empty) 1
    [.ofDescriptor usbDtConfig corruptSet, .ofDescriptor usbDtConfig goodSet] 1
  unfold GoodReadsKept IsGoodRead at h
  rw [hsets] at h hrun
  obtain ⟨config, hconfig, set, ⟨hmem, hset, -⟩, hsame⟩ :=
    h 1 ⟨goodSet, List.mem_cons_of_mem _ List.mem_cons_self, hgood, hvalue⟩
  rw [hconfig, hfirst] at hrun
  have hnone : config.declarations = [] := Option.some.inj hrun
  rcases List.mem_pair.mp hmem with rfl | rfl
  · exact hcorrupt hset
  · exact hdeclares (hsame.symm.trans hnone)

end Device

end DemuxUsb
