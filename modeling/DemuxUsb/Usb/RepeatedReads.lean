import DemuxUsb.Library.Maps
import DemuxUsb.Usb.Answers

/-!
# Descriptors that are read again

A device that has stored an answer has it until another answer takes its place (`Holds`,
`holds_run`), and what is there is not changed when it is stored again. Only a BOS descriptor
is put behind the ones before.

* `reread_unchanged_iff`: what reading a descriptor again leaves as it was.
-/

namespace DemuxUsb

open Endian
open UsbConfiguration (ofSet valueOf IsSet)

namespace Answer

/-- A complete device, configuration, string or BOS descriptor, of the type that was asked
for. -/
def WellFormed (a : Answer) : Prop :=
  a.device.isSome = true ∨ (∃ set ∈ a.set, IsSet set) ∨
    (a.IsOf usbDtString ∧ 2 ≤ u8 a.data 0 ∧ (u8 a.data 0).toNat ≤ a.data.length) ∨
    a.bos.isSome = true

/-- The same bytes; of a string, also for the same index. -/
structure Repeats (b a : Answer) : Prop where
  type : b.type = a.type
  data : b.data = a.data
  index : a.type = usbDtString → b.index = a.index

/-- Another answer takes the place of this one. A configuration keeps its place. -/
structure Supersedes (c a : Answer) : Prop where
  wellFormed : c.WellFormed
  data : c.data ≠ a.data
  place : a.IsOf usbDtDevice ∧ c.IsOf usbDtDevice ∨
    a.IsOf usbDtString ∧ c.IsOf usbDtString ∧ c.index = a.index

variable {a b : Answer}

theorem isOf_of_device {descriptor : UsbDeviceDescriptor} (h : a.device = some descriptor) :
    a.IsOf usbDtDevice := by
  by_contra hnot
  rw [Device.device_eq_none hnot] at h
  cases h

theorem isOf_of_set {set : Bytes} (h : a.set = some set) : a.IsOf usbDtConfig := by
  by_contra hnot
  rw [Device.set_eq_none hnot] at h
  cases h

theorem isOf_of_string {s : UInt8 × Bytes} (h : a.string = some s) :
    a.IsOf usbDtString ∧ s.1 = a.index := by
  unfold string at h
  split at h
  · next hof =>
    obtain rfl := Option.some.inj h
    exact ⟨hof.1, rfl⟩
  · cases h

theorem isOf_of_bos {descriptor : BosDescriptor} (h : a.bos = some descriptor) :
    a.IsOf usbDtBos := by
  by_contra hnot
  rw [Device.bos_eq_none hnot] at h
  cases h

theorem Repeats.isOf_iff (h : Repeats b a) (type : UInt8) : b.IsOf type ↔ a.IsOf type := by
  unfold IsOf
  rw [h.type, h.data]

/-- A descriptor that repeats another one says the same. -/
theorem Repeats.eq (h : Repeats b a) :
    b.device = a.device ∧ b.set = a.set ∧ b.string = a.string := by
  refine ⟨?_, ?_, ?_⟩
  · unfold device
    rw [h.data, if_congr (h.isOf_iff _) rfl rfl]
  · unfold set
    rw [h.data, if_congr (h.isOf_iff _) rfl rfl]
  · by_cases hstring : a.IsOf usbDtString
    · unfold string
      rw [h.data, h.index hstring.1, if_congr (and_congr_left' (h.isOf_iff _)) rfl rfl]
    · rw [Device.string_eq_none hstring, Device.string_eq_none (mt (h.isOf_iff _).mp hstring)]

/-- A well formed answer is of one of the four types, and complete. -/
theorem WellFormed.cases (h : a.WellFormed) :
    a.IsOf usbDtDevice ∨ (a.IsOf usbDtConfig ∧ ∃ set ∈ a.set, IsSet set) ∨
      a.IsOf usbDtString ∨ (a.IsOf usbDtBos ∧ a.bos.isSome = true) := by
  rcases h with hdevice | ⟨set, hset, hwell⟩ | ⟨hstring, -⟩ | hbos
  · obtain ⟨descriptor, hdescriptor⟩ := Option.isSome_iff_exists.mp hdevice
    exact Or.inl (isOf_of_device hdescriptor)
  · exact Or.inr (Or.inl ⟨isOf_of_set hset, set, hset, hwell⟩)
  · exact Or.inr (Or.inr (Or.inl hstring))
  · obtain ⟨descriptor, hdescriptor⟩ := Option.isSome_iff_exists.mp hbos
    exact Or.inr (Or.inr (Or.inr ⟨isOf_of_bos hdescriptor, hbos⟩))

theorem IsOf.self {type : UInt8} (h : a.IsOf type) : a.IsOf a.type := h.1.symm ▸ h

theorem WellFormed.isOf (h : a.WellFormed) : a.IsOf a.type := by
  rcases h.cases with hdevice | ⟨hconfig, -⟩ | hstring | ⟨hbos, -⟩
  · exact hdevice.self
  · exact hconfig.self
  · exact hstring.self
  · exact hbos.self

theorem WellFormed.isSet (h : a.WellFormed) : ∀ set ∈ a.set, IsSet set := by
  intro set hset
  have hof : a.IsOf usbDtConfig := isOf_of_set hset
  rcases h.cases with hdevice | ⟨-, set', hset', hwell⟩ | hstring | ⟨hbos, -⟩
  · exact absurd hof (Device.not_isOf hdevice (by decide))
  · obtain rfl := Option.some.inj (hset.symm.trans hset')
    exact hwell
  · exact absurd hof (Device.not_isOf hstring (by decide))
  · exact absurd hof (Device.not_isOf hbos (by decide))

theorem WellFormed.bos_eq_none_iff (h : a.WellFormed) : a.bos = none ↔ a.type ≠ usbDtBos := by
  constructor
  · intro hnone htype
    have hof : a.IsOf usbDtBos := htype ▸ h.isOf
    rcases h.cases with hdevice | ⟨hconfig, -⟩ | hstring | ⟨-, hbos⟩
    · exact absurd hof (Device.not_isOf hdevice (by decide))
    · exact absurd hof (Device.not_isOf hconfig (by decide))
    · exact absurd hof (Device.not_isOf hstring (by decide))
    · rw [hnone] at hbos
      cases hbos
  · intro htype
    exact Device.bos_eq_none (fun hof => htype hof.1)

theorem wellFormed_of_device {descriptor : UsbDeviceDescriptor} (h : a.device = some descriptor) :
    a.WellFormed := Or.inl (by rw [h]; rfl)

theorem wellFormed_of_string {s : UInt8 × Bytes} (h : a.string = some s) : a.WellFormed := by
  unfold string at h
  split at h
  · next hof =>
    obtain ⟨hstring, -, hpartial⟩ := hof
    rw [not_or, UInt8.not_lt, Nat.not_lt] at hpartial
    exact Or.inr (Or.inr (Or.inl ⟨hstring, hpartial⟩))
  · cases h

/-- A device descriptor that does not take the place of another one is the same. -/
theorem device_eq_of_not_supersedes {c : Answer} {descriptor other : UsbDeviceDescriptor}
    (ha : a.device = some descriptor) (hc : c.device = some other) (h : ¬ Supersedes c a) :
    other = descriptor := by
  have hofa := isOf_of_device ha
  have hofc := isOf_of_device hc
  have hdata : c.data = a.data := by
    by_contra hne
    exact h ⟨wellFormed_of_device hc, hne, Or.inl ⟨hofa, hofc⟩⟩
  have hrepeats : Repeats c a := by
    refine ⟨hofc.1.trans hofa.1.symm, hdata, fun htype => ?_⟩
    exact absurd (hofa.1.symm.trans htype) (by decide)
  exact Option.some.inj (hc.symm.trans (hrepeats.eq.1.trans ha))

/-- So is a string of the same index. -/
theorem string_eq_of_not_supersedes {c : Answer} {s other : UInt8 × Bytes}
    (ha : a.string = some s) (hc : c.string = some other) (hindex : s.1 = other.1)
    (h : ¬ Supersedes c a) : other = s := by
  obtain ⟨hofa, hindexa⟩ := isOf_of_string ha
  obtain ⟨hofc, hindexc⟩ := isOf_of_string hc
  have hsame : c.index = a.index := by rw [← hindexc, ← hindex, hindexa]
  have hdata : c.data = a.data := by
    by_contra hne
    exact h ⟨wellFormed_of_string hc, hne, Or.inr ⟨hofa, hofc, hsame⟩⟩
  have hrepeats : Repeats c a := ⟨hofc.1.trans hofa.1.symm, hdata, fun _ => hsame⟩
  exact Option.some.inj (hc.symm.trans (hrepeats.eq.2.2.trans ha))

end Answer

namespace Device

open Answer

variable {π : Type}

/-! ## What is held -/

/-- The device has what the answer says. -/
structure Holds (a : Answer) (d : Device π) : Prop where
  device : ∀ descriptor ∈ a.device,
    d.hasDeviceDescriptor = true ∧ d.deviceDescriptor = descriptor
  set : ∀ set ∈ a.set, valueOf set ∈ d.configurations
  string : ∀ s ∈ a.string, d.strings[s.1]? = some s.2

theorem mem_storeSet (d : Device π) (set : Bytes) :
    valueOf set ∈ (d.storeSet set).configurations ∧
      ∀ value ∈ d.configurations, value ∈ (d.storeSet set).configurations := by
  unfold storeSet
  split
  · next hstored => exact ⟨hstored, fun _ h => h⟩
  · exact ⟨Std.ExtTreeMap.mem_insert_self, fun _ h => Std.ExtTreeMap.mem_insert.mpr (Or.inr h)⟩

theorem Answers.holds {d d' : Device π} {a : Answer} (h : Answers d a d') : Holds a d' := by
  have hdevice := h.device
  have hconfigurations := h.configurations
  have hstrings := h.strings
  refine ⟨?_, ?_, ?_⟩
  · intro descriptor hdescriptor
    rw [Option.mem_def.mp hdescriptor] at hdevice
    exact Prod.mk.inj hdevice
  · intro set hset
    rw [Option.mem_def.mp hset] at hconfigurations
    rw [(Prod.mk.inj hconfigurations).2]
    exact (mem_storeSet d set).1
  · intro s hs
    rw [Option.mem_def.mp hs] at hstrings
    rw [hstrings]
    exact Std.ExtTreeMap.getElem?_insert_self

/-- What is held stays, unless it is superseded. -/
theorem Holds.answers {d d' : Device π} {a c : Answer} (h : Holds a d) (hanswers : Answers d c d')
    (hkept : ¬ Supersedes c a) : Holds a d' := by
  have hdevice := hanswers.device
  have hconfigurations := hanswers.configurations
  have hstrings := hanswers.strings
  refine ⟨?_, ?_, ?_⟩
  · intro descriptor hdescriptor
    have hheld := h.device descriptor hdescriptor
    cases hc : c.device with
    | none =>
      rw [hc] at hdevice
      obtain ⟨hhas, hsame⟩ := Prod.mk.inj hdevice
      rw [hhas, hsame]
      exact hheld
    | some other =>
      rw [hc] at hdevice
      obtain ⟨hhas, hother⟩ := Prod.mk.inj hdevice
      exact ⟨hhas, hother.trans (device_eq_of_not_supersedes hdescriptor hc hkept)⟩
  · intro set hset
    have hheld := h.set set hset
    cases hc : c.set with
    | none =>
      rw [hc] at hconfigurations
      rw [(Prod.mk.inj hconfigurations).2]
      exact hheld
    | some other =>
      rw [hc] at hconfigurations
      rw [(Prod.mk.inj hconfigurations).2]
      exact (mem_storeSet d other).2 _ hheld
  · intro s hs
    have hheld := h.string s hs
    cases hc : c.string with
    | none =>
      rw [hc] at hstrings
      rw [hstrings]
      exact hheld
    | some other =>
      rw [hc] at hstrings
      rw [hstrings]
      by_cases hindex : s.1 = other.1
      · rw [string_eq_of_not_supersedes hs hc hindex hkept]
        exact Std.ExtTreeMap.getElem?_insert_self
      · rw [Maps.getElem?_insert_ne hindex]
        exact hheld

theorem Holds.of_sameReads {d d' : Device π} {a : Answer} (h : Holds a d) (hsame : SameReads d d') :
    Holds a d' := by
  refine ⟨?_, ?_, ?_⟩
  · rw [hsame.hasDeviceDescriptor, hsame.deviceDescriptor]
    exact h.device
  · rw [hsame.configurations]
    exact h.set
  · rw [hsame.strings]
    exact h.string

section Runs

variable [Libplist π]

/-- **Step lemma.** -/
theorem Holds.process {d : Device π} {a : Answer} (h : Holds a d) {r : DevicePacket}
    (hkept : ∀ c ∈ r.answer, ¬ Supersedes c a) : Holds a (d.process r) := by
  cases hr : r.answer with
  | none => exact h.of_sameReads (sameReads_process d hr)
  | some c =>
    have hcounted : Holds a (d.counted c.data) := ⟨h.device, h.set, h.string⟩
    rw [d.process_of_answer hr]
    exact hcounted.answers (answers_answered _ c) (hkept c hr)

/-- **Run lemma.** -/
theorem Holds.run {d : Device π} {a : Answer} (h : Holds a d) {packets : List DevicePacket}
    (hkept : ∀ r ∈ packets, ∀ c ∈ r.answer, ¬ Supersedes c a) : Holds a (d.run packets) := by
  induction packets generalizing d with
  | nil => exact h
  | cons r packets ih =>
    obtain ⟨hfirst, hrest⟩ := List.forall_mem_cons.mp hkept
    exact ih (h.process hfirst) hrest

/-! ## Reading again -/

/-- Everything that was read from the device, and the experts, are the same. -/
def Unchanged (d d' : Device π) : Prop := SameReads d d' ∧ d'.experts = d.experts

omit [Libplist π] in
/-- The counters are not looked at. -/
theorem unchanged_counted (d d' : Device π) (data : Bytes) :
    Unchanged (d.counted data) d' ↔ Unchanged d d' := by
  constructor
  · rintro ⟨⟨h₁, h₂, h₃, h₄, h₅, h₆⟩, h₇⟩
    exact ⟨⟨h₁, h₂, h₃, h₄, h₅, h₆⟩, h₇⟩
  · rintro ⟨⟨h₁, h₂, h₃, h₄, h₅, h₆⟩, h₇⟩
    exact ⟨⟨h₁, h₂, h₃, h₄, h₅, h₆⟩, h₇⟩

omit [Libplist π] in
/-- What is held is not changed when it is stored again, except for a BOS descriptor. -/
theorem Holds.unchanged_iff {d d' : Device π} {a : Answer} (h : Holds a d) (hwell : a.WellFormed)
    (hanswers : Answers d a d') : Unchanged d d' ↔ a.type ≠ usbDtBos := by
  have hdevice := hanswers.device
  have hconfigurations := hanswers.configurations
  have hstrings := hanswers.strings
  have hsamedevice : d'.hasDeviceDescriptor = d.hasDeviceDescriptor ∧
      d'.deviceDescriptor = d.deviceDescriptor := by
    cases ha : a.device with
    | none =>
      rw [ha] at hdevice
      exact Prod.mk.inj hdevice
    | some descriptor =>
      obtain ⟨hhas, hsame⟩ := h.device descriptor ha
      rw [ha, ← hhas, ← hsame] at hdevice
      exact Prod.mk.inj hdevice
  have hsameconfigurations : d'.experts = d.experts ∧ d'.configurations = d.configurations := by
    cases ha : a.set with
    | none =>
      rw [ha] at hconfigurations
      exact Prod.mk.inj hconfigurations
    | some set =>
      have hstore : d.storeSet set = d := if_pos (h.set set ha)
      rw [ha] at hconfigurations
      dsimp only at hconfigurations
      rw [hstore] at hconfigurations
      exact Prod.mk.inj hconfigurations
  have hsamestrings : d'.strings = d.strings := by
    cases ha : a.string with
    | none =>
      rw [ha] at hstrings
      exact hstrings
    | some s =>
      rw [ha] at hstrings
      rw [hstrings]
      exact Maps.insert_eq_self (h.string s ha)
  rw [← hwell.bos_eq_none_iff]
  constructor
  · rintro ⟨hsame, -⟩
    have hbos := hanswers.bosDescriptors.symm.trans hsame.bosDescriptors
    exact Option.toList_eq_nil_iff.mp (List.append_right_eq_self.mp hbos)
  · intro hbos
    have hsamebos := hanswers.bosDescriptors
    rw [hbos, Option.toList_none, List.append_nil] at hsamebos
    exact ⟨⟨hsamedevice.1, hsamedevice.2, hsameconfigurations.2, hsamestrings, hsamebos,
      hanswers.anomalies hwell.isOf hwell.isSet⟩, hsameconfigurations.1⟩

/-- **Reading again.** A complete descriptor that was read before, and that no other has taken
the place of, leaves everything as it was if and only if it is no BOS descriptor. -/
theorem reread_unchanged_iff (id : UInt64) (before after : List DevicePacket)
    {first again : DevicePacket} {b a : Answer} (hfirst : first.answer = some b)
    (hagain : again.answer = some a) (hwell : a.WellFormed) (hrepeats : Repeats b a)
    (hkept : ∀ r ∈ after, ∀ c ∈ r.answer, ¬ Supersedes c a) :
    Unchanged ((new id : Device π).run (before ++ first :: after))
        (((new id : Device π).run (before ++ first :: after)).process again) ↔
      a.type ≠ usbDtBos := by
  have hholds : Holds a ((new id : Device π).run (before ++ first :: after)) := by
    rw [run_append, run_cons]
    refine Holds.run ?_ hkept
    obtain ⟨hdevice, hset, hstring⟩ := hrepeats.eq
    have hstored := (answers_answered (((new id : Device π).run before).counted b.data) b).holds
    rw [process_of_answer _ hfirst]
    exact ⟨hdevice ▸ hstored.device, hset ▸ hstored.set, hstring ▸ hstored.string⟩
  rw [process_of_answer _ hagain, ← unchanged_counted _ _ a.data]
  refine Holds.unchanged_iff ?_ hwell (answers_answered _ a)
  exact ⟨hholds.device, hholds.set, hholds.string⟩

end Runs

/-! ## Two reads -/

/-- A device descriptor that is read twice is there once. -/
theorem reread_unchanged_device :
    Unchanged ((new 1 : Device Empty).run [.ofDescriptor usbDtDevice (List.replicate 18 1)])
      (((new 1 : Device Empty).run [.ofDescriptor usbDtDevice (List.replicate 18 1)]).process
        (.ofDescriptor usbDtDevice (List.replicate 18 1))) := by
  have hanswer : (DevicePacket.ofDescriptor usbDtDevice (List.replicate 18 1)).answer =
      some ⟨usbDtDevice.toUInt16 <<< 8, List.replicate 18 1⟩ := by decide
  have hwell : Answer.WellFormed ⟨usbDtDevice.toUInt16 <<< 8, List.replicate 18 1⟩ :=
    Or.inl (by decide)
  exact (reread_unchanged_iff 1 [] [] hanswer hanswer hwell ⟨rfl, rfl, fun _ => rfl⟩
    (List.forall_mem_nil _)).mpr (by decide)

/-- A BOS descriptor without capabilities. -/
def bosRead : DevicePacket :=
  .ofDescriptor usbDtBos (Layout.encode (⟨5, usbDtBos, 5, 0⟩ : UsbBosDescriptor))

/-- A BOS descriptor that is read twice is there twice. -/
theorem not_unchanged_bosRead :
    (∃ a, bosRead.answer = some a ∧ a.WellFormed) ∧
      ¬ Unchanged ((new 1 : Device Empty).run [bosRead])
        (((new 1 : Device Empty).run [bosRead]).process bosRead) := by
  refine ⟨⟨_, rfl, Or.inr (Or.inr (Or.inr (by decide)))⟩, ?_⟩
  rintro ⟨hsame, -⟩
  exact absurd (congrArg List.length hsame.bosDescriptors) (by decide +kernel)

end Device

end DemuxUsb
