import DemuxUsb.Usb.Answers
import DemuxUsb.Usb.SharedExperts

/-!
# The transfer sizes of DFU interfaces

A functional descriptor says how much a DFU interface takes at once, and a download of more
is reported. A configuration has one such size for all its interfaces, that of the last
functional descriptor in the set (`interpret_transferSize`), so an interface is checked
against its own size exactly when that is the last one (`transferSize_own_iff`).
-/

namespace DemuxUsb

open Endian UsbConfiguration Places

/-! ## Reports -/

namespace DFUInterfaceExpert

def lengthText (request : UInt8) (carried : Nat) (length : UInt16) : String :=
  s!"{requestName request} carried {carried} bytes but wLength was {length.toNat}"

def exceedsText (length size : UInt16) : String :=
  s!"DNLOAD of {length.toNat} bytes exceeds wTransferSize {size.toNat}"

theorem lengthText_ne_exceedsText (carried : Nat) (length length' size : UInt16) :
    lengthText dfuDnload carried length ≠ exceedsText length' size := by
  have hcarried : lengthText dfuDnload carried length = "DNLOAD" ++ " carried " ++ carried.repr ++
      " bytes but wLength was " ++ length.toNat.repr := rfl
  have hexceeds : exceedsText length' size = "DNLOAD of " ++ length'.toNat.repr ++
      " bytes exceeds wTransferSize " ++ size.toNat.repr := rfl
  intro heq
  -- the texts differ behind `DNLOAD`
  have hchars := congrArg (fun s => s.toList[7]?) heq
  simp [hcarried, hexceeds, String.toList_append] at hchars

/-- What a download adds to the reports. -/
theorem anomalies_processControlOut (e : DFUInterfaceExpert) {setup : UsbSetup} (data : Bytes)
    (hclass : setup.bmRequestType &&& usbTypeMask = usbTypeClass)
    (hdnload : setup.bRequest = dfuDnload) :
    (e.processControlOut setup data).anomalies = e.anomalies ++
      ((if data.length ≠ setup.wLength.toNat then
          [lengthText dfuDnload data.length setup.wLength] else []) ++
        if e.transferSize ≠ 0 ∧ e.transferSize < setup.wLength then
          [exceedsText setup.wLength e.transferSize] else []) := by
  have hzero : setup.wLength = 0 → ¬(e.transferSize ≠ 0 ∧ e.transferSize < setup.wLength) := by
    intro hlength hexceeds
    rw [hlength] at hexceeds
    exact absurd hexceeds.2 (UInt16.not_lt.mpr UInt16.zero_le)
  -- the rest of the function, on the expert that counted the request
  have hrest : ∀ e' : DFUInterfaceExpert, e'.transferSize = e.transferSize →
      (if setup.wLength = 0 then if e'.currentImage ≠ [] then e'.pushImage else e'
        else
          let e' := if e'.transferSize ≠ 0 ∧ e'.transferSize < setup.wLength then
            e'.anomaly (exceedsText setup.wLength e'.transferSize) else e'
          { e' with currentImage := e'.currentImage ++ data }).anomalies =
        e'.anomalies ++ if e.transferSize ≠ 0 ∧ e.transferSize < setup.wLength then
          [exceedsText setup.wLength e.transferSize] else [] := by
    intro e' hsize
    rw [hsize]
    by_cases hend : setup.wLength = 0
    · rw [if_pos hend, if_neg (hzero hend), List.append_nil]
      split <;> rfl
    · rw [if_neg hend]
      split
      · rfl
      · exact (List.append_nil _).symm
  unfold processControlOut
  dsimp only
  rw [if_neg (not_not.mpr hclass), if_pos hdnload, hdnload]
  by_cases hlength : data.length ≠ setup.wLength.toNat
  · rw [if_pos hlength, if_pos hlength, ← List.append_assoc]
    exact hrest _ rfl
  · rw [if_neg hlength, if_neg hlength, List.nil_append]
    exact hrest _ rfl

/-- A download is reported to exceed wTransferSize. -/
def Exceeded (e : DFUInterfaceExpert) (setup : UsbSetup) (data : Bytes) : Prop :=
  ∃ reported, (e.processControlOut setup data).anomalies = e.anomalies ++ reported ∧
    ∃ size, exceedsText setup.wLength size ∈ reported

theorem exceeded_iff (e : DFUInterfaceExpert) {setup : UsbSetup} (data : Bytes)
    (hclass : setup.bmRequestType &&& usbTypeMask = usbTypeClass)
    (hdnload : setup.bRequest = dfuDnload) :
    e.Exceeded setup data ↔ e.transferSize ≠ 0 ∧ e.transferSize < setup.wLength := by
  have hanomalies := e.anomalies_processControlOut data hclass hdnload
  constructor
  · rintro ⟨reported, hreported, size, hsize⟩
    obtain rfl := List.append_cancel_left (hreported.symm.trans hanomalies)
    by_contra hexceeds
    rw [if_neg hexceeds, List.append_nil] at hsize
    split at hsize
    · exact lengthText_ne_exceedsText _ _ _ _ (List.mem_singleton.mp hsize).symm
    · exact absurd hsize List.not_mem_nil
  · intro hexceeds
    refine ⟨_, hanomalies, e.transferSize, List.mem_append_right _ ?_⟩
    rw [if_pos hexceeds]
    exact List.mem_cons_self

/-- The downloads of more than `size` bytes are reported, and no others; no download exceeds
a size of zero. -/
def ReportsOver (e : DFUInterfaceExpert) (size : UInt16) : Prop :=
  ∀ (setup : UsbSetup) (data : Bytes), setup.bmRequestType &&& usbTypeMask = usbTypeClass →
    setup.bRequest = dfuDnload → (e.Exceeded setup data ↔ size ≠ 0 ∧ size < setup.wLength)

end DFUInterfaceExpert

/-- Two sizes that the same downloads exceed: no wLength is above 65535. -/
def SameLimit (size size' : UInt16) : Prop :=
  size = size' ∨ (size = 0 ∨ size = 0xFFFF) ∧ (size' = 0 ∨ size' = 0xFFFF)

theorem sameLimit_iff (size size' : UInt16) :
    (∀ length : UInt16, size ≠ 0 ∧ size < length ↔ size' ≠ 0 ∧ size' < length) ↔
      SameLimit size size' := by
  have hzero : ∀ x : UInt16, x = 0 ↔ x.toNat = 0 := fun x => UInt16.toNat_inj.symm
  have hmax : ∀ x : UInt16, x = 0xFFFF ↔ x.toNat = 65535 := fun x => UInt16.toNat_inj.symm
  have hbound := size.toNat_lt
  have hbound' := size'.toNat_lt
  rw [SameLimit, ← UInt16.toNat_inj, hzero, hzero, hmax, hmax]
  constructor
  · intro hall
    have hnat : ∀ n < 65536,
        (size.toNat ≠ 0 ∧ size.toNat < n ↔ size'.toNat ≠ 0 ∧ size'.toNat < n) := by
      intro n hn
      have hlength := hall (UInt16.ofNat n)
      rw [UInt16.lt_iff_toNat_lt, UInt16.lt_iff_toNat_lt, UInt16.toNat_ofNat', Nat.mod_eq_of_lt hn] at hlength
      rwa [ne_eq, ne_eq, hzero, hzero] at hlength
    -- the largest wLength, and those just above either size
    have hlast := hnat 65535 (by omega)
    by_cases hsize : size.toNat < 65535
    · have hover := hnat (size.toNat + 1) (by omega)
      by_cases hsize' : size'.toNat < 65535
      · have hover' := hnat (size'.toNat + 1) (by omega)
        omega
      · omega
    · omega
  · intro hsame length
    have hlength := length.toNat_lt
    rw [UInt16.lt_iff_toNat_lt, UInt16.lt_iff_toNat_lt, ne_eq, ne_eq, hzero, hzero]
    omega

theorem DFUInterfaceExpert.reportsOver_iff (e : DFUInterfaceExpert) (size : UInt16) :
    e.ReportsOver size ↔ SameLimit size e.transferSize := by
  rw [← sameLimit_iff]
  constructor
  · intro hreports length
    have hclass : usbTypeClass &&& usbTypeMask = usbTypeClass := by decide
    rw [← hreports ⟨usbTypeClass, dfuDnload, 0, 0, length⟩ [] hclass rfl]
    exact e.exceeded_iff [] hclass rfl
  · intro hsame setup data hclass hdnload
    rw [e.exceeded_iff data hclass hdnload]
    exact (hsame setup.wLength).symm

/-! ## Functional descriptors -/

/-- The wTransferSize of a functional descriptor. -/
def transferSizeOf (d : Bytes) : UInt16 := le16 d 5

theorem wTransferSize_overlay (t : UsbDfuFunctionalDescriptor) {d : Bytes} (h : 7 ≤ d.length) :
    (overlay t d d.length).wTransferSize = transferSizeOf d := by
  have hsize : Layout.size UsbDfuFunctionalDescriptor = 7 := rfl
  have hrest : (Layout.encode t).drop 7 = [] :=
    List.drop_eq_nil_of_le (Layout.length_encode t).le
  unfold overlay
  dsimp only
  rw [hsize, Nat.min_eq_right h, hrest, List.append_nil]
  -- the field is inside the first seven bytes
  have hlength : 5 + 2 ≤ (d.take 7).length := by
    rw [List.length_take]
    omega
  have hfield := field_append_left hlength (d.drop 7)
  rw [List.take_append_drop] at hfield
  show le16 (d.take 7) 5 = le16 d 5
  unfold le16
  rw [hfield]

/-- The size that a configuration has for its interfaces: that of the last functional
descriptor. -/
def lastTransferSize (ds : List Bytes) : UInt16 :=
  ((functionals ds).getLast?.map transferSizeOf).getD 0

theorem wTransferSize_foldl {fs : List Bytes} (h : ∀ f ∈ fs, 7 ≤ f.length)
    (t : UsbDfuFunctionalDescriptor) :
    (fs.foldl (fun t d => overlay t d d.length) t).wTransferSize =
      (fs.getLast?.map transferSizeOf).getD t.wTransferSize := by
  induction fs using List.reverseRecOn with
  | nil => rfl
  | append_singleton fs f ih =>
    rw [List.foldl_concat, List.getLast?_concat,
      wTransferSize_overlay _ (h f (List.mem_append_right _ List.mem_cons_self))]
    rfl

/-- `d` is a functional descriptor of the interface `number`: that interface, in an alternate
setting of the DFU class, is the one before it. -/
def FunctionalOf (ds : List Bytes) (number : UInt8) (d : Bytes) : Prop :=
  ∃ p ∈ places ds, functionalAt p = some d ∧
    (nearest p.before).map UsbInterfaceDescriptor.bInterfaceNumber = some number

/-- Every DFU interface has its own functional descriptor, the same one under all its
alternate settings. -/
structure OwnFunctionals (ds : List Bytes) : Prop where
  complete : ∀ d ∈ functionals ds, 7 ≤ d.length
  declared : ∀ d ∈ ds, isInterface d = true → isDfu (interfaceOf d) = true →
    ∃ f, FunctionalOf ds (interfaceOf d).bInterfaceNumber f
  same : ∀ number f f', FunctionalOf ds number f → FunctionalOf ds number f' → f = f'

theorem FunctionalOf.mem_functionals {ds : List Bytes} {number : UInt8} {d : Bytes}
    (h : FunctionalOf ds number d) : d ∈ functionals ds := by
  obtain ⟨p, hp, hd, -⟩ := h
  exact List.mem_filterMap.mpr ⟨p, hp, hd⟩

/-- The size that is handed to the experts. -/
theorem interpret_transferSize {ds : List Bytes} (hown : OwnFunctionals ds) {number : UInt8}
    {f : Bytes} (hf : FunctionalOf ds number f) :
    (if (interpret ds).hasDfuDescriptor then (interpret ds).dfuDescriptor.wTransferSize else 0) =
      lastTransferSize ds := by
  have hne : functionals ds ≠ [] := List.ne_nil_of_mem hf.mem_functionals
  have hhas : (interpret ds).hasDfuDescriptor = true := by
    unfold interpret
    dsimp only
    rw [List.isEmpty_eq_false_iff.mpr hne]
    rfl
  rw [if_pos hhas]
  exact wTransferSize_foldl hown.complete default

/-! ## The experts of a set -/

namespace Device

variable {π : Type}

/-- A DFU expert that is attached to the interface `number` of a stored configuration. -/
def DfuExpertOf (d : Device π) (value number : UInt8) (e : DFUInterfaceExpert) : Prop :=
  ∃ config, d.configurations[value]? = some config ∧ ∃ entry ∈ config.interfaces,
    entry.interface.bInterfaceNumber = number ∧
      ∃ i, entry.expert = some i ∧ d.experts[i]? = some (.dfu e)

/-- The transfer answers with a descriptor set that is not stored yet, and in which every
DFU interface has its own functional descriptor; the device is not an Apple device in DFU or
recovery mode. -/
structure ReadsSet (d : Device π) (p : DevicePacket) (set : Bytes) : Prop where
  answered : ∃ a, p.answer = some a ∧ a.set = some set
  isNew : valueOf set ∉ d.configurations
  notDFU : d.isAppleDFU = false
  notRecovery : d.isAppleRecovery = false
  ownFunctionals : OwnFunctionals (descriptors set)

variable {d : Device π}

/-- The interfaces of a configuration are those of its interface descriptors. -/
theorem mem_interfaces {ds : List Bytes} {x : UsbInterfaceDescriptor}
    (hx : x ∈ (interpret ds).interfaces.map UsbInterface.interface) :
    ∃ b ∈ ds, isInterface b = true ∧ interfaceOf b = x := by
  obtain ⟨entry, hentry, rfl⟩ := List.mem_map.mp hx
  obtain ⟨q, hq, hat⟩ := List.mem_filterMap.mp hentry
  unfold interfaceAt at hat
  split at hat
  · next hinterface =>
    obtain rfl := Option.some.inj hat
    refine ⟨q.item, ?_, hinterface, rfl⟩
    rw [mem_places.mp hq]
    exact List.mem_append_right _ List.mem_cons_self
  · cases hat

/-- An interface that calls for a DFU expert has a descriptor of the DFU class, and the
expert is given the size of the configuration. -/
theorem calledFor_dfu {config : UsbConfiguration} {number : UInt8}
    {descriptors : List UsbInterfaceDescriptor} {e : DFUInterfaceExpert}
    (h : d.calledFor config number descriptors = some (.dfu e)) :
    (∃ x ∈ descriptors, x.bInterfaceNumber = number ∧ isDfu x = true) ∧
      e.transferSize =
        if config.hasDfuDescriptor then config.dfuDescriptor.wTransferSize else 0 := by
  obtain ⟨x, hx, hcalls⟩ := List.exists_of_findSome?_eq_some h
  split at hcalls
  · next hnumber =>
    unfold interfaceExpert at hcalls
    split at hcalls
    · cases hcalls
    split at hcalls
    · next hclass =>
      obtain ⟨hbase, hsub⟩ := hclass
      refine ⟨⟨x, hx, hnumber, by simp [isDfu, hbase, hsub]⟩, ?_⟩
      obtain rfl : _ = e := Expert.dfu.inj (Option.some.inj hcalls)
      rfl
    · cases hcalls
  · cases hcalls

variable [Libplist π]

/-- A new set is stored with the experts that it calls for. -/
theorem ReadsSet.stored {p : DevicePacket} {set : Bytes} (h : d.ReadsSet p set) :
    (d.process p).experts = (d.attachExperts (ofSet set)).1 ∧
      (d.process p).configurations[valueOf set]? = some (d.attachExperts (ofSet set)).2 := by
  obtain ⟨a, hanswer, hset⟩ := h.answered
  have hanswers := (answers_answered (d.counted a.data) a).configurations
  have hstored : (d.counted a.data).storeSet set = { d.counted a.data with
      experts := (d.attachExperts (ofSet set)).1
      configurations := d.configurations.insert (valueOf set)
        (d.attachExperts (ofSet set)).2 } := if_neg h.isNew
  rw [hset] at hanswers
  dsimp only at hanswers
  rw [hstored, ← process_of_answer d hanswer] at hanswers
  obtain ⟨hexperts, hconfigurations⟩ := Prod.mk.inj hanswers
  refine ⟨hexperts, ?_⟩
  rw [hconfigurations]
  exact Std.ExtTreeMap.getElem?_insert_self

theorem identity_foldl_receive (e : Expert π) (xs : List Delivery) :
    (xs.foldl Expert.receive e).identity = e.identity := by
  induction xs generalizing e with
  | nil => rfl
  | cons x xs ih => rw [List.foldl_cons, ih, Expert.identity_receive]

/-- In every later state, the DFU expert of an interface checks against the size of the
configuration; and the interface has a functional descriptor. -/
theorem ReadsSet.transferSize {p : DevicePacket} {set : Bytes} (h : d.ReadsSet p set)
    (after : List DevicePacket) {number : UInt8} {e : DFUInterfaceExpert}
    (he : ((d.process p).run after).DfuExpertOf (valueOf set) number e) :
    (∃ f, FunctionalOf (descriptors set) number f) ∧
      e.transferSize = lastTransferSize (descriptors set) := by
  obtain ⟨hexperts, hstored⟩ := h.stored
  obtain ⟨config, hconfig, entry, hentry, hnumber, i, hi, hget⟩ := he
  -- the configuration is still the one that was stored
  have hkept : ((d.process p).run after).configurations[valueOf set]? =
      some (d.attachExperts (ofSet set)).2 :=
    run_induction (motive := fun d => d.configurations[valueOf set]? = _)
      (fun d p h => configurations_process h p) hstored after
  obtain rfl := Option.some.inj (hconfig.symm.trans hkept)
  have hbare : (ofSet set).Bare := by
    rw [← parse_eq_ofSet]
    exact bare_parse set
  obtain ⟨f, hf, hcalled, -⟩ := d.attachExperts_spec hbare
  rw [hf] at hentry
  obtain ⟨entry', -, rfl⟩ := List.mem_map.mp hentry
  dsimp only at hnumber hi
  rw [hnumber] at hi
  -- the expert as it was made
  have hmade := hcalled number
  rw [hi, Option.map_some] at hmade
  obtain ⟨e₀, he₀, hget₀⟩ := Option.map_eq_some_iff.mp hmade.symm
  have hrun := experts_run (d.process p) after e₀ (hexperts ▸ hget₀.symm)
  have hidentity := identity_foldl_receive e₀ ((d.process p).deliveredTo i after)
  rw [Option.some.inj (hrun.symm.trans hget)] at hidentity
  have hdevice : d.deviceExpert (ofSet set) = none := by
    rw [deviceExpert, h.notDFU, h.notRecovery]
    rfl
  rw [expertFor, hdevice] at he₀
  dsimp only at he₀
  have hkind := congrArg ExpertIdentity.kind hidentity
  cases e₀ with
  | usbmux e₀ => cases hkind
  | recovery e₀ => cases hkind
  | dfu e₀ =>
    obtain ⟨⟨x, hx, hxnumber, hdfu⟩, hsize⟩ := calledFor_dfu he₀
    obtain ⟨b, hb, hinterface, rfl⟩ := mem_interfaces hx
    obtain ⟨f, hf⟩ := h.ownFunctionals.declared b hb hinterface hdfu
    rw [hxnumber] at hf
    refine ⟨⟨f, hf⟩, ?_⟩
    have hsame : e.transferSize = e₀.transferSize := ExpertKind.dfu.inj hkind
    rw [hsame, hsize]
    exact interpret_transferSize h.ownFunctionals hf

/-- **Transfer sizes.** The DFU expert of an interface reports the downloads that exceed the
size in the functional descriptor of the interface, and no others, if and only if the last
functional descriptor of the set has the same size, or no download exceeds either. -/
theorem transferSize_own_iff {p : DevicePacket} {set : Bytes} (hreads : d.ReadsSet p set)
    (after : List DevicePacket) {number : UInt8} {e : DFUInterfaceExpert}
    (he : ((d.process p).run after).DfuExpertOf (valueOf set) number e) :
    ∃ f, FunctionalOf (descriptors set) number f ∧
      (∀ f', FunctionalOf (descriptors set) number f' → f' = f) ∧
      (e.ReportsOver (transferSizeOf f) ↔
        SameLimit (transferSizeOf f) (lastTransferSize (descriptors set))) := by
  obtain ⟨⟨f, hf⟩, hsize⟩ := hreads.transferSize after he
  refine ⟨f, hf, fun f' hf' => hreads.ownFunctionals.same number f' f hf' hf, ?_⟩
  rw [e.reportsOver_iff, hsize]

/-! ## Two sizes -/

/-- A configuration with two DFU interfaces, for 2048 and for 64 bytes at once. -/
def twoSizesSet : Bytes :=
  Layout.encode (⟨9, 2, 45, 2, 1, 0, 0x80, 50⟩ : UsbConfigDescriptor) ++
    Layout.encode (⟨9, 4, 0, 0, 0, 0xFE, 1, 1, 0⟩ : UsbInterfaceDescriptor) ++
    [9, 0x21, 0x0D, 0, 0, 0, 8, 0x10, 1] ++
    Layout.encode (⟨9, 4, 1, 0, 0, 0xFE, 1, 1, 0⟩ : UsbInterfaceDescriptor) ++
    [9, 0x21, 0x0D, 0, 0, 64, 0, 0x10, 1]

def twoSizesRead : DevicePacket := .ofDescriptor 2 twoSizesSet

theorem readsSet_twoSizes : (new 1 : Device Empty).ReadsSet twoSizesRead twoSizesSet where
  answered := ⟨⟨0x200, twoSizesSet⟩, by decide +kernel, by decide +kernel⟩
  isNew := Std.ExtTreeMap.not_mem_empty
  notDFU := by decide
  notRecovery := by decide
  ownFunctionals := by
    have hsame : ∀ p ∈ places (descriptors twoSizesSet), ∀ p' ∈ places (descriptors twoSizesSet),
        (functionalAt p).isSome = true → (functionalAt p').isSome = true →
          (nearest p.before).map UsbInterfaceDescriptor.bInterfaceNumber =
            (nearest p'.before).map UsbInterfaceDescriptor.bInterfaceNumber →
          functionalAt p = functionalAt p' := by decide +kernel
    have hdeclared : ∀ d ∈ descriptors twoSizesSet, isInterface d = true →
        isDfu (interfaceOf d) = true → ∃ p ∈ places (descriptors twoSizesSet),
          (functionalAt p).isSome = true ∧
            (nearest p.before).map UsbInterfaceDescriptor.bInterfaceNumber =
              some (interfaceOf d).bInterfaceNumber := by decide +kernel
    refine ⟨by decide +kernel, ?_, ?_⟩
    · intro d hd hinterface hdfu
      obtain ⟨p, hp, hsome, hnumber⟩ := hdeclared d hd hinterface hdfu
      obtain ⟨f, hf⟩ := Option.isSome_iff_exists.mp hsome
      exact ⟨f, p, hp, hf, hnumber⟩
    · rintro number f f' ⟨p, hp, hf, hnumber⟩ ⟨p', hp', hf', hnumber'⟩
      have heq := hsame p hp p' hp' (Option.isSome_iff_exists.mpr ⟨f, hf⟩)
        (Option.isSome_iff_exists.mpr ⟨f', hf'⟩) (hnumber.trans hnumber'.symm)
      exact Option.some.inj (hf.symm.trans (heq.trans hf'))

/-- Both interfaces have an expert, and both experts the second size. -/
theorem dfuExpertOf_twoSizes (number : UInt8) (hnumber : number = 0 ∨ number = 1) :
    ∃ e, (((new 1 : Device Empty).process twoSizesRead).run []).DfuExpertOf 1 number e ∧
      e.transferSize = 64 := by
  have hidentity : ∀ number : UInt8, number = 0 ∨ number = 1 →
      (((new 1 : Device Empty).process twoSizesRead).configurations[(1 : UInt8)]?).any fun config =>
        config.interfaces.any fun entry => entry.interface.bInterfaceNumber = number ∧
          (entry.expert.bind fun i =>
            ((new 1 : Device Empty).process twoSizesRead).experts[i]?.map
              fun e => e.identity.kind) = some (.dfu 64) := by
    rintro number (rfl | rfl) <;> decide +kernel
  obtain ⟨config, hconfig, hany⟩ := (Option.any_eq_true _ _).mp (hidentity number hnumber)
  obtain ⟨entry, hentry, hdecide⟩ := List.any_eq_true.mp hany
  obtain ⟨hentrynumber, hbind⟩ := of_decide_eq_true hdecide
  obtain ⟨i, hi, hmap⟩ := Option.bind_eq_some_iff.mp hbind
  obtain ⟨e, he, hkind⟩ := Option.map_eq_some_iff.mp hmap
  cases e with
  | usbmux e => cases hkind
  | recovery e => cases hkind
  | dfu e =>
    exact ⟨e, ⟨config, hconfig, entry, hentry, hentrynumber, i, hi, he⟩,
      ExpertKind.dfu.inj hkind⟩

theorem valueOf_twoSizes : valueOf twoSizesSet = 1 := by decide +kernel

theorem lastTransferSize_twoSizes : lastTransferSize (descriptors twoSizesSet) = 64 := by
  decide +kernel

/-- The second interface is checked against its own size. -/
theorem transferSize_own_example :
    ∃ e, (((new 1 : Device Empty).process twoSizesRead).run []).DfuExpertOf 1 1 e ∧
      ∃ f, FunctionalOf (descriptors twoSizesSet) 1 f ∧ e.ReportsOver (transferSizeOf f) := by
  obtain ⟨e, he, -⟩ := dfuExpertOf_twoSizes 1 (Or.inr rfl)
  have he' : (((new 1 : Device Empty).process twoSizesRead).run []).DfuExpertOf
      (valueOf twoSizesSet) 1 e := by
    rw [valueOf_twoSizes]
    exact he
  obtain ⟨f, hf, hunique, hreports⟩ := transferSize_own_iff readsSet_twoSizes [] he'
  have hlast : FunctionalOf (descriptors twoSizesSet) 1 [9, 0x21, 0x0D, 0, 0, 64, 0, 0x10, 1] := by
    unfold FunctionalOf
    decide +kernel
  have hsize : transferSizeOf f = lastTransferSize (descriptors twoSizesSet) := by
    rw [← hunique _ hlast, lastTransferSize_twoSizes]
    decide
  exact ⟨e, he, f, hf, hreports.mpr (Or.inl hsize)⟩

/-- The first interface takes 2048 bytes at once, but is checked against 64. -/
theorem transferSize_not_own :
    ¬∀ (d : Device Empty) (p : DevicePacket) (set : Bytes) (after : List DevicePacket)
        (number : UInt8) (e : DFUInterfaceExpert) (f : Bytes), d.ReadsSet p set →
      ((d.process p).run after).DfuExpertOf (valueOf set) number e →
        FunctionalOf (descriptors set) number f → e.ReportsOver (transferSizeOf f) := by
  intro hall
  obtain ⟨e, he, hsize⟩ := dfuExpertOf_twoSizes 0 (Or.inl rfl)
  rw [← valueOf_twoSizes] at he
  have hfirst : FunctionalOf (descriptors twoSizesSet) 0 [9, 0x21, 0x0D, 0, 0, 0, 8, 0x10, 1] := by
    unfold FunctionalOf
    decide +kernel
  have hreports := hall _ _ _ [] 0 e _ readsSet_twoSizes he hfirst
  rw [e.reportsOver_iff, hsize] at hreports
  revert hreports
  unfold SameLimit
  decide

end Device

end DemuxUsb
