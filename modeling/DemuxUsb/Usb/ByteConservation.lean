import Mathlib.Algebra.Order.BigOperators.Group.List
import Mathlib.Algebra.Order.Ring.Nat
import DemuxUsb.Usb.ExpertBytes
import DemuxUsb.Usb.SharedExperts

/-!
# No byte is counted twice

The device counts the bytes of its bulk transfers, an expert those it is handed, and the
streams of a USBMUX expert those of their segments.

* `bytes_counted_once`: the count of the device is the sum of those of its experts and of
  the bytes that no expert was handed, and a USBMUX expert counts at least what its streams
  count and its reassembly buffers hold.
-/

namespace DemuxUsb

variable {π : Type}

namespace Device

/-! ## The experts that are handed transfers -/

theorem activeConfiguration_stored {d : Device π} {config : UsbConfiguration}
    (h : d.activeConfiguration = some config) :
    ∃ value : UInt8, d.configurations[value]? = some config := by
  unfold activeConfiguration at h
  split at h
  · next hcurrent =>
    obtain rfl := Option.some.inj h
    exact ⟨_, hcurrent⟩
  split at h
  · obtain ⟨entry, hentry, rfl⟩ := Option.map_eq_some_iff.mp h
    exact ⟨entry.1, Std.ExtTreeMap.mem_toList_iff_getElem?_eq_some.mp (Maps.minEntry_mem hentry)⟩
  · cases h

theorem searchEndpoint_mem {d : Device π} {fallback : Option Nat} {interfaces : List UsbInterface}
    {n : Nat} (h : d.searchEndpoint fallback interfaces = some n) :
    fallback = some n ∨ ∃ i ∈ interfaces, i.expert = some n := by
  induction interfaces generalizing fallback with
  | nil => exact Or.inl h
  | cons i rest ih =>
    rw [searchEndpoint] at h
    split at h
    · exact Or.inr ⟨i, List.mem_cons_self, h⟩
    · rcases ih h with hfallback | ⟨j, hj, hn⟩
      · cases fallback with
        | none => exact Or.inr ⟨i, List.mem_cons_self, hfallback⟩
        | some m => exact Or.inl hfallback
      · exact Or.inr ⟨j, List.mem_cons_of_mem _ hj, hn⟩

theorem getExpertForEndpoint_mem {d : Device π} {endpoint : UInt8} {n : Nat}
    (h : d.getExpertForEndpoint endpoint = some n) : n ∈ d.getExperts := by
  unfold getExpertForEndpoint at h
  split at h
  · cases h
  · next config hactive =>
    obtain ⟨value, hvalue⟩ := activeConfiguration_stored hactive
    rcases searchEndpoint_mem h with hnone | ⟨i, hi, hn⟩
    · cases hnone
    · obtain ⟨j, hj, hi⟩ := List.mem_flatMap.mp hi
      obtain ⟨_, _, rfl⟩ := List.mem_map.mp hi
      exact mem_getExperts.mpr ⟨value, config, hvalue, j, hj, hn⟩

theorem getExpertForControl_mem {d : Device π} {setup : UsbSetup} {n : Nat}
    (h : d.getExpertForControl setup = some n) : n ∈ d.getExperts := by
  unfold getExpertForControl at h
  split at h
  · cases h
  · next config hconfig =>
    have hstored : ∃ value : UInt8, d.configurations[value]? = some config := by
      cases hactive : d.activeConfiguration with
      | none =>
        rw [hactive] at hconfig
        obtain ⟨entry, hentry, rfl⟩ := Option.map_eq_some_iff.mp hconfig
        exact ⟨entry.1,
          Std.ExtTreeMap.mem_toList_iff_getElem?_eq_some.mp (Maps.minEntry_mem hentry)⟩
      | some active =>
        rw [hactive] at hconfig
        obtain rfl := Option.some.inj hconfig
        exact activeConfiguration_stored hactive
    obtain ⟨value, hvalue⟩ := hstored
    apply mem_getExperts.mpr
    split at h
    · obtain ⟨i, hi, hn⟩ := Option.bind_eq_some_iff.mp h
      exact ⟨value, config, hvalue, i, List.mem_of_find?_eq_some hi, hn⟩
    · obtain ⟨i, hi, hn⟩ := List.exists_of_findSome?_eq_some h
      exact ⟨value, config, hvalue, i, hi, hn⟩

/-- A transfer is handed to an expert that is listed, with its bytes. -/
theorem route_listed {d : Device π} {p : DevicePacket} {i : Nat} {x : Delivery}
    (h : d.route p = some (i, x)) : i ∈ d.getExperts ∧ x.bulkBytes = p.bulkBytes := by
  have hcontrol : ∀ {endpoint setup} {y : Delivery},
      d.routeControl endpoint setup y = some (i, x) → i ∈ d.getExperts ∧ x = y := by
    intro endpoint setup y hroute
    unfold routeControl at hroute
    split at hroute
    · cases hroute
    · obtain ⟨j, hj, heq⟩ := Option.map_eq_some_iff.mp hroute
      obtain ⟨rfl, rfl⟩ := Prod.mk.inj heq
      exact ⟨getExpertForControl_mem hj, rfl⟩
  cases p with
  | controlIn endpoint setup data =>
    obtain ⟨hi, rfl⟩ := hcontrol h
    exact ⟨hi, rfl⟩
  | controlOut endpoint setup data =>
    obtain ⟨hi, rfl⟩ := hcontrol h
    exact ⟨hi, rfl⟩
  | bulkIn endpoint data =>
    obtain ⟨j, hj, heq⟩ := Option.map_eq_some_iff.mp h
    obtain ⟨rfl, rfl⟩ := Prod.mk.inj heq
    exact ⟨getExpertForEndpoint_mem hj, rfl⟩
  | bulkOut endpoint data =>
    obtain ⟨j, hj, heq⟩ := Option.map_eq_some_iff.mp h
    obtain ⟨rfl, rfl⟩ := Prod.mk.inj heq
    exact ⟨getExpertForEndpoint_mem hj, rfl⟩

theorem exists_of_mem_getExperts {d : Device π} (h : d.Attached) {n : Nat}
    (hn : n ∈ d.getExperts) : ∃ e, d.experts[n]? = some e := by
  obtain ⟨value, config, hconfig, i, hi, hexpert⟩ := mem_getExperts.mp hn
  obtain ⟨x, hx, -⟩ := (h value config hconfig).made i hi n hexpert
  rw [List.getElem?_map] at hx
  obtain ⟨e, he, -⟩ := Option.map_eq_some_iff.mp hx
  exact ⟨e, he⟩

/-! ## The ledger -/

/-- The bytes of a transfer that no expert is handed. -/
def unrouted (d : Device π) (p : DevicePacket) : Nat :=
  if d.route p = none then p.bulkBytes else 0

/-- The bulk bytes that the expert at a place counts. -/
def bytesAt (d : Device π) (n : Nat) : Nat :=
  (d.experts[n]?.map fun e => e.getByteCount.toNat).getD 0

theorem DescriptorEffect.byteCount {d d' : Device π} {setup : UsbSetup} {data : Bytes}
    (h : DescriptorEffect d setup data d') : d'.byteCount = d.byteCount := by
  cases h with
  | kept anomalies => rfl
  | device hrequested hreturned hcomplete descriptor => rfl
  | config total config hconfig hnew anomalies => rfl
  | string index text => rfl
  | bos descriptor => rfl

theorem byteCount_withExpert (d : Device π) (i : Option Nat) (f : Expert π → Expert π) :
    (d.withExpert i f).byteCount = d.byteCount := by
  cases i with
  | none => rfl
  | some i => rfl

variable [Libplist π]

/-- The device counts the bulk transfers. -/
theorem byteCount_process (d : Device π) (p : DevicePacket) :
    (d.process p).byteCount = d.byteCount + UInt64.ofNat p.bulkBytes := by
  cases p with
  | bulkIn endpoint data => exact byteCount_withExpert _ _ _
  | bulkOut endpoint data => exact byteCount_withExpert _ _ _
  | controlIn endpoint setup data =>
    rw [show UInt64.ofNat (DevicePacket.controlIn endpoint setup data).bulkBytes = 0 from rfl,
      UInt64.add_zero]
    unfold process processControlPacketIn
    dsimp only
    split
    · rfl
    split
    · split
      · exact (processDescriptor_effect _ setup data).byteCount
      · rfl
    · exact byteCount_withExpert _ _ _
  | controlOut endpoint setup data =>
    rw [show UInt64.ofNat (DevicePacket.controlOut endpoint setup data).bulkBytes = 0 from rfl,
      UInt64.add_zero]
    unfold process processControlPacketOut
    dsimp only
    split
    · rfl
    split
    · split_ifs <;> rfl
    · exact byteCount_withExpert _ _ _

/-- The bytes of the bulk transfers of a run that no expert is handed. -/
def unroutedBytes (d : Device π) : List DevicePacket → Nat
  | [] => 0
  | p :: packets => d.unrouted p + (d.process p).unroutedBytes packets

/-- The bulk bytes of the device are those of its experts and `lost` more. -/
structure Balanced (d : Device π) (lost : Nat) : Prop where
  counted : d.byteCount.toNat = (d.experts.map fun e => e.getByteCount.toNat).sum + lost
  /-- An expert without an interface is handed nothing. -/
  unlisted : ∀ (n : Nat) (e : Expert π), d.experts[n]? = some e → n ∉ d.getExperts →
    e.getByteCount.toNat = 0
  conserves : ∀ e ∈ d.experts, e.Conserves

theorem new_conserves {config : UsbConfiguration} {e : Expert π} (h : NewExpert config e) :
    e.getByteCount.toNat = 0 ∧ e.Conserves := by
  cases h with
  | usbmux number => exact ⟨rfl, ⟨[], StreamTable.learned_empty⟩, Nat.le_refl _⟩
  | dfu number => exact ⟨rfl, trivial⟩
  | recovery => exact ⟨rfl, trivial⟩

/-- The bytes of the transfer go to the expert that is handed it. -/
theorem Balanced.delivered {d d' : Device π} {lost : Nat} (h : d.Balanced lost)
    (hattached : d.Attached) {i : Nat} {x : Delivery} (hlisted : i ∈ d.getExperts)
    (hexperts : d'.experts = d.experts.modify i (·.receive x)) (hsame : SameRouting d d')
    (hcount : d'.byteCount.toNat = d.byteCount.toNat + x.bulkBytes)
    (hfits : d.byteCount.toNat + x.bulkBytes < 2 ^ 64) : d'.Balanced lost := by
  have hcounted := h.counted
  obtain ⟨e, he⟩ := exists_of_mem_getExperts hattached hlisted
  have hmem : e ∈ d.experts := List.mem_of_getElem? he
  have hle : e.getByteCount.toNat ≤ (d.experts.map fun e => e.getByteCount.toNat).sum :=
    List.single_le_sum (fun _ _ => Nat.zero_le _) _ (List.mem_map_of_mem hmem)
  have hfits' : e.getByteCount.toNat + x.bulkBytes < 2 ^ 64 := by omega
  refine ⟨?_, ?_, ?_⟩
  · have hsum := Totals.sum_modify (fun e : Expert π => e.getByteCount.toNat) (·.receive x) he
    rw [e.getByteCount_receive, toNat_add_ofNat hfits'] at hsum
    rw [hcount, hexperts]
    omega
  · intro n e' he' hn
    rw [getExperts, hsame.configurations] at hn
    have hne : i ≠ n := fun heq => hn (heq ▸ hlisted)
    rw [hexperts, List.getElem?_modify_ne _ _ hne] at he'
    exact h.unlisted n e' he' hn
  · intro e' he'
    obtain ⟨n, hn⟩ := List.mem_iff_getElem?.mp he'
    rw [hexperts] at hn
    by_cases hin : i = n
    · rw [← hin, List.getElem?_modify_eq, he] at hn
      obtain rfl := Option.some.inj hn
      exact (h.conserves e hmem).receive x hfits'
    · rw [List.getElem?_modify_ne _ _ hin] at hn
      exact h.conserves e' (List.mem_of_getElem? hn)

/-- New experts have counted nothing yet, and an expert that is listed stays listed. -/
theorem Balanced.attached {d d' : Device π} {lost bytes : Nat} (h : d.Balanced lost)
    {config : UsbConfiguration} (hexperts : d'.experts = (d.attachExperts config).1)
    (hlisted : ∀ n ∈ d.getExperts, n ∈ d'.getExperts)
    (hcount : d'.byteCount.toNat = d.byteCount.toNat + bytes) : d'.Balanced (lost + bytes) := by
  have hcounted := h.counted
  obtain ⟨new, hadded, hnew⟩ := d.attachExperts_new config
  rw [← hexperts] at hadded
  have hzero : (new.map fun e => e.getByteCount.toNat).sum = 0 := by
    apply List.sum_eq_zero
    intro bytes hbytes
    obtain ⟨e, he, rfl⟩ := List.mem_map.mp hbytes
    exact (new_conserves (hnew e he)).1
  refine ⟨?_, ?_, ?_⟩
  · rw [hcount, hadded, List.map_append, List.sum_append]
    omega
  · intro n e he hn
    rw [hadded] at he
    rcases Nat.lt_or_ge n d.experts.length with hlt | hge
    · rw [List.getElem?_append_left hlt] at he
      exact h.unlisted n e he fun hold => hn (hlisted n hold)
    · rw [List.getElem?_append_right hge] at he
      exact (new_conserves (hnew e (List.mem_of_getElem? he))).1
  · intro e he
    rw [hadded] at he
    rcases List.mem_append.mp he with he | he
    · exact h.conserves e he
    · exact (new_conserves (hnew e he)).2

/-- **Step lemma.** -/
theorem Balanced.process {d : Device π} {lost : Nat} (h : d.Balanced lost) (hattached : d.Attached)
    (p : DevicePacket) (hfits : d.byteCount.toNat + p.bulkBytes < 2 ^ 64) :
    (d.process p).Balanced (lost + d.unrouted p) := by
  have hcount : (d.process p).byteCount.toNat = d.byteCount.toNat + p.bulkBytes := by
    rw [byteCount_process, toNat_add_ofNat hfits]
  cases d.process_effect p with
  | delivered i x hroute hexperts hsame =>
    obtain ⟨hlisted, hbytes⟩ := route_listed hroute
    have hunrouted : d.unrouted p = 0 := by
      unfold unrouted
      rw [hroute, if_neg (Option.some_ne_none _)]
    rw [← hbytes] at hcount hfits
    rw [hunrouted]
    exact h.delivered hattached hlisted hexperts hsame hcount hfits
  | kept hroute hexperts hconfigurations =>
    have hunrouted : d.unrouted p = p.bulkBytes := if_pos hroute
    have hcounted := h.counted
    refine ⟨?_, ?_, ?_⟩
    · rw [hcount, hexperts, hunrouted]
      omega
    · rw [hexperts, getExperts, hconfigurations]
      exact h.unlisted
    · rw [hexperts]
      exact h.conserves
  | stored hroute data hstores =>
    have hunrouted : d.unrouted p = p.bulkBytes := if_pos hroute
    rw [hunrouted]
    apply h.attached hstores.experts
    · intro n hn
      obtain ⟨value, config, hconfig, hi⟩ := mem_getExperts.mp hn
      exact mem_getExperts.mpr ⟨value, config, configurations_process hconfig p, hi⟩
    · exact hcount

/-- **Run lemma.** -/
theorem Balanced.run {d : Device π} {lost : Nat} (h : d.Balanced lost) (hattached : d.Attached)
    (packets : List DevicePacket)
    (hfits : d.byteCount.toNat + (packets.map DevicePacket.bulkBytes).sum < 2 ^ 64) :
    (d.run packets).Balanced (lost + d.unroutedBytes packets) := by
  induction packets generalizing d lost with
  | nil => exact h
  | cons p packets ih =>
    rw [List.map_cons, List.sum_cons] at hfits
    have hfirst : d.byteCount.toNat + p.bulkBytes < 2 ^ 64 := by omega
    rw [run_cons, unroutedBytes, ← Nat.add_assoc]
    apply ih (h.process hattached p hfirst) (hattached.process p)
    rw [byteCount_process, toNat_add_ofNat hfirst]
    omega

/-- The sum over the listed experts is the sum over all of them. -/
theorem Balanced.sum_bytesAt {d : Device π} {lost : Nat} (h : d.Balanced lost)
    (hattached : d.Attached) :
    (d.getExperts.map d.bytesAt).sum = (d.experts.map fun e => e.getByteCount.toNat).sum := by
  apply Totals.sum_places (fun e : Expert π => e.getByteCount.toNat) d.experts d.nodup_getExperts
  · intro n hn
    obtain ⟨e, he⟩ := exists_of_mem_getExperts hattached hn
    exact (List.getElem?_eq_some_iff.mp he).1
  · exact h.unlisted

/-- In every run of fewer than 2^64 bulk bytes, what the device counts is what its experts
count and what was handed to none of them; and a USBMUX expert counts at least the bytes in
and out of its streams and the bytes in its two reassembly buffers. -/
theorem bytes_counted_once (id : UInt64) (packets : List DevicePacket)
    (hfits : (packets.map DevicePacket.bulkBytes).sum < 2 ^ 64) :
    ((new id : Device π).run packets).byteCount.toNat =
        (((new id : Device π).run packets).getExperts.map
            ((new id : Device π).run packets).bytesAt).sum +
          (new id : Device π).unroutedBytes packets ∧
      ∀ e : USBMUXInterfaceExpert π, .usbmux e ∈ ((new id : Device π).run packets).experts →
        e.table.carried + e.mIn.length + e.mOut.length ≤ e.getByteCount.toNat := by
  have hstart : (new id : Device π).Balanced 0 := by
    refine ⟨rfl, ?_, ?_⟩
    · intro n e he
      cases he
    · intro e he
      cases he
  have hattached : (new id : Device π).Attached := attached_run id []
  have hrun := hstart.run hattached packets (by
    rw [show (new id : Device π).byteCount.toNat = 0 from rfl]
    omega)
  rw [Nat.zero_add] at hrun
  constructor
  · rw [hrun.sum_bytesAt (attached_run id packets), hrun.counted]
  · intro e he
    exact (hrun.conserves _ he).2

/-- A phone whose usbmux interface has the endpoint 4, a transfer on it, and one on an
endpoint that was never described. -/
def phonePackets : List DevicePacket :=
  [.ofDescriptor 1 (Layout.encode
      (⟨18, 1, 0x0200, 0, 0, 0, 64, appleVid, 0x12A8, 0, 1, 2, 3, 1⟩ : UsbDeviceDescriptor)),
    .ofDescriptor 2 (Layout.encode (⟨9, 2, 25, 1, 1, 0, 0x80, 50⟩ : UsbConfigDescriptor) ++
      Layout.encode (⟨9, 4, 1, 0, 1, 0xFF, 0xFE, 2, 0⟩ : UsbInterfaceDescriptor) ++
      [7, 5, 4, 2, 0, 2, 0]),
    .controlOut 0 ⟨0, 9, 1, 0, 0⟩ [], .bulkOut 4 [0, 0, 0, 6], .bulkOut 5 [1, 2, 3]]

/-- Four of the seven bytes wait in the buffer of the expert. -/
theorem bytes_counted_once_example :
    ((new 1 : Device Empty).run phonePackets).byteCount.toNat =
        (((new 1 : Device Empty).run phonePackets).getExperts.map
          ((new 1 : Device Empty).run phonePackets).bytesAt).sum + 3 ∧
      ((new 1 : Device Empty).run phonePackets).byteCount.toNat = 7 ∧
      ((new 1 : Device Empty).run phonePackets).getExperts = [0] := by
  have hunrouted : (new 1 : Device Empty).unroutedBytes phonePackets = 3 := by decide +kernel
  refine ⟨?_, by decide +kernel, by decide +kernel⟩
  rw [← hunrouted]
  exact (bytes_counted_once 1 phonePackets (by decide)).1

end Device

end DemuxUsb
