import DemuxUsb.Usb.ByteConservation

/-!
# The history of an expert

An expert is made when its configuration is read, and nothing is handed to its place before.
So everything that was ever handed to a place made the expert there out of a new one, its
counters are those of this history, and the report, which leaves out the experts that are
empty, shows the experts that were handed something.

* `experts_eq_runs`: every expert of a device as the run of a new one;
* `reported_eq_handed`: the experts that the report shows.
-/

namespace DemuxUsb

variable {π : Type}

/-! ## Histories of transfers -/

namespace Delivery

/-- A control transfer. -/
def isControl : Delivery → Bool
  | controlIn _ _ => true
  | controlOut _ _ => true
  | bulkIn _ => false
  | bulkOut _ => false

/-- The bytes of a control transfer. -/
def controlBytes : Delivery → Nat
  | controlIn _ data => data.length
  | controlOut _ data => data.length
  | bulkIn _ => 0
  | bulkOut _ => 0

/-- What a bulk transfer carries, with its direction: `true` is host to device. -/
def bulk? : Delivery → Option (Bool × Bytes)
  | controlIn _ _ => none
  | controlOut _ _ => none
  | bulkIn data => some (false, data)
  | bulkOut data => some (true, data)

end Delivery

namespace InterfaceExpert

/-- `isEmpty` -/
def isEmpty (e : InterfaceExpert) : Bool := e.controlPackets == 0 && e.packets == 0

/-- The counters behind some transfers. -/
structure Counted (e : InterfaceExpert) (xs : List Delivery) : Prop where
  controlPackets : e.controlPackets = UInt32.ofNat (xs.countP Delivery.isControl)
  packets : e.packets = UInt32.ofNat (xs.countP fun x => !x.isControl)
  controlBytes : e.controlBytes = UInt64.ofNat (xs.map Delivery.controlBytes).sum
  bytes : e.bytes = UInt64.ofNat (xs.map Delivery.bulkBytes).sum

theorem counted_new (configuration interface : UInt8) :
    Counted { configuration := configuration, interface := interface } [] :=
  ⟨rfl, rfl, rfl, rfl⟩

/-- **Step lemma.** -/
theorem Counted.receive {e : InterfaceExpert} {xs : List Delivery} (h : e.Counted xs)
    (x : Delivery) : (e.receive x).Counted (xs ++ [x]) := by
  obtain ⟨hcontrol, hpackets, hcontrolBytes, hbytes⟩ := h
  refine ⟨?_, ?_, ?_, ?_⟩
  · rw [List.countP_append, UInt32.ofNat_add, ← hcontrol]
    cases x with
    | controlIn setup data => rfl
    | controlOut setup data => rfl
    | bulkIn data => exact (UInt32.add_zero _).symm
    | bulkOut data => exact (UInt32.add_zero _).symm
  · rw [List.countP_append, UInt32.ofNat_add, ← hpackets]
    cases x with
    | controlIn setup data => exact (UInt32.add_zero _).symm
    | controlOut setup data => exact (UInt32.add_zero _).symm
    | bulkIn data => rfl
    | bulkOut data => rfl
  · rw [List.map_append, List.sum_append, UInt64.ofNat_add, ← hcontrolBytes, List.map_singleton,
      List.sum_singleton]
    cases x with
    | controlIn setup data => rfl
    | controlOut setup data => rfl
    | bulkIn data => exact (UInt64.add_zero _).symm
    | bulkOut data => exact (UInt64.add_zero _).symm
  · rw [List.map_append, List.sum_append, UInt64.ofNat_add, ← hbytes, List.map_singleton,
      List.sum_singleton]
    exact e.getByteCount_receive x

/-- The counters are back at zero only after multiples of 2^32 transfers. -/
theorem Counted.isEmpty_iff {e : InterfaceExpert} {xs : List Delivery} (h : e.Counted xs) :
    e.isEmpty = true ↔ 2 ^ 32 ∣ xs.countP Delivery.isControl ∧
      2 ^ 32 ∣ xs.countP fun x => !x.isControl := by
  have hzero : ∀ n : Nat, UInt32.ofNat n = 0 ↔ 2 ^ 32 ∣ n := by
    intro n
    rw [← UInt32.toNat_inj, UInt32.toNat_ofNat', Nat.dvd_iff_mod_eq_zero]
    rfl
  rw [isEmpty, Bool.and_eq_true, beq_iff_eq, beq_iff_eq, h.controlPackets, h.packets, hzero, hzero]

/-- With fewer than 2^32 transfers they are only before the first one. -/
theorem Counted.isEmpty_iff_nil {e : InterfaceExpert} {xs : List Delivery} (h : e.Counted xs)
    (hfew : xs.length < 2 ^ 32) : e.isEmpty = true ↔ xs = [] := by
  have hparts := List.length_eq_countP_add_countP Delivery.isControl (l := xs)
  rw [h.isEmpty_iff]
  constructor
  · rintro ⟨hcontrol, hpackets⟩
    have hcontrol' := Nat.eq_zero_of_dvd_of_lt hcontrol (by omega)
    have hpackets' : xs.countP (fun x => !x.isControl) = 0 := by
      apply Nat.eq_zero_of_dvd_of_lt hpackets
      exact Nat.lt_of_le_of_lt List.countP_le_length hfew
    apply List.length_eq_zero_iff.mp
    simp only [Bool.not_eq_true, Bool.decide_eq_false] at hparts
    omega
  · rintro rfl
    exact ⟨Nat.dvd_zero _, Nat.dvd_zero _⟩

end InterfaceExpert

/-! ## Experts without traffic -/

def USBMUXInterfaceExpert.isEmpty (e : USBMUXInterfaceExpert π) : Bool :=
  e.table.streams.isEmpty && e.toInterfaceExpert.isEmpty

def RecoveryInterfaceExpert.isEmpty (e : RecoveryInterfaceExpert) : Bool :=
  e.payloads.isEmpty && e.toInterfaceExpert.isEmpty

namespace Expert

/-- `isEmpty` -/
def isEmpty : Expert π → Bool
  | usbmux e => e.isEmpty
  | dfu e => e.toInterfaceExpert.isEmpty
  | recovery e => e.isEmpty

theorem base_isEmpty {e : Expert π} (h : e.isEmpty = true) : e.base.isEmpty = true := by
  cases e with
  | usbmux e => exact (Bool.and_eq_true_iff.mp h).2
  | dfu e => exact h
  | recovery e => exact (Bool.and_eq_true_iff.mp h).2

end Expert

/-- A new expert is empty. -/
theorem Device.NewExpert.isEmpty {config : UsbConfiguration} {e : Expert π}
    (h : Device.NewExpert config e) : e.isEmpty = true := by
  cases h with
  | usbmux number =>
    show ((∅ : Std.ExtTreeMap UInt64 (Option (MuxStream π))).isEmpty && _) = true
    rw [Std.ExtTreeMap.isEmpty_empty]
    rfl
  | dfu number => rfl
  | recovery => rfl

theorem Device.NewExpert.counted {config : UsbConfiguration} {e : Expert π}
    (h : Device.NewExpert config e) : e.base.Counted [] := by
  cases h with
  | usbmux number => exact InterfaceExpert.counted_new _ _
  | dfu number => exact InterfaceExpert.counted_new _ _
  | recovery => exact InterfaceExpert.counted_new _ _

variable [Libplist π]

namespace Expert

/-- **Run lemma.** -/
theorem counted_run {e : Expert π} (h : e.base.Counted []) (xs : List Delivery) :
    (xs.foldl receive e).base.Counted xs := by
  induction xs using List.reverseRecOn with
  | nil => exact h
  | append_singleton xs x ih =>
    rw [List.foldl_concat, base_receive]
    exact ih.receive x

end Expert

/-! ## Places -/

namespace Device

theorem deliveries_append (d : Device π) (before after : List DevicePacket) :
    d.deliveries (before ++ after) = d.deliveries before ++ (d.run before).deliveries after := by
  induction before generalizing d with
  | nil => rfl
  | cons p before ih =>
    rw [List.cons_append, deliveries, deliveries, ih, List.append_assoc]
    rfl

theorem deliveredTo_concat (d : Device π) (i : Nat) (packets : List DevicePacket)
    (p : DevicePacket) :
    d.deliveredTo i (packets ++ [p]) = d.deliveredTo i packets ++
      (((d.run packets).route p).toList.filter (·.1 == i)).map Prod.snd := by
  rw [deliveredTo, deliveries_append, List.filter_append, List.map_append, deliveredTo, deliveries,
    deliveries, List.append_nil]

/-- No more is delivered than there are transfers. -/
theorem length_deliveredTo (d : Device π) (i : Nat) (packets : List DevicePacket) :
    (d.deliveredTo i packets).length ≤ packets.length := by
  induction packets generalizing d with
  | nil => exact Nat.le_refl _
  | cons p packets ih =>
    have hroute : ((d.route p).toList.filter (·.1 == i)).length ≤ 1 := by
      apply Nat.le_trans (List.length_filter_le _ _)
      cases d.route p with
      | none => exact Nat.zero_le _
      | some x => exact Nat.le_refl _
    rw [deliveredTo_cons, List.length_append, List.length_map, List.length_cons]
    have hrest := ih (d.process p)
    omega

omit [Libplist π] in
/-- A transfer is handed to an expert that is there. -/
theorem lt_of_route {d : Device π} (hattached : d.Attached) {p : DevicePacket} {i : Nat}
    {x : Delivery} (h : d.route p = some (i, x)) : i < d.experts.length := by
  obtain ⟨e, he⟩ := exists_of_mem_getExperts hattached (route_listed h).1
  exact (List.getElem?_eq_some_iff.mp he).1

omit [Libplist π] in
theorem filter_route_eq_nil {d : Device π} {p : DevicePacket} {i : Nat}
    (h : ∀ x, d.route p ≠ some (i, x)) :
    ((d.route p).toList.filter (·.1 == i)).map Prod.snd = [] := by
  rw [List.map_eq_nil_iff, List.filter_eq_nil_iff]
  rintro ⟨j, x⟩ hx hj
  rw [Option.mem_toList] at hx
  rw [beq_iff_eq] at hj
  exact h x (hj ▸ hx)

/-- What there is at the places of a device, and what was delivered to the others. -/
structure HoldsRuns (d : Device π) (handed : Nat → List Delivery) : Prop where
  made : ∀ (i : Nat) (e : Expert π), d.experts[i]? = some e →
    ∃ config fresh, NewExpert config fresh ∧ e = (handed i).foldl Expert.receive fresh
  empty : ∀ i, d.experts.length ≤ i → handed i = []

/-- **Step lemma.** -/
theorem HoldsRuns.process {d : Device π} {handed : Nat → List Delivery} (h : d.HoldsRuns handed)
    (hattached : d.Attached) (p : DevicePacket) :
    (d.process p).HoldsRuns fun i =>
      handed i ++ ((d.route p).toList.filter (·.1 == i)).map Prod.snd := by
  have hlt : ∀ i x, d.route p = some (i, x) → i < d.experts.length :=
    fun i x => lt_of_route hattached
  have hold : ∀ (i : Nat) (e : Expert π), d.experts[i]? = some e →
      ∀ e', (d.process p).experts[i]? = some e' →
        ∃ config fresh, NewExpert config fresh ∧
          e' = (handed i ++ ((d.route p).toList.filter (·.1 == i)).map Prod.snd).foldl
            Expert.receive fresh := by
    intro i e he e' he'
    obtain ⟨config, fresh, hnew, heq⟩ := h.made i e he
    refine ⟨config, fresh, hnew, ?_⟩
    rw [experts_process d p e he] at he'
    rw [List.foldl_append, ← heq]
    exact (Option.some.inj he').symm
  refine ⟨?_, ?_⟩
  · intro i e' he'
    cases hi : d.experts[i]? with
    | some e => exact hold i e hi e' he'
    | none =>
      -- the expert was made by this very transfer, which is handed to nobody
      have hge : d.experts.length ≤ i := List.getElem?_eq_none_iff.mp hi
      have hnone : ((d.route p).toList.filter (·.1 == i)).map Prod.snd = [] :=
        filter_route_eq_nil fun x hx => absurd (hlt i x hx) (Nat.not_lt.mpr hge)
      rw [hnone, List.append_nil, h.empty i hge]
      cases d.process_effect p with
      | delivered j x hroute hexperts =>
        rw [hexperts, List.getElem?_modify, hi] at he'
        cases he'
      | kept hroute hexperts =>
        rw [hexperts, hi] at he'
        cases he'
      | stored hroute data hstores =>
        obtain ⟨new, hadded, hnew⟩ := d.attachExperts_new (UsbConfiguration.parse {} data).1
        rw [hstores.experts, hadded, List.getElem?_append_right hge] at he'
        exact ⟨_, e', hnew e' (List.mem_of_getElem? he'), rfl⟩
  · intro i hge
    have hge' : d.experts.length ≤ i := by
      apply Nat.le_trans _ hge
      cases d.process_effect p with
      | delivered j x hroute hexperts => rw [hexperts, List.length_modify]
      | kept hroute hexperts => rw [hexperts]
      | stored hroute data hstores =>
        rw [hstores.experts]
        exact (d.attachExperts_experts _).length_le
    rw [h.empty i hge', List.nil_append]
    exact filter_route_eq_nil fun x hx => absurd (hlt i x hx) (Nat.not_lt.mpr hge')

/-- **Run lemma.** -/
theorem holdsRuns_run (id : UInt64) (packets : List DevicePacket) :
    ((new id : Device π).run packets).HoldsRuns fun i => (new id : Device π).deliveredTo i packets := by
  induction packets using List.reverseRecOn with
  | nil =>
    refine ⟨?_, fun i _ => rfl⟩
    intro i e he
    cases he
  | append_singleton packets p ih =>
    rw [run_concat]
    simp only [deliveredTo_concat]
    exact ih.process (attached_run id packets) p

/-- Every expert of a run is what the transfers that were ever handed to its place made of a
new one. -/
theorem experts_eq_runs (id : UInt64) (packets : List DevicePacket) {i : Nat} {e : Expert π}
    (he : ((new id : Device π).run packets).experts[i]? = some e) :
    ∃ config fresh, NewExpert config fresh ∧
      e = ((new id : Device π).deliveredTo i packets).foldl Expert.receive fresh :=
  (holdsRuns_run id packets).made i e he

/-! ## The report -/

/-- The experts that the report shows. -/
def reportedExperts (d : Device π) : List Nat :=
  d.getExperts.filter fun n => (d.experts[n]?.map fun e => !e.isEmpty).getD false

/-- Whatever is handed to an expert is handed to one that is listed in the end. -/
theorem listed_of_deliveredTo (id : UInt64) (packets : List DevicePacket) {i : Nat}
    (h : (new id : Device π).deliveredTo i packets ≠ []) :
    i ∈ ((new id : Device π).run packets).getExperts := by
  induction packets using List.reverseRecOn with
  | nil => exact absurd rfl h
  | append_singleton packets p ih =>
    have hkept : ∀ {d : Device π}, i ∈ d.getExperts → i ∈ (d.process p).getExperts := by
      intro d hi
      obtain ⟨value, config, hconfig, hinterface⟩ := mem_getExperts.mp hi
      exact mem_getExperts.mpr ⟨value, config, configurations_process hconfig p, hinterface⟩
    rw [run_concat]
    apply hkept
    by_cases hbefore : (new id : Device π).deliveredTo i packets = []
    · by_contra hnot
      apply h
      rw [deliveredTo_concat, hbefore, List.nil_append]
      exact filter_route_eq_nil fun x hx => hnot (route_listed hx).1
    · exact ih hbefore

/-- In every run of fewer than 2^32 transfers the report shows exactly the experts that were
handed something, in the order of the list, and every transfer that was handed to an expert
is with one of them. -/
theorem reported_eq_handed (id : UInt64) (packets : List DevicePacket)
    (hfew : packets.length < 2 ^ 32) :
    ((new id : Device π).run packets).reportedExperts =
        ((new id : Device π).run packets).getExperts.filter
          (fun n => (new id : Device π).deliveredTo n packets ≠ []) ∧
      ∀ x ∈ (new id : Device π).deliveries packets,
        x.1 ∈ ((new id : Device π).run packets).reportedExperts := by
  have hreported : ((new id : Device π).run packets).reportedExperts =
      ((new id : Device π).run packets).getExperts.filter
        (fun n => (new id : Device π).deliveredTo n packets ≠ []) := by
    apply List.filter_congr
    intro n hn
    obtain ⟨e, he⟩ := exists_of_mem_getExperts (attached_run id packets) hn
    obtain ⟨config, fresh, hnew, heq⟩ := experts_eq_runs id packets he
    have hcounted : e.base.Counted ((new id : Device π).deliveredTo n packets) := by
      rw [heq]
      exact Expert.counted_run hnew.counted _
    have hempty : e.isEmpty = true ↔ (new id : Device π).deliveredTo n packets = [] := by
      constructor
      · intro h
        apply (hcounted.isEmpty_iff_nil ?_).mp (Expert.base_isEmpty h)
        exact Nat.lt_of_le_of_lt (length_deliveredTo _ _ _) hfew
      · intro h
        rw [heq, h]
        exact hnew.isEmpty
    rw [he, Option.map_some, Option.getD_some, Bool.eq_iff_iff, Bool.not_eq_true', ← Bool.not_eq_true,
      hempty, decide_eq_true_iff]
  refine ⟨hreported, ?_⟩
  rintro ⟨n, x⟩ hx
  have hdelivered : (new id : Device π).deliveredTo n packets ≠ [] := by
    apply List.ne_nil_of_mem (a := x)
    exact List.mem_map.mpr ⟨(n, x), List.mem_filter.mpr ⟨hx, beq_self_eq_true n⟩, rfl⟩
  rw [hreported]
  exact List.mem_filter.mpr ⟨listed_of_deliveredTo id packets hdelivered, decide_eq_true hdelivered⟩

/-- The phone has one expert, which was handed the transfer on its endpoint. -/
theorem reported_eq_handed_example :
    ((new 1 : Device Empty).run phonePackets).reportedExperts = [0] := by
  rw [(reported_eq_handed 1 phonePackets (by decide)).1]
  decide +kernel

end Device

end DemuxUsb
