import Mathlib.Data.UInt
import DemuxUsb.File.CaptureSessions
import DemuxUsb.File.PayloadOrigins
import DemuxUsb.Library.Totals

/-!
# No completion is lost or counted twice

A completion is handed to the current session of its handle, which counts it, or it finds
nothing in flight, and then the handle counts it as unmatched. Which of the two happens is a
matter of the calls before it, through `held`.

* `Device.counters_run`: the counters of a session are those of the transfers it was handed;
* `Transfers.Counts.run`: what a handle hands on and what it counts as unmatched;
* `InputFile.completions_counted`: the counters of a whole capture.
-/

namespace DemuxUsb

variable {π : Type}

/-! ## The counters of a session -/

/-- The statistics of a device. -/
structure Counters where
  packets : UInt64 := 0
  bytes : UInt64 := 0
  controlPackets : UInt64 := 0
  controlBytes : UInt64 := 0
  deriving DecidableEq

/-- A transfer is counted. -/
def Counters.count (n : Counters) : DevicePacket → Counters
  | .controlIn _ _ data | .controlOut _ _ data =>
    { n with
      controlPackets := n.controlPackets + 1
      controlBytes := n.controlBytes + UInt64.ofNat data.length }
  | .bulkIn _ data | .bulkOut _ data =>
    { n with
      packets := n.packets + 1
      bytes := n.bytes + UInt64.ofNat data.length }

def DevicePacket.isBulk : DevicePacket → Bool
  | .bulkIn .. | .bulkOut .. => true
  | .controlIn .. | .controlOut .. => false

theorem Counters.foldl_count (n : Counters) (packets : List DevicePacket) :
    (packets.foldl count n).packets =
        n.packets + UInt64.ofNat (packets.countP DevicePacket.isBulk) ∧
      (packets.foldl count n).controlPackets =
        n.controlPackets + UInt64.ofNat (packets.countP fun p => !p.isBulk) := by
  induction packets generalizing n with
  | nil => exact ⟨(UInt64.add_zero _).symm, (UInt64.add_zero _).symm⟩
  | cons p packets ih =>
    obtain ⟨hpackets, hcontrol⟩ := ih (n.count p)
    rw [List.foldl_cons, hpackets, hcontrol, List.countP_cons, List.countP_cons, UInt64.ofNat_add,
      UInt64.ofNat_add]
    cases p <;> constructor <;> simp [count, DevicePacket.isBulk, UInt64.add_assoc, UInt64.add_comm]

namespace Device

def counters (d : Device π) : Counters :=
  ⟨d.packetCount, d.byteCount, d.controlPacketCount, d.controlByteCount⟩

theorem DescriptorEffect.counters {d d' : Device π} {setup : UsbSetup} {data : Bytes}
    (h : DescriptorEffect d setup data d') : d'.counters = d.counters := by
  cases h with
  | kept anomalies => rfl
  | device hrequested hreturned hcomplete descriptor => rfl
  | config total config hconfig hnew anomalies => rfl
  | string index text => rfl
  | bos descriptor => rfl

theorem counters_withExpert (d : Device π) (i : Option Nat) (f : Expert π → Expert π) :
    (d.withExpert i f).counters = d.counters := by
  cases i with
  | none => rfl
  | some i => rfl

variable [Libplist π]

/-- **Step lemma.** A transfer is counted once, whatever else it does. -/
theorem counters_process (d : Device π) (p : DevicePacket) :
    (d.process p).counters = d.counters.count p := by
  cases p with
  | bulkIn endpoint data => exact counters_withExpert _ _ _
  | bulkOut endpoint data => exact counters_withExpert _ _ _
  | controlIn endpoint setup data =>
    unfold process processControlPacketIn
    dsimp only
    split
    · rfl
    split
    · split
      · exact (processDescriptor_effect _ setup data).counters
      · rfl
    · exact counters_withExpert _ _ _
  | controlOut endpoint setup data =>
    unfold process processControlPacketOut
    dsimp only
    split
    · rfl
    split
    · split_ifs <;> rfl
    · exact counters_withExpert _ _ _

/-- **Run lemma.** -/
theorem counters_run (d : Device π) (packets : List DevicePacket) :
    (d.run packets).counters = packets.foldl Counters.count d.counters := by
  induction packets generalizing d with
  | nil => rfl
  | cons p packets ih => rw [run_cons, ih, counters_process, List.foldl_cons]

end Device

/-! ## What a handle hands on -/

def Dispatch.isBulk : Dispatch → Bool
  | .control .. => false
  | .bulkIn .. | .bulkOut .. => true

theorem Dispatch.isBulk_packet (d : Dispatch) : d.packet.isBulk = d.isBulk := by
  cases d with
  | control endpoint setup data =>
    show (if setup.isIn = true then DevicePacket.controlIn endpoint setup data
      else .controlOut endpoint setup data).isBulk = false
    split <;> rfl
  | bulkIn endpoint data => rfl
  | bulkOut endpoint data => rfl

theorem DeviceHandle.counters_sessionOf [Libplist π] (id : UInt64) (transfers : List Dispatch) :
    (sessionOf id transfers : Device π).packetCount =
        UInt64.ofNat (transfers.countP Dispatch.isBulk) ∧
      (sessionOf id transfers : Device π).controlPacketCount =
        UInt64.ofNat (transfers.countP fun d => !d.isBulk) := by
  have hrun := Device.counters_run (Device.new id : Device π) (transfers.map Dispatch.packet)
  obtain ⟨hpackets, hcontrol⟩ := Counters.foldl_count (Device.new id : Device π).counters
    (transfers.map Dispatch.packet)
  rw [← hrun, List.countP_map] at hpackets hcontrol
  have hbulk : DevicePacket.isBulk ∘ Dispatch.packet = Dispatch.isBulk :=
    funext Dispatch.isBulk_packet
  have hnot : (fun p => !DevicePacket.isBulk p) ∘ Dispatch.packet = fun d => !d.isBulk :=
    funext fun d => congrArg (! ·) d.isBulk_packet
  rw [hbulk] at hpackets
  rw [hnot] at hcontrol
  exact ⟨hpackets.trans (UInt64.zero_add _), hcontrol.trans (UInt64.zero_add _)⟩

/-! ## Completions -/

namespace Call

def endsBulk : Call → Bool
  | endBulk .. => true
  | _ => false

def endsControl : Call → Bool
  | endControl .. => true
  | _ => false

/-- A completion behind these calls that completes nothing: of a bulk transfer when nothing
is held under its endpoint address, of a control transfer when no control transfer is held
under its endpoint number. -/
def completesNothing (before : List Call) : Call → Bool
  | endControl endpoint id _ =>
    !(held (usbEndpointId endpoint, id) before).head?.any Call.ofControl
  | endBulk endpoint id _ => (held (endpoint, id) before).isEmpty
  | _ => false

end Call

/-- The completions that complete nothing, of those that `p` holds of. -/
def unmatchedCompletions (p : Call → Bool) (calls : List Call) : Nat :=
  (Places.places calls).countP fun q => p q.item && q.item.completesNothing q.before

theorem unmatchedCompletions_concat (p : Call → Bool) (calls : List Call) (c : Call) :
    unmatchedCompletions p (calls ++ [c]) =
      unmatchedCompletions p calls + if (p c && c.completesNothing calls) = true then 1 else 0 := by
  unfold unmatchedCompletions
  rw [Places.places_concat, List.countP_append, List.countP_map, List.countP_singleton]
  rfl

namespace Transfers

theorem inflight_run (calls : List Call) (key : TransferKey) :
    (({} : Transfers).run calls).1.inflight[key]? =
      (entryOf (held key calls)).map TracedPending.erase :=
  (erases_run calls key).trans (congrArg _ (after_entryOf calls key))

theorem run_concat (t : Transfers) (calls : List Call) (c : Call) :
    t.run (calls ++ [c]) =
      (((t.run calls).1.call c).1, (t.run calls).2 ++ ((t.run calls).1.call c).2.toList) := by
  rw [run_append]
  show (_, (t.run calls).2 ++ (((t.run calls).1.call c).2.toList ++ [])) = _
  rw [List.append_nil]
  rfl

/-- What was handed on and counted after some calls. -/
structure Counts (calls : List Call) (r : Transfers × List Dispatch) : Prop where
  unmatched : r.1.unmatched = UInt64.ofNat (unmatchedCompletions (fun _ => true) calls)
  bulk : r.2.countP Dispatch.isBulk = calls.countP Call.endsBulk
  control : r.2.countP (fun d => !d.isBulk) + unmatchedCompletions Call.endsControl calls =
    calls.countP Call.endsControl

/-- **Step lemma.** -/
theorem counts_call {calls : List Call} {t : Transfers}
    (hentries : ∀ key : TransferKey,
      t.inflight[key]? = (entryOf (held key calls)).map TracedPending.erase) (c : Call) :
    (t.call c).1.unmatched =
        t.unmatched + UInt64.ofNat (if c.completesNothing calls = true then 1 else 0) ∧
      (t.call c).2.toList.countP Dispatch.isBulk = (if c.endsBulk = true then 1 else 0) ∧
      (t.call c).2.toList.countP (fun d => !d.isBulk) +
          (if (c.endsControl && c.completesNothing calls) = true then 1 else 0) =
        if c.endsControl = true then 1 else 0 := by
  cases c with
  | beginControl endpoint id setup data => exact ⟨(UInt64.add_zero _).symm, rfl, rfl⟩
  | appendControl endpoint id data =>
    refine ⟨?_, rfl, rfl⟩
    refine Eq.trans ?_ (UInt64.add_zero _).symm
    show (t.appendControl endpoint id data).unmatched = t.unmatched
    unfold appendControl
    split <;> rfl
  | beginBulk endpoint id data => exact ⟨(UInt64.add_zero _).symm, rfl, rfl⟩
  | abort endpoint id => exact ⟨(UInt64.add_zero _).symm, rfl, rfl⟩
  | endBulk endpoint id data =>
    have hentry := hentries (endpoint, id)
    show (t.endBulk endpoint id data).1.unmatched = t.unmatched +
        UInt64.ofNat (if (held (endpoint, id) calls).isEmpty = true then 1 else 0) ∧
      (t.endBulk endpoint id data).2.toList.countP Dispatch.isBulk = 1 ∧
      (t.endBulk endpoint id data).2.toList.countP (fun d => !d.isBulk) + 0 = 0
    unfold endBulk
    dsimp only
    rw [hentry]
    cases held (endpoint, id) calls with
    | nil => cases usbEndpointIn endpoint <;> exact ⟨rfl, rfl, rfl⟩
    | cons first rest =>
      cases usbEndpointIn endpoint <;> exact ⟨(UInt64.add_zero _).symm, rfl, rfl⟩
  | endControl endpoint id data =>
    have hentry := hentries (usbEndpointId endpoint, id)
    show (t.endControl endpoint id data).1.unmatched = t.unmatched +
        UInt64.ofNat (if (!(held (usbEndpointId endpoint, id) calls).head?.any Call.ofControl) = true
          then 1 else 0) ∧
      (t.endControl endpoint id data).2.toList.countP Dispatch.isBulk = 0 ∧
      (t.endControl endpoint id data).2.toList.countP (fun d => !d.isBulk) +
          (if (!(held (usbEndpointId endpoint, id) calls).head?.any Call.ofControl) = true
            then 1 else 0) = 1
    unfold endControl
    rw [hentry]
    cases held (usbEndpointId endpoint, id) calls with
    | nil => exact ⟨rfl, rfl, rfl⟩
    | cons first rest =>
      cases hfirst : first.ofControl with
      | false => simp [entryOf, TracedPending.erase, hfirst]
      | true => simp [entryOf, TracedPending.erase, hfirst, Dispatch.isBulk]

/-- **Run lemma.** -/
theorem counts_run (calls : List Call) : Counts calls (({} : Transfers).run calls) := by
  induction calls using List.reverseRecOn with
  | nil => exact ⟨rfl, rfl, rfl⟩
  | append_singleton calls c ih =>
    obtain ⟨hunmatched, hbulk, hcontrol⟩ := counts_call (inflight_run calls) c
    rw [run_concat]
    constructor
    · rw [hunmatched, ih.unmatched, unmatchedCompletions_concat, UInt64.ofNat_add]
      rfl
    · rw [List.countP_append, ih.bulk, List.countP_append, hbulk, List.countP_singleton]
    · rw [List.countP_append, List.countP_append, unmatchedCompletions_concat,
        List.countP_singleton]
      have hrun := ih.control
      omega

end Transfers

/-! ## The whole capture -/

/-- The calls of a capture with the addresses of their handles. -/
def calledIn (packets : List Captured) : List (UInt64 × Call) := packets.filterMap Captured.call?

theorem callsAt_eq (id : UInt64) (packets : List Captured) :
    callsAt id packets = ((calledIn packets).filter (·.1 = id)).map Prod.snd := by
  induction packets with
  | nil => rfl
  | cons p packets ih =>
    rw [callsAt, calledIn, List.filterMap_cons, List.filterMap_cons, ← callsAt, ← calledIn, ih,
      Captured.callAt]
    cases p.call? with
    | none => rfl
    | some called =>
      dsimp only [Option.bind_some]
      rw [List.filter_cons]
      by_cases hid : called.1 = id
      · rw [if_pos hid, if_pos (decide_eq_true hid), List.map_cons]
      · rw [if_neg hid, if_neg (by simpa using hid)]

theorem mem_addresses_of_mem_calledIn {packets : List Captured} {called : UInt64 × Call}
    (h : called ∈ calledIn packets) : called.1 ∈ addresses packets := by
  obtain ⟨p, hp, hcall⟩ := List.mem_filterMap.mp h
  obtain ⟨d, hdecoded, hd⟩ := Option.bind_eq_some_iff.mp hcall
  apply List.mem_eraseDups.mpr
  exact List.mem_filterMap.mpr ⟨p, hp, Option.bind_eq_some_iff.mpr
    ⟨d, hdecoded, Decoded.registers_of_call? hd⟩⟩

/-- Counting the calls of a capture address by address. -/
theorem sum_countP_callsAt (p : Call → Bool) (packets : List Captured) :
    ((addresses packets).map fun id => (callsAt id packets).countP p).sum =
      (calledIn packets).countP fun called => p called.2 := by
  have hparts := Totals.perm_parts Prod.fst (OrderedMap.nodup_eraseDups _)
    fun (called : UInt64 × Call) (h : called ∈ calledIn packets) => mem_addresses_of_mem_calledIn h
  rw [← hparts.countP_eq, List.countP_flatMap]
  congr 1
  apply List.map_congr_left
  intro id _
  rw [callsAt_eq, List.countP_map]
  rfl

theorem sum_ofNat {A : Type} (f : A → Nat) (l : List A) :
    (l.map fun a => UInt64.ofNat (f a)).sum = UInt64.ofNat (l.map f).sum := by
  induction l with
  | nil => rfl
  | cons a l ih => rw [List.map_cons, List.map_cons, List.sum_cons, List.sum_cons, ih, UInt64.ofNat_add]

namespace InputFile

variable [Libplist π]

/-- A statistic that counts transfers, over all devices. -/
theorem sum_sessions {c : Device π → UInt64} {q : Dispatch → Bool}
    (hcounts : ∀ id transfers, c (DeviceHandle.sessionOf id transfers) =
      UInt64.ofNat (transfers.countP q)) (packets : List Captured) :
    ((ofPackets packets : InputFile π).getDevices.map c).sum =
      UInt64.ofNat ((addresses packets).map fun id =>
        (({} : Transfers).run (callsAt id packets)).2.countP q).sum := by
  choose pieces hpieces hdevices using fun id =>
    DeviceHandle.sessions_run (π := π) id (callsAt id packets)
  calc ((ofPackets packets : InputFile π).getDevices.map c).sum
      = (((addresses packets).flatMap pieces).map fun piece => UInt64.ofNat (piece.countP q)).sum := by
        rw [getDevices_ofPackets hdevices, List.map_flatMap, List.map_flatMap]
        simp only [List.map_map, Function.comp_def, hcounts]
    _ = UInt64.ofNat (((addresses packets).flatMap pieces).flatten.countP q) := by
        rw [sum_ofNat, List.countP_flatten]
    _ = UInt64.ofNat ((addresses packets).map fun id =>
          (({} : Transfers).run (callsAt id packets)).2.countP q).sum := by
        rw [← List.flatMap_id, List.flatMap_assoc, List.countP_flatMap]
        simp only [List.flatMap_id, (hpieces _).transfers, Function.comp_def]

/-- **Accounting.** Every completion of a capture is counted once, whatever the order of its
packets: a bulk completion as a packet of some session of its address, a control completion as
a control packet of some session or as unmatched by its handle. A handle counts as unmatched
the completions that complete nothing, and no other. -/
theorem completions_counted (packets : List Captured) :
    ((ofPackets packets : InputFile π).getDevices.map Device.packetCount).sum =
        UInt64.ofNat ((calledIn packets).countP fun called => called.2.endsBulk) ∧
      ((ofPackets packets : InputFile π).getDevices.map Device.controlPacketCount).sum +
          UInt64.ofNat ((addresses packets).map fun id =>
            unmatchedCompletions Call.endsControl (callsAt id packets)).sum =
        UInt64.ofNat ((calledIn packets).countP fun called => called.2.endsControl) ∧
      ∀ id, ((ofPackets packets : InputFile π).devices.entries[id]?.map fun handle =>
          handle.transfers.unmatched) =
        if id ∈ addresses packets then
          some (UInt64.ofNat (unmatchedCompletions (fun _ => true) (callsAt id packets)))
        else none := by
  refine ⟨?_, ?_, ?_⟩
  · rw [sum_sessions fun id transfers => (DeviceHandle.counters_sessionOf id transfers).1]
    simp only [(Transfers.counts_run _).bulk]
    rw [sum_countP_callsAt]
  · rw [sum_sessions fun id transfers => (DeviceHandle.counters_sessionOf id transfers).2,
      ← UInt64.ofNat_add, ← List.sum_map_add]
    simp only [(Transfers.counts_run _).control]
    rw [sum_countP_callsAt]
  · intro id
    rw [entries_ofPackets]
    split
    · rw [Option.map_some, DeviceHandle.foldl_call, (Transfers.counts_run _).unmatched]
    · rfl

end InputFile

end DemuxUsb
