import Mathlib.Logic.Function.Basic
import DemuxUsb.File.FormatEquivalence
import DemuxUsb.File.OpenedFiles
import DemuxUsb.File.Warnings

/-!
# Recordings

The bus as the capture tools see it. Every transfer of every device is two packets, a
submission and a completion, in the layout of its tool; any number of transfers are under way
at the same time, and their packets stand in the order in which things happened. An identifier
may be used again once its transfer is complete.

* `devices_of_recording`: every device is handed its own transfers, each one whole, in the order
  of their completion;
* `warnings_of_recording`: nothing is said about the packets of a recording;
* `IsFileOf.events`: a file of either container with these packets is read to its end.
-/

namespace DemuxUsb.Fixture

open PcapNGInputFile (ParseEvent packetCalls)

/-! ## Transfers under way -/

/-- A transfer of a device, as a capture tool writes it. -/
structure Recorded where
  format : Format
  address : UInt8
  location : UInt32
  id : UInt64
  transfer : Transfer
  deriving DecidableEq

namespace Recorded

variable (r : Recorded)

def deviceId : UInt64 := Fixture.deviceId r.format r.address r.location

/-- A control transfer is known by the number of its endpoint, any other by its address. -/
def key : TransferKey :=
  (if r.transfer.control then usbEndpointId r.transfer.endpoint else r.transfer.endpoint, r.id)

/-- What the transfer occupies until it is complete. -/
def slot : UInt64 × TransferKey := (r.deviceId, r.key)

/-- What its submission leaves behind. -/
def pending : Pending :=
  if r.transfer.control then ⟨true, r.transfer.setup, r.transfer.outData⟩
  else { data := r.transfer.outData }

def packets : List Bytes := encodeTransfer r.format r.address r.location r.id r.transfer

end Recorded

/-- One packet of a recording. -/
inductive Stage where
  | submission (r : Recorded)
  | completion (r : Recorded)
  deriving DecidableEq

namespace Stage

def recorded : Stage → Recorded
  | submission r => r
  | completion r => r

def data : Stage → Bytes
  | submission r => r.packets[0]?.getD []
  | completion r => r.packets[1]?.getD []

def captured (s : Stage) : Captured := (s.recorded.format.linktype.code, s.data)

/-- The call on the handle of the device. -/
def call : Stage → Call
  | submission r =>
    if r.transfer.control then
      .beginControl r.transfer.endpoint r.id r.transfer.setup r.transfer.outData
    else .beginBulk r.transfer.endpoint r.id r.transfer.outData
  | completion r =>
    if r.transfer.control then .endControl r.transfer.endpoint r.id r.transfer.inData
    else .endBulk r.transfer.endpoint r.id r.transfer.inData

def callOn (id : UInt64) (s : Stage) : Option Call :=
  if s.recorded.deviceId = id then some s.call else none

/-- The transfer of a device that is complete now. -/
def completes (id : UInt64) : Stage → Option Transfer
  | submission _ => none
  | completion r => if r.deviceId = id then some r.transfer else none

end Stage

/-- The transfers under way, each in its slot. -/
abbrev UnderWay := UInt64 × TransferKey → Option Recorded

/-- A transfer is submitted in a slot that is free, and completed where it was submitted. -/
def Allows (o : UnderWay) : Stage → Prop
  | .submission r => o r.slot = none
  | .completion r => o r.slot = some r

instance (o : UnderWay) : (s : Stage) → Decidable (Allows o s)
  | .submission r => inferInstanceAs (Decidable (o r.slot = none))
  | .completion r => inferInstanceAs (Decidable (o r.slot = some r))

def next (o : UnderWay) : Stage → UnderWay
  | .submission r => Function.update o r.slot (some r)
  | .completion r => Function.update o r.slot none

/-- A recording that goes on from the transfers under way. -/
def Orderly (o : UnderWay) : List Stage → Prop
  | [] => True
  | s :: stages => Allows o s ∧ Orderly (next o s) stages

instance decidableOrderly : (o : UnderWay) → (stages : List Stage) → Decidable (Orderly o stages)
  | _, [] => isTrue trivial
  | o, s :: stages =>
    have := decidableOrderly (next o s) stages
    inferInstanceAs (Decidable (Allows o s ∧ Orderly (next o s) stages))

/-- The transfers of a device in the order of their completion. -/
def transcriptOn (id : UInt64) (stages : List Stage) : Transcript :=
  stages.filterMap (Stage.completes id)

/-- The devices of a recording in the order of their first packets. -/
def deviceIds (stages : List Stage) : List UInt64 :=
  (stages.map (·.recorded.deviceId)).eraseDups

/-- The sessions of a device that is handed a transcript. -/
def sessionsOn {π : Type} [Libplist π] (id : UInt64) (transcript : Transcript) : List (Device π) :=
  ((transcript.map Transfer.dispatched).foldl DeviceHandle.dispatch
    ({ id := id } : DeviceHandle π)).devices

/-! ## The packets -/

theorem calls_eq_stages (r : Recorded) :
    r.transfer.calls r.id = [(Stage.submission r).call, (Stage.completion r).call] := by
  unfold Transfer.calls Stage.call
  dsimp only
  split <;> rfl

/-- Every packet is decoded to its call. -/
theorem decode_data (s : Stage) (hfits : s.recorded.transfer.Fits) :
    s.recorded.format.linktype.decode s.data =
      .accepted s.recorded.deviceId (some s.call) := by
  have hdecode : ∀ r : Recorded, r.transfer.Fits →
      r.packets.map r.format.linktype.decode =
        [.accepted r.deviceId (some (Stage.submission r).call),
          .accepted r.deviceId (some (Stage.completion r).call)] := by
    intro r hr
    have hall := decode_encodeTransfer r.address r.location r.id r.format hr
    rw [calls_eq_stages] at hall
    exact hall
  cases s with
  | submission r =>
    obtain ⟨first, rest, hpackets, hfirst, -⟩ := List.map_eq_cons_iff.mp (hdecode r hfits)
    show r.format.linktype.decode (r.packets[0]?.getD []) = _
    rw [hpackets]
    exact hfirst
  | completion r =>
    obtain ⟨first, rest, hpackets, -, hrest⟩ := List.map_eq_cons_iff.mp (hdecode r hfits)
    obtain ⟨second, rest, rfl, hsecond, -⟩ := List.map_eq_cons_iff.mp hrest
    show r.format.linktype.decode (r.packets[1]?.getD []) = _
    rw [hpackets]
    exact hsecond

section Packets

variable {s : Stage} (hfits : s.recorded.transfer.Fits)

include hfits

theorem decoded_captured :
    s.captured.decoded = some (.accepted s.recorded.deviceId (some s.call)) := by
  have hcode : ∀ l : LinkType, LinkType.ofCode l.code = some l := by
    intro l
    cases l <;> rfl
  unfold Captured.decoded Stage.captured
  dsimp only
  rw [hcode, Option.map_some, decode_data s hfits]

theorem registers_captured : s.captured.registers = some s.recorded.deviceId := by
  unfold Captured.registers
  rw [decoded_captured hfits]
  rfl

theorem callAt_captured (id : UInt64) : s.captured.callAt id = s.callOn id := by
  unfold Captured.callAt Captured.call?
  rw [decoded_captured hfits]
  rfl

end Packets

section Recording

variable {stages : List Stage} (hfits : ∀ s ∈ stages, s.recorded.transfer.Fits)

include hfits

theorem addresses_captured : addresses (stages.map Stage.captured) = deviceIds stages := by
  unfold addresses deviceIds
  rw [List.filterMap_map, ← List.filterMap_eq_map]
  apply congrArg List.eraseDups
  apply List.filterMap_congr
  intro s hs
  exact registers_captured (hfits s hs)

theorem callsAt_captured (id : UInt64) :
    callsAt id (stages.map Stage.captured) = stages.filterMap (Stage.callOn id) := by
  unfold callsAt
  rw [List.filterMap_map]
  apply List.filterMap_congr
  intro s hs
  exact callAt_captured (hfits s hs) id

/-- Nothing is said about the packets of a recording. -/
theorem warnings_of_recording :
    warningsOf ((stages.map Stage.captured).map fun p => .packet p.1 p.2) = [] := by
  apply List.filterMap_eq_nil_iff.mpr
  intro q hq
  have hitem : q.item ∈ (stages.map Stage.captured).map fun p => ParseEvent.packet p.1 p.2 := by
    rw [Places.mem_places.mp hq]
    exact List.mem_append_right _ List.mem_cons_self
  rw [List.map_map] at hitem
  obtain ⟨s, hs, heq⟩ := List.mem_map.mp hitem
  unfold warningAt
  rw [← heq]
  show Captured.warning? (linktypesOf q.before) s.captured = none
  unfold Captured.warning?
  rw [decoded_captured (hfits s hs)]
  rfl

end Recording

/-! ## The table of a device -/

section Table

variable {t : Transfers} {o : UnderWay} {id : UInt64}

/-- The table of a device holds its transfers under way, and no others. -/
def Holds (t : Transfers) (o : UnderWay) (id : UInt64) : Prop :=
  ∀ key : TransferKey, t.inflight[key]? = (o (id, key)).map Recorded.pending

theorem call_submission (t : Transfers) (r : Recorded) :
    t.call (Stage.submission r).call =
      ({ t with inflight := t.inflight.insert r.key r.pending }, none) := by
  unfold Stage.call Recorded.key Recorded.pending
  dsimp only
  cases r.transfer.control with
  | true => rfl
  | false =>
    simp only [Bool.false_eq_true, if_false, Transfers.call, Transfers.beginBulk]
    unfold Transfer.outData usbEndpointOut
    cases usbEndpointIn r.transfer.endpoint <;> rfl

/-- A completion hands on the transfer that was submitted. -/
theorem call_completion {r : Recorded} (hown : t.inflight[r.key]? = some r.pending) :
    t.call (Stage.completion r).call =
      ({ t with inflight := t.inflight.erase r.key }, some r.transfer.dispatched) := by
  unfold Stage.call Transfer.dispatched
  dsimp only
  cases hcontrol : r.transfer.control with
  | true =>
    have hkey : r.key = (usbEndpointId r.transfer.endpoint, r.id) := by
      rw [Recorded.key, hcontrol, if_pos rfl]
    have hpending : r.pending = ⟨true, r.transfer.setup, r.transfer.outData⟩ := by
      rw [Recorded.pending, hcontrol, if_pos rfl]
    rw [hkey, hpending] at hown
    simp only [if_true, Transfers.call, Transfers.endControl, hown, Bool.true_eq_false, if_false,
      hkey]
  | false =>
    have hkey : r.key = (r.transfer.endpoint, r.id) := by
      rw [Recorded.key, hcontrol, if_neg Bool.false_ne_true]
    have hpending : r.pending = { data := r.transfer.outData } := by
      rw [Recorded.pending, hcontrol, if_neg Bool.false_ne_true]
    rw [hkey, hpending] at hown
    simp only [Bool.false_eq_true, if_false, Transfers.call, Transfers.endBulk, hown,
      Option.isSome_some, if_true, Option.getD_some, hkey]
    unfold Transfer.outData Transfer.inData
    cases hin : usbEndpointIn r.transfer.endpoint with
    | true => simp
    | false =>
      by_cases hdata : r.transfer.data = []
      · simp [hdata]
      · simp [hdata]

theorem Holds.submission (hholds : Holds t o id) {r : Recorded} (hid : r.deviceId = id) :
    Holds { t with inflight := t.inflight.insert r.key r.pending }
      (Function.update o r.slot (some r)) id := by
  intro key
  by_cases hkey : key = r.key
  · rw [hkey, Std.ExtTreeMap.getElem?_insert_self, ← hid]
    show _ = (Function.update o r.slot (some r) r.slot).map _
    rw [Function.update_self, Option.map_some]
  · have hslot : (id, key) ≠ r.slot := fun h => hkey (Prod.mk.inj h).2
    rw [Maps.getElem?_insert_ne hkey, Function.update_of_ne hslot]
    exact hholds key

theorem Holds.completion (hholds : Holds t o id) {r : Recorded} (hid : r.deviceId = id) :
    Holds { t with inflight := t.inflight.erase r.key } (Function.update o r.slot none) id := by
  intro key
  by_cases hkey : key = r.key
  · rw [hkey, Std.ExtTreeMap.getElem?_erase_self, ← hid]
    show _ = (Function.update o r.slot none r.slot).map _
    rw [Function.update_self, Option.map_none]
  · have hslot : (id, key) ≠ r.slot := fun h => hkey (Prod.mk.inj h).2
    rw [Maps.getElem?_erase_ne hkey, Function.update_of_ne hslot]
    exact hholds key

/-- The transfers of other devices are in other slots. -/
theorem Holds.other (hholds : Holds t o id) {s : Stage} (hid : s.recorded.deviceId ≠ id) :
    Holds t (next o s) id := by
  have hslot : ∀ key, (id, key) ≠ s.recorded.slot := fun key h => hid (Prod.mk.inj h).1.symm
  intro key
  rw [hholds key]
  cases s with
  | submission r => exact congrArg _ (Function.update_of_ne (hslot key) _ _).symm
  | completion r => exact congrArg _ (Function.update_of_ne (hslot key) _ _).symm

/-- **Step lemma.** -/
theorem Holds.stage (hholds : Holds t o id) {s : Stage} (hallows : Allows o s)
    (hid : s.recorded.deviceId = id) :
    Holds (t.call s.call).1 (next o s) id ∧
      (t.call s.call).2 = (s.completes id).map Transfer.dispatched ∧
      (t.call s.call).1.unmatched = t.unmatched := by
  cases s with
  | submission r =>
    rw [call_submission]
    exact ⟨hholds.submission hid, rfl, rfl⟩
  | completion r =>
    have hid : r.deviceId = id := hid
    have hown : t.inflight[r.key]? = some r.pending := by
      have hslot : o (id, r.key) = some r := by
        rw [← hid]
        exact hallows
      rw [hholds r.key, hslot, Option.map_some]
    rw [call_completion hown]
    refine ⟨hholds.completion hid, ?_, rfl⟩
    rw [Stage.completes, if_pos hid, Option.map_some]

/-- **Run lemma.** The calls on the handle of a device hand on its transfers in the order of
their completion, and none of them is unmatched. -/
theorem Holds.recording (hholds : Holds t o id) {stages : List Stage}
    (horderly : Orderly o stages) :
    (t.run (stages.filterMap (Stage.callOn id))).2 =
        (transcriptOn id stages).map Transfer.dispatched ∧
      (t.run (stages.filterMap (Stage.callOn id))).1.unmatched = t.unmatched := by
  induction stages generalizing t o with
  | nil => exact ⟨rfl, rfl⟩
  | cons s stages ih =>
    obtain ⟨hallows, horderly⟩ := horderly
    rw [List.filterMap_cons, transcriptOn, List.filterMap_cons, Stage.callOn]
    by_cases hid : s.recorded.deviceId = id
    · rw [if_pos hid]
      obtain ⟨hkept, hhanded, hunmatched⟩ := hholds.stage hallows hid
      obtain ⟨hrest, hcounted⟩ := ih hkept horderly
      dsimp only
      rw [Transfers.run]
      refine ⟨?_, hcounted.trans hunmatched⟩
      dsimp only
      rw [hhanded, hrest]
      cases s.completes id <;> rfl
    · rw [if_neg hid]
      have hnone : s.completes id = none := by
        cases s with
        | submission r => rfl
        | completion r => exact if_neg hid
      rw [hnone]
      exact ih (hholds.other hid) horderly

end Table

/-! ## Devices -/

/-- The devices of a recording. -/
def devicesOf {π : Type} [Libplist π] (stages : List Stage) : List (Device π) :=
  (deviceIds stages).flatMap fun id => sessionsOn id (transcriptOn id stages)

/-- **Recordings.** Whatever transfers are under way at the same time, on whatever devices and in
whatever layouts, every device is handed its own transfers, each one whole, in the order of their
completion; a transfer that is not complete leaves no trace, and no completion is without its
submission. -/
theorem devices_of_recording {π : Type} [Libplist π] {stages : List Stage}
    (horderly : Orderly (fun _ => none) stages) (hfits : ∀ s ∈ stages, s.recorded.transfer.Fits) :
    (InputFile.ofPackets (stages.map Stage.captured) : InputFile π).getDevices = devicesOf stages ∧
      ∀ id ∈ deviceIds stages,
        ((InputFile.ofPackets (stages.map Stage.captured) : InputFile π).devices.entries[id]?).map
          (·.transfers.unmatched) = some 0 := by
  have hempty : ∀ id, Holds {} (fun _ => none) id := fun id key => Std.ExtTreeMap.getElem?_empty
  have hentries : ∀ id ∈ deviceIds stages,
      (InputFile.ofPackets (stages.map Stage.captured) : InputFile π).devices.entries[id]? =
        some ((stages.filterMap (Stage.callOn id)).foldl DeviceHandle.call { id := id }) := by
    intro id hid
    rw [InputFile.entries_ofPackets, addresses_captured hfits, if_pos hid, callsAt_captured hfits]
  constructor
  · rw [InputFile.getDevices, InputFile.order_ofPackets, addresses_captured hfits, devicesOf]
    apply List.flatMap_congr
    intro id hid
    rw [hentries id hid, DeviceHandle.foldl_call, ((hempty id).recording horderly).1]
    rfl
  · intro id hid
    rw [hentries id hid, DeviceHandle.foldl_call, Option.map_some]
    exact congrArg some ((hempty id).recording horderly).2

/-! ## Files -/

/-- A file of one of the containers with these packets. -/
inductive IsFileOf (packets : List Captured) : Bytes → Prop where
  | pcap (file : PcapInputFile.PcapFile) (hpackets : file.packets = packets) :
    IsFileOf packets file.encode
  | pcapng (file : PcapNGInputFile.PcapNGFile) (hblocks : file.blocks ≠ [])
      (hpackets : file.packets = packets) : IsFileOf packets file.encode

theorem packetCalls_packets (packets : List Captured) :
    packetCalls (packets.map fun p => .packet p.1 p.2) = packets := by
  rw [packetCalls, List.filterMap_map]
  exact List.filterMap_some

/-- The reader that is chosen hands on the packets and nothing else. -/
theorem IsFileOf.events {packets : List Captured} {data : Bytes} (hfile : IsFileOf packets data) :
    ∃ reader, chosen data = some reader ∧
      reader.events data = (packets.map fun p => .packet p.1 p.2, none) := by
  cases hfile with
  | pcap file hpackets =>
    refine ⟨.pcap, PcapInputFile.chosen_encode file, ?_⟩
    rw [← hpackets]
    exact PcapInputFile.parseEvents_encode file
  | pcapng file hblocks hpackets =>
    refine ⟨.pcapng, PcapNGInputFile.chosen_encode hblocks, ?_⟩
    rw [← hpackets]
    exact PcapNGInputFile.parseLoop_encode file

end DemuxUsb.Fixture
