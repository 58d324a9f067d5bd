import Mathlib.Data.List.Induction
import DemuxUsb.File.RejectedPackets
import DemuxUsb.File.SessionStability
import DemuxUsb.Library.Places
import DemuxUsb.Usb.Routing

/-!
# What the devices of a capture are made of

A capture is a sequence of packets, each with its own link type. Every packet that is decoded
is one call on the handle of its address at most, and every transfer that a handle hands on
goes to its current session. So the devices of a capture are runs over the pieces of a
sequence of transfers, one sequence for each address.

* `DeviceHandle.sessions_run`: the sessions of a handle are what consecutive pieces of its
  transfers make of new devices;
* `InputFile.devices_eq_runs`: so are all the devices of a capture, for each address in the
  order of registration.
-/

namespace DemuxUsb

variable {π : Type} [Libplist π]

/-! ## The sessions of one address -/

namespace DeviceHandle

/-- A new device that was handed some transfers. -/
def sessionOf (id : UInt64) (transfers : List Dispatch) : Device π :=
  (Device.new id).run (transfers.map Dispatch.packet)

theorem sessionOf_concat (id : UInt64) (transfers : List Dispatch) (d : Dispatch) :
    (sessionOf id (transfers ++ [d]) : Device π) = (sessionOf id transfers).process d.packet := by
  rw [sessionOf, List.map_append, List.map_singleton, Device.run_concat]
  rfl

/-- The transfer opens a session behind the session `session`. -/
def OpensBehind (session : Device π) : Dispatch → Prop
  | .control _ setup data =>
    ({ id := session.device, device := session } : DeviceHandle π).OpensSession setup data
  | .bulkIn _ _ => False
  | .bulkOut _ _ => False

omit [Libplist π] in
theorem sessionFor_of_opens {h : DeviceHandle π} {d : Dispatch} (hopens : OpensBehind h.device d) :
    h.sessionFor d = h.pushSession := by
  cases d with
  | control endpoint setup data => exact if_pos hopens
  | bulkIn endpoint data => exact hopens.elim
  | bulkOut endpoint data => exact hopens.elim

omit [Libplist π] in
theorem sessionFor_of_not_opens {h : DeviceHandle π} {d : Dispatch}
    (hkept : ¬ OpensBehind h.device d) : h.sessionFor d = h := by
  cases d with
  | control endpoint setup data => exact if_neg hkept
  | bulkIn endpoint data => rfl
  | bulkOut endpoint data => rfl

omit [Libplist π] in
/-- A session without a descriptor is not followed by another one. -/
theorem not_opensBehind_of_new {session : Device π} (h : session.hasDeviceDescriptor = false)
    (d : Dispatch) : ¬ OpensBehind session d := by
  intro hopens
  cases d with
  | control endpoint setup data => exact absurd (h.symm.trans hopens.2.2.1) Bool.false_ne_true
  | bulkIn endpoint data => exact hopens
  | bulkOut endpoint data => exact hopens

/-- The transfers of an address, cut where a session is opened: each piece but the first
begins with a transfer that opens a session behind the one before it, and no other transfer
does. -/
structure Sessions (id : UInt64) (transfers : List Dispatch) (pieces : List (List Dispatch)) :
    Prop where
  transfers : pieces.flatten = transfers
  cut : pieces.IsChain fun piece next =>
    ∃ d rest, next = d :: rest ∧ OpensBehind (sessionOf id piece : Device π) d
  whole : ∀ piece ∈ pieces, ∀ before d after, piece = before ++ d :: after →
    ¬ OpensBehind (sessionOf id before : Device π) d

section Pieces

variable {id : UInt64} {transfers : List Dispatch} {earlier : List (List Dispatch)}
  {last : List Dispatch} {d : Dispatch}

theorem sessions_nil (id : UInt64) : Sessions (π := π) id [] [[]] := by
  refine ⟨rfl, List.isChain_singleton _, ?_⟩
  intro piece hpiece before d after hsplit
  rw [List.mem_singleton.mp hpiece] at hsplit
  exact absurd hsplit.symm (List.append_ne_nil_of_right_ne_nil _ (List.cons_ne_nil _ _))

/-- A transfer that opens a session starts a piece. -/
theorem Sessions.open (h : Sessions (π := π) id transfers (earlier ++ [last]))
    (hopens : OpensBehind (sessionOf id last : Device π) d) :
    Sessions (π := π) id (transfers ++ [d]) ((earlier ++ [last]) ++ [[d]]) := by
  refine ⟨?_, ?_, ?_⟩
  · rw [List.flatten_concat, h.transfers]
  · rw [List.isChain_append]
    refine ⟨h.cut, List.isChain_singleton _, ?_⟩
    intro piece hpiece next hnext
    rw [List.getLast?_concat, Option.mem_some_iff] at hpiece
    rw [List.head?_cons, Option.mem_some_iff] at hnext
    rw [← hpiece, ← hnext]
    exact ⟨d, [], rfl, hopens⟩
  · intro piece hpiece before d' after hsplit
    rcases List.mem_append.mp hpiece with hpiece | hpiece
    · exact h.whole piece hpiece before d' after hsplit
    · rw [List.mem_singleton.mp hpiece] at hsplit
      rcases List.append_eq_singleton_iff.mp hsplit.symm with ⟨rfl, -⟩ | ⟨-, hnil⟩
      · exact not_opensBehind_of_new rfl d'
      · exact absurd hnil (List.cons_ne_nil _ _)

/-- Any other transfer belongs to the last one. -/
theorem Sessions.extend (h : Sessions (π := π) id transfers (earlier ++ [last]))
    (hkept : ¬ OpensBehind (sessionOf id last : Device π) d) :
    Sessions (π := π) id (transfers ++ [d]) (earlier ++ [last ++ [d]]) := by
  refine ⟨?_, ?_, ?_⟩
  · rw [← h.transfers, List.flatten_concat, List.flatten_concat, List.append_assoc]
  · have hcut := h.cut
    rw [List.isChain_append] at hcut ⊢
    refine ⟨hcut.1, List.isChain_singleton _, ?_⟩
    intro piece hpiece next hnext
    obtain ⟨first, rest, rfl, hopens⟩ := hcut.2.2 piece hpiece last rfl
    rw [List.head?_cons, Option.mem_some_iff] at hnext
    exact ⟨first, rest ++ [d], hnext.symm, hopens⟩
  · intro piece hpiece before d' after hsplit
    rcases List.mem_append.mp hpiece with hpiece | hpiece
    · exact h.whole piece (List.mem_append_left _ hpiece) before d' after hsplit
    · rw [List.mem_singleton.mp hpiece] at hsplit
      rcases List.eq_nil_or_concat after with rfl | ⟨front, x, rfl⟩
      · obtain ⟨rfl, hd⟩ := List.append_inj' hsplit rfl
        obtain rfl := List.singleton_inj.mp hd
        exact hkept
      · rw [List.concat_eq_append, ← List.cons_append, ← List.append_assoc] at hsplit
        obtain ⟨hlast, -⟩ := List.append_inj' hsplit rfl
        exact h.whole last (List.mem_append_right _ (List.mem_singleton_self last)) before d' front
          hlast

end Pieces

/-- The sessions of a handle are those of the pieces of its transfers. -/
structure HoldsSessions (h : DeviceHandle π) (id : UInt64) (transfers : List Dispatch)
    (earlier : List (List Dispatch)) (last : List Dispatch) : Prop where
  address : h.id = id
  pieces : Sessions (π := π) id transfers (earlier ++ [last])
  earlier : h.earlier = earlier.map (sessionOf id)
  device : h.device = sessionOf id last

theorem HoldsSessions.devices {h : DeviceHandle π} {id : UInt64} {transfers : List Dispatch}
    {earlier : List (List Dispatch)} {last : List Dispatch}
    (hholds : h.HoldsSessions id transfers earlier last) :
    h.devices = (earlier ++ [last]).map (sessionOf id) := by
  rw [DeviceHandle.devices, hholds.earlier, hholds.device, List.map_append, List.map_singleton]

/-- **Step lemma.** -/
theorem HoldsSessions.dispatch {h : DeviceHandle π} {id : UInt64} {transfers : List Dispatch}
    {earlier : List (List Dispatch)} {last : List Dispatch}
    (hholds : h.HoldsSessions id transfers earlier last) (d : Dispatch) :
    ∃ earlier' last', (h.dispatch d).HoldsSessions id (transfers ++ [d]) earlier' last' := by
  rw [dispatch_eq]
  by_cases hopens : OpensBehind h.device d
  · rw [sessionFor_of_opens hopens]
    rw [hholds.device] at hopens
    refine ⟨earlier ++ [last], [d], hholds.address, hholds.pieces.open hopens, hholds.devices, ?_⟩
    show ({ device := h.id } : Device π).process d.packet = _
    rw [hholds.address]
    rfl
  · rw [sessionFor_of_not_opens hopens]
    rw [hholds.device] at hopens
    refine ⟨earlier, last ++ [d], hholds.address, hholds.pieces.extend hopens, hholds.earlier, ?_⟩
    show h.device.process d.packet = _
    rw [hholds.device, sessionOf_concat]

/-- **Run lemma.** No transfer is lost or handed on twice between a handle and its sessions. -/
theorem sessions_run (id : UInt64) (calls : List Call) :
    ∃ pieces, Sessions (π := π) id (({} : Transfers).run calls).2 pieces ∧
      (calls.foldl call ({ id := id } : DeviceHandle π)).devices = pieces.map (sessionOf id) := by
  have hrun : ∀ transfers : List Dispatch, ∃ earlier last,
      (transfers.foldl dispatch ({ id := id } : DeviceHandle π)).HoldsSessions id transfers
        earlier last := by
    intro transfers
    induction transfers using List.reverseRecOn with
    | nil => exact ⟨[], [], rfl, sessions_nil id, rfl, rfl⟩
    | append_singleton transfers d ih =>
      obtain ⟨earlier, last, hholds⟩ := ih
      rw [List.foldl_concat]
      exact hholds.dispatch d
  obtain ⟨earlier, last, hholds⟩ := hrun (({} : Transfers).run calls).2
  refine ⟨earlier ++ [last], hholds.pieces, ?_⟩
  rw [foldl_call]
  exact hholds.devices

end DeviceHandle

/-! ## Captures -/

/-- The call that a decoder asks for, with the identifier of its handle. -/
def Decoded.call? : Decoded → Option (UInt64 × Call)
  | .rejected _ => none
  | .rejectedAt _ _ => none
  | .accepted address c => c.map (address, ·)

theorem Decoded.registers_of_call? {d : Decoded} {id : UInt64} {c : Call}
    (h : d.call? = some (id, c)) : d.registers = some id := by
  cases d with
  | rejected warning => cases h
  | rejectedAt address warning => cases h
  | accepted address called =>
    obtain ⟨c', -, heq⟩ := Option.map_eq_some_iff.mp h
    exact congrArg some (Prod.mk.inj heq).1

/-- A captured packet, with the link type of its interface. -/
abbrev Captured := UInt32 × Bytes

namespace Captured

/-- What the decoder of its link type makes of a packet, if there is one. -/
def decoded (p : Captured) : Option Decoded := (LinkType.ofCode p.1).map (·.decode p.2)

/-- The identifier of the handle that is looked up. -/
def registers (p : Captured) : Option UInt64 := p.decoded.bind Decoded.registers

/-- The call that is made. -/
def call? (p : Captured) : Option (UInt64 × Call) := p.decoded.bind Decoded.call?

/-- The call on the handle of an address. -/
def callAt (id : UInt64) (p : Captured) : Option Call :=
  p.call?.bind fun called => if called.1 = id then some called.2 else none

theorem registers_of_callAt {p : Captured} {id : UInt64} {c : Call} (h : p.callAt id = some c) :
    p.registers = some id := by
  obtain ⟨⟨address, c'⟩, hcall, howner⟩ := Option.bind_eq_some_iff.mp h
  obtain ⟨rfl, -⟩ := Option.ite_none_right_eq_some.mp howner
  obtain ⟨d, hdecoded, hd⟩ := Option.bind_eq_some_iff.mp hcall
  exact Option.bind_eq_some_iff.mpr ⟨d, hdecoded, Decoded.registers_of_call? hd⟩

end Captured

/-- The calls on the handle of an address, in order. -/
def callsAt (id : UInt64) (packets : List Captured) : List Call :=
  packets.filterMap (Captured.callAt id)

/-- The addresses of a capture in the order of registration. -/
def addresses (packets : List Captured) : List UInt64 :=
  (packets.filterMap Captured.registers).eraseDups

/-- An address that was never looked up has had no calls. -/
theorem callsAt_eq_nil {id : UInt64} {packets : List Captured} (h : id ∉ addresses packets) :
    callsAt id packets = [] := by
  apply List.filterMap_eq_nil_iff.mpr
  intro p hp
  apply Option.eq_none_iff_forall_ne_some.mpr
  intro c hcall
  have hmem := List.mem_filterMap.mpr ⟨p, hp, Captured.registers_of_callAt hcall⟩
  exact h (List.mem_eraseDups.mpr hmem)

theorem mem_addresses_concat {id : UInt64} {packets : List Captured} {p : Captured} :
    id ∈ addresses (packets ++ [p]) ↔ id ∈ addresses packets ∨ p.registers = some id := by
  unfold addresses
  rw [List.mem_eraseDups, List.mem_eraseDups, Places.filterMap_concat, List.mem_append,
    Option.mem_toList]

namespace InputFile

/-- A capture that nothing was read of yet. -/
def new : InputFile π := {}

/-- The capture after some packets. -/
def ofPackets (packets : List Captured) : InputFile π :=
  packets.foldl (fun f p => (f.processPacket p.1 p.2).1) new

theorem ofPackets_concat (packets : List Captured) (p : Captured) :
    (ofPackets (packets ++ [p]) : InputFile π) =
      ((ofPackets packets : InputFile π).processPacket p.1 p.2).1 := List.foldl_concat _ _ _ _

section Packet

variable (f : InputFile π) {p : Captured} {id : UInt64}

theorem devices_of_no_decoder (h : p.decoded = none) :
    (f.processPacket p.1 p.2).1.devices = f.devices :=
  (f.keepsDevices_of_ofCode_none (Option.map_eq_none_iff.mp h) p.2).devices

theorem processPacket_of_decoded {d : Decoded} (h : p.decoded = some d) :
    f.processPacket p.1 p.2 = accept { f with packetCount := f.packetCount + 1 } d := by
  obtain ⟨l, hl, rfl⟩ := Option.map_eq_some_iff.mp h
  have hfound := List.find?_some hl
  have hcode : l.code = p.1 := of_decide_eq_true hfound
  rw [← hcode, processPacket_code]

theorem devices_of_decoded {d : Decoded} (h : p.decoded = some d) :
    (f.processPacket p.1 p.2).1.devices = (f.accept d).1.devices := by
  rw [f.processPacket_of_decoded h]
  cases d with
  | rejected warning => rfl
  | rejectedAt address warning => rfl
  | accepted address c => cases c <;> rfl

/-- The handle that a packet looks up gets its call. -/
theorem entry_of_registers (h : p.registers = some id) :
    (f.processPacket p.1 p.2).1.devices.entries[id]? =
      some ((p.callAt id).toList.foldl DeviceHandle.call
        (f.devices.entries[id]?.getD { id := id })) := by
  obtain ⟨d, hdecoded, hregisters⟩ := Option.bind_eq_some_iff.mp h
  rw [f.devices_of_decoded hdecoded, accept_own _ hregisters, Captured.callAt, Captured.call?,
    hdecoded]
  cases d with
  | rejected warning => cases hregisters
  | rejectedAt address warning => rfl
  | accepted address c =>
    obtain rfl := Option.some.inj hregisters
    cases c with
    | none => rfl
    | some c =>
      rw [Option.bind_some, Decoded.call?, Option.map_some, Option.bind_some, if_pos rfl]
      rfl

/-- Every other handle stays as it is. -/
theorem entry_of_not_registers (h : p.registers ≠ some id) :
    (f.processPacket p.1 p.2).1.devices.entries[id]? = f.devices.entries[id]? := by
  cases hdecoded : p.decoded with
  | none => rw [f.devices_of_no_decoder hdecoded]
  | some d =>
    rw [f.devices_of_decoded hdecoded]
    apply accept_other
    rw [Captured.registers, hdecoded] at h
    exact h

end Packet

theorem order_ofPackets (packets : List Captured) :
    (ofPackets packets : InputFile π).devices.order = addresses packets := by
  induction packets using List.reverseRecOn with
  | nil => rfl
  | append_singleton packets p ih =>
    rw [ofPackets_concat, addresses, Places.filterMap_concat, Captured.registers]
    cases hdecoded : p.decoded with
    | none =>
      rw [devices_of_no_decoder _ hdecoded, Option.bind_none, Option.toList_none, List.append_nil]
      exact ih
    | some d =>
      rw [devices_of_decoded _ hdecoded]
      exact order_accept ih d

/-- **Run lemma.** Every address has the handle that its own calls make of a new one. -/
theorem entries_ofPackets (packets : List Captured) (id : UInt64) :
    (ofPackets packets : InputFile π).devices.entries[id]? =
      if id ∈ addresses packets then
        some ((callsAt id packets).foldl DeviceHandle.call { id := id })
      else none := by
  induction packets using List.reverseRecOn with
  | nil => exact Std.ExtTreeMap.getElem?_empty
  | append_singleton packets p ih =>
    rw [ofPackets_concat]
    by_cases hown : p.registers = some id
    · have hold : (ofPackets packets : InputFile π).devices.entries[id]?.getD { id := id } =
          (callsAt id packets).foldl DeviceHandle.call { id := id } := by
        rw [ih]
        split
        · rfl
        · next hnew => rw [callsAt_eq_nil hnew]; rfl
      rw [entry_of_registers _ hown, hold, if_pos (mem_addresses_concat.mpr (Or.inr hown)),
        callsAt, callsAt, Places.filterMap_concat, List.foldl_append]
    · have hcall : p.callAt id = none := by
        apply Option.eq_none_iff_forall_ne_some.mpr
        intro c hcall
        exact hown (Captured.registers_of_callAt hcall)
      rw [entry_of_not_registers _ hown, ih, callsAt, callsAt, Places.filterMap_concat, hcall,
        Option.toList_none, List.append_nil]
      simp only [mem_addresses_concat, hown, or_false]

theorem getDevices_ofPackets {packets : List Captured} {pieces : UInt64 → List (List Dispatch)}
    (hdevices : ∀ id, ((callsAt id packets).foldl DeviceHandle.call
      ({ id := id } : DeviceHandle π)).devices = (pieces id).map (DeviceHandle.sessionOf id)) :
    (ofPackets packets : InputFile π).getDevices =
      (addresses packets).flatMap fun id => (pieces id).map (DeviceHandle.sessionOf id) := by
  rw [getDevices, order_ofPackets, List.flatMap, List.flatMap]
  apply congrArg List.flatten
  apply List.map_congr_left
  intro id hid
  rw [entries_ofPackets, if_pos hid]
  exact hdevices id

/-- The devices of a capture, whatever the order in which the packets of its addresses come
and whatever their link types: for each address in the order of registration, the pieces of
the transfers that its calls hand on, each of which a device of its own was handed. -/
theorem devices_eq_runs (packets : List Captured) :
    ∃ pieces : UInt64 → List (List Dispatch),
      (∀ id, DeviceHandle.Sessions (π := π) id (({} : Transfers).run (callsAt id packets)).2
        (pieces id)) ∧
      (ofPackets packets : InputFile π).getDevices =
        (addresses packets).flatMap fun id => (pieces id).map (DeviceHandle.sessionOf id) := by
  choose pieces hpieces hdevices using fun id =>
    DeviceHandle.sessions_run (π := π) id (callsAt id packets)
  exact ⟨pieces, hpieces, getDevices_ofPackets hdevices⟩

end InputFile

end DemuxUsb
