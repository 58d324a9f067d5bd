import DemuxUsb.File.DeviceIsolation
import DemuxUsb.File.Sessions
import DemuxUsb.File.SessionStability
import DemuxUsb.Test.CaptureBuilder
import DemuxUsb.Usb.ByteConservation
import DemuxUsb.Usb.Extraction

/-!
# Failed control OUT transfers

A usbmon completion says in its status that a transfer failed. `FailedOut` is the
completion of a control OUT transfer in flight that does, `NoEffect` what is expected of
it: the transfer is dropped, and nothing that a request can change is changed.

* `Device.settings_processControlPacketOut_iff`: which requests change nothing.
* `failed_no_effect_iff`: an error event always meets the expectation, a failed completion
  event only where the request would have changed nothing anyway.
-/

namespace DemuxUsb

variable {π : Type}

/-! ## What a request can change -/

/-- An expert that is handed a request counts it, so it is never the same. -/
theorem Expert.processControlOut_ne [Libplist π] (e : Expert π) (setup : UsbSetup) (data : Bytes) :
    e.processControlOut setup data ≠ e := by
  intro heq
  have hbase := e.base_receive (.controlOut setup data)
  rw [Expert.receive, heq] at hbase
  have hcount : e.base.controlPackets = e.base.controlPackets + 1 :=
    congrArg InterfaceExpert.controlPackets hbase
  exact absurd (UInt32.left_eq_add.mp hcount) (by decide)

namespace Device

/-- The selected configuration, the alternate settings and the experts. -/
def settings (d : Device π) : UInt8 × Std.ExtTreeMap UInt8 UInt8 × List (Expert π) :=
  (d.currentConfiguration, d.alternates, d.experts)

/-- An OUT request finds nothing to change: it is not addressed to endpoint 0, selects what
is selected, or has no expert. -/
def Inert (d : Device π) (endpoint : UInt8) (setup : UsbSetup) : Prop :=
  usbEndpointId endpoint ≠ 0 ∨
    if setup.bmRequestType &&& usbTypeMask = usbTypeStandard then
      if setup.bmRequestType &&& usbRecipMask = usbRecipDevice ∧
          setup.bRequest = usbReqSetConfiguration then
        d.currentConfiguration = (setup.wValue &&& 0xFF).toUInt8 ∧ d.alternates = ∅
      else if setup.bmRequestType &&& usbRecipMask = usbRecipInterface ∧
          setup.bRequest = usbReqSetInterface then
        d.alternates[(setup.wIndex &&& 0xFF).toUInt8]? = some (setup.wValue &&& 0xFF).toUInt8
      else True
    else d.getExpertForControl setup = none

/-- An expert that a request is routed to exists. -/
theorem Attached.lt_of_getExpertForControl {d : Device π} (hattached : d.Attached)
    {setup : UsbSetup} {i : Nat} (hi : d.getExpertForControl setup = some i) :
    i < d.experts.length := by
  obtain ⟨value, config, hconfig, entry, hentry, hn⟩ :=
    mem_getExperts.mp (getExpertForControl_mem hi)
  obtain ⟨x, hx, -⟩ := (hattached value config hconfig).made entry hentry i hn
  have hlt := (List.getElem?_eq_some_iff.mp hx).1
  rwa [List.length_map] at hlt

variable [Libplist π]

/-- A request leaves a device as it was if and only if it finds nothing to change. -/
theorem settings_processControlPacketOut_iff {d : Device π} (hattached : d.Attached)
    (endpoint : UInt8) (setup : UsbSetup) (data : Bytes) :
    (d.processControlPacketOut endpoint setup data).settings = d.settings ↔
      d.Inert endpoint setup := by
  unfold processControlPacketOut Inert settings
  dsimp only
  by_cases hendpoint : usbEndpointId endpoint ≠ 0
  · rw [if_pos hendpoint]
    exact iff_of_true rfl (Or.inl hendpoint)
  rw [if_neg hendpoint, or_iff_right hendpoint]
  by_cases hstandard : setup.bmRequestType &&& usbTypeMask = usbTypeStandard
  · rw [if_pos hstandard, if_pos hstandard]
    split
    · rw [Prod.mk.injEq, Prod.mk.injEq, and_iff_left rfl]
      exact and_congr eq_comm eq_comm
    split
    · rw [Prod.mk.injEq, Prod.mk.injEq, and_iff_left rfl, and_iff_right rfl]
      constructor
      · intro heq
        rw [← heq]
        exact Std.ExtTreeMap.getElem?_insert_self
      · exact fun hsame => Maps.insert_eq_self hsame
    · exact iff_of_true rfl trivial
  · rw [if_neg hstandard, if_neg hstandard]
    have hroute : SameRouting d { d with
        controlPacketCount := d.controlPacketCount + 1
        controlByteCount := d.controlByteCount + UInt64.ofNat data.length } := ⟨rfl, rfl, rfl⟩
    rw [hroute.getExpertForControl]
    cases hexpert : d.getExpertForControl setup with
    | none => exact iff_of_true rfl rfl
    | some i =>
      refine iff_of_false ?_ (Option.some_ne_none i)
      intro heq
      have hlt := hattached.lt_of_getExpertForControl hexpert
      have hexperts : d.experts.modify i (Expert.processControlOut setup data) = d.experts :=
        congrArg (fun s => s.2.2) heq
      have hget := congrArg (fun experts => experts[i]?) hexperts
      rw [List.getElem?_modify_eq, List.getElem?_eq_getElem hlt] at hget
      exact Expert.processControlOut_ne _ setup data (Option.some.inj hget)

end Device

/-! ## The handle -/

namespace DeviceHandle

variable [Libplist π]

/-- The experts of every session are attached as they should be. -/
def Attached (h : DeviceHandle π) : Prop := ∀ d ∈ h.devices, d.Attached

theorem attached_new (id : UInt64) : ({ id := id } : DeviceHandle π).Attached := by
  intro d hd
  obtain rfl := List.mem_singleton.mp hd
  exact Device.attached_run id []

theorem Attached.dispatch {h : DeviceHandle π} (hattached : h.Attached) (d : Dispatch) :
    (h.dispatch d).Attached := by
  have hsession : (h.sessionFor d).Attached := by
    cases d with
    | control endpoint setup data =>
      rw [sessionFor]
      split
      · intro d hd
        rcases List.mem_append.mp hd with hearlier | hnew
        · exact hattached d hearlier
        · exact attached_new h.id d hnew
      · exact hattached
    | bulkIn endpoint data => exact hattached
    | bulkOut endpoint data => exact hattached
  rw [dispatch_eq]
  intro d' hd'
  rcases List.mem_append.mp hd' with hearlier | hcurrent
  · exact hsession d' (List.mem_append_left _ hearlier)
  · obtain rfl := List.mem_singleton.mp hcurrent
    exact Device.Attached.process (hsession _ (List.mem_append_right _ List.mem_cons_self)) _

theorem Attached.call {h : DeviceHandle π} (hattached : h.Attached) (c : Call) :
    (h.call c).Attached := by
  rw [call_eq]
  cases (h.transfers.call c).2 with
  | none => exact hattached
  | some d => exact hattached.dispatch d

/-- The sessions after the completion of a control OUT transfer. -/
theorem call_endControl {h : DeviceHandle π} {endpoint : UInt8} {id : UInt64} {pending : Pending}
    (hinflight :
      h.transfers.inflight[((usbEndpointId endpoint, id) : TransferKey)]? = some pending)
    (hcontrol : pending.control = true) (hout : pending.setup.isIn = false) (data : Bytes) :
    (h.call (.endControl endpoint id data)).devices = h.earlier ++
        [h.device.processControlPacketOut (usbEndpointId endpoint) pending.setup
          (Transfers.controlPayload pending data)] ∧
      (h.call (.endControl endpoint id data)).transfers.inflight =
        h.transfers.inflight.erase (usbEndpointId endpoint, id) := by
  have hcall : h.transfers.call (.endControl endpoint id data) =
      ({ h.transfers with
          inflight := h.transfers.inflight.erase (usbEndpointId endpoint, id) },
        some (.control (usbEndpointId endpoint) pending.setup
          (Transfers.controlPayload pending data))) := by
    simp only [Transfers.call, Transfers.endControl, hinflight, hcontrol, Bool.true_eq_false,
      if_false]
  have hopens : ¬h.OpensSession pending.setup (Transfers.controlPayload pending data) := by
    intro hopens
    rw [isIn_of_read hopens.1] at hout
    cases hout
  have hdispatch : h.dispatch (.control (usbEndpointId endpoint) pending.setup
      (Transfers.controlPayload pending data)) = { h with
        device := h.device.processControlPacketOut (usbEndpointId endpoint) pending.setup
          (Transfers.controlPayload pending data) } := by
    rw [dispatch, dispatchControl, if_neg hopens]
    exact if_neg (ne_true_of_eq_false hout)
  rw [call_eq, hcall]
  dsimp only [Option.toList_some, List.foldl_cons, List.foldl_nil]
  rw [hdispatch]
  exact ⟨rfl, rfl⟩

end DeviceHandle

/-! ## Captures -/

namespace InputFile

variable [Libplist π]

/-- The packets of a capture, each with its link type. -/
def processCapture (f : InputFile π) (packets : List (LinkType × Bytes)) : InputFile π :=
  packets.foldl (fun f p => (f.processPacket p.1.code p.2).1) f

/-- **Run lemma.** -/
theorem attached_processCapture (packets : List (LinkType × Bytes)) {f : InputFile π}
    (hf : ∀ (id : UInt64) (h : DeviceHandle π), f.devices.entries[id]? = some h → h.Attached)
    (id : UInt64) (h : DeviceHandle π)
    (hh : (f.processCapture packets).devices.entries[id]? = some h) : h.Attached := by
  induction packets generalizing f with
  | nil => exact hf id h hh
  | cons p packets ih =>
    refine ih (f := (f.processPacket p.1.code p.2).1) ?_ hh
    intro id h hh
    rw [processPacket_code] at hh
    by_cases hregisters : (p.1.decode p.2).registers = some id
    · rw [accept_own _ hregisters] at hh
      have hold : ((f.devices.entries[id]?).getD { id := id }).Attached := by
        cases hentry : f.devices.entries[id]? with
        | none => exact DeviceHandle.attached_new id
        | some old => exact hf id old hentry
      cases hdecode : p.1.decode p.2 with
      | rejected warning =>
        rw [hdecode] at hregisters
        cases hregisters
      | rejectedAt address warning =>
        rw [hdecode] at hh
        obtain rfl := Option.some.inj hh
        exact hold
      | accepted address c =>
        rw [hdecode] at hh
        cases c with
        | none =>
          obtain rfl := Option.some.inj hh
          exact hold
        | some c =>
          obtain rfl := Option.some.inj hh
          exact hold.call c
    · rw [accept_other _ hregisters] at hh
      exact hf id h hh

/-- What requests can change, for the sessions of an address. -/
def settings (f : InputFile π) (id : UInt64) :
    Option (List (UInt8 × Std.ExtTreeMap UInt8 UInt8 × List (Expert π))) :=
  f.devices.entries[id]?.map fun h => h.devices.map Device.settings

/-- The transfer is no longer in flight, and no session of any address has changed. -/
structure NoEffect (f f' : InputFile π) (address : UInt64) (key : TransferKey) : Prop where
  dropped : ∃ h : DeviceHandle π,
    f'.devices.entries[address]? = some h ∧ h.transfers.inflight[key]? = none
  settings : ∀ id, f'.settings id = f.settings id

/-- The header of a usbmon packet, if it is long enough to have one. -/
def usbmonHeader? (mmapped : Bool) (data : Bytes) : Option PcapUsbHeader :=
  if data.length < (if mmapped then pcapUsbHeaderMmappedSize else Layout.size PcapUsbHeader)
  then none else readStruct PcapUsbHeader data

def usbmonLink (mmapped : Bool) : LinkType := if mmapped then .usbLinuxMmapped else .usbLinux

/-- The packet completes a control OUT transfer in flight on `h`, and says that it failed. -/
structure FailedOut (f : InputFile π) (mmapped : Bool) (data : Bytes) (header : PcapUsbHeader)
    (h : DeviceHandle π) (pending : Pending) : Prop where
  read : usbmonHeader? mmapped data = some header
  completes : header.eventType = usbmonEventError ∨
    header.eventType = usbmonEventComplete ∧ header.transferType = usbmonTransferControl
  failed : header.status ≠ 0
  handle : f.devices.entries[usbmonAddress header.busId header.deviceAddress]? = some h
  inflight : h.transfers.inflight[((usbEndpointId header.endpointNumber, header.id) :
    TransferKey)]? = some pending
  control : pending.control = true
  out : pending.setup.isIn = false

section FailedOut

variable {f : InputFile π} {mmapped : Bool} {data : Bytes} {header : PcapUsbHeader}
  {h : DeviceHandle π} {pending : Pending}

omit [Libplist π] in
/-- A failed transfer is aborted by an error event, and ended by a completion event. -/
theorem FailedOut.decode (hfailed : FailedOut f mmapped data header h pending) :
    header.eventType = usbmonEventError ∧
        (usbmonLink mmapped).decode data =
          .accepted (usbmonAddress header.busId header.deviceAddress)
            (some (.abort header.endpointNumber header.id)) ∨
      header.eventType ≠ usbmonEventError ∧ ∃ payload,
        (usbmonLink mmapped).decode data =
          .accepted (usbmonAddress header.busId header.deviceAddress)
            (some (.endControl header.endpointNumber header.id payload)) := by
  have hdecode : ∃ payload, (usbmonLink mmapped).decode data = usbmonTransfer header payload := by
    have hread := hfailed.read
    unfold usbmonHeader? at hread
    cases mmapped with
    | true =>
      refine ⟨(data.drop pcapUsbHeaderMmappedSize).take header.dataLen.toNat, ?_⟩
      show decodeUsbmonPacket true data = _
      rw [if_pos rfl] at hread
      simp only [decodeUsbmonPacket, if_true, hread]
    | false =>
      refine ⟨(data.drop (Layout.size PcapUsbHeader)).take header.dataLen.toNat, ?_⟩
      show decodeUsbmonPacket false data = _
      rw [if_neg Bool.false_ne_true] at hread
      simp only [decodeUsbmonPacket, Bool.false_eq_true, if_false, hread]
  obtain ⟨payload, hdecode⟩ := hdecode
  rw [hdecode, usbmonTransfer]
  by_cases herror : header.eventType = usbmonEventError
  · exact Or.inl ⟨herror, if_pos herror⟩
  · obtain ⟨hcomplete, hcontrol⟩ := hfailed.completes.resolve_left herror
    refine Or.inr ⟨herror, payload, ?_⟩
    have hsubmit : usbmonEventComplete ≠ usbmonEventSubmit := by decide
    rw [if_neg herror, if_pos hcontrol, hcomplete, if_neg hsubmit, if_pos rfl]

/-- The packet is a call on the handle of its address. -/
theorem entries_of_call {c : Call} {address : UInt64}
    (hdecode : (usbmonLink mmapped).decode data = .accepted address (some c))
    (hhandle : f.devices.entries[address]? = some h) (id : UInt64) :
    (f.processPacket (usbmonLink mmapped).code data).1.devices.entries[id]? =
      if id = address then some (h.call c) else f.devices.entries[id]? := by
  rw [processPacket_code, hdecode]
  by_cases hid : id = address
  · subst hid
    rw [if_pos rfl, accept_own _ rfl, hhandle]
    rfl
  · rw [if_neg hid]
    exact accept_other _ fun heq => hid (Option.some.inj heq).symm

/-- What is left to show of a call on the handle. -/
theorem noEffect_iff {c : Call} {address : UInt64} {key : TransferKey}
    (hdecode : (usbmonLink mmapped).decode data = .accepted address (some c))
    (hhandle : f.devices.entries[address]? = some h)
    (hdropped : (h.call c).transfers.inflight[key]? = none) :
    NoEffect f (f.processPacket (usbmonLink mmapped).code data).1 address key ↔
      (h.call c).devices.map Device.settings = h.devices.map Device.settings := by
  have hentries := entries_of_call hdecode hhandle
  constructor
  · intro heffect
    have hown := heffect.settings address
    rw [settings, settings, hentries, if_pos rfl, hhandle] at hown
    exact Option.some.inj hown
  · intro hsame
    refine ⟨⟨h.call c, by rw [hentries, if_pos rfl], hdropped⟩, ?_⟩
    intro id
    rw [settings, settings, hentries]
    by_cases hid : id = address
    · rw [if_pos hid, hid, hhandle]
      exact congrArg some hsame
    · rw [if_neg hid]

end FailedOut

/-- **Failed transfers.** At every point of a capture, a control OUT transfer that failed
has no effect if and only if its completion is an error event, or its request finds nothing
to change. -/
theorem failed_no_effect_iff (before : List (LinkType × Bytes)) {mmapped : Bool} {data : Bytes}
    {header : PcapUsbHeader} {h : DeviceHandle π} {pending : Pending}
    (hfailed : FailedOut (({} : InputFile π).processCapture before) mmapped data header h pending) :
    NoEffect (({} : InputFile π).processCapture before)
        ((({} : InputFile π).processCapture before).processPacket (usbmonLink mmapped).code data).1
        (usbmonAddress header.busId header.deviceAddress)
        (usbEndpointId header.endpointNumber, header.id) ↔
      header.eventType = usbmonEventError ∨
        h.device.Inert header.endpointNumber pending.setup := by
  rcases hfailed.decode with ⟨herror, hdecode⟩ | ⟨hcomplete, payload, hdecode⟩
  · refine iff_of_true ?_ (Or.inl herror)
    exact (noEffect_iff hdecode hfailed.handle Std.ExtTreeMap.getElem?_erase_self).mpr rfl
  · obtain ⟨hdevices, hinflight⟩ :=
      DeviceHandle.call_endControl hfailed.inflight hfailed.control hfailed.out payload
    have hempty : ∀ (id : UInt64) (h : DeviceHandle π),
        ({} : InputFile π).devices.entries[id]? = some h → h.Attached := by
      intro id h hh
      cases Std.ExtTreeMap.getElem?_empty.symm.trans hh
    have hattached : h.device.Attached :=
      attached_processCapture before hempty _ h hfailed.handle _
        (List.mem_append_right _ List.mem_cons_self)
    rw [noEffect_iff hdecode hfailed.handle (by rw [hinflight, Std.ExtTreeMap.getElem?_erase_self]),
      or_iff_right hcomplete, hdevices, DeviceHandle.devices, List.map_append, List.map_append,
      List.append_cancel_left_eq, List.map_singleton, List.map_singleton, List.singleton_inj,
      Device.settings_processControlPacketOut_iff hattached]
    rw [Device.Inert, Device.Inert, usbEndpointId_idem]

/-! ## A stalled download -/

def controlSubmit (id : UInt64) (setup : UsbSetup) (data : Bytes) : LinkType × Bytes :=
  (.usbLinux,
    Fixture.usbmonPacket false usbmonEventSubmit id usbmonTransferControl 0 5 (some setup) data)

def controlComplete (id : UInt64) (data : Bytes) : LinkType × Bytes :=
  (.usbLinux, Fixture.usbmonPacket false usbmonEventComplete id usbmonTransferControl 0 5 none data)

/-- The header of a control transfer that ended with the status of a stalled endpoint. -/
def stalledHeader (event : UInt8) (id : UInt64) : PcapUsbHeader :=
  { Fixture.usbmonHeader event id usbmonTransferControl 0 5 none [] with status := 0xFFFFFFE0 }

/-- A device with a DFU interface is configured, and sent a block of two bytes. -/
def downloadCapture : List (LinkType × Bytes) :=
  [controlSubmit 1 ⟨0x80, 6, 0x200, 0, 0xFF⟩ [],
    controlComplete 1 (Layout.encode (⟨9, 2, 18, 1, 1, 0, 0x80, 50⟩ : UsbConfigDescriptor) ++
      Layout.encode (⟨9, 4, 0, 0, 0, 0xFE, 1, 1, 0⟩ : UsbInterfaceDescriptor)),
    controlSubmit 2 ⟨0, 9, 1, 0, 0⟩ [], controlComplete 2 [],
    controlSubmit 3 ⟨0x21, 1, 0, 0, 2⟩ [1, 2]]

/-- The block fails. -/
theorem failedOut_stalled {event : UInt8}
    (hevent : event = usbmonEventError ∨ event = usbmonEventComplete) :
    ∃ h pending, FailedOut (({} : InputFile Empty).processCapture downloadCapture) false
      (Layout.encode (stalledHeader event 3)) (stalledHeader event 3) h pending := by
  have hstate : (({} : InputFile Empty).processCapture downloadCapture).devices.entries[
      usbmonAddress 1 5]?.map (fun h =>
        h.transfers.inflight[((usbEndpointId 0, 3) : TransferKey)]?) =
      some (some ⟨true, ⟨0x21, 1, 0, 0, 2⟩, [1, 2]⟩) := by decide +kernel
  obtain ⟨h, hhandle, hinflight⟩ := Option.map_eq_some_iff.mp hstate
  refine ⟨h, ⟨true, ⟨0x21, 1, 0, 0, 2⟩, [1, 2]⟩, ?_, ?_, ?_, hhandle, hinflight, rfl, rfl⟩
  · rw [usbmonHeader?, if_neg]
    · rcases hevent with rfl | rfl <;> decide
    · rcases hevent with rfl | rfl <;> decide
  · exact hevent.imp_right fun h => ⟨h, rfl⟩
  · exact show (0xFFFFFFE0 : UInt32) ≠ 0 by decide

/-- An error event for the block has no effect. -/
theorem failed_no_effect_example :
    NoEffect (({} : InputFile Empty).processCapture downloadCapture)
      ((({} : InputFile Empty).processCapture downloadCapture).processPacket
        (usbmonLink false).code (Layout.encode (stalledHeader usbmonEventError 3))).1
      (usbmonAddress 1 5) (usbEndpointId 0, 3) := by
  obtain ⟨h, pending, hfailed⟩ := failedOut_stalled (Or.inl rfl)
  exact (failed_no_effect_iff downloadCapture hfailed).mpr (Or.inl rfl)

/-- A completion event for the block with the status of a stalled endpoint. When the host
sends the block again, it is twice in the image. -/
theorem failed_has_effect :
    (¬∀ (before : List (LinkType × Bytes)) (mmapped : Bool) (data : Bytes)
        (header : PcapUsbHeader) (h : DeviceHandle Empty) (pending : Pending),
      FailedOut (({} : InputFile Empty).processCapture before) mmapped data header h pending →
        NoEffect (({} : InputFile Empty).processCapture before)
          ((({} : InputFile Empty).processCapture before).processPacket
            (usbmonLink mmapped).code data).1
          (usbmonAddress header.busId header.deviceAddress)
          (usbEndpointId header.endpointNumber, header.id)) ∧
    (({} : InputFile Empty).processCapture (downloadCapture ++
      [(.usbLinux, Layout.encode (stalledHeader usbmonEventComplete 3)),
        controlSubmit 4 ⟨0x21, 1, 0, 0, 2⟩ [1, 2], controlComplete 4 [],
        controlSubmit 5 ⟨0x21, 1, 1, 0, 0⟩ [], controlComplete 5 []])).getDevices.map
          Device.artifacts = [[⟨"dfu-image-0.bin", [1, 2, 1, 2]⟩]] := by
  refine ⟨?_, by decide +kernel⟩
  intro hall
  obtain ⟨h, pending, hfailed⟩ := failedOut_stalled (Or.inr rfl)
  have hsame := (hall _ _ _ _ _ _ hfailed).settings (usbmonAddress 1 5)
  -- the expert counts the block
  have hcounts := congrArg (fun s => s.map fun sessions =>
    sessions.map fun session => session.2.2.map fun e => e.base.controlPackets) hsame
  revert hcounts
  decide +kernel

end InputFile

end DemuxUsb
