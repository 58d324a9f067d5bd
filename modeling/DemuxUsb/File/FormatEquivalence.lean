import DemuxUsb.File.DeviceIsolation
import DemuxUsb.File.TransferPairing
import DemuxUsb.Test.CaptureBuilder
import DemuxUsb.Usb.DeviceIdentity

/-!
# Every link type decodes the same session

The packets of a transfer decode, in each of the five layouts, to the same two calls on
the handle of the device (`decode_encodeTransfer`). Between two transfers nothing is in
flight, so the calls of a transcript hand on one transfer after the other, whatever
their identifiers (`run_calls`); and what a device makes of them does not depend on its
own identifier (`DeviceHandle.withId_foldl_dispatch`).

* `formats_agree`: the sessions of a transcript in all formats;
* `not_single_handle`: an empty transcript registers no device, the others exactly one.
-/

namespace DemuxUsb.Fixture

/-! ## Packets -/

/-- What a decoder finds behind a header whose fields give both lengths. -/
theorem payload_append {header payload : Bytes} {n m : Nat} (hheader : header.length = n)
    (hpayload : payload.length = m) : ((header ++ payload).drop n).take m = payload := by
  rw [List.drop_left' hheader, List.take_of_length_le (by omega)]

theorem toNat_ofNat_length {payload : Bytes} (hlen : payload.length < 2 ^ 32) :
    payload.length = (UInt32.ofNat payload.length).toNat := by
  rw [UInt32.toNat_ofNat', Nat.mod_eq_of_lt hlen]

theorem decode_darwinPacket (v11 : Bool) (type : UInt8) (id : UInt64) (location : UInt32)
    (address endpoint endpointType : UInt8) {payload : Bytes} (hlen : payload.length < 2 ^ 32) :
    decodeDarwinPacket
        (darwinPacket v11 type id location address endpoint endpointType payload) =
      darwinTransfer (darwinHeader v11 type id location address endpoint endpointType payload)
        payload := by
  unfold decodeDarwinPacket darwinPacket
  dsimp only
  rw [readStruct_encode]
  dsimp only
  have himage := Layout.length_encode
    (darwinHeader v11 type id location address endpoint endpointType payload)
  have hsize : Layout.size DarwinUsbHeader = 32 := rfl
  have hpayload := toNat_ofNat_length hlen
  cases v11 with
  | true =>
    have hheader : (Layout.encode (darwinHeader true type id location address endpoint
        endpointType payload) ++ List.replicate (darwinUsbHeader11Size - 32) 0).length = 40 := by
      rw [List.length_append, himage, List.length_replicate]
      rfl
    rw [if_neg (fun h => h.2 rfl), if_neg, if_pos rfl, ← List.append_assoc]
    · exact congrArg (darwinTransfer _) (payload_append hheader hpayload)
    · rw [if_pos rfl, ← List.append_assoc, List.length_append, hheader]
      show ¬ ((40 : UInt8).toNat < 32 ∨ _ < (40 : UInt8).toNat)
      have h40 : (40 : UInt8).toNat = 40 := rfl
      omega
  | false =>
    have hheader : (Layout.encode (darwinHeader false type id location address endpoint
        endpointType payload)).length = 32 := himage
    rw [if_neg (fun h => h.1 rfl), if_neg, if_neg Bool.false_ne_true, List.nil_append]
    · exact congrArg (darwinTransfer _) (payload_append hheader hpayload)
    · rw [if_neg Bool.false_ne_true, List.nil_append, List.length_append, hheader]
      show ¬ ((32 : UInt8).toNat < 32 ∨ _ < (32 : UInt8).toNat)
      have h32 : (32 : UInt8).toNat = 32 := rfl
      omega

theorem decode_usbpcapPacket (irp : UInt64) (info : UInt8) (device : UInt16)
    (endpoint transfer : UInt8) (stage : Option UInt8) {payload : Bytes}
    (hlen : payload.length < 2 ^ 32) :
    decodeUsbpcapPacket (usbpcapPacket irp info device endpoint transfer stage payload) =
      usbpcapTransfer (usbpcapHeader irp info device endpoint transfer stage payload) stage
        payload := by
  unfold decodeUsbpcapPacket usbpcapPacket
  dsimp only
  rw [readStruct_encode]
  dsimp only
  have himage := Layout.length_encode
    (usbpcapHeader irp info device endpoint transfer stage payload)
  have hsize : Layout.size UsbpcapPacketHeader = 27 := rfl
  have hpayload := toNat_ofNat_length hlen
  cases stage with
  | none =>
    have hheader : (Layout.encode (usbpcapHeader irp info device endpoint transfer none
        payload)).length = 27 := himage
    have h27 : (usbpcapHeader irp info device endpoint transfer none payload).headerLen.toNat =
        27 := rfl
    rw [Option.toList_none, List.nil_append, h27, if_neg, if_pos (by decide)]
    · exact congrArg (usbpcapTransfer _ none) (payload_append hheader hpayload)
    · rw [List.length_append, hheader, hsize]
      omega
  | some stage =>
    let control : UsbpcapBufferControlHeader :=
      ⟨usbpcapHeader irp info device endpoint transfer (some stage) payload, stage⟩
    have hcontrol : Layout.encode (usbpcapHeader irp info device endpoint transfer (some stage)
        payload) ++ ((some stage).toList ++ payload) = Layout.encode control ++ payload :=
      (List.append_assoc _ _ _).symm
    have hheader : (Layout.encode control).length = 28 := Layout.length_encode control
    have h28 : (usbpcapHeader irp info device endpoint transfer (some stage)
        payload).headerLen.toNat = 28 := rfl
    rw [hcontrol, h28, if_neg, if_neg (by decide), readStruct_encode]
    · exact congrArg (usbpcapTransfer _ (some stage)) (payload_append hheader hpayload)
    · rw [List.length_append, hheader, hsize]
      omega

theorem decode_usbmonPacket (mmapped : Bool) (event : UInt8) (id : UInt64)
    (transfer endpoint address : UInt8) (setup : Option UsbSetup) {payload : Bytes}
    (hlen : payload.length < 2 ^ 32) :
    decodeUsbmonPacket mmapped
        (usbmonPacket mmapped event id transfer endpoint address setup payload) =
      usbmonTransfer (usbmonHeader event id transfer endpoint address setup payload) payload := by
  unfold decodeUsbmonPacket usbmonPacket
  dsimp only
  have himage := Layout.length_encode
    (usbmonHeader event id transfer endpoint address setup payload)
  have hpayload := toNat_ofNat_length hlen
  cases mmapped with
  | true =>
    have hheader : (Layout.encode (usbmonHeader event id transfer endpoint address setup
        payload) ++ List.replicate (pcapUsbHeaderMmappedSize - 48) 0).length =
          pcapUsbHeaderMmappedSize := by
      rw [List.length_append, himage, List.length_replicate]
      rfl
    rw [if_pos rfl, if_pos rfl, if_neg, readStruct_encode, ← List.append_assoc]
    · exact congrArg (usbmonTransfer _) (payload_append hheader hpayload)
    · rw [← List.append_assoc, List.length_append, hheader]
      omega
  | false =>
    rw [if_neg Bool.false_ne_true, if_neg Bool.false_ne_true, if_neg, readStruct_encode]
    · exact congrArg (usbmonTransfer _) (payload_append himage hpayload)
    · rw [List.nil_append, List.length_append, himage]
      omega

/-! ## Transfers -/

/-- The device of the packets of a format: bus 1, or a location. -/
def deviceId (format : Format) (address : UInt8) (location : UInt32) : UInt64 :=
  match format with
  | .darwin | .darwin11 => darwinAddress location address
  | .usbpcap => usbpcapAddress 1 address.toUInt16
  | .usbmon | .usbmonMmapped => usbmonAddress 1 address

/-- The calls of a transfer on the handle of the device. -/
def Transfer.calls (transfer : Transfer) (id : UInt64) : List Call :=
  if transfer.control then
    [.beginControl transfer.endpoint id transfer.setup transfer.outData,
      .endControl transfer.endpoint id transfer.inData]
  else
    [.beginBulk transfer.endpoint id transfer.outData,
      .endBulk transfer.endpoint id transfer.inData]

/-- The data, with the setup packet of a control transfer in front, fits the 32 bit length
of a header. -/
def Transfer.Fits (transfer : Transfer) : Prop :=
  (if transfer.control then 8 else 0) + transfer.data.length < 2 ^ 32

instance (transfer : Transfer) : Decidable transfer.Fits :=
  inferInstanceAs (Decidable (_ < _))

theorem length_outData (transfer : Transfer) : transfer.outData.length ≤ transfer.data.length := by
  unfold Transfer.outData
  split
  · exact Nat.zero_le _
  · exact Nat.le_refl _

theorem length_inData (transfer : Transfer) : transfer.inData.length ≤ transfer.data.length := by
  unfold Transfer.inData
  split
  · exact Nat.le_refl _
  · exact Nat.zero_le _

theorem drop_setup (setup : UsbSetup) (data : Bytes) :
    (Layout.encode setup ++ data).drop (Layout.size UsbSetup) = data :=
  List.drop_left' (Layout.length_encode setup)

section Transfers

variable (address : UInt8) (location : UInt32) (id : UInt64) {transfer : Transfer}

theorem length_submission (hfits : transfer.Fits) (hcontrol : transfer.control = true) :
    (Layout.encode transfer.setup ++ transfer.outData).length < 2 ^ 32 := by
  have hout := length_outData transfer
  have hsize : Layout.size UsbSetup = 8 := rfl
  unfold Transfer.Fits at hfits
  rw [if_pos hcontrol] at hfits
  rw [List.length_append, Layout.length_encode]
  omega

theorem outData_lt (hfits : transfer.Fits) : transfer.outData.length < 2 ^ 32 := by
  have hout := length_outData transfer
  unfold Transfer.Fits at hfits
  omega

theorem inData_lt (hfits : transfer.Fits) : transfer.inData.length < 2 ^ 32 := by
  have hin := length_inData transfer
  unfold Transfer.Fits at hfits
  omega

theorem decode_darwin (v11 : Bool) (hfits : transfer.Fits) :
    (encodeTransfer (if v11 then .darwin11 else .darwin) address location id transfer).map
        decodeDarwinPacket =
      (transfer.calls id).map fun c => .accepted (darwinAddress location address) (some c) := by
  have hv11 : encodeTransfer (if v11 then .darwin11 else .darwin) address location id transfer =
      if transfer.control then
        [darwinPacket v11 darwinIoSubmit id location address transfer.endpoint usbEpControl
            (Layout.encode transfer.setup ++ transfer.outData),
          darwinPacket v11 darwinIoComplete id location address transfer.endpoint usbEpControl
            transfer.inData]
      else
        [darwinPacket v11 darwinIoSubmit id location address transfer.endpoint usbEpBulk
            transfer.outData,
          darwinPacket v11 darwinIoComplete id location address transfer.endpoint usbEpBulk
            transfer.inData] := by
    cases v11 <;> rfl
  rw [hv11]
  unfold Transfer.calls
  cases hcontrol : transfer.control with
  | true =>
    simp only [if_true, List.map_cons, List.map_nil]
    rw [decode_darwinPacket v11 _ _ _ _ _ _ (length_submission hfits hcontrol),
      decode_darwinPacket v11 _ _ _ _ _ _ (inData_lt hfits)]
    have hbegin : darwinTransfer (darwinHeader v11 darwinIoSubmit id location address
        transfer.endpoint usbEpControl (Layout.encode transfer.setup ++ transfer.outData))
        (Layout.encode transfer.setup ++ transfer.outData) =
        .accepted (darwinAddress location address)
          (some (.beginControl transfer.endpoint id transfer.setup transfer.outData)) := by
      unfold darwinTransfer
      rw [readStruct_encode, drop_setup]
      rfl
    rw [hbegin]
    rfl
  | false =>
    simp only [Bool.false_eq_true, if_false, List.map_cons, List.map_nil]
    rw [decode_darwinPacket v11 _ _ _ _ _ _ (outData_lt hfits),
      decode_darwinPacket v11 _ _ _ _ _ _ (inData_lt hfits)]
    rfl

/-- A bulk packet of USBPcap has a direction in place of a stage. -/
theorem usbpcapTransfer_bulk {header : UsbpcapPacketHeader} {payload : Bytes}
    (hbulk : header.transfer = usbpcapTransferBulk) :
    usbpcapTransfer header none payload =
      if header.info &&& usbpcapInfoPdoToFdo ≠ 0 then
        .accepted (usbpcapAddress header.bus header.device)
          (some (.endBulk header.endpoint header.irpId payload))
      else
        .accepted (usbpcapAddress header.bus header.device)
          (some (.beginBulk header.endpoint header.irpId payload)) := by
  unfold usbpcapTransfer
  rw [hbulk]
  rfl

theorem decode_usbpcap (hfits : transfer.Fits) :
    (encodeTransfer .usbpcap address location id transfer).map decodeUsbpcapPacket =
      (transfer.calls id).map fun c => .accepted (usbpcapAddress 1 address.toUInt16) (some c) := by
  unfold encodeTransfer Transfer.calls
  dsimp only
  cases hcontrol : transfer.control with
  | true =>
    simp only [if_true, List.map_cons, List.map_nil]
    rw [decode_usbpcapPacket _ _ _ _ _ _ (length_submission hfits hcontrol),
      decode_usbpcapPacket _ _ _ _ _ _ (inData_lt hfits)]
    have hbegin : usbpcapTransfer (usbpcapHeader id 0 address.toUInt16 transfer.endpoint
        usbpcapTransferControl (some usbpcapControlStageSetup)
        (Layout.encode transfer.setup ++ transfer.outData)) (some usbpcapControlStageSetup)
        (Layout.encode transfer.setup ++ transfer.outData) =
        .accepted (usbpcapAddress 1 address.toUInt16)
          (some (.beginControl transfer.endpoint id transfer.setup transfer.outData)) := by
      unfold usbpcapTransfer
      rw [readStruct_encode, drop_setup]
      rfl
    rw [hbegin]
    rfl
  | false =>
    simp only [Bool.false_eq_true, if_false, List.map_cons, List.map_nil]
    rw [decode_usbpcapPacket _ _ _ _ _ _ (outData_lt hfits),
      decode_usbpcapPacket _ _ _ _ _ _ (inData_lt hfits)]
    rw [usbpcapTransfer_bulk rfl, usbpcapTransfer_bulk rfl]
    have hsubmit : ¬ (0 : UInt8) &&& usbpcapInfoPdoToFdo ≠ 0 := by decide
    have hcomplete : usbpcapInfoPdoToFdo &&& usbpcapInfoPdoToFdo ≠ 0 := by decide
    exact congrArg₂ (fun a b => [a, b]) (if_neg hsubmit) (if_pos hcomplete)

theorem decode_usbmon (mmapped : Bool) (hfits : transfer.Fits) :
    (encodeTransfer (if mmapped then .usbmonMmapped else .usbmon) address location id
        transfer).map (decodeUsbmonPacket mmapped) =
      (transfer.calls id).map fun c => .accepted (usbmonAddress 1 address) (some c) := by
  let type := if transfer.control then usbmonTransferControl else usbmonTransferBulk
  have hmmapped : encodeTransfer (if mmapped then .usbmonMmapped else .usbmon) address location
      id transfer =
      [usbmonPacket mmapped usbmonEventSubmit id type transfer.endpoint address
          (if transfer.control then some transfer.setup else none) transfer.outData,
        usbmonPacket mmapped usbmonEventComplete id type transfer.endpoint address none
          transfer.inData] := by
    cases mmapped <;> rfl
  rw [hmmapped, List.map_cons, List.map_cons, List.map_nil,
    decode_usbmonPacket mmapped _ _ _ _ _ _ (outData_lt hfits),
    decode_usbmonPacket mmapped _ _ _ _ _ _ (inData_lt hfits)]
  unfold Transfer.calls
  cases hcontrol : transfer.control with
  | true =>
    simp only [type, hcontrol, if_true]
    rfl
  | false =>
    simp only [type, hcontrol, Bool.false_eq_true, if_false]
    rfl

/-- The packets of a transfer are its two calls, in every format. -/
theorem decode_encodeTransfer (format : Format) (hfits : transfer.Fits) :
    (encodeTransfer format address location id transfer).map format.linktype.decode =
      (transfer.calls id).map fun c => .accepted (deviceId format address location) (some c) := by
  cases format with
  | darwin => exact decode_darwin address location id false hfits
  | darwin11 => exact decode_darwin address location id true hfits
  | usbpcap => exact decode_usbpcap address location id hfits
  | usbmon => exact decode_usbmon address location id false hfits
  | usbmonMmapped => exact decode_usbmon address location id true hfits

end Transfers

/-! ## Transcripts -/

/-- What a transfer hands on to the session of its device. -/
def Transfer.dispatched (transfer : Transfer) : Dispatch :=
  if transfer.control then
    .control (usbEndpointId transfer.endpoint) transfer.setup
      (Transfers.controlPayload ⟨true, transfer.setup, transfer.outData⟩ transfer.inData)
  else if usbEndpointIn transfer.endpoint then
    .bulkIn (usbEndpointId transfer.endpoint) transfer.data
  else .bulkOut (usbEndpointId transfer.endpoint) transfer.data

/-- The calls of a transcript. -/
def calls (firstId : UInt64) : Transcript → List Call
  | [] => []
  | transfer :: transcript => transfer.calls (firstId + 1) ++ calls (firstId + 1) transcript

theorem calls_ne_nil {transcript : Transcript} (h : transcript ≠ []) (firstId : UInt64) :
    calls firstId transcript ≠ [] := by
  cases transcript with
  | nil => exact absurd rfl h
  | cons transfer transcript =>
    unfold calls Transfer.calls
    split
    · exact List.cons_ne_nil _ _
    · exact List.cons_ne_nil _ _

theorem decode_encode (format : Format) (address : UInt8) (location : UInt32) (firstId : UInt64)
    {transcript : Transcript} (hfits : ∀ transfer ∈ transcript, transfer.Fits) :
    (encode format address location firstId transcript).map format.linktype.decode =
      (calls firstId transcript).map
        fun c => .accepted (deviceId format address location) (some c) := by
  induction transcript generalizing firstId with
  | nil => rfl
  | cons transfer transcript ih =>
    have htail := ih (firstId + 1) (fun t ht => hfits t (List.mem_cons_of_mem _ ht))
    have hhead := decode_encodeTransfer address location (firstId + 1) format
      (hfits transfer List.mem_cons_self)
    rw [encode, calls, List.map_append, List.map_append, htail, hhead]

/-- A transfer that meets nothing in flight leaves nothing behind. -/
theorem run_transfer {t : Transfers} (hidle : t.inflight = ∅) (transfer : Transfer)
    (id : UInt64) : t.run (transfer.calls id) = (t, [transfer.dispatched]) := by
  have hfree : ∀ key : TransferKey, t.inflight[key]? = none := by
    intro key
    rw [hidle]
    exact Std.ExtTreeMap.getElem?_empty
  unfold Transfer.calls Transfer.dispatched
  cases transfer.control with
  | true =>
    simp only [if_true, Transfers.run, Transfers.call, Transfers.beginControl,
      Transfers.endControl, Std.ExtTreeMap.getElem?_insert_self, Bool.true_eq_false, if_false,
      Maps.erase_insert (hfree _), Option.toList_none, Option.toList_some, List.nil_append,
      List.append_nil]
  | false =>
    simp only [Bool.false_eq_true, if_false, Transfers.run, Transfers.call, Transfers.beginBulk,
      Transfers.endBulk, Std.ExtTreeMap.getElem?_insert_self, Option.isSome_some, if_true,
      Option.getD_some, Maps.erase_insert (hfree _), Option.toList_none, List.nil_append]
    unfold Transfer.outData Transfer.inData
    cases hin : usbEndpointIn transfer.endpoint with
    | true => simp
    | false =>
      have hout : usbEndpointOut transfer.endpoint = true := by simp [usbEndpointOut, hin]
      by_cases hdata : transfer.data = []
      · simp [hdata, hout]
      · simp [hdata, hout]

theorem run_calls {t : Transfers} (hidle : t.inflight = ∅) (firstId : UInt64)
    (transcript : Transcript) :
    t.run (calls firstId transcript) = (t, transcript.map Transfer.dispatched) := by
  induction transcript generalizing firstId with
  | nil => rfl
  | cons transfer transcript ih =>
    rw [calls, Transfers.run_append, run_transfer hidle, ih]
    rfl

/-! ## Captures -/

section Captures

variable {π : Type}

/-- The capture has seen no other device, and warned of nothing. -/
structure Sole (f : InputFile π) (id : UInt64) (handle : Option (DeviceHandle π)) : Prop where
  order : f.devices.order = handle.toList.map fun _ => id
  entry : f.devices.entries[id]? = handle
  warnings : f.warnings = []
  warningCount : f.warningCount = 0

theorem sole_empty (id : UInt64) : Sole ({} : InputFile π) id none where
  order := rfl
  entry := Std.ExtTreeMap.getElem?_empty
  warnings := rfl
  warningCount := rfl

variable [Libplist π]

/-- One more call on the handle, which is new if there is none. -/
def handleCall (id : UInt64) (handle : Option (DeviceHandle π)) (c : Call) :
    Option (DeviceHandle π) :=
  some ((handle.getD { id := id }).call c)

variable {f : InputFile π} {l : LinkType} {id : UInt64} {handle : Option (DeviceHandle π)}

/-- **Step lemma.** A packet that decodes to a call on the handle. -/
theorem Sole.processPacket (hsole : Sole f id handle) {data : Bytes} {c : Call}
    (hdecode : l.decode data = .accepted id (some c)) :
    (f.processPacket l.code data).2 = true ∧
      Sole (f.processPacket l.code data).1 id (handleCall id handle c) := by
  rw [InputFile.processPacket_code, hdecode]
  refine ⟨rfl, ?_, ?_, hsole.warnings, hsole.warningCount⟩
  · have hids : f.devices.order = (handle.toList.map fun _ => id).eraseDups := by
      rw [hsole.order]
      cases handle with
      | none => rfl
      | some h => simp [List.eraseDups_cons]
    have horder := InputFile.order_accept (f := { f with packetCount := f.packetCount + 1 }) hids
      (.accepted id (some c))
    rw [horder]
    cases handle with
    | none => simp [Decoded.registers, handleCall, List.eraseDups_cons]
    | some h => simp [Decoded.registers, handleCall, List.eraseDups_cons]
  · have hentry := InputFile.accept_own { f with packetCount := f.packetCount + 1 }
      (d := .accepted id (some c)) rfl
    rw [hentry]
    show some ((f.devices.entries[id]?.getD { id := id }).call c) = _
    rw [hsole.entry]
    rfl

/-- **Run lemma.** -/
theorem Sole.processPackets (hsole : Sole f id handle) {packets : List Bytes} {cs : List Call}
    (hdecode : packets.map l.decode = cs.map fun c => .accepted id (some c)) :
    (∀ before data, before ++ [data] <+: packets →
        ((f.processPackets l before).processPacket l.code data).2 = true) ∧
      Sole (f.processPackets l packets) id (cs.foldl (handleCall id) handle) := by
  induction packets generalizing f handle cs with
  | nil =>
    obtain rfl : cs = [] := List.map_eq_nil_iff.mp hdecode.symm
    refine ⟨?_, hsole⟩
    intro before data hpre
    have hnil := List.prefix_nil.mp hpre
    simp at hnil
  | cons packet packets ih =>
    cases cs with
    | nil => cases hdecode
    | cons c cs =>
      rw [List.map_cons, List.map_cons, List.cons.injEq] at hdecode
      obtain ⟨htrue, hstep⟩ := hsole.processPacket hdecode.1
      obtain ⟨hall, hrun⟩ := ih hstep hdecode.2
      refine ⟨?_, hrun⟩
      intro before data hpre
      cases before with
      | nil =>
        obtain rfl : data = packet := (List.cons_prefix_cons.mp hpre).1
        exact htrue
      | cons first before =>
        obtain ⟨rfl, htail⟩ := List.cons_prefix_cons.mp hpre
        exact hall before data htail

theorem foldl_handleCall (h : DeviceHandle π) (cs : List Call) :
    cs.foldl (handleCall id) (some h) = some (cs.foldl DeviceHandle.call h) := by
  induction cs generalizing h with
  | nil => rfl
  | cons c cs ih => exact ih (h.call c)

/-- The sessions of a transcript: those of a device, here number 0, to which its
transfers are handed one after the other. An empty transcript has none. -/
def sessions (transcript : Transcript) : List (Device π) :=
  if transcript = [] then []
  else
    ((transcript.map Transfer.dispatched).foldl DeviceHandle.dispatch
      ({ id := 0 } : DeviceHandle π)).devices

/-- A handle that is given the calls of a transcript. -/
theorem foldl_calls (id firstId : UInt64) {transcript : Transcript} (hne : transcript ≠ []) :
    ((calls firstId transcript).foldl DeviceHandle.call
        ({ id := id } : DeviceHandle π)).transfers.inflight = ∅ ∧
      ((calls firstId transcript).foldl DeviceHandle.call
        ({ id := id } : DeviceHandle π)).devices.map (·.withId 0) = sessions transcript := by
  have hfold := DeviceHandle.foldl_call ({ id := id } : DeviceHandle π) (calls firstId transcript)
  have hrun := run_calls (t := {}) rfl firstId transcript
  rw [hrun] at hfold
  rw [hfold]
  refine ⟨rfl, ?_⟩
  show ((transcript.map Transfer.dispatched).foldl DeviceHandle.dispatch
    ({ id := id } : DeviceHandle π)).devices.map (·.withId 0) = _
  rw [← DeviceHandle.withId_devices, ← DeviceHandle.withId_foldl_dispatch, sessions, if_neg hne]
  rfl

/-- **Equivalence of the formats.** A transcript in any of the formats, with any address,
location and first identifier, is decoded without a warning. It registers exactly one
device, or none if it is empty, and leaves nothing in flight; its sessions are, up to
their number, the same in all formats. -/
theorem formats_agree (transcript : Transcript)
    (hfits : ∀ transfer ∈ transcript, transfer.Fits)
    (format : Format) (address : UInt8) (location : UInt32) (firstId : UInt64) :
    let packets := encode format address location firstId transcript
    let f := ({} : InputFile π).processPackets format.linktype packets
    (∀ before data, before ++ [data] <+: packets →
        ((({} : InputFile π).processPackets format.linktype before).processPacket
          format.linktype.code data).2 = true) ∧
      f.warnings = [] ∧ f.warningCount = 0 ∧
      f.devices.order =
        (if transcript = [] then [] else [deviceId format address location]) ∧
      (∀ (id : UInt64) (h : DeviceHandle π),
        f.devices.entries[id]? = some h → h.transfers.inflight = ∅) ∧
      f.getDevices.map (·.withId 0) = sessions transcript := by
  intro packets f
  obtain ⟨htrue, hsole⟩ := (sole_empty (π := π) (deviceId format address location)).processPackets
    (decode_encode format address location firstId hfits)
  refine ⟨htrue, hsole.warnings, hsole.warningCount, ?_⟩
  by_cases hne : transcript = []
  · subst hne
    refine ⟨rfl, ?_, rfl⟩
    intro id h hentry
    cases Std.ExtTreeMap.getElem?_empty.symm.trans hentry
  · obtain ⟨hidle, hsessions⟩ := foldl_calls (π := π) (deviceId format address location) firstId hne
    have hhandle : (calls firstId transcript).foldl
        (handleCall (π := π) (deviceId format address location)) none =
          some ((calls firstId transcript).foldl DeviceHandle.call
            { id := deviceId format address location }) := by
      cases hcalls : calls firstId transcript with
      | nil => exact absurd hcalls (calls_ne_nil hne firstId)
      | cons c cs => exact foldl_handleCall _ cs
    rw [hhandle] at hsole
    have horder : f.devices.order = [deviceId format address location] := hsole.order
    have hentry := hsole.entry
    rw [if_neg hne]
    refine ⟨horder, ?_, ?_⟩
    · intro id h hfound
      have hmem : id ∈ f.devices.order := by
        rw [f.devices.mem_order, Std.ExtTreeMap.mem_iff_isSome_getElem?, hfound]
        rfl
      rw [horder, List.mem_singleton] at hmem
      rw [hmem] at hfound
      obtain rfl := Option.some.inj (hentry.symm.trans hfound)
      exact hidle
    · have hdevices : f.getDevices = ((calls firstId transcript).foldl DeviceHandle.call
          { id := deviceId format address location }).devices := by
        unfold InputFile.getDevices
        rw [horder, List.flatMap_singleton, hentry]
        rfl
      rw [hdevices, hsessions]

/-- A control transfer and two bulk transfers, as mmapped usbmon packets. -/
theorem formats_agree_example :
    (({} : InputFile Empty).processPackets .usbLinuxMmapped
      (encode .usbmonMmapped 5 0 0x1000
        [.ofControl ⟨0x80, 6, 0x0100, 0, 8⟩ [18, 1], .ofBulkOut 2 [7],
          .ofBulkIn 2 [8, 9]])).devices.order = [usbmonAddress 1 5] := by
  have hfits : ∀ transfer ∈ [Transfer.ofControl ⟨0x80, 6, 0x0100, 0, 8⟩ [18, 1],
      Transfer.ofBulkOut 2 [7], Transfer.ofBulkIn 2 [8, 9]], transfer.Fits := by
    decide
  obtain ⟨-, -, -, horder, -⟩ :=
    formats_agree (π := Empty) _ hfits .usbmonMmapped 5 0 0x1000
  exact horder

/-- No device handle is registered for the empty transcript. -/
theorem not_single_handle :
    ¬ ∀ (transcript : Transcript) (format : Format) (address : UInt8) (location : UInt32)
        (firstId : UInt64), (∀ transfer ∈ transcript, transfer.Fits) →
        (({} : InputFile Empty).processPackets format.linktype
          (encode format address location firstId transcript)).devices.order.length = 1 := by
  intro hall
  have hempty := hall [] .darwin 5 0 0 (fun _ h => absurd h List.not_mem_nil)
  cases hempty

end Captures

end DemuxUsb.Fixture
