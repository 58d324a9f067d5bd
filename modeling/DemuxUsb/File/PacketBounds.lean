import DemuxUsb.File.InputFile
import DemuxUsb.Library.Checked

/-!
# Bounds of the packet decoders

The decoders of `InputFile` with the offsets and lengths that the source computes: every
structure is read at an offset of the packet, every payload is a slice of it, and every
difference is one of unsigned numbers.

* `processPacketChecked_eq`: whatever the packet is, they have no fault, and they are the
  decoders of `InputFile`.
-/

namespace DemuxUsb

open Checked

/-! ## Structures at an offset -/

/-- `readStruct(data + offset, available, out)` -/
def readStructAt (T : Type) [Layout T] (memory : Bytes) (offset available : Nat) :
    Except Fault (Option T) :=
  if available < Layout.size T then .ok none
  else do
    let image ← slice memory offset (Layout.size T)
    .ok (some (Layout.decode image))

/-- A structure is read inside the memory when what is said to be available is there. -/
theorem readStructAt_eq {T : Type} [Layout T] {memory : Bytes} {offset available : Nat}
    (h : offset + available ≤ memory.length) :
    readStructAt T memory offset available =
      .ok (readStruct T ((memory.drop offset).take available)) := by
  have hlen : ((memory.drop offset).take available).length = available := by
    rw [List.length_take, List.length_drop]
    omega
  unfold readStructAt
  by_cases hshort : available < Layout.size T
  · rw [if_pos hshort, readStruct_of_lt (by omega)]
  · rw [if_neg hshort, slice_of_le (by omega), ok_bind, readStruct_of_le (by omega),
      List.take_take, Nat.min_eq_left (by omega)]

theorem readStructAt_drop {T : Type} [Layout T] {memory : Bytes} {offset : Nat}
    (h : offset ≤ memory.length) :
    readStructAt T memory offset (memory.length - offset) =
      .ok (readStruct T (memory.drop offset)) := by
  have hlen : (memory.drop offset).length ≤ memory.length - offset :=
    Nat.le_of_eq List.length_drop
  rw [readStructAt_eq (by omega), List.take_of_length_le hlen]

/-- Only the bytes of the structure are looked at. -/
theorem readStruct_take_size {T : Type} [Layout T] (data : Bytes) :
    readStruct T (data.take (Layout.size T)) = readStruct T data := by
  rcases Nat.lt_or_ge data.length (Layout.size T) with hlt | hge
  · rw [List.take_of_length_le (by omega)]
  · rw [readStruct_of_le hge, readStruct_of_le (by rw [List.length_take]; omega), List.take_take,
      Nat.min_self]

theorem readStructAt_zero (T : Type) [Layout T] (memory : Bytes) :
    readStructAt T memory 0 memory.length = .ok (readStruct T memory) :=
  readStructAt_drop (Nat.zero_le _)

/-! ## Decoders -/

/-- A setup packet at the start of a payload, and the bytes behind it. -/
def setupChecked (data : Bytes) (payload payloadLength : Nat) :
    Except Fault (Option (UsbSetup × Bytes)) := do
  match ← readStructAt UsbSetup data payload payloadLength with
  | none => .ok none
  | some setup =>
    let length ← sub payloadLength (Layout.size UsbSetup)
    let rest ← slice data (payload + Layout.size UsbSetup) length
    .ok (some (setup, rest))

/-- The switch of `process_darwin_packet`. -/
def darwinTransferChecked (usbHeader : DarwinUsbHeader) (data : Bytes)
    (payload payloadLength : Nat) : Except Fault Decoded :=
  let address := darwinAddress usbHeader.locationId usbHeader.deviceId
  let endpoint := usbHeader.endpointId
  if usbHeader.endpointType = usbEpControl then
    if usbHeader.type = darwinIoSubmit then do
      match ← setupChecked data payload payloadLength with
      | none => .ok (.rejectedAt address "Darwin control submission without a setup packet")
      | some (setup, rest) =>
        .ok (.accepted address (some (.beginControl endpoint usbHeader.uniqueId setup rest)))
    else if usbHeader.type = darwinIoComplete then do
      let bytes ← slice data payload payloadLength
      .ok (.accepted address (some (.endControl endpoint usbHeader.uniqueId bytes)))
    else .ok (.accepted address none)
  else if usbHeader.endpointType = usbEpBulk ∨ usbHeader.endpointType = usbEpInterrupt then
    if usbHeader.type = darwinIoSubmit then do
      let bytes ← slice data payload payloadLength
      .ok (.accepted address (some (.beginBulk endpoint usbHeader.uniqueId bytes)))
    else if usbHeader.type = darwinIoComplete then do
      let bytes ← slice data payload payloadLength
      .ok (.accepted address (some (.endBulk endpoint usbHeader.uniqueId bytes)))
    else .ok (.accepted address none)
  else .ok (.accepted address none)

/-- `process_darwin_packet` -/
def decodeDarwinChecked (data : Bytes) : Except Fault Decoded := do
  match ← readStructAt DarwinUsbHeader data 0 data.length with
  | none => .ok (.rejected "Darwin packet shorter than its header")
  | some usbHeader =>
    if usbHeader.version ≠ darwinUsbHeaderVersion10 ∧
        usbHeader.version ≠ darwinUsbHeaderVersion11 then
      .ok (.rejected
        s!"Unsupported Darwin USB header version 0x{hexText 4 usbHeader.version.toNat}")
    else if usbHeader.headerLength.toNat < Layout.size DarwinUsbHeader ∨
        data.length < usbHeader.headerLength.toNat then
      .ok (.rejected "Darwin packet header length is out of bounds")
    else do
      let behind ← sub data.length usbHeader.headerLength.toNat
      darwinTransferChecked usbHeader data usbHeader.headerLength.toNat
        (min usbHeader.length.toNat behind)

/-- The switch of `process_usbpcap_packet`. -/
def usbpcapTransferChecked (usbHeader : UsbpcapPacketHeader) (data : Bytes)
    (payload payloadLength : Nat) : Except Fault Decoded :=
  let address := usbpcapAddress usbHeader.bus usbHeader.device
  let endpoint := usbHeader.endpoint
  if usbHeader.transfer = usbpcapTransferControl then do
    let controlHeader ←
      if usbHeader.headerLen.toNat < Layout.size UsbpcapBufferControlHeader then .ok none
      else readStructAt UsbpcapBufferControlHeader data 0 data.length
    match controlHeader with
    | none => .ok (.rejectedAt address "USBPcap control packet without a stage")
    | some controlHeader =>
      if controlHeader.stage = usbpcapControlStageSetup then do
        match ← setupChecked data payload payloadLength with
        | none => .ok (.rejectedAt address "USBPcap setup stage without a setup packet")
        | some (setup, rest) =>
          .ok (.accepted address (some (.beginControl endpoint usbHeader.irpId setup rest)))
      else if controlHeader.stage = usbpcapControlStageData then do
        let bytes ← slice data payload payloadLength
        .ok (.accepted address (some (.appendControl endpoint usbHeader.irpId bytes)))
      else if controlHeader.stage = usbpcapControlStageComplete then do
        let bytes ← slice data payload payloadLength
        .ok (.accepted address (some (.endControl endpoint usbHeader.irpId bytes)))
      else .ok (.accepted address none)
  else if usbHeader.transfer = usbpcapTransferBulk ∨
      usbHeader.transfer = usbpcapTransferInterrupt then do
    let bytes ← slice data payload payloadLength
    if usbHeader.info &&& usbpcapInfoPdoToFdo ≠ 0 then
      .ok (.accepted address (some (.endBulk endpoint usbHeader.irpId bytes)))
    else .ok (.accepted address (some (.beginBulk endpoint usbHeader.irpId bytes)))
  else .ok (.accepted address none)

/-- `process_usbpcap_packet` -/
def decodeUsbpcapChecked (data : Bytes) : Except Fault Decoded := do
  match ← readStructAt UsbpcapPacketHeader data 0 data.length with
  | none => .ok (.rejected "USBPcap packet shorter than its header")
  | some usbHeader =>
    if usbHeader.headerLen.toNat < Layout.size UsbpcapPacketHeader ∨
        data.length < usbHeader.headerLen.toNat then
      .ok (.rejected "USBPcap packet header length is out of bounds")
    else do
      let behind ← sub data.length usbHeader.headerLen.toNat
      usbpcapTransferChecked usbHeader data usbHeader.headerLen.toNat
        (min usbHeader.dataLength.toNat behind)

/-- The switch of `process_usbmon_packet`. -/
def usbmonTransferChecked (usbHeader : PcapUsbHeader) (data : Bytes)
    (payload payloadLength : Nat) : Except Fault Decoded :=
  let address := usbmonAddress usbHeader.busId usbHeader.deviceAddress
  let endpoint := usbHeader.endpointNumber
  if usbHeader.eventType = usbmonEventError then
    .ok (.accepted address (some (.abort endpoint usbHeader.id)))
  else if usbHeader.transferType = usbmonTransferControl then
    if usbHeader.eventType = usbmonEventSubmit then
      if usbHeader.setupFlag ≠ 0 then
        .ok (.rejectedAt address "usbmon control submission without a setup packet")
      else do
        let bytes ← slice data payload payloadLength
        .ok (.accepted address
          (some (.beginControl endpoint usbHeader.id usbHeader.setup bytes)))
    else if usbHeader.eventType = usbmonEventComplete then do
      let bytes ← slice data payload payloadLength
      .ok (.accepted address (some (.endControl endpoint usbHeader.id bytes)))
    else .ok (.accepted address none)
  else if usbHeader.transferType = usbmonTransferBulk ∨
      usbHeader.transferType = usbmonTransferInterrupt then
    if usbHeader.eventType = usbmonEventSubmit then do
      let bytes ← slice data payload payloadLength
      .ok (.accepted address (some (.beginBulk endpoint usbHeader.id bytes)))
    else if usbHeader.eventType = usbmonEventComplete then do
      let bytes ← slice data payload payloadLength
      .ok (.accepted address (some (.endBulk endpoint usbHeader.id bytes)))
    else .ok (.accepted address none)
  else .ok (.accepted address none)

/-- `process_usbmon_packet` -/
def decodeUsbmonChecked (mmapped : Bool) (data : Bytes) : Except Fault Decoded := do
  let headerLength := if mmapped then pcapUsbHeaderMmappedSize else Layout.size PcapUsbHeader
  let usbHeader ←
    if data.length < headerLength then .ok none else readStructAt PcapUsbHeader data 0 data.length
  match usbHeader with
  | none => .ok (.rejected "usbmon packet shorter than its header")
  | some usbHeader =>
    let behind ← sub data.length headerLength
    usbmonTransferChecked usbHeader data headerLength (min usbHeader.dataLen.toNat behind)

/-! ## No faults -/

section Decoders

/-- What is behind the header, cut to the length in the header. -/
theorem take_min_drop (data : Bytes) (offset length : Nat) :
    (data.drop offset).take (min length (data.length - offset)) =
      (data.drop offset).take length := by
  have hlen : (data.drop offset).length ≤ data.length - offset := Nat.le_of_eq List.length_drop
  rw [← List.take_take, List.take_of_length_le hlen]

variable {data : Bytes} {payload payloadLength : Nat}

theorem setupChecked_eq (h : payload + payloadLength ≤ data.length) :
    setupChecked data payload payloadLength =
      .ok ((readStruct UsbSetup ((data.drop payload).take payloadLength)).map fun setup =>
        (setup, ((data.drop payload).take payloadLength).drop (Layout.size UsbSetup))) := by
  unfold setupChecked
  rw [readStructAt_eq h, ok_bind]
  cases hsetup : readStruct UsbSetup ((data.drop payload).take payloadLength) with
  | none => rfl
  | some setup =>
    have hsize := size_le_of_readStruct hsetup
    rw [List.length_take, List.length_drop] at hsize
    dsimp only [Option.map_some]
    rw [sub_of_le (by omega), ok_bind, slice_of_le (by omega), ok_bind, List.drop_take,
      List.drop_drop]

theorem darwinTransferChecked_eq (usbHeader : DarwinUsbHeader)
    (h : payload + payloadLength ≤ data.length) :
    darwinTransferChecked usbHeader data payload payloadLength =
      .ok (darwinTransfer usbHeader ((data.drop payload).take payloadLength)) := by
  unfold darwinTransferChecked darwinTransfer
  simp only [setupChecked_eq h, slice_of_le h, ok_bind]
  split
  · split
    · cases readStruct UsbSetup ((data.drop payload).take payloadLength) with
      | none => rfl
      | some setup => rfl
    · split
      · rfl
      · rfl
  · split
    · split
      · rfl
      · split
        · rfl
        · rfl
    · rfl

theorem usbpcapTransferChecked_eq (usbHeader : UsbpcapPacketHeader)
    (h : payload + payloadLength ≤ data.length) :
    usbpcapTransferChecked usbHeader data payload payloadLength =
      .ok (usbpcapTransfer usbHeader
        ((if usbHeader.headerLen.toNat < Layout.size UsbpcapBufferControlHeader then none
          else readStruct UsbpcapBufferControlHeader data).map UsbpcapBufferControlHeader.stage)
        ((data.drop payload).take payloadLength)) := by
  unfold usbpcapTransferChecked usbpcapTransfer
  simp only [setupChecked_eq h, slice_of_le h, readStructAt_zero, ok_bind]
  split
  · by_cases hshort : usbHeader.headerLen.toNat < Layout.size UsbpcapBufferControlHeader
    · rw [if_pos hshort, if_pos hshort]
      rfl
    · rw [if_neg hshort, if_neg hshort]
      cases readStruct UsbpcapBufferControlHeader data with
      | none => rfl
      | some controlHeader =>
        dsimp only [Option.map_some]
        split
        · cases readStruct UsbSetup ((data.drop payload).take payloadLength) with
          | none => rfl
          | some setup => rfl
        · split
          · rfl
          · split
            · rfl
            · rfl
  · split
    · split
      · rfl
      · rfl
    · rfl

theorem usbmonTransferChecked_eq (usbHeader : PcapUsbHeader)
    (h : payload + payloadLength ≤ data.length) :
    usbmonTransferChecked usbHeader data payload payloadLength =
      .ok (usbmonTransfer usbHeader ((data.drop payload).take payloadLength)) := by
  unfold usbmonTransferChecked usbmonTransfer
  simp only [slice_of_le h, ok_bind]
  split
  · rfl
  · split
    · split
      · split
        · rfl
        · rfl
      · split
        · rfl
        · rfl
    · split
      · split
        · rfl
        · split
          · rfl
          · rfl
      · rfl

theorem decodeDarwinChecked_eq (data : Bytes) :
    decodeDarwinChecked data = .ok (decodeDarwinPacket data) := by
  unfold decodeDarwinChecked decodeDarwinPacket
  rw [readStructAt_zero, ok_bind]
  cases readStruct DarwinUsbHeader data with
  | none => rfl
  | some usbHeader =>
    dsimp only
    split
    · rfl
    · split
      · rfl
      · rename_i hlength
        rw [sub_of_le (by omega), ok_bind, darwinTransferChecked_eq usbHeader (by omega),
          take_min_drop]

theorem decodeUsbpcapChecked_eq (data : Bytes) :
    decodeUsbpcapChecked data = .ok (decodeUsbpcapPacket data) := by
  unfold decodeUsbpcapChecked decodeUsbpcapPacket
  rw [readStructAt_zero, ok_bind]
  cases readStruct UsbpcapPacketHeader data with
  | none => rfl
  | some usbHeader =>
    dsimp only
    split
    · rfl
    · rename_i hlength
      rw [sub_of_le (by omega), ok_bind, usbpcapTransferChecked_eq usbHeader (by omega),
        take_min_drop]

theorem decodeUsbmonChecked_eq (mmapped : Bool) (data : Bytes) :
    decodeUsbmonChecked mmapped data = .ok (decodeUsbmonPacket mmapped data) := by
  unfold decodeUsbmonChecked decodeUsbmonPacket
  generalize (if mmapped then pcapUsbHeaderMmappedSize else Layout.size PcapUsbHeader) = size
  dsimp only
  rw [readStructAt_zero]
  split
  · rfl
  · rename_i hlength
    rw [ok_bind]
    cases readStruct PcapUsbHeader data with
    | none => rfl
    | some usbHeader =>
      dsimp only
      rw [sub_of_le (by omega), ok_bind, usbmonTransferChecked_eq usbHeader (by omega),
        take_min_drop]

end Decoders

/-! ## Packets -/

namespace InputFile

variable {π : Type} [Libplist π]

/-- `processPacket` -/
def processPacketChecked (f : InputFile π) (linktype : UInt32) (data : Bytes) :
    Except Fault (InputFile π × Bool) :=
  let f := { f with packetCount := f.packetCount + 1 }
  if linktype = linktypeUsbDarwin then do .ok (f.accept (← decodeDarwinChecked data))
  else if linktype = linktypeUsbpcap then do .ok (f.accept (← decodeUsbpcapChecked data))
  else if linktype = linktypeUsbLinux then do .ok (f.accept (← decodeUsbmonChecked false data))
  else if linktype = linktypeUsbLinuxMmapped then do
    .ok (f.accept (← decodeUsbmonChecked true data))
  else if linktype ∈ f.unsupportedLinktypes then .ok (f, false)
  else
    .ok (warn { f with unsupportedLinktypes := f.unsupportedLinktypes.insert linktype () }
      s!"Skipping packets with unsupported link type {linktype.toNat}", false)

/-- Every packet is read inside its bounds. -/
theorem processPacketChecked_eq (f : InputFile π) (linktype : UInt32) (data : Bytes) :
    f.processPacketChecked linktype data = .ok (f.processPacket linktype data) := by
  unfold processPacketChecked processPacket
  simp only [decodeDarwinChecked_eq, decodeUsbpcapChecked_eq, decodeUsbmonChecked_eq, ok_bind]
  repeat' split
  all_goals rfl

end InputFile

end DemuxUsb
