import DemuxUsb.Ext.Pcapng
import DemuxUsb.File.DeviceHandle
import DemuxUsb.Library.OrderedMap

/-!
# `InputFile`

The devices of a capture and the decoders of the supported link types. A decoder looks at
one packet only; what it makes of it is a `Decoded`, which `accept` carries out on the
devices.
-/

namespace DemuxUsb

/-! ## Decoders -/

/-- What a decoder makes of a packet: a warning, a warning after the handle of an address
was looked up, or a packet of an address with at most one call on its handle. -/
inductive Decoded where
  | rejected (warning : String)
  | rejectedAt (address : UInt64) (warning : String)
  | accepted (address : UInt64) (call : Option Call)
  deriving DecidableEq

/-- The device address of a Darwin packet. -/
def darwinAddress (locationId : UInt32) (deviceId : UInt8) : UInt64 :=
  (locationId.toUInt64 <<< 32) ||| deviceId.toUInt64

/-- The device address of a USBPcap packet. -/
def usbpcapAddress (bus device : UInt16) : UInt64 :=
  (bus.toUInt64 <<< 16) ||| device.toUInt64

/-- The device address of a usbmon packet. -/
def usbmonAddress (busId : UInt16) (deviceAddress : UInt8) : UInt64 :=
  (busId.toUInt64 <<< 8) ||| deviceAddress.toUInt64

/-- The switch of `process_darwin_packet` over the endpoint types. -/
def darwinTransfer (usbHeader : DarwinUsbHeader) (payload : Bytes) : Decoded :=
  let address := darwinAddress usbHeader.locationId usbHeader.deviceId
  let endpoint := usbHeader.endpointId
  if usbHeader.endpointType = usbEpControl then
    if usbHeader.type = darwinIoSubmit then
      match readStruct UsbSetup payload with
      | none => .rejectedAt address "Darwin control submission without a setup packet"
      | some setup =>
        .accepted address
          (some (.beginControl endpoint usbHeader.uniqueId setup
            (payload.drop (Layout.size UsbSetup))))
    else if usbHeader.type = darwinIoComplete then
      .accepted address (some (.endControl endpoint usbHeader.uniqueId payload))
    else .accepted address none
  else if usbHeader.endpointType = usbEpBulk ∨ usbHeader.endpointType = usbEpInterrupt then
    if usbHeader.type = darwinIoSubmit then
      .accepted address (some (.beginBulk endpoint usbHeader.uniqueId payload))
    else if usbHeader.type = darwinIoComplete then
      .accepted address (some (.endBulk endpoint usbHeader.uniqueId payload))
    else .accepted address none
  else .accepted address none

/-- What `process_darwin_packet` makes of a packet. -/
def decodeDarwinPacket (data : Bytes) : Decoded :=
  match readStruct DarwinUsbHeader data with
  | none => .rejected "Darwin packet shorter than its header"
  | some usbHeader =>
    if usbHeader.version ≠ darwinUsbHeaderVersion10 ∧
        usbHeader.version ≠ darwinUsbHeaderVersion11 then
      .rejected s!"Unsupported Darwin USB header version 0x{hexText 4 usbHeader.version.toNat}"
    else if usbHeader.headerLength.toNat < Layout.size DarwinUsbHeader ∨
        data.length < usbHeader.headerLength.toNat then
      .rejected "Darwin packet header length is out of bounds"
    else
      darwinTransfer usbHeader
        ((data.drop usbHeader.headerLength.toNat).take usbHeader.length.toNat)

/-- The switch of `process_usbpcap_packet` over the transfer types. The stage is that of a
control header, when there is one. -/
def usbpcapTransfer (usbHeader : UsbpcapPacketHeader) (stage : Option UInt8) (payload : Bytes) :
    Decoded :=
  let address := usbpcapAddress usbHeader.bus usbHeader.device
  let endpoint := usbHeader.endpoint
  if usbHeader.transfer = usbpcapTransferControl then
    match stage with
    | none => .rejectedAt address "USBPcap control packet without a stage"
    | some stage =>
      if stage = usbpcapControlStageSetup then
        match readStruct UsbSetup payload with
        | none => .rejectedAt address "USBPcap setup stage without a setup packet"
        | some setup =>
          .accepted address
            (some (.beginControl endpoint usbHeader.irpId setup
              (payload.drop (Layout.size UsbSetup))))
      else if stage = usbpcapControlStageData then
        .accepted address (some (.appendControl endpoint usbHeader.irpId payload))
      else if stage = usbpcapControlStageComplete then
        .accepted address (some (.endControl endpoint usbHeader.irpId payload))
      else .accepted address none
  else if usbHeader.transfer = usbpcapTransferBulk ∨
      usbHeader.transfer = usbpcapTransferInterrupt then
    if usbHeader.info &&& usbpcapInfoPdoToFdo ≠ 0 then
      .accepted address (some (.endBulk endpoint usbHeader.irpId payload))
    else .accepted address (some (.beginBulk endpoint usbHeader.irpId payload))
  else .accepted address none

/-- What `process_usbpcap_packet` makes of a packet. -/
def decodeUsbpcapPacket (data : Bytes) : Decoded :=
  match readStruct UsbpcapPacketHeader data with
  | none => .rejected "USBPcap packet shorter than its header"
  | some usbHeader =>
    if usbHeader.headerLen.toNat < Layout.size UsbpcapPacketHeader ∨
        data.length < usbHeader.headerLen.toNat then
      .rejected "USBPcap packet header length is out of bounds"
    else
      let controlHeader :=
        if usbHeader.headerLen.toNat < Layout.size UsbpcapBufferControlHeader then none
        else readStruct UsbpcapBufferControlHeader data
      usbpcapTransfer usbHeader (controlHeader.map UsbpcapBufferControlHeader.stage)
        ((data.drop usbHeader.headerLen.toNat).take usbHeader.dataLength.toNat)

/-- The switch of `process_usbmon_packet` over the transfer types. -/
def usbmonTransfer (usbHeader : PcapUsbHeader) (payload : Bytes) : Decoded :=
  let address := usbmonAddress usbHeader.busId usbHeader.deviceAddress
  let endpoint := usbHeader.endpointNumber
  if usbHeader.eventType = usbmonEventError then
    .accepted address (some (.abort endpoint usbHeader.id))
  else if usbHeader.transferType = usbmonTransferControl then
    if usbHeader.eventType = usbmonEventSubmit then
      if usbHeader.setupFlag ≠ 0 then
        .rejectedAt address "usbmon control submission without a setup packet"
      else
        .accepted address (some (.beginControl endpoint usbHeader.id usbHeader.setup payload))
    else if usbHeader.eventType = usbmonEventComplete then
      .accepted address (some (.endControl endpoint usbHeader.id payload))
    else .accepted address none
  else if usbHeader.transferType = usbmonTransferBulk ∨
      usbHeader.transferType = usbmonTransferInterrupt then
    if usbHeader.eventType = usbmonEventSubmit then
      .accepted address (some (.beginBulk endpoint usbHeader.id payload))
    else if usbHeader.eventType = usbmonEventComplete then
      .accepted address (some (.endBulk endpoint usbHeader.id payload))
    else .accepted address none
  else .accepted address none

/-- What `process_usbmon_packet` makes of a packet. -/
def decodeUsbmonPacket (mmapped : Bool) (data : Bytes) : Decoded :=
  let headerLength := if mmapped then pcapUsbHeaderMmappedSize else Layout.size PcapUsbHeader
  match (if data.length < headerLength then none else readStruct PcapUsbHeader data) with
  | none => .rejected "usbmon packet shorter than its header"
  | some usbHeader =>
    usbmonTransfer usbHeader ((data.drop headerLength).take usbHeader.dataLen.toNat)

/-- The link types that are decoded. -/
inductive LinkType where
  | usbDarwin
  | usbpcap
  | usbLinux
  | usbLinuxMmapped
  deriving DecidableEq

namespace LinkType

def code : LinkType → UInt32
  | usbDarwin => linktypeUsbDarwin
  | usbpcap => linktypeUsbpcap
  | usbLinux => linktypeUsbLinux
  | usbLinuxMmapped => linktypeUsbLinuxMmapped

def decode : LinkType → Bytes → Decoded
  | usbDarwin => decodeDarwinPacket
  | usbpcap => decodeUsbpcapPacket
  | usbLinux => decodeUsbmonPacket false
  | usbLinuxMmapped => decodeUsbmonPacket true

end LinkType

/-! ## The capture -/

/-- `m_devices` with `m_deviceOrder` is `devices`. -/
structure InputFile (π : Type) where
  packetCount : UInt64 := 0
  warningCount : UInt64 := 0
  warnings : List String := []
  unsupportedLinktypes : Std.ExtTreeMap UInt32 Unit := ∅
  devices : OrderedMap UInt64 (DeviceHandle π) := {}

namespace InputFile

variable {π : Type}

def maxWarnings : Nat := 100

def warn (f : InputFile π) (warning : String) : InputFile π :=
  { f with
    warningCount := f.warningCount + 1
    warnings := if f.warnings.length < maxWarnings then f.warnings ++ [warning] else f.warnings }

/-- The capture in which the address has a handle. -/
def handleFor (f : InputFile π) (id : UInt64) : InputFile π :=
  { f with devices := f.devices.register id { id := id } }

/-- Devices in the order they first appeared in the capture. -/
def getDevices (f : InputFile π) : List (Device π) :=
  f.devices.order.flatMap fun id => (f.devices.entries[id]?.map DeviceHandle.devices).getD []

variable [Libplist π]

/-- Carry out what a decoder decided. The second component is what it returns. -/
def accept (f : InputFile π) : Decoded → InputFile π × Bool
  | .rejected warning => (f.warn warning, false)
  | .rejectedAt address warning => ((f.handleFor address).warn warning, false)
  | .accepted address none => (f.handleFor address, true)
  | .accepted address (some c) =>
    let f := f.handleFor address
    ({ f with devices := f.devices.modify address (·.call c) }, true)

def processDarwinPacket (f : InputFile π) (data : Bytes) : InputFile π × Bool :=
  f.accept (decodeDarwinPacket data)

def processUsbpcapPacket (f : InputFile π) (data : Bytes) : InputFile π × Bool :=
  f.accept (decodeUsbpcapPacket data)

def processUsbmonPacket (f : InputFile π) (data : Bytes) (mmapped : Bool) :
    InputFile π × Bool :=
  f.accept (decodeUsbmonPacket mmapped data)

/-- Dispatches one captured USB packet of the given link type. The second component is
false if it could not be decoded. -/
def processPacket (f : InputFile π) (linktype : UInt32) (data : Bytes) : InputFile π × Bool :=
  let f := { f with packetCount := f.packetCount + 1 }
  if linktype = linktypeUsbDarwin then f.processDarwinPacket data
  else if linktype = linktypeUsbpcap then f.processUsbpcapPacket data
  else if linktype = linktypeUsbLinux then f.processUsbmonPacket data false
  else if linktype = linktypeUsbLinuxMmapped then f.processUsbmonPacket data true
  else if linktype ∈ f.unsupportedLinktypes then (f, false)
  else
    (warn { f with unsupportedLinktypes := f.unsupportedLinktypes.insert linktype () }
      s!"Skipping packets with unsupported link type {linktype.toNat}", false)

/-- The packets of a link type, one after the other. -/
def processPackets (f : InputFile π) (l : LinkType) (packets : List Bytes) : InputFile π :=
  packets.foldl (fun f data => (f.processPacket l.code data).1) f

theorem processPacket_code (f : InputFile π) (l : LinkType) (data : Bytes) :
    f.processPacket l.code data =
      accept { f with packetCount := f.packetCount + 1 } (l.decode data) := by
  cases l with
  | usbDarwin => rfl
  | usbpcap => rfl
  | usbLinux => rfl
  | usbLinuxMmapped => rfl

end InputFile

end DemuxUsb
