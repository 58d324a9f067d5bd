import DemuxUsb.File.PcapInputFile

/-!
# `CaptureBuilder.h`

The test encoders: a transcript of transfers written as the packets of one device in
each of the supported packet layouts, and packets as a classic pcap file.
-/

namespace DemuxUsb.Fixture

open Endian

/-! ## Transcripts -/

/-- `data` is the OUT payload or the IN response. -/
structure Transfer where
  control : Bool
  endpoint : UInt8
  setup : UsbSetup
  data : Bytes
  deriving DecidableEq

namespace Transfer

/-- A control transfer on endpoint 0. -/
def ofControl (setup : UsbSetup) (data : Bytes) : Transfer :=
  ⟨true, setup.bmRequestType &&& usbDirIn, setup, data⟩

def ofBulkOut (endpoint : UInt8) (data : Bytes) : Transfer :=
  ⟨false, endpoint &&& 0x7F, default, data⟩

def ofBulkIn (endpoint : UInt8) (data : Bytes) : Transfer :=
  ⟨false, endpoint ||| 0x80, default, data⟩

/-- The bytes of the submission. -/
def outData (transfer : Transfer) : Bytes :=
  if usbEndpointIn transfer.endpoint then [] else transfer.data

/-- The bytes of the completion. -/
def inData (transfer : Transfer) : Bytes :=
  if usbEndpointIn transfer.endpoint then transfer.data else []

end Transfer

abbrev Transcript := List Transfer

/-! ## Packet encoders -/

inductive Format where
  | darwin
  | darwin11
  | usbpcap
  | usbmon
  | usbmonMmapped
  deriving DecidableEq

namespace Format

def linktype : Format → LinkType
  | darwin => .usbDarwin
  | darwin11 => .usbDarwin
  | usbpcap => .usbpcap
  | usbmon => .usbLinux
  | usbmonMmapped => .usbLinuxMmapped

end Format

def darwinSpeedHigh : UInt8 := 2

/-- The fields of the two header versions up to the endpoint type. -/
def darwinHeader (v11 : Bool) (type : UInt8) (id : UInt64) (location : UInt32)
    (address endpoint endpointType : UInt8) (payload : Bytes) : DarwinUsbHeader where
  version := if v11 then darwinUsbHeaderVersion11 else darwinUsbHeaderVersion10
  headerLength := if v11 then UInt8.ofNat darwinUsbHeader11Size else 32
  type := type
  length := UInt32.ofNat payload.length
  status := 0
  isoFrames := 0
  uniqueId := id
  locationId := location
  speed := darwinSpeedHigh
  deviceId := address
  endpointId := endpoint
  endpointType := endpointType

def darwinPacket (v11 : Bool) (type : UInt8) (id : UInt64) (location : UInt32)
    (address endpoint endpointType : UInt8) (payload : Bytes) : Bytes :=
  let header := darwinHeader v11 type id location address endpoint endpointType payload
  let rest := if v11 then List.replicate (darwinUsbHeader11Size - 32) 0 else []
  Layout.encode header ++ (rest ++ payload)

def usbpcapHeader (irp : UInt64) (info : UInt8) (device : UInt16) (endpoint transfer : UInt8)
    (stage : Option UInt8) (payload : Bytes) : UsbpcapPacketHeader where
  headerLen := if stage.isSome then 28 else 27
  irpId := irp
  status := 0
  function := 0
  info := info
  bus := 1
  device := device
  endpoint := endpoint
  transfer := transfer
  dataLength := UInt32.ofNat payload.length

/-- A negative stage of the source is `none`. -/
def usbpcapPacket (irp : UInt64) (info : UInt8) (device : UInt16) (endpoint transfer : UInt8)
    (stage : Option UInt8) (payload : Bytes) : Bytes :=
  Layout.encode (usbpcapHeader irp info device endpoint transfer stage payload) ++
    (stage.toList ++ payload)

def usbmonHeader (event : UInt8) (id : UInt64) (transfer endpoint address : UInt8)
    (setup : Option UsbSetup) (payload : Bytes) : PcapUsbHeader where
  id := id
  eventType := event
  transferType := transfer
  endpointNumber := endpoint
  deviceAddress := address
  busId := 1
  -- '-'
  setupFlag := if setup.isSome then 0 else 0x2D
  -- '<'
  dataFlag := if payload = [] then 0x3C else 0
  tsSec := 0
  tsUsec := 0
  status := 0
  urbLen := UInt32.ofNat payload.length
  dataLen := UInt32.ofNat payload.length
  setup := setup.getD default

def usbmonPacket (mmapped : Bool) (event : UInt8) (id : UInt64)
    (transfer endpoint address : UInt8) (setup : Option UsbSetup) (payload : Bytes) : Bytes :=
  let rest := if mmapped then List.replicate (pcapUsbHeaderMmappedSize - 48) 0 else []
  Layout.encode (usbmonHeader event id transfer endpoint address setup payload) ++
    (rest ++ payload)

/-- The submission and the completion of a transfer. -/
def encodeTransfer (format : Format) (address : UInt8) (location : UInt32) (id : UInt64)
    (transfer : Transfer) : List Bytes :=
  match format with
  | .darwin | .darwin11 =>
    let v11 := format == .darwin11
    if transfer.control then
      [darwinPacket v11 darwinIoSubmit id location address transfer.endpoint usbEpControl
          (Layout.encode transfer.setup ++ transfer.outData),
        darwinPacket v11 darwinIoComplete id location address transfer.endpoint usbEpControl
          transfer.inData]
    else
      [darwinPacket v11 darwinIoSubmit id location address transfer.endpoint usbEpBulk
          transfer.outData,
        darwinPacket v11 darwinIoComplete id location address transfer.endpoint usbEpBulk
          transfer.inData]
  | .usbpcap =>
    if transfer.control then
      [usbpcapPacket id 0 address.toUInt16 transfer.endpoint usbpcapTransferControl
          (some usbpcapControlStageSetup) (Layout.encode transfer.setup ++ transfer.outData),
        usbpcapPacket id usbpcapInfoPdoToFdo address.toUInt16 transfer.endpoint
          usbpcapTransferControl (some usbpcapControlStageComplete) transfer.inData]
    else
      [usbpcapPacket id 0 address.toUInt16 transfer.endpoint usbpcapTransferBulk none
          transfer.outData,
        usbpcapPacket id usbpcapInfoPdoToFdo address.toUInt16 transfer.endpoint
          usbpcapTransferBulk none transfer.inData]
  | .usbmon | .usbmonMmapped =>
    let mmapped := format == .usbmonMmapped
    let type := if transfer.control then usbmonTransferControl else usbmonTransferBulk
    [usbmonPacket mmapped usbmonEventSubmit id type transfer.endpoint address
        (if transfer.control then some transfer.setup else none) transfer.outData,
      usbmonPacket mmapped usbmonEventComplete id type transfer.endpoint address none
        transfer.inData]

/-- A transcript as the packets of one device. -/
def encode (format : Format) (address : UInt8) (location : UInt32) (firstId : UInt64) :
    Transcript → List Bytes
  | [] => []
  | transfer :: transcript =>
    encodeTransfer format address location (firstId + 1) transfer ++
      encode format address location (firstId + 1) transcript

/-! ## Files -/

/-- A 16 bit field of a file. -/
def value16 (swapped : Bool) (field : UInt16) : UInt16 :=
  if swapped then be16 (le16Bytes field) 0 else field

def pcap (linktype : UInt32) (packets : List Bytes) (swapped nanoseconds : Bool) : Bytes :=
  let value := PcapInputFile.value swapped
  Layout.encode (⟨value (if nanoseconds then pcapMagicNanoseconds else pcapMagicMicroseconds),
      value16 swapped 2, value16 swapped 4, 0, 0, value 0x40000, value linktype⟩ :
    PcapFileHeader) ++
  packets.flatMap fun packet =>
    Layout.encode (⟨0, 0, value (UInt32.ofNat packet.length), value (UInt32.ofNat packet.length)⟩ :
      PcapRecordHeader) ++ packet

end DemuxUsb.Fixture
