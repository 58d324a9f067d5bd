import DemuxUsb.Ext.Usb

/-!
# `pcapng.h`

The blocks of a pcapng file and the packet headers of the supported link types.
-/

namespace DemuxUsb

open Endian

/-! ## Link types -/

def linktypeUsbLinux : UInt32 := 189
def linktypeUsbLinuxMmapped : UInt32 := 220
def linktypeUsbpcap : UInt32 := 249
def linktypeUsbDarwin : UInt32 := 266

/-! ## Darwin -/

def usbEpControl : UInt8 := 0
def usbEpBulk : UInt8 := 2
def usbEpInterrupt : UInt8 := 3

def darwinIoSubmit : UInt8 := 0
def darwinIoComplete : UInt8 := 1

def darwinUsbHeaderVersion10 : UInt16 := 0x0100
def darwinUsbHeaderVersion11 : UInt16 := 0x0101

/-- `darwin_usb_header_1_0_t`; the 1.1 header begins with the same fields. -/
structure DarwinUsbHeader where
  version : UInt16
  headerLength : UInt8
  type : UInt8
  length : UInt32
  status : UInt32
  isoFrames : UInt32
  uniqueId : UInt64
  locationId : UInt32
  speed : UInt8
  deviceId : UInt8
  endpointId : UInt8
  endpointType : UInt8
  deriving DecidableEq

instance : Layout DarwinUsbHeader where
  size := 32
  decode b := ⟨le16 b 0, u8 b 2, u8 b 3, le32 b 4, le32 b 8, le32 b 12, le64 b 16, le32 b 24,
    u8 b 28, u8 b 29, u8 b 30, u8 b 31⟩
  encode h := le16Bytes h.version ++ (h.headerLength :: h.type :: (le32Bytes h.length ++
    (le32Bytes h.status ++ (le32Bytes h.isoFrames ++ (le64Bytes h.uniqueId ++
      (le32Bytes h.locationId ++ [h.speed, h.deviceId, h.endpointId, h.endpointType]))))))
  length_encode h := by simp
  decode_encode h := by simp [le32_append_right, le64_append_right, u8_append_right]

/-- `sizeof(darwin_usb_header_1_1_t)` -/
def darwinUsbHeader11Size : Nat := 40

/-! ## USBPcap -/

def usbpcapInfoPdoToFdo : UInt8 := 0x01
def usbpcapTransferInterrupt : UInt8 := 1
def usbpcapTransferControl : UInt8 := 2
def usbpcapTransferBulk : UInt8 := 3
def usbpcapControlStageSetup : UInt8 := 0
def usbpcapControlStageData : UInt8 := 1
def usbpcapControlStageComplete : UInt8 := 3

/-- `usbpcap_packet_header_t`, packed. -/
structure UsbpcapPacketHeader where
  headerLen : UInt16
  irpId : UInt64
  status : UInt32
  function : UInt16
  info : UInt8
  bus : UInt16
  device : UInt16
  endpoint : UInt8
  transfer : UInt8
  dataLength : UInt32
  deriving DecidableEq

instance : Layout UsbpcapPacketHeader where
  size := 27
  decode b := ⟨le16 b 0, le64 b 2, le32 b 10, le16 b 14, u8 b 16, le16 b 17, le16 b 19, u8 b 21,
    u8 b 22, le32 b 23⟩
  encode h := le16Bytes h.headerLen ++ (le64Bytes h.irpId ++ (le32Bytes h.status ++
    (le16Bytes h.function ++ (h.info :: (le16Bytes h.bus ++ (le16Bytes h.device ++
      (h.endpoint :: h.transfer :: le32Bytes h.dataLength)))))))
  length_encode h := by simp
  decode_encode h := by simp [le16_append_right, le32_append_right, le64_append_right,
    u8_append_right]

/-- `usbpcap_buffer_control_header_t`, packed. -/
structure UsbpcapBufferControlHeader where
  header : UsbpcapPacketHeader
  stage : UInt8
  deriving DecidableEq

instance : Layout UsbpcapBufferControlHeader where
  size := 28
  decode b := ⟨Layout.decode (b.take 27), u8 b 27⟩
  encode h := Layout.encode h.header ++ [h.stage]
  length_encode h := by
    rw [List.length_append, Layout.length_encode]
    rfl
  decode_encode h := by
    have hlen : (Layout.encode h.header).length = 27 := Layout.length_encode h.header
    rw [List.take_left' hlen, Layout.decode_encode, u8_append_right _ (by omega), hlen]
    rfl

/-! ## usbmon -/

/-- `'S'` -/
def usbmonEventSubmit : UInt8 := 0x53
/-- `'C'` -/
def usbmonEventComplete : UInt8 := 0x43
/-- `'E'` -/
def usbmonEventError : UInt8 := 0x45

def usbmonTransferInterrupt : UInt8 := 1
def usbmonTransferControl : UInt8 := 2
def usbmonTransferBulk : UInt8 := 3

/-- `pcap_usb_header_t`, with the signed fields as their bits. -/
structure PcapUsbHeader where
  id : UInt64
  eventType : UInt8
  transferType : UInt8
  endpointNumber : UInt8
  deviceAddress : UInt8
  busId : UInt16
  setupFlag : UInt8
  dataFlag : UInt8
  tsSec : UInt64
  tsUsec : UInt32
  status : UInt32
  urbLen : UInt32
  dataLen : UInt32
  setup : UsbSetup
  deriving DecidableEq

instance : Layout PcapUsbHeader where
  size := 48
  decode b := ⟨le64 b 0, u8 b 8, u8 b 9, u8 b 10, u8 b 11, le16 b 12, u8 b 14, u8 b 15, le64 b 16,
    le32 b 24, le32 b 28, le32 b 32, le32 b 36, Layout.decode (b.drop 40)⟩
  encode h := (le64Bytes h.id ++ (h.eventType :: h.transferType :: h.endpointNumber ::
    h.deviceAddress :: (le16Bytes h.busId ++ (h.setupFlag :: h.dataFlag :: (le64Bytes h.tsSec ++
      (le32Bytes h.tsUsec ++ (le32Bytes h.status ++ (le32Bytes h.urbLen ++
        le32Bytes h.dataLen)))))))) ++ Layout.encode h.setup
  length_encode h := by
    rw [List.length_append, Layout.length_encode]
    simp [Layout.size]
  decode_encode h := by
    rw [List.drop_left' (by simp), Layout.decode_encode]
    simp [le16_append_right, le32_append_right, le64_append_right, u8_append_right]

/-- `sizeof(pcap_usb_header_mmapped_t)` -/
def pcapUsbHeaderMmappedSize : Nat := 64

/-! ## pcapng -/

def typeSectionHeader : UInt32 := 0x0A0D0D0A
def timeInterfaceDescriptorBlock : UInt32 := 0x00000001
def typeSimplePacketBlock : UInt32 := 0x00000003
def typeEnhancedPacketBlock : UInt32 := 0x06

def pcapngByteOrderMagic : UInt32 := 0x1A2B3C4D
def pcapngByteOrderMagicSwapped : UInt32 := 0x4D3C2B1A

/-- `block_t` -/
structure Block where
  type : UInt32
  length : UInt32
  deriving DecidableEq

instance : Layout Block where
  size := 8
  decode b := ⟨le32 b 0, le32 b 4⟩
  encode h := le32Bytes h.type ++ le32Bytes h.length
  length_encode h := by simp
  decode_encode h := by simp [le32_append_right]

/-- `pcapng_shb_t` -/
structure PcapngShb where
  byteOrderMagic : UInt32
  majorVersion : UInt16
  minorVersion : UInt16
  sectionLength : UInt64
  deriving DecidableEq

instance : Layout PcapngShb where
  size := 16
  decode b := ⟨le32 b 0, le16 b 4, le16 b 6, le64 b 8⟩
  encode h := le32Bytes h.byteOrderMagic ++ (le16Bytes h.majorVersion ++
    (le16Bytes h.minorVersion ++ le64Bytes h.sectionLength))
  length_encode h := by simp
  decode_encode h := by simp [le16_append_right, le64_append_right]

/-- `pcapng_epb_t` -/
structure PcapngEpb where
  interfaceId : UInt32
  timestampHigh : UInt32
  timestampLow : UInt32
  capturedLen : UInt32
  packetLen : UInt32
  deriving DecidableEq

instance : Layout PcapngEpb where
  size := 20
  decode b := ⟨le32 b 0, le32 b 4, le32 b 8, le32 b 12, le32 b 16⟩
  encode h := le32Bytes h.interfaceId ++ (le32Bytes h.timestampHigh ++
    (le32Bytes h.timestampLow ++ (le32Bytes h.capturedLen ++ le32Bytes h.packetLen)))
  length_encode h := by simp
  decode_encode h := by simp [le32_append_right]

/-- `pcapng_spb_t` -/
structure PcapngSpb where
  packetLen : UInt32
  deriving DecidableEq

instance : Layout PcapngSpb where
  size := 4
  decode b := ⟨le32 b 0⟩
  encode h := le32Bytes h.packetLen
  length_encode h := by simp
  decode_encode h := by simp

/-- `pcap_interface_descriptor_t` -/
structure PcapInterfaceDescriptor where
  linktype : UInt16
  reserved : UInt16
  snaplen : UInt32
  deriving DecidableEq

instance : Layout PcapInterfaceDescriptor where
  size := 8
  decode b := ⟨le16 b 0, le16 b 2, le32 b 4⟩
  encode h := le16Bytes h.linktype ++ (le16Bytes h.reserved ++ le32Bytes h.snaplen)
  length_encode h := by simp
  decode_encode h := by simp [le16_append_right, le32_append_right]

/-! ## Classic pcap -/

def pcapMagicMicroseconds : UInt32 := 0xA1B2C3D4
def pcapMagicNanoseconds : UInt32 := 0xA1B23C4D
def pcapMagicMicrosecondsSwapped : UInt32 := 0xD4C3B2A1
def pcapMagicNanosecondsSwapped : UInt32 := 0x4D3CB2A1

/-- `pcap_file_header_t`, with the signed field as its bits. -/
structure PcapFileHeader where
  magic : UInt32
  versionMajor : UInt16
  versionMinor : UInt16
  thiszone : UInt32
  sigfigs : UInt32
  snaplen : UInt32
  linktype : UInt32
  deriving DecidableEq

instance : Layout PcapFileHeader where
  size := 24
  decode b := ⟨le32 b 0, le16 b 4, le16 b 6, le32 b 8, le32 b 12, le32 b 16, le32 b 20⟩
  encode h := le32Bytes h.magic ++ (le16Bytes h.versionMajor ++ (le16Bytes h.versionMinor ++
    (le32Bytes h.thiszone ++ (le32Bytes h.sigfigs ++ (le32Bytes h.snaplen ++
      le32Bytes h.linktype)))))
  length_encode h := by simp
  decode_encode h := by simp [le16_append_right, le32_append_right]

/-- `pcap_record_header_t` -/
structure PcapRecordHeader where
  tsSec : UInt32
  tsUsec : UInt32
  inclLen : UInt32
  origLen : UInt32
  deriving DecidableEq

instance : Layout PcapRecordHeader where
  size := 16
  decode b := ⟨le32 b 0, le32 b 4, le32 b 8, le32 b 12⟩
  encode h := le32Bytes h.tsSec ++ (le32Bytes h.tsUsec ++ (le32Bytes h.inclLen ++
    le32Bytes h.origLen))
  length_encode h := by simp
  decode_encode h := by simp [le32_append_right]

/-- `uint32_t` -/
instance : Layout UInt32 where
  size := 4
  decode b := le32 b 0
  encode v := le32Bytes v
  length_encode v := length_le32Bytes v
  decode_encode v := le32_le32Bytes v

end DemuxUsb
