import DemuxUsb.Base

/-!
# `usb.h`

The setup packet of a control transfer and the standard descriptors, all packed and
little endian.
-/

namespace DemuxUsb

open Endian

/-! ## Control requests -/

def usbDirIn : UInt8 := 0x80
def usbTypeMask : UInt8 := 0x60
def usbTypeStandard : UInt8 := 0x00
def usbTypeClass : UInt8 := 0x20
def usbTypeVendor : UInt8 := 0x40
def usbRecipMask : UInt8 := 0x1F
def usbRecipDevice : UInt8 := 0x00
def usbRecipInterface : UInt8 := 0x01
def usbReqGetDescriptor : UInt8 := 0x06
def usbReqSetConfiguration : UInt8 := 0x09
def usbReqSetInterface : UInt8 := 0x0B

def usbDtDevice : UInt8 := 0x01
def usbDtConfig : UInt8 := 0x02
def usbDtString : UInt8 := 0x03
def usbDtInterface : UInt8 := 0x04
def usbDtEndpoint : UInt8 := 0x05
def usbDtBos : UInt8 := 0x0F
def usbDtDfuFunctional : UInt8 := 0x21

def usbDtDeviceSize : Nat := 18
def usbDtConfigSize : Nat := 9
def usbDtInterfaceSize : Nat := 9
def usbDtEndpointSize : Nat := 7
def usbDtBosSize : Nat := 5

/-- `USB_CLASS_APP_SPEC`, which `Device.cpp` calls `USB_CLASS_DFU`. -/
def usbClassDfu : UInt8 := 0xFE

/-- `usb_setup_t` -/
structure UsbSetup where
  bmRequestType : UInt8
  bRequest : UInt8
  wValue : UInt16
  wIndex : UInt16
  wLength : UInt16
  deriving DecidableEq

instance : Inhabited UsbSetup := ⟨⟨0, 0, 0, 0, 0⟩⟩

instance : Layout UsbSetup where
  size := 8
  decode b := ⟨u8 b 0, u8 b 1, le16 b 2, le16 b 4, le16 b 6⟩
  encode s := s.bmRequestType :: s.bRequest ::
    (le16Bytes s.wValue ++ (le16Bytes s.wIndex ++ le16Bytes s.wLength))
  length_encode s := by simp
  decode_encode s := by simp [le16_append_right]

/-- `setup.bmRequestType & USB_DIR_IN` -/
def UsbSetup.isIn (setup : UsbSetup) : Bool := setup.bmRequestType &&& usbDirIn != 0

/-! ## Descriptors -/

structure UsbDescriptorHeader where
  bLength : UInt8
  bDescriptorType : UInt8
  deriving DecidableEq

instance : Layout UsbDescriptorHeader where
  size := 2
  decode b := ⟨u8 b 0, u8 b 1⟩
  encode d := [d.bLength, d.bDescriptorType]
  length_encode _ := rfl
  decode_encode _ := rfl

structure UsbDeviceDescriptor where
  bLength : UInt8
  bDescriptorType : UInt8
  bcdUSB : UInt16
  bDeviceClass : UInt8
  bDeviceSubClass : UInt8
  bDeviceProtocol : UInt8
  bMaxPacketSize0 : UInt8
  idVendor : UInt16
  idProduct : UInt16
  bcdDevice : UInt16
  iManufacturer : UInt8
  iProduct : UInt8
  iSerialNumber : UInt8
  bNumConfigurations : UInt8
  deriving DecidableEq

instance : Inhabited UsbDeviceDescriptor := ⟨⟨0, 0, 0, 0, 0, 0, 0, 0, 0, 0, 0, 0, 0, 0⟩⟩

instance : Layout UsbDeviceDescriptor where
  size := 18
  decode b := ⟨u8 b 0, u8 b 1, le16 b 2, u8 b 4, u8 b 5, u8 b 6, u8 b 7, le16 b 8, le16 b 10,
    le16 b 12, u8 b 14, u8 b 15, u8 b 16, u8 b 17⟩
  encode d := d.bLength :: d.bDescriptorType :: (le16Bytes d.bcdUSB ++
    (d.bDeviceClass :: d.bDeviceSubClass :: d.bDeviceProtocol :: d.bMaxPacketSize0 ::
      (le16Bytes d.idVendor ++ (le16Bytes d.idProduct ++ (le16Bytes d.bcdDevice ++
        [d.iManufacturer, d.iProduct, d.iSerialNumber, d.bNumConfigurations])))))
  length_encode d := by simp
  decode_encode d := by simp [le16_append_right, u8_append_right]

structure UsbConfigDescriptor where
  bLength : UInt8
  bDescriptorType : UInt8
  wTotalLength : UInt16
  bNumInterfaces : UInt8
  bConfigurationValue : UInt8
  iConfiguration : UInt8
  bmAttributes : UInt8
  bMaxPower : UInt8
  deriving DecidableEq

instance : Inhabited UsbConfigDescriptor := ⟨⟨0, 0, 0, 0, 0, 0, 0, 0⟩⟩

instance : Layout UsbConfigDescriptor where
  size := 9
  decode b := ⟨u8 b 0, u8 b 1, le16 b 2, u8 b 4, u8 b 5, u8 b 6, u8 b 7, u8 b 8⟩
  encode d := d.bLength :: d.bDescriptorType :: (le16Bytes d.wTotalLength ++
    [d.bNumInterfaces, d.bConfigurationValue, d.iConfiguration, d.bmAttributes, d.bMaxPower])
  length_encode d := by simp
  decode_encode d := by simp [u8_append_right]

structure UsbInterfaceDescriptor where
  bLength : UInt8
  bDescriptorType : UInt8
  bInterfaceNumber : UInt8
  bAlternateSetting : UInt8
  bNumEndpoints : UInt8
  bInterfaceClass : UInt8
  bInterfaceSubClass : UInt8
  bInterfaceProtocol : UInt8
  iInterface : UInt8
  deriving DecidableEq

instance : Inhabited UsbInterfaceDescriptor := ⟨⟨0, 0, 0, 0, 0, 0, 0, 0, 0⟩⟩

instance : Layout UsbInterfaceDescriptor where
  size := 9
  decode b := ⟨u8 b 0, u8 b 1, u8 b 2, u8 b 3, u8 b 4, u8 b 5, u8 b 6, u8 b 7, u8 b 8⟩
  encode d := [d.bLength, d.bDescriptorType, d.bInterfaceNumber, d.bAlternateSetting,
    d.bNumEndpoints, d.bInterfaceClass, d.bInterfaceSubClass, d.bInterfaceProtocol, d.iInterface]
  length_encode _ := rfl
  decode_encode _ := rfl

structure UsbEndpointDescriptor where
  bLength : UInt8
  bDescriptorType : UInt8
  bEndpointAddress : UInt8
  bmAttributes : UInt8
  wMaxPacketSize : UInt16
  bInterval : UInt8
  bRefresh : UInt8
  bSynchAddress : UInt8
  deriving DecidableEq

instance : Inhabited UsbEndpointDescriptor := ⟨⟨0, 0, 0, 0, 0, 0, 0, 0⟩⟩

instance : Layout UsbEndpointDescriptor where
  size := 9
  decode b := ⟨u8 b 0, u8 b 1, u8 b 2, u8 b 3, le16 b 4, u8 b 6, u8 b 7, u8 b 8⟩
  encode d := d.bLength :: d.bDescriptorType :: d.bEndpointAddress :: d.bmAttributes ::
    (le16Bytes d.wMaxPacketSize ++ [d.bInterval, d.bRefresh, d.bSynchAddress])
  length_encode d := by simp
  decode_encode d := by simp [u8_append_right]

structure UsbBosDescriptor where
  bLength : UInt8
  bDescriptorType : UInt8
  wTotalLength : UInt16
  bNumDeviceCaps : UInt8
  deriving DecidableEq

instance : Layout UsbBosDescriptor where
  size := 5
  decode b := ⟨u8 b 0, u8 b 1, le16 b 2, u8 b 4⟩
  encode d := d.bLength :: d.bDescriptorType :: (le16Bytes d.wTotalLength ++ [d.bNumDeviceCaps])
  length_encode d := by simp
  decode_encode d := by simp [u8_append_right]

structure UsbDfuFunctionalDescriptor where
  bLength : UInt8
  bDescriptorType : UInt8
  bmAttributes : UInt8
  wDetachTimeOut : UInt16
  wTransferSize : UInt16
  deriving DecidableEq

instance : Inhabited UsbDfuFunctionalDescriptor := ⟨⟨0, 0, 0, 0, 0⟩⟩

instance : Layout UsbDfuFunctionalDescriptor where
  size := 7
  decode b := ⟨u8 b 0, u8 b 1, u8 b 2, le16 b 3, le16 b 5⟩
  encode d := d.bLength :: d.bDescriptorType :: d.bmAttributes ::
    (le16Bytes d.wDetachTimeOut ++ le16Bytes d.wTransferSize)
  length_encode d := by simp
  decode_encode d := by simp [le16_append_right]

end DemuxUsb
