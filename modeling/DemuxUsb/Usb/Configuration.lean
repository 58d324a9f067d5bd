import DemuxUsb.Ext.Usb

/-!
# `usb_configuration`

A configuration descriptor set: its interfaces with every alternate setting in descriptor
order, the endpoints each declares, and the DFU functional descriptor. The expert of an
interface is an index into the experts of the device (`Device.experts`); interfaces that
share a `shared_ptr` in the source have the same index.
-/

namespace DemuxUsb

/-- One alternate setting of an interface. -/
structure UsbInterface where
  interface : UsbInterfaceDescriptor
  endpoints : List UsbEndpointDescriptor := []
  expert : Option Nat := none
  deriving DecidableEq

@[ext] structure UsbConfiguration where
  descriptor : UsbConfigDescriptor := default
  dfuDescriptor : UsbDfuFunctionalDescriptor := default
  hasDfuDescriptor : Bool := false
  interfaces : List UsbInterface := []
  deriving DecidableEq

namespace UsbConfiguration

/-- `std::memcpy` of the first bytes of a descriptor over a structure. -/
def overlay {T : Type} [Layout T] (t : T) (data : Bytes) (length : Nat) : T :=
  let n := min length (Layout.size T)
  Layout.decode (data.take n ++ (Layout.encode t).drop n)

/-- Add an endpoint to the current interface, the last one. -/
def addEndpoint (config : UsbConfiguration) (endpoint : UsbEndpointDescriptor) :
    UsbConfiguration :=
  { config with
    interfaces := config.interfaces.modify (config.interfaces.length - 1)
      (fun i => { i with endpoints := i.endpoints ++ [endpoint] }) }

/-- The current interface is a DFU interface. -/
def currentIsDfu (config : UsbConfiguration) : Bool :=
  match config.interfaces.getLast? with
  | none => false
  | some i => i.interface.bInterfaceClass == usbClassDfu &&
      i.interface.bInterfaceSubClass == usbSubclassDfu

/-- What `parse` does with one descriptor, or `none` when it is too short for its type.
`current` says that an interface descriptor was seen; the current interface is then the
last one. -/
def parseDescriptor (config : UsbConfiguration) (current : Bool) (header : UsbDescriptorHeader)
    (data : Bytes) : Option (UsbConfiguration × Bool) :=
  let length := header.bLength.toNat
  if header.bDescriptorType = usbDtConfig then
    if length < usbDtConfigSize then none
    else
      some ({ config with
        descriptor := (readStruct UsbConfigDescriptor data).getD config.descriptor }, current)
  else if header.bDescriptorType = usbDtInterface then
    if length < usbDtInterfaceSize then none
    else
      some ({ config with
        interfaces := config.interfaces ++
          [{ interface := (readStruct UsbInterfaceDescriptor data).getD default }] }, true)
  else if header.bDescriptorType = usbDtEndpoint then
    if length < usbDtEndpointSize then none
    else if current = false then some (config, current)
    else some (config.addEndpoint (overlay default data length), current)
  else if header.bDescriptorType = usbDtDfuFunctional then
    -- 0x21 is also the HID descriptor type; only inside a DFU interface it is DFU
    if current = true ∧ config.currentIsDfu = true then
      some ({ config with
        dfuDescriptor := overlay config.dfuDescriptor data length
        hasDfuDescriptor := true }, current)
    else some (config, current)
  else some (config, current)

/-- The loop of `parse`. -/
def parseLoop (config : UsbConfiguration) (current : Bool) (data : Bytes) :
    UsbConfiguration × Bool :=
  if data.length = 0 then (config, true)
  else
    match readStruct UsbDescriptorHeader data with
    | none => (config, false)
    | some header =>
      if _hlength : header.bLength.toNat < Layout.size UsbDescriptorHeader ∨
          data.length < header.bLength.toNat then (config, false)
      else
        match config.parseDescriptor current header data with
        | none => (config, false)
        | some (config, current) => parseLoop config current (data.drop header.bLength.toNat)
termination_by data.length
decreasing_by
  have hsize : Layout.size UsbDescriptorHeader = 2 := rfl
  rw [List.length_drop]
  omega

/-- Parses a complete configuration descriptor set. The second component is false when
the descriptors are malformed; what could be parsed is kept. -/
def parse (config : UsbConfiguration) (data : Bytes) : UsbConfiguration × Bool :=
  config.parseLoop false data

end UsbConfiguration

end DemuxUsb
