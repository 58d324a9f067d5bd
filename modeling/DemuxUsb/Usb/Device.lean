import DemuxUsb.Protocol.DFUInterfaceExpert
import DemuxUsb.Protocol.RecoveryInterfaceExpert
import DemuxUsb.Protocol.USBMUXInterfaceExpert
import DemuxUsb.Usb.Configuration

/-!
# `Device`

The state machine that reconstructs a device from the packets of its control endpoint
and hands the traffic of its endpoints to the experts of its interfaces.
-/

namespace DemuxUsb

/-! ## Experts -/

/-- The experts of the program; the functions below are the virtual ones. -/
inductive Expert (π : Type) where
  | usbmux (e : USBMUXInterfaceExpert π)
  | dfu (e : DFUInterfaceExpert)
  | recovery (e : RecoveryInterfaceExpert)

namespace Expert

variable {π : Type}

def processControlOut (setup : UsbSetup) (data : Bytes) : Expert π → Expert π
  | usbmux e =>
    usbmux { e with toInterfaceExpert := e.toInterfaceExpert.processControlOut setup data }
  | dfu e => dfu (e.processControlOut setup data)
  | recovery e => recovery (e.processControlOut setup data)

def processControlIn (setup : UsbSetup) (data : Bytes) : Expert π → Expert π
  | usbmux e =>
    usbmux { e with toInterfaceExpert := e.toInterfaceExpert.processControlIn setup data }
  | dfu e => dfu (e.processControlIn setup data)
  | recovery e => recovery (e.processControlIn setup data)

def processBulkOut [Libplist π] (data : Bytes) : Expert π → Expert π
  | usbmux e => usbmux (e.processBulkOut data)
  | dfu e => dfu (e.processBulkOut data)
  | recovery e => recovery (e.processBulkOut data)

def processBulkIn [Libplist π] (data : Bytes) : Expert π → Expert π
  | usbmux e => usbmux (e.processBulkIn data)
  | dfu e => dfu (e.processBulkIn data)
  | recovery e => recovery (e.processBulkIn data)

end Expert

/-! ## The device -/

/-- `bos_descriptor` -/
structure BosDescriptor where
  descriptor : UsbBosDescriptor
  data : Bytes
  deriving DecidableEq

/-- `experts` holds every expert that was made, in the order they were made; interfaces
refer to them by index. -/
structure Device (π : Type) where
  device : UInt64
  packetCount : UInt64 := 0
  byteCount : UInt64 := 0
  controlPacketCount : UInt64 := 0
  controlByteCount : UInt64 := 0
  hasDeviceDescriptor : Bool := false
  currentConfiguration : UInt8 := 0
  deviceDescriptor : UsbDeviceDescriptor := default
  configurations : Std.ExtTreeMap UInt8 UsbConfiguration := ∅
  alternates : Std.ExtTreeMap UInt8 UInt8 := ∅
  strings : Std.ExtTreeMap UInt8 Bytes := ∅
  bosDescriptors : List BosDescriptor := []
  anomalies : List String := []
  experts : List (Expert π) := []

namespace Device

variable {π : Type}

def isApple (d : Device π) : Bool := d.deviceDescriptor.idVendor == appleVid

def isAppleDFU (d : Device π) : Bool :=
  d.deviceDescriptor.idVendor == appleVid &&
    (d.deviceDescriptor.idProduct == irecvKDfuMode || d.deviceDescriptor.idProduct == irecvKWtfMode)

def isAppleRecovery (d : Device π) : Bool :=
  d.deviceDescriptor.idVendor == appleVid &&
    (d.deviceDescriptor.idProduct == irecvKRecoveryMode1 ||
      d.deviceDescriptor.idProduct == irecvKRecoveryMode2 ||
      d.deviceDescriptor.idProduct == irecvKRecoveryMode3 ||
      d.deviceDescriptor.idProduct == irecvKRecoveryMode4)

def getVendorId (d : Device π) : UInt16 := d.deviceDescriptor.idVendor
def getProductId (d : Device π) : UInt16 := d.deviceDescriptor.idProduct

def getMode (d : Device π) : String :=
  if d.hasDeviceDescriptor = false then "Unknown"
  else if d.isApple then
    if d.deviceDescriptor.idProduct = irecvKDfuMode then "DFU"
    else if d.deviceDescriptor.idProduct = irecvKWtfMode then "WTF"
    else if d.isAppleRecovery then "Recovery"
    else "Normal"
  else "Unknown"

def getAlternateSetting (d : Device π) (interface : UInt8) : UInt8 :=
  d.alternates[interface]?.getD 0

def anomaly (d : Device π) (description : String) : Device π :=
  { d with anomalies := d.anomalies ++ [description] }

/-! ## Attaching experts -/

/-- A new DFU expert for a configuration. -/
def dfuExpert (config : UsbConfiguration) (interface : UInt8) : Expert π :=
  .dfu
    { configuration := config.descriptor.bConfigurationValue
      interface := interface
      transferSize := if config.hasDfuDescriptor then config.dfuDescriptor.wTransferSize else 0 }

/-- DFU and recovery devices speak a single protocol across all interfaces. -/
def deviceExpert (d : Device π) (config : UsbConfiguration) : Option (Expert π) :=
  if d.isAppleDFU then some (dfuExpert config 0)
  else if d.isAppleRecovery then
    some (.recovery { configuration := config.descriptor.bConfigurationValue, interface := 0 })
  else none

/-- The expert an interface calls for by its class. -/
def interfaceExpert (d : Device π) (config : UsbConfiguration)
    (descriptor : UsbInterfaceDescriptor) : Option (Expert π) :=
  if d.isApple = true ∧ descriptor.bInterfaceClass = usbClassApplicationSpecific ∧
      descriptor.bInterfaceSubClass = appleSubclassUsbmux ∧
      descriptor.bInterfaceProtocol = appleProtocolUsbmux2 then
    some (.usbmux
      { configuration := config.descriptor.bConfigurationValue
        interface := descriptor.bInterfaceNumber })
  else if descriptor.bInterfaceClass = usbClassDfu ∧
      descriptor.bInterfaceSubClass = usbSubclassDfu then
    some (dfuExpert config descriptor.bInterfaceNumber)
  else none

/-- What the loop of `attachExperts` works on. -/
structure Attaching (π : Type) where
  experts : List (Expert π)
  byInterface : Std.ExtTreeMap UInt8 Nat := ∅
  interfaces : List UsbInterface

/-- The loop body of `attachExperts` for the interface at place `i`. -/
def attachInterface (d : Device π) (config : UsbConfiguration) (s : Attaching π)
    (i : Nat × UsbInterfaceDescriptor) : Attaching π :=
  let number := i.2.bInterfaceNumber
  match s.byInterface[number]? with
  | some expert =>
    { s with interfaces := s.interfaces.modify i.1 (fun entry => { entry with expert := some expert }) }
  | none =>
    match d.interfaceExpert config i.2 with
    | none => s
    | some expert =>
      { experts := s.experts ++ [expert]
        byInterface := s.byInterface.insert number s.experts.length
        interfaces := s.interfaces.map (fun other =>
          if other.interface.bInterfaceNumber = number then
            { other with expert := some s.experts.length }
          else other) }

/-- The experts of the device and the configuration with its experts attached. -/
def attachExperts (d : Device π) (config : UsbConfiguration) :
    List (Expert π) × UsbConfiguration :=
  match d.deviceExpert config with
  | some expert =>
    (d.experts ++ [expert],
      { config with
        interfaces := config.interfaces.map
          (fun entry => { entry with expert := some d.experts.length }) })
  | none =>
    let places := config.interfaces.zipIdx.map (fun entry => (entry.2, entry.1.interface))
    let s := places.foldl (d.attachInterface config)
      { experts := d.experts, interfaces := config.interfaces }
    (s.experts, { config with interfaces := s.interfaces })

/-- The loop body of `getExperts`. `seen` holds what is in the result. -/
def listExpert (result : List Nat) (interface : UsbInterface) : List Nat :=
  match interface.expert with
  | none => result
  | some expert => if expert ∈ result then result else result ++ [expert]

/-- The places of the experts that are attached to an interface. -/
def getExperts (d : Device π) : List Nat :=
  (d.configurations.toList.flatMap (·.2.interfaces)).foldl listExpert []

/-! ## Descriptors -/

/-- `GET_DESCRIPTOR(DEVICE)` -/
def processDeviceDescriptor (d : Device π) (data : Bytes) : Device π :=
  if data.length < usbDtDeviceSize then d
  else
    { d with
      deviceDescriptor := (readStruct UsbDeviceDescriptor data).getD d.deviceDescriptor
      hasDeviceDescriptor := true }

/-- `GET_DESCRIPTOR(CONFIG)` -/
def processConfigDescriptor (d : Device π) (data : Bytes) : Device π :=
  match readStruct UsbConfigDescriptor data with
  | none => d
  | some configDescriptor =>
    let total := configDescriptor.wTotalLength.toNat
    -- only the full descriptor set, not the initial 9 byte read for wTotalLength
    if data.length < total ∨ total ≤ usbDtConfigSize then d
    else
      let parsed := UsbConfiguration.parse {} (data.take total)
      let d :=
        if parsed.2 then d
        else d.anomaly s!"Malformed configuration descriptor {configDescriptor.bConfigurationValue.toNat}"
      let config := parsed.1
      let value := config.descriptor.bConfigurationValue
      -- re-reading a configuration keeps the experts already attached
      if value ∈ d.configurations then d
      else
        let attached := d.attachExperts config
        { d with
          experts := attached.1
          configurations := d.configurations.insert value attached.2 }

/-- `GET_DESCRIPTOR(STRING)` -/
def processStringDescriptor (d : Device π) (index : UInt8) (header : UsbDescriptorHeader)
    (data : Bytes) : Device π :=
  if index = 0 then d
  else if header.bLength < 2 ∨ data.length < header.bLength.toNat then d
  else
    { d with
      strings := d.strings.insert index
        (utf16leToUtf8 ((data.drop 2).take (header.bLength.toNat - 2))) }

/-- `GET_DESCRIPTOR(BOS)` -/
def processBosDescriptor (d : Device π) (data : Bytes) : Device π :=
  match readStruct UsbBosDescriptor data with
  | none => d
  | some bosDescriptor =>
    let total := bosDescriptor.wTotalLength.toNat
    if total < usbDtBosSize ∨ data.length < total then d
    else if total = usbDtBosSize ∧ bosDescriptor.bNumDeviceCaps ≠ 0 then d
    else
      { d with
        bosDescriptors := d.bosDescriptors ++
          [⟨bosDescriptor, (data.take total).drop usbDtBosSize⟩] }

def processDescriptor (d : Device π) (setup : UsbSetup) (data : Bytes) : Device π :=
  let descriptorType := (setup.wValue >>> 8).toUInt8
  let descriptorIndex := (setup.wValue &&& 0xFF).toUInt8
  match readStruct UsbDescriptorHeader data with
  | none => d
  | some header =>
    if header.bDescriptorType ≠ descriptorType then
      d.anomaly s!"GET_DESCRIPTOR(0x{hexText 2 descriptorType.toNat}) returned descriptor type 0x{hexText 2 header.bDescriptorType.toNat}"
    else if descriptorType = usbDtDevice then d.processDeviceDescriptor data
    else if descriptorType = usbDtConfig then d.processConfigDescriptor data
    else if descriptorType = usbDtString then d.processStringDescriptor descriptorIndex header data
    else if descriptorType = usbDtBos then d.processBosDescriptor data
    else d

/-! ## Routing -/

def activeConfiguration (d : Device π) : Option UsbConfiguration :=
  match d.configurations[d.currentConfiguration]? with
  | some config => some config
  | none =>
    -- SET_CONFIGURATION may predate the capture; with a single configuration there is no
    -- ambiguity
    if d.currentConfiguration = 0 ∧ d.configurations.size = 1 then
      d.configurations.minEntry?.map Prod.snd
    else none

/-- The search of `getExpertForEndpoint` among the alternate settings that declare the
endpoint. `fallback` is the first expert met. -/
def searchEndpoint (d : Device π) (fallback : Option Nat) : List UsbInterface → Option Nat
  | [] => fallback
  | i :: rest =>
    if i.interface.bAlternateSetting = d.getAlternateSetting i.interface.bInterfaceNumber then
      i.expert
    else d.searchEndpoint (fallback <|> i.expert) rest

def getExpertForEndpoint (d : Device π) (endpoint : UInt8) : Option Nat :=
  match d.activeConfiguration with
  | none => none
  | some config =>
    d.searchEndpoint none (config.interfaces.flatMap fun i =>
      (i.endpoints.filter (fun e => e.bEndpointAddress = endpoint)).map (fun _ => i))

def getExpertForControl (d : Device π) (setup : UsbSetup) : Option Nat :=
  -- class and vendor requests can precede SET_CONFIGURATION
  match d.activeConfiguration <|> d.configurations.minEntry?.map Prod.snd with
  | none => none
  | some config =>
    if setup.bmRequestType &&& usbRecipMask = usbRecipInterface then
      let number := (setup.wIndex &&& 0xFF).toUInt8
      (config.interfaces.find? (fun i => i.interface.bInterfaceNumber = number)).bind
        UsbInterface.expert
    else config.interfaces.findSome? UsbInterface.expert

/-- Hand something to an expert, if there is one. -/
def withExpert (d : Device π) (expert : Option Nat) (f : Expert π → Expert π) : Device π :=
  match expert with
  | none => d
  | some i => { d with experts := d.experts.modify i f }

/-! ## Packets -/

section Packets

variable [Libplist π]

def processBulkPacketIn (d : Device π) (endpoint : UInt8) (data : Bytes) : Device π :=
  let d := { d with
    packetCount := d.packetCount + 1
    byteCount := d.byteCount + UInt64.ofNat data.length }
  d.withExpert (d.getExpertForEndpoint (endpoint ||| 0x80)) (Expert.processBulkIn data)

def processBulkPacketOut (d : Device π) (endpoint : UInt8) (data : Bytes) : Device π :=
  let d := { d with
    packetCount := d.packetCount + 1
    byteCount := d.byteCount + UInt64.ofNat data.length }
  d.withExpert (d.getExpertForEndpoint (usbEndpointId endpoint)) (Expert.processBulkOut data)

end Packets

def processControlPacketIn (d : Device π) (endpoint : UInt8) (setup : UsbSetup) (data : Bytes) :
    Device π :=
  let d := { d with
    controlPacketCount := d.controlPacketCount + 1
    controlByteCount := d.controlByteCount + UInt64.ofNat data.length }
  if usbEndpointId endpoint ≠ 0 then d
  else if setup.bmRequestType &&& usbTypeMask = usbTypeStandard then
    if setup.bRequest = usbReqGetDescriptor ∧
        setup.bmRequestType &&& usbRecipMask = usbRecipDevice then
      d.processDescriptor setup data
    else d
  else d.withExpert (d.getExpertForControl setup) (Expert.processControlIn setup data)

def processControlPacketOut (d : Device π) (endpoint : UInt8) (setup : UsbSetup) (data : Bytes) :
    Device π :=
  let d := { d with
    controlPacketCount := d.controlPacketCount + 1
    controlByteCount := d.controlByteCount + UInt64.ofNat data.length }
  if usbEndpointId endpoint ≠ 0 then d
  else if setup.bmRequestType &&& usbTypeMask = usbTypeStandard then
    let recipient := setup.bmRequestType &&& usbRecipMask
    if recipient = usbRecipDevice ∧ setup.bRequest = usbReqSetConfiguration then
      { d with currentConfiguration := (setup.wValue &&& 0xFF).toUInt8, alternates := ∅ }
    else if recipient = usbRecipInterface ∧ setup.bRequest = usbReqSetInterface then
      { d with alternates := d.alternates.insert (setup.wIndex &&& 0xFF).toUInt8
                 (setup.wValue &&& 0xFF).toUInt8 }
    else d
  else d.withExpert (d.getExpertForControl setup) (Expert.processControlOut setup data)

end Device

/-- A transfer as one of the four functions above takes it. -/
inductive DevicePacket where
  | controlIn (endpoint : UInt8) (setup : UsbSetup) (data : Bytes)
  | controlOut (endpoint : UInt8) (setup : UsbSetup) (data : Bytes)
  | bulkIn (endpoint : UInt8) (data : Bytes)
  | bulkOut (endpoint : UInt8) (data : Bytes)
  deriving DecidableEq

/-- The device after one transfer. -/
def Device.process {π : Type} [Libplist π] (d : Device π) : DevicePacket → Device π
  | .controlIn endpoint setup data => d.processControlPacketIn endpoint setup data
  | .controlOut endpoint setup data => d.processControlPacketOut endpoint setup data
  | .bulkIn endpoint data => d.processBulkPacketIn endpoint data
  | .bulkOut endpoint data => d.processBulkPacketOut endpoint data

end DemuxUsb
