import DemuxUsb.Usb.Device

/-!
# `DeviceHandle`

The submissions and completions of the transfers of one device address. `Transfers` is
the part that pairs them, `m_inflight` with `m_unmatched`; what it hands on to the current
session is a `Dispatch`.
-/

namespace DemuxUsb

/-! ## Transfers in flight -/

structure Pending where
  control : Bool := false
  setup : UsbSetup := default
  data : Bytes := []
  deriving DecidableEq

/-- `transfer_key`: control transfers are keyed by endpoint number, bulk transfers by
endpoint address. -/
abbrev TransferKey := UInt8 × UInt64

instance : Ord TransferKey := lexOrd

/-- A transfer handed on to a device. -/
inductive Dispatch where
  | control (endpoint : UInt8) (setup : UsbSetup) (data : Bytes)
  | bulkIn (endpoint : UInt8) (data : Bytes)
  | bulkOut (endpoint : UInt8) (data : Bytes)
  deriving DecidableEq

/-- The function of the device that takes it. -/
def Dispatch.packet : Dispatch → DevicePacket
  | .control endpoint setup data =>
    if setup.isIn then .controlIn endpoint setup data else .controlOut endpoint setup data
  | .bulkIn endpoint data => .bulkIn endpoint data
  | .bulkOut endpoint data => .bulkOut endpoint data

structure Transfers where
  unmatched : UInt64 := 0
  inflight : Std.ExtTreeMap TransferKey Pending := ∅
  deriving DecidableEq

namespace Transfers

/-- `endControl`'s choice of the payload. -/
def controlPayload (pending : Pending) (data : Bytes) : Bytes :=
  let payload :=
    if pending.setup.isIn then
      if data.length = 0 ∧ pending.data ≠ [] then pending.data else data
    else if pending.data ≠ [] then pending.data else data
  -- never hand on more than was requested
  payload.take pending.setup.wLength.toNat

def beginControl (t : Transfers) (endpoint : UInt8) (id : UInt64) (setup : UsbSetup)
    (data : Bytes) : Transfers :=
  { t with inflight := t.inflight.insert (usbEndpointId endpoint, id) ⟨true, setup, data⟩ }

def appendControl (t : Transfers) (endpoint : UInt8) (id : UInt64) (data : Bytes) : Transfers :=
  match t.inflight[(usbEndpointId endpoint, id)]? with
  | none => t
  | some pending =>
    { t with
      inflight := t.inflight.insert (usbEndpointId endpoint, id)
        { pending with data := pending.data ++ data } }

def endControl (t : Transfers) (endpoint : UInt8) (id : UInt64) (data : Bytes) :
    Transfers × Option Dispatch :=
  match t.inflight[(usbEndpointId endpoint, id)]? with
  -- the completion of a transfer submitted before the capture started
  | none => ({ t with unmatched := t.unmatched + 1 }, none)
  | some pending =>
    if pending.control = false then ({ t with unmatched := t.unmatched + 1 }, none)
    else
      ({ t with inflight := t.inflight.erase (usbEndpointId endpoint, id) },
        some (.control (usbEndpointId endpoint) pending.setup (controlPayload pending data)))

def beginBulk (t : Transfers) (endpoint : UInt8) (id : UInt64) (data : Bytes) : Transfers :=
  { t with
    inflight := t.inflight.insert (endpoint, id)
      { data := if usbEndpointOut endpoint then data else [] } }

def endBulk (t : Transfers) (endpoint : UInt8) (id : UInt64) (data : Bytes) :
    Transfers × Option Dispatch :=
  let found := t.inflight[(endpoint, id)]?
  let pending := found.getD {}
  let t :=
    if found.isSome then { t with inflight := t.inflight.erase (endpoint, id) }
    else { t with unmatched := t.unmatched + 1 }
  if usbEndpointIn endpoint then (t, some (.bulkIn (usbEndpointId endpoint) data))
  else
    let payload := if data.length = 0 ∧ pending.data ≠ [] then pending.data else data
    (t, some (.bulkOut (usbEndpointId endpoint) payload))

/-- Drops an in-flight transfer that completed with an error. -/
def abort (t : Transfers) (endpoint : UInt8) (id : UInt64) : Transfers :=
  { t with
    inflight := (t.inflight.erase (endpoint, id)).erase (usbEndpointId endpoint, id) }

end Transfers

/-- The calls a capture makes on a handle. -/
inductive Call where
  | beginControl (endpoint : UInt8) (id : UInt64) (setup : UsbSetup) (data : Bytes)
  | appendControl (endpoint : UInt8) (id : UInt64) (data : Bytes)
  | endControl (endpoint : UInt8) (id : UInt64) (data : Bytes)
  | beginBulk (endpoint : UInt8) (id : UInt64) (data : Bytes)
  | endBulk (endpoint : UInt8) (id : UInt64) (data : Bytes)
  | abort (endpoint : UInt8) (id : UInt64)
  deriving DecidableEq

/-- One call: the transfers in flight after it, and what it hands on. -/
def Transfers.call (t : Transfers) : Call → Transfers × Option Dispatch
  | .beginControl endpoint id setup data => (t.beginControl endpoint id setup data, none)
  | .appendControl endpoint id data => (t.appendControl endpoint id data, none)
  | .endControl endpoint id data => t.endControl endpoint id data
  | .beginBulk endpoint id data => (t.beginBulk endpoint id data, none)
  | .endBulk endpoint id data => t.endBulk endpoint id data
  | .abort endpoint id => (t.abort endpoint id, none)

/-! ## The handle -/

/-- The sessions are those in `earlier` and the current one, `device`. -/
structure DeviceHandle (π : Type) where
  id : UInt64
  transfers : Transfers := {}
  earlier : List (Device π) := []
  device : Device π := { device := id }

namespace DeviceHandle

variable {π : Type}

/-- Every session seen on this address. -/
def devices (h : DeviceHandle π) : List (Device π) := h.earlier ++ [h.device]

/-- `GET_DESCRIPTOR(DEVICE)`, addressed to the device. -/
def isControlDescriptorRead (setup : UsbSetup) : Bool :=
  setup.bmRequestType == (usbDirIn ||| usbTypeStandard ||| usbRecipDevice) &&
    setup.bRequest == usbReqGetDescriptor && (setup.wValue >>> 8).toUInt8 == usbDtDevice

/-- The answer to a `GET_DESCRIPTOR(DEVICE)` differs from the descriptor the session has. -/
def OpensSession (h : DeviceHandle π) (setup : UsbSetup) (data : Bytes) : Prop :=
  isControlDescriptorRead setup = true ∧ usbDtDeviceSize ≤ data.length ∧
    h.device.hasDeviceDescriptor = true ∧
    Layout.encode h.device.deviceDescriptor ≠ data.take usbDtDeviceSize

instance (h : DeviceHandle π) (setup : UsbSetup) (data : Bytes) :
    Decidable (h.OpensSession setup data) := inferInstanceAs (Decidable (_ ∧ _ ∧ _ ∧ _))

/-- `m_sessions.push_back(std::make_unique<Device>(m_id))` -/
def pushSession (h : DeviceHandle π) : DeviceHandle π :=
  { h with earlier := h.devices, device := { device := h.id } }

def dispatchControl (h : DeviceHandle π) (endpoint : UInt8) (setup : UsbSetup) (data : Bytes) :
    DeviceHandle π :=
  let h := if h.OpensSession setup data then h.pushSession else h
  if setup.isIn then { h with device := h.device.processControlPacketIn endpoint setup data }
  else { h with device := h.device.processControlPacketOut endpoint setup data }

variable [Libplist π]

/-- The current session is handed a transfer. -/
def dispatch (h : DeviceHandle π) : Dispatch → DeviceHandle π
  | .control endpoint setup data => h.dispatchControl endpoint setup data
  | .bulkIn endpoint data => { h with device := h.device.processBulkPacketIn endpoint data }
  | .bulkOut endpoint data => { h with device := h.device.processBulkPacketOut endpoint data }

/-- One call on the handle. -/
def call (h : DeviceHandle π) (c : Call) : DeviceHandle π :=
  let r := h.transfers.call c
  let h := { h with transfers := r.1 }
  match r.2 with
  | none => h
  | some d => h.dispatch d

end DeviceHandle

end DemuxUsb
