import DemuxUsb.File.DeviceHandle
import DemuxUsb.Usb.Routing

/-!
# The identifier of a device

A device is numbered by its handle. The number is never looked at: each operation gives
on a renumbered device what it gives on the device, renumbered. So what a handle makes of
the transfers handed to it does not depend on its identifier (`withId_foldl_dispatch`).
-/

namespace DemuxUsb

variable {π : Type}

namespace Device

/-- The device under another number. -/
def withId (d : Device π) (id : UInt64) : Device π := { d with device := id }

variable (d : Device π) (id : UInt64)

/-! ## Descriptors -/

theorem withId_processDeviceDescriptor (data : Bytes) :
    (d.withId id).processDeviceDescriptor data = (d.processDeviceDescriptor data).withId id := by
  unfold processDeviceDescriptor
  split
  · rfl
  · rfl

theorem withId_processConfigDescriptor (data : Bytes) :
    (d.withId id).processConfigDescriptor data = (d.processConfigDescriptor data).withId id := by
  unfold processConfigDescriptor
  cases readStruct UsbConfigDescriptor data with
  | none => rfl
  | some configDescriptor =>
    dsimp only
    split
    · rfl
    · cases (UsbConfiguration.parse {} (data.take configDescriptor.wTotalLength.toNat)).2 with
      | true =>
        simp only [if_true]
        show (if _ ∈ d.configurations then _ else _) = _
        split
        · rfl
        · rfl
      | false =>
        simp only [Bool.false_eq_true, if_false]
        show (if _ ∈ d.configurations then _ else _) = withId (if _ ∈ d.configurations then _ else _) id
        split
        · rfl
        · rfl

theorem withId_processStringDescriptor (index : UInt8) (header : UsbDescriptorHeader)
    (data : Bytes) : (d.withId id).processStringDescriptor index header data =
      (d.processStringDescriptor index header data).withId id := by
  unfold processStringDescriptor
  split
  · rfl
  · split
    · rfl
    · rfl

theorem withId_processBosDescriptor (data : Bytes) :
    (d.withId id).processBosDescriptor data = (d.processBosDescriptor data).withId id := by
  unfold processBosDescriptor
  cases readStruct UsbBosDescriptor data with
  | none => rfl
  | some bosDescriptor =>
    dsimp only
    split
    · rfl
    · split
      · rfl
      · rfl

theorem withId_processDescriptor (setup : UsbSetup) (data : Bytes) :
    (d.withId id).processDescriptor setup data = (d.processDescriptor setup data).withId id := by
  unfold processDescriptor
  cases readStruct UsbDescriptorHeader data with
  | none => rfl
  | some header =>
    dsimp only
    split
    · rfl
    · split
      · exact withId_processDeviceDescriptor d id data
      · split
        · exact withId_processConfigDescriptor d id data
        · split
          · exact withId_processStringDescriptor d id _ header data
          · split
            · exact withId_processBosDescriptor d id data
            · rfl

/-! ## Packets -/

theorem withId_getExpertForEndpoint (endpoint : UInt8) :
    (d.withId id).getExpertForEndpoint endpoint = d.getExpertForEndpoint endpoint := by
  have hsame : SameRouting d (d.withId id) := ⟨rfl, rfl, rfl⟩
  exact hsame.getExpertForEndpoint endpoint

theorem withId_withExpert (expert : Option Nat) (f : Expert π → Expert π) :
    (d.withId id).withExpert expert f = (d.withExpert expert f).withId id := by
  cases expert with
  | none => rfl
  | some i => rfl

theorem withId_processControlPacketIn (endpoint : UInt8) (setup : UsbSetup) (data : Bytes) :
    (d.withId id).processControlPacketIn endpoint setup data =
      (d.processControlPacketIn endpoint setup data).withId id := by
  let counted : Device π := { d with
    controlPacketCount := d.controlPacketCount + 1
    controlByteCount := d.controlByteCount + UInt64.ofNat data.length }
  unfold processControlPacketIn
  dsimp only
  split
  · rfl
  · split
    · split
      · exact withId_processDescriptor counted id setup data
      · rfl
    · exact withId_withExpert counted id _ _

theorem withId_processControlPacketOut (endpoint : UInt8) (setup : UsbSetup) (data : Bytes) :
    (d.withId id).processControlPacketOut endpoint setup data =
      (d.processControlPacketOut endpoint setup data).withId id := by
  let counted : Device π := { d with
    controlPacketCount := d.controlPacketCount + 1
    controlByteCount := d.controlByteCount + UInt64.ofNat data.length }
  unfold processControlPacketOut
  dsimp only
  split
  · rfl
  · split
    · split
      · rfl
      · split
        · rfl
        · rfl
    · exact withId_withExpert counted id _ _

variable [Libplist π]

theorem withId_processBulkPacketIn (endpoint : UInt8) (data : Bytes) :
    (d.withId id).processBulkPacketIn endpoint data =
      (d.processBulkPacketIn endpoint data).withId id := by
  let counted : Device π := { d with
    packetCount := d.packetCount + 1
    byteCount := d.byteCount + UInt64.ofNat data.length }
  show (counted.withId id).withExpert ((counted.withId id).getExpertForEndpoint (endpoint ||| 0x80)) _ =
    (counted.withExpert (counted.getExpertForEndpoint (endpoint ||| 0x80)) _).withId id
  rw [withId_getExpertForEndpoint, withId_withExpert]

theorem withId_processBulkPacketOut (endpoint : UInt8) (data : Bytes) :
    (d.withId id).processBulkPacketOut endpoint data =
      (d.processBulkPacketOut endpoint data).withId id := by
  let counted : Device π := { d with
    packetCount := d.packetCount + 1
    byteCount := d.byteCount + UInt64.ofNat data.length }
  show (counted.withId id).withExpert ((counted.withId id).getExpertForEndpoint (usbEndpointId endpoint)) _ =
    (counted.withExpert (counted.getExpertForEndpoint (usbEndpointId endpoint)) _).withId id
  rw [withId_getExpertForEndpoint, withId_withExpert]

end Device

/-! ## Handles -/

namespace DeviceHandle

/-- The handle under another number, with all its sessions. -/
def withId (h : DeviceHandle π) (id : UInt64) : DeviceHandle π :=
  { h with
    id := id
    earlier := h.earlier.map (·.withId id)
    device := h.device.withId id }

variable (h : DeviceHandle π) (id : UInt64)

theorem withId_devices : (h.withId id).devices = h.devices.map (·.withId id) := by
  unfold devices
  rw [List.map_append]
  rfl

theorem withId_pushSession : (h.withId id).pushSession = h.pushSession.withId id := by
  unfold pushSession
  rw [withId_devices]
  rfl

theorem withId_dispatchControl (endpoint : UInt8) (setup : UsbSetup) (data : Bytes) :
    (h.withId id).dispatchControl endpoint setup data =
      (h.dispatchControl endpoint setup data).withId id := by
  have hopens : (if (h.withId id).OpensSession setup data then (h.withId id).pushSession
      else h.withId id) = (if h.OpensSession setup data then h.pushSession else h).withId id := by
    show (if h.OpensSession setup data then _ else _) = _
    split
    · exact withId_pushSession h id
    · rfl
  unfold dispatchControl
  rw [hopens]
  dsimp only
  split
  · exact congrArg (fun d => { DeviceHandle.withId _ id with device := d })
      (Device.withId_processControlPacketIn _ id endpoint setup data)
  · exact congrArg (fun d => { DeviceHandle.withId _ id with device := d })
      (Device.withId_processControlPacketOut _ id endpoint setup data)

variable [Libplist π]

theorem withId_dispatch (d : Dispatch) : (h.withId id).dispatch d = (h.dispatch d).withId id := by
  cases d with
  | control endpoint setup data => exact withId_dispatchControl h id endpoint setup data
  | bulkIn endpoint data =>
    exact congrArg (fun d => { h.withId id with device := d })
      (Device.withId_processBulkPacketIn h.device id endpoint data)
  | bulkOut endpoint data =>
    exact congrArg (fun d => { h.withId id with device := d })
      (Device.withId_processBulkPacketOut h.device id endpoint data)

/-- What a handle makes of a list of transfers does not depend on its number. -/
theorem withId_foldl_dispatch (ds : List Dispatch) :
    ds.foldl dispatch (h.withId id) = (ds.foldl dispatch h).withId id := by
  induction ds generalizing h with
  | nil => rfl
  | cons d ds ih =>
    rw [List.foldl_cons, withId_dispatch, ih]
    rfl

end DeviceHandle

end DemuxUsb
