import DemuxUsb.File.DeviceHandle
import DemuxUsb.Usb.DescriptorEffect

/-!
# The descriptor of a session

Only the answer to a `GET_DESCRIPTOR(DEVICE)` on endpoint 0 can change the device
descriptor of a session, and only when it is long enough and has the right type
(`sameDescriptor_processControlPacketIn`,
`processControlPacketIn_of_accepts`).
-/

namespace DemuxUsb

open Endian

/-- The image of a device descriptor determines it. -/
theorem encode_decode_deviceDescriptor {b : Bytes} (h : b.length = 18) :
    Layout.encode (Layout.decode b : UsbDeviceDescriptor) = b := by
  match b, h with
  | [b₀, b₁, b₂, b₃, b₄, b₅, b₆, b₇, b₈, b₉, b₁₀, b₁₁, b₁₂, b₁₃, b₁₄, b₁₅, b₁₆, b₁₇], _ =>
    simp [Layout.encode, Layout.decode, le16Bytes_le16]

namespace Device

/-- A request type of standard type for the device, with data for the host. -/
theorem requestType_eq {b : UInt8} (hin : b &&& usbDirIn ≠ 0)
    (htype : b &&& usbTypeMask = usbTypeStandard) (hrecip : b &&& usbRecipMask = usbRecipDevice) :
    b = usbDirIn ||| usbTypeStandard ||| usbRecipDevice := by
  -- one of 256 bytes
  have hall : ∀ i : Fin 256, (⟨⟨i⟩⟩ : UInt8) &&& usbDirIn ≠ 0 →
      (⟨⟨i⟩⟩ : UInt8) &&& usbTypeMask = usbTypeStandard →
      (⟨⟨i⟩⟩ : UInt8) &&& usbRecipMask = usbRecipDevice →
      (⟨⟨i⟩⟩ : UInt8) = usbDirIn ||| usbTypeStandard ||| usbRecipDevice := by
    decide +kernel
  exact hall b.toBitVec.toFin hin htype hrecip

variable {π : Type}

/-- The answer is stored as the device descriptor. -/
def AcceptsDescriptor (endpoint : UInt8) (setup : UsbSetup) (data : Bytes) : Prop :=
  usbEndpointId endpoint = 0 ∧ DeviceHandle.isControlDescriptorRead setup = true ∧
    u8 data 1 = usbDtDevice ∧ usbDtDeviceSize ≤ data.length

instance (endpoint : UInt8) (setup : UsbSetup) (data : Bytes) :
    Decidable (AcceptsDescriptor endpoint setup data) :=
  inferInstanceAs (Decidable (_ ∧ _ ∧ _ ∧ _))

/-- The two devices have the same descriptor, or none. -/
def SameDescriptor (d d' : Device π) : Prop :=
  d'.hasDeviceDescriptor = d.hasDeviceDescriptor ∧ d'.deviceDescriptor = d.deviceDescriptor

theorem SameDescriptor.refl (d : Device π) : SameDescriptor d d := ⟨rfl, rfl⟩

theorem SameDescriptor.trans {d d' d'' : Device π} (h : SameDescriptor d d')
    (h' : SameDescriptor d' d'') : SameDescriptor d d'' :=
  ⟨h'.1.trans h.1, h'.2.trans h.2⟩

theorem sameDescriptor_withExpert (d : Device π) (expert : Option Nat)
    (f : Expert π → Expert π) : SameDescriptor d (d.withExpert expert f) := by
  cases expert <;> exact ⟨rfl, rfl⟩

/-- Only the answer about the device descriptor changes it. -/
theorem DescriptorEffect.sameDescriptor {d d' : Device π} {setup : UsbSetup} {data : Bytes}
    (h : DescriptorEffect d setup data d')
    (hother : ¬ ((setup.wValue >>> 8).toUInt8 = usbDtDevice ∧ u8 data 1 = usbDtDevice ∧
      usbDtDeviceSize ≤ data.length)) : SameDescriptor d d' := by
  cases h with
  | kept anomalies => exact ⟨rfl, rfl⟩
  | device hrequested hreturned hcomplete descriptor =>
    exact absurd ⟨hrequested, hreturned, hcomplete⟩ hother
  | config total config hconfig hnew anomalies => exact ⟨rfl, rfl⟩
  | string index text => exact ⟨rfl, rfl⟩
  | bos descriptor => exact ⟨rfl, rfl⟩

section ControlIn

variable {endpoint : UInt8} {setup : UsbSetup} {data : Bytes}

theorem sameDescriptor_processControlPacketIn (d : Device π) (hin : setup.isIn = true)
    (hother : ¬ AcceptsDescriptor endpoint setup data) :
    SameDescriptor d (d.processControlPacketIn endpoint setup data) := by
  unfold processControlPacketIn
  dsimp only
  split
  · exact ⟨rfl, rfl⟩
  rename_i hendpoint
  rw [ne_eq, not_not] at hendpoint
  split
  · rename_i htype
    split
    · rename_i hget
      have hread : ¬ ((setup.wValue >>> 8).toUInt8 = usbDtDevice ∧ u8 data 1 = usbDtDevice ∧
          usbDtDeviceSize ≤ data.length) := by
        rintro ⟨hdevice, haccepts⟩
        refine hother ⟨hendpoint, ?_, haccepts⟩
        rw [UsbSetup.isIn, bne_iff_ne] at hin
        unfold DeviceHandle.isControlDescriptorRead
        rw [requestType_eq hin htype hget.2, hget.1, hdevice]
        rfl
      exact (processDescriptor_effect _ setup data).sameDescriptor hread
    · exact ⟨rfl, rfl⟩
  · exact sameDescriptor_withExpert _ _ _

/-- **Spec lemma.** An accepted answer is the descriptor. -/
theorem processControlPacketIn_of_accepts (d : Device π)
    (h : AcceptsDescriptor endpoint setup data) :
    (d.processControlPacketIn endpoint setup data).hasDeviceDescriptor = true ∧
      Layout.encode (d.processControlPacketIn endpoint setup data).deviceDescriptor =
        data.take usbDtDeviceSize := by
  obtain ⟨hendpoint, hread, htype, hlen⟩ := h
  unfold DeviceHandle.isControlDescriptorRead at hread
  simp only [Bool.and_eq_true, beq_iff_eq] at hread
  obtain ⟨⟨hrequest, hget⟩, hdevice⟩ := hread
  have hheader : readStruct UsbDescriptorHeader data = some ⟨u8 data 0, usbDtDevice⟩ := by
    rw [← htype]
    have heighteen : usbDtDeviceSize = 18 := rfl
    match data with
    | b₀ :: b₁ :: r =>
      exact readStruct_of_le (by simp [Layout.size])
  have hfull : readStruct UsbDeviceDescriptor data =
      some (Layout.decode (data.take usbDtDeviceSize)) := readStruct_of_le hlen
  have hstandard : setup.bmRequestType &&& usbTypeMask = usbTypeStandard := by
    rw [hrequest]
    rfl
  have hrecipient : setup.bmRequestType &&& usbRecipMask = usbRecipDevice := by
    rw [hrequest]
    rfl
  unfold processControlPacketIn processDescriptor
  simp only [hendpoint, ne_eq, not_true_eq_false, if_false, hstandard, if_true, hget, hrecipient,
    and_self, hheader, hdevice, processDeviceDescriptor, Nat.not_lt.mpr hlen, hfull,
    Option.getD_some, true_and]
  exact encode_decode_deviceDescriptor (by rw [List.length_take]; exact Nat.min_eq_left hlen)

end ControlIn

theorem sameDescriptor_processControlPacketOut (d : Device π) (endpoint : UInt8)
    (setup : UsbSetup) (data : Bytes) :
    SameDescriptor d (d.processControlPacketOut endpoint setup data) := by
  unfold processControlPacketOut
  dsimp only
  split
  · exact ⟨rfl, rfl⟩
  split
  · split
    · exact ⟨rfl, rfl⟩
    split <;> exact ⟨rfl, rfl⟩
  · exact sameDescriptor_withExpert _ _ _

theorem sameDescriptor_processBulkPacketIn [Libplist π] (d : Device π) (endpoint : UInt8)
    (data : Bytes) : SameDescriptor d (d.processBulkPacketIn endpoint data) :=
  sameDescriptor_withExpert _ _ _

theorem sameDescriptor_processBulkPacketOut [Libplist π] (d : Device π) (endpoint : UInt8)
    (data : Bytes) : SameDescriptor d (d.processBulkPacketOut endpoint data) :=
  sameDescriptor_withExpert _ _ _

end Device

end DemuxUsb
