import DemuxUsb.Usb.Device

/-!
# What a descriptor does to a device

`processDescriptor` stores at most one thing. `processDescriptor_effect` goes through its
branches once; what is left unchanged is read off its cases.
-/

namespace DemuxUsb

open Endian

namespace Device

variable {π : Type}

/-- What the answer to a GET_DESCRIPTOR request can make of a device. -/
inductive DescriptorEffect (d : Device π) (setup : UsbSetup) (data : Bytes) : Device π → Prop
  /-- Nothing is stored; something may be reported. -/
  | kept (anomalies : List String) : DescriptorEffect d setup data { d with anomalies := anomalies }
  | device (hrequested : (setup.wValue >>> 8).toUInt8 = usbDtDevice)
      (hreturned : u8 data 1 = usbDtDevice) (hcomplete : usbDtDeviceSize ≤ data.length)
      (descriptor : UsbDeviceDescriptor) :
      DescriptorEffect d setup data
        { d with deviceDescriptor := descriptor, hasDeviceDescriptor := true }
  /-- A descriptor set was read in full, and a configuration of its value is not stored yet. -/
  | config (total : Nat) (config : UsbConfiguration)
      (hconfig : config = (UsbConfiguration.parse {} (data.take total)).1)
      (hnew : config.descriptor.bConfigurationValue ∉ d.configurations)
      (anomalies : List String) :
      DescriptorEffect d setup data
        { d with
          anomalies := anomalies
          experts := (d.attachExperts config).1
          configurations := d.configurations.insert config.descriptor.bConfigurationValue
            (d.attachExperts config).2 }
  | string (index : UInt8) (text : Bytes) :
      DescriptorEffect d setup data { d with strings := d.strings.insert index text }
  | bos (descriptor : BosDescriptor) :
      DescriptorEffect d setup data
        { d with bosDescriptors := d.bosDescriptors ++ [descriptor] }

/-- The type in a descriptor is its second byte. -/
theorem bDescriptorType_of_readStruct {data : Bytes} {header : UsbDescriptorHeader}
    (h : readStruct UsbDescriptorHeader data = some header) :
    header.bDescriptorType = u8 data 1 := by
  rw [readStruct_of_le (size_le_of_readStruct h)] at h
  rw [← Option.some.inj h]
  show u8 (data.take 2) 1 = u8 data 1
  simp [u8]

section

variable (d : Device π) (setup : UsbSetup) (data : Bytes)

theorem processDeviceDescriptor_effect (hrequested : (setup.wValue >>> 8).toUInt8 = usbDtDevice)
    (hreturned : u8 data 1 = usbDtDevice) :
    DescriptorEffect d setup data (d.processDeviceDescriptor data) := by
  unfold processDeviceDescriptor
  split
  · exact .kept _
  · next hcomplete => exact .device hrequested hreturned (Nat.not_lt.mp hcomplete) _

theorem processConfigDescriptor_effect :
    DescriptorEffect d setup data (d.processConfigDescriptor data) := by
  unfold processConfigDescriptor
  cases readStruct UsbConfigDescriptor data with
  | none => exact .kept _
  | some descriptor =>
    dsimp only
    split
    · exact .kept _
    split
    · split
      · exact .kept _
      · next hnew => exact .config _ _ rfl hnew _
    -- the malformed set is reported, and stored as far as it was read
    · split
      · exact .kept _
      · next hnew => exact DescriptorEffect.config (d := d) _ _ rfl hnew (d.anomaly _).anomalies

theorem processStringDescriptor_effect (index : UInt8) (header : UsbDescriptorHeader) :
    DescriptorEffect d setup data (d.processStringDescriptor index header data) := by
  unfold processStringDescriptor
  split
  · exact .kept _
  split
  · exact .kept _
  · exact .string _ _

theorem processBosDescriptor_effect :
    DescriptorEffect d setup data (d.processBosDescriptor data) := by
  unfold processBosDescriptor
  cases readStruct UsbBosDescriptor data with
  | none => exact .kept _
  | some descriptor =>
    dsimp only
    split
    · exact .kept _
    split
    · exact .kept _
    · exact .bos _

/-- **Step lemma.** -/
theorem processDescriptor_effect :
    DescriptorEffect d setup data (d.processDescriptor setup data) := by
  unfold processDescriptor
  cases hheader : readStruct UsbDescriptorHeader data with
  | none => exact .kept _
  | some header =>
    dsimp only
    split
    · exact .kept _
    next hmatch =>
    rw [ne_eq, not_not, bDescriptorType_of_readStruct hheader] at hmatch
    split
    · next hdevice => exact processDeviceDescriptor_effect d setup data hdevice (hmatch.trans hdevice)
    split
    · exact processConfigDescriptor_effect d setup data
    split
    · exact processStringDescriptor_effect d setup data _ header
    split
    · exact processBosDescriptor_effect d setup data
    · exact .kept _

end

end Device

end DemuxUsb
