import DemuxUsb.Usb.Routing

/-!
# The identity of an expert

An expert learns from the traffic it is handed, but its class, the transfer size of the DFU
class, and the configuration and interface it was made for never change. What the experts
have in common, their counters, they hand on to `InterfaceExpert` (`base_receive`).
-/

namespace DemuxUsb

variable {π : Type}

/-! ## Counters -/

namespace InterfaceExpert

/-- The counters after one transfer. -/
def receive (e : InterfaceExpert) : Delivery → InterfaceExpert
  | .controlIn setup data => e.processControlIn setup data
  | .controlOut setup data => e.processControlOut setup data
  | .bulkIn data => e.processBulkIn data
  | .bulkOut data => e.processBulkOut data

end InterfaceExpert

namespace DFUInterfaceExpert

/-- What a control transfer leaves alone, next to the counters. -/
theorem processControlOut_base (e : DFUInterfaceExpert) (setup : UsbSetup) (data : Bytes) :
    (e.processControlOut setup data).toInterfaceExpert =
        e.toInterfaceExpert.processControlOut setup data ∧
      (e.processControlOut setup data).transferSize = e.transferSize := by
  unfold processControlOut
  dsimp only
  -- requests append to the images, the current image, the counts and the anomalies
  split_ifs <;> exact ⟨rfl, rfl⟩

theorem processControlIn_base (e : DFUInterfaceExpert) (setup : UsbSetup) (data : Bytes) :
    (e.processControlIn setup data).toInterfaceExpert =
        e.toInterfaceExpert.processControlIn setup data ∧
      (e.processControlIn setup data).transferSize = e.transferSize := by
  unfold processControlIn
  dsimp only
  split_ifs <;> exact ⟨rfl, rfl⟩

end DFUInterfaceExpert

namespace RecoveryInterfaceExpert

theorem processControlOut_base (e : RecoveryInterfaceExpert) (setup : UsbSetup) (data : Bytes) :
    (e.processControlOut setup data).toInterfaceExpert =
      e.toInterfaceExpert.processControlOut setup data := by
  unfold processControlOut
  dsimp only
  split_ifs <;> rfl

theorem processControlIn_base (e : RecoveryInterfaceExpert) (setup : UsbSetup) (data : Bytes) :
    (e.processControlIn setup data).toInterfaceExpert =
      e.toInterfaceExpert.processControlIn setup data := by
  unfold processControlIn
  dsimp only
  split_ifs <;> rfl

theorem currentUpload_base (e : RecoveryInterfaceExpert) :
    e.currentUpload.1.toInterfaceExpert = e.toInterfaceExpert := by
  unfold currentUpload
  dsimp only
  split
  · split_ifs <;> rfl
  · split_ifs <;> rfl

theorem processBulkOut_base (e : RecoveryInterfaceExpert) (data : Bytes) :
    (e.processBulkOut data).toInterfaceExpert = e.toInterfaceExpert.processBulkOut data := by
  unfold processBulkOut
  dsimp only
  split
  · rfl
  · exact currentUpload_base _

end RecoveryInterfaceExpert

namespace USBMUXInterfaceExpert

theorem feed_base [Libplist π] (e : USBMUXInterfaceExpert π) (outbound : Bool) (data : Bytes) :
    (e.feed outbound data).toInterfaceExpert = e.toInterfaceExpert := by
  have hpacket : ∀ (e' : USBMUXInterfaceExpert π) protocol payload,
      e'.toInterfaceExpert = e.toInterfaceExpert →
        (e'.processPacket outbound protocol payload).toInterfaceExpert =
          e.toInterfaceExpert := by
    intro e' protocol payload he'
    rw [← he']
    unfold processPacket
    split_ifs <;> rfl
  have hfed := feedInto_induction hpacket ⟨e, e.buffer outbound, e.resyncs⟩ data rfl
  rw [← hfed]
  cases outbound with
  | true => rfl
  | false => rfl

end USBMUXInterfaceExpert

namespace Expert

/-- The counters of an expert. -/
def base : Expert π → InterfaceExpert
  | usbmux e => e.toInterfaceExpert
  | dfu e => e.toInterfaceExpert
  | recovery e => e.toInterfaceExpert

/-- Every expert counts a transfer before it looks at it. -/
theorem base_receive [Libplist π] (e : Expert π) (x : Delivery) :
    (e.receive x).base = e.base.receive x := by
  cases e with
  | usbmux e =>
    cases x with
    | controlIn setup data => rfl
    | controlOut setup data => rfl
    | bulkIn data => exact USBMUXInterfaceExpert.feed_base _ _ _
    | bulkOut data => exact USBMUXInterfaceExpert.feed_base _ _ _
  | dfu e =>
    cases x with
    | controlIn setup data => exact (e.processControlIn_base setup data).1
    | controlOut setup data => exact (e.processControlOut_base setup data).1
    | bulkIn data => rfl
    | bulkOut data => rfl
  | recovery e =>
    cases x with
    | controlIn setup data => exact e.processControlIn_base setup data
    | controlOut setup data => exact e.processControlOut_base setup data
    | bulkIn data => rfl
    | bulkOut data => exact e.processBulkOut_base data

end Expert

/-! ## Identities -/

/-- The class of an expert, with the transfer size of the DFU class. -/
inductive ExpertKind where
  | usbmux
  | dfu (transferSize : UInt16)
  | recovery
  deriving DecidableEq

/-- What never changes of an expert. -/
structure ExpertIdentity where
  kind : ExpertKind
  configuration : UInt8
  interface : UInt8
  deriving DecidableEq

namespace DFUInterfaceExpert

def identity (e : DFUInterfaceExpert) : ExpertIdentity :=
  ⟨.dfu e.transferSize, e.configuration, e.interface⟩

/-- The counters hold what a DFU expert is made for, next to the transfer size. -/
theorem identity_of_base {e e' : DFUInterfaceExpert} {c : InterfaceExpert}
    (h : e'.toInterfaceExpert = c ∧ e'.transferSize = e.transferSize)
    (hconfiguration : c.configuration = e.configuration)
    (hinterface : c.interface = e.interface) : e'.identity = e.identity := by
  unfold identity
  rw [h.1, h.2, hconfiguration, hinterface]

end DFUInterfaceExpert

namespace RecoveryInterfaceExpert

def identity (e : RecoveryInterfaceExpert) : ExpertIdentity :=
  ⟨.recovery, e.configuration, e.interface⟩

/-- The counters hold what a recovery expert is made for. -/
theorem identity_of_base {e e' : RecoveryInterfaceExpert} {c : InterfaceExpert}
    (h : e'.toInterfaceExpert = c) (hconfiguration : c.configuration = e.configuration)
    (hinterface : c.interface = e.interface) : e'.identity = e.identity := by
  unfold identity
  rw [h, hconfiguration, hinterface]

end RecoveryInterfaceExpert

namespace USBMUXInterfaceExpert

def identity (e : USBMUXInterfaceExpert π) : ExpertIdentity :=
  ⟨.usbmux, e.configuration, e.interface⟩

theorem identity_feed [Libplist π] (e : USBMUXInterfaceExpert π) (outbound : Bool)
    (data : Bytes) : (e.feed outbound data).identity = e.identity := by
  unfold identity
  rw [feed_base]

end USBMUXInterfaceExpert

namespace Expert

def identity : Expert π → ExpertIdentity
  | usbmux e => e.identity
  | dfu e => e.identity
  | recovery e => e.identity

variable [Libplist π]

theorem identity_receive (e : Expert π) (x : Delivery) :
    (e.receive x).identity = e.identity := by
  cases e with
  | usbmux e =>
    cases x with
    | controlIn setup data => rfl
    | controlOut setup data => rfl
    | bulkIn data => exact USBMUXInterfaceExpert.identity_feed _ _ _
    | bulkOut data => exact USBMUXInterfaceExpert.identity_feed _ _ _
  | dfu e =>
    cases x with
    | controlIn setup data =>
      exact DFUInterfaceExpert.identity_of_base (e.processControlIn_base setup data) rfl rfl
    | controlOut setup data =>
      exact DFUInterfaceExpert.identity_of_base (e.processControlOut_base setup data) rfl rfl
    | bulkIn data => rfl
    | bulkOut data => rfl
  | recovery e =>
    cases x with
    | controlIn setup data =>
      exact RecoveryInterfaceExpert.identity_of_base (e.processControlIn_base setup data) rfl rfl
    | controlOut setup data =>
      exact RecoveryInterfaceExpert.identity_of_base (e.processControlOut_base setup data) rfl rfl
    | bulkIn data => rfl
    | bulkOut data =>
      exact RecoveryInterfaceExpert.identity_of_base (e.processBulkOut_base data) rfl rfl

end Expert

end DemuxUsb
