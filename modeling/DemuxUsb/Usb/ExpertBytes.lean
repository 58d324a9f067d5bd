import DemuxUsb.Protocol.StreamBytes
import DemuxUsb.Usb.ExpertIdentity

/-!
# What an expert counts

Every expert counts the bulk bytes it is handed. A USBMUX expert counts at least what its
streams and its reassembly buffers account for, and a transfer keeps it so
(`Conserves.receive`).
-/

namespace DemuxUsb

variable {π : Type}

/-! ## Bulk bytes -/

/-- The bytes of a bulk transfer. -/
def DevicePacket.bulkBytes : DevicePacket → Nat
  | .controlIn _ _ _ => 0
  | .controlOut _ _ _ => 0
  | .bulkIn _ data => data.length
  | .bulkOut _ data => data.length

def Delivery.bulkBytes : Delivery → Nat
  | .controlIn _ _ => 0
  | .controlOut _ _ => 0
  | .bulkIn data => data.length
  | .bulkOut data => data.length

theorem toNat_add_ofNat {a : UInt64} {n : Nat} (h : a.toNat + n < 2 ^ 64) :
    (a + UInt64.ofNat n).toNat = a.toNat + n := by
  rw [UInt64.toNat_add, UInt64.toNat_ofNat', Nat.mod_eq_of_lt (a := n) (by omega),
    Nat.mod_eq_of_lt h]

/-! ## Experts -/

namespace InterfaceExpert

def getByteCount (e : InterfaceExpert) : UInt64 := e.bytes

theorem getByteCount_receive (e : InterfaceExpert) (x : Delivery) :
    (e.receive x).getByteCount = e.getByteCount + UInt64.ofNat x.bulkBytes := by
  cases x with
  | controlIn setup data => exact (UInt64.add_zero _).symm
  | controlOut setup data => exact (UInt64.add_zero _).symm
  | bulkIn data => rfl
  | bulkOut data => rfl

end InterfaceExpert

namespace Expert

def getByteCount (e : Expert π) : UInt64 := e.base.getByteCount

/-- A USBMUX expert counts at least what its streams and its buffers account for. -/
def Conserves [Libplist π] : Expert π → Prop
  | usbmux e => e.Known ∧ e.held ≤ e.getByteCount.toNat
  | dfu _ => True
  | recovery _ => True

variable [Libplist π]

theorem getByteCount_receive (e : Expert π) (x : Delivery) :
    (e.receive x).getByteCount = e.getByteCount + UInt64.ofNat x.bulkBytes := by
  rw [getByteCount, base_receive, InterfaceExpert.getByteCount_receive]
  rfl

/-- **Step lemma.** -/
theorem Conserves.receive {e : Expert π} (h : e.Conserves) (x : Delivery)
    (hfits : e.getByteCount.toNat + x.bulkBytes < 2 ^ 64) : (e.receive x).Conserves := by
  have hcount := e.getByteCount_receive x
  cases e with
  | dfu e =>
    cases x with
    | controlIn setup data => trivial
    | controlOut setup data => trivial
    | bulkIn data => trivial
    | bulkOut data => trivial
  | recovery e =>
    cases x with
    | controlIn setup data => trivial
    | controlOut setup data => trivial
    | bulkIn data => trivial
    | bulkOut data => trivial
  | usbmux e =>
    obtain ⟨hknown, hheld⟩ := h
    have hbulk : ∀ outbound (e' : USBMUXInterfaceExpert π) (data : Bytes),
        e'.table = e.table → e'.held = e.held →
        (e'.feed outbound data).getByteCount = e.getByteCount + UInt64.ofNat data.length →
        e.getByteCount.toNat + data.length < 2 ^ 64 →
        (usbmux (e'.feed outbound data)).Conserves := by
      intro outbound e' data htable hheld' hcount hfits
      have hknown' : e'.Known := by
        obtain ⟨log, hlearned⟩ := hknown
        exact ⟨log, htable ▸ hlearned⟩
      obtain ⟨hfed, hle⟩ := USBMUXInterfaceExpert.held_feed hknown' outbound data
      refine ⟨hfed, ?_⟩
      rw [hcount, toNat_add_ofNat hfits]
      omega
    cases x with
    | controlIn setup data => exact ⟨hknown, hheld⟩
    | controlOut setup data => exact ⟨hknown, hheld⟩
    | bulkIn data => exact hbulk false _ data rfl rfl hcount hfits
    | bulkOut data => exact hbulk true _ data rfl rfl hcount hfits

end Expert

end DemuxUsb
