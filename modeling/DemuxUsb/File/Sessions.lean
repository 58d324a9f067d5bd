import Mathlib.Data.List.Chain
import DemuxUsb.File.TransferPairing
import DemuxUsb.Usb.DeviceDescriptor

/-!
# Sessions

`dispatchControl` opens a session when the answer to a `GET_DESCRIPTOR(DEVICE)` differs
from the descriptor of the current one; whether the new session takes the answer as its
descriptor is decided later, in `Device`, by checks of its own.

* `reenumerated_iff`: the sessions of a handle are always those of different devices
  exactly as long as no answer opens a session that then does not take it.
-/

namespace DemuxUsb.DeviceHandle

open Device

variable {π : Type}

/-! ## The invariant -/

/-- A session that follows another one: it has a descriptor, and not the same one. -/
def Follows (d d' : Device π) : Prop :=
  d'.hasDeviceDescriptor = true ∧
    (d.hasDeviceDescriptor = true → d.deviceDescriptor ≠ d'.deviceDescriptor)

/-- Every session but the first was opened for a different device. -/
def Reenumerated (h : DeviceHandle π) : Prop := h.devices.IsChain Follows

/-- The answer opens a session that does not take it: it is not from endpoint 0, or its
second byte is not the descriptor type. -/
def Misdirected (h : DeviceHandle π) (endpoint : UInt8) (setup : UsbSetup) (data : Bytes) : Prop :=
  h.OpensSession setup data ∧ ¬ (usbEndpointId endpoint = 0 ∧ Endian.u8 data 1 = usbDtDevice)

/-- The call does not complete a control transfer with such an answer. -/
def WellDirected (h : DeviceHandle π) : Call → Prop
  | .endControl endpoint id data =>
    ∀ pending, h.transfers.inflight[((usbEndpointId endpoint, id) : TransferKey)]? = some pending →
      pending.control = true →
        ¬ h.Misdirected endpoint pending.setup (Transfers.controlPayload pending data)
  | _ => True

/-- A transfer handed on is not such an answer. -/
def Directed (h : DeviceHandle π) : Dispatch → Prop
  | .control endpoint setup data => ¬ h.Misdirected endpoint setup data
  | _ => True

/-- Only the completion of a control transfer hands on a control transfer. -/
theorem wellDirected_iff (h : DeviceHandle π) (c : Call) :
    h.WellDirected c ↔ ∀ d ∈ (h.transfers.call c).2, h.Directed d := by
  cases c with
  | endControl endpoint id data =>
    unfold WellDirected Transfers.call Transfers.endControl
    dsimp only
    cases h.transfers.inflight[((usbEndpointId endpoint, id) : TransferKey)]? with
    | none => simp
    | some pending =>
      cases hcontrol : pending.control
      · simp [hcontrol]
      · simp [hcontrol, Directed, Misdirected, usbEndpointId_idem]
  | endBulk endpoint id data =>
    unfold WellDirected Transfers.call Transfers.endBulk
    dsimp only
    cases usbEndpointIn endpoint <;> simp [Directed]
  | beginControl endpoint id setup data => simp [WellDirected, Transfers.call]
  | appendControl endpoint id data => simp [WellDirected, Transfers.call]
  | beginBulk endpoint id data => simp [WellDirected, Transfers.call]
  | abort endpoint id => simp [WellDirected, Transfers.call]

theorem reenumerated_new (id : UInt64) : ({ id := id } : DeviceHandle π).Reenumerated :=
  List.isChain_singleton _

theorem reenumerated_iff_last (h : DeviceHandle π) :
    h.Reenumerated ↔ h.earlier.IsChain Follows ∧
      ∀ d ∈ h.earlier.getLast?, Follows d h.device := by
  unfold Reenumerated devices
  rw [List.isChain_append]
  simp

/-- The current session may change, as long as its descriptor does not. -/
theorem Reenumerated.of_same {h h' : DeviceHandle π} (hchain : h.Reenumerated)
    (hearlier : h'.earlier = h.earlier) (hsame : SameDescriptor h.device h'.device) :
    h'.Reenumerated := by
  rw [reenumerated_iff_last] at hchain ⊢
  rw [hearlier]
  refine ⟨hchain.1, ?_⟩
  intro d hd
  obtain ⟨hhas, hdiffer⟩ := hchain.2 d hd
  refine ⟨by rw [hsame.1, hhas], ?_⟩
  rw [hsame.2]
  exact hdiffer

theorem isIn_of_read {setup : UsbSetup} (h : isControlDescriptorRead setup = true) :
    setup.isIn = true := by
  unfold isControlDescriptorRead at h
  simp only [Bool.and_eq_true, beq_iff_eq] at h
  rw [UsbSetup.isIn, h.1.1]
  rfl

/-! ## Steps -/

section Dispatch

variable {h : DeviceHandle π} {endpoint : UInt8} {setup : UsbSetup} {data : Bytes}

/-- A session is opened for the answer. -/
theorem dispatchControl_of_opens (hopens : h.OpensSession setup data) :
    h.dispatchControl endpoint setup data = { h.pushSession with
      device := h.pushSession.device.processControlPacketIn endpoint setup data } := by
  unfold dispatchControl
  rw [if_pos hopens]
  exact if_pos (isIn_of_read hopens.1)

/-- A session opened for an answer that it takes. -/
theorem reenumerated_of_opens (hchain : h.Reenumerated) (hopens : h.OpensSession setup data)
    (hdirected : usbEndpointId endpoint = 0 ∧ Endian.u8 data 1 = usbDtDevice) :
    (h.dispatchControl endpoint setup data).Reenumerated := by
  obtain ⟨hread, hlen, hhas, hdiffer⟩ := hopens
  obtain ⟨hnew, himage⟩ := processControlPacketIn_of_accepts h.pushSession.device
    ⟨hdirected.1, hread, hdirected.2, hlen⟩
  rw [dispatchControl_of_opens ⟨hread, hlen, hhas, hdiffer⟩, reenumerated_iff_last]
  refine ⟨hchain, ?_⟩
  intro d hd
  have hlast : d = h.device := by
    simpa [pushSession, devices, eq_comm] using hd
  rw [hlast]
  refine ⟨hnew, fun _ heq => hdiffer ?_⟩
  rw [heq, himage]

/-- A session opened for an answer that it does not take has no descriptor. -/
theorem not_reenumerated_of_opens (hopens : h.OpensSession setup data)
    (hdirected : ¬ (usbEndpointId endpoint = 0 ∧ Endian.u8 data 1 = usbDtDevice)) :
    ¬ (h.dispatchControl endpoint setup data).Reenumerated := by
  rw [dispatchControl_of_opens hopens, reenumerated_iff_last]
  rintro ⟨-, hlast⟩
  have hfollows := hlast h.device (by simp [pushSession, devices])
  have haccepts : ¬ AcceptsDescriptor endpoint setup data :=
    fun haccepts => hdirected ⟨haccepts.1, haccepts.2.2.1⟩
  have hkept := sameDescriptor_processControlPacketIn h.pushSession.device
    (isIn_of_read hopens.1) haccepts
  have hnone := hfollows.1
  rw [hkept.1] at hnone
  cases hnone

/-- An answer that opens no session leaves a descriptor as it is. -/
theorem sameDescriptor_of_not_opens (hopens : ¬ h.OpensSession setup data)
    (hhas : h.device.hasDeviceDescriptor = true) (hin : setup.isIn = true) :
    SameDescriptor h.device (h.device.processControlPacketIn endpoint setup data) := by
  by_cases haccepts : AcceptsDescriptor endpoint setup data
  · have himage : Layout.encode h.device.deviceDescriptor = data.take usbDtDeviceSize := by
      by_contra hdiffer
      exact hopens ⟨haccepts.2.1, haccepts.2.2.2, hhas, hdiffer⟩
    obtain ⟨hnew, himage'⟩ := processControlPacketIn_of_accepts h.device haccepts
    refine ⟨hnew.trans hhas.symm, ?_⟩
    have hdecode := congrArg (Layout.decode (T := UsbDeviceDescriptor))
      (himage'.trans himage.symm)
    rwa [Layout.decode_encode, Layout.decode_encode] at hdecode
  · exact sameDescriptor_processControlPacketIn h.device hin haccepts

theorem reenumerated_of_not_opens (hchain : h.Reenumerated)
    (hopens : ¬ h.OpensSession setup data) :
    (h.dispatchControl endpoint setup data).Reenumerated := by
  unfold dispatchControl
  rw [if_neg hopens]
  dsimp only
  split
  · rename_i hin
    by_cases hhas : h.device.hasDeviceDescriptor = true
    · exact hchain.of_same rfl (sameDescriptor_of_not_opens hopens hhas hin)
    · -- only the first session has no descriptor
      rw [reenumerated_iff_last] at hchain ⊢
      refine ⟨hchain.1, ?_⟩
      intro d hd
      exact absurd (hchain.2 d hd).1 hhas
  · exact hchain.of_same rfl (sameDescriptor_processControlPacketOut h.device endpoint setup data)

variable [Libplist π]

/-- **Step lemma.** Exactly the misdirected answers break the invariant. -/
theorem reenumerated_dispatch (hchain : h.Reenumerated) (d : Dispatch) :
    (h.dispatch d).Reenumerated ↔ h.Directed d := by
  cases d with
  | control endpoint setup data =>
    constructor
    · rintro hkept ⟨hopens, hdirected⟩
      exact not_reenumerated_of_opens hopens hdirected hkept
    · intro hdirected
      by_cases hopens : h.OpensSession setup data
      · exact reenumerated_of_opens hchain hopens
          (by_contra fun hmis => hdirected ⟨hopens, hmis⟩)
      · exact reenumerated_of_not_opens hchain hopens
  | bulkIn endpoint data =>
    exact iff_of_true (hchain.of_same rfl (sameDescriptor_processBulkPacketIn _ _ _)) trivial
  | bulkOut endpoint data =>
    exact iff_of_true (hchain.of_same rfl (sameDescriptor_processBulkPacketOut _ _ _)) trivial

theorem reenumerated_call (hchain : h.Reenumerated) (c : Call) :
    (h.call c).Reenumerated ↔ h.WellDirected c := by
  rw [call_eq, wellDirected_iff]
  cases (h.transfers.call c).2 with
  | none => exact iff_of_true hchain (by simp)
  | some d =>
    have hdispatch := reenumerated_dispatch hchain d
    simpa [Reenumerated, devices] using hdispatch

end Dispatch

/-! ## Runs -/

section Runs

variable [Libplist π]

/-- **Sessions.** In every state that a sequence of calls passes through, every session
but the first has a descriptor, different from the one before, if and only if no call
hands on a malformed or misdirected answer that opens a session. -/
theorem reenumerated_iff (id : UInt64) (calls : List Call) :
    (∀ before, before <+: calls →
        (before.foldl call ({ id := id } : DeviceHandle π)).Reenumerated) ↔
      ∀ before c, before ++ [c] <+: calls →
        (before.foldl call ({ id := id } : DeviceHandle π)).WellDirected c := by
  constructor
  · intro hall before c hpre
    have hchain := hall before ((List.prefix_append before [c]).trans hpre)
    have hnext := hall (before ++ [c]) hpre
    rw [List.foldl_append] at hnext
    exact (reenumerated_call hchain c).mp hnext
  · intro hall before
    induction before using List.reverseRecOn with
    | nil => exact fun _ => reenumerated_new id
    | append_singleton before c ih =>
      intro hpre
      have hchain := ih ((List.prefix_append before [c]).trans hpre)
      rw [List.foldl_append]
      exact (reenumerated_call hchain c).mpr (hall before c hpre)

/-- A device descriptor, and a different answer to the same request on endpoint 1. -/
theorem not_reenumerated :
    ¬ ∀ (id : UInt64) (calls : List Call),
      (calls.foldl call ({ id := id } : DeviceHandle Empty)).Reenumerated := by
  intro hall
  have h := hall 5
    [.beginControl 0x80 1 ⟨0x80, 6, 0x0100, 0, 18⟩ [],
      .endControl 0x80 1 [18, 1, 0, 2, 0, 0, 0, 64, 0xAC, 5, 0xA8, 0x12, 0, 1, 1, 2, 3, 1],
      .beginControl 0x81 2 ⟨0x80, 6, 0x0100, 0, 18⟩ [],
      .endControl 0x81 2 [18, 1, 0, 2, 0, 0, 0, 64, 0xAC, 5, 0x27, 0x12, 0, 1, 1, 2, 3, 1]]
  have hstate : ∃ d d', (List.foldl call ({ id := 5 } : DeviceHandle Empty)
      [.beginControl 0x80 1 ⟨0x80, 6, 0x0100, 0, 18⟩ [],
        .endControl 0x80 1 [18, 1, 0, 2, 0, 0, 0, 64, 0xAC, 5, 0xA8, 0x12, 0, 1, 1, 2, 3, 1],
        .beginControl 0x81 2 ⟨0x80, 6, 0x0100, 0, 18⟩ [],
        .endControl 0x81 2 [18, 1, 0, 2, 0, 0, 0, 64, 0xAC, 5, 0x27, 0x12, 0, 1, 1, 2, 3, 1]
      ]).devices = [d, d'] ∧ d'.hasDeviceDescriptor = false := ⟨_, _, rfl, rfl⟩
  obtain ⟨d, d', hdevices, hnone⟩ := hstate
  unfold Reenumerated at h
  rw [hdevices, List.isChain_pair] at h
  have hhas := h.1
  rw [hnone] at hhas
  cases hhas

end Runs

end DemuxUsb.DeviceHandle
