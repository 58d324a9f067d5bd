import DemuxUsb.File.Sessions

/-!
# Stability of the sessions

A transfer changes the current session only, and not its descriptor once it has one: an
answer that would do so opens a session for itself. So the sessions of a handle go on in
every later state (`Continues`), which one dispatch shows and a run inherits.

* `session_descriptor_stable`: the result about all sequences of calls.
-/

namespace DemuxUsb.DeviceHandle

open Device

variable {π : Type}

/-! ## Sessions that go on -/

/-- The sessions of `h` in a later state: the earlier ones are the same, and the current
one is at its place, with the descriptor that it had, if it had one. -/
structure Continues (h h' : DeviceHandle π) : Prop where
  earlier : h.earlier <+: h'.earlier
  current : h.device.hasDeviceDescriptor = true →
    ∃ d, h'.devices[h.earlier.length]? = some d ∧ SameDescriptor h.device d

namespace Continues

variable {h h' h'' : DeviceHandle π}

theorem refl (h : DeviceHandle π) : Continues h h where
  earlier := List.prefix_rfl
  current := by
    intro _
    exact ⟨h.device, by simp [devices], .refl _⟩

/-- A session that was over stays as it is. -/
theorem getElem?_earlier (hcont : Continues h h') {i : Nat} (hi : i < h.earlier.length) :
    h'.devices[i]? = h.devices[i]? := by
  obtain ⟨r, hr⟩ := hcont.earlier
  have hlen : i < h'.earlier.length := by
    rw [← hr, List.length_append]
    omega
  unfold devices
  rw [List.getElem?_append_left hlen, List.getElem?_append_left hi, ← hr,
    List.getElem?_append_left hi]

theorem trans (hcont : Continues h h') (hcont' : Continues h' h'') : Continues h h'' where
  earlier := hcont.earlier.trans hcont'.earlier
  current := by
    intro hhas
    obtain ⟨d, hd, hsame⟩ := hcont.current hhas
    rcases Nat.lt_or_ge h.earlier.length h'.earlier.length with hlt | hge
    · exact ⟨d, (hcont'.getElem?_earlier hlt).trans hd, hsame⟩
    · -- the session is still the current one
      have hlen : h.earlier.length = h'.earlier.length :=
        Nat.le_antisymm hcont.earlier.length_le hge
      have hdevice : h'.device = d := by
        rw [hlen] at hd
        simpa [devices] using hd
      obtain ⟨d', hd', hsame'⟩ := hcont'.current (by rw [hdevice, hsame.1, hhas])
      rw [← hlen] at hd'
      rw [hdevice] at hsame'
      exact ⟨d', hd', hsame.trans hsame'⟩

end Continues

/-! ## Steps -/

section Steps

variable [Libplist π] (h : DeviceHandle π)

/-- The handle whose current session takes the transfer. -/
def sessionFor : Dispatch → DeviceHandle π
  | .control _ setup data => if h.OpensSession setup data then h.pushSession else h
  | .bulkIn _ _ => h
  | .bulkOut _ _ => h

theorem dispatch_eq (d : Dispatch) :
    h.dispatch d =
      { h.sessionFor d with device := (h.sessionFor d).device.process d.packet } := by
  cases d with
  | control endpoint setup data =>
    show h.dispatchControl endpoint setup data = _
    unfold dispatchControl Dispatch.packet
    dsimp only [sessionFor]
    split
    · rfl
    · rfl
  | bulkIn endpoint data => rfl
  | bulkOut endpoint data => rfl

theorem sameDescriptor_or_opens (d : Dispatch) (hhas : h.device.hasDeviceDescriptor = true) :
    h.sessionFor d = h ∧ SameDescriptor h.device (h.device.process d.packet) ∨
      h.sessionFor d = h.pushSession := by
  cases d with
  | control endpoint setup data =>
    by_cases hopens : h.OpensSession setup data
    · exact Or.inr (if_pos hopens)
    · refine Or.inl ⟨if_neg hopens, ?_⟩
      unfold Dispatch.packet
      dsimp only
      split
      · rename_i hin
        exact sameDescriptor_of_not_opens hopens hhas hin
      · exact sameDescriptor_processControlPacketOut h.device endpoint setup data
  | bulkIn endpoint data => exact Or.inl ⟨rfl, sameDescriptor_processBulkPacketIn _ _ _⟩
  | bulkOut endpoint data => exact Or.inl ⟨rfl, sameDescriptor_processBulkPacketOut _ _ _⟩

/-- **Step lemma.** -/
theorem continues_dispatch (d : Dispatch) : Continues h (h.dispatch d) := by
  rw [dispatch_eq]
  by_cases hhas : h.device.hasDeviceDescriptor = true
  · rcases h.sameDescriptor_or_opens d hhas with ⟨hsession, hsame⟩ | hsession
    · rw [hsession]
      refine ⟨List.prefix_rfl, ?_⟩
      intro _
      exact ⟨_, by simp [devices], hsame⟩
    · rw [hsession]
      refine ⟨List.prefix_append _ _, ?_⟩
      intro _
      exact ⟨h.device, by simp [devices, pushSession], .refl _⟩
  · -- a session without a descriptor is never replaced
    have hsession : h.sessionFor d = h := by
      cases d with
      | control endpoint setup data => exact if_neg fun hopens => hhas hopens.2.2.1
      | bulkIn endpoint data => rfl
      | bulkOut endpoint data => rfl
    rw [hsession]
    exact ⟨List.prefix_rfl, fun h => absurd h hhas⟩

theorem continues_call (c : Call) : Continues h (h.call c) := by
  rw [call_eq]
  cases (h.transfers.call c).2 with
  | none => exact ⟨List.prefix_rfl, fun _ => ⟨h.device, by simp [devices], .refl _⟩⟩
  | some d =>
    have hstep := h.continues_dispatch d
    exact ⟨hstep.earlier, hstep.current⟩

/-- **Run lemma.** -/
theorem continues_foldl_call (calls : List Call) : Continues h (calls.foldl call h) := by
  induction calls generalizing h with
  | nil => exact .refl h
  | cons c calls ih =>
    rw [List.foldl_cons]
    exact (h.continues_call c).trans (ih _)

/-- An answer that the current session would take in place of its descriptor is the
descriptor of a new session. -/
theorem new_session_of_change (d : Dispatch) (hhas : h.device.hasDeviceDescriptor = true)
    (hchange : (h.device.process d.packet).deviceDescriptor ≠ h.device.deviceDescriptor) :
    ∃ session, (h.dispatch d).devices = h.devices ++ [session] ∧
      session.hasDeviceDescriptor = true ∧
      session.deviceDescriptor = (h.device.process d.packet).deviceDescriptor := by
  cases d with
  | bulkIn endpoint data =>
    exact absurd (sameDescriptor_processBulkPacketIn h.device endpoint data).2 hchange
  | bulkOut endpoint data =>
    exact absurd (sameDescriptor_processBulkPacketOut h.device endpoint data).2 hchange
  | control endpoint setup data =>
    cases hin : setup.isIn with
    | false =>
      simp only [Dispatch.packet, hin, Bool.false_eq_true, if_false, process] at hchange
      exact absurd (sameDescriptor_processControlPacketOut h.device endpoint setup data).2 hchange
    | true =>
      simp only [Dispatch.packet, hin, if_true, process] at hchange ⊢
      have haccepts : AcceptsDescriptor endpoint setup data := by
        by_contra hother
        exact hchange (sameDescriptor_processControlPacketIn h.device hin hother).2
      have hopens : h.OpensSession setup data := by
        by_contra hopens
        exact hchange (sameDescriptor_of_not_opens hopens hhas hin).2
      obtain ⟨hnew, himage⟩ := processControlPacketIn_of_accepts h.pushSession.device haccepts
      obtain ⟨-, himage'⟩ := processControlPacketIn_of_accepts h.device haccepts
      have hdecode := congrArg (Layout.decode (T := UsbDeviceDescriptor))
        (himage.trans himage'.symm)
      rw [Layout.decode_encode, Layout.decode_encode] at hdecode
      refine ⟨_, ?_, hnew, hdecode⟩
      show (h.dispatchControl endpoint setup data).devices = _
      rw [dispatchControl_of_opens hopens]
      rfl

end Steps

/-! ## Runs -/

/-- A device is reported as before: its descriptor, and what is read off it. -/
structure SameReport (d d' : Device π) : Prop where
  hasDeviceDescriptor : d'.hasDeviceDescriptor = d.hasDeviceDescriptor
  image : Layout.encode d'.deviceDescriptor = Layout.encode d.deviceDescriptor
  vendor : d'.getVendorId = d.getVendorId
  product : d'.getProductId = d.getProductId
  mode : d'.getMode = d.getMode

theorem SameReport.of_sameDescriptor {d d' : Device π} (h : SameDescriptor d d') :
    SameReport d d' where
  hasDeviceDescriptor := h.1
  image := by rw [h.2]
  vendor := by rw [getVendorId, h.2, getVendorId]
  product := by rw [getProductId, h.2, getProductId]
  mode := by
    have happle : d'.isApple = d.isApple := by rw [isApple, h.2, isApple]
    have hrecovery : d'.isAppleRecovery = d.isAppleRecovery := by
      rw [isAppleRecovery, h.2, isAppleRecovery]
    unfold getMode
    rw [h.1, h.2, happle, hrecovery]

/-- **Stability.** After any calls, a session that has a descriptor is reported as the same
device for ever, a session that is over does not change at all, and a transfer that
would change the descriptor of the current session goes to a new one. -/
theorem session_descriptor_stable [Libplist π] (id : UInt64) (before after : List Call) :
    let h := before.foldl call ({ id := id } : DeviceHandle π)
    let h' := after.foldl call h
    (∀ (i : Nat) (d : Device π), h.devices[i]? = some d → d.hasDeviceDescriptor = true →
      ∃ d', h'.devices[i]? = some d' ∧ SameReport d d') ∧
    (∀ i : Nat, i < h.earlier.length → h'.devices[i]? = h.devices[i]?) ∧
    ∀ c dispatch, (h.transfers.call c).2 = some dispatch →
      h.device.hasDeviceDescriptor = true →
      (h.device.process dispatch.packet).deviceDescriptor ≠ h.device.deviceDescriptor →
      ∃ session, (h.call c).devices = h.devices ++ [session] ∧
        session.hasDeviceDescriptor = true ∧
        session.deviceDescriptor = (h.device.process dispatch.packet).deviceDescriptor := by
  intro h h'
  have hcont : Continues h h' := h.continues_foldl_call after
  refine ⟨?_, ?_, ?_⟩
  · intro i d hd hhas
    rcases Nat.lt_or_ge i h.earlier.length with hlt | hge
    · exact ⟨d, (hcont.getElem?_earlier hlt).trans hd, .of_sameDescriptor (.refl d)⟩
    · have hlen : i < h.devices.length := (List.getElem?_eq_some_iff.mp hd).1
      have hi : i = h.earlier.length := by
        simp only [devices, List.length_append, List.length_singleton] at hlen
        omega
      have hdevice : h.device = d := by
        rw [hi] at hd
        simpa [devices] using hd
      obtain ⟨d', hd', hsame⟩ := hcont.current (by rw [hdevice, hhas])
      rw [hdevice] at hsame
      rw [← hi] at hd'
      exact ⟨d', hd', .of_sameDescriptor hsame⟩
  · intro i hi
    exact hcont.getElem?_earlier hi
  · intro c dispatch hdispatch hhas hchange
    obtain ⟨session, hdevices, hnew⟩ := h.new_session_of_change dispatch hhas hchange
    refine ⟨session, ?_, hnew⟩
    rw [call_eq, hdispatch, ← hdevices]
    rfl

end DemuxUsb.DeviceHandle
