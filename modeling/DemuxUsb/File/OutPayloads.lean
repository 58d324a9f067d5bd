import DemuxUsb.File.TransferPairing

/-!
# OUT data and its submission

OUT data travels with the submission. `Submitted` says that a transfer was begun and,
whatever other traffic there was since, is still waiting for its completion.

* `Submitted.inflight`: its entry holds what its own calls carried, and nothing else.
* `out_payload`: a control transfer hands on that data whatever its completion carries. A
  bulk transfer does so unless its completion brings other bytes.
-/

namespace DemuxUsb

/-! ## Frame -/

def Call.id : Call → UInt64
  | .beginControl _ id _ _ => id
  | .appendControl _ id _ => id
  | .endControl _ id _ => id
  | .beginBulk _ id _ => id
  | .endBulk _ id _ => id
  | .abort _ id => id

/-- A call leaves the transfers with other ids alone. -/
theorem Transfers.inflight_of_id_ne (t : Transfers) {c : Call} {id : UInt64} (hid : c.id ≠ id)
    (endpoint : UInt8) :
    (t.call c).1.inflight[((endpoint, id) : TransferKey)]? =
      t.inflight[((endpoint, id) : TransferKey)]? := by
  have hne : ∀ endpoint', ((endpoint, id) : TransferKey) ≠ (endpoint', c.id) :=
    fun _ heq => hid (congrArg Prod.snd heq).symm
  cases c with
  | beginControl endpoint' id' setup data => exact Maps.getElem?_insert_ne (hne _) _
  | appendControl endpoint' id' data =>
    simp only [call, appendControl]
    split
    · rfl
    · exact Maps.getElem?_insert_ne (hne _) _
  | endControl endpoint' id' data =>
    simp only [call, endControl]
    split
    · rfl
    · split
      · rfl
      · exact Maps.getElem?_erase_ne (hne _)
  | beginBulk endpoint' id' data => exact Maps.getElem?_insert_ne (hne _) _
  | endBulk endpoint' id' data =>
    have hstate : (t.endBulk endpoint' id' data).1.inflight[((endpoint, id) : TransferKey)]? =
        t.inflight[((endpoint, id) : TransferKey)]? := by
      simp only [endBulk, apply_ite Prod.fst, ite_self]
      split
      · exact Maps.getElem?_erase_ne (hne _)
      · rfl
    exact hstate
  | abort endpoint' id' =>
    exact (Maps.getElem?_erase_ne (hne _)).trans (Maps.getElem?_erase_ne (hne _))

/-! ## Submissions -/

namespace Transfer

/-- What the submission of a transfer carried, with the stages appended to it. -/
def carried : Transfer → Bytes
  | control _ _ begun appended => begun ++ appended
  | bulk _ begun => begun

/-- Data goes from the host to the device. -/
def Out : Transfer → Prop
  | control _ setup _ _ => setup.isIn = false
  | bulk endpoint _ => usbEndpointOut endpoint = true

def IsControl : Transfer → Prop
  | control .. => True
  | bulk .. => False

/-- The device is handed the data of the submission, cut to `wLength` for a control
transfer. -/
def outDispatch : Transfer → Dispatch
  | control endpoint setup begun appended =>
    .control (usbEndpointId endpoint) setup ((begun ++ appended).take setup.wLength.toNat)
  | bulk endpoint begun => .bulkOut (usbEndpointId endpoint) begun

/-- The call that completes a transfer. A control transfer is recognised by its endpoint
number, a bulk transfer by its endpoint address. -/
inductive Completes (id : UInt64) (completion : Bytes) : Transfer → Call → Prop where
  | control {endpoint setup begun appended endpoint'}
    (hnumber : usbEndpointId endpoint' = usbEndpointId endpoint) :
    Completes id completion (.control endpoint setup begun appended)
      (.endControl endpoint' id completion)
  | bulk {endpoint begun} :
    Completes id completion (.bulk endpoint begun) (.endBulk endpoint id completion)

end Transfer

/-- The calls from the submission of a transfer on: its own, and any others under
different ids. -/
inductive Submitted (id : UInt64) : List Call → Transfer → Prop where
  | control (endpoint setup data) :
    Submitted id [.beginControl endpoint id setup data] (.control endpoint setup data [])
  | bulk (endpoint data) : Submitted id [.beginBulk endpoint id data] (.bulk endpoint data)
  | append {calls endpoint setup begun appended endpoint'}
    (hsubmitted : Submitted id calls (.control endpoint setup begun appended))
    (hnumber : usbEndpointId endpoint' = usbEndpointId endpoint) (data) :
    Submitted id (calls ++ [.appendControl endpoint' id data])
      (.control endpoint setup begun (appended ++ data))
  | other {calls transfer c} (hsubmitted : Submitted id calls transfer) (hid : c.id ≠ id) :
    Submitted id (calls ++ [c]) transfer

variable {id : UInt64} {calls : List Call} {transfer : Transfer}

/-- **Run lemma.** From any state, a submitted transfer is in flight with its own data. -/
theorem Submitted.inflight (hsubmitted : Submitted id calls transfer) (t : Transfers) :
    (t.run calls).1.inflight[((transfer.key, id) : TransferKey)]? = some transfer.pending := by
  induction hsubmitted with
  | control endpoint setup data =>
    rw [Transfer.pending, List.append_nil]
    exact Std.ExtTreeMap.getElem?_insert_self
  | bulk endpoint data => exact Std.ExtTreeMap.getElem?_insert_self
  | @append calls endpoint setup begun appended endpoint' _ hnumber data ih =>
    simp only [Transfer.key, Transfer.pending] at ih ⊢
    rw [Transfers.run_append]
    simp only [Transfers.run, Transfers.call, Transfers.appendControl, hnumber, ih]
    rw [Std.ExtTreeMap.getElem?_insert_self, List.append_assoc]
  | other _ hid ih =>
    rw [Transfers.run_append]
    exact (Transfers.inflight_of_id_ne _ hid _).trans ih

/-! ## What the device is handed -/

/-- **OUT data.** The device is handed the data of the submission, and not that of the
completion, if and only if the transfer is a control transfer or its completion brings
nothing else. -/
theorem out_payload (t : Transfers) (hsubmitted : Submitted id calls transfer)
    (hout : transfer.Out) (hcarried : transfer.carried ≠ []) {completion : Bytes} {c : Call}
    (hcompletes : transfer.Completes id completion c) :
    ((t.run calls).1.call c).2 = some transfer.outDispatch ↔
      transfer.IsControl ∨ completion = [] ∨ completion = transfer.carried := by
  have hinflight := hsubmitted.inflight t
  cases hcompletes with
  | @control endpoint setup begun appended endpoint' hnumber =>
    refine iff_of_true ?_ (Or.inl trivial)
    have hdata : begun ++ appended ≠ [] := hcarried
    simp only [Transfer.key, Transfer.pending] at hinflight
    simp only [Transfers.call, Transfers.endControl, hnumber, hinflight, Bool.true_eq_false,
      if_false, Transfers.controlPayload]
    rw [if_neg (ne_true_of_eq_false hout), if_pos hdata]
    rfl
  | @bulk endpoint begun =>
    have haddress : usbEndpointOut endpoint = true := hout
    have hin := usbEndpointOut_iff.mp haddress
    simp only [Transfer.key, Transfer.pending, haddress, if_true] at hinflight
    simp only [Transfers.call, Transfers.endBulk, hinflight, hin, Bool.false_eq_true, if_false,
      Option.getD_some, Transfer.outDispatch, Option.some.injEq, Dispatch.bulkOut.injEq,
      true_and]
    constructor
    · intro hpayload
      by_cases hnil : completion = []
      · exact Or.inr (Or.inl hnil)
      · rw [if_neg fun h => hnil (List.length_eq_zero_iff.mp h.1)] at hpayload
        exact Or.inr (Or.inr hpayload)
    · rintro (hcontrol | rfl | rfl)
      · exact hcontrol.elim
      · exact if_pos ⟨rfl, hcarried⟩
      · exact ite_self _

/-- A control transfer with an appended stage and a completion that carries bytes, and
other traffic in between. -/
theorem out_payload_example :
    let setup : UsbSetup := ⟨0x21, 1, 0, 0, 3⟩
    ((({} : Transfers).run [.beginControl 0 7 setup [1, 2], .beginBulk 0x02 8 [5],
      .appendControl 0x80 7 [3, 4]]).1.call (.endControl 0x80 7 [9])).2 =
      some (.control 0 setup [1, 2, 3]) := by
  intro setup
  have hid : (Call.beginBulk 0x02 8 [5]).id ≠ 7 := by decide
  have hnumber : usbEndpointId 0x80 = usbEndpointId 0 := by decide
  have hout : Transfer.Out (.control 0 setup [1, 2] ([] ++ [3, 4])) :=
    show UsbSetup.isIn ⟨0x21, 1, 0, 0, 3⟩ = false by decide
  have hsubmitted : Submitted 7 [.beginControl 0 7 setup [1, 2], .beginBulk 0x02 8 [5],
      .appendControl 0x80 7 [3, 4]] (.control 0 setup [1, 2] ([] ++ [3, 4])) :=
    .append (.other (.control 0 setup [1, 2]) hid) hnumber [3, 4]
  have hcompletes : Transfer.Completes 7 [9] (.control 0 setup [1, 2] ([] ++ [3, 4]))
      (.endControl 0x80 7 [9]) := .control hnumber
  exact (out_payload {} hsubmitted hout (List.cons_ne_nil _ _) hcompletes).mpr (Or.inl trivial)

/-- A bulk OUT transfer of two bytes whose completion event carries another. -/
theorem out_payload_fails :
    ¬∀ (id : UInt64) (calls : List Call) (transfer : Transfer) (completion : Bytes) (c : Call),
      Submitted id calls transfer → transfer.Out → transfer.carried ≠ [] →
        transfer.Completes id completion c →
          ((({} : Transfers).run calls).1.call c).2 = some transfer.outDispatch := by
  intro h
  have hhanded := h 7 _ _ [9] _ (.bulk 0x02 [1, 2]) rfl (List.cons_ne_nil _ _) .bulk
  revert hhanded
  decide

end DemuxUsb
