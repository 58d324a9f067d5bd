import DemuxUsb.Library.Maps
import DemuxUsb.File.DeviceHandle

/-!
# Pairing of submissions and completions

`Run` is the meaning of a capture without any key: transfers are in flight under their
id, each with its own submission, and an end event hands one on. It covers every
interleaving in which no two transfers in flight share an id.

* `transfers_paired`: on every such run a handle hands on exactly these transfers, and
  nothing stays behind.
-/

namespace DemuxUsb

/-! ## Transfers in flight, by id -/

/-- A transfer in flight: what its submission carried and what was appended to it. -/
inductive Transfer where
  | control (endpoint : UInt8) (setup : UsbSetup) (begun appended : Bytes)
  | bulk (endpoint : UInt8) (begun : Bytes)

abbrev InFlight := UInt64 → Option Transfer

/-- A control transfer that ended. An OUT transfer has its own data; an IN transfer has
the data of its completion or, when that is empty, its own. -/
def controlDispatch (endpoint : UInt8) (setup : UsbSetup) (begun appended completion : Bytes) :
    Dispatch :=
  let payload := if setup.isIn ∧ completion ≠ [] then completion else begun ++ appended
  .control (usbEndpointId endpoint) setup (payload.take setup.wLength.toNat)

/-- A bulk transfer that ended: OUT with its submission's data, IN with its completion's. -/
def bulkDispatch (endpoint : UInt8) (begun completion : Bytes) : Dispatch :=
  if usbEndpointIn endpoint then .bulkIn (usbEndpointId endpoint) completion
  else .bulkOut (usbEndpointId endpoint) begun

/-- One event. A control transfer is recognised by its endpoint number, a bulk transfer
by its endpoint address; the completion of an OUT transfer carries no bytes. -/
inductive Event : InFlight → Call → InFlight → Option Dispatch → Prop where
  | beginControl {o id} (hfree : o id = none) (endpoint setup data) :
    Event o (.beginControl endpoint id setup data)
      (Function.update o id (some (.control endpoint setup data []))) none
  | appendControl {o id endpoint setup begun appended endpoint'}
    (hopen : o id = some (.control endpoint setup begun appended))
    (hnumber : usbEndpointId endpoint' = usbEndpointId endpoint) (data) :
    Event o (.appendControl endpoint' id data)
      (Function.update o id (some (.control endpoint setup begun (appended ++ data)))) none
  | endControl {o id endpoint setup begun appended endpoint' completion}
    (hopen : o id = some (.control endpoint setup begun appended))
    (hnumber : usbEndpointId endpoint' = usbEndpointId endpoint)
    (hout : setup.isIn = false → completion = []) :
    Event o (.endControl endpoint' id completion) (Function.update o id none)
      (some (controlDispatch endpoint setup begun appended completion))
  | abortControl {o id endpoint setup begun appended endpoint'}
    (hopen : o id = some (.control endpoint setup begun appended))
    (hnumber : usbEndpointId endpoint' = usbEndpointId endpoint) :
    Event o (.abort endpoint' id) (Function.update o id none) none
  | beginBulk {o id} (hfree : o id = none) (endpoint data) :
    Event o (.beginBulk endpoint id data)
      (Function.update o id (some (.bulk endpoint data))) none
  | endBulk {o id endpoint begun completion} (hopen : o id = some (.bulk endpoint begun))
    (hout : usbEndpointIn endpoint = false → completion = []) :
    Event o (.endBulk endpoint id completion) (Function.update o id none)
      (some (bulkDispatch endpoint begun completion))
  | abortBulk {o id endpoint begun} (hopen : o id = some (.bulk endpoint begun)) :
    Event o (.abort endpoint id) (Function.update o id none) none

/-- Any interleaving: the transfers that end are handed on in the order of their end
events. -/
inductive Run : InFlight → List Call → InFlight → List Dispatch → Prop where
  | nil (o) : Run o [] o []
  | cons {o o' o'' c calls d handed} (hevent : Event o c o' d) (hrun : Run o' calls o'' handed) :
    Run o (c :: calls) o'' (d.toList ++ handed)

/-! ## The table -/

namespace Transfer

def key : Transfer → UInt8
  | control endpoint .. => usbEndpointId endpoint
  | bulk endpoint _ => endpoint

def pending : Transfer → Pending
  | control _ setup begun appended => ⟨true, setup, begun ++ appended⟩
  | bulk endpoint begun => { data := if usbEndpointOut endpoint then begun else [] }

end Transfer

namespace Transfers

/-- The entry of a transfer, where its key says. -/
def entry (endpoint : UInt8) (transfer : Transfer) : Option Pending :=
  if transfer.key = endpoint then some transfer.pending else none

/-- The table holds the transfers in flight, each under its key, and no others. -/
def Holds (t : Transfers) (o : InFlight) : Prop :=
  ∀ endpoint id, t.inflight[((endpoint, id) : TransferKey)]? = (o id).bind (entry endpoint)

variable {t : Transfers} {o : InFlight} {id : UInt64}

theorem Holds.own (hholds : t.Holds o) {transfer : Transfer} (hopen : o id = some transfer) :
    t.inflight[((transfer.key, id) : TransferKey)]? = some transfer.pending := by
  rw [hholds, hopen, Option.bind_some]
  exact if_pos rfl

theorem Holds.none_of_ne (hholds : t.Holds o) {transfer : Transfer} (hopen : o id = some transfer)
    {endpoint : UInt8} (hne : transfer.key ≠ endpoint) :
    t.inflight[((endpoint, id) : TransferKey)]? = none := by
  rw [hholds, hopen, Option.bind_some]
  exact if_neg hne

theorem Holds.none_of_free (hholds : t.Holds o) (hfree : o id = none) (endpoint : UInt8) :
    t.inflight[((endpoint, id) : TransferKey)]? = none := by
  rw [hholds, hfree, Option.bind_none]

/-- Writing the entry of a transfer: `hrest` says that no other key had its id. -/
theorem Holds.insert (hholds : t.Holds o) (transfer : Transfer)
    (hrest : ∀ endpoint, endpoint ≠ transfer.key →
      t.inflight[((endpoint, id) : TransferKey)]? = none) :
    Holds { t with inflight := t.inflight.insert (transfer.key, id) transfer.pending }
      (Function.update o id (some transfer)) := by
  intro endpoint id'
  by_cases hid : id' = id
  · subst hid
    rw [Function.update_self, Option.bind_some]
    by_cases hkey : endpoint = transfer.key
    · subst hkey
      rw [Std.ExtTreeMap.getElem?_insert_self]
      exact (if_pos rfl).symm
    · rw [Maps.getElem?_insert_ne (fun heq => hkey (congrArg Prod.fst heq)), hrest _ hkey]
      exact (if_neg (Ne.symm hkey)).symm
  · rw [Function.update_of_ne hid, Maps.getElem?_insert_ne (fun heq => hid (congrArg Prod.snd heq))]
    exact hholds endpoint id'

/-- Erasing the entry of a transfer. -/
theorem Holds.erase (hholds : t.Holds o) {transfer : Transfer} (hopen : o id = some transfer) :
    Holds { t with inflight := t.inflight.erase (transfer.key, id) }
      (Function.update o id none) := by
  intro endpoint id'
  by_cases hid : id' = id
  · subst hid
    rw [Function.update_self, Option.bind_none]
    by_cases hkey : endpoint = transfer.key
    · subst hkey
      exact Std.ExtTreeMap.getElem?_erase_self
    · rw [Maps.getElem?_erase_ne (fun heq => hkey (congrArg Prod.fst heq))]
      exact hholds.none_of_ne hopen (Ne.symm hkey)
  · rw [Function.update_of_ne hid, Maps.getElem?_erase_ne (fun heq => hid (congrArg Prod.snd heq))]
    exact hholds endpoint id'

/-- An abort erases the entry under both keys it can have. -/
theorem Holds.abort (hholds : t.Holds o) {transfer : Transfer} (hopen : o id = some transfer)
    {endpoint : UInt8} (hkey : transfer.key = endpoint ∨ transfer.key = usbEndpointId endpoint) :
    (t.abort endpoint id).Holds (Function.update o id none) := by
  intro endpoint' id'
  unfold Transfers.abort
  dsimp only
  by_cases hnumber : ((endpoint', id') : TransferKey) = (usbEndpointId endpoint, id)
  · obtain ⟨rfl, rfl⟩ := Prod.mk.inj hnumber
    rw [Function.update_self]
    exact Std.ExtTreeMap.getElem?_erase_self
  rw [Maps.getElem?_erase_ne hnumber]
  by_cases haddress : ((endpoint', id') : TransferKey) = (endpoint, id)
  · obtain ⟨rfl, rfl⟩ := Prod.mk.inj haddress
    rw [Function.update_self]
    exact Std.ExtTreeMap.getElem?_erase_self
  rw [Maps.getElem?_erase_ne haddress]
  by_cases hid : id' = id
  · subst hid
    rw [Function.update_self]
    apply hholds.none_of_ne hopen
    rintro rfl
    rcases hkey with rfl | heq
    · exact haddress rfl
    · exact hnumber (by rw [heq])
  · rw [Function.update_of_ne hid]
    exact hholds endpoint' id'

/-- The payload of a control transfer whose OUT completion carries no bytes. -/
theorem controlPayload_eq {setup : UsbSetup} {begun appended completion : Bytes}
    (hout : setup.isIn = false → completion = []) (endpoint : UInt8) :
    .control (usbEndpointId endpoint) setup
        (controlPayload ⟨true, setup, begun ++ appended⟩ completion) =
      controlDispatch endpoint setup begun appended completion := by
  unfold controlPayload controlDispatch
  cases hin : setup.isIn
  · rw [hout hin]
    by_cases hnil : begun ++ appended = []
    · simp [hnil]
    · simp [hnil]
  · by_cases hcompletion : completion = []
    · by_cases hnil : begun ++ appended = []
      · simp [hcompletion, hnil]
      · simp [hcompletion, hnil]
    · simp [hcompletion]

/-- **Step lemma.** An event keeps the table, hands on what it should, and counts nothing
as unmatched. -/
theorem Holds.call (hholds : t.Holds o) {c : Call} {o' : InFlight} {d : Option Dispatch}
    (hevent : Event o c o' d) :
    (t.call c).1.Holds o' ∧ (t.call c).2 = d ∧ (t.call c).1.unmatched = t.unmatched := by
  cases hevent with
  | beginControl hfree endpoint setup data =>
    have hkept := hholds.insert (.control endpoint setup data [])
      (fun e _ => hholds.none_of_free hfree e)
    simp only [Transfer.pending, List.append_nil] at hkept
    exact ⟨hkept, rfl, rfl⟩
  | @appendControl id endpoint setup begun appended endpoint' hopen hnumber data =>
    have hown := hholds.own hopen
    have hkept := hholds.insert (.control endpoint setup begun (appended ++ data))
      (fun e hne => hholds.none_of_ne hopen (Ne.symm hne))
    simp only [Transfer.key, Transfer.pending] at hown hkept
    simp only [Transfers.call, Transfers.appendControl, hnumber, hown, List.append_assoc]
    exact ⟨hkept, trivial, trivial⟩
  | @endControl id endpoint setup begun appended endpoint' completion hopen hnumber hout =>
    have hown := hholds.own hopen
    have hkept := hholds.erase hopen
    simp only [Transfer.key, Transfer.pending] at hown hkept
    simp only [Transfers.call, Transfers.endControl, hnumber, hown, Bool.true_eq_false, if_false,
      controlPayload_eq hout]
    exact ⟨hkept, trivial, trivial⟩
  | abortControl hopen hnumber => exact ⟨hholds.abort hopen (Or.inr hnumber.symm), rfl, rfl⟩
  | beginBulk hfree endpoint data =>
    have hkept := hholds.insert (.bulk endpoint data) (fun e _ => hholds.none_of_free hfree e)
    exact ⟨hkept, rfl, rfl⟩
  | @endBulk id endpoint begun completion hopen hout =>
    have hown := hholds.own hopen
    have hkept := hholds.erase hopen
    simp only [Transfer.key, Transfer.pending] at hown hkept
    simp only [Transfers.call, Transfers.endBulk, hown, Option.isSome_some, if_true,
      Option.getD_some]
    unfold bulkDispatch
    cases hin : usbEndpointIn endpoint
    · rw [hout hin]
      refine ⟨hkept, ?_, rfl⟩
      by_cases hnil : begun = []
      · simp [hnil]
      · simp [hnil, usbEndpointOut, hin]
    · exact ⟨hkept, rfl, rfl⟩
  | abortBulk hopen => exact ⟨hholds.abort hopen (Or.inl rfl), rfl, rfl⟩

/-- Nothing is in flight. -/
theorem holds_empty (h : t.inflight = ∅) : t.Holds (fun _ => none) := by
  intro endpoint id
  rw [h, Option.bind_none]
  exact Std.ExtTreeMap.getElem?_empty

theorem Holds.inflight_empty (hholds : t.Holds o) (hidle : ∀ id, o id = none) :
    t.inflight = ∅ := by
  ext1 ⟨endpoint, id⟩
  rw [hholds.none_of_free (hidle id)]
  exact Std.ExtTreeMap.getElem?_empty.symm

/-- A sequence of calls: the transfers in flight after it, and all that it hands on. -/
def run (t : Transfers) : List Call → Transfers × List Dispatch
  | [] => (t, [])
  | c :: calls =>
    let r := t.call c
    let rest := r.1.run calls
    (rest.1, r.2.toList ++ rest.2)

theorem run_append (t : Transfers) (calls calls' : List Call) :
    t.run (calls ++ calls') = (((t.run calls).1.run calls').1,
      (t.run calls).2 ++ ((t.run calls).1.run calls').2) := by
  induction calls generalizing t with
  | nil => rfl
  | cons c calls ih =>
    rw [List.cons_append, run, run, ih, List.append_assoc]

/-- **Run lemma.** -/
theorem Holds.run (hholds : t.Holds o) {calls : List Call} {o' : InFlight}
    {handed : List Dispatch} (hrun : Run o calls o' handed) :
    (t.run calls).1.Holds o' ∧ (t.run calls).2 = handed ∧
      (t.run calls).1.unmatched = t.unmatched := by
  induction hrun generalizing t with
  | nil o => exact ⟨hholds, rfl, rfl⟩
  | cons hevent _ ih =>
    obtain ⟨hkept, hhanded, hunmatched⟩ := hholds.call hevent
    obtain ⟨hholds', hhanded', hunmatched'⟩ := ih hkept
    refine ⟨hholds', ?_, hunmatched'.trans hunmatched⟩
    rw [Transfers.run, hhanded, hhanded']

end Transfers

/-! ## The handle -/

namespace DeviceHandle

variable {π : Type} [Libplist π]

/-- The sessions know nothing of the transfers in flight. -/
theorem dispatch_transfers (h : DeviceHandle π) (t : Transfers) (d : Dispatch) :
    { h with transfers := t }.dispatch d = { h.dispatch d with transfers := t } := by
  cases d with
  | control endpoint setup data =>
    simp only [dispatch, dispatchControl]
    have hopens : { h with transfers := t }.OpensSession setup data ↔ h.OpensSession setup data :=
      Iff.rfl
    by_cases hopen : h.OpensSession setup data
    · rw [if_pos hopen, if_pos (hopens.mpr hopen)]
      split <;> rfl
    · rw [if_neg hopen, if_neg (mt hopens.mp hopen)]
      split <;> rfl
  | bulkIn endpoint data => rfl
  | bulkOut endpoint data => rfl

theorem foldl_dispatch_transfers (h : DeviceHandle π) (t : Transfers) (ds : List Dispatch) :
    ds.foldl dispatch { h with transfers := t } = { ds.foldl dispatch h with transfers := t } := by
  induction ds generalizing h with
  | nil => rfl
  | cons d ds ih => rw [List.foldl_cons, List.foldl_cons, dispatch_transfers, ih]

theorem call_eq (h : DeviceHandle π) (c : Call) :
    h.call c = { (h.transfers.call c).2.toList.foldl dispatch h with
      transfers := (h.transfers.call c).1 } := by
  unfold call
  dsimp only
  cases (h.transfers.call c).2 with
  | none => rfl
  | some d => exact dispatch_transfers h _ d

/-- A run of calls is the pairing followed by the dispatches. -/
theorem foldl_call (h : DeviceHandle π) (calls : List Call) :
    calls.foldl call h = { (h.transfers.run calls).2.foldl dispatch h with
      transfers := (h.transfers.run calls).1 } := by
  induction calls generalizing h with
  | nil => rfl
  | cons c calls ih =>
    rw [List.foldl_cons, ih, call_eq, foldl_dispatch_transfers, ← List.foldl_append]
    rfl

/-- **Pairing.** On every interleaving of transfers, a handle hands on exactly the
transfers that end, in the order of their end events, each with its own setup, endpoint
and payload. Nothing is counted as unmatched, and when every transfer has ended or been
aborted nothing is in flight. -/
theorem transfers_paired (h : DeviceHandle π) (hidle : h.transfers.inflight = ∅)
    {calls : List Call} {o : InFlight} {handed : List Dispatch}
    (hrun : Run (fun _ => none) calls o handed) :
    (h.transfers.run calls).2 = handed ∧
      (calls.foldl call h).devices = (handed.foldl dispatch h).devices ∧
      (calls.foldl call h).transfers.unmatched = h.transfers.unmatched ∧
      ((∀ id, o id = none) → (calls.foldl call h).transfers.inflight = ∅) := by
  obtain ⟨hholds, hhanded, hunmatched⟩ := (Transfers.holds_empty hidle).run hrun
  have hfold := foldl_call h calls
  rw [hhanded] at hfold
  refine ⟨hhanded, ?_, ?_, ?_⟩
  · rw [hfold]
    rfl
  · rw [hfold]
    exact hunmatched
  · intro hended
    rw [hfold]
    exact hholds.inflight_empty hended

/-- Two control transfers and a bulk transfer, ended in another order than they began. -/
theorem transfers_paired_example :
    let h : DeviceHandle Empty := { id := 5 }
    let setup : UsbSetup := ⟨0x40, 1, 0, 0, 3⟩
    (h.transfers.run [.beginControl 0 1 setup [1, 2], .beginBulk 0x02 2 [7],
      .beginControl 0 3 setup [9], .appendControl 0x80 1 [3, 4], .endBulk 0x02 2 [],
      .endControl 0x80 1 [], .abort 0 3]).2 =
      [.bulkOut 2 [7], .control 0 setup [1, 2, 3]] := by
  intro h setup
  have hrun : Run (fun _ => none) [.beginControl 0 1 setup [1, 2], .beginBulk 0x02 2 [7],
      .beginControl 0 3 setup [9], .appendControl 0x80 1 [3, 4], .endBulk 0x02 2 [],
      .endControl 0x80 1 [], .abort 0 3] _ _ :=
    .cons (.beginControl rfl _ _ _) <| .cons (.beginBulk rfl _ _) <|
    .cons (.beginControl rfl _ _ _) <| .cons (.appendControl rfl (by decide) _) <|
    .cons (.endBulk rfl (fun _ => rfl)) <| .cons (.endControl rfl (by decide) (fun _ => rfl)) <|
    .cons (.abortControl rfl (by decide)) (.nil _)
  exact (transfers_paired h rfl hrun).1.trans (by decide)

end DeviceHandle

end DemuxUsb
