import DemuxUsb.Library.Places
import DemuxUsb.Protocol.RecoveryInterfaceExpert

/-!
# The history of a recovery expert

What a recovery expert has decoded is a function of the transfers it was handed.
`payloadAt` says which payload the transfer at a place creates: the data of an upload are
those of the bulk transfers behind its announcement. The expert finds the upload that data
belong to by going back through its payloads (`extendLast`), which never fails because an
open upload is there (`Opened`).

* `payloads_decoded`: the payloads, the uploads and the console of every sequence.
-/

namespace DemuxUsb.RecoveryInterfaceExpert

open Places

/-! ## Transfers -/

/-- A transfer as the expert takes it. -/
inductive Transfer where
  | controlOut (setup : UsbSetup) (data : Bytes)
  | controlIn (setup : UsbSetup) (data : Bytes)
  | bulkOut (data : Bytes)
  | bulkIn (data : Bytes)
  deriving DecidableEq

namespace Transfer

/-- The start of a file transfer. -/
def announces : Transfer → Bool
  | controlOut setup _ => setup.bmRequestType = 0x41 ∧ setup.bRequest = 0
  | _ => false

def uploaded : Transfer → Bytes
  | bulkOut data => data
  | _ => []

def printed : Transfer → Bytes
  | bulkIn data => data
  | _ => []

/-- Behind this transfer there is an upload. -/
def startsUpload (t : Transfer) : Bool := t.announces || decide (t.uploaded ≠ [])

end Transfer

/-- The data that belong to an upload with `after` behind it. -/
def uploadData (after : List Transfer) : Bytes :=
  (after.takeWhile (fun t => !t.announces)).flatMap Transfer.uploaded

/-- The payload that the transfer at a place creates; `opened` says that there is an upload
already in front of the sequence. A text goes up to the first NUL, or to the end of the data. -/
def payloadAt (opened : Bool) (p : Place Transfer) : Option RecoveryPayload :=
  match p.item with
  | .controlOut setup data =>
    if setup.bmRequestType = 0x40 ∧ 0 < data.length then
      some { kind := .command, request := setup.bRequest, text := data.takeWhile (· != 0) }
    else if setup.bmRequestType = 0x41 ∧ setup.bRequest = 0 then
      some { kind := .upload, request := setup.bRequest, data := uploadData p.after }
    else none
  | .controlIn setup data =>
    if setup.bmRequestType = 0xC0 ∧ 0 < data.length then
      some { kind := .response, request := setup.bRequest, text := data.takeWhile (· != 0) }
    else none
  | .bulkOut data =>
    if data ≠ [] ∧ (opened || p.before.any Transfer.startsUpload) = false then
      some { kind := .upload, data := data ++ uploadData p.after }
    else none
  | .bulkIn _ => none

def new (configuration interface : UInt8) : RecoveryInterfaceExpert :=
  { configuration := configuration, interface := interface }

/-- The expert after one transfer. -/
def transfer (e : RecoveryInterfaceExpert) : Transfer → RecoveryInterfaceExpert
  | .controlOut setup data => e.processControlOut setup data
  | .controlIn setup data => e.processControlIn setup data
  | .bulkOut data => e.processBulkOut data
  | .bulkIn data => e.processBulkIn data

/-- The expert after a sequence of transfers. -/
def run (e : RecoveryInterfaceExpert) (transfers : List Transfer) : RecoveryInterfaceExpert :=
  transfers.foldl transfer e

/-! ## The last upload -/

/-- No payload is an upload. -/
def NoUpload (payloads : List RecoveryPayload) : Prop := ∀ p ∈ payloads, p.kind ≠ .upload

theorem lastUpload_append {payloads later : List RecoveryPayload} {upload : RecoveryPayload}
    (hupload : upload.kind = .upload) (hlater : NoUpload later) :
    lastUpload (payloads ++ upload :: later) = some payloads.length := by
  have hnone : later.reverse.findIdx? (fun p => decide (p.kind = .upload)) = none := by
    rw [List.findIdx?_eq_none_iff]
    intro p hp
    exact decide_eq_false (hlater p (List.mem_reverse.mp hp))
  have hreverse : (payloads ++ upload :: later).reverse =
      later.reverse ++ upload :: payloads.reverse := by
    rw [List.reverse_append, List.reverse_cons, List.append_assoc]
    rfl
  unfold lastUpload
  rw [hreverse, List.findIdx?_append, hnone, List.findIdx?_cons, if_pos (decide_eq_true hupload),
    List.length_append, List.length_cons, List.length_reverse]
  show some (payloads.length + (later.length + 1) - 1 - (0 + later.length)) = _
  congr 1
  omega

theorem lastUpload_eq_none {payloads : List RecoveryPayload} (h : NoUpload payloads) :
    lastUpload payloads = none := by
  unfold lastUpload
  rw [List.findIdx?_eq_none_iff.mpr]
  · rfl
  · intro p hp
    exact decide_eq_false (h p (List.mem_reverse.mp hp))

/-- Payloads among which there is an upload, taken apart at the last one. -/
theorem split_lastUpload (payloads : List RecoveryPayload) :
    NoUpload payloads ∨ ∃ earlier upload later, payloads = earlier ++ upload :: later ∧
      upload.kind = .upload ∧ NoUpload later := by
  induction payloads with
  | nil => exact Or.inl (List.forall_mem_nil _)
  | cons p payloads ih =>
    rcases ih with hnone | ⟨earlier, upload, later, rfl, hupload, hlater⟩
    · by_cases hp : p.kind = .upload
      · exact Or.inr ⟨[], p, payloads, rfl, hp, hnone⟩
      · exact Or.inl (List.forall_mem_cons.mpr ⟨hp, hnone⟩)
    · exact Or.inr ⟨p :: earlier, upload, later, rfl, hupload, hlater⟩

/-- The last upload with more data. -/
def extendLast (payloads : List RecoveryPayload) (data : Bytes) : List RecoveryPayload :=
  match lastUpload payloads with
  | none => payloads
  | some i => payloads.modify i (fun p => { p with data := p.data ++ data })

section ExtendLast

variable {earlier later : List RecoveryPayload} {upload : RecoveryPayload}

theorem extendLast_append (hupload : upload.kind = .upload) (hlater : NoUpload later)
    (data : Bytes) : extendLast (earlier ++ upload :: later) data =
      earlier ++ { upload with data := upload.data ++ data } :: later := by
  unfold extendLast
  rw [lastUpload_append hupload hlater]
  dsimp only
  rw [List.modify_eq_take_cons_drop (by simp)]
  simp

theorem extendLast_of_noUpload {payloads : List RecoveryPayload} (h : NoUpload payloads)
    (data : Bytes) : extendLast payloads data = payloads := by
  unfold extendLast
  rw [lastUpload_eq_none h]

/-- A payload behind the last upload is in nobody's way. -/
theorem extendLast_concat {payload : RecoveryPayload} (h : payload.kind ≠ .upload)
    (payloads : List RecoveryPayload) (data : Bytes) :
    extendLast (payloads ++ [payload]) data = extendLast payloads data ++ [payload] := by
  have hsingle : NoUpload [payload] := List.forall_mem_singleton.mpr h
  rcases split_lastUpload payloads with hnone | ⟨earlier, upload, later, rfl, hupload, hlater⟩
  · have hall : NoUpload (payloads ++ [payload]) := List.forall_mem_append.mpr ⟨hnone, hsingle⟩
    rw [extendLast_of_noUpload hall, extendLast_of_noUpload hnone]
  · have hall : NoUpload (later ++ [payload]) := List.forall_mem_append.mpr ⟨hlater, hsingle⟩
    rw [List.append_assoc, List.cons_append, extendLast_append hupload hall,
      extendLast_append hupload hlater, List.append_assoc, List.cons_append]

theorem extendLast_extendLast (payloads : List RecoveryPayload) (data more : Bytes) :
    extendLast (extendLast payloads data) more = extendLast payloads (data ++ more) := by
  rcases split_lastUpload payloads with hnone | ⟨earlier, upload, later, rfl, hupload, hlater⟩
  · rw [extendLast_of_noUpload hnone, extendLast_of_noUpload hnone, extendLast_of_noUpload hnone]
  · have hmore : { upload with data := upload.data ++ data }.kind = .upload := hupload
    rw [extendLast_append hupload hlater, extendLast_append hupload hlater,
      extendLast_append hmore hlater, List.append_assoc]

theorem extendLast_nil (payloads : List RecoveryPayload) : extendLast payloads [] = payloads := by
  rcases split_lastUpload payloads with hnone | ⟨earlier, upload, later, rfl, hupload, hlater⟩
  · exact extendLast_of_noUpload hnone []
  · rw [extendLast_append hupload hlater, List.append_nil]

/-- More data make no upload and remove none. -/
theorem noUpload_extendLast_iff (payloads : List RecoveryPayload) (data : Bytes) :
    NoUpload (extendLast payloads data) ↔ NoUpload payloads := by
  rcases split_lastUpload payloads with hnone | ⟨earlier, upload, later, rfl, hupload, hlater⟩
  · rw [extendLast_of_noUpload hnone]
  · rw [extendLast_append hupload hlater]
    exact iff_of_false (fun h => h _ List.mem_append_cons_self hupload)
      (fun h => h _ List.mem_append_cons_self hupload)

end ExtendLast

/-! ## One transfer -/

/-- The flag says that there is an upload. -/
def Opened (e : RecoveryInterfaceExpert) : Prop := e.uploadOpen = true ↔ ¬ NoUpload e.payloads

/-- What `currentUpload` looks through: there is an upload. -/
def openUpload (e : RecoveryInterfaceExpert) : RecoveryInterfaceExpert :=
  if e.uploadOpen then e else { e.push { kind := .upload } with uploadOpen := true }

theorem isSome_lastUpload {payloads : List RecoveryPayload} (h : ¬ NoUpload payloads) :
    (lastUpload payloads).isSome = true := by
  rcases split_lastUpload payloads with hnone | ⟨earlier, upload, later, rfl, hupload, hlater⟩
  · exact absurd hnone h
  · rw [lastUpload_append hupload hlater]
    rfl

theorem not_noUpload_concat (payloads : List RecoveryPayload) {upload : RecoveryPayload}
    (h : upload.kind = .upload) : ¬ NoUpload (payloads ++ [upload]) := fun hnone =>
  hnone upload List.mem_concat_self h

theorem isSome_lastUpload_openUpload {e : RecoveryInterfaceExpert} (h : e.Opened) :
    (lastUpload e.openUpload.payloads).isSome = true := by
  apply isSome_lastUpload
  unfold openUpload
  split
  · next hopen => exact h.mp hopen
  · exact not_noUpload_concat _ rfl

theorem processBulkOut_nil (e : RecoveryInterfaceExpert) :
    (e.processBulkOut []).payloads = e.payloads ∧
      (e.processBulkOut []).uploadOpen = e.uploadOpen ∧
      (e.processBulkOut []).console = e.console := ⟨rfl, rfl, rfl⟩

/-- **Spec lemma.** -/
theorem processBulkOut_payloads {e : RecoveryInterfaceExpert} (h : e.Opened) {data : Bytes}
    (hdata : data ≠ []) :
    (e.processBulkOut data).payloads =
        (if e.uploadOpen then extendLast e.payloads data
          else e.payloads ++ [{ kind := .upload, data := data }]) ∧
      (e.processBulkOut data).uploadOpen = true ∧
      (e.processBulkOut data).console = e.console := by
  have hlength : ¬ data.length = 0 := fun hzero => hdata (List.length_eq_zero_iff.mp hzero)
  unfold processBulkOut
  dsimp only
  rw [if_neg hlength]
  unfold currentUpload
  dsimp only
  by_cases hopen : e.uploadOpen = true
  · obtain ⟨i, hi⟩ := Option.isSome_iff_exists.mp (isSome_lastUpload (h.mp hopen))
    rw [if_pos hopen, if_pos hopen, hi]
    unfold extendLast
    rw [hi]
    exact ⟨rfl, hopen, rfl⟩
  · have hlast : lastUpload (e.payloads ++ [({ kind := .upload } : RecoveryPayload)]) =
        some e.payloads.length := lastUpload_append rfl (List.forall_mem_nil _)
    rw [if_neg hopen, if_neg hopen]
    unfold push
    dsimp only
    rw [hlast]
    refine ⟨?_, rfl, rfl⟩
    dsimp only
    rw [List.modify_eq_take_cons_drop (by simp)]
    simp

theorem uploadData_cons (t : Transfer) (ts : List Transfer) :
    uploadData (t :: ts) = if t.announces then [] else t.uploaded ++ uploadData ts := by
  unfold uploadData
  rw [List.takeWhile_cons]
  by_cases ht : t.announces = true
  · simp [ht]
  · simp [ht]

/-- What a transfer does: with the data of the transfers behind it, the payloads get what
the transfer creates. -/
structure Decodes (e : RecoveryInterfaceExpert) (t : Transfer) (e' : RecoveryInterfaceExpert) :
    Prop where
  payloads : ∀ ts, extendLast e'.payloads (uploadData ts) =
    extendLast e.payloads (uploadData (t :: ts)) ++ (payloadAt e.uploadOpen ⟨[], t, ts⟩).toList
  uploadOpen : e'.uploadOpen = (e.uploadOpen || t.startsUpload)
  opened : e'.Opened
  console : e'.console = e.console ++ t.printed

section Decodes

variable {e e' : RecoveryInterfaceExpert} {t : Transfer} (h : e.Opened)

include h

theorem Decodes.of_text (hstarts : t.startsUpload = false) (payload : Option RecoveryPayload)
    (hkind : ∀ p ∈ payload, p.kind ≠ .upload)
    (hplace : ∀ ts, payloadAt e.uploadOpen ⟨[], t, ts⟩ = payload)
    (hpayloads : e'.payloads = e.payloads ++ payload.toList)
    (huploadOpen : e'.uploadOpen = e.uploadOpen)
    (hconsole : e'.console = e.console ++ t.printed) : Decodes e t e' := by
  obtain ⟨hannounces, huploaded⟩ := Bool.or_eq_false_iff.mp hstarts
  have hdata : ∀ ts, uploadData (t :: ts) = uploadData ts := by
    intro ts
    rw [uploadData_cons, hannounces, if_neg Bool.false_ne_true,
      not_not.mp (of_decide_eq_false huploaded), List.nil_append]
  refine ⟨?_, by rw [huploadOpen, hstarts, Bool.or_false], ?_, hconsole⟩
  · intro ts
    rw [hdata, hplace, hpayloads]
    cases payload with
    | none => rw [Option.toList_none, List.append_nil, List.append_nil]
    | some p => exact extendLast_concat (hkind p rfl) e.payloads (uploadData ts)
  · unfold Opened
    rw [huploadOpen, hpayloads]
    refine h.trans (not_congr ?_)
    unfold NoUpload
    rw [List.forall_mem_append]
    refine (and_iff_left ?_).symm
    intro p hp
    exact hkind p (Option.mem_toList.mp hp)

omit h in
theorem Decodes.of_announcement (hannounces : t.announces = true)
    {upload : RecoveryPayload} (hkind : upload.kind = .upload)
    (hplace : ∀ ts, payloadAt e.uploadOpen ⟨[], t, ts⟩ =
      some { upload with data := upload.data ++ uploadData ts })
    (hpayloads : e'.payloads = e.payloads ++ [upload]) (huploadOpen : e'.uploadOpen = true)
    (hconsole : e'.console = e.console ++ t.printed) : Decodes e t e' := by
  refine ⟨?_, ?_, ?_, hconsole⟩
  · intro ts
    rw [uploadData_cons, if_pos hannounces, extendLast_nil, hplace, hpayloads,
      extendLast_append hkind (List.forall_mem_nil _)]
    rfl
  · rw [huploadOpen, Transfer.startsUpload, hannounces, Bool.true_or, Bool.or_true]
  · unfold Opened
    rw [huploadOpen, hpayloads]
    exact iff_of_true rfl (not_noUpload_concat e.payloads hkind)

/-- Data extend the last upload, or begin the first one. -/
theorem decodes_processBulkOut_data {data : Bytes} (hdata : data ≠ []) :
    Decodes e (.bulkOut data) (e.processBulkOut data) := by
  obtain ⟨hpayloads, huploadOpen, hconsole⟩ := processBulkOut_payloads h hdata
  have hstarts : Transfer.startsUpload (.bulkOut data) = true := decide_eq_true hdata
  have hcons : ∀ ts, uploadData (.bulkOut data :: ts) = data ++ uploadData ts := fun ts =>
    uploadData_cons _ ts
  refine ⟨?_, by rw [huploadOpen, hstarts, Bool.or_true], ?_, ?_⟩
  · intro ts
    rw [hpayloads, hcons]
    unfold payloadAt
    dsimp only
    by_cases hopen : e.uploadOpen = true
    · rw [if_pos hopen, extendLast_extendLast, hopen,
        if_neg (fun hr => Bool.true_eq_false.mp hr.2)]
      exact (List.append_nil _).symm
    · have hnone : NoUpload e.payloads := not_not.mp (mt h.mpr hopen)
      rw [if_neg hopen, extendLast_of_noUpload hnone,
        extendLast_append rfl (List.forall_mem_nil _), Bool.eq_false_iff.mpr hopen,
        if_pos ⟨hdata, rfl⟩]
      rfl
  · unfold Opened
    rw [huploadOpen, hpayloads]
    refine iff_of_true rfl ?_
    by_cases hopen : e.uploadOpen = true
    · rw [if_pos hopen, noUpload_extendLast_iff]
      exact h.mp hopen
    · rw [if_neg hopen]
      exact not_noUpload_concat e.payloads rfl
  · rw [hconsole]
    exact (List.append_nil _).symm

theorem decodes_processBulkOut (data : Bytes) :
    Decodes e (.bulkOut data) (e.processBulkOut data) := by
  by_cases hdata : data = []
  · subst hdata
    obtain ⟨hpayloads, huploadOpen, hconsole⟩ := processBulkOut_nil e
    refine .of_text h rfl none (fun _ hp => absurd hp (Option.not_mem_none _)) ?_ ?_ huploadOpen ?_
    · intro ts
      simp [payloadAt]
    · rw [hpayloads, Option.toList_none, List.append_nil]
    · rw [hconsole]
      exact (List.append_nil _).symm
  · exact decodes_processBulkOut_data h hdata

theorem decodes_processControlIn (setup : UsbSetup) (data : Bytes) :
    Decodes e (.controlIn setup data) (e.processControlIn setup data) := by
  unfold processControlIn
  dsimp only
  by_cases hresponse : setup.bmRequestType = 0xC0 ∧ 0 < data.length
  · rw [if_pos hresponse]
    refine .of_text h rfl _ ?_ (fun _ => if_pos hresponse) rfl rfl (List.append_nil _).symm
    intro p hp
    obtain rfl := Option.mem_some.mp hp
    exact RecoveryPayloadKind.noConfusion
  · rw [if_neg hresponse]
    exact .of_text h rfl none (fun _ hp => absurd hp (Option.not_mem_none _))
      (fun _ => if_neg hresponse) (List.append_nil _).symm rfl (List.append_nil _).symm

theorem decodes_processControlOut (setup : UsbSetup) (data : Bytes) :
    Decodes e (.controlOut setup data) (e.processControlOut setup data) := by
  unfold processControlOut
  dsimp only
  by_cases hcommand : setup.bmRequestType = 0x40 ∧ 0 < data.length
  · have hannounces : Transfer.startsUpload (.controlOut setup data) = false := by
      simp [Transfer.startsUpload, Transfer.announces, Transfer.uploaded, hcommand.1]
    rw [if_pos hcommand]
    refine .of_text h hannounces _ ?_ (fun _ => if_pos hcommand) rfl rfl
      (List.append_nil _).symm
    intro p hp
    obtain rfl := Option.mem_some.mp hp
    exact RecoveryPayloadKind.noConfusion
  rw [if_neg hcommand]
  by_cases hupload : setup.bmRequestType = 0x41 ∧ setup.bRequest = 0
  · rw [if_pos hupload]
    refine .of_announcement (decide_eq_true hupload) rfl ?_ rfl rfl
      (List.append_nil _).symm
    intro ts
    unfold payloadAt
    dsimp only
    rw [if_neg hcommand, if_pos hupload]
    rfl
  · have hannounces : Transfer.startsUpload (.controlOut setup data) = false := by
      simp [Transfer.startsUpload, Transfer.announces, Transfer.uploaded, hupload]
    rw [if_neg hupload]
    refine .of_text h hannounces none (fun _ hp => absurd hp (Option.not_mem_none _)) ?_
      (List.append_nil _).symm rfl (List.append_nil _).symm
    intro ts
    unfold payloadAt
    dsimp only
    rw [if_neg hcommand, if_neg hupload]

/-- **Step lemma.** -/
theorem decodes_transfer (t : Transfer) : Decodes e t (e.transfer t) := by
  cases t with
  | bulkOut data => exact decodes_processBulkOut h data
  | bulkIn data =>
    exact .of_text h rfl none (fun _ hp => absurd hp (Option.not_mem_none _)) (fun _ => rfl)
      (List.append_nil _).symm rfl rfl
  | controlIn setup data => exact decodes_processControlIn h setup data
  | controlOut setup data => exact decodes_processControlOut h setup data

end Decodes

/-! ## Sequences of transfers -/

theorem opened_new (configuration interface : UInt8) : (new configuration interface).Opened :=
  iff_of_false Bool.false_ne_true (fun h => h (List.forall_mem_nil _))

theorem payloadAt_shift (opened : Bool) (t : Transfer) (p : Place Transfer) :
    payloadAt opened (Place.shift [t] p) = payloadAt (opened || t.startsUpload) p := by
  obtain ⟨before, item, after⟩ := p
  cases item with
  | bulkOut data =>
    unfold payloadAt
    show (if data ≠ [] ∧ (opened || (t.startsUpload || before.any Transfer.startsUpload)) = false
      then _ else _) = _
    rw [← Bool.or_assoc]
    rfl
  | bulkIn data => rfl
  | controlOut setup data => rfl
  | controlIn setup data => rfl

/-- **Run lemma.** The induction goes through the first transfer, since what it creates
depends on the transfers behind it. -/
theorem decodes_run {e : RecoveryInterfaceExpert} (h : e.Opened) (transfers : List Transfer) :
    (e.run transfers).payloads = extendLast e.payloads (uploadData transfers) ++
        (places transfers).filterMap (payloadAt e.uploadOpen) ∧
      (e.run transfers).console = e.console ++ transfers.flatMap Transfer.printed ∧
      (e.run transfers).Opened := by
  induction transfers generalizing e with
  | nil =>
    refine ⟨?_, (List.append_nil _).symm, h⟩
    rw [places_nil, List.filterMap_nil, List.append_nil]
    exact (extendLast_nil e.payloads).symm
  | cons t ts ih =>
    have hstep := decodes_transfer h t
    obtain ⟨hpayloads, hconsole, hopened⟩ := ih hstep.opened
    have hrun : e.run (t :: ts) = (e.transfer t).run ts := rfl
    rw [hrun]
    refine ⟨?_, ?_, hopened⟩
    · rw [hpayloads, hstep.payloads, hstep.uploadOpen, filterMap_places_cons (payloadAt_shift _ t),
        List.append_assoc]
    · rw [hconsole, hstep.console, List.flatMap_cons, List.append_assoc]

/-! ## Uploads -/

/-- The data of the uploads, one after the other. -/
def uploadBytes (payloads : List RecoveryPayload) : Bytes :=
  (payloads.filter (·.kind = .upload)).flatMap (·.data)

theorem uploadBytes_append (payloads more : List RecoveryPayload) :
    uploadBytes (payloads ++ more) = uploadBytes payloads ++ uploadBytes more := by
  unfold uploadBytes
  rw [List.filter_append, List.flatMap_append]

theorem uploadBytes_payloadAt (opened : Bool) (t : Transfer) (ts : List Transfer) :
    uploadBytes (payloadAt opened ⟨[], t, ts⟩).toList =
      if t.announces then uploadData ts
      else if opened = false ∧ t.uploaded ≠ [] then t.uploaded ++ uploadData ts
      else [] := by
  cases t with
  | bulkIn data => simp [payloadAt, uploadBytes, Transfer.announces, Transfer.uploaded]
  | bulkOut data =>
    by_cases hupload : data ≠ [] ∧ opened = false
    · simp [payloadAt, uploadBytes, Transfer.announces, Transfer.uploaded, hupload]
    · have hswap : ¬ (opened = false ∧ data ≠ []) := fun h => hupload h.symm
      simp [payloadAt, uploadBytes, Transfer.announces, Transfer.uploaded, hupload, hswap]
  | controlIn setup data =>
    by_cases hresponse : setup.bmRequestType = 0xC0 ∧ 0 < data.length
    · simp [payloadAt, uploadBytes, Transfer.announces, Transfer.uploaded, hresponse]
    · simp [payloadAt, uploadBytes, Transfer.announces, Transfer.uploaded, hresponse]
  | controlOut setup data =>
    by_cases hcommand : setup.bmRequestType = 0x40 ∧ 0 < data.length
    · simp [payloadAt, uploadBytes, Transfer.announces, Transfer.uploaded, hcommand]
    · by_cases hupload : setup.bmRequestType = 0x41 ∧ setup.bRequest = 0
      · simp [payloadAt, uploadBytes, Transfer.announces, hupload]
      · simp [payloadAt, uploadBytes, Transfer.announces, Transfer.uploaded, hcommand, hupload]

/-- An announcement carries nothing. -/
theorem uploaded_of_announces {t : Transfer} (h : t.announces = true) : t.uploaded = [] := by
  cases t with
  | controlOut setup data => rfl
  | controlIn setup data => rfl
  | bulkIn data => rfl
  | bulkOut data => exact absurd h Bool.false_ne_true

theorem uploadBytes_places (opened : Bool) (transfers : List Transfer) :
    (if opened then uploadData transfers else []) ++
        uploadBytes ((places transfers).filterMap (payloadAt opened)) =
      transfers.flatMap Transfer.uploaded := by
  induction transfers generalizing opened with
  | nil => cases opened <;> rfl
  | cons t ts ih =>
    rw [filterMap_places_cons (payloadAt_shift opened t), uploadBytes_append, uploadBytes_payloadAt, uploadData_cons,
      List.flatMap_cons, ← ih (opened || t.startsUpload)]
    by_cases hannounces : t.announces = true
    · rw [uploaded_of_announces hannounces]
      simp [Transfer.startsUpload, hannounces]
    · by_cases huploaded : t.uploaded = []
      · simp [Transfer.startsUpload, hannounces, huploaded]
      · cases opened with
        | false => simp [Transfer.startsUpload, hannounces, huploaded]
        | true => simp [Transfer.startsUpload, hannounces]

/-- `currentUpload` finds the upload. -/
theorem currentUpload_eq {e : RecoveryInterfaceExpert} (h : e.Opened) :
    ∃ i, lastUpload e.openUpload.payloads = some i ∧ e.currentUpload = (e.openUpload, i) := by
  obtain ⟨i, hi⟩ := Option.isSome_iff_exists.mp (isSome_lastUpload_openUpload h)
  refine ⟨i, hi, ?_⟩
  unfold openUpload at hi ⊢
  unfold currentUpload
  dsimp only
  rw [hi]

/-- **Recovery mode.** The payloads are what the transfers create at their places, and the
uploads and the console hold every byte of the bulk transfers. Whatever an expert has counted
by then, `currentUpload` does not come to its last resort. -/
theorem payloads_decoded (configuration interface : UInt8) (transfers : List Transfer) :
    let e := (new configuration interface).run transfers
    e.payloads = (places transfers).filterMap (payloadAt false) ∧
      uploadBytes e.payloads = transfers.flatMap Transfer.uploaded ∧
      e.console = transfers.flatMap Transfer.printed ∧
      ∀ counted : InterfaceExpert,
        let e := { e with toInterfaceExpert := counted }
        ∃ i, lastUpload e.openUpload.payloads = some i ∧ e.currentUpload = (e.openUpload, i) := by
  obtain ⟨hpayloads, hconsole, hopened⟩ :=
    decodes_run (opened_new configuration interface) transfers
  have hall : ((new configuration interface).run transfers).payloads =
      (places transfers).filterMap (payloadAt false) := by
    rw [hpayloads]
    exact List.nil_append _
  refine ⟨hall, ?_, ?_, ?_⟩
  · rw [hall, ← uploadBytes_places false transfers]
    rfl
  · rw [hconsole]
    rfl
  · intro counted
    exact currentUpload_eq hopened

end DemuxUsb.RecoveryInterfaceExpert
