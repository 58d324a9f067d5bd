import DemuxUsb.Library.Maps
import DemuxUsb.Library.Texts
import DemuxUsb.Protocol.DownloadHistory

/-!
# What a DFU expert reports

Next to the images a DFU expert keeps what it has to report: the irregularities it met, how
often each request was made, what was uploaded, and the last state the device gave. A request
is irregular by itself or against the download that it aborts, so the irregularities are a
function of the places of the requests, and a sequence without any is one that conforms.

* `anomalies_exact`: the anomalies are the irregularities in order, and there are none if and
  only if the sequence conforms;
* `report_run`: the rest of the report, as a function of the requests, with the text of every line
  of the details.
-/

namespace DemuxUsb.DFUInterfaceExpert

open Places

/-! ## The report -/

/-- `stateName` -/
def stateName (state : Int) : String :=
  if state = 0 then "appIDLE"
  else if state = 1 then "appDETACH"
  else if state = 2 then "dfuIDLE"
  else if state = 3 then "dfuDNLOAD-SYNC"
  else if state = 4 then "dfuDNBUSY"
  else if state = 5 then "dfuDNLOAD-IDLE"
  else if state = 6 then "dfuMANIFEST-SYNC"
  else if state = 7 then "dfuMANIFEST"
  else if state = 8 then "dfuMANIFEST-WAIT-RESET"
  else if state = 9 then "dfuUPLOAD-IDLE"
  else if state = 10 then "dfuERROR"
  else if state = -1 then "unknown"
  else s!"state({state})"

/-- The sum is taken in 64 bits. -/
def imageBytes (e : DFUInterfaceExpert) : UInt64 :=
  e.getImages.foldl (fun bytes image => bytes + UInt64.ofNat image.length) 0

def toString (e : DFUInterfaceExpert) : String :=
  s!"DFUInterfaceExpert (config={e.configuration.toNat}, int={e.interface.toNat}) - {e.controlPackets.toNat} control packets ({e.controlBytes.toNat} bytes), {e.getImages.length} images downloaded ({e.imageBytes.toNat} bytes), {e.uploadBytes.toNat} bytes uploaded, last state {stateName e.lastState}, {e.anomalies.length} anomalies"

/-- The line of `details` for a request. -/
def countLine (request : UInt8) (count : UInt32) : String :=
  s!"      {requestName request}: {count.toNat}\n"

/-- The line of `details` for an anomaly. -/
def anomalyLine (anomaly : String) : String := s!"      ! {anomaly}\n"

def details (e : DFUInterfaceExpert) : String :=
  String.join (e.requestCounts.toList.map fun entry => countLine entry.1 entry.2) ++
    String.join (e.anomalies.map anomalyLine)

/-! ## Names -/

/-- The requests of DFU 1.1, in the order of their codes. -/
def codeNames : List String :=
  ["DETACH", "DNLOAD", "UPLOAD", "GETSTATUS", "CLRSTATUS", "GETSTATE", "ABORT"]

/-- What a request is called. -/
def codeName (request : UInt8) : String := codeNames[request.toNat]?.getD "UNKNOWN"

theorem requestName_eq (request : UInt8) : requestName request = codeName request := by
  have hall : ∀ i : Fin 256, requestName (UInt8.ofNat i) = codeName (UInt8.ofNat i) := by
    decide +kernel
  have hrequest := hall ⟨request.toNat, request.toNat_lt⟩
  rwa [UInt8.ofNat_toNat] at hrequest

theorem printed_codeName (request : UInt8) : Texts.Printed (codeName request) := by
  have hall : ∀ name ∈ codeNames, Texts.Printed name := by decide +kernel
  unfold codeName
  cases hname : codeNames[request.toNat]? with
  | none => rfl
  | some name => exact hall name (List.mem_of_getElem? hname)

/-! ## Irregularities -/

/-- What can be wrong with a request. -/
inductive Irregularity where
  | length (request : UInt8) (carried : Nat) (announced : UInt16)
  | oversized (announced transferSize : UInt16)
  | abandoned (bytes : Nat)
  | unexpectedOut (request : UInt8)
  | unexpectedIn (request : UInt8)
  deriving DecidableEq

namespace Irregularity

def text : Irregularity → String
  | length request carried announced =>
    s!"{codeName request} carried {carried} bytes but wLength was {announced.toNat}"
  | oversized announced transferSize =>
    s!"DNLOAD of {announced.toNat} bytes exceeds wTransferSize {transferSize.toNat}"
  | abandoned bytes => s!"ABORT after a partial download of {bytes} bytes"
  | unexpectedOut request => s!"Unexpected class OUT request 0x{hexText 2 request.toNat}"
  | unexpectedIn request => s!"Unexpected class IN request 0x{hexText 2 request.toNat}"

theorem text_length (request : UInt8) (carried : Nat) (announced : UInt16) :
    (length request carried announced).text =
      s!"{requestName request} carried {carried} bytes but wLength was {announced.toNat}" := by
  rw [requestName_eq]
  rfl

theorem printed_text (i : Irregularity) : Texts.Printed i.text := by
  have hbytes : Texts.Printed " bytes" := rfl
  cases i with
  | length request carried announced =>
    have hcarried : Texts.Printed " carried " := rfl
    have hannounced : Texts.Printed " bytes but wLength was " := rfl
    exact ((((printed_codeName request).append hcarried).append
      (Texts.printed_repr carried)).append hannounced).append (Texts.printed_repr _)
  | oversized announced transferSize =>
    have hstart : Texts.Printed "DNLOAD of " := rfl
    have hexceeds : Texts.Printed " bytes exceeds wTransferSize " := rfl
    exact ((hstart.append (Texts.printed_repr _)).append hexceeds).append (Texts.printed_repr _)
  | abandoned bytes =>
    have hstart : Texts.Printed "ABORT after a partial download of " := rfl
    exact (hstart.append (Texts.printed_repr bytes)).append hbytes
  | unexpectedOut request =>
    have hstart : Texts.Printed "Unexpected class OUT request 0x" := rfl
    exact hstart.append (printed_hexText 2 _)
  | unexpectedIn request =>
    have hstart : Texts.Printed "Unexpected class IN request 0x" := rfl
    exact hstart.append (printed_hexText 2 _)

end Irregularity

namespace Request

/-- The code of a class request. -/
def classCode : Request → Option UInt8
  | controlOut setup _ =>
    if setup.bmRequestType &&& usbTypeMask = usbTypeClass then some setup.bRequest else none
  | controlIn setup _ =>
    if setup.bmRequestType &&& usbTypeMask = usbTypeClass then some setup.bRequest else none

/-- What is wrong with a request for a device with this transfer size, while `pending` bytes
of an image have been downloaded. -/
def irregularities (transferSize : UInt16) (pending : Nat) : Request → List Irregularity
  | controlOut setup data =>
    if setup.bmRequestType &&& usbTypeMask ≠ usbTypeClass then []
    else
      (if data.length ≠ setup.wLength.toNat then
        [.length setup.bRequest data.length setup.wLength] else []) ++
      if setup.bRequest = dfuDnload then
        if transferSize ≠ 0 ∧ transferSize < setup.wLength then
          [.oversized setup.wLength transferSize] else []
      else if setup.bRequest = dfuAbort then
        if pending ≠ 0 then [.abandoned pending] else []
      else if setup.bRequest = dfuDetach ∨ setup.bRequest = dfuClrstatus then []
      else [.unexpectedOut setup.bRequest]
  | controlIn setup _ =>
    if setup.bmRequestType &&& usbTypeMask ≠ usbTypeClass then []
    else if setup.bRequest = dfuGetstatus ∨ setup.bRequest = dfuGetstate ∨
        setup.bRequest = dfuUpload then []
    else [.unexpectedIn setup.bRequest]

/-- The state that the device answers with. -/
def state? : Request → Option Int
  | controlOut _ _ => none
  | controlIn setup data =>
    if IsClass setup dfuGetstatus ∧ 5 ≤ data.length then some (Endian.u8 data 4).toNat
    else if IsClass setup dfuGetstate ∧ 1 ≤ data.length then some (Endian.u8 data 0).toNat
    else none

/-- The status that the device answers with. -/
def status? : Request → Option Int
  | controlOut _ _ => none
  | controlIn setup data =>
    if IsClass setup dfuGetstatus ∧ 5 ≤ data.length then some (Endian.u8 data 0).toNat else none

def uploaded : Request → Bytes
  | controlOut _ _ => []
  | controlIn setup data => if IsClass setup dfuUpload then data else []

end Request

/-! ## One request -/

/-- Two experts with the same report but for the irregularities that were `found`. -/
structure Notes (e e' : DFUInterfaceExpert) (found : List Irregularity) : Prop where
  anomalies : e'.anomalies = e.anomalies ++ found.map Irregularity.text
  transferSize : e'.transferSize = e.transferSize
  requestCounts : e'.requestCounts = e.requestCounts
  uploadBytes : e'.uploadBytes = e.uploadBytes
  lastState : e'.lastState = e.lastState
  lastStatus : e'.lastStatus = e.lastStatus

section Notes

variable {e e₁ e₂ : DFUInterfaceExpert} {found₁ found₂ : List Irregularity}

theorem Notes.refl (e : DFUInterfaceExpert) : Notes e e [] :=
  ⟨(List.append_nil _).symm, rfl, rfl, rfl, rfl, rfl⟩

theorem Notes.anomaly (e : DFUInterfaceExpert) (i : Irregularity) :
    Notes e (e.anomaly i.text) [i] := ⟨rfl, rfl, rfl, rfl, rfl, rfl⟩

theorem Notes.pushImage (h : Notes e e₁ found₁) : Notes e e₁.pushImage found₁ :=
  ⟨h.1, h.2, h.3, h.4, h.5, h.6⟩

theorem Notes.trans (h₁ : Notes e e₁ found₁) (h₂ : Notes e₁ e₂ found₂) :
    Notes e e₂ (found₁ ++ found₂) where
  anomalies := by rw [h₂.anomalies, h₁.anomalies, List.map_append, List.append_assoc]
  transferSize := h₂.transferSize.trans h₁.transferSize
  requestCounts := h₂.requestCounts.trans h₁.requestCounts
  uploadBytes := h₂.uploadBytes.trans h₁.uploadBytes
  lastState := h₂.lastState.trans h₁.lastState
  lastStatus := h₂.lastStatus.trans h₁.lastStatus

theorem Notes.ite {c : Prop} [Decidable c] (h₁ : Notes e e₁ found₁) (h₂ : Notes e e₂ found₂) :
    Notes e (if c then e₁ else e₂) (if c then found₁ else found₂) := by
  split
  · exact h₁
  · exact h₂

end Notes

/-- What a request does to the report. -/
structure Reports (e : DFUInterfaceExpert) (r : Request) (e' : DFUInterfaceExpert) : Prop where
  anomalies : e'.anomalies = e.anomalies ++
    (r.irregularities e.transferSize e.currentImage.length).map Irregularity.text
  transferSize : e'.transferSize = e.transferSize
  requestCounts : ∀ c : UInt8, e'.requestCounts[c]? =
    if r.classCode = some c then some (e.requestCounts[c]?.getD 0 + 1) else e.requestCounts[c]?
  uploadBytes : e'.uploadBytes = e.uploadBytes + UInt64.ofNat r.uploaded.length
  lastState : e'.lastState = r.state?.getD e.lastState
  lastStatus : e'.lastStatus = r.status?.getD e.lastStatus

theorem getElem?_countRequest (e : DFUInterfaceExpert) (request c : UInt8) :
    (e.countRequest request).requestCounts[c]? =
      if some request = some c then some (e.requestCounts[c]?.getD 0 + 1)
      else e.requestCounts[c]? := by
  rw [countRequest]
  by_cases h : request = c
  · rw [← h, if_pos rfl, Std.ExtTreeMap.getElem?_insert_self]
  · rw [if_neg fun heq => h (Option.some.inj heq), Maps.getElem?_insert_ne (Ne.symm h)]

/-- A request of another class does not matter. -/
theorem Reports.of_other {e e' : DFUInterfaceExpert} {r : Request}
    (hcode : r.classCode = none) (hfound : r.irregularities e.transferSize e.currentImage.length = [])
    (huploaded : r.uploaded = []) (hstate : r.state? = none) (hstatus : r.status? = none)
    (h : Notes e e' []) : Reports e r e' where
  anomalies := by rw [h.anomalies, hfound]
  transferSize := h.transferSize
  requestCounts := by
    intro c
    rw [hcode, if_neg (Option.some_ne_none c).symm, h.requestCounts]
  uploadBytes := by rw [h.uploadBytes, huploaded]; exact (UInt64.add_zero _).symm
  lastState := by rw [h.lastState, hstate, Option.getD_none]
  lastStatus := by rw [h.lastStatus, hstatus, Option.getD_none]

/-- A class request is counted, and then looked at. -/
theorem Reports.of_counted {e counted e' : DFUInterfaceExpert} {r : Request} {request : UInt8}
    (hcode : r.classCode = some request)
    (hcounted : counted.anomalies = e.anomalies ∧ counted.transferSize = e.transferSize ∧
      counted.uploadBytes = e.uploadBytes ∧ counted.lastState = e.lastState ∧
      counted.lastStatus = e.lastStatus ∧
      counted.requestCounts = (e.countRequest request).requestCounts)
    (huploaded : r.uploaded = []) (hstate : r.state? = none) (hstatus : r.status? = none)
    (h : Notes counted e' (r.irregularities e.transferSize e.currentImage.length)) :
    Reports e r e' := by
  obtain ⟨hanomalies, hsize, hupload, hlastState, hlastStatus, hcounts⟩ := hcounted
  refine ⟨?_, ?_, ?_, ?_, ?_, ?_⟩
  · rw [h.anomalies, hanomalies]
  · rw [h.transferSize, hsize]
  · intro c
    rw [h.requestCounts, hcounts, hcode, getElem?_countRequest]
  · rw [h.uploadBytes, hupload, huploaded]
    exact (UInt64.add_zero _).symm
  · rw [h.lastState, hlastState, hstate, Option.getD_none]
  · rw [h.lastStatus, hlastStatus, hstatus, Option.getD_none]

theorem reports_processControlOut (e : DFUInterfaceExpert) (setup : UsbSetup) (data : Bytes) :
    Reports e (.controlOut setup data) (e.processControlOut setup data) := by
  unfold processControlOut
  dsimp only
  by_cases hclass : setup.bmRequestType &&& usbTypeMask = usbTypeClass
  swap
  · rw [if_pos hclass]
    exact .of_other (if_neg hclass) (if_pos hclass) rfl rfl rfl
      ⟨(List.append_nil _).symm, rfl, rfl, rfl, rfl, rfl⟩
  rw [if_neg (not_not.mpr hclass)]
  generalize hcounted : countRequest { e with
    toInterfaceExpert := e.toInterfaceExpert.processControlOut setup data } setup.bRequest = counted
  have hsize : counted.transferSize = e.transferSize := by rw [← hcounted]; rfl
  have hcurrent : counted.currentImage = e.currentImage := by rw [← hcounted]; rfl
  refine @Reports.of_counted e counted _ _ setup.bRequest (if_pos hclass) ?_ rfl rfl rfl ?_
  · rw [← hcounted]
    exact ⟨rfl, rfl, rfl, rfl, rfl, rfl⟩
  rw [Request.irregularities, if_neg (not_not.mpr hclass)]
  -- first the length is checked
  have hlength : Notes counted
      (if data.length ≠ setup.wLength.toNat then
        counted.anomaly s!"{requestName setup.bRequest} carried {data.length} bytes but wLength was {setup.wLength.toNat}"
      else counted)
      (if data.length ≠ setup.wLength.toNat then
        [.length setup.bRequest data.length setup.wLength] else []) := by
    rw [← Irregularity.text_length]
    exact .ite (.anomaly counted (.length setup.bRequest data.length setup.wLength)) (.refl counted)
  have hkept : ∀ {c : Prop} [Decidable c] (text : String),
      (if c then counted.anomaly text else counted).currentImage = e.currentImage ∧
        (if c then counted.anomaly text else counted).transferSize = e.transferSize := by
    intro c _ text
    split
    · exact ⟨hcurrent, hsize⟩
    · exact ⟨hcurrent, hsize⟩
  obtain ⟨hcurrent', hsize'⟩ := hkept (c := data.length ≠ setup.wLength.toNat)
    s!"{requestName setup.bRequest} carried {data.length} bytes but wLength was {setup.wLength.toNat}"
  revert hlength hcurrent' hsize'
  generalize (if data.length ≠ setup.wLength.toNat then _ else counted) = checked
  intro hlength hcurrent' hsize'
  apply hlength.trans
  by_cases hdnload : setup.bRequest = dfuDnload
  · rw [if_pos hdnload, if_pos hdnload]
    by_cases hzero : setup.wLength = 0
    · have hfits : ¬ (e.transferSize ≠ 0 ∧ e.transferSize < setup.wLength) := by
        rw [hzero]
        exact fun h => absurd h.2 UInt16.not_lt_zero
      rw [if_pos hzero, if_neg hfits]
      split
      · exact (Notes.refl checked).pushImage
      · exact .refl checked
    · rw [if_neg hzero, hsize']
      have hsized : Notes checked
          (if e.transferSize ≠ 0 ∧ e.transferSize < setup.wLength then
            checked.anomaly s!"DNLOAD of {setup.wLength.toNat} bytes exceeds wTransferSize {e.transferSize.toNat}"
          else checked)
          (if e.transferSize ≠ 0 ∧ e.transferSize < setup.wLength then
            [.oversized setup.wLength e.transferSize] else []) :=
        .ite (.anomaly checked (.oversized setup.wLength e.transferSize)) (.refl checked)
      exact ⟨hsized.1, hsized.2, hsized.3, hsized.4, hsized.5, hsized.6⟩
  rw [if_neg hdnload, if_neg hdnload]
  by_cases habort : setup.bRequest = dfuAbort
  · rw [if_pos habort, if_pos habort, hcurrent']
    by_cases hempty : e.currentImage = []
    · rw [if_neg (not_not.mpr hempty), if_neg fun h => h (List.length_eq_zero_iff.mpr hempty)]
      exact .refl checked
    · rw [if_pos hempty, if_pos fun h => hempty (List.length_eq_zero_iff.mp h)]
      exact (Notes.anomaly checked (.abandoned e.currentImage.length)).pushImage
  rw [if_neg habort, if_neg habort]
  exact .ite (.refl checked) (.anomaly checked (.unexpectedOut setup.bRequest))

section Answers

variable {setup : UsbSetup} (data : Bytes) (transferSize : UInt16) (pending : Nat)

theorem answer_status (h : IsClass setup dfuGetstatus) :
    let r := Request.controlIn setup data
    r.irregularities transferSize pending = [] ∧ r.uploaded = [] ∧
      r.state? = (if 5 ≤ data.length then some ((Endian.u8 data 4).toNat : Int) else none) ∧
      r.status? = if 5 ≤ data.length then some ((Endian.u8 data 0).toNat : Int) else none := by
  have hcodes : dfuGetstatus ≠ dfuGetstate ∧ dfuGetstatus ≠ dfuUpload := by decide
  obtain ⟨hclass, hrequest⟩ := h
  simp [Request.irregularities, Request.uploaded, Request.state?, Request.status?, IsClass, hclass,
    hrequest, hcodes]

theorem answer_state (h : IsClass setup dfuGetstate) :
    let r := Request.controlIn setup data
    r.irregularities transferSize pending = [] ∧ r.uploaded = [] ∧
      r.state? = (if 1 ≤ data.length then some ((Endian.u8 data 0).toNat : Int) else none) ∧
      r.status? = none := by
  have hcodes : dfuGetstate ≠ dfuGetstatus ∧ dfuGetstate ≠ dfuUpload := by decide
  obtain ⟨hclass, hrequest⟩ := h
  simp [Request.irregularities, Request.uploaded, Request.state?, Request.status?, IsClass, hclass,
    hrequest, hcodes]

theorem answer_upload (h : IsClass setup dfuUpload) :
    let r := Request.controlIn setup data
    r.irregularities transferSize pending = [] ∧ r.uploaded = data ∧ r.state? = none ∧
      r.status? = none := by
  have hcodes : dfuUpload ≠ dfuGetstatus ∧ dfuUpload ≠ dfuGetstate := by decide
  obtain ⟨hclass, hrequest⟩ := h
  simp [Request.irregularities, Request.uploaded, Request.state?, Request.status?, IsClass, hclass,
    hrequest, hcodes]

theorem answer_unexpected (hclass : setup.bmRequestType &&& usbTypeMask = usbTypeClass)
    (hstatus : setup.bRequest ≠ dfuGetstatus) (hstate : setup.bRequest ≠ dfuGetstate)
    (hupload : setup.bRequest ≠ dfuUpload) :
    let r := Request.controlIn setup data
    r.irregularities transferSize pending = [.unexpectedIn setup.bRequest] ∧ r.uploaded = [] ∧
      r.state? = none ∧ r.status? = none := by
  simp [Request.irregularities, Request.uploaded, Request.state?, Request.status?, IsClass, hclass,
    hstatus, hstate, hupload]

end Answers

theorem reports_processControlIn (e : DFUInterfaceExpert) (setup : UsbSetup) (data : Bytes) :
    Reports e (.controlIn setup data) (e.processControlIn setup data) := by
  unfold processControlIn
  dsimp only
  by_cases hclass : setup.bmRequestType &&& usbTypeMask = usbTypeClass
  swap
  · have hrequest : ∀ request, ¬ IsClass setup request := fun _ h => hclass h.1
    have hstate : Request.state? (.controlIn setup data) = none := by
      rw [Request.state?, if_neg fun h => hrequest _ h.1, if_neg fun h => hrequest _ h.1]
    rw [if_pos hclass]
    exact .of_other (if_neg hclass) (if_pos hclass) (if_neg (hrequest _)) hstate
      (if_neg fun h => hrequest _ h.1) ⟨(List.append_nil _).symm, rfl, rfl, rfl, rfl, rfl⟩
  rw [if_neg (not_not.mpr hclass)]
  have hcounts : ∀ c : UInt8, (e.countRequest setup.bRequest).requestCounts[c]? =
      if Request.classCode (.controlIn setup data) = some c then
        some (e.requestCounts[c]?.getD 0 + 1)
      else e.requestCounts[c]? := by
    intro c
    rw [show Request.classCode (.controlIn setup data) = some setup.bRequest from if_pos hclass]
    exact e.getElem?_countRequest setup.bRequest c
  -- what each answer is good for
  by_cases hstatus : setup.bRequest = dfuGetstatus
  · obtain ⟨hfound, huploaded, hstate?, hstatus?⟩ := answer_status data e.transferSize
      e.currentImage.length ⟨hclass, hstatus⟩
    rw [if_pos hstatus]
    by_cases hlong : 5 ≤ data.length
    · rw [if_pos hlong] at hstate? hstatus? ⊢
      refine ⟨?_, rfl, hcounts, ?_, ?_, ?_⟩
      · rw [hfound]; exact (List.append_nil _).symm
      · rw [huploaded]; exact (UInt64.add_zero _).symm
      · rw [hstate?]; rfl
      · rw [hstatus?]; rfl
    · rw [if_neg hlong] at hstate? hstatus? ⊢
      refine ⟨?_, rfl, hcounts, ?_, ?_, ?_⟩
      · rw [hfound]; exact (List.append_nil _).symm
      · rw [huploaded]; exact (UInt64.add_zero _).symm
      · rw [hstate?]; rfl
      · rw [hstatus?]; rfl
  rw [if_neg hstatus]
  by_cases hstate : setup.bRequest = dfuGetstate
  · obtain ⟨hfound, huploaded, hstate?, hstatus?⟩ := answer_state data e.transferSize
      e.currentImage.length ⟨hclass, hstate⟩
    rw [if_pos hstate]
    by_cases hlong : 1 ≤ data.length
    · rw [if_pos hlong] at hstate? ⊢
      refine ⟨?_, rfl, hcounts, ?_, ?_, ?_⟩
      · rw [hfound]; exact (List.append_nil _).symm
      · rw [huploaded]; exact (UInt64.add_zero _).symm
      · rw [hstate?]; rfl
      · rw [hstatus?]; rfl
    · rw [if_neg hlong] at hstate? ⊢
      refine ⟨?_, rfl, hcounts, ?_, ?_, ?_⟩
      · rw [hfound]; exact (List.append_nil _).symm
      · rw [huploaded]; exact (UInt64.add_zero _).symm
      · rw [hstate?]; rfl
      · rw [hstatus?]; rfl
  rw [if_neg hstate]
  by_cases hupload : setup.bRequest = dfuUpload
  · obtain ⟨hfound, huploaded, hstate?, hstatus?⟩ := answer_upload data e.transferSize
      e.currentImage.length ⟨hclass, hupload⟩
    rw [if_pos hupload]
    refine ⟨?_, rfl, hcounts, ?_, ?_, ?_⟩
    · rw [hfound]; exact (List.append_nil _).symm
    · rw [huploaded]; rfl
    · rw [hstate?]; rfl
    · rw [hstatus?]; rfl
  · obtain ⟨hfound, huploaded, hstate?, hstatus?⟩ := answer_unexpected data e.transferSize
      e.currentImage.length hclass hstatus hstate hupload
    rw [if_neg hupload]
    refine ⟨?_, rfl, hcounts, ?_, ?_, ?_⟩
    · rw [hfound]; rfl
    · rw [huploaded]; exact (UInt64.add_zero _).symm
    · rw [hstate?]; rfl
    · rw [hstatus?]; rfl

/-- **Step lemma.** -/
theorem reports_request (e : DFUInterfaceExpert) (r : Request) : Reports e r (e.request r) := by
  cases r with
  | controlOut setup data => exact reports_processControlOut e setup data
  | controlIn setup data => exact reports_processControlIn e setup data

/-! ## Sequences of requests -/

/-- What is wrong in a sequence, in order. -/
def irregularities (transferSize : UInt16) (requests : List Request) : List Irregularity :=
  (places requests).flatMap fun p =>
    p.item.irregularities transferSize (inFlight p.before).length

/-- How often the class request `c` was made. -/
def timesMade (c : UInt8) (requests : List Request) : Nat :=
  requests.countP fun r => r.classCode = some c

/-- The codes of the class requests that were made, in order. -/
def codesMade (requests : List Request) : List UInt8 :=
  ((List.range 256).map UInt8.ofNat).filter fun c => timesMade c requests ≠ 0

theorem mem_codesMade {c : UInt8} {requests : List Request} :
    c ∈ codesMade requests ↔ timesMade c requests ≠ 0 := by
  rw [codesMade, List.mem_filter, decide_eq_true_iff, and_iff_right_iff_imp]
  intro _
  exact List.mem_map.mpr ⟨c.toNat, List.mem_range.mpr c.toNat_lt, UInt8.ofNat_toNat⟩

theorem pairwise_codesMade (requests : List Request) :
    (codesMade requests).Pairwise fun a b => compare a b = .lt := by
  apply List.Pairwise.filter
  rw [List.pairwise_map]
  apply List.pairwise_lt_range.imp_of_mem
  intro a b ha hb hlt
  apply compareOfLessAndEq_eq_lt.mpr
  rw [UInt8.lt_iff_toNat_lt, UInt8.toNat_ofNat_of_lt' (List.mem_range.mp ha),
    UInt8.toNat_ofNat_of_lt' (List.mem_range.mp hb)]
  exact hlt

/-- What an expert has to report, as a function of the requests. -/
structure ReportOf (e : DFUInterfaceExpert) (requests : List Request) : Prop where
  requestCounts : ∀ c : UInt8, e.requestCounts[c]? =
    if timesMade c requests = 0 then none else some (UInt32.ofNat (timesMade c requests))
  uploadBytes : e.uploadBytes = UInt64.ofNat (requests.flatMap Request.uploaded).length
  lastState : e.lastState = (requests.filterMap Request.state?).getLast?.getD (-1)
  lastStatus : e.lastStatus = (requests.filterMap Request.status?).getLast?.getD (-1)

/-- The lines of the details. -/
def reportLines (transferSize : UInt16) (requests : List Request) : List String :=
  ((codesMade requests).map fun c => s!"      {codeName c}: {timesMade c requests % 2 ^ 32}") ++
    (irregularities transferSize requests).map fun i => s!"      ! {i.text}"

theorem printed_reportLines (transferSize : UInt16) (requests : List Request) :
    ∀ line ∈ reportLines transferSize requests, Texts.Printed line := by
  have hindent : Texts.Printed "      " := rfl
  have hcolon : Texts.Printed ": " := rfl
  have hmark : Texts.Printed "      ! " := rfl
  intro line hline
  rcases List.mem_append.mp hline with hline | hline
  · obtain ⟨c, -, rfl⟩ := List.mem_map.mp hline
    exact ((hindent.append (printed_codeName c)).append hcolon).append (Texts.printed_repr _)
  · obtain ⟨i, -, rfl⟩ := List.mem_map.mp hline
    exact hmark.append i.printed_text

/-- The counts that `details` goes through. -/
theorem ReportOf.toList_requestCounts {e : DFUInterfaceExpert} {requests : List Request}
    (h : e.ReportOf requests) : e.requestCounts.toList =
      (codesMade requests).map fun c => (c, UInt32.ofNat (timesMade c requests)) := by
  apply Maps.toList_eq
  · exact List.pairwise_map.mpr (pairwise_codesMade requests)
  · intro c count
    rw [h.requestCounts, List.mem_map, Option.ite_none_left_eq_some]
    constructor
    · rintro ⟨c', hmade, heq⟩
      obtain ⟨rfl, rfl⟩ := Prod.mk.inj heq
      exact ⟨mem_codesMade.mp hmade, rfl⟩
    · rintro ⟨hmade, hcount⟩
      exact ⟨c, mem_codesMade.mpr hmade, Prod.ext rfl (Option.some.inj hcount)⟩

/-- The line for a code is one of the report, with its end. -/
theorem countLine_eq (request : UInt8) (count : Nat) :
    (countLine request (UInt32.ofNat count)).toList =
      s!"      {codeName request}: {count % 2 ^ 32}".toList ++ ['\n'] := by
  rw [countLine, requestName_eq, UInt32.toNat_ofNat']
  exact String.toList_append

theorem toList_details {e : DFUInterfaceExpert} {transferSize : UInt16} {requests : List Request}
    (h : e.ReportOf requests)
    (hanomalies : e.anomalies = (irregularities transferSize requests).map Irregularity.text) :
    e.details.toList =
      ((reportLines transferSize requests).map String.toList).flatMap (· ++ ['\n']) := by
  rw [details, h.toList_requestCounts, hanomalies, String.toList_append, String.toList_join,
    String.toList_join, reportLines, List.map_append, List.flatMap_append]
  simp only [List.flatMap_map, List.map_map]
  apply congrArg₂
  · apply List.flatMap_congr
    intro c _
    exact countLine_eq c (timesMade c requests)
  · apply List.flatMap_congr
    intro i _
    exact String.toList_append

theorem getLast?_filterMap_concat {β : Type} (f : Request → Option β) (requests : List Request)
    (r : Request) (start : β) :
    ((requests ++ [r]).filterMap f).getLast?.getD start =
      (f r).getD ((requests.filterMap f).getLast?.getD start) := by
  rw [filterMap_concat, List.getLast?_append, Option.getD_or]
  cases f r with
  | none => rfl
  | some b => rfl

theorem timesMade_concat (c : UInt8) (requests : List Request) (r : Request) :
    timesMade c (requests ++ [r]) =
      timesMade c requests + if r.classCode = some c then 1 else 0 := by
  rw [timesMade, List.countP_append, List.countP_singleton]
  simp only [decide_eq_true_eq]
  rfl

/-- **Step lemma.** -/
theorem ReportOf.request {e : DFUInterfaceExpert} {requests : List Request}
    (h : e.ReportOf requests) (r : Request) : (e.request r).ReportOf (requests ++ [r]) := by
  have hstep := reports_request e r
  refine ⟨?_, ?_, ?_, ?_⟩
  · intro c
    rw [hstep.requestCounts, h.requestCounts, timesMade_concat]
    by_cases hcode : r.classCode = some c
    · rw [if_pos hcode, if_pos hcode, if_neg (Nat.succ_ne_zero _), UInt32.ofNat_add]
      by_cases hfirst : timesMade c requests = 0
      · rw [if_pos hfirst, hfirst]
        rfl
      · rw [if_neg hfirst]
        rfl
    · rw [if_neg hcode, if_neg hcode, Nat.add_zero]
  · rw [hstep.uploadBytes, h.uploadBytes, List.flatMap_append, List.length_append,
      UInt64.ofNat_add, List.flatMap_singleton]
  · rw [hstep.lastState, h.lastState, getLast?_filterMap_concat]
  · rw [hstep.lastStatus, h.lastStatus, getLast?_filterMap_concat]

theorem irregularities_concat (transferSize : UInt16) (requests : List Request) (r : Request) :
    irregularities transferSize (requests ++ [r]) = irregularities transferSize requests ++
      r.irregularities transferSize (inFlight requests).length :=
  flatMap_places_concat (fun _ _ => rfl) requests r

section New

variable (configuration interface : UInt8) (transferSize : UInt16)

theorem run_concat (e : DFUInterfaceExpert) (requests : List Request) (r : Request) :
    e.run (requests ++ [r]) = (e.run requests).request r := List.foldl_concat _ _ _ _

theorem transferSize_run (requests : List Request) :
    ((new configuration interface transferSize).run requests).transferSize = transferSize := by
  induction requests using List.reverseRecOn with
  | nil => rfl
  | append_singleton requests r ih => rw [run_concat, (reports_request _ r).transferSize, ih]

/-- **Run lemma.** -/
theorem reportOf_run (requests : List Request) :
    ((new configuration interface transferSize).run requests).ReportOf requests := by
  induction requests using List.reverseRecOn with
  | nil => exact ⟨fun c => Std.ExtTreeMap.getElem?_empty, rfl, rfl, rfl⟩
  | append_singleton requests r ih =>
    rw [run_concat]
    exact ih.request r

/-- **Run lemma.** -/
theorem anomalies_run (requests : List Request) :
    ((new configuration interface transferSize).run requests).anomalies =
      (irregularities transferSize requests).map Irregularity.text := by
  induction requests using List.reverseRecOn with
  | nil => rfl
  | append_singleton requests r ih =>
    rw [run_concat, (reports_request _ r).anomalies, ih, transferSize_run,
      (downloads_run configuration interface transferSize requests).2, irregularities_concat,
      List.map_append]

end New

/-! ## Conforming sequences -/

/-- The requests follow the protocol. -/
structure Conforms (transferSize : UInt16) (requests : List Request) : Prop where
  /-- A request carries what it announces. -/
  carried : ∀ setup data, .controlOut setup data ∈ requests →
    setup.bmRequestType &&& usbTypeMask = usbTypeClass → data.length = setup.wLength.toNat
  /-- No block is larger than the transfer size, where one is known. -/
  fits : ∀ setup data, .controlOut setup data ∈ requests → IsClass setup dfuDnload →
    transferSize = 0 ∨ setup.wLength ≤ transferSize
  neverAborts : NeverAborts requests
  knownOut : ∀ setup data, .controlOut setup data ∈ requests →
    setup.bmRequestType &&& usbTypeMask = usbTypeClass →
      setup.bRequest ∈ [dfuDnload, dfuAbort, dfuDetach, dfuClrstatus]
  knownIn : ∀ setup data, .controlIn setup data ∈ requests →
    setup.bmRequestType &&& usbTypeMask = usbTypeClass →
      setup.bRequest ∈ [dfuGetstatus, dfuGetstate, dfuUpload]

theorem irregularities_controlIn (transferSize : UInt16) (pending : Nat) (setup : UsbSetup)
    (data : Bytes) :
    Request.irregularities transferSize pending (.controlIn setup data) = [] ↔
      (setup.bmRequestType &&& usbTypeMask = usbTypeClass →
        setup.bRequest ∈ [dfuGetstatus, dfuGetstate, dfuUpload]) := by
  by_cases hclass : setup.bmRequestType &&& usbTypeMask = usbTypeClass
  · simp [Request.irregularities, hclass, or_iff_not_imp_left]
  · simp [Request.irregularities, hclass]

theorem irregularities_controlOut (transferSize : UInt16) (pending : Nat) (setup : UsbSetup)
    (data : Bytes) :
    Request.irregularities transferSize pending (.controlOut setup data) = [] ↔
      (setup.bmRequestType &&& usbTypeMask = usbTypeClass →
        data.length = setup.wLength.toNat ∧
          (setup.bRequest = dfuDnload → transferSize = 0 ∨ setup.wLength ≤ transferSize) ∧
          (setup.bRequest = dfuAbort → pending = 0) ∧
          setup.bRequest ∈ [dfuDnload, dfuAbort, dfuDetach, dfuClrstatus]) := by
  have hcodes : dfuDnload ≠ dfuAbort := by decide
  by_cases hclass : setup.bmRequestType &&& usbTypeMask = usbTypeClass
  swap
  · simp [Request.irregularities, hclass]
  by_cases hdnload : setup.bRequest = dfuDnload
  · simp [Request.irregularities, hclass, hdnload, hcodes, imp_iff_not_or]
  by_cases habort : setup.bRequest = dfuAbort
  · simp [Request.irregularities, hclass, habort, hcodes.symm]
  · simp [Request.irregularities, hclass, hdnload, habort, or_iff_not_imp_left]

/-- A sequence without irregularities is one that conforms. -/
theorem irregularities_eq_nil_iff {transferSize : UInt16} {requests : List Request} :
    irregularities transferSize requests = [] ↔ Conforms transferSize requests := by
  have hplaces : irregularities transferSize requests = [] ↔
      ∀ before r after, requests = before ++ r :: after →
        r.irregularities transferSize (inFlight before).length = [] := by
    rw [irregularities, List.flatMap_eq_nil_iff]
    constructor
    · intro h before r after hrequests
      exact h ⟨before, r, after⟩ (mem_places.mpr hrequests)
    · intro h p hp
      exact h p.before p.item p.after (mem_places.mp hp)
  rw [hplaces]
  constructor
  · intro h
    have hout : ∀ setup data, Request.controlOut setup data ∈ requests →
        ∃ pending, Request.irregularities transferSize pending (.controlOut setup data) = [] := by
      intro setup data hmem
      obtain ⟨before, after, hrequests⟩ := List.append_of_mem hmem
      exact ⟨_, h before _ after hrequests⟩
    refine ⟨?_, ?_, ?_, ?_, ?_⟩
    · intro setup data hmem hclass
      obtain ⟨pending, hnone⟩ := hout setup data hmem
      exact ((irregularities_controlOut _ _ _ _).mp hnone hclass).1
    · intro setup data hmem hdnload
      obtain ⟨pending, hnone⟩ := hout setup data hmem
      exact ((irregularities_controlOut _ _ _ _).mp hnone hdnload.1).2.1 hdnload.2
    · intro before r after hrequests hends
      cases r with
      | controlIn setup data => cases hends
      | controlOut setup data =>
        have hnone := h before _ after hrequests
        have habort : IsClass setup dfuAbort := by
          rw [Request.ends] at hends
          split_ifs at hends with hdnload habort
          · cases hends
          · exact habort
        apply List.length_eq_zero_iff.mp
        exact ((irregularities_controlOut _ _ _ _).mp hnone habort.1).2.2.1 habort.2
    · intro setup data hmem hclass
      obtain ⟨pending, hnone⟩ := hout setup data hmem
      exact ((irregularities_controlOut _ _ _ _).mp hnone hclass).2.2.2
    · intro setup data hmem hclass
      obtain ⟨before, after, hrequests⟩ := List.append_of_mem hmem
      exact (irregularities_controlIn _ _ _ _).mp (h before _ after hrequests) hclass
  · intro h before r after hrequests
    have hmem : r ∈ requests := by
      rw [hrequests]
      exact List.mem_append_right _ List.mem_cons_self
    cases r with
    | controlIn setup data =>
      exact (irregularities_controlIn _ _ _ _).mpr (h.knownIn setup data hmem)
    | controlOut setup data =>
      apply (irregularities_controlOut _ _ _ _).mpr
      intro hclass
      refine ⟨h.carried setup data hmem hclass, ?_, ?_, h.knownOut setup data hmem hclass⟩
      · exact fun hdnload => h.fits setup data hmem ⟨hclass, hdnload⟩
      · intro habort
        rw [List.length_eq_zero_iff]
        exact h.neverAborts before _ after hrequests (Request.ends_of_abort ⟨hclass, habort⟩ data)

section New

variable (configuration interface : UInt8) (transferSize : UInt16)

/-- The anomalies of every sequence are its irregularities, in the order in which they came;
so there are none if and only if the sequence follows the protocol. -/
theorem anomalies_exact (requests : List Request) :
    let e := (new configuration interface transferSize).run requests
    e.anomalies = (irregularities transferSize requests).map Irregularity.text ∧
      (e.anomalies = [] ↔ Conforms transferSize requests) := by
  intro e
  have hanomalies : e.anomalies = _ := anomalies_run configuration interface transferSize requests
  refine ⟨hanomalies, ?_⟩
  rw [hanomalies, List.map_eq_nil_iff]
  exact irregularities_eq_nil_iff

/-- What an expert reports is a function of the requests, and so is every line of its details: one
for each code that was used, in the order of the codes, and one for each irregularity. -/
theorem report_run (requests : List Request) :
    let e := (new configuration interface transferSize).run requests
    e.ReportOf requests ∧
      e.details.toList.splitOn '\n' =
        (reportLines transferSize requests).map String.toList ++ [[]] := by
  intro e
  have hreport : e.ReportOf requests := reportOf_run configuration interface transferSize requests
  refine ⟨hreport, ?_⟩
  rw [toList_details hreport (anomalies_run configuration interface transferSize requests)]
  apply Texts.splitOn_lines
  intro text htext
  obtain ⟨line, hline, rfl⟩ := List.mem_map.mp htext
  exact (printed_reportLines transferSize requests line hline).not_mem_feed

end New

end DemuxUsb.DFUInterfaceExpert
