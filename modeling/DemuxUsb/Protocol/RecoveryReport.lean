import DemuxUsb.Protocol.Artifacts
import DemuxUsb.Protocol.RecoveryHistory
import DemuxUsb.Usb.ExpertIdentity

/-!
# What a recovery expert reports

The texts of commands and responses come from the other end of the cable, so `details`
escapes the control characters of ASCII before it puts a text on a line of its own.

* `details_lines`: read line by line, the details are a line for each decoded payload, with its
  text escaped or its size, and nothing else can end a line;
* `summary_adds_up`: the numbers in the summary, as functions of the transfers.
-/

namespace DemuxUsb

open Texts

namespace RecoveryInterfaceExpert

open Places

/-! ## The report -/

/-- One character of `printable`. -/
def printableChar (c : UInt8) : Bytes :=
  if c = 0x0A then textBytes "\\n"
  else if c < 0x20 ∨ c = 0x7F then textBytes s!"\\x{hexText 2 c.toNat}"
  else [c]

def printable (value : Bytes) : Bytes := value.flatMap printableChar

/-- The line of `details` for a payload. -/
def line (payload : RecoveryPayload) : Bytes :=
  match payload.kind with
  | .command => textBytes "      > " ++ printable payload.text
  | .response => textBytes "      < " ++ printable payload.text
  | .upload => textBytes s!"      ^ upload of {payload.data.length} bytes"

def details (e : RecoveryInterfaceExpert) : Bytes :=
  e.payloads.flatMap fun payload => line payload ++ [0x0A]

def getCommands (e : RecoveryInterfaceExpert) : List Bytes :=
  (e.payloads.filter (·.kind = .command)).map (·.text)

/-- The sum is taken in 64 bits. -/
def uploadTotal (e : RecoveryInterfaceExpert) : UInt64 :=
  (e.payloads.filter (·.kind = .upload)).foldl
    (fun bytes payload => bytes + UInt64.ofNat payload.data.length) 0

def commandCount (e : RecoveryInterfaceExpert) : Nat := e.payloads.countP (·.kind = .command)

def uploadCount (e : RecoveryInterfaceExpert) : Nat := e.payloads.countP (·.kind = .upload)

def toString (e : RecoveryInterfaceExpert) : String :=
  s!"RecoveryInterfaceExpert (config={e.configuration.toNat}, int={e.interface.toNat}) - {e.commandCount} commands, {e.uploadCount} uploads ({e.uploadTotal.toNat} bytes), {e.console.length} console bytes; {e.controlPackets.toNat} control packets ({e.controlBytes.toNat} bytes) and {e.packets.toNat} bulk packets ({e.bytes.toNat} bytes)"

/-! ## Lines -/

/-- No control character of ASCII. -/
def Printable (b : UInt8) : Prop := 0x20 ≤ b ∧ b ≠ 0x7F

instance (b : UInt8) : Decidable (Printable b) := inferInstanceAs (Decidable (_ ∧ _))

/-- A hexadecimal digit, in lower case. -/
def hexDigit (d : UInt8) : UInt8 := if d < 10 then 0x30 + d else 0x57 + d

/-- A byte of a text as it is shown: a line feed as `\n`, another control character as `\x` with
two digits, and any other byte as itself. -/
def shownByte (b : UInt8) : Bytes :=
  if b = 0x0A then [0x5C, 0x6E]
  else if Printable b then [b]
  else [0x5C, 0x78, hexDigit (b / 16), hexDigit (b % 16)]

/-- The line on which a payload is shown. -/
def shownLine (payload : RecoveryPayload) : Bytes :=
  match payload.kind with
  | .command => textBytes "      > " ++ payload.text.flatMap shownByte
  | .response => textBytes "      < " ++ payload.text.flatMap shownByte
  | .upload => textBytes s!"      ^ upload of {payload.data.length} bytes"

theorem printableChar_eq (c : UInt8) : printableChar c = shownByte c := by
  have hall : ∀ i : Fin 256, printableChar (UInt8.ofNat i) = shownByte (UInt8.ofNat i) := by
    decide +kernel
  have hc := hall ⟨c.toNat, c.toNat_lt⟩
  rwa [UInt8.ofNat_toNat] at hc

theorem line_eq (payload : RecoveryPayload) : line payload = shownLine payload := by
  have hshown : printable = List.flatMap shownByte := by
    funext value
    rw [printable, funext printableChar_eq]
  unfold line shownLine
  rw [hshown]

theorem printable_shownByte (c : UInt8) : ∀ b ∈ shownByte c, Printable b := by
  have hall : ∀ i : Fin 256, ∀ b ∈ shownByte (UInt8.ofNat i), Printable b := by decide +kernel
  have hc := hall ⟨c.toNat, c.toNat_lt⟩
  rwa [UInt8.ofNat_toNat] at hc

theorem printable_textBytes {text : String} (h : Printed text) :
    ∀ b ∈ textBytes text, Printable b := by
  intro b hb
  obtain ⟨hlow, hhigh⟩ := bounds_of_mem_textBytes h hb
  refine ⟨UInt8.le_iff_toNat_le.mpr hlow, ?_⟩
  rw [Ne, ← UInt8.toNat_inj]
  exact Nat.ne_of_lt hhigh

/-- Whatever a text contains, its line does not end before the text does. -/
theorem printable_shownLine (payload : RecoveryPayload) :
    ∀ b ∈ shownLine payload, Printable b := by
  have htext : ∀ start : String, Printed start →
      ∀ b ∈ textBytes start ++ payload.text.flatMap shownByte, Printable b := by
    intro start hstart b hb
    rcases List.mem_append.mp hb with hb | hb
    · exact printable_textBytes hstart b hb
    · obtain ⟨c, -, hb⟩ := List.mem_flatMap.mp hb
      exact printable_shownByte c b hb
  unfold shownLine
  split
  · exact htext _ rfl
  · exact htext _ rfl
  · have hstart : Printed "      ^ upload of " := rfl
    have hend : Printed " bytes" := rfl
    exact printable_textBytes ((hstart.append (printed_repr _)).append hend)

/-! ## Numbers -/

namespace Transfer

/-- The command that a transfer is: a text up to the first NUL, or to the end of the data. -/
def command? : Transfer → Option Bytes
  | controlOut setup data =>
    if setup.bmRequestType = 0x40 ∧ 0 < data.length then some (data.takeWhile (· != 0)) else none
  | _ => none

end Transfer

/-- There are data in front of the first announcement. -/
def startsUnannounced (transfers : List Transfer) : Bool :=
  (transfers.takeWhile fun t => !t.announces).any fun t => decide (t.uploaded ≠ [])

theorem commands_payloadAt (opened : Bool) (t : Transfer) (ts : List Transfer) :
    (((payloadAt opened ⟨[], t, ts⟩).toList.filter (·.kind = .command)).map (·.text)) =
      t.command?.toList := by
  cases t with
  | bulkIn data => rfl
  | bulkOut data =>
    by_cases hupload : data ≠ [] ∧ opened = false
    · simp [payloadAt, Transfer.command?, hupload]
    · simp [payloadAt, Transfer.command?, hupload]
  | controlIn setup data =>
    by_cases hresponse : setup.bmRequestType = 0xC0 ∧ 0 < data.length
    · simp [payloadAt, Transfer.command?, hresponse]
    · simp [payloadAt, Transfer.command?, hresponse]
  | controlOut setup data =>
    by_cases hcommand : setup.bmRequestType = 0x40 ∧ 0 < data.length
    · simp [payloadAt, Transfer.command?, hcommand]
    · by_cases hupload : setup.bmRequestType = 0x41 ∧ setup.bRequest = 0
      · simp [payloadAt, Transfer.command?, hupload]
      · simp [payloadAt, Transfer.command?, hcommand, hupload]

theorem uploads_payloadAt (opened : Bool) (t : Transfer) (ts : List Transfer) :
    (payloadAt opened ⟨[], t, ts⟩).toList.countP (·.kind = .upload) =
      if t.announces ∨ opened = false ∧ t.uploaded ≠ [] then 1 else 0 := by
  cases t with
  | bulkIn data => simp [payloadAt, Transfer.announces, Transfer.uploaded]
  | bulkOut data =>
    by_cases hupload : data ≠ [] ∧ opened = false
    · simp [payloadAt, Transfer.announces, Transfer.uploaded, hupload]
    · have hswap : ¬ (opened = false ∧ data ≠ []) := fun h => hupload h.symm
      simp [payloadAt, Transfer.announces, Transfer.uploaded, hupload, hswap]
  | controlIn setup data =>
    by_cases hresponse : setup.bmRequestType = 0xC0 ∧ 0 < data.length
    · simp [payloadAt, Transfer.announces, Transfer.uploaded, hresponse]
    · simp [payloadAt, Transfer.announces, Transfer.uploaded, hresponse]
  | controlOut setup data =>
    by_cases hcommand : setup.bmRequestType = 0x40 ∧ 0 < data.length
    · simp [payloadAt, Transfer.announces, Transfer.uploaded, hcommand]
    · by_cases hupload : setup.bmRequestType = 0x41 ∧ setup.bRequest = 0
      · simp [payloadAt, Transfer.announces, hupload]
      · simp [payloadAt, Transfer.announces, Transfer.uploaded, hcommand, hupload]

theorem commands_places (opened : Bool) (transfers : List Transfer) :
    (((places transfers).filterMap (payloadAt opened)).filter (·.kind = .command)).map (·.text) =
      transfers.filterMap Transfer.command? := by
  induction transfers generalizing opened with
  | nil => rfl
  | cons t ts ih =>
    rw [filterMap_places_cons (payloadAt_shift opened t), List.filter_append, List.map_append, ih,
      commands_payloadAt, List.filterMap_cons]
    cases t.command? with
    | none => rfl
    | some text => rfl

theorem startsUnannounced_cons (t : Transfer) (ts : List Transfer) :
    startsUnannounced (t :: ts) =
      (!t.announces && (decide (t.uploaded ≠ []) || startsUnannounced ts)) := by
  rw [startsUnannounced, List.takeWhile_cons]
  cases t.announces with
  | true => rfl
  | false => rfl

/-- Every announcement starts an upload, and so do data in front of the first one. -/
theorem uploads_places (opened : Bool) (transfers : List Transfer) :
    ((places transfers).filterMap (payloadAt opened)).countP (·.kind = .upload) =
      transfers.countP Transfer.announces +
        if opened = false ∧ startsUnannounced transfers then 1 else 0 := by
  induction transfers generalizing opened with
  | nil => cases opened <;> rfl
  | cons t ts ih =>
    rw [filterMap_places_cons (payloadAt_shift opened t), List.countP_append, uploads_payloadAt, ih,
      List.countP_cons, startsUnannounced_cons]
    by_cases hannounces : t.announces = true
    · simp [hannounces, Transfer.startsUpload, Nat.add_comm]
    · by_cases huploaded : t.uploaded = []
      · simp [hannounces, huploaded, Transfer.startsUpload]
      · cases opened with
        | false => simp [hannounces, huploaded, Transfer.startsUpload, Nat.add_comm]
        | true => simp [hannounces, huploaded, Transfer.startsUpload]

theorem uploadTotal_eq (e : RecoveryInterfaceExpert) :
    e.uploadTotal = UInt64.ofNat (uploadBytes e.payloads).length := by
  have hfold : ∀ (payloads : List RecoveryPayload) (n : Nat),
      payloads.foldl (fun bytes payload => bytes + UInt64.ofNat payload.data.length)
          (UInt64.ofNat n) =
        UInt64.ofNat (n + (payloads.flatMap (·.data)).length) := by
    intro payloads
    induction payloads with
    | nil => exact fun n => rfl
    | cons payload payloads ih =>
      intro n
      rw [List.foldl_cons, ← UInt64.ofNat_add, ih, List.flatMap_cons, List.length_append,
        Nat.add_assoc]
  have h := hfold (e.payloads.filter (·.kind = .upload)) 0
  rw [Nat.zero_add] at h
  exact h

/-- Both bulk directions are counted. -/
theorem bytes_transfer (e : RecoveryInterfaceExpert) (t : Transfer) :
    (e.transfer t).bytes = e.bytes + UInt64.ofNat (t.uploaded.length + t.printed.length) := by
  cases t with
  | controlOut setup data =>
    rw [transfer, e.processControlOut_base setup data]
    exact (UInt64.add_zero _).symm
  | controlIn setup data =>
    rw [transfer, e.processControlIn_base setup data]
    exact (UInt64.add_zero _).symm
  | bulkOut data =>
    rw [transfer, e.processBulkOut_base data]
    rfl
  | bulkIn data =>
    rw [show (Transfer.bulkIn data).uploaded.length + (Transfer.bulkIn data).printed.length =
      data.length from Nat.zero_add _]
    rfl

section New

variable (configuration interface : UInt8)

theorem bytes_run (transfers : List Transfer) :
    ((new configuration interface).run transfers).bytes =
      UInt64.ofNat ((transfers.flatMap Transfer.uploaded).length +
        (transfers.flatMap Transfer.printed).length) := by
  induction transfers using List.reverseRecOn with
  | nil => rfl
  | append_singleton transfers t ih =>
    have hrun : (new configuration interface).run (transfers ++ [t]) =
        ((new configuration interface).run transfers).transfer t := List.foldl_concat _ _ _ _
    rw [hrun, bytes_transfer, ih, ← UInt64.ofNat_add, List.flatMap_append, List.flatMap_append,
      List.flatMap_singleton, List.flatMap_singleton, List.length_append, List.length_append]
    congr 1
    omega

/-- Read line by line, the details of every sequence of transfers are the lines of the payloads
that the transfers create, in order, whatever the texts are; and next to the line ends there is
no control character of ASCII in them. -/
theorem details_lines (transfers : List Transfer) :
    let e := (new configuration interface).run transfers
    e.details.splitOn 0x0A =
        ((places transfers).filterMap (payloadAt false)).map shownLine ++ [[]] ∧
      ∀ b ∈ e.details, b = 0x0A ∨ Printable b := by
  intro e
  have hpayloads : e.payloads = (places transfers).filterMap (payloadAt false) := by
    rw [(decodes_run (opened_new configuration interface) transfers).1]
    exact List.nil_append _
  have hdetails : e.details =
      (((places transfers).filterMap (payloadAt false)).map shownLine).flatMap (· ++ [0x0A]) := by
    rw [details, hpayloads, List.flatMap_map, funext line_eq]
  rw [hdetails]
  constructor
  · apply splitOn_lines
    intro text htext hfeed
    obtain ⟨payload, -, rfl⟩ := List.mem_map.mp htext
    exact absurd (printable_shownLine payload _ hfeed) (by decide)
  · intro b hb
    obtain ⟨text, htext, hb⟩ := List.mem_flatMap.mp hb
    obtain ⟨payload, -, rfl⟩ := List.mem_map.mp htext
    rcases List.mem_append.mp hb with hb | hb
    · exact Or.inr (printable_shownLine payload b hb)
    · exact Or.inl (List.mem_singleton.mp hb)

/-- The numbers of the summary, for every sequence of transfers: the commands are those that
were sent, in order; each announcement is an upload, and the data in front of the first one are
one more; and the bulk bytes are those of the uploads and of the console. -/
theorem summary_adds_up (transfers : List Transfer) :
    let e := (new configuration interface).run transfers
    e.getCommands = transfers.filterMap Transfer.command? ∧
      e.commandCount = e.getCommands.length ∧
      e.uploadCount = transfers.countP Transfer.announces +
        (if startsUnannounced transfers then 1 else 0) ∧
      e.bytes = e.uploadTotal + UInt64.ofNat e.console.length := by
  intro e
  obtain ⟨hpayloads, hconsole, -⟩ := decodes_run (opened_new configuration interface) transfers
  have hall : e.payloads = (places transfers).filterMap (payloadAt false) := by
    rw [hpayloads]
    exact List.nil_append _
  refine ⟨?_, ?_, ?_, ?_⟩
  · rw [getCommands, hall, commands_places]
  · rw [commandCount, getCommands, List.length_map, List.countP_eq_length_filter]
  · rw [uploadCount, hall, uploads_places]
    simp
  · have huploads := uploadBytes_places false transfers
    rw [if_neg Bool.false_ne_true, List.nil_append, ← hall] at huploads
    rw [uploadTotal_eq, huploads, show e.console = _ from hconsole, ← UInt64.ofNat_add]
    exact bytes_run configuration interface transfers

end New

end RecoveryInterfaceExpert

end DemuxUsb
