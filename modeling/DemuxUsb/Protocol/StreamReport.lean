import DemuxUsb.Protocol.Artifacts
import DemuxUsb.Protocol.StreamBytes
import DemuxUsb.Protocol.StreamInvariant
import DemuxUsb.Protocol.StreamTables
import DemuxUsb.Protocol.TransferReassembly

/-!
# What a USBMUX expert reports

The report has a line for every stream in the table, in the order of the ids. The id of a
stream holds its ports and its number among the connections between them, so this is the order
of the ports, and connections between the same ports come in the order in which they were opened.

* `summary_eq`: the summary of a message lists the fields that are there;
* `report_of_transfers`: after any transfers, every connection is reported once, with what it
  carried; the report is read line by line unless a service name holds a line feed, which is
  printed as it is.
-/

namespace DemuxUsb

open Texts

variable {π : Type}

/-! ## Messages -/

def encodingName : StreamEncoding → String
  | .unknown => "unknown"
  | .plist => "plist"
  | .raw => "raw"
  | .tls => "tls"

namespace MuxMessage

/-- The strings that the summary looks for. -/
def summaryKeys : List String :=
  ["Request", "Type", "Service", "Key", "Domain", "Error", "Result", "MessageType", "Command"]

/-- `result += field`, with a comma between fields. -/
def addField (result field : Bytes) : Bytes :=
  (if result ≠ [] then result ++ textBytes ", " else result) ++ field

/-- One round of the loop over the keys. -/
def addString [Libplist π] (message : MuxMessage π) (result : Bytes) (key : String) : Bytes :=
  let value := message.stringValue key
  if value ≠ [] then addField result (textBytes key ++ textBytes "=" ++ value) else result

/-- `"Port="` with the number behind it. -/
def portText (port : Int64) : Bytes := textBytes "Port=" ++ textBytes s!"{port.toInt}"

def summary [Libplist π] (message : MuxMessage π) : Bytes :=
  match message.plist with
  | none => textBytes "<undecodable plist>"
  | some plist =>
    if Libplist.plistGetNodeType plist ≠ .dict then textBytes "<non-dictionary plist>"
    else
      let result := summaryKeys.foldl message.addString []
      let port := message.uintValue "Port"
      let result :=
        if 0 ≤ port then addField result (portText port) else result
      if result = [] then textBytes "<dictionary>" else result

end MuxMessage

/-! ## Streams -/

namespace MuxStream

def getTransactionCount (stream : MuxStream π) : Nat := stream.messages.length

/-- The encodings of both directions, host to device first; once, if they are the same. -/
def encodingText (stream : MuxStream π) : String :=
  if stream.mOut.encoding = stream.mIn.encoding then encodingName stream.mOut.encoding
  else encodingName stream.mOut.encoding ++ "/" ++ encodingName stream.mIn.encoding

/-- `" [name]"`, if there is a name. -/
def serviceText (stream : MuxStream π) : Bytes :=
  if stream.serviceName = [] then [] else textBytes " [" ++ stream.serviceName ++ textBytes "]"

/-- The line of `toString` for a stream. -/
def line (id : UInt64) (stream : MuxStream π) : Bytes :=
  textBytes s!"\t-\t{hexText 0 id.toNat}\t: {stream.host.toNat} -> {stream.device.toNat}" ++
    stream.serviceText ++
    textBytes s!" ({stream.getTransactionCount} transactions, in {stream.getBytesIn.toNat} bytes, out {stream.getBytesOut.toNat} bytes, {stream.encodingText})\n"

/-- The lines of `details` for a stream. -/
def messageLines [Libplist π] (id : UInt64) (stream : MuxStream π) : Bytes :=
  if stream.messages.isEmpty then []
  else
    textBytes s!"      stream {hexText 0 id.toNat} ({stream.host.toNat} -> {stream.device.toNat}):\n" ++
      stream.messages.flatMap fun message =>
        textBytes "        " ++ textBytes (if message.outbound then "> " else "< ") ++
          message.summary ++ textBytes "\n"

end MuxStream

namespace USBMUXInterfaceExpert

def getProtocolVersion (e : USBMUXInterfaceExpert π) : UInt32 := e.version

def getResyncCount (e : USBMUXInterfaceExpert π) : UInt64 := e.resyncs

/-- What the loops over the streams add up. A null stream is undefined in the source; here it
adds nothing. -/
def forStreams (e : USBMUXInterfaceExpert π) (f : UInt64 → MuxStream π → Bytes) : Bytes :=
  e.table.streams.toList.flatMap fun entry => (entry.2.map (f entry.1)).getD []

def headerText (e : USBMUXInterfaceExpert π) : String :=
  s!"USBMUXInterfaceExpert (configuration={e.configuration.toNat}, interface={e.interface.toNat}, version={e.version.toNat}):\n"

def toString (e : USBMUXInterfaceExpert π) : Bytes :=
  textBytes e.headerText ++ e.forStreams MuxStream.line

def details [Libplist π] (e : USBMUXInterfaceExpert π) : Bytes :=
  e.forStreams MuxStream.messageLines

end USBMUXInterfaceExpert

/-! ## Fields of a message -/

theorem toInt_toInt64 (v : UInt64) : v.toInt64.toInt =
    if v.toNat < 2 ^ 63 then (v.toNat : Int) else v.toNat - 2 ^ 64 := by
  have hint : v.toInt64.toInt =
      if 2 * v.toNat < 2 ^ 64 then (v.toNat : Int) else v.toNat - 2 ^ 64 :=
    BitVec.toInt_eq_toNat_cond _
  rw [hint]
  split <;> split <;> omega

theorem zero_le_toInt64_iff (v : UInt64) : 0 ≤ v.toInt64 ↔ v.toNat < 2 ^ 63 := by
  have hv := v.toNat_lt
  have hzero : (0 : Int64).toInt = 0 := rfl
  rw [Int64.le_iff_toInt_le, toInt_toInt64, hzero]
  split <;> omega

theorem intercalate_concat {A : Type} (sep : List A) {xs : List (List A)} (h : xs ≠ [])
    (y : List A) : sep.intercalate (xs ++ [y]) = sep.intercalate xs ++ sep ++ y := by
  induction xs with
  | nil => exact absurd rfl h
  | cons x xs ih =>
    cases xs with
    | nil => simp
    | cons x' xs =>
      rw [List.cons_append, List.cons_append, List.intercalate_cons_cons, ← List.cons_append,
        ih (List.cons_ne_nil _ _), List.intercalate_cons_cons]
      simp only [List.append_assoc]

namespace MuxMessage

theorem intercalate_ne_nil {fields : List Bytes} (h : ∀ field ∈ fields, field ≠ [])
    (hne : fields ≠ []) : (textBytes ", ").intercalate fields ≠ [] := by
  cases fields with
  | nil => exact absurd rfl hne
  | cons first fields =>
    have hfirst : first ≠ [] := h first List.mem_cons_self
    cases fields with
    | nil => simpa using hfirst
    | cons second fields =>
      rw [List.intercalate_cons_cons]
      simp [hfirst]

/-- The text so far is empty exactly before the first field. -/
theorem addField_intercalate {fields : List Bytes} (h : ∀ field ∈ fields, field ≠ [])
    (field : Bytes) : addField ((textBytes ", ").intercalate fields) field =
      (textBytes ", ").intercalate (fields ++ [field]) := by
  unfold addField
  cases fields with
  | nil => simp
  | cons first fields =>
    rw [if_pos (intercalate_ne_nil h (List.cons_ne_nil _ _)),
      intercalate_concat _ (List.cons_ne_nil _ _)]

variable [Libplist π]

/-- The string under a key of a dictionary. -/
def stringAt (plist : π) (key : String) : Option Bytes :=
  ((Libplist.plistDictGetItem plist key).filter fun item =>
    Libplist.plistGetNodeType item = .string).bind Libplist.plistGetStringPtr

/-- The number under a key of a dictionary. -/
def numberAt (plist : π) (key : String) : Option Nat :=
  ((Libplist.plistDictGetItem plist key).filter fun item =>
    Libplist.plistGetNodeType item = .uint).map fun item => (Libplist.plistGetUintVal item).toNat

/-- How a string is shown; an empty one is not. -/
def stringField (plist : π) (key : String) : Option Bytes :=
  ((stringAt plist key).filter fun value => value ≠ []).map fun value =>
    textBytes s!"{key}=" ++ value

/-- How the port is shown; a number that does not fit into 63 bits is not. -/
def portField (plist : π) : Option Bytes :=
  ((numberAt plist "Port").filter fun port => port < 2 ^ 63).map fun port =>
    textBytes s!"Port={port}"

/-- The fields of a dictionary that are shown. -/
def shownFields (plist : π) : List Bytes :=
  ["Request", "Type", "Service", "Key", "Domain", "Error", "Result", "MessageType",
    "Command"].filterMap (stringField plist) ++ (portField plist).toList

/-- What is shown of a message. -/
def shown (message : MuxMessage π) : Bytes :=
  match message.plist with
  | none => textBytes "<undecodable plist>"
  | some plist =>
    if Libplist.plistGetNodeType plist ≠ .dict then textBytes "<non-dictionary plist>"
    else if shownFields plist = [] then textBytes "<dictionary>"
    else (textBytes ", ").intercalate (shownFields plist)

theorem stringField_ne_nil {plist : π} {key : String} {field : Bytes}
    (h : stringField plist key = some field) : field ≠ [] := by
  obtain ⟨value, hvalue, rfl⟩ := Option.map_eq_some_iff.mp h
  have hne := (Option.filter_eq_some_iff.mp hvalue).2
  rw [decide_eq_true_iff] at hne
  exact List.append_ne_nil_of_right_ne_nil _ hne

theorem portField_ne_nil {plist : π} {field : Bytes} (h : portField plist = some field) :
    field ≠ [] := by
  have hstart : textBytes "Port=" ≠ [] := by decide
  obtain ⟨port, -, rfl⟩ := Option.map_eq_some_iff.mp h
  exact (textBytes_append "Port=" port.repr).symm ▸ List.append_ne_nil_of_left_ne_nil hstart _

theorem shownFields_ne_nil {plist : π} : ∀ field ∈ shownFields plist, field ≠ [] := by
  intro field hfield
  rcases List.mem_append.mp hfield with hfield | hfield
  · obtain ⟨key, -, hkey⟩ := List.mem_filterMap.mp hfield
    exact stringField_ne_nil hkey
  · exact portField_ne_nil (Option.mem_toList.mp hfield)

section Dictionary

variable {message : MuxMessage π} {plist : π} (hplist : message.plist = some plist)
  (hdict : Libplist.plistGetNodeType plist = .dict)

include hplist hdict

theorem stringValue_eq (key : String) :
    message.stringValue key = (stringAt plist key).getD [] := by
  unfold stringValue stringAt
  rw [hplist]
  dsimp only
  rw [if_neg (not_not.mpr hdict)]
  cases Libplist.plistDictGetItem plist key with
  | none => rfl
  | some item =>
    by_cases hstring : Libplist.plistGetNodeType item = .string
    · simp [hstring, Option.filter]
    · simp [hstring, Option.filter]

theorem addString_eq (result : Bytes) (key : String) :
    message.addString result key = (stringField plist key).elim result (addField result) := by
  unfold addString stringField
  rw [stringValue_eq hplist hdict]
  cases stringAt plist key with
  | none => rfl
  | some value =>
    by_cases hvalue : value = []
    · simp [hvalue, Option.filter]
    · simp [hvalue, Option.filter, textBytes_append]
      rfl

/-- The loop over the keys. -/
theorem foldl_addString (keys : List String) {fields : List Bytes}
    (h : ∀ field ∈ fields, field ≠ []) :
    keys.foldl message.addString ((textBytes ", ").intercalate fields) =
      (textBytes ", ").intercalate (fields ++ keys.filterMap (stringField plist)) := by
  induction keys generalizing fields with
  | nil => simp
  | cons key keys ih =>
    rw [List.foldl_cons, addString_eq hplist hdict, List.filterMap_cons]
    cases hfield : stringField plist key with
    | none => exact ih h
    | some field =>
      rw [Option.elim_some, addField_intercalate h, ih]
      · rw [List.append_assoc, List.singleton_append]
      · intro field' hfield'
        rcases List.mem_append.mp hfield' with hfield' | hfield'
        · exact h field' hfield'
        · rw [List.mem_singleton.mp hfield']
          exact stringField_ne_nil hfield

theorem uintValue_eq (key : String) :
    message.uintValue key = -1 ∧ numberAt plist key = none ∨
      ∃ v : UInt64, message.uintValue key = v.toInt64 ∧ numberAt plist key = some v.toNat := by
  unfold uintValue numberAt
  rw [hplist]
  dsimp only
  rw [if_neg (not_not.mpr hdict)]
  cases Libplist.plistDictGetItem plist key with
  | none => exact Or.inl ⟨rfl, rfl⟩
  | some item =>
    by_cases huint : Libplist.plistGetNodeType item = .uint
    · right
      refine ⟨Libplist.plistGetUintVal item, ?_, ?_⟩
      · exact if_neg (not_not.mpr huint)
      · simp [huint, Option.filter]
    · left
      refine ⟨if_pos huint, ?_⟩
      simp [huint, Option.filter]

theorem addPort_eq (result : Bytes) :
    (if 0 ≤ message.uintValue "Port" then
      addField result (portText (message.uintValue "Port")) else result) =
        (portField plist).elim result (addField result) := by
  unfold portField
  rcases uintValue_eq hplist hdict "Port" with ⟨hvalue, hnumber⟩ | ⟨v, hvalue, hnumber⟩
  · have hnegative : ¬ 0 ≤ (-1 : Int64) := by decide
    rw [hvalue, hnumber, if_neg hnegative]
    rfl
  rw [hvalue, hnumber]
  by_cases hfits : v.toNat < 2 ^ 63
  · have htext : portText v.toInt64 = textBytes s!"Port={v.toNat}" := by
      rw [portText, toInt_toInt64, if_pos hfits, ← textBytes_append]
      rfl
    have hkept : (some v.toNat).filter (fun port => port < 2 ^ 63) = some v.toNat :=
      if_pos (decide_eq_true hfits)
    rw [if_pos ((zero_le_toInt64_iff v).mpr hfits), htext, hkept]
    rfl
  · have hdropped : (some v.toNat).filter (fun port => port < 2 ^ 63) = none :=
      if_neg fun h => hfits (of_decide_eq_true h)
    rw [if_neg fun h => hfits ((zero_le_toInt64_iff v).mp h), hdropped]
    rfl

theorem summary_dict :
    message.summary = if shownFields plist = [] then textBytes "<dictionary>"
      else (textBytes ", ").intercalate (shownFields plist) := by
  have hfields : shownFields plist =
      summaryKeys.filterMap (stringField plist) ++ (portField plist).toList := rfl
  have hstrings : summaryKeys.foldl message.addString [] =
      (textBytes ", ").intercalate (summaryKeys.filterMap (stringField plist)) :=
    @foldl_addString π _ message plist hplist hdict summaryKeys [] fun _ h =>
      absurd h List.not_mem_nil
  have hjoined : (portField plist).elim (summaryKeys.foldl message.addString [])
      (addField (summaryKeys.foldl message.addString [])) =
        (textBytes ", ").intercalate (shownFields plist) := by
    have hne : ∀ field ∈ summaryKeys.filterMap (stringField plist), field ≠ [] := by
      intro field hfield
      exact shownFields_ne_nil field (List.mem_append_left _ hfield)
    rw [hstrings, hfields]
    cases portField plist with
    | none => rw [Option.elim_none, Option.toList_none, List.append_nil]
    | some field => exact addField_intercalate hne field
  have hempty : (textBytes ", ").intercalate (shownFields plist) = [] ↔
      shownFields plist = [] := by
    constructor
    · intro hnil
      by_contra hne
      exact intercalate_ne_nil shownFields_ne_nil hne hnil
    · intro hnil
      rw [hnil]
      rfl
  unfold summary
  rw [hplist]
  dsimp only
  rw [if_neg (not_not.mpr hdict), addPort_eq hplist hdict, hjoined]
  simp only [hempty]

end Dictionary

/-- The summary of a message lists the fields of a dictionary. -/
theorem summary_eq (message : MuxMessage π) : message.summary = message.shown := by
  unfold shown
  cases hplist : message.plist with
  | none =>
    unfold summary
    rw [hplist]
  | some plist =>
    dsimp only
    by_cases hdict : Libplist.plistGetNodeType plist = .dict
    · rw [if_neg (not_not.mpr hdict), summary_dict hplist hdict]
    · unfold summary
      rw [hplist, if_pos hdict]
      exact if_pos hdict

end MuxMessage

/-! ## Connections -/

/-- A connection between two ports: its number among those between them, and its segments. -/
structure Connection where
  host : UInt16
  device : UInt16
  number : Nat
  segments : List Segment

namespace Connection

def IsOf (c : Connection) (segments : List Segment) : Prop :=
  (streamsOf c.host c.device segments)[c.number]? = some c.segments

def id (c : Connection) : UInt64 := streamId c.host c.device (UInt32.ofNat (c.number + 1))

/-- The number that the report prints for the id. -/
def label (c : Connection) : Nat :=
  (c.host.toNat * 2 ^ 16 + c.device.toNat) * 2 ^ 32 + (c.number + 1)

/-- The host port counts most, and the number least. -/
def Before (a b : Connection) : Prop :=
  a.host < b.host ∨ a.host = b.host ∧ (a.device < b.device ∨ a.device = b.device ∧ a.number < b.number)

/-- The data that went one way. -/
def data (c : Connection) (outbound : Bool) : Bytes :=
  (c.segments.filter fun s => s.outbound == outbound).flatMap Segment.data

variable {segments : List Segment} {a b : Connection}

theorem IsOf.lt (h : a.IsOf segments) : a.number < (streamsOf a.host a.device segments).length :=
  (List.getElem?_eq_some_iff.mp h).1

theorem toNat_id (h : a.IsOf segments) (hnum : StreamTable.Numbered segments) :
    a.id.toNat = a.label := by
  have hhost := a.host.toNat_lt
  have hdevice := a.device.toNat_lt
  have hport : (streamPort a.host a.device).toNat = a.host.toNat * 2 ^ 16 + a.device.toNat := by
    have hpacked := toNat_shiftLeft_or32 (a := a.host.toUInt32) (b := a.device.toUInt32) (k := 16)
      (by omega) (by rw [UInt16.toNat_toUInt32]; omega) (by rw [UInt16.toNat_toUInt32]; omega)
    rw [UInt16.toNat_toUInt32, UInt16.toNat_toUInt32] at hpacked
    exact hpacked
  have hindex := StreamTable.toNat_index hnum h.lt
  have hindexlt := (UInt32.ofNat (a.number + 1)).toNat_lt
  have hpacked := toNat_shiftLeft_or64 (a := (streamPort a.host a.device).toUInt64)
    (b := (UInt32.ofNat (a.number + 1)).toUInt64) (k := 32)
    (by omega) (by rw [UInt32.toNat_toUInt64]; omega) (by rw [UInt32.toNat_toUInt64]; omega)
  rw [UInt32.toNat_toUInt64, UInt32.toNat_toUInt64, hport, hindex] at hpacked
  exact hpacked

theorem id_inj (ha : a.IsOf segments) (hb : b.IsOf segments)
    (hnum : StreamTable.Numbered segments) (h : a.id = b.id) : a = b := by
  obtain ⟨hhost, hdevice, hindex⟩ := streamId_inj h
  have hnumber : a.number = b.number := by
    have htoNat := congrArg UInt32.toNat hindex
    rw [StreamTable.toNat_index hnum ha.lt, StreamTable.toNat_index hnum hb.lt] at htoNat
    exact Nat.succ.inj htoNat
  have hsegments : a.segments = b.segments := by
    unfold IsOf at ha hb
    rw [hhost, hdevice, hnumber, hb] at ha
    exact (Option.some.inj ha).symm
  cases a
  cases b
  simp_all

theorem before_of_id (ha : a.IsOf segments) (hb : b.IsOf segments)
    (hnum : StreamTable.Numbered segments) (h : compare a.id b.id = .lt) : a.Before b := by
  have hlt : a.id < b.id := Std.compare_eq_lt.mp h
  have hidlt := ha.lt
  have hidlt' := hb.lt
  have hnuma := hnum a.host a.device
  have hnumb := hnum b.host b.device
  have hhost := a.host.toNat_lt
  have hdevice := a.device.toNat_lt
  have hhost' := b.host.toNat_lt
  have hdevice' := b.device.toNat_lt
  rw [UInt64.lt_iff_toNat_lt, toNat_id ha hnum, toNat_id hb hnum] at hlt
  unfold label at hlt
  unfold Before
  rw [UInt16.lt_iff_toNat_lt, UInt16.lt_iff_toNat_lt, ← UInt16.toNat_inj, ← UInt16.toNat_inj]
  omega

variable [Libplist π]

/-- The stream of a connection, under a name. -/
def stream (c : Connection) (name : Bytes) : MuxStream π :=
  MuxStream.ofSegments c.host c.device name c.segments

theorem bytes_stream (c : Connection) (name : Bytes) (outbound : Bool) :
    ((c.stream name : MuxStream π).direction outbound).bytes = UInt64.ofNat (c.data outbound).length := by
  have hview := MuxStream.view_fresh (π := π) c.host c.device outbound
    (c.segments.map fun s => (s.outbound, s.data))
  have hdirection : (c.stream name : MuxStream π).direction outbound =
      ((MuxStream.fresh c.host c.device : MuxStream π).run
        (c.segments.map fun s => (s.outbound, s.data))).direction outbound := by
    cases outbound with
    | true => rfl
    | false => rfl
  rw [hdirection, (Prod.mk.inj hview).1, MuxStream.bytes_foldl, List.filter_map, List.flatMap_map]
  exact UInt64.zero_add _

/-- The name that a table has for a stream. -/
def nameIn (c : Connection) (t : StreamTable π) : Bytes :=
  (t.streams[c.id]?.join.map MuxStream.serviceName).getD []

/-- The stream that a table holds for a connection. -/
def streamIn (c : Connection) (t : StreamTable π) : MuxStream π := c.stream (c.nameIn t)

theorem held_streamIn {t : StreamTable π} (h : t.Demultiplexed segments) (ha : a.IsOf segments) :
    t.streams[a.id]? = some (some (a.streamIn t)) := by
  obtain ⟨name, hheld⟩ := h.held a.host a.device a.number a.segments ha
  have hname : a.nameIn t = name := by
    unfold nameIn
    rw [id, hheld]
    rfl
  unfold streamIn
  rw [hname]
  exact hheld

/-- A direction decodes the data that went its way, as if they had come at once. -/
theorem fed_stream (c : Connection) (name : Bytes) {outbound : Bool}
    (hover : ¬ MuxStream.SignatureOverrun (c.data outbound)) :
    MuxStream.Fed (c.stream name : MuxStream π) outbound (c.data outbound) := by
  have hbytes : [] ++ MuxStream.bytesOf outbound (c.segments.map fun s => (s.outbound, s.data)) =
      c.data outbound := by
    rw [List.nil_append, MuxStream.bytesOf, List.filter_map, List.flatMap_map]
    rfl
  have hfed := (MuxStream.fed_fresh (π := π) c.host c.device outbound).run
    (c.segments.map fun s => (s.outbound, s.data)) (by rwa [hbytes])
  rw [hbytes] at hfed
  refine ⟨?_, hfed.messages, ?_⟩
  · cases outbound with
    | true => exact hfed.direction
    | false => exact hfed.direction
  · cases outbound with
    | true => exact hfed.other
    | false => exact hfed.other

/-! ## Entries of the report -/

def encodingWord (encoding : StreamEncoding) : String :=
  if encoding = .plist then "plist"
  else if encoding = .tls then "tls"
  else if encoding = .raw then "raw"
  else "unknown"

/-- The encodings of the two directions. -/
def encodingWords (outbound inbound : StreamEncoding) : String :=
  if outbound = inbound then encodingWord outbound
  else s!"{encodingWord outbound}/{encodingWord inbound}"

/-- What the report prints for a connection, up to the end of the line. -/
def entry (c : Connection) (stream : MuxStream π) : Bytes :=
  textBytes s!"\t-\t{hexText 0 c.label}\t: {c.host.toNat} -> {c.device.toNat}" ++
    (if stream.serviceName = [] then []
      else textBytes " [" ++ stream.serviceName ++ textBytes "]") ++
    textBytes s!" ({stream.messages.length} transactions, in {(c.data false).length % 2 ^ 64} bytes, out {(c.data true).length % 2 ^ 64} bytes, {encodingWords stream.mOut.encoding stream.mIn.encoding})"

/-- What the details print for a connection. -/
def messageEntry (c : Connection) (stream : MuxStream π) : Bytes :=
  if stream.messages = [] then []
  else
    textBytes s!"      stream {hexText 0 c.label} ({c.host.toNat} -> {c.device.toNat}):" ++ [0x0A] ++
      stream.messages.flatMap fun message =>
        textBytes (if message.outbound then "        > " else "        < ") ++ message.shown ++ [0x0A]

omit [Libplist π] in
theorem encodingText_eq (stream : MuxStream π) :
    stream.encodingText = encodingWords stream.mOut.encoding stream.mIn.encoding := by
  have hword : ∀ encoding, encodingName encoding = encodingWord encoding := by
    intro encoding
    cases encoding <;> rfl
  unfold MuxStream.encodingText encodingWords
  rw [hword, hword]
  rfl

/-- The end of a line is its last byte. -/
theorem textBytes_feed (text : String) {a b : String} (h : b = a ++ "\n") :
    textBytes (text ++ b) = textBytes (text ++ a) ++ [0x0A] := by
  rw [h, ← String.append_assoc, textBytes_append]
  rfl

theorem ports_stream (c : Connection) (name : Bytes) :
    (c.stream name : MuxStream π).host = c.host ∧ (c.stream name : MuxStream π).device = c.device :=
  MuxStream.run_keeps _ _

theorem line_eq (c : Connection) (name : Bytes) (hid : c.id.toNat = c.label) :
    (c.stream name : MuxStream π).line c.id = c.entry (c.stream name : MuxStream π) ++ [0x0A] := by
  obtain ⟨hhost, hdevice⟩ := c.ports_stream (π := π) name
  have hin : (c.stream name : MuxStream π).getBytesIn.toNat = (c.data false).length % 2 ^ 64 := by
    rw [show (c.stream name : MuxStream π).getBytesIn = _ from c.bytes_stream name false,
      UInt64.toNat_ofNat']
  have hout : (c.stream name : MuxStream π).getBytesOut.toNat = (c.data true).length % 2 ^ 64 := by
    rw [show (c.stream name : MuxStream π).getBytesOut = _ from c.bytes_stream name true,
      UInt64.toNat_ofNat']
  unfold MuxStream.line entry
  rw [hid, hhost, hdevice, hin, hout, encodingText_eq, List.append_assoc _ _ [0x0A]]
  have hclose : ")\n" = ")" ++ "\n" := rfl
  exact congrArg₂ _ rfl (textBytes_feed _ hclose)

theorem messageLines_eq (c : Connection) (name : Bytes) (hid : c.id.toNat = c.label) :
    (c.stream name : MuxStream π).messageLines c.id = c.messageEntry (c.stream name : MuxStream π) := by
  obtain ⟨hhost, hdevice⟩ := c.ports_stream (π := π) name
  unfold MuxStream.messageLines messageEntry
  rw [hid, hhost, hdevice]
  by_cases hempty : (c.stream name : MuxStream π).messages = []
  · rw [if_pos (List.isEmpty_iff.mpr hempty), if_pos hempty]
  have hclose : "):\n" = "):" ++ "\n" := rfl
  have hmessage : ∀ message : MuxMessage π,
      textBytes "        " ++ textBytes (if message.outbound then "> " else "< ") ++
          message.summary ++ textBytes "\n" =
        textBytes (if message.outbound then "        > " else "        < ") ++
          message.shown ++ [0x0A] := by
    intro message
    rw [message.summary_eq, ← textBytes_append]
    cases message.outbound <;> rfl
  rw [if_neg fun h => hempty (List.isEmpty_iff.mp h), if_neg hempty, funext hmessage]
  exact congrArg₂ _ (textBytes_feed _ hclose) rfl

omit [Libplist π] in
theorem printed_encodingWords (outbound inbound : StreamEncoding) :
    Printed (encodingWords outbound inbound) := by
  cases outbound <;> cases inbound <;> rfl

omit [Libplist π] in
/-- Next to the name nothing in an entry ends a line. -/
theorem feed_not_mem_entry (c : Connection) {stream : MuxStream π}
    (hname : 0x0A ∉ stream.serviceName) : 0x0A ∉ c.entry stream := by
  have hnumber : ∀ n : Nat, 0x0A ∉ textBytes n.repr := fun n => not_mem_textBytes (printed_repr n)
  have hlabel : 0x0A ∉ textBytes (hexText 0 c.label) := not_mem_textBytes (printed_hexText 0 _)
  have hservice : 0x0A ∉ (if stream.serviceName = [] then []
      else textBytes " [" ++ stream.serviceName ++ textBytes "]") := by
    have hopen : 0x0A ∉ textBytes " [" := by decide
    have hclose : 0x0A ∉ textBytes "]" := by decide
    split
    · exact List.not_mem_nil
    · simp only [List.mem_append, not_or]
      exact ⟨⟨hopen, hname⟩, hclose⟩
  have hports : 0x0A ∉
      textBytes s!"\t-\t{hexText 0 c.label}\t: {c.host.toNat} -> {c.device.toNat}" := by
    have hdash : 0x0A ∉ textBytes "\t-\t" := by decide
    have hcolon : 0x0A ∉ textBytes "\t: " := by decide
    have harrow : 0x0A ∉ textBytes " -> " := by decide
    simp only [textBytes_append, List.mem_append, not_or]
    exact ⟨⟨⟨⟨⟨hdash, hlabel⟩, hcolon⟩, hnumber _⟩, harrow⟩, hnumber _⟩
  have hnumbers : Printed s!" ({stream.messages.length} transactions, in {(c.data false).length % 2 ^ 64} bytes, out {(c.data true).length % 2 ^ 64} bytes, {encodingWords stream.mOut.encoding stream.mIn.encoding})" := by
    have hstart : Printed " (" := rfl
    have hin : Printed " transactions, in " := rfl
    have hout : Printed " bytes, out " := rfl
    have hbytes : Printed " bytes, " := rfl
    have hclose : Printed ")" := rfl
    exact (((((((hstart.append (printed_repr _)).append hin).append (printed_repr _)).append
      hout).append (printed_repr _)).append hbytes).append (printed_encodingWords _ _)).append hclose
  simp only [entry, List.mem_append, not_or]
  exact ⟨⟨hports, hservice⟩, not_mem_textBytes hnumbers⟩

end Connection

namespace USBMUXInterfaceExpert

variable [LibplistXml π]

/-! ## The report -/

/-- The transcript that is extracted of a connection. -/
def transcript? (c : Connection) (stream : MuxStream π) :
    Option ExtractedArtifact :=
  if stream.messages = [] then none
  else
    some ⟨s!"usbmux-{hexText 16 c.label}-{c.host.toNat}-{c.device.toNat}.plist.txt",
      stream.messages.flatMap fun message =>
        textBytes (if message.outbound then "<!-- host -> device -->\n"
          else "<!-- device -> host -->\n") ++ message.xml⟩

/-- The first line of the report. -/
def headerLine (e : USBMUXInterfaceExpert π) : String :=
  s!"USBMUXInterfaceExpert (configuration={e.configuration.toNat}, interface={e.interface.toNat}, version={e.version.toNat}):"

omit [LibplistXml π] in
theorem printed_headerLine (e : USBMUXInterfaceExpert π) : Printed e.headerLine := by
  have hstart : Printed "USBMUXInterfaceExpert (configuration=" := rfl
  have hinterface : Printed ", interface=" := rfl
  have hversion : Printed ", version=" := rfl
  have hclose : Printed "):" := rfl
  exact (((((hstart.append (printed_repr _)).append hinterface).append (printed_repr _)).append
    hversion).append (printed_repr _)).append hclose

theorem artifact_eq (c : Connection) (name : Bytes) (hid : c.id.toNat = c.label) :
    artifact (c.id, some (c.stream name : MuxStream π)) =
      transcript? c (c.stream name : MuxStream π) := by
  obtain ⟨hhost, hdevice⟩ := c.ports_stream (π := π) name
  unfold artifact transcript?
  dsimp only
  rw [hid, hhost, hdevice]
  by_cases hempty : (c.stream name : MuxStream π).messages = []
  · rw [if_pos (List.isEmpty_iff.mpr hempty), if_pos hempty]
  · rw [if_neg fun h => hempty (List.isEmpty_iff.mp h), if_neg hempty]
    rfl

/-- The report of an expert that holds the connections of some segments. -/
structure Lists (e : USBMUXInterfaceExpert π) (segments : List Segment)
    (connections : List Connection) : Prop where
  ordered : connections.Pairwise Connection.Before
  complete : ∀ c, c ∈ connections ↔ c.IsOf segments
  held : ∀ c ∈ connections, e.table.streams[c.id]? = some (some (c.streamIn e.table))
  /-- The encoding of a direction and its messages are those of its data. -/
  decoded : ∀ c ∈ connections, ∀ outbound, ¬ MuxStream.SignatureOverrun (c.data outbound) →
    MuxStream.Fed (c.streamIn e.table) outbound (c.data outbound)
  text : e.toString = (textBytes e.headerLine :: connections.map fun c =>
    c.entry (c.streamIn e.table)).flatMap (· ++ [0x0A])
  lines : (∀ c ∈ connections, 0x0A ∉ c.nameIn e.table) →
    e.toString.splitOn 0x0A =
      (textBytes e.headerLine :: connections.map fun c => c.entry (c.streamIn e.table)) ++ [[]]
  details : e.details = connections.flatMap fun c => c.messageEntry (c.streamIn e.table)
  artifacts : e.getArtifacts = connections.filterMap fun c => transcript? c (c.streamIn e.table)

/-- The text is made of lines. -/
theorem toString_eq {e : USBMUXInterfaceExpert π} {connections : List Connection}
    (hlist : e.table.streams.toList = connections.map fun c => (c.id, some (c.streamIn e.table)))
    (hlabel : ∀ c ∈ connections, c.id.toNat = c.label) :
    e.toString = (textBytes e.headerLine :: connections.map fun c =>
      c.entry (c.streamIn e.table)).flatMap (· ++ [0x0A]) := by
  have hheader : textBytes e.headerText = textBytes e.headerLine ++ [0x0A] := by
    have hclose : "):\n" = "):" ++ "\n" := rfl
    exact Connection.textBytes_feed _ hclose
  rw [toString, forStreams, hlist, List.flatMap_map, hheader, List.flatMap_cons, List.flatMap_map]
  apply congrArg₂ _ rfl
  apply List.flatMap_congr
  intro c hc
  exact c.line_eq _ (hlabel c hc)

/-- **Spec lemma** of the report: one entry for each connection. -/
theorem lists_of_demultiplexed {e : USBMUXInterfaceExpert π} {segments : List Segment}
    (h : e.table.Demultiplexed segments) (hnum : StreamTable.Numbered segments) :
    ∃ connections, e.Lists segments connections := by
  obtain ⟨connections, hlist, hcomplete, hordered⟩ := Maps.exists_toList_eq_map
    (fun a b ha hb hid => Connection.id_inj ha hb hnum hid)
    (fun a ha => Connection.held_streamIn h ha)
    (fun k hk => by
      obtain ⟨host, device, i, hi, rfl⟩ := h.only k hk
      exact ⟨⟨host, device, i, _⟩, List.getElem?_eq_getElem hi, rfl⟩)
  have hlabel : ∀ c ∈ connections, c.id.toNat = c.label := by
    intro c hc
    exact Connection.toNat_id ((hcomplete c).mp hc) hnum
  have htext := toString_eq hlist hlabel
  refine ⟨connections, ?_, hcomplete, ?_, ?_, htext, ?_, ?_, ?_⟩
  · apply hordered.imp_of_mem
    intro a b ha hb hid
    exact Connection.before_of_id ((hcomplete a).mp ha) ((hcomplete b).mp hb) hnum hid
  · intro c hc
    exact Connection.held_streamIn h ((hcomplete c).mp hc)
  · intro c _ outbound hover
    exact c.fed_stream _ hover
  · intro hnames
    rw [htext]
    apply splitOn_lines
    intro line hline
    rcases List.mem_cons.mp hline with rfl | hline
    · exact not_mem_textBytes e.printed_headerLine
    · obtain ⟨c, hc, rfl⟩ := List.mem_map.mp hline
      exact c.feed_not_mem_entry (hnames c hc)
  · rw [details, forStreams, hlist, List.flatMap_map]
    apply List.flatMap_congr
    intro c hc
    exact c.messageLines_eq _ (hlabel c hc)
  · rw [getArtifacts, hlist, List.filterMap_map]
    apply List.filterMap_congr
    intro c hc
    exact artifact_eq c _ (hlabel c hc)

/-- **The report.** Whatever bytes arrive on the two sides of a new expert, in whatever transfers,
its report has one entry for every connection in the packets that became whole, in the order of
the ports and of opening, with the bytes that went each way. -/
theorem report_of_transfers (configuration interface : UInt8) (transfers : List (Bool × Bytes))
    (hnum : StreamTable.Numbered ((Link.run transfers).packets.filterMap segmentOf)) :
    ∃ connections,
      (afterTransfers configuration interface transfers : USBMUXInterfaceExpert π).Lists
        ((Link.run transfers).packets.filterMap segmentOf) connections := by
  apply lists_of_demultiplexed _ hnum
  rw [(carries_transfers configuration interface transfers).table]
  exact @demultiplexed_tableAfter π _ {} [] StreamTable.demultiplexed_empty _ hnum

/-- One byte of a connection older than the capture, in a packet that comes in two transfers. -/
theorem report_of_transfers_example :
    ∃ connections, (afterTransfers 1 1 [(false, [0, 0, 0, 6]), (false, [0, 0, 0, 29, 0xF2, 0x7E,
        0xC0, 0, 0, 0, 0, 0, 0, 0, 0, 0, 0x50, 0x10, 2, 0, 0, 0, 0, 0, 1])] :
          USBMUXInterfaceExpert Empty).Lists
      [⟨false, 49152, 62078, false, false, [1]⟩] connections := by
  have hsegments : (Link.run [(false, [0, 0, 0, 6]), (false, [0, 0, 0, 29, 0xF2, 0x7E,
      0xC0, 0, 0, 0, 0, 0, 0, 0, 0, 0, 0x50, 0x10, 2, 0, 0, 0, 0, 0, 1])]).packets.filterMap segmentOf =
      [⟨false, 49152, 62078, false, false, [1]⟩] := by decide +kernel
  rw [← hsegments]
  apply report_of_transfers
  rw [hsegments]
  exact StreamTable.numbered_of_length (by decide)

end USBMUXInterfaceExpert

end DemuxUsb
