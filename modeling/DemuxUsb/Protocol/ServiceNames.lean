import Mathlib.Data.List.Induction
import DemuxUsb.Protocol.StreamDemux

/-!
# Service names

lockdownd tells the host which service listens on which device port; a stream is named by
what was said about its port last before it was opened. `decodedLog` lists the messages
that a run decodes, in order, each with the device port of its stream, and `serviceOf` reads
a name off such a list.

* `streams_named_by_replies`: in every run of TCP packets every stream has the name that
  `serviceOf` gives for the messages decoded before the stream was opened, and keeps it.
-/

namespace DemuxUsb

variable {π : Type} [Libplist π]

/-! ## Replies -/

/-- A decoded integer is a given port. -/
theorem toInt64_eq_port_iff (v : UInt64) (port : UInt16) :
    (0 < v.toInt64 ∧ v.toInt64 ≤ 65535 ∧ v.toInt64.toUInt64.toUInt16 = port) ↔
      v.toNat = port.toNat ∧ port ≠ 0 := by
  have hv := v.toNat_lt
  have hp := port.toNat_lt
  have hint : v.toInt64.toInt =
      if 2 * v.toNat < 2 ^ 64 then (v.toNat : Int) else v.toNat - 2 ^ 64 :=
    BitVec.toInt_eq_toNat_cond _
  have hzero : (0 : Int64).toInt = 0 := rfl
  have hmax : (65535 : Int64).toInt = 65535 := rfl
  have hport : port ≠ 0 ↔ port.toNat ≠ 0 := by
    rw [ne_eq, ← UInt16.toNat_inj]
    rfl
  rw [Int64.lt_iff_toInt_lt, Int64.le_iff_toInt_le, UInt64.toUInt64_toInt64, hport,
    ← UInt16.toNat_inj, UInt64.toNat_toUInt16, hint, hzero, hmax]
  split <;> omega

namespace MuxMessage

open Libplist

/-- The service that a dictionary gives for a port: a non-empty string `Service` next to an
unsigned `Port` of that value. -/
def announces (message : MuxMessage π) (port : UInt16) : Option Bytes :=
  match message.plist with
  | none => none
  | some plist =>
    if plistGetNodeType plist = .dict then
      match plistDictGetItem plist "Service", plistDictGetItem plist "Port" with
      | some service, some number =>
        if plistGetNodeType service = .string ∧ plistGetNodeType number = .uint ∧
            (plistGetUintVal number).toNat = port.toNat ∧ port ≠ 0 then
          (plistGetStringPtr service).filter (· ≠ [])
        else none
      | _, _ => none
    else none

/-- `learnServices` looks at the same fields through `stringValue` and `uintValue`. -/
theorem announces_eq (message : MuxMessage π) (port : UInt16) :
    message.announces port =
      if message.stringValue "Service" ≠ [] ∧ 0 < message.uintValue "Port" ∧
          message.uintValue "Port" ≤ 65535 ∧
          (message.uintValue "Port").toUInt64.toUInt16 = port then
        some (message.stringValue "Service")
      else none := by
  have hnegative : ¬ 0 < (-1 : Int64) := by decide
  cases hplist : message.plist with
  | none => simp [announces, stringValue, hplist]
  | some plist =>
    by_cases hdict : plistGetNodeType plist = .dict
    · cases hservice : plistDictGetItem plist "Service" with
      | none => simp [announces, stringValue, hplist, hdict, hservice]
      | some service =>
        cases hport : plistDictGetItem plist "Port" with
        | none =>
          have hvalue : message.uintValue "Port" = -1 := by
            simp [uintValue, hplist, hdict, hport]
          simp [announces, hvalue, hnegative, hplist, hdict, hservice, hport]
        | some number =>
          by_cases hstring : plistGetNodeType service = .string
          · by_cases huint : plistGetNodeType number = .uint
            · have hname : message.stringValue "Service" =
                  (plistGetStringPtr service).getD [] := by
                simp [stringValue, hplist, hdict, hservice, hstring]
              have hvalue : message.uintValue "Port" = (plistGetUintVal number).toInt64 := by
                simp [uintValue, hplist, hdict, hport, huint]
              have hannounces : message.announces port =
                  if (plistGetUintVal number).toNat = port.toNat ∧ port ≠ 0 then
                    (plistGetStringPtr service).filter (· ≠ [])
                  else none := by
                simp [announces, hplist, hdict, hservice, hport, hstring, huint]
              rw [hannounces, hname, hvalue]
              simp only [toInt64_eq_port_iff]
              cases plistGetStringPtr service with
              | none => simp
              | some name =>
                by_cases hempty : name = []
                · simp [hempty]
                · simp [hempty, Option.filter]
            · have hvalue : message.uintValue "Port" = -1 := by
                simp [uintValue, hplist, hdict, hport, huint]
              simp [announces, hvalue, hnegative, hplist, hdict, hservice, hport, huint]
          · simp [announces, stringValue, hplist, hdict, hservice, hport, hstring]
    · simp [announces, stringValue, hplist, hdict]

end MuxMessage

/-! ## The messages of a run -/

/-- What lockdownd says about a port in a message on a stream to a device port. -/
def replyFor (port : UInt16) (decoded : UInt16 × MuxMessage π) : Option Bytes :=
  if decoded.1 = lockdownPort ∧ decoded.2.outbound = false then decoded.2.announces port
  else none

/-- The last thing said about a port. -/
def lastReply (log : List (UInt16 × MuxMessage π)) (port : UInt16) : Option Bytes :=
  log.reverse.findSome? (replyFor port)

/-- The name of a stream to a device port that is opened after the messages in `log`. -/
def serviceOf (log : List (UInt16 × MuxMessage π)) (device : UInt16) : Bytes :=
  if device = lockdownPort then lockdownServiceName else (lastReply log device).getD []

theorem lastReply_append (log more : List (UInt16 × MuxMessage π)) (port : UInt16) :
    lastReply (log ++ more) port = (lastReply more port).or (lastReply log port) := by
  unfold lastReply
  rw [List.reverse_append, List.findSome?_append]

theorem lastReply_singleton (decoded : UInt16 × MuxMessage π) (port : UInt16) :
    lastReply [decoded] port = replyFor port decoded := List.findSome?_singleton

/-- Only lockdownd is listened to. -/
theorem lastReply_of_ne {device : UInt16} (h : device ≠ lockdownPort)
    (messages : List (MuxMessage π)) (port : UInt16) :
    lastReply (messages.map (device, ·)) port = none := by
  rw [lastReply, List.findSome?_eq_none_iff]
  intro decoded hdecoded
  obtain ⟨message, -, rfl⟩ := List.mem_map.mp (List.mem_reverse.mp hdecoded)
  exact if_neg fun hreply => h hreply.1

namespace MuxStream

theorem deliver_keeps (stream : MuxStream π) (s : Segment) :
    (stream.deliver s).host = stream.host ∧ (stream.deliver s).device = stream.device ∧
      (stream.deliver s).serviceName = stream.serviceName := by
  have hpass := pass_keeps stream s.outbound s.data
  unfold deliver
  split
  · exact hpass
  · exact hpass

end MuxStream

namespace StreamTable

/-- The messages a packet completes, with the device port of their stream. -/
def decodes (t : StreamTable π) (p : Bool × Bytes) : List (UInt16 × MuxMessage π) :=
  if p.2.length < 20 then []
  else
    let s := Segment.parse p.1 p.2
    match (t.find s).1.streams[(t.find s).2]?.join with
    | none => []
    | some stream =>
      ((stream.pass s.outbound s.data).messages.drop stream.messages.length).map
        (stream.device, ·)

/-- The segment opens a stream. -/
def Opens (t : StreamTable π) (s : Segment) : Prop :=
  s.opens = true ∨ t.streamIndex[streamPort s.host s.device]? = none

instance (t : StreamTable π) (s : Segment) : Decidable (t.Opens s) :=
  inferInstanceAs (Decidable (_ ∨ _))

/-- The id of the stream that a packet opens. -/
def opened (t : StreamTable π) (p : Bool × Bytes) : Option UInt64 :=
  if p.2.length < 20 then none
  else if t.Opens (Segment.parse p.1 p.2) then some (t.find (Segment.parse p.1 p.2)).2
  else none

/-! ## Learning -/

theorem serviceNames_learnService (t : StreamTable π) (message : MuxMessage π) (port : UInt16) :
    (t.learnService message).serviceNames[port]? =
      (replyFor port (lockdownPort, message)).or t.serviceNames[port]? := by
  cases houtbound : message.outbound with
  | true =>
    have hreply : replyFor port (lockdownPort, message) = none :=
      if_neg fun h => Bool.noConfusion (houtbound.symm.trans h.2)
    rw [learnService, if_pos houtbound, hreply, Option.none_or]
  | false =>
    have hreply : replyFor port (lockdownPort, message) = message.announces port :=
      if_pos ⟨rfl, houtbound⟩
    rw [learnService, if_neg (houtbound ▸ Bool.false_ne_true), hreply, message.announces_eq]
    dsimp only
    by_cases hvalid : message.stringValue "Service" ≠ [] ∧ 0 < message.uintValue "Port" ∧
        message.uintValue "Port" ≤ 65535
    · rw [if_pos hvalid]
      by_cases hport : (message.uintValue "Port").toUInt64.toUInt16 = port
      · rw [if_pos ⟨hvalid.1, hvalid.2.1, hvalid.2.2, hport⟩, ← hport,
          Std.ExtTreeMap.getElem?_insert_self, Option.some_or]
      · rw [if_neg fun h => hport h.2.2.2, Maps.getElem?_insert_ne (Ne.symm hport), Option.none_or]
    · rw [if_neg hvalid, if_neg fun h => hvalid ⟨h.1, h.2.1, h.2.2.1⟩, Option.none_or]

theorem serviceNames_learnServices (t : StreamTable π) (stream : MuxStream π) (firstNew : Nat)
    (port : UInt16) : (t.learnServices stream firstNew).serviceNames[port]? =
      (lastReply ((stream.messages.drop firstNew).map (stream.device, ·)) port).or
        t.serviceNames[port]? := by
  unfold learnServices
  by_cases hdevice : stream.device = lockdownPort
  · rw [if_neg (not_not.mpr hdevice), hdevice]
    generalize stream.messages.drop firstNew = messages
    induction messages generalizing t with
    | nil => rfl
    | cons message messages ih =>
      rw [List.foldl_cons, ih, serviceNames_learnService, List.map_cons, ← List.singleton_append,
        lastReply_append, lastReply_singleton, Option.or_assoc]
  · rw [if_pos hdevice, lastReply_of_ne hdevice, Option.none_or]

/-! ## The invariant -/

/-- Every port pair that is known has a stream, and what was learned is what the messages
say. -/
structure Learned (t : StreamTable π) (log : List (UInt16 × MuxMessage π)) : Prop where
  found : ∀ (host device : UInt16) (index : UInt32),
    t.streamIndex[streamPort host device]? = some index →
      ∃ stream, t.streams[streamId host device index]? = some (some stream) ∧
        stream.device = device
  names : ∀ port : UInt16, t.serviceNames[port]? = lastReply log port

theorem learned_empty : ({} : StreamTable π).Learned [] := by
  refine ⟨?_, ?_⟩
  · intro host device index h
    rw [Std.ExtTreeMap.getElem?_empty] at h
    cases h
  · intro port
    exact Std.ExtTreeMap.getElem?_empty

section Step

variable {t : StreamTable π} {log : List (UInt16 × MuxMessage π)}

theorem Learned.serviceNameFor (h : t.Learned log) (device : UInt16) :
    t.serviceNameFor device = serviceOf log device := by
  unfold StreamTable.serviceNameFor serviceOf
  rw [h.names]

/-- **Spec lemma** of the search: a stream is opened under the name its port has by then,
or an old one is found. -/
theorem Learned.find (h : t.Learned log) (s : Segment) :
    ∃ stream, (t.find s).1.streams[(t.find s).2]? = some (some stream) ∧
      stream.device = s.device ∧ (t.find s).1.serviceNames = t.serviceNames ∧
      ((t.Opens s ∧ stream.serviceName = serviceOf log s.device ∧
          ∃ index, (t.find s).2 = streamId s.host s.device index ∧
            (t.find s).1.streamIndex = t.streamIndex.insert (streamPort s.host s.device) index ∧
            ∀ id, id ≠ (t.find s).2 → (t.find s).1.streams[id]? = t.streams[id]?) ∨
        (¬ t.Opens s ∧ (t.find s).1 = t)) := by
  by_cases hnew : t.Opens s
  · rw [find_of_new hnew]
    refine ⟨_, Std.ExtTreeMap.getElem?_insert_self, rfl, rfl,
      Or.inl ⟨hnew, h.serviceNameFor s.device, _, rfl, rfl, ?_⟩⟩
    intro id hid
    exact Maps.getElem?_insert_ne hid _
  · obtain ⟨hopens, hindex⟩ := not_or.mp hnew
    obtain ⟨index, hindex⟩ := Option.ne_none_iff_exists'.mp hindex
    obtain ⟨stream, hstream, hdevice⟩ := h.found s.host s.device index hindex
    rw [find_of_known hopens hindex]
    exact ⟨stream, hstream, hdevice, rfl, Or.inr ⟨hnew, rfl⟩⟩

theorem processTCP_of_short (t : StreamTable π) {outbound : Bool} {payload : Bytes}
    (h : payload.length < 20) : t.processTCP outbound payload = t := by
  unfold processTCP
  rw [readStruct_of_lt h]

/-- A port pair is known after a segment that was known before, or that the segment opened;
its stream is there. -/
theorem Learned.found_processTCP (h : t.Learned log) {outbound : Bool} {payload : Bytes}
    (hheader : 20 ≤ payload.length) (host device : UInt16) (index : UInt32)
    (hindex : (t.processTCP outbound payload).streamIndex[streamPort host device]? = some index) :
    ∃ stream, (t.processTCP outbound payload).streams[streamId host device index]? =
        some (some stream) ∧ stream.device = device := by
  obtain ⟨stream, hstream, hdevice, -, hnew⟩ := h.find (Segment.parse outbound payload)
  obtain ⟨hstreams, hkept⟩ := t.processTCP_streams hheader hstream
  rw [hkept] at hindex
  rw [hstreams]
  generalize Segment.parse outbound payload = s at *
  obtain ⟨-, hkeeps, -⟩ := stream.deliver_keeps s
  rcases hnew with ⟨-, -, index', hid, hinsert, hother⟩ | ⟨-, hsame⟩
  · rw [hinsert] at hindex
    by_cases hpair : s.host = host ∧ s.device = device
    · obtain ⟨rfl, rfl⟩ := hpair
      rw [Std.ExtTreeMap.getElem?_insert_self] at hindex
      rw [← Option.some.inj hindex, ← hid, Std.ExtTreeMap.getElem?_insert_self]
      exact ⟨_, rfl, hkeeps.trans hdevice⟩
    · have hne : streamId host device index ≠ (t.find s).2 := by
        rw [hid]
        intro heq
        obtain ⟨rfl, rfl, -⟩ := streamId_inj heq
        exact hpair ⟨rfl, rfl⟩
      have hport : streamPort host device ≠ streamPort s.host s.device := by
        intro heq
        obtain ⟨rfl, rfl⟩ := streamPort_inj heq
        exact hpair ⟨rfl, rfl⟩
      rw [Maps.getElem?_insert_ne hport] at hindex
      rw [Maps.getElem?_insert_ne hne, hother _ hne]
      exact h.found host device index hindex
  · rw [hsame] at hindex hstream ⊢
    obtain ⟨old, hold, holdevice⟩ := h.found host device index hindex
    by_cases hid : streamId host device index = (t.find s).2
    · rw [hid, hstream] at hold
      rw [hid, Std.ExtTreeMap.getElem?_insert_self]
      obtain rfl := Option.some.inj (Option.some.inj hold)
      exact ⟨_, rfl, hkeeps.trans holdevice⟩
    · rw [Maps.getElem?_insert_ne hid]
      exact ⟨old, hold, holdevice⟩

/-- **Step lemma.** -/
theorem Learned.processTCP (h : t.Learned log) (p : Bool × Bytes) :
    (t.processTCP p.1 p.2).Learned (log ++ t.decodes p) := by
  by_cases hshort : p.2.length < 20
  · rw [processTCP_of_short t hshort, decodes, if_pos hshort, List.append_nil]
    exact h
  have hheader := Nat.not_lt.mp hshort
  refine ⟨h.found_processTCP hheader, ?_⟩
  intro port
  obtain ⟨stream, hstream, -, hnames, -⟩ := h.find (Segment.parse p.1 p.2)
  have hdecodes : t.decodes p = ((stream.pass (Segment.parse p.1 p.2).outbound
      (Segment.parse p.1 p.2).data).messages.drop stream.messages.length).map
        (stream.device, ·) := by
    rw [decodes, if_neg hshort]
    dsimp only
    rw [hstream]
    rfl
  rw [t.processTCP_eq hheader hstream, hdecodes]
  generalize Segment.parse p.1 p.2 = s at *
  obtain ⟨-, hpass, -⟩ := MuxStream.pass_keeps stream s.outbound s.data
  dsimp only
  rw [serviceNames_learnServices, lastReply_append, hpass, hnames, h.names]

/-- **Step lemma.** A stream is new and has the name of its port, or it was there under the
name it has. -/
theorem Learned.streams_processTCP (h : t.Learned log) (p : Bool × Bytes) {id : UInt64}
    {stream : MuxStream π}
    (hstream : (t.processTCP p.1 p.2).streams[id]? = some (some stream)) :
    (t.opened p = some id ∧ stream.serviceName = serviceOf log stream.device) ∨
      (t.opened p ≠ some id ∧ ∃ old, t.streams[id]? = some (some old) ∧
        stream.device = old.device ∧ stream.serviceName = old.serviceName) := by
  by_cases hshort : p.2.length < 20
  · rw [processTCP_of_short t hshort] at hstream
    rw [opened, if_pos hshort]
    exact Or.inr ⟨(Option.some_ne_none id).symm, stream, hstream, rfl, rfl⟩
  obtain ⟨found, hfound, hdevice, -, hnew⟩ := h.find (Segment.parse p.1 p.2)
  rw [(t.processTCP_streams (Nat.not_lt.mp hshort) hfound).1] at hstream
  rw [opened, if_neg hshort]
  generalize Segment.parse p.1 p.2 = s at *
  obtain ⟨-, hkeeps, hname⟩ := found.deliver_keeps s
  rcases hnew with ⟨hopens, hservice, -, -, -, hother⟩ | ⟨hopens, hsame⟩
  · rw [if_pos hopens]
    by_cases hid : id = (t.find s).2
    · rw [hid, Std.ExtTreeMap.getElem?_insert_self] at hstream
      obtain rfl := Option.some.inj (Option.some.inj hstream)
      refine Or.inl ⟨by rw [hid], ?_⟩
      rw [hname, hkeeps, hservice, hdevice]
    · rw [Maps.getElem?_insert_ne hid, hother id hid] at hstream
      exact Or.inr ⟨fun heq => hid (Option.some.inj heq).symm, stream, hstream, rfl, rfl⟩
  · rw [if_neg hopens]
    refine Or.inr ⟨(Option.some_ne_none id).symm, ?_⟩
    rw [hsame] at hstream hfound
    by_cases hid : id = (t.find s).2
    · rw [hid, Std.ExtTreeMap.getElem?_insert_self] at hstream
      obtain rfl := Option.some.inj (Option.some.inj hstream)
      rw [hid]
      exact ⟨found, hfound, hkeeps, hname⟩
    · rw [Maps.getElem?_insert_ne hid] at hstream
      exact ⟨stream, hstream, rfl, rfl⟩

end Step

/-! ## Runs -/

/-- A run of TCP packets. -/
def run (t : StreamTable π) (packets : List (Bool × Bytes)) : StreamTable π :=
  packets.foldl (fun t p => t.processTCP p.1 p.2) t

/-- The messages that a run decodes, each with the device port of its stream. -/
def decodedLog (t : StreamTable π) : List (Bool × Bytes) → List (UInt16 × MuxMessage π)
  | [] => []
  | p :: packets => t.decodes p ++ (t.processTCP p.1 p.2).decodedLog packets

theorem run_snoc (t : StreamTable π) (packets : List (Bool × Bytes)) (p : Bool × Bytes) :
    t.run (packets ++ [p]) = (t.run packets).processTCP p.1 p.2 := by
  rw [run, List.foldl_append]
  rfl

/-- **Run lemma.** -/
theorem Learned.run {t : StreamTable π} {log : List (UInt16 × MuxMessage π)}
    (h : t.Learned log) (packets : List (Bool × Bytes)) :
    (t.run packets).Learned (log ++ t.decodedLog packets) := by
  induction packets generalizing t log with
  | nil => simpa [decodedLog, StreamTable.run] using h
  | cons p packets ih =>
    rw [decodedLog, ← List.append_assoc]
    exact ih (h.processTCP p)

/-- The stream `id` was opened by `p`, the first packet after `before`; it was not opened
again and has had one name ever since. -/
structure NamedSince (t : StreamTable π) (before : List (Bool × Bytes)) (p : Bool × Bytes)
    (after : List (Bool × Bytes)) (id : UInt64) (device : UInt16) (name : Bytes) : Prop where
  opened : (t.run before).opened p = some id
  last : ∀ later q, later ++ [q] <+: after →
    (t.run (before ++ p :: later)).opened q ≠ some id
  keeps : ∀ later, later <+: after → ∃ stream : MuxStream π,
    (t.run (before ++ p :: later)).streams[id]? = some (some stream) ∧
      stream.device = device ∧ stream.serviceName = name

/-- **Run lemma.** -/
theorem exists_namedSince (packets : List (Bool × Bytes)) {id : UInt64} {stream : MuxStream π}
    (hstream : (({} : StreamTable π).run packets).streams[id]? = some (some stream)) :
    ∃ before p after, packets = before ++ p :: after ∧
      ({} : StreamTable π).NamedSince before p after id stream.device stream.serviceName ∧
      stream.serviceName = serviceOf (({} : StreamTable π).decodedLog before) stream.device := by
  induction packets using List.reverseRecOn generalizing stream with
  | nil =>
    rw [run, List.foldl_nil, Std.ExtTreeMap.getElem?_empty] at hstream
    cases hstream
  | append_singleton packets q ih =>
    have hlearned := (learned_empty (π := π)).run packets
    rw [List.nil_append] at hlearned
    have hfinal := hstream
    rw [run_snoc] at hstream
    rcases hlearned.streams_processTCP q hstream with
      ⟨hopened, hname⟩ | ⟨hopened, old, hold, hdevice, hname⟩
    · refine ⟨packets, q, [], rfl, ⟨hopened, ?_, ?_⟩, hname⟩
      · intro later r hprefix
        exact absurd (List.prefix_nil.mp hprefix) (by simp)
      · intro later hprefix
        rw [List.prefix_nil.mp hprefix]
        exact ⟨stream, hfinal, rfl, rfl⟩
    · obtain ⟨before, p, after, rfl, hsince, hservice⟩ := ih hold
      rw [← hdevice, ← hname] at hsince hservice
      refine ⟨before, p, after ++ [q], by rw [List.append_assoc, List.cons_append],
        ⟨hsince.opened, ?_, ?_⟩, hservice⟩
      · intro later r hprefix
        rcases List.prefix_concat_iff.mp hprefix with heq | hprefix
        · obtain ⟨rfl, hr⟩ := List.append_inj' heq rfl
          rw [List.singleton_inj.mp hr]
          exact hopened
        · exact hsince.last later r hprefix
      · intro later hprefix
        rcases List.prefix_concat_iff.mp hprefix with rfl | hprefix
        · rw [List.append_assoc, List.cons_append] at hfinal
          exact ⟨stream, hfinal, rfl, rfl⟩
        · exact hsince.keeps later hprefix

end StreamTable

namespace USBMUXInterfaceExpert

theorem table_processPackets (e : USBMUXInterfaceExpert π) (packets : List (Bool × Bytes)) :
    (e.processPackets packets).table = e.table.run packets := by
  induction packets generalizing e with
  | nil => rfl
  | cons p packets ih => exact ih (e.processPacket p.1 muxProtoTcp p.2)

/-- **Service names.** After any TCP packets, every stream was opened by one of them, under
the name that the replies of lockdownd decoded before gave its port, and has that name
ever since. -/
theorem streams_named_by_replies (e : USBMUXInterfaceExpert π) (hfresh : e.table = {})
    (packets : List (Bool × Bytes)) (id : UInt64) (stream : MuxStream π)
    (hstream : (e.processPackets packets).table.streams[id]? = some (some stream)) :
    ∃ before p after, packets = before ++ p :: after ∧
      e.table.NamedSince before p after id stream.device stream.serviceName ∧
      stream.serviceName = serviceOf (e.table.decodedLog before) stream.device := by
  rw [table_processPackets, hfresh] at hstream
  rw [hfresh]
  exact StreamTable.exists_namedSince packets hstream

/-! ## A reply -/

/-- What lockdownd answers when it has started the file service. -/
def startServiceReply : String :=
  "<?xml version=\"1.0\"?><plist version=\"1.0\"><dict><key>Service</key><string>com.apple.afc</string><key>Port</key><integer>50123</integer></dict></plist>"

def afcName : Bytes := "com.apple.afc".toUTF8.data.toList

/-- The nodes of the reply. -/
inductive ReplyNode where
  | reply
  | service
  | port
  deriving DecidableEq

/-- What libplist makes of the reply. -/
instance : Libplist ReplyNode where
  plistFromBin _ := none
  plistFromXml payload := if payload = startServiceReply.toUTF8.data.toList then some .reply else none
  plistGetNodeType node :=
    match node with
    | .reply => .dict
    | .service => .string
    | .port => .uint
  plistDictGetItem node key :=
    if node ≠ .reply then none
    else if key = "Service" then some .service
    else if key = "Port" then some .port
    else none
  plistGetStringPtr node := if node = .service then some afcName else none
  plistGetUintVal node := if node = .port then 50123 else 0

/-- The host opens a stream to lockdownd and then one to the port that it was told. -/
def afcPackets : List (Bool × Bytes) :=
  [(true, [0xC0, 0, 0xF2, 0x7E, 0, 0, 0, 0, 0, 0, 0, 0, 0x50, 0x02, 2, 0, 0, 0, 0, 0]),
    (false, [0xF2, 0x7E, 0xC0, 0, 0, 0, 0, 0, 0, 0, 0, 0, 0x50, 0x10, 2, 0, 0, 0, 0, 0,
      0, 0, 0, 150] ++ startServiceReply.toUTF8.data.toList),
    (true, [0xC0, 1, 0xC3, 0xCB, 0, 0, 0, 0, 0, 0, 0, 0, 0x50, 0x02, 2, 0, 0, 0, 0, 0])]

/-- The second stream is called what the reply says. -/
theorem streams_named_by_replies_example :
    let e : USBMUXInterfaceExpert ReplyNode := { configuration := 1, interface := 1 }
    ∃ before p after, afcPackets = before ++ p :: after ∧
      e.table.NamedSince before p after (streamId 49153 50123 1) 50123 afcName ∧
      afcName = serviceOf (e.table.decodedLog before) 50123 :=
  streams_named_by_replies { configuration := 1, interface := 1 } rfl _ (streamId 49153 50123 1)
    { host := 49153, device := 50123, serviceName := afcName } (by decide +kernel)

end USBMUXInterfaceExpert

end DemuxUsb
