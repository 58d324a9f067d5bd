import DemuxUsb.Protocol.ReassemblyBounds
import DemuxUsb.Protocol.ServiceNames

/-!
# Consistency of the stream tables

The maps `m_streamIndex` and `m_streams` are changed at different places, and `operator[]`
puts a null pointer into the second one for a key it does not find. `Indexed` says how
the two belong together, and `Kept` that no stream is removed or replaced.

The port pairs for which a stream was opened are counted along a run, because an index
starts again at zero after 2^32 of them.

* `tables_consistent`: in every state that a new expert comes to, the tables are indexed,
  they keep the streams of all earlier states, and no lookup finds a null pointer.
-/

namespace DemuxUsb

/-! ## Streams that continue -/

namespace MuxStream

variable {π : Type} [Libplist π]

/-- The stream is what some segments have made of an earlier one. -/
def Continues (earlier stream : MuxStream π) : Prop :=
  ∃ own : List Segment, stream = own.foldl deliver earlier

theorem Continues.refl (stream : MuxStream π) : Continues stream stream := ⟨[], rfl⟩

theorem Continues.trans {first second third : MuxStream π} (h : Continues first second)
    (h' : Continues second third) : Continues first third := by
  obtain ⟨own, rfl⟩ := h
  obtain ⟨more, rfl⟩ := h'
  exact ⟨own ++ more, List.foldl_append.symm⟩

theorem continues_deliver (stream : MuxStream π) (s : Segment) :
    Continues stream (stream.deliver s) := ⟨[s], rfl⟩

theorem ports_ofSegments (host device : UInt16) (name : Bytes) (own : List Segment) :
    (ofSegments host device name own : MuxStream π).host = host ∧
      (ofSegments host device name own : MuxStream π).device = device :=
  run_keeps (fresh host device) _

end MuxStream

/-! ## The streams of a port pair -/

section Counts

variable {segments : List Segment} {s : Segment}

/-- A segment that opens a stream adds one to its own port pair only. -/
theorem length_streamsOf_of_new (hnew : s.opens = true ∨ streamsOf s.host s.device segments = [])
    (host device : UInt16) :
    (streamsOf host device (segments ++ [s])).length =
      (streamsOf host device segments).length + [(s.host, s.device)].count (host, device) := by
  by_cases hpair : s.host = host ∧ s.device = device
  · obtain ⟨rfl, rfl⟩ := hpair
    rw [streamsOf_snoc_own, (place_of_new hnew).1, List.length_append, List.count_singleton_self,
      List.length_singleton]
  · have hne : (s.host, s.device) ≠ (host, device) := by simpa using hpair
    rw [streamsOf_snoc_other segments hpair, List.count_singleton, beq_false_of_ne hne]
    rfl

/-- Another segment adds none. -/
theorem length_streamsOf_of_old
    (hold : ¬ (s.opens = true ∨ streamsOf s.host s.device segments = []))
    (host device : UInt16) :
    (streamsOf host device (segments ++ [s])).length = (streamsOf host device segments).length := by
  by_cases hpair : s.host = host ∧ s.device = device
  · obtain ⟨rfl, rfl⟩ := hpair
    rw [streamsOf_snoc_own, (place_of_old hold).1, List.length_modify]
  · rw [streamsOf_snoc_other segments hpair]

end Counts

namespace StreamTable

variable {π : Type}

/-! ## Lookups -/

/-- `m_streams[id]` -/
def lookup (t : StreamTable π) (id : UInt64) : StreamTable π × Option (MuxStream π) :=
  (t.touch id, (t.touch id).streams[id]?.join)

/-- The stream of the most recent connection, and the table after the search. -/
def streamFor (t : StreamTable π) (host device : UInt16) :
    StreamTable π × Option (MuxStream π) :=
  let found := t.getStreamId host device
  found.1.lookup found.2

/-- `m_streams[beginStream(host, device)]` -/
def begun (t : StreamTable π) (host device : UInt16) : StreamTable π × Option (MuxStream π) :=
  let found := t.beginStream host device
  found.1.lookup found.2

/-- An entry that is there is found, and nothing is put into the table. -/
theorem lookup_eq {t : StreamTable π} {id : UInt64} {stream : MuxStream π}
    (h : t.streams[id]? = some (some stream)) : t.lookup id = (t, some stream) := by
  have hmem : id ∈ t.streams := by
    rw [Std.ExtTreeMap.mem_iff_isSome_getElem?, h]
    rfl
  unfold lookup touch
  rw [if_pos hmem, h]
  rfl

/-! ## The invariant -/

/-- The two maps belong together. -/
structure Indexed (t : StreamTable π) : Prop where
  keys : ∀ id, id ∈ t.streams ↔ ∃ host device index i,
    t.streamIndex[streamPort host device]? = some index ∧ 1 ≤ i ∧ i ≤ index ∧
      id = streamId host device i
  entries : ∀ host device i entry, t.streams[streamId host device i]? = some entry →
    ∃ stream, entry = some stream ∧ stream.host = host ∧ stream.device = device

variable [Libplist π]

/-- Every stream of the earlier table is still there under its id. -/
def Kept (earlier t : StreamTable π) : Prop :=
  ∀ (id : UInt64) (stream : MuxStream π), earlier.streams[id]? = some (some stream) →
    ∃ stream', t.streams[id]? = some (some stream') ∧ MuxStream.Continues stream stream'

theorem Kept.refl (t : StreamTable π) : Kept t t :=
  fun _ stream h => ⟨stream, h, MuxStream.Continues.refl stream⟩

theorem Kept.trans {first second third : StreamTable π} (h : Kept first second)
    (h' : Kept second third) : Kept first third := by
  intro id stream hstream
  obtain ⟨stream', hstream', hcontinues⟩ := h id stream hstream
  obtain ⟨stream'', hstream'', hcontinues'⟩ := h' id stream' hstream'
  exact ⟨stream'', hstream'', hcontinues.trans hcontinues'⟩

section Demultiplexed

variable {t : StreamTable π} {segments : List Segment}

theorem toNat_index {host device : UInt16} (hnum : Numbered segments) {i : Nat}
    (h : i ≤ (streamsOf host device segments).length) : (UInt32.ofNat i).toNat = i := by
  rw [UInt32.toNat_ofNat']
  exact Nat.mod_eq_of_lt (Nat.lt_of_le_of_lt h (hnum host device))

/-- A table that holds the streams of some segments, and no others, is indexed. -/
theorem Demultiplexed.indexed (h : t.Demultiplexed segments) (hnum : Numbered segments) :
    t.Indexed := by
  refine ⟨?_, ?_⟩
  · intro id
    constructor
    · intro hmem
      obtain ⟨host, device, i, hi, rfl⟩ := h.only id hmem
      have hne : streamsOf host device segments ≠ [] := List.length_pos_iff.mp (by omega)
      refine ⟨host, device, _, UInt32.ofNat (i + 1),
        (h.index host device).trans (if_neg hne), ?_, ?_, rfl⟩
      · rw [UInt32.le_iff_toNat_le, toNat_index hnum hi]
        exact Nat.succ_le_succ (Nat.zero_le i)
      · rw [UInt32.le_iff_toNat_le, toNat_index hnum hi, toNat_index hnum (Nat.le_refl _)]
        exact hi
    · rintro ⟨host, device, index, i, hindex, hpos, hle, rfl⟩
      rw [h.index] at hindex
      by_cases hnil : streamsOf host device segments = []
      · rw [if_pos hnil] at hindex
        cases hindex
      rw [if_neg hnil] at hindex
      rw [← Option.some.inj hindex, UInt32.le_iff_toNat_le, toNat_index hnum (Nat.le_refl _)] at hle
      rw [UInt32.le_iff_toNat_le] at hpos
      have hone : (1 : UInt32).toNat = 1 := rfl
      obtain ⟨name, hheld⟩ := h.held host device (i.toNat - 1) _
        (List.getElem?_eq_getElem (show i.toNat - 1 < _ by omega))
      rw [Nat.sub_add_cancel (by omega), UInt32.ofNat_toNat] at hheld
      rw [Std.ExtTreeMap.mem_iff_isSome_getElem?, hheld]
      rfl
  · intro host device i entry hentry
    have hmem : streamId host device i ∈ t.streams := by
      rw [Std.ExtTreeMap.mem_iff_isSome_getElem?, hentry]
      rfl
    obtain ⟨host', device', k, hk, hid⟩ := h.only _ hmem
    obtain ⟨rfl, rfl, rfl⟩ := streamId_inj hid
    obtain ⟨name, hheld⟩ := h.held host device k _ (List.getElem?_eq_getElem hk)
    rw [hheld] at hentry
    exact ⟨_, (Option.some.inj hentry).symm, MuxStream.ports_ofSegments host device name _⟩

/-- Whatever connection is searched for, its stream is there. -/
theorem Demultiplexed.lookup_find (h : t.Demultiplexed segments) (s : Segment) :
    ∃ stream, (t.find s).1.lookup (t.find s).2 = ((t.find s).1, some stream) ∧
      stream.host = s.host ∧ stream.device = s.device := by
  obtain ⟨hid, ⟨name, hfound⟩, -, -⟩ := h.find (s := s)
  rw [← hid] at hfound
  exact ⟨_, lookup_eq hfound, MuxStream.ports_ofSegments s.host s.device name _⟩

/-- A stream is opened for a connection that is opened, or that is not known. -/
theorem Demultiplexed.opens_iff (h : t.Demultiplexed segments) (s : Segment) :
    t.Opens s ↔ s.opens = true ∨ streamsOf s.host s.device segments = [] := by
  unfold Opens
  rw [h.index]
  by_cases hnil : streamsOf s.host s.device segments = []
  · simp [hnil]
  · simp [hnil]

/-- A stream is opened under an id that no stream has. -/
theorem Demultiplexed.targetId_notMem (h : t.Demultiplexed segments) {s : Segment}
    (hnum : Numbered (segments ++ [s]))
    (hnew : s.opens = true ∨ streamsOf s.host s.device segments = []) :
    targetId s (segments ++ [s]) ∉ t.streams := by
  intro hmem
  obtain ⟨host, device, i, hi, hid⟩ := h.only _ hmem
  obtain ⟨rfl, rfl, hindex⟩ := streamId_inj hid
  have hlength := length_streamsOf_of_new hnew s.host s.device
  rw [List.count_singleton_self] at hlength
  have hval := congrArg UInt32.toNat hindex
  rw [toNat_index hnum (Nat.le_refl _), toNat_index hnum.of_snoc hi] at hval
  omega

/-- **Step lemma.** A segment continues a stream, or puts a new one beside the others. -/
theorem Demultiplexed.kept (h : t.Demultiplexed segments) {outbound : Bool} {payload : Bytes}
    (hheader : 20 ≤ payload.length)
    (hnum : Numbered (segments ++ [Segment.parse outbound payload])) :
    t.Kept (t.processTCP outbound payload) := by
  intro id stream hstream
  obtain ⟨hid, ⟨name, hfound⟩, -, -⟩ := h.find (s := Segment.parse outbound payload)
  by_cases htarget : id = targetId (Segment.parse outbound payload)
      (segments ++ [Segment.parse outbound payload])
  · have hold : ¬ ((Segment.parse outbound payload).opens = true ∨
        streamsOf (Segment.parse outbound payload).host
          (Segment.parse outbound payload).device segments = []) := by
      intro hnew
      apply h.targetId_notMem hnum hnew
      rw [← htarget, Std.ExtTreeMap.mem_iff_isSome_getElem?, hstream]
      rfl
    have hsame : (t.find (Segment.parse outbound payload)).1 = t := by
      rw [← h.opens_iff] at hold
      obtain ⟨hopens, hindex⟩ := not_or.mp hold
      obtain ⟨index, hindex⟩ := Option.ne_none_iff_exists'.mp hindex
      rw [find_of_known hopens hindex]
    rw [hsame, ← htarget, hstream] at hfound
    rw [← hid] at htarget
    have hown : (t.find (Segment.parse outbound payload)).1.streams[
        (t.find (Segment.parse outbound payload)).2]? = some (some stream) := by
      rw [hsame, ← htarget, hstream]
    refine ⟨stream.deliver (Segment.parse outbound payload), ?_, stream.continues_deliver _⟩
    rw [(processTCP_streams t hheader hown).1, htarget]
    exact Std.ExtTreeMap.getElem?_insert_self
  · refine ⟨stream, ?_, MuxStream.Continues.refl stream⟩
    rw [(h.processTCP hheader hnum).2 id htarget, hstream]

end Demultiplexed

/-! ## Opened streams -/

/-- The port pair for which `processTCP` opens a stream, if it does. -/
def opens (t : StreamTable π) (outbound : Bool) (payload : Bytes) : List (UInt16 × UInt16) :=
  if payload.length < 20 then []
  else
    let s := Segment.parse outbound payload
    if t.Opens s then [(s.host, s.device)] else []

/-- The table holds the streams of some segments, and `opened` counts them. -/
def Counted (t : StreamTable π) (opened : List (UInt16 × UInt16)) : Prop :=
  ∃ segments, t.Demultiplexed segments ∧
    ∀ host device, (streamsOf host device segments).length = opened.count (host, device)

/-- Fewer than 2^32 streams for every port pair. -/
def Few (opened : List (UInt16 × UInt16)) : Prop :=
  ∀ host device, opened.count (host, device) < 2 ^ 32

theorem Few.of_append {opened more : List (UInt16 × UInt16)} (h : Few (opened ++ more)) :
    Few opened := by
  intro host device
  have hcount := h host device
  rw [List.count_append] at hcount
  omega

/-- **Step lemma.** -/
theorem Counted.processTCP {t : StreamTable π} {opened : List (UInt16 × UInt16)}
    (h : t.Counted opened) {outbound : Bool} {payload : Bytes}
    (hfew : Few (opened ++ t.opens outbound payload)) :
    (t.processTCP outbound payload).Counted (opened ++ t.opens outbound payload) ∧
      t.Kept (t.processTCP outbound payload) := by
  unfold opens at hfew ⊢
  by_cases hshort : payload.length < 20
  · rw [if_pos hshort, List.append_nil, processTCP_of_short t hshort]
    exact ⟨h, Kept.refl t⟩
  rw [if_neg hshort] at hfew ⊢
  have hheader := Nat.not_lt.mp hshort
  obtain ⟨segments, hdemux, hcount⟩ := h
  have hcount' : ∀ host device,
      (streamsOf host device (segments ++ [Segment.parse outbound payload])).length =
        (opened ++ if t.Opens (Segment.parse outbound payload) then
          [((Segment.parse outbound payload).host, (Segment.parse outbound payload).device)]
        else []).count (host, device) := by
    intro host device
    by_cases hnew : t.Opens (Segment.parse outbound payload)
    · rw [if_pos hnew, List.count_append, ← hcount]
      exact length_streamsOf_of_new ((hdemux.opens_iff _).mp hnew) host device
    · rw [if_neg hnew, List.append_nil, ← hcount]
      exact length_streamsOf_of_old (mt (hdemux.opens_iff _).mpr hnew) host device
  have hnum : Numbered (segments ++ [Segment.parse outbound payload]) := by
    intro host device
    rw [hcount']
    exact hfew host device
  exact ⟨⟨_, (hdemux.processTCP hheader hnum).1, hcount'⟩, hdemux.kept hheader hnum⟩

/-- What follows from the invariant. -/
theorem Counted.indexed {t : StreamTable π} {opened : List (UInt16 × UInt16)}
    (h : t.Counted opened) (hfew : Few opened) : t.Indexed := by
  obtain ⟨segments, hdemux, hcount⟩ := h
  apply hdemux.indexed
  intro host device
  rw [hcount]
  exact hfew host device

end StreamTable

/-! ## Runs -/

namespace USBMUXInterfaceExpert

variable {π : Type} [Libplist π]

open StreamTable

/-- What happens to an expert. `packet` is a packet that `feed` hands on, for the states in
the middle of a transfer. -/
inductive Event where
  | bulkOut (data : Bytes)
  | bulkIn (data : Bytes)
  | packet (outbound : Bool) (protocol : UInt32) (payload : Bytes)

def apply (e : USBMUXInterfaceExpert π) : Event → USBMUXInterfaceExpert π
  | .bulkOut data => e.processBulkOut data
  | .bulkIn data => e.processBulkIn data
  | .packet outbound protocol payload => e.processPacket outbound protocol payload

/-- The port pairs for which a packet opens a stream. -/
def opensPacket (e : USBMUXInterfaceExpert π) (outbound : Bool) (protocol : UInt32)
    (payload : Bytes) : List (UInt16 × UInt16) :=
  if protocol = muxProtoTcp then e.table.opens outbound payload else []

/-- `processPacket` with the port pairs of the streams opened so far. -/
def processCounted (outbound : Bool) (s : USBMUXInterfaceExpert π × List (UInt16 × UInt16))
    (protocol : UInt32) (payload : Bytes) : USBMUXInterfaceExpert π × List (UInt16 × UInt16) :=
  (s.1.processPacket outbound protocol payload, s.2 ++ s.1.opensPacket outbound protocol payload)

/-- The port pairs of the streams that a transfer opens, in order. -/
def opensTransfer (e : USBMUXInterfaceExpert π) (outbound : Bool) (data : Bytes) :
    List (UInt16 × UInt16) :=
  (feedInto (processCounted outbound) ⟨(e, []), e.buffer outbound, e.resyncs⟩ data).expert.2

def opensEvent (e : USBMUXInterfaceExpert π) : Event → List (UInt16 × UInt16)
  | .bulkOut data =>
    opensTransfer { e with toInterfaceExpert := e.toInterfaceExpert.processBulkOut data } true data
  | .bulkIn data =>
    opensTransfer { e with toInterfaceExpert := e.toInterfaceExpert.processBulkIn data } false data
  | .packet outbound protocol payload => e.opensPacket outbound protocol payload

/-- The port pairs of the streams that are opened in a run, in order. -/
def opensRun (e : USBMUXInterfaceExpert π) : List Event → List (UInt16 × UInt16)
  | [] => []
  | event :: events => e.opensEvent event ++ (e.apply event).opensRun events

/-- The count is only a count. -/
theorem handOn_processCounted (outbound : Bool)
    (s : USBMUXInterfaceExpert π × List (UInt16 × UInt16)) (packets : List (UInt32 × Bytes)) :
    (handOn (processCounted outbound) s packets).1 =
      handOn (fun e => e.processPacket outbound) s.1 packets := by
  induction packets generalizing s with
  | nil => rfl
  | cons packet packets ih => rw [handOn_cons, handOn_cons, ih, processCounted]

theorem table_feed (e : USBMUXInterfaceExpert π) (outbound : Bool) (data : Bytes) :
    (e.feed outbound data).table = (feedInto (processCounted outbound)
      ⟨(e, []), e.buffer outbound, e.resyncs⟩ data).expert.1.table := by
  have htable : (e.feed outbound data).table = (feedInto (fun e => e.processPacket outbound)
      ⟨e, e.buffer outbound, e.resyncs⟩ data).expert.table := by
    cases outbound with
    | true => rfl
    | false => rfl
  rw [htable]
  unfold feedInto
  split
  · rfl
  · rw [feedLoop_eq, feedLoop_eq, handOn_processCounted]

section Invariant

variable {e : USBMUXInterfaceExpert π} {opened : List (UInt16 × UInt16)}

/-- **Step lemma.** A packet keeps the invariant and every stream. -/
theorem counted_packet (h : e.table.Counted opened) {outbound : Bool} {protocol : UInt32}
    {payload : Bytes} (hfew : Few (opened ++ e.opensPacket outbound protocol payload)) :
    (e.processPacket outbound protocol payload).table.Counted
        (opened ++ e.opensPacket outbound protocol payload) ∧
      e.table.Kept (e.processPacket outbound protocol payload).table := by
  unfold opensPacket at hfew ⊢
  by_cases htcp : protocol = muxProtoTcp
  · rw [if_pos htcp] at hfew ⊢
    rw [htcp]
    exact h.processTCP hfew
  · have htable : (e.processPacket outbound protocol payload).table = e.table := by
      unfold processPacket
      rw [if_neg htcp]
      split
      · split
        · rfl
        · rfl
      · rfl
    rw [if_neg htcp, List.append_nil, htable]
    exact ⟨h, Kept.refl e.table⟩

/-- What holds while a transfer is taken apart, as long as few streams have been opened. -/
def FedFrom (e : USBMUXInterfaceExpert π) (opened : List (UInt16 × UInt16))
    (s : USBMUXInterfaceExpert π × List (UInt16 × UInt16)) : Prop :=
  Few (opened ++ s.2) → s.1.table.Counted (opened ++ s.2) ∧ e.table.Kept s.1.table

theorem FedFrom.packet {s : USBMUXInterfaceExpert π × List (UInt16 × UInt16)}
    (h : FedFrom e opened s) (outbound : Bool) (protocol : UInt32) (payload : Bytes) :
    FedFrom e opened (processCounted outbound s protocol payload) := by
  intro hfew
  rw [processCounted, ← List.append_assoc] at hfew ⊢
  -- the count after the packet bounds the one before it
  obtain ⟨hcounted, hkept⟩ := h hfew.of_append
  obtain ⟨hcounted', hkept'⟩ := counted_packet hcounted hfew
  exact ⟨hcounted', hkept.trans hkept'⟩

/-- **Step lemma.** So does a transfer, packet by packet. -/
theorem counted_feed (h : e.table.Counted opened) {outbound : Bool} {data : Bytes}
    (hfew : Few (opened ++ e.opensTransfer outbound data)) :
    (e.feed outbound data).table.Counted (opened ++ e.opensTransfer outbound data) ∧
      e.table.Kept (e.feed outbound data).table := by
  have hstart : FedFrom e opened (e, []) := by
    intro _
    rw [List.append_nil]
    exact ⟨h, Kept.refl e.table⟩
  have hstep : ∀ s protocol payload, FedFrom e opened s →
      FedFrom e opened (processCounted outbound s protocol payload) :=
    fun _ protocol payload hs => hs.packet outbound protocol payload
  have hfed := feedInto_induction hstep ⟨(e, []), e.buffer outbound, e.resyncs⟩ data hstart
  rw [table_feed]
  exact hfed hfew

theorem counted_event (h : e.table.Counted opened) {event : Event}
    (hfew : Few (opened ++ e.opensEvent event)) :
    (e.apply event).table.Counted (opened ++ e.opensEvent event) ∧
      e.table.Kept (e.apply event).table := by
  cases event with
  | bulkOut data =>
    exact counted_feed
      (e := { e with toInterfaceExpert := e.toInterfaceExpert.processBulkOut data }) h hfew
  | bulkIn data =>
    exact counted_feed
      (e := { e with toInterfaceExpert := e.toInterfaceExpert.processBulkIn data }) h hfew
  | packet outbound protocol payload => exact counted_packet h hfew

/-- **Run lemma.** -/
theorem counted_run (h : e.table.Counted opened) {events : List Event}
    (hfew : Few (opened ++ e.opensRun events)) :
    (events.foldl apply e).table.Counted (opened ++ e.opensRun events) ∧
      e.table.Kept (events.foldl apply e).table := by
  induction events generalizing e opened with
  | nil =>
    rw [opensRun, List.append_nil]
    exact ⟨h, Kept.refl e.table⟩
  | cons event events ih =>
    rw [opensRun, ← List.append_assoc] at hfew ⊢
    obtain ⟨hcounted, hkept⟩ := counted_event h hfew.of_append
    obtain ⟨hcounted', hkept'⟩ := ih hcounted hfew
    exact ⟨hcounted', hkept.trans hkept'⟩

end Invariant

theorem opensRun_append (e : USBMUXInterfaceExpert π) (before after : List Event) :
    e.opensRun (before ++ after) =
      e.opensRun before ++ (before.foldl apply e).opensRun after := by
  induction before generalizing e with
  | nil => rfl
  | cons event before ih =>
    rw [List.cons_append, opensRun, opensRun, ih, List.append_assoc]
    rfl

/-- **Stream tables.** In every state that a new expert comes to with fewer than 2^32
streams opened for each port pair, between transfers or in the middle of one: the keys of
the streams are the ids numbered by the index, every entry is a stream of the ports in its
key, ids are unique, every stream of an earlier state is still under its id, and the
searches for a known and for a new connection find a stream, without putting in a null
pointer. -/
theorem tables_consistent (configuration interface : UInt8) (events : List Event)
    (hfew : Few ((new configuration interface : USBMUXInterfaceExpert π).opensRun events)) :
    let e : USBMUXInterfaceExpert π := new configuration interface
    let t := (events.foldl apply e).table
    t.Indexed ∧
      Function.Injective (fun p : UInt16 × UInt16 × UInt32 => streamId p.1 p.2.1 p.2.2) ∧
      (∀ before after, events = before ++ after → (before.foldl apply e).table.Kept t) ∧
      ∀ host device,
        (∃ stream, t.streamFor host device = ((t.getStreamId host device).1, some stream) ∧
          stream.host = host ∧ stream.device = device) ∧
        ∃ stream, t.begun host device = ((t.beginStream host device).1, some stream) ∧
          stream.host = host ∧ stream.device = device := by
  intro e t
  have hstart : e.table.Counted [] := ⟨[], demultiplexed_empty, fun _ _ => rfl⟩
  obtain ⟨hcounted, -⟩ := counted_run hstart hfew
  refine ⟨hcounted.indexed hfew, ?_, ?_, ?_⟩
  · rintro ⟨host, device, i⟩ ⟨host', device', i'⟩ hid
    obtain ⟨rfl, rfl, rfl⟩ := streamId_inj hid
    rfl
  · rintro before after rfl
    rw [opensRun_append] at hfew
    obtain ⟨hbefore, -⟩ := counted_run hstart hfew.of_append
    obtain ⟨-, hkept⟩ := counted_run hbefore hfew
    rw [← List.foldl_append] at hkept
    exact hkept
  · intro host device
    obtain ⟨segments, hdemux, -⟩ := hcounted
    exact ⟨hdemux.lookup_find ⟨true, host, device, false, false, []⟩,
      hdemux.lookup_find ⟨true, host, device, true, false, []⟩⟩

/-- The host opens two connections between the same ports, and the device closes the
second one. -/
theorem tables_consistent_example :
    let e : USBMUXInterfaceExpert Empty := new 1 1
    let syn : Bytes :=
      [0, 0, 0, 6, 0, 0, 0, 28,
        0xC0, 0, 0xF2, 0x7E, 0, 0, 0, 0, 0, 0, 0, 0, 0x50, 0x02, 2, 0, 0, 0, 0, 0]
    let reset : Bytes :=
      [0, 0, 0, 6, 0, 0, 0, 28,
        0xF2, 0x7E, 0xC0, 0, 0, 0, 0, 0, 0, 0, 0, 0, 0x50, 0x04, 2, 0, 0, 0, 0, 0]
    let events : List Event := [.bulkOut syn, .bulkOut syn, .bulkIn reset]
    e.opensRun events = [(49152, 62078), (49152, 62078)] ∧
      (events.foldl apply e).table.Indexed := by
  intro e syn reset events
  have hfew : Few (e.opensRun events) := fun host device =>
    Nat.lt_of_le_of_lt List.count_le_length (by decide +kernel)
  exact ⟨by decide +kernel, (tables_consistent 1 1 events hfew).1⟩

end USBMUXInterfaceExpert

end DemuxUsb
