import DemuxUsb.Library.Maps
import DemuxUsb.Protocol.MuxDecoding
import DemuxUsb.Protocol.USBMUXInterfaceExpert

/-!
# Demultiplexing TCP segments

`streamsOf host device segments` says, without any table, which segments belong together:
the segments of a port pair, cut where the host opens a connection. `Demultiplexed` says
that a `StreamTable` holds exactly these streams.

* `tcp_demultiplexed`: every run of TCP packets keeps the table demultiplexed, and a
  segment changes no stream but the one it belongs to.
-/

namespace DemuxUsb

open Endian

/-! ## Segments -/

/-- What a TCP packet says: the connection it belongs to, seen from the host, whether it
opens or closes it, and the data it carries. -/
structure Segment where
  outbound : Bool
  host : UInt16
  device : UInt16
  opens : Bool
  closes : Bool
  data : Bytes
  deriving DecidableEq

/-- Where the data of a segment begins. -/
def Tcphdr.dataOffset (tcp : Tcphdr) (length : Nat) : Nat :=
  let offset := (tcp.flags >>> 12).toNat * 4
  if 20 ≤ offset ∧ offset ≤ length then offset else 20

/-- The segment in the payload of a usbmux packet. -/
def Segment.parse (outbound : Bool) (payload : Bytes) : Segment :=
  let tcp : Tcphdr := Layout.decode (payload.take 20)
  { outbound := outbound
    host := if outbound then tcp.source else tcp.dest
    device := if outbound then tcp.dest else tcp.source
    opens := outbound && tcp.flags &&& usbTcpFlagSyn != 0 && tcp.flags &&& usbTcpFlagAck == 0
    closes := tcp.flags &&& (usbTcpFlagRst ||| usbTcpFlagFin) != 0
    data := payload.drop (tcp.dataOffset payload.length) }

/-- One more segment of a port pair: it opens a stream, or belongs to the last one. -/
def place (streams : List (List Segment)) (s : Segment) : List (List Segment) :=
  if s.opens ∨ streams = [] then streams ++ [[s]]
  else streams.modify (streams.length - 1) (· ++ [s])

/-- The streams of a port pair, oldest first, each with its own segments in order. -/
def streamsOf (host device : UInt16) (segments : List Segment) : List (List Segment) :=
  (segments.filter (fun s => s.host = host ∧ s.device = device)).foldl place []

theorem streamsOf_snoc_own (segments : List Segment) (s : Segment) :
    streamsOf s.host s.device (segments ++ [s]) = place (streamsOf s.host s.device segments) s := by
  simp [streamsOf, List.filter_append]

theorem streamsOf_snoc_other {host device : UInt16} (segments : List Segment) {s : Segment}
    (h : ¬ (s.host = host ∧ s.device = device)) :
    streamsOf host device (segments ++ [s]) = streamsOf host device segments := by
  simp [streamsOf, List.filter_append, h]

/-- The segments that the stream of `s` already has. -/
def ownBefore (streams : List (List Segment)) (s : Segment) : List Segment :=
  if s.opens then [] else streams.getLast?.getD []

theorem place_of_new {streams : List (List Segment)} {s : Segment}
    (h : s.opens = true ∨ streams = []) :
    place streams s = streams ++ [[s]] ∧ ownBefore streams s = [] := by
  refine ⟨if_pos h, ?_⟩
  unfold ownBefore
  rcases h with hopens | rfl
  · rw [if_pos hopens]
  · split <;> rfl

theorem place_of_old {streams : List (List Segment)} {s : Segment}
    (h : ¬ (s.opens = true ∨ streams = [])) :
    place streams s = streams.modify (streams.length - 1) (· ++ [s]) ∧
      0 < streams.length ∧ streams[streams.length - 1]? = some (ownBefore streams s) := by
  have hparts := not_or.mp h
  have hpos := List.length_pos_of_ne_nil hparts.2
  refine ⟨if_neg h, hpos, ?_⟩
  unfold ownBefore
  rw [if_neg hparts.1, List.getLast?_eq_getElem?]
  rw [List.getElem?_eq_getElem (by omega), Option.getD_some]

/-- The stream of `s` is the last one. -/
theorem place_last (streams : List (List Segment)) (s : Segment) :
    0 < (place streams s).length ∧
      (place streams s)[(place streams s).length - 1]? = some (ownBefore streams s ++ [s]) := by
  by_cases hnew : s.opens = true ∨ streams = []
  · obtain ⟨hplace, hown⟩ := place_of_new hnew
    rw [hplace, hown, List.length_append, List.length_singleton, Nat.add_sub_cancel,
      List.getElem?_concat_length]
    exact ⟨Nat.succ_pos _, rfl⟩
  · obtain ⟨hplace, hpos, hlast⟩ := place_of_old hnew
    rw [hplace, List.length_modify, List.getElem?_modify_eq, hlast]
    exact ⟨hpos, rfl⟩

/-- The other streams of the pair stay as they are. -/
theorem place_other {streams : List (List Segment)} {s : Segment} {i : Nat}
    (h : i + 1 ≠ (place streams s).length) : (place streams s)[i]? = streams[i]? := by
  by_cases hnew : s.opens = true ∨ streams = []
  · obtain ⟨hplace, -⟩ := place_of_new hnew
    rw [hplace, List.length_append, List.length_singleton] at h
    rw [hplace]
    rcases Nat.lt_or_ge i streams.length with hlt | hge
    · rw [List.getElem?_append_left hlt]
    · rw [List.getElem?_eq_none hge, List.getElem?_eq_none]
      rw [List.length_append, List.length_singleton]
      omega
  · obtain ⟨hplace, hpos, -⟩ := place_of_old hnew
    rw [hplace, List.length_modify] at h
    rw [hplace, List.getElem?_modify_ne]
    omega

theorem length_streamsOf_snoc (host device : UInt16) (segments : List Segment) (s : Segment) :
    (streamsOf host device segments).length ≤ (streamsOf host device (segments ++ [s])).length := by
  by_cases hown : s.host = host ∧ s.device = device
  · obtain ⟨rfl, rfl⟩ := hown
    rw [streamsOf_snoc_own]
    by_cases hnew : s.opens = true ∨ streamsOf s.host s.device segments = []
    · rw [(place_of_new hnew).1, List.length_append]
      exact Nat.le_add_right _ _
    · apply Nat.le_of_eq
      rw [(place_of_old hnew).1, List.length_modify]
  · apply Nat.le_of_eq
    rw [streamsOf_snoc_other segments hown]

/-! ## The stream of some segments -/

namespace MuxStream

variable {π : Type} [Libplist π]

/-- A stream that was fed the data of its own segments. -/
def ofSegments (host device : UInt16) (name : Bytes) (own : List Segment) : MuxStream π :=
  { (fresh host device).run (own.map (fun s => (s.outbound, s.data))) with
    closed := own.any Segment.closes
    serviceName := name }

/-- What `processTCP` does with the stream it found. -/
def deliver (stream : MuxStream π) (s : Segment) : MuxStream π :=
  if s.closes then (stream.pass s.outbound s.data).close else stream.pass s.outbound s.data

theorem pass_nil (stream : MuxStream π) (outbound : Bool) : stream.pass outbound [] = stream := by
  cases outbound <;> simp [pass, sendBytes, receiveBytes, consume]

theorem run_append (stream : MuxStream π) (chunks more : List (Bool × Bytes)) :
    stream.run (chunks ++ more) = (stream.run chunks).run more := List.foldl_append

theorem deliver_ofSegments (host device : UInt16) (name : Bytes) (own : List Segment)
    (s : Segment) :
    (ofSegments host device name own : MuxStream π).deliver s =
      ofSegments host device name (own ++ [s]) := by
  have hpass : (ofSegments host device name own : MuxStream π).pass s.outbound s.data =
      { (fresh host device).run ((own ++ [s]).map (fun s => (s.outbound, s.data))) with
        closed := own.any Segment.closes
        serviceName := name } := by
    rw [List.map_append, run_append]
    cases houtbound : s.outbound <;>
      · simp only [ofSegments, run, List.map_cons, List.map_nil, List.foldl_cons, List.foldl_nil,
          houtbound]
        rfl
  unfold deliver
  rw [hpass, ofSegments, List.any_append]
  cases hcloses : s.closes <;> simp [hcloses, close]

end MuxStream

/-! ## The table -/

namespace StreamTable

variable {π : Type} [Libplist π]

theorem learnService_streams (t : StreamTable π) (message : MuxMessage π) :
    (t.learnService message).streams = t.streams ∧
      (t.learnService message).streamIndex = t.streamIndex := by
  unfold learnService
  dsimp only
  split
  · exact ⟨rfl, rfl⟩
  split <;> exact ⟨rfl, rfl⟩

/-- Learning service names touches no stream. -/
theorem learnServices_streams (t : StreamTable π) (stream : MuxStream π) (firstNew : Nat) :
    (t.learnServices stream firstNew).streams = t.streams ∧
      (t.learnServices stream firstNew).streamIndex = t.streamIndex := by
  unfold learnServices
  split
  · exact ⟨rfl, rfl⟩
  generalize stream.messages.drop firstNew = messages
  induction messages generalizing t with
  | nil => exact ⟨rfl, rfl⟩
  | cons message messages ih =>
    obtain ⟨hstreams, hindex⟩ := learnService_streams t message
    rw [List.foldl_cons, ← hstreams, ← hindex]
    exact ih _

/-- The stream a segment is for: the table with it, and its id. -/
def find (t : StreamTable π) (s : Segment) : StreamTable π × UInt64 :=
  if s.opens then t.beginStream s.host s.device else t.getStreamId s.host s.device

omit [Libplist π] in
theorem find_of_new {t : StreamTable π} {s : Segment}
    (h : s.opens = true ∨ t.streamIndex[streamPort s.host s.device]? = none) :
    t.find s = t.beginStream s.host s.device := by
  unfold find
  by_cases hopens : s.opens = true
  · rw [if_pos hopens]
  · rw [if_neg hopens, getStreamId, h.resolve_left hopens]

omit [Libplist π] in
theorem find_of_known {t : StreamTable π} {s : Segment} {index : UInt32}
    (hopens : ¬ s.opens = true)
    (hindex : t.streamIndex[streamPort s.host s.device]? = some index) :
    t.find s = (t, streamId s.host s.device index) := by
  unfold find
  rw [if_neg hopens, getStreamId, hindex]

omit [Libplist π] in
/-- A stream is opened, or the table stays as it is. -/
theorem find_cases (t : StreamTable π) (s : Segment) :
    t.find s = t.beginStream s.host s.device ∨ (t.find s).1 = t := by
  by_cases hopens : s.opens = true
  · exact Or.inl (find_of_new (Or.inl hopens))
  · cases hindex : t.streamIndex[streamPort s.host s.device]? with
    | none => exact Or.inl (find_of_new (Or.inr hindex))
    | some index => exact Or.inr (congrArg Prod.fst (find_of_known hopens hindex))

/-- A stream without new messages teaches nothing. -/
theorem learnServices_of_drop (t : StreamTable π) {stream : MuxStream π} {firstNew : Nat}
    (h : stream.messages.drop firstNew = []) : t.learnServices stream firstNew = t := by
  unfold learnServices
  rw [h]
  split <;> rfl

/-- The check of the data offset, as the source makes it. -/
theorem dataOffset_eq (tcp : Tcphdr) (length : Nat) :
    (if (tcp.flags >>> 12).toNat * 4 < Layout.size Tcphdr ∨
        length < (tcp.flags >>> 12).toNat * 4 then Layout.size Tcphdr
      else (tcp.flags >>> 12).toNat * 4) = tcp.dataOffset length := by
  have hsize : Layout.size Tcphdr = 20 := rfl
  unfold Tcphdr.dataOffset
  rw [hsize]
  dsimp only
  split <;> split <;> omega

omit [Libplist π] in
/-- The choice of the stream, as the source makes it. -/
theorem find_parse (t : StreamTable π) (outbound : Bool) {payload : Bytes} {tcp : Tcphdr}
    (htcp : Layout.decode (payload.take 20) = tcp) :
    (if outbound = true then
        if tcp.flags &&& usbTcpFlagSyn ≠ 0 ∧ tcp.flags &&& usbTcpFlagAck = 0 then
          t.beginStream tcp.source tcp.dest
        else t.getStreamId tcp.source tcp.dest
      else t.getStreamId tcp.dest tcp.source) = t.find (Segment.parse outbound payload) := by
  unfold find Segment.parse
  rw [htcp]
  cases outbound <;> simp

/-- A stream is only fed when there is data; feeding it nothing would change nothing. -/
theorem pass_parse (stream : MuxStream π) (outbound : Bool) (payload : Bytes) :
    (if 0 < (Segment.parse outbound payload).data.length then
      if outbound = true then stream.sendBytes (Segment.parse outbound payload).data
      else stream.receiveBytes (Segment.parse outbound payload).data
      else stream) = stream.pass (Segment.parse outbound payload).outbound
        (Segment.parse outbound payload).data := by
  by_cases hdata : 0 < (Segment.parse outbound payload).data.length
  · rw [if_pos hdata]
    rfl
  · rw [if_neg hdata, List.length_eq_zero_iff.mp (Nat.eq_zero_of_not_pos hdata),
      MuxStream.pass_nil]

/-- **Spec lemma** of `processTCP`: the stream that is found is handed the segment, and what
it decodes of it is searched for service names. -/
theorem processTCP_eq (t : StreamTable π) {outbound : Bool} {payload : Bytes}
    (hheader : 20 ≤ payload.length) {stream : MuxStream π}
    (hfound : (t.find (Segment.parse outbound payload)).1.streams[
      (t.find (Segment.parse outbound payload)).2]? = some (some stream)) :
    t.processTCP outbound payload =
      { (t.find (Segment.parse outbound payload)).1.learnServices
          (stream.pass (Segment.parse outbound payload).outbound
            (Segment.parse outbound payload).data) stream.messages.length with
        streams := (t.find (Segment.parse outbound payload)).1.streams.insert
          (t.find (Segment.parse outbound payload)).2
          (some (stream.deliver (Segment.parse outbound payload))) } := by
  have hread : readStruct Tcphdr payload = some (Layout.decode (payload.take 20)) :=
    readStruct_of_le hheader
  generalize htcp : (Layout.decode (payload.take 20) : Tcphdr) = tcp at hread
  -- the other flag bits do not matter
  have hsyn : (tcp.flags &&& 0x3F) &&& usbTcpFlagSyn = tcp.flags &&& usbTcpFlagSyn :=
    UInt16.and_assoc ..
  have hack : (tcp.flags &&& 0x3F) &&& usbTcpFlagAck = tcp.flags &&& usbTcpFlagAck :=
    UInt16.and_assoc ..
  have hend : (tcp.flags &&& 0x3F) &&& (usbTcpFlagRst ||| usbTcpFlagFin) =
      tcp.flags &&& (usbTcpFlagRst ||| usbTcpFlagFin) := UInt16.and_assoc ..
  have hdata : payload.drop (tcp.dataOffset payload.length) =
      (Segment.parse outbound payload).data := by
    unfold Segment.parse
    rw [htcp]
  have hcloses : (tcp.flags &&& (usbTcpFlagRst ||| usbTcpFlagFin) ≠ 0) =
      ((Segment.parse outbound payload).closes = true) := by
    unfold Segment.parse
    rw [htcp, bne_iff_ne]
  have htouch : (t.find (Segment.parse outbound payload)).2 ∈
      (t.find (Segment.parse outbound payload)).1.streams := by
    rw [Std.ExtTreeMap.mem_iff_isSome_getElem?, hfound]
    rfl
  unfold processTCP
  rw [hread]
  dsimp only
  rw [dataOffset_eq, hsyn, hack, hend, find_parse t outbound htcp, hdata, touch, if_pos htouch,
    hfound]
  dsimp only [Option.join_some]
  rw [pass_parse]
  simp only [hcloses]
  unfold MuxStream.deliver
  generalize t.find (Segment.parse outbound payload) = found
  obtain ⟨hstreams, -⟩ := learnServices_streams found.1
    (stream.pass (Segment.parse outbound payload).outbound (Segment.parse outbound payload).data)
    stream.messages.length
  by_cases hlength : 0 < (Segment.parse outbound payload).data.length
  · rw [if_pos hlength, hstreams]
  · rw [if_neg hlength, List.length_eq_zero_iff.mp (Nat.eq_zero_of_not_pos hlength),
      MuxStream.pass_nil, learnServices_of_drop _ List.drop_length]

/-- The streams are as if no service names were learned. -/
theorem processTCP_streams (t : StreamTable π) {outbound : Bool} {payload : Bytes}
    (hheader : 20 ≤ payload.length) {stream : MuxStream π}
    (hfound : (t.find (Segment.parse outbound payload)).1.streams[
      (t.find (Segment.parse outbound payload)).2]? = some (some stream)) :
    (t.processTCP outbound payload).streams =
        (t.find (Segment.parse outbound payload)).1.streams.insert
          (t.find (Segment.parse outbound payload)).2
          (some (stream.deliver (Segment.parse outbound payload))) ∧
      (t.processTCP outbound payload).streamIndex =
        (t.find (Segment.parse outbound payload)).1.streamIndex := by
  rw [t.processTCP_eq hheader hfound]
  exact ⟨rfl, (learnServices_streams _ _ _).2⟩

/-! ## The invariant -/

/-- The table holds the streams of `segments`, and no others. -/
structure Demultiplexed (t : StreamTable π) (segments : List Segment) : Prop where
  index : ∀ host device, t.streamIndex[streamPort host device]? =
    if streamsOf host device segments = [] then none
    else some (UInt32.ofNat (streamsOf host device segments).length)
  held : ∀ host device i own, (streamsOf host device segments)[i]? = some own →
    ∃ name, t.streams[streamId host device (UInt32.ofNat (i + 1))]? =
      some (some (MuxStream.ofSegments host device name own))
  only : ∀ id ∈ t.streams, ∃ host device i, i < (streamsOf host device segments).length ∧
    id = streamId host device (UInt32.ofNat (i + 1))

/-- Fewer than 2^32 streams for every port pair. -/
def Numbered (segments : List Segment) : Prop :=
  ∀ host device, (streamsOf host device segments).length < 2 ^ 32

/-- The id of the most recently opened stream of a segment's port pair. -/
def targetId (s : Segment) (segments : List Segment) : UInt64 :=
  streamId s.host s.device (UInt32.ofNat (streamsOf s.host s.device segments).length)

theorem Numbered.of_snoc {segments : List Segment} {s : Segment}
    (h : Numbered (segments ++ [s])) : Numbered segments :=
  fun host device => Nat.lt_of_le_of_lt (length_streamsOf_snoc host device segments s) (h host device)

theorem Numbered.of_append {segments more : List Segment} (h : Numbered (segments ++ more)) :
    Numbered segments := by
  induction more generalizing segments with
  | nil => rwa [List.append_nil] at h
  | cons s more ih =>
    rw [List.append_cons] at h
    exact (ih h).of_snoc

theorem length_place_le (streams : List (List Segment)) (s : Segment) :
    (place streams s).length ≤ streams.length + 1 := by
  by_cases hnew : s.opens = true ∨ streams = []
  · rw [(place_of_new hnew).1, List.length_append]
    exact Nat.le_refl _
  · rw [(place_of_old hnew).1, List.length_modify]
    exact Nat.le_succ _

theorem length_foldl_place_le (segments : List Segment) (streams : List (List Segment)) :
    (segments.foldl place streams).length ≤ streams.length + segments.length := by
  induction segments generalizing streams with
  | nil => exact Nat.le_refl _
  | cons s segments ih =>
    have hle := length_place_le streams s
    have hrest := ih (place streams s)
    rw [List.foldl_cons, List.length_cons]
    omega

/-- So many streams need as many segments. -/
theorem numbered_of_length {segments : List Segment} (h : segments.length < 2 ^ 32) :
    Numbered segments := by
  intro host device
  have hfilter := List.length_filter_le (fun s => s.host = host ∧ s.device = device) segments
  have hle := length_foldl_place_le
    (segments.filter (fun s => s.host = host ∧ s.device = device)) []
  rw [List.length_nil, Nat.zero_add] at hle
  unfold streamsOf
  omega

section Step

variable {t : StreamTable π} {segments : List Segment} {s : Segment}

/-- The stream found is the last one of the pair, the index counts it, and every other stream
is where it was. -/
structure Finds (t : StreamTable π) (segments : List Segment) (s : Segment) : Prop where
  id : (t.find s).2 = targetId s (segments ++ [s])
  stream : ∃ name, (t.find s).1.streams[targetId s (segments ++ [s])]? =
    some (some (MuxStream.ofSegments s.host s.device name
      (ownBefore (streamsOf s.host s.device segments) s)))
  other : ∀ id, id ≠ targetId s (segments ++ [s]) →
    (t.find s).1.streams[id]? = t.streams[id]?
  index : ∀ host device, (t.find s).1.streamIndex[streamPort host device]? =
    if streamsOf host device (segments ++ [s]) = [] then none
    else some (UInt32.ofNat (streamsOf host device (segments ++ [s])).length)

theorem Demultiplexed.find_new (hdemux : t.Demultiplexed segments)
    (hnew : s.opens = true ∨ streamsOf s.host s.device segments = []) : t.Finds segments s := by
  have hindex := hdemux.index s.host s.device
  obtain ⟨hplace, hown⟩ := place_of_new hnew
  have hlen : (streamsOf s.host s.device (segments ++ [s])).length =
      (streamsOf s.host s.device segments).length + 1 := by
    rw [streamsOf_snoc_own, hplace, List.length_append, List.length_singleton]
  have hnext : t.streamIndex[streamPort s.host s.device]?.getD 0 + 1 =
      UInt32.ofNat (streamsOf s.host s.device (segments ++ [s])).length := by
    rw [hindex, hlen, UInt32.ofNat_add]
    by_cases hnil : streamsOf s.host s.device segments = []
    · rw [if_pos hnil, hnil]
      rfl
    · rw [if_neg hnil]
      rfl
  have hfind : t.find s = t.beginStream s.host s.device := by
    apply find_of_new
    apply hnew.imp_right
    intro hnil
    rw [hindex, if_pos hnil]
  have hid : (t.find s).2 = targetId s (segments ++ [s]) := by
    rw [hfind]
    unfold beginStream targetId
    rw [hnext]
  refine ⟨hid, ⟨t.serviceNameFor s.device, ?_⟩, ?_, ?_⟩
  · rw [← hid, hfind, hown]
    exact Std.ExtTreeMap.getElem?_insert_self
  · intro id hne
    rw [← hid, hfind] at hne
    rw [hfind]
    exact Maps.getElem?_insert_ne hne _
  · intro host device
    rw [hfind]
    unfold beginStream
    dsimp only
    by_cases hpair : s.host = host ∧ s.device = device
    · obtain ⟨rfl, rfl⟩ := hpair
      rw [Std.ExtTreeMap.getElem?_insert_self, hnext, if_neg]
      intro hnil
      rw [hnil] at hlen
      cases hlen
    · rw [Maps.getElem?_insert_ne, hdemux.index, streamsOf_snoc_other segments hpair]
      intro heq
      exact hpair (streamPort_inj heq.symm)

theorem Demultiplexed.find_old (hdemux : t.Demultiplexed segments)
    (hold : ¬ (s.opens = true ∨ streamsOf s.host s.device segments = [])) :
    t.Finds segments s := by
  obtain ⟨hopens, hnil⟩ := not_or.mp hold
  obtain ⟨hplace, hpos, hlast⟩ := place_of_old hold
  have hlen : (streamsOf s.host s.device (segments ++ [s])).length =
      (streamsOf s.host s.device segments).length := by
    rw [streamsOf_snoc_own, hplace, List.length_modify]
  have hfind : t.find s = (t, targetId s (segments ++ [s])) := by
    unfold targetId
    apply find_of_known hopens
    rw [hdemux.index, if_neg hnil, hlen]
  refine ⟨congrArg Prod.snd hfind, ?_, ?_, ?_⟩
  · have hheld := hdemux.held s.host s.device _ _ hlast
    rw [Nat.sub_add_cancel hpos] at hheld
    rw [hfind, targetId, hlen]
    exact hheld
  · intro id _
    rw [hfind]
  · intro host device
    rw [hfind]
    by_cases hpair : s.host = host ∧ s.device = device
    · obtain ⟨rfl, rfl⟩ := hpair
      rw [hdemux.index, hlen, if_neg hnil, if_neg]
      intro hnone
      rw [hnone] at hlen
      exact hnil (List.length_eq_zero_iff.mp hlen.symm)
    · rw [hdemux.index, streamsOf_snoc_other segments hpair]

/-- **Spec lemma** of the search. -/
theorem Demultiplexed.find (hdemux : t.Demultiplexed segments) : t.Finds segments s := by
  by_cases hnew : s.opens = true ∨ streamsOf s.host s.device segments = []
  · exact hdemux.find_new hnew
  · exact hdemux.find_old hnew

end Step

/-- **Step lemma.** A segment finds the most recently opened stream of its pair, and that
stream is the only one that changes. -/
theorem Demultiplexed.processTCP {t : StreamTable π} {segments : List Segment}
    (hdemux : t.Demultiplexed segments) {outbound : Bool} {payload : Bytes}
    (hheader : 20 ≤ payload.length)
    (hnum : Numbered (segments ++ [Segment.parse outbound payload])) :
    (t.processTCP outbound payload).Demultiplexed (segments ++ [Segment.parse outbound payload]) ∧
      ∀ id, id ≠ targetId (Segment.parse outbound payload)
          (segments ++ [Segment.parse outbound payload]) →
        (t.processTCP outbound payload).streams[id]? = t.streams[id]? := by
  obtain ⟨hid, ⟨name, hfound⟩, hother, hindex⟩ := hdemux.find (s := Segment.parse outbound payload)
  rw [← hid] at hfound
  obtain ⟨hstreams, hkept⟩ := processTCP_streams t hheader hfound
  generalize Segment.parse outbound payload = s at *
  rw [hid, MuxStream.deliver_ofSegments] at hstreams
  have hlast := place_last (streamsOf s.host s.device segments) s
  rw [← streamsOf_snoc_own] at hlast
  have hrest : ∀ id, id ≠ targetId s (segments ++ [s]) →
      (t.processTCP outbound payload).streams[id]? = t.streams[id]? := by
    intro id hne
    rw [hstreams, Maps.getElem?_insert_ne hne, hother id hne]
  refine ⟨⟨?_, ?_, ?_⟩, hrest⟩
  · intro host device
    rw [hkept, hindex]
  · intro host device i own hi
    by_cases htarget : (s.host = host ∧ s.device = device) ∧
        i + 1 = (streamsOf s.host s.device (segments ++ [s])).length
    · obtain ⟨⟨rfl, rfl⟩, hi'⟩ := htarget
      refine ⟨name, ?_⟩
      rw [← hi', Nat.add_sub_cancel, hi] at hlast
      rw [Option.some.inj hlast.2, hi', hstreams]
      exact Std.ExtTreeMap.getElem?_insert_self
    · have hold : (streamsOf host device segments)[i]? = some own := by
        by_cases hpair : s.host = host ∧ s.device = device
        · obtain ⟨rfl, rfl⟩ := hpair
          rw [streamsOf_snoc_own] at hi htarget
          rw [← place_other (fun hlen => htarget ⟨⟨rfl, rfl⟩, hlen⟩), hi]
        · rw [← streamsOf_snoc_other segments hpair, hi]
      obtain ⟨name', hheld⟩ := hdemux.held host device i own hold
      refine ⟨name', ?_⟩
      rw [hrest, hheld]
      intro heq
      obtain ⟨rfl, rfl, hindex'⟩ := streamId_inj heq
      have hlt : i < (streamsOf s.host s.device (segments ++ [s])).length :=
        (List.getElem?_eq_some_iff.mp hi).1
      have hbound := hnum s.host s.device
      have hval := congrArg UInt32.toNat hindex'
      rw [UInt32.toNat_ofNat', UInt32.toNat_ofNat', Nat.mod_eq_of_lt (by omega),
        Nat.mod_eq_of_lt hbound] at hval
      exact htarget ⟨⟨rfl, rfl⟩, hval⟩
  · intro id hmem
    by_cases hne : id = targetId s (segments ++ [s])
    · refine ⟨s.host, s.device, (streamsOf s.host s.device (segments ++ [s])).length - 1, ?_, ?_⟩
      · omega
      · rw [hne, targetId, Nat.sub_add_cancel hlast.1]
    · have hold : id ∈ t.streams := by
        rw [Std.ExtTreeMap.mem_iff_isSome_getElem?] at hmem ⊢
        rwa [hrest id hne] at hmem
      obtain ⟨host, device, i, hi, rfl⟩ := hdemux.only id hold
      exact ⟨host, device, i,
        Nat.lt_of_lt_of_le hi (length_streamsOf_snoc host device segments s), rfl⟩

theorem demultiplexed_empty : ({} : StreamTable π).Demultiplexed [] := by
  refine ⟨?_, ?_, ?_⟩
  · intro host device
    exact Std.ExtTreeMap.getElem?_empty
  · intro host device i own hi
    cases hi
  · intro id hid
    exact absurd hid Std.ExtTreeMap.not_mem_empty

end StreamTable

/-! ## Runs -/

namespace USBMUXInterfaceExpert

variable {π : Type} [Libplist π]

/-- Hand over TCP packets, each with its direction. -/
def processPackets (e : USBMUXInterfaceExpert π) (packets : List (Bool × Bytes)) :
    USBMUXInterfaceExpert π :=
  packets.foldl (fun e p => e.processPacket p.1 muxProtoTcp p.2) e

def segmentsOf (packets : List (Bool × Bytes)) : List Segment :=
  packets.map (fun p => Segment.parse p.1 p.2)

theorem table_processPacket (e : USBMUXInterfaceExpert π) (outbound : Bool) (payload : Bytes) :
    (e.processPacket outbound muxProtoTcp payload).table = e.table.processTCP outbound payload := rfl

/-- **Run lemma.** -/
theorem demultiplexed_processPackets {e : USBMUXInterfaceExpert π} {segments : List Segment}
    (hdemux : e.table.Demultiplexed segments) (packets : List (Bool × Bytes))
    (hheader : ∀ p ∈ packets, 20 ≤ p.2.length)
    (hnum : StreamTable.Numbered (segments ++ segmentsOf packets)) :
    (e.processPackets packets).table.Demultiplexed (segments ++ segmentsOf packets) := by
  induction packets generalizing e segments with
  | nil => simpa [processPackets, segmentsOf] using hdemux
  | cons p packets ih =>
    have hsplit : segments ++ segmentsOf (p :: packets) =
        (segments ++ [Segment.parse p.1 p.2]) ++ segmentsOf packets := List.append_cons ..
    rw [hsplit] at hnum ⊢
    have hstep := (hdemux.processTCP (hheader p List.mem_cons_self) hnum.of_append).1
    rw [← table_processPacket] at hstep
    exact ih hstep (fun q hq => hheader q (List.mem_cons_of_mem _ hq)) hnum

/-- **Demultiplexing.** After any TCP packets, each port pair has the streams its own
segments open, each is what its own segments make of it, and a segment leaves every
stream alone but the most recently opened one of its pair. -/
theorem tcp_demultiplexed (e : USBMUXInterfaceExpert π) (hfresh : e.table = {})
    (packets : List (Bool × Bytes)) (hheader : ∀ p ∈ packets, 20 ≤ p.2.length)
    (hnum : StreamTable.Numbered (segmentsOf packets)) :
    (e.processPackets packets).table.Demultiplexed (segmentsOf packets) ∧
      ∀ before p after, packets = before ++ p :: after →
        ∀ id, id ≠ StreamTable.targetId (Segment.parse p.1 p.2) (segmentsOf (before ++ [p])) →
          (e.processPackets (before ++ [p])).table.streams[id]? =
            (e.processPackets before).table.streams[id]? := by
  have hstart : e.table.Demultiplexed [] := hfresh ▸ StreamTable.demultiplexed_empty
  refine ⟨demultiplexed_processPackets hstart packets hheader hnum, ?_⟩
  rintro before p after rfl id hid
  have hsplit : segmentsOf (before ++ p :: after) =
      (segmentsOf before ++ [Segment.parse p.1 p.2]) ++ segmentsOf after := by
    simp [segmentsOf]
  have hlast : segmentsOf (before ++ [p]) = segmentsOf before ++ [Segment.parse p.1 p.2] := by
    simp [segmentsOf]
  rw [hsplit] at hnum
  rw [hlast] at hid
  have hbefore := demultiplexed_processPackets hstart before
    (fun q hq => hheader q (List.mem_append_left _ hq)) hnum.of_append.of_append
  have hstep := (hbefore.processTCP
    (hheader p (List.mem_append_right _ List.mem_cons_self)) hnum.of_append).2 id hid
  rw [← table_processPacket] at hstep
  unfold processPackets at hstep ⊢
  rw [List.foldl_append]
  exact hstep

/-- A connection older than the capture, then a second one between the same ports. -/
theorem tcp_demultiplexed_example :
    let e : USBMUXInterfaceExpert Empty := { configuration := 1, interface := 1 }
    ∃ name, (e.processPackets
      [(false, [0xF2, 0x7E, 0xC0, 0, 0, 0, 0, 0, 0, 0, 0, 0, 0x50, 0x10, 2, 0, 0, 0, 0, 0, 1]),
        (true, [0xC0, 0, 0xF2, 0x7E, 0, 0, 0, 0, 0, 0, 0, 0, 0x50, 0x02, 2, 0, 0, 0, 0, 0]),
        (true, [0xC0, 0, 0xF2, 0x7E, 0, 0, 0, 0, 0, 0, 0, 0, 0x50, 0x11, 2, 0, 0, 0, 0, 0, 2])
      ]).table.streams[streamId 49152 62078 2]? = some (some (MuxStream.ofSegments 49152 62078 name
        [⟨true, 49152, 62078, true, false, []⟩, ⟨true, 49152, 62078, false, true, [2]⟩])) := by
  have h := tcp_demultiplexed (π := Empty) { configuration := 1, interface := 1 } rfl
    [(false, [0xF2, 0x7E, 0xC0, 0, 0, 0, 0, 0, 0, 0, 0, 0, 0x50, 0x10, 2, 0, 0, 0, 0, 0, 1]),
      (true, [0xC0, 0, 0xF2, 0x7E, 0, 0, 0, 0, 0, 0, 0, 0, 0x50, 0x02, 2, 0, 0, 0, 0, 0]),
      (true, [0xC0, 0, 0xF2, 0x7E, 0, 0, 0, 0, 0, 0, 0, 0, 0x50, 0x11, 2, 0, 0, 0, 0, 0, 2])]
    (by decide) (StreamTable.numbered_of_length (by decide))
  exact h.1.held 49152 62078 1 _ (by decide)

end USBMUXInterfaceExpert

end DemuxUsb
