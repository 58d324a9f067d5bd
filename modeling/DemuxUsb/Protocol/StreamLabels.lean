import DemuxUsb.Protocol.ServiceNames

/-!
# The ids of streams

The streams of a table are held under ids that are made from their ports, and nothing but
streams is held: no entry is the null pointer that `operator[]` would leave.
-/

namespace DemuxUsb

variable {π : Type}

namespace StreamTable

/-- Every entry is a stream under an id of its ports. -/
def Labelled (t : StreamTable π) : Prop :=
  ∀ (id : UInt64) (entry : Option (MuxStream π)), t.streams[id]? = some entry →
    ∃ stream index, entry = some stream ∧ id = streamId stream.host stream.device index

theorem labelled_empty : ({} : StreamTable π).Labelled := by
  intro id entry hentry
  rw [Std.ExtTreeMap.getElem?_empty] at hentry
  cases hentry

section Step

variable {t t' : StreamTable π}

theorem Labelled.insert (h : t.Labelled) {id : UInt64} (stream : MuxStream π) (index : UInt32)
    (hid : id = streamId stream.host stream.device index)
    (hstreams : t'.streams = t.streams.insert id (some stream)) : t'.Labelled := by
  intro id' entry hentry
  rw [hstreams] at hentry
  by_cases hne : id' = id
  · rw [hne, Std.ExtTreeMap.getElem?_insert_self] at hentry
    exact ⟨stream, index, (Option.some.inj hentry).symm, hne.trans hid⟩
  · rw [Maps.getElem?_insert_ne hne] at hentry
    exact h id' entry hentry

theorem Labelled.beginStream (h : t.Labelled) (host device : UInt16) :
    (t.beginStream host device).1.Labelled :=
  h.insert { host := host, device := device, serviceName := t.serviceNameFor device }
    (t.streamIndex[streamPort host device]?.getD 0 + 1) rfl rfl

theorem Labelled.find (h : t.Labelled) (s : Segment) : (t.find s).1.Labelled := by
  rcases t.find_cases s with hfind | hfind
  · rw [hfind]
    exact h.beginStream s.host s.device
  · rw [hfind]
    exact h

variable [Libplist π]

/-- **Step lemma.** -/
theorem Labelled.processTCP (h : t.Labelled) {log : List (UInt16 × MuxMessage π)}
    (hlearned : t.Learned log) (outbound : Bool) (payload : Bytes) :
    (t.processTCP outbound payload).Labelled := by
  by_cases hshort : payload.length < 20
  · rw [processTCP_of_short t hshort]
    exact h
  obtain ⟨stream, hstream, -⟩ := hlearned.find (Segment.parse outbound payload)
  obtain ⟨hstreams, -⟩ := processTCP_streams t (Nat.not_lt.mp hshort) hstream
  have hfind := h.find (Segment.parse outbound payload)
  obtain ⟨_, index, hentry, hid⟩ := hfind _ _ hstream
  obtain rfl := Option.some.inj hentry
  obtain ⟨hhost, hdevice, -⟩ := stream.deliver_keeps (Segment.parse outbound payload)
  apply hfind.insert _ index _ hstreams
  rw [hid, hhost, hdevice]

end Step

section Run

variable [Libplist π]

/-- Every port pair that is known has a stream, and every stream an id of its ports. -/
structure Consistent (t : StreamTable π) : Prop where
  known : ∃ log, t.Learned log
  labelled : t.Labelled

theorem consistent_empty : ({} : StreamTable π).Consistent :=
  ⟨⟨[], learned_empty⟩, labelled_empty⟩

theorem Consistent.processTCP {t : StreamTable π} (h : t.Consistent) (outbound : Bool)
    (payload : Bytes) : (t.processTCP outbound payload).Consistent := by
  obtain ⟨log, hlearned⟩ := h.known
  exact ⟨⟨_, hlearned.processTCP (outbound, payload)⟩, h.labelled.processTCP hlearned _ _⟩

/-- **Run lemma**: transfers keep the table consistent. -/
theorem Consistent.feed {e : USBMUXInterfaceExpert π} (h : e.table.Consistent) (outbound : Bool)
    (data : Bytes) : (e.feed outbound data).table.Consistent :=
  USBMUXInterfaceExpert.feed_table (fun _ outbound payload ht => ht.processTCP outbound payload)
    h outbound data

end Run

end StreamTable

end DemuxUsb
