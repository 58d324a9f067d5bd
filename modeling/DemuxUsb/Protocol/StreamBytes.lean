import DemuxUsb.Library.Totals
import DemuxUsb.Protocol.ServiceNames

/-!
# The bytes of an expert and of its streams

A byte that a USBMUX expert is handed waits in a reassembly buffer, is counted by one
direction of one stream, or is dropped. `held` sums up the first two. A transfer adds at
most its own bytes to it (`held_feed`), whatever is resynchronised, reconnected or cut short
on the way.
-/

namespace DemuxUsb

variable {π : Type}

theorem toNat_add_ofNat_le (a : UInt64) (n : Nat) : (a + UInt64.ofNat n).toNat ≤ a.toNat + n := by
  rw [UInt64.toNat_add, UInt64.toNat_ofNat']
  have hn := Nat.mod_le n (2 ^ 64)
  have hsum := Nat.mod_le (a.toNat + n % 2 ^ 64) (2 ^ 64)
  omega

/-! ## Streams -/

namespace MuxStream

def getBytesIn (stream : MuxStream π) : UInt64 := stream.mIn.bytes
def getBytesOut (stream : MuxStream π) : UInt64 := stream.mOut.bytes

/-- The bytes in plus the bytes out. -/
def carried (stream : MuxStream π) : Nat := stream.getBytesIn.toNat + stream.getBytesOut.toNat

variable [Libplist π]

theorem carried_pass (stream : MuxStream π) (outbound : Bool) (data : Bytes) :
    (stream.pass outbound data).carried ≤ stream.carried + data.length := by
  unfold carried
  cases outbound with
  | true =>
    have hin : (stream.pass true data).getBytesIn = stream.getBytesIn := rfl
    have hout : (stream.pass true data).getBytesOut =
        stream.getBytesOut + UInt64.ofNat data.length := consume_bytes _ _ _
    have hle := toNat_add_ofNat_le stream.getBytesOut data.length
    rw [hin, hout]
    omega
  | false =>
    have hin : (stream.pass false data).getBytesIn =
        stream.getBytesIn + UInt64.ofNat data.length := consume_bytes _ _ _
    have hout : (stream.pass false data).getBytesOut = stream.getBytesOut := rfl
    have hle := toNat_add_ofNat_le stream.getBytesIn data.length
    rw [hin, hout]
    omega

theorem carried_deliver (stream : MuxStream π) (s : Segment) :
    (stream.deliver s).carried ≤ stream.carried + s.data.length := by
  have hpass := stream.carried_pass s.outbound s.data
  unfold deliver
  split
  · exact hpass
  · exact hpass

end MuxStream

/-! ## The table -/

namespace StreamTable

/-- The bytes in plus the bytes out of an entry; a null pointer has none. -/
def entryBytes (entry : Option (MuxStream π)) : Nat := (entry.map MuxStream.carried).getD 0

/-- The bytes in plus the bytes out of all streams. -/
def carried (t : StreamTable π) : Nat := Totals.total entryBytes t.streams

/-- A new stream has no bytes; one that it replaces takes its bytes along. -/
theorem carried_beginStream (t : StreamTable π) (host device : UInt16) :
    (t.beginStream host device).1.carried ≤ t.carried := by
  have hinsert : ∀ (id : UInt64) (stream : MuxStream π), stream.carried = 0 →
      Totals.total entryBytes (t.streams.insert id (some stream)) ≤ t.carried := by
    intro id stream hstream
    have hentry : entryBytes (some stream) = 0 := hstream
    cases hold : t.streams[id]? with
    | none =>
      rw [Totals.total_insert_of_none entryBytes hold, hentry, Nat.zero_add]
      exact Nat.le_refl _
    | some old =>
      have hsum := Totals.total_insert_of_some entryBytes hold (some stream)
      rw [hentry, Nat.zero_add] at hsum
      rw [carried, ← hsum]
      exact Nat.le_add_left _ _
  exact hinsert _ _ rfl

theorem carried_find (t : StreamTable π) (s : Segment) : (t.find s).1.carried ≤ t.carried := by
  rcases t.find_cases s with hfind | hfind
  · rw [hfind]
    exact t.carried_beginStream s.host s.device
  · rw [hfind]

theorem length_data_le (outbound : Bool) (payload : Bytes) :
    (Segment.parse outbound payload).data.length ≤ payload.length := by
  unfold Segment.parse
  rw [List.length_drop]
  exact Nat.sub_le _ _

variable [Libplist π]

/-- **Step lemma.** A packet adds at most its payload. -/
theorem carried_processTCP {t : StreamTable π} {log : List (UInt16 × MuxMessage π)}
    (h : t.Learned log) (outbound : Bool) (payload : Bytes) :
    (t.processTCP outbound payload).carried ≤ t.carried + payload.length := by
  by_cases hshort : payload.length < 20
  · rw [processTCP_of_short t hshort]
    exact Nat.le_add_right _ _
  obtain ⟨stream, hstream, -⟩ := h.find (Segment.parse outbound payload)
  have hfind := t.carried_find (Segment.parse outbound payload)
  have hdata := length_data_le outbound payload
  have hdeliver := stream.carried_deliver (Segment.parse outbound payload)
  obtain ⟨hstreams, -⟩ := processTCP_streams t (Nat.not_lt.mp hshort) hstream
  have hsum := Totals.total_insert_of_some entryBytes hstream
    (some (stream.deliver (Segment.parse outbound payload)))
  rw [← hstreams] at hsum
  change stream.carried + (t.processTCP outbound payload).carried =
    (stream.deliver (Segment.parse outbound payload)).carried +
      (t.find (Segment.parse outbound payload)).1.carried at hsum
  omega

end StreamTable

/-! ## The expert -/

namespace USBMUXInterfaceExpert

/-- What the streams count and what waits in the two reassembly buffers. -/
def held (e : USBMUXInterfaceExpert π) : Nat := e.table.carried + e.mIn.length + e.mOut.length

theorem held_eq (e : USBMUXInterfaceExpert π) (outbound : Bool) :
    e.held = e.table.carried + (e.buffer outbound).length + (e.buffer (!outbound)).length := by
  cases outbound with
  | true => exact Nat.add_right_comm _ _ _
  | false => rfl

/-- Every port pair that is known has a stream. -/
def Known [Libplist π] (e : USBMUXInterfaceExpert π) : Prop := ∃ log, e.table.Learned log

variable [Libplist π]

/-- What a packet leaves alone, and what it adds. -/
theorem processPacket_bytes {e : USBMUXInterfaceExpert π} (h : e.Known) (outbound : Bool)
    (protocol : UInt32) (payload : Bytes) :
    (e.processPacket outbound protocol payload).Known ∧
      (∀ side, (e.processPacket outbound protocol payload).buffer side = e.buffer side) ∧
      (e.processPacket outbound protocol payload).table.carried ≤
        e.table.carried + payload.length := by
  obtain ⟨log, hlearned⟩ := h
  unfold processPacket
  split
  · split
    · exact ⟨⟨log, hlearned⟩, fun _ => rfl, Nat.le_add_right _ _⟩
    · exact ⟨⟨log, hlearned⟩, fun _ => rfl, Nat.le_add_right _ _⟩
  split
  · exact ⟨⟨_, hlearned.processTCP (outbound, payload)⟩, fun _ => rfl,
      StreamTable.carried_processTCP hlearned outbound payload⟩
  · exact ⟨⟨log, hlearned⟩, fun _ => rfl, Nat.le_add_right _ _⟩

/-- What holds while a transfer on one side is taken apart: the other side keeps its buffer,
and what is counted by the streams or still in the buffer is at most `n`. -/
structure Feeding (e : USBMUXInterfaceExpert π) (outbound : Bool) (n : Nat)
    (s : FeedState (USBMUXInterfaceExpert π)) : Prop where
  known : s.expert.Known
  other : s.expert.buffer (!outbound) = e.buffer (!outbound)
  bytes : s.expert.table.carried + s.buffer.length ≤ n

section Feeding

variable {e : USBMUXInterfaceExpert π} {outbound : Bool} {n : Nat}
  {s : FeedState (USBMUXInterfaceExpert π)}

/-- **Step lemma.** A packet leaves the buffer, and its streams count no more than that. -/
theorem Feeding.packet (h : Feeding e outbound n s) (protocol : UInt32) {payload : Bytes}
    {length : Nat} (hpayload : payload.length ≤ length) (hlength : length ≤ s.buffer.length) :
    Feeding e outbound n
      { s with expert := s.expert.processPacket outbound protocol payload
               buffer := s.buffer.drop length } := by
  obtain ⟨hknown, hbuffer, hadded⟩ := processPacket_bytes h.known outbound protocol payload
  refine ⟨hknown, (hbuffer _).trans h.other, ?_⟩
  have hbytes := h.bytes
  dsimp only
  rw [List.length_drop]
  omega

/-- **Run lemma** of the loop. -/
theorem Feeding.feedLoop (h : Feeding e outbound n s) :
    Feeding e outbound n (feedLoop (fun e => e.processPacket outbound) s) := by
  apply feedLoop_induction (motive := Feeding e outbound n)
  · intro s hs
    exact ⟨hs.known, hs.other, Nat.le_trans (Nat.add_le_add_left (Nat.zero_le _) _) hs.bytes⟩
  · intro s protocol payload length hpayload hlength hs
    exact hs.packet protocol hpayload hlength
  · exact h

theorem Feeding.feedInto (h : Feeding e outbound n s) (data : Bytes) :
    Feeding e outbound (n + data.length)
      (feedInto (fun e => e.processPacket outbound) s data) := by
  have hbytes := h.bytes
  unfold USBMUXInterfaceExpert.feedInto
  split
  · exact ⟨h.known, h.other, Nat.le_trans hbytes (Nat.le_add_right _ _)⟩
  · apply Feeding.feedLoop
    refine ⟨h.known, h.other, ?_⟩
    dsimp only
    rw [List.length_append]
    omega

end Feeding

/-- A transfer adds at most its own bytes. -/
theorem held_feed {e : USBMUXInterfaceExpert π} (h : e.Known) (outbound : Bool) (data : Bytes) :
    (e.feed outbound data).Known ∧ (e.feed outbound data).held ≤ e.held + data.length := by
  have hstart : Feeding e outbound (e.table.carried + (e.buffer outbound).length)
      ⟨e, e.buffer outbound, e.resyncs⟩ := ⟨h, rfl, Nat.le_refl _⟩
  obtain ⟨⟨log, hlearned⟩, hother, hbytes⟩ := hstart.feedInto data
  unfold feed
  generalize feedInto (fun e => e.processPacket outbound) ⟨e, e.buffer outbound, e.resyncs⟩ data =
    s at *
  constructor
  · refine ⟨log, ?_⟩
    cases outbound with
    | true => exact hlearned
    | false => exact hlearned
  · have hheld : ({ s.expert.setBuffer outbound s.buffer with resyncs := s.resyncs } :
        USBMUXInterfaceExpert π).held =
        s.expert.table.carried + s.buffer.length + (s.expert.buffer (!outbound)).length := by
      rw [held_eq _ outbound]
      cases outbound with
      | true => rfl
      | false => rfl
    rw [hheld, hother, e.held_eq outbound]
    omega

end USBMUXInterfaceExpert

end DemuxUsb
