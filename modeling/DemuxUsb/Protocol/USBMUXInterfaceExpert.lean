import Mathlib.Data.List.Basic
import DemuxUsb.Ext.Usbmux
import DemuxUsb.Protocol.InterfaceExpert
import DemuxUsb.Protocol.MuxStream

/-!
# `USBMUXInterfaceExpert`

The usbmux protocol on a pair of bulk endpoints: transfers are reassembled into usbmux
packets by the length in their header, and the TCP segments in the packets are handed to
the stream of their connection.

`StreamTable` groups the three maps `processTCP` works on. A null `shared_ptr`, which
`operator[]` leaves in a map it does not find a key in, is `none`.
-/

namespace DemuxUsb

open Endian

/-! ## Streams -/

/-- `STREAM_PORT` -/
def streamPort (host device : UInt16) : UInt32 := (host.toUInt32 <<< 16) ||| device.toUInt32

/-- `STREAM_ID` -/
def streamId (host device : UInt16) (index : UInt32) : UInt64 :=
  ((streamPort host device).toUInt64 <<< 32) ||| index.toUInt64

theorem streamPort_inj {host host' device device' : UInt16}
    (h : streamPort host device = streamPort host' device') : host = host' ∧ device = device' := by
  have hh := host.toNat_lt
  have hh' := host'.toNat_lt
  have hd := device.toNat_lt
  have hd' := device'.toNat_lt
  obtain ⟨hhost, hdevice⟩ := shiftLeft_or32_inj (k := 16) (by omega)
    (by rw [UInt16.toNat_toUInt32]; omega) (by rw [UInt16.toNat_toUInt32]; omega)
    (by rw [UInt16.toNat_toUInt32]; omega) (by rw [UInt16.toNat_toUInt32]; omega) h
  exact ⟨UInt16.toUInt32_inj.mp hhost, UInt16.toUInt32_inj.mp hdevice⟩

theorem streamId_inj {host host' device device' : UInt16} {index index' : UInt32}
    (h : streamId host device index = streamId host' device' index') :
    host = host' ∧ device = device' ∧ index = index' := by
  have hp := (streamPort host device).toNat_lt
  have hp' := (streamPort host' device').toNat_lt
  have hi := index.toNat_lt
  have hi' := index'.toNat_lt
  obtain ⟨hport, hindex⟩ := shiftLeft_or64_inj (k := 32) (by omega)
    (by rw [UInt32.toNat_toUInt64]; omega) (by rw [UInt32.toNat_toUInt64]; omega)
    (by rw [UInt32.toNat_toUInt64]; omega) (by rw [UInt32.toNat_toUInt64]; omega) h
  obtain ⟨hhost, hdevice⟩ := streamPort_inj (UInt32.toUInt64_inj.mp hport)
  exact ⟨hhost, hdevice, UInt32.toUInt64_inj.mp hindex⟩

/-- `LOCKDOWN_PORT` -/
def lockdownPort : UInt16 := 62078

/-- `"lockdownd"` -/
def lockdownServiceName : Bytes := [0x6C, 0x6F, 0x63, 0x6B, 0x64, 0x6F, 0x77, 0x6E, 0x64]

structure StreamTable (π : Type) where
  streamIndex : Std.ExtTreeMap UInt32 UInt32 := ∅
  streams : Std.ExtTreeMap UInt64 (Option (MuxStream π)) := ∅
  serviceNames : Std.ExtTreeMap UInt16 Bytes := ∅

namespace StreamTable

variable {π : Type}

/-- The service name a new stream starts with. -/
def serviceNameFor (t : StreamTable π) (device : UInt16) : Bytes :=
  if device = lockdownPort then lockdownServiceName else t.serviceNames[device]?.getD []

/-- The new stream and its id. -/
def beginStream (t : StreamTable π) (host device : UInt16) : StreamTable π × UInt64 :=
  let index := t.streamIndex[streamPort host device]?.getD 0 + 1
  let id := streamId host device index
  let stream : MuxStream π :=
    { host := host, device := device, serviceName := t.serviceNameFor device }
  ({ t with
      streamIndex := t.streamIndex.insert (streamPort host device) index
      streams := t.streams.insert id (some stream) }, id)

def getStreamId (t : StreamTable π) (host device : UInt16) : StreamTable π × UInt64 :=
  match t.streamIndex[streamPort host device]? with
  -- traffic for a connection opened before the capture started
  | none => t.beginStream host device
  | some index => (t, streamId host device index)

/-- `m_streams[id]`: a missing entry becomes a null pointer. -/
def touch (t : StreamTable π) (id : UInt64) : StreamTable π :=
  if id ∈ t.streams then t else { t with streams := t.streams.insert id none }

variable [Libplist π]

/-- One message of a stream to lockdownd. -/
def learnService (t : StreamTable π) (message : MuxMessage π) : StreamTable π :=
  if message.outbound then t
  else
    let service := message.stringValue "Service"
    let port := message.uintValue "Port"
    if service ≠ [] ∧ 0 < port ∧ port ≤ 65535 then
      { t with serviceNames := t.serviceNames.insert port.toUInt64.toUInt16 service }
    else t

/-- lockdownd answers StartService with the service name and the device port to connect
to. -/
def learnServices (t : StreamTable π) (stream : MuxStream π) (firstNewMessage : Nat) :
    StreamTable π :=
  if stream.device ≠ lockdownPort then t
  else (stream.messages.drop firstNewMessage).foldl learnService t

/-- `processTCP`. Calling a method of a null stream is undefined in the source; here
nothing more happens then. -/
def processTCP (t : StreamTable π) (outbound : Bool) (payload : Bytes) : StreamTable π :=
  match readStruct Tcphdr payload with
  | none => t
  | some tcpHeader =>
    let flags := tcpHeader.flags &&& 0x3F
    let dataOffset := (tcpHeader.flags >>> 12).toNat * 4
    let dataOffset :=
      if dataOffset < Layout.size Tcphdr ∨ payload.length < dataOffset then Layout.size Tcphdr
      else dataOffset
    let data := payload.drop dataOffset
    let found :=
      if outbound then
        -- the host is the source; a bare SYN from the host opens a new connection
        if flags &&& usbTcpFlagSyn ≠ 0 ∧ flags &&& usbTcpFlagAck = 0 then
          t.beginStream tcpHeader.source tcpHeader.dest
        else t.getStreamId tcpHeader.source tcpHeader.dest
      else t.getStreamId tcpHeader.dest tcpHeader.source
    let t := found.1.touch found.2
    match t.streams[found.2]?.join with
    | none => t
    | some stream =>
      let firstNew := stream.messages.length
      let fed :=
        if 0 < data.length then
          if outbound then stream.sendBytes data else stream.receiveBytes data
        else stream
      let t := if 0 < data.length then t.learnServices fed firstNew else t
      let closed := if flags &&& (usbTcpFlagRst ||| usbTcpFlagFin) ≠ 0 then fed.close else fed
      { t with streams := t.streams.insert found.2 (some closed) }

end StreamTable

/-! ## The expert -/

/-- The buffers are those of the two `Direction`s, whose `outbound` is fixed. -/
structure USBMUXInterfaceExpert (π : Type) extends InterfaceExpert where
  mIn : Bytes := []
  mOut : Bytes := []
  version : UInt32 := 0
  resyncs : UInt64 := 0
  table : StreamTable π := {}

namespace USBMUXInterfaceExpert

variable {π : Type}

/-- The usbmux v1 header: protocol and length. -/
def muxHeaderV1Size : Nat := 8

/-- Larger than any usbmux packet; anything bigger means framing was lost. -/
def maxMuxPacket : UInt32 := 1024 * 1024

def readBigEndian32 (data : Bytes) : UInt32 := be32 data 0

def buffer (e : USBMUXInterfaceExpert π) (outbound : Bool) : Bytes :=
  if outbound then e.mOut else e.mIn

def setBuffer (e : USBMUXInterfaceExpert π) (outbound : Bool) (buffer : Bytes) :
    USBMUXInterfaceExpert π :=
  if outbound then { e with mOut := buffer } else { e with mIn := buffer }

@[simp] theorem buffer_setBuffer (e : USBMUXInterfaceExpert π) (outbound : Bool) (b : Bytes) :
    (e.setBuffer outbound b).buffer outbound = b := by
  cases outbound <;> rfl

@[simp] theorem setBuffer_setBuffer (e : USBMUXInterfaceExpert π) (outbound : Bool)
    (b c : Bytes) : (e.setBuffer outbound b).setBuffer outbound c = e.setBuffer outbound c := by
  cases outbound <;> rfl

@[simp] theorem resyncs_setBuffer (e : USBMUXInterfaceExpert π) (outbound : Bool) (b : Bytes) :
    (e.setBuffer outbound b).resyncs = e.resyncs := by
  cases outbound <;> rfl

theorem setBuffer_buffer (e : USBMUXInterfaceExpert π) (outbound : Bool) :
    e.setBuffer outbound (e.buffer outbound) = e := by
  cases outbound <;> rfl

def processPacket [Libplist π] (e : USBMUXInterfaceExpert π) (outbound : Bool)
    (protocol : UInt32) (payload : Bytes) : USBMUXInterfaceExpert π :=
  if protocol = muxProtoVersion then
    if 4 ≤ payload.length then { e with version := readBigEndian32 payload } else e
  else if protocol = muxProtoTcp then { e with table := e.table.processTCP outbound payload }
  else e

/-- What the loop of `feed` works on: whatever `processPacket` changes, the buffer of the
direction and the resynchronisations. -/
structure FeedState (σ : Type) where
  expert : σ
  buffer : Bytes
  resyncs : UInt64
  deriving DecidableEq

/-- The loop of `feed`, for any `processPacket`. -/
def feedLoop {σ : Type} (processPacket : σ → UInt32 → Bytes → σ) (s : FeedState σ) :
    FeedState σ :=
  if s.buffer.length < muxHeaderV1Size then s
  else
    let protocol := readBigEndian32 s.buffer
    let length := readBigEndian32 (s.buffer.drop 4)
    if length.toNat < muxHeaderV1Size ∨ maxMuxPacket < length ∨ muxProtoTcp < protocol then
      -- lost framing: discard and wait for a fresh packet
      { s with buffer := [], resyncs := s.resyncs + 1 }
    else
      let peek := min length.toNat muxHeaderSize
      if s.buffer.length < peek then s
      else
        -- a v2 header carries the magic
        let magic := readBigEndian32 (s.buffer.drop muxMagicOffset)
        let headerLength :=
          if muxHeaderSize ≤ length.toNat ∧ (magic = usbmuxMagicIn ∨ magic = usbmuxMagicOut) then
            muxHeaderSize
          else muxHeaderV1Size
        if s.buffer.length < length.toNat then s
        else
          let payload := (s.buffer.drop headerLength).take (length.toNat - headerLength)
          feedLoop processPacket
            { s with
              expert := processPacket s.expert protocol payload
              buffer := s.buffer.drop length.toNat }
termination_by s.buffer.length
decreasing_by
  rename_i hlen hlost _ _
  have hbuffer : 8 ≤ s.buffer.length := Nat.not_lt.mp hlen
  have hlength : 8 ≤ (readBigEndian32 (s.buffer.drop 4)).toNat :=
    Nat.not_lt.mp (not_or.mp hlost).1
  rw [List.length_drop]
  omega

/-- `feed`, for any `processPacket`. -/
def feedInto {σ : Type} (processPacket : σ → UInt32 → Bytes → σ) (s : FeedState σ)
    (data : Bytes) : FeedState σ :=
  if data.length = 0 then s
  else feedLoop processPacket { s with buffer := s.buffer ++ data }

/-- The loop discards the buffer, or takes a packet off it, until it can do neither. -/
theorem feedLoop_induction {σ : Type} {processPacket : σ → UInt32 → Bytes → σ}
    {motive : FeedState σ → Prop}
    (discard : ∀ s, motive s → motive { s with buffer := [], resyncs := s.resyncs + 1 })
    (packet : ∀ s protocol payload length, payload.length ≤ length → length ≤ s.buffer.length →
      motive s → motive { s with expert := processPacket s.expert protocol payload,
                                 buffer := s.buffer.drop length })
    (s : FeedState σ) (h : motive s) : motive (feedLoop processPacket s) := by
  fun_induction feedLoop processPacket s with
  | case1 s hfew => exact h
  | case2 s hfew protocol length hlost => exact discard s h
  | case3 s hfew protocol length hlost peek hpeek => exact h
  | case4 s hfew protocol length hlost peek hpeek hlength => exact h
  | case5 s hfew protocol length hlost peek hpeek magic headerLength hlength payload ih =>
    refine ih (packet s protocol payload length.toNat ?_ (Nat.not_lt.mp hlength) h)
    exact Nat.le_trans (List.length_take_le _ _) (Nat.sub_le _ _)

/-- What `processPacket` keeps, `feed` keeps. -/
theorem feedInto_induction {σ : Type} {processPacket : σ → UInt32 → Bytes → σ}
    {motive : σ → Prop}
    (step : ∀ e protocol payload, motive e → motive (processPacket e protocol payload))
    (s : FeedState σ) (data : Bytes) (h : motive s.expert) :
    motive (feedInto processPacket s data).expert := by
  unfold feedInto
  split
  · exact h
  · apply feedLoop_induction (motive := fun s => motive s.expert)
    · exact fun s hs => hs
    · exact fun s protocol payload _ _ _ hs => step _ _ _ hs
    · exact h

variable [Libplist π]

def feed (e : USBMUXInterfaceExpert π) (outbound : Bool) (data : Bytes) :
    USBMUXInterfaceExpert π :=
  let s := feedInto (fun e => e.processPacket outbound) ⟨e, e.buffer outbound, e.resyncs⟩ data
  { s.expert.setBuffer outbound s.buffer with resyncs := s.resyncs }

/-- What `processTCP` keeps, `feed` keeps. -/
theorem feed_table {motive : StreamTable π → Prop}
    (step : ∀ t outbound payload, motive t → motive (t.processTCP outbound payload))
    {e : USBMUXInterfaceExpert π} (h : motive e.table) (outbound : Bool) (data : Bytes) :
    motive (e.feed outbound data).table := by
  have hpacket : ∀ (e : USBMUXInterfaceExpert π) protocol payload, motive e.table →
      motive (e.processPacket outbound protocol payload).table := by
    intro e protocol payload he
    unfold processPacket
    split
    · split
      · exact he
      · exact he
    split
    · exact step _ _ _ he
    · exact he
  have hfed := feedInto_induction hpacket ⟨e, e.buffer outbound, e.resyncs⟩ data h
  unfold feed
  cases outbound with
  | true => exact hfed
  | false => exact hfed

def processBulkOut (e : USBMUXInterfaceExpert π) (data : Bytes) : USBMUXInterfaceExpert π :=
  feed { e with toInterfaceExpert := e.toInterfaceExpert.processBulkOut data } true data

def processBulkIn (e : USBMUXInterfaceExpert π) (data : Bytes) : USBMUXInterfaceExpert π :=
  feed { e with toInterfaceExpert := e.toInterfaceExpert.processBulkIn data } false data

end USBMUXInterfaceExpert

end DemuxUsb
