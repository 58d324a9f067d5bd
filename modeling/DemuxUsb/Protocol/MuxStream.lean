import DemuxUsb.Base

/-!
# `MuxStream`

A TCP connection tunnelled over usbmux. Each direction starts with an unknown framing,
which is decided on the first bytes: property lists prefixed with a big endian 32 bit
length, TLS records, or anything else (`raw`).

libplist is outside the program. `Libplist π` is what the program calls of it, for any
type `π` of property list nodes; nothing is assumed about these functions.
-/

namespace DemuxUsb

open Endian

/-! ## libplist -/

inductive PlistType where
  | dict
  | string
  | uint
  | other
  deriving DecidableEq

/-- The libplist calls of the program. A null node is `none`. -/
class Libplist (π : Type) where
  plistFromBin : Bytes → Option π
  plistFromXml : Bytes → Option π
  plistGetNodeType : π → PlistType
  plistDictGetItem : π → String → Option π
  plistGetStringPtr : π → Option Bytes
  plistGetUintVal : π → UInt64

/-- A libplist that decodes nothing, as the real one does on bytes that are no plist. -/
instance : Libplist Empty where
  plistFromBin _ := none
  plistFromXml _ := none
  plistGetNodeType := Empty.elim
  plistDictGetItem node _ := node.elim
  plistGetStringPtr := Empty.elim
  plistGetUintVal := Empty.elim

/-! ## Messages and streams -/

inductive StreamEncoding where
  | unknown
  | plist
  | raw
  | tls
  deriving DecidableEq

/-- One deserialized property list message. `outbound` is host to device. -/
structure MuxMessage (π : Type) where
  outbound : Bool
  size : UInt32
  plist : Option π
  deriving DecidableEq

namespace MuxStream

structure Direction where
  outbound : Bool
  encoding : StreamEncoding := .unknown
  bytes : UInt64 := 0
  buffer : Bytes := []
  deriving DecidableEq

end MuxStream

/-- A TCP connection between a host port and a device port. -/
structure MuxStream (π : Type) where
  host : UInt16
  device : UInt16
  closed : Bool := false
  serviceName : Bytes := []
  mIn : MuxStream.Direction := { outbound := false }
  mOut : MuxStream.Direction := { outbound := true }
  messages : List (MuxMessage π) := []
  deriving DecidableEq

/-! ## Message fields -/

namespace MuxMessage

variable {π : Type} [Libplist π]

open Libplist

/-- The string value of a top level dictionary key, or an empty string. -/
def stringValue (message : MuxMessage π) (key : String) : Bytes :=
  match message.plist with
  | none => []
  | some plist =>
    if plistGetNodeType plist ≠ .dict then [] else
      match plistDictGetItem plist key with
      | none => []
      | some item => if plistGetNodeType item ≠ .string then [] else (plistGetStringPtr item).getD []

/-- The unsigned integer value of a top level dictionary key, or -1. -/
def uintValue (message : MuxMessage π) (key : String) : Int64 :=
  match message.plist with
  | none => -1
  | some plist =>
    if plistGetNodeType plist ≠ .dict then -1 else
      match plistDictGetItem plist key with
      | none => -1
      | some item => if plistGetNodeType item ≠ .uint then -1 else (plistGetUintVal item).toInt64

end MuxMessage

/-! ## Framing -/

namespace MuxStream

variable {π : Type}

/-- Messages larger than this are not plausible service messages. -/
def maxPlistMessage : UInt32 := 64 * 1024 * 1024

/-- `"<?xml"` -/
def xmlPlistPrefix : Bytes := [0x3C, 0x3F, 0x78, 0x6D, 0x6C]

/-- `"bplist00"` -/
def binaryPlistPrefix : Bytes := [0x62, 0x70, 0x6C, 0x69, 0x73, 0x74, 0x30, 0x30]

/-- `length` of the bytes at `data` may be looked at. -/
def startsWith (data : Bytes) (length : Nat) (signature : Bytes) : Bool :=
  decide (signature.length ≤ length) && data.take signature.length == signature

/-- TLS record: handshake (0x16) or application data (0x17), version 3.x. -/
def looksLikeTLS (buffer : Bytes) : Bool :=
  decide (3 ≤ buffer.length) && (u8 buffer 0 == 0x16 || u8 buffer 0 == 0x17) &&
    u8 buffer 1 == 0x03 && decide (u8 buffer 2 ≤ 0x04)

def readBigEndian32 (data : Bytes) : UInt32 := be32 data 0

/-- The call of libplist that decodes one message. -/
def decodePlist [Libplist π] (payload : Bytes) (size : Nat) : Option π :=
  if startsWith payload size binaryPlistPrefix then Libplist.plistFromBin (payload.take size)
  else Libplist.plistFromXml (payload.take size)

/-- The loop of `drain`: it ends when the buffer holds no further message, or when the
direction turns out not to be length framed. -/
def drain [Libplist π] (direction : Direction) (messages : List (MuxMessage π)) :
    Direction × List (MuxMessage π) :=
  if direction.buffer.length < 4 then (direction, messages)
  else if looksLikeTLS direction.buffer then
    ({ direction with encoding := .tls, buffer := [] }, messages)
  else
    let size := readBigEndian32 direction.buffer
    if size = 0 ∨ maxPlistMessage < size then
      ({ direction with encoding := .raw, buffer := [] }, messages)
    else
      let payload := direction.buffer.drop 4
      let available := direction.buffer.length - 4
      let needed := min size.toNat binaryPlistPrefix.length
      -- enough of the first message has to be there to see the plist signature
      if direction.encoding = .unknown ∧ available < needed then (direction, messages)
      else if direction.encoding = .unknown ∧
          (startsWith payload available xmlPlistPrefix ||
            startsWith payload available binaryPlistPrefix) = false then
        ({ direction with encoding := .raw, buffer := [] }, messages)
      else
        let encoding :=
          if direction.encoding = .unknown then StreamEncoding.plist else direction.encoding
        if available < size.toNat then ({ direction with encoding := encoding }, messages)
        else
          drain
            { direction with
              encoding := encoding
              buffer := direction.buffer.drop (4 + size.toNat) }
            (messages ++ [⟨direction.outbound, size, decodePlist payload size.toNat⟩])
termination_by direction.buffer.length
decreasing_by
  simp only [List.length_drop]
  omega

def consume [Libplist π] (direction : Direction) (messages : List (MuxMessage π))
    (data : Bytes) : Direction × List (MuxMessage π) :=
  let direction := { direction with bytes := direction.bytes + UInt64.ofNat data.length }
  if data.length = 0 then (direction, messages)
  else if direction.encoding = .raw ∨ direction.encoding = .tls then (direction, messages)
  else drain { direction with buffer := direction.buffer ++ data } messages

/-- Device to host bytes. -/
def receiveBytes [Libplist π] (stream : MuxStream π) (data : Bytes) : MuxStream π :=
  let r := consume stream.mIn stream.messages data
  { stream with mIn := r.1, messages := r.2 }

/-- Host to device bytes. -/
def sendBytes [Libplist π] (stream : MuxStream π) (data : Bytes) : MuxStream π :=
  let r := consume stream.mOut stream.messages data
  { stream with mOut := r.1, messages := r.2 }

def close (stream : MuxStream π) : MuxStream π := { stream with closed := true }

end MuxStream

end DemuxUsb
