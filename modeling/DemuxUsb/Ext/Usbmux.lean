import DemuxUsb.Base

/-!
# `usbmux.h`

The headers of usbmux packets and of the TCP segments in them. Their fields travel in
network byte order; the layout of `Tcphdr` includes the conversion to host order.
-/

namespace DemuxUsb

open Endian

def usbmuxMagicIn : UInt32 := 0xFACEFACE
def usbmuxMagicOut : UInt32 := 0xFEEDFACE

def usbTcpFlagFin : UInt16 := 0x01
def usbTcpFlagSyn : UInt16 := 0x02
def usbTcpFlagRst : UInt16 := 0x04
def usbTcpFlagAck : UInt16 := 0x10

def muxProtoVersion : UInt32 := 0
def muxProtoTcp : UInt32 := 6

/-- `sizeof(mux_header)`: protocol, length, magic and two sequence numbers. -/
def muxHeaderSize : Nat := 16

/-- `offsetof(mux_header, magic)` -/
def muxMagicOffset : Nat := 8

structure Tcphdr where
  source : UInt16
  dest : UInt16
  seq : UInt32
  ackSeq : UInt32
  flags : UInt16
  window : UInt16
  check : UInt16
  urgPtr : UInt16
  deriving DecidableEq

instance : Layout Tcphdr where
  size := 20
  decode b := ⟨be16 b 0, be16 b 2, be32 b 4, be32 b 8, be16 b 12, be16 b 14, be16 b 16, be16 b 18⟩
  encode t := be16Bytes t.source ++ (be16Bytes t.dest ++ (be32Bytes t.seq ++ (be32Bytes t.ackSeq ++
    (be16Bytes t.flags ++ (be16Bytes t.window ++ (be16Bytes t.check ++ be16Bytes t.urgPtr))))))
  length_encode t := by simp
  decode_encode t := by simp [be16_append_right, be32_append_right]

end DemuxUsb
