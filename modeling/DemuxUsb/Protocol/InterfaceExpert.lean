import DemuxUsb.Ext.Usb

/-!
# `InterfaceExpert`

The counters every expert keeps of the traffic it is handed.
-/

namespace DemuxUsb

structure InterfaceExpert where
  configuration : UInt8
  interface : UInt8
  controlPackets : UInt32 := 0
  packets : UInt32 := 0
  controlBytes : UInt64 := 0
  bytes : UInt64 := 0
  deriving DecidableEq

namespace InterfaceExpert

def processControlOut (e : InterfaceExpert) (_setup : UsbSetup) (data : Bytes) :
    InterfaceExpert :=
  { e with controlPackets := e.controlPackets + 1
           controlBytes := e.controlBytes + UInt64.ofNat data.length }

def processControlIn (e : InterfaceExpert) (_setup : UsbSetup) (data : Bytes) :
    InterfaceExpert :=
  { e with controlPackets := e.controlPackets + 1
           controlBytes := e.controlBytes + UInt64.ofNat data.length }

def processBulkOut (e : InterfaceExpert) (data : Bytes) : InterfaceExpert :=
  { e with packets := e.packets + 1, bytes := e.bytes + UInt64.ofNat data.length }

def processBulkIn (e : InterfaceExpert) (data : Bytes) : InterfaceExpert :=
  { e with packets := e.packets + 1, bytes := e.bytes + UInt64.ofNat data.length }

end InterfaceExpert

end DemuxUsb
