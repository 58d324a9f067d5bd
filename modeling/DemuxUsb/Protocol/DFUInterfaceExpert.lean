import DemuxUsb.Protocol.InterfaceExpert

/-!
# `DFUInterfaceExpert`

The DFU 1.1 class protocol: DNLOAD requests are reassembled into images, the device state
is followed from GETSTATUS and GETSTATE, and irregularities are recorded.
-/

namespace DemuxUsb

open Endian

def dfuDetach : UInt8 := 0
def dfuDnload : UInt8 := 1
def dfuUpload : UInt8 := 2
def dfuGetstatus : UInt8 := 3
def dfuClrstatus : UInt8 := 4
def dfuGetstate : UInt8 := 5
def dfuAbort : UInt8 := 6

structure DFUInterfaceExpert extends InterfaceExpert where
  transferSize : UInt16 := 0
  images : List Bytes := []
  currentImage : Bytes := []
  uploadBytes : UInt64 := 0
  requestCounts : Std.ExtTreeMap UInt8 UInt32 := ∅
  anomalies : List String := []
  lastState : Int := -1
  lastStatus : Int := -1
  deriving DecidableEq

namespace DFUInterfaceExpert

def requestName (request : UInt8) : String :=
  if request = dfuDetach then "DETACH"
  else if request = dfuDnload then "DNLOAD"
  else if request = dfuUpload then "UPLOAD"
  else if request = dfuGetstatus then "GETSTATUS"
  else if request = dfuClrstatus then "CLRSTATUS"
  else if request = dfuGetstate then "GETSTATE"
  else if request = dfuAbort then "ABORT"
  else "UNKNOWN"

def anomaly (e : DFUInterfaceExpert) (description : String) : DFUInterfaceExpert :=
  { e with anomalies := e.anomalies ++ [description] }

/-- `m_requestCounts[setup.bRequest]++` -/
def countRequest (e : DFUInterfaceExpert) (request : UInt8) : DFUInterfaceExpert :=
  { e with
    requestCounts := e.requestCounts.insert request (e.requestCounts[request]?.getD 0 + 1) }

/-- The image downloaded so far is over. -/
def pushImage (e : DFUInterfaceExpert) : DFUInterfaceExpert :=
  { e with images := e.images ++ [e.currentImage], currentImage := [] }

def processControlOut (e : DFUInterfaceExpert) (setup : UsbSetup) (data : Bytes) :
    DFUInterfaceExpert :=
  let e := { e with toInterfaceExpert := e.toInterfaceExpert.processControlOut setup data }
  if setup.bmRequestType &&& usbTypeMask ≠ usbTypeClass then e
  else
    let e := e.countRequest setup.bRequest
    let e :=
      if data.length ≠ setup.wLength.toNat then
        e.anomaly s!"{requestName setup.bRequest} carried {data.length} bytes but wLength was {setup.wLength.toNat}"
      else e
    if setup.bRequest = dfuDnload then
      if setup.wLength = 0 then
        -- a zero length download moves the device to manifestation, completing the image
        if e.currentImage ≠ [] then e.pushImage else e
      else
        let e :=
          if e.transferSize ≠ 0 ∧ e.transferSize < setup.wLength then
            e.anomaly s!"DNLOAD of {setup.wLength.toNat} bytes exceeds wTransferSize {e.transferSize.toNat}"
          else e
        { e with currentImage := e.currentImage ++ data }
    else if setup.bRequest = dfuAbort then
      if e.currentImage ≠ [] then
        (e.anomaly s!"ABORT after a partial download of {e.currentImage.length} bytes").pushImage
      else e
    else if setup.bRequest = dfuDetach ∨ setup.bRequest = dfuClrstatus then e
    else e.anomaly s!"Unexpected class OUT request 0x{hexText 2 setup.bRequest.toNat}"

def processControlIn (e : DFUInterfaceExpert) (setup : UsbSetup) (data : Bytes) :
    DFUInterfaceExpert :=
  let e := { e with toInterfaceExpert := e.toInterfaceExpert.processControlIn setup data }
  if setup.bmRequestType &&& usbTypeMask ≠ usbTypeClass then e
  else
    let e := e.countRequest setup.bRequest
    if setup.bRequest = dfuGetstatus then
      if 5 ≤ data.length then
        { e with lastStatus := (u8 data 0).toNat, lastState := (u8 data 4).toNat }
      else e
    else if setup.bRequest = dfuGetstate then
      if 1 ≤ data.length then { e with lastState := (u8 data 0).toNat } else e
    else if setup.bRequest = dfuUpload then
      { e with uploadBytes := e.uploadBytes + UInt64.ofNat data.length }
    else e.anomaly s!"Unexpected class IN request 0x{hexText 2 setup.bRequest.toNat}"

def processBulkOut (e : DFUInterfaceExpert) (data : Bytes) : DFUInterfaceExpert :=
  { e with toInterfaceExpert := e.toInterfaceExpert.processBulkOut data }

def processBulkIn (e : DFUInterfaceExpert) (data : Bytes) : DFUInterfaceExpert :=
  { e with toInterfaceExpert := e.toInterfaceExpert.processBulkIn data }

end DFUInterfaceExpert

end DemuxUsb
