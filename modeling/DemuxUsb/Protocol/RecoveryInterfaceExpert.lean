import DemuxUsb.Protocol.InterfaceExpert

/-!
# `RecoveryInterfaceExpert`

The iBoot recovery mode protocol: commands and responses are NUL terminated strings in
vendor control transfers, files are announced by a control transfer and then streamed
over bulk OUT, and the console is read back over bulk IN.
-/

namespace DemuxUsb

inductive RecoveryPayloadKind where
  | command
  | response
  | upload
  deriving DecidableEq

structure RecoveryPayload where
  kind : RecoveryPayloadKind
  request : UInt8 := 0
  text : Bytes := []
  data : Bytes := []
  deriving DecidableEq

structure RecoveryInterfaceExpert extends InterfaceExpert where
  payloads : List RecoveryPayload := []
  uploadOpen : Bool := false
  console : Bytes := []
  deriving DecidableEq

namespace RecoveryInterfaceExpert

/-- The text up to the first NUL, or to the end. -/
def cString (data : Bytes) : Bytes := data.takeWhile (· != 0)

def push (e : RecoveryInterfaceExpert) (payload : RecoveryPayload) : RecoveryInterfaceExpert :=
  { e with payloads := e.payloads ++ [payload] }

def processControlOut (e : RecoveryInterfaceExpert) (setup : UsbSetup) (data : Bytes) :
    RecoveryInterfaceExpert :=
  let e := { e with toInterfaceExpert := e.toInterfaceExpert.processControlOut setup data }
  if setup.bmRequestType = 0x40 ∧ 0 < data.length then
    e.push { kind := .command, request := setup.bRequest, text := cString data }
  else if setup.bmRequestType = 0x41 ∧ setup.bRequest = 0 then
    { e.push { kind := .upload, request := setup.bRequest } with uploadOpen := true }
  else e

def processControlIn (e : RecoveryInterfaceExpert) (setup : UsbSetup) (data : Bytes) :
    RecoveryInterfaceExpert :=
  let e := { e with toInterfaceExpert := e.toInterfaceExpert.processControlIn setup data }
  if setup.bmRequestType = 0xC0 ∧ 0 < data.length then
    e.push { kind := .response, request := setup.bRequest, text := cString data }
  else e

/-- The place of the last upload. -/
def lastUpload (payloads : List RecoveryPayload) : Option Nat :=
  (payloads.reverse.findIdx? (fun p => p.kind = .upload)).map (payloads.length - 1 - ·)

/-- The upload that bulk data belongs to, with its place in the payloads. -/
def currentUpload (e : RecoveryInterfaceExpert) : RecoveryInterfaceExpert × Nat :=
  let e :=
    -- the capture began mid transfer or the client skipped the announcement
    if e.uploadOpen then e else { e.push { kind := .upload } with uploadOpen := true }
  match lastUpload e.payloads with
  | some i => (e, i)
  -- unreachable: an open upload always has a payload
  | none => (e.push { kind := .upload }, e.payloads.length)

def processBulkOut (e : RecoveryInterfaceExpert) (data : Bytes) : RecoveryInterfaceExpert :=
  let e := { e with toInterfaceExpert := e.toInterfaceExpert.processBulkOut data }
  if data.length = 0 then e
  else
    let (e, i) := e.currentUpload
    { e with payloads := e.payloads.modify i (fun p => { p with data := p.data ++ data }) }

def processBulkIn (e : RecoveryInterfaceExpert) (data : Bytes) : RecoveryInterfaceExpert :=
  let e := { e with toInterfaceExpert := e.toInterfaceExpert.processBulkIn data }
  { e with console := e.console ++ data }

end RecoveryInterfaceExpert

end DemuxUsb
