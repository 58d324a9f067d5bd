import DemuxUsb.File.PcapNGInputFile

/-!
# `PcapInputFile`

The reader of classic pcap files. As in `PcapNGInputFile`, its loop is the list of what it
does to the capture, which `parse` carries out.
-/

namespace DemuxUsb.PcapInputFile

open Endian
open PcapNGInputFile (ParseEvent perform)

/-- `boost::endian::endian_reverse` -/
def endianReverse (field : UInt32) : UInt32 := be32 (le32Bytes field) 0

/-- The switch over the magic: whether the file has the other byte order. -/
def byteOrder (magic : UInt32) : Option Bool :=
  if magic = pcapMagicMicroseconds ∨ magic = pcapMagicNanoseconds then some false
  else if magic = pcapMagicMicrosecondsSwapped ∨ magic = pcapMagicNanosecondsSwapped then some true
  else none

/-- A field of the file in host byte order. -/
def value (swapped : Bool) (field : UInt32) : UInt32 :=
  if swapped then endianReverse field else field

/-- The upper bits of the link type field carry FCS information. -/
def linktypeOf (swapped : Bool) (header : PcapFileHeader) : UInt32 :=
  value swapped header.linktype &&& 0x0FFFFFFF

/-- What the loop of `parse` does with a record: it warns and stops, or hands on the packet
and goes on behind it. -/
inductive RecordResult where
  | stops (warning : String)
  | continues (included : Nat)
  deriving DecidableEq

/-- One round of the loop. -/
def parseRecord (swapped : Bool) (offset : Nat) (recordStart : Bytes) : RecordResult :=
  match readStruct PcapRecordHeader recordStart with
  | none => .stops "Capture ends with a truncated record header"
  | some record =>
    let included := (value swapped record.inclLen).toNat
    if recordStart.length - Layout.size PcapRecordHeader < included then
      .stops s!"Record at offset {offset} overruns the file; stopping"
    else .continues included

theorem length_of_continues {swapped : Bool} {offset included : Nat} {recordStart : Bytes}
    (h : parseRecord swapped offset recordStart = .continues included) :
    Layout.size PcapRecordHeader + included ≤ recordStart.length := by
  unfold parseRecord at h
  split at h
  · cases h
  · rename_i record hrecord
    have hsize := size_le_of_readStruct hrecord
    dsimp only at h
    split at h
    · cases h
    · obtain rfl := RecordResult.continues.inj h
      omega

/-- The loop of `parse` at `offset`. -/
def parseLoop (linktype : UInt32) (swapped : Bool) (offset : Nat) (data : Bytes) :
    List ParseEvent :=
  if data.length = 0 then []
  else
    match _hrecord : parseRecord swapped offset data with
    | .stops warning => [.warning warning]
    | .continues included =>
      let length := Layout.size PcapRecordHeader + included
      .packet linktype ((data.drop (Layout.size PcapRecordHeader)).take included) ::
        parseLoop linktype swapped (offset + length) (data.drop length)
termination_by data.length
decreasing_by
  have hlength := length_of_continues _hrecord
  have hsixteen : Layout.size PcapRecordHeader = 16 := rfl
  rw [List.length_drop]
  omega

section Rounds

variable {linktype : UInt32} {swapped : Bool} {offset : Nat} {data : Bytes}

theorem parseLoop_of_continues {included : Nat}
    (h : parseRecord swapped offset data = .continues included) :
    parseLoop linktype swapped offset data =
      .packet linktype ((data.drop (Layout.size PcapRecordHeader)).take included) ::
        parseLoop linktype swapped (offset + (Layout.size PcapRecordHeader + included))
          (data.drop (Layout.size PcapRecordHeader + included)) := by
  have hlength := length_of_continues h
  have hsixteen : Layout.size PcapRecordHeader = 16 := rfl
  rw [parseLoop, if_neg (by omega)]
  split
  · rename_i warning hrecord
    rw [h] at hrecord
    cases hrecord
  · rename_i included' hrecord
    rw [h] at hrecord
    obtain rfl := RecordResult.continues.inj hrecord
    rfl

theorem parseLoop_of_stops {warning : String}
    (h : parseRecord swapped offset data = .stops warning) (hdata : 0 < data.length) :
    parseLoop linktype swapped offset data = [.warning warning] := by
  rw [parseLoop, if_neg (by omega)]
  split
  · rename_i warning' hrecord
    rw [h] at hrecord
    obtain rfl := RecordResult.stops.inj hrecord
    rfl
  · rename_i included hrecord
    rw [h] at hrecord
    cases hrecord

end Rounds

variable {π : Type} [Libplist π]

/-- The capture after `parse`, and the `ParseError` it throws, if it does. -/
def parse (f : InputFile π) (data : Bytes) : InputFile π × Option String :=
  match readStruct PcapFileHeader data with
  | none => (f, some "Truncated pcap file header")
  | some header =>
    match byteOrder header.magic with
    | none => (f, some "Not a pcap file: bad magic")
    | some swapped =>
      let offset := Layout.size PcapFileHeader
      ((parseLoop (linktypeOf swapped header) swapped offset (data.drop offset)).foldl perform f,
        none)

end DemuxUsb.PcapInputFile
