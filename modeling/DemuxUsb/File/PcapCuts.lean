import DemuxUsb.File.PcapNGCuts
import DemuxUsb.Test.CaptureBuilder

/-!
# Classic captures that are cut

A classic pcap file is a header and a list of records, in either byte order. The reader of
its first bytes delivers the packets of the records that are whole and warns once about the
record that is not (`parseLoop_take`).

* `cut_exact`: every variant, cut anywhere behind its header.
-/

namespace DemuxUsb.PcapInputFile

open Endian
open PcapNGInputFile (ParseEvent perform packetCalls ownWarnings)

/-! ## Byte order -/

theorem beNat_lt {bs : Bytes} (h : bs.length = 4) : beNat bs < 2 ^ 32 := by
  have hnat := leNat_leBytes bs.reverse.length (leNat bs.reverse)
  rw [leBytes_leNat, List.length_reverse, h] at hnat
  rw [beNat, hnat]
  exact Nat.mod_lt _ (by decide)

/-- The bytes of a number that was read the other way round. -/
theorem le32Bytes_be32 {bs : Bytes} (h : bs.length = 4) : le32Bytes (be32 bs 0) = bs.reverse := by
  have hfield : field bs 0 4 = bs := by
    simpa using field_zero_append h []
  have hlength : bs.reverse.length = 4 := by rw [List.length_reverse, h]
  rw [be32, hfield, le32Bytes, UInt32.toNat_ofNat_of_lt' (beNat_lt h), beNat, ← hlength,
    leBytes_leNat]

theorem endianReverse_endianReverse (v : UInt32) : endianReverse (endianReverse v) = v := by
  have hlength : (le32Bytes v).length = 4 := length_le32Bytes v
  have hreverse : (le32Bytes v).reverse.length = 4 := by rw [List.length_reverse, hlength]
  have hfield : field (le32Bytes v).reverse 0 4 = (le32Bytes v).reverse := by
    simpa using field_zero_append hreverse []
  rw [endianReverse, endianReverse, le32Bytes_be32 hlength, be32, hfield, beNat,
    List.reverse_reverse, le32Bytes, leNat_leBytes_of_lt v.toNat_lt, UInt32.ofNat_toNat]

/-- A field is written as it is read. -/
theorem value_value (swapped : Bool) (v : UInt32) : value swapped (value swapped v) = v := by
  cases swapped with
  | false => rfl
  | true => exact endianReverse_endianReverse v

/-! ## Files -/

/-- A packet with the fields of its record that the reader does not use. -/
structure PcapRecord where
  tsSec : UInt32 := 0
  tsUsec : UInt32 := 0
  origLen : UInt32 := 0
  data : Bytes
  length_lt : data.length < 2 ^ 32

namespace PcapRecord

/-- The number of bytes of a record. -/
def length (r : PcapRecord) : Nat := Layout.size PcapRecordHeader + r.data.length

def header (swapped : Bool) (r : PcapRecord) : PcapRecordHeader :=
  ⟨r.tsSec, r.tsUsec, value swapped (UInt32.ofNat r.data.length), r.origLen⟩

def encode (swapped : Bool) (r : PcapRecord) : Bytes :=
  Layout.encode (r.header swapped) ++ r.data

@[simp] theorem length_encode (swapped : Bool) (r : PcapRecord) :
    (r.encode swapped).length = r.length := by
  rw [encode, List.length_append, Layout.length_encode, length]

end PcapRecord

/-- A classic pcap file. The fields of its header that the reader does not use are those of
the file, whatever its byte order. -/
structure PcapFile where
  swapped : Bool
  nanoseconds : Bool
  linktype : UInt32
  linktype_lt : linktype.toNat < 2 ^ 28
  versionMajor : UInt16
  versionMinor : UInt16
  thiszone : UInt32 := 0
  sigfigs : UInt32 := 0
  snaplen : UInt32
  records : List PcapRecord

/-- The records of a file. -/
def encodeRecords (swapped : Bool) (records : List PcapRecord) : Bytes :=
  records.flatMap (PcapRecord.encode swapped)

namespace PcapFile

def magic (file : PcapFile) : UInt32 :=
  if file.nanoseconds then pcapMagicNanoseconds else pcapMagicMicroseconds

def header (file : PcapFile) : PcapFileHeader :=
  ⟨value file.swapped file.magic, file.versionMajor, file.versionMinor, file.thiszone,
    file.sigfigs, file.snaplen, value file.swapped file.linktype⟩

def encode (file : PcapFile) : Bytes :=
  Layout.encode file.header ++ encodeRecords file.swapped file.records

end PcapFile

/-- The packets with the offset of the end of their records. -/
def placedRecords (offset : Nat) : List PcapRecord → List (Nat × Bytes)
  | [] => []
  | r :: records => (offset + r.length, r.data) :: placedRecords (offset + r.length) records

/-- The cut is behind the header or behind a record. -/
def IsRecordBoundary (n : Nat) (file : PcapFile) : Prop :=
  n = Layout.size PcapFileHeader ∨
    n ∈ (placedRecords (Layout.size PcapFileHeader) file.records).map Prod.fst

instance (n : Nat) (file : PcapFile) : Decidable (IsRecordBoundary n file) :=
  inferInstanceAs (Decidable (_ ∨ _))

/-! ## One record -/

section Record

variable (swapped : Bool) (offset : Nat) (r : PcapRecord)

theorem readStruct_record (rest : Bytes) :
    readStruct PcapRecordHeader (r.encode swapped ++ rest) = some (r.header swapped) := by
  rw [PcapRecord.encode, List.append_assoc, readStruct_encode]

theorem toNat_inclLen : (value swapped (r.header swapped).inclLen).toNat = r.data.length := by
  rw [PcapRecord.header, value_value, UInt32.toNat_ofNat_of_lt' r.length_lt]

theorem parseRecord_encode (rest : Bytes) :
    parseRecord swapped offset (r.encode swapped ++ rest) = .continues r.data.length := by
  have hlength := r.length_encode swapped
  rw [PcapRecord.length] at hlength
  unfold parseRecord
  rw [readStruct_record]
  dsimp only
  rw [toNat_inclLen, if_neg]
  rw [List.length_append]
  omega

/-- A record that is cut is reported, as a header or as data that are not there. -/
theorem parseRecord_take {k : Nat} (hk : k < r.length) :
    ∃ warning, parseRecord swapped offset ((r.encode swapped).take k) = .stops warning := by
  have hlength := r.length_encode swapped
  have htake : ((r.encode swapped).take k).length = k := by
    rw [List.length_take]
    omega
  unfold parseRecord
  by_cases hheader : k < Layout.size PcapRecordHeader
  · rw [readStruct_of_lt (by omega)]
    exact ⟨_, rfl⟩
  · have hread : readStruct PcapRecordHeader ((r.encode swapped).take k) =
        some (r.header swapped) := by
      have hwhole := readStruct_record swapped r []
      rwa [List.append_nil, ← List.take_append_drop k (r.encode swapped),
        readStruct_append (by omega)] at hwhole
    rw [hread]
    dsimp only
    rw [toNat_inclLen, if_pos]
    · exact ⟨_, rfl⟩
    · rw [PcapRecord.length] at hk
      omega

end Record

/-! ## The records of a file -/

theorem lt_of_mem_placedRecords {offset : Nat} {records : List PcapRecord} {p : Nat × Bytes}
    (hp : p ∈ placedRecords offset records) : offset < p.1 := by
  have hsixteen : Layout.size PcapRecordHeader = 16 := rfl
  induction records generalizing offset with
  | nil => cases hp
  | cons r records ih =>
    rw [placedRecords, List.mem_cons] at hp
    rcases hp with rfl | hp
    · dsimp only [PcapRecord.length]
      omega
    · have := ih hp
      omega

theorem le_of_mem_placedRecords {offset : Nat} {r : PcapRecord} {records : List PcapRecord}
    {p : Nat × Bytes} (hp : p ∈ placedRecords offset (r :: records)) : offset + r.length ≤ p.1 := by
  rw [placedRecords, List.mem_cons] at hp
  rcases hp with rfl | hp
  · exact Nat.le_refl _
  · exact Nat.le_of_lt (lt_of_mem_placedRecords hp)

/-- A cut in front of the end of every record. -/
theorem filter_placedRecords_eq_nil {offset n : Nat} {records : List PcapRecord}
    (h : ∀ p ∈ placedRecords offset records, n < p.1) :
    (placedRecords offset records).filter (·.1 ≤ n) = [] := by
  rw [List.filter_eq_nil_iff]
  intro p hp
  rw [decide_eq_true_eq]
  exact Nat.not_le.mpr (h p hp)

/-- What the reader does with the packets it finds whole. -/
def deliveries (linktype : UInt32) (packets : List (Nat × Bytes)) : List ParseEvent :=
  packets.map fun p => .packet linktype p.2

/-- A record that is there as a whole. -/
theorem parseLoop_record (linktype : UInt32) (swapped : Bool) (offset : Nat) (r : PcapRecord)
    (rest : Bytes) :
    parseLoop linktype swapped offset (r.encode swapped ++ rest) =
      .packet linktype r.data :: parseLoop linktype swapped (offset + r.length) rest := by
  have hlength : (r.encode swapped).length = Layout.size PcapRecordHeader + r.data.length :=
    r.length_encode swapped
  have hdata : ((r.encode swapped ++ rest).drop (Layout.size PcapRecordHeader)).take
      r.data.length = r.data := by
    rw [PcapRecord.encode, List.append_assoc, List.drop_left' (Layout.length_encode _),
      List.take_left]
  rw [parseLoop_of_continues (parseRecord_encode swapped offset r rest), hdata,
    List.drop_left' hlength]
  rfl

/-- **Cut lemma.** By induction on the records: a cut is in front of a record, in it, or
behind it. -/
theorem parseLoop_take (linktype : UInt32) (swapped : Bool) {offset n : Nat}
    {records : List PcapRecord} (hn : n ≤ (encodeRecords swapped records).length) :
    ∃ warnings : List String,
      parseLoop linktype swapped offset ((encodeRecords swapped records).take n) =
        deliveries linktype ((placedRecords offset records).filter (·.1 ≤ offset + n)) ++
          warnings.map .warning ∧
      warnings.length =
        if n = 0 ∨ offset + n ∈ (placedRecords offset records).map Prod.fst then 0 else 1 := by
  induction records generalizing offset n with
  | nil =>
    obtain rfl := Nat.le_zero.mp hn
    exact ⟨[], by rw [List.take_zero, parseLoop]; rfl, rfl⟩
  | cons r records ih =>
    have hlength := r.length_encode swapped
    have hcons : encodeRecords swapped (r :: records) =
        r.encode swapped ++ encodeRecords swapped records := rfl
    have hplaced : placedRecords offset (r :: records) =
        (offset + r.length, r.data) :: placedRecords (offset + r.length) records := rfl
    rw [hcons] at hn ⊢
    by_cases hzero : n = 0
    · subst hzero
      refine ⟨[], ?_, by rw [if_pos (Or.inl rfl)]; rfl⟩
      rw [Nat.add_zero, filter_placedRecords_eq_nil fun p => lt_of_mem_placedRecords,
        List.take_zero, parseLoop]
      rfl
    by_cases hcut : n < r.length
    · obtain ⟨warning, hstops⟩ := parseRecord_take swapped offset r hcut
      have hbehind : ∀ p ∈ placedRecords offset (r :: records), offset + n < p.1 := fun p hp =>
        Nat.lt_of_lt_of_le (Nat.add_lt_add_left hcut offset) (le_of_mem_placedRecords hp)
      have hnotin : ¬ offset + n ∈ (placedRecords offset (r :: records)).map Prod.fst := by
        intro hin
        obtain ⟨p, hp, hend⟩ := List.mem_map.mp hin
        exact absurd (hbehind p hp) (by omega)
      have hpos : 0 < ((r.encode swapped).take n).length := by
        rw [List.length_take]
        omega
      refine ⟨[warning], ?_, by rw [if_neg (not_or.mpr ⟨hzero, hnotin⟩)]; rfl⟩
      rw [filter_placedRecords_eq_nil hbehind, List.take_append_of_le_length (by omega),
        parseLoop_of_stops hstops hpos]
      rfl
    · have hrest : n - r.length ≤ (encodeRecords swapped records).length := by
        rw [List.length_append, hlength] at hn
        omega
      obtain ⟨warnings, hrun, hwarnings⟩ := @ih (offset + r.length) _ hrest
      have hend : offset + r.length + (n - r.length) = offset + n := by omega
      rw [hend] at hrun hwarnings
      refine ⟨warnings, ?_, ?_⟩
      · rw [List.take_append, List.take_of_length_le (by omega), hlength, parseLoop_record, hrun,
          hplaced, List.filter_cons_of_pos (by rw [decide_eq_true_eq]; dsimp only; omega)]
        rfl
      · rw [hwarnings, hplaced, List.map_cons]
        refine if_congr ?_ rfl rfl
        rw [List.mem_cons]
        constructor
        · rintro (hat | hin)
          · exact Or.inr (Or.inl (by omega))
          · exact Or.inr (Or.inr hin)
        · rintro (hat | hat | hin)
          · exact absurd hat hzero
          · exact Or.inl (by omega)
          · exact Or.inr hin

/-! ## Captures -/

/-- What `parse` does to the capture, and the `ParseError` it throws, if it does. -/
def parseEvents (data : Bytes) : List ParseEvent × Option String :=
  match readStruct PcapFileHeader data with
  | none => ([], some "Truncated pcap file header")
  | some header =>
    match byteOrder header.magic with
    | none => ([], some "Not a pcap file: bad magic")
    | some swapped =>
      let offset := Layout.size PcapFileHeader
      (parseLoop (linktypeOf swapped header) swapped offset (data.drop offset), none)

section Captures

variable {π : Type} [Libplist π]

theorem parse_eq (f : InputFile π) (data : Bytes) :
    parse f data = ((parseEvents data).1.foldl perform f, (parseEvents data).2) := by
  unfold parse parseEvents
  cases readStruct PcapFileHeader data with
  | none => rfl
  | some header =>
    dsimp only
    cases byteOrder header.magic with
    | none => rfl
    | some swapped => rfl

end Captures

theorem packetCalls_deliveries (linktype : UInt32) (packets : List (Nat × Bytes))
    (warnings : List String) :
    packetCalls (deliveries linktype packets ++ warnings.map .warning) =
      packets.map fun p => (linktype, p.2) := by
  induction packets with
  | nil =>
    induction warnings with
    | nil => rfl
    | cons warning warnings ih => exact ih
  | cons p packets ih => exact congrArg ((linktype, p.2) :: ·) ih

theorem ownWarnings_deliveries (linktype : UInt32) (packets : List (Nat × Bytes))
    (warnings : List String) :
    ownWarnings (deliveries linktype packets ++ warnings.map .warning) = warnings := by
  induction packets with
  | nil =>
    induction warnings with
    | nil => rfl
    | cons warning warnings ih => exact congrArg (warning :: ·) ih
  | cons p packets ih => exact ih

theorem byteOrder_header (file : PcapFile) :
    byteOrder file.header.magic = some file.swapped := by
  have hmagic : ∀ swapped nanoseconds : Bool, byteOrder (value swapped
      (if nanoseconds then pcapMagicNanoseconds else pcapMagicMicroseconds)) = some swapped := by
    decide
  exact hmagic file.swapped file.nanoseconds

/-- The mask keeps a link type of 28 bits. -/
theorem linktypeOf_header (file : PcapFile) :
    linktypeOf file.swapped file.header = file.linktype := by
  apply UInt32.toNat_inj.mp
  have hmask : (0x0FFFFFFF : UInt32).toNat = 2 ^ 28 - 1 := rfl
  rw [linktypeOf, PcapFile.header, value_value, UInt32.toNat_and, hmask,
    Nat.and_two_pow_sub_one_eq_mod, Nat.mod_eq_of_lt file.linktype_lt]

theorem parseEvents_take (file : PcapFile) {n : Nat} (hheader : Layout.size PcapFileHeader ≤ n) :
    parseEvents (file.encode.take n) =
      (parseLoop file.linktype file.swapped (Layout.size PcapFileHeader)
        ((encodeRecords file.swapped file.records).take (n - Layout.size PcapFileHeader)),
      none) := by
  have hlength : (Layout.encode file.header).length = Layout.size PcapFileHeader :=
    Layout.length_encode _
  have htake : file.encode.take n = Layout.encode file.header ++
      (encodeRecords file.swapped file.records).take (n - Layout.size PcapFileHeader) := by
    rw [PcapFile.encode, List.take_append, List.take_of_length_le (by omega), hlength]
  unfold parseEvents
  rw [htake, readStruct_encode]
  dsimp only
  rw [byteOrder_header]
  dsimp only
  rw [linktypeOf_header, List.drop_left' hlength]

/-- **Cuts.** The reader of the first bytes of a file does not throw, delivers the packets
whose records end in front of the cut, and warns once unless nothing is cut. -/
theorem cut_exact (file : PcapFile) {n : Nat} (hheader : Layout.size PcapFileHeader ≤ n)
    (hsize : n ≤ file.encode.length) :
    (∀ {π : Type} [Libplist π] (f : InputFile π), parse f (file.encode.take n) =
        ((parseEvents (file.encode.take n)).1.foldl perform f, none)) ∧
      packetCalls (parseEvents (file.encode.take n)).1 =
        ((placedRecords (Layout.size PcapFileHeader) file.records).filter (·.1 ≤ n)).map
          (fun p => (file.linktype, p.2)) ∧
      (ownWarnings (parseEvents (file.encode.take n)).1).length =
        if IsRecordBoundary n file then 0 else 1 := by
  have hevents := parseEvents_take file hheader
  have hrest : n - Layout.size PcapFileHeader ≤
      (encodeRecords file.swapped file.records).length := by
    rw [PcapFile.encode, List.length_append, Layout.length_encode] at hsize
    omega
  obtain ⟨warnings, hrun, hwarnings⟩ :=
    @parseLoop_take file.linktype file.swapped (Layout.size PcapFileHeader) _ _ hrest
  have hend : Layout.size PcapFileHeader + (n - Layout.size PcapFileHeader) = n := by omega
  rw [hend] at hrun hwarnings
  refine ⟨?_, ?_, ?_⟩
  · intro π _ f
    rw [parse_eq, hevents]
  · rw [hevents, hrun, packetCalls_deliveries]
  · rw [hevents, hrun, ownWarnings_deliveries, hwarnings]
    refine if_congr (or_congr_left ?_) rfl rfl
    omega

/-- A file with two records, in the other byte order. -/
def twoRecords : PcapFile where
  swapped := true
  nanoseconds := true
  linktype := linktypeUsbDarwin
  linktype_lt := by decide
  versionMajor := 0x0200
  versionMinor := 0x0400
  snaplen := 0
  records := [{ data := [1, 2, 3], length_lt := by decide }, { data := [4], length_lt := by decide }]

theorem cut_exact_twoRecords :
    packetCalls (parseEvents (twoRecords.encode.take 50)).1 = [(linktypeUsbDarwin, [1, 2, 3])] ∧
      (ownWarnings (parseEvents (twoRecords.encode.take 50)).1).length = 1 := by
  have hboundary : ¬ IsRecordBoundary 50 twoRecords := by decide +kernel
  obtain ⟨-, hpackets, hwarnings⟩ := @cut_exact twoRecords 50 (by decide) (by decide +kernel)
  rw [if_neg hboundary] at hwarnings
  refine ⟨hpackets.trans ?_, hwarnings⟩
  decide +kernel

/-! ## The test encoder -/

/-- The file that the test encoder writes. -/
def builtFile (linktype : UInt32) (hlinktype : linktype.toNat < 2 ^ 28)
    (packets : List { packet : Bytes // packet.length < 2 ^ 32 }) (swapped nanoseconds : Bool) :
    PcapFile where
  swapped := swapped
  nanoseconds := nanoseconds
  linktype := linktype
  linktype_lt := hlinktype
  versionMajor := Fixture.value16 swapped 2
  versionMinor := Fixture.value16 swapped 4
  snaplen := value swapped 0x40000
  records := packets.map fun packet =>
    { origLen := value swapped (UInt32.ofNat packet.1.length), data := packet.1,
      length_lt := packet.2 }

theorem encode_builtFile (linktype : UInt32) (hlinktype : linktype.toNat < 2 ^ 28)
    (packets : List { packet : Bytes // packet.length < 2 ^ 32 }) (swapped nanoseconds : Bool) :
    (builtFile linktype hlinktype packets swapped nanoseconds).encode =
      Fixture.pcap linktype (packets.map Subtype.val) swapped nanoseconds := by
  unfold PcapFile.encode encodeRecords builtFile Fixture.pcap
  dsimp only
  rw [List.flatMap_map, List.flatMap_map]
  rfl

end DemuxUsb.PcapInputFile
