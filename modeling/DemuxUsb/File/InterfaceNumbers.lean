import DemuxUsb.File.PcapNGFrames
import DemuxUsb.Library.Places
import Mathlib.Data.List.ReduceOption

/-!
# The numbers of interfaces

A packet names its interface by a number: the place of its description among those of the
section (`declarations`). The table of the parser has no row for a description that is too
short (`linktypes_tableAfter`), so the rows behind it move up.

* `events_parse`: what the parser does with each block of a correctly framed file;
* `packetsFollowNumbers_iff`: packets get the link type of the interface they name exactly
  when no row they need has moved.
-/

namespace DemuxUsb.PcapNGInputFile

open Endian Places

/-! ## What the parser does -/

/-- The image of correctly framed blocks. -/
def encodeFrames (blocks : List RawBlock) : Bytes := blocks.flatMap RawBlock.encode

/-- The blocks in front of the first section header that the parser rejects. -/
def accepted : List RawBlock → List RawBlock
  | [] => []
  | b :: blocks =>
    match b.headerError (encodeFrames blocks) with
    | some _ => []
    | none => b :: accepted blocks

/-- The blocks that the parser processes: none, unless the first is a section header. -/
def processed (blocks : List RawBlock) : List RawBlock :=
  if ∀ b ∈ blocks.head?, b.type = typeSectionHeader then accepted blocks else []

/-- The interfaces that the parser knows behind a list of blocks. -/
def tableAfter (interfaces : List PcapngInterface) (blocks : List RawBlock) :
    List PcapngInterface :=
  blocks.foldl (fun interfaces b => (b.parsed interfaces).1) interfaces

/-- What the parser does with a block. -/
def eventAt (interfaces : List PcapngInterface) (p : Place RawBlock) : Option ParseEvent :=
  (p.item.parsed (tableAfter interfaces p.before)).2

theorem eventAt_shift (interfaces : List PcapngInterface) (b : RawBlock) (p : Place RawBlock) :
    eventAt interfaces (Place.shift [b] p) = eventAt (b.parsed interfaces).1 p := rfl

/-- **Run lemma.** -/
theorem events_parseLoop (interfaces : List PcapngInterface) {offset : Nat}
    {blocks : List RawBlock}
    (hheader : offset = 0 → ∀ b ∈ blocks.head?, b.type = typeSectionHeader) :
    (parseLoop interfaces offset (encodeFrames blocks)).1 =
      (places (accepted blocks)).filterMap (eventAt interfaces) := by
  induction blocks generalizing interfaces offset with
  | nil =>
    rw [encodeFrames, List.flatMap_nil, parseLoop]
    rfl
  | cons b blocks ih =>
    have hlength := b.length_encode
    have hpos : b.length = b.body.length + 12 := rfl
    have hcons : encodeFrames (b :: blocks) = b.encode ++ encodeFrames blocks := rfl
    have hblock := b.parseBlock_encode interfaces (fun hzero => hheader hzero b rfl)
      (encodeFrames blocks)
    rw [hcons, accepted]
    cases herror : b.headerError (encodeFrames blocks) with
    | some error =>
      rw [herror] at hblock
      rw [parseLoop_of_throws hblock]
      · rfl
      · rw [List.length_append]
        omega
    | none =>
      rw [herror] at hblock
      have htail := @ih (b.parsed interfaces).1 (offset + b.length) (fun hzero => by omega)
      rw [parseLoop_of_continues hblock, List.drop_left' hlength, htail]
      exact (filterMap_places_cons (eventAt_shift interfaces b) (accepted blocks)).symm

/-- What the parser does with a correctly framed file. -/
theorem events_parse (blocks : List RawBlock) :
    (parseLoop [] 0 (encodeFrames blocks)).1 =
      (places (processed blocks)).filterMap (eventAt []) := by
  unfold processed
  by_cases hheader : ∀ b ∈ blocks.head?, b.type = typeSectionHeader
  · rw [if_pos hheader]
    exact events_parseLoop [] (fun _ => hheader)
  · rw [if_neg hheader]
    cases blocks with
    | nil => exact absurd (fun b hb => absurd hb (Option.not_mem_none b)) hheader
    | cons b blocks =>
      have htype : b.type ≠ typeSectionHeader := by
        intro htype
        refine hheader fun c hc => ?_
        obtain rfl := Option.mem_some.mp hc
        exact htype
      have hcons : encodeFrames (b :: blocks) = b.encode ++ encodeFrames blocks := rfl
      have hlength : (b.encode ++ encodeFrames blocks).length =
          b.body.length + 12 + (encodeFrames blocks).length := by
        rw [List.length_append, b.length_encode]
        rfl
      have hthrows : parseBlock [] 0 (b.encode ++ encodeFrames blocks) =
          .throws "Not a PCAPNG file: missing section header block" := by
        have hoverhead : blockOverhead = 12 := rfl
        unfold parseBlock
        rw [if_neg (by omega), b.readStruct_encode_append]
        exact if_pos ⟨rfl, htype⟩
      rw [hcons, parseLoop_of_throws hthrows (by omega)]
      rfl

/-! ## Numbers -/

/-- The link type of an interface description; one that is too short has none. -/
def declared (b : RawBlock) : Option (Option UInt16) :=
  if b.type = timeInterfaceDescriptorBlock then
    some ((readStruct PcapInterfaceDescriptor b.body).map (·.linktype))
  else none

/-- The interface descriptions of the section that a list of blocks ends in. -/
def declarations (blocks : List RawBlock) : List (Option UInt16) :=
  (blocks.rtakeWhile (fun b => b.type ≠ typeSectionHeader)).filterMap declared

/-- The fields of an enhanced packet block that has them. -/
def enhanced (b : RawBlock) : Option PcapngEpb :=
  if b.type = typeEnhancedPacketBlock then readStruct PcapngEpb b.body else none

/-- The data of an enhanced packet block are all there. -/
def DataFit (b : RawBlock) (epb : PcapngEpb) : Prop :=
  epb.capturedLen.toNat ≤ b.body.length - Layout.size PcapngEpb

instance (b : RawBlock) (epb : PcapngEpb) : Decidable (DataFit b epb) :=
  inferInstanceAs (Decidable (_ ≤ _))

def packetData (b : RawBlock) (epb : PcapngEpb) : Bytes :=
  (b.body.drop (Layout.size PcapngEpb)).take epb.capturedLen.toNat

/-- A packet that is handed to `processPacket`, or none for one that is reported. -/
def outcome : ParseEvent → Option (UInt32 × Bytes)
  | .packet linktype data => some (linktype, data)
  | .warning _ => none

/-- What is to be done at a place: an enhanced packet has the link type of the description
it names, and is reported when that is not there or too short. Other blocks are left to the
parser. -/
def outcomeByNumber (p : Place RawBlock) : Option (Option (UInt32 × Bytes)) :=
  match enhanced p.item with
  | some epb =>
    some (if DataFit p.item epb then
      (declarations p.before)[epb.interfaceId.toNat]?.join.map fun linktype =>
        (linktype.toUInt32, packetData p.item epb)
    else none)
  | none => (eventAt [] p).map outcome

/-- Packets have the link types of the interfaces they name. -/
def PacketsFollowNumbers (blocks : List RawBlock) : Prop :=
  (parseLoop [] 0 (encodeFrames blocks)).1.map outcome =
    (places (processed blocks)).filterMap outcomeByNumber

/-- The description that a packet names is the one in its row, too short ones having none. -/
def NumberKept (p : Place RawBlock) : Prop :=
  ∀ epb ∈ enhanced p.item, DataFit p.item epb →
    (declarations p.before)[epb.interfaceId.toNat]?.join =
      (declarations p.before).reduceOption[epb.interfaceId.toNat]?

theorem parsed_of_sectionHeader {b : RawBlock} (h : b.type = typeSectionHeader)
    (interfaces : List PcapngInterface) : b.parsed interfaces = ([], none) := by
  unfold RawBlock.parsed
  rw [if_pos h, h]
  rfl

/-- A block adds what it declares to the table. -/
theorem linktypes_parsed {b : RawBlock} (h : b.type ≠ typeSectionHeader)
    (interfaces : List PcapngInterface) :
    (b.parsed interfaces).1.map (·.linktype) =
      interfaces.map (·.linktype) ++ (declared b).toList.reduceOption := by
  unfold RawBlock.parsed parseBody declared
  rw [if_neg h]
  by_cases hinterface : b.type = timeInterfaceDescriptorBlock
  · rw [if_pos hinterface, if_pos hinterface]
    unfold parseInterface
    cases readStruct PcapInterfaceDescriptor b.body with
    | none => exact (List.append_nil _).symm
    | some descriptor => exact List.map_append
  · have hnone : interfaces.map (·.linktype) =
        interfaces.map (·.linktype) ++ (none : Option (Option UInt16)).toList.reduceOption :=
      (List.append_nil _).symm
    rw [if_neg hinterface, if_neg hinterface, ← hnone]
    split
    · rfl
    · split
      · rfl
      · rfl

/-- The rows of the table are the descriptions of the section that are long enough. -/
theorem linktypes_tableAfter (blocks : List RawBlock) :
    (tableAfter [] blocks).map (·.linktype) = (declarations blocks).reduceOption := by
  induction blocks using List.reverseRecOn with
  | nil => rfl
  | append_singleton blocks b ih =>
    have htable : tableAfter [] (blocks ++ [b]) = (b.parsed (tableAfter [] blocks)).1 :=
      List.foldl_concat _ _ _ _
    rw [htable]
    unfold declarations
    by_cases hheader : b.type = typeSectionHeader
    · rw [parsed_of_sectionHeader hheader, List.rtakeWhile_concat_neg]
      · rfl
      · simpa using hheader
    · rw [linktypes_parsed hheader, ih, List.rtakeWhile_concat_pos]
      · rw [List.filterMap_append, List.reduceOption_append, List.filterMap_cons]
        cases declared b with
        | none => rfl
        | some linktype => rfl
      · simpa using hheader

/-- What the parser does with an enhanced packet: it looks into its own table. -/
theorem outcome_enhanced {p : Place RawBlock} {epb : PcapngEpb} (h : enhanced p.item = some epb) :
    (eventAt [] p).map outcome =
      some (if DataFit p.item epb then
        (declarations p.before).reduceOption[epb.interfaceId.toNat]?.map fun linktype =>
          (linktype.toUInt32, packetData p.item epb)
      else none) := by
  unfold enhanced at h
  by_cases htype : p.item.type = typeEnhancedPacketBlock
  swap
  · rw [if_neg htype] at h
    cases h
  rw [if_pos htype] at h
  have hheader : p.item.type ≠ typeSectionHeader := by
    rw [htype]
    decide
  have hinterface : p.item.type ≠ timeInterfaceDescriptorBlock := by
    rw [htype]
    decide
  rw [← linktypes_tableAfter, List.getElem?_map]
  unfold eventAt RawBlock.parsed parseBody parseEnhanced
  rw [if_neg hheader, if_neg hinterface, if_pos htype, h]
  dsimp only
  rw [Option.map_some]
  congr 1
  cases (tableAfter [] p.before)[epb.interfaceId.toNat]? with
  | none =>
    rw [Option.map_none, Option.map_none, ite_self]
    rfl
  | some interface =>
    dsimp only
    by_cases hfit : DataFit p.item epb
    · rw [if_pos hfit, if_neg (Nat.not_lt.mpr hfit)]
      rfl
    · rw [if_neg hfit, if_pos (Nat.not_le.mp hfit)]
      rfl

/-- **Step lemma.** -/
theorem outcomeByNumber_iff (p : Place RawBlock) :
    (eventAt [] p).map outcome = outcomeByNumber p ↔ NumberKept p := by
  unfold outcomeByNumber NumberKept
  cases h : enhanced p.item with
  | none =>
    refine iff_of_true rfl ?_
    intro epb hepb
    exact absurd hepb (Option.not_mem_none epb)
  | some epb =>
    have hforall : ∀ {P : PcapngEpb → Prop}, (∀ e ∈ some epb, P e) ↔ P epb := by
      intro P
      simp
    rw [outcome_enhanced h, hforall]
    dsimp only
    by_cases hfit : DataFit p.item epb
    · rw [if_pos hfit, Option.some_inj, forall_prop_of_true hfit, if_pos hfit]
      have hinj : Function.Injective fun linktype : UInt16 =>
          (linktype.toUInt32, packetData p.item epb) := fun _ _ heq =>
        UInt16.toUInt32_inj.mp (Prod.mk.inj heq).1
      exact (Option.map_injective hinj).eq_iff.trans eq_comm
    · rw [if_neg hfit, if_neg hfit]
      exact iff_of_true rfl (fun hr => absurd hr hfit)

/-- **Interface numbers.** Packets have the link types of the interfaces they name if and only
if no row that they need has moved. -/
theorem packetsFollowNumbers_iff (blocks : List RawBlock) :
    PacketsFollowNumbers blocks ↔ ∀ p ∈ places (processed blocks), NumberKept p := by
  have hsome : ∀ p ∈ places (processed blocks),
      ((eventAt [] p).map outcome).isSome = (outcomeByNumber p).isSome := by
    intro p _
    unfold outcomeByNumber
    cases h : enhanced p.item with
    | none => rfl
    | some epb => rw [outcome_enhanced h, Option.isSome_some, Option.isSome_some]
  unfold PacketsFollowNumbers
  rw [events_parse, List.map_filterMap, filterMap_eq_filterMap_iff hsome]
  exact forall₂_congr fun p _ => outcomeByNumber_iff p

/-- A section whose first interface description is cut short in front of two whole ones, and
a packet of its second interface. -/
def movedRows : List RawBlock := [
  ⟨typeSectionHeader, Layout.encode (⟨pcapngByteOrderMagic, 1, 0, -1⟩ : PcapngShb),
    by decide, by decide⟩,
  ⟨timeInterfaceDescriptorBlock, le32Bytes linktypeUsbLinux, by decide, by decide⟩,
  ⟨timeInterfaceDescriptorBlock, Layout.encode (⟨249, 0, 0⟩ : PcapInterfaceDescriptor),
    by decide, by decide⟩,
  ⟨timeInterfaceDescriptorBlock, Layout.encode (⟨266, 0, 0⟩ : PcapInterfaceDescriptor),
    by decide, by decide⟩,
  ⟨typeEnhancedPacketBlock, Layout.encode (⟨1, 0, 0, 0, 0⟩ : PcapngEpb), by decide, by decide⟩]

/-- The packet is decoded as one of the third interface. -/
theorem not_packetsFollowNumbers : ¬ PacketsFollowNumbers movedRows := by
  rw [PacketsFollowNumbers, events_parse]
  decide +kernel

/-! ## Whole descriptions -/

theorem getElem_reduceOption_of_isSome {declarations : List (Option UInt16)}
    (h : none ∉ declarations) (k : Nat) : declarations[k]?.join = declarations.reduceOption[k]? := by
  induction declarations generalizing k with
  | nil => rfl
  | cons linktype declarations ih =>
    rw [List.mem_cons, not_or] at h
    cases linktype with
    | none => exact absurd rfl h.1
    | some linktype =>
      rw [List.reduceOption_cons_of_some]
      cases k with
      | zero => rfl
      | succ k => exact ih h.2 k

/-- Nothing moves in a file without short descriptions. -/
theorem numberKept_of_whole {blocks : List RawBlock}
    (h : ∀ b ∈ processed blocks, declared b ≠ some none) :
    ∀ p ∈ places (processed blocks), NumberKept p := by
  intro p hp epb _ _
  refine getElem_reduceOption_of_isSome ?_ _
  intro hnone
  obtain ⟨b, hb, hshort⟩ := List.mem_filterMap.mp hnone
  refine h b ?_ hshort
  rw [mem_places.mp hp]
  exact List.mem_append_left _ ((List.rtakeWhile_suffix _ _).subset hb)

end DemuxUsb.PcapNGInputFile
