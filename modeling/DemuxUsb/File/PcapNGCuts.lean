import DemuxUsb.File.PcapNGBlocks

/-!
# Captures that are cut

The first bytes of a file are its first blocks and, unless the cut is a block boundary,
the beginning of one more (`take_encodeBlocks`). The parser stops at that one with a
warning (`parseBlock_take_cut`), except where it looks at a section header before it
checks the length: there it throws (`parseBlock_take_header`).

* `cut_keeps_iff`: a cut keeps what is before it exactly when it does not leave 12 to 23
  bytes of a section header.
-/

namespace DemuxUsb.PcapNGInputFile

/-! ## Cuts -/

/-- The block that a cut behind `n` bytes goes through, with the number of its bytes in
front of the cut. There is none when the cut is a block boundary. -/
def cutBlock (n : Nat) : List FileBlock → Option (FileBlock × Nat)
  | [] => none
  | b :: blocks =>
    if n = 0 then none
    else if n < b.length then some (b, n)
    else cutBlock (n - b.length) blocks

/-- The blocks that lie wholly in front of a cut. -/
def wholeBlocks (n : Nat) : List FileBlock → List FileBlock
  | [] => []
  | b :: blocks => if n < b.length then [] else b :: wholeBlocks (n - b.length) blocks

/-- What a cut leaves of the block it goes through. -/
def cutTail (n : Nat) (blocks : List FileBlock) : Bytes :=
  match cutBlock n blocks with
  | none => []
  | some (b, k) => b.encode.take k

/-- The first bytes of a file: whole blocks and a tail. -/
theorem take_encodeBlocks (n : Nat) (blocks : List FileBlock) :
    (encodeBlocks blocks).take n = encodeBlocks (wholeBlocks n blocks) ++ cutTail n blocks := by
  induction blocks generalizing n with
  | nil => rw [encodeBlocks, List.flatMap_nil, List.take_nil]; rfl
  | cons b blocks ih =>
    have hsize := b.length_encode
    have hcons : encodeBlocks (b :: blocks) = b.encode ++ encodeBlocks blocks := rfl
    rw [hcons]
    unfold wholeBlocks cutTail cutBlock
    by_cases hcut : n < b.length
    · rw [if_pos hcut, if_pos hcut, List.take_append_of_le_length (by omega)]
      split
      · rename_i hnone
        split at hnone
        · rename_i hzero
          rw [hzero]
          rfl
        · cases hnone
      · rename_i b' k hsome
        split at hsome
        · cases hsome
        · cases hsome
          rfl
    · have hpos := b.blockOverhead_le
      have h12 : blockOverhead = 12 := rfl
      rw [if_neg hcut, if_neg (by omega), if_neg hcut, List.take_append,
        List.take_of_length_le (by omega), hsize, ih]
      exact (List.append_assoc _ _ _).symm

/-- The block that is cut, by its place in the file. -/
theorem cutBlock_eq_some_iff {n k : Nat} {blocks : List FileBlock} {b : FileBlock} :
    cutBlock n blocks = some (b, k) ↔ ∃ before after, blocks = before ++ b :: after ∧
      n = (encodeBlocks before).length + k ∧ 0 < k ∧ k < b.length := by
  induction blocks generalizing n with
  | nil =>
    apply iff_of_false (Option.some_ne_none _).symm
    rintro ⟨before, after, hblocks, -⟩
    cases before <;> cases hblocks
  | cons c blocks ih =>
    have hpos := c.blockOverhead_le
    have h12 : blockOverhead = 12 := rfl
    unfold cutBlock
    constructor
    · intro hcut
      split at hcut
      · cases hcut
      · split at hcut
        · cases hcut
          exact ⟨[], blocks, rfl, (Nat.zero_add _).symm, by omega, by omega⟩
        · obtain ⟨before, after, rfl, hn, hk⟩ := ih.mp hcut
          refine ⟨c :: before, after, rfl, ?_, hk⟩
          rw [length_encodeBlocks_cons]
          omega
    · rintro ⟨before, after, hblocks, hn, hk⟩
      cases before with
      | nil =>
        obtain ⟨rfl, rfl⟩ := List.cons.inj hblocks
        have hn : n = k := hn.trans (Nat.zero_add k)
        rw [if_neg (by omega), if_pos (by omega), hn]
      | cons first before =>
        obtain ⟨rfl, hrest⟩ := List.cons.inj hblocks
        rw [length_encodeBlocks_cons] at hn
        rw [if_neg (by omega), if_neg (by omega)]
        exact ih.mpr ⟨before, after, hrest, by omega, hk⟩

/-- The cut is between two blocks, or behind the last. -/
def IsBoundary (n : Nat) (blocks : List FileBlock) : Prop :=
  ∃ before, before <+: blocks ∧ (encodeBlocks before).length = n

theorem cutBlock_eq_none_iff {n : Nat} {blocks : List FileBlock}
    (hn : n ≤ (encodeBlocks blocks).length) :
    cutBlock n blocks = none ↔ IsBoundary n blocks := by
  induction blocks generalizing n with
  | nil =>
    refine iff_of_true rfl ⟨[], List.prefix_rfl, ?_⟩
    exact (Nat.le_zero.mp hn).symm
  | cons c blocks ih =>
    have hpos := c.blockOverhead_le
    have h12 : blockOverhead = 12 := rfl
    rw [length_encodeBlocks_cons] at hn
    unfold cutBlock
    split
    · rename_i hzero
      exact iff_of_true rfl ⟨[], List.nil_prefix, hzero.symm⟩
    · rename_i hzero
      split
      · rename_i hcut
        apply iff_of_false (Option.some_ne_none _)
        rintro ⟨before, hbefore, hlen⟩
        cases before with
        | nil => exact hzero hlen.symm
        | cons first before =>
          obtain ⟨rfl, -⟩ := List.cons_prefix_cons.mp hbefore
          rw [length_encodeBlocks_cons] at hlen
          omega
      · rw [ih (by omega)]
        constructor
        · rintro ⟨before, hbefore, hlen⟩
          refine ⟨c :: before, List.cons_prefix_cons.mpr ⟨rfl, hbefore⟩, ?_⟩
          rw [length_encodeBlocks_cons]
          omega
        · rintro ⟨before, hbefore, hlen⟩
          cases before with
          | nil => exact absurd hlen.symm hzero
          | cons first before =>
            obtain ⟨rfl, hrest⟩ := List.cons_prefix_cons.mp hbefore
            rw [length_encodeBlocks_cons] at hlen
            exact ⟨before, hrest, by omega⟩

/-! ## What lies in front of a cut -/

theorem wellFormed_wholeBlocks {interfaces : List PcapngInterface} {blocks : List FileBlock}
    (hwf : WellFormed interfaces blocks) (n : Nat) :
    WellFormed interfaces (wholeBlocks n blocks) := by
  induction blocks generalizing interfaces n with
  | nil => trivial
  | cons b blocks ih =>
    unfold wholeBlocks
    split
    · trivial
    · exact ⟨hwf.1, ih hwf.2 _⟩

theorem wellFormed_cutBlock {interfaces : List PcapngInterface} {blocks : List FileBlock}
    (hwf : WellFormed interfaces blocks) {n k : Nat} {b : FileBlock}
    (hcut : cutBlock n blocks = some (b, k)) :
    b.WellFormed (interfacesAfter interfaces (wholeBlocks n blocks)) := by
  induction blocks generalizing interfaces n with
  | nil => cases hcut
  | cons c blocks ih =>
    unfold cutBlock at hcut
    unfold wholeBlocks
    split at hcut
    · cases hcut
    · split at hcut
      · rename_i hlt
        cases hcut
        rw [if_pos hlt]
        exact hwf.1
      · rename_i hlt
        rw [if_neg hlt]
        exact ih hwf.2 hcut

theorem lt_of_mem_placedPackets {interfaces : List PcapngInterface} {offset : Nat}
    {blocks : List FileBlock} {p : Nat × UInt32 × Bytes}
    (hp : p ∈ placedPackets interfaces offset blocks) : offset < p.1 := by
  induction blocks generalizing interfaces offset with
  | nil => cases hp
  | cons b blocks ih =>
    have hpos := b.blockOverhead_le
    have h12 : blockOverhead = 12 := rfl
    rw [placedPackets, List.mem_append, Option.mem_toList, Option.map_eq_some_iff] at hp
    rcases hp with ⟨q, -, rfl⟩ | hp
    · dsimp only
      omega
    · have := ih hp
      omega

/-- The packets of the whole blocks are those that end in front of the cut. -/
theorem placedPackets_wholeBlocks (interfaces : List PcapngInterface) (offset n : Nat)
    (blocks : List FileBlock) :
    placedPackets interfaces offset (wholeBlocks n blocks) =
      (placedPackets interfaces offset blocks).filter fun p => p.1 ≤ offset + n := by
  induction blocks generalizing interfaces offset n with
  | nil => rfl
  | cons b blocks ih =>
    have hpacket : ∀ m, ((b.packet? interfaces).map fun p => (offset + b.length, p)).toList.filter
        (fun p => p.1 ≤ m) = if offset + b.length ≤ m then
          ((b.packet? interfaces).map fun p => (offset + b.length, p)).toList else [] := by
      intro m
      cases b.packet? interfaces with
      | none => simp
      | some p =>
        by_cases hm : offset + b.length ≤ m
        · simp [hm]
        · simp [hm]
    rw [placedPackets, List.filter_append, hpacket]
    unfold wholeBlocks
    split
    · rename_i hcut
      rw [if_neg (by omega), List.nil_append, placedPackets, eq_comm, List.filter_eq_nil_iff]
      intro p hp
      have := lt_of_mem_placedPackets hp
      rw [decide_eq_true_eq]
      omega
    · rename_i hcut
      have hend : offset + b.length + (n - b.length) = offset + n := by omega
      rw [if_pos (by omega), placedPackets, ih, hend]

/-! ## The block that is cut -/

section Truncated

variable {interfaces : List PcapngInterface} {b : FileBlock} {offset k : Nat}

theorem parseBlock_take_short (hk : k < 12) : parseBlock interfaces offset (b.encode.take k) =
    .stops "Capture ends with a truncated block" := by
  have htake : (b.encode.take k).length < blockOverhead := by
    have h12 : blockOverhead = 12 := rfl
    rw [List.length_take]
    omega
  unfold parseBlock
  rw [if_pos htake]

theorem readStruct_take (hk : k ≤ b.length) (hread : 8 ≤ k) :
    readStruct Block (b.encode.take k) = some ⟨b.type, UInt32.ofNat b.length⟩ := by
  have htake : Layout.size Block ≤ (b.encode.take k).length := by
    have hblock : Layout.size Block = 8 := rfl
    rw [List.length_take, FileBlock.length_encode]
    omega
  rw [← readStruct_append htake (b.encode.drop k), List.take_append_drop]
  simpa using readStruct_block b []

/-- The length of a section header is checked only behind its fields. -/
theorem parseBlock_take_header (hwf : b.WellFormed interfaces)
    (hheader : b.isSectionHeader = true) (hoffset : offset ≠ 0) (hlow : 12 ≤ k) (hhigh : k < 24)
    (hk : k < b.length) : parseBlock interfaces offset (b.encode.take k) =
      .throws "Truncated PCAPNG section header block" := by
  have htype := (FileBlock.type_eq_sectionHeader hwf).mpr hheader
  have htake : (b.encode.take k).length = k := by
    rw [List.length_take, FileBlock.length_encode]
    omega
  have herror : sectionHeaderError ((b.encode.take k).drop (Layout.size Block)) =
      some "Truncated PCAPNG section header block" := by
    have hblock : Layout.size Block = 8 := rfl
    have hshb : Layout.size PcapngShb = 16 := rfl
    unfold sectionHeaderError
    rw [readStruct_of_lt]
    rw [List.length_drop]
    omega
  have h12 : blockOverhead = 12 := rfl
  unfold parseBlock
  rw [if_neg (by omega), readStruct_take (by omega) (by omega)]
  dsimp only
  rw [if_neg (fun h => hoffset h.1), if_pos htype, herror]

theorem sectionHeaderError_append {data : Bytes} (h : Layout.size PcapngShb ≤ data.length)
    (rest : Bytes) : sectionHeaderError (data ++ rest) = sectionHeaderError data := by
  unfold sectionHeaderError
  rw [readStruct_append h]

/-- Every other block is found to be longer than what is left. -/
theorem parseBlock_take_cut (hwf : b.WellFormed interfaces) (hoffset : offset ≠ 0)
    (hlow : 12 ≤ k) (hhigh : b.isSectionHeader = true → 24 ≤ k) (hk : k < b.length) :
    parseBlock interfaces offset (b.encode.take k) =
      .stops s!"Corrupt or truncated block at offset {offset}; stopping" := by
  have hlength := toNat_length_of_wellFormed hwf
  have htake : (b.encode.take k).length = k := by
    rw [List.length_take, FileBlock.length_encode]
    omega
  have hnone : (if b.type = typeSectionHeader then
      sectionHeaderError ((b.encode.take k).drop (Layout.size Block)) else none) = none := by
    have hwhole := sectionHeaderError_block hwf []
    by_cases htype : b.type = typeSectionHeader
    · have hlong := hhigh ((FileBlock.type_eq_sectionHeader hwf).mp htype)
      have hblock : Layout.size Block = 8 := rfl
      have hshb : Layout.size PcapngShb = 16 := rfl
      rw [if_pos htype] at hwhole ⊢
      rw [List.append_nil, ← List.take_append_drop k b.encode,
        List.drop_append_of_le_length (by omega), sectionHeaderError_append] at hwhole
      · exact hwhole
      · rw [List.length_drop]
        omega
    · exact if_neg htype
  have h12 : blockOverhead = 12 := rfl
  unfold parseBlock
  rw [if_neg (by omega), readStruct_take (by omega) (by omega)]
  dsimp only
  rw [if_neg (fun h => hoffset h.1), hnone, hlength]
  dsimp only
  rw [if_pos (Or.inr (Or.inr (by omega))), if_neg hoffset]

/-- The parser stops at a cut block, unless 12 to 23 bytes of a section header are left. -/
theorem parseBlock_take_stops (hwf : b.WellFormed interfaces) (hoffset : offset ≠ 0)
    (hk : k < b.length) (hother : ¬ (b.isSectionHeader = true ∧ 12 ≤ k ∧ k < 24)) :
    ∃ warning, parseBlock interfaces offset (b.encode.take k) = .stops warning := by
  by_cases hshort : k < 12
  · exact ⟨_, parseBlock_take_short hshort⟩
  · have hlow : 12 ≤ k := Nat.not_lt.mp hshort
    have hlong : b.isSectionHeader = true → 24 ≤ k := by
      intro hheader
      by_contra hhigh
      exact hother ⟨hheader, hlow, Nat.not_le.mp hhigh⟩
    exact ⟨_, parseBlock_take_cut hwf hoffset hlow hlong hk⟩

end Truncated

/-! ## Captures -/

/-- The packets the parser hands to `processPacket`. -/
def packetCalls (events : List ParseEvent) : List (UInt32 × Bytes) :=
  events.filterMap fun
    | .packet linktype data => some (linktype, data)
    | .warning _ => none

/-- The warnings of the parser itself. -/
def ownWarnings (events : List ParseEvent) : List String :=
  events.filterMap fun
    | .packet _ _ => none
    | .warning text => some text

theorem packetCalls_calls (packets : List (Nat × UInt32 × Bytes)) (events : List ParseEvent) :
    packetCalls (calls packets ++ events) = packets.map Prod.snd ++ packetCalls events := by
  induction packets with
  | nil => rfl
  | cons p packets ih => exact congrArg (p.2 :: ·) ih

theorem ownWarnings_calls (packets : List (Nat × UInt32 × Bytes)) (events : List ParseEvent) :
    ownWarnings (calls packets ++ events) = ownWarnings events := by
  induction packets with
  | nil => rfl
  | cons p packets ih => exact ih

/-- What a file keeps of the blocks in front of a cut: the parser does not throw, delivers
the packets that end in front of the cut, and warns once unless nothing is cut. -/
structure KeepsBeforeCut (file : PcapNGFile) (n : Nat) : Prop where
  error : (parseLoop [] 0 (file.encode.take n)).2 = none
  packets : packetCalls (parseLoop [] 0 (file.encode.take n)).1 =
    ((placedPackets [] 0 file.blocks).filter fun p => p.1 ≤ n).map Prod.snd
  atBoundary : IsBoundary n file.blocks →
    ownWarnings (parseLoop [] 0 (file.encode.take n)).1 = []
  elsewhere : ¬ IsBoundary n file.blocks →
    (ownWarnings (parseLoop [] 0 (file.encode.take n)).1).length = 1

/-- What the parser does behind the whole blocks decides, and it hands on no packet there. -/
theorem keepsBeforeCut_of_run {file : PcapNGFile} {n : Nat} {events : List ParseEvent}
    (hrun : parseLoop [] 0 (file.encode.take n) =
      (calls ((placedPackets [] 0 file.blocks).filter fun p => p.1 ≤ n) ++ events, none))
    (hpackets : packetCalls events = [])
    (hat : IsBoundary n file.blocks → ownWarnings events = [])
    (helsewhere : ¬ IsBoundary n file.blocks → (ownWarnings events).length = 1) :
    KeepsBeforeCut file n := by
  constructor
  · rw [hrun]
  · rw [hrun, packetCalls_calls, hpackets, List.append_nil]
  · rw [hrun, ownWarnings_calls]
    exact hat
  · rw [hrun, ownWarnings_calls]
    exact helsewhere

/-- The cut leaves 12 to 23 bytes of a section header. -/
def CutsSectionHeader (file : PcapNGFile) (n : Nat) : Prop :=
  ∃ before header after, file.blocks = before ++ header :: after ∧
    header.isSectionHeader = true ∧ (encodeBlocks before).length + 12 ≤ n ∧
      n < (encodeBlocks before).length + 24

/-- A section header has its fields. -/
theorem length_of_isSectionHeader {b : FileBlock} (h : b.isSectionHeader = true) :
    28 ≤ b.length := by
  cases b with
  | sectionHeader majorVersion minorVersion sectionLength options =>
    have hshb : Layout.size PcapngShb = 16 := rfl
    have h12 : blockOverhead = 12 := rfl
    rw [FileBlock.length, FileBlock.body, List.length_append, Layout.length_encode]
    omega
  | interface => cases h
  | enhanced => cases h
  | simple => cases h
  | other => cases h

theorem cutsSectionHeader_iff {file : PcapNGFile} {n : Nat} :
    CutsSectionHeader file n ↔ ∃ header k, cutBlock n file.blocks = some (header, k) ∧
      header.isSectionHeader = true ∧ 12 ≤ k ∧ k < 24 := by
  constructor
  · rintro ⟨before, header, after, hblocks, hheader, hlow, hhigh⟩
    have hlen := length_of_isSectionHeader hheader
    refine ⟨header, n - (encodeBlocks before).length, ?_, hheader, by omega, by omega⟩
    exact cutBlock_eq_some_iff.mpr ⟨before, after, hblocks, by omega, by omega, by omega⟩
  · rintro ⟨header, k, hcut, hheader, hlow, hhigh⟩
    obtain ⟨before, after, hblocks, hn, -⟩ := cutBlock_eq_some_iff.mp hcut
    exact ⟨before, header, after, hblocks, hheader, by omega, by omega⟩

/-- The first block is not cut. -/
theorem wholeBlocks_of_first {file : PcapNGFile} {first : FileBlock}
    (hfirst : file.blocks.head? = some first) {n : Nat} (hn : first.length ≤ n) :
    (wholeBlocks n file.blocks).head? = some first := by
  cases hblocks : file.blocks with
  | nil =>
    rw [hblocks] at hfirst
    cases hfirst
  | cons b blocks =>
    rw [hblocks] at hfirst
    obtain rfl := Option.some.inj hfirst
    unfold wholeBlocks
    rw [if_neg (by omega)]
    rfl

/-- The parser on the first bytes of a file: the packets of the whole blocks, and what it
does with the tail. -/
theorem parseLoop_take {file : PcapNGFile} {first : FileBlock}
    (hfirst : file.blocks.head? = some first) {n : Nat} (hn : first.length ≤ n) :
    ∃ offset, offset ≠ 0 ∧ parseLoop [] 0 (file.encode.take n) =
      (calls ((placedPackets [] 0 file.blocks).filter fun p => p.1 ≤ n) ++
          (parseLoop (interfacesAfter [] (wholeBlocks n file.blocks)) offset
            (cutTail n file.blocks)).1,
        (parseLoop (interfacesAfter [] (wholeBlocks n file.blocks)) offset
          (cutTail n file.blocks)).2) := by
  have hhead := wholeBlocks_of_first hfirst hn
  refine ⟨0 + (encodeBlocks (wholeBlocks n file.blocks)).length, ?_, ?_⟩
  · have hpos := first.blockOverhead_le
    have h12 : blockOverhead = 12 := rfl
    cases hwhole : wholeBlocks n file.blocks with
    | nil =>
      rw [hwhole] at hhead
      cases hhead
    | cons b blocks =>
      rw [hwhole] at hhead
      obtain rfl := Option.some.inj hhead
      rw [length_encodeBlocks_cons]
      omega
  · have hheader : ∀ b ∈ (wholeBlocks n file.blocks).head?, b.isSectionHeader = true := by
      rw [hhead, ← hfirst]
      exact file.header
    have hrun := parseLoop_append (wellFormed_wholeBlocks file.wellFormed n) 0 (fun _ => hheader)
      (cutTail n file.blocks)
    rw [placedPackets_wholeBlocks, Nat.zero_add n] at hrun
    rw [PcapNGFile.encode, take_encodeBlocks]
    exact hrun

section Cut

variable {file : PcapNGFile} {first : FileBlock} {n : Nat}

/-- A cut between two blocks. -/
theorem keepsBeforeCut_of_boundary (hfirst : file.blocks.head? = some first)
    (hn : first.length ≤ n) (hsize : n ≤ file.encode.length)
    (hcut : cutBlock n file.blocks = none) : KeepsBeforeCut file n := by
  obtain ⟨offset, -, hrun⟩ := parseLoop_take hfirst hn
  have htail : cutTail n file.blocks = [] := by
    unfold cutTail
    rw [hcut]
  have hend : parseLoop (interfacesAfter [] (wholeBlocks n file.blocks)) offset [] =
      ([], none) := by
    rw [parseLoop]
    rfl
  rw [htail, hend] at hrun
  apply keepsBeforeCut_of_run hrun rfl
  · intro _
    rfl
  · intro helsewhere
    exact absurd ((cutBlock_eq_none_iff hsize).mp hcut) helsewhere

/-- A cut inside a block. -/
theorem keepsBeforeCut_inside_iff (hfirst : file.blocks.head? = some first)
    (hn : first.length ≤ n) (hsize : n ≤ file.encode.length) {b : FileBlock} {k : Nat}
    (hcut : cutBlock n file.blocks = some (b, k)) :
    KeepsBeforeCut file n ↔ ¬ (b.isSectionHeader = true ∧ 12 ≤ k ∧ k < 24) := by
  obtain ⟨offset, hoffset, hrun⟩ := parseLoop_take hfirst hn
  have hwf := wellFormed_cutBlock file.wellFormed hcut
  obtain ⟨before, after, -, -, hpos, hk⟩ := cutBlock_eq_some_iff.mp hcut
  have htail : cutTail n file.blocks = b.encode.take k := by
    unfold cutTail
    rw [hcut]
  have hdata : 0 < (b.encode.take k).length := by
    rw [List.length_take, FileBlock.length_encode]
    omega
  have hinside : ¬ IsBoundary n file.blocks := by
    rw [← cutBlock_eq_none_iff hsize, hcut]
    exact Option.some_ne_none _
  rw [htail] at hrun
  by_cases hheader : b.isSectionHeader = true ∧ 12 ≤ k ∧ k < 24
  · rw [parseLoop_of_throws
      (parseBlock_take_header hwf hheader.1 hoffset hheader.2.1 hheader.2.2 hk) hdata] at hrun
    refine iff_of_false ?_ (fun hno => hno hheader)
    intro hkeeps
    have herror := hkeeps.error
    rw [hrun] at herror
    cases herror
  · obtain ⟨warning, hstops⟩ := parseBlock_take_stops hwf hoffset hk hheader
    rw [parseLoop_of_stops hstops hdata] at hrun
    refine iff_of_true ?_ hheader
    apply keepsBeforeCut_of_run hrun rfl
    · intro hat
      exact absurd hat hinside
    · intro _
      rfl

end Cut

/-- **Cuts.** A capture that is cut behind its first block keeps what is in front of the
cut, if and only if the cut does not leave 12 to 23 bytes of a section header. -/
theorem cut_keeps_iff (file : PcapNGFile) {first : FileBlock}
    (hfirst : file.blocks.head? = some first) {n : Nat} (hn : first.length ≤ n)
    (hsize : n ≤ file.encode.length) :
    KeepsBeforeCut file n ↔ ¬ CutsSectionHeader file n := by
  rw [cutsSectionHeader_iff]
  cases hcut : cutBlock n file.blocks with
  | none =>
    refine iff_of_true (keepsBeforeCut_of_boundary hfirst hn hsize hcut) ?_
    rintro ⟨header, k, hsome, -⟩
    cases hsome
  | some cut =>
    obtain ⟨b, k⟩ := cut
    rw [keepsBeforeCut_inside_iff hfirst hn hsize hcut, not_iff_not]
    constructor
    · intro hheader
      exact ⟨b, k, rfl, hheader⟩
    · rintro ⟨header, k', hsome, hcuts⟩
      cases hsome
      exact hcuts

/-- Two sections without packets, 28 bytes each. -/
def twoSections : PcapNGFile where
  blocks := [.sectionHeader 1 0 (-1) [], .sectionHeader 1 0 (-1) []]
  header := by
    intro b hb
    obtain rfl := Option.some.inj hb
    rfl
  wellFormed := ⟨⟨rfl, by decide, trivial⟩, ⟨rfl, by decide, trivial⟩, trivial⟩

theorem cut_keeps_iff_example :
    KeepsBeforeCut twoSections 40 ↔ ¬ CutsSectionHeader twoSections 40 :=
  cut_keeps_iff twoSections rfl (by decide) (by decide)

/-- The parser throws when 12 bytes of the second section header are left. -/
theorem not_cut_keeps :
    ¬ ∀ (file : PcapNGFile) (first : FileBlock) (n : Nat), file.blocks.head? = some first →
      first.length ≤ n → n ≤ file.encode.length → KeepsBeforeCut file n := by
  intro hall
  have herror := (hall twoSections _ 40 rfl (by decide) (by decide)).error
  have hthrows : (parseLoop [] 0 (twoSections.encode.take 40)).2 =
      some "Truncated PCAPNG section header block" := by
    decide +kernel
  rw [hthrows] at herror
  cases herror

end DemuxUsb.PcapNGInputFile
