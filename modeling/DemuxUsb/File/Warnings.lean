import DemuxUsb.File.OpenedFiles

/-!
# What a capture reports of its packets

The warnings of a capture are a matter of the packets and the remarks of the reader alone, in
their order: `warningsOf` lists all of them, of which a capture counts every one and keeps the
first `maxWarnings`.

* `Reports.perform`: the step lemma, for a packet or a remark;
* `warnings_exact`: what every file reports.
-/

namespace DemuxUsb

open PcapNGInputFile (ParseEvent perform packetCalls)
open Places

/-- The warning of a decoder. -/
def Decoded.warning? : Decoded → Option String
  | .rejected warning => some warning
  | .rejectedAt _ warning => some warning
  | .accepted _ _ => none

/-- The warning about a link type that is not decoded. -/
def unsupportedWarning (linktype : UInt32) : String :=
  s!"Skipping packets with unsupported link type {linktype.toNat}"

/-- The warning about a packet behind packets of these link types: a link type that is not
decoded is named once. -/
def Captured.warning? (seen : List UInt32) (p : Captured) : Option String :=
  match p.decoded with
  | some d => d.warning?
  | none => if p.1 ∈ seen then none else some (unsupportedWarning p.1)

/-- The link types of the packets that are handed on. -/
def linktypesOf (events : List ParseEvent) : List UInt32 := (packetCalls events).map Prod.fst

/-- The warning that an event gives in its place. -/
def warningAt (q : Place ParseEvent) : Option String :=
  match q.item with
  | .packet linktype data => Captured.warning? (linktypesOf q.before) (linktype, data)
  | .warning text => some text

/-- All warnings, in order. -/
def warningsOf (events : List ParseEvent) : List String := (places events).filterMap warningAt

theorem warningsOf_concat (events : List ParseEvent) (e : ParseEvent) :
    warningsOf (events ++ [e]) = warningsOf events ++ (warningAt ⟨events, e, []⟩).toList :=
  filterMap_places_concat (fun _ _ => rfl) events e

namespace InputFile

variable {π : Type}

/-- What a capture knows of the events so far. -/
structure Reports (f : InputFile π) (events : List ParseEvent) : Prop where
  packetCount : f.packetCount = UInt64.ofNat (packetCalls events).length
  warningCount : f.warningCount = UInt64.ofNat (warningsOf events).length
  warnings : f.warnings = (warningsOf events).take maxWarnings
  unsupported : ∀ linktype, linktype ∈ f.unsupportedLinktypes ↔
    linktype ∈ linktypesOf events ∧ LinkType.ofCode linktype = none

theorem reports_nil : Reports ({} : InputFile π) [] where
  packetCount := rfl
  warningCount := rfl
  warnings := rfl
  unsupported := by
    intro linktype
    exact iff_of_false Std.ExtTreeMap.not_mem_empty fun h => List.not_mem_nil h.1

/-- The capture with a warning, if there is one. -/
def addWarning (f : InputFile π) : Option String → InputFile π
  | none => f
  | some text => f.warn text

/-- The warning is counted, and kept when there is room. -/
theorem Reports.concat {f f' : InputFile π} {events : List ParseEvent} {e : ParseEvent}
    (h : f.Reports events)
    (hpackets : f'.packetCount = f.packetCount + UInt64.ofNat (packetCalls [e]).length)
    (hwarned : f'.warningCount = (f.addWarning (warningAt ⟨events, e, []⟩)).warningCount ∧
      f'.warnings = (f.addWarning (warningAt ⟨events, e, []⟩)).warnings)
    (hunsupported : ∀ linktype, linktype ∈ f'.unsupportedLinktypes ↔
      linktype ∈ f.unsupportedLinktypes ∨
        linktype ∈ linktypesOf [e] ∧ LinkType.ofCode linktype = none) :
    f'.Reports (events ++ [e]) := by
  have hcalls : packetCalls (events ++ [e]) = packetCalls events ++ packetCalls [e] :=
    List.filterMap_append
  obtain ⟨hcount, hkept⟩ := hwarned
  constructor
  · rw [hpackets, h.packetCount, hcalls, List.length_append, UInt64.ofNat_add]
  · rw [hcount, warningsOf_concat, List.length_append, UInt64.ofNat_add, ← h.warningCount]
    cases warningAt ⟨events, e, []⟩ with
    | none => exact (UInt64.add_zero _).symm
    | some text => rfl
  · rw [hkept, warningsOf_concat]
    cases warningAt ⟨events, e, []⟩ with
    | none =>
      rw [Option.toList_none, List.append_nil]
      exact h.warnings
    | some text =>
      show (if f.warnings.length < maxWarnings then f.warnings ++ [text] else f.warnings) =
        (warningsOf events ++ [text]).take maxWarnings
      rw [h.warnings, List.length_take, List.take_append]
      split
      · next hroom => rw [List.take_of_length_le (l := [text]) (by simp; omega)]
      · next hfull =>
        rw [show maxWarnings - (warningsOf events).length = 0 by omega, List.take_zero,
          List.append_nil]
  · intro linktype
    rw [hunsupported, h.unsupported, linktypesOf, linktypesOf, linktypesOf, hcalls,
      List.map_append, List.mem_append, or_and_right]

variable [Libplist π]

theorem processPacket_of_no_decoder (f : InputFile π) {p : Captured} (h : p.decoded = none) :
    f.processPacket p.1 p.2 =
      if p.1 ∈ f.unsupportedLinktypes then ({ f with packetCount := f.packetCount + 1 }, false)
      else
        (warn { f with
            packetCount := f.packetCount + 1
            unsupportedLinktypes := f.unsupportedLinktypes.insert p.1 () }
          (unsupportedWarning p.1), false) := by
  have hcode : ∀ l : LinkType, p.1 ≠ l.code := by
    intro l hl
    have hfound : LinkType.ofCode p.1 = some l := by
      rw [hl]
      cases l <;> rfl
    rw [Captured.decoded, hfound] at h
    cases h
  have hdarwin : p.1 ≠ linktypeUsbDarwin := hcode .usbDarwin
  have husbpcap : p.1 ≠ linktypeUsbpcap := hcode .usbpcap
  have hlinux : p.1 ≠ linktypeUsbLinux := hcode .usbLinux
  have hmmapped : p.1 ≠ linktypeUsbLinuxMmapped := hcode .usbLinuxMmapped
  unfold processPacket
  dsimp only
  rw [if_neg hdarwin, if_neg husbpcap, if_neg hlinux, if_neg hmmapped]
  rfl

/-- **Step lemma.** -/
theorem Reports.perform {f : InputFile π} {events : List ParseEvent} (h : f.Reports events)
    (e : ParseEvent) : (PcapNGInputFile.perform f e).Reports (events ++ [e]) := by
  cases e with
  | warning text =>
    refine h.concat (UInt64.add_zero _).symm ⟨rfl, rfl⟩ ?_
    intro linktype
    exact (or_iff_left fun hmem => List.not_mem_nil hmem.1).symm
  | packet linktype data =>
    have hat : warningAt ⟨events, .packet linktype data, []⟩ =
        Captured.warning? (linktypesOf events) (linktype, data) := rfl
    have hone : linktypesOf [.packet linktype data] = [linktype] := rfl
    show (f.processPacket linktype data).1.Reports _
    cases hdecoded : Captured.decoded (linktype, data) with
    | some d =>
      have hcode : LinkType.ofCode linktype ≠ none := by
        intro hnone
        rw [Captured.decoded, hnone] at hdecoded
        cases hdecoded
      have hprocess := f.processPacket_of_decoded hdecoded
      dsimp only at hprocess
      have hwarning : Captured.warning? (linktypesOf events) (linktype, data) = d.warning? := by
        unfold Captured.warning?
        rw [hdecoded]
      rw [hprocess]
      refine h.concat ?_ ?_ ?_
      · cases d with
        | rejected warning => rfl
        | rejectedAt address warning => rfl
        | accepted address c => cases c <;> rfl
      · rw [hat, hwarning]
        cases d with
        | rejected warning => exact ⟨rfl, rfl⟩
        | rejectedAt address warning => exact ⟨rfl, rfl⟩
        | accepted address c => cases c <;> exact ⟨rfl, rfl⟩
      · intro other
        have hnot : ¬ (other ∈ linktypesOf [.packet linktype data] ∧ LinkType.ofCode other = none) := by
          rintro ⟨hmem, hnone⟩
          rw [List.mem_singleton.mp hmem] at hnone
          exact hcode hnone
        rw [or_iff_left hnot]
        cases d with
        | rejected warning => rfl
        | rejectedAt address warning => rfl
        | accepted address c => cases c <;> rfl
    | none =>
      have hcode : LinkType.ofCode linktype = none := Option.map_eq_none_iff.mp hdecoded
      have hprocess := f.processPacket_of_no_decoder hdecoded
      have hseen := h.unsupported linktype
      rw [and_iff_left hcode] at hseen
      dsimp only at hprocess
      have hwarning : Captured.warning? (linktypesOf events) (linktype, data) =
          if linktype ∈ linktypesOf events then none else some (unsupportedWarning linktype) := by
        unfold Captured.warning?
        rw [hdecoded]
      by_cases hknown : linktype ∈ f.unsupportedLinktypes
      · rw [hprocess, if_pos hknown]
        refine h.concat rfl ?_ ?_
        · rw [hat, hwarning, if_pos (hseen.mp hknown)]
          exact ⟨rfl, rfl⟩
        · intro other
          refine (or_iff_left_of_imp ?_).symm
          rintro ⟨hmem, -⟩
          rw [List.mem_singleton.mp hmem]
          exact hknown
      · rw [hprocess, if_neg hknown]
        refine h.concat rfl ?_ ?_
        · rw [hat, hwarning, if_neg (mt hseen.mpr hknown)]
          exact ⟨rfl, rfl⟩
        · intro other
          show other ∈ f.unsupportedLinktypes.insert linktype () ↔ _
          rw [Std.ExtTreeMap.mem_insert, Std.compare_eq_iff_eq, hone, List.mem_singleton]
          constructor
          · rintro (rfl | hmem)
            · exact Or.inr ⟨rfl, hcode⟩
            · exact Or.inl hmem
          · rintro (hmem | ⟨rfl, -⟩)
            · exact Or.inr hmem
            · exact Or.inl rfl

/-- **Run lemma.** -/
theorem reports_foldl (events : List ParseEvent) :
    (events.foldl PcapNGInputFile.perform ({} : InputFile π)).Reports events := by
  induction events using List.reverseRecOn with
  | nil => exact reports_nil
  | append_singleton events e ih =>
    rw [List.foldl_concat]
    exact ih.perform e

/-- **Warnings.** Whatever the file is, every packet is counted, every remark of the reader and
every packet that is not decoded gives the warning that `warningsOf` says, in order and no
other, and the first hundred are kept. A link type that is not decoded is named once. -/
theorem warnings_exact (reader : Reader) (data : Bytes) :
    let f := (reader.parse ({} : InputFile π) data).1
    let warnings := warningsOf (reader.events data).1
    f.packetCount = UInt64.ofNat (packetCalls (reader.events data).1).length ∧
      f.warningCount = UInt64.ofNat warnings.length ∧ f.warnings = warnings.take maxWarnings := by
  dsimp only
  rw [Reader.parse_eq]
  obtain ⟨hpackets, hcount, hwarnings, -⟩ := reports_foldl (π := π) (reader.events data).1
  exact ⟨hpackets, hcount, hwarnings⟩

end InputFile

end DemuxUsb
