import DemuxUsb.Protocol.ArtifactNames
import DemuxUsb.Protocol.StreamLabels
import DemuxUsb.Usb.SharedExperts

/-!
# Extraction

The artifacts of all experts of a device are written to one directory, under names that
each expert makes up by itself. `Expert.Collide` says of two experts that they use a name
in common.

* `artifacts_kept_iff`: in the state that a run ends in, extraction keeps every artifact
  exactly when no two of the listed experts collide.
-/

namespace DemuxUsb

variable {π : Type}

/-! ## Collisions -/

namespace RecoveryInterfaceExpert

/-- There is an upload with data. -/
def HasUpload (e : RecoveryInterfaceExpert) : Prop :=
  ∃ payload ∈ e.payloads, payload.kind = .upload ∧ payload.data ≠ []

theorem uploads_pos_iff {e : RecoveryInterfaceExpert} : 0 < e.uploads.length ↔ e.HasUpload := by
  unfold uploads HasUpload
  rw [List.length_pos_iff_exists_mem]
  apply exists_congr
  intro payload
  rw [List.mem_filter, decide_eq_true_iff]

end RecoveryInterfaceExpert

namespace USBMUXInterfaceExpert

/-- The stream of the id has messages. -/
def HasMessages (e : USBMUXInterfaceExpert π) (id : UInt64) : Prop :=
  ∃ stream, e.table.streams[id]? = some (some stream) ∧ stream.messages ≠ []

end USBMUXInterfaceExpert

namespace Expert

def getArtifacts [LibplistXml π] : Expert π → List ExtractedArtifact
  | usbmux e => e.getArtifacts
  | dfu e => e.getArtifacts
  | recovery e => e.getArtifacts

def artifactNames : Expert π → List ArtifactName
  | usbmux e => e.artifactNames
  | dfu e => e.artifactNames
  | recovery e => e.artifactNames

theorem getArtifacts_names [LibplistXml π] (e : Expert π) :
    e.getArtifacts.map (·.name) = e.artifactNames.map ArtifactName.text := by
  cases e with
  | usbmux e => exact e.getArtifacts_names
  | dfu e => exact e.getArtifacts_names
  | recovery e => exact e.getArtifacts_names

theorem nodup_artifactNames (e : Expert π) : e.artifactNames.Nodup := by
  cases e with
  | usbmux e => exact e.nodup_artifactNames
  | dfu e => exact e.nodup_artifactNames
  | recovery e => exact e.nodup_artifactNames

/-- Both have a completed DFU image, or neither has and both have a partial one; both have
an upload with data, or console output; both have messages on a stream of the same id. -/
def Collide : Expert π → Expert π → Prop
  | dfu e, dfu e' =>
    (e.images ≠ [] ∧ e'.images ≠ []) ∨
      (e.images = [] ∧ e.currentImage ≠ []) ∧ e'.images = [] ∧ e'.currentImage ≠ []
  | recovery e, recovery e' => e.HasUpload ∧ e'.HasUpload ∨ e.console ≠ [] ∧ e'.console ≠ []
  | usbmux e, usbmux e' => ∃ id, e.HasMessages id ∧ e'.HasMessages id
  | _, _ => False

/-- The streams of a USBMUX expert are known by their ports. -/
def Consistent [Libplist π] : Expert π → Prop
  | usbmux e => e.table.Consistent
  | dfu _ => True
  | recovery _ => True

/-- Two DFU experts number their images alike. -/
theorem collide_dfu_iff {e e' : DFUInterfaceExpert} :
    (∃ a, a ∈ e.artifactNames ∧ a ∈ e'.artifactNames) ↔ (dfu e : Expert π).Collide (dfu e') := by
  constructor
  · rintro ⟨a, ha, ha'⟩
    rcases DFUInterfaceExpert.mem_artifactNames.mp ha with ⟨i, hi, rfl⟩ | ⟨hcurrent, rfl⟩
    · rcases DFUInterfaceExpert.mem_artifactNames.mp ha' with ⟨j, hj, heq⟩ | ⟨-, heq⟩
      · exact Or.inl ⟨List.ne_nil_of_length_pos (by omega), List.ne_nil_of_length_pos (by omega)⟩
      · cases heq
    · rcases DFUInterfaceExpert.mem_artifactNames.mp ha' with ⟨j, hj, heq⟩ | ⟨hcurrent', heq⟩
      · cases heq
      · have hlength : e.images.length = e'.images.length := ArtifactName.dfuPartialImage.inj heq
        by_cases hnone : e.images = []
        · rw [hnone, List.length_nil] at hlength
          exact Or.inr ⟨⟨hnone, hcurrent⟩, List.length_eq_zero_iff.mp hlength.symm, hcurrent'⟩
        · have hpos := List.length_pos_of_ne_nil hnone
          exact Or.inl ⟨hnone, List.ne_nil_of_length_pos (by omega)⟩
  · rintro (⟨himages, himages'⟩ | ⟨⟨hnone, hcurrent⟩, hnone', hcurrent'⟩)
    · refine ⟨.dfuImage 0, ?_, ?_⟩
      · exact DFUInterfaceExpert.mem_artifactNames.mpr
          (Or.inl ⟨0, List.length_pos_of_ne_nil himages, rfl⟩)
      · exact DFUInterfaceExpert.mem_artifactNames.mpr
          (Or.inl ⟨0, List.length_pos_of_ne_nil himages', rfl⟩)
    · refine ⟨.dfuPartialImage 0, ?_, ?_⟩
      · exact DFUInterfaceExpert.mem_artifactNames.mpr (Or.inr ⟨hcurrent, by rw [hnone]; rfl⟩)
      · exact DFUInterfaceExpert.mem_artifactNames.mpr (Or.inr ⟨hcurrent', by rw [hnone']; rfl⟩)

theorem collide_recovery_iff {e e' : RecoveryInterfaceExpert} :
    (∃ a, a ∈ e.artifactNames ∧ a ∈ e'.artifactNames) ↔
      (recovery e : Expert π).Collide (recovery e') := by
  constructor
  · rintro ⟨a, ha, ha'⟩
    rcases RecoveryInterfaceExpert.mem_artifactNames.mp ha with ⟨i, hi, rfl⟩ | ⟨hconsole, rfl⟩
    · rcases RecoveryInterfaceExpert.mem_artifactNames.mp ha' with ⟨j, hj, heq⟩ | ⟨-, heq⟩
      · exact Or.inl ⟨RecoveryInterfaceExpert.uploads_pos_iff.mp (Nat.zero_lt_of_lt hi),
          RecoveryInterfaceExpert.uploads_pos_iff.mp (Nat.zero_lt_of_lt hj)⟩
      · cases heq
    · rcases RecoveryInterfaceExpert.mem_artifactNames.mp ha' with ⟨j, hj, heq⟩ | ⟨hconsole', -⟩
      · cases heq
      · exact Or.inr ⟨hconsole, hconsole'⟩
  · rintro (⟨hupload, hupload'⟩ | ⟨hconsole, hconsole'⟩)
    · refine ⟨.recoveryUpload 0, ?_, ?_⟩
      · exact RecoveryInterfaceExpert.mem_artifactNames.mpr
          (Or.inl ⟨0, RecoveryInterfaceExpert.uploads_pos_iff.mpr hupload, rfl⟩)
      · exact RecoveryInterfaceExpert.mem_artifactNames.mpr
          (Or.inl ⟨0, RecoveryInterfaceExpert.uploads_pos_iff.mpr hupload', rfl⟩)
    · refine ⟨.recoveryConsole, ?_, ?_⟩
      · exact RecoveryInterfaceExpert.mem_artifactNames.mpr (Or.inr ⟨hconsole, rfl⟩)
      · exact RecoveryInterfaceExpert.mem_artifactNames.mpr (Or.inr ⟨hconsole', rfl⟩)

/-- An id tells the ports of its stream. -/
theorem collide_usbmux_iff {e e' : USBMUXInterfaceExpert π} (h : e.table.Labelled)
    (h' : e'.table.Labelled) :
    (∃ a, a ∈ e.artifactNames ∧ a ∈ e'.artifactNames) ↔ (usbmux e).Collide (usbmux e') := by
  constructor
  · rintro ⟨a, ha, ha'⟩
    obtain ⟨id, stream, hstream, hmessages, rfl⟩ := USBMUXInterfaceExpert.mem_artifactNames.mp ha
    obtain ⟨id', stream', hstream', hmessages', heq⟩ :=
      USBMUXInterfaceExpert.mem_artifactNames.mp ha'
    obtain ⟨rfl, -, -⟩ := ArtifactName.plist.inj heq
    exact ⟨id, ⟨stream, hstream, hmessages⟩, stream', hstream', hmessages'⟩
  · rintro ⟨id, ⟨stream, hstream, hmessages⟩, stream', hstream', hmessages'⟩
    obtain ⟨_, index, hentry, hid⟩ := h id _ hstream
    obtain rfl := Option.some.inj hentry
    obtain ⟨_, index', hentry', hid'⟩ := h' id _ hstream'
    obtain rfl := Option.some.inj hentry'
    obtain ⟨hhost, hdevice, -⟩ := streamId_inj (hid.symm.trans hid')
    refine ⟨.plist id stream.host stream.device, ?_, ?_⟩
    · exact USBMUXInterfaceExpert.mem_artifactNames.mpr ⟨id, stream, hstream, hmessages, rfl⟩
    · rw [hhost, hdevice]
      exact USBMUXInterfaceExpert.mem_artifactNames.mpr ⟨id, stream', hstream', hmessages', rfl⟩

/-- The class of an expert. -/
inductive Maker where
  | usbmux
  | dfu
  | recovery

def maker : Expert π → Maker
  | usbmux _ => .usbmux
  | dfu _ => .dfu
  | recovery _ => .recovery

/-- The class that makes the name up. -/
def makerOf : ArtifactName → Maker
  | .plist _ _ _ => .usbmux
  | .dfuImage _ => .dfu
  | .dfuPartialImage _ => .dfu
  | .recoveryUpload _ => .recovery
  | .recoveryConsole => .recovery

theorem maker_of_mem {e : Expert π} {a : ArtifactName} (h : a ∈ e.artifactNames) :
    makerOf a = e.maker := by
  cases e with
  | usbmux e =>
    obtain ⟨id, stream, -, -, rfl⟩ := USBMUXInterfaceExpert.mem_artifactNames.mp h
    rfl
  | dfu e =>
    rcases DFUInterfaceExpert.mem_artifactNames.mp h with ⟨i, -, rfl⟩ | ⟨-, rfl⟩
    · rfl
    · rfl
  | recovery e =>
    rcases RecoveryInterfaceExpert.mem_artifactNames.mp h with ⟨i, -, rfl⟩ | ⟨-, rfl⟩
    · rfl
    · rfl

/-- **Spec lemma** of the names: two experts use one in common exactly when they collide. -/
theorem collide_iff {e e' : Expert π} [Libplist π] (h : e.Consistent) (h' : e'.Consistent) :
    (∃ a, a ∈ e.artifactNames ∧ a ∈ e'.artifactNames) ↔ e.Collide e' := by
  have hsame : (∃ a, a ∈ e.artifactNames ∧ a ∈ e'.artifactNames) → e.maker = e'.maker := by
    rintro ⟨a, ha, ha'⟩
    rw [← maker_of_mem ha, maker_of_mem ha']
  cases e with
  | usbmux e =>
    cases e' with
    | usbmux e' => exact collide_usbmux_iff h.labelled h'.labelled
    | dfu e' => exact iff_of_false (fun hshared => Maker.noConfusion (hsame hshared)) id
    | recovery e' => exact iff_of_false (fun hshared => Maker.noConfusion (hsame hshared)) id
  | dfu e =>
    cases e' with
    | usbmux e' => exact iff_of_false (fun hshared => Maker.noConfusion (hsame hshared)) id
    | dfu e' => exact collide_dfu_iff
    | recovery e' => exact iff_of_false (fun hshared => Maker.noConfusion (hsame hshared)) id
  | recovery e =>
    cases e' with
    | usbmux e' => exact iff_of_false (fun hshared => Maker.noConfusion (hsame hshared)) id
    | dfu e' => exact iff_of_false (fun hshared => Maker.noConfusion (hsame hshared)) id
    | recovery e' => exact collide_recovery_iff

variable [Libplist π]

theorem Consistent.receive {e : Expert π} (h : e.Consistent) (x : Delivery) :
    (e.receive x).Consistent := by
  cases e with
  | usbmux e =>
    cases x with
    | controlIn setup data => exact h
    | controlOut setup data => exact h
    | bulkIn data =>
      have hfed : (e.processBulkIn data).table.Consistent := by
        apply StreamTable.Consistent.feed
        exact h
      exact hfed
    | bulkOut data =>
      have hfed : (e.processBulkOut data).table.Consistent := by
        apply StreamTable.Consistent.feed
        exact h
      exact hfed
  | dfu e => cases x <;> trivial
  | recovery e => cases x <;> trivial

end Expert

/-! ## The directory of a device -/

namespace Device

variable [LibplistXml π]

/-- The artifacts of the listed experts, in the order they are written. -/
def artifacts (d : Device π) : List ExtractedArtifact :=
  d.getExperts.flatMap fun n => (d.experts[n]?.map Expert.getArtifacts).getD []

/-- `extract`: the files in the directory of the device. A file that is there already is
overwritten. -/
def extract (d : Device π) : Std.ExtTreeMap String Bytes :=
  d.artifacts.foldl (fun files artifact => files.insert artifact.name artifact.data) ∅

/-- The names are different, and so every artifact is in the directory. -/
structure ArtifactsKept (d : Device π) : Prop where
  names : (d.artifacts.map ExtractedArtifact.name).Nodup
  written : ∀ artifact ∈ d.artifacts, d.extract[artifact.name]? = some artifact.data

/-- Two places hold experts that collide. -/
def Collide (d : Device π) (m n : Nat) : Prop :=
  ∃ e e', d.experts[m]? = some e ∧ d.experts[n]? = some e' ∧ e.Collide e'

theorem consistent_run (id : UInt64) (packets : List DevicePacket) :
    ∀ e ∈ ((new id : Device π).run packets).experts, e.Consistent := by
  apply forall_experts_run
  · intro config e hnew
    cases hnew with
    | usbmux number => exact StreamTable.consistent_empty
    | dfu number => trivial
    | recovery => trivial
  · exact fun e x he => he.receive x

/-- The names of the expert at a place. -/
def namesAt (d : Device π) (n : Nat) : List ArtifactName :=
  (d.experts[n]?.map Expert.artifactNames).getD []

theorem artifacts_names (d : Device π) :
    d.artifacts.map ExtractedArtifact.name =
      (d.getExperts.flatMap d.namesAt).map ArtifactName.text := by
  unfold artifacts
  rw [List.map_flatMap, List.map_flatMap]
  congr 1
  ext1 n
  unfold namesAt
  cases d.experts[n]? with
  | none => rfl
  | some e => exact e.getArtifacts_names

omit [LibplistXml π] in
theorem mem_namesAt {d : Device π} {n : Nat} {a : ArtifactName} :
    a ∈ d.namesAt n ↔ ∃ e, d.experts[n]? = some e ∧ a ∈ e.artifactNames := by
  unfold namesAt
  cases d.experts[n]? with
  | none => simp
  | some e => simp

omit [LibplistXml π] in
theorem nodup_namesAt (d : Device π) (n : Nat) : (d.namesAt n).Nodup := by
  unfold namesAt
  cases d.experts[n]? with
  | none => exact List.nodup_nil
  | some e => exact e.nodup_artifactNames

theorem disjoint_namesAt_iff {d : Device π} (h : ∀ e ∈ d.experts, e.Consistent) (m n : Nat) :
    List.Disjoint (d.namesAt m) (d.namesAt n) ↔ ¬ d.Collide m n := by
  rw [List.disjoint_left]
  constructor
  · rintro hdisjoint ⟨e, e', he, he', hcollide⟩
    obtain ⟨a, ha, ha'⟩ := (Expert.collide_iff (h e (List.mem_of_getElem? he))
      (h e' (List.mem_of_getElem? he'))).mpr hcollide
    exact hdisjoint (mem_namesAt.mpr ⟨e, he, ha⟩) (mem_namesAt.mpr ⟨e', he', ha'⟩)
  · intro hcollide a ha ha'
    obtain ⟨e, he, hmem⟩ := mem_namesAt.mp ha
    obtain ⟨e', he', hmem'⟩ := mem_namesAt.mp ha'
    exact hcollide ⟨e, e', he, he', (Expert.collide_iff (h e (List.mem_of_getElem? he))
      (h e' (List.mem_of_getElem? he'))).mp ⟨a, hmem, hmem'⟩⟩

theorem nodup_artifacts_iff {d : Device π} (h : ∀ e ∈ d.experts, e.Consistent) :
    (d.artifacts.map ExtractedArtifact.name).Nodup ↔
      d.getExperts.Pairwise fun m n => ¬ d.Collide m n := by
  rw [artifacts_names, List.nodup_map_iff fun _ _ => ArtifactName.text_inj, List.nodup_flatMap,
    and_iff_right fun n _ => d.nodup_namesAt n]
  apply List.Pairwise.iff
  intro m n
  exact disjoint_namesAt_iff h m n

/-- In the state that a run ends in, extraction keeps every artifact exactly when no two of
the listed experts collide. -/
theorem artifacts_kept_iff (id : UInt64) (packets : List DevicePacket) :
    ((new id : Device π).run packets).ArtifactsKept ↔
      ((new id : Device π).run packets).getExperts.Pairwise fun m n =>
        ¬ ((new id : Device π).run packets).Collide m n := by
  rw [← nodup_artifacts_iff (consistent_run id packets)]
  constructor
  · exact fun h => h.names
  · intro h
    exact ⟨h, fun artifact => Maps.getElem?_written _ _ h⟩

/-- A device with two DFU interfaces, each of which a whole image was downloaded to. -/
def twoImagesPackets : List DevicePacket :=
  [.ofDescriptor 2 (Layout.encode (⟨9, 2, 27, 2, 1, 0, 0x80, 50⟩ : UsbConfigDescriptor) ++
      Layout.encode (⟨9, 4, 0, 0, 0, 0xFE, 1, 1, 0⟩ : UsbInterfaceDescriptor) ++
      Layout.encode (⟨9, 4, 1, 0, 0, 0xFE, 1, 1, 0⟩ : UsbInterfaceDescriptor)),
    .controlOut 0 ⟨0, 9, 1, 0, 0⟩ [],
    .controlOut 0 ⟨0x21, 1, 0, 0, 2⟩ [1, 2], .controlOut 0 ⟨0x21, 1, 1, 0, 0⟩ [],
    .controlOut 0 ⟨0x21, 1, 0, 1, 2⟩ [3, 4], .controlOut 0 ⟨0x21, 1, 1, 1, 0⟩ []]

/-- Both images are `dfu-image-0.bin`; the second overwrites the first. -/
theorem not_artifacts_kept :
    ¬ ∀ (id : UInt64) (packets : List DevicePacket),
      ((new id : Device Empty).run packets).ArtifactsKept := by
  intro h
  have hnames := (h 1 twoImagesPackets).names
  have hsame : ((new 1 : Device Empty).run twoImagesPackets).artifacts =
      [⟨"dfu-image-0.bin", [1, 2]⟩, ⟨"dfu-image-0.bin", [3, 4]⟩] := by decide +kernel
  rw [hsame] at hnames
  exact absurd hnames (by decide)

end Device

end DemuxUsb
