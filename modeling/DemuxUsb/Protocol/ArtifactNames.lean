import Mathlib.Data.List.Nodup
import DemuxUsb.Library.Numerals
import DemuxUsb.Protocol.Artifacts

/-!
# Names of artifacts

An `ArtifactName` is what goes into the name of an artifact; the text gives it back
(`ArtifactName.text_inj`). `artifactNames` lists the names of an expert, which are
different.
-/

namespace DemuxUsb

/-! ## Names -/

inductive ArtifactName where
  | dfuImage (index : Nat)
  | dfuPartialImage (index : Nat)
  | recoveryUpload (index : Nat)
  | recoveryConsole
  | plist (id : UInt64) (host device : UInt16)
  deriving DecidableEq

namespace ArtifactName

def text : ArtifactName → String
  | dfuImage i => s!"dfu-image-{i}.bin"
  | dfuPartialImage i => s!"dfu-image-{i}-partial.bin"
  | recoveryUpload i => s!"recovery-upload-{i}.bin"
  | recoveryConsole => "recovery-console.txt"
  | plist id host device =>
    s!"usbmux-{hexText 16 id.toNat}-{host.toNat}-{device.toNat}.plist.txt"

/-- The characters of a name, with the first that ends a number set apart. -/
def chars : ArtifactName → List Char
  | dfuImage i => "dfu-image-".toList ++ (Nat.toDigits 10 i ++ '.' :: "bin".toList)
  | dfuPartialImage i => "dfu-image-".toList ++ (Nat.toDigits 10 i ++ '-' :: "partial.bin".toList)
  | recoveryUpload i => "recovery-upload-".toList ++ (Nat.toDigits 10 i ++ '.' :: "bin".toList)
  | recoveryConsole => "recovery-console.txt".toList
  | plist id host device =>
    "usbmux-".toList ++
      (List.replicate (16 - (Nat.toDigits 16 id.toNat).length) '0' ++ Nat.toDigits 16 id.toNat ++
        '-' :: (Nat.toDigits 10 host.toNat ++
          '-' :: (Nat.toDigits 10 device.toNat ++ '.' :: "plist.txt".toList)))

theorem toList_text (a : ArtifactName) : a.text.toList = a.chars := by
  cases a with
  | dfuImage i =>
    have h : (dfuImage i).text = "dfu-image-" ++ i.repr ++ ".bin" := rfl
    rw [h, String.toList_append, String.toList_append, Nat.toList_repr, List.append_assoc]
    rfl
  | dfuPartialImage i =>
    have h : (dfuPartialImage i).text = "dfu-image-" ++ i.repr ++ "-partial.bin" := rfl
    rw [h, String.toList_append, String.toList_append, Nat.toList_repr, List.append_assoc]
    rfl
  | recoveryUpload i =>
    have h : (recoveryUpload i).text = "recovery-upload-" ++ i.repr ++ ".bin" := rfl
    rw [h, String.toList_append, String.toList_append, Nat.toList_repr, List.append_assoc]
    rfl
  | recoveryConsole => rfl
  | plist id host device =>
    have h : (plist id host device).text = "usbmux-" ++ hexText 16 id.toNat ++ "-" ++
      host.toNat.repr ++ "-" ++ device.toNat.repr ++ ".plist.txt" := rfl
    have hhex : (hexText 16 id.toNat).toList =
        List.replicate (16 - (Nat.toDigits 16 id.toNat).length) '0' ++ Nat.toDigits 16 id.toNat :=
      String.toList_ofList
    rw [h, String.toList_append, String.toList_append, String.toList_append, String.toList_append,
      String.toList_append, String.toList_append, hhex, Nat.toList_repr, Nat.toList_repr]
    rw [List.append_assoc, List.append_assoc, List.append_assoc, List.append_assoc,
      List.append_assoc]
    rfl

/-- **Names are told apart**: the first characters say what is extracted, and a number ends
where the text goes on. -/
theorem text_inj {a b : ArtifactName} (h : a.text = b.text) : a = b := by
  have hchars : a.chars = b.chars := by
    rw [← toList_text, ← toList_text, h]
  have hdot : '.'.isAlphanum = false := rfl
  have hdash : '-'.isAlphanum = false := rfl
  have hends : '.' ≠ '-' := by decide
  have htenth : some 'u' ≠ some 'c' := by decide
  cases a <;> cases b
  case dfuImage.dfuImage i j =>
    obtain ⟨rfl, -⟩ := Numerals.decimal_append_inj hdot hdot (List.append_cancel_left hchars)
    rfl
  case dfuImage.dfuPartialImage i j =>
    obtain ⟨-, hend, -⟩ :=
      Numerals.decimal_append_inj hdot hdash (List.append_cancel_left hchars)
    exact absurd hend hends
  case dfuPartialImage.dfuImage i j =>
    obtain ⟨-, hend, -⟩ :=
      Numerals.decimal_append_inj hdash hdot (List.append_cancel_left hchars)
    exact absurd hend.symm hends
  case dfuPartialImage.dfuPartialImage i j =>
    obtain ⟨rfl, -⟩ := Numerals.decimal_append_inj hdash hdash (List.append_cancel_left hchars)
    rfl
  case recoveryUpload.recoveryUpload i j =>
    obtain ⟨rfl, -⟩ := Numerals.decimal_append_inj hdot hdot (List.append_cancel_left hchars)
    rfl
  case recoveryUpload.recoveryConsole i =>
    exact absurd (congrArg (fun chars => chars[9]?) hchars) htenth
  case recoveryConsole.recoveryUpload j =>
    exact absurd (congrArg (fun chars => chars[9]?) hchars) htenth.symm
  case recoveryConsole.recoveryConsole => rfl
  case plist.plist id host device id' host' device' =>
    obtain ⟨hid, -, hports⟩ := Numerals.hex_append_inj hdash hdash (List.append_cancel_left hchars)
    obtain ⟨hhost, -, hrest⟩ := Numerals.decimal_append_inj hdash hdash hports
    obtain ⟨hdevice, -, -⟩ := Numerals.decimal_append_inj hdot hdot hrest
    rw [UInt64.toNat_inj.mp hid, UInt16.toNat_inj.mp hhost, UInt16.toNat_inj.mp hdevice]
  all_goals exact absurd (List.cons.inj hchars).1 (by decide)

end ArtifactName

/-! ## The names of an expert -/

/-- What a list is numbered with. -/
theorem map_zipIdx_snd {A B : Type} (l : List A) (g : Nat → B) :
    l.zipIdx.map (fun entry => g entry.2) = (List.range l.length).map g := by
  have hsnd : l.zipIdx.map Prod.snd = List.range l.length := by
    rw [List.zipIdx_map_snd, List.range_eq_range']
  rw [← hsnd, List.map_map]
  rfl

/-- Names numbered from 0, and one more after them. -/
def numbered (f : Nat → ArtifactName) (n : Nat) (last : Option ArtifactName) :
    List ArtifactName :=
  (List.range n).map f ++ last.toList

theorem mem_numbered {f : Nat → ArtifactName} {n : Nat} {last : Option ArtifactName}
    {a : ArtifactName} : a ∈ numbered f n last ↔ (∃ i, i < n ∧ a = f i) ∨ last = some a := by
  unfold numbered
  rw [List.mem_append, List.mem_map, Option.mem_toList]
  apply or_congr_left
  constructor
  · rintro ⟨i, hi, rfl⟩
    exact ⟨i, List.mem_range.mp hi, rfl⟩
  · rintro ⟨i, hi, rfl⟩
    exact ⟨i, List.mem_range.mpr hi, rfl⟩

theorem nodup_numbered {f : Nat → ArtifactName} (hf : Function.Injective f) (n : Nat)
    {last : Option ArtifactName} (hlast : ∀ i, last ≠ some (f i)) : (numbered f n last).Nodup := by
  apply List.Nodup.append
  · exact List.Nodup.map hf List.nodup_range
  · cases last with
    | none => exact List.nodup_nil
    | some a => exact List.nodup_singleton a
  · intro a ha halast
    obtain ⟨i, -, rfl⟩ := List.mem_map.mp ha
    exact hlast i (Option.mem_toList.mp halast)

namespace DFUInterfaceExpert

def artifactNames (e : DFUInterfaceExpert) : List ArtifactName :=
  numbered .dfuImage e.images.length
    (if e.currentImage ≠ [] then some (.dfuPartialImage e.images.length) else none)

theorem imageName_of_lt {e : DFUInterfaceExpert} {i : Nat} (h : i < e.images.length) :
    e.imageName i = (ArtifactName.dfuImage i).text := by
  have hname : e.imageName i = "dfu-image-" ++ i.repr ++
      (if i = e.images.length then "-partial" else "") ++ ".bin" := rfl
  rw [hname, if_neg (Nat.ne_of_lt h), String.append_empty]
  rfl

theorem imageName_length (e : DFUInterfaceExpert) :
    e.imageName e.images.length = (ArtifactName.dfuPartialImage e.images.length).text := by
  have hname : e.imageName e.images.length = "dfu-image-" ++ e.images.length.repr ++
      (if e.images.length = e.images.length then "-partial" else "") ++ ".bin" := rfl
  have hsuffix : "-partial" ++ ".bin" = "-partial.bin" := rfl
  rw [hname, if_pos rfl, String.append_assoc, hsuffix]
  rfl

theorem getArtifacts_names (e : DFUInterfaceExpert) :
    e.getArtifacts.map (·.name) = e.artifactNames.map ArtifactName.text := by
  have hcompleted : (List.range e.images.length).map e.imageName =
      (List.range e.images.length).map (fun i => (ArtifactName.dfuImage i).text) := by
    apply List.map_congr_left
    intro i hi
    exact imageName_of_lt (List.mem_range.mp hi)
  have hall : e.getArtifacts.map (·.name) = (List.range e.getImages.length).map e.imageName := by
    rw [← map_zipIdx_snd, getArtifacts, List.map_map]
    rfl
  rw [hall, artifactNames, numbered, List.map_append, List.map_map]
  unfold getImages
  split
  · rw [List.length_append, List.length_singleton, List.range_succ, List.map_append, hcompleted,
      List.map_singleton, e.imageName_length]
    rfl
  · rw [hcompleted, Option.toList_none, List.map_nil, List.append_nil]
    rfl

theorem mem_artifactNames {e : DFUInterfaceExpert} {a : ArtifactName} :
    a ∈ e.artifactNames ↔ (∃ i, i < e.images.length ∧ a = .dfuImage i) ∨
      e.currentImage ≠ [] ∧ a = .dfuPartialImage e.images.length := by
  rw [artifactNames, mem_numbered]
  apply or_congr_right
  split
  · next hcurrent => simp [hcurrent, eq_comm]
  · next hcurrent => simp [hcurrent]

theorem nodup_artifactNames (e : DFUInterfaceExpert) : e.artifactNames.Nodup := by
  apply nodup_numbered
  · intro i j hij
    exact ArtifactName.dfuImage.inj hij
  · intro i
    split
    · exact fun h => ArtifactName.noConfusion (Option.some.inj h)
    · exact (Option.some_ne_none _).symm

end DFUInterfaceExpert

namespace RecoveryInterfaceExpert

def artifactNames (e : RecoveryInterfaceExpert) : List ArtifactName :=
  numbered .recoveryUpload e.uploads.length
    (if e.console ≠ [] then some .recoveryConsole else none)

theorem getArtifacts_names (e : RecoveryInterfaceExpert) :
    e.getArtifacts.map (·.name) = e.artifactNames.map ArtifactName.text := by
  have huploads := map_zipIdx_snd e.uploads (fun i => (ArtifactName.recoveryUpload i).text)
  unfold getArtifacts artifactNames numbered
  rw [List.map_append, List.map_append, List.map_map, List.map_map]
  congr 1
  split
  · rfl
  · rfl

theorem mem_artifactNames {e : RecoveryInterfaceExpert} {a : ArtifactName} :
    a ∈ e.artifactNames ↔ (∃ i, i < e.uploads.length ∧ a = .recoveryUpload i) ∨
      e.console ≠ [] ∧ a = .recoveryConsole := by
  rw [artifactNames, mem_numbered]
  apply or_congr_right
  split
  · next hconsole => simp [hconsole, eq_comm]
  · next hconsole => simp [hconsole]

theorem nodup_artifactNames (e : RecoveryInterfaceExpert) : e.artifactNames.Nodup := by
  apply nodup_numbered
  · intro i j hij
    exact ArtifactName.recoveryUpload.inj hij
  · intro i
    split
    · exact fun h => ArtifactName.noConfusion (Option.some.inj h)
    · exact (Option.some_ne_none _).symm

end RecoveryInterfaceExpert

namespace USBMUXInterfaceExpert

variable {π : Type}

/-- The name of an entry of the streams, where it has something to extract. -/
def artifactName (entry : UInt64 × Option (MuxStream π)) : Option ArtifactName :=
  match entry.2 with
  | none => none
  | some stream =>
    if stream.messages.isEmpty then none else some (.plist entry.1 stream.host stream.device)

def artifactNames (e : USBMUXInterfaceExpert π) : List ArtifactName :=
  e.table.streams.toList.filterMap artifactName

theorem artifactName_eq_some {entry : UInt64 × Option (MuxStream π)} {a : ArtifactName} :
    artifactName entry = some a ↔ ∃ stream, entry.2 = some stream ∧ stream.messages ≠ [] ∧
      a = .plist entry.1 stream.host stream.device := by
  unfold artifactName
  cases entry.2 with
  | none => simp
  | some stream =>
    dsimp only
    split
    · next hempty => simp [List.isEmpty_iff.mp hempty]
    · next hmessages =>
      have hne : stream.messages ≠ [] := fun hnil => hmessages (List.isEmpty_iff.mpr hnil)
      simp [hne, eq_comm]

theorem mem_artifactNames {e : USBMUXInterfaceExpert π} {a : ArtifactName} :
    a ∈ e.artifactNames ↔ ∃ (id : UInt64) (stream : MuxStream π),
      e.table.streams[id]? = some (some stream) ∧ stream.messages ≠ [] ∧
        a = .plist id stream.host stream.device := by
  unfold artifactNames
  rw [List.mem_filterMap]
  constructor
  · rintro ⟨⟨id, entry⟩, hentry, ha⟩
    obtain ⟨stream, rfl, hmessages, rfl⟩ := artifactName_eq_some.mp ha
    exact ⟨id, stream, Std.ExtTreeMap.mem_toList_iff_getElem?_eq_some.mp hentry, hmessages, rfl⟩
  · rintro ⟨id, stream, hentry, hmessages, rfl⟩
    refine ⟨(id, some stream), Std.ExtTreeMap.mem_toList_iff_getElem?_eq_some.mpr hentry, ?_⟩
    exact artifactName_eq_some.mpr ⟨stream, rfl, hmessages, rfl⟩

/-- The ids of the streams are different. -/
theorem nodup_artifactNames (e : USBMUXInterfaceExpert π) : e.artifactNames.Nodup := by
  unfold artifactNames
  apply List.Pairwise.filterMap _ _ e.table.streams.distinct_keys_toList
  rintro ⟨id, entry⟩ ⟨id', entry'⟩ hids a ha a' ha' rfl
  obtain ⟨stream, -, -, rfl⟩ := artifactName_eq_some.mp ha
  obtain ⟨stream', -, -, heq⟩ := artifactName_eq_some.mp ha'
  obtain ⟨rfl, -, -⟩ := ArtifactName.plist.inj heq
  exact hids Std.compare_self

theorem getArtifacts_names [LibplistXml π] (e : USBMUXInterfaceExpert π) :
    e.getArtifacts.map (·.name) = e.artifactNames.map ArtifactName.text := by
  unfold getArtifacts artifactNames
  rw [List.map_filterMap, List.map_filterMap]
  congr 1
  ext1 entry
  unfold artifact artifactName
  cases entry.2 with
  | none => rfl
  | some stream =>
    dsimp only
    split
    · rfl
    · rfl

end USBMUXInterfaceExpert

end DemuxUsb
