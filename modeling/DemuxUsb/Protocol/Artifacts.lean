import DemuxUsb.Library.Texts
import DemuxUsb.Protocol.DFUInterfaceExpert
import DemuxUsb.Protocol.RecoveryInterfaceExpert
import DemuxUsb.Protocol.USBMUXInterfaceExpert

/-!
# Artifacts

What an expert has to extract: files, under names that it makes up by itself.
-/

namespace DemuxUsb

structure ExtractedArtifact where
  name : String
  data : Bytes
  deriving DecidableEq

def textBytes (text : String) : Bytes := text.toUTF8.data.toList

section Texts

open Texts

variable {text : String}

theorem textBytes_eq (text : String) :
    textBytes text = text.toList.flatMap String.utf8EncodeChar := by
  rw [textBytes, String.toUTF8_eq_toByteArray, ← String.utf8Encode_toList, List.utf8Encode,
    List.toList_data_toByteArray]

theorem textBytes_append (a b : String) : textBytes (a ++ b) = textBytes a ++ textBytes b := by
  rw [textBytes_eq, String.toList_append, List.flatMap_append, ← textBytes_eq, ← textBytes_eq]

theorem bounds_of_mem_textBytes (h : Printed text) {b : UInt8} (hb : b ∈ textBytes text) :
    0x20 ≤ b.toNat ∧ b.toNat < 0x7F := by
  rw [textBytes_eq] at hb
  obtain ⟨c, hc, hb⟩ := List.mem_flatMap.mp hb
  obtain ⟨hlow, hhigh⟩ := h.bounds hc
  rw [utf8EncodeChar_of_printable hhigh, List.mem_singleton] at hb
  rw [hb, UInt8.toNat_ofNat_of_lt' (Nat.lt_of_lt_of_le hhigh (by decide))]
  exact ⟨hlow, hhigh⟩

/-- A printed text stays on its line. -/
theorem not_mem_textBytes (h : Printed text) : 0x0A ∉ textBytes text := fun hmem =>
  absurd (bounds_of_mem_textBytes h hmem).1 (by decide)

theorem printed_hexText (width n : Nat) : Printed (hexText width n) := by
  have hdigits := printed_ofList_toDigits (b := 16) (by omega) (by omega) n
  unfold Printed at *
  rw [String.toList_ofList] at hdigits
  rw [hexText, String.toList_ofList, List.all_append, hdigits, Bool.and_true, List.all_eq_true]
  intro c hc
  rw [List.eq_of_mem_replicate hc]
  rfl

end Texts

namespace DFUInterfaceExpert

/-- The completed images, followed by a partial one still in flight. -/
def getImages (e : DFUInterfaceExpert) : List Bytes :=
  if e.currentImage ≠ [] then e.images ++ [e.currentImage] else e.images

/-- The name of the image at a place. -/
def imageName (e : DFUInterfaceExpert) (i : Nat) : String :=
  let suffix := if i = e.images.length then "-partial" else ""
  s!"dfu-image-{i}{suffix}.bin"

def getArtifacts (e : DFUInterfaceExpert) : List ExtractedArtifact :=
  e.getImages.zipIdx.map fun image => ⟨e.imageName image.2, image.1⟩

end DFUInterfaceExpert

namespace RecoveryInterfaceExpert

/-- The payloads that are numbered. -/
def uploads (e : RecoveryInterfaceExpert) : List RecoveryPayload :=
  e.payloads.filter (fun payload => payload.kind = .upload ∧ payload.data ≠ [])

def getArtifacts (e : RecoveryInterfaceExpert) : List ExtractedArtifact :=
  e.uploads.zipIdx.map (fun upload => ⟨s!"recovery-upload-{upload.2}.bin", upload.1.data⟩) ++
    if e.console ≠ [] then [⟨"recovery-console.txt", e.console⟩] else []

end RecoveryInterfaceExpert

/-- The libplist call that writes a node; nothing is assumed about it either. -/
class LibplistXml (π : Type) extends Libplist π where
  plistToXml : π → Option Bytes

instance : LibplistXml Empty where
  plistToXml := Empty.elim

section Plist

variable {π : Type} [LibplistXml π]

def MuxMessage.xml (message : MuxMessage π) : Bytes :=
  match message.plist with
  | none => []
  | some plist => (LibplistXml.plistToXml plist).getD []

/-- The transcript of a stream. -/
def MuxStream.document (stream : MuxStream π) : Bytes :=
  stream.messages.flatMap fun message =>
    textBytes (if message.outbound then "<!-- host -> device -->\n"
      else "<!-- device -> host -->\n") ++ message.xml

/-- What is extracted of one entry of the streams. A null stream is undefined in the
source; here it has no artifact. -/
def USBMUXInterfaceExpert.artifact (entry : UInt64 × Option (MuxStream π)) :
    Option ExtractedArtifact :=
  match entry.2 with
  | none => none
  | some stream =>
    if stream.messages.isEmpty then none
    else
      some ⟨s!"usbmux-{hexText 16 entry.1.toNat}-{stream.host.toNat}-{stream.device.toNat}.plist.txt",
        stream.document⟩

def USBMUXInterfaceExpert.getArtifacts (e : USBMUXInterfaceExpert π) : List ExtractedArtifact :=
  e.table.streams.toList.filterMap USBMUXInterfaceExpert.artifact

end Plist

end DemuxUsb
