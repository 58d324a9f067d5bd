import DemuxUsb.File.PcapNGInputFile

/-!
# The framing of pcapng blocks

A block is a type and a body between two copies of its length. The body may hold anything;
the parser finds it whatever follows (`parseBlock_encode`), unless it rejects a section
header.
-/

namespace DemuxUsb.PcapNGInputFile

/-- A correctly framed block. -/
structure RawBlock where
  type : UInt32
  body : Bytes
  aligned : body.length % 4 = 0
  fits : body.length + blockOverhead < 2 ^ 32
  deriving DecidableEq

namespace RawBlock

variable (b : RawBlock)

/-- The number of bytes of a block. -/
def length : Nat := b.body.length + blockOverhead

def encode : Bytes :=
  Layout.encode (⟨b.type, UInt32.ofNat b.length⟩ : Block) ++
    (b.body ++ Layout.encode (UInt32.ofNat b.length))

/-- The error thrown for a section header with `rest` behind it. -/
def headerError (rest : Bytes) : Option String :=
  if b.type = typeSectionHeader then
    sectionHeaderError (b.body ++ (Layout.encode (UInt32.ofNat b.length) ++ rest))
  else none

/-- What the parser does with the body: interface ids are scoped to their section. -/
def parsed (interfaces : List PcapngInterface) : List PcapngInterface × Option ParseEvent :=
  parseBody (if b.type = typeSectionHeader then [] else interfaces) b.type b.body

theorem length_encode : b.encode.length = b.length := by
  have hblock : Layout.size Block = 8 := rfl
  have hword : Layout.size UInt32 = 4 := rfl
  have hoverhead : blockOverhead = 12 := rfl
  rw [encode, List.length_append, List.length_append, Layout.length_encode,
    Layout.length_encode, length]
  omega

theorem toNat_length : (UInt32.ofNat b.length).toNat = b.length :=
  UInt32.toNat_ofNat_of_lt' b.fits

theorem readStruct_encode_append (rest : Bytes) :
    readStruct Block (b.encode ++ rest) = some ⟨b.type, UInt32.ofNat b.length⟩ := by
  rw [encode, List.append_assoc, readStruct_encode]

/-- Behind the type and the length. -/
theorem drop_encode_append (rest : Bytes) :
    (b.encode ++ rest).drop (Layout.size Block) =
      b.body ++ (Layout.encode (UInt32.ofNat b.length) ++ rest) := by
  rw [encode, List.append_assoc, List.append_assoc, List.drop_left' (Layout.length_encode _)]

theorem readStruct_trailing (rest : Bytes) :
    readStruct UInt32 ((b.encode ++ rest).drop (b.length - 4)) = some (UInt32.ofNat b.length) := by
  have hfront : (Layout.encode (⟨b.type, UInt32.ofNat b.length⟩ : Block) ++ b.body).length =
      b.length - 4 := by
    have hblock : Layout.size Block = 8 := rfl
    have hoverhead : blockOverhead = 12 := rfl
    rw [List.length_append, Layout.length_encode, length]
    omega
  rw [encode, ← List.append_assoc, List.append_assoc _ _ rest, List.drop_left' hfront,
    readStruct_encode]

theorem body_encode_append (rest : Bytes) :
    ((b.encode ++ rest).drop (Layout.size Block)).take (b.length - blockOverhead) = b.body := by
  have hbody : b.length - blockOverhead = b.body.length := Nat.add_sub_cancel _ _
  rw [drop_encode_append, hbody, List.take_left]

/-- One round of the loop on a framed block, whatever follows. -/
theorem parseBlock_encode (interfaces : List PcapngInterface) {offset : Nat}
    (hheader : offset = 0 → b.type = typeSectionHeader) (rest : Bytes) :
    parseBlock interfaces offset (b.encode ++ rest) =
      match b.headerError rest with
      | some error => .throws error
      | none => .continues b.length (b.parsed interfaces).1 (b.parsed interfaces).2 := by
  have hlength := b.toNat_length
  have hbody : b.length = b.body.length + 12 := rfl
  have hsize : (b.encode ++ rest).length = b.length + rest.length := by
    rw [List.length_append, length_encode]
  have halign := b.aligned
  have hoverhead : blockOverhead = 12 := rfl
  have hdrop := b.drop_encode_append rest
  unfold parseBlock
  rw [if_neg (by omega), readStruct_encode_append]
  dsimp only
  rw [if_neg (fun h => h.2 (hheader h.1)), hdrop]
  show (match b.headerError rest with | some error => _ | none => _) = _
  cases b.headerError rest with
  | some error => rfl
  | none =>
    dsimp only
    rw [hlength, if_neg (by omega), readStruct_trailing, if_neg (fun h => h rfl), ← hdrop,
      body_encode_append]
    rfl

end RawBlock

end DemuxUsb.PcapNGInputFile
