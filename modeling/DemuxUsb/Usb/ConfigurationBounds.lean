import DemuxUsb.File.PacketBounds

/-!
# Bounds of the descriptor reader

`usb_configuration::parse` with the offsets and lengths that the source computes: every
structure is read at the offset of its descriptor, and every `memcpy` takes a slice of the
descriptors.

* `parseChecked_eq`: whatever the bytes are, it ends without a fault, and it is `parse`.
-/

namespace DemuxUsb.UsbConfiguration

open Checked

/-- `std::memcpy` of the first bytes of the descriptor at `offset` over a structure. -/
def overlayChecked {T : Type} [Layout T] (t : T) (data : Bytes) (offset length : Nat) :
    Except Fault T := do
  let n := min length (Layout.size T)
  let image ← slice data offset n
  .ok (Layout.decode (image ++ (Layout.encode t).drop n))

/-- The switch of `parse`. -/
def parseDescriptorChecked (config : UsbConfiguration) (current : Bool)
    (header : UsbDescriptorHeader) (data : Bytes) (offset remaining : Nat) :
    Except Fault (Option (UsbConfiguration × Bool)) :=
  let length := header.bLength.toNat
  if header.bDescriptorType = usbDtConfig then
    if length < usbDtConfigSize then .ok none
    else do
      let descriptor ← readStructAt UsbConfigDescriptor data offset remaining
      .ok (some ({ config with descriptor := descriptor.getD config.descriptor }, current))
  else if header.bDescriptorType = usbDtInterface then
    if length < usbDtInterfaceSize then .ok none
    else do
      let interface ← readStructAt UsbInterfaceDescriptor data offset remaining
      .ok (some ({ config with
        interfaces := config.interfaces ++ [{ interface := interface.getD default }] }, true))
  else if header.bDescriptorType = usbDtEndpoint then
    if length < usbDtEndpointSize then .ok none
    else if current = false then .ok (some (config, current))
    else do
      let endpoint ← overlayChecked default data offset length
      .ok (some (config.addEndpoint endpoint, current))
  else if header.bDescriptorType = usbDtDfuFunctional then
    if current = true ∧ config.currentIsDfu = true then do
      let descriptor ← overlayChecked config.dfuDescriptor data offset length
      .ok (some ({ config with dfuDescriptor := descriptor, hasDfuDescriptor := true }, current))
    else .ok (some (config, current))
  else .ok (some (config, current))

/-- What the loop of `parse` works on. -/
structure ParseState where
  config : UsbConfiguration
  current : Bool
  offset : Nat

/-- One round of the loop of `parse`. -/
def parseStep (data : Bytes) (s : ParseState) :
    Except Fault (ParseState ⊕ UsbConfiguration × Bool) :=
  if data.length ≤ s.offset then .ok (.inr (s.config, true))
  else do
    let remaining ← sub data.length s.offset
    match ← readStructAt UsbDescriptorHeader data s.offset remaining with
    | none => .ok (.inr (s.config, false))
    | some header =>
      if header.bLength.toNat < Layout.size UsbDescriptorHeader ∨
          remaining < header.bLength.toNat then .ok (.inr (s.config, false))
      else do
        match ← s.config.parseDescriptorChecked s.current header data s.offset remaining with
        | none => .ok (.inr (s.config, false))
        | some (config, current) =>
          .ok (.inl ⟨config, current, s.offset + header.bLength.toNat⟩)

/-- `parse` with at most so many rounds of its loop. -/
def parseChecked (rounds : Nat) (config : UsbConfiguration) (data : Bytes) :
    Except Fault (UsbConfiguration × Bool) :=
  loop (parseStep data) rounds ⟨config, false, 0⟩

theorem overlayChecked_eq {T : Type} [Layout T] (t : T) {data : Bytes} {offset length : Nat}
    (h : offset + length ≤ data.length) :
    overlayChecked t data offset length = .ok (overlay t (data.drop offset) length) := by
  have hmin : min length (Layout.size T) ≤ length := Nat.min_le_left _ _
  unfold overlayChecked overlay
  dsimp only
  rw [slice_of_le (by omega), ok_bind]

/-- The switch looks at the descriptor only. -/
theorem parseDescriptorChecked_eq (config : UsbConfiguration) (current : Bool)
    {header : UsbDescriptorHeader} {data : Bytes} {offset : Nat}
    (hlength : header.bLength.toNat ≤ data.length - offset) (hoffset : offset ≤ data.length) :
    config.parseDescriptorChecked current header data offset (data.length - offset) =
      .ok (config.parseDescriptor current header (data.drop offset)) := by
  have hend : offset + header.bLength.toNat ≤ data.length := by omega
  unfold parseDescriptorChecked parseDescriptor
  dsimp only
  rw [readStructAt_drop hoffset, readStructAt_drop hoffset, overlayChecked_eq _ hend,
    overlayChecked_eq _ hend]
  simp only [ok_bind]
  split
  · split <;> rfl
  split
  · split <;> rfl
  split
  · split
    · rfl
    · split <;> rfl
  split
  · split <;> rfl
  · rfl

/-- What `parse` makes of the rest of the descriptors. -/
def parseRest (data : Bytes) (s : ParseState) : UsbConfiguration × Bool :=
  s.config.parseLoop s.current (data.drop s.offset)

/-- **Step lemma.** A round has no fault and makes the rest shorter. -/
theorem parseStep_parseRest (data : Bytes) {s : ParseState} (hinv : s.offset ≤ data.length) :
    parseStep data s = .ok (.inr (parseRest data s)) ∨
      ∃ s', parseStep data s = .ok (.inl s') ∧ s'.offset ≤ data.length ∧
        data.length - s'.offset < data.length - s.offset ∧ parseRest data s' = parseRest data s := by
  have hremaining : (data.drop s.offset).length = data.length - s.offset := List.length_drop
  have hsize : Layout.size UsbDescriptorHeader = 2 := rfl
  unfold parseStep parseRest
  rcases Nat.lt_or_eq_of_le hinv with hlt | hend
  · rw [if_neg (by omega), sub_of_le (by omega), ok_bind, readStructAt_drop hinv, ok_bind,
      parseLoop, if_neg (by omega)]
    cases readStruct UsbDescriptorHeader (data.drop s.offset) with
    | none => exact Or.inl rfl
    | some header =>
      dsimp only
      rw [hremaining]
      by_cases hlength : header.bLength.toNat < Layout.size UsbDescriptorHeader ∨
          data.length - s.offset < header.bLength.toNat
      · rw [if_pos hlength, dif_pos hlength]
        exact Or.inl rfl
      · rw [if_neg hlength, dif_neg hlength,
          s.config.parseDescriptorChecked_eq s.current (by omega) hinv, ok_bind]
        cases s.config.parseDescriptor s.current header (data.drop s.offset) with
        | none => exact Or.inl rfl
        | some parsed =>
          refine Or.inr ⟨_, rfl, ?_, ?_, ?_⟩
          · show s.offset + header.bLength.toNat ≤ data.length
            omega
          · show data.length - (s.offset + header.bLength.toNat) < data.length - s.offset
            omega
          · dsimp only
            rw [List.drop_drop]
  · have hnil : data.drop s.offset = [] := List.drop_eq_nil_of_le (by omega)
    rw [if_pos (by omega), hnil, parseLoop]
    exact Or.inl rfl

/-- **Bounds.** The loop ends, and every byte it reads is one of the descriptors. -/
theorem parseChecked_eq (config : UsbConfiguration) {data : Bytes} {rounds : Nat}
    (hrounds : data.length < rounds) :
    parseChecked rounds config data = .ok (config.parse data) :=
  loop_eq (fun _ => parseStep_parseRest data) (Nat.zero_le _) hrounds

end DemuxUsb.UsbConfiguration
