import DemuxUsb.Library.Framer
import DemuxUsb.Library.Places
import DemuxUsb.Usb.ConfigurationBounds

/-!
# The grammar of configuration descriptor sets

A descriptor set is a sequence of descriptors, each as long as its bLength says
(`IsDescriptor`). `interpret` says what such a sequence declares, in terms of the sequence
alone: an endpoint belongs to the interface descriptor before it, a functional descriptor
to a DFU interface.

* `parse_grammar`: `parse` accepts the sequences of descriptors, and declares in every case
  what the longest sequence at the front does.
-/

namespace DemuxUsb.UsbConfiguration

open Endian Framing Places

/-! ## Descriptors -/

/-- What a descriptor of a type has at least. -/
def minLength (type : UInt8) : Nat :=
  if type = usbDtConfig then usbDtConfigSize
  else if type = usbDtInterface then usbDtInterfaceSize
  else if type = usbDtEndpoint then usbDtEndpointSize
  else Layout.size UsbDescriptorHeader

theorem two_le_minLength (type : UInt8) : 2 ≤ minLength type := by
  have hsize : Layout.size UsbDescriptorHeader = 2 := rfl
  unfold minLength usbDtConfigSize usbDtInterfaceSize usbDtEndpointSize
  split
  · omega
  split
  · omega
  split <;> omega

/-- A well formed descriptor. -/
structure IsDescriptor (d : Bytes) : Prop where
  length_eq : (u8 d 0).toNat = d.length
  minLength_le : minLength (u8 d 1) ≤ d.length

theorem IsDescriptor.two_le {d : Bytes} (h : IsDescriptor d) : 2 ≤ d.length :=
  (two_le_minLength _).trans h.minLength_le

/-- Descriptors, one after the other. -/
def IsSet (data : Bytes) : Prop := ∃ ds : List Bytes, (∀ d ∈ ds, IsDescriptor d) ∧ data = ds.flatten

/-- The longest sequence of descriptors at the front of the data: every other one is a
beginning of it. -/
structure LongestPrefix (data : Bytes) (ds : List Bytes) : Prop where
  isDescriptor : ∀ d ∈ ds, IsDescriptor d
  isPrefix : ds.flatten <+: data
  longest : ∀ ds' : List Bytes, (∀ d ∈ ds', IsDescriptor d) → ds'.flatten <+: data → ds' <+: ds

theorem u8_append {d : Bytes} (h : 2 ≤ d.length) (rest : Bytes) :
    u8 (d ++ rest) 0 = u8 d 0 ∧ u8 (d ++ rest) 1 = u8 d 1 :=
  ⟨u8_append_left rest (by omega), u8_append_left rest (by omega)⟩

/-- Descriptors are taken off the front one by one. -/
def descriptorFramer : Framer UInt8 Bytes Unit where
  next b :=
    if b.length < 2 then .more
    else if (u8 b 0).toNat < minLength (u8 b 1) then .halt ()
    else if b.length < (u8 b 0).toNat then .more
    else .frame (b.take (u8 b 0).toNat) (u8 b 0).toNat
  used_pos := by
    intro b f n h
    have htwo := two_le_minLength (u8 b 1)
    split at h
    · cases h
    split at h
    · cases h
    split at h
    · cases h
    · obtain ⟨-, rfl⟩ := Verdict.frame.inj h
      omega
  used_le := by
    intro b f n h
    split at h
    · cases h
    split at h
    · cases h
    split at h
    · cases h
    · obtain ⟨-, rfl⟩ := Verdict.frame.inj h
      omega
  stable := by
    intro b h c
    by_cases hshort : b.length < 2
    · exact absurd (if_pos hshort) h
    obtain ⟨hlength, htype⟩ := u8_append (Nat.not_lt.mp hshort) c
    have happend : b.length ≤ (b ++ c).length := by
      rw [List.length_append]
      omega
    rw [if_neg hshort] at h ⊢
    rw [if_neg (by omega), hlength, htype]
    by_cases hmin : (u8 b 0).toNat < minLength (u8 b 1)
    · rw [if_pos hmin, if_pos hmin]
    rw [if_neg hmin] at h ⊢
    rw [if_neg hmin]
    by_cases hmore : b.length < (u8 b 0).toNat
    · exact absurd (if_pos hmore) h
    · rw [if_neg hmore, if_neg (by omega), List.take_append_of_le_length (by omega)]

theorem next_complete {d : Bytes} (h : IsDescriptor d) :
    descriptorFramer.next d = .frame d d.length := by
  have htwo := h.two_le
  have hmin := h.minLength_le
  unfold descriptorFramer
  dsimp only
  rw [h.length_eq, if_neg (by omega), if_neg (by omega), if_neg (by omega), List.take_length]

theorem next_sound {b f : Bytes} {n : Nat} (h : descriptorFramer.next b = .frame f n) :
    IsDescriptor f ∧ n = f.length ∧ b = f ++ b.drop n := by
  unfold descriptorFramer at h
  dsimp only at h
  split at h
  · cases h
  split at h
  · cases h
  split at h
  · cases h
  rename_i hshort hmin hmore
  obtain ⟨rfl, rfl⟩ := Verdict.frame.inj h
  have htwo := two_le_minLength (u8 b 1)
  have hlength : (b.take (u8 b 0).toNat).length = (u8 b 0).toNat := by
    rw [List.length_take]
    omega
  obtain ⟨hfirst, hsecond⟩ := u8_append (by omega : 2 ≤ (b.take (u8 b 0).toNat).length)
    (b.drop (u8 b 0).toNat)
  rw [List.take_append_drop] at hfirst hsecond
  refine ⟨⟨?_, ?_⟩, hlength.symm, (List.take_append_drop _ _).symm⟩
  · rw [← hfirst, hlength]
  · rw [← hsecond, hlength]
    omega

/-- The descriptors at the front of the data. -/
def descriptors (data : Bytes) : List Bytes := (descriptorFramer.run data).frames

theorem longestPrefix_descriptors (data : Bytes) : LongestPrefix data (descriptors data) where
  isDescriptor := Framer.forall_mem_frames (fun h => (next_sound h).1) data
  isPrefix := flatten_frames_prefix (fun h => (next_sound h).2.2) data
  longest := by
    intro ds hds hprefix
    have hflat : ds.flatMap id <+: data := by rwa [List.flatMap_id]
    have hmap : ds.map id <+: descriptors data :=
      Framer.map_prefix_frames (fun d hd => next_complete (hds d hd)) hflat
    rwa [List.map_id] at hmap

/-- A sequence of descriptors is all of its front. -/
theorem isSet_iff (data : Bytes) : IsSet data ↔ (descriptors data).flatten = data := by
  have hlongest := longestPrefix_descriptors data
  constructor
  · rintro ⟨ds, hds, hdata⟩
    obtain ⟨rest, hrest⟩ := hlongest.longest ds hds (hdata ▸ List.prefix_rfl)
    have hprefix : data <+: (descriptors data).flatten := by
      rw [← hrest, List.flatten_append, hdata]
      exact List.prefix_append _ _
    exact hlongest.isPrefix.eq_of_length_le hprefix.length_le
  · intro hdata
    exact ⟨descriptors data, hlongest.isDescriptor, hdata.symm⟩

/-! ## One descriptor -/

/-- What `parse` does with a well formed descriptor; the second component says that there is
a current interface. -/
def describe (s : UsbConfiguration × Bool) (d : Bytes) : UsbConfiguration × Bool :=
  if u8 d 1 = usbDtConfig then
    ({ s.1 with descriptor := Layout.decode (d.take usbDtConfigSize) }, s.2)
  else if u8 d 1 = usbDtInterface then
    ({ s.1 with
      interfaces := s.1.interfaces ++
        [{ interface := Layout.decode (d.take usbDtInterfaceSize) }] }, true)
  else if u8 d 1 = usbDtEndpoint then
    if s.2 = false then s else (s.1.addEndpoint (overlay default d d.length), s.2)
  else if u8 d 1 = usbDtDfuFunctional ∧ s.2 = true ∧ s.1.currentIsDfu = true then
    ({ s.1 with
      dfuDescriptor := overlay s.1.dfuDescriptor d d.length
      hasDfuDescriptor := true }, s.2)
  else s

theorem overlay_append {T : Type} [Layout T] (t : T) (d rest : Bytes) :
    overlay t (d ++ rest) d.length = overlay t d d.length := by
  unfold overlay
  dsimp only
  rw [List.take_append_of_le_length (Nat.min_le_left _ _)]

theorem readStruct_front {T : Type} [Layout T] {d : Bytes} (h : Layout.size T ≤ d.length)
    (rest : Bytes) : readStruct T (d ++ rest) = some (Layout.decode (d.take (Layout.size T))) := by
  rw [readStruct_append h, readStruct_of_le h]

theorem readStruct_header {b : Bytes} (h : 2 ≤ b.length) :
    readStruct UsbDescriptorHeader b = some ⟨u8 b 0, u8 b 1⟩ := by
  have hsize : Layout.size UsbDescriptorHeader = 2 := rfl
  obtain ⟨hfirst, hsecond⟩ := u8_append
    (by rw [List.length_take]; omega : 2 ≤ (b.take 2).length) (b.drop 2)
  rw [List.take_append_drop] at hfirst hsecond
  rw [readStruct_of_le (by omega), hfirst, hsecond]
  rfl

/-- The switch on a well formed descriptor, whatever follows. -/
theorem parseDescriptor_complete {d : Bytes} (h : IsDescriptor d)
    (s : UsbConfiguration × Bool) (rest : Bytes) :
    s.1.parseDescriptor s.2 ⟨u8 d 0, u8 d 1⟩ (d ++ rest) = some (describe s d) := by
  have hmin := h.minLength_le
  unfold minLength at hmin
  unfold parseDescriptor describe
  dsimp only
  rw [h.length_eq]
  by_cases hconfig : u8 d 1 = usbDtConfig
  · rw [if_pos hconfig] at hmin
    have hsize : Layout.size UsbConfigDescriptor ≤ d.length := hmin
    rw [if_pos hconfig, if_pos hconfig, if_neg (Nat.not_lt.mpr hmin), readStruct_front hsize]
    rfl
  rw [if_neg hconfig] at hmin
  rw [if_neg hconfig, if_neg hconfig]
  by_cases hinterface : u8 d 1 = usbDtInterface
  · rw [if_pos hinterface] at hmin
    have hsize : Layout.size UsbInterfaceDescriptor ≤ d.length := hmin
    rw [if_pos hinterface, if_pos hinterface, if_neg (Nat.not_lt.mpr hmin), readStruct_front hsize]
    rfl
  rw [if_neg hinterface] at hmin
  rw [if_neg hinterface, if_neg hinterface]
  by_cases hendpoint : u8 d 1 = usbDtEndpoint
  · rw [if_pos hendpoint] at hmin
    rw [if_pos hendpoint, if_pos hendpoint, if_neg (Nat.not_lt.mpr hmin), overlay_append]
    split <;> rfl
  rw [if_neg hendpoint, if_neg hendpoint, overlay_append]
  by_cases hdfu : u8 d 1 = usbDtDfuFunctional
  · rw [if_pos hdfu]
    by_cases hcurrent : s.2 = true ∧ s.1.currentIsDfu = true
    · rw [if_pos hcurrent, if_pos ⟨hdfu, hcurrent⟩]
    · rw [if_neg hcurrent, if_neg (fun hr => hcurrent hr.2)]
  · rw [if_neg hdfu, if_neg (fun hr => hdfu hr.1)]

/-- The switch on a descriptor that is too short for its type. -/
theorem parseDescriptor_short {header : UsbDescriptorHeader} (htwo : 2 ≤ header.bLength.toNat)
    (hshort : header.bLength.toNat < minLength header.bDescriptorType)
    (config : UsbConfiguration) (current : Bool) (data : Bytes) :
    config.parseDescriptor current header data = none := by
  unfold minLength at hshort
  unfold parseDescriptor
  dsimp only
  by_cases hconfig : header.bDescriptorType = usbDtConfig
  · rw [if_pos hconfig] at hshort ⊢
    exact if_pos hshort
  rw [if_neg hconfig] at hshort ⊢
  by_cases hinterface : header.bDescriptorType = usbDtInterface
  · rw [if_pos hinterface] at hshort ⊢
    exact if_pos hshort
  rw [if_neg hinterface] at hshort ⊢
  by_cases hendpoint : header.bDescriptorType = usbDtEndpoint
  · rw [if_pos hendpoint] at hshort ⊢
    exact if_pos hshort
  · rw [if_neg hendpoint] at hshort
    exact absurd hshort (Nat.not_lt.mpr htwo)

/-- One round of the loop. -/
theorem parseLoop_of_frame {data d : Bytes} {n : Nat}
    (h : descriptorFramer.next data = .frame d n) (s : UsbConfiguration × Bool) :
    s.1.parseLoop s.2 data = (describe s d).1.parseLoop (describe s d).2 (data.drop n) := by
  obtain ⟨hd, rfl, hdata⟩ := next_sound h
  have htwo := hd.two_le
  have hlength : data.length = d.length + (data.drop d.length).length := by
    conv => lhs; rw [hdata, List.length_append]
  obtain ⟨hfirst, hsecond⟩ := u8_append htwo (data.drop d.length)
  rw [← hdata] at hfirst hsecond
  have hparsed := parseDescriptor_complete hd s (data.drop d.length)
  rw [← hdata] at hparsed
  have hsize : Layout.size UsbDescriptorHeader = 2 := rfl
  rw [parseLoop, if_neg (by omega), readStruct_header (by omega), hfirst, hsecond]
  dsimp only
  rw [dif_neg (by rw [hd.length_eq]; omega), hparsed, hd.length_eq]

/-- The loop ends at what is no descriptor. -/
theorem parseLoop_of_not_frame {data : Bytes}
    (h : ∀ d n, descriptorFramer.next data ≠ .frame d n) (config : UsbConfiguration)
    (current : Bool) : config.parseLoop current data = (config, decide (data = [])) := by
  have hsize : Layout.size UsbDescriptorHeader = 2 := rfl
  by_cases hnil : data = []
  · subst hnil
    rw [parseLoop]
    rfl
  have hpos := List.length_pos_iff.mpr hnil
  rw [decide_eq_false hnil, parseLoop, if_neg (by omega)]
  by_cases hshort : data.length < 2
  · rw [readStruct_of_lt (by omega)]
  rw [readStruct_header (by omega)]
  dsimp only
  split
  · rfl
  · rename_i hlength
    have hmin : (u8 data 0).toNat < minLength (u8 data 1) := by
      by_contra hmin
      refine h (data.take (u8 data 0).toNat) (u8 data 0).toNat ?_
      unfold descriptorFramer
      dsimp only
      rw [if_neg hshort, if_neg hmin, if_neg (by omega)]
    rw [parseDescriptor_short (by dsimp only; omega) hmin]

/-- **Run lemma.** The loop takes the descriptors at the front one by one. -/
theorem parseLoop_eq (s : UsbConfiguration × Bool) (data : Bytes) :
    s.1.parseLoop s.2 data =
      (((descriptors data).foldl describe s).1, decide ((descriptors data).flatten = data)) := by
  unfold descriptors
  induction data using Framer.run_induction (F := descriptorFramer) generalizing s with
  | more b hb =>
    rw [parseLoop_of_not_frame (by simp [hb]), Framer.run_of_more hb, List.foldl_nil,
      List.flatten_nil]
    exact congrArg _ (decide_eq_decide.mpr eq_comm)
  | halt b e hb =>
    rw [parseLoop_of_not_frame (by simp [hb]), Framer.run_of_halt hb, List.foldl_nil,
      List.flatten_nil]
    exact congrArg _ (decide_eq_decide.mpr eq_comm)
  | frame b f n hb ih =>
    obtain ⟨-, -, hdata⟩ := next_sound hb
    rw [parseLoop_of_frame hb, ih, Framer.run_of_frame hb, List.foldl_cons, List.flatten_cons]
    refine congrArg _ (decide_eq_decide.mpr ?_)
    conv => rhs; rhs; rw [hdata]
    exact (List.append_right_inj f).symm

/-! ## What descriptors declare -/

def isConfig (d : Bytes) : Bool := u8 d 1 = usbDtConfig
def isInterface (d : Bytes) : Bool := u8 d 1 = usbDtInterface
def isEndpoint (d : Bytes) : Bool := u8 d 1 = usbDtEndpoint

/-- The first nine bytes of an interface descriptor. -/
def interfaceOf (d : Bytes) : UsbInterfaceDescriptor := Layout.decode (d.take usbDtInterfaceSize)

/-- The endpoints in front of the next interface descriptor. -/
def endpointsOf (after : List Bytes) : List UsbEndpointDescriptor :=
  ((after.takeWhile (fun d => !isInterface d)).filter isEndpoint).map fun d =>
    overlay default d d.length

/-- An interface descriptor with the endpoints behind it. -/
def interfaceAt (p : Place Bytes) : Option UsbInterface :=
  if isInterface p.item then
    some { interface := interfaceOf p.item, endpoints := endpointsOf p.after }
  else none

/-- The interface descriptor nearest to the end. -/
def nearest (ds : List Bytes) : Option UsbInterfaceDescriptor :=
  ((ds.filter isInterface).map interfaceOf).getLast?

def isDfu (i : UsbInterfaceDescriptor) : Bool :=
  i.bInterfaceClass == usbClassDfu && i.bInterfaceSubClass == usbSubclassDfu

/-- A DFU functional descriptor: its type is also that of HID descriptors, but the interface
before it is a DFU interface. -/
def functionalAt (p : Place Bytes) : Option Bytes :=
  if u8 p.item 1 = usbDtDfuFunctional ∧ (nearest p.before).any isDfu = true then some p.item
  else none

def functionals (ds : List Bytes) : List Bytes := (places ds).filterMap functionalAt

/-- The configuration that a sequence of descriptors declares. -/
def interpret (ds : List Bytes) : UsbConfiguration where
  descriptor := ((ds.filter isConfig).getLast?.map fun d =>
    Layout.decode (d.take usbDtConfigSize)).getD default
  interfaces := (places ds).filterMap interfaceAt
  dfuDescriptor := (functionals ds).foldl (fun t d => overlay t d d.length) default
  hasDfuDescriptor := !(functionals ds).isEmpty

/-! ## Sequences of descriptors -/

/-- Endpoints for the last interface, if there is one. -/
def addEndpoints (interfaces : List UsbInterface) (endpoints : List UsbEndpointDescriptor) :
    List UsbInterface :=
  interfaces.modify (interfaces.length - 1) fun i => { i with endpoints := i.endpoints ++ endpoints }

theorem addEndpoints_nil_left (endpoints : List UsbEndpointDescriptor) :
    addEndpoints [] endpoints = [] := List.modify_nil _ _

theorem addEndpoints_concat (interfaces : List UsbInterface) (i : UsbInterface)
    (endpoints : List UsbEndpointDescriptor) :
    addEndpoints (interfaces ++ [i]) endpoints =
      interfaces ++ [{ i with endpoints := i.endpoints ++ endpoints }] := by
  have hlast : (interfaces ++ [i]).length - 1 = interfaces.length := by simp
  unfold addEndpoints
  rw [hlast, List.modify_eq_take_cons_drop (by simp)]
  simp

theorem addEndpoints_nil (interfaces : List UsbInterface) : addEndpoints interfaces [] = interfaces := by
  rcases List.eq_nil_or_concat interfaces with rfl | ⟨front, i, rfl⟩
  · exact addEndpoints_nil_left []
  · rw [List.concat_eq_append, addEndpoints_concat, List.append_nil]

theorem addEndpoints_addEndpoints (interfaces : List UsbInterface)
    (endpoints more : List UsbEndpointDescriptor) :
    addEndpoints (addEndpoints interfaces endpoints) more =
      addEndpoints interfaces (endpoints ++ more) := by
  rcases List.eq_nil_or_concat interfaces with rfl | ⟨front, i, rfl⟩
  · rw [addEndpoints_nil_left, addEndpoints_nil_left, addEndpoints_nil_left]
  · rw [List.concat_eq_append, addEndpoints_concat, addEndpoints_concat, addEndpoints_concat,
      List.append_assoc]

theorem isEmpty_addEndpoints (interfaces : List UsbInterface)
    (endpoints : List UsbEndpointDescriptor) :
    (addEndpoints interfaces endpoints).isEmpty = interfaces.isEmpty := by
  rcases List.eq_nil_or_concat interfaces with rfl | ⟨front, i, rfl⟩
  · rw [addEndpoints_nil_left]
  · rw [List.concat_eq_append, addEndpoints_concat]
    cases front <;> rfl

/-- There is a current interface when there is one at all. -/
def Current (s : UsbConfiguration × Bool) : Prop := s.2 = !s.1.interfaces.isEmpty

theorem endpointsOf_cons (d : Bytes) (ds : List Bytes) :
    endpointsOf (d :: ds) =
      if isInterface d then []
      else (if isEndpoint d then [overlay default d d.length] else []) ++ endpointsOf ds := by
  unfold endpointsOf
  rw [List.takeWhile_cons]
  by_cases hinterface : isInterface d = true
  · simp [hinterface]
  · by_cases hendpoint : isEndpoint d = true
    · simp [hinterface, hendpoint]
    · simp [hinterface, hendpoint]

/-- The last interface of a configuration is a DFU interface. -/
theorem currentIsDfu_eq (config : UsbConfiguration) :
    config.currentIsDfu = ((config.interfaces.map (·.interface)).getLast?).any isDfu := by
  unfold currentIsDfu
  rw [List.getLast?_map]
  cases config.interfaces.getLast? with
  | none => rfl
  | some i => rfl

/-- Without a current interface there is no last one. -/
theorem Current.any_isDfu {s : UsbConfiguration × Bool} (h : Current s) :
    (s.2 = true ∧ s.1.currentIsDfu = true) ↔
      ((s.1.interfaces.map (·.interface)).getLast?).any isDfu = true := by
  rw [currentIsDfu_eq]
  refine and_iff_right_of_imp ?_
  intro hany
  rw [h]
  cases hinterfaces : s.1.interfaces with
  | nil =>
    rw [hinterfaces] at hany
    cases hany
  | cons i interfaces => rfl

/-- What a descriptor does to a configuration. -/
structure Describes (s : UsbConfiguration × Bool) (d : Bytes) (s' : UsbConfiguration × Bool) :
    Prop where
  descriptor : s'.1.descriptor =
    if isConfig d then Layout.decode (d.take usbDtConfigSize) else s.1.descriptor
  interfaces : s'.1.interfaces =
    if isInterface d then s.1.interfaces ++ [{ interface := interfaceOf d }]
    else addEndpoints s.1.interfaces (if isEndpoint d then [overlay default d d.length] else [])
  current : Current s'
  functional : (s'.1.dfuDescriptor, s'.1.hasDfuDescriptor) =
    if u8 d 1 = usbDtDfuFunctional ∧
        ((s.1.interfaces.map (·.interface)).getLast?).any isDfu = true then
      (overlay s.1.dfuDescriptor d d.length, true)
    else (s.1.dfuDescriptor, s.1.hasDfuDescriptor)

section Kinds

variable {s : UsbConfiguration × Bool} {d : Bytes}

theorem describes_config (h : Current s) (hconfig : u8 d 1 = usbDtConfig) :
    Describes s d (describe s d) := by
  have hne : usbDtConfig ≠ usbDtInterface ∧ usbDtConfig ≠ usbDtEndpoint ∧
      usbDtConfig ≠ usbDtDfuFunctional := by decide
  rw [describe, if_pos hconfig]
  constructor
  · simp [isConfig, hconfig]
  · simp [isInterface, isEndpoint, hconfig, hne, addEndpoints_nil]
  · exact h
  · simp [hconfig, hne]

theorem describes_interface (s : UsbConfiguration × Bool) (hinterface : u8 d 1 = usbDtInterface) :
    Describes s d (describe s d) := by
  have hne : usbDtInterface ≠ usbDtConfig ∧ usbDtInterface ≠ usbDtDfuFunctional := by decide
  have hconfig : ¬ u8 d 1 = usbDtConfig := by simp [hinterface, hne]
  rw [describe, if_neg hconfig, if_pos hinterface]
  constructor
  · simp [isConfig, hconfig]
  · simp [isInterface, hinterface, interfaceOf]
  · simp [Current]
  · simp [hinterface, hne]

/-- An endpoint belongs to the current interface, if there is one. -/
theorem describes_endpoint (h : Current s) (hendpoint : u8 d 1 = usbDtEndpoint) :
    Describes s d (describe s d) := by
  have hne : usbDtEndpoint ≠ usbDtConfig ∧ usbDtEndpoint ≠ usbDtInterface ∧
      usbDtEndpoint ≠ usbDtDfuFunctional := by decide
  have hconfig : ¬ u8 d 1 = usbDtConfig := by simp [hendpoint, hne]
  have hinterface : ¬ u8 d 1 = usbDtInterface := by simp [hendpoint, hne]
  have hnotinterface : ¬ isInterface d = true := mt of_decide_eq_true hinterface
  rw [describe, if_neg hconfig, if_neg hinterface, if_pos hendpoint]
  by_cases hcurrent : s.2 = false
  · have hnil : s.1.interfaces = [] := by
      rw [h] at hcurrent
      simpa using hcurrent
    rw [if_pos hcurrent]
    constructor
    · simp [isConfig, hconfig]
    · rw [if_neg hnotinterface, hnil, addEndpoints_nil_left]
    · exact h
    · simp [hendpoint, hne]
  · rw [if_neg hcurrent]
    constructor
    · simp [isConfig, hconfig, addEndpoint]
    · have hisendpoint : isEndpoint d = true := decide_eq_true hendpoint
      rw [if_neg hnotinterface, if_pos hisendpoint]
      rfl
    · exact h.trans (congrArg not (isEmpty_addEndpoints _ _).symm)
    · simp [hendpoint, hne, addEndpoint]

/-- Of the other descriptors only a functional one in a DFU interface is looked at. -/
theorem describes_other (h : Current s) (hconfig : ¬ u8 d 1 = usbDtConfig)
    (hinterface : ¬ u8 d 1 = usbDtInterface) (hendpoint : ¬ u8 d 1 = usbDtEndpoint) :
    Describes s d (describe s d) := by
  have hnotinterface : ¬ isInterface d = true := mt of_decide_eq_true hinterface
  have hnotendpoint : ¬ isEndpoint d = true := mt of_decide_eq_true hendpoint
  have hsame : s.1.interfaces = if isInterface d then
      s.1.interfaces ++ [{ interface := interfaceOf d }]
      else addEndpoints s.1.interfaces (if isEndpoint d then [overlay default d d.length] else []) := by
    rw [if_neg hnotinterface, if_neg hnotendpoint, addEndpoints_nil]
  rw [describe, if_neg hconfig, if_neg hinterface, if_neg hendpoint]
  by_cases hfunctional : u8 d 1 = usbDtDfuFunctional ∧ s.2 = true ∧ s.1.currentIsDfu = true
  · rw [if_pos hfunctional]
    constructor
    · simp [isConfig, hconfig]
    · exact hsame
    · exact h
    · rw [if_pos ⟨hfunctional.1, h.any_isDfu.mp hfunctional.2⟩]
  · rw [if_neg hfunctional]
    constructor
    · simp [isConfig, hconfig]
    · exact hsame
    · exact h
    · rw [if_neg (fun hr => hfunctional ⟨hr.1, h.any_isDfu.mpr hr.2⟩)]

/-- **Step lemma.** By cases on the type of the descriptor. -/
theorem describes_describe (h : Current s) (d : Bytes) : Describes s d (describe s d) := by
  by_cases hconfig : u8 d 1 = usbDtConfig
  · exact describes_config h hconfig
  by_cases hinterface : u8 d 1 = usbDtInterface
  · exact describes_interface s hinterface
  by_cases hendpoint : u8 d 1 = usbDtEndpoint
  · exact describes_endpoint h hendpoint
  · exact describes_other h hconfig hinterface hendpoint

end Kinds

/-- **Run lemma** for the interfaces: what is still to come belongs to the last one. -/
theorem interfaces_foldl {s : UsbConfiguration × Bool} (h : Current s) (ds : List Bytes) :
    (ds.foldl describe s).1.interfaces =
        addEndpoints s.1.interfaces (endpointsOf ds) ++ (places ds).filterMap interfaceAt ∧
      Current (ds.foldl describe s) := by
  induction ds generalizing s with
  | nil =>
    refine ⟨?_, h⟩
    rw [places_nil, List.filterMap_nil, List.append_nil]
    exact (addEndpoints_nil _).symm
  | cons d ds ih =>
    have hstep := describes_describe h d
    obtain ⟨hinterfaces, hcurrent⟩ := ih hstep.current
    refine ⟨?_, hcurrent⟩
    have hshift : ∀ p, interfaceAt (Place.shift [d] p) = interfaceAt p := fun _ => rfl
    rw [List.foldl_cons, hinterfaces, hstep.interfaces, filterMap_places_cons hshift,
      endpointsOf_cons]
    unfold interfaceAt
    dsimp only
    by_cases hinterface : isInterface d = true
    · rw [if_pos hinterface, if_pos hinterface, if_pos hinterface, addEndpoints_concat,
        addEndpoints_nil, List.append_assoc]
      rfl
    · rw [if_neg hinterface, if_neg hinterface, if_neg hinterface, addEndpoints_addEndpoints]
      rfl

/-- The empty configuration. -/
def empty : UsbConfiguration × Bool := ({}, false)

/-- What is declared in front of a descriptor, and what the descriptor adds. -/
structure Declares (ds : List Bytes) (s : UsbConfiguration × Bool) : Prop where
  descriptor : s.1.descriptor = (interpret ds).descriptor
  interfaces : s.1.interfaces.map (·.interface) = (ds.filter isInterface).map interfaceOf
  current : Current s
  functional : (s.1.dfuDescriptor, s.1.hasDfuDescriptor) =
    ((interpret ds).dfuDescriptor, (interpret ds).hasDfuDescriptor)

theorem interfaces_addEndpoints (interfaces : List UsbInterface)
    (endpoints : List UsbEndpointDescriptor) :
    (addEndpoints interfaces endpoints).map (·.interface) = interfaces.map (·.interface) := by
  rcases List.eq_nil_or_concat interfaces with rfl | ⟨front, i, rfl⟩
  · rw [addEndpoints_nil_left]
  · rw [List.concat_eq_append, addEndpoints_concat, List.map_append, List.map_append]
    rfl

theorem functionals_concat (ds : List Bytes) (d : Bytes) :
    functionals (ds ++ [d]) = functionals ds ++ (functionalAt ⟨ds, d, []⟩).toList :=
  filterMap_places_concat (fun _ _ => rfl) ds d

/-- **Run lemma** for the rest of a configuration. -/
theorem declares_foldl (ds : List Bytes) : Declares ds (ds.foldl describe empty) := by
  induction ds using List.reverseRecOn with
  | nil => exact ⟨rfl, rfl, rfl, rfl⟩
  | append_singleton ds d ih =>
    have hstep := describes_describe ih.current d
    rw [List.foldl_append, List.foldl_cons, List.foldl_nil]
    refine ⟨?_, ?_, hstep.current, ?_⟩
    · rw [hstep.descriptor, ih.descriptor]
      unfold interpret
      dsimp only
      rw [List.filter_append]
      by_cases hconfig : isConfig d = true
      · rw [if_pos hconfig, List.filter_cons_of_pos hconfig, List.filter_nil,
          List.getLast?_append]
        rfl
      · rw [if_neg hconfig, List.filter_cons_of_neg hconfig, List.filter_nil, List.append_nil]
    · rw [hstep.interfaces, List.filter_append, List.map_append, ← ih.interfaces]
      by_cases hinterface : isInterface d = true
      · rw [if_pos hinterface, List.map_append, List.filter_cons_of_pos hinterface]
        rfl
      · rw [if_neg hinterface, interfaces_addEndpoints, List.filter_cons_of_neg hinterface]
        exact (List.append_nil _).symm
    · have hnearest : ((ds.filter isInterface).map interfaceOf).getLast? = nearest ds := rfl
      rw [hstep.functional, ih.interfaces, hnearest]
      obtain ⟨hdfu, hhas⟩ := Prod.mk.inj ih.functional
      rw [hdfu, hhas]
      unfold interpret
      dsimp only
      rw [functionals_concat]
      unfold functionalAt
      dsimp only
      by_cases hfunctional : u8 d 1 = usbDtDfuFunctional ∧ (nearest ds).any isDfu = true
      · rw [if_pos hfunctional, if_pos hfunctional, List.foldl_append]
        simp
      · rw [if_neg hfunctional, if_neg hfunctional, List.foldl_append]
        simp

/-- **Run lemma.** Descriptors declare what they say. -/
theorem foldl_describe (ds : List Bytes) : (ds.foldl describe empty).1 = interpret ds := by
  have hcurrent : Current empty := rfl
  have hdeclares := declares_foldl ds
  obtain ⟨hdfu, hhas⟩ := Prod.mk.inj hdeclares.functional
  have hinterfaces : (ds.foldl describe empty).1.interfaces = (interpret ds).interfaces := by
    have hnil : addEndpoints empty.1.interfaces (endpointsOf ds) = [] := addEndpoints_nil_left _
    rw [(interfaces_foldl hcurrent ds).1, hnil]
    exact List.nil_append _
  ext1
  · exact hdeclares.descriptor
  · exact hdfu
  · exact hhas
  · exact hinterfaces

theorem parse_eq (data : Bytes) :
    parse {} data = (interpret (descriptors data), decide ((descriptors data).flatten = data)) := by
  rw [← foldl_describe]
  exact parseLoop_eq empty data

/-- **Grammar.** On the empty configuration `parse` ends, with every byte it reads inside the
data, accepts the sequences of descriptors, and declares what the longest one at the front
does. -/
theorem parse_grammar (data : Bytes) :
    (∀ spare, parseChecked (data.length + 1 + spare) {} data = .ok (parse {} data)) ∧
      ((parse {} data).2 = true ↔ IsSet data) ∧
      ∃ ds, LongestPrefix data ds ∧ (parse {} data).1 = interpret ds := by
  have hparse := parse_eq data
  refine ⟨?_, ?_, descriptors data, longestPrefix_descriptors data, ?_⟩
  · intro spare
    exact parseChecked_eq {} (by omega)
  · rw [hparse, decide_eq_true_eq, isSet_iff]
  · rw [hparse]

end DemuxUsb.UsbConfiguration
