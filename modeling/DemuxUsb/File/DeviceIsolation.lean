import DemuxUsb.File.InputFile
import DemuxUsb.Library.Isolation

/-!
# Devices do not interfere

A packet has an address, which is that of its header, whether the packet is decoded or
not. Every decoder looks up the handle of this address or none at all, so that the steps
of a capture are `Isolation.Confined` to the address of the packet they process.

* `LinkType.deviceId_inj`: the identifiers of two addresses of a link type differ;
* `LinkType.registers_decode`: a decoder looks up the handle of its packet's address;
* `confined_processPacket`: the step lemma;
* `devices_isolated`: the result about all sequences of packets.
-/

namespace DemuxUsb

/-! ## Addresses -/

namespace LinkType

/-- A device address: location and device, or bus and device. -/
abbrev Address : LinkType → Type
  | usbDarwin => UInt32 × UInt8
  | usbpcap => UInt16 × UInt16
  | usbLinux => UInt16 × UInt8
  | usbLinuxMmapped => UInt16 × UInt8

instance : (l : LinkType) → DecidableEq l.Address
  | usbDarwin => inferInstanceAs (DecidableEq (UInt32 × UInt8))
  | usbpcap => inferInstanceAs (DecidableEq (UInt16 × UInt16))
  | usbLinux => inferInstanceAs (DecidableEq (UInt16 × UInt8))
  | usbLinuxMmapped => inferInstanceAs (DecidableEq (UInt16 × UInt8))

/-- The identifier under which the handle of an address is kept. -/
def deviceId : (l : LinkType) → l.Address → UInt64
  | usbDarwin, address => darwinAddress address.1 address.2
  | usbpcap, address => usbpcapAddress address.1 address.2
  | usbLinux, address => usbmonAddress address.1 address.2
  | usbLinuxMmapped, address => usbmonAddress address.1 address.2

/-- The address in the header of a packet that is long enough to have one. -/
def packetAddress : (l : LinkType) → Bytes → Option l.Address
  | usbDarwin, data =>
    (readStruct DarwinUsbHeader data).map fun header => (header.locationId, header.deviceId)
  | usbpcap, data =>
    (readStruct UsbpcapPacketHeader data).map fun header => (header.bus, header.device)
  | usbLinux, data =>
    (readStruct PcapUsbHeader data).map fun header => (header.busId, header.deviceAddress)
  | usbLinuxMmapped, data =>
    (readStruct PcapUsbHeader data).map fun header => (header.busId, header.deviceAddress)

end LinkType

theorem darwinAddress_inj {location location' : UInt32} {device device' : UInt8}
    (h : darwinAddress location device = darwinAddress location' device') :
    location = location' ∧ device = device' := by
  have hl := location.toNat_lt
  have hl' := location'.toNat_lt
  have hd := device.toNat_lt
  have hd' := device'.toNat_lt
  obtain ⟨hlocation, hdevice⟩ := shiftLeft_or64_inj (k := 32) (by omega)
    (by rw [UInt32.toNat_toUInt64]; omega) (by rw [UInt32.toNat_toUInt64]; omega)
    (by rw [UInt8.toNat_toUInt64]; omega) (by rw [UInt8.toNat_toUInt64]; omega) h
  exact ⟨UInt32.toUInt64_inj.mp hlocation, UInt8.toUInt64_inj.mp hdevice⟩

theorem usbpcapAddress_inj {bus bus' device device' : UInt16}
    (h : usbpcapAddress bus device = usbpcapAddress bus' device') :
    bus = bus' ∧ device = device' := by
  have hb := bus.toNat_lt
  have hb' := bus'.toNat_lt
  have hd := device.toNat_lt
  have hd' := device'.toNat_lt
  obtain ⟨hbus, hdevice⟩ := shiftLeft_or64_inj (k := 16) (by omega)
    (by rw [UInt16.toNat_toUInt64]; omega) (by rw [UInt16.toNat_toUInt64]; omega)
    (by rw [UInt16.toNat_toUInt64]; omega) (by rw [UInt16.toNat_toUInt64]; omega) h
  exact ⟨UInt16.toUInt64_inj.mp hbus, UInt16.toUInt64_inj.mp hdevice⟩

theorem usbmonAddress_inj {bus bus' : UInt16} {device device' : UInt8}
    (h : usbmonAddress bus device = usbmonAddress bus' device') :
    bus = bus' ∧ device = device' := by
  have hb := bus.toNat_lt
  have hb' := bus'.toNat_lt
  have hd := device.toNat_lt
  have hd' := device'.toNat_lt
  obtain ⟨hbus, hdevice⟩ := shiftLeft_or64_inj (k := 8) (by omega)
    (by rw [UInt16.toNat_toUInt64]; omega) (by rw [UInt16.toNat_toUInt64]; omega)
    (by rw [UInt8.toNat_toUInt64]; omega) (by rw [UInt8.toNat_toUInt64]; omega) h
  exact ⟨UInt16.toUInt64_inj.mp hbus, UInt8.toUInt64_inj.mp hdevice⟩

/-- Two addresses of a link type share a handle only if they are the same. -/
theorem LinkType.deviceId_inj (l : LinkType) {a b : l.Address}
    (h : l.deviceId a = l.deviceId b) : a = b := by
  cases l with
  | usbDarwin =>
    obtain ⟨h₁, h₂⟩ := darwinAddress_inj h
    exact Prod.ext h₁ h₂
  | usbpcap =>
    obtain ⟨h₁, h₂⟩ := usbpcapAddress_inj h
    exact Prod.ext h₁ h₂
  | usbLinux =>
    obtain ⟨h₁, h₂⟩ := usbmonAddress_inj h
    exact Prod.ext h₁ h₂
  | usbLinuxMmapped =>
    obtain ⟨h₁, h₂⟩ := usbmonAddress_inj h
    exact Prod.ext h₁ h₂

/-! ## Decoding -/

/-- The identifier of the handle a decoder looked up. -/
def Decoded.registers : Decoded → Option UInt64
  | .rejected _ => none
  | .rejectedAt address _ => some address
  | .accepted address _ => some address

section Decoders

variable {data : Bytes} {id : UInt64}

/-- Every packet that gets as far as the switch registers its address. -/
theorem registers_darwinTransfer (header : DarwinUsbHeader) (payload : Bytes) :
    (darwinTransfer header payload).registers =
      some (darwinAddress header.locationId header.deviceId) := by
  unfold darwinTransfer
  dsimp only
  repeat' split
  all_goals rfl

theorem registers_usbpcapTransfer (header : UsbpcapPacketHeader) (stage : Option UInt8)
    (payload : Bytes) : (usbpcapTransfer header stage payload).registers =
      some (usbpcapAddress header.bus header.device) := by
  unfold usbpcapTransfer
  dsimp only
  repeat' split
  all_goals rfl

theorem registers_usbmonTransfer (header : PcapUsbHeader) (payload : Bytes) :
    (usbmonTransfer header payload).registers =
      some (usbmonAddress header.busId header.deviceAddress) := by
  unfold usbmonTransfer
  dsimp only
  repeat' split
  all_goals rfl

theorem registers_decodeDarwinPacket (h : (decodeDarwinPacket data).registers = some id) :
    ∃ header, readStruct DarwinUsbHeader data = some header ∧
      id = darwinAddress header.locationId header.deviceId := by
  unfold decodeDarwinPacket at h
  cases hread : readStruct DarwinUsbHeader data with
  | none =>
    rw [hread] at h
    cases h
  | some header =>
    refine ⟨header, rfl, ?_⟩
    rw [hread] at h
    dsimp only at h
    split at h
    · cases h
    · split at h
      · cases h
      · rw [registers_darwinTransfer] at h
        exact (Option.some.inj h).symm

theorem registers_decodeUsbpcapPacket (h : (decodeUsbpcapPacket data).registers = some id) :
    ∃ header, readStruct UsbpcapPacketHeader data = some header ∧
      id = usbpcapAddress header.bus header.device := by
  unfold decodeUsbpcapPacket at h
  cases hread : readStruct UsbpcapPacketHeader data with
  | none =>
    rw [hread] at h
    cases h
  | some header =>
    refine ⟨header, rfl, ?_⟩
    rw [hread] at h
    dsimp only at h
    split at h
    · cases h
    · rw [registers_usbpcapTransfer] at h
      exact (Option.some.inj h).symm

theorem registers_decodeUsbmonPacket {mmapped : Bool}
    (h : (decodeUsbmonPacket mmapped data).registers = some id) :
    ∃ header, readStruct PcapUsbHeader data = some header ∧
      id = usbmonAddress header.busId header.deviceAddress := by
  unfold decodeUsbmonPacket at h
  dsimp only at h
  split at h
  · cases h
  · rename_i header hread
    rw [Option.ite_none_left_eq_some] at hread
    rw [registers_usbmonTransfer] at h
    exact ⟨header, hread.2, (Option.some.inj h).symm⟩

end Decoders

/-- A decoder looks up the handle of the address of its packet, or none. -/
theorem LinkType.registers_decode (l : LinkType) {data : Bytes} {id : UInt64}
    (h : (l.decode data).registers = some id) :
    ∃ address, l.packetAddress data = some address ∧ id = l.deviceId address := by
  cases l with
  | usbDarwin =>
    obtain ⟨header, hread, hid⟩ := registers_decodeDarwinPacket h
    exact ⟨_, congrArg (Option.map _) hread, hid⟩
  | usbpcap =>
    obtain ⟨header, hread, hid⟩ := registers_decodeUsbpcapPacket h
    exact ⟨_, congrArg (Option.map _) hread, hid⟩
  | usbLinux =>
    obtain ⟨header, hread, hid⟩ := registers_decodeUsbmonPacket h
    exact ⟨_, congrArg (Option.map _) hread, hid⟩
  | usbLinuxMmapped =>
    obtain ⟨header, hread, hid⟩ := registers_decodeUsbmonPacket h
    exact ⟨_, congrArg (Option.map _) hread, hid⟩

namespace InputFile

variable {π : Type} [Libplist π]

/-! ## Steps -/

/-- The handle of an address, if it has one. -/
def handle? (f : InputFile π) (l : LinkType) (address : l.Address) : Option (DeviceHandle π) :=
  f.devices.entries[l.deviceId address]?

/-- What a decoded packet makes of the handle it looks up, which is new if there is none. -/
def handleAfter (id : UInt64) (handle : Option (DeviceHandle π)) :
    Decoded → Option (DeviceHandle π)
  | .rejected _ => handle
  | .rejectedAt _ _ => some (handle.getD { id := id })
  | .accepted _ none => some (handle.getD { id := id })
  | .accepted _ (some c) => some ((handle.getD { id := id }).call c)

theorem accept_own (f : InputFile π) {d : Decoded} {id : UInt64} (h : d.registers = some id) :
    (f.accept d).1.devices.entries[id]? = handleAfter id f.devices.entries[id]? d := by
  cases d with
  | rejected warning => cases h
  | rejectedAt address warning =>
    obtain rfl : address = id := by simpa [Decoded.registers] using h
    exact f.devices.getElem?_register_self address _
  | accepted address c =>
    obtain rfl : address = id := by simpa [Decoded.registers] using h
    cases c with
    | none => exact f.devices.getElem?_register_self address _
    | some c =>
      have hregister := f.devices.getElem?_register_self address { id := address }
      refine (OrderedMap.getElem?_modify_self _ address _).trans ?_
      exact congrArg (Option.map _) hregister

theorem accept_other (f : InputFile π) {d : Decoded} {id : UInt64} (h : d.registers ≠ some id) :
    (f.accept d).1.devices.entries[id]? = f.devices.entries[id]? := by
  cases d with
  | rejected warning => rfl
  | rejectedAt address warning =>
    have hne : id ≠ address := fun heq => h (congrArg some heq.symm)
    exact f.devices.getElem?_register_ne hne _
  | accepted address c =>
    have hne : id ≠ address := fun heq => h (congrArg some heq.symm)
    cases c with
    | none => exact f.devices.getElem?_register_ne hne _
    | some c =>
      refine (OrderedMap.getElem?_modify_ne _ hne _).trans ?_
      exact f.devices.getElem?_register_ne hne _

/-- **Step lemma.** A packet changes the handle of its own address only. -/
theorem confined_processPacket (l : LinkType) :
    Isolation.Confined (fun (f : InputFile π) data => (f.processPacket l.code data).1)
      (fun f address => f.handle? l address)
      (fun address data => decide (l.packetAddress data = some address))
      (fun address handle data => handleAfter (l.deviceId address) handle (l.decode data)) where
  own := by
    intro f data address hown
    have hown : l.packetAddress data = some address := of_decide_eq_true hown
    show (f.processPacket l.code data).1.devices.entries[l.deviceId address]? = _
    rw [processPacket_code]
    cases hregisters : (l.decode data).registers with
    | none =>
      -- a packet that is rejected before its handle is looked up
      have hother : (l.decode data).registers ≠ some (l.deviceId address) := by
        rw [hregisters]
        exact Option.some_ne_none _ |>.symm
      rw [accept_other _ hother]
      cases hdecode : l.decode data with
      | rejected warning => rfl
      | rejectedAt id warning =>
        rw [hdecode] at hregisters
        cases hregisters
      | accepted id c =>
        rw [hdecode] at hregisters
        cases hregisters
    | some id =>
      obtain ⟨address', haddress, rfl⟩ := l.registers_decode hregisters
      obtain rfl : address = address' := Option.some.inj (hown.symm.trans haddress)
      exact accept_own _ hregisters
  other := by
    intro f data address hother
    have hother : l.packetAddress data ≠ some address := of_decide_eq_false hother
    show (f.processPacket l.code data).1.devices.entries[l.deviceId address]? = _
    rw [processPacket_code]
    apply accept_other _
    intro hregisters
    obtain ⟨address', haddress, hid⟩ := l.registers_decode hregisters
    rw [← l.deviceId_inj hid] at haddress
    exact hother haddress

/-! ## Registration -/

/-- The identifiers of the devices of a capture in the order of their first packet that
was decoded as far as the address. -/
def registrations (l : LinkType) (packets : List Bytes) : List UInt64 :=
  (packets.filterMap fun data => (l.decode data).registers).eraseDups

theorem order_accept {f : InputFile π} {ids : List UInt64}
    (h : f.devices.order = ids.eraseDups) (d : Decoded) :
    (f.accept d).1.devices.order = (ids ++ d.registers.toList).eraseDups := by
  cases d with
  | rejected warning => exact h.trans (congrArg List.eraseDups (List.append_nil ids).symm)
  | rejectedAt address warning => exact f.devices.order_register h address _
  | accepted address c =>
    cases c with
    | none => exact f.devices.order_register h address _
    | some c => exact f.devices.order_register h address _

theorem order_processPackets (l : LinkType) {f : InputFile π} {ids : List UInt64}
    (h : f.devices.order = ids.eraseDups) (packets : List Bytes) :
    (f.processPackets l packets).devices.order =
      (ids ++ packets.filterMap fun data => (l.decode data).registers).eraseDups := by
  induction packets generalizing f ids with
  | nil => simpa [processPackets] using h
  | cons data packets ih =>
    have hstep : (f.processPacket l.code data).1.devices.order =
        (ids ++ (l.decode data).registers.toList).eraseDups := by
      rw [processPacket_code]
      exact order_accept (f := { f with packetCount := f.packetCount + 1 }) h _
    apply (ih hstep).trans
    rw [List.append_assoc]
    cases hregisters : (l.decode data).registers with
    | none => simp [hregisters]
    | some id => simp [hregisters]

/-! ## Runs -/

/-- **Isolation.** After any packets of a link type, the handle of an address is what its
own packets alone make of it; so the order in which the packets of different devices
come does not matter. The addresses have handles of their own, and the devices are those
of the handles in the order of registration. -/
theorem devices_isolated (l : LinkType) (packets : List Bytes) :
    (∀ address : l.Address,
      (processPackets ({} : InputFile π) l packets).handle? l address =
        (processPackets ({} : InputFile π) l
          (packets.filter fun data => l.packetAddress data = some address)).handle? l address) ∧
    (∀ packets' : List Bytes,
      (∀ address : l.Address,
        packets.filter (fun data => l.packetAddress data = some address) =
          packets'.filter fun data => l.packetAddress data = some address) →
      ∀ address : l.Address,
        (processPackets ({} : InputFile π) l packets).handle? l address =
          (processPackets ({} : InputFile π) l packets').handle? l address) ∧
    (∀ a b : l.Address, l.deviceId a = l.deviceId b → a = b) ∧
    (processPackets ({} : InputFile π) l packets).getDevices =
      (registrations l packets).flatMap (fun id =>
        ((processPackets ({} : InputFile π) l packets).devices.entries[id]?.map
          DeviceHandle.devices).getD []) ∧
    (registrations l packets).Nodup ∧
    ∀ id, id ∈ registrations l packets ↔
      id ∈ (processPackets ({} : InputFile π) l packets).devices.entries := by
  have hempty : ({} : InputFile π).devices.order = List.eraseDups [] := rfl
  have horder : (processPackets ({} : InputFile π) l packets).devices.order =
      registrations l packets := order_processPackets l hempty packets
  refine ⟨?_, ?_, fun a b => l.deviceId_inj, ?_, ?_, ?_⟩
  · intro address
    exact (confined_processPacket l).view_projection _ packets address
  · intro packets' hproj address
    exact (confined_processPacket l).view_congr _ (hproj address)
  · unfold getDevices
    rw [horder]
  · rw [← horder]
    exact OrderedMap.nodup _
  · intro id
    rw [← horder]
    exact OrderedMap.mem_order _ id

end InputFile

end DemuxUsb
