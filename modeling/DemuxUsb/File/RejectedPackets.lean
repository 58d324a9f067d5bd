import DemuxUsb.File.DeviceIsolation

/-!
# Rejected packets

A decoder rejects a packet at two places. What is wrong with the header is found before
the handle of the address is looked up; what is wrong with the control part behind it is
found afterwards, and then an address without a handle has been given one.

* `exists_rejectedAt_iff`: the second place, read off the bytes of the packet;
* `rejected_keeps_devices_iff`: a rejected packet leaves the devices as they were unless
  it is the first of its address and is rejected at the second place.
-/

namespace DemuxUsb

/-! ## The control part of a packet -/

namespace LinkType

/-- The link types with a decoder. -/
def ofCode (linktype : UInt32) : Option LinkType :=
  [usbDarwin, usbpcap, usbLinux, usbLinuxMmapped].find? (·.code = linktype)

/-- The header of the packet is sound, but the setup packet or the stage of its control
transfer is not there. -/
def LacksSetup : LinkType → Bytes → Prop
  | usbDarwin, data =>
    ∃ header, readStruct DarwinUsbHeader data = some header ∧
      (header.version = darwinUsbHeaderVersion10 ∨ header.version = darwinUsbHeaderVersion11) ∧
      Layout.size DarwinUsbHeader ≤ header.headerLength.toNat ∧
      header.headerLength.toNat ≤ data.length ∧
      header.endpointType = usbEpControl ∧ header.type = darwinIoSubmit ∧
      min header.length.toNat (data.length - header.headerLength.toNat) < Layout.size UsbSetup
  | usbpcap, data =>
    ∃ header, readStruct UsbpcapPacketHeader data = some header ∧
      Layout.size UsbpcapPacketHeader ≤ header.headerLen.toNat ∧
      header.headerLen.toNat ≤ data.length ∧
      header.transfer = usbpcapTransferControl ∧
      (header.headerLen.toNat < Layout.size UsbpcapBufferControlHeader ∨
        Endian.u8 data 27 = usbpcapControlStageSetup ∧
        min header.dataLength.toNat (data.length - header.headerLen.toNat) < Layout.size UsbSetup)
  | usbLinux, data =>
    ∃ header, readStruct PcapUsbHeader data = some header ∧
      header.transferType = usbmonTransferControl ∧ header.eventType = usbmonEventSubmit ∧
      header.setupFlag ≠ 0
  | usbLinuxMmapped, data =>
    ∃ header, readStruct PcapUsbHeader data = some header ∧
      pcapUsbHeaderMmappedSize ≤ data.length ∧
      header.transferType = usbmonTransferControl ∧ header.eventType = usbmonEventSubmit ∧
      header.setupFlag ≠ 0

end LinkType

/-! ## The second place -/

section Decoders

/-- A setup packet cannot be read from too few bytes, and only from those. -/
theorem readStruct_eq_none_iff {T : Type} [Layout T] {data : Bytes} :
    readStruct T data = none ↔ data.length < Layout.size T := by
  constructor
  · intro hnone
    by_contra hle
    rw [readStruct_of_le (Nat.not_lt.mp hle)] at hnone
    cases hnone
  · exact readStruct_of_lt

theorem darwinTransfer_rejectedAt_iff (header : DarwinUsbHeader) (payload : Bytes) :
    (∃ id warning, darwinTransfer header payload = .rejectedAt id warning) ↔
      header.endpointType = usbEpControl ∧ header.type = darwinIoSubmit ∧
        payload.length < Layout.size UsbSetup := by
  unfold darwinTransfer
  dsimp only
  split
  · rename_i hcontrol
    split
    · rename_i hsubmit
      rw [← readStruct_eq_none_iff]
      cases hsetup : readStruct UsbSetup payload with
      | none => simp [hcontrol, hsubmit]
      | some setup => simp
    · rename_i hsubmit
      split
      · simp [hsubmit]
      · simp [hsubmit]
  · rename_i hcontrol
    split
    · split
      · simp [hcontrol]
      · split
        · simp [hcontrol]
        · simp [hcontrol]
    · simp [hcontrol]

theorem usbpcapTransfer_rejectedAt_iff (header : UsbpcapPacketHeader) (stage : Option UInt8)
    (payload : Bytes) :
    (∃ id warning, usbpcapTransfer header stage payload = .rejectedAt id warning) ↔
      header.transfer = usbpcapTransferControl ∧
        (stage = none ∨ stage = some usbpcapControlStageSetup ∧
          payload.length < Layout.size UsbSetup) := by
  unfold usbpcapTransfer
  dsimp only
  split
  · rename_i hcontrol
    cases stage with
    | none => simp [hcontrol]
    | some stage =>
      dsimp only
      split
      · rename_i hstage
        rw [← readStruct_eq_none_iff]
        cases hsetup : readStruct UsbSetup payload with
        | none => simp [hcontrol, hstage]
        | some setup => simp
      · rename_i hstage
        split
        · simp [hstage]
        · split
          · simp [hstage]
          · simp [hstage]
  · rename_i hcontrol
    split
    · split
      · simp [hcontrol]
      · simp [hcontrol]
    · simp [hcontrol]

theorem usbmonTransfer_rejectedAt_iff (header : PcapUsbHeader) (payload : Bytes) :
    (∃ id warning, usbmonTransfer header payload = .rejectedAt id warning) ↔
      header.transferType = usbmonTransferControl ∧ header.eventType = usbmonEventSubmit ∧
        header.setupFlag ≠ 0 := by
  have hdistinct : usbmonEventError ≠ usbmonEventSubmit := by decide
  unfold usbmonTransfer
  dsimp only
  split
  · rename_i herror
    simp [herror, hdistinct]
  split
  · rename_i hcontrol
    split
    · rename_i hsubmit
      split
      · rename_i hflag
        simp [hcontrol, hsubmit, hflag]
      · rename_i hflag
        simp [hflag]
    · rename_i hsubmit
      split
      · simp [hsubmit]
      · simp [hsubmit]
  · rename_i hcontrol
    split
    · split
      · simp [hcontrol]
      · split
        · simp [hcontrol]
        · simp [hcontrol]
    · simp [hcontrol]

theorem decodeDarwinPacket_rejectedAt_iff (data : Bytes) :
    (∃ id warning, decodeDarwinPacket data = .rejectedAt id warning) ↔
      LinkType.LacksSetup .usbDarwin data := by
  unfold decodeDarwinPacket
  simp only [LinkType.LacksSetup]
  cases hread : readStruct DarwinUsbHeader data with
  | none => simp
  | some header =>
    have hpayload : ((data.drop header.headerLength.toNat).take header.length.toNat).length =
        min header.length.toNat (data.length - header.headerLength.toNat) := by
      rw [List.length_take, List.length_drop]
    simp only [Option.some.injEq, exists_eq_left']
    split
    · rename_i hversion
      simp [hversion]
    · rename_i hversion
      split
      · rename_i hlength
        constructor
        · rintro ⟨id, warning, hrejected⟩
          cases hrejected
        · rintro ⟨-, hlow, hhigh, -⟩
          omega
      · rename_i hlength
        rw [darwinTransfer_rejectedAt_iff, hpayload]
        have hknown : header.version = darwinUsbHeaderVersion10 ∨
            header.version = darwinUsbHeaderVersion11 := by
          by_contra hunknown
          exact hversion (not_or.mp hunknown)
        have hlow : Layout.size DarwinUsbHeader ≤ header.headerLength.toNat := by omega
        have hhigh : header.headerLength.toNat ≤ data.length := by omega
        simp [hknown, hlow, hhigh]

theorem decodeUsbpcapPacket_rejectedAt_iff (data : Bytes) :
    (∃ id warning, decodeUsbpcapPacket data = .rejectedAt id warning) ↔
      LinkType.LacksSetup .usbpcap data := by
  unfold decodeUsbpcapPacket
  simp only [LinkType.LacksSetup]
  cases hread : readStruct UsbpcapPacketHeader data with
  | none => simp
  | some header =>
    have hpayload : ((data.drop header.headerLen.toNat).take header.dataLength.toNat).length =
        min header.dataLength.toNat (data.length - header.headerLen.toNat) := by
      rw [List.length_take, List.length_drop]
    simp only [Option.some.injEq, exists_eq_left']
    split
    · rename_i hlength
      constructor
      · rintro ⟨id, warning, hrejected⟩
        cases hrejected
      · rintro ⟨hlow, hhigh, -⟩
        omega
    · rename_i hlength
      have hlow : Layout.size UsbpcapPacketHeader ≤ header.headerLen.toNat := by omega
      have hhigh : header.headerLen.toNat ≤ data.length := by omega
      rw [usbpcapTransfer_rejectedAt_iff, hpayload]
      simp only [hlow, hhigh, true_and]
      split
      · rename_i hshort
        simp [hshort]
      · rename_i hcontrol
        -- the stage is the byte behind the header of every packet
        have hstage : (readStruct UsbpcapBufferControlHeader data).map
            UsbpcapBufferControlHeader.stage = some (Endian.u8 data 27) := by
          rw [readStruct_of_le (by omega)]
          simp [Layout.decode, Layout.size, Endian.u8]
        simp [hstage, hcontrol]

theorem decodeUsbmonPacket_rejectedAt_iff (mmapped : Bool) (data : Bytes) :
    (∃ id warning, decodeUsbmonPacket mmapped data = .rejectedAt id warning) ↔
      ∃ header, readStruct PcapUsbHeader data = some header ∧
        (mmapped = true → pcapUsbHeaderMmappedSize ≤ data.length) ∧
        header.transferType = usbmonTransferControl ∧ header.eventType = usbmonEventSubmit ∧
        header.setupFlag ≠ 0 := by
  unfold decodeUsbmonPacket
  dsimp only
  cases hread : readStruct PcapUsbHeader data with
  | none => simp
  | some header =>
    have hsize : Layout.size PcapUsbHeader ≤ data.length := size_le_of_readStruct hread
    simp only [Option.some.injEq, exists_eq_left']
    cases mmapped with
    | false => simp [Nat.not_lt.mpr hsize, usbmonTransfer_rejectedAt_iff]
    | true =>
      by_cases hlong : pcapUsbHeaderMmappedSize ≤ data.length
      · simp [hlong, Nat.not_lt.mpr hlong, usbmonTransfer_rejectedAt_iff]
      · simp [hlong, Nat.not_le.mp hlong]

end Decoders

/-- A decoder rejects a packet after it looked up the handle exactly when the packet lacks
its setup. -/
theorem LinkType.exists_rejectedAt_iff (l : LinkType) (data : Bytes) :
    (∃ id warning, l.decode data = .rejectedAt id warning) ↔ l.LacksSetup data := by
  cases l with
  | usbDarwin => exact decodeDarwinPacket_rejectedAt_iff data
  | usbpcap => exact decodeUsbpcapPacket_rejectedAt_iff data
  | usbLinux =>
    refine (decodeUsbmonPacket_rejectedAt_iff false data).trans ?_
    simp [LacksSetup]
  | usbLinuxMmapped =>
    refine (decodeUsbmonPacket_rejectedAt_iff true data).trans ?_
    simp [LacksSetup]

/-! ## The capture -/

namespace InputFile

variable {π : Type} [Libplist π]

/-- The capture after a rejected packet: only the packet is counted, and warned about, if
it is not a further one of an unsupported link type. -/
structure KeepsDevices (f : InputFile π) (linktype : UInt32) (f' : InputFile π) : Prop where
  devices : f'.devices = f.devices
  packetCount : f'.packetCount = f.packetCount + 1
  warningCount : f'.warningCount = f.warningCount +
    if LinkType.ofCode linktype = none ∧ linktype ∈ f.unsupportedLinktypes then 0 else 1

theorem keepsDevices_of_ofCode_none (f : InputFile π) {linktype : UInt32}
    (h : LinkType.ofCode linktype = none) (data : Bytes) :
    f.KeepsDevices linktype (f.processPacket linktype data).1 := by
  have hdarwin : linktype ≠ linktypeUsbDarwin := by
    rintro rfl
    cases h
  have husbpcap : linktype ≠ linktypeUsbpcap := by
    rintro rfl
    cases h
  have hlinux : linktype ≠ linktypeUsbLinux := by
    rintro rfl
    cases h
  have hmmapped : linktype ≠ linktypeUsbLinuxMmapped := by
    rintro rfl
    cases h
  unfold processPacket
  simp only [hdarwin, husbpcap, hlinux, hmmapped, if_false]
  by_cases hreported : linktype ∈ f.unsupportedLinktypes
  · rw [if_pos hreported]
    exact ⟨rfl, rfl, by simp [h, hreported]⟩
  · rw [if_neg hreported]
    exact ⟨rfl, rfl, by simp [h, hreported, warn]⟩

/-- **Rejected packets.** A rejected packet leaves the devices as they were if and only
if it is not both the first of its address and without the setup of its control
transfer. -/
theorem rejected_keeps_devices_iff (f : InputFile π) (linktype : UInt32) (data : Bytes) :
    ((f.processPacket linktype data).2 = false →
        f.KeepsDevices linktype (f.processPacket linktype data).1) ↔
      ∀ l address, LinkType.ofCode linktype = some l → l.LacksSetup data →
        l.packetAddress data = some address → l.deviceId address ∈ f.devices.entries := by
  cases hcode : LinkType.ofCode linktype with
  | none =>
    have hkeeps := f.keepsDevices_of_ofCode_none hcode data
    exact iff_of_true (fun _ => hkeeps) (by simp)
  | some l =>
    obtain rfl : l.code = linktype := by
      have hfound := List.find?_some hcode
      exact of_decide_eq_true hfound
    have hlacks := l.exists_rejectedAt_iff data
    rw [processPacket_code]
    cases hdecode : l.decode data with
    | rejected warning =>
      have hkeeps : f.KeepsDevices l.code
          (accept { f with packetCount := f.packetCount + 1 } (.rejected warning)).1 :=
        ⟨rfl, rfl, by simp [accept, warn, hcode]⟩
      refine iff_of_true (fun _ => hkeeps) ?_
      intro l' address hl' hsetup
      obtain rfl := Option.some.inj hl'
      rw [← hlacks, hdecode] at hsetup
      simp at hsetup
    | rejectedAt id warning =>
      have hregisters : (l.decode data).registers = some id := by
        rw [hdecode]
        rfl
      obtain ⟨address, haddress, rfl⟩ := l.registers_decode hregisters
      have hlacks : l.LacksSetup data := hlacks.mp ⟨_, warning, hdecode⟩
      constructor
      · intro hkeeps l' address' hl' _ haddress'
        obtain rfl := Option.some.inj hl'
        obtain rfl := Option.some.inj (haddress.symm.trans haddress')
        exact (f.devices.register_eq_self_iff _ _).mp (hkeeps rfl).devices
      · intro hall _
        have hmem := hall l address rfl hlacks haddress
        exact ⟨f.devices.register_of_mem hmem _, rfl,
          by simp [accept, warn, handleFor, hcode]⟩
    | accepted id c =>
      have haccepted : ∀ g : InputFile π, (g.accept (.accepted id c)).2 = true := by
        intro g
        cases c <;> rfl
      rw [haccepted]
      refine iff_of_true (fun hfalse => absurd hfalse (by decide)) ?_
      intro l' address hl' hsetup
      obtain rfl := Option.some.inj hl'
      rw [← hlacks, hdecode] at hsetup
      simp at hsetup

/-- A usbmon control submission of device 5 on bus 1 whose setup flag says that there is no
setup packet. -/
theorem rejected_registers_device :
    ¬ ∀ (f : InputFile Empty) (linktype : UInt32) (data : Bytes),
      (f.processPacket linktype data).2 = false →
        f.KeepsDevices linktype (f.processPacket linktype data).1 := by
  intro hall
  let data : Bytes := [1, 0, 0, 0, 0, 0, 0, 0, 0x53, 2, 0x80, 5, 1, 0, 0x2D, 0x3C] ++
    List.replicate 32 0
  have hkeeps := hall {} linktypeUsbLinux data rfl
  have hempty : ({ packetCount := 1 } : InputFile Empty).devices.order = List.eraseDups [] := rfl
  have horder : (({} : InputFile Empty).processPacket linktypeUsbLinux data).1.devices.order =
      ([] ++ (decodeUsbmonPacket false data).registers.toList).eraseDups :=
    order_accept hempty (decodeUsbmonPacket false data)
  rw [hkeeps.devices] at horder
  exact absurd horder (by decide +kernel)

end InputFile

end DemuxUsb
