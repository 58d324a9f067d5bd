import DemuxUsb.Protocol.DownloadReport
import DemuxUsb.Protocol.TransferReassembly
import DemuxUsb.Protocol.RecoveryHistory
import DemuxUsb.Usb.ExpertHistory

/-!
# What the experts of a device reconstruct

An expert of a device is handed control and bulk transfers in one sequence, and each class
makes its own use of them: usbmux of the bulk transfers of both directions, DFU of the control
requests, recovery of all of them. `Reconstructs` says for each class what it has then got out
of the sequence, in the terms of its protocol.

* `reconstructs_run`: every expert of every run reconstructs what was handed to it.
-/

namespace DemuxUsb

variable {π : Type}

namespace Delivery

/-- A transfer as a DFU expert looks at it. -/
def request? : Delivery → Option DFUInterfaceExpert.Request
  | controlIn setup data => some (.controlIn setup data)
  | controlOut setup data => some (.controlOut setup data)
  | bulkIn _ => none
  | bulkOut _ => none

/-- A transfer as a recovery expert looks at it. -/
def transfer : Delivery → RecoveryInterfaceExpert.Transfer
  | controlIn setup data => .controlIn setup data
  | controlOut setup data => .controlOut setup data
  | bulkIn data => .bulkIn data
  | bulkOut data => .bulkOut data

end Delivery

/-! ## The classes -/

namespace USBMUXInterfaceExpert

variable [Libplist π]

/-- The counters aside, the expert is what the packets of its bulk transfers make of it. -/
theorem Carries.receive {e : USBMUXInterfaceExpert π} {link : Link} (h : Carries e link)
    (x : Delivery) :
    ∃ e', (Expert.usbmux e).receive x = .usbmux e' ∧
      Carries e' (x.bulk?.toList.foldl Link.transfer link) := by
  cases x with
  | controlIn setup data => exact ⟨_, rfl, h.count _⟩
  | controlOut setup data => exact ⟨_, rfl, h.count _⟩
  | bulkIn data => exact ⟨_, rfl, (h.count _).feed false data⟩
  | bulkOut data => exact ⟨_, rfl, (h.count _).feed true data⟩

theorem carries_receives (configuration interface : UInt8) (xs : List Delivery) :
    ∃ e, xs.foldl Expert.receive (.usbmux (new configuration interface)) = Expert.usbmux (π := π) e ∧
      Carries e (Link.run (xs.filterMap Delivery.bulk?)) := by
  induction xs using List.reverseRecOn with
  | nil => exact ⟨_, rfl, carries_new configuration interface⟩
  | append_singleton xs x ih =>
    obtain ⟨e, heq, hcarries⟩ := ih
    obtain ⟨e', hreceive, hcarries'⟩ := hcarries.receive x
    refine ⟨e', ?_, ?_⟩
    · rw [List.foldl_concat, heq, hreceive]
    · rw [Places.filterMap_concat, Link.run_append]
      exact hcarries'

/-- The streams are those of the segments in the packets that became whole. -/
structure Reconstructs (e : USBMUXInterfaceExpert π) (packets : List LinkPacket) : Prop where
  version : e.version = versionAfter 0 packets
  streams : StreamTable.Numbered (packets.filterMap segmentOf) →
    e.table.Demultiplexed (packets.filterMap segmentOf)

theorem Carries.reconstructs {e : USBMUXInterfaceExpert π} {link : Link} (h : Carries e link) :
    e.Reconstructs link.packets where
  version := h.version
  streams := by
    intro hnum
    rw [h.table]
    exact demultiplexed_tableAfter StreamTable.demultiplexed_empty hnum

end USBMUXInterfaceExpert

namespace DFUInterfaceExpert

open Places

/-- The images and the report are those of the requests. -/
structure Reconstructs (e : DFUInterfaceExpert) (requests : List Request) : Prop where
  images : e.images = ((finished requests).map Prod.fst).filter (· ≠ [])
  currentImage : e.currentImage = inFlight requests
  anomalies : e.anomalies = (irregularities e.transferSize requests).map Irregularity.text
  report : e.ReportOf requests

/-- Nothing of it is a matter of the counters. -/
theorem Reconstructs.count {e : DFUInterfaceExpert} {requests : List Request}
    (h : e.Reconstructs requests) (counters : InterfaceExpert) :
    Reconstructs { e with toInterfaceExpert := counters } requests :=
  ⟨h.images, h.currentImage, h.anomalies, h.report.1, h.report.2, h.report.3, h.report.4⟩

/-- **Step lemma.** -/
theorem Reconstructs.request {e : DFUInterfaceExpert} {requests : List Request}
    (h : e.Reconstructs requests) (r : Request) : (e.request r).Reconstructs (requests ++ [r]) := by
  have hdownloads := downloads_request e r
  have hreports := reports_request e r
  refine ⟨?_, ?_, ?_, h.report.request r⟩
  · rw [hdownloads.images, h.images, h.currentImage, finished_concat, List.map_append,
      List.filter_append]
    congr 1
    cases hends : r.ends with
    | none => simp
    | some how =>
      by_cases hempty : inFlight requests = []
      · simp [hempty]
      · simp [hempty]
  · rw [hdownloads.currentImage, h.currentImage, inFlight_concat]
  · rw [hreports.anomalies, hreports.transferSize, h.anomalies, h.currentImage,
      irregularities_concat, List.map_append]

theorem reconstructs_receives {e : DFUInterfaceExpert} (h : e.Reconstructs []) (xs : List Delivery)
    {π : Type} [Libplist π] :
    ∃ e', xs.foldl Expert.receive (.dfu e) = Expert.dfu (π := π) e' ∧
      e'.Reconstructs (xs.filterMap Delivery.request?) := by
  induction xs using List.reverseRecOn with
  | nil => exact ⟨e, rfl, h⟩
  | append_singleton xs x ih =>
    obtain ⟨e', heq, hreconstructs⟩ := ih
    rw [List.foldl_concat, heq, Places.filterMap_concat]
    cases x with
    | controlIn setup data => exact ⟨_, rfl, hreconstructs.request (.controlIn setup data)⟩
    | controlOut setup data => exact ⟨_, rfl, hreconstructs.request (.controlOut setup data)⟩
    | bulkIn data =>
      refine ⟨_, rfl, ?_⟩
      rw [Delivery.request?, Option.toList_none, List.append_nil]
      exact hreconstructs.count _
    | bulkOut data =>
      refine ⟨_, rfl, ?_⟩
      rw [Delivery.request?, Option.toList_none, List.append_nil]
      exact hreconstructs.count _

end DFUInterfaceExpert

namespace RecoveryInterfaceExpert

open Places

/-- The payloads and the console are those of the transfers. -/
structure Reconstructs (e : RecoveryInterfaceExpert) (transfers : List Transfer) : Prop where
  payloads : e.payloads = (places transfers).filterMap (payloadAt false)
  console : e.console = transfers.flatMap Transfer.printed

theorem receives_eq (e : RecoveryInterfaceExpert) (xs : List Delivery) {π : Type} [Libplist π] :
    xs.foldl Expert.receive (.recovery e) = Expert.recovery (π := π) (e.run (xs.map Delivery.transfer)) := by
  induction xs generalizing e with
  | nil => rfl
  | cons x xs ih =>
    cases x with
    | controlIn setup data => exact ih _
    | controlOut setup data => exact ih _
    | bulkIn data => exact ih _
    | bulkOut data => exact ih _

theorem reconstructs_new (configuration interface : UInt8) (transfers : List Transfer) :
    ((new configuration interface).run transfers).Reconstructs transfers := by
  obtain ⟨hpayloads, hconsole, -⟩ := decodes_run (opened_new configuration interface) transfers
  exact ⟨hpayloads.trans (List.nil_append _), hconsole.trans (List.nil_append _)⟩

end RecoveryInterfaceExpert

/-! ## The experts of a device -/

variable [Libplist π]

/-- The expert has counted the transfers, and reconstructs what they carry. -/
structure Expert.Reconstructs (e : Expert π) (xs : List Delivery) : Prop where
  counted : e.base.Counted xs
  usbmux : ∀ e', e = .usbmux e' → e'.Reconstructs
    (USBMUXInterfaceExpert.Link.run (xs.filterMap Delivery.bulk?)).packets
  dfu : ∀ e', e = .dfu e' → e'.Reconstructs (xs.filterMap Delivery.request?)
  recovery : ∀ e', e = .recovery e' → e'.Reconstructs (xs.map Delivery.transfer)

theorem Device.NewExpert.reconstructs {config : UsbConfiguration} {fresh : Expert π}
    (h : Device.NewExpert config fresh) (xs : List Delivery) :
    (xs.foldl Expert.receive fresh).Reconstructs xs := by
  have hcounted := Expert.counted_run h.counted xs
  cases h with
  | usbmux number =>
    obtain ⟨e, heq, hcarries⟩ := USBMUXInterfaceExpert.carries_receives (π := π)
      config.descriptor.bConfigurationValue number xs
    rw [USBMUXInterfaceExpert.new] at heq
    rw [heq] at hcounted ⊢
    refine ⟨hcounted, ?_, fun _ hother => (nomatch hother), fun _ hother => (nomatch hother)⟩
    intro e' he'
    rw [← Expert.usbmux.inj he']
    exact hcarries.reconstructs
  | dfu number =>
    rw [Device.dfuExpert] at hcounted ⊢
    obtain ⟨e, heq, hreconstructs⟩ := DFUInterfaceExpert.reconstructs_receives
      (e := { configuration := config.descriptor.bConfigurationValue
              interface := number
              transferSize :=
                if config.hasDfuDescriptor then config.dfuDescriptor.wTransferSize else 0 })
      ⟨rfl, rfl, rfl, fun c => Std.ExtTreeMap.getElem?_empty, rfl, rfl, rfl⟩ xs (π := π)
    rw [heq] at hcounted ⊢
    refine ⟨hcounted, fun _ hother => (nomatch hother), ?_, fun _ hother => (nomatch hother)⟩
    intro e' he'
    rw [← Expert.dfu.inj he']
    exact hreconstructs
  | recovery =>
    rw [RecoveryInterfaceExpert.receives_eq] at hcounted ⊢
    refine ⟨hcounted, fun _ hother => (nomatch hother), fun _ hother => (nomatch hother), ?_⟩
    intro e' he'
    rw [← Expert.recovery.inj he']
    exact RecoveryInterfaceExpert.reconstructs_new _ _ _

namespace Device

/-- In every run, every expert has counted what was handed to it, and reconstructs it. -/
theorem reconstructs_run (id : UInt64) (packets : List DevicePacket) {i : Nat} {e : Expert π}
    (he : ((new id : Device π).run packets).experts[i]? = some e) :
    e.Reconstructs ((new id : Device π).deliveredTo i packets) := by
  obtain ⟨config, fresh, hnew, heq⟩ := experts_eq_runs id packets he
  rw [heq]
  exact hnew.reconstructs _

end Device

end DemuxUsb
