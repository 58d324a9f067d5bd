import DemuxUsb.File.Accounting
import DemuxUsb.File.OpenedFiles
import DemuxUsb.Usb.DescriptorHistory
import DemuxUsb.Usb.DeviceIdentity
import DemuxUsb.Usb.ExpertContents

/-!
# What is in a file

The bytes of a file deliver packets, the packets make calls on the handles of their
addresses, the calls hand on transfers, a session is a piece of the transfers of its address,
a transfer of a session goes to one expert, and an expert reconstructs what its transfers
carry. Every step of this was looked at by itself; here they are put together.

* `contents_of_file`: every device that is reported, as a function of the bytes of the file.
-/

namespace DemuxUsb

variable {π : Type} [Libplist π]

namespace Device

theorem device_process (d : Device π) (p : DevicePacket) : (d.process p).device = d.device := by
  have hkept : d.process p = (d.process p).withId d.device := by
    cases p with
    | controlIn endpoint setup data => exact d.withId_processControlPacketIn d.device endpoint setup data
    | controlOut endpoint setup data => exact d.withId_processControlPacketOut d.device endpoint setup data
    | bulkIn endpoint data => exact d.withId_processBulkPacketIn d.device endpoint data
    | bulkOut endpoint data => exact d.withId_processBulkPacketOut d.device endpoint data
  rw [hkept]
  rfl

theorem device_run (d : Device π) (packets : List DevicePacket) :
    (d.run packets).device = d.device :=
  run_induction (motive := fun d' => d'.device = d.device)
    (fun d' p h => (d'.device_process p).trans h) rfl packets

/-- A device is what its transfers say: its statistics, its descriptors, what is selected, and
the contents of its experts. -/
structure Reconstructs (d : Device π) (id : UInt64) (packets : List DevicePacket) : Prop where
  identifier : d.device = id
  counters : d.counters = packets.foldl Counters.count {}
  reads : d.Reads (answersOf packets)
  configuration : d.currentConfiguration = (DevicePacket.lastSelection packets).getD 0
  alternates : ∀ n : UInt8, d.alternates[n]? = Maps.lastOf n (DevicePacket.alternatesSince packets)
  experts : ∀ (i : Nat) (e : Expert π), d.experts[i]? = some e →
    e.Reconstructs ((new id : Device π).deliveredTo i packets)

theorem reconstructs_new (id : UInt64) (packets : List DevicePacket) :
    ((new id : Device π).run packets).Reconstructs id packets where
  identifier := device_run (new id) packets
  counters := counters_run (new id) packets
  reads := reads_run id packets
  configuration := currentConfiguration_run (new id) packets
  alternates := alternates_run id packets
  experts _ _ he := reconstructs_run id packets he

end Device

/-- **Contents.** Whatever the bytes of a file are, the devices that are reported of it are, for
each address in the order of registration, those of consecutive pieces of the transfers that
the calls of the delivered packets hand on, and each of them is what the transfers of its piece
say. -/
theorem contents_of_file (path : String) (data : Bytes) :
    ∃ pieces : UInt64 → List (List Dispatch),
      (∀ id, DeviceHandle.Sessions (π := π) id
        (({} : Transfers).run (callsAt id (delivered data))).2 (pieces id)) ∧
      (InputFile.load path (some data)).toOption.map (fun r : InputFile π × Option String =>
          r.1.getDevices) =
        ((chosen data).map fun _ => (addresses (delivered data)).flatMap fun id =>
          (pieces id).map (DeviceHandle.sessionOf id)) ∧
      ∀ id piece, (DeviceHandle.sessionOf id piece : Device π).Reconstructs id
        (piece.map Dispatch.packet) := by
  choose pieces hpieces hdevices using fun id =>
    DeviceHandle.sessions_run (π := π) id (callsAt id (delivered data))
  refine ⟨pieces, hpieces, ?_, fun id piece => Device.reconstructs_new id _⟩
  have hload := congrArg (Option.map fun devices =>
    ({ (InputFile.new : InputFile π) with devices := devices }).getDevices)
    (InputFile.devices_load (π := π) path data)
  rw [Option.map_map, Option.map_map] at hload
  rw [← InputFile.getDevices_ofPackets hdevices]
  exact hload

end DemuxUsb
