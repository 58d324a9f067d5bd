import DemuxUsb.Protocol.MuxReassembly
import DemuxUsb.Protocol.StreamDemux
import DemuxUsb.Protocol.MuxDecoding
import DemuxUsb.File.RejectedPackets
import DemuxUsb.File.Sessions
import DemuxUsb.File.FormatEquivalence
import DemuxUsb.File.PcapNGCuts
import DemuxUsb.File.SessionStability
import DemuxUsb.Protocol.MuxVersions
import DemuxUsb.File.PcapInputFile
import DemuxUsb.Library.Checked
import DemuxUsb.File.CaptureBounds
import DemuxUsb.Usb.ExpertAttachment
import DemuxUsb.Usb.SharedExperts
import DemuxUsb.Usb.MissedRequests
import DemuxUsb.Usb.DescriptorOrder
import DemuxUsb.Protocol.ServiceNames
import DemuxUsb.Library.Totals
import DemuxUsb.Protocol.StreamBytes
import DemuxUsb.Usb.ByteConservation
import DemuxUsb.Library.Numerals
import DemuxUsb.Protocol.Artifacts
import DemuxUsb.Protocol.ArtifactNames
import DemuxUsb.Protocol.StreamLabels
import DemuxUsb.Usb.Extraction
import DemuxUsb.Library.Utf16
import DemuxUsb.Usb.StringDescriptors
import DemuxUsb.Library.Places
import DemuxUsb.Protocol.DownloadHistory
import DemuxUsb.Protocol.RecoveryHistory
import DemuxUsb.File.PcapCuts
import DemuxUsb.File.InterfaceNumbers
import DemuxUsb.Usb.ConfigurationBounds
import DemuxUsb.Usb.ConfigurationGrammar
import DemuxUsb.Usb.Answers
import DemuxUsb.Usb.CorruptReads
import DemuxUsb.Usb.RepeatedReads
import DemuxUsb.Usb.ControlRouting
import DemuxUsb.File.PayloadOrigins
import DemuxUsb.File.OutPayloads
import DemuxUsb.File.FailedTransfers
import DemuxUsb.Usb.TransferSizes
import DemuxUsb.Protocol.StreamInvariant
import DemuxUsb.Protocol.ReassemblyBounds
import DemuxUsb.Protocol.StreamTables
import DemuxUsb.Library.Receiver
import DemuxUsb.Protocol.TransferReassembly
import DemuxUsb.File.CaptureSessions
import DemuxUsb.File.Accounting
import DemuxUsb.File.OpenedFiles
import DemuxUsb.File.Warnings
import DemuxUsb.Usb.ExpertHistory
import DemuxUsb.Protocol.DownloadReport
import DemuxUsb.Protocol.RecoveryReport
import DemuxUsb.Usb.DescriptorHistory
import DemuxUsb.File.CaptureContents
import DemuxUsb.Protocol.StreamReport
import DemuxUsb.Main.CommandLine
import DemuxUsb.Main.DeviceReport
import DemuxUsb.Main.Run
