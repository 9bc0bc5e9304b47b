import RtpAudit.Wire.Bytes
import RtpAudit.Text.Number
import RtpAudit.Text.Fixed
import RtpAudit.Text.CharClass
import RtpAudit.Text.Utf8
import RtpAudit.Text.Quoted
import RtpAudit.Log
import RtpAudit.Workspace.OsError
import RtpAudit.Packet.Error
import RtpAudit.Packet.Address
import RtpAudit.Packet.Etherparse
import RtpAudit.Packet.Ipv4
import RtpAudit.Packet.Rtp
import RtpAudit.Capture.Format
import RtpAudit.Capture.Snoop
import RtpAudit.Capture.Recording
import RtpAudit.Flow.Target
import RtpAudit.Flow.Reassembly
import RtpAudit.Stream.Profile
import RtpAudit.Stream.Histogram
import RtpAudit.Stream.Anomaly
import RtpAudit.Stream.Clock
import RtpAudit.Stream.Tracker
import RtpAudit.Stream.Report
import RtpAudit.Output.Au
import RtpAudit.Output.Emitter
import RtpAudit.Analysis.Observation
import RtpAudit.Analysis.Analyzer
import RtpAudit.Report.Text
import RtpAudit.Text.Integer
import RtpAudit.Workspace.Basic
import RtpAudit.Workspace.Scratch
import RtpAudit.Capture.View
import RtpAudit.Flow.Host
import RtpAudit.Cli.Options
import RtpAudit.Cli.Parse
import RtpAudit.Cli.Run
import RtpAudit.Main
import RtpAudit.Proofs.Stream.Tally
import RtpAudit.Proofs.Reassembly.Step
import RtpAudit.Proofs.Reassembly.Complete
import RtpAudit.Proofs.Reassembly.Sound
import RtpAudit.Proofs.Reassembly.Ledger
import RtpAudit.Proofs.Analysis.Replay
import RtpAudit.Proofs.Stream.Window
import RtpAudit.Proofs.Stream.Histogram
import RtpAudit.Proofs.Stream.Timing
import RtpAudit.Proofs.Analysis.Stages
import RtpAudit.Proofs.Analysis.Lockstep
import RtpAudit.Proofs.Analysis.Bounds
import RtpAudit.Proofs.Recording.Reencode
import RtpAudit.Proofs.Capture.SnoopLayout
import RtpAudit.Capture.Cursor
import RtpAudit.Proofs.Capture.Walk
import RtpAudit.Proofs.Reassembly.Flight
import RtpAudit.Proofs.Output.Audio
import RtpAudit.Proofs.Stream.Spacing
import RtpAudit.Proofs.Packet.Ipv4Grammar
import RtpAudit.Proofs.Stream.SilenceCount
import RtpAudit.Proofs.Reassembly.Shape
