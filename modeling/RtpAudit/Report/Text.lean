import RtpAudit.Stream.Report
import RtpAudit.Output.Emitter

/-! # The printed report

The text printed at the end of a run, one line each, in this order: with the stream check, every
anomaly with where it was found, the spacing histogram, the mean and longest spacing and the count
of each kind of anomaly found; with the silence checks, the counts of packets with non-silent and
with silent samples; for a capture, the reassembly counters; what was written to the audio and
recording outputs; why reading stopped early; and the totals.
-/

namespace RtpAudit

/-- Which checks the printed report shows. -/
structure ReportPrinter where
  checkRtp : Bool := false
  checkSilence : Bool := false
  checkNonSilence : Bool := false
  deriving Repr

namespace ReportPrinter

/-- The lines of the stream check. -/
def rtpLines (r : Report) : List String :=
  r.events.map (fun e => s!"packet {e.recordIndex}:{e.packetIndex}., " ++ e.anomaly.message) ++
  ["ms\tpackets"] ++
  r.histogram.rows.map (fun (ms, n) => s!"{ms}\t{n}") ++
  (r.averageText.map fun a => "Average time between packets " ++ a ++ " ms").toList ++
  [s!"Max delay {r.maxDelay} ms"] ++
  r.counts.map fun (k, n) => s!"{n}. " ++ k.name

/-- The lines of the reassembly counters. -/
def reassemblyLines (s : ReassemblyStats) : List String :=
  [s!"datagrams {s.datagrams}, fragments {s.fragments}, abandoned reassemblies {s.abandoned}",
   s!"skipped: non-ip {s.notIpv4}, malformed {s.malformed}, non-udp {s.notUdp}, " ++
     s!"wrong ip {s.wrongAddress}, wrong port {s.wrongPort}, wrong length {s.unexpectedLength}"]

/-- The lines of the printed report. -/
def lines (p : ReportPrinter) (r : Report) (e : EmitterStats) : List String :=
  (if p.checkRtp then rtpLines r else []) ++
  (if p.checkSilence then [s!"{r.nonSilencePackets}. non-silence packets"] else []) ++
  (if p.checkNonSilence then [s!"{r.silencePackets}. silence packets"] else []) ++
  (r.reassembly.map reassemblyLines).getD [] ++
  (if e.audioFrames != 0 then [s!"audio: {e.audioBytes} bytes from {e.audioFrames} packets"] else []) ++
  (if e.recordingFrames != 0 then [s!"recording: {e.recordingFrames} packets"] else []) ++
  (r.stop.map fun s => "input ended early: " ++ s.message).toList ++
  [s!"total packets in input file {r.totalRecords}., packets processed {r.processed}"]

/-- The printed report: its lines, each ended by a newline. -/
def render (p : ReportPrinter) (r : Report) (e : EmitterStats) : String :=
  String.join ((p.lines r e).map (· ++ "\n"))

end ReportPrinter

end RtpAudit
