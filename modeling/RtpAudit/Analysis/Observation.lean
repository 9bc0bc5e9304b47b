import RtpAudit.Stream.Report
import RtpAudit.Stream.Clock
import RtpAudit.Log

/-! # Observing packets

The state of one run (the packet clock, the tracker and the report so far) and what happens to
each packet: it is checked, its anomalies are noted with the record and packet they were found
on, and its payload is scanned for silence.

At debugging level each packet gives one summary line: record and packet index, payload length,
spacing, the header bytes in hexadecimal and its annotations (comfort noise, marker or spacing
shorter or longer than a frame, first non-silent sample, silence). At tracing level a hex dump of
the whole packet follows, sixteen bytes a row.
-/

namespace RtpAudit

/-- Per-packet result of observing it. -/
structure Observation where
  validation : Validation
  silence : SilenceScan
  deriving Repr

/-- The state of one run. -/
structure AnalysisContext where
  clock : PacketClock := {}
  tracker : Tracker := {}
  report : Report
  deriving Repr

namespace AnalysisContext

/-- A fresh run over an input of the given kind. -/
def start (format : CaptureFormat) : AnalysisContext :=
  { report := { format } }

/-- Check a packet of record `recordIndex`, `delta` milliseconds after the previous one, note what
was found, and give a debugging event per anomaly. -/
def observe (ctx : AnalysisContext) (recordIndex : Nat) (p : RtpPacket) (delta : Int) :
    AnalysisContext × Observation × List Event :=
  let (tracker, v) := ctx.tracker.validate p delta
  let report := v.anomalies.foldl (fun r a => r.note recordIndex v.packetIndex a) ctx.report
  let events := v.anomalies.map fun a =>
    Event.debug a.message [("record", recordIndex), ("packet", v.packetIndex)]
  let silence := scanSilence p.header.payloadType p.payload
  ({ ctx with tracker := tracker.recordSilence silence, report }, ⟨v, silence⟩, events)

/-- The report of the run: the report so far with the tracker's totals. -/
def finish (ctx : AnalysisContext) : Report :=
  ctx.report.absorb ctx.tracker

end AnalysisContext

namespace PacketLine

/-- Bytes in hexadecimal, each right-aligned in three columns. -/
def hexBytes (bs : Bytes) : String :=
  String.join (bs.map fun b => Text.hexIn 3 b.toNat)

/-- `bs` cut into rows of sixteen. -/
def rows (bs : Bytes) : List Bytes :=
  if _h : bs.length ≤ 16 then (if bs.isEmpty then [] else [bs])
  else bs.take 16 :: rows (bs.drop 16)
termination_by bs.length

/-- Rows of sixteen bytes, each on a new line after its offset in hexadecimal. -/
def hexDump (bs : Bytes) : String :=
  String.join ((rows bs).zipIdx.map fun (row, i) => "\n" ++ Text.hexIn 3 (16 * i) ++ ":  " ++ hexBytes row)

/-- The annotations of a packet's summary line. -/
def annotations (p : RtpPacket) (delta : Int) (s : SilenceScan) : String :=
  let h := p.header
  let comfort := if h.isComfortNoise then " COMFORT" else ""
  let timing :=
    if h.marker then
      " MARK" ++ (if h.isComfortNoise then " (MARK shouldn't be set with COMFORT!)" else "")
    else if delta < 20 then " -"
    else if delta > 20 then " +"
    else ""
  let first := match s.firstNonSilent with
    | some n => s!" NON-SILENCE@{n.offset}=" ++ Text.alignRight 2 '0' (Text.hex n.value.toNat)
    | none => ""
  let quiet := if s.containsSilence then " SILENCE" else ""
  comfort ++ timing ++ first ++ quiet

/-- The debugging summary line of a packet. -/
def summary (recordIndex : Nat) (p : RtpPacket) (delta : Int) (o : Observation) : String :=
  Text.decimalIn 5 recordIndex ++ ":" ++ Text.decimalIn 5 o.validation.packetIndex ++ ":  " ++
    Text.decimalIn 4 p.payloadLength ++ ". bytes, " ++ Text.decimalIn 4 delta ++ " ms:    " ++
    hexBytes p.header.toBytes ++ annotations p delta o.silence

/-- The events of a packet: its summary line and its hex dump. -/
def events (recordIndex : Nat) (p : RtpPacket) (delta : Int) (o : Observation) : List Event :=
  [.debug (summary recordIndex p delta o),
   .trace (s!"data length {p.payloadLength}." ++ hexDump p.toBytes)]

end PacketLine

end RtpAudit
