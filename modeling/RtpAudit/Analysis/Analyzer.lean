import RtpAudit.Analysis.Observation
import RtpAudit.Capture.Recording
import RtpAudit.Output.Emitter
import RtpAudit.Capture.View

/-! # Analysing an input

An input is classified by its magic and read to the end.

* A snoop capture needs a flow to follow. Each record goes to the reassembler; each whole datagram
  is an RTP packet, which gets its spacing from the packet clock, is written to the recording,
  observed, written as a time point and written as audio, in that order.
* A session recording gives its packets directly, with the spacing stored in each frame; they are
  observed and written as audio only.

The report counts the records read and keeps why reading stopped, if it stopped early; reading
stops with a warning, after every record before it was handled. A capture named by a path is
opened, announced with its size, and analysed as its bytes are; a file that cannot be opened gives
a capture error and no events.
-/

namespace RtpAudit

/-- How to analyse an input. -/
structure AnalyzerConfig where
  /-- The flow to follow in a snoop capture. -/
  target : Option FlowTarget := none
  /-- Only datagrams whose RTP payload has this length count. -/
  expectedPayload : Option Nat := none
  /-- Largest datagram reassembled. -/
  maxDatagram : Nat := 65535
  deriving Repr

/-- Why an analysis failed. -/
inductive AnalysisError
  | capture (e : CaptureError)
  | config (reason : String)
  | io (e : FrameTooLong)
  deriving Repr

/-- The text of an analysis error. -/
def AnalysisError.message : AnalysisError → String
  | .capture e => "Capture error: " ++ e.message
  | .config reason => "Configuration error: " ++ reason
  | .io e => "I/O error: " ++ e.message

/-- The error and the errors that caused it, outermost first. -/
def AnalysisError.chain (e : AnalysisError) : List String :=
  match e with
  | .capture c => e.message :: c.chain
  | .config _ => [e.message]
  | .io f => [e.message, f.message]

/-- An analysis under way: its context, outputs and events so far. -/
structure Progress where
  ctx : AnalysisContext
  emitter : Emitter
  events : Array Event := #[]

/-- A finished analysis: the report and the outputs, or why it failed; and the events. -/
structure Analysis where
  result : Except AnalysisError (Report × Emitter)
  events : List Event

namespace Analyzer

/-- Handle one RTP packet of a snoop capture. -/
def capturePacket (s : Progress) (recordIndex : Nat) (time : CaptureTime) (p : RtpPacket) :
    Except AnalysisError Progress := do
  let (clock, delta) := s.ctx.clock.tick time
  let emitter ← (s.emitter.writeRecording delta p).mapError .io
  let (ctx, o, evs) := { s.ctx with clock }.observe recordIndex p delta
  let emitter := emitter.writeTimePoint o.validation.packetIndex p.header.marker delta
  let emitter := emitter.writeAudio p
  pure { ctx, emitter, events := s.events ++ evs.toArray ++ (PacketLine.events recordIndex p delta o).toArray }

/-- Handle one record of a snoop capture. -/
def captureRecord (s : Progress × Reassembler) (rec : SnoopRecord) :
    Except (AnalysisError × Array Event) (Progress × Reassembler) :=
  let (s, r) := s
  let step := r.push rec
  let s := { s with events := s.events ++ step.events.toArray }
  match step.outcome with
  | .abandoned m =>
    let dropped := Event.debug ("reassembly abandoned: " ++ m.message) [("record", rec.index)]
    .ok ({ s with events := s.events.push dropped }, step.next)
  | .complete d =>
    let size := d.data.length
    let count := d.fragments
    let got := Event.debug s!"got datagram, {size} bytes in {count} fragment(s)" [("record", d.recordIndex)]
    let s := { s with events := s.events.push got }
    match RtpPacket.parse d.data with
    | .error e =>
      let skipped := Event.debug ("skipping datagram: " ++ e.message) [("record", d.recordIndex)]
      .ok ({ s with events := s.events.push skipped }, step.next)
    | .ok p =>
      match capturePacket s d.recordIndex d.time p with
      | .ok s => .ok (s, step.next)
      | .error e => .error (e, s.events)
  | _ => .ok (s, step.next)

/-- Analyse a snoop capture. -/
def analyzeCapture (cfg : AnalyzerConfig) (data : Bytes) (em : Emitter) (events : Array Event) :
    Analysis :=
  match cfg.target with
  | none => ⟨.error (.config "a raw capture needs a target address and port"), events.toList⟩
  | some target =>
    let scan := Snoop.scan data
    let r : Reassembler := { target, expectedPayload := cfg.expectedPayload, maxDatagram := cfg.maxDatagram }
    let start : Progress := { ctx := .start .snoop, emitter := em, events }
    match scan.records.foldlM captureRecord (start, r) with
    | .error (e, evs) => ⟨.error e, evs.toList⟩
    | .ok (s, r) =>
      let ctx := { s.ctx with report := { s.ctx.report with
        totalRecords := scan.records.length, stop := scan.stop, reassembly := some r.stats } }
      ⟨.ok (ctx.finish, s.emitter), (s.events ++ (scan.stop.map Snoop.stopWarning).toArray).toList⟩

/-- Handle the `i`-th (from 0) frame of a recording. -/
def recordingFrame (s : Progress) (i : Nat) (f : RecordingFrame) : Progress :=
  let delta : Int := f.delta.toNat
  let (ctx, o, evs) := s.ctx.observe (i + 1) f.packet delta
  { ctx, emitter := s.emitter.writeAudio f.packet
    events := s.events ++ evs.toArray ++ (PacketLine.events (i + 1) f.packet delta o).toArray }

/-- Analyse a session recording. -/
def analyzeRecording (data : Bytes) (em : Emitter) (events : Array Event) : Analysis :=
  let scan := Recording.scan data
  let start : Progress := { ctx := .start .recording, emitter := em, events }
  let s := scan.frames.zipIdx.foldl (fun s (f, i) => recordingFrame s i f) start
  let ctx := { s.ctx with report := { s.ctx.report with
    totalRecords := scan.frames.length, stop := scan.stop } }
  ⟨.ok (ctx.finish, s.emitter), (s.events ++ (scan.stop.map Recording.stopWarning).toArray).toList⟩

end Analyzer

/-- Analyse an input held in memory, writing to the outputs of `em`. -/
def analyzeBytes (cfg : AnalyzerConfig) (data : Bytes) (em : Emitter) : Analysis :=
  match CaptureFormat.classify data with
  | .error e => ⟨.error (.capture e), []⟩
  | .ok format =>
    let events := #[Event.info ("input is a " ++ format.name ++ " file")]
    match format with
    | .snoop => Analyzer.analyzeCapture cfg data em events
    | .recording => Analyzer.analyzeRecording data em events

/-- Analyse the capture at `path` in `ws`, writing to the outputs of `em`. -/
def analyzeFile (cfg : AnalyzerConfig) (ws : Workspace) (path : String) (em : Emitter) : Analysis :=
  match CaptureView.open ws path with
  | .error e => ⟨.error (.capture e), []⟩
  | .ok v =>
    let a := analyzeBytes cfg v.bytes em
    { a with events := Event.info s!"analyzing {path} ({v.size} bytes)" :: a.events }

end RtpAudit
