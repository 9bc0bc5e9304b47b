import RtpAudit.Cli.Options
import RtpAudit.Capture.View
import RtpAudit.Analysis.Analyzer

/-! # A run of the command line

A run opens the input and names its kind, then for a snoop capture resolves the flow to follow;
creates the outputs asked for (an AU file for either kind; a session recording and time points
for snoop captures only, with a warning for a recording); analyses the input into them; finishes
the AU file, which fails when it holds more sample bytes than its 32-bit data size can count; and
prints the report.

Each step can stop the run. What was written before the stop stays: the lines printed, and the
files created, which then hold what their writers put in first (an AU header with a data size of
zero, the recording's file header). An error's text is the chain of its contexts and causes,
outermost first, joined by `": "`.
-/

namespace RtpAudit.Cli

/-- The file an output of `input` is written to: a snoop capture's outputs name the followed
flow. -/
def outputPath (input : String) (target : Option FlowTarget) (ext : String) : String :=
  let flow := match target with
    | some t => "." ++ t.direction.name ++ "." ++ toString t.port ++ "." ++ t.address.text
    | none => ""
  input ++ flow ++ "." ++ ext

/-- Without a flow, an output is named by the input and the extension alone. -/
theorem outputPath_none (input ext : String) : outputPath input none ext = input ++ "." ++ ext := by
  simp [outputPath]

/-- Why a run stopped. -/
inductive RunError
  /-- The input cannot be opened. -/
  | openInput (file : String) (e : CaptureError)
  /-- The input is of no known kind. -/
  | unknownKind (file : String) (e : CaptureError)
  /-- The host names no address to follow. -/
  | host (e : HostError)
  /-- A snoop capture was given without a flow to follow. -/
  | noFlow
  /-- The AU file cannot be created. -/
  | createAudio (path : String) (e : OsError)
  /-- The session recording cannot be created. -/
  | createRecording (path : String) (e : OsError)
  /-- The analysis failed. -/
  | analysis (file : String) (e : AnalysisError)
  /-- The AU file cannot be finished. -/
  | closeOutputs (e : AudioTooLong)
  deriving Repr

namespace RunError

/-- The contexts and causes of the error, outermost first. -/
def chain : RunError → List String
  | openInput file e => ("Failed to open input file: " ++ file) :: AnalysisError.chain (.capture e)
  | unknownKind file e => ("Cannot analyze " ++ file) :: AnalysisError.chain (.capture e)
  | host e => [e.message]
  | noFlow => ["A snoop capture needs a port (--to or --from) and an address (--ip)"]
  | createAudio path e => ["Failed to create audio file: " ++ path, e.message]
  | createRecording path e => ["Failed to create rtp file: " ++ path, e.message]
  | analysis file e => ("Failed to analyze " ++ file) :: e.chain
  | closeOutputs e => ["Failed to close output files", e.message]

/-- The text of the error. -/
def message (e : RunError) : String :=
  ": ".intercalate e.chain

/-- The error as the program reports it when it exits: the outermost text, then its causes, one
to a line, numbered when there are several. -/
def report (e : RunError) : String :=
  match e.chain with
  | [] => "Error"
  | [m] => "Error: " ++ m
  | [m, c] => "Error: " ++ m ++ "\n\nCaused by:\n    " ++ c
  | m :: cs =>
    "Error: " ++ m ++ "\n\nCaused by:" ++
      String.join (cs.zipIdx.map fun (c, i) => "\n" ++ "".pushn ' ' (5 - (toString i).length) ++ toString i ++ ": " ++ c)

end RunError

/-- A run under way: what it has written so far. -/
structure Session where
  /-- The lines printed for the user before the report. -/
  output : String := ""
  /-- The report, printed last. -/
  report : String := ""
  /-- The time points printed. -/
  timePoints : String := ""
  events : Array Event := #[]
  /-- The working directory, with the files created so far. -/
  workspace : Workspace
  /-- The files created, in order: each by its path as given and the names it stands at. -/
  created : List (String × List String) := []

/-- What the run wrote for the user: the lines, then the report. -/
def Session.written (s : Session) : String := s.output ++ s.report

/-- What the program prints on standard output: the lines, the time points as they were written
during the analysis, then the report. -/
def Session.printed (s : Session) : String := s.output ++ s.timePoints ++ s.report

/-- A step of a run: it may stop, keeping what was written. -/
abbrev RunM := ExceptT RunError (StateM Session)

namespace Session

/-- Print a line. -/
def say (line : String) : RunM Unit :=
  modify fun s => { s with output := s.output ++ line ++ "\n" }

/-- Log an event. -/
def note (e : Event) : RunM Unit :=
  modify fun s => { s with events := s.events.push e }

/-- The value of `x`, or the run stops with its error, as `f` names it. -/
def orStop {ε α : Type} (x : Except ε α) (f : ε → RunError) : RunM α :=
  match x with
  | .ok a => pure a
  | .error e => throw (f e)

/-- Create the file at `path` holding `contents`, or stop with `failure`. -/
def create (path : String) (failure : OsError → RunError) (contents : Bytes) : RunM Unit := do
  let (ws, names) ← orStop ((← get).workspace.create path) failure
  modify fun s =>
    { s with workspace := ws.put names contents, created := s.created ++ [(path, names)] }

/-- Replace the contents of the file created at `path`. -/
def store (path : String) (contents : Bytes) : RunM Unit :=
  modify fun s => match s.created.lookup path with
    | some names => { s with workspace := s.workspace.put names contents }
    | none => s

end Session

open Session

/-- The flow to follow in a snoop capture. -/
def followedFlow (o : Options) : RunM FlowTarget := do
  match ← orStop o.flowTarget .host with
  | none => throw .noFlow
  | some t =>
    note (.info ("following " ++ t.direction.name ++ " " ++ t.address.text ++ ":" ++ toString t.port))
    pure t

/-- Create the outputs asked for, and the emitter that writes them. -/
def openOutputs (o : Options) (snoop : Bool) (target : Option FlowTarget) : RunM Emitter := do
  let mut em : Emitter := {}
  if o.au then
    let path := outputPath o.file target "au"
    let w := AuWriter.create o.audioFormat
    create path (.createAudio path) w.file.bytes
    em := { em with audio := some w }
    say ("created audiofile " ++ path)
  if o.rtp then
    if snoop then
      let path := outputPath o.file target "rtp"
      let w : RecordingWriter := {}
      create path (.createRecording path) w.data.toList
      em := { em with recording := some w }
      say ("created rtp file " ++ path)
    else note (.warn "--rtp only applies to snoop captures, ignoring")
  if o.timePoints then
    if snoop then em := { em with timePoints := some {} }
    else note (.warn "--time-points only applies to snoop captures, ignoring")
  pure em

/-- The steps of a run. -/
def session (o : Options) : RunM Unit := do
  let view ← orStop (CaptureView.open (← get).workspace o.file) (.openInput o.file)
  let format ← orStop view.format (.unknownKind o.file)
  say ("analyzing " ++ format.name ++ " file... " ++ o.file)
  let snoop := format == .snoop
  let target ← if snoop then some <$> followedFlow o else pure none
  let em ← openOutputs o snoop target
  let a := analyzeBytes { target, expectedPayload := o.expectedLen } view.bytes em
  modify fun s => { s with events := s.events ++ a.events.toArray }
  let (report, em) ← orStop a.result (.analysis o.file)
  let audio ← orStop em.audioFile .closeOutputs
  if let some bytes := audio then store (outputPath o.file target "au") bytes
  if let some bytes := em.recordingFile then store (outputPath o.file target "rtp") bytes
  if let some text := em.timePointText then modify fun s => { s with timePoints := text }
  modify fun s => { s with report := o.printer.render report em.stats }

/-- Run the command line with options `o` in the working directory `ws`: what was written, and
why the run stopped, if it did. -/
def run (o : Options) (ws : Workspace) : Session × Option RunError :=
  let (result, s) := (session o).run.run { workspace := ws }
  match result with
  | .ok () => (s, none)
  | .error e => (s, some e)

end RtpAudit.Cli
