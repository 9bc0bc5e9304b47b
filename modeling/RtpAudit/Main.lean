import RtpAudit.Cli.Parse
import RtpAudit.Cli.Run

/-! # The command-line program

Reads the options; loads into a working directory the input and whatever stands where the outputs
would go; runs; and writes back the files the run created. The report and the time points go to
standard output; events, refusals and the reason a run stopped go to standard error.
-/

namespace RtpAudit.Cli

/-- The paths a run with `o` may read or replace: the input and each output it may create. -/
def touchedPaths (o : Options) : List String :=
  let target := match o.flowTarget with
    | .ok t => t
    | .error _ => none
  o.file :: ["au", "rtp"].flatMap fun ext => [outputPath o.file target ext, outputPath o.file none ext]

/-- `ws` with what stands at `path` on disk: a file that can be read, or a directory where reading
fails for a reason other than absence. -/
def loadPath (ws : Workspace) (path : String) : IO Workspace := do
  match ← (IO.FS.readBinFile path).toBaseIO with
  | .ok data => pure (ws.put (Path.names path) data.toList)
  | .error (.noFileOrDirectory ..) => pure ws
  | .error _ => pure { ws with dirs := ws.dirs ++ [Path.names path] }

/-- Write the files a run created back to disk, each at the path it was created by. -/
def saveCreated (s : Session) : IO Unit := do
  for (path, names) in s.created do
    if let some data := s.workspace.fileAt? names then
      IO.FS.writeBinFile path (ByteArray.mk data.toArray)

end RtpAudit.Cli

open RtpAudit RtpAudit.Cli

def main (args : List String) : IO UInt32 := do
  match Options.parse args with
  | .error e =>
    if e.isFailure then
      IO.eprintln e.text
      pure 2
    else
      IO.println e.message
      pure 0
  | .ok o =>
    let ws ← (touchedPaths o).foldlM loadPath {}
    let (s, err) := run o ws
    saveCreated s
    IO.print s.printed
    for e in Log.shown (Level.ofVerbosity o.verbose) s.events.toList do
      IO.eprintln e.line
    match err with
    | some e =>
      IO.eprintln e.report
      pure 1
    | none => pure 0
