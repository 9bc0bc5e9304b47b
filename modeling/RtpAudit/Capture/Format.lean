import RtpAudit.Workspace.OsError
import RtpAudit.Text.Quoted
import RtpAudit.Wire.Bytes
import RtpAudit.Text.Utf8

/-! # Kinds of capture, capture time and capture errors

A capture is a snoop capture (it starts with `snoop`) or a session recording (it starts with
`RTP`); anything else is refused, naming its first (at most eight) bytes read as text. Capture
time is a pair of seconds and microseconds, both 32-bit; the time between two records is their
difference in microseconds, which the microsecond fields need not keep below a second.

A capture file may be missing or unmappable, may start with neither known magic, or may hold a
record whose header cannot be trusted; readers stop at such a record and keep the error as the
reason they stopped.
-/

namespace RtpAudit

/-- Why a capture, or one of its records, cannot be read. -/
inductive CaptureError
  /-- The file cannot be opened. -/
  | cannotOpen (path : String) (cause : OsError)
  /-- The file opened but cannot be mapped into memory. -/
  | cannotMap (path : String) (cause : OsError)
  /-- The file starts with neither known magic; `start` is the text of its first bytes. -/
  | unrecognized (start : String)
  /-- The record at `offset`, the `index`-th (from 1), cannot be read. -/
  | malformed (index offset : Nat) (reason : String)
  deriving DecidableEq, Repr

/-- The text of a capture error. -/
def CaptureError.message : CaptureError → String
  | .cannotOpen path cause => "Cannot open " ++ path ++ ": " ++ cause.message
  | .cannotMap path cause => "Cannot map " ++ path ++ ": " ++ cause.message
  | .unrecognized start => "Unrecognized input file (prefix " ++ Text.quote start ++ ")"
  | .malformed index offset reason => s!"Malformed record {index} at offset {offset}: {reason}"

/-- The error and the error that caused it, outermost first. -/
def CaptureError.chain (e : CaptureError) : List String :=
  match e with
  | .cannotOpen _ cause | .cannotMap _ cause => [e.message, cause.message]
  | _ => [e.message]

/-- The two kinds of input. -/
inductive CaptureFormat
  /-- A snoop capture of link-layer frames. -/
  | snoop
  /-- A session recording of RTP packets. -/
  | recording
  deriving DecidableEq, Repr

namespace CaptureFormat

/-- The name of a kind of input. -/
def name : CaptureFormat → String
  | snoop => "snoop"
  | recording => "recording"

/-- The magic at the start of a snoop capture: `snoop`. -/
def snoopMagic : Bytes := [0x73, 0x6E, 0x6F, 0x6F, 0x70]

/-- The magic at the start of a session recording: `RTP`. -/
def recordingMagic : Bytes := [0x52, 0x54, 0x50]

/-- The kind of an input, from its magic. -/
def classify (data : Bytes) : Except CaptureError CaptureFormat :=
  if data.startsWith snoopMagic then .ok snoop
  else if data.startsWith recordingMagic then .ok recording
  else .error (.unrecognized (Text.ofBytesLossy (data.take 8)))

end CaptureFormat

/-- The time a record was captured. -/
structure CaptureTime where
  secs : UInt32
  micros : UInt32
  deriving DecidableEq, Repr

/-- Microseconds from `earlier` to `t`; negative when `t` is before it. -/
def CaptureTime.microsSince (t earlier : CaptureTime) : Int :=
  ((t.secs.toNat : Int) - earlier.secs.toNat) * 1000000 + ((t.micros.toNat : Int) - earlier.micros.toNat)

end RtpAudit
