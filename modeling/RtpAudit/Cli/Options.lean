import RtpAudit.Flow.Host
import RtpAudit.Flow.Target
import RtpAudit.Output.Au
import RtpAudit.Report.Text

/-! # Command-line options

What a run is asked to do: the input, the flow to follow, the checks to report, the outputs to
write, and how much to log. Each option is an argument of the command line, named by a long name
(some also by a letter); the input is the one positional argument. An option is written in
messages as its long name followed by its value's name in angle brackets, the input as `<FILE>`,
and the repeatable `--verbose` with three dots.
-/

namespace RtpAudit.Cli

/-- What the command line asks for. -/
structure Options where
  /-- The capture to analyse. -/
  file : String := ""
  /-- Follow packets sent to this port. -/
  toPort : Option UInt16 := none
  /-- Follow packets sent from this port. -/
  fromPort : Option UInt16 := none
  /-- The followed endpoint. -/
  host : Option String := none
  /-- Only accept datagrams with exactly this many payload bytes. -/
  expectedLen : Option Nat := none
  checkRtp : Bool := false
  checkSilence : Bool := false
  checkNonSilence : Bool := false
  /-- Write the audio to an AU file. -/
  au : Bool := false
  /-- Write the packets to a session recording. -/
  rtp : Bool := false
  /-- Print a time point per packet. -/
  timePoints : Bool := false
  sampleRate : UInt32 := 8000
  channels : UInt32 := 1
  encoding : Encoding := .ulaw
  /-- How many times `-v` was given, at most 255. -/
  verbose : Nat := 0
  deriving Repr

namespace Options

/-- The followed port and its side: `--to` wins over `--from`. -/
def port (o : Options) : Option (UInt16 × Direction) :=
  match o.toPort, o.fromPort with
  | some p, _ => some (p, .inbound)
  | none, some p => some (p, .outbound)
  | none, none => none

/-- The flow to follow, when both a port and a host were given. -/
def flowTarget (o : Options) : Except HostError (Option FlowTarget) :=
  match o.port, o.host with
  | some (port, direction), some host => do
    let address ← Host.address host
    pure (some { address, port, direction })
  | _, _ => pure none

/-- The format of the AU file to write. -/
def audioFormat (o : Options) : AudioFormat :=
  { encoding := o.encoding, sampleRate := o.sampleRate, channels := o.channels }

/-- The report sections the options ask for. -/
def printer (o : Options) : ReportPrinter :=
  { checkRtp := o.checkRtp, checkSilence := o.checkSilence, checkNonSilence := o.checkNonSilence }

end Options

/-- The arguments of the command line. -/
inductive Param
  | file
  | toPort
  | fromPort
  | host
  | expectedLen
  | checkRtp
  | checkSilence
  | checkNonSilence
  | au
  | rtp
  | timePoints
  | sampleRate
  | channels
  | encoding
  | verbose
  | help
  | version
  deriving DecidableEq, Repr

namespace Param

/-- Every argument. -/
def all : List Param :=
  [file, toPort, fromPort, host, expectedLen, checkRtp, checkSilence, checkNonSilence, au, rtp,
    timePoints, sampleRate, channels, encoding, verbose, help, version]

/-- The long name, written after `--`; the input has none. -/
def long? : Param → Option String
  | file => none
  | toPort => some "to"
  | fromPort => some "from"
  | host => some "ip"
  | expectedLen => some "len"
  | checkRtp => some "check-rtp"
  | checkSilence => some "check-silence"
  | checkNonSilence => some "check-non-silence"
  | au => some "au"
  | rtp => some "rtp"
  | timePoints => some "time-points"
  | sampleRate => some "sample-rate"
  | channels => some "channels"
  | encoding => some "encoding"
  | verbose => some "verbose"
  | help => some "help"
  | version => some "version"

/-- The letter, written after `-`, of the arguments that have one. -/
def short? : Param → Option Char
  | timePoints => some 't'
  | verbose => some 'v'
  | help => some 'h'
  | version => some 'V'
  | _ => none

/-- The name of the value an argument takes; switches take none. -/
def valueName? : Param → Option String
  | file => some "FILE"
  | toPort | fromPort => some "PORT"
  | host => some "HOST"
  | expectedLen => some "BYTES"
  | sampleRate => some "SAMPLE_RATE"
  | channels => some "CHANNELS"
  | encoding => some "ENCODING"
  | _ => none

/-- Whether the argument takes a value. -/
def takesValue (p : Param) : Bool := p.valueName?.isSome

/-- The arguments that may not be given together with `p`. -/
def conflicts : Param → List Param
  | toPort => [fromPort]
  | fromPort => [toPort]
  | _ => []

/-- How an argument is written in messages. -/
def display (p : Param) : String :=
  match p.long?, p.valueName? with
  | none, some v => "<" ++ v ++ ">"
  | none, none => ""
  | some l, some v => "--" ++ l ++ " <" ++ v ++ ">"
  | some l, none => if p = verbose then "--" ++ l ++ "..." else "--" ++ l

/-- The argument with long name `name`. -/
def ofLong? (name : String) : Option Param := all.find? (·.long? == some name)

/-- The argument with letter `c`. -/
def ofShort? (c : Char) : Option Param := all.find? (·.short? == some c)

example : toPort.display = "--to <PORT>" ∧ file.display = "<FILE>" ∧ verbose.display = "--verbose..." ∧
    sampleRate.display = "--sample-rate <SAMPLE_RATE>" ∧ timePoints.display = "--time-points" := by
  decide

end Param

end RtpAudit.Cli
