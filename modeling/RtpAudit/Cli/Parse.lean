import RtpAudit.Cli.Options
import RtpAudit.Text.Integer
import RtpAudit.Text.Quoted

/-! # Reading the command line

The words after the program's name are read from left to right.

* `--` ends the options: every later word is positional.
* `--name` or `--name=value` is an option by its long name. An option that takes a value and has
  none attached takes the next word, unless that word looks like an option itself.
* `-abc` is a run of letters, each a switch; `-` alone is positional.
* The first positional word is the input; a second one is refused.

A value is checked when the next argument is taken, or at the end, and not when it is read: so a
word that is no argument is reported before a bad value read ahead of it. An option given with no
value, or given twice, is an error when it is taken. After the last word, arguments that exclude
each other are reported in the order they were taken, and then a missing input.
-/

namespace RtpAudit.Cli

/-- Why a command line is refused, or answered without a run. -/
inductive ArgError
  /-- An argument was given twice. -/
  | repeated (arg : String)
  /-- Two arguments that exclude each other were given; `arg` was taken first. -/
  | conflict (arg other : String)
  /-- A value that is none of the allowed ones; an empty one counts as missing. -/
  | invalidValue (value arg : String)
  /-- A value that does not read as the argument's type. -/
  | badValue (value arg reason : String)
  /-- A word that is no argument. -/
  | unknown (word : String)
  /-- A value attached to a switch. -/
  | unexpectedValue (value arg : String)
  /-- The input was not given. -/
  | missingInput
  /-- Help was asked for. -/
  | help
  /-- The version was asked for. -/
  | version
  deriving DecidableEq, Repr

namespace ArgError

/-- The text of the error. -/
def message : ArgError → String
  | repeated a => s!"the argument '{a}' cannot be used multiple times"
  | conflict a b => s!"the argument '{a}' cannot be used with '{b}'"
  | invalidValue v a =>
    if v.isEmpty then s!"a value is required for '{a}' but none was supplied"
    else s!"invalid value '{v}' for '{a}'"
  | badValue v a r => s!"invalid value '{v}' for '{a}': {r}"
  | unknown w => s!"unexpected argument '{w}' found"
  | unexpectedValue v a => s!"unexpected value '{v}' for '{a}' found; no more were expected"
  | missingInput => "the following required arguments were not provided:"
  | help => "Reassemble and audit RTP voice streams from snoop captures and bridge recordings"
  | version => "rtpsift 0.1.0"

/-- Whether the command line was refused, rather than answered with help or the version. -/
def isFailure : ArgError → Bool
  | help | version => false
  | _ => true

/-- The error as it is printed: refusals are marked as errors. -/
def text (e : ArgError) : String :=
  if e.isFailure then "error: " ++ e.message else e.message

/-- The first line of the error as printed: a word or value holding a line feed cuts it there. -/
def firstLine (e : ArgError) : String :=
  Text.firstLine e.text

end ArgError

/-- How a word reads while options are still being read. -/
inductive Word
  /-- `--`: the end of the options. -/
  | escape
  /-- `--name`, or `--name=value`. -/
  | long (name : String) (value : Option String)
  /-- `-abc`: a run of letters. -/
  | letters (cs : List Char)
  /-- Anything else, `-` alone included. -/
  | plain (text : String)
  deriving DecidableEq, Repr

/-- How `s` reads as a word. -/
def Word.ofString (s : String) : Word :=
  match s.toList with
  | ['-', '-'] => .escape
  | '-' :: '-' :: body =>
    let name := body.takeWhile (· ≠ '=')
    match body.dropWhile (· ≠ '=') with
    | _ :: value => .long (String.ofList name) (some (String.ofList value))
    | [] => .long (String.ofList name) none
  | '-' :: c :: rest => .letters (c :: rest)
  | _ => .plain s

/-- A 64-bit integer value of argument `p`, checked to lie from 0 to `max`; a value out of range is
shown as written, and the reason names the number it reads as. -/
def readBounded (p : Param) (max : Nat) (v : String) : Except ArgError Nat :=
  match Text.readInt64 v with
  | .error e => .error (.badValue v p.display e.message)
  | .ok n =>
    if 0 ≤ n ∧ n ≤ max then .ok n.toNat
    else .error (.badValue v p.display s!"{n} is not in 0..={max}")

/-- Options with the value `v` of argument `p` set. -/
def Options.setValue (o : Options) (p : Param) (v : String) : Except ArgError Options :=
  match p with
  | .file => if v.isEmpty then .error (.invalidValue "" p.display) else .ok { o with file := v }
  | .toPort => do pure { o with toPort := some (← readBounded p 65535 v).toUInt16 }
  | .fromPort => do pure { o with fromPort := some (← readBounded p 65535 v).toUInt16 }
  | .host => .ok { o with host := some v }
  | .expectedLen =>
    match Text.readUInt64 v with
    | .ok n => .ok { o with expectedLen := some n }
    | .error e => .error (.badValue v p.display e.message)
  | .sampleRate => do pure { o with sampleRate := (← readBounded p 4294967295 v).toUInt32 }
  | .channels => do pure { o with channels := (← readBounded p 4294967295 v).toUInt32 }
  | .encoding =>
    if v = "pcmu" then .ok { o with encoding := .ulaw }
    else if v = "pcm" then .ok { o with encoding := .linear }
    else .error (.invalidValue v p.display)
  | _ => .ok o

/-- Options with switch `p` turned on. -/
def Options.setSwitch (o : Options) : Param → Options
  | .checkRtp => { o with checkRtp := true }
  | .checkSilence => { o with checkSilence := true }
  | .checkNonSilence => { o with checkNonSilence := true }
  | .au => { o with au := true }
  | .rtp => { o with rtp := true }
  | .timePoints => { o with timePoints := true }
  | .verbose => { o with verbose := min 255 (o.verbose + 1) }
  | _ => o

/-- The command line read so far. -/
structure ParseState where
  options : Options := {}
  /-- The arguments taken, in the order they were taken; `-v` moves to the end each time. -/
  taken : List Param := []
  /-- An argument read but not yet taken, with its value if one came. -/
  pending : Option (Param × Option String) := none
  /-- Whether `--` was read. -/
  escaped : Bool := false
  /-- Whether the input was read. -/
  inputSeen : Bool := false
  deriving Repr

namespace ParseState

/-- Take argument `p`, with value `v`, when nothing is pending. -/
def takeNow (st : ParseState) (p : Param) (v : Option String) : Except ArgError ParseState :=
  match p with
  | .help => .error .help
  | .version => .error .version
  | .verbose => .ok { st with options := st.options.setSwitch .verbose, taken := st.taken.erase .verbose ++ [.verbose] }
  | _ =>
    if p.takesValue && v.isNone then .error (.invalidValue "" p.display)
    else if p ∈ st.taken then .error (.repeated p.display)
    else do
      let options ← match v with
        | some v => st.options.setValue p v
        | none => pure (st.options.setSwitch p)
      pure { st with options, taken := st.taken ++ [p] }

/-- Take the pending argument, if there is one. -/
def settle (st : ParseState) : Except ArgError ParseState :=
  match st.pending with
  | none => .ok st
  | some (p, v) => takeNow { st with pending := none } p v

/-- Take argument `p` with value `v`, after the pending one. -/
def take (st : ParseState) (p : Param) (v : Option String) : Except ArgError ParseState := do
  (← st.settle).takeNow p v

/-- Read a positional word: the input, if it has not been read. -/
def positional (st : ParseState) (text : String) : Except ArgError ParseState :=
  if st.inputSeen then .error (.unknown text)
  else do
    let st ← st.settle
    pure { st with pending := some (.file, some text), inputSeen := true }

/-- Read a letter of a run. -/
def letter (st : ParseState) (c : Char) : Except ArgError ParseState :=
  match Param.ofShort? c with
  | some p => st.take p none
  | none => .error (.unknown ("-" ++ c.toString))

/-- Read one word. -/
def step (st : ParseState) (word : String) : Except ArgError ParseState :=
  if st.escaped then st.positional word
  else
    match Word.ofString word with
    | .escape => .ok { st with escaped := true }
    | .long name value =>
      match Param.ofLong? name, value with
      | none, _ => .error (.unknown ("--" ++ name))
      | some p, some v => if p.takesValue then st.take p (some v) else .error (.unexpectedValue v p.display)
      | some p, none =>
        if p.takesValue then do
          let st ← st.settle
          pure { st with pending := some (p, none) }
        else st.take p none
    | .letters cs => cs.foldlM letter st
    | .plain text =>
      match st.pending with
      | some (p, none) => .ok { st with pending := some (p, some text) }
      | _ => st.positional text

/-- After `--`, every word is positional. -/
theorem step_escaped (st : ParseState) (word : String) (h : st.escaped = true) :
    st.step word = st.positional word := by
  simp [step, h]

/-- The first pair of arguments taken that exclude each other, by the first of them. -/
def firstConflict (st : ParseState) : Option (Param × Param) :=
  st.taken.findSome? fun p => (p.conflicts.find? (· ∈ st.taken)).map (p, ·)

/-- The options, once every word is read. -/
def finish (st : ParseState) : Except ArgError Options := do
  let st ← st.settle
  if let some (p, q) := st.firstConflict then throw (.conflict p.display q.display)
  if Param.file ∉ st.taken then throw .missingInput
  pure st.options

end ParseState

/-- The options written by the words after the program's name. -/
def Options.parse (args : List String) : Except ArgError Options := do
  let st ← args.foldlM ParseState.step {}
  st.finish

end RtpAudit.Cli
