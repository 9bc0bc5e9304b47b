/-! # Log events

The program reports what it does as events: a level, a message and named numeric fields (the
record or packet an event is about). Events are data that the functions of the library return
beside their result, in the order they happen; which of them are shown is decided afterwards by a
level, from the number of `-v` flags.
-/

namespace RtpAudit

/-- How important an event is, from the most to the least. -/
inductive Level
  | error
  | warn
  | info
  | debug
  | trace
  deriving DecidableEq, Repr

namespace Level

/-- Rank of a level: more detailed levels rank higher. -/
def rank : Level → Nat
  | error => 1
  | warn => 2
  | info => 3
  | debug => 4
  | trace => 5

/-- The name of a level as it is shown. -/
def name : Level → String
  | error => "ERROR"
  | warn => "WARN"
  | info => "INFO"
  | debug => "DEBUG"
  | trace => "TRACE"

/-- The most detailed level shown for a count of `-v` flags: warnings alone without any, then
information, then debugging, then everything. -/
def ofVerbosity : Nat → Level
  | 0 => warn
  | 1 => info
  | 2 => debug
  | _ => trace

end Level

/-- One event: a level, a message, and numeric fields by name. -/
structure Event where
  level : Level
  message : String
  fields : List (String × Nat) := []
  deriving Repr

namespace Event

/-- A warning. -/
def warn (message : String) (fields : List (String × Nat) := []) : Event :=
  ⟨.warn, message, fields⟩

/-- A piece of information. -/
def info (message : String) : Event :=
  ⟨.info, message, []⟩

/-- A debugging event. -/
def debug (message : String) (fields : List (String × Nat) := []) : Event :=
  ⟨.debug, message, fields⟩

/-- A tracing event. -/
def trace (message : String) : Event :=
  ⟨.trace, message, []⟩

/-- The line an event is shown as: its level right-aligned in five columns, its message, and its
fields as `name=value`. -/
def line (e : Event) : String :=
  "".pushn ' ' (5 - e.level.name.length) ++ e.level.name ++ " " ++ e.message ++
    String.join (e.fields.map fun (k, v) => " " ++ k ++ "=" ++ toString v)

/-- Whether an event is shown when `limit` is the most detailed level shown. -/
def shownAt (limit : Level) (e : Event) : Bool :=
  e.level.rank ≤ limit.rank

end Event

/-- The events shown at `limit`, in order. -/
def Log.shown (limit : Level) (events : List Event) : List Event :=
  events.filter (Event.shownAt limit)

end RtpAudit
