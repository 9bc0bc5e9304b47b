/-! # Errors of the file system

The ways a file operation of the program fails. Those the operating system reports carry its
number and text; a path holding a NUL byte cannot be handed to the operating system at all, and is
refused before it is looked up.
-/

namespace RtpAudit

/-- Why the file system refused an operation. -/
inductive OsError
  /-- Nothing is at the path. -/
  | notFound
  /-- A component of the path that must be a directory is a file. -/
  | notDirectory
  /-- The path names a directory where a file is needed. -/
  | isDirectory
  /-- The path names something that cannot be mapped into memory. -/
  | noDevice
  /-- A name in the path is longer than 255 bytes, or the path is longer than 4095. -/
  | nameTooLong
  /-- The path holds a NUL byte. -/
  | nulByte
  deriving DecidableEq, Repr

namespace OsError

/-- The operating system's number for the error; a refused path has none. -/
def code? : OsError → Option Nat
  | notFound => some 2
  | notDirectory => some 20
  | isDirectory => some 21
  | noDevice => some 19
  | nameTooLong => some 36
  | nulByte => none

/-- The description of the error. -/
def description : OsError → String
  | notFound => "No such file or directory"
  | notDirectory => "Not a directory"
  | isDirectory => "Is a directory"
  | noDevice => "No such device"
  | nameTooLong => "File name too long"
  | nulByte => "file name contained an unexpected NUL byte"

/-- The text of the error: its description, and its number when it has one. -/
def message (e : OsError) : String :=
  match e.code? with
  | some n => e.description ++ " (os error " ++ toString n ++ ")"
  | none => e.description

end OsError

end RtpAudit
