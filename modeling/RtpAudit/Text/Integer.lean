/-! # Decimal integer text

An integer is written as decimal digits after an optional sign: `+`, or `-` where negative values
are allowed (elsewhere `-` is no digit). The text is read from the left and the first fault met is
the error:

* no text at all is `empty`;
* a sign alone, or any character that is not an ASCII digit, is `invalidDigit`;
* a value past a bound, checked after each digit, is `tooLarge` (or `tooSmall` below zero).

So `12x` with a large enough prefix can fail as too large before its `x` is reached.
-/

namespace RtpAudit.Text

/-- Why a text is no integer of the wanted range. -/
inductive IntegerError
  | empty
  | invalidDigit
  | tooLarge
  | tooSmall
  deriving DecidableEq, Repr

/-- The text of an integer error. -/
def IntegerError.message : IntegerError → String
  | .empty => "cannot parse integer from empty string"
  | .invalidDigit => "invalid digit found in string"
  | .tooLarge => "number too large to fit in target type"
  | .tooSmall => "number too small to fit in target type"

/-- The digits `cs` appended to the magnitude `acc`, failing with `past` once the magnitude
exceeds `limit`, or with `invalidDigit` at a character that is no digit. -/
def readDigits (limit : Nat) (past : IntegerError) (acc : Nat) : List Char → Except IntegerError Nat
  | [] => .ok acc
  | c :: rest =>
    if c.isDigit then
      let acc := acc * 10 + (c.toNat - '0'.toNat)
      if acc > limit then .error past else readDigits limit past acc rest
    else .error .invalidDigit

/-- The integer written by `s`, from `-low` to `high`; `-` is a sign only when `negatives`. -/
def readInteger (negatives : Bool) (low high : Nat) (s : String) : Except IntegerError Int :=
  match s.toList with
  | [] => .error .empty
  | ['+'] | ['-'] => .error .invalidDigit
  | '+' :: ds => Int.ofNat <$> readDigits high .tooLarge 0 ds
  | '-' :: ds =>
    if negatives then (fun n => -(n : Int)) <$> readDigits low .tooSmall 0 ds
    else .error .invalidDigit
  | ds => Int.ofNat <$> readDigits high .tooLarge 0 ds

/-- A signed 64-bit integer written in decimal. -/
def readInt64 (s : String) : Except IntegerError Int :=
  readInteger true (Nat.pow 2 63) (Nat.pow 2 63 - 1) s

/-- An unsigned 64-bit integer written in decimal. -/
def readUInt64 (s : String) : Except IntegerError Nat :=
  Int.toNat <$> readInteger false 0 (Nat.pow 2 64 - 1) s

example : readInt64 "+070000" = .ok 70000 := rfl
example : readInt64 "-5" = .ok (-5) := rfl
example : readInt64 "" = .error .empty := rfl
example : readInt64 "+" = .error .invalidDigit := rfl
example : readInt64 "9223372036854775808" = .error .tooLarge := rfl
example : readInt64 "-9223372036854775809" = .error .tooSmall := rfl
example : readInt64 "-9223372036854775808" = .ok (-9223372036854775808) := rfl
example : readUInt64 "18446744073709551616" = .error .tooLarge := rfl
example : readUInt64 "-0" = .error .invalidDigit := rfl
example : readUInt64 "99999999999999999999x" = .error .tooLarge := rfl

end RtpAudit.Text
