/-! # Numbers as text

The number formats of the program's messages: decimal and lowercase hexadecimal digits,
right-aligned fields, `0x`-prefixed hexadecimal with a least number of digits, and the value of a
wrapped difference of two words read as a signed number.
-/

namespace RtpAudit.Text

/-- Lowercase hexadecimal digits of `n`, with no prefix and no leading zero (`0` for zero). -/
def hex (n : Nat) : String :=
  String.ofList (Nat.toDigits 16 n)

/-- `s` right-aligned in a field of `width` characters, filled on the left with `fill`. -/
def alignRight (width : Nat) (fill : Char) (s : String) : String :=
  String.ofList (List.replicate (width - s.length) fill) ++ s

/-- `0x` followed by the hexadecimal digits of `n`, zero-filled to at least `digits` of them. -/
def hexPrefixed (digits n : Nat) : String :=
  "0x" ++ alignRight digits '0' (hex n)

/-- The decimal text of an integer right-aligned in a field of `width` characters. -/
def decimalIn (width : Nat) (n : Int) : String :=
  alignRight width ' ' (toString n)

/-- The hexadecimal text of `n` right-aligned in a field of `width` characters. -/
def hexIn (width n : Nat) : String :=
  alignRight width ' ' (hex n)

/-- The difference `b - a` of two words of `bits` bits, taken modulo `2 ^ bits` and read as a
two's-complement signed number of the same width. -/
def wrappingOffset (bits a b : Nat) : Int :=
  let m := Nat.pow 2 bits
  let d := (b + m - a % m) % m
  if d < Nat.pow 2 (bits - 1) then d else (d : Int) - m

theorem alignRight_length (width : Nat) (fill : Char) (s : String) :
    (alignRight width fill s).length = max width s.length := by
  simp [alignRight, String.length_append]
  omega

end RtpAudit.Text
