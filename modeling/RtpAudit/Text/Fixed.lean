import RtpAudit.Text.Number

/-! # Ratios printed with six decimals

A mean of two counts is computed as a double-precision quotient and printed with six decimals. The
text is fixed by two roundings, both exact here:

* the quotient is the double nearest to `num / den` (a tie goes to the even mantissa), after each
  count has itself been rounded to a double;
* that double's exact value is rounded to six decimals, a tie going to the even last digit.

Doubles are written as `m / 2 ^ k` with a 53-bit mantissa `m`; all arithmetic is on naturals.
-/

namespace RtpAudit.Text

/-- A nonnegative dyadic number `mantissa * 2 ^ exponent`. -/
structure Dyadic where
  mantissa : Nat
  exponent : Int
  deriving Repr, DecidableEq

/-- `n / d` rounded to the nearest natural number, a tie going to the even one. -/
def roundHalfEven (n d : Nat) : Nat :=
  let q := n / d
  let r := n % d
  if 2 * r > d || (2 * r == d && q % 2 == 1) then q + 1 else q

/-- The ratio `num / (den * 2 ^ shift)` for a signed `shift` (a negative one multiplies). -/
def scaledRatio (num den : Nat) (shift : Int) : Nat × Nat :=
  if 0 ≤ shift then (num, den * Nat.pow 2 shift.toNat) else (num * Nat.pow 2 (-shift).toNat, den)

/-- The double nearest to `num / den` for `den > 0`: a mantissa below `2 ^ 53` (or equal to it
after rounding up) and an exponent. The exponent is chosen so that the unrounded mantissa lies in
`[2 ^ 52, 2 ^ 53)`; values here are far from the range of subnormal doubles. -/
def Dyadic.nearest (num den : Nat) : Dyadic :=
  if num = 0 then ⟨0, 0⟩ else
  -- a first guess from the bit lengths, off by at most one either way
  let guess : Int := (Nat.log2 num : Int) - (Nat.log2 den : Int) - 52
  let fits (e : Int) : Bool :=
    let (n, d) := scaledRatio num den e
    Nat.pow 2 52 ≤ n / d && n / d < Nat.pow 2 53
  let e := if fits (guess - 1) then guess - 1 else if fits guess then guess else guess + 1
  let (n, d) := scaledRatio num den e
  ⟨roundHalfEven n d, e⟩

/-- The exact value of a dyadic number as a ratio of naturals. -/
def Dyadic.ratio (x : Dyadic) : Nat × Nat :=
  if 0 ≤ x.exponent then (x.mantissa * Nat.pow 2 x.exponent.toNat, 1)
  else (x.mantissa, Nat.pow 2 (-x.exponent).toNat)

/-- A natural number of millionths written with six decimals. -/
def millionths (n : Nat) : String :=
  toString (n / 1000000) ++ "." ++ alignRight 6 '0' (toString (n % 1000000))

/-- The text of the mean `num / den` (for `den > 0`) as a double printed with six decimals. -/
def meanText (num den : Nat) : String :=
  let (a, a') := (Dyadic.nearest num 1).ratio
  let (b, b') := (Dyadic.nearest den 1).ratio
  let (q, q') := (Dyadic.nearest (a * b') (a' * b)).ratio
  millionths (roundHalfEven (q * 1000000) q')

example : meanText 65 4 = "16.250000" := by decide
example : meanText 61 3 = "20.333333" := by decide
example : meanText 1 128 = "0.007812" := by decide
example : meanText 3 128 = "0.023438" := by decide

end RtpAudit.Text
