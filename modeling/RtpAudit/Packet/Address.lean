import RtpAudit.Wire.Bytes

/-! # IPv4 addresses

An address is four octets. Its text is the dotted quad: four decimal numbers from 0 to 255
separated by dots, each of one to three digits and without a leading zero unless it is `0`
(a leading zero would read as octal elsewhere, so such text is refused).
-/

namespace RtpAudit

/-- An IPv4 address: four octets, the first most significant. -/
structure Ipv4Address where
  octet0 : UInt8
  octet1 : UInt8
  octet2 : UInt8
  octet3 : UInt8
  deriving DecidableEq, Repr

namespace Ipv4Address

/-- The loopback address `127.0.0.1`. -/
def loopback : Ipv4Address := ⟨127, 0, 0, 1⟩

/-- The address held in four bytes at position `i`. -/
def ofBytesAt (bs : Bytes) (i : Nat) : Ipv4Address :=
  ⟨bs.getD i 0, bs.getD (i + 1) 0, bs.getD (i + 2) 0, bs.getD (i + 3) 0⟩

/-- The dotted-quad text of an address. -/
def text (a : Ipv4Address) : String :=
  s!"{a.octet0}.{a.octet1}.{a.octet2}.{a.octet3}"

/-- The octet written by `s`: one to three decimal digits, no leading zero, at most 255. -/
def octet? (s : String) : Option UInt8 :=
  let cs := s.toList
  if cs.isEmpty || cs.length > 3 || !cs.all Char.isDigit then none
  else if cs.length > 1 && cs.head? == some '0' then none
  else
    let n := cs.foldl (fun acc c => acc * 10 + (c.toNat - '0'.toNat)) 0
    if n ≤ 255 then some n.toUInt8 else none

/-- The address written by a dotted quad, if `s` is one. -/
def parse? (s : String) : Option Ipv4Address :=
  match s.splitOn "." with
  | [a, b, c, d] => do pure ⟨← octet? a, ← octet? b, ← octet? c, ← octet? d⟩
  | _ => none

end Ipv4Address

end RtpAudit
