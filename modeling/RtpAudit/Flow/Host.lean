import RtpAudit.Packet.Address

/-! # Naming the followed endpoint

The endpoint to follow is given as a host, which names its IPv4 address in one of three ways:

* a dotted quad is that address;
* `localhost` is the loopback address;
* an IPv6 literal names an address, but no IPv4 one, so it is refused.

Any other name is known only to the name service, which lies outside this library; resolving it is
left to the caller.

IPv6 literal text is up to eight groups of one to four hex digits separated by colons, where one
`::` stands for one or more zero groups, and the last two groups may be written as a dotted quad
(which may not stand before the `::`). No zone and no brackets are allowed.
-/

namespace RtpAudit

/-- Why a host names no address to follow. -/
inductive HostError
  /-- The host is an IPv6 address. -/
  | noIpv4 (host : String)
  /-- The name service does not know the host. -/
  | unknown (host : String)
  deriving DecidableEq, Repr

/-- The text of a host error. -/
def HostError.message : HostError → String
  | .noIpv4 host => "Host " ++ host ++ " has no IPv4 address"
  | .unknown host => "Unknown host " ++ host

/-- What a host names. -/
inductive Resolution
  /-- The host is, or is known locally as, this address. -/
  | address (a : Ipv4Address)
  /-- The host names an address that is not IPv4. -/
  | noIpv4
  /-- The host is a name that only the name service can resolve. -/
  | lookup
  deriving DecidableEq, Repr

namespace Host

/-- The value of `c` as a digit of `base` (at most 16), if it is one. -/
def digitValue? (base : Nat) (c : Char) : Option Nat :=
  let v :=
    if c.isDigit then c.toNat - '0'.toNat
    else if 'a' ≤ c ∧ c ≤ 'f' then c.toNat - 'a'.toNat + 10
    else if 'A' ≤ c ∧ c ≤ 'F' then c.toNat - 'A'.toNat + 10
    else base
  if v < base then some v else none

/-- The number at the front of `cs`, read as all the digits of `base` there, and the rest: there
must be one to `maxDigits` digits, the value must be at most `bound`, and a leading zero is
allowed before more digits only when `zeroPrefix` is set. -/
def readNumber (base maxDigits bound : Nat) (zeroPrefix : Bool) (cs : List Char) :
    Option (Nat × List Char) :=
  let digits := cs.takeWhile fun c => (digitValue? base c).isSome
  let value := digits.foldl (fun acc c => acc * base + (digitValue? base c).getD 0) 0
  if digits.isEmpty || digits.length > maxDigits || value > bound then none
  else if !zeroPrefix && digits.length > 1 && digits.head? == some '0' then none
  else some (value, cs.drop digits.length)

/-- The rest of `cs` after `c`, if `cs` starts with `c`. -/
def readChar (c : Char) : List Char → Option (List Char)
  | d :: rest => if d = c then some rest else none
  | [] => none

/-- The rest of `cs` after a dotted quad at its front. -/
def readQuad (cs : List Char) : Option (List Char) := do
  let (_, cs) ← readNumber 10 3 255 false cs
  let (_, cs) ← readNumber 10 3 255 false (← readChar '.' cs)
  let (_, cs) ← readNumber 10 3 255 false (← readChar '.' cs)
  let (_, cs) ← readNumber 10 3 255 false (← readChar '.' cs)
  pure cs

/-- `p` applied after a colon, unless it reads the first group. -/
def afterColon (first : Bool) (p : List Char → Option (List Char)) (cs : List Char) :
    Option (List Char) :=
  if first then p cs else readChar ':' cs >>= p

/-- Read up to `room` more groups, `read` of them read already: the number of groups read, whether
the last two were a dotted quad, and the rest. A dotted quad is tried first wherever two groups
are left. -/
def readGroups : (room read : Nat) → List Char → Nat × Bool × List Char
  | 0, read, cs => (read, false, cs)
  | room + 1, read, cs =>
    let quad := if room ≥ 1 then afterColon (read = 0) readQuad cs else none
    match quad with
    | some rest => (read + 2, true, rest)
    | none =>
      match afterColon (read = 0) (fun cs => (readNumber 16 4 0xFFFF true cs).map (·.2)) cs with
      | some rest => readGroups room (read + 1) rest
      | none => (read, false, cs)

/-- Whether `s` is an IPv6 literal. -/
def isIpv6 (s : String) : Bool :=
  let (head, headQuad, rest) := readGroups 8 0 s.toList
  if head = 8 then rest.isEmpty
  else if headQuad then false
  else
    match rest with
    | ':' :: ':' :: rest => (readGroups (8 - (head + 1)) 0 rest).2.2.isEmpty
    | _ => false

/-- What `host` names: a dotted quad first, then an IPv6 literal, then the local name
`localhost`; anything else needs the name service. -/
def resolve (host : String) : Resolution :=
  match Ipv4Address.parse? host with
  | some a => .address a
  | none =>
    if isIpv6 host then .noIpv4
    else if host = "localhost" then .address Ipv4Address.loopback
    else .lookup

/-- A dotted quad names its own address. -/
theorem resolve_of_quad {host : String} {a : Ipv4Address} (h : Ipv4Address.parse? host = some a) :
    resolve host = .address a := by
  simp [resolve, h]

/-- The address to follow for `host`, or why there is none. -/
def address (host : String) : Except HostError Ipv4Address :=
  match resolve host with
  | .address a => .ok a
  | .noIpv4 => .error (.noIpv4 host)
  | .lookup => .error (.unknown host)

example : isIpv6 "::1" ∧ isIpv6 "fe80::1" ∧ isIpv6 "::ffff:1.2.3.4" ∧ isIpv6 "1:2:3:4:5:6:7::" ∧
    isIpv6 "1:2:3:4:5:6:1.2.3.4" ∧ isIpv6 "::" := by decide
example : ¬ isIpv6 "1.2.3.4::" ∧ ¬ isIpv6 "12345::" ∧ ¬ isIpv6 ":1" ∧ ¬ isIpv6 "1::2::3" ∧
    ¬ isIpv6 "::1.2.3" ∧ ¬ isIpv6 "[::1]" ∧ ¬ isIpv6 "1:2:3:4:5:6:7:8:9" ∧ ¬ isIpv6 "" := by decide

end Host

end RtpAudit
