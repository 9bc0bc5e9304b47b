import RtpAudit.Text.Number

/-! # Stream anomalies

What checking a stream packet by packet can find: a version byte other than `0x80`, a sequence
number that does not follow the previous one, a media timestamp that did not advance by the
previous payload, a capture time that went backwards, and a payload length other than the frame
length of its type. Offsets between expected and received values wrap as signed 16-bit (sequence
numbers) or 32-bit (timestamps) differences.
-/

namespace RtpAudit

/-- A diagnostic found on one packet. -/
inductive Anomaly
  | badVersion (found : UInt8)
  | sequenceMismatch (expected received : UInt16)
  | timestampMismatch (expected received : UInt32)
  | negativeDelta (delta : Int)
  | unusualLength (payloadType : UInt8) (expected actual : Nat)
  deriving DecidableEq, Repr

/-- The kinds of anomaly, in their order in counts. -/
inductive AnomalyKind
  | badVersion
  | sequenceMismatch
  | timestampMismatch
  | negativeDelta
  | unusualLength
  deriving DecidableEq, Repr

namespace AnomalyKind

/-- Every kind, in order. -/
def all : List AnomalyKind :=
  [badVersion, sequenceMismatch, timestampMismatch, negativeDelta, unusualLength]

/-- A kind's place in the order of kinds, which is their order of declaration. -/
def rank : AnomalyKind → Nat
  | badVersion => 0
  | sequenceMismatch => 1
  | timestampMismatch => 2
  | negativeDelta => 3
  | unusualLength => 4

theorem rank_inj {k k' : AnomalyKind} (h : k.rank = k'.rank) : k = k' := by
  cases k <;> cases k' <;> first | rfl | cases h

/-- The short name of a kind. -/
def name : AnomalyKind → String
  | badVersion => "bad_version"
  | sequenceMismatch => "sequence_mismatch"
  | timestampMismatch => "timestamp_mismatch"
  | negativeDelta => "negative_delta"
  | unusualLength => "unusual_length"

end AnomalyKind

namespace Anomaly

/-- The kind of an anomaly. -/
def kind : Anomaly → AnomalyKind
  | badVersion .. => .badVersion
  | sequenceMismatch .. => .sequenceMismatch
  | timestampMismatch .. => .timestampMismatch
  | negativeDelta .. => .negativeDelta
  | unusualLength .. => .unusualLength

/-- The text of an anomaly. -/
def message : Anomaly → String
  | badVersion found => "bad version byte " ++ Text.hexPrefixed 2 found.toNat
  | sequenceMismatch e r =>
    let off := Text.wrappingOffset 16 e.toNat r.toNat
    "out of sequence packet, expected " ++ Text.hexPrefixed 4 e.toNat ++ ", got " ++
      Text.hexPrefixed 4 r.toNat ++ s!", off by {off}"
  | timestampMismatch e r =>
    let off := Text.wrappingOffset 32 e.toNat r.toNat
    "bad rtp timestamp, expected " ++ Text.hexPrefixed 1 e.toNat ++ ", got " ++
      Text.hexPrefixed 1 r.toNat ++ s!", off by {off}"
  | negativeDelta delta => s!"negative time change {delta} ms"
  | unusualLength pt expected actual =>
    s!"unusual data length {actual} for payload type {pt} (expected {expected})"

end Anomaly

end RtpAudit
