import RtpAudit.Capture.Format

/-! # Packet spacing from capture times

The time between packets is the capture-time difference rounded to milliseconds, a half going up
(towards positive infinity). The first packet of a run is given one 20 ms frame. Rounding is done
in 64-bit signed arithmetic, which fails when adding the half millisecond overflows.
-/

namespace RtpAudit

/-- Microseconds rounded to milliseconds, a half going up. -/
def millisOfMicros (micros : Int) : Int :=
  (micros + 500) / 1000

/-- Why a computation in 64-bit signed arithmetic failed. -/
inductive Overflow
  /-- An addition left the 64-bit signed range. -/
  | add
  deriving DecidableEq, Repr

/-- The text of an overflow. -/
def Overflow.message : Overflow → String
  | .add => "attempt to add with overflow"

/-- `millisOfMicros` of a 64-bit signed value, failing when adding the half millisecond leaves
the 64-bit signed range. -/
def millisOfMicros64 (micros : Int) : Except Overflow Int :=
  if micros + 500 < Nat.pow 2 63 then .ok (millisOfMicros micros) else .error .add

/-- The spacing of the first packet of a run. -/
def firstPacketDelta : Int := 20

/-- The clock of a run: the capture time of the previous packet. -/
structure PacketClock where
  last : Option CaptureTime := none
  deriving Repr

/-- Milliseconds since the previous packet (the first one gets `firstPacketDelta`). -/
def PacketClock.tick (c : PacketClock) (t : CaptureTime) : PacketClock × Int :=
  let delta := match c.last with
    | none => firstPacketDelta
    | some prev => millisOfMicros (t.microsSince prev)
  (⟨some t⟩, delta)

end RtpAudit
