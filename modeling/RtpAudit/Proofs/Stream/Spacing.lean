import RtpAudit.Proofs.Analysis.Bounds

/-! # Packet spacing from capture times

A packet's spacing is the difference between its capture time and the previous packet's, in
microseconds over both fields, rounded to milliseconds with a half going up, below zero too. The
microsecond fields need not stay below a second. Two capture times are less than
2³² (10⁶ + 1) microseconds apart, so rounding in 64-bit arithmetic never overflows there.

* `millisOfMicros_eq_iff`: the rounded value is the millisecond count `k` with
  `1000 k - 500 ≤ m < 1000 k + 500`;
* `millisOfMicros64_eq_ok_iff`: in 64-bit arithmetic the same, up to the largest value that
  leaves room for the half millisecond;
* `PacketClock.deltas_after`: a clock that has seen a packet spaces each later packet from the one
  before it;
* `PacketClock.spacing`: all three together, for a fresh clock.
-/

namespace RtpAudit

/-- Rounding to milliseconds picks the count within half a millisecond, a half going up. -/
theorem millisOfMicros_eq_iff (m k : Int) :
    millisOfMicros m = k ↔ 1000 * k - 500 ≤ m ∧ m < 1000 * k + 500 := by
  unfold millisOfMicros
  omega

example : millisOfMicros (-1500) = -1 := by decide
example : millisOfMicros (-1501) = -2 := by decide

theorem millisOfMicros64_eq_ok_iff {m : Int} (hm : m ≤ (Nat.pow 2 63 : Int) - 1 - 500) (k : Int) :
    millisOfMicros64 m = .ok k ↔ 1000 * k - 500 ≤ m ∧ m < 1000 * k + 500 := by
  have hfits : m + 500 < (Nat.pow 2 63 : Int) := by omega
  unfold millisOfMicros64
  rw [if_pos hfits, Except.ok.injEq]
  exact millisOfMicros_eq_iff m k

namespace PacketClock

/-- The spacings a clock gives packets captured at `ts`, one after another. -/
def deltas (c : PacketClock) : List CaptureTime → List Int
  | [] => []
  | t :: ts => (c.tick t).2 :: (c.tick t).1.deltas ts

theorem tick_clock (c : PacketClock) (t : CaptureTime) : (c.tick t).1 = ⟨some t⟩ := rfl

/-- After a packet captured at `prev`, each packet is spaced from the one before it. -/
theorem deltas_after (prev : CaptureTime) (ts : List CaptureTime) :
    (PacketClock.mk (some prev)).deltas ts =
      List.zipWith (fun t p => millisOfMicros (t.microsSince p)) ts (prev :: ts) := by
  induction ts generalizing prev with
  | nil => rfl
  | cons t ts ih =>
    rw [deltas, tick_clock, ih]
    rfl

/-- Rounding to milliseconds goes to the nearest, halves up, and never overflows for the spacings
of a run: 20 ms for the first packet and the rounded capture-time difference for each later one. -/
theorem spacing :
    (∀ m : Int, m ≤ (Nat.pow 2 63 : Int) - 1 - 500 →
      ∀ k, millisOfMicros64 m = .ok k ↔ 1000 * k - 500 ≤ m ∧ m < 1000 * k + 500) ∧
    (∀ (t : CaptureTime) (ts : List CaptureTime),
      ({} : PacketClock).deltas (t :: ts) = 20 :: List.zipWith
        (fun cur prev => millisOfMicros (((cur.secs.toNat : Int) - prev.secs.toNat) * 1000000 +
          ((cur.micros.toNat : Int) - prev.micros.toNat))) ts (t :: ts)) ∧
    (∀ t prev : CaptureTime, (t.microsSince prev).natAbs < Nat.pow 2 32 * (1000000 + 1) ∧
      millisOfMicros64 (t.microsSince prev) = .ok (millisOfMicros (t.microsSince prev))) := by
  refine ⟨fun m hm k => millisOfMicros64_eq_ok_iff hm k, fun t ts => ?_, fun t prev => ?_⟩
  · rw [deltas, tick_clock, deltas_after]
    rfl
  · have hbound := CaptureTime.microsSince_natAbs_le t prev
    have hpow : Nat.pow 2 32 * (1000000 + 1) = 4294971590967296 := rfl
    exact ⟨by omega, millisOfMicros64_microsSince t prev⟩

/-- `-1501` µs rounds to `-2` ms. -/
theorem spacing_rounds_down_past_half :
    (-1501 : Int) ≤ (Nat.pow 2 63 : Int) - 1 - 500 ∧
      (millisOfMicros64 (-1501) = .ok (-2) ↔
        1000 * (-2) - 500 ≤ (-1501 : Int) ∧ (-1501 : Int) < 1000 * (-2) + 500) :=
  ⟨by decide, spacing.1 (-1501) (by decide) (-2)⟩

end PacketClock

end RtpAudit
