import RtpAudit.Proofs.Stream.Window
import RtpAudit.Proofs.Stream.Histogram

/-! # The timing totals of a run

Over any run of packets from a fresh tracker, the timing totals are read off the verdicts on the
packets:

* the histogram counts in each bucket the packets reported in it, so its total is the number of
  packets, and its rows list exactly the buckets that counted something, in ascending order;
* elapsed time is the sum of the buckets of the packets whose predecessor is not comfort noise;
* the longest spacing is the largest spacing reported, and zero for no packet; it is not capped at
  the last bucket.

Checking a packet changes each total by the packet's own verdict (`Tracker.validate_totalElapsed`
and its neighbours); `Tracker.Timed` says what a run from any tracker changes, and holds of every
run (`Tracker.timed_after`).
-/

namespace RtpAudit

namespace Tracker

/-- The tracker after checking packets one after another from `t`, each at its spacing. -/
def after (t : Tracker) : List (RtpPacket × Int) → Tracker
  | [] => t
  | (p, d) :: xs => (t.validate p d).1.after xs

variable (t : Tracker) (p : RtpPacket) (d : Int)

theorem validate_bucket : (t.validate p d).2.bucket = Histogram.bucketOf (t.validate p d).2.delta :=
  rfl

theorem validate_histogram :
    (t.validate p d).1.histogram = (t.histogram.record (t.validate p d).2.delta).1 :=
  rfl

theorem validate_comfortPending : (t.validate p d).1.comfortPending = p.header.isComfortNoise :=
  rfl

theorem validate_maxDelay : (t.validate p d).1.maxDelay = max t.maxDelay (t.validate p d).2.delta :=
  rfl

/-- A packet adds its bucket to the elapsed time unless it follows comfort noise and is not. -/
theorem validate_totalElapsed :
    (t.validate p d).1.totalElapsed =
      t.totalElapsed + if t.comfortPending then 0 else (t.validate p d).2.bucket := by
  show (if !t.comfortPending || p.header.isComfortNoise then
      t.totalElapsed + Histogram.bucketOf (if p.header.isComfortNoise then 0 else max d 0)
    else t.totalElapsed) =
      t.totalElapsed + if t.comfortPending then 0 else
        Histogram.bucketOf (if p.header.isComfortNoise then 0 else max d 0)
  -- comfort noise is counted at zero, in bucket zero
  cases p.header.isComfortNoise <;> cases t.comfortPending <;> rfl

/-- What a run of packets `xs` from `t` to `t'` changes in the timing totals. -/
structure Timed (t : Tracker) (xs : List (RtpPacket × Int)) (t' : Tracker) : Prop where
  processed : t'.processed = t.processed + xs.length
  size : t'.histogram.counts.size = t.histogram.counts.size
  count : ∀ b, t'.histogram.count b =
    t.histogram.count b + ((t.validations xs).map (·.bucket)).count b
  total : t'.histogram.total = t.histogram.total + xs.length
  elapsed : t'.totalElapsed = t.totalElapsed +
    (List.zipWith (fun cn v => if cn then 0 else v.bucket)
      (t.comfortPending :: xs.map (·.1.header.isComfortNoise)) (t.validations xs)).foldr (· + ·) 0
  maxDelay : t'.maxDelay = ((t.validations xs).map (·.delta)).foldl max t.maxDelay

theorem timed_nil : Timed t [] t where
  processed := rfl
  size := rfl
  count _ := rfl
  total := rfl
  elapsed := rfl
  maxDelay := rfl

variable {t p d}

theorem Timed.cons {xs : List (RtpPacket × Int)} {t' : Tracker}
    (hs : t.histogram.counts.size = Histogram.buckets) (h : Timed (t.validate p d).1 xs t') :
    Timed t ((p, d) :: xs) t' where
  processed := by
    rw [h.processed, List.length_cons]
    show t.processed + 1 + xs.length = _
    omega
  size := by
    rw [h.size, validate_histogram]
    exact Histogram.size_record _ _
  count b := by
    rw [h.count, validate_histogram, Histogram.count_record hs, validations, List.map_cons,
      List.count_cons, ← validate_bucket]
    -- the packet's bucket is counted once, before or after the later packets'
    by_cases hb : (t.validate p d).2.bucket = b
    · rw [if_pos hb, if_pos (beq_iff_eq.2 hb)]
      omega
    · rw [if_neg hb, if_neg (mt beq_iff_eq.1 hb)]
      omega
  total := by
    rw [h.total, validate_histogram, Histogram.total_record hs, List.length_cons]
    omega
  elapsed := by
    rw [h.elapsed, validate_totalElapsed, validate_comfortPending, validations, List.map_cons,
      List.zipWith_cons_cons, List.foldr_cons]
    dsimp only
    omega
  maxDelay := by
    rw [h.maxDelay, validate_maxDelay]
    rfl

/-- Every run from a tracker with a histogram of all its buckets is `Timed`. -/
theorem timed_after (hs : t.histogram.counts.size = Histogram.buckets) (xs : List (RtpPacket × Int)) :
    Timed t xs (t.after xs) := by
  induction xs generalizing t with
  | nil => exact timed_nil t
  | cons x xs ih =>
    obtain ⟨p, d⟩ := x
    have hs' : (t.validate p d).1.histogram.counts.size = Histogram.buckets := by
      rw [validate_histogram, Histogram.size_record, hs]
    exact Timed.cons hs (ih hs')

end Tracker

/-- The timing totals of a run from a fresh tracker, read off the verdicts on its packets: the
packets counted, the histogram and its rows, the elapsed time and the longest spacing. -/
theorem Tracker.run_timing (xs : List (RtpPacket × Int)) :
    let t := ({} : Tracker).after xs
    let vs := ({} : Tracker).validations xs
    t.processed = xs.length ∧
      (∀ b, t.histogram.count b = (vs.map (·.bucket)).count b) ∧
      t.histogram.total = xs.length ∧
      (∀ b c, (b, c) ∈ t.histogram.rows ↔ 0 < c ∧ c = (vs.map (·.bucket)).count b) ∧
      t.histogram.rows.Pairwise (fun r s => r.1 < s.1) ∧
      t.totalElapsed = (List.zipWith (fun cn v => if cn then 0 else v.bucket)
        (false :: xs.map (·.1.header.isComfortNoise)) vs).foldr (· + ·) 0 ∧
      t.maxDelay = (vs.map (·.delta)).foldl max 0 := by
  intro t vs
  have hs : ({} : Tracker).histogram.counts.size = Histogram.buckets := Array.size_replicate
  have h := timed_after hs xs
  have hcount : ∀ b, t.histogram.count b = (vs.map (·.bucket)).count b := fun b => by
    rw [h.count, Histogram.count_empty, Nat.zero_add]
  have hsize : t.histogram.counts.size = Histogram.buckets := h.size.trans hs
  refine ⟨h.processed.trans (Nat.zero_add _), hcount, ?_, fun b c => ?_, Histogram.rows_sorted _,
    h.elapsed.trans (Nat.zero_add _), h.maxDelay⟩
  · rw [h.total, Histogram.total_empty, Nat.zero_add]
  · rw [Histogram.mem_rows hsize, hcount]

/-- A spacing of a second counts in the last bucket, and so in the elapsed time, as 499 ms, but is
kept whole as the longest spacing. -/
example : (({} : Tracker).after
    [(⟨⟨0x80, 0, 1, 0, 0⟩, []⟩, 20), (⟨⟨0x80, 0, 2, 0, 0⟩, []⟩, 1000)]).totalElapsed = 519 ∧
    (({} : Tracker).after
      [(⟨⟨0x80, 0, 1, 0, 0⟩, []⟩, 20), (⟨⟨0x80, 0, 2, 0, 0⟩, []⟩, 1000)]).maxDelay = 1000 := by
  decide

end RtpAudit
