/-! # Histogram of packet spacing

Times between packets, in milliseconds, counted in 500 buckets of one millisecond: a time below
zero counts in bucket 0 and one of 499 or more in bucket 499.
-/

namespace RtpAudit

/-- Counts of packet spacings by millisecond. -/
structure Histogram where
  counts : Array Nat := Array.replicate 500 0
  deriving Repr

namespace Histogram

/-- Number of buckets. -/
def buckets : Nat := 500

/-- The bucket of a time: the time clamped to `[0, 499]`. -/
def bucketOf (delta : Int) : Nat :=
  if delta < 0 then 0 else min delta.toNat (buckets - 1)

/-- Count one time; also gives its bucket. -/
def record (h : Histogram) (delta : Int) : Histogram × Nat :=
  let b := bucketOf delta
  (⟨h.counts.modify b (· + 1)⟩, b)

/-- The count of a bucket; zero past the last one. -/
def count (h : Histogram) (b : Nat) : Nat :=
  h.counts.getD b 0

/-- Number of times counted. -/
def total (h : Histogram) : Nat :=
  h.counts.foldl (· + ·) 0

/-- The buckets that counted something, in ascending order, with their counts. -/
def rows (h : Histogram) : List (Nat × Nat) :=
  (List.range buckets).filterMap fun b => if h.count b = 0 then none else some (b, h.count b)

end Histogram

end RtpAudit
