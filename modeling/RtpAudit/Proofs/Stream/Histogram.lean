import RtpAudit.Stream.Histogram

/-! # What a histogram counts

A histogram of all 500 buckets counts each spacing once, in the spacing's bucket, and lists as its
rows exactly the buckets that counted something:

* `Histogram.count_record`: counting a spacing adds one to its bucket and nothing to any other;
* `Histogram.total_record`: so the total grows by one (`Histogram.foldl_add_modify`);
* `Histogram.count_of_le`: there is nothing past the last bucket;
* `Histogram.mem_rows`, `Histogram.rows_sorted`: the rows are the buckets with a non-zero count,
  each with its count, in ascending order.
-/

namespace RtpAudit

namespace Histogram

theorem foldl_add_init (l : List Nat) (a : Nat) : l.foldl (· + ·) a = a + l.foldl (· + ·) 0 := by
  have h := @List.foldl_assoc Nat (· + ·) _ l a 0
  rwa [Nat.add_zero] at h

theorem foldl_add_modify (l : List Nat) (i : Nat) (hi : i < l.length) :
    (l.modify i (· + 1)).foldl (· + ·) 0 = l.foldl (· + ·) 0 + 1 := by
  induction l generalizing i with
  | nil => exact absurd hi (Nat.not_lt_zero _)
  | cons x xs ih =>
    cases i with
    | zero =>
      show ((x + 1) :: xs).foldl (· + ·) 0 = (x :: xs).foldl (· + ·) 0 + 1
      rw [List.foldl_cons, List.foldl_cons, foldl_add_init xs, foldl_add_init xs (0 + x)]
      omega
    | succ j =>
      rw [List.modify_succ_cons, List.foldl_cons, List.foldl_cons, foldl_add_init _ (0 + x),
        foldl_add_init xs (0 + x), ih j (by simpa using hi)]
      omega

theorem total_empty : ({} : Histogram).total = 0 := by
  have hzero : ∀ n, (List.replicate n 0).foldl (· + ·) 0 = 0 := by
    intro n
    induction n with
    | zero => rfl
    | succ n ih => rw [List.replicate_succ, List.foldl_cons]; exact ih
  show (Array.replicate 500 0).foldl (· + ·) 0 = 0
  rw [← Array.foldl_toList, Array.toList_replicate]
  exact hzero 500

theorem bucketOf_lt (δ : Int) : bucketOf δ < buckets := by
  unfold bucketOf buckets
  split <;> omega

theorem size_record (h : Histogram) (δ : Int) : (h.record δ).1.counts.size = h.counts.size :=
  Array.size_modify

theorem total_record {h : Histogram} (hs : h.counts.size = buckets) (δ : Int) :
    (h.record δ).1.total = h.total + 1 := by
  unfold record total
  rw [← Array.foldl_toList, ← Array.foldl_toList, Array.toList_modify]
  exact foldl_add_modify _ _ (by rw [Array.length_toList, hs]; exact bucketOf_lt δ)


theorem count_record {h : Histogram} (hs : h.counts.size = buckets) (δ : Int) (b : Nat) :
    (h.record δ).1.count b = h.count b + if bucketOf δ = b then 1 else 0 := by
  unfold record count
  simp only [Array.getD_eq_getD_getElem?, Array.getElem?_modify]
  split
  · rename_i hb
    subst hb
    have hlt : bucketOf δ < h.counts.size := hs ▸ bucketOf_lt δ
    rw [Array.getElem?_eq_getElem hlt, Option.map_some, Option.getD_some, Option.getD_some]
  · rw [Nat.add_zero]

theorem count_empty (b : Nat) : ({} : Histogram).count b = 0 := by
  simp only [count, Array.getD_eq_getD_getElem?, Array.getElem?_replicate]
  split <;> rfl

theorem count_of_le {h : Histogram} (hs : h.counts.size = buckets) {b : Nat} (hb : buckets ≤ b) :
    h.count b = 0 := by
  unfold count
  rw [Array.getD_eq_getD_getElem?, Array.getElem?_eq_none (by omega)]
  rfl

theorem mem_rows {h : Histogram} (hs : h.counts.size = buckets) (b c : Nat) :
    (b, c) ∈ h.rows ↔ 0 < c ∧ c = h.count b := by
  unfold rows
  rw [List.mem_filterMap]
  constructor
  · rintro ⟨a, -, ha⟩
    by_cases hzero : h.count a = 0
    · rw [if_pos hzero] at ha
      cases ha
    · rw [if_neg hzero] at ha
      cases ha
      exact ⟨Nat.pos_of_ne_zero hzero, rfl⟩
  · rintro ⟨hc, rfl⟩
    -- a bucket that counted something is one of the buckets
    have hb : b < buckets := Nat.lt_of_not_le fun hb => by
      rw [count_of_le hs hb] at hc
      exact Nat.lt_irrefl 0 hc
    exact ⟨b, List.mem_range.2 hb, by rw [if_neg (Nat.ne_of_gt hc)]⟩

theorem rows_sorted (h : Histogram) : h.rows.Pairwise (fun r s => r.1 < s.1) := by
  unfold rows
  refine List.Pairwise.filterMap _ (fun a a' hlt r hr r' hr' => ?_) List.pairwise_lt_range
  by_cases ha : h.count a = 0
  · rw [if_pos ha] at hr
    cases hr
  by_cases ha' : h.count a' = 0
  · rw [if_pos ha'] at hr'
    cases hr'
  rw [if_neg ha] at hr
  rw [if_neg ha'] at hr'
  cases hr
  cases hr'
  exact hlt

end Histogram

end RtpAudit
