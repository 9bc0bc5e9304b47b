import RtpAudit.Stream.Report

/-! # The counts by kind agree with the anomalies

A report keeps each anomaly twice: in its list of anomalies, and as one more in the count of its
kind. The count map answers for a kind by its entry (`AnomalyCounts.get_bump`), its entries are the
kinds counted with their counts (`AnomalyCounts.mem_entries`), and its total grows by one a note
(`AnomalyCounts.total_bump`). A report whose counts are those of its anomalies stays so as
anomalies are noted (`Report.Tallied.foldl_note`), and then counts each kind as often as it holds an
anomaly of that kind, and all of them as often as it holds an anomaly.
-/

namespace RtpAudit

namespace AnomalyCounts

/-- The counts of the kinds `ks`, noted in order from none. -/
def ofKinds (ks : List AnomalyKind) : AnomalyCounts :=
  ks.foldl bump empty

theorem ofKinds_append (ks ks' : List AnomalyKind) :
    ofKinds (ks ++ ks') = ks'.foldl bump (ofKinds ks) :=
  List.foldl_append

theorem ne_of_rank_lt {k k' : AnomalyKind} (h : k.rank < k'.rank) : k ≠ k' := by
  rintro rfl
  exact Nat.lt_irrefl _ h

theorem lookup_eq_none_of_lt {k : AnomalyKind} {es : List (AnomalyKind × Nat)}
    (h : ∀ e ∈ es, k.rank < e.1.rank) : es.lookup k = none := by
  rw [List.lookup_eq_none_iff]
  intro e he
  simpa using ne_of_rank_lt (h e he)

theorem lookup_cons_self (k : AnomalyKind) (n : Nat) (es : List (AnomalyKind × Nat)) :
    ((k, n) :: es).lookup k = some n := by
  rw [List.lookup_cons, beq_self_eq_true]

theorem lookup_cons_ne {k k' : AnomalyKind} (n : Nat) (es : List (AnomalyKind × Nat)) (h : k' ≠ k) :
    ((k, n) :: es).lookup k' = es.lookup k' := by
  have hbeq : (k' == k) = false := by simpa using h
  rw [List.lookup_cons, hbeq]

theorem getD_lookup_cons (k k' : AnomalyKind) (n : Nat) (es : List (AnomalyKind × Nat)) :
    (((k, n) :: es).lookup k').getD 0 = if k' = k then n else (es.lookup k').getD 0 := by
  by_cases hk : k' = k
  · subst hk
    rw [lookup_cons_self, if_pos rfl]
    rfl
  · rw [lookup_cons_ne _ _ hk, if_neg hk]

/-- The count of a kind after one more anomaly of kind `k`, in sorted entries. -/
theorem lookup_bumpEntries (k k' : AnomalyKind) {es : List (AnomalyKind × Nat)}
    (hs : es.Pairwise (fun a b => a.1.rank < b.1.rank)) :
    ((bumpEntries k es).lookup k').getD 0 =
      if k' = k then (es.lookup k).getD 0 + 1 else (es.lookup k').getD 0 := by
  induction es with
  | nil =>
    unfold bumpEntries
    rw [getD_lookup_cons]
    rfl
  | cons e es ih =>
    obtain ⟨k₀, n⟩ := e
    obtain ⟨hhead, htail⟩ := List.pairwise_cons.1 hs
    unfold bumpEntries
    split
    · -- a new first entry: `k` had none, as it ranks below every entry
      rename_i hlt
      have hnone : ((k₀, n) :: es).lookup k = none := by
        apply lookup_eq_none_of_lt
        intro e he
        rcases List.mem_cons.1 he with rfl | he
        · exact hlt
        · exact Nat.lt_trans hlt (hhead e he)
      rw [getD_lookup_cons, hnone]
      rfl
    split
    · -- the first entry is `k`'s, and counts one more
      rename_i heq
      subst heq
      rw [getD_lookup_cons k k', getD_lookup_cons k k', getD_lookup_cons k k, if_pos rfl]
      by_cases hk : k' = k
      · rw [if_pos hk, if_pos hk]
      · rw [if_neg hk, if_neg hk, if_neg hk]
    · -- `k`'s entry is further on, after `k₀`'s
      rename_i hne
      rw [getD_lookup_cons k₀ k', ih htail, getD_lookup_cons k₀ k', getD_lookup_cons k₀ k, if_neg hne]
      by_cases hk₀ : k' = k₀
      · have hk : k' ≠ k := fun h => hne (h.symm.trans hk₀)
        rw [if_pos hk₀, if_neg hk, if_pos hk₀]
      · rw [if_neg hk₀, if_neg hk₀]

theorem total_bumpEntries (k : AnomalyKind) : ∀ es : List (AnomalyKind × Nat),
    ((bumpEntries k es).map Prod.snd).foldr (· + ·) 0 = (es.map Prod.snd).foldr (· + ·) 0 + 1
  | [] => rfl
  | (k₀, n) :: es => by
    unfold bumpEntries
    split
    · simp only [List.map_cons, List.foldr_cons]
      omega
    split
    · simp only [List.map_cons, List.foldr_cons]
      omega
    · simp only [List.map_cons, List.foldr_cons, total_bumpEntries k es]
      omega

@[simp] theorem get_empty (k : AnomalyKind) : empty.get k = 0 :=
  rfl

@[simp] theorem total_empty : empty.total = 0 :=
  rfl

@[simp] theorem get_bump (m : AnomalyCounts) (k k' : AnomalyKind) :
    (m.bump k).get k' = if k' = k then m.get k + 1 else m.get k' :=
  lookup_bumpEntries k k' m.sorted

@[simp] theorem total_bump (m : AnomalyCounts) (k : AnomalyKind) : (m.bump k).total = m.total + 1 :=
  total_bumpEntries k m.entries

theorem get_foldl_bump (k : AnomalyKind) :
    ∀ (ks : List AnomalyKind) (m : AnomalyCounts), (ks.foldl bump m).get k = m.get k + ks.count k
  | [], m => rfl
  | k' :: ks, m => by
    rw [List.foldl_cons, get_foldl_bump k ks, get_bump, List.count_cons]
    by_cases hk : k = k'
    · subst hk
      simp only [if_pos, beq_self_eq_true]
      omega
    · simp [hk, Ne.symm hk]

theorem total_foldl_bump :
    ∀ (ks : List AnomalyKind) (m : AnomalyCounts), (ks.foldl bump m).total = m.total + ks.length
  | [], m => rfl
  | k :: ks, m => by
    rw [List.foldl_cons, total_foldl_bump ks, total_bump, List.length_cons]
    omega

theorem get_ofKinds (ks : List AnomalyKind) (k : AnomalyKind) : (ofKinds ks).get k = ks.count k := by
  rw [ofKinds, get_foldl_bump, get_empty, Nat.zero_add]

theorem total_ofKinds (ks : List AnomalyKind) : (ofKinds ks).total = ks.length := by
  rw [ofKinds, total_foldl_bump, total_empty, Nat.zero_add]

/-- The entries are exactly the kinds counted, each with its count, which is not zero. -/
theorem mem_entries (m : AnomalyCounts) (k : AnomalyKind) (n : Nat) :
    (k, n) ∈ m.entries ↔ 0 < n ∧ m.get k = n := by
  constructor
  · intro he
    refine ⟨m.positive _ he, ?_⟩
    obtain ⟨s, t, hst⟩ := List.mem_iff_append.1 he
    -- every entry before `k`'s ranks below it, so has another kind
    have hbefore : ∀ p ∈ s, (k != p.1) = true := by
      intro p hp
      have hsorted := m.sorted
      rw [hst, List.pairwise_append] at hsorted
      have hlt := hsorted.2.2 p hp (k, n) (List.mem_cons_self ..)
      simpa using (ne_of_rank_lt hlt).symm
    unfold get
    rw [List.lookup_eq_some_iff.2 ⟨s, t, hst, hbefore⟩]
    rfl
  · rintro ⟨hn, hget⟩
    unfold get at hget
    cases hl : m.entries.lookup k with
    | none =>
      rw [hl] at hget
      exact absurd hget.symm (Nat.ne_of_gt hn)
    | some n' =>
      rw [hl] at hget
      obtain ⟨s, t, hst, -⟩ := List.lookup_eq_some_iff.1 hl
      rw [hst, ← hget]
      exact List.mem_append_right s (List.mem_cons_self ..)

end AnomalyCounts

namespace Report

theorem foldl_note (r : Report) (recordIndex packetIndex : Nat) (as : List Anomaly) :
    as.foldl (fun r a => r.note recordIndex packetIndex a) r =
      { r with
        anomalyCounts := (as.map Anomaly.kind).foldl AnomalyCounts.bump r.anomalyCounts
        events := r.events ++ as.map fun a => ⟨recordIndex, packetIndex, a⟩ } := by
  induction as generalizing r with
  | nil => simp
  | cons a as ih =>
    rw [List.foldl_cons, ih]
    simp [Report.note]

/-- The counts of the report are those its anomalies give, noted in order. -/
def Tallied (r : Report) : Prop :=
  r.anomalyCounts = AnomalyCounts.ofKinds (r.events.map (·.anomaly.kind))

variable {r : Report}

theorem tallied_empty (format : CaptureFormat) : ({ format } : Report).Tallied :=
  rfl

/-- Noting an anomaly keeps the counts those of the anomalies. -/
theorem Tallied.note (h : r.Tallied) (recordIndex packetIndex : Nat) (a : Anomaly) :
    (r.note recordIndex packetIndex a).Tallied := by
  unfold Tallied Report.note
  dsimp only
  rw [h, List.map_append, AnomalyCounts.ofKinds_append]
  rfl

/-- Noting the anomalies of a packet, one after another, keeps the counts those of the anomalies. -/
theorem Tallied.foldl_note (h : r.Tallied) (recordIndex packetIndex : Nat) :
    ∀ as : List Anomaly, (as.foldl (fun r a => r.note recordIndex packetIndex a) r).Tallied := by
  intro as
  induction as generalizing r with
  | nil => exact h
  | cons a as ih => exact ih (h.note recordIndex packetIndex a)

theorem countP_kind (es : List AnomalyEvent) (k : AnomalyKind) :
    (es.map (·.anomaly.kind)).count k = es.countP (·.anomaly.kind == k) := by
  rw [List.count_eq_countP, List.countP_map]
  rfl

theorem Tallied.count_eq (h : r.Tallied) (k : AnomalyKind) :
    r.count k = r.events.countP (·.anomaly.kind == k) := by
  unfold count
  rw [h, AnomalyCounts.get_ofKinds, countP_kind]

theorem Tallied.totalAnomalies_eq (h : r.Tallied) : r.totalAnomalies = r.events.length := by
  unfold totalAnomalies
  rw [h, AnomalyCounts.total_ofKinds, List.length_map]

theorem Tallied.mem_entries (h : r.Tallied) (k : AnomalyKind) (n : Nat) :
    (k, n) ∈ r.anomalyCounts.entries ↔ 0 < n ∧ r.events.countP (·.anomaly.kind == k) = n := by
  rw [AnomalyCounts.mem_entries, ← h.count_eq]
  rfl

end Report

end RtpAudit
