import RtpAudit.Stream.Tracker
import RtpAudit.Capture.Format
import RtpAudit.Flow.Reassembly
import RtpAudit.Text.Fixed

/-! # What a run found

The report of a run: the kind of input, how many records it held and how many packets were
checked, the spacing histogram, elapsed time and longest spacing, silence counts, every anomaly
with the record and packet it was found on, the reassembly counters of a capture, and why reading
stopped early, if it did. Beside the list of anomalies the report keeps the count of each kind, in
a map ordered by kind that each anomaly noted adds one to; the counts and their total are read off
that map.
-/

namespace RtpAudit

/-- An anomaly and where it was found. -/
structure AnomalyEvent where
  /-- Index of the capture record or recording frame, from 1. -/
  recordIndex : Nat
  /-- Index among the packets checked, from 1. -/
  packetIndex : Nat
  anomaly : Anomaly
  deriving Repr

/-- The count of each kind of anomaly, a map ordered by kind. A kind's entry is made by its first
anomaly, so no count in it is zero. -/
structure AnomalyCounts where
  entries : List (AnomalyKind × Nat)
  sorted : entries.Pairwise (fun a b => a.1.rank < b.1.rank)
  positive : ∀ e ∈ entries, 0 < e.2
  deriving Repr

namespace AnomalyCounts

/-- No anomaly counted. -/
def empty : AnomalyCounts :=
  ⟨[], List.Pairwise.nil, fun _ he => absurd he List.not_mem_nil⟩

/-- The entries `es` with one more anomaly of kind `k`: its entry counts one more, or is made at one
in its place by kind. -/
def bumpEntries (k : AnomalyKind) : List (AnomalyKind × Nat) → List (AnomalyKind × Nat)
  | [] => [(k, 1)]
  | (k', n) :: es =>
    if k.rank < k'.rank then (k, 1) :: (k', n) :: es
    else if k = k' then (k', n + 1) :: es
    else (k', n) :: bumpEntries k es

theorem mem_bumpEntries {k : AnomalyKind} :
    ∀ {es : List (AnomalyKind × Nat)} {e}, e ∈ bumpEntries k es → e.1 = k ∨ e.1 ∈ es.map Prod.fst
  | [], e, h => by
    rw [bumpEntries, List.mem_singleton] at h
    exact .inl (by rw [h])
  | (k', n) :: es, e, h => by
    unfold bumpEntries at h
    split at h
    · rcases List.mem_cons.1 h with rfl | h
      · exact .inl rfl
      · exact .inr (List.mem_map_of_mem h)
    split at h
    · rcases List.mem_cons.1 h with rfl | h
      · exact .inr (List.mem_cons_self ..)
      · exact .inr (List.mem_cons_of_mem _ (List.mem_map_of_mem h))
    rcases List.mem_cons.1 h with rfl | h
    · exact .inr (List.mem_cons_self ..)
    · rcases mem_bumpEntries h with hk | hk
      · exact .inl hk
      · exact .inr (List.mem_cons_of_mem _ hk)

theorem bumpEntries_sorted (k : AnomalyKind) :
    ∀ {es : List (AnomalyKind × Nat)}, es.Pairwise (fun a b => a.1.rank < b.1.rank) →
      (bumpEntries k es).Pairwise (fun a b => a.1.rank < b.1.rank)
  | [], _ => List.pairwise_singleton _ _
  | (k', n) :: es, h => by
    obtain ⟨hhead, htail⟩ := List.pairwise_cons.1 h
    unfold bumpEntries
    split
    · -- the new entry goes first: before `k'`, and through it before every later kind
      rename_i hlt
      refine List.pairwise_cons.2 ⟨fun e he => ?_, h⟩
      rcases List.mem_cons.1 he with rfl | he
      · exact hlt
      · exact Nat.lt_trans hlt (hhead e he)
    split
    · exact List.pairwise_cons.2 ⟨hhead, htail⟩
    rename_i hge hne
    refine List.pairwise_cons.2 ⟨fun e he => ?_, bumpEntries_sorted k htail⟩
    rcases mem_bumpEntries he with hk | hk
    · rw [hk]
      exact Nat.lt_of_le_of_ne (Nat.not_lt.1 hge) fun h => hne (AnomalyKind.rank_inj h).symm
    · obtain ⟨e', he', hkey⟩ := List.mem_map.1 hk
      rw [← hkey]
      exact hhead e' he'

theorem bumpEntries_positive (k : AnomalyKind) :
    ∀ {es : List (AnomalyKind × Nat)}, (∀ e ∈ es, 0 < e.2) → ∀ e ∈ bumpEntries k es, 0 < e.2
  | [], _, e, he => by
    rw [bumpEntries, List.mem_singleton] at he
    rw [he]
    exact Nat.one_pos
  | (k', n) :: es, h, e, he => by
    unfold bumpEntries at he
    split at he
    · rcases List.mem_cons.1 he with rfl | he
      · exact Nat.one_pos
      · exact h e he
    split at he
    · rcases List.mem_cons.1 he with rfl | he
      · exact Nat.succ_pos n
      · exact h e (List.mem_cons_of_mem _ he)
    rcases List.mem_cons.1 he with rfl | he
    · exact h _ (List.mem_cons_self ..)
    · exact bumpEntries_positive k (fun e' he' => h e' (List.mem_cons_of_mem _ he')) e he

/-- One more anomaly of kind `k`. -/
def bump (m : AnomalyCounts) (k : AnomalyKind) : AnomalyCounts where
  entries := bumpEntries k m.entries
  sorted := bumpEntries_sorted k m.sorted
  positive := bumpEntries_positive k m.positive

/-- The count of kind `k`, zero when it has no entry. -/
def get (m : AnomalyCounts) (k : AnomalyKind) : Nat :=
  (m.entries.lookup k).getD 0

/-- The sum of the counts. -/
def total (m : AnomalyCounts) : Nat :=
  (m.entries.map Prod.snd).foldr (· + ·) 0

end AnomalyCounts

/-- Everything a run found. -/
structure Report where
  format : CaptureFormat
  totalRecords : Nat := 0
  processed : Nat := 0
  histogram : Histogram := {}
  totalElapsed : Nat := 0
  maxDelay : Int := 0
  silencePackets : Nat := 0
  nonSilencePackets : Nat := 0
  anomalyCounts : AnomalyCounts := .empty
  events : List AnomalyEvent := []
  reassembly : Option ReassemblyStats := none
  stop : Option CaptureError := none
  deriving Repr

namespace Report

/-- Record an anomaly found on a packet: count it by kind, and keep it with where it was found. -/
def note (r : Report) (recordIndex packetIndex : Nat) (a : Anomaly) : Report :=
  { r with
    anomalyCounts := r.anomalyCounts.bump a.kind
    events := r.events ++ [⟨recordIndex, packetIndex, a⟩] }

/-- Take the end-of-run totals from the tracker. -/
def absorb (r : Report) (t : Tracker) : Report :=
  { r with
    processed := t.processed
    histogram := t.histogram
    totalElapsed := t.totalElapsed
    maxDelay := t.maxDelay
    silencePackets := t.silencePackets
    nonSilencePackets := t.nonSilencePackets }

/-- The number of anomalies of a kind. -/
def count (r : Report) (k : AnomalyKind) : Nat :=
  r.anomalyCounts.get k

/-- The number of anomalies: the sum of the counts by kind. -/
def totalAnomalies (r : Report) : Nat :=
  r.anomalyCounts.total

/-- The kinds found, in order, with their counts. -/
def counts (r : Report) : List (AnomalyKind × Nat) :=
  AnomalyKind.all.filterMap fun k => if r.count k = 0 then none else some (k, r.count k)

/-- The mean spacing of the packets checked, in milliseconds with six decimals; none when no packet
was checked. -/
def averageText (r : Report) : Option String :=
  if r.processed = 0 then none else some (Text.meanText r.totalElapsed r.processed)

end Report

end RtpAudit
