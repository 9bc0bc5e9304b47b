import RtpAudit.Stream.Tracker

/-! # The verdict on a packet is a window of two packets

The tracker keeps state from packet to packet, yet what it says of a packet depends only on the
packet, its spacing and the packet just before it (`Window.verdict`). Its state after a run holds
nothing of the stream but the number of packets and what the last one leads it to expect
(`Tracker.Follows`), so:

* `Tracker.Follows.validate`: checking a packet keeps that, with the packet as the last one;
* `Tracker.validate_verdict`: from such a state, the verdict is the window's;
* `Tracker.validations_window`: over any run from a fresh tracker, the verdict on each packet is the
  window's, the first packet having none before it.
-/

namespace RtpAudit

namespace Window

/-- The verdict on the `i`-th packet `p` of a stream, checked `d` milliseconds after the previous
one, `prev` (none for the first). -/
def verdict (i : Nat) (prev : Option RtpPacket) (p : RtpPacket) (d : Int) : Validation :=
  -- the media clock units a packet advances by: comfort noise moves it by one unit at most
  let units (q : RtpPacket) : Nat :=
    if q.header.isComfortNoise then min q.payloadLength 1 else q.payloadLength
  let h := p.header
  let counted : Int := if h.isComfortNoise then 0 else max d 0
  let unusual := match PayloadProfile.frameLength? h.payloadType with
    | some f =>
      if h.isComfortNoise = false ∧ p.payloadLength ≠ f then
        [Anomaly.unusualLength h.payloadType f p.payloadLength]
      else []
    | none => []
  let version := if h.versionFlags ≠ 0x80 then [Anomaly.badVersion h.versionFlags] else []
  let negative := if d < 0 then [Anomaly.negativeDelta d] else []
  let continuity := match prev with
    | none => []
    | some q =>
      let seq := q.header.sequence + 1
      let ts := q.header.timestamp + (units q).toUInt32
      if h.sequence ≠ seq then [Anomaly.sequenceMismatch seq h.sequence]
      else if h.marker = false ∧ 0 < units p ∧ h.timestamp ≠ ts then
        [Anomaly.timestampMismatch ts h.timestamp]
      else []
  { packetIndex := i
    delta := counted
    bucket := min counted.toNat 499
    anomalies := unusual ++ version ++ negative ++ continuity
    comfortNoise := h.isComfortNoise
    marker := h.marker }

end Window

theorem Histogram.bucketOf_of_nonneg {c : Int} (hc : 0 ≤ c) : bucketOf c = min c.toNat 499 := by
  unfold bucketOf buckets
  rw [if_neg (by omega)]

namespace Tracker

/-- The validations of packets checked one after another from `t`, each at its spacing. -/
def validations (t : Tracker) : List (RtpPacket × Int) → List Validation
  | [] => []
  | (p, d) :: xs => (t.validate p d).2 :: (t.validate p d).1.validations xs

/-- The tracker has checked `n` packets, the last of them `last`. -/
structure Follows (t : Tracker) (n : Nat) (last : Option RtpPacket) : Prop where
  processed : t.processed = n
  expectedSeq : t.expectedSeq = last.map (·.header.sequence + 1)
  expectedTimestamp : ∀ q ∈ last, t.expectedTimestamp = q.header.timestamp + (samples q).toUInt32

variable {t : Tracker} {n : Nat} {last : Option RtpPacket}

theorem follows_fresh : Follows {} 0 none where
  processed := rfl
  expectedSeq := rfl
  expectedTimestamp q hq := absurd hq (by simp)

theorem Follows.validate (h : Follows t n last) (p : RtpPacket) (d : Int) :
    Follows (t.validate p d).1 (n + 1) (some p) where
  processed := by
    show t.processed + 1 = n + 1
    rw [h.processed]
  expectedSeq := rfl
  expectedTimestamp q hq := by
    cases Option.mem_some_iff.1 hq
    rfl

theorem ownAnomalies_eq (p : RtpPacket) (d : Int) :
    ownAnomalies p d =
      (match PayloadProfile.frameLength? p.header.payloadType with
        | some f =>
          if p.header.isComfortNoise = false ∧ p.payloadLength ≠ f then
            [Anomaly.unusualLength p.header.payloadType f p.payloadLength]
          else []
        | none => []) ++
      (if p.header.versionFlags ≠ 0x80 then [Anomaly.badVersion p.header.versionFlags] else []) ++
      (if d < 0 then [Anomaly.negativeDelta d] else []) := by
  unfold ownAnomalies
  cases hf : PayloadProfile.frameLength? p.header.payloadType <;> simp [hf, RtpHeader.versionByte]

theorem continuityAnomalies_of_follows (h : Follows t n last) (p : RtpPacket) :
    t.continuityAnomalies p =
      match last with
      | none => []
      | some q =>
        if p.header.sequence ≠ q.header.sequence + 1 then
          [Anomaly.sequenceMismatch (q.header.sequence + 1) p.header.sequence]
        else if p.header.marker = false ∧ 0 < samples p ∧
            p.header.timestamp ≠ q.header.timestamp + (samples q).toUInt32 then
          [Anomaly.timestampMismatch (q.header.timestamp + (samples q).toUInt32) p.header.timestamp]
        else [] := by
  unfold continuityAnomalies
  cases last with
  | none => rw [h.expectedSeq, Option.map_none]
  | some q =>
    rw [h.expectedSeq, Option.map_some, h.expectedTimestamp q rfl]
    simp [and_assoc]

/-- From a state that follows `last`, the verdict on a packet is the window's. -/
theorem validate_verdict (h : Follows t n last) (p : RtpPacket) (d : Int) :
    (t.validate p d).2 = Window.verdict (n + 1) last p d := by
  have hcounted : (0 : Int) ≤ if p.header.isComfortNoise then 0 else max d 0 := by
    split <;> omega
  unfold validate Window.verdict
  simp only [Validation.mk.injEq, and_true, true_and]
  refine ⟨by rw [h.processed], Histogram.bucketOf_of_nonneg hcounted, ?_⟩
  rw [ownAnomalies_eq, continuityAnomalies_of_follows h]
  cases last <;> rfl

/-- The `i`-th validation of a run is the window's verdict, with the packet checked before it. -/
theorem validations_getElem? (h : Follows t n last) (xs : List (RtpPacket × Int)) (i : Nat) :
    (t.validations xs)[i]? = xs[i]?.map fun x =>
      Window.verdict (n + i + 1) (((xs.take i).getLast?.map Prod.fst).or last) x.1 x.2 := by
  induction xs generalizing t n last i with
  | nil => rfl
  | cons x xs ih =>
    obtain ⟨p, d⟩ := x
    cases i with
    | zero => simp [validations, validate_verdict h]
    | succ j =>
      -- the rest of the run starts from the state after `p`, which follows `p`
      rw [validations, List.getElem?_cons_succ, ih (h.validate p d), List.getElem?_cons_succ]
      congr 1
      funext x
      have hprev : ((((p, d) :: xs).take (j + 1)).getLast?.map Prod.fst).or last =
          ((xs.take j).getLast?.map Prod.fst).or (some p) := by
        rw [List.take_succ_cons, List.getLast?_cons]
        cases (xs.take j).getLast? <;> rfl
      rw [hprev, show n + 1 + j = n + (j + 1) by omega]

end Tracker

/-- Checking packets one after another from a fresh tracker, the verdict on the `i`-th is the
window's: its position from 1, the packet, its spacing and the packet just before it. -/
theorem Tracker.validations_window (xs : List (RtpPacket × Int)) (i : Nat) :
    (({} : Tracker).validations xs)[i]? =
      xs[i]?.map fun x => Window.verdict (i + 1) ((xs.take i).getLast?.map Prod.fst) x.1 x.2 := by
  rw [validations_getElem? follows_fresh, Nat.zero_add]
  simp only [Option.or_none]

end RtpAudit
