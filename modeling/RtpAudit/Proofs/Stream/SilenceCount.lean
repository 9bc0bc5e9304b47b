import RtpAudit.Proofs.Analysis.Lockstep

/-! # Silent and audible packets

A packet's payload is scanned against the silent sample of its payload type (`silenceByte`): `0xFF`
for type 0 and the types above 112, `0x00` for the others. The scan finds the first sample that
is not silent, if any, and whether any sample is silent. A run counts the packets with at least one
sample that is not silent (`RtpPacket.Audible`) and, apart, those with at least one silent sample
(`RtpPacket.HasSilence`); a packet with both kinds counts in both, an empty one in neither.

* `scanSilence_firstNonSilent_eq_some`, `scanSilence_firstNonSilent_eq_none`,
  `scanSilence_containsSilence`: what the scan finds;
* `observe_silenceCounts`: one packet observed moves each counter by whether it has that kind
  of sample; `observeAll_silenceCounts`: over a run, each counter counts those packets;
* `silence_scan_counts` puts them together.
-/

namespace RtpAudit

/-- `n` is the first sample of `payload` other than `quiet`: it is at its offset, it is not
`quiet`, and every sample before it is. -/
def NonSilence.IsFirst (n : NonSilence) (quiet : UInt8) (payload : Bytes) : Prop :=
  payload[n.offset]? = some n.value ∧ n.value ≠ quiet ∧ ∀ i < n.offset, payload[i]? = some quiet

/-- A packet carries a sample other than the silent one of its payload type. -/
def RtpPacket.Audible (p : RtpPacket) : Prop :=
  ∃ b ∈ p.payload, b ≠ silenceByte p.header.payloadType

/-- A packet carries a silent sample of its payload type. -/
def RtpPacket.HasSilence (p : RtpPacket) : Prop :=
  silenceByte p.header.payloadType ∈ p.payload

instance (p : RtpPacket) : Decidable p.Audible :=
  inferInstanceAs (Decidable (∃ b ∈ p.payload, b ≠ silenceByte p.header.payloadType))

instance (p : RtpPacket) : Decidable p.HasSilence :=
  inferInstanceAs (Decidable (silenceByte p.header.payloadType ∈ p.payload))

theorem silenceByte_eq (pt : UInt8) :
    silenceByte pt = if pt = 0 ∨ 112 < pt then 0xFF else 0x00 := by
  by_cases h : pt = 0 ∨ 112 < pt <;> simp [silenceByte, Encoding.silence, h]

/-! ## One scan -/

section Scan

variable (pt : UInt8) (payload : Bytes)

theorem scanSilence_firstNonSilent_eq_some (n : NonSilence) :
    (scanSilence pt payload).firstNonSilent = some n ↔ n.IsFirst (silenceByte pt) payload := by
  obtain ⟨i, v⟩ := n
  simp only [scanSilence, Option.map_eq_some_iff, NonSilence.mk.injEq, NonSilence.IsFirst,
    List.findIdx?_eq_some_iff_getElem, bne_iff_ne, ne_eq, Decidable.not_not]
  constructor
  · rintro ⟨i, ⟨hi, hne, hbefore⟩, rfl, rfl⟩
    have hat : payload[i]? = some payload[i] := List.getElem?_eq_getElem hi
    refine ⟨by simp [hat], by simpa [hat] using hne, fun j hj => ?_⟩
    simp [List.getElem?_eq_getElem (Nat.lt_trans hj hi), hbefore j hj]
  · rintro ⟨hv, hne, hbefore⟩
    obtain ⟨hi, rfl⟩ := List.getElem?_eq_some_iff.1 hv
    refine ⟨i, ⟨hi, hne, fun j hj => ?_⟩, rfl, by simp [List.getElem?_eq_getElem hi]⟩
    have hj' := hbefore j hj
    rw [List.getElem?_eq_getElem (Nat.lt_trans hj hi), Option.some.injEq] at hj'
    exact hj'

theorem scanSilence_firstNonSilent_eq_none :
    (scanSilence pt payload).firstNonSilent = none ↔ ∀ b ∈ payload, b = silenceByte pt := by
  simp [scanSilence]

theorem scanSilence_containsSilence :
    (scanSilence pt payload).containsSilence = true ↔ silenceByte pt ∈ payload := by
  simp [scanSilence]

theorem scanSilence_isSilent :
    (scanSilence pt payload).isSilent = true ↔ ∀ b ∈ payload, b = silenceByte pt := by
  rw [SilenceScan.isSilent, Option.isNone_iff_eq_none, scanSilence_firstNonSilent_eq_none]

end Scan

theorem RtpPacket.isSilent_scan (p : RtpPacket) :
    (scanSilence p.header.payloadType p.payload).isSilent = !decide p.Audible := by
  rw [Bool.eq_iff_iff, scanSilence_isSilent, Bool.not_eq_true', decide_eq_false_iff_not]
  simp [RtpPacket.Audible]

theorem RtpPacket.containsSilence_scan (p : RtpPacket) :
    (scanSilence p.header.payloadType p.payload).containsSilence = decide p.HasSilence := by
  rw [Bool.eq_iff_iff, scanSilence_containsSilence, decide_eq_true_iff]
  rfl

/-! ## Counting over a run -/

@[simp] theorem Tracker.validate_nonSilencePackets (t : Tracker) (p : RtpPacket) (δ : Int) :
    (t.validate p δ).1.nonSilencePackets = t.nonSilencePackets := rfl

@[simp] theorem Tracker.validate_silencePackets (t : Tracker) (p : RtpPacket) (δ : Int) :
    (t.validate p δ).1.silencePackets = t.silencePackets := rfl

namespace AnalysisContext

/-- Observing a packet moves each silence counter by whether it has that kind of sample. -/
theorem observe_silenceCounts (ctx : AnalysisContext) (i : Nat) (p : RtpPacket) (δ : Int) :
    (ctx.observe i p δ).1.tracker.nonSilencePackets =
        ctx.tracker.nonSilencePackets + (if p.Audible then 1 else 0) ∧
      (ctx.observe i p δ).1.tracker.silencePackets =
        ctx.tracker.silencePackets + (if p.HasSilence then 1 else 0) := by
  rw [observe_tracker]
  simp only [Tracker.recordSilence, Tracker.validate_nonSilencePackets,
    Tracker.validate_silencePackets, RtpPacket.isSilent_scan, RtpPacket.containsSilence_scan]
  constructor
  · by_cases h : p.Audible <;> simp [h]
  · by_cases h : p.HasSilence <;> simp [h]

/-- Over a run, each silence counter counts the packets with that kind of sample. -/
theorem observeAll_silenceCounts (ctx : AnalysisContext) (xs : List (Nat × RtpPacket × Int)) :
    (ctx.observeAll xs).tracker.nonSilencePackets =
        ctx.tracker.nonSilencePackets + xs.countP (fun x => decide x.2.1.Audible) ∧
      (ctx.observeAll xs).tracker.silencePackets =
        ctx.tracker.silencePackets + xs.countP (fun x => decide x.2.1.HasSilence) := by
  induction xs generalizing ctx with
  | nil => exact ⟨rfl, rfl⟩
  | cons x xs ih =>
    obtain ⟨i, p, δ⟩ := x
    obtain ⟨hloud, hquiet⟩ := ih (ctx.observe i p δ).1
    obtain ⟨sloud, squiet⟩ := observe_silenceCounts ctx i p δ
    rw [observeAll, hloud, hquiet, sloud, squiet, List.countP_cons, List.countP_cons]
    simp only [decide_eq_true_eq]
    omega

end AnalysisContext

theorem Report.ofChecked_silenceCounts (format : CaptureFormat) (xs : List (Nat × RtpPacket × Int))
    (total : Nat) (stop : Option CaptureError) (stats : Option ReassemblyStats) :
    (Report.ofChecked format xs total stop stats).nonSilencePackets =
        xs.countP (fun x => decide x.2.1.Audible) ∧
      (Report.ofChecked format xs total stop stats).silencePackets =
        xs.countP (fun x => decide x.2.1.HasSilence) := by
  -- a fresh run has counted nothing
  obtain ⟨hloud, hquiet⟩ := (AnalysisContext.start format).observeAll_silenceCounts xs
  exact ⟨hloud.trans (Nat.zero_add _), hquiet.trans (Nat.zero_add _)⟩

/-- The silence scan finds the first audible sample and whether any is silent, and a run's report
counts the packets with each. -/
theorem silence_scan_counts (pt : UInt8) (payload : Bytes) :
    silenceByte pt = (if pt = 0 ∨ 112 < pt then 0xFF else 0x00) ∧
    (∀ n, (scanSilence pt payload).firstNonSilent = some n ↔ n.IsFirst (silenceByte pt) payload) ∧
    ((scanSilence pt payload).firstNonSilent = none ↔ ∀ b ∈ payload, b = silenceByte pt) ∧
    ((scanSilence pt payload).containsSilence = true ↔ silenceByte pt ∈ payload) ∧
    (∀ (ctx : AnalysisContext) (xs : List (Nat × RtpPacket × Int)),
      (ctx.observeAll xs).tracker.nonSilencePackets =
          ctx.tracker.nonSilencePackets + xs.countP (fun x => decide x.2.1.Audible) ∧
        (ctx.observeAll xs).tracker.silencePackets =
          ctx.tracker.silencePackets + xs.countP (fun x => decide x.2.1.HasSilence)) ∧
    ∀ format xs total stop stats,
      (Report.ofChecked format xs total stop stats).nonSilencePackets =
          xs.countP (fun x => decide x.2.1.Audible) ∧
        (Report.ofChecked format xs total stop stats).silencePackets =
          xs.countP (fun x => decide x.2.1.HasSilence) :=
  ⟨silenceByte_eq pt, scanSilence_firstNonSilent_eq_some pt payload,
    scanSilence_firstNonSilent_eq_none pt payload, scanSilence_containsSilence pt payload,
    AnalysisContext.observeAll_silenceCounts, Report.ofChecked_silenceCounts⟩

end RtpAudit
