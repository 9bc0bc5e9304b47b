import RtpAudit.Proofs.Analysis.Stages
import RtpAudit.Proofs.Stream.Histogram

/-! # The counters of an analysis keep in step

An analysis checks a list of packets (`Report.ofChecked`), each with the index of the record or
frame it came from and its spacing. Whatever the packets, the report accounts for them
(`Report.Accounts`): it counts each once, in the packet count and in the histogram, every
anomaly it holds is on one of them, at the packet's record, in the order the packets were checked,
and its counts by kind are those of its anomalies. The invariant behind this is
`AnalysisContext.Checked`, kept by checking one more packet (`Checked.observe`) and so by checking
any number (`Checked.observeAll`).

The outputs receive one audio frame or one skipped comfort frame per packet
(`Emitter.Wrote.audio_total`). With the stages of `Proofs.Analysis.Stages`, this puts the packets
of a capture in step with its reassembly counters, and those of a recording with its frames
(`analysis_lockstep`).
-/

namespace RtpAudit

/-! ## Checking packets keeps the counters in step -/

namespace AnalysisContext

/-- The context has checked the packets `ys`, each with the index of its record, and noted their
anomalies in order. -/
structure Checked (ctx : AnalysisContext) (ys : List (Nat × RtpPacket × Int)) : Prop where
  processed : ctx.tracker.processed = ys.length
  buckets : ctx.tracker.histogram.counts.size = Histogram.buckets
  histogram : ctx.tracker.histogram.total = ys.length
  located : ∀ e ∈ ctx.report.events,
    1 ≤ e.packetIndex ∧ ys[e.packetIndex - 1]?.map (·.1) = some e.recordIndex
  ordered : (ctx.report.events.map (·.packetIndex)).Pairwise (· ≤ ·)
  tallied : ctx.report.Tallied

variable {ctx : AnalysisContext} {ys : List (Nat × RtpPacket × Int)}

theorem index_lt {n r : Nat} (h : ys[n]?.map (·.1) = some r) : n < ys.length := by
  cases hn : ys[n]? with
  | none => rw [hn] at h; cases h
  | some x => exact (List.getElem?_eq_some_iff.1 hn).1

theorem checked_start (format : CaptureFormat) : (start format).Checked [] where
  processed := rfl
  buckets := Array.size_replicate
  histogram := Histogram.total_empty
  located _ he := absurd he List.not_mem_nil
  ordered := List.Pairwise.nil
  tallied := Report.tallied_empty format

theorem observe_tracker (ctx : AnalysisContext) (i : Nat) (p : RtpPacket) (δ : Int) :
    (ctx.observe i p δ).1.tracker =
      (ctx.tracker.validate p δ).1.recordSilence (scanSilence p.header.payloadType p.payload) :=
  rfl

theorem Checked.packetIndex (h : ctx.Checked ys) (p : RtpPacket) (δ : Int) :
    (ctx.tracker.validate p δ).2.packetIndex = ys.length + 1 := by
  rw [← h.processed]
  rfl

theorem Checked.observe (h : ctx.Checked ys) (i : Nat) (p : RtpPacket) (δ : Int) :
    (ctx.observe i p δ).1.Checked (ys ++ [(i, p, δ)]) where
  processed := by
    rw [observe_tracker, List.length_append, ← h.processed]
    rfl
  buckets := by
    rw [observe_tracker]
    exact (Histogram.size_record _ _).trans h.buckets
  histogram := by
    rw [observe_tracker, List.length_append, ← h.histogram]
    exact Histogram.total_record h.buckets _
  located e he := by
    rw [observe_report] at he
    rcases List.mem_append.1 he with hold | hnew
    · -- an earlier anomaly keeps its packet, which comes before this one
      obtain ⟨h1, hrec⟩ := h.located e hold
      have hlt := index_lt hrec
      exact ⟨h1, by rw [List.getElem?_append_left hlt]; exact hrec⟩
    · -- this packet's anomalies are at its position, one past those checked before
      obtain ⟨a, -, rfl⟩ := List.mem_map.1 hnew
      have hindex := h.packetIndex p δ
      show 1 ≤ (ctx.tracker.validate p δ).2.packetIndex ∧
        (ys ++ [(i, p, δ)])[(ctx.tracker.validate p δ).2.packetIndex - 1]?.map (·.1) = some i
      rw [hindex, Nat.add_sub_cancel, List.getElem?_append_right (Nat.le_refl _), Nat.sub_self]
      exact ⟨Nat.le_add_left 1 _, rfl⟩
  ordered := by
    have hindex := h.packetIndex p δ
    rw [observe_report, List.map_append, List.pairwise_append]
    refine ⟨h.ordered, ?_, ?_⟩
    · -- all of this packet's anomalies share its position
      exact List.pairwise_map.2 (List.pairwise_map.2 (List.pairwise_of_forall fun _ _ => Nat.le_refl _))
    · intro a ha b hb
      obtain ⟨e, he, rfl⟩ := List.mem_map.1 ha
      obtain ⟨_, hb', rfl⟩ := List.mem_map.1 hb
      obtain ⟨_, -, rfl⟩ := List.mem_map.1 hb'
      obtain ⟨_, hrec⟩ := h.located e he
      have hlt := index_lt hrec
      show e.packetIndex ≤ (ctx.tracker.validate p δ).2.packetIndex
      omega
  tallied := h.tallied.foldl_note i _ _

theorem Checked.observeAll (h : ctx.Checked ys) (zs : List (Nat × RtpPacket × Int)) :
    (ctx.observeAll zs).Checked (ys ++ zs) := by
  induction zs generalizing ctx ys with
  | nil =>
    rw [List.append_nil]
    exact h
  | cons z zs ih =>
    obtain ⟨i, p, δ⟩ := z
    have := ih (h.observe i p δ)
    rwa [List.append_assoc, List.singleton_append] at this

theorem observeAll_format (ctx : AnalysisContext) (xs : List (Nat × RtpPacket × Int)) :
    (ctx.observeAll xs).report.format = ctx.report.format := by
  rw [observeAll_report]

end AnalysisContext

/-! ## What a report accounts for -/

/-- The report `r` is that of checking the packets `xs` in order, each with the index of its record
and its spacing. -/
structure Report.Accounts (r : Report) (xs : List (Nat × RtpPacket × Int)) : Prop where
  checks : r = Report.ofChecked r.format xs r.totalRecords r.stop r.reassembly
  processed : r.processed = xs.length
  histogram : r.histogram.total = r.processed
  located : ∀ e ∈ r.events, 1 ≤ e.packetIndex ∧ e.packetIndex ≤ r.processed ∧
    xs[e.packetIndex - 1]?.map (·.1) = some e.recordIndex
  ordered : (r.events.map (·.packetIndex)).Pairwise (· ≤ ·)
  tallied : r.Tallied

namespace Report

theorem ofChecked_accounts (format : CaptureFormat) (xs : List (Nat × RtpPacket × Int))
    (total : Nat) (stop : Option CaptureError) (stats : Option ReassemblyStats) :
    (ofChecked format xs total stop stats).Accounts xs := by
  -- the run checked `xs` from a fresh context, and the report only adds totals to it
  have h := (AnalysisContext.checked_start format).observeAll xs
  rw [List.nil_append] at h
  have hformat : (ofChecked format xs total stop stats).format = format :=
    AnalysisContext.observeAll_format _ _
  exact {
    checks := by rw [hformat]; rfl
    processed := h.processed
    histogram := h.histogram.trans h.processed.symm
    located := fun e he => by
      obtain ⟨h1, hrec⟩ := h.located e he
      have hlt := AnalysisContext.index_lt hrec
      refine ⟨h1, ?_, hrec⟩
      show e.packetIndex ≤ ((AnalysisContext.start format).observeAll xs).tracker.processed
      rw [h.processed]
      omega
    ordered := h.ordered
    tallied := h.tallied }

end Report

theorem Emitter.Wrote.audio_total {c : Bool} {e e' : Emitter} {ps : List RtpPacket}
    (h : e.Wrote c ps e') (ha : e.audio.isSome = true) :
    e'.stats.audioFrames + e'.stats.comfortFramesSkipped =
      e.stats.audioFrames + e.stats.comfortFramesSkipped + ps.length := by
  rw [h.audioFrames, h.comfortFramesSkipped, if_pos ha, if_pos ha]
  have hsplit : ps.countP (!·.header.isComfortNoise) + ps.countP (·.header.isComfortNoise) =
      ps.length := by
    simp [List.length_eq_countP_add_countP fun p : RtpPacket => p.header.isComfortNoise]
    omega
  omega

/-! ## The packets an analysis checks -/

theorem PacketClock.stamp_length (c : PacketClock) (ds : List Datagram) :
    (c.stamp ds).length = ds.length := by
  induction ds generalizing c with
  | nil => rfl
  | cons d ds ih => rw [stamp, List.length_cons, List.length_cons, ih]

theorem PacketClock.stamp_getElem? (c : PacketClock) (ds : List Datagram) (i : Nat) :
    (c.stamp ds)[i]? = ds[i]?.map fun d =>
      (d.recordIndex, d.packet,
        (PacketClock.mk (((ds.take i).getLast?.map (·.time)).or c.last)).tick d.time |>.2) := by
  induction ds generalizing c i with
  | nil => rfl
  | cons d ds ih =>
    cases i with
    | zero => rfl
    | succ j =>
      -- the rest is stamped from the clock that last saw `d`
      rw [stamp, List.getElem?_cons_succ, ih, List.getElem?_cons_succ]
      congr 1
      funext d'
      have hprev : (((d :: ds).take (j + 1)).getLast?.map (·.time)).or c.last =
          ((ds.take j).getLast?.map (·.time)).or (some d.time) := by
        rw [List.take_succ_cons, List.getLast?_cons]
        cases (ds.take j).getLast? <;> rfl
      rw [hprev]
      rfl

theorem Recording.items_length (frames : List RecordingFrame) :
    (Recording.items frames).length = frames.length := by
  simp [Recording.items]

theorem Recording.items_getElem? (frames : List RecordingFrame) (i : Nat) :
    (Recording.items frames)[i]? = frames[i]?.map fun f => (i + 1, f.packet, (f.delta.toNat : Int)) := by
  simp [Recording.items, List.getElem?_zipIdx, Function.comp_def]


/-! ## The stages of an analysis in step -/

section Lockstep

open CaptureFormat

variable {cfg : AnalyzerConfig} {data : Bytes} {em em' : Emitter} {report : Report}

/-- A report checks the packets of the datagrams of a capture, or the frames of a recording. -/
theorem analyzeBytes_ok (h : (analyzeBytes cfg data em).result = .ok (report, em')) :
    (∃ target, data.startsWith snoopMagic = true ∧ cfg.target = some target ∧
      report = Report.ofChecked .snoop
        (PacketClock.stamp {} ((cfg.reassembler target).completed (Snoop.scan data).records))
        (Snoop.scan data).records.length (Snoop.scan data).stop
        (some ((cfg.reassembler target).run (Snoop.scan data).records).stats) ∧
      em.Wrote true (((cfg.reassembler target).completed (Snoop.scan data).records).map
        Datagram.packet) em') ∨
    (data.startsWith snoopMagic = false ∧
      report = Report.ofChecked .recording (Recording.items (Recording.scan data).frames)
        (Recording.scan data).frames.length (Recording.scan data).stop none ∧
      em.Wrote false ((Recording.scan data).frames.map (·.packet)) em') := by
  cases hs : data.startsWith snoopMagic with
  | true =>
    rw [analyzeBytes_snoop cfg data em hs] at h
    cases ht : cfg.target with
    | none =>
      unfold Analyzer.analyzeCapture at h
      rw [ht] at h
      cases h
    | some target =>
      obtain ⟨em₁, hres, hw⟩ := analyzeCapture_checks ht data em (Analyzer.opening .snoop)
      rw [hres] at h
      cases h
      exact Or.inl ⟨target, rfl, rfl, rfl, hw⟩
  | false =>
    cases hr : data.startsWith recordingMagic with
    | true =>
      obtain ⟨em₁, hres, hw⟩ := analyzeRecording_checks data em (Analyzer.opening .recording)
      rw [analyzeBytes_recording cfg data em hs hr, hres] at h
      cases h
      exact Or.inr ⟨rfl, rfl, hw⟩
    | false =>
      rw [analyzeBytes_unrecognized cfg data em hs hr] at h
      cases h

/-- An analysis keeps its stages in step: the report accounts for the packets checked, counts each
kind as often as it holds it, and its counters and outputs count the same packets. -/
theorem analysis_lockstep (h : (analyzeBytes cfg data em).result = .ok (report, em')) :
    (∀ k n, (k, n) ∈ report.anomalyCounts.entries ↔
      0 < n ∧ report.events.countP (·.anomaly.kind == k) = n) ∧
    (∀ k, report.count k = report.events.countP (·.anomaly.kind == k)) ∧
    report.totalAnomalies = report.events.length ∧
    (em.audio.isSome = true → em'.stats.audioFrames + em'.stats.comfortFramesSkipped =
      em.stats.audioFrames + em.stats.comfortFramesSkipped + report.processed) ∧
    (data.startsWith snoopMagic = true → ∃ target stats, cfg.target = some target ∧
      report.Accounts
        (PacketClock.stamp {} ((cfg.reassembler target).completed (Snoop.scan data).records)) ∧
      report.totalRecords = (Snoop.scan data).records.length ∧ report.reassembly = some stats ∧
      stats.records = report.totalRecords ∧ stats.datagrams = report.processed ∧
      em'.stats.recordingFrames =
        em.stats.recordingFrames + (if em.recording.isSome then report.processed else 0) ∧
      em'.stats.timePoints =
        em.stats.timePoints + (if em.timePoints.isSome then report.processed else 0)) ∧
    (data.startsWith snoopMagic = false →
      report.Accounts (Recording.items (Recording.scan data).frames) ∧
      report.totalRecords = (Recording.scan data).frames.length ∧
      report.processed = report.totalRecords ∧ report.reassembly = none ∧
      em'.stats.recordingFrames = em.stats.recordingFrames ∧
      em'.stats.timePoints = em.stats.timePoints) := by
  -- whatever the input, the report is that of checking packets, so its counts are tallied
  have htallied : report.Tallied := by
    rcases analyzeBytes_ok h with ⟨target, -, -, rfl, -⟩ | ⟨-, rfl, -⟩
    · exact (Report.ofChecked_accounts _ _ _ _ _).tallied
    · exact (Report.ofChecked_accounts _ _ _ _ _).tallied
  refine ⟨htallied.mem_entries, htallied.count_eq, htallied.totalAnomalies_eq, ?_⟩
  rcases analyzeBytes_ok h with ⟨target, hs, ht, rfl, hw⟩ | ⟨hs, rfl, hw⟩
  · -- a capture: the packets are those of the reassembled datagrams, one per datagram counted
    have hacc := Report.ofChecked_accounts .snoop
      (PacketClock.stamp {} ((cfg.reassembler target).completed (Snoop.scan data).records))
      (Snoop.scan data).records.length (Snoop.scan data).stop
      (some ((cfg.reassembler target).run (Snoop.scan data).records).stats)
    have hlen := hacc.processed.trans (PacketClock.stamp_length _ _)
    obtain ⟨hrecords, hdatagrams, -⟩ :=
      (cfg.reassembler target).run_tally (Reassembler.expecting_of_slot_none rfl)
        (Snoop.scan data).records
    refine ⟨fun ha => ?_, fun _ => ⟨target, _, ht, hacc, rfl, rfl, ?_, ?_, ?_, ?_⟩, fun hs' => ?_⟩
    · rw [hw.audio_total ha, List.length_map, hlen]
    · rw [hrecords]
      exact Nat.zero_add _
    · rw [hdatagrams, hlen]
      exact Nat.zero_add _
    · rw [hw.recordingFrames, List.length_map, hlen]
      rfl
    · rw [hw.timePointsWritten, List.length_map, hlen]
      rfl
    · rw [hs] at hs'
      cases hs'
  · -- a recording: the packets are its frames, and only audio is written
    have hacc := Report.ofChecked_accounts .recording (Recording.items (Recording.scan data).frames)
      (Recording.scan data).frames.length (Recording.scan data).stop none
    have hlen := Recording.items_length (Recording.scan data).frames
    refine ⟨fun ha => ?_, fun hs' => ?_, fun _ => ⟨hacc, rfl, hacc.processed.trans hlen, rfl, ?_, ?_⟩⟩
    · rw [hw.audio_total ha, List.length_map, hacc.processed, hlen]
    · rw [hs] at hs'
      cases hs'
    · rw [hw.recordingFrames]
      rfl
    · rw [hw.timePointsWritten]
      rfl

open Analyzer in
/-- The sample capture, analysed along its flow, checks one packet, which its reassembly counters
count as one datagram. -/
theorem sample_lockstep :
    ∃ report em', (analyzeBytes { target := some Sample.target } Sample.capture {}).result =
      .ok (report, em') ∧ report.processed = 1 ∧
      ∃ stats, report.reassembly = some stats ∧ stats.datagrams = 1 := by
  have hprocessed : ((analyzeBytes { target := some Sample.target } Sample.capture {}).result.toOption.map
      (·.1.processed)) = some 1 := by
    decide +kernel
  cases hres : (analyzeBytes { target := some Sample.target } Sample.capture {}).result with
  | error e =>
    rw [hres] at hprocessed
    cases hprocessed
  | ok out =>
    obtain ⟨report, em'⟩ := out
    rw [hres] at hprocessed
    simp only [Except.toOption, Option.map_some, Option.some.injEq] at hprocessed
    obtain ⟨-, -, -, -, hcapture, -⟩ := analysis_lockstep hres
    obtain ⟨_, stats, -, -, -, hstats, -, hdatagrams, -⟩ := hcapture (by decide)
    exact ⟨report, em', rfl, hprocessed, stats, hstats, hdatagrams.trans hprocessed⟩

end Lockstep

end RtpAudit
