import RtpAudit.Proofs.Analysis.Replay
import RtpAudit.Proofs.Reassembly.Ledger

/-! # What each stage of an analysis hands the next

An analysis reads records or frames, turns them into RTP packets, gives each a spacing, checks it
and writes it out. For every input:

* a snoop capture's packets are the datagrams the reassembler gives out, in order, each cut after
  its RTP header (`Datagram.packet`), with the record that completed it and the spacing the packet
  clock gives at that record's time (`PacketClock.stamp`); a recording's packets are its frames,
  each with its position and stored spacing (`Recording.items`);
* the report is that of checking those packets in order (`Report.ofChecked`), with the records
  read, why reading stopped and, for a capture, the reassembly counters;
* the outputs receive every packet (`Emitter.Wrote`): as audio, or counted as skipped comfort
  noise, and for a capture as one recording frame and one time point.

Nothing in between fails. A datagram always holds an RTP header, and its recording frame always
fits the 16-bit length field, whatever the datagram limit: the UDP length field bounds the datagram
(`Reassembler.completed_sized`). So an analysis fails exactly for an input of neither kind, or for
a capture with no flow to follow (`analysis_outcome`).
-/

namespace RtpAudit

namespace Datagram

/-- The RTP packet a datagram carries: its first twelve bytes are the header, the rest the
payload. -/
def packet (d : Datagram) : RtpPacket :=
  ⟨RtpHeader.ofBytes d.data, d.data.drop RtpHeader.length⟩

theorem parse_data {d : Datagram} (h : RtpHeader.length ≤ d.data.length) :
    RtpPacket.parse d.data = .ok d.packet := by
  unfold RtpPacket.parse RtpHeader.parse
  rw [if_neg (Nat.not_lt.2 h)]
  rfl

theorem packet_payloadLength (d : Datagram) :
    d.packet.payloadLength = d.data.length - RtpHeader.length := by
  simp [packet, RtpPacket.payloadLength]

end Datagram

/-! ## The outputs -/

namespace Emitter

/-- `e'` is `e` once the packets `ps` are written, for a capture (`capture`) also to the recording
and as time points. -/
structure Wrote (capture : Bool) (e : Emitter) (ps : List RtpPacket) (e' : Emitter) : Prop where
  hasAudio : e'.audio.isSome = e.audio.isSome
  hasRecording : e'.recording.isSome = e.recording.isSome
  hasTimePoints : e'.timePoints.isSome = e.timePoints.isSome
  audioFrames : e'.stats.audioFrames =
    e.stats.audioFrames + if e.audio.isSome then ps.countP (!·.header.isComfortNoise) else 0
  comfortFramesSkipped : e'.stats.comfortFramesSkipped =
    e.stats.comfortFramesSkipped + if e.audio.isSome then ps.countP (·.header.isComfortNoise) else 0
  audioBytes : e'.stats.audioBytes = e.stats.audioBytes +
    if e.audio.isSome then ((ps.filter (!·.header.isComfortNoise)).flatMap (·.payload)).length
    else 0
  recordingFrames : e'.stats.recordingFrames =
    e.stats.recordingFrames + if capture && e.recording.isSome then ps.length else 0
  timePointsWritten : e'.stats.timePoints =
    e.stats.timePoints + if capture && e.timePoints.isSome then ps.length else 0

variable {c : Bool} {e e' e'' : Emitter} {ps qs : List RtpPacket}

theorem Wrote.nil (c : Bool) (e : Emitter) : e.Wrote c [] e where
  hasAudio := rfl
  hasRecording := rfl
  hasTimePoints := rfl
  audioFrames := by simp
  comfortFramesSkipped := by simp
  audioBytes := by simp
  recordingFrames := by simp
  timePointsWritten := by simp

theorem Wrote.append (h₁ : e.Wrote c ps e') (h₂ : e'.Wrote c qs e'') : e.Wrote c (ps ++ qs) e'' where
  hasAudio := h₂.hasAudio.trans h₁.hasAudio
  hasRecording := h₂.hasRecording.trans h₁.hasRecording
  hasTimePoints := h₂.hasTimePoints.trans h₁.hasTimePoints
  audioFrames := by
    rw [h₂.audioFrames, h₁.audioFrames, h₁.hasAudio, List.countP_append]
    split <;> omega
  comfortFramesSkipped := by
    rw [h₂.comfortFramesSkipped, h₁.comfortFramesSkipped, h₁.hasAudio, List.countP_append]
    split <;> omega
  audioBytes := by
    rw [h₂.audioBytes, h₁.audioBytes, h₁.hasAudio, List.filter_append, List.flatMap_append,
      List.length_append]
    split <;> omega
  recordingFrames := by
    rw [h₂.recordingFrames, h₁.recordingFrames, h₁.hasRecording, List.length_append]
    split <;> omega
  timePointsWritten := by
    rw [h₂.timePointsWritten, h₁.timePointsWritten, h₁.hasTimePoints, List.length_append]
    split <;> omega

theorem wrote_audio (e : Emitter) (p : RtpPacket) : e.Wrote false [p] (e.writeAudio p) := by
  unfold writeAudio
  cases ha : e.audio with
  | none => constructor <;> simp [ha]
  | some w =>
    dsimp only
    by_cases hc : p.header.isComfortNoise = true
    · rw [if_pos hc]
      constructor <;> simp [ha, hc]
    · rw [if_neg hc]
      constructor <;> simp [ha, hc, RtpPacket.payloadLength]

theorem writeRecording_fits (e : Emitter) (δ : Int) {p : RtpPacket}
    (hfit : RecordingFrame.headerLength + p.payloadLength < 65536) :
    ∃ e₁, e.writeRecording δ p = .ok e₁ ∧ e₁.audio = e.audio ∧ e₁.timePoints = e.timePoints ∧
      e₁.recording.isSome = e.recording.isSome ∧
      e₁.stats = { e.stats with
        recordingFrames := e.stats.recordingFrames + if e.recording.isSome then 1 else 0 } := by
  unfold writeRecording
  cases hr : e.recording with
  | none => exact ⟨e, rfl, rfl, rfl, by simp [hr], by simp⟩
  | some w =>
    dsimp only
    rw [RecordingWriter.writePacket,
      RecordingWriter.writeFrame_of_fits w (f := ⟨RecordingWriter.clampDelta δ, p⟩) hfit]
    exact ⟨_, rfl, rfl, rfl, rfl, by simp⟩

theorem writeTimePoint_hasTimePoints (e : Emitter) (i : Nat) (m : Bool) (δ : Int) :
    (e.writeTimePoint i m δ).timePoints.isSome = e.timePoints.isSome := by
  unfold writeTimePoint
  split <;> simp_all

theorem writeTimePoint_stats (e : Emitter) (i : Nat) (m : Bool) (δ : Int) :
    (e.writeTimePoint i m δ).stats =
      { e.stats with timePoints := e.stats.timePoints + if e.timePoints.isSome then 1 else 0 } := by
  unfold writeTimePoint
  split <;> simp_all

theorem wrote_capture {e₁ : Emitter} {δ : Int} {p : RtpPacket} (i : Nat) (m : Bool)
    (hw : e.writeRecording δ p = .ok e₁)
    (hfit : RecordingFrame.headerLength + p.payloadLength < 65536) :
    e.Wrote true [p] ((e₁.writeTimePoint i m δ).writeAudio p) := by
  obtain ⟨e₂, hw₂, haudio, htp, hrec, hstats⟩ := writeRecording_fits e δ hfit
  rw [hw] at hw₂
  cases hw₂
  -- the recording frame and the time point are written before the audio
  have h₃audio : (e₁.writeTimePoint i m δ).audio = e.audio := by
    rw [writeTimePoint_audio, haudio]
  have h₃stats : (e₁.writeTimePoint i m δ).stats = { e.stats with
      recordingFrames := e.stats.recordingFrames + if e.recording.isSome then 1 else 0
      timePoints := e.stats.timePoints + if e.timePoints.isSome then 1 else 0 } := by
    rw [writeTimePoint_stats, hstats, htp]
  have ha := wrote_audio (e₁.writeTimePoint i m δ) p
  exact {
    hasAudio := by rw [ha.hasAudio, h₃audio]
    hasRecording := by rw [ha.hasRecording, writeTimePoint_recording, hrec]
    hasTimePoints := by rw [ha.hasTimePoints, writeTimePoint_hasTimePoints, htp]
    audioFrames := by rw [ha.audioFrames, h₃stats, h₃audio]
    comfortFramesSkipped := by rw [ha.comfortFramesSkipped, h₃stats, h₃audio]
    audioBytes := by rw [ha.audioBytes, h₃stats, h₃audio]
    recordingFrames := by
      rw [ha.recordingFrames, h₃stats]
      simp
    timePointsWritten := by
      rw [ha.timePointsWritten, h₃stats]
      simp }

end Emitter

/-! ## Checking packets -/

namespace AnalysisContext

/-- Observe packets one after another, each with the index of its record and its spacing. -/
def observeAll (ctx : AnalysisContext) : List (Nat × RtpPacket × Int) → AnalysisContext
  | [] => ctx
  | (i, p, δ) :: xs => (ctx.observe i p δ).1.observeAll xs

theorem observeAll_clock (ctx : AnalysisContext) (c : PacketClock) (xs : List (Nat × RtpPacket × Int)) :
    { ctx with clock := c }.observeAll xs = { ctx.observeAll xs with clock := c } := by
  induction xs generalizing ctx with
  | nil => rfl
  | cons x xs ih =>
    obtain ⟨i, p, δ⟩ := x
    rw [observeAll, observeAll]
    exact ih (ctx.observe i p δ).1

theorem observe_report (ctx : AnalysisContext) (i : Nat) (p : RtpPacket) (δ : Int) :
    (ctx.observe i p δ).1.report = { ctx.report with
      anomalyCounts := ((ctx.tracker.validate p δ).2.anomalies.map Anomaly.kind).foldl
        AnomalyCounts.bump ctx.report.anomalyCounts
      events := ctx.report.events ++
        ((ctx.tracker.validate p δ).2.anomalies.map fun a =>
          ⟨i, (ctx.tracker.validate p δ).2.packetIndex, a⟩) } :=
  Report.foldl_note _ _ _ _

theorem observeAll_report (ctx : AnalysisContext) (xs : List (Nat × RtpPacket × Int)) :
    (ctx.observeAll xs).report = { ctx.report with
      anomalyCounts := (ctx.observeAll xs).report.anomalyCounts
      events := (ctx.observeAll xs).report.events } := by
  induction xs generalizing ctx with
  | nil => rfl
  | cons x xs ih =>
    obtain ⟨i, p, δ⟩ := x
    rw [observeAll, ih, observe_report]

theorem observeAll_reassembly (ctx : AnalysisContext) (xs : List (Nat × RtpPacket × Int)) :
    (ctx.observeAll xs).report.reassembly = ctx.report.reassembly := by
  rw [observeAll_report]

end AnalysisContext

/-- The packets of datagrams as a capture checks them, from the packet clock `c`: each datagram's
packet, with the record that completed it and the spacing the clock gives at that record's time. -/
def PacketClock.stamp (c : PacketClock) : List Datagram → List (Nat × RtpPacket × Int)
  | [] => []
  | d :: ds => (d.recordIndex, d.packet, (c.tick d.time).2) :: (c.tick d.time).1.stamp ds

/-- A recording's packets as it checks them: each frame's packet, with its position from 1 and its
stored spacing. -/
def Recording.items (frames : List RecordingFrame) : List (Nat × RtpPacket × Int) :=
  frames.zipIdx.map fun (f, i) => (i + 1, f.packet, (f.delta.toNat : Int))

/-- The report of a run over an input of kind `format` that checked the packets `xs`, read `total`
records or frames, stopped for `stop`, and kept the reassembly counters `stats`. -/
def Report.ofChecked (format : CaptureFormat) (xs : List (Nat × RtpPacket × Int)) (total : Nat)
    (stop : Option CaptureError) (stats : Option ReassemblyStats) : Report :=
  let ctx := (AnalysisContext.start format).observeAll xs
  { ctx.report with totalRecords := total, stop, reassembly := stats }.absorb ctx.tracker

/-- The reassembler a capture's analysis starts with, following `target`. -/
def AnalyzerConfig.reassembler (cfg : AnalyzerConfig) (target : FlowTarget) : Reassembler :=
  { target, expectedPayload := cfg.expectedPayload, maxDatagram := cfg.maxDatagram }

/-! ## Datagrams fit every stage -/

theorem Outcome.datagram?_eq_some {o : Outcome} {d : Datagram} : o.datagram? = some d ↔ o = .complete d := by
  cases o <;> simp [Outcome.datagram?]

/-- A datagram given out from nothing in flight holds an RTP header and its declared data. -/
theorem Reassembler.completed_sized {r : Reassembler} (hr : r.slot = none) (recs : List SnoopRecord) :
    ∀ d ∈ r.completed recs, RtpHeader.length ≤ d.data.length ∧
      d.data.length = d.udp.length.toNat - UdpHeader.headerLength := by
  intro d hd
  obtain ⟨step, hstep, hout⟩ := List.mem_filterMap.1 hd
  obtain ⟨n, hn⟩ := List.mem_iff_getElem?.1 hstep
  have hc : ((r.feed recs).map (·.outcome))[n]? = some (.complete d) := by
    rw [List.getElem?_map, hn, Option.map_some, Outcome.datagram?_eq_some.1 hout]
  obtain ⟨-, h12, hlen, -, -⟩ := feed_complete_sound hr hc
  exact ⟨h12, hlen⟩

theorem Datagram.frame_fits {d : Datagram}
    (hlen : d.data.length = d.udp.length.toNat - UdpHeader.headerLength) (δ : UInt16) :
    (⟨δ, d.packet⟩ : RecordingFrame).encodedLength = 16 + (d.udp.length.toNat - 20) ∧
      (⟨δ, d.packet⟩ : RecordingFrame).encodedLength ≤ 65531 := by
  have hudp := d.udp.length.toNat_lt
  simp only [RecordingFrame.encodedLength, RecordingFrame.headerLength, Datagram.packet_payloadLength,
    hlen, RtpHeader.length, UdpHeader.headerLength]
  omega

/-! ## The capture's stages -/

namespace Analyzer

variable {s : Progress} {r : Reassembler} {rec : SnoopRecord}

theorem capturePacket_fits (s : Progress) (i : Nat) (t : CaptureTime) {p : RtpPacket}
    (hfit : RecordingFrame.headerLength + p.payloadLength < 65536) :
    ∃ s', capturePacket s i t p = .ok s' ∧
      s'.ctx = { (s.ctx.observe i p (s.ctx.clock.tick t).2).1 with clock := (s.ctx.clock.tick t).1 } ∧
      s.emitter.Wrote true [p] s'.emitter := by
  unfold capturePacket
  cases htick : s.ctx.clock.tick t with
  | mk clock δ =>
    obtain ⟨e₁, hw, -⟩ := Emitter.writeRecording_fits s.emitter δ hfit
    dsimp only
    rw [hw]
    exact ⟨_, rfl, rfl, Emitter.wrote_capture _ _ hw hfit⟩

theorem capturePacket_spec {s s' : Progress} {i : Nat} {t : CaptureTime} {p : RtpPacket}
    (hfit : RecordingFrame.headerLength + p.payloadLength < 65536)
    (h : capturePacket s i t p = .ok s') :
    s'.ctx = { (s.ctx.observe i p (s.ctx.clock.tick t).2).1 with clock := (s.ctx.clock.tick t).1 } ∧
      s.emitter.Wrote true [p] s'.emitter := by
  obtain ⟨s'', h', hctx, hw⟩ := capturePacket_fits s i t hfit
  rw [h'] at h
  cases h
  exact ⟨hctx, hw⟩

theorem capturePacket_ne_error (s : Progress) (i : Nat) (t : CaptureTime) {p : RtpPacket}
    (hfit : RecordingFrame.headerLength + p.payloadLength < 65536) (e : AnalysisError) :
    capturePacket s i t p ≠ .error e := by
  obtain ⟨s', h, -⟩ := capturePacket_fits s i t hfit
  rw [h]
  nofun

theorem captureRecord_of_none (h : (r.push rec).outcome.datagram? = none) :
    ∃ s', captureRecord (s, r) rec = .ok (s', (r.push rec).next) ∧ s'.ctx = s.ctx ∧
      s'.emitter = s.emitter := by
  unfold captureRecord
  dsimp only
  cases ho : (r.push rec).outcome with
  | complete d =>
    rw [ho] at h
    cases h
  | pending => exact ⟨_, rfl, rfl, rfl⟩
  | skipped reason => exact ⟨_, rfl, rfl, rfl⟩
  | abandoned m => exact ⟨_, rfl, rfl, rfl⟩

theorem captureRecord_of_some {d : Datagram} (h : (r.push rec).outcome.datagram? = some d)
    (hlen : RtpHeader.length ≤ d.data.length)
    (hfit : RecordingFrame.headerLength + d.packet.payloadLength < 65536) :
    ∃ s', captureRecord (s, r) rec = .ok (s', (r.push rec).next) ∧
      s'.ctx = { (s.ctx.observe d.recordIndex d.packet (s.ctx.clock.tick d.time).2).1 with
        clock := (s.ctx.clock.tick d.time).1 } ∧
      s.emitter.Wrote true [d.packet] s'.emitter := by
  unfold captureRecord
  dsimp only
  rw [Outcome.datagram?_eq_some.1 h]
  dsimp only
  rw [Datagram.parse_data hlen]
  dsimp only
  split
  · rename_i s' hcap
    obtain ⟨hctx, hw⟩ := capturePacket_spec hfit hcap
    exact ⟨s', rfl, hctx, hw⟩
  · rename_i e hcap
    exact absurd hcap (capturePacket_ne_error _ _ _ hfit e)

/-- Records fed one after another check and write out the packets of the datagrams given out. -/
theorem foldlM_captureRecord (recs : List SnoopRecord) (s : Progress) (r : Reassembler)
    (hsized : ∀ d ∈ r.completed recs, RtpHeader.length ≤ d.data.length ∧
      RecordingFrame.headerLength + d.packet.payloadLength < 65536) :
    ∃ s', recs.foldlM captureRecord (s, r) = .ok (s', r.run recs) ∧
      s'.ctx.tracker = (s.ctx.observeAll (s.ctx.clock.stamp (r.completed recs))).tracker ∧
      s'.ctx.report = (s.ctx.observeAll (s.ctx.clock.stamp (r.completed recs))).report ∧
      s.emitter.Wrote true ((r.completed recs).map Datagram.packet) s'.emitter := by
  induction recs generalizing s r with
  | nil => exact ⟨s, rfl, rfl, rfl, Emitter.Wrote.nil true _⟩
  | cons rec recs ih =>
    -- the datagram this record gives out, if any, comes before those of the later records
    have hcomp : r.completed (rec :: recs) =
        (r.push rec).outcome.datagram?.toList ++ (r.push rec).next.completed recs := by
      simp only [Reassembler.completed, Reassembler.feed, List.filterMap_cons]
      cases (r.push rec).outcome.datagram? <;> rfl
    have hlater : ∀ d ∈ (r.push rec).next.completed recs, RtpHeader.length ≤ d.data.length ∧
        RecordingFrame.headerLength + d.packet.payloadLength < 65536 :=
      fun d hd => hsized d (by rw [hcomp]; exact List.mem_append_right _ hd)
    cases hd : (r.push rec).outcome.datagram? with
    | none =>
      obtain ⟨s₁, hstep, hctx, hem⟩ := captureRecord_of_none (s := s) hd
      obtain ⟨s', hrest, htracker, hreport, hw⟩ := ih s₁ (r.push rec).next hlater
      rw [hcomp, hd, Option.toList_none, List.nil_append]
      refine ⟨s', ?_, by rw [htracker, hctx], by rw [hreport, hctx], hem ▸ hw⟩
      rw [List.foldlM_cons, hstep]
      exact hrest
    | some d =>
      obtain ⟨hlen, hfit⟩ := hsized d (by rw [hcomp, hd]; simp)
      obtain ⟨s₁, hstep, hctx, hem⟩ := captureRecord_of_some (s := s) hd hlen hfit
      obtain ⟨s', hrest, htracker, hreport, hw⟩ := ih s₁ (r.push rec).next hlater
      rw [hcomp, hd, Option.toList_some, List.singleton_append]
      refine ⟨s', ?_, ?_, ?_, hem.append hw⟩
      · rw [List.foldlM_cons, hstep]
        exact hrest
      · rw [htracker, hctx, AnalysisContext.observeAll_clock]
        rfl
      · rw [hreport, hctx, AnalysisContext.observeAll_clock]
        rfl

theorem foldl_recordingFrame (frames : List RecordingFrame) (n : Nat) (start : Progress) :
    ((frames.zipIdx n).foldl (fun s (f, i) => recordingFrame s i f) start).ctx =
        start.ctx.observeAll ((frames.zipIdx n).map fun (f, i) =>
          (i + 1, f.packet, (f.delta.toNat : Int))) ∧
      start.emitter.Wrote false (frames.map (·.packet))
        ((frames.zipIdx n).foldl (fun s (f, i) => recordingFrame s i f) start).emitter := by
  induction frames generalizing n start with
  | nil => exact ⟨rfl, Emitter.Wrote.nil false _⟩
  | cons f frames ih =>
    obtain ⟨hctx, hw⟩ := ih (n + 1) (recordingFrame start n f)
    rw [List.zipIdx_cons, List.foldl_cons, List.map_cons, List.map_cons]
    exact ⟨hctx, (Emitter.wrote_audio start.emitter f.packet).append hw⟩

end Analyzer

open Analyzer in
/-- A capture with a flow to follow checks the packets reassembled from its records. -/
theorem analyzeCapture_checks {cfg : AnalyzerConfig} {target : FlowTarget}
    (ht : cfg.target = some target) (data : Bytes) (em : Emitter) (events : Array Event) :
    ∃ em', (analyzeCapture cfg data em events).result =
        .ok (Report.ofChecked .snoop
          (PacketClock.stamp {} ((cfg.reassembler target).completed (Snoop.scan data).records))
          (Snoop.scan data).records.length (Snoop.scan data).stop
          (some ((cfg.reassembler target).run (Snoop.scan data).records).stats), em') ∧
      em.Wrote true (((cfg.reassembler target).completed (Snoop.scan data).records).map
        Datagram.packet) em' := by
  have hsized : ∀ d ∈ (cfg.reassembler target).completed (Snoop.scan data).records,
      RtpHeader.length ≤ d.data.length ∧
        RecordingFrame.headerLength + d.packet.payloadLength < 65536 := by
    intro d hd
    obtain ⟨h12, hlen⟩ := Reassembler.completed_sized rfl _ d hd
    have hframe := (Datagram.frame_fits hlen 0).2
    simp only [RecordingFrame.encodedLength] at hframe
    exact ⟨h12, by omega⟩
  obtain ⟨s', hfold, htracker, hreport, hw⟩ := foldlM_captureRecord (Snoop.scan data).records
    { ctx := .start .snoop, emitter := em, events } (cfg.reassembler target) hsized
  unfold analyzeCapture
  rw [ht]
  dsimp only
  rw [show ({ target, expectedPayload := cfg.expectedPayload, maxDatagram := cfg.maxDatagram } :
    Reassembler) = cfg.reassembler target from rfl, hfold]
  refine ⟨s'.emitter, ?_, hw⟩
  simp only [AnalysisContext.finish, htracker, hreport]
  rfl

open Analyzer in
/-- A session recording checks its frames' packets at their stored spacings. -/
theorem analyzeRecording_checks (data : Bytes) (em : Emitter) (events : Array Event) :
    ∃ em', (analyzeRecording data em events).result =
        .ok (Report.ofChecked .recording (Recording.items (Recording.scan data).frames)
          (Recording.scan data).frames.length (Recording.scan data).stop none, em') ∧
      em.Wrote false ((Recording.scan data).frames.map (·.packet)) em' := by
  obtain ⟨hctx, hw⟩ := foldl_recordingFrame (Recording.scan data).frames 0
    { ctx := .start .recording, emitter := em, events }
  refine ⟨_, ?_, hw⟩
  unfold analyzeRecording Report.ofChecked
  simp only [AnalysisContext.finish]
  rw [hctx, AnalysisContext.observeAll_reassembly]
  rfl

/-! ## How an analysis ends -/

section Outcome

open CaptureFormat

variable (cfg : AnalyzerConfig) (data : Bytes) (em : Emitter)

/-- The first event of an analysis names the kind of its input. -/
def Analyzer.opening (format : CaptureFormat) : Array Event :=
  #[Event.info ("input is a " ++ format.name ++ " file")]

theorem analyzeBytes_snoop (hs : data.startsWith snoopMagic = true) :
    analyzeBytes cfg data em = Analyzer.analyzeCapture cfg data em (Analyzer.opening .snoop) := by
  unfold analyzeBytes classify
  rw [if_pos hs]
  rfl

theorem analyzeBytes_recording (hs : data.startsWith snoopMagic = false)
    (hr : data.startsWith recordingMagic = true) :
    analyzeBytes cfg data em = Analyzer.analyzeRecording data em (Analyzer.opening .recording) := by
  unfold analyzeBytes classify
  rw [if_neg (by simp [hs]), if_pos hr]
  rfl

theorem analyzeBytes_unrecognized (hs : data.startsWith snoopMagic = false)
    (hr : data.startsWith recordingMagic = false) :
    (analyzeBytes cfg data em).result =
      .error (.capture (.unrecognized (Text.ofBytesLossy (data.take 8)))) := by
  unfold analyzeBytes classify
  rw [if_neg (by simp [hs]), if_neg (by simp [hr])]

/-- An analysis is refused for its magic or for want of a flow, or gives a report. -/
theorem analyzeBytes_cases :
    (data.startsWith snoopMagic = false ∧ data.startsWith recordingMagic = false ∧
      (analyzeBytes cfg data em).result =
        .error (.capture (.unrecognized (Text.ofBytesLossy (data.take 8))))) ∨
    (data.startsWith snoopMagic = true ∧ cfg.target = none ∧
      (analyzeBytes cfg data em).result =
        .error (.config "a raw capture needs a target address and port")) ∨
    (data.startsWith snoopMagic = true ∧ cfg.target.isSome = true ∧
      ∃ out, (analyzeBytes cfg data em).result = .ok out) ∨
    (data.startsWith snoopMagic = false ∧ data.startsWith recordingMagic = true ∧
      ∃ out, (analyzeBytes cfg data em).result = .ok out) := by
  cases hs : data.startsWith snoopMagic with
  | true =>
    rw [analyzeBytes_snoop cfg data em hs]
    cases ht : cfg.target with
    | none =>
      refine Or.inr (Or.inl ⟨rfl, rfl, ?_⟩)
      unfold Analyzer.analyzeCapture
      rw [ht]
    | some target =>
      obtain ⟨em', hres, -⟩ := analyzeCapture_checks ht data em (Analyzer.opening .snoop)
      exact Or.inr (Or.inr (Or.inl ⟨rfl, rfl, _, hres⟩))
  | false =>
    cases hr : data.startsWith recordingMagic with
    | true =>
      rw [analyzeBytes_recording cfg data em hs hr]
      obtain ⟨em', hres, -⟩ := analyzeRecording_checks data em (Analyzer.opening .recording)
      exact Or.inr (Or.inr (Or.inr ⟨rfl, rfl, _, hres⟩))
    | false => exact Or.inl ⟨rfl, rfl, analyzeBytes_unrecognized cfg data em hs hr⟩

/-- An analysis is refused exactly for an unknown kind of input or a capture without a flow, and
otherwise gives a report: writing never fails. -/
theorem analysis_outcome :
    ((∃ text, (analyzeBytes cfg data em).result = .error (.capture (.unrecognized text))) ↔
      data.startsWith snoopMagic = false ∧ data.startsWith recordingMagic = false) ∧
    ((∃ reason, (analyzeBytes cfg data em).result = .error (.config reason)) ↔
      data.startsWith snoopMagic = true ∧ cfg.target = none) ∧
    ((∃ out, (analyzeBytes cfg data em).result = .ok out) ↔
      (data.startsWith snoopMagic = true ∧ cfg.target.isSome = true) ∨
        (data.startsWith snoopMagic = false ∧ data.startsWith recordingMagic = true)) ∧
    (∀ e, (analyzeBytes cfg data em).result ≠ .error (.io e)) ∧
    ∀ target, ∀ d ∈ (cfg.reassembler target).completed (Snoop.scan data).records,
      RtpPacket.parse d.data = .ok d.packet ∧ ∀ δ : UInt16,
        (⟨δ, d.packet⟩ : RecordingFrame).encodedLength = 16 + (d.udp.length.toNat - 20) ∧
        (⟨δ, d.packet⟩ : RecordingFrame).encodedLength ≤ 65531 := by
  have hsized : ∀ target, ∀ d ∈ (cfg.reassembler target).completed (Snoop.scan data).records,
      RtpPacket.parse d.data = .ok d.packet ∧ ∀ δ : UInt16,
        (⟨δ, d.packet⟩ : RecordingFrame).encodedLength = 16 + (d.udp.length.toNat - 20) ∧
        (⟨δ, d.packet⟩ : RecordingFrame).encodedLength ≤ 65531 := by
    intro target d hd
    obtain ⟨h12, hlen⟩ := Reassembler.completed_sized rfl _ d hd
    exact ⟨Datagram.parse_data h12, Datagram.frame_fits hlen⟩
  -- each way of ending fixes the result, and the conditions of the other ways fail
  rcases analyzeBytes_cases cfg data em with ⟨hs, hr, hres⟩ | ⟨hs, ht, hres⟩ |
    ⟨hs, ht, out, hres⟩ | ⟨hs, hr, out, hres⟩
  all_goals refine ⟨?_, ?_, ?_, ?_, hsized⟩
  all_goals simp_all [Option.isSome_iff_ne_none]

end Outcome

end RtpAudit
