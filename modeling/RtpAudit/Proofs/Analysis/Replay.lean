import RtpAudit.Analysis.Analyzer
import RtpAudit.Proofs.Recording.RoundTrip
import RtpAudit.Proofs.Reassembly.Complete
import RtpAudit.Proofs.Stream.Tally

/-! # Replaying a recording reproduces the analysis of its capture

Analysing a snoop capture while writing a session recording, and then analysing that recording,
gives the same report but for what the recording cannot keep. The recording keeps every packet
checked, in order, but stores its spacing clamped to `[0, 65535]` and numbers its frames from 1.
So the replay:

* has every count, the histogram, the elapsed time and the silence counts of the capture's report;
* has the capture's longest spacing, clamped to 65535;
* has its anomalies, less the negative spacings, each at its packet's index;
* writes the same audio.

The proof is a simulation, one packet at a time:

* `Tracker.validate_clamped`: the tracker fed the clamped spacing ends as the tracker fed the
  spacing does, with its longest spacing clamped, and finds the same but a negative spacing;
* `AnalysisContext.observe_replays`: so observing a packet keeps the two runs related
  (`AnalysisContext.Replays`);
* `Analyzer.mirrors_foldlM`: every record of the capture keeps its progress related to the replay
  of the frames written so far (`Analyzer.Mirrors`);
* `replay_recording_faithful` puts these together with `Recording.scan_written`.
-/

namespace RtpAudit

/-! ## One packet at a clamped spacing -/

namespace Histogram

theorem record_congr {c c' : Int} (h : bucketOf c = bucketOf c') (hist : Histogram) :
    hist.record c = hist.record c' := by
  unfold record
  rw [h]

theorem bucketOf_min (c : Int) (hc : 0 ≤ c) : bucketOf (min c 65535) = bucketOf c := by
  unfold bucketOf buckets
  rw [if_neg (by omega), if_neg (by omega)]
  omega

end Histogram

/-- Whether an anomaly survives a replay: every kind but a negative spacing does. -/
def Anomaly.replayable (a : Anomaly) : Bool :=
  a.kind != .negativeDelta

namespace Tracker

/-- The tracker of a replay: the same, with the longest spacing as a recording keeps it. -/
def clamped (t : Tracker) : Tracker :=
  { t with maxDelay := min t.maxDelay 65535 }

theorem ownAnomalies_clamped (p : RtpPacket) (δ : Int) :
    ownAnomalies p (max 0 (min δ 65535)) = (ownAnomalies p δ).filter Anomaly.replayable := by
  unfold ownAnomalies
  have hneg : ¬ max 0 (min δ 65535) < 0 := by omega
  have hkeep : ∀ l : List Anomaly, (∀ a ∈ l, a.kind ≠ .negativeDelta) →
      l.filter Anomaly.replayable = l := fun l hl =>
    List.filter_eq_self.2 fun a ha => by simpa [Anomaly.replayable] using hl a ha
  simp only [List.filter_append, if_neg hneg, List.append_nil]
  -- the unusual-length and version anomalies are kept; the negative spacing is the one dropped
  rw [hkeep _ ?unusual, hkeep _ ?version]
  · by_cases hd : δ < 0 <;> simp [hd, Anomaly.replayable, Anomaly.kind]
  case unusual =>
    intro a ha
    split at ha
    · split at ha
      · rw [List.mem_singleton.1 ha]
        simp [Anomaly.kind]
      · cases ha
    · cases ha
  case version =>
    intro a ha
    split at ha
    · rw [List.mem_singleton.1 ha]
      simp [Anomaly.kind]
    · cases ha

theorem continuityAnomalies_filter (t : Tracker) (p : RtpPacket) :
    (t.continuityAnomalies p).filter Anomaly.replayable = t.continuityAnomalies p := by
  apply List.filter_eq_self.2
  intro a ha
  unfold continuityAnomalies at ha
  split at ha
  · cases ha
  · dsimp only at ha
    split at ha
    · rw [List.mem_singleton.1 ha]
      rfl
    · split at ha
      · rw [List.mem_singleton.1 ha]
        rfl
      · cases ha

/-- At the spacing a recording keeps, a packet is checked alike, but for a negative spacing. -/
theorem validate_clamped (t : Tracker) (p : RtpPacket) (δ : Int) :
    t.clamped.validate p (max 0 (min δ 65535)) =
      ((t.validate p δ).1.clamped,
        { (t.validate p δ).2 with
          delta := min (t.validate p δ).2.delta 65535
          anomalies := (t.validate p δ).2.anomalies.filter Anomaly.replayable }) := by
  have hcounted : (if p.header.isComfortNoise then 0 else max (max 0 (min δ 65535)) 0) =
      min (if p.header.isComfortNoise then (0 : Int) else max δ 0) 65535 := by
    split <;> omega
  have hbucket := Histogram.bucketOf_min (if p.header.isComfortNoise then (0 : Int) else max δ 0)
    (by split <;> omega)
  have hanom : ownAnomalies p (max 0 (min δ 65535)) ++ t.clamped.continuityAnomalies p =
      (ownAnomalies p δ ++ t.continuityAnomalies p).filter Anomaly.replayable := by
    rw [List.filter_append, ownAnomalies_clamped, continuityAnomalies_filter]
    rfl
  -- clamping both before taking the larger is clamping the larger
  have hmax : ∀ c : Int, max (min t.maxDelay 65535) (min c 65535) = min (max t.maxDelay c) 65535 := by
    intro c
    omega
  unfold validate
  simp only [hcounted, Histogram.record_congr hbucket, hanom]
  simp only [clamped, hmax]
  rfl

theorem recordSilence_clamped (t : Tracker) (sc : SilenceScan) :
    t.clamped.recordSilence sc = (t.recordSilence sc).clamped :=
  rfl

end Tracker

/-! ## Two runs related -/

/-- What a replay keeps of the anomalies found: all but the negative spacings, each at its packet's
index, since a recording numbers its frames by the packets written. -/
def AnomalyEvent.replayed (es : List AnomalyEvent) : List AnomalyEvent :=
  (es.filter fun e => e.anomaly.replayable).map fun e => { e with recordIndex := e.packetIndex }

theorem AnomalyEvent.replayed_append (es es' : List AnomalyEvent) :
    replayed (es ++ es') = replayed es ++ replayed es' := by
  simp only [replayed, List.filter_append, List.map_append]

namespace AnalysisContext

/-- The context `ctx'` of a recording's replay against the context `ctx` of the capture it was
written from; the packet clocks are not compared. -/
def Replays (ctx ctx' : AnalysisContext) : Prop :=
  ctx'.tracker = ctx.tracker.clamped ∧
    ctx'.report = { ctx.report with
      format := .recording
      anomalyCounts := AnomalyCounts.ofKinds
        ((AnomalyEvent.replayed ctx.report.events).map (·.anomaly.kind))
      events := AnomalyEvent.replayed ctx.report.events }

theorem replays_start : Replays (start .snoop) (start .recording) :=
  ⟨rfl, rfl⟩

/-- Observing a packet at the clamped spacing keeps a capture's run and its replay related. -/
theorem observe_replays {ctx ctx' : AnalysisContext} (h : Replays ctx ctx') (recordIndex : Nat)
    (p : RtpPacket) (δ : Int) :
    Replays (ctx.observe recordIndex p δ).1
      (ctx'.observe (ctx.tracker.processed + 1) p (max 0 (min δ 65535))).1 := by
  obtain ⟨ht, hr⟩ := h
  -- the anomalies a replay finds on the packet are those it keeps of the capture's
  have hfound : ((ctx.tracker.validate p δ).2.anomalies.filter Anomaly.replayable).map
      (fun a => (⟨ctx.tracker.processed + 1, (ctx.tracker.validate p δ).2.packetIndex, a⟩ :
        AnomalyEvent)) =
      AnomalyEvent.replayed ((ctx.tracker.validate p δ).2.anomalies.map
        fun a => ⟨recordIndex, (ctx.tracker.validate p δ).2.packetIndex, a⟩) := by
    simp only [AnomalyEvent.replayed, List.filter_map, List.map_map]
    rfl
  unfold observe
  rw [ht, Tracker.validate_clamped, hr]
  refine ⟨Tracker.recordSilence_clamped _ _, ?_⟩
  simp only [Report.foldl_note, AnomalyEvent.replayed_append, List.map_append,
    AnomalyCounts.ofKinds_append, ← hfound, List.map_map]
  rfl

end AnalysisContext

/-! ## The outputs a packet touches -/

namespace Emitter

variable (e : Emitter)

theorem writeTimePoint_recording (i : Nat) (m : Bool) (δ : Int) :
    (e.writeTimePoint i m δ).recording = e.recording := by
  unfold writeTimePoint
  split <;> rfl

theorem writeTimePoint_audio (i : Nat) (m : Bool) (δ : Int) :
    (e.writeTimePoint i m δ).audio = e.audio := by
  unfold writeTimePoint
  split <;> rfl

theorem writeAudio_recording (p : RtpPacket) : (e.writeAudio p).recording = e.recording := by
  unfold writeAudio
  split
  · rfl
  · split <;> rfl

theorem writeAudio_audio_congr {e e' : Emitter} (h : e.audio = e'.audio) (p : RtpPacket) :
    (e.writeAudio p).audio = (e'.writeAudio p).audio := by
  unfold writeAudio
  rw [h]
  cases ha : e'.audio with
  | none => exact h
  | some w =>
    dsimp only
    split <;> rfl

theorem writeRecording_eq_ok {e' : Emitter} {w : RecordingWriter} {δ : Int} {p : RtpPacket}
    (hw : e.recording = some w) (h : e.writeRecording δ p = .ok e') :
    ∃ w', w.writeFrame ⟨RecordingWriter.clampDelta δ, p⟩ = .ok w' ∧ e'.recording = some w' ∧
      e'.audio = e.audio := by
  unfold writeRecording at h
  rw [hw] at h
  dsimp only at h
  cases hwp : w.writePacket δ p with
  | error err =>
    rw [hwp] at h
    cases h
  | ok w' =>
    rw [hwp] at h
    cases h
    exact ⟨w', hwp, rfl, rfl⟩

end Emitter

namespace Analyzer

/-- The progress of analysing a recording whose frames are `frames`, from `start`. -/
def replay (start : Progress) (frames : List RecordingFrame) : Progress :=
  frames.zipIdx.foldl (fun s (f, i) => recordingFrame s i f) start

theorem replay_snoc (start : Progress) (frames : List RecordingFrame) (f : RecordingFrame) :
    replay start (frames ++ [f]) = recordingFrame (replay start frames) frames.length f := by
  simp [replay, List.zipIdx_append, List.foldl_append]

/-- The progress `s` of a capture's analysis against the replay, from `start`, of the frames it
wrote. -/
structure Mirrors (start s : Progress) (frames : List RecordingFrame) : Prop where
  recording : ∃ w, s.emitter.recording = some w ∧
    w.data.toList = Recording.fileHeader ++ frames.flatMap RecordingFrame.bytes
  fits : ∀ f ∈ frames, f.encodedLength < 65536
  counted : s.ctx.tracker.processed = frames.length
  replays : s.ctx.Replays (replay start frames).ctx
  audio : s.emitter.audio = (replay start frames).emitter.audio

variable {start s s' : Progress} {frames : List RecordingFrame}

theorem Mirrors.congr (hm : Mirrors start s frames) (hc : s'.ctx = s.ctx)
    (he : s'.emitter = s.emitter) : Mirrors start s' frames where
  recording := he ▸ hm.recording
  fits := hm.fits
  counted := hc ▸ hm.counted
  replays := hc ▸ hm.replays
  audio := he ▸ hm.audio

theorem capturePacket_eq_ok {recordIndex : Nat} {time : CaptureTime} {p : RtpPacket}
    (h : capturePacket s recordIndex time p = .ok s') :
    ∃ e, s.emitter.writeRecording (s.ctx.clock.tick time).2 p = .ok e ∧
      s'.ctx = ({ s.ctx with clock := (s.ctx.clock.tick time).1 }.observe recordIndex p
        (s.ctx.clock.tick time).2).1 ∧
      s'.emitter.recording = e.recording ∧ s'.emitter.audio = (e.writeAudio p).audio := by
  unfold capturePacket at h
  cases htick : s.ctx.clock.tick time with
  | mk clock δ =>
    rw [htick] at h
    dsimp only at h
    cases hw : s.emitter.writeRecording δ p with
    | error err =>
      rw [hw] at h
      cases h
    | ok e =>
      rw [hw] at h
      cases h
      exact ⟨e, rfl, rfl, (Emitter.writeAudio_recording _ _).trans
        (Emitter.writeTimePoint_recording _ _ _ _),
        Emitter.writeAudio_audio_congr (Emitter.writeTimePoint_audio _ _ _ _) p⟩

/-- A packet keeps the capture's progress related to the replay, one frame further on. -/
theorem Mirrors.capturePacket (hm : Mirrors start s frames) {recordIndex : Nat} {time : CaptureTime}
    {p : RtpPacket} (h : capturePacket s recordIndex time p = .ok s') :
    Mirrors start s' (frames ++ [⟨RecordingWriter.clampDelta (s.ctx.clock.tick time).2, p⟩]) := by
  obtain ⟨e, hw, hctx, hrec, haudio⟩ := capturePacket_eq_ok h
  obtain ⟨w, hsw, hdata⟩ := hm.recording
  obtain ⟨w', hframe, hew, heaudio⟩ := Emitter.writeRecording_eq_ok s.emitter hsw hw
  obtain ⟨hfit, hdata', -⟩ := RecordingWriter.writeFrame_eq_ok hframe
  refine ⟨⟨w', hrec.trans hew, ?_⟩, ?_, ?_, ?_, ?_⟩
  · rw [hdata', hdata, List.flatMap_append, List.flatMap_singleton, List.append_assoc]
  · exact List.forall_mem_append.2 ⟨hm.fits, List.forall_mem_singleton.2 hfit⟩
  · rw [hctx, List.length_append, List.length_singleton, ← hm.counted]
    rfl
  · rw [hctx, replay_snoc]
    unfold recordingFrame
    dsimp only
    rw [RecordingWriter.clampDelta_toNat, ← hm.counted]
    exact AnalysisContext.observe_replays hm.replays _ _ _
  · rw [haudio, replay_snoc]
    exact Emitter.writeAudio_audio_congr (heaudio.trans hm.audio) p

theorem progress_of_ok {ε : Type} {s s' : Progress} {r r' : Reassembler} {events : Array Event}
    (h : (Except.ok (⟨s.ctx, s.emitter, events⟩, r) : Except ε (Progress × Reassembler)) =
      .ok (s', r')) :
    s'.ctx = s.ctx ∧ s'.emitter = s.emitter := by
  simp only [Except.ok.injEq, Prod.mk.injEq] at h
  obtain ⟨rfl, -⟩ := h
  exact ⟨rfl, rfl⟩

theorem captureRecord_eq_ok {r r' : Reassembler} {rec : SnoopRecord}
    (h : captureRecord (s, r) rec = .ok (s', r')) :
    (s'.ctx = s.ctx ∧ s'.emitter = s.emitter) ∨
      ∃ s₀ recordIndex time p, s₀.ctx = s.ctx ∧ s₀.emitter = s.emitter ∧
        capturePacket s₀ recordIndex time p = .ok s' := by
  unfold captureRecord at h
  dsimp only at h
  generalize r.push rec = step at h
  -- only a completed datagram that decodes as RTP reaches the packet's handling
  cases ho : step.outcome with
  | complete d =>
    rw [ho] at h
    dsimp only at h
    cases hp : RtpPacket.parse d.data with
    | error err =>
      rw [hp] at h
      exact .inl (progress_of_ok h)
    | ok p =>
      rw [hp] at h
      dsimp only at h
      split at h
      · rename_i s₂ hpacket
        simp only [Except.ok.injEq, Prod.mk.injEq] at h
        obtain ⟨rfl, -⟩ := h
        refine .inr ⟨_, d.recordIndex, d.time, p, ?_, ?_, hpacket⟩ <;> rfl
      · cases h
  | pending =>
    rw [ho] at h
    exact .inl (progress_of_ok h)
  | skipped reason =>
    rw [ho] at h
    exact .inl (progress_of_ok h)
  | abandoned m =>
    rw [ho] at h
    exact .inl (progress_of_ok h)

/-- Every record of a capture keeps its progress related to the replay of what it wrote. -/
theorem mirrors_foldlM :
    ∀ (recs : List SnoopRecord) (s : Progress) (r : Reassembler) (frames : List RecordingFrame)
      (s' : Progress) (r' : Reassembler), Mirrors start s frames →
      recs.foldlM captureRecord (s, r) = .ok (s', r') → ∃ frames', Mirrors start s' frames'
  | [], s, r, frames, s', r', hm, h => by
    cases h
    exact ⟨frames, hm⟩
  | rec :: recs, s, r, frames, s', r', hm, h => by
    rw [List.foldlM_cons] at h
    cases hrec : captureRecord (s, r) rec with
    | error err =>
      rw [hrec] at h
      cases h
    | ok next =>
      obtain ⟨s₁, r₁⟩ := next
      rw [hrec] at h
      -- the record either leaves the run as it was or writes and checks one packet
      rcases captureRecord_eq_ok hrec with ⟨hc, he⟩ | ⟨s₀, _, _, _, hc, he, hpacket⟩
      · exact mirrors_foldlM recs s₁ r₁ frames s' r' (hm.congr hc he) h
      · exact mirrors_foldlM recs s₁ r₁ _ s' r' ((hm.congr hc he).capturePacket hpacket) h

theorem analyzeCapture_eq_ok {cfg : AnalyzerConfig} {data : Bytes} {em : Emitter}
    {events : Array Event} {R : Report} {em₁ : Emitter}
    (h : (analyzeCapture cfg data em events).result = .ok (R, em₁)) :
    ∃ target s r, cfg.target = some target ∧
      (Snoop.scan data).records.foldlM captureRecord
          ({ ctx := .start .snoop, emitter := em, events },
            { target, expectedPayload := cfg.expectedPayload, maxDatagram := cfg.maxDatagram }) =
        .ok (s, r) ∧
      em₁ = s.emitter ∧
      R = ({ s.ctx with report := { s.ctx.report with
        totalRecords := (Snoop.scan data).records.length, stop := (Snoop.scan data).stop,
        reassembly := some r.stats } } : AnalysisContext).finish := by
  unfold analyzeCapture at h
  cases ht : cfg.target with
  | none =>
    rw [ht] at h
    cases h
  | some target =>
    rw [ht] at h
    dsimp only at h
    cases hf : (Snoop.scan data).records.foldlM captureRecord
        ({ ctx := .start .snoop, emitter := em, events },
          { target, expectedPayload := cfg.expectedPayload, maxDatagram := cfg.maxDatagram }) with
    | error err =>
      rw [hf] at h
      cases h
    | ok res =>
      obtain ⟨s, r⟩ := res
      rw [hf] at h
      simp only [Except.ok.injEq, Prod.mk.injEq] at h
      obtain ⟨rfl, rfl⟩ := h
      exact ⟨target, s, r, rfl, hf, rfl, rfl⟩

/-- Where the analysis of a session recording starts, with the outputs `em`. -/
def recordingStart (em : Emitter) : Progress :=
  { ctx := .start .recording, emitter := em,
    events := #[Event.info ("input is a " ++ CaptureFormat.recording.name ++ " file")] }

/-- The report at the end of the replay `s` of `n` frames read to the end. -/
def replayReport (s : Progress) (n : Nat) : Report :=
  ({ s.ctx with report := { s.ctx.report with totalRecords := n, stop := none } } :
    AnalysisContext).finish

/-- A recording of frames that fit their length field is analysed as the replay of those frames. -/
theorem analyzeBytes_written (cfg : AnalyzerConfig) (frames : List RecordingFrame)
    (hfit : ∀ f ∈ frames, f.encodedLength < 65536) (em : Emitter) :
    (analyzeBytes cfg (Recording.fileHeader ++ frames.flatMap RecordingFrame.bytes) em).result =
      .ok (replayReport (replay (recordingStart em) frames) frames.length,
        (replay (recordingStart em) frames).emitter) := by
  unfold analyzeBytes
  rw [CaptureFormat.classify_fileHeader]
  unfold analyzeRecording
  rw [Recording.scan_written frames hfit]
  rfl

theorem mirrors_start {em em' : Emitter} (hrec : em.recording = some {})
    (haudio : em'.audio = em.audio) (events : Array Event) :
    Mirrors (recordingStart em') { ctx := .start .snoop, emitter := em, events } [] where
  recording := ⟨{}, hrec, by simp [Recording.fileHeader]⟩
  fits f hf := absurd hf List.not_mem_nil
  counted := rfl
  replays := AnalysisContext.replays_start
  audio := haudio.symm

end Analyzer

open Analyzer in
/-- The recording written while analysing a snoop capture analyses to the capture's report, but for
what a recording cannot keep, and writes the same audio. -/
theorem replay_recording_faithful {cfg cfg' : AnalyzerConfig} {capture : Bytes} {em em' : Emitter}
    (hsnoop : CaptureFormat.classify capture = .ok .snoop) (hrec : em.recording = some {})
    (haudio : em'.audio = em.audio) {R₁ : Report} {em₁ : Emitter}
    (h₁ : (analyzeBytes cfg capture em).result = .ok (R₁, em₁)) {B : Bytes}
    (hB : em₁.recordingFile = some B) :
    ∃ R₂ em₂, (analyzeBytes cfg' B em').result = .ok (R₂, em₂) ∧
      R₂.format = .recording ∧ R₂.stop = none ∧ R₂.totalRecords = R₁.processed ∧
      R₂.processed = R₁.processed ∧ R₂.histogram = R₁.histogram ∧
      R₂.totalElapsed = R₁.totalElapsed ∧ R₂.silencePackets = R₁.silencePackets ∧
      R₂.nonSilencePackets = R₁.nonSilencePackets ∧ R₂.maxDelay = min R₁.maxDelay 65535 ∧
      R₂.events = (R₁.events.filter fun e => e.anomaly.kind != .negativeDelta).map
        (fun e => { e with recordIndex := e.packetIndex }) ∧
      em₂.audioFile = em₁.audioFile := by
  unfold analyzeBytes at h₁
  rw [hsnoop] at h₁
  dsimp only at h₁
  obtain ⟨target, s, r, -, hfold, rfl, hR₁⟩ := analyzeCapture_eq_ok h₁
  -- every record of the capture keeps its progress related to the replay of what it wrote
  obtain ⟨frames, hm⟩ := mirrors_foldlM _ _ _ [] s r (mirrors_start hrec haudio _) hfold
  obtain ⟨w, hw, hdata⟩ := hm.recording
  have hB' : B = Recording.fileHeader ++ frames.flatMap RecordingFrame.bytes := by
    unfold Emitter.recordingFile at hB
    rw [hw, Option.map_some, Option.some.injEq] at hB
    rw [← hB, hdata]
  subst hB'
  -- the replay's report is the capture's, but for what a recording cannot keep
  have hR₂ : replayReport (replay (recordingStart em') frames) frames.length =
      { R₁ with
        format := .recording
        totalRecords := frames.length
        stop := none
        reassembly := s.ctx.report.reassembly
        maxDelay := min R₁.maxDelay 65535
        anomalyCounts := AnomalyCounts.ofKinds ((AnomalyEvent.replayed R₁.events).map (·.anomaly.kind))
        events := AnomalyEvent.replayed R₁.events } := by
    obtain ⟨htracker, hreport⟩ := hm.replays
    rw [hR₁]
    unfold replayReport AnalysisContext.finish Report.absorb
    rw [htracker, hreport]
    rfl
  refine ⟨_, _, analyzeBytes_written cfg' frames hm.fits em', ?_⟩
  rw [hR₂]
  refine ⟨rfl, rfl, ?_, rfl, rfl, rfl, rfl, rfl, rfl, rfl, ?_⟩
  · rw [← hm.counted, hR₁]
    rfl
  · unfold Emitter.audioFile
    rw [← hm.audio]

namespace Sample

/-- A snoop file header: the magic, version 2 and Ethernet links. -/
def snoopHeader : Bytes :=
  CaptureFormat.snoopMagic ++ [0, 0, 0] ++ Bytes.ofU32 2 ++ Bytes.ofU32 4

/-- A snoop record of the whole of `frame`, captured at `secs` and `micros`, padded to a multiple
of four bytes. -/
def snoopRecord (secs micros : UInt32) (frame : Bytes) : Bytes :=
  Bytes.ofU32 frame.length.toUInt32 ++ Bytes.ofU32 frame.length.toUInt32 ++
    Bytes.ofU32 (Snoop.descriptorLength + frame.length).toUInt32 ++ Bytes.ofU32 0 ++
    Bytes.ofU32 secs ++ Bytes.ofU32 micros ++ frame ++
    List.replicate (Snoop.advance (Snoop.descriptorLength + frame.length) -
      (Snoop.descriptorLength + frame.length)) 0

/-- A capture of the sample datagram, unfragmented, in one record. -/
def capture : Bytes :=
  snoopHeader ++ snoopRecord 5 30 wholeRecord.frame

end Sample

open Analyzer in
/-- The sample datagram captured whole and analysed while recording is checked once, and its
recording replays as one frame. -/
theorem sample_replay_faithful :
    ∃ R₁ em₁ B, (analyzeBytes { target := some Sample.target } Sample.capture
        { recording := some {} }).result = .ok (R₁, em₁) ∧ R₁.processed = 1 ∧
      em₁.recordingFile = some B ∧
      ∃ R₂ em₂, (analyzeBytes {} B {}).result = .ok (R₂, em₂) ∧ R₂.totalRecords = 1 := by
  have hprocessed : ((analyzeBytes { target := some Sample.target } Sample.capture
      { recording := some {} }).result.toOption.map (·.1.processed)) = some 1 := by
    decide +kernel
  have hwritten : ((analyzeBytes { target := some Sample.target } Sample.capture
      { recording := some {} }).result.toOption.bind (·.2.recordingFile)).isSome = true := by
    decide +kernel
  cases h₁ : (analyzeBytes { target := some Sample.target } Sample.capture
      { recording := some {} }).result with
  | error e =>
    rw [h₁] at hprocessed
    cases hprocessed
  | ok res =>
    obtain ⟨R₁, em₁⟩ := res
    rw [h₁] at hprocessed hwritten
    simp only [Except.toOption, Option.map_some, Option.some.injEq, Option.bind_some]
      at hprocessed hwritten
    obtain ⟨B, hB⟩ := Option.isSome_iff_exists.1 hwritten
    obtain ⟨R₂, em₂, h₂, -, -, htotal, -⟩ :=
      @replay_recording_faithful _ {} Sample.capture { recording := some {} } {} rfl rfl rfl _ _ h₁ _ hB
    exact ⟨R₁, em₁, B, rfl, hprocessed, hB, R₂, em₂, h₂, htotal.trans hprocessed⟩

end RtpAudit
