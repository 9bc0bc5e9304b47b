import RtpAudit.Proofs.Analysis.Lockstep

/-! # Every index and counter of an analysis stays in range

Each cut, narrowing and subtraction of an analysis is safe because of a check made before it,
often in another function:

* a snoop record's frame is read whole from after its descriptor, within the input
  (`Snoop.scan_in_bounds`), and each record takes at least a descriptor (`Snoop.scan_length`);
  a recording frame takes at least its header and fits its 16-bit length field
  (`RecordingFrame.decode_fits`, `Recording.scan_frames`);
* a decoded IPv4 packet's payload lies between its header and its total length, at most 65515
  bytes at an offset of 13 bits (`Ipv4Packet.parse_bounds`);
* a datagram in flight declares room for an RTP header and expects its next fragment at an offset
  from 1 to 16380 units, so the offset fits 16 bits and a continuation never lands before the UDP
  data (`Reassembler.Bounded`, `Reassembler.feed_bounded`);
* the time between two records is within about ±4.3e15 µs, so rounding it to milliseconds in
  64-bit arithmetic never overflows (`millisOfMicros64_microsSince`);
* a report's counters are bounded by the packets checked, and those by the input's length
  (`Report.ofChecked_counters`).
-/

namespace RtpAudit

/-! ## Reading captures -/

namespace Snoop

theorem recordAt_whole {rest : Bytes} (h : descriptorFault? rest = none) (index offset : Nat) :
    (recordAt index offset rest).frame.length = (Bytes.u32At rest 4).toNat ∧
      descriptorLength + (Bytes.u32At rest 4).toNat ≤ rest.length ∧
      descriptorLength ≤ advance (Bytes.u32At rest 8).toNat := by
  unfold descriptorFault? at h
  split at h
  · cases h
  · rename_i hshort
    dsimp only at h
    split at h
    · cases h
    · split at h
      · cases h
      · split at h
        · cases h
        · rename_i hzero hsmall hpast
          refine ⟨?_, by omega, by unfold advance; omega⟩
          simp only [recordAt, List.length_take, List.length_drop]
          omega

theorem scanFrom_records_nil {read offset : Nat} {rest : Bytes}
    (h : rest = [] ∨ ∃ reason, descriptorFault? rest = some reason) :
    (scanFrom read offset rest).records = [] := by
  cases rest with
  | nil => rw [scanFrom]
  | cons b bs =>
    obtain ⟨reason, hfault⟩ := h.resolve_left (List.cons_ne_nil b bs)
    rw [scanFrom]
    split
    · rfl
    · rename_i hnone
      rw [hfault] at hnone
      cases hnone

theorem scanFrom_trusted {read offset : Nat} {b : UInt8} {bs : Bytes}
    (h : descriptorFault? (b :: bs) = none) :
    scanFrom read offset (b :: bs) =
      ⟨recordAt (read + 1) offset (b :: bs) ::
          (scanFrom (read + 1) (offset + advance (Bytes.u32At (b :: bs) 8).toNat)
            ((b :: bs).drop (advance (Bytes.u32At (b :: bs) 8).toNat))).records,
        (scanFrom (read + 1) (offset + advance (Bytes.u32At (b :: bs) 8).toNat)
          ((b :: bs).drop (advance (Bytes.u32At (b :: bs) 8).toNat))).stop⟩ := by
  rw [scanFrom]
  split
  · rename_i reason hsome
    rw [h] at hsome
    cases hsome
  · rfl

theorem scanFrom_in_bounds (data : Bytes) (read offset : Nat) (rest : Bytes)
    (hrest : rest = data.drop offset) :
    ∀ rec ∈ (scanFrom read offset rest).records,
      rec.frame.length = (Bytes.u32At (data.drop rec.offset) 4).toNat ∧
        rec.offset + descriptorLength + rec.frame.length ≤ data.length := by
  induction read, offset, rest using scanFrom.induct with
  | case1 read offset =>
    rw [scanFrom_records_nil (.inl rfl)]
    exact fun _ hrec => absurd hrec List.not_mem_nil
  | case2 read offset b bs reason hfault =>
    rw [scanFrom_records_nil (.inr ⟨reason, hfault⟩)]
    exact fun _ hrec => absurd hrec List.not_mem_nil
  | case3 read offset b bs hfault step ih =>
    simp only [step] at ih
    obtain ⟨hframe, hfits, -⟩ := recordAt_whole hfault (read + 1) offset
    have hlen : (b :: bs).length = data.length - offset := by rw [hrest, List.length_drop]
    rw [scanFrom_trusted hfault]
    intro rec hrec
    rcases List.mem_cons.1 hrec with rfl | hlater
    · -- the record at `offset`, read from the bytes there
      refine ⟨?_, ?_⟩
      · show _ = (Bytes.u32At (data.drop offset) 4).toNat
        rw [hframe, ← hrest]
      show offset + descriptorLength + (recordAt (read + 1) offset (b :: bs)).frame.length ≤ _
      have hpos : 0 < (b :: bs).length := Nat.succ_pos _
      omega
    · -- the later records, read from past this one's advance
      exact ih (by rw [hrest, List.drop_drop]) rec hlater

theorem scanFrom_length (read offset : Nat) (rest : Bytes) :
    descriptorLength * (scanFrom read offset rest).records.length ≤ rest.length := by
  induction read, offset, rest using scanFrom.induct with
  | case1 read offset =>
    rw [scanFrom_records_nil (.inl rfl)]
    exact Nat.zero_le _
  | case2 read offset b bs reason hfault =>
    rw [scanFrom_records_nil (.inr ⟨reason, hfault⟩)]
    exact Nat.zero_le _
  | case3 read offset b bs hfault step ih =>
    simp only [step] at ih
    obtain ⟨-, hfits, hstep⟩ := recordAt_whole hfault (read + 1) offset
    rw [scanFrom_trusted hfault]
    simp only [List.length_cons, Nat.mul_succ]
    -- past the end, nothing more is read; otherwise the rest is shorter by the advance
    by_cases hend : (b :: bs).length ≤ advance (Bytes.u32At (b :: bs) 8).toNat
    · rw [List.drop_eq_nil_of_le hend, scanFrom_records_nil (.inl rfl), List.length_nil,
        Nat.mul_zero, Nat.zero_add]
      simp only [List.length_cons] at hfits
      omega
    · rw [List.length_drop] at ih
      simp only [List.length_cons] at ih hfits hend
      unfold descriptorLength at ih hfits hstep ⊢
      omega

/-- Every record of a capture has its frame whole, after its descriptor, within the capture. -/
theorem scan_in_bounds (data : Bytes) :
    ∀ rec ∈ (scan data).records,
      rec.frame.length = (Bytes.u32At (data.drop rec.offset) 4).toNat ∧
        rec.offset + descriptorLength + rec.frame.length ≤ data.length := by
  unfold scan
  by_cases hshort : data.length ≤ fileHeaderLength
  · -- a capture no longer than its header has no records
    rw [List.drop_eq_nil_of_le hshort, scanFrom_records_nil (.inl rfl)]
    exact fun _ hrec => absurd hrec List.not_mem_nil
  · rw [Nat.min_eq_left (by omega)]
    exact scanFrom_in_bounds data 0 _ _ rfl

theorem scan_length (data : Bytes) : descriptorLength * (scan data).records.length ≤ data.length :=
  Nat.le_trans (scanFrom_length _ _ _) (by rw [List.length_drop]; exact Nat.sub_le _ _)

end Snoop

theorem RecordingFrame.decode_fits {data : Bytes} {f : RecordingFrame} {k : Nat}
    (h : RecordingFrame.decode data = .ok (f, k)) : f.encodedLength = k ∧ k < 65536 := by
  obtain ⟨hk, hhead, hle, rfl⟩ := decode_eq_ok.1 h
  refine ⟨?_, hk ▸ (Bytes.u16At data 0).toNat_lt⟩
  simp only [encodedLength, RtpPacket.payloadLength, List.length_drop, List.length_take]
  unfold headerLength at hhead ⊢
  omega

namespace Recording

theorem scanFrom_frames_nil {read offset : Nat} {rest : Bytes}
    (h : rest = [] ∨ ∃ e, RecordingFrame.decode rest = .error e) :
    (scanFrom read offset rest).frames = [] := by
  cases rest with
  | nil => rw [scanFrom]
  | cons b bs =>
    obtain ⟨e, herr⟩ := h.resolve_left (List.cons_ne_nil b bs)
    rw [scanFrom]
    split
    · rfl
    · rename_i frame used hok
      rw [herr] at hok
      cases hok

theorem scanFrom_decoded {read offset : Nat} {b : UInt8} {bs : Bytes} {frame : RecordingFrame}
    {used : Nat} (h : RecordingFrame.decode (b :: bs) = .ok (frame, used)) :
    scanFrom read offset (b :: bs) =
      ⟨frame :: (scanFrom (read + 1) (offset + used) ((b :: bs).drop used)).frames,
        (scanFrom (read + 1) (offset + used) ((b :: bs).drop used)).stop⟩ := by
  rw [scanFrom]
  split
  · rename_i e herr
    rw [h] at herr
    cases herr
  · rename_i frame' used' hok
    rw [h] at hok
    simp only [Except.ok.injEq, Prod.mk.injEq] at hok
    obtain ⟨rfl, rfl⟩ := hok
    rfl

/-- Each frame read fits its length field and takes at least a frame header. -/
theorem scanFrom_frames (read offset : Nat) (rest : Bytes) :
    (∀ f ∈ (scanFrom read offset rest).frames, f.encodedLength < 65536) ∧
      RecordingFrame.headerLength * (scanFrom read offset rest).frames.length ≤ rest.length := by
  induction read, offset, rest using scanFrom.induct with
  | case1 read offset =>
    rw [scanFrom_frames_nil (.inl rfl)]
    exact ⟨fun _ hf => absurd hf List.not_mem_nil, Nat.zero_le _⟩
  | case2 read offset b bs e herr =>
    rw [scanFrom_frames_nil (.inr ⟨e, herr⟩)]
    exact ⟨fun _ hf => absurd hf List.not_mem_nil, Nat.zero_le _⟩
  | case3 read offset b bs frame used hok ih =>
    obtain ⟨hfits, hlater⟩ := ih
    obtain ⟨hlen, hsmall⟩ := RecordingFrame.decode_fits hok
    have hused := RecordingFrame.decode_consumed hok
    rw [scanFrom_decoded hok]
    refine ⟨?_, ?_⟩
    · intro f hf
      rcases List.mem_cons.1 hf with rfl | hf
      · omega
      · exact hfits f hf
    · rw [List.length_drop] at hlater
      simp only [List.length_cons, Nat.mul_succ, RecordingFrame.headerLength, RtpHeader.length]
        at hlater hused ⊢
      omega

theorem scan_frames (data : Bytes) :
    (∀ f ∈ (scan data).frames, f.encodedLength < 65536) ∧
      RecordingFrame.headerLength * (scan data).frames.length ≤ data.length := by
  obtain ⟨hfits, hlen⟩ := scanFrom_frames 0 (min fileHeaderLength data.length)
    (data.drop fileHeaderLength)
  exact ⟨hfits, Nat.le_trans hlen (by rw [List.length_drop]; exact Nat.sub_le _ _)⟩

end Recording

/-! ## Decoding packets -/

/-- A decoded IPv4 packet's payload lies after a header of at least twenty bytes and ends at the
total length, which the bytes cover; its offset has thirteen bits. -/
theorem Ipv4Packet.parse_bounds {data : Bytes} {ip : Ipv4Packet} (h : Ipv4Packet.parse data = .ok ip) :
    Ipv4Packet.fixedHeaderLength + ip.payload.length ≤ ip.totalLength.toNat ∧
      ip.totalLength.toNat ≤ data.length ∧ ip.fragmentOffset.toNat ≤ 8191 ∧
      ∃ hdr, Etherparse.Ipv4HeaderSlice.fromSlice data = .ok hdr ∧
        hdr.slice.length = 4 * hdr.ihl ∧ 4 * hdr.ihl ≤ ip.totalLength.toNat := by
  obtain ⟨hdr, hs, hcover, hwithin, rfl⟩ := Ipv4Packet.parse_eq_ok.1 h
  have hfixed := hdr.minLen_le
  refine ⟨?_, hwithin, ?_, hdr, hs, hdr.slice_length, by rw [← hdr.slice_length]; exact hcover⟩
  · -- the payload is what lies between the header and the total length
    simp only [List.length_drop, List.length_take, Ipv4Packet.fixedHeaderLength]
    unfold Etherparse.Ipv4HeaderSlice.minLen at hfixed
    omega
  · show (Bytes.u16At hdr.slice 6 &&& 0x1FFF).toNat ≤ 8191
    rw [UInt16.toNat_and]
    exact Nat.and_le_right

/-! ## Reassembly arithmetic -/

namespace Reassembler

variable {r : Reassembler} {ip : Ipv4Packet} {s : Slot}

/-- The datagram in flight, if any, declares room for an RTP header and expects its next fragment
at most 16380 units in. -/
def Bounded (r : Reassembler) : Prop :=
  ∀ s, r.slot = some s → RtpHeader.length ≤ s.declared ∧ s.nextOffset ≤ 16380

theorem slotAfter_bounds (hb : r.Bounded) (h : r.slotAfter? ip = some s) :
    s.nextOffset = ip.fragmentOffset.toNat ∧ RtpHeader.length ≤ s.declared := by
  unfold slotAfter? at h
  split at h
  · cases h
  · rename_i hoff
    split at h
    · -- a first fragment opens a slot at offset zero
      rename_i h0
      unfold Slot.start? at h
      split at h
      · cases h
      · split at h
        · cases h
        · split at h
          · rename_i hok
            cases h
            exact ⟨h0.symm, hok.1⟩
          · cases h
    · -- a continuation keeps the slot's offset, which is the one it carries
      obtain ⟨s₀, hs₀, hext⟩ := Option.bind_eq_some_iff.1 h
      have hexpected : r.expectedOffset = s₀.nextOffset := by simp only [expectedOffset, hs₀]
      unfold Slot.extend? at hext
      split at hext
      · cases hext
        exact ⟨by simp only; omega, (hb s₀ hs₀).1⟩
      · cases hext

theorem push_bounded (hb : r.Bounded) (rec : SnoopRecord) : (r.push rec).next.Bounded := by
  intro s hs
  cases hk : r.target.screen rec with
  | error reason =>
    obtain ⟨-, hslot, -⟩ := push_screened_out hk
    exact hb s (hslot ▸ hs)
  | ok ip =>
    cases h : r.slotAfter? ip with
    | none =>
      obtain ⟨-, hnext, -⟩ := push_refused hk h
      rcases hnext with hnone | ⟨hsame, -⟩
      · rw [hnone] at hs
        cases hs
      · exact hb s (hsame ▸ hs)
    | some s' =>
      cases hm : ip.moreFragments with
      | true =>
        -- the next offset is this fragment's (13 bits) and its whole units (at most 65515 bytes)
        obtain ⟨-, hnext, -⟩ := push_more hk h hm
        rw [hnext, Option.some.injEq] at hs
        subst hs
        obtain ⟨hat, hdecl⟩ := slotAfter_bounds hb h
        obtain ⟨-, hparse, -, -⟩ := FlowTarget.screen_eq_ok.1 hk
        obtain ⟨hpayload, htotal, hfrag, -⟩ := Ipv4Packet.parse_bounds hparse
        have hword := ip.totalLength.toNat_lt
        refine ⟨hdecl, ?_⟩
        simp only [Slot.advance, Ipv4Packet.fixedHeaderLength] at hpayload ⊢
        omega
      | false =>
        rw [(push_last hk h hm).1] at hs
        cases hs

theorem feed_length (r : Reassembler) (recs : List SnoopRecord) : (r.feed recs).length = recs.length := by
  induction recs generalizing r with
  | nil => rfl
  | cons rec recs ih => rw [feed, List.length_cons, List.length_cons, ih]

/-- Every step of a run keeps the state bounded and expecting continuations past offset zero. -/
theorem feed_bounded (hb : r.Bounded) (he : r.Expecting) (recs : List SnoopRecord) :
    ∀ step ∈ r.feed recs, step.next.Bounded ∧ step.next.Expecting := by
  induction recs generalizing r with
  | nil => exact fun _ hstep => absurd hstep List.not_mem_nil
  | cons rec recs ih =>
    intro step hstep
    rcases List.mem_cons.1 hstep with rfl | hlater
    · exact ⟨push_bounded hb rec, push_expecting he rec⟩
    · exact ih (push_bounded hb rec) (push_expecting he rec) step hlater

end Reassembler

/-! ## Spacing -/

/-- Two capture times are at most 2³² - 1 seconds and 2³² - 1 microseconds apart. -/
theorem CaptureTime.microsSince_natAbs_le (t prev : CaptureTime) :
    (t.microsSince prev).natAbs ≤ 4294971589967295 := by
  have := t.secs.toNat_lt
  have := prev.secs.toNat_lt
  have := t.micros.toNat_lt
  have := prev.micros.toNat_lt
  unfold CaptureTime.microsSince
  omega

theorem millisOfMicros64_microsSince (t prev : CaptureTime) :
    millisOfMicros64 (t.microsSince prev) = .ok (millisOfMicros (t.microsSince prev)) := by
  have hbound := CaptureTime.microsSince_natAbs_le t prev
  have hpow : Nat.pow 2 63 = 9223372036854775808 := rfl
  unfold millisOfMicros64
  rw [if_pos (by rw [hpow]; omega)]

/-! ## Counters -/

namespace Histogram

theorem count_le_total (h : Histogram) (b : Nat) : h.count b ≤ h.total := by
  have hlist : ∀ (l : List Nat) (b : Nat), l.getD b 0 ≤ l.foldl (· + ·) 0 := by
    intro l
    induction l with
    | nil => intro b; exact Nat.zero_le _
    | cons x xs ih =>
      intro b
      rw [List.foldl_cons, foldl_add_init]
      cases b with
      | zero =>
        show x ≤ _
        omega
      | succ b =>
        have hrest := ih b
        show xs.getD b 0 ≤ _
        omega
  unfold count total
  rw [← Array.foldl_toList, Array.getD_eq_getD_getElem?, ← Array.getElem?_toList,
    ← List.getD_eq_getElem?_getD]
  exact hlist _ b

end Histogram

theorem AnalysisContext.observe_totalElapsed (ctx : AnalysisContext) (i : Nat) (p : RtpPacket)
    (δ : Int) : (ctx.observe i p δ).1.tracker.totalElapsed ≤ ctx.tracker.totalElapsed + 499 := by
  rw [AnalysisContext.observe_tracker]
  have hbucket := Histogram.bucketOf_lt (if p.header.isComfortNoise then 0 else max δ 0)
  unfold Histogram.buckets at hbucket
  show (if !ctx.tracker.comfortPending || p.header.isComfortNoise then
      ctx.tracker.totalElapsed + Histogram.bucketOf (if p.header.isComfortNoise then 0 else max δ 0)
    else ctx.tracker.totalElapsed) ≤ _
  split <;> omega

theorem AnalysisContext.observeAll_totalElapsed (ctx : AnalysisContext)
    (xs : List (Nat × RtpPacket × Int)) :
    (ctx.observeAll xs).tracker.totalElapsed ≤ ctx.tracker.totalElapsed + 499 * xs.length := by
  induction xs generalizing ctx with
  | nil => exact Nat.le_add_right _ _
  | cons x xs ih =>
    obtain ⟨i, p, δ⟩ := x
    have hstep := ctx.observe_totalElapsed i p δ
    have hrest := ih (ctx.observe i p δ).1
    rw [observeAll, List.length_cons, Nat.mul_succ]
    omega

theorem Report.ofChecked_counters (format : CaptureFormat) (xs : List (Nat × RtpPacket × Int))
    (total : Nat) (stop : Option CaptureError) (stats : Option ReassemblyStats) :
    (∀ b, (ofChecked format xs total stop stats).histogram.count b ≤
        (ofChecked format xs total stop stats).processed) ∧
      (ofChecked format xs total stop stats).totalElapsed ≤
        499 * (ofChecked format xs total stop stats).processed := by
  have hacc := ofChecked_accounts format xs total stop stats
  refine ⟨fun b => hacc.histogram ▸ Histogram.count_le_total _ b, ?_⟩
  have h := (AnalysisContext.start format).observeAll_totalElapsed xs
  rw [hacc.processed]
  exact Nat.le_trans h (Nat.le_of_eq (Nat.zero_add _))

theorem Emitter.Wrote.audioBytes_le {c : Bool} {e e' : Emitter} {ps : List RtpPacket}
    (h : e.Wrote c ps e') (m : Nat) (hp : ∀ p ∈ ps, p.payload.length ≤ m) :
    e'.stats.audioBytes ≤ e.stats.audioBytes + m * ps.length := by
  have hwritten : ∀ qs : List RtpPacket, (∀ p ∈ qs, p.payload.length ≤ m) →
      ((qs.filter (!·.header.isComfortNoise)).flatMap (·.payload)).length ≤ m * qs.length := by
    intro qs
    induction qs with
    | nil => intro _; exact Nat.zero_le _
    | cons q qs ih =>
      intro hq
      have hhead := hq q (List.mem_cons_self ..)
      have hrest := ih fun p hp => hq p (List.mem_cons_of_mem _ hp)
      rw [List.filter_cons]
      split
      · rw [List.flatMap_cons, List.length_append, List.length_cons, Nat.mul_succ]
        omega
      · rw [List.length_cons, Nat.mul_succ]
        omega
  rw [h.audioBytes]
  split
  · exact Nat.add_le_add_left (hwritten ps hp) _
  · exact Nat.le_add_right _ _

/-! ## An analysis stays in range -/

theorem Reassembler.begin_header {r r' : Reassembler} {at_ : List (String × Nat)} {ip : Ipv4Packet}
    (h : r.begin at_ ip = .ok r') : UdpHeader.headerLength ≤ ip.payload.length := by
  unfold begin at h
  cases hudp : UdpHeader.parse ip.payload with
  | error e =>
    rw [hudp] at h
    cases h
  | ok udp => exact UdpHeader.headerLength_le_of_parse hudp

theorem Reassembler.completed_payload {r : Reassembler} (hr : r.slot = none)
    (recs : List SnoopRecord) : ∀ d ∈ r.completed recs, d.packet.payload.length ≤ 65535 := by
  intro d hd
  obtain ⟨-, hlen⟩ := completed_sized hr recs d hd
  have hudp := d.udp.length.toNat_lt
  simp only [Datagram.packet, List.length_drop]
  omega

theorem Reassembler.completed_length_le (r : Reassembler) (recs : List SnoopRecord) :
    (r.completed recs).length ≤ recs.length :=
  Nat.le_trans (List.length_filterMap_le _ _) (Nat.le_of_eq (r.feed_length recs))

section Analysis

open CaptureFormat

variable {cfg : AnalyzerConfig} {data : Bytes} {em em' : Emitter} {report : Report}

/-- A report's counters are bounded by its packets, each of which took sixteen bytes of input. -/
theorem analyzeBytes_counters (h : (analyzeBytes cfg data em).result = .ok (report, em')) :
    16 * report.processed ≤ data.length ∧ (∀ b, report.histogram.count b ≤ report.processed) ∧
      report.totalElapsed ≤ 499 * report.processed ∧
      em'.stats.audioBytes ≤ em.stats.audioBytes + 65535 * report.processed := by
  rcases analyzeBytes_ok h with ⟨target, -, -, rfl, hw⟩ | ⟨-, rfl, hw⟩
  · -- a capture checks at most one packet a record, and a record takes 24 bytes
    generalize hds : (cfg.reassembler target).completed (Snoop.scan data).records = ds at hw ⊢
    generalize (some ((cfg.reassembler target).run (Snoop.scan data).records).stats) = stats
    obtain ⟨hbucket, helapsed⟩ := Report.ofChecked_counters .snoop (PacketClock.stamp {} ds)
      (Snoop.scan data).records.length (Snoop.scan data).stop stats
    have hprocessed := (Report.ofChecked_accounts .snoop (PacketClock.stamp {} ds)
      (Snoop.scan data).records.length (Snoop.scan data).stop stats).processed.trans
      (PacketClock.stamp_length {} ds)
    have hcompleted : ds.length ≤ (Snoop.scan data).records.length :=
      hds ▸ (cfg.reassembler target).completed_length_le _
    have hrecords := Snoop.scan_length data
    have haudio := hw.audioBytes_le 65535 fun p hp => by
      obtain ⟨d, hd, rfl⟩ := List.mem_map.1 hp
      exact Reassembler.completed_payload rfl _ d (hds ▸ hd)
    rw [List.length_map] at haudio
    refine ⟨?_, hbucket, helapsed, by rw [hprocessed]; exact haudio⟩
    unfold Snoop.descriptorLength at hrecords
    omega
  · -- a recording checks one packet a frame, and a frame takes 16 bytes
    obtain ⟨hbucket, helapsed⟩ := Report.ofChecked_counters .recording
      (Recording.items (Recording.scan data).frames) (Recording.scan data).frames.length
      (Recording.scan data).stop none
    have hprocessed := (Report.ofChecked_accounts .recording
      (Recording.items (Recording.scan data).frames) (Recording.scan data).frames.length
      (Recording.scan data).stop none).processed.trans
      (Recording.items_length (Recording.scan data).frames)
    obtain ⟨hfits, hframes⟩ := Recording.scan_frames data
    have haudio := hw.audioBytes_le 65535 fun p hp => by
      obtain ⟨f, hf, rfl⟩ := List.mem_map.1 hp
      have := hfits f hf
      simp only [RecordingFrame.encodedLength, RtpPacket.payloadLength] at this
      omega
    rw [List.length_map] at haudio
    refine ⟨?_, hbucket, helapsed, by rw [hprocessed]; exact haudio⟩
    simp only [RecordingFrame.headerLength, RtpHeader.length] at hframes
    omega

/-- For every input shorter than 2⁴⁸ bytes, every cut, narrowing and subtraction an analysis makes is
within range, and every counter stays far below 2⁶⁴. -/
theorem analysis_within_bounds (cfg : AnalyzerConfig) (data : Bytes) (em : Emitter)
    (hsize : data.length < Nat.pow 2 48) :
    (∀ rec ∈ (Snoop.scan data).records,
      rec.frame.length = (Bytes.u32At (data.drop rec.offset) 4).toNat ∧
        rec.offset + Snoop.descriptorLength + rec.frame.length ≤ data.length) ∧
    (∀ bytes f k, RecordingFrame.decode bytes = .ok (f, k) →
      RecordingFrame.headerLength ≤ k ∧ k ≤ bytes.length ∧ f.encodedLength = k) ∧
    (∀ bytes ip, Ipv4Packet.parse bytes = .ok ip →
      Ipv4Packet.fixedHeaderLength + ip.payload.length ≤ ip.totalLength.toNat ∧
        ip.totalLength.toNat ≤ bytes.length ∧ ip.fragmentOffset.toNat ≤ 8191 ∧
        ∃ hdr, Etherparse.Ipv4HeaderSlice.fromSlice bytes = .ok hdr ∧
          hdr.slice.length = 4 * hdr.ihl ∧ 4 * hdr.ihl ≤ ip.totalLength.toNat) ∧
    (∀ (r r' : Reassembler) at_ ip, r.begin at_ ip = .ok r' →
      UdpHeader.headerLength ≤ ip.payload.length) ∧
    (∀ target, ∀ step ∈ (cfg.reassembler target).feed (Snoop.scan data).records, ∀ s,
      step.next.slot = some s →
        RtpHeader.length ≤ s.declared ∧ 0 < s.nextOffset ∧ s.nextOffset ≤ 16380) ∧
    (∀ t prev : CaptureTime, (t.microsSince prev).natAbs ≤ 4294971589967295 ∧
      millisOfMicros64 (t.microsSince prev) = .ok (millisOfMicros (t.microsSince prev))) ∧
    (∀ report em', (analyzeBytes cfg data em).result = .ok (report, em') →
      report.processed < Nat.pow 2 44 ∧ (∀ b, report.histogram.count b ≤ report.processed) ∧
      report.totalElapsed ≤ 499 * report.processed ∧
      em'.stats.audioBytes ≤ em.stats.audioBytes + 65535 * report.processed) := by
  have hpow : Nat.pow 2 48 = 16 * Nat.pow 2 44 := rfl
  refine ⟨Snoop.scan_in_bounds data,
    fun _ _ _ h => ⟨(RecordingFrame.decode_consumed h).1, (RecordingFrame.decode_consumed h).2,
      (RecordingFrame.decode_fits h).1⟩,
    fun _ _ h => Ipv4Packet.parse_bounds h,
    fun _ _ _ _ h => Reassembler.begin_header h, ?_,
    fun t prev => ⟨CaptureTime.microsSince_natAbs_le t prev, millisOfMicros64_microsSince t prev⟩, ?_⟩
  · -- a fresh reassembler holds nothing, so every state of the run is bounded
    intro target step hstep s hs
    have hfresh : (cfg.reassembler target).slot = none := rfl
    obtain ⟨hb, he⟩ := Reassembler.feed_bounded (fun s hs => by rw [hfresh] at hs; cases hs)
      (Reassembler.expecting_of_slot_none hfresh) _ step hstep
    exact ⟨(hb s hs).1, he s hs, (hb s hs).2⟩
  · intro report em' h
    obtain ⟨hinput, hbucket, helapsed, haudio⟩ := analyzeBytes_counters h
    exact ⟨by omega, hbucket, helapsed, haudio⟩

/-- The sample capture is short enough, and its analysis checks fewer than 2⁴⁴ packets. -/
theorem sample_within_bounds : Sample.capture.length < Nat.pow 2 48 ∧
    ∀ report em', (analyzeBytes { target := some Sample.target } Sample.capture {}).result =
      .ok (report, em') → report.processed < Nat.pow 2 44 := by
  have hsize : Sample.capture.length < Nat.pow 2 48 := by decide +kernel
  obtain ⟨-, -, -, -, -, -, hcounters⟩ :=
    analysis_within_bounds { target := some Sample.target } Sample.capture {} hsize
  exact ⟨hsize, fun report em' h => (hcounters report em' h).1⟩

end Analysis

end RtpAudit
