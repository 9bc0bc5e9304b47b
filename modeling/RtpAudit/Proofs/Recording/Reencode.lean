import RtpAudit.Proofs.Analysis.Bounds

/-! # A frame read is written back as the bytes it was read from

Reading and writing a recording are inverse the other way round too: whatever bytes a frame is
decoded from, writing the frame again gives those bytes, because every field of a frame is kept
as read, the version byte and the marker bit included:

* `RtpHeader.toBytes_ofBytes`: the bytes of a header read from twelve bytes are those twelve;
* `RecordingFrame.bytes_of_decode`: a decoded frame's bytes are the bytes it took, field by field
  as `RecordingFrame.decode_eq_ok` finds them;
* `Recording.scanFrom_reencodes`: the frames read, written one after another, are a prefix of the
  bytes read;
* `RecordingFrame.reencodes_as_read` puts these together with the length bound of
  `RecordingFrame.decode_fits`.
-/

namespace RtpAudit

/-- A header read from twelve bytes is written back as those bytes, version byte and marker too. -/
theorem RtpHeader.toBytes_ofBytes {bs : Bytes} (h : 12 ≤ bs.length) :
    (RtpHeader.ofBytes bs).toBytes = bs.take 12 := by
  have hfirst : [bs.getD 0 0, bs.getD 1 0] = Bytes.ofU16 (Bytes.u16At bs 0) :=
    (Bytes.ofU16_word16 _ _).symm
  calc (RtpHeader.ofBytes bs).toBytes
      = Bytes.ofU16 (Bytes.u16At bs 0) ++ Bytes.ofU16 (Bytes.u16At (bs.drop 2) 0) ++
          Bytes.ofU32 (Bytes.u32At (bs.drop 4) 0) ++ Bytes.ofU32 (Bytes.u32At (bs.drop 8) 0) := by
        rw [Bytes.u16At_drop, Bytes.u32At_drop, Bytes.u32At_drop, ← hfirst]
        rfl
    _ = bs.take 2 ++ (bs.drop 2).take 2 ++ (bs.drop 4).take 4 ++ (bs.drop 8).take 4 := by
        rw [Bytes.ofU16_u16At (by omega), Bytes.ofU16_u16At (by simp; omega),
          Bytes.ofU32_u32At (by simp; omega), Bytes.ofU32_u32At (by simp; omega)]
    _ = bs.take 12 := by
        rw [show 12 = 2 + 2 + 4 + 4 from rfl, List.take_add, List.take_add, List.take_add]

theorem RtpHeader.parse_toBytes {bs : Bytes} (h : bs.length = RtpHeader.length) :
    (RtpHeader.parse bs).map RtpHeader.toBytes = .ok bs := by
  unfold RtpHeader.parse
  rw [if_neg (by omega)]
  show Except.ok (RtpHeader.ofBytes bs).toBytes = _
  rw [RtpHeader.toBytes_ofBytes (by unfold RtpHeader.length at h; omega),
    List.take_of_length_le (by unfold RtpHeader.length at h; omega)]

namespace RecordingFrame

/-- A decoded frame's bytes are the bytes it took. -/
theorem bytes_of_decode {data : Bytes} {f : RecordingFrame} {n : Nat}
    (h : decode data = .ok (f, n)) : f.bytes = data.take n := by
  have hlength := (decode_fits h).1
  obtain ⟨hn, hhead, hle, rfl⟩ := decode_eq_ok.1 h
  replace hhead : 16 ≤ n := hhead
  have hfield : n.toUInt16 = Bytes.u16At data 0 := by
    rw [hn]
    exact UInt16.ofNat_toNat
  -- the length field, the spacing field, the header and the payload, each as read
  calc bytes ⟨Bytes.u16At data 2, ⟨RtpHeader.ofBytes (data.drop 4), (data.take n).drop headerLength⟩⟩
      = Bytes.ofU16 (Bytes.u16At data 0) ++ Bytes.ofU16 (Bytes.u16At (data.drop 2) 0) ++
          (RtpHeader.ofBytes (data.drop 4)).toBytes ++ (data.take n).drop 16 := by
        rw [bytes, hlength, hfield, Bytes.u16At_drop]
        rfl
    _ = data.take 2 ++ (data.drop 2).take 2 ++ (data.drop 4).take 12 ++ (data.take n).drop 16 := by
        rw [Bytes.ofU16_u16At (by omega), Bytes.ofU16_u16At (by simp; omega),
          RtpHeader.toBytes_ofBytes (by simp; omega)]
    _ = data.take 16 ++ (data.take n).drop 16 := by
        rw [show data.take 16 = data.take 2 ++ (data.drop 2).take 2 ++ (data.drop 4).take 12 by
          rw [show 16 = 2 + 2 + 12 from rfl, List.take_add, List.take_add]]
    _ = (data.take n).take 16 ++ (data.take n).drop 16 := by
        rw [List.take_take, Nat.min_eq_left hhead]
    _ = data.take n := List.take_append_drop 16 _

end RecordingFrame

namespace Recording

/-- The frames read from `rest`, written again one after another, are a prefix of `rest`. -/
theorem scanFrom_reencodes (read offset : Nat) (rest : Bytes) :
    ((scanFrom read offset rest).frames.flatMap RecordingFrame.bytes) <+: rest := by
  induction read, offset, rest using scanFrom.induct with
  | case1 read offset =>
    rw [scanFrom_frames_nil (.inl rfl)]
    exact List.nil_prefix
  | case2 read offset b bs e herr =>
    rw [scanFrom_frames_nil (.inr ⟨e, herr⟩)]
    exact List.nil_prefix
  | case3 read offset b bs frame used hok ih =>
    rw [scanFrom_decoded hok, List.flatMap_cons, RecordingFrame.bytes_of_decode hok]
    -- the frame's bytes are those it took, and the later frames' a prefix of what follows
    have h := (List.prefix_append_right_inj ((b :: bs).take used)).2 ih
    rwa [List.take_append_drop] at h

end Recording

/-- Every frame read from a recording is written back as exactly the bytes it was read from. -/
theorem RecordingFrame.reencodes_as_read :
    (∀ (data : Bytes) (f : RecordingFrame) (n : Nat), decode data = .ok (f, n) →
        f.encodedLength = n ∧ n ≤ 65535 ∧ f.encode = .ok (data.take n)) ∧
      (∀ data : Bytes, (∀ f ∈ (Recording.scan data).frames, f.encode = .ok f.bytes) ∧
        (Recording.scan data).frames.flatMap bytes <+: data.drop Recording.fileHeaderLength) ∧
      (∀ bs : Bytes, bs.length = RtpHeader.length →
        (RtpHeader.parse bs).map RtpHeader.toBytes = .ok bs) := by
  refine ⟨fun data f n h => ?_, fun data => ⟨fun f hf => ?_, Recording.scanFrom_reencodes _ _ _⟩,
    fun bs h => RtpHeader.parse_toBytes h⟩
  · obtain ⟨hlength, hfits⟩ := decode_fits h
    exact ⟨hlength, by omega, encode_eq_ok.2 ⟨by omega, (bytes_of_decode h).symm⟩⟩
  · exact encode_eq_ok.2 ⟨(Recording.scan_frames data).1 f hf, rfl⟩

end RtpAudit
