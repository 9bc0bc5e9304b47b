import RtpAudit.Proofs.Analysis.Stages

/-! # The AU file of a run's audio

An AU writer writes into a file with a position. Bytes written at the end extend the file
(`SeekBuffer.write_atEnd`); bytes written inside it replace as many bytes there, and the length and
every other byte stay (`SeekBuffer.write_inside`, `SeekBuffer.getElem?_write_outside`). A writer
puts down the header with a data size of zero and then the samples, always at the end
(`AuWriter.Holds`); finishing seeks to byte 8, writes the data size over bytes 8 to 12 and seeks back
to the end (`AuWriter.finish_patch`). Writing packets to an emitter's audio output appends the
payloads of the packets that are not comfort noise and counts the others as skipped, so a run of
packets leaves the header for their total payload length and the payloads in order
(`Emitter.audio_file_written`).
-/

namespace RtpAudit

namespace SeekBuffer

variable (b : SeekBuffer) (bs : Bytes)

@[simp] theorem seek_bytes (pos : Nat) : (b.seek pos).bytes = b.bytes := rfl

@[simp] theorem seek_pos (pos : Nat) : (b.seek pos).pos = pos := rfl

@[simp] theorem seekEnd_bytes : b.seekEnd.bytes = b.bytes := rfl

@[simp] theorem seekEnd_pos : b.seekEnd.pos = b.bytes.length := rfl

theorem write_atEnd (h : b.pos = b.bytes.length) :
    b.write bs = { bytes := b.bytes ++ bs, pos := (b.bytes ++ bs).length } := by
  simp [write, h]

theorem write_inside (h : b.pos + bs.length ≤ b.bytes.length) :
    (b.write bs).bytes = b.bytes.take b.pos ++ bs ++ b.bytes.drop (b.pos + bs.length) := by
  have hgap : b.pos - b.bytes.length = 0 := by omega
  simp [write, hgap]

theorem length_write_inside (h : b.pos + bs.length ≤ b.bytes.length) :
    (b.write bs).bytes.length = b.bytes.length := by
  rw [write_inside b bs h, List.length_append, List.length_append, List.length_take,
    List.length_drop]
  omega

theorem getElem?_write_outside (h : b.pos + bs.length ≤ b.bytes.length) {i : Nat}
    (hi : i < b.pos ∨ b.pos + bs.length ≤ i) : (b.write bs).bytes[i]? = b.bytes[i]? := by
  rw [write_inside b bs h]
  rcases hi with hi | hi
  · have htake : (b.bytes.take b.pos).length = b.pos := by
      rw [List.length_take]
      omega
    rw [List.append_assoc, List.getElem?_append_left (by omega), List.getElem?_take_of_lt hi]
  · have hfront : (b.bytes.take b.pos ++ bs).length = b.pos + bs.length := by
      rw [List.length_append, List.length_take]
      omega
    rw [List.getElem?_append_right (by omega), List.getElem?_drop, hfront]
    congr 1
    omega

end SeekBuffer

namespace AudioFormat

theorem header_length (F : AudioFormat) (n : UInt32) : (F.header n).length = 24 := by
  simp [header, Bytes.ofU32]

theorem header_patch (F : AudioFormat) (n : UInt32) (rest : Bytes) :
    F.header n ++ rest = (F.header 0 ++ rest).take 8 ++ Bytes.ofU32 n ++ (F.header 0 ++ rest).drop 12 := by
  simp [header, Bytes.ofU32]

theorem u32At_header (F : AudioFormat) (n : UInt32) (rest : Bytes) :
    Bytes.u32At (F.header n ++ rest) 8 = n := by
  simp only [header, Bytes.u32At, Bytes.ofU32, List.cons_append, List.nil_append,
    List.getD_cons_succ, List.getD_cons_zero, Bytes.word32_ofU32]

end AudioFormat

namespace AuWriter

/-- The writer has written the samples `s`: its file is the header with a data size of zero and
those samples, its position is at the end, and it has counted them. -/
structure Holds (w : AuWriter) (s : Bytes) : Prop where
  file : w.file.bytes = w.format.header 0 ++ s
  atEnd : w.file.pos = w.file.bytes.length
  counted : w.dataSize = s.length

theorem holds_create (F : AudioFormat) : (create F).Holds [] where
  file := by simp [create, SeekBuffer.write]
  atEnd := by simp [create, SeekBuffer.write]
  counted := rfl

@[simp] theorem write_format (w : AuWriter) (bs : Bytes) : (w.write bs).format = w.format := rfl

/-- Writing samples appends them at the end and counts them. -/
theorem Holds.write {w : AuWriter} {s : Bytes} (h : w.Holds s) (bs : Bytes) :
    (w.write bs).Holds (s ++ bs) where
  file := by
    show (w.file.write bs).bytes = w.format.header 0 ++ (s ++ bs)
    rw [SeekBuffer.write_atEnd _ _ h.atEnd, h.file, List.append_assoc]
  atEnd := by
    show (w.file.write bs).pos = (w.file.write bs).bytes.length
    rw [SeekBuffer.write_atEnd _ _ h.atEnd]
  counted := by
    show w.dataSize + bs.length = (s ++ bs).length
    rw [h.counted, List.length_append]

/-- Finishing overwrites the data size at bytes 8 to 12 and keeps every other byte. -/
theorem finish_patch {w : AuWriter} {s : Bytes} (h : w.Holds s) (hsize : s.length < Nat.pow 2 32) :
    ∃ file, w.finish = .ok file ∧
      file.bytes = w.file.bytes.take 8 ++ Bytes.ofU32 s.length.toUInt32 ++ w.file.bytes.drop 12 ∧
      file.bytes.length = w.file.bytes.length ∧ file.pos = file.bytes.length ∧
      ∀ i, i < 8 ∨ 12 ≤ i → file.bytes[i]? = w.file.bytes[i]? := by
  -- the data size's four bytes lie inside the header
  have hinside : (w.file.seek dataSizeOffset).pos + (Bytes.ofU32 s.length.toUInt32).length ≤
      (w.file.seek dataSizeOffset).bytes.length := by
    rw [SeekBuffer.seek_pos, SeekBuffer.seek_bytes, h.file, List.length_append,
      AudioFormat.header_length]
    simp only [dataSizeOffset, Bytes.ofU32, List.length_cons, List.length_nil]
    omega
  have hfits : w.dataSize < UInt32.size := by
    rw [h.counted]
    exact hsize
  refine ⟨_, by rw [finish, if_pos hfits, h.counted], ?_, ?_, rfl, ?_⟩
  · rw [SeekBuffer.seekEnd_bytes, SeekBuffer.write_inside _ _ hinside]
    rfl
  · exact SeekBuffer.length_write_inside _ _ hinside
  · intro i hi
    exact SeekBuffer.getElem?_write_outside _ _ hinside hi

end AuWriter

namespace Emitter

variable {e : Emitter} {w : AuWriter}

theorem writeAudio_audio (hw : e.audio = some w) (p : RtpPacket) :
    (e.writeAudio p).audio = some (if p.header.isComfortNoise then w else w.write p.payload) := by
  unfold writeAudio
  rw [hw]
  dsimp only
  split <;> rfl

/-- An audio output appends the payloads of the packets that are not comfort noise. -/
theorem foldl_writeAudio_audio (ps : List RtpPacket) {s : Bytes} (hw : e.audio = some w)
    (hs : w.Holds s) :
    ∃ w', (ps.foldl writeAudio e).audio = some w' ∧ w'.format = w.format ∧
      w'.Holds (s ++ (ps.filter (!·.header.isComfortNoise)).flatMap (·.payload)) := by
  induction ps generalizing e w s with
  | nil => exact ⟨w, hw, rfl, by simpa using hs⟩
  | cons p ps ih =>
    rw [List.foldl_cons]
    by_cases hc : p.header.isComfortNoise = true
    · -- comfort noise leaves the writer as it was
      have hnext : (e.writeAudio p).audio = some w := by rw [writeAudio_audio hw, if_pos hc]
      obtain ⟨w', hw', hformat, hholds⟩ := ih hnext hs
      refine ⟨w', hw', hformat, ?_⟩
      rwa [List.filter_cons_of_neg (by simp [hc])]
    · have hnext : (e.writeAudio p).audio = some (w.write p.payload) := by
        rw [writeAudio_audio hw, if_neg hc]
      obtain ⟨w', hw', hformat, hholds⟩ := ih hnext (hs.write p.payload)
      refine ⟨w', hw', hformat, ?_⟩
      rwa [List.filter_cons_of_pos (by simp [hc]), List.flatMap_cons, ← List.append_assoc]

theorem wrote_foldl_audio (ps : List RtpPacket) (e : Emitter) :
    e.Wrote false ps (ps.foldl writeAudio e) := by
  induction ps generalizing e with
  | nil => exact Wrote.nil false e
  | cons p ps ih => exact (wrote_audio e p).append (ih (e.writeAudio p))

/-- The AU file of a run of packets is the header for the payload bytes that are not comfort noise,
then those payloads; finishing overwrites bytes 8 to 12 alone. -/
theorem audio_file_written (F : AudioFormat) (ps : List RtpPacket)
    (hsize : ((ps.filter (!·.header.isComfortNoise)).flatMap (·.payload)).length < Nat.pow 2 32) :
    let audio := (ps.filter (!·.header.isComfortNoise)).flatMap (·.payload)
    let e := ps.foldl writeAudio { audio := some (AuWriter.create F) }
    (∃ w file, e.audio = some w ∧ w.file.bytes = F.header 0 ++ audio ∧
      w.dataSize = audio.length ∧ w.finish = .ok file ∧
      file.bytes = w.file.bytes.take 8 ++ Bytes.ofU32 audio.length.toUInt32 ++ w.file.bytes.drop 12 ∧
      file.bytes.length = w.file.bytes.length ∧ file.pos = file.bytes.length ∧
      (∀ i, i < 8 ∨ 12 ≤ i → file.bytes[i]? = w.file.bytes[i]?) ∧
      (Bytes.u32At file.bytes 8).toNat = audio.length) ∧
    e.audioFile = .ok (some (F.header audio.length.toUInt32 ++ audio)) ∧
    e.stats.audioBytes = audio.length ∧
    e.stats.audioFrames = ps.countP (!·.header.isComfortNoise) ∧
    e.stats.comfortFramesSkipped = ps.countP (·.header.isComfortNoise) := by
  intro audio e
  obtain ⟨w, hw, hformat, hholds⟩ :=
    foldl_writeAudio_audio (e := { audio := some (AuWriter.create F) }) ps rfl
      (AuWriter.holds_create F)
  rw [List.nil_append] at hholds
  have hfile : w.file.bytes = F.header 0 ++ audio := by
    rw [hholds.file, hformat]
    rfl
  obtain ⟨file, hfinish, hbytes, hlength, hpos, hframe⟩ := AuWriter.finish_patch hholds hsize
  -- the patched file is the header for the data size, followed by the samples
  have hheader : file.bytes = F.header audio.length.toUInt32 ++ audio := by
    rw [hbytes, hfile, ← AudioFormat.header_patch]
  have hwrote := wrote_foldl_audio ps { audio := some (AuWriter.create F) }
  refine ⟨⟨w, file, hw, hfile, hholds.counted, hfinish, hbytes, hlength, hpos, hframe, ?_⟩,
    ?_, ?_, ?_, ?_⟩
  · rw [hheader, AudioFormat.u32At_header, Nat.toUInt32, UInt32.toNat_ofNat']
    exact Nat.mod_eq_of_lt hsize
  · unfold audioFile
    rw [hw]
    dsimp only
    rw [hfinish, ← hheader]
    rfl
  -- a new emitter has counted nothing
  · rw [hwrote.audioBytes]
    simp [audio]
  · rw [hwrote.audioFrames]
    simp
  · rw [hwrote.comfortFramesSkipped]
    simp

end Emitter

namespace Sample

/-- Three packets of μ-law audio, the second comfort noise. -/
def audioPackets : List RtpPacket :=
  [⟨⟨RtpHeader.versionByte, 0, 1, 160, 7⟩, [1, 2, 3]⟩,
   ⟨⟨RtpHeader.versionByte, RtpHeader.comfortNoisePayload, 2, 320, 7⟩, [9]⟩,
   ⟨⟨RtpHeader.versionByte, 0, 3, 480, 7⟩, [4, 5]⟩]

end Sample

namespace Emitter

/-- The comfort-noise packet of the sample is left out of its AU file and counted as skipped. -/
theorem sample_audio_file :
    (Sample.audioPackets.foldl writeAudio { audio := some (AuWriter.create {}) }).audioFile =
        .ok (some (AudioFormat.header {} 5 ++ [1, 2, 3, 4, 5])) ∧
      (Sample.audioPackets.foldl writeAudio
        { audio := some (AuWriter.create {}) }).stats.comfortFramesSkipped = 1 := by
  have hsize : ((Sample.audioPackets.filter (!·.header.isComfortNoise)).flatMap (·.payload)).length <
      Nat.pow 2 32 := by decide
  obtain ⟨-, hfile, -, -, hskipped⟩ := audio_file_written {} Sample.audioPackets hsize
  exact ⟨hfile, hskipped⟩

end Emitter

end RtpAudit
