import RtpAudit.Capture.Format
import RtpAudit.Packet.Rtp
import RtpAudit.Log

/-! # Session recordings

A session recording is a sixteen-byte file header (`RTP` and zeros) and a sequence of frames.
A frame is a big-endian 16-bit length of the whole frame, a big-endian 16-bit time in milliseconds
since the previous frame, the twelve bytes of an RTP header, and the payload.

Decoding a frame checks, in this order: the two words are there, the length covers the frame
header, the bytes cover the length. Reading stops at the end or at the first frame that does not
decode, keeping a `malformed` error whose reason is the decoding error's text.

Main statement: `decode_consumed`, a decoded frame takes at least a frame header and no more
than the bytes there, so reading always advances and never passes the end.
-/

namespace RtpAudit

/-- One frame of a session recording. -/
structure RecordingFrame where
  /-- Milliseconds since the previous frame. -/
  delta : UInt16
  packet : RtpPacket
  deriving DecidableEq, Repr

/-- Why a frame cannot be written: its length does not fit the 16-bit length field. -/
structure FrameTooLong where
  length : Nat
  deriving DecidableEq, Repr

/-- The text of a frame that cannot be written. -/
def FrameTooLong.message (e : FrameTooLong) : String :=
  s!"recording frame of {e.length} bytes exceeds 65535"

namespace RecordingFrame

/-- Length of a frame header: the two words and the RTP header. -/
def headerLength : Nat := 4 + RtpHeader.length

/-- Length of the encoded frame. -/
def encodedLength (f : RecordingFrame) : Nat :=
  headerLength + f.packet.payloadLength

/-- The bytes of a frame, when its length fits the length field. -/
def encode (f : RecordingFrame) : Except FrameTooLong Bytes :=
  if f.encodedLength < 65536 then
    .ok (Bytes.ofU16 f.encodedLength.toUInt16 ++ Bytes.ofU16 f.delta ++ f.packet.header.toBytes ++
      f.packet.payload)
  else .error ⟨f.encodedLength⟩

/-- Write the frame after `out`: the bytes written out, and how many were written, the frame's
length. A frame whose length does not fit its field writes nothing. -/
def writeTo (f : RecordingFrame) (out : Array UInt8) : Except FrameTooLong (Array UInt8 × Nat) :=
  f.encode.map fun bs => (out ++ bs.toArray, f.encodedLength)

/-- Decode the frame at the start of `data`, with the number of bytes it takes. -/
def decode (data : Bytes) : Except DecodeError (RecordingFrame × Nat) :=
  let n := data.length
  if n < 4 then .error (.tooShort .recording 4 n)
  else
    let length := (Bytes.u16At data 0).toNat
    if length < headerLength then .error (.lengthBelowHeader .recording length)
    else if n < length then .error (.tooShort .recording length n)
    else
      let packet : RtpPacket :=
        ⟨RtpHeader.ofBytes (data.drop 4), (data.take length).drop headerLength⟩
      .ok (⟨Bytes.u16At data 2, packet⟩, length)

/-- A decoded frame takes at least a frame header and at most the bytes there. -/
theorem decode_consumed {data : Bytes} {f : RecordingFrame} {k : Nat}
    (h : decode data = .ok (f, k)) : headerLength ≤ k ∧ k ≤ data.length := by
  unfold decode at h
  dsimp only at h
  split at h
  · simp at h
  · split at h
    · simp at h
    · split at h
      · simp at h
      · simp only [Except.ok.injEq, Prod.mk.injEq] at h
        omega

end RecordingFrame

/-- What reading the frames of a recording found. -/
structure RecordingScan where
  frames : List RecordingFrame
  /-- Why reading stopped before the end, if it did. -/
  stop : Option CaptureError
  deriving Repr

namespace Recording

/-- Length of a recording file header. -/
def fileHeaderLength : Nat := 16

/-- The file header: `RTP` and zeros. -/
def fileHeader : Bytes :=
  CaptureFormat.recordingMagic ++ List.replicate 13 0

/-- Read the frames from `rest`, the bytes from `offset` to the end; `read` frames were read
before it. -/
def scanFrom (read offset : Nat) (rest : Bytes) : RecordingScan :=
  match rest with
  | [] => ⟨[], none⟩
  | b :: bs =>
    match h : RecordingFrame.decode (b :: bs) with
    | .error e => ⟨[], some (.malformed (read + 1) offset e.message)⟩
    | .ok (frame, used) =>
      let later := scanFrom (read + 1) (offset + used) ((b :: bs).drop used)
      ⟨frame :: later.frames, later.stop⟩
termination_by rest.length
decreasing_by
  have := RecordingFrame.decode_consumed h
  simp only [List.length_drop, List.length_cons, RecordingFrame.headerLength,
    RtpHeader.length] at this ⊢
  omega

/-- Read every frame of a recording. -/
def scan (data : Bytes) : RecordingScan :=
  scanFrom 0 (min fileHeaderLength data.length) (data.drop fileHeaderLength)

/-- The warning given when reading stops at a frame. -/
def stopWarning (e : CaptureError) : Event :=
  .warn (e.message ++ ", stopping before end of recording")

end Recording

end RtpAudit
