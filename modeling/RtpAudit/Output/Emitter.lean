import RtpAudit.Output.Au
import RtpAudit.Capture.Recording

/-! # Outputs of a run

A run may write an AU file of the audio, a session recording of the packets and time points; each
output is optional and writing to an absent one does nothing. Comfort noise is not audio: it is
counted as skipped instead, when there is an audio output.

A recording writer starts with the sixteen-byte file header and appends one frame per packet,
counting the bytes each write reports. The spacing of a packet is clamped to the 16-bit field, and
a frame whose length does not fit its length field is refused and writes nothing. A time point is
one line per packet for plotting: the packet's index and its spacing, capped at 200 ms; a marked
packet, which starts a talk spurt, is drawn at one 20 ms frame.
-/

namespace RtpAudit

/-- A session recording being written. -/
structure RecordingWriter where
  data : Array UInt8 := Recording.fileHeader.toArray
  frames : Nat := 0
  /-- Bytes written: the file header, then what each frame's write reports. -/
  bytes : Nat := Recording.fileHeaderLength
  deriving Repr

namespace RecordingWriter

/-- Bytes written so far, the file header included. -/
def bytesWritten (w : RecordingWriter) : Nat :=
  w.bytes

/-- Append a frame. -/
def writeFrame (w : RecordingWriter) (f : RecordingFrame) : Except FrameTooLong RecordingWriter :=
  (f.writeTo w.data).map fun (data, written) =>
    { data, frames := w.frames + 1, bytes := w.bytes + written }

/-- A spacing in milliseconds clamped to the 16-bit field. -/
def clampDelta (delta : Int) : UInt16 :=
  (max 0 (min delta 65535)).toNat.toUInt16

/-- Append a packet `delta` milliseconds after the previous one. -/
def writePacket (w : RecordingWriter) (delta : Int) (p : RtpPacket) : Except FrameTooLong RecordingWriter :=
  w.writeFrame ⟨clampDelta delta, p⟩

end RecordingWriter

/-- The value plotted for a packet. -/
def timePoint (marker : Bool) (delta : Int) : Int :=
  if marker then 20 else min delta 200

/-- Time points being written. -/
structure TimePointWriter where
  text : String := ""
  points : Nat := 0
  deriving Repr

/-- Append the line of one packet. -/
def TimePointWriter.write (w : TimePointWriter) (packetIndex : Nat) (marker : Bool) (delta : Int) :
    TimePointWriter :=
  let v := timePoint marker delta
  { text := w.text ++ s!"{packetIndex}, {v}\n", points := w.points + 1 }

/-- Counters of what was written. -/
structure EmitterStats where
  audioBytes : Nat := 0
  audioFrames : Nat := 0
  comfortFramesSkipped : Nat := 0
  recordingFrames : Nat := 0
  timePoints : Nat := 0
  deriving DecidableEq, Repr

/-- The outputs of a run. -/
structure Emitter where
  audio : Option AuWriter := none
  recording : Option RecordingWriter := none
  timePoints : Option TimePointWriter := none
  stats : EmitterStats := {}
  deriving Repr

namespace Emitter

/-- Write a packet's payload as audio. -/
def writeAudio (e : Emitter) (p : RtpPacket) : Emitter :=
  match e.audio with
  | none => e
  | some w =>
    if p.header.isComfortNoise then
      { e with stats := { e.stats with comfortFramesSkipped := e.stats.comfortFramesSkipped + 1 } }
    else
      { e with
        audio := some (w.write p.payload)
        stats := { e.stats with
          audioBytes := e.stats.audioBytes + p.payloadLength
          audioFrames := e.stats.audioFrames + 1 } }

/-- Write a packet to the recording. -/
def writeRecording (e : Emitter) (delta : Int) (p : RtpPacket) : Except FrameTooLong Emitter :=
  match e.recording with
  | none => .ok e
  | some w => (w.writePacket delta p).map fun w' =>
    { e with
      recording := some w'
      stats := { e.stats with recordingFrames := e.stats.recordingFrames + 1 } }

/-- Write a packet's time point. -/
def writeTimePoint (e : Emitter) (packetIndex : Nat) (marker : Bool) (delta : Int) : Emitter :=
  match e.timePoints with
  | none => e
  | some w =>
    { e with
      timePoints := some (w.write packetIndex marker delta)
      stats := { e.stats with timePoints := e.stats.timePoints + 1 } }

/-- The finished AU file, if there is an audio output, or why it cannot be finished. -/
def audioFile (e : Emitter) : Except AudioTooLong (Option Bytes) :=
  match e.audio with
  | none => .ok none
  | some w => w.finish.map fun file => some file.bytes

/-- The recording written, if there is a recording output. -/
def recordingFile (e : Emitter) : Option Bytes :=
  e.recording.map (·.data.toList)

/-- The time points written, if there is a time-point output. -/
def timePointText (e : Emitter) : Option String :=
  e.timePoints.map (·.text)

end Emitter

end RtpAudit
