import RtpAudit.Stream.Profile
import RtpAudit.Wire.Bytes

/-! # AU audio files

An AU file is a 24-byte header of six big-endian 32-bit words (the magic `.snd`, the header
length, the data size, the encoding, the sample rate, the channel count) followed by the samples.
A writer writes into a file it can seek in: the header with a data size of zero first, then the
samples as they come, counting them. To finish, it seeks back to the data size, overwrites it with
the count, and seeks to the end again; a count that does not fit 32 bits is refused.
-/

namespace RtpAudit

/-- How the samples of an AU file are to be read. -/
structure AudioFormat where
  encoding : Encoding := .ulaw
  sampleRate : UInt32 := 8000
  channels : UInt32 := 1
  deriving DecidableEq, Repr

/-- The AU header of a format for a data size. -/
def AudioFormat.header (f : AudioFormat) (dataSize : UInt32) : Bytes :=
  Bytes.ofU32 0x2E736E64 ++ Bytes.ofU32 24 ++ Bytes.ofU32 dataSize ++
    Bytes.ofU32 f.encoding.code.toUInt32 ++ Bytes.ofU32 f.sampleRate ++ Bytes.ofU32 f.channels

/-- A file held in memory with a position in it, written through a cursor. -/
structure SeekBuffer where
  bytes : Bytes := []
  pos : Nat := 0
  deriving Repr

namespace SeekBuffer

/-- Write `bs` at the position and move past them. The bytes there are overwritten and the file
grows past its end; a gap between the end and the position is first filled with zeros. -/
def write (b : SeekBuffer) (bs : Bytes) : SeekBuffer where
  bytes := b.bytes.take b.pos ++ List.replicate (b.pos - b.bytes.length) 0 ++ bs ++
    b.bytes.drop (b.pos + bs.length)
  pos := b.pos + bs.length

/-- Move to `pos` bytes from the start. -/
def seek (b : SeekBuffer) (pos : Nat) : SeekBuffer :=
  { b with pos }

/-- Move to the end. -/
def seekEnd (b : SeekBuffer) : SeekBuffer :=
  { b with pos := b.bytes.length }

end SeekBuffer

/-- An AU file being written: its format, the file, and the number of sample bytes written. -/
structure AuWriter where
  format : AudioFormat
  file : SeekBuffer
  dataSize : Nat
  deriving Repr

/-- Why an AU file cannot be finished: more sample bytes than the 32-bit data size holds. -/
structure AudioTooLong where
  dataSize : Nat
  deriving DecidableEq, Repr

/-- The text of the error. -/
def AudioTooLong.message (e : AudioTooLong) : String :=
  s!"{e.dataSize} bytes of audio do not fit an AU header"

namespace AuWriter

/-- Where the data size stands in the header. -/
def dataSizeOffset : Nat := 8

/-- Start an AU file in an empty file: the header with a data size of zero. -/
def create (format : AudioFormat) : AuWriter where
  format
  file := ({} : SeekBuffer).write (format.header 0)
  dataSize := 0

/-- Append samples. -/
def write (w : AuWriter) (bs : Bytes) : AuWriter :=
  { w with file := w.file.write bs, dataSize := w.dataSize + bs.length }

/-- Put the data size into the header and go back to the end of the file. -/
def finish (w : AuWriter) : Except AudioTooLong SeekBuffer :=
  if w.dataSize < UInt32.size then
    .ok ((w.file.seek dataSizeOffset).write (Bytes.ofU32 w.dataSize.toUInt32)).seekEnd
  else .error ⟨w.dataSize⟩

end AuWriter

end RtpAudit
