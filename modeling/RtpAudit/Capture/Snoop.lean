import RtpAudit.Capture.Format
import RtpAudit.Log

/-! # Snoop captures

After a sixteen-byte file header, a snoop capture is a sequence of records. Each record starts
with a 24-byte descriptor of six big-endian 32-bit words (original length, included length,
record length, drops, seconds, microseconds), followed by the included frame bytes, padded so that
the next record starts at the record length rounded up to four bytes.

Reading stops at the end of the bytes, or at the first descriptor that cannot be trusted, checked
in this order: fewer than 24 bytes left, a record length of zero, a record length smaller than the
descriptor and the frame, a frame that runs past the end. The reader then keeps a `malformed`
error as the reason it stopped.

Frames are link-layer frames: the 16-bit word at bytes 12 and 13 names the next header, and the
network packet starts at byte 14.
-/

namespace RtpAudit

/-- One record of a snoop capture. -/
structure SnoopRecord where
  /-- Position of the record among the records read, from 1. -/
  index : Nat
  /-- Position of the record's descriptor in the capture. -/
  offset : Nat
  time : CaptureTime
  originalLength : UInt32
  frame : Bytes
  deriving Repr

namespace SnoopRecord

/-- Length of a link-layer header. -/
def linkHeaderLength : Nat := 14

/-- The type of the network packet in the frame, when the frame holds a link-layer header. -/
def nextHeader? (r : SnoopRecord) : Option UInt16 :=
  if r.frame.length < linkHeaderLength then none else some (Bytes.u16At r.frame 12)

/-- The network packet after the link-layer header, empty when there is none. -/
def networkPayload (r : SnoopRecord) : Bytes :=
  r.frame.drop linkHeaderLength

/-- The link-layer type of IPv4. -/
def ipv4Type : UInt16 := 0x0800

end SnoopRecord

/-- What reading the records of a capture found. -/
structure SnoopScan where
  records : List SnoopRecord
  /-- Why reading stopped before the end, if it did. -/
  stop : Option CaptureError
  deriving Repr

namespace Snoop

/-- Length of a snoop file header. -/
def fileHeaderLength : Nat := 16

/-- Length of a record descriptor. -/
def descriptorLength : Nat := 24

/-- Bytes from one record to the next: the record length rounded up to a multiple of four. -/
def advance (recordLength : Nat) : Nat :=
  (recordLength + 3) / 4 * 4

/-- Why the descriptor at the start of `rest` cannot be trusted, if it cannot. -/
def descriptorFault? (rest : Bytes) : Option String :=
  if rest.length < descriptorLength then some "truncated record descriptor"
  else
    let included := (Bytes.u32At rest 4).toNat
    let recordLength := (Bytes.u32At rest 8).toNat
    if recordLength = 0 then some "zero record length"
    else if recordLength < descriptorLength + included then
      some "record length smaller than its contents"
    else if rest.length < descriptorLength + included then some "frame runs past end of capture"
    else none

/-- The record whose trusted descriptor starts `rest`. -/
def recordAt (index offset : Nat) (rest : Bytes) : SnoopRecord :=
  { index, offset
    time := ⟨Bytes.u32At rest 16, Bytes.u32At rest 20⟩
    originalLength := Bytes.u32At rest 0
    frame := (rest.drop descriptorLength).take (Bytes.u32At rest 4).toNat }

theorem advance_pos (rest : Bytes) (h : descriptorFault? rest = none) :
    0 < advance (Bytes.u32At rest 8).toNat := by
  unfold descriptorFault? at h
  unfold advance
  split at h
  · simp at h
  · simp only at h
    split at h
    · simp at h
    · omega

/-- Read the records from `rest`, the bytes from `offset` to the end; `read` records were read
before it. -/
def scanFrom (read offset : Nat) (rest : Bytes) : SnoopScan :=
  match rest with
  | [] => ⟨[], none⟩
  | b :: bs =>
    match h : descriptorFault? (b :: bs) with
    | some reason => ⟨[], some (.malformed (read + 1) offset reason)⟩
    | none =>
      let step := advance (Bytes.u32At (b :: bs) 8).toNat
      let later := scanFrom (read + 1) (offset + step) ((b :: bs).drop step)
      ⟨recordAt (read + 1) offset (b :: bs) :: later.records, later.stop⟩
termination_by rest.length
decreasing_by
  have := advance_pos (b :: bs) h
  simp only [List.length_drop, List.length_cons]
  omega

/-- Read every record of a snoop capture. -/
def scan (data : Bytes) : SnoopScan :=
  scanFrom 0 (min fileHeaderLength data.length) (data.drop fileHeaderLength)

/-- The warning given when reading stops at a record. -/
def stopWarning (e : CaptureError) : Event :=
  .warn (e.message ++ ", stopping before end of capture")

end Snoop

end RtpAudit
