import RtpAudit.Capture.Snoop
import RtpAudit.Capture.Recording

/-! # Reading a capture one item at a time

Both kinds of capture are read by a forward-only cursor. It starts after the sixteen-byte file
header, or at the end of a shorter input, and each call reads the item at its offset and moves past
it. At the end of the bytes a call gives nothing. At an item that cannot be read a call gives
nothing, keeps a `malformed` error with the item's position (from 1) and offset as the reason it
stopped, and moves to the end, so that every later call gives nothing too.

The two kinds differ only in how an item is read (`CaptureLayout`): a snoop record from its
descriptor, a recording frame from its length field.
-/

namespace RtpAudit

/-- How the items of one kind of capture are laid out. -/
structure CaptureLayout (α : Type) where
  /-- Bytes before the first item. -/
  headerLength : Nat
  /-- Read the `index`-th item (from 1), at `offset`, from the bytes `rest` there: the item and the
  bytes from it to the next one, or why it cannot be read. -/
  read : Nat → Nat → Bytes → Except String (α × Nat)
  /-- The fewest bytes an item takes. -/
  minimum : Nat
  minimum_pos : 0 < minimum
  /-- An item read takes at least `minimum` bytes, and that many bytes are there. -/
  read_fits : ∀ {index offset : Nat} {rest : Bytes} {item : α} {used : Nat},
    read index offset rest = .ok (item, used) → minimum ≤ used ∧ minimum ≤ rest.length

/-- A forward-only cursor over the bytes of a capture. -/
structure Cursor where
  data : Bytes
  /-- Where the next item starts. -/
  offset : Nat
  /-- Number of items read so far. -/
  index : Nat
  /-- Why reading stopped before the end, if it did. -/
  stop : Option CaptureError
  deriving Repr

namespace Cursor

variable {α : Type} (L : CaptureLayout α)

/-- A cursor at the first item of `data`. -/
def start (data : Bytes) : Cursor :=
  ⟨data, min L.headerLength data.length, 0, none⟩

/-- Read the next item, if there is one, and the cursor after it. -/
def next (c : Cursor) : Option α × Cursor :=
  if c.data.length ≤ c.offset then (none, c)
  else
    match L.read (c.index + 1) c.offset (c.data.drop c.offset) with
    | .error reason =>
      (none, { c with
        offset := c.data.length
        stop := some (.malformed (c.index + 1) c.offset reason) })
    | .ok (item, used) => (some item, { c with offset := c.offset + used, index := c.index + 1 })

end Cursor

/-- Snoop records, read from their descriptors: each takes at least a descriptor. -/
def Snoop.layout : CaptureLayout SnoopRecord where
  headerLength := Snoop.fileHeaderLength
  read index offset rest :=
    match Snoop.descriptorFault? rest with
    | some reason => .error reason
    | none => .ok (Snoop.recordAt index offset rest, Snoop.advance (Bytes.u32At rest 8).toNat)
  minimum := Snoop.descriptorLength
  minimum_pos := by decide
  read_fits {index offset rest item used} h := by
    split at h
    · cases h
    · rename_i hfault
      simp only [Except.ok.injEq, Prod.mk.injEq] at h
      obtain ⟨-, rfl⟩ := h
      unfold Snoop.descriptorFault? at hfault
      split at hfault
      · cases hfault
      · dsimp only at hfault
        split at hfault
        · cases hfault
        · split at hfault
          · cases hfault
          · split at hfault
            · cases hfault
            · unfold Snoop.advance Snoop.descriptorLength at *
              omega

/-- Recording frames, decoded from their length fields: each takes at least a frame header. -/
def Recording.layout : CaptureLayout RecordingFrame where
  headerLength := Recording.fileHeaderLength
  read _ _ rest := (RecordingFrame.decode rest).mapError DecodeError.message
  minimum := RecordingFrame.headerLength
  minimum_pos := by decide
  read_fits {index offset rest item used} h := by
    cases hdecode : RecordingFrame.decode rest with
    | error e =>
      rw [hdecode] at h
      cases h
    | ok p =>
      rw [hdecode] at h
      cases h
      have := RecordingFrame.decode_consumed hdecode
      omega

end RtpAudit
