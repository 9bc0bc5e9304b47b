/-! # Byte strings and big-endian words

Captures, headers and output files are byte strings, held as lists of bytes. Multi-byte fields on
the wire are big-endian. A field read past the end of a string reads zero bytes there; every
decoder checks the length first, so this never shows in a decoded value.
-/

namespace RtpAudit

/-- A byte string, as held in a capture or written to an output file. -/
abbrev Bytes := List UInt8

namespace Bytes

/-- The 16-bit word whose high byte is `hi` and low byte is `lo`. -/
def word16 (hi lo : UInt8) : UInt16 :=
  hi.toUInt16 <<< 8 ||| lo.toUInt16

/-- The 32-bit word of four bytes, the first one most significant. -/
def word32 (b0 b1 b2 b3 : UInt8) : UInt32 :=
  b0.toUInt32 <<< 24 ||| b1.toUInt32 <<< 16 ||| b2.toUInt32 <<< 8 ||| b3.toUInt32

/-- The big-endian 16-bit word at position `i`. -/
def u16At (bs : Bytes) (i : Nat) : UInt16 :=
  word16 (bs.getD i 0) (bs.getD (i + 1) 0)

/-- The big-endian 32-bit word at position `i`. -/
def u32At (bs : Bytes) (i : Nat) : UInt32 :=
  word32 (bs.getD i 0) (bs.getD (i + 1) 0) (bs.getD (i + 2) 0) (bs.getD (i + 3) 0)

/-- The two big-endian bytes of a 16-bit word. -/
def ofU16 (x : UInt16) : Bytes :=
  [(x >>> 8).toUInt8, x.toUInt8]

/-- The four big-endian bytes of a 32-bit word. -/
def ofU32 (x : UInt32) : Bytes :=
  [(x >>> 24).toUInt8, (x >>> 16).toUInt8, (x >>> 8).toUInt8, x.toUInt8]

theorem getD_take (bs : Bytes) {n i : Nat} (h : i < n) : (bs.take n).getD i 0 = bs.getD i 0 := by
  simp [List.getD_eq_getElem?_getD, h]

/-- Whether `bs` begins with the bytes of `magic`. -/
def startsWith (bs magic : Bytes) : Bool :=
  bs.take magic.length == magic

end Bytes

end RtpAudit
