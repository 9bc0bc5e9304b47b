import RtpAudit.Packet.Error
import RtpAudit.Wire.Bytes

/-! # RTP packets

An RTP packet is a fixed twelve-byte header followed by its payload. The header holds the
version and flags byte, a byte with the marker bit (high) and the payload type (low seven bits),
the sequence number, the media timestamp and the synchronisation source, all big-endian.
Payload type 13 is comfort noise.
-/

namespace RtpAudit

/-- The fixed RTP header. -/
structure RtpHeader where
  versionFlags : UInt8
  markerPayload : UInt8
  sequence : UInt16
  timestamp : UInt32
  ssrc : UInt32
  deriving DecidableEq, Repr

namespace RtpHeader

/-- Length of the fixed header. -/
def length : Nat := 12

/-- The version and flags byte of an RTP version 2 header without padding, extension or
contributing sources. -/
def versionByte : UInt8 := 0x80

/-- The payload type of comfort noise. -/
def comfortNoisePayload : UInt8 := 13

/-- The header held in the first twelve bytes of `data`. -/
def ofBytes (data : Bytes) : RtpHeader :=
  ⟨data.getD 0 0, data.getD 1 0, Bytes.u16At data 2, Bytes.u32At data 4, Bytes.u32At data 8⟩

/-- Decode the header at the start of `data`. -/
def parse (data : Bytes) : Except DecodeError RtpHeader :=
  if data.length < length then .error (.tooShort .rtp length data.length)
  else .ok (ofBytes data)

/-- The twelve bytes of a header. -/
def toBytes (h : RtpHeader) : Bytes :=
  [h.versionFlags, h.markerPayload] ++ Bytes.ofU16 h.sequence ++ Bytes.ofU32 h.timestamp ++
    Bytes.ofU32 h.ssrc

/-- The payload type: the low seven bits of the second byte. -/
def payloadType (h : RtpHeader) : UInt8 :=
  h.markerPayload &&& 0x7F

/-- The marker bit: the high bit of the second byte. -/
def marker (h : RtpHeader) : Bool :=
  h.markerPayload &&& 0x80 != 0

/-- Whether the packet carries comfort noise. -/
def isComfortNoise (h : RtpHeader) : Bool :=
  h.payloadType == comfortNoisePayload

end RtpHeader

/-- An RTP packet: its header and the payload after it. -/
structure RtpPacket where
  header : RtpHeader
  payload : Bytes
  deriving DecidableEq, Repr

namespace RtpPacket

/-- Decode a packet: the header and all bytes after it. -/
def parse (data : Bytes) : Except DecodeError RtpPacket :=
  (RtpHeader.parse data).map fun h => ⟨h, data.drop RtpHeader.length⟩

/-- Number of payload bytes. -/
def payloadLength (p : RtpPacket) : Nat :=
  p.payload.length

/-- The bytes of a packet: its header, then its payload. -/
def toBytes (p : RtpPacket) : Bytes :=
  p.header.toBytes ++ p.payload

end RtpPacket

end RtpAudit
