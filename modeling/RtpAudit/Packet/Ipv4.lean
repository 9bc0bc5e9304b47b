import RtpAudit.Packet.Etherparse

/-! # IPv4 packets and UDP headers

An IPv4 packet is a header of `4 * IHL` bytes followed by its payload, up to the total length
the header declares. Decoding first has the header checked by etherparse
(`Etherparse.Ipv4HeaderSlice.fromSlice`: the twenty fixed bytes are there, the version is 4, the
header length is at least five words, the whole header is there), then checks that the total
length covers the header and that the bytes cover the total length. Bytes past the total length
(link-layer padding) are not part of the packet.

A UDP header is four big-endian 16-bit words: source port, destination port, length (header
included) and checksum, checked to be there by etherparse (`Etherparse.UdpHeaderSlice.fromSlice`).
The data length is the length less the eight header bytes, and is an error when the length is
smaller than the header.
-/

namespace RtpAudit

open Etherparse

/-- The fields of a decoded IPv4 packet that the program uses, and its payload. -/
structure Ipv4Packet where
  source : Ipv4Address
  destination : Ipv4Address
  identification : UInt16
  dontFragment : Bool
  moreFragments : Bool
  /-- Position of the payload in the original datagram, in 8-byte units (13 bits). -/
  fragmentOffset : UInt16
  protocol : UInt8
  totalLength : UInt16
  payload : Bytes
  deriving Repr

namespace Ipv4Packet

/-- Length of the fixed part of an IPv4 header. -/
def fixedHeaderLength : Nat := 20

/-- The IP protocol number of UDP. -/
def udpProtocol : UInt8 := 17

/-- Decode an IPv4 packet. -/
def parse (data : Bytes) : Except DecodeError Ipv4Packet := do
  let ipv4 ← (Ipv4HeaderSlice.fromSlice data).mapError (.badHeader .ipv4)
  let headerLength := ipv4.slice.length
  let total := ipv4.totalLen
  if total.toNat < headerLength then
    throw (.totalBelowHeader total.toNat headerLength)
  if data.length < total.toNat then
    throw (.tooShort .ipv4 total.toNat data.length)
  pure {
    source := ipv4.source
    destination := ipv4.destination
    identification := ipv4.identification
    dontFragment := ipv4.dontFragment
    moreFragments := ipv4.moreFragments
    fragmentOffset := ipv4.fragmentsOffset
    protocol := ipv4.protocol
    totalLength := total
    payload := (data.take total.toNat).drop headerLength }

/-- A packet is decoded exactly when its header is accepted and the total length lies between the
header's and the bytes'; the payload runs from the end of the header to the total length. -/
theorem parse_eq_ok {data : Bytes} {p : Ipv4Packet} :
    parse data = .ok p ↔ ∃ h, Ipv4HeaderSlice.fromSlice data = .ok h ∧
      h.slice.length ≤ h.totalLen.toNat ∧ h.totalLen.toNat ≤ data.length ∧
      p = { source := h.source, destination := h.destination, identification := h.identification
            dontFragment := h.dontFragment, moreFragments := h.moreFragments
            fragmentOffset := h.fragmentsOffset, protocol := h.protocol, totalLength := h.totalLen
            payload := (data.take h.totalLen.toNat).drop h.slice.length } := by
  unfold parse
  cases hs : Ipv4HeaderSlice.fromSlice data with
  | error f =>
    exact error_eq_ok_iff fun ⟨h, hh, _⟩ => by cases hh
  | ok h =>
    -- an accepted header goes on to the two checks of the total length
    have hok : (Except.ok h : Except HeaderFault Ipv4HeaderSlice).mapError
        (DecodeError.badHeader .ipv4) = .ok h := rfl
    simp only [hok, bind, Except.bind, pure, Except.pure, throw, throwThe, MonadExceptOf.throw,
      Except.ok.injEq, exists_eq_left']
    by_cases hbelow : h.totalLen.toNat < h.slice.length
    · rw [if_pos hbelow]
      exact error_eq_ok_iff fun hc => Nat.not_le.2 hbelow hc.1
    rw [if_neg hbelow]
    by_cases hbeyond : data.length < h.totalLen.toNat
    · rw [if_pos hbeyond]
      exact error_eq_ok_iff fun hc => Nat.not_le.2 hbeyond hc.2.1
    rw [if_neg hbeyond]
    constructor
    · intro hp
      cases hp
      exact ⟨Nat.not_lt.1 hbelow, Nat.not_lt.1 hbeyond, rfl⟩
    · rintro ⟨-, -, rfl⟩
      rfl

/-- A packet is a fragment when more follow it or it does not start the datagram. -/
def isFragment (p : Ipv4Packet) : Bool :=
  p.moreFragments || p.fragmentOffset != 0

end Ipv4Packet

/-- A decoded UDP header. -/
structure UdpHeader where
  srcPort : UInt16
  dstPort : UInt16
  length : UInt16
  checksum : UInt16
  deriving DecidableEq, Repr

namespace UdpHeader

/-- Length of a UDP header. -/
def headerLength : Nat := 8

/-- Decode the header at the start of `data`. -/
def parse (data : Bytes) : Except DecodeError UdpHeader := do
  let udp ← (UdpHeaderSlice.fromSlice data).mapError (.badHeader .udp)
  pure ⟨udp.sourcePort, udp.destinationPort, udp.length, udp.checksum⟩

/-- Bytes of data the header declares after itself. -/
def dataLength (h : UdpHeader) : Except DecodeError Nat :=
  if h.length.toNat < headerLength then .error (.lengthBelowHeader .udp h.length.toNat)
  else .ok (h.length.toNat - headerLength)

end UdpHeader

end RtpAudit
