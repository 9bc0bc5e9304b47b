import RtpAudit.Packet.Error
import RtpAudit.Packet.Address

/-! # The header slices of etherparse

IPv4 and UDP headers are checked and read by the header slices of the etherparse library, version
0.16. `Ipv4HeaderSlice.fromSlice` checks only the header, in this order: the twenty fixed bytes are
there, the version is 4, the internet header length (IHL) is at least five 32-bit words, and the
bytes hold the whole header of `4 * IHL` bytes, which it keeps as its slice; the total length is
not looked at. `UdpHeaderSlice.fromSlice` checks that the eight bytes of a UDP header are there.
Every field is read from the slice, big-endian.
-/

namespace RtpAudit.Etherparse

/-- The internet header length of the IPv4 header at the start of `bs`, in 32-bit words: the low
four bits of its first byte. -/
def ihlOf (bs : Bytes) : Nat :=
  (bs.getD 0 0 &&& 0x0F).toNat

theorem ihlOf_take (bs : Bytes) {n : Nat} (h : 0 < n) : ihlOf (bs.take n) = ihlOf bs := by
  unfold ihlOf
  rw [Bytes.getD_take bs h]

/-- An IPv4 header as the library's header slice keeps it: its `4 * IHL` bytes, at least the
twenty fixed ones. -/
structure Ipv4HeaderSlice where
  slice : Bytes
  whole : slice.length = 4 * ihlOf slice
  fixed : 20 ≤ slice.length

namespace Ipv4HeaderSlice

/-- Length of the fixed part of an IPv4 header. -/
def minLen : Nat := 20

/-- Check the IPv4 header at the start of `data`. -/
def fromSlice (data : Bytes) : Except HeaderFault Ipv4HeaderSlice :=
  if data.length < minLen then .error (.truncated minLen data.length)
  else
    let version := (data.getD 0 0 >>> 4).toNat
    if version ≠ 4 then .error (.version version)
    else if hwords : ihlOf data < 5 then .error (.headerLength (ihlOf data))
    else if hlen : data.length < 4 * ihlOf data then .error (.truncated (4 * ihlOf data) data.length)
    else
      have hihl := ihlOf_take data (show 0 < 4 * ihlOf data by omega)
      have htake : (data.take (4 * ihlOf data)).length = 4 * ihlOf data := by
        rw [List.length_take]
        exact Nat.min_eq_left (Nat.not_lt.1 hlen)
      .ok ⟨data.take (4 * ihlOf data), by rw [hihl, htake], by rw [htake]; omega⟩

variable (h : Ipv4HeaderSlice)

/-- The internet header length, in 32-bit words. -/
def ihl : Nat := ihlOf h.slice

/-- The length of the whole packet, header included. -/
def totalLen : UInt16 := Bytes.u16At h.slice 2

def identification : UInt16 := Bytes.u16At h.slice 4

/-- Bit `0x40` of byte 6. -/
def dontFragment : Bool := h.slice.getD 6 0 &&& 0x40 != 0

/-- Bit `0x20` of byte 6. -/
def moreFragments : Bool := h.slice.getD 6 0 &&& 0x20 != 0

/-- The position of the payload in its datagram, in 8-byte units: the low thirteen bits of bytes 6
and 7. -/
def fragmentsOffset : UInt16 := Bytes.u16At h.slice 6 &&& 0x1FFF

def protocol : UInt8 := h.slice.getD 9 0

def source : Ipv4Address := Ipv4Address.ofBytesAt h.slice 12

def destination : Ipv4Address := Ipv4Address.ofBytesAt h.slice 16

theorem slice_length : h.slice.length = 4 * h.ihl :=
  h.whole

theorem minLen_le : minLen ≤ h.slice.length :=
  h.fixed

/-- A header is accepted exactly when it passes the four checks; its slice is its first
`4 * IHL` bytes. -/
theorem fromSlice_eq_ok {data : Bytes} {h : Ipv4HeaderSlice} :
    fromSlice data = .ok h ↔ minLen ≤ data.length ∧ (data.getD 0 0 >>> 4).toNat = 4 ∧
      5 ≤ ihlOf data ∧ 4 * ihlOf data ≤ data.length ∧ h.slice = data.take (4 * ihlOf data) := by
  unfold fromSlice
  by_cases hshort : data.length < minLen
  · rw [if_pos hshort]
    exact error_eq_ok_iff fun hc => Nat.not_le.2 hshort hc.1
  rw [if_neg hshort]
  dsimp only
  by_cases hversion : (data.getD 0 0 >>> 4).toNat ≠ 4
  · rw [if_pos hversion]
    exact error_eq_ok_iff fun hc => hversion hc.2.1
  rw [if_neg hversion]
  by_cases hwords : ihlOf data < 5
  · rw [dif_pos hwords]
    exact error_eq_ok_iff fun hc => Nat.not_le.2 hwords hc.2.2.1
  rw [dif_neg hwords]
  by_cases hlen : data.length < 4 * ihlOf data
  · rw [dif_pos hlen]
    exact error_eq_ok_iff fun hc => Nat.not_le.2 hlen hc.2.2.2.1
  rw [dif_neg hlen]
  constructor
  · intro hs
    cases hs
    exact ⟨Nat.not_lt.1 hshort, Decidable.of_not_not hversion, Nat.not_lt.1 hwords, Nat.not_lt.1 hlen, rfl⟩
  · rintro ⟨-, -, -, -, hslice⟩
    cases h
    cases hslice
    rfl

theorem getD_slice {data : Bytes} {h : Ipv4HeaderSlice} (hs : fromSlice data = .ok h) {i : Nat}
    (hi : i < minLen) : h.slice.getD i 0 = data.getD i 0 := by
  have hfixed := h.fixed
  obtain ⟨-, -, -, -, hslice⟩ := fromSlice_eq_ok.1 hs
  rw [hslice] at hfixed ⊢
  rw [List.length_take] at hfixed
  exact Bytes.getD_take data (by unfold minLen at hi; omega)

end Ipv4HeaderSlice

/-- A UDP header as the library's header slice keeps it: its eight bytes. -/
structure UdpHeaderSlice where
  slice : Bytes
  whole : slice.length = 8

namespace UdpHeaderSlice

/-- Length of a UDP header. -/
def len : Nat := 8

/-- Check the UDP header at the start of `data`. -/
def fromSlice (data : Bytes) : Except HeaderFault UdpHeaderSlice :=
  if hlen : data.length < len then .error (.truncated len data.length)
  else .ok ⟨data.take len, by rw [List.length_take]; unfold len at hlen ⊢; omega⟩

variable (h : UdpHeaderSlice)

def sourcePort : UInt16 := Bytes.u16At h.slice 0

def destinationPort : UInt16 := Bytes.u16At h.slice 2

/-- The length of the datagram, header included. -/
def length : UInt16 := Bytes.u16At h.slice 4

def checksum : UInt16 := Bytes.u16At h.slice 6

/-- The header checked is the first eight bytes of the data, which holds them. -/
theorem fromSlice_eq_ok {data : Bytes} {h : UdpHeaderSlice} :
    fromSlice data = .ok h ↔ len ≤ data.length ∧ h.slice = data.take len := by
  unfold fromSlice
  by_cases hlen : data.length < len
  · rw [dif_pos hlen]
    exact error_eq_ok_iff fun hc => Nat.not_le.2 hlen hc.1
  · rw [dif_neg hlen]
    constructor
    · intro hs
      cases hs
      exact ⟨Nat.not_lt.1 hlen, rfl⟩
    · rintro ⟨-, hslice⟩
      cases h
      cases hslice
      rfl

theorem fromSlice_append {a : Bytes} (b : Bytes) (h : len ≤ a.length) :
    fromSlice (a ++ b) = fromSlice a := by
  have hab : len ≤ (a ++ b).length := by
    rw [List.length_append]
    omega
  unfold fromSlice
  rw [dif_neg (Nat.not_lt.2 hab), dif_neg (Nat.not_lt.2 h), Except.ok.injEq, UdpHeaderSlice.mk.injEq]
  exact List.take_append_of_le_length h

end UdpHeaderSlice

end RtpAudit.Etherparse
