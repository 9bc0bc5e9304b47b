import RtpAudit.Packet.Ipv4
import RtpAudit.Proofs.Recording.RoundTrip

/-! # The bytes an IPv4 decoder accepts

`Ipv4Packet.parse` accepts exactly the bytes that are `Framed`: twenty fixed bytes, version 4, a
header of at least five 32-bit words that the bytes hold (`HeaderFits`), and a total length that
covers the header and that the bytes cover. It reads every field at its place in the header
(`ReadFrom`); the payload runs from the end of the header to the total length, so link-layer
padding after it is left out. Other bytes are refused with the error of the first check they fail,
in that order (`Refused`).

* `versionOf`, `wordsOf`, `totalOf`: the length fields of the header as numbers;
* `flags_testBit`, `offset_toNat`: the flags and the fragment offset share bytes 6 and 7;
* `fromSlice_eq_ok_iff`, `fromSlice_eq_error_iff`: etherparse accepts exactly the headers that fit,
  keeping their bytes, and refuses the others with the first of the four header checks they fail;
* `parse_sound`, `parse_complete`: what an accepted packet holds, and which bytes are accepted;
* `parse_eq_error_iff`: why the other bytes are refused;
* `parse_exactly` puts them together.
-/

namespace RtpAudit

namespace Ipv4Packet

/-! ## The header's fields as numbers -/

/-- The IP version: the high four bits of the first byte. -/
def versionOf (data : Bytes) : Nat := (data.getD 0 0).toNat / 16

/-- The header length in 32-bit words (IHL): the low four bits of the first byte. -/
def wordsOf (data : Bytes) : Nat := (data.getD 0 0).toNat % 16

/-- The length of the whole packet, header included: bytes 2 and 3, big-endian. -/
def totalOf (data : Bytes) : Nat := (data.getD 2 0).toNat * 256 + (data.getD 3 0).toNat

theorem version_toNat (data : Bytes) : (data.getD 0 0 >>> 4).toNat = versionOf data := by
  simp [versionOf, UInt8.toNat_shiftRight, Nat.shiftRight_eq_div_pow]

theorem words_toNat (data : Bytes) : (data.getD 0 0 &&& 0x0F).toNat = wordsOf data := by
  have hmask := Nat.and_two_pow_sub_one_eq_mod (data.getD 0 0).toNat 4
  simpa [wordsOf] using hmask

theorem total_toNat (data : Bytes) : (Bytes.u16At data 2).toNat = totalOf data :=
  Bytes.word16_toNat _ _

theorem mask_ne_zero (b m : UInt8) : (b &&& m != 0) = (b.toNat &&& m.toNat != 0) := by
  rw [Bool.eq_iff_iff]
  simp only [bne_iff_ne, ne_eq, ← UInt8.toNat_inj, UInt8.toNat_and, UInt8.toNat_zero]

theorem flags_testBit (b : UInt8) :
    (b &&& 0x40 != 0) = b.toNat.testBit 6 ∧ (b &&& 0x20 != 0) = b.toNat.testBit 5 := by
  -- a byte is one of 256 numbers, each checked once
  have key : ∀ n < 256, (n &&& 64 != 0) = n.testBit 6 ∧ (n &&& 32 != 0) = n.testBit 5 := by
    decide +kernel
  rw [mask_ne_zero, mask_ne_zero]
  exact key b.toNat b.toNat_lt

theorem offset_toNat (hi lo : UInt8) :
    (Bytes.word16 hi lo &&& 0x1FFF).toNat = hi.toNat % 32 * 256 + lo.toNat := by
  have hmask := Nat.and_two_pow_sub_one_eq_mod (Bytes.word16 hi lo).toNat 13
  simp only [Nat.reducePow, Nat.reduceSub] at hmask
  have hlo := lo.toNat_lt
  rw [UInt16.toNat_and, show (0x1FFF : UInt16).toNat = 8191 from rfl, hmask, Bytes.word16_toNat]
  omega

/-! ## Accepted bytes and what is read from them -/

/-- The checks a fixed IPv4 header passes: twenty bytes, version 4, at least five words, and the
bytes hold all of them. -/
structure HeaderFits (data : Bytes) : Prop where
  fixed : fixedHeaderLength ≤ data.length
  version : versionOf data = 4
  words : 5 ≤ wordsOf data
  header : 4 * wordsOf data ≤ data.length

/-- The bytes of a decodable packet: a header that fits, and a total length that covers the header
and that the bytes cover. -/
structure Framed (data : Bytes) : Prop extends HeaderFits data where
  covers : 4 * wordsOf data ≤ totalOf data
  within : totalOf data ≤ data.length

/-- The packet `p` holds the header fields at the start of `data` and, as payload, the bytes from
the end of the header up to the total length. -/
structure ReadFrom (data : Bytes) (p : Ipv4Packet) : Prop where
  identification : p.identification.toNat = (data.getD 4 0).toNat * 256 + (data.getD 5 0).toNat
  dontFragment : p.dontFragment = (data.getD 6 0).toNat.testBit 6
  moreFragments : p.moreFragments = (data.getD 6 0).toNat.testBit 5
  fragmentOffset : p.fragmentOffset.toNat = (data.getD 6 0).toNat % 32 * 256 + (data.getD 7 0).toNat
  protocol : p.protocol = data.getD 9 0
  source : p.source = ⟨data.getD 12 0, data.getD 13 0, data.getD 14 0, data.getD 15 0⟩
  destination : p.destination = ⟨data.getD 16 0, data.getD 17 0, data.getD 18 0, data.getD 19 0⟩
  totalLength : p.totalLength.toNat = totalOf data
  payload : p.payload = (data.drop (4 * wordsOf data)).take (totalOf data - 4 * wordsOf data)

/-- Why bytes are refused: the first check they fail, with its error. The four checks of the fixed
header come first, then the two of the total length. -/
inductive Refused (data : Bytes) : DecodeError → Prop
  | short : data.length < fixedHeaderLength →
      Refused data (.badHeader .ipv4 (.truncated fixedHeaderLength data.length))
  | version : fixedHeaderLength ≤ data.length → versionOf data ≠ 4 →
      Refused data (.badHeader .ipv4 (.version (versionOf data)))
  | words : fixedHeaderLength ≤ data.length → versionOf data = 4 → wordsOf data < 5 →
      Refused data (.badHeader .ipv4 (.headerLength (wordsOf data)))
  | header : fixedHeaderLength ≤ data.length → versionOf data = 4 → 5 ≤ wordsOf data →
      data.length < 4 * wordsOf data →
      Refused data (.badHeader .ipv4 (.truncated (4 * wordsOf data) data.length))
  | totalBelow : HeaderFits data → totalOf data < 4 * wordsOf data →
      Refused data (.totalBelowHeader (totalOf data) (4 * wordsOf data))
  | totalBeyond : HeaderFits data → 4 * wordsOf data ≤ totalOf data → data.length < totalOf data →
      Refused data (.tooShort .ipv4 (totalOf data) data.length)

variable {data : Bytes} {p : Ipv4Packet} {e : DecodeError}

open Etherparse

/-! ## The header etherparse checks -/

theorem ihlOf_eq (data : Bytes) : ihlOf data = wordsOf data :=
  words_toNat data

theorem fromSlice_eq_ok_iff {s : Ipv4HeaderSlice} :
    Ipv4HeaderSlice.fromSlice data = .ok s ↔
      HeaderFits data ∧ s.slice = data.take (4 * wordsOf data) := by
  rw [Ipv4HeaderSlice.fromSlice_eq_ok, version_toNat, ihlOf_eq]
  constructor
  · rintro ⟨hfixed, hversion, hwords, hheader, hslice⟩
    exact ⟨⟨hfixed, hversion, hwords, hheader⟩, hslice⟩
  · rintro ⟨⟨hfixed, hversion, hwords, hheader⟩, hslice⟩
    exact ⟨hfixed, hversion, hwords, hheader, hslice⟩

theorem fromSlice_eq_error_iff {f : HeaderFault} :
    Ipv4HeaderSlice.fromSlice data = .error f ↔ Refused data (.badHeader .ipv4 f) := by
  have hv := version_toNat data
  have hw := ihlOf_eq data
  unfold Ipv4HeaderSlice.fromSlice
  by_cases hshort : data.length < fixedHeaderLength
  · rw [if_pos (show data.length < Ipv4HeaderSlice.minLen from hshort)]
    constructor
    · rintro ⟨⟩
      exact .short hshort
    · intro h
      cases h <;> first | rfl | omega
  rw [if_neg (show ¬data.length < Ipv4HeaderSlice.minLen from hshort)]
  dsimp only
  by_cases hversion : versionOf data ≠ 4
  · rw [if_pos (show (data.getD 0 0 >>> 4).toNat ≠ 4 by rw [hv]; exact hversion), hv]
    constructor
    · rintro ⟨⟩
      exact .version (Nat.not_lt.1 hshort) hversion
    · intro h
      cases h <;> first | rfl | omega
  rw [if_neg (show ¬(data.getD 0 0 >>> 4).toNat ≠ 4 by rw [hv]; exact hversion)]
  by_cases hwords : wordsOf data < 5
  · rw [dif_pos (show ihlOf data < 5 by rw [hw]; exact hwords), hw]
    constructor
    · rintro ⟨⟩
      exact .words (Nat.not_lt.1 hshort) (Decidable.of_not_not hversion) hwords
    · intro h
      cases h <;> first | rfl | omega
  rw [dif_neg (show ¬ihlOf data < 5 by rw [hw]; exact hwords)]
  by_cases hheader : data.length < 4 * wordsOf data
  · rw [dif_pos (show data.length < 4 * ihlOf data by rw [hw]; exact hheader), hw]
    constructor
    · rintro ⟨⟩
      exact .header (Nat.not_lt.1 hshort) (Decidable.of_not_not hversion) (Nat.not_lt.1 hwords)
        hheader
    · intro h
      cases h <;> first | rfl | omega
  rw [dif_neg (show ¬data.length < 4 * ihlOf data by rw [hw]; exact hheader)]
  constructor
  · rintro ⟨⟩
  · intro h
    cases h <;> omega

theorem slice_lengths {s : Ipv4HeaderSlice} (hs : Ipv4HeaderSlice.fromSlice data = .ok s) :
    HeaderFits data ∧ s.slice.length = 4 * wordsOf data ∧ s.totalLen.toNat = totalOf data := by
  obtain ⟨hfits, hslice⟩ := fromSlice_eq_ok_iff.1 hs
  refine ⟨hfits, by rw [hslice, List.length_take]; exact Nat.min_eq_left hfits.header, ?_⟩
  rw [← total_toNat, Ipv4HeaderSlice.totalLen, Bytes.u16At, Bytes.u16At,
    Ipv4HeaderSlice.getD_slice hs (by decide), Ipv4HeaderSlice.getD_slice hs (by decide)]

theorem slice_readFrom {s : Ipv4HeaderSlice} (hs : Ipv4HeaderSlice.fromSlice data = .ok s) :
    ReadFrom data
      { source := s.source, destination := s.destination, identification := s.identification
        dontFragment := s.dontFragment, moreFragments := s.moreFragments
        fragmentOffset := s.fragmentsOffset, protocol := s.protocol, totalLength := s.totalLen
        payload := (data.take s.totalLen.toNat).drop s.slice.length } := by
  obtain ⟨-, hlength, htotal⟩ := slice_lengths hs
  have hbyte : ∀ i, i < 20 → s.slice.getD i 0 = data.getD i 0 :=
    fun i hi => Ipv4HeaderSlice.getD_slice hs hi
  exact {
    identification := by
      show (Bytes.word16 (s.slice.getD 4 0) (s.slice.getD 5 0)).toNat = _
      rw [hbyte 4 (by decide), hbyte 5 (by decide), Bytes.word16_toNat]
    dontFragment := by
      show (s.slice.getD 6 0 &&& 0x40 != 0) = _
      rw [hbyte 6 (by decide), (flags_testBit _).1]
    moreFragments := by
      show (s.slice.getD 6 0 &&& 0x20 != 0) = _
      rw [hbyte 6 (by decide), (flags_testBit _).2]
    fragmentOffset := by
      show (Bytes.word16 (s.slice.getD 6 0) (s.slice.getD 7 0) &&& 0x1FFF).toNat = _
      rw [hbyte 6 (by decide), hbyte 7 (by decide), offset_toNat]
    protocol := hbyte 9 (by decide)
    source := by
      show Ipv4Address.ofBytesAt s.slice 12 = _
      rw [Ipv4Address.ofBytesAt, hbyte 12 (by decide), hbyte 13 (by decide), hbyte 14 (by decide),
        hbyte 15 (by decide)]
    destination := by
      show Ipv4Address.ofBytesAt s.slice 16 = _
      rw [Ipv4Address.ofBytesAt, hbyte 16 (by decide), hbyte 17 (by decide), hbyte 18 (by decide),
        hbyte 19 (by decide)]
    totalLength := htotal
    payload := by
      show (data.take s.totalLen.toNat).drop s.slice.length = _
      rw [htotal, hlength, List.drop_take] }

theorem HeaderFits.not_refused {f : HeaderFault} (hf : HeaderFits data) :
    ¬Refused data (.badHeader .ipv4 f) := by
  have := hf.fixed
  have := hf.version
  have := hf.words
  have := hf.header
  intro h
  cases h <;> omega

theorem Refused.header_unique {f : HeaderFault} (hfault : Refused data (.badHeader .ipv4 f))
    (h : Refused data e) : e = .badHeader .ipv4 f := by
  cases h with
  | totalBelow hf _ => exact absurd hfault hf.not_refused
  | totalBeyond hf _ _ => exact absurd hfault hf.not_refused
  | short => cases hfault <;> first | rfl | omega
  | version => cases hfault <;> first | rfl | omega
  | words => cases hfault <;> first | rfl | omega
  | header => cases hfault <;> first | rfl | omega

/-! ## Accepted bytes and what is read from them -/

/-- An accepted packet passed every check and holds the fields read at their places. -/
theorem parse_sound (h : parse data = .ok p) : Framed data ∧ ReadFrom data p := by
  obtain ⟨s, hs, hcover, hwithin, rfl⟩ := parse_eq_ok.1 h
  obtain ⟨hfits, hlength, htotal⟩ := slice_lengths hs
  rw [hlength, htotal] at hcover
  rw [htotal] at hwithin
  exact ⟨⟨hfits, hcover, hwithin⟩, slice_readFrom hs⟩

/-- Every framed packet is accepted. -/
theorem parse_complete (h : Framed data) : ∃ p, parse data = .ok p := by
  -- the header fits, so etherparse accepts it
  cases hs : Ipv4HeaderSlice.fromSlice data with
  | error f => exact absurd (fromSlice_eq_error_iff.1 hs) h.not_refused
  | ok s =>
    obtain ⟨-, hlength, htotal⟩ := slice_lengths hs
    exact ⟨_, parse_eq_ok.2 ⟨s, hs, by rw [hlength, htotal]; exact h.covers,
      by rw [htotal]; exact h.within, rfl⟩⟩

theorem parse_eq_error_iff : parse data = .error e ↔ Refused data e := by
  cases hs : Ipv4HeaderSlice.fromSlice data with
  | error f =>
    -- the header itself is refused, and decoding stops with its fault
    have hparse : parse data = .error (.badHeader .ipv4 f) := by
      unfold parse
      rw [hs]
      rfl
    rw [hparse]
    constructor
    · rintro ⟨⟩
      exact fromSlice_eq_error_iff.1 hs
    · intro h
      rw [(fromSlice_eq_error_iff.1 hs).header_unique h]
  | ok s =>
    obtain ⟨hfits, hlength, htotal⟩ := slice_lengths hs
    have hparse : parse data =
        if totalOf data < 4 * wordsOf data then .error (.totalBelowHeader (totalOf data) (4 * wordsOf data))
        else if data.length < totalOf data then .error (.tooShort .ipv4 (totalOf data) data.length)
        else .ok
          { source := s.source, destination := s.destination, identification := s.identification
            dontFragment := s.dontFragment, moreFragments := s.moreFragments
            fragmentOffset := s.fragmentsOffset, protocol := s.protocol, totalLength := s.totalLen
            payload := (data.take s.totalLen.toNat).drop s.slice.length } := by
      unfold parse
      rw [hs, ← hlength, ← htotal]
      rfl
    rw [hparse]
    constructor
    · intro h
      split at h
      · cases h
        exact .totalBelow hfits ‹_›
      split at h
      · cases h
        exact .totalBeyond hfits (Nat.not_lt.1 ‹_›) ‹_›
      · cases h
    · intro h
      cases h with
      | short hshort => exact absurd hfits.fixed (Nat.not_le.2 hshort)
      | version _ hv => exact absurd hfits.version hv
      | words _ _ hw => exact absurd hfits.words (Nat.not_le.2 hw)
      | header _ _ _ hh => exact absurd hfits.header (Nat.not_le.2 hh)
      | totalBelow _ ht => rw [if_pos ht]
      | totalBeyond _ hc ht => rw [if_neg (Nat.not_lt.2 hc), if_pos ht]

/-- IPv4 decoding accepts exactly the framed bytes, reads every field at its place, and refuses
other bytes with the error of the first check they fail. -/
theorem parse_exactly (data : Bytes) :
    ((∃ p, parse data = .ok p) ↔ Framed data) ∧
      (∀ p, parse data = .ok p → ReadFrom data p) ∧
      ∀ e, parse data = .error e ↔ Refused data e :=
  ⟨⟨fun ⟨_, h⟩ => (parse_sound h).1, parse_complete⟩, fun _ h => (parse_sound h).2,
    fun _ => parse_eq_error_iff⟩

/-- A fragment at offset 185 with more to come: the flag bit shares byte 6 with the offset. -/
example : (parse [0x45, 0x00, 0x00, 0x18, 0xbe, 0xef, 0x20, 0xb9, 0x40, 0x11, 0x00, 0x00,
    0xc0, 0xa8, 0x01, 0x01, 0xc0, 0xa8, 0x01, 0x02, 0xaa, 0xbb, 0xcc, 0xdd]).toOption.map
      (fun p => (p.moreFragments, p.fragmentOffset.toNat, p.payload)) =
    some (true, 185, [0xaa, 0xbb, 0xcc, 0xdd]) := by
  decide

end Ipv4Packet

end RtpAudit
