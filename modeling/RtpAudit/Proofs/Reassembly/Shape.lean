import RtpAudit.Proofs.Reassembly.Sound

/-! # The shape of a datagram in flight

Offsets count 8-byte units and start at the UDP header, which the buffer does not keep, while the
buffer keeps every byte a fragment brings, also past its whole units. Between records, the datagram
in flight, if any, is `Slot.Shaped`: it expects an offset past the first unit, declares room for an
RTP header, holds at least one fragment, and its buffer ends within the unit before the offset it
expects (`8 * nextOffset - 8 ≤ buffer.length ≤ 8 * nextOffset - 1`).

* `Slot.start_shaped`, `Slot.extend_shaped`: a first fragment, or a continuation at the offset
  expected, with more to come, leaves a shaped slot;
* `Reassembler.push_shaped`, `Reassembler.run_shaped`: every step, hence every run from nothing in
  flight, keeps the datagram in flight shaped.

Hence an expected offset of zero means nothing is in flight, so a first fragment never replaces a
datagram in flight; a continuation cuts the buffer back by fewer than eight bytes and never pads it
with zeros; and neither defensive branch of a step (a continuation with nothing in flight, a last
fragment that leaves no slot to complete) is ever taken (`flight_shape`).
-/

namespace RtpAudit

namespace Slot

/-- The shape of a datagram in flight between records. -/
structure Shaped (s : Slot) : Prop where
  offset_pos : 0 < s.nextOffset
  declared : RtpHeader.length ≤ s.declared
  fragments_pos : 0 < s.fragments
  buffer_ge : 8 * s.nextOffset - 8 ≤ s.buffer.length
  buffer_le : s.buffer.length ≤ 8 * s.nextOffset - 1

variable {limit : Nat} {ip : Ipv4Packet} {s s₀ : Slot}

/-- A first fragment with more to come leaves a shaped slot. -/
theorem start_shaped (h : start? limit ip = some s) : (s.advance ip).Shaped := by
  unfold start? at h
  split at h
  · cases h
  · rename_i udp hudp
    have hlen := UdpHeader.headerLength_le_of_parse hudp
    split at h
    · cases h
    · split at h
      · rename_i hok
        cases h
        -- the buffer is the payload past the header, the offset after its whole units
        unfold UdpHeader.headerLength at hlen
        exact ⟨by simp only [advance]; omega, hok.1, Nat.one_pos,
          by simp only [advance, List.length_drop, UdpHeader.headerLength]; omega,
          by simp only [advance, List.length_drop, UdpHeader.headerLength]; omega⟩
      · cases h

theorem position_of_offset {n : Nat} (hoff : ip.fragmentOffset.toNat = n) : position ip = 8 * n - 8 := by
  unfold position UdpHeader.headerLength
  omega

theorem Shaped.cut (hs : s.Shaped) (hoff : ip.fragmentOffset.toNat = s.nextOffset) :
    position ip ≤ s.buffer.length ∧ s.buffer.length < position ip + 8 ∧
      s.buffer.resize (position ip) = s.buffer.take (position ip) := by
  have hpos := position_of_offset hoff
  have hge := hs.buffer_ge
  have hle := hs.buffer_le
  have := hs.offset_pos
  have hin : position ip ≤ s.buffer.length := by omega
  exact ⟨hin, by omega, Bytes.resize_of_le hin⟩

/-- A continuation at the offset expected, with more to come, keeps the slot shaped. -/
theorem extend_shaped (hs : s₀.Shaped) (hoff : ip.fragmentOffset.toNat = s₀.nextOffset)
    (h : extend? limit s₀ ip = some s) : (s.advance ip).Shaped := by
  unfold extend? at h
  split at h
  · cases h
    obtain ⟨hin, -, hcut⟩ := hs.cut hoff
    have hpos := position_of_offset hoff
    have hlen : (s₀.buffer.resize (position ip)).length = 8 * s₀.nextOffset - 8 := by
      rw [hcut, List.length_take, ← hpos]
      omega
    have := hs.offset_pos
    refine ⟨by simp only [advance]; omega, hs.declared, by simp only [advance]; omega, ?_, ?_⟩
    · simp only [advance, List.length_append, hlen]
      omega
    · simp only [advance, List.length_append, hlen]
      omega
  · cases h

end Slot

namespace Reassembler

/-- The datagram in flight, if any, is shaped. -/
def Shaped (r : Reassembler) : Prop :=
  ∀ s, r.slot = some s → s.Shaped

variable {r : Reassembler} {ip : Ipv4Packet} {s : Slot}

theorem shaped_of_slot_none (h : r.slot = none) : r.Shaped := by
  intro s hs
  rw [h] at hs
  cases hs

theorem slot_eq_none_of_expectedOffset (hr : r.Shaped) (h : r.expectedOffset = 0) :
    r.slot = none := by
  cases hs : r.slot with
  | none => rfl
  | some s =>
    have hpos := (hr s hs).offset_pos
    simp only [expectedOffset, hs] at h
    omega

theorem slotAfter_shaped (hr : r.Shaped) (h : r.slotAfter? ip = some s) : (s.advance ip).Shaped := by
  unfold slotAfter? at h
  split at h
  · cases h
  · rename_i hoff
    split at h
    · exact Slot.start_shaped h
    · obtain ⟨s₀, hs₀, hext⟩ := Option.bind_eq_some_iff.1 h
      have hexpected : r.expectedOffset = s₀.nextOffset := by simp only [expectedOffset, hs₀]
      exact Slot.extend_shaped (hr s₀ hs₀) (by omega) hext

theorem push_shaped (hr : r.Shaped) (rec : SnoopRecord) : (r.push rec).next.Shaped :=
  push_keeps hr fun _ _ _ h _ => slotAfter_shaped hr h

theorem run_shaped (hr : r.Shaped) (recs : List SnoopRecord) : (r.run recs).Shaped := by
  induction recs generalizing r with
  | nil => exact hr
  | cons rec recs ih => exact ih (push_shaped hr rec)

/-! ## The defensive branches -/

theorem slot_isSome_of_expected (hoff : ip.fragmentOffset.toNat = r.expectedOffset)
    (h0 : ip.fragmentOffset.toNat ≠ 0) : r.slot.isSome := by
  cases hs : r.slot with
  | none =>
    simp only [expectedOffset, hs] at hoff
    exact absurd hoff h0
  | some s => rfl

theorem accepted_slot_isSome {at_ : List (String × Nat)} {r' : Reassembler}
    (hoff : ip.fragmentOffset.toNat = r.expectedOffset)
    (h : (if ip.fragmentOffset.toNat == 0 then r.begin at_ ip else r.continueWith at_ ip) = .ok r') :
    r'.slot.isSome := by
  cases hs : r.slotAfter? ip with
  | none =>
    obtain ⟨step, hstep, -⟩ := accepted_of_slotAfter_none at_ hs hoff
    rw [hstep] at h
    cases h
  | some s =>
    rw [(accepted_of_slotAfter at_ hs).2, Except.ok.injEq] at h
    rw [← h]
    rfl

/-- In every run from nothing in flight, the datagram in flight keeps its shape, so a first fragment
never replaces it and a continuation never pads it. -/
theorem flight_shape (r₀ : Reassembler) (h₀ : r₀.slot = none) (recs : List SnoopRecord) :
    (∀ s, (r₀.run recs).slot = some s →
      1 ≤ s.nextOffset ∧ RtpHeader.length ≤ s.declared ∧ 1 ≤ s.fragments ∧
        8 * s.nextOffset - 8 ≤ s.buffer.length ∧ s.buffer.length ≤ 8 * s.nextOffset - 1) ∧
    ((r₀.run recs).expectedOffset = 0 → (r₀.run recs).slot = none) ∧
    (∀ s (ip : Ipv4Packet), (r₀.run recs).slot = some s → ip.fragmentOffset.toNat = s.nextOffset →
      Slot.position ip ≤ s.buffer.length ∧ s.buffer.length < Slot.position ip + 8 ∧
        s.buffer.resize (Slot.position ip) = s.buffer.take (Slot.position ip)) ∧
    (∀ ip : Ipv4Packet, ip.fragmentOffset.toNat = (r₀.run recs).expectedOffset →
      ip.fragmentOffset.toNat ≠ 0 →
      (r₀.run recs).slot.isSome) ∧
    ∀ at_ (ip : Ipv4Packet) (r' : Reassembler), ip.fragmentOffset.toNat = (r₀.run recs).expectedOffset →
      (if ip.fragmentOffset.toNat == 0 then (r₀.run recs).begin at_ ip
        else (r₀.run recs).continueWith at_ ip) = .ok r' → r'.slot.isSome := by
  have hr := run_shaped (shaped_of_slot_none h₀) recs
  refine ⟨fun s hs => ?_, slot_eq_none_of_expectedOffset hr, fun s ip hs hoff => (hr s hs).cut hoff,
    fun ip hoff h0 => slot_isSome_of_expected hoff h0, fun at_ ip r' hoff h => accepted_slot_isSome hoff h⟩
  have hshape := hr s hs
  exact ⟨hshape.offset_pos, hshape.declared, hshape.fragments_pos, hshape.buffer_ge, hshape.buffer_le⟩

/-- After the sample's first fragment and an ARP frame, a fresh reassembler holds the datagram in
flight, expecting offset 2, and its slot has the shape above. -/
theorem sample_flight_shape :
    let fresh : Reassembler := { target := Sample.target }
    fresh.slot = none ∧ (fresh.run [Sample.firstRecord, Sample.arpRecord]).expectedOffset = 2 ∧
      ∀ s, (fresh.run [Sample.firstRecord, Sample.arpRecord]).slot = some s →
        1 ≤ s.nextOffset ∧ RtpHeader.length ≤ s.declared ∧ 1 ≤ s.fragments ∧
          8 * s.nextOffset - 8 ≤ s.buffer.length ∧ s.buffer.length ≤ 8 * s.nextOffset - 1 :=
  ⟨rfl, rfl, (flight_shape { target := Sample.target } rfl [Sample.firstRecord, Sample.arpRecord]).1⟩

end Reassembler

end RtpAudit
