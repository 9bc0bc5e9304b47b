import RtpAudit.Proofs.Reassembly.Ledger

/-! # Stray records never disturb reassembly

A record that is not IPv4, does not decode, is not UDP or is for another address, and a first
fragment whose UDP header is malformed, is skipped as stray (`Outcome.isStray`). What a step leaves
in flight follows from its outcome (`Reassembler.Flight`): a stray skip leaves the datagram in flight
as it was, a pending fragment leaves one in flight, and every other outcome (a datagram given out, a
drop, a skip for the port or the payload length at the last fragment) leaves nothing.

The counters are written and never read: two reassemblers with the same configuration and the same
datagram in flight give every record the same outcome and leave the same datagram in flight
(`Reassembler.push_congr`). So taking the records a run skipped as stray out of it changes the
outcome of no other record (`Reassembler.feed_without_stray`).
-/

namespace RtpAudit

/-- Whether a step skipped a stray record: one the screen drops (not IPv4, no decodable packet, not
UDP, another address), or a first fragment whose UDP header is malformed. -/
def Outcome.isStray : Outcome → Bool
  | .skipped .notIpv4 | .skipped .malformed | .skipped .notUdp | .skipped .wrongAddress => true
  | _ => false

theorem FlowTarget.screen_isStray {t : FlowTarget} {rec : SnoopRecord} {reason : SkipReason}
    (h : t.screen rec = .error reason) : (Outcome.skipped reason).isStray = true := by
  unfold FlowTarget.screen at h
  split at h
  · cases h
    rfl
  · split at h
    · cases h
      rfl
    · split at h
      · cases h
        rfl
      · split at h
        · cases h
          rfl
        · cases h

namespace Reassembler

/-! ## What a step leaves in flight -/

/-- What a step from a reassembler holding `held` leaves in flight, by its outcome. -/
structure Flight (held : Option Slot) (step : ReassemblyStep) : Prop where
  /-- A stray record leaves the datagram in flight, or its absence, as it was. -/
  stray : step.outcome.isStray = true → step.next.slot = held
  /-- A pending fragment leaves a datagram in flight. -/
  pending : step.outcome = .pending → step.next.slot.isSome = true
  /-- Every other outcome leaves nothing in flight. -/
  settled : step.outcome.isStray = false → step.outcome ≠ .pending → step.next.slot = none

variable {r : Reassembler} {at_ : List (String × Nat)} {ip : Ipv4Packet} {step : ReassemblyStep}

theorem Flight.of_settled {held : Option Slot} (hslot : step.next.slot = none)
    (hstray : step.outcome.isStray = false) (hpending : step.outcome ≠ .pending) :
    Flight held step where
  stray h := by rw [hstray] at h; cases h
  pending h := absurd h hpending
  settled _ _ := hslot

theorem skip_flight (r : Reassembler) {reason : SkipReason}
    (h : (Outcome.skipped reason).isStray = true) (evs : List Event) :
    Flight r.slot (r.skip reason evs) where
  stray _ := rfl
  pending h := by cases h
  settled hf _ := by
    have hskip : (Outcome.skipped reason).isStray = false := hf
    rw [h] at hskip
    cases hskip

theorem abandon_flight (r : Reassembler) (m : Mismatch) (evs : List Event) (held : Option Slot) :
    Flight held (r.abandon m evs) :=
  .of_settled rfl rfl fun h => by cases h

theorem begin_error_flight (h : r.begin at_ ip = .error step) : Flight r.slot step := by
  unfold begin at h
  split at h
  · cases h
    exact skip_flight r rfl _
  · split at h
    · cases h
      exact skip_flight r rfl _
    · split at h
      · cases h
        exact skip_flight r rfl _
      · split at h
        · cases h
          exact abandon_flight r _ _ _
        · cases h

theorem continueWith_error_flight (h : r.continueWith at_ ip = .error step) (held : Option Slot) :
    Flight held step := by
  unfold continueWith at h
  split at h
  · cases h
    exact abandon_flight r _ _ _
  · split at h
    · cases h
      exact abandon_flight r _ _ _
    · dsimp only at h
      split at h
      · cases h
        exact abandon_flight r _ _ _
      · cases h

theorem complete_isStray (r : Reassembler) (rec : SnoopRecord) (at_ : List (String × Nat))
    (s : Slot) : (r.complete rec at_ s).outcome.isStray = false := by
  unfold complete
  split
  · rfl
  · split
    · rfl
    · dsimp only
      split
      · split <;> rfl
      · rfl

theorem complete_flight (hr : r.slot = none) (rec : SnoopRecord) (s : Slot) (held : Option Slot) :
    Flight held (r.complete rec at_ s) :=
  have hspec := complete_spec hr rec at_ s
  .of_settled hspec.1 (complete_isStray r rec at_ s) hspec.2.2.1

theorem place_flight (r : Reassembler) (rec : SnoopRecord) (ip : Ipv4Packet) :
    Flight r.slot (r.place rec ip) := by
  unfold place
  dsimp only
  split
  · exact abandon_flight r _ _ _
  · split
    · -- the fragment is refused when starting or continuing the datagram
      rename_i step hstep
      split at hstep
      · exact begin_error_flight hstep
      · exact continueWith_error_flight hstep _
    · rename_i r' hacc
      have hheld : r'.slot.isSome = true := by
        split at hacc
        · exact (begin_eq_ok hacc).2.2
        · exact (continueWith_eq_ok hacc).2.2
      split
      · -- more to come: the datagram stays in flight
        exact ⟨fun h => (by cases h), fun _ => (by simpa using hheld), fun _ h => absurd rfl h⟩
      · split
        · exact complete_flight rfl rec _ _
        · rename_i hnone
          rw [hnone] at hheld
          cases hheld

/-- Every step leaves in flight what its outcome says. -/
theorem push_flight (r : Reassembler) (rec : SnoopRecord) : Flight r.slot (r.push rec) := by
  obtain ⟨r₁, hs, -, -, -, -, ⟨reason, evs, hscreen, hpush⟩ | ⟨ip, -, hpush⟩⟩ := push_eq r rec
  · rw [hpush, ← hs]
    exact skip_flight r₁ (FlowTarget.screen_isStray hscreen) evs
  · rw [hpush, ← hs]
    exact place_flight r₁ rec ip

/-! ## The counters are never read -/

/-- Two results of starting or continuing a datagram that come to the same. -/
def SameAcceptance : Except ReassemblyStep Reassembler → Except ReassemblyStep Reassembler → Prop
  | .error st, .error st' => st'.outcome = st.outcome ∧ st'.next.slot = st.next.slot
  | .ok r, .ok r' => r'.slot = r.slot ∧ r'.config = r.config
  | _, _ => False

section Congr

variable {r r' : Reassembler} (hs : r'.slot = r.slot) (hc : r'.config = r.config)
include hs hc

theorem begin_congr (at_ : List (String × Nat)) (ip : Ipv4Packet) :
    SameAcceptance (r.begin at_ ip) (r'.begin at_ ip) := by
  have hmax := maxDatagram_eq_of_config hc
  unfold begin
  cases UdpHeader.parse ip.payload with
  | error e => exact ⟨rfl, hs⟩
  | ok udp =>
    dsimp only
    cases udp.dataLength with
    | error e => exact ⟨rfl, hs⟩
    | ok len =>
      dsimp only
      by_cases hshort : len < RtpHeader.length
      · rw [if_pos hshort, if_pos hshort]
        exact ⟨rfl, hs⟩
      · rw [if_neg hshort, if_neg hshort]
        by_cases hbig : r.maxDatagram < len
        · rw [if_pos hbig, if_pos (hmax ▸ hbig)]
          exact ⟨by rw [hmax]; rfl, rfl⟩
        · rw [if_neg hbig, if_neg (hmax ▸ hbig)]
          exact ⟨rfl, hc⟩

theorem continueWith_congr (at_ : List (String × Nat)) (ip : Ipv4Packet) :
    SameAcceptance (r.continueWith at_ ip) (r'.continueWith at_ ip) := by
  have hmax := maxDatagram_eq_of_config hc
  unfold continueWith
  rw [hs]
  cases r.slot with
  | none => exact ⟨rfl, rfl⟩
  | some s =>
    dsimp only
    by_cases hid : (ip.identification != s.identification) = true
    · rw [if_pos hid, if_pos hid]
      exact ⟨rfl, rfl⟩
    · rw [if_neg hid, if_neg hid]
      by_cases hbig : r.maxDatagram < ip.fragmentOffset.toNat * 8 - UdpHeader.headerLength +
          ip.payload.length
      · rw [if_pos hbig, if_pos (hmax ▸ hbig)]
        exact ⟨by rw [hmax]; rfl, rfl⟩
      · rw [if_neg hbig, if_neg (hmax ▸ hbig)]
        exact ⟨rfl, hc⟩

theorem complete_congr (rec : SnoopRecord) (at_ : List (String × Nat)) (s : Slot) :
    (r'.complete rec at_ s).outcome = (r.complete rec at_ s).outcome ∧
      (r'.complete rec at_ s).next.slot = (r.complete rec at_ s).next.slot := by
  unfold complete complete.accept
  rw [target_eq_of_config hc, expectedPayload_eq_of_config hc]
  split
  · exact ⟨rfl, hs⟩
  · split
    · exact ⟨rfl, rfl⟩
    · split
      · dsimp only
        split
        · exact ⟨rfl, hs⟩
        · exact ⟨rfl, hs⟩
      · exact ⟨rfl, hs⟩

theorem place_congr (rec : SnoopRecord) (ip : Ipv4Packet) :
    (r'.place rec ip).outcome = (r.place rec ip).outcome ∧
      (r'.place rec ip).next.slot = (r.place rec ip).next.slot := by
  have hoff : r'.expectedOffset = r.expectedOffset := by simp only [expectedOffset, hs]
  have hacc : SameAcceptance
      (if ip.fragmentOffset.toNat == 0 then r.begin [("record", rec.index)] ip
        else r.continueWith [("record", rec.index)] ip)
      (if ip.fragmentOffset.toNat == 0 then r'.begin [("record", rec.index)] ip
        else r'.continueWith [("record", rec.index)] ip) := by
    split
    · exact begin_congr hs hc _ ip
    · exact continueWith_congr hs hc _ ip
  unfold place
  dsimp only
  rw [hoff]
  split
  · exact ⟨rfl, rfl⟩
  · generalize (if ip.fragmentOffset.toNat == 0 then r.begin [("record", rec.index)] ip
        else r.continueWith [("record", rec.index)] ip) = a at hacc ⊢
    generalize (if ip.fragmentOffset.toNat == 0 then r'.begin [("record", rec.index)] ip
        else r'.continueWith [("record", rec.index)] ip) = a' at hacc ⊢
    cases a with
    | error st =>
      cases a' with
      | error st' => exact hacc
      | ok _ => exact hacc.elim
    | ok r₁ =>
      cases a' with
      | error _ => exact hacc.elim
      | ok r₁' =>
        -- both take the fragment, into reassemblers that agree
        obtain ⟨hs₁, hc₁⟩ := hacc
        dsimp only
        split
        · exact ⟨rfl, by rw [hs₁]⟩
        · rw [hs₁]
          split
          · exact @complete_congr { r₁ with slot := none } { r₁' with slot := none } rfl hc₁ rec _ _
          · exact ⟨rfl, hs₁⟩

/-- Two reassemblers that differ at most in their counters give every record the same outcome. -/
theorem push_congr (rec : SnoopRecord) :
    (r'.push rec).outcome = (r.push rec).outcome ∧
      (r'.push rec).next.slot = (r.push rec).next.slot := by
  obtain ⟨r₁, hs₁, hc₁, -, -, -, h₁⟩ := push_eq r rec
  obtain ⟨r₂, hs₂, hc₂, -, -, -, h₂⟩ := push_eq r' rec
  -- both screen the record with the same target, so both take the same branch
  rw [target_eq_of_config hc] at h₂
  rcases h₁ with ⟨reason, evs, hscreen, hpush⟩ | ⟨ip, hscreen, hpush⟩
  · obtain ⟨reason', evs', hscreen', hpush'⟩ | ⟨ip', hscreen', hpush'⟩ := h₂ <;>
      rw [hscreen] at hscreen' <;> cases hscreen'
    rw [hpush, hpush']
    exact ⟨rfl, hs₂.trans (hs.trans hs₁.symm)⟩
  · obtain ⟨reason', evs', hscreen', hpush'⟩ | ⟨ip', hscreen', hpush'⟩ := h₂ <;>
      rw [hscreen] at hscreen' <;> cases hscreen'
    rw [hpush, hpush']
    exact place_congr (hs₂.trans (hs.trans hs₁.symm)) (hc₂.trans (hc.trans hc₁.symm)) rec ip

end Congr

/-- Taking the stray records out of a run leaves the outcome of every other record. -/
theorem feed_without_stray {r r' : Reassembler} (hs : r'.slot = r.slot) (hc : r'.config = r.config)
    (recs : List SnoopRecord) :
    (r'.feed (((recs.zip (r.feed recs)).filter fun x => !x.2.outcome.isStray).map Prod.fst)).map
        (·.outcome) =
      ((recs.zip (r.feed recs)).filter fun x => !x.2.outcome.isStray).map (·.2.outcome) := by
  -- induction on the run; `r'` follows `r` past the records kept and stays put at stray ones
  induction recs generalizing r r' with
  | nil => rfl
  | cons rec recs ih =>
    have hflight := push_flight r rec
    have hcfg := push_config r rec
    rw [feed, List.zip_cons_cons, List.filter_cons]
    by_cases hstray : (r.push rec).outcome.isStray = true
    · -- a stray record leaves `r`'s slot, so the rest of the run still agrees with `r'`
      rw [if_neg (by simp [hstray])]
      exact ih (hs.trans (hflight.stray hstray).symm) (hc.trans hcfg.symm)
    · obtain ⟨hout, hslot⟩ := push_congr hs hc rec
      rw [if_pos (by simpa using hstray), List.map_cons, feed, List.map_cons, List.map_cons, hout,
        ih hslot ((push_config r' rec).trans (hc.trans hcfg.symm))]

/-- A stray record leaves the datagram in flight as it was, so taking the stray records out of a run
leaves the outcome of every other record. -/
theorem stray_records_keep_flight :
    (∀ (r : Reassembler) (rec : SnoopRecord), (r.push rec).outcome.isStray = true →
      (r.push rec).next.slot = r.slot) ∧
    (∀ (r : Reassembler) (rec : SnoopRecord), (r.push rec).outcome = .pending →
      (r.push rec).next.inFlight = true) ∧
    (∀ (r : Reassembler) (rec : SnoopRecord), (r.push rec).outcome.isStray = false →
      (r.push rec).outcome ≠ .pending →
      (r.push rec).next.slot = none ∧ (r.push rec).next.expectedOffset = 0) ∧
    ∀ (r : Reassembler) (recs : List SnoopRecord),
      let kept := (recs.zip (r.feed recs)).filter fun x => !x.2.outcome.isStray
      (r.feed (kept.map Prod.fst)).map (·.outcome) = kept.map (·.2.outcome) := by
  refine ⟨fun r rec => (push_flight r rec).stray, fun r rec => (push_flight r rec).pending,
    fun r rec hstray hpending => ?_, fun r recs => feed_without_stray rfl rfl recs⟩
  have hnone := (push_flight r rec).settled hstray hpending
  exact ⟨hnone, by rw [expectedOffset, hnone]⟩

/-- With the sample's first fragment in flight, an ARP frame is skipped as stray and keeps it, and a
whole datagram at offset zero is refused and leaves nothing in flight. -/
theorem sample_flight :
    let fresh : Reassembler := { target := Sample.target }
    let held := (fresh.push Sample.firstRecord).next
    ((fresh.push Sample.firstRecord).outcome = .pending ∧
        (fresh.push Sample.firstRecord).next.inFlight = true) ∧
      ((held.push Sample.arpRecord).outcome.isStray = true ∧
        (held.push Sample.arpRecord).next.slot = held.slot) ∧
      ((held.push Sample.wholeRecord).outcome.isStray = false ∧
        (held.push Sample.wholeRecord).outcome ≠ .pending ∧
        (held.push Sample.wholeRecord).next.slot = none ∧
        (held.push Sample.wholeRecord).next.expectedOffset = 0) :=
  have hrefused : ((({ target := Sample.target } : Reassembler).push Sample.firstRecord).next.push
      Sample.wholeRecord).outcome ≠ .pending := by
    rw [show ((({ target := Sample.target } : Reassembler).push Sample.firstRecord).next.push
      Sample.wholeRecord).outcome = .abandoned (.unexpectedOffset 2 0) from rfl]
    intro h
    cases h
  ⟨⟨rfl, stray_records_keep_flight.2.1 _ _ rfl⟩, ⟨rfl, stray_records_keep_flight.1 _ _ rfl⟩,
    ⟨rfl, hrefused, stray_records_keep_flight.2.2.1 _ _ rfl hrefused⟩⟩

end Reassembler

end RtpAudit
