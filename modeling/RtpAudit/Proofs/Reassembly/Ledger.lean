import RtpAudit.Proofs.Reassembly.Sound

/-! # What the reassembly counters account for

A datagram starts when its first fragment opens a slot (`Reassembler.opens`). It ends in one of
four ways: it is completed, it is skipped at its last fragment for its port or its payload length,
it is dropped while in flight, or its last fragment leaves it shorter than its UDP header declared.
The counters record the first three (`ReassemblyStats.settled`). The last is given out as an
abandoned datagram, yet nothing counts it: the slot is emptied before the length is checked, and a
drop is counted only when a slot is still held.

* `Reassembler.push_eq`: a push counts the record and either skips it with the screen's reason or
  places its packet;
* `Reassembler.place_tally`, `Reassembler.push_tally`: one step counts one record, one datagram
  when it gives one out, and moves the datagrams counted or in flight (`Reassembler.ledger`) by the
  datagram it opens, less the one it finds short;
* `Reassembler.run_tally`: so over a run;
* `feed_opened_accounted`: from a fresh reassembler, the datagrams opened are those the counters
  record, those found short, and the one in flight;
* `short_datagram_uncounted`: a single whole datagram shorter than its UDP header declares is
  opened and abandoned, and no counter records it.
-/

namespace RtpAudit

/-- Whether skipping for this reason ends an opened datagram: the port and the payload length are
checked at the last fragment. -/
def SkipReason.endsDatagram : SkipReason → Bool
  | .wrongPort | .unexpectedLength => true
  | _ => false

namespace Outcome

/-- The datagram given out, if any. -/
def datagram? : Outcome → Option Datagram
  | .complete d => some d
  | _ => none

/-- Whether the step found its datagram shorter than its UDP header declared. -/
def isShort : Outcome → Bool
  | .abandoned (.incomplete ..) => true
  | _ => false

end Outcome

namespace ReassemblyStats

/-- The opened datagrams whose end the counters record: completed, skipped for their port or
payload length, or dropped while in flight. -/
def settled (s : ReassemblyStats) : Nat :=
  s.datagrams + s.wrongPort + s.unexpectedLength + s.abandoned

@[simp] theorem countSkip_records (s : ReassemblyStats) (reason : SkipReason) :
    (s.countSkip reason).records = s.records := by
  cases reason <;> rfl

@[simp] theorem countSkip_datagrams (s : ReassemblyStats) (reason : SkipReason) :
    (s.countSkip reason).datagrams = s.datagrams := by
  cases reason <;> rfl

theorem countSkip_settled (s : ReassemblyStats) (reason : SkipReason) :
    (s.countSkip reason).settled = s.settled + reason.endsDatagram.toNat := by
  cases reason <;> simp only [countSkip, settled, SkipReason.endsDatagram, Bool.toNat_true,
    Bool.toNat_false] <;> omega

end ReassemblyStats

theorem FlowTarget.screen_endsDatagram {t : FlowTarget} {rec : SnoopRecord} {reason : SkipReason}
    (h : t.screen rec = .error reason) : reason.endsDatagram = false := by
  unfold FlowTarget.screen at h
  split at h
  · cases h
    rfl
  · split at h
    · cases h
      rfl
    · split at h
      · cases h
        rfl
      · split at h
        · cases h
          rfl
        · cases h

namespace Reassembler

/-- The opened datagrams accounted for: those the counters record, and the one in flight. -/
def ledger (r : Reassembler) : Nat :=
  r.stats.settled + r.inFlight.toNat

/-- Every datagram in flight expects a fragment past its first. -/
def Expecting (r : Reassembler) : Prop :=
  ∀ s, r.slot = some s → 0 < s.nextOffset

/-- Whether the kept packet `ip` opens a datagram: a first fragment taken into a new slot. -/
def opensWith (r : Reassembler) (ip : Ipv4Packet) : Bool :=
  ip.fragmentOffset.toNat == 0 && (r.slotAfter? ip).isSome

/-- Whether pushing `rec` opens a datagram. -/
def opens (r : Reassembler) (rec : SnoopRecord) : Bool :=
  match r.target.screen rec with
  | .ok ip => r.opensWith ip
  | .error _ => false

/-- The datagrams opened by feeding records one after another. -/
def openings (r : Reassembler) : List SnoopRecord → Nat
  | [] => 0
  | rec :: recs => (r.opens rec).toNat + (r.push rec).next.openings recs

/-- A step from `r` counts no record and moves the datagrams counted by the one it gives out, and
the datagrams counted or in flight by the one it opens, less the one it finds short. -/
structure Tally (r : Reassembler) (step : ReassemblyStep) (opened : Bool) : Prop where
  records : step.next.stats.records = r.stats.records
  datagrams : step.next.stats.datagrams = r.stats.datagrams + step.outcome.datagram?.isSome.toNat
  ledger : step.next.ledger + step.outcome.isShort.toNat = r.ledger + opened.toNat

/-! ## The steps a push is made of -/

variable {r r' : Reassembler} {at_ : List (String × Nat)} {ip : Ipv4Packet} {step : ReassemblyStep}

theorem skip_tally (r : Reassembler) (reason : SkipReason) (evs : List Event)
    (hr : reason.endsDatagram = false) : Tally r (r.skip reason evs) false where
  records := ReassemblyStats.countSkip_records _ _
  datagrams := ReassemblyStats.countSkip_datagrams _ _
  ledger := by
    simp only [ledger, skip, inFlight, ReassemblyStats.countSkip_settled, hr, Outcome.isShort]
    rfl

theorem abandon_tally (r : Reassembler) (m : Mismatch) (evs : List Event)
    (hm : ∀ d a, m ≠ .incomplete d a) : Tally r (r.abandon m evs) false where
  records := by
    unfold abandon
    split <;> rfl
  datagrams := by
    unfold abandon
    split <;> rfl
  ledger := by
    have hshort : (Outcome.abandoned m).isShort = false := by
      cases m with
      | incomplete d a => exact absurd rfl (hm d a)
      | _ => rfl
    unfold ledger abandon inFlight
    rw [hshort]
    cases r.slot <;> simp [ReassemblyStats.settled]
    omega

theorem begin_eq_error (h : r.begin at_ ip = .error step) : Tally r step false := by
  unfold begin at h
  split at h
  · cases h
    exact skip_tally _ _ _ rfl
  · split at h
    · cases h
      exact skip_tally _ _ _ rfl
    · split at h
      · cases h
        exact skip_tally _ _ _ rfl
      · split at h
        · cases h
          exact abandon_tally _ _ _ nofun
        · cases h

theorem begin_eq_ok (h : r.begin at_ ip = .ok r') :
    r'.stats = r.stats ∧ r'.slot = Slot.start? r.maxDatagram ip ∧ r'.slot.isSome := by
  cases hs : Slot.start? r.maxDatagram ip with
  | none =>
    obtain ⟨step, herr, -⟩ := begin_of_start_none at_ hs
    rw [herr] at h
    cases h
  | some s =>
    rw [begin_of_start hs] at h
    cases h
    exact ⟨rfl, rfl, rfl⟩

theorem continueWith_eq_error (h : r.continueWith at_ ip = .error step) : Tally r step false := by
  unfold continueWith at h
  split at h
  · cases h
    exact abandon_tally _ _ _ nofun
  · split at h
    · cases h
      exact abandon_tally _ _ _ nofun
    · dsimp only at h
      split at h
      · cases h
        exact abandon_tally _ _ _ nofun
      · cases h

theorem continueWith_eq_ok (h : r.continueWith at_ ip = .ok r') :
    r'.stats = r.stats ∧ r.slot.isSome ∧ r'.slot.isSome := by
  unfold continueWith at h
  split at h
  · cases h
  · rename_i hs
    split at h
    · cases h
    · dsimp only at h
      split at h
      · cases h
      · cases h
        rw [hs]
        exact ⟨rfl, rfl, rfl⟩

theorem complete_tally (hr : r.slot = none) (rec : SnoopRecord) (s : Slot) :
    (r.complete rec at_ s).next.stats.records = r.stats.records ∧
      (r.complete rec at_ s).next.stats.datagrams =
        r.stats.datagrams + (r.complete rec at_ s).outcome.datagram?.isSome.toNat ∧
      (r.complete rec at_ s).next.ledger + (r.complete rec at_ s).outcome.isShort.toNat =
        r.ledger + 1 := by
  have hl : r.ledger = r.stats.settled := by simp [ledger, inFlight, hr]
  -- a skip at the last fragment ends the datagram taken out of the slot
  have skip_ends : ∀ reason evs, reason.endsDatagram = true →
      (r.skip reason evs).next.ledger + (Outcome.skipped reason).isShort.toNat = r.ledger + 1 := by
    intro reason evs hr'
    simp only [ledger, skip, inFlight, hr, ReassemblyStats.countSkip_settled, hr']
    rfl
  unfold complete
  split
  · exact ⟨ReassemblyStats.countSkip_records _ _, ReassemblyStats.countSkip_datagrams _ _,
      skip_ends _ _ rfl⟩
  · split
    · refine ⟨?_, ?_, ?_⟩ <;> simp [abandon, hr, ledger, inFlight, Outcome.isShort, Outcome.datagram?]
    · dsimp only
      -- the datagram is given out unless its payload has another length than the one expected
      have accept_tally : (complete.accept r rec s).next.stats.records = r.stats.records ∧
          (complete.accept r rec s).next.stats.datagrams =
            r.stats.datagrams + (complete.accept r rec s).outcome.datagram?.isSome.toNat ∧
          (complete.accept r rec s).next.ledger + (complete.accept r rec s).outcome.isShort.toNat =
            r.ledger + 1 := by
        refine ⟨rfl, rfl, ?_⟩
        simp only [complete.accept, ledger, inFlight, hr, ReassemblyStats.settled,
          Outcome.isShort, Option.isSome_none, Bool.toNat_false]
        omega
      split
      · split
        · exact ⟨ReassemblyStats.countSkip_records _ _, ReassemblyStats.countSkip_datagrams _ _,
            skip_ends _ _ rfl⟩
        · exact accept_tally
      · exact accept_tally

theorem accepted_tally (at_ : List (String × Nat)) (he : r.Expecting)
    (hoff : ip.fragmentOffset.toNat = r.expectedOffset) :
    (∀ step, (if ip.fragmentOffset.toNat == 0 then r.begin at_ ip else r.continueWith at_ ip) =
        .error step → Tally r step false ∧ r.opensWith ip = false) ∧
      ∀ r', (if ip.fragmentOffset.toNat == 0 then r.begin at_ ip else r.continueWith at_ ip) =
        .ok r' → r'.stats = r.stats ∧ r'.slot.isSome ∧ r'.ledger = r.ledger + (r.opensWith ip).toNat := by
  by_cases h0 : ip.fragmentOffset.toNat = 0
  · -- a first fragment is expected only when nothing is in flight
    have hnone : r.slot = none := by
      cases hs : r.slot with
      | none => rfl
      | some s =>
        have := he s hs
        simp only [expectedOffset, hs] at hoff
        omega
    have hafter : r.slotAfter? ip = Slot.start? r.maxDatagram ip := by
      unfold slotAfter?
      rw [if_neg (not_not_intro hoff), if_pos h0]
    simp only [h0, beq_self_eq_true, ite_true]
    refine ⟨fun step h => ⟨begin_eq_error h, ?_⟩, fun r' h => ?_⟩
    · cases hs : Slot.start? r.maxDatagram ip with
      | none => simp [opensWith, hafter, hs]
      | some s =>
        rw [begin_of_start hs] at h
        cases h
    · obtain ⟨hstats, hslot, hsome⟩ := begin_eq_ok h
      have hopen : r.opensWith ip = true := by
        simp only [opensWith, h0, beq_self_eq_true, hafter, ← hslot, hsome, Bool.and_self]
      refine ⟨hstats, hsome, ?_⟩
      simp only [ledger, inFlight, hstats, hsome, hnone, hopen, Option.isSome_none, Bool.toNat_true,
        Bool.toNat_false]
  · have hopen : r.opensWith ip = false := by simp [opensWith, h0]
    have hne : (ip.fragmentOffset.toNat == 0) = false := by simpa using h0
    simp only [hne, Bool.false_eq_true, ite_false]
    refine ⟨fun step h => ⟨continueWith_eq_error h, hopen⟩, fun r' h => ?_⟩
    obtain ⟨hstats, hheld, hsome⟩ := continueWith_eq_ok h
    refine ⟨hstats, hsome, ?_⟩
    simp only [ledger, inFlight, hstats, hheld, hsome, hopen, Bool.toNat_false, Nat.add_zero]

theorem place_tally (he : r.Expecting) (rec : SnoopRecord) (ip : Ipv4Packet) :
    Tally r (r.place rec ip) (r.opensWith ip) := by
  unfold place
  dsimp only
  split
  · -- a fragment at another offset than the expected one drops the datagram in flight
    rename_i hoff
    have hopen : r.opensWith ip = false := by
      simp only [opensWith, slotAfter?, show ip.fragmentOffset.toNat ≠ r.expectedOffset by
        simpa using hoff, ne_eq, not_false_eq_true, ite_true, Option.isSome_none, Bool.and_false]
    rw [hopen]
    exact abandon_tally _ _ _ nofun
  · rename_i hoff
    obtain ⟨herror, hok⟩ := accepted_tally [("record", rec.index)] he (by simpa using hoff)
    split
    · rename_i step hstep
      obtain ⟨ht, hopen⟩ := herror step hstep
      rw [hopen]
      exact ht
    · rename_i r' hstep
      obtain ⟨hstats, hsome, hledger⟩ := hok r' hstep
      split
      · -- more to come: the datagram stays in flight
        refine ⟨by rw [hstats], by simp [hstats, Outcome.datagram?], ?_⟩
        simp only [ledger, inFlight, Option.isSome_map, Outcome.isShort, Bool.toNat_false,
          Nat.add_zero] at hledger ⊢
        exact hledger
      · split
        · -- the last fragment ends the datagram taken out of the slot
          rename_i s hs
          obtain ⟨hrec, hdg, hled⟩ := complete_tally (r := { r' with slot := none }) rfl rec s
          refine ⟨hrec.trans (by rw [hstats]), hdg.trans (by rw [hstats]), ?_⟩
          rw [hled, ← hledger]
          simp [ledger, inFlight, hs]
        · refine ⟨by rw [hstats], by simp [hstats, Outcome.datagram?], ?_⟩
          simp only [Outcome.isShort, Bool.toNat_false, Nat.add_zero]
          exact hledger

theorem push_eq (r : Reassembler) (rec : SnoopRecord) :
    ∃ r₁ : Reassembler, r₁.slot = r.slot ∧ r₁.config = r.config ∧
      r₁.stats.records = r.stats.records + 1 ∧ r₁.stats.datagrams = r.stats.datagrams ∧
      r₁.stats.settled = r.stats.settled ∧
      ((∃ reason evs, r.target.screen rec = .error reason ∧ r.push rec = r₁.skip reason evs) ∨
        ∃ ip, r.target.screen rec = .ok ip ∧ r.push rec = r₁.place rec ip) := by
  let r₁ : Reassembler := { r with stats := { r.stats with records := r.stats.records + 1 } }
  unfold push
  by_cases hip : rec.nextHeader? = some SnoopRecord.ipv4Type
  · simp only [hip, bne_self_eq_false, Bool.false_eq_true, ite_false]
    cases hparse : Ipv4Packet.parse rec.networkPayload with
    | error e =>
      have hout : r.target.screen rec = .error .malformed := by
        simp [FlowTarget.screen, hip, hparse]
      exact ⟨r₁, rfl, rfl, rfl, rfl, rfl, .inl ⟨_, _, hout, rfl⟩⟩
    | ok ip =>
      dsimp only
      by_cases hp : ip.protocol = Ipv4Packet.udpProtocol
      · by_cases ha : r.target.addressOf ip = r.target.address
        · have hkept : r.target.screen rec = .ok ip := FlowTarget.screen_eq_ok.2 ⟨hip, hparse, hp, ha⟩
          simp only [hp, ha, bne_self_eq_false, Bool.false_eq_true, ite_false]
          split
          · exact ⟨{ r₁ with stats := { r₁.stats with fragments := r₁.stats.fragments + 1 } },
              rfl, rfl, rfl, rfl, rfl, .inr ⟨ip, hkept, rfl⟩⟩
          · exact ⟨r₁, rfl, rfl, rfl, rfl, rfl, .inr ⟨ip, hkept, rfl⟩⟩
        · have hout : r.target.screen rec = .error .wrongAddress := by
            simp [FlowTarget.screen, hip, hparse, hp, ha]
          simp only [hp, bne_self_eq_false, Bool.false_eq_true, ite_false]
          rw [if_pos (by simpa using ha)]
          exact ⟨r₁, rfl, rfl, rfl, rfl, rfl, .inl ⟨_, _, hout, rfl⟩⟩
      · have hout : r.target.screen rec = .error .notUdp := by
          simp [FlowTarget.screen, hip, hparse, hp]
        rw [if_pos (by simpa using hp)]
        exact ⟨r₁, rfl, rfl, rfl, rfl, rfl, .inl ⟨_, _, hout, rfl⟩⟩
  · have hout : r.target.screen rec = .error .notIpv4 := by simp [FlowTarget.screen, hip]
    rw [if_pos (by simpa using hip)]
    exact ⟨r₁, rfl, rfl, rfl, rfl, rfl, .inl ⟨_, _, hout, rfl⟩⟩

/-- One push counts its record, the datagram it gives out, and the datagram it opens or finds
short. -/
theorem push_tally (he : r.Expecting) (rec : SnoopRecord) :
    (r.push rec).next.stats.records = r.stats.records + 1 ∧
      (r.push rec).next.stats.datagrams =
        r.stats.datagrams + (r.push rec).outcome.datagram?.isSome.toNat ∧
      (r.push rec).next.ledger + (r.push rec).outcome.isShort.toNat = r.ledger + (r.opens rec).toNat := by
  obtain ⟨r₁, hslot, hcfg, hrec, hdg, hset, hcase⟩ := push_eq r rec
  have hl : r₁.ledger = r.ledger := by simp only [ledger, inFlight, hslot, hset]
  have he₁ : r₁.Expecting := fun s hs => he s (hslot ▸ hs)
  rcases hcase with ⟨reason, evs, hout, hpush⟩ | ⟨ip, hkept, hpush⟩
  · have hopen : r.opens rec = false := by simp only [opens, hout]
    have ht := skip_tally r₁ reason evs (FlowTarget.screen_endsDatagram hout)
    rw [hpush, hopen, ← hrec, ← hdg, ← hl]
    exact ⟨ht.records, ht.datagrams, ht.ledger⟩
  · have hopen : r.opens rec = r₁.opensWith ip := by
      simp only [opens, hkept, opensWith, slotAfter_congr hslot hcfg]
    have ht := place_tally he₁ rec ip
    rw [hpush, hopen, ← hrec, ← hdg, ← hl]
    exact ⟨ht.records, ht.datagrams, ht.ledger⟩

theorem slotAfter_advance_pos (he : r.Expecting) {s : Slot} (h : r.slotAfter? ip = some s) :
    0 < (s.advance ip).nextOffset := by
  unfold slotAfter? at h
  split at h
  · cases h
  · split at h
    · unfold Slot.start? at h
      split at h
      · cases h
      · rename_i udp hudp
        have hlen := UdpHeader.headerLength_le_of_parse hudp
        split at h
        · cases h
        · split at h
          · cases h
            simp only [Slot.advance]
            unfold UdpHeader.headerLength at hlen
            omega
          · cases h
    · obtain ⟨s₀, hs₀, hext⟩ := Option.bind_eq_some_iff.1 h
      unfold Slot.extend? at hext
      split at hext
      · cases hext
        have := he s₀ hs₀
        simp only [Slot.advance]
        omega
      · cases hext

theorem push_expecting (he : r.Expecting) (rec : SnoopRecord) : (r.push rec).next.Expecting := by
  intro s hs
  cases hk : r.target.screen rec with
  | error reason =>
    obtain ⟨-, hslot, -⟩ := push_screened_out hk
    exact he s (hslot ▸ hs)
  | ok ip =>
    cases h : r.slotAfter? ip with
    | none =>
      obtain ⟨-, hnext, -⟩ := push_refused hk h
      rcases hnext with hnone | ⟨hsame, -⟩
      · rw [hnone] at hs
        cases hs
      · exact he s (hsame ▸ hs)
    | some s' =>
      cases hm : ip.moreFragments with
      | true =>
        obtain ⟨-, hnext, -⟩ := push_more hk h hm
        rw [hnext, Option.some.injEq] at hs
        subst hs
        exact slotAfter_advance_pos he h
      | false =>
        rw [(push_last hk h hm).1] at hs
        cases hs

/-! ## Runs -/

/-- The datagrams given out by feeding records one after another, in order. -/
def completed (r : Reassembler) (recs : List SnoopRecord) : List Datagram :=
  (r.feed recs).filterMap (·.outcome.datagram?)

theorem expecting_of_slot_none (hr : r.slot = none) : r.Expecting := by
  intro s hs
  rw [hr] at hs
  cases hs

/-- Over a run, the counters and the datagram in flight account for every datagram opened. -/
theorem run_tally (he : r.Expecting) (recs : List SnoopRecord) :
    (r.run recs).stats.records = r.stats.records + recs.length ∧
      (r.run recs).stats.datagrams = r.stats.datagrams + (r.completed recs).length ∧
      (r.run recs).ledger + (r.feed recs).countP (·.outcome.isShort) = r.ledger + r.openings recs := by
  induction recs generalizing r with
  | nil => simp [run, completed, feed, openings]
  | cons rec recs ih =>
    obtain ⟨hrec, hdg, hled⟩ := push_tally he rec
    obtain ⟨hrec', hdg', hled'⟩ := ih (push_expecting he rec)
    have hgiven : (r.completed (rec :: recs)).length =
        (r.push rec).outcome.datagram?.isSome.toNat + ((r.push rec).next.completed recs).length := by
      simp only [completed, feed, List.filterMap_cons]
      cases (r.push rec).outcome.datagram? <;> simp
      omega
    have hshort : (r.feed (rec :: recs)).countP (·.outcome.isShort) =
        ((r.push rec).next.feed recs).countP (·.outcome.isShort) + (r.push rec).outcome.isShort.toNat := by
      simp only [feed, List.countP_cons]
      cases (r.push rec).outcome.isShort <;> rfl
    refine ⟨?_, ?_, ?_⟩
    · rw [run, hrec', hrec, List.length_cons]
      omega
    · rw [run, hdg', hdg, hgiven]
      omega
    · rw [run, hshort, openings]
      omega

end Reassembler

/-- A fresh reassembler has opened as many datagrams as it counted out, plus those found shorter than
declared, plus the one in flight. -/
theorem feed_opened_accounted (t : FlowTarget) (expected : Option Nat) (limit : Nat)
    (recs : List SnoopRecord) :
    let r : Reassembler := { target := t, expectedPayload := expected, maxDatagram := limit }
    r.openings recs = (r.run recs).stats.datagrams + (r.run recs).stats.wrongPort +
      (r.run recs).stats.unexpectedLength + (r.run recs).stats.abandoned +
      (r.feed recs).countP (·.outcome.isShort) + (r.run recs).inFlight.toNat := by
  intro r
  obtain ⟨-, -, hled⟩ := Reassembler.run_tally (Reassembler.expecting_of_slot_none (r := r) rfl) recs
  have hfresh : r.ledger = 0 := rfl
  rw [hfresh, Nat.zero_add] at hled
  simp only [Reassembler.ledger, ReassemblyStats.settled] at hled
  omega

namespace Sample

/-- The sample datagram's UDP and RTP headers alone, in one unfragmented packet: its UDP header
declares twenty bytes of data, and twelve are there. -/
def shortRecord : SnoopRecord :=
  ⟨1, 0, ⟨5, 0⟩, 54, ethernet ++ ipv4Header 40 0 ++ datagram.take 20⟩

end Sample

/-- A whole datagram shorter than its UDP header declares is opened and abandoned as short, but no
counter records it, so the opened datagrams outnumber those counted and in flight. -/
theorem short_datagram_uncounted :
    let r : Reassembler := { target := Sample.target }
    (r.feed [Sample.shortRecord]).map (·.outcome.isShort) = [true] ∧
      r.openings [Sample.shortRecord] = 1 ∧ (r.run [Sample.shortRecord]).stats.abandoned = 0 ∧
      r.openings [Sample.shortRecord] ≠ (r.run [Sample.shortRecord]).stats.datagrams +
        (r.run [Sample.shortRecord]).stats.wrongPort +
        (r.run [Sample.shortRecord]).stats.unexpectedLength +
        (r.run [Sample.shortRecord]).stats.abandoned + (r.run [Sample.shortRecord]).inFlight.toNat := by
  decide

end RtpAudit
