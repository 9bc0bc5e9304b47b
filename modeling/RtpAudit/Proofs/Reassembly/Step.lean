import RtpAudit.Flow.Reassembly

/-! # One step of the reassembler

`Reassembler.push` read in two halves, so that later proofs never unfold it:

* the screen (`FlowTarget.screen`) keeps the IPv4 UDP packets of the followed address and gives
  every other record the reason it is skipped; a screened-out record is skipped with that reason
  and leaves the datagram in flight as it was (`push_screened_out`);
* a kept packet is taken as the next fragment (`Reassembler.slotAfter?`: the offset expected, then
  `Slot.start?` for a first fragment or `Slot.extend?` for a continuation) or refused. A taken
  fragment with more to come leaves the datagram pending (`push_more`), the last one ends it
  (`push_last`), and a refused one yields no datagram and leaves nothing new in flight
  (`push_refused`).

A step never changes the configuration: target, expected payload length and size limit
(`push_config`). `Reassembler.run` is the state after a list of records, and `feed_getElem?` reads
the step of the `i`-th record as a push from the state the records before it leave.
-/

namespace RtpAudit

namespace FlowTarget

/-- The IPv4 UDP packet of the followed address that a record carries, or why the reassembler skips
the record. -/
def screen (t : FlowTarget) (rec : SnoopRecord) : Except SkipReason Ipv4Packet :=
  if rec.nextHeader? ≠ some SnoopRecord.ipv4Type then .error .notIpv4
  else
    match Ipv4Packet.parse rec.networkPayload with
    | .error _ => .error .malformed
    | .ok ip =>
      if ip.protocol ≠ Ipv4Packet.udpProtocol then .error .notUdp
      else if t.addressOf ip ≠ t.address then .error .wrongAddress
      else .ok ip

theorem screen_eq_ok {t : FlowTarget} {rec : SnoopRecord} {ip : Ipv4Packet} :
    t.screen rec = .ok ip ↔ rec.nextHeader? = some SnoopRecord.ipv4Type ∧
      Ipv4Packet.parse rec.networkPayload = .ok ip ∧ ip.protocol = Ipv4Packet.udpProtocol ∧
      t.addressOf ip = t.address := by
  unfold screen
  split
  · simp_all
  · split
    · simp_all
    · rename_i ip' hparse
      by_cases hp : ip'.protocol = Ipv4Packet.udpProtocol <;>
        by_cases ha : t.addressOf ip' = t.address <;> simp [hp, ha, hparse] <;> grind

theorem screen_eq_error {t : FlowTarget} {rec : SnoopRecord} :
    (∃ reason, t.screen rec = .error reason) ↔
      rec.nextHeader? ≠ some SnoopRecord.ipv4Type ∨
      (∃ e, Ipv4Packet.parse rec.networkPayload = .error e) ∨
      ∃ ip, Ipv4Packet.parse rec.networkPayload = .ok ip ∧
        (ip.protocol ≠ Ipv4Packet.udpProtocol ∨ t.addressOf ip ≠ t.address) := by
  unfold screen
  split
  · simp_all
  · split
    · simp_all
    · split <;> (try split) <;> simp_all

end FlowTarget

theorem Bytes.resize_of_le {bs : Bytes} {n : Nat} (h : n ≤ bs.length) : bs.resize n = bs.take n := by
  simp [Bytes.resize, Nat.sub_eq_zero_of_le h]

/-- The offset, in 8-byte units, where the fragment after the packets `ips` starts: the whole units
of their payloads. -/
def Ipv4Packet.offsetAfter : List Ipv4Packet → Nat
  | [] => 0
  | ip :: ips => ip.payload.length / 8 + Ipv4Packet.offsetAfter ips

@[simp] theorem Ipv4Packet.offsetAfter_nil : Ipv4Packet.offsetAfter [] = 0 := rfl

@[simp] theorem Ipv4Packet.offsetAfter_cons (ip : Ipv4Packet) (ips : List Ipv4Packet) :
    Ipv4Packet.offsetAfter (ip :: ips) = ip.payload.length / 8 + Ipv4Packet.offsetAfter ips := rfl

theorem Ipv4Packet.offsetAfter_append (ip : Ipv4Packet) :
    ∀ ips : List Ipv4Packet,
      Ipv4Packet.offsetAfter (ips ++ [ip]) = Ipv4Packet.offsetAfter ips + ip.payload.length / 8
  | [] => by simp
  | ip' :: ips => by
    rw [List.cons_append, Ipv4Packet.offsetAfter_cons, Ipv4Packet.offsetAfter_cons,
      Ipv4Packet.offsetAfter_append ip ips, Nat.add_assoc]

/-- The bytes that the packets `ips` carry, one payload after another. -/
def Ipv4Packet.payloads (ips : List Ipv4Packet) : Bytes :=
  (ips.map (·.payload)).flatten

@[simp] theorem Ipv4Packet.payloads_nil : Ipv4Packet.payloads [] = [] := rfl

@[simp] theorem Ipv4Packet.payloads_append (ips ips' : List Ipv4Packet) :
    Ipv4Packet.payloads (ips ++ ips') = Ipv4Packet.payloads ips ++ Ipv4Packet.payloads ips' := by
  simp [Ipv4Packet.payloads]

@[simp] theorem Ipv4Packet.payloads_cons (ip : Ipv4Packet) (ips : List Ipv4Packet) :
    Ipv4Packet.payloads (ip :: ips) = ip.payload ++ Ipv4Packet.payloads ips := rfl

theorem Ipv4Packet.offsetAfter_whole :
    ∀ ips : List Ipv4Packet, (∀ ip ∈ ips, ip.payload.length % 8 = 0) →
      8 * Ipv4Packet.offsetAfter ips = (Ipv4Packet.payloads ips).length
  | [], _ => rfl
  | ip :: ips, h => by
    have ih := Ipv4Packet.offsetAfter_whole ips fun ip' hip' => h ip' (.tail _ hip')
    have hip := h ip (.head _)
    simp only [Ipv4Packet.offsetAfter_cons, Ipv4Packet.payloads_cons, List.length_append]
    omega

namespace Slot

/-- The slot a first fragment opens: its UDP header decodes and declares room for an RTP header
within `limit` bytes of data. -/
def start? (limit : Nat) (ip : Ipv4Packet) : Option Slot :=
  match UdpHeader.parse ip.payload with
  | .error _ => none
  | .ok udp =>
    match udp.dataLength with
    | .error _ => none
    | .ok len =>
      if RtpHeader.length ≤ len ∧ len ≤ limit then
        some ⟨ip.identification, 0, ip.source, ip.destination, udp, len,
          ip.payload.drop UdpHeader.headerLength, 1⟩
      else none

/-- Where a continuation's bytes land in the UDP data: its offset in bytes, less the UDP header
that the first fragment carried. -/
def position (ip : Ipv4Packet) : Nat :=
  ip.fragmentOffset.toNat * 8 - UdpHeader.headerLength

/-- The slot after a continuation of the same datagram whose bytes end within `limit`. -/
def extend? (limit : Nat) (s : Slot) (ip : Ipv4Packet) : Option Slot :=
  if ip.identification = s.identification ∧ position ip + ip.payload.length ≤ limit then
    some { s with buffer := s.buffer.resize (position ip) ++ ip.payload, fragments := s.fragments + 1 }
  else none

/-- The slot once a fragment with more to come is taken: the next one must start where this one's
whole 8-byte units end. -/
def advance (s : Slot) (ip : Ipv4Packet) : Slot :=
  { s with nextOffset := s.nextOffset + ip.payload.length / 8 }

/-- The datagram a slot completes into, at the record of its last fragment. -/
def datagram (s : Slot) (rec : SnoopRecord) : Datagram :=
  ⟨rec.index, rec.time, s.source, s.destination, s.udp, s.fragments, s.buffer.take s.declared⟩

@[simp] theorem advance_fragments (s : Slot) (ip : Ipv4Packet) :
    (s.advance ip).fragments = s.fragments := rfl

end Slot

namespace Reassembler

/-- The slot a kept packet leads to as the next fragment, or none when it is refused: its offset is
not the one expected, or it can neither start nor continue the datagram. -/
def slotAfter? (r : Reassembler) (ip : Ipv4Packet) : Option Slot :=
  if ip.fragmentOffset.toNat ≠ r.expectedOffset then none
  else if ip.fragmentOffset.toNat = 0 then Slot.start? r.maxDatagram ip
  else r.slot.bind fun s => s.extend? r.maxDatagram ip

/-- What the last fragment's checks ask of a slot: the port on the followed side, a buffer that
covers the declared length, and the expected RTP payload length, if one is set. -/
def Completes (r : Reassembler) (s : Slot) : Prop :=
  r.target.portOf s.udp = r.target.port ∧ s.declared ≤ s.buffer.length ∧
    ∀ e, r.expectedPayload = some e → e = s.declared - RtpHeader.length

/-- A step that yields nothing: the record is skipped or the datagram in flight dropped. -/
def Refusal (o : Outcome) : Prop :=
  (∃ reason, o = .skipped reason) ∨ ∃ m, o = .abandoned m

/-- The configuration of a run, which no step changes. -/
def config (r : Reassembler) : FlowTarget × Option Nat × Nat :=
  (r.target, r.expectedPayload, r.maxDatagram)

theorem target_eq_of_config {r r' : Reassembler} (h : r'.config = r.config) : r'.target = r.target :=
  congrArg Prod.fst h

theorem expectedPayload_eq_of_config {r r' : Reassembler} (h : r'.config = r.config) :
    r'.expectedPayload = r.expectedPayload :=
  congrArg (fun c => c.2.1) h

theorem maxDatagram_eq_of_config {r r' : Reassembler} (h : r'.config = r.config) :
    r'.maxDatagram = r.maxDatagram :=
  congrArg (fun c => c.2.2) h

/-! ## The halves of a step -/

theorem skip_next (r : Reassembler) (reason : SkipReason) (evs : List Event) :
    (r.skip reason evs).next.slot = r.slot ∧ (r.skip reason evs).next.config = r.config ∧
      (r.skip reason evs).outcome = .skipped reason :=
  ⟨rfl, rfl, rfl⟩

theorem abandon_next (r : Reassembler) (m : Mismatch) (evs : List Event) :
    (r.abandon m evs).next.slot = none ∧ (r.abandon m evs).next.config = r.config ∧
      (r.abandon m evs).outcome = .abandoned m :=
  ⟨rfl, rfl, rfl⟩

theorem begin_of_start {r : Reassembler} {at_ : List (String × Nat)} {ip : Ipv4Packet} {s : Slot}
    (h : Slot.start? r.maxDatagram ip = some s) : r.begin at_ ip = .ok { r with slot := some s } := by
  unfold Slot.start? at h
  unfold begin
  cases hudp : UdpHeader.parse ip.payload with
  | error e => simp only [hudp, reduceCtorEq] at h
  | ok udp =>
    simp only [hudp] at h ⊢
    cases hlen : udp.dataLength with
    | error e => simp only [hlen, reduceCtorEq] at h
    | ok len =>
      simp only [hlen] at h ⊢
      by_cases hok : RtpHeader.length ≤ len ∧ len ≤ r.maxDatagram
      · rw [if_pos hok, Option.some.injEq] at h
        subst h
        rw [if_neg (by omega), if_neg (by omega)]
      · rw [if_neg hok] at h
        cases h

theorem begin_of_start_none {r : Reassembler} (at_ : List (String × Nat)) {ip : Ipv4Packet}
    (h : Slot.start? r.maxDatagram ip = none) :
    ∃ step, r.begin at_ ip = .error step ∧ Refusal step.outcome ∧
      (step.next.slot = r.slot ∨ step.next.slot = none) ∧ step.next.config = r.config := by
  unfold Slot.start? at h
  unfold begin
  split
  · exact ⟨_, rfl, .inl ⟨_, rfl⟩, .inl rfl, rfl⟩
  · rename_i udp hudp
    rw [hudp] at h
    split
    · exact ⟨_, rfl, .inl ⟨_, rfl⟩, .inl rfl, rfl⟩
    · rename_i len hlen
      simp only [hlen] at h
      split
      · exact ⟨_, rfl, .inl ⟨_, rfl⟩, .inl rfl, rfl⟩
      · split
        · exact ⟨_, rfl, .inr ⟨_, rfl⟩, .inr rfl, rfl⟩
        · rw [if_pos (by omega)] at h
          cases h

theorem continueWith_of_extend {r : Reassembler} {at_ : List (String × Nat)} {ip : Ipv4Packet}
    {s s' : Slot} (hs : r.slot = some s) (h : s.extend? r.maxDatagram ip = some s') :
    r.continueWith at_ ip = .ok { r with slot := some s' } := by
  unfold Slot.extend? at h
  split at h
  · rename_i hok
    cases h
    unfold continueWith
    rw [hs]
    simp only [hok.1, bne_self_eq_false, Bool.false_eq_true, ite_false]
    rw [if_neg (by unfold Slot.position at hok; omega)]
    rfl
  · cases h

theorem continueWith_of_extend_none {r : Reassembler} (at_ : List (String × Nat)) {ip : Ipv4Packet}
    (h : (r.slot.bind fun s => s.extend? r.maxDatagram ip) = none) :
    ∃ step, r.continueWith at_ ip = .error step ∧ Refusal step.outcome ∧ step.next.slot = none ∧
      step.next.config = r.config := by
  unfold continueWith
  split
  · exact ⟨_, rfl, .inr ⟨_, rfl⟩, rfl, rfl⟩
  · rename_i s hs
    rw [hs] at h
    simp only [Option.bind_some, Slot.extend?, Slot.position] at h
    split
    · exact ⟨_, rfl, .inr ⟨_, rfl⟩, rfl, rfl⟩
    · rename_i hid
      dsimp only
      split
      · exact ⟨_, rfl, .inr ⟨_, rfl⟩, rfl, rfl⟩
      · have hfits : ip.identification = s.identification ∧
            ip.fragmentOffset.toNat * 8 - UdpHeader.headerLength + ip.payload.length ≤ r.maxDatagram :=
          ⟨by simpa using hid, by omega⟩
        simp [hfits] at h

/-- Completing a slot leaves nothing in flight and yields the slot's datagram when it is whole. -/
theorem complete_spec {r : Reassembler} (hr : r.slot = none) (rec : SnoopRecord)
    (at_ : List (String × Nat)) (s : Slot) :
    (r.complete rec at_ s).next.slot = none ∧ (r.complete rec at_ s).next.config = r.config ∧
      (r.complete rec at_ s).outcome ≠ .pending ∧
      ∀ d, (r.complete rec at_ s).outcome = .complete d ↔ r.Completes s ∧ d = s.datagram rec := by
  unfold complete complete.accept Completes Slot.datagram skip abandon
  split
  · rename_i hport
    refine ⟨hr, rfl, nofun, fun d => ?_⟩
    simp only [reduceCtorEq, false_iff, not_and]
    intro h
    simp [h] at hport
  · rename_i hport
    have hport' : r.target.portOf s.udp = r.target.port := by simpa using hport
    split
    · rename_i hlen
      refine ⟨rfl, rfl, nofun, fun d => ?_⟩
      simp only [reduceCtorEq, false_iff, not_and]
      intro _ h
      omega
    · rename_i hlen
      dsimp only
      split
      · rename_i e he
        split
        · rename_i hne
          refine ⟨hr, rfl, nofun, fun d => ?_⟩
          simp only [reduceCtorEq, false_iff, not_and]
          rintro ⟨-, -, h⟩ -
          simp [h e he] at hne
        · rename_i heq
          refine ⟨hr, rfl, nofun, fun d => ?_⟩
          simp only [Outcome.complete.injEq]
          constructor
          · rintro rfl
            refine ⟨⟨hport', by omega, fun e' he' => ?_⟩, rfl⟩
            rw [he] at he'
            cases he'
            simpa using heq
          · rintro ⟨-, rfl⟩
            rfl
      · rename_i he
        refine ⟨hr, rfl, nofun, fun d => ?_⟩
        simp only [Outcome.complete.injEq]
        constructor
        · rintro rfl
          exact ⟨⟨hport', by omega, fun e' he' => by simp [he] at he'⟩, rfl⟩
        · rintro ⟨-, rfl⟩
          rfl

theorem accepted_of_slotAfter {r : Reassembler} (at_ : List (String × Nat)) {ip : Ipv4Packet}
    {s : Slot} (h : r.slotAfter? ip = some s) :
    ip.fragmentOffset.toNat = r.expectedOffset ∧
      (if ip.fragmentOffset.toNat == 0 then r.begin at_ ip else r.continueWith at_ ip) =
        .ok { r with slot := some s } := by
  unfold slotAfter? at h
  split at h
  · cases h
  · rename_i hoff
    refine ⟨by simpa using hoff, ?_⟩
    split at h
    · rename_i h0
      rw [if_pos (by simpa using h0)]
      exact begin_of_start h
    · rename_i h0
      rw [if_neg (by simpa using h0)]
      obtain ⟨s₀, hs₀, hext⟩ := Option.bind_eq_some_iff.1 h
      exact continueWith_of_extend hs₀ hext

theorem accepted_of_slotAfter_none {r : Reassembler} (at_ : List (String × Nat)) {ip : Ipv4Packet}
    (h : r.slotAfter? ip = none) (hoff : ip.fragmentOffset.toNat = r.expectedOffset) :
    ∃ step, (if ip.fragmentOffset.toNat == 0 then r.begin at_ ip else r.continueWith at_ ip) =
        .error step ∧ Refusal step.outcome ∧
      (step.next.slot = none ∨ (step.next.slot = r.slot ∧ r.expectedOffset = 0)) ∧
      step.next.config = r.config := by
  unfold slotAfter? at h
  rw [if_neg (by simpa using hoff)] at h
  split at h
  · rename_i h0
    rw [if_pos (by simpa using h0)]
    obtain ⟨step, hstep, href, hslot, hcfg⟩ := begin_of_start_none at_ h
    refine ⟨step, hstep, href, ?_, hcfg⟩
    rcases hslot with hslot | hslot
    · exact .inr ⟨hslot, by omega⟩
    · exact .inl hslot
  · rename_i h0
    rw [if_neg (by simpa using h0)]
    obtain ⟨step, hstep, href, hslot, hcfg⟩ := continueWith_of_extend_none at_ h
    exact ⟨step, hstep, href, .inl hslot, hcfg⟩

/-! ## Taking a kept packet -/

theorem place_more {r : Reassembler} {rec : SnoopRecord} {ip : Ipv4Packet} {s : Slot}
    (h : r.slotAfter? ip = some s) (hm : ip.moreFragments = true) :
    (r.place rec ip).outcome = .pending ∧ (r.place rec ip).next.slot = some (s.advance ip) ∧
      (r.place rec ip).next.config = r.config := by
  obtain ⟨hoff, hacc⟩ := accepted_of_slotAfter [("record", rec.index)] h
  unfold place
  simp only [hoff, bne_self_eq_false, Bool.false_eq_true, ite_false]
  rw [← hoff, hacc]
  simp only [hm, ite_true, Option.map_some]
  exact ⟨trivial, rfl, rfl⟩

theorem place_last {r : Reassembler} (rec : SnoopRecord) {ip : Ipv4Packet} {s : Slot}
    (h : r.slotAfter? ip = some s) (hm : ip.moreFragments = false) :
    (r.place rec ip).next.slot = none ∧ (r.place rec ip).next.config = r.config ∧
      (r.place rec ip).outcome ≠ .pending ∧
      ∀ d, (r.place rec ip).outcome = .complete d ↔ r.Completes s ∧ d = s.datagram rec := by
  obtain ⟨hoff, hacc⟩ := accepted_of_slotAfter [("record", rec.index)] h
  unfold place
  simp only [hoff, bne_self_eq_false, Bool.false_eq_true, ite_false]
  rw [← hoff, hacc]
  simp only [hm, Bool.false_eq_true, ite_false]
  exact complete_spec rfl rec _ s

theorem place_refused {r : Reassembler} (rec : SnoopRecord) {ip : Ipv4Packet}
    (h : r.slotAfter? ip = none) :
    Refusal (r.place rec ip).outcome ∧
      ((r.place rec ip).next.slot = none ∨
        ((r.place rec ip).next.slot = r.slot ∧ r.expectedOffset = 0)) ∧
      (r.place rec ip).next.config = r.config := by
  unfold place
  dsimp only
  split
  · exact ⟨.inr ⟨_, rfl⟩, .inl rfl, rfl⟩
  · rename_i hoff
    obtain ⟨step, hstep, hrest⟩ :=
      accepted_of_slotAfter_none [("record", rec.index)] h (by simpa using hoff)
    rw [hstep]
    exact hrest

theorem slotAfter_congr {r r' : Reassembler} (hs : r'.slot = r.slot) (hc : r'.config = r.config)
    (ip : Ipv4Packet) : r'.slotAfter? ip = r.slotAfter? ip := by
  unfold slotAfter? expectedOffset
  rw [hs, maxDatagram_eq_of_config hc]

theorem completes_congr {r r' : Reassembler} (hc : r'.config = r.config) (s : Slot) :
    r'.Completes s ↔ r.Completes s := by
  simp only [Completes, target_eq_of_config hc, expectedPayload_eq_of_config hc]

/-! ## Both halves: a step -/

theorem push_screened_out {r : Reassembler} {rec : SnoopRecord} {reason : SkipReason}
    (h : r.target.screen rec = .error reason) :
    (r.push rec).outcome = .skipped reason ∧ (r.push rec).next.slot = r.slot ∧
      (r.push rec).next.config = r.config := by
  unfold FlowTarget.screen at h
  unfold push
  by_cases hip : rec.nextHeader? = some SnoopRecord.ipv4Type
  · simp only [hip, ne_eq, not_true_eq_false, ite_false] at h
    simp only [hip, bne_self_eq_false, Bool.false_eq_true, ite_false]
    cases hparse : Ipv4Packet.parse rec.networkPayload with
    | error e =>
      rw [hparse] at h
      cases h
      exact ⟨rfl, rfl, rfl⟩
    | ok ip =>
      simp only [hparse] at h ⊢
      by_cases hp : ip.protocol = Ipv4Packet.udpProtocol
      · by_cases ha : r.target.addressOf ip = r.target.address
        · simp [hp, ha] at h
        · simp only [hp, ha, not_true_eq_false, not_false_eq_true, ite_true, ite_false,
            Except.error.injEq] at h
          subst h
          simp only [hp, bne_self_eq_false, Bool.false_eq_true, ite_false]
          rw [if_pos (by simpa using ha)]
          exact ⟨rfl, rfl, rfl⟩
      · simp only [hp, not_false_eq_true, ite_true, Except.error.injEq] at h
        subst h
        rw [if_pos (by simpa using hp)]
        exact ⟨rfl, rfl, rfl⟩
  · simp only [hip, ne_eq, not_false_eq_true, ite_true, Except.error.injEq] at h
    subst h
    rw [if_pos (by simpa using hip)]
    exact ⟨rfl, rfl, rfl⟩

theorem push_kept {r : Reassembler} {rec : SnoopRecord} {ip : Ipv4Packet}
    (h : r.target.screen rec = .ok ip) :
    ∃ r' : Reassembler, r'.slot = r.slot ∧ r'.config = r.config ∧ r.push rec = r'.place rec ip := by
  obtain ⟨h1, h2, h3, h4⟩ := FlowTarget.screen_eq_ok.1 h
  unfold push
  simp only [h1, h2, h3, h4, bne_self_eq_false, Bool.false_eq_true, ite_false]
  split
  · refine ⟨_, ?_, ?_, rfl⟩ <;> rfl
  · refine ⟨_, ?_, ?_, rfl⟩ <;> rfl

theorem push_more {r : Reassembler} {rec : SnoopRecord} {ip : Ipv4Packet} {s : Slot}
    (hk : r.target.screen rec = .ok ip) (h : r.slotAfter? ip = some s) (hm : ip.moreFragments = true) :
    (r.push rec).outcome = .pending ∧ (r.push rec).next.slot = some (s.advance ip) ∧
      (r.push rec).next.config = r.config := by
  obtain ⟨r', hs, hc, hpush⟩ := push_kept hk
  rw [hpush, ← hc]
  exact place_more (by rw [slotAfter_congr hs hc]; exact h) hm

theorem push_last {r : Reassembler} {rec : SnoopRecord} {ip : Ipv4Packet} {s : Slot}
    (hk : r.target.screen rec = .ok ip) (h : r.slotAfter? ip = some s) (hm : ip.moreFragments = false) :
    (r.push rec).next.slot = none ∧ (r.push rec).next.config = r.config ∧
      (r.push rec).outcome ≠ .pending ∧
      ∀ d, (r.push rec).outcome = .complete d ↔ r.Completes s ∧ d = s.datagram rec := by
  obtain ⟨r', hs, hc, hpush⟩ := push_kept hk
  obtain ⟨h1, h2, h3, h4⟩ := place_last rec (by rw [slotAfter_congr hs hc]; exact h) hm
  rw [hpush]
  refine ⟨h1, h2.trans hc, h3, fun d => ?_⟩
  rw [h4 d, completes_congr hc]

theorem push_refused {r : Reassembler} {rec : SnoopRecord} {ip : Ipv4Packet}
    (hk : r.target.screen rec = .ok ip) (h : r.slotAfter? ip = none) :
    Refusal (r.push rec).outcome ∧
      ((r.push rec).next.slot = none ∨
        ((r.push rec).next.slot = r.slot ∧ r.expectedOffset = 0)) ∧
      (r.push rec).next.config = r.config := by
  obtain ⟨r', hs, hc, hpush⟩ := push_kept hk
  obtain ⟨h1, h2, h3⟩ := place_refused rec (by rw [slotAfter_congr hs hc]; exact h)
  have hoff : r'.expectedOffset = r.expectedOffset := by simp only [expectedOffset, hs]
  rw [hpush, ← hs, ← hoff]
  exact ⟨h1, h2, h3.trans hc⟩

/-- A step keeps the slot it found, empties it, or leaves the slot of a packet with more to come. -/
theorem push_keeps {P : Slot → Prop} {r : Reassembler} {rec : SnoopRecord}
    (hr : ∀ s, r.slot = some s → P s)
    (htaken : ∀ ip s, r.target.screen rec = .ok ip → r.slotAfter? ip = some s →
      ip.moreFragments = true → P (s.advance ip)) :
    ∀ s, (r.push rec).next.slot = some s → P s := by
  intro s hs
  cases hk : r.target.screen rec with
  | error reason =>
    obtain ⟨-, hslot, -⟩ := push_screened_out hk
    exact hr s (hslot ▸ hs)
  | ok ip =>
    cases h : r.slotAfter? ip with
    | none =>
      obtain ⟨-, hnext, -⟩ := push_refused hk h
      rcases hnext with hnone | ⟨hsame, -⟩
      · rw [hnone] at hs
        cases hs
      · exact hr s (hsame ▸ hs)
    | some s' =>
      cases hm : ip.moreFragments with
      | true =>
        obtain ⟨-, hnext, -⟩ := push_more hk h hm
        rw [hnext, Option.some.injEq] at hs
        exact hs ▸ htaken ip s' hk h hm
      | false =>
        rw [(push_last hk h hm).1] at hs
        cases hs

theorem push_config (r : Reassembler) (rec : SnoopRecord) : (r.push rec).next.config = r.config := by
  cases hk : r.target.screen rec with
  | error reason => exact (push_screened_out hk).2.2
  | ok ip =>
    cases h : r.slotAfter? ip with
    | none => exact (push_refused hk h).2.2
    | some s =>
      cases hm : ip.moreFragments
      · exact (push_last hk h hm).2.1
      · exact (push_more hk h hm).2.2

/-! ## Runs -/

/-- The reassembler after feeding records one after another. -/
def run (r : Reassembler) : List SnoopRecord → Reassembler
  | [] => r
  | rec :: recs => (r.push rec).next.run recs

theorem run_append (r : Reassembler) (a b : List SnoopRecord) : r.run (a ++ b) = (r.run a).run b := by
  induction a generalizing r with
  | nil => rfl
  | cons rec a ih => exact ih _

theorem feed_append (r : Reassembler) (a b : List SnoopRecord) :
    r.feed (a ++ b) = r.feed a ++ (r.run a).feed b := by
  induction a generalizing r with
  | nil => rfl
  | cons rec a ih => simp only [List.cons_append, feed, run, ih]

theorem run_config (r : Reassembler) (recs : List SnoopRecord) : (r.run recs).config = r.config := by
  induction recs generalizing r with
  | nil => rfl
  | cons rec recs ih => exact (ih _).trans (push_config r rec)

theorem feed_getElem? (r : Reassembler) (recs : List SnoopRecord) (i : Nat) :
    (r.feed recs)[i]? = recs[i]?.map fun rec => (r.run (recs.take i)).push rec := by
  induction recs generalizing r i with
  | nil => rfl
  | cons rec recs ih =>
    cases i with
    | zero => rfl
    | succ i => simp only [feed, List.getElem?_cons_succ, ih, List.take_succ_cons, run]

end Reassembler

end RtpAudit
