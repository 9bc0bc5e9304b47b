import RtpAudit.Proofs.Reassembly.Step

/-! # Every datagram sent in order is reassembled

A UDP datagram `u` of the followed flow, cut into IP payloads at multiples of eight bytes and sent
as fragments of one identification, in order, at the offsets of their bytes, is put back together
whatever records come in between, as long as the screen drops those (`Fragmentation`):

* every record between the fragments is skipped with the screen's reason and disturbs nothing
  (`feed_screened_out`);
* after the first `j` fragments the slot holds their bytes past the UDP header and expects the
  offset where they end (`partialSlot`, `slotAfter_part`, `feed_part`, `feed_prefix`);
* the last fragment gives the datagram, with the UDP header of `u` and its data.

`feed_fragments_complete` puts these together: from a reassembler with nothing in flight, each
fragment with more to come is pending, every record in between is skipped, and the last fragment
completes `u`, when `u` declares its own length, has room for an RTP header, fits the size limit,
carries the followed port and has the expected payload length, if one is set.

The reassembler has to start with nothing in flight: a skipped record does not clear a datagram in
flight, so after a skip the next whole datagram is refused for its offset
(`skipped_record_keeps_fragment_in_flight`).
-/

namespace RtpAudit

theorem UdpHeader.parse_append {a : Bytes} (b : Bytes) (h : UdpHeader.headerLength ≤ a.length) :
    UdpHeader.parse (a ++ b) = UdpHeader.parse a := by
  unfold UdpHeader.parse
  rw [Etherparse.UdpHeaderSlice.fromSlice_append b h]

/-- One fragment as it reaches the reassembler: the records pushed before it, the record that
carries it, and the IPv4 packet in that record. -/
structure Sent where
  gap : List SnoopRecord
  record : SnoopRecord
  packet : Ipv4Packet

/-- The records pushed for a fragment: those before it, then its own. -/
def Sent.records (p : Sent) : List SnoopRecord :=
  p.gap ++ [p.record]

/-- `parts` sends the bytes `u` to the followed flow `t` as in-order fragments of identification
`id`, with only records the screen drops in between. -/
structure Fragmentation (t : FlowTarget) (id : UInt16) (parts : List Sent) (u : Bytes) : Prop where
  nonempty : parts ≠ []
  payloads : Ipv4Packet.payloads (parts.map (·.packet)) = u
  gaps : ∀ p ∈ parts, ∀ x ∈ p.gap, x.nextHeader? ≠ some SnoopRecord.ipv4Type ∨
    (∃ e, Ipv4Packet.parse x.networkPayload = .error e) ∨
    ∃ ip, Ipv4Packet.parse x.networkPayload = .ok ip ∧
      (ip.protocol ≠ Ipv4Packet.udpProtocol ∨ t.addressOf ip ≠ t.address)
  kept : ∀ p ∈ parts, p.record.nextHeader? = some SnoopRecord.ipv4Type ∧
    Ipv4Packet.parse p.record.networkPayload = .ok p.packet ∧
    p.packet.protocol = Ipv4Packet.udpProtocol ∧ t.addressOf p.packet = t.address
  ident : ∀ p ∈ parts, p.packet.identification = id
  offset : ∀ i (h : i < parts.length),
    parts[i].packet.fragmentOffset.toNat = Ipv4Packet.offsetAfter ((parts.map (·.packet)).take i)
  more : ∀ i (h : i < parts.length), parts[i].packet.moreFragments = decide (i + 1 < parts.length)
  first : ∀ p ∈ parts.head?, UdpHeader.headerLength ≤ p.packet.payload.length
  whole : ∀ i (h : i + 1 < parts.length),
    0 < parts[i].packet.payload.length ∧ parts[i].packet.payload.length % 8 = 0

/-- The outcome of a record in a run that completes `d`: the screen's reason for a record it drops,
pending for a fragment with more to come, and `d` for the last one. -/
def FlowTarget.outcomeOf (t : FlowTarget) (d : Datagram) (x : SnoopRecord) : Outcome :=
  match t.screen x with
  | .error reason => .skipped reason
  | .ok ip => if ip.moreFragments then .pending else .complete d

namespace Fragmentation

variable {t : FlowTarget} {id : UInt16} {parts : List Sent} {u : Bytes}

theorem whole_take (hf : Fragmentation t id parts u) {j : Nat} (hj : j < parts.length) :
    ∀ ip ∈ (parts.map (·.packet)).take j, ip.payload.length % 8 = 0 := by
  intro ip hip
  obtain ⟨i, hi, rfl⟩ := List.getElem_of_mem hip
  simp only [List.getElem_take, List.getElem_map]
  exact (hf.whole i (by simp at hi; omega)).2

theorem payloads_take_succ {j : Nat} (hj : j < parts.length) :
    Ipv4Packet.payloads ((parts.map (·.packet)).take (j + 1)) =
      Ipv4Packet.payloads ((parts.map (·.packet)).take j) ++ parts[j].packet.payload := by
  rw [List.take_succ_eq_append_getElem (by simpa using hj), Ipv4Packet.payloads_append]
  simp [Ipv4Packet.payloads]

theorem payloads_take_le (hf : Fragmentation t id parts u) (j : Nat) :
    (Ipv4Packet.payloads ((parts.map (·.packet)).take j)).length ≤ u.length := by
  rw [← hf.payloads, ← List.take_append_drop j (parts.map (·.packet)), Ipv4Packet.payloads_append,
    List.length_append, List.take_append_drop]
  omega

theorem header_le_take (hf : Fragmentation t id parts u) {j : Nat} (hj : 0 < j) :
    UdpHeader.headerLength ≤ (Ipv4Packet.payloads ((parts.map (·.packet)).take j)).length := by
  obtain ⟨p₀, rest, hparts⟩ := List.exists_cons_of_ne_nil hf.nonempty
  obtain ⟨j, rfl⟩ := Nat.exists_eq_add_of_lt hj
  have h₀ := hf.first p₀ (by simp [hparts])
  simp only [hparts, Nat.zero_add, List.map_cons, List.take_succ_cons, Ipv4Packet.payloads_cons,
    List.length_append]
  omega

/-- The slot after the first `j` fragments `ips` of a datagram: it expects the offset where they end
and holds their bytes past the UDP header. -/
def partialSlot (id : UInt16) (ip₀ : Ipv4Packet) (udp : UdpHeader) (ips : List Ipv4Packet) (j : Nat) :
    Slot :=
  ⟨id, Ipv4Packet.offsetAfter (ips.take j), ip₀.source, ip₀.destination, udp,
    udp.length.toNat - UdpHeader.headerLength,
    (Ipv4Packet.payloads (ips.take j)).drop UdpHeader.headerLength, j⟩

theorem slotAfter_part (hf : Fragmentation t id parts u) {udp : UdpHeader}
    (hudp : UdpHeader.parse u = .ok udp) (hlen : udp.length.toNat = u.length)
    (hmin : UdpHeader.headerLength + RtpHeader.length ≤ u.length) {p₀ : Sent}
    (h₀ : parts.head? = some p₀) {r : Reassembler} (hmax : u.length - UdpHeader.headerLength ≤ r.maxDatagram)
    {j : Nat} (hj : j < parts.length)
    (hslot : r.slot = if j = 0 then none else some (partialSlot id p₀.packet udp (parts.map (·.packet)) j)) :
    r.slotAfter? parts[j].packet = some { partialSlot id p₀.packet udp (parts.map (·.packet)) (j + 1) with
      nextOffset := Ipv4Packet.offsetAfter ((parts.map (·.packet)).take j) } := by
  have hoff := hf.offset j hj
  have hexp : r.expectedOffset = Ipv4Packet.offsetAfter ((parts.map (·.packet)).take j) := by
    unfold Reassembler.expectedOffset
    rw [hslot]
    by_cases hj₀ : j = 0
    · subst hj₀
      simp
    · simp [hj₀, partialSlot]
  unfold Reassembler.slotAfter?
  rw [if_neg (by omega)]
  by_cases hj₀ : j = 0
  · subst hj₀
    obtain ⟨rest, hparts⟩ : ∃ rest, parts = p₀ :: rest := by
      cases parts with
      | nil => cases h₀
      | cons p rest => cases h₀; exact ⟨rest, rfl⟩
    subst hparts
    have hfirst := hf.first p₀ rfl
    have hudp₀ : UdpHeader.parse p₀.packet.payload = .ok udp := by
      rw [← UdpHeader.parse_append (Ipv4Packet.payloads (rest.map (·.packet))) hfirst, ← hudp,
        ← hf.payloads]
      rfl
    have hid := hf.ident p₀ (.head _)
    simp only [List.getElem_cons_zero, Nat.zero_add] at hoff ⊢
    rw [if_pos (by simpa using hoff)]
    unfold Slot.start? UdpHeader.dataLength
    rw [hudp₀]
    simp only [UdpHeader.headerLength, RtpHeader.length] at hlen hmin hmax ⊢
    have hfits : 12 ≤ udp.length.toNat - 8 ∧ udp.length.toNat - 8 ≤ r.maxDatagram := ⟨by omega, by omega⟩
    simp only [show ¬udp.length.toNat < 8 by omega, ite_false, hfits, and_self, ite_true]
    simp [partialSlot, hid, Ipv4Packet.payloads, hlen, UdpHeader.headerLength]
  · have hwhole := Ipv4Packet.offsetAfter_whole _ (hf.whole_take hj)
    have hhead := hf.header_le_take (Nat.pos_of_ne_zero hj₀)
    have hle := hf.payloads_take_le (j + 1)
    rw [payloads_take_succ hj, List.length_append] at hle
    rw [if_neg (by unfold UdpHeader.headerLength at hhead; omega), hslot, if_neg hj₀, Option.bind_some]
    unfold Slot.extend? Slot.position
    rw [if_pos ⟨by rw [hf.ident _ (List.getElem_mem hj)]; rfl, by
      simp only [hoff]; unfold UdpHeader.headerLength at hhead hmax ⊢; omega⟩]
    have hbuf : (partialSlot id p₀.packet udp (parts.map (·.packet)) j).buffer.length =
        parts[j].packet.fragmentOffset.toNat * 8 - UdpHeader.headerLength := by
      simp only [partialSlot, List.length_drop, hoff]
      omega
    rw [Bytes.resize_of_le (Nat.le_of_eq hbuf.symm), ← hbuf, List.take_length]
    simp only [partialSlot, payloads_take_succ hj, Option.some.injEq]
    rw [List.drop_append_of_le_length hhead]

theorem records_take_succ {j : Nat} (hj : j < parts.length) :
    (parts.take (j + 1)).flatMap Sent.records =
      (parts.take j).flatMap Sent.records ++ parts[j].records := by
  rw [List.take_succ_eq_append_getElem hj, List.flatMap_append, List.flatMap_singleton]

section Whole

variable (hf : Fragmentation t id parts u) {k : Nat} (hk : parts.length = k + 1) {udp : UdpHeader}
  (hlen : udp.length.toNat = u.length) (ip₀ : Ipv4Packet) (n : Nat)
include hf hk

theorem buffer_whole :
    (partialSlot id ip₀ udp (parts.map (·.packet)) (k + 1)).buffer = u.drop UdpHeader.headerLength := by
  have hall : (parts.map (·.packet)).take (k + 1) = parts.map (·.packet) :=
    List.take_of_length_le (by simp only [List.length_map]; omega)
  simp only [partialSlot, hall, hf.payloads]

include hlen

theorem completes_whole {r : Reassembler} (hport : r.target.portOf udp = r.target.port)
    (hexp : r.expectedPayload = none ∨
      r.expectedPayload = some (u.length - UdpHeader.headerLength - RtpHeader.length)) :
    r.Completes { partialSlot id ip₀ udp (parts.map (·.packet)) (k + 1) with nextOffset := n } := by
  have hbuf : (partialSlot id ip₀ udp _ (k + 1)).buffer = _ := buffer_whole hf hk ip₀
  refine ⟨hport, ?_, fun e he => ?_⟩
  · show udp.length.toNat - UdpHeader.headerLength ≤ (partialSlot id ip₀ udp _ (k + 1)).buffer.length
    apply Nat.le_of_eq
    rw [hbuf, List.length_drop, hlen]
  · rcases hexp with hexp | hexp <;> rw [hexp] at he <;> cases he
    show _ = udp.length.toNat - UdpHeader.headerLength - RtpHeader.length
    rw [hlen]

/-- The slot holding every fragment gives `u`'s UDP header and data at the last record. -/
theorem datagram_whole (rec : SnoopRecord) :
    ({ partialSlot id ip₀ udp (parts.map (·.packet)) (k + 1) with nextOffset := n } : Slot).datagram rec =
      ⟨rec.index, rec.time, ip₀.source, ip₀.destination, udp, k + 1, u.drop UdpHeader.headerLength⟩ := by
  have hbuf : (partialSlot id ip₀ udp _ (k + 1)).buffer = _ := buffer_whole hf hk ip₀
  show Datagram.mk _ _ _ _ _ _ ((partialSlot id ip₀ udp (parts.map (·.packet)) (k + 1)).buffer.take
    (udp.length.toNat - UdpHeader.headerLength)) = _
  rw [hbuf, hlen]
  exact congrArg _ (List.take_of_length_le (by simp))

end Whole

end Fragmentation

namespace Reassembler

theorem feed_screened_out (r : Reassembler) (d : Datagram) :
    ∀ g : List SnoopRecord, (∀ x ∈ g, ∃ reason, r.target.screen x = .error reason) →
      (r.feed g).map (·.outcome) = g.map (r.target.outcomeOf d) ∧ (r.run g).slot = r.slot ∧
        (r.run g).config = r.config
  | [], _ => ⟨rfl, rfl, rfl⟩
  | x :: g, hg => by
    obtain ⟨reason, hx⟩ := hg x (.head _)
    obtain ⟨hout, hslot, hcfg⟩ := push_screened_out hx
    have ht := target_eq_of_config hcfg
    obtain ⟨ih₁, ih₂, ih₃⟩ := feed_screened_out (r.push x).next d g
      (fun y hy => ht ▸ hg y (.tail _ hy))
    refine ⟨?_, ih₂.trans hslot, ih₃.trans hcfg⟩
    simp only [feed, List.map_cons, ih₁, hout, ht, FlowTarget.outcomeOf, hx]

theorem feed_records (r : Reassembler) (p : Sent) :
    r.feed p.records = r.feed p.gap ++ [(r.run p.gap).push p.record] ∧
      r.run p.records = ((r.run p.gap).push p.record).next := by
  unfold Sent.records
  exact ⟨by rw [feed_append]; rfl, by rw [run_append]; rfl⟩

end Reassembler

namespace Fragmentation

open Reassembler

variable {t : FlowTarget} {id : UInt16} {parts : List Sent} {u : Bytes} {udp : UdpHeader}
  {p₀ : Sent} {r : Reassembler}

/-- A fragment's records skip what lies in between, then push the fragment onto the slot `s'`. -/
theorem feed_part (hf : Fragmentation t id parts u) (ht : r.target = t) {j : Nat} (hj : j < parts.length)
    (d : Datagram) :
    (r.feed parts[j].records).map (·.outcome) =
        parts[j].gap.map (t.outcomeOf d) ++ [((r.run parts[j].gap).push parts[j].record).outcome] ∧
      (r.run parts[j].gap).slot = r.slot ∧ (r.run parts[j].gap).config = r.config ∧
      (r.run parts[j].gap).target.screen parts[j].record = .ok parts[j].packet := by
  have hmem := List.getElem_mem hj
  obtain ⟨hout, hslot, hcfg⟩ := feed_screened_out r d parts[j].gap fun x hx =>
    FlowTarget.screen_eq_error.2 (ht ▸ hf.gaps _ hmem x hx)
  have ht' : (r.run parts[j].gap).target = t := (target_eq_of_config hcfg).trans ht
  refine ⟨?_, hslot, hcfg, ?_⟩
  · rw [(feed_records r _).1, List.map_append, hout, ht]
    rfl
  · rw [ht']
    exact FlowTarget.screen_eq_ok.2 (hf.kept _ hmem)

/-- The records up to the `j`-th fragment leave the first `j` fragments in the slot. -/
theorem feed_prefix (hf : Fragmentation r.target id parts u) (hudp : UdpHeader.parse u = .ok udp)
    (hlen : udp.length.toNat = u.length) (hmin : UdpHeader.headerLength + RtpHeader.length ≤ u.length)
    (h₀ : parts.head? = some p₀) (hr : r.slot = none)
    (hmax : u.length - UdpHeader.headerLength ≤ r.maxDatagram) (d : Datagram) :
    ∀ j, j < parts.length →
      (r.feed ((parts.take j).flatMap Sent.records)).map (·.outcome) =
          ((parts.take j).flatMap Sent.records).map (r.target.outcomeOf d) ∧
        (r.run ((parts.take j).flatMap Sent.records)).slot =
          (if j = 0 then none else some (partialSlot id p₀.packet udp (parts.map (·.packet)) j)) ∧
        (r.run ((parts.take j).flatMap Sent.records)).config = r.config
  | 0, _ => ⟨rfl, hr, rfl⟩
  | j + 1, hj => by
    obtain ⟨ih₁, ih₂, ih₃⟩ := feed_prefix hf hudp hlen hmin h₀ hr hmax d j (by omega)
    have ht := target_eq_of_config ih₃
    obtain ⟨hout, hslot, hcfg, hkept⟩ := feed_part hf ht (Nat.lt_of_succ_lt hj) d
    have hmax' : u.length - UdpHeader.headerLength ≤
        (r.run (((parts.take j).flatMap Sent.records) ++ parts[j].gap)).maxDatagram := by
      rw [run_append, maxDatagram_eq_of_config (hcfg.trans ih₃)]
      exact hmax
    have hs := slotAfter_part hf hudp hlen hmin h₀ hmax' (Nat.lt_of_succ_lt hj)
      (by rw [run_append, hslot, ih₂])
    have hmore : parts[j].packet.moreFragments = true := by
      rw [hf.more j (Nat.lt_of_succ_lt hj)]
      simpa using hj
    rw [run_append] at hs
    obtain ⟨hpend, hnext, hcfg'⟩ := push_more hkept hs hmore
    rw [records_take_succ (Nat.lt_of_succ_lt hj), feed_append, run_append, List.map_append, List.map_append, ih₁, hout,
      (feed_records _ _).2, hnext, hpend]
    have hkept' : r.target.screen parts[j].record = .ok parts[j].packet := by
      rw [← target_eq_of_config (hcfg.trans ih₃)]
      exact hkept
    refine ⟨?_, ?_, ?_⟩
    · simp only [Sent.records, List.map_append, List.map_cons, List.map_nil, FlowTarget.outcomeOf,
        hkept', hmore, ite_true]
    · simp only [Nat.add_one_ne_zero, ite_false, Slot.advance, partialSlot, Option.some.injEq]
      rw [List.take_succ_eq_append_getElem (by simp only [List.length_map]; omega),
        Ipv4Packet.offsetAfter_append, List.getElem_map]
    · rw [hcfg', hcfg, ih₃]

end Fragmentation

open Reassembler Fragmentation in
/-- From nothing in flight, a UDP datagram that passes the checks, sent in fragments among other
records, comes out whole at its last fragment, leaving nothing in flight. -/
theorem feed_fragments_complete {r : Reassembler} (hr : r.slot = none) {id : UInt16} {parts : List Sent}
    {u : Bytes} (hf : Fragmentation r.target id parts u) {udp : UdpHeader}
    (hudp : UdpHeader.parse u = .ok udp) (hlen : udp.length.toNat = u.length)
    (hmin : RtpHeader.length ≤ u.length - UdpHeader.headerLength)
    (hmax : u.length - UdpHeader.headerLength ≤ r.maxDatagram)
    (hport : r.target.portOf udp = r.target.port)
    (hexp : r.expectedPayload = none ∨
      r.expectedPayload = some (u.length - UdpHeader.headerLength - RtpHeader.length)) :
    ∃ d : Datagram, d.udp = udp ∧ d.data = u.drop UdpHeader.headerLength ∧
      d.fragments = parts.length ∧
      (∀ p ∈ parts.getLast?, d.recordIndex = p.record.index ∧ d.time = p.record.time) ∧
      (∀ p ∈ parts.head?, d.source = p.packet.source ∧ d.destination = p.packet.destination) ∧
      (r.feed (parts.flatMap Sent.records)).map (·.outcome) =
        (parts.flatMap Sent.records).map (r.target.outcomeOf d) ∧
      (r.run (parts.flatMap Sent.records)).slot = none := by
  have hmin' : UdpHeader.headerLength + RtpHeader.length ≤ u.length := by
    unfold UdpHeader.headerLength RtpHeader.length at hmin ⊢
    omega
  obtain ⟨p₀, h₀⟩ := Option.isSome_iff_exists.1 (List.isSome_head?.2 hf.nonempty)
  obtain ⟨k, hk⟩ : ∃ k, parts.length = k + 1 :=
    ⟨parts.length - 1, by have := List.length_pos_iff.2 hf.nonempty; omega⟩
  have hkl : k < parts.length := by omega
  -- the slot the last fragment is taken into, and the datagram it completes
  obtain ⟨s', hs'⟩ : ∃ s' : Slot, s' = { partialSlot id p₀.packet udp (parts.map (·.packet)) (k + 1) with
      nextOffset := Ipv4Packet.offsetAfter ((parts.map (·.packet)).take k) } := ⟨_, rfl⟩
  obtain ⟨d, hd⟩ : ∃ d : Datagram, d = ⟨parts[k].record.index, parts[k].record.time,
      p₀.packet.source, p₀.packet.destination, udp, k + 1, u.drop UdpHeader.headerLength⟩ := ⟨_, rfl⟩
  have hdatagram : d = s'.datagram parts[k].record := by
    rw [hs', datagram_whole hf hk hlen, hd]
  -- every fragment before the last, then the records before the last one
  obtain ⟨hpre₁, hpre₂, hpre₃⟩ := feed_prefix hf hudp hlen hmin' h₀ hr hmax d k hkl
  obtain ⟨hout, hslot, hcfg, hkept⟩ := feed_part hf (target_eq_of_config hpre₃) hkl d
  have hcfg₂ := hcfg.trans hpre₃
  have hs := slotAfter_part hf hudp hlen hmin' h₀
    (by rw [maxDatagram_eq_of_config hcfg₂]; exact hmax) hkl (by rw [hslot, hpre₂])
  rw [← hs'] at hs
  have hlast : parts[k].packet.moreFragments = false := by
    rw [hf.more k hkl]
    simp only [decide_eq_false_iff_not]
    omega
  obtain ⟨hnone, -, -, hcomplete⟩ := push_last hkept hs hlast
  have hdone := (completes_congr hcfg₂ s').2 (hs' ▸ completes_whole hf hk hlen _ _ hport hexp)
  have hflat : parts.flatMap Sent.records = (parts.take k).flatMap Sent.records ++ parts[k].records := by
    rw [← records_take_succ hkl, List.take_of_length_le (by omega)]
  refine ⟨d, by rw [hd], by rw [hd], by rw [hd, hk], ?_, ?_, ?_, ?_⟩
  · intro p hp
    rw [List.getLast?_eq_getElem?, hk, Nat.add_sub_cancel, List.getElem?_eq_getElem hkl,
      Option.mem_def, Option.some.injEq] at hp
    rw [← hp, hd]
    exact ⟨rfl, rfl⟩
  · intro p hp
    rw [h₀, Option.mem_def, Option.some.injEq] at hp
    rw [← hp, hd]
    exact ⟨rfl, rfl⟩
  · rw [hflat, feed_append, List.map_append, List.map_append, hpre₁, hout,
      (hcomplete d).2 ⟨hdone, hdatagram⟩]
    simp only [Sent.records, List.map_append, List.map_cons, List.map_nil, FlowTarget.outcomeOf,
      FlowTarget.screen_eq_ok.2 (hf.kept _ (List.getElem_mem hkl)), hlast, Bool.false_eq_true,
      ite_false]
  · rw [hflat, run_append, (feed_records _ _).2]
    exact hnone

/-! ## A datagram in two fragments

A UDP datagram of 28 bytes from port 9000 of 10.1.1.30 to port 5004 of 10.1.1.20, cut after 16
bytes, with an ARP frame between the two fragments. -/

namespace Sample

/-- An Ethernet header for an IPv4 frame. -/
def ethernet : Bytes :=
  [0x08, 0, 0x20, 1, 2, 3, 0x08, 0, 0x20, 0x0a, 0x0b, 0x0c, 0x08, 0x00]

/-- An IPv4 header from 10.1.1.30 to 10.1.1.20 with identification 0x4242, carrying UDP. -/
def ipv4Header (total flagsOffset : UInt16) : Bytes :=
  [0x45, 0] ++ Bytes.ofU16 total ++ [0x42, 0x42] ++ Bytes.ofU16 flagsOffset ++
    [0x40, 0x11, 0, 0, 10, 1, 1, 30, 10, 1, 1, 20]

/-- A UDP header declaring 28 bytes, an RTP header and eight bytes of audio. -/
def datagram : Bytes :=
  [0x23, 0x28, 0x13, 0x8c, 0, 28, 0, 0] ++ [0x80, 0, 0, 42, 0, 0, 0, 0, 0x12, 0x34, 0x56, 0x78] ++
    [1, 2, 3, 4, 5, 6, 7, 8]

/-- Following port 5004 of 10.1.1.20 as a destination. -/
def target : FlowTarget := ⟨⟨10, 1, 1, 20⟩, 5004, .inbound⟩

/-- The first 16 bytes of the datagram, with more fragments to come. -/
def firstRecord : SnoopRecord :=
  ⟨1, 0, ⟨5, 0⟩, 50, ethernet ++ ipv4Header 36 0x2000 ++ datagram.take 16⟩

/-- An ARP frame. -/
def arpRecord : SnoopRecord :=
  ⟨2, 0, ⟨5, 10⟩, 14, [0x08, 0, 0x20, 1, 2, 3, 0x08, 0, 0x20, 0x0a, 0x0b, 0x0c, 0x08, 0x06]⟩

/-- The last 12 bytes of the datagram, at offset 2. -/
def lastRecord : SnoopRecord :=
  ⟨3, 0, ⟨5, 20⟩, 46, ethernet ++ ipv4Header 32 0x0002 ++ datagram.drop 16⟩

/-- The whole datagram in one unfragmented packet. -/
def wholeRecord : SnoopRecord :=
  ⟨3, 0, ⟨5, 30⟩, 62, ethernet ++ ipv4Header 48 0 ++ datagram⟩

/-- The packets of the two fragments, as the IPv4 parser reads them. -/
def firstPacket : Ipv4Packet :=
  ⟨⟨10, 1, 1, 30⟩, ⟨10, 1, 1, 20⟩, 0x4242, false, true, 0, 17, 36, datagram.take 16⟩

def lastPacket : Ipv4Packet :=
  ⟨⟨10, 1, 1, 30⟩, ⟨10, 1, 1, 20⟩, 0x4242, false, false, 2, 17, 32, datagram.drop 16⟩

def parts : List Sent :=
  [⟨[], firstRecord, firstPacket⟩, ⟨[arpRecord], lastRecord, lastPacket⟩]

theorem parts_fragmentation : Fragmentation target 0x4242 parts datagram where
  nonempty := by simp [parts]
  payloads := by decide
  gaps := by
    intro p hp x hx
    simp only [parts, List.mem_cons, List.not_mem_nil, or_false] at hp
    rcases hp with rfl | rfl <;> simp only [List.mem_cons, List.not_mem_nil, or_false] at hx
    subst hx
    exact .inl (by decide)
  kept := by
    intro p hp
    simp only [parts, List.mem_cons, List.not_mem_nil, or_false] at hp
    rcases hp with rfl | rfl
    · exact ⟨by decide, rfl, by decide, by decide⟩
    · exact ⟨by decide, rfl, by decide, by decide⟩
  ident := by decide
  offset := by decide
  more := by decide
  first := by decide
  whole := by
    intro i h
    simp only [parts, List.length_cons, List.length_nil] at h
    obtain rfl : i = 0 := by omega
    simp only [parts, List.getElem_cons_zero]
    decide

end Sample

/-- The sample datagram comes out of a fresh reassembler whole, past the ARP frame. -/
theorem sample_fragments_complete :
    ∃ d : Datagram, d.udp = ⟨9000, 5004, 28, 0⟩ ∧ d.data = Sample.datagram.drop 8 ∧
      d.fragments = 2 ∧
      (∀ p ∈ Sample.parts.getLast?, d.recordIndex = p.record.index ∧ d.time = p.record.time) ∧
      (∀ p ∈ Sample.parts.head?, d.source = p.packet.source ∧ d.destination = p.packet.destination) ∧
      (({ target := Sample.target } : Reassembler).feed (Sample.parts.flatMap Sent.records)).map
          (·.outcome) = (Sample.parts.flatMap Sent.records).map (Sample.target.outcomeOf d) ∧
      (({ target := Sample.target } : Reassembler).run (Sample.parts.flatMap Sent.records)).slot =
        none :=
  @feed_fragments_complete { target := Sample.target } rfl 0x4242 Sample.parts Sample.datagram
    Sample.parts_fragmentation ⟨9000, 5004, 28, 0⟩ rfl rfl (by decide) (by decide) rfl (.inl rfl)

/-- A skipped record leaves a datagram in flight: after the first fragment and an ARP frame, a whole
datagram at offset zero is refused for its offset instead of completed. -/
theorem skipped_record_keeps_fragment_in_flight :
    (({ target := Sample.target } : Reassembler).feed
        [Sample.firstRecord, Sample.arpRecord, Sample.wholeRecord]).map (·.outcome) =
      [.pending, .skipped .notIpv4, .abandoned (.unexpectedOffset 2 0)] := rfl

end RtpAudit
