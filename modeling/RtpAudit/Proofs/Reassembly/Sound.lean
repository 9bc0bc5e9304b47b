import RtpAudit.Proofs.Reassembly.Complete

/-! # Every datagram the reassembler gives out was sent to it

Whatever records a reassembler with nothing in flight is fed, a datagram it completes at record `n`
was built from fragments it was sent (`Provenance`). They sit at records `n₀ < … < n`:

* each is an IPv4 UDP packet of the followed address, with the identification of the first;
* each is at the offset where its predecessors' whole 8-byte units end;
* all but the last have more fragments to come;
* the screen keeps no other record in between.

The datagram's UDP header is the first fragment's and its port the followed one. Its data is the
fragments' bytes as they were placed (`Ipv4Packet.joined`), past the UDP header and cut to the
declared length.

* `Ipv4Packet.joined_resize`: placing a continuation keeps the whole units before it;
* `InFlight`: what is known of a datagram in flight after the first `m` records;
* `Reassembler.tracks_push`, `Reassembler.tracks_run`: every step, hence every run, keeps that;
* `Reassembler.push_complete_provenance`: the last fragment completes what the slot gathered;
* `feed_complete_sound` puts these together.
-/

namespace RtpAudit

/-! ## What fragments leave in place -/

namespace Ipv4Packet

/-- The whole 8-byte units at the start of a payload: what the next fragment, placed at the offset
after this one, leaves of it. -/
def units (ip : Ipv4Packet) : Bytes :=
  ip.payload.take (8 * (ip.payload.length / 8))

/-- The whole units of each packet, one after another. -/
def aligned : List Ipv4Packet → Bytes
  | [] => []
  | ip :: ips => ip.units ++ aligned ips

/-- The bytes a run of fragments leaves in place: every fragment but the last cut to its whole
8-byte units, the last one whole. -/
def joined : List Ipv4Packet → Bytes
  | [] => []
  | [ip] => ip.payload
  | ip :: ip' :: ips => ip.units ++ joined (ip' :: ips)

theorem units_length (ip : Ipv4Packet) : ip.units.length = 8 * (ip.payload.length / 8) := by
  rw [units, List.length_take]
  omega

theorem aligned_length : ∀ ips : List Ipv4Packet, (aligned ips).length = 8 * offsetAfter ips
  | [] => rfl
  | ip :: ips => by
    rw [aligned, List.length_append, units_length, aligned_length ips, offsetAfter_cons]
    omega

theorem aligned_append (ips ips' : List Ipv4Packet) :
    aligned (ips ++ ips') = aligned ips ++ aligned ips' := by
  induction ips with
  | nil => rfl
  | cons ip ips ih => rw [List.cons_append, aligned, aligned, ih, List.append_assoc]

theorem joined_append (ip : Ipv4Packet) :
    ∀ ips : List Ipv4Packet, joined (ips ++ [ip]) = aligned ips ++ ip.payload
  | [] => rfl
  | [a] => by simp [joined, aligned]
  | a :: b :: ips => by
    rw [List.cons_append, List.cons_append, joined, ← List.cons_append, joined_append ip (b :: ips)]
    simp only [aligned, List.append_assoc]

theorem aligned_prefix_joined (ips : List Ipv4Packet) : aligned ips <+: joined ips := by
  rcases List.eq_nil_or_concat ips with rfl | ⟨init, last, rfl⟩
  · exact List.nil_prefix
  · rw [List.concat_eq_append, joined_append, aligned_append]
    refine (List.prefix_append_right_inj _).2 ?_
    rw [aligned, aligned, List.append_nil]
    exact List.take_prefix _ _

/-- A continuation placed after the UDP header keeps the whole units before it and adds its
payload. -/
theorem joined_resize {ips : List Ipv4Packet} (h : UdpHeader.headerLength ≤ (aligned ips).length)
    (ip : Ipv4Packet) :
    Bytes.resize ((joined ips).drop UdpHeader.headerLength)
        ((aligned ips).length - UdpHeader.headerLength) ++ ip.payload =
      (joined (ips ++ [ip])).drop UdpHeader.headerLength := by
  have hpre := aligned_prefix_joined ips
  have hle : (aligned ips).length - UdpHeader.headerLength ≤
      ((joined ips).drop UdpHeader.headerLength).length := by
    rw [List.length_drop]
    have := hpre.length_le
    omega
  rw [Bytes.resize_of_le hle, ← List.drop_take, ← List.prefix_iff_eq_take.1 hpre,
    ← List.drop_append_of_le_length h, joined_append]

/-- Each packet is at the offset, in 8-byte units, where the whole units of those before it end. -/
def Consecutive (ips : List Ipv4Packet) : Prop :=
  ∀ i (h : i < ips.length), ips[i].fragmentOffset.toNat = offsetAfter (ips.take i)

theorem Consecutive.snoc {ips : List Ipv4Packet} (h : Consecutive ips) {ip : Ipv4Packet}
    (hip : ip.fragmentOffset.toNat = offsetAfter ips) : Consecutive (ips ++ [ip]) := by
  intro i hi
  rw [List.length_append, List.length_singleton] at hi
  rcases Nat.lt_succ_iff_lt_or_eq.1 hi with hi | rfl
  · rw [List.getElem_append_left hi, List.take_append_of_le_length (Nat.le_of_lt hi)]
    exact h i hi
  · rw [List.getElem_concat_length rfl, List.take_left' rfl]
    exact hip

end Ipv4Packet

theorem UdpHeader.headerLength_le_of_parse {b : Bytes} {u : UdpHeader}
    (h : UdpHeader.parse b = .ok u) : UdpHeader.headerLength ≤ b.length := by
  unfold UdpHeader.parse at h
  cases hs : Etherparse.UdpHeaderSlice.fromSlice b with
  | error e =>
    rw [hs] at h
    cases h
  | ok s => exact (Etherparse.UdpHeaderSlice.fromSlice_eq_ok.1 hs).1

theorem UdpHeader.dataLength_eq_ok {u : UdpHeader} {n : Nat} (h : u.dataLength = .ok n) :
    n = u.length.toNat - UdpHeader.headerLength := by
  unfold UdpHeader.dataLength at h
  by_cases hl : u.length.toNat < UdpHeader.headerLength
  · rw [if_pos hl] at h
    cases h
  · rw [if_neg hl] at h
    cases h
    rfl

/-! ## Gathered fragments -/

/-- The screen refuses the record: the reassembler skips it, whatever is in flight. -/
def FlowTarget.Drops (t : FlowTarget) (x : SnoopRecord) : Prop :=
  ∃ reason, t.screen x = .error reason

/-- The slot `s` holds the fragments `frags`, each a position among `recs` with the packet the
screen of `t` keeps there. -/
structure Gathered (t : FlowTarget) (recs : List SnoopRecord) (s : Slot)
    (frags : List (Nat × Ipv4Packet)) : Prop where
  nonempty : frags ≠ []
  count : frags.length = s.fragments
  ascending : (frags.map Prod.fst).Pairwise (· < ·)
  kept : ∀ f ∈ frags, ∃ x, recs[f.1]? = some x ∧ t.screen x = .ok f.2
  ident : ∀ f ∈ frags, f.2.identification = s.identification
  offset : Ipv4Packet.Consecutive (frags.map Prod.snd)
  between : ∀ f ∈ frags.head?, ∀ g ∈ frags.getLast?, ∀ j, f.1 < j → j < g.1 →
    j ∉ frags.map Prod.fst → ∀ x, recs[j]? = some x → t.Drops x
  udp : ∀ f ∈ frags.head?, UdpHeader.parse f.2.payload = .ok s.udp
  declared : s.udp.dataLength = .ok s.declared
  addresses : ∀ f ∈ frags.head?, s.source = f.2.source ∧ s.destination = f.2.destination
  buffer : s.buffer = (Ipv4Packet.joined (frags.map Prod.snd)).drop UdpHeader.headerLength

/-- A datagram in flight after the first `m` records of `recs`. -/
structure InFlight (t : FlowTarget) (limit : Nat) (recs : List SnoopRecord) (m : Nat) (s : Slot)
    (frags : List (Nat × Ipv4Packet)) : Prop extends Gathered t recs s frags where
  more : ∀ f ∈ frags, f.2.moreFragments = true
  next : s.nextOffset = Ipv4Packet.offsetAfter (frags.map Prod.snd)
  seen : ∀ f ∈ frags, f.1 < m
  quiet : ∀ g ∈ frags.getLast?, ∀ j, g.1 < j → j < m → ∀ x, recs[j]? = some x → t.Drops x
  sized : RtpHeader.length ≤ s.declared ∧ s.declared ≤ limit

/-- The datagram `d`, completed at position `n` of `recs`, was built from the fragments `frags`,
each a position among `recs` with the packet the screen of `t` keeps there. -/
structure Provenance (t : FlowTarget) (recs : List SnoopRecord) (n : Nat) (d : Datagram)
    (frags : List (Nat × Ipv4Packet)) : Prop where
  count : frags.length = d.fragments
  ascending : (frags.map Prod.fst).Pairwise (· < ·)
  last : (frags.map Prod.fst).getLast? = some n
  kept : ∀ f ∈ frags, ∃ x, recs[f.1]? = some x ∧ t.screen x = .ok f.2
  ident : ∀ f ∈ frags, ∀ g ∈ frags.head?, f.2.identification = g.2.identification
  offset : Ipv4Packet.Consecutive (frags.map Prod.snd)
  more : ∀ i (h : i < frags.length), frags[i].2.moreFragments = decide (i + 1 < frags.length)
  between : ∀ f ∈ frags.head?, ∀ j, f.1 < j → j < n → j ∉ frags.map Prod.fst →
    ∀ x, recs[j]? = some x → t.Drops x
  udp : ∀ f ∈ frags.head?, UdpHeader.parse f.2.payload = .ok d.udp
  port : t.portOf d.udp = t.port
  data : d.data = ((Ipv4Packet.joined (frags.map Prod.snd)).drop UdpHeader.headerLength).take
    (d.udp.length.toNat - UdpHeader.headerLength)
  addresses : ∀ f ∈ frags.head?, d.source = f.2.source ∧ d.destination = f.2.destination
  record : ∀ x, recs[n]? = some x → d.recordIndex = x.index ∧ d.time = x.time

section

variable {t : FlowTarget} {recs : List SnoopRecord} {m limit : Nat} {s s' : Slot}
  {frags : List (Nat × Ipv4Packet)} {x : SnoopRecord} {ip : Ipv4Packet}

theorem Gathered.header_le (hg : Gathered t recs s frags) :
    UdpHeader.headerLength ≤ (Ipv4Packet.aligned (frags.map Prod.snd)).length := by
  obtain ⟨f, rest, rfl⟩ := List.exists_cons_of_ne_nil hg.nonempty
  have hlen := UdpHeader.headerLength_le_of_parse (hg.udp f rfl)
  rw [List.map_cons, Ipv4Packet.aligned, List.length_append, Ipv4Packet.units_length]
  unfold UdpHeader.headerLength at hlen ⊢
  omega

theorem InFlight.nextOffset_pos (hf : InFlight t limit recs m s frags) : 0 < s.nextOffset := by
  have h := hf.header_le
  rw [Ipv4Packet.aligned_length, ← hf.next] at h
  unfold UdpHeader.headerLength at h
  omega

theorem InFlight.skip (hf : InFlight t limit recs m s frags) (hx : recs[m]? = some x)
    (hd : t.Drops x) : InFlight t limit recs (m + 1) s frags where
  toGathered := hf.toGathered
  more := hf.more
  next := hf.next
  seen f hf' := Nat.lt_succ_of_lt (hf.seen f hf')
  quiet g hg j hgj hjm y hy := by
    rcases Nat.lt_succ_iff_lt_or_eq.1 hjm with hjm | rfl
    · exact hf.quiet g hg j hgj hjm y hy
    · rw [hx, Option.some.injEq] at hy
      exact hy ▸ hd
  sized := hf.sized

theorem Gathered.advance_slot (hg : Gathered t recs s frags) (ip : Ipv4Packet) :
    Gathered t recs (s.advance ip) frags :=
  ⟨hg.nonempty, hg.count, hg.ascending, hg.kept, hg.ident, hg.offset, hg.between, hg.udp,
    hg.declared, hg.addresses, hg.buffer⟩

theorem Slot.start_gathered (hx : recs[m]? = some x) (hk : t.screen x = .ok ip)
    (hoff : ip.fragmentOffset.toNat = 0) (h : Slot.start? limit ip = some s) :
    Gathered t recs s [(m, ip)] ∧ s.nextOffset = 0 ∧
      RtpHeader.length ≤ s.declared ∧ s.declared ≤ limit := by
  unfold Slot.start? at h
  cases hudp : UdpHeader.parse ip.payload with
  | error e => simp only [hudp, reduceCtorEq] at h
  | ok udp =>
    simp only [hudp] at h
    cases hlen : udp.dataLength with
    | error e => simp only [hlen, reduceCtorEq] at h
    | ok len =>
      simp only [hlen] at h
      by_cases hok : RtpHeader.length ≤ len ∧ len ≤ limit
      · rw [if_pos hok, Option.some.injEq] at h
        subst h
        have honly : ∀ f ∈ [(m, ip)], f = (m, ip) := fun f hf => List.mem_singleton.1 hf
        refine ⟨⟨List.cons_ne_nil _ _, rfl, List.pairwise_singleton _ _, ?_, ?_, ?_, ?_, ?_, hlen,
          ?_, rfl⟩, rfl, hok⟩
        · intro f hf
          rw [honly f hf]
          exact ⟨x, hx, hk⟩
        · intro f hf
          rw [honly f hf]
        · have hnil : Ipv4Packet.Consecutive [] := fun i hi => absurd hi (Nat.not_lt_zero i)
          exact hnil.snoc hoff
        · intro f hf g hg j h1 h2
          rw [honly f (List.mem_of_mem_head? hf)] at h1
          rw [honly g (List.mem_of_getLast? hg)] at h2
          omega
        · intro f hf
          rw [honly f (List.mem_of_mem_head? hf)]
          exact hudp
        · intro f hf
          rw [honly f (List.mem_of_mem_head? hf)]
          exact ⟨rfl, rfl⟩
      · rw [if_neg hok] at h
        cases h

theorem InFlight.extend (hf : InFlight t limit recs m s frags) (hx : recs[m]? = some x)
    (hk : t.screen x = .ok ip) (hoff : ip.fragmentOffset.toNat = s.nextOffset)
    (h : Slot.extend? limit s ip = some s') :
    Gathered t recs s' (frags ++ [(m, ip)]) ∧
      s'.nextOffset = Ipv4Packet.offsetAfter (frags.map Prod.snd) ∧
      RtpHeader.length ≤ s'.declared ∧ s'.declared ≤ limit := by
  unfold Slot.extend? at h
  by_cases hok : ip.identification = s.identification ∧
      Slot.position ip + ip.payload.length ≤ limit
  · rw [if_pos hok, Option.some.injEq] at h
    subst h
    obtain ⟨f₀, rest, hfr⟩ := List.exists_cons_of_ne_nil hf.nonempty
    have hhead : (frags ++ [(m, ip)]).head? = frags.head? := by rw [hfr]; rfl
    obtain ⟨g, hg⟩ := Option.isSome_iff_exists.1 (List.getLast?_isSome.2 hf.nonempty)
    have hpos : Slot.position ip =
        (Ipv4Packet.aligned (frags.map Prod.snd)).length - UdpHeader.headerLength := by
      rw [Slot.position, Ipv4Packet.aligned_length, hoff, hf.next, Nat.mul_comm]
    refine ⟨⟨List.append_ne_nil_of_right_ne_nil _ (List.cons_ne_nil _ _), ?_, ?_, ?_, ?_, ?_, ?_,
      ?_, hf.declared, ?_, ?_⟩, hf.next, hf.sized⟩
    · rw [List.length_append, hf.count]
      rfl
    · rw [List.map_append, List.pairwise_append]
      refine ⟨hf.ascending, List.pairwise_singleton _ _, fun a ha b hb => ?_⟩
      obtain ⟨f, hmem, rfl⟩ := List.mem_map.1 ha
      rw [List.mem_singleton.1 hb]
      exact hf.seen f hmem
    · exact List.forall_mem_append.2 ⟨hf.kept, List.forall_mem_singleton.2 ⟨x, hx, hk⟩⟩
    · exact List.forall_mem_append.2 ⟨hf.ident, List.forall_mem_singleton.2 hok.1⟩
    · rw [List.map_append, List.map_singleton]
      exact hf.offset.snoc (hoff.trans hf.next)
    · intro f hfh g' hg' j h1 h2 hj y hy
      rw [hhead] at hfh
      rw [List.getLast?_concat, Option.mem_def, Option.some.injEq] at hg'
      subst hg'
      rw [List.map_append, List.mem_append, not_or] at hj
      -- a record before the last fragment so far, that fragment itself, or one after it
      rcases Nat.lt_trichotomy j g.1 with hlt | rfl | hgt
      · exact hf.between f hfh g hg j h1 hlt hj.1 y hy
      · exact absurd (List.mem_map_of_mem (List.mem_of_getLast? hg)) hj.1
      · exact hf.quiet g hg j hgt h2 y hy
    · intro f hfh
      rw [hhead] at hfh
      exact hf.udp f hfh
    · intro f hfh
      rw [hhead] at hfh
      exact hf.addresses f hfh
    · show Bytes.resize s.buffer (Slot.position ip) ++ ip.payload = _
      rw [hf.buffer, hpos, Ipv4Packet.joined_resize hf.header_le, List.map_append]
      rfl
  · rw [if_neg hok] at h
    cases h

theorem Gathered.advance (hg : Gathered t recs s (frags ++ [(m, ip)]))
    (hnext : s.nextOffset = Ipv4Packet.offsetAfter (frags.map Prod.snd))
    (hbefore : ∀ f ∈ frags, f.1 < m ∧ f.2.moreFragments = true) (hm : ip.moreFragments = true)
    (hsized : RtpHeader.length ≤ s.declared ∧ s.declared ≤ limit) :
    InFlight t limit recs (m + 1) (s.advance ip) (frags ++ [(m, ip)]) where
  toGathered := hg.advance_slot ip
  more := List.forall_mem_append.2 ⟨fun f hf => (hbefore f hf).2, List.forall_mem_singleton.2 hm⟩
  next := by
    rw [List.map_append, List.map_singleton, Ipv4Packet.offsetAfter_append, ← hnext]
    rfl
  seen := List.forall_mem_append.2
    ⟨fun f hf => Nat.lt_succ_of_lt (hbefore f hf).1, List.forall_mem_singleton.2 (Nat.lt_succ_self m)⟩
  quiet g hg' j h1 h2 := by
    rw [List.getLast?_concat, Option.mem_def, Option.some.injEq] at hg'
    subst hg'
    omega
  sized := hsized

theorem Gathered.provenance (hg : Gathered t recs s (frags ++ [(m, ip)]))
    (hmore : ∀ f ∈ frags, f.2.moreFragments = true) (hlast : ip.moreFragments = false)
    (hport : t.portOf s.udp = t.port) (hx : recs[m]? = some x) :
    Provenance t recs m (s.datagram x) (frags ++ [(m, ip)]) where
  count := hg.count
  ascending := hg.ascending
  last := by rw [List.map_append, List.map_singleton, List.getLast?_concat]
  kept := hg.kept
  ident f hf g hg' := (hg.ident f hf).trans (hg.ident g (List.mem_of_mem_head? hg')).symm
  offset := hg.offset
  more i hi := by
    rw [List.length_append, List.length_singleton] at hi ⊢
    by_cases hlt : i < frags.length
    · rw [List.getElem_append_left hlt, hmore _ (List.getElem_mem hlt)]
      simp only [Nat.add_lt_add_iff_right, hlt, decide_true]
    · obtain rfl : i = frags.length := by omega
      rw [List.getElem_concat_length rfl, hlast]
      simp
  between f hf j h1 h2 hj y hy :=
    hg.between f hf (m, ip) (by rw [List.getLast?_concat]; rfl) j h1 h2 hj y hy
  udp := hg.udp
  port := hport
  data := by
    show s.buffer.take s.declared = _
    rw [hg.buffer, UdpHeader.dataLength_eq_ok hg.declared]
    rfl
  addresses := hg.addresses
  record y hy := by
    rw [hx, Option.some.injEq] at hy
    subst hy
    exact ⟨rfl, rfl⟩

end

/-! ## Every run keeps it -/

namespace Reassembler

/-- Whatever is in flight after the first `m` records of `recs` was gathered from them. -/
def Tracks (r : Reassembler) (recs : List SnoopRecord) (m : Nat) : Prop :=
  ∀ s, r.slot = some s → ∃ frags, InFlight r.target r.maxDatagram recs m s frags

variable {r : Reassembler} {recs : List SnoopRecord} {m : Nat} {x : SnoopRecord} {ip : Ipv4Packet}
  {s' : Slot}

theorem slotAfter_gathered (hr : r.Tracks recs m) (hx : recs[m]? = some x)
    (hk : r.target.screen x = .ok ip) (h : r.slotAfter? ip = some s') :
    ∃ frags, Gathered r.target recs s' (frags ++ [(m, ip)]) ∧
      s'.nextOffset = Ipv4Packet.offsetAfter (frags.map Prod.snd) ∧
      (∀ f ∈ frags, f.1 < m ∧ f.2.moreFragments = true) ∧
      RtpHeader.length ≤ s'.declared ∧ s'.declared ≤ r.maxDatagram := by
  unfold slotAfter? at h
  by_cases hoff : ip.fragmentOffset.toNat = r.expectedOffset
  · rw [if_neg (not_not_intro hoff)] at h
    by_cases h0 : ip.fragmentOffset.toNat = 0
    · rw [if_pos h0] at h
      obtain ⟨hg, hn, hsz⟩ := Slot.start_gathered hx hk h0 h
      exact ⟨[], hg, hn, fun f hf => absurd hf List.not_mem_nil, hsz⟩
    · rw [if_neg h0] at h
      cases hs : r.slot with
      | none =>
        rw [hs] at h
        cases h
      | some s =>
        rw [hs, Option.bind_some] at h
        obtain ⟨frags, hf⟩ := hr s hs
        have hexp : r.expectedOffset = s.nextOffset := by
          unfold expectedOffset
          rw [hs]
        obtain ⟨hg, hn, hsz⟩ := hf.extend hx hk (hoff.trans hexp) h
        exact ⟨frags, hg, hn, fun f hmem => ⟨hf.seen f hmem, hf.more f hmem⟩, hsz⟩
  · rw [if_pos hoff] at h
    cases h

/-- One record keeps the datagram in flight gathered from the records before it. -/
theorem tracks_push (hr : r.Tracks recs m) (hx : recs[m]? = some x) :
    (r.push x).next.Tracks recs (m + 1) := by
  intro s hs
  rw [target_eq_of_config (push_config r x), maxDatagram_eq_of_config (push_config r x)]
  cases hk : r.target.screen x with
  | error reason =>
    obtain ⟨-, hslot, -⟩ := push_screened_out hk
    obtain ⟨frags, hf⟩ := hr s (hslot.symm.trans hs)
    exact ⟨frags, hf.skip hx ⟨reason, hk⟩⟩
  | ok ip =>
    cases h : r.slotAfter? ip with
    | none =>
      obtain ⟨-, hnext, -⟩ := push_refused hk h
      rcases hnext with hnone | ⟨hsame, h0⟩
      · rw [hnone] at hs
        cases hs
      · -- a refusal that keeps the slot expected offset zero, which no datagram in flight does
        have hs' := hsame.symm.trans hs
        obtain ⟨frags, hf⟩ := hr s hs'
        have hexp : r.expectedOffset = s.nextOffset := by
          unfold expectedOffset
          rw [hs']
        have := hf.nextOffset_pos
        omega
    | some s' =>
      cases hm : ip.moreFragments with
      | true =>
        obtain ⟨-, hnext, -⟩ := push_more hk h hm
        rw [hnext, Option.some.injEq] at hs
        subst hs
        obtain ⟨frags, hg, hn, hbefore, hsz⟩ := slotAfter_gathered hr hx hk h
        exact ⟨_, hg.advance hn hbefore hm hsz⟩
      | false =>
        rw [(push_last hk h hm).1] at hs
        cases hs

/-- A datagram completed at record `m` was gathered from the records up to it. -/
theorem push_complete_provenance {d : Datagram} (hr : r.Tracks recs m) (hx : recs[m]? = some x)
    (h : (r.push x).outcome = .complete d) :
    (∃ frags, Provenance r.target recs m d frags) ∧ RtpHeader.length ≤ d.data.length ∧
      d.data.length = d.udp.length.toNat - UdpHeader.headerLength ∧
      d.data.length ≤ r.maxDatagram ∧
      ∀ e, r.expectedPayload = some e → e = d.data.length - RtpHeader.length := by
  cases hk : r.target.screen x with
  | error reason =>
    rw [(push_screened_out hk).1] at h
    cases h
  | ok ip =>
    cases hs : r.slotAfter? ip with
    | none =>
      rcases (push_refused hk hs).1 with ⟨reason, ho⟩ | ⟨mm, ho⟩ <;> rw [ho] at h <;> cases h
    | some s' =>
      cases hm : ip.moreFragments with
      | true =>
        rw [(push_more hk hs hm).1] at h
        cases h
      | false =>
        obtain ⟨⟨hport, hcover, hexp⟩, rfl⟩ := ((push_last hk hs hm).2.2.2 d).1 h
        obtain ⟨frags, hg, -, hbefore, hsz⟩ := slotAfter_gathered hr hx hk hs
        have hlen : (s'.datagram x).data.length = s'.declared := by
          show (s'.buffer.take s'.declared).length = s'.declared
          rw [List.length_take]
          omega
        refine ⟨⟨_, hg.provenance (fun f hf => (hbefore f hf).2) hm hport hx⟩, ?_, ?_, ?_, ?_⟩
        · rw [hlen]
          exact hsz.1
        · rw [hlen]
          exact UdpHeader.dataLength_eq_ok hg.declared
        · rw [hlen]
          exact hsz.2
        · intro e he
          rw [hlen]
          exact hexp e he

/-- From nothing in flight, every prefix of the records keeps the invariant. -/
theorem tracks_run (hr : r.slot = none) (recs : List SnoopRecord) :
    ∀ m, m ≤ recs.length → (r.run (recs.take m)).Tracks recs m
  | 0, _ => fun s hs => by
    rw [List.take_zero, run, hr] at hs
    cases hs
  | m + 1, hm => by
    rw [List.take_succ_eq_append_getElem (by omega), run_append]
    exact tracks_push (tracks_run hr recs m (by omega)) (List.getElem?_eq_getElem _)

end Reassembler

open Reassembler in
/-- A datagram completed from nothing in flight comes only from fragments sent to the reassembler,
and passes every check on its length. -/
theorem feed_complete_sound {r : Reassembler} (hr : r.slot = none) {recs : List SnoopRecord} {n : Nat}
    {d : Datagram} (h : ((r.feed recs).map (·.outcome))[n]? = some (.complete d)) :
    (∃ frags, Provenance r.target recs n d frags) ∧ RtpHeader.length ≤ d.data.length ∧
      d.data.length = d.udp.length.toNat - UdpHeader.headerLength ∧
      d.data.length ≤ r.maxDatagram ∧
      ∀ e, r.expectedPayload = some e → e = d.data.length - RtpHeader.length := by
  rw [List.getElem?_map, feed_getElem?] at h
  cases hx : recs[n]? with
  | none =>
    rw [hx] at h
    cases h
  | some x =>
    rw [hx, Option.map_some, Option.map_some, Option.some.injEq] at h
    have hn : n < recs.length := (List.getElem?_eq_some_iff.1 hx).1
    have hc := run_config r (recs.take n)
    have hsound := push_complete_provenance (tracks_run hr recs n (Nat.le_of_lt hn)) hx h
    rw [target_eq_of_config hc, maxDatagram_eq_of_config hc, expectedPayload_eq_of_config hc] at hsound
    exact hsound

/-- The sample datagram, completed at the third record past an ARP frame, was gathered from the
two fragments around it. -/
theorem sample_complete_sound :
    ((({ target := Sample.target } : Reassembler).feed
        [Sample.firstRecord, Sample.arpRecord, Sample.lastRecord]).map (·.outcome))[2]? =
      some (.complete ⟨3, ⟨5, 20⟩, ⟨10, 1, 1, 30⟩, ⟨10, 1, 1, 20⟩, ⟨9000, 5004, 28, 0⟩, 2,
        Sample.datagram.drop 8⟩) ∧
    (∃ frags, Provenance Sample.target [Sample.firstRecord, Sample.arpRecord, Sample.lastRecord] 2
      ⟨3, ⟨5, 20⟩, ⟨10, 1, 1, 30⟩, ⟨10, 1, 1, 20⟩, ⟨9000, 5004, 28, 0⟩, 2, Sample.datagram.drop 8⟩
      frags) ∧
    RtpHeader.length ≤ (Sample.datagram.drop 8).length ∧
    (Sample.datagram.drop 8).length = (28 : UInt16).toNat - UdpHeader.headerLength ∧
    (Sample.datagram.drop 8).length ≤ 65535 ∧
    ∀ e, (none : Option Nat) = some e → e = (Sample.datagram.drop 8).length - RtpHeader.length :=
  have h : ((({ target := Sample.target } : Reassembler).feed
        [Sample.firstRecord, Sample.arpRecord, Sample.lastRecord]).map (·.outcome))[2]? =
      some (.complete ⟨3, ⟨5, 20⟩, ⟨10, 1, 1, 30⟩, ⟨10, 1, 1, 20⟩, ⟨9000, 5004, 28, 0⟩, 2,
        Sample.datagram.drop 8⟩) := rfl
  ⟨h, feed_complete_sound rfl h⟩

end RtpAudit
