import RtpAudit.Flow.Target
import RtpAudit.Capture.Snoop
import RtpAudit.Packet.Rtp

/-! # Reassembling the datagrams of a flow

Each record of a capture is filtered down to the UDP datagrams of the followed flow, and
fragmented datagrams are put back together. At most one datagram is in flight, held in a single
slot, and its fragments must arrive in order:

* a record whose frame is not IPv4, whose IPv4 or UDP header does not decode, which is not UDP,
  or whose address is not the followed one, is skipped and leaves the slot as it is;
* a fragment whose offset is not the one the slot expects (zero when it is empty), or whose
  identification is not the slot's, drops the slot;
* the first fragment fills the slot with its UDP header and data; each continuation writes its
  bytes where they belong, after cutting or zero-filling the buffer to that point;
* the last fragment completes the datagram: the port is checked, the buffer must cover the length
  the UDP header declared, and is cut to it, and the RTP payload must have the expected length, if
  one is set.

A drop counts as abandoned only when a slot was held. Each step returns the debugging events it
gives.
-/

namespace RtpAudit

/-- Why the datagram in flight was dropped. -/
inductive Mismatch
  /-- A fragment at another offset, in 8-byte units, than the one expected. -/
  | unexpectedOffset (expected actual : Nat)
  /-- A continuation of another datagram. -/
  | identification (expected actual : UInt16)
  /-- The last fragment left the datagram shorter than its UDP header declared. -/
  | incomplete (declared assembled : Nat)
  /-- The declared or assembled length exceeds the limit. -/
  | oversized (length limit : Nat)
  deriving DecidableEq, Repr

/-- The text of a mismatch. -/
def Mismatch.message : Mismatch → String
  | .unexpectedOffset expected actual => s!"expected fragment offset {expected}, got {actual}"
  | .identification expected actual =>
    "fragment id " ++ Text.hexPrefixed 4 actual.toNat ++ " does not match datagram " ++
      Text.hexPrefixed 4 expected.toNat
  | .incomplete declared assembled => s!"reassembled {assembled} bytes, UDP header declared {declared}"
  | .oversized size limit => s!"datagram of {size} bytes exceeds limit of {limit}"

/-- Why a record gave nothing without disturbing the datagram in flight. -/
inductive SkipReason
  | notIpv4
  | malformed
  | notUdp
  | wrongAddress
  | wrongPort
  | unexpectedLength
  deriving DecidableEq, Repr

/-- A whole UDP datagram of the followed flow. -/
structure Datagram where
  /-- Index of the record that completed it. -/
  recordIndex : Nat
  /-- Capture time of the record that completed it. -/
  time : CaptureTime
  source : Ipv4Address
  destination : Ipv4Address
  udp : UdpHeader
  /-- Number of IP packets it came in. -/
  fragments : Nat
  /-- The UDP data: an RTP packet. -/
  data : Bytes
  deriving Repr

/-- What one record did. -/
inductive Outcome
  | complete (d : Datagram)
  | pending
  | skipped (reason : SkipReason)
  | abandoned (m : Mismatch)
  deriving Repr

/-- Counters kept over a run. -/
structure ReassemblyStats where
  records : Nat := 0
  fragments : Nat := 0
  datagrams : Nat := 0
  abandoned : Nat := 0
  notIpv4 : Nat := 0
  malformed : Nat := 0
  notUdp : Nat := 0
  wrongAddress : Nat := 0
  wrongPort : Nat := 0
  unexpectedLength : Nat := 0
  deriving DecidableEq, Repr

/-- Count one skipped record. -/
def ReassemblyStats.countSkip (s : ReassemblyStats) : SkipReason → ReassemblyStats
  | .notIpv4 => { s with notIpv4 := s.notIpv4 + 1 }
  | .malformed => { s with malformed := s.malformed + 1 }
  | .notUdp => { s with notUdp := s.notUdp + 1 }
  | .wrongAddress => { s with wrongAddress := s.wrongAddress + 1 }
  | .wrongPort => { s with wrongPort := s.wrongPort + 1 }
  | .unexpectedLength => { s with unexpectedLength := s.unexpectedLength + 1 }

/-- The datagram in flight. -/
structure Slot where
  identification : UInt16
  /-- The offset, in 8-byte units, the next fragment must carry. -/
  nextOffset : Nat
  source : Ipv4Address
  destination : Ipv4Address
  udp : UdpHeader
  /-- UDP data length declared by the first fragment. -/
  declared : Nat
  /-- UDP data received so far. -/
  buffer : Bytes
  fragments : Nat
  deriving Repr

/-- `bs` cut or zero-filled to `n` bytes. -/
def Bytes.resize (bs : Bytes) (n : Nat) : Bytes :=
  bs.take n ++ List.replicate (n - bs.length) 0

/-- The reassembly state of a run. -/
structure Reassembler where
  target : FlowTarget
  /-- Only datagrams whose RTP payload has this length complete. -/
  expectedPayload : Option Nat := none
  /-- Largest UDP data length buffered. -/
  maxDatagram : Nat := 65535
  slot : Option Slot := none
  stats : ReassemblyStats := {}
  deriving Repr

/-- The result of feeding one record. -/
structure ReassemblyStep where
  next : Reassembler
  outcome : Outcome
  events : List Event

namespace Reassembler

/-- The offset the next fragment must carry: the slot's, or zero when it is empty. -/
def expectedOffset (r : Reassembler) : Nat :=
  match r.slot with
  | some s => s.nextOffset
  | none => 0

/-- Whether a datagram is in flight. -/
def inFlight (r : Reassembler) : Bool :=
  r.slot.isSome

/-- Skip a record: count it, keep the slot. -/
def skip (r : Reassembler) (reason : SkipReason) (events : List Event) : ReassemblyStep :=
  ⟨{ r with stats := r.stats.countSkip reason }, .skipped reason, events⟩

/-- Drop the slot, counting it if there was one. -/
def abandon (r : Reassembler) (m : Mismatch) (events : List Event) : ReassemblyStep :=
  let stats := if r.slot.isSome then { r.stats with abandoned := r.stats.abandoned + 1 } else r.stats
  ⟨{ r with slot := none, stats }, .abandoned m, events⟩

/-- Start a datagram from its first fragment, or stop with the step that refuses it. -/
def begin (r : Reassembler) (at_ : List (String × Nat)) (ip : Ipv4Packet) :
    Except ReassemblyStep Reassembler :=
  match UdpHeader.parse ip.payload with
  | .error e => .error (r.skip .malformed [.debug ("skipping malformed udp header: " ++ e.message) at_])
  | .ok udp =>
    match udp.dataLength with
    | .error e =>
      .error (r.skip .malformed [.debug ("skipping malformed udp header: " ++ e.message) at_])
    | .ok len =>
      if len < RtpHeader.length then
        .error (r.skip .malformed [.debug s!"skipping, {len} bytes of udp data cannot hold rtp" at_])
      else if r.maxDatagram < len then
        .error (r.abandon (.oversized len r.maxDatagram) [])
      else
        .ok { r with
          slot := some ⟨ip.identification, 0, ip.source, ip.destination, udp, len,
            ip.payload.drop UdpHeader.headerLength, 1⟩ }

/-- Add a continuation to the datagram in flight, or stop with the step that refuses it. -/
def continueWith (r : Reassembler) (at_ : List (String × Nat)) (ip : Ipv4Packet) :
    Except ReassemblyStep Reassembler :=
  match r.slot with
  | none => .error (r.abandon (.unexpectedOffset 0 ip.fragmentOffset.toNat) [])
  | some s =>
    if ip.identification != s.identification then
      let seen := ip.identification
      let held := s.identification
      .error (r.abandon (.identification held seen)
        [.debug s!"skipping, id's don't match {seen} != {held}" at_])
    else
      -- continuations carry no UDP header: their bytes land eight bytes before their offset
      let position := ip.fragmentOffset.toNat * 8 - UdpHeader.headerLength
      let finish := position + ip.payload.length
      if r.maxDatagram < finish then
        .error (r.abandon (.oversized finish r.maxDatagram) [])
      else
        .ok { r with
          slot := some { s with
            buffer := s.buffer.resize position ++ ip.payload
            fragments := s.fragments + 1 } }

/-- Complete the datagram of a slot already taken out of `r`. -/
def complete (r : Reassembler) (rec : SnoopRecord) (at_ : List (String × Nat)) (s : Slot) :
    ReassemblyStep :=
  if r.target.portOf s.udp != r.target.port then
    let seen := r.target.portOf s.udp
    let port := r.target.port
    r.skip .wrongPort [.debug s!"skipping bad port {seen} != {port}" at_]
  else if s.buffer.length < s.declared then
    r.abandon (.incomplete s.declared s.buffer.length) []
  else
    let payloadLength := s.declared - RtpHeader.length
    match r.expectedPayload with
    | some e =>
      if e != payloadLength then
        r.skip .unexpectedLength [.warn s!"skipping because of wrong data size {e} != {payloadLength}" at_]
      else accept r rec s
    | none => accept r rec s
where
  /-- Count and give out a completed datagram. -/
  accept (r : Reassembler) (rec : SnoopRecord) (s : Slot) : ReassemblyStep :=
    ⟨{ r with stats := { r.stats with datagrams := r.stats.datagrams + 1 } },
      .complete ⟨rec.index, rec.time, s.source, s.destination, s.udp, s.fragments,
        s.buffer.take s.declared⟩, []⟩

/-- Take the IPv4 UDP packet `ip` of the followed address, carried by `rec`, as the next fragment:
check its offset, start or continue the datagram, and complete it at the last fragment. -/
def place (r : Reassembler) (rec : SnoopRecord) (ip : Ipv4Packet) : ReassemblyStep :=
  let at_ := [("record", rec.index)]
  let expected := r.expectedOffset
  let offset := ip.fragmentOffset.toNat
  if offset != expected then
    r.abandon (.unexpectedOffset expected offset)
      [.debug s!"skipping, expected offset {expected}, got {offset}" at_]
  else
    let accepted := if offset == 0 then r.begin at_ ip else r.continueWith at_ ip
    match accepted with
    | .error step => step
    | .ok r =>
      if ip.moreFragments then
        let slot := r.slot.map fun s => { s with nextOffset := s.nextOffset + ip.payload.length / 8 }
        ⟨{ r with slot }, .pending, []⟩
      else
        match r.slot with
        | some s => complete { r with slot := none } rec at_ s
        | none => ⟨r, .pending, []⟩

/-- Feed one capture record. -/
def push (r₀ : Reassembler) (rec : SnoopRecord) : ReassemblyStep :=
  let r := { r₀ with stats := { r₀.stats with records := r₀.stats.records + 1 } }
  let at_ := [("record", rec.index)]
  if rec.nextHeader? != some SnoopRecord.ipv4Type then
    r.skip .notIpv4 [.debug "skipping non-ip record" at_]
  else
    match Ipv4Packet.parse rec.networkPayload with
    | .error e => r.skip .malformed [.debug ("skipping malformed ip packet: " ++ e.message) at_]
    | .ok ip =>
      if ip.protocol != Ipv4Packet.udpProtocol then
        r.skip .notUdp [.debug "skipping non-udp packet" (at_ ++ [("protocol", ip.protocol.toNat)])]
      else if r.target.addressOf ip != r.target.address then
        let seen := (r.target.addressOf ip).text
        let want := r.target.address.text
        r.skip .wrongAddress [.debug s!"skipping, wrong ip {seen} != {want}" at_]
      else
        let r := if ip.isFragment then { r with stats := { r.stats with fragments := r.stats.fragments + 1 } } else r
        r.place rec ip

/-- Feed records one after another: the step of each, in order. -/
def feed (r : Reassembler) : List SnoopRecord → List ReassemblyStep
  | [] => []
  | rec :: recs =>
    let step := r.push rec
    step :: step.next.feed recs

/-- The state after feeding records. -/
def afterAll (r : Reassembler) (recs : List SnoopRecord) : Reassembler :=
  ((r.feed recs).getLast?.map ReassemblyStep.next).getD r

end Reassembler

end RtpAudit
