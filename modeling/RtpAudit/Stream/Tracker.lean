import RtpAudit.Stream.Anomaly
import RtpAudit.Stream.Histogram
import RtpAudit.Stream.Profile
import RtpAudit.Packet.Rtp

/-! # Checking a stream packet by packet

The tracker checks each packet against what the stream so far leads it to expect, then takes the
packet as the new reference, so that one discontinuity is reported once and not on every later
packet. For each packet, in this order:

* a payload of other than the frame length of a known type is unusual (comfort noise aside);
* a version byte other than `0x80` is bad;
* a negative spacing is reported and counted as zero, and comfort noise always counts as zero;
* the spacing is counted in the histogram and kept as the longest if it is;
* elapsed time grows by the spacing's bucket, unless the previous packet was comfort noise and this
  one is not (such a packet's spacing is not audio time);
* after the first packet, a sequence number other than the expected one is reported, and otherwise,
  for an unmarked packet carrying samples, a timestamp other than the expected one;
* the next sequence number expected is this one plus one, and the next timestamp this one plus the
  samples carried (one for comfort noise with a payload), both wrapping.
-/

namespace RtpAudit

/-- Running state of one run's checks. -/
structure Tracker where
  /-- The sequence number expected next; none before the first packet. -/
  expectedSeq : Option UInt16 := none
  expectedTimestamp : UInt32 := 0
  totalElapsed : Nat := 0
  maxDelay : Int := 0
  histogram : Histogram := {}
  /-- Whether the previous packet was comfort noise. -/
  comfortPending : Bool := false
  processed : Nat := 0
  /-- Packets with at least one silent sample. -/
  silencePackets : Nat := 0
  /-- Packets with at least one non-silent sample. -/
  nonSilencePackets : Nat := 0
  deriving Repr

/-- What the tracker concluded about one packet. -/
structure Validation where
  /-- Position of the packet among those checked, from 1. -/
  packetIndex : Nat
  /-- The spacing as counted: never negative, zero for comfort noise. -/
  delta : Int
  bucket : Nat
  anomalies : List Anomaly
  comfortNoise : Bool
  marker : Bool
  deriving Repr

/-- Whether no anomaly was found. -/
def Validation.isClean (v : Validation) : Bool :=
  v.anomalies.isEmpty

namespace Tracker

/-- Media clock units a packet advances the stream by. -/
def samples (p : RtpPacket) : Nat :=
  if p.header.isComfortNoise then min p.payloadLength 1 else p.payloadLength

/-- Anomalies of a packet on its own: unusual length, then bad version, then negative spacing. -/
def ownAnomalies (p : RtpPacket) (delta : Int) : List Anomaly :=
  let h := p.header
  let unusual := match PayloadProfile.frameLength? h.payloadType with
    | some len =>
      if !h.isComfortNoise && p.payloadLength != len then
        [Anomaly.unusualLength h.payloadType len p.payloadLength]
      else []
    | none => []
  let version := if h.versionFlags != RtpHeader.versionByte then [Anomaly.badVersion h.versionFlags] else []
  let negative := if delta < 0 then [Anomaly.negativeDelta delta] else []
  unusual ++ version ++ negative

/-- Anomalies of a packet against the stream so far. -/
def continuityAnomalies (t : Tracker) (p : RtpPacket) : List Anomaly :=
  let h := p.header
  match t.expectedSeq with
  | none => []
  | some seq =>
    if h.sequence != seq then [.sequenceMismatch seq h.sequence]
    else if !h.marker && samples p > 0 && h.timestamp != t.expectedTimestamp then
      [.timestampMismatch t.expectedTimestamp h.timestamp]
    else []

/-- Check one packet, `delta` milliseconds after the previous one, and fold it in. -/
def validate (t : Tracker) (p : RtpPacket) (delta : Int) : Tracker × Validation :=
  let h := p.header
  let cn := h.isComfortNoise
  let counted := if cn then 0 else max delta 0
  let (histogram, bucket) := t.histogram.record counted
  let elapsed := if !t.comfortPending || cn then t.totalElapsed + bucket else t.totalElapsed
  let anomalies := ownAnomalies p delta ++ t.continuityAnomalies p
  let next : Tracker := { t with
    processed := t.processed + 1
    maxDelay := max t.maxDelay counted
    histogram
    totalElapsed := elapsed
    comfortPending := cn
    expectedSeq := some (h.sequence + 1)
    expectedTimestamp := h.timestamp + (samples p).toUInt32 }
  (next, ⟨t.processed + 1, counted, bucket, anomalies, cn, h.marker⟩)

/-- Count a packet's silence scan. -/
def recordSilence (t : Tracker) (s : SilenceScan) : Tracker :=
  { t with
    nonSilencePackets := if s.isSilent then t.nonSilencePackets else t.nonSilencePackets + 1
    silencePackets := if s.containsSilence then t.silencePackets + 1 else t.silencePackets }

end Tracker

end RtpAudit
