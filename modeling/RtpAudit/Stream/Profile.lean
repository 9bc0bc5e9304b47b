import RtpAudit.Wire.Bytes

/-! # Payload types and silence

The payload types the program knows: G.711 μ-law at 8 kHz (type 0) and the dynamic types 102 to
119, linear PCM or μ-law at a rate and channel count, each with the number of payload bytes in a
20 ms frame. For a type without a profile, the encoding is μ-law above 112 and linear PCM below.
A silent sample is `0xff` in μ-law and `0x00` in linear PCM; the silent byte of a type is chosen
by its number alone (μ-law for 0 and above 112), even where that disagrees with its profile.

A payload is scanned for its first sample that is not silent and for whether it holds any silent
sample. A payload is silent when no sample is non-silent, so an empty payload is silent and holds
no silence.
-/

namespace RtpAudit

/-- How the samples of a payload are encoded. -/
inductive Encoding
  /-- 8-bit G.711 μ-law. -/
  | ulaw
  /-- 16-bit linear PCM. -/
  | linear
  deriving DecidableEq, Repr

namespace Encoding

/-- The number of the encoding in an AU header. -/
def code : Encoding → Nat
  | ulaw => 1
  | linear => 3

/-- The byte of a silent sample. -/
def silence : Encoding → UInt8
  | ulaw => 0xFF
  | linear => 0x00

/-- The name of the encoding. -/
def name : Encoding → String
  | ulaw => "ulaw"
  | linear => "linear"

end Encoding

/-- What a payload type carries. -/
structure PayloadProfile where
  payloadType : UInt8
  encoding : Encoding
  sampleRate : Nat
  channels : Nat
  /-- Payload bytes in a 20 ms frame. -/
  frameLength : Nat
  deriving DecidableEq, Repr

namespace PayloadProfile

/-- The known payload types. -/
def table : List PayloadProfile := [
  ⟨0, .ulaw, 8000, 1, 160⟩,
  ⟨102, .linear, 8000, 2, 640⟩,
  ⟨103, .linear, 16000, 1, 640⟩,
  ⟨104, .linear, 16000, 2, 1280⟩,
  ⟨105, .linear, 32000, 1, 1280⟩,
  ⟨106, .linear, 32000, 2, 2560⟩,
  ⟨107, .linear, 44100, 1, 1764⟩,
  ⟨108, .linear, 44100, 2, 3528⟩,
  ⟨109, .linear, 48000, 1, 1920⟩,
  ⟨110, .linear, 48000, 2, 3840⟩,
  ⟨111, .ulaw, 8000, 2, 320⟩,
  ⟨112, .ulaw, 16000, 1, 320⟩,
  ⟨113, .ulaw, 16000, 2, 640⟩,
  ⟨114, .ulaw, 32000, 1, 640⟩,
  ⟨115, .ulaw, 32000, 2, 1280⟩,
  ⟨116, .ulaw, 44100, 1, 882⟩,
  ⟨117, .ulaw, 44100, 2, 1764⟩,
  ⟨118, .ulaw, 48000, 1, 960⟩,
  ⟨119, .ulaw, 48000, 2, 1920⟩]

/-- The profile of a payload type, if it is known. -/
def find? (pt : UInt8) : Option PayloadProfile :=
  table.find? (·.payloadType == pt)

/-- The payload bytes of a 20 ms frame of a known type. -/
def frameLength? (pt : UInt8) : Option Nat :=
  (find? pt).map (·.frameLength)

/-- The encoding of a payload type: its profile's, else μ-law above 112 and linear below. -/
def encodingOf (pt : UInt8) : Encoding :=
  match find? pt with
  | some p => p.encoding
  | none => if pt > 112 then .ulaw else .linear

end PayloadProfile

/-- The byte of a silent sample of a payload type. -/
def silenceByte (pt : UInt8) : UInt8 :=
  if pt == 0 || pt > 112 then Encoding.ulaw.silence else Encoding.linear.silence

/-- Whether a sample of a payload type is silent. -/
def isSilence (pt sample : UInt8) : Bool :=
  sample == silenceByte pt

/-- The first sample that is not silent: where it is and what it is. -/
structure NonSilence where
  offset : Nat
  value : UInt8
  deriving DecidableEq, Repr

/-- What scanning a payload found. -/
structure SilenceScan where
  firstNonSilent : Option NonSilence
  containsSilence : Bool
  deriving DecidableEq, Repr

/-- Whether no sample of the payload is non-silent. -/
def SilenceScan.isSilent (s : SilenceScan) : Bool :=
  s.firstNonSilent.isNone

/-- Scan the payload of a packet of type `pt`. -/
def scanSilence (pt : UInt8) (payload : Bytes) : SilenceScan :=
  let quiet := silenceByte pt
  { firstNonSilent := (payload.findIdx? (· != quiet)).map fun i => ⟨i, payload.getD i 0⟩
    containsSilence := payload.contains quiet }

end RtpAudit
