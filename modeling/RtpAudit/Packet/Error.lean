/-! # Why a header cannot be decoded

Decoding a header fails for a few reasons: too few bytes, a header whose own fields refuse it
(a version other than 4, a header length below the minimum), or a length field smaller than the
header it belongs to. Each error names the layer being decoded, and its text starts with that
name.
-/

namespace RtpAudit

/-- The layer a decoder reads. -/
inductive Layer
  | ipv4
  | udp
  | rtp
  | recording
  deriving DecidableEq, Repr

/-- The name of a layer at the start of its error texts. -/
def Layer.name : Layer → String
  | .ipv4 => "ipv4"
  | .udp => "udp"
  | .rtp => "rtp"
  | .recording => "recording"

/-- The title of a layer in the texts of header faults. -/
def Layer.title : Layer → String
  | .ipv4 => "IPv4"
  | .udp => "UDP"
  | .rtp => "RTP"
  | .recording => "Recording"

/-- Why the checks of a fixed header refused it. -/
inductive HeaderFault
  /-- Fewer bytes than the header needs. -/
  | truncated (required available : Nat)
  /-- An IP version other than 4. -/
  | version (found : Nat)
  /-- An internet header length, in 32-bit words, below 5. -/
  | headerLength (words : Nat)
  deriving DecidableEq, Repr

/-- The text of a header fault of a layer. -/
def HeaderFault.text (layer : Layer) : HeaderFault → String
  | .truncated required available =>
    let t := layer.title
    s!"{t} Header Error: Not enough data to decode '{t} header'. {required} byte(s) would be " ++
      s!"required, but only {available} byte(s) are available based on the slice length."
  | .version found =>
    s!"IPv4 Header Error: Encountered '{found}' as IP version number in the IPv4 header " ++
      "(must be '4' in an IPv4 header)."
  | .headerLength words =>
    s!"IPv4 Header Error: The 'internet header length' value '{words}' present in the IPv4 " ++
      "header is smaller than the minimum size of an IPv4 header. The minimum allowed value is '5'."

/-- Why a header could not be decoded. -/
inductive DecodeError
  /-- Fewer bytes than the layer needs. -/
  | tooShort (layer : Layer) (needed available : Nat)
  /-- The fixed header was refused by its own checks. -/
  | badHeader (layer : Layer) (fault : HeaderFault)
  /-- An IPv4 total length smaller than the header. -/
  | totalBelowHeader (total header : Nat)
  /-- A length field smaller than the header it counts. -/
  | lengthBelowHeader (layer : Layer) (length : Nat)
  deriving DecidableEq, Repr

/-- The text of a decoding error. -/
def DecodeError.message : DecodeError → String
  | .tooShort layer needed available =>
    let l := layer.name
    s!"{l}: packet too short (need {needed} bytes, have {available})"
  | .badHeader layer fault => layer.name ++ ": invalid header: " ++ fault.text layer
  | .totalBelowHeader total header =>
    s!"ipv4: invalid total_len: {total} is shorter than the {header}-byte header"
  | .lengthBelowHeader .recording length =>
    s!"recording: invalid length: {length} is shorter than the frame header"
  | .lengthBelowHeader layer length =>
    let l := layer.name
    s!"{l}: invalid length: {length} is shorter than the header"

/-- Whether the error is a shortage of bytes, rather than a field refused. -/
def DecodeError.isShortage : DecodeError → Bool
  | .tooShort .. => true
  | _ => false

/-- A decoder that refuses its input accepts nothing, so its acceptance test fails too. -/
theorem error_eq_ok_iff {ε α : Type} {e : ε} {a : α} {P : Prop} (hP : ¬P) :
    (Except.error e : Except ε α) = .ok a ↔ P :=
  ⟨fun h => (by cases h), fun hp => absurd hp hP⟩

end RtpAudit
