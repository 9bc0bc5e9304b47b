/-! # Reading bytes as UTF-8 text, replacing what is not

Bytes that are not well-formed UTF-8 still read as text: each maximal part that cannot begin or
continue a well-formed sequence becomes one replacement character `U+FFFD`. A lead byte followed
by a byte that cannot follow it is one such part on its own; a sequence cut short by the end of
the bytes is one part.

Main statement: ASCII bytes read as themselves (`decodeLossy_ascii`).
-/

namespace RtpAudit.Text

/-- The character written in place of a maximal ill-formed part. -/
def replacement : Char := '\uFFFD'

/-- Whether `b` is a continuation byte `10xxxxxx`. -/
def isContinuation (b : UInt8) : Bool :=
  b &&& 0xC0 == 0x80

/-- Whether `b₁` may follow the lead byte `b₀` of a three-byte sequence (no overlong form, no
surrogate). -/
def secondOfThree (b₀ b₁ : UInt8) : Bool :=
  if b₀ == 0xE0 then 0xA0 ≤ b₁ && b₁ ≤ 0xBF
  else if b₀ == 0xED then 0x80 ≤ b₁ && b₁ ≤ 0x9F
  else isContinuation b₁

/-- Whether `b₁` may follow the lead byte `b₀` of a four-byte sequence (no overlong form, nothing
past `U+10FFFF`). -/
def secondOfFour (b₀ b₁ : UInt8) : Bool :=
  if b₀ == 0xF0 then 0x90 ≤ b₁ && b₁ ≤ 0xBF
  else if b₀ == 0xF4 then 0x80 ≤ b₁ && b₁ ≤ 0x8F
  else isContinuation b₁

/-- The low six bits of a continuation byte. -/
def payloadBits (b : UInt8) : Nat :=
  (b &&& 0x3F).toNat

/-- Decode bytes as UTF-8, one replacement character for each maximal ill-formed part. -/
def decodeLossy : List UInt8 → List Char
  | [] => []
  | b₀ :: rest =>
    if b₀ < 0x80 then
      Char.ofNat b₀.toNat :: decodeLossy rest
    else if 0xC2 ≤ b₀ && b₀ ≤ 0xDF then
      match rest with
      | [] => [replacement]
      | b₁ :: rest₁ =>
        if isContinuation b₁ then
          Char.ofNat ((b₀ &&& 0x1F).toNat * 64 + payloadBits b₁) :: decodeLossy rest₁
        else replacement :: decodeLossy (b₁ :: rest₁)
    else if 0xE0 ≤ b₀ && b₀ ≤ 0xEF then
      match rest with
      | [] => [replacement]
      | b₁ :: rest₁ =>
        if secondOfThree b₀ b₁ then
          match rest₁ with
          | [] => [replacement]
          | b₂ :: rest₂ =>
            if isContinuation b₂ then
              Char.ofNat ((b₀ &&& 0x0F).toNat * 4096 + payloadBits b₁ * 64 + payloadBits b₂) ::
                decodeLossy rest₂
            else replacement :: decodeLossy (b₂ :: rest₂)
        else replacement :: decodeLossy (b₁ :: rest₁)
    else if 0xF0 ≤ b₀ && b₀ ≤ 0xF4 then
      match rest with
      | [] => [replacement]
      | b₁ :: rest₁ =>
        if secondOfFour b₀ b₁ then
          match rest₁ with
          | [] => [replacement]
          | b₂ :: rest₂ =>
            if isContinuation b₂ then
              match rest₂ with
              | [] => [replacement]
              | b₃ :: rest₃ =>
                if isContinuation b₃ then
                  Char.ofNat ((b₀ &&& 0x07).toNat * 262144 + payloadBits b₁ * 4096 +
                    payloadBits b₂ * 64 + payloadBits b₃) :: decodeLossy rest₃
                else replacement :: decodeLossy (b₃ :: rest₃)
            else replacement :: decodeLossy (b₂ :: rest₂)
        else replacement :: decodeLossy (b₁ :: rest₁)
    else replacement :: decodeLossy rest
termination_by bs => bs.length

/-- Text of a byte string read as UTF-8, with replacement characters where it is not. -/
def ofBytesLossy (bs : List UInt8) : String :=
  String.ofList (decodeLossy bs)

theorem decodeLossy_ascii (bs : List UInt8) (h : ∀ b ∈ bs, b < 0x80) :
    decodeLossy bs = bs.map fun b => Char.ofNat b.toNat := by
  induction bs with
  | nil => simp [decodeLossy]
  | cons b rest ih =>
    have hb : b < 0x80 := h b (by simp)
    rw [decodeLossy.eq_def]
    simp only [if_pos hb, ih fun x hx => h x (by simp [hx]), List.map_cons]

end RtpAudit.Text
