import RtpAudit.Text.Number
import RtpAudit.Text.CharClass

/-! # Quoted text and lines

Text inside double quotes, as the program shows a file name or the first bytes of a file it does
not recognise. Inside the quotes a character is written as it is, unless it is one of the six with
a short escape (NUL, tab, carriage return, line feed, backslash, double quote), or it is a mark
that extends the grapheme before it, or it is not printable: those are written as `\u` followed by their code point
in lowercase hexadecimal inside braces.

A text is cut into lines at each line feed. A carriage return just before a line feed belongs to
the line ending, not to the line; a carriage return anywhere else, the very end of the text
included, is part of its line.

Main statements: a printable ASCII character other than the backslash and the quote is written as
it is (`escapeChar_plain`), and a text without a line feed is its own first line
(`firstLine_of_not_mem`).
-/

namespace RtpAudit.Text

/-- The text of one character inside double quotes. -/
def escapeChar (c : Char) : String :=
  if c == '\x00' then "\\0"
  else if c == '\t' then "\\t"
  else if c == '\r' then "\\r"
  else if c == '\n' then "\\n"
  else if c == '\\' then "\\\\"
  else if c == '"' then "\\\""
  else if isExtendingMark c || !isPrintable c then "\\u\x7b" ++ hex c.toNat ++ "\x7d"
  else c.toString

/-- A printable ASCII character other than the backslash and the quote is written as it is. -/
theorem escapeChar_plain (c : Char) (lo : 0x20 ≤ c.toNat) (hi : c.toNat < 0x7f) (hb : c ≠ '\\')
    (hq : c ≠ '"') : escapeChar c = c.toString := by
  obtain ⟨hp, hm⟩ := inRanges_ascii ⟨c.toNat, hi⟩ lo
  have hc : ∀ d : Char, d.toNat < 0x20 → c ≠ d := by
    intro d hd h
    subst h
    omega
  simp [escapeChar, isExtendingMark, isPrintable, hp, hm, hb, hq, hc '\x00' (by decide),
    hc '\t' (by decide), hc '\r' (by decide), hc '\n' (by decide)]

/-- `s` between double quotes, each character written by `escapeChar`. -/
def quote (s : String) : String :=
  "\"" ++ String.join (s.toList.map escapeChar) ++ "\""

example : quote "a\"b" = "\"a\\\"b\"" := by decide +kernel
example : quote "\u200B\u0301ab" = "\"\\u\x7b200b\x7d\\u\x7b301\x7dab\"" := by decide +kernel

/-- The first line of `s`: what comes before its first line feed, less a carriage return just
before that line feed; all of `s` if it holds no line feed. -/
def firstLine (s : String) : String :=
  let line := s.toList.takeWhile (· != '\n')
  if line.length < s.length && line.getLast? == some '\r' then String.ofList line.dropLast
  else String.ofList line

theorem takeWhile_of_all (p : Char → Bool) :
    ∀ cs : List Char, (∀ c ∈ cs, p c = true) → cs.takeWhile p = cs
  | [], _ => rfl
  | c :: cs, h => by
    rw [List.takeWhile_cons, if_pos (h c (by simp)),
      takeWhile_of_all p cs (fun d hd => h d (by simp [hd]))]

theorem firstLine_of_not_mem (s : String) (h : '\n' ∉ s.toList) : firstLine s = s := by
  have whole : s.toList.takeWhile (· != '\n') = s.toList := by
    apply takeWhile_of_all
    intro c hc
    have : c ≠ '\n' := fun e => h (e ▸ hc)
    simpa using this
  simp [firstLine, whole, String.length_toList]

end RtpAudit.Text
