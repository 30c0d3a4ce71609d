import BarRules.Text.Blank
import BarRules.Text.Bytes
import BarRules.Text.Numerals
import BarRules.Token

/-
  Scanning rule text into tokens.

  Key definitions include:
    * `BarRules.ScanCause`
    * `BarRules.ScanFault`
    * `BarRules.Scan.readOffset`
    * `BarRules.Scan.readPrice`
    * `BarRules.Scan.readSymbol`
    * `BarRules.Scan.readLexeme`
    * `BarRules.Scan.tokensFrom`
    * `BarRules.scan`

  Key theorems include:
    * `BarRules.Scan.readLexeme_shorter`

  A lexeme is a price keyword with its bracketed offset, an
  operator, or a parenthesis.  Blanks may stand before, between
  and after lexemes, and around the number in a bracket.  Each
  lexeme takes at least one character, which bounds the scan.
-/

------------------------------------------------------------
-- Faults
------------------------------------------------------------

namespace BarRules

/- Why text cannot be cut into tokens. -/
inductive ScanCause where
  | unknownIdentifier (word : String)
  | unexpectedChar (c : Char)
  | missingOffset
  | malformedOffset (content : String)
  | negativeOffset
  | unterminatedBracket
  deriving DecidableEq

namespace ScanCause

/- The wording of a scanning fault. -/
def message : ScanCause → String
  | .unknownIdentifier word =>
      "unknown identifier '" ++ word ++
        "' (expected OPEN, HIGH, LOW or CLOSE)"
  | .unexpectedChar c =>
      "unexpected character '" ++ String.singleton c ++ "'"
  | .missingOffset =>
      "expected '[' offset after price identifier"
  | .malformedOffset content =>
      "malformed offset '" ++ content ++ "'"
  | .negativeOffset => "offset must be non-negative"
  | .unterminatedBracket => "unterminated '[' offset"

end ScanCause

/- A cause and the byte position that it is blamed on. -/
structure ScanFault where
  cause : ScanCause
  position : Nat
  deriving DecidableEq

end BarRules

------------------------------------------------------------
-- Bracketed Offsets
------------------------------------------------------------

namespace BarRules

namespace Scan

/-
  What a reading step found, the characters after it, and the
  byte position of these.
-/
structure Reading (α : Type) where
  value : α
  rest : List Char
  next : Nat

/-
  The characters that may stand in an offset that is closed
  but is no number: words, numerals with a sign, a point or an
  operator, and blanks between them.
-/
def isOffsetChar (c : Char) : Bool :=
  Text.isAlphanumeric c || Text.isBlank c ||
    c ∈ ['_', '.', '+', '-', '*', '/']

/-
  The fault of a bracket whose content, blanks skipped, is no
  number.  It is malformed if its bracket closes right after
  it; otherwise the bracket was never closed.
-/
def badOffset
    (bracket start : Nat)
    (content : List Char) :
    ScanFault :=
  match content.dropWhile isOffsetChar with
  | ']' :: _ =>
      ⟨.malformedOffset
        (String.ofList
          (Text.trimChars (content.takeWhile isOffsetChar))),
        start⟩
  | _ => ⟨.unterminatedBracket, bracket⟩

/-
  Read a number and its closing bracket.  The content starts
  at its first character that is not blank.
-/
def readNumber
    (bracket start : Nat)
    (content : List Char) :
    Except ScanFault (Reading UInt64) :=
  let digits := content.takeWhile Char.isDigit
  let after := content.dropWhile Char.isDigit
  match after.dropWhile Text.isBlank with
  | [] => .error ⟨.unterminatedBracket, bracket⟩
  | ']' :: rest =>
      if digits = [] then
        .error (badOffset bracket start content)
      else
        match Text.Decimal.word? digits with
        | none =>
            .error
              ⟨.malformedOffset (String.ofList digits), start⟩
        | some bars =>
            .ok
              ⟨bars, rest,
                start + Text.byteLength digits +
                  Text.byteLength
                    (after.takeWhile Text.isBlank) + 1⟩
  | _ :: _ => .error (badOffset bracket start content)

/-
  Read an offset after its opening bracket, which stands at
  the byte position `bracket`.
-/
def readOffset
    (bracket : Nat)
    (cs : List Char) :
    Except ScanFault (Reading UInt64) :=
  let content := cs.dropWhile Text.isBlank
  let start :=
    bracket + 1 +
      Text.byteLength (cs.takeWhile Text.isBlank)
  if content.head? = some '-' then
    .error ⟨.negativeOffset, start⟩
  else
    readNumber bracket start content

end Scan

end BarRules

------------------------------------------------------------
-- Lexemes
------------------------------------------------------------

namespace BarRules

namespace Scan

/- The characters that start a word. -/
def startsWord (c : Char) : Bool :=
  Text.isAlphabetic c || c = '_'

/- The characters that go on in a word. -/
def isWordChar (c : Char) : Bool :=
  Text.isAlphanumeric c || c = '_'

/-
  Read a price keyword and its offset, at the start of a word.
  The bracket stands right after the word.
-/
def readPrice
    (pos : Nat)
    (cs : List Char) :
    Except ScanFault (Reading (List Token)) :=
  let word := cs.takeWhile isWordChar
  let bracket := pos + Text.byteLength word
  match PriceField.ofKeyword? (String.ofList word) with
  | none =>
      .error ⟨.unknownIdentifier (String.ofList word), pos⟩
  | some field =>
      match cs.dropWhile isWordChar with
      | '[' :: content =>
          match readOffset bracket content with
          | .error fault => .error fault
          | .ok offset =>
              .ok
                ⟨[⟨.price field, pos⟩,
                    ⟨.offset offset.value, bracket⟩],
                  offset.rest, offset.next⟩
      | _ => .error ⟨.missingOffset, bracket⟩

/-
  The operator or parenthesis that starts with a character,
  with the characters after it and the number of its bytes.
  The longer of two operators is taken.
-/
def symbol?
    (c : Char)
    (cs : List Char) :
    Option (TokenKind × List Char × Nat) :=
  match c, cs with
  | '(', _ => some (.openParen, cs, 1)
  | ')', _ => some (.closeParen, cs, 1)
  | '+', _ => some (.operator (.arith .add), cs, 1)
  | '-', _ => some (.operator (.arith .subtract), cs, 1)
  | '*', _ => some (.operator (.arith .multiply), cs, 1)
  | '/', _ => some (.operator (.arith .divide), cs, 1)
  | '<', '=' :: rest =>
      some (.operator (.compare .atMost), rest, 2)
  | '<', _ => some (.operator (.compare .less), cs, 1)
  | '>', '=' :: rest =>
      some (.operator (.compare .atLeast), rest, 2)
  | '>', _ => some (.operator (.compare .greater), cs, 1)
  | '=', '=' :: rest =>
      some (.operator (.compare .equal), rest, 2)
  | '!', '=' :: rest =>
      some (.operator (.compare .unequal), rest, 2)
  | _, _ => none

/- Read an operator or a parenthesis. -/
def readSymbol
    (pos : Nat)
    (c : Char)
    (cs : List Char) :
    Except ScanFault (Reading (List Token)) :=
  match symbol? c cs with
  | none => .error ⟨.unexpectedChar c, pos⟩
  | some (kind, rest, size) =>
      .ok ⟨[⟨kind, pos⟩], rest, pos + size⟩

/- Read the lexeme that starts with a character not blank. -/
def readLexeme
    (pos : Nat)
    (c : Char)
    (cs : List Char) :
    Except ScanFault (Reading (List Token)) :=
  if startsWord c then
    readPrice pos (c :: cs)
  else
    readSymbol pos c cs

end Scan

end BarRules

------------------------------------------------------------
-- Progress
------------------------------------------------------------

namespace BarRules

namespace Scan

/- A number takes its closing bracket off the content. -/
theorem readNumber_shorter
    {bracket start : Nat}
    {content : List Char}
    {reading : Reading UInt64}
    (h : readNumber bracket start content = .ok reading) :
    reading.rest.length < content.length := by
  have hDigits :=
    (List.dropWhile_sublist Char.isDigit (l := content)).length_le
  have hBlanks :=
    (List.dropWhile_sublist Text.isBlank
      (l := content.dropWhile Char.isDigit)).length_le
  unfold readNumber at h
  simp only at h
  split at h
  · cases h
  · rename_i rest hRest
    rw [hRest] at hBlanks
    split at h
    · cases h
    · split at h
      · cases h
      · cases h
        simp only [List.length_cons] at hBlanks ⊢
        omega
  · cases h

/- An offset takes its closing bracket off the text. -/
theorem readOffset_shorter
    {bracket : Nat}
    {cs : List Char}
    {reading : Reading UInt64}
    (h : readOffset bracket cs = .ok reading) :
    reading.rest.length < cs.length := by
  have hBlanks :=
    (List.dropWhile_sublist Text.isBlank (l := cs)).length_le
  unfold readOffset at h
  simp only at h
  split at h
  · cases h
  · have := readNumber_shorter h
    omega

/- A price takes its keyword and offset off the text. -/
theorem readPrice_shorter
    {pos : Nat}
    {cs : List Char}
    {reading : Reading (List Token)}
    (h : readPrice pos cs = .ok reading) :
    reading.rest.length < cs.length := by
  have hWord :=
    (List.dropWhile_sublist isWordChar (l := cs)).length_le
  unfold readPrice at h
  simp only at h
  split at h
  · cases h
  · split at h
    · rename_i content hContent
      rw [hContent] at hWord
      split at h
      · cases h
      · rename_i offset hOffset
        cases h
        have := readOffset_shorter hOffset
        simp only [List.length_cons] at hWord ⊢
        omega
    · cases h

/- A symbol leaves no more than the characters after it. -/
theorem symbol?_length_le
    {c : Char}
    {cs rest : List Char}
    {kind : TokenKind}
    {size : Nat}
    (h : symbol? c cs = some (kind, rest, size)) :
    rest.length ≤ cs.length := by
  unfold symbol? at h
  split at h <;> simp at h <;> simp [← h.2.1]

/- A lexeme takes at least its first character. -/
theorem readLexeme_shorter
    {pos : Nat}
    {c : Char}
    {cs : List Char}
    {reading : Reading (List Token)}
    (h : readLexeme pos c cs = .ok reading) :
    reading.rest.length < cs.length + 1 := by
  unfold readLexeme at h
  split at h
  · exact readPrice_shorter h
  · unfold readSymbol at h
    split at h
    · cases h
    · rename_i kind rest size hSymbol
      cases h
      have := symbol?_length_le hSymbol
      simp
      omega

end Scan

end BarRules

------------------------------------------------------------
-- Whole Texts
------------------------------------------------------------

namespace BarRules

namespace Scan

/- The tokens of text that starts at a byte position. -/
def tokensFrom
    (pos : Nat)
    (cs : List Char) :
    Except ScanFault (List Token) :=
  match cs with
  | [] => .ok []
  | c :: rest =>
      if Text.isBlank c then
        tokensFrom (pos + c.utf8Size) rest
      else
        match h : readLexeme pos c rest with
        | .error fault => .error fault
        | .ok reading =>
            have := readLexeme_shorter h
            match tokensFrom reading.next reading.rest with
            | .error fault => .error fault
            | .ok tokens => .ok (reading.value ++ tokens)
termination_by cs.length

end Scan

/- The tokens of a rule. -/
def scan (rule : String) : Except ScanFault (List Token) :=
  Scan.tokensFrom 0 rule.toList

end BarRules
