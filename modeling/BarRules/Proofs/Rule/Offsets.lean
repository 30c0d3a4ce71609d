import BarRules.Proofs.Grammar.Pairs
import BarRules.Proofs.Token.Lexemes
import Mathlib.Data.List.Nodup

/-
  Offsets of scanned rules are never at fault.

  Key definitions include:
    * `BarRules.Text.lettersOf`

  Key theorems include:
    * `BarRules.Scan.Lexes.paired`
    * `BarRules.Scan.Lexes.position_bounds`
    * `BarRules.Scan.Lexes.pairwise_position_lt`
    * `BarRules.Grammar.Cause.offset_not_infix_message`
    * `BarRules.Grammar.Fault.PartsNoPair.position_ne`
    * `BarRules.Rule.offsets_never_blamed`

  A price is scanned as a whole, with its offset, so the tokens
  of a rule are in pairs and a fault of the grammar parts none
  of them.  The wording of such a fault does without the word
  for an offset.  Tokens start one after the other, so its
  position is that of no offset, either.
-/

------------------------------------------------------------
-- Scanned Tokens
------------------------------------------------------------

namespace BarRules

namespace Scan

open Text

variable {text cs : List Char}
variable {found tokens : List Token}
variable {pos : Nat}

/- Operators and parentheses stand alone. -/
theorem standsAlone_of_mem_symbols
    {text : String}
    {kind : TokenKind}
    (h : (text, kind) ∈ symbols) :
    kind.standsAlone = true := by
  have hAll :
      symbols.all (fun symbol => symbol.2.standsAlone) =
        true := by
    decide
  exact List.all_eq_true.mp hAll (text, kind) h

/- A price lexeme is a pair, and others stand alone. -/
theorem Lexeme.paired (h : Lexeme text found) :
    Grammar.Paired (found.map Token.kind) := by
  cases h with
  | price hWord hOffset => exact .price _ _ .nil
  | symbol hSymbol =>
      exact .alone (standsAlone_of_mem_symbols hSymbol) .nil

/- Scanned tokens are in pairs. -/
theorem Lexes.paired (h : Lexes pos cs tokens) :
    Grammar.Paired (tokens.map Token.kind) := by
  induction h with
  | done pos => exact .nil
  | blank hBlank rest ih => exact ih
  | @lexeme pos text cs found tokens hLexeme hEnds rest ih =>
      have hKinds :
          (found.map (Token.shift pos)).map Token.kind =
            found.map Token.kind := by
        simp [Token.shift, Function.comp_def]
      rw [List.map_append, hKinds]
      exact hLexeme.paired.append ih

/- A word for a price has letters. -/
theorem byteLength_keyword_pos
    {word : String}
    {field : PriceField}
    (h : (word, field) ∈ keywords) :
    0 < byteLength word.toList := by
  rw [(mem_keywords_iff ..).mp h]
  cases field <;> decide

/- The tokens of a lexeme start in it. -/
theorem Lexeme.position_lt
    (h : Lexeme text found)
    {token : Token}
    (hMem : token ∈ found) :
    token.position < byteLength text := by
  cases h with
  | @price word field lead digits trail hWord hOffset =>
      have hWordPos := byteLength_keyword_pos hWord
      have hBracketPos := '['.utf8Size_pos
      simp only [List.mem_cons, List.not_mem_nil, or_false]
        at hMem
      rw [byteLength_append, byteLength]
      rcases hMem with rfl | rfl
      · simp only
        omega
      · simp only
        omega
  | @symbol text kind hSymbol =>
      have hAll :
          symbols.all
              (fun symbol =>
                decide (0 < byteLength symbol.1.toList)) =
            true := by
        decide
      have hPos :=
        List.all_eq_true.mp hAll (text, kind) hSymbol
      rw [List.mem_singleton.mp hMem]
      simpa using hPos

/- The tokens of a lexeme start one after the other. -/
theorem Lexeme.pairwise_position_lt (h : Lexeme text found) :
    (found.map Token.position).Pairwise (· < ·) := by
  cases h with
  | price hWord hOffset =>
      simpa using byteLength_keyword_pos hWord
  | symbol hSymbol => simp

/- Tokens start in the text that they are scanned from. -/
theorem Lexes.position_bounds
    (h : Lexes pos cs tokens)
    {token : Token}
    (hMem : token ∈ tokens) :
    pos ≤ token.position ∧
      token.position < pos + byteLength cs := by
  induction h with
  | done pos => cases hMem
  | @blank pos c cs tokens hBlank rest ih =>
      rcases ih hMem with ⟨hFrom, hTo⟩
      rw [byteLength]
      omega
  | @lexeme pos text cs found tokens hLexeme hEnds rest ih =>
      rw [byteLength_append]
      rcases List.mem_append.mp hMem with hFound | hRest
      · rcases List.mem_map.mp hFound with
          ⟨unshifted, hUnshifted, rfl⟩
        have hInside := hLexeme.position_lt hUnshifted
        simp only [Token.shift]
        omega
      · rcases ih hRest with ⟨hFrom, hTo⟩
        omega

/- Tokens start one after the other. -/
theorem Lexes.pairwise_position_lt
    (h : Lexes pos cs tokens) :
    (tokens.map Token.position).Pairwise (· < ·) := by
  induction h with
  | done pos => exact .nil
  | blank hBlank rest ih => exact ih
  | @lexeme pos text cs found tokens hLexeme hEnds rest ih =>
      have hShifted :
          (found.map (Token.shift pos)).map Token.position =
            (found.map Token.position).map (pos + ·) := by
        simp [Token.shift, Function.comp_def]
      rw [List.map_append, hShifted, List.pairwise_append]
      refine ⟨?_, ih, ?_⟩
      · apply hLexeme.pairwise_position_lt.map
        intro first second hLess
        exact Nat.add_lt_add_left hLess pos
      · intro first hFirst second hSecond
        simp only [List.mem_map] at hFirst hSecond
        rcases hFirst with ⟨_, ⟨token, hToken, rfl⟩, rfl⟩
        rcases hSecond with ⟨later, hLater, rfl⟩
        have hInside := hLexeme.position_lt hToken
        have hBehind := (rest.position_bounds hLater).1
        omega

end Scan

end BarRules

------------------------------------------------------------
-- Wording
------------------------------------------------------------

namespace BarRules

namespace Text

/- The characters of a text that are letters of a word. -/
def lettersOf (word text : String) : List Char :=
  text.toList.filter word.toList.contains

variable {word : String}

/- The letters of a text are those of its parts. -/
@[simp] theorem lettersOf_append (front back : String) :
    lettersOf word (front ++ back) =
      lettersOf word front ++ lettersOf word back := by
  simp [lettersOf]

/- A word that occurs in a text occurs in its letters there. -/
theorem infix_lettersOf
    {text : String}
    (h : word.toList <:+: text.toList) :
    word.toList <:+: lettersOf word text := by
  have hLetters := h.filter word.toList.contains
  have hWord :
      word.toList.filter word.toList.contains =
        word.toList := by
    simp
  rwa [hWord] at hLetters

end Text

namespace TokenKind

/-
  The wording of any other token has no letter of the word for
  an offset.
-/
theorem lettersOf_inWords
    {kind : TokenKind}
    (h : ∀ bars, kind ≠ .offset bars) :
    Text.lettersOf "offset" kind.inWords = [] := by
  cases kind with
  | price field => cases field <;> decide
  | offset bars => exact absurd rfl (h bars)
  | operator op =>
      cases op with
      | arith op => cases op <;> decide
      | compare op => cases op <;> decide
  | openParen => decide
  | closeParen => decide

end TokenKind

namespace Grammar

open Text (lettersOf)

/- Nor has the symbol of a comparison. -/
theorem lettersOf_symbol (op : Comparison) :
    lettersOf "offset" op.symbol = [] := by
  cases op <;> decide

/-
  A wording speaks of offsets only where one is missed or
  found.  What it says of other tokens has none of the letters,
  so they would all have to come from the fixed texts.
-/
theorem Cause.offset_not_infix_message
    {cause : Cause}
    (hExpected :
      ∀ field found, cause ≠ .offsetExpected field found)
    (hFound :
      ∀ bars, cause.found? ≠ some (.offset bars)) :
    ¬ "offset".toList <:+: cause.message.toList := by
  have hWords :
      ∀ kind,
        cause.found? = some kind →
          lettersOf "offset" kind.inWords = [] := by
    intro kind hKind
    apply TokenKind.lettersOf_inWords
    rintro bars rfl
    exact hFound bars hKind
  suffices hLetters :
      ¬ "offset".toList <:+: lettersOf "offset" cause.message
    from fun hInfix => hLetters (Text.infix_lettersOf hInfix)
  -- The equations of the wording would work out the limit, so
  -- the wording is unfolded as a whole.
  cases cause with
  | offsetExpected field found =>
      exact absurd rfl (hExpected field found)
  | emptyRule
  | tooManyOperators
  | tooManyParens
  | emptyParens
  | unclosedParen
  | strayClose
  | noComparison => decide +kernel
  | operandExpected found =>
      cases found with
      | none => decide +kernel
      | some kind =>
          unfold Cause.message TokenKind.nextInWords
          simp only [Text.lettersOf_append, hWords kind rfl]
          decide +kernel
  | closeExpected found
  | comparisonExpected found
  | trailing found =>
      unfold Cause.message
      simp only [Text.lettersOf_append, hWords found rfl]
      decide +kernel
  | comparisonInParens
  | secondComparison =>
      unfold Cause.message
      simp only [Text.lettersOf_append, lettersOf_symbol]
      decide +kernel

end Grammar

end BarRules

------------------------------------------------------------
-- Faults and Offsets
------------------------------------------------------------

namespace BarRules

namespace Grammar

/-
  A fault that parts no pair is not at the position of an
  offset, if no two tokens start at one position.
-/
theorem Fault.PartsNoPair.position_ne
    {fault : Fault}
    {tokens : List Token}
    {stop : Nat}
    (h : fault.PartsNoPair (tokens.map Token.kind))
    (hCause : fault.cause ≠ .emptyRule)
    (hStop : ∀ token ∈ tokens, token.position < stop)
    (hApart : (tokens.map Token.position).Nodup)
    {token : Token}
    (hMem : token ∈ tokens)
    {bars : UInt64}
    (hKind : token.kind = .offset bars) :
    token.position ≠ fault.position tokens stop := by
  rw [Fault.position_eq_getD hCause]
  cases hBlamed : tokens[tokens.length - fault.left]? with
  | none => exact Nat.ne_of_lt (hStop token hMem)
  | some blamed =>
      intro hPosition
      have hSame : token = blamed :=
        List.inj_on_of_nodup_map hApart hMem
          (List.mem_of_getElem? hBlamed) hPosition
      apply h.blamed_ne_offset bars
      rw [List.length_map, List.getElem?_map, hBlamed,
        ← hSame, Option.map_some, hKind]

end Grammar

namespace Rule

/-
  In the tokens of a scanned rule, each price is followed by an
  offset and each offset comes right behind a price.  So if
  they are no rule, the failure is not that an offset is
  missed, its wording names no offset as what was found, and
  its position is not that of an offset.
-/
theorem offsets_never_blamed
    {rule : String}
    {tokens : List Token}
    (hScan : scan rule = .ok tokens) :
    let kinds := tokens.map Token.kind
    (∀ index field,
      kinds[index]? = some (.price field) →
        ∃ bars, kinds[index + 1]? = some (.offset bars)) ∧
    (∀ index bars,
      kinds[index]? = some (.offset bars) →
        ∃ before field,
          index = before + 1 ∧
            kinds[before]? = some (.price field)) ∧
    ∀ failure,
      ofTokens tokens rule = .error failure →
        ∃ kind detail position,
          failure = .grammar kind detail rule position ∧
            ¬ "expected offset after".toList <+:
              detail.toList ∧
            (∀ bars,
              ¬ (TokenKind.offset bars).inWords.toList <:+:
                detail.toList) ∧
            ∀ token ∈ tokens,
              ∀ bars,
                token.kind = .offset bars →
                  token.position ≠ position := by
  have hLexes : Scan.Lexes 0 rule.toList tokens :=
    Scan.lexes_of_tokensFrom hScan
  have hPaired := hLexes.paired
  refine
    ⟨fun _ _ => hPaired.offset_behind,
      fun _ _ => hPaired.price_before, ?_⟩
  intro failure hFailure
  rw [ofTokens_eq_read] at hFailure
  split at hFailure
  · cases hFailure
  · rename_i fault hRead
    cases hFailure
    have hParts := Grammar.read_partsNoPair hPaired hRead
    have hWording :=
      Grammar.Cause.offset_not_infix_message
        hParts.missesNoOffset hParts.found?_ne_offset
    refine ⟨_, _, _, rfl, ?_, ?_, ?_⟩
    · intro hMissed
      have hWord :
          "offset".toList <:+:
            "expected offset after".toList := by
        decide
      exact hWording (hWord.trans hMissed.isInfix)
    · intro bars hNamed
      have hWord :
          "offset".toList <:+:
            (TokenKind.offset bars).inWords.toList := by
        simp only [TokenKind.inWords, String.toList_append]
        exact (List.prefix_append _ _).isInfix
      exact hWording (hWord.trans hNamed)
    · intro token hMem bars hKind
      have hCause : fault.cause ≠ .emptyRule :=
        cause_ne_emptyRule_of_read
          (List.ne_nil_of_mem hMem) hRead
      have hStop :
          ∀ token ∈ tokens,
            token.position <
              Text.byteLength rule.toList := by
        intro token hToken
        simpa using (hLexes.position_bounds hToken).2
      have hApart : (tokens.map Token.position).Nodup :=
        hLexes.pairwise_position_lt.imp Nat.ne_of_lt
      exact hParts.position_ne hCause hStop hApart hMem hKind

/-
  An operator is missing behind an offset, and the price after
  it is blamed.
-/
theorem offsets_never_blamed_missing_operator :
    let rule := "OPEN[1] CLOSE[ 2 ] < LOW[0]"
    let tokens : List Token :=
      [⟨.price .opening, 0⟩, ⟨.offset 1, 4⟩,
        ⟨.price .closing, 8⟩, ⟨.offset 2, 13⟩,
        ⟨.operator (.compare .less), 19⟩,
        ⟨.price .low, 21⟩, ⟨.offset 0, 24⟩]
    let kinds := tokens.map Token.kind
    let detail := "expected comparison operator, found CLOSE"
    scan rule = .ok tokens ∧
      (kinds[2]? = some (.price .closing) ∧
        ∃ bars, kinds[3]? = some (.offset bars)) ∧
      (kinds[6]? = some (.offset 0) ∧
        ∃ before field,
          6 = before + 1 ∧
            kinds[before]? = some (.price field)) ∧
      ofTokens tokens rule =
        .error
          (.grammar .missingComparison detail rule 8) ∧
      ¬ "expected offset after".toList <+: detail.toList ∧
      (∀ bars,
        ¬ (TokenKind.offset bars).inWords.toList <:+:
          detail.toList) ∧
      ∀ token ∈ tokens,
        ∀ bars,
          token.kind = .offset bars →
            token.position ≠ 8 := by
  intro rule tokens kinds detail
  have hScan : scan rule = .ok tokens := by decide +kernel
  have hFailure :
      ofTokens tokens rule =
        .error
          (.grammar .missingComparison detail rule 8) := by
    decide +kernel
  rcases offsets_never_blamed hScan with
    ⟨hPrices, hOffsets, hFailures⟩
  rcases hFailures _ hFailure with
    ⟨kind, wording, position, hFields, hMissed, hNamed,
      hBlamed⟩
  cases hFields
  exact
    ⟨hScan, ⟨rfl, hPrices 2 .closing rfl⟩,
      ⟨rfl, hOffsets 6 0 rfl⟩, hFailure, hMissed, hNamed,
      hBlamed⟩

end Rule

end BarRules
