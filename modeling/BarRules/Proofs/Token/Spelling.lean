import BarRules.Proofs.Token.Lexemes

/-
  Text that spells tokens wherever it stands.

  Key definitions include:
    * `BarRules.Scan.Spells`

  Key theorems include:
    * `BarRules.Scan.Spells.append`
    * `BarRules.Scan.Spells.scan_eq`
    * `BarRules.Scan.spells_price`
    * `BarRules.Scan.spells_operator`

  Text spells token kinds if it falls into lexemes of these
  kinds whatever text follows, so spellings can be put together
  piece by piece.
-/

------------------------------------------------------------
-- Spelled Kinds
------------------------------------------------------------

namespace BarRules

namespace Scan

/-
  The text falls into lexemes of these kinds, at any place and
  in front of any text that falls into lexemes itself.
-/
def Spells
    (text : List Char)
    (kinds : List TokenKind) :
    Prop :=
  ∀ pos rest tail,
    Lexes (pos + Text.byteLength text) rest tail →
      ∃ tokens,
        Lexes pos (text ++ rest) (tokens ++ tail) ∧
          tokens.map Token.kind = kinds

/- Spellings can be put together. -/
theorem Spells.append
    {front back : List Char}
    {kinds others : List TokenKind}
    (hFront : Spells front kinds)
    (hBack : Spells back others) :
    Spells (front ++ back) (kinds ++ others) := by
  intro pos rest tail hRest
  rw [Text.byteLength_append, ← Nat.add_assoc] at hRest
  rcases hBack _ rest tail hRest with
    ⟨backTokens, hBackLexes, hBackKinds⟩
  rcases hFront pos _ _ hBackLexes with
    ⟨frontTokens, hFrontLexes, hFrontKinds⟩
  refine ⟨frontTokens ++ backTokens, ?_, ?_⟩
  · rw [List.append_assoc, List.append_assoc]
    exact hFrontLexes
  · rw [List.map_append, hFrontKinds, hBackKinds]

/- Blanks spell nothing. -/
theorem spells_blank
    {c : Char}
    (hBlank : Text.isBlank c = true) :
    Spells [c] [] := by
  intro pos rest tail hRest
  exact ⟨[], Lexes.blank hBlank hRest, rfl⟩

/- A lexeme that nothing can prolong spells its tokens. -/
theorem spells_lexeme
    {text : List Char}
    {found : List Token}
    (hLexeme : Lexeme text found)
    (hEnds : ∀ rest, EndsBefore text rest) :
    Spells text (found.map Token.kind) := by
  intro pos rest tail hRest
  refine
    ⟨found.map (Token.shift pos),
      Lexes.lexeme hLexeme (hEnds rest) hRest, ?_⟩
  simp [Token.shift]

/- A whole text that spells kinds is scanned into them. -/
theorem Spells.scan_eq
    {rule : String}
    {kinds : List TokenKind}
    (h : Spells rule.toList kinds) :
    ∃ tokens,
      scan rule = .ok tokens ∧
        tokens.map Token.kind = kinds := by
  rcases h 0 [] [] (Lexes.done _) with
    ⟨tokens, hLexes, hKinds⟩
  rw [List.append_nil, List.append_nil] at hLexes
  exact ⟨tokens, tokensFrom_of_lexes hLexes, hKinds⟩

end Scan

end BarRules

------------------------------------------------------------
-- Parentheses, Operators and Prices
------------------------------------------------------------

namespace BarRules

namespace Scan

/- A symbol that is no shorter comparison spells itself. -/
theorem spells_symbol
    {text : String}
    {kind : TokenKind}
    (hMem : (text, kind) ∈ symbols)
    (hText : text ∉ ["<", ">"]) :
    Spells text.toList [kind] :=
  spells_lexeme (Lexeme.symbol hMem)
    (endsBefore_of_not_mem hText)

/- An opening parenthesis spells itself. -/
theorem spells_openParen : Spells ['('] [.openParen] :=
  spells_symbol
    (show ("(", .openParen) ∈ symbols by decide) (by decide)

/- A closing parenthesis spells itself. -/
theorem spells_closeParen : Spells [')'] [.closeParen] :=
  spells_symbol
    (show (")", .closeParen) ∈ symbols by decide) (by decide)

/- An operator with a blank behind it spells itself. -/
theorem spells_operator (op : Operator) :
    Spells (op.symbol.toList ++ [' ']) [.operator op] := by
  intro pos rest tail hRest
  have hBlank : Text.isBlank ' ' = true := by decide
  have hEnds :
      EndsBefore op.symbol.toList (' ' :: rest) := by
    simp [EndsBefore]
  rw [Text.byteLength_append, ← Nat.add_assoc] at hRest
  refine ⟨[⟨.operator op, pos⟩], ?_, rfl⟩
  rw [List.append_assoc]
  exact Lexes.lexeme
    (Lexeme.symbol (operator_mem_symbols op)) hEnds
    (Lexes.blank hBlank hRest)

/- A number is written as digits that stand for it. -/
theorem offsetText_text (bars : UInt64) :
    OffsetText [] (Nat.toDigits 10 bars.toNat) [] where
  lead_blank := by simp
  nonempty := Nat.toDigits_ne_nil
  isDigit := fun c hMem =>
    Nat.isDigit_of_mem_toDigits (by decide) (by decide) hMem
  fits := by
    unfold Text.Decimal.value
    rw [Nat.ofDigitChars_ten_toDigits]
    exact bars.toNat_lt
  trail_blank := by simp

/- A bar price spells its keyword and its offset. -/
theorem spells_price (price : BarPrice) :
    Spells price.text.toList
      [.price price.field, .offset price.offset] := by
  have hKeyword :=
    (mem_keywords_iff price.field.keyword price.field).mpr rfl
  have hLexeme :=
    Lexeme.price hKeyword (offsetText_text price.offset)
  have hValue :
      UInt64.ofNat
          (Text.Decimal.value
            (Nat.toDigits 10 price.offset.toNat)) =
        price.offset := by
    unfold Text.Decimal.value
    rw [Nat.ofDigitChars_ten_toDigits, UInt64.ofNat_toNat]
  have hSpells :=
    spells_lexeme hLexeme (endsBefore_price _ _)
  rw [hValue] at hSpells
  simpa [BarPrice.text, Text.Decimal.text] using hSpells

end Scan

end BarRules
