import BarRules.Proofs.Text.Stretches
import BarRules.Token.Scan
import Mathlib.Data.List.TakeWhile

/-
  The lexical grammar of rules.

  Key definitions include:
    * `BarRules.Token.shift`
    * `BarRules.Scan.keywords`
    * `BarRules.Scan.symbols`
    * `BarRules.Scan.Lexeme`
    * `BarRules.Scan.Lexes`

  Key theorems include:
    * `BarRules.Scan.readNumber_eq_ok_iff`
    * `BarRules.Scan.readOffset_eq_ok_iff`
    * `BarRules.Scan.readLexeme_eq_ok`
    * `BarRules.Scan.readLexeme_of_lexeme`
    * `BarRules.Scan.tokensFrom_eq_ok_iff`
    * `BarRules.scan_eq_ok_iff`

  A rule is a sequence of lexemes with blanks before, between
  and after them.  A lexeme has one or two tokens, whose places
  are counted from its first character.
-/

------------------------------------------------------------
-- Lexemes
------------------------------------------------------------

namespace BarRules

namespace Token

/- A token of text that starts so many bytes later. -/
def shift (bytes : Nat) (token : Token) : Token where
  kind := token.kind
  position := bytes + token.position

end Token

namespace Scan

/-
  A number between brackets, and the blanks before and after
  it.  The number fits into 64 bits, whatever its leading zeros.
-/
structure OffsetText
    (lead digits trail : List Char) :
    Prop where
  lead_blank : ∀ c ∈ lead, Text.isBlank c = true
  nonempty : digits ≠ []
  isDigit : ∀ c ∈ digits, c.isDigit = true
  fits : Text.Decimal.value digits < UInt64.size
  trail_blank : ∀ c ∈ trail, Text.isBlank c = true

/- The words for the prices of a bar. -/
def keywords : List (String × PriceField) :=
  [("OPEN", .opening), ("HIGH", .high), ("LOW", .low),
    ("CLOSE", .closing)]

/- The parentheses and the operators. -/
def symbols : List (String × TokenKind) :=
  [("(", .openParen), (")", .closeParen),
    ("+", .operator (.arith .add)),
    ("-", .operator (.arith .subtract)),
    ("*", .operator (.arith .multiply)),
    ("/", .operator (.arith .divide)),
    ("<", .operator (.compare .less)),
    (">", .operator (.compare .greater)),
    ("<=", .operator (.compare .atMost)),
    (">=", .operator (.compare .atLeast)),
    ("==", .operator (.compare .equal)),
    ("!=", .operator (.compare .unequal))]

/-
  The characters of a lexeme, and its tokens with places that
  are counted from the first of these characters.
-/
inductive Lexeme : List Char → List Token → Prop where
  | price {word : String} {field : PriceField}
      {lead digits trail : List Char}
      (hWord : (word, field) ∈ keywords)
      (hOffset : OffsetText lead digits trail) :
      Lexeme
        (word.toList ++
          '[' :: (lead ++ (digits ++ (trail ++ [']']))))
        [⟨.price field, 0⟩,
          ⟨.offset (UInt64.ofNat (Text.Decimal.value digits)),
            Text.byteLength word.toList⟩]
  | symbol {text : String} {kind : TokenKind}
      (hSymbol : (text, kind) ∈ symbols) :
      Lexeme text.toList [⟨kind, 0⟩]

/-
  A lexeme may stand before some text.  A shorter comparison
  is no lexeme where it could go on with an equals sign.
-/
def EndsBefore (text rest : List Char) : Prop :=
  text = ['<'] ∨ text = ['>'] → rest.head? ≠ some '='

/-
  Text from a byte position on is a sequence of blanks and
  lexemes, with the tokens of the lexemes in order.
-/
inductive Lexes : Nat → List Char → List Token → Prop where
  | done (pos : Nat) : Lexes pos [] []
  | blank {pos : Nat} {c : Char} {cs : List Char}
      {tokens : List Token}
      (hBlank : Text.isBlank c = true)
      (rest : Lexes (pos + c.utf8Size) cs tokens) :
      Lexes pos (c :: cs) tokens
  | lexeme {pos : Nat} {text cs : List Char}
      {found tokens : List Token}
      (hLexeme : Lexeme text found)
      (hEnds : EndsBefore text cs)
      (rest : Lexes (pos + Text.byteLength text) cs tokens) :
      Lexes pos (text ++ cs)
        (found.map (Token.shift pos) ++ tokens)

end Scan

end BarRules

------------------------------------------------------------
-- Keywords and Symbols
------------------------------------------------------------

namespace BarRules

namespace Scan

/- The keywords are those of the price fields. -/
theorem mem_keywords_iff
    (word : String)
    (field : PriceField) :
    (word, field) ∈ keywords ↔ word = field.keyword := by
  cases field <;> simp [keywords, PriceField.keyword]

/- Every operator is a symbol as it is written. -/
theorem operator_mem_symbols (op : Operator) :
    (op.symbol, .operator op) ∈ symbols := by
  cases op with
  | arith op => cases op <;> decide
  | compare op => cases op <;> decide

end Scan

end BarRules

------------------------------------------------------------
-- Bracketed Offsets
------------------------------------------------------------

namespace BarRules

namespace Scan

/- Digits give the word of their value, if it fits. -/
theorem word?_eq_some_iff
    (digits : List Char)
    (bars : UInt64) :
    Text.Decimal.word? digits = some bars ↔
      Text.Decimal.value digits < UInt64.size ∧
        bars = UInt64.ofNat (Text.Decimal.value digits) := by
  unfold Text.Decimal.word?
  by_cases hFits : Text.Decimal.value digits < UInt64.size
  · rw [if_pos hFits, Option.some_inj]
    exact ⟨fun h => ⟨hFits, h.symm⟩, fun h => h.2.symm⟩
  · rw [if_neg hFits]
    constructor
    · intro h
      cases h
    · intro h
      exact absurd h.1 hFits

/- A number is digits, blanks and a closing bracket. -/
theorem readNumber_eq_ok_iff
    (bracket start : Nat)
    (content : List Char)
    (reading : Reading UInt64) :
    readNumber bracket start content = .ok reading ↔
      ∃ digits trail,
        content = digits ++ (trail ++ ']' :: reading.rest) ∧
          OffsetText [] digits trail ∧
          reading.value =
            UInt64.ofNat (Text.Decimal.value digits) ∧
          reading.next =
            start + Text.byteLength digits +
              Text.byteLength trail + 1 := by
  constructor
  · intro h
    unfold readNumber at h
    simp only at h
    split at h
    · cases h
    · rename_i rest hRest
      split at h
      · cases h
      · rename_i hSome
        split at h
        · cases h
        · rename_i bars hBars
          rcases (word?_eq_some_iff ..).mp hBars with
            ⟨hFits, hValue⟩
          cases h
          refine
            ⟨content.takeWhile Char.isDigit,
              (content.dropWhile Char.isDigit).takeWhile
                Text.isBlank, ?_, ?_, hValue, rfl⟩
          · rw [← hRest, List.takeWhile_append_dropWhile,
              List.takeWhile_append_dropWhile]
          · exact
              { lead_blank := by simp
                nonempty := hSome
                isDigit := fun c hMem =>
                  List.mem_takeWhile_imp hMem
                fits := hFits
                trail_blank := fun c hMem =>
                  List.mem_takeWhile_imp hMem }
    · cases h
  · rintro ⟨digits, trail, rfl, hText, hValue, hNext⟩
    have hStop :
        ∀ c, (trail ++ ']' :: reading.rest).head? = some c →
          c.isDigit = false := by
      intro c hHead
      rcases Text.mem_or_eq_of_head? hHead with hMem | rfl
      · exact Text.isDigit_eq_false_of_isBlank
          (hText.trail_blank c hMem)
      · decide
    have hClose :
        ∀ c, (']' :: reading.rest).head? = some c →
          Text.isBlank c = false := by
      intro c hHead
      cases hHead
      decide
    have hWord :=
      (word?_eq_some_iff digits reading.value).mpr
        ⟨hText.fits, hValue⟩
    unfold readNumber
    simp only [
      Text.takeWhile_append_of_stop hText.isDigit hStop,
      Text.dropWhile_append_of_stop hText.isDigit hStop,
      Text.takeWhile_append_of_stop hText.trail_blank hClose,
      Text.dropWhile_append_of_stop hText.trail_blank hClose,
      hText.nonempty, if_false, hWord, ← hNext]

/- An offset is blanks, a number and a closing bracket. -/
theorem readOffset_eq_ok_iff
    (bracket : Nat)
    (cs : List Char)
    (reading : Reading UInt64) :
    readOffset bracket cs = .ok reading ↔
      ∃ lead digits trail,
        cs =
            lead ++
              (digits ++ (trail ++ ']' :: reading.rest)) ∧
          OffsetText lead digits trail ∧
          reading.value =
            UInt64.ofNat (Text.Decimal.value digits) ∧
          reading.next =
            bracket + 1 + Text.byteLength lead +
              Text.byteLength digits +
              Text.byteLength trail + 1 := by
  constructor
  · intro h
    unfold readOffset at h
    simp only at h
    split at h
    · cases h
    · rcases (readNumber_eq_ok_iff ..).mp h with
        ⟨digits, trail, hContent, hText, hValue, hNext⟩
      refine
        ⟨cs.takeWhile Text.isBlank, digits, trail, ?_, ?_,
          hValue, hNext⟩
      · rw [← hContent, List.takeWhile_append_dropWhile]
      · exact
          { hText with
            lead_blank := fun c hMem =>
              List.mem_takeWhile_imp hMem }
  · rintro ⟨lead, digits, trail, rfl, hText, hValue, hNext⟩
    rcases List.exists_cons_of_ne_nil hText.nonempty with
      ⟨first, others, hFirst⟩
    have hDigit : first.isDigit = true :=
      hText.isDigit first (by simp [hFirst])
    have hStop :
        ∀ c,
          (digits ++
              (trail ++ ']' :: reading.rest)).head? =
            some c →
          Text.isBlank c = false := by
      intro c hHead
      rw [hFirst] at hHead
      cases hHead
      exact Text.isBlank_eq_false_of_isDigit hDigit
    have hMinus :
        (digits ++
            (trail ++ ']' :: reading.rest)).head? ≠
          some '-' := by
      intro hHead
      rw [hFirst] at hHead
      cases hHead
      cases hDigit
    unfold readOffset
    simp only [
      Text.takeWhile_append_of_stop hText.lead_blank hStop,
      Text.dropWhile_append_of_stop hText.lead_blank hStop,
      hMinus, if_false]
    exact (readNumber_eq_ok_iff ..).mpr
      ⟨digits, trail, rfl,
        { hText with lead_blank := by simp }, hValue, hNext⟩

end Scan

end BarRules

------------------------------------------------------------
-- Single Lexemes
------------------------------------------------------------

namespace BarRules

namespace Scan

/-
  What is read is a lexeme in front of the rest.  It ends where
  the rest begins, and its tokens are at their byte positions.
-/
def Reading.IsLexeme
    (pos : Nat)
    (cs : List Char)
    (reading : Reading (List Token)) :
    Prop :=
  ∃ text found,
    cs = text ++ reading.rest ∧
      Lexeme text found ∧
      EndsBefore text reading.rest ∧
      reading.value = found.map (Token.shift pos) ∧
      reading.next = pos + Text.byteLength text

/- A field is found by its keyword only. -/
theorem ofKeyword?_eq_some_iff
    (word : String)
    (field : PriceField) :
    PriceField.ofKeyword? word = some field ↔
      word = field.keyword := by
  constructor
  · intro h
    have hKeyword := List.find?_some h
    simpa using (beq_iff_eq.mp hKeyword).symm
  · rintro rfl
    exact PriceField.ofKeyword?_keyword field

/- Keywords are words. -/
theorem isWordChar_of_mem_keyword
    (field : PriceField) :
    ∀ c ∈ field.keyword.toList, isWordChar c = true := by
  have hAll : field.keyword.toList.all isWordChar = true := by
    cases field <;> decide
  exact List.all_eq_true.mp hAll

/- The bytes of a price lexeme, part by part. -/
theorem byteLength_price
    (field : PriceField)
    (lead digits trail : List Char) :
    Text.byteLength
        (field.keyword.toList ++
          '[' :: (lead ++ (digits ++ (trail ++ [']'])))) =
      Text.byteLength field.keyword.toList + 1 +
        Text.byteLength lead + Text.byteLength digits +
        Text.byteLength trail + 1 := by
  simp only [Text.byteLength_append, Text.byteLength]
  have hOpen : '['.utf8Size = 1 := by decide
  have hClose : ']'.utf8Size = 1 := by decide
  omega

/- A price may stand before any text. -/
theorem endsBefore_price
    (field : PriceField)
    (content rest : List Char) :
    EndsBefore (field.keyword.toList ++ '[' :: content)
      rest := by
  intro hLess
  cases field <;> simp [PriceField.keyword] at hLess

/- What is read as a price is a price lexeme. -/
theorem readPrice_eq_ok
    {pos : Nat}
    {cs : List Char}
    {reading : Reading (List Token)}
    (h : readPrice pos cs = .ok reading) :
    reading.IsLexeme pos cs := by
  unfold readPrice at h
  simp only at h
  split at h
  · cases h
  · rename_i field hField
    have hWord :
        cs.takeWhile isWordChar = field.keyword.toList := by
      rw [← (ofKeyword?_eq_some_iff ..).mp hField,
        String.toList_ofList]
    have hKeyword :=
      (mem_keywords_iff field.keyword field).mpr rfl
    split at h
    · rename_i content hContent
      split at h
      · cases h
      · rename_i offset hOffset
        rcases (readOffset_eq_ok_iff ..).mp hOffset with
          ⟨lead, digits, trail, rfl, hText, hValue, hNext⟩
        cases h
        refine
          ⟨_, _, ?_, Lexeme.price hKeyword hText,
            endsBefore_price _ _ _, ?_, ?_⟩
        · rw [← List.takeWhile_append_dropWhile
            (p := isWordChar) (l := cs), hWord, hContent]
          simp
        · simp [Token.shift, hWord, hValue]
        · rw [byteLength_price]
          simp only [hNext, hWord]
          omega
    · cases h

/- A price lexeme is read as a price. -/
theorem readPrice_of_text
    (pos : Nat)
    (field : PriceField)
    {lead digits trail : List Char}
    (hText : OffsetText lead digits trail)
    (rest : List Char) :
    readPrice pos
        (field.keyword.toList ++
          '[' ::
            (lead ++ (digits ++ (trail ++ ']' :: rest)))) =
      .ok
        ⟨[⟨.price field, pos⟩,
            ⟨.offset
                (UInt64.ofNat (Text.Decimal.value digits)),
              pos + Text.byteLength field.keyword.toList⟩],
          rest,
          pos +
            Text.byteLength
              (field.keyword.toList ++
                '[' ::
                  (lead ++ (digits ++ (trail ++ [']']))))⟩ := by
  have hStop :
      ∀ c,
        ('[' ::
            (lead ++
              (digits ++ (trail ++ ']' :: rest)))).head? =
          some c →
        isWordChar c = false := by
    intro c hHead
    cases hHead
    decide
  have hField :=
    (ofKeyword?_eq_some_iff field.keyword field).mpr rfl
  have hOffset :=
    (readOffset_eq_ok_iff
      (pos + Text.byteLength field.keyword.toList)
      (lead ++ (digits ++ (trail ++ ']' :: rest)))
      ⟨UInt64.ofNat (Text.Decimal.value digits), rest,
        pos + Text.byteLength field.keyword.toList + 1 +
          Text.byteLength lead + Text.byteLength digits +
          Text.byteLength trail + 1⟩).mpr
      ⟨lead, digits, trail, rfl, hText, rfl, rfl⟩
  have hWord := isWordChar_of_mem_keyword field
  unfold readPrice
  simp only [Text.takeWhile_append_of_stop hWord hStop,
    Text.dropWhile_append_of_stop hWord hStop,
    String.ofList_toList, hField, hOffset, byteLength_price]
  simp only [Nat.add_assoc]

/- Other symbols may stand before any text. -/
theorem endsBefore_of_not_mem
    {text : String}
    (h : text ∉ ["<", ">"])
    (rest : List Char) :
    EndsBefore text.toList rest := by
  rintro (hLess | hGreater)
  · have hText : text = "<" := String.toList_inj.mp hLess
    simp [hText] at h
  · have hText : text = ">" := String.toList_inj.mp hGreater
    simp [hText] at h

/- What is found at the start of a text is a symbol. -/
theorem symbol?_eq_some
    {c : Char}
    {cs rest : List Char}
    {kind : TokenKind}
    {size : Nat}
    (h : symbol? c cs = some (kind, rest, size)) :
    ∃ text : String,
      c :: cs = text.toList ++ rest ∧
        (text, kind) ∈ symbols ∧
        EndsBefore text.toList rest ∧
        size = Text.byteLength text.toList := by
  have hAlone :
      (∀ rest, cs = '=' :: rest → False) →
        cs.head? ≠ some '=' := by
    intro hNext hHead
    rcases List.head?_eq_some_iff.mp hHead with ⟨rest, hRest⟩
    exact hNext rest hRest
  unfold symbol? at h
  split at h <;> cases h
  case h_1 =>
    exact ⟨"(", rfl, by decide,
      endsBefore_of_not_mem (by decide) _, by decide⟩
  case h_2 =>
    exact ⟨")", rfl, by decide,
      endsBefore_of_not_mem (by decide) _, by decide⟩
  case h_3 =>
    exact ⟨"+", rfl, by decide,
      endsBefore_of_not_mem (by decide) _, by decide⟩
  case h_4 =>
    exact ⟨"-", rfl, by decide,
      endsBefore_of_not_mem (by decide) _, by decide⟩
  case h_5 =>
    exact ⟨"*", rfl, by decide,
      endsBefore_of_not_mem (by decide) _, by decide⟩
  case h_6 =>
    exact ⟨"/", rfl, by decide,
      endsBefore_of_not_mem (by decide) _, by decide⟩
  case h_7 =>
    exact ⟨"<=", rfl, by decide,
      endsBefore_of_not_mem (by decide) _, by decide⟩
  case h_8 hNext =>
    exact ⟨"<", rfl, by decide, fun _ => hAlone hNext,
      by decide⟩
  case h_9 =>
    exact ⟨">=", rfl, by decide,
      endsBefore_of_not_mem (by decide) _, by decide⟩
  case h_10 hNext =>
    exact ⟨">", rfl, by decide, fun _ => hAlone hNext,
      by decide⟩
  case h_11 =>
    exact ⟨"==", rfl, by decide,
      endsBefore_of_not_mem (by decide) _, by decide⟩
  case h_12 =>
    exact ⟨"!=", rfl, by decide,
      endsBefore_of_not_mem (by decide) _, by decide⟩

/- A lexeme that is read stands in front of the rest. -/
theorem readLexeme_eq_ok
    {pos : Nat}
    {c : Char}
    {cs : List Char}
    {reading : Reading (List Token)}
    (h : readLexeme pos c cs = .ok reading) :
    reading.IsLexeme pos (c :: cs) := by
  unfold readLexeme at h
  split at h
  · exact readPrice_eq_ok h
  · unfold readSymbol at h
    split at h
    · cases h
    · rename_i kind rest size hSymbol
      rcases symbol?_eq_some hSymbol with
        ⟨text, hText, hMem, hEnds, hSize⟩
      cases h
      exact ⟨text.toList, _, hText, Lexeme.symbol hMem, hEnds,
        by simp [Token.shift], by rw [hSize]⟩

/- A comparison that cannot go on is taken as it is. -/
theorem symbol?_of_head?_ne
    {cs : List Char}
    (h : cs.head? ≠ some '=') :
    symbol? '<' cs =
        some (.operator (.compare .less), cs, 1) ∧
      symbol? '>' cs =
        some (.operator (.compare .greater), cs, 1) := by
  cases cs with
  | nil => exact ⟨rfl, rfl⟩
  | cons c cs =>
      have hNe : c ≠ '=' := by simpa using h
      simp [symbol?, hNe]

/- A symbol is found where it may end. -/
theorem symbol?_of_mem
    {text : String}
    {kind : TokenKind}
    (hMem : (text, kind) ∈ symbols)
    {rest : List Char}
    (hEnds : EndsBefore text.toList rest) :
    ∃ c cs,
      text.toList ++ rest = c :: cs ∧
        Text.isBlank c = false ∧
        startsWord c = false ∧
        symbol? c cs =
          some
            (kind, rest, Text.byteLength text.toList) := by
  simp only [symbols, List.mem_cons, Prod.mk.injEq,
    List.not_mem_nil, or_false] at hMem
  rcases hMem with
    ⟨rfl, rfl⟩ | ⟨rfl, rfl⟩ | ⟨rfl, rfl⟩ | ⟨rfl, rfl⟩ |
      ⟨rfl, rfl⟩ | ⟨rfl, rfl⟩ | ⟨rfl, rfl⟩ | ⟨rfl, rfl⟩ |
      ⟨rfl, rfl⟩ | ⟨rfl, rfl⟩ | ⟨rfl, rfl⟩ | ⟨rfl, rfl⟩
  -- What follows matters behind the shorter comparisons only.
  all_goals try exact ⟨_, _, rfl, by decide, by decide, rfl⟩
  · exact ⟨'<', rest, rfl, by decide, by decide,
      (symbol?_of_head?_ne (hEnds (Or.inl rfl))).1⟩
  · exact ⟨'>', rest, rfl, by decide, by decide,
      (symbol?_of_head?_ne (hEnds (Or.inr rfl))).2⟩

/- A symbol is read as its one token. -/
theorem readLexeme_of_symbol
    {pos : Nat}
    {c : Char}
    {cs rest : List Char}
    {kind : TokenKind}
    {size : Nat}
    (hStarts : startsWord c = false)
    (hSymbol : symbol? c cs = some (kind, rest, size)) :
    readLexeme pos c cs =
      .ok ⟨[⟨kind, pos⟩], rest, pos + size⟩ := by
  simp [readLexeme, readSymbol, hStarts, hSymbol]

/-
  A lexeme is read where it stands in front of text that it
  may end before.
-/
theorem readLexeme_of_lexeme
    (pos : Nat)
    {text : List Char}
    {found : List Token}
    {rest : List Char}
    (hLexeme : Lexeme text found)
    (hEnds : EndsBefore text rest) :
    ∃ c cs,
      text ++ rest = c :: cs ∧
        Text.isBlank c = false ∧
        readLexeme pos c cs =
          .ok
            ⟨found.map (Token.shift pos), rest,
              pos + Text.byteLength text⟩ := by
  cases hLexeme with
  | @price word field lead digits trail hWord hText =>
      have hPrice := readPrice_of_text pos field hText rest
      rw [(mem_keywords_iff ..).mp hWord]
      have hFirst :
          ∃ c cs,
            field.keyword.toList = c :: cs ∧
              Text.isBlank c = false ∧
              startsWord c = true := by
        cases field <;> exact ⟨_, _, rfl, by decide⟩
      rcases hFirst with ⟨c, cs, hWord, hBlank, hStarts⟩
      rw [hWord] at hPrice ⊢
      refine ⟨c, _, rfl, hBlank, ?_⟩
      simp only [readLexeme, hStarts, if_true]
      simpa [Token.shift] using hPrice
  | symbol hMem =>
      rcases symbol?_of_mem hMem hEnds with
        ⟨c, cs, hText, hBlank, hStarts, hSymbol⟩
      exact ⟨c, cs, hText, hBlank,
        readLexeme_of_symbol hStarts hSymbol⟩

end Scan

end BarRules

------------------------------------------------------------
-- Whole Texts
------------------------------------------------------------

namespace BarRules

namespace Scan

/- Blanks in front are passed over. -/
theorem tokensFrom_blank
    {pos : Nat}
    {c : Char}
    {cs : List Char}
    (hBlank : Text.isBlank c = true) :
    tokensFrom pos (c :: cs) =
      tokensFrom (pos + c.utf8Size) cs := by
  rw [tokensFrom, if_pos hBlank]

/- The tokens of a lexeme stand before those of the rest. -/
theorem tokensFrom_lexeme
    {pos : Nat}
    {c : Char}
    {cs : List Char}
    {reading : Reading (List Token)}
    {tokens : List Token}
    (hBlank : Text.isBlank c = false)
    (hRead : readLexeme pos c cs = .ok reading)
    (hRest :
      tokensFrom reading.next reading.rest = .ok tokens) :
    tokensFrom pos (c :: cs) =
      .ok (reading.value ++ tokens) := by
  rw [tokensFrom, if_neg (by simp [hBlank])]
  split
  · rename_i fault hFault
    rw [hRead] at hFault
    cases hFault
  · rename_i other hOther
    rw [hRead] at hOther
    cases hOther
    rw [hRest]

/- Text that is scanned falls into blanks and lexemes. -/
theorem lexes_of_tokensFrom
    {pos : Nat}
    {cs : List Char}
    {tokens : List Token}
    (h : tokensFrom pos cs = .ok tokens) :
    Lexes pos cs tokens := by
  fun_induction tokensFrom pos cs generalizing tokens with
  | case1 pos =>
      cases h
      exact Lexes.done pos
  | case2 pos c rest hBlank ih =>
      exact Lexes.blank hBlank (ih h)
  | case3 pos c rest hBlank fault hFault =>
      cases h
  | case4 pos c rest hBlank reading hRead hShorter fault
      hFault ih =>
      cases h
  | case5 pos c rest hBlank reading hRead hShorter found
      hFound ih =>
      cases h
      rcases readLexeme_eq_ok hRead with
        ⟨text, lexemeTokens, hText, hLexeme, hEnds, hValue,
          hNext⟩
      have hRest := ih hFound
      rw [hNext] at hRest
      rw [hText, hValue]
      exact Lexes.lexeme hLexeme hEnds hRest

/- Blanks and lexemes are scanned into their tokens. -/
theorem tokensFrom_of_lexes
    {pos : Nat}
    {cs : List Char}
    {tokens : List Token}
    (h : Lexes pos cs tokens) :
    tokensFrom pos cs = .ok tokens := by
  induction h with
  | done pos => rw [tokensFrom]
  | blank hBlank rest ih =>
      rw [tokensFrom_blank hBlank]
      exact ih
  | @lexeme pos text cs found tokens hLexeme hEnds rest ih =>
      rcases readLexeme_of_lexeme pos hLexeme hEnds with
        ⟨c, others, hText, hBlank, hRead⟩
      rw [hText]
      exact tokensFrom_lexeme hBlank hRead ih

/- Scanning accepts what the lexical grammar accepts. -/
theorem tokensFrom_eq_ok_iff
    (pos : Nat)
    (cs : List Char)
    (tokens : List Token) :
    tokensFrom pos cs = .ok tokens ↔ Lexes pos cs tokens :=
  ⟨lexes_of_tokensFrom, tokensFrom_of_lexes⟩

end Scan

/-
  A rule is scanned into tokens if and only if it is a sequence
  of lexemes with any blanks before, between and after them,
  and the tokens are those of the lexemes at their bytes.
-/
theorem scan_eq_ok_iff
    (rule : String)
    (tokens : List Token) :
    scan rule = .ok tokens ↔
      Scan.Lexes 0 rule.toList tokens :=
  Scan.tokensFrom_eq_ok_iff 0 rule.toList tokens

end BarRules
