import BarRules.Proofs.Target.Characters
import BarRules.Proofs.Text.Replacing

/-
  Platforms whose text is the canonical text spelled anew.

  Key definitions include:
    * `BarRules.BarPrice.indexed`
    * `BarRules.Target.respelled`
    * `BarRules.Target.respellKeyword`

  Key theorems include:
    * `BarRules.Expr.render_related`
    * `BarRules.Expr.becomes_render`
    * `BarRules.Target.foldl_respellKeyword`
    * `BarRules.Target.lowercase_canonical`
    * `BarRules.Target.becomes_spell_pine`
    * `BarRules.Expr.emit_respells_canonical`

  Emission goes through a tree, while replacement goes through
  a text from left to right.  They agree since no keyword and
  no offset is found across the parts that a text is made of,
  in another keyword, or in a longer offset.
-/

------------------------------------------------------------
-- Texts Changed Character by Character
------------------------------------------------------------

namespace BarRules

namespace Text

variable {f : Char → Char}

/- Parts of a text are changed one by one. -/
theorem map_append (front back : String) :
    (front ++ back).map f = front.map f ++ back.map f := by
  apply String.toList_injective
  simp

/- A text of characters that are kept is kept. -/
theorem map_eq_self
    {text : String}
    (h : MadeOf (fun c => f c = c) text) :
    text.map f = text := by
  apply String.toList_injective
  rw [String.toList_map]
  exact (List.map_congr_left h).trans (List.map_id _)

end Text

end BarRules

------------------------------------------------------------
-- Trees of Related Spellings
------------------------------------------------------------

namespace BarRules

namespace Expr

open Text

/-
  Texts of one tree are related if the spellings of its prices
  are, and what is around these is related to itself.
-/
theorem render_related
    {R : String → String → Prop}
    (hAppend :
      ∀ {front frontResult back backResult},
        R front frontResult →
          R back backResult →
          R (front ++ back) (frontResult ++ backResult))
    (hLayout :
      ∀ text, MadeOf (· ∈ layout.toList) text → R text text)
    {spell result : BarPrice → String}
    (hSpell : ∀ price, R (spell price) (result price))
    (e : Expr) :
    R (e.render spell) (e.render result) := by
  have hEnclose (operand : Expr) {text other : String}
      (hText : R text other) :
      R (operand.enclose text) (operand.enclose other) := by
    cases operand with
    | barPrice price => exact hText
    | binary op left right =>
        have hOpen : R "(" "(" := hLayout _ (by decide)
        have hClose : R ")" ")" := hLayout _ (by decide)
        exact hAppend (hAppend hOpen hText) hClose
  induction e with
  | barPrice price => exact hSpell price
  | binary op left right ihLeft ihRight =>
      have hBlank : R " " " " := hLayout _ (by decide)
      have hSymbol : R op.symbol op.symbol :=
        hLayout _ (madeOf_symbol op)
      have hOperator :=
        hAppend
          (hAppend (hAppend (hEnclose left ihLeft) hBlank)
            hSymbol)
          hBlank
      exact hAppend hOperator (hEnclose right ihRight)

/-
  Replacement in the text of a tree replaces the spellings of
  its prices, if the old text starts with no character of the
  layout.
-/
theorem becomes_render
    {old new : String}
    {first : Char}
    {others : List Char}
    (hOld : old.toList = first :: others)
    (hLayout : first ∉ layout.toList)
    {spell result : BarPrice → String}
    (hSpell :
      ∀ price, Becomes old new (spell price) (result price))
    (e : Expr) :
    Becomes old new (e.render spell) (e.render result) := by
  refine render_related (R := Becomes old new)
    Becomes.append ?_ hSpell e
  intro text hText
  apply Outside.becomes
  rw [hOld]
  apply outside_of_not_mem
  exact fun hMem => hLayout (hText first hMem)

/-
  A change of each character that keeps the layout changes the
  spellings of the prices only.
-/
theorem map_render
    {f : Char → Char}
    (hLayout : ∀ c ∈ layout.toList, f c = c)
    (spell : BarPrice → String)
    (e : Expr) :
    (e.render spell).map f =
      e.render (fun price => (spell price).map f) := by
  apply render_related (R := fun text other => text.map f = other)
  · intro front frontResult back backResult hFront hBack
    rw [map_append, hFront, hBack]
  · intro text hText
    exact map_eq_self (hText.mono hLayout)
  · exact fun price => rfl

end Expr

end BarRules

------------------------------------------------------------
-- Indexed Prices
------------------------------------------------------------

namespace BarRules

namespace BarPrice

/- A price with its offset in brackets behind a word. -/
def indexed
    (word : PriceField → String)
    (price : BarPrice) :
    String :=
  word price.field ++
    ("[" ++ Text.Decimal.text price.offset.toNat ++ "]")

/- Rules write prices in this way. -/
theorem text_eq_indexed :
    text = indexed PriceField.keyword := by
  funext price
  simp only [text, indexed, String.append_assoc]

end BarPrice

namespace Target

open Text

/- What is in the brackets of a price, and the brackets. -/
theorem madeOf_index
    {allowed : Char → Prop}
    (hOpen : allowed '[')
    (hClose : allowed ']')
    (hDigit : ∀ c, c.isDigit = true → allowed c)
    (n : Nat) :
    MadeOf allowed ("[" ++ Decimal.text n ++ "]") := by
  simp only [madeOf_append]
  refine ⟨⟨?_, (madeOf_decimal n).mono hDigit⟩, ?_⟩
  · intro c hC
    have hEq : c = '[' := by simpa using hC
    rwa [hEq]
  · intro c hC
    have hEq : c = ']' := by simpa using hC
    rwa [hEq]

end Target

end BarRules

------------------------------------------------------------
-- Keywords in MetaTrader 4
------------------------------------------------------------

namespace BarRules

namespace Target

open Text

/-
  The word for a field after some keywords have been replaced
  by the words of MetaTrader 4.
-/
def respelled
    (done : List PriceField)
    (field : PriceField) :
    String :=
  if field ∈ done then
    Platform.mql4.priceWord field
  else
    field.keyword

/- A text with one keyword replaced. -/
def respellKeyword (text : String) (field : PriceField) : String :=
  replaced field.keyword (Platform.mql4.priceWord field) text

/- In the end every field has the word of MetaTrader 4. -/
theorem respelled_all :
    respelled (PriceField.all.reverse ++ []) =
      Platform.mql4.priceWord := by
  funext field
  rw [respelled, if_pos]
  simp [PriceField.mem_all]

/- Keywords start as names do. -/
theorem exists_keyword_eq_cons (field : PriceField) :
    ∃ first others,
      field.keyword.toList = first :: others ∧
        startsName first = true := by
  cases field <;> exact ⟨_, _, rfl, by decide⟩

/- No keyword is found in the word of another field. -/
theorem outside_keyword
    {field other : PriceField}
    (h : field ≠ other) :
    Outside field.keyword.toList other.keyword.toList := by
  cases field <;> cases other
  case opening.opening | high.high | low.low | closing.closing =>
    exact absurd rfl h
  all_goals decide

/- Nor is one found in a word of MetaTrader 4. -/
theorem outside_priceWord (field other : PriceField) :
    Outside field.keyword.toList
      (Platform.mql4.priceWord other).toList := by
  cases field <;> cases other <;> decide

/- MetaTrader 4 writes prices with its words. -/
theorem spell_mql4 (names : TargetNames) :
    Platform.mql4.spell names =
      BarPrice.indexed Platform.mql4.priceWord := by
  funext price
  simp only [Platform.spell, Platform.referenceStyle,
    BarPrice.indexed, String.append_assoc]

/- Replacing one more keyword changes the word of its field. -/
theorem becomes_respelled
    (next : PriceField)
    (done : List PriceField)
    (field : PriceField) :
    Becomes next.keyword (Platform.mql4.priceWord next)
      (respelled done field)
      (respelled (next :: done) field) := by
  by_cases hDone : field ∈ done
  · rw [respelled, if_pos hDone, respelled,
      if_pos (List.mem_cons_of_mem next hDone)]
    exact (outside_priceWord next field).becomes
  · by_cases hNext : field = next
    · subst hNext
      rw [respelled, if_neg hDone, respelled,
        if_pos List.mem_cons_self]
      apply becomes_self
      cases field <;> decide
    · have hStill : field ∉ next :: done := by
        simp [hNext, hDone]
      rw [respelled, if_neg hDone, respelled, if_neg hStill]
      exact (outside_keyword (Ne.symm hNext)).becomes

/- So it does in the text of a tree. -/
theorem respellKeyword_render
    (next : PriceField)
    (done : List PriceField)
    (e : Expr) :
    respellKeyword
        (e.render (BarPrice.indexed (respelled done))) next =
      e.render
        (BarPrice.indexed (respelled (next :: done))) := by
  rcases exists_keyword_eq_cons next with
    ⟨first, others, hKeyword, hStarts⟩
  have hOutside {text : String}
      (hText : MadeOf (fun c => startsName c = false) text) :
      first ∉ text.toList := by
    intro hMem
    rw [hText first hMem] at hStarts
    cases hStarts
  apply Becomes.replaced_eq
  apply Expr.becomes_render hKeyword (hOutside (by decide))
  intro price
  apply (becomes_respelled next done price.field).append
  apply Outside.becomes
  rw [hKeyword]
  apply outside_of_not_mem
  intro hMem
  refine hOutside (madeOf_index ?_ ?_ ?_ _) hMem
  · decide
  · decide
  intro c hDigit
  rw [Bool.eq_false_iff]
  intro hName
  rw [isDigit_eq_false_of_startsName hName] at hDigit
  cases hDigit

/- Keywords are replaced one after another. -/
theorem foldl_respellKeyword
    (fields done : List PriceField)
    (e : Expr) :
    fields.foldl respellKeyword
        (e.render (BarPrice.indexed (respelled done))) =
      e.render
        (BarPrice.indexed
          (respelled (fields.reverse ++ done))) := by
  induction fields generalizing done with
  | nil => rfl
  | cons field fields ih =>
      rw [List.foldl_cons, respellKeyword_render, ih,
        List.reverse_cons, List.append_assoc]
      rfl

end Target

end BarRules

------------------------------------------------------------
-- Lower Case in Pine Script
------------------------------------------------------------

namespace BarRules

namespace Target

open Text

/- Digits are the same in lower case. -/
theorem lowerChar_of_isDigit
    {c : Char}
    (h : c.isDigit = true) :
    lowerChar c = c := by
  rw [Char.isDigit_iff_toNat] at h
  simp only [Char.reduceToNat] at h
  exact lowerChar_eq_self_of_lt (by omega)

/- In lower case, keywords are the words of Pine Script. -/
theorem map_lowerChar_keyword (field : PriceField) :
    field.keyword.map lowerChar =
      Platform.pine.priceWord field := by
  cases field <;> decide +kernel

/- A price in lower case has its word in lower case. -/
theorem map_lowerChar_indexed
    (word : PriceField → String)
    (price : BarPrice) :
    (price.indexed word).map lowerChar =
      price.indexed (fun field => (word field).map lowerChar) := by
  have hIndex :
      MadeOf (fun c => lowerChar c = c)
        ("[" ++ Decimal.text price.offset.toNat ++ "]") :=
    madeOf_index (by decide +kernel) (by decide +kernel)
      (fun _ => lowerChar_of_isDigit) _
  rw [BarPrice.indexed, map_append, map_eq_self hIndex,
    BarPrice.indexed]

/- In lower case, rules name prices as Pine Script does. -/
theorem lowercase_canonical (e : Expr) :
    lowercase e.canonical =
      e.render
        (BarPrice.indexed Platform.pine.priceWord) := by
  have hCanonical :
      MadeOf (fun c => c ≠ '\u0130' ∧ c ≠ '\u03A3')
        (e.render (BarPrice.indexed PriceField.keyword)) := by
    refine Expr.madeOf_render ?_ ?_ e
    · decide
    intro price
    rw [BarPrice.indexed, madeOf_append]
    constructor
    · cases price.field <;> decide
    · refine madeOf_index ?_ ?_ ?_ _
      · decide
      · decide
      intro c hDigit
      constructor
      · rintro rfl
        exact absurd hDigit (by decide)
      · rintro rfl
        exact absurd hDigit (by decide)
  have hBefore : MadeOf (·.toNat < 0x41) Expr.layout := by
    decide
  have hLayout : ∀ c ∈ Expr.layout.toList, lowerChar c = c :=
    fun c hC => lowerChar_eq_self_of_lt (hBefore c hC)
  rw [Expr.canonical, BarPrice.text_eq_indexed,
    lowercase_eq_map hCanonical, Expr.map_render hLayout]
  congr 1
  funext price
  rw [map_lowerChar_indexed]
  congr 1
  funext field
  exact map_lowerChar_keyword field

end Target

end BarRules

------------------------------------------------------------
-- Offsets in Pine Script
------------------------------------------------------------

namespace BarRules

namespace Target

open Text

/-
  An offset in brackets and the offset 0 in brackets start
  alike only if they are the same.
-/
theorem eq_zero_of_prefix_index
    {n : Nat}
    (h :
      '[' :: (Nat.toDigits 10 n ++ [']']) <+: ['[', '0', ']'] ∨
        ['[', '0', ']'] <+:
          '[' :: (Nat.toDigits 10 n ++ [']'])) :
    n = 0 := by
  have hDigit :
      ∀ c ∈ Nat.toDigits 10 n, c.isDigit = true :=
    fun c hC =>
      Nat.isDigit_of_mem_toDigits (by decide) (by decide) hC
  have hDigits : Nat.toDigits 10 n = ['0'] := by
    cases hText : Nat.toDigits 10 n with
    | nil => exact absurd hText Nat.toDigits_ne_nil
    | cons d digits =>
        rw [hText, List.cons_append, List.cons_prefix_cons,
          List.cons_prefix_cons, List.cons_prefix_cons,
          List.cons_prefix_cons] at h
        rcases h with ⟨_, rfl, hRest⟩ | ⟨_, rfl, hRest⟩
        · have hLength := hRest.length_le
          have hNone : digits = [] := by
            apply List.eq_nil_of_length_eq_zero
            simpa using hLength
          rw [hNone]
        · cases digits with
          | nil => rfl
          | cons next digits =>
              rw [List.cons_append, List.cons_prefix_cons]
                at hRest
              have hNext := hDigit next (by simp [hText])
              rw [← hRest.1] at hNext
              exact absurd hNext (by decide)
  rw [← Nat.ofDigitChars_ten_toDigits (n := n), hDigits]
  rfl

/- The offset of an older bar is not the one of the current. -/
theorem outside_index
    {n : Nat}
    (hOlder : n ≠ 0) :
    Outside "[0]".toList
      ("[" ++ Decimal.text n ++ "]").toList := by
  have hText :
      ("[" ++ Decimal.text n ++ "]").toList =
        '[' :: (Nat.toDigits 10 n ++ [']']) := by
    simp [Decimal.text]
  have hBehind : '[' ∉ Nat.toDigits 10 n ++ [']'] := by
    intro hMem
    rcases List.mem_append.mp hMem with hDigit | hClose
    · have hIsDigit :=
        Nat.isDigit_of_mem_toDigits (b := 10) (by decide)
          (by decide) hDigit
      exact absurd hIsDigit (by decide)
    · exact absurd hClose (by decide)
  rw [hText]
  apply Outside.cons
  · exact fun hPrefix =>
      hOlder (eq_zero_of_prefix_index (Or.inl hPrefix))
  · exact fun hPrefix =>
      hOlder (eq_zero_of_prefix_index (Or.inr hPrefix))
  · exact outside_of_not_mem hBehind

/- Pine Script leaves out the offset of the current bar. -/
theorem becomes_spell_pine
    (names : TargetNames)
    (price : BarPrice) :
    Becomes "[0]" ""
      (price.indexed Platform.pine.priceWord)
      (Platform.pine.spell names price) := by
  have hWord :
      Becomes "[0]" ""
        (Platform.pine.priceWord price.field)
        (Platform.pine.priceWord price.field) := by
    apply Outside.becomes
    cases price.field <;> decide
  by_cases hCurrent : price.offset = 0
  · have hSpelled :
        Platform.pine.spell names price =
          Platform.pine.priceWord price.field ++ "" := by
      simp [Platform.spell, Platform.referenceStyle, hCurrent]
    have hIndex :
        "[" ++ Decimal.text price.offset.toNat ++ "]" =
          "[0]" := by
      rw [hCurrent]
      decide
    rw [hSpelled, BarPrice.indexed, hIndex]
    exact hWord.append (becomes_self (by decide))
  · have hSpelled :
        Platform.pine.spell names price =
          price.indexed Platform.pine.priceWord := by
      simp only [Platform.spell, Platform.referenceStyle,
        hCurrent, if_false, BarPrice.indexed,
        String.append_assoc]
    have hOlder : price.offset.toNat ≠ 0 := by
      intro hZero
      exact hCurrent (UInt64.toNat_inj.mp hZero)
    rw [hSpelled, BarPrice.indexed]
    exact hWord.append (outside_index hOlder).becomes

end Target

end BarRules

------------------------------------------------------------
-- Respelled Trees
------------------------------------------------------------

namespace BarRules

namespace Expr

open Text

/-
  MetaTrader 4 and Pine Script write the canonical text of an
  expression anew, whatever the target names are: the first
  with keywords that are no longer in capitals, the second in
  lower case and without the offset of the current bar.
-/
theorem emit_respells_canonical
    (names : TargetNames)
    (e : Expr) :
    e.emit .mql4 names =
        replaced "CLOSE" "Close"
          (replaced "LOW" "Low"
            (replaced "HIGH" "High"
              (replaced "OPEN" "Open" e.canonical))) ∧
      e.emit .pine names =
        replaced "[0]" "" (lowercase e.canonical) := by
  constructor
  · calc
      e.emit .mql4 names =
          e.render (Platform.mql4.spell names) :=
        e.emit_eq_render _ names
      _ = e.render
            (BarPrice.indexed
              (Target.respelled
                (PriceField.all.reverse ++ []))) := by
        rw [Target.respelled_all, Target.spell_mql4]
      _ = PriceField.all.foldl Target.respellKeyword
            (e.render
              (BarPrice.indexed (Target.respelled []))) :=
        (Target.foldl_respellKeyword PriceField.all [] e).symm
      _ = replaced "CLOSE" "Close"
            (replaced "LOW" "Low"
              (replaced "HIGH" "High"
                (replaced "OPEN" "Open" e.canonical))) := by
        rw [canonical, BarPrice.text_eq_indexed]
        rfl
  · rw [Target.lowercase_canonical, emit_eq_render]
    symm
    apply Becomes.replaced_eq
    have hIndex : "[0]".toList = '[' :: ['0', ']'] := rfl
    exact
      becomes_render hIndex (by decide)
        (Target.becomes_spell_pine names) e

end Expr

end BarRules
