import BarRules.Proofs.Target.Emission

/-
  The characters that emitted text consists of.

  Key definitions include:
    * `BarRules.Text.MadeOf`
    * `BarRules.Expr.layout`
    * `BarRules.Target.isReferenceChar`

  Key theorems include:
    * `BarRules.Expr.madeOf_render`
    * `BarRules.Target.madeOf_spell`
    * `BarRules.Target.madeOf_spell_pine`

  The characters around the prices are the same on all
  platforms.  Prices are spelled with names, digits and a few
  signs; in Pine Script no name from outside is used.
-/

------------------------------------------------------------
-- Characters of a Text
------------------------------------------------------------

namespace BarRules

namespace Text

variable {allowed : Char → Prop}

/- All characters of a text are allowed ones. -/
def MadeOf (allowed : Char → Prop) (text : String) : Prop :=
  ∀ c ∈ text.toList, allowed c

instance
    [DecidablePred allowed]
    (text : String) :
    Decidable (MadeOf allowed text) :=
  List.decidableBAll allowed text.toList

/- A text in two parts consists of what the parts hold. -/
@[simp]
theorem madeOf_append (front back : String) :
    MadeOf allowed (front ++ back) ↔
      MadeOf allowed front ∧ MadeOf allowed back := by
  simp only [MadeOf, String.toList_append, List.mem_append]
  constructor
  · intro h
    exact
      ⟨fun c hC => h c (Or.inl hC),
        fun c hC => h c (Or.inr hC)⟩
  · rintro ⟨hFront, hBack⟩ c (hC | hC)
    · exact hFront c hC
    · exact hBack c hC

/- What is allowed may be allowed among others. -/
theorem MadeOf.mono
    {wider : Char → Prop}
    {text : String}
    (h : MadeOf allowed text)
    (hWider : ∀ c, allowed c → wider c) :
    MadeOf wider text :=
  fun c hC => hWider c (h c hC)

/- Numerals consist of digits. -/
theorem madeOf_decimal (n : Nat) :
    MadeOf (fun c => c.isDigit = true) (Decimal.text n) := by
  intro c hC
  rw [Decimal.text, String.toList_ofList] at hC
  exact Nat.isDigit_of_mem_toDigits (by decide) (by decide) hC

end Text

end BarRules

------------------------------------------------------------
-- Characters of Written Expressions
------------------------------------------------------------

namespace BarRules

namespace Expr

open Text

/- The characters that stand around the bar prices. -/
def layout : String := " ()+-*/<>=!"

/- Operators are written with characters of the layout. -/
theorem madeOf_symbol (op : Operator) :
    MadeOf (· ∈ layout.toList) op.symbol := by
  cases op with
  | arith op => cases op <;> decide
  | compare op => cases op <;> decide

variable {allowed : Char → Prop}

/- Parentheses around an operand belong to the layout. -/
theorem madeOf_enclose
    (hLayout : MadeOf allowed layout)
    (operand : Expr)
    {text : String}
    (hText : MadeOf allowed text) :
    MadeOf allowed (operand.enclose text) := by
  cases operand with
  | barPrice price => exact hText
  | binary op left right =>
      have hOpen : MadeOf (· ∈ layout.toList) "(" := by decide
      have hClose : MadeOf (· ∈ layout.toList) ")" := by decide
      simp only [enclose, madeOf_append]
      exact
        ⟨⟨hOpen.mono hLayout, hText⟩, hClose.mono hLayout⟩

/-
  An expression is written with the layout and the characters
  that its prices are spelled with.
-/
theorem madeOf_render
    (hLayout : MadeOf allowed layout)
    {spell : BarPrice → String}
    (hSpell : ∀ price, MadeOf allowed (spell price))
    (e : Expr) :
    MadeOf allowed (e.render spell) := by
  induction e with
  | barPrice price => exact hSpell price
  | binary op left right ihLeft ihRight =>
      have hBlank : MadeOf allowed " " := by
        have hMem : MadeOf (· ∈ layout.toList) " " := by decide
        exact hMem.mono hLayout
      have hSymbol := (madeOf_symbol op).mono hLayout
      have hLeft := madeOf_enclose hLayout left ihLeft
      have hRight := madeOf_enclose hLayout right ihRight
      simp only [render, madeOf_append]
      exact ⟨⟨⟨⟨hLeft, hBlank⟩, hSymbol⟩, hBlank⟩, hRight⟩

end Expr

end BarRules

------------------------------------------------------------
-- Characters of Spelled Prices
------------------------------------------------------------

namespace BarRules

namespace Target

open Text

/- A character of a name, or a sign of a reference. -/
def isReferenceChar (c : Char) : Bool :=
  isNameChar c || ['[', ']', '(', ')', ',', '.', ' '].contains c

/- Target names consist of name characters. -/
theorem madeOf_of_isTargetName
    {name : String}
    (h : isTargetName name = true) :
    MadeOf (fun c => isNameChar c = true) name := by
  unfold isTargetName at h
  split at h
  · cases h
  · rename_i first rest hText
    rw [Bool.and_eq_true, List.all_eq_true] at h
    rcases h with ⟨hStarts, hRest⟩
    have hFirst : isNameChar first = true := by
      unfold startsName at hStarts
      unfold isNameChar Char.isAlphanum
      rcases Bool.or_eq_true_iff.mp hStarts with hAlpha | hLow
      · simp [hAlpha]
      · simp [hLow]
    intro c hC
    rw [hText] at hC
    rcases List.mem_cons.mp hC with hEq | hMem
    · rw [hEq]
      exact hFirst
    · exact hRest c hMem

/- Names may stand in references. -/
theorem isReferenceChar_of_isNameChar
    (c : Char)
    (h : isNameChar c = true) :
    isReferenceChar c = true := by
  simp [isReferenceChar, h]

/- Digits may stand in references. -/
theorem isReferenceChar_of_isDigit
    (c : Char)
    (h : c.isDigit = true) :
    isReferenceChar c = true := by
  simp [isReferenceChar, isNameChar, Char.isAlphanum, h]

/- Prices are spelled with names and the signs around them. -/
theorem madeOf_spell
    {names : TargetNames}
    (hNames : names.check = .ok ())
    (platform : Platform)
    (price : BarPrice) :
    MadeOf (fun c => isReferenceChar c = true)
      (platform.spell names price) := by
  rcases names.check_eq_ok_iff.mp hNames with
    ⟨hSymbol, hPeriod, hSeries⟩
  have hName :
      ∀ {name : String},
        isTargetName name = true →
          MadeOf (fun c => isReferenceChar c = true) name :=
    fun h =>
      (madeOf_of_isTargetName h).mono
        isReferenceChar_of_isNameChar
  have hWord :=
    hName (isTargetName_priceWord platform price.field)
  have hOffset :=
    (madeOf_decimal price.offset.toNat).mono
      isReferenceChar_of_isDigit
  unfold Platform.spell
  cases platform.referenceStyle with
  | arrayIndex =>
      simp only [madeOf_append, hWord, hOffset]
      decide
  | functionCall =>
      simp only [madeOf_append, hWord, hOffset,
        hName hSymbol, hName hPeriod]
      decide
  | bracketOffset =>
      by_cases hCurrent : price.offset = 0
      · simp only [hCurrent, if_true, hWord]
      · simp only [hCurrent, if_false, madeOf_append, hWord,
          hOffset]
        decide
  | methodChain =>
      simp only [madeOf_append, hWord, hOffset, hName hSeries]
      decide

/- Pine Script spells no price with the letter of its `and`. -/
theorem madeOf_spell_pine
    (names : TargetNames)
    (price : BarPrice) :
    MadeOf (· ≠ 'a') (Platform.pine.spell names price) := by
  have hWord :
      MadeOf (· ≠ 'a')
        (Platform.pine.priceWord price.field) := by
    cases price.field <;> decide
  have hOffset :
      MadeOf (· ≠ 'a')
        (Text.Decimal.text price.offset.toNat) := by
    refine MadeOf.mono (madeOf_decimal _) ?_
    rintro c hDigit rfl
    exact absurd hDigit (by decide)
  have hOpen : MadeOf (· ≠ 'a') "[" := by decide
  have hClose : MadeOf (· ≠ 'a') "]" := by decide
  unfold Platform.spell
  simp only [Platform.referenceStyle]
  split
  · exact hWord
  · simp only [madeOf_append]
    exact ⟨⟨⟨hWord, hOpen⟩, hOffset⟩, hClose⟩

end Target

end BarRules
