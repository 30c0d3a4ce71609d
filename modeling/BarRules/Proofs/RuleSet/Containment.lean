import BarRules.Proofs.RuleSet.Determination
import BarRules.Proofs.Text.Cutting
import Mathlib.Data.List.Chain

/-
  Conditions stay in the place that they are written to.

  Key definitions include:
    * `BarRules.Text.isConditionChar`
    * `BarRules.Text.commentSigns`
    * `BarRules.Text.unclosed`
    * `BarRules.Text.Bordered`
    * `BarRules.Text.Harmless`
    * `BarRules.Text.Contained`

  Key theorems include:
    * `BarRules.Text.Harmless.append`
    * `BarRules.Text.Harmless.enclosed`
    * `BarRules.Text.Contained.between`
    * `BarRules.Target.contained_spell`
    * `BarRules.Expr.contained_emit`
    * `BarRules.RuleSet.translate_contained`

  The surrounding source text cannot be left by closing what
  it opened, by a comment or by the end of a line.  Harmless
  texts may be put together, since none of them ends with a
  mark that a comment could start with.
-/

------------------------------------------------------------
-- Characters and Brackets
------------------------------------------------------------

namespace BarRules

namespace Text

/- A character of names, numbers, blanks and separate signs. -/
def isPlainChar (c : Char) : Bool :=
  c.isAlphanum || "_ .,<>=!+-&".toList.contains c

/- A character that the signs of comments are made of. -/
def isCommentMark (c : Char) : Bool :=
  "*/".toList.contains c

/- A character that a condition may hold. -/
def isConditionChar (c : Char) : Bool :=
  isPlainChar c || isCommentMark c || "()[]".toList.contains c

/- What starts or ends comments on the target platforms. -/
def commentSigns : List String :=
  ["//", "/*", "*/"]

/- Two characters that are not both marks. -/
def Apart (c d : Char) : Prop :=
  ¬ (isCommentMark c = true ∧ isCommentMark d = true)

instance (c d : Char) : Decidable (Apart c d) :=
  inferInstanceAs (Decidable (¬ _))

/-
  The brackets that wait to be closed, the innermost one first,
  after one more character.  A bracket is closed by its own
  counterpart only.
-/
def bracketStep
    (opened : List Char)
    (c : Char) :
    Option (List Char) :=
  match c, opened with
  | '(', _ => some ('(' :: opened)
  | '[', _ => some ('[' :: opened)
  | ')', '(' :: outer => some outer
  | ')', _ => none
  | ']', '[' :: outer => some outer
  | ']', _ => none
  | _, _ => some opened

/- The brackets that a text leaves open, if none is amiss. -/
def unclosed
    (opened text : List Char) :
    Option (List Char) :=
  text.foldlM bracketStep opened

/- Text that is not empty and has no blank at its ends. -/
def Bordered (text : String) : Prop :=
  text ≠ "" ∧
    text.toList.head? ≠ some ' ' ∧
    text.toList.getLast? ≠ some ' '

instance (text : String) : Decidable (Bordered text) :=
  inferInstanceAs (Decidable (_ ∧ _ ∧ _))

/-
  Text that a condition can be put together from.  Its brackets
  are closed within it, and it does not end with a mark.
-/
structure Harmless (text : String) : Prop where
  allowed : MadeOf (fun c => isConditionChar c = true) text
  nested : ∀ opened, unclosed opened text.toList = some opened
  apart : text.toList.IsChain Apart
  ends : ∀ c ∈ text.toList.getLast?, isCommentMark c = false

end Text

end BarRules

------------------------------------------------------------
-- Harmless Text
------------------------------------------------------------

namespace BarRules

namespace Text

variable {front back text : String}

/- Plain characters open and close no brackets. -/
theorem bracketStep_of_isPlainChar
    (opened : List Char)
    {c : Char}
    (h : isPlainChar c = true) :
    bracketStep opened c = some opened := by
  have hDiffer (other : Char)
      (hOther : isPlainChar other = false) :
      c ≠ other := by
    rintro rfl
    exact Bool.eq_false_iff.mp hOther h
  unfold bracketStep
  split
  case h_7 => rfl
  all_goals exact absurd h (by decide)

/- Plain characters are no marks. -/
theorem isCommentMark_of_isPlainChar
    {c : Char}
    (h : isPlainChar c = true) :
    isCommentMark c = false := by
  rw [Bool.eq_false_iff]
  intro hMark
  have hEq : c = '*' ∨ c = '/' := by
    simpa [isCommentMark] using hMark
  rcases hEq with rfl | rfl
  · exact absurd h (by decide)
  · exact absurd h (by decide)

/- Texts without brackets leave open what was open. -/
theorem unclosed_of_isPlainChar
    (opened : List Char)
    {text : List Char}
    (h : ∀ c ∈ text, isPlainChar c = true) :
    unclosed opened text = some opened := by
  induction text with
  | nil => rfl
  | cons c rest ih =>
      have hFirst := h c List.mem_cons_self
      have hRest :=
        ih fun d hD => h d (List.mem_cons_of_mem c hD)
      rw [unclosed, List.foldlM_cons,
        bracketStep_of_isPlainChar opened hFirst]
      exact hRest

/- Text of plain characters is harmless. -/
theorem harmless_of_madeOf
    (h : MadeOf (fun c => isPlainChar c = true) text) :
    Harmless text where
  allowed := by
    refine h.mono ?_
    intro c hPlain
    simp [isConditionChar, hPlain]
  nested := fun opened => unclosed_of_isPlainChar opened h
  apart := by
    apply List.Pairwise.isChain
    apply List.pairwise_of_forall_mem_list
    intro c hC d _ hMarks
    rw [isCommentMark_of_isPlainChar (h c hC)] at hMarks
    exact Bool.noConfusion hMarks.1
  ends := by
    intro c hLast
    have hMem := List.mem_of_getLast? hLast
    exact isCommentMark_of_isPlainChar (h c hMem)

/- Names are harmless. -/
theorem harmless_of_isTargetName
    (h : isTargetName text = true) :
    Harmless text := by
  apply harmless_of_madeOf
  refine (Target.madeOf_of_isTargetName h).mono ?_
  intro c hName
  rcases Bool.or_eq_true_iff.mp hName with hAlphanum | hLow
  · simp [isPlainChar, hAlphanum]
  · rw [of_decide_eq_true hLow]
    decide

/- Numerals are harmless. -/
theorem harmless_decimal (n : Nat) :
    Harmless (Decimal.text n) := by
  apply harmless_of_madeOf
  refine (madeOf_decimal n).mono ?_
  intro c hDigit
  simp [isPlainChar, Char.isAlphanum, hDigit]

/- Harmless texts may follow each other. -/
theorem Harmless.append
    (hFront : Harmless front)
    (hBack : Harmless back) :
    Harmless (front ++ back) where
  allowed :=
    (madeOf_append ..).mpr ⟨hFront.allowed, hBack.allowed⟩
  nested := by
    intro opened
    rw [String.toList_append, unclosed, List.foldlM_append]
    have hOpened := hFront.nested opened
    rw [unclosed] at hOpened
    rw [hOpened]
    exact hBack.nested opened
  apart := by
    rw [String.toList_append, List.isChain_append]
    refine ⟨hFront.apart, hBack.apart, ?_⟩
    intro c hLast d _ hMarks
    rw [hFront.ends c hLast] at hMarks
    exact Bool.noConfusion hMarks.1
  ends := by
    intro c hLast
    rw [String.toList_append, List.getLast?_append] at hLast
    cases hEnd : back.toList.getLast? with
    | none =>
        rw [hEnd, Option.none_or] at hLast
        exact hFront.ends c hLast
    | some d =>
        rw [hEnd, Option.some_or] at hLast
        rw [← Option.some.inj hLast]
        exact hBack.ends d hEnd

/- Two brackets that belong together. -/
structure Brackets (opening closing : Char) : Prop where
  opens :
    ∀ opened,
      bracketStep opened opening = some (opening :: opened)
  closes :
    ∀ opened,
      bracketStep (opening :: opened) closing = some opened
  allowed :
    isConditionChar opening = true ∧
      isConditionChar closing = true
  unmarked :
    isCommentMark opening = false ∧
      isCommentMark closing = false

/- Round brackets belong together. -/
theorem brackets_round : Brackets '(' ')' where
  opens := fun _ => rfl
  closes := fun _ => rfl
  allowed := by decide
  unmarked := by decide

/- Square brackets belong together. -/
theorem brackets_square : Brackets '[' ']' where
  opens := fun _ => rfl
  closes := fun _ => rfl
  allowed := by decide
  unmarked := by decide

/- Harmless text may stand in brackets. -/
theorem Harmless.enclosed
    {opening closing : Char}
    {whole : String}
    (h : Harmless text)
    (hBrackets : Brackets opening closing)
    (hWhole :
      whole.toList = opening :: (text.toList ++ [closing])) :
    Harmless whole where
  allowed := by
    intro c hC
    rw [hWhole, List.mem_cons, List.mem_append,
      List.mem_singleton] at hC
    rcases hC with rfl | hText | rfl
    · exact hBrackets.allowed.1
    · exact h.allowed c hText
    · exact hBrackets.allowed.2
  nested := by
    intro opened
    have hText := h.nested (opening :: opened)
    unfold unclosed at hText ⊢
    rw [hWhole, List.foldlM_cons, hBrackets.opens]
    change
      (text.toList ++ [closing]).foldlM bracketStep
          (opening :: opened) =
        some opened
    rw [List.foldlM_append, hText]
    change [closing].foldlM bracketStep (opening :: opened) = _
    rw [List.foldlM_cons, hBrackets.closes]
    rfl
  apart := by
    rw [hWhole, List.isChain_cons, List.isChain_append]
    refine
      ⟨?_, h.apart, List.isChain_singleton closing, ?_⟩
    · intro c _ hMarks
      rw [hBrackets.unmarked.1] at hMarks
      exact Bool.noConfusion hMarks.1
    · intro c hLast d _ hMarks
      rw [h.ends c hLast] at hMarks
      exact Bool.noConfusion hMarks.1
  ends := by
    intro c hLast
    rw [hWhole, ← List.cons_append, List.getLast?_concat]
      at hLast
    rw [← Option.some.inj hLast]
    exact hBrackets.unmarked.2

/- Operators between blanks are harmless. -/
theorem harmless_operator (op : Operator) :
    Harmless (" " ++ op.symbol ++ " ") where
  allowed := by
    cases op with
    | arith op => cases op <;> decide
    | compare op => cases op <;> decide
  nested := by
    intro opened
    cases op with
    | arith op => cases op <;> rfl
    | compare op => cases op <;> rfl
  apart := by
    cases op with
    | arith op => cases op <;> decide
    | compare op => cases op <;> decide
  ends := by
    intro c hLast
    have hBlank : " ".toList = [' '] := rfl
    rw [String.toList_append, hBlank, List.getLast?_concat]
      at hLast
    rw [← Option.some.inj hLast]
    decide

end Text

end BarRules

------------------------------------------------------------
-- Bordered Text
------------------------------------------------------------

namespace BarRules

namespace Text

variable {front back text : String}

/- A text is bordered if texts at both of its ends are. -/
theorem Bordered.between
    (hFront : Bordered front)
    (middle : String)
    (hBack : Bordered back) :
    Bordered (front ++ middle ++ back) := by
  rcases hFront with ⟨hFrontText, hFirst, _⟩
  rcases hBack with ⟨hBackText, _, hLast⟩
  refine ⟨between_ne_empty hFrontText middle back, ?_, ?_⟩
  · rw [head?_between hFrontText]
    exact hFirst
  · rw [getLast?_between front middle hBackText]
    exact hLast

/- Names are bordered. -/
theorem bordered_of_isTargetName
    (h : isTargetName text = true) :
    Bordered text := by
  have hBlank : ' ' ∉ text.toList := by
    intro hMem
    exact
      absurd (Target.madeOf_of_isTargetName h ' ' hMem)
        (by decide)
  refine ⟨?_, ?_, ?_⟩
  · rintro rfl
    exact absurd h (by decide)
  · intro hFirst
    exact hBlank (List.mem_of_head? hFirst)
  · intro hLast
    exact hBlank (List.mem_of_getLast? hLast)

end Text

end BarRules

------------------------------------------------------------
-- Contained Text
------------------------------------------------------------

namespace BarRules

namespace Text

variable {front middle back name text : String}

/- Harmless text that starts and ends with no blank. -/
structure Contained (text : String) : Prop where
  harmless : Harmless text
  bordered : Bordered text

/- Names are contained. -/
theorem contained_of_isTargetName
    (h : isTargetName text = true) :
    Contained text where
  harmless := harmless_of_isTargetName h
  bordered := bordered_of_isTargetName h

/- Contained texts may stand around harmless text. -/
theorem Contained.between
    (hFront : Contained front)
    (hMiddle : Harmless middle)
    (hBack : Contained back) :
    Contained (front ++ middle ++ back) where
  harmless :=
    (hFront.harmless.append hMiddle).append hBack.harmless
  bordered := hFront.bordered.between middle hBack.bordered

/- Contained text may stand in parentheses. -/
theorem Contained.parens
    (h : Contained text) :
    Contained ("(" ++ text ++ ")") where
  harmless := h.harmless.enclosed brackets_round (by simp)
  bordered :=
    Bordered.between (by decide) text (by decide)

/- A bar of a series is contained. -/
theorem Contained.indexed
    (h : Contained name)
    (bars : Nat) :
    Contained (name ++ "[" ++ Decimal.text bars ++ "]") where
  harmless := by
    have hIndex : Harmless ("[" ++ Decimal.text bars ++ "]") :=
      (harmless_decimal bars).enclosed brackets_square
        (by simp)
    have hWhole := h.harmless.append hIndex
    simpa only [String.append_assoc] using hWhole
  bordered := by
    have hLast : Bordered "]" := by decide
    have hWhole :=
      h.bordered.between ("[" ++ Decimal.text bars) hLast
    simpa only [String.append_assoc] using hWhole

/- A call of a function is contained. -/
theorem Contained.called
    {arguments : String}
    (h : Contained name)
    (hArguments : Harmless arguments) :
    Contained (name ++ "(" ++ arguments ++ ")") where
  harmless := by
    have hList : Harmless ("(" ++ arguments ++ ")") :=
      hArguments.enclosed brackets_round (by simp)
    have hWhole := h.harmless.append hList
    simpa only [String.append_assoc] using hWhole
  bordered := by
    have hLast : Bordered ")" := by decide
    have hWhole := h.bordered.between ("(" ++ arguments) hLast
    simpa only [String.append_assoc] using hWhole

end Text

end BarRules

------------------------------------------------------------
-- Conditions
------------------------------------------------------------

namespace BarRules

open Text

variable {names : TargetNames}

namespace Target

/- Prices are spelled with contained text. -/
theorem contained_spell
    (hNames : names.check = .ok ())
    (platform : Platform)
    (price : BarPrice) :
    Contained (platform.spell names price) := by
  rcases names.check_eq_ok_iff.mp hNames with
    ⟨hSymbol, hPeriod, hSeries⟩
  have hWord :=
    contained_of_isTargetName
      (isTargetName_priceWord platform price.field)
  have hOffset := harmless_decimal price.offset.toNat
  unfold Platform.spell
  cases platform.referenceStyle with
  | arrayIndex => exact hWord.indexed price.offset.toNat
  | functionCall =>
      have hFunction :=
        contained_of_isTargetName
          (isTargetName_priceFunction platform price.field)
      have hComma : Harmless ", " :=
        harmless_of_madeOf (by decide)
      have hContext :
          Harmless (names.symbol ++ ", " ++ names.period) :=
        ((harmless_of_isTargetName hSymbol).append
          hComma).append (harmless_of_isTargetName hPeriod)
      have hCall :=
        hFunction.called
          ((hContext.append hComma).append hOffset)
      simpa only [String.append_assoc] using hCall
  | bracketOffset =>
      by_cases hCurrent : price.offset = 0
      · simp only [hCurrent, if_true]
        exact hWord
      · simp only [hCurrent, if_false]
        exact hWord.indexed price.offset.toNat
  | methodChain =>
      have hDot : Harmless "." := harmless_of_madeOf (by decide)
      have hLast : Contained "Last" :=
        contained_of_isTargetName (by decide)
      have hPrices :=
        (contained_of_isTargetName hSeries).between hDot hWord
      have hCall := (hPrices.between hDot hLast).called hOffset
      have hSpelled : ".Last(" = "." ++ ("Last" ++ "(") := rfl
      simpa only [hSpelled, String.append_assoc] using hCall

end Target

namespace Expr

/- Operands are contained if their texts are. -/
theorem contained_enclose
    (operand : Expr)
    {text : String}
    (hText : Contained text) :
    Contained (operand.enclose text) := by
  cases operand with
  | barPrice price => exact hText
  | binary op left right => exact hText.parens

/- Expressions are emitted as contained text. -/
theorem contained_emit
    (hNames : names.check = .ok ())
    (platform : Platform)
    (e : Expr) :
    Contained (e.emit platform names) := by
  induction e with
  | barPrice price =>
      exact Target.contained_spell hNames platform price
  | binary op left right ihLeft ihRight =>
      have hLeft := contained_enclose left ihLeft
      have hRight := contained_enclose right ihRight
      have hWhole := hLeft.between (harmless_operator op) hRight
      simpa only [emit, Platform.sign_eq_symbol,
        String.append_assoc] using hWhole

end Expr

namespace RuleSet

variable {platform : Platform}
variable {set : RuleSet}

/-
  The condition of a set cannot reach beyond its place.  It
  holds no line break, quote, semicolon or backslash and no
  sign of a comment, its brackets are closed in the order in
  which they are opened, and it is not empty and has no blank
  at its ends.
-/
theorem translate_contained
    (hNames : names.check = .ok ())
    {text : String}
    (hText : set.translate platform names = .ok text) :
    MadeOf (fun c => isConditionChar c = true) text ∧
      (∀ sign ∈ commentSigns,
        ¬ sign.toList <:+: text.toList) ∧
      unclosed [] text.toList = some [] ∧
      Bordered text := by
  rcases exists_expressions_of_translate hText with
    ⟨es, _, hNonempty, hJoined⟩
  have hSeparator : Harmless (Condition.separator platform) := by
    apply harmless_of_madeOf
    cases platform <;> decide
  have hContained : Contained text := by
    rw [hJoined]
    apply joinWith_of_between
    · intro front back hFront hBack
      exact hFront.between hSeparator hBack
    · simpa using hNonempty
    · intro condition hMem
      rcases List.mem_map.mp hMem with ⟨e, _, hEmit⟩
      rw [← hEmit]
      exact Expr.contained_emit hNames platform e
  refine
    ⟨hContained.harmless.allowed, ?_,
      hContained.harmless.nested [], hContained.bordered⟩
  have hSigns :
      ∀ sign ∈ commentSigns,
        ¬ sign.toList.IsChain Apart := by
    decide
  intro sign hSign hInfix
  have hApart :=
    List.IsChain.infix hContained.harmless.apart hInfix
  exact hSigns sign hSign hApart

/-
  The condition of two rules, one of which takes a quotient, in
  which no sign of a comment comes about.
-/
theorem translate_contained_quotient :
    ∃ text,
      translate .mql5 {}
          ⟨["HIGH[1]/(LOW[1]*OPEN[1]) < OPEN[0]",
            "CLOSE[1] > OPEN[1]"]⟩ =
        .ok text ∧
      MadeOf (fun c => isConditionChar c = true) text ∧
      (∀ sign ∈ commentSigns,
        ¬ sign.toList <:+: text.toList) ∧
      unclosed [] text.toList = some [] ∧
      Bordered text := by
  have hText :
      translate .mql5 {}
          ⟨["HIGH[1]/(LOW[1]*OPEN[1]) < OPEN[0]",
            "CLOSE[1] > OPEN[1]"]⟩ =
        .ok
          ("(iHigh(_Symbol, PERIOD_CURRENT, 1) " ++
            "/ (iLow(_Symbol, PERIOD_CURRENT, 1) " ++
            "* iOpen(_Symbol, PERIOD_CURRENT, 1))) " ++
            "< iOpen(_Symbol, PERIOD_CURRENT, 0) && " ++
            "iClose(_Symbol, PERIOD_CURRENT, 1) " ++
            "> iOpen(_Symbol, PERIOD_CURRENT, 1)") := by
    decide +kernel
  exact ⟨_, hText, translate_contained rfl hText⟩

end RuleSet

end BarRules
