import BarRules.Proofs.Text.Stretches
import BarRules.Condition
import BarRules.Settings

/-
  The marks that the source text of a platform consists of.

  Key definitions include:
    * `BarRules.Target.Mark`
    * `BarRules.Target.marks`
    * `BarRules.Target.Breaks`
    * `BarRules.Target.Punctuates`

  Key theorems include:
    * `BarRules.Target.marks_word`
    * `BarRules.Target.marks_number`
    * `BarRules.Target.marks_operator`

  The platforms agree on words, numbers and signs.  A word or a
  number goes on as long as it can, and a sign of two characters
  is taken before a sign of one.
-/

------------------------------------------------------------
-- Cutting Text into Marks
------------------------------------------------------------

namespace BarRules

namespace Target

/- A word, a number or a sign of the source text. -/
inductive Mark where
  | word (name : String)
  | number (value : Nat)
  | operator (op : Operator)
  | openParen
  | closeParen
  | openBracket
  | closeBracket
  | comma
  | dot
  deriving DecidableEq

/- The comparisons of two characters. -/
def pairSign? : Char → Char → Option Mark
  | '<', '=' => some (.operator (.compare .atMost))
  | '>', '=' => some (.operator (.compare .atLeast))
  | '=', '=' => some (.operator (.compare .equal))
  | '!', '=' => some (.operator (.compare .unequal))
  | _, _ => none

/- The signs of one character. -/
def sign? : Char → Option Mark
  | '<' => some (.operator (.compare .less))
  | '>' => some (.operator (.compare .greater))
  | '+' => some (.operator (.arith .add))
  | '-' => some (.operator (.arith .subtract))
  | '*' => some (.operator (.arith .multiply))
  | '/' => some (.operator (.arith .divide))
  | '(' => some .openParen
  | ')' => some .closeParen
  | '[' => some .openBracket
  | ']' => some .closeBracket
  | ',' => some .comma
  | '.' => some .dot
  | _ => none

/- A sign at the start of a text, and what follows it. -/
structure Cut (text : List Char) where
  mark : Mark
  rest : List Char
  shorter : rest.length < text.length

/- The sign that a text starts with. -/
def cutSign? : (text : List Char) → Option (Cut text)
  | [] => none
  | [c] => (sign? c).map (⟨·, [], by simp⟩)
  | c :: d :: rest =>
      match pairSign? c d with
      | some mark =>
          some ⟨mark, rest, by simp only [List.length]; omega⟩
      | none => (sign? c).map (⟨·, d :: rest, by simp⟩)

/- The marks of a text, if it consists of marks and blanks. -/
def marks (text : List Char) : Option (List Mark) :=
  match text with
  | [] => some []
  | c :: rest =>
      if c.isDigit then
        let digits := c :: rest.takeWhile Char.isDigit
        (marks (rest.dropWhile Char.isDigit)).map
          (.number (Text.Decimal.value digits) :: ·)
      else if startsName c then
        let name := c :: rest.takeWhile isNameChar
        (marks (rest.dropWhile isNameChar)).map
          (.word (String.ofList name) :: ·)
      else if c.isWhitespace then
        marks rest
      else
        match cutSign? (c :: rest) with
        | none => none
        | some cut => (marks cut.rest).map (cut.mark :: ·)
termination_by text.length
decreasing_by
  · exact Nat.lt_succ_of_le
      (List.dropWhile_sublist Char.isDigit).length_le
  · exact Nat.lt_succ_of_le
      (List.dropWhile_sublist isNameChar).length_le
  · exact Nat.lt_succ_self _
  · exact cut.shorter

end Target

end BarRules

------------------------------------------------------------
-- Words, Numbers and Signs
------------------------------------------------------------

namespace BarRules

namespace Target

/- No word or number goes on into the text. -/
def Breaks (text : List Char) : Prop :=
  ∀ c, text.head? = some c → isNameChar c = false

/- No word or number goes on at the end. -/
@[simp]
theorem breaks_nil : Breaks [] := by
  simp [Breaks]

/- The next character decides whether a word goes on. -/
@[simp]
theorem breaks_cons
    (c : Char)
    (text : List Char) :
    Breaks (c :: text) ↔ isNameChar c = false := by
  simp [Breaks]

/- A name starts above the digits. -/
theorem lt_toNat_of_startsName
    {c : Char}
    (h : startsName c = true) :
    57 < c.toNat := by
  unfold startsName at h
  rcases Bool.or_eq_true_iff.mp h with hAlpha | hUnderscore
  · rcases Bool.or_eq_true_iff.mp hAlpha with hUpper | hLower
    · have hFirst : 65 ≤ c.toNat :=
        (of_decide_eq_true hUpper).1
      omega
    · have hFirst : 97 ≤ c.toNat :=
        of_decide_eq_true (Bool.and_eq_true_iff.mp hLower).1
      omega
  · rw [of_decide_eq_true hUnderscore]
    decide

/- A name does not start with a digit. -/
theorem isDigit_eq_false_of_startsName
    {c : Char}
    (h : startsName c = true) :
    c.isDigit = false := by
  have hAbove := lt_toNat_of_startsName h
  cases hDigit : c.isDigit with
  | false => rfl
  | true =>
      have hRange := Char.isDigit_iff_toNat.mp hDigit
      simp only [Char.reduceToNat] at hRange
      omega

/- Where no word goes on, no number does. -/
theorem isDigit_eq_false_of_isNameChar_eq_false
    {c : Char}
    (h : isNameChar c = false) :
    c.isDigit = false := by
  simp only [isNameChar, Char.isAlphanum,
    Bool.or_eq_false_iff] at h
  exact h.1.2

/- A blank is passed over. -/
theorem marks_space (rest : List Char) :
    marks (' ' :: rest) = marks rest := by
  rw [marks]
  simp [startsName]

/- A word is cut as a whole. -/
theorem marks_word
    {name : String}
    (hName : isTargetName name = true)
    {rest : List Char}
    (hBreaks : Breaks rest) :
    marks (name.toList ++ rest) =
      (marks rest).map (.word name :: ·) := by
  unfold isTargetName at hName
  split at hName
  · cases hName
  · rename_i c letters hText
    simp only [Bool.and_eq_true, List.all_eq_true] at hName
    have hWord : String.ofList (c :: letters) = name := by
      rw [← hText, String.ofList_toList]
    rw [hText, List.cons_append, marks]
    simp only [isDigit_eq_false_of_startsName hName.1,
      hName.1, Bool.false_eq_true, if_false, if_true,
      Text.takeWhile_append_of_stop hName.2 hBreaks,
      Text.dropWhile_append_of_stop hName.2 hBreaks, hWord]

/- A numeral is cut as a whole and stands for its number. -/
theorem marks_number
    (n : Nat)
    {rest : List Char}
    (hBreaks : Breaks rest) :
    marks ((Text.Decimal.text n).toList ++ rest) =
      (marks rest).map (.number n :: ·) := by
  have hStop :
      ∀ c, rest.head? = some c → c.isDigit = false :=
    fun c hHead =>
      isDigit_eq_false_of_isNameChar_eq_false
        (hBreaks c hHead)
  have hDigits :
      ∀ c ∈ Nat.toDigits 10 n, c.isDigit = true :=
    fun c hMem =>
      Nat.isDigit_of_mem_toDigits (by decide) (by decide) hMem
  have hValue :
      Text.Decimal.value (Nat.toDigits 10 n) = n :=
    Nat.ofDigitChars_ten_toDigits
  rw [Text.Decimal.text, String.toList_ofList]
  cases hText : Nat.toDigits 10 n with
  | nil => exact absurd hText Nat.toDigits_ne_nil
  | cons d digits =>
      rw [hText] at hDigits hValue
      have hTail : ∀ c ∈ digits, c.isDigit = true :=
        fun c hMem => hDigits c (List.mem_cons_of_mem d hMem)
      rw [List.cons_append, marks]
      simp only [hDigits d List.mem_cons_self, if_true,
        Text.takeWhile_append_of_stop hTail hStop,
        Text.dropWhile_append_of_stop hTail hStop, hValue]

/- A character that starts no number and no word. -/
structure Plain (c : Char) : Prop where
  digit : c.isDigit = false
  name : startsName c = false
  blank : c.isWhitespace = false

/- Signs of one character are plain. -/
theorem plain_of_sign?
    {c : Char}
    {mark : Mark}
    (h : sign? c = some mark) :
    Plain c := by
  unfold sign? at h
  split at h <;>
    first
    | exact ⟨by decide, by decide, by decide⟩
    | cases h

/- Signs of two characters start with a plain one. -/
theorem plain_of_pairSign?
    {c d : Char}
    {mark : Mark}
    (h : pairSign? c d = some mark) :
    Plain c := by
  unfold pairSign? at h
  split at h <;>
    first
    | exact ⟨by decide, by decide, by decide⟩
    | cases h

/- A sign that a text starts with is cut off. -/
theorem marks_of_cutSign?
    {c : Char}
    {rest : List Char}
    {cut : Cut (c :: rest)}
    (hPlain : Plain c)
    (hCut : cutSign? (c :: rest) = some cut) :
    marks (c :: rest) =
      (marks cut.rest).map (cut.mark :: ·) := by
  rw [marks]
  simp only [hPlain.digit, hPlain.name, hPlain.blank, hCut,
    Bool.false_eq_true, if_false]

/- A sign that no second character joins is cut alone. -/
theorem marks_sign
    {c : Char}
    {mark : Mark}
    (hSign : sign? c = some mark)
    {rest : List Char}
    (hAlone :
      ∀ d, rest.head? = some d → pairSign? c d = none) :
    marks (c :: rest) = (marks rest).map (mark :: ·) := by
  have hCut :
      cutSign? (c :: rest) =
        some ⟨mark, rest, Nat.lt_succ_self _⟩ := by
    cases rest with
    | nil => simp [cutSign?, hSign]
    | cons d rest => simp [cutSign?, hAlone d rfl, hSign]
  exact marks_of_cutSign? (plain_of_sign? hSign) hCut

/- Two characters that make up a sign are cut together. -/
theorem marks_pairSign
    {c d : Char}
    {mark : Mark}
    (hSign : pairSign? c d = some mark)
    (rest : List Char) :
    marks (c :: d :: rest) = (marks rest).map (mark :: ·) := by
  have hShorter :
      rest.length < (c :: d :: rest).length := by
    simp only [List.length_cons]
    omega
  have hCut :
      cutSign? (c :: d :: rest) =
        some ⟨mark, rest, hShorter⟩ := by
    simp [cutSign?, hSign]
  exact marks_of_cutSign? (plain_of_pairSign? hSign) hCut

/- A sign of one character that begins no longer one. -/
structure Punctuates (c : Char) (mark : Mark) : Prop where
  sign : sign? c = some mark
  alone : ∀ d, pairSign? c d = none

/- Punctuation ends a word or a number. -/
theorem Punctuates.breaks
    {c : Char}
    {mark : Mark}
    (h : Punctuates c mark)
    (rest : List Char) :
    Breaks (c :: rest) := by
  have hSign := h.sign
  rw [breaks_cons]
  unfold sign? at hSign
  split at hSign <;> first | decide | cases hSign

/- Punctuation is cut whatever follows. -/
theorem Punctuates.marks_eq
    {c : Char}
    {mark : Mark}
    (h : Punctuates c mark)
    (rest : List Char) :
    marks (c :: rest) = (marks rest).map (mark :: ·) :=
  marks_sign h.sign (fun d _ => h.alone d)

/- The opening parenthesis. -/
theorem openParen_punctuates : Punctuates '(' .openParen :=
  ⟨rfl, fun _ => rfl⟩

/- The closing parenthesis. -/
theorem closeParen_punctuates : Punctuates ')' .closeParen :=
  ⟨rfl, fun _ => rfl⟩

/- The opening bracket. -/
theorem openBracket_punctuates :
    Punctuates '[' .openBracket :=
  ⟨rfl, fun _ => rfl⟩

/- The closing bracket. -/
theorem closeBracket_punctuates :
    Punctuates ']' .closeBracket :=
  ⟨rfl, fun _ => rfl⟩

/- The comma. -/
theorem comma_punctuates : Punctuates ',' .comma :=
  ⟨rfl, fun _ => rfl⟩

/- The dot. -/
theorem dot_punctuates : Punctuates '.' .dot :=
  ⟨rfl, fun _ => rfl⟩

/- A word with punctuation behind it. -/
theorem Punctuates.marks_word
    {c : Char}
    {mark : Mark}
    (h : Punctuates c mark)
    {name : String}
    (hName : isTargetName name = true)
    (rest : List Char) :
    marks (name.toList ++ c :: rest) =
      (marks rest).map ([.word name, mark] ++ ·) := by
  rw [Target.marks_word hName (h.breaks rest), h.marks_eq,
    Option.map_map]
  rfl

/- A numeral with punctuation behind it. -/
theorem Punctuates.marks_number
    {c : Char}
    {mark : Mark}
    (h : Punctuates c mark)
    (n : Nat)
    (rest : List Char) :
    marks ((Text.Decimal.text n).toList ++ c :: rest) =
      (marks rest).map ([.number n, mark] ++ ·) := by
  rw [Target.marks_number n (h.breaks rest), h.marks_eq,
    Option.map_map]
  rfl

/- An operator is written as one sign or as two characters. -/
theorem signs_of_operator (op : Operator) :
    (∃ c,
      op.symbol.toList = [c] ∧
        sign? c = some (.operator op)) ∨
      ∃ c d,
        op.symbol.toList = [c, d] ∧
          pairSign? c d = some (.operator op) := by
  cases op with
  | arith op =>
      refine Or.inl ?_
      cases op <;> exact ⟨_, rfl, rfl⟩
  | compare op =>
      cases op with
      | less | greater => exact Or.inl ⟨_, rfl, rfl⟩
      | atMost | atLeast | equal | unequal =>
          exact Or.inr ⟨_, _, rfl, rfl⟩

/- An operator with a blank behind it is cut as a whole. -/
theorem marks_operator
    (op : Operator)
    (rest : List Char) :
    marks (op.symbol.toList ++ ' ' :: rest) =
      (marks rest).map (.operator op :: ·) := by
  rcases signs_of_operator op with
    ⟨c, hText, hSign⟩ | ⟨c, d, hText, hSign⟩
  · have hAlone :
        ∀ d, (' ' :: rest).head? = some d →
          pairSign? c d = none := by
      intro d hHead
      cases hHead
      simp [pairSign?]
    rw [hText, List.singleton_append, marks_sign hSign hAlone,
      marks_space]
  · rw [hText, List.cons_append, List.singleton_append,
      marks_pairSign hSign, marks_space]

end Target

end BarRules
