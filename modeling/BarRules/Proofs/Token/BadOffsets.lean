import BarRules.Proofs.Text.Trimming
import BarRules.Proofs.Token.Concatenation

/-
  What is said of a bracket that holds no offset.

  Key definitions include:
    * `BarRules.Scan.BadContent`
    * `BarRules.Scan.isBreak`
    * `BarRules.Scan.ClosedAfter`

  Key theorems include:
    * `BarRules.Scan.eq_badOffset_of_readNumber`
    * `BarRules.Scan.badOffset_of_closedAfter`
    * `BarRules.Scan.badOffset_of_not_closedAfter`
    * `BarRules.Scan.scan_of_badContent`
    * `BarRules.bad_brackets_diagnosed`

  A bracket is read for a number first, and what is no number
  is read again for its end.  Both readings agree on the fault.
  The second one passes over the characters of words, numbers
  and arithmetic only, so a bracket that is closed behind some
  other sign counts as one that was never closed.
-/

------------------------------------------------------------
-- Content of Brackets
------------------------------------------------------------

namespace BarRules

namespace Scan

/-
  Text behind an opening bracket that starts with no offset:
  neither with a minus, nor with a number that fits and is
  closed.
-/
structure BadContent (content : List Char) : Prop where
  unsigned :
    (content.dropWhile Text.isBlank).head? ≠ some '-'
  no_number :
    ∀ lead digits trail rest,
      content = lead ++ (digits ++ (trail ++ ']' :: rest)) →
        ¬ OffsetText lead digits trail

/-
  The signs that tell that a bracket was never closed: those of
  comparisons, parentheses and another opening bracket.
-/
def isBreak (c : Char) : Bool :=
  "<>=!()[".toList.contains c

/- Text starts with an offset if one is read. -/
instance (content : List Char) : Decidable (BadContent content) :=
  decidable_of_iff
    ((content.dropWhile Text.isBlank).head? ≠ some '-' ∧
      (readOffset 0 content).toOption.isNone = true)
    (by
      constructor
      · rintro ⟨hUnsigned, hNone⟩
        refine ⟨hUnsigned, ?_⟩
        intro lead digits trail rest hContent hText
        have hRead :=
          (readOffset_eq_ok_iff 0 content ⟨_, rest, _⟩).mpr
            ⟨lead, digits, trail, hContent, hText, rfl, rfl⟩
        rw [hRead] at hNone
        cases hNone
      · intro h
        refine ⟨h.unsigned, ?_⟩
        cases hRead : readOffset 0 content with
        | error fault => rfl
        | ok reading =>
            rcases (readOffset_eq_ok_iff ..).mp hRead with
              ⟨lead, digits, trail, hContent, hText, _, _⟩
            exact absurd hText (h.no_number _ _ _ _ hContent))

/-
  The first closing bracket of a text stands behind this part
  of it, and none of the signs above does before it.
-/
structure ClosedAfter (inner content : List Char) : Prop where
  closed : ∃ rest, content = inner ++ ']' :: rest
  first : ']' ∉ inner
  unbroken : ∀ c ∈ inner, isBreak c = false

instance (inner content : List Char) :
    Decidable (ClosedAfter inner content) :=
  decidable_of_iff
    (inner ++ [']'] <+: content ∧
      ']' ∉ inner ∧
      inner.all (fun c => !isBreak c) = true)
    (by
      constructor
      · rintro ⟨⟨rest, hContent⟩, hFirst, hUnbroken⟩
        exact
          ⟨⟨rest, by simp [← hContent]⟩, hFirst,
            by simpa using hUnbroken⟩
      · rintro ⟨⟨rest, hContent⟩, hFirst, hUnbroken⟩
        exact
          ⟨⟨rest, by simp [hContent]⟩, hFirst,
            by simpa using hUnbroken⟩)

end Scan

end BarRules

------------------------------------------------------------
-- Characters of Offsets
------------------------------------------------------------

namespace BarRules

namespace Scan

variable {c : Char}

/- Signs that end a bracket are not passed over. -/
theorem isOffsetChar_of_isBreak
    (h : isBreak c = true) :
    isOffsetChar c = false := by
  have hAll :
      "<>=!()[".toList.all (fun c => !isOffsetChar c) =
        true := by
    decide +kernel
  have hMem : c ∈ "<>=!()[".toList := by
    simpa [isBreak] using h
  simpa using List.all_eq_true.mp hAll c hMem

/- Nor is a closing bracket. -/
theorem isOffsetChar_closing : isOffsetChar ']' = false := by
  decide +kernel

/- Blanks are passed over. -/
theorem isOffsetChar_of_isBlank
    (h : Text.isBlank c = true) :
    isOffsetChar c = true := by
  simp [isOffsetChar, h]

/- Digits are numerals, and so passed over. -/
theorem isOffsetChar_of_isDigit
    (h : c.isDigit = true) :
    isOffsetChar c = true := by
  have hRange := Char.isDigit_iff_toNat.mp h
  simp only [Char.reduceToNat] at hRange
  have hNumeric : Text.isNumeric c = true := by
    rw [Text.isNumeric, Text.inRanges, Text.numericRanges,
      Text.covers, if_neg (by omega)]
    simp [hRange.2]
  simp [isOffsetChar, Text.isAlphanumeric, hNumeric]

end Scan

end BarRules

------------------------------------------------------------
-- The Second Reading
------------------------------------------------------------

namespace BarRules

namespace Scan

variable {bracket start : Nat}
variable {inner content : List Char}

/- What is passed over up to a closing bracket is malformed. -/
theorem badOffset_of_closed
    (bracket start : Nat)
    (hInner : ∀ c ∈ inner, isOffsetChar c = true)
    (rest : List Char) :
    badOffset bracket start (inner ++ ']' :: rest) =
      ⟨.malformedOffset
          (String.ofList (Text.trimChars inner)),
        start⟩ := by
  have hStop :
      ∀ c, (']' :: rest).head? = some c →
        isOffsetChar c = false := by
    intro c hHead
    cases hHead
    exact isOffsetChar_closing
  unfold badOffset
  rw [Text.takeWhile_append_of_stop hInner hStop,
    Text.dropWhile_append_of_stop hInner hStop]
  rfl

/- Everything else was never closed. -/
theorem badOffset_of_not_closed
    (bracket start : Nat)
    (h :
      ∀ inner rest,
        content = inner ++ ']' :: rest →
          ∃ c ∈ inner, isOffsetChar c = false) :
    badOffset bracket start content =
      ⟨.unterminatedBracket, bracket⟩ := by
  unfold badOffset
  split
  · rename_i rest hRest
    have hSplit :
        content =
          content.takeWhile isOffsetChar ++ ']' :: rest := by
      rw [← hRest, List.takeWhile_append_dropWhile]
    rcases h _ _ hSplit with ⟨c, hMem, hOther⟩
    rw [List.mem_takeWhile_imp hMem] at hOther
    cases hOther
  · rfl

/- Blanks in front do not matter. -/
theorem badOffset_dropWhile
    (bracket start : Nat)
    (content : List Char) :
    badOffset bracket start (content.dropWhile Text.isBlank) =
      badOffset bracket start content := by
  induction content with
  | nil => rfl
  | cons c rest ih =>
      by_cases hBlank : Text.isBlank c = true
      · have hPassed := isOffsetChar_of_isBlank hBlank
        rw [List.dropWhile_cons_of_pos hBlank, ih]
        unfold badOffset
        rw [List.dropWhile_cons_of_pos hPassed,
          List.takeWhile_cons_of_pos hPassed,
          Text.trimChars_cons hBlank]
      · rw [List.dropWhile_cons_of_neg hBlank]

/-
  The first reading and the second one agree: whatever is wrong
  with a number is what is wrong with its bracket.
-/
theorem eq_badOffset_of_readNumber
    {fault : ScanFault}
    (h : readNumber bracket start content = .error fault) :
    fault = badOffset bracket start content := by
  have hSplit :
      content =
        content.takeWhile Char.isDigit ++
          (content.dropWhile Char.isDigit).takeWhile
              Text.isBlank ++
            (content.dropWhile Char.isDigit).dropWhile
              Text.isBlank := by
    rw [List.append_assoc, List.takeWhile_append_dropWhile,
      List.takeWhile_append_dropWhile]
  have hPassed :
      ∀ c ∈
        content.takeWhile Char.isDigit ++
          (content.dropWhile Char.isDigit).takeWhile
            Text.isBlank,
        isOffsetChar c = true := by
    intro c hMem
    rcases List.mem_append.mp hMem with hDigit | hBlank
    · exact isOffsetChar_of_isDigit
        (List.mem_takeWhile_imp hDigit)
    · exact isOffsetChar_of_isBlank
        (List.mem_takeWhile_imp hBlank)
  unfold readNumber at h
  simp only at h
  split at h
  · rename_i hNone
    cases h
    rw [hNone, List.append_nil] at hSplit
    symm
    apply badOffset_of_not_closed
    intro inner rest hInner
    have hClosing : isOffsetChar ']' = true := by
      apply hPassed
      rw [← hSplit, hInner]
      simp
    rw [isOffsetChar_closing] at hClosing
    cases hClosing
  · rename_i rest hRest
    split at h
    · cases h
      rfl
    · split at h
      · cases h
        have hDigits :
            Text.trimChars (content.takeWhile Char.isDigit) =
              content.takeWhile Char.isDigit := by
          apply Text.trimChars_eq_self_of_forall
          intro c hMem
          exact Text.isBlank_eq_false_of_isDigit
            (List.mem_takeWhile_imp hMem)
        have hBlanks :
            ∀ c ∈
              (content.dropWhile Char.isDigit).takeWhile
                Text.isBlank,
              Text.isBlank c = true :=
          fun c hMem => List.mem_takeWhile_imp hMem
        rw [hRest] at hSplit
        rw [hSplit, badOffset_of_closed bracket start hPassed,
          Text.trimChars_append_blanks hBlanks, hDigits,
          ← hSplit]
      · cases h
  · cases h
    rfl

/- What is said of a bracket with such content. -/
theorem readOffset_of_badContent
    (bracket : Nat)
    (h : BadContent content) :
    readOffset bracket content =
      .error
        (badOffset bracket
          (bracket + 1 +
            Text.byteLength (content.takeWhile Text.isBlank))
          content) := by
  cases hRead : readOffset bracket content with
  | ok reading =>
      rcases (readOffset_eq_ok_iff ..).mp hRead with
        ⟨lead, digits, trail, hContent, hText, _, _⟩
      exact absurd hText (h.no_number _ _ _ _ hContent)
  | error fault =>
      unfold readOffset at hRead
      simp only [h.unsigned, if_false] at hRead
      rw [eq_badOffset_of_readNumber hRead,
        badOffset_dropWhile]

end Scan

end BarRules

------------------------------------------------------------
-- Verdicts
------------------------------------------------------------

namespace BarRules

namespace Scan

variable {inner content : List Char}

/- Closing brackets stand behind the part before the first. -/
theorem ClosedAfter.prefix_of_closed
    {other rest : List Char}
    (h : ClosedAfter inner content)
    (hOther : content = other ++ ']' :: rest) :
    inner <+: other := by
  rcases h.closed with ⟨after, hContent⟩
  rw [hContent] at hOther
  rcases List.append_eq_append_iff.mp hOther with
    ⟨middle, hMiddle, _⟩ | ⟨middle, hMiddle, hRest⟩
  · exact ⟨middle, hMiddle.symm⟩
  · cases middle with
    | nil => simp [hMiddle]
    | cons c middle =>
        simp only [List.cons_append, List.cons.injEq] at hRest
        have hMem : ']' ∈ inner := by
          rw [hMiddle, ← hRest.1]
          simp
        exact absurd hMem h.first

/-
  A bracket that is closed is malformed if all of its content
  is passed over.  If not, it counts as never closed.
-/
theorem badOffset_of_closedAfter
    (bracket start : Nat)
    (h : ClosedAfter inner content) :
    badOffset bracket start content =
      if inner.all isOffsetChar then
        ⟨.malformedOffset
            (String.ofList (Text.trimChars inner)),
          start⟩
      else
        ⟨.unterminatedBracket, bracket⟩ := by
  split
  · rename_i hPassed
    rw [List.all_eq_true] at hPassed
    rcases h.closed with ⟨rest, rfl⟩
    exact badOffset_of_closed bracket start hPassed rest
  · rename_i hOther
    apply badOffset_of_not_closed
    intro other rest hContent
    have hPrefix := h.prefix_of_closed hContent
    simp only [List.all_eq_true, not_forall,
      Bool.not_eq_true] at hOther
    rcases hOther with ⟨c, hMem, hNot⟩
    exact ⟨c, hPrefix.mem hMem, hNot⟩

/- A bracket that is not closed counts as never closed. -/
theorem badOffset_of_not_closedAfter
    (bracket start : Nat)
    (h : ∀ inner, ¬ ClosedAfter inner content) :
    badOffset bracket start content =
      ⟨.unterminatedBracket, bracket⟩ := by
  apply badOffset_of_not_closed
  intro inner rest hContent
  by_contra hNone
  simp only [not_exists, not_and, Bool.not_eq_false] at hNone
  apply h inner
  refine ⟨⟨rest, hContent⟩, ?_, ?_⟩
  · intro hMem
    have hClosing := hNone ']' hMem
    rw [isOffsetChar_closing] at hClosing
    cases hClosing
  · intro c hMem
    apply Bool.eq_false_iff.mpr
    intro hBreak
    have hPassed := hNone c hMem
    rw [isOffsetChar_of_isBreak hBreak] at hPassed
    cases hPassed

end Scan

end BarRules

------------------------------------------------------------
-- Brackets Behind Keywords
------------------------------------------------------------

namespace BarRules

namespace Scan

variable {fault : ScanFault}

/- The bracket of a price is read where its keyword ends. -/
theorem readPrice_of_offset_error
    {pos : Nat}
    {field : PriceField}
    {content : List Char}
    (h :
      readOffset (pos + Text.byteLength field.keyword.toList)
          content =
        .error fault) :
    readPrice pos (field.keyword.toList ++ '[' :: content) =
      .error fault := by
  have hStop :
      ∀ c, ('[' :: content).head? = some c →
        isWordChar c = false := by
    intro c hHead
    cases hHead
    decide
  have hWord := isWordChar_of_mem_keyword field
  have hField :=
    (ofKeyword?_eq_some_iff field.keyword field).mpr rfl
  unfold readPrice
  simp only [Text.takeWhile_append_of_stop hWord hStop,
    Text.dropWhile_append_of_stop hWord hStop,
    String.ofList_toList, hField, h]

/- The scan ends with what is wrong with a bracket. -/
theorem tokensFrom_of_offset_error
    {pos : Nat}
    {field : PriceField}
    {content : List Char}
    (h :
      readOffset (pos + Text.byteLength field.keyword.toList)
          content =
        .error fault) :
    tokensFrom pos (field.keyword.toList ++ '[' :: content) =
      .error fault := by
  have hPrice := readPrice_of_offset_error h
  have hFirst :
      ∃ c cs,
        field.keyword.toList = c :: cs ∧
          Text.isBlank c = false ∧
          startsWord c = true := by
    cases field <;> exact ⟨_, _, rfl, by decide⟩
  rcases hFirst with ⟨c, cs, hKeyword, hBlank, hStarts⟩
  rw [hKeyword, List.cons_append] at hPrice ⊢
  rw [tokensFrom_cons hBlank, readLexeme, if_pos hStarts,
    hPrice]
  rfl

/- So does the scan of a rule that gets as far as that. -/
theorem scan_of_badContent
    {front : String}
    {tokens : List Token}
    (hFront : scan front = .ok tokens)
    (field : PriceField)
    {content : String}
    (hBad : BadContent content.toList) :
    let bracket := (front ++ field.keyword).utf8ByteSize
    scan (front ++ field.keyword ++ "[" ++ content) =
      .error
        (badOffset bracket
          (bracket + 1 +
            Text.byteLength
              (content.toList.takeWhile Text.isBlank))
          content.toList) := by
  intro bracket
  have hLexes := (scan_eq_ok_iff front tokens).mp hFront
  have hSeam :
      Seam front.toList
        (field.keyword.toList ++ '[' :: content.toList) := by
    intro _
    cases field <;> simp [PriceField.keyword]
  have hBracket :
      0 + Text.byteLength front.toList +
          Text.byteLength field.keyword.toList =
        bracket := by
    rw [Nat.zero_add, Text.byteLength_toList,
      Text.byteLength_toList, ← String.utf8ByteSize_append]
  have hOffset := readOffset_of_badContent bracket hBad
  rw [← hBracket] at hOffset
  have hRule :
      (front ++ field.keyword ++ "[" ++ content).toList =
        front.toList ++
          (field.keyword.toList ++ '[' :: content.toList) := by
    simp
  rw [scan, hRule, hLexes.tokensFrom_append hSeam,
    tokensFrom_of_offset_error hOffset, hBracket]
  rfl

end Scan

end BarRules

------------------------------------------------------------
-- Diagnosis
------------------------------------------------------------

namespace BarRules

open Scan

/-
  What is said of a bracket that holds no offset.  If it is
  closed before a sign of a comparison, a parenthesis or
  another bracket, then its content is called malformed exactly
  if it consists of letters, numerals, blanks and the signs
  `_.+-*/`.  In all other cases the bracket is called
  unterminated, as it should be where it is not closed.
-/
theorem bad_brackets_diagnosed
    {front : String}
    {tokens : List Token}
    (hFront : scan front = .ok tokens)
    (field : PriceField)
    {content : String}
    (hBad : BadContent content.toList) :
    let rule := front ++ field.keyword ++ "[" ++ content
    let bracket := (front ++ field.keyword).utf8ByteSize
    let start :=
      bracket + 1 +
        Text.byteLength
          (content.toList.takeWhile Text.isBlank)
    (∀ inner : String,
      ClosedAfter inner.toList content.toList →
        (scan rule =
            .error ⟨.malformedOffset (Text.trim inner), start⟩ ↔
          ∀ c ∈ inner.toList, isOffsetChar c = true) ∧
        (scan rule = .error ⟨.unterminatedBracket, bracket⟩ ↔
          ∃ c ∈ inner.toList, isOffsetChar c = false)) ∧
    ((∀ inner, ¬ ClosedAfter inner content.toList) →
      scan rule = .error ⟨.unterminatedBracket, bracket⟩) := by
  intro rule bracket start
  have hScan :
      scan rule =
        .error (badOffset bracket start content.toList) :=
    scan_of_badContent hFront field hBad
  constructor
  · intro inner hClosed
    rw [hScan,
      badOffset_of_closedAfter bracket start hClosed]
    split
    · rename_i hPassed
      rw [List.all_eq_true] at hPassed
      refine ⟨⟨fun _ => hPassed, fun _ => rfl⟩, ?_⟩
      constructor
      · intro hFault
        cases hFault
      · rintro ⟨c, hMem, hOther⟩
        rw [hPassed c hMem] at hOther
        cases hOther
    · rename_i hOther
      rw [List.all_eq_true] at hOther
      constructor
      · constructor
        · intro hFault
          cases hFault
        · intro hPassed
          exact absurd hPassed hOther
      · refine ⟨fun _ => ?_, fun _ => rfl⟩
        simpa using hOther
  · intro hNone
    rw [hScan, badOffset_of_not_closedAfter bracket start hNone]

/-
  A bracket holds a fraction between a blank of two bytes and
  one of one byte.  Another bracket is not closed at all.
-/
theorem bad_brackets_diagnosed_fraction :
    scan "LOW[0] >= CLOSE[\u00a07½ ]" =
        .error ⟨.malformedOffset "7½", 18⟩ ∧
      scan "LOW[0] >= CLOSE[2 - OPEN)" =
        .error ⟨.unterminatedBracket, 15⟩ := by
  have hFront :
      scan "LOW[0] >= " =
        .ok
          [⟨.price .low, 0⟩, ⟨.offset 0, 3⟩,
            ⟨.operator (.compare .atLeast), 7⟩] := by
    decide +kernel
  constructor
  · have hBad : BadContent "\u00a07½ ]".toList := by
      decide +kernel
    have hClosed :
        ClosedAfter "\u00a07½ ".toList
          "\u00a07½ ]".toList := by
      decide +kernel
    exact
      ((bad_brackets_diagnosed hFront .closing hBad).1 _
        hClosed).1.mpr (List.all_eq_true.mp (by decide +kernel))
  · have hBad : BadContent "2 - OPEN)".toList := by
      decide +kernel
    have hOpen : ']' ∉ "2 - OPEN)".toList := by decide
    apply (bad_brackets_diagnosed hFront .closing hBad).2
    intro inner hClosed
    rcases hClosed.closed with ⟨rest, hContent⟩
    apply hOpen
    rw [hContent]
    simp

/-
  A colon is none of the signs that a bracket must not run
  into.  Still the bracket counts as never closed, and not as
  malformed, although it is closed right behind it.
-/
theorem bracket_closed_behind_colon_unterminated :
    let content := "1:2] < CLOSE[0]"
    scan "" = .ok [] ∧
      BadContent content.toList ∧
      ClosedAfter "1:2".toList content.toList ∧
      scan ("" ++ PriceField.opening.keyword ++ "[" ++ content) =
        .error ⟨.unterminatedBracket, 4⟩ ∧
      scan ("" ++ PriceField.opening.keyword ++ "[" ++ content) ≠
        .error ⟨.malformedOffset (Text.trim "1:2"), 5⟩ := by
  decide +kernel

end BarRules
