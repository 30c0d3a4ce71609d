import BarRules.Text.Pieces

/-
  Cutting text at a separator of several characters.

  Key definitions include:
    * `BarRules.Text.partsOf`
    * `BarRules.Text.partsBetween`

  Key theorems include:
    * `BarRules.Text.partsOf_eq_singleton`
    * `BarRules.Text.partsOf_append`
    * `BarRules.Text.partsBetween_joinWith`

  A separator might also be found across the seam between a
  part and the separator that follows it.  This cannot happen
  if the second character of the separator differs from the
  first one and stands in no part.
-/

------------------------------------------------------------
-- Parts of a Text
------------------------------------------------------------

namespace BarRules

namespace Text

/-
  What stands before, between and after the places of a
  separator.  The places are found from left to right and do
  not overlap.  The separator has at least one character.
-/
def partsOf
    (separator text : List Char) :
    List (List Char) :=
  match text with
  | [] => [[]]
  | c :: rest =>
      if separator.isPrefixOf (c :: rest) then
        [] ::
          partsOf separator (rest.drop (separator.length - 1))
      else
        (partsOf separator rest).modifyHead (c :: ·)
termination_by text.length
decreasing_by
  · simp only [List.length_drop, List.length_cons]
    omega
  · simp

/- The parts of a text between the places of another text. -/
def partsBetween (separator text : String) : List String :=
  (partsOf separator.toList text.toList).map String.ofList

end Text

end BarRules

------------------------------------------------------------
-- Parts Without the Separator
------------------------------------------------------------

namespace BarRules

namespace Text

variable {first second : Char}
variable {tail : List Char}
variable {part : List Char}

/-
  A separator does not start inside of a part.  Behind the part
  stands nothing or a separator.
-/
theorem isPrefixOf_part_eq_false
    (hDiffer : first ≠ second)
    {c : Char}
    (hPart : second ∉ c :: part)
    {back : List Char}
    (hBack : back = [] ∨ back.head? = some first) :
    (first :: second :: tail).isPrefixOf
        (c :: (part ++ back)) =
      false := by
  apply Bool.eq_false_iff.mpr
  intro hPrefix
  have hSecond : (part ++ back).head? = some second := by
    rw [List.isPrefixOf_iff_prefix,
      List.cons_prefix_cons] at hPrefix
    rcases hPrefix.2 with ⟨after, hText⟩
    rw [← hText]
    rfl
  cases part with
  | nil =>
      rw [List.nil_append] at hSecond
      rcases hBack with hEmpty | hFirst
      · simp [hEmpty] at hSecond
      · rw [hFirst] at hSecond
        exact hDiffer (Option.some.inj hSecond)
  | cons d part =>
      have hNext : d = second := Option.some.inj hSecond
      apply hPart
      simp [hNext]

/- A part without a separator after it is all there is. -/
theorem partsOf_eq_singleton
    (hDiffer : first ≠ second)
    (hPart : second ∉ part) :
    partsOf (first :: second :: tail) part = [part] := by
  induction part with
  | nil => rw [partsOf]
  | cons c part ih =>
      have hRest : second ∉ part :=
        fun hMem => hPart (List.mem_cons_of_mem c hMem)
      have hNone :
          (first :: second :: tail).isPrefixOf (c :: part) =
            false := by
        simpa using
          isPrefixOf_part_eq_false hDiffer hPart (Or.inl rfl)
      rw [partsOf, hNone, ih hRest]
      rfl

/- A part is cut off at the separator after it. -/
theorem partsOf_append
    (hDiffer : first ≠ second)
    (hPart : second ∉ part)
    (rest : List Char) :
    partsOf (first :: second :: tail)
        (part ++ (first :: second :: tail ++ rest)) =
      part :: partsOf (first :: second :: tail) rest := by
  induction part with
  | nil =>
      rw [List.nil_append, List.cons_append, partsOf]
      simp
  | cons c part ih =>
      have hRest : second ∉ part :=
        fun hMem => hPart (List.mem_cons_of_mem c hMem)
      have hNone :
          (first :: second :: tail).isPrefixOf
              (c :: (part ++
                (first :: second :: tail ++ rest))) =
            false :=
        isPrefixOf_part_eq_false hDiffer hPart (Or.inr rfl)
      rw [List.cons_append, partsOf, hNone, ih hRest]
      rfl

/- Joined texts are cut into the texts again. -/
theorem partsBetween_joinWith
    {separator : String}
    (hSeparator : separator.toList = first :: second :: tail)
    (hDiffer : first ≠ second)
    {texts : List String}
    (hNonempty : texts ≠ [])
    (hTexts : ∀ text ∈ texts, second ∉ text.toList) :
    partsBetween separator (joinWith separator texts) =
      texts := by
  induction texts with
  | nil => exact absurd rfl hNonempty
  | cons text texts ih =>
      have hText : second ∉ text.toList :=
        hTexts text List.mem_cons_self
      cases texts with
      | nil =>
          rw [joinWith, partsBetween, hSeparator,
            partsOf_eq_singleton hDiffer hText]
          simp
      | cons next texts =>
          have hRest :
              partsBetween separator
                  (joinWith separator (next :: texts)) =
                next :: texts := by
            apply ih (by simp)
            intro other hOther
            exact
              hTexts other (List.mem_cons_of_mem text hOther)
          rw [partsBetween, hSeparator] at hRest
          have hJoined :
              (joinWith separator
                  (text :: next :: texts)).toList =
                text.toList ++
                  (first :: second :: tail ++
                    (joinWith separator
                      (next :: texts)).toList) := by
            simp [joinWith, hSeparator]
          rw [partsBetween, hSeparator, hJoined,
            partsOf_append hDiffer hText, List.map_cons, hRest,
            String.ofList_toList]

end Text

end BarRules
