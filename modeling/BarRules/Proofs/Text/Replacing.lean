import BarRules.Proofs.Text.Separation
import Mathlib.Data.List.Infix

/-
  Replacing one text by another within a longer one.

  Key definitions include:
    * `BarRules.Text.replaced`
    * `BarRules.Text.Becomes`
    * `BarRules.Text.Outside`

  Key theorems include:
    * `BarRules.Text.replaced_append_self`
    * `BarRules.Text.replaced_cons_of_not_prefix`
    * `BarRules.Text.Becomes.append`
    * `BarRules.Text.Outside.becomes`

  The places of a text are found from left to right, so what a
  part of a longer text becomes may depend on what comes after
  it.  It does not if no place begins in the part and ends
  behind it.
-/

------------------------------------------------------------
-- Replacement
------------------------------------------------------------

namespace BarRules

namespace Text

/-
  A text with a new text in all places of an old one.  The
  places are found from left to right and do not overlap.  The
  old text has at least one character.
-/
def replaced (old new text : String) : String :=
  joinWith new (partsBetween old text)

variable {old new : String}
variable {separator : List Char}

/- The first character of a text stands before the others. -/
theorem ofList_cons
    (c : Char)
    (cs : List Char) :
    String.ofList (c :: cs) =
      String.singleton c ++ String.ofList cs := by
  simp

/- A text has at least one part. -/
theorem partsOf_ne_nil (text : List Char) :
    partsOf separator text ≠ [] := by
  induction text with
  | nil => simp [partsOf]
  | cons c rest ih =>
      rw [partsOf]
      split
      · simp
      · cases hParts : partsOf separator rest with
        | nil => exact absurd hParts ih
        | cons part parts => simp

/- An empty part in front leaves the separator in front. -/
theorem joinWith_empty_cons
    {texts : List String}
    (h : texts ≠ []) :
    joinWith new ("" :: texts) = new ++ joinWith new texts := by
  cases texts with
  | nil => exact absurd rfl h
  | cons text texts => simp [joinWith]

/- What is put before the first part is put before them all. -/
theorem joinWith_modifyHead
    {parts : List (List Char)}
    (h : parts ≠ [])
    (c : Char) :
    joinWith new
        ((parts.modifyHead (c :: ·)).map String.ofList) =
      String.singleton c ++
        joinWith new (parts.map String.ofList) := by
  cases parts with
  | nil => exact absurd rfl h
  | cons part parts =>
      cases parts with
      | nil => exact ofList_cons c part
      | cons next parts =>
          simp only [List.modifyHead_cons, List.map_cons,
            joinWith, ofList_cons, String.append_assoc]

/- A place at the start is replaced. -/
theorem replaced_append_self
    (hOld : old ≠ "")
    (rest : String) :
    replaced old new (old ++ rest) =
      new ++ replaced old new rest := by
  have hChars : old.toList ≠ [] := by simpa using hOld
  rcases List.exists_cons_of_ne_nil hChars with
    ⟨c, tail, hCons⟩
  have hParts :
      partsOf old.toList (old ++ rest).toList =
        [] :: partsOf old.toList rest.toList := by
    rw [String.toList_append, hCons, List.cons_append, partsOf]
    simp
  rw [replaced, partsBetween, hParts, List.map_cons,
    String.ofList_nil, joinWith_empty_cons]
  · rfl
  · simp [partsOf_ne_nil]

/- A character at which no place begins is kept. -/
theorem replaced_cons_of_not_prefix
    {c : Char}
    {rest : List Char}
    (h : ¬ old.toList <+: c :: rest) :
    replaced old new (String.ofList (c :: rest)) =
      String.singleton c ++
        replaced old new (String.ofList rest) := by
  have hNone : old.toList.isPrefixOf (c :: rest) = false := by
    rw [Bool.eq_false_iff, ne_eq, List.isPrefixOf_iff_prefix]
    exact h
  have hParts :
      partsOf old.toList (c :: rest) =
        (partsOf old.toList rest).modifyHead (c :: ·) := by
    rw [partsOf, hNone]
    rfl
  rw [replaced, partsBetween, String.toList_ofList, hParts,
    joinWith_modifyHead (partsOf_ne_nil rest), replaced,
    partsBetween, String.toList_ofList]

example : replaced "aa" "b" "aaaaca" = "bbca" := by
  decide +kernel

end Text

end BarRules

------------------------------------------------------------
-- Parts That Are Replaced on Their Own
------------------------------------------------------------

namespace BarRules

namespace Text

variable {old new : String}

/- What a part of a text becomes, whatever comes after it. -/
def Becomes (old new part result : String) : Prop :=
  ∀ rest,
    replaced old new (part ++ rest) =
      result ++ replaced old new rest

/- Parts that follow each other are replaced one by one. -/
theorem Becomes.append
    {front back frontResult backResult : String}
    (hFront : Becomes old new front frontResult)
    (hBack : Becomes old new back backResult) :
    Becomes old new (front ++ back)
      (frontResult ++ backResult) := by
  intro rest
  calc
    replaced old new (front ++ back ++ rest) =
        replaced old new (front ++ (back ++ rest)) := by
      rw [String.append_assoc]
    _ = frontResult ++ replaced old new (back ++ rest) :=
      hFront _
    _ = frontResult ++
        (backResult ++ replaced old new rest) := by
      rw [hBack]
    _ = frontResult ++ backResult ++
        replaced old new rest := by
      rw [String.append_assoc]

/- A part that is all of a text is replaced as such. -/
theorem Becomes.replaced_eq
    {part result : String}
    (h : Becomes old new part result) :
    replaced old new part = result := by
  have hEmpty : replaced old new "" = "" := by
    simp [replaced, partsBetween, partsOf, joinWith]
  have hWhole := h ""
  rwa [hEmpty, String.append_empty, String.append_empty]
    at hWhole

/- The old text becomes the new one. -/
theorem becomes_self (hOld : old ≠ "") :
    Becomes old new old new :=
  replaced_append_self hOld

/-
  No place of a text begins in another one, not even one that
  ends behind it.
-/
def Outside (old text : List Char) : Prop :=
  ∀ tail ∈ text.tails,
    tail ≠ [] → ¬ tail <+: old ∧ ¬ old <+: tail

instance (old text : List Char) : Decidable (Outside old text) :=
  inferInstanceAs (Decidable (∀ _ ∈ _, _))

/- The outside of a text holds for what is behind a character. -/
theorem Outside.tail
    {old rest : List Char}
    {c : Char}
    (h : Outside old (c :: rest)) :
    Outside old rest := by
  intro tail hTail
  apply h
  rw [List.tails_cons]
  exact List.mem_cons_of_mem _ hTail

/- A character may come first at which no place begins. -/
theorem Outside.cons
    {old rest : List Char}
    {c : Char}
    (hNew : ¬ c :: rest <+: old)
    (hOld : ¬ old <+: c :: rest)
    (h : Outside old rest) :
    Outside old (c :: rest) := by
  intro tail hTail hNonempty
  rw [List.tails_cons, List.mem_cons] at hTail
  rcases hTail with rfl | hBehind
  · exact ⟨hNew, hOld⟩
  · exact h tail hBehind hNonempty

/- No place begins where its first character does not stand. -/
theorem outside_of_not_mem
    {first : Char}
    {others text : List Char}
    (h : first ∉ text) :
    Outside (first :: others) text := by
  intro tail hTail hNonempty
  rw [List.mem_tails] at hTail
  cases tail with
  | nil => exact absurd rfl hNonempty
  | cons c rest =>
      have hMem : c ∈ text := hTail.mem List.mem_cons_self
      constructor
      · intro hPrefix
        rw [List.cons_prefix_cons] at hPrefix
        exact h (hPrefix.1 ▸ hMem)
      · intro hPrefix
        rw [List.cons_prefix_cons] at hPrefix
        exact h (hPrefix.1 ▸ hMem)

/- A part in which no place begins is kept. -/
theorem Outside.becomes
    {part : String}
    (h : Outside old.toList part.toList) :
    Becomes old new part part := by
  intro rest
  have hChars (cs : List Char)
      (hOutside : Outside old.toList cs) :
      replaced old new (String.ofList (cs ++ rest.toList)) =
        String.ofList cs ++ replaced old new rest := by
    induction cs with
    | nil => simp
    | cons c cs ih =>
        have hNone :
            ¬ old.toList <+: c :: (cs ++ rest.toList) := by
          intro hPlace
          have hPart :
              c :: cs <+: c :: (cs ++ rest.toList) :=
            List.prefix_append (c :: cs) rest.toList
          have hApart :=
            hOutside (c :: cs)
              ((List.mem_tails ..).mpr List.suffix_rfl)
              (by simp)
          rcases List.prefix_or_prefix_of_prefix hPlace hPart
            with hOld | hNew
          · exact hApart.2 hOld
          · exact hApart.1 hNew
        rw [List.cons_append,
          replaced_cons_of_not_prefix hNone,
          ih hOutside.tail, ofList_cons, String.append_assoc]
  have hPart := hChars part.toList h
  rwa [← String.toList_append, String.ofList_toList,
    String.ofList_toList] at hPart

end Text

end BarRules
