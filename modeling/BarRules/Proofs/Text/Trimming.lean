import BarRules.Proofs.Text.Cutting
import BarRules.Proofs.Text.Stretches
import Mathlib.Data.List.TakeWhile

/-
  Text without blanks at its ends.

  Key theorems include:
    * `BarRules.Text.trimChars_eq_self_iff`
    * `BarRules.Text.trim_eq_self_iff`
    * `BarRules.Text.trim_trim`
    * `BarRules.Text.trimChars_cons`
    * `BarRules.Text.trimChars_concat`
    * `BarRules.Text.exists_blanks_around`
    * `BarRules.Text.mem_of_mem_trim`
    * `BarRules.Text.trim_pieces_joinWith`

  Trimming leaves a text alone if its first and last characters
  are not blank, and takes away blanks that are put around it.
-/

------------------------------------------------------------
-- Ends of a Text
------------------------------------------------------------

namespace BarRules

namespace Text

variable {cs : List Char}
variable {c : Char}

/- What is left after dropping blanks starts with none. -/
theorem isBlank_of_head?_dropWhile
    (h : (cs.dropWhile isBlank).head? = some c) :
    isBlank c = false := by
  have hFirst := List.head?_dropWhile_not isBlank cs
  rw [h] at hFirst
  exact hFirst

/- A text that starts with no blank keeps its start. -/
theorem dropWhile_isBlank_eq_self
    (h : ∀ c ∈ cs.head?, isBlank c = false) :
    cs.dropWhile isBlank = cs := by
  cases cs with
  | nil => rfl
  | cons c rest =>
      rw [List.dropWhile_cons_of_neg]
      simp [h c rfl]

/- Trimming leaves text alone that has no blank at its ends. -/
theorem trimChars_eq_self_iff :
    trimChars cs = cs ↔
      (∀ c ∈ cs.head?, isBlank c = false) ∧
        ∀ c ∈ cs.getLast?, isBlank c = false := by
  constructor
  · intro h
    have hBack :
        cs.reverse =
          (cs.dropWhile isBlank).reverse.dropWhile isBlank := by
      rw [← List.reverse_reverse
        (List.dropWhile isBlank _)]
      exact congrArg List.reverse h.symm
    have hShort : cs.length ≤ (cs.dropWhile isBlank).length := by
      calc
        cs.length = cs.reverse.length := by simp
        _ ≤ (cs.dropWhile isBlank).reverse.length := by
          rw [hBack]
          exact (List.dropWhile_sublist isBlank).length_le
        _ = (cs.dropWhile isBlank).length := by simp
    have hFront : cs.dropWhile isBlank = cs :=
      (List.dropWhile_sublist isBlank).eq_of_length_le hShort
    constructor
    · intro c hFirst
      rw [← hFront] at hFirst
      exact isBlank_of_head?_dropWhile hFirst
    · intro c hLast
      rw [← List.head?_reverse, hBack] at hLast
      exact isBlank_of_head?_dropWhile hLast
  · rintro ⟨hFirst, hLast⟩
    rw [trimChars, dropWhile_isBlank_eq_self hFirst,
      dropWhile_isBlank_eq_self, List.reverse_reverse]
    rwa [List.head?_reverse]

/- A blank in front is trimmed away. -/
theorem trimChars_cons
    (hBlank : isBlank c = true)
    (cs : List Char) :
    trimChars (c :: cs) = trimChars cs := by
  rw [trimChars, List.dropWhile_cons_of_pos hBlank, trimChars]

/- A blank at the end is trimmed away. -/
theorem trimChars_concat
    (hBlank : isBlank c = true)
    (cs : List Char) :
    trimChars (cs ++ [c]) = trimChars cs := by
  rw [trimChars, trimChars, List.dropWhile_append]
  split
  · rename_i hNone
    rw [List.isEmpty_iff.mp hNone,
      List.dropWhile_cons_of_pos hBlank]
    rfl
  · rw [List.reverse_append, List.reverse_singleton,
      List.singleton_append, List.dropWhile_cons_of_pos hBlank]

/- So are any blanks in front. -/
theorem trimChars_blanks_append
    {blanks : List Char}
    (hBlanks : ∀ c ∈ blanks, isBlank c = true)
    (cs : List Char) :
    trimChars (blanks ++ cs) = trimChars cs := by
  rw [trimChars, List.dropWhile_append_of_pos hBlanks,
    trimChars]

/- So are any blanks at the end. -/
theorem trimChars_append_blanks
    {blanks : List Char}
    (hBlanks : ∀ c ∈ blanks, isBlank c = true)
    (cs : List Char) :
    trimChars (cs ++ blanks) = trimChars cs := by
  induction blanks generalizing cs with
  | nil => rw [List.append_nil]
  | cons c blanks ih =>
      have hFirst := hBlanks c List.mem_cons_self
      have hOthers : ∀ d ∈ blanks, isBlank d = true :=
        fun d hMem => hBlanks d (List.mem_cons_of_mem c hMem)
      rw [List.append_cons, ih hOthers,
        trimChars_concat hFirst]

/- Text is what trimming leaves, with blanks around it. -/
theorem exists_blanks_around (cs : List Char) :
    ∃ lead trail,
      (∀ c ∈ lead, isBlank c = true) ∧
        (∀ c ∈ trail, isBlank c = true) ∧
        cs = lead ++ (trimChars cs ++ trail) := by
  refine
    ⟨cs.takeWhile isBlank,
      ((cs.dropWhile isBlank).reverse.takeWhile
        isBlank).reverse, ?_, ?_, ?_⟩
  · intro c hMem
    exact List.mem_takeWhile_imp hMem
  · intro c hMem
    exact List.mem_takeWhile_imp (List.mem_reverse.mp hMem)
  · rw [trimChars, ← List.reverse_append,
      List.takeWhile_append_dropWhile, List.reverse_reverse,
      List.takeWhile_append_dropWhile]

/- Trimming takes characters away and adds none. -/
theorem mem_of_mem_trimChars (h : c ∈ trimChars cs) : c ∈ cs := by
  rcases exists_blanks_around cs with ⟨lead, trail, _, _, hText⟩
  rw [hText]
  exact
    List.mem_append_right lead (List.mem_append_left trail h)

/- A trimmed text holds no character that was not there. -/
theorem mem_of_mem_trim
    {s : String}
    (h : c ∈ (trim s).toList) :
    c ∈ s.toList := by
  rw [trim, String.toList_ofList] at h
  exact mem_of_mem_trimChars h

/- Trimmed text is made of trimmed characters. -/
theorem trim_eq_self_iff_trimChars
    {s : String} :
    trim s = s ↔ trimChars s.toList = s.toList := by
  constructor
  · intro h
    have hChars := congrArg String.toList h
    rwa [trim, String.toList_ofList] at hChars
  · intro h
    rw [trim, h, String.ofList_toList]

/- Text is left alone if there is no blank at its ends. -/
theorem trim_eq_self_iff
    {s : String} :
    trim s = s ↔
      (∀ c ∈ s.toList.head?, isBlank c = false) ∧
        ∀ c ∈ s.toList.getLast?, isBlank c = false :=
  trim_eq_self_iff_trimChars.trans trimChars_eq_self_iff

/- Characters without any blank are left alone. -/
theorem trimChars_eq_self_of_forall
    (h : ∀ c ∈ cs, isBlank c = false) :
    trimChars cs = cs := by
  apply trimChars_eq_self_iff.mpr
  constructor
  · intro c hFirst
    exact h c (List.mem_of_head? hFirst)
  · intro c hLast
    exact h c (List.mem_of_getLast? hLast)

/- Text without any blank is left alone. -/
theorem trim_eq_self_of_forall
    {s : String}
    (h : ∀ c ∈ s.toList, isBlank c = false) :
    trim s = s :=
  trim_eq_self_iff_trimChars.mpr
    (trimChars_eq_self_of_forall h)

/- Trimmed text has no blank at its ends. -/
theorem trim_trim (s : String) :
    trim (trim s) = trim s := by
  have hPrefix :
      trimChars s.toList <+: s.toList.dropWhile isBlank := by
    rw [← List.reverse_suffix, trimChars, List.reverse_reverse]
    exact List.dropWhile_suffix isBlank
  rw [trim_eq_self_iff, trim, String.toList_ofList]
  constructor
  · intro c hFirst
    rcases hPrefix with ⟨blanks, hBlanks⟩
    apply isBlank_of_head?_dropWhile
    rw [← hBlanks, List.head?_append, hFirst]
    rfl
  · intro c hLast
    rw [trimChars, List.getLast?_reverse] at hLast
    exact isBlank_of_head?_dropWhile hLast

end Text

end BarRules

------------------------------------------------------------
-- Lists of Texts
------------------------------------------------------------

namespace BarRules

namespace Text

/- A space in front changes no piece once it is trimmed. -/
theorem map_trim_pieces_space
    {separator : Char}
    (hSeparator : separator ≠ ' ')
    (s : String) :
    (pieces separator (" " ++ s)).map trim =
      (pieces separator s).map trim := by
  have hBlank : isBlank ' ' = true := by decide
  have hTrim (piece : String) :
      trim (" " ++ piece) = trim piece := by
    rw [trim, trim, String.toList_append]
    exact congrArg String.ofList (trimChars_cons hBlank _)
  have hCut :
      (" " ++ s).toList.splitOn separator =
        (s.toList.splitOn separator).modifyHead (' ' :: ·) := by
    rw [String.toList_append]
    change (' ' :: s.toList).splitOn separator = _
    rw [List.splitOn_cons_eq_if_modifyHead, if_neg]
    simpa using Ne.symm hSeparator
  rw [pieces, pieces, hCut]
  cases s.toList.splitOn separator with
  | nil => rfl
  | cons first rest => simp [hTrim]

/-
  Joined texts are found again between the separators, but for
  the space that stands behind each separator.
-/
theorem trim_pieces_joinWith
    {texts : List String}
    (hNonempty : texts ≠ [])
    (hTexts :
      ∀ text ∈ texts, trim text = text ∧ ',' ∉ text.toList) :
    (pieces ',' (joinWith ", " texts)).map trim = texts := by
  induction texts with
  | nil => exact absurd rfl hNonempty
  | cons text texts ih =>
      rcases hTexts text List.mem_cons_self with
        ⟨hTrimmed, hComma⟩
      cases texts with
      | nil =>
          rw [joinWith, pieces_of_not_mem hComma]
          simp [hTrimmed]
      | cons next texts =>
          have hRest :
              (pieces ','
                  (joinWith ", " (next :: texts))).map trim =
                next :: texts := by
            apply ih (by simp)
            intro other hOther
            exact
              hTexts other (List.mem_cons_of_mem text hOther)
          have hJoined :
              joinWith ", " (text :: next :: texts) =
                text ++ "," ++
                  (" " ++ joinWith ", " (next :: texts)) := by
            have hSeparator : ", " = "," ++ " " := rfl
            simp only [joinWith, hSeparator,
              String.append_assoc]
          rw [hJoined, pieces_append rfl, List.map_append,
            pieces_of_not_mem hComma,
            map_trim_pieces_space (by decide), hRest,
            List.map_singleton, hTrimmed, List.singleton_append]

end Text

end BarRules
