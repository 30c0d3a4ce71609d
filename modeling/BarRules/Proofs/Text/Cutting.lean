import BarRules.Text.Pieces
import Mathlib.Data.List.Basic

/-
  Joining texts, and cutting text at a character.

  Key theorems include:
    * `BarRules.Text.joinWith_of_between`
    * `BarRules.Text.head?_between`
    * `BarRules.Text.getLast?_between`
    * `BarRules.Text.pieces_of_not_mem`
    * `BarRules.Text.not_mem_of_mem_pieces`
    * `BarRules.Text.pieces_append`
    * `BarRules.Text.pieces_joinWith`
    * `BarRules.Text.pieces_lines`
    * `BarRules.Text.eq_of_last_separator`

  The pieces of a text in two parts with a separator between
  them are the pieces of the parts.
-/

------------------------------------------------------------
-- Joined Texts
------------------------------------------------------------

namespace BarRules

namespace Text

/-
  A property of texts that holds of two with the separator
  between them holds of joined texts.
-/
theorem joinWith_of_between
    {separator : String}
    {P : String → Prop}
    (hBetween :
      ∀ front back,
        P front → P back → P (front ++ separator ++ back))
    {texts : List String}
    (hNonempty : texts ≠ [])
    (hTexts : ∀ text ∈ texts, P text) :
    P (joinWith separator texts) := by
  induction texts with
  | nil => exact absurd rfl hNonempty
  | cons text texts ih =>
      have hText := hTexts text List.mem_cons_self
      cases texts with
      | nil => exact hText
      | cons next texts =>
          have hRest : P (joinWith separator (next :: texts)) := by
            apply ih (by simp)
            intro other hOther
            exact hTexts other (List.mem_cons_of_mem text hOther)
          exact hBetween text _ hText hRest

variable {front back : String}

/- A text in three parts starts as the first one does. -/
theorem head?_between
    (hFront : front ≠ "")
    (middle back : String) :
    (front ++ middle ++ back).toList.head? =
      front.toList.head? := by
  have hChars : front.toList ≠ [] := by simpa using hFront
  rw [String.append_assoc, String.toList_append,
    List.head?_append_of_ne_nil _ hChars]

/- A text in three parts ends as the last one does. -/
theorem getLast?_between
    (front middle : String)
    (hBack : back ≠ "") :
    (front ++ middle ++ back).toList.getLast? =
      back.toList.getLast? := by
  have hChars : back.toList ≠ [] := by simpa using hBack
  rw [String.toList_append,
    List.getLast?_append_of_ne_nil _ hChars]

/- A text in three parts is not empty if the first is not. -/
theorem between_ne_empty
    (hFront : front ≠ "")
    (middle back : String) :
    front ++ middle ++ back ≠ "" := by
  intro hEmpty
  apply hFront
  simp only [String.append_eq_empty_iff] at hEmpty
  exact hEmpty.1.1

end Text

end BarRules

------------------------------------------------------------
-- Pieces
------------------------------------------------------------

namespace BarRules

namespace Text

variable {separator : Char}

/- A text without the separator is its only piece. -/
theorem pieces_of_not_mem
    {s : String}
    (h : separator ∉ s.toList) :
    pieces separator s = [s] := by
  simp [pieces, List.splitOn_eq_singleton h]

/- Parts between the places of a separator do not hold it. -/
theorem not_mem_of_mem_splitOn
    {cs part : List Char}
    (h : part ∈ cs.splitOn separator) :
    separator ∉ part := by
  induction cs generalizing part with
  | nil =>
      rw [List.splitOn_nil, List.mem_singleton] at h
      rw [h]
      exact List.not_mem_nil
  | cons c cs ih =>
      rw [List.splitOn_cons_eq_if_modifyHead] at h
      split at h
      · rcases List.mem_cons.mp h with rfl | hRest
        · exact List.not_mem_nil
        · exact ih hRest
      · rename_i hOther
        rcases List.exists_cons_of_ne_nil
            (List.splitOn_ne_nil separator cs) with
          ⟨first, rest, hParts⟩
        rw [hParts] at h ih
        rcases List.mem_cons.mp h with rfl | hRest
        · have hFirst := ih List.mem_cons_self
          rw [List.mem_cons, not_or]
          exact ⟨fun hSame => hOther (by simp [hSame]), hFirst⟩
        · exact ih (List.mem_cons_of_mem first hRest)

/- No piece holds the separator. -/
theorem not_mem_of_mem_pieces
    {s piece : String}
    (h : piece ∈ pieces separator s) :
    separator ∉ piece.toList := by
  rcases List.mem_map.mp h with ⟨part, hPart, rfl⟩
  rw [String.toList_ofList]
  exact not_mem_of_mem_splitOn hPart

/- A separator ends one piece and starts another. -/
theorem pieces_append
    {between : String}
    (hBetween : between.toList = [separator])
    (front back : String) :
    pieces separator (front ++ between ++ back) =
      pieces separator front ++ pieces separator back := by
  have hText :
      (front ++ between ++ back).toList =
        front.toList ++ separator :: back.toList := by
    simp [hBetween]
  rw [pieces, hText, List.splitOn_append_cons_self,
    List.map_append]
  rfl

/- Joined texts without the separator are the pieces. -/
theorem pieces_joinWith
    {between : String}
    (hBetween : between.toList = [separator])
    {texts : List String}
    (hNonempty : texts ≠ [])
    (hTexts : ∀ text ∈ texts, separator ∉ text.toList) :
    pieces separator (joinWith between texts) = texts := by
  induction texts with
  | nil => exact absurd rfl hNonempty
  | cons text texts ih =>
      have hText := hTexts text List.mem_cons_self
      cases texts with
      | nil => exact pieces_of_not_mem hText
      | cons next texts =>
          have hRest :
              pieces separator
                  (joinWith between (next :: texts)) =
                next :: texts := by
            apply ih (by simp)
            intro other hOther
            exact
              hTexts other (List.mem_cons_of_mem text hOther)
          have hJoined :
              joinWith between (text :: next :: texts) =
                text ++ between ++
                  joinWith between (next :: texts) := rfl
          rw [hJoined, pieces_append hBetween,
            pieces_of_not_mem hText, hRest,
            List.singleton_append]

/- Lines that are printed in order can be told apart again. -/
theorem pieces_lines
    {lines : List String}
    (h : ∀ line ∈ lines, '\n' ∉ line.toList) :
    pieces '\n' (concat (lines.map (· ++ "\n"))) =
      lines ++ [""] := by
  induction lines with
  | nil => decide
  | cons line lines ih =>
      have hOthers :
          ∀ other ∈ lines, '\n' ∉ other.toList :=
        fun other hMem => h other (List.mem_cons_of_mem line hMem)
      have hFeed : "\n".toList = ['\n'] := rfl
      rw [List.map_cons, concat, pieces_append hFeed,
        pieces_of_not_mem (h line List.mem_cons_self),
        ih hOthers]
      rfl

/- A text is cut in one way only at its last separator. -/
theorem eq_of_last_separator
    {between : String}
    (hBetween : between.toList = [separator])
    {front other back rest : String}
    (hBack : separator ∉ back.toList)
    (hRest : separator ∉ rest.toList)
    (h : front ++ between ++ back = other ++ between ++ rest) :
    front = other ∧ back = rest := by
  have hPieces := congrArg (pieces separator) h
  rw [pieces_append hBetween, pieces_append hBetween,
    pieces_of_not_mem hBack, pieces_of_not_mem hRest]
    at hPieces
  have hLast : back = rest := by
    simpa using (List.append_inj' hPieces rfl).2
  subst hLast
  rw [String.append_assoc, String.append_assoc] at h
  exact ⟨(String.append_left_inj _).mp h, rfl⟩

end Text

end BarRules
