import BarRules.Text.Bytes

/-
  Byte positions at the boundaries of characters.

  Key definitions include:
    * `BarRules.Text.IsBoundary`

  Key theorems include:
    * `BarRules.Text.byteLength_toList`
    * `BarRules.Text.isBoundary_iff_isValid`
    * `BarRules.Text.charsBefore?_eq_some_iff`
    * `BarRules.Text.IsBoundary.behind`

  Text is read a character at a time, while positions count
  bytes.  A position that is reached by passing over whole
  characters is a boundary, also if the text that they are
  passed over in starts somewhere inside a longer one.
-/

------------------------------------------------------------
-- Boundaries
------------------------------------------------------------

namespace BarRules

namespace Text

/-
  A byte position lies between two characters, or at an end, of
  text that starts at a byte.
-/
def IsBoundary
    (start : Nat)
    (cs : List Char)
    (position : Nat) :
    Prop :=
  ∃ before after,
    cs = before ++ after ∧
      position = start + byteLength before

variable {start position : Nat}
variable {front back : List Char}

/- The start of a text is a boundary. -/
theorem isBoundary_start (cs : List Char) :
    IsBoundary start cs start :=
  ⟨[], cs, rfl, rfl⟩

/- A text in two parts has a boundary between them. -/
theorem isBoundary_append (front back : List Char) :
    IsBoundary start (front ++ back)
      (start + byteLength front) :=
  ⟨front, back, rfl, rfl⟩

/- The end of a text is a boundary. -/
theorem isBoundary_end (cs : List Char) :
    IsBoundary start cs (start + byteLength cs) :=
  ⟨cs, [], (List.append_nil cs).symm, rfl⟩

/- What is a boundary stays one when text is put behind. -/
theorem IsBoundary.before
    (h : IsBoundary start front position)
    (back : List Char) :
    IsBoundary start (front ++ back) position := by
  rcases h with ⟨before, after, rfl, hPosition⟩
  exact
    ⟨before, after ++ back, List.append_assoc .., hPosition⟩

/- What is a boundary stays one when text is put in front. -/
theorem IsBoundary.behind
    (h :
      IsBoundary (start + byteLength front) back position) :
    IsBoundary start (front ++ back) position := by
  rcases h with ⟨before, after, rfl, hPosition⟩
  refine
    ⟨front ++ before, after, (List.append_assoc ..).symm, ?_⟩
  rw [hPosition, byteLength_append, Nat.add_assoc]

/- What is a boundary stays one behind another character. -/
theorem IsBoundary.cons
    {c : Char}
    {cs : List Char}
    (h : IsBoundary (start + c.utf8Size) cs position) :
    IsBoundary start (c :: cs) position := by
  have hFirst : byteLength [c] = c.utf8Size := rfl
  rw [← hFirst] at h
  exact h.behind

/- Boundaries are counted from the start of the text. -/
theorem IsBoundary.shift
    {cs : List Char}
    (h : IsBoundary 0 cs position)
    (start : Nat) :
    IsBoundary start cs (start + position) := by
  rcases h with ⟨before, after, hText, hPosition⟩
  exact ⟨before, after, hText, by rw [hPosition, Nat.zero_add]⟩

end Text

end BarRules

------------------------------------------------------------
-- Positions of Strings
------------------------------------------------------------

namespace BarRules

namespace Text

/- The characters of a string fill its bytes. -/
theorem byteLength_eq_utf8ByteSize (cs : List Char) :
    byteLength cs = (String.ofList cs).utf8ByteSize := by
  induction cs with
  | nil => simp [byteLength]
  | cons c cs ih =>
      have hFirst :
          String.ofList (c :: cs) =
            String.singleton c ++ String.ofList cs := by
        simp
      rw [byteLength, ih, hFirst, String.utf8ByteSize_append,
        String.utf8ByteSize_singleton]

/- The bytes of a string are those of its characters. -/
theorem byteLength_toList (s : String) :
    byteLength s.toList = s.utf8ByteSize := by
  rw [byteLength_eq_utf8ByteSize, String.ofList_toList]

/- The boundaries of a string are its valid positions. -/
theorem isBoundary_iff_isValid
    (s : String)
    (position : Nat) :
    IsBoundary 0 s.toList position ↔
      String.Pos.Raw.IsValid s ⟨position⟩ := by
  rw [String.Pos.Raw.isValid_iff_exists_append]
  constructor
  · rintro ⟨before, after, hText, hPosition⟩
    refine ⟨String.ofList before, String.ofList after, ?_, ?_⟩
    · rw [← String.ofList_append, ← hText, String.ofList_toList]
    · ext
      rw [hPosition, Nat.zero_add, byteLength_eq_utf8ByteSize]
      rfl
  · rintro ⟨before, after, rfl, hPosition⟩
    refine
      ⟨before.toList, after.toList, String.toList_append, ?_⟩
    rw [Nat.zero_add, byteLength_toList]
    exact congrArg String.Pos.Raw.byteIdx hPosition

end Text

end BarRules

------------------------------------------------------------
-- Characters Before a Position
------------------------------------------------------------

namespace BarRules

namespace Text

/- The characters before a boundary are found. -/
theorem charsBefore?_append (before after : List Char) :
    charsBefore? (before ++ after) (byteLength before) =
      some before := by
  induction before with
  | nil => simp [byteLength, charsBefore?]
  | cons c before ih =>
      rcases Nat.exists_eq_succ_of_ne_zero
          (Nat.ne_of_gt c.utf8Size_pos) with
        ⟨size, hSize⟩
      have hBytes :
          byteLength (c :: before) =
            size + byteLength before + 1 := by
        rw [byteLength, hSize]
        omega
      have hRest :
          size + byteLength before + 1 - c.utf8Size =
            byteLength before := by
        omega
      rw [hBytes, List.cons_append, charsBefore?,
        if_pos (by omega), hRest, ih, Option.map_some]

/- Characters are found before boundaries only. -/
theorem eq_append_of_charsBefore?
    {cs before : List Char}
    (h : charsBefore? cs position = some before) :
    ∃ after,
      cs = before ++ after ∧ byteLength before = position := by
  fun_induction charsBefore? cs position
      generalizing before with
  | case1 cs =>
      cases h
      exact ⟨cs, rfl, rfl⟩
  | case2 => cases h
  | case3 c cs size hFits ih =>
      rcases Option.map_eq_some_iff.mp h with
        ⟨others, hOthers, rfl⟩
      rcases ih hOthers with ⟨after, rfl, hBytes⟩
      refine ⟨after, rfl, ?_⟩
      rw [byteLength, hBytes]
      omega
  | case4 => cases h

/- What is found before a position ends there. -/
theorem charsBefore?_eq_some_iff
    (cs : List Char)
    (position : Nat)
    (before : List Char) :
    charsBefore? cs position = some before ↔
      ∃ after,
        cs = before ++ after ∧
          byteLength before = position := by
  constructor
  · exact eq_append_of_charsBefore?
  · rintro ⟨after, rfl, rfl⟩
    exact charsBefore?_append before after

end Text

end BarRules
