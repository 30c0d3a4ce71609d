import BarRules.Text.Blank

/-
  Stretches of characters of one class.

  Key theorems include:
    * `BarRules.Text.takeWhile_append_of_stop`
    * `BarRules.Text.dropWhile_append_of_stop`
    * `BarRules.Text.isBlank_eq_false_of_isDigit`

  Text is read by taking characters of a class as long as they
  come.  A stretch of the class is taken as a whole if what
  comes after it does not belong to the class.
-/

------------------------------------------------------------
-- Where a Stretch Ends
------------------------------------------------------------

namespace BarRules

namespace Text

variable {p : Char → Bool}
variable {front back : List Char}

/- A stretch ends where the next character is not in it. -/
theorem takeWhile_append_of_stop
    (hFront : ∀ c ∈ front, p c = true)
    (hStop : ∀ c, back.head? = some c → p c = false) :
    (front ++ back).takeWhile p = front := by
  rw [List.takeWhile_append_of_pos hFront]
  cases back with
  | nil => simp
  | cons c back =>
      rw [List.takeWhile_cons_of_neg (by simp [hStop c rfl]),
        List.append_nil]

/- What follows a stretch is kept. -/
theorem dropWhile_append_of_stop
    (hFront : ∀ c ∈ front, p c = true)
    (hStop : ∀ c, back.head? = some c → p c = false) :
    (front ++ back).dropWhile p = back := by
  rw [List.dropWhile_append_of_pos hFront]
  cases back with
  | nil => rfl
  | cons c back =>
      rw [List.dropWhile_cons_of_neg (by simp [hStop c rfl])]

/- The first character after a stretch and another text. -/
theorem mem_or_eq_of_head?
    {c d : Char}
    (h : (front ++ c :: back).head? = some d) :
    d ∈ front ∨ d = c := by
  cases front with
  | nil => exact Or.inr (by simpa using h.symm)
  | cons first front => exact Or.inl (by simp_all)

end Text

end BarRules

------------------------------------------------------------
-- Digits and Blanks
------------------------------------------------------------

namespace BarRules

namespace Text

/- Behind the space, no ASCII character is blank. -/
theorem isBlank_eq_false_of_toNat
    {c : Char}
    (hFirst : 0x21 ≤ c.toNat)
    (hLast : c.toNat ≤ 0x7F) :
    isBlank c = false := by
  simp only [isBlank, inRanges, blankRanges, covers,
    Bool.if_false_left, Bool.or_false, Bool.or_eq_false_iff,
    Bool.and_eq_false_imp, Bool.not_eq_eq_eq_not,
    Bool.not_true, decide_eq_false_iff_not, Nat.not_lt,
    Nat.not_le]
  omega

/- A digit is not blank. -/
theorem isBlank_eq_false_of_isDigit
    {c : Char}
    (h : c.isDigit = true) :
    isBlank c = false := by
  have hRange := Char.isDigit_iff_toNat.mp h
  simp only [Char.reduceToNat] at hRange
  exact isBlank_eq_false_of_toNat (by omega) (by omega)

/- A blank is not a digit. -/
theorem isDigit_eq_false_of_isBlank
    {c : Char}
    (h : isBlank c = true) :
    c.isDigit = false := by
  cases hDigit : c.isDigit with
  | false => rfl
  | true =>
      rw [isBlank_eq_false_of_isDigit hDigit] at h
      cases h

end Text

end BarRules
