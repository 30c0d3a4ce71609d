/-
  Byte positions in text.

  Key definitions include:
    * `BarRules.Text.byteLength`
    * `BarRules.Text.charsBefore?`

  A position in a text is a number of bytes of its UTF-8 form.
  It is a character boundary when the characters before it fill
  exactly that many bytes.
-/

------------------------------------------------------------
-- Lengths and Boundaries
------------------------------------------------------------

namespace BarRules

namespace Text

/- The number of bytes that the characters fill in UTF-8. -/
def byteLength : List Char → Nat
  | [] => 0
  | c :: cs => c.utf8Size + byteLength cs

/-
  The characters before a byte position, if the position is a
  character boundary of the text or its end.
-/
def charsBefore? :
    List Char → Nat → Option (List Char)
  | _, 0 => some []
  | [], _ + 1 => none
  | c :: cs, n + 1 =>
      if c.utf8Size ≤ n + 1 then
        (charsBefore? cs (n + 1 - c.utf8Size)).map (c :: ·)
      else
        none

/- Lengths add up under concatenation. -/
theorem byteLength_append
    (cs ds : List Char) :
    byteLength (cs ++ ds) =
      byteLength cs + byteLength ds := by
  induction cs with
  | nil => simp [byteLength]
  | cons c cs ih => simp [byteLength, ih, Nat.add_assoc]

end Text

end BarRules
