import BarRules.Text.Ranges

/-
  Blank characters and the trimming of text.

  Key definitions include:
    * `BarRules.Text.isBlank`
    * `BarRules.Text.trimChars`
    * `BarRules.Text.trim`

  A character is blank when it has the Unicode property
  White_Space.  The zero-width characters U+180E, U+200B,
  U+2060 and U+FEFF do not have it.
-/

------------------------------------------------------------
-- Blank Characters
------------------------------------------------------------

namespace BarRules

namespace Text

/- The code points with the property White_Space. -/
def blankRanges : List (Nat × Nat) :=
  [ (0x9, 0xD), (0x20, 0x20), (0x85, 0x85), (0xA0, 0xA0),
    (0x1680, 0x1680), (0x2000, 0x200A), (0x2028, 0x2029),
    (0x202F, 0x202F), (0x205F, 0x205F), (0x3000, 0x3000) ]

/- A character of white space. -/
def isBlank (c : Char) : Bool :=
  inRanges blankRanges c

end Text

end BarRules

------------------------------------------------------------
-- Trimming
------------------------------------------------------------

namespace BarRules

namespace Text

/- The characters without the blanks at both ends. -/
def trimChars (cs : List Char) : List Char :=
  ((cs.dropWhile isBlank).reverse.dropWhile isBlank).reverse

/- The text without the blanks at both ends. -/
def trim (s : String) : String :=
  String.ofList (trimChars s.toList)

/- A text that holds blanks only. -/
def isBlankText (s : String) : Bool :=
  trim s == ""

end Text

end BarRules
