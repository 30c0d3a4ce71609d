/-
  Character classes as lists of code point ranges.

  Key definitions include:
    * `BarRules.Text.covers`
    * `BarRules.Text.inRanges`

  A class of characters is given by an ascending list of
  disjoint closed ranges.  The order lets a search stop at the
  first range that starts above the code point it looks for.
-/

------------------------------------------------------------
-- Membership
------------------------------------------------------------

namespace BarRules

namespace Text

/- A code point lies in an ascending list of closed ranges. -/
def covers :
    List (Nat × Nat) → Nat → Bool
  | [], _ => false
  | (first, last) :: rest, n =>
      if n < first then
        false
      else
        n ≤ last || covers rest n

/- A character belongs to the class given by the ranges. -/
def inRanges
    (ranges : List (Nat × Nat))
    (c : Char) :
    Bool :=
  covers ranges c.toNat

end Text

end BarRules
