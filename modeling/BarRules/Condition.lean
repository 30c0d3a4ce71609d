import BarRules.Expr
import BarRules.Platform
import BarRules.Text.Pieces

/-
  Conditions in the source text of a platform.

  Key definitions include:
    * `BarRules.TargetNames`
    * `BarRules.Platform.spell`
    * `BarRules.Expr.emit`
    * `BarRules.Condition.conjoin`

  Key theorems include:
    * `BarRules.Expr.emit_eq_render`

  A condition is written from the tree of its rule, with the
  words and the signs of a platform.  The signs agree, so the
  platforms differ only in how they spell the price of a bar.
-/

------------------------------------------------------------
-- Spelling of Bar Prices
------------------------------------------------------------

namespace BarRules

/-
  The names that function calls and method chains refer to in
  the surrounding source text.
-/
structure TargetNames where
  symbol : String := "_Symbol"
  period : String := "PERIOD_CURRENT"
  series : String := "Bars"
  deriving DecidableEq

namespace Platform

/-
  The price of a bar as a platform spells it.  In Pine Script
  the price of the current bar needs no offset.
-/
def spell
    (platform : Platform)
    (names : TargetNames)
    (price : BarPrice) :
    String :=
  let word := platform.priceWord price.field
  let offset := Text.Decimal.text price.offset.toNat
  match platform.referenceStyle with
  | .arrayIndex => word ++ "[" ++ offset ++ "]"
  | .functionCall =>
      "i" ++ word ++ "(" ++ names.symbol ++ ", " ++
        names.period ++ ", " ++ offset ++ ")"
  | .bracketOffset =>
      if price.offset = 0 then
        word
      else
        word ++ "[" ++ offset ++ "]"
  | .methodChain =>
      names.series ++ "." ++ word ++ ".Last(" ++ offset ++ ")"

end Platform

end BarRules

------------------------------------------------------------
-- Emission and Combination
------------------------------------------------------------

namespace BarRules

namespace Expr

/- The text of an expression on a platform. -/
def emit
    (platform : Platform)
    (names : TargetNames) :
    Expr → String
  | .barPrice price => platform.spell names price
  | .binary op left right =>
      left.enclose (left.emit platform names) ++
        " " ++ platform.sign op ++ " " ++
        right.enclose (right.emit platform names)

/- Emission differs from a rule in how prices are spelled. -/
theorem emit_eq_render
    (platform : Platform)
    (names : TargetNames)
    (e : Expr) :
    e.emit platform names = e.render (platform.spell names) := by
  induction e with
  | barPrice price => rfl
  | binary op left right ihLeft ihRight =>
      rw [emit, render, ihLeft, ihRight, platform.sign_eq_symbol]

end Expr

namespace Condition

/- The conjunction of a platform between two conditions. -/
def separator (platform : Platform) : String :=
  " " ++ platform.conjunction ++ " "

/-
  One condition that holds when all the given ones hold.  None
  at all make no condition.
-/
def conjoin
    (platform : Platform)
    (conditions : List String) :
    Except Failure String :=
  match conditions with
  | [] => .error .emptyRuleSet
  | _ :: _ =>
      .ok (Text.joinWith (separator platform) conditions)

end Condition

end BarRules
