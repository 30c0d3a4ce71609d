import BarRules.Operator
import BarRules.Price

/-
  Expressions over bar prices.

  Key definitions include:
    * `BarRules.Expr`
    * `BarRules.Expr.compares`
    * `BarRules.Expr.prices`
    * `BarRules.Expr.lookback`
    * `BarRules.Expr.render`
    * `BarRules.Expr.canonical`

  The tree of an expression fixes its grouping.  `render` writes
  the tree with every compound operand in parentheses, so its
  text keeps the grouping under any rules of precedence, and
  leaves open how a bar price is spelled.  The canonical text
  spells bar prices as rules do.
-/

------------------------------------------------------------
-- Trees
------------------------------------------------------------

namespace BarRules

/- A bar price, or an operator between two expressions. -/
inductive Expr where
  | barPrice (price : BarPrice)
  | binary
      (op : Operator)
      (left right : Expr)
  deriving DecidableEq

namespace Expr

/- The outermost operator is a comparison. -/
def compares : Expr → Bool
  | .barPrice _ => false
  | .binary op _ _ => op.compares

/- The bar prices of an expression from left to right. -/
def prices : Expr → List BarPrice
  | .barPrice price => [price]
  | .binary _ left right => left.prices ++ right.prices

/- How many bars of history an expression needs. -/
def lookback : Expr → UInt64
  | .barPrice price => price.offset
  | .binary _ left right =>
      max left.lookback right.lookback

end Expr

end BarRules

------------------------------------------------------------
-- Written Form
------------------------------------------------------------

namespace BarRules

namespace Expr

/-
  The text of an operand: a compound expression stands in
  parentheses, a bar price does not.
-/
def enclose
    (operand : Expr)
    (text : String) :
    String :=
  match operand with
  | .barPrice _ => text
  | .binary _ _ _ => "(" ++ text ++ ")"

/- The text of an expression, given a spelling of bar prices. -/
def render
    (spell : BarPrice → String) :
    Expr → String
  | .barPrice price => spell price
  | .binary op left right =>
      left.enclose (left.render spell) ++
        " " ++ op.symbol ++ " " ++
        right.enclose (right.render spell)

/- The text of an expression as a rule. -/
def canonical (e : Expr) : String :=
  e.render BarPrice.text

end Expr

end BarRules
