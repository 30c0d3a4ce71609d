/-
  The operators of rules.

  Key definitions include:
    * `BarRules.Arithmetic`
    * `BarRules.Comparison`
    * `BarRules.Operator`
    * `BarRules.Operator.symbol`

  The symbol of an operator is how rules write it.
-/

------------------------------------------------------------
-- Arithmetic and Comparison
------------------------------------------------------------

namespace BarRules

/- The arithmetic of prices. -/
inductive Arithmetic where
  | add
  | subtract
  | multiply
  | divide
  deriving DecidableEq

namespace Arithmetic

/- Every arithmetic operator. -/
def all : List Arithmetic :=
  [.add, .subtract, .multiply, .divide]

/- How an arithmetic operator is written. -/
def symbol : Arithmetic → String
  | .add => "+"
  | .subtract => "-"
  | .multiply => "*"
  | .divide => "/"

/- The operators that bind their operands tighter. -/
def isProduct : Arithmetic → Bool
  | .multiply => true
  | .divide => true
  | _ => false

/- The operators that bind their operands looser. -/
def isSum (op : Arithmetic) : Bool :=
  !op.isProduct

end Arithmetic

/- The comparisons of prices. -/
inductive Comparison where
  | less
  | greater
  | atMost
  | atLeast
  | equal
  | unequal
  deriving DecidableEq

namespace Comparison

/- Every comparison. -/
def all : List Comparison :=
  [.less, .greater, .atMost, .atLeast, .equal, .unequal]

/- How a comparison is written. -/
def symbol : Comparison → String
  | .less => "<"
  | .greater => ">"
  | .atMost => "<="
  | .atLeast => ">="
  | .equal => "=="
  | .unequal => "!="

end Comparison

end BarRules

------------------------------------------------------------
-- Operators
------------------------------------------------------------

namespace BarRules

/- An operator between two expressions. -/
inductive Operator where
  | arith (op : Arithmetic)
  | compare (op : Comparison)
  deriving DecidableEq

namespace Operator

/- How an operator is written. -/
def symbol : Operator → String
  | .arith op => op.symbol
  | .compare op => op.symbol

/- The operator compares its operands. -/
def compares : Operator → Bool
  | .arith _ => false
  | .compare _ => true

end Operator

end BarRules
