import BarRules.Expr
import BarRules.Failure

/-
  Reading the tokens of a rule.

  Key definitions include:
    * `BarRules.Rule.here`
    * `BarRules.Rule.Taken`
    * `BarRules.Rule.Reader`
    * `BarRules.Rule.sum`
    * `BarRules.Rule.operand`
    * `BarRules.Rule.compared`

  A rule is a sum, a comparison and a sum.  A sum joins
  products by `+` and `-`, a product joins operands by `*` and
  `/`, both grouped to the left; an operand is a bar price or a
  sum in parentheses.  Every reader takes at least one token,
  so a chain of operands ends with the tokens.  Operands recur
  on how many more levels of parentheses are allowed.  A reader
  that fails names the rule and the byte position at which it
  stands, or that of the parenthesis that it wants closed.
-/

------------------------------------------------------------
-- Faults in Place
------------------------------------------------------------

namespace BarRules

namespace Rule

/-
  The byte position of the next token, or of the end of the
  rule.
-/
def here (rule : String) (tokens : List Token) : Nat :=
  (tokens.head?.map Token.position).getD
    (Text.byteLength rule.toList)

/- What is wrong with the grammar at a place in a rule. -/
def refusal
    (rule : String)
    (cause : Grammar.Cause)
    (position : Nat) :
    Failure :=
  .grammar cause.kind cause.message rule position

end Rule

end BarRules

------------------------------------------------------------
-- Readers
------------------------------------------------------------

namespace BarRules

namespace Rule

/- An expression taken off the front of tokens. -/
structure Taken (tokens : List Token) where
  expr : Expr
  rest : List Token
  shorter : rest.length < tokens.length

/- A reader takes an expression off the front of tokens. -/
abbrev Reader :=
  (tokens : List Token) → Except Failure (Taken tokens)

namespace Taken

/-
  Join what is taken to one more operand, which was read right
  after an operator.
-/
def join
    {tokens after : List Token}
    {position : Nat}
    (op : Arithmetic)
    (left : Taken tokens)
    (h : left.rest = ⟨.operator (.arith op), position⟩ :: after)
    (right : Taken after) :
    Taken tokens where
  expr := .binary (.arith op) left.expr right.expr
  rest := right.rest
  shorter := by
    have hLeft := left.shorter
    have hRight := right.shorter
    simp only [h, List.length_cons] at hLeft
    omega

end Taken

/-
  Go on with a chain of operands while a chosen operator
  follows.
-/
def chain
    (joins : Arithmetic → Bool)
    (operand : Reader)
    {tokens : List Token}
    (left : Taken tokens) :
    Except Failure (Taken tokens) :=
  match h : left.rest with
  | ⟨.operator (.arith op), _⟩ :: after =>
      if joins op then
        match operand after with
        | .error failure => .error failure
        | .ok right => chain joins operand (left.join op h right)
      else
        .ok left
  | _ => .ok left
termination_by left.rest.length
decreasing_by
  have := right.shorter
  simp only [Taken.join, h, List.length_cons]
  omega

/- Operands joined by chosen operators, grouped to the left. -/
def leftGrouped
    (joins : Arithmetic → Bool)
    (operand : Reader) :
    Reader :=
  fun tokens =>
    match operand tokens with
    | .error failure => .error failure
    | .ok first => chain joins operand first

/- Products of operands, joined by `+` and `-`. -/
def sum (operand : Reader) : Reader :=
  leftGrouped Arithmetic.isSum
    (leftGrouped Arithmetic.isProduct operand)

end Rule

end BarRules

------------------------------------------------------------
-- Operands
------------------------------------------------------------

namespace BarRules

namespace Rule

/-
  The closing parenthesis after a sum in parentheses.  If the
  rule ends, the opening parenthesis is blamed.
-/
def close
    (rule : String)
    (opened : Token)
    {tokens : List Token}
    (inner : Taken tokens) :
    Except Failure (Taken (opened :: tokens)) :=
  match h : inner.rest with
  | ⟨.closeParen, _⟩ :: after =>
      .ok
        { expr := inner.expr
          rest := after
          shorter := by
            have := inner.shorter
            simp only [h, List.length_cons] at this ⊢
            omega }
  | ⟨.operator (.compare op), _⟩ :: _ =>
      .error
        (refusal rule (.comparisonInParens op)
          (here rule inner.rest))
  | found :: _ =>
      .error
        (refusal rule (.closeExpected found.kind)
          (here rule inner.rest))
  | [] =>
      .error (refusal rule .unclosedParen opened.position)

/-
  A bar price, or a sum in parentheses, with so many more
  levels of parentheses allowed.
-/
def operand (rule : String) : Nat → Reader
  | _, [] =>
      .error
        (refusal rule (.operandExpected none) (here rule []))
  | _, ⟨.price field, _⟩ :: ⟨.offset bars, _⟩ :: rest =>
      .ok
        { expr := .barPrice ⟨field, bars⟩
          rest := rest
          shorter := by
            simp only [List.length_cons]
            omega }
  | _, ⟨.price field, _⟩ :: rest =>
      .error
        (refusal rule
          (.offsetExpected field (rest.head?.map Token.kind))
          (here rule rest))
  | 0, ⟨.openParen, position⟩ :: _ =>
      .error (refusal rule .tooManyParens position)
  | depth + 1, ⟨.openParen, position⟩ :: rest =>
      if rest.head?.map Token.kind = some .closeParen then
        .error (refusal rule .emptyParens (here rule rest))
      else
        match sum (operand rule depth) rest with
        | .error failure => .error failure
        | .ok inner => close rule ⟨.openParen, position⟩ inner
  | _, found :: _ =>
      .error
        (refusal rule (.operandExpected (some found.kind))
          found.position)

end Rule

end BarRules

------------------------------------------------------------
-- Sides and Comparisons
------------------------------------------------------------

namespace BarRules

namespace Rule

/- The first arithmetic operator beyond a number of them. -/
def excess : Nat → List Token → Option Token
  | _, [] => none
  | 0, ⟨.operator (.arith op), position⟩ :: _ =>
      some ⟨.operator (.arith op), position⟩
  | budget + 1, ⟨.operator (.arith _), _⟩ :: rest =>
      excess budget rest
  | budget, _ :: rest => excess budget rest

/- One side of the comparison of a rule. -/
def side (rule : String) : Reader :=
  sum (operand rule Grammar.depthLimit)

/- The end of a rule after its comparison. -/
def finish
    (rule : String)
    (op : Comparison)
    (left right : Expr)
    (rest : List Token) :
    Except Failure Expr :=
  match rest with
  | [] => .ok (.binary (.compare op) left right)
  | ⟨.operator (.compare second), _⟩ :: _ =>
      .error
        (refusal rule (.secondComparison op second)
          (here rule rest))
  | ⟨.closeParen, _⟩ :: _ =>
      .error (refusal rule .strayClose (here rule rest))
  | found :: _ =>
      .error
        (refusal rule (.trailing found.kind) (here rule rest))

/- The comparison of a rule and its right side. -/
def compared
    (rule : String)
    (left : Expr)
    (rest : List Token) :
    Except Failure Expr :=
  match rest with
  | ⟨.operator (.compare op), _⟩ :: after =>
      match side rule after with
      | .error failure => .error failure
      | .ok right =>
          finish rule op left right.expr right.rest
  | ⟨.closeParen, _⟩ :: _ =>
      .error (refusal rule .strayClose (here rule rest))
  | found :: _ =>
      .error
        (refusal rule (.comparisonExpected found.kind)
          (here rule rest))
  | [] => .error (refusal rule .noComparison (here rule rest))

end Rule

end BarRules
