import BarRules.Expr
import BarRules.Grammar.Cause

/-
  Reading the kinds of tokens.

  Key definitions include:
    * `BarRules.Grammar.Fault`
    * `BarRules.Grammar.Fault.position`
    * `BarRules.Grammar.Taken`
    * `BarRules.Grammar.Reader`
    * `BarRules.Grammar.sum`
    * `BarRules.Grammar.operand`
    * `BarRules.Grammar.read`

  Key theorems include:
    * `BarRules.Grammar.chain_of_stops`
    * `BarRules.Grammar.chain_eq_of_operator`

  These readers know neither the rule nor where its tokens
  stand.  A fault knows its place as the number of tokens that
  are left from the blamed one on.  Statements about what the
  grammar accepts are proven of these readers, which the
  readers of a rule follow.
-/

------------------------------------------------------------
-- Places
------------------------------------------------------------

namespace BarRules

namespace Grammar

/-
  A cause, and how many tokens are left from the blamed one
  on; none are left when the end of the rule is blamed.
-/
structure Fault where
  cause : Cause
  left : Nat
  deriving DecidableEq

namespace Fault

/-
  The byte position of a fault in tokens of a rule that ends
  at byte `stop`.  An empty rule is blamed on its start.
-/
def position
    (fault : Fault)
    (tokens : List Token)
    (stop : Nat) :
    Nat :=
  if fault.cause = .emptyRule then
    0
  else
    match tokens.drop (tokens.length - fault.left) with
    | [] => stop
    | token :: _ => token.position

/-
  A fault is blamed on the token from which on so many tokens
  are left, or on the end if there is no such token.
-/
theorem position_eq_getD
    {fault : Fault}
    (hCause : fault.cause ≠ .emptyRule)
    (tokens : List Token)
    (stop : Nat) :
    fault.position tokens stop =
      (tokens[tokens.length - fault.left]?.map
        Token.position).getD stop := by
  unfold position
  rw [if_neg hCause, ← List.head?_drop]
  cases tokens.drop (tokens.length - fault.left) <;> rfl

end Fault

end Grammar

end BarRules

------------------------------------------------------------
-- Readers
------------------------------------------------------------

namespace BarRules

namespace Grammar

/- An expression taken off the front of tokens. -/
structure Taken (tokens : List TokenKind) where
  expr : Expr
  rest : List TokenKind
  shorter : rest.length < tokens.length

/- A reader takes an expression off the front of tokens. -/
abbrev Reader :=
  (tokens : List TokenKind) → Except Fault (Taken tokens)

namespace Taken

/-
  Join what is taken to one more operand, which was read right
  after an operator.
-/
def join
    {tokens after : List TokenKind}
    (op : Arithmetic)
    (left : Taken tokens)
    (h : left.rest = .operator (.arith op) :: after)
    (right : Taken after) :
    Taken tokens where
  expr := .binary (.arith op) left.expr right.expr
  rest := right.rest
  shorter := by
    have hLeft := left.shorter
    have hRight := right.shorter
    simp only [h, List.length_cons] at hLeft
    omega

end Taken

/-
  Go on with a chain of operands while a chosen operator
  follows.
-/
def chain
    (joins : Arithmetic → Bool)
    (operand : Reader)
    {tokens : List TokenKind}
    (left : Taken tokens) :
    Except Fault (Taken tokens) :=
  match h : left.rest with
  | .operator (.arith op) :: after =>
      if joins op then
        match operand after with
        | .error fault => .error fault
        | .ok right => chain joins operand (left.join op h right)
      else
        .ok left
  | _ => .ok left
termination_by left.rest.length
decreasing_by
  have := right.shorter
  simp only [Taken.join, h, List.length_cons]
  omega

/- Operands joined by chosen operators, grouped to the left. -/
def leftGrouped
    (joins : Arithmetic → Bool)
    (operand : Reader) :
    Reader :=
  fun tokens =>
    match operand tokens with
    | .error fault => .error fault
    | .ok first => chain joins operand first

/- Products of operands, joined by `+` and `-`. -/
def sum (operand : Reader) : Reader :=
  leftGrouped Arithmetic.isSum
    (leftGrouped Arithmetic.isProduct operand)

end Grammar

end BarRules

------------------------------------------------------------
-- Operands
------------------------------------------------------------

namespace BarRules

namespace Grammar

/- The closing parenthesis after a sum in parentheses. -/
def close
    {tokens : List TokenKind}
    (inner : Taken tokens) :
    Except Fault (Taken (.openParen :: tokens)) :=
  match h : inner.rest with
  | .closeParen :: after =>
      .ok
        { expr := inner.expr
          rest := after
          shorter := by
            have := inner.shorter
            simp only [h, List.length_cons] at this ⊢
            omega }
  | .operator (.compare op) :: after =>
      .error ⟨.comparisonInParens op, after.length + 1⟩
  | found :: after =>
      .error ⟨.closeExpected found, after.length + 1⟩
  | [] => .error ⟨.unclosedParen, tokens.length + 1⟩

/-
  A bar price, or a sum in parentheses, with so many more
  levels of parentheses allowed.
-/
def operand : Nat → Reader
  | _, [] => .error ⟨.operandExpected none, 0⟩
  | _, .price field :: .offset bars :: rest =>
      .ok
        { expr := .barPrice ⟨field, bars⟩
          rest := rest
          shorter := by
            simp only [List.length_cons]
            omega }
  | _, .price field :: rest =>
      .error ⟨.offsetExpected field rest.head?, rest.length⟩
  | 0, .openParen :: rest =>
      .error ⟨.tooManyParens, rest.length + 1⟩
  | depth + 1, .openParen :: rest =>
      if rest.head? = some .closeParen then
        .error ⟨.emptyParens, rest.length⟩
      else
        match sum (operand depth) rest with
        | .error fault => .error fault
        | .ok inner => close inner
  | _, found :: rest =>
      .error ⟨.operandExpected (some found), rest.length + 1⟩

end Grammar

end BarRules

------------------------------------------------------------
-- Rules
------------------------------------------------------------

namespace BarRules

namespace Grammar

/-
  How many tokens are left from the first arithmetic operator
  beyond a number of them, if there is one.
-/
def excess : Nat → List TokenKind → Option Nat
  | _, [] => none
  | 0, .operator (.arith _) :: rest =>
      some (rest.length + 1)
  | budget + 1, .operator (.arith _) :: rest =>
      excess budget rest
  | budget, _ :: rest => excess budget rest

/- One side of the comparison of a rule. -/
def side : Reader :=
  sum (operand depthLimit)

/- The end of a rule after its comparison. -/
def finish
    (op : Comparison)
    (left right : Expr) :
    List TokenKind → Except Fault Expr
  | [] => .ok (.binary (.compare op) left right)
  | .operator (.compare second) :: after =>
      .error ⟨.secondComparison op second, after.length + 1⟩
  | .closeParen :: after =>
      .error ⟨.strayClose, after.length + 1⟩
  | found :: after =>
      .error ⟨.trailing found, after.length + 1⟩

/- The comparison of a rule and its right side. -/
def compared
    (left : Expr) :
    List TokenKind → Except Fault Expr
  | .operator (.compare op) :: after =>
      match side after with
      | .error fault => .error fault
      | .ok right => finish op left right.expr right.rest
  | .closeParen :: after =>
      .error ⟨.strayClose, after.length + 1⟩
  | found :: after =>
      .error ⟨.comparisonExpected found, after.length + 1⟩
  | [] => .error ⟨.noComparison, 0⟩

/- The rule that the tokens make up. -/
def read (tokens : List TokenKind) : Except Fault Expr :=
  if tokens = [] then
    .error ⟨.emptyRule, 0⟩
  else
    match excess depthLimit tokens with
    | some left => .error ⟨.tooManyOperators, left⟩
    | none =>
        match side tokens with
        | .error fault => .error fault
        | .ok left => compared left.expr left.rest

end Grammar

end BarRules

------------------------------------------------------------
-- Steps of Chains
------------------------------------------------------------

namespace BarRules

namespace Grammar

variable {joins : Arithmetic → Bool}
variable {reader : Reader}
variable {tokens : List TokenKind}

/- The rest does not go on with an operator of the chain. -/
def Stops
    (joins : Arithmetic → Bool)
    (rest : List TokenKind) :
    Prop :=
  ∀ op after,
    rest = .operator (.arith op) :: after →
      joins op = false

/- A chain ends where none of its operators follows. -/
theorem chain_of_stops
    {left : Taken tokens}
    (hStops : Stops joins left.rest) :
    chain joins reader left = .ok left := by
  rw [chain]
  split
  · rename_i op after hRest
    rw [hStops op after hRest]
    simp
  · rfl

/- A chain asks for one more operand after its operator. -/
theorem chain_eq_of_operator
    {left : Taken tokens}
    {op : Arithmetic}
    {after : List TokenKind}
    (hRest : left.rest = .operator (.arith op) :: after)
    (hJoins : joins op = true) :
    chain joins reader left =
      match reader after with
      | .error fault => .error fault
      | .ok right =>
          chain joins reader (left.join op hRest right) := by
  rw [chain]
  split
  · rename_i op' after' hRest'
    rw [hRest] at hRest'
    cases hRest'
    rw [if_pos hJoins]
  · rename_i hOther
    exact absurd hRest (hOther op after)

/- A chain takes the operand that it asks for. -/
theorem chain_of_operator
    {left : Taken tokens}
    {op : Arithmetic}
    {after : List TokenKind}
    {right : Taken after}
    (hRest : left.rest = .operator (.arith op) :: after)
    (hJoins : joins op = true)
    (hRight : reader after = .ok right) :
    chain joins reader left =
      chain joins reader (left.join op hRest right) := by
  rw [chain_eq_of_operator hRest hJoins, hRight]

end Grammar

end BarRules

------------------------------------------------------------
-- Tokens and Their Kinds
------------------------------------------------------------

namespace BarRules

namespace Grammar

/- The token of the first kind, and the tokens after it. -/
theorem exists_of_map_kind_cons
    {tokens : List Token}
    {kind : TokenKind}
    {kinds : List TokenKind}
    (h : tokens.map Token.kind = kind :: kinds) :
    ∃ position rest,
      tokens = ⟨kind, position⟩ :: rest ∧
        rest.map Token.kind = kinds := by
  rcases List.map_eq_cons_iff.mp h with
    ⟨⟨_, position⟩, rest, hTokens, hKind, hRest⟩
  subst hKind
  exact ⟨position, rest, hTokens, hRest⟩

end Grammar

end BarRules
