import BarRules.Expr
import BarRules.Proofs.Grammar.Nesting

/-
  The grammar of rules as derivations.

  Key definitions include:
    * `BarRules.Grammar.Part`
    * `BarRules.Grammar.Derives`
    * `BarRules.Expr.arithmetics`
    * `BarRules.Expr.comparisons`

  Key theorems include:
    * `BarRules.Grammar.Derives.openAfter_eq`
    * `BarRules.Grammar.Derives.countP_isArithmetic`
    * `BarRules.Grammar.Derives.countP_compares`
    * `BarRules.Grammar.Derives.comparisons_eq`

  A rule is a sum, a comparison and a sum.  The repetitions of
  sums and products are grouped to the left, so they are stated
  as recursion on the left operand.  Parentheses leave no trace
  in the expression.
-/

------------------------------------------------------------
-- Derivations
------------------------------------------------------------

namespace BarRules

namespace Grammar

/- What a stretch of tokens can be. -/
inductive Part where
  | operand
  | product
  | sum
  | rule
  deriving DecidableEq

/- Tokens are a part of a rule and stand for an expression. -/
inductive Derives :
    Part → List TokenKind → Expr → Prop where
  | price (field : PriceField) (bars : UInt64) :
      Derives .operand [.price field, .offset bars]
        (.barPrice ⟨field, bars⟩)
  | parens {tokens : List TokenKind} {e : Expr}
      (inner : Derives .sum tokens e) :
      Derives .operand (.openParen :: tokens ++ [.closeParen]) e
  | factor {tokens : List TokenKind} {e : Expr}
      (operand : Derives .operand tokens e) :
      Derives .product tokens e
  | scale {front back : List TokenKind} {l r : Expr}
      (op : Arithmetic)
      (hOp : op ∈ [.multiply, .divide])
      (left : Derives .product front l)
      (right : Derives .operand back r) :
      Derives .product (front ++ .operator (.arith op) :: back)
        (.binary (.arith op) l r)
  | term {tokens : List TokenKind} {e : Expr}
      (product : Derives .product tokens e) :
      Derives .sum tokens e
  | shift {front back : List TokenKind} {l r : Expr}
      (op : Arithmetic)
      (hOp : op ∈ [.add, .subtract])
      (left : Derives .sum front l)
      (right : Derives .product back r) :
      Derives .sum (front ++ .operator (.arith op) :: back)
        (.binary (.arith op) l r)
  | compare {front back : List TokenKind} {l r : Expr}
      (op : Comparison)
      (left : Derives .sum front l)
      (right : Derives .sum back r) :
      Derives .rule (front ++ .operator (.compare op) :: back)
        (.binary (.compare op) l r)

end Grammar

end BarRules

------------------------------------------------------------
-- Counting Operators
------------------------------------------------------------

namespace BarRules

namespace TokenKind

/- The token is an arithmetic operator. -/
def isArithmetic : TokenKind → Bool
  | .operator (.arith _) => true
  | _ => false

/- The token is a comparison. -/
def compares : TokenKind → Bool
  | .operator op => op.compares
  | _ => false

end TokenKind

namespace Expr

/- The number of arithmetic operators in an expression. -/
def arithmetics : Expr → Nat
  | .barPrice _ => 0
  | .binary (.arith _) left right =>
      left.arithmetics + right.arithmetics + 1
  | .binary (.compare _) left right =>
      left.arithmetics + right.arithmetics

/- The number of comparisons in an expression. -/
def comparisons : Expr → Nat
  | .barPrice _ => 0
  | .binary (.arith _) left right =>
      left.comparisons + right.comparisons
  | .binary (.compare _) left right =>
      left.comparisons + right.comparisons + 1

end Expr

namespace Grammar

namespace Derives

variable {part : Part}
variable {tokens : List TokenKind}
variable {e : Expr}

/- Each arithmetic operator of the tokens is in the tree. -/
theorem countP_isArithmetic
    (h : Derives part tokens e) :
    tokens.countP TokenKind.isArithmetic =
      e.arithmetics := by
  induction h with
  | price field bars => rfl
  | parens _ ih =>
      simp [TokenKind.isArithmetic, ih]
  | factor _ ih => exact ih
  | scale op _ _ _ ihLeft ihRight =>
      simp [List.countP_cons, TokenKind.isArithmetic,
        Expr.arithmetics, ihLeft, ihRight, Nat.add_assoc]
  | term _ ih => exact ih
  | shift op _ _ _ ihLeft ihRight =>
      simp [List.countP_cons, TokenKind.isArithmetic,
        Expr.arithmetics, ihLeft, ihRight, Nat.add_assoc]
  | compare op _ _ ihLeft ihRight =>
      simp [TokenKind.isArithmetic, Expr.arithmetics,
        ihLeft, ihRight]

/- Each comparison of the tokens is in the tree. -/
theorem countP_compares
    (h : Derives part tokens e) :
    tokens.countP TokenKind.compares = e.comparisons := by
  induction h with
  | price field bars => rfl
  | parens _ ih =>
      simp [TokenKind.compares, ih]
  | factor _ ih => exact ih
  | scale op _ _ _ ihLeft ihRight =>
      simp [TokenKind.compares, Operator.compares,
        Expr.comparisons, ihLeft, ihRight]
  | term _ ih => exact ih
  | shift op _ _ _ ihLeft ihRight =>
      simp [TokenKind.compares, Operator.compares,
        Expr.comparisons, ihLeft, ihRight]
  | compare op _ _ ihLeft ihRight =>
      simp [List.countP_cons, TokenKind.compares,
        Operator.compares, Expr.comparisons, ihLeft, ihRight,
        Nat.add_assoc]

/- Only a rule compares, and it compares once. -/
theorem comparisons_eq
    (h : Derives part tokens e) :
    e.comparisons = if part = .rule then 1 else 0 := by
  induction h with
  | price field bars => rfl
  | parens _ ih => exact ih
  | factor _ ih => exact ih
  | scale op _ _ _ ihLeft ihRight =>
      simpa [Expr.comparisons] using ⟨ihLeft, ihRight⟩
  | term _ ih => exact ih
  | shift op _ _ _ ihLeft ihRight =>
      simpa [Expr.comparisons] using ⟨ihLeft, ihRight⟩
  | compare op _ _ ihLeft ihRight =>
      simpa [Expr.comparisons] using ⟨ihLeft, ihRight⟩

/- The comparison of a rule is its outermost operator. -/
theorem compares_eq
    (h : Derives .rule tokens e) :
    e.compares = true := by
  cases h with
  | compare op _ _ => rfl

end Derives

end Grammar

end BarRules

------------------------------------------------------------
-- Parentheses and First Tokens
------------------------------------------------------------

namespace BarRules

namespace Grammar

namespace Derives

variable {part : Part}
variable {tokens : List TokenKind}
variable {e : Expr}

/- Every parenthesis that a part opens is closed in it. -/
theorem openAfter_eq
    (h : Derives part tokens e)
    (depth : Nat) :
    openAfter depth tokens = depth := by
  induction h generalizing depth with
  | price field bars => rfl
  | parens _ ih => simp [nest, ih]
  | factor _ ih => exact ih depth
  | scale op _ _ _ ihLeft ihRight =>
      simp [nest, ihLeft, ihRight]
  | term _ ih => exact ih depth
  | shift op _ _ _ ihLeft ihRight =>
      simp [nest, ihLeft, ihRight]
  | compare op _ _ ihLeft ihRight =>
      simp [nest, ihLeft, ihRight]

/- A part starts with a price or an opening parenthesis. -/
theorem exists_first
    (h : Derives part tokens e) :
    ∃ first rest, tokens = first :: rest ∧
      first ≠ .closeParen := by
  induction h with
  | price field bars => exact ⟨_, _, rfl, by simp⟩
  | parens _ _ => exact ⟨_, _, rfl, by simp⟩
  | factor _ ih => exact ih
  | scale op _ _ _ ihLeft _ =>
      rcases ihLeft with ⟨first, rest, rfl, hFirst⟩
      exact ⟨first, _, rfl, hFirst⟩
  | term _ ih => exact ih
  | shift op _ _ _ ihLeft _ =>
      rcases ihLeft with ⟨first, rest, rfl, hFirst⟩
      exact ⟨first, _, rfl, hFirst⟩
  | compare op _ _ ihLeft _ =>
      rcases ihLeft with ⟨first, rest, rfl, hFirst⟩
      exact ⟨first, _, rfl, hFirst⟩

end Derives

end Grammar

end BarRules
