import BarRules.Proofs.Grammar.Reading

/-
  Judging tokens in one pass from left to right.

  Key definitions include:
    * `BarRules.Grammar.Verdict`
    * `BarRules.Grammar.Flat`
    * `BarRules.Grammar.Flat.judgeFrom`
    * `BarRules.Grammar.Flat.judge`

  Key theorems include:
    * `BarRules.Grammar.Derives.judgeFrom_eq`
    * `BarRules.Grammar.Derives.judgeFrom_start`
    * `BarRules.Grammar.Taken.Explains.judgeFrom_eq`

  The pass builds no tree and calls nothing.  It knows where
  the open parentheses stand, whether a comparison was seen,
  and whether an operand is expected or was just completed.
-/

------------------------------------------------------------
-- The Pass
------------------------------------------------------------

namespace BarRules

namespace Grammar

/- Tokens are a rule, or are rejected at a byte position. -/
inductive Verdict where
  | accepted
  | rejected (kind : Kind) (position : Nat)
  deriving DecidableEq

/-
  What the pass keeps: the positions of the open parentheses,
  innermost first, and two answers.
-/
structure Flat where
  opened : List Nat
  compared : Bool
  completed : Bool

/- Where tokens start in a rule that ends at byte `stop`. -/
def startOf (stop : Nat) : List Token → Nat
  | [] => stop
  | token :: _ => token.position

namespace Flat

/- The state before the first token. -/
def start : Flat where
  opened := []
  compared := false
  completed := false

/-
  The fault of a price, an offset or an opening parenthesis
  that follows an operand.
-/
def misplaced : List Nat → Bool → Kind
  | _ :: _, _ => .unbalancedParens
  | [], true => .trailingInput
  | [], false => .missingComparison

/-
  Go on with the tokens that are left.  At most `limit`
  parentheses may be open at a time.
-/
def judgeFrom (limit stop : Nat) : Flat → List Token → Verdict
  -- An operand is expected.
  | ⟨opened, compared, false⟩, ⟨.openParen, position⟩ :: rest =>
      if opened.length < limit then
        judgeFrom limit stop
          ⟨position :: opened, compared, false⟩ rest
      else
        .rejected .tooDeep position
  | ⟨opened, compared, false⟩,
      ⟨.price _, _⟩ :: ⟨.offset _, _⟩ :: rest =>
      judgeFrom limit stop ⟨opened, compared, true⟩ rest
  | ⟨_, _, false⟩, ⟨.price _, _⟩ :: rest =>
      .rejected .emptyOperand (startOf stop rest)
  | ⟨_, _, false⟩, tokens =>
      .rejected .emptyOperand (startOf stop tokens)
  -- An operand was just completed.
  | ⟨opened, compared, true⟩,
      ⟨.operator (.arith _), _⟩ :: rest =>
      judgeFrom limit stop ⟨opened, compared, false⟩ rest
  | ⟨_ :: _, _, true⟩,
      ⟨.operator (.compare _), position⟩ :: _ =>
      .rejected .nestedComparison position
  | ⟨[], true, true⟩,
      ⟨.operator (.compare _), position⟩ :: _ =>
      .rejected .multipleComparisons position
  | ⟨[], false, true⟩, ⟨.operator (.compare _), _⟩ :: rest =>
      judgeFrom limit stop ⟨[], true, false⟩ rest
  | ⟨_ :: outer, compared, true⟩, ⟨.closeParen, _⟩ :: rest =>
      judgeFrom limit stop ⟨outer, compared, true⟩ rest
  | ⟨[], _, true⟩, ⟨.closeParen, position⟩ :: _ =>
      .rejected .unbalancedParens position
  | ⟨opened, compared, true⟩, token :: _ =>
      .rejected (misplaced opened compared) token.position
  -- The tokens end after an operand.
  | ⟨position :: _, _, true⟩, [] =>
      .rejected .unbalancedParens position
  | ⟨[], false, true⟩, [] =>
      .rejected .missingComparison stop
  | ⟨[], true, true⟩, [] => .accepted

/-
  The verdict on tokens of a rule that ends at byte `stop`.
  The limit also holds for arithmetic operators, which are
  counted beforehand.
-/
def judge
    (limit stop : Nat)
    (tokens : List Token) :
    Verdict :=
  if tokens = [] then
    .rejected .emptyOperand 0
  else
    let operators :=
      tokens.filter (fun token => token.kind.isArithmetic)
    match operators[limit]? with
    | some token => .rejected .tooDeep token.position
    | none => judgeFrom limit stop start tokens

end Flat

end Grammar

end BarRules

------------------------------------------------------------
-- Steps of the Pass
------------------------------------------------------------

namespace BarRules

namespace Grammar

namespace Flat

variable {limit stop : Nat}
variable {opened : List Nat}
variable {compared : Bool}
variable {position : Nat}
variable {rest : List Token}

/- A parenthesis is opened while the limit allows it. -/
theorem judgeFrom_openParen
    (h : opened.length < limit) :
    judgeFrom limit stop ⟨opened, compared, false⟩
        (⟨.openParen, position⟩ :: rest) =
      judgeFrom limit stop
        ⟨position :: opened, compared, false⟩ rest := by
  rw [judgeFrom, if_pos h]

/- A price and its offset complete an operand. -/
@[simp] theorem judgeFrom_price
    {field : PriceField}
    {bars : UInt64}
    {next : Nat} :
    judgeFrom limit stop ⟨opened, compared, false⟩
        (⟨.price field, position⟩ :: ⟨.offset bars, next⟩ ::
          rest) =
      judgeFrom limit stop ⟨opened, compared, true⟩ rest := by
  rw [judgeFrom]

/- An arithmetic operator asks for an operand. -/
@[simp] theorem judgeFrom_arith
    {op : Arithmetic} :
    judgeFrom limit stop ⟨opened, compared, true⟩
        (⟨.operator (.arith op), position⟩ :: rest) =
      judgeFrom limit stop
        ⟨opened, compared, false⟩ rest := by
  rfl

/- The first comparison outside of parentheses does, too. -/
@[simp] theorem judgeFrom_compare
    {op : Comparison} :
    judgeFrom limit stop ⟨[], false, true⟩
        (⟨.operator (.compare op), position⟩ :: rest) =
      judgeFrom limit stop ⟨[], true, false⟩ rest := by
  rfl

/- A closed parenthesis completes an operand. -/
@[simp] theorem judgeFrom_closeParen
    {inner : Nat} :
    judgeFrom limit stop ⟨inner :: opened, compared, true⟩
        (⟨.closeParen, position⟩ :: rest) =
      judgeFrom limit stop ⟨opened, compared, true⟩ rest := by
  rfl

/- An operand is followed by an operator or a parenthesis. -/
theorem judgeFrom_misplaced
    {kind : TokenKind}
    (hOperator : ∀ op, kind ≠ .operator op)
    (hClose : kind ≠ .closeParen) :
    judgeFrom limit stop ⟨opened, compared, true⟩
        (⟨kind, position⟩ :: rest) =
      .rejected (misplaced opened compared) position := by
  cases kind with
  | operator op => exact absurd rfl (hOperator op)
  | closeParen => exact absurd rfl hClose
  | price | offset | openParen =>
      cases opened <;> cases compared <;> rfl

/- An operand starts with a price or a parenthesis. -/
theorem judgeFrom_noOperand
    {kind : TokenKind}
    (hPrice : ∀ field, kind ≠ .price field)
    (hOpen : kind ≠ .openParen) :
    judgeFrom limit stop ⟨opened, compared, false⟩
        (⟨kind, position⟩ :: rest) =
      .rejected .emptyOperand position := by
  cases kind with
  | price field => exact absurd rfl (hPrice field)
  | openParen => exact absurd rfl hOpen
  | offset | operator | closeParen => rfl

/- A price is followed by its offset. -/
theorem judgeFrom_noOffset
    {field : PriceField}
    (h :
      ∀ bars after,
        rest.map Token.kind ≠ .offset bars :: after) :
    judgeFrom limit stop ⟨opened, compared, false⟩
        (⟨.price field, position⟩ :: rest) =
      .rejected .emptyOperand (startOf stop rest) := by
  cases rest with
  | nil => rfl
  | cons token rest =>
      rcases token with ⟨kind, place⟩
      cases kind with
      | offset bars =>
          exact absurd rfl (h bars (rest.map Token.kind))
      | price | operator | openParen | closeParen => rfl

end Flat

end Grammar

end BarRules

------------------------------------------------------------
-- Tokens and Their Kinds
------------------------------------------------------------

namespace BarRules

namespace Grammar

/- The tokens before and after the token of a kind. -/
theorem exists_of_map_kind_append_cons
    {tokens : List Token}
    {kind : TokenKind}
    {front back : List TokenKind}
    (h : tokens.map Token.kind = front ++ kind :: back) :
    ∃ before position after,
      tokens = before ++ ⟨kind, position⟩ :: after ∧
        before.map Token.kind = front ∧
        after.map Token.kind = back := by
  rcases List.map_eq_append_iff.mp h with
    ⟨before, others, hTokens, hBefore, hOthers⟩
  rcases exists_of_map_kind_cons hOthers with
    ⟨position, after, hAfter, hBack⟩
  refine ⟨before, position, after, ?_, hBefore, hBack⟩
  rw [hTokens, hAfter]

end Grammar

/- What an arithmetic operator is. -/
theorem TokenKind.isArithmetic_iff
    {kind : TokenKind} :
    kind.isArithmetic = true ↔
      ∃ op, kind = .operator (.arith op) := by
  unfold isArithmetic
  split <;> simp_all

end BarRules

------------------------------------------------------------
-- Derivable Tokens Are Passed Over
------------------------------------------------------------

namespace BarRules

namespace Grammar

open Flat

variable {limit stop : Nat}
variable {opened : List Nat}
variable {compared : Bool}

/- Passing over an operand, an operator and an operand. -/
theorem judgeFrom_operator
    {front middle back : List Token}
    {op : Arithmetic}
    {position : Nat}
    (hFront :
      ∀ rest,
        judgeFrom limit stop ⟨opened, compared, false⟩
            (front ++ rest) =
          judgeFrom limit stop ⟨opened, compared, true⟩ rest)
    (hMiddle :
      judgeFrom limit stop ⟨opened, compared, false⟩
          (middle ++ back) =
        judgeFrom limit stop ⟨opened, compared, true⟩ back) :
    judgeFrom limit stop ⟨opened, compared, false⟩
        (front ++ ⟨.operator (.arith op), position⟩ :: middle
          ++ back) =
      judgeFrom limit stop ⟨opened, compared, true⟩ back := by
  rw [List.append_assoc, List.cons_append, hFront,
    judgeFrom_arith, hMiddle]

/-
  The tokens of a part take the pass from where an operand is
  expected to where it is completed.  The induction is on the
  derivation; parentheses add a level to what is open.
-/
theorem Derives.judgeFrom_eq
    {part : Part}
    {kinds : List TokenKind}
    {e : Expr}
    (h : Derives part kinds e)
    (hPart : part ≠ .rule)
    {front : List Token}
    (hKinds : front.map Token.kind = kinds)
    (hNests : NestsWithin limit opened.length kinds)
    (back : List Token) :
    judgeFrom limit stop ⟨opened, compared, false⟩
        (front ++ back) =
      judgeFrom limit stop ⟨opened, compared, true⟩ back := by
  induction h generalizing opened front back with
  | price field bars =>
      rcases exists_of_map_kind_cons hKinds with
        ⟨_, rest, rfl, hRest⟩
      rcases exists_of_map_kind_cons hRest with
        ⟨_, rest, rfl, hEnd⟩
      rw [List.map_eq_nil_iff.mp hEnd]
      exact judgeFrom_price
  | parens inner ih =>
      rcases (nestsWithin_parens_iff ..).mp hNests with
        ⟨hDepth, hInner⟩
      rcases exists_of_map_kind_append_cons hKinds with
        ⟨before, last, after, rfl, hBefore, hAfter⟩
      rcases exists_of_map_kind_cons hBefore with
        ⟨first, middle, rfl, hMiddle⟩
      have hPass :
          judgeFrom limit stop
              ⟨first :: opened, compared, false⟩
              (middle ++ ⟨.closeParen, last⟩ :: back) =
            judgeFrom limit stop
              ⟨first :: opened, compared, true⟩
              (⟨.closeParen, last⟩ :: back) := by
        apply ih (by simp) hMiddle
        exact hInner
      rw [List.map_eq_nil_iff.mp hAfter, List.append_assoc,
        List.cons_append, List.singleton_append,
        judgeFrom_openParen hDepth, hPass,
        judgeFrom_closeParen]
  | factor inner ih
  | term inner ih =>
      exact ih (by simp) hKinds hNests back
  | scale op hOp left right ihLeft ihRight
  | shift op hOp left right ihLeft ihRight =>
      rw [nestsWithin_operator_iff, left.openAfter_eq]
        at hNests
      rcases exists_of_map_kind_append_cons hKinds with
        ⟨before, _, after, rfl, hBefore, hAfter⟩
      exact judgeFrom_operator
        (ihLeft (by simp) hBefore hNests.1)
        (ihRight (by simp) hAfter hNests.2 back)
  | compare op left right _ _ => exact absurd rfl hPart

/- The tokens of a rule are accepted. -/
theorem Derives.judgeFrom_start
    {tokens : List Token}
    {e : Expr}
    (h : Derives .rule (tokens.map Token.kind) e)
    (hNests :
      NestsWithin limit 0 (tokens.map Token.kind)) :
    judgeFrom limit stop start tokens = .accepted := by
  generalize hKinds : tokens.map Token.kind = kinds at h hNests
  cases h with
  | compare op left right =>
      rw [nestsWithin_operator_iff, left.openAfter_eq]
        at hNests
      rcases exists_of_map_kind_append_cons hKinds with
        ⟨before, _, after, rfl, hBefore, hAfter⟩
      have hLeft :
          ∀ rest,
            judgeFrom limit stop ⟨[], false, false⟩
                (before ++ rest) =
              judgeFrom limit stop ⟨[], false, true⟩ rest :=
        left.judgeFrom_eq (by simp) hBefore hNests.1
      have hRight :
          judgeFrom limit stop ⟨[], true, false⟩ (after ++ []) =
            judgeFrom limit stop ⟨[], true, true⟩ [] :=
        right.judgeFrom_eq (by simp) hAfter hNests.2 []
      rw [List.append_nil] at hRight
      rw [start, hLeft, judgeFrom_compare, hRight, judgeFrom]

/-
  What a reader takes is passed over, and the pass goes on
  with the tokens of the rest.
-/
theorem Taken.Explains.judgeFrom_eq
    {part : Part}
    {tokens : List Token}
    {taken : Taken (tokens.map Token.kind)}
    (h : taken.Explains part limit opened.length)
    (hPart : part ≠ .rule) :
    ∃ front rest,
      tokens = front ++ rest ∧
        rest.map Token.kind = taken.rest ∧
        judgeFrom limit stop ⟨opened, compared, false⟩ tokens =
          judgeFrom limit stop
            ⟨opened, compared, true⟩ rest := by
  rcases h with ⟨kinds, hKinds, hDerives, hNests⟩
  rcases List.map_eq_append_iff.mp hKinds with
    ⟨front, rest, hSplit, hFront, hRest⟩
  refine ⟨front, rest, hSplit, hRest, ?_⟩
  rw [hSplit]
  exact hDerives.judgeFrom_eq hPart hFront hNests rest

end Grammar

end BarRules
