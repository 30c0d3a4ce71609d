import BarRules.Token

/-
  Nesting of parentheses in lists of tokens.

  Key definitions include:
    * `BarRules.Grammar.openAfter`
    * `BarRules.Grammar.EachNested`
    * `BarRules.Grammar.NestsWithin`

  Key theorems include:
    * `BarRules.Grammar.eachNested_cons_iff`
    * `BarRules.Grammar.eachNested_append_iff`

  The number of parentheses that are still open is counted from
  left to right, so a statement about every token at its depth
  splits along `cons` and `append`.
-/

------------------------------------------------------------
-- Open Parentheses
------------------------------------------------------------

namespace BarRules

namespace Grammar

/-
  The parentheses that are open after one more token.  A
  closing parenthesis with nothing to close leaves none open.
-/
def nest (depth : Nat) : TokenKind → Nat
  | .openParen => depth + 1
  | .closeParen => depth - 1
  | _ => depth

/- The parentheses that are still open after some tokens. -/
def openAfter
    (depth : Nat)
    (tokens : List TokenKind) :
    Nat :=
  tokens.foldl nest depth

/- No token leaves the depth as it is. -/
@[simp] theorem openAfter_nil (depth : Nat) :
    openAfter depth [] = depth := rfl

/- The first token is counted first. -/
@[simp] theorem openAfter_cons
    (depth : Nat)
    (token : TokenKind)
    (tokens : List TokenKind) :
    openAfter depth (token :: tokens) =
      openAfter (nest depth token) tokens := rfl

/- Counting goes on where the front has stopped. -/
@[simp] theorem openAfter_append
    (depth : Nat)
    (front back : List TokenKind) :
    openAfter depth (front ++ back) =
      openAfter (openAfter depth front) back := by
  simp [openAfter]

end Grammar

end BarRules

------------------------------------------------------------
-- Tokens at Their Depth
------------------------------------------------------------

namespace BarRules

namespace Grammar

/-
  Every token stands at a depth that suits it.  The depth is
  the number of parentheses that are open before the token.
-/
def EachNested
    (suits : Nat → TokenKind → Prop)
    (depth : Nat)
    (tokens : List TokenKind) :
    Prop :=
  ∀ before token after,
    tokens = before ++ token :: after →
      suits (openAfter depth before) token

/-
  No parenthesis is opened inside `limit` or more that are
  still open.
-/
def NestsWithin
    (limit depth : Nat)
    (tokens : List TokenKind) :
    Prop :=
  EachNested
    (fun depth token => token = .openParen → depth < limit)
    depth tokens

variable {suits : Nat → TokenKind → Prop}

/- There is nothing to check in an empty list. -/
@[simp] theorem eachNested_nil (depth : Nat) :
    EachNested suits depth [] := by
  intro before token after hSplit
  simp at hSplit

/- The first token is checked at the depth before it. -/
theorem eachNested_cons_iff
    (depth : Nat)
    (first : TokenKind)
    (tokens : List TokenKind) :
    EachNested suits depth (first :: tokens) ↔
      suits depth first ∧
        EachNested suits (nest depth first) tokens := by
  constructor
  · intro hEach
    refine ⟨hEach [] first tokens rfl, ?_⟩
    intro before token after hSplit
    exact hEach (first :: before) token after
      (by rw [hSplit, List.cons_append])
  · rintro ⟨hFirst, hRest⟩ before token after hSplit
    cases before with
    | nil =>
        simp only [List.nil_append, List.cons.injEq]
          at hSplit
        rw [← hSplit.1]
        exact hFirst
    | cons head before =>
        simp only [List.cons_append, List.cons.injEq]
          at hSplit
        rw [openAfter_cons, ← hSplit.1]
        exact hRest before token after hSplit.2

/- The back is checked from the depth after the front. -/
theorem eachNested_append_iff
    (depth : Nat)
    (front back : List TokenKind) :
    EachNested suits depth (front ++ back) ↔
      EachNested suits depth front ∧
        EachNested suits (openAfter depth front) back := by
  induction front generalizing depth with
  | nil => simp
  | cons first front ih =>
      rw [List.cons_append, eachNested_cons_iff,
        eachNested_cons_iff, ih, openAfter_cons, and_assoc]

/- An operator between tokens does not change the depth. -/
theorem nestsWithin_operator_iff
    {limit : Nat}
    (depth : Nat)
    (front back : List TokenKind)
    (op : Operator) :
    NestsWithin limit depth (front ++ .operator op :: back) ↔
      NestsWithin limit depth front ∧
        NestsWithin limit (openAfter depth front) back := by
  unfold NestsWithin
  rw [eachNested_append_iff, eachNested_cons_iff]
  simp [nest]

/- Parentheses take one level of their content. -/
theorem nestsWithin_parens_iff
    {limit : Nat}
    (depth : Nat)
    (tokens : List TokenKind) :
    NestsWithin limit depth
        (.openParen :: tokens ++ [.closeParen]) ↔
      depth < limit ∧
        NestsWithin limit (depth + 1) tokens := by
  unfold NestsWithin
  rw [eachNested_append_iff, eachNested_cons_iff,
    eachNested_cons_iff]
  simp [nest]

/- A bar price opens no parenthesis. -/
theorem nestsWithin_price
    (limit depth : Nat)
    (field : PriceField)
    (bars : UInt64) :
    NestsWithin limit depth [.price field, .offset bars] := by
  simp [NestsWithin, eachNested_cons_iff]

/- Each token opens at most one parenthesis. -/
theorem openAfter_le
    (depth : Nat)
    (tokens : List TokenKind) :
    openAfter depth tokens ≤ depth + tokens.length := by
  induction tokens generalizing depth with
  | nil => simp
  | cons token tokens ih =>
      have hNest : nest depth token ≤ depth + 1 := by
        unfold nest
        split <;> omega
      have hRest := ih (nest depth token)
      rw [openAfter_cons, List.length_cons]
      omega

/- Tokens nest no deeper than there are tokens. -/
theorem nestsWithin_length
    (depth : Nat)
    (tokens : List TokenKind) :
    NestsWithin (depth + tokens.length) depth tokens := by
  intro before token after hSplit _
  have hOpen := openAfter_le depth before
  rw [hSplit, List.length_append, List.length_cons]
  omega

end Grammar

end BarRules
