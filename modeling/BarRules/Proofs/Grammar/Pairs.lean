import BarRules.Proofs.Grammar.Reading
import Mathlib.Data.List.Infix

/-
  Prices and offsets that stand in pairs.

  Key definitions include:
    * `BarRules.TokenKind.standsAlone`
    * `BarRules.Grammar.Paired`
    * `BarRules.Grammar.Remains`
    * `BarRules.Grammar.Cause.found?`
    * `BarRules.Grammar.Fault.PartsNoPair`

  Key theorems include:
    * `BarRules.Grammar.Paired.of_suffix`
    * `BarRules.Grammar.Derives.paired`
    * `BarRules.Grammar.exists_remains_of_sum`
    * `BarRules.Grammar.operand_partsNoPair`
    * `BarRules.Grammar.read_partsNoPair`

  A reader takes a price together with its offset.  So if each
  of the two stands with the other, it never stops between
  them: the tokens that it leaves are in pairs again, and what
  it blames and names in a fault is no offset.
-/

------------------------------------------------------------
-- Pairs
------------------------------------------------------------

namespace BarRules

/- The token is neither a price nor an offset. -/
def TokenKind.standsAlone : TokenKind → Bool
  | .price _ => false
  | .offset _ => false
  | _ => true

namespace Grammar

/-
  Each price is followed by an offset, and each offset comes
  right behind a price.
-/
inductive Paired : List TokenKind → Prop where
  | nil : Paired []
  | price (field : PriceField) (bars : UInt64)
      {rest : List TokenKind}
      (hRest : Paired rest) :
      Paired (.price field :: .offset bars :: rest)
  | alone {kind : TokenKind} {rest : List TokenKind}
      (hAlone : kind.standsAlone = true)
      (hRest : Paired rest) :
      Paired (kind :: rest)

namespace Paired

variable {tokens front back : List TokenKind}

/- Tokens in pairs may follow each other. -/
theorem append
    (hFront : Paired front)
    (hBack : Paired back) :
    Paired (front ++ back) := by
  induction hFront with
  | nil => exact hBack
  | price field bars _ ih => exact .price field bars ih
  | alone hAlone _ ih => exact .alone hAlone ih

/- A token that stands alone leaves the others in pairs. -/
theorem tail
    {kind : TokenKind}
    (hAlone : kind.standsAlone = true)
    (h : Paired (kind :: back)) :
    Paired back := by
  cases h with
  | price field bars _ => cases hAlone
  | alone _ hRest => exact hRest

/- Tokens in pairs do not start with an offset. -/
theorem head?_ne_offset
    (h : Paired tokens)
    (bars : UInt64) :
    tokens.head? ≠ some (.offset bars) := by
  intro hHead
  cases h with
  | nil => cases hHead
  | price field bars _ => cases hHead
  | alone hAlone _ =>
      cases hHead
      cases hAlone

/- Tokens are in pairs from any token on but an offset. -/
theorem of_suffix
    (h : Paired tokens)
    (hSuffix : back <:+ tokens)
    (hHead : ∀ bars, back.head? ≠ some (.offset bars)) :
    Paired back := by
  induction h with
  | nil =>
      rw [List.suffix_nil.mp hSuffix]
      exact .nil
  | price field bars hRest ih =>
      rcases List.suffix_cons_iff.mp hSuffix with
        rfl | hBehind
      · exact .price field bars hRest
      · rcases List.suffix_cons_iff.mp hBehind with
          rfl | hLater
        · exact absurd rfl (hHead bars)
        · exact ih hLater
  | alone hAlone hRest ih =>
      rcases List.suffix_cons_iff.mp hSuffix with
        rfl | hBehind
      · exact .alone hAlone hRest
      · exact ih hBehind

/- What follows tokens in pairs is in pairs as well. -/
theorem of_append
    (hFront : Paired front)
    (h : Paired (front ++ back)) :
    Paired back := by
  induction hFront with
  | nil => exact h
  | price field bars _ ih =>
      cases h with
      | price _ _ hRest => exact ih hRest
      | alone hAlone _ => cases hAlone
  | alone hAlone _ ih => exact ih (h.tail hAlone)

/- A price is followed by an offset. -/
theorem offset_behind
    (h : Paired tokens)
    {index : Nat}
    {field : PriceField}
    (hPrice : tokens[index]? = some (.price field)) :
    ∃ bars, tokens[index + 1]? = some (.offset bars) := by
  have hHead :
      (tokens.drop index).head? = some (.price field) := by
    rw [List.head?_drop, hPrice]
  have hPaired : Paired (tokens.drop index) := by
    apply h.of_suffix (List.drop_suffix index tokens)
    intro bars hOffset
    rw [hHead] at hOffset
    cases hOffset
  have hNext :
      tokens[index + 1]? = (tokens.drop index)[1]? := by
    rw [List.getElem?_drop]
  rw [hNext]
  generalize tokens.drop index = rest at hHead hPaired
  cases hPaired with
  | nil => cases hHead
  | price _ bars _ => exact ⟨bars, rfl⟩
  | alone hAlone _ =>
      cases hHead
      cases hAlone

/- An offset comes right behind a price. -/
theorem price_before
    (h : Paired tokens)
    {index : Nat}
    {bars : UInt64}
    (hOffset : tokens[index]? = some (.offset bars)) :
    ∃ before field,
      index = before + 1 ∧
        tokens[before]? = some (.price field) := by
  induction h generalizing index with
  | nil => cases hOffset
  | price field _ _ ih =>
      match index with
      | 0 => cases hOffset
      | 1 => exact ⟨0, field, rfl, rfl⟩
      | index + 2 =>
          rcases ih hOffset with ⟨before, other, rfl, hPrice⟩
          exact ⟨before + 2, other, rfl, hPrice⟩
  | alone hAlone _ ih =>
      cases index with
      | zero =>
          cases hOffset
          cases hAlone
      | succ index =>
          rcases ih hOffset with ⟨before, field, rfl, hPrice⟩
          exact ⟨before + 1, field, rfl, hPrice⟩

end Paired

/- Every part of a rule is in pairs. -/
theorem Derives.paired
    {part : Part}
    {tokens : List TokenKind}
    {e : Expr}
    (h : Derives part tokens e) :
    Paired tokens := by
  induction h with
  | price field bars => exact .price field bars .nil
  | parens _ ih =>
      exact (Paired.alone rfl ih).append (.alone rfl .nil)
  | factor _ ih => exact ih
  | term _ ih => exact ih
  | scale op _ _ _ ihLeft ihRight
  | shift op _ _ _ ihLeft ihRight
  | compare op _ _ ihLeft ihRight =>
      exact ihLeft.append (.alone rfl ihRight)

end Grammar

end BarRules

------------------------------------------------------------
-- Places Where No Pair Is Parted
------------------------------------------------------------

namespace BarRules

namespace Grammar

/-
  Tokens are left from a place on that does not part a price
  from its offset.
-/
structure Remains (back tokens : List TokenKind) : Prop where
  suffix : back <:+ tokens
  paired : Paired back

variable {tokens middle back : List TokenKind}

/- All of the tokens are left at first. -/
theorem Paired.remains (h : Paired tokens) :
    Remains tokens tokens :=
  ⟨List.suffix_rfl, h⟩

/- What is left of what was left is left. -/
theorem Remains.trans
    (hBack : Remains back middle)
    (hMiddle : Remains middle tokens) :
    Remains back tokens :=
  ⟨hBack.suffix.trans hMiddle.suffix, hBack.paired⟩

/- A reader leaves tokens in pairs. -/
theorem Taken.Explains.remains
    {part : Part}
    {limit depth : Nat}
    {taken : Taken tokens}
    (h : taken.Explains part limit depth)
    (hPaired : Paired tokens) :
    Remains taken.rest tokens := by
  rcases h with ⟨front, hTokens, hFront, _⟩
  rw [hTokens] at hPaired
  exact
    ⟨⟨front, hTokens.symm⟩,
      hFront.paired.of_append hPaired⟩

variable {joins : Arithmetic → Bool}
variable {reader : Reader}
variable {part : Part}
variable {limit depth : Nat}
variable {fault : Fault}

/-
  A fault in a chain is one of an operand, which is read at a
  place where no pair is parted.
-/
theorem exists_remains_of_chain
    (hExplains :
      ∀ {tokens : List TokenKind} {taken : Taken tokens},
        reader tokens = .ok taken →
          taken.Explains part limit depth)
    {left : Taken tokens}
    (hPaired : Paired left.rest)
    (h : chain joins reader left = .error fault) :
    ∃ back,
      Remains back left.rest ∧
        reader back = .error fault := by
  fun_induction chain joins reader left with
  | case1 left op after hRest hJoins found hFound =>
      cases h
      rw [hRest] at hPaired ⊢
      exact
        ⟨after, ⟨List.suffix_cons _ _, hPaired.tail rfl⟩,
          hFound⟩
  | case2 left op after hRest hJoins right hRight ih =>
      rw [hRest] at hPaired ⊢
      have hAfter :
          Remains after (.operator (.arith op) :: after) :=
        ⟨List.suffix_cons _ _, hPaired.tail rfl⟩
      have hLater : Remains right.rest after :=
        (hExplains hRight).remains hAfter.paired
      rcases ih hLater.paired h with ⟨back, hBack, hFault⟩
      exact
        ⟨back, (hBack.trans hLater).trans hAfter, hFault⟩
  | case3 left op after hRest hJoins => cases h
  | case4 left hOther => cases h

/- So is a fault of operands that are grouped to the left. -/
theorem exists_remains_of_leftGrouped
    (hExplains :
      ∀ {tokens : List TokenKind} {taken : Taken tokens},
        reader tokens = .ok taken →
          taken.Explains part limit depth)
    (hPaired : Paired tokens)
    (h : leftGrouped joins reader tokens = .error fault) :
    ∃ back,
      Remains back tokens ∧ reader back = .error fault := by
  unfold leftGrouped at h
  split at h
  · rename_i found hFound
    cases h
    exact ⟨tokens, hPaired.remains, hFound⟩
  · rename_i first hFirst
    have hLater := (hExplains hFirst).remains hPaired
    rcases exists_remains_of_chain hExplains hLater.paired h
      with ⟨back, hBack, hFault⟩
    exact ⟨back, hBack.trans hLater, hFault⟩

/- So is a fault of a sum. -/
theorem exists_remains_of_sum
    (hExplains :
      ∀ {tokens : List TokenKind} {taken : Taken tokens},
        reader tokens = .ok taken →
          taken.Explains .operand limit depth)
    (hPaired : Paired tokens)
    (h : sum reader tokens = .error fault) :
    ∃ back,
      Remains back tokens ∧ reader back = .error fault := by
  have hProduct :
      ∀ {tokens : List TokenKind} {taken : Taken tokens},
        leftGrouped Arithmetic.isProduct reader tokens =
            .ok taken →
          taken.Explains .product limit depth :=
    leftGrouped_explains product_closes Derives.factor
      hExplains
  rcases exists_remains_of_leftGrouped hProduct hPaired h
    with ⟨middle, hMiddle, hFound⟩
  rcases exists_remains_of_leftGrouped hExplains
      hMiddle.paired hFound with
    ⟨back, hBack, hFault⟩
  exact ⟨back, hBack.trans hMiddle, hFault⟩

end Grammar

end BarRules

------------------------------------------------------------
-- Faults That Part No Pair
------------------------------------------------------------

namespace BarRules

namespace Grammar

/- The token that the wording of a cause says was found. -/
@[simp] def Cause.found? : Cause → Option TokenKind
  | .operandExpected found => found
  | .offsetExpected _ found => found
  | .closeExpected found => some found
  | .comparisonExpected found => some found
  | .trailing found => some found
  | _ => none

/-
  No offset is missed, and the fault is blamed on a place where
  no pair is parted.  If a token was found, it is the one that
  is blamed.
-/
structure Fault.PartsNoPair
    (fault : Fault)
    (tokens : List TokenKind) :
    Prop where
  missesNoOffset :
    ∀ field found, fault.cause ≠ .offsetExpected field found
  blamed :
    ∃ back,
      Remains back tokens ∧
        back.length = fault.left ∧
        ∀ found,
          fault.cause.found? = some found →
            back.head? = some found

variable {tokens back : List TokenKind}
variable {fault : Fault}

namespace Fault.PartsNoPair

/- The first of the tokens is blamed. -/
theorem first
    {cause : Cause}
    {left : Nat}
    (hPaired : Paired tokens)
    (hCause :
      ∀ field found, cause ≠ .offsetExpected field found)
    (hLeft : tokens.length = left)
    (hFound :
      ∀ found,
        cause.found? = some found →
          tokens.head? = some found) :
    Fault.PartsNoPair ⟨cause, left⟩ tokens :=
  ⟨hCause, tokens, hPaired.remains, hLeft, hFound⟩

/- Tokens before those that are left are not blamed. -/
theorem extend
    (h : fault.PartsNoPair back)
    (hSuffix : back <:+ tokens) :
    fault.PartsNoPair tokens := by
  rcases h.blamed with ⟨rest, hRest, hLeft, hFound⟩
  exact
    ⟨h.missesNoOffset, rest,
      ⟨hRest.suffix.trans hSuffix, hRest.paired⟩, hLeft,
      hFound⟩

/- The token that is found is no offset. -/
theorem found?_ne_offset
    (h : fault.PartsNoPair tokens)
    (bars : UInt64) :
    fault.cause.found? ≠ some (.offset bars) := by
  intro hOffset
  rcases h.blamed with ⟨rest, hRest, _, hFound⟩
  exact hRest.paired.head?_ne_offset bars
    (hFound (.offset bars) hOffset)

/- The token that is blamed is no offset. -/
theorem blamed_ne_offset
    (h : fault.PartsNoPair tokens)
    (bars : UInt64) :
    tokens[tokens.length - fault.left]? ≠
      some (.offset bars) := by
  rcases h.blamed with
    ⟨rest, ⟨⟨front, rfl⟩, hRest⟩, hLeft, _⟩
  have hFirst :
      (front ++ rest)[(front ++ rest).length - fault.left]? =
        rest.head? := by
    rw [← hLeft, List.length_append, Nat.add_sub_cancel,
      List.getElem?_append_right (Nat.le_refl _),
      Nat.sub_self, List.head?_eq_getElem?]
  rw [hFirst]
  exact hRest.head?_ne_offset bars

end Fault.PartsNoPair

open Fault (PartsNoPair)

/- A sum in parentheses that is not closed. -/
theorem close_partsNoPair
    {inner : Taken tokens}
    (hPaired : Paired (.openParen :: tokens))
    (hRest : Remains inner.rest tokens)
    (h : close inner = .error fault) :
    fault.PartsNoPair (.openParen :: tokens) := by
  have hBehind : inner.rest <:+ .openParen :: tokens :=
    hRest.suffix.trans (List.suffix_cons _ _)
  unfold close at h
  split at h
  · cases h
  · rename_i op after hOp
    cases h
    apply PartsNoPair.extend _ hBehind
    exact .first hRest.paired (by simp) (by simp [hOp])
      (by simp)
  · rename_i found after _ _ hFound
    cases h
    apply PartsNoPair.extend _ hBehind
    exact .first hRest.paired (by simp) (by simp [hFound])
      (by simp [hFound])
  · cases h
    exact .first hPaired (by simp) rfl (by simp)

/-
  The induction is on the levels of parentheses that are left.
  A price without an offset does not occur in pairs.
-/
theorem operand_partsNoPair
    {room : Nat}
    (hPaired : Paired tokens)
    (h : operand room tokens = .error fault) :
    fault.PartsNoPair tokens := by
  induction room using Nat.strong_induction_on
      generalizing tokens fault with
  | _ room ih =>
      unfold operand at h
      -- The cases are those of the reader, in its order.
      split at h
      · cases h
        exact .first hPaired (by simp) rfl (by simp)
      · cases h
      · rename_i field rest hNoOffset
        cases hPaired with
        | price _ bars hRest =>
            exact absurd rfl (hNoOffset bars _)
        | alone hAlone _ => cases hAlone
      · cases h
        exact .first hPaired (by simp) rfl (by simp)
      · rename_i less rest
        have hRest : Paired rest := hPaired.tail rfl
        have hBehind : rest <:+ .openParen :: rest :=
          List.suffix_cons _ _
        have hExplains :
            ∀ {tokens : List TokenKind}
              {taken : Taken tokens},
              operand less tokens = .ok taken →
                taken.Explains .operand (0 + less) 0 :=
          operand_explains
        split at h
        · cases h
          apply PartsNoPair.extend _ hBehind
          exact .first hRest (by simp) rfl (by simp)
        · split at h
          · rename_i found hFound
            cases h
            rcases exists_remains_of_sum hExplains hRest
                hFound with
              ⟨back, hBack, hFault⟩
            have hInner :=
              ih less (Nat.lt_succ_self less) hBack.paired
                hFault
            exact hInner.extend
              (hBack.suffix.trans hBehind)
          · rename_i inner hInner
            have hLater :=
              (sum_explains hExplains hInner).remains hRest
            exact close_partsNoPair hPaired hLater h
      · cases h
        exact .first hPaired (by simp) rfl (by simp)

/- A side of the comparison. -/
theorem side_partsNoPair
    (hPaired : Paired tokens)
    (h : side tokens = .error fault) :
    fault.PartsNoPair tokens := by
  have hExplains :
      ∀ {tokens : List TokenKind} {taken : Taken tokens},
        operand depthLimit tokens = .ok taken →
          taken.Explains .operand (0 + depthLimit) 0 :=
    operand_explains
  rcases exists_remains_of_sum hExplains hPaired h with
    ⟨back, hBack, hFault⟩
  exact
    (operand_partsNoPair hBack.paired hFault).extend
      hBack.suffix

/- The end of a rule. -/
theorem finish_partsNoPair
    {op : Comparison}
    {left right : Expr}
    (hPaired : Paired tokens)
    (h : finish op left right tokens = .error fault) :
    fault.PartsNoPair tokens := by
  unfold finish at h
  split at h <;> cases h
  all_goals
    exact .first hPaired (by simp) rfl (by simp)

/- What follows the left side. -/
theorem compared_partsNoPair
    {left : Expr}
    (hPaired : Paired tokens)
    (h : compared left tokens = .error fault) :
    fault.PartsNoPair tokens := by
  unfold compared at h
  split at h
  · rename_i op after
    have hAfter : Paired after := hPaired.tail rfl
    apply PartsNoPair.extend _ (List.suffix_cons _ after)
    split at h
    · rename_i found hFound
      cases h
      exact side_partsNoPair hAfter hFound
    · rename_i right hRight
      have hLater := (side_explains hRight).remains hAfter
      exact
        (finish_partsNoPair hLater.paired h).extend
          hLater.suffix
  all_goals
    cases h
    exact .first hPaired (by simp) rfl (by simp)

/- The operator beyond the limit is one of the tokens. -/
theorem excess_suffix
    {budget left : Nat}
    (h : excess budget tokens = some left) :
    ∃ op rest,
      .operator (.arith op) :: rest <:+ tokens ∧
        rest.length + 1 = left := by
  fun_induction excess budget tokens with
  | case1 budget => cases h
  | case2 op rest =>
      cases h
      exact ⟨op, rest, List.suffix_rfl, rfl⟩
  | case3 rest budget op ih
  | case4 budget kind rest hZero hSucc ih =>
      rcases ih h with ⟨other, back, hBack, hLeft⟩
      exact
        ⟨other, back, hBack.trans (List.suffix_cons _ _),
          hLeft⟩

/-
  If prices and offsets stand in pairs, a fault parts none of
  them.
-/
theorem read_partsNoPair
    (hPaired : Paired tokens)
    (h : read tokens = .error fault) :
    fault.PartsNoPair tokens := by
  unfold read at h
  split at h
  · rename_i hEmpty
    cases h
    exact .first hPaired (by simp) (by simp [hEmpty])
      (by simp)
  · split at h
    · rename_i left hExcess
      cases h
      rcases excess_suffix hExcess with
        ⟨op, rest, hSuffix, hLeft⟩
      have hBack : Paired (.operator (.arith op) :: rest) :=
        hPaired.of_suffix hSuffix (by simp)
      apply PartsNoPair.extend _ hSuffix
      exact .first hBack (by simp) hLeft (by simp)
    · split at h
      · rename_i found hFound
        cases h
        exact side_partsNoPair hPaired hFound
      · rename_i left hLeft
        have hLater := (side_explains hLeft).remains hPaired
        exact
          (compared_partsNoPair hLater.paired h).extend
            hLater.suffix

end Grammar

end BarRules
