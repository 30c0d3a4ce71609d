import BarRules.Proofs.Grammar.Reading
import Mathlib.Control.Monad.Basic

/-
  What the tree of a rule keeps of its tokens.

  Key definitions include:
    * `BarRules.Expr.inOrder`
    * `BarRules.Expr.leafDepths`
    * `BarRules.Grammar.pricePairs`

  Key theorems include:
    * `BarRules.Expr.le_lookback`
    * `BarRules.Expr.leafDepth_le`
    * `BarRules.Grammar.Derives.inOrder_eq`
    * `BarRules.Grammar.Derives.pricePairs_eq`
    * `BarRules.Rule.ofTokens_loses_nothing`

  A tree that is gone through from left to right gives back the
  tokens that it was derived from, but for the parentheses.  An
  operator stands above each step down a tree, so a tree is no
  deeper than it has operators.
-/

------------------------------------------------------------
-- Trees From Left to Right
------------------------------------------------------------

namespace BarRules

namespace Expr

/- The tokens of a tree from left to right. -/
def inOrder : Expr → List TokenKind
  | .barPrice price =>
      [.price price.field, .offset price.offset]
  | .binary op left right =>
      left.inOrder ++ .operator op :: right.inOrder

/- The offsets of a tree are those of its prices. -/
theorem offset_mem_inOrder_iff
    (e : Expr)
    (bars : UInt64) :
    .offset bars ∈ e.inOrder ↔
      ∃ price ∈ e.prices, price.offset = bars := by
  induction e with
  | barPrice price => simp [inOrder, prices, eq_comm]
  | binary op left right ihLeft ihRight =>
      simp [inOrder, prices, ihLeft, ihRight, or_and_right,
        exists_or]

/- The lookback of two sides is the larger one. -/
theorem lookback_binary
    (op : Operator)
    (left right : Expr) :
    (binary op left right).lookback =
      if left.lookback ≤ right.lookback then
        right.lookback
      else
        left.lookback :=
  rfl

/- No price lies further back than the lookback. -/
theorem le_lookback
    {e : Expr}
    {price : BarPrice}
    (h : price ∈ e.prices) :
    price.offset ≤ e.lookback := by
  induction e with
  | barPrice found =>
      rw [List.mem_singleton.mp h]
      exact UInt64.le_refl _
  | binary op left right ihLeft ihRight =>
      rw [lookback_binary]
      rcases List.mem_append.mp h with hLeft | hRight
      · have hOffset := ihLeft hLeft
        split
        · rename_i hOrder
          exact UInt64.le_trans hOffset hOrder
        · exact hOffset
      · have hOffset := ihRight hRight
        split
        · exact hOffset
        · rename_i hOrder
          exact UInt64.le_trans hOffset
            (UInt64.le_of_lt (UInt64.not_le.mp hOrder))

/- Some price lies as far back as the lookback. -/
theorem exists_offset_eq_lookback (e : Expr) :
    ∃ price ∈ e.prices, price.offset = e.lookback := by
  induction e with
  | barPrice price =>
      exact ⟨price, List.mem_singleton_self price, rfl⟩
  | binary op left right ihLeft ihRight =>
      rw [lookback_binary]
      split
      · rcases ihRight with ⟨price, hMem, hOffset⟩
        exact
          ⟨price, List.mem_append_right _ hMem, hOffset⟩
      · rcases ihLeft with ⟨price, hMem, hOffset⟩
        exact ⟨price, List.mem_append_left _ hMem, hOffset⟩

end Expr

end BarRules

------------------------------------------------------------
-- Depth of Trees
------------------------------------------------------------

namespace BarRules

namespace Expr

/-
  The number of edges between the root of a tree and each of
  its prices, from left to right.
-/
def leafDepths : Expr → List Nat
  | .barPrice _ => [0]
  | .binary _ left right =>
      (left.leafDepths ++ right.leafDepths).map (· + 1)

/- Each edge of a path leads down from another operator. -/
theorem leafDepth_le
    {e : Expr}
    {depth : Nat}
    (h : depth ∈ e.leafDepths) :
    depth ≤ e.arithmetics + e.comparisons := by
  induction e generalizing depth with
  | barPrice price =>
      rw [List.mem_singleton.mp h]
      exact Nat.zero_le _
  | binary op left right ihLeft ihRight =>
      rcases List.mem_map.mp h with ⟨below, hMem, rfl⟩
      have hBelow :
          below ≤
            left.arithmetics + left.comparisons +
              (right.arithmetics + right.comparisons) := by
        rcases List.mem_append.mp hMem with hLeft | hRight
        · exact Nat.le_add_right_of_le (ihLeft hLeft)
        · exact Nat.le_add_left_of_le (ihRight hRight)
      cases op with
      | arith op =>
          simp only [arithmetics, comparisons]
          omega
      | compare op =>
          simp only [arithmetics, comparisons]
          omega

end Expr

end BarRules

------------------------------------------------------------
-- Tokens From Left to Right
------------------------------------------------------------

namespace BarRules

namespace TokenKind

/- The token is a parenthesis. -/
def isParen : TokenKind → Bool
  | .openParen => true
  | .closeParen => true
  | _ => false

end TokenKind

namespace Grammar

/-
  The prices of tokens: the words that an offset follows, with
  this offset.
-/
def pricePairs : List TokenKind → List BarPrice
  | .price field :: .offset bars :: rest =>
      ⟨field, bars⟩ :: pricePairs rest
  | _ :: rest => pricePairs rest
  | [] => []

namespace Derives

variable {part : Part}
variable {tokens : List TokenKind}
variable {e : Expr}

/- A tree keeps all tokens but the parentheses, in order. -/
theorem inOrder_eq
    (h : Derives part tokens e) :
    e.inOrder = tokens.filter (fun kind => !kind.isParen) := by
  induction h with
  | price field bars => rfl
  | parens _ ih => simpa [TokenKind.isParen] using ih
  | factor _ ih => exact ih
  | scale op _ _ _ ihLeft ihRight =>
      simp [Expr.inOrder, TokenKind.isParen, ihLeft, ihRight]
  | term _ ih => exact ih
  | shift op _ _ _ ihLeft ihRight =>
      simp [Expr.inOrder, TokenKind.isParen, ihLeft, ihRight]
  | compare op _ _ ihLeft ihRight =>
      simp [Expr.inOrder, TokenKind.isParen, ihLeft, ihRight]

/-
  A part starts and ends with whole prices, so its prices are
  found whatever follows it.
-/
theorem pricePairs_append
    (h : Derives part tokens e)
    (rest : List TokenKind) :
    pricePairs (tokens ++ rest) =
      e.prices ++ pricePairs rest := by
  induction h generalizing rest with
  | price field bars => rfl
  | parens _ ih => simp [pricePairs, ih]
  | factor _ ih => exact ih rest
  | scale op _ _ _ ihLeft ihRight =>
      simp [pricePairs, Expr.prices, ihLeft, ihRight]
  | term _ ih => exact ih rest
  | shift op _ _ _ ihLeft ihRight =>
      simp [pricePairs, Expr.prices, ihLeft, ihRight]
  | compare op _ _ ihLeft ihRight =>
      simp [pricePairs, Expr.prices, ihLeft, ihRight]

/- A tree has the prices of its tokens, in order. -/
theorem pricePairs_eq
    (h : Derives part tokens e) :
    pricePairs tokens = e.prices := by
  have hPairs := h.pricePairs_append []
  rwa [List.append_nil, pricePairs, List.append_nil] at hPairs

/- The offsets of the tokens are those of the prices. -/
theorem offset_mem_iff
    (h : Derives part tokens e)
    (bars : UInt64) :
    .offset bars ∈ tokens ↔
      ∃ price ∈ e.prices, price.offset = bars := by
  rw [← Expr.offset_mem_inOrder_iff, h.inOrder_eq,
    List.mem_filter]
  simp [TokenKind.isParen]

end Derives

end Grammar

end BarRules

------------------------------------------------------------
-- Accepted Tokens
------------------------------------------------------------

namespace BarRules

namespace Rule

/-
  Reading a rule loses, doubles and moves no token.  From left
  to right, the tree has the tokens without the parentheses;
  so its prices are those of the tokens, and its lookback is
  the largest offset.  The one comparison is the root, the
  arithmetic is that of the tokens, and the limit on it bounds
  every path down the tree.
-/
theorem ofTokens_loses_nothing
    {tokens : List Token}
    {rule : String}
    {e : Expr}
    (h : ofTokens tokens rule = .ok e) :
    e.inOrder =
        (tokens.map Token.kind).filter
          (fun kind => !kind.isParen) ∧
      e.prices = Grammar.pricePairs (tokens.map Token.kind) ∧
      (.offset e.lookback ∈ tokens.map Token.kind ∧
        ∀ bars, .offset bars ∈ tokens.map Token.kind →
          bars ≤ e.lookback) ∧
      (e.compares = true ∧ e.comparisons = 1) ∧
      (e.arithmetics =
          (tokens.map Token.kind).countP
            TokenKind.isArithmetic ∧
        e.arithmetics ≤ 256) ∧
      ∀ depth ∈ e.leafDepths, depth ≤ 257 := by
  have hRead := (ofTokens_eq_ok_iff_read ..).mp h
  rcases Grammar.derives_of_read hRead with
    ⟨hDerives, hLimit, _⟩
  have hCount := hDerives.countP_isArithmetic
  have hOnce : e.comparisons = 1 := hDerives.comparisons_eq
  rw [hCount] at hLimit
  refine
    ⟨hDerives.inOrder_eq, hDerives.pricePairs_eq.symm,
      ⟨?_, ?_⟩, ⟨hDerives.compares_eq, hOnce⟩,
      ⟨hCount.symm, hLimit⟩, ?_⟩
  · exact (hDerives.offset_mem_iff _).mpr
      e.exists_offset_eq_lookback
  · intro bars hBars
    rcases (hDerives.offset_mem_iff bars).mp hBars with
      ⟨price, hMem, rfl⟩
    exact Expr.le_lookback hMem
  · intro depth hDepth
    calc
      depth ≤ e.arithmetics + e.comparisons :=
        Expr.leafDepth_le hDepth
      _ ≤ 256 + 1 := by
        rw [hOnce]
        exact Nat.add_le_add_right hLimit 1

/-
  The tree of a difference of a product, in parentheses that
  are not needed.
-/
theorem ofTokens_loses_nothing_difference :
    let kinds : List TokenKind :=
      [.openParen, .price .high, .offset 3,
        .operator (.arith .subtract), .openParen, .price .low,
        .offset 12, .operator (.arith .multiply), .price .high,
        .offset 0, .closeParen, .closeParen,
        .operator (.compare .atLeast), .price .opening,
        .offset 12]
    let e : Expr :=
      .binary (.compare .atLeast)
        (.binary (.arith .subtract) (.barPrice ⟨.high, 3⟩)
          (.binary (.arith .multiply) (.barPrice ⟨.low, 12⟩)
            (.barPrice ⟨.high, 0⟩)))
        (.barPrice ⟨.opening, 12⟩)
    ofTokens (kinds.map (⟨·, 7⟩)) "" = .ok e ∧
      e.inOrder = kinds.filter (fun kind => !kind.isParen) ∧
      e.prices = Grammar.pricePairs kinds ∧
      e.lookback = 12 ∧
      e.arithmetics = 2 ∧
      ∀ depth ∈ e.leafDepths, depth ≤ 257 := by
  intro kinds e
  have hRead :
      ofTokens (kinds.map (⟨·, 7⟩)) "" = .ok e := by
    decide +kernel
  rcases ofTokens_loses_nothing hRead with
    ⟨hOrder, hPrices, _, _, _, hDepths⟩
  exact
    ⟨hRead, hOrder, hPrices, by decide, by decide, hDepths⟩

end Rule

end BarRules
