import BarRules.Proofs.Target.Characters

/-
  The text around the prices of an expression.

  Key definitions include:
    * `BarRules.Text.fill`
    * `BarRules.Text.weld`
    * `BarRules.Expr.gaps`

  Key theorems include:
    * `BarRules.Text.fill_weld`
    * `BarRules.Expr.length_gaps`
    * `BarRules.Expr.render_eq_fill`
    * `BarRules.Expr.emit_shares_gaps`

  A written expression is a row of gaps with a price between
  neighbours.  The gaps hold the operators, the blanks and the
  parentheses.  They are a matter of the tree alone, so rules
  and all platforms have them in common.
-/

------------------------------------------------------------
-- Gaps and Fillings
------------------------------------------------------------

namespace BarRules

namespace Text

/- The gaps in order, with a filling between neighbours. -/
def fill : List String → List String → String
  | gap :: gaps, filling :: fillings =>
      gap ++ filling ++ fill gaps fillings
  | gap :: _, [] => gap
  | [], _ => ""

/-
  Two rows of gaps end to end.  The last gap of the first row
  and the first gap of the second one become one gap.
-/
def weld : List String → List String → List String
  | [], later => later
  | [gap], [] => [gap]
  | [gap], next :: later => (gap ++ next) :: later
  | gap :: next :: gaps, later =>
      gap :: weld (next :: gaps) later

variable {former later : List String}
variable {fillings others : List String}

/- Where two rows meet, one gap is lost. -/
theorem length_weld
    {m n : Nat}
    (hFormer : former.length = m + 1)
    (hLater : later.length = n + 1) :
    (weld former later).length = m + n + 1 := by
  fun_induction weld former later generalizing m with
  | case1 later => cases hFormer
  | case2 gap => cases hLater
  | case3 gap next later =>
      simp only [List.length_cons, List.length_nil]
        at hFormer hLater ⊢
      omega
  | case4 gap next gaps later ih =>
      cases m with
      | zero => simp at hFormer
      | succ m =>
          have hRest :=
            ih (Nat.add_right_cancel hFormer) hLater
          rw [List.length_cons, hRest]
          omega

/- What is allowed in all gaps is allowed where two meet. -/
theorem madeOf_of_mem_weld
    {allowed : Char → Prop}
    (hFormer : ∀ gap ∈ former, MadeOf allowed gap)
    (hLater : ∀ gap ∈ later, MadeOf allowed gap) :
    ∀ gap ∈ weld former later, MadeOf allowed gap := by
  fun_induction weld former later with
  | case1 later => exact hLater
  | case2 gap => exact hFormer
  | case3 gap next later =>
      rw [List.forall_mem_cons] at hLater ⊢
      rw [List.forall_mem_singleton] at hFormer
      exact
        ⟨(madeOf_append gap next).mpr ⟨hFormer, hLater.1⟩,
          hLater.2⟩
  | case4 gap next gaps later ih =>
      rw [List.forall_mem_cons] at hFormer ⊢
      exact ⟨hFormer.1, ih hFormer.2 hLater⟩

/- Welded gaps take the fillings of both rows in order. -/
theorem fill_weld
    (hFormer : former.length = fillings.length + 1)
    (hLater : later ≠ []) :
    fill (weld former later) (fillings ++ others) =
      fill former fillings ++ fill later others := by
  fun_induction weld former later generalizing fillings with
  | case1 later => cases hFormer
  | case2 gap => exact absurd rfl hLater
  | case3 gap next later =>
      have hNone : fillings = [] :=
        List.eq_nil_of_length_eq_zero
          (Nat.add_right_cancel hFormer).symm
      subst hNone
      cases others <;> simp [fill, String.append_assoc]
  | case4 gap next gaps later ih =>
      cases fillings with
      | nil => simp at hFormer
      | cons filling fillings =>
          have hRest :=
            ih (Nat.add_right_cancel hFormer) hLater
          rw [List.cons_append, fill, hRest, fill]
          simp only [String.append_assoc]

/- A gap in front stands before everything. -/
theorem fill_weld_front
    (gap : String)
    (hLater : later ≠ []) :
    fill (weld [gap] later) fillings =
      gap ++ fill later fillings := by
  have hWeld :
      fill (weld [gap] later) ([] ++ fillings) =
        fill [gap] [] ++ fill later fillings :=
    fill_weld rfl hLater
  exact hWeld

/- A gap at the end stands behind everything. -/
theorem fill_weld_back
    (hFormer : former.length = fillings.length + 1)
    (gap : String) :
    fill (weld former [gap]) fillings =
      fill former fillings ++ gap := by
  have hWeld :
      fill (weld former [gap]) (fillings ++ []) =
        fill former fillings ++ fill [gap] [] :=
    fill_weld hFormer (by simp)
  rwa [List.append_nil] at hWeld

end Text

end BarRules

------------------------------------------------------------
-- Gaps of Expressions
------------------------------------------------------------

namespace BarRules

namespace Expr

open Text

/-
  The gaps of an operand: a compound expression stands in
  parentheses, a bar price does not.
-/
def encloseGaps
    (operand : Expr)
    (gaps : List String) :
    List String :=
  match operand with
  | .barPrice _ => gaps
  | .binary _ _ _ => weld ["("] (weld gaps [")"])

/- The text before, between and after the prices of a tree. -/
def gaps : Expr → List String
  | .barPrice _ => ["", ""]
  | .binary op left right =>
      weld (left.encloseGaps left.gaps)
        (weld [" " ++ op.symbol ++ " "]
          (right.encloseGaps right.gaps))

/- Parentheses go into gaps that are there. -/
theorem length_encloseGaps
    (operand : Expr)
    {gaps : List String}
    {n : Nat}
    (h : gaps.length = n + 1) :
    (operand.encloseGaps gaps).length = n + 1 := by
  cases operand with
  | barPrice price => exact h
  | binary op left right =>
      have hClosed : (weld gaps [")"]).length = n + 1 :=
        length_weld (n := 0) h rfl
      have hOpened :
          (weld ["("] (weld gaps [")"])).length = 0 + n + 1 :=
        length_weld rfl hClosed
      rwa [Nat.zero_add] at hOpened

/- There is one gap more than there are prices. -/
theorem length_gaps (e : Expr) :
    e.gaps.length = e.prices.length + 1 := by
  induction e with
  | barPrice price => rfl
  | binary op left right ihLeft ihRight =>
      have hBehind :
          (weld [" " ++ op.symbol ++ " "]
              (right.encloseGaps right.gaps)).length =
            0 + right.prices.length + 1 :=
        length_weld rfl (length_encloseGaps right ihRight)
      rw [gaps,
        length_weld (length_encloseGaps left ihLeft) hBehind,
        prices, List.length_append, Nat.zero_add]

/- Parentheses are of the layout. -/
theorem madeOf_of_mem_encloseGaps
    (operand : Expr)
    {gaps : List String}
    (h : ∀ gap ∈ gaps, MadeOf (· ∈ layout.toList) gap) :
    ∀ gap ∈ operand.encloseGaps gaps,
      MadeOf (· ∈ layout.toList) gap := by
  cases operand with
  | barPrice price => exact h
  | binary op left right =>
      have hOpen :
          ∀ gap ∈ ["("], MadeOf (· ∈ layout.toList) gap := by
        decide
      have hClose :
          ∀ gap ∈ [")"], MadeOf (· ∈ layout.toList) gap := by
        decide
      exact
        madeOf_of_mem_weld hOpen (madeOf_of_mem_weld h hClose)

/- Gaps hold operators, blanks and parentheses only. -/
theorem madeOf_of_mem_gaps (e : Expr) :
    ∀ gap ∈ e.gaps, MadeOf (· ∈ layout.toList) gap := by
  induction e with
  | barPrice price =>
      have hEmpty :
          ∀ gap ∈ ["", ""],
            MadeOf (· ∈ layout.toList) gap := by
        decide
      exact hEmpty
  | binary op left right ihLeft ihRight =>
      have hBlank : MadeOf (· ∈ layout.toList) " " := by decide
      have hOperator :
          ∀ gap ∈ [" " ++ op.symbol ++ " "],
            MadeOf (· ∈ layout.toList) gap := by
        simp [hBlank, madeOf_symbol op]
      exact
        madeOf_of_mem_weld
          (madeOf_of_mem_encloseGaps left ihLeft)
          (madeOf_of_mem_weld hOperator
            (madeOf_of_mem_encloseGaps right ihRight))

/- Filled gaps of an operand are its text. -/
theorem fill_encloseGaps
    (operand : Expr)
    {gaps fillings : List String}
    (h : gaps.length = fillings.length + 1) :
    fill (operand.encloseGaps gaps) fillings =
      operand.enclose (fill gaps fillings) := by
  cases operand with
  | barPrice price => rfl
  | binary op left right =>
      have hClosed : weld gaps [")"] ≠ [] :=
        List.ne_nil_of_length_eq_add_one
          (length_weld (n := 0) h rfl)
      rw [encloseGaps, fill_weld_front "(" hClosed,
        fill_weld_back h, enclose, String.append_assoc]

/- The text of an expression is its gaps with its prices. -/
theorem render_eq_fill
    (spell : BarPrice → String)
    (e : Expr) :
    e.render spell = fill e.gaps (e.prices.map spell) := by
  induction e with
  | barPrice price => simp [render, gaps, prices, fill]
  | binary op left right ihLeft ihRight =>
      have hLeft :
          left.gaps.length =
            (left.prices.map spell).length + 1 := by
        rw [length_gaps, List.length_map]
      have hRight :
          right.gaps.length =
            (right.prices.map spell).length + 1 := by
        rw [length_gaps, List.length_map]
      have hRightGaps :=
        length_encloseGaps right (length_gaps right)
      have hBehind :
          weld [" " ++ op.symbol ++ " "]
              (right.encloseGaps right.gaps) ≠
            [] :=
        List.ne_nil_of_length_eq_add_one
          (length_weld (m := 0) rfl hRightGaps)
      rw [render, gaps, prices, List.map_append,
        fill_weld (length_encloseGaps left hLeft) hBehind,
        fill_weld_front _
          (List.ne_nil_of_length_eq_add_one hRightGaps),
        fill_encloseGaps left hLeft,
        fill_encloseGaps right hRight, ← ihLeft, ← ihRight]
      simp only [String.append_assoc]

/-
  Rules and all platforms write an expression with the same
  text around its prices, whatever the target names are.  There
  is one gap before, between and after the prices each, and the
  gaps hold operators, blanks and parentheses only.
-/
theorem emit_shares_gaps (e : Expr) :
    ∃ gaps : List String,
      gaps.length = e.prices.length + 1 ∧
        (∀ gap ∈ gaps, MadeOf (· ∈ layout.toList) gap) ∧
        e.canonical = fill gaps (e.prices.map BarPrice.text) ∧
        ∀ platform names,
          e.emit platform names =
            fill gaps (e.prices.map (platform.spell names)) := by
  refine
    ⟨e.gaps, e.length_gaps, e.madeOf_of_mem_gaps,
      render_eq_fill BarPrice.text e, ?_⟩
  intro platform names
  rw [emit_eq_render]
  exact render_eq_fill (platform.spell names) e

example :
    (Expr.binary (.compare .less)
        (.binary (.arith .subtract) (.barPrice ⟨.opening, 1⟩)
          (.barPrice ⟨.low, 2⟩))
        (.barPrice ⟨.closing, 0⟩)).gaps =
      ["(", " - ", ") < ", ""] := by
  decide

end Expr

end BarRules
