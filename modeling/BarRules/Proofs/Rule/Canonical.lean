import BarRules.Proofs.Grammar.Reading
import BarRules.Proofs.Token.Spelling

/-
  Canonical text is read back as the tree that it was written
  from.

  Key definitions include:
    * `BarRules.Expr.kinds`
    * `BarRules.Expr.operandKinds`

  Key theorems include:
    * `BarRules.Expr.spells_canonical`
    * `BarRules.Expr.derives_operandKinds`
    * `BarRules.Expr.nestsWithin_operandKinds`
    * `BarRules.Expr.derives_kinds_iff`
    * `BarRules.Rule.parse_canonical`

  Every pair of parentheses in canonical text holds an operator
  of its own, so the text of a rule nests no deeper than its
  tree has arithmetic operators.
-/

------------------------------------------------------------
-- Tokens of an Expression
------------------------------------------------------------

namespace BarRules

namespace Expr

/-
  The tokens of an operand: a compound expression stands in
  parentheses, a bar price does not.
-/
def encloseKinds
    (operand : Expr)
    (kinds : List TokenKind) :
    List TokenKind :=
  match operand with
  | .barPrice _ => kinds
  | .binary _ _ _ => .openParen :: kinds ++ [.closeParen]

/- The tokens of the canonical text. -/
def kinds : Expr → List TokenKind
  | .barPrice price =>
      [.price price.field, .offset price.offset]
  | .binary op left right =>
      left.encloseKinds left.kinds ++
        .operator op :: right.encloseKinds right.kinds

/- The tokens of an expression that stands as an operand. -/
def operandKinds (e : Expr) : List TokenKind :=
  e.encloseKinds e.kinds

/- Canonical text puts a blank around each operator. -/
theorem toList_canonical_binary
    (op : Operator)
    (left right : Expr) :
    (Expr.binary op left right).canonical.toList =
      (left.enclose left.canonical).toList ++
        ([' '] ++
          ((op.symbol.toList ++ [' ']) ++
            (right.enclose right.canonical).toList)) := by
  simp [canonical, render]

/- Enclosed text spells enclosed tokens. -/
theorem spells_enclose
    (e : Expr)
    {text : String}
    {kinds : List TokenKind}
    (hText : Scan.Spells text.toList kinds) :
    Scan.Spells (e.enclose text).toList
      (e.encloseKinds kinds) := by
  cases e with
  | barPrice price => exact hText
  | binary op left right =>
      have hSpells :=
        Scan.spells_openParen.append
          (hText.append Scan.spells_closeParen)
      simpa [enclose, encloseKinds] using hSpells

/- The canonical text spells the tokens of the tree. -/
theorem spells_canonical (e : Expr) :
    Scan.Spells e.canonical.toList e.kinds := by
  induction e with
  | barPrice price => exact Scan.spells_price price
  | binary op left right ihLeft ihRight =>
      have hBlank : Text.isBlank ' ' = true := by decide
      rw [toList_canonical_binary]
      exact (spells_enclose left ihLeft).append
        ((Scan.spells_blank hBlank).append
          ((Scan.spells_operator op).append
            (spells_enclose right ihRight)))

/- No parenthesis stays open after the tokens of a tree. -/
theorem openAfter_encloseKinds
    (e : Expr)
    {kinds : List TokenKind}
    (hKinds : ∀ depth, Grammar.openAfter depth kinds = depth)
    (depth : Nat) :
    Grammar.openAfter depth (e.encloseKinds kinds) =
      depth := by
  cases e <;> simp [encloseKinds, Grammar.nest, hKinds]

/- The tokens of a tree close what they open. -/
theorem openAfter_kinds
    (e : Expr)
    (depth : Nat) :
    Grammar.openAfter depth e.kinds = depth := by
  induction e generalizing depth with
  | barPrice price => rfl
  | binary op left right ihLeft ihRight =>
      simp [kinds, Grammar.nest,
        openAfter_encloseKinds left ihLeft,
        openAfter_encloseKinds right ihRight]

/- An operand closes what it opens. -/
theorem openAfter_operandKinds
    (e : Expr)
    (depth : Nat) :
    Grammar.openAfter depth e.operandKinds = depth :=
  openAfter_encloseKinds e (openAfter_kinds e) depth

/- The operator of a tree stands at the depth of the tree. -/
theorem eachNested_kinds_iff
    {suits : Nat → TokenKind → Prop}
    (depth : Nat)
    (op : Operator)
    (left right : Expr) :
    Grammar.EachNested suits depth
        (Expr.binary op left right).kinds ↔
      Grammar.EachNested suits depth left.operandKinds ∧
        suits depth (.operator op) ∧
        Grammar.EachNested suits depth right.operandKinds := by
  have hKinds :
      (Expr.binary op left right).kinds =
        left.operandKinds ++
          .operator op :: right.operandKinds :=
    rfl
  rw [hKinds, Grammar.eachNested_append_iff,
    Grammar.eachNested_cons_iff, openAfter_operandKinds]
  rfl

/- A compound operand stands one level deeper. -/
theorem eachNested_operandKinds_iff
    {suits : Nat → TokenKind → Prop}
    (depth : Nat)
    (op : Operator)
    (left right : Expr) :
    Grammar.EachNested suits depth
        (Expr.binary op left right).operandKinds ↔
      suits depth .openParen ∧
        Grammar.EachNested suits (depth + 1)
          (Expr.binary op left right).kinds ∧
        suits (depth + 1) .closeParen := by
  have hKinds :
      (Expr.binary op left right).operandKinds =
        .openParen ::
          ((Expr.binary op left right).kinds ++
            [.closeParen]) :=
    rfl
  rw [hKinds, Grammar.eachNested_cons_iff,
    Grammar.eachNested_append_iff,
    Grammar.eachNested_cons_iff, Grammar.nest, openAfter_kinds]
  simp

/- The tokens of a tree hold its comparisons. -/
theorem countP_compares_kinds (e : Expr) :
    e.kinds.countP TokenKind.compares = e.comparisons := by
  have hEnclose :
      ∀ (e : Expr) (kinds : List TokenKind),
        (e.encloseKinds kinds).countP TokenKind.compares =
          kinds.countP TokenKind.compares := by
    intro e kinds
    cases e <;> simp [encloseKinds, TokenKind.compares]
  induction e with
  | barPrice price => rfl
  | binary op left right ihLeft ihRight =>
      cases op <;>
        simp [kinds, hEnclose, List.countP_cons,
          TokenKind.compares, Operator.compares, comparisons,
          ihLeft, ihRight, Nat.add_assoc]

end Expr

end BarRules

------------------------------------------------------------
-- Derivations of Canonical Tokens
------------------------------------------------------------

namespace BarRules

namespace Expr

open Grammar

/- Two operands and an operator make up a sum. -/
theorem derives_binary
    (op : Arithmetic)
    {front back : List TokenKind}
    {left right : Expr}
    (hLeft : Derives .operand front left)
    (hRight : Derives .operand back right) :
    Derives .sum (front ++ .operator (.arith op) :: back)
      (.binary (.arith op) left right) := by
  cases op with
  | add | subtract =>
      exact Derives.shift _ (by simp)
        (Derives.term (Derives.factor hLeft))
        (Derives.factor hRight)
  | multiply | divide =>
      exact Derives.term
        (Derives.scale _ (by simp) (Derives.factor hLeft)
          hRight)

/- Arithmetic without comparisons stands as an operand. -/
theorem derives_operandKinds
    {e : Expr}
    (h : e.comparisons = 0) :
    Derives .operand e.operandKinds e := by
  induction e with
  | barPrice price => exact Derives.price _ _
  | binary op left right ihLeft ihRight =>
      cases op with
      | arith op =>
          simp only [comparisons, Nat.add_eq_zero_iff] at h
          exact Derives.parens
            (derives_binary op (ihLeft h.1) (ihRight h.2))
      | compare op =>
          simp [comparisons] at h

/-
  Each level of parentheses around arithmetic holds one of its
  operators.
-/
theorem nestsWithin_operandKinds
    {e : Expr}
    (h : e.comparisons = 0)
    {limit depth : Nat}
    (hLimit : depth + e.arithmetics ≤ limit) :
    NestsWithin limit depth e.operandKinds := by
  induction e generalizing depth with
  | barPrice price => exact nestsWithin_price _ _ _ _
  | binary op left right ihLeft ihRight =>
      cases op with
      | arith op =>
          simp only [comparisons, Nat.add_eq_zero_iff] at h
          simp only [arithmetics] at hLimit
          have hInner :
              NestsWithin limit (depth + 1)
                (Expr.binary (.arith op) left right).kinds :=
            (eachNested_kinds_iff ..).mpr
              ⟨ihLeft h.1 (by omega), by simp,
                ihRight h.2 (by omega)⟩
          exact (eachNested_operandKinds_iff ..).mpr
            ⟨fun _ => by omega, hInner, by simp⟩
      | compare op =>
          simp [comparisons] at h

/- A comparison of arithmetic is a rule. -/
theorem derives_kinds
    {e : Expr}
    (hCompares : e.compares = true)
    (hOnce : e.comparisons = 1) :
    Derives .rule e.kinds e := by
  cases e with
  | barPrice price => cases hCompares
  | binary op left right =>
      cases op with
      | arith op => cases hCompares
      | compare op =>
          simp only [comparisons] at hOnce
          have hLeft :=
            derives_operandKinds
              (show left.comparisons = 0 by omega)
          have hRight :=
            derives_operandKinds
              (show right.comparisons = 0 by omega)
          exact Derives.compare op
            (Derives.term (Derives.factor hLeft))
            (Derives.term (Derives.factor hRight))

/- A rule nests no deeper than its arithmetic. -/
theorem nestsWithin_kinds
    {e : Expr}
    (hCompares : e.compares = true)
    (hOnce : e.comparisons = 1)
    {limit : Nat}
    (hLimit : e.arithmetics ≤ limit) :
    NestsWithin limit 0 e.kinds := by
  cases e with
  | barPrice price => cases hCompares
  | binary op left right =>
      cases op with
      | arith op => cases hCompares
      | compare op =>
          simp only [comparisons] at hOnce
          simp only [arithmetics] at hLimit
          have hLeft :
              NestsWithin limit 0 left.operandKinds :=
            nestsWithin_operandKinds (by omega) (by omega)
          have hRight :
              NestsWithin limit 0 right.operandKinds :=
            nestsWithin_operandKinds (by omega) (by omega)
          exact (eachNested_kinds_iff ..).mpr
            ⟨hLeft, by simp, hRight⟩

end Expr

end BarRules

------------------------------------------------------------
-- The Place of the Comparison
------------------------------------------------------------

namespace BarRules

namespace Expr

open Grammar

/- Comparisons stand inside some open parentheses. -/
def ComparesWithin
    (least depth : Nat)
    (tokens : List TokenKind) :
    Prop :=
  EachNested
    (fun depth token =>
      token.compares = true → least ≤ depth)
    depth tokens

/-
  The tokens of a tree do not leave the parentheses that they
  stand in, and compound operands bring their own.
-/
theorem comparesWithin_kinds
    (e : Expr)
    {least depth : Nat} :
    (least ≤ depth → ComparesWithin least depth e.kinds) ∧
      (least ≤ depth + 1 →
        ComparesWithin least depth e.operandKinds) := by
  induction e generalizing depth with
  | barPrice price =>
      have hPrice :
          ComparesWithin least depth
            [.price price.field, .offset price.offset] := by
        simp [ComparesWithin, eachNested_cons_iff,
          TokenKind.compares]
      exact ⟨fun _ => hPrice, fun _ => hPrice⟩
  | binary op left right ihLeft ihRight =>
      have hKinds :
          ∀ depth, least ≤ depth →
            ComparesWithin least depth
              (Expr.binary op left right).kinds := by
        intro depth hLeast
        exact (eachNested_kinds_iff ..).mpr
          ⟨ihLeft.2 (by omega), fun _ => hLeast,
            ihRight.2 (by omega)⟩
      refine ⟨hKinds depth, ?_⟩
      intro hLeast
      exact (eachNested_operandKinds_iff ..).mpr
        ⟨by simp [TokenKind.compares],
          hKinds (depth + 1) hLeast,
          by simp [TokenKind.compares]⟩

/-
  The tokens of a tree make up a rule only if the outermost
  operator is the one comparison.  A comparison below it would
  stand inside parentheses, where no rule has one.
-/
theorem compares_of_derives_kinds
    {e e' : Expr}
    (h : Derives .rule e.kinds e') :
    e.compares = true ∧ e.comparisons = 1 := by
  have hOnce : e.comparisons = 1 := by
    rw [← countP_compares_kinds, h.countP_compares,
      h.comparisons_eq]
    rfl
  refine ⟨?_, hOnce⟩
  cases e with
  | barPrice price => cases hOnce
  | binary op left right =>
      cases op with
      | compare op => rfl
      | arith arithmetic =>
          generalize hTokens :
            (Expr.binary (.arith arithmetic) left right).kinds =
              tokens at h
          cases h with
          | @compare front back l r op hLeft hRight =>
              have hWithin :
                  ComparesWithin 1 0
                    (Expr.binary (.arith arithmetic) left
                      right).kinds := by
                refine (eachNested_kinds_iff ..).mpr
                  ⟨(comparesWithin_kinds left).2 (by omega),
                    ?_, (comparesWithin_kinds right).2
                      (by omega)⟩
                simp [TokenKind.compares, Operator.compares]
              have hDepth :=
                hWithin front (.operator (.compare op)) back
                  hTokens rfl
              rw [hLeft.openAfter_eq] at hDepth
              omega

/- Which trees have canonical tokens that make up a rule. -/
theorem derives_kinds_iff
    (e e' : Expr) :
    Derives .rule e.kinds e' ↔
      e' = e ∧ e.compares = true ∧ e.comparisons = 1 := by
  constructor
  · intro h
    rcases compares_of_derives_kinds h with
      ⟨hCompares, hOnce⟩
    exact
      ⟨h.unique (derives_kinds hCompares hOnce), hCompares,
        hOnce⟩
  · rintro ⟨rfl, hCompares, hOnce⟩
    exact derives_kinds hCompares hOnce

end Expr

end BarRules

------------------------------------------------------------
-- Reading Canonical Text
------------------------------------------------------------

namespace BarRules

namespace Rule

/- A rule is accepted as its tokens are. -/
theorem parse_eq_ok_iff
    (rule : String)
    (e : Expr) :
    parse rule = .ok e ↔
      ∃ tokens,
        scan rule = .ok tokens ∧
          Grammar.read (tokens.map Token.kind) = .ok e := by
  unfold parse
  cases hScan : scan rule with
  | error fault => simp
  | ok tokens => simp [ofTokens_eq_ok_iff_read]

/- Canonical text is read as the tokens of its tree are. -/
theorem parse_canonical_iff_read
    (e e' : Expr) :
    parse e.canonical = .ok e' ↔
      Grammar.read e.kinds = .ok e' := by
  rcases e.spells_canonical.scan_eq with
    ⟨tokens, hScan, hKinds⟩
  rw [parse_eq_ok_iff]
  constructor
  · rintro ⟨others, hOthers, hRead⟩
    rw [hScan] at hOthers
    cases hOthers
    rwa [hKinds] at hRead
  · intro hRead
    rw [← hKinds] at hRead
    exact ⟨tokens, hScan, hRead⟩

/- Which canonical texts are accepted, and as what. -/
theorem parse_canonical_eq_ok_iff
    (e e' : Expr) :
    parse e.canonical = .ok e' ↔
      e' = e ∧
        e.compares = true ∧
        e.comparisons = 1 ∧
        e.arithmetics ≤ 256 := by
  rw [parse_canonical_iff_read, Grammar.read_eq_ok_iff,
    Expr.derives_kinds_iff]
  constructor
  · rintro ⟨⟨hEq, hCompares, hOnce⟩, hCount, hNests⟩
    have hDerives := Expr.derives_kinds hCompares hOnce
    rw [hDerives.countP_isArithmetic] at hCount
    exact ⟨hEq, hCompares, hOnce, hCount⟩
  · rintro ⟨hEq, hCompares, hOnce, hCount⟩
    have hDerives := Expr.derives_kinds hCompares hOnce
    refine ⟨⟨hEq, hCompares, hOnce⟩, ?_,
      Expr.nestsWithin_kinds hCompares hOnce hCount⟩
    rw [hDerives.countP_isArithmetic]
    exact hCount

/- The tree of an accepted rule is a rule in the limits. -/
theorem shape_of_parse
    {rule : String}
    {e : Expr}
    (h : parse rule = .ok e) :
    e.compares = true ∧
      e.comparisons = 1 ∧
      e.arithmetics ≤ 256 := by
  rcases (parse_eq_ok_iff ..).mp h with
    ⟨tokens, _, hRead⟩
  rcases Grammar.derives_of_read hRead with
    ⟨hDerives, hCount, _⟩
  rw [hDerives.countP_isArithmetic] at hCount
  exact
    ⟨hDerives.compares_eq, hDerives.comparisons_eq, hCount⟩

/-
  Canonical text is never misread.  It is accepted exactly for
  a comparison of arithmetic with at most 256 operators, it is
  read as the tree that it was written from, and this holds of
  the tree of every accepted rule.
-/
theorem parse_canonical (e : Expr) :
    (∀ e', parse e.canonical = .ok e' ↔
      e' = e ∧
        e.compares = true ∧
        e.comparisons = 1 ∧
        e.arithmetics ≤ 256) ∧
      ∀ rule, parse rule = .ok e →
        parse e.canonical = .ok e :=
  ⟨parse_canonical_eq_ok_iff e,
    fun _ hRule =>
      (parse_canonical_eq_ok_iff e e).mpr
        ⟨rfl, shape_of_parse hRule⟩⟩

end Rule

end BarRules
