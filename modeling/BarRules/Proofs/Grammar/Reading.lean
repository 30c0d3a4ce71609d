import BarRules.Proofs.Grammar.Derivation
import BarRules.Proofs.Grammar.Following

/-
  Reading accepts exactly the grammar.

  Key definitions include:
    * `BarRules.Grammar.Taken.Explains`
    * `BarRules.Grammar.ReadsBack`

  Key theorems include:
    * `BarRules.Grammar.sum_explains`
    * `BarRules.Grammar.Derives.readsBack`
    * `BarRules.Grammar.read_eq_ok_iff`
    * `BarRules.Grammar.Derives.unique`

  What a reader takes is derived from the tokens that it takes.
  Conversely, a reader that meets the tokens of a derivation
  takes them all.  The loop of a chain follows a left recursive
  derivation one operator at a time: reading the tokens of the
  left operand first is the same as going on from it.
-/

------------------------------------------------------------
-- Steps of the Readers
------------------------------------------------------------

namespace BarRules

namespace Grammar

variable {tokens : List TokenKind}

/- What an operand is, with a number of levels to go. -/
theorem operand_eq_ok
    {room : Nat}
    {taken : Taken tokens}
    (h : operand room tokens = .ok taken) :
    (∃ field bars,
        tokens =
            .price field :: .offset bars :: taken.rest ∧
          taken.expr = .barPrice ⟨field, bars⟩) ∨
      (∃ less after, ∃ inner : Taken after,
        room = less + 1 ∧
          tokens = .openParen :: after ∧
          sum (operand less) after = .ok inner ∧
          inner.rest = .closeParen :: taken.rest ∧
          taken.expr = inner.expr) := by
  unfold operand at h
  split at h
  · cases h
  · rename_i field bars rest
    cases h
    exact Or.inl ⟨field, bars, rfl, rfl⟩
  · cases h
  · cases h
  · rename_i less after
    split at h
    · cases h
    · split at h
      · cases h
      · rename_i inner hInner
        unfold close at h
        split at h
        · rename_i rest hRest
          cases h
          exact Or.inr
            ⟨less, after, inner, rfl, rfl, hInner, hRest, rfl⟩
        · cases h
        · cases h
        · cases h
  · cases h

end Grammar

end BarRules

------------------------------------------------------------
-- Readers Take Derivable Tokens
------------------------------------------------------------

namespace BarRules

namespace Grammar

/-
  What is taken stands in front of the rest, is a part of a
  rule for the expression, and nests within a limit.
-/
def Taken.Explains
    (part : Part)
    (limit depth : Nat)
    {tokens : List TokenKind}
    (taken : Taken tokens) :
    Prop :=
  ∃ front,
    tokens = front ++ taken.rest ∧
      Derives part front taken.expr ∧
      NestsWithin limit depth front

variable {joins : Arithmetic → Bool}
variable {reader : Reader}
variable {outer inner : Part}
variable {limit depth : Nat}

/-
  Operands of one part, joined by operators of a chain, make
  up another part.
-/
def ClosesUnder
    (joins : Arithmetic → Bool)
    (outer inner : Part) :
    Prop :=
  ∀ {op : Arithmetic} {front back : List TokenKind}
    {l r : Expr},
    joins op = true →
      Derives outer front l →
        Derives inner back r →
          Derives outer (front ++ .operator (.arith op) :: back)
            (.binary (.arith op) l r)

/- A joined operand is explained if both operands are. -/
theorem join_explains
    {tokens after : List TokenKind}
    {op : Arithmetic}
    {left : Taken tokens}
    {right : Taken after}
    (hCloses : ClosesUnder joins outer inner)
    (hJoins : joins op = true)
    (hRest : left.rest = .operator (.arith op) :: after)
    (hLeft : left.Explains outer limit depth)
    (hRight : right.Explains inner limit depth) :
    (left.join op hRest right).Explains
      outer limit depth := by
  rcases hLeft with ⟨front, hTokens, hFront, hFrontNests⟩
  rcases hRight with ⟨back, hAfter, hBack, hBackNests⟩
  refine
    ⟨front ++ .operator (.arith op) :: back, ?_,
      hCloses hJoins hFront hBack, ?_⟩
  · calc
      tokens = front ++ left.rest := hTokens
      _ = front ++ .operator (.arith op) :: after := by
          rw [hRest]
      _ = front ++ .operator (.arith op) :: back ++
            right.rest := by
          rw [List.append_assoc, List.cons_append, ← hAfter]
  · rw [nestsWithin_operator_iff, hFront.openAfter_eq]
    exact ⟨hFrontNests, hBackNests⟩

/- A chain keeps what it has taken explained. -/
theorem chain_explains
    {tokens : List TokenKind}
    {left taken : Taken tokens}
    (hCloses : ClosesUnder joins outer inner)
    (hReader :
      ∀ {tokens : List TokenKind} {taken : Taken tokens},
        reader tokens = .ok taken →
          taken.Explains inner limit depth)
    (hLeft : left.Explains outer limit depth)
    (h : chain joins reader left = .ok taken) :
    taken.Explains outer limit depth := by
  fun_induction chain joins reader left with
  | case1 left op after hRest hJoins fault hFault =>
      cases h
  | case2 left op after hRest hJoins right hRight ih =>
      exact ih
        (join_explains hCloses hJoins hRest hLeft
          (hReader hRight)) h
  | case3 left op after hRest hJoins =>
      cases h
      exact hLeft
  | case4 left hOther =>
      cases h
      exact hLeft

/- A chain of operands is explained from its first one. -/
theorem leftGrouped_explains
    {tokens : List TokenKind}
    {taken : Taken tokens}
    (hCloses : ClosesUnder joins outer inner)
    (hFirst :
      ∀ {tokens : List TokenKind} {e : Expr},
        Derives inner tokens e → Derives outer tokens e)
    (hReader :
      ∀ {tokens : List TokenKind} {taken : Taken tokens},
        reader tokens = .ok taken →
          taken.Explains inner limit depth)
    (h : leftGrouped joins reader tokens = .ok taken) :
    taken.Explains outer limit depth := by
  unfold leftGrouped at h
  split at h
  · cases h
  · rename_i first hOk
    rcases hReader hOk with
      ⟨front, hTokens, hFront, hNests⟩
    exact chain_explains hCloses hReader
      ⟨front, hTokens, hFirst hFront, hNests⟩ h

/- Products join operands. -/
theorem product_closes :
    ClosesUnder Arithmetic.isProduct .product .operand := by
  intro op front back l r hJoins hLeft hRight
  refine Derives.scale op ?_ hLeft hRight
  cases op <;> simp_all [Arithmetic.isProduct]

/- Sums join products. -/
theorem sum_closes :
    ClosesUnder Arithmetic.isSum .sum .product := by
  intro op front back l r hJoins hLeft hRight
  refine Derives.shift op ?_ hLeft hRight
  cases op <;>
    simp_all [Arithmetic.isSum, Arithmetic.isProduct]

/- A sum is explained if its operands are. -/
theorem sum_explains
    {tokens : List TokenKind}
    {taken : Taken tokens}
    (hReader :
      ∀ {tokens : List TokenKind} {taken : Taken tokens},
        reader tokens = .ok taken →
          taken.Explains .operand limit depth)
    (h : sum reader tokens = .ok taken) :
    taken.Explains .sum limit depth :=
  leftGrouped_explains sum_closes Derives.term
    (leftGrouped_explains product_closes Derives.factor
      hReader) h

/- A bar price is an operand without parentheses. -/
theorem price_explains
    {tokens : List TokenKind}
    {taken : Taken tokens}
    {field : PriceField}
    {bars : UInt64}
    (hTokens :
      tokens = .price field :: .offset bars :: taken.rest)
    (hExpr : taken.expr = .barPrice ⟨field, bars⟩) :
    taken.Explains .operand limit depth := by
  refine
    ⟨[.price field, .offset bars], hTokens, ?_,
      nestsWithin_price _ _ field bars⟩
  rw [hExpr]
  exact Derives.price field bars

/-
  An operand is explained: the levels that are open and the
  levels to go make up the limit.
-/
theorem operand_explains
    {room depth : Nat}
    {tokens : List TokenKind}
    {taken : Taken tokens}
    (h : operand room tokens = .ok taken) :
    taken.Explains .operand (depth + room) depth := by
  induction room generalizing depth tokens with
  | zero =>
      rcases operand_eq_ok h with
        ⟨field, bars, hTokens, hExpr⟩ |
          ⟨less, after, inner, hRoom, _⟩
      · exact price_explains hTokens hExpr
      · cases hRoom
  | succ room ih =>
      rcases operand_eq_ok h with
        ⟨field, bars, hTokens, hExpr⟩ |
          ⟨less, after, inner, hRoom, hTokens, hInner,
            hClose, hExpr⟩
      · exact price_explains hTokens hExpr
      · cases hRoom
        have hSum :
            inner.Explains .sum (depth + 1 + room)
              (depth + 1) :=
          sum_explains (fun hOk => ih hOk) hInner
        rcases hSum with ⟨front, hAfter, hFront, hNests⟩
        refine
          ⟨.openParen :: front ++ [.closeParen], ?_, ?_, ?_⟩
        · calc
            tokens = .openParen :: after := hTokens
            _ = .openParen ::
                  (front ++ .closeParen :: taken.rest) := by
                rw [← hClose, ← hAfter]
            _ = .openParen :: front ++ [.closeParen] ++
                  taken.rest := by
                simp
        · rw [hExpr]
          exact Derives.parens hFront
        · rw [show depth + (room + 1) = depth + 1 + room by
            omega]
          exact (nestsWithin_parens_iff ..).mpr
            ⟨by omega, hNests⟩

end Grammar

end BarRules

------------------------------------------------------------
-- Derivable Tokens Are Read Back
------------------------------------------------------------

namespace BarRules

namespace Grammar

/- A sum in parentheses is read as an operand. -/
theorem operand_of_parens
    {less : Nat}
    {tokens after : List TokenKind}
    {inner : Taken tokens}
    (hFirst : tokens.head? ≠ some .closeParen)
    (hInner : sum (operand less) tokens = .ok inner)
    (hClose : inner.rest = .closeParen :: after) :
    ∃ shorter,
      operand (less + 1) (.openParen :: tokens) =
        .ok ⟨inner.expr, after, shorter⟩ := by
  have hShorter :
      after.length < (TokenKind.openParen :: tokens).length := by
    have hLess := inner.shorter
    simp only [hClose, List.length_cons] at hLess ⊢
    omega
  refine ⟨hShorter, ?_⟩
  simp only [operand, hFirst, if_false, hInner]
  unfold close
  split
  · rename_i rest hRest
    rw [hClose] at hRest
    cases hRest
    rfl
  · rename_i hRest
    rw [hClose] at hRest
    cases hRest
  · rename_i found rest hNotClose hNotCompare hRest
    rw [hClose] at hRest
    cases hRest
    exact absurd rfl hNotClose
  · rename_i hRest
    rw [hClose] at hRest
    cases hRest

/-
  Reading the tokens of a part comes to the same as having
  taken its expression, whatever follows.  A product may go on
  with what follows, and so may a sum, but what follows a sum
  must not go on with its last product.
-/
def ReadsBack
    (room : Nat)
    (tokens : List TokenKind)
    (e : Expr) :
    Part → Prop
  | .operand =>
      ∀ rest, ∃ shorter,
        operand room (tokens ++ rest) =
          .ok ⟨e, rest, shorter⟩
  | .product =>
      ∀ rest, ∃ shorter,
        leftGrouped Arithmetic.isProduct (operand room)
            (tokens ++ rest) =
          chain Arithmetic.isProduct (operand room)
            ⟨e, rest, shorter⟩
  | .sum =>
      ∀ rest, Stops Arithmetic.isProduct rest →
        ∃ shorter,
          sum (operand room) (tokens ++ rest) =
            chain Arithmetic.isSum
              (leftGrouped Arithmetic.isProduct
                (operand room))
              ⟨e, rest, shorter⟩
  | .rule =>
      ∃ op back, ∃ left : Taken tokens, ∃ right : Taken back,
        sum (operand room) tokens = .ok left ∧
          left.rest = .operator (.compare op) :: back ∧
          sum (operand room) back = .ok right ∧
          right.rest = [] ∧
          e = .binary (.compare op) left.expr right.expr

variable {room : Nat}
variable {tokens : List TokenKind}
variable {e : Expr}

/- A product is taken where no factor follows. -/
theorem ReadsBack.product_eq_ok
    {rest : List TokenKind}
    (h : ReadsBack room tokens e .product)
    (hStops : Stops Arithmetic.isProduct rest) :
    ∃ shorter,
      leftGrouped Arithmetic.isProduct (operand room)
          (tokens ++ rest) =
        .ok ⟨e, rest, shorter⟩ := by
  rcases h rest with ⟨shorter, hRead⟩
  refine ⟨shorter, ?_⟩
  rw [hRead]
  exact chain_of_stops hStops

/- A sum is taken where no arithmetic follows. -/
theorem ReadsBack.sum_eq_ok
    (h : ReadsBack room tokens e .sum)
    (rest : List TokenKind)
    (hStops : ∀ joins, Stops joins rest) :
    ∃ shorter,
      sum (operand room) (tokens ++ rest) =
        .ok ⟨e, rest, shorter⟩ := by
  rcases h rest (hStops _) with ⟨shorter, hRead⟩
  refine ⟨shorter, ?_⟩
  rw [hRead]
  exact chain_of_stops (hStops _)

/- A chain goes on by an operator and one more operand. -/
theorem chain_eq_chain_join
    {joins : Arithmetic → Bool}
    {reader : Reader}
    {back rest : List TokenKind}
    {op : Arithmetic}
    {l r : Expr}
    {hLeft :
      (.operator (.arith op) :: (back ++ rest)).length <
        tokens.length}
    {hBack : rest.length < (back ++ rest).length}
    (hJoins : joins op = true)
    (hRight : reader (back ++ rest) = .ok ⟨r, rest, hBack⟩) :
    ∃ shorter : rest.length < tokens.length,
      chain joins reader
          ⟨l, .operator (.arith op) :: (back ++ rest), hLeft⟩ =
        chain joins reader
          ⟨.binary (.arith op) l r, rest, shorter⟩ :=
  ⟨_, chain_of_operator rfl hJoins hRight⟩

/-
  The induction is on the derivation.  The levels to go are
  what the limit leaves over the open parentheses, so they
  change together with the depth.
-/
theorem Derives.readsBack
    {part : Part}
    (h : Derives part tokens e)
    {depth room : Nat}
    (hNests : NestsWithin (depth + room) depth tokens) :
    ReadsBack room tokens e part := by
  induction h generalizing depth room with
  | price field bars =>
      intro rest
      have hShorter :
          rest.length <
            ([TokenKind.price field, .offset bars] ++
              rest).length := by
        simp only [List.cons_append, List.nil_append,
          List.length_cons]
        omega
      exact ⟨hShorter, by cases room <;> rfl⟩
  | @parens tokens e inner ih =>
      intro rest
      rcases (nestsWithin_parens_iff ..).mp hNests with
        ⟨hDepth, hInner⟩
      rcases Nat.exists_eq_add_one_of_ne_zero
          (show room ≠ 0 by omega) with ⟨less, rfl⟩
      rw [show depth + (less + 1) = depth + 1 + less by
        omega] at hInner
      rcases (ih hInner).sum_eq_ok (.closeParen :: rest)
          (by intro joins op after hAfter; cases hAfter) with
        ⟨shorter, hRead⟩
      rcases inner.exists_first with
        ⟨first, others, hTokens, hFirst⟩
      rw [List.append_assoc, List.cons_append]
      exact operand_of_parens (by simp [hTokens, hFirst])
        hRead rfl
  | factor operand ih =>
      intro rest
      rcases ih hNests rest with ⟨shorter, hRead⟩
      refine ⟨shorter, ?_⟩
      simp only [leftGrouped, hRead]
  | scale op hOp left right ihLeft ihRight =>
      intro rest
      rw [nestsWithin_operator_iff, left.openAfter_eq]
        at hNests
      rcases ihRight hNests.2 rest with ⟨_, hRight⟩
      rcases ihLeft hNests.1
          (.operator (.arith op) :: (_ ++ rest)) with
        ⟨_, hLeft⟩
      rw [List.append_assoc, List.cons_append, hLeft]
      exact chain_eq_chain_join
        (by cases op <;> simp_all [Arithmetic.isProduct])
        hRight
  | term product ih =>
      intro rest hStops
      rcases (ih hNests).product_eq_ok hStops with
        ⟨shorter, hRead⟩
      refine ⟨shorter, ?_⟩
      simp only [sum, leftGrouped.eq_1 Arithmetic.isSum,
        hRead]
  | shift op hOp left right ihLeft ihRight =>
      intro rest hStops
      rw [nestsWithin_operator_iff, left.openAfter_eq]
        at hNests
      have hSum : op.isSum = true := by
        cases op <;>
          simp_all [Arithmetic.isSum, Arithmetic.isProduct]
      rcases (ihRight hNests.2).product_eq_ok hStops with
        ⟨_, hRight⟩
      rcases ihLeft hNests.1
          (.operator (.arith op) :: (_ ++ rest))
          (by
            intro other after hAfter
            cases hAfter
            simpa [Arithmetic.isSum] using hSum) with
        ⟨_, hLeft⟩
      rw [List.append_assoc, List.cons_append, hLeft]
      exact chain_eq_chain_join hSum hRight
  | @compare front back l r op left right ihLeft ihRight =>
      rw [nestsWithin_operator_iff, left.openAfter_eq]
        at hNests
      rcases (ihLeft hNests.1).sum_eq_ok
          (.operator (.compare op) :: back)
          (by intro joins other after hAfter; cases hAfter)
          with ⟨_, hLeft⟩
      have hRightRead :=
        (ihRight hNests.2).sum_eq_ok []
          (by intro joins other after hAfter; cases hAfter)
      rw [List.append_nil] at hRightRead
      rcases hRightRead with ⟨_, hRight⟩
      exact ⟨op, back, _, _, hLeft, rfl, hRight, rfl, rfl⟩

/- The tokens of a part stand for one expression only. -/
theorem Derives.unique
    {part : Part}
    {e' : Expr}
    (h : Derives part tokens e)
    (h' : Derives part tokens e') :
    e = e' := by
  have hNests := nestsWithin_length 0 tokens
  have hRead := h.readsBack hNests
  have hRead' := h'.readsBack hNests
  have hStops : ∀ joins, Stops joins [] := by
    intro joins op after hAfter
    cases hAfter
  cases part with
  | operand =>
      rcases hRead [] with ⟨_, hOk⟩
      rcases hRead' [] with ⟨_, hOk'⟩
      rw [hOk] at hOk'
      cases hOk'
      rfl
  | product =>
      rcases hRead.product_eq_ok (hStops _) with ⟨_, hOk⟩
      rcases hRead'.product_eq_ok (hStops _) with ⟨_, hOk'⟩
      rw [hOk] at hOk'
      cases hOk'
      rfl
  | sum =>
      rcases hRead.sum_eq_ok _ hStops with ⟨_, hOk⟩
      rcases hRead'.sum_eq_ok _ hStops with ⟨_, hOk'⟩
      rw [hOk] at hOk'
      cases hOk'
      rfl
  | rule =>
      rcases hRead with
        ⟨op, back, left, right, hLeft, hRest, hRight, _, rfl⟩
      rcases hRead' with
        ⟨op', back', left', right', hLeft', hRest', hRight',
          _, rfl⟩
      rw [hLeft] at hLeft'
      cases hLeft'
      rw [hRest] at hRest'
      cases hRest'
      rw [hRight] at hRight'
      cases hRight'
      rfl

end Grammar

end BarRules

------------------------------------------------------------
-- Rules
------------------------------------------------------------

namespace BarRules

namespace Grammar

/- The budget is kept when no operator is beyond it. -/
theorem excess_eq_none_iff
    (budget : Nat)
    (tokens : List TokenKind) :
    excess budget tokens = none ↔
      tokens.countP TokenKind.isArithmetic ≤ budget := by
  fun_induction excess budget tokens with
  | case1 budget => simp
  | case2 op rest =>
      simp [List.countP_cons, TokenKind.isArithmetic]
  | case3 rest budget op ih =>
      rw [ih]
      simp [List.countP_cons, TokenKind.isArithmetic]
  | case4 budget token rest hZero hSucc ih =>
      rw [ih]
      have hOther : token.isArithmetic = false := by
        unfold TokenKind.isArithmetic
        split
        · rename_i op
          cases budget with
          | zero => exact absurd rfl (hZero op rfl)
          | succ budget =>
              exact absurd rfl (hSucc budget op rfl)
        · rfl
      simp [hOther]

/- What follows the left side of an accepted rule. -/
theorem compared_eq_ok
    {left e : Expr}
    {rest : List TokenKind}
    (h : compared left rest = .ok e) :
    ∃ op after, ∃ right : Taken after,
      rest = .operator (.compare op) :: after ∧
        side after = .ok right ∧
        right.rest = [] ∧
        e = .binary (.compare op) left right.expr := by
  unfold compared at h
  split at h
  · rename_i op after
    split at h
    · cases h
    · rename_i right hRight
      unfold finish at h
      split at h
      · rename_i hRest
        cases h
        exact ⟨op, after, right, rfl, hRight, hRest, rfl⟩
      all_goals cases h
  all_goals cases h

/- A side of a rule is a sum within the limit. -/
theorem side_explains
    {tokens : List TokenKind}
    {taken : Taken tokens}
    (h : side tokens = .ok taken) :
    taken.Explains .sum depthLimit 0 := by
  have hOperand :
      ∀ {tokens : List TokenKind} {taken : Taken tokens},
        operand depthLimit tokens = .ok taken →
          taken.Explains .operand depthLimit 0 := by
    intro tokens taken hOk
    have hExplains :
        taken.Explains .operand (0 + depthLimit) 0 :=
      operand_explains hOk
    rwa [Nat.zero_add] at hExplains
  exact sum_explains hOperand h

/- What is read is derived within the limits. -/
theorem derives_of_read
    {tokens : List TokenKind}
    {e : Expr}
    (h : read tokens = .ok e) :
    Derives .rule tokens e ∧
      tokens.countP TokenKind.isArithmetic ≤ depthLimit ∧
      NestsWithin depthLimit 0 tokens := by
  unfold read at h
  split at h
  · cases h
  · split at h
    · cases h
    · rename_i hExcess
      split at h
      · cases h
      · rename_i left hLeft
        rcases compared_eq_ok h with
          ⟨op, after, right, hRest, hRight, hEnd, rfl⟩
        rcases side_explains hLeft with
          ⟨front, hTokens, hFront, hFrontNests⟩
        rcases side_explains hRight with
          ⟨back, hAfter, hBack, hBackNests⟩
        rw [hEnd, List.append_nil] at hAfter
        have hSplit :
            tokens =
              front ++ .operator (.compare op) :: back :=
          hTokens.trans (by rw [hRest, hAfter])
        refine ⟨?_, (excess_eq_none_iff ..).mp hExcess, ?_⟩
        · have hRule := Derives.compare op hFront hBack
          rwa [← hSplit] at hRule
        · rw [hSplit, nestsWithin_operator_iff,
            hFront.openAfter_eq]
          exact ⟨hFrontNests, hBackNests⟩

/- What is derived within the limits is read. -/
theorem read_of_derives
    {tokens : List TokenKind}
    {e : Expr}
    (hDerives : Derives .rule tokens e)
    (hCount :
      tokens.countP TokenKind.isArithmetic ≤ depthLimit)
    (hNests : NestsWithin depthLimit 0 tokens) :
    read tokens = .ok e := by
  rw [← Nat.zero_add depthLimit] at hNests
  rcases hDerives.readsBack hNests with
    ⟨op, back, left, right, hLeft, hRest, hRight, hEnd, rfl⟩
  have hNonempty : tokens ≠ [] := by
    rcases hDerives.exists_first with ⟨first, rest, rfl, _⟩
    simp
  have hSide : side tokens = .ok left := hLeft
  have hOther : side back = .ok right := hRight
  simp only [read, hNonempty, if_false,
    (excess_eq_none_iff ..).mpr hCount, hSide, hRest,
    compared, hOther, hEnd, finish]

/- Reading accepts what the grammar derives in the limits. -/
theorem read_eq_ok_iff
    (tokens : List TokenKind)
    (e : Expr) :
    read tokens = .ok e ↔
      Derives .rule tokens e ∧
        tokens.countP TokenKind.isArithmetic ≤ depthLimit ∧
        NestsWithin depthLimit 0 tokens :=
  ⟨derives_of_read,
    fun ⟨hDerives, hCount, hNests⟩ =>
      read_of_derives hDerives hCount hNests⟩

end Grammar

namespace Rule

/- Tokens are accepted as their kinds are read. -/
theorem ofTokens_eq_ok_iff_read
    (tokens : List Token)
    (rule : String)
    (e : Expr) :
    ofTokens tokens rule = .ok e ↔
      Grammar.read (tokens.map Token.kind) = .ok e := by
  rw [ofTokens_eq_read]
  split
  · rename_i found hFound
    rw [hFound]
    simp
  · rename_i fault hFault
    rw [hFault]
    simp

/-
  Tokens are accepted as a rule if and only if the grammar
  derives the expression from all of them, they hold at most
  256 arithmetic operators, and no parenthesis is opened inside
  256 open ones.
-/
theorem ofTokens_eq_ok_iff
    (tokens : List Token)
    (rule : String)
    (e : Expr) :
    ofTokens tokens rule = .ok e ↔
      Grammar.Derives .rule (tokens.map Token.kind) e ∧
        (tokens.map Token.kind).countP
          TokenKind.isArithmetic ≤ 256 ∧
        Grammar.NestsWithin 256 0
          (tokens.map Token.kind) :=
  (ofTokens_eq_ok_iff_read tokens rule e).trans
    (Grammar.read_eq_ok_iff _ e)

end Rule

end BarRules
