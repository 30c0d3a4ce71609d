import BarRules.Proofs.Grammar.Flat

/-
  Reading gives the verdict of the pass.

  Key definitions include:
    * `BarRules.Grammar.EndsSum`
    * `BarRules.Grammar.Flat.Rejects`
    * `BarRules.Grammar.Flat.RejectedBy`

  Key theorems include:
    * `BarRules.Grammar.sum_rejects`
    * `BarRules.Grammar.operand_rejects`
    * `BarRules.Grammar.judge_of_read_eq_ok`
    * `BarRules.Grammar.judge_of_read_eq_error`
    * `BarRules.Rule.ofTokens_judged`

  The readers know from where they stand in their calls what
  the pass keeps: a level of parentheses is a call, and so is a
  side of the comparison.  What they take is derived, so the
  pass goes over it.  It remains to follow their faults through
  the calls.
-/

------------------------------------------------------------
-- Where Readers Stop
------------------------------------------------------------

namespace BarRules

namespace Grammar

variable {joins : Arithmetic → Bool}
variable {reader : Reader}
variable {tokens : List TokenKind}

/- A chain leaves no operator that it could go on with. -/
theorem chain_stops
    {left taken : Taken tokens}
    (h : chain joins reader left = .ok taken) :
    Stops joins taken.rest := by
  fun_induction chain joins reader left with
  | case1 left op after hRest hJoins fault hFault =>
      cases h
  | case2 left op after hRest hJoins right hRight ih =>
      exact ih h
  | case3 left op after hRest hJoins =>
      cases h
      intro other others hOther
      rw [hRest] at hOther
      cases hOther
      simpa using hJoins
  | case4 left hOther =>
      cases h
      intro op after hRest
      exact absurd hRest (hOther op after)

/- A chain stops where its last operand did. -/
theorem chain_keeps
    {P : List TokenKind → Prop}
    {left taken : Taken tokens}
    (hReader :
      ∀ {tokens : List TokenKind} {taken : Taken tokens},
        reader tokens = .ok taken → P taken.rest)
    (hLeft : P left.rest)
    (h : chain joins reader left = .ok taken) :
    P taken.rest := by
  fun_induction chain joins reader left with
  | case1 left op after hRest hJoins fault hFault =>
      cases h
  | case2 left op after hRest hJoins right hRight ih =>
      have hKeeps : P right.rest := hReader hRight
      exact ih hKeeps h
  | case3 left op after hRest hJoins =>
      cases h
      exact hLeft
  | case4 left hOther =>
      cases h
      exact hLeft

/- The operands and operators of a chain have been taken. -/
theorem leftGrouped_eq_ok
    {taken : Taken tokens}
    (h : leftGrouped joins reader tokens = .ok taken) :
    ∃ first,
      reader tokens = .ok first ∧
        chain joins reader first = .ok taken := by
  unfold leftGrouped at h
  split at h
  · cases h
  · rename_i first hFirst
    exact ⟨first, hFirst, h⟩

/- The rest does not go on with arithmetic. -/
def EndsSum (rest : List TokenKind) : Prop :=
  ∀ op after, rest ≠ .operator (.arith op) :: after

/- Nor does it go on with an operator, unless it compares. -/
theorem EndsSum.ne_operator
    {found : TokenKind}
    {after : List TokenKind}
    (h : EndsSum (found :: after))
    (hNoCompare : ∀ op, found ≠ .operator (.compare op))
    (op : Operator) :
    found ≠ .operator op := by
  intro hFound
  cases op with
  | arith op => exact h op after (by rw [hFound])
  | compare op => exact hNoCompare op hFound

/- No arithmetic follows a sum. -/
theorem sum_endsSum
    {taken : Taken tokens}
    (h : sum reader tokens = .ok taken) :
    EndsSum taken.rest := by
  intro op after hRest
  rcases leftGrouped_eq_ok h with ⟨first, hFirst, hChain⟩
  have hProduct :
      ∀ {tokens : List TokenKind} {taken : Taken tokens},
        leftGrouped Arithmetic.isProduct reader tokens =
            .ok taken →
          Stops Arithmetic.isProduct taken.rest := by
    intro tokens taken hTaken
    rcases leftGrouped_eq_ok hTaken with ⟨_, _, hFactors⟩
    exact chain_stops hFactors
  have hNoSum : op.isSum = false :=
    chain_stops hChain op after hRest
  have hNoProduct : op.isProduct = false :=
    chain_keeps hProduct (hProduct hFirst) hChain op after
      hRest
  simp [Arithmetic.isSum, hNoProduct] at hNoSum

end Grammar

end BarRules

------------------------------------------------------------
-- Faults Are the Verdict
------------------------------------------------------------

namespace BarRules

namespace Grammar

/-
  The pass stops for the reason of a fault, and where so many
  tokens are left as the fault says.
-/
def Flat.Rejects
    (limit stop : Nat)
    (state : Flat)
    (tokens : List Token)
    (fault : Fault) :
    Prop :=
  fault.cause ≠ .emptyRule ∧
    ∃ front back,
      tokens = front ++ back ∧
        back.length = fault.left ∧
        judgeFrom limit stop state tokens =
          .rejected fault.cause.kind (startOf stop back)

/-
  Where the pass expects an operand, it rejects tokens as a
  reader does.
-/
def Flat.RejectedBy
    (limit stop : Nat)
    (opened : List Nat)
    (reader : Reader) :
    Prop :=
  ∀ (compared : Bool) (tokens : List Token) (fault : Fault),
    reader (tokens.map Token.kind) = .error fault →
      Rejects limit stop ⟨opened, compared, false⟩ tokens fault

open Flat

variable {limit stop : Nat}
variable {opened : List Nat}
variable {compared : Bool}
variable {fault : Fault}

/- Tokens that are passed over do not change the blame. -/
theorem Flat.Rejects.extend
    {state state' : Flat}
    {front back : List Token}
    (h : Rejects limit stop state' back fault)
    (hPass :
      judgeFrom limit stop state (front ++ back) =
        judgeFrom limit stop state' back) :
    Rejects limit stop state (front ++ back) fault := by
  rcases h with ⟨hCause, before, after, rfl, hLeft, hJudge⟩
  refine ⟨hCause, front ++ before, after, ?_, hLeft, ?_⟩
  · rw [List.append_assoc]
  · rw [hPass, hJudge]

/- One token that is passed over does not, either. -/
theorem Flat.Rejects.after
    {state state' : Flat}
    {token : Token}
    {rest : List Token}
    (h : Rejects limit stop state' rest fault)
    (hPass :
      judgeFrom limit stop state (token :: rest) =
        judgeFrom limit stop state' rest) :
    Rejects limit stop state (token :: rest) fault := by
  rw [← List.singleton_append] at hPass ⊢
  exact h.extend hPass

/- The token that comes first is blamed. -/
theorem Flat.Rejects.first
    {state : Flat}
    {tokens : List Token}
    (hCause : fault.cause ≠ .emptyRule)
    (hLeft : fault.left = tokens.length)
    (hJudge :
      judgeFrom limit stop state tokens =
        .rejected fault.cause.kind (startOf stop tokens)) :
    Rejects limit stop state tokens fault :=
  ⟨hCause, [], tokens, rfl, hLeft.symm, hJudge⟩

/- A fault in a chain is one of its operands. -/
theorem chain_rejects
    {joins : Arithmetic → Bool}
    {reader : Reader}
    {inner : Part}
    (hInner : inner ≠ .rule)
    (hExplains :
      ∀ {tokens : List TokenKind} {taken : Taken tokens},
        reader tokens = .ok taken →
          taken.Explains inner limit opened.length)
    (hReader : RejectedBy limit stop opened reader)
    {kinds : List TokenKind}
    {left : Taken kinds}
    {rest : List Token}
    (hRest : rest.map Token.kind = left.rest)
    (h : chain joins reader left = .error fault) :
    Rejects limit stop ⟨opened, compared, true⟩ rest
      fault := by
  fun_induction chain joins reader left generalizing rest with
  | case1 left op after hAfter hJoins found hFound =>
      cases h
      rw [hAfter] at hRest
      rcases exists_of_map_kind_cons hRest with
        ⟨position, others, rfl, rfl⟩
      have hOthers := hReader compared others fault hFound
      exact hOthers.after judgeFrom_arith
  | case2 left op after hAfter hJoins right hRight ih =>
      rw [hAfter] at hRest
      rcases exists_of_map_kind_cons hRest with
        ⟨position, others, rfl, rfl⟩
      rcases (hExplains hRight).judgeFrom_eq hInner with
        ⟨front, back, rfl, hBack, hPass⟩
      have hTail := (ih hBack h).extend hPass
      exact hTail.after judgeFrom_arith
  | case3 left op after hAfter hJoins => cases h
  | case4 left hOther => cases h

/- A fault of operands in a chain is one of an operand. -/
theorem leftGrouped_rejects
    {joins : Arithmetic → Bool}
    {reader : Reader}
    {inner : Part}
    (hInner : inner ≠ .rule)
    (hExplains :
      ∀ {tokens : List TokenKind} {taken : Taken tokens},
        reader tokens = .ok taken →
          taken.Explains inner limit opened.length)
    (hReader : RejectedBy limit stop opened reader) :
    RejectedBy limit stop opened
      (leftGrouped joins reader) := by
  intro compared tokens fault h
  unfold leftGrouped at h
  split at h
  · rename_i found hFound
    cases h
    exact hReader compared tokens fault hFound
  · rename_i first hFirst
    rcases (hExplains hFirst).judgeFrom_eq hInner with
      ⟨front, rest, rfl, hRest, hPass⟩
    have hTail :
        Rejects limit stop ⟨opened, compared, true⟩ rest
          fault :=
      chain_rejects hInner hExplains hReader hRest h
    exact hTail.extend hPass

/- A fault of a sum is one of an operand. -/
theorem sum_rejects
    {reader : Reader}
    (hExplains :
      ∀ {tokens : List TokenKind} {taken : Taken tokens},
        reader tokens = .ok taken →
          taken.Explains .operand limit opened.length)
    (hReader : RejectedBy limit stop opened reader) :
    RejectedBy limit stop opened (sum reader) := by
  have hProduct :
      ∀ {tokens : List TokenKind} {taken : Taken tokens},
        leftGrouped Arithmetic.isProduct reader tokens =
            .ok taken →
          taken.Explains .product limit opened.length :=
    leftGrouped_explains product_closes Derives.factor
      hExplains
  apply leftGrouped_rejects (show Part.product ≠ .rule by simp)
  · exact hProduct
  · exact leftGrouped_rejects (by simp) hExplains hReader

/-
  A sum in parentheses that is not closed is rejected where it
  ends, or at its parenthesis if the tokens end there, too.
-/
theorem close_rejects
    {position : Nat}
    {tokens front rest : List Token}
    {inner : Taken (tokens.map Token.kind)}
    (hSplit : tokens = front ++ rest)
    (hRest : rest.map Token.kind = inner.rest)
    (hEnds : EndsSum inner.rest)
    (hPass :
      judgeFrom limit stop ⟨opened, compared, false⟩
          (⟨.openParen, position⟩ :: tokens) =
        judgeFrom limit stop
          ⟨position :: opened, compared, true⟩ rest)
    (h : close inner = .error fault) :
    Rejects limit stop ⟨opened, compared, false⟩
      (⟨.openParen, position⟩ :: tokens) fault := by
  have hWhole :
      ⟨.openParen, position⟩ :: tokens =
        (⟨.openParen, position⟩ :: front) ++ rest := by
    rw [hSplit, List.cons_append]
  unfold close at h
  split at h
  · cases h
  · rename_i op after hOp
    rw [hOp] at hRest
    rcases exists_of_map_kind_cons hRest with
      ⟨place, others, rfl, rfl⟩
    cases h
    rw [hWhole] at hPass ⊢
    apply Rejects.extend _ hPass
    exact Rejects.first (by simp) (by simp) rfl
  · rename_i found after hNotClose hNotCompare hFound
    rw [hFound] at hRest
    rcases exists_of_map_kind_cons hRest with
      ⟨place, others, rfl, rfl⟩
    cases h
    rw [hFound] at hEnds
    rw [hWhole] at hPass ⊢
    apply Rejects.extend _ hPass
    apply Rejects.first (by simp) (by simp)
    exact judgeFrom_misplaced
      (hEnds.ne_operator hNotCompare) hNotClose
  · rename_i hEnd
    rw [hEnd] at hRest
    cases h
    rw [List.map_eq_nil_iff.mp hRest] at hPass
    apply Rejects.first
    · simp
    · simp
    · rw [hPass]
      rfl

/- An operand is explained within a limit. -/
theorem operand_explains_within
    {depth room : Nat}
    (hRoom : depth + room = limit)
    {tokens : List TokenKind}
    {taken : Taken tokens}
    (h : operand room tokens = .ok taken) :
    taken.Explains .operand limit depth := by
  subst hRoom
  exact operand_explains h

/-
  Operands are rejected alike if those inside of their
  parentheses are.
-/
theorem operand_rejects_of_inner
    {room : Nat}
    (hRoom : opened.length + room = limit)
    (hInner :
      ∀ less position,
        room = less + 1 →
          RejectedBy limit stop (position :: opened)
            (operand less)) :
    RejectedBy limit stop opened (operand room) := by
  intro compared tokens fault h
  generalize hKinds : tokens.map Token.kind = kinds at h
  unfold operand at h
  -- The cases are those of the reader, in its order.
  split at h
  · cases h
    rw [List.map_eq_nil_iff.mp hKinds]
    exact Rejects.first (by simp) (by simp) rfl
  · cases h
  · rename_i field after hNoOffset
    rcases exists_of_map_kind_cons hKinds with
      ⟨position, rest, rfl, rfl⟩
    cases h
    refine ⟨by simp, [⟨.price field, position⟩], rest, rfl,
      by simp, ?_⟩
    exact judgeFrom_noOffset hNoOffset
  · rename_i after
    rcases exists_of_map_kind_cons hKinds with
      ⟨position, rest, rfl, rfl⟩
    cases h
    apply Rejects.first
    · simp
    · simp
    · rw [judgeFrom, if_neg (by omega)]
      rfl
  · rename_i less after
    rcases exists_of_map_kind_cons hKinds with
      ⟨position, rest, rfl, rfl⟩
    have hOpen :
        ∀ rest,
          judgeFrom limit stop ⟨opened, compared, false⟩
              (⟨.openParen, position⟩ :: rest) =
            judgeFrom limit stop
              ⟨position :: opened, compared, false⟩ rest :=
      fun rest => judgeFrom_openParen (by omega)
    have hReader := hInner less position rfl
    have hExplains :
        ∀ {tokens : List TokenKind} {taken : Taken tokens},
          operand less tokens = .ok taken →
            taken.Explains .operand limit
              (position :: opened).length :=
      operand_explains_within (by simp; omega)
    split at h
    · rename_i hFirst
      cases h
      rcases List.head?_eq_some_iff.mp hFirst with
        ⟨after, hAfter⟩
      rcases exists_of_map_kind_cons hAfter with
        ⟨place, others, rfl, _⟩
      apply Rejects.after _ (hOpen _)
      exact Rejects.first (by simp) (by simp) rfl
    · split at h
      · rename_i found hFound
        cases h
        have hRest :=
          sum_rejects hExplains hReader compared rest fault
            hFound
        exact hRest.after (hOpen rest)
      · rename_i inner hSum
        have hSumExplains := sum_explains hExplains hSum
        rcases hSumExplains.judgeFrom_eq (by simp) with
          ⟨front, back, hSplit, hBack, hPass⟩
        exact close_rejects hSplit hBack (sum_endsSum hSum)
          ((hOpen rest).trans hPass) h
  · rename_i found after _ hPrice hLast hOpen
    rcases exists_of_map_kind_cons hKinds with
      ⟨position, rest, rfl, rfl⟩
    -- A parenthesis was taken before, with a level left or not.
    have hNoOpen : found ≠ .openParen := by
      intro hFound
      cases room with
      | zero => exact hLast rfl hFound
      | succ less => exact hOpen less rfl hFound
    cases h
    apply Rejects.first (by simp) (by simp)
    exact judgeFrom_noOperand hPrice hNoOpen

/-
  The induction is on the levels that are left, which the open
  parentheses make up to the limit.
-/
theorem operand_rejects
    {room : Nat}
    (hRoom : opened.length + room = limit) :
    RejectedBy limit stop opened (operand room) := by
  induction room generalizing opened with
  | zero =>
      apply operand_rejects_of_inner hRoom
      intro less position hLess
      cases hLess
  | succ room ih =>
      apply operand_rejects_of_inner hRoom
      intro less position hLess
      cases hLess
      apply ih
      simp only [List.length_cons]
      omega

end Grammar

end BarRules

------------------------------------------------------------
-- Whole Rules
------------------------------------------------------------

namespace BarRules

namespace Grammar

open Flat

variable {stop : Nat}
variable {fault : Fault}

/- A side of a rule is rejected alike. -/
theorem side_rejects :
    RejectedBy depthLimit stop [] side :=
  sum_rejects (operand_explains_within (by simp))
    (operand_rejects (by simp))

/- A side of a rule is passed over. -/
theorem side_passed
    (stop : Nat)
    (compared : Bool)
    {tokens : List Token}
    {taken : Taken (tokens.map Token.kind)}
    (h : side (tokens.map Token.kind) = .ok taken) :
    ∃ front rest,
      tokens = front ++ rest ∧
        rest.map Token.kind = taken.rest ∧
        judgeFrom depthLimit stop ⟨[], compared, false⟩
            tokens =
          judgeFrom depthLimit stop ⟨[], compared, true⟩
            rest := by
  have hExplains :
      taken.Explains .sum depthLimit ([] : List Nat).length :=
    side_explains h
  exact hExplains.judgeFrom_eq (by simp)

/- The end of a rule is rejected alike. -/
theorem finish_rejects
    {op : Comparison}
    {left right : Expr}
    {rest : List Token}
    (hEnds : EndsSum (rest.map Token.kind))
    (h : finish op left right (rest.map Token.kind) =
      .error fault) :
    Rejects depthLimit stop ⟨[], true, true⟩ rest fault := by
  generalize hKinds : rest.map Token.kind = kinds at h hEnds
  unfold finish at h
  split at h
  · cases h
  · rcases exists_of_map_kind_cons hKinds with
      ⟨position, others, rfl, rfl⟩
    cases h
    exact Rejects.first (by simp) (by simp) rfl
  · rcases exists_of_map_kind_cons hKinds with
      ⟨position, others, rfl, rfl⟩
    cases h
    exact Rejects.first (by simp) (by simp) rfl
  · rename_i found after hNoCompare hNoClose
    rcases exists_of_map_kind_cons hKinds with
      ⟨position, others, rfl, rfl⟩
    cases h
    apply Rejects.first (by simp) (by simp)
    exact judgeFrom_misplaced
      (hEnds.ne_operator hNoCompare) hNoClose

/- What follows the left side is rejected alike. -/
theorem compared_rejects
    {left : Expr}
    {rest : List Token}
    (hEnds : EndsSum (rest.map Token.kind))
    (h : compared left (rest.map Token.kind) = .error fault) :
    Rejects depthLimit stop ⟨[], false, true⟩ rest fault := by
  generalize hKinds : rest.map Token.kind = kinds at h hEnds
  unfold compared at h
  split at h
  · rename_i op after
    rcases exists_of_map_kind_cons hKinds with
      ⟨position, others, rfl, rfl⟩
    apply Rejects.after _ judgeFrom_compare
    split at h
    · rename_i found hFound
      cases h
      exact side_rejects true others fault hFound
    · rename_i right hRight
      rcases side_passed stop true hRight with
        ⟨front, back, rfl, hBack, hPass⟩
      rw [← hBack] at h
      have hEnd :
          Rejects depthLimit stop ⟨[], true, true⟩ back
            fault := by
        apply finish_rejects _ h
        rw [hBack]
        exact sum_endsSum hRight
      exact hEnd.extend hPass
  · rcases exists_of_map_kind_cons hKinds with
      ⟨position, others, rfl, rfl⟩
    cases h
    exact Rejects.first (by simp) (by simp) rfl
  · rename_i found after hNoCompare hNoClose
    rcases exists_of_map_kind_cons hKinds with
      ⟨position, others, rfl, rfl⟩
    cases h
    apply Rejects.first (by simp) (by simp)
    exact judgeFrom_misplaced
      (hEnds.ne_operator hNoCompare) hNoClose
  · cases h
    rw [List.map_eq_nil_iff.mp hKinds]
    exact Rejects.first (by simp) (by simp) rfl

/- An operator beyond the limit is found in its place. -/
theorem excess_eq_some
    {budget left : Nat}
    {tokens : List Token}
    (h : excess budget (tokens.map Token.kind) = some left) :
    ∃ front token back,
      tokens = front ++ token :: back ∧
        (token :: back).length = left ∧
        (tokens.filter (fun token => token.kind.isArithmetic))[
            budget]? =
          some token := by
  generalize hKinds : tokens.map Token.kind = kinds at h
  fun_induction excess budget kinds generalizing tokens with
  | case1 budget => cases h
  | case2 op rest =>
      rcases exists_of_map_kind_cons hKinds with
        ⟨position, others, rfl, rfl⟩
      cases h
      refine ⟨[], _, others, rfl, by simp, ?_⟩
      simp [TokenKind.isArithmetic]
  | case3 rest budget op ih =>
      rcases exists_of_map_kind_cons hKinds with
        ⟨position, others, rfl, rfl⟩
      rcases ih rfl h with
        ⟨front, token, back, rfl, hLeft, hGet⟩
      refine ⟨_ :: front, token, back, rfl, hLeft, ?_⟩
      rw [List.filter_cons_of_pos (by rfl),
        List.getElem?_cons_succ, hGet]
  | case4 budget kind rest hZero hSucc ih =>
      rcases exists_of_map_kind_cons hKinds with
        ⟨position, others, rfl, rfl⟩
      rcases ih rfl h with
        ⟨front, token, back, rfl, hLeft, hGet⟩
      have hOther : kind.isArithmetic = false := by
        cases hKind : kind.isArithmetic with
        | false => rfl
        | true =>
            rcases TokenKind.isArithmetic_iff.mp hKind with
              ⟨op, hOp⟩
            cases budget with
            | zero => exact absurd hOp (hZero op rfl)
            | succ budget =>
                exact absurd hOp (hSucc budget op rfl)
      refine ⟨_ :: front, token, back, rfl, hLeft, ?_⟩
      rw [List.filter_cons_of_neg (by simp [hOther]), hGet]

/- Within the limit for operators, the pass decides. -/
theorem judge_eq_judgeFrom
    {limit : Nat}
    {tokens : List Token}
    (hNonempty : tokens ≠ [])
    (hCount :
      (tokens.map Token.kind).countP TokenKind.isArithmetic ≤
        limit) :
    judge limit stop tokens =
      judgeFrom limit stop start tokens := by
  have hOperators :
      (tokens.filter (fun token => token.kind.isArithmetic))[
          limit]? =
        none := by
    rw [List.countP_map, List.countP_eq_length_filter]
      at hCount
    exact List.getElem?_eq_none hCount
  simp only [judge, hNonempty, if_false, hOperators]

/- What is read is accepted. -/
theorem judge_of_read_eq_ok
    {tokens : List Token}
    {e : Expr}
    (h : read (tokens.map Token.kind) = .ok e) :
    judge depthLimit stop tokens = .accepted := by
  rcases derives_of_read h with ⟨hDerives, hCount, hNests⟩
  have hNonempty : tokens ≠ [] := by
    rcases hDerives.exists_first with ⟨first, rest, hFirst, _⟩
    intro hTokens
    simp [hTokens] at hFirst
  rw [judge_eq_judgeFrom hNonempty hCount]
  exact hDerives.judgeFrom_start hNests

/- A fault stands where so many tokens are left. -/
theorem Fault.position_eq
    {front back : List Token}
    (hCause : fault.cause ≠ .emptyRule)
    (hLeft : back.length = fault.left) :
    fault.position (front ++ back) stop =
      startOf stop back := by
  have hDrop :
      (front ++ back).drop
          ((front ++ back).length - fault.left) =
        back := by
    rw [← hLeft, List.length_append, Nat.add_sub_cancel,
      List.drop_left]
  unfold Fault.position
  rw [if_neg hCause, hDrop]
  cases back <;> rfl

/- A fault that is rejected alike has its position. -/
theorem Flat.Rejects.judgeFrom_eq
    {limit : Nat}
    {state : Flat}
    {tokens : List Token}
    (h : Rejects limit stop state tokens fault) :
    judgeFrom limit stop state tokens =
      .rejected fault.cause.kind
        (fault.position tokens stop) := by
  rcases h with ⟨hCause, front, back, rfl, hLeft, hJudge⟩
  rw [hJudge, Fault.position_eq hCause hLeft]

/- What is left of a whole rule is rejected alike. -/
theorem start_rejects
    {tokens : List Token}
    {left : Taken (tokens.map Token.kind)}
    (hSide : side (tokens.map Token.kind) = .ok left)
    (h : compared left.expr left.rest = .error fault) :
    Rejects depthLimit stop start tokens fault := by
  rcases side_passed stop false hSide with
    ⟨front, rest, rfl, hRest, hPass⟩
  rw [← hRest] at h
  have hEnd :
      Rejects depthLimit stop ⟨[], false, true⟩ rest
        fault := by
    apply compared_rejects _ h
    rw [hRest]
    exact sum_endsSum hSide
  exact hEnd.extend hPass

/- The fault of tokens that are no rule is the verdict. -/
theorem judge_of_read_eq_error
    {tokens : List Token}
    (h : read (tokens.map Token.kind) = .error fault) :
    judge depthLimit stop tokens =
      .rejected fault.cause.kind
        (fault.position tokens stop) := by
  unfold read at h
  split at h
  · rename_i hEmpty
    cases h
    rw [List.map_eq_nil_iff.mp hEmpty]
    rfl
  · rename_i hNonempty
    rw [List.map_eq_nil_iff] at hNonempty
    split at h
    · rename_i left hExcess
      cases h
      rcases excess_eq_some hExcess with
        ⟨front, token, back, hTokens, hLeft, hGet⟩
      simp only [judge, hNonempty, if_false, hGet]
      rw [hTokens, Fault.position_eq (by simp) hLeft]
      rfl
    · rename_i hExcess
      have hCount := (excess_eq_none_iff ..).mp hExcess
      rw [judge_eq_judgeFrom hNonempty hCount]
      apply Rejects.judgeFrom_eq
      split at h
      · rename_i found hFound
        cases h
        exact side_rejects false tokens fault hFound
      · rename_i left hLeft
        exact start_rejects hLeft h

end Grammar

namespace Rule

/-
  Tokens are accepted, or rejected for a reason and at a byte
  position, as the pass over them says.  An empty list lacks an
  operand at position 0, the 257th arithmetic operator is one
  too many, and otherwise the first token decides that the pass
  does not allow.
-/
theorem ofTokens_judged
    (tokens : List Token)
    (rule : String) :
    match
      Grammar.Flat.judge 256 (Text.byteLength rule.toList)
        tokens
    with
    | .accepted => ∃ e, ofTokens tokens rule = .ok e
    | .rejected kind position =>
        ∃ detail,
          ofTokens tokens rule =
            .error (.grammar kind detail rule position) := by
  rw [ofTokens_eq_read]
  cases hRead : Grammar.read (tokens.map Token.kind) with
  | ok e =>
      have hJudge :
          Grammar.Flat.judge 256 (Text.byteLength rule.toList)
              tokens =
            .accepted :=
        Grammar.judge_of_read_eq_ok hRead
      rw [hJudge]
      exact ⟨e, rfl⟩
  | error fault =>
      have hJudge :
          Grammar.Flat.judge 256 (Text.byteLength rule.toList)
              tokens =
            .rejected fault.cause.kind
              (fault.position tokens
                (Text.byteLength rule.toList)) :=
        Grammar.judge_of_read_eq_error hRead
      rw [hJudge]
      exact ⟨fault.cause.message, rfl⟩

end Rule

end BarRules
