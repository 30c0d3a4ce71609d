import BarRules.Proofs.Grammar.Verdict
import Mathlib.Control.Monad.Basic

/-
  Faults point at the first token that no rule can have there.

  Key definitions include:
    * `BarRules.Grammar.Viable`
    * `BarRules.Grammar.StaysOpen`
    * `BarRules.Grammar.InnermostOpen`
    * `BarRules.Grammar.Flat.completion`
    * `BarRules.Grammar.Flat.LeadsTo`

  Key theorems include:
    * `BarRules.Grammar.viable_of_accepted`
    * `BarRules.Grammar.not_viable_of_rejected`
    * `BarRules.Grammar.Encloses.innermostOpen`
    * `BarRules.Grammar.blames_of_judgeFrom`
    * `BarRules.Rule.ofTokens_blames_first_impossible`

  The tokens that the pass has gone over can be completed to a
  rule from every state: an operand that is expected is added,
  what is open is closed, and a comparison is added if none was
  seen.  The token at which the pass stops is rejected whatever
  follows, and however deep parentheses may nest.
-/

------------------------------------------------------------
-- Prefixes of Rules
------------------------------------------------------------

namespace BarRules

namespace Grammar

/- Some rule of the grammar starts with the tokens. -/
def Viable (front : List TokenKind) : Prop :=
  ∃ back e, Derives .rule (front ++ back) e

/- More parentheses may be open under a greater limit. -/
theorem NestsWithin.mono
    {limit limit' depth : Nat}
    {tokens : List TokenKind}
    (h : NestsWithin limit depth tokens)
    (hLimit : limit ≤ limit') :
    NestsWithin limit' depth tokens := by
  intro before token after hSplit hOpen
  have hDepth := h before token after hSplit hOpen
  omega

open Flat

variable {stop : Nat}

/- Tokens that the pass accepts make up a rule. -/
theorem exists_derives_of_judge
    {tokens : List Token}
    (h : judge depthLimit stop tokens = .accepted) :
    ∃ e, Derives .rule (tokens.map Token.kind) e := by
  cases hRead : read (tokens.map Token.kind) with
  | ok e => exact ⟨e, (derives_of_read hRead).1⟩
  | error fault =>
      rw [judge_of_read_eq_error hRead] at h
      cases h

/- Tokens are viable if the pass accepts them with a rest. -/
theorem viable_of_accepted
    {front rest : List Token}
    (hCount :
      ((front ++ rest).map Token.kind).countP
        TokenKind.isArithmetic ≤ depthLimit)
    (h :
      judgeFrom depthLimit stop start (front ++ rest) =
        .accepted) :
    Viable (front.map Token.kind) := by
  have hNonempty : front ++ rest ≠ [] := by
    intro hEmpty
    rw [hEmpty] at h
    cases h
  rw [← judge_eq_judgeFrom hNonempty hCount] at h
  rcases exists_derives_of_judge h with ⟨e, hDerives⟩
  rw [List.map_append] at hDerives
  exact ⟨rest.map Token.kind, e, hDerives⟩

/- Tokens of a rule are accepted under some greater limit. -/
theorem Derives.exists_limit
    {tokens : List Token}
    {e : Expr}
    (h : Derives .rule (tokens.map Token.kind) e)
    (stop : Nat) :
    ∃ limit,
      depthLimit ≤ limit ∧
        judgeFrom limit stop start tokens = .accepted := by
  let size := (tokens.map Token.kind).length
  have hNests :
      NestsWithin (depthLimit + size) 0
        (tokens.map Token.kind) :=
    (nestsWithin_length 0 _).mono (by omega)
  exact ⟨depthLimit + size, by omega,
    h.judgeFrom_start hNests⟩

/-
  Tokens are not viable if the pass rejects them with every
  rest, under every greater limit.
-/
theorem not_viable_of_rejected
    {front : List Token}
    (h :
      ∀ limit rest,
        depthLimit ≤ limit →
          judgeFrom limit stop start (front ++ rest) ≠
            .accepted) :
    ¬ Viable (front.map Token.kind) := by
  rintro ⟨back, e, hDerives⟩
  let rest : List Token := back.map (⟨·, 0⟩)
  have hKinds :
      (front ++ rest).map Token.kind =
        front.map Token.kind ++ back := by
    simp [rest, Function.comp_def]
  rw [← hKinds] at hDerives
  rcases hDerives.exists_limit stop with
    ⟨limit, hLimit, hAccepted⟩
  exact h limit rest hLimit hAccepted

end Grammar

end BarRules

------------------------------------------------------------
-- Completion
------------------------------------------------------------

namespace BarRules

namespace Grammar

namespace Flat

/- Tokens that complete a rule after an operand. -/
def closing : List Nat → Bool → List Token
  | _ :: outer, compared =>
      ⟨.closeParen, 0⟩ :: closing outer compared
  | [], true => []
  | [], false =>
      [⟨.operator (.compare .less), 0⟩, ⟨.price .opening, 0⟩,
        ⟨.offset 0, 0⟩]

/- Tokens that complete a rule. -/
def completion : Flat → List Token
  | ⟨opened, compared, true⟩ => closing opened compared
  | ⟨opened, compared, false⟩ =>
      ⟨.price .opening, 0⟩ :: ⟨.offset 0, 0⟩ ::
        closing opened compared

variable {limit stop : Nat}

/- What closes a rule is accepted after an operand. -/
theorem judgeFrom_closing
    (opened : List Nat)
    (compared : Bool) :
    judgeFrom limit stop ⟨opened, compared, true⟩
        (closing opened compared) =
      .accepted := by
  induction opened with
  | nil => cases compared <;> rfl
  | cons inner outer ih =>
      rw [closing, judgeFrom_closeParen, ih]

/- From every state, what completes a rule is accepted. -/
theorem judgeFrom_completion (state : Flat) :
    judgeFrom limit stop state state.completion =
      .accepted := by
  rcases state with ⟨opened, compared, completed⟩
  cases completed with
  | true => exact judgeFrom_closing opened compared
  | false =>
      rw [completion, judgeFrom_price, judgeFrom_closing]

/- What closes a rule holds no arithmetic. -/
theorem countP_closing
    (opened : List Nat)
    (compared : Bool) :
    ((closing opened compared).map Token.kind).countP
        TokenKind.isArithmetic =
      0 := by
  induction opened with
  | nil => cases compared <;> rfl
  | cons inner outer ih =>
      simpa [closing, TokenKind.isArithmetic] using ih

/- What completes a rule holds no arithmetic. -/
theorem countP_completion (state : Flat) :
    (state.completion.map Token.kind).countP
        TokenKind.isArithmetic =
      0 := by
  rcases state with ⟨opened, compared, completed⟩
  have hClosing := countP_closing opened compared
  cases completed with
  | true => exact hClosing
  | false =>
      simpa [completion, TokenKind.isArithmetic] using hClosing

end Flat

end Grammar

end BarRules

------------------------------------------------------------
-- Unclosed Parentheses
------------------------------------------------------------

namespace BarRules

namespace Grammar

/- A parenthesis that the tokens follow is never closed. -/
def StaysOpen (after : List TokenKind) : Prop :=
  ∀ front, front <+: after → 0 < openAfter 1 front

/-
  The last of the parentheses that are never closed stands at
  a position.
-/
def InnermostOpen
    (tokens : List Token)
    (position : Nat) :
    Prop :=
  ∃ before after,
    tokens = before ++ ⟨.openParen, position⟩ :: after ∧
      StaysOpen (after.map Token.kind) ∧
      ∀ between place later,
        after = between ++ ⟨.openParen, place⟩ :: later →
          ¬ StaysOpen (later.map Token.kind)

/- The tokens close what they open, and nothing else. -/
def Matched (kinds : List TokenKind) : Prop :=
  ∀ depth, openAfter depth kinds = depth

/-
  The parentheses at these positions, innermost first, are
  open, and what follows each of them is matched.
-/
def Encloses : List Token → List Nat → Prop
  | _, [] => True
  | tokens, position :: outer =>
      ∃ before inside,
        tokens = before ++ ⟨.openParen, position⟩ :: inside ∧
          Matched (inside.map Token.kind) ∧
          Encloses before outer

/- More parentheses are open if more were before. -/
theorem openAfter_mono
    {depth depth' : Nat}
    (h : depth ≤ depth')
    (tokens : List TokenKind) :
    openAfter depth tokens ≤ openAfter depth' tokens := by
  induction tokens generalizing depth depth' with
  | nil => exact h
  | cons token tokens ih =>
      rw [openAfter_cons, openAfter_cons]
      apply ih
      unfold nest
      split <;> omega

/- Matched tokens close no parenthesis before them. -/
theorem Matched.staysOpen
    {kinds : List TokenKind}
    (h : Matched kinds) :
    StaysOpen kinds := by
  rintro front ⟨back, rfl⟩
  apply Nat.pos_of_ne_zero
  intro hOne
  have hZero : openAfter 0 front = 0 := by
    have hMono := openAfter_mono (Nat.zero_le 1) front
    omega
  -- From here on nothing tells the two depths apart.
  have hFirst := h 0
  have hSecond := h 1
  rw [openAfter_append, hZero] at hFirst
  rw [openAfter_append, hOne] at hSecond
  omega

/- Matched tokens leave no parenthesis open. -/
theorem Matched.not_staysOpen
    {between later : List TokenKind}
    (h : Matched (between ++ .openParen :: later)) :
    ¬ StaysOpen later := by
  intro hOpen
  have hLater : 0 < openAfter 1 later :=
    hOpen later (List.prefix_refl later)
  have hDepth : 1 ≤ openAfter 0 between + 1 := by omega
  have hMono := openAfter_mono hDepth later
  have hZero := h 0
  rw [openAfter_append, openAfter_cons] at hZero
  simp only [nest] at hZero
  omega

/- The innermost of the open parentheses. -/
theorem Encloses.innermostOpen
    {tokens : List Token}
    {position : Nat}
    {outer : List Nat}
    (h : Encloses tokens (position :: outer)) :
    InnermostOpen tokens position := by
  rcases h with ⟨before, inside, hTokens, hInside, _⟩
  refine ⟨before, inside, hTokens, hInside.staysOpen, ?_⟩
  intro between place later hSplit
  rw [hSplit, List.map_append, List.map_cons] at hInside
  exact hInside.not_staysOpen

/- Matched tokens leave open what is open. -/
theorem Encloses.append
    {front middle : List Token}
    {opened : List Nat}
    (h : Encloses front opened)
    (hMiddle : Matched (middle.map Token.kind)) :
    Encloses (front ++ middle) opened := by
  cases opened with
  | nil => trivial
  | cons position outer =>
      rcases h with ⟨before, inside, rfl, hInside, hOuter⟩
      refine ⟨before, inside ++ middle, by simp, ?_, hOuter⟩
      intro depth
      rw [List.map_append, openAfter_append, hInside depth,
        hMiddle depth]

/- A parenthesis is opened inside of the others. -/
theorem Encloses.openParen
    {front : List Token}
    {opened : List Nat}
    (h : Encloses front opened)
    (position : Nat) :
    Encloses (front ++ [⟨.openParen, position⟩])
      (position :: opened) := by
  refine ⟨front, [], rfl, ?_, h⟩
  intro depth
  rfl

/- The innermost parenthesis is closed. -/
theorem Encloses.closeParen
    {front : List Token}
    {inner : Nat}
    {outer : List Nat}
    (h : Encloses front (inner :: outer))
    (position : Nat) :
    Encloses (front ++ [⟨.closeParen, position⟩]) outer := by
  rcases h with ⟨before, inside, rfl, hInside, hOuter⟩
  have hParens :
      Matched
        ((Token.mk .openParen inner :: inside ++
          [Token.mk .closeParen position]).map
            Token.kind) := by
    intro depth
    simp [nest, hInside (depth + 1)]
  rw [List.append_assoc]
  exact hOuter.append hParens

end Grammar

end BarRules

------------------------------------------------------------
-- What the Pass Has Gone Over
------------------------------------------------------------

namespace BarRules

namespace Grammar

/-
  The pass gets over the tokens into a state, whatever follows
  and under every greater limit, and the parentheses that are
  open in the state are open after the tokens.
-/
structure Flat.LeadsTo
    (stop : Nat)
    (front : List Token)
    (state : Flat) :
    Prop where
  passes :
    ∀ limit rest,
      depthLimit ≤ limit →
        judgeFrom limit stop start (front ++ rest) =
          judgeFrom limit stop state rest
  encloses : Encloses front state.opened

open Flat

variable {stop : Nat}
variable {front : List Token}
variable {state state' : Flat}

/- No tokens lead to the start. -/
theorem leadsTo_start : LeadsTo stop [] start where
  passes := fun _ _ _ => rfl
  encloses := trivial

/- More tokens lead on from the state. -/
theorem Flat.LeadsTo.append
    {middle : List Token}
    (h : LeadsTo stop front state)
    (hPasses :
      ∀ limit rest,
        depthLimit ≤ limit →
          judgeFrom limit stop state (middle ++ rest) =
            judgeFrom limit stop state' rest)
    (hEncloses : Encloses (front ++ middle) state'.opened) :
    LeadsTo stop (front ++ middle) state' := by
  refine ⟨?_, hEncloses⟩
  intro limit rest hLimit
  rw [List.append_assoc, h.passes limit _ hLimit,
    hPasses limit rest hLimit]

/-
  What the pass has gone over is viable together with tokens
  after which some rest is accepted.
-/
theorem Flat.LeadsTo.viable_append
    (h : LeadsTo stop front state)
    (middle : List Token)
    {rest : List Token}
    (hAccepted :
      judgeFrom depthLimit stop state (middle ++ rest) =
        .accepted)
    (hRest :
      (rest.map Token.kind).countP TokenKind.isArithmetic = 0)
    (hCount :
      ((front ++ middle).map Token.kind).countP
        TokenKind.isArithmetic ≤ depthLimit) :
    Viable ((front ++ middle).map Token.kind) := by
  have hWhole :
      (((front ++ middle) ++ rest).map Token.kind).countP
          TokenKind.isArithmetic ≤
        depthLimit := by
    rw [List.map_append, List.countP_append, hRest]
    exact hCount
  apply viable_of_accepted hWhole
  rw [List.append_assoc, h.passes _ _ (Nat.le_refl _),
    hAccepted]

/- What the pass has gone over is viable. -/
theorem Flat.LeadsTo.viable
    (h : LeadsTo stop front state)
    (hCount :
      (front.map Token.kind).countP TokenKind.isArithmetic ≤
        depthLimit) :
    Viable (front.map Token.kind) := by
  rw [← List.append_nil front] at hCount ⊢
  exact h.viable_append [] (judgeFrom_completion state)
    (countP_completion state) hCount

/- A price after it is viable where an operand is expected. -/
theorem Flat.LeadsTo.viable_price
    {opened : List Nat}
    {compared : Bool}
    (h : LeadsTo stop front ⟨opened, compared, false⟩)
    (token : Token)
    {field : PriceField}
    (hPrice : token.kind = .price field)
    (hCount :
      ((front ++ [token]).map Token.kind).countP
        TokenKind.isArithmetic ≤ depthLimit) :
    Viable ((front ++ [token]).map Token.kind) := by
  rcases token with ⟨kind, position⟩
  subst hPrice
  have hAccepted :
      judgeFrom depthLimit stop ⟨opened, compared, false⟩
          ([⟨.price field, position⟩] ++
            ⟨.offset 0, 0⟩ :: closing opened compared) =
        .accepted := by
    rw [List.singleton_append, judgeFrom_price,
      judgeFrom_closing]
  have hRest :
      ((Token.mk (.offset 0) 0 :: closing opened compared).map
          Token.kind).countP TokenKind.isArithmetic =
        0 := by
    have hClosing := countP_closing opened compared
    simpa [TokenKind.isArithmetic] using hClosing
  exact h.viable_append _ hAccepted hRest hCount

end Grammar

end BarRules

------------------------------------------------------------
-- Blame
------------------------------------------------------------

namespace BarRules

namespace Grammar

/-
  The end of the tokens is blamed: the start of an empty rule,
  the parenthesis that is not closed, or the end of the rule.
-/
def BlamesEnd
    (tokens : List Token)
    (stop : Nat)
    (kind : Kind)
    (position : Nat) :
    Prop :=
  if tokens = [] then
    position = 0
  else if kind = .unbalancedParens then
    InnermostOpen tokens position
  else
    position = stop

/-
  The tokens before an index are viable.  The token there is
  blamed, and the tokens up to it are not viable; or there is
  none, the end is blamed, and the tokens are no rule.
-/
def BlamesFirstImpossible
    (tokens : List Token)
    (stop : Nat)
    (kind : Kind)
    (position : Nat) :
    Prop :=
  ∃ i,
    i ≤ tokens.length ∧
      Viable ((tokens.take i).map Token.kind) ∧
      ((∃ token,
          tokens[i]? = some token ∧
            ¬ Viable
              ((tokens.take (i + 1)).map Token.kind) ∧
            position = token.position) ∨
        (i = tokens.length ∧
          (¬ ∃ e, Derives .rule (tokens.map Token.kind) e) ∧
          BlamesEnd tokens stop kind position))

open Flat

variable {stop position : Nat}
variable {kind : Kind}
variable {front tokens : List Token}

/- A token is blamed that the pass rejects after the others. -/
theorem blames_token
    {token : Token}
    {back : List Token}
    (hViable : Viable (front.map Token.kind))
    (hRejects :
      ∀ limit rest,
        depthLimit ≤ limit →
          judgeFrom limit stop start
              (front ++ token :: rest) ≠
            .accepted)
    (hTokens : front ++ token :: back = tokens) :
    BlamesFirstImpossible tokens stop kind
      token.position := by
  subst hTokens
  refine ⟨front.length, by simp, ?_, Or.inl ⟨token, ?_⟩⟩
  · rw [List.take_left]
    exact hViable
  · refine ⟨by simp, ?_, rfl⟩
    rw [List.append_cons, List.take_left' (by simp)]
    apply not_viable_of_rejected
    intro limit rest hLimit
    rw [List.append_assoc, List.singleton_append]
    exact hRejects limit rest hLimit

/- The end is blamed where the pass rejects it. -/
theorem blames_end
    (hViable : Viable (tokens.map Token.kind))
    (hRejects :
      ∀ limit,
        depthLimit ≤ limit →
          judgeFrom limit stop start tokens ≠ .accepted)
    (hEnd : BlamesEnd tokens stop kind position) :
    BlamesFirstImpossible tokens stop kind position := by
  refine
    ⟨tokens.length, Nat.le_refl _, ?_,
      Or.inr ⟨rfl, ?_, hEnd⟩⟩
  · rw [List.take_length]
    exact hViable
  · rintro ⟨e, hDerives⟩
    rcases hDerives.exists_limit stop with
      ⟨limit, hLimit, hAccepted⟩
    exact hRejects limit hLimit hAccepted

variable {state : Flat}

/- The operators of a front are among those of the tokens. -/
theorem countP_front_le
    {back : List Token}
    (hTokens : front ++ back = tokens)
    (hCount :
      (tokens.map Token.kind).countP TokenKind.isArithmetic ≤
        depthLimit) :
    (front.map Token.kind).countP TokenKind.isArithmetic ≤
      depthLimit := by
  rw [← hTokens, List.map_append, List.countP_append] at hCount
  omega

/- A token is blamed that the state rejects. -/
theorem Flat.LeadsTo.blames
    {token : Token}
    {back : List Token}
    (h : LeadsTo stop front state)
    (hTokens : front ++ token :: back = tokens)
    (hCount :
      (tokens.map Token.kind).countP TokenKind.isArithmetic ≤
        depthLimit)
    (hRejects :
      ∀ limit rest,
        judgeFrom limit stop state (token :: rest) ≠
          .accepted) :
    BlamesFirstImpossible tokens stop kind
      token.position := by
  apply blames_token _ _ hTokens
  · exact h.viable (countP_front_le hTokens hCount)
  · intro limit rest hLimit
    rw [h.passes limit _ hLimit]
    exact hRejects limit rest

/- The end is blamed if the state rejects it. -/
theorem Flat.LeadsTo.blames_at_end
    (h : LeadsTo stop front state)
    (hTokens : front ++ [] = tokens)
    (hCount :
      (tokens.map Token.kind).countP TokenKind.isArithmetic ≤
        depthLimit)
    (hRejects :
      ∀ limit, judgeFrom limit stop state [] ≠ .accepted)
    (hEnd : BlamesEnd tokens stop kind position) :
    BlamesFirstImpossible tokens stop kind position := by
  rw [List.append_nil] at hTokens
  subst hTokens
  apply blames_end (h.viable hCount) _ hEnd
  intro limit hLimit
  have hPass := h.passes limit [] hLimit
  rw [List.append_nil] at hPass
  rw [hPass]
  exact hRejects limit

/- The end of a rule is blamed, if no parenthesis is. -/
theorem blamesEnd_stop
    (hNonempty : tokens ≠ [])
    (hKind : kind ≠ .unbalancedParens) :
    BlamesEnd tokens stop kind stop := by
  unfold BlamesEnd
  rw [if_neg hNonempty, if_neg hKind]

/- What follows a price is blamed if it is no offset. -/
theorem Flat.LeadsTo.blames_noOffset
    {opened : List Nat}
    {compared : Bool}
    {price : Token}
    {field : PriceField}
    {rest : List Token}
    (h : LeadsTo stop front ⟨opened, compared, false⟩)
    (hPrice : price.kind = .price field)
    (hTokens : front ++ price :: rest = tokens)
    (hCount :
      (tokens.map Token.kind).countP TokenKind.isArithmetic ≤
        depthLimit)
    (hNoOffset :
      ∀ bars place others,
        rest ≠ ⟨.offset bars, place⟩ :: others) :
    BlamesFirstImpossible tokens stop .emptyOperand
      (startOf stop rest) := by
  rw [List.append_cons] at hTokens
  have hViable : Viable ((front ++ [price]).map Token.kind) :=
    h.viable_price price hPrice
      (countP_front_le hTokens hCount)
  rcases price with ⟨_, place⟩
  subst hPrice
  cases rest with
  | nil =>
      rw [List.append_nil] at hTokens
      rw [hTokens] at hViable
      have hNonempty : tokens ≠ [] := by
        intro hEmpty
        simp [hEmpty] at hTokens
      apply blames_end hViable
      · intro limit hLimit
        rw [← hTokens, h.passes limit _ hLimit]
        simp [judgeFrom]
      · exact blamesEnd_stop hNonempty (by simp)
  | cons token back =>
      apply blames_token hViable _ hTokens
      intro limit rest hLimit
      have hKinds :
          ∀ bars after,
            (token :: rest).map Token.kind ≠
              .offset bars :: after := by
        intro bars after hOffset
        rcases exists_of_map_kind_cons hOffset with
          ⟨place, others, hFirst, _⟩
        cases hFirst
        exact hNoOffset bars place back rfl
      rw [List.append_assoc, List.singleton_append,
        h.passes limit _ hLimit, judgeFrom_noOffset hKinds]
      simp

/-
  The induction follows the pass.  What it has gone over leads
  to its state, so a token that the state rejects is blamed
  rightly, and so is the end.
-/
theorem blames_of_judgeFrom
    {rest : List Token}
    (hCount :
      (tokens.map Token.kind).countP TokenKind.isArithmetic ≤
        depthLimit)
    (hNonempty : tokens ≠ [])
    (hKind : kind ≠ .tooDeep)
    (hLeads : LeadsTo stop front state)
    (hTokens : front ++ rest = tokens)
    (h :
      judgeFrom depthLimit stop state rest =
        .rejected kind position) :
    BlamesFirstImpossible tokens stop kind position := by
  fun_induction judgeFrom depthLimit stop state rest
      generalizing front with
  | case1 opened compared place rest hDepth ih =>
      rw [List.append_cons] at hTokens
      apply ih _ hTokens h
      apply hLeads.append _ (hLeads.encloses.openParen place)
      intro limit rest hLimit
      exact judgeFrom_openParen (by omega)
  | case2 opened compared place rest hDepth =>
      cases h
      exact absurd rfl hKind
  | case3 opened compared field place bars next rest ih =>
      rw [List.append_cons, List.append_cons,
        List.append_assoc front] at hTokens
      apply ih _ hTokens h
      apply hLeads.append
      · intro limit rest hLimit
        exact judgeFrom_price
      · apply hLeads.encloses.append
        intro depth
        rfl
  | case4 opened compared field place rest hNoOffset =>
      -- The price itself is viable, so what follows it counts.
      cases h
      exact hLeads.blames_noOffset rfl hTokens hCount
        hNoOffset
  | case5 opened compared rest hNoOpen _ hNoPrice =>
      cases h
      cases rest with
      | nil =>
          apply hLeads.blames_at_end hTokens hCount
          · simp [judgeFrom]
          · exact blamesEnd_stop hNonempty (by simp)
      | cons token rest =>
          rcases token with ⟨found, place⟩
          have hPrice : ∀ field, found ≠ .price field := by
            intro field hFound
            exact hNoPrice field place rest (by rw [hFound])
          have hOpen : found ≠ .openParen := by
            intro hFound
            exact hNoOpen place rest (by rw [hFound])
          apply hLeads.blames hTokens hCount
          intro limit rest
          rw [judgeFrom_noOperand hPrice hOpen]
          simp
  | case6 opened compared op place rest ih =>
      rw [List.append_cons] at hTokens
      apply ih _ hTokens h
      apply hLeads.append
      · intro limit rest hLimit
        exact judgeFrom_arith
      · apply hLeads.encloses.append
        intro depth
        rfl
  | case7 inner outer compared op place rest =>
      cases h
      apply hLeads.blames hTokens hCount
      intro limit rest
      simp [judgeFrom]
  | case8 op place rest =>
      cases h
      apply hLeads.blames hTokens hCount
      intro limit rest
      simp [judgeFrom]
  | case9 op place rest ih =>
      rw [List.append_cons] at hTokens
      apply ih _ hTokens h
      apply hLeads.append
      · intro limit rest hLimit
        exact judgeFrom_compare
      · trivial
  | case10 inner outer compared place rest ih =>
      rw [List.append_cons] at hTokens
      apply ih _ hTokens h
      apply hLeads.append _ (hLeads.encloses.closeParen place)
      intro limit rest hLimit
      exact judgeFrom_closeParen
  | case11 compared place rest =>
      cases h
      apply hLeads.blames hTokens hCount
      intro limit rest
      simp [judgeFrom]
  | case12 opened compared token rest hArith hNested hSecond
      hFirst hInner hOuter =>
      -- The cases before have taken every operator and every
      -- closing parenthesis.
      rcases token with ⟨found, place⟩
      have hOperator : ∀ op, found ≠ .operator op := by
        intro op hFound
        cases op with
        | arith op => exact hArith op place (by rw [hFound])
        | compare op =>
            cases opened with
            | cons inner outer =>
                exact hNested inner outer op place rfl
                  (by rw [hFound])
            | nil =>
                cases compared with
                | true =>
                    exact hSecond op place rfl rfl
                      (by rw [hFound])
                | false =>
                    exact hFirst op place rfl rfl
                      (by rw [hFound])
      have hClose : found ≠ .closeParen := by
        intro hFound
        cases opened with
        | cons inner outer =>
            exact hInner inner outer place rfl
              (by rw [hFound])
        | nil => exact hOuter place rfl (by rw [hFound])
      cases h
      apply hLeads.blames hTokens hCount
      intro limit rest
      rw [judgeFrom_misplaced hOperator hClose]
      simp
  | case13 inner outer compared =>
      cases h
      apply hLeads.blames_at_end hTokens hCount
      · simp [judgeFrom]
      · unfold BlamesEnd
        rw [if_neg hNonempty, if_pos rfl, ← hTokens,
          List.append_nil]
        exact hLeads.encloses.innermostOpen
  | case14 =>
      cases h
      apply hLeads.blames_at_end hTokens hCount
      · simp [judgeFrom]
      · exact blamesEnd_stop hNonempty (by simp)
  | case15 =>
      cases h

/- Tokens that are rejected are blamed rightly. -/
theorem blames_of_judge
    (hCount :
      (tokens.map Token.kind).countP TokenKind.isArithmetic ≤
        depthLimit)
    (hKind : kind ≠ .tooDeep)
    (h :
      judge depthLimit stop tokens = .rejected kind position) :
    BlamesFirstImpossible tokens stop kind position := by
  by_cases hEmpty : tokens = []
  · subst hEmpty
    cases h
    have hStart : LeadsTo stop [] start := leadsTo_start
    apply blames_end
    · exact hStart.viable (by simp)
    · intro limit _
      simp [start, judgeFrom]
    · rfl
  · rw [judge_eq_judgeFrom hEmpty hCount] at h
    exact blames_of_judgeFrom hCount hEmpty hKind
      leadsTo_start (List.nil_append tokens) h

end Grammar

namespace Rule

/-
  Tokens with at most 256 arithmetic operators fail as a rule
  only with a fault of the grammar.  Unless they are nested too
  deep, the fault is blamed on the first token with which no
  rule can start, or else on the end.
-/
theorem ofTokens_blames_first_impossible
    {tokens : List Token}
    {rule : String}
    {failure : Failure}
    (hCount :
      (tokens.map Token.kind).countP
        TokenKind.isArithmetic ≤ 256)
    (h : ofTokens tokens rule = .error failure) :
    ∃ kind detail position,
      failure = .grammar kind detail rule position ∧
        (kind ≠ .tooDeep →
          Grammar.BlamesFirstImpossible tokens
            (Text.byteLength rule.toList) kind position) := by
  rw [ofTokens_eq_read] at h
  split at h
  · cases h
  · rename_i fault hFault
    cases h
    refine ⟨_, _, _, rfl, ?_⟩
    intro hKind
    exact Grammar.blames_of_judge hCount hKind
      (Grammar.judge_of_read_eq_error hFault)

/-
  Of three parentheses the outer one and the last one are not
  closed, and the last one is blamed.
-/
theorem ofTokens_blames_unclosed :
    let tokens : List Token :=
      [⟨.price .opening, 0⟩, ⟨.offset 1, 4⟩,
        ⟨.operator (.compare .less), 8⟩, ⟨.openParen, 10⟩,
        ⟨.openParen, 11⟩, ⟨.price .closing, 12⟩,
        ⟨.offset 6, 17⟩, ⟨.closeParen, 20⟩,
        ⟨.operator (.arith .subtract), 22⟩, ⟨.openParen, 24⟩,
        ⟨.price .low, 25⟩, ⟨.offset 2, 28⟩]
    let rule := "OPEN[1] < ((CLOSE[6]) - (LOW[2]"
    (tokens.map Token.kind).countP
          TokenKind.isArithmetic ≤ 256 ∧
      ofTokens tokens rule =
        .error
          (.grammar .unbalancedParens "unclosed '('" rule
            24) ∧
      Grammar.BlamesFirstImpossible tokens
        (Text.byteLength rule.toList) .unbalancedParens
        24 := by
  intro tokens rule
  have hCount :
      (tokens.map Token.kind).countP
        TokenKind.isArithmetic ≤ 256 := by
    decide
  have hError :
      ofTokens tokens rule =
        .error
          (.grammar .unbalancedParens "unclosed '('" rule
            24) := by
    decide +kernel
  rcases ofTokens_blames_first_impossible hCount hError with
    ⟨kind, detail, position, hFailure, hBlames⟩
  cases hFailure
  exact ⟨hCount, hError, hBlames (by decide)⟩

end Rule

end BarRules
