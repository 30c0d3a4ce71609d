import BarRules.Proofs.Grammar.Kinds
import BarRules.Rule

/-
  The readers of a rule follow those of its kinds of tokens.

  Key definitions include:
    * `BarRules.Rule.Follows`
    * `BarRules.Rule.Taken.Matches`
    * `BarRules.Rule.Reader.Follows`

  Key theorems include:
    * `BarRules.Rule.chain_follows`
    * `BarRules.Rule.operand_follows`
    * `BarRules.Rule.ofTokens_follows`
    * `BarRules.Rule.ofTokens_eq_read`

  A reader of a rule sees where its tokens stand and what the
  rule is.  It takes the same expression as the reader of their
  kinds, leaves the same tokens and fails with the same cause,
  and where it fails as many tokens are left as the other one
  counts.  This is shown step by step along the calls of the
  readers: what is left is always a suffix of the tokens, so a
  fault of a part is a fault of the whole in the same place.
-/

------------------------------------------------------------
-- One Run Follows Another
------------------------------------------------------------

namespace BarRules

namespace Rule

/-
  A run over the tokens of a rule follows a run over kinds of
  tokens.  Either both give values that agree, or both fail
  with one cause, the first run in the place from which on the
  second one counts the tokens.
-/
def Follows
    (rule : String)
    (tokens : List Token)
    {α β : Type}
    (Agree : α → β → Prop)
    (run : Except Failure α)
    (plain : Except Grammar.Fault β) :
    Prop :=
  (∃ value bare,
      run = .ok value ∧
        plain = .ok bare ∧
        Agree value bare) ∨
    ∃ cause back,
      run = .error (refusal rule cause (here rule back)) ∧
        plain = .error ⟨cause, back.length⟩ ∧
        cause ≠ .emptyRule ∧
        back <:+ tokens

variable {rule : String}
variable {tokens after : List Token}
variable {α β γ δ : Type}
variable {Agree : α → β → Prop}
variable {Accord : γ → δ → Prop}

namespace Follows

/- Values that agree are given alike. -/
theorem ok
    {value : α}
    {bare : β}
    (h : Agree value bare) :
    Follows rule tokens Agree (.ok value) (.ok bare) :=
  Or.inl ⟨value, bare, rfl, rfl, h⟩

/- Both blame the first of the tokens that are left. -/
theorem error
    {cause : Grammar.Cause}
    {back : List Token}
    {left : Nat}
    (hCause : cause ≠ .emptyRule)
    (hBack : back <:+ tokens)
    (hLeft : back.length = left) :
    Follows rule tokens Agree
      (.error (refusal rule cause (here rule back)))
      (.error ⟨cause, left⟩) :=
  Or.inr ⟨cause, back, rfl, by rw [hLeft], hCause, hBack⟩

/- What is blamed in a suffix is blamed in the same place. -/
theorem of_suffix
    {run : Except Failure α}
    {plain : Except Grammar.Fault β}
    (h : Follows rule after Agree run plain)
    (hAfter : after <:+ tokens) :
    Follows rule tokens Agree run plain := by
  rcases h with
    hOk | ⟨cause, back, hRun, hPlain, hCause, hBack⟩
  · exact Or.inl hOk
  · exact
      Or.inr
        ⟨cause, back, hRun, hPlain, hCause,
          hBack.trans hAfter⟩

/-
  Runs that begin with a reading of a suffix follow each other
  if they go on to do so from values that agree, and if they
  fail as the readings do.
-/
theorem andThen
    {run : Except Failure α}
    {plain : Except Grammar.Fault β}
    {whole : Except Failure γ}
    {plainWhole : Except Grammar.Fault δ}
    (h : Follows rule after Agree run plain)
    (hAfter : after <:+ tokens)
    (hOk :
      ∀ value bare,
        run = .ok value →
          plain = .ok bare →
            Agree value bare →
              Follows rule tokens Accord whole plainWhole)
    (hError :
      ∀ failure fault,
        run = .error failure →
          plain = .error fault →
            whole = .error failure ∧
              plainWhole = .error fault) :
    Follows rule tokens Accord whole plainWhole := by
  rcases h with
    ⟨value, bare, hRun, hPlain, hAgree⟩ |
      ⟨cause, back, hRun, hPlain, hCause, hBack⟩
  · exact hOk value bare hRun hPlain hAgree
  · rcases hError _ _ hRun hPlain with ⟨rfl, rfl⟩
    exact error hCause (hBack.trans hAfter) rfl

end Follows

end Rule

end BarRules

------------------------------------------------------------
-- Chains
------------------------------------------------------------

namespace BarRules

namespace Rule

/-
  What is taken is the same expression, and the kinds of the
  tokens that are left are the same.
-/
structure Taken.Matches
    {tokens : List Token}
    (taken : Taken tokens)
    (bare : Grammar.Taken (tokens.map Token.kind)) :
    Prop where
  expr_eq : taken.expr = bare.expr
  kinds_eq : taken.rest.map Token.kind = bare.rest
  suffix : taken.rest <:+ tokens

/- A reader follows a reader of kinds on all tokens. -/
def Reader.Follows
    (rule : String)
    (reader : Reader)
    (plain : Grammar.Reader) :
    Prop :=
  ∀ tokens,
    Rule.Follows rule tokens Taken.Matches
      (reader tokens) (plain (tokens.map Token.kind))

variable {rule : String}
variable {joins : Arithmetic → Bool}
variable {reader : Reader}
variable {plain : Grammar.Reader}
variable {tokens after : List Token}

/- What is left begins with a token of the same kind. -/
theorem Taken.Matches.rest_eq
    {left : Taken tokens}
    {bare : Grammar.Taken (tokens.map Token.kind)}
    {first : Token}
    (hLeft : left.Matches bare)
    (hRest : left.rest = first :: after) :
    bare.rest = first.kind :: after.map Token.kind := by
  rw [← hLeft.kinds_eq, hRest, List.map_cons]

/- What follows a token that is left is left as well. -/
theorem Taken.Matches.after_suffix
    {left : Taken tokens}
    {bare : Grammar.Taken (tokens.map Token.kind)}
    {first : Token}
    (hLeft : left.Matches bare)
    (hRest : left.rest = first :: after) :
    after <:+ tokens := by
  have hAfter : after <:+ left.rest := by
    rw [hRest]
    exact List.suffix_cons _ _
  exact hAfter.trans hLeft.suffix

/- Joined operands match if both operands do. -/
theorem Taken.Matches.join
    {op : Arithmetic}
    {position : Nat}
    {left : Taken tokens}
    {bare : Grammar.Taken (tokens.map Token.kind)}
    {right : Taken after}
    {bareRight : Grammar.Taken (after.map Token.kind)}
    (hLeft : left.Matches bare)
    (hRight : right.Matches bareRight)
    (hRest :
      left.rest = ⟨.operator (.arith op), position⟩ :: after) :
    (left.join op hRest right).Matches
      (bare.join op (hLeft.rest_eq hRest) bareRight) where
  expr_eq := by
    simp only [Taken.join, Grammar.Taken.join,
      hLeft.expr_eq, hRight.expr_eq]
  kinds_eq := hRight.kinds_eq
  suffix := hRight.suffix.trans (hLeft.after_suffix hRest)

/-
  A chain that ends leaves nothing that the chain of kinds
  could go on with.
-/
theorem Taken.Matches.stops
    {left : Taken tokens}
    {bare : Grammar.Taken (tokens.map Token.kind)}
    (hLeft : left.Matches bare)
    (hEnds :
      ∀ op position after,
        left.rest =
            ⟨.operator (.arith op), position⟩ :: after →
          joins op = false) :
    Grammar.Stops joins bare.rest := by
  intro op others hRest
  rw [← hLeft.kinds_eq] at hRest
  rcases Grammar.exists_of_map_kind_cons hRest with
    ⟨position, after, hAfter, _⟩
  exact hEnds op position after hAfter

/-
  A chain goes on along with the chain of kinds: the next token
  of the one is an operator that joins if that of the other is.
-/
theorem chain_follows
    {left : Taken tokens}
    {bare : Grammar.Taken (tokens.map Token.kind)}
    (hReader : reader.Follows rule plain)
    (hLeft : left.Matches bare) :
    Follows rule tokens Taken.Matches
      (chain joins reader left)
      (Grammar.chain joins plain bare) := by
  fun_induction chain joins reader left generalizing bare with
  | case1 left op position after hRest hJoins failure hFailure =>
      rw [Grammar.chain_eq_of_operator (hLeft.rest_eq hRest)
        hJoins]
      apply (hReader after).andThen (hLeft.after_suffix hRest)
      · intro right bareRight hRight
        rw [hFailure] at hRight
        cases hRight
      · intro failure' fault hFailure' hFault
        rw [hFailure] at hFailure'
        cases hFailure'
        rw [hFault]
        exact ⟨rfl, rfl⟩
  | case2 left op position after hRest hJoins right hRight ih =>
      rw [Grammar.chain_eq_of_operator (hLeft.rest_eq hRest)
        hJoins]
      apply (hReader after).andThen (hLeft.after_suffix hRest)
      · intro taken bareRight hTaken hBare hMatches
        rw [hRight] at hTaken
        cases hTaken
        rw [hBare]
        exact ih (hLeft.join hMatches hRest)
      · intro failure fault hFailure
        rw [hRight] at hFailure
        cases hFailure
  | case3 left op position after hRest hJoins =>
      rw [Grammar.chain_of_stops]
      · exact .ok hLeft
      · apply hLeft.stops
        intro other place others hOthers
        rw [hRest] at hOthers
        cases hOthers
        simpa using hJoins
  | case4 left hOther =>
      rw [Grammar.chain_of_stops]
      · exact .ok hLeft
      · apply hLeft.stops
        intro op position after hRest
        exact absurd hRest (hOther op position after)

/- A chain of operands follows the chain of their kinds. -/
theorem leftGrouped_follows
    (hReader : reader.Follows rule plain) :
    Reader.Follows rule (leftGrouped joins reader)
      (Grammar.leftGrouped joins plain) := by
  intro tokens
  unfold leftGrouped Grammar.leftGrouped
  apply (hReader tokens).andThen (List.suffix_refl tokens)
  · intro first bare hFirst hBare hMatches
    rw [hFirst, hBare]
    exact chain_follows hReader hMatches
  · intro failure fault hFailure hFault
    rw [hFailure, hFault]
    exact ⟨rfl, rfl⟩

/- A sum follows the sum of its kinds. -/
theorem sum_follows
    (hReader : reader.Follows rule plain) :
    Reader.Follows rule (sum reader) (Grammar.sum plain) :=
  leftGrouped_follows (leftGrouped_follows hReader)

end Rule

end BarRules

------------------------------------------------------------
-- Operands
------------------------------------------------------------

namespace BarRules

namespace Rule

variable {rule : String}
variable {tokens : List Token}

/-
  The closing parenthesis is found, or something else is blamed
  in its place.
-/
theorem close_follows
    {position : Nat}
    {inner : Taken tokens}
    {bare : Grammar.Taken (tokens.map Token.kind)}
    (hInner : inner.Matches bare) :
    Follows rule (⟨.openParen, position⟩ :: tokens)
      Taken.Matches
      (close rule ⟨.openParen, position⟩ inner)
      (Grammar.close bare) := by
  have hOuter :
      inner.rest <:+ ⟨.openParen, position⟩ :: tokens :=
    hInner.suffix.trans (List.suffix_cons _ _)
  rcases inner with ⟨e, rest, _⟩
  rcases bare with ⟨e', kinds, _⟩
  rcases hInner with ⟨hExpr, hKinds, _⟩
  subst hExpr hKinds
  rcases rest with _ | ⟨⟨kind, place⟩, rest⟩
  · exact .error (by simp) (List.suffix_refl _) (by simp)
  · have hAfter :
        rest <:+ ⟨.openParen, position⟩ :: tokens :=
      (List.suffix_cons _ _).trans hOuter
    cases kind with
    | closeParen => exact .ok ⟨rfl, rfl, hAfter⟩
    | operator op =>
        cases op <;> exact .error (by simp) hOuter (by simp)
    | _ => exact .error (by simp) hOuter (by simp)

/- A price is read with the offset behind it. -/
theorem operand_follows_of_price
    (field : PriceField)
    (position room : Nat) :
    Follows rule (⟨.price field, position⟩ :: tokens)
      Taken.Matches
      (operand rule room (⟨.price field, position⟩ :: tokens))
      (Grammar.operand room
        (.price field :: tokens.map Token.kind)) := by
  rcases tokens with _ | ⟨⟨kind, place⟩, rest⟩
  · cases room <;>
      exact .error (by simp) (List.suffix_cons _ _) rfl
  · cases kind with
    | offset bars =>
        have hRest :
            rest <:+
              ⟨.price field, position⟩ ::
                ⟨.offset bars, place⟩ :: rest :=
          (List.suffix_cons _ _).trans (List.suffix_cons _ _)
        cases room <;> exact .ok ⟨rfl, rfl, hRest⟩
    | _ =>
        cases room <;>
          exact .error (by simp) (List.suffix_cons _ _) (by simp)

/-
  Only what opens with a parenthesis depends on how many levels
  are allowed.
-/
theorem operand_follows_of_parens
    {room : Nat}
    (hParens :
      ∀ position rest,
        Follows rule (⟨.openParen, position⟩ :: rest)
          Taken.Matches
          (operand rule room (⟨.openParen, position⟩ :: rest))
          (Grammar.operand room
            (.openParen :: rest.map Token.kind))) :
    Reader.Follows rule (operand rule room)
      (Grammar.operand room) := by
  intro tokens
  rcases tokens with _ | ⟨⟨kind, position⟩, rest⟩
  · cases room <;>
      exact .error (by simp) (List.suffix_refl _) rfl
  · cases kind with
    | price field =>
        exact operand_follows_of_price field position room
    | openParen => exact hParens position rest
    | _ =>
        cases room <;>
          exact .error (by simp) (List.suffix_refl _) (by simp)

/- A sum in parentheses is read with one level less. -/
theorem operand_follows_of_openParen
    {room : Nat}
    (position : Nat)
    (hOperand :
      Reader.Follows rule (operand rule room)
        (Grammar.operand room)) :
    Follows rule (⟨.openParen, position⟩ :: tokens)
      Taken.Matches
      (operand rule (room + 1)
        (⟨.openParen, position⟩ :: tokens))
      (Grammar.operand (room + 1)
        (.openParen :: tokens.map Token.kind)) := by
  have hSuffix : tokens <:+ ⟨.openParen, position⟩ :: tokens :=
    List.suffix_cons _ _
  simp only [operand, Grammar.operand, List.head?_map]
  by_cases hEmpty :
      tokens.head?.map Token.kind = some .closeParen
  · rw [if_pos hEmpty, if_pos hEmpty]
    exact .error (by simp) hSuffix (by simp)
  · rw [if_neg hEmpty, if_neg hEmpty]
    apply (sum_follows hOperand tokens).andThen hSuffix
    · intro inner bare hInner hBare hMatches
      rw [hInner, hBare]
      exact close_follows hMatches
    · intro failure fault hFailure hFault
      rw [hFailure, hFault]
      exact ⟨rfl, rfl⟩

/-
  The induction is on the levels that are still allowed, as in
  both readers.
-/
theorem operand_follows (room : Nat) :
    Reader.Follows rule (operand rule room)
      (Grammar.operand room) := by
  induction room with
  | zero =>
      apply operand_follows_of_parens
      intro position rest
      exact .error (by simp) (List.suffix_refl _) (by simp)
  | succ room ih =>
      apply operand_follows_of_parens
      intro position rest
      exact operand_follows_of_openParen position ih

end Rule

end BarRules

------------------------------------------------------------
-- Rules
------------------------------------------------------------

namespace BarRules

namespace Rule

variable {rule : String}
variable {tokens : List Token}

/- The sides of a rule are sums within the limit. -/
theorem side_follows :
    Reader.Follows rule (side rule) Grammar.side :=
  sum_follows (operand_follows Grammar.depthLimit)

/- Both want the tokens to end. -/
theorem finish_follows
    (op : Comparison)
    (left right : Expr) :
    Follows rule tokens Eq
      (finish rule op left right tokens)
      (Grammar.finish op left right
        (tokens.map Token.kind)) := by
  rcases tokens with _ | ⟨⟨kind, position⟩, rest⟩
  · exact .ok rfl
  · cases kind with
    | operator op =>
        cases op <;>
          exact .error (by simp) (List.suffix_refl _) (by simp)
    | _ =>
        exact .error (by simp) (List.suffix_refl _) (by simp)

/- Both want a comparison, and read on behind it. -/
theorem compared_follows (left : Expr) :
    Follows rule tokens Eq
      (compared rule left tokens)
      (Grammar.compared left (tokens.map Token.kind)) := by
  rcases tokens with _ | ⟨⟨kind, position⟩, rest⟩
  · exact .error (by simp) (List.suffix_refl _) rfl
  · have hAfter : rest <:+ ⟨kind, position⟩ :: rest :=
      List.suffix_cons _ _
    cases kind with
    | operator op =>
        cases op with
        | arith op =>
            exact
              .error (by simp) (List.suffix_refl _) (by simp)
        | compare op =>
            simp only [compared, List.map_cons,
              Grammar.compared]
            apply (side_follows rest).andThen hAfter
            · intro right bare hRight hBare hMatches
              simp only [hRight, hBare, hMatches.expr_eq,
                ← hMatches.kinds_eq]
              exact (finish_follows op left bare.expr).of_suffix
                (hMatches.suffix.trans hAfter)
            · intro failure fault hFailure hFault
              rw [hFailure, hFault]
              exact ⟨rfl, rfl⟩
    | _ =>
        exact .error (by simp) (List.suffix_refl _) (by simp)

/-
  Neither finds an operator too many, or the one finds the
  token from which on the other counts them.
-/
def SameExcess
    (tokens : List Token)
    (found : Option Token)
    (left : Option Nat) :
    Prop :=
  (found = none ∧ left = none) ∨
    ∃ token back,
      found = some token ∧
        left = some (token :: back).length ∧
        token :: back <:+ tokens

/- What is found behind a token is found with it. -/
theorem SameExcess.cons
    {found : Option Token}
    {left : Option Nat}
    (h : SameExcess tokens found left)
    (token : Token) :
    SameExcess (token :: tokens) found left := by
  rcases h with
    hNone | ⟨excessive, back, hFound, hLeft, hSuffix⟩
  · exact Or.inl hNone
  · exact
      Or.inr
        ⟨excessive, back, hFound, hLeft,
          hSuffix.trans (List.suffix_cons _ _)⟩

/- The same operator is found beyond a number of them. -/
theorem sameExcess
    (budget : Nat)
    (tokens : List Token) :
    SameExcess tokens
      (excess budget tokens)
      (Grammar.excess budget (tokens.map Token.kind)) := by
  induction tokens generalizing budget with
  | nil => cases budget <;> exact Or.inl ⟨rfl, rfl⟩
  | cons token rest ih =>
      have hSame := (ih budget).cons token
      rcases token with ⟨kind, position⟩
      cases kind with
      | operator op =>
          cases op with
          | compare op => cases budget <;> exact hSame
          | arith op =>
              cases budget with
              | zero =>
                  refine
                    Or.inr
                      ⟨_, rest, rfl, ?_, List.suffix_refl _⟩
                  simp [Grammar.excess]
              | succ budget => exact (ih budget).cons _
      | _ => cases budget <;> exact hSame

/- Tokens that are any are read as their kinds are. -/
theorem ofTokens_follows
    (hTokens : tokens ≠ []) :
    Follows rule tokens Eq
      (ofTokens tokens rule)
      (Grammar.read (tokens.map Token.kind)) := by
  have hKinds : tokens.map Token.kind ≠ [] := by
    simpa using hTokens
  unfold ofTokens Grammar.read
  rw [if_neg hTokens, if_neg hKinds]
  rcases sameExcess Grammar.depthLimit tokens with
    ⟨hNone, hFew⟩ | ⟨token, back, hSome, hMany, hSuffix⟩
  · simp only [hNone, hFew]
    apply (side_follows tokens).andThen (List.suffix_refl _)
    · intro left bare hLeft hBare hMatches
      simp only [hLeft, hBare, hMatches.expr_eq,
        ← hMatches.kinds_eq]
      exact (compared_follows bare.expr).of_suffix
        hMatches.suffix
    · intro failure fault hFailure hFault
      rw [hFailure, hFault]
      exact ⟨rfl, rfl⟩
  · rw [hSome, hMany]
    exact .error (by simp) hSuffix rfl

/- Only a rule without tokens is blamed for being empty. -/
theorem cause_ne_emptyRule_of_read
    {fault : Grammar.Fault}
    (hTokens : tokens ≠ [])
    (h : Grammar.read (tokens.map Token.kind) = .error fault) :
    fault.cause ≠ .emptyRule := by
  have hFollows :
      Follows "" tokens Eq (ofTokens tokens "")
        (Grammar.read (tokens.map Token.kind)) :=
    ofTokens_follows hTokens
  rw [h] at hFollows
  rcases hFollows with
    ⟨_, _, _, hOk, _⟩ | ⟨_, _, _, hError, hCause, _⟩
  · cases hOk
  · cases hError
    exact hCause

/- A fault of the kinds stands where they are left. -/
theorem here_eq_position
    {cause : Grammar.Cause}
    {back : List Token}
    (hCause : cause ≠ .emptyRule)
    (hBack : back <:+ tokens) :
    here rule back =
      Grammar.Fault.position ⟨cause, back.length⟩ tokens
        (Text.byteLength rule.toList) := by
  unfold Grammar.Fault.position
  rw [if_neg hCause, ← List.suffix_iff_eq_drop.mp hBack]
  cases back <;> rfl

/-
  A rule is read as its kinds of tokens are.  The rule is
  reported with a fault, and its length is the place of a fault
  at its end.
-/
theorem ofTokens_eq_read
    (tokens : List Token)
    (rule : String) :
    ofTokens tokens rule =
      match Grammar.read (tokens.map Token.kind) with
      | .ok e => .ok e
      | .error fault =>
          .error
            (.grammar fault.cause.kind fault.cause.message rule
              (fault.position tokens
                (Text.byteLength rule.toList))) := by
  by_cases hTokens : tokens = []
  · rw [hTokens]
    rfl
  · rcases ofTokens_follows hTokens with
      ⟨e, _, hRun, hPlain, rfl⟩ |
        ⟨cause, back, hRun, hPlain, hCause, hBack⟩
    · rw [hRun, hPlain]
    · rw [hRun, hPlain, here_eq_position hCause hBack]
      rfl

end Rule

end BarRules
