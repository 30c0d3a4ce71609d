import BarRules.Proofs.RuleSet.AllOrNothing
import BarRules.Proofs.Text.Boundaries

/-
  Rules that differ in their layout only.

  Key definitions include:
    * `BarRules.Rule.SamePlace`
    * `BarRules.Rule.Alike`

  Key theorems include:
    * `BarRules.Rule.samePlace_here`
    * `BarRules.Rule.Follows.alike`
    * `BarRules.Rule.layout_is_ignored`

  Two rules of the same kinds of tokens are told apart by the
  positions of their tokens and by their texts, and the readers
  see both.  Neither decides anything: at each step the readers
  of both rules do what the reader of the kinds does, so rules
  come out alike, and where one is blamed the other has as many
  tokens left.
-/

------------------------------------------------------------
-- Corresponding Places
------------------------------------------------------------

namespace BarRules

namespace Rule

/-
  Places in two rules that correspond: both belong to the token
  at one index, both are the end of their rule, or both are the
  start of a rule without tokens.
-/
inductive SamePlace
    (tokens others : List Token)
    (rule other : String) :
    Nat → Nat → Prop where
  | token
      {index : Nat}
      {token twin : Token}
      (hToken : tokens[index]? = some token)
      (hTwin : others[index]? = some twin) :
      SamePlace tokens others rule other
        token.position twin.position
  | stop :
      SamePlace tokens others rule other
        rule.utf8ByteSize other.utf8ByteSize
  | start
      (hTokens : tokens = [])
      (hOthers : others = []) :
      SamePlace tokens others rule other 0 0

/-
  Two rules come out alike: with the same result, or with a
  fault of the same kind and wording at corresponding places.
-/
def Alike
    (tokens others : List Token)
    (rule other : String)
    {α : Type}
    (result twin : Except Failure α) :
    Prop :=
  (∃ value, result = .ok value ∧ twin = .ok value) ∨
    ∃ kind detail position place,
      result = .error (.grammar kind detail rule position) ∧
        twin = .error (.grammar kind detail other place) ∧
        SamePlace tokens others rule other position place

/- What is made of results that are alike is alike. -/
theorem Alike.map
    {tokens others : List Token}
    {rule other : String}
    {α β : Type}
    {result twin : Except Failure α}
    (h : Alike tokens others rule other result twin)
    (f : α → β) :
    Alike tokens others rule other
      (result.map f) (twin.map f) := by
  rcases h with
    ⟨value, rfl, rfl⟩ |
      ⟨kind, detail, position, place, rfl, rfl, hPlace⟩
  · exact Or.inl ⟨f value, rfl, rfl⟩
  · exact
      Or.inr ⟨kind, detail, position, place, rfl, rfl, hPlace⟩

end Rule

end BarRules

------------------------------------------------------------
-- Places of Faults
------------------------------------------------------------

namespace BarRules

namespace Rule

variable {tokens others : List Token}
variable {rule other : String}

/- The first of the tokens at the end stands at an index. -/
theorem getElem?_of_suffix
    {token : Token}
    {back : List Token}
    (h : token :: back <:+ tokens) :
    tokens[tokens.length - (token :: back).length]? =
      some token := by
  rw [← List.head?_drop, ← List.suffix_iff_eq_drop.mp h]
  rfl

/-
  Two runs that fail with as many tokens left fail at
  corresponding places.
-/
theorem samePlace_here
    {back twins : List Token}
    (hLength : tokens.length = others.length)
    (hBack : back <:+ tokens)
    (hTwins : twins <:+ others)
    (hLeft : back.length = twins.length) :
    SamePlace tokens others rule other
      (here rule back) (here other twins) := by
  cases back with
  | nil =>
      cases List.eq_nil_of_length_eq_zero hLeft.symm
      have hStop : here rule [] = rule.utf8ByteSize :=
        Text.byteLength_toList rule
      have hTwinStop : here other [] = other.utf8ByteSize :=
        Text.byteLength_toList other
      rw [hStop, hTwinStop]
      exact .stop
  | cons token back =>
      cases twins with
      | nil => cases hLeft
      | cons twin twins =>
          have hToken := getElem?_of_suffix hBack
          have hTwin := getElem?_of_suffix hTwins
          rw [← hLength, ← hLeft] at hTwin
          exact .token hToken hTwin

end Rule

end BarRules

------------------------------------------------------------
-- Layout
------------------------------------------------------------

namespace BarRules

namespace Rule

variable {tokens others : List Token}
variable {rule other : String}

/-
  Runs over two rules that follow one run over kinds of tokens
  come out alike.
-/
theorem Follows.alike
    {α : Type}
    {run twin : Except Failure α}
    {plain : Except Grammar.Fault α}
    (hLength : tokens.length = others.length)
    (hRun : Follows rule tokens Eq run plain)
    (hTwin : Follows other others Eq twin plain) :
    Alike tokens others rule other run twin := by
  rcases hRun with
    ⟨value, _, rfl, rfl, rfl⟩ |
      ⟨cause, back, rfl, rfl, _, hBack⟩
  · rcases hTwin with
      ⟨_, _, rfl, hPlain, rfl⟩ | ⟨_, _, _, hPlain, _⟩
    · cases hPlain
      exact Or.inl ⟨value, rfl, rfl⟩
    · cases hPlain
  · rcases hTwin with
      ⟨_, _, _, hPlain, _⟩ |
        ⟨cause', twins, rfl, hPlain, _, hTwins⟩
    · cases hPlain
    · simp only [Except.error.injEq, Grammar.Fault.mk.injEq]
        at hPlain
      rcases hPlain with ⟨rfl, hLeft⟩
      exact
        Or.inr
          ⟨_, _, _, _, rfl, rfl,
            samePlace_here hLength hBack hTwins hLeft⟩

/-
  Tokens of the same kinds are read alike.  The readers of both
  rules follow the reader of the kinds step by step.
-/
theorem alike_ofTokens
    (hKinds :
      tokens.map Token.kind = others.map Token.kind)
    (rule other : String) :
    Alike tokens others rule other
      (ofTokens tokens rule) (ofTokens others other) := by
  have hLength : tokens.length = others.length := by
    simpa using congrArg List.length hKinds
  by_cases hEmpty : tokens = []
  · subst hEmpty
    cases List.eq_nil_of_length_eq_zero hLength.symm
    exact
      Or.inr ⟨_, _, _, _, rfl, rfl, .start rfl rfl⟩
  · have hOthers : others ≠ [] := by
      intro hNone
      rw [hNone] at hLength
      exact hEmpty (List.eq_nil_of_length_eq_zero hLength)
    have hRun :
        Follows rule tokens Eq (ofTokens tokens rule)
          (Grammar.read (tokens.map Token.kind)) :=
      ofTokens_follows hEmpty
    have hTwin :
        Follows other others Eq (ofTokens others other)
          (Grammar.read (others.map Token.kind)) :=
      ofTokens_follows hOthers
    rw [← hKinds] at hTwin
    exact hRun.alike hLength hTwin

/-
  Layout does not matter.  Tokens of the same kinds in the same
  order come out alike, wherever they stand and whatever the
  rule is.  So do rules that are scanned into such tokens, and
  their translations to each platform under all names.
-/
theorem layout_is_ignored
    (hKinds :
      tokens.map Token.kind = others.map Token.kind)
    (rule other : String) :
    Alike tokens others rule other
        (ofTokens tokens rule) (ofTokens others other) ∧
      (scan rule = .ok tokens →
        scan other = .ok others →
          Alike tokens others rule other
              (parse rule) (parse other) ∧
            ∀ platform names,
              Alike tokens others rule other
                (translate platform names rule)
                (translate platform names other)) := by
  have hTokens := alike_ofTokens hKinds rule other
  refine ⟨hTokens, ?_⟩
  intro hRule hOther
  have hParsed :
      Alike tokens others rule other
        (parse rule) (parse other) := by
    unfold parse
    rw [hRule, hOther]
    exact hTokens
  refine ⟨hParsed, ?_⟩
  intro platform names
  rw [translate_eq_map, translate_eq_map]
  exact hParsed.map (Expr.emit platform names)

/-
  A parenthesis that was never opened is blamed as the sixth
  token of either rule.
-/
theorem layout_is_ignored_stray_parenthesis :
    let tokens : List Token :=
      [⟨.price .opening, 0⟩, ⟨.offset 1, 4⟩,
        ⟨.operator (.compare .less), 7⟩,
        ⟨.price .closing, 8⟩, ⟨.offset 0, 13⟩,
        ⟨.closeParen, 16⟩]
    let others : List Token :=
      [⟨.price .opening, 3⟩, ⟨.offset 1, 7⟩,
        ⟨.operator (.compare .less), 14⟩,
        ⟨.price .closing, 16⟩, ⟨.offset 0, 21⟩,
        ⟨.closeParen, 25⟩]
    let rule := "OPEN[1]<CLOSE[0])"
    let other := "\u3000OPEN[ 01 ] <\tCLOSE[0]\n)"
    tokens.map Token.kind = others.map Token.kind ∧
      Alike tokens others rule other
        (ofTokens tokens rule) (ofTokens others other) ∧
      Alike tokens others rule other
        (translate .pine {} rule) (translate .pine {} other) ∧
      translate .pine {} other =
        .error
          (.grammar .unbalancedParens "unmatched ')'" other
            25) := by
  intro tokens others rule other
  have hKinds :
      tokens.map Token.kind = others.map Token.kind := rfl
  have hRule : scan rule = .ok tokens := by decide +kernel
  have hOther : scan other = .ok others := by decide +kernel
  rcases layout_is_ignored hKinds rule other with
    ⟨hTokens, hRules⟩
  rcases hRules hRule hOther with ⟨_, hTranslations⟩
  exact
    ⟨hKinds, hTokens, hTranslations .pine {},
      by decide +kernel⟩

end Rule

end BarRules
