import BarRules.Proofs.RuleSet.AllOrNothing
import BarRules.Proofs.Text.Boundaries

/-
  The places in a rule that failures are blamed on.

  Key definitions include:
    * `BarRules.Failure.place?`
    * `BarRules.Failure.ShownAt`

  Key theorems include:
    * `BarRules.Scan.isBoundary_of_tokensFrom_error`
    * `BarRules.Scan.isBoundary_of_tokensFrom_ok`
    * `BarRules.Grammar.Fault.position_cases`
    * `BarRules.Rule.exists_shownAt_of_parse`
    * `BarRules.failures_shown_in_place`

  Positions count bytes, and every one of them is reached by
  passing over whole characters: a fault of scanning is blamed
  on the start or the end of something that was read, and a
  fault of the grammar on a token or on the end of the rule.
  So a caret can be put under the place of every failure.
-/

------------------------------------------------------------
-- Faults of Scanning
------------------------------------------------------------

namespace BarRules

namespace Scan

open Text

variable {fault : ScanFault}

/- A bad offset is blamed on its bracket or its content. -/
theorem position_badOffset
    (bracket start : Nat)
    (content : List Char) :
    (badOffset bracket start content).position = bracket ∨
      (badOffset bracket start content).position = start := by
  unfold badOffset
  split
  · exact Or.inr rfl
  · exact Or.inl rfl

/- So is every fault in a number. -/
theorem position_of_readNumber_error
    {bracket start : Nat}
    {content : List Char}
    (h : readNumber bracket start content = .error fault) :
    fault.position = bracket ∨ fault.position = start := by
  unfold readNumber at h
  simp only at h
  split at h
  · cases h
    exact Or.inl rfl
  · split at h
    · cases h
      exact position_badOffset bracket start content
    · split at h
      · cases h
        exact Or.inr rfl
      · cases h
  · cases h
    exact position_badOffset bracket start content

/-
  A fault in an offset is blamed on a boundary, counted from
  the bracket on.
-/
theorem isBoundary_of_readOffset_error
    {bracket : Nat}
    {cs : List Char}
    (h : readOffset bracket cs = .error fault) :
    IsBoundary bracket ('[' :: cs) fault.position := by
  have hContent :
      IsBoundary bracket ('[' :: cs)
        (bracket + 1 + byteLength (cs.takeWhile isBlank)) := by
    have hOpen : '['.utf8Size = 1 := by decide
    have hSplit :
        '[' :: cs =
          ('[' :: cs.takeWhile isBlank) ++
            cs.dropWhile isBlank := by
      rw [List.cons_append, List.takeWhile_append_dropWhile]
    rw [hSplit, Nat.add_assoc, ← hOpen, ← byteLength]
    exact isBoundary_append _ _
  unfold readOffset at h
  simp only at h
  split at h
  · cases h
    exact hContent
  · rcases position_of_readNumber_error h with
      hBracket | hStart
    · rw [hBracket]
      exact isBoundary_start _
    · rw [hStart]
      exact hContent

/- A fault in a price is blamed on a boundary. -/
theorem isBoundary_of_readPrice_error
    {pos : Nat}
    {cs : List Char}
    (h : readPrice pos cs = .error fault) :
    IsBoundary pos cs fault.position := by
  have hSplit :
      cs = cs.takeWhile isWordChar ++ cs.dropWhile isWordChar :=
    List.takeWhile_append_dropWhile.symm
  unfold readPrice at h
  simp only at h
  split at h
  · cases h
    exact isBoundary_start cs
  · split at h
    · rename_i content hContent
      rw [hContent] at hSplit
      split at h
      · rename_i found hOffset
        cases h
        rw [hSplit]
        exact (isBoundary_of_readOffset_error hOffset).behind
      · cases h
    · cases h
      exact ⟨_, _, hSplit, rfl⟩

/- A fault in a lexeme is blamed on a boundary. -/
theorem isBoundary_of_readLexeme_error
    {pos : Nat}
    {c : Char}
    {cs : List Char}
    (h : readLexeme pos c cs = .error fault) :
    IsBoundary pos (c :: cs) fault.position := by
  unfold readLexeme at h
  split at h
  · exact isBoundary_of_readPrice_error h
  · unfold readSymbol at h
    split at h
    · cases h
      exact isBoundary_start _
    · cases h

/- A fault in a text is blamed on a boundary. -/
theorem isBoundary_of_tokensFrom_error
    {pos : Nat}
    {cs : List Char}
    (h : tokensFrom pos cs = .error fault) :
    IsBoundary pos cs fault.position := by
  fun_induction tokensFrom pos cs with
  | case1 pos => cases h
  | case2 pos c rest hBlank ih =>
      exact (ih h).cons
  | case3 pos c rest hBlank found hFound =>
      cases h
      exact isBoundary_of_readLexeme_error hFound
  | case4 pos c rest hBlank reading hRead hShorter found
      hFound ih =>
      cases h
      rcases readLexeme_eq_ok hRead with
        ⟨text, _, hText, _, _, _, hNext⟩
      have hRest := ih hFound
      rw [hNext] at hRest
      rw [hText]
      exact hRest.behind
  | case5 => cases h

end Scan

end BarRules

------------------------------------------------------------
-- Places of Tokens
------------------------------------------------------------

namespace BarRules

namespace Scan

open Text

/- The tokens of a lexeme start at boundaries of it. -/
theorem Lexeme.isBoundary
    {text : List Char}
    {found : List Token}
    (h : Lexeme text found)
    {token : Token}
    (hMem : token ∈ found) :
    IsBoundary 0 text token.position := by
  cases h with
  | @price word field lead digits trail hWord hOffset =>
      simp only [List.mem_cons, List.not_mem_nil, or_false]
        at hMem
      rcases hMem with rfl | rfl
      · exact isBoundary_start _
      · exact ⟨word.toList, _, rfl, (Nat.zero_add _).symm⟩
  | symbol hSymbol =>
      rw [List.mem_singleton] at hMem
      rw [hMem]
      exact isBoundary_start _

/- All tokens start at boundaries of the text. -/
theorem Lexes.isBoundary
    {pos : Nat}
    {cs : List Char}
    {tokens : List Token}
    (h : Lexes pos cs tokens)
    {token : Token}
    (hMem : token ∈ tokens) :
    IsBoundary pos cs token.position := by
  induction h with
  | done pos => cases hMem
  | @blank pos c cs tokens hBlank rest ih =>
      exact (ih hMem).cons
  | @lexeme pos text cs found tokens hLexeme hEnds rest ih =>
      rcases List.mem_append.mp hMem with hFound | hRest
      · rcases List.mem_map.mp hFound with
          ⟨unshifted, hUnshifted, rfl⟩
        exact
          ((hLexeme.isBoundary hUnshifted).shift pos).before cs
      · exact (ih hRest).behind

/- Tokens are found at boundaries of the text. -/
theorem isBoundary_of_tokensFrom_ok
    {pos : Nat}
    {cs : List Char}
    {tokens : List Token}
    (h : tokensFrom pos cs = .ok tokens)
    {token : Token}
    (hMem : token ∈ tokens) :
    IsBoundary pos cs token.position :=
  (lexes_of_tokensFrom h).isBoundary hMem

end Scan

namespace Grammar

/-
  A fault is blamed on the start, on the end, or on one of the
  tokens.
-/
theorem Fault.position_cases
    (fault : Fault)
    (tokens : List Token)
    (stop : Nat) :
    fault.position tokens stop = 0 ∨
      fault.position tokens stop = stop ∨
      ∃ token ∈ tokens,
        fault.position tokens stop = token.position := by
  unfold Fault.position
  split
  · exact Or.inl rfl
  · split
    · exact Or.inr (Or.inl rfl)
    · rename_i token rest hRest
      have hMem :
          token ∈ tokens.drop (tokens.length - fault.left) := by
        rw [hRest]
        exact List.mem_cons_self
      exact Or.inr (Or.inr ⟨token, List.mem_of_mem_drop hMem, rfl⟩)

end Grammar

end BarRules

------------------------------------------------------------
-- Failures at Their Places
------------------------------------------------------------

namespace BarRules

namespace Failure

/- The rule and the byte position that a failure points to. -/
def place? : Failure → Option (String × Nat)
  | .scan _ rule position => some (rule, position)
  | .grammar _ _ rule position => some (rule, position)
  | _ => none

/-
  A failure points into a rule, behind a part of it, and is
  shown there: the caret stands under the first character
  behind that part, since one blank or tab stands under each
  character of the part.
-/
structure ShownAt
    (rule before : String)
    (failure : Failure) :
    Prop where
  place : failure.place? = some (rule, before.utf8ByteSize)
  inside : before.utf8ByteSize ≤ rule.utf8ByteSize
  boundary :
    String.Pos.Raw.IsValid rule ⟨before.utf8ByteSize⟩
  part : ∃ after, rule = before ++ after
  found :
    Text.charsBefore? rule.toList before.utf8ByteSize =
      some before.toList
  context :
    failure.context =
      rule ++ "\n" ++
        String.ofList
          (before.toList.map
            (fun c => if c = '\t' then '\t' else ' ')) ++
        "^\n" ++ failure.message

/- What points to a boundary of a rule is shown there. -/
theorem exists_shownAt
    {failure : Failure}
    {rule : String}
    {position : Nat}
    (hPlace : failure.place? = some (rule, position))
    (hBoundary : Text.IsBoundary 0 rule.toList position) :
    ∃ before, failure.ShownAt rule before := by
  have hValid :=
    (Text.isBoundary_iff_isValid rule position).mp hBoundary
  rcases String.Pos.Raw.isValid_iff_exists_append.mp hValid with
    ⟨before, after, hRule, hPosition⟩
  have hSize : position = before.utf8ByteSize :=
    congrArg String.Pos.Raw.byteIdx hPosition
  subst hSize
  have hFound :
      Text.charsBefore? rule.toList before.utf8ByteSize =
        some before.toList := by
    rw [Text.charsBefore?_eq_some_iff]
    refine ⟨after.toList, ?_, Text.byteLength_toList before⟩
    rw [hRule, String.toList_append]
  have hContext :
      failure.context =
        pointAt rule before.utf8ByteSize failure.message := by
    cases failure <;> simp [place?] at hPlace <;>
      simp [context, hPlace]
  refine ⟨before, hPlace, ?_, hValid, ⟨after, hRule⟩, hFound, ?_⟩
  · rw [hRule, String.utf8ByteSize_append]
    exact Nat.le_add_right _ _
  · rw [hContext, pointAt, caretPad, hFound]
    rfl

end Failure

namespace Rule

/- Rules are shown with what is wrong with them. -/
theorem exists_shownAt_of_parse
    {rule : String}
    {failure : Failure}
    (h : parse rule = .error failure) :
    ∃ before, failure.ShownAt rule before := by
  unfold parse at h
  split at h
  · rename_i fault hScan
    cases h
    exact Failure.exists_shownAt rfl
      (Scan.isBoundary_of_tokensFrom_error hScan)
  · rename_i tokens hScan
    rw [ofTokens_eq_read] at h
    split at h
    · cases h
    · rename_i fault hRead
      cases h
      refine Failure.exists_shownAt rfl ?_
      rcases fault.position_cases tokens
          (Text.byteLength rule.toList) with
        hStart | hStop | ⟨token, hMem, hToken⟩
      · rw [hStart]
        exact Text.isBoundary_start _
      · have hEnd :
            Text.IsBoundary 0 rule.toList
              (0 + Text.byteLength rule.toList) :=
          Text.isBoundary_end rule.toList
        rw [Nat.zero_add] at hEnd
        rw [hStop]
        exact hEnd
      · rw [hToken]
        exact Scan.isBoundary_of_tokensFrom_ok hScan hMem

end Rule

namespace RuleSet

/- A set without rules apart, one of the rules is shown. -/
theorem exists_shownAt_of_translate
    {platform : Platform}
    {names : TargetNames}
    {set : RuleSet}
    {failure : Failure}
    (h : set.translate platform names = .error failure) :
    failure = .emptyRuleSet ∨
      ∃ rule ∈ set.rules,
        ∃ before, failure.ShownAt rule before := by
  rcases (set.translate_eq_error_iff platform names failure).mp
      h with
    ⟨_, hEmpty⟩ | ⟨_, rule, _, hRules, _, hFails⟩
  · exact Or.inl hEmpty
  · apply Or.inr
    refine ⟨rule, ?_, Rule.exists_shownAt_of_parse hFails⟩
    simp [hRules]

end RuleSet

end BarRules

------------------------------------------------------------
-- Failures of the Pipeline
------------------------------------------------------------

namespace BarRules

/-
  Whatever is wrong with a rule is shown in place.  The failure
  keeps the rule and points to a boundary between two of its
  characters, so the caret is put under a character and never
  placed by counting bytes.  This holds as well of a rule that
  fails as one of a set, or of a strategy.
-/
theorem failures_shown_in_place :
    (∀ rule failure,
      Rule.parse rule = .error failure →
        ∃ before, failure.ShownAt rule before) ∧
    (∀ platform names (set : RuleSet) failure,
      set.translate platform names = .error failure →
        failure = .emptyRuleSet ∨
          ∃ rule ∈ set.rules,
            ∃ before, failure.ShownAt rule before) ∧
    (∀ platform names (strategy : Strategy) failure,
      strategy.translate platform names = .error failure →
        failure = .emptyRuleSet ∨
          ∃ labelled ∈ strategy.labelledSets,
            ∃ rule ∈ labelled.2.rules,
              ∃ before, failure.ShownAt rule before) := by
  refine
    ⟨fun _ _ => Rule.exists_shownAt_of_parse,
      fun _ _ _ _ => RuleSet.exists_shownAt_of_translate, ?_⟩
  intro platform names strategy failure h
  rw [Strategy.translate_eq_error_iff,
    ← Strategy.labelledSets_eq] at h
  rcases h with ⟨_, labelled, _, hSets, _, hFails⟩
  rcases RuleSet.exists_shownAt_of_translate hFails with
    hEmpty | hShown
  · exact Or.inl hEmpty
  · exact Or.inr ⟨labelled, by simp [hSets], hShown⟩

/-
  A letter with an accent stands for an offset, behind a tab
  and a blank of two bytes.
-/
theorem failures_shown_behind_wide_blank :
    let rule := "\t(OPEN[1]\u00a0< HIGH[é])"
    let failure :=
      Failure.scan (.malformedOffset "é") rule 18
    Rule.parse rule = .error failure ∧
      (∃ before, failure.ShownAt rule before) ∧
      failure.context =
        rule ++ "\n\t                ^\n" ++
          "lex error at position 18 in rule '" ++ rule ++
          "': malformed offset 'é'" := by
  intro rule failure
  have hParse : Rule.parse rule = .error failure := by
    decide +kernel
  exact
    ⟨hParse, failures_shown_in_place.1 rule failure hParse,
      by decide +kernel⟩

end BarRules
