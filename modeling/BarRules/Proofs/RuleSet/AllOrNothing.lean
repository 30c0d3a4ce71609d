import BarRules.Proofs.Rule.Canonical
import BarRules.Strategy

/-
  Translation is all or nothing, and fails alike everywhere.

  Key definitions include:
    * `BarRules.FirstFailure`
    * `BarRules.Strategy.presentSets`

  Key theorems include:
    * `BarRules.mapM_eq_ok_iff`
    * `BarRules.mapM_eq_error_iff`
    * `BarRules.Rule.translate_eq_map`
    * `BarRules.RuleSet.translate_eq_ok_iff`
    * `BarRules.RuleSet.translate_eq_error_iff`
    * `BarRules.Strategy.translate_eq_error_iff`
    * `BarRules.RuleSet.onPlatforms_none_eq_error_iff`
    * `BarRules.translate_all_or_nothing`

  Every accepted rule compares, so a rule fails on a target
  only if it fails to be read, which knows of no target.  From
  there on, lists of rules, sets and platforms fail with their
  first failure.
-/

------------------------------------------------------------
-- First Failures
------------------------------------------------------------

namespace BarRules

variable {α β γ ε : Type}

/-
  The first of the items on which a function fails, in their
  order, fails like this.
-/
def FirstFailure
    (f : α → Except ε β)
    (items : List α)
    (failure : ε) :
    Prop :=
  ∃ before item after,
    items = before ++ item :: after ∧
      (∀ other ∈ before, ∃ result, f other = .ok result) ∧
      f item = .error failure

variable {f : α → Except ε β}
variable {items : List α}

/- A result is there unless there is a failure. -/
theorem exists_ok_iff (x : Except ε β) :
    (∃ result, x = .ok result) ↔
      ∀ failure, x ≠ .error failure := by
  cases x <;> simp

/- Functions that fail alike have the same first failure. -/
theorem firstFailure_congr
    {g : α → Except ε γ}
    (h :
      ∀ item failure,
        f item = .error failure ↔ g item = .error failure)
    (items : List α)
    (failure : ε) :
    FirstFailure f items failure ↔
      FirstFailure g items failure := by
  simp only [FirstFailure, exists_ok_iff, ne_eq, h]

/- All items have results, or one of them fails first. -/
theorem results_or_firstFailure
    (f : α → Except ε β)
    (items : List α) :
    (∃ results : List β, items.map f = results.map .ok) ∨
      ∃ failure, FirstFailure f items failure := by
  induction items with
  | nil => exact Or.inl ⟨[], rfl⟩
  | cons item items ih =>
      cases hItem : f item with
      | error failure =>
          apply Or.inr
          exact ⟨failure, [], item, items, rfl, by simp, hItem⟩
      | ok result =>
          rcases ih with
            ⟨results, hResults⟩ |
              ⟨failure, before, other, after, rfl, hBefore,
                hOther⟩
          · apply Or.inl
            refine ⟨result :: results, ?_⟩
            rw [List.map_cons, List.map_cons, hItem, hResults]
          · apply Or.inr
            refine
              ⟨failure, item :: before, other, after, rfl, ?_,
                hOther⟩
            intro first hFirst
            rcases List.mem_cons.mp hFirst with rfl | hMem
            · exact ⟨result, hItem⟩
            · exact hBefore first hMem

/- Every one of the items has its result among the results. -/
theorem exists_ok_of_mem
    {results : List β}
    (h : items.map f = results.map .ok)
    {item : α}
    (hMem : item ∈ items) :
    ∃ result, f item = .ok result := by
  have hItem : f item ∈ items.map f := List.mem_map_of_mem hMem
  rw [h] at hItem
  rcases List.mem_map.mp hItem with ⟨result, _, hResult⟩
  exact ⟨result, hResult.symm⟩

/- Results of all items are the result of the list. -/
theorem mapM_of_results
    {results : List β}
    (h : items.map f = results.map .ok) :
    items.mapM f = .ok results := by
  induction items generalizing results with
  | nil =>
      rw [List.map_nil, eq_comm, List.map_eq_nil_iff] at h
      rw [h]
      rfl
  | cons item items ih =>
      cases results with
      | nil => simp at h
      | cons result results =>
          simp only [List.map_cons, List.cons.injEq] at h
          rw [List.mapM_cons, h.1, ih h.2]
          rfl

/- The first failure of the items is that of the list. -/
theorem FirstFailure.mapM_eq
    {failure : ε}
    (h : FirstFailure f items failure) :
    items.mapM f = .error failure := by
  rcases h with ⟨before, item, after, rfl, hBefore, hItem⟩
  induction before with
  | nil =>
      rw [List.nil_append, List.mapM_cons, hItem]
      rfl
  | cons first before ih =>
      rcases hBefore first List.mem_cons_self with
        ⟨result, hResult⟩
      have hRest :
          (before ++ item :: after).mapM f =
            .error failure := by
        apply ih
        intro other hOther
        exact hBefore other (List.mem_cons_of_mem first hOther)
      rw [List.cons_append, List.mapM_cons, hResult, hRest]
      rfl

/- A list has results as its items have them, one for one. -/
theorem mapM_eq_ok_iff
    (f : α → Except ε β)
    (items : List α)
    (results : List β) :
    items.mapM f = .ok results ↔
      items.map f = results.map .ok := by
  constructor
  · intro h
    rcases results_or_firstFailure f items with
      ⟨others, hOthers⟩ | ⟨failure, hFailure⟩
    · rw [mapM_of_results hOthers] at h
      cases h
      exact hOthers
    · rw [hFailure.mapM_eq] at h
      cases h
  · exact mapM_of_results

/- A list fails as the first of its items that fails. -/
theorem mapM_eq_error_iff
    (f : α → Except ε β)
    (items : List α)
    (failure : ε) :
    items.mapM f = .error failure ↔
      FirstFailure f items failure := by
  constructor
  · intro h
    rcases results_or_firstFailure f items with
      ⟨results, hResults⟩ | ⟨found, hFound⟩
    · rw [mapM_of_results hResults] at h
      cases h
    · rw [hFound.mapM_eq] at h
      cases h
      exact hFound
  · exact FirstFailure.mapM_eq

/- All items have results unless one of them fails first. -/
theorem forall_ok_iff
    (f : α → Except ε β)
    (items : List α) :
    (∀ item ∈ items, ∃ result, f item = .ok result) ↔
      ∀ failure, ¬ FirstFailure f items failure := by
  constructor
  · rintro hAll failure ⟨before, item, after, rfl, _, hItem⟩
    rcases hAll item (by simp) with ⟨result, hResult⟩
    rw [hItem] at hResult
    cases hResult
  · intro hNone item hMem
    rcases results_or_firstFailure f items with
      ⟨results, hResults⟩ | ⟨failure, hFailure⟩
    · exact exists_ok_of_mem hResults hMem
    · exact absurd hFailure (hNone failure)

/- Lists that agree item for item are described alike. -/
theorem map_eq_map_congr
    {δ δ' : Type}
    {g : α → δ}
    {g' : β → δ}
    {h : α → δ'}
    {h' : β → δ'}
    (hAgree :
      ∀ item result, g item = g' result ↔ h item = h' result)
    (items : List α)
    (results : List β) :
    items.map g = results.map g' ↔
      items.map h = results.map h' := by
  induction items generalizing results with
  | nil => cases results <;> simp
  | cons item items ih =>
      cases results with
      | nil => simp
      | cons result results => simp [hAgree, ih]

end BarRules

------------------------------------------------------------
-- Single Rules
------------------------------------------------------------

namespace BarRules

namespace Rule

/- Reading a rule does not fail in emission. -/
theorem parse_ne_emission
    (rule text reason : String) :
    parse rule ≠ .error (.emission text reason) := by
  unfold parse
  split
  · simp
  · rw [ofTokens_eq_read]
    split <;> simp

/-
  A rule is translated as it is read, and what is read is then
  emitted: an accepted rule compares.
-/
theorem translate_eq_map
    (platform : Platform)
    (names : TargetNames)
    (rule : String) :
    translate platform names rule =
      (parse rule).map (Expr.emit platform names) := by
  unfold translate
  cases hParse : parse rule with
  | error failure => rfl
  | ok e =>
      have hCompares := (shape_of_parse hParse).1
      simp [emit, hCompares, Except.map]

/- A rule fails as it fails to be read. -/
theorem translate_eq_error_iff
    (platform : Platform)
    (names : TargetNames)
    (rule : String)
    (failure : Failure) :
    translate platform names rule = .error failure ↔
      parse rule = .error failure := by
  rw [translate_eq_map]
  cases parse rule <;> simp [Except.map]

end Rule

end BarRules

------------------------------------------------------------
-- Rule Sets
------------------------------------------------------------

namespace BarRules

namespace RuleSet

variable (platform : Platform)
variable (names : TargetNames)

/- The expressions of a set fail with its first failure. -/
theorem expressions_eq_error_iff
    (set : RuleSet)
    (failure : Failure) :
    set.expressions = .error failure ↔
      FirstFailure Rule.parse set.rules failure :=
  mapM_eq_error_iff Rule.parse set.rules failure

/- The conditions of a set fail with its first failure. -/
theorem conditions_eq_error_iff
    (set : RuleSet)
    (failure : Failure) :
    set.conditions platform names = .error failure ↔
      FirstFailure Rule.parse set.rules failure := by
  have hAlike :
      ∀ rule found,
        Rule.translate platform names rule = .error found ↔
          Rule.parse rule = .error found :=
    Rule.translate_eq_error_iff platform names
  rw [conditions, mapM_eq_error_iff, firstFailure_congr hAlike]

/- A set is translated as one or more conditions. -/
theorem translate_eq_ok_iff
    (set : RuleSet)
    (text : String) :
    set.translate platform names = .ok text ↔
      ∃ conditions,
        set.conditions platform names = .ok conditions ∧
          conditions ≠ [] ∧
          text =
            Text.joinWith (Condition.separator platform)
              conditions := by
  unfold translate
  cases hConditions : set.conditions platform names with
  | error failure => simp
  | ok conditions =>
      cases conditions with
      | nil => simp [Condition.conjoin]
      | cons first rest =>
          simp [Condition.conjoin, eq_comm]

/- No rule at all is the only failure that is not a rule's. -/
theorem translate_eq_error_iff
    (set : RuleSet)
    (failure : Failure) :
    set.translate platform names = .error failure ↔
      (set.rules = [] ∧ failure = .emptyRuleSet) ∨
        FirstFailure Rule.parse set.rules failure := by
  rw [← conditions_eq_error_iff platform names]
  unfold translate
  cases hConditions : set.conditions platform names with
  | error found =>
      have hNonempty : set.rules ≠ [] := by
        intro hEmpty
        simp [conditions, hEmpty, pure, Except.pure]
          at hConditions
      simp [hNonempty]
  | ok conditions =>
      have hRules := (mapM_eq_ok_iff ..).mp hConditions
      cases conditions with
      | nil =>
          have hEmpty : set.rules = [] := by simpa using hRules
          simp [Condition.conjoin, hEmpty, eq_comm]
      | cons first rest =>
          have hNonempty : set.rules ≠ [] := by
            intro hEmpty
            simp [hEmpty] at hRules
          simp [Condition.conjoin, hNonempty]

/- A set is translated if it has rules and all are accepted. -/
theorem exists_translate_iff (set : RuleSet) :
    (∃ text, set.translate platform names = .ok text) ↔
      set.rules ≠ [] ∧
        ∀ rule ∈ set.rules, ∃ e, Rule.parse rule = .ok e := by
  rw [exists_ok_iff, forall_ok_iff]
  simp only [ne_eq, translate_eq_error_iff, not_or, not_and]
  constructor
  · intro h
    exact ⟨fun hEmpty => (h .emptyRuleSet).1 hEmpty rfl,
      fun failure => (h failure).2⟩
  · rintro ⟨hNonempty, hNone⟩ failure
    exact ⟨fun hEmpty => absurd hEmpty hNonempty, hNone failure⟩

end RuleSet

end BarRules

------------------------------------------------------------
-- Strategies
------------------------------------------------------------

namespace BarRules

namespace Strategy

/-
  The rule sets that a strategy has, in the order of entry and
  exit for the long and then for the short direction.
-/
def presentSets
    (strategy : Strategy) :
    List (String × RuleSet) :=
  let slots : List (String × Option RuleSet) :=
    [("entry_long", some strategy.entryLong),
      ("exit_long", some strategy.exitLong),
      ("entry_short", strategy.entryShort),
      ("exit_short", strategy.exitShort)]
  slots.filterMap (fun (label, set) => set.map (label, ·))

/- The labelled sets are those that are present. -/
theorem labelledSets_eq (strategy : Strategy) :
    strategy.labelledSets = strategy.presentSets := by
  unfold labelledSets presentSets
  cases strategy.entryShort <;>
    cases strategy.exitShort <;> rfl

variable (platform : Platform)
variable (names : TargetNames)

/- A set has its condition under its label. -/
theorem translateSet_eq_ok_iff
    (labelled : String × RuleSet)
    (condition : LabelledCondition) :
    translateSet platform names labelled = .ok condition ↔
      (labelled.1, labelled.2.translate platform names) =
        (condition.label, .ok condition.text) := by
  rcases condition with ⟨label, text⟩
  unfold translateSet
  cases labelled.2.translate platform names <;> simp

/- A set fails under its label as it does without. -/
theorem translateSet_eq_error_iff
    (labelled : String × RuleSet)
    (failure : Failure) :
    translateSet platform names labelled = .error failure ↔
      labelled.2.translate platform names =
        .error failure := by
  unfold translateSet
  cases labelled.2.translate platform names <;> simp

/- A strategy has one condition for each of its sets. -/
theorem translate_eq_ok_iff
    (strategy : Strategy)
    (conditions : List LabelledCondition) :
    strategy.translate platform names = .ok conditions ↔
      strategy.presentSets.map
          (fun (label, set) =>
            (label, set.translate platform names)) =
        conditions.map
          (fun condition =>
            (condition.label, .ok condition.text)) := by
  rw [translate, labelledSets_eq, mapM_eq_ok_iff]
  exact map_eq_map_congr
    (translateSet_eq_ok_iff platform names) _ _

/- A strategy fails with the first of its sets that fails. -/
theorem translate_eq_error_iff
    (strategy : Strategy)
    (failure : Failure) :
    strategy.translate platform names = .error failure ↔
      FirstFailure
        (fun (_, set) => set.translate platform names)
        strategy.presentSets failure := by
  rw [translate, labelledSets_eq, mapM_eq_error_iff]
  exact firstFailure_congr
    (translateSet_eq_error_iff platform names) _ _

/- A strategy fails on all targets alike. -/
theorem translate_eq_error_iff_of_target
    (platform' : Platform)
    (names' : TargetNames)
    (strategy : Strategy)
    (failure : Failure) :
    strategy.translate platform names = .error failure ↔
      strategy.translate platform' names' =
        .error failure := by
  rw [translate_eq_error_iff, translate_eq_error_iff]
  apply firstFailure_congr
  intro labelled found
  rw [RuleSet.translate_eq_error_iff,
    RuleSet.translate_eq_error_iff]

end Strategy

end BarRules

------------------------------------------------------------
-- All Platforms
------------------------------------------------------------

namespace BarRules

namespace RuleSet

variable (names : TargetNames)
variable (set : RuleSet)

/- One platform gives its condition, under its name. -/
theorem onPlatforms_some (platform : Platform) :
    set.onPlatforms names (some platform) =
      (set.translate platform names).map
        (fun text => [(platform, text)]) := by
  simp only [onPlatforms, Platform.orAll, List.mapM_cons,
    List.mapM_nil, onPlatform]
  cases set.translate platform names <;> rfl

/- One platform gives what it gives among all of them. -/
theorem onPlatform_eq_ok_iff
    (platform : Platform)
    (result : Platform × String) :
    onPlatform names set platform = .ok result ↔
      set.onPlatforms names (some platform) =
        .ok [result] := by
  rw [onPlatforms_some]
  unfold onPlatform
  cases set.translate platform names <;> simp [Except.map]

/- All platforms give what each of them gives. -/
theorem onPlatforms_none_eq_ok_iff
    (results : List (Platform × String)) :
    set.onPlatforms names none = .ok results ↔
      Platform.all.map
          (fun platform =>
            set.onPlatforms names (some platform)) =
        results.map (fun result => .ok [result]) := by
  rw [onPlatforms, Platform.orAll, mapM_eq_ok_iff]
  exact map_eq_map_congr (onPlatform_eq_ok_iff names set) _ _

/- One platform fails alone as it does among all of them. -/
theorem onPlatform_eq_error_iff
    (platform : Platform)
    (failure : Failure) :
    onPlatform names set platform = .error failure ↔
      set.onPlatforms names (some platform) =
        .error failure := by
  rw [onPlatforms_some]
  unfold onPlatform
  cases set.translate platform names <;> simp [Except.map]

/- One platform fails as the set does, so as any other. -/
theorem onPlatforms_some_eq_error_iff
    (platform : Platform)
    (failure : Failure) :
    set.onPlatforms names (some platform) = .error failure ↔
      (set.rules = [] ∧ failure = .emptyRuleSet) ∨
        FirstFailure Rule.parse set.rules failure := by
  rw [← translate_eq_error_iff platform names,
    onPlatforms_some]
  cases set.translate platform names <;> simp [Except.map]

/- All platforms fail as each of them fails. -/
theorem onPlatforms_none_eq_error_iff
    (failure : Failure) :
    set.onPlatforms names none = .error failure ↔
      ∀ platform,
        set.onPlatforms names (some platform) =
          .error failure := by
  rw [onPlatforms, Platform.orAll, mapM_eq_error_iff]
  constructor
  · rintro ⟨_, platform, _, _, _, hFails⟩ other
    rw [onPlatform_eq_error_iff,
      onPlatforms_some_eq_error_iff] at hFails
    rw [onPlatforms_some_eq_error_iff]
    exact hFails
  · intro hAll
    have hFirst :
        onPlatform names set .mql4 = .error failure :=
      (onPlatform_eq_error_iff ..).mpr (hAll .mql4)
    exact
      ⟨[], .mql4, [.mql5, .pine, .ctrader], rfl, by simp,
        hFirst⟩

end RuleSet

end BarRules

------------------------------------------------------------
-- All or Nothing
------------------------------------------------------------

namespace BarRules

/-
  A rule is translated as it is read, and never fails in
  emission.  A set is translated as a whole, or fails as the
  first of its rules that is not accepted, or as an empty set
  does.  A strategy has one condition for each set, or fails as
  the first set that fails.  All platforms give what each gives
  alone, or fail as each fails alone.  No failure depends on
  the target.
-/
theorem translate_all_or_nothing
    (platform : Platform)
    (names : TargetNames) :
    (∀ rule,
      Rule.translate platform names rule =
          (Rule.parse rule).map (Expr.emit platform names) ∧
        ∀ text reason,
          Rule.translate platform names rule ≠
            .error (.emission text reason)) ∧
    (∀ set : RuleSet,
      ((∃ text, set.translate platform names = .ok text) ↔
        set.rules ≠ [] ∧
          ∀ rule ∈ set.rules, ∃ e, Rule.parse rule = .ok e) ∧
      (∀ text,
        set.translate platform names = .ok text →
          ∃ conditions,
            set.rules.map (Rule.translate platform names) =
                conditions.map .ok ∧
              text =
                Text.joinWith (Condition.separator platform)
                  conditions) ∧
      (∀ failure,
        set.translate platform names = .error failure ↔
          (set.rules = [] ∧ failure = .emptyRuleSet) ∨
            FirstFailure Rule.parse set.rules failure) ∧
      (∀ failure,
        FirstFailure Rule.parse set.rules failure ↔
          set.expressions = .error failure) ∧
      (∀ failure,
        FirstFailure Rule.parse set.rules failure ↔
          set.conditions platform names = .error failure)) ∧
    (∀ strategy : Strategy,
      (∀ conditions,
        strategy.translate platform names = .ok conditions ↔
          strategy.presentSets.map
              (fun (label, set) =>
                (label, set.translate platform names)) =
            conditions.map
              (fun condition =>
                (condition.label, .ok condition.text))) ∧
      (∀ failure,
        strategy.translate platform names = .error failure ↔
          FirstFailure
            (fun (_, set) => set.translate platform names)
            strategy.presentSets failure) ∧
      (∀ platform' names' failure,
        strategy.translate platform names = .error failure ↔
          strategy.translate platform' names' =
            .error failure)) ∧
    (∀ set : RuleSet,
      (set.onPlatforms names (some platform) =
        (set.translate platform names).map
          (fun text => [(platform, text)])) ∧
      (∀ results,
        set.onPlatforms names none = .ok results ↔
          Platform.all.map
              (fun other =>
                set.onPlatforms names (some other)) =
            results.map (fun result => .ok [result])) ∧
      (∀ failure,
        set.onPlatforms names none = .error failure ↔
          ∀ other,
            set.onPlatforms names (some other) =
              .error failure)) := by
  refine ⟨?_, ?_, ?_, ?_⟩
  · intro rule
    refine ⟨Rule.translate_eq_map platform names rule, ?_⟩
    intro text reason hFails
    rw [Rule.translate_eq_error_iff] at hFails
    exact Rule.parse_ne_emission rule text reason hFails
  · intro set
    refine ⟨set.exists_translate_iff platform names, ?_,
      set.translate_eq_error_iff platform names, ?_, ?_⟩
    · intro text hText
      rcases (set.translate_eq_ok_iff platform names text).mp
          hText with
        ⟨conditions, hConditions, _, hJoined⟩
      have hRules := (mapM_eq_ok_iff ..).mp hConditions
      exact ⟨conditions, hRules, hJoined⟩
    · intro failure
      rw [set.expressions_eq_error_iff]
    · intro failure
      rw [set.conditions_eq_error_iff]
  · intro strategy
    exact
      ⟨strategy.translate_eq_ok_iff platform names,
        strategy.translate_eq_error_iff platform names,
        fun platform' names' =>
          strategy.translate_eq_error_iff_of_target platform
            names platform' names'⟩
  · intro set
    exact
      ⟨set.onPlatforms_some names platform,
        set.onPlatforms_none_eq_ok_iff names,
        set.onPlatforms_none_eq_error_iff names⟩

/-
  A rule that lacks a comparison fails its set on all
  platforms.  Without it the set is translated as a whole.
-/
theorem translate_without_missing_comparison :
    let first := "OPEN[0] > LOW[1]"
    let second := "CLOSE[1] >= HIGH[2]"
    let failure :=
      Failure.grammar .missingComparison
        "rule has no comparison operator" "HIGH[1]" 7
    RuleSet.onPlatforms {} none ⟨[first, "HIGH[1]", second]⟩ =
        .error failure ∧
      ∃ conditions,
        [first, second].map (Rule.translate .pine {}) =
            conditions.map .ok ∧
          "open > low[1] and close[1] >= high[2]" =
            Text.joinWith " and " conditions := by
  intro first second failure
  have hText :
      RuleSet.translate .pine {} ⟨[first, second]⟩ =
        .ok "open > low[1] and close[1] >= high[2]" := by
    decide +kernel
  have hParse : Rule.parse "HIGH[1]" = .error failure := by
    decide +kernel
  rcases translate_all_or_nothing .pine {} with
    ⟨_, hSets, _, hPlatforms⟩
  constructor
  · have hAccepted :
        ∀ rule ∈ [first, second],
          ∃ e, Rule.parse rule = .ok e :=
      ((hSets ⟨[first, second]⟩).1.mp ⟨_, hText⟩).2
    have hFirst :
        ∀ rule ∈ [first], ∃ e, Rule.parse rule = .ok e := by
      intro rule hRule
      apply hAccepted
      simp [List.mem_singleton.mp hRule]
    have hFails :
        FirstFailure Rule.parse [first, "HIGH[1]", second]
          failure :=
      ⟨[first], "HIGH[1]", [second], rfl, hFirst, hParse⟩
    apply ((hPlatforms _).2.2 failure).mpr
    intro other
    rcases translate_all_or_nothing other {} with
      ⟨_, hOtherSets, _, hOthers⟩
    have hTranslate :
        RuleSet.translate other {}
            ⟨[first, "HIGH[1]", second]⟩ =
          .error failure :=
      ((hOtherSets _).2.2.1 failure).mpr (Or.inr hFails)
    rw [(hOthers _).1, hTranslate]
    rfl
  · exact (hSets ⟨[first, second]⟩).2.1 _ hText

end BarRules
