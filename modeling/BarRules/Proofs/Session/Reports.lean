import BarRules.Proofs.Session.ExitStatus

/-
  What runs say that make no request to the file system.

  Key definitions include:
    * `BarRules.Plan.Reports`
    * `BarRules.Translating.printedConditions`

  Key theorems include:
    * `BarRules.Plan.Reports.run_eq`
    * `BarRules.Validating.forSets_reports`
    * `BarRules.Validating.forSets_accepts`
    * `BarRules.Translating.run_forPlatforms`

  Validating says something of every rule until one of them, or
  a set without any, is reported.  Translating for the terminal
  prints the conditions of one platform after another, or
  reports a failure before anything is printed.
-/

------------------------------------------------------------
-- Words Before a Plan
------------------------------------------------------------

namespace BarRules

namespace Plan

variable {plan : Plan}
variable {failure : Failure}

/- What is done before, and before that. -/
theorem after_after
    (first second : List Effect)
    (plan : Plan) :
    after first (after second plan) =
      after (first ++ second) plan := by
  simp [after, List.append_assoc]

/- Nothing is done before. -/
theorem after_nil (plan : Plan) : after [] plan = plan := rfl

/- What is printed first comes first in the output. -/
theorem run_after_prints
    (texts : List String)
    (plan : Plan)
    (tree : FileTree) :
    (after (texts.map .print) plan).run tree =
      { plan.run tree with
        stdout :=
          Text.concat texts ++ (plan.run tree).stdout } := by
  induction texts with
  | nil =>
      rw [List.map_nil, after_nil, Text.concat,
        String.empty_append]
  | cons text texts ih =>
      simp only [run, after, List.map_cons, List.cons_append,
        runEffects] at ih ⊢
      rw [ih, Text.concat, String.append_assoc]

/- What is noted first comes first among the notes. -/
theorem run_after_notes
    (texts : List String)
    (plan : Plan)
    (tree : FileTree) :
    (after (texts.map .note) plan).run tree =
      { plan.run tree with
        stderr :=
          Text.concat texts ++ (plan.run tree).stderr } := by
  induction texts with
  | nil =>
      rw [List.map_nil, after_nil, Text.concat,
        String.empty_append]
  | cons text texts ih =>
      simp only [run, after, List.map_cons, List.cons_append,
        runEffects] at ih ⊢
      rw [ih, Text.concat, String.append_assoc]

/- After some notes, the plan reports a failure and ends. -/
def Reports
    (failure : Failure)
    (plan : Plan) :
    Prop :=
  ∃ notes : List String,
    plan = after (notes.map .note) (fail failure)

/- A failure is reported without notes. -/
theorem reports_fail (failure : Failure) :
    (fail failure).Reports failure :=
  ⟨[], rfl⟩

/- A failure is also reported after more notes. -/
theorem Reports.after_notes
    (h : plan.Reports failure)
    (notes : List String) :
    (after (notes.map .note) plan).Reports failure := by
  rcases h with ⟨others, rfl⟩
  refine ⟨notes ++ others, ?_⟩
  rw [after_after, List.map_append]

/-
  A run that reports a failure changes no file, prints nothing
  and ends with the report.
-/
theorem Reports.run_eq
    (h : plan.Reports failure)
    (tree : FileTree) :
    ∃ before,
      plan.run tree =
        { tree := tree
          stdout := ""
          stderr := before ++ reportText failure
          exit := failure.exitCode } := by
  rcases h with ⟨notes, rfl⟩
  refine ⟨Text.concat notes, ?_⟩
  rw [run_after_notes]
  simp [run, fail, runEffects]

end Plan

end BarRules

------------------------------------------------------------
-- Validating
------------------------------------------------------------

namespace BarRules

namespace Validating

open Plan

variable {label : String}
variable {next : Plan}
variable {failure : Failure}

/- The first rule that is not accepted is reported. -/
theorem forRules_reports
    {rules : List String}
    (h : FirstFailure Rule.parse rules failure)
    (label : String)
    (next : Plan) :
    (forRules label next rules).Reports failure := by
  rcases h with ⟨before, rule, after, rfl, hBefore, hRule⟩
  induction before with
  | nil =>
      rw [List.nil_append, forRules, hRule]
      exact (reports_fail failure).after_notes [_]
  | cons first before ih =>
      rcases hBefore first List.mem_cons_self with ⟨e, hFirst⟩
      rw [List.cons_append, forRules, hFirst]
      refine Reports.after_notes ?_ [_]
      apply ih
      intro other hOther
      exact hBefore other (List.mem_cons_of_mem first hOther)

/- Rules that are all accepted lead on, with a note of each. -/
theorem forRules_accepts
    {rules : List String}
    (h : ∀ rule ∈ rules, ∃ e, Rule.parse rule = .ok e)
    (label : String)
    (next : Plan) :
    ∃ notes : List String,
      forRules label next rules =
        after (notes.map .note) next := by
  induction rules with
  | nil => exact ⟨[], rfl⟩
  | cons rule rules ih =>
      rcases h rule List.mem_cons_self with ⟨e, hRule⟩
      have hRules :
          ∀ other ∈ rules, ∃ e, Rule.parse other = .ok e := by
        intro other hOther
        exact h other (List.mem_cons_of_mem rule hOther)
      rcases ih hRules with ⟨notes, hNotes⟩
      rw [forRules, hRule, hNotes]
      exact ⟨_ :: notes, after_after [_] _ next⟩

variable (platform : Platform)
variable (names : TargetNames)

/-
  Sets of rules are judged as their translation judges them:
  the first one that fails there is reported as it fails.
-/
theorem forSets_reports
    {sets : List (String × RuleSet)}
    (h :
      FirstFailure
        (fun (_, set) => set.translate platform names)
        sets failure) :
    (forSets sets).Reports failure := by
  rcases h with ⟨before, ⟨label, set⟩, after, rfl, hBefore, hSet⟩
  induction before with
  | nil =>
      rw [List.nil_append, forSets]
      refine Reports.after_notes ?_ [_]
      rcases (set.translate_eq_error_iff platform names
          failure).mp hSet with
        ⟨hEmpty, rfl⟩ | hRule
      · rw [if_pos hEmpty]
        exact reports_fail _
      · have hSome : set.rules ≠ [] := by
          rcases hRule with ⟨_, _, _, hRules, _⟩
          simp [hRules]
        rw [if_neg hSome]
        exact forRules_reports hRule label _
  | cons first before ih =>
      have hFirst := hBefore first List.mem_cons_self
      rcases (first.2.exists_translate_iff platform names).mp
          hFirst with
        ⟨hSome, hAccepted⟩
      rcases forRules_accepts hAccepted first.1
          (forSets (before ++ (label, set) :: after)) with
        ⟨notes, hNotes⟩
      rw [List.cons_append, forSets, if_neg hSome, hNotes]
      refine Reports.after_notes ?_ [_]
      apply Reports.after_notes
      apply ih
      intro other hOther
      exact hBefore other (List.mem_cons_of_mem first hOther)

/- Sets that are all translated are valid. -/
theorem forSets_accepts
    {sets : List (String × RuleSet)}
    (h :
      ∀ labelled ∈ sets,
        ∃ text, labelled.2.translate platform names = .ok text) :
    ∃ notes : List String,
      forSets sets = after (notes.map .note) done := by
  induction sets with
  | nil => exact ⟨[_], rfl⟩
  | cons first sets ih =>
      rcases (first.2.exists_translate_iff platform names).mp
          (h first List.mem_cons_self) with
        ⟨hSome, hAccepted⟩
      have hSets :
          ∀ labelled ∈ sets,
            ∃ text,
              labelled.2.translate platform names = .ok text := by
        intro other hOther
        exact h other (List.mem_cons_of_mem first hOther)
      rcases ih hSets with ⟨notes, hNotes⟩
      rcases forRules_accepts hAccepted first.1 (forSets sets)
        with ⟨others, hOthers⟩
      rw [forSets, if_neg hSome, hOthers, hNotes, after_after,
        after_after, List.append_assoc, ← List.map_append]
      exact ⟨_ :: (others ++ notes), rfl⟩

end Validating

end BarRules

------------------------------------------------------------
-- Translating for the Terminal
------------------------------------------------------------

namespace BarRules

namespace Translating

open Plan

variable {strategy : Strategy}
variable {names : TargetNames}
variable {platforms : List Platform}

/-
  What is printed of the conditions for a platform: its name in
  brackets, and a line for each condition.
-/
def printedConditions
    (platform : Platform)
    (conditions : List LabelledCondition) :
    String :=
  "[" ++ platform.name ++ "]\n" ++
    Text.concat
      (conditions.map
        (fun condition =>
          condition.label ++ " = " ++ condition.text ++ "\n"))

/-
  Where every platform has its conditions, these are printed,
  and no more happens.
-/
theorem run_forPlatforms
    {conditions : Platform → List LabelledCondition}
    (h :
      ∀ platform ∈ platforms,
        strategy.translate platform names =
          .ok (conditions platform))
    (millis : Int)
    (tree : FileTree) :
    (forPlatforms strategy names millis none platforms).run
        tree =
      { tree := tree
        stdout :=
          Text.concat
            (platforms.map
              (fun platform =>
                printedConditions platform
                  (conditions platform)))
        stderr := ""
        exit := 0 } := by
  induction platforms with
  | nil => rfl
  | cons platform platforms ih =>
      have hRest :
          ∀ other ∈ platforms,
            strategy.translate other names =
              .ok (conditions other) := by
        intro other hOther
        exact h other (List.mem_cons_of_mem platform hOther)
      have hDeliver :
          deliver strategy millis none platform
              (conditions platform) =
            (("[" ++ platform.name ++ "]\n") ::
              (conditions platform).map conditionLine).map
                .print := by
        simp [deliver, List.map_map, Function.comp_def]
      rw [forPlatforms, h platform List.mem_cons_self]
      dsimp only
      rw [hDeliver, run_after_prints, ih hRest]
      rfl

/- A failure on the first platform is reported at once. -/
theorem forPlatforms_reports
    {failure : Failure}
    {platform : Platform}
    (h : strategy.translate platform names = .error failure)
    (millis : Int)
    (output : Option String)
    (rest : List Platform) :
    forPlatforms strategy names millis output
        (platform :: rest) =
      fail failure := by
  rw [forPlatforms, h]

end Translating

end BarRules
