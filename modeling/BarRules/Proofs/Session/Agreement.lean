import BarRules.Proofs.Session.Reports
import BarRules.Proofs.Settings.RoundTrip
import Mathlib.Tactic.Choose

/-
  Validating a strategy file agrees with translating it.

  Key definitions include:
    * `BarRules.TranslatesEverywhere`
    * `BarRules.FailsEverywhere`

  Key theorems include:
    * `BarRules.translates_or_fails`
    * `BarRules.Validating.plan_reports`
    * `BarRules.Translating.plan_reports`
    * `BarRules.validate_agrees_with_translate`

  Failures do not depend on the target, so a strategy file is
  either translated on all platforms or fails on all of them
  with one failure.  Both commands are compared with that.
-/

------------------------------------------------------------
-- Strategy Files on All Platforms
------------------------------------------------------------

namespace BarRules

variable {read : String → Except FileFault String}
variable {path : String}
variable {failure : Failure}

/- A strategy file has conditions for every platform. -/
def TranslatesEverywhere
    (read : String → Except FileFault String)
    (path : String) :
    Prop :=
  ∃ strategy names,
    readStrategy read path = .ok (strategy, names) ∧
      ∀ platform, ∃ conditions,
        strategy.translate platform names = .ok conditions

/-
  A strategy file has conditions for no platform, either
  because it cannot be loaded, or because its strategy fails
  alike on all of them.
-/
def FailsEverywhere
    (read : String → Except FileFault String)
    (path : String)
    (failure : Failure) :
    Prop :=
  readStrategy read path = .error failure ∨
    ∃ strategy names,
      readStrategy read path = .ok (strategy, names) ∧
        ∀ platform,
          strategy.translate platform names = .error failure

/- There is nothing between the two. -/
theorem translates_or_fails
    (read : String → Except FileFault String)
    (path : String) :
    TranslatesEverywhere read path ∨
      ∃ failure, FailsEverywhere read path failure := by
  cases hRead : readStrategy read path with
  | error failure =>
      exact Or.inr ⟨failure, Or.inl hRead⟩
  | ok loaded =>
      rcases loaded with ⟨strategy, names⟩
      cases hFirst : strategy.translate .mql4 names with
      | error failure =>
          refine
            Or.inr
              ⟨failure, Or.inr ⟨strategy, names, hRead, ?_⟩⟩
          intro platform
          exact
            (strategy.translate_eq_error_iff_of_target .mql4
              names platform names failure).mp hFirst
      | ok first =>
          refine Or.inl ⟨strategy, names, hRead, ?_⟩
          intro platform
          rw [exists_ok_iff]
          intro failure hFails
          have hAlike :=
            (strategy.translate_eq_error_iff_of_target platform
              names .mql4 names failure).mp hFails
          rw [hFirst] at hAlike
          cases hAlike

/- A strategy file fails with one failure only. -/
theorem FailsEverywhere.unique
    {other : Failure}
    (h : FailsEverywhere read path failure)
    (hOther : FailsEverywhere read path other) :
    failure = other := by
  rcases h with hRead | ⟨strategy, names, hRead, hFails⟩
  · rcases hOther with hRead' | ⟨_, _, hRead', _⟩
    · rw [hRead] at hRead'
      exact Except.error.inj hRead'
    · rw [hRead] at hRead'
      cases hRead'
  · rcases hOther with hRead' | ⟨_, _, hRead', hFails'⟩
    · rw [hRead] at hRead'
      cases hRead'
    · rw [hRead] at hRead'
      cases hRead'
      have hFirst := hFails' .mql4
      rw [hFails .mql4] at hFirst
      exact Except.error.inj hFirst

/- Every choice of platforms starts with one of them. -/
theorem Platform.exists_orAll_eq_cons
    (platform : Option Platform) :
    ∃ first rest, Platform.orAll platform = first :: rest := by
  cases platform with
  | none => exact ⟨.mql4, [.mql5, .pine, .ctrader], rfl⟩
  | some platform => exact ⟨platform, [], rfl⟩

/- A strategy that is translated has all its sets translated. -/
theorem Strategy.exists_translate_of_mem
    {strategy : Strategy}
    {platform : Platform}
    {names : TargetNames}
    {conditions : List LabelledCondition}
    (h : strategy.translate platform names = .ok conditions)
    {labelled : String × RuleSet}
    (hMem : labelled ∈ strategy.labelledSets) :
    ∃ text,
      labelled.2.translate platform names = .ok text := by
  have hAll :
      strategy.labelledSets.map (translateSet platform names) =
        conditions.map .ok :=
    (mapM_eq_ok_iff ..).mp h
  rcases exists_ok_of_mem hAll hMem with
    ⟨condition, hCondition⟩
  have hPair := (translateSet_eq_ok_iff ..).mp hCondition
  exact ⟨condition.text, congrArg Prod.snd hPair⟩

end BarRules

------------------------------------------------------------
-- The Two Commands
------------------------------------------------------------

namespace BarRules

variable {read : String → Except FileFault String}
variable {path : String}
variable {failure : Failure}

namespace Validating

open Plan

/- Validating reports why a strategy file fails. -/
theorem plan_reports
    (h : FailsEverywhere read path failure) :
    (Validating.plan read path).Reports failure := by
  unfold Validating.plan
  refine Reports.after_notes ?_ [_, _]
  rcases h with hRead | ⟨strategy, names, hRead, hFails⟩
  · rw [hRead]
    exact reports_fail failure
  · have hFirst :=
      (strategy.translate_eq_error_iff .mql4 names failure).mp
        (hFails .mql4)
    rw [← strategy.labelledSets_eq] at hFirst
    rw [hRead]
    exact forSets_reports .mql4 names hFirst

/- Validating a file that fails ends with its exit status. -/
theorem exit_run_of_fails
    {tree : FileTree}
    (h : FailsEverywhere tree.readText path failure)
    (millis : Int) :
    ((Command.validate path).run tree millis).exit =
      failure.exitCode := by
  rcases (plan_reports h).run_eq tree with ⟨before, hRun⟩
  exact congrArg Outcome.exit hRun

/- Validating ends well if there is nothing to report. -/
theorem exit_run_plan
    (h : TranslatesEverywhere read path)
    (tree : FileTree) :
    ((Validating.plan read path).run tree).exit = 0 := by
  rcases h with ⟨strategy, names, hRead, hTranslates⟩
  rcases hTranslates .mql4 with ⟨conditions, hConditions⟩
  have hSets :
      ∀ labelled ∈ strategy.labelledSets,
        ∃ text,
          labelled.2.translate .mql4 names = .ok text :=
    fun _ hMem =>
      Strategy.exists_translate_of_mem hConditions hMem
  rcases forSets_accepts .mql4 names hSets with
    ⟨notes, hNotes⟩
  have hPlan :
      Validating.plan read path =
        after
          ((["Validating strategy: " ++ path ++ "\n",
              "Loading strategy from " ++ path ++ "\n"] ++
            notes).map .note)
          done := by
    unfold Validating.plan
    simp only [hRead, hNotes, after_after, List.map_append]
    rfl
  rw [hPlan, run_after_notes]
  rfl

end Validating

namespace Translating

open Plan

/- Translating reports why a strategy file fails. -/
theorem plan_reports
    (h : FailsEverywhere read path failure)
    (millis : Int)
    (platform : Option Platform) :
    (Translating.plan read millis path platform none).Reports
      failure := by
  rcases Platform.exists_orAll_eq_cons platform with
    ⟨first, rest, hPlatforms⟩
  unfold Translating.plan
  refine Reports.after_notes ?_ [_]
  rcases h with hRead | ⟨strategy, names, hRead, hFails⟩
  · rw [hRead]
    exact reports_fail failure
  · rw [hRead]
    refine Reports.after_notes ?_ [_]
    rw [hPlatforms, forPlatforms_reports (hFails first)]
    exact reports_fail failure

/- Translating prints the conditions of all platforms. -/
theorem run_plan
    {strategy : Strategy}
    {names : TargetNames}
    (hRead : readStrategy read path = .ok (strategy, names))
    {platform : Option Platform}
    {conditions : Platform → List LabelledCondition}
    (h :
      ∀ target ∈ Platform.orAll platform,
        strategy.translate target names =
          .ok (conditions target))
    (millis : Int)
    (tree : FileTree) :
    ∃ notes,
      (Translating.plan read millis path platform none).run
          tree =
        { tree := tree
          stdout :=
            Text.concat
              ((Platform.orAll platform).map
                (fun target =>
                  printedConditions target
                    (conditions target)))
          stderr := notes
          exit := 0 } := by
  have hPlan :
      Translating.plan read millis path platform none =
        after
          (["Loading strategy from " ++ path ++ "\n",
              "Translating strategy: " ++ strategy.name ++
                "\n"].map
            .note)
          (forPlatforms strategy names millis none
            (Platform.orAll platform)) := by
    unfold Translating.plan
    rw [hRead]
    rfl
  rw [hPlan, run_after_notes, run_forPlatforms h]
  exact ⟨_, rfl⟩

/- Translating ends well on every platform that is wanted. -/
theorem exit_run_plan
    (h : TranslatesEverywhere read path)
    (millis : Int)
    (platform : Option Platform)
    (tree : FileTree) :
    ((Translating.plan read millis path platform none).run
        tree).exit =
      0 := by
  rcases h with ⟨strategy, names, hRead, hTranslates⟩
  choose conditions hConditions using hTranslates
  rcases run_plan hRead (fun target _ => hConditions target)
      millis tree with
    ⟨notes, hRun⟩
  rw [hRun]

end Translating

end BarRules

------------------------------------------------------------
-- Agreement
------------------------------------------------------------

namespace BarRules

/-
  A strategy file is validated with the exit status with which
  it is translated for the terminal, whatever platforms are
  asked for.  If that is 0, its strategy has conditions for
  every platform.  If not, it has conditions for none, nothing
  is printed, and both runs end with the report of the one
  failure that it meets everywhere.
-/
theorem validate_agrees_with_translate
    (tree : FileTree)
    (path : String)
    (platform : Option Platform)
    (millis millis' : Int) :
    let validated := (Command.validate path).run tree millis
    let translated :=
      (Command.translate path platform none).run tree millis'
    validated.exit = translated.exit ∧
      (validated.exit = 0 →
        TranslatesEverywhere tree.readText path) ∧
      (validated.exit ≠ 0 →
        translated.stdout = "" ∧
          ∃ failure,
            FailsEverywhere tree.readText path failure ∧
              ∃ before before',
                validated.stderr =
                    before ++
                      ("error: " ++ failure.context ++ "\n") ∧
                  translated.stderr =
                    before' ++
                      ("error: " ++ failure.context ++
                        "\n")) := by
  intro validated translated
  rcases translates_or_fails tree.readText path with
    hTranslates | ⟨failure, hFails⟩
  · have hValidated : validated.exit = 0 :=
      Validating.exit_run_plan hTranslates tree
    have hTranslated : translated.exit = 0 :=
      Translating.exit_run_plan hTranslates millis' platform
        tree
    refine
      ⟨hValidated.trans hTranslated.symm, fun _ => hTranslates,
        ?_⟩
    intro hExit
    exact absurd hValidated hExit
  · rcases (Validating.plan_reports hFails).run_eq tree with
      ⟨before, hValidated⟩
    rcases (Translating.plan_reports hFails millis'
        platform).run_eq tree with
      ⟨before', hTranslated⟩
    have hValidated : validated = _ := hValidated
    have hTranslated : translated = _ := hTranslated
    rw [hValidated, hTranslated]
    refine ⟨rfl, ?_, ?_⟩
    · intro hExit
      exact absurd hExit failure.exitCode_ne_zero
    · intro _
      exact ⟨rfl, failure, hFails, before, before', rfl, rfl⟩

/-
  A strategy file lacks a comparison in its second set.  Not
  even the conditions of the first set are printed for it, and
  both runs end with the same report.
-/
theorem validate_agrees_on_missing_comparison :
    let text :=
      "[strategy]\nname = Gap\nsymbol = EURUSD\n" ++
        "entry_long = OPEN[0] > LOW[1]\nexit_long = HIGH[1]\n"
    let report :=
      "error: HIGH[1]\n       ^\n" ++
        "parse error at position 7 in rule 'HIGH[1]': " ++
        "rule has no comparison operator\n"
    let tree : FileTree :=
      { base := ["home"]
        entries :=
          [(["home"], .directory),
            (["home", "gap.ini"], .file text.toUTF8)] }
    let validated := (Command.validate "gap.ini").run tree 0
    let translated :=
      (Command.translate "gap.ini" (some .pine) none).run tree 0
    validated.exit = 4 ∧
      translated.exit = 4 ∧
      translated.stdout = "" ∧
      FailsEverywhere tree.readText "gap.ini"
        (.grammar .missingComparison
          "rule has no comparison operator" "HIGH[1]" 7) ∧
      ∃ before before',
        validated.stderr = before ++ report ∧
          translated.stderr = before' ++ report := by
  intro text report tree validated translated
  have hGap :
      Strategy.Writable
        { name := "Gap"
          symbol := "EURUSD"
          entryLong := ⟨["OPEN[0] > LOW[1]"]⟩
          exitLong := ⟨["HIGH[1]"]⟩ } :=
    ⟨by decide, by decide, by decide⟩
  have hNames : GivenNames.Valid {} := by decide
  have hText : tree.readText "gap.ini" = .ok text := by
    decide +kernel
  have hRead :=
    Strategy.readStrategy_of_written hGap (by decide) hNames
      (List.Perm.refl _) (List.Perm.refl _) (Or.inr rfl) hText
  have hFails :
      FailsEverywhere tree.readText "gap.ini"
        (.grammar .missingComparison
          "rule has no comparison operator" "HIGH[1]" 7) := by
    refine Or.inr ⟨_, _, hRead, ?_⟩
    intro platform
    cases platform <;> decide +kernel
  have hExit : validated.exit = 4 :=
    Validating.exit_run_of_fails hFails 0
  have hNotZero : validated.exit ≠ 0 := by
    rw [hExit]
    decide
  rcases validate_agrees_with_translate tree "gap.ini"
      (some .pine) 0 0 with
    ⟨hSame, _, hReported⟩
  rcases hReported hNotZero with
    ⟨hPrinted, failure, hFailure, before, before', hNoted,
      hNoted'⟩
  have hReport :
      "error: " ++ failure.context ++ "\n" = report := by
    rw [hFailure.unique hFails]
    decide +kernel
  rw [hReport] at hNoted hNoted'
  exact
    ⟨hExit, hSame.symm.trans hExit, hPrinted, hFails,
      before, before', hNoted, hNoted'⟩

end BarRules
