import BarRules.Proofs.RuleSet.Determination
import BarRules.Proofs.Session.Reports
import BarRules.Proofs.Text.Cutting

/-
  Rules on one platform and on all of them.

  Key definitions include:
    * `BarRules.TargetNames.given`
    * `BarRules.ruleStatus`
    * `BarRules.FailsBeforePrinting`

  Key theorems include:
    * `BarRules.RuleSet.onPlatforms_eq_error_iff`
    * `BarRules.RuleSet.onPlatforms_of_translate`
    * `BarRules.run_rulePlan_of_fails`
    * `BarRules.run_rulePlan_of_translate`
    * `BarRules.pieces_run_rulePlan`
    * `BarRules.run_rule_alike`

  The names are checked before any rule is read, and a rule that
  fails on one platform fails on all of them alike.  So the
  choice of platforms only decides which of the conditions are
  printed, each of them on one line.
-/

------------------------------------------------------------
-- Choices of Platforms
------------------------------------------------------------

namespace BarRules

namespace RuleSet

variable (names : TargetNames)
variable (platform : Option Platform)
variable (set : RuleSet)

/- No choice of platforms changes how a set fails. -/
theorem onPlatforms_eq_error_iff (failure : Failure) :
    set.onPlatforms names platform = .error failure ↔
      (set.rules = [] ∧ failure = .emptyRuleSet) ∨
        FirstFailure Rule.parse set.rules failure := by
  cases platform with
  | some platform =>
      exact onPlatforms_some_eq_error_iff names set platform
        failure
  | none =>
      rw [onPlatforms_none_eq_error_iff]
      simp only [onPlatforms_some_eq_error_iff]
      exact ⟨fun hAll => hAll .mql4, fun hFails _ => hFails⟩

/- Accepted rules have their condition on every platform. -/
theorem exists_conditions
    (names : TargetNames)
    {set : RuleSet}
    (hSome : set.rules ≠ [])
    (hAccepted :
      ∀ rule ∈ set.rules, ∃ e, Rule.parse rule = .ok e) :
    ∃ condition : Platform → String,
      ∀ platform,
        set.translate platform names =
          .ok (condition platform) := by
  have hTranslates (platform : Platform) :
      ∃ text, set.translate platform names = .ok text :=
    (set.exists_translate_iff platform names).mpr
      ⟨hSome, hAccepted⟩
  choose condition hCondition using hTranslates
  exact ⟨condition, hCondition⟩

/- Every platform that is asked for gets its own condition. -/
theorem onPlatforms_of_translate
    {names : TargetNames}
    {set : RuleSet}
    {condition : Platform → String}
    (h :
      ∀ platform,
        set.translate platform names =
          .ok (condition platform)) :
    set.onPlatforms names platform =
      .ok
        ((Platform.orAll platform).map
          (fun p => (p, condition p))) := by
  rw [onPlatforms, mapM_eq_ok_iff, List.map_map]
  apply List.map_congr_left
  intro p _
  rw [onPlatform, h p]
  rfl

end RuleSet

end BarRules

------------------------------------------------------------
-- Names and Exit Status
------------------------------------------------------------

namespace BarRules

namespace TargetNames

/- The names that are given, or else the default ones. -/
def given
    (symbol period series : Option String) :
    TargetNames where
  symbol := symbol.getD "_Symbol"
  period := period.getD "PERIOD_CURRENT"
  series := series.getD "Bars"

/- The names of a request are these, once they are checked. -/
theorem override_eq (symbol period series : Option String) :
    override symbol period series =
      (given symbol period series).check.map
        (fun _ => given symbol period series) := by
  have hNames :
      given symbol period series =
        { symbol := symbol.getD ({} : TargetNames).symbol
          period := period.getD ({} : TargetNames).period
          series := series.getD ({} : TargetNames).series } :=
    rfl
  rw [override, ← hNames]
  cases (given symbol period series).check <;> rfl

/- Bad names are a matter of settings. -/
theorem failsWith_check (names : TargetNames) :
    FailsWith 2 names.check := by
  unfold check
  split
  · rename_i failure hFails
    exact
      failsWith_error
        (failsWith_checkTargetName _ _ failure hFails)
  · split
    · rename_i failure hFails
      exact
        failsWith_error
          (failsWith_checkTargetName _ _ failure hFails)
    · exact failsWith_checkTargetName _ _

end TargetNames

/-
  The exit status of rules with these names: a name that is no
  identifier comes first, then a rule that is not accepted.
-/
def ruleStatus
    (names : TargetNames)
    (rules : List String) :
    Nat :=
  if [names.symbol, names.period, names.series].all
      isTargetName then
    if rules.all (fun rule => (Rule.parse rule).isOk) then
      0
    else
      4
  else
    2

/-
  The failure of rules with these names: that of their check,
  or else that of the first rule which is not accepted.
-/
def FailsBeforePrinting
    (names : TargetNames)
    (rules : List String)
    (failure : Failure) :
    Prop :=
  names.check = .error failure ∨
    names.check = .ok () ∧
      FirstFailure Rule.parse rules failure

variable {names : TargetNames}
variable {rules : List String}
variable {failure : Failure}

/- Names pass their check if all are identifiers. -/
theorem TargetNames.check_eq_ok_iff_all (names : TargetNames) :
    names.check = .ok () ↔
      [names.symbol, names.period, names.series].all
          isTargetName =
        true := by
  rw [check_eq_ok_iff]
  simp

/- Rules are all accepted if none of them fails first. -/
theorem Rule.all_isOk_iff (rules : List String) :
    rules.all (fun rule => (parse rule).isOk) = true ↔
      ∀ rule ∈ rules, ∃ e, parse rule = .ok e := by
  rw [List.all_eq_true]
  apply forall₂_congr
  intro rule _
  cases parse rule <;> simp [Except.isOk, Except.toBool]

/- Names and rules that do not fail are fine. -/
theorem failsBeforePrinting_or
    (names : TargetNames)
    (rules : List String) :
    (∃ failure, FailsBeforePrinting names rules failure) ∨
      names.check = .ok () ∧
        ∀ rule ∈ rules, ∃ e, Rule.parse rule = .ok e := by
  cases hCheck : names.check with
  | error failure => exact Or.inl ⟨failure, Or.inl hCheck⟩
  | ok _ =>
      rcases results_or_firstFailure Rule.parse rules with
        ⟨es, hRules⟩ | ⟨failure, hFirst⟩
      · refine Or.inr ⟨rfl, ?_⟩
        intro rule hRule
        exact exists_ok_of_mem hRules hRule
      · exact Or.inl ⟨failure, Or.inr ⟨hCheck, hFirst⟩⟩

/- The failure of names and rules has their exit status. -/
theorem FailsBeforePrinting.exitCode_eq
    (h : FailsBeforePrinting names rules failure) :
    failure.exitCode = ruleStatus names rules := by
  rcases h with hCheck | ⟨hCheck, hFirst⟩
  · have hBad :
        ¬ [names.symbol, names.period, names.series].all
            isTargetName =
          true := by
      rw [← names.check_eq_ok_iff_all, hCheck]
      simp
    rw [ruleStatus, if_neg hBad]
    exact names.failsWith_check failure hCheck
  · have hGood := names.check_eq_ok_iff_all.mp hCheck
    have hNotAll :
        ¬ rules.all (fun rule => (Rule.parse rule).isOk) =
          true := by
      rw [Rule.all_isOk_iff, forall_ok_iff]
      exact fun hNone => hNone failure hFirst
    rw [ruleStatus, if_pos hGood, if_neg hNotAll]
    rcases hFirst with ⟨_, rule, _, _, _, hFails⟩
    exact Rule.failsWith_parse rule failure hFails

/- Names and rules that are fine have the exit status 0. -/
theorem ruleStatus_eq_zero
    (hNames : names.check = .ok ())
    (hRules : ∀ rule ∈ rules, ∃ e, Rule.parse rule = .ok e) :
    ruleStatus names rules = 0 := by
  have hGood := names.check_eq_ok_iff_all.mp hNames
  have hAll := (Rule.all_isOk_iff rules).mpr hRules
  rw [ruleStatus, if_pos hGood, if_pos hAll]

end BarRules

------------------------------------------------------------
-- Runs for Rules
------------------------------------------------------------

namespace BarRules

open Plan

variable {rules : List String}
variable {symbol period series : Option String}

/-
  A failure is reported before anything is printed, whatever
  platforms are asked for.
-/
theorem run_rulePlan_of_fails
    {failure : Failure}
    (h :
      FailsBeforePrinting (.given symbol period series) rules
        failure)
    (platform : Option Platform)
    (tree : FileTree) :
    (rulePlan rules platform symbol period series).run tree =
      { tree := tree
        stdout := ""
        stderr := reportText failure
        exit := failure.exitCode } := by
  have hPlan :
      rulePlan rules platform symbol period series =
        fail failure := by
    rw [rulePlan, TargetNames.override_eq]
    rcases h with hCheck | ⟨hCheck, hFirst⟩
    · rw [hCheck]
      rfl
    · have hFails :=
        (RuleSet.onPlatforms_eq_error_iff
          (.given symbol period series) platform ⟨rules⟩
          failure).mpr (Or.inr hFirst)
      rw [hCheck]
      simp only [Except.map, hFails]
  rw [hPlan]
  simp [run, fail, runEffects]

/-
  The lines for the platforms that are asked for.  A condition
  on its own is not labelled.
-/
def selectedLines
    (condition : Platform → String) :
    Option Platform → List String
  | some platform => [condition platform]
  | none =>
      Platform.all.map (fun p => p.name ++ ": " ++ condition p)

/- Conditions are printed on the lines of the platforms. -/
theorem run_rulePlan_of_translate
    {condition : Platform → String}
    (hNames :
      (TargetNames.given symbol period series).check = .ok ())
    (hConditions :
      ∀ platform,
        RuleSet.translate platform
            (.given symbol period series) ⟨rules⟩ =
          .ok (condition platform))
    (platform : Option Platform)
    (tree : FileTree) :
    (rulePlan rules platform symbol period series).run tree =
      { tree := tree
        stdout :=
          Text.concat
            ((selectedLines condition platform).map (· ++ "\n"))
        stderr := ""
        exit := 0 } := by
  have hPlan :
      rulePlan rules platform symbol period series =
        after
          (((selectedLines condition platform).map
            (· ++ "\n")).map .print)
          done := by
    have hAll :=
      RuleSet.onPlatforms_of_translate platform hConditions
    rw [rulePlan, TargetNames.override_eq, hNames]
    simp only [Except.map, hAll]
    cases platform <;> rfl
  rw [hPlan, run_after_prints]
  simp [run, done, runEffects]

/- The printed lines are those of the platforms. -/
theorem pieces_run_rulePlan
    {condition : Platform → String}
    (hNames :
      (TargetNames.given symbol period series).check = .ok ())
    (hConditions :
      ∀ platform,
        RuleSet.translate platform
            (.given symbol period series) ⟨rules⟩ =
          .ok (condition platform))
    (platform : Option Platform)
    (tree : FileTree) :
    Text.pieces '\n'
        ((rulePlan rules platform symbol period series).run
          tree).stdout =
      selectedLines condition platform ++ [""] := by
  rw [run_rulePlan_of_translate hNames hConditions]
  apply Text.pieces_lines
  have hSingle (p : Platform) :
      '\n' ∉ (condition p).toList :=
    RuleSet.lineFeed_not_mem_of_translate hNames (hConditions p)
  intro line hLine
  cases platform with
  | some platform =>
      rw [List.mem_singleton.mp hLine]
      exact hSingle platform
  | none =>
      rcases List.mem_map.mp hLine with ⟨p, _, rfl⟩
      have hName : '\n' ∉ p.name.toList := by
        cases p <;> decide
      simp [hName, hSingle p]

/-
  One platform and all of them are served alike.  The exit
  status is that of the names and the rules.  If it is not 0,
  nothing is printed and all runs report the same failure.  If
  it is 0, each platform alone gets its condition as the one
  line of the output, and all together get these lines in their
  order, each with the name of the platform before it.
-/
theorem run_rule_alike
    (hRules : rules ≠ [])
    (symbol period series : Option String)
    (tree : FileTree)
    (millis : Int) :
    let names := TargetNames.given symbol period series
    let run (platform : Option Platform) :=
      (Command.rule rules platform symbol period series).run
        tree millis
    (∀ platform,
      (run platform).exit = ruleStatus names rules) ∧
    (ruleStatus names rules ≠ 0 →
      ∃ failure,
        FailsBeforePrinting names rules failure ∧
          ∀ platform,
            (run platform).stdout = "" ∧
              (run platform).stderr =
                "error: " ++ failure.context ++ "\n") ∧
    (ruleStatus names rules = 0 →
      ∃ line : Platform → String,
        (∀ platform,
          RuleSet.translate platform names ⟨rules⟩ =
              .ok (line platform) ∧
            Text.pieces '\n' (run (some platform)).stdout =
              [line platform, ""]) ∧
        Text.pieces '\n' (run none).stdout =
          Platform.all.map (fun p => p.name ++ ": " ++ line p) ++
            [""]) := by
  intro names run
  rcases failsBeforePrinting_or names rules with
    ⟨failure, hFails⟩ | ⟨hNames, hAccepted⟩
  · have hRun (platform : Option Platform) :
        run platform = _ :=
      run_rulePlan_of_fails hFails platform tree
    refine ⟨?_, ?_, ?_⟩
    · intro platform
      rw [hRun]
      exact hFails.exitCode_eq
    · intro _
      refine ⟨failure, hFails, ?_⟩
      intro platform
      rw [hRun]
      exact ⟨rfl, rfl⟩
    · intro hZero
      rw [← hFails.exitCode_eq] at hZero
      exact absurd hZero failure.exitCode_ne_zero
  · have hZero := ruleStatus_eq_zero hNames hAccepted
    rcases RuleSet.exists_conditions names hRules hAccepted with
      ⟨line, hLine⟩
    have hPieces (platform : Option Platform) :
        Text.pieces '\n' (run platform).stdout =
          selectedLines line platform ++ [""] :=
      pieces_run_rulePlan hNames hLine platform tree
    refine ⟨?_, ?_, ?_⟩
    · intro platform
      have hRun : run platform = _ :=
        run_rulePlan_of_translate hNames hLine platform tree
      rw [hRun, hZero]
    · intro hNotZero
      exact absurd hZero hNotZero
    · intro _
      refine ⟨line, ?_, hPieces none⟩
      intro platform
      exact ⟨hLine platform, hPieces (some platform)⟩

/-
  A rule that breaks off fails on all platforms, but a symbol
  that is no identifier fails first.  A rule that is accepted
  has four conditions, printed alone or among all of them.
-/
theorem run_rule_alike_symbol :
    let run (rule symbol : String) (platform : Option Platform) :=
      (Command.rule [rule] platform (some symbol) none none).run
        ⟨[], []⟩ 0
    let condition : Platform → String
      | .mql4 => "High[0] < Low[2]"
      | .mql5 =>
          "iHigh(EURUSD, PERIOD_CURRENT, 0) < " ++
            "iLow(EURUSD, PERIOD_CURRENT, 2)"
      | .pine => "high < low[2]"
      | .ctrader =>
          "Bars.HighPrices.Last(0) < Bars.LowPrices.Last(2)"
    (∀ platform,
      (run "HIGH[0] <" "EUR/USD" platform).exit = 2 ∧
        (run "HIGH[0] <" "EURUSD" platform).exit = 4 ∧
        (run "HIGH[0] < LOW[2]" "EURUSD" platform).exit = 0) ∧
    (∃ report,
      ∀ platform,
        (run "HIGH[0] <" "EURUSD" platform).stdout = "" ∧
          (run "HIGH[0] <" "EURUSD" platform).stderr =
            report) ∧
    (∀ platform,
      Text.pieces '\n'
          (run "HIGH[0] < LOW[2]" "EURUSD"
            (some platform)).stdout =
        [condition platform, ""]) ∧
    Text.pieces '\n'
        (run "HIGH[0] < LOW[2]" "EURUSD" none).stdout =
      ["mql4: " ++ condition .mql4, "mql5: " ++ condition .mql5,
        "pine: " ++ condition .pine,
        "ctrader: " ++ condition .ctrader, ""] := by
  intro run condition
  have hAlike (rule symbol : String) :=
    run_rule_alike (List.cons_ne_nil rule []) (some symbol) none
      none ⟨[], []⟩ 0
  rcases hAlike "HIGH[0] <" "EUR/USD" with ⟨hNoName, _, _⟩
  rcases hAlike "HIGH[0] <" "EURUSD" with
    ⟨hNoRule, hReported, _⟩
  rcases hAlike "HIGH[0] < LOW[2]" "EURUSD" with
    ⟨hFine, _, hPrinted⟩
  refine ⟨?_, ?_, ?_⟩
  · intro platform
    exact
      ⟨(hNoName platform).trans (by decide +kernel),
        (hNoRule platform).trans (by decide +kernel),
        (hFine platform).trans (by decide +kernel)⟩
  · rcases hReported (by decide +kernel) with
      ⟨failure, _, hSame⟩
    exact ⟨_, hSame⟩
  · rcases hPrinted (by decide +kernel) with
      ⟨line, hLines, hAll⟩
    have hTranslated (platform : Platform) :
        RuleSet.translate platform
            (.given (some "EURUSD") none none)
            ⟨["HIGH[0] < LOW[2]"]⟩ =
          .ok (condition platform) := by
      cases platform <;> decide +kernel
    have hLine : line = condition := by
      funext platform
      have hSame :=
        (hLines platform).1.symm.trans (hTranslated platform)
      exact Except.ok.inj hSame
    rw [hLine] at hLines hAll
    exact ⟨fun platform => (hLines platform).2, hAll⟩

end BarRules
