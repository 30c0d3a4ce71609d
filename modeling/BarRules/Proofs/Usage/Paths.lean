import BarRules.Command

/-
  Paths that are accepted on a command line.

  Key definitions include:
    * `BarRules.Usage.Given.NamesPaths`

  Key theorems include:
    * `BarRules.Usage.Given.namesPaths_of_take`
    * `BarRules.Usage.namesPaths_of_readArguments`
    * `BarRules.Command.paths_ne_empty_of_ofArguments`

  A path that is empty is refused wherever an option takes it,
  so no command is given one.
-/

------------------------------------------------------------
-- Taken Values
------------------------------------------------------------

namespace BarRules

namespace Usage

variable {given after : Given}
variable {waiting : Waiting}
variable {subcommand : Subcommand}
variable {arguments : List String}

/- No path among the values is empty. -/
structure Given.NamesPaths (given : Given) : Prop where
  strategy : given.strategy ≠ some ""
  output : given.output ≠ some ""

/- Taking a value keeps the paths from being empty. -/
theorem Given.namesPaths_of_take
    {flag : Flag}
    {value : String}
    (hPaths : given.NamesPaths)
    (h : given.take flag value = .ok after) :
    after.NamesPaths := by
  rcases hPaths with ⟨hStrategy, hOutput⟩
  unfold Given.take at h
  split at h
  · cases h
  cases flag with
  | strategy =>
      by_cases hEmpty : value = ""
      · simp [hEmpty] at h
      · simp only [hEmpty, if_false, Except.ok.injEq] at h
        subst h
        exact ⟨by simpa using hEmpty, hOutput⟩
  | output =>
      by_cases hEmpty : value = ""
      · simp [hEmpty] at h
      · simp only [hEmpty, if_false, Except.ok.injEq] at h
        subst h
        exact ⟨hStrategy, by simpa using hEmpty⟩
  | platform =>
      dsimp only at h
      split at h
      · cases h
      · cases h
        exact ⟨hStrategy, hOutput⟩
  | symbol =>
      cases h
      exact ⟨hStrategy, hOutput⟩
  | period =>
      cases h
      exact ⟨hStrategy, hOutput⟩
  | series =>
      cases h
      exact ⟨hStrategy, hOutput⟩

/- So does taking a value that waited. -/
theorem namesPaths_of_settle
    (hPaths : given.NamesPaths)
    (h : settle given waiting = .ok after) :
    after.NamesPaths := by
  cases waiting with
  | nothing =>
      rw [settle] at h
      cases h
      exact hPaths
  | forValue flag =>
      rw [settle] at h
      cases h
  | withValue flag value =>
      rw [settle] at h
      exact Given.namesPaths_of_take hPaths h

/- So does taking a rule. -/
theorem namesPaths_of_takeRule
    {rule : String}
    (hPaths : given.NamesPaths)
    (h : takeRule subcommand given waiting rule = .ok after) :
    after.NamesPaths := by
  unfold takeRule at h
  split at h
  · split at h
    · cases h
    · rename_i settled hSettle
      have hSettled := namesPaths_of_settle hPaths hSettle
      cases h
      exact ⟨hSettled.strategy, hSettled.output⟩
  · cases h

/- So does taking all that follows the end of options. -/
theorem namesPaths_of_readRules
    (hPaths : given.NamesPaths)
    (h :
      readRules subcommand given waiting arguments =
        .ok after) :
    after.NamesPaths := by
  fun_induction readRules subcommand given waiting arguments with
  | case1 given waiting => exact namesPaths_of_settle hPaths h
  | case2 given waiting argument rest fault hTake => cases h
  | case3 given waiting argument rest taken hTake ih =>
      exact ih (namesPaths_of_takeRule hPaths hTake) h

/- So does taking all arguments. -/
theorem namesPaths_of_readArguments
    (hPaths : given.NamesPaths)
    (h :
      readArguments subcommand given waiting arguments =
        .ok after) :
    after.NamesPaths := by
  fun_induction readArguments subcommand given waiting arguments
    with
  | case1 given waiting => exact namesPaths_of_settle hPaths h
  | case6 given waiting argument rest hEnd =>
      exact namesPaths_of_readRules hPaths h
  | case8 given waiting argument rest flag hOption settled
      hSettle ih =>
      rw [hSettle] at h
      exact ih (namesPaths_of_settle hPaths hSettle) h
  | case11 given waiting argument rest flag value hOption
      settled hSettle taken hTake ih =>
      simp only [hSettle, hTake] at h
      have hSettled := namesPaths_of_settle hPaths hSettle
      exact ih (Given.namesPaths_of_take hSettled hTake) h
  | case12 given argument rest flag hPlain ih =>
      exact ih hPaths h
  | case14 given waiting argument rest hPlain taken hTake
      hFree ih =>
      rw [hTake] at h
      exact ih (namesPaths_of_takeRule hPaths hTake) h
  -- all other cases refuse the arguments
  | case2 | case3 => cases h
  | case4 | case5 | case7 | case9 | case10 | case13 =>
      simp_all

end Usage

end BarRules

------------------------------------------------------------
-- Commands
------------------------------------------------------------

namespace BarRules

namespace Command

variable {arguments : List String}
variable {path : String}
variable {platform : Option Platform}
variable {output : Option String}

/- No strategy file and no output directory is called nothing. -/
theorem paths_ne_empty_of_ofArguments
    (h :
      ofArguments arguments =
        .ok (.translate path platform output)) :
    path ≠ "" ∧ output ≠ some "" := by
  unfold ofArguments at h
  split at h
  · cases h
  split at h
  · rename_i subcommand hWord
    split at h
    · cases h
    rename_i given hGiven
    have hNone : Usage.Given.NamesPaths {} :=
      ⟨by simp, by simp⟩
    have hPaths : given.NamesPaths :=
      Usage.namesPaths_of_readArguments hNone hGiven
    unfold ofGiven at h
    split at h
    · rename_i strategy rules hStrategy
      cases h
      exact
        ⟨fun hEmpty => hPaths.strategy (by rw [hStrategy, hEmpty]),
          hPaths.output⟩
    all_goals cases h
  · split at h
    · cases h
    · cases h

end Command

end BarRules
