import BarRules.Proofs.RuleSet.AllOrNothing
import BarRules.Proofs.Settings.Loading
import BarRules.Proofs.Target.Emission
import BarRules.Proofs.Text.Trimming

/-
  The checks of settings guard what is built of them.

  Key definitions include:
    * `BarRules.Settings.Lacks`
    * `BarRules.Settings.separatorFailure`

  Key theorems include:
    * `BarRules.forM_eq_error_iff`
    * `BarRules.Settings.requireText_eq_ok_iff`
    * `BarRules.Settings.strategy_eq_error_iff`
    * `BarRules.Settings.exists_strategy_iff`
    * `BarRules.Settings.text?_of_checkName`
    * `BarRules.Settings.check_targetNames_of_checkNames`
    * `BarRules.Settings.checks_guard_building`

  A check looks at a text as it is, and building takes it
  without the blanks around it.  Both find the same settings
  missing, and they look at them in the same order.
-/

------------------------------------------------------------
-- First Checks That Fail
------------------------------------------------------------

namespace BarRules

variable {α ε : Type}

/- A list of checks is gone through as a list of requests. -/
theorem forM_eq_map_mapM
    (check : α → Except ε Unit)
    (items : List α) :
    items.forM check =
      (items.mapM check).map (fun _ => ()) := by
  induction items with
  | nil => rfl
  | cons item items ih =>
      rw [List.forM, ih, List.mapM_cons]
      cases check item <;> cases items.mapM check <;> rfl

/- A list of checks fails as the first one that fails. -/
theorem forM_eq_error_iff
    (check : α → Except ε Unit)
    (items : List α)
    (failure : ε) :
    items.forM check = .error failure ↔
      FirstFailure check items failure := by
  rw [forM_eq_map_mapM, ← mapM_eq_error_iff]
  cases items.mapM check <;> simp [Except.map]

end BarRules

------------------------------------------------------------
-- Texts That Are Needed
------------------------------------------------------------

namespace BarRules

namespace Settings

variable {settings : Settings}
variable {key : String}
variable {failure : Failure}

/- A text that is found is trimmed and not empty. -/
theorem trimmed_of_text?
    {heading text : String}
    (h : settings.text? heading key = some text) :
    text ≠ "" ∧ Text.trim text = text := by
  rcases text?_eq_some_iff.mp h with
    ⟨⟨value, _, rfl⟩, hNonempty⟩
  exact ⟨hNonempty, Text.trim_trim value⟩

/- A check for a text passes if the text is found. -/
theorem requireText_eq_ok_iff :
    settings.requireText key = .ok () ↔
      ∃ text,
        settings.text? strategyHeading key = some text := by
  unfold requireText text?
  cases settings.lookup strategyHeading key with
  | none => simp
  | some value =>
      by_cases hBlank : Text.trim value = ""
      · simp [Text.isBlankText, hBlank]
      · simp [Text.isBlankText, hBlank]

/- The failure says that a text is missing or blank. -/
def Lacks (key : String) (failure : Failure) : Prop :=
  failure = .missingSetting strategyHeading key ∨
    failure =
      .invalidSetting strategyHeading key
        (key ++ " must not be empty")

/- A check for a text fails for lack of the text. -/
theorem lacks_of_requireText
    (h : settings.requireText key = .error failure) :
    Lacks key failure := by
  unfold requireText at h
  split at h
  · cases h
    exact Or.inl rfl
  · split at h
    · cases h
      exact Or.inr rfl
    · cases h

/- A text that is needed is missing if it is not found. -/
theorem needed_eq_error_iff :
    settings.needed key = .error failure ↔
      settings.text? strategyHeading key = none ∧
        failure = .missingSetting strategyHeading key := by
  unfold needed
  cases settings.text? strategyHeading key <;> simp [eq_comm]

/- Strategies fail to be built for the first text they lack. -/
theorem strategy_eq_error_iff :
    settings.strategy = .error failure ↔
      FirstFailure settings.needed neededKeys failure := by
  rw [← mapM_eq_error_iff]
  simp only [Settings.strategy, neededKeys, List.mapM_cons,
    List.mapM_nil, bind_eq_error_iff, bind_eq_ok_iff, pure,
    Except.pure, reduceCtorEq, and_false, exists_false,
    or_false]

/- A strategy is built if its texts pass their checks. -/
theorem exists_strategy_iff :
    (∃ strategy, settings.strategy = .ok strategy) ↔
      neededKeys.forM settings.requireText = .ok () := by
  rw [exists_ok_iff]
  simp only [ne_eq, strategy_eq_error_iff]
  rw [← forall_ok_iff, forM_eq_ok_iff]
  simp only [needed_eq_ok_iff, requireText_eq_ok_iff]

/- The text that is missing first is the one checked first. -/
theorem exists_lacks_of_strategy
    (h : settings.strategy = .error failure) :
    ∃ key ∈ neededKeys,
      failure = .missingSetting strategyHeading key ∧
        ∃ found,
          Lacks key found ∧
            FirstFailure settings.requireText neededKeys
              found := by
  rcases strategy_eq_error_iff.mp h with
    ⟨before, key, after, hKeys, hBefore, hFails⟩
  rcases needed_eq_error_iff.mp hFails with ⟨hNone, hMissing⟩
  refine ⟨key, by simp [hKeys], hMissing, ?_⟩
  cases hCheck : settings.requireText key with
  | ok passed =>
      rcases requireText_eq_ok_iff.mp hCheck with ⟨text, hText⟩
      rw [hNone] at hText
      cases hText
  | error found =>
      refine
        ⟨found, lacks_of_requireText hCheck, before, key,
          after, hKeys, ?_, hCheck⟩
      intro other hOther
      rcases hBefore other hOther with ⟨text, hText⟩
      exact
        ⟨(), requireText_eq_ok_iff.mpr
          ⟨text, needed_eq_ok_iff.mp hText⟩⟩

end Settings

end BarRules

------------------------------------------------------------
-- Path Separators
------------------------------------------------------------

namespace BarRules

namespace Settings

variable {settings : Settings}
variable {failure : Failure}

/- The failure of a symbol that holds a path separator. -/
def separatorFailure (symbol : String) : Failure :=
  .invalidSetting strategyHeading "symbol"
    ("'" ++ symbol ++ "' must not contain a path separator")

/- A symbol with a separator is not said to be missing. -/
theorem not_lacks_separatorFailure (key symbol : String) :
    ¬ Lacks key (separatorFailure symbol) := by
  rintro (hMissing | hBlank)
  · cases hMissing
  · simp only [separatorFailure, Failure.invalidSetting.injEq]
      at hBlank
    rcases hBlank with ⟨_, rfl, hReason⟩
    have hFirst := congrArg (fun s => s.toList.head?) hReason
    simp at hFirst

/- Of a symbol, only a path separator is objected to. -/
theorem checkSymbol_eq_error_iff :
    settings.checkSymbol = .error failure ↔
      ∃ symbol,
        settings.lookup strategyHeading "symbol" =
            some symbol ∧
          ('/' ∈ symbol.toList ∨ '\\' ∈ symbol.toList) ∧
          failure = separatorFailure symbol := by
  unfold checkSymbol
  cases settings.lookup strategyHeading "symbol" with
  | none => simp
  | some symbol =>
      have hAny :
          symbol.toList.any isPathSeparator = true ↔
            '/' ∈ symbol.toList ∨ '\\' ∈ symbol.toList := by
        simp [isPathSeparator, List.any_eq_true, and_or_left,
          exists_or]
      by_cases hSeparator :
          '/' ∈ symbol.toList ∨ '\\' ∈ symbol.toList
      · simp [hAny.mpr hSeparator, hSeparator,
          separatorFailure, eq_comm]
      · simp [hAny, hSeparator]

/- A text that is missing is reported before the separator. -/
theorem checkStrategy_of_firstFailure
    (h :
      FirstFailure settings.requireText neededKeys failure) :
    settings.checkStrategy = .error failure := by
  unfold checkStrategy
  rw [(forM_eq_error_iff ..).mpr h]

/-
  A strategy is built if and only if nothing is objected to,
  or nothing but a path separator in its symbol.
-/
theorem exists_strategy_iff_checkStrategy :
    (∃ strategy, settings.strategy = .ok strategy) ↔
      settings.checkStrategy = .ok () ∨
        ∃ symbol,
          settings.lookup strategyHeading "symbol" =
              some symbol ∧
            ('/' ∈ symbol.toList ∨ '\\' ∈ symbol.toList) ∧
            settings.checkStrategy =
              .error (separatorFailure symbol) := by
  rw [exists_strategy_iff]
  cases hTexts : neededKeys.forM settings.requireText with
  | ok passed =>
      have hChecked :
          settings.checkStrategy = settings.checkSymbol := by
        rw [checkStrategy, hTexts]
      simp only [hChecked, true_iff]
      cases hSymbol : settings.checkSymbol with
      | ok passed => exact Or.inl rfl
      | error failure =>
          rcases checkSymbol_eq_error_iff.mp hSymbol with
            ⟨symbol, hLookup, hSeparator, rfl⟩
          exact Or.inr ⟨symbol, hLookup, hSeparator, rfl⟩
  | error failure =>
      have hFirst := (forM_eq_error_iff ..).mp hTexts
      rw [checkStrategy_of_firstFailure hFirst]
      simp only [reduceCtorEq, false_or, false_iff]
      rintro ⟨symbol, _, _, hSame⟩
      cases hSame
      rcases hFirst with ⟨_, key, _, _, _, hFails⟩
      exact not_lacks_separatorFailure key symbol
        (lacks_of_requireText hFails)

end Settings

end BarRules

------------------------------------------------------------
-- Target Names
------------------------------------------------------------

namespace BarRules

namespace Settings

variable {settings : Settings}
variable {key : String}

/- A name passes if it is not set or an identifier. -/
theorem checkName_eq_ok_iff :
    settings.checkName key = .ok () ↔
      ∀ value ∈ settings.lookup emitHeading key,
        isTargetName (Text.trim value) = true := by
  unfold checkName checkTargetName
  cases settings.lookup emitHeading key <;> simp

/- A name that passes is taken as it is set, but trimmed. -/
theorem text?_of_checkName
    (h : settings.checkName key = .ok ()) :
    settings.text? emitHeading key =
      (settings.lookup emitHeading key).map Text.trim := by
  rw [checkName_eq_ok_iff] at h
  unfold text?
  cases hLookup : settings.lookup emitHeading key with
  | none => rfl
  | some value =>
      have hName := h value hLookup
      have hNonempty : Text.trim value ≠ "" := by
        intro hEmpty
        rw [hEmpty] at hName
        exact absurd hName (by decide)
      simp [hNonempty]

/- A name that passes is an identifier, set or not. -/
theorem isTargetName_of_checkName
    (h : settings.checkName key = .ok ())
    {default : String}
    (hDefault : isTargetName default = true) :
    isTargetName
        (((settings.lookup emitHeading key).map
          Text.trim).getD default) =
      true := by
  rw [checkName_eq_ok_iff] at h
  cases hLookup : settings.lookup emitHeading key with
  | none => exact hDefault
  | some value => exact h value hLookup

/- Names that pass one by one pass all together. -/
theorem check_targetNames_of_checkNames
    (h : settings.checkNames = .ok ()) :
    settings.targetNames.check = .ok () := by
  have hName
      {key default : String}
      (hKey : key ∈ nameKeys)
      (hDefault : isTargetName default = true) :
      isTargetName
          ((settings.text? emitHeading key).getD default) =
        true := by
    have hCheck := forM_eq_ok_iff.mp h key hKey
    rw [text?_of_checkName hCheck]
    exact isTargetName_of_checkName hCheck hDefault
  rw [TargetNames.check_eq_ok_iff]
  exact
    ⟨hName (by decide) (by decide),
      hName (by decide) (by decide),
      hName (by decide) (by decide)⟩

end Settings

end BarRules

------------------------------------------------------------
-- Checking and Building
------------------------------------------------------------

namespace BarRules

namespace Settings

/-
  The checks of settings guard just what is built of them.  A
  strategy is built unless a text is missing that the check
  reports as well, and first; the check objects beyond that to
  path separators only.  A checked strategy has a name and a
  symbol that are trimmed and not empty, and the symbol is no
  path.  Checked target names are taken as they are set, or by
  default, and are identifiers.
-/
theorem checks_guard_building (settings : Settings) :
    ((∃ strategy, settings.strategy = .ok strategy) ↔
      settings.checkStrategy = .ok () ∨
        ∃ symbol,
          settings.lookup "strategy" "symbol" = some symbol ∧
            ('/' ∈ symbol.toList ∨ '\\' ∈ symbol.toList) ∧
            settings.checkStrategy =
              .error (separatorFailure symbol)) ∧
    (∀ failure,
      settings.strategy = .error failure →
        ∃ key ∈ neededKeys,
          failure = .missingSetting "strategy" key ∧
            (settings.checkStrategy =
                .error (.missingSetting "strategy" key) ∨
              settings.checkStrategy =
                .error
                  (.invalidSetting "strategy" key
                    (key ++ " must not be empty")))) ∧
    (settings.checkStrategy = .ok () →
      ∃ strategy,
        settings.strategy = .ok strategy ∧
          (strategy.name ≠ "" ∧
            Text.trim strategy.name = strategy.name) ∧
          (strategy.symbol ≠ "" ∧
            Text.trim strategy.symbol = strategy.symbol) ∧
          '/' ∉ strategy.symbol.toList ∧
          '\\' ∉ strategy.symbol.toList) ∧
    (settings.checkNames = .ok () →
      settings.targetNames =
          { symbol :=
              ((settings.lookup "emit" "symbol").map
                Text.trim).getD "_Symbol"
            period :=
              ((settings.lookup "emit" "period").map
                Text.trim).getD "PERIOD_CURRENT"
            series :=
              ((settings.lookup "emit" "series").map
                Text.trim).getD "Bars" } ∧
        settings.targetNames.check = .ok ()) := by
  refine ⟨exists_strategy_iff_checkStrategy, ?_, ?_, ?_⟩
  · intro failure h
    rcases exists_lacks_of_strategy h with
      ⟨key, hKey, hMissing, found, hLacks, hFirst⟩
    have hChecked := checkStrategy_of_firstFailure hFirst
    refine ⟨key, hKey, hMissing, ?_⟩
    rcases hLacks with rfl | rfl
    · exact Or.inl hChecked
    · exact Or.inr hChecked
  · intro hChecked
    rcases exists_strategy_iff_checkStrategy.mpr
        (Or.inl hChecked) with
      ⟨strategy, hBuilt⟩
    rcases strategy_eq_ok_iff.mp hBuilt with
      ⟨hName, hSymbol, _⟩
    have hOutside (c : Char) (hC : isPathSeparator c = true) :
        c ∉ strategy.symbol.toList := by
      intro hMem
      rw [isPathSeparator_of_checkStrategy hChecked hBuilt
        hMem] at hC
      cases hC
    exact
      ⟨strategy, hBuilt, trimmed_of_text? hName,
        trimmed_of_text? hSymbol, hOutside '/' (by decide),
        hOutside '\\' (by decide)⟩
  · intro hChecked
    have hEach := forM_eq_ok_iff.mp hChecked
    have hSymbol := hEach "symbol" (by simp [nameKeys])
    have hPeriod := hEach "period" (by simp [nameKeys])
    have hSeries := hEach "series" (by simp [nameKeys])
    have hNames :
        settings.targetNames =
          { symbol :=
              ((settings.lookup emitHeading "symbol").map
                Text.trim).getD "_Symbol"
            period :=
              ((settings.lookup emitHeading "period").map
                Text.trim).getD "PERIOD_CURRENT"
            series :=
              ((settings.lookup emitHeading "series").map
                Text.trim).getD "Bars" } := by
      simp only [targetNames, text?_of_checkName hSymbol,
        text?_of_checkName hPeriod, text?_of_checkName hSeries]
    refine ⟨hNames, ?_⟩
    rw [hNames, TargetNames.check_eq_ok_iff]
    exact
      ⟨isTargetName_of_checkName hSymbol (by decide),
        isTargetName_of_checkName hPeriod (by decide),
        isTargetName_of_checkName hSeries (by decide)⟩

/-
  Settings with blanks around them pass and are trimmed.  With
  a blank symbol, that is what both complain about, although
  the rules are missing too.
-/
theorem checks_guard_building_padded :
    let settings : Settings :=
      ⟨fun heading key =>
        List.lookup (heading, key)
          [(("strategy", "name"), " Night\t"),
            (("strategy", "symbol"), "EURUSD "),
            (("strategy", "entry_long"), "OPEN[1] < LOW[2]"),
            (("strategy", "exit_long"), "HIGH[0]"),
            (("emit", "period"), " PERIOD_H1")]⟩
    let blank : Settings :=
      ⟨fun heading key =>
        List.lookup (heading, key)
          [(("strategy", "name"), "Night"),
            (("strategy", "symbol"), " ")]⟩
    (∃ strategy,
      settings.strategy = .ok strategy ∧
        (strategy.name ≠ "" ∧
          Text.trim strategy.name = strategy.name) ∧
        (strategy.symbol ≠ "" ∧
          Text.trim strategy.symbol = strategy.symbol) ∧
        '/' ∉ strategy.symbol.toList ∧
        '\\' ∉ strategy.symbol.toList) ∧
      settings.targetNames =
        { symbol := "_Symbol"
          period := "PERIOD_H1"
          series := "Bars" } ∧
      settings.targetNames.check = .ok () ∧
      blank.strategy =
        .error (.missingSetting "strategy" "symbol") ∧
      ∃ key ∈ neededKeys,
        Failure.missingSetting "strategy" "symbol" =
            .missingSetting "strategy" key ∧
          (blank.checkStrategy =
              .error (.missingSetting "strategy" key) ∨
            blank.checkStrategy =
              .error
                (.invalidSetting "strategy" key
                  (key ++ " must not be empty"))) := by
  intro settings blank
  have hStrategy : settings.checkStrategy = .ok () := by
    decide +kernel
  have hNames : settings.checkNames = .ok () := by
    decide +kernel
  have hMissing :
      blank.strategy =
        .error (.missingSetting "strategy" "symbol") := by
    decide +kernel
  rcases checks_guard_building settings with
    ⟨_, _, hBuilt, hTargets⟩
  rcases hTargets hNames with ⟨hGiven, hIdentifiers⟩
  refine
    ⟨hBuilt hStrategy, ?_, hIdentifiers, hMissing,
      (checks_guard_building blank).2.1 _ hMissing⟩
  rw [hGiven]
  decide +kernel

end Settings

end BarRules
