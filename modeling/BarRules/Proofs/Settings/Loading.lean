import BarRules.Proofs.Text.Trimming
import BarRules.Settings

/-
  What is known of a strategy that was loaded.

  Key theorems include:
    * `BarRules.bind_eq_ok_iff`
    * `BarRules.forM_eq_ok_iff`
    * `BarRules.Settings.text?_eq_some_iff`
    * `BarRules.Settings.load_eq_ok_iff`
    * `BarRules.Settings.strategy_eq_ok_iff`
    * `BarRules.Settings.isPathSeparator_of_load`

  A strategy is loaded only if all checks pass.  The symbol is
  checked before blanks are taken from its ends, so what is
  left of it holds no path separator either.
-/

------------------------------------------------------------
-- Steps That Can Fail
------------------------------------------------------------

namespace BarRules

variable {α β ε : Type}
variable {x : Except ε α}
variable {f : α → Except ε β}

/- Two steps have a result if both have one. -/
theorem bind_eq_ok_iff
    {result : β} :
    x >>= f = .ok result ↔
      ∃ found, x = .ok found ∧ f found = .ok result := by
  cases x <;> simp [bind, Except.bind]

/- Two steps fail if one of them does. -/
theorem bind_eq_error_iff
    {failure : ε} :
    x >>= f = .error failure ↔
      x = .error failure ∨
        ∃ found, x = .ok found ∧ f found = .error failure := by
  cases x <;> simp [bind, Except.bind]

/- Checks on all items pass if each of them does. -/
theorem forM_eq_ok_iff
    {check : α → Except ε Unit}
    {items : List α} :
    items.forM check = .ok () ↔
      ∀ item ∈ items, check item = .ok () := by
  induction items with
  | nil => simp [pure, Except.pure]
  | cons item items ih =>
      rw [List.forM, bind_eq_ok_iff, ih,
        List.forall_mem_cons]
      constructor
      · rintro ⟨_, hFirst, hRest⟩
        exact ⟨hFirst, hRest⟩
      · rintro ⟨hFirst, hRest⟩
        exact ⟨(), hFirst, hRest⟩

end BarRules

------------------------------------------------------------
-- Loaded Strategies
------------------------------------------------------------

namespace BarRules

namespace Settings

variable {settings : Settings}
variable {strategy : Strategy}
variable {names : TargetNames}

/- A text is found if its setting is, and is not blank. -/
theorem text?_eq_some_iff
    {heading key text : String} :
    settings.text? heading key = some text ↔
      (∃ value,
        settings.lookup heading key = some value ∧
          Text.trim value = text) ∧
        text ≠ "" := by
  simp only [text?, Option.filter_eq_some_iff,
    Option.map_eq_some_iff, decide_eq_true_eq]

/- A strategy is loaded if it passes all checks and is built. -/
theorem load_eq_ok_iff :
    settings.load = .ok (strategy, names) ↔
      settings.checkStrategy = .ok () ∧
        settings.checkNames = .ok () ∧
        settings.strategy = .ok strategy ∧
        settings.targetNames = names := by
  simp only [load, bind_eq_ok_iff, pure, Except.pure,
    Except.ok.injEq, Prod.mk.injEq]
  constructor
  · rintro ⟨_, hStrategy, _, hNames, _, hBuilt, rfl, rfl⟩
    exact ⟨hStrategy, hNames, hBuilt, rfl⟩
  · rintro ⟨hStrategy, hNames, hBuilt, rfl⟩
    exact ⟨_, hStrategy, _, hNames, _, hBuilt, rfl, rfl⟩

/- A needed text is what is found, without blanks around it. -/
theorem needed_eq_ok_iff
    {key value : String} :
    settings.needed key = .ok value ↔
      settings.text? strategyHeading key = some value := by
  unfold needed
  cases settings.text? strategyHeading key <;> simp

/- A strategy is built of the texts of its settings. -/
theorem strategy_eq_ok_iff :
    settings.strategy = .ok strategy ↔
      settings.text? strategyHeading "name" =
          some strategy.name ∧
        settings.text? strategyHeading "symbol" =
          some strategy.symbol ∧
        (settings.text? strategyHeading "entry_long").map
            RuleSet.ofList =
          some strategy.entryLong ∧
        (settings.text? strategyHeading "exit_long").map
            RuleSet.ofList =
          some strategy.exitLong ∧
        settings.ruleSet? "entry_short" = strategy.entryShort ∧
        settings.ruleSet? "exit_short" =
          strategy.exitShort := by
  rcases strategy with
    ⟨name, symbol, entryLong, exitLong, entryShort, exitShort⟩
  simp only [Settings.strategy, bind_eq_ok_iff,
    needed_eq_ok_iff, pure, Except.pure, Except.ok.injEq,
    Strategy.mk.injEq, Option.map_eq_some_iff]
  constructor
  · rintro
      ⟨_, hName, _, hSymbol, _, hEntry, _, hExit, rfl, rfl,
        rfl, rfl, rfl, rfl⟩
    exact
      ⟨hName, hSymbol, ⟨_, hEntry, rfl⟩, ⟨_, hExit, rfl⟩, rfl,
        rfl⟩
  · rintro
      ⟨hName, hSymbol, ⟨_, hEntry, rfl⟩, ⟨_, hExit, rfl⟩, rfl,
        rfl⟩
    exact
      ⟨_, hName, _, hSymbol, _, hEntry, _, hExit, rfl, rfl,
        rfl, rfl, rfl, rfl⟩

/- A symbol that passes its check holds no path separator. -/
theorem isPathSeparator_of_checkSymbol
    {symbol : String}
    (hCheck : settings.checkSymbol = .ok ())
    (hSymbol :
      settings.lookup strategyHeading "symbol" = some symbol)
    {c : Char}
    (hMem : c ∈ symbol.toList) :
    isPathSeparator c = false := by
  simp only [checkSymbol, hSymbol] at hCheck
  split at hCheck
  · cases hCheck
  · rename_i hNone
    simpa using
      List.any_eq_false.mp (Bool.eq_false_iff.mpr hNone) c hMem

/- A symbol that is checked and built is free of them too. -/
theorem isPathSeparator_of_checkStrategy
    (hChecked : settings.checkStrategy = .ok ())
    (hBuilt : settings.strategy = .ok strategy)
    {c : Char}
    (hMem : c ∈ strategy.symbol.toList) :
    isPathSeparator c = false := by
  rcases strategy_eq_ok_iff.mp hBuilt with ⟨_, hText, _⟩
  have hCheck : settings.checkSymbol = .ok () := by
    unfold checkStrategy at hChecked
    split at hChecked
    · cases hChecked
    · exact hChecked
  rcases text?_eq_some_iff.mp hText with
    ⟨⟨symbol, hSymbol, hTrimmed⟩, _⟩
  apply isPathSeparator_of_checkSymbol hCheck hSymbol
  rw [← hTrimmed] at hMem
  exact Text.mem_of_mem_trim hMem

/- The symbol of a loaded strategy is a part of a file name. -/
theorem isPathSeparator_of_load
    (h : settings.load = .ok (strategy, names))
    {c : Char}
    (hMem : c ∈ strategy.symbol.toList) :
    isPathSeparator c = false := by
  rcases load_eq_ok_iff.mp h with ⟨hChecked, _, hBuilt, _⟩
  exact isPathSeparator_of_checkStrategy hChecked hBuilt hMem

end Settings

end BarRules
