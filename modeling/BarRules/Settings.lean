import BarRules.Strategy

/-
  Settings of a strategy: reading, checking and building.

  Key definitions include:
    * `BarRules.Settings`
    * `BarRules.Settings.text?`
    * `BarRules.isTargetName`
    * `BarRules.TargetNames.check`
    * `BarRules.Settings.checkStrategy`
    * `BarRules.Settings.checkNames`
    * `BarRules.Settings.strategy`
    * `BarRules.Settings.targetNames`
    * `BarRules.Settings.load`

  Settings are texts found under a heading and a key.  They are
  checked before a strategy is built, so that a report names
  the first setting that is missing or wrong.
-/

------------------------------------------------------------
-- Lookup
------------------------------------------------------------

namespace BarRules

/- Texts that are looked up under a heading and a key. -/
structure Settings where
  lookup : String → String → Option String

namespace Settings

/-
  The text under a heading and a key without the blanks around
  it.  A text of blanks only counts as absent.
-/
def text?
    (settings : Settings)
    (heading key : String) :
    Option String :=
  ((settings.lookup heading key).map Text.trim).filter
    (· ≠ "")

end Settings

end BarRules

------------------------------------------------------------
-- Identifiers
------------------------------------------------------------

namespace BarRules

/- A character that an identifier may start with. -/
def startsName (c : Char) : Bool :=
  c.isAlpha || c = '_'

/- A character that an identifier may go on with. -/
def isNameChar (c : Char) : Bool :=
  c.isAlphanum || c = '_'

/-
  A text of ASCII letters, digits and underscores that does not
  start with a digit.
-/
def isTargetName (s : String) : Bool :=
  match s.toList with
  | [] => false
  | c :: rest => startsName c && rest.all isNameChar

/- The heading of the target names in settings. -/
def emitHeading : String := "emit"

/- A target name must be an identifier. -/
def checkTargetName
    (key value : String) :
    Except Failure Unit :=
  if isTargetName value then
    .ok ()
  else
    .error
      (.invalidSetting emitHeading key
        ("'" ++ value ++ "' is not a valid identifier"))

namespace TargetNames

/- Every target name must be an identifier. -/
def check (names : TargetNames) : Except Failure Unit :=
  match checkTargetName "symbol" names.symbol with
  | .error failure => .error failure
  | .ok () =>
      match checkTargetName "period" names.period with
      | .error failure => .error failure
      | .ok () => checkTargetName "series" names.series

/-
  The names that are given, or else the default ones.  All must
  be identifiers.
-/
def override
    (symbol period series : Option String) :
    Except Failure TargetNames :=
  let defaults : TargetNames := {}
  let names : TargetNames :=
    { symbol := symbol.getD defaults.symbol
      period := period.getD defaults.period
      series := series.getD defaults.series }
  match names.check with
  | .error failure => .error failure
  | .ok () => .ok names

end TargetNames

end BarRules

------------------------------------------------------------
-- Checks
------------------------------------------------------------

namespace BarRules

namespace Settings

/- The heading of the strategy in settings. -/
def strategyHeading : String := "strategy"

/- A strategy setting must be there and hold more than blanks. -/
def requireText
    (settings : Settings)
    (key : String) :
    Except Failure Unit :=
  match settings.lookup strategyHeading key with
  | none => .error (.missingSetting strategyHeading key)
  | some value =>
      if Text.isBlankText value then
        .error
          (.invalidSetting strategyHeading key
            (key ++ " must not be empty"))
      else
        .ok ()

/- A character that separates the parts of a path. -/
def isPathSeparator (c : Char) : Bool :=
  c = '/' || c = '\\'

/-
  The symbol becomes a part of file names, so it must not hold
  a path separator.
-/
def checkSymbol (settings : Settings) : Except Failure Unit :=
  match settings.lookup strategyHeading "symbol" with
  | none => .ok ()
  | some symbol =>
      if symbol.toList.any isPathSeparator then
        .error
          (.invalidSetting strategyHeading "symbol"
            ("'" ++ symbol ++
              "' must not contain a path separator"))
      else
        .ok ()

/- The settings that every strategy needs, in checking order. -/
def neededKeys : List String :=
  ["name", "symbol", "entry_long", "exit_long"]

/- The strategy settings are all there and usable. -/
def checkStrategy (settings : Settings) : Except Failure Unit :=
  match neededKeys.forM settings.requireText with
  | .error failure => .error failure
  | .ok () => settings.checkSymbol

/- A target name that is set must be an identifier. -/
def checkName
    (settings : Settings)
    (key : String) :
    Except Failure Unit :=
  match settings.lookup emitHeading key with
  | none => .ok ()
  | some value => checkTargetName key (Text.trim value)

/- The target names that may be set, in checking order. -/
def nameKeys : List String :=
  ["symbol", "period", "series"]

/- The target names that are set are all usable. -/
def checkNames (settings : Settings) : Except Failure Unit :=
  nameKeys.forM settings.checkName

end Settings

end BarRules

------------------------------------------------------------
-- Building
------------------------------------------------------------

namespace BarRules

namespace Settings

/- A strategy setting that must be there. -/
def needed
    (settings : Settings)
    (key : String) :
    Except Failure String :=
  match settings.text? strategyHeading key with
  | none => .error (.missingSetting strategyHeading key)
  | some value => .ok value

/- A rule set that may be absent. -/
def ruleSet?
    (settings : Settings)
    (key : String) :
    Option RuleSet :=
  (settings.text? strategyHeading key).map RuleSet.ofList

/- The strategy of the settings. -/
def strategy (settings : Settings) : Except Failure Strategy := do
  let name ← settings.needed "name"
  let symbol ← settings.needed "symbol"
  let entryLong ← settings.needed "entry_long"
  let exitLong ← settings.needed "exit_long"
  return {
    name := name
    symbol := symbol
    entryLong := RuleSet.ofList entryLong
    exitLong := RuleSet.ofList exitLong
    entryShort := settings.ruleSet? "entry_short"
    exitShort := settings.ruleSet? "exit_short" }

/- The target names that are set, or else the default ones. -/
def targetNames (settings : Settings) : TargetNames :=
  let defaults : TargetNames := {}
  { symbol :=
      (settings.text? emitHeading "symbol").getD defaults.symbol
    period :=
      (settings.text? emitHeading "period").getD defaults.period
    series :=
      (settings.text? emitHeading "series").getD
        defaults.series }

/- Check all settings, then build what they say. -/
def load
    (settings : Settings) :
    Except Failure (Strategy × TargetNames) := do
  settings.checkStrategy
  settings.checkNames
  let strategy ← settings.strategy
  return (strategy, settings.targetNames)

end Settings

end BarRules
