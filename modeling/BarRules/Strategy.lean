import BarRules.RuleSet

/-
  Strategies: when to enter and when to leave the market.

  Key definitions include:
    * `BarRules.Strategy`
    * `BarRules.Strategy.labelledSets`
    * `BarRules.LabelledCondition`
    * `BarRules.Strategy.translate`

  A strategy always trades in the long direction.  The rules
  for the short direction may be absent.
-/

------------------------------------------------------------
-- Strategies
------------------------------------------------------------

namespace BarRules

/- A named strategy for one traded symbol. -/
structure Strategy where
  name : String
  symbol : String
  entryLong : RuleSet
  exitLong : RuleSet
  entryShort : Option RuleSet := none
  exitShort : Option RuleSet := none
  deriving DecidableEq

/- The condition of one rule set of a strategy. -/
structure LabelledCondition where
  label : String
  text : String
  deriving DecidableEq

namespace Strategy

/-
  The rule sets with their labels.  The long ones come first,
  and absent ones are left out.
-/
def labelledSets (strategy : Strategy) : List (String × RuleSet) :=
  [("entry_long", strategy.entryLong),
    ("exit_long", strategy.exitLong)] ++
    (strategy.entryShort.map ("entry_short", ·)).toList ++
    (strategy.exitShort.map ("exit_short", ·)).toList

/- The condition of a labelled rule set. -/
def translateSet
    (platform : Platform)
    (names : TargetNames)
    (labelled : String × RuleSet) :
    Except Failure LabelledCondition :=
  match labelled.2.translate platform names with
  | .error failure => .error failure
  | .ok text => .ok ⟨labelled.1, text⟩

/- The conditions of all rule sets, or the first failure. -/
def translate
    (platform : Platform)
    (names : TargetNames)
    (strategy : Strategy) :
    Except Failure (List LabelledCondition) :=
  strategy.labelledSets.mapM (translateSet platform names)

end Strategy

end BarRules
