import BarRules.Condition
import BarRules.Rule

/-
  Rule sets: rules that must hold together.

  Key definitions include:
    * `BarRules.Rule.emit`
    * `BarRules.Rule.translate`
    * `BarRules.RuleSet`
    * `BarRules.RuleSet.ofList`
    * `BarRules.RuleSet.expressions`
    * `BarRules.RuleSet.conditions`
    * `BarRules.RuleSet.translate`
    * `BarRules.RuleSet.onPlatforms`

  A rule set is translated as a whole or not at all: a rule
  that was dropped would change what the condition trades on.
-/

------------------------------------------------------------
-- Single Rules
------------------------------------------------------------

namespace BarRules

namespace Rule

/- The condition of a rule that is read already. -/
def emit
    (platform : Platform)
    (names : TargetNames)
    (rule : String)
    (e : Expr) :
    Except Failure String :=
  if e.compares then
    .ok (e.emit platform names)
  else
    .error
      (.emission rule "rule root is not a comparison")

/- The condition of a rule. -/
def translate
    (platform : Platform)
    (names : TargetNames)
    (rule : String) :
    Except Failure String :=
  match parse rule with
  | .error failure => .error failure
  | .ok e => emit platform names rule e

end Rule

end BarRules

------------------------------------------------------------
-- Rule Sets
------------------------------------------------------------

namespace BarRules

/- Rules in the order in which they are written. -/
structure RuleSet where
  rules : List String
  deriving DecidableEq

namespace RuleSet

/-
  The rules of a list with commas, without the blanks around
  them.  Entries that hold blanks only are left out.
-/
def ofList (text : String) : RuleSet where
  rules :=
    ((Text.pieces ',' text).map Text.trim).filter (· ≠ "")

/- The expressions of all rules, or the first failure. -/
def expressions (set : RuleSet) : Except Failure (List Expr) :=
  set.rules.mapM Rule.parse

/- The conditions of all rules, or the first failure. -/
def conditions
    (platform : Platform)
    (names : TargetNames)
    (set : RuleSet) :
    Except Failure (List String) :=
  set.rules.mapM (Rule.translate platform names)

/- One condition for the whole set. -/
def translate
    (platform : Platform)
    (names : TargetNames)
    (set : RuleSet) :
    Except Failure String :=
  match set.conditions platform names with
  | .error failure => .error failure
  | .ok conditions => Condition.conjoin platform conditions

/- The condition of the set on a platform, named with it. -/
def onPlatform
    (names : TargetNames)
    (set : RuleSet)
    (platform : Platform) :
    Except Failure (Platform × String) :=
  match translate platform names set with
  | .error failure => .error failure
  | .ok condition => .ok (platform, condition)

/- The conditions of the set on all platforms asked for. -/
def onPlatforms
    (names : TargetNames)
    (platform : Option Platform)
    (set : RuleSet) :
    Except Failure (List (Platform × String)) :=
  (Platform.orAll platform).mapM (onPlatform names set)

end RuleSet

end BarRules
