import BarRules.Calendar
import BarRules.Strategy

/-
  Files of conditions for a platform.

  Key definitions include:
    * `BarRules.ConditionFile.header`
    * `BarRules.ConditionFile.render`

  A file holds one line for each condition, under a comment
  with its label.  All platforms start comments with two
  slashes.
-/

------------------------------------------------------------
-- File Text
------------------------------------------------------------

namespace BarRules

namespace ConditionFile

/- The first line of a file: what it holds and when it came. -/
def header
    (strategy : Strategy)
    (platform : Platform)
    (seconds : Int) :
    String :=
  "// " ++ strategy.name ++ " (" ++ strategy.symbol ++
    ") conditions for " ++ platform.name ++ ", generated " ++
    Calendar.stamp seconds ++ "\n"

/- A condition under its label. -/
def paragraph (condition : LabelledCondition) : String :=
  "// " ++ condition.label ++ "\n" ++ condition.text ++ "\n"

/- The text of a file of conditions. -/
def render
    (strategy : Strategy)
    (platform : Platform)
    (conditions : List LabelledCondition)
    (seconds : Int) :
    String :=
  header strategy platform seconds ++
    Text.concat (conditions.map paragraph)

end ConditionFile

end BarRules
