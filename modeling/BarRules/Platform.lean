import BarRules.Failure
import BarRules.Text.Lowercase

/-
  The charting platforms that conditions are written for.

  Key definitions include:
    * `BarRules.Platform`
    * `BarRules.Platform.ofName`
    * `BarRules.Platform.referenceStyle`
    * `BarRules.Platform.priceWord`
    * `BarRules.Platform.sign`
    * `BarRules.Platform.conjunction`
    * `BarRules.Platform.fileName`

  MetaTrader 4 indexes price arrays, MetaTrader 5 calls a
  function for each price, Pine Script takes offsets into a
  series, and cTrader asks a collection of bars.
-/

------------------------------------------------------------
-- Platforms and Their Names
------------------------------------------------------------

namespace BarRules

/- A platform that conditions are written for. -/
inductive Platform where
  | mql4
  | mql5
  | pine
  | ctrader
  deriving DecidableEq

namespace Platform

/- Every platform, in the order of output. -/
def all : List Platform :=
  [.mql4, .mql5, .pine, .ctrader]

/- The name that reports use. -/
def name : Platform → String
  | .mql4 => "mql4"
  | .mql5 => "mql5"
  | .pine => "pine"
  | .ctrader => "ctrader"

/- The names that a request may use. -/
def names : Platform → List String
  | .mql4 => ["mql4", "mq4"]
  | .mql5 => ["mql5", "mq5"]
  | .pine => ["pine", "pinescript"]
  | .ctrader => ["ctrader", "cs", "csharp"]

/-
  The platform that a text names, whatever its letter case and
  the blanks around it.
-/
def ofName (text : String) : Except Failure Platform :=
  let name := Text.lowercase (Text.trim text)
  match all.find? (fun p => p.names.contains name) with
  | some platform => .ok platform
  | none => .error (.unknownPlatform text)

/- One platform that is asked for, or else every platform. -/
def orAll : Option Platform → List Platform
  | some platform => [platform]
  | none => all

end Platform

end BarRules

------------------------------------------------------------
-- Spelling
------------------------------------------------------------

namespace BarRules

/- How a platform refers to the price of a bar. -/
inductive ReferenceStyle where
  | arrayIndex
  | functionCall
  | bracketOffset
  | methodChain
  deriving DecidableEq

namespace Platform

/- The way in which a platform refers to prices. -/
def referenceStyle : Platform → ReferenceStyle
  | .mql4 => .arrayIndex
  | .mql5 => .functionCall
  | .pine => .bracketOffset
  | .ctrader => .methodChain

/- The word of a platform for a price field. -/
def priceWord : Platform → PriceField → String
  | .mql4, .opening => "Open"
  | .mql4, .high => "High"
  | .mql4, .low => "Low"
  | .mql4, .closing => "Close"
  | .mql5, .opening => "Open"
  | .mql5, .high => "High"
  | .mql5, .low => "Low"
  | .mql5, .closing => "Close"
  | .pine, .opening => "open"
  | .pine, .high => "high"
  | .pine, .low => "low"
  | .pine, .closing => "close"
  | .ctrader, .opening => "OpenPrices"
  | .ctrader, .high => "HighPrices"
  | .ctrader, .low => "LowPrices"
  | .ctrader, .closing => "ClosePrices"

/- The arithmetic of C, which the platforms take over. -/
def arithmeticOfC : Arithmetic → String
  | .add => "+"
  | .subtract => "-"
  | .multiply => "*"
  | .divide => "/"

/- The comparisons of C, which the platforms take over. -/
def comparisonOfC : Comparison → String
  | .less => "<"
  | .greater => ">"
  | .atMost => "<="
  | .atLeast => ">="
  | .equal => "=="
  | .unequal => "!="

/- The arithmetic of a platform. -/
def arithmetic : Platform → Arithmetic → String
  | .mql4 => arithmeticOfC
  | .mql5 => arithmeticOfC
  | .pine => arithmeticOfC
  | .ctrader => arithmeticOfC

/- The comparisons of a platform. -/
def comparison : Platform → Comparison → String
  | .mql4 => comparisonOfC
  | .mql5 => comparisonOfC
  | .pine => comparisonOfC
  | .ctrader => comparisonOfC

/- How a platform writes an operator. -/
def sign (platform : Platform) : Operator → String
  | .arith op => platform.arithmetic op
  | .compare op => platform.comparison op

/- Every platform writes operators as rules do. -/
theorem sign_eq_symbol
    (platform : Platform)
    (op : Operator) :
    platform.sign op = op.symbol := by
  cases op with
  | arith op => cases platform <;> cases op <;> rfl
  | compare op => cases platform <;> cases op <;> rfl

/- The operator that joins conditions which must all hold. -/
def conjunction : Platform → String
  | .mql4 => "&&"
  | .mql5 => "&&"
  | .pine => "and"
  | .ctrader => "&&"

end Platform

end BarRules

------------------------------------------------------------
-- Files
------------------------------------------------------------

namespace BarRules

namespace Platform

/- The extension of the source files of a platform. -/
def extension : Platform → String
  | .mql4 => "mq4"
  | .mql5 => "mq5"
  | .pine => "pine"
  | .ctrader => "cs"

/-
  The name of a file of conditions for a traded symbol, made at
  a time in milliseconds.
-/
def fileName
    (platform : Platform)
    (symbol : String)
    (millis : Int) :
    String :=
  "Strategy_" ++ symbol ++ "_" ++ Text.Decimal.signed millis ++
    "." ++ platform.extension

end Platform

end BarRules
