import BarRules.Text.Decimal

/-
  Prices of a bar.

  Key definitions include:
    * `BarRules.PriceField`
    * `BarRules.PriceField.keyword`
    * `BarRules.PriceField.ofKeyword?`
    * `BarRules.BarPrice`
    * `BarRules.BarPrice.text`

  A chart is a series of bars, each with an opening, a highest,
  a lowest and a closing price.  A rule refers to one of these
  prices of the bar that lies a number of bars back; the bar at
  offset 0 is the current one, which is still being formed.
-/

------------------------------------------------------------
-- Price Fields
------------------------------------------------------------

namespace BarRules

/- The four prices that a bar carries. -/
inductive PriceField where
  | opening
  | high
  | low
  | closing
  deriving DecidableEq

namespace PriceField

/- Every price field, in the order of a bar. -/
def all : List PriceField :=
  [.opening, .high, .low, .closing]

/- The word for a price field in a rule. -/
def keyword : PriceField → String
  | .opening => "OPEN"
  | .high => "HIGH"
  | .low => "LOW"
  | .closing => "CLOSE"

/- The price field that a word names, letter case included. -/
def ofKeyword? (word : String) : Option PriceField :=
  all.find? (fun field => field.keyword == word)

/- Every price field is listed. -/
theorem mem_all (field : PriceField) : field ∈ all := by
  cases field <;> simp [all]

/- A keyword names its own field. -/
theorem ofKeyword?_keyword (field : PriceField) :
    ofKeyword? field.keyword = some field := by
  cases field <;> decide

end PriceField

end BarRules

------------------------------------------------------------
-- Bar Prices
------------------------------------------------------------

namespace BarRules

/- A price field of the bar that lies `offset` bars back. -/
structure BarPrice where
  field : PriceField
  offset : UInt64
  deriving DecidableEq

namespace BarPrice

/- The bar price as a rule writes it. -/
def text (price : BarPrice) : String :=
  price.field.keyword ++ "[" ++
    Text.Decimal.text price.offset.toNat ++ "]"

end BarPrice

end BarRules
