/-
  Decimal numerals.

  Key definitions include:
    * `BarRules.Text.Decimal.text`
    * `BarRules.Text.Decimal.signed`
    * `BarRules.Text.Decimal.padded`
    * `BarRules.Text.Decimal.word?`

  Numbers are written without leading zeros, and read with or
  without them.
-/

------------------------------------------------------------
-- Writing
------------------------------------------------------------

namespace BarRules

namespace Text

namespace Decimal

/- The decimal numeral of a natural number. -/
def text (n : Nat) : String :=
  String.ofList (Nat.toDigits 10 n)

/- The decimal numeral of an integer, negative with a minus. -/
def signed (i : Int) : String :=
  if i < 0 then
    "-" ++ text i.natAbs
  else
    text i.natAbs

/- The numeral with zeros in front up to a least width. -/
def padded
    (width n : Nat) :
    String :=
  let digits := Nat.toDigits 10 n
  String.ofList
    (List.replicate (width - digits.length) '0' ++ digits)

end Decimal

end Text

end BarRules

------------------------------------------------------------
-- Reading
------------------------------------------------------------

namespace BarRules

namespace Text

namespace Decimal

/- The number that decimal digits stand for. -/
def value (digits : List Char) : Nat :=
  Nat.ofDigitChars 10 digits 0

/- The number that the digits stand for, if 64 bits hold it. -/
def word? (digits : List Char) : Option UInt64 :=
  if value digits < UInt64.size then
    some (UInt64.ofNat (value digits))
  else
    none

end Decimal

end Text

end BarRules
