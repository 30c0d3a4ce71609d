import BarRules.Operator
import BarRules.Price

/-
  Tokens of rule text.

  Key definitions include:
    * `BarRules.TokenKind`
    * `BarRules.TokenKind.inWords`
    * `BarRules.Token`

  A price keyword and its bracketed offset are two tokens.  The
  position of a token is the byte position of its first
  character in the rule; an offset starts at its bracket.
-/

------------------------------------------------------------
-- Tokens
------------------------------------------------------------

namespace BarRules

/- What a token is, wherever it stands. -/
inductive TokenKind where
  | price (field : PriceField)
  | offset (bars : UInt64)
  | operator (op : Operator)
  | openParen
  | closeParen
  deriving DecidableEq

namespace TokenKind

/- A token as messages name it. -/
def inWords : TokenKind → String
  | .price field => field.keyword
  | .offset bars =>
      "offset [" ++ Text.Decimal.text bars.toNat ++ "]"
  | .operator op => "'" ++ op.symbol ++ "'"
  | .openParen => "'('"
  | .closeParen => "')'"

/- A token, or the end of the rule, as messages name it. -/
def nextInWords : Option TokenKind → String
  | some kind => kind.inWords
  | none => "end of input"

end TokenKind

/- A token and where it starts. -/
structure Token where
  kind : TokenKind
  position : Nat
  deriving DecidableEq

end BarRules
