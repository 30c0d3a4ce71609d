import BarRules.Token

/-
  Why tokens do not make a rule.

  Key definitions include:
    * `BarRules.Grammar.depthLimit`
    * `BarRules.Grammar.Kind`
    * `BarRules.Grammar.Cause`
    * `BarRules.Grammar.Cause.kind`
    * `BarRules.Grammar.Cause.message`

  A cause belongs to a family and has a wording, which names
  the tokens that it is about.
-/

------------------------------------------------------------
-- Causes
------------------------------------------------------------

namespace BarRules

namespace Grammar

/-
  The deepest nesting of parentheses, and the largest number
  of arithmetic operators, that a rule may have.
-/
def depthLimit : Nat := 256

/- The families of grammar faults. -/
inductive Kind where
  | missingComparison
  | multipleComparisons
  | nestedComparison
  | unbalancedParens
  | trailingInput
  | emptyOperand
  | tooDeep
  deriving DecidableEq

/- What is wrong with a list of tokens. -/
inductive Cause where
  | emptyRule
  | tooManyOperators
  | tooManyParens
  | operandExpected (found : Option TokenKind)
  | offsetExpected
      (field : PriceField)
      (found : Option TokenKind)
  | emptyParens
  | comparisonInParens (op : Comparison)
  | unclosedParen
  | closeExpected (found : TokenKind)
  | strayClose
  | comparisonExpected (found : TokenKind)
  | noComparison
  | secondComparison (first second : Comparison)
  | trailing (found : TokenKind)
  deriving DecidableEq

namespace Cause

/- The family of a cause. -/
def kind : Cause → Kind
  | .emptyRule => .emptyOperand
  | .tooManyOperators => .tooDeep
  | .tooManyParens => .tooDeep
  | .operandExpected _ => .emptyOperand
  | .offsetExpected _ _ => .emptyOperand
  | .emptyParens => .emptyOperand
  | .comparisonInParens _ => .nestedComparison
  | .unclosedParen => .unbalancedParens
  | .closeExpected _ => .unbalancedParens
  | .strayClose => .unbalancedParens
  | .comparisonExpected _ => .missingComparison
  | .noComparison => .missingComparison
  | .secondComparison _ _ => .multipleComparisons
  | .trailing _ => .trailingInput

/- The wording of a cause. -/
def message : Cause → String
  | .emptyRule => "empty rule"
  | .tooManyOperators =>
      "rule has more than " ++ Text.Decimal.text depthLimit ++
        " arithmetic operators"
  | .tooManyParens =>
      "parentheses nest deeper than " ++
        Text.Decimal.text depthLimit ++ " levels"
  | .operandExpected found =>
      "expected price reference, found " ++
        TokenKind.nextInWords found
  | .offsetExpected field found =>
      "expected offset after " ++ field.keyword ++
        ", found " ++ TokenKind.nextInWords found
  | .emptyParens => "empty parentheses"
  | .comparisonInParens op =>
      "comparison '" ++ op.symbol ++
        "' is not allowed inside parentheses"
  | .unclosedParen => "unclosed '('"
  | .closeExpected found =>
      "expected ')', found " ++ found.inWords
  | .strayClose => "unmatched ')'"
  | .comparisonExpected found =>
      "expected comparison operator, found " ++ found.inWords
  | .noComparison => "rule has no comparison operator"
  | .secondComparison first second =>
      "rule already has comparison '" ++ first.symbol ++
        "', found another '" ++ second.symbol ++ "'"
  | .trailing found =>
      "unexpected input after rule: " ++ found.inWords

end Cause

end Grammar

end BarRules
