import BarRules.Rule.Reader

/-
  Rules: comparisons of price arithmetic, written as text.

  Key definitions include:
    * `BarRules.Rule.ofTokens`
    * `BarRules.Rule.parse`

  A rule is scanned and then read.  Either step fails with the
  rule as it was given.
-/

------------------------------------------------------------
-- Reading Rules
------------------------------------------------------------

namespace BarRules

namespace Rule

/-
  The expression of tokens that come from a rule.  A rule
  without tokens is blamed on its start, and the operators are
  counted before anything is read.
-/
def ofTokens
    (tokens : List Token)
    (rule : String) :
    Except Failure Expr :=
  if tokens = [] then
    .error (refusal rule .emptyRule 0)
  else
    match excess Grammar.depthLimit tokens with
    | some token =>
        .error (refusal rule .tooManyOperators token.position)
    | none =>
        match side rule tokens with
        | .error failure => .error failure
        | .ok left => compared rule left.expr left.rest

/- The expression of a rule. -/
def parse (rule : String) : Except Failure Expr :=
  match scan rule with
  | .error fault =>
      .error (.scan fault.cause rule fault.position)
  | .ok tokens => ofTokens tokens rule

end Rule

end BarRules
