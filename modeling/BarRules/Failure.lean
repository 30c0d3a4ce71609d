import BarRules.Grammar.Cause
import BarRules.Token.Scan

/-
  What can go wrong, and how it is reported.

  Key definitions include:
    * `BarRules.Failure`
    * `BarRules.Failure.message`
    * `BarRules.Failure.context`
    * `BarRules.Failure.exitCode`

  Faults of a rule keep the rule and a byte position in it, so
  that a report can point at the place.
-/

------------------------------------------------------------
-- Failures
------------------------------------------------------------

namespace BarRules

/- The ways in which a request can fail. -/
inductive Failure where
  | scan
      (cause : ScanCause)
      (rule : String)
      (position : Nat)
  | grammar
      (kind : Grammar.Kind)
      (detail rule : String)
      (position : Nat)
  | emptyRuleSet
  | emission (rule reason : String)
  | unreadable (file reason : String)
  | missingSetting (heading key : String)
  | invalidSetting (heading key reason : String)
  | unknownPlatform (name : String)
  | system (reason : String)
  deriving DecidableEq

namespace Failure

/- The wording of a failure. -/
def message : Failure → String
  | .scan cause rule position =>
      "lex error at position " ++ Text.Decimal.text position ++
        " in rule '" ++ rule ++ "': " ++ cause.message
  | .grammar _ detail rule position =>
      "parse error at position " ++
        Text.Decimal.text position ++
        " in rule '" ++ rule ++ "': " ++ detail
  | .emptyRuleSet =>
      "rule set is empty: a condition needs at least one rule"
  | .emission rule reason =>
      "internal emission error for rule '" ++ rule ++ "': " ++
        reason
  | .unreadable file reason =>
      "config parse error in " ++ file ++ ": " ++ reason
  | .missingSetting heading key =>
      "missing config key [" ++ heading ++ "] " ++ key
  | .invalidSetting heading key reason =>
      "invalid config value [" ++ heading ++ "] " ++ key ++
        ": " ++ reason
  | .unknownPlatform name =>
      "unknown platform '" ++ name ++
        "' (expected mql4, mql5, pine or ctrader)"
  | .system reason => reason

/-
  The exit status of a failed run: 1 for the file system, 2 for
  settings, 4 for rules, 5 for a condition that is none.
-/
def exitCode : Failure → Nat
  | .system _ => 1
  | .unreadable _ _ => 2
  | .missingSetting _ _ => 2
  | .invalidSetting _ _ _ => 2
  | .unknownPlatform _ => 2
  | .scan _ _ _ => 4
  | .grammar _ _ _ _ => 4
  | .emptyRuleSet => 4
  | .emission _ _ => 5

end Failure

end BarRules

------------------------------------------------------------
-- Places in a Rule
------------------------------------------------------------

namespace BarRules

namespace Failure

/- What stands under a character to keep the column. -/
def padChar (c : Char) : Char :=
  if c = '\t' then '\t' else ' '

/-
  What stands before the caret under a rule: one character for
  each character before the position.  A position that is not a
  character boundary of the rule is padded by its number.
-/
def caretPad
    (rule : String)
    (position : Nat) :
    String :=
  match Text.charsBefore? rule.toList position with
  | some before => String.ofList (before.map padChar)
  | none => String.ofList (List.replicate position ' ')

/- The rule, a caret under the position, and a message. -/
def pointAt
    (rule : String)
    (position : Nat)
    (message : String) :
    String :=
  rule ++ "\n" ++ caretPad rule position ++ "^\n" ++ message

/- A failure with its place, if it has one in a rule. -/
def context (failure : Failure) : String :=
  match failure with
  | .scan _ rule position =>
      pointAt rule position failure.message
  | .grammar _ _ rule position =>
      pointAt rule position failure.message
  | _ => failure.message

end Failure

end BarRules
