import BarRules.Settings
import BarRules.Text.Lowercase
import BarRules.Text.Pieces

/-
  Settings written as an INI document.

  Key definitions include:
    * `BarRules.Ini.Line`
    * `BarRules.Ini.Line.ofText`
    * `BarRules.Ini.Fault`
    * `BarRules.Ini.Fault.message`
    * `BarRules.Ini.Document`
    * `BarRules.Ini.Document.parse`
    * `BarRules.Ini.Document.lookup`

  A document is a list of entries under headings.  Headings and
  keys are kept and looked up in lower case.  A value is taken
  as it stands, so that comment signs and delimiters after the
  first one belong to it.
-/

------------------------------------------------------------
-- Lines
------------------------------------------------------------

namespace BarRules

namespace Ini

/- What one line of a document says. -/
inductive Line where
  | blank
  | heading (name : String)
  | entry
      (key : String)
      (value : Option String)
  deriving DecidableEq

/- Why a line says nothing. -/
inductive Cause where
  | unclosedHeading
  | emptyKey
  deriving DecidableEq

/- A faulty line, counted from 1. -/
structure Fault where
  line : Nat
  cause : Cause
  deriving DecidableEq

namespace Fault

/-
  The wording of a fault.  An empty key is blamed on its
  delimiter, which is the first byte of the trimmed line.
-/
def message (fault : Fault) : String :=
  let line := Text.Decimal.text fault.line
  match fault.cause with
  | .unclosedHeading =>
      "line " ++ line ++
        ": Found opening bracket for section name but no " ++
        "closing bracket"
  | .emptyKey => "line " ++ line ++ ":0: Key cannot be empty"

end Fault

namespace Line

/- A name as it is kept: trimmed, and in lower case. -/
def name (cs : List Char) : String :=
  Text.lowercase (String.ofList (Text.trimChars cs))

/- A character that ends a key. -/
def isDelimiter (c : Char) : Bool :=
  c = '=' || c = ':'

/-
  A heading, given what follows its opening bracket.  The name
  ends at the last closing bracket.
-/
def ofHeading (cs : List Char) : Except Cause Line :=
  match cs.reverse.dropWhile (· ≠ ']') with
  | [] => .error .unclosedHeading
  | _ :: before => .ok (.heading (name before.reverse))

/-
  An entry.  Its key ends at the first delimiter; without any
  delimiter the whole line is a key that has no value.
-/
def ofEntry (cs : List Char) : Except Cause Line :=
  let key := cs.takeWhile (!isDelimiter ·)
  match cs.dropWhile (!isDelimiter ·) with
  | [] => .ok (.entry (name key) none)
  | _ :: value =>
      if Text.trimChars key = [] then
        .error .emptyKey
      else
        .ok
          (.entry (name key)
            (some (String.ofList (Text.trimChars value))))

/-
  What a line says, blanks at its ends skipped.  Lines that
  start with a semicolon or a hash are comments.
-/
def ofText (line : String) : Except Cause Line :=
  match Text.trimChars line.toList with
  | [] => .ok .blank
  | ';' :: _ => .ok .blank
  | '#' :: _ => .ok .blank
  | '[' :: rest => ofHeading rest
  | cs => ofEntry cs

end Line

end Ini

end BarRules

------------------------------------------------------------
-- Documents
------------------------------------------------------------

namespace BarRules

namespace Ini

/- A key under a heading, with its value if it has one. -/
structure Entry where
  heading : String
  key : String
  value : Option String
  deriving DecidableEq

/- The entries of a document, in the order of its lines. -/
structure Document where
  entries : List Entry
  deriving DecidableEq

namespace Document

/- The heading of the entries before any heading. -/
def defaultHeading : String := "default"

/-
  The entries of the lines from a line number on, under the
  heading that is in force there.
-/
def readLines
    (number : Nat)
    (heading : String) :
    List String → Except Fault (List Entry)
  | [] => .ok []
  | line :: rest =>
      match Line.ofText line with
      | .error cause => .error ⟨number, cause⟩
      | .ok .blank => readLines (number + 1) heading rest
      | .ok (.heading name) => readLines (number + 1) name rest
      | .ok (.entry key value) =>
          match readLines (number + 1) heading rest with
          | .error fault => .error fault
          | .ok entries =>
              .ok (⟨heading, key, value⟩ :: entries)

/-
  The document that a text holds.  Lines end at line feeds; a
  carriage return before one is a blank at the end of a line.
-/
def parse (text : String) : Except Fault Document :=
  match readLines 1 defaultHeading (Text.pieces '\n' text) with
  | .error fault => .error fault
  | .ok entries => .ok ⟨entries⟩

/-
  The value of the last entry for a key under a heading.  An
  entry without value makes the key absent again.
-/
def lookup
    (document : Document)
    (heading key : String) :
    Option String :=
  let heading := Text.lowercase heading
  let key := Text.lowercase key
  match document.entries.reverse.find?
      (fun entry => entry.heading == heading && entry.key == key)
    with
  | some entry => entry.value
  | none => none

/- The settings of a document. -/
def settings (document : Document) : Settings where
  lookup := document.lookup

end Document

end Ini

end BarRules
