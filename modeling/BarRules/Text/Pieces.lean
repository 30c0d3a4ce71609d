/-
  Cutting text at a character, and joining texts.

  Key definitions include:
    * `BarRules.Text.pieces`
    * `BarRules.Text.joinWith`
    * `BarRules.Text.concat`

  The pieces of a text are what stands before, between and
  after the places of the separator, so there is always one
  piece more than there are separators.
-/

------------------------------------------------------------
-- Cutting and Joining
------------------------------------------------------------

namespace BarRules

namespace Text

/- The parts of a text between the places of a separator. -/
def pieces
    (separator : Char)
    (s : String) :
    List String :=
  (s.toList.splitOn separator).map String.ofList

/- Texts in order, with a separator between neighbours. -/
def joinWith
    (separator : String) :
    List String → String
  | [] => ""
  | [s] => s
  | s :: rest => s ++ separator ++ joinWith separator rest

/- Texts in order, without anything between them. -/
def concat : List String → String
  | [] => ""
  | s :: rest => s ++ concat rest

end Text

end BarRules
