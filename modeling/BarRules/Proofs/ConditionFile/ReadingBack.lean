import BarRules.ConditionFile
import BarRules.Proofs.Ini.Values
import BarRules.Proofs.RuleSet.Containment
import BarRules.Proofs.Settings.Guards
import BarRules.Proofs.Settings.RoundTrip

/-
  Files of conditions are read back.

  Key definitions include:
    * `BarRules.ConditionFile.IsComment`
    * `BarRules.ConditionFile.Legible`
    * `BarRules.ConditionFile.lines`
    * `BarRules.ConditionFile.readBack`

  Key theorems include:
    * `BarRules.RuleSet.contained_of_translate`
    * `BarRules.ConditionFile.pieces_render`
    * `BarRules.ConditionFile.underComments_conditionLines`
    * `BarRules.ConditionFile.legible_of_translate`
    * `BarRules.ConditionFile.readBack_render`

  Names and symbols are free text, but each is a part of one
  line of a document, so it cannot end the comment that it is
  written into.  Conditions are not empty and hold no sign of a
  comment, so none of them is taken for one.
-/

------------------------------------------------------------
-- Times
------------------------------------------------------------

namespace BarRules

open Text

/- Numerals of a least width consist of digits. -/
theorem Text.madeOf_padded (width n : Nat) :
    MadeOf (fun c => c.isDigit = true)
      (Decimal.padded width n) := by
  intro c hC
  rw [Decimal.padded, String.toList_ofList] at hC
  rcases List.mem_append.mp hC with hZero | hDigit
  · rw [List.eq_of_mem_replicate hZero]
    decide
  · exact
      Nat.isDigit_of_mem_toDigits (by decide) (by decide) hDigit

namespace Calendar

/- A time consists of digits, blanks and a few signs. -/
theorem lineFeed_not_mem_stamp (seconds : Int) :
    '\n' ∉ (stamp seconds).toList := by
  have hPadded (width n : Nat) :
      MadeOf (· ≠ '\n') (Decimal.padded width n) := by
    refine (madeOf_padded width n).mono ?_
    rintro c hDigit rfl
    exact absurd hDigit (by decide)
  have hYear (year : Int) :
      MadeOf (· ≠ '\n') (Date.yearText year) := by
    unfold Date.yearText
    split
    · exact (madeOf_append ..).mpr ⟨by decide, hPadded _ _⟩
    · split
      · exact hPadded _ _
      · exact (madeOf_append ..).mpr ⟨by decide, hPadded _ _⟩
  have hStamp : MadeOf (· ≠ '\n') (stamp seconds) := by
    simp only [stamp, Date.text, timeText, madeOf_append,
      hYear, hPadded, true_and, and_true]
    decide
  exact fun hMem => hStamp '\n' hMem rfl

end Calendar

end BarRules

------------------------------------------------------------
-- Conditions of Strategies
------------------------------------------------------------

namespace BarRules

open Text

variable {names : TargetNames}
variable {platform : Platform}

/- The condition of a set is contained text. -/
theorem RuleSet.contained_of_translate
    (hNames : names.check = .ok ())
    {set : RuleSet}
    {text : String}
    (hText : set.translate platform names = .ok text) :
    Contained text := by
  have hSeparator : Harmless (Condition.separator platform) := by
    apply harmless_of_madeOf
    cases platform <;> decide
  refine of_translate ?_ ?_ hText
  · intro front back hFront hBack
    exact hFront.between hSeparator hBack
  · exact Expr.contained_emit hNames platform

/- A condition of a strategy is that of a set under its label. -/
theorem Strategy.exists_presentSet
    {strategy : Strategy}
    {conditions : List LabelledCondition}
    (h : strategy.translate platform names = .ok conditions)
    {condition : LabelledCondition}
    (hMem : condition ∈ conditions) :
    ∃ set,
      (condition.label, set) ∈ strategy.presentSets ∧
        set.translate platform names = .ok condition.text := by
  have hPair :
      (condition.label, Except.ok condition.text) ∈
        conditions.map (fun other =>
          (other.label,
            (Except.ok other.text : Except Failure String))) :=
    List.mem_map.mpr ⟨condition, hMem, rfl⟩
  rw [← (translate_eq_ok_iff ..).mp h] at hPair
  rcases List.mem_map.mp hPair with ⟨⟨label, set⟩, hSet, hSame⟩
  rw [Prod.mk.injEq] at hSame
  exact ⟨set, hSame.1 ▸ hSet, hSame.2⟩

/- The labels are four words. -/
theorem Strategy.lineFeed_not_mem_label
    {strategy : Strategy}
    {label : String}
    {set : RuleSet}
    (h : (label, set) ∈ strategy.presentSets) :
    '\n' ∉ label.toList := by
  have hWords :
      ∀ word ∈
          ["entry_long", "exit_long", "entry_short",
            "exit_short"],
        '\n' ∉ word.toList := by
    decide
  rcases List.mem_filterMap.mp h with ⟨slot, hSlot, hSet⟩
  rcases Option.map_eq_some_iff.mp hSet with ⟨_, _, hSame⟩
  rw [← (Prod.mk.inj hSame).1]
  exact hWords slot.1 (List.mem_map_of_mem (f := Prod.fst) hSlot)

end BarRules

------------------------------------------------------------
-- Lines of a File
------------------------------------------------------------

namespace BarRules

namespace ConditionFile

/- A line that the target platforms take for a comment. -/
def IsComment (line : String) : Prop :=
  "//".toList <+: line.toList

instance (line : String) : Decidable (IsComment line) :=
  inferInstanceAs (Decidable (_ <+: _))

/- A condition whose lines can be told apart in a file. -/
structure Legible (condition : LabelledCondition) : Prop where
  label : '\n' ∉ condition.label.toList
  single : '\n' ∉ condition.text.toList
  nonempty : condition.text ≠ ""
  code : ¬ IsComment condition.text

/- The first line of a file, without its end. -/
def headerLine
    (strategy : Strategy)
    (platform : Platform)
    (seconds : Int) :
    String :=
  "// " ++ strategy.name ++ " (" ++ strategy.symbol ++
    ") conditions for " ++ platform.name ++ ", generated " ++
    Calendar.stamp seconds

/- The line feed is all that a header has beyond its line. -/
theorem header_eq
    (strategy : Strategy)
    (platform : Platform)
    (seconds : Int) :
    header strategy platform seconds =
      headerLine strategy platform seconds ++ "\n" :=
  rfl

/- The lines of a condition, the first of which is a comment. -/
def conditionLines (condition : LabelledCondition) :
    List String :=
  ["// " ++ condition.label, condition.text]

/- The lines of a file, without their ends. -/
def lines
    (strategy : Strategy)
    (platform : Platform)
    (conditions : List LabelledCondition)
    (seconds : Int) :
    List String :=
  headerLine strategy platform seconds ::
    conditions.flatMap conditionLines

variable {strategy : Strategy}
variable {platform : Platform}
variable {conditions : List LabelledCondition}

/- Conditions have two lines each. -/
theorem length_lines (seconds : Int) :
    (lines strategy platform conditions seconds).length =
      1 + 2 * conditions.length := by
  have hTwo :
      (conditions.flatMap conditionLines).length =
        2 * conditions.length := by
    induction conditions with
    | nil => rfl
    | cons condition conditions ih =>
        rw [List.flatMap_cons, List.length_append, ih,
          List.length_cons, conditionLines]
        simp only [List.length_cons, List.length_nil]
        omega
  rw [lines, List.length_cons, hTwo, Nat.add_comm]

/- The paragraphs of a file are made of its lines. -/
theorem concat_paragraphs
    (conditions : List LabelledCondition) :
    Text.concat (conditions.map paragraph) =
      Text.concat
        ((conditions.flatMap conditionLines).map
          (· ++ "\n")) := by
  induction conditions with
  | nil => rfl
  | cons condition conditions ih =>
      rw [List.map_cons, Text.concat, ih, List.flatMap_cons,
        List.map_append]
      simp only [conditionLines, paragraph, List.map_cons,
        List.map_nil, List.cons_append, List.nil_append,
        Text.concat, String.append_assoc]

/- No line of a file holds the end of a line. -/
theorem lineFeed_not_mem_lines
    (hName : '\n' ∉ strategy.name.toList)
    (hSymbol : '\n' ∉ strategy.symbol.toList)
    (hLegible : ∀ condition ∈ conditions, Legible condition)
    (seconds : Int) :
    ∀ line ∈ lines strategy platform conditions seconds,
      '\n' ∉ line.toList := by
  have hPlatform : '\n' ∉ platform.name.toList := by
    cases platform <;> decide
  have hStamp := Calendar.lineFeed_not_mem_stamp seconds
  intro line hLine
  rcases List.mem_cons.mp hLine with rfl | hMem
  · simp [headerLine, hName, hSymbol, hPlatform, hStamp]
  · rcases List.mem_flatMap.mp hMem with
      ⟨condition, hCondition, hPart⟩
    have hFacts := hLegible condition hCondition
    simp only [conditionLines, List.mem_cons, List.not_mem_nil,
      or_false] at hPart
    rcases hPart with rfl | rfl
    · simp [hFacts.label]
    · exact hFacts.single

/- The pieces of a file are its lines and nothing after them. -/
theorem pieces_render
    (hName : '\n' ∉ strategy.name.toList)
    (hSymbol : '\n' ∉ strategy.symbol.toList)
    (hLegible : ∀ condition ∈ conditions, Legible condition)
    (seconds : Int) :
    Text.pieces '\n'
        (render strategy platform conditions seconds) =
      lines strategy platform conditions seconds ++ [""] := by
  have hText :
      render strategy platform conditions seconds =
        Text.concat
          ((lines strategy platform conditions seconds).map
            (· ++ "\n")) := by
    rw [render, header_eq, concat_paragraphs, lines,
      List.map_cons, Text.concat]
  rw [hText]
  exact
    Text.pieces_lines
      (lineFeed_not_mem_lines hName hSymbol hLegible seconds)

end ConditionFile

end BarRules

------------------------------------------------------------
-- Reading Lines
------------------------------------------------------------

namespace BarRules

namespace ConditionFile

/- The text of a comment, behind its slashes and a blank. -/
def commentText (line : String) : String :=
  String.ofList (line.toList.drop 3)

/-
  What lines say that are neither empty nor comments, each
  under the text of the nearest comment above it.
-/
def underComments (comment : String) :
    List String → List LabelledCondition
  | [] => []
  | line :: rest =>
      if IsComment line then
        underComments (commentText line) rest
      else if line = "" then
        underComments comment rest
      else
        ⟨comment, line⟩ :: underComments comment rest

/- The conditions of a file under their labels. -/
def readBack (file : String) : List LabelledCondition :=
  underComments "" (Text.pieces '\n' file)

variable {conditions : List LabelledCondition}

/- A line behind two slashes and a blank is a comment. -/
theorem isComment_append (text : String) :
    IsComment ("// " ++ text) := by
  rw [IsComment, String.toList_append]
  exact ⟨' ' :: text.toList, rfl⟩

/- A comment is read without what it starts with. -/
theorem commentText_append (text : String) :
    commentText ("// " ++ text) = text := by
  rw [commentText, String.toList_append]
  exact String.ofList_toList

/- Conditions are read from their lines. -/
theorem underComments_conditionLines
    (hLegible : ∀ condition ∈ conditions, Legible condition)
    (comment : String) :
    underComments comment
        (conditions.flatMap conditionLines ++ [""]) =
      conditions := by
  -- What a condition is read under is the comment before it, so
  -- the comment that is in force here may be any.
  induction conditions generalizing comment with
  | nil =>
      rw [List.flatMap_nil, List.nil_append, underComments,
        if_neg (by decide), if_pos rfl, underComments]
  | cons condition conditions ih =>
      have hFacts := hLegible condition List.mem_cons_self
      have hOthers : ∀ other ∈ conditions, Legible other :=
        fun other hMem =>
          hLegible other (List.mem_cons_of_mem condition hMem)
      rw [List.flatMap_cons, conditionLines]
      simp only [List.cons_append, List.nil_append]
      rw [underComments, if_pos (isComment_append _),
        commentText_append, underComments,
        if_neg hFacts.code, if_neg hFacts.nonempty,
        ih hOthers]

end ConditionFile

end BarRules

------------------------------------------------------------
-- Reading Back
------------------------------------------------------------

namespace BarRules

namespace ConditionFile

open Text

variable {text : String}
variable {document : Ini.Document}
variable {strategy : Strategy}
variable {names : TargetNames}
variable {platform : Platform}
variable {conditions : List LabelledCondition}

/- Conditions with checked names can be told apart in a file. -/
theorem legible_of_translate
    (hNames : names.check = .ok ())
    (h : strategy.translate platform names = .ok conditions) :
    ∀ condition ∈ conditions, Legible condition := by
  intro condition hMem
  rcases Strategy.exists_presentSet h hMem with
    ⟨set, hSet, hText⟩
  have hContained := RuleSet.contained_of_translate hNames hText
  constructor
  case label => exact Strategy.lineFeed_not_mem_label hSet
  case single =>
    exact RuleSet.lineFeed_not_mem_of_translate hNames hText
  case nonempty => exact hContained.bordered.1
  case code =>
    -- Marks of comments never meet, not even at the start.
    intro hComment
    have hApart :=
      List.IsChain.infix hContained.harmless.apart
        hComment.isInfix
    exact absurd hApart (by decide)

/-
  The file of a strategy that was loaded is read back, whatever
  its name and its symbol hold.  Cut at the ends of lines, it
  consists of a comment, two lines for each condition, and
  nothing after them.  The first of the two is the label as a
  comment, the second one is the condition, which is neither
  empty nor a comment.  So the conditions are found again under
  their labels by one who does not know the strategy.
-/
theorem readBack_render
    (hParsed : Ini.Document.parse text = .ok document)
    (hLoaded : document.settings.load = .ok (strategy, names))
    (hTranslated :
      strategy.translate platform names = .ok conditions)
    (seconds : Int) :
    let file := render strategy platform conditions seconds
    (∃ first,
      "// ".toList <+: first.toList ∧
        pieces '\n' file =
          first ::
            conditions.flatMap
              (fun condition =>
                ["// " ++ condition.label, condition.text]) ++
            [""]) ∧
    (pieces '\n' file).length = 1 + 2 * conditions.length + 1 ∧
    (∀ condition ∈ conditions,
      condition.text ≠ "" ∧
        ¬ "//".toList <+: condition.text.toList) ∧
    readBack file = conditions := by
  intro file
  rcases Settings.load_eq_ok_iff.mp hLoaded with
    ⟨_, hChecked, hBuilt, rfl⟩
  have hNames :=
    Settings.check_targetNames_of_checkNames hChecked
  have hLegible := legible_of_translate hNames hTranslated
  rcases Settings.lineFeed_not_mem_of_strategy hParsed
      hBuilt with
    ⟨hName, hSymbol⟩
  have hLines :
      pieces '\n' file =
        lines strategy platform conditions seconds ++ [""] :=
    pieces_render hName hSymbol hLegible seconds
  refine ⟨?_, ?_, ?_, ?_⟩
  · refine
      ⟨headerLine strategy platform seconds, ?_, hLines⟩
    simp only [headerLine, String.toList_append,
      List.append_assoc]
    exact List.prefix_append _ _
  · rw [hLines, List.length_append, length_lines]
    rfl
  · intro condition hMem
    have hFacts := hLegible condition hMem
    exact ⟨hFacts.nonempty, hFacts.code⟩
  · have hHeader :
        IsComment (headerLine strategy platform seconds) := by
      simp only [headerLine, String.append_assoc]
      exact isComment_append _
    rw [readBack, hLines, lines, List.cons_append,
      underComments, if_pos hHeader]
    exact underComments_conditionLines hLegible _

/-
  A name that looks like a label of a condition stays in the
  first line, and a quotient is no comment.
-/
theorem readBack_render_slashes :
    let text :=
      "[strategy]\nname = // entry_long\nsymbol = EURUSD\n" ++
        "entry_long = HIGH[0]/LOW[2] > OPEN[1]\n" ++
        "exit_long = CLOSE[0] < LOW[1]\n" ++
        "[emit]\nseries = Daily\n"
    let strategy : Strategy :=
      { name := "// entry_long"
        symbol := "EURUSD"
        entryLong := ⟨["HIGH[0]/LOW[2] > OPEN[1]"]⟩
        exitLong := ⟨["CLOSE[0] < LOW[1]"]⟩ }
    let names : TargetNames := { series := "Daily" }
    let conditions : List LabelledCondition :=
      [⟨"entry_long",
          "(Daily.HighPrices.Last(0) / " ++
            "Daily.LowPrices.Last(2)) > " ++
            "Daily.OpenPrices.Last(1)"⟩,
        ⟨"exit_long",
          "Daily.ClosePrices.Last(0) < " ++
            "Daily.LowPrices.Last(1)"⟩]
    let file := render strategy .ctrader conditions 0
    (∃ document,
      Ini.Document.parse text = .ok document ∧
        document.settings.load = .ok (strategy, names)) ∧
    strategy.translate .ctrader names = .ok conditions ∧
    (pieces '\n' file).length = 6 ∧
    readBack file = conditions := by
  intro text strategy names conditions file
  have hWritable : strategy.Writable :=
    ⟨by decide +kernel, by decide +kernel, by decide +kernel⟩
  have hNames : GivenNames.Valid { series := some "Daily" } := by
    decide
  rcases Strategy.exists_load_of_written hWritable (by decide)
      hNames (List.Perm.refl _) (List.Perm.refl _)
      (Or.inr rfl) with
    ⟨document, hWritten, hLoaded⟩
  have hParsed : Ini.Document.parse text = .ok document := by
    rw [← hWritten]
    congr 1
  have hTranslated :
      strategy.translate .ctrader names = .ok conditions := by
    decide +kernel
  rcases readBack_render hParsed hLoaded hTranslated 0 with
    ⟨_, hLength, _, hRead⟩
  exact
    ⟨⟨document, hParsed, hLoaded⟩, hTranslated, hLength, hRead⟩

end ConditionFile

end BarRules
