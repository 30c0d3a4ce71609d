import BarRules.Proofs.Target.Reader

/-
  Emitted text is read back as the expression that it was
  written from, under every table of precedences.

  Key definitions include:
    * `BarRules.Target.Follows`
    * `BarRules.Target.Reads`
    * `BarRules.Target.operandTerms`

  Key theorems include:
    * `BarRules.Target.reads_spell`
    * `BarRules.Target.reads_emit`
    * `BarRules.Target.run_operandTerms`
    * `BarRules.Target.groups_treeTerms_iff`
    * `BarRules.Expr.read_emit`

  Every operand of an operator is a price or stands in
  parentheses, so no two operators ever compete for an operand
  and the table is never asked.
-/

------------------------------------------------------------
-- Names
------------------------------------------------------------

namespace BarRules

/- Target names pass if all of them are identifiers. -/
theorem TargetNames.check_eq_ok_iff (names : TargetNames) :
    names.check = .ok () ↔
      isTargetName names.symbol = true ∧
        isTargetName names.period = true ∧
        isTargetName names.series = true := by
  unfold TargetNames.check checkTargetName
  cases isTargetName names.symbol <;>
    cases isTargetName names.period <;>
    simp

namespace Target

/- The words of a platform are identifiers. -/
theorem isTargetName_priceWord
    (platform : Platform)
    (field : PriceField) :
    isTargetName (platform.priceWord field) = true := by
  cases platform <;> cases field <;> decide

/- The functions that give prices are identifiers. -/
theorem isTargetName_priceFunction
    (platform : Platform)
    (field : PriceField) :
    isTargetName ("i" ++ platform.priceWord field) = true := by
  cases platform <;> cases field <;> decide

end Target

end BarRules

------------------------------------------------------------
-- Texts in Front of Texts
------------------------------------------------------------

namespace BarRules

namespace Target

/- A price is not prolonged by the marks. -/
def EndsPrice (found : List Mark) : Prop :=
  ∀ mark, found.head? = some mark →
    mark = .closeParen ∨ ∃ op, mark = .operator op

/-
  The text consists of these terms and may follow an operand.
-/
structure Follows
    (platform : Platform)
    (text : List Char)
    (ts : List Term) :
    Prop where
  breaks : Breaks text
  consists :
    ∃ found,
      marks text = some found ∧
        EndsPrice found ∧
        terms platform found = some ts

/- The text stands for these terms in front of what follows. -/
def Reads
    (platform : Platform)
    (text : List Char)
    (ts : List Term) :
    Prop :=
  ∀ rest tail,
    Follows platform rest tail →
      readTerms platform (text ++ rest) = some (ts ++ tail)

variable {platform : Platform}

/- The end of the text may follow an operand. -/
theorem follows_nil : Follows platform [] [] where
  breaks := breaks_nil
  consists := ⟨[], by rw [marks], by simp [EndsPrice], rfl⟩

/- A closing parenthesis may follow an operand. -/
theorem follows_closeParen
    {rest : List Char}
    {tail : List Term}
    (h : Follows platform rest tail) :
    Follows platform (')' :: rest) (.closeParen :: tail) := by
  rcases h.consists with ⟨found, hMarks, _, hTerms⟩
  refine
    ⟨closeParen_punctuates.breaks rest, .closeParen :: found,
      ?_, by simp [EndsPrice], ?_⟩
  · rw [closeParen_punctuates.marks_eq, hMarks]
    rfl
  · simp [terms, hTerms]

/- An operator between blanks may follow an operand. -/
theorem follows_operator
    (op : Operator)
    {text : List Char}
    {ts : List Term}
    (h : readTerms platform text = some ts) :
    Follows platform
      (' ' :: (op.symbol.toList ++ ' ' :: text))
      (.operator op :: ts) := by
  rcases Option.bind_eq_some_iff.mp h with
    ⟨found, hMarks, hTerms⟩
  refine
    ⟨(breaks_cons ..).mpr (by decide), .operator op :: found,
      ?_, by simp [EndsPrice], ?_⟩
  · rw [marks_space, marks_operator, hMarks]
    rfl
  · simp [terms, hTerms]

/- Two operands around an operator. -/
theorem Reads.binary
    (op : Operator)
    {left right : List Char}
    {front back : List Term}
    (hLeft : Reads platform left front)
    (hRight : Reads platform right back) :
    Reads platform
      (left ++ ' ' :: (op.symbol.toList ++ ' ' :: right))
      (front ++ .operator op :: back) := by
  intro rest tail hRest
  have hBack := hRight rest tail hRest
  have hFront := hLeft _ _ (follows_operator op hBack)
  simpa using hFront

/- Parentheses around a text. -/
theorem Reads.parens
    {text : List Char}
    {ts : List Term}
    (h : Reads platform text ts) :
    Reads platform ('(' :: text ++ [')'])
      (.openParen :: ts ++ [.closeParen]) := by
  intro rest tail hRest
  have hInner := h _ _ (follows_closeParen hRest)
  rcases Option.bind_eq_some_iff.mp hInner with
    ⟨found, hMarks, hTerms⟩
  have hOpen :
      marks ('(' :: (text ++ ')' :: rest)) =
        some (.openParen :: found) := by
    rw [openParen_punctuates.marks_eq, hMarks]
    rfl
  simp [readTerms, hOpen, terms, hTerms]

end Target

end BarRules

------------------------------------------------------------
-- References
------------------------------------------------------------

namespace BarRules

namespace Target

variable {platform : Platform}
variable {name : String}
variable {price : BarPrice}

/- Marks that stand for a price whatever terms follow. -/
theorem reads_of_marks
    {text : List Char}
    (front : List Mark)
    (hMarks :
      ∀ rest, Breaks rest →
        marks (text ++ rest) = (marks rest).map (front ++ ·))
    (hTerms :
      ∀ found, EndsPrice found →
        terms platform (front ++ found) =
          leadWith (some price) (terms platform found)) :
    Reads platform text [.price price] := by
  intro rest tail hRest
  rcases hRest.consists with ⟨found, hFound, hEnds, hTail⟩
  simp [readTerms, hMarks rest hRest.breaks, hFound,
    hTerms found hEnds, hTail, leadWith]

/- A series that is indexed. -/
theorem reads_indexed
    {bars : Nat}
    (hName : isTargetName name = true)
    (hPrice :
      price? platform (.indexed name bars) = some price) :
    Reads platform
      (name ++ "[" ++ Text.Decimal.text bars ++ "]").toList
      [.price price] := by
  refine
    reads_of_marks
      [.word name, .openBracket, .number bars, .closeBracket]
      ?_ ?_
  · intro rest _
    simp [openBracket_punctuates.marks_word hName,
      closeBracket_punctuates.marks_number bars,
      Function.comp_def]
  · intro found _
    rw [← hPrice]
    rfl

/- A function that is called for a symbol and a period. -/
theorem reads_called
    {bars : Nat}
    {symbol period : String}
    (hName : isTargetName name = true)
    (hSymbol : isTargetName symbol = true)
    (hPeriod : isTargetName period = true)
    (hPrice :
      price? platform (.called name bars) = some price) :
    Reads platform
      (name ++ "(" ++ symbol ++ ", " ++ period ++ ", " ++
        Text.Decimal.text bars ++ ")").toList
      [.price price] := by
  refine
    reads_of_marks
      [.word name, .openParen, .word symbol, .comma,
        .word period, .comma, .number bars, .closeParen]
      ?_ ?_
  · intro rest _
    simp [openParen_punctuates.marks_word hName,
      comma_punctuates.marks_word hSymbol,
      comma_punctuates.marks_word hPeriod, marks_space,
      closeParen_punctuates.marks_number bars,
      Function.comp_def]
  · intro found _
    rw [← hPrice]
    rfl

/- A series of bars that is asked for its last prices. -/
theorem reads_chained
    {bars : Nat}
    {series method : String}
    (hSeries : isTargetName series = true)
    (hName : isTargetName name = true)
    (hMethod : isTargetName method = true)
    (hPrice :
      price? platform (.chained name method bars) =
        some price) :
    Reads platform
      (series ++ "." ++ name ++ "." ++ method ++ "(" ++
        Text.Decimal.text bars ++ ")").toList
      [.price price] := by
  refine
    reads_of_marks
      [.word series, .dot, .word name, .dot, .word method,
        .openParen, .number bars, .closeParen]
      ?_ ?_
  · intro rest _
    simp [dot_punctuates.marks_word hSeries,
      dot_punctuates.marks_word hName,
      openParen_punctuates.marks_word hMethod,
      closeParen_punctuates.marks_number bars,
      Function.comp_def]
  · intro found _
    rw [← hPrice]
    rfl

/- A series that stands alone. -/
theorem reads_bare
    (hName : isTargetName name = true)
    (hPrice : price? platform (.bare name) = some price) :
    Reads platform name.toList [.price price] := by
  refine reads_of_marks [.word name] ?_ ?_
  · intro rest hBreaks
    exact marks_word hName hBreaks
  · intro found hEnds
    rw [← hPrice]
    cases found with
    | nil => rfl
    | cons mark found =>
        rcases hEnds mark rfl with rfl | ⟨op, rfl⟩ <;> rfl

end Target

end BarRules

------------------------------------------------------------
-- Prices
------------------------------------------------------------

namespace BarRules

namespace Target

/- A word gives the price back that it was chosen for. -/
theorem priceAt?_of_field?
    {platform : Platform}
    {name : String}
    {price : BarPrice}
    (h : field? platform name = some price.field) :
    priceAt? platform name price.offset.toNat =
      some price := by
  have hFits := price.offset.toNat_lt
  simp [priceAt?, hFits, h]

/- Outside MetaTrader 5 the words name the prices. -/
theorem field?_priceWord
    {platform : Platform}
    (h : platform ≠ .mql5)
    (field : PriceField) :
    field? platform (platform.priceWord field) =
      some field := by
  cases platform with
  | mql5 => exact absurd rfl h
  | mql4 | pine | ctrader => cases field <;> rfl

/- In MetaTrader 5 functions named after them give them. -/
theorem field?_priceFunction (field : PriceField) :
    field? .mql5 ("i" ++ Platform.mql5.priceWord field) =
      some field := by
  cases field <;> rfl

/- The spelling of a price reads as that price. -/
theorem reads_spell
    {names : TargetNames}
    (hNames : names.check = .ok ())
    (platform : Platform)
    (price : BarPrice) :
    Reads platform (platform.spell names price).toList
      [.price price] := by
  rcases names.check_eq_ok_iff.mp hNames with
    ⟨hSymbol, hPeriod, hSeries⟩
  have hWord := isTargetName_priceWord platform price.field
  have hPrice :
      platform ≠ .mql5 →
        priceAt? platform (platform.priceWord price.field)
            price.offset.toNat =
          some price :=
    fun hOther => priceAt?_of_field? (field?_priceWord hOther _)
  cases platform with
  | mql4 => exact reads_indexed hWord (hPrice (by decide))
  | mql5 =>
      exact reads_called
        (isTargetName_priceFunction .mql5 price.field)
        hSymbol hPeriod
        (priceAt?_of_field? (field?_priceFunction _))
  | pine =>
      specialize hPrice (by decide)
      unfold Platform.spell
      simp only [Platform.referenceStyle]
      split
      · rename_i hCurrent
        rw [hCurrent] at hPrice
        exact reads_bare hWord hPrice
      · exact reads_indexed hWord hPrice
  | ctrader =>
      have hLast : isTargetName "Last" = true := by decide
      have hChained :
          Reads .ctrader
            (names.series ++ "." ++
              Platform.ctrader.priceWord price.field ++ "." ++
              "Last" ++ "(" ++
              Text.Decimal.text price.offset.toNat ++
              ")").toList
            [.price price] :=
        reads_chained hSeries hWord hLast
          (hPrice (by decide))
      simpa [Platform.spell, Platform.referenceStyle] using
        hChained

end Target

end BarRules

------------------------------------------------------------
-- Expressions
------------------------------------------------------------

namespace BarRules

namespace Target

/- The terms of an operand, given those of its tree. -/
def encloseTerms
    (operand : Expr)
    (ts : List Term) :
    List Term :=
  match operand with
  | .barPrice _ => ts
  | .binary _ _ _ => .openParen :: ts ++ [.closeParen]

/- The terms of the emitted text. -/
def treeTerms : Expr → List Term
  | .barPrice price => [.price price]
  | .binary op left right =>
      encloseTerms left (treeTerms left) ++
        .operator op :: encloseTerms right (treeTerms right)

/- The terms of an expression that stands as an operand. -/
def operandTerms (e : Expr) : List Term :=
  encloseTerms e (treeTerms e)

/- Enclosed text reads as enclosed terms. -/
theorem reads_enclose
    {platform : Platform}
    (e : Expr)
    {text : String}
    {ts : List Term}
    (h : Reads platform text.toList ts) :
    Reads platform (e.enclose text).toList
      (encloseTerms e ts) := by
  cases e with
  | barPrice price => exact h
  | binary op left right =>
      simpa [Expr.enclose, encloseTerms] using h.parens

/- Emitted text reads as the terms of its tree. -/
theorem reads_emit
    {names : TargetNames}
    (hNames : names.check = .ok ())
    (platform : Platform)
    (e : Expr) :
    Reads platform (e.emit platform names).toList
      (treeTerms e) := by
  induction e with
  | barPrice price => exact reads_spell hNames platform price
  | binary op left right ihLeft ihRight =>
      have hBinary :=
        Reads.binary op (reads_enclose left ihLeft)
          (reads_enclose right ihRight)
      simpa [Expr.emit, Platform.sign_eq_symbol, treeTerms] using
        hBinary

variable {fixities : Fixities}

/-
  An operand is read as a whole, whatever is pending and
  whatever follows.
-/
theorem run_operandTerms
    (pending : List Pending)
    (e : Expr)
    (rest : List Term) :
    run fixities ⟨pending, none⟩ (operandTerms e ++ rest) =
      run fixities ⟨pending, some e⟩ rest := by
  induction e generalizing pending rest with
  | barPrice price => rfl
  | binary op left right ihLeft ihRight =>
      have hTerms :
          operandTerms (.binary op left right) ++ rest =
            .openParen :: (operandTerms left ++
              .operator op :: (operandTerms right ++
                .closeParen :: rest)) := by
        simp [operandTerms, encloseTerms, treeTerms]
      have hOpen :
          run fixities ⟨pending, none⟩
              (.openParen :: (operandTerms left ++
                .operator op :: (operandTerms right ++
                  .closeParen :: rest))) =
            run fixities ⟨.group :: pending, none⟩
              (operandTerms left ++
                .operator op :: (operandTerms right ++
                  .closeParen :: rest)) :=
        rfl
      have hOperator :
          run fixities ⟨.group :: pending, some left⟩
              (.operator op :: (operandTerms right ++
                .closeParen :: rest)) =
            run fixities
              ⟨.binary left op :: .group :: pending, none⟩
              (operandTerms right ++ .closeParen :: rest) :=
        rfl
      rw [hTerms, hOpen, ihLeft, hOperator, ihRight]
      rfl

/- The terms of a tree are grouped into the tree. -/
theorem group_treeTerms
    (fixities : Fixities)
    (e : Expr) :
    group fixities (treeTerms e) = some e := by
  cases e with
  | barPrice price => rfl
  | binary op left right =>
      have hLeft :
          run fixities ⟨[], none⟩
              (treeTerms (.binary op left right)) =
            run fixities ⟨[], some left⟩
              (.operator op :: operandTerms right) :=
        run_operandTerms _ _ _
      have hRight :
          run fixities ⟨[.binary left op], none⟩
              (operandTerms right ++ []) =
            some ⟨[.binary left op], some right⟩ :=
        run_operandTerms _ _ _
      have hOperator :
          run fixities ⟨[], some left⟩
              (.operator op :: operandTerms right) =
            run fixities ⟨[.binary left op], none⟩
              (operandTerms right) :=
        rfl
      rw [List.append_nil] at hRight
      rw [group, hLeft, hOperator, hRight]
      rfl

/-
  The terms of a tree stand for that tree only, even if every
  way to group them is allowed.
-/
theorem groups_treeTerms_iff
    (e e' : Expr) :
    Groups (treeTerms e) e' ↔ e' = e := by
  have hStrict := group_treeTerms strict e
  constructor
  · intro hGroups
    exact hGroups.eq_of_strict hStrict
  · rintro rfl
    exact groups_of_group hStrict

end Target

end BarRules

------------------------------------------------------------
-- Reading Emitted Text
------------------------------------------------------------

namespace BarRules

namespace Target

/- Emitted text consists of the terms of its tree. -/
theorem readTerms_emit
    {names : TargetNames}
    (hNames : names.check = .ok ())
    (platform : Platform)
    (e : Expr) :
    readTerms platform (e.emit platform names).toList =
      some (treeTerms e) := by
  have hTerms :=
    reads_emit hNames platform e [] [] follows_nil
  rwa [List.append_nil, List.append_nil] at hTerms

/- Emitted text is read as its tree under one table. -/
theorem read_eq_of_check
    {names : TargetNames}
    (hNames : names.check = .ok ())
    (fixities : Fixities)
    (platform : Platform)
    (e : Expr) :
    read fixities platform (e.emit platform names) =
      some e := by
  rw [read, readTerms_emit hNames, Option.bind_some,
    group_treeTerms]

end Target

namespace Expr

/-
  Emitted text is read back as the tree that it was written
  from, whatever the precedences of the target are.  Its terms
  could not be grouped into another tree at all, and no two
  trees are emitted alike.
-/
theorem read_emit
    (names : TargetNames)
    (hNames : names.check = .ok ())
    (platform : Platform)
    (e : Expr) :
    (∀ fixities,
      Target.read fixities platform (e.emit platform names) =
        some e) ∧
      (∃ ts,
        Target.readTerms platform
            (e.emit platform names).toList =
          some ts ∧
          ∀ e' : Expr, Target.Groups ts e' ↔ e' = e) ∧
      ∀ e' : Expr,
        e'.emit platform names = e.emit platform names →
          e' = e := by
  refine
    ⟨fun fixities =>
        Target.read_eq_of_check hNames fixities platform e,
      ⟨Target.treeTerms e,
        Target.readTerms_emit hNames platform e,
        Target.groups_treeTerms_iff e⟩,
      ?_⟩
  intro e' hEmit
  -- Any one table tells the two trees apart.
  have hOther :=
    Target.read_eq_of_check hNames
      ⟨fun _ => 0, fun _ => .neither⟩ platform e'
  rw [hEmit, Target.read_eq_of_check hNames] at hOther
  exact (Option.some.inj hOther).symm

/-
  A difference that is taken from the left is read so even
  where all operators group to the right.
-/
theorem read_emit_difference :
    Target.read ⟨fun _ => 0, fun _ => .right⟩ .mql5
        ("(iOpen(_Symbol, PERIOD_CURRENT, 1) - " ++
          "iLow(_Symbol, PERIOD_CURRENT, 2)) - " ++
          "iClose(_Symbol, PERIOD_CURRENT, 3)") =
      some
        (.binary (.arith .subtract)
          (.binary (.arith .subtract)
            (.barPrice ⟨.opening, 1⟩)
            (.barPrice ⟨.low, 2⟩))
          (.barPrice ⟨.closing, 3⟩)) :=
  (read_emit {} rfl .mql5
    (.binary (.arith .subtract)
      (.binary (.arith .subtract)
        (.barPrice ⟨.opening, 1⟩)
        (.barPrice ⟨.low, 2⟩))
      (.barPrice ⟨.closing, 3⟩))).1
    ⟨fun _ => 0, fun _ => .right⟩

end Expr

end BarRules
