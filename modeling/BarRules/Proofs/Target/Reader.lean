import BarRules.Proofs.Target.Marks

/-
  A reader of expressions in the source text of a platform.

  Key definitions include:
    * `BarRules.Target.Reference`
    * `BarRules.Target.price?`
    * `BarRules.Target.terms`
    * `BarRules.Target.Fixities`
    * `BarRules.Target.step`
    * `BarRules.Target.group`
    * `BarRules.Target.read`
    * `BarRules.Target.Groups`

  Key theorems include:
    * `BarRules.Target.groups_of_group`
    * `BarRules.Target.Groups.eq_of_strict`

  A platform has its own way to refer to the price of a bar, and
  its own precedences.  The reader knows the references of the
  platform and takes the precedences as a table, so that it
  reads as any platform does that has such a table.
-/

------------------------------------------------------------
-- References to Prices
------------------------------------------------------------

namespace BarRules

namespace Target

/- The ways in which source text refers to a price. -/
inductive Reference where
  | bare (name : String)
  | indexed (name : String) (bars : Nat)
  | called (name : String) (bars : Nat)
  | chained (name method : String) (bars : Nat)
  deriving DecidableEq

/- The arrays, functions and series of prices. -/
def field? : Platform → String → Option PriceField
  | .mql4, "Open" => some .opening
  | .mql4, "High" => some .high
  | .mql4, "Low" => some .low
  | .mql4, "Close" => some .closing
  | .mql5, "iOpen" => some .opening
  | .mql5, "iHigh" => some .high
  | .mql5, "iLow" => some .low
  | .mql5, "iClose" => some .closing
  | .pine, "open" => some .opening
  | .pine, "high" => some .high
  | .pine, "low" => some .low
  | .pine, "close" => some .closing
  | .ctrader, "OpenPrices" => some .opening
  | .ctrader, "HighPrices" => some .high
  | .ctrader, "LowPrices" => some .low
  | .ctrader, "ClosePrices" => some .closing
  | _, _ => none

/- The price of a bar that 64 bits can count back to. -/
def priceAt?
    (platform : Platform)
    (name : String)
    (bars : Nat) :
    Option BarPrice :=
  if bars < UInt64.size then
    (field? platform name).map (⟨·, UInt64.ofNat bars⟩)
  else
    none

/-
  The price that a reference stands for.  Only Pine Script
  takes a bare series as its current value.
-/
def price? : Platform → Reference → Option BarPrice
  | .mql4, .indexed name bars => priceAt? .mql4 name bars
  | .mql5, .called name bars => priceAt? .mql5 name bars
  | .pine, .bare name => priceAt? .pine name 0
  | .pine, .indexed name bars => priceAt? .pine name bars
  | .ctrader, .chained name "Last" bars =>
      priceAt? .ctrader name bars
  | _, _ => none

/- A price, an operator or a parenthesis. -/
inductive Term where
  | price (price : BarPrice)
  | operator (op : Operator)
  | openParen
  | closeParen
  deriving DecidableEq

/- A price in front of terms. -/
def leadWith :
    Option BarPrice →
      Option (List Term) →
        Option (List Term)
  | some price, some rest => some (.price price :: rest)
  | _, _ => none

/-
  The terms of marks.  A word takes what follows it into its
  reference, and calls and chains may name anything.
-/
def terms (platform : Platform) :
    List Mark → Option (List Term)
  | [] => some []
  | .operator op :: rest =>
      (terms platform rest).map (.operator op :: ·)
  | .openParen :: rest =>
      (terms platform rest).map (.openParen :: ·)
  | .closeParen :: rest =>
      (terms platform rest).map (.closeParen :: ·)
  | .word name :: .openBracket :: .number bars ::
      .closeBracket :: rest =>
      leadWith (price? platform (.indexed name bars))
        (terms platform rest)
  | .word name :: .openParen :: .word _ :: .comma ::
      .word _ :: .comma :: .number bars :: .closeParen ::
      rest =>
      leadWith (price? platform (.called name bars))
        (terms platform rest)
  | .word _ :: .dot :: .word name :: .dot :: .word method ::
      .openParen :: .number bars :: .closeParen :: rest =>
      leadWith (price? platform (.chained name method bars))
        (terms platform rest)
  | .word name :: rest =>
      leadWith (price? platform (.bare name))
        (terms platform rest)
  | _ => none

end Target

end BarRules

------------------------------------------------------------
-- Grouping by Precedence
------------------------------------------------------------

namespace BarRules

namespace Target

/- How operators of one level group. -/
inductive Associativity where
  | left
  | right
  | neither
  deriving DecidableEq

/- A table of precedences and associativities. -/
structure Fixities where
  level : Operator → Nat
  associativity : Operator → Associativity

/-
  Of two operators around an operand, the first one takes it.
  There is no answer for operators of one level that do not
  group to the same side.
-/
def Fixities.firstTakes?
    (fixities : Fixities)
    (first second : Operator) :
    Option Bool :=
  if fixities.level second < fixities.level first then
    some true
  else if fixities.level first < fixities.level second then
    some false
  else
    match
      fixities.associativity first,
      fixities.associativity second
    with
    | .left, .left => some true
    | .right, .right => some false
    | _, _ => none

/- An open parenthesis, or an operator without its right side. -/
inductive Pending where
  | group
  | binary (left : Expr) (op : Operator)

/- What is pending, innermost first, and the last operand. -/
structure Stage where
  pending : List Pending
  operand : Option Expr

/- Operators that take the operand before a next operator. -/
def settle
    (fixities : Fixities)
    (next : Operator) :
    List Pending → Expr → Option (List Pending × Expr)
  | .binary left op :: pending, e =>
      match fixities.firstTakes? op next with
      | some true =>
          settle fixities next pending (.binary op left e)
      | some false => some (.binary left op :: pending, e)
      | none => none
  | pending, e => some (pending, e)

/- All operators up to an open parenthesis. -/
def settleAll :
    List Pending → Expr → List Pending × Expr
  | .binary left op :: pending, e =>
      settleAll pending (.binary op left e)
  | pending, e => (pending, e)

/- One more term. -/
def step
    (fixities : Fixities)
    (stage : Stage) :
    Term → Option Stage
  | .price price =>
      match stage.operand with
      | none => some ⟨stage.pending, some (.barPrice price)⟩
      | some _ => none
  | .openParen =>
      match stage.operand with
      | none => some ⟨.group :: stage.pending, none⟩
      | some _ => none
  | .operator op =>
      match stage.operand with
      | none => none
      | some e =>
          (settle fixities op stage.pending e).map
            fun (pending, left) =>
              ⟨.binary left op :: pending, none⟩
  | .closeParen =>
      match stage.operand with
      | none => none
      | some e =>
          match settleAll stage.pending e with
          | (.group :: pending, inner) =>
              some ⟨pending, some inner⟩
          | _ => none

/- One term after the other. -/
def run
    (fixities : Fixities)
    (stage : Stage)
    (ts : List Term) :
    Option Stage :=
  ts.foldlM (step fixities) stage

/- The expression of a stage in which no parenthesis is open. -/
def finish (stage : Stage) : Option Expr :=
  match stage.operand with
  | none => none
  | some e =>
      match settleAll stage.pending e with
      | ([], whole) => some whole
      | _ => none

/- The expression that terms make up under a table. -/
def group
    (fixities : Fixities)
    (ts : List Term) :
    Option Expr :=
  (run fixities ⟨[], none⟩ ts).bind finish

/- The terms of a text on a platform. -/
def readTerms
    (platform : Platform)
    (text : List Char) :
    Option (List Term) :=
  (marks text).bind (terms platform)

/- The expression that a text stands for on a platform. -/
def read
    (fixities : Fixities)
    (platform : Platform)
    (text : String) :
    Option Expr :=
  (readTerms platform text.toList).bind (group fixities)

end Target

end BarRules

------------------------------------------------------------
-- What the Reader Groups
------------------------------------------------------------

namespace BarRules

namespace Target

/- An expression that terms may stand for under some table. -/
inductive Groups : List Term → Expr → Prop where
  | price (price : BarPrice) :
      Groups [.price price] (.barPrice price)
  | parens
      {ts : List Term}
      {e : Expr}
      (inner : Groups ts e) :
      Groups (.openParen :: ts ++ [.closeParen]) e
  | binary
      (op : Operator)
      {front back : List Term}
      {left right : Expr}
      (first : Groups front left)
      (second : Groups back right) :
      Groups (front ++ .operator op :: back)
        (.binary op left right)

/- The terms that are pending. -/
inductive Awaits : List Pending → List Term → Prop where
  | start : Awaits [] []
  | group
      {pending : List Pending}
      {front : List Term}
      (outer : Awaits pending front) :
      Awaits (.group :: pending) (front ++ [.openParen])
  | binary
      {pending : List Pending}
      {front back : List Term}
      {left : Expr}
      (op : Operator)
      (outer : Awaits pending front)
      (first : Groups back left) :
      Awaits (.binary left op :: pending)
        (front ++ (back ++ [.operator op]))

/- Terms end in an operand, behind what is pending. -/
def EndsIn
    (pending : List Pending)
    (e : Expr)
    (ts : List Term) :
    Prop :=
  ∃ front back,
    ts = front ++ back ∧ Awaits pending front ∧ Groups back e

/- The terms that a stage accounts for. -/
def Stage.Holds
    (stage : Stage)
    (ts : List Term) :
    Prop :=
  match stage.operand with
  | none => Awaits stage.pending ts
  | some e => EndsIn stage.pending e ts

/- A pending operator may take the last operand. -/
theorem EndsIn.take
    {pending : List Pending}
    {left e : Expr}
    {op : Operator}
    {ts : List Term}
    (h : EndsIn (.binary left op :: pending) e ts) :
    EndsIn pending (.binary op left e) ts := by
  rcases h with ⟨_, back, rfl, hAwaits, hGroups⟩
  cases hAwaits with
  | @binary _ front first _ _ hOuter hFirst =>
      refine
        ⟨front, first ++ .operator op :: back, by simp,
          hOuter, Groups.binary op hFirst hGroups⟩

/- Settling operators keeps the terms. -/
theorem EndsIn.settle
    {fixities : Fixities}
    {next : Operator}
    {pending after : List Pending}
    {e left : Expr}
    {ts : List Term}
    (h : EndsIn pending e ts)
    (hSettle :
      settle fixities next pending e = some (after, left)) :
    EndsIn after left ts := by
  fun_induction Target.settle fixities next pending e with
  | case1 left op pending e hFirst ih =>
      exact ih h.take hSettle
  | case2 => cases hSettle; exact h
  | case3 => cases hSettle
  | case4 => cases hSettle; exact h

/- Settling all operators keeps the terms. -/
theorem EndsIn.settleAll
    {pending : List Pending}
    {e : Expr}
    {ts : List Term}
    (h : EndsIn pending e ts) :
    EndsIn (Target.settleAll pending e).1
      (Target.settleAll pending e).2 ts := by
  fun_induction Target.settleAll pending e with
  | case1 left op pending e ih => exact ih h.take
  | case2 => exact h

/- A step accounts for its term. -/
theorem step_holds
    {fixities : Fixities}
    {stage after : Stage}
    {ts : List Term}
    {t : Term}
    (hHolds : stage.Holds ts)
    (hStep : step fixities stage t = some after) :
    after.Holds (ts ++ [t]) := by
  rcases stage with ⟨pending, _ | e⟩
  · cases t with
    | price price =>
        cases hStep
        exact
          ⟨ts, [.price price], rfl, hHolds, Groups.price price⟩
    | openParen =>
        cases hStep
        exact Awaits.group hHolds
    | operator op => cases hStep
    | closeParen => cases hStep
  · cases t with
    | price price => cases hStep
    | openParen => cases hStep
    | operator op =>
        rcases Option.map_eq_some_iff.mp hStep with
          ⟨⟨pending, left⟩, hSettle, hEq⟩
        cases hEq
        rcases EndsIn.settle hHolds hSettle with
          ⟨front, back, rfl, hAwaits, hGroups⟩
        simpa [Stage.Holds] using
          Awaits.binary op hAwaits hGroups
    | closeParen =>
        have hEnds := EndsIn.settleAll hHolds
        simp only [step] at hStep
        split at hStep
        · rename_i pending inner hSettled
          cases hStep
          rw [hSettled] at hEnds
          rcases hEnds with ⟨_, back, rfl, hAwaits, hGroups⟩
          cases hAwaits with
          | @group _ front hOuter =>
              exact
                ⟨front, .openParen :: back ++ [.closeParen],
                  by simp, hOuter, Groups.parens hGroups⟩
        · cases hStep

/- A run accounts for its terms. -/
theorem run_holds
    {fixities : Fixities}
    {stage after : Stage}
    {front back : List Term}
    (hHolds : stage.Holds front)
    (hRun : run fixities stage back = some after) :
    after.Holds (front ++ back) := by
  induction back generalizing stage front with
  | nil =>
      cases hRun
      rwa [List.append_nil]
  | cons t back ih =>
      rw [run, List.foldlM_cons] at hRun
      rcases Option.bind_eq_some_iff.mp hRun with
        ⟨next, hStep, hRest⟩
      rw [← List.singleton_append, ← List.append_assoc]
      exact ih (step_holds hHolds hStep) hRest

/-
  Whatever the table, the reader only groups the terms, all of
  them, in their order and by their parentheses.
-/
theorem groups_of_group
    {fixities : Fixities}
    {ts : List Term}
    {e : Expr}
    (h : group fixities ts = some e) :
    Groups ts e := by
  rcases Option.bind_eq_some_iff.mp h with
    ⟨stage, hRun, hFinish⟩
  have hStart : Stage.Holds ⟨[], none⟩ [] := Awaits.start
  have hHolds : stage.Holds ([] ++ ts) :=
    run_holds hStart hRun
  rcases stage with ⟨pending, _ | last⟩
  · cases hFinish
  · have hEnds := EndsIn.settleAll hHolds
    simp only [finish] at hFinish
    split at hFinish
    · rename_i whole hSettled
      cases hFinish
      rw [hSettled] at hEnds
      rcases hEnds with ⟨_, back, hTerms, hAwaits, hGroups⟩
      cases hAwaits
      rw [List.nil_append, List.nil_append] at hTerms
      rwa [hTerms]
    · cases hFinish

/- The table under which operators never share an operand. -/
def strict : Fixities where
  level := fun _ => 0
  associativity := fun _ => .neither

/-
  Without sharing, an operator may take its right side as soon
  as that is read.
-/
theorem take_of_strict
    {pending : List Pending}
    {op : Operator}
    {left right e : Expr}
    {rest : List Term}
    (h :
      (run strict ⟨.binary left op :: pending, some right⟩
          rest).bind finish =
        some e) :
    (run strict ⟨pending, some (.binary op left right)⟩
        rest).bind finish =
      some e := by
  cases rest with
  | nil => exact h
  | cons next rest =>
      cases next with
      | closeParen => exact h
      | operator other => cases h
      | price price => cases h
      | openParen => cases h

/-
  If no operators share an operand, the reader finds whatever
  the terms may stand for.  The induction is on the terms of
  one operand, whatever is pending and whatever follows.
-/
theorem Groups.read_of_strict
    {ts : List Term}
    {found e : Expr}
    (hGroups : Groups ts found)
    {pending : List Pending}
    {rest : List Term}
    (h :
      (run strict ⟨pending, none⟩ (ts ++ rest)).bind finish =
        some e) :
    (run strict ⟨pending, some found⟩ rest).bind finish =
      some e := by
  induction hGroups generalizing pending rest with
  | price price => exact h
  | @parens ts found inner ih =>
      have hTerms :
          .openParen :: ts ++ [.closeParen] ++ rest =
            Term.openParen :: (ts ++ .closeParen :: rest) := by
        simp
      rw [hTerms] at h
      have hInner :
          (run strict ⟨.group :: pending, none⟩
              (ts ++ .closeParen :: rest)).bind finish =
            some e :=
        h
      have hClosed := ih hInner
      exact hClosed
  | @binary op front back left right first second ihFirst
      ihSecond =>
      have hTerms :
          front ++ .operator op :: back ++ rest =
            front ++ Term.operator op :: (back ++ rest) := by
        simp
      rw [hTerms] at h
      have hNext := ihFirst h
      cases pending with
      | nil => exact take_of_strict (ihSecond hNext)
      | cons outer pending =>
          cases outer with
          | group => exact take_of_strict (ihSecond hNext)
          | binary before other => cases hNext

/-
  Terms in which no operators share an operand stand for one
  expression only.
-/
theorem Groups.eq_of_strict
    {ts : List Term}
    {found e : Expr}
    (hGroups : Groups ts found)
    (h : group strict ts = some e) :
    found = e := by
  rw [← List.append_nil ts] at h
  exact Option.some.inj (hGroups.read_of_strict h)

end Target

end BarRules
