import BarRules.Proofs.Ini.Writing
import BarRules.Proofs.Settings.Loading
import BarRules.Proofs.Target.Characters
import BarRules.Session

/-
  Strategies that are written as documents load unchanged.

  Key definitions include:
    * `BarRules.RuleSet.list`
    * `BarRules.RuleSet.Listable`
    * `BarRules.Strategy.fields`
    * `BarRules.Strategy.Writable`
    * `BarRules.GivenNames`

  Key theorems include:
    * `BarRules.RuleSet.ofList_list`
    * `BarRules.Strategy.exists_document`
    * `BarRules.Strategy.readStrategy_of_written`
    * `BarRules.Strategy.loads_as_written`

  Rules and values may hold every sign that documents are
  written with, since a value is taken as it stands.  Only the
  comma, which separates rules, and the line feed are kept out
  of them.
-/

------------------------------------------------------------
-- Lists of Rules
------------------------------------------------------------

namespace BarRules

namespace Ini

/- The heading of strategies is a word. -/
theorem isWord_strategyHeading :
    IsWord Settings.strategyHeading := by
  decide

/- The heading of target names is a word. -/
theorem isWord_emitHeading : IsWord emitHeading := by
  decide

/- Characters of names are not blank. -/
theorem isBlank_eq_false_of_isNameChar
    {c : Char}
    (h : isNameChar c = true) :
    Text.isBlank c = false := by
  have hRange : 0x30 ≤ c.toNat ∧ c.toNat ≤ 0x7A := by
    unfold isNameChar Char.isAlphanum Char.isAlpha Char.isUpper
      Char.isLower Char.isDigit at h
    simp only [ge_iff_le, Bool.or_eq_true, Bool.and_eq_true,
      decide_eq_true_eq, UInt32.le_iff_toNat_le] at h
    rcases h with ((hUpper | hLower) | hDigit) | rfl
    · simp at hUpper
      omega
    · simp at hLower
      omega
    · simp at hDigit
      omega
    · decide
  exact
    Text.isBlank_eq_false_of_toNat (by omega) (by omega)

/- Target names are values. -/
theorem isValue_of_isTargetName
    {name : String}
    (h : isTargetName name = true) :
    IsValue name := by
  have hChars := Target.madeOf_of_isTargetName h
  refine ⟨?_, ?_, ?_⟩
  · rintro rfl
    exact absurd h (by decide)
  · apply Text.trim_eq_self_of_forall
    intro c hC
    exact isBlank_eq_false_of_isNameChar (hChars c hC)
  · intro hMem
    exact absurd (hChars _ hMem) (by decide)

end Ini

namespace RuleSet

variable {set : RuleSet}

/- The rules of a set with commas between them. -/
def list (set : RuleSet) : String :=
  Text.joinWith ", " set.rules

/- Rules that can be listed with commas in one line. -/
structure Listable (set : RuleSet) : Prop where
  nonempty : set.rules ≠ []
  values : ∀ rule ∈ set.rules, Ini.IsValue rule
  commas : ∀ rule ∈ set.rules, ',' ∉ rule.toList

instance (set : RuleSet) : Decidable set.Listable :=
  decidable_of_iff
    (set.rules ≠ [] ∧
      (∀ rule ∈ set.rules, Ini.IsValue rule) ∧
      ∀ rule ∈ set.rules, ',' ∉ rule.toList)
    ⟨fun h => ⟨h.1, h.2.1, h.2.2⟩,
      fun h => ⟨h.nonempty, h.values, h.commas⟩⟩

/- Listed rules are found again. -/
theorem ofList_list (h : set.Listable) :
    ofList set.list = set := by
  have hTrimmed :
      (Text.pieces ',' set.list).map Text.trim = set.rules := by
    apply Text.trim_pieces_joinWith h.nonempty
    intro rule hRule
    exact ⟨(h.values rule hRule).2.1, h.commas rule hRule⟩
  have hKept : set.rules.filter (· ≠ "") = set.rules := by
    apply List.filter_eq_self.mpr
    intro rule hRule
    exact decide_eq_true (h.values rule hRule).1
  rw [ofList, hTrimmed, hKept]

/- A list of rules fits into one line. -/
theorem Listable.isValue (h : set.Listable) :
    Ini.IsValue set.list := by
  apply Text.joinWith_of_between
  · intro front back hFront hBack
    exact hFront.between (by decide) hBack
  · exact h.nonempty
  · exact h.values

end RuleSet

end BarRules

------------------------------------------------------------
-- Written Strategies
------------------------------------------------------------

namespace BarRules

/- Target names of which some are given. -/
structure GivenNames where
  symbol : Option String := none
  period : Option String := none
  series : Option String := none

namespace GivenNames

/- The given names, or else the default ones. -/
def names (given : GivenNames) : TargetNames :=
  let defaults : TargetNames := {}
  { symbol := given.symbol.getD defaults.symbol
    period := given.period.getD defaults.period
    series := given.series.getD defaults.series }

/- The names under the keys that they are looked up with. -/
def fields
    (given : GivenNames) :
    List (String × Option String) :=
  [("symbol", given.symbol), ("period", given.period),
    ("series", given.series)]

/- The names that are given are identifiers. -/
def Valid (given : GivenNames) : Prop :=
  ∀ field ∈ given.fields, ∀ name ∈ field.2,
    isTargetName name = true

instance (given : GivenNames) : Decidable given.Valid :=
  inferInstanceAs
    (Decidable
      (∀ field ∈ given.fields, ∀ name ∈ field.2,
        isTargetName name = true))

end GivenNames

namespace Strategy

/- What a strategy says under the keys of its settings. -/
def fields
    (strategy : Strategy) :
    List (String × Option String) :=
  [("name", some strategy.name),
    ("symbol", some strategy.symbol),
    ("entry_long", some strategy.entryLong.list),
    ("exit_long", some strategy.exitLong.list),
    ("entry_short", strategy.entryShort.map RuleSet.list),
    ("exit_short", strategy.exitShort.map RuleSet.list)]

/- A strategy whose settings fit into one line each. -/
structure Writable (strategy : Strategy) : Prop where
  name : Ini.IsValue strategy.name
  symbol : Ini.IsValue strategy.symbol
  sets :
    ∀ labelled ∈ strategy.labelledSets, labelled.2.Listable

/- The parts of a document with a strategy and target names. -/
def parts
    (strategyFields nameFields : List (String × Option String)) :
    List Ini.Part :=
  [⟨Settings.strategyHeading, strategyFields⟩,
    ⟨emitHeading, nameFields⟩]

variable {strategy : Strategy}
variable {given : GivenNames}

/- The long sets of a writable strategy can be listed. -/
theorem Writable.entryLong (h : strategy.Writable) :
    strategy.entryLong.Listable :=
  h.sets ("entry_long", strategy.entryLong)
    (by simp [labelledSets])

/- The long sets of a writable strategy can be listed. -/
theorem Writable.exitLong (h : strategy.Writable) :
    strategy.exitLong.Listable :=
  h.sets ("exit_long", strategy.exitLong)
    (by simp [labelledSets])

/- The short sets of a writable strategy can be listed. -/
theorem Writable.entryShort
    (h : strategy.Writable)
    {set : RuleSet}
    (hSet : strategy.entryShort = some set) :
    set.Listable :=
  h.sets ("entry_short", set) (by simp [labelledSets, hSet])

/- The short sets of a writable strategy can be listed. -/
theorem Writable.exitShort
    (h : strategy.Writable)
    {set : RuleSet}
    (hSet : strategy.exitShort = some set) :
    set.Listable :=
  h.sets ("exit_short", set) (by simp [labelledSets, hSet])

/- The settings of a writable strategy are values. -/
theorem Writable.isValue
    (h : strategy.Writable)
    {field : String × Option String}
    (hField : field ∈ strategy.fields)
    {value : String}
    (hValue : value ∈ field.2) :
    Ini.IsValue value := by
  simp only [fields, List.mem_cons, List.not_mem_nil, or_false]
    at hField
  rcases hField with rfl | rfl | rfl | rfl | rfl | rfl
  · rw [← Option.some.inj hValue]
    exact h.name
  · rw [← Option.some.inj hValue]
    exact h.symbol
  · rw [← Option.some.inj hValue]
    exact h.entryLong.isValue
  · rw [← Option.some.inj hValue]
    exact h.exitLong.isValue
  · rcases Option.map_eq_some_iff.mp hValue with
      ⟨set, hSet, rfl⟩
    exact (h.entryShort hSet).isValue
  · rcases Option.map_eq_some_iff.mp hValue with
      ⟨set, hSet, rfl⟩
    exact (h.exitShort hSet).isValue

/- A writable strategy makes a part of a document. -/
theorem plain_fields (h : strategy.Writable) :
    Ini.Part.Plain
      ⟨Settings.strategyHeading, strategy.fields⟩ where
  heading := Ini.isWord_strategyHeading
  keys := by
    have hWords :
        ∀ key ∈ strategy.fields.map Prod.fst,
          Ini.IsWord key := by
      simp only [fields, List.map_cons, List.map_nil]
      decide
    intro field hField
    exact hWords field.1 (List.mem_map_of_mem hField)
  values := fun _ hField _ hValue => h.isValue hField hValue
  distinct := by
    simp only [fields, List.map_cons, List.map_nil]
    decide

end Strategy

/- Valid target names make a part of a document. -/
theorem GivenNames.plain_fields
    {given : GivenNames}
    (h : given.Valid) :
    Ini.Part.Plain ⟨emitHeading, given.fields⟩ where
  heading := Ini.isWord_emitHeading
  keys := by
    have hWords :
        ∀ key ∈ given.fields.map Prod.fst,
          Ini.IsWord key := by
      simp only [fields, List.map_cons, List.map_nil]
      decide
    intro field hField
    exact hWords field.1 (List.mem_map_of_mem hField)
  values := fun field hField value hValue =>
    Ini.isValue_of_isTargetName (h field hField value hValue)
  distinct := by
    simp only [fields, List.map_cons, List.map_nil]
    decide

end BarRules

------------------------------------------------------------
-- Loading
------------------------------------------------------------

namespace BarRules

namespace Settings

variable {settings : Settings}
variable {heading key : String}

/- Values are found as they are kept. -/
theorem text?_of_lookup
    {value : Option String}
    (hLookup : settings.lookup heading key = value)
    (hValue : ∀ text ∈ value, Ini.IsValue text) :
    settings.text? heading key = value := by
  rw [text?, hLookup]
  cases value with
  | none => rfl
  | some text =>
      rcases hValue text rfl with ⟨hNonempty, hTrimmed, _⟩
      simp [hTrimmed, hNonempty]

end Settings

namespace Strategy

variable {strategy : Strategy}
variable {given : GivenNames}
variable {strategyFields : List (String × Option String)}
variable {nameFields : List (String × Option String)}

/-
  A written strategy is read, and each setting is found as it
  was written.
-/
theorem exists_document
    (hStrategy : strategy.Writable)
    (hNames : given.Valid)
    (hStrategyFields : strategyFields.Perm strategy.fields)
    (hNameFields : nameFields.Perm given.fields)
    {ending : String}
    (hEnding : ending = "" ∨ ending = "\n") :
    ∃ document,
      Ini.Document.parse
          (Ini.write (parts strategyFields nameFields) ++
            ending) =
        .ok document ∧
      (∀ field ∈ strategy.fields,
        document.lookup Settings.strategyHeading field.1 =
          field.2) ∧
      ∀ field ∈ given.fields,
        document.lookup emitHeading field.1 = field.2 := by
  have hStrategyPart :=
    (plain_fields hStrategy).perm hStrategyFields
  have hNamePart :=
    (GivenNames.plain_fields hNames).perm hNameFields
  have hParts :
      ∀ part ∈ parts strategyFields nameFields,
        part.Plain := by
    intro part hPart
    simp only [parts, List.mem_cons, List.not_mem_nil,
      or_false] at hPart
    rcases hPart with rfl | rfl
    · exact hStrategyPart
    · exact hNamePart
  have hHeadings :
      ((parts strategyFields nameFields).map
        Ini.Part.heading).Nodup := by
    simp only [parts, List.map_cons, List.map_nil]
    decide
  have hWritten :
      (parts strategyFields nameFields).flatMap
          Ini.Part.lines ≠
        [] := by
    have hName :
        ("name", some strategy.name) ∈ strategyFields :=
      hStrategyFields.mem_iff.mpr List.mem_cons_self
    intro hEmpty
    rw [parts, List.flatMap_cons, List.append_eq_nil_iff]
      at hEmpty
    exact Ini.Part.lines_ne_nil hName hEmpty.1
  refine
    ⟨_, Ini.parse_write hParts hWritten hEnding, ?_, ?_⟩
  · rintro ⟨key, value⟩ hField
    have hPart :
        (⟨Settings.strategyHeading, strategyFields⟩ :
            Ini.Part) ∈
          parts strategyFields nameFields := by
      simp [parts]
    have hFound :=
      Ini.lookup_write hParts hHeadings hPart
        (hStrategyFields.mem_iff.mpr hField)
    exact hFound
  · rintro ⟨key, value⟩ hField
    have hPart :
        (⟨emitHeading, nameFields⟩ : Ini.Part) ∈
          parts strategyFields nameFields := by
      simp [parts]
    have hFound :=
      Ini.lookup_write hParts hHeadings hPart
        (hNameFields.mem_iff.mpr hField)
    exact hFound

/- Settings that hold the fields of a strategy make it up. -/
theorem strategy_eq_of_lookup
    (hStrategy : strategy.Writable)
    {settings : Settings}
    (hLookup :
      ∀ field ∈ strategy.fields,
        settings.lookup Settings.strategyHeading field.1 =
          field.2) :
    settings.strategy = .ok strategy := by
  have hText (key : String) (value : Option String)
      (hField : (key, value) ∈ strategy.fields) :
      settings.text? Settings.strategyHeading key = value :=
    Settings.text?_of_lookup (hLookup _ hField)
      fun _ => hStrategy.isValue hField
  have hLong (set : RuleSet) (hSet : set.Listable)
      (key : String)
      (hField : (key, some set.list) ∈ strategy.fields) :
      (settings.text? Settings.strategyHeading key).map
          RuleSet.ofList =
        some set := by
    rw [hText key _ hField, Option.map_some,
      RuleSet.ofList_list hSet]
  have hShort (set : Option RuleSet)
      (hSet : ∀ found ∈ set, found.Listable)
      (key : String)
      (hField :
        (key, set.map RuleSet.list) ∈ strategy.fields) :
      settings.ruleSet? key = set := by
    rw [Settings.ruleSet?, hText key _ hField]
    cases set with
    | none => rfl
    | some found =>
        rw [Option.map_some, Option.map_some,
          RuleSet.ofList_list (hSet found rfl)]
  rw [Settings.strategy_eq_ok_iff]
  exact
    ⟨hText "name" _ (by simp [fields]),
      hText "symbol" _ (by simp [fields]),
      hLong _ hStrategy.entryLong "entry_long" (by simp [fields]),
      hLong _ hStrategy.exitLong "exit_long" (by simp [fields]),
      hShort _ (fun _ => hStrategy.entryShort) "entry_short"
        (by simp [fields]),
      hShort _ (fun _ => hStrategy.exitShort) "exit_short"
        (by simp [fields])⟩

/- Settings that hold given names make them up. -/
theorem targetNames_eq_of_lookup
    (hNames : given.Valid)
    {settings : Settings}
    (hLookup :
      ∀ field ∈ given.fields,
        settings.lookup emitHeading field.1 = field.2) :
    settings.targetNames = given.names := by
  have hText (key : String) (value : Option String)
      (hField : (key, value) ∈ given.fields) :
      settings.text? emitHeading key = value :=
    Settings.text?_of_lookup (hLookup _ hField)
      ((GivenNames.plain_fields hNames).values _ hField)
  simp only [Settings.targetNames, GivenNames.names,
    hText "symbol" given.symbol (by simp [GivenNames.fields]),
    hText "period" given.period (by simp [GivenNames.fields]),
    hText "series" given.series (by simp [GivenNames.fields])]

/- Settings that hold a writable strategy pass its checks. -/
theorem checkStrategy_eq_ok_of_lookup
    (hStrategy : strategy.Writable)
    (hSymbol :
      strategy.symbol.toList.any Settings.isPathSeparator =
        false)
    {settings : Settings}
    (hLookup :
      ∀ field ∈ strategy.fields,
        settings.lookup Settings.strategyHeading field.1 =
          field.2) :
    settings.checkStrategy = .ok () := by
  have hNeeded (key text : String)
      (hField : (key, some text) ∈ strategy.fields) :
      settings.requireText key = .ok () := by
    rcases hStrategy.isValue hField rfl with
      ⟨hNonempty, hTrimmed, _⟩
    simp [Settings.requireText, hLookup _ hField,
      Text.isBlankText, hTrimmed, hNonempty]
  have hAll :
      Settings.neededKeys.forM settings.requireText = .ok () := by
    apply forM_eq_ok_iff.mpr
    intro key hKey
    simp only [Settings.neededKeys, List.mem_cons,
      List.not_mem_nil, or_false] at hKey
    rcases hKey with rfl | rfl | rfl | rfl
    · exact hNeeded _ strategy.name (by simp [fields])
    · exact hNeeded _ strategy.symbol (by simp [fields])
    · exact hNeeded _ strategy.entryLong.list (by simp [fields])
    · exact hNeeded _ strategy.exitLong.list (by simp [fields])
  have hFound :
      settings.lookup Settings.strategyHeading "symbol" =
        some strategy.symbol :=
    hLookup ("symbol", some strategy.symbol) (by simp [fields])
  simp [Settings.checkStrategy, hAll, Settings.checkSymbol,
    hFound, hSymbol]

/- Settings that hold valid names pass their checks. -/
theorem checkNames_eq_ok_of_lookup
    (hNames : given.Valid)
    {settings : Settings}
    (hLookup :
      ∀ field ∈ given.fields,
        settings.lookup emitHeading field.1 = field.2) :
    settings.checkNames = .ok () := by
  have hName (key : String) (value : Option String)
      (hField : (key, value) ∈ given.fields) :
      settings.checkName key = .ok () := by
    have hFound : settings.lookup emitHeading key = value :=
      hLookup _ hField
    rw [Settings.checkName, hFound]
    cases value with
    | none => rfl
    | some name =>
        have hValid := hNames _ hField name rfl
        have hTrimmed := (Ini.isValue_of_isTargetName hValid).2.1
        simp [checkTargetName, hTrimmed, hValid]
  apply forM_eq_ok_iff.mpr
  intro key hKey
  simp only [Settings.nameKeys, List.mem_cons, List.not_mem_nil,
    or_false] at hKey
  rcases hKey with rfl | rfl | rfl
  · exact hName _ given.symbol (by simp [GivenNames.fields])
  · exact hName _ given.period (by simp [GivenNames.fields])
  · exact hName _ given.series (by simp [GivenNames.fields])

/-
  A written strategy is loaded if its symbol can be a part of a
  file name.
-/
theorem exists_load_of_written
    (hStrategy : strategy.Writable)
    (hSymbol :
      strategy.symbol.toList.any Settings.isPathSeparator =
        false)
    (hNames : given.Valid)
    (hStrategyFields : strategyFields.Perm strategy.fields)
    (hNameFields : nameFields.Perm given.fields)
    {ending : String}
    (hEnding : ending = "" ∨ ending = "\n") :
    ∃ document,
      Ini.Document.parse
          (Ini.write (parts strategyFields nameFields) ++
            ending) =
        .ok document ∧
      document.settings.load = .ok (strategy, given.names) := by
  rcases exists_document hStrategy hNames hStrategyFields
      hNameFields hEnding with
    ⟨document, hRead, hStrategyLookup, hNameLookup⟩
  refine ⟨document, hRead, ?_⟩
  exact
    Settings.load_eq_ok_iff.mpr
      ⟨checkStrategy_eq_ok_of_lookup hStrategy hSymbol
          hStrategyLookup,
        checkNames_eq_ok_of_lookup hNames hNameLookup,
        strategy_eq_of_lookup hStrategy hStrategyLookup,
        targetNames_eq_of_lookup hNames hNameLookup⟩

/- So is the file that it is written to. -/
theorem readStrategy_of_written
    (hStrategy : strategy.Writable)
    (hSymbol :
      strategy.symbol.toList.any Settings.isPathSeparator =
        false)
    (hNames : given.Valid)
    (hStrategyFields : strategyFields.Perm strategy.fields)
    (hNameFields : nameFields.Perm given.fields)
    {ending : String}
    (hEnding : ending = "" ∨ ending = "\n")
    {read : String → Except FileFault String}
    {path : String}
    (hText :
      read path =
        .ok
          (Ini.write (parts strategyFields nameFields) ++
            ending)) :
    readStrategy read path = .ok (strategy, given.names) := by
  rcases exists_load_of_written hStrategy hSymbol hNames
      hStrategyFields hNameFields hEnding with
    ⟨document, hRead, hLoad⟩
  simp only [readStrategy, hText, hRead]
  exact hLoad

/-
  A strategy that is written as a document loads unchanged,
  and so do the target names that are given with it.  Rules may
  be ill-formed, and the lines of a heading may come in any
  order.
-/
theorem loads_as_written
    (hStrategy : strategy.Writable)
    (hNames : given.Valid)
    (hStrategyFields : strategyFields.Perm strategy.fields)
    (hNameFields : nameFields.Perm given.fields)
    {ending : String}
    (hEnding : ending = "" ∨ ending = "\n") :
    ∃ document,
      Ini.Document.parse
          (Ini.write (parts strategyFields nameFields) ++
            ending) =
        .ok document ∧
      document.settings.strategy = .ok strategy ∧
      document.settings.targetNames = given.names := by
  rcases exists_document hStrategy hNames hStrategyFields
      hNameFields hEnding with
    ⟨document, hRead, hStrategyLookup, hNameLookup⟩
  exact
    ⟨document, hRead,
      strategy_eq_of_lookup hStrategy hStrategyLookup,
      targetNames_eq_of_lookup hNames hNameLookup⟩

/-
  The signs of documents are read back from a name and from
  rules, two of which are ill-formed.
-/
theorem loads_as_written_signs :
    ∃ document,
      Ini.Document.parse
          ("[strategy]\nname = ;Night [a]: #1\n" ++
            "symbol = EURUSD\n" ++
            "entry_long = OPEN[1] == LOW[2], [no=rule:\n" ++
            "exit_long = HIGH[1]; LOW[1] # late\n" ++
            "[emit]\nperiod = PERIOD_H1\n") =
        .ok document ∧
      document.settings.strategy =
        .ok
          { name := ";Night [a]: #1"
            symbol := "EURUSD"
            entryLong := ⟨["OPEN[1] == LOW[2]", "[no=rule:"]⟩
            exitLong := ⟨["HIGH[1]; LOW[1] # late"]⟩ } ∧
      document.settings.targetNames =
        { symbol := "_Symbol"
          period := "PERIOD_H1"
          series := "Bars" } := by
  have hStrategy :
      Writable
        { name := ";Night [a]: #1"
          symbol := "EURUSD"
          entryLong := ⟨["OPEN[1] == LOW[2]", "[no=rule:"]⟩
          exitLong := ⟨["HIGH[1]; LOW[1] # late"]⟩ } :=
    ⟨by decide +kernel, by decide +kernel, by decide +kernel⟩
  have hNames :
      GivenNames.Valid { period := some "PERIOD_H1" } := by
    decide
  rcases loads_as_written hStrategy hNames (List.Perm.refl _)
      (List.Perm.refl _) (Or.inr rfl) with
    ⟨document, hRead, hLoaded⟩
  refine ⟨document, ?_, hLoaded⟩
  rw [← hRead]
  congr 1

end Strategy

end BarRules
