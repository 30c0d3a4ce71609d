import BarRules.Proofs.RuleSet.AllOrNothing
import BarRules.Proofs.Text.Trimming
import BarRules.Proofs.Token.Concatenation

/-
  Lists of rules with commas between them.

  Key definitions include:
    * `BarRules.RuleSet.Entries`

  Key theorems include:
    * `BarRules.Scan.Lexes.comma_not_mem`
    * `BarRules.Scan.Lexes.of_append_blanks`
    * `BarRules.Rule.parse_trim`
    * `BarRules.RuleSet.rules_ofList`
    * `BarRules.RuleSet.ofList_keeps_rules`

  No lexeme holds a comma, so an accepted rule is cut nowhere.
  Every lexeme starts and ends with a character that is not
  blank, so trimming moves the tokens of a rule and changes
  none of them.
-/

------------------------------------------------------------
-- Characters of Lexemes
------------------------------------------------------------

namespace BarRules

namespace Scan

/- No lexeme holds a comma. -/
theorem Lexeme.comma_not_mem
    {text : List Char}
    {found : List Token}
    (h : Lexeme text found) :
    ',' ∉ text := by
  cases h with
  | @price word field lead digits trail hWord hOffset =>
      have hKeyword : ',' ∉ word.toList := by
        rw [(mem_keywords_iff ..).mp hWord]
        cases field <;> decide
      have hBlanks (blanks : List Char)
          (h : ∀ c ∈ blanks, Text.isBlank c = true) :
          ',' ∉ blanks :=
        fun hMem => absurd (h ',' hMem) (by decide)
      have hDigits : ',' ∉ digits :=
        fun hMem =>
          absurd (hOffset.isDigit ',' hMem) (by decide)
      simp [hKeyword, hBlanks lead hOffset.lead_blank, hDigits,
        hBlanks trail hOffset.trail_blank]
  | @symbol text kind hSymbol =>
      have hAll :
          ∀ pair ∈ symbols, ',' ∉ pair.1.toList := by
        decide
      exact hAll _ hSymbol

/- No lexeme ends with a blank. -/
theorem Lexeme.isBlank_of_getLast?
    {text : List Char}
    {found : List Token}
    (h : Lexeme text found)
    {c : Char}
    (hLast : text.getLast? = some c) :
    Text.isBlank c = false := by
  cases h with
  | @price word field lead digits trail hWord hOffset =>
      have hClosing : ']' = c := by
        simpa [List.getLast?_append, List.getLast?_cons]
          using hLast
      rw [← hClosing]
      decide
  | @symbol text kind hSymbol =>
      have hAll :
          ∀ pair ∈ symbols,
            pair.1.toList.getLast?.any Text.isBlank =
              false := by
        decide
      have hFound := hAll _ hSymbol
      rwa [hLast] at hFound

/- No text that is scanned holds a comma. -/
theorem Lexes.comma_not_mem
    {pos : Nat}
    {cs : List Char}
    {tokens : List Token}
    (h : Lexes pos cs tokens) :
    ',' ∉ cs := by
  induction h with
  | done pos => simp
  | blank hBlank rest ih =>
      intro hMem
      rcases List.mem_cons.mp hMem with rfl | hRest
      · exact absurd hBlank (by decide)
      · exact ih hRest
  | lexeme hLexeme hEnds rest ih =>
      intro hMem
      rcases List.mem_append.mp hMem with hText | hRest
      · exact hLexeme.comma_not_mem hText
      · exact ih hRest

end Scan

end BarRules

------------------------------------------------------------
-- Blanks Around Rules
------------------------------------------------------------

namespace BarRules

namespace Scan

variable {pos : Nat}
variable {cs blanks : List Char}
variable {tokens : List Token}

/- Blanks in front only move the rest of the scan. -/
theorem tokensFrom_blanks_append
    (hBlanks : ∀ c ∈ blanks, Text.isBlank c = true)
    (pos : Nat)
    (cs : List Char) :
    tokensFrom pos (blanks ++ cs) =
      tokensFrom (pos + Text.byteLength blanks) cs := by
  induction blanks generalizing pos with
  | nil => rfl
  | cons c blanks ih =>
      have hOthers :
          ∀ d ∈ blanks, Text.isBlank d = true :=
        fun d hMem => hBlanks d (List.mem_cons_of_mem c hMem)
      rw [List.cons_append,
        tokensFrom_blank (hBlanks c List.mem_cons_self),
        ih hOthers, Text.byteLength, Nat.add_assoc]

/- What may end before some text may end before less of it. -/
theorem EndsBefore.of_append
    {text rest : List Char}
    (h : EndsBefore text (rest ++ blanks)) :
    EndsBefore text rest := by
  intro hShort
  cases rest with
  | nil => simp
  | cons c rest => exact h hShort

/- A blank at the end can be left out. -/
theorem Lexes.of_concat_blank
    {c : Char}
    (hBlank : Text.isBlank c = true)
    (h : Lexes pos (cs ++ [c]) tokens) :
    Lexes pos cs tokens := by
  generalize hText : cs ++ [c] = text at h
  induction h generalizing cs with
  | done pos => simp at hText
  | @blank pos d others tokens hFirst rest ih =>
      cases cs with
      | nil =>
          simp only [List.nil_append, List.cons.injEq] at hText
          have hRest := tokensFrom_of_lexes rest
          rw [← hText.2, tokensFrom] at hRest
          cases hRest
          exact Lexes.done pos
      | cons first cs =>
          simp only [List.cons_append, List.cons.injEq]
            at hText
          rw [hText.1]
          exact Lexes.blank hFirst (ih hText.2)
  | @lexeme pos text others found tokens hLexeme hEnds rest
      ih =>
      rcases List.eq_nil_or_concat' others with
        rfl | ⟨front, last, rfl⟩
      · -- The lexeme would end with the blank.
        rw [List.append_nil] at hText
        have hLast : text.getLast? = some c := by
          rw [← hText, List.getLast?_concat]
        rw [hLexeme.isBlank_of_getLast? hLast] at hBlank
        cases hBlank
      · rw [← List.append_assoc] at hText
        rcases List.append_inj' hText rfl with ⟨rfl, hLast⟩
        rw [← hLast] at hEnds ih
        exact Lexes.lexeme hLexeme hEnds.of_append (ih rfl)

/- So can any blanks at the end. -/
theorem Lexes.of_append_blanks
    (hBlanks : ∀ c ∈ blanks, Text.isBlank c = true)
    (h : Lexes pos (cs ++ blanks) tokens) :
    Lexes pos cs tokens := by
  induction blanks generalizing cs with
  | nil => rwa [List.append_nil] at h
  | cons c blanks ih =>
      have hOthers :
          ∀ d ∈ blanks, Text.isBlank d = true :=
        fun d hMem => hBlanks d (List.mem_cons_of_mem c hMem)
      rw [List.append_cons] at h
      exact
        (ih hOthers h).of_concat_blank
          (hBlanks c List.mem_cons_self)

end Scan

namespace Rule

/- A rule is read as what is left of it without its blanks. -/
theorem parse_trim
    {rule : String}
    {e : Expr}
    (h : parse rule = .ok e) :
    parse (Text.trim rule) = .ok e := by
  rcases (parse_eq_ok_iff ..).mp h with
    ⟨tokens, hScan, hRead⟩
  rcases Text.exists_blanks_around rule.toList with
    ⟨lead, trail, hLead, hTrail, hRule⟩
  have hLexes := (scan_eq_ok_iff rule tokens).mp hScan
  rw [hRule, ← List.append_assoc] at hLexes
  have hFront :=
    Scan.tokensFrom_of_lexes (hLexes.of_append_blanks hTrail)
  rw [Scan.tokensFrom_blanks_append hLead, Nat.zero_add]
    at hFront
  have hMoved :=
    Scan.tokensFrom_add (Text.byteLength lead) 0
      (Text.trimChars rule.toList)
  rw [Nat.add_zero, hFront] at hMoved
  have hTrimmed :
      Scan.tokensFrom 0 (Text.trimChars rule.toList) =
        scan (Text.trim rule) := by
    rw [scan, Text.trim, String.toList_ofList]
  rw [hTrimmed] at hMoved
  cases hFound : scan (Text.trim rule) with
  | error fault =>
      rw [hFound] at hMoved
      cases hMoved
  | ok found =>
      rw [hFound] at hMoved
      have hTokens :
          tokens =
            found.map (Token.shift (Text.byteLength lead)) :=
        Except.ok.inj hMoved
      have hKinds :
          tokens.map Token.kind = found.map Token.kind := by
        rw [hTokens, List.map_map]
        rfl
      rw [hKinds] at hRead
      exact (parse_eq_ok_iff ..).mpr ⟨found, hFound, hRead⟩

/- An accepted rule does not consist of blanks. -/
theorem trim_ne_empty_of_parse
    {rule : String}
    {e : Expr}
    (h : parse rule = .ok e) :
    Text.trim rule ≠ "" := by
  intro hEmpty
  have hTrimmed := parse_trim h
  rw [hEmpty] at hTrimmed
  have hNone : (parse "").isOk = false := by decide +kernel
  rw [hTrimmed] at hNone
  cases hNone

/- An accepted rule holds no comma. -/
theorem comma_not_mem_of_parse
    {rule : String}
    {e : Expr}
    (h : parse rule = .ok e) :
    ',' ∉ rule.toList := by
  rcases (parse_eq_ok_iff ..).mp h with ⟨tokens, hScan, _⟩
  exact ((scan_eq_ok_iff rule tokens).mp hScan).comma_not_mem

end Rule

end BarRules

------------------------------------------------------------
-- Lists
------------------------------------------------------------

namespace BarRules

namespace RuleSet

/-
  The entries between the commas of a list, and the rules that
  are written in them in this order.  An entry holds blanks
  only, or a rule with any blanks around it.
-/
inductive Entries : List String → List String → Prop where
  | done : Entries [] []
  | blank {entry : String} {entries rules : List String}
      (hBlank : ∀ c ∈ entry.toList, Text.isBlank c = true)
      (rest : Entries entries rules) :
      Entries (entry :: entries) rules
  | rule {lead trail : String} {entries rules : List String}
      (rule : String)
      (hLead : ∀ c ∈ lead.toList, Text.isBlank c = true)
      (hTrail : ∀ c ∈ trail.toList, Text.isBlank c = true)
      (rest : Entries entries rules) :
      Entries ((lead ++ rule ++ trail) :: entries)
        (rule :: rules)

variable {entries rules : List String}

/- Blanks hold no comma. -/
theorem comma_not_mem_of_isBlank
    {text : String}
    (h : ∀ c ∈ text.toList, Text.isBlank c = true) :
    ',' ∉ text.toList :=
  fun hMem => absurd (h ',' hMem) (by decide)

/- Entries hold no comma if their rules hold none. -/
theorem Entries.comma_not_mem
    (h : Entries entries rules)
    (hRules : ∀ rule ∈ rules, ',' ∉ rule.toList) :
    ∀ entry ∈ entries, ',' ∉ entry.toList := by
  induction h with
  | done => simp
  | blank hBlank rest ih =>
      intro entry hEntry
      rcases List.mem_cons.mp hEntry with rfl | hMem
      · exact comma_not_mem_of_isBlank hBlank
      · exact ih hRules entry hMem
  | rule rule hLead hTrail rest ih =>
      intro entry hEntry
      rcases List.mem_cons.mp hEntry with rfl | hMem
      · have hRule := hRules rule List.mem_cons_self
        simp [hRule, comma_not_mem_of_isBlank hLead,
          comma_not_mem_of_isBlank hTrail]
      · exact
          ih
            (fun other hOther =>
              hRules other (List.mem_cons_of_mem rule hOther))
            entry hMem

/- Trimmed entries are the trimmed rules, or empty. -/
theorem Entries.filter_trim
    (h : Entries entries rules)
    (hRules : ∀ rule ∈ rules, Text.trim rule ≠ "") :
    (entries.map Text.trim).filter (· ≠ "") =
      rules.map Text.trim := by
  induction h with
  | done => rfl
  | @blank entry entries rules hBlank rest ih =>
      have hEmpty : Text.trim entry = "" := by
        have hNone := Text.trimChars_append_blanks hBlank []
        rw [List.nil_append] at hNone
        rw [Text.trim, hNone]
        rfl
      rw [List.map_cons, hEmpty, List.filter_cons_of_neg,
        ih hRules]
      simp
  | @rule lead trail entries rules rule hLead hTrail rest ih =>
      have hTrimmed :
          Text.trim (lead ++ rule ++ trail) =
            Text.trim rule := by
        rw [Text.trim, Text.trim, String.toList_append,
          String.toList_append,
          Text.trimChars_append_blanks hTrail,
          Text.trimChars_blanks_append hLead]
      have hKept := hRules rule List.mem_cons_self
      have hOthers :
          ∀ other ∈ rules, Text.trim other ≠ "" :=
        fun other hOther =>
          hRules other (List.mem_cons_of_mem rule hOther)
      rw [List.map_cons, hTrimmed, List.filter_cons_of_pos,
        ih hOthers, List.map_cons]
      simpa using hKept

/- The rules of a list are found, without the blanks around. -/
theorem rules_ofList
    (h : Entries entries rules)
    (hRules : ∀ rule ∈ rules, ∃ e, Rule.parse rule = .ok e) :
    (ofList (Text.joinWith "," entries)).rules =
      rules.map Text.trim := by
  have hCommas : ∀ entry ∈ entries, ',' ∉ entry.toList := by
    apply h.comma_not_mem
    intro rule hRule
    rcases hRules rule hRule with ⟨e, hParse⟩
    exact Rule.comma_not_mem_of_parse hParse
  have hKept : ∀ rule ∈ rules, Text.trim rule ≠ "" := by
    intro rule hRule
    rcases hRules rule hRule with ⟨e, hParse⟩
    exact Rule.trim_ne_empty_of_parse hParse
  cases entries with
  | nil =>
      cases h
      decide
  | cons entry entries =>
      have hTrimmed := h.filter_trim hKept
      rw [ofList, Text.pieces_joinWith rfl (by simp) hCommas]
      exact hTrimmed

/-
  A list with commas keeps its rules.  Accepted rules are found
  in their order, one for one, and are read as they are read
  alone, whatever blanks stand around them and however many
  entries are blank.
-/
theorem ofList_keeps_rules
    {es : List Expr}
    (hEntries : Entries entries rules)
    (hRules : rules.map Rule.parse = es.map .ok) :
    let set := ofList (Text.joinWith "," entries)
    set.rules.length = rules.length ∧
      set.expressions = .ok es := by
  intro set
  have hAccepted :
      ∀ rule ∈ rules, ∃ e, Rule.parse rule = .ok e :=
    fun _ hRule => exists_ok_of_mem hRules hRule
  have hFound : set.rules = rules.map Text.trim :=
    rules_ofList hEntries hAccepted
  have hRead : set.rules.map Rule.parse = es.map .ok := by
    rw [hFound, List.map_map, ← hRules]
    apply List.map_congr_left
    intro rule hRule
    rcases hAccepted rule hRule with ⟨e, hParse⟩
    rw [hParse]
    exact Rule.parse_trim hParse
  constructor
  · rw [hFound, List.length_map]
  · exact mapM_of_results hRead

/-
  Two rules in a list that starts and ends with blank entries,
  with blanks of several kinds around them and in them.
-/
theorem ofList_keeps_two_rules :
    let set :=
      ofList
        ",\u2003OPEN[ 1]<CLOSE[6]\t,\n,HIGH[0] > LOW[0]\u00a0, "
    set.rules.length = 2 ∧
      set.expressions =
        .ok
          [.binary (.compare .less)
              (.barPrice ⟨.opening, 1⟩)
              (.barPrice ⟨.closing, 6⟩),
            .binary (.compare .greater)
              (.barPrice ⟨.high, 0⟩)
              (.barPrice ⟨.low, 0⟩)] := by
  have hBlank (text : String)
      (h : text.toList.all Text.isBlank = true) :
      ∀ c ∈ text.toList, Text.isBlank c = true :=
    List.all_eq_true.mp h
  have hEntries :
      Entries
        ["", "\u2003" ++ "OPEN[ 1]<CLOSE[6]" ++ "\t", "\n",
          "" ++ "HIGH[0] > LOW[0]" ++ "\u00a0", " "]
        ["OPEN[ 1]<CLOSE[6]", "HIGH[0] > LOW[0]"] := by
    apply Entries.blank (hBlank _ (by decide))
    apply Entries.rule _ (hBlank _ (by decide))
      (hBlank _ (by decide))
    apply Entries.blank (hBlank _ (by decide))
    apply Entries.rule _ (hBlank _ (by decide))
      (hBlank _ (by decide))
    apply Entries.blank (hBlank _ (by decide))
    exact Entries.done
  have hText :
      ",\u2003OPEN[ 1]<CLOSE[6]\t,\n,HIGH[0] > LOW[0]\u00a0, " =
        Text.joinWith ","
          ["", "\u2003" ++ "OPEN[ 1]<CLOSE[6]" ++ "\t", "\n",
            "" ++ "HIGH[0] > LOW[0]" ++ "\u00a0", " "] := by
    decide +kernel
  rw [hText]
  exact ofList_keeps_rules hEntries (by decide +kernel)

end RuleSet

end BarRules
