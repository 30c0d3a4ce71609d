import BarRules.Ini
import BarRules.Proofs.Settings.Loading

/-
  Where the values of a document come from.

  Key theorems include:
    * `BarRules.Ini.Line.mem_of_mem_ofText`
    * `BarRules.Ini.Document.not_mem_of_mem_readLines`
    * `BarRules.Ini.lineFeed_not_mem_of_lookup`
    * `BarRules.Settings.lineFeed_not_mem_of_strategy`

  A value is a part of one line of the document.  So nothing
  that is taken from it can hold the end of a line, however
  free the text of a name or a symbol is.
-/

------------------------------------------------------------
-- Values of Documents
------------------------------------------------------------

namespace BarRules

namespace Ini

variable {c : Char}

/- A value is cut out of what its entry is read from. -/
theorem Line.mem_of_mem_ofEntry
    {cs : List Char}
    {key value : String}
    (h : ofEntry cs = .ok (.entry key (some value)))
    (hMem : c ∈ value.toList) :
    c ∈ cs := by
  simp only [ofEntry] at h
  split at h
  · simp at h
  · rename_i delimiter found hCut
    split at h
    · cases h
    · simp only [Except.ok.injEq, entry.injEq,
        Option.some.injEq] at h
      rw [← h.2, String.toList_ofList] at hMem
      have hFound : c ∈ cs.dropWhile (!isDelimiter ·) := by
        rw [hCut]
        exact
          List.mem_cons_of_mem delimiter
            (Text.mem_of_mem_trimChars hMem)
      exact (List.dropWhile_sublist _).mem hFound

/- A value is cut out of its line. -/
theorem Line.mem_of_mem_ofText
    {line key value : String}
    (h : ofText line = .ok (.entry key (some value)))
    (hMem : c ∈ value.toList) :
    c ∈ line.toList := by
  apply Text.mem_of_mem_trimChars
  unfold ofText at h
  split at h
  · cases h
  · cases h
  · cases h
  · unfold ofHeading at h
    split at h <;> simp at h
  · exact mem_of_mem_ofEntry h hMem

namespace Document

/- What is on no line is in no value. -/
theorem not_mem_of_mem_readLines
    {number : Nat}
    {heading : String}
    {lines : List String}
    {entries : List Entry}
    (h : readLines number heading lines = .ok entries)
    (hLines : ∀ line ∈ lines, c ∉ line.toList)
    {entry : Entry}
    (hEntry : entry ∈ entries)
    {value : String}
    (hValue : entry.value = some value) :
    c ∉ value.toList := by
  induction lines generalizing number heading entries with
  | nil =>
      cases h
      cases hEntry
  | cons line rest ih =>
      have hRest : ∀ other ∈ rest, c ∉ other.toList :=
        fun other hMem =>
          hLines other (List.mem_cons_of_mem line hMem)
      unfold readLines at h
      split at h
      · cases h
      · exact ih h hRest hEntry
      · exact ih h hRest hEntry
      · rename_i key found hLine
        split at h
        · cases h
        · rename_i others hOthers
          cases h
          -- The entry is that of this line or of a later one.
          rcases List.mem_cons.mp hEntry with rfl | hMem
          · change found = some value at hValue
            rw [hValue] at hLine
            intro hC
            exact
              hLines line List.mem_cons_self
                (Line.mem_of_mem_ofText hLine hC)
          · exact ih hOthers hRest hMem

end Document

/- A value that is looked up ends no line. -/
theorem lineFeed_not_mem_of_lookup
    {text : String}
    {document : Document}
    (hParsed : Document.parse text = .ok document)
    {heading key value : String}
    (h : document.lookup heading key = some value) :
    '\n' ∉ value.toList := by
  unfold Document.parse at hParsed
  split at hParsed
  · cases hParsed
  · rename_i entries hEntries
    cases hParsed
    simp only [Document.lookup] at h
    split at h
    · rename_i entry hFound
      have hMem :=
        List.mem_reverse.mp (List.mem_of_find?_eq_some hFound)
      exact
        Document.not_mem_of_mem_readLines hEntries
          (fun _ => Text.not_mem_of_mem_pieces) hMem h
    · cases h

end Ini

namespace Settings

variable {text : String}
variable {document : Ini.Document}
variable {strategy : Strategy}

/- Neither does a text that is taken from a document. -/
theorem lineFeed_not_mem_of_text?
    (hParsed : Ini.Document.parse text = .ok document)
    {heading key found : String}
    (h : document.settings.text? heading key = some found) :
    '\n' ∉ found.toList := by
  rcases text?_eq_some_iff.mp h with ⟨⟨value, hValue, rfl⟩, _⟩
  intro hMem
  exact
    Ini.lineFeed_not_mem_of_lookup hParsed hValue
      (Text.mem_of_mem_trim hMem)

/- The name and the symbol of a strategy end no line. -/
theorem lineFeed_not_mem_of_strategy
    (hParsed : Ini.Document.parse text = .ok document)
    (h : document.settings.strategy = .ok strategy) :
    '\n' ∉ strategy.name.toList ∧
      '\n' ∉ strategy.symbol.toList := by
  rcases strategy_eq_ok_iff.mp h with ⟨hName, hSymbol, _⟩
  exact
    ⟨lineFeed_not_mem_of_text? hParsed hName,
      lineFeed_not_mem_of_text? hParsed hSymbol⟩

end Settings

end BarRules
