import BarRules.Ini
import BarRules.Proofs.Text.Trimming
import Mathlib.Data.List.Nodup

/-
  Documents that are written line by line are read again.

  Key definitions include:
    * `BarRules.Ini.IsWord`
    * `BarRules.Ini.IsValue`
    * `BarRules.Ini.Part`
    * `BarRules.Ini.write`

  Key theorems include:
    * `BarRules.Text.lowercase_of_isWord`
    * `BarRules.Ini.ofText_headingLine`
    * `BarRules.Ini.ofText_entryLine`
    * `BarRules.Ini.parse_write`
    * `BarRules.Ini.lookup_write`

  A word has no blank, no delimiter and no bracket, so the line
  that it starts is neither a heading nor a comment and is cut
  behind the word.  Whatever comes after the first delimiter is
  left as it is.
-/

------------------------------------------------------------
-- Written Documents
------------------------------------------------------------

namespace BarRules

namespace Ini

/- The characters of the words that settings are kept under. -/
def wordChars : String := "_abcdefghijklmnopqrstuvwxyz"

/- A heading or key that is kept as it is written. -/
def IsWord (s : String) : Prop :=
  s ≠ "" ∧ ∀ c ∈ s.toList, c ∈ wordChars.toList

instance (s : String) : Decidable (IsWord s) :=
  decidable_of_iff
    (s ≠ "" ∧ s.toList.all wordChars.toList.contains = true)
    (by simp [IsWord])

/- Text of one line with no blank at its ends. -/
def IsValue (s : String) : Prop :=
  s ≠ "" ∧ Text.trim s = s ∧ '\n' ∉ s.toList

instance (s : String) : Decidable (IsValue s) :=
  inferInstanceAs (Decidable (_ ∧ _ ∧ _))

/- The line of a heading. -/
def headingLine (heading : String) : String :=
  "[" ++ heading ++ "]"

/- The line of a key and its value. -/
def entryLine (key value : String) : String :=
  key ++ " = " ++ value

/- Keys under a heading, with the values of those that are set. -/
structure Part where
  heading : String
  fields : List (String × Option String)

namespace Part

/- The keys that are set, with their values. -/
def written (part : Part) : List (String × String) :=
  part.fields.filterMap
    (fun field => field.2.map (field.1, ·))

/- The lines of a part.  There are none if no key is set. -/
def lines (part : Part) : List String :=
  match part.written with
  | [] => []
  | _ :: _ =>
      headingLine part.heading ::
        part.written.map (fun pair => entryLine pair.1 pair.2)

/- The entries that the lines of a part stand for. -/
def entries (part : Part) : List Entry :=
  part.written.map
    (fun pair => ⟨part.heading, pair.1, some pair.2⟩)

/- Words and values stand where they belong, and no key twice. -/
structure Plain (part : Part) : Prop where
  heading : IsWord part.heading
  keys : ∀ field ∈ part.fields, IsWord field.1
  values : ∀ field ∈ part.fields, ∀ v ∈ field.2, IsValue v
  distinct : (part.fields.map Prod.fst).Nodup

/- A key is written if its value is set. -/
theorem mem_written_iff
    {part : Part}
    {key value : String} :
    (key, value) ∈ part.written ↔
      (key, some value) ∈ part.fields := by
  simp only [written, List.mem_filterMap, Option.map_eq_some_iff,
    Prod.mk.injEq]
  constructor
  · rintro ⟨⟨_, _⟩, hField, _, rfl, rfl, rfl⟩
    exact hField
  · intro hField
    exact ⟨_, hField, value, rfl, rfl, rfl⟩

/- A part with a key that is set has lines. -/
theorem lines_ne_nil
    {part : Part}
    {key value : String}
    (hField : (key, some value) ∈ part.fields) :
    part.lines ≠ [] := by
  have hWritten := mem_written_iff.mpr hField
  unfold lines
  split
  · rename_i hEmpty
    rw [hEmpty] at hWritten
    cases hWritten
  · simp

/- The keys of a part may be listed in any order. -/
theorem Plain.perm
    {heading : String}
    {fields listed : List (String × Option String)}
    (h : Plain ⟨heading, fields⟩)
    (hListed : listed.Perm fields) :
    Plain ⟨heading, listed⟩ where
  heading := h.heading
  keys := fun field hField =>
    h.keys field (hListed.mem_iff.mp hField)
  values := fun field hField =>
    h.values field (hListed.mem_iff.mp hField)
  distinct := (hListed.map Prod.fst).nodup_iff.mpr h.distinct

end Part

/- The text of parts one after another. -/
def write (parts : List Part) : String :=
  Text.joinWith "\n" (parts.flatMap Part.lines)

end Ini

end BarRules

------------------------------------------------------------
-- Words
------------------------------------------------------------

namespace BarRules

namespace Ini

/- The characters that mean something to documents or case. -/
def specialChars : List Char :=
  ['\u0130', '\u03A3', ';', '#', '[', ']', '\n']

/- The characters of words are nothing but that. -/
theorem of_mem_wordChars
    {c : Char}
    (h : c ∈ wordChars.toList) :
    Text.isBlank c = false ∧
      Line.isDelimiter c = false ∧
      Text.lowerChar c = c ∧
      c ∉ specialChars := by
  have hAll :
      wordChars.toList.all
          (fun c =>
            !Text.isBlank c && !Line.isDelimiter c &&
              Text.lowerChar c == c &&
              !specialChars.contains c) =
        true := by
    decide +kernel
  have hChar := List.all_eq_true.mp hAll c h
  simpa [and_assoc] using hChar

end Ini

namespace Text

open Ini

/- Words are in lower case. -/
theorem lowercase_of_isWord
    {s : String}
    (h : IsWord s) :
    lowercase s = s := by
  have hOther :
      ∀ c ∈ s.toList, c ≠ '\u0130' ∧ c ≠ '\u03A3' := by
    intro c hC
    rcases of_mem_wordChars (h.2 c hC) with ⟨_, _, _, hSpecial⟩
    constructor
    · rintro rfl
      simp [specialChars] at hSpecial
    · rintro rfl
      simp [specialChars] at hSpecial
  have hSame (c : Char) (hC : c ∈ s.toList) :
      lowerChar c = c :=
    (of_mem_wordChars (h.2 c hC)).2.2.1
  rw [lowercase_eq_map hOther, ← String.toList_inj,
    String.toList_map]
  simpa using List.map_congr_left hSame

end Text

end BarRules

------------------------------------------------------------
-- Written Lines
------------------------------------------------------------

namespace BarRules

namespace Ini

variable {heading key value : String}

/- Values may stand at both ends of one line. -/
theorem IsValue.between
    {front middle back : String}
    (hFront : IsValue front)
    (hMiddle : '\n' ∉ middle.toList)
    (hBack : IsValue back) :
    IsValue (front ++ middle ++ back) := by
  rcases hFront with ⟨hFrontText, hFrontTrim, hFrontLine⟩
  rcases hBack with ⟨hBackText, hBackTrim, hBackLine⟩
  rw [Text.trim_eq_self_iff] at hFrontTrim hBackTrim
  refine
    ⟨Text.between_ne_empty hFrontText middle back, ?_, ?_⟩
  · rw [Text.trim_eq_self_iff, Text.head?_between hFrontText,
      Text.getLast?_between front middle hBackText]
    exact ⟨hFrontTrim.1, hBackTrim.2⟩
  · simp [hFrontLine, hMiddle, hBackLine]

/- Words are values without any blank. -/
theorem IsWord.isValue (h : IsWord key) : IsValue key := by
  refine ⟨h.1, ?_, ?_⟩
  · apply Text.trim_eq_self_of_forall
    intro c hC
    exact (of_mem_wordChars (h.2 c hC)).1
  · intro hMem
    have hSpecial := (of_mem_wordChars (h.2 _ hMem)).2.2.2
    simp [specialChars] at hSpecial

/- The line of a heading has no blank at its ends. -/
theorem isValue_headingLine (h : IsWord heading) :
    IsValue (headingLine heading) :=
  IsValue.between (by decide) h.isValue.2.2 (by decide)

/- The line of an entry has no blank at its ends. -/
theorem isValue_entryLine
    (hKey : IsWord key)
    (hValue : IsValue value) :
    IsValue (entryLine key value) :=
  hKey.isValue.between (by decide) hValue

/- The characters of a value are trimmed. -/
theorem IsValue.trimChars_eq (h : IsValue value) :
    Text.trimChars value.toList = value.toList :=
  Text.trim_eq_self_iff_trimChars.mp h.2.1

/- A word is its own name. -/
theorem name_of_isWord
    {cs : List Char}
    (h : IsWord key)
    (hChars : Text.trimChars cs = key.toList) :
    Line.name cs = key := by
  rw [Line.name, hChars, String.ofList_toList,
    Text.lowercase_of_isWord h]

/- A heading is read from its line. -/
theorem ofText_headingLine
    (h : IsWord heading) :
    Line.ofText (headingLine heading) =
      .ok (.heading heading) := by
  have hLine :
      (headingLine heading).toList =
        '[' :: (heading.toList ++ [']']) := by
    simp [headingLine]
  have hName :
      Line.ofHeading (heading.toList ++ [']']) =
        .ok (.heading (Line.name heading.toList)) := by
    simp [Line.ofHeading]
  rw [Line.ofText, (isValue_headingLine h).trimChars_eq, hLine]
  exact
    hName.trans
      (by rw [name_of_isWord h h.isValue.trimChars_eq])

/- The line of an entry, cut at its delimiter. -/
theorem toList_entryLine (key value : String) :
    (entryLine key value).toList =
      (key.toList ++ [' ']) ++
        '=' :: ([' '] ++ value.toList) := by
  simp [entryLine]

/- An entry is cut at the first delimiter of its line. -/
theorem ofEntry_entryLine
    (hKey : IsWord key)
    (hValue : IsValue value) :
    Line.ofEntry (entryLine key value).toList =
      .ok (.entry key (some value)) := by
  have hBlank : Text.isBlank ' ' = true := by decide
  have hFront :
      ∀ c ∈ key.toList ++ [' '],
        (!Line.isDelimiter c) = true := by
    intro c hC
    rcases List.mem_append.mp hC with hMem | hSpace
    · rw [(of_mem_wordChars (hKey.2 c hMem)).2.1]
      rfl
    · rw [List.mem_singleton.mp hSpace]
      decide
  have hStop :
      ∀ c, ('=' :: ([' '] ++ value.toList)).head? = some c →
        (!Line.isDelimiter c) = false := by
    intro c hFirst
    rw [← Option.some.inj hFirst]
    decide
  have hName :
      Text.trimChars (key.toList ++ [' ']) = key.toList :=
    (Text.trimChars_concat hBlank _).trans
      hKey.isValue.trimChars_eq
  have hRest :
      Text.trimChars ([' '] ++ value.toList) = value.toList :=
    (Text.trimChars_cons hBlank _).trans
      hValue.trimChars_eq
  have hNonempty : key.toList ≠ [] := by simpa using hKey.1
  rw [Line.ofEntry, toList_entryLine,
    Text.takeWhile_append_of_stop hFront hStop,
    Text.dropWhile_append_of_stop hFront hStop]
  simp only [hName, hRest, if_neg hNonempty,
    name_of_isWord hKey hName, String.ofList_toList]

/- A key and its value are read from their line. -/
theorem ofText_entryLine
    (hKey : IsWord key)
    (hValue : IsValue value) :
    Line.ofText (entryLine key value) =
      .ok (.entry key (some value)) := by
  -- The line starts as its key does, so it is no comment and
  -- no heading.
  have hOther (c : Char) (rest : List Char)
      (hSpecial : c ∉ wordChars.toList)
      (hChars : (entryLine key value).toList = c :: rest) :
      False := by
    apply hSpecial
    apply hKey.2
    rw [toList_entryLine, List.append_assoc] at hChars
    cases hKeyChars : key.toList with
    | nil =>
        exact absurd hKeyChars (by simpa using hKey.1)
    | cons first others =>
        rw [hKeyChars, List.cons_append] at hChars
        rw [(List.cons.inj hChars).1]
        exact List.mem_cons_self
  rw [Line.ofText, (isValue_entryLine hKey hValue).trimChars_eq]
  split
  · rename_i hEmpty
    simp [toList_entryLine] at hEmpty
  · exact (hOther ';' _ (by decide) ‹_›).elim
  · exact (hOther '#' _ (by decide) ‹_›).elim
  · exact (hOther '[' _ (by decide) ‹_›).elim
  · exact ofEntry_entryLine hKey hValue

end Ini

end BarRules

------------------------------------------------------------
-- Reading Written Documents
------------------------------------------------------------

namespace BarRules

namespace Ini

/- Lines that stand for entries, wherever they are. -/
def Reads
    (heading : String)
    (lines : List String)
    (entries : List Entry) :
    Prop :=
  ∀ number,
    Document.readLines number heading lines = .ok entries

variable {heading key value : String}
variable {lines : List String}
variable {entries : List Entry}

/- A line without content stands for nothing. -/
theorem reads_blank (heading : String) :
    Reads heading [""] [] := by
  intro number
  have hBlank : Line.ofText "" = .ok .blank := by decide
  simp [Document.readLines, hBlank]

/- A heading is in force for the lines after it. -/
theorem Reads.under
    (h : Reads heading lines entries)
    (hWord : IsWord heading)
    (before : String) :
    Reads before (headingLine heading :: lines) entries := by
  intro number
  simp only [Document.readLines, ofText_headingLine hWord]
  exact h (number + 1)

/- An entry belongs to the heading in force. -/
theorem Reads.entry
    (h : Reads heading lines entries)
    (hKey : IsWord key)
    (hValue : IsValue value) :
    Reads heading (entryLine key value :: lines)
      (⟨heading, key, some value⟩ :: entries) := by
  intro number
  simp only [Document.readLines, ofText_entryLine hKey hValue,
    h (number + 1)]

/- Entries one after another. -/
theorem Reads.pairs
    (h : Reads heading lines entries)
    {pairs : List (String × String)}
    (hPairs : ∀ pair ∈ pairs, IsWord pair.1 ∧ IsValue pair.2) :
    Reads heading
      (pairs.map (fun pair => entryLine pair.1 pair.2) ++ lines)
      (pairs.map (fun pair => ⟨heading, pair.1, some pair.2⟩) ++
        entries) := by
  induction pairs with
  | nil => exact h
  | cons pair pairs ih =>
      rcases hPairs pair List.mem_cons_self with
        ⟨hKey, hValue⟩
      have hRest :=
        ih fun other hOther =>
          hPairs other (List.mem_cons_of_mem pair hOther)
      exact hRest.entry hKey hValue

/- What is written under a heading are words and values. -/
theorem Part.Plain.of_mem_written
    {part : Part}
    (h : part.Plain)
    {pair : String × String}
    (hPair : pair ∈ part.written) :
    IsWord pair.1 ∧ IsValue pair.2 := by
  have hField := mem_written_iff.mp hPair
  exact ⟨h.keys _ hField, h.values _ hField pair.2 rfl⟩

/-
  Parts one after another, whatever heading is in force before
  them.  Nothing but blank lines comes after them.
-/
theorem reads_parts
    {parts : List Part}
    (hParts : ∀ part ∈ parts, part.Plain)
    (hLines : ∀ heading, Reads heading lines []) :
    ∀ heading,
      Reads heading (parts.flatMap Part.lines ++ lines)
        (parts.flatMap Part.entries) := by
  induction parts with
  | nil => exact hLines
  | cons part parts ih =>
      intro heading
      have hPart := hParts part List.mem_cons_self
      have hRest :=
        ih fun other hOther =>
          hParts other (List.mem_cons_of_mem part hOther)
      rw [List.flatMap_cons, List.flatMap_cons,
        List.append_assoc, Part.lines, Part.entries]
      split
      · rename_i hEmpty
        rw [hEmpty]
        exact hRest heading
      · have hEntries :=
          (hRest part.heading).pairs fun _ =>
            hPart.of_mem_written
        exact hEntries.under hPart.heading heading

/- The lines of parts hold no line feed. -/
theorem lineFeed_not_mem_lines
    {part : Part}
    (h : part.Plain)
    {line : String}
    (hLine : line ∈ part.lines) :
    '\n' ∉ line.toList := by
  unfold Part.lines at hLine
  split at hLine
  · cases hLine
  · rcases List.mem_cons.mp hLine with rfl | hMem
    · exact (isValue_headingLine h.heading).2.2
    · rcases List.mem_map.mp hMem with ⟨pair, hPair, rfl⟩
      rcases h.of_mem_written hPair with ⟨hKey, hValue⟩
      exact (isValue_entryLine hKey hValue).2.2

/-
  Written parts are read as the entries that they stand for,
  with or without a line feed at the end.
-/
theorem parse_write
    {parts : List Part}
    (hParts : ∀ part ∈ parts, part.Plain)
    (hWritten : parts.flatMap Part.lines ≠ [])
    {ending : String}
    (hEnding : ending = "" ∨ ending = "\n") :
    Document.parse (write parts ++ ending) =
      .ok ⟨parts.flatMap Part.entries⟩ := by
  have hFeeds :
      ∀ line ∈ parts.flatMap Part.lines,
        '\n' ∉ line.toList := by
    intro line hLine
    rcases List.mem_flatMap.mp hLine with ⟨part, hPart, hMem⟩
    exact lineFeed_not_mem_lines (hParts part hPart) hMem
  have hCut :
      Text.pieces '\n' (write parts) =
        parts.flatMap Part.lines :=
    Text.pieces_joinWith rfl hWritten hFeeds
  have hRead :
      ∃ blanks,
        Text.pieces '\n' (write parts ++ ending) =
            parts.flatMap Part.lines ++ blanks ∧
          ∀ heading, Reads heading blanks [] := by
    rcases hEnding with rfl | rfl
    · refine ⟨[], ?_, fun _ _ => rfl⟩
      rw [String.append_empty, hCut, List.append_nil]
    · refine ⟨[""], ?_, reads_blank⟩
      have hFeed : "\n".toList = ['\n'] := rfl
      have hLast := Text.pieces_append hFeed (write parts) ""
      rw [String.append_empty, hCut] at hLast
      exact hLast
  rcases hRead with ⟨blanks, hPieces, hBlanks⟩
  have hEntries :=
    reads_parts hParts hBlanks Document.defaultHeading 1
  rw [Document.parse, hPieces, hEntries]

end Ini

end BarRules

------------------------------------------------------------
-- Looking Up What Was Written
------------------------------------------------------------

namespace BarRules

namespace Ini

variable {parts : List Part}
variable {part : Part}
variable {key : String}
variable {value : Option String}

/- The entries of parts are the keys that are set. -/
theorem mem_entries_iff
    {entry : Entry} :
    entry ∈ parts.flatMap Part.entries ↔
      ∃ part ∈ parts, ∃ text,
        (entry.key, some text) ∈ part.fields ∧
          entry = ⟨part.heading, entry.key, some text⟩ := by
  simp only [List.mem_flatMap, Part.entries, List.mem_map]
  constructor
  · rintro ⟨part, hPart, ⟨key, text⟩, hPair, rfl⟩
    exact
      ⟨part, hPart, text, Part.mem_written_iff.mp hPair, rfl⟩
  · rintro ⟨part, hPart, text, hField, hEntry⟩
    exact
      ⟨part, hPart, (entry.key, text),
        Part.mem_written_iff.mpr hField, hEntry.symm⟩

/- A heading and a key lead to one field only. -/
theorem eq_of_mem_entries
    (hParts : ∀ part ∈ parts, part.Plain)
    (hHeadings : (parts.map Part.heading).Nodup)
    (hPart : part ∈ parts)
    (hField : (key, value) ∈ part.fields)
    {entry : Entry}
    (hEntry : entry ∈ parts.flatMap Part.entries)
    (hHeading : entry.heading = part.heading)
    (hKey : entry.key = key) :
    entry.value = value := by
  rcases mem_entries_iff.mp hEntry with
    ⟨other, hOther, text, hOtherField, hEq⟩
  have hSameHeading : other.heading = part.heading := by
    rw [← hHeading, hEq]
  have hSame : other = part :=
    List.inj_on_of_nodup_map hHeadings hOther hPart
      hSameHeading
  rw [hSame, hKey] at hOtherField
  have hPair : (key, some text) = (key, value) :=
    List.inj_on_of_nodup_map (hParts part hPart).distinct
      hOtherField hField rfl
  rw [hEq]
  exact congrArg Prod.snd hPair

/-
  The value of a key is what was written, and a key that was
  not set is absent.
-/
theorem lookup_write
    (hParts : ∀ part ∈ parts, part.Plain)
    (hHeadings : (parts.map Part.heading).Nodup)
    (hPart : part ∈ parts)
    (hField : (key, value) ∈ part.fields) :
    Document.lookup ⟨parts.flatMap Part.entries⟩ part.heading
        key =
      value := by
  have hPlain := hParts part hPart
  simp only [Document.lookup,
    Text.lowercase_of_isWord hPlain.heading,
    Text.lowercase_of_isWord (hPlain.keys _ hField)]
  split
  · rename_i entry hFound
    have hMem := List.mem_of_find?_eq_some hFound
    have hMatches := List.find?_some hFound
    simp only [Bool.and_eq_true, beq_iff_eq] at hMatches
    exact
      eq_of_mem_entries hParts hHeadings hPart hField
        (List.mem_reverse.mp hMem) hMatches.1 hMatches.2
  · rename_i hNone
    cases value with
    | none => rfl
    | some text =>
        have hMem :
            ⟨part.heading, key, some text⟩ ∈
              (parts.flatMap Part.entries).reverse := by
          rw [List.mem_reverse, mem_entries_iff]
          exact ⟨part, hPart, text, hField, rfl⟩
        have hMismatch := List.find?_eq_none.mp hNone _ hMem
        simp at hMismatch

end Ini

end BarRules
