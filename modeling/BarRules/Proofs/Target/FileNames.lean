import BarRules.Proofs.FileTree.Growth
import BarRules.Proofs.Settings.Guards
import BarRules.Proofs.Target.Characters
import BarRules.Proofs.Text.Cutting

/-
  The names of files of conditions.

  Key theorems include:
    * `BarRules.Text.Decimal.signed_injective`
    * `BarRules.Platform.isName_fileName`
    * `BarRules.Platform.separator_not_mem_fileName`
    * `BarRules.Platform.eq_of_fileName_eq`
    * `BarRules.Platform.fileName_names_one_file`

  A file name holds the traded symbol and a time.  It names
  something in a directory.  The symbol may hold the signs that
  the name is put together with, but the time and the extension
  behind it do not, so a name is taken apart from its end.
-/

------------------------------------------------------------
-- Signed Numerals
------------------------------------------------------------

namespace BarRules

namespace Text

namespace Decimal

/- Signed numerals consist of digits and a minus. -/
theorem madeOf_signed
    {allowed : Char → Prop}
    (hMinus : allowed '-')
    (hDigit : ∀ c, c.isDigit = true → allowed c)
    (i : Int) :
    MadeOf allowed (Decimal.signed i) := by
  have hNumeral : MadeOf allowed (Decimal.text i.natAbs) :=
    (madeOf_decimal _).mono hDigit
  unfold Decimal.signed
  split
  · rw [madeOf_append]
    refine ⟨?_, hNumeral⟩
    intro c hC
    have hEq : c = '-' := by simpa using hC
    rw [hEq]
    exact hMinus
  · exact hNumeral

/- A numeral is that of one number. -/
theorem text_injective
    {m n : Nat}
    (h : text m = text n) :
    m = n := by
  have hDigits : Nat.toDigits 10 m = Nat.toDigits 10 n :=
    String.ofList_injective h
  rw [← Nat.ofDigitChars_ten_toDigits (n := m), hDigits,
    Nat.ofDigitChars_ten_toDigits]

/- A numeral does not start with a minus. -/
theorem minus_append_ne_text
    (s : String)
    (n : Nat) :
    "-" ++ s ≠ text n := by
  intro h
  have hMem : '-' ∈ (text n).toList := by
    rw [← h]
    simp
  exact absurd (madeOf_decimal n '-' hMem) (by decide)

/- A signed numeral is that of one number. -/
theorem signed_injective
    {i j : Int}
    (h : signed i = signed j) :
    i = j := by
  unfold signed at h
  split at h <;> split at h
  · have hNumber :=
      text_injective ((String.append_right_inj _).mp h)
    omega
  · exact absurd h (minus_append_ne_text _ _)
  · exact absurd h.symm (minus_append_ne_text _ _)
  · have hNumber := text_injective h
    omega

end Decimal

end Text

end BarRules

------------------------------------------------------------
-- File Names
------------------------------------------------------------

namespace BarRules

namespace Platform

open Text

/- A file name starts in the same way for all platforms. -/
theorem head?_fileName
    (platform : Platform)
    (symbol : String)
    (millis : Int) :
    (platform.fileName symbol millis).toList.head? =
      some 'S' := by
  simp [fileName]

/- A file name is none of the names that lead elsewhere. -/
theorem isName_fileName
    (platform : Platform)
    (symbol : String)
    (millis : Int) :
    FileTree.IsName (platform.fileName symbol millis) := by
  have hDiffer (other : String)
      (hOther : other.toList.head? ≠ some 'S') :
      platform.fileName symbol millis ≠ other := by
    rintro rfl
    exact hOther (head?_fileName platform symbol millis)
  exact
    ⟨hDiffer "" (by decide), hDiffer "." (by decide),
      hDiffer ".." (by decide)⟩

/- A file name holds no separator that is not in the symbol. -/
theorem separator_not_mem_fileName
    (platform : Platform)
    {symbol : String}
    {c : Char}
    (hSeparator : Settings.isPathSeparator c = true)
    (hSymbol : c ∉ symbol.toList)
    (millis : Int) :
    c ∉ (platform.fileName symbol millis).toList := by
  have hDiffer (d : Char)
      (hD : Settings.isPathSeparator d = false) :
      d ≠ c := by
    rintro rfl
    rw [hSeparator] at hD
    cases hD
  have hFixed (part : String)
      (hPart :
        MadeOf (fun d => Settings.isPathSeparator d = false)
          part) :
      MadeOf (· ≠ c) part :=
    hPart.mono hDiffer
  have hText : MadeOf (· ≠ c) symbol := by
    rintro d hD rfl
    exact hSymbol hD
  have hMillis : MadeOf (· ≠ c) (Decimal.signed millis) := by
    refine Decimal.madeOf_signed (hDiffer '-' (by decide)) ?_ _
    rintro d hDigit rfl
    rcases Bool.or_eq_true_iff.mp hSeparator with hSlash | hBack
    · rw [of_decide_eq_true hSlash] at hDigit
      exact absurd hDigit (by decide)
    · rw [of_decide_eq_true hBack] at hDigit
      exact absurd hDigit (by decide)
  have hExtension : MadeOf (· ≠ c) platform.extension := by
    apply hFixed
    cases platform <;> decide
  have hName :
      MadeOf (· ≠ c) (platform.fileName symbol millis) := by
    simp only [fileName, madeOf_append]
    exact
      ⟨⟨⟨⟨⟨hFixed "Strategy_" (by decide), hText⟩,
              hFixed "_" (by decide)⟩, hMillis⟩,
          hFixed "." (by decide)⟩, hExtension⟩
  exact fun hMem => hName c hMem rfl

/- A file name holds no slash that is not in the symbol. -/
theorem slash_not_mem_fileName
    (platform : Platform)
    {symbol : String}
    (hSymbol : '/' ∉ symbol.toList)
    (millis : Int) :
    '/' ∉ (platform.fileName symbol millis).toList :=
  platform.separator_not_mem_fileName (by decide) hSymbol millis

/- Platforms are told apart by the extensions of their files. -/
theorem extension_injective
    {platform other : Platform}
    (h : platform.extension = other.extension) :
    platform = other := by
  cases platform <;> cases other <;>
    simp [extension] at h ⊢

variable {platform other : Platform}
variable {symbol otherSymbol : String}
variable {millis otherMillis : Int}

/-
  A file name is that of one symbol, time and platform.  The
  last dot stands before the extension, and the last underscore
  of what is before it stands before the time.
-/
theorem eq_of_fileName_eq
    (h :
      platform.fileName symbol millis =
        other.fileName otherSymbol otherMillis) :
    symbol = otherSymbol ∧
      millis = otherMillis ∧
      platform = other := by
  have hDot (p : Platform) : '.' ∉ p.extension.toList := by
    cases p <;> decide
  have hLine (i : Int) : '_' ∉ (Decimal.signed i).toList := by
    have hOther : MadeOf (· ≠ '_') (Decimal.signed i) := by
      refine Decimal.madeOf_signed (by decide) ?_ i
      rintro c hDigit rfl
      exact absurd hDigit (by decide)
    exact fun hMem => hOther '_' hMem rfl
  rcases eq_of_last_separator rfl (hDot platform) (hDot other)
      h with
    ⟨hFront, hExtension⟩
  rcases eq_of_last_separator rfl (hLine millis)
      (hLine otherMillis) hFront with
    ⟨hSymbol, hMillis⟩
  exact
    ⟨(String.append_right_inj _).mp hSymbol,
      Decimal.signed_injective hMillis,
      extension_injective hExtension⟩

/- Platforms are told apart by the ends of their file names. -/
theorem fileName_injective
    (h :
      platform.fileName symbol millis =
        other.fileName symbol millis) :
    platform = other :=
  (eq_of_fileName_eq h).2.2

/-
  A strategy that passes its checks is built, and its files get
  names that stay in their directory.  No two symbols, times or
  platforms have a file name in common, whatever the symbols
  are.
-/
theorem fileName_names_one_file :
    (∀ settings : Settings,
      settings.checkStrategy = .ok () →
        ∃ strategy,
          settings.strategy = .ok strategy ∧
            ∀ (platform : Platform) (millis : Int),
              let name :=
                platform.fileName strategy.symbol millis
              '/' ∉ name.toList ∧
                '\\' ∉ name.toList ∧
                name ≠ "." ∧
                name ≠ "..") ∧
    ∀ (platform other : Platform)
      (symbol otherSymbol : String)
      (millis otherMillis : Int),
      platform.fileName symbol millis =
          other.fileName otherSymbol otherMillis →
        symbol = otherSymbol ∧
          millis = otherMillis ∧
          platform = other := by
  refine ⟨?_, fun _ _ _ _ _ _ => eq_of_fileName_eq⟩
  intro settings hChecked
  rcases Settings.exists_strategy_iff_checkStrategy.mpr
      (Or.inl hChecked) with
    ⟨strategy, hBuilt⟩
  refine ⟨strategy, hBuilt, ?_⟩
  intro platform millis name
  have hOutside (c : Char)
      (hSeparator : Settings.isPathSeparator c = true) :
      c ∉ name.toList := by
    apply platform.separator_not_mem_fileName hSeparator
    intro hMem
    rw [Settings.isPathSeparator_of_checkStrategy hChecked
      hBuilt hMem] at hSeparator
    cases hSeparator
  have hName :=
    platform.isName_fileName strategy.symbol millis
  exact
    ⟨hOutside '/' (by decide), hOutside '\\' (by decide),
      hName.ne_dot, hName.ne_dots⟩

/-
  A symbol that looks like the end of a file name.  There is
  one reading of its file name, and the number in the symbol is
  not taken for the time.
-/
theorem fileName_names_one_file_dotted :
    let settings : Settings :=
      ⟨fun heading key =>
        List.lookup (heading, key)
          [(("strategy", "name"), "Night"),
            (("strategy", "symbol"), " EUR_7.cs\t"),
            (("strategy", "entry_long"), "OPEN[1] < LOW[2]"),
            (("strategy", "exit_long"), "OPEN[1] > LOW[2]")]⟩
    settings.checkStrategy = .ok () ∧
      (∃ strategy,
        settings.strategy = .ok strategy ∧
          ∀ (platform : Platform) (millis : Int),
            let name :=
              platform.fileName strategy.symbol millis
            '/' ∉ name.toList ∧
              '\\' ∉ name.toList ∧
              name ≠ "." ∧
              name ≠ "..") ∧
      ctrader.fileName "EUR_7.cs" (-5) =
        "Strategy_EUR_7.cs_-5.cs" ∧
      ∀ (other : Platform) (symbol : String) (millis : Int),
        other.fileName symbol millis =
            "Strategy_EUR_7.cs_-5.cs" →
          symbol = "EUR_7.cs" ∧
            millis = -5 ∧
            other = ctrader := by
  intro settings
  have hChecked : settings.checkStrategy = .ok () := by
    decide +kernel
  have hName :
      ctrader.fileName "EUR_7.cs" (-5) =
        "Strategy_EUR_7.cs_-5.cs" := by
    decide +kernel
  rcases fileName_names_one_file with ⟨hStays, hDetermines⟩
  refine ⟨hChecked, hStays settings hChecked, hName, ?_⟩
  intro other symbol millis h
  exact hDetermines _ _ _ _ _ _ (h.trans hName.symm)

end Platform

end BarRules
