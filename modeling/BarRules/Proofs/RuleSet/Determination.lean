import BarRules.Proofs.RuleSet.AllOrNothing
import BarRules.Proofs.Target.Characters
import BarRules.Proofs.Text.Cutting
import BarRules.Proofs.Text.Separation

/-
  The condition of a rule set determines its rules.

  Key theorems include:
    * `BarRules.Expr.not_mem_emit`
    * `BarRules.Condition.separator_outside_emit`
    * `BarRules.Expr.eq_of_emit_eq`
    * `BarRules.RuleSet.conditions_eq_map`
    * `BarRules.RuleSet.of_translate`
    * `BarRules.RuleSet.lineFeed_not_mem_of_translate`
    * `BarRules.Condition.partsBetween_emit`
    * `BarRules.RuleSet.translate_determines_rules`

  The separator holds a character that no condition of a rule
  holds, so the conditions are found again between its places.
  Each of them is then read back as the tree of its rule.
-/

------------------------------------------------------------
-- Separators and Conditions
------------------------------------------------------------

namespace BarRules

open Text

variable {names : TargetNames}

/- Spellings of prices hold no other characters than theirs. -/
theorem Target.madeOf_spell_ne
    (hNames : names.check = .ok ())
    {c : Char}
    (hOther : isReferenceChar c = false)
    (platform : Platform)
    (price : BarPrice) :
    MadeOf (· ≠ c) (platform.spell names price) := by
  refine (madeOf_spell hNames platform price).mono ?_
  rintro d hChar rfl
  rw [hOther] at hChar
  cases hChar

/- What is in no spelling and no layout is in no emission. -/
theorem Expr.not_mem_emit
    {platform : Platform}
    {c : Char}
    (hLayout : MadeOf (· ≠ c) layout)
    (hSpell :
      ∀ price, MadeOf (· ≠ c) (platform.spell names price))
    (e : Expr) :
    c ∉ (e.emit platform names).toList := by
  rw [emit_eq_render]
  exact fun hMem => madeOf_render hLayout hSpell e c hMem rfl

namespace Condition

/-
  Behind its blank, the separator of a platform goes on with a
  character that is in no condition of a rule.
-/
theorem separator_outside_emit
    (hNames : names.check = .ok ())
    (platform : Platform) :
    ∃ second tail,
      (separator platform).toList = ' ' :: second :: tail ∧
        ' ' ≠ second ∧
        ∀ e : Expr,
          second ∉ (e.emit platform names).toList := by
  have hAmpersand :
      ∀ e : Expr, '&' ∉ (e.emit platform names).toList :=
    Expr.not_mem_emit (by decide)
      (Target.madeOf_spell_ne hNames (by decide) platform)
  cases platform with
  | mql4 | mql5 | ctrader =>
      exact ⟨'&', ['&', ' '], rfl, by decide, hAmpersand⟩
  | pine =>
      refine ⟨'a', ['n', 'd', ' '], rfl, by decide, ?_⟩
      exact Expr.not_mem_emit (by decide)
        (Target.madeOf_spell_pine names)

/- Joined conditions of rules are cut apart again. -/
theorem partsBetween_emit
    (hNames : names.check = .ok ())
    (platform : Platform)
    {es : List Expr}
    (hNonempty : es ≠ []) :
    partsBetween (separator platform)
        (joinWith (separator platform)
          (es.map (Expr.emit platform names))) =
      es.map (Expr.emit platform names) := by
  rcases separator_outside_emit hNames platform with
    ⟨second, tail, hSeparator, hDiffer, hOutside⟩
  apply partsBetween_joinWith hSeparator hDiffer
  · simpa using hNonempty
  · intro condition hMem
    rcases List.mem_map.mp hMem with ⟨e, _, hEmit⟩
    rw [← hEmit]
    exact hOutside e

end Condition

end BarRules

------------------------------------------------------------
-- Conditions and Trees
------------------------------------------------------------

namespace BarRules

namespace Expr

variable {names : TargetNames}
variable {platform : Platform}

/- No two trees are emitted alike. -/
theorem eq_of_emit_eq
    (hNames : names.check = .ok ())
    (e e' : Expr)
    (h : e.emit platform names = e'.emit platform names) :
    e = e' := by
  have hRead :=
    Target.read_eq_of_check hNames Target.strict platform e
  rw [h, Target.read_eq_of_check hNames] at hRead
  exact (Option.some.inj hRead).symm

end Expr

namespace RuleSet

variable {names : TargetNames}
variable {platform : Platform}
variable {set : RuleSet}

/- The conditions are the trees of the rules as emitted. -/
theorem conditions_eq_map
    (platform : Platform)
    (names : TargetNames)
    (set : RuleSet) :
    set.conditions platform names =
      set.expressions.map
        (List.map (Expr.emit platform names)) := by
  cases hTrees : set.expressions with
  | error failure =>
      rw [expressions_eq_error_iff] at hTrees
      exact
        (set.conditions_eq_error_iff platform names failure).mpr
          hTrees
  | ok es =>
      have hParsed : set.rules.map Rule.parse = es.map .ok :=
        (mapM_eq_ok_iff ..).mp hTrees
      have hEmitted :
          set.rules.map (Rule.translate platform names) =
            (es.map (Expr.emit platform names)).map .ok := by
        calc
          set.rules.map (Rule.translate platform names) =
              (set.rules.map Rule.parse).map
                (Except.map (Expr.emit platform names)) := by
            rw [List.map_map]
            apply List.map_congr_left
            intro rule _
            exact Rule.translate_eq_map platform names rule
          _ = (es.map (Expr.emit platform names)).map .ok := by
            rw [hParsed, List.map_map, List.map_map]
            rfl
      exact (mapM_eq_ok_iff ..).mpr hEmitted

/- A set is translated from one or more trees. -/
theorem exists_expressions_of_translate
    {text : String}
    (hText : set.translate platform names = .ok text) :
    ∃ es,
      set.expressions = .ok es ∧
        es ≠ [] ∧
        text =
          Text.joinWith (Condition.separator platform)
            (es.map (Expr.emit platform names)) := by
  rcases (set.translate_eq_ok_iff platform names text).mp
      hText with
    ⟨conditions, hConditions, hNonempty, hJoined⟩
  rw [conditions_eq_map] at hConditions
  cases hTrees : set.expressions with
  | error failure => simp [hTrees, Except.map] at hConditions
  | ok es =>
      rw [hTrees] at hConditions
      have hEmitted :
          es.map (Expr.emit platform names) = conditions :=
        Except.ok.inj hConditions
      refine ⟨es, rfl, ?_, ?_⟩
      · intro hEmpty
        apply hNonempty
        rw [← hEmitted, hEmpty, List.map_nil]
      · rw [hEmitted]
        exact hJoined

/-
  What holds of all emitted trees, and of two texts with the
  separator between them, holds of the condition of a set.
-/
theorem of_translate
    {P : String → Prop}
    (hBetween :
      ∀ front back,
        P front → P back →
          P (front ++ Condition.separator platform ++ back))
    (hEmit : ∀ e : Expr, P (e.emit platform names))
    {text : String}
    (hText : set.translate platform names = .ok text) :
    P text := by
  rcases exists_expressions_of_translate hText with
    ⟨es, _, hNonempty, rfl⟩
  apply Text.joinWith_of_between hBetween
  · simpa using hNonempty
  · intro condition hMem
    rcases List.mem_map.mp hMem with ⟨e, _, rfl⟩
    exact hEmit e

/- A condition stands on a single line. -/
theorem lineFeed_not_mem_of_translate
    (hNames : names.check = .ok ())
    {text : String}
    (hText : set.translate platform names = .ok text) :
    '\n' ∉ text.toList := by
  have hSeparator :
      '\n' ∉ (Condition.separator platform).toList := by
    cases platform <;> decide
  refine
    of_translate (P := fun s => '\n' ∉ s.toList) ?_ ?_ hText
  · intro front back hFront hBack
    simp [hFront, hSeparator, hBack]
  · exact
      Expr.not_mem_emit (by decide)
        (Target.madeOf_spell_ne hNames (by decide) platform)

end RuleSet

end BarRules

------------------------------------------------------------
-- Determination
------------------------------------------------------------

namespace BarRules

namespace RuleSet

variable {names : TargetNames}
variable {platform : Platform}
variable {set : RuleSet}

/-
  The condition of a set is cut at its separators into the
  conditions of the rules, one for each and in their order.  So
  sets have the same condition only if their rules are read as
  the same trees.
-/
theorem translate_determines_rules
    (hNames : names.check = .ok ())
    {text : String}
    (hText : set.translate platform names = .ok text) :
    (∃ conditions,
      set.conditions platform names = .ok conditions ∧
        set.rules.map (Rule.translate platform names) =
          conditions.map .ok ∧
        Text.partsBetween (Condition.separator platform) text =
          conditions) ∧
    ∀ (other : RuleSet) (otherText : String),
      other.translate platform names = .ok otherText →
        ∃ es others,
          set.expressions = .ok es ∧
            other.expressions = .ok others ∧
            (text = otherText ↔ es = others) := by
  rcases exists_expressions_of_translate hText with
    ⟨es, hTrees, hNonempty, hJoined⟩
  have hParts :
      Text.partsBetween (Condition.separator platform) text =
        es.map (Expr.emit platform names) := by
    rw [hJoined]
    exact Condition.partsBetween_emit hNames platform hNonempty
  constructor
  · have hConditions :
        set.conditions platform names =
          .ok (es.map (Expr.emit platform names)) := by
      rw [conditions_eq_map, hTrees]
      rfl
    have hRules := (mapM_eq_ok_iff ..).mp hConditions
    exact ⟨_, hConditions, hRules, hParts⟩
  · intro other otherText hOther
    rcases exists_expressions_of_translate hOther with
      ⟨others, hOthers, hOtherNonempty, hOtherJoined⟩
    refine ⟨es, others, hTrees, hOthers, ?_⟩
    constructor
    · intro hSame
      rw [hSame, hOtherJoined,
        Condition.partsBetween_emit hNames platform
          hOtherNonempty] at hParts
      have hTreesSame :=
        (List.map_inj_right (Expr.eq_of_emit_eq hNames)).mp
          hParts
      exact hTreesSame.symm
    · intro hTreesSame
      rw [hJoined, hOtherJoined, hTreesSame]

/-
  The condition of two rules in Pine Script.  Blanks, leading
  zeros and needless parentheses do not show in it.
-/
theorem translate_determines_two_rules :
    Text.partsBetween " and "
        "open > low[1] and close[1] >= high[2]" =
      ["open > low[1]", "close[1] >= high[2]"] ∧
    RuleSet.expressions
        ⟨["OPEN[0] > LOW[1]", "CLOSE[1] >= HIGH[2]"]⟩ =
      RuleSet.expressions
        ⟨["(OPEN[0])>LOW[01]", "CLOSE[1]>=HIGH[2]"]⟩ := by
  have hText :
      translate .pine {}
          ⟨["OPEN[0] > LOW[1]", "CLOSE[1] >= HIGH[2]"]⟩ =
        .ok "open > low[1] and close[1] >= high[2]" := by
    decide +kernel
  have hOther :
      translate .pine {}
          ⟨["(OPEN[0])>LOW[01]", "CLOSE[1]>=HIGH[2]"]⟩ =
        .ok "open > low[1] and close[1] >= high[2]" := by
    decide +kernel
  have hListed :
      conditions .pine {}
          ⟨["OPEN[0] > LOW[1]", "CLOSE[1] >= HIGH[2]"]⟩ =
        .ok ["open > low[1]", "close[1] >= high[2]"] := by
    decide +kernel
  rcases translate_determines_rules rfl hText with
    ⟨⟨found, hFound, _, hParts⟩, hDetermines⟩
  rcases hDetermines _ _ hOther with
    ⟨es, others, hTrees, hOthers, hSame⟩
  constructor
  · rw [hListed] at hFound
    rw [Except.ok.inj hFound]
    exact hParts
  · rw [hTrees, hOthers, hSame.mp rfl]

end RuleSet

end BarRules
