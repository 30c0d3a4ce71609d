import BarRules.Proofs.RuleSet.AllOrNothing
import BarRules.Proofs.Settings.Loading
import BarRules.Session

/-
  With which exit status requests fail.

  Key definitions include:
    * `BarRules.FailsWith`

  Key theorems include:
    * `BarRules.Settings.failsWith_load`
    * `BarRules.failsWith_readStrategy`
    * `BarRules.RuleSet.failsWith_translate`
    * `BarRules.Strategy.failsWith_translate`

  Whatever goes wrong before a strategy is there is a matter of
  settings, and whatever goes wrong in its translation is one
  of rules.
-/

------------------------------------------------------------
-- Exit Status
------------------------------------------------------------

namespace BarRules

variable {α β : Type}
variable {code : Nat}

/- A run that failed is told from one that did not. -/
theorem Failure.exitCode_ne_zero (failure : Failure) :
    failure.exitCode ≠ 0 := by
  cases failure <;> simp [exitCode]

/- A request that fails does so with this exit status. -/
def FailsWith
    (code : Nat)
    (request : Except Failure α) :
    Prop :=
  ∀ failure,
    request = .error failure → failure.exitCode = code

/- A request with a result does not fail at all. -/
theorem failsWith_ok (result : α) :
    FailsWith code (.ok result) := by
  intro failure h
  cases h

/- A failure of this exit status is one. -/
theorem failsWith_error
    {failure : Failure}
    (h : failure.exitCode = code) :
    FailsWith code (Except.error failure : Except Failure α) := by
  intro found hFound
  cases hFound
  exact h

/- Two steps fail with the exit status of each. -/
theorem FailsWith.bind
    {x : Except Failure α}
    {f : α → Except Failure β}
    (hFirst : FailsWith code x)
    (hSecond : ∀ found, FailsWith code (f found)) :
    FailsWith code (x >>= f) := by
  intro failure h
  rcases bind_eq_error_iff.mp h with hFails | ⟨found, _, hFails⟩
  · exact hFirst failure hFails
  · exact hSecond found failure hFails

/- A list of checks fails with the exit status of each. -/
theorem failsWith_forM
    {check : α → Except Failure Unit}
    (hCheck : ∀ item, FailsWith code (check item))
    (items : List α) :
    FailsWith code (items.forM check) := by
  induction items with
  | nil => exact failsWith_ok ()
  | cons item items ih =>
      exact (hCheck item).bind (fun _ => ih)

end BarRules

------------------------------------------------------------
-- Settings
------------------------------------------------------------

namespace BarRules

/- A bad target name is a matter of settings. -/
theorem failsWith_checkTargetName (key value : String) :
    FailsWith 2 (checkTargetName key value) := by
  unfold checkTargetName
  split
  · exact failsWith_ok ()
  · exact failsWith_error rfl

namespace Settings

variable (settings : Settings)

/- So is a text that is not there, or holds only blanks. -/
theorem failsWith_requireText (key : String) :
    FailsWith 2 (settings.requireText key) := by
  unfold requireText
  split
  · exact failsWith_error rfl
  · split
    · exact failsWith_error rfl
    · exact failsWith_ok ()

/- So is a symbol that is no part of a path. -/
theorem failsWith_checkSymbol :
    FailsWith 2 settings.checkSymbol := by
  unfold checkSymbol
  split
  · exact failsWith_ok ()
  · split
    · exact failsWith_error rfl
    · exact failsWith_ok ()

/- So is whatever is found in the strategy settings. -/
theorem failsWith_checkStrategy :
    FailsWith 2 settings.checkStrategy := by
  have hTexts :
      FailsWith 2 (neededKeys.forM settings.requireText) :=
    failsWith_forM settings.failsWith_requireText neededKeys
  unfold checkStrategy
  split
  · rename_i failure hFails
    exact failsWith_error (hTexts failure hFails)
  · exact settings.failsWith_checkSymbol

/- So is a target name that is set. -/
theorem failsWith_checkName (key : String) :
    FailsWith 2 (settings.checkName key) := by
  unfold checkName
  split
  · exact failsWith_ok ()
  · exact failsWith_checkTargetName _ _

/- So is a text that a strategy is built of. -/
theorem failsWith_needed (key : String) :
    FailsWith 2 (settings.needed key) := by
  unfold needed
  split
  · exact failsWith_error rfl
  · exact failsWith_ok _

/- Strategies fail to be built for want of settings. -/
theorem failsWith_strategy :
    FailsWith 2 settings.strategy := by
  unfold strategy
  apply (settings.failsWith_needed _).bind
  intro name
  apply (settings.failsWith_needed _).bind
  intro symbol
  apply (settings.failsWith_needed _).bind
  intro entryLong
  apply (settings.failsWith_needed _).bind
  intro exitLong
  exact failsWith_ok _

/- Strategies fail to be loaded for their settings. -/
theorem failsWith_load :
    FailsWith 2 settings.load := by
  unfold load
  apply settings.failsWith_checkStrategy.bind
  intro _
  apply (failsWith_forM settings.failsWith_checkName _).bind
  intro _
  apply settings.failsWith_strategy.bind
  intro strategy
  exact failsWith_ok _

end Settings

/- A strategy file that is no use is a matter of settings. -/
theorem failsWith_readStrategy
    (read : String → Except FileFault String)
    (path : String) :
    FailsWith 2 (readStrategy read path) := by
  unfold readStrategy
  split
  · exact failsWith_error rfl
  · split
    · exact failsWith_error rfl
    · exact Settings.failsWith_load _

end BarRules

------------------------------------------------------------
-- Rules
------------------------------------------------------------

namespace BarRules

/- A rule that is not accepted is a matter of rules. -/
theorem Rule.failsWith_parse (rule : String) :
    FailsWith 4 (Rule.parse rule) := by
  unfold Rule.parse
  split
  · exact failsWith_error rfl
  · rw [Rule.ofTokens_eq_read]
    split
    · exact failsWith_ok _
    · exact failsWith_error rfl

variable (platform : Platform)
variable (names : TargetNames)

/- Sets fail for one of their rules, or for having none. -/
theorem RuleSet.failsWith_translate (set : RuleSet) :
    FailsWith 4 (set.translate platform names) := by
  intro failure h
  rw [RuleSet.translate_eq_error_iff] at h
  rcases h with ⟨_, rfl⟩ | ⟨_, rule, _, _, _, hFails⟩
  · rfl
  · exact Rule.failsWith_parse rule failure hFails

/- Strategies fail for one of their sets. -/
theorem Strategy.failsWith_translate (strategy : Strategy) :
    FailsWith 4 (strategy.translate platform names) := by
  intro failure h
  rw [Strategy.translate_eq_error_iff] at h
  rcases h with ⟨_, ⟨_, set⟩, _, _, _, hFails⟩
  exact
    RuleSet.failsWith_translate platform names set failure
      hFails

end BarRules
