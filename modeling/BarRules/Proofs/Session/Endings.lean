import BarRules.Proofs.FileTree.Storage
import BarRules.Session

/-
  How runs can end where the file system may refuse a request.

  Key definitions include:
    * `BarRules.Plan.EffectsCanEnd`
    * `BarRules.Plan.CanEnd`
    * `BarRules.Command.CanEnd`

  Key theorems include:
    * `BarRules.Plan.effectsCanEnd_runEffects`
    * `BarRules.Command.canEnd_run`

  A tree of files knows some reasons for which a request fails.
  A file system has more of them, such as a lack of permission
  or of space, and any request may meet one at any time.  A
  write that is refused changes nothing.  Where directories are
  refused, some of those along the path may have been made.
-/

------------------------------------------------------------
-- Endings of Effects
------------------------------------------------------------

namespace BarRules

namespace Plan

/-
  The effects, done in order on a tree of files, can leave this
  behind.  The run stops at the first request that is refused.
-/
inductive EffectsCanEnd
    (exit : Nat) :
    FileTree → List Effect → Outcome → Prop where
  | done (tree : FileTree) :
      EffectsCanEnd exit tree []
        { tree := tree, stdout := "", stderr := "", exit := exit }
  | print
      {tree : FileTree}
      {rest : List Effect}
      {outcome : Outcome}
      (text : String)
      (hRest : EffectsCanEnd exit tree rest outcome) :
      EffectsCanEnd exit tree (.print text :: rest)
        { outcome with stdout := text ++ outcome.stdout }
  | note
      {tree : FileTree}
      {rest : List Effect}
      {outcome : Outcome}
      (text : String)
      (hRest : EffectsCanEnd exit tree rest outcome) :
      EffectsCanEnd exit tree (.note text :: rest)
        { outcome with stderr := text ++ outcome.stderr }
  | directoriesMade
      {tree made : FileTree}
      {path : String}
      {rest : List Effect}
      {outcome : Outcome}
      (hMade : tree.makeDirectories path = (made, none))
      (hRest : EffectsCanEnd exit made rest outcome) :
      EffectsCanEnd exit tree (.makeDirectories path :: rest)
        outcome
  | directoriesRefused
      {tree made : FileTree}
      {path : String}
      (hMade : FileTree.GrowsAlong path tree made)
      (rest : List Effect)
      (fault : FileFault) :
      EffectsCanEnd exit tree (.makeDirectories path :: rest)
        (.stopped made fault)
  | fileWritten
      {tree written : FileTree}
      {path text : String}
      {rest : List Effect}
      {outcome : Outcome}
      (hWritten : tree.writeFile path text = .ok written)
      (hRest : EffectsCanEnd exit written rest outcome) :
      EffectsCanEnd exit tree (.writeFile path text :: rest)
        outcome
  | fileRefused
      (tree : FileTree)
      (path text : String)
      (rest : List Effect)
      (fault : FileFault) :
      EffectsCanEnd exit tree (.writeFile path text :: rest)
        (.stopped tree fault)

/- What a run leaves behind is one of the endings. -/
theorem effectsCanEnd_runEffects
    (exit : Nat)
    (tree : FileTree)
    (effects : List Effect) :
    EffectsCanEnd exit tree effects
      (runEffects exit tree effects) := by
  fun_induction runEffects exit tree effects with
  | case1 tree => exact .done tree
  | case2 tree text rest outcome ih => exact .print text ih
  | case3 tree text rest outcome ih => exact .note text ih
  | case4 tree path rest made hMade ih =>
      exact .directoriesMade hMade ih
  | case5 tree path rest made fault hMade =>
      have hGrows := tree.makeDirectories_grows path
      rw [hMade] at hGrows
      exact .directoriesRefused hGrows rest fault
  | case6 tree path text rest written hWritten ih =>
      exact .fileWritten hWritten ih
  | case7 tree path text rest fault hWritten =>
      exact .fileRefused tree path text rest fault

end Plan

end BarRules

------------------------------------------------------------
-- Endings of Commands
------------------------------------------------------------

namespace BarRules

/- A plan can leave this behind. -/
def Plan.CanEnd
    (tree : FileTree)
    (plan : Plan)
    (outcome : Outcome) :
    Prop :=
  EffectsCanEnd plan.exit tree plan.effects outcome

/-
  A command can leave this behind.  Its strategy file is read
  as it is in the tree, or cannot be read at all.
-/
inductive Command.CanEnd
    (tree : FileTree)
    (millis : Int)
    (command : Command)
    (outcome : Outcome) :
    Prop where
  | read
      (h :
        (command.plan tree.readText millis).CanEnd tree outcome)
  | readRefused
      (fault : FileFault)
      (h :
        (command.plan (fun _ => .error fault) millis).CanEnd tree
          outcome)

/- What a command leaves behind is one of the endings. -/
theorem Command.canEnd_run
    (tree : FileTree)
    (millis : Int)
    (command : Command) :
    command.CanEnd tree millis (command.run tree millis) :=
  .read (Plan.effectsCanEnd_runEffects _ _ _)

namespace Plan

variable {tree : FileTree}
variable {outcome : Outcome}

/- Nothing is left to do. -/
theorem CanEnd.eq_of_done
    (h : done.CanEnd tree outcome) :
    outcome.tree = tree ∧ outcome.exit = 0 := by
  cases h
  exact ⟨rfl, rfl⟩

/- A failure leaves the files alone, and sets the status. -/
theorem CanEnd.eq_of_fail
    {failure : Failure}
    (h : (fail failure).CanEnd tree outcome) :
    outcome.tree = tree ∧ outcome.exit = failure.exitCode := by
  cases h with
  | note text hRest =>
      cases hRest
      exact ⟨rfl, rfl⟩

/- A note changes neither files nor the status. -/
theorem CanEnd.of_note
    {text : String}
    {effects : List Effect}
    {plan : Plan}
    (h : (after (.note text :: effects) plan).CanEnd tree outcome) :
    ∃ rest,
      (after effects plan).CanEnd tree rest ∧
        outcome.tree = rest.tree ∧
        outcome.exit = rest.exit := by
  cases h with
  | note text hRest => exact ⟨_, hRest, rfl, rfl⟩

/- Directories are made and the run goes on, or it stops. -/
theorem CanEnd.of_makeDirectories
    {path : String}
    {effects : List Effect}
    {plan : Plan}
    (h :
      (after (.makeDirectories path :: effects) plan).CanEnd
        tree outcome) :
    (∃ made,
      FileTree.GrowsAlong path tree made ∧
        (after effects plan).CanEnd made outcome) ∨
      ∃ made fault,
        FileTree.GrowsAlong path tree made ∧
          outcome = .stopped made fault := by
  cases h with
  | directoriesMade hMade hRest =>
      have hGrows := tree.makeDirectories_grows path
      rw [hMade] at hGrows
      exact Or.inl ⟨_, hGrows, hRest⟩
  | directoriesRefused hMade rest fault =>
      exact Or.inr ⟨_, fault, hMade, rfl⟩

/- A file is written and the run goes on, or it stops. -/
theorem CanEnd.of_writeFile
    {path text : String}
    {effects : List Effect}
    {plan : Plan}
    (h :
      (after (.writeFile path text :: effects) plan).CanEnd tree
        outcome) :
    (∃ written,
      tree.writeFile path text = .ok written ∧
        (after effects plan).CanEnd written outcome) ∨
      ∃ fault, outcome = .stopped tree fault := by
  cases h with
  | fileWritten hWritten hRest =>
      exact Or.inl ⟨_, hWritten, hRest⟩
  | fileRefused tree path text rest fault =>
      exact Or.inr ⟨fault, rfl⟩

end Plan

end BarRules
