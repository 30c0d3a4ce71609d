import BarRules.Proofs.Session.Agreement
import BarRules.Proofs.Session.Endings
import BarRules.Proofs.Target.FileNames
import BarRules.Proofs.Usage.Paths

/-
  What translating into a directory leaves behind.

  Key definitions include:
    * `BarRules.Translating.conditionFile`
    * `BarRules.Translating.Delivers`

  Key theorems include:
    * `BarRules.Translating.stores_of_canEnd`
    * `BarRules.Translating.plan_canEnd_failed`
    * `BarRules.Translating.plan_canEnd_translated`
    * `BarRules.translate_delivers_all_or_nothing`

  Files are written while platforms are still to be translated.
  No file of a strategy that fails is there all the same: what
  fails on one platform fails on the first one, before any file
  is written.  After that only the file system can stop a run.
-/

------------------------------------------------------------
-- Delivered Files
------------------------------------------------------------

namespace BarRules

namespace Translating

open FileTree

variable {strategy : Strategy}
variable {names : TargetNames}
variable {conditions : Platform → List LabelledCondition}
variable {millis : Int}
variable {directory : String}
variable {tree : FileTree}
variable {outcome : Outcome}

/- The file for a platform: its name and its text. -/
def conditionFile
    (strategy : Strategy)
    (millis : Int)
    (conditions : Platform → List LabelledCondition)
    (platform : Platform) :
    String × String :=
  (platform.fileName strategy.symbol millis,
    ConditionFile.render strategy platform (conditions platform)
      (millis / 1000))

/-
  In a directory, which may have been made along its path, there
  is one file of conditions for each of these platforms, and no
  other file was made or changed.
-/
structure Delivers
    (strategy : Strategy)
    (names : TargetNames)
    (conditions : Platform → List LabelledCondition)
    (millis : Int)
    (directory : String)
    (platforms : List Platform)
    (before after : FileTree) :
    Prop where
  translated :
    ∀ platform ∈ platforms,
      strategy.translate platform names =
        .ok (conditions platform)
  apart :
    (platforms.map
      (fun platform =>
        platform.fileName strategy.symbol millis)).Nodup
  stored :
    ∃ made,
      GrowsAlong directory before made ∧
        Stores directory
          (platforms.map
            (conditionFile strategy millis conditions))
          made after

/- The conditions in a file are those of its platform. -/
theorem Delivers.conditions_eq
    {platforms : List Platform}
    {platform : Platform}
    {before after : FileTree}
    {shown : List LabelledCondition}
    (h :
      Delivers strategy names conditions millis directory
        platforms before after)
    (hMem : platform ∈ platforms)
    (hShown : strategy.translate platform names = .ok shown) :
    conditions platform = shown := by
  have hTranslated := h.translated platform hMem
  rw [hShown] at hTranslated
  exact (Except.ok.inj hTranslated).symm

/-
  Where all platforms have their conditions, files are written
  for as many of them as the file system grants, from the first
  one on.
-/
theorem stores_of_canEnd
    (hDirectory : directory ≠ "")
    (hSymbol : '/' ∉ strategy.symbol.toList)
    {platforms : List Platform}
    (hNodup : platforms.Nodup)
    (hConditions :
      ∀ platform ∈ platforms,
        strategy.translate platform names =
          .ok (conditions platform))
    (h :
      (forPlatforms strategy names millis (some directory)
        platforms).CanEnd tree outcome) :
    ∃ written rest,
      platforms = written ++ rest ∧
        Stores directory
          (written.map
            (conditionFile strategy millis conditions))
          tree outcome.tree ∧
        (rest = [] ∧ outcome.exit = 0 ∨
          rest ≠ [] ∧ outcome.exit = 1) := by
  induction platforms generalizing tree outcome with
  | nil =>
      rcases h.eq_of_done with ⟨hTree, hExit⟩
      refine ⟨[], [], rfl, ?_, Or.inl ⟨rfl, hExit⟩⟩
      rw [hTree]
      exact stores_nil directory tree
  | cons platform platforms ih =>
      rw [forPlatforms,
        hConditions platform List.mem_cons_self] at h
      rcases Plan.CanEnd.of_writeFile h with
        ⟨after, hWrite, hNote⟩ | ⟨fault, rfl⟩
      · rcases Plan.CanEnd.of_note hNote with
          ⟨last, hLast, hTree, hExit⟩
        rcases List.nodup_cons.mp hNodup with
          ⟨hNew, hOthers⟩
        have hRest :
            ∀ other ∈ platforms,
              strategy.translate other names =
                .ok (conditions other) := by
          intro other hOther
          exact
            hConditions other
              (List.mem_cons_of_mem platform hOther)
        rcases ih hOthers hRest hLast with
          ⟨written, rest, rfl, hStores, hEnd⟩
        rw [hTree, hExit]
        refine ⟨platform :: written, rest, rfl, ?_, hEnd⟩
        refine
          Stores.after_write hDirectory
            (platform.isName_fileName _ _)
            (platform.slash_not_mem_fileName hSymbol _) ?_
            hWrite hStores
        intro file hFile hSame
        rcases List.mem_map.mp hFile with ⟨other, hOther, rfl⟩
        apply hNew
        rw [← Platform.fileName_injective hSame]
        exact List.mem_append_left rest hOther
      · refine
          ⟨[], platform :: platforms, rfl,
            stores_nil directory tree, Or.inr ⟨?_, rfl⟩⟩
        exact List.cons_ne_nil platform platforms

end Translating

end BarRules

------------------------------------------------------------
-- Endings of the Plan
------------------------------------------------------------

namespace BarRules

/- The symbol of a strategy in a file stays in its directory. -/
theorem slash_not_mem_symbol
    {read : String → Except FileFault String}
    {path : String}
    {strategy : Strategy}
    {names : TargetNames}
    (hRead : readStrategy read path = .ok (strategy, names)) :
    '/' ∉ strategy.symbol.toList := by
  unfold readStrategy at hRead
  split at hRead
  · cases hRead
  split at hRead
  · cases hRead
  intro hMem
  have hSeparator :=
    Settings.isPathSeparator_of_load hRead hMem
  simp [Settings.isPathSeparator] at hSeparator

namespace Translating

open FileTree

variable {read : String → Except FileFault String}
variable {path directory : String}
variable {platform : Option Platform}
variable {strategy : Strategy}
variable {names : TargetNames}
variable {conditions : Platform → List LabelledCondition}
variable {millis : Int}
variable {tree : FileTree}
variable {outcome : Outcome}

/- Without a strategy, no file is touched. -/
theorem plan_canEnd_unloaded
    {failure : Failure}
    (hRead : readStrategy read path = .error failure)
    (h :
      (Translating.plan read millis path platform
        (some directory)).CanEnd tree outcome) :
    outcome.exit = 2 ∧ outcome.tree = tree := by
  unfold Translating.plan at h
  rw [hRead] at h
  rcases h.of_note with ⟨rest, hRest, hTree, hExit⟩
  rcases Plan.CanEnd.eq_of_fail hRest with
    ⟨hRestTree, hRestExit⟩
  have hCode := failsWith_readStrategy read path failure hRead
  exact
    ⟨hExit.trans (hRestExit.trans hCode),
      hTree.trans hRestTree⟩

/- With a strategy, what is left to do is known. -/
theorem run_of_read
    (hRead :
      readStrategy tree.readText path = .ok (strategy, names))
    (millis : Int)
    (platform : Option Platform)
    (output : Option String) :
    (Command.translate path platform output).run tree millis =
      (Plan.after [loadingNote path]
        (Plan.after
          (.note
              ("Translating strategy: " ++ strategy.name ++
                "\n") ::
            (output.map Effect.makeDirectories).toList)
          (forPlatforms strategy names millis output
            (Platform.orAll platform)))).run tree := by
  change (Translating.plan _ _ _ _ _).run tree = _
  rw [Translating.plan, hRead]

/- With a strategy, directories come first, and then files. -/
theorem plan_canEnd_loaded
    (hRead : readStrategy read path = .ok (strategy, names))
    (h :
      (Translating.plan read millis path platform
        (some directory)).CanEnd tree outcome) :
    outcome.exit = 1 ∧
        GrowsAlong directory tree outcome.tree ∨
      ∃ made rest,
        GrowsAlong directory tree made ∧
          (forPlatforms strategy names millis (some directory)
            (Platform.orAll platform)).CanEnd made rest ∧
          outcome.tree = rest.tree ∧
          outcome.exit = rest.exit := by
  unfold Translating.plan at h
  rw [hRead] at h
  rcases h.of_note with ⟨loaded, hLoaded, hTree, hExit⟩
  rcases Plan.CanEnd.of_note hLoaded with
    ⟨noted, hNoted, hNotedTree, hNotedExit⟩
  rw [hTree, hNotedTree, hExit, hNotedExit]
  rcases Plan.CanEnd.of_makeDirectories hNoted with
    ⟨made, hMade, hRest⟩ | ⟨made, fault, hMade, rfl⟩
  · exact Or.inr ⟨made, noted, hMade, hRest, rfl, rfl⟩
  · exact Or.inl ⟨rfl, hMade⟩

/- A strategy that fails leaves directories at most. -/
theorem plan_canEnd_failed
    {failure : Failure}
    (hRead : readStrategy read path = .ok (strategy, names))
    (hFails :
      ∀ target,
        strategy.translate target names = .error failure)
    (h :
      (Translating.plan read millis path platform
        (some directory)).CanEnd tree outcome) :
    (outcome.exit = 1 ∨ outcome.exit = 4) ∧
      GrowsAlong directory tree outcome.tree := by
  rcases plan_canEnd_loaded hRead h with
    ⟨hExit, hGrows⟩ | ⟨made, rest, hMade, hRest, hTree, hExit⟩
  · exact ⟨Or.inl hExit, hGrows⟩
  · rcases Platform.exists_orAll_eq_cons platform with
      ⟨first, others, hPlatforms⟩
    rw [hPlatforms, forPlatforms_reports (hFails first)]
      at hRest
    rcases hRest.eq_of_fail with ⟨hRestTree, hRestExit⟩
    have hCode :=
      strategy.failsWith_translate first names failure
        (hFails first)
    rw [hTree, hRestTree, hExit, hRestExit]
    exact ⟨Or.inr hCode, hMade⟩

/- The platforms that are asked for are different ones. -/
theorem nodup_orAll (platform : Option Platform) :
    (Platform.orAll platform).Nodup := by
  cases platform with
  | none => decide
  | some platform => simp [Platform.orAll]

/- Files for some of the platforms are delivered. -/
theorem delivers_of_stores
    {platforms : List Platform}
    {made after : FileTree}
    (hNodup : platforms.Nodup)
    (hConditions :
      ∀ target ∈ platforms,
        strategy.translate target names =
          .ok (conditions target))
    (hMade : GrowsAlong directory tree made)
    (hStores :
      Stores directory
        (platforms.map
          (conditionFile strategy millis conditions))
        made after) :
    Delivers strategy names conditions millis directory platforms
      tree after where
  translated := hConditions
  apart :=
    List.Pairwise.map _
      (fun _ _ hDiffer hSame =>
        hDiffer (Platform.fileName_injective hSame))
      hNodup
  stored := ⟨made, hMade, hStores⟩

/- Directories alone deliver the files of no platform. -/
theorem delivers_nil
    (strategy : Strategy)
    (names : TargetNames)
    (conditions : Platform → List LabelledCondition)
    (millis : Int)
    {after : FileTree}
    (hGrows : GrowsAlong directory tree after) :
    Delivers strategy names conditions millis directory []
      tree after :=
  delivers_of_stores List.nodup_nil (by simp) hGrows
    (stores_nil directory after)

/-
  A strategy that is translated on all platforms has its files,
  up to the first one that the file system refuses.
-/
theorem plan_canEnd_translated
    (hDirectory : directory ≠ "")
    (hRead : readStrategy read path = .ok (strategy, names))
    (hConditions :
      ∀ target,
        strategy.translate target names =
          .ok (conditions target))
    (h :
      (Translating.plan read millis path platform
        (some directory)).CanEnd tree outcome) :
    ∃ written rest,
      Platform.orAll platform = written ++ rest ∧
        Delivers strategy names conditions millis directory
          written tree outcome.tree ∧
        (rest = [] ∧ outcome.exit = 0 ∨
          rest ≠ [] ∧ outcome.exit = 1) := by
  have hNodup := nodup_orAll platform
  rcases plan_canEnd_loaded hRead h with
    ⟨hExit, hGrows⟩ | ⟨made, last, hMade, hLast, hTree, hExit⟩
  · rcases Platform.exists_orAll_eq_cons platform with
      ⟨first, others, hPlatforms⟩
    exact
      ⟨[], Platform.orAll platform, rfl,
        delivers_nil strategy names conditions millis hGrows,
        Or.inr ⟨by simp [hPlatforms], hExit⟩⟩
  · rcases stores_of_canEnd hDirectory
        (slash_not_mem_symbol hRead) hNodup
        (fun target _ => hConditions target) hLast with
      ⟨written, rest, hPlatforms, hStores, hEnd⟩
    rw [hTree, hExit]
    refine ⟨written, rest, hPlatforms, ?_, hEnd⟩
    rw [hPlatforms] at hNodup
    exact
      delivers_of_stores (List.nodup_append.mp hNodup).1
        (fun target _ => hConditions target) hMade hStores

end Translating

end BarRules

------------------------------------------------------------
-- All or Nothing
------------------------------------------------------------

namespace BarRules

open Translating

/-
  However a run that translates into a directory ends, and
  whatever the file system refuses, it ends in one of four ways.
  Without a strategy, nothing is touched.  A strategy that fails
  leaves at most directories along the output path.  Refusals
  leave files for the first of the platforms that are asked for,
  or for none.  Otherwise there is one file for each platform,
  in the directory itself, with the conditions that the run for
  the terminal prints.
-/
theorem translate_delivers_all_or_nothing
    {arguments : List String}
    {path directory : String}
    {platform : Option Platform}
    (hArguments :
      Command.ofArguments arguments =
        .ok (.translate path platform (some directory)))
    (tree : FileTree)
    (millis : Int) :
    let command :=
      Command.translate path platform (some directory)
    command.CanEnd tree millis (command.run tree millis) ∧
      ∀ outcome,
        command.CanEnd tree millis outcome →
          outcome.exit = 2 ∧ outcome.tree = tree ∨
          outcome.exit = 4 ∧
            FileTree.GrowsAlong directory tree outcome.tree ∨
          ∃ strategy names conditions,
            readStrategy tree.readText path =
                .ok (strategy, names) ∧
              (outcome.exit = 1 ∧
                (∃ written next rest,
                  Platform.orAll platform =
                      written ++ next :: rest ∧
                    Delivers strategy names conditions millis
                      directory written tree outcome.tree) ∨
              outcome.exit = 0 ∧
                Delivers strategy names conditions millis
                  directory (Platform.orAll platform) tree
                  outcome.tree ∧
                ∀ millis',
                  ((Command.translate path platform none).run
                      tree millis').stdout =
                    Text.concat
                      ((Platform.orAll platform).map
                        (fun target =>
                          printedConditions target
                            (conditions target)))) := by
  intro command
  refine ⟨command.canEnd_run tree millis, ?_⟩
  intro outcome hOutcome
  have hDirectory : directory ≠ "" := by
    rintro rfl
    have hPaths :=
      Command.paths_ne_empty_of_ofArguments hArguments
    exact hPaths.2 rfl
  rcases hOutcome with h | ⟨fault, h⟩
  · rcases translates_or_fails tree.readText path with
      ⟨strategy, names, hRead, hTranslates⟩ |
        ⟨failure, hRead | ⟨strategy, names, hRead, hFails⟩⟩
    · choose conditions hConditions using hTranslates
      rcases plan_canEnd_translated hDirectory hRead hConditions
          h with
        ⟨written, rest, hPlatforms, hDelivers,
          ⟨rfl, hExit⟩ | ⟨hRest, hExit⟩⟩
      · rw [List.append_nil] at hPlatforms
        refine
          Or.inr
            (Or.inr
              ⟨strategy, names, conditions, hRead,
                Or.inr ⟨hExit, ?_, ?_⟩⟩)
        · rw [hPlatforms]
          exact hDelivers
        · intro millis'
          rcases run_plan hRead
              (fun target _ => hConditions target) millis'
              tree with
            ⟨notes, hRun⟩
          exact congrArg Outcome.stdout hRun
      · rcases List.exists_cons_of_ne_nil hRest with
          ⟨next, others, rfl⟩
        exact
          Or.inr
            (Or.inr
              ⟨strategy, names, conditions, hRead,
                Or.inl
                  ⟨hExit, written, next, others, hPlatforms,
                    hDelivers⟩⟩)
    · exact Or.inl (plan_canEnd_unloaded hRead h)
    · rcases plan_canEnd_failed hRead hFails h with
        ⟨hExit | hExit, hGrows⟩
      · rcases Platform.exists_orAll_eq_cons platform with
          ⟨first, others, hPlatforms⟩
        have hNone :=
          delivers_nil strategy names (fun _ => []) millis
            hGrows
        exact
          Or.inr
            (Or.inr
              ⟨strategy, names, fun _ => [], hRead,
                Or.inl
                  ⟨hExit, [], first, others, hPlatforms,
                    hNone⟩⟩)
      · exact Or.inr (Or.inl ⟨hExit, hGrows⟩)
  · exact Or.inl (plan_canEnd_unloaded rfl h)

/-
  A strategy file lacks a comparison in its second set.  The
  output directory is made for all platforms, and stays empty.
  With the comparison there is a file for the one platform that
  is asked for, and its conditions are those that are printed.
-/
theorem translate_delivers_gap_strategies :
    let faulty :=
      "[strategy]\nname = Gap\nsymbol = EURUSD\n" ++
        "entry_long = OPEN[0] > LOW[1]\nexit_long = HIGH[1]\n"
    let sound :=
      "[strategy]\nname = Gap\nsymbol = EURUSD\n" ++
        "entry_long = OPEN[0] > LOW[1]\n" ++
        "exit_long = HIGH[1] < LOW[0]\n"
    let gap : Strategy :=
      { name := "Gap"
        symbol := "EURUSD"
        entryLong := ⟨["OPEN[0] > LOW[1]"]⟩
        exitLong := ⟨["HIGH[1] < LOW[0]"]⟩ }
    let tree : FileTree :=
      { base := ["home"]
        entries :=
          [(["home"], .directory),
            (["home", "faulty.ini"], .file faulty.toUTF8),
            (["home", "sound.ini"], .file sound.toUTF8)] }
    let failing :=
      Command.translate "faulty.ini" none (some "out/new")
    let failed := failing.run tree 1700000000000
    let working :=
      Command.translate "sound.ini" (some .pine) (some "out")
    let worked := working.run tree 1700000000000
    let shown : List LabelledCondition :=
      [⟨"entry_long", "open > low[1]"⟩,
        ⟨"exit_long", "high[1] < low"⟩]
    (Command.ofArguments
          ["translate", "-s", "faulty.ini", "-o", "out/new"] =
        .ok failing ∧
      failed.exit = 4 ∧
      FileTree.GrowsAlong "out/new" tree failed.tree) ∧
    Command.ofArguments
        ["translate", "-s", "sound.ini", "-p", "pine", "-o",
          "out"] =
      .ok working ∧
    worked.exit = 0 ∧
    worked.tree.readText
        "out/Strategy_EURUSD_1700000000000.pine" =
      .ok
        ("// Gap (EURUSD) conditions for pine, generated " ++
          "2023-11-14 22:13:20 UTC\n" ++
          "// entry_long\nopen > low[1]\n" ++
          "// exit_long\nhigh[1] < low\n") ∧
    ∃ conditions : Platform → List LabelledCondition,
      conditions .pine = shown ∧
        Delivers gap {} conditions 1700000000000 "out" [.pine]
          tree worked.tree ∧
        ∀ millis,
          ((Command.translate "sound.ini" (some .pine)
              none).run tree millis).stdout =
            "[pine]\nentry_long = open > low[1]\n" ++
              "exit_long = high[1] < low\n" := by
  intro faulty sound gap tree failing failed working worked shown
  have hNames : GivenNames.Valid {} := by decide
  refine ⟨?_, ?_⟩
  · have hArguments :
        Command.ofArguments
            ["translate", "-s", "faulty.ini", "-o",
              "out/new"] =
          .ok failing := by
      decide +kernel
    have hFaulty :
        Strategy.Writable
          { name := "Gap"
            symbol := "EURUSD"
            entryLong := ⟨["OPEN[0] > LOW[1]"]⟩
            exitLong := ⟨["HIGH[1]"]⟩ } :=
      ⟨by decide, by decide, by decide⟩
    have hText : tree.readText "faulty.ini" = .ok faulty := by
      decide +kernel
    have hRead :=
      Strategy.readStrategy_of_written hFaulty (by decide)
        hNames (List.Perm.refl _) (List.Perm.refl _)
        (Or.inr rfl) hText
    have hRun :=
      run_of_read hRead 1700000000000 none (some "out/new")
    have hExit : failed.exit = 4 :=
      (congrArg Outcome.exit hRun).trans (by decide +kernel)
    refine ⟨hArguments, hExit, ?_⟩
    rcases translate_delivers_all_or_nothing hArguments tree
        1700000000000 with
      ⟨hRun, hEndings⟩
    rcases hEndings failed hRun with
      ⟨hOther, _⟩ | ⟨_, hGrows⟩ |
        ⟨_, _, _, _, ⟨hOther, _⟩ | ⟨hOther, _⟩⟩
    · exact absurd (hExit.symm.trans hOther) (by decide)
    · exact hGrows
    · exact absurd (hExit.symm.trans hOther) (by decide)
    · exact absurd (hExit.symm.trans hOther) (by decide)
  · have hArguments :
        Command.ofArguments
            ["translate", "-s", "sound.ini", "-p", "pine",
              "-o", "out"] =
          .ok working := by
      decide +kernel
    have hSound : gap.Writable :=
      ⟨by decide, by decide, by decide⟩
    have hText : tree.readText "sound.ini" = .ok sound := by
      decide +kernel
    have hRead :
        readStrategy tree.readText "sound.ini" =
          .ok (gap, {}) :=
      Strategy.readStrategy_of_written hSound (by decide)
        hNames (List.Perm.refl _) (List.Perm.refl _)
        (Or.inr rfl) hText
    have hRun :=
      run_of_read hRead 1700000000000 (some .pine) (some "out")
    have hExit : worked.exit = 0 :=
      (congrArg Outcome.exit hRun).trans (by decide +kernel)
    have hTree : worked.tree = _ := congrArg Outcome.tree hRun
    refine
      ⟨hArguments, hExit, by rw [hTree]; decide +kernel, ?_⟩
    rcases translate_delivers_all_or_nothing hArguments tree
        1700000000000 with
      ⟨hRun, hEndings⟩
    rcases hEndings worked hRun with
      ⟨hOther, _⟩ | ⟨hOther, _⟩ |
        ⟨_, _, conditions, hLoaded,
          ⟨hOther, _⟩ | ⟨_, hDelivers, hPrinted⟩⟩
    · exact absurd (hExit.symm.trans hOther) (by decide)
    · exact absurd (hExit.symm.trans hOther) (by decide)
    · exact absurd (hExit.symm.trans hOther) (by decide)
    · rw [hRead] at hLoaded
      cases hLoaded
      have hPine : conditions .pine = shown :=
        hDelivers.conditions_eq (List.mem_singleton_self _)
          (by decide +kernel)
      refine ⟨conditions, hPine, hDelivers, ?_⟩
      intro millis
      rw [hPrinted millis]
      simp only [Platform.orAll, List.map_cons, List.map_nil,
        printedConditions, hPine]
      decide +kernel

end BarRules
