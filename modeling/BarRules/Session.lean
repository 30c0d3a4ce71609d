import BarRules.Command
import BarRules.ConditionFile
import BarRules.FileTree
import BarRules.Ini

/-
  Runs of the program.

  Key definitions include:
    * `BarRules.Effect`
    * `BarRules.Plan`
    * `BarRules.readStrategy`
    * `BarRules.Command.plan`
    * `BarRules.Outcome`
    * `BarRules.Plan.run`

  A command is first turned into a plan, which lists what the
  run writes where, and how it ends if the file system does
  what it is asked.  Running a plan on a tree of files stops at
  the first request that fails.
-/

------------------------------------------------------------
-- Plans
------------------------------------------------------------

namespace BarRules

/- One thing that a run does. -/
inductive Effect where
  | print (text : String)
  | note (text : String)
  | makeDirectories (path : String)
  | writeFile (path text : String)
  deriving DecidableEq

/- What a run does in order, and its exit status after that. -/
structure Plan where
  effects : List Effect
  exit : Nat
  deriving DecidableEq

namespace Plan

/- Do something before a plan. -/
def after
    (effects : List Effect)
    (plan : Plan) :
    Plan where
  effects := effects ++ plan.effects
  exit := plan.exit

/- The end of a run that did what it was asked. -/
def done : Plan where
  effects := []
  exit := 0

/- The text that reports a failure. -/
def reportText (failure : Failure) : String :=
  "error: " ++ failure.context ++ "\n"

/- The end of a run that failed. -/
def fail (failure : Failure) : Plan where
  effects := [.note (reportText failure)]
  exit := failure.exitCode

end Plan

end BarRules

------------------------------------------------------------
-- Loading a Strategy
------------------------------------------------------------

namespace BarRules

/- A strategy file that cannot be read, and why. -/
def unreadable
    (path why : String) :
    Failure :=
  .unreadable path ("couldn't read " ++ path ++ ": " ++ why)

/- The strategy and target names in a file. -/
def readStrategy
    (read : String → Except FileFault String)
    (path : String) :
    Except Failure (Strategy × TargetNames) :=
  match read path with
  | .error fault => .error (unreadable path fault.message)
  | .ok text =>
      match Ini.Document.parse text with
      | .error fault => .error (unreadable path fault.message)
      | .ok document => document.settings.load

/- What a run says before it loads a strategy. -/
def loadingNote (path : String) : Effect :=
  .note ("Loading strategy from " ++ path ++ "\n")

end BarRules

------------------------------------------------------------
-- Translating a Strategy
------------------------------------------------------------

namespace BarRules

namespace Translating

/- A labelled condition on a line of its own. -/
def conditionLine (condition : LabelledCondition) : String :=
  condition.label ++ " = " ++ condition.text ++ "\n"

/- The path of the file for a platform. -/
def filePath
    (directory : String)
    (strategy : Strategy)
    (platform : Platform)
    (millis : Int) :
    String :=
  FileTree.joinPath directory
    (platform.fileName strategy.symbol millis)

/-
  Put out the conditions for a platform: into a file of the
  output directory, or printed if there is none.
-/
def deliver
    (strategy : Strategy)
    (millis : Int)
    (output : Option String)
    (platform : Platform)
    (conditions : List LabelledCondition) :
    List Effect :=
  match output with
  | some directory =>
      let path := filePath directory strategy platform millis
      [.writeFile path
          (ConditionFile.render strategy platform conditions
            (millis / 1000)),
        .note
          ("  " ++ platform.name ++ ": written to " ++ path ++
            "\n")]
  | none =>
      .print ("[" ++ platform.name ++ "]\n") ::
        conditions.map (fun c => .print (conditionLine c))

/- Translate for one platform after another. -/
def forPlatforms
    (strategy : Strategy)
    (names : TargetNames)
    (millis : Int)
    (output : Option String) :
    List Platform → Plan
  | [] => .done
  | platform :: rest =>
      match strategy.translate platform names with
      | .error failure => .fail failure
      | .ok conditions =>
          Plan.after
            (deliver strategy millis output platform conditions)
            (forPlatforms strategy names millis output rest)

/-
  Translate a strategy file.  The output directory is made
  before anything is translated.
-/
def plan
    (read : String → Except FileFault String)
    (millis : Int)
    (path : String)
    (platform : Option Platform)
    (output : Option String) :
    Plan :=
  Plan.after [loadingNote path]
    (match readStrategy read path with
      | .error failure => .fail failure
      | .ok (strategy, names) =>
          Plan.after
            (.note
                ("Translating strategy: " ++ strategy.name ++
                  "\n") ::
              (output.map Effect.makeDirectories).toList)
            (forPlatforms strategy names millis output
              (Platform.orAll platform)))

end Translating

end BarRules

------------------------------------------------------------
-- Validating a Strategy
------------------------------------------------------------

namespace BarRules

namespace Validating

/- What is said of a rule that is fine. -/
def ruleNote
    (rule : String)
    (e : Expr) :
    Effect :=
  .note
    ("  Parsed:   " ++ e.canonical ++ "\n" ++
      "  Raw:      " ++ rule ++ "\n" ++
      "  Lookback: " ++ Text.Decimal.text e.lookback.toNat ++
      " bars\n")

/- Check the rules of a set in order, then go on. -/
def forRules
    (label : String)
    (next : Plan) :
    List String → Plan
  | [] => next
  | rule :: rest =>
      match Rule.parse rule with
      | .error failure =>
          Plan.after [.note ("  error in " ++ label ++ ":\n")]
            (.fail failure)
      | .ok e =>
          Plan.after [ruleNote rule e] (forRules label next rest)

/- Check labelled rule sets in order. -/
def forSets : List (String × RuleSet) → Plan
  | [] =>
      Plan.after [.note "\nStrategy rules are valid.\n"] .done
  | (label, set) :: rest =>
      Plan.after
        [.note
          ("\n" ++ label ++ " (" ++
            Text.Decimal.text set.rules.length ++ " rules):\n")]
        (if set.rules = [] then
          .fail .emptyRuleSet
        else
          forRules label (forSets rest) set.rules)

/- Validate a strategy file. -/
def plan
    (read : String → Except FileFault String)
    (path : String) :
    Plan :=
  Plan.after
    [.note ("Validating strategy: " ++ path ++ "\n"),
      loadingNote path]
    (match readStrategy read path with
      | .error failure => .fail failure
      | .ok (strategy, _) => forSets strategy.labelledSets)

end Validating

end BarRules

------------------------------------------------------------
-- Single Rules and Platforms
------------------------------------------------------------

namespace BarRules

/- Print the condition of rules for each platform asked for. -/
def rulePlan
    (rules : List String)
    (platform : Option Platform)
    (symbol period series : Option String) :
    Plan :=
  match TargetNames.override symbol period series with
  | .error failure => .fail failure
  | .ok names =>
      match RuleSet.onPlatforms names platform ⟨rules⟩ with
      | .error failure => .fail failure
      | .ok [(_, condition)] =>
          Plan.after [.print (condition ++ "\n")] .done
      | .ok conditions =>
          Plan.after
            (conditions.map fun (p, condition) =>
              .print (p.name ++ ": " ++ condition ++ "\n"))
            .done

/- Print what there is to know of each platform. -/
def platformsPlan : Plan :=
  Plan.after
    (Platform.all.map fun p =>
      .print
        (p.name ++ "\t." ++ p.extension ++ "\tAND '" ++
          p.conjunction ++ "'\n"))
    .done

/- The strategy file that a command reads, if it reads one. -/
def Command.source? : Command → Option String
  | .translate strategy _ _ => some strategy
  | .validate strategy => some strategy
  | _ => none

/-
  The plan of a command, given how files are read and the time
  in milliseconds.
-/
def Command.plan
    (read : String → Except FileFault String)
    (millis : Int) :
    Command → Plan
  | .translate strategy platform output =>
      Translating.plan read millis strategy platform output
  | .rule rules platform symbol period series =>
      rulePlan rules platform symbol period series
  | .validate strategy => Validating.plan read strategy
  | .listPlatforms => platformsPlan

end BarRules

------------------------------------------------------------
-- Runs
------------------------------------------------------------

namespace BarRules

/- What a run leaves behind. -/
structure Outcome where
  tree : FileTree
  stdout : String
  stderr : String
  exit : Nat

namespace Outcome

/- The end of a run at a request that failed. -/
def stopped
    (tree : FileTree)
    (fault : FileFault) :
    Outcome where
  tree := tree
  stdout := ""
  stderr := Plan.reportText (.system fault.message)
  exit := (Failure.system fault.message).exitCode

end Outcome

namespace Plan

/- Do the effects in order, then end with an exit status. -/
def runEffects
    (exit : Nat)
    (tree : FileTree) :
    List Effect → Outcome
  | [] =>
      { tree := tree, stdout := "", stderr := "", exit := exit }
  | .print text :: rest =>
      let outcome := runEffects exit tree rest
      { outcome with stdout := text ++ outcome.stdout }
  | .note text :: rest =>
      let outcome := runEffects exit tree rest
      { outcome with stderr := text ++ outcome.stderr }
  | .makeDirectories path :: rest =>
      match tree.makeDirectories path with
      | (tree, none) => runEffects exit tree rest
      | (tree, some fault) => .stopped tree fault
  | .writeFile path text :: rest =>
      match tree.writeFile path text with
      | .ok tree => runEffects exit tree rest
      | .error fault => .stopped tree fault

/- Run a plan on a tree of files. -/
def run
    (tree : FileTree)
    (plan : Plan) :
    Outcome :=
  runEffects plan.exit tree plan.effects

end Plan

/- Run a command on a tree of files at a time. -/
def Command.run
    (tree : FileTree)
    (millis : Int)
    (command : Command) :
    Outcome :=
  (command.plan tree.readText millis).run tree

end BarRules
