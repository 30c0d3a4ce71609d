import BarRules.Session
import Std.Time.DateTime.Timestamp

/-
  The program on a real file system.

  Key definitions include:
    * `BarRules.Program.perform`
    * `main`

  The command line and the plan of a run are pure.  What is
  left here is to read the strategy file and the clock, and to
  do the effects of the plan in order.
-/

------------------------------------------------------------
-- Files and Clock
------------------------------------------------------------

namespace BarRules

namespace Program

/- The number of a fault of the system, if it has one. -/
def codeOf : IO.Error → Option UInt32
  | .noFileOrDirectory _ code _ => some code
  | .alreadyExists _ code _ => some code
  | .inappropriateType _ code _ => some code
  | .invalidArgument _ code _ => some code
  | .permissionDenied _ code _ => some code
  | _ => none

/-
  A fault of the system as one of a file tree.  Some requests
  report the number of a fault with a minus.
-/
def faultOf (error : IO.Error) : FileFault :=
  let number (code : UInt32) : Nat :=
    (if code < 0x80000000 then code else 0 - code).toNat
  match (codeOf error).map number with
  | some 2 => .noSuchFile
  | some 13 => .other "Permission denied (os error 13)"
  | some 17 => .fileExists
  | some 20 => .notADirectory
  | some 21 => .isADirectory
  | some 36 => .nameTooLong
  | _ => .other error.toString

/- Do something that may fail. -/
def attempt {α : Type} (action : IO α) :
    IO (Except FileFault α) := do
  try
    return .ok (← action)
  catch error =>
    return .error (faultOf error)

/- The text in a file. -/
def readText (path : String) :
    IO (Except FileFault String) := do
  match ← attempt (IO.FS.readBinFile path) with
  | .error fault => return .error fault
  | .ok content =>
      match String.fromUTF8? content with
      | none => return .error .notText
      | some text => return .ok text

/- The time in milliseconds since the start of 1970. -/
def now : IO Int := do
  let time ← Std.Time.Timestamp.now
  return time.toMillisecondsSinceUnixEpoch.val

end Program

end BarRules

------------------------------------------------------------
-- Directories
------------------------------------------------------------

namespace BarRules

namespace Program

/-
  The directory is there, or is made now.  What cannot be read
  because it is a directory is one.
-/
def ensureDirectory (path : String) :
    IO (Except FileFault Unit) := do
  match ← attempt (IO.FS.createDir path) with
  | .error .fileExists =>
      match ← readText path with
      | .error .isADirectory => return .ok ()
      | _ => return .error .fileExists
  | result => return result

/-
  Make the nearest of some directories that can be made, and
  tell which nearer ones are missing, farthest first.
-/
def makeNearest
    (missing : List String) :
    List String → IO (Except FileFault (List String))
  | [] => return .ok missing
  | path :: rest => do
      match ← ensureDirectory path with
      | .ok () => return .ok missing
      | .error .noSuchFile =>
          makeNearest (path :: missing) rest
      | .error fault => return .error fault

/- Make directories in order up to the first fault. -/
def makeAll :
    List String → IO (Except FileFault Unit)
  | [] => return .ok ()
  | path :: rest => do
      match ← ensureDirectory path with
      | .ok () => makeAll rest
      | .error fault => return .error fault

/- Make a directory together with the ones that it is in. -/
def makeDirectories (path : String) :
    IO (Except FileFault Unit) := do
  match ← makeNearest [] (FileTree.ancestors path) with
  | .error fault => return .error fault
  | .ok missing => makeAll missing

end Program

end BarRules

------------------------------------------------------------
-- Effects
------------------------------------------------------------

namespace BarRules

namespace Program

/- Do one effect. -/
def performOne : Effect → IO (Except FileFault Unit)
  | .print text => attempt (IO.print text)
  | .note text => attempt (IO.eprint text)
  | .makeDirectories path => makeDirectories path
  | .writeFile path text => attempt (IO.FS.writeFile path text)

/- Do effects in order, and stop at the first that fails. -/
def perform
    (exit : Nat) :
    List Effect → IO Nat
  | [] => return exit
  | effect :: rest => do
      match ← performOne effect with
      | .ok () => perform exit rest
      | .error fault =>
          let failure := Failure.system fault.message
          IO.eprint (Plan.reportText failure)
          return failure.exitCode

/- Run a command. -/
def run (command : Command) : IO Nat := do
  let source ←
    match command.source? with
    | none => pure (.error .noSuchFile)
    | some path => readText path
  let plan := command.plan (fun _ => source) (← now)
  perform plan.exit plan.effects

end Program

end BarRules

------------------------------------------------------------
-- Usage
------------------------------------------------------------

namespace BarRules

namespace Program

/- What the program can be asked to do. -/
def usage : String :=
  "Translate OHLC trading rules into platform condition " ++
    "strings\n\n" ++
    "  translate -s FILE [-p PLATFORM] [-o DIRECTORY]\n" ++
    "  rule [-p PLATFORM] [--symbol NAME] [--period NAME]\n" ++
    "       [--series NAME] RULE...\n" ++
    "  validate -s FILE\n" ++
    "  list-platforms\n" ++
    "  help [COMMAND]\n"

/- Answer arguments that make no command. -/
def explain (fault : Usage.Fault) : IO Nat := do
  match fault with
  | .help => IO.print usage
  | _ => IO.eprint usage
  return fault.exitCode

end Program

end BarRules

/- Run the command that the arguments ask for. -/
def main (arguments : List String) : IO UInt32 := do
  let exit ←
    match BarRules.Command.ofArguments arguments with
    | .error fault => BarRules.Program.explain fault
    | .ok command => BarRules.Program.run command
  return UInt32.ofNat exit
