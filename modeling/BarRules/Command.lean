import BarRules.Platform

/-
  The command line.

  Key definitions include:
    * `BarRules.Command`
    * `BarRules.Usage.Fault`
    * `BarRules.Usage.Subcommand`
    * `BarRules.Usage.Argument`
    * `BarRules.Usage.Argument.classify`
    * `BarRules.Usage.Given`
    * `BarRules.Usage.readArguments`
    * `BarRules.Command.ofArguments`

  Arguments are taken from left to right, and the first fault
  decides.  A value that follows its option as an argument of
  its own waits: it is checked when the next option or rule is
  taken or the arguments end, so that an argument which has no
  place comes first.  A value attached to its option is checked
  at once.
-/

------------------------------------------------------------
-- Commands and Faults
------------------------------------------------------------

namespace BarRules

/- What the program is asked to do. -/
inductive Command where
  | translate
      (strategy : String)
      (platform : Option Platform)
      (output : Option String)
  | rule
      (rules : List String)
      (platform : Option Platform)
      (symbol period series : Option String)
  | validate (strategy : String)
  | listPlatforms
  deriving DecidableEq

namespace Usage

/- Why arguments make no command. -/
inductive Fault where
  | help
  | missingSubcommand
  | unknownSubcommand
  | unknownArgument
  | repeatedOption
  | unusableValue
  | unwantedValue
  | unknownPlatform
  | missingArgument
  deriving DecidableEq

namespace Fault

/- A request for help is answered, all else is refused. -/
def exitCode : Fault → Nat
  | .help => 0
  | _ => 2

end Fault

end Usage

end BarRules

------------------------------------------------------------
-- Subcommands and Options
------------------------------------------------------------

namespace BarRules

namespace Usage

/- The options of all subcommands, help apart. -/
inductive Flag where
  | strategy
  | platform
  | output
  | symbol
  | period
  | series
  deriving DecidableEq

namespace Flag

/- The name of an option after two dashes. -/
def long : Flag → String
  | .strategy => "strategy"
  | .platform => "platform"
  | .output => "output"
  | .symbol => "symbol"
  | .period => "period"
  | .series => "series"

/- The letter of an option after one dash. -/
def short? : Flag → Option Char
  | .strategy => some 's'
  | .platform => some 'p'
  | .output => some 'o'
  | _ => none

end Flag

/- The words that start a command. -/
inductive Subcommand where
  | translate
  | rule
  | validate
  | listPlatforms
  deriving DecidableEq

namespace Subcommand

/- Every subcommand. -/
def all : List Subcommand :=
  [.translate, .rule, .validate, .listPlatforms]

/- The word for a subcommand. -/
def word : Subcommand → String
  | .translate => "translate"
  | .rule => "rule"
  | .validate => "validate"
  | .listPlatforms => "list-platforms"

/- The subcommand that a word stands for. -/
def ofWord? (word : String) : Option Subcommand :=
  all.find? (fun subcommand => subcommand.word == word)

/- The options of a subcommand. -/
def flags : Subcommand → List Flag
  | .translate => [.strategy, .platform, .output]
  | .rule => [.platform, .symbol, .period, .series]
  | .validate => [.strategy]
  | .listPlatforms => []

/- The subcommand takes rules beside its options. -/
def takesRules : Subcommand → Bool
  | .rule => true
  | _ => false

end Subcommand

end Usage

end BarRules

------------------------------------------------------------
-- Single Arguments
------------------------------------------------------------

namespace BarRules

namespace Usage

/- What an argument is by its form. -/
inductive Argument where
  | plain
  | endOfOptions
  | help
  | helpWithValue
  | option
      (flag : Flag)
      (attached : Option String)
  | unknown
  deriving DecidableEq

namespace Argument

/- An argument of two dashes and a name, maybe with a value. -/
def ofLong
    (flags : List Flag)
    (body : List Char) :
    Argument :=
  let name := String.ofList (body.takeWhile (· ≠ '='))
  let attached :=
    match body.dropWhile (· ≠ '=') with
    | [] => none
    | _ :: value => some (String.ofList value)
  if name = "help" then
    if attached.isSome then .helpWithValue else .help
  else
    match flags.find? (fun flag => flag.long == name) with
    | some flag => .option flag attached
    | none => .unknown

/-
  An argument of one dash and a letter.  What follows the
  letter is the value, without an equals sign before it.
-/
def ofShort
    (flags : List Flag)
    (letter : Char)
    (rest : List Char) :
    Argument :=
  if letter = 'h' then
    .help
  else
    match flags.find? (fun flag => flag.short? == some letter) with
    | none => .unknown
    | some flag =>
        match rest with
        | [] => .option flag none
        | '=' :: value =>
            .option flag (some (String.ofList value))
        | value => .option flag (some (String.ofList value))

/-
  What an argument is, where the given options are known.  A
  dash alone is as plain as a word.
-/
def classify
    (flags : List Flag)
    (argument : String) :
    Argument :=
  match argument.toList with
  | ['-', '-'] => .endOfOptions
  | '-' :: '-' :: body => ofLong flags body
  | '-' :: letter :: rest => ofShort flags letter rest
  | _ => .plain

end Argument

end Usage

end BarRules

------------------------------------------------------------
-- Options and Rules
------------------------------------------------------------

namespace BarRules

namespace Usage

/- The values that are taken so far. -/
structure Given where
  strategy : Option String := none
  platform : Option Platform := none
  output : Option String := none
  symbol : Option String := none
  period : Option String := none
  series : Option String := none
  rules : List String := []

namespace Given

/- The option has a value already. -/
def has (given : Given) : Flag → Bool
  | .strategy => given.strategy.isSome
  | .platform => given.platform.isSome
  | .output => given.output.isSome
  | .symbol => given.symbol.isSome
  | .period => given.period.isSome
  | .series => given.series.isSome

/-
  Take the value of an option.  It must be the first one; a
  path must not be empty, and a platform must be known.
-/
def take
    (given : Given)
    (flag : Flag)
    (value : String) :
    Except Fault Given :=
  if given.has flag then
    .error .repeatedOption
  else
    match flag with
    | .strategy =>
        if value = "" then
          .error .unusableValue
        else
          .ok { given with strategy := some value }
    | .output =>
        if value = "" then
          .error .unusableValue
        else
          .ok { given with output := some value }
    | .platform =>
        match Platform.ofName value with
        | .error _ => .error .unknownPlatform
        | .ok platform =>
            .ok { given with platform := some platform }
    | .symbol => .ok { given with symbol := some value }
    | .period => .ok { given with period := some value }
    | .series => .ok { given with series := some value }

/- Take one more rule. -/
def addRule
    (given : Given)
    (rule : String) :
    Given :=
  { given with rules := given.rules ++ [rule] }

end Given

/- An option whose value has not been taken yet. -/
inductive Waiting where
  | nothing
  | forValue (flag : Flag)
  | withValue
      (flag : Flag)
      (value : String)

/- Take the value that waits. -/
def settle
    (given : Given) :
    Waiting → Except Fault Given
  | .nothing => .ok given
  | .forValue _ => .error .unusableValue
  | .withValue flag value => given.take flag value

/- Take a rule, if the subcommand takes any. -/
def takeRule
    (subcommand : Subcommand)
    (given : Given)
    (waiting : Waiting)
    (rule : String) :
    Except Fault Given :=
  if subcommand.takesRules then
    match settle given waiting with
    | .error fault => .error fault
    | .ok given => .ok (given.addRule rule)
  else
    .error .unknownArgument

/- Take the arguments after the end of options, all as rules. -/
def readRules
    (subcommand : Subcommand)
    (given : Given)
    (waiting : Waiting) :
    List String → Except Fault Given
  | [] => settle given waiting
  | argument :: rest =>
      match takeRule subcommand given waiting argument with
      | .error fault => .error fault
      | .ok given => readRules subcommand given .nothing rest

/- Take the arguments of a subcommand. -/
def readArguments
    (subcommand : Subcommand)
    (given : Given)
    (waiting : Waiting) :
    List String → Except Fault Given
  | [] => settle given waiting
  | argument :: rest =>
      match
        Argument.classify subcommand.flags argument, waiting
      with
      | .unknown, _ => .error .unknownArgument
      | .helpWithValue, _ => .error .unwantedValue
      | .help, _ =>
          match settle given waiting with
          | .error fault => .error fault
          | .ok _ => .error .help
      | .endOfOptions, _ =>
          readRules subcommand given waiting rest
      | .option flag none, _ =>
          match settle given waiting with
          | .error fault => .error fault
          | .ok given =>
              readArguments subcommand given (.forValue flag) rest
      | .option flag (some value), _ =>
          match settle given waiting with
          | .error fault => .error fault
          | .ok given =>
              match given.take flag value with
              | .error fault => .error fault
              | .ok given =>
                  readArguments subcommand given .nothing rest
      | .plain, .forValue flag =>
          readArguments subcommand given
            (.withValue flag argument) rest
      | .plain, _ =>
          match takeRule subcommand given waiting argument with
          | .error fault => .error fault
          | .ok given =>
              readArguments subcommand given .nothing rest

end Usage

end BarRules

------------------------------------------------------------
-- Whole Command Lines
------------------------------------------------------------

namespace BarRules

namespace Usage

/- The word of the subcommand that explains the others. -/
def helpWord : String := "help"

/- A word that starts a command, or asks for help on one. -/
def isCommandWord (word : String) : Bool :=
  (Subcommand.ofWord? word).isSome || word = helpWord

/- A request for help on nothing, or on one subcommand. -/
def helpOn : List String → Fault
  | [] => .help
  | [word] =>
      if isCommandWord word then .help else .unknownSubcommand
  | _ => .unknownSubcommand

/-
  What follows the end of options where a subcommand is wanted.
  The word of a subcommand has no place there, and anything
  else is no subcommand at all.
-/
def refuseAfterEnd : List String → Fault
  | [] => .missingSubcommand
  | word :: _ =>
      if isCommandWord word then
        .unknownArgument
      else
        .unknownSubcommand

/- A first argument that is no subcommand. -/
def refuse
    (argument : String)
    (rest : List String) :
    Fault :=
  match Argument.classify [] argument with
  | .help => .help
  | .helpWithValue => .unwantedValue
  | .endOfOptions => refuseAfterEnd rest
  | .plain => .unknownSubcommand
  | _ => .unknownArgument

end Usage

namespace Command

/- The command of a subcommand and what it was given. -/
def ofGiven
    (subcommand : Usage.Subcommand)
    (given : Usage.Given) :
    Except Usage.Fault Command :=
  match subcommand, given.strategy, given.rules with
  | .translate, some strategy, _ =>
      .ok (.translate strategy given.platform given.output)
  | .rule, _, first :: others =>
      .ok
        (.rule (first :: others) given.platform given.symbol
          given.period given.series)
  | .validate, some strategy, _ => .ok (.validate strategy)
  | .listPlatforms, _, _ => .ok .listPlatforms
  | _, _, _ => .error .missingArgument

/- The command that the arguments ask for. -/
def ofArguments :
    List String → Except Usage.Fault Command
  | [] => .error .missingSubcommand
  | argument :: rest =>
      match Usage.Subcommand.ofWord? argument with
      | some subcommand =>
          match
            Usage.readArguments subcommand {} .nothing rest
          with
          | .error fault => .error fault
          | .ok given => ofGiven subcommand given
      | none =>
          if argument = Usage.helpWord then
            .error (Usage.helpOn rest)
          else
            .error (Usage.refuse argument rest)

end Command

end BarRules
