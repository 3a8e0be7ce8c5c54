import GradedQuery.CommandLine.Options
import GradedQuery.Environment

/-!
# Invocations

What the arguments of the program ask for: a command with its operands and options, and the options
that all commands share.  The shared ones may stand before the name of the command or behind it; of
two values the one behind counts.
-/

namespace GradedQuery.CommandLine

/-- The options that all commands share. -/
structure SharedOptions where
  /-- The configuration file. -/
  config : Option String := none
  /-- The dataset. -/
  data : Option String := none
  json : Bool := false
  verbose : Bool := false
  quiet : Bool := false
  deriving DecidableEq, Repr

/-- The options that override what the configuration says on splitting cases. -/
structure SplitOverrides where
  ordinal : List String := []
  maxDepth : Option Nat := none
  deriving DecidableEq, Repr

/-- A command. -/
inductive Command where
  | parse (formula : String)
  | atoms (formula : String)
  | expand (formula : String)
  | normalize (formula : String) (overrides : SplitOverrides)
  | explain (formula : String) (overrides : SplitOverrides) (limit : Option Nat)
  | rank (formula : String) (overrides : SplitOverrides) (limit : Option Nat)
  | check (formula : String) (trueAtoms : List String)
  | showConfig
  | configPath
  | initConfig (force empty : Bool)
  | completion (shell : String)
  deriving DecidableEq, Repr

/-- What is to be done. -/
inductive Invocation where
  /-- Carry out a command. -/
  | run (shared : SharedOptions) (command : Command)
  /-- Show help on a command, given by the names down to it. -/
  | help (names : List String)
  /-- Show the version of a command. -/
  | version (names : List String)
  /-- Reject the arguments. -/
  | reject (message : String)
  deriving DecidableEq, Repr

/-! ## The commands and their options -/

/-- The name of the program. -/
def programName : String := "cq"

/-- The variable that names the configuration file. -/
def configVariable : String := "CQQL_CONFIG"

/-- The forms of the shared options. -/
def sharedForms : List OptionForm :=
  [⟨"config", none, .path⟩, ⟨"data", none, .path⟩, ⟨"json", none, .flag⟩,
   ⟨"verbose", some 'v', .flag⟩, ⟨"quiet", some 'q', .flag⟩]

/-- The forms of the options on splitting cases. -/
def splitForms : List OptionForm :=
  [⟨"ordinal", none, .names⟩, ⟨"max-depth", none, .natural⟩]

/-- The form of the option on the length of a ranking. -/
def limitForm : OptionForm := ⟨"limit", some 'n', .natural⟩

/-- The shells that there are completions for. -/
def shells : List String := ["bash", "zsh", "fish", "powershell"]

/-- The name under which each group of commands offers help. -/
def helpName : String := "help"

/-- The options, the commands below and the greatest number of operands of a command; none if there
is no such command.  Commands with others below them have no operands. -/
def grammar? : List String → Option (List OptionForm × List String × Option Nat)
  | [] => some ([],
      ["parse", "atoms", "expand", "normalize", "explain", "rank", "check", "config",
       "completion"], some 0)
  | ["parse"] | ["atoms"] | ["expand"] => some ([], [], some 1)
  | ["normalize"] => some (splitForms, [], some 1)
  | ["explain"] | ["rank"] => some (limitForm :: splitForms, [], some 1)
  | ["check"] => some ([], [], none)
  | ["config"] => some ([], ["show", "path", "init"], some 0)
  | ["config", "show"] | ["config", "path"] => some ([], [], some 0)
  | ["config", "init"] =>
    some ([⟨"force", none, .flag⟩, ⟨"empty", none, .flag⟩], [], some 0)
  | ["completion"] => some ([], shells, some 0)
  | ["completion", shell] => if shells.contains shell then some ([], [], some 0) else none
  | _ => none

/-! ## Reading the arguments -/

/-- The command of some names with what is given for it. -/
def command? (names : List String) (given : Given) : Option Command :=
  let overrides : SplitOverrides :=
    { ordinal := (given.values "ordinal").flatMap (·.splitOn ","),
      maxDepth := (given.values "max-depth").head?.bind natural64? }
  let limit := (given.values "limit").head?.bind natural64?
  match names, given.operands with
  | ["parse"], [f] => some (.parse f)
  | ["atoms"], [f] => some (.atoms f)
  | ["expand"], [f] => some (.expand f)
  | ["normalize"], [f] => some (.normalize f overrides)
  | ["explain"], [f] => some (.explain f overrides limit)
  | ["rank"], [f] => some (.rank f overrides limit)
  | ["check"], f :: atoms => some (.check f atoms)
  | ["config", "show"], [] => some .showConfig
  | ["config", "path"], [] => some .configPath
  | ["config", "init"], [] => some (.initConfig (given.has "force") (given.has "empty"))
  | ["completion", shell], [] => some (.completion shell)
  | _, _ => none

/-- The shared options of the levels of a command, the innermost one first. -/
def sharedOptions (env : Environment) (levels : List Given) : SharedOptions where
  config := (levels.flatMap (·.values "config")).head?.or (env.get? configVariable)
  data := (levels.flatMap (·.values "data")).head?
  json := levels.any (·.has "json")
  verbose := levels.any (·.has "verbose")
  quiet := levels.any (·.has "quiet")

/-- Whether the variable for the configuration file is set to the empty text and counts at some
level. -/
def hasEmptyConfigVariable (env : Environment) (levels : List Given) : Bool :=
  env.get? configVariable = some "" && levels.any (!·.has "config")

/-- Reads the arguments from a command on, at most `fuel` commands deep; `outer` is given at the
levels around it, the innermost one first. -/
def readCommand (fuel : Nat) (env : Environment) (names : List String) (outer : List Given)
    (args : List String) : Invocation :=
  match fuel, grammar? names with
  | fuel + 1, some (forms, commands, most) =>
    let below := if commands.isEmpty then [] else helpName :: commands
    match readArguments (forms ++ sharedForms) below most {} args with
    | .error .help => .help names
    | .error .version => .version names
    | .error (.misuse message) => .reject message
    | .ok (given, some (name, rest)) =>
      if name = helpName then
        if (grammar? (names ++ rest)).isSome then .help (names ++ rest)
        else .reject "unrecognized command"
      else readCommand fuel env (names ++ [name]) (given :: outer) rest
    | .ok (given, none) =>
      let levels := given :: outer
      if hasEmptyConfigVariable env levels then .reject "a value is required for '--config'"
      else match command? names given with
        | some command => .run (sharedOptions env levels) command
        | none =>
          if names.isEmpty then .help [] else .reject "a required argument is missing"
  | _, _ => .reject "unrecognized command"

/-- What the arguments of the program ask for. -/
def readInvocation (env : Environment) (args : List String) : Invocation :=
  readCommand 4 env [] [] args

end GradedQuery.CommandLine
