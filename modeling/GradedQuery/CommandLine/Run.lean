import GradedQuery.CommandLine.Invocation
import GradedQuery.CommandLine.Log
import GradedQuery.CommandLine.Report
import GradedQuery.Compile
import GradedQuery.Config.Directory
import GradedQuery.Dataset.Object
import GradedQuery.Demo
import GradedQuery.Display.Score
import GradedQuery.Ranking.Json

/-!
# Carrying out commands

Every command reads its formula, does its work and yields one text, plain or as JSON.  Commands that
normalize or rank need a configuration first: the one of a given file, else the one of the
configuration directory, else the demonstration.
-/

namespace GradedQuery.CommandLine

open Json (Document)

variable {m : Type → Type} [Monad m] [Host m]

/-- Work that may fail and keeps a log. -/
abbrev Work (m : Type → Type) := ExceptT Failure (StateT (List LogRecord) m)

namespace Work

/-- Uses an operation of the surroundings. -/
def host {α : Type} (x : m α) : Work m α := ExceptT.lift (StateT.lift x)

/-- Goes on with a result, or fails in some contexts. -/
def orFail {α ε : Type} (toFailure : ε → Failure) (contexts : List String) (x : Except ε α) :
    Work m α :=
  match x with
  | .ok a => return a
  | .error e => throw (contexts.foldr Failure.inContext (toFailure e))

/-- Adds to the log. -/
def log (records : List LogRecord) : Work m Unit := modify (· ++ records)

/-- Adds an event of the program itself to the log. -/
def note (target message : String) (fields : List (String × String) := []) : Work m Unit :=
  log [⟨.debug, target, message, fields⟩]

/-- Adds the events of a stage to the log and goes on with its result, or fails with it. -/
def traced {α : Type} (t : Traced α) : Work m α := do
  log (t.events.map LogRecord.ofEvent)
  orFail .ofQueryError [] t.outcome

end Work

open Work

/-! ## What commands work on -/

/-- Where a configuration comes from. -/
inductive ConfigSource where
  | file (path : String)
  | demo
  deriving DecidableEq, Repr

/-- How the log shows a source. -/
def ConfigSource.logText : ConfigSource → String
  | .file path => "File(" ++ Text.quote path ++ ")"
  | .demo => "Demo"

/-- The target of events on configuration and dataset. -/
def contextTarget : String := "cq::context"

/-- The path of the current directory. -/
def currentDirectory : Work m String := do
  orFail .ofFileError ["cannot determine current directory"] (← host Host.currentDirectory)

/-- The configuration that counts, and where it comes from. -/
def loadConfig (shared : SharedOptions) : Work m (Config × ConfigSource) := do
  match shared.config with
  | some path =>
    let loaded ← host (Config.loadFile {} path)
    let config ← orFail .ofConfigError ["failed to load config " ++ path] loaded
    return (config, .file path)
  | none =>
    match ← host (ConfigDirectory.find? (← currentDirectory)) with
    | some directory =>
      note contextTarget "using config directory" [("dir", directory)]
      let loaded ← host (Config.loadDirectory directory)
      let config ← orFail .ofConfigError ["failed to load config from " ++ directory] loaded
      return (config, .file (Path.join directory ConfigDirectory.fileName))
    | none =>
      note contextTarget "no config found, using demo profile"
      let config ← orFail .ofConfigError []
        (Config.load Demo.config none (← host Host.environment))
      return (config, .demo)

/-- The objects of a dataset.  A directory can be opened, but not read. -/
def loadDataset (path : String) : Work m (List (ScoredObject Float)) := do
  let opened := "failed to open dataset " ++ path
  let reading := "failed to read dataset " ++ path
  let objects ← match ← host (Host.contents path) with
    | .ok bytes => orFail .ofDatasetError [reading] (Dataset.read ScoredObject.decode bytes)
    | .error .isADirectory =>
      orFail .ofDatasetError [reading] (.error (.file .isADirectory))
    | .error e => orFail .ofFileError [opened] (.error e)
  note contextTarget "loaded dataset" [("path", path), ("count", toString objects.length)]
  return objects

/-- The objects to rank. -/
def loadObjects (shared : SharedOptions) (config : Config) : Work m (List (ScoredObject Float)) :=
  match shared.data.or config.data with
  | some path => loadDataset path
  | none => return Demo.objects

/-- What to split on, and how deep. -/
def splitOptions (config : Config) (overrides : SplitOverrides) : SplitOptions where
  ordinal :=
    if overrides.ordinal.isEmpty then config.ordinalAttributes else trimmedNames overrides.ordinal
  maxDepth := overrides.maxDepth.getD config.maxDepth

/-- The text of a formula, which is read from the input if the argument is a hyphen. -/
def readFormula (arg : String) : Work m String := do
  if arg ≠ "-" then return arg
  let line ← orFail .ofFileError ["failed to read formula from stdin"] (← host Host.inputLine)
  let text := Text.trim line
  if text.isEmpty then throw (.ofMessage "no formula given on stdin")
  return text

/-- The formula that an argument denotes. -/
def parseFormula (arg : String) : Work m Formula := do
  let text ← readFormula arg
  orFail .ofQueryError [] ((parse text).mapError .parse)

/-- Whether colors are used. -/
def usesColors : Work m Bool := do
  let choice := Display.ColorChoice.ofEnvironment (← host Host.environment)
  return choice.applies (← host Host.outputIsTerminal)

/-! ## The commands -/

/-- Shows a formula in its canonical form. -/
def runParse (shared : SharedOptions) (arg : String) : Work m String := do
  let f ← parseFormula arg
  return if shared.json then
    jsonText (.object [("expanded", .boolean f.isExpanded), ("formula", .text f.render),
      ("root", .text f.kind)])
  else asLine f.render

/-- Lists the atoms of a formula. -/
def runAtoms (shared : SharedOptions) (arg : String) : Work m String := do
  let atoms := (← parseFormula arg).atoms.toList
  return if shared.json then jsonText (jsonTexts atoms) else String.join (atoms.map asLine)

/-- Expands the weighted connectives of a formula. -/
def runExpand (shared : SharedOptions) (arg : String) : Work m String := do
  let f ← parseFormula arg
  return if shared.json then
    jsonText (.object [("expanded", .text f.expand.render), ("parsed", .text f.render)])
  else asLine f.expand.render

/-- The truth value of a formula, where the given atoms are true and all others false. -/
def checkValue (trueAtoms : OrderedSet String) (f : Formula) : Bool :=
  f.holds fun name => name ∈ trueAtoms

/-- Decides a formula. -/
def runCheck (shared : SharedOptions) (arg : String) (trueAtoms : List String) : Work m String := do
  let f ← parseFormula arg
  let atoms : OrderedSet String := .ofList trueAtoms
  let value := checkValue atoms f
  if shared.json then
    return jsonText (.object [("formula", .text f.render), ("true_atoms", jsonTexts atoms.toList),
      ("value", .boolean value)])
  else return asLine (Display.truth (← usesColors) value)

/-- Shows the normalized form of a formula, term by term. -/
def runNormalize (shared : SharedOptions) (arg : String) (overrides : SplitOverrides) :
    Work m String := do
  let (config, _) ← loadConfig shared
  let opts := splitOptions config overrides
  let f ← parseFormula arg
  let d ← orFail .ofQueryError [] (Dnf.ofFormula f.expand)
  let d ← traced (d.normalize opts config.naming)
  let terms := d.terms.toList.map Term.render
  if shared.json then
    return jsonText (.object [("formula", .text d.toFormula.render),
      ("ordinal", jsonTexts opts.ordinal.toList),
      ("overlap_free", .boolean (d.isOverlapFree opts config.naming)), ("terms", jsonTexts terms)])
  let colored ← usesColors
  let shown := if shared.quiet then [] else
    terms.map fun term => asLine ("  " ++ Display.paint colored .muted term)
  return asLine d.toFormula.render ++ String.join shown

/-- Compiles a formula and ranks the objects by it, the best ones first. -/
def compileAndRank (shared : SharedOptions) (arg : String) (overrides : SplitOverrides)
    (limit : Option Nat) : Work m (Compiled × List (Ranked Float)) := do
  let (config, source) ← loadConfig shared
  note "cq::commands::rank" "resolved config" [("source", source.logText)]
  let text ← readFormula arg
  let compiled ← traced (compile (splitOptions config overrides) config.naming text)
  let objects ← loadObjects shared config
  let ranked ← orFail .ofQueryError ["failed to score objects"]
    (rank config.attributes config.naming compiled.normalized objects)
  return (compiled, ranked.take (limit.getD ranked.length))

/-- The width of the bars in rankings. -/
def barWidth : Nat := 20

/-- A row of a ranking, whose first place is number 1. -/
def rankingRow (colored : Bool) (place : Nat) (r : Ranked Float) : List String :=
  [toString (place + 1), r.name, Display.scoreText r.score, Display.bar colored r.score barWidth]

/-- Ranks the objects. -/
def runRank (shared : SharedOptions) (arg : String) (overrides : SplitOverrides)
    (limit : Option Nat) : Work m String := do
  let (_, ranked) ← compileAndRank shared arg overrides limit
  if shared.json then return jsonText (rankingDocument ranked)
  if ranked.isEmpty then return if shared.quiet then "" else asLine "No objects to rank."
  let colored ← usesColors
  return table ["#", "OBJECT", "SCORE", "MATCH"] (ranked.mapIdx (rankingRow colored))

/-- The width of the line above the ranking in an explanation. -/
def ruleWidth : Nat := 40

/-- Shows the formula of every stage, and the ranking. -/
def runExplain (shared : SharedOptions) (arg : String) (overrides : SplitOverrides)
    (limit : Option Nat) : Work m String := do
  let (compiled, ranked) ← compileAndRank shared arg overrides limit
  if shared.json then
    return jsonText (.object [("expanded", .text compiled.expanded.render),
      ("normalized", .text compiled.normalized.render), ("parsed", .text compiled.parsed.render),
      ("ranking", rankingDocument ranked)])
  let colored ← usesColors
  let stage (name body : String) : String :=
    asLine (Display.heading colored name) ++ asLine body
  let width := greatestLength (ranked.map Ranked.name)
  let places := ranked.map fun r =>
    asLine ("  " ++ padTo width r.name ++ "  " ++ Display.score colored r.score)
  return stage "parsed" compiled.parsed.render ++ "\n" ++
    stage "expanded" compiled.expanded.render ++ "\n" ++
    stage "normalized" compiled.normalized.render ++ "\n" ++
    stage "ranking" (Display.rule colored ruleWidth) ++ String.join places

/-! ## Configuration -/

/-- A configuration as a JSON value. -/
def configDocument (config : Config) : Document :=
  let types := config.attributes.toList.map fun (attr, t) => (attr, Document.text t.name)
  let data := match config.data with
    | some path => [("data", Document.text path)]
    | none => []
  .object ([("attributes", .object types)] ++ data ++
    [("max-depth", .natural config.maxDepth), ("ordinal", jsonTexts config.ordinal),
     ("separator", .text config.separator)])

/-- A source as a JSON value. -/
def ConfigSource.toDocument : ConfigSource → Document
  | .file path => .object [("kind", .text "file"), ("path", .text path)]
  | .demo => .object [("kind", .text "demo")]

/-- A source as a comment line. -/
def ConfigSource.comment : ConfigSource → String
  | .file path => asLine ("# source: " ++ path)
  | .demo => asLine "# source: built-in demo profile"

/-- Shows the configuration that counts. -/
def runShowConfig (shared : SharedOptions) : Work m String := do
  let (config, source) ← loadConfig shared
  return if shared.json then
    jsonText (.object [("config", configDocument config), ("source", source.toDocument)])
  else (if shared.quiet then "" else source.comment) ++ config.toYaml

/-- Shows where the configuration file is, or would be. -/
def runConfigPath (shared : SharedOptions) : Work m String := do
  let path ← match shared.config with
    | some path => pure path
    | none => do
      let found ← host (ConfigDirectory.find (← currentDirectory))
      let directory ← orFail .ofConfigError [] found
      pure (Path.join directory ConfigDirectory.fileName)
  if shared.json then
    return jsonText (.object [("exists", .boolean (← host (Host.isThere path))),
      ("path", .text path)])
  else return asLine path

/-- Writes a configuration file into the configuration directory of the current directory. -/
def runInitConfig (shared : SharedOptions) (force empty : Bool) : Work m String := do
  let here ← currentDirectory
  let directory ← orFail .ofConfigError ["failed to create config directory in " ++ here]
    (← host (ConfigDirectory.ensure here))
  let path := Path.join directory ConfigDirectory.fileName
  if (← host (Host.isThere path)) && !force then
    throw (.ofMessage (path ++ " already exists\nHint: pass --force to overwrite it"))
  let config := if empty then {} else Demo.config
  orFail .ofConfigError ["failed to write " ++ path] (← host (config.save directory))
  return if shared.json then
    jsonText (.object [("path", .text path),
      ("profile", .text (if empty then "empty" else "demo"))])
  else if shared.quiet then "" else asLine ("Wrote " ++ path)

/-! ## The program -/

/-- The version of the program. -/
def versionNumber : String := "0.1.0"

/-- The text of a version: the names down to the command, and the number. -/
def versionText (names : List String) : String :=
  asLine ("-".intercalate (programName :: names) ++ " " ++ versionNumber)

/-- The text of the help on a command. -/
def helpText (names : List String) : String :=
  let usage := "Usage: " ++ " ".intercalate (programName :: names)
  match grammar? names with
  | some (forms, commands, _) =>
    asLine (usage ++ " [OPTIONS]" ++ if commands.isEmpty then "" else " [COMMAND]") ++
      String.join (commands.map fun name => asLine ("  " ++ name)) ++
      String.join ((forms ++ sharedForms).map fun form => asLine ("  --" ++ form.long))
  | none => asLine usage

/-- The words that a shell can complete. -/
def completionText : String :=
  match grammar? [] with
  | some (_, commands, _) =>
    asLine ("complete -W '" ++ " ".intercalate commands ++ "' " ++ programName)
  | none => ""

/-- Carries out a command. -/
def runCommand (shared : SharedOptions) : Command → Work m String
  | .parse f => runParse shared f
  | .atoms f => runAtoms shared f
  | .expand f => runExpand shared f
  | .normalize f overrides => runNormalize shared f overrides
  | .explain f overrides limit => runExplain shared f overrides limit
  | .rank f overrides limit => runRank shared f overrides limit
  | .check f trueAtoms => runCheck shared f trueAtoms
  | .showConfig => runShowConfig shared
  | .configPath => runConfigPath shared
  | .initConfig force empty => runInitConfig shared force empty
  | .completion _ => return completionText

/-- Carries out what the arguments of the program ask for. -/
def run (args : List String) : m Report := do
  let env ← Host.environment
  match readInvocation env args with
  | .help names => return { output := helpText names }
  | .version names => return { output := versionText names }
  | .reject message => return { code := 2, errors := asLine ("error: " ++ message) }
  | .run shared command => do
    let (outcome, records) ← (runCommand shared command).run.run []
    let shown := if shared.verbose then records.filter (isShown (logDirectives env)) else []
    let log := String.join (shown.map fun r => asLine r.line)
    match outcome with
    | .ok text => return { output := text, errors := log }
    | .error f => return { code := 1, errors := log ++ f.tell shared.json }

end GradedQuery.CommandLine
