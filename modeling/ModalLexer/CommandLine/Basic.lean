import ModalLexer.Catalog.Builtin
import ModalLexer.CommandLine.Arguments
import ModalLexer.Config
import ModalLexer.Report.Detection
import ModalLexer.Report.Grammars
import ModalLexer.Report.Scan
import ModalLexer.Report.Types

/-! # Commands

What the program does for an invocation. The commands are functions of the configuration and of the
text they read; reading is left to an environment.
-/

namespace ModalLexer.CommandLine

def programName : String := "tokenkit"

def programVersion : String := "0.1.0"

inductive ReadError where
  | notFound
  | notADirectory
  | isADirectory
  | notUtf8
  | other (message : String)
deriving DecidableEq, Repr

def ReadError.message : ReadError → String
  | notFound => "No such file or directory (os error 2)"
  | notADirectory => "Not a directory (os error 20)"
  | isADirectory => "Is a directory (os error 21)"
  | notUtf8 => "stream did not contain valid UTF-8"
  | other message => message

/-- Why a configuration is not read. -/
inductive ConfigError where
  | unreadable (path : String) (cause : ReadError)
  | invalid (path : String)
deriving DecidableEq, Repr

namespace ConfigError

def message : ConfigError → String
  | unreadable path cause => "failed to read config " ++ path ++ ": " ++ cause.message
  | invalid path => "invalid config " ++ path

/-- The cause, as it is repeated behind the message. -/
def trailer : ConfigError → String
  | unreadable _ cause => ": " ++ cause.message
  | invalid _ => ""

end ConfigError

/-- Why an invocation fails. -/
inductive Failure where
  | usage
  | config (cause : ConfigError)
  | unreadableFile (path : String) (cause : ReadError)
  | unreadableInput (cause : ReadError)
  | catalog (cause : CatalogError)
  | noGrammar
  | scan (cause : ScanError)
  /-- The scan ended with an error, which is the text of its stop. -/
  | stopped (message : Text)
deriving DecidableEq, Repr

def usageText : String :=
  "Usage: " ++ programName ++ " [OPTIONS] [COMMAND]\n\n"
    ++ "Commands: scan [FILE], detect [FILE], grammars, types, version, help\n"
    ++ "Options: -v, --json, --config <PATH>, -h, -V\n"

namespace Failure

def message : Failure → String
  | usage => usageText
  | config cause => cause.message ++ cause.trailer
  | unreadableFile path cause => "failed to read " ++ path ++ ": " ++ cause.message
  | unreadableInput cause => "failed to read standard input: " ++ cause.message
  | catalog cause => cause.message
  | noGrammar => "no grammar could scan the text"
  | scan (.unsound e) => e.message
  | scan (.aborted (.fault f)) => f.message
  | scan (.aborted .unfinished) => "the scan did not come to an end"
  | stopped text => "scan stopped on error: " ++ String.ofList text

def report : Failure → String
  | usage => usageText
  | e => "Error: " ++ e.message ++ "\n"

def exitCode : Failure → UInt8
  | usage => 2
  | _ => 1

end Failure

/-- What an invocation writes, and why it failed if it did. -/
structure Outcome where
  stdout : String := ""
  failure? : Option Failure := none

namespace Outcome

def ofFailure (e : Failure) : Outcome := { failure? := some e }

def stderr (o : Outcome) : String := (o.failure?.map (·.report)).getD ""

def exitCode (o : Outcome) : UInt8 := (o.failure?.map (·.exitCode)).getD 0

end Outcome

def catalog : Catalog Unit := Catalog.builtin

def render (format : OutputFormat) (human : String) (json : Json) : String :=
  match format with
  | .human => human
  | .json => json.pretty ++ "\n"

/-- The number of requests after which a scan is given up. No scan with a grammar of the program
makes more: every token takes some text. -/
def requestLimit (text : Text) : Nat := text.byteSize + 1

/-- The candidates for a text with their scores. -/
def scores (names : List String) (markers : List Text) (text : Text) :
    Except Failure (List (Scored Unit)) := do
  let candidates ← (catalog.candidates names).mapError .catalog
  (Detection.scores text markers (requestLimit text) candidates).mapError (.scan <| .aborted ·)

/-- The grammar for a text: the one that is named, or the first for the name of the file, or else
the best candidate of the configuration. -/
def chooseGrammar (config : Config) (options : ScanOptions) (markers : List Text) (text : Text) :
    Except Failure (GrammarInfo Unit) :=
  match options.grammar? with
  | some name =>
    match catalog.find? name with
    | some info => .ok info
    | none => .error (.catalog (.unknownGrammar name))
  | none =>
    match (options.file?.map fun path => catalog.forPath path.toList).getD [] with
    | info :: _ => .ok info
    | [] => do
      match Detection.best? (← scores config.candidates markers text) with
      | some best => return best.info
      | none => throw .noGrammar

/-- Scans a text with the grammar chosen for it. -/
def scanReport (config : Config) (options : ScanOptions) (text : Text) :
    Except Failure ScanReport := do
  let markers := config.stopMarkers ++ options.stopMarkers
  let info ← chooseGrammar config options markers text
  let run ← (info.grammar.scan text markers (requestLimit text)).mapError .scan
  return run.report

/-- Scores the candidates for a text: those that are named, or else those of the configuration. -/
def detectionReport (config : Config) (names : List String) (text : Text) :
    Except Failure DetectionReport := do
  let names := if names.isEmpty then config.candidates else names
  let scored ← scores names config.stopMarkers text
  return .ofScores scored (Detection.best? scored)

/-- What a scan writes. One that ended with an error is written, and is a failure. -/
def scanOutcome (format : OutputFormat) (color? : String → Option Color) :
    Except Failure ScanReport → Outcome
  | .error e => .ofFailure e
  | .ok r => {
      stdout := render format (r.human color?) r.json
      failure? := if r.isError then some (.stopped r.stop.text) else none }

def detectionOutcome (format : OutputFormat) : Except Failure DetectionReport → Outcome
  | .error e => .ofFailure e
  | .ok r => { stdout := render format r.human r.json }

/-- The name of the program with its version. -/
def banner : String := programName ++ " v" ++ programVersion ++ "\n"

def versionOutput : OutputFormat → String
  | .human => banner
  | .json => (Json.object [("version", .string programVersion)]).compact ++ "\n"

def overviewOutput : OutputFormat → String
  | .human =>
    banner ++ "\nRun '" ++ programName ++ " --help' for usage\n"
      ++ "Run '" ++ programName ++ " scan <file>' to tokenize a file\n"
  | .json =>
    (Json.object [("hint", .string "Use --help for usage"),
      ("version", .string programVersion)]).compact ++ "\n"

structure Environment (m : Type → Type) where
  contentOf : String → m (Except ReadError Text)
  input : m (Except ReadError Text)
  /-- The path of the configuration that is used if none is given, if there is such a file. -/
  defaultConfig? : m (Option String)
  takesColor : Bool

namespace Environment

variable {m : Type → Type} [Monad m]

def isInput (path : String) : Bool := Path.components path.toList = [['-']]

/-- Reads a file, or the standard input. -/
def readText (env : Environment m) : Option String → m (Except Failure Text)
  | none => return (← env.input).mapError .unreadableInput
  | some path =>
    if isInput path then return (← env.input).mapError .unreadableInput
    else return (← env.contentOf path).mapError (.unreadableFile path)

def readConfig (env : Environment m) (path : String) : m (Except ConfigError Config) := do
  match ← env.contentOf path with
  | .error e => return .error (.unreadable path e)
  | .ok text =>
    match Config.parse? text with
    | some config => return .ok config
    | none => return .error (.invalid path)

/-- The configuration at a path, or at the path for one that is not given, or the default one. -/
def config (env : Environment m) (path? : Option String) : m (Except ConfigError Config) := do
  match path? with
  | some path => env.readConfig path
  | none =>
    match ← env.defaultConfig? with
    | some path => env.readConfig path
    | none => return .ok {}

def runCommand (env : Environment m) (config : Config) (format : OutputFormat) :
    Command → m Outcome
  | .overview => return { stdout := overviewOutput format }
  | .version => return { stdout := versionOutput format }
  | .grammars => return { stdout := render format catalog.list.human catalog.list.json }
  | .types =>
    let forest := Taxonomy.builtin.forest
    return { stdout := render format (TypeTree.human forest) (TypeTree.forestJson forest) }
  | .scan options => do
    let painted := env.takesColor && config.color && options.color
    let color? := if painted then Taxonomy.builtin.color? else fun _ => none
    let text ← env.readText options.file?
    return scanOutcome format color? (text.bind (scanReport config options))
  | .detect file? candidates => do
    let text ← env.readText file?
    return detectionOutcome format (text.bind (detectionReport config candidates))

def run (env : Environment m) (args : List String) : m Outcome := do
  match Invocation.read args with
  | .error .usage => return .ofFailure .usage
  | .error .help => return { stdout := usageText }
  | .error .version => return { stdout := programName ++ " " ++ programVersion ++ "\n" }
  | .ok invocation =>
    match ← env.config invocation.config? with
    | .error e => return .ofFailure (.config e)
    | .ok config =>
      let format := if invocation.json then .json else config.format
      env.runCommand config format invocation.command

end Environment

end ModalLexer.CommandLine
