import ServiceContracts.Analysis
import ServiceContracts.CommandLine.Arguments
import ServiceContracts.Report.Json
import ServiceContracts.Report.Markdown
import ServiceContracts.Settings
import ServiceContracts.Source.Load
import ServiceContracts.Source.Output
import ServiceContracts.Text.Style

/-!
# Commands

`analyze` reports on a snapshot, `normalize` shows how a call target is read, and `match` tells
whether an endpoint serves a path. A command is a function of its arguments, the settings and what
the paths among its arguments lead to; its outcome says what is to be printed and written.

* `Outcome` : what a command prints and writes, and how it ends;
* `run` : the whole command line.
-/

namespace ServiceContracts.CommandLine
open Source

/-! ## Outcomes -/

/-- An end that no command is prepared for. -/
inductive Crash where
  /-- A document that cannot be loaded, but is not refused either. -/
  | loading (f : Source.Fault)
  | overlong (o : Number.Overlong)
  /-- The report would hold a number with too many digits. -/
  | oversized (o : Number.Oversized)
  /-- The report cannot be written to its path. -/
  | output (o : Source.Obstacle)
  /-- The report holds a code point that is no character. -/
  | unencodable
  /-- A report in JSON would hold a code point that is no character. -/
  | unserializable
  /-- The log level stands for something else. -/
  | level (n : Log.NoLevel)
  /-- A path with a null character. -/
  | embeddedNull
  /-- A path with a surrogate that stands for no byte. -/
  | unencodablePath
deriving DecidableEq, Repr

structure Outcome where
  exitCode : Nat := 0
  stdout : String := ""
  stderr : String := ""
  /-- The events that are shown, in order. -/
  events : List Log.Event := []
  /-- The path of the report and its text. -/
  written : Option (String × String) := none
  crash : Option Crash := none
deriving DecidableEq, Repr

/-- An end that no command is prepared for. -/
def crashed (c : Crash) : Outcome := { exitCode := 1, crash := some c }

/-- An end with a message. -/
def failed (message : String) : Outcome := { exitCode := 1, stderr := "Error: " ++ message ++ "\n" }

/-- The end of a command that cannot load a document. -/
def unloadable : Source.Fault → Outcome
  | .refused path reason => failed (refusal path reason)
  | f => crashed (.loading f)

/-! ## Syntax -/

/-- What a command takes. -/
structure Usage where
  /-- The command as it is called. -/
  name : String
  flags : List Flag
  /-- The names of its arguments. -/
  arguments : List String

/-- The line that shows what a command takes. -/
def Usage.line (u : Usage) : String :=
  "Usage: " ++ " ".intercalate (u.name :: "[OPTIONS]" :: u.arguments) ++ "\n"

/-- The end of a command whose arguments are refused. -/
def misused (u : Usage) (f : Fault) : Outcome :=
  let usage := u.line ++ "Try '" ++ u.name ++ " --help' for help.\n\n"
  { exitCode := 2
    stderr := (if f.isBare then "" else usage) ++ "Error: " ++ f.message ++ "\n" }

/-- Why a command does not run. -/
inductive Refusal where
  | misuse (f : Fault)
  | crash (c : Crash)
deriving DecidableEq, Repr

/-- The end of a command that does not run. -/
def refused (u : Usage) : Refusal → Outcome
  | .misuse f => misused u f
  | .crash c => crashed c

/-- The option that asks for help. -/
def helpFlag : Flag := { name := "help", takesValue := false }

/-- The option with which a boundary is given. -/
def configFlag : Flag := { name := "config", letter := some 'c' }

/-- The option with which a package manifest is given. -/
def manifestFlag : Flag := { name := "package-json" }

/-- The option with which the form of a report is given. -/
def formatFlag : Flag := { name := "format" }

/-- The option with which the place of a report is given. -/
def outputFlag : Flag := { name := "output", letter := some 'o' }

/-- The option that makes findings a failure. -/
def strictFlag : Flag := { name := "fail-on-issues", takesValue := false }

/-- The option with which a log level is given. -/
def levelFlag : Flag := { name := "log-level" }

/-- What the program takes in front of a command. -/
def programUsage : Usage :=
  { name := "main", flags := [levelFlag, helpFlag], arguments := ["COMMAND", "[ARGS]..."] }

/-- What `analyze` takes. -/
def analyzeUsage : Usage :=
  { name := "main analyze"
    flags := [configFlag, manifestFlag, formatFlag, outputFlag, strictFlag, helpFlag]
    arguments := ["SNAPSHOT_PATH"] }

/-- What `normalize` takes. -/
def normalizeUsage : Usage :=
  { name := "main normalize", flags := [configFlag, helpFlag], arguments := ["URL"] }

/-- What `match` takes. -/
def matchUsage : Usage :=
  { name := "main match", flags := [helpFlag], arguments := ["ENDPOINT_PATH", "CALL_PATH"] }

/-! ## Values of options -/

/-- The values of an option, in order. -/
def valuesOf (os : List Occurrence) (f : Flag) : List String :=
  (os.filter fun o => o.1 == f).map (·.2)

/-- The value of an option that counts once: the last one. -/
def valueOf? (os : List Occurrence) (f : Flag) : Option String := (valuesOf os f).getLast?

/-- The option was given. -/
def given (os : List Occurrence) (f : Flag) : Bool := os.any fun o => o.1 == f

/-- The fault of a value that is the path of something, with what is said of it. -/
def badPath (hint what path said : String) : Refusal :=
  .misuse (.badValue hint (what ++ " " ++ Text.quoted path ++ " " ++ said ++ "."))

/-- What is there may be read, as far as the system tells without opening it. -/
def checkReadable (hint what path : String) (e : SystemError) : Except Refusal Unit :=
  if e = .denied then .error (badPath hint what path "is not readable") else .ok ()

/-- A path that has to lead to a file. -/
def checkFile (files : String → Entry) (hint path : String) : Except Refusal Unit :=
  match files path with
  | .file _ | .unread _ => .ok ()
  | .directory => .error (badPath hint "File" path "is a directory")
  | .unreachable _ => .error (badPath hint "File" path "does not exist")
  | .unopened e => checkReadable hint "File" path e
  | .embeddedNull => .error (.crash .embeddedNull)
  | .unencodable => .error (.crash .unencodablePath)

/-- The forms of a report. -/
def formats : List String := ["markdown", "json"]

/-- A form of a report that is known. -/
def checkFormat (value : String) : Except Refusal Unit :=
  if value ∈ formats then .ok ()
  else
    .error (.misuse (.badValue formatFlag.hint (Text.quoted value ++ " is not one of " ++
      ", ".intercalate (formats.map Text.quoted) ++ ".")))

/-- A path that need not lead anywhere. -/
def checkOutput (files : String → Entry) (path : String) : Except Refusal Unit :=
  match files path with
  | .unopened e => checkReadable outputFlag.hint "Path" path e
  | .embeddedNull => .error (.crash .embeddedNull)
  | .unencodable => .error (.crash .unencodablePath)
  | _ => .ok ()

/-- The values of an option can be used. -/
def checkFlag (files : String → Entry) (os : List Occurrence) (f : Flag) : Except Refusal Unit :=
  if f = configFlag then (valuesOf os f).forM (checkFile files f.hint)
  else if f = formatFlag then (valueOf? os f).toList.forM checkFormat
  else if f = outputFlag then (valueOf? os f).toList.forM (checkOutput files)
  else .ok ()

/-- The arguments of a command with its usage checked: each is there, and there are no more. -/
def checkArguments (u : Usage) (check : String → String → Except Refusal Unit) :
    List String → List String → Except Refusal Unit
  | [], [] => .ok ()
  | [], extra => .error (.misuse (.extraArguments extra))
  | name :: _, [] => .error (.misuse (.missingArgument name))
  | name :: names, argument :: arguments => do
    check name argument
    checkArguments u check names arguments

/-- The occurrences of options and the arguments of a command, all of them checked. Options are
checked in the order of their first occurrence, before any argument. -/
def accept (u : Usage) (files : String → Entry) (check : String → String → Except Refusal Unit)
    (args : List String) : Except Refusal (List Occurrence × List String) := do
  let (os, arguments) ← (split u.flags true args).mapError .misuse
  if given os helpFlag then .ok (os, arguments)
  else
    (distinct (os.map (·.1))).forM (checkFlag files os)
    checkArguments u check u.arguments arguments
    .ok (os, arguments)

/-- A command on arguments that are in order; a request for help shows what it takes. -/
def command (u : Usage) (files : String → Entry) (check : String → String → Except Refusal Unit)
    (args : List String) (body : List Occurrence → List String → Outcome) : Outcome :=
  match accept u files check args with
  | .error r => refused u r
  | .ok (os, arguments) =>
    if given os helpFlag then { stdout := u.line } else body os arguments

/-! ## The commands -/

/-- A repository and the path of its manifest. -/
def manifestOf (value : String) : Except Fault (String × String) :=
  match Text.cut? ['='] value.toList with
  | some (repo, path) =>
    let repo := Text.trimChars repo
    let path := Text.trimChars path
    if repo.isEmpty || path.isEmpty then .error (refused value)
    else .ok (String.ofList repo, PathName.normal (String.ofList path))
  | none => .error (refused value)
where
  /-- The fault of a value without its two parts. -/
  refused (value : String) : Fault :=
    .badValue "--package-json" ("expected REPO=PATH, got " ++ Text.quoted value)

/-- The repositories and the paths of their manifests. -/
def manifestsOf (values : List String) : Except Fault (List (String × String)) :=
  values.mapM manifestOf

/-- The snapshot with the declarations of all manifests, and the boundary. -/
def load (files : String → Entry) (path : String) (configs : List String)
    (manifests : List (String × String)) : Except Source.Fault (Snapshot × Boundary) := do
  let path := PathName.normal path
  let s ← Source.snapshot path (files path)
  let b ← Source.boundaries files (configs.map PathName.normal)
  let more ← manifests.mapM fun (repo, path) => Source.manifest path repo (files path)
  .ok ({ s with declarations := s.declarations ++ more.flatten }, b)

/-- A report, printed or written to a path. A file is made even if the report cannot be encoded. -/
def deliver (files : String → Entry) (report : String) : Option String → Outcome
  | none =>
    if Text.hasSurrogate report then crashed .unencodable else { stdout := report ++ "\n" }
  | some path =>
    let path := PathName.normal path
    match Source.destination files path with
    | .error o => crashed (.output o)
    | .ok place =>
      if Text.hasSurrogate report then { crashed .unencodable with written := some (place, "") }
      else { stderr := "Report saved to " ++ path ++ "\n", written := some (place, report) }

/-- Findings in one of the forms of a report, delivered. -/
def present (files : String → Entry) (found : Findings) (format : String)
    (output : Option String) : Outcome :=
  if format = "json" then
    let report := Report.json found (some 2)
    if Text.hasSurrogate report then crashed .unserializable else deliver files report output
  else match Report.markdown found with
    | .ok report => deliver files report output
    | .error o => crashed (.oversized o)

/-- The report on a snapshot, with the events from a rank on. -/
def analyze (settings : Settings) (least : Nat) (files : String → Entry) (os : List Occurrence)
    (path : String) : Outcome :=
  match manifestsOf (valuesOf os manifestFlag) with
  | .error f => misused analyzeUsage f
  | .ok manifests =>
    match load files path (valuesOf os configFlag) manifests with
    | .error f => unloadable f
    | .ok (s, b) =>
      let events := (Analysis.events b s).filter fun e => e.level.isShown least
      match Analysis.analyze b s with
      | .error o => { crashed (.overlong o) with events }
      | .ok found =>
        let format := (valueOf? os formatFlag).getD settings.reportFormat
        let o := present files found format (valueOf? os outputFlag)
        let strict := given os strictFlag && found.any && o.crash.isNone
        { o with events, exitCode := if strict then 1 else o.exitCode }

/-- A line with a label, if there is something to show. -/
def labelled (label : String) : Option String → String
  | some text => if text.isEmpty then "" else label ++ ": " ++ text ++ "\n"
  | none => ""

/-- How a call target is read. -/
def normalize (files : String → Entry) (os : List Occurrence) (url : String) : Outcome :=
  match Source.boundaries files ((valuesOf os configFlag).map PathName.normal) with
  | .error f => unloadable f
  | .ok b =>
    let n := b.normalize url
    { stdout := "kind: " ++ n.standing.name ++ "\npath: " ++ n.path?.getD "-" ++ "\n" ++
        labelled "stripped" n.base? ++ labelled "env var" n.envVar? ++
        labelled "unconfigured env var" n.unlisted? }

/-- Whether an endpoint serves a path. -/
def serve (endpoint call : String) : Outcome :=
  if Route.serves endpoint call then
    { stdout := "match: " ++ call ++ " -> " ++ endpoint ++ "\n" }
  else
    { exitCode := 1, stdout := "no match: " ++ call ++ " -/-> " ++ endpoint ++ "\n" }

/-! ## The program -/

/-- Nothing is asked of an argument. -/
def anyArgument (_name _argument : String) : Except Refusal Unit := .ok ()

/-- The commands, each with what it does on the events from a rank on, some files and its
arguments. -/
def commands (settings : Settings) :
    List (String × (Nat → (String → Entry) → List String → Outcome)) :=
  [("analyze", fun least files args =>
      command analyzeUsage files (fun name path => checkFile files ("'" ++ name ++ "'") path) args
        fun os arguments => analyze settings least files os (arguments.headD "")),
    ("normalize", fun _ files args =>
      command normalizeUsage files anyArgument args
        fun os arguments => normalize files os (arguments.headD "")),
    ("match", fun _ files args =>
      command matchUsage files anyArgument args
        fun _ arguments => serve (arguments.headD "") ((arguments.drop 1).headD ""))]

/-- The end of the program for a command that is not known: a name that starts like an option is
read as one before. -/
def unknown (settings : Settings) (name : String) (args : List String) : Outcome :=
  match split programUsage.flags false (name :: args) with
  | .error f => misused programUsage f
  | .ok (os, _) =>
    if given os helpFlag then { stdout := programUsage.line }
    else
      let similar := Text.closest ((commands settings).map (·.1)) name
      misused programUsage (.noSuchCommand name similar)

/-- The program on a command and its arguments. -/
def dispatch (settings : Settings) (level : String) (files : String → Entry) (name : String)
    (args : List String) : Outcome :=
  match (commands settings).lookup name with
  | none => unknown settings name args
  | some body =>
    match Log.Level.threshold level with
    | .ok least => body least files args
    | .error n => crashed (.level n)

/-- What is printed holds no terminal styles. -/
def Outcome.unstyled (o : Outcome) : Outcome :=
  { o with stdout := Text.dropStyles o.stdout, stderr := Text.dropStyles o.stderr }

def run (settings : Settings) (files : String → Entry) (args : List String) : Outcome :=
  Outcome.unstyled <|
    match split programUsage.flags false args with
    | .error f => misused programUsage f
    | .ok (os, rest) =>
      if given os helpFlag then { stdout := programUsage.line }
      else
        let asked := (valueOf? os levelFlag).getD ""
        let level := if asked.isEmpty then settings.logLevel else asked
        match rest with
        | [] => misused programUsage .missingCommand
        | name :: args => dispatch settings level files name args

/-- The paths that a command line may read or write: every argument and value, as it stands and in
its normal form, with the directories on the way to it. -/
def pathsOf (args : List String) : List String :=
  let candidates := args.flatMap fun a =>
    let behind := ((Text.cut? ['='] a.toList).map fun (_, rest) => rest).getD []
    let twice := ((Text.cut? ['='] behind).map fun (_, rest) => rest).getD []
    [a, String.ofList (a.toList.drop 2), String.ofList behind,
      String.ofList (Text.trimChars behind), String.ofList (Text.trimChars twice)]
  distinct (candidates.flatMap fun p => p :: PathName.normal p :: PathName.stations p)

end ServiceContracts.CommandLine
