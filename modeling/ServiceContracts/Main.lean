import ServiceContracts.CommandLine.Command

/-!
# The program

Looks up the paths on the command line, runs the command, and prints and writes its outcome. Events
go to the standard error stream, one on a line.
-/

namespace ServiceContracts

/-- A text in the form in which the system takes it. -/
def systemText (s : String) : String := String.ofList ((Text.codes s.toList).map Char.ofNat)

/-- A text that the system gives. -/
def ofSystem (s : String) : String := String.ofList (Text.ofChars s.toList)

/-- The number and the text of an error of the system. -/
def systemError : IO.Error → Source.SystemError
  | .alreadyExists _ code text | .invalidArgument _ code text | .permissionDenied _ code text
  | .resourceExhausted _ code text | .inappropriateType _ code text | .noSuchThing _ code text
  | .noFileOrDirectory _ code text | .interrupted _ code text | .otherError code text
  | .resourceBusy code text | .resourceVanished code text | .unsupportedOperation code text
  | .hardwareFault code text | .unsatisfiedConstraints code text | .illegalOperation code text
  | .protocolError code text | .timeExpired code text => { number := code.toNat, text }
  | .unexpectedEof | .userError _ => { number := 5, text := "Input/output error" }

/-- A step on the system, with its error. -/
def attempt {α : Type} (step : IO α) : IO (Except Source.SystemError α) := do
  return (← step.toIO').mapError systemError

/-- What a path on disk leads to. -/
def lookUp (path : String) : IO Source.Entry := do
  if Source.PathName.isUnencodable path.toList then return .unencodable
  if '\x00' ∈ path.toList then return .embeddedNull
  match ← attempt (IO.FS.Handle.mk (systemText path) .read) with
  | .error e =>
    let isThere := (← attempt (IO.FS.realPath (systemText path))).isOk
    return if isThere then .unopened e else .unreachable e
  | .ok handle =>
    match ← attempt handle.readBinToEnd with
    | .ok content => return .file content.toList
    | .error e =>
      return if e.number = Source.SystemError.isDirectory.number then .directory else .unread e

/-- The settings that the environment asks for. -/
def environmentSettings : IO Settings := do
  let names := ["API_CONTRACT_LOG_LEVEL", "API_CONTRACT_REPORT_FORMAT"]
  let found ← names.filterMapM fun name => do
    return (← IO.getEnv name).map fun value => (name, ofSystem value)
  return Settings.ofEnvironment found

/-- Print and write the outcome of a command. -/
def perform (o : CommandLine.Outcome) : IO Unit := do
  let stderr ← IO.getStderr
  for e in o.events do
    stderr.putStrLn ("[" ++ e.level.name ++ "] " ++ e.name)
  match o.written with
  | some (path, text) =>
    IO.FS.createDirAll (systemText (Source.PathName.parent path))
    IO.FS.writeFile (systemText path) (systemText text)
  | none => pure ()
  IO.print (systemText o.stdout)
  stderr.putStr (systemText o.stderr)
  if o.crash.isSome then stderr.putStrLn "The command stopped on data it cannot handle."

end ServiceContracts

def main (args : List String) : IO UInt32 := do
  let args := args.map ServiceContracts.ofSystem
  let found ← (ServiceContracts.CommandLine.pathsOf args).mapM fun path => do
    return (path, ← ServiceContracts.lookUp path)
  let files (path : String) := (found.lookup path).getD (.unreachable .noSuchFile)
  let settings ← ServiceContracts.environmentSettings
  let outcome := ServiceContracts.CommandLine.run settings files args
  ServiceContracts.perform outcome
  return outcome.exitCode.toUInt32
