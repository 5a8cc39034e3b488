import ServiceContracts.Document.Json.Reader
import ServiceContracts.Document.Yaml.Reader
import ServiceContracts.Schema.Snapshot
import ServiceContracts.Source.Entry
import ServiceContracts.Text.Utf8

/-!
# Loading documents

Snapshots and boundaries are read from YAML documents, of which JSON is a part; package manifests
are read as JSON. A path with a document that cannot be used is refused with a reason. What goes
wrong beyond that, such as bytes that are no text, is a fault of its own.

* `Fault`, `Reason` : why loading stops;
* `document` : the entries of a document;
* `snapshot`, `boundary`, `boundaries`, `manifest` : what documents hold.
-/

namespace ServiceContracts.Source
open Document

inductive Reason where
  /-- There is no file that the system opens. -/
  | unopened (e : SystemError)
  /-- The file cannot be read to its end. -/
  | unread (e : SystemError)
  /-- It is no well-formed YAML document. -/
  | malformed
  | notMapping
  /-- It is no well-formed JSON text. -/
  | json (what : Json.Complaint) (line : Nat)
  | notObject
  /-- It holds no snapshot. -/
  | snapshot (faults : List Schema.Fault)
  /-- It holds no boundary, with a number of faults. -/
  | boundary (count : Nat)
deriving DecidableEq, Repr

/-- A reason in words. -/
def Reason.message (path : String) : Reason → String
  | unopened e => "cannot read file: " ++ e.message ++ ": " ++ Text.quoted path
  | unread e => "cannot read file: " ++ e.message
  | malformed => "invalid YAML/JSON"
  | notMapping => "top-level value must be a mapping"
  | json what line => "invalid JSON: " ++ what.message ++ " (line " ++ toString line ++ ")"
  | notObject => "package.json must contain an object"
  | snapshot faults => Schema.summary faults
  | boundary count => "invalid config: " ++ toString count ++ " error(s)"

inductive Fault where
  /-- The document at a path cannot be used. -/
  | refused (path : String) (reason : Reason)
  /-- A path with a null character. -/
  | embeddedNull
  /-- A path with a surrogate that stands for no byte. -/
  | unencodable
  /-- Bytes that are no text. -/
  | undecodable (f : Text.Utf8.Fault)
  /-- A YAML document that is well-formed, but holds something without a value. -/
  | yaml (f : Yaml.Fault)
  | overlong (o : Number.Overlong)
  /-- A JSON text with lists or maps that are nested too deeply. -/
  | tooDeep (n : Json.Nest)
deriving DecidableEq, Repr

/-- The message about a refused path. -/
def refusal (path : String) (reason : Reason) : String := path ++ ": " ++ reason.message path

/-- The text of a file, with line feeds as its line breaks. -/
def text (path : String) : Entry → Except Fault (List Char)
  | .file content =>
    ((Text.Utf8.decode content).map Text.Utf8.unifyLines).mapError .undecodable
  | .directory => .error (.refused path (.unopened .isDirectory))
  | .unreachable e | .unopened e => .error (.refused path (.unopened e))
  | .unread e => .error (.refused path (.unread e))
  | .embeddedNull => .error .embeddedNull
  | .unencodable => .error .unencodable

def document (path : String) (e : Entry) : Except Fault Part := do
  let cs ← text path e
  match Yaml.read cs with
  | .error .malformed => .error (.refused path .malformed)
  | .error f => .error (.yaml f)
  | .ok p =>
    match p.head with
    | .null => .ok (.ofValue (.map []))
    | .map _ => .ok p
    | _ => .error (.refused path .notMapping)

def snapshot (path : String) (e : Entry) : Except Fault Snapshot := do
  match Snapshot.ofPart (← document path e) with
  | .ok s => .ok s
  | .faulty faults => .error (.refused path (.snapshot faults))

def boundary (path : String) (e : Entry) : Except Fault Boundary := do
  match Boundary.ofPart (← document path e) with
  | .ok b => .ok b
  | .faulty faults => .error (.refused path (.boundary faults.length))

def boundaries (files : String → Entry) (paths : List String) : Except Fault Boundary :=
  paths.foldlM (fun merged path => (boundary path (files path)).map merged.merge) {}

/-! ## Package manifests -/

/-- The parts of a manifest that declare packages. -/
def manifestSections : List String := ["dependencies", "devDependencies", "peerDependencies"]

/-- The declaration that an entry of a manifest makes: its version is shown as it stands. -/
def declaration (path repo : String) (entry : Value × Value) : Declaration :=
  { package := (Part.ofValue entry.1).plain, version := (Part.ofValue entry.2).plain
    repo, source := path }

/-- The entries of a part of a manifest; a part that is no map has none. -/
def sectionEntries (manifest : List (Value × Value)) (name : String) : List (Value × Value) :=
  match Value.get? manifest name with
  | some (.map entries) => entries
  | _ => []

def manifest (path repo : String) (e : Entry) : Except Fault (List Declaration) := do
  let cs ← text path e
  match Json.read (String.ofList (Text.ofChars cs)) with
  | .error (.overlong o) => .error (.overlong o)
  | .error (.tooDeep n) => .error (.tooDeep n)
  | .error (.complaint what line) => .error (.refused path (.json what line))
  | .ok (.map entries) =>
    .ok ((manifestSections.flatMap (sectionEntries entries)).map (declaration path repo))
  | .ok _ => .error (.refused path .notObject)

end ServiceContracts.Source
