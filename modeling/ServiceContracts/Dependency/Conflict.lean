import ServiceContracts.Dependency.Version
import ServiceContracts.Distinct
import ServiceContracts.Issue
import ServiceContracts.Snapshot

/-!
# Version conflicts

Each repository counts with one version of a package: the first of the highest versions that it
declares, or its first declaration if none spells a version. A package with several version texts is
a conflict, graded by how far apart the lowest and the highest version are.

* `Group.record` : declarations taken into the groups of their packages one after another;
* `severity` : the grade of some version texts;
* `conflicts` : the conflicts of all declarations, in order of the packages' first mention.
-/

namespace ServiceContracts.Dependency
open Number

/-- The repositories that declare a package, each with the version it counts with. -/
structure Group where
  package : String
  entries : List RepoVersion
deriving DecidableEq, Repr

/-- The version text of a declaration; one that reduces to nothing stays as it is. -/
def versionText (spec : String) : String :=
  let cleaned := Version.clean spec
  if cleaned.isEmpty then Text.trim spec else cleaned

/-- The version with which a declaration counts. -/
def entryOf (d : Declaration) : RepoVersion :=
  { repo := d.repo, version := versionText d.version, source := d.source }

/-- An entry taken among others: it replaces that of its repository if it is newer. -/
def enter (entry : RepoVersion) : List RepoVersion → Except Overlong (List RepoVersion)
  | [] => .ok [entry]
  | current :: entries =>
    if current.repo = entry.repo then do
      let newer ← Version.isNewer entry.version current.version
      .ok ((if newer then entry else current) :: entries)
    else (enter entry entries).map (current :: ·)

def Group.record (d : Declaration) : List Group → Except Overlong (List Group)
  | [] => .ok [{ package := d.package, entries := [entryOf d] }]
  | g :: groups =>
    if g.package = d.package then
      (enter (entryOf d) g.entries).map fun entries => { g with entries } :: groups
    else (record d groups).map (g :: ·)

/-- The groups of some declarations. -/
def groups (declarations : List Declaration) : Except Overlong (List Group) :=
  declarations.foldlM (fun gs d => Group.record d gs) []

/-- The lower of two versions. -/
def lower (a b : Version) : Version := if Version.lt b a then b else a

/-- The higher of two versions. -/
def higher (a b : Version) : Version := if Version.lt a b then b else a

/-- The grade of some versions: how far apart the lowest and the highest one are. -/
def spread : List Version → Severity
  | [] => .info
  | v :: versions =>
    let low := versions.foldl lower v
    let high := versions.foldl higher v
    if low.major ≠ high.major then .critical
    else if low.minor ≠ high.minor then .warning
    else .info

/-- The grade of some version texts; those that spell no version are left out. -/
def severity (texts : List String) : Except Overlong Severity := do
  let versions ← texts.mapM Version.read
  .ok (spread (versions.filterMap id))

/-- The word for a grade in a description. -/
def gradeWord : Severity → String
  | .critical => "major"
  | .warning => "minor"
  | .info => "patch-level or unparseable"

/-- A conflict in one sentence. -/
def describe (package : String) (entries : List RepoVersion) (grade : Severity) : String :=
  package ++ " has " ++ gradeWord grade ++ " version differences across " ++
    toString (distinct (entries.map RepoVersion.repo)).length ++ " repositories: " ++
    ", ".intercalate (entries.map fun e => e.version ++ " (" ++ e.repo ++ ")")

/-- The conflict of a group, if its version texts differ. -/
def Group.conflict? (g : Group) : Except Overlong (Option Conflict) :=
  let texts := distinct (g.entries.map RepoVersion.version)
  if texts.length < 2 then .ok none
  else do
    let grade ← severity texts
    .ok (some { package := g.package, versions := g.entries, severity := grade,
                description := describe g.package g.entries grade })

/-- The conflicts of some groups, in order. -/
def conflictsOf (groups : List Group) : Except Overlong (List Conflict) :=
  (groups.mapM Group.conflict?).map fun found => found.filterMap id

def conflicts (declarations : List Declaration) : Except Overlong (List Conflict) := do
  conflictsOf (← groups declarations)

end ServiceContracts.Dependency
