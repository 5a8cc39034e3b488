import ServiceContracts.Log.Level
import ServiceContracts.Mount.Fault

/-!
# Log events

What an analysis tells about its course.
-/

namespace ServiceContracts.Log

/-- Something that happened during an analysis. -/
inductive Event where
  /-- An endpoint without a usable method or path. -/
  | classificationGap (repo method path : String)
  /-- A router that is mounted nowhere. -/
  | unmountedRouter (repo router : String)
  /-- The graph of a repository with its numbers of nodes, mounts and endpoints. -/
  | graphBuilt (repo : String) (nodes edges endpoints : Nat)
  /-- A repository whose graph cannot be built. -/
  | structuralError (fault : Mount.Fault)
  /-- The numbers of packages and of conflicts among them. -/
  | conflictsFound (packages conflicts : Nat)
  /-- The numbers at the end of an analysis. -/
  | analysisComplete (repos endpoints calls issues conflicts faults : Nat)
deriving DecidableEq, Repr

namespace Event

/-- The name of an event. -/
def name : Event → String
  | classificationGap .. => "classification_gap"
  | unmountedRouter .. => "unmounted_router"
  | graphBuilt .. => "mount_graph_built"
  | structuralError .. => "structural_error"
  | conflictsFound .. => "dependency_conflicts_found"
  | analysisComplete .. => "analysis_complete"

/-- How serious an event is. -/
def level : Event → Level
  | classificationGap .. | unmountedRouter .. => .warning
  | graphBuilt .. | conflictsFound .. => .debug
  | structuralError .. => .error
  | analysisComplete .. => .info

end Event

end ServiceContracts.Log
