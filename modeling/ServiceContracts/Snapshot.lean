import ServiceContracts.Distinct
import ServiceContracts.Fact

/-!
# Snapshots

The facts of all repositories together with the package versions that they declare.
-/

namespace ServiceContracts

/-- One package version declared by one repository. -/
structure Declaration where
  package : String
  version : String
  repo : String
  source : String := ""
deriving DecidableEq, Repr

/-- Everything that is known about the repositories. -/
structure Snapshot where
  facts : List Fact := []
  declarations : List Declaration := []
deriving DecidableEq, Repr

namespace Snapshot

/-- The endpoints in order. -/
def endpoints (s : Snapshot) : List EndpointFact := s.facts.filterMap Fact.endpoint?

/-- The calls in order. -/
def calls (s : Snapshot) : List CallFact := s.facts.filterMap Fact.call?

/-- The mounts in order. -/
def mounts (s : Snapshot) : List MountFact := s.facts.filterMap Fact.mount?

/-- The repositories in the order of their first mention; facts need not name one. -/
def repos (s : Snapshot) : List String :=
  distinct ((s.facts.map Fact.repo).filter (· != "") ++ s.declarations.map Declaration.repo)

end Snapshot

end ServiceContracts
