import ServiceContracts.Text.Case

/-!
# Settings

Defaults that environment variables may replace; their names are taken in any case, and the last one
counts.
-/

namespace ServiceContracts

/-- Defaults of a process. -/
structure Settings where
  logLevel : String := "WARNING"
  reportFormat : String := "markdown"
deriving DecidableEq, Repr

namespace Settings

/-- The last value of a variable among those of an environment. -/
def last? (environment : List (String × String)) (name : String) : Option String :=
  (environment.reverse.find? fun v => Text.lower v.1 == name).map (·.2)

/-- The settings that an environment asks for. -/
def ofEnvironment (environment : List (String × String)) : Settings :=
  { logLevel := (last? environment "api_contract_log_level").getD "WARNING"
    reportFormat := (last? environment "api_contract_report_format").getD "markdown" }

end Settings

end ServiceContracts
