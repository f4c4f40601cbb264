import ApiFlow.Files.Path
import ApiFlow.Number.Double
import ApiFlow.Table

/-!
# Settings

The settings of a project: its environments, the one in use, and what requests start from.

* `Settings.environment` is the environment in use; one that is not configured is empty.
-/

set_option autoImplicit false

namespace ApiFlow

/-- An environment that requests run against. -/
structure Environment where
  name : Text
  baseUrl : Text := []
  values : Table Text := []
  deriving DecidableEq, Repr

structure Settings where
  activeEnv : Text := "default"
  projectId : Text := []
  projectRoot : Option Path := none
  logEnabled : Bool := false
  timeout : Double := Double.ofInt 30
  headers : Table Text := []
  environments : Table Environment := []
  source : Option Path := none
  deriving DecidableEq, Repr

namespace Settings

/-- The environment in use. -/
def environment (s : Settings) : Environment :=
  (s.environments.get? s.activeEnv).getD { name := s.activeEnv }

/-- The directory that holds the settings of a project. -/
def folderName : Text := ".kest"

/-- The directory for logs, if the project is known. -/
def logFolder? (s : Settings) : Option Path :=
  s.projectRoot.map fun root => (root.child folderName).child "logs"

end Settings

end ApiFlow
