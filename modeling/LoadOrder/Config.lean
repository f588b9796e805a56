/-
# Configuration
-/
import LoadOrder.LogName
import LoadOrder.Source

namespace LoadOrder

/-- What the host settles before any type is loaded. -/
structure Config where
  /-- The template of the manifest's name; without one there is no manifest. -/
  output : Option FilePath := none
  /-- How the addresses of local files spell absolute paths. -/
  pathStyle : PathStyle := .host
  /-- Whether the runtime has a packaged image; without one no manifest can be written. -/
  hasRuntimeImage : Bool := true
  deriving DecidableEq, Repr, Inhabited

namespace Config

/-- Whether a manifest is asked for. -/
def isEnabled (config : Config) : Bool :=
  config.output.isSome

/-- The path of the manifest. -/
def resolvedOutput (launch : Launch) (config : Config) : Option FilePath :=
  config.output.map (LogName.expand launch)

end Config

end LoadOrder
