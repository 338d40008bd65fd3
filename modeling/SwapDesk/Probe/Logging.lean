import SwapDesk.Environment
import SwapDesk.Event

/-! How the probe's log is written, read from the environment. -/

namespace SwapDesk.Probe

/-- Whether events are written as JSON, and whether those of the lowest level are written. -/
structure Logging where
  asJson : Bool := false
  withDebug : Bool := true
  deriving DecidableEq

namespace Logging

inductive Error where
  | format (cause : Environment.Error)
  | level (cause : Environment.Error)

def Error.trail : Error → Trail
  | .format cause =>
    cause.trail.within
      "Failed to determine whether logging should be in machine-readable JSON format!"
  | .level cause => cause.trail.within "Failed to determine whether debug logging is enabled!"

/-- A setting that is not in the environment keeps its default. -/
def read (environment : Environment) : Except Error Logging := do
  let asJson ← (environment.flag? "OUTPUT_JSON").mapError .format
  let withDebug ← (environment.flag? "DEBUG_LOGGING").mapError .level
  pure ⟨asJson.getD false, withDebug.getD true⟩

def shows (logging : Logging) (event : Event) : Bool := logging.withDebug || event.level ≠ .debug

def filter (logging : Logging) (events : List Event) : List Event := events.filter logging.shows

def line (logging : Logging) (event : Event) : String :=
  if logging.asJson then event.json.render else event.line

end Logging

end SwapDesk.Probe
