import DroidRoots.Settings

/-! When spans are exported, and to where. -/

namespace DroidRoots.Telemetry

structure Exporter where
  endpoint : Value
  insecure : Value
  service : Value

/-- Spans are exported if that is enabled and there is an endpoint, from the settings or
else from the environment. -/
def exporter? (fallback : Option Text) (settings : Document) :
    Except Fault (Option Exporter) := do
  let field := Settings.fieldOf settings.knots
  let conf ←
    if settings.isPresent then field "telemetry" (.object []) settings.root
    else pure (.object [])
  if !(← field "enabled" .null conf).isPresent then return none
  let configured ← field "otlp_endpoint" .null conf
  let endpoint := if configured.isPresent then configured else (fallback.map .text).getD .null
  if !endpoint.isPresent then return none
  let service ← field "service_name" (.text "apk-lifecycle") conf
  let insecure ← field "otlp_insecure" (.bool true) conf
  return some { endpoint, insecure, service }

end DroidRoots.Telemetry
