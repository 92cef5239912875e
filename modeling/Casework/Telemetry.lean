/-
# Telemetry settings

A server and a worker report what they do under their role and instance. With an endpoint the
reports are also exported; an endpoint that is not a URI is refused when the exporter is built,
an empty one means the usual place.
-/

import Casework.Error
import Casework.Net.Uri

namespace Casework

/-- Who reports. -/
inductive TelemetryRole where
  | dispatcher
  | worker
deriving DecidableEq, Repr

/-- The name of a role. -/
def TelemetryRole.name : TelemetryRole → String
  | .dispatcher => "dispatcher"
  | .worker => "worker"

/-- What is reported, and where to. -/
structure TelemetryConfig where
  role : TelemetryRole
  instanceId : String
  endpoint? : Option String := none
  filter : String := "info"
deriving DecidableEq, Repr

/-- Builds the exporter: fails on an endpoint that is not a URI. -/
def TelemetryConfig.start (c : TelemetryConfig) : Except Error Unit :=
  match c.endpoint? with
  | none => .ok ()
  | some endpoint =>
    if endpoint == "" || Net.isUri endpoint then .ok ()
    else .error (.other "failed to create OTLP span exporter")

end Casework
