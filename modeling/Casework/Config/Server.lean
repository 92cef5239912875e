/-
# Server settings

| variable | setting | default |
| --- | --- | --- |
| `DATABASE_URL` | where the store is | required |
| `BIND_ADDR` | address to listen on | `0.0.0.0:8080` |
| `API_KEY` | key that requests have to carry | none |
| `POLL_INTERVAL_MS` | time between looks for a job | 1000 |
| `KEEPALIVE_INTERVAL_SECS` | time between signs of life | 60 |
| `OTEL_ENDPOINT` | where telemetry goes | nowhere |
| `LOG_LEVEL` | what is logged | `info` |
-/

import Casework.Config.Environment

namespace Casework

/-- The settings of a server. -/
structure ServerConfig where
  databaseUrl : String
  bindAddress : SocketAddress
  /-- The key that every request has to carry. -/
  apiKey? : Option String
  /-- Milliseconds between two looks for a job. -/
  pollInterval : Nat
  /-- Milliseconds between two signs of life. -/
  keepAliveInterval : Nat
  otelEndpoint? : Option String
  logLevel : String
deriving DecidableEq, Repr

namespace ServerConfig

/-- The address that a server listens on unless told otherwise. -/
def defaultAddress : SocketAddress := ⟨.v4 [0, 0, 0, 0], 8080⟩

/-- The settings that the environment gives; the first fault in the order of the table counts. -/
def ofEnvironment (env : Environment) : Except Error ServerConfig := do
  let databaseUrl ← env.required "DATABASE_URL"
  let bindAddress ← env.parsed "BIND_ADDR" defaultAddress readAddress
  let pollInterval ← env.parsed "POLL_INTERVAL_MS" 1000 readCount
  let keepAlive ← env.parsed "KEEPALIVE_INTERVAL_SECS" 60 readCount
  return {
    databaseUrl := databaseUrl
    bindAddress := bindAddress
    apiKey? := env.secret "API_KEY"
    pollInterval := pollInterval
    keepAliveInterval := keepAlive * 1000
    otelEndpoint? := env.get? "OTEL_ENDPOINT"
    logLevel := (env.get? "LOG_LEVEL").getD "info" }

end ServerConfig
end Casework
