/-
# Worker settings

| variable | setting | default |
| --- | --- | --- |
| `WORKER_CONCURRENCY` | jobs run at once, at least one | 3 |
| `SERVER_URL` | the server | required |
| `API_KEY` | key to send | none |
| `TOOLS_CONFIG` | file that names the tools | `tools.toml` |
| `EVIDENCE_DIR` | directory with the evidence | `files/evidences` |
| `SKIP_VERIFY_TLS` | accept any certificate | `false` |
| `RECONNECT_DELAY_SECS` | wait before connecting again | 5 |
| `OTEL_ENDPOINT` | where telemetry goes | nowhere |
| `LOG_LEVEL` | what is logged | `info` |
-/

import Casework.Config.Environment

namespace Casework

/-- The settings of a worker. -/
structure WorkerConfig where
  serverUrl : String
  apiKey? : Option String
  /-- The most jobs that run at once. -/
  concurrency : Nat
  toolsConfig : String
  /-- The directory with the files of every case. -/
  evidenceDir : String
  skipVerifyTls : Bool
  /-- Milliseconds between the end of a stream and the next attempt. -/
  reconnectDelay : Nat
  otelEndpoint? : Option String
  logLevel : String
deriving DecidableEq, Repr

/-- The settings that the environment gives; the first fault in the order of the table counts. -/
def WorkerConfig.ofEnvironment (env : Environment) : Except Error WorkerConfig := do
  let concurrency ← env.parsed "WORKER_CONCURRENCY" 3 readCount
  if concurrency = 0 then throw (.config "WORKER_CONCURRENCY must be at least 1")
  let serverUrl ← env.required "SERVER_URL"
  let skipVerifyTls ← env.parsed "SKIP_VERIFY_TLS" false readFlag
  let reconnectDelay ← env.parsed "RECONNECT_DELAY_SECS" 5 readCount
  return {
    serverUrl := serverUrl
    apiKey? := env.secret "API_KEY"
    concurrency := concurrency
    toolsConfig := (env.get? "TOOLS_CONFIG").getD "tools.toml"
    evidenceDir := (env.get? "EVIDENCE_DIR").getD "files/evidences"
    skipVerifyTls := skipVerifyTls
    reconnectDelay := reconnectDelay * 1000
    otelEndpoint? := env.get? "OTEL_ENDPOINT"
    logLevel := (env.get? "LOG_LEVEL").getD "info" }

end Casework
