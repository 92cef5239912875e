/-
# Which keys client and server agree on

A server and a worker take any text that is not empty as their key.  On its way from one to the
other the key is a header value, and three things are done with it:

| where | characters | ends |
| --- | --- | --- |
| the client puts the request together | refuses control characters but tabs | |
| the request arrives | | drops blanks and tabs |
| the server reads the header as a text | refuses what is not ASCII | |

So the two agree on a key if and only if all its characters are visible ASCII, blanks or tabs, and
its ends neither blanks nor tabs (`Portable`).  `agreed_key_opens_iff` says so of every request that
a client is asked for (`Client.Errand`): with a portable key it is never refused for want of the
key, and with any other always, if it can be put together and reaches a route that wants the key.
-/

import Casework.Config.Server
import Casework.Config.Worker
import Casework.Proofs.Http.Failures
import Casework.Proofs.Http.Gate
import Casework.Proofs.Http.Registration

namespace Casework

open Text Net

/-- What a client is asked for. -/
inductive Client.Errand where
  | stream (modules : List String) (workers : UInt64)
  | report (outcome : AckRequest)
  | artifact (e : Evidence)
  | run (wish : PushJobRequest)

namespace Client.Errand

/-- The route of an errand. -/
def route : Client.Errand → String
  | .stream _ _ => "/internal/jobs"
  | .report _ => "/internal/jobs/ack"
  | .artifact e => "/api/cases/" ++ e.caseId ++ "/evidences"
  | .run _ => "/api/jobs"

/-- The request of an errand. -/
def request? (client : Client) : Client.Errand → Option Http.Request
  | .stream modules workers => client.streamRequest? modules workers
  | .report outcome => client.ackRequest? outcome
  | .artifact e => client.evidenceRequest? e
  | .run wish => client.pushRequest? wish

variable {client : Client} {errand : Client.Errand} {r : Http.Request}

/-- **Every errand** is a request to its route, with the key in front of its own headers. -/
theorem request?_eq (client : Client) (errand : Client.Errand) : ∃ method pairs headers body,
    errand.request? client = client.request? method errand.route pairs headers body := by
  cases errand with
  | stream modules workers =>
    rw [request?, streamRequest?, route]
    exact ⟨_, _, _, _, rfl⟩
  | report outcome =>
    rw [request?, ackRequest?, jsonRequest?, route]
    exact ⟨_, _, _, _, rfl⟩
  | artifact e =>
    rw [request?, evidenceRequest?, jsonRequest?, route]
    exact ⟨_, _, _, _, rfl⟩
  | run wish =>
    rw [request?, pushRequest?, jsonRequest?, route]
    exact ⟨_, _, _, _, rfl⟩

/-- An errand has a request if its address can be read and its key can be sent. -/
theorem isSome_request?_iff : (errand.request? client).isSome ↔
    (Url.parse? (client.baseUrl ++ errand.route)).isSome ∧ client.keyHeader?.isSome := by
  obtain ⟨method, pairs, headers, body, same⟩ := request?_eq client errand
  rw [same, Client.request?]
  cases Url.parse? (client.baseUrl ++ errand.route) with
  | none => simp
  | some url => cases client.keyHeader? <;> simp

/-- A request with a key carries its header value first. -/
theorem header?_request? {key : String} (keyed : client.apiKey? = some key)
    (request : errand.request? client = some r) :
    ∃ value, Client.headerValue? key = some value ∧ r.header? "x-api-key" = some value := by
  obtain ⟨method, pairs, headers, body, same⟩ := request?_eq client errand
  rw [same, Client.request?, Client.keyHeader?, keyed] at request
  dsimp only at request
  split at request
  next url header _ sent =>
    obtain ⟨value, readable, rfl⟩ := Option.map_eq_some_iff.1 sent
    obtain rfl := Option.some.inj request
    have name : (Http.Request.lower "x-api-key" == "x-api-key") = true := by decide
    refine ⟨value, readable, ?_⟩
    simp only [Http.Request.header?, List.singleton_append, List.find?_cons, name, Option.map_some]
  next => cases request

end Client.Errand

/-! ## Header values -/

/-- A key that arrives as it was: visible ASCII, blanks and tabs, and no blank or tab at an end. -/
structure Portable (key : String) : Prop where
  visible : ∀ c ∈ key.toList, c = '\t' ∨ 0x20 ≤ c.toNat ∧ c.toNat < 0x7F
  front : ∀ c ∈ key.toList.head?, c ≠ ' ' ∧ c ≠ '\t'
  back : ∀ c ∈ key.toList.getLast?, c ≠ ' ' ∧ c ≠ '\t'

variable {key value : String}

/-- A key that arrives as it was has visible characters and tabs, with no blank at its ends. -/
theorem portable_iff : Portable key ↔
    (∀ c ∈ key.toList, c = '\t' ∨ 0x20 ≤ c.toNat ∧ c.toNat < 0x7F) ∧
      (∀ c ∈ key.toList.head?, c ≠ ' ' ∧ c ≠ '\t') ∧
        ∀ c ∈ key.toList.getLast?, c ≠ ' ' ∧ c ≠ '\t' :=
  ⟨fun h => ⟨h.visible, h.front, h.back⟩, fun ⟨visible, front, back⟩ => ⟨visible, front, back⟩⟩

instance (key : String) : Decidable (Portable key) :=
  let ends (end? : Option Char) : Decidable (∀ c ∈ end?, c ≠ ' ' ∧ c ≠ '\t') :=
    Option.decidableForallMem end?
  @decidable_of_iff' _ _ portable_iff (@instDecidableAnd _ _ (List.decidableBAll _ key.toList)
    (@instDecidableAnd _ _ (ends key.toList.head?) (ends key.toList.getLast?)))

/-- The blanks that are dropped are spaces and tabs. -/
theorem isHeaderBlank_eq_false_iff {c : Char} :
    Client.isHeaderBlank c = false ↔ c ≠ ' ' ∧ c ≠ '\t' := by
  rw [Client.isHeaderBlank, Bool.or_eq_false_iff, beq_eq_false_iff_ne, beq_eq_false_iff_ne]

/-- The text of a header is its value, if all of it can be shown. -/
theorem headerText?_eq_some_iff : Http.headerText? value = some key ↔
    value = key ∧ ∀ c ∈ key.toList, c = '\t' ∨ 0x20 ≤ c.toNat ∧ c.toNat < 0x7F := by
  rw [Http.headerText?, Option.ite_none_right_eq_some, Option.some_inj, and_comm]
  refine and_congr_right fun same => ?_
  rw [same, List.all_eq_true]
  simp

/-- A value can be sent if it has no control characters but tabs. -/
theorem isSome_headerValue?_iff : (Client.headerValue? key).isSome ↔
    ∀ c ∈ key.toList, Http.isHeaderChar c = true := by
  rw [Client.headerValue?, ← List.all_eq_true]
  split
  next sendable => simp [sendable]
  next unsendable => simp [unsendable]

/-- **A value arrives as it was** if it can be sent and has neither blank nor tab at an end. -/
theorem headerValue?_eq_some_iff (sent : Client.headerValue? key = some value) : value = key ↔
    (∀ c ∈ key.toList.head?, c ≠ ' ' ∧ c ≠ '\t') ∧
      ∀ c ∈ key.toList.getLast?, c ≠ ' ' ∧ c ≠ '\t' := by
  rw [Client.headerValue?] at sent
  split at sent
  next =>
    obtain rfl := Option.some.inj sent
    rw [← String.toList_inj, String.toList_ofList, dropWhile_ends_eq_iff]
    simp only [isHeaderBlank_eq_false_iff]
  next => cases sent

/-- A key that arrives can be sent. -/
theorem Portable.sendable (h : Portable key) : ∀ c ∈ key.toList, Http.isHeaderChar c = true := by
  intro c member
  rw [Http.isHeaderChar, Bool.or_eq_true, beq_iff_eq, Bool.and_eq_true, decide_eq_true_eq,
    bne_iff_ne]
  exact (h.visible c member).imp_right fun code => ⟨code.1, by omega⟩

/-- **The server takes the key** if and only if it is portable. -/
theorem isAuthorized_iff_portable {client : Client} {errand : Client.Errand} {r : Http.Request}
    (keyed : client.apiKey? = some key) (request : errand.request? client = some r) :
    Http.isAuthorized (some key) r = true ↔ Portable key := by
  obtain ⟨value, sent, header⟩ := Client.Errand.header?_request? keyed request
  rw [Http.isAuthorized, beq_iff_eq, header, Option.bind_some, headerText?_eq_some_iff,
    headerValue?_eq_some_iff sent, portable_iff, and_comm]

/-! ## Refusals for want of the key -/

namespace Http

variable {s : Server} {α β : Type} {r : Request}

/-- No other error has the status of a missing key. -/
theorem status_response_ne {e : ApiError} (other : e ≠ .unauthorized) :
    e.response.status ≠ 401 := by
  cases e with
  | unauthorized => exact absurd rfl other
  | query cause => exact nofun
  | body fault => cases fault <;> exact nofun
  | core e => cases e <;> exact nofun

/-- What the store answers does not say that the key is missing. -/
theorem status_answer_ne {op : StoreM α} {success : α → Response}
    (fine : ∀ a, (success a).status ≠ 401) : (answer s op success).1.status ≠ 401 := by
  rw [answer, Server.onStore]
  rcases op s.store with ⟨e | a, store⟩
  · exact status_response_ne fun same => ApiError.noConfusion same
  · exact fine a

/-- A body that cannot be read is not taken for a missing key. -/
theorem bodyOf_ne_unauthorized [Wire α] {now : Timestamp} {e : ApiError}
    (failed : bodyOf (α := α) now r = .error e) : e ≠ .unauthorized := by
  unfold bodyOf at failed
  split at failed
  · cases failed
    exact nofun
  · split at failed
    · cases failed
      exact nofun
    · split at failed
      · cases failed
      all_goals
        cases failed
        exact nofun

/-- What is answered to a body does not say that the key is missing. -/
theorem status_answerBody_ne [Wire α] {op : α → Except Error (StoreM β)}
    {success : α → β → Response} (fine : ∀ a b, (success a b).status ≠ 401) :
    (answerBody s r op success).1.status ≠ 401 := by
  unfold answerBody
  dsimp only
  split
  next e failed => exact status_response_ne (bodyOf_ne_unauthorized failed)
  next a _ =>
    split
    next e _ => exact status_response_ne nofun
    next op _ => exact status_answer_ne (fine a)

/-- Each pair is refused for what the query says, or left behind. -/
theorem connectParams_go_ne_unauthorized {pairs : List (String × String)} {modules : Option String}
    {workers : Option UInt64} {e : ApiError}
    (failed : connectParams.go pairs modules workers = .error e) : e ≠ .unauthorized := by
  fun_induction connectParams.go pairs modules workers with
  | case1 => cases failed
  | case3 _ _ _ _ _ ih => exact ih failed
  | case5 _ _ _ _ _ _ _ _ ih => exact ih failed
  | case7 _ _ _ _ _ _ _ ih => exact ih failed
  | case2 | case4 | case6 =>
    cases failed
    exact nofun

/-- What a worker is told that wants a stream does not say so either. -/
theorem status_openStream_ne (now : Nat) (remote : String) :
    (openStream s now remote r).1.status ≠ 401 := by
  unfold openStream
  split
  next e failed => exact status_response_ne (connectParams_go_ne_unauthorized failed)
  next params _ =>
    split
    next => exact status_response_ne nofun
    next => exact nofun

/-- **A handler never answers that the key is missing.** -/
theorem status_dispatch_ne (now : Nat) (remote : String) (route : Route) :
    (dispatch s now remote r route).1.status ≠ 401 := by
  have json {status : Nat} (j : Json) (other : status ≠ 401) :
      (jsonResponse status j).status ≠ 401 := other
  have bad (name : String) : (Route.badParameter name).status ≠ 401 := (by decide : 400 ≠ 401)
  cases route with
  | health =>
    rw [dispatch]
    exact status_answer_ne fun _ => json _ (by decide)
  | jobStream =>
    rw [dispatch]
    exact status_openStream_ne now remote
  | ack =>
    rw [dispatch]
    exact status_answerBody_ne fun _ _ => json _ (by decide)
  | workers =>
    rw [dispatch]
    exact json _ (by decide)
  | pushJob =>
    rw [dispatch]
    exact status_answerBody_ne fun _ _ => json _ (by decide)
  | job id =>
    rw [dispatch]
    split
    · exact bad _
    · exact status_answer_ne fun _ => json _ (by decide)
  | registerEvidence cid =>
    rw [dispatch]
    split
    · exact bad _
    · exact status_answerBody_ne fun _ _ => json _ (by decide)
  | runnableModules cid eid =>
    rw [dispatch]
    split
    · exact bad _
    · exact bad _
    · exact status_answer_ne fun _ => json _ (by decide)
  | evidenceJobs cid eid =>
    rw [dispatch]
    split
    · exact bad _
    · exact bad _
    · exact status_answer_ne fun _ => json _ (by decide)

/-- **A request is turned away** if and only if it lacks the key and asks for more than health. -/
theorem status_serveRoute_iff (key? : Option String) (now : Nat) (remote : String) (route : Route) :
    (serveRoute s key? now remote r route).1.status = 401 ↔
      isAuthorized key? r = false ∧ route ≠ .health := by
  rw [← Route.isProtected_iff, and_comm, ← Bool.not_eq_true', ← Bool.and_eq_true]
  unfold serveRoute
  dsimp only
  split
  next barred => exact iff_of_true rfl barred
  next admitted =>
    refine iff_of_false ?_ admitted
    split
    · exact nofun
    · exact status_dispatch_ne now remote route

/-- **A request is refused for want of the key** if and only if it does not carry it and reaches a
route that wants it. -/
theorem status_serve_iff (key? : Option String) (now : Nat) (remote : String) :
    (serve s key? now remote r).1.status = 401 ↔ isAuthorized key? r = false ∧
      ∃ route, Route.ofPath? r.path = some route ∧ route ≠ .health := by
  unfold serve
  cases found : Route.ofPath? r.path with
  | none => simp
  | some route =>
    simp only [Option.some_inj, exists_eq_left', ← status_serveRoute_iff (s := s) key? now remote]
    split
    · rw [headless_status]
    · rfl

end Http

/-! ## The configured key -/

/-- The server takes its key from `API_KEY`. -/
theorem apiKey?_of_server {env : Environment} {server : ServerConfig}
    (loaded : ServerConfig.ofEnvironment env = .ok server) :
    server.apiKey? = env.secret "API_KEY" := by
  simp only [ServerConfig.ofEnvironment, bind_eq_ok_iff] at loaded
  obtain ⟨_, -, _, -, _, -, _, -, done⟩ := loaded
  exact Except.ok.inj done ▸ rfl

/-- The worker takes its key from `API_KEY`. -/
theorem apiKey?_of_worker {env : Environment} {worker : WorkerConfig}
    (loaded : WorkerConfig.ofEnvironment env = .ok worker) :
    worker.apiKey? = env.secret "API_KEY" := by
  simp only [WorkerConfig.ofEnvironment, bind_eq_ok_iff] at loaded
  obtain ⟨concurrency, -, loaded⟩ := loaded
  split at loaded
  · cases loaded
  · simp only [bind_eq_ok_iff] at loaded
    obtain ⟨_, -, _, -, _, -, done⟩ := loaded
    exact Except.ok.inj done ▸ rfl

/-- A secret is a value that is set and not empty. -/
theorem secret_eq_some_iff {env : Environment} {name value : String} :
    env.secret name = some value ↔ env.get? name = some value ∧ value ≠ "" := by
  rw [Environment.secret, Option.filter_eq_some_iff, bne_iff_ne]

/-- **Server and worker agree on a key if and only if it is portable.**  Whatever is asked of the
worker's client, it puts a request together, unless its address cannot be read or the key has a
control character; and the server refuses the request for want of the key, on the routes that want
one, if and only if the key is not portable. -/
theorem agreed_key_opens_iff {serverEnv workerEnv : Environment} {key : String}
    {server : ServerConfig} {worker : WorkerConfig} {client : Client}
    (set : serverEnv.get? "API_KEY" = some key) (same : workerEnv.get? "API_KEY" = some key)
    (some_char : key ≠ "") (serves : ServerConfig.ofEnvironment serverEnv = .ok server)
    (works : WorkerConfig.ofEnvironment workerEnv = .ok worker)
    (dials : client = Client.ofAddress worker.serverUrl worker.apiKey?) (errand : Client.Errand) :
    ((errand.request? client).isSome ↔ (Url.parse? (client.baseUrl ++ errand.route)).isSome ∧
      ∀ c ∈ key.toList, Http.isHeaderChar c = true) ∧
    (Portable key →
      ((errand.request? client).isSome ↔ (Url.parse? (client.baseUrl ++ errand.route)).isSome)) ∧
    ∀ r, errand.request? client = some r →
      (Http.isAuthorized server.apiKey? r = true ↔ Portable key) ∧
      ∀ s now remote, (Http.serve s server.apiKey? now remote r).1.status = 401 ↔
        ¬Portable key ∧ ∃ route, Http.Route.ofPath? r.path = some route ∧ route ≠ .health := by
  have expected : server.apiKey? = some key :=
    (apiKey?_of_server serves).trans (secret_eq_some_iff.2 ⟨set, some_char⟩)
  have carried : client.apiKey? = some key := by
    rw [dials]
    exact (apiKey?_of_worker works).trans (secret_eq_some_iff.2 ⟨same, some_char⟩)
  have put_together : (errand.request? client).isSome ↔
      (Url.parse? (client.baseUrl ++ errand.route)).isSome ∧
        ∀ c ∈ key.toList, Http.isHeaderChar c = true := by
    rw [Client.Errand.isSome_request?_iff, Client.keyHeader?, carried]
    dsimp only
    rw [Option.isSome_map, isSome_headerValue?_iff]
  refine ⟨put_together, fun portable => ?_, fun r request => ?_⟩
  · rw [put_together]
    exact and_iff_left portable.sendable
  · have authorized := isAuthorized_iff_portable carried request
    rw [expected]
    refine ⟨authorized, fun s now remote => ?_⟩
    rw [Http.status_serve_iff, ← Bool.not_eq_true, authorized]

/-- The environment of a server with a key. -/
def keyedServer (key : String) : Environment :=
  [("DATABASE_URL", "sqlite::memory:"), ("API_KEY", key)]

/-- The environment of a worker with a key. -/
def keyedWorker (key : String) : Environment :=
  [("SERVER_URL", "http://dispatcher:8080/"), ("API_KEY", key)]

/-- A server with a key can be configured. -/
theorem keyedServer_loads (key : String) : ∃ server,
    ServerConfig.ofEnvironment (keyedServer key) = .ok server := ⟨_, rfl⟩

/-- A worker with a key can be configured. -/
theorem keyedWorker_loads (key : String) : ∃ worker,
    WorkerConfig.ofEnvironment (keyedWorker key) = .ok worker ∧
      worker.serverUrl = "http://dispatcher:8080/" := ⟨_, rfl, rfl⟩

/-- A key with a blank inside is portable, and opens whatever the worker asks for. -/
theorem agreed_key_opens_iff_visible : ∃ server worker,
    ServerConfig.ofEnvironment (keyedServer "s3 cret") = .ok server ∧
    WorkerConfig.ofEnvironment (keyedWorker "s3 cret") = .ok worker ∧ Portable "s3 cret" ∧
    ∀ (errand : Client.Errand) (r : Http.Request),
      errand.request? (Client.ofAddress worker.serverUrl worker.apiKey?) = some r →
      Http.isAuthorized server.apiKey? r = true ∧
        ∀ s now remote, (Http.serve s server.apiKey? now remote r).1.status ≠ 401 := by
  obtain ⟨server, serves⟩ := keyedServer_loads "s3 cret"
  obtain ⟨worker, works, -⟩ := keyedWorker_loads "s3 cret"
  have portable : Portable "s3 cret" := by decide
  refine ⟨server, worker, serves, works, portable, fun errand r request => ?_⟩
  obtain ⟨-, -, answered⟩ :=
    agreed_key_opens_iff rfl rfl (by decide) serves works rfl errand
  obtain ⟨authorized, refused⟩ := answered r request
  exact ⟨authorized.2 portable, fun s now remote denied =>
    ((refused s now remote).1 denied).1 portable⟩

/-- **An accented letter locks the worker out,** although server and worker have taken the key. -/
theorem accented_key_refused : ∃ server worker r,
    ServerConfig.ofEnvironment (keyedServer "clé") = .ok server ∧
    WorkerConfig.ofEnvironment (keyedWorker "clé") = .ok worker ∧
    (Client.ofAddress worker.serverUrl worker.apiKey?).streamRequest? ["Hayabusa"] 1 = some r ∧
    ∀ s now remote, (Http.serve s server.apiKey? now remote r).1.status = 401 := by
  obtain ⟨server, serves⟩ := keyedServer_loads "clé"
  obtain ⟨worker, works, address⟩ := keyedWorker_loads "clé"
  have expected : server.apiKey? = some "clé" := apiKey?_of_server serves
  have carried : worker.apiKey? = some "clé" := apiKey?_of_worker works
  let client := Client.ofAddress "http://dispatcher:8080/" (some "clé")
  let errand : Client.Errand := .stream ["Hayabusa"] 1
  have routed : (errand.request? client).map (fun r => Http.Route.ofPath? r.path) =
      some (some .jobStream) := by decide +kernel
  obtain ⟨r, request, reached⟩ := Option.map_eq_some_iff.1 routed
  refine ⟨server, worker, r, serves, works, ?_, fun s now remote => ?_⟩
  · rw [address, carried]
    exact request
  · have other : ¬Portable "clé" := by decide
    rw [expected, Http.status_serve_iff, ← Bool.not_eq_true,
      @isAuthorized_iff_portable _ client errand r rfl request]
    exact ⟨other, .jobStream, reached, by decide⟩

end Casework
