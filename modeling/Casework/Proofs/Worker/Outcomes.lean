/-
# How a job comes out

A worker reports one of these on a job, and the first row that applies decides:

| what happens | the report | artifacts sent |
| --- | --- | --- |
| there is no such module | failed: the module is not configured on this worker | none |
| the module fails | failed: the module's own complaint | none |
| the module breaks down | failed: `module panicked` | none |
| an artifact is refused | failed: the artifact, and why | those up to this one |
| none of these | success | all |

The rows are the cases of `ComesOut`, and what a worker reports is exactly what they say
(`reportOn_eq_iff`), so there is a report in any case.  The last column can be seen on the network:
the requests of a job are those that its artifacts make, in their order (`ComesOut.logged`), and
what a request carries is what it is made for (`Client.Posts`).
-/

import Casework.Worker.Report

namespace Casework

variable {σ : Type} {net : Network σ} {c : Client} {r : Registry} {d : JobDescriptor}
  {h h' h'' : Host} {s s' s'' : σ} {e : Evidence} {artifacts front back tried : List Evidence}
  {outcome : RunOutcome}

/-- Artifacts are registered one after the other, and all are taken. -/
inductive Client.Registers (net : Network σ) (c : Client) : List Evidence → σ → σ → Prop
  | nil (s : σ) : Registers net c [] s s
  | cons {e : Evidence} {es : List Evidence} {s s' s'' : σ}
      (taken : c.registerEvidence net e s = (.ok (), s')) (rest : Registers net c es s' s'') :
      Registers net c (e :: es) s s''

/-- How a job comes out, which artifacts are sent for it, and what is left of host and network. -/
inductive ComesOut (net : Network σ) (c : Client) (r : Registry) (d : JobDescriptor) (h : Host)
    (s : σ) : RunOutcome → List Evidence → Host → σ → Prop
  | unknown (nobody : r.find? d.name = none) :
      ComesOut net c r d h s
        (.error ("module " ++ d.name ++ " is not configured on this worker")) [] h s
  | failed {m : Module} {err : ModuleError} {h' : Host} (found : r.find? d.name = some m)
      (ran : m.run d h = (.failed err, h')) :
      ComesOut net c r d h s (.error err.message) [] h' s
  | panicked {m : Module} {h' : Host} (found : r.find? d.name = some m)
      (ran : m.run d h = (.panicked, h')) :
      ComesOut net c r d h s (.error "module panicked") [] h' s
  | refused {m : Module} {h' : Host} {front back : List Evidence} {e : Evidence} {err : Error}
      {s' s'' : σ} (found : r.find? d.name = some m)
      (ran : m.run d h = (.done (front ++ e :: back), h')) (taken : c.Registers net front s s')
      (refused : c.registerEvidence net e s' = (.error err, s'')) :
      ComesOut net c r d h s
        (.error ("failed to register artifact " ++ e.name ++ ": " ++ err.message))
        (front ++ [e]) h' s''
  | fine {m : Module} {h' : Host} {artifacts : List Evidence} {s' : σ}
      (found : r.find? d.name = some m) (ran : m.run d h = (.done artifacts, h'))
      (taken : c.Registers net artifacts s s') :
      ComesOut net c r d h s (.ok ()) artifacts h' s'

/-! ## Artifacts -/

/-- What is taken is out of the way. -/
theorem Client.Registers.registerArtifacts (taken : c.Registers net front s s')
    (back : List Evidence) :
    c.registerArtifacts net (front ++ back) s = c.registerArtifacts net back s' := by
  induction taken with
  | nil s => rfl
  | cons taken rest ih =>
    rw [List.cons_append, Client.registerArtifacts, taken]
    exact ih

/-- **All artifacts are taken, or one is the first that is not.** -/
theorem Client.registers_or_refused (net : Network σ) (c : Client) (artifacts : List Evidence)
    (s : σ) : (∃ s', c.Registers net artifacts s s') ∨
      ∃ front e back err s' s'', artifacts = front ++ e :: back ∧ c.Registers net front s s' ∧
        c.registerEvidence net e s' = (.error err, s'') := by
  induction artifacts generalizing s with
  | nil => exact .inl ⟨s, .nil s⟩
  | cons e es ih =>
    cases answer : c.registerEvidence net e s with
    | mk result s₁ =>
      cases result with
      | error err => exact .inr ⟨[], e, es, err, s, s₁, rfl, .nil s, answer⟩
      | ok =>
        rcases ih s₁ with ⟨s', taken⟩ | ⟨front, e', back, err, s', s'', rfl, taken, refused⟩
        · exact .inl ⟨s', .cons answer taken⟩
        · exact .inr ⟨e :: front, e', back, err, s', s'', rfl, .cons answer taken, refused⟩

/-! ## Jobs -/

/-- Every job comes out in some way. -/
theorem exists_comesOut (net : Network σ) (c : Client) (r : Registry) (d : JobDescriptor)
    (h : Host) (s : σ) : ∃ outcome tried h' s', ComesOut net c r d h s outcome tried h' s' := by
  cases found : r.find? d.name with
  | none => exact ⟨_, _, _, _, .unknown found⟩
  | some m =>
    cases ran : m.run d h with
    | mk result h' =>
      cases result with
      | failed err => exact ⟨_, _, _, _, .failed found ran⟩
      | panicked => exact ⟨_, _, _, _, .panicked found ran⟩
      | done artifacts =>
        rcases c.registers_or_refused net artifacts s with
          ⟨s', taken⟩ | ⟨front, e, back, err, s', s'', rfl, taken, refused⟩
        · exact ⟨_, _, _, _, .fine found ran taken⟩
        · exact ⟨_, _, _, _, .refused found ran taken refused⟩

/-- The way that a job comes out is what is reported on it. -/
theorem ComesOut.reportOn (comes : ComesOut net c r d h s outcome tried h' s') :
    reportOn net c r d h s = (outcome.report d.id, h', s') := by
  unfold Casework.reportOn Registry.runJob
  cases comes with
  | unknown nobody =>
    rw [nobody]
    rfl
  | failed found ran => simp only [found, ran, RunOutcome.report]
  | panicked found ran => simp only [found, ran, RunOutcome.report]
  | refused found ran taken refused =>
    simp only [found, ran, taken.registerArtifacts, Client.registerArtifacts, refused]
  | fine found ran taken =>
    have all := taken.registerArtifacts []
    rw [List.append_nil] at all
    simp only [found, ran, all, Client.registerArtifacts]

/-- Different outcomes have different reports. -/
theorem report_injective (id : JobId) : Function.Injective (RunOutcome.report id) := by
  intro outcome outcome' same
  cases outcome <;> cases outcome' <;> simp_all [RunOutcome.report, AckRequest.succeeded,
    AckRequest.failed]

/-- **A job comes out in one way,** and that is what is reported on it. -/
theorem reportOn_eq_iff : reportOn net c r d h s = (outcome.report d.id, h', s') ↔
    ∃ tried, ComesOut net c r d h s outcome tried h' s' := by
  refine ⟨fun reported => ?_, fun ⟨_, comes⟩ => comes.reportOn⟩
  -- the job comes out in some way, and reports of different outcomes differ
  obtain ⟨outcome₁, tried, h₁, s₁, comes⟩ := exists_comesOut net c r d h s
  obtain ⟨same, rfl, rfl⟩ : outcome₁.report d.id = outcome.report d.id ∧ h₁ = h' ∧ s₁ = s' := by
    simpa using comes.reportOn.symm.trans reported
  obtain rfl := report_injective d.id same
  exact ⟨tried, comes⟩

/-- **A success is reported** if and only if the module is known, comes to its end, and every
artifact is taken. -/
theorem reportOn_success_iff :
    ((reportOn net c r d h s).1.status = .success ∧ (reportOn net c r d h s).1.error = "") ↔
      ∃ m artifacts h' s', r.find? d.name = some m ∧ m.run d h = (.done artifacts, h') ∧
        c.Registers net artifacts s s' := by
  constructor
  · rintro ⟨succeeds, -⟩
    obtain ⟨outcome, tried, h', s', comes⟩ := exists_comesOut net c r d h s
    rw [comes.reportOn] at succeeds
    cases comes with
    | fine found ran taken => exact ⟨_, _, _, _, found, ran, taken⟩
    | unknown | failed | panicked | refused => cases succeeds
  · rintro ⟨m, artifacts, h', s', found, ran, taken⟩
    rw [(ComesOut.fine found ran taken).reportOn]
    exact ⟨rfl, rfl⟩

/-! ## Requests -/

/-- The request posts a value to a route of the client's server: as JSON, and with the key if the
client has one. -/
structure Client.Posts {α : Type} [Wire α] (c : Client) (route : String) (a : α)
    (request : Http.Request) : Prop where
  method : request.method = "POST"
  target : ∃ url, Net.Url.parse? (c.baseUrl ++ route) = some url ∧ request.target = url.target
  headers : ∃ key, c.keyHeader? = some key ∧
    request.headers = key ++ [("accept", "*/*"), ("content-type", "application/json")]
  body : request.body = Wire.render a

/-- **A value is posted** unless the address cannot be read or the key cannot be sent. -/
theorem Client.jsonRequest?_eq_some_iff {α : Type} [Wire α] {route : String} {a : α}
    {request : Http.Request} :
    c.jsonRequest? route a = some request ↔ c.Posts route a request := by
  rw [jsonRequest?, request?]
  constructor
  · intro asked
    split at asked
    · next url key parsed keyed =>
      obtain rfl := Option.some.inj asked
      exact ⟨rfl, ⟨url, parsed, rfl⟩, ⟨key, keyed, rfl⟩, rfl⟩
    · cases asked
  · obtain ⟨method, target, headers, body⟩ := request
    rintro ⟨rfl, ⟨url, parsed, rfl⟩, ⟨key, keyed, rfl⟩, rfl⟩
    rw [parsed, keyed]
    rfl

/-- The requests that artifacts make, one after the other. -/
def Client.evidenceRequests (c : Client) (artifacts : List Evidence) : List Http.Request :=
  artifacts.flatMap fun e => (c.evidenceRequest? e).toList

/-- A request is answered well if it can be put together, and comes back with no error status. -/
theorem Client.send_eq_ok_iff {request? : Option Http.Request} {reply : Reply} :
    send net request? s = (.ok reply, s') ↔ ∃ request, request? = some request ∧
      net request s = (some reply, s') ∧ (reply.status < 400 ∨ 600 ≤ reply.status) := by
  unfold send
  cases request? with
  | none => simp
  | some request =>
    rcases answered : net request s with ⟨_ | reply', s₁⟩
    · simp [answered]
    · by_cases refused : 400 ≤ reply'.status ∧ reply'.status < 600 <;>
        simp [answered, refused] <;> grind

/-- **An artifact is registered** if its request is answered, and not with an error status. -/
theorem Client.registerEvidence_eq_ok_iff : c.registerEvidence net e s = (.ok (), s') ↔
    ∃ request reply, c.Posts ("/api/cases/" ++ e.caseId ++ "/evidences") e request ∧
      net request s = (some reply, s') ∧ (reply.status < 400 ∨ 600 ≤ reply.status) := by
  have sent : c.registerEvidence net e s = (.ok (), s') ↔
      ∃ reply, send net (c.evidenceRequest? e) s = (.ok reply, s') := by
    unfold registerEvidence
    rcases send net (c.evidenceRequest? e) s with ⟨_ | reply, s₁⟩ <;> simp
  simp only [sent, send_eq_ok_iff, ← jsonRequest?_eq_some_iff]
  exact exists_comm

/-- A network that keeps the requests that are sent over it. -/
def Network.logged (net : Network σ) : Network (σ × List Http.Request) := fun request s =>
  ((net request s.1).1, (net request s.1).2, s.2 ++ [request])

/-- A request is kept when it is sent, and keeping it changes nothing else. -/
theorem Client.send_logged (net : Network σ) (request? : Option Http.Request) (s : σ)
    (log : List Http.Request) : send net.logged request? (s, log) =
      ((send net request? s).1, (send net request? s).2, log ++ request?.toList) := by
  unfold send
  cases request? with
  | none => simp
  | some request =>
    rcases answered : net request s with ⟨_ | reply, s'⟩
    · simp [Network.logged, answered]
    · by_cases refused : 400 ≤ reply.status ∧ reply.status < 600 <;>
        simp [Network.logged, answered, refused]

/-- To open a stream, its request is sent. -/
theorem Client.openStream_logged (net : Network σ) (c : Client) (modules : List String)
    (workers : UInt64) (s : σ) (log : List Http.Request) :
    c.openStream net.logged modules workers (s, log) =
      ((c.openStream net modules workers s).1, (c.openStream net modules workers s).2,
        log ++ (c.streamRequest? modules workers).toList) := by
  rw [openStream, send_logged, openStream]
  rcases send net (c.streamRequest? modules workers) s with ⟨_ | reply, s'⟩ <;> rfl

/-- To register an artifact, its request is sent. -/
theorem Client.registerEvidence_logged (net : Network σ) (c : Client) (e : Evidence) (s : σ)
    (log : List Http.Request) : c.registerEvidence net.logged e (s, log) =
      ((c.registerEvidence net e s).1, (c.registerEvidence net e s).2,
        log ++ (c.evidenceRequest? e).toList) := by
  rw [registerEvidence, send_logged, registerEvidence]
  rcases send net (c.evidenceRequest? e) s with ⟨_ | reply, s'⟩ <;> rfl

/-- To report on a job, the request with the report is sent. -/
theorem Client.ack_logged (net : Network σ) (c : Client) (report : AckRequest) (s : σ)
    (log : List Http.Request) : c.ack net.logged report (s, log) =
      ((c.ack net report s).1, (c.ack net report s).2,
        log ++ (c.ackRequest? report).toList) := by
  rw [ack, send_logged, ack]
  rcases send net (c.ackRequest? report) s with ⟨_ | reply, s'⟩ <;> rfl

/-- Artifacts that are taken leave their requests on the network, in their order. -/
theorem Client.Registers.logged (taken : c.Registers net artifacts s s')
    (log : List Http.Request) :
    c.Registers net.logged artifacts (s, log)
      (s', log ++ c.evidenceRequests artifacts) := by
  induction taken generalizing log with
  | nil s =>
    rw [Client.evidenceRequests, List.flatMap_nil, List.append_nil]
    exact .nil _
  | @cons e es s s' s'' taken rest ih =>
    have sent := c.registerEvidence_logged net e s log
    rw [taken] at sent
    have later := ih (log ++ (c.evidenceRequest? e).toList)
    rw [Client.evidenceRequests, List.flatMap_cons, ← List.append_assoc]
    exact .cons sent later

/-- **The requests of a job** are those that the artifacts which it tries make, in their order. -/
theorem ComesOut.logged (comes : ComesOut net c r d h s outcome tried h' s')
    (log : List Http.Request) : ComesOut net.logged c r d h (s, log) outcome tried h'
      (s', log ++ c.evidenceRequests tried) := by
  cases comes with
  | unknown nobody =>
    rw [Client.evidenceRequests, List.flatMap_nil, List.append_nil]
    exact .unknown nobody
  | failed found ran =>
    rw [Client.evidenceRequests, List.flatMap_nil, List.append_nil]
    exact .failed found ran
  | panicked found ran =>
    rw [Client.evidenceRequests, List.flatMap_nil, List.append_nil]
    exact .panicked found ran
  | @refused m h' front back e err s' s'' found ran taken refused =>
    have sent := c.registerEvidence_logged net e s'
      (log ++ c.evidenceRequests front)
    rw [refused] at sent
    rw [Client.evidenceRequests, List.flatMap_append, List.flatMap_singleton, ← List.append_assoc]
    exact .refused found ran (taken.logged log) sent
  | fine found ran taken => exact .fine found ran (taken.logged log)

end Casework
