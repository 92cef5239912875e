/-
# Listings of jobs

A listing of jobs is made in one of two ways.

| asked for | the store gives | what is done with it |
| --- | --- | --- |
| the jobs on an item | all of them | those of the status are kept and counted off |
| jobs wherever they are | the first ones of the status, up to the limit | nothing |

Both show the first rows that are wanted (`run_selectJobs`).  That rests on two things: a limit
means the same to the store and to the counting off, whatever number it is
(`takeCount_eq_takeLimit`), and every row of a run can be read, so that it makes no difference
whether rows are counted off or the jobs that were read from them (`takeLimit_filterMap`).

What an operator gets to see of it is the end of a command that works on a store
(`outcome_of_opens`).
-/

import Casework.Proofs.Cli.Failures
import Casework.Proofs.Dispatch.LatestRuns

namespace Casework

open Store

/-- The row is one that a listing is asked for: of the status if one is given, and on the item if
one is given. -/
def JobRow.isWanted (status? : Option JobStatus) (evidence? : Option String) (r : JobRow) : Bool :=
  status?.all (· == r.status) && evidence?.all (· == r.evidenceId)

/-! ## Limits -/

section Limits

variable {α : Type} {limit : Int} {rows : List JobRow}

/-- A negative limit is none. -/
theorem takeLimit_of_neg (negative : limit < 0) (l : List α) : takeLimit limit l = l :=
  if_pos negative

/-- A limit keeps that many from the front. -/
theorem takeLimit_natCast (n : ℕ) (l : List α) : takeLimit n l = l.take n := by
  simp [takeLimit]

/-- Counting off goes as far as the store's limit does. -/
theorem Cli.takeCount_eq_takeLimit (limit : Int) (jobs : List Job) :
    takeCount limit jobs = takeLimit limit jobs := by
  cases limit with
  | ofNat n => exact (takeLimit_natCast n jobs).symm
  | negSucc n => exact (takeLimit_of_neg (Int.negSucc_lt_zero n) jobs).symm

/-- Where all rows can be read, the first jobs are those of the first rows. -/
theorem take_filterMap (readable : ∀ r ∈ rows, r.job?.isSome = true) (n : ℕ) :
    (rows.filterMap JobRow.job?).take n = (rows.take n).filterMap JobRow.job? := by
  induction rows generalizing n with
  | nil => simp
  | cons r rows ih =>
    obtain ⟨first, rest⟩ := List.forall_mem_cons.1 readable
    obtain ⟨job, read⟩ := Option.isSome_iff_exists.1 first
    cases n with
    | zero => rfl
    | succ n => simp only [List.filterMap_cons_some read, List.take_succ_cons, ih rest]

/-- When every row is readable, it is the same to cut the rows or the jobs. -/
theorem takeLimit_filterMap (readable : ∀ r ∈ rows, r.job?.isSome = true) (limit : Int) :
    takeLimit limit (rows.filterMap JobRow.job?) =
      (takeLimit limit rows).filterMap JobRow.job? := by
  unfold takeLimit
  split
  · rfl
  · exact take_filterMap readable _

/-- A limit changes no order. -/
theorem takeLimit_sublist (limit : Int) (l : List α) : (takeLimit limit l).Sublist l := by
  unfold takeLimit
  split
  · exact .refl _
  · exact List.take_sublist _ _

/-- Where all rows can be read, none is left out. -/
theorem map_some_filterMap (readable : ∀ r ∈ rows, r.job?.isSome = true) :
    (rows.filterMap JobRow.job?).map some = rows.map JobRow.job? := by
  induction rows with
  | nil => rfl
  | cons r rows ih =>
    obtain ⟨first, rest⟩ := List.forall_mem_cons.1 readable
    obtain ⟨job, read⟩ := Option.isSome_iff_exists.1 first
    rw [List.filterMap_cons_some read, List.map_cons, List.map_cons, ih rest, read]

/-- The ids of the jobs that are read are those of rows, in the same order. -/
theorem ids_filterMap_sublist (rows : List JobRow) :
    ((rows.filterMap JobRow.job?).map Job.id).Sublist (rows.map JobRow.id) := by
  induction rows with
  | nil => exact .slnil
  | cons r rows ih =>
    cases read : r.job? with
    | none =>
      rw [List.filterMap_cons_none read]
      exact ih.cons _
    | some job =>
      rw [List.filterMap_cons_some read, List.map_cons, List.map_cons, JobRow.id_of_job? read]
      exact ih.cons_cons _

/-- The jobs of a status are those of the rows of that status. -/
theorem filter_filterMap_job? (status? : Option JobStatus) (rows : List JobRow) :
    (rows.filterMap JobRow.job?).filter (fun j => status?.all (j.status == ·)) =
      (rows.filter fun r => status?.all (· == r.status)).filterMap JobRow.job? := by
  induction rows with
  | nil => rfl
  | cons r rows ih =>
    cases read : r.job? with
    | none =>
      rw [List.filterMap_cons_none read, ih, List.filter_cons]
      split
      · rw [List.filterMap_cons_none read]
      · rfl
    | some job =>
      have status : job.status = r.status := (JobRow.of_job? read).2.2.2.2.1
      have same : status?.all (job.status == ·) = status?.all (· == r.status) := by
        cases status? <;> simp [status, Bool.beq_comm]
      rw [List.filterMap_cons_some read, List.filter_cons, List.filter_cons, same, ih]
      split
      · rw [List.filterMap_cons_some read]
      · rfl

end Limits

/-! ## Both ways -/

/-- A text is the name of a status, or of none. -/
theorem JobStatus.names_or_unknown (name? : Option String) :
    (∃ status? : Option JobStatus, name? = status?.map JobStatus.name) ∨
      ∃ name, name? = some name ∧ JobStatus.ofName? name = none := by
  cases name? with
  | none => exact .inl ⟨none, rfl⟩
  | some name =>
    cases known : JobStatus.ofName? name with
    | none => exact .inr ⟨name, rfl, known⟩
    | some status =>
      have named : status.name = name := by simpa using List.find?_some known
      exact .inl ⟨some status, by rw [Option.map_some, named]⟩

namespace Cli

variable {s : Store}

/-- The jobs of a status are those of the wanted rows, cut at the limit. -/
theorem run_listJobsByStatus (readable : ∀ r ∈ s.jobs.rows, r.job?.isSome = true)
    (status? : Option JobStatus) (limit : Int) : listJobsByStatus status? limit s =
      (if s.jobs.lost then .error (lostTable .jobs)
        else .ok ((takeLimit limit (s.jobs.rows.filter fun r =>
          status?.all (· == r.status))).filterMap JobRow.job?), s) := by
  have chosen : ∀ r ∈ takeLimit limit (s.jobs.rows.filter fun r => status?.all (· == r.status)),
      r.job?.isSome = true := fun r hr =>
    readable r (List.mem_of_mem_filter ((takeLimit_sublist limit _).subset hr))
  have read := readRows_read chosen
  cases lost : s.jobs.lost <;> simp [listJobsByStatus, lost, read]

/-- **A listing shows the first rows that are wanted,** in either way. -/
theorem run_selectJobs (readable : ∀ r ∈ s.jobs.rows, r.job?.isSome = true)
    (status? : Option JobStatus) (evidence? : Option String) (limit : Int) :
    selectJobs (status?.map JobStatus.name) evidence? limit s =
      (if s.jobs.lost then .error (lostTable .jobs)
        else .ok ((takeLimit limit
          (s.jobs.rows.filter (JobRow.isWanted status? evidence?))).filterMap JobRow.job?), s) := by
  have parsed : ((status?.map JobStatus.name).mapM fun name =>
      (liftM (JobStatus.parse name) : StoreM JobStatus)) s = (.ok status?, s) := by
    cases status? with
    | none => rfl
    | some status => cases status <;> rfl
  rw [selectJobs, run_bind, parsed]
  cases evidence? with
  | none =>
    have wanted : JobRow.isWanted status? none = fun r => status?.all (· == r.status) := by
      funext r
      simp [JobRow.isWanted]
    rw [wanted]
    exact run_listJobsByStatus readable status? limit
  | some evidenceId =>
    have wanted : s.jobs.rows.filter (JobRow.isWanted status? (some evidenceId)) =
        (s.jobs.rows.filter fun r => r.evidenceId == evidenceId).filter
          fun r => status?.all (· == r.status) := by
      rw [List.filter_filter]
      refine List.filter_congr fun r _ => ?_
      simp [JobRow.isWanted, Bool.beq_comm]
    have jobs : takeCount limit ((s.jobsOn evidenceId).filter
        fun j => status?.all (j.status == ·)) =
          (takeLimit limit (s.jobs.rows.filter
            (JobRow.isWanted status? (some evidenceId)))).filterMap JobRow.job? := by
      rw [takeCount_eq_takeLimit, jobsOn, filter_filterMap_job?, wanted, takeLimit_filterMap]
      exact fun r hr => readable r (List.mem_of_mem_filter (List.mem_of_mem_filter hr))
    simp only [run_bind, run_listJobs readable]
    cases lost : s.jobs.lost <;> simp [jobs]

/-- A text that is no status is refused before any row is looked at. -/
theorem selectJobs_of_not_status {name : String} (unknown : JobStatus.ofName? name = none)
    (evidence? : Option String) (limit : Int) (s : Store) :
    selectJobs (some name) evidence? limit s =
      (.error (.validation ("unknown job status: " ++ name)), s) := by
  have refused : ((some name).mapM fun name =>
      (liftM (JobStatus.parse name) : StoreM JobStatus)) s =
        (.error (.validation ("unknown job status: " ++ name)), s) := by
    simp [Option.mapM, JobStatus.parse, unknown, Except.map]
  rw [selectJobs, run_bind, refused]

/-! ## What the operator sees -/

/-- The settings of the machine name the place of a store that can be opened. -/
def Machine.Opens (m : Machine) (place? : Option Place) : Prop :=
  ∃ config, ServerConfig.ofEnvironment (Dotenv.load m.host.files m.environment) = .ok config ∧
    m.locate config.databaseUrl = .ok place?

/-- **A command that works on a store** ends as its computation does on the store that the settings
name, for a server with a token of its own. -/
theorem outcome_of_opens {m : Machine} {place? : Option Place} (opens : m.Opens place?)
    {args : List String} {c : Command} (parsed : Command.parse args = .ok c)
    {op : Dispatcher → StoreM String} (chosen : ∀ d, c.onStore? d = some (op d)) :
    (run m args).1 = .ofResult (op { token := m.freshIdent.1, registry := .catalog }
      (m.freshIdent.2.storeAt place?)).1 := by
  obtain ⟨config, settings, place⟩ := opens
  let m' : Machine := { m with environment := Dotenv.load m.host.files m.environment }
  have opened : openStore m' = (.ok (config, place?, m'.freshIdent.1), m'.freshIdent.2) := by
    rw [openStore, show ServerConfig.ofEnvironment m'.environment = .ok config from settings]
    dsimp only
    rw [show m'.locate config.databaseUrl = .ok place? from place]
  have command : runCommand m' c = runOnStore m' op := by
    have ops : op = fun d => (c.onStore? d).getD (pure "") := by
      funext d
      rw [chosen d, Option.getD_some]
    rw [ops]
    cases c with
    | serve bind? => exact nomatch chosen { token := "", registry := {} }
    | work concurrency? tools? => exact nomatch chosen { token := "", registry := {} }
    | listModules => exact nomatch chosen { token := "", registry := {} }
    | checkModules tools => exact nomatch chosen { token := "", registry := {} }
    | _ => rfl
  rw [run, parsed]
  change (runCommand m' c).1 = _
  rw [command, runOnStore, opened]
  rfl

end Cli

namespace Dispatch

/-- What a listing shows after a run: the first rows that are wanted, as many as the limit says, all
of them for a negative one, each as the job that it is, and in the order in which they were
queued. -/
structure World.Lists (supply : Supply) (turns : List Turn) (status? : Option JobStatus)
    (evidence? : Option String) (limit : Int) (jobs : List Job) : Prop where
  all : limit < 0 → jobs.map some =
    (((empty supply).run turns).store.jobs.rows.filter
      (JobRow.isWanted status? evidence?)).map JobRow.job?
  front : ∀ n : ℕ, limit = n → jobs.map some =
    ((((empty supply).run turns).store.jobs.rows.filter
      (JobRow.isWanted status? evidence?)).take n).map JobRow.job?
  order : (jobs.map Job.id).Pairwise (QueuedBefore supply turns)

/-- What a world lists are its wanted rows, cut at the limit and read. -/
theorem World.lists_takeLimit (supply : Supply) (turns : List Turn) (status? : Option JobStatus)
    (evidence? : Option String) (limit : Int) : Lists supply turns status? evidence? limit
      ((takeLimit limit (((empty supply).run turns).store.jobs.rows.filter
        (JobRow.isWanted status? evidence?))).filterMap JobRow.job?) := by
  have readable := readable_run supply turns
  have order := pairwise_queuedBefore supply turns
  rw [jobIds] at order
  have part := (takeLimit_sublist limit (((empty supply).run turns).store.jobs.rows.filter
    (JobRow.isWanted status? evidence?))).trans List.filter_sublist
  have shown := map_some_filterMap fun r hr => readable r (part.subset hr)
  refine ⟨fun negative => ?_, fun n same => ?_, ?_⟩
  · rw [shown, takeLimit_of_neg negative]
  · rw [shown, same, takeLimit_natCast]
  · exact order.sublist ((ids_filterMap_sublist _).trans (part.map JobRow.id))

/-- **Both ways of listing jobs agree.**  Servers, workers, clients and operators do what they like
on a store that was empty.  Take any status or none, any item or none and any limit.

* The listing has the rows that are of the status and on the item, in the order in which they were
  queued: all of them for a negative limit, otherwise the first ones, as many as the limit says.  It
  is what the command prints, on any machine whose settings name a store with these jobs; if they
  are out of reach, the command says so.
* A text that is no status is refused.
* If all jobs are on one item, it makes no difference whether the item is given. -/
theorem listings_agree (supply : Supply) (turns : List Turn) :
    let s := ((World.empty supply).run turns).store
    (∀ (status? : Option JobStatus) (evidence? : Option String) (limit : Int), ∃ jobs,
      World.Lists supply turns status? evidence? limit jobs ∧
      Cli.selectJobs (status?.map JobStatus.name) evidence? limit s =
        (if s.jobs.lost then .error (lostTable .jobs) else .ok jobs, s) ∧
      ∀ (m : Cli.Machine) (place? : Option Place), m.Opens place? →
        (m.storeAt place?).jobs = s.jobs → ∀ args,
          Cli.Command.parse args =
            .ok (.listJobs (status?.map JobStatus.name) evidence? limit) →
          (Cli.run m args).1 = if s.jobs.lost then .failed (lostTable .jobs).message
            else .printed (Cli.jobsText jobs)) ∧
    (∀ name, JobStatus.ofName? name = none → ∀ evidence? limit,
      Cli.selectJobs (some name) evidence? limit s =
        (.error (.validation ("unknown job status: " ++ name)), s)) ∧
    ∀ id, (∀ r ∈ s.jobs.rows, r.evidenceId = id) → ∀ status? limit,
      Cli.selectJobs status? (some id) limit s = Cli.selectJobs status? none limit s := by
  intro s
  have readable := World.readable_run supply turns
  refine ⟨fun status? evidence? limit => ⟨_, World.lists_takeLimit supply turns status? evidence?
      limit, Cli.run_selectJobs readable status? evidence? limit, ?_⟩,
    fun name unknown evidence? limit => Cli.selectJobs_of_not_status unknown evidence? limit s,
    fun id own status? limit => ?_⟩
  · intro m place? opens jobs args parsed
    have opened : (m.freshIdent.2.storeAt place?).jobs = s.jobs := by
      rw [Cli.storeAt_freshIdent, jobs]
    have listed := Cli.run_selectJobs (s := m.freshIdent.2.storeAt place?) (by rwa [opened])
      status? evidence? limit
    rw [Cli.outcome_of_opens opens parsed fun d => rfl, run_map, listed, opened]
    cases s.jobs.lost <;> rfl
  · obtain ⟨st?, rfl⟩ | ⟨name, rfl, unknown⟩ := JobStatus.names_or_unknown status?
    · have same : s.jobs.rows.filter (JobRow.isWanted st? (some id)) =
          s.jobs.rows.filter (JobRow.isWanted st? none) :=
        List.filter_congr fun r hr => by simp [JobRow.isWanted, own r hr]
      rw [Cli.run_selectJobs readable, Cli.run_selectJobs readable, same]
    · rw [Cli.selectJobs_of_not_status unknown, Cli.selectJobs_of_not_status unknown]

/-- The machine opens the store of that day. -/
theorem opens_workdayMachine : workdayMachine.Opens (some ["db"]) := by
  have address : (ServerConfig.ofEnvironment (Dotenv.load workdayMachine.host.files
      workdayMachine.environment)).toOption.map ServerConfig.databaseUrl =
        some "sqlite:///db" := by decide +kernel
  have location : StoreLocation.parse "sqlite:///db" = .ok (.file "/db") := by decide +kernel
  have place : workdayMachine.storePlace "/db" = .ok ["db"] := by decide +kernel
  cases settings : ServerConfig.ofEnvironment (Dotenv.load workdayMachine.host.files
      workdayMachine.environment) with
  | error e => simp [settings, Except.toOption] at address
  | ok config =>
    have url : config.databaseUrl = "sqlite:///db" := by
      simpa [settings, Except.toOption] using address
    exact ⟨config, settings, by simp only [Cli.Machine.locate, url, location, place, Except.map]⟩

/-- The store that it opens has the jobs of that day. -/
theorem jobs_workdayMachine : (workdayMachine.storeAt (some ["db"])).jobs =
    ((World.empty lone.supply).run workday).store.jobs := by
  have found : workdayMachine.stores.find? (fun s => s.1 == ["db"]) =
      some (["db"], ((World.empty lone.supply).run workday).store) := by
    simp [workdayMachine]
  simp [Cli.Machine.storeAt, found]

/-- After the workday both jobs are on the item, so that it makes no difference whether it is given.
Of the jobs that wait, the listing shows the second one of the day. -/
theorem listings_agree_workday :
    let s := ((World.empty lone.supply).run workday).store
    let args := ["job", "list", "--status", "Scheduled", "--evidence", "item", "--limit", "1"]
    workdayMachine.Opens (some ["db"]) ∧
      s.jobs.rows.map JobRow.status = [.running, .scheduled] ∧
      (∃ jobs, (Cli.run workdayMachine args).1 = .printed (Cli.jobsText jobs) ∧
        jobs.map Job.id = s.jobs.rows.tail.map JobRow.id) ∧
      (∀ r ∈ s.jobs.rows, r.evidenceId = "item") ∧
      Cli.selectJobs none (some "item") (-1) s = Cli.selectJobs none none (-1) s := by
  intro s args
  obtain ⟨lists, -, alike⟩ := listings_agree lone.supply workday
  have own : ∀ r ∈ s.jobs.rows, r.evidenceId = "item" := by decide +kernel
  obtain ⟨jobs, shown, -, printed⟩ := lists (some .scheduled) (some "item") 1
  have ends := printed workdayMachine (some ["db"]) opens_workdayMachine jobs_workdayMachine args
    (by decide +kernel)
  have there : ¬((World.empty lone.supply).run workday).store.jobs.lost = true := by decide +kernel
  rw [if_neg there] at ends
  refine ⟨opens_workdayMachine, by decide +kernel, ⟨jobs, ends, ?_⟩, own,
    alike "item" own none (-1)⟩
  have ids : (((s.jobs.rows.filter (JobRow.isWanted (some .scheduled) (some "item"))).take 1).map
      JobRow.job?).map (Option.map Job.id) = (s.jobs.rows.tail.map JobRow.id).map some := by
    decide +kernel
  have shown := shown.front 1 rfl
  rw [← shown, List.map_map] at ids
  have some_ : (Option.map Job.id ∘ some) = some ∘ Job.id := rfl
  rw [some_, ← List.map_map] at ids
  exact List.map_injective_iff.2 (Option.some_injective _) ids

end Dispatch

end Casework
