/-
# Exactly the hooks that fire queue a job

A hook fires for an item if it is enabled, names a registered module and its condition accepts the
item (`Fires`).  Whatever hooks are on record, an item that arrives queues one job for each hook
that fires, in the order of their names, behind the jobs that are there (`FiresExactly`).

The table of hooks comes about by saving and deleting (`Reached`), so each of its rows is the row of
a hook, under an id of its own (`Reached.sound`).  The hooks that fire are listed alike from two
tables that have the same rows of them (`map_filter_fires`), and what queueing does has nothing to
do with that table (`ignoresHooks_enqueueAll`).  Hence a hook that does not fire can come and go:
the others queue the same jobs (`sameFiring_of_filter_eq`).
-/

import Casework.Proofs.Hook.Firing

namespace Casework

/-! ## Computations that ignore the table of hooks -/

namespace Store

variable {α β : Type}

/-- The store with another table of hooks. -/
def withHooks (s : Store) (t : Table HookRow) : Store := { s with hooks := t }

/-- The computation neither reads nor writes the table of hooks. -/
def IgnoresHooks (op : StoreM α) : Prop :=
  ∀ s t, op (s.withHooks t) = ((op s).1, (op s).2.withHooks t)

/-- One computation after another ignores hooks, if both do. -/
theorem IgnoresHooks.bind {op : StoreM α} {next : α → StoreM β} (first : IgnoresHooks op)
    (rest : ∀ a, IgnoresHooks (next a)) : IgnoresHooks (op >>= next) := by
  intro s t
  rw [run_bind, run_bind, first s t]
  rcases op s with ⟨e | a, s'⟩
  · rfl
  · exact rest a s' t

theorem ignoresHooks_pure (a : α) : IgnoresHooks (pure a : StoreM α) := fun _ _ => rfl

theorem ignoresHooks_throw (e : Error) : IgnoresHooks (throw e : StoreM α) := fun _ _ => rfl

theorem ignoresHooks_lift (x : Except Error α) : IgnoresHooks (liftM x : StoreM α) := by
  intro s t
  rw [run_lift, run_lift]

/-- The rows of jobs are read without a look at the hooks. -/
theorem ignoresHooks_jobRows : IgnoresHooks jobRows := by
  intro s t
  rw [run_jobRows, run_jobRows, withHooks]
  split <;> rfl

/-- A single job is read without a look at the hooks. -/
theorem ignoresHooks_getJob (id : JobId) : IgnoresHooks (getJob id) := by
  refine ignoresHooks_jobRows.bind fun rows => ?_
  split
  · exact ignoresHooks_lift _
  · exact ignoresHooks_throw _

/-- A job is queued without a look at the hooks. -/
theorem ignoresHooks_enqueue (server : InstanceToken) (caseId evidenceId moduleName : String) :
    IgnoresHooks (enqueue server caseId evidenceId moduleName) := by
  refine (ignoresHooks_lift _).bind fun _ => ?_
  refine IgnoresHooks.bind (fun _ _ => rfl) fun id => ?_
  refine IgnoresHooks.bind (fun _ _ => rfl) fun now => ?_
  refine ignoresHooks_jobRows.bind fun rows => ?_
  have added : IgnoresHooks (do
      putJobs (rows ++ [.scheduled id caseId evidenceId moduleName server now]); getJob id) :=
    IgnoresHooks.bind (fun _ _ => rfl) fun _ => ignoresHooks_getJob id
  dsimp only
  split
  · exact (ignoresHooks_throw takenId).bind fun _ => added
  · exact added

end Store

open Store

namespace Hook

variable {registry : Registry} {rules : RuleEngine} {s : Store} {server : InstanceToken}
  {e : Evidence} {h : Hook}

/-- The jobs of hooks that have been found are queued without a look at the hooks. -/
theorem ignoresHooks_enqueueAll (server : InstanceToken) (e : Evidence) (hooks : List Hook) :
    IgnoresHooks (enqueueAll server e hooks) := by
  induction hooks with
  | nil => exact ignoresHooks_pure []
  | cons h hooks ih =>
    refine (ignoresHooks_enqueue server e.caseId e.id h.module).bind fun job => ?_
    exact ih.bind fun jobs => ignoresHooks_pure (job :: jobs)

/-! ## Tables of hooks -/

/-- A table of hooks as it comes about: hooks are saved and deleted. -/
inductive Reached : Table HookRow → Prop where
  | empty : Reached {}
  | save {s : Store} (before : Reached s.hooks) (h : Hook) : Reached (saveHook h s).2.hooks
  | delete {s : Store} (before : Reached s.hooks) (id : String) :
      Reached (deleteHook id s).2.hooks

/-- A table that is in reach and has rows of hooks only, each under an id of its own. -/
structure Sound (t : Table HookRow) : Prop where
  there : t.lost = false
  rows : ∀ r ∈ t.rows, ∃ h, HookRow.ofHook h = r
  keyed : (t.rows.map HookRow.id).Nodup

/-- A hook that is saved takes the place of the one with its id, or comes last. -/
theorem run_saveHook (there : s.hooks.lost = false) (h : Hook) :
    saveHook h s = (.ok (), s.withHooks
      ⟨upsert (fun r => r.id == h.id) (fun _ => .ofHook h) (.ofHook h) s.hooks.rows, false⟩) := by
  simp [saveHook, there, withHooks]

/-- A hook that is deleted is taken out. -/
theorem run_deleteHook (there : s.hooks.lost = false) {id : String}
    (held : id ∈ s.hooks.rows.map HookRow.id) :
    deleteHook id s = (.ok (), s.withHooks ⟨s.hooks.rows.filter fun r => r.id != id, false⟩) := by
  obtain ⟨r, member, rfl⟩ := List.mem_map.1 held
  have any : (s.hooks.rows.any fun x => x.id == r.id) = true :=
    List.any_eq_true.2 ⟨r, member, beq_self_eq_true _⟩
  simp only [deleteHook, run_bind, run_hookRows, there, Bool.false_eq_true, if_false, any, if_true,
    run_modify, withHooks]

/-- **A table of hooks stays sound** when one is saved. -/
theorem Sound.save (sound : Sound s.hooks) (h : Hook) : Sound (saveHook h s).2.hooks := by
  rw [run_saveHook sound.there]
  dsimp only [withHooks]
  unfold upsert
  split
  next held =>
    refine ⟨rfl, fun r member => ?_, ?_⟩
    · obtain ⟨old, before, rfl⟩ := List.mem_map.1 member
      split
      · exact ⟨h, rfl⟩
      · exact sound.rows old before
    · have ids : (changeAll (fun r => r.id == h.id) (fun _ => .ofHook h) s.hooks.rows).map
          HookRow.id = s.hooks.rows.map HookRow.id := by
        rw [changeAll, List.map_map]
        refine List.map_congr_left fun r _ => ?_
        by_cases same : r.id = h.id <;> simp [same, HookRow.ofHook]
      rw [ids]
      exact sound.keyed
  next free =>
    refine ⟨rfl, fun r member => ?_, ?_⟩
    · obtain old | new := List.mem_append.1 member
      · exact sound.rows r old
      · exact ⟨h, (List.mem_singleton.1 new).symm⟩
    · rw [List.map_append, List.map_singleton, ← List.concat_eq_append, List.nodup_concat]
      refine ⟨fun member => free ?_, sound.keyed⟩
      obtain ⟨r, there, same⟩ := List.mem_map.1 member
      exact List.any_eq_true.2 ⟨r, there, beq_iff_eq.2 same⟩

/-- **A table of hooks stays sound** when one is deleted. -/
theorem Sound.delete (sound : Sound s.hooks) (id : String) : Sound (deleteHook id s).2.hooks := by
  obtain ⟨e, run⟩ | ⟨-, run⟩ := deleteHook_cases id s
  · rw [run]
    exact sound
  · rw [run]
    exact ⟨rfl, fun r member => sound.rows r (List.mem_of_mem_filter member),
      sound.keyed.sublist (List.filter_sublist.map HookRow.id)⟩

/-- Every table that comes about is sound. -/
theorem Reached.sound {t : Table HookRow} (h : Reached t) : Sound t := by
  induction h with
  | empty => exact ⟨rfl, fun r member => absurd member List.not_mem_nil, List.nodup_nil⟩
  | save _ h ih => exact ih.save h
  | delete _ id ih => exact ih.delete id

/-! ## The hooks that fire -/

/-- The hook is to queue a job for the item. -/
structure Fires (registry : Registry) (rules : RuleEngine) (e : Evidence) (h : Hook) : Prop where
  enabled : h.enabled = true
  registered : h.module ∈ registry.names
  accepts : rules.evaluate h.condition e = .ok true

/-- A registry has the modules that it names. -/
theorem contains_iff {name : String} : registry.contains name = true ↔ name ∈ registry.names := by
  unfold Registry.contains Registry.find? Registry.names
  rw [List.find?_isSome, List.mem_map]
  simp only [beq_iff_eq]

/-- The check decides which hooks fire. -/
theorem fires_iff : fires registry rules e h = true ↔ Fires registry rules e h := by
  have trigger : h.trigger = .onEvidenceAdded := by
    cases h.trigger
    rfl
  simp only [fires, trigger, beq_self_eq_true, Bool.and_true, Bool.and_eq_true, contains_iff]
  constructor
  · rintro ⟨⟨enabled, registered⟩, yes⟩
    refine ⟨enabled, registered, ?_⟩
    split at yes
    next accepted evaluated => rw [evaluated, yes]
    next => cases yes
  · rintro ⟨enabled, registered, accepts⟩
    rw [accepts]
    exact ⟨⟨enabled, registered⟩, rfl⟩

/-- The row of a hook that fires. -/
def rowFires (registry : Registry) (rules : RuleEngine) (e : Evidence) (r : HookRow) : Bool :=
  match r.read with
  | .ok h => fires registry rules e h
  | .error _ => false

/-- The row of a hook fires if the hook does. -/
theorem rowFires_ofHook (h : Hook) :
    rowFires registry rules e (.ofHook h) = fires registry rules e h := by
  rw [rowFires, HookRow.read_ofHook]

/-- All hooks of a sound table are listed, by name. -/
theorem Sound.listHooks (sound : Sound s.hooks) :
    ∃ hooks, Store.listHooks s = (.ok hooks, s) ∧
      hooks.map HookRow.ofHook = sortByName s.hooks.rows := by
  have made : sortByName s.hooks.rows ∈ Set.range (List.map HookRow.ofHook) := by
    rw [Set.range_list_map]
    exact fun r member => sound.rows r ((perm_sortByName _).mem_iff.1 member)
  obtain ⟨hooks, rows⟩ := made
  refine ⟨hooks, ?_, rows⟩
  simp [Store.listHooks, sound.there, ← rows, readRows_map_ofHook]

/-- The hooks that fire are those of the rows that fire, in the order of their names. -/
theorem map_filter_fires {hooks : List Hook} {rows : List HookRow}
    (listed : hooks.map HookRow.ofHook = sortByName rows) :
    (hooks.filter (fires registry rules e)).map HookRow.ofHook =
      sortByName (rows.filter (rowFires registry rules e)) := by
  rw [← filter_sortByName, ← listed, List.filter_map]
  refine congrArg (List.map HookRow.ofHook) (List.filter_congr fun h _ => ?_)
  exact (rowFires_ofHook h).symm

/-- Those of the listed hooks that fire are the ones on record that do. -/
theorem mem_filter_fires {hooks : List Hook}
    (listed : hooks.map HookRow.ofHook = sortByName s.hooks.rows) :
    h ∈ hooks.filter (fires registry rules e) ↔
      HookRow.ofHook h ∈ s.hooks.rows ∧ Fires registry rules e h := by
  rw [List.mem_filter, fires_iff, ← (perm_sortByName s.hooks.rows).mem_iff, ← listed,
    List.mem_map_of_injective HookRow.ofHook_injective]

/-! ## What an item queues -/

/-- These hooks are the ones that fire, by name, and each queued its job, behind the jobs that were
there. -/
structure FiresExactly (server : InstanceToken) (registry : Registry) (rules : RuleEngine)
    (e : Evidence) (s : Store) (hooks : List Hook) (jobs : List Job) (s' : Store) : Prop where
  each : ∀ h, h ∈ hooks ↔ HookRow.ofHook h ∈ s.hooks.rows ∧ Fires registry rules e h
  once : hooks.Nodup
  byName : hooks.Pairwise fun a b => a.name ≤ b.name
  queued : List.Forall₂ (Queues server e) hooks jobs
  added : s.Queued jobs s'
  new : (s'.jobs.rows.map JobRow.id).Nodup

/-- An item that arrives gets the same answer from both stores, and leaves the same jobs. -/
def SameFiring (server : InstanceToken) (registry : Registry) (rules : RuleEngine) (e : Evidence)
    (s s' : Store) : Prop :=
  (onEvidenceAdded server registry rules e s').1 = (onEvidenceAdded server registry rules e s).1 ∧
    (onEvidenceAdded server registry rules e s').2.jobs =
      (onEvidenceAdded server registry rules e s).2.jobs

/-- No hook of the id fires. -/
def Idle (registry : Registry) (rules : RuleEngine) (e : Evidence) (t : Table HookRow)
    (id : String) : Prop :=
  ∀ h, HookRow.ofHook h ∈ t.rows → h.id = id → ¬Fires registry rules e h

/-- **An item that arrives fires exactly** the hooks that are to fire. -/
theorem Sound.onEvidenceAdded (sound : Sound s.hooks) (ready : s.Ready)
    (named : registry.WellNamed) (server : InstanceToken) (rules : RuleEngine) (e : Evidence) :
    ∃ hooks jobs s', onEvidenceAdded server registry rules e s = (.ok jobs, s') ∧
      FiresExactly server registry rules e s hooks jobs s' := by
  obtain ⟨hooks, jobs, s', listed, run, queued, added, ready'⟩ :=
    onEvidenceAdded_ok ready named server rules e
  obtain ⟨hooks', listed', rows⟩ := sound.listHooks
  obtain rfl : hooks' = hooks := Except.ok.inj (congrArg Prod.fst (listed'.symm.trans listed))
  refine ⟨_, jobs, s', run, fun h => mem_filter_fires rows, ?_, ?_, queued, added, ready'.keyed⟩
  · refine List.Nodup.filter _ (List.Nodup.of_map HookRow.ofHook ?_)
    rw [rows, (perm_sortByName _).nodup_iff]
    exact sound.keyed.of_map
  · refine List.Pairwise.filter _ ?_
    have order := inOrder_sortByName s.hooks.rows
    rw [← rows, InOrder, List.pairwise_map] at order
    exact order

/-- **Two tables with the same rows that fire** queue the same jobs. -/
theorem sameFiring_of_filter_eq {t : Table HookRow} (sound : Sound s.hooks) (sound' : Sound t)
    (same : t.rows.filter (rowFires registry rules e) =
      s.hooks.rows.filter (rowFires registry rules e)) :
    SameFiring server registry rules e s (s.withHooks t) := by
  obtain ⟨hooks, listed, rows⟩ := sound.listHooks
  obtain ⟨hooks', listed', rows'⟩ := Sound.listHooks (s := s.withHooks t) sound'
  have fire : hooks'.filter (fires registry rules e) = hooks.filter (fires registry rules e) := by
    refine List.map_injective_iff.2 HookRow.ofHook_injective ?_
    rw [map_filter_fires rows, map_filter_fires rows', ← same]
    rfl
  have alike : onEvidenceAdded server registry rules e (s.withHooks t) =
      ((onEvidenceAdded server registry rules e s).1,
        (onEvidenceAdded server registry rules e s).2.withHooks t) := by
    simp only [Hook.onEvidenceAdded, run_bind, listed, listed', fire]
    exact ignoresHooks_enqueueAll server e _ s t
  rw [SameFiring, alike]
  exact ⟨rfl, rfl⟩

/-- The rows of an idle hook do not fire. -/
theorem Idle.rowFires {t : Table HookRow} {id : String} (idle : Idle registry rules e t id)
    (sound : Sound t) {r : HookRow} (member : r ∈ t.rows) (same : r.id = id) :
    rowFires registry rules e r = false := by
  obtain ⟨h, rfl⟩ := sound.rows r member
  rw [rowFires_ofHook, ← Bool.not_eq_true, fires_iff]
  exact idle h member same

/-- A change among the rows that a filter leaves out does not show behind it. -/
theorem filter_changeAll {α : Type} {p same : α → Bool} {new : α} {rows : List α}
    (out : p new = false) (old : ∀ r ∈ rows, same r = true → p r = false) :
    (changeAll same (fun _ => new) rows).filter p = rows.filter p := by
  induction rows with
  | nil => rfl
  | cons x rows ih =>
    obtain ⟨first, rest⟩ := List.forall_mem_cons.1 old
    rw [changeAll, List.map_cons, List.filter_cons, List.filter_cons]
    by_cases held : same x = true
    · simp only [held, if_true, out, first held, Bool.false_eq_true, if_false]
      exact ih rest
    · simp only [held, Bool.false_eq_true, if_false]
      rw [← ih rest, changeAll]

/-- A new row that a filter leaves out does not show behind it. -/
theorem filter_upsert {α : Type} {p same : α → Bool} {new : α} {rows : List α}
    (out : p new = false) (old : ∀ r ∈ rows, same r = true → p r = false) :
    (upsert same (fun _ => new) new rows).filter p = rows.filter p := by
  unfold upsert
  split
  · exact filter_changeAll out old
  · rw [List.filter_append, List.filter_singleton, out]
    exact List.append_nil _

/-- A hook that does not fire may be saved in the place of one that does not. -/
theorem Sound.sameFiring_save (sound : Sound s.hooks) (quiet : ¬Fires registry rules e h)
    (idle : Idle registry rules e s.hooks h.id) :
    (saveHook h s).1 = .ok () ∧ SameFiring server registry rules e s (saveHook h s).2 := by
  have saved := sound.save h
  rw [run_saveHook sound.there] at saved ⊢
  refine ⟨rfl, sameFiring_of_filter_eq sound saved (filter_upsert ?_ fun r member same => ?_)⟩
  · rw [rowFires_ofHook, ← Bool.not_eq_true, fires_iff]
    exact quiet
  · exact idle.rowFires sound member (beq_iff_eq.1 same)

/-- A hook that does not fire may be deleted. -/
theorem Sound.sameFiring_delete (sound : Sound s.hooks) {id : String}
    (held : id ∈ s.hooks.rows.map HookRow.id) (idle : Idle registry rules e s.hooks id) :
    (deleteHook id s).1 = .ok () ∧ SameFiring server registry rules e s (deleteHook id s).2 := by
  have deleted := sound.delete id
  rw [run_deleteHook sound.there held] at deleted ⊢
  refine ⟨rfl, sameFiring_of_filter_eq sound deleted ?_⟩
  dsimp only
  rw [List.filter_filter]
  refine List.filter_congr fun r member => ?_
  by_cases same : r.id = id
  · rw [idle.rowFires sound member same, Bool.false_and]
  · rw [bne_iff_ne.2 same, Bool.and_true]

/-- **Hooks fire exactly.**  An item that arrives never fails to fire the hooks of a table that came
about by saving and deleting.  It queues one job for each hook that fires, by name, and no other.  A
hook that does not fire may be saved, unless it takes the place of one that does, and may be
deleted: the item gets the same answer, and leaves the same jobs. -/
theorem hooks_fire_exactly (ready : s.Ready) (reached : Reached s.hooks) (made : registry.Made)
    (server : InstanceToken) (rules : RuleEngine) (e : Evidence) :
    (∃ hooks jobs s', onEvidenceAdded server registry rules e s = (.ok jobs, s') ∧
      FiresExactly server registry rules e s hooks jobs s') ∧
    (∀ h, ¬Fires registry rules e h → Idle registry rules e s.hooks h.id →
      (saveHook h s).1 = .ok () ∧ SameFiring server registry rules e s (saveHook h s).2) ∧
    ∀ id ∈ s.hooks.rows.map HookRow.id, Idle registry rules e s.hooks id →
      (deleteHook id s).1 = .ok () ∧ SameFiring server registry rules e s (deleteHook id s).2 :=
  ⟨reached.sound.onEvidenceAdded ready made.wellNamed server rules e,
    fun _ quiet idle => reached.sound.sameFiring_save quiet idle,
    fun _ held idle => reached.sound.sameFiring_delete held idle⟩

/-- A hook for event logs. -/
def eventLogs : Hook :=
  ⟨"first", .onEvidenceAdded, "event logs", "Hayabusa", "*.evtx", true⟩

/-- A hook whose condition cannot be evaluated. -/
def globless : Hook := ⟨"second", .onEvidenceAdded, "anything", "Hayabusa", " , ", true⟩

/-- Of the two hooks, an event log fires the one, and the other may be deleted. -/
theorem hooks_fire_exactly_of_two :
    let item : Evidence := ⟨"item", "case", "file", "Security.EVTX", "", "", 0, "", .epoch⟩
    let s := (saveHook globless (saveHook eventLogs { supply := .counting }).2).2
    (∃ job s', onEvidenceAdded "server" Registry.catalog namePatternRules item s =
        (.ok [job], s') ∧ Queues "server" item eventLogs job ∧ s.Queued [job] s') ∧
      SameFiring "server" Registry.catalog namePatternRules item s (deleteHook "second" s).2 := by
  intro item s
  have ready : s.Ready := ((ready_empty Supply.fresh_counting).saveHook eventLogs).saveHook globless
  have reached : Reached s.hooks := .save (.save .empty eventLogs) globless
  have rows : s.hooks.rows = [.ofHook eventLogs, .ofHook globless] := rfl
  have fires : Fires Registry.catalog namePatternRules item eventLogs :=
    ⟨rfl, by decide +kernel, by decide +kernel⟩
  have quiet : ¬Fires Registry.catalog namePatternRules item globless :=
    fun fires => absurd fires.accepts (by decide +kernel)
  obtain ⟨⟨hooks, jobs, s', run, exact⟩, -, deleted⟩ := hooks_fire_exactly ready reached
    Registry.made_catalog "server" namePatternRules item
  have one : hooks = [eventLogs] := by
    refine List.perm_singleton.1 ((List.perm_ext_iff_of_nodup exact.once
      (List.nodup_singleton _)).2 fun h => ?_)
    rw [exact.each, rows, List.mem_pair, HookRow.ofHook_injective.eq_iff,
      HookRow.ofHook_injective.eq_iff, List.mem_singleton]
    constructor
    · rintro ⟨rfl | rfl, fires⟩
      · rfl
      · exact absurd fires quiet
    · rintro rfl
      exact ⟨.inl rfl, fires⟩
  subst one
  obtain ⟨job, others, queues, rest, rfl⟩ := List.forall₂_cons_left_iff.1 exact.queued
  obtain rfl := List.forall₂_nil_left_iff.1 rest
  refine ⟨⟨job, s', run, queues, exact.added⟩, (deleted "second" (by decide) ?_).2⟩
  intro h member same
  rw [rows, List.mem_pair, HookRow.ofHook_injective.eq_iff, HookRow.ofHook_injective.eq_iff]
    at member
  obtain rfl | rfl := member
  · exact absurd same (by decide)
  · exact quiet

end Hook
end Casework
