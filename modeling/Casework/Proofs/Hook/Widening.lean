/-
# Globs made wider

To put `*` for a part of a glob is to ask less of that part of the name, but not nothing: `*` stands
for no run with a line feed in it.  The line feeds of a name are just those that the glob spells out
(`count_lineFeed`), so a name that was matched still is if and only if the part that gave way to `*`
had no line feed (`matches_widened_iff`).

A condition that is one glob is evaluated by that glob (`evaluate_single`), so conditions behave
alike (`widening_keeps_match_iff`): a hook with the condition `*` fires for every item whose name is
on one line, and for no other.
-/

import Casework.Proofs.Hook.Exactness
import Casework.Proofs.Hook.Glob

namespace Casework

open Text

/-! ## Line feeds and case -/

/-- What letters fold to lies behind the line feed. -/
theorem lineFeed_lt_image : ∀ r ∈ foldRunsLow ++ foldRunsHigh, 10 < r.image := by
  decide +kernel

/-- A letter folds to the image of its run, or further on. -/
theorem image_le_of_fold? {r : FoldRun} {n m : ℕ} (h : r.fold? n = some m) : r.image ≤ m := by
  unfold FoldRun.fold? at h
  split at h
  · obtain rfl := Option.some.inj h
    exact Nat.le_add_left _ _
  · cases h

/-- What lies behind the line feed is not the line feed. -/
theorem ofNat_ne_lineFeed {n : ℕ} (h : 10 < n) : Char.ofNat n ≠ '\n' := by
  intro same
  have code : (Char.ofNat n).toNat = 10 := by
    rw [same]
    rfl
  rw [Char.toNat_ofNat] at code
  split at code
  · exact h.ne' code
  · cases code

/-- **Only a line feed folds to a line feed.** -/
theorem foldCase_eq_lineFeed_iff {c : Char} : foldCase c = '\n' ↔ c = '\n' := by
  constructor
  · intro folded
    unfold foldCase at folded
    dsimp only at folded
    split at folded
    next m found =>
      obtain ⟨r, member, folds⟩ := List.exists_of_findSome?_eq_some found
      refine absurd folded (ofNat_ne_lineFeed ((lineFeed_lt_image r ?_).trans_le
        (image_le_of_fold? folds)))
      split at member
      · exact List.mem_append_left _ member
      · exact List.mem_append_right _ member
    next => exact folded
  · rintro rfl
    decide

namespace Glob

variable {P Q : List Char → Prop} {t : GlobToken} {glob back cut name : List Char}

/-! ## Globs one after the other -/

/-- What stands behind one character may be in two parts. -/
theorem first_append {fits : Char → Prop} :
    (∃ c rest, name = c :: rest ∧ fits c ∧ ∃ n n', rest = n ++ n' ∧ P n ∧ Q n') ↔
      ∃ n n', name = n ++ n' ∧ (∃ c rest, n = c :: rest ∧ fits c ∧ P rest) ∧ Q n' := by
  constructor
  · rintro ⟨c, _, rfl, fits, n, n', rfl, first, second⟩
    exact ⟨c :: n, n', rfl, ⟨c, n, rfl, fits, first⟩, second⟩
  · rintro ⟨_, n', rfl, ⟨c, n, rfl, fits, first⟩, second⟩
    exact ⟨c, n ++ n', rfl, fits, n, n', rfl, first, second⟩

/-- What stands behind a token may be in two parts. -/
theorem behind_append : Behind t (fun text => ∃ n n', text = n ++ n' ∧ P n ∧ Q n') name ↔
    ∃ n n', name = n ++ n' ∧ Behind t P n ∧ Q n' := by
  cases t with
  | run =>
    constructor
    · rintro ⟨run, _, rfl, free, n, n', rfl, first, second⟩
      exact ⟨run ++ n, n', (List.append_assoc ..).symm, ⟨run, n, rfl, free, first⟩, second⟩
    · rintro ⟨_, n', rfl, ⟨run, n, rfl, free, first⟩, second⟩
      exact ⟨run, n ++ n', List.append_assoc .., free, n, n', rfl, first, second⟩
  | one => exact first_append
  | char p => exact first_append

/-- **Two globs in a row** match a name in two parts. -/
theorem matches_append_iff : Matches (glob ++ back) name ↔
    ∃ n n', name = n ++ n' ∧ Matches glob n ∧ Matches back n' := by
  induction glob generalizing name with
  | nil => simp [Matches]
  | cons p glob ih =>
    have rest : Matches (glob ++ back) =
        fun text => ∃ n n', text = n ++ n' ∧ Matches glob n ∧ Matches back n' :=
      funext fun text => propext ih
    rw [List.cons_append, matches_cons, rest, behind_append, matches_cons]

/-! ## Line feeds -/

/-- **The line feeds of a name** are those of the glob. -/
theorem count_lineFeed (h : Matches glob name) : name.count '\n' = glob.count '\n' := by
  induction glob generalizing name with
  | nil =>
    obtain rfl : name = [] := h
    rfl
  | cons p glob ih =>
    rw [matches_cons] at h
    by_cases star : p = '*'
    · subst star
      obtain ⟨run, rest, rfl, free, matched⟩ := h
      rw [List.count_append, List.count_eq_zero.2 free, Nat.zero_add, ih matched,
        List.count_cons_of_ne (by decide)]
    by_cases one : p = '?'
    · subst one
      obtain ⟨c, rest, rfl, other, matched⟩ := h
      rw [List.count_cons_of_ne other, ih matched, List.count_cons_of_ne (by decide)]
    rw [tokenOf, if_neg star, if_neg one] at h
    obtain ⟨c, rest, rfl, same, matched⟩ := h
    have both : p = '\n' ↔ c = '\n' := by
      rw [← foldCase_eq_lineFeed_iff, same, foldCase_eq_lineFeed_iff]
    simp only [List.count_cons, ih matched, beq_iff_eq, both]

/-- **A part of a glob gives way to `*`** without loss of a name if and only if it has no line
feed. -/
theorem matches_widened_iff (h : Matches (glob ++ cut ++ back) name) :
    Matches (glob ++ '*' :: back) name ↔ '\n' ∉ cut := by
  constructor
  · intro widened
    have feeds := (count_lineFeed h).symm.trans (count_lineFeed widened)
    rw [List.count_append, List.count_append, List.count_append,
      List.count_cons_of_ne (by decide)] at feeds
    exact List.count_eq_zero.1 (by omega)
  · intro free
    rw [List.append_assoc, matches_append_iff] at h
    obtain ⟨n, rest, rfl, first, h⟩ := h
    obtain ⟨run, n', rfl, middle, last⟩ := matches_append_iff.1 h
    have oneLine : '\n' ∉ run := by
      rw [← List.count_eq_zero, count_lineFeed middle, List.count_eq_zero]
      exact free
    exact matches_append_iff.2 ⟨n, run ++ n', rfl, first, run, n', rfl, oneLine, last⟩

end Glob

/-! ## Conditions of one glob -/

/-- The condition is one glob: it has no comma, and no blanks at its ends. -/
structure Single (condition : String) : Prop where
  free : ',' ∉ condition.toList
  trimmed : trim condition = condition

/-- A text is trimmed as its characters are. -/
theorem trim_eq_self_iff {s : String} : trim s = s ↔ trimChars s.toList = s.toList := by
  rw [← String.toList_inj, trim, String.toList_ofList]

/-- With `*` for a part of it the condition still is one glob. -/
theorem Single.widened {front cut back : String} (single : Single (front ++ cut ++ back)) :
    Single (front ++ "*" ++ back) := by
  have star : "*".toList = ['*'] := rfl
  obtain ⟨free, trimmed⟩ := single
  rw [trim_eq_self_iff, trimChars_eq_iff] at trimmed
  simp only [String.toList_append, List.append_assoc] at free trimmed
  refine ⟨?_, trim_eq_self_iff.2 (trimChars_eq_iff.2 ⟨fun c first => ?_, fun c last => ?_⟩)⟩
  · simp only [String.toList_append, star, List.mem_append, List.mem_singleton, not_or] at free ⊢
    exact ⟨⟨free.1, by decide⟩, free.2.2⟩
  · rw [String.toList_append, String.toList_append, star, List.append_assoc] at first
    cases chars : front.toList with
    | nil =>
      obtain rfl : '*' = c := by simpa [chars] using first
      decide
    | cons d front' => exact trimmed.1 c (by simpa [chars] using first)
  · rw [String.toList_append, String.toList_append, star, List.append_assoc] at last
    rcases List.eq_nil_or_concat' back.toList with none | ⟨back', d, chars⟩
    · obtain rfl : '*' = c := by simpa [none] using last
      decide
    · rw [chars, ← List.append_assoc, ← List.append_assoc, List.getLast?_concat] at last trimmed
      exact trimmed.2 c last

/-- A condition that is one glob has it as its only piece. -/
theorem commaPieces_single {condition : String} (single : Single condition)
    (nonempty : condition ≠ "") : commaPieces condition = [condition] := by
  have alone : commaPieces (joinWith "," [condition]) = trimmedTexts [condition] :=
    commaPieces_joinWith fun name member => List.mem_singleton.1 member ▸ single.free
  rw [joinWith] at alone
  simp [alone, trimmedTexts, single.trimmed, nonempty]

/-- A condition that is one glob is evaluated as it. -/
theorem evaluate_single {condition : String} (single : Single condition) (nonempty : condition ≠ "")
    (e : Evidence) : namePatternRules.evaluate condition e =
      .ok ((Glob.ofPattern condition).accepts e.name) := by
  simp [namePatternRules, conditionGlobs, commaPieces_single single nonempty, Except.map]

/-- A condition of one glob accepts the names that the glob matches. -/
theorem evaluate_single_eq_true_iff {condition : String} (single : Single condition)
    (e : Evidence) : namePatternRules.evaluate condition e = .ok true ↔
      condition ≠ "" ∧ Glob.Matches condition.toList e.name.toList := by
  by_cases nonempty : condition = ""
  · subst nonempty
    simp only [ne_eq, not_true_eq_false, false_and, iff_false]
    exact nofun
  · rw [evaluate_single single nonempty, Except.ok.injEq, Glob.accepts_iff]
    simp only [ne_eq, nonempty, not_false_eq_true, true_and]

/-- A star is one glob. -/
theorem single_star : Single "*" := ⟨by decide, by decide⟩

/-- `*` matches the names on one line. -/
theorem matches_star_iff {name : List Char} : Glob.Matches ['*'] name ↔ '\n' ∉ name := by
  constructor
  · rintro ⟨run, rest, rfl, free, rfl⟩
    rwa [List.append_nil]
  · intro free
    exact ⟨name, [], (List.append_nil name).symm, free, rfl⟩

/-! ## Conditions made wider -/

/-- **A condition made wider** accepts a name that it accepted if and only if the part that gave way
to `*` has no line feed. -/
theorem evaluate_widened {front cut back : String} {e : Evidence}
    (single : Single (front ++ cut ++ back))
    (accepted : namePatternRules.evaluate (front ++ cut ++ back) e = .ok true) :
    namePatternRules.evaluate (front ++ "*" ++ back) e = .ok (decide ('\n' ∉ cut.toList)) := by
  have star : "*".toList = ['*'] := rfl
  have matched := ((evaluate_single_eq_true_iff single e).1 accepted).2
  rw [String.toList_append, String.toList_append] at matched
  have nonempty : front ++ "*" ++ back ≠ "" := by
    intro empty
    simpa [star] using congrArg String.toList empty
  rw [evaluate_single single.widened nonempty, Except.ok.injEq, Bool.eq_iff_iff, Glob.accepts_iff,
    decide_eq_true_iff, String.toList_append, String.toList_append, star, List.append_assoc,
    List.singleton_append]
  exact Glob.matches_widened_iff matched

/-- The condition `*` accepts the names on one line. -/
theorem evaluate_star (e : Evidence) :
    namePatternRules.evaluate "*" e = .ok (decide ('\n' ∉ e.name.toList)) := by
  rw [evaluate_single single_star (by decide), Except.ok.injEq, Bool.eq_iff_iff, Glob.accepts_iff,
    decide_eq_true_iff]
  exact matches_star_iff

namespace Hook

variable {registry : Registry} {h : Hook} {e : Evidence}

/-- A hook for everything fires for what has its name on one line. -/
theorem fires_star_iff (enabled : h.enabled = true) (registered : h.module ∈ registry.names)
    (star : h.condition = "*") : Fires registry namePatternRules e h ↔ '\n' ∉ e.name.toList := by
  have evaluated : namePatternRules.evaluate h.condition e = .ok true ↔ '\n' ∉ e.name.toList := by
    rw [star, evaluate_star, Except.ok.injEq, decide_eq_true_iff]
  exact ⟨fun fires => evaluated.1 fires.accepts,
    fun free => ⟨enabled, registered, evaluated.2 free⟩⟩

/-- Among the hooks that an item fires when it is registered is a hook for everything if and only if
the name of the item is on one line. -/
theorem mem_fired_star_iff {d : Dispatcher} {s s' : Store} {jobs : List Job}
    (rules : d.rules = namePatternRules) (made : d.registry.Made) (ready : s.Ready)
    (reached : Reached s.hooks) (held : HookRow.ofHook h ∈ s.hooks.rows)
    (enabled : h.enabled = true) (registered : h.module ∈ d.registry.names)
    (star : h.condition = "*") (run : d.registerEvidence e s = (.ok jobs, s')) :
    ∃ hooks s₁, s₁.hooks = s.hooks ∧ s₁.jobs = s.jobs ∧
      FiresExactly d.token d.registry d.rules e s₁ hooks jobs s' ∧
      (h ∈ hooks ↔ '\n' ∉ e.name.toList) := by
  obtain ⟨s₁, ready₁, sameHooks, sameJobs, fired⟩ := Dispatcher.fired_of_registerEvidence ready run
  have sound : Sound s₁.hooks := sameHooks ▸ reached.sound
  obtain ⟨hooks, jobs', s'', run', exact⟩ :=
    sound.onEvidenceAdded ready₁ made.wellNamed d.token d.rules e
  obtain ⟨same, rfl⟩ := Prod.mk.inj (run'.symm.trans fired)
  obtain rfl := Except.ok.inj same
  refine ⟨hooks, s₁, sameHooks, sameJobs, exact, ?_⟩
  rw [exact.each, sameHooks, rules, fires_star_iff enabled registered star]
  exact and_iff_right held

end Hook

/-- **What a wider glob matches.**  A name that a condition of one glob accepts it still accepts
with `*` for a part of it if and only if that part has no line feed.  The condition `*` accepts the
names on one line, and a hook with this condition fires for the items that are registered under such
a name. -/
theorem widening_keeps_match_iff (e : Evidence) :
    (∀ front cut back : String, Single (front ++ cut ++ back) →
      namePatternRules.evaluate (front ++ cut ++ back) e = .ok true →
      namePatternRules.evaluate (front ++ "*" ++ back) e = .ok (decide ('\n' ∉ cut.toList))) ∧
    namePatternRules.evaluate "*" e = .ok (decide ('\n' ∉ e.name.toList)) ∧
    ∀ (d : Dispatcher) (s s' : Store) (h : Hook) (jobs : List Job),
      d.rules = namePatternRules → d.registry.Made → s.Ready → Hook.Reached s.hooks →
      HookRow.ofHook h ∈ s.hooks.rows → h.enabled = true → h.module ∈ d.registry.names →
      h.condition = "*" → d.registerEvidence e s = (.ok jobs, s') →
      ∃ hooks s₁, s₁.hooks = s.hooks ∧ s₁.jobs = s.jobs ∧
        Hook.FiresExactly d.token d.registry d.rules e s₁ hooks jobs s' ∧
        (h ∈ hooks ↔ '\n' ∉ e.name.toList) :=
  ⟨fun _ _ _ single accepted => evaluate_widened single accepted, evaluate_star e,
    fun _ _ _ _ _ rules made ready reached held enabled registered star run =>
      Hook.mem_fired_star_iff rules made ready reached held enabled registered star run⟩

/-- An item of the name. -/
def itemNamed (name : String) : Evidence := ⟨"item", "case", "file", name, "", "", 0, "", .epoch⟩

/-- A hook for everything. -/
def everything : Hook := ⟨"hook", .onEvidenceAdded, "everything", "Hayabusa", "*", true⟩

/-- A part without a line feed gives way to `*`, and a name without one fires a hook for
everything. -/
theorem widening_keeps_match_iff_extension :
    let item := itemNamed "SECURITY.EVTX"
    let d : Dispatcher := { token := "server", registry := Registry.catalog }
    let s := (Store.saveHook everything
      (Store.saveCase ⟨"case", "Case One", 0⟩ { supply := .counting }).2).2
    (Single "Security.evtx" ∧ namePatternRules.evaluate "Security.evtx" item = .ok true ∧
      namePatternRules.evaluate "Security.*" item = .ok true) ∧
    ∃ jobs s', d.registerEvidence item s = (.ok jobs, s') ∧
      ∃ hooks s₁, Hook.FiresExactly d.token d.registry d.rules item s₁ hooks jobs s' ∧
        everything ∈ hooks := by
  intro item d s
  have single : Single "Security.evtx" := ⟨by decide, by decide⟩
  have accepted : namePatternRules.evaluate "Security.evtx" item = .ok true := by decide +kernel
  have ready : s.Ready := ((Store.ready_empty Supply.fresh_counting).saveCase _).saveHook everything
  have reached : Hook.Reached s.hooks := .save .empty everything
  obtain ⟨wider, -, fires⟩ := widening_keeps_match_iff item
  refine ⟨⟨single, accepted, wider "Security." "evtx" "" single accepted⟩, ?_⟩
  have run : d.registerEvidence item s = (.ok [⟨"j", "case", "item", "Hayabusa", .scheduled, "",
      "server", "", .epoch, .epoch⟩], (d.registerEvidence item s).2) :=
    Prod.ext (by decide +kernel) rfl
  obtain ⟨hooks, s₁, -, -, exact, everyone⟩ := fires d s _ everything _ rfl
    Registry.made_catalog ready reached (List.mem_singleton_self _) rfl (by decide +kernel) rfl run
  exact ⟨_, _, run, hooks, s₁, exact, everyone.2 (by decide)⟩

/-- A part with a line feed does not: neither the wider glob nor `*` matches the name. -/
theorem widening_loses_match :
    Single "a\nb" ∧ namePatternRules.evaluate "a\nb" (itemNamed "a\nb") = .ok true ∧
    namePatternRules.evaluate "a*b" (itemNamed "a\nb") = .ok false ∧
    namePatternRules.evaluate "*" (itemNamed "a\nb") = .ok false := by
  refine ⟨⟨by decide, by decide⟩, ?_, ?_, ?_⟩ <;> decide +kernel

end Casework
