/-
# Extensions of names

The extension of an item is read off the last component of its name.  In front of that component
there is nothing or a separator, and behind it only what counts for nothing, separators and points
that stand alone (`LastComponent`); no other component is like that
(`getLast?_pathComponents_iff`).

| last component | extension |
| --- | --- |
| there is none, or it is `..` | none |
| it has no point, or its only one in front | none |
| it has another point | what follows the last one, in small letters |

A tool module goes by the extension alone (`capability_by_extension`).  So it does not matter to it
how the extension is spelt in capitals and small letters, nor what stands before the last point, as
long as something does and it stays one component.
-/

import Mathlib.Data.List.TakeWhile
import Casework.Module.Tool
import Casework.Proofs.Catalog.FileName

namespace Casework

open Text ToolModule

variable {path part part' before before' after after' cs ds : List Char} {e e' : Evidence}

/-- A list is cut at the last place where a member stands. -/
theorem exists_last_split {c : Char} (among : c ∈ cs) :
    ∃ front back, cs = front ++ c :: back ∧ c ∉ back := by
  obtain ⟨back, front, reversed, free⟩ := List.eq_append_cons_of_mem (List.mem_reverse.2 among)
  refine ⟨front.reverse, back.reverse, ?_, mt List.mem_reverse.1 free⟩
  rw [← List.reverse_reverse cs, reversed, List.reverse_append, List.reverse_cons,
    List.append_assoc, List.singleton_append]

/-! ## The last component of a path -/

/-- What may follow the last component of a path: separators, and points that stand alone. -/
inductive Trail : List Char → Prop
  | nil : Trail []
  | slash {cs : List Char} : Trail cs → Trail ('/' :: cs)
  | point {cs : List Char} : Trail cs → Trail ('/' :: '.' :: cs)

/-- The part of a path is its last component: something other than a point alone, with nothing or a
separator in front of it and only a trail behind it. -/
structure LastComponent (path part : List Char) : Prop where
  some_char : part ≠ []
  not_point : part ≠ ['.']
  free : '/' ∉ part
  stands : ∃ front trail, path = front ++ part ++ trail ∧
    (front = [] ∨ front.getLast? = some '/') ∧ Trail trail

/-- One trail after another is a trail. -/
theorem Trail.append (h : Trail cs) (h' : Trail ds) : Trail (cs ++ ds) := by
  induction h with
  | nil => exact h'
  | slash _ ih => exact .slash ih
  | point _ ih => exact .point ih

/-- A trail adds no component. -/
theorem Trail.pathComponents_eq (h : Trail ds) (cs : List Char) :
    pathComponents (cs ++ ds) = pathComponents cs := by
  induction h generalizing cs with
  | nil => rw [List.append_nil]
  | @slash ds _ ih =>
    have nothing : pathComponents ds = [] := ih []
    rw [pathComponents_append, nothing, List.append_nil]
  | @point ds _ ih =>
    have nothing : pathComponents ('.' :: ds) = [] := ih ['.']
    rw [pathComponents_append, nothing, List.append_nil]

/-- A text that is no component of itself has none, and is a trail behind a separator. -/
theorem trail_of_idle (idle : cs = [] ∨ cs = ['.']) :
    pathComponents cs = [] ∧ Trail ('/' :: cs) := by
  rcases idle with rfl | rfl
  · exact ⟨rfl, .slash .nil⟩
  · exact ⟨rfl, .point .nil⟩

/-- The last component is the last that the path is split into. -/
theorem LastComponent.getLast? (last : LastComponent path part) :
    (pathComponents path).getLast? = some part := by
  obtain ⟨some_char, not_point, free, front, trail, rfl, start, trails⟩ := last
  have own := pathComponents_of_plain free some_char not_point
  rw [trails.pathComponents_eq]
  rcases start with rfl | slash
  · rw [List.nil_append, own, List.getLast?_singleton]
  · obtain ⟨directory, rfl⟩ := List.getLast?_eq_some_iff.1 slash
    rw [List.append_assoc, List.singleton_append, pathComponents_append, own, List.getLast?_concat]

/-- What the path is split into last is its last component. -/
theorem lastComponent_of_getLast? (last : (pathComponents path).getLast? = some part) :
    LastComponent path part := by
  -- the path is cut at its last separator; if what follows counts for nothing, it joins the trail
  induction size : path.length using Nat.strongRecOn generalizing path with
  | _ n ih =>
    by_cases slash : '/' ∈ path
    · obtain ⟨front, back, rfl, free⟩ := exists_last_split slash
      rw [pathComponents_append] at last
      by_cases idle : back = [] ∨ back = ['.']
      · obtain ⟨nothing, trail⟩ := trail_of_idle idle
        rw [nothing, List.append_nil] at last
        have shorter : front.length < n := by
          rw [← size, List.length_append, List.length_cons]
          omega
        obtain ⟨some_char, not_point, plain, start, rest, rfl, begins, trails⟩ :=
          ih _ shorter last rfl
        exact ⟨some_char, not_point, plain, start, rest ++ '/' :: back, by simp, begins,
          trails.append trail⟩
      · rw [not_or] at idle
        rw [pathComponents_of_plain free idle.1 idle.2, List.getLast?_concat] at last
        obtain rfl := Option.some.inj last
        exact ⟨idle.1, idle.2, free, front ++ ['/'], [], by simp, .inr (by simp), .nil⟩
    · by_cases idle : path = [] ∨ path = ['.']
      · rw [(trail_of_idle idle).1] at last
        cases last
      · rw [not_or] at idle
        rw [pathComponents_of_plain slash idle.1 idle.2, List.getLast?_singleton] at last
        obtain rfl := Option.some.inj last
        exact ⟨idle.1, idle.2, slash, [], [], by simp, .inl rfl, .nil⟩

/-- **The component that comes last** is the one that only a trail follows. -/
theorem getLast?_pathComponents_iff :
    (pathComponents path).getLast? = some part ↔ LastComponent path part :=
  ⟨lastComponent_of_getLast?, LastComponent.getLast?⟩

/-- A path has one last component. -/
theorem LastComponent.unique (last : LastComponent path part) (last' : LastComponent path part') :
    part = part' :=
  Option.some.inj (last.getLast?.symm.trans last'.getLast?)

/-- The file name is the last component, unless that leads up. -/
theorem fileName?_eq_some_iff :
    fileName? path = some part ↔ LastComponent path part ∧ part ≠ ['.', '.'] := by
  rw [← getLast?_pathComponents_iff, fileName?]
  cases last : (pathComponents path).getLast? with
  | none => simp
  | some found =>
    by_cases up : found = ['.', '.']
    · simp only [up, if_true, Option.some.injEq, reduceCtorEq, false_iff, not_and, not_not]
      exact fun same => same.symm
    · simp only [up, if_false, Option.some.injEq, iff_self_and]
      rintro rfl
      exact up

/-! ## The extension -/

/-- A name without a point has no extension, nor has one whose only point leads it. -/
theorem extensionOf_of_free (free : '.' ∉ cs) : extensionOf cs = none ∧
    extensionOf ('.' :: cs) = none := by
  have pass : ∀ c ∈ cs.reverse, decide (c ≠ '.') = true := fun c among =>
    decide_eq_true fun point => free (point ▸ List.mem_reverse.1 among)
  have whole : cs.reverse.takeWhile (· ≠ '.') = cs.reverse := List.takeWhile_eq_self_iff.2 pass
  have hidden : ('.' :: cs).reverse.takeWhile (· ≠ '.') = cs.reverse := by
    rw [List.reverse_cons, List.takeWhile_append_of_pos pass]
    simp
  constructor
  · rw [extensionOf, whole]
    simp
  · rw [extensionOf, hidden]
    simp

/-- **The extension of a file name** is what follows its last point, if something stands before
that point. -/
theorem extensionOf_eq_some_iff : extensionOf part = some after ↔
    ∃ before, before ≠ [] ∧ '.' ∉ after ∧ part = before ++ '.' :: after := by
  constructor
  · intro found
    by_cases point : '.' ∈ part
    · obtain ⟨before, behind, rfl, free⟩ := exists_last_split point
      rcases before with _ | ⟨c, before⟩
      · rw [List.nil_append, (extensionOf_of_free free).2] at found
        cases found
      · rw [extensionOf_append (List.cons_ne_nil c before) free] at found
        obtain rfl := Option.some.inj found
        exact ⟨_, List.cons_ne_nil c before, free, rfl⟩
    · rw [(extensionOf_of_free point).1] at found
      cases found
  · rintro ⟨before, some_char, free, rfl⟩
    exact extensionOf_append some_char free

/-- **An item has an extension** if its last component has a point that is not its first character,
and the extension is what follows the last of them, in lower case. -/
theorem Evidence.extension?_eq_some_iff {ext : String} : e.extension? = some ext ↔
    ∃ part before after, LastComponent e.name.toList part ∧ part ≠ ['.', '.'] ∧
      part = before ++ '.' :: after ∧ before ≠ [] ∧ '.' ∉ after ∧
      ext = String.ofList (after.map Char.toLower) := by
  simp only [Evidence.extension?, Option.map_eq_some_iff, Option.bind_eq_some_iff,
    fileName?_eq_some_iff, extensionOf_eq_some_iff]
  constructor
  · rintro ⟨after, ⟨part, ⟨last, not_up⟩, before, some_char, free, cut⟩, rfl⟩
    exact ⟨part, before, after, last, not_up, cut, some_char, free, rfl⟩
  · rintro ⟨part, before, after, last, not_up, cut, some_char, free, rfl⟩
    exact ⟨after, ⟨part, ⟨last, not_up⟩, before, some_char, free, cut⟩, rfl⟩

/-- A component has an extension unless it leads up, has no point, or has its only one in front. -/
theorem exists_cut_iff :
    (∃ before after, part = before ++ '.' :: after ∧ before ≠ [] ∧ '.' ∉ after) ↔
      '.' ∈ part ∧ ¬∃ rest, part = '.' :: rest ∧ '.' ∉ rest := by
  constructor
  · rintro ⟨_ | ⟨c, before⟩, after, rfl, some_char, free⟩
    · exact absurd rfl some_char
    · refine ⟨by simp, ?_⟩
      rintro ⟨rest, same, none⟩
      obtain ⟨rfl, rfl⟩ := List.cons.inj same
      exact none (by simp)
  · rintro ⟨point, front⟩
    obtain ⟨_ | ⟨c, before⟩, after, rfl, free⟩ := exists_last_split point
    · exact absurd ⟨after, rfl, free⟩ front
    · exact ⟨_, after, rfl, List.cons_ne_nil c before, free⟩

/-- **An item has none** if its last component has no point, or none but its first character, or is
the parent directory. -/
theorem Evidence.extension?_eq_none_iff : e.extension? = none ↔
    ∀ part, LastComponent e.name.toList part →
      part = ['.', '.'] ∨ '.' ∉ part ∨ ∃ rest, part = '.' :: rest ∧ '.' ∉ rest := by
  rw [Option.eq_none_iff_forall_ne_some]
  constructor
  · intro none part last
    refine Classical.byContradiction fun other => ?_
    simp only [not_or, Classical.not_not] at other
    obtain ⟨before, after, cut, some_char, free⟩ := exists_cut_iff.2 other.2
    exact none _ (Evidence.extension?_eq_some_iff.2
      ⟨part, before, after, last, other.1, cut, some_char, free, rfl⟩)
  · intro none ext found
    obtain ⟨part, before, after, last, not_up, cut, some_char, free, -⟩ :=
      Evidence.extension?_eq_some_iff.1 found
    obtain ⟨point, not_front⟩ := exists_cut_iff.1 ⟨before, after, cut, some_char, free⟩
    rcases none part last with up | no_point | front
    · exact not_up up
    · exact no_point point
    · exact not_front front

/-! ## What a module applies to -/

/-- A tool applies to an item if the extension of the item is one of its own. -/
theorem ToolModule.supports_iff {m : ToolModule} : m.supports e = true ↔
    ∃ ext ∈ extensions m.kind, e.extension? = some ext := by
  rw [supports]
  cases e.extension? <;> simp

/-- No module is for the empty extension. -/
theorem empty_not_mem_extensions (kind : ToolKind) : "" ∉ extensions kind := by
  cases kind <;> simp [extensions]

/-- What follows the last point decides, also where the component leads up. -/
theorem supports_of_lastComponent (m : ToolModule)
    (last : LastComponent e.name.toList (before ++ '.' :: after)) (some_char : before ≠ [])
    (free : '.' ∉ after) : m.supports e = true ↔
      String.ofList (after.map Char.toLower) ∈ extensions m.kind := by
  rw [ToolModule.supports_iff]
  have cut := extensionOf_append some_char free
  constructor
  · rintro ⟨ext, known, found⟩
    obtain ⟨part, before', after', last', -, rfl, some_char', free', rfl⟩ :=
      Evidence.extension?_eq_some_iff.1 found
    rw [last.unique last', extensionOf_append some_char' free'] at cut
    rwa [← Option.some.inj cut]
  · intro known
    refine ⟨_, known, Evidence.extension?_eq_some_iff.2
      ⟨_, before, after, last, fun up => ?_, rfl, some_char, free, rfl⟩⟩
    -- `..` has nothing behind its last point, and no module is for that
    rw [up] at cut
    obtain rfl : [] = after := Option.some.inj cut
    exact empty_not_mem_extensions m.kind known

/-- The small letter of a capital letter is no point. -/
theorem point_of_toLower {c : Char} (small : c.toLower = '.') : c = '.' := by
  unfold Char.toLower at small
  split at small
  · next capital =>
    obtain ⟨from_A, to_Z⟩ := capital
    have shifted : c.val + ('a'.val - 'A'.val) = '.'.val := congrArg Char.val small
    grind
  · exact small

/-- Lower case neither makes nor removes a point. -/
theorem point_not_mem_of_toLower (free : '.' ∉ after)
    (same : after'.map Char.toLower = after.map Char.toLower) : '.' ∉ after' := by
  intro point
  have among : '.' ∈ after.map Char.toLower := same ▸ List.mem_map.2 ⟨'.', point, rfl⟩
  obtain ⟨c, among, small⟩ := List.mem_map.1 among
  exact free (point_of_toLower small ▸ among)

/-- **The extension decides what a module applies to.** It is read off the last component of the
name, whatever the name is: what follows its last point, in small letters, if something stands
before that point; and there is none if there is no last component, if that is `..`, if it has no
point, or if its only point is in front. A tool module applies to an item by its extension alone:
two items have the same modules if the last components of their names have the same text behind the
last point, up to capital and small letters, and have something before it, whatever that is. -/
theorem capability_by_extension (e : Evidence) :
    (∀ ext, e.extension? = some ext ↔
      ∃ part before after, LastComponent e.name.toList part ∧ part ≠ ['.', '.'] ∧
        part = before ++ '.' :: after ∧ before ≠ [] ∧ '.' ∉ after ∧
        ext = String.ofList (after.map Char.toLower)) ∧
    (e.extension? = none ↔ ∀ part, LastComponent e.name.toList part →
      part = ['.', '.'] ∨ '.' ∉ part ∨ ∃ rest, part = '.' :: rest ∧ '.' ∉ rest) ∧
    ∀ (m : ToolModule) (e' : Evidence),
      (m.supports e = true ↔ ∃ ext ∈ extensions m.kind, e.extension? = some ext) ∧
      (e'.extension? = e.extension? → m.supports e' = m.supports e) ∧
      ∀ before after before' after', LastComponent e.name.toList (before ++ '.' :: after) →
        LastComponent e'.name.toList (before' ++ '.' :: after') → before ≠ [] → before' ≠ [] →
        '.' ∉ after → after'.map Char.toLower = after.map Char.toLower →
        m.supports e' = m.supports e := by
  refine ⟨fun _ => Evidence.extension?_eq_some_iff, Evidence.extension?_eq_none_iff,
    fun m e' => ⟨ToolModule.supports_iff, fun same => ?_, ?_⟩⟩
  · rw [supports, supports, same]
  · intro before after before' after' last last' some_char some_char' free same
    have free' := point_not_mem_of_toLower free same
    rw [Bool.eq_iff_iff, supports_of_lastComponent m last some_char free,
      supports_of_lastComponent m last' some_char' free', same]

/-- A log of a name. -/
def logNamed (name : String) : Evidence := ⟨"E1", "C1", "Logs", name, "DC01", "", 0, "", .epoch⟩

/-- The built-in module for event logs. -/
def eventLogs : ToolModule := ⟨"Hayabusa", hayabusaText, .hayabusa, none, none, "."⟩

/-- An event log in capitals, in a directory and with a trail behind it, and one with more points:
the same module applies to both. -/
theorem capability_by_extension_respelt : eventLogs ∈ builtin {} "." ∧
    LastComponent "dumps/Security.EVTX/./".toList "Security.EVTX".toList ∧
    LastComponent "System.old.evtx".toList "System.old.evtx".toList ∧
    eventLogs.supports (logNamed "System.old.evtx") =
      eventLogs.supports (logNamed "dumps/Security.EVTX/./") ∧
    (logNamed "dumps/..").extension? = none := by
  have capitals : LastComponent "dumps/Security.EVTX/./".toList "Security.EVTX".toList :=
    ⟨by decide, by decide, by decide, "dumps/".toList, ['/', '.', '/'], by decide, .inr (by decide),
      .point (.slash .nil)⟩
  have points : LastComponent "System.old.evtx".toList "System.old.evtx".toList :=
    ⟨by decide, by decide, by decide, [], [], by decide, .inl rfl, .nil⟩
  have up : LastComponent "dumps/..".toList ['.', '.'] :=
    ⟨by decide, by decide, by decide, "dumps/".toList, [], by decide, .inr (by decide), .nil⟩
  refine ⟨by simp [builtin, eventLogs], capitals, points, ?_, ?_⟩
  · exact ((capability_by_extension (logNamed "dumps/Security.EVTX/./")).2.2 eventLogs
      (logNamed "System.old.evtx")).2.2 "Security".toList "EVTX".toList "System.old".toList
      "evtx".toList capitals points (by decide) (by decide) (by decide) (by decide)
  · exact (capability_by_extension (logNamed "dumps/..")).2.1.2 fun part last =>
      .inl (last.unique up)

end Casework
