/-
# Pieces of a text

A text is cut at a separator into pieces that have none (`sep_not_mem_splitChars`), and pieces that
have none are got back from a text in which each stands behind a separator
(`splitChars_joinChars`).  A text that is put together from two around a separator has the pieces
of both (`splitChars_append`).

Trimming leaves a text as it is if and only if it has no blank at its ends (`trimChars_eq_iff`).  So
a list that was joined at commas is read back trimmed, and without what was blank
(`commaPieces_joinWith`).
-/

import Casework.Text.Blank

namespace Casework
namespace Text

variable {sep : Char}

/-- Pieces of a text, each behind a separator of its own. -/
def joinChars (sep : Char) (pieces : List (List Char)) : List Char := pieces.flatMap (sep :: ·)

@[simp] theorem joinChars_nil : joinChars sep [] = [] := rfl

@[simp] theorem joinChars_cons (p : List Char) (ps : List (List Char)) :
    joinChars sep (p :: ps) = sep :: (p ++ joinChars sep ps) := rfl

/-- What is in the whole is the separator or in a piece. -/
theorem mem_joinChars {c : Char} {pieces : List (List Char)} (h : c ∈ joinChars sep pieces) :
    c = sep ∨ ∃ p ∈ pieces, c ∈ p := by
  obtain ⟨p, member, h⟩ := List.mem_flatMap.1 h
  exact (List.mem_cons.1 h).imp_right fun own => ⟨p, member, own⟩

/-- There is always a piece. -/
theorem splitChars_ne_nil (sep : Char) (cs : List Char) : splitChars sep cs ≠ [] := by
  cases cs with
  | nil => simp [splitChars]
  | cons c cs =>
    rw [splitChars]
    split
    · simp
    · split <;> simp

/-- Pieces that are joined again give the text. -/
theorem joinChars_splitChars (sep : Char) (cs : List Char) :
    joinChars sep (splitChars sep cs) = sep :: cs := by
  induction cs with
  | nil => rfl
  | cons c cs ih =>
    rw [splitChars]
    split
    next same => rw [joinChars_cons, ih, same, List.nil_append]
    next =>
      cases pieces : splitChars sep cs with
      | nil => exact absurd pieces (splitChars_ne_nil sep cs)
      | cons p ps =>
        rw [pieces, joinChars_cons] at ih
        rw [joinChars_cons, List.cons_append, List.tail_eq_of_cons_eq ih]

/-- No piece has the separator in it. -/
theorem sep_not_mem_splitChars {cs p : List Char} (h : p ∈ splitChars sep cs) : sep ∉ p := by
  induction cs generalizing p with
  | nil =>
    obtain rfl := List.mem_singleton.1 h
    exact List.not_mem_nil
  | cons c cs ih =>
    rw [splitChars] at h
    split at h
    next =>
      obtain rfl | h := List.mem_cons.1 h
      · exact List.not_mem_nil
      · exact ih h
    next other =>
      cases pieces : splitChars sep cs with
      | nil => exact absurd pieces (splitChars_ne_nil sep cs)
      | cons q qs =>
        rw [pieces] at h ih
        obtain rfl | h := List.mem_cons.1 h
        · rw [List.mem_cons, not_or]
          exact ⟨Ne.symm other, ih List.mem_cons_self⟩
        · exact ih (List.mem_cons_of_mem q h)

/-- Pieces are parts of the text. -/
theorem sublist_of_mem_splitChars {cs p : List Char} (h : p ∈ splitChars sep cs) :
    p.Sublist cs := by
  induction cs generalizing p with
  | nil =>
    obtain rfl := List.mem_singleton.1 h
    exact List.Sublist.slnil
  | cons c cs ih =>
    rw [splitChars] at h
    split at h
    next =>
      obtain rfl | h := List.mem_cons.1 h
      · exact List.nil_sublist _
      · exact (ih h).cons c
    next =>
      obtain ⟨q, qs, pieces⟩ := List.exists_cons_of_ne_nil (splitChars_ne_nil sep cs)
      rw [pieces] at h ih
      obtain rfl | h := List.mem_cons.1 h
      · exact (ih List.mem_cons_self).cons_cons c
      · exact (ih (List.mem_cons_of_mem q h)).cons c

/-- A text without the separator is one piece. -/
theorem splitChars_of_not_mem {p : List Char} (free : sep ∉ p) : splitChars sep p = [p] := by
  induction p with
  | nil => rfl
  | cons c p ih =>
    simp only [List.mem_cons, not_or] at free
    rw [splitChars, if_neg (Ne.symm free.1), ih free.2]

/-- A separator ends the pieces before it. -/
theorem splitChars_append (cs ds : List Char) :
    splitChars sep (cs ++ sep :: ds) = splitChars sep cs ++ splitChars sep ds := by
  induction cs with
  | nil => simp [splitChars]
  | cons c cs ih =>
    rw [List.cons_append, splitChars, splitChars, ih]
    split
    next => rw [List.cons_append]
    next =>
      obtain ⟨p, ps, pieces⟩ := List.exists_cons_of_ne_nil (splitChars_ne_nil sep cs)
      rw [pieces]
      rfl

/-- The first separator ends the first piece. -/
theorem splitChars_append_sep {p : List Char} (free : sep ∉ p) (cs : List Char) :
    splitChars sep (p ++ sep :: cs) = p :: splitChars sep cs := by
  rw [splitChars_append, splitChars_of_not_mem free, List.singleton_append]

/-- **Pieces without the separator** come back from what they are joined to. -/
theorem splitChars_joinChars {p : List Char} {ps : List (List Char)}
    (free : ∀ q ∈ p :: ps, sep ∉ q) : splitChars sep (p ++ joinChars sep ps) = p :: ps := by
  induction ps generalizing p with
  | nil => rw [joinChars_nil, List.append_nil, splitChars_of_not_mem (free p List.mem_cons_self)]
  | cons q qs ih =>
    rw [joinChars_cons, splitChars_append_sep (free p List.mem_cons_self),
      ih fun r hr => free r (List.mem_cons_of_mem p hr)]

/-- Pieces without the separator are told apart by the text that they are joined to. -/
theorem joinChars_injective {ps qs : List (List Char)} (free : ∀ p ∈ ps, sep ∉ p)
    (free' : ∀ q ∈ qs, sep ∉ q) (same : joinChars sep ps = joinChars sep qs) : ps = qs := by
  cases ps with
  | nil =>
    cases qs with
    | nil => rfl
    | cons q qs => simp at same
  | cons p ps =>
    cases qs with
    | nil => simp at same
    | cons q qs =>
      rw [joinChars_cons, joinChars_cons, List.cons.injEq] at same
      rw [← splitChars_joinChars free, same.2, splitChars_joinChars free']

/-- Pieces are joined one after the other. -/
theorem joinChars_append (ps qs : List (List Char)) :
    joinChars sep (ps ++ qs) = joinChars sep ps ++ joinChars sep qs := List.flatMap_append

/-- **The pieces of a text** have no separator and stand between two, if one more is put at each end
of the text. -/
theorem mem_splitChars_iff {cs p : List Char} : p ∈ splitChars sep cs ↔
    sep ∉ p ∧ ∃ front back, sep :: (cs ++ [sep]) = front ++ sep :: (p ++ sep :: back) := by
  constructor
  · intro member
    refine ⟨sep_not_mem_splitChars member, ?_⟩
    obtain ⟨ps, qs, pieces⟩ := List.append_of_mem member
    have whole := joinChars_splitChars sep cs
    rw [pieces, joinChars_append, joinChars_cons] at whole
    obtain ⟨back, closed⟩ : ∃ back, joinChars sep qs ++ [sep] = sep :: back := by
      cases qs with
      | nil => exact ⟨[], rfl⟩
      | cons q qs => exact ⟨q ++ joinChars sep qs ++ [sep], rfl⟩
    refine ⟨joinChars sep ps, back, ?_⟩
    rw [← List.cons_append, ← whole, ← closed]
    simp
  · rintro ⟨free, front, back, split⟩
    have pieces := congrArg (splitChars sep) split
    rw [splitChars_append, splitChars_append_sep free, ← List.nil_append (sep :: (cs ++ [sep])),
      splitChars_append, splitChars_append] at pieces
    -- the pieces that the added separators make are the first and the last
    obtain ⟨q, qs, first⟩ := List.exists_cons_of_ne_nil (splitChars_ne_nil sep front)
    obtain ⟨rs, r, last⟩ := (List.eq_nil_or_concat (splitChars sep back)).resolve_left
      (splitChars_ne_nil sep back)
    rw [first, last, splitChars, List.singleton_append, List.cons_append, List.cons.injEq] at pieces
    have inner : splitChars sep cs ++ [[]] = (qs ++ p :: rs) ++ [r] := by
      rw [pieces.2, List.concat_eq_append, List.append_assoc, List.cons_append]
    rw [(List.append_inj' inner rfl).1]
    exact List.mem_append_right qs List.mem_cons_self

/-! ## Trimming -/

/-- A list is mapped to itself if each of its members is. -/
theorem map_eq_self_iff {α : Type} {f : α → α} {xs : List α} :
    xs.map f = xs ↔ ∀ x ∈ xs, f x = x := by
  have pointwise : xs.map f = xs.map id ↔ ∀ x ∈ xs, f x = id x := List.map_inj_left
  rwa [List.map_id] at pointwise

/-- Nothing is dropped from a list if its first member stays. -/
theorem dropWhile_eq_iff {α : Type} {p : α → Bool} {xs : List α} :
    xs.dropWhile p = xs ↔ ∀ x ∈ xs.head?, p x = false := by
  cases xs with
  | nil => simp
  | cons x xs =>
    cases h : p x with
    | false => simp [h]
    | true =>
      have shorter := (List.dropWhile_sublist p (l := xs)).length_le
      simp only [List.dropWhile_cons_of_pos h, List.head?_cons, Option.mem_some, forall_eq',
        h, Bool.true_eq_false, iff_false]
      intro same
      rw [same] at shorter
      exact absurd shorter (by simp)

/-- To trim the end leaves characters out and moves none. -/
theorem trimEnd_sublist (cs : List Char) : (trimEnd cs).Sublist cs := by
  have reversed := (List.dropWhile_sublist isBlank (l := cs.reverse)).reverse
  rwa [List.reverse_reverse] at reversed

/-- To trim both ends leaves characters out and moves none. -/
theorem trimChars_sublist (cs : List Char) : (trimChars cs).Sublist cs :=
  (trimEnd_sublist _).trans (List.dropWhile_sublist isBlank)

/-- Nothing is dropped at the two ends if and only if neither begins with what is dropped. -/
theorem dropWhile_ends_eq_iff {α : Type} {p : α → Bool} {xs : List α} :
    ((xs.dropWhile p).reverse.dropWhile p).reverse = xs ↔
      (∀ x ∈ xs.head?, p x = false) ∧ ∀ x ∈ xs.getLast?, p x = false := by
  have at_end : (xs.reverse.dropWhile p).reverse = xs ↔ ∀ x ∈ xs.getLast?, p x = false := by
    rw [List.reverse_eq_iff, dropWhile_eq_iff, List.head?_reverse]
  constructor
  · intro same
    have start : xs.dropWhile p = xs := by
      refine (List.dropWhile_sublist p).eq_of_length_le ?_
      calc xs.length = ((xs.dropWhile p).reverse.dropWhile p).length := by
            rw [← congrArg List.length same, List.length_reverse]
        _ ≤ (xs.dropWhile p).reverse.length := (List.dropWhile_sublist p).length_le
        _ = (xs.dropWhile p).length := List.length_reverse
    rw [start] at same
    exact ⟨dropWhile_eq_iff.1 start, at_end.1 same⟩
  · rintro ⟨at_front, at_back⟩
    rw [dropWhile_eq_iff.2 at_front, at_end.2 at_back]

/-- **Trimming leaves a text as it is** if and only if neither of its ends is blank. -/
theorem trimChars_eq_iff {cs : List Char} : trimChars cs = cs ↔
    (∀ c ∈ cs.head?, isBlank c = false) ∧ ∀ c ∈ cs.getLast?, isBlank c = false :=
  dropWhile_ends_eq_iff

/-- What is dropped holds, and what is left does not begin with what holds. -/
theorem dropWhile_eq_iff_exists {α : Type} {p : α → Bool} {xs ys : List α} :
    xs.dropWhile p = ys ↔
      ∃ front, xs = front ++ ys ∧ (∀ x ∈ front, p x = true) ∧ ∀ x ∈ ys.head?, p x = false := by
  constructor
  · rintro rfl
    refine ⟨xs.takeWhile p, List.takeWhile_append_dropWhile.symm,
      fun x member => List.all_eq_true.1 List.all_takeWhile x member, fun x first => ?_⟩
    have stops := List.head?_dropWhile_not p xs
    rwa [first] at stops
  · rintro ⟨front, rfl, dropped, stops⟩
    rw [List.dropWhile_append_of_pos dropped, dropWhile_eq_iff.2 stops]

/-- What is trimmed off the end are blanks, and none is left there. -/
theorem trimEnd_eq_iff_exists {cs core : List Char} : trimEnd cs = core ↔
    ∃ back, cs = core ++ back ∧ (∀ c ∈ back, isBlank c = true) ∧
      ∀ c ∈ core.getLast?, isBlank c = false := by
  rw [trimEnd, List.reverse_eq_iff, dropWhile_eq_iff_exists, List.head?_reverse]
  constructor
  · rintro ⟨front, split, blank, stops⟩
    refine ⟨front.reverse, ?_, fun c member => blank c (List.mem_reverse.1 member), stops⟩
    rw [List.reverse_eq_iff.1 split, List.reverse_append, List.reverse_reverse]
  · rintro ⟨back, rfl, blank, stops⟩
    exact ⟨back.reverse, List.reverse_append, fun c member => blank c (List.mem_reverse.1 member),
      stops⟩

/-- **What trimming leaves** of a text has blanks alone around it, and none at its ends. -/
theorem trimChars_eq_iff_exists {cs core : List Char} : trimChars cs = core ↔
    ∃ before after, cs = before ++ core ++ after ∧ (∀ c ∈ before ++ after, isBlank c = true) ∧
      (∀ c ∈ core.head?, isBlank c = false) ∧ ∀ c ∈ core.getLast?, isBlank c = false := by
  constructor
  · intro trimmed
    obtain ⟨after, core_after, blank_after, at_back⟩ := trimEnd_eq_iff_exists.1 trimmed
    obtain ⟨before, whole, blank_before, at_front⟩ := dropWhile_eq_iff_exists.1 core_after
    refine ⟨before, after, by rw [whole, List.append_assoc],
      List.forall_mem_append.2 ⟨blank_before, blank_after⟩, fun c first => at_front c ?_, at_back⟩
    rw [Option.mem_def] at first
    rw [List.head?_append, first, Option.some_or, Option.mem_some_iff]
  · rintro ⟨before, after, rfl, blank, at_front, at_back⟩
    have blanks := List.forall_mem_append.1 blank
    cases core with
    | nil =>
      have start : trimStart (before ++ [] ++ after) = [] :=
        dropWhile_eq_iff_exists.2 ⟨before ++ after, by simp, blank, at_front⟩
      rw [trimChars, start]
      rfl
    | cons c core =>
      have start : trimStart (before ++ c :: core ++ after) = c :: core ++ after :=
        dropWhile_eq_iff_exists.2 ⟨before, List.append_assoc .., blanks.1, at_front⟩
      rw [trimChars, start]
      exact trimEnd_eq_iff_exists.2 ⟨after, rfl, blanks.2, at_back⟩

/-- Nothing is left of a text if and only if it is blank. -/
theorem trimChars_eq_nil_iff {cs : List Char} :
    trimChars cs = [] ↔ ∀ c ∈ cs, isBlank c = true := by
  rw [trimChars_eq_iff_exists]
  constructor
  · rintro ⟨before, after, rfl, blank, -, -⟩
    rwa [List.append_nil]
  · intro blank
    exact ⟨cs, [], by simp, by rwa [List.append_nil], nofun, nofun⟩

/-! ## Lists at commas -/

/-- Texts are joined with one character as their lists are. -/
theorem toList_joinWith {sep : String} {c : Char} (single : sep.toList = [c]) (s : String)
    (ss : List String) :
    (joinWith sep (s :: ss)).toList = s.toList ++ joinChars c (ss.map String.toList) := by
  induction ss generalizing s with
  | nil => simp [joinWith]
  | cons t ss ih =>
    rw [joinWith, String.toList_append, String.toList_append, ih, single, List.map_cons,
      joinChars_cons]
    simp

/-- The texts without the blanks at their ends, and without those that are all blank. -/
def trimmedTexts (names : List String) : List String := (names.map trim).filter (· ≠ "")

/-- Names are trimmed as their characters are, and empty ones left out. -/
theorem filterMap_trimChars (names : List String) :
    (((names.map String.toList).map trimChars).filterMap fun p =>
      if p.isEmpty then none else some (String.ofList p)) = trimmedTexts names := by
  rw [trimmedTexts, List.map_map, List.filterMap_map, ← List.filterMap_eq_filter,
    List.filterMap_map]
  congr 1
  funext name
  have blank : trim name = "" ↔ trimChars name.toList = [] := by
    rw [← String.toList_inj, trim, String.toList_ofList, String.toList_empty]
  by_cases empty : trimChars name.toList = []
  · simp [Option.guard, empty, blank]
  · simp [Option.guard, empty, trim]

/-- **What is read of a list that was joined at commas.** -/
theorem commaPieces_joinWith {names : List String} (free : ∀ name ∈ names, ',' ∉ name.toList) :
    commaPieces (joinWith "," names) = trimmedTexts names := by
  cases names with
  | nil => rfl
  | cons name rest =>
    have comma : ",".toList = [','] := rfl
    have pieces : splitChars ',' (joinWith "," (name :: rest)).toList =
        (name :: rest).map String.toList := by
      rw [toList_joinWith comma, splitChars_joinChars, List.map_cons]
      intro q member
      obtain ⟨name', member', rfl⟩ := List.mem_map.1 (List.map_cons ▸ member)
      exact free name' member'
    rw [commaPieces, pieces, filterMap_trimChars]

end Text
end Casework
