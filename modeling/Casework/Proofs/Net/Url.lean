/-
# What becomes of a path in a web address

The path behind a plain authority is read in this order:

| step | what it does |
| --- | --- |
| `path` | tabs and line breaks are dropped, and all from the first `?` or `#` on |
| `splitSlashes` | it is cut at slashes of either kind |
| `follow` | pieces that stand for `.` and `..` are followed, the others percent-encoded |

(`parse?_of_plain`).  What comes out is empty or one of the pieces, percent-encoded (`mem_follow`),
and if no piece stands for `.` or `..` it is all of them (`follow_of_names`).  The request's path is
then these segments, each behind a slash (`path_target`).
-/

import Mathlib.Data.List.TakeWhile
import Casework.Net.Url
import Casework.Http.Message
import Casework.Proofs.Text.Percent
import Casework.Proofs.Text.Pieces

namespace Casework
namespace Net
namespace Url

open Text

variable {a : String} {cs : List Char} {gone : List String} {pieces : List (List Char)}

/-! ## Reading an address -/

/-- Host and perhaps port, without a user's name. -/
structure PlainAuthority (a : String) : Prop where
  visible (c : Char) : c ∈ a.toList → 0x20 < c.toNat ∧ c ∉ ['/', '\\', '?', '#', '@']
  host : (hostPort? false a.toList).isSome

/-- The part of a route that names the path. -/
def pathPart (cs : List Char) : List Char :=
  (cs.filter fun c => !isBreak c).takeWhile fun c => !endsPath c

/-- An address without margins loses only its tabs and line breaks. -/
theorem essential_eq (first : ∀ c ∈ cs.head?, isMargin c = false)
    (last : ∀ c ∈ cs.getLast?, isMargin c = false) :
    essential cs = cs.filter fun c => !isBreak c := by
  have back : cs.reverse.dropWhile isMargin = cs.reverse := by
    rw [dropWhile_eq_iff, List.head?_reverse]
    exact last
  rw [essential, dropWhile_eq_iff.2 first, back, List.reverse_reverse]

/-- A plain authority is not empty. -/
theorem PlainAuthority.ne_nil (plain : PlainAuthority a) : a.toList ≠ [] := by
  intro empty
  have host := plain.host
  rw [empty] at host
  cases host

/-- **An address with a plain authority** is read as its host, and the segments of its path. -/
theorem parse?_of_plain (plain : PlainAuthority a) {route : List Char}
    (last : ∀ c ∈ ('/' :: route).getLast?, isMargin c = false) :
    ∃ host query?, parse? (String.ofList ("http://".toList ++ (a.toList ++ '/' :: route))) =
      some ⟨false, host, segments (pathPart ('/' :: route)), query?⟩ := by
  obtain ⟨host, known⟩ := Option.isSome_iff_exists.1 plain.host
  have visible := plain.visible
  have ne_nil := plain.ne_nil
  generalize a.toList = authority at visible ne_nil known
  -- no part of the address is dropped but breaks of the route
  have counts : essential ("http://".toList ++ (authority ++ '/' :: route)) =
      "http://".toList ++ (authority ++ '/' :: route.filter fun c => !isBreak c) := by
    have at_end : ("http://".toList ++ (authority ++ '/' :: route)).getLast? =
        ('/' :: route).getLast? := by
      rw [List.getLast?_append_of_ne_nil _ (by simp), List.getLast?_append_of_ne_nil _ (by simp)]
    have whole : authority.filter (fun c => !isBreak c) = authority := by
      rw [List.filter_eq_self]
      intro c member
      have code := (visible c member).1
      simp only [Bool.not_eq_true', isBreak, Bool.or_eq_false_iff, beq_eq_false_iff_ne]
      refine ⟨⟨?_, ?_⟩, ?_⟩ <;> rintro rfl <;> exact absurd code (by decide)
    rw [essential_eq (by simp; decide) (at_end ▸ last), List.filter_append, List.filter_append,
      whole]
    rfl
  have slashes (cs : List Char) :
      ('/' :: '/' :: (authority ++ cs)).dropWhile isSlash = authority ++ cs := by
    obtain ⟨c, rest, rfl⟩ := List.exists_cons_of_ne_nil ne_nil
    have other := (visible c List.mem_cons_self).2
    simp only [List.mem_cons, List.not_mem_nil, or_false, not_or] at other
    rw [List.dropWhile_cons_of_pos (by decide), List.dropWhile_cons_of_pos (by decide),
      List.cons_append, List.dropWhile_cons_of_neg]
    simp [isSlash, other]
  have host_part (cs : List Char) :
      (authority ++ '/' :: cs).takeWhile (fun c => !endsAuthority c) = authority := by
    rw [List.takeWhile_append_of_pos, List.takeWhile_cons_of_neg (by decide), List.append_nil]
    intro c member
    have other := (visible c member).2
    simp only [List.mem_cons, List.not_mem_nil, or_false, not_or] at other
    simp [endsAuthority, isSlash, other]
  have no_user : afterUser authority = authority := by
    rw [afterUser, List.takeWhile_eq_self_iff.2, List.reverse_reverse]
    intro c member
    have other := (visible c (List.mem_reverse.1 member)).2
    simp only [List.mem_cons, List.not_mem_nil, or_false, not_or] at other
    simp [other]
  have scheme (cs : List Char) :
      ("http://".toList ++ cs).takeWhile (· != ':') = "http".toList := rfl
  have behind (cs : List Char) :
      ("http://".toList ++ cs).drop "http".toList.length = ':' :: '/' :: '/' :: cs := rfl
  have insecure : isSecure? "http".toList = some false := by decide
  unfold parse?
  rw [String.toList_ofList, counts]
  dsimp only
  rw [scheme, behind, insecure]
  dsimp only
  rw [slashes, host_part, no_user, known, List.drop_left]
  exact ⟨host, _, rfl⟩

/-! ## Segments -/

/-- A backslash counts as a slash. -/
def straight (c : Char) : Char := if c = '\\' then '/' else c

/-- Slashes of both kinds part an address. -/
theorem splitSlashes_eq (cs : List Char) : splitSlashes cs = splitChars '/' (cs.map straight) := by
  induction cs with
  | nil => rfl
  | cons c cs ih =>
    rw [splitSlashes, ih, List.map_cons, splitChars]
    by_cases back : c = '\\'
    · simp [isSlash, straight, back]
    · by_cases slash : c = '/'
      · simp [isSlash, straight, slash]
      · cases splitChars '/' (cs.map straight) <;> simp [isSlash, straight, back, slash]

/-- Pieces have no slash, and are part of the text. -/
theorem mem_splitSlashes {piece : List Char} (h : piece ∈ splitSlashes cs) :
    piece.Sublist cs ∧ '/' ∉ piece ∧ '\\' ∉ piece := by
  rw [splitSlashes_eq] at h
  have free := sep_not_mem_splitChars h
  obtain ⟨own, part, rfl⟩ := List.sublist_map_iff.1 (sublist_of_mem_splitChars h)
  have same : own.map straight = own := by
    refine map_eq_self_iff.2 fun c member => ?_
    have kept : straight c ≠ '/' := fun slash => free (slash ▸ List.mem_map_of_mem member)
    unfold straight at kept ⊢
    split <;> simp_all
  have no_back : '\\' ∉ own.map straight := by
    intro back
    obtain ⟨c, -, turned⟩ := List.mem_map.1 back
    unfold straight at turned
    split at turned
    · cases turned
    · next other => exact other turned
  rw [same] at free no_back ⊢
  exact ⟨part, free, no_back⟩

/-- A slash ends a piece. -/
theorem splitSlashes_append (cs ds : List Char) :
    splitSlashes (cs ++ '/' :: ds) = splitSlashes cs ++ splitSlashes ds := by
  rw [splitSlashes_eq, splitSlashes_eq, splitSlashes_eq, List.map_append, List.map_cons]
  exact splitChars_append _ _

/-- Without a slash there is one piece. -/
theorem splitSlashes_of_free (slash : '/' ∉ cs) (back : '\\' ∉ cs) : splitSlashes cs = [cs] := by
  have same : cs.map straight = cs := by
    refine map_eq_self_iff.2 fun c member => if_neg ?_
    rintro rfl
    exact back member
  rw [splitSlashes_eq, same, splitChars_of_not_mem slash]

/-- A segment, percent-encoded. -/
def encodeSegment (piece : List Char) : String := percentEncode isPathPlain (String.ofList piece)

/-- A segment has no slash, and nothing that ends a path. -/
theorem not_mem_encodeSegment {piece : List Char} (free : '/' ∉ piece) :
    '/' ∉ (encodeSegment piece).toList ∧ '?' ∉ (encodeSegment piece).toList ∧
      '#' ∉ (encodeSegment piece).toList := by
  have digits : ∀ n < 16, upperHexDigit n ∉ ['/', '?', '#'] := by decide
  have apart {c : Char} (special : c ∈ ['/', '?', '#'])
      (out : isPathPlain c = true → c ∉ piece) : c ∉ (encodeSegment piece).toList := by
    intro member
    rcases mem_percentEncode member with ⟨kept, own⟩ | rfl | ⟨n, small, rfl⟩
    · exact out kept (by simpa using own)
    · simp at special
    · exact digits n small special
  exact ⟨apart (by simp) fun _ => free, apart (by simp) fun kept => absurd kept (by decide),
    apart (by simp) fun kept => absurd kept (by decide)⟩

/-- **A segment** is one of those gone so far, is empty, or is a piece. -/
theorem mem_follow {segment : String} (h : segment ∈ follow gone pieces) :
    segment ∈ gone ∨ segment = "" ∨ ∃ piece ∈ pieces, segment = encodeSegment piece := by
  induction pieces generalizing gone with
  | nil => exact .inl h
  | cons piece pieces ih =>
    rw [follow] at h
    have more : (∃ p ∈ pieces, segment = encodeSegment p) →
        ∃ p ∈ piece :: pieces, segment = encodeSegment p :=
      fun ⟨p, member, same⟩ => ⟨p, List.mem_cons_of_mem piece member, same⟩
    have own : segment = encodeSegment piece →
        ∃ p ∈ piece :: pieces, segment = encodeSegment p :=
      fun same => ⟨piece, List.mem_cons_self, same⟩
    rcases ih h with before | empty | other
    · split at before
      · split at before
        · rcases List.mem_append.1 before with old | empty
          · exact .inl old
          · exact .inr (.inl (List.mem_singleton.1 empty))
        · exact .inl before
      · split at before
        · rcases List.mem_append.1 before with old | empty
          · exact .inl (List.dropLast_subset _ old)
          · exact .inr (.inl (List.mem_singleton.1 empty))
        · exact .inl (List.dropLast_subset _ before)
      · rcases List.mem_append.1 before with old | new
        · exact .inl old
        · exact .inr (.inr (own (List.mem_singleton.1 new)))
    · exact .inr (.inl empty)
    · exact .inr (.inr (more other))

/-- Some pieces lead to some segments. -/
theorem follow_ne_nil (some_piece : pieces ≠ []) : follow gone pieces ≠ [] := by
  induction pieces generalizing gone with
  | nil => exact absurd rfl some_piece
  | cons piece pieces ih =>
    cases pieces with
    | nil =>
      rw [follow, follow]
      split <;> simp
    | cons q qs =>
      rw [follow]
      exact ih (List.cons_ne_nil q qs)

/-- Pieces that do not stand for `.` or `..` are the segments. -/
theorem follow_of_names (names : ∀ piece ∈ pieces, dots? piece ≠ some 1 ∧ dots? piece ≠ some 2) :
    follow gone pieces = gone ++ pieces.map encodeSegment := by
  induction pieces generalizing gone with
  | nil => simp [follow]
  | cons piece pieces ih =>
    obtain ⟨⟨not_dot, not_up⟩, rest⟩ := List.forall_mem_cons.1 names
    rw [follow]
    split
    · next dot => exact absurd dot not_dot
    · next up => exact absurd up not_up
    · rw [ih rest, List.map_cons, List.append_assoc]
      rfl

/-- Without escapes, only points stand for `.` and `..`. -/
theorem eq_replicate_of_dots? {n : ℕ} (free : hasEscape cs = false) (h : dots? cs = some n) :
    cs = List.replicate n '.' := by
  fun_induction dots? cs generalizing n with
  | case1 =>
    obtain rfl := Option.some.inj h
    rfl
  | case2 cs ih =>
    obtain ⟨k, points, rfl⟩ := Option.map_eq_some_iff.1 h
    simp only [hasEscape, Bool.or_eq_false_iff] at free
    rw [ih free.2 points, List.replicate_succ]
  | case3 cs ih =>
    have pair : startsWithHexPair ('2' :: 'e' :: cs) = true := rfl
    simp [hasEscape, pair] at free
  | case4 cs ih =>
    have pair : startsWithHexPair ('2' :: 'E' :: cs) = true := rfl
    simp [hasEscape, pair] at free
  | case5 => cases h

/-- The path of a request is the segments of its address. -/
theorem path_target {u : Url} {r : Http.Request} (target : r.target = u.target)
    (some_segment : u.path ≠ [])
    (free : ∀ segment ∈ u.path, '?' ∉ segment.toList ∧ '#' ∉ segment.toList) :
    r.path = joinChars '/' (u.path.map String.toList) := by
  obtain ⟨segment, rest, path⟩ := List.exists_cons_of_ne_nil some_segment
  have slash : "/".toList = ['/'] := rfl
  have front : "/".toList ++ (joinWith "/" u.path).toList =
      joinChars '/' (u.path.map String.toList) := by
    rw [path, toList_joinWith slash]
    rfl
  have plain : ∀ c ∈ joinChars '/' (u.path.map String.toList), c ≠ '?' ∧ c ≠ '#' := by
    intro c member
    rcases mem_joinChars member with rfl | ⟨_, piece, own⟩
    · decide
    · obtain ⟨segment, among, rfl⟩ := List.mem_map.1 piece
      exact ⟨fun same => (free segment among).1 (same ▸ own),
        fun same => (free segment among).2 (same ▸ own)⟩
  -- a query stands behind its question mark
  obtain ⟨query, targets, ends⟩ : ∃ query,
      r.target.toList = joinChars '/' (u.path.map String.toList) ++ query ∧
        (query = [] ∨ ∃ q, query = '?' :: q) := by
    refine ⟨(u.query?.elim "" ("?" ++ ·)).toList, ?_, ?_⟩
    · rw [target, Url.target, String.toList_append, String.toList_append, front]
    · cases u.query? with
      | none => exact .inl rfl
      | some q => exact .inr ⟨q.toList, by simp⟩
  have begins : ∃ cs, joinChars '/' (u.path.map String.toList) = '/' :: cs := by
    rw [path]
    exact ⟨_, rfl⟩
  obtain ⟨cs, begins⟩ := begins
  rw [begins] at targets plain ⊢
  have origin (rest : List Char) :
      Http.Request.dropOrigin ('/' :: cs ++ rest) = '/' :: cs ++ rest := rfl
  have nothing : (query.takeWhile (· ≠ '#')).takeWhile (· ≠ '?') = [] := by
    rcases ends with rfl | ⟨q, rfl⟩
    · rfl
    · rw [List.takeWhile_cons_of_pos (by decide), List.takeWhile_cons_of_neg (by decide)]
  rw [Http.Request.path, Http.Request.targetChars, targets,
    List.takeWhile_append_of_pos fun c member => by simpa using (plain c member).2, origin,
    List.takeWhile_append_of_pos fun c member => by simpa using (plain c member).1, nothing,
    List.append_nil]

end Url
end Net
end Casework
