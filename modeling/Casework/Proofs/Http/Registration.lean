/-
# The way of an artifact to its case

A worker that registers an artifact writes the case's name into the path as it is, between
`/api/cases/` and `/evidences`.  On the way to the server the path is read twice:

| in the name | what reading the address does | what the server does |
| --- | --- | --- |
| tab, line feed, carriage return | drops it | |
| `?`, `#` | ends the path | |
| backslash | takes it for a slash | |
| `%` and two hexadecimal digits | follows it if it stands for `.` or `..` | decodes it |
| what a path may not have | percent-encodes it | decodes it |

All but the last line change the name.  So the request reaches the case if and only if its name has
nothing of the first four lines (`registration_reaches_iff`), and a name of which the file system
knows nothing special can be one that is never reached (`question_mark_lost`).

That nothing else is taken for the case is a matter of size: what the server reads has at most as
many bytes as the piece of the path that it reads it from, fewer if there is an escape in it, and
the piece is a part of the name.
-/

import Casework.Http.Router
import Casework.Worker.Client
import Casework.Proofs.Catalog.FileName
import Casework.Proofs.Http.Routing
import Casework.Proofs.Job.Message
import Casework.Proofs.Net.Url

namespace Casework

open Text Net

/-- The characters that are not left in a path as they are, nor encoded. -/
def pathBreakers : List Char := ['?', '#', '\\', '\t', '\n', '\r']

/-- A name that arrives as it was when it is written into a path. -/
def Verbatim (name : String) : Prop :=
  (∀ c ∈ name.toList, c ∉ pathBreakers) ∧ hasEscape name.toList = false

instance (name : String) : Decidable (Verbatim name) :=
  @instDecidableAnd _ _ (List.decidableBAll (· ∉ pathBreakers) name.toList) inferInstance

/-- The request is one that registers evidence under the case. -/
def Http.Request.Reaches (r : Http.Request) (caseId : String) : Prop :=
  ∃ cid, Http.Route.ofPath? r.path = some (.registerEvidence cid) ∧
    Http.Route.parameter? cid = some caseId

variable {a : String} {k : ℕ} {key? : Option String} {e : Evidence} {name : String}

/-- All characters of an escape may stand in a path. -/
theorem keepsEscapes_isPathPlain : KeepsEscapes Url.isPathPlain where
  ascii c kept := by
    simp only [Url.isPathPlain, Bool.and_eq_true, decide_eq_true_eq] at kept
    omega
  percent := by decide
  digits c v digit := by
    have bounds : 0x30 ≤ c.toNat ∧ c.toNat ≤ 0x39 ∨ 0x61 ≤ c.toNat ∧ c.toNat ≤ 0x66 ∨
        0x41 ≤ c.toNat ∧ c.toNat ≤ 0x46 := by
      unfold hexValue? at digit
      split at digit
      · next inside => exact .inl inside
      · split at digit
        · next inside => exact .inr (.inl inside)
        · split at digit
          · next inside => exact .inr (.inr inside)
          · cases digit
    have other : c ∉ ['"', '#', '<', '>', '?', '^', '`', '\x7b', '\x7d'] := by
      intro special
      simp only [List.mem_cons, List.not_mem_nil, or_false] at special
      rcases special with rfl | rfl | rfl | rfl | rfl | rfl | rfl | rfl | rfl <;>
        exact absurd bounds (by decide)
    simp only [Url.isPathPlain, Bool.and_eq_true, decide_eq_true_eq, Bool.not_eq_true',
      List.contains_eq_mem, decide_eq_false_iff_not]
    exact ⟨by omega, other⟩

/-! ## The address -/

/-- The path that a case's name is written into. -/
def casePath (name : String) : List Char :=
  '/' :: ("api/cases/".toList ++ (name.toList ++ "/evidences".toList))

/-- The address of a server, with slashes at its end. -/
def serverAddress (a : String) (k : ℕ) : String :=
  "http://" ++ a ++ String.ofList (List.replicate k '/')

/-- The slashes at the end of an address are dropped. -/
theorem baseUrl_ofAddress (plain : Url.PlainAuthority a) :
    (Client.ofAddress (serverAddress a k) key?).baseUrl = "http://" ++ a := by
  have no_slash : ∀ c ∈ ("http://" ++ a).toList.reverse.head?, (c == '/') = false := by
    intro c last
    rw [List.head?_reverse, String.toList_append, List.getLast?_append_of_ne_nil _ plain.ne_nil]
      at last
    have visible := (plain.visible c (List.mem_of_mem_getLast? last)).2
    simp only [List.mem_cons, not_or] at visible
    exact beq_eq_false_iff_ne.2 visible.1
  have stripped (k : ℕ) (cs : List Char) :
      (List.replicate k '/' ++ cs).dropWhile (· == '/') = cs.dropWhile (· == '/') := by
    induction k with
    | zero => rfl
    | succ k ih => rw [List.replicate_succ, List.cons_append, List.dropWhile_cons_of_pos rfl, ih]
  rw [Client.ofAddress, serverAddress, String.toList_append, String.toList_ofList,
    List.reverse_append, List.reverse_replicate, stripped, dropWhile_eq_iff.2 no_slash,
    List.reverse_reverse, String.ofList_toList]

/-- The key stands in the one header that is for it. -/
theorem Client.named_of_keyHeader? {client : Client} {headers : List (String × String)}
    (keyed : client.keyHeader? = some headers) : ∀ h ∈ headers, h.1 = "x-api-key" := by
  unfold Client.keyHeader? at keyed
  split at keyed
  · obtain rfl := Option.some.inj keyed
    exact List.forall_mem_nil _
  · obtain ⟨value, -, rfl⟩ := Option.map_eq_some_iff.1 keyed
    exact List.forall_mem_singleton.2 rfl

/-- **The request** that registers an artifact. -/
theorem evidenceRequest?_eq (plain : Url.PlainAuthority a)
    (sendable : ∀ key ∈ key?, (Client.headerValue? key).isSome) :
    ∃ (u : Url) (headers : List (String × String)) (r : Http.Request),
      (Client.ofAddress (serverAddress a k) key?).evidenceRequest? e = some r ∧
      r.method = "POST" ∧ r.target = u.target ∧ r.body = Wire.render e ∧
      r.headers = headers ++ [("accept", "*/*"), ("content-type", "application/json")] ∧
      (∀ h ∈ headers, h.1 = "x-api-key") ∧
      u.path = Url.segments (Url.pathPart (casePath e.caseId)) := by
  have ends : ∀ c ∈ (casePath e.caseId).getLast?, Url.isMargin c = false := by
    have last : (casePath e.caseId).getLast? = some 's' := by
      rw [casePath, List.getLast?_cons_of_ne_nil, List.getLast?_append_of_ne_nil,
        List.getLast?_append_of_ne_nil] <;> simp
    rw [last]
    simp
    decide
  obtain ⟨host, query?, parsed⟩ := Url.parse?_of_plain plain ends
  have text : (Client.ofAddress (serverAddress a k) key?).baseUrl ++
      ("/api/cases/" ++ e.caseId ++ "/evidences") =
        String.ofList ("http://".toList ++ (a.toList ++ casePath e.caseId)) := by
    rw [baseUrl_ofAddress plain, ← String.toList_inj]
    simp [casePath]
  obtain ⟨headers, key⟩ : ∃ headers,
      (Client.ofAddress (serverAddress a k) key?).keyHeader? = some headers := by
    cases key? with
    | none => exact ⟨[], rfl⟩
    | some key =>
      obtain ⟨value, sent⟩ := Option.isSome_iff_exists.1 (sendable key rfl)
      exact ⟨[("x-api-key", value)], congrArg (Option.map _) sent⟩
  rw [Client.evidenceRequest?, Client.jsonRequest?, Client.request?, text, casePath, parsed, key]
  exact ⟨_, headers, _, rfl, rfl, rfl, rfl, rfl, Client.named_of_keyHeader? key, rfl⟩

/-! ## The pieces of the path -/

/-- The pieces that the path is cut into. -/
def casePieces (name : String) : List (List Char) :=
  Url.splitSlashes (("api/cases/".toList ++ (name.toList ++ "/evidences".toList)).filter
    (fun c => !Url.isBreak c) |>.takeWhile fun c => !Url.endsPath c)

/-- The segments of the path are its pieces, with the steps up and down followed. -/
theorem segments_casePath (name : String) :
    Url.segments (Url.pathPart (casePath name)) = Url.follow [] (casePieces name) := by
  rw [casePath, Url.pathPart, List.filter_cons_of_pos (by decide),
    List.takeWhile_cons_of_pos (by decide)]
  rfl

/-- The name without tabs and line breaks. -/
def unbroken (name : String) : List Char := name.toList.filter fun c => !Url.isBreak c

/-- The first two pieces are those of the route, and the name with what follows makes the others. -/
theorem casePieces_eq (name : String) : casePieces name = "api".toList :: "cases".toList ::
    Url.splitSlashes
      ((unbroken name ++ "/evidences".toList).takeWhile fun c => !Url.endsPath c) := by
  have front : ("api/cases/".toList.filter fun c => !Url.isBreak c) = "api/cases/".toList := by
    decide
  have back : ("/evidences".toList.filter fun c => !Url.isBreak c) = "/evidences".toList := by
    decide
  have open_end : ∀ c ∈ "api/cases/".toList, (!Url.endsPath c) = true :=
    List.all_eq_true.1 (by decide)
  have pieces (cs : List Char) : Url.splitSlashes ("api/cases/".toList ++ cs) =
      "api".toList :: "cases".toList :: Url.splitSlashes cs := rfl
  rw [casePieces, List.filter_append, List.filter_append, front, back,
    List.takeWhile_append_of_pos open_end, pieces]
  rfl

/-- **A piece** is one of those around the name, or a part of the name without what breaks paths. -/
theorem mem_casePieces {piece : List Char} (h : piece ∈ casePieces name) :
    piece ∈ ["api".toList, "cases".toList, "evidences".toList] ∨
      piece.Sublist name.toList ∧ ∀ c ∈ piece, c ∉ pathBreakers := by
  -- what is left of the name is in front of the first `?` or `#`
  have own {piece : List Char}
      (h : piece ∈ Url.splitSlashes ((unbroken name).takeWhile fun c => !Url.endsPath c)) :
      piece.Sublist name.toList ∧ ∀ c ∈ piece, c ∉ pathBreakers := by
    obtain ⟨part, -, no_back⟩ := Url.mem_splitSlashes h
    refine ⟨part.trans ((List.takeWhile_sublist _).trans List.filter_sublist), ?_⟩
    intro c member
    have inside := List.mem_takeWhile_imp (part.subset member)
    have kept := (List.mem_filter.1 ((List.takeWhile_sublist _).subset (part.subset member))).2
    have not_back : c ≠ '\\' := fun same => no_back (same ▸ member)
    simp only [Url.endsPath, Url.isBreak, Bool.not_eq_true', Bool.or_eq_false_iff,
      beq_eq_false_iff_ne] at inside kept
    simp [pathBreakers, inside, kept, not_back]
  rw [casePieces_eq, List.mem_cons, List.mem_cons, List.takeWhile_append] at h
  rcases h with rfl | rfl | h
  · simp
  · simp
  · split at h
    · next whole =>
      have same := (List.takeWhile_sublist fun c => !Url.endsPath c).eq_of_length whole
      have last : ("/evidences".toList.takeWhile fun c => !Url.endsPath c) =
          '/' :: "evidences".toList := by decide
      rw [last, Url.splitSlashes_append, List.mem_append] at h
      rcases h with h | h
      · exact .inr (own (same.symm ▸ h))
      · exact .inl (List.mem_cons_of_mem _ (List.mem_cons_of_mem _ h))
    · exact .inr (own h)

/-- The pieces of the path of a name that arrives as it was. -/
theorem casePieces_of_verbatim (plain : isPlainFileName name = true) (verbatim : Verbatim name) :
    casePieces name = ["api".toList, "cases".toList, name.toList, "evidences".toList] := by
  have other : ∀ c ∈ name.toList, c ∉ pathBreakers := verbatim.1
  simp only [pathBreakers, List.mem_cons, List.not_mem_nil, or_false, not_or] at other
  have whole : unbroken name = name.toList := by
    rw [unbroken, List.filter_eq_self]
    intro c member
    simp [Url.isBreak, other c member]
  have open_end : ∀ c ∈ name.toList, (!Url.endsPath c) = true := by
    intro c member
    simp [Url.endsPath, other c member]
  have last : ("/evidences".toList.takeWhile fun c => !Url.endsPath c) =
      '/' :: "evidences".toList := by decide
  have alone : Url.splitSlashes name.toList = [name.toList] :=
    Url.splitSlashes_of_free (isPlainFileName_iff.1 plain).2.1
      fun member => (other _ member).2.2.1 rfl
  rw [casePieces_eq, whole, List.takeWhile_append_of_pos open_end, last, Url.splitSlashes_append,
    alone]
  rfl

/-! ## What the server reads -/

/-- Segments of the path have no slash, and nothing that ends a path. -/
theorem segment_free {segment : String} (h : segment ∈ Url.follow [] (casePieces name)) :
    '/' ∉ segment.toList ∧ '?' ∉ segment.toList ∧ '#' ∉ segment.toList := by
  rcases Url.mem_follow h with old | rfl | ⟨piece, member, rfl⟩
  · cases old
  · simp
  · exact Url.not_mem_encodeSegment (Url.mem_splitSlashes member).2.1

/-- A request reaches a case if its path has the segments of one, and the third is the case's
name. -/
theorem reaches_iff {u : Url} {r : Http.Request} {caseId : String} (target : r.target = u.target)
    (path : u.path = Url.follow [] (casePieces name)) : r.Reaches caseId ↔
      ∃ segment, u.path = ["api", "cases", segment, "evidences"] ∧ segment ≠ "" ∧
        Http.Route.parameter? segment.toList = some caseId := by
  have free (segment : String) (member : segment ∈ u.path) := segment_free (path ▸ member)
  have some_segment : u.path ≠ [] := by
    rw [path]
    exact Url.follow_ne_nil (by rw [casePieces_eq]; exact List.cons_ne_nil _ _)
  have written : r.path = joinChars '/' (u.path.map String.toList) :=
    Url.path_target target some_segment fun segment member => (free segment member).2
  have slash_free : ∀ piece ∈ u.path.map String.toList, '/' ∉ piece := by
    intro piece member
    obtain ⟨segment, among, rfl⟩ := List.mem_map.1 member
    exact (free segment among).1
  constructor
  · rintro ⟨cid, routed, read⟩
    obtain ⟨same, whole⟩ := Http.Route.ofPath?_eq_some_iff.1 routed
    have parts := joinChars_injective slash_free
      (fun q member => (Http.Route.parts_whole whole member).2) (written.symm.trans same)
    have names := Http.Route.map_ofList_eq_iff.2 parts.symm
    refine ⟨String.ofList cid, names.symm, ?_, by rwa [String.toList_ofList]⟩
    rw [Ne, ← String.toList_inj, String.toList_ofList]
    exact (whole cid List.mem_cons_self).1
  · rintro ⟨segment, names, some_char, read⟩
    refine ⟨segment.toList, Http.Route.ofPath?_eq_some_iff.2 ⟨?_, ?_⟩, read⟩
    · rw [written, names]
      rfl
    · intro p member
      obtain rfl := List.mem_singleton.1 member
      exact ⟨fun empty => some_char (String.toList_inj.1 empty), (free segment (by simp [names])).1⟩

/-- What the server reads from an encoded piece. -/
theorem parameter?_encodeSegment (piece : List Char) :
    Http.Route.parameter? (Url.encodeSegment piece).toList =
      decode? (percentDecode (encodedBytes Url.isPathPlain piece)) := rfl

/-- A piece without escapes is read as it was. -/
theorem parameter?_of_free (free : hasEscape name.toList = false) :
    Http.Route.parameter? (Url.encodeSegment name.toList).toList = some name := by
  rw [parameter?_encodeSegment, percentDecode_percentEncode keepsEscapes_isPathPlain free,
    decode?_eq_some_iff]
  rfl

/-- **What is read as the name was the name,** and without escapes: nothing that is read from a part
of it has as many bytes. -/
theorem eq_of_parameter? {piece : List Char} (part : piece.Sublist name.toList)
    (read : Http.Route.parameter? (Url.encodeSegment piece).toList = some name) :
    piece = name.toList ∧ hasEscape piece = false := by
  rw [parameter?_encodeSegment, decode?_eq_some_iff] at read
  have shorter := length_percentDecode keepsEscapes_isPathPlain piece
  have bytes := encodeChars_sublist part
  rw [read, utf8Bytes] at shorter
  have no_escape : hasEscape piece = false := by
    cases escape : hasEscape piece with
    | false => rfl
    | true =>
      have longer := bytes.length_le
      rw [escape, if_pos rfl] at shorter
      omega
  refine ⟨encodeChars_injective (bytes.eq_of_length_le ?_), no_escape⟩
  rw [no_escape] at shorter
  simpa using shorter

/-- A name that arrives as it was reaches its case. -/
theorem reaches_of_verbatim {u : Url} {r : Http.Request} (target : r.target = u.target)
    (path : u.path = Url.follow [] (casePieces name)) (plain : isPlainFileName name = true)
    (verbatim : Verbatim name) : r.Reaches name := by
  obtain ⟨some_char, -, not_dot, not_up⟩ := isPlainFileName_iff.1 plain
  have names : ∀ piece ∈ casePieces name,
      Url.dots? piece ≠ some 1 ∧ Url.dots? piece ≠ some 2 := by
    have fixed : ∀ piece ∈ ["api".toList, "cases".toList, "evidences".toList],
        Url.dots? piece ≠ some 1 ∧ Url.dots? piece ≠ some 2 := by decide
    have own : Url.dots? name.toList ≠ some 1 ∧ Url.dots? name.toList ≠ some 2 :=
      ⟨fun dot => not_dot (String.toList_inj.1 (Url.eq_replicate_of_dots? verbatim.2 dot)),
        fun up => not_up (String.toList_inj.1 (Url.eq_replicate_of_dots? verbatim.2 up))⟩
    rw [casePieces_of_verbatim plain verbatim]
    simp only [List.forall_mem_cons, List.not_mem_nil, false_imp_iff, implies_true, and_true]
      at fixed ⊢
    exact ⟨fixed.1, fixed.2.1, own, fixed.2.2⟩
  have read := parameter?_of_free verbatim.2
  refine (reaches_iff target path).2 ⟨Url.encodeSegment name.toList, ?_, ?_, read⟩
  · rw [path, Url.follow_of_names names, casePieces_of_verbatim plain verbatim]
    rfl
  · intro empty
    have nothing : Http.Route.parameter? (Url.encodeSegment "".toList).toList = some "" :=
      parameter?_of_free rfl
    rw [empty] at read
    exact some_char (Option.some.inj (read.symm.trans nothing))

/-- A name that reaches its case arrives as it was. -/
theorem verbatim_of_reaches {u : Url} {r : Http.Request} (target : r.target = u.target)
    (path : u.path = Url.follow [] (casePieces name)) (reaches : r.Reaches name) :
    Verbatim name := by
  obtain ⟨segment, names, some_char, read⟩ := (reaches_iff target path).1 reaches
  have among : segment ∈ Url.follow [] (casePieces name) := by
    rw [← path, names]
    simp
  rcases Url.mem_follow among with old | empty | ⟨piece, member, rfl⟩
  · cases old
  · exact absurd empty some_char
  · rcases mem_casePieces member with fixed | ⟨part, free⟩
    · have arrives : ∀ name ∈ ["api", "cases", "evidences"], Verbatim name := by decide
      obtain ⟨word, known, rfl⟩ : ∃ word ∈ ["api", "cases", "evidences"], piece = word.toList := by
        simpa using fixed
      have verbatim := arrives word known
      rw [parameter?_of_free verbatim.2] at read
      exact Option.some.inj read ▸ verbatim
    · obtain ⟨rfl, no_escape⟩ := eq_of_parameter? part read
      exact ⟨free, no_escape⟩

/-! ## The handler -/

/-- A request that is posted to a route for that, with the key, is handled. -/
theorem serve_post {r : Http.Request} {route : Http.Route} {apiKey? : Option String} {s : Server}
    {now : ℕ} {remote : String} (routed : Http.Route.ofPath? r.path = some route)
    (post : r.method = "POST") (posts : route.isPost = true)
    (accepted : Http.isAuthorized apiKey? r = true) :
    Http.serve s apiKey? now remote r = Http.dispatch s now remote r route := by
  have not_head : (r.method == "HEAD") = false := by
    rw [post]
    decide
  have allowed : route.allows r.method = true := by
    rw [Http.Route.allows, posts, post]
    rfl
  rw [Http.serve, routed]
  dsimp only
  rw [not_head, Http.serveRoute, allowed, accepted]
  simp

/-- A request that carries the JSON of a value is read as the value, if its text is. -/
theorem bodyOf_json {α : Type} [Wire α] {r : Http.Request} {headers : List (String × String)}
    {a : α} {now : Timestamp} (names : ∀ h ∈ headers, h.1 = "x-api-key")
    (sent : r.headers = headers ++ [("accept", "*/*"), ("content-type", "application/json")])
    (read : Wire.parse now r.body = .ok a) : Http.bodyOf now r = .ok a := by
  have json : r.header? "content-type" = some "application/json" := by
    have no_key : headers.find? (fun h => Http.Request.lower h.1 == "content-type") = none := by
      rw [List.find?_eq_none]
      intro h member
      rw [names h member]
      decide
    rw [Http.Request.header?, sent, List.find?_append, no_key]
    decide
  have text : Http.headerText? "application/json" = some "application/json" := by decide
  have is_json : Http.isJsonType "application/json" = true := by decide
  rw [Http.bodyOf, json, Option.bind_some, text]
  dsimp only
  rw [is_json, read]
  rfl

/-- A request with the body of a registration is read as the evidence. -/
theorem bodyOf_registration {r : Http.Request} {headers : List (String × String)}
    (carries : r.body = Wire.render e) (names : ∀ h ∈ headers, h.1 = "x-api-key")
    (sent : r.headers = headers ++ [("accept", "*/*"), ("content-type", "application/json")])
    (now : Timestamp) : Http.bodyOf now r = .ok e :=
  bodyOf_json names sent
    (by rw [carries, (e.recorded now).parse_render e.ofDatum?_toDatum])

/-- **A request that reaches a case** is handed to the dispatcher as the evidence that it carries,
by a server that accepts its key. -/
theorem serve_of_reaches {r : Http.Request} (post : r.method = "POST")
    (body : ∀ now, Http.bodyOf now r = .ok e) (reaches : r.Reaches e.caseId) (s : Server)
    (apiKey? : Option String) (accepted : Http.isAuthorized apiKey? r = true) (now : ℕ)
    (remote : String) : Http.serve s apiKey? now remote r =
      Http.answer { s with store := { s.store with supply := s.store.supply.now.2 } }
        (s.dispatcher.registerEvidence e) fun jobs => Http.jsonResponse 201
          (.object [("evidence", Wire.toJson e), ("jobs", Http.listJson jobs)]) := by
  obtain ⟨cid, routed, read⟩ := reaches
  rw [serve_post routed post rfl accepted]
  simp only [Http.dispatch, read, Http.registerEvidence, Http.answerBody, body, if_true]

/-- **An artifact reaches its case** if and only if nothing of its name is lost on the way: no
question mark, number sign, backslash, tab or line break is in it, and no percent sign that two
hexadecimal digits follow. Then a server that accepts the key takes the artifact for the case. -/
theorem registration_reaches_iff (authority : Url.PlainAuthority a) (k : ℕ)
    (sendable : ∀ key ∈ key?, (Client.headerValue? key).isSome)
    (plain : isPlainFileName e.caseId = true) :
    ∃ r, (Client.ofAddress (serverAddress a k) key?).evidenceRequest? e = some r ∧
      (r.Reaches e.caseId ↔ Verbatim e.caseId) ∧
      (r.Reaches e.caseId → ∀ (s : Server) (apiKey? : Option String) (now : ℕ) (remote : String),
        Http.isAuthorized apiKey? r = true → Http.serve s apiKey? now remote r =
          Http.answer { s with store := { s.store with supply := s.store.supply.now.2 } }
            (s.dispatcher.registerEvidence e) fun jobs => Http.jsonResponse 201
              (.object [("evidence", Wire.toJson e), ("jobs", Http.listJson jobs)])) := by
  obtain ⟨u, headers, r, request, post, target, carries, sent, names, path⟩ :=
    evidenceRequest?_eq (k := k) (e := e) authority sendable
  rw [segments_casePath] at path
  exact ⟨r, request, ⟨verbatim_of_reaches target path, reaches_of_verbatim target path plain⟩,
    fun reaches s apiKey? now remote accepted => serve_of_reaches post
      (bodyOf_registration carries names sent) reaches s apiKey? accepted now remote⟩

/-- An artifact of a case. -/
def artifactOf (caseId : String) : Evidence :=
  ⟨"A1", caseId, "Logs", "Security.evtx.jsonl", "DC01", "module-hayabusa", 20, "", .epoch⟩

/-- The name of the host and its port are a plain authority. -/
theorem plainAuthority_dispatcher : Url.PlainAuthority "dispatcher:8080" where
  visible c member := by
    have visible : ("dispatcher:8080".toList.all fun c =>
        0x20 < c.toNat && !(['/', '\\', '?', '#', '@'].contains c)) = true := by decide
    simpa using List.all_eq_true.1 visible c member
  host := by decide

/-- **A question mark ends the path.** The name is one that a file can have, and the request for it
is on no route. -/
theorem question_mark_lost : Url.PlainAuthority "dispatcher:8080" ∧
    isPlainFileName (artifactOf "Q1?").caseId = true ∧
    ∃ r, (Client.ofAddress (serverAddress "dispatcher:8080" 1) none).evidenceRequest?
        (artifactOf "Q1?") = some r ∧
      Http.Route.ofPath? r.path = none ∧ ¬r.Reaches (artifactOf "Q1?").caseId := by
  obtain ⟨r, request, no_route⟩ : ∃ r,
      (Client.ofAddress (serverAddress "dispatcher:8080" 1) none).evidenceRequest?
        (artifactOf "Q1?") = some r ∧ Http.Route.ofPath? r.path = none :=
    ⟨_, rfl, by decide +kernel⟩
  refine ⟨plainAuthority_dispatcher, by decide, r, request, no_route, ?_⟩
  rintro ⟨cid, routed, -⟩
  rw [no_route] at routed
  cases routed

/-- Blanks, accents and percent signs arrive. -/
theorem registration_reaches_iff_accented : Url.PlainAuthority "dispatcher:8080" ∧
    (∀ key ∈ some "s3cret", (Client.headerValue? key).isSome) ∧
    isPlainFileName (artifactOf "Affäre 7 (100%)").caseId = true ∧
    ∃ r, (Client.ofAddress (serverAddress "dispatcher:8080" 2) (some "s3cret")).evidenceRequest?
        (artifactOf "Affäre 7 (100%)") = some r ∧ r.Reaches "Affäre 7 (100%)" := by
  have sendable : ∀ key ∈ some "s3cret", (Client.headerValue? key).isSome := by
    intro key given
    obtain rfl := Option.some.inj given
    decide
  have plain : isPlainFileName (artifactOf "Affäre 7 (100%)").caseId = true := by decide
  obtain ⟨r, request, reaches, -⟩ :=
    registration_reaches_iff plainAuthority_dispatcher 2 sendable plain
  exact ⟨plainAuthority_dispatcher, sendable, plain, r, request, reaches.2 (by decide)⟩

end Casework
