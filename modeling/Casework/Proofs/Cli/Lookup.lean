/-
# The job that an argument names

A job is asked for by its id or by the front of it.

| the argument | is looked for | shown is |
| --- | --- | --- |
| has fewer than 32 bytes | as a front, in the first two rows that match | the one row, not two |
| has 32 bytes or more | as a whole id | the row of that id |

Both rows say the same about ids of 32 digits: the job is shown just when its id is the only one
that begins so (`resolveJob_eq_ok_iff`).  For a front, two rows are enough to tell one from several
(`filter_eq_singleton_iff`).  At the boundary, an argument of 32 bytes or more that is the front of
such an id is the id (`eq_of_front`), since every digit is one byte.

An argument that is no front of any id, for a character in it or because it is empty, is refused
before the rows are looked at (`resolveJob_of_not_digits`).  So the empty argument is refused as
well where several jobs are on record, although all ids begin so.
-/

import Casework.Proofs.Cli.Listing

namespace Casework

open Store Text

/-- The id is one that the queue makes: 32 hexadecimal digits, the letters lower-case. -/
def IsGenerated (id : JobId) : Prop :=
  id.toList.length = 32 ∧ ∀ c ∈ id.toList, ('0' ≤ c ∧ c ≤ '9') ∨ ('a' ≤ c ∧ c ≤ 'f')

/-- The row's id begins so. -/
def JobRow.Begins (front : String) (r : JobRow) : Prop := front.toList <+: r.id.toList

instance (front : String) : DecidablePred (JobRow.Begins front) := fun r =>
  inferInstanceAs (Decidable (front.toList <+: r.id.toList))

/-! ## Digits -/

namespace Store

/-- The hexadecimal digits are those of the three ranges. -/
theorem isHexDigit_iff (c : Char) : isHexDigit c = true ↔
    ('0' ≤ c ∧ c ≤ '9') ∨ ('a' ≤ c ∧ c ≤ 'f') ∨ ('A' ≤ c ∧ c ≤ 'F') := by
  unfold isHexDigit hexValue?
  split_ifs with decimal small capital
  · simp [decimal]
  · simp [small]
  · simp [capital]
  · simp [decimal, small, capital]

/-- A hexadecimal digit is an ASCII character. -/
theorem toNat_lt_of_isHexDigit {c : Char} (digit : isHexDigit c = true) : c.toNat < 128 := by
  have upper {a : Char} (le : c ≤ a) (low : a.toNat < 128) : c.toNat < 128 :=
    Nat.lt_of_le_of_lt le low
  obtain decimal | small | capital := (isHexDigit_iff c).1 digit
  · exact upper decimal.2 (by decide)
  · exact upper small.2 (by decide)
  · exact upper capital.2 (by decide)

/-- A text of digits has as many bytes as digits. -/
theorem utf8ByteSize_of_digits {s : String} (digits : ∀ c ∈ s.toList, isHexDigit c = true) :
    s.utf8ByteSize = s.toList.length := by
  rw [← String.utf8Len_toList]
  generalize s.toList = cs at digits
  induction cs with
  | nil => rfl
  | cons c cs ih =>
    obtain ⟨first, rest⟩ := List.forall_mem_cons.1 digits
    have one : c.utf8Size = 1 :=
      Char.utf8Size_eq_one_iff.2 (Nat.le_of_lt_succ (toNat_lt_of_isHexDigit first))
    rw [String.utf8Len_cons, List.length_cons, ih rest, one]

end Store

namespace IsGenerated

variable {id : JobId} {arg : String}

/-- A generated id has only hexadecimal digits. -/
theorem isHexDigit (h : IsGenerated id) : ∀ c ∈ id.toList, Store.isHexDigit c = true := by
  intro c hc
  obtain decimal | small := h.2 c hc
  · exact (isHexDigit_iff c).2 (.inl decimal)
  · exact (isHexDigit_iff c).2 (.inr (.inl small))

/-- What begins an id is made of digits, so has as many bytes as characters. -/
theorem front_digits (h : IsGenerated id) (front : arg.toList <+: id.toList) :
    ∀ c ∈ arg.toList, Store.isHexDigit c = true :=
  fun c hc => h.isHexDigit c (front.subset hc)

/-- **At the boundary** a front that is as long as an id is the id. -/
theorem eq_of_front (h : IsGenerated id) (front : arg.toList <+: id.toList)
    (long : 32 ≤ arg.utf8ByteSize) : arg = id := by
  rw [utf8ByteSize_of_digits (h.front_digits front), ← h.1] at long
  exact String.toList_inj.1 (front.eq_of_length_le long)

end IsGenerated

/-! ## The rows that match -/

/-- Of entries that differ one alone satisfies `p` just when it is what the filter leaves. -/
theorem filter_eq_singleton_iff {α : Type} {p : α → Bool} {l : List α} (nodup : l.Nodup) {x : α} :
    l.filter p = [x] ↔ x ∈ l ∧ p x = true ∧ ∀ y ∈ l, p y = true → y = x := by
  constructor
  · intro only
    have member : x ∈ l.filter p := by simp [only]
    refine ⟨(List.mem_filter.1 member).1, (List.mem_filter.1 member).2, fun y hy holds => ?_⟩
    have found : y ∈ l.filter p := List.mem_filter.2 ⟨hy, holds⟩
    simpa [only] using found
  · rintro ⟨hx, holds, unique⟩
    have same : ∀ y ∈ l.filter p, y = x := fun y hy =>
      unique y (List.mem_filter.1 hy).1 (List.mem_filter.1 hy).2
    refine List.perm_singleton.1 ?_
    refine (List.perm_ext_iff_of_nodup (nodup.filter p) (List.nodup_singleton x)).2 fun y => ?_
    rw [List.mem_singleton]
    exact ⟨same y, fun eq => eq ▸ List.mem_filter.2 ⟨hx, holds⟩⟩

/-- Rows with different ids are different rows. -/
theorem Keyed.nodup {rows : List JobRow} (keyed : Keyed rows) : rows.Nodup :=
  List.Nodup.of_map JobRow.id keyed

namespace Cli

/-- The answer to a front that begins the ids of several jobs. -/
def several (arg : String) : Error :=
  .other ("several jobs match prefix '" ++ arg ++ "', be more specific")

/-- The answer to a front that begins the id of no job. -/
def noSuchFront (arg : String) : Error := .other ("no job matching prefix '" ++ arg ++ "'")

/-- That there are several jobs and that there is none are different answers. -/
theorem several_ne_noSuchFront (arg : String) : several arg ≠ noSuchFront arg := by
  intro same
  have texts : ("several jobs match prefix '" ++ arg ++ "', be more specific").toList =
      ("no job matching prefix '" ++ arg ++ "'").toList :=
    congrArg String.toList (Error.other.inj same)
  simp at texts

/-- The answer to a front, by the rows whose ids begin so: of more than two only two are read. -/
def answerFront (arg : String) : List JobRow → Except Error Job
  | [] => .error (noSuchFront arg)
  | [r] => r.read
  | r :: r' :: _ => do
    let _ ← r.read
    let _ ← r'.read
    .error (several arg)

variable {arg : String} {s : Store}

/-- An argument is no front of an id, or a front of digits, or as long as an id. -/
theorem argument_cases (arg : String) :
    (arg.utf8ByteSize < 32 ∧ (arg = "" ∨ ∃ c ∈ arg.toList, isHexDigit c = false)) ∨
      (arg.utf8ByteSize < 32 ∧ arg ≠ "" ∧ ∀ c ∈ arg.toList, isHexDigit c = true) ∨
        32 ≤ arg.utf8ByteSize := by
  obtain short | long := Nat.lt_or_ge arg.utf8ByteSize 32
  · by_cases digits : ∀ c ∈ arg.toList, isHexDigit c = true
    · by_cases empty : arg = ""
      · exact .inl ⟨short, .inl empty⟩
      · exact .inr (.inl ⟨short, empty, digits⟩)
    · exact .inl ⟨short, .inr (by simpa using digits)⟩
  · exact .inr (.inr long)

/-- **What is no front of an id** is refused, whatever the store. -/
theorem resolveJob_of_not_digits (short : arg.utf8ByteSize < 32)
    (noFront : arg = "" ∨ ∃ c ∈ arg.toList, isHexDigit c = false) (s : Store) :
    resolveJob arg s =
      (.error (.validation ("invalid job id prefix: " ++ quote arg)), s) := by
  have refused : (arg == "" || !arg.toList.all isHexDigit) = true := by
    obtain rfl | ⟨c, hc, other⟩ := noFront
    · rfl
    · have some_ : arg.toList.all isHexDigit = false := by
        rw [List.all_eq_false]
        exact ⟨c, hc, by simp [other]⟩
      simp [some_]
  rw [resolveJob, if_pos (by rwa [jobIdBytes]), run_bind]
  simp [findJobs, refused]

/-- **A front of digits** is looked up among the ids. -/
theorem resolveJob_of_digits (short : arg.utf8ByteSize < 32) (asked : arg ≠ "")
    (digits : ∀ c ∈ arg.toList, isHexDigit c = true) (s : Store) :
    resolveJob arg s = (if s.jobs.lost then .error (lostTable .jobs)
      else answerFront arg (s.jobs.rows.filter (JobRow.Begins arg ·)), s) := by
  have fine : (arg == "" || !arg.toList.all isHexDigit) = false := by
    simpa [asked] using digits
  have matching : (s.jobs.rows.filter fun r => arg.toList.isPrefixOf r.id.toList) =
      s.jobs.rows.filter (JobRow.Begins arg ·) :=
    List.filter_congr fun r _ => by
      rw [Bool.eq_iff_iff, decide_eq_true_iff, List.isPrefixOf_iff_prefix, JobRow.Begins]
  rw [resolveJob, if_pos (by rwa [jobIdBytes]), run_bind]
  cases lost : s.jobs.lost with
  | true => simp [findJobs, fine, lost]
  | false =>
    simp only [findJobs, fine, Bool.false_eq_true, if_false, run_bind, run_jobRows, lost, matching]
    generalize s.jobs.rows.filter (JobRow.Begins arg ·) = found
    match found with
    | [] => rfl
    | [r] => cases read : r.read <;> simp [takeLimit, readRows, read, answerFront]
    | r :: r' :: rest =>
      cases read : r.read <;> cases read' : r'.read <;>
        simp [takeLimit, readRows, read, read', answerFront, several, bind, Except.bind]

/-- **What is as long as an id** is looked up as one. -/
theorem resolveJob_of_long (long : 32 ≤ arg.utf8ByteSize) (s : Store) :
    resolveJob arg s = getJob arg s := by
  rw [resolveJob, if_neg (by rw [jobIdBytes]; omega)]

/-- The answer depends on the job table alone. -/
theorem resolveJob_congr {s' : Store} (same : s'.jobs = s.jobs) (arg : String) :
    (resolveJob arg s').1 = (resolveJob arg s).1 := by
  obtain ⟨short, noFront⟩ | ⟨short, asked, digits⟩ | long := argument_cases arg
  · rw [resolveJob_of_not_digits short noFront, resolveJob_of_not_digits short noFront]
  · rw [resolveJob_of_digits short asked digits, resolveJob_of_digits short asked digits, same]
  · rw [resolveJob_of_long long, resolveJob_of_long long, run_getJob, run_getJob, same]
    cases s.jobs.lost with
    | true => rfl
    | false => cases s.jobs.rows.find? fun r => r.id == arg <;> rfl

/-- A job is the answer if it was the only one that was found, and can be read. -/
theorem answerFront_eq_ok_iff {found : List JobRow} {j : Job} :
    answerFront arg found = .ok j ↔ ∃ r, found = [r] ∧ r.job? = some j := by
  match found with
  | [] => simp [answerFront]
  | [r] => simp [answerFront, JobRow.read_eq_ok]
  | r :: r' :: rest =>
    cases read : r.read <;> cases read' : r'.read <;>
      simp [answerFront, read, read', bind, Except.bind]

/-- Several jobs are told of only if several rows match; and they are, if the rows can be read. -/
theorem answerFront_eq_several {found : List JobRow} :
    (answerFront arg found = .error (several arg) → ∃ r r' rest, found = r :: r' :: rest) ∧
      ∀ r r' rest, found = r :: r' :: rest → r.job?.isSome = true → r'.job?.isSome = true →
        answerFront arg found = .error (several arg) := by
  refine ⟨fun told => ?_, ?_⟩
  · match found with
    | [] => exact absurd (Except.error.inj told).symm (several_ne_noSuchFront arg)
    | [r] =>
      have unread : r.read = .error (several arg) := told
      unfold JobRow.read at unread
      split at unread <;> simp [several] at unread
    | r :: r' :: rest => exact ⟨r, r', rest, rfl⟩
  · rintro r r' rest rfl readable readable'
    obtain ⟨job, read⟩ := Option.isSome_iff_exists.1 readable
    obtain ⟨job', read'⟩ := Option.isSome_iff_exists.1 readable'
    simp [answerFront, JobRow.read_eq_ok.2 read, JobRow.read_eq_ok.2 read', bind, Except.bind]

/-- A whole id finds the job of its row. -/
theorem getJob_eq_ok_iff (keyed : Keyed s.jobs.rows) (there : s.jobs.lost = false) {id : JobId}
    {j : Job} : getJob id s = (.ok j, s) ↔ ∃ r ∈ s.jobs.rows, r.id = id ∧ r.job? = some j := by
  rw [run_getJob, there]
  simp only [Bool.false_eq_true, if_false]
  cases found : s.jobs.rows.find? fun r => r.id == id with
  | none =>
    refine ⟨nofun, fun ⟨r, hr, same, _⟩ => ?_⟩
    exact absurd (beq_iff_eq.2 same) (by simpa using List.find?_eq_none.1 found r hr)
  | some x =>
    have member := List.mem_of_find?_eq_some found
    have own : x.id = id := by simpa using List.find?_some found
    have answer : (x.read, s) = (.ok j, s) ↔ x.job? = some j := by
      rw [Prod.mk.injEq, JobRow.read_eq_ok, and_iff_left rfl]
    refine answer.trans ⟨fun read => ⟨x, member, own, read⟩, fun ⟨r, hr, same, read⟩ => ?_⟩
    rwa [keyed.eq_of_id member hr (own.trans same.symm)]

/-- **A job is shown just when its id is the only one that begins so.** -/
theorem resolveJob_eq_ok_iff (keyed : Keyed s.jobs.rows) (there : s.jobs.lost = false)
    (generated : ∀ r ∈ s.jobs.rows, IsGenerated r.id) {j : Job} :
    resolveJob arg s = (.ok j, s) ↔ arg ≠ "" ∧ ∃ r ∈ s.jobs.rows, r.job? = some j ∧
      r.Begins arg ∧ ∀ r' ∈ s.jobs.rows, r'.Begins arg → r' = r := by
  obtain ⟨short, noFront⟩ | ⟨short, asked, digits⟩ | long := argument_cases arg
  · rw [resolveJob_of_not_digits short noFront]
    refine ⟨nofun, fun ⟨asked, r, hr, _, begins, _⟩ => ?_⟩
    obtain ⟨c, hc, other⟩ := noFront.resolve_left asked
    exact absurd ((generated r hr).front_digits begins c hc) (by simp [other])
  · rw [resolveJob_of_digits short asked digits, there, if_neg Bool.false_ne_true,
      Prod.mk.injEq, answerFront_eq_ok_iff]
    simp only [filter_eq_singleton_iff keyed.nodup, decide_eq_true_iff, and_true]
    constructor
    · rintro ⟨r, ⟨hr, begins, unique⟩, read⟩
      exact ⟨asked, r, hr, read, begins, unique⟩
    · rintro ⟨-, r, hr, read, begins, unique⟩
      exact ⟨r, ⟨hr, begins, unique⟩, read⟩
  · have asked : arg ≠ "" := by
      rintro rfl
      simp at long
    rw [resolveJob_of_long long, getJob_eq_ok_iff keyed there]
    constructor
    · rintro ⟨r, hr, rfl, read⟩
      refine ⟨asked, r, hr, read, List.prefix_rfl, fun r' hr' begins => ?_⟩
      exact keyed.eq_of_id hr' hr ((generated r' hr').eq_of_front begins long).symm
    · rintro ⟨-, r, hr, read, begins, -⟩
      exact ⟨r, hr, ((generated r hr).eq_of_front begins long).symm, read⟩

/-- **Whatever is shown begins so,** on any store. -/
theorem begins_of_resolveJob {j : Job} (shown : (resolveJob arg s).1 = .ok j) :
    arg.toList <+: j.id.toList := by
  obtain ⟨short, noFront⟩ | ⟨short, asked, digits⟩ | long := argument_cases arg
  · rw [resolveJob_of_not_digits short noFront] at shown
    simp at shown
  · rw [resolveJob_of_digits short asked digits] at shown
    cases lost : s.jobs.lost with
    | true => simp [lost] at shown
    | false =>
      rw [lost, if_neg Bool.false_ne_true] at shown
      obtain ⟨r, only, read⟩ := answerFront_eq_ok_iff.1 shown
      have member : r ∈ s.jobs.rows.filter (JobRow.Begins arg ·) := by simp [only]
      rw [JobRow.id_of_job? read]
      exact of_decide_eq_true (List.mem_filter.1 member).2
  · rw [resolveJob_of_long long, run_getJob] at shown
    cases lost : s.jobs.lost with
    | true => simp [lost] at shown
    | false =>
      cases found : s.jobs.rows.find? fun r => r.id == arg with
      | none => simp [lost, found] at shown
      | some r =>
        have own : r.id = arg := by simpa using List.find?_some found
        simp only [lost, Bool.false_eq_true, if_false, found, JobRow.read_eq_ok] at shown
        rw [JobRow.id_of_job? shown, own]

/-- Several ids begin with the argument, which is a front. -/
def SeveralBegin (arg : String) (s : Store) : Prop :=
  arg ≠ "" ∧ arg.utf8ByteSize < 32 ∧
    ∃ r ∈ s.jobs.rows, ∃ r' ∈ s.jobs.rows, r.id ≠ r'.id ∧ r.Begins arg ∧ r'.Begins arg

/-- Several jobs are told of only where several ids begin so. -/
theorem severalBegin_of_resolveJob (keyed : Keyed s.jobs.rows)
    (told : (resolveJob arg s).1 = .error (several arg)) : SeveralBegin arg s := by
  obtain ⟨short, noFront⟩ | ⟨short, asked, digits⟩ | long := argument_cases arg
  · rw [resolveJob_of_not_digits short noFront] at told
    simp [several] at told
  · rw [resolveJob_of_digits short asked digits] at told
    cases lost : s.jobs.lost with
    | true => simp [lost, lostTable, several] at told
    | false =>
      rw [lost, if_neg Bool.false_ne_true] at told
      obtain ⟨r, r', rest, found⟩ := answerFront_eq_several.1 told
      have nodup := keyed.nodup.filter (JobRow.Begins arg ·)
      have hr : r ∈ s.jobs.rows.filter (JobRow.Begins arg ·) := by simp [found]
      have hr' : r' ∈ s.jobs.rows.filter (JobRow.Begins arg ·) := by simp [found]
      rw [found] at nodup
      refine ⟨asked, short, r, List.mem_of_mem_filter hr, r', List.mem_of_mem_filter hr', ?_,
        of_decide_eq_true (List.mem_filter.1 hr).2, of_decide_eq_true (List.mem_filter.1 hr').2⟩
      intro same
      obtain rfl := keyed.eq_of_id (List.mem_of_mem_filter hr) (List.mem_of_mem_filter hr') same
      simp at nodup
  · rw [resolveJob_of_long long, run_getJob] at told
    cases lost : s.jobs.lost with
    | true => simp [lost, lostTable, several] at told
    | false =>
      cases found : s.jobs.rows.find? fun r => r.id == arg with
      | none => simp [lost, found, several] at told
      | some r =>
        cases read : r.job? <;> simp [lost, found, several, JobRow.read, read] at told

/-- And where several ids begin so, they are told of, if their rows can be read. -/
theorem resolveJob_of_severalBegin (there : s.jobs.lost = false)
    (generated : ∀ r ∈ s.jobs.rows, IsGenerated r.id)
    (readable : ∀ r ∈ s.jobs.rows, r.Begins arg → r.job?.isSome = true)
    (begin_ : SeveralBegin arg s) : resolveJob arg s = (.error (several arg), s) := by
  obtain ⟨asked, short, r, hr, r', hr', other, begins, begins'⟩ := begin_
  have digits := (generated r hr).front_digits begins
  rw [resolveJob_of_digits short asked digits, there, if_neg Bool.false_ne_true]
  have found : r ∈ s.jobs.rows.filter (JobRow.Begins arg ·) :=
    List.mem_filter.2 ⟨hr, decide_eq_true begins⟩
  have found' : r' ∈ s.jobs.rows.filter (JobRow.Begins arg ·) :=
    List.mem_filter.2 ⟨hr', decide_eq_true begins'⟩
  have read : ∀ x ∈ s.jobs.rows.filter (JobRow.Begins arg ·), x.job?.isSome = true := fun x hx =>
    readable x (List.mem_of_mem_filter hx) (of_decide_eq_true (List.mem_filter.1 hx).2)
  match two : s.jobs.rows.filter (JobRow.Begins arg ·) with
  | [] => simp [two] at found
  | [x] =>
    rw [two, List.mem_singleton] at found found'
    exact absurd (congrArg JobRow.id (found.trans found'.symm)) other
  | x :: y :: rest =>
    rw [two] at read
    exact congrArg (·, s) (answerFront_eq_several.2 x y rest rfl (read x (by simp))
      (read y (by simp)))

end Cli

/-- **Looking a job up is unambiguous.**  Take a store whose jobs have ids that the queue makes, no
id twice, and any argument.

* A job is shown just when the argument is not empty and the job's id is the only one that begins
  so.
* Several jobs are told of only where the argument is not empty, has fewer than 32 bytes and begins
  several ids, and always there, if the rows of these ids can be read.
* On any store, a job that is shown has an id that begins so.
* On any store, even where the jobs are out of reach, an argument of fewer than 32 bytes that is
  empty or has a character that is no hexadecimal digit is refused as such.
* This is what the command prints, or complains about, on any machine whose settings name a
  store. -/
theorem lookup_unambiguous {s : Store} (keyed : Keyed s.jobs.rows) (there : s.jobs.lost = false)
    (generated : ∀ r ∈ s.jobs.rows, IsGenerated r.id) (arg : String) :
    (∀ j, Cli.resolveJob arg s = (.ok j, s) ↔ arg ≠ "" ∧ ∃ r ∈ s.jobs.rows, r.job? = some j ∧
      r.Begins arg ∧ ∀ r' ∈ s.jobs.rows, r'.Begins arg → r' = r) ∧
    ((Cli.resolveJob arg s).1 = .error (Cli.several arg) → Cli.SeveralBegin arg s) ∧
    ((∀ r ∈ s.jobs.rows, r.Begins arg → r.job?.isSome = true) → Cli.SeveralBegin arg s →
      Cli.resolveJob arg s = (.error (Cli.several arg), s)) ∧
    (∀ (any : Store) j, (Cli.resolveJob arg any).1 = .ok j → arg.toList <+: j.id.toList) ∧
    (arg.utf8ByteSize < 32 → (arg = "" ∨ ∃ c ∈ arg.toList,
        ¬('0' ≤ c ∧ c ≤ '9' ∨ 'a' ≤ c ∧ c ≤ 'f' ∨ 'A' ≤ c ∧ c ≤ 'F')) → ∀ any : Store,
      Cli.resolveJob arg any =
        (.error (.validation ("invalid job id prefix: " ++ quote arg)), any)) ∧
    ∀ (m : Cli.Machine) (place? : Option Place), m.Opens place? → ∀ args,
      Cli.Command.parse args = .ok (.showJob arg) → (Cli.run m args).1 =
        .ofResult ((Cli.resolveJob arg (m.storeAt place?)).1.map Cli.jobText) := by
  refine ⟨fun j => Cli.resolveJob_eq_ok_iff keyed there generated,
    Cli.severalBegin_of_resolveJob keyed, Cli.resolveJob_of_severalBegin there generated,
    fun any j => Cli.begins_of_resolveJob, fun short noFront any => ?_, ?_⟩
  · refine Cli.resolveJob_of_not_digits short (noFront.imp_right fun ⟨c, hc, other⟩ => ?_) any
    rw [← isHexDigit_iff, Bool.not_eq_true] at other
    exact ⟨c, hc, other⟩
  · intro m place? opens args parsed
    have same : (m.freshIdent.2.storeAt place?).jobs = (m.storeAt place?).jobs := by
      rw [Cli.storeAt_freshIdent]
    rw [Cli.outcome_of_opens opens parsed fun d => rfl, run_map, Cli.resolveJob_congr same]

/-- An id of 31 times the letter `a` and a last character. -/
def twinId (last : Char) : JobId := String.ofList (List.replicate 31 'a' ++ [last])

/-- A store with two jobs whose ids differ in the last digit. -/
def twins : Store :=
  let row (last : Char) :=
    JobRow.scheduled (twinId last) "case" "item" "Hayabusa" "server" .epoch
  { jobs.rows := [row 'b', row 'c'], supply := .counting }

/-- The twins have different ids. -/
theorem keyed_twins : Keyed twins.jobs.rows := by
  simp [Keyed, twins, twinId, JobRow.scheduled]

/-- The ids of the twins are generated. -/
theorem generated_twins : ∀ r ∈ twins.jobs.rows, IsGenerated r.id := by
  simp [twins, twinId, JobRow.scheduled, IsGenerated]

/-- The whole id of one of them shows its job.  What both begin with is told to be ambiguous, and
what has another character in it is refused. -/
theorem lookup_unambiguous_twins :
    (∃ j, Cli.resolveJob (twinId 'b') twins = (.ok j, twins) ∧ j.id = twinId 'b') ∧
      Cli.resolveJob "aaa" twins = (.error (Cli.several "aaa"), twins) ∧
      Cli.resolveJob "aé" twins =
        (.error (.validation ("invalid job id prefix: " ++ quote "aé")), twins) := by
  have look := lookup_unambiguous keyed_twins rfl generated_twins
  have whole (j : Job) := ((look (twinId 'b')).1 j).2
  refine ⟨⟨_, whole _ ⟨?_, _, List.mem_cons_self, rfl, List.prefix_rfl, ?_⟩, rfl⟩,
    (look "aaa").2.2.1 ?_ ?_, (look "aé").2.2.2.2.1 ?_ ?_ twins⟩
  · simp [twinId]
  · simp [twins, JobRow.Begins, JobRow.scheduled, twinId]
  · simp [twins, JobRow.scheduled, JobRow.job?]
  · simp [Cli.SeveralBegin, twins, JobRow.scheduled, JobRow.Begins, twinId]
    decide
  · decide
  · exact .inr ⟨'é', by simp, by decide⟩

/-- The empty argument begins both ids and has fewer than 32 bytes.  It is not told to be ambiguous,
but refused as no front of an id. -/
theorem empty_argument_refused :
    (∀ r ∈ twins.jobs.rows, IsGenerated r.id) ∧ "".utf8ByteSize < 32 ∧
      (∃ r ∈ twins.jobs.rows, ∃ r' ∈ twins.jobs.rows, r.id ≠ r'.id ∧ r.Begins "" ∧
        r'.Begins "") ∧
      (Cli.resolveJob "" twins).1 ≠ .error (Cli.several "") ∧
      (Cli.resolveJob "" twins).1 =
        .error (.validation ("invalid job id prefix: " ++ quote "")) := by
  have short : "".utf8ByteSize < 32 := by decide
  have refused := Cli.resolveJob_of_not_digits short (.inl rfl) twins
  refine ⟨generated_twins, short, ?_, ?_, ?_⟩
  · simp [twins, JobRow.scheduled, JobRow.Begins, twinId]
  · rw [refused]
    simp [Cli.several]
  · rw [refused]

end Casework
