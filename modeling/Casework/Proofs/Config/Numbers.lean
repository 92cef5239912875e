/-
# The numbers that settings can hold

A number in a variable is trimmed and read digit by digit, and refused as soon as it leaves the
range of 64 bits.  So what is read lies in that range (`le_of_readCount`), and every number of the
range is read from its numeral (`readCount_numeral`).  Nothing else is asked of the time between two
signs of life, and of the jobs that a worker runs at once only that there is at least one:

| variable | accepted numbers |
| --- | --- |
| `KEEPALIVE_INTERVAL_SECS` | from 0 on, all of 64 bits (`keepAlive_accepted_iff`) |
| `WORKER_CONCURRENCY` | from 1 on, all of 64 bits (`concurrency_accepted_iff`) |
-/

import Casework.Config.Server
import Casework.Config.Worker
import Casework.Proofs.Store.Computation
import Casework.Proofs.Text.Pieces
import Casework.Proofs.Timestamp.Reader

namespace Casework

open Text

/-! ## Reading numbers -/

/-- What is read lies within the limit. -/
theorem Text.le_of_readDigits {limit acc n : ℕ} {cs : List Char} (fits : acc ≤ limit)
    (read : readDigits limit acc cs = .ok n) : n ≤ limit := by
  induction cs generalizing acc with
  | nil =>
    obtain rfl := Except.ok.inj read
    exact fits
  | cons c cs ih =>
    rw [readDigits] at read
    split at read
    · cases read
    · split at read
      next within => exact ih within read
      next => cases read

/-- A number that is read is within its limit. -/
theorem Text.le_of_readUnsigned {limit n : ℕ} {s : String} (read : readUnsigned limit s = .ok n) :
    n ≤ limit := by
  unfold readUnsigned at read
  split at read
  · cases read
  · cases read
  · exact le_of_readDigits (Nat.zero_le _) read
  · exact le_of_readDigits (Nat.zero_le _) read

/-- A count that is read fits into 64 bits. -/
theorem le_of_readCount {s : String} {n : ℕ} (read : readCount s = .ok n) : n ≤ maxU64 := by
  unfold readCount at read
  cases number : readUnsigned maxU64 s with
  | error e =>
    rw [number] at read
    cases read
  | ok m =>
    rw [number] at read
    obtain rfl : m = n := Except.ok.inj read
    exact le_of_readUnsigned number

/-- A variable holds what was read, or its default. -/
theorem le_of_parsed {env : Environment} {name : String} {default n : ℕ}
    (fits : default ≤ maxU64) (read : env.parsed name default readCount = .ok n) : n ≤ maxU64 := by
  unfold Environment.parsed at read
  split at read
  · obtain rfl := Except.ok.inj read
    exact fits
  · split at read
    next number =>
      obtain rfl := Except.ok.inj read
      exact le_of_readCount number
    next => cases read

/-- A decimal digit counts from zero. -/
theorem Text.digitValue?_of_isDigit {c : Char} (h : c.isDigit = true) :
    digitValue? c = some (c.toNat - '0'.toNat) := by
  have range : '0' ≤ c ∧ c ≤ '9' := by
    simpa [Char.isDigit, Char.le_def] using h
  rw [digitValue?, if_pos range]

/-- Digits whose value lies within the limit are read. -/
theorem Text.readDigits_of_le {limit acc : ℕ} {ds : List Char} (digits : Digits ds)
    (fits : Nat.ofDigitChars 10 ds acc ≤ limit) :
    readDigits limit acc ds = .ok (Nat.ofDigitChars 10 ds acc) := by
  induction ds generalizing acc with
  | nil => rfl
  | cons c ds ih =>
    obtain ⟨first, rest⟩ := List.forall_mem_cons.1 digits
    rw [Nat.ofDigitChars_cons, Nat.mul_comm] at fits ⊢
    rw [readDigits, digitValue?_of_isDigit first]
    dsimp only
    rw [if_pos (Nat.le_trans (le_ofDigitChars ds _) fits)]
    exact ih rest fits

/-- A text of digits is read digit by digit. -/
theorem Text.readUnsigned_digits {limit : ℕ} {ds : List Char} (digits : Digits ds) (ne : ds ≠ []) :
    readUnsigned limit (String.ofList ds) = readDigits limit 0 ds := by
  obtain ⟨c, ds, rfl⟩ := List.exists_cons_of_ne_nil ne
  have noSign : c ≠ '+' := by
    rintro rfl
    simpa using digits '+' List.mem_cons_self
  unfold readUnsigned
  rw [String.toList_ofList]
  split
  next same => cases same
  next same => exact absurd (List.cons.inj same).1 noSign
  next same => exact absurd (List.cons.inj same).1 noSign
  next => rfl

/-- The numeral of a number. -/
def numeral (n : ℕ) : String := String.ofList (Nat.toDigits 10 n)

/-- **Every number of the range is read** from its numeral. -/
theorem readCount_numeral {n : ℕ} (fits : n ≤ maxU64) : readCount (trim (numeral n)) = .ok n := by
  have digits := digits_toDigits n
  have snug : trimChars (Nat.toDigits 10 n) = Nat.toDigits 10 n := trimChars_eq_iff.2
    ⟨fun c first => Timestamp.isBlank_eq_false (digits c (List.mem_of_mem_head? first)),
      fun c last => Timestamp.isBlank_eq_false (digits c (List.mem_of_mem_getLast? last))⟩
  have value : Nat.ofDigitChars 10 (Nat.toDigits 10 n) 0 = n :=
    Nat.ofDigitChars_toDigits (by decide) (by decide)
  have read : readDigits maxU64 0 _ = .ok _ := readDigits_of_le digits (by rwa [value])
  rw [trim, numeral, String.toList_ofList, snug, readCount,
    readUnsigned_digits digits Nat.toDigits_ne_nil, read, value]
  rfl

/-! ## Settings -/

/-- The time between two signs of life is a number of seconds. -/
theorem keepAliveInterval_of_accepted {env : Environment} {config : ServerConfig}
    (accepted : ServerConfig.ofEnvironment env = .ok config) :
    ∃ seconds ≤ maxU64, config.keepAliveInterval = seconds * 1000 := by
  simp only [ServerConfig.ofEnvironment, bind_eq_ok_iff] at accepted
  obtain ⟨_, -, _, -, _, -, seconds, read, done⟩ := accepted
  exact ⟨seconds, le_of_parsed (by decide) read, by rw [← Except.ok.inj done]⟩

/-- The environment of a server that shows a sign of life so often. -/
def pulse (seconds : ℕ) : Environment :=
  [("DATABASE_URL", "sqlite::memory:"), ("KEEPALIVE_INTERVAL_SECS", numeral seconds)]

/-- Every number of seconds that fits is accepted as an interval. -/
theorem pulse_accepted {seconds : ℕ} (fits : seconds ≤ maxU64) : ∃ config,
    ServerConfig.ofEnvironment (pulse seconds) = .ok config ∧ config.pollInterval = 1000 ∧
      config.keepAliveInterval = seconds * 1000 := by
  have read : (pulse seconds).parsed "KEEPALIVE_INTERVAL_SECS" 60 readCount = .ok seconds := by
    have value : (pulse seconds).get? "KEEPALIVE_INTERVAL_SECS" = some (numeral seconds) := rfl
    simp only [Environment.parsed, value, readCount_numeral fits]
  simp only [ServerConfig.ofEnvironment, bind_eq_ok_iff]
  exact ⟨_, ⟨_, rfl, _, rfl, _, rfl, _, read, rfl⟩, rfl, rfl⟩

/-- **Any 64-bit number of seconds** is accepted between two signs of life. -/
theorem keepAlive_accepted_iff {seconds : ℕ} : (∃ env config,
    ServerConfig.ofEnvironment env = .ok config ∧ config.keepAliveInterval = seconds * 1000) ↔
      seconds ≤ maxU64 := by
  constructor
  · rintro ⟨env, config, accepted, interval⟩
    obtain ⟨read, fits, same⟩ := keepAliveInterval_of_accepted accepted
    omega
  · intro fits
    obtain ⟨config, accepted, -, interval⟩ := pulse_accepted fits
    exact ⟨pulse seconds, config, accepted, interval⟩

/-- A worker runs at least one job at once. -/
theorem concurrency_of_accepted {env : Environment} {config : WorkerConfig}
    (accepted : WorkerConfig.ofEnvironment env = .ok config) :
    0 < config.concurrency ∧ config.concurrency ≤ maxU64 := by
  simp only [WorkerConfig.ofEnvironment, bind_eq_ok_iff] at accepted
  obtain ⟨concurrency, read, accepted⟩ := accepted
  split at accepted
  · cases accepted
  next some =>
    simp only [bind_eq_ok_iff] at accepted
    obtain ⟨_, -, _, -, _, -, done⟩ := accepted
    rw [← Except.ok.inj done]
    exact ⟨Nat.pos_of_ne_zero some, le_of_parsed (by decide) read⟩

/-- The environment of a worker that runs so many jobs at once. -/
def crew (concurrency : ℕ) : Environment :=
  [("SERVER_URL", "http://dispatcher:8080/"), ("WORKER_CONCURRENCY", numeral concurrency)]

/-- Every positive number that fits is accepted as a number of permits. -/
theorem crew_accepted {concurrency : ℕ} (pos : 0 < concurrency) (fits : concurrency ≤ maxU64) :
    ∃ config, WorkerConfig.ofEnvironment (crew concurrency) = .ok config ∧
      config.concurrency = concurrency := by
  have read : (crew concurrency).parsed "WORKER_CONCURRENCY" 3 readCount = .ok concurrency := by
    have value : (crew concurrency).get? "WORKER_CONCURRENCY" = some (numeral concurrency) := rfl
    simp only [Environment.parsed, value, readCount_numeral fits]
  obtain ⟨more, rfl⟩ := Nat.exists_eq_succ_of_ne_zero (Nat.pos_iff_ne_zero.1 pos)
  rw [WorkerConfig.ofEnvironment, read]
  exact ⟨_, rfl, rfl⟩

/-- **Any 64-bit number of jobs at once** is accepted but zero. -/
theorem concurrency_accepted_iff {concurrency : ℕ} : (∃ env config,
    WorkerConfig.ofEnvironment env = .ok config ∧ config.concurrency = concurrency) ↔
      0 < concurrency ∧ concurrency ≤ maxU64 := by
  constructor
  · rintro ⟨env, config, accepted, rfl⟩
    exact concurrency_of_accepted accepted
  · rintro ⟨pos, fits⟩
    exact ⟨crew concurrency, crew_accepted pos fits⟩

end Casework
