import AgentForge.Platform.Ledger

/-!
# Runs and their attempts

The attempts of a run are numbered from 1 to its attempt count, and the current attempt of a run that waits for
the Scheduler is pending. A commit either changes rows in place (`Keeps`) or adds the next attempt of a new or a
retried run (`Adds`), and both keep these facts.
-/

set_option autoImplicit false

namespace AgentForge.Platform

open Operator Lib

/-- Attempts belong to runs and are numbered from 1 to the attempt count. -/
structure Db.Numbered (db : Db) : Prop where
  owned : ∀ a ∈ db.attempts, ∃ row, db.runs.get? a.runID = some row ∧ row.run.tenantID = a.tenantID ∧
    1 ≤ a.attemptNumber ∧ a.attemptNumber ≤ row.run.attemptCount
  complete : ∀ row ∈ db.runs, ∀ n, 1 ≤ n → n ≤ row.run.attemptCount →
    ∃ a ∈ db.attempts, a.runID = row.run.id ∧ a.attemptNumber = n
  unique : ∀ a ∈ db.attempts, ∀ b ∈ db.attempts, a.runID = b.runID → a.attemptNumber = b.attemptNumber → a = b

/-- The current attempt of a run that waits for the Scheduler is pending. -/
def Db.Waits (db : Db) : Prop :=
  ∀ row ∈ db.runs, row.run.status.isWaiting = true →
    ∀ a ∈ db.attempts, a.runID = row.run.id → a.attemptNumber = row.run.attemptCount → a.status = .pending

/-- A pending attempt has no assignment. -/
def Db.Unassigned (db : Db) : Prop := ∀ a ∈ db.attempts, a.status = .pending → a.assignment = none

/-! ## Rows changed in place -/

/-- A write of a run that is no retry. -/
structure PlainStep (held : List Key) (row row' : RunRow) : Prop where
  step : RunStep held row row'
  checks : row'.checks = true
  count : row'.run.attemptCount = row.run.attemptCount
  waits : row'.run.status.isWaiting = true → row.run.status.isWaiting = true

/-- A write of an attempt that is not the current one of a waiting run. -/
structure QuietStep (after : Db) (attempt attempt' : AgentRunAttempt) : Prop where
  step : AttemptStep attempt attempt'
  quiet : ∀ row, after.runs.get? attempt.runID = some row → row.run.status.isWaiting = true →
    attempt.attemptNumber ≠ row.run.attemptCount

structure Keeps (held : List Key) (before after : Db) : Prop where
  runs : Table.Changes (fun id => .run id ∈ held) (PlainStep held) (fun _ => False) before.runs after.runs
  attempts : Table.Changes (fun id => .attempt id ∈ held) (QuietStep after) (fun _ => False) before.attempts after.attempts

namespace Keeps

variable {held : List Key} {before after : Db}

/-- Where a run row comes from. -/
theorem run_origin (keeps : Keeps held before after) {row' : RunRow} (member : row' ∈ after.runs) :
    ∃ row ∈ before.runs, row'.identity = row.identity ∧ row'.run.attemptCount = row.run.attemptCount ∧
      (row'.run.status.isWaiting = true → row.run.status.isWaiting = true) := by
  rcases keeps.runs.cases_mem member with old | ⟨row, old, -, -, plain⟩ | ⟨-, -, impossible⟩
  · exact ⟨row', old, rfl, rfl, fun waits => waits⟩
  · exact ⟨row, old, plain.step.identity, plain.count, plain.waits⟩
  · exact impossible.elim

/-- What becomes of a run row. -/
theorem run_kept (keeps : Keeps held before after) {id : UUID} {row : RunRow} (found : before.runs.get? id = some row) :
    ∃ row', after.runs.get? id = some row' ∧ row'.identity = row.identity ∧
      row'.run.attemptCount = row.run.attemptCount := by
  obtain ⟨row', found', rfl | ⟨-, plain⟩⟩ := keeps.runs.old id row found
  · exact ⟨row', found', rfl, rfl⟩
  · exact ⟨row', found', plain.step.identity, plain.count⟩

/-- Where an attempt comes from. -/
theorem attempt_origin (keeps : Keeps held before after) {a' : AgentRunAttempt} (member : a' ∈ after.attempts) :
    ∃ a ∈ before.attempts, a'.identity = a.identity ∧ (a' = a ∨ QuietStep after a a') := by
  rcases keeps.attempts.cases_mem member with old | ⟨a, old, -, -, quiet⟩ | ⟨-, -, impossible⟩
  · exact ⟨a', old, rfl, .inl rfl⟩
  · exact ⟨a, old, quiet.step.identity, .inr quiet⟩
  · exact impossible.elim

theorem numbered (keeps : Keeps held before after) (numbered : before.Numbered) : after.Numbered := by
  constructor
  · intro a' member
    obtain ⟨a, old, same, -⟩ := keeps.attempt_origin member
    obtain ⟨row, found, tenant, low, high⟩ := numbered.owned a old
    obtain ⟨row', found', identity, count⟩ := keeps.run_kept found
    refine ⟨row', ?_, ?_, ?_, ?_⟩
    · rw [AgentRunAttempt.runID_eq same, found']
    · rw [RunRow.tenantID_eq identity, tenant, AgentRunAttempt.tenantID_eq same]
    · rw [AgentRunAttempt.number_eq same]
      exact low
    · rw [AgentRunAttempt.number_eq same, count]
      exact high
  · intro row' member n low high
    obtain ⟨row, old, identity, count, -⟩ := keeps.run_origin member
    obtain ⟨a, found, run, number⟩ := numbered.complete row old n low (count ▸ high)
    obtain ⟨a', found', same⟩ := keeps.attempts.old a.id a (Table.get?_key found)
    refine ⟨a', Table.mem_of_get? found', ?_⟩
    have identity' : a'.identity = a.identity := by
      rcases same with rfl | ⟨-, quiet⟩
      · rfl
      · exact quiet.step.identity
    rw [AgentRunAttempt.runID_eq identity', AgentRunAttempt.number_eq identity', RunRow.id_eq identity]
    exact ⟨run, number⟩
  · intro a' memA b' memB run number
    obtain ⟨a, oldA, sameA, -⟩ := keeps.attempt_origin memA
    obtain ⟨b, oldB, sameB, -⟩ := keeps.attempt_origin memB
    rw [AgentRunAttempt.runID_eq sameA, AgentRunAttempt.runID_eq sameB] at run
    rw [AgentRunAttempt.number_eq sameA, AgentRunAttempt.number_eq sameB] at number
    have same : a = b := numbered.unique a oldA b oldB run number
    have ids : a'.id = b'.id := by rw [AgentRunAttempt.id_eq sameA, AgentRunAttempt.id_eq sameB, same]
    exact Table.eq_of_mem memA memB ids

theorem waits (keeps : Keeps held before after) (waits : before.Waits) : after.Waits := by
  intro row' memRow waiting a' memA run number
  obtain ⟨row, old, identity, count, back⟩ := keeps.run_origin memRow
  obtain ⟨a, oldA, same, rfl | quiet⟩ := keeps.attempt_origin memA
  · exact waits row old (back waiting) a' oldA (run.trans (RunRow.id_eq identity)) (number.trans count)
  · -- the current attempt of a waiting run is not written
    rw [AgentRunAttempt.runID_eq same] at run
    have found : after.runs.get? a.runID = some row' := by
      rw [run]
      exact Table.get?_key memRow
    exact absurd ((AgentRunAttempt.number_eq same).symm.trans number) (quiet.quiet row' found waiting)

theorem unassigned (keeps : Keeps held before after) (unassigned : before.Unassigned) : after.Unassigned := by
  intro a' member pending
  obtain ⟨a, old, -, rfl | quiet⟩ := keeps.attempt_origin member
  · exact unassigned a' old pending
  · have before : a.status = .pending := by
      by_contra started
      exact quiet.step.evolves.started started pending
    rcases quiet.step.assigned_cases with same | ⟨request, assignment, rfl, -⟩
    · rw [same]
      exact unassigned a old before
    · cases pending

end Keeps

/-! ## The next attempt of a run -/

/-- A new run with its first attempt, or an old one with one attempt more. -/
structure Adds (before after : Db) (row : RunRow) (attempt : AgentRunAttempt) : Prop where
  runs : after.runs = before.runs.put row
  attempts : after.attempts = before.attempts.put attempt
  new : before.attempts.get? attempt.id = none
  runID : attempt.runID = row.run.id
  tenantID : attempt.tenantID = row.run.tenantID
  number : attempt.attemptNumber = row.run.attemptCount
  pending : attempt.status = .pending
  unassigned : attempt.assignment = none
  follows : before.runs.get? row.run.id = none ∧ row.run.attemptCount = 1 ∨
    ∃ old, before.runs.get? row.run.id = some old ∧ old.run.tenantID = row.run.tenantID ∧ 1 ≤ old.run.attemptCount ∧
      row.run.attemptCount = old.run.attemptCount + 1

namespace Adds

variable {before after : Db} {row : RunRow} {attempt : AgentRunAttempt}

theorem mem_runs (adds : Adds before after row attempt) {r : RunRow} :
    r ∈ after.runs ↔ r = row ∨ r ∈ before.runs ∧ r.run.id ≠ row.run.id := by
  rw [adds.runs]
  exact Table.mem_put

theorem mem_attempts (adds : Adds before after row attempt) {a : AgentRunAttempt} :
    a ∈ after.attempts ↔ a = attempt ∨ a ∈ before.attempts := by
  rw [adds.attempts, Table.mem_put]
  have apart := Table.get?_eq_none.mp adds.new
  exact or_congr_right ⟨fun old => old.1, fun old => ⟨old, apart a old⟩⟩

theorem one_le (adds : Adds before after row attempt) : 1 ≤ row.run.attemptCount := by
  rcases adds.follows with ⟨-, first⟩ | ⟨old, -, -, low, next⟩ <;> omega

/-- The earlier attempts of the run have smaller numbers. -/
theorem earlier (adds : Adds before after row attempt) (numbered : before.Numbered) {a : AgentRunAttempt}
    (member : a ∈ before.attempts) (run : a.runID = row.run.id) :
    row.run.tenantID = a.tenantID ∧ 1 ≤ a.attemptNumber ∧ a.attemptNumber < row.run.attemptCount := by
  obtain ⟨old, found, tenant, low, high⟩ := numbered.owned a member
  rw [run] at found
  rcases adds.follows with ⟨absent, -⟩ | ⟨old', found', tenant', -, next⟩
  · rw [absent] at found
    cases found
  · rw [found'] at found
    cases found
    exact ⟨tenant'.symm.trans tenant, low, by omega⟩

theorem numbered (adds : Adds before after row attempt) (numbered : before.Numbered) : after.Numbered := by
  constructor
  · intro a member
    rcases adds.mem_attempts.mp member with rfl | old
    · refine ⟨row, ?_, adds.tenantID.symm, ?_, ?_⟩
      · rw [adds.runs, adds.runID]
        exact Table.get?_put_self
      · rw [adds.number]
        exact adds.one_le
      · rw [adds.number]
    · by_cases here : a.runID = row.run.id
      · obtain ⟨tenant, low, less⟩ := adds.earlier numbered old here
        refine ⟨row, ?_, tenant, low, by omega⟩
        rw [adds.runs, here]
        exact Table.get?_put_self
      · obtain ⟨other, found, rest⟩ := numbered.owned a old
        refine ⟨other, ?_, rest⟩
        rw [adds.runs, Table.get?_put_ne (r := row) (Ne.symm here), found]
  · intro r member n low high
    rcases adds.mem_runs.mp member with rfl | ⟨old, -⟩
    · by_cases last : n = r.run.attemptCount
      · exact ⟨attempt, adds.mem_attempts.mpr (.inl rfl), adds.runID, adds.number.trans last.symm⟩
      · rcases adds.follows with ⟨-, first⟩ | ⟨previous, found, -, -, next⟩
        · omega
        · obtain ⟨a, memA, run, number⟩ := numbered.complete previous (Table.mem_of_get? found) n low (by omega)
          have id := Table.key_of_get? found
          exact ⟨a, adds.mem_attempts.mpr (.inr memA), run.trans id, number⟩
    · obtain ⟨a, memA, rest⟩ := numbered.complete r old n low high
      exact ⟨a, adds.mem_attempts.mpr (.inr memA), rest⟩
  · intro a memA b memB run number
    rcases adds.mem_attempts.mp memA with rfl | oldA <;> rcases adds.mem_attempts.mp memB with rfl | oldB
    · rfl
    · have less := (adds.earlier numbered oldB (run.symm.trans adds.runID)).2.2
      rw [← number, adds.number] at less
      exact absurd less (lt_irrefl _)
    · have less := (adds.earlier numbered oldA (run.trans adds.runID)).2.2
      rw [number, adds.number] at less
      exact absurd less (lt_irrefl _)
    · exact numbered.unique a oldA b oldB run number

theorem waits (adds : Adds before after row attempt) (numbered : before.Numbered) (waits : before.Waits) : after.Waits := by
  intro r memRow waiting a memA run number
  rcases adds.mem_attempts.mp memA with rfl | oldA
  · exact adds.pending
  · rcases adds.mem_runs.mp memRow with rfl | ⟨old, -⟩
    · have less := (adds.earlier numbered oldA run).2.2
      exact absurd number (ne_of_lt less)
    · exact waits r old waiting a oldA run number

theorem unassigned' (adds : Adds before after row attempt) (unassigned : before.Unassigned) : after.Unassigned := by
  intro a member pending
  rcases adds.mem_attempts.mp member with rfl | old
  · exact adds.unassigned
  · exact unassigned a old pending

end Adds

end AgentForge.Platform
