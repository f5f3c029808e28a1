import AgentForge.Lib.JsonLines
import AgentForge.Runner.Run

/-!
# The trajectory

`TrajectorySink` (`agent-runner/internal/runner/trajectory.go`). Every `Emit` takes the next sequence number, and then writes its
record to the log and, if the log took it, to the trajectory. The runner stops at a write that fails, but its heartbeats go on: the
number of a lost heartbeat is missing from the trajectory, and the manifest claims it (`trajectory_claimed_iff`).
-/

set_option autoImplicit false

namespace AgentForge.Runner

open Lib
open Lib.Field (value_str value_num)

/-! ## The sink -/

/-- What the log made of a line. The writer of both goes on to the trajectory only if the log took the whole line. -/
inductive LogWrite
  | whole
  | short
  | failed (reason : String)
  deriving DecidableEq

def LogWrite.result : LogWrite → Except String Unit
  | whole => .ok ()
  | short => .error "short write"
  | failed reason => .error reason

def TrajectoryRecord.document (record : TrajectoryRecord) : Json := .obj
  (Json.member "schemaVersion" (.num record.schemaVersion) <|
    Json.member "sequence" (.num record.sequence) <|
    Json.member "timestamp" (.str record.timestamp) <|
    Json.member "type" (.str record.type) <|
    Json.omitEmpty "message" (record.message == "") (.str record.message) [])

/-- A call of `Emit`, with the time and the write that it gets. -/
structure Emission where
  kind : String
  message : String
  now : String
  log : LogWrite
  deriving DecidableEq

structure TrajectorySink where
  /-- A `uint64`. -/
  sequence : Nat
  trajectory : String

section Sink

variable (redact : String → String)

def TrajectorySink.emit (sink : TrajectorySink) (emission : Emission) : Except String Unit × TrajectorySink :=
  let sequence := (sink.sequence + 1) % 2 ^ 64
  let record : TrajectoryRecord := ⟨1, sequence, emission.now, emission.kind, redact emission.message⟩
  match emission.log.result with
  | .error reason => (.error reason, { sink with sequence })
  | .ok () => (.ok (), ⟨sequence, sink.trajectory ++ JsonText.marshal record.document ++ "\n"⟩)

def TrajectorySink.emitAll (sink : TrajectorySink) : List Emission → TrajectorySink
  | [] => sink
  | emission :: rest => (sink.emit redact emission).2.emitAll rest

/-- The sink of `NewTrajectorySink` after some calls. -/
def sinkAfter (emissions : List Emission) : TrajectorySink := TrajectorySink.emitAll redact ⟨0, ""⟩ emissions

/-- The records that reach the trajectory, after `n` calls before. -/
def recordsFrom : Nat → List Emission → List TrajectoryRecord
  | _, [] => []
  | n, emission :: rest =>
    if emission.log = .whole then
      ⟨1, (n + 1) % 2 ^ 64, emission.now, emission.kind, redact emission.message⟩ :: recordsFrom (n + 1) rest
    else recordsFrom (n + 1) rest

variable {redact}

theorem emit_whole {sink : TrajectorySink} {emission : Emission} (whole : emission.log = .whole) :
    (sink.emit redact emission).2 = ⟨(sink.sequence + 1) % 2 ^ 64, sink.trajectory ++ JsonText.marshal (TrajectoryRecord.document
      ⟨1, (sink.sequence + 1) % 2 ^ 64, emission.now, emission.kind, redact emission.message⟩) ++ "\n"⟩ := by
  simp only [TrajectorySink.emit, whole, LogWrite.result]

theorem emit_lost {sink : TrajectorySink} {emission : Emission} (lost : emission.log ≠ .whole) :
    (sink.emit redact emission).2 = { sink with sequence := (sink.sequence + 1) % 2 ^ 64 } := by
  unfold TrajectorySink.emit
  cases write : emission.log with
  | whole => exact absurd write lost
  | short => rfl
  | failed reason => rfl

/-- The trajectory has the records on a line each. -/
theorem trajectory_emitAll (n : Nat) (text : String) (emissions : List Emission) :
    (TrajectorySink.emitAll redact ⟨n % 2 ^ 64, text⟩ emissions).trajectory =
      text ++ String.ofList (JsonText.lines ((recordsFrom redact n emissions).map TrajectoryRecord.document)) := by
  induction emissions generalizing n text with
  | nil => simp [TrajectorySink.emitAll, recordsFrom, JsonText.lines]
  | cons emission rest ih =>
    have next : (n % 2 ^ 64 + 1) % 2 ^ 64 = (n + 1) % 2 ^ 64 := Nat.mod_add_mod _ _ _
    rw [TrajectorySink.emitAll, recordsFrom]
    by_cases whole : emission.log = .whole
    · rw [emit_whole whole, if_pos whole]
      dsimp only
      rw [next, ih]
      refine String.toList_injective ?_
      simp [JsonText.lines, JsonText.marshal]
    · rw [emit_lost whole, if_neg whole]
      dsimp only
      rw [next, ih]

theorem trajectory_sinkAfter (emissions : List Emission) : (sinkAfter redact emissions).trajectory =
    String.ofList (JsonText.lines ((recordsFrom redact 0 emissions).map TrajectoryRecord.document)) := by
  rw [sinkAfter, ← Nat.zero_mod (2 ^ 64), trajectory_emitAll, Nat.zero_mod, String.empty_append]

end Sink

/-! ## What the manifest claims -/

def readRecord (line : List Char) : Option TrajectoryRecord :=
  (JsonText.unmarshal (String.ofList line)).bind (decodeStruct false trajectoryFields ⟨0, 0, "", "", ""⟩)

/-- The sequence numbers of the records in a text. -/
def recordedSequences (contents : String) : List Nat :=
  ((contents.toList.splitOn '\n').filterMap readRecord).map (·.sequence)

/-- The sequence numbers from the first to the last one of a manifest. -/
def claimedSequences : Json → Option (List Nat)
  | .obj members => do
    let first ← (members.lookup "trajectoryFirstSequence").bind Json.asInt
    let last ← (members.lookup "trajectoryLastSequence").bind Json.asInt
    return List.range' first.toNat (last.toNat + 1 - first.toNat)
  | _ => none

theorem trajectory_names :
    trajectoryFields.map Field.name = ["schemaVersion", "sequence", "timestamp", "type", "message"] := rfl

theorem asUint_num {n : Nat} (small : n < 2 ^ 64) : asUint (.num n) = some n := by
  rw [asUint, Json.asInt, Option.bind_some, if_pos ⟨Int.natCast_nonneg n, by exact_mod_cast small⟩, Int.toNat_natCast]

/-- A record is read back. -/
theorem readRecord_print {record : TrajectoryRecord} (version : record.schemaVersion = 1) (small : record.sequence < 2 ^ 64) :
    readRecord (JsonText.print record.document) = some record := by
  obtain ⟨schemaVersion, sequence, timestamp, type, message⟩ := record
  obtain rfl : schemaVersion = 1 := version
  have shallow : (TrajectoryRecord.document ⟨1, sequence, timestamp, type, message⟩).depth ≤ JsonText.maxNesting := by
    simp [TrajectoryRecord.document, JsonText.maxNesting]
  have one : asInt (.num 1) = some 1 := by decide
  have number := asUint_num small
  rw [readRecord, ← JsonText.marshal, JsonText.unmarshal_marshal shallow, Option.bind_some, TrajectoryRecord.document,
    decodeStruct]
  refine decode_member trajectory_names 0 (by decide) rfl (value_num one) ?_
  refine decode_member trajectory_names 1 (by decide) rfl (value_num number) ?_
  refine decode_member trajectory_names 2 (by decide) rfl (value_str rfl) ?_
  refine decode_member trajectory_names 3 (by decide) rfl (value_str rfl) ?_
  refine decode_omitEmpty trajectory_names 4 (by decide) rfl (value_str rfl) (fun empty => ?_) rfl
  obtain rfl : message = "" := beq_iff_eq.mp empty
  rfl

theorem readRecord_nil : readRecord [] = none := by
  have unread : JsonText.unmarshal (String.ofList []) = none := by
    simp [JsonText.unmarshal, JsonText.firstDocument, JsonText.document]
  rw [readRecord, unread]
  rfl

/-- The lines of a trajectory are its records and an empty one. -/
theorem filterMap_readRecord {records : List TrajectoryRecord}
    (emitted : ∀ record ∈ records, record.schemaVersion = 1 ∧ record.sequence < 2 ^ 64) :
    ((JsonText.lines (records.map TrajectoryRecord.document)).splitOn '\n').filterMap readRecord = records := by
  rw [JsonText.splitOn_lines, List.filterMap_append, List.map_map]
  induction records with
  | nil => exact List.filterMap_cons_none readRecord_nil
  | cons record rest ih =>
    obtain ⟨⟨version, small⟩, others⟩ := List.forall_mem_cons.mp emitted
    rw [List.map_cons, Function.comp_apply, List.filterMap_cons_some (readRecord_print version small), List.cons_append,
      ih others]

theorem foldl_lastRecord {step : Nat → List Char → Nat}
    (steps : ∀ last line, step last line = ((readRecord line).map (·.sequence)).getD last) (found : List (List Char)) (last : Nat) :
    found.foldl step last = ((found.filterMap readRecord).map (·.sequence)).getLastD last := by
  induction found generalizing last with
  | nil => rfl
  | cons line rest ih =>
    rw [List.foldl_cons, ih, steps]
    cases read : readRecord line with
    | none => rw [List.filterMap_cons_none read, Option.map_none, Option.getD_none]
    | some record =>
      rw [List.filterMap_cons_some read, List.map_cons, List.getLastD_cons, Option.map_some, Option.getD_some]

/-- The number of the last line that is a record. -/
theorem trajectorySequence_eq (contents : String) : trajectorySequence contents = (recordedSequences contents).getLastD 0 := by
  refine foldl_lastRecord (fun last line => ?_) _ 0
  unfold readRecord
  cases (JsonText.unmarshal (String.ofList line)).bind (decodeStruct false trajectoryFields ⟨0, 0, "", "", ""⟩) <;> rfl

theorem claimedSequences_resultManifest (config : RuntimeConfig) (published : List ArtifactObject) (trajectory : String) :
    claimedSequences (resultManifest config published trajectory) = some (List.range' 1 (trajectorySequence trajectory)) := rfl

/-! ## Numbers -/

/-- The sequence numbers of the records that reach the trajectory, after `n` calls before. -/
def numbersFrom : Nat → List Emission → List Nat
  | _, [] => []
  | n, emission :: rest =>
    if emission.log = .whole then (n + 1) % 2 ^ 64 :: numbersFrom (n + 1) rest else numbersFrom (n + 1) rest

section Numbers

variable {redact : String → String}

theorem sequence_recordsFrom (n : Nat) (emissions : List Emission) :
    (recordsFrom redact n emissions).map (·.sequence) = numbersFrom n emissions := by
  induction emissions generalizing n with
  | nil => rfl
  | cons emission rest ih =>
    rw [recordsFrom, numbersFrom]
    split
    · rw [List.map_cons, ih]
    · exact ih (n + 1)

theorem emitted_recordsFrom (n : Nat) (emissions : List Emission) :
    ∀ record ∈ recordsFrom redact n emissions, record.schemaVersion = 1 ∧ record.sequence < 2 ^ 64 := by
  induction emissions generalizing n with
  | nil => exact fun _ none => nomatch none
  | cons emission rest ih =>
    rw [recordsFrom]
    split
    · exact List.forall_mem_cons.mpr ⟨⟨rfl, Nat.mod_lt _ (by decide)⟩, ih (n + 1)⟩
    · exact ih (n + 1)

/-- What is found in the trajectory after some calls. -/
theorem recordedSequences_sinkAfter (emissions : List Emission) :
    recordedSequences (sinkAfter redact emissions).trajectory = numbersFrom 0 emissions := by
  rw [recordedSequences, trajectory_sinkAfter, String.toList_ofList, filterMap_readRecord (emitted_recordsFrom 0 emissions),
    sequence_recordsFrom]

theorem numbersFrom_concat (n : Nat) (emissions : List Emission) (last : Emission) :
    numbersFrom n (emissions ++ [last]) =
      numbersFrom n emissions ++ if last.log = .whole then [(n + emissions.length + 1) % 2 ^ 64] else [] := by
  induction emissions generalizing n with
  | nil => rfl
  | cons emission rest ih =>
    have length : n + (emission :: rest).length = n + 1 + rest.length := by
      rw [List.length_cons]
      omega
    rw [List.cons_append, numbersFrom, numbersFrom, length, ih (n + 1)]
    split <;> rfl

/-- Numbers that count up to their last one count up to how many they are. -/
theorem eq_range'_getLastD_iff {numbers : List Nat} :
    numbers = List.range' 1 (numbers.getLastD 0) ↔ numbers = List.range' 1 numbers.length := by
  have counted : ∀ k, (List.range' 1 k).getLastD 0 = k := by
    intro k
    cases k with
    | zero => rfl
    | succ k => simp [List.range'_concat, Nat.add_comm]
  constructor
  · intro upTo
    have length := congrArg List.length upTo
    rw [List.length_range'] at length
    rw [length]
    exact upTo
  · intro all
    have last := counted numbers.length
    rw [← all] at last
    rw [last]
    exact all

end Numbers

/-- The writes that the log lost. -/
def lost (emissions : List Emission) : Nat := emissions.countP fun emission => emission.log ≠ .whole

/-- The writes that the log took. -/
def taken (emissions : List Emission) : Nat := emissions.countP fun emission => emission.log = .whole

/-- Nothing was lost before a write that the log took, up to a whole turn of the counter, and the counter made no turn with the
writes it took. -/
def Unbroken (emissions : List Emission) : Prop :=
  ∀ before emission after, emissions = before ++ emission :: after → emission.log = .whole →
    2 ^ 64 ∣ lost before ∧ taken before + 1 < 2 ^ 64

theorem lost_add_taken (emissions : List Emission) : lost emissions + taken emissions = emissions.length := by
  have split := List.length_eq_countP_add_countP (fun emission : Emission => decide (emission.log = .whole)) (l := emissions)
  have others : lost emissions = emissions.countP fun emission => decide ¬ decide (emission.log = .whole) = true :=
    List.countP_congr fun emission _ => by simp
  rw [others, taken]
  omega

theorem length_numbersFrom (n : Nat) (emissions : List Emission) : (numbersFrom n emissions).length = taken emissions := by
  induction emissions generalizing n with
  | nil => rfl
  | cons emission rest ih =>
    rw [numbersFrom, taken, List.countP_cons, ← taken, ← ih (n + 1)]
    split <;> simp_all

theorem unbroken_concat {emissions : List Emission} {last : Emission} : Unbroken (emissions ++ [last]) ↔
    Unbroken emissions ∧ (last.log = .whole → 2 ^ 64 ∣ lost emissions ∧ taken emissions + 1 < 2 ^ 64) := by
  constructor
  · intro unbroken
    refine ⟨fun before emission after parts => unbroken before emission (after ++ [last]) ?_, unbroken emissions last [] rfl⟩
    rw [parts, List.append_assoc, List.cons_append]
  · rintro ⟨unbroken, ended⟩ before emission after parts
    rcases List.eq_nil_or_concat after with rfl | ⟨after, final, rfl⟩
    · obtain ⟨rfl, same⟩ := List.append_inj' parts rfl
      cases same
      exact ended
    · rw [List.concat_eq_append, ← List.cons_append, ← List.append_assoc] at parts
      exact unbroken before emission after (List.append_inj' parts rfl).1

/-- The number after `lost + taken` calls. -/
theorem mod_eq_succ_iff {lost taken : Nat} :
    (lost + taken + 1) % 2 ^ 64 = taken + 1 ↔ 2 ^ 64 ∣ lost ∧ taken + 1 < 2 ^ 64 := by
  omega

/-- The numbers in the trajectory count up from one exactly if nothing was lost before. -/
theorem numbersFrom_eq_iff (emissions : List Emission) :
    numbersFrom 0 emissions = List.range' 1 (taken emissions) ↔ Unbroken emissions := by
  induction emissions using List.reverseRecOn with
  | nil => exact ⟨fun _ before emission after parts => by simp at parts, fun _ => rfl⟩
  | append_singleton emissions last ih =>
    have length := lost_add_taken emissions
    rw [numbersFrom_concat, unbroken_concat, taken, List.countP_append, ← taken, ← ih]
    by_cases whole : last.log = .whole
    · have one : [last].countP (fun emission => emission.log = .whole) = 1 := by simp [whole]
      rw [if_pos whole, one, List.range'_concat, Nat.one_mul, Nat.zero_add, ← length, Nat.add_comm 1]
      refine ⟨fun same => ?_, fun ⟨earlier, now⟩ => ?_⟩
      · obtain ⟨earlier, now⟩ := List.append_inj' same rfl
        exact ⟨earlier, fun _ => mod_eq_succ_iff.mp (List.singleton_inj.mp now)⟩
      · rw [earlier, mod_eq_succ_iff.mpr (now whole)]
    · have none : [last].countP (fun emission => emission.log = .whole) = 0 := by simp [whole]
      rw [if_neg whole, none, List.append_nil, Nat.add_zero]
      exact ⟨fun earlier => ⟨earlier, fun taken => absurd taken whole⟩, And.left⟩

/-- What a manifest claims is in the trajectory exactly if nothing was lost before. -/
theorem claimed_sinkAfter_iff (redact : String → String) (config : RuntimeConfig) (published : List ArtifactObject)
    (emissions : List Emission) :
    claimedSequences (resultManifest config published (sinkAfter redact emissions).trajectory) =
        some (recordedSequences (sinkAfter redact emissions).trajectory) ↔
      numbersFrom 0 emissions = List.range' 1 (taken emissions) := by
  rw [claimedSequences_resultManifest, trajectorySequence_eq, recordedSequences_sinkAfter, Option.some_inj, eq_comm,
    eq_range'_getLastD_iff, length_numbersFrom]

/-! ## The runner and its heartbeats -/

/-- What happens around a run: the writes that the runner's records get, and the heartbeats between its calls. -/
structure Surroundings where
  /-- The time and the write of the record that the runner emits after some events. -/
  records : List (Event Op Op.Res) → String × LogWrite
  /-- The heartbeats between these events and the next one. -/
  heartbeats : List (Event Op Op.Res) → List (String × LogWrite)

/-- The goroutine of the heartbeats is started once there is a redactor, and may go on after it was told to stop. -/
def heartbeating (log : List (Event Op Op.Res)) : Bool :=
  log.any fun event =>
    match event with
    | ⟨.newRedactor .., .ok ()⟩ => true
    | _ => false

namespace Surroundings

variable (around : Surroundings)

def beats (log : List (Event Op Op.Res)) : List Emission :=
  if heartbeating log then (around.heartbeats log).map fun (now, write) => ⟨"heartbeat", "runner is active", now, write⟩ else []

def record (log : List (Event Op Op.Res)) (kind message : String) : Emission :=
  ⟨kind, message, (around.records log).1, (around.records log).2⟩

/-- All calls of `Emit` before the call that follows these events, in their order. -/
def emissions : List (Event Op Op.Res) → List Emission
  | [] => around.beats []
  | ⟨op, answer⟩ :: log =>
    let own := match op with
      | .emit kind message => [around.record log kind message]
      | _ => []
    emissions log ++ own ++ around.beats (⟨op, answer⟩ :: log)

/-- The sink answers `Emit` and the read of the trajectory; the rest is left to `answer`. -/
def recording (redact : String → String) (answer : Oracle Op Op.Res) : Oracle Op Op.Res := fun log op =>
  match op with
  | .emit kind message => ((sinkAfter redact (around.emissions log)).emit redact (around.record log kind message)).1
  | .trajectory => (sinkAfter redact (around.emissions log)).trajectory
  | op => answer log op

end Surroundings

/-- Where the runner reads the trajectory for its publication, the manifest claims the records that are in it exactly if nothing
was lost before a record. -/
theorem trajectory_claimed_iff {library : Library} {files : Files} {options : Options} {redact : String → String}
    {answer : Oracle Op Op.Res} {around : Surroundings} {before : List (Event Op Op.Res)} {trajectory : String}
    (published : ⟨.trajectory, trajectory⟩ :: before <:+
      ((run library files options).run.consult (around.recording redact answer) []).2)
    (config : RuntimeConfig) (objects : List ArtifactObject) :
    claimedSequences (resultManifest config objects trajectory) = some (recordedSequences trajectory) ↔
      Unbroken (around.emissions before) := by
  rcases Prog.answered_of_consult rfl published with none | answered
  · exact absurd (List.suffix_nil.mp none) (List.cons_ne_nil _ _)
  · obtain rfl : trajectory = (sinkAfter redact (around.emissions before)).trajectory := eq_of_heq (Sigma.mk.inj answered).2
    exact (claimed_sinkAfter_iff redact config objects _).trans (numbersFrom_eq_iff _)

/-! ## Runs -/

/-- The log takes every record of the runner. -/
def heartbeatsOnly (heartbeats : List (Event Op Op.Res) → List (String × LogWrite)) : Surroundings :=
  ⟨fun _ => ("2026-01-01T00:00:00Z", .whole), heartbeats⟩

/-- One heartbeat, after the first record. -/
def firstHeartbeat (write : LogWrite) : List (Event Op Op.Res) → List (String × LogWrite)
  | ⟨.emit "run.started" _, _⟩ :: _ => [("2026-01-01T00:00:05Z", write)]
  | _ => []

section Sample

variable {root : String} (heartbeats : List (Event Op Op.Res) → List (String × LogWrite))

abbrev sampleRecording (root : String) : Oracle Op Op.Res := (heartbeatsOnly heartbeats).recording id (sampleAnswer root)

/-- The events of a run up to the last record before the publication. -/
def checksLog (root : String) : List (Event Op Op.Res) :=
  ((runChecks sampleOptions.withDefaults (runtimeConfig (sampleRun sampleTenant)) sampleTask).run.consult
    (sampleRecording heartbeats root) []).2

/-- The events of a run up to the read of its trajectory. -/
def publicationLog (root : String) : List (Event Op Op.Res) :=
  ⟨.evalSymlinks root, .ok root⟩ :: ⟨.evalSymlinks "/workspace", .ok "/workspace"⟩ :: ⟨.mkdirAll root, .ok ()⟩ ::
    checksLog heartbeats root

theorem runChecks_recording : (runChecks sampleOptions.withDefaults (runtimeConfig (sampleRun sampleTenant))
    sampleTask).run.consult (sampleRecording heartbeats root) [] =
      (.ok [⟨["pytest"], 0, "", ""⟩], checksLog heartbeats root) := rfl

theorem published_sample (canonical : (ArtifactStore.filesystem root).Canonical)
    (inside : (Paths.rel "/workspace" root).all Paths.escapes = false) :
    ⟨.trajectory, (sinkAfter id ((heartbeatsOnly heartbeats).emissions (publicationLog heartbeats root))).trajectory⟩ ::
        publicationLog heartbeats root <:+
      ((run sampleLibrary (artifactFiles root) sampleOptions).run.consult (sampleRecording heartbeats root) []).2 := by
  have checks := @runChecks_recording root heartbeats
  have stored := @loadArtifactStore_mounted root (checksLog heartbeats root) (sampleRecording heartbeats root) canonical inside
    (runtimeConfig (sampleRun sampleTenant)).secretRefs (fun _ => rfl)
    (fun log => show sampleAnswer root log (.evalSymlinks "/workspace") = _ by simp [sampleAnswer])
    (fun _ => if_pos (.inr rfl))
  have read : (call .trajectory).consult (sampleRecording heartbeats root) (publicationLog heartbeats root) =
      ((sinkAfter id ((heartbeatsOnly heartbeats).emissions (publicationLog heartbeats root))).trajectory, ⟨.trajectory, _⟩ ::
        publicationLog heartbeats root) := rfl
  have verifier : sampleLibrary.toVerifier = sampleVerifier := rfl
  rw [run, if_neg (by decide)]
  rw [withDefaults_sample] at checks ⊢
  dsimp only
  rw [verifier, consult_bind_of_ok (consult_orExit.mpr ⟨loadRuntimeConfig_sample, rfl⟩),
    consult_bind_of_ok (consult_orExit.mpr ⟨loadSignedTask_artifacts, rfl⟩), consult_bind_of_ok checks, runPublication]
  dsimp only
  rw [consult_bind_of_ok (consult_lift_ok.mpr stored), consult_bind_of_ok (consult_orExit.mpr ⟨rfl, rfl⟩),
    ← publicationLog, consult_bind_of_ok (consult_lift_ok.mpr read)]
  exact Prog.suffix_of_consult (Prod.mk.eta).symm

end Sample

/-- The log takes the heartbeat, and the manifest claims the six records of the trajectory. -/
theorem trajectory_claimed_of_heartbeat : ∃ before trajectory,
    ⟨.trajectory, trajectory⟩ :: before <:+ ((run sampleLibrary (artifactFiles "/workspace/artifacts") sampleOptions).run.consult
      (sampleRecording (firstHeartbeat .whole) "/workspace/artifacts") []).2 ∧
    ∀ config objects, claimedSequences (resultManifest config objects trajectory) = some (recordedSequences trajectory) := by
  refine ⟨_, _, published_sample (firstHeartbeat .whole) canonical_sample sampleRoot.2.2, fun config objects => ?_⟩
  refine (trajectory_claimed_iff (published_sample (firstHeartbeat .whole) canonical_sample sampleRoot.2.2) config objects).mpr ?_
  rw [← numbersFrom_eq_iff]
  decide +kernel

/-- The log loses the heartbeat. The trajectory has no record with its number, and the manifest claims it. -/
theorem trajectory_unclaimed : ∃ before trajectory,
    ⟨.trajectory, trajectory⟩ :: before <:+ ((run sampleLibrary (artifactFiles "/workspace/artifacts") sampleOptions).run.consult
      (sampleRecording (firstHeartbeat (.failed "write /dev/stdout: no space left on device")) "/workspace/artifacts") []).2 ∧
    recordedSequences trajectory = [1, 3, 4, 5, 6] ∧
    ∀ config objects, claimedSequences (resultManifest config objects trajectory) = some [1, 2, 3, 4, 5, 6] := by
  have numbers : numbersFrom 0 ((heartbeatsOnly (firstHeartbeat (.failed "write /dev/stdout: no space left on device"))).emissions
      (publicationLog (firstHeartbeat (.failed "write /dev/stdout: no space left on device")) "/workspace/artifacts")) =
        [1, 3, 4, 5, 6] := by decide +kernel
  refine ⟨_, _, published_sample _ canonical_sample sampleRoot.2.2, ?_, fun config objects => ?_⟩
  · rw [recordedSequences_sinkAfter, numbers]
  · rw [claimedSequences_resultManifest, trajectorySequence_eq, recordedSequences_sinkAfter, numbers]
    rfl

end AgentForge.Runner
