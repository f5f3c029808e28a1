import AgentForge.Lib.Machine
import AgentForge.Platform.Queue

/-!
# The outbox and its relays

Committed events wait in `outbox_events`; relays claim them for a time, publish them and mark them
(`adapters/postgres/outbox.go`, `application/outbox/relay.go`). Each of these calls is one UPDATE or DELETE that
commits alone. A row that it writes is locked from the moment its conditions were checked to the commit, so that
a call takes effect at once; rows that others hold locked are passed over by a claim, and the order in which
`UPDATE ... RETURNING` lists the claimed rows is not determined.

The claim of a row is one optional record, since a CHECK binds its two columns; the columns of a publication
belong to the disposition PUBLISHED for the same reason.
-/

set_option autoImplicit false

namespace AgentForge.Relay

open Operator Platform Lib

/-! ## Rows -/

inductive Disposition
  | pending
  | published (at_ : Time) (partition offset : Int)
  | terminal
  deriving DecidableEq

/-- The columns `claimed_by` and `claim_expires_at`. -/
structure Claim where
  owner : String
  expiresAt : Time
  deriving DecidableEq

/-- The columns `last_failure_*`. -/
structure LastFailure where
  category : String
  reason : String
  at_ : Time
  deriving DecidableEq

/-- A row of `outbox_events`. -/
structure OutboxRow where
  event : OutboxEvent
  disposition : Disposition
  nextAttemptAt : Time
  publicationAttempts : Nat
  claim : Option Claim
  lastFailure : Option LastFailure
  createdAt : Time
  deriving DecidableEq

abbrev Outbox := Table fun row : OutboxRow => row.event.eventID

/-- The row that a business transaction inserts. -/
def insertOutboxEvent (event : OutboxEvent) : OutboxRow where
  event := event
  disposition := .pending
  nextAttemptAt := pgTime event.occurredAt
  publicationAttempts := 0
  claim := none
  lastFailure := none
  createdAt := pgTime event.occurredAt

/-! ## Claim -/

/-- The `where` clause of a claim. -/
def OutboxRow.claimable (row : OutboxRow) (now : Time) : Bool :=
  row.disposition == .pending && row.nextAttemptAt ≤ pgTime now && row.claim.all fun claim => claim.expiresAt ≤ pgTime now

/-- `order by next_attempt_at, created_at, event_id`. -/
def OutboxRow.precedes (a b : OutboxRow) : Bool :=
  if a.nextAttemptAt ≠ b.nextAttemptAt then a.nextAttemptAt < b.nextAttemptAt
  else if a.createdAt ≠ b.createdAt then a.createdAt < b.createdAt
  else a.event.eventID.digits ≤ b.event.eventID.digits

def Outbox.candidates (outbox : Outbox) (now : Time) : List OutboxRow :=
  (outbox.rows.filter fun row => row.claimable now).insertionSort fun a b => a.precedes b

/-- The rows that a claim takes; `locked` are those that other transactions hold. -/
def Outbox.taken (outbox : Outbox) (now : Time) (limit : Nat) (locked : List UUID) : List OutboxRow :=
  ((outbox.candidates now).filter fun row => !locked.contains row.event.eventID).take limit

def OutboxRow.claimedBy (row : OutboxRow) (owner : String) (now : Time) (lease : Duration) : OutboxRow :=
  { row with claim := some ⟨owner, pgTime (now + lease)⟩ }

def Outbox.claim (outbox : Outbox) (owner : String) (now : Time) (lease : Duration) (limit : Nat) (locked : List UUID) :
    Outbox :=
  ((outbox.taken now limit locked).map fun row => row.claimedBy owner now lease).foldl Table.put outbox

/-! ## Mark -/

/-- `where event_id = $4 and disposition = 'PENDING' and claimed_by = $5`. -/
def OutboxRow.heldBy (row : OutboxRow) (owner : String) : Bool :=
  row.disposition == .pending && row.claim.any fun claim => claim.owner == owner

/-- Change the row of an event while the owner holds its claim; `none` if no row matches. -/
def Outbox.update (outbox : Outbox) (eventID : UUID) (owner : String) (change : OutboxRow → OutboxRow) : Option Outbox :=
  match outbox.get? eventID with
  | some row => if row.heldBy owner then some (outbox.put (change row)) else none
  | none => none

/-- The columns that `MarkPublished` sets. -/
def OutboxRow.publish (row : OutboxRow) (now : Time) (partition offset : Int) : OutboxRow :=
  { row with
    disposition := .published (pgTime now) partition offset
    publicationAttempts := row.publicationAttempts + 1
    claim := none
    lastFailure := none }

def markPublished (outbox : Outbox) (eventID : UUID) (owner : String) (now : Time) (partition offset : Int) :
    Option Outbox :=
  outbox.update eventID owner fun row => row.publish now partition offset

/-- The interval before the next attempt, without its jitter. -/
def backoff (attempts : Nat) : Duration :=
  match attempts with
  | 0 => second
  | 1 => 5 * second
  | 2 => 30 * second
  | 3 => 120 * second
  | _ => 600 * second

/-- The interval times 0.8 to 1.2, by the hash of the event and the attempt (`hashtextextended`). -/
def jittered (hash : Int) (attempts : Nat) : Duration := backoff attempts * (80 + (hash.natAbs % 41 : Nat)) / 100

/-- The columns that `MarkFailed` sets. -/
def OutboxRow.fail (hash : UUID → Nat → Int) (row : OutboxRow) (now : Time) (category reason : String) (permanent : Bool) :
    OutboxRow :=
  { row with
    disposition := if permanent then .terminal else .pending
    publicationAttempts := row.publicationAttempts + 1
    nextAttemptAt := if permanent then pgTime now
      else pgTime now + jittered (hash row.event.eventID row.publicationAttempts) row.publicationAttempts
    claim := none
    lastFailure := some ⟨category, String.ofList (reason.toList.take 1000), pgTime now⟩ }

def markFailed (hash : UUID → Nat → Int) (outbox : Outbox) (eventID : UUID) (owner : String) (now : Time)
    (category reason : String) (permanent : Bool) : Option Outbox :=
  outbox.update eventID owner fun row => row.fail hash now category reason permanent

/-! ## Cleanup -/

/-- `disposition = 'PUBLISHED' and published_at < $1`. -/
def OutboxRow.expired (row : OutboxRow) (before : Time) : Bool :=
  match row.disposition with
  | .published at_ _ _ => at_ < pgTime before
  | _ => false

/-- `order by published_at, event_id`. -/
def OutboxRow.publishedBefore (a b : OutboxRow) : Bool :=
  match a.disposition, b.disposition with
  | .published s _ _, .published t _ _ => if s ≠ t then s < t else a.event.eventID.digits ≤ b.event.eventID.digits
  | _, _ => true

def Outbox.obsolete (outbox : Outbox) (before : Time) (limit : Nat) : List OutboxRow :=
  ((outbox.rows.filter fun row => row.expired before).insertionSort fun a b => a.publishedBefore b).take limit

def cleanupPublished (outbox : Outbox) (before : Time) (limit : Nat) : Outbox :=
  outbox.filter fun row => !((outbox.obsolete before limit).map fun old => old.event.eventID).contains row.event.eventID

/-! ## Relays -/

/-- An error of `Publish`: how it is classified, if it is, and its bounded message, if it has one. -/
structure PublishError where
  classified : Option Bool
  safeMessage : Option String
  deriving DecidableEq

def PublishError.permanent (error : PublishError) : Bool := error.classified.getD false

def failureCategory (permanent : Bool) : String := if permanent then "PERMANENT" else "TRANSIENT"

def safeFailureReason (error : PublishError) : String :=
  match error.safeMessage with
  | some message => if isBlank message then "event publication failed" else trimSpace message
  | none => "event publication failed"

/-- What `Publish` returns. The broker may have appended the record although the answer is an error. -/
inductive Publication
  | accepted (partition offset : Int)
  | failed (error : PublishError) (appended : Bool)
  deriving DecidableEq

def Publication.appended : Publication → Bool
  | accepted _ _ => true
  | failed _ appended => appended

def Publication.permanent : Publication → Bool
  | accepted _ _ => false
  | failed error _ => error.permanent

/-- Where `RunOnce` is: before the claim, before the publication of the first event of its batch, or before the
mark of an event. -/
inductive Stage
  | idle
  | publishing (batch : List OutboxEvent)
  | marking (event : OutboxEvent) (publication : Publication) (rest : List OutboxEvent)
  deriving DecidableEq

/-- The loop over the batch. -/
def Stage.loop : List OutboxEvent → Stage
  | [] => idle
  | batch => publishing batch

/-- The events that are still to be published. -/
def Stage.batch : Stage → List OutboxEvent
  | publishing batch => batch
  | marking _ _ rest => rest
  | idle => []

structure Worker where
  owner : String
  stage : Stage
  deriving DecidableEq

structure System where
  outbox : Outbox
  /-- The relay processes; no two have the same owner name. -/
  workers : Table fun worker : Worker => worker.owner
  /-- The events that business transactions have committed, in this order. -/
  committed : List OutboxEvent
  /-- The records that the broker has appended, in this order. -/
  broker : List OutboxEvent
  /-- The events whose publication failed with an error classified permanent. -/
  refused : List UUID

/-- The events that a claim returns, in the order in which `UPDATE ... RETURNING` lists their rows. -/
def System.claimed (s : System) (returned : List UUID) : List OutboxEvent :=
  returned.filterMap fun id => (s.outbox.get? id).map fun row => row.event

inductive Action
  | commit (event : OutboxEvent)
  | start (owner : String)
  | claim (owner : String) (now : Time) (lease : Duration) (limit : Nat) (locked returned : List UUID)
  | publish (owner : String) (publication : Publication)
  | mark (owner : String) (now : Time)
  /-- The statement of the mark fails, and the loop goes on. -/
  | unmarked (owner : String)
  | crash (owner : String)
  | cleanup (before : Time) (limit : Nat)

/-- `MarkPublished` or `MarkFailed`, as the publication ended. -/
def Publication.mark (hash : UUID → Nat → Int) (outbox : Outbox) (eventID : UUID) (owner : String) (now : Time) :
    Publication → Option Outbox
  | accepted partition offset => markPublished outbox eventID owner now partition offset
  | failed error _ =>
    markFailed hash outbox eventID owner now (failureCategory error.permanent) (safeFailureReason error) error.permanent

section Step

variable (hash : UUID → Nat → Int)

/-- One step. Business transactions commit the events of a run in the order of their versions
(`Platform.events_numbered`), with new identifiers. -/
def step (s : System) : Action → Option System
  | .commit event =>
    if (∀ e ∈ s.committed, e.eventID ≠ event.eventID) ∧
        ∀ e ∈ s.committed, e.runID = event.runID → e.aggregateVersion < event.aggregateVersion then
      some { s with outbox := s.outbox.put (insertOutboxEvent event), committed := s.committed ++ [event] }
    else none
  | .start owner =>
    if owner ≠ "" ∧ s.workers.get? owner = none then some { s with workers := s.workers.put ⟨owner, .idle⟩ } else none
  | .claim owner now lease limit locked returned =>
    match s.workers.get? owner with
    | some ⟨_, .idle⟩ =>
      if 0 < lease ∧ 0 < limit ∧ limit ≤ 1000 ∧
          returned.isPerm ((s.outbox.taken now limit locked).map fun row => row.event.eventID) then
        some { s with
          outbox := s.outbox.claim owner now lease limit locked
          workers := s.workers.put ⟨owner, .loop (s.claimed returned)⟩ }
      else none
    | _ => none
  | .publish owner publication =>
    match s.workers.get? owner with
    | some ⟨_, .publishing (event :: rest)⟩ =>
      some { s with
        broker := if publication.appended then s.broker ++ [event] else s.broker
        refused := if publication.permanent then s.refused ++ [event.eventID] else s.refused
        workers := s.workers.put ⟨owner, .marking event publication rest⟩ }
    | _ => none
  | .mark owner now =>
    match s.workers.get? owner with
    | some ⟨_, .marking event publication rest⟩ =>
      some { s with
        outbox := (publication.mark hash s.outbox event.eventID owner now).getD s.outbox
        workers := s.workers.put ⟨owner, .loop rest⟩ }
    | _ => none
  | .unmarked owner =>
    match s.workers.get? owner with
    | some ⟨_, .marking _ _ rest⟩ => some { s with workers := s.workers.put ⟨owner, .loop rest⟩ }
    | _ => none
  | .crash owner => some { s with workers := s.workers.filter fun worker => worker.owner != owner }
  | .cleanup before limit =>
    if 0 < limit ∧ limit ≤ 10000 then some { s with outbox := cleanupPublished s.outbox before limit } else none

def System.initial : System := ⟨.empty, .empty, [], [], []⟩

end Step

end AgentForge.Relay
