import RetailMedia.Lib.Run
import RetailMedia.Delivery.Events
import RetailMedia.Delivery.Wire

/-! The outbox relay: a single worker that publishes the rows of `outbox_events` and writes down
what became of them, while other transactions add rows. -/

namespace RetailMedia

/-! ## The table -/

inductive OutboxStatus
  | pending
  | publishing
  | published
  | failed
  | deadLetter
  deriving DecidableEq, Repr

/-- What a caller of `enqueue_outbox_event` hands over. -/
structure NewEvent where
  eventType : String
  eventVersion : String := "1.0"
  aggregateType : String
  aggregateId : String
  partitionKey : Option String := none
  payload : Json
  headers : Json := .obj []
  deriving DecidableEq, Repr

structure OutboxRow extends NewEvent where
  id : Nat
  status : OutboxStatus := .pending
  attempts : Nat := 0
  nextAttemptAt : Int
  publishedAt : Option Int := none
  lastError : Option String := none
  createdAt : Int
  deriving DecidableEq, Repr

namespace OutboxRow

/-- The relay may still fetch it. -/
def live (r : OutboxRow) : Bool := r.status = .pending ∨ r.status = .failed

/-- The relay is done with it. -/
def closed (r : OutboxRow) : Bool := r.status = .published ∨ r.status = .deadLetter

/-- The columns of the row that the other transactions write. -/
def event (r : OutboxRow) : OutboxEvent where
  id := r.id
  eventType := r.eventType
  aggregateType := r.aggregateType
  aggregateId := r.aggregateId
  partitionKey := r.partitionKey
  payload := r.payload
  headers := r.headers

end OutboxRow

/-- `enqueue_outbox_event`; the two times are column defaults, each with a clock reading of its
own. -/
def enqueueRow (rows : List OutboxRow) (e : NewEvent) (nextAttemptAt createdAt : Int) :
    List OutboxRow :=
  rows ++ [{ e with
    id := Rows.freshKey (rows.map (·.id))
    nextAttemptAt := nextAttemptAt
    createdAt := createdAt }]

/-- `ORDER BY next_attempt_at`; rows of the same time come in the order that the database happens
to find them in, which `found` gives. -/
def OutboxRow.dueBefore (found : Nat → Nat) (a b : OutboxRow) : Bool :=
  a.nextAttemptAt < b.nextAttemptAt ∨
    (a.nextAttemptAt = b.nextAttemptAt ∧ found a.id ≤ found b.id)

def fetchPendingEvents (rows : List OutboxRow) (now : Int) (limit : Nat) (found : Nat → Nat) :
    List OutboxRow :=
  let due := rows.filter fun r ↦ r.live ∧ r.nextAttemptAt ≤ now
  (due.mergeSort (OutboxRow.dueBefore found)).take limit

def markEventPublished (rows : List OutboxRow) (id : Nat) (now : Int) : List OutboxRow :=
  Rows.updateWhere (·.id = id)
    (fun r ↦ { r with status := .published, publishedAt := some now }) rows

def secondsMicros (n : Nat) : Int := n * secondMicros

/-- `timedelta(seconds=min(2 ** (attempts - 1), 64))`. -/
def retryDelay (attempts : Nat) : Int := secondsMicros (min (2 ^ (attempts - 1)) 64)

/-- The rows, and whether the event has become a dead letter. -/
def markEventFailed (rows : List OutboxRow) (id : Nat) (now : Int) (lastError : String)
    (maxAttempts : Nat) : List OutboxRow × Bool :=
  match (Rows.get (·.id) id rows).map (·.attempts) with
  | none => (rows, false)
  | some attempts =>
      let currentAttempts := attempts + 1
      if currentAttempts ≥ maxAttempts then
        (Rows.updateWhere (·.id = id) (fun r ↦ { r with
          status := .deadLetter
          attempts := currentAttempts
          lastError := some (firstChars 2048 lastError) }) rows, true)
      else
        (Rows.updateWhere (·.id = id) (fun r ↦ { r with
          status := .failed
          attempts := currentAttempts
          nextAttemptAt := now + retryDelay currentAttempts
          lastError := some (firstChars 2048 lastError) }) rows, false)

/-! ## The worker -/

/-- `max_attempts` below one would make every first failure a dead letter with more attempts
than it allows. -/
structure RelayConfig where
  batchSize : Nat := 100
  maxAttempts : Nat := 7
  maxAttempts_pos : 1 ≤ maxAttempts := by decide

/-- One call of the publisher. -/
structure Publication where
  subject : String
  payload : List UInt8
  msgId : Nat
  deriving DecidableEq, Repr

/-- The envelope of the event, under the event's own id. -/
def OutboxRow.publication (r : OutboxRow) : Publication where
  subject := r.eventType
  payload := JsonText.encodeUtf8 ((Json.obj [
    ("event_id", .str (toString r.id)),
    ("event_type", .str r.eventType),
    ("event_version", .str r.eventVersion),
    ("aggregate_type", .str r.aggregateType),
    ("aggregate_id", .str r.aggregateId),
    ("payload", r.payload),
    ("headers", r.headers),
    ("created_at", .str (DateTime.utc r.createdAt).isoformat)]).text defaultStyle)
  msgId := r.id

/-- What comes of publishing an event. -/
inductive Reply
  | acknowledged
  | refused (error : Option String)
  /-- An exception before a mark is written; the publisher may have acknowledged the event
  by then. -/
  | raised (acknowledged : Bool)
  deriving DecidableEq, Repr

namespace Reply

def isAck : Reply → Bool
  | acknowledged => true
  | refused _ => false
  | raised acked => acked

/-- The text that the failure is recorded with; none for a publication. -/
def failure : Reply → Option String
  | acknowledged => none
  -- `result.error or "publish failed"`
  | refused (some error) => some (if error = "" then "publish failed" else error)
  | refused none => some "publish failed"
  | raised _ => some "relay processing error"

end Reply

/-- A failure that the relay has marked. -/
structure Failure where
  eventId : Nat
  at_ : Int
  deriving DecidableEq, Repr

/-- The transaction of one `run_once`: what it sees, what it has still to process, and whether the
database has refused one of its statements. -/
structure RelaySession where
  rows : List OutboxRow
  todo : List OutboxRow
  failures : List Failure := []
  aborted : Bool := false

/-- The committed table, the transaction that is open, and what has happened outside the table:
the acknowledged publications and the committed failures. -/
structure Relay where
  rows : List OutboxRow := []
  failures : List Failure := []
  acks : List Publication := []
  session : Option RelaySession := none

/-- The rows after one event and its reply. -/
def markEvent (cfg : RelayConfig) (rows : List OutboxRow) (id : Nat) (now : Int)
    (reply : Reply) : List OutboxRow :=
  match reply.failure with
  | none => markEventPublished rows id now
  | some error => (markEventFailed rows id now error cfg.maxAttempts).1

namespace RelaySession

variable (s : RelaySession)

/-- The loop body of `run_once`.  Once the database has refused a statement of the transaction it
refuses all others too, those of the `except` branch included. -/
def process (cfg : RelayConfig) (e : OutboxRow) (todo : List OutboxRow) (now : Int)
    (reply : Reply) (dbOk : Bool) : RelaySession :=
  if s.aborted ∨ ¬ dbOk then { s with todo := todo, aborted := true }
  else
    { s with
      todo := todo
      rows := markEvent cfg s.rows e.id now reply
      failures := if reply.failure.isSome then s.failures ++ [⟨e.id, now⟩] else s.failures }

end RelaySession

/-! ## Steps -/

/-- A step of the relay, or of a transaction that enqueues an event. -/
inductive RelayLabel
  | enqueue (e : NewEvent) (nextAttemptAt createdAt : Int)
  /-- `run_once` up to its loop. -/
  | poll (now : Int) (found : Nat → Nat)
  /-- One turn of the loop; `dbOk` says whether the database takes its statements. -/
  | process (now : Int) (reply : Reply) (dbOk : Bool)
  | commit
  /-- The transaction is rolled back: the commit fails, or the worker stops before it. -/
  | abort

namespace Relay

variable (cfg : RelayConfig) (s : Relay)

def enqueue (e : NewEvent) (nextAttemptAt createdAt : Int) : Relay :=
  { s with
    rows := enqueueRow s.rows e nextAttemptAt createdAt
    -- under READ COMMITTED an open transaction sees the new row as well
    session := s.session.map fun x ↦
      { x with rows := enqueueRow x.rows e nextAttemptAt createdAt } }

def next : RelayLabel → Relay
  | .enqueue e nextAttemptAt createdAt => s.enqueue e nextAttemptAt createdAt
  | .poll now found =>
      match s.session with
      | some _ => s
      | none => { s with session := some {
          rows := s.rows
          todo := fetchPendingEvents s.rows now cfg.batchSize found
          failures := s.failures } }
  | .process now reply dbOk =>
      match s.session with
      | some ⟨rows, e :: todo, failures, aborted⟩ =>
          { s with
            acks := if reply.isAck then s.acks ++ [e.publication] else s.acks
            session := some (RelaySession.process ⟨rows, e :: todo, failures, aborted⟩ cfg e todo
              now reply dbOk) }
      | _ => s
  | .commit =>
      match s.session with
      | some ⟨rows, [], failures, false⟩ =>
          { s with rows := rows, failures := failures, session := none }
      -- committing an aborted transaction rolls it back
      | some ⟨_, [], _, true⟩ => { s with session := none }
      | _ => s
  | .abort => { s with session := none }

/-- The state after a run that starts from an empty table. -/
def after (l : List RelayLabel) : Relay := Run.final (next cfg) {} l

/-- The events that the open transaction has fetched and not processed yet. -/
def fetched : List OutboxRow :=
  match s.session with
  | some x => x.todo
  | none => []

end Relay

/-- The stream of events of a run. -/
def enqueued : List RelayLabel → List NewEvent
  | [] => []
  | .enqueue e _ _ :: l => e :: enqueued l
  | _ :: l => enqueued l

/-! ## Safety -/

def failuresOf (failures : List Failure) (id : Nat) : List Failure :=
  failures.filter (·.eventId = id)

/-- What the relay owes an event, given the acknowledgements and the failures so far. -/
structure OutboxRow.Sound (maxAttempts : Nat) (acks : List Publication) (failures : List Failure)
    (r : OutboxRow) : Prop where
  attempts : r.attempts = (failuresOf failures r.id).length
  bounded : r.attempts ≤ maxAttempts
  published : r.status = .published → r.publication ∈ acks
  dead : r.status = .deadLetter ↔ (failuresOf failures r.id).length = maxAttempts
  known : r.live ∨ r.closed
  /-- A failed event is tried again at a time that its last failure sets. -/
  retry : r.status = .failed → ∃ f, (failuresOf failures r.id).getLast? = some f ∧
    r.nextAttemptAt = f.at_ + retryDelay r.attempts

def Relay.Safe (maxAttempts : Nat) (s : Relay) : Prop :=
  ∀ r ∈ s.rows, r.Sound maxAttempts s.acks s.failures

end RetailMedia
