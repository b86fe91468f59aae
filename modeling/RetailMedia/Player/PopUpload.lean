import RetailMedia.Lib.Redelivery
import RetailMedia.Pop.Quarantine

/-! Players that upload proof of play over a network that loses and repeats requests, and loses
answers. -/

namespace RetailMedia

/-! ## Retries -/

/-- What an attempt raises. -/
inductive AttemptError
  /-- `PlayerHttpError`. -/
  | http (statusCode : Nat) (retryable : Bool)
  /-- `TimeoutError`, `ConnectionError` and the other kinds of `OSError`. -/
  | os
  | other
  deriving DecidableEq, Repr

/-- Whether the error is worth another attempt. -/
def classifyError : AttemptError → Bool
  | .http _ retryable => retryable
  | .os => true
  | .other => false

structure BackoffPolicy where
  maxAttempts : Nat
  least : 1 ≤ maxAttempts
  most : maxAttempts ≤ 10
  deriving DecidableEq, Repr

/-- `BackoffPolicy(max_attempts=…)`; `none` for a `ValueError`. -/
def backoffPolicy (maxAttempts : Int) : Option BackoffPolicy :=
  if h : 1 ≤ maxAttempts ∧ maxAttempts ≤ 10 then
    some ⟨maxAttempts.toNat, by omega, by omega⟩
  else none

/-- What the loop reads of `next_decision`. -/
def shouldRetry (policy : BackoffPolicy) (attempt : Nat) (error : AttemptError) : Bool :=
  classifyError error ∧ attempt < policy.maxAttempts

/-- The loop from an attempt on, over what the attempts give; `none` while one is under way.  It
ends before its range does, since the last attempt is never followed by another. -/
def executeWithRetries {α : Type*} (policy : BackoffPolicy) :
    Nat → List (Except AttemptError α) → Option (Except AttemptError α)
  | _, [] => none
  | _, .ok result :: _ => some (.ok result)
  | attempt, .error e :: rest =>
      if shouldRetry policy attempt e then executeWithRetries policy (attempt + 1) rest
      else some (.error e)

/-! ## The player -/

/-- The arguments of `send_pop_batch`, without those of the connection. -/
structure PlayedSlot where
  manifestId : String
  deviceId : String
  campaignId : String := ""
  surfaceId : String := ""
  creativeAssetId : String := ""
  durationMs : Int := 10000
  deriving DecidableEq, Repr

def PlayedSlot.event (slot : PlayedSlot) (eventId : String) (now : Int) : PopEventIn where
  eventId := eventId
  schemaVersion := "1.0"
  deviceId := slot.deviceId
  manifestId := if slot.manifestId = "" then none else some slot.manifestId
  campaignId := if slot.campaignId = "" then none else some slot.campaignId
  creativeAssetId := slot.creativeAssetId
  surfaceId := slot.surfaceId
  durationMs := slot.durationMs
  playbackResult := "success"
  renderedAt := .aware (.utc now)
  eventRecordedAt := .aware (.utc now)

structure PopSendResult where
  acceptedCount : Nat := 0
  rejectedCount : Nat := 0
  quarantinedCount : Nat := 0
  duplicateCount : Nat := 0
  deriving DecidableEq, Repr

def PopSendResult.accepted (r : PopSendResult) : Bool := 0 < r.acceptedCount

inductive HttpAnswer
  | ok (body : PopBatchResponse)
  /-- A status below 400 without a text. -/
  | empty
  | error (statusCode : Nat)
  deriving DecidableEq, Repr

def retryableStatuses : List Nat := [429, 502, 503, 504]

/-- `_handle`, and the result from its body. -/
def HttpAnswer.handle : HttpAnswer → Except AttemptError PopSendResult
  | .ok body => .ok {
      acceptedCount := body.acceptedCount
      rejectedCount := body.rejectedCount
      quarantinedCount := body.quarantinedCount
      duplicateCount := body.duplicateCount }
  | .empty => .ok {}
  | .error statusCode => .error (.http statusCode (statusCode ∈ retryableStatuses))

/-- A call of `send_pop_batch`. -/
structure PopCall where
  event : PopEventIn
  jwtDeviceId : String
  policy : BackoffPolicy
  /-- What its attempts have given so far. -/
  seen : List (Except AttemptError PopSendResult) := []
  /-- What the server has answered, to which attempt. -/
  answers : List (Nat × HttpAnswer) := []
  deriving Repr

namespace PopCall

def eventId (c : PopCall) : String := c.event.eventId

def outcome (c : PopCall) : Option (Except AttemptError PopSendResult) :=
  executeWithRetries c.policy 1 c.seen

/-- How many requests have been sent. -/
def sent (c : PopCall) : Nat := if c.outcome.isNone then c.seen.length + 1 else c.seen.length

/-- An attempt gives its result; a call that has come to an end waits for none. -/
def take (result : Except AttemptError PopSendResult) (c : PopCall) : PopCall :=
  if c.outcome.isNone then { c with seen := c.seen ++ [result] } else c

/-- The answers that the attempt under way may still get. -/
def due (c : PopCall) : List HttpAnswer :=
  (c.answers.filter (·.1 = c.seen.length + 1)).map (·.2)

def hear (attempt : Nat) (answer : HttpAnswer) (c : PopCall) : PopCall :=
  { c with answers := c.answers ++ [(attempt, answer)] }

end PopCall

/-! ## The server -/

/-- `POST /api/v1/pop/batch`, once the request is let in. -/
def ingestBatch (db : Db) (b : PopBatch) : Db × HttpAnswer :=
  if ¬ b.valid then (db, .error 422)
  else
    match ingestPopBatch db b with
    | .ok (db', body) => (db', .ok body)
    | .error _ => (db, .error 500)

/-! ## The network between them -/

structure UploadSystem where
  db : Db
  calls : List PopCall := []
  deriving Repr

/-- What the server brings to a request: its clock, a new batch id, and its driver. -/
structure Serving where
  now : Int
  batchId : Option String := none
  takesNaive : Bool := true
  deriving DecidableEq, Repr

inductive UploadMove
  | send (slot : PlayedSlot) (jwtDeviceId : String) (maxRetries : Int) (eventId : String)
      (now : Int)
  /-- A request that has been sent reaches the server, now or long after its attempt. -/
  | deliver (eventId : String) (attempt : Nat) (serving : Serving)
  /-- It is answered without effect: by a gateway, for its token or its rate, or because its
  transaction fails. -/
  | refuse (eventId : String) (attempt : Nat) (statusCode : Nat)
  /-- Something on the way answers it with no text. -/
  | blank (eventId : String) (attempt : Nat)
  /-- One of the answers to the attempt under way reaches the player. -/
  | answer (eventId : String) (n : Nat)
  /-- The attempt under way ends without one. -/
  | fail (eventId : String) (error : AttemptError)
  | world (change : PopChange)

def PopCall.batch (c : PopCall) (serving : Serving) : PopBatch where
  events := [c.event]
  jwtDeviceId := c.jwtDeviceId
  now := serving.now
  batchId := serving.batchId
  takesNaive := serving.takesNaive

namespace UploadSystem

def call (s : UploadSystem) (eventId : String) : Option PopCall :=
  Rows.get PopCall.eventId eventId s.calls

def update (s : UploadSystem) (eventId : String) (f : PopCall → PopCall) : UploadSystem :=
  { s with calls := Rows.updateWhere (fun c ↦ c.eventId = eventId) f s.calls }

/-- A call, unless the policy raises. -/
def start (s : UploadSystem) (slot : PlayedSlot) (jwtDeviceId : String) (maxRetries : Int)
    (eventId : String) (now : Int) : UploadSystem :=
  match backoffPolicy maxRetries with
  | none => s
  | some policy =>
      { s with calls := s.calls ++ [{
          event := slot.event eventId now
          jwtDeviceId := jwtDeviceId
          policy := policy }] }

/-- The call of a request that can be in the network. -/
def sender (s : UploadSystem) (eventId : String) (attempt : Nat) : Option PopCall :=
  (s.call eventId).filter fun c ↦ 1 ≤ attempt ∧ attempt ≤ c.sent

def next (s : UploadSystem) : UploadMove → UploadSystem
  | .send slot jwtDeviceId maxRetries eventId now => s.start slot jwtDeviceId maxRetries eventId now
  | .deliver eventId attempt serving =>
      match s.sender eventId attempt with
      | none => s
      | some c =>
          let served := ingestBatch s.db (c.batch serving)
          { s with db := served.1 }.update eventId (PopCall.hear attempt served.2)
  | .refuse eventId attempt statusCode =>
      match s.sender eventId attempt with
      | none => s
      | some _ => s.update eventId (PopCall.hear attempt (.error statusCode))
  | .blank eventId attempt =>
      match s.sender eventId attempt with
      | none => s
      | some _ => s.update eventId (PopCall.hear attempt .empty)
  | .answer eventId n =>
      match (s.call eventId).bind (·.due[n]?) with
      | none => s
      | some answer => s.update eventId (PopCall.take answer.handle)
  | .fail eventId error => s.update eventId (PopCall.take (.error error))
  | .world change => { s with db := popChange s.db change }

/-- Ids of events are never made twice: a new call has one that is not in use, and nobody else
sends the id of a call. -/
def Fresh (s : UploadSystem) : UploadMove → Prop
  | .send _ _ _ eventId _ => eventId ∉ s.calls.map PopCall.eventId ∧ eventId ∉ s.db.popDedupIndex
  | .world (.ingest b) => ∀ event ∈ b.events, event.eventId ∉ s.calls.map PopCall.eventId
  | _ => True

instance (s : UploadSystem) (move : UploadMove) : Decidable (s.Fresh move) := by
  cases move with
  | send => exact inferInstanceAs (Decidable (_ ∧ _))
  | world change =>
      cases change with
      | ingest b => exact inferInstanceAs (Decidable (∀ event ∈ b.events, _))
      | _ => exact inferInstanceAs (Decidable True)
  | _ => exact inferInstanceAs (Decidable True)

/-- What a move does to the tables. -/
def change (s : UploadSystem) : UploadMove → List PopChange
  | .deliver eventId attempt serving =>
      match s.sender eventId attempt with
      | none => []
      | some c => if (c.batch serving).valid then [.ingest (c.batch serving)] else []
  | .world change => [change]
  | _ => []

/-- What happens to the tables in a run. -/
def changes : UploadSystem → List UploadMove → List PopChange
  | _, [] => []
  | s, move :: l => s.change move ++ changes (s.next move) l

end UploadSystem

end RetailMedia
