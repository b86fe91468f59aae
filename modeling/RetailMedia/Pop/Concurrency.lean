import RetailMedia.Pop.Isolation
import Mathlib.Data.List.Infix
import Mathlib.Logic.Function.Basic

/-! Batches that are ingested side by side: each in a transaction of its own, that inserts its
events under the two unique indexes.  The rows of the outbox are left out. -/

namespace RetailMedia

/-! ## Violations -/

/-- `needle in haystack`. -/
def containsText (needle haystack : String) : Bool := needle.toList <:+: haystack.toList

/-- The exception of the driver that an `IntegrityError` wraps. -/
structure DriverError where
  clsName : String
  constraintName : Option String := none
  deriving DecidableEq, Repr

/-- `_is_pop_dedup_unique_violation`, on what the exception wraps. -/
def isPopDedupViolation : Option DriverError → Bool
  | none => false
  | some orig =>
      containsText "UniqueViolation" orig.clsName ∧
        containsText "pop_dedup" (orig.constraintName.getD "")

/-- What the driver makes of a violated constraint. -/
abbrev Driver := String → Option DriverError

/-- The errors that are reported as duplicates. -/
def Driver.reportsDuplicate (driver : Driver) : IngestError → Bool
  | .integrityError constraint => isPopDedupViolation (driver constraint)
  | _ => false

def popDedupConstraint : String := "pop_dedup_index_pkey"

def popRawConstraints : List String :=
  ["uq_pop_event_id", "pop_events_raw_device_id_fkey", "pop_events_raw_creative_asset_id_fkey"]

/-- The driver does not name the dedup index where another constraint is violated. -/
def Driver.NamesConstraint (driver : Driver) : Prop :=
  ∀ constraint ∈ popRawConstraints, isPopDedupViolation (driver constraint) = false

/-! ## Transactions -/

/-- The unique indexes on event ids: the primary key of `pop_dedup_index` and the constraint of
`pop_events_raw`. -/
inductive PopIndex
  | dedup
  | raw
  deriving DecidableEq, Repr

def PopIndex.other : PopIndex → PopIndex
  | .dedup => .raw
  | .raw => .dedup

def committedIds (db : Db) : PopIndex → List String
  | .dedup => db.popDedupIndex
  | .raw => db.popEventsRaw.map (·.eventId)

/-- An event in its savepoint.  The flush inserts into both tables; `half` is after the first. -/
structure PendingWrite where
  event : PopEventIn
  row : PopEventRaw
  done : IngestResult
  first : PopIndex
  half : Bool := false
  deriving DecidableEq, Repr

/-- The index that the next insert goes to. -/
def PendingWrite.index (w : PendingWrite) : PopIndex := if w.half then w.first.other else w.first

/-- A batch with the rows that it has written so far and its answers. -/
structure IngestTx where
  batch : PopBatch
  todo : List PopEventIn
  pending : Option PendingWrite := none
  rows : List PopEventRaw := []
  answers : List (PopEventIn × IngestResult) := []

def IngestTx.ids (x : IngestTx) : List String := x.rows.map (·.eventId)

inductive IngestFailure
  | error (e : IngestError)
  | deadlock
  deriving DecidableEq, Repr

inductive TxStatus
  | running (x : IngestTx)
  | completed (x : IngestTx)
  | raised (e : IngestFailure)

/-- What is committed, and who has inserted the entries of the indexes that are not. -/
structure PopSystem (τ : Type*) where
  db : Db
  entry : PopIndex × String → Option τ
  tx : τ → Option TxStatus

/-- A transaction takes its next statement, where a flush begins with one of the tables; it is
rolled back; or the database picks it as the victim of a deadlock with the others. -/
inductive PopMove (τ : Type*)
  | advance (first : PopIndex)
  | abort
  | deadlock (others : List τ)

/-! ## Statements -/

/-- A transaction sees the rows that it has written. -/
def IngestTx.view (x : IngestTx) (db : Db) : Db := db.recorded x.rows db.outboxEvents

/-- The checks of an event, up to the row that is to be stored for it. -/
def checkEvent (db : Db) (x : IngestTx) (event : PopEventIn) :
    Except IngestError (IngestResult × Option PopEventRaw) :=
  match refusal (x.view db) event x.batch.jwtDeviceId with
  | .error e => .error e
  | .ok (some result) => .ok (result, none)
  | .ok none => settlement db x.batch event

def insertEntry (index : PopIndex) (takesNaive : Bool) (db : Db) (row : PopEventRaw) :
    Except IngestError Db :=
  match index with
  | .raw => insertPopRawEvent takesNaive db row
  | .dedup => insertPopDedupKey db row.eventId

def IngestTx.answer (x : IngestTx) (event : PopEventIn) (result : IngestResult) : IngestTx :=
  { x with
    todo := x.todo.tail
    pending := none
    answers := x.answers ++ [(event, result)] }

/-- The savepoint is released: both rows stay with the transaction. -/
def IngestTx.record (x : IngestTx) (w : PendingWrite) : IngestTx :=
  { x.answer w.event w.done with rows := x.rows ++ [w.row] }

/-- The driver refuses a row that does not fit before the database sees it. -/
def PendingWrite.sent (w : PendingWrite) (takesNaive : Bool) : Bool :=
  w.index = .dedup ∨ w.row.fits takesNaive = true

section Steps

variable {τ : Type*} [DecidableEq τ]

/-- The transaction whose uncommitted entry an insert waits for. -/
def PopSystem.waitsFor (s : PopSystem τ) (t : τ) : Option τ :=
  match s.tx t with
  | some (.running x) =>
      match x.pending with
      | some w =>
          if w.sent x.batch.takesNaive then
            (s.entry (w.index, w.row.eventId)).filter (· ≠ t)
          else none
      | none => none
  | _ => none

/-- From `u` through `others`, each waits for the next and the last one for `t`. -/
def PopSystem.waitChain (s : PopSystem τ) (t u : τ) : List τ → Bool
  | [] => s.waitsFor u = some t
  | v :: others => s.waitsFor u = some v ∧ s.waitChain t v others

def PopSystem.resume (s : PopSystem τ) (t : τ) (x : IngestTx) : PopSystem τ :=
  { s with tx := Function.update s.tx t (some (.running x)) }

def PopSystem.insert (s : PopSystem τ) (t : τ) (w : PendingWrite) : PopSystem τ :=
  { s with entry := Function.update s.entry (w.index, w.row.eventId) (some t) }

/-- The savepoint is rolled back, and with it the insert that had succeeded. -/
def PopSystem.rollback (s : PopSystem τ) (w : PendingWrite) : PopSystem τ :=
  if w.half then { s with entry := Function.update s.entry (w.first, w.row.eventId) none } else s

/-- The end of a transaction, whose entries are committed or gone. -/
def PopSystem.finish (s : PopSystem τ) (t : τ) (db : Db) (status : Option TxStatus) :
    PopSystem τ where
  db := db
  entry key := if s.entry key = some t then none else s.entry key
  tx := Function.update s.tx t status

def PopSystem.fail (s : PopSystem τ) (t : τ) (e : IngestFailure) : PopSystem τ :=
  s.finish t s.db (some (.raised e))

variable (driver : Driver)

/-- One insert of a flush.  The answer is given when both are done, or when the dedup index turns
one away. -/
def writeStep (s : PopSystem τ) (t : τ) (x : IngestTx) (w : PendingWrite) : PopSystem τ :=
  match s.waitsFor t with
  | some _ => s
  | none =>
      match insertEntry w.index x.batch.takesNaive (x.view s.db) w.row with
      | .ok _ =>
          if w.half then (s.insert t w).resume t (x.record w)
          else (s.insert t w).resume t { x with pending := some { w with half := true } }
      | .error e =>
          if driver.reportsDuplicate e then (s.rollback w).resume t (x.answer w.event duplicateEvent)
          else s.fail t (.error e)

def ingestStep (s : PopSystem τ) (t : τ) (first : PopIndex) (x : IngestTx) : PopSystem τ :=
  match x.pending, x.todo with
  | some w, _ => writeStep driver s t x w
  | none, [] => s.finish t (x.view s.db) (some (.completed x))
  | none, event :: _ =>
      match checkEvent s.db x event with
      | .error e => s.fail t (.error e)
      | .ok (result, none) => s.resume t (x.answer event result)
      | .ok (result, some row) =>
          s.resume t { x with pending := some { event, row, done := result, first } }

/-- One step of a schedule. -/
def popNext (s : PopSystem τ) (label : τ × PopMove τ) : PopSystem τ :=
  match s.tx label.1 with
  | some (.running x) =>
      match label.2 with
      | .advance first => ingestStep driver s label.1 first x
      | .abort => s.finish label.1 s.db none
      | .deadlock others =>
          if s.waitChain label.1 label.1 others then s.fail label.1 .deadlock else s
  | _ => s

end Steps

end RetailMedia
