import RetailMedia.Delivery.Generate
import RetailMedia.Lib.Run

/-! Ingestion of proof-of-play events, and the summary that billing reads. -/

namespace RetailMedia

def popSchemaVersion : String := "1.0"
def popMaxDurationMs : Int := 86400000
def popQuarantineTtl : Int := 72 * hourMicros
def popClockDrift : Int := 5 * (60 * secondMicros)
def staleEventAge : Int := 30 * dayMicros

structure PopEventIn where
  eventId : String
  schemaVersion : String := popSchemaVersion
  deviceId : String
  manifestId : Option String := none
  campaignId : Option String := none
  creativeAssetId : String
  surfaceId : String
  durationMs : Int
  playbackResult : String
  renderedAt : PyDatetime
  eventRecordedAt : PyDatetime
  deriving DecidableEq, Repr

/-- What makes a call raise. -/
inductive IngestError
  | typeError
  | multipleResultsFound
  | dataError
  | integrityError (constraint : String)
  deriving DecidableEq, Repr

inductive IngestStatus
  | accepted
  | quarantined
  | rejected
  | duplicate
  deriving DecidableEq, Repr

structure IngestResult where
  status : IngestStatus
  reason : Option String := none
  deriving DecidableEq, Repr

def rejected (reason : String) : IngestResult := ⟨.rejected, some reason⟩

def duplicateEvent : IngestResult := ⟨.duplicate, some "duplicate_event_id"⟩

/-! ## Lookups -/

/-- `scalar_one_or_none`. -/
def scalarOneOrNone {α : Type*} : List α → Except IngestError (Option α)
  | [] => .ok none
  | [x] => .ok (some x)
  | _ => .error .multipleResultsFound

def resolveManifest (db : Db) (manifestId : String) :
    Except IngestError (Option DeliveryManifest) :=
  if storableText manifestId then
    scalarOneOrNone (db.deliveryManifests.filter (·.manifestId = manifestId))
  else .error .dataError

/-- No id, or an empty one, is not looked up. -/
def resolveEventManifest (db : Db) (event : PopEventIn) :
    Except IngestError (Option DeliveryManifest) :=
  match event.manifestId.filter (· ≠ "") with
  | none => .ok none
  | some manifestId => resolveManifest db manifestId

def getDeviceRetailerId (db : Db) (deviceId : String) : Option String :=
  (Rows.get PhysicalDevice.id deviceId db.physicalDevices).bind (·.retailerId)

-- an id that is in the index is storable
def isPopEventDuplicate (db : Db) (eventId : String) : Except IngestError Bool :=
  if eventId ∈ db.popDedupIndex then .ok true
  else if storableText eventId then .ok false
  else .error .dataError

/-! ## Writes -/

/-- A text for a `VARCHAR` column.  One that is too long by trailing blanks only, which the column
would cut, is not among them. -/
def fitsText (length : Nat) (s : String) : Bool := s.length ≤ length ∧ storableText s

def fitsKey (s : String) : Bool := fitsText 36 s

/-- The UTC year is one that a datetime can have. -/
def fitsInstant (t : Int) : Bool := -62135596800000000 ≤ t ∧ t < 253402300800000000

/-- The driver converts timestamps to UTC; what it does with one that has no timezone is up to
it, `takesNaive`. -/
def fitsTimestamp (takesNaive : Bool) : PyDatetime → Bool
  | .naive _ => takesNaive
  | .aware t => fitsInstant t.instant

/-- The values fit their columns. -/
def PopEventRaw.fits (takesNaive : Bool) (r : PopEventRaw) : Bool :=
  fitsInstant r.renderedAt ∧ fitsTimestamp takesNaive r.eventRecordedAt ∧ fitsKey r.eventId ∧
    fitsKey r.deviceId ∧ fitsKey r.creativeAssetId ∧ fitsKey r.surfaceId ∧
    r.campaignId.all fitsKey ∧ r.batchId.all fitsKey ∧ r.manifestId.all (fitsText 128)

/-- The insert, under the column types, the foreign keys and the unique constraint; the `CHECK`
constraints hold of what is inserted. -/
def insertPopRawEvent (takesNaive : Bool) (db : Db) (r : PopEventRaw) : Except IngestError Db :=
  if ¬ r.fits takesNaive then .error .dataError
  else if r.eventId ∈ db.popEventsRaw.map (·.eventId) then
    .error (.integrityError "uq_pop_event_id")
  else if r.deviceId ∉ db.physicalDevices.map (·.id) then
    .error (.integrityError "pop_events_raw_device_id_fkey")
  else if r.creativeAssetId ∉ db.creativeAssets.map (·.id) then
    .error (.integrityError "pop_events_raw_creative_asset_id_fkey")
  else .ok { db with popEventsRaw := db.popEventsRaw ++ [r] }

def insertPopDedupKey (db : Db) (eventId : String) : Except IngestError Db :=
  if eventId ∈ db.popDedupIndex then .error (.integrityError "pop_dedup_index_pkey")
  else .ok { db with popDedupIndex := db.popDedupIndex ++ [eventId] }

/-- Only a violation on the dedup index counts as a duplicate. -/
def isPopDedupUniqueViolation : IngestError → Bool
  | .integrityError constraint => constraint = "pop_dedup_index_pkey"
  | _ => false

/-- Both inserts, in a savepoint, then the outbox event.  A violation on the dedup index rolls the
savepoint back; every other error is raised. -/
def writePopEvent (takesNaive : Bool) (db : Db) (row : PopEventRaw) (eventType : String)
    (outboxPayload : Json) (done : IngestResult) : Except IngestError (Db × IngestResult) :=
  match insertPopRawEvent takesNaive db row >>= (insertPopDedupKey · row.eventId) with
  | .ok written =>
      .ok (enqueueOutboxEvent written eventType "pop_event" row.eventId outboxPayload (.obj []) none,
        done)
  | .error e => if isPopDedupUniqueViolation e then .ok (db, duplicateEvent) else .error e

/-- The columns that are copied from the event, whatever becomes of it. -/
def PopEventIn.raw (event : PopEventIn) (renderedAt : DateTime)
    (batchId : Option String) (retailerId : String) (status : PopStatus) : PopEventRaw where
  eventId := event.eventId
  schemaVersion := event.schemaVersion
  deviceId := event.deviceId
  manifestId := event.manifestId
  campaignId := event.campaignId
  creativeAssetId := event.creativeAssetId
  surfaceId := event.surfaceId
  renderedAt := renderedAt.instant
  eventRecordedAt := event.eventRecordedAt
  durationMs := event.durationMs
  playbackResult := event.playbackResult
  status := status
  batchId := batchId
  retailerId := retailerId

def acceptedPayload (event : PopEventIn) (m : DeliveryManifest) : Json := .obj [
  ("event_id", .str event.eventId),
  ("manifest_id", .str m.manifestId),
  ("campaign_id", .str m.campaignId),
  ("device_id", .str event.deviceId),
  ("surface_id", .str event.surfaceId),
  ("creative_asset_id", .str event.creativeAssetId),
  ("duration_ms", .num event.durationMs)]

/-- The payloads of the two quarantine events differ in their last field. -/
def quarantinedPayload (event : PopEventIn) (reason key : String) (t : DateTime) : Json := .obj [
  ("event_id", .str event.eventId),
  ("manifest_id", .ofOption .str event.manifestId),
  ("device_id", .str event.deviceId),
  ("reason", .str reason),
  (key, .str t.isoformat)]

section Event

variable (takesNaive : Bool) (db : Db) (event : PopEventIn) (now : Int)
  (batchId : Option String) (renderedAt : DateTime)

def quarantinedRow (retailerId reason : String) : PopEventRaw :=
  { event.raw renderedAt batchId retailerId .quarantined with
    quarantineReason := some reason
    expiresAt := some (now + popQuarantineTtl) }

def quarantineEvent (retailerId reason : String) (payload : Json) :
    Except IngestError (Db × IngestResult) :=
  writePopEvent takesNaive db (quarantinedRow event now batchId renderedAt retailerId reason)
    "pop.event.quarantined" payload ⟨.quarantined, some reason⟩

/-- Manifest, campaign and retailer are those of the resolved manifest. -/
def acceptedRow (m : DeliveryManifest) : PopEventRaw :=
  { event.raw renderedAt batchId m.retailerId .accepted with
    manifestId := some m.manifestId
    campaignId := some m.campaignId
    campaignVerified := true
    playbackResult := "success" }

def acceptEvent (m : DeliveryManifest) : Except IngestError (Db × IngestResult) :=
  writePopEvent takesNaive db (acceptedRow event batchId renderedAt m) "pop.event.accepted"
    (acceptedPayload event m) ⟨.accepted, none⟩

/-- The checks of an event against the manifest that it names. -/
def manifestMismatch (m : DeliveryManifest) : Option String :=
  if (event.campaignId.filter (· ≠ "")).any (· ≠ m.campaignId) then some "campaign_mismatch"
  else if event.deviceId ≠ m.physicalDeviceId then some "device_manifest_mismatch"
  else if event.surfaceId ∉ m.surfaceIds then some "surface_not_in_manifest"
  else if event.creativeAssetId ∉ m.assets.map (·.creativeAssetId) then
    some "asset_not_in_manifest"
  else none

/-- What becomes of an event that is neither refused nor too old. -/
def settleEvent (retailerId : String) : Except IngestError (Db × IngestResult) :=
  match resolveEventManifest db event with
  | .error e => .error e
  | .ok none =>
      quarantineEvent takesNaive db event now batchId renderedAt retailerId "unknown_manifest"
        (quarantinedPayload event "unknown_manifest" "expires_at" (.utc (now + popQuarantineTtl)))
  | .ok (some m) =>
      if renderedAt.instant > now + popClockDrift then
        quarantineEvent takesNaive db event now batchId renderedAt retailerId "clock_drift"
          (quarantinedPayload event "clock_drift" "rendered_at" renderedAt)
      else
        match manifestMismatch event m with
        | some reason => .ok (db, rejected reason)
        | none => acceptEvent takesNaive db event batchId renderedAt m

end Event

/-! ## One event -/

/-- The checks before the dedup index is asked. -/
def misdirected (event : PopEventIn) (jwtDeviceId : String) : Option IngestResult :=
  if event.schemaVersion ≠ popSchemaVersion then some (rejected "unsupported_schema_version")
  else if event.deviceId ≠ jwtDeviceId then some (rejected "device_mismatch")
  else none

/-- The checks of the event alone that come after it. -/
def unplayed (event : PopEventIn) : Option IngestResult :=
  if event.durationMs < 1 ∨ event.durationMs > popMaxDurationMs then
    some (rejected "invalid_duration")
  else if event.playbackResult ≠ "success" then some (rejected "non_success_playback")
  else none

/-- What the checks up to the device make of the event; `none` lets it through. -/
def refusal (db : Db) (event : PopEventIn) (jwtDeviceId : String) :
    Except IngestError (Option IngestResult) :=
  match misdirected event jwtDeviceId with
  | some result => .ok (some result)
  | none =>
      match isPopEventDuplicate db event.eventId with
      | .error e => .error e
      | .ok true => .ok (some duplicateEvent)
      | .ok false => .ok (unplayed event)

def ingestPopEvent (takesNaive : Bool) (db : Db) (event : PopEventIn) (jwtDeviceId : String)
    (now : Int) (batchId : Option String) : Except IngestError (Db × IngestResult) :=
  match refusal db event jwtDeviceId with
  | .error e => .error e
  | .ok (some result) => .ok (db, result)
  | .ok none =>
      match getDeviceRetailerId db event.deviceId with
      | none => .ok (db, rejected "device_not_found")
      | some retailerId =>
          match event.renderedAt with
          -- a naive datetime cannot be compared with `now`
          | .naive _ => .error .typeError
          | .aware renderedAt =>
              if renderedAt.instant < now - staleEventAge then .ok (db, rejected "stale_event")
              else settleEvent takesNaive db event now batchId renderedAt retailerId

/-! ## A batch -/

structure PopEventResult where
  eventId : String
  status : IngestStatus
  reason : Option String
  deriving DecidableEq, Repr

structure PopBatch where
  events : List PopEventIn
  jwtDeviceId : String
  now : Int
  batchId : Option String := none
  takesNaive : Bool := true
  deriving DecidableEq, Repr

def ingestEvents (b : PopBatch) (db : Db) :
    List PopEventIn → Except IngestError (Db × List PopEventResult)
  | [] => .ok (db, [])
  | event :: events =>
      match ingestPopEvent b.takesNaive db event b.jwtDeviceId b.now b.batchId with
      | .error e => .error e
      | .ok (db', result) =>
          match ingestEvents b db' events with
          | .error e => .error e
          | .ok (db'', results) =>
              .ok (db'', ⟨event.eventId, result.status, result.reason⟩ :: results)

structure PopBatchResponse where
  acceptedCount : Nat
  rejectedCount : Nat
  quarantinedCount : Nat
  duplicateCount : Nat
  results : List PopEventResult
  deriving DecidableEq, Repr

def batchResponse (results : List PopEventResult) : PopBatchResponse where
  acceptedCount := results.countP (·.status = .accepted)
  rejectedCount := results.countP (·.status = .rejected)
  quarantinedCount := results.countP (·.status = .quarantined)
  duplicateCount := results.countP (·.status = .duplicate)
  results := results

def batchPayload (b : PopBatch) (r : PopBatchResponse) : Json := .obj [
  ("batch_id", .ofOption .str b.batchId),
  ("device_id", .str b.jwtDeviceId),
  ("event_count", .num b.events.length),
  ("accepted_count", .num r.acceptedCount),
  ("rejected_count", .num r.rejectedCount),
  ("quarantined_count", .num r.quarantinedCount),
  ("duplicate_count", .num r.duplicateCount)]

def ingestPopBatch (db : Db) (b : PopBatch) : Except IngestError (Db × PopBatchResponse) :=
  match ingestEvents b db b.events with
  | .error e => .error e
  | .ok (db', results) =>
      let response := batchResponse results
      .ok (enqueueOutboxEvent db' "pop.batch.ingested" "pop_batch"
        ((b.batchId.filter (· ≠ "")).getD "unknown") (batchPayload b response) (.obj []) none,
        response)

/-- One call in its transaction, rolled back when it raises. -/
def popStep (db : Db) (b : PopBatch) : Db :=
  match ingestPopBatch db b with
  | .ok (db', _) => db'
  | .error _ => db

/-! ## The summary -/

structure CampaignPopSummary where
  impressionsCount : Nat
  totalDurationMs : Int
  firstRenderedAt : Option Int
  lastRenderedAt : Option Int
  uniqueDevices : Nat
  uniqueSurfaces : Nat
  deriving DecidableEq, Repr

def getCampaignPopSummary (db : Db) (campaignId : String) : CampaignPopSummary :=
  let rows := db.popEventsRaw.filter fun r ↦ r.campaignId = some campaignId ∧
    r.status = .accepted ∧ r.campaignVerified = true ∧ r.playbackResult = "success"
  { impressionsCount := rows.length
    totalDurationMs := (rows.map (·.durationMs)).sum
    firstRenderedAt := (rows.map (·.renderedAt)).min?
    lastRenderedAt := (rows.map (·.renderedAt)).max?
    uniqueDevices := (rows.map (·.deviceId)).dedup.length
    uniqueSurfaces := (rows.map (·.surfaceId)).dedup.length }

end RetailMedia
