import RetailMedia.Delivery.Manifest

/-! Manifest generation for one campaign: one manifest per device, skipped when a manifest with
the same id is stored. -/

namespace RetailMedia

/-! ## Rows that a call writes -/

def enqueueOutboxEvent (db : Db) (eventType aggregateType aggregateId : String) (payload : Json)
    (headers : Json) (partitionKey : Option String) : Db :=
  { db with outboxEvents := db.outboxEvents ++ [{
      id := Rows.freshKey (db.outboxEvents.map (·.id))
      eventType := eventType
      aggregateType := aggregateType
      aggregateId := aggregateId
      partitionKey := partitionKey
      payload := payload
      headers := headers }] }

def createDeliveryPlan (db : Db) (campaignId versionHash reason : String) : Db :=
  { db with deliveryPlans := db.deliveryPlans ++ [{
      campaignId := campaignId
      campaignVersionHash := versionHash
      reason := reason }] }

def createDeliveryManifestRecord (db : Db) (row : DeliveryManifest) : Db :=
  { db with deliveryManifests := db.deliveryManifests ++ [row] }

/-- `max + 1`, or 1 for the device's first manifest. -/
def getNextManifestVersionForDevice (db : Db) (deviceId : String) : Int :=
  (((db.deliveryManifests.filter (·.physicalDeviceId = deviceId)).map
    (·.manifestVersion)).max?).getD 0 + 1

def DeliveryManifest.markGenerated (now : Int) (contentHash : String) (m : DeliveryManifest) :
    DeliveryManifest :=
  { m with status := .generated, contentHash := contentHash, generatedAt := some now }

def markManifestGenerated (db : Db) (now : Int) (manifestId contentHash : String) : Db :=
  { db with
    deliveryManifests := Rows.updateWhere (fun m ↦ m.manifestId = manifestId ∧ m.status = .planned)
      (·.markGenerated now contentHash) db.deliveryManifests }

def DeliveryManifest.markFailed (lastError : String) (m : DeliveryManifest) : DeliveryManifest :=
  { m with status := .failed, lastError := some (firstChars 2048 lastError) }

def markManifestFailed (db : Db) (manifestId lastError : String) : Db :=
  { db with
    deliveryManifests := Rows.updateWhere
      (fun m ↦ m.manifestId = manifestId ∧ (m.status = .planned ∨ m.status = .generated))
      (·.markFailed lastError) db.deliveryManifests }

/-! ## Campaign data -/

/-- What is loaded once, before the loop over the devices. -/
structure CampaignData where
  campaign : Campaign
  flights : List CampaignFlight
  placements : List CampaignPlacement
  creativeAssetRows : List (CampaignCreative × CreativeAsset)
  surfaceCodes : List (String × String)
  storeCodes : List (String × String)
  deviceStores : List (String × String)
  deviceCodes : List (String × String)

def TargetResolutionResult.allSurfaceIds (t : TargetResolutionResult) : List String :=
  (t.deviceSurfaces.flatMap (·.2)).dedup

def loadCampaignData (db : Db) (c : Campaign) (targets : TargetResolutionResult) :
    CampaignData :=
  let surfaceRows := db.displaySurfaces.filter fun s ↦ s.id ∈ targets.allSurfaceIds
  let storeIds := (surfaceRows.map (·.storeId)).filter (· ≠ "")
  let storeRows := db.stores.filter fun s ↦ s.id ∈ storeIds
  let deviceRows := db.physicalDevices.filter fun d ↦ d.id ∈ targets.deviceSurfaces.map (·.1)
  { campaign := c
    flights := db.flightsOf c.id
    placements := db.placementsOf c.id
    creativeAssetRows := db.creativeAssetRows c.id
    surfaceCodes := Dict.setAll [] (surfaceRows.map fun s ↦ (s.id, s.code))
    storeCodes := Dict.setAll [] (storeRows.map fun s ↦ (s.id, s.code))
    deviceStores := Dict.setAll [] (deviceRows.map fun d ↦ (d.id, d.storeId))
    deviceCodes := Dict.setAll [] (deviceRows.map fun d ↦ (d.id, d.code)) }

def CampaignFlight.daypartingText (f : CampaignFlight) : String :=
  match f.daypartingJson with
  | some j => if j.truthy then j.pyStr else ""
  | none => ""

def CampaignFlight.daysText (f : CampaignFlight) : String :=
  ",".intercalate (((f.daysOfWeek.getD []).insertionSort (· ≤ ·)).map fun d ↦ toString d)

def CampaignFlight.dataText (f : CampaignFlight) : String :=
  separator.intercalate [isoText f.startAt, isoText f.endAt, f.daypartingText, f.daysText]

namespace CampaignData

def version (data : CampaignData) : CampaignVersion where
  campaignId := data.campaign.id
  campaignStatus := data.campaign.status.text
  campaignUpdatedAt := isoText data.campaign.updatedAt
  creativeAssetIds := data.creativeAssetRows.map (·.2.id)
  creativeChecksums := data.creativeAssetRows.map (·.2.sha256Checksum)
  flightIds := data.flights.map (·.id)
  flightData := (data.flights.insertionSort fun f g ↦ f.id ≤ g.id).map (·.dataText)
  placementIds := data.placements.map (·.id)

def manifestId (data : CampaignData) (target : String × List String) : String :=
  computeManifestId data.version (sortedTexts target.2) target.1

def validFrom (data : CampaignData) : Option String :=
  (data.flights.map (·.startAt)).min?.map isoText

def validTo (data : CampaignData) : Option String :=
  (data.flights.map (·.endAt)).max?.map isoText

end CampaignData

/-- `duration_override_ms or duration_ms`. -/
def playDuration (cc : CampaignCreative) (ca : CreativeAsset) : Option Int :=
  cc.durationOverrideMs.filter (· ≠ 0) <|> ca.durationMs

def playlistItem (priority : Int) (row : CampaignCreative × CreativeAsset) : Json := .obj [
  ("order", .num row.1.sortOrder),
  ("weight", .num (if row.1.sortOrder = 0 then 1 else row.1.sortOrder)),
  ("priority", .num priority),
  ("creative_asset_id", .str row.2.id),
  ("media_type", .str row.2.mediaType),
  ("sha256_checksum", .str row.2.sha256Checksum),
  ("duration_ms", .ofOption .num (playDuration row.1 row.2)),
  ("start_time", .null),
  ("days_of_week", .null)]

def assetRecord (row : CampaignCreative × CreativeAsset) : DeliveryManifestAsset where
  creativeAssetId := row.2.id
  sha256Checksum := row.2.sha256Checksum
  durationMs := playDuration row.1 row.2
  mediaType := row.2.mediaType

/-- The manifest of one device, built and signed. -/
def CampaignData.manifest (data : CampaignData) (cfg : SecurityConfig) (version : Int)
    (target : String × List String) : Json :=
  let storeId := Dict.getD data.deviceStores target.1 ""
  signed cfg (generateManifestJson {
    manifestId := data.manifestId target
    manifestVersion := version
    deviceId := target.1
    deviceCode := Dict.getD data.deviceCodes target.1 ""
    storeId := storeId
    storeCode := Dict.getD data.storeCodes storeId ""
    surfaceIds := sortedTexts target.2
    surfaceCodes := data.surfaceCodes
    playlistItems := data.creativeAssetRows.map (playlistItem data.campaign.priority)
    validFrom := data.validFrom
    validTo := data.validTo })

/-- The row as it is created. -/
def CampaignData.record (data : CampaignData) (cfg : SecurityConfig) (version : Int)
    (target : String × List String) : DeliveryManifest where
  manifestId := data.manifestId target
  campaignId := data.campaign.id
  physicalDeviceId := target.1
  contentHash := contentHash (data.manifest cfg version target)
  manifestVersion := version
  surfaceIds := sortedTexts target.2
  assets := data.creativeAssetRows.map assetRecord

/-! ## The loop over the devices -/

/-- Where the `try` block of a device raises. -/
inductive Fault
  | building
  | marking
  | enqueueing
  deriving DecidableEq, Repr

/-- How the loop leaves a device; a generated manifest with the JSON that was hashed. -/
inductive Outcome
  | skipped
  | generated (manifestId : String) (manifest : Json)
  | failed

def generationFailure : String := "Manifest generation failed"

/-- The `except` branch. -/
def failDevice (db : Db) (campaignId manifestId deviceId : String) : Db :=
  enqueueOutboxEvent (markManifestFailed db manifestId generationFailure)
    "delivery.manifest.failed" "campaign" campaignId
    (.obj [("campaign_id", .str campaignId), ("device_id", .str deviceId),
      ("reason", .str generationFailure)]) (.obj []) none

def enqueueGenerated (db : Db) (campaignId manifestId deviceId : String) (version : Int) : Db :=
  enqueueOutboxEvent db "delivery.manifest.generated" "campaign" campaignId
    (.obj [("manifest_id", .str manifestId), ("device_id", .str deviceId),
      ("manifest_version", .num version), ("campaign_ids", .arr [.str campaignId])])
    (.obj []) (some campaignId)

def generateForDevice (cfg : SecurityConfig) (now : Int) (data : CampaignData)
    (faults : String → Option Fault) (db : Db) (target : String × List String) : Db × Outcome :=
  let manifestId := data.manifestId target
  if db.deliveryManifests.any (·.manifestId = manifestId) then (db, .skipped)
  else
    let version := getNextManifestVersionForDevice db target.1
    let record := data.record cfg version target
    let recorded := createDeliveryManifestRecord db record
    let marked := markManifestGenerated recorded now manifestId record.contentHash
    -- the state that the exception of this device finds
    match faults target.1 with
    | some .building => (failDevice db data.campaign.id manifestId target.1, .failed)
    | some .marking => (failDevice recorded data.campaign.id manifestId target.1, .failed)
    | some .enqueueing => (failDevice marked data.campaign.id manifestId target.1, .failed)
    | none =>
        (enqueueGenerated marked data.campaign.id manifestId target.1 version,
          .generated manifestId (data.manifest cfg version target))

/-! ## The call -/

structure ManifestGenerationResult where
  campaignId : String
  eligible : Bool
  skipReason : Option String := none
  deviceCount : Nat := 0
  surfaceCount : Nat := 0
  manifestCount : Nat := 0
  failureCount : Nat := 0
  manifestIds : List String := []
  deriving DecidableEq, Repr

def Outcome.id : Outcome → Option String
  | .generated manifestId _ => some manifestId
  | _ => none

def Outcome.isFailed : Outcome → Bool
  | .failed => true
  | _ => false

def generationResult (campaignId : String) (targets : TargetResolutionResult)
    (outcomes : List Outcome) : ManifestGenerationResult :=
  let manifestIds := outcomes.filterMap (·.id)
  { campaignId := campaignId
    eligible := true
    deviceCount := targets.deviceSurfaces.length
    surfaceCount := targets.allSurfaceIds.length
    manifestCount := manifestIds.length
    failureCount := outcomes.countP (·.isFailed)
    manifestIds := manifestIds }

def planReason (r : ManifestGenerationResult) : String :=
  "Auto-planned: " ++ toString r.deviceCount ++ " device(s), " ++ toString r.surfaceCount ++
    " surface(s), " ++ toString r.manifestCount ++ " manifest(s) generated"

/-- `datetime.now()` is read once a call; `faults` tells for each device whether its `try` block
raises. -/
def generateManifestsForCampaign (cfg : SecurityConfig) (db : Db) (now : Int)
    (campaignId : String) (faults : String → Option Fault) : Db × ManifestGenerationResult :=
  let eligibility := checkEligibility db now campaignId
  if ¬ eligibility.eligible then
    (db, { campaignId := campaignId, eligible := false, skipReason := eligibility.reason })
  else
    let targets := resolveTargets db campaignId
    if targets.deviceSurfaces = [] then
      (enqueueOutboxEvent db "delivery.manifest.failed" "campaign" campaignId
        (.obj [("campaign_id", .str campaignId),
          ("reason", .str "No targets resolved to active surfaces/devices")]) (.obj []) none,
        { campaignId := campaignId, eligible := true, skipReason := some "No targets resolved" })
    else
      match db.campaign campaignId with
      -- not reached: the eligibility check has found the campaign
      | none => (db, { campaignId := campaignId, eligible := true })
      | some c =>
          let data := loadCampaignData db c targets
          let (db', outcomes) := Rows.sweep (generateForDevice cfg now data faults) db
            targets.deviceSurfaces
          let result := generationResult campaignId targets outcomes
          if result.manifestCount > 0 then
            (createDeliveryPlan db' campaignId (computeCampaignVersionHash data.version)
              (planReason result), result)
          else (db', result)

end RetailMedia
