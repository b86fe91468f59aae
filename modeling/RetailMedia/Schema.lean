import RetailMedia.Clock
import RetailMedia.Json

/-! The tables: rows as the models declare them, with the columns that the modelled functions
read or write; generated keys that nothing refers to are left out.  Nullable columns are options,
timestamps are microseconds since the epoch, and the tables are lists in the order in which a query
without `ORDER BY` returns them. -/

namespace RetailMedia

/-- The database has no text with a NUL character, and refuses a statement with one. -/
def storableText (s : String) : Bool := Char.ofNat 0 ∉ s.toList

inductive CampaignStatus
  | draft
  | pendingApproval
  | approved
  | active
  | paused
  | rejected
  | completed
  | scheduled
  | archived
  deriving DecidableEq, Repr

def CampaignStatus.text : CampaignStatus → String
  | draft => "draft"
  | pendingApproval => "pending_approval"
  | approved => "approved"
  | active => "active"
  | paused => "paused"
  | rejected => "rejected"
  | completed => "completed"
  | scheduled => "scheduled"
  | archived => "archived"

inductive AssetStatus
  | metadataOnly
  | ready
  deriving DecidableEq, Repr

def AssetStatus.text : AssetStatus → String
  | metadataOnly => "metadata_only"
  | ready => "ready"

inductive ModerationStatus
  | pendingReview
  | approved
  | rejected
  deriving DecidableEq, Repr

def ModerationStatus.text : ModerationStatus → String
  | pendingReview => "pending_review"
  | approved => "approved"
  | rejected => "rejected"

inductive SlotStatus
  | available
  | limited
  | soldOut
  | blocked
  deriving DecidableEq, Repr

inductive BookingStatus
  | reserved
  | committed
  | released
  | expired
  deriving DecidableEq, Repr

inductive DeviceStatus
  | active
  | inactive
  | error
  | unregistered
  deriving DecidableEq, Repr

inductive ManifestStatus
  | planned
  | generated
  | delivered
  | failed
  | revoked
  deriving DecidableEq, Repr

inductive RuleType
  | blackout
  | internalBlock
  | maxSov
  deriving DecidableEq, Repr

inductive ScopeType
  | surface
  | store
  | cluster
  | branch
  | global
  deriving DecidableEq, Repr

structure InventorySlot where
  id : Nat
  displaySurfaceId : String
  slotDate : Int
  slotHour : Nat
  totalCapacity : Int
  bookedCapacity : Int := 0
  reservedCapacity : Int := 0
  internalBlockedCapacity : Int := 0
  emergencyBlockedCapacity : Int := 0
  status : SlotStatus := .available
  deriving DecidableEq, Repr

structure InventoryBooking where
  id : Nat
  campaignId : String
  campaignPlacementId : String
  inventorySlotId : Nat
  capacityUnits : Int
  status : BookingStatus := .reserved
  reservedUntil : Option Int := none
  committedAt : Option Int := none
  releasedAt : Option Int := none
  releaseReason : String := ""
  deriving DecidableEq, Repr

/-- `value_json` of a rule, with the keys that the conflict detector looks up. -/
structure RuleValue where
  reason : Option String := none
  capacityUnits : Option Int := none
  maxSovPercent : Option Int := none
  deriving DecidableEq, Repr

structure InventoryRule where
  id : String
  scopeType : ScopeType := .global
  scopeId : Option String := none
  ruleType : RuleType
  priority : Int := 100
  valueJson : RuleValue := {}
  isActive : Bool := true
  startsAt : Option Int := none
  endsAt : Option Int := none
  deriving DecidableEq, Repr

structure DisplaySurface where
  id : String
  logicalCarrierId : String
  storeId : String
  code : String
  isActive : Bool := true
  deriving DecidableEq, Repr

structure Branch where
  id : String
  deriving DecidableEq, Repr

structure Cluster where
  id : String
  branchId : String
  deriving DecidableEq, Repr

structure Store where
  id : String
  clusterId : String
  code : String
  name : String := ""
  deriving DecidableEq, Repr

structure Channel where
  id : String
  code : String
  deriving DecidableEq, Repr

structure DeviceType where
  id : String
  channelId : String
  code : String
  deriving DecidableEq, Repr

structure PhysicalDevice where
  id : String
  storeId : String
  deviceTypeId : String
  code : String
  status : DeviceStatus := .unregistered
  retailerId : Option String := none
  deriving DecidableEq, Repr

structure LogicalCarrier where
  id : String
  physicalDeviceId : String
  deriving DecidableEq, Repr

structure Campaign where
  id : String
  advertiserOrganizationId : String
  advertiserBrandId : Option String := none
  advertiserContractId : String
  code : String
  name : String := ""
  description : Option String := none
  status : CampaignStatus := .draft
  priority : Int := 0
  budgetLimitAmount : Option Rat := none
  budgetLimitCurrency : String := "RUB"
  startAt : Option Int := none
  endAt : Option Int := none
  timezone : String := "Europe/Moscow"
  placementBasis : String := "commercial"
  createdBy : Option String := none
  updatedAt : Int := 0
  deriving DecidableEq, Repr

structure CampaignFlight where
  id : String
  campaignId : String
  name : Option String := none
  startAt : Int
  endAt : Int
  daypartingJson : Option Json := none
  daysOfWeek : Option (List Int) := none
  priority : Int := 0
  deriving DecidableEq, Repr

structure CampaignPlacement where
  id : String
  campaignId : String
  displaySurfaceId : Option String := none
  storeId : Option String := none
  clusterId : Option String := none
  branchId : Option String := none
  shareOfVoicePct : Int := 100
  maxImpressions : Option Int := none
  impressionsDelivered : Int := 0
  status : String := "active"
  deriving DecidableEq, Repr

structure CreativeAsset where
  id : String
  advertiserOrganizationId : String := ""
  code : String
  name : String := ""
  mediaType : String
  storageBucket : String := "pilot"
  storageKey : String
  sha256Checksum : String
  fileSizeBytes : Int
  durationMs : Option Int := none
  resolutionW : Option Int := none
  resolutionH : Option Int := none
  status : AssetStatus := .ready
  moderationStatus : ModerationStatus := .approved
  moderationNotes : Option String := none
  createdBy : Option String := none
  deriving DecidableEq, Repr

structure CampaignCreative where
  campaignId : String
  creativeAssetId : String
  sortOrder : Int := 0
  durationOverrideMs : Option Int := none
  deriving DecidableEq, Repr

structure AdvertiserBrand where
  id : String
  advertiserOrganizationId : String
  deriving DecidableEq, Repr

structure AdvertiserContract where
  id : String
  advertiserOrganizationId : String := ""
  validFrom : Int
  validUntil : Option Int := none
  deriving DecidableEq, Repr

structure CampaignStatusHistory where
  campaignId : String
  oldStatus : Option CampaignStatus
  newStatus : CampaignStatus
  changedBy : String
  changedAt : Int
  reason : String
  deriving DecidableEq, Repr

structure CampaignApproval where
  campaignId : String
  requestedBy : String
  requestedAt : Int
  reviewedBy : String
  reviewedAt : Int
  decision : CampaignStatus
  rejectionReason : Option String := none
  deriving DecidableEq, Repr

structure DeliveryPlan where
  campaignId : String
  campaignVersionHash : String
  reason : String
  deriving DecidableEq, Repr

structure DeliveryManifestAsset where
  creativeAssetId : String
  sha256Checksum : String
  durationMs : Option Int
  mediaType : String
  deriving DecidableEq, Repr

def defaultRetailerId : String := "00000000-0000-4000-a000-000000000001"

/-- A `delivery_manifests` row with the surface rows, in slot order, and the asset rows that
point to it. -/
structure DeliveryManifest where
  manifestId : String
  campaignId : String
  physicalDeviceId : String
  contentHash : String
  manifestVersion : Int := 1
  status : ManifestStatus := .planned
  generatedAt : Option Int := none
  lastError : Option String := none
  retailerId : String := defaultRetailerId
  surfaceIds : List String
  assets : List DeliveryManifestAsset
  deriving DecidableEq, Repr

structure OutboxEvent where
  id : Nat
  eventType : String
  aggregateType : String
  aggregateId : String
  partitionKey : Option String := none
  payload : Json
  headers : Json := .obj []
  deriving Repr

inductive PopStatus
  | accepted
  | quarantined
  | rejected
  deriving DecidableEq, Repr

structure PopEventRaw where
  eventId : String
  schemaVersion : String
  deviceId : String
  manifestId : Option String
  campaignId : Option String
  campaignVerified : Bool := false
  creativeAssetId : String
  surfaceId : String
  renderedAt : Int
  eventRecordedAt : PyDatetime
  durationMs : Int
  playbackResult : String
  status : PopStatus
  quarantineReason : Option String := none
  expiresAt : Option Int := none
  batchId : Option String := none
  retailerId : String := defaultRetailerId
  deriving DecidableEq, Repr

structure EmergencyOverride where
  level : String := "global"
  active : Bool
  reason : String := ""
  activatedAt : Option Int := none
  deriving DecidableEq, Repr

structure Db where
  branches : List Branch := []
  clusters : List Cluster := []
  stores : List Store := []
  channels : List Channel := []
  deviceTypes : List DeviceType := []
  physicalDevices : List PhysicalDevice := []
  logicalCarriers : List LogicalCarrier := []
  displaySurfaces : List DisplaySurface := []
  campaigns : List Campaign := []
  campaignFlights : List CampaignFlight := []
  campaignPlacements : List CampaignPlacement := []
  campaignCreatives : List CampaignCreative := []
  creativeAssets : List CreativeAsset := []
  advertiserBrands : List AdvertiserBrand := []
  advertiserContracts : List AdvertiserContract := []
  campaignStatusHistory : List CampaignStatusHistory := []
  campaignApprovals : List CampaignApproval := []
  inventorySlots : List InventorySlot := []
  inventoryBookings : List InventoryBooking := []
  inventoryRules : List InventoryRule := []
  deliveryPlans : List DeliveryPlan := []
  deliveryManifests : List DeliveryManifest := []
  emergencyOverrides : List EmergencyOverride := []
  outboxEvents : List OutboxEvent := []
  popEventsRaw : List PopEventRaw := []
  popDedupIndex : List String := []
  deriving Repr

end RetailMedia
