import RetailMedia.Delivery.Freshness

/-! Campaign routes with the outbox events that they enqueue, the consumer of those events, and
the pipeline that they form with generation and moderation. -/

namespace RetailMedia

/-! ## Lifecycle routes -/

structure CampaignApprovalResponse where
  message : String
  campaignId : String
  oldStatus : CampaignStatus
  newStatus : CampaignStatus
  deriving DecidableEq, Repr

def transitionPayload (campaignId : String) (oldStatus newStatus : CampaignStatus)
    (extra : List (String × Json)) : Json :=
  .obj ([("campaign_id", .str campaignId), ("old_status", .str oldStatus.text),
    ("new_status", .str newStatus.text)] ++ extra)

def enqueueTransition (db : Db) (eventType campaignId : String)
    (oldStatus newStatus : CampaignStatus) (extra : List (String × Json)) : Db :=
  enqueueOutboxEvent db eventType "campaign" campaignId
    (transitionPayload campaignId oldStatus newStatus extra)
    (.obj [("source_service", .str "control-api")]) none

/-- What the routes of approve, reject, activate and pause share.  A route that raises is rolled
back, whatever the operation did. -/
def transitionEndpoint (db : Db) (campaignId missing message eventType : String)
    (extra : List (String × Json)) (result : Db × TransitionResult) :
    Db × Except HttpError CampaignApprovalResponse :=
  match result with
  | (_, .error e) => (db, .error ⟨403, e⟩)
  | (_, .ok none) => (db, .error ⟨409, missing⟩)
  | (db', .ok (some (oldStatus, newStatus))) =>
      (enqueueTransition db' eventType campaignId oldStatus newStatus extra,
        .ok ⟨message, campaignId, oldStatus, newStatus⟩)

def approveEndpoint (db : Db) (now : Int) (campaignId userId : String)
    (scope : Option (List String)) : Db × Except HttpError CampaignApprovalResponse :=
  transitionEndpoint db campaignId "Campaign not found or not in pending_approval status"
    "Campaign approved" "campaign.approved" [] (approveCampaign db now campaignId userId scope)

def rejectEndpoint (db : Db) (now : Int) (campaignId userId reason : String)
    (scope : Option (List String)) : Db × Except HttpError CampaignApprovalResponse :=
  transitionEndpoint db campaignId "Campaign not found or not in pending_approval status"
    "Campaign rejected" "campaign.rejected"
    [("rejection_reason", .str (firstChars 200 reason))]
    (rejectCampaign db now campaignId userId reason scope)

def activateEndpoint (db : Db) (now : Int) (campaignId userId : String)
    (scope : Option (List String)) : Db × Except HttpError CampaignApprovalResponse :=
  transitionEndpoint db campaignId "Campaign not found or not in approved status"
    "Campaign activated" "campaign.activated" []
    (activateCampaign db now campaignId userId scope)

def pauseEndpoint (db : Db) (now : Int) (campaignId userId : String)
    (scope : Option (List String)) : Db × Except HttpError CampaignApprovalResponse :=
  transitionEndpoint db campaignId "Campaign not found or not in active status"
    "Campaign paused" "campaign.paused" [] (pauseCampaign db now campaignId userId scope)

def completeEndpoint (db : Db) (now : Int) (campaignId userId : String)
    (scope : Option (List String)) : Db × Except HttpError CampaignApprovalResponse :=
  match completeCampaign db now campaignId userId scope with
  | (_, .error e) => (db, .error ⟨403, e⟩)
  | (_, .ok none) =>
      (db, .error ⟨409, "Campaign not found, not active, or flights not all expired"⟩)
  | (db', .ok (some (oldStatus, newStatus))) =>
      -- already completed: no event
      if oldStatus = newStatus then
        (db', .ok ⟨"Campaign already completed", campaignId, oldStatus, newStatus⟩)
      else
        (enqueueTransition db' "campaign.completed" campaignId oldStatus newStatus [],
          .ok ⟨"Campaign completed — all flights ended", campaignId, oldStatus, newStatus⟩)

/-- Completing the expired campaigns enqueues no event for them. -/
def completeExpiredEndpoint (db : Db) (now : Int) : Db × List String :=
  completeExpiredCampaigns db now systemUser

def archiveEndpoint (db : Db) (now : Int) (campaignId userId : String)
    (scope : Option (List String)) : Db × Except HttpError CampaignApprovalResponse :=
  match archiveCampaign db now campaignId userId scope with
  | (_, .error e) => (db, .error ⟨403, e⟩)
  | (_, .ok (none, _)) => (db, .error ⟨404, "Campaign not found"⟩)
  | (db', .ok (some oldStatus, newStatus)) =>
      if oldStatus = newStatus then
        (db, .error ⟨409, "Cannot archive campaign in status '" ++ oldStatus.text ++ "'"⟩)
      else
        (enqueueTransition db' "campaign.archived" campaignId oldStatus .archived [],
          .ok ⟨"Campaign archived", campaignId, oldStatus, .archived⟩)

def requestApprovalEndpoint (db : Db) (cfg : InventoryConfig) (now : Int)
    (campaignId userId : String) (scope : Option (List String)) :
    Db × Except HttpError CampaignApprovalResponse :=
  match requestCampaignApproval db cfg now campaignId userId scope with
  | (_, .error e) => (db, .error ⟨403, e⟩)
  | (_, .ok none) => (db, .error ⟨409, "Campaign not found or not in draft status"⟩)
  | (db', .ok (some (oldStatus, newStatus, reason))) =>
      if oldStatus = newStatus then
        (db, .error ⟨422, (reason.filter (· ≠ "")).getD
          ("Кампания не готова к отправке. Проверьте заполнение флайтов, " ++
            "плейсментов и креативов.")⟩)
      else
        (enqueueTransition db' "campaign.approval_requested" campaignId oldStatus newStatus [],
          .ok ⟨"Approval requested", campaignId, oldStatus, newStatus⟩)

/-! ## The consumer -/

def deliveryEventTypes : List String := [
  "campaign.approved", "campaign.updated", "campaign.scheduled", "campaign.activated",
  "campaign.placement.changed", "campaign.creative.changed", "campaign.flight.changed"]

/-- `interrupted` when generation raises outside the loop's `try` blocks: the handler returns
`False` and the consumer rolls back. -/
def handleCampaignDeliveryEvent (cfg : SecurityConfig) (db : Db) (now : Int) (e : OutboxEvent)
    (faults : String → Option Fault) (interrupted : Bool) : Db × Bool :=
  if e.aggregateId = "" then (db, true)
  else if e.eventType ∉ deliveryEventTypes then (db, true)
  else if interrupted then (db, false)
  else ((generateManifestsForCampaign cfg db now e.aggregateId faults).1, true)

def Db.outboxEvent (db : Db) (eventId : Nat) : Option OutboxEvent :=
  Rows.get (·.id) eventId db.outboxEvents

/-! ## The pipeline -/

/-- `handled` lists the events that the handler has returned success for. -/
structure PipelineState where
  db : Db
  handled : List Nat := []

structure PipelineConfig where
  security : SecurityConfig := {}
  inventory : InventoryConfig := {}

inductive PipelineOp
  | requestApproval (campaignId userId : String) (scope : Option (List String))
  | approve (campaignId userId : String) (scope : Option (List String))
  | reject (campaignId userId reason : String) (scope : Option (List String))
  | activate (campaignId userId : String) (scope : Option (List String))
  | pause (campaignId userId : String) (scope : Option (List String))
  | complete (campaignId userId : String) (scope : Option (List String))
  | completeExpired
  | archive (campaignId userId : String) (scope : Option (List String))
  | approveAsset (assetId : String)
  | rejectAsset (assetId reason : String)
  | generate (campaignId : String) (faults : String → Option Fault)
  | handle (eventId : Nat) (faults : String → Option Fault) (interrupted : Bool)

structure PipelineStep where
  now : Int
  op : PipelineOp

def handleEvent (cfg : SecurityConfig) (now : Int) (s : PipelineState) (eventId : Nat)
    (faults : String → Option Fault) (interrupted : Bool) : PipelineState :=
  match s.db.outboxEvent eventId with
  | none => s
  | some e =>
      match handleCampaignDeliveryEvent cfg s.db now e faults interrupted with
      | (_, false) => s
      | (db', true) => { db := db', handled := eventId :: s.handled }

def pipelineStep (cfg : PipelineConfig) (s : PipelineState) (a : PipelineStep) :
    PipelineState :=
  match a.op with
  | .requestApproval campaignId userId scope =>
      { s with
        db := (requestApprovalEndpoint s.db cfg.inventory a.now campaignId userId scope).1 }
  | .approve campaignId userId scope =>
      { s with db := (approveEndpoint s.db a.now campaignId userId scope).1 }
  | .reject campaignId userId reason scope =>
      { s with db := (rejectEndpoint s.db a.now campaignId userId reason scope).1 }
  | .activate campaignId userId scope =>
      { s with db := (activateEndpoint s.db a.now campaignId userId scope).1 }
  | .pause campaignId userId scope =>
      { s with db := (pauseEndpoint s.db a.now campaignId userId scope).1 }
  | .complete campaignId userId scope =>
      { s with db := (completeEndpoint s.db a.now campaignId userId scope).1 }
  | .completeExpired => { s with db := (completeExpiredEndpoint s.db a.now).1 }
  | .archive campaignId userId scope =>
      { s with db := (archiveEndpoint s.db a.now campaignId userId scope).1 }
  | .approveAsset assetId => { s with db := (approveCreativeEndpoint s.db assetId).1 }
  | .rejectAsset assetId reason => { s with db := (rejectCreativeEndpoint s.db assetId reason).1 }
  | .generate campaignId faults =>
      { s with db := (generateManifestsForCampaign cfg.security s.db a.now campaignId faults).1 }
  | .handle eventId faults interrupted =>
      handleEvent cfg.security a.now s eventId faults interrupted

/-- Every enqueued event has been handled. -/
def PipelineState.Quiescent (s : PipelineState) : Prop :=
  ∀ e ∈ s.db.outboxEvents, e.id ∈ s.handled

instance (s : PipelineState) : Decidable s.Quiescent := inferInstanceAs (Decidable (∀ _ ∈ _, _))

end RetailMedia
