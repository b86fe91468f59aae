import RetailMedia.Campaign.Mutations
import RetailMedia.Lib.Interleaving

/-! Edits of the flights, placements and creatives of a draft campaign as transactions.  Each of
them checks the status in a read of its own, and none locks the campaign for that read. -/

namespace RetailMedia

open Interleaving

/-- The constraints on the row that an update finds. -/
def checkUpdated {α : Type} (check : α → Except MutationError Unit) :
    Option α → Except MutationError Unit
  | none => .ok ()
  | some row => check row

/-! ## Flights -/

structure FlightValues where
  name : Option String := none
  startAt : Int
  endAt : Int
  daypartingJson : Option Json := none
  daysOfWeek : Option (List Int) := none
  priority : Int := 0

def FlightValues.row (v : FlightValues) (flightId campaignId : String) : CampaignFlight where
  id := flightId
  campaignId := campaignId
  name := v.name
  startAt := v.startAt
  endAt := v.endAt
  daypartingJson := v.daypartingJson
  daysOfWeek := v.daysOfWeek
  priority := v.priority

/-- The keyword arguments of an update; `none` is skipped. -/
structure FlightChanges where
  name : Option String := none
  startAt : Option Int := none
  endAt : Option Int := none
  daypartingJson : Option Json := none
  daysOfWeek : Option (List Int) := none
  priority : Option Int := none

def CampaignFlight.set (u : FlightChanges) (f : CampaignFlight) : CampaignFlight :=
  { f with
    name := u.name.or f.name
    startAt := u.startAt.getD f.startAt
    endAt := u.endAt.getD f.endAt
    daypartingJson := u.daypartingJson.or f.daypartingJson
    daysOfWeek := u.daysOfWeek.or f.daysOfWeek
    priority := u.priority.getD f.priority }

/-- The session writes the attributes that differ from the loaded row; objects are equal whatever
the order of their keys. -/
def FlightChanges.net (u : FlightChanges) (loaded : CampaignFlight) : FlightChanges where
  name := u.name.filter (loaded.name ≠ some ·)
  startAt := u.startAt.filter (loaded.startAt ≠ ·)
  endAt := u.endAt.filter (loaded.endAt ≠ ·)
  daypartingJson := u.daypartingJson.filter fun j ↦
    loaded.daypartingJson.map (·.dumps) ≠ some j.dumps
  daysOfWeek := u.daysOfWeek.filter (loaded.daysOfWeek ≠ some ·)
  priority := u.priority.filter (loaded.priority ≠ ·)

def checkFlight (f : CampaignFlight) : Except MutationError Unit :=
  if ¬ (varchar 36 f.id ∧ f.name.all (varchar 255) ∧ (f.daysOfWeek.getD []).all integer ∧
      integer f.priority) then .error .dataError
  else if ¬ f.startAt < f.endAt then .error (.integrityError "ck_cf_start_before_end")
  else .ok ()

/-- The campaign has been read, so its foreign key holds. -/
def insertFlight (db : Db) (f : CampaignFlight) : Except MutationError Db := do
  checkFlight f
  if f.id ∈ db.campaignFlights.map (·.id) then .error (.integrityError "campaign_flights_pkey")
  else .ok { db with campaignFlights := db.campaignFlights ++ [f] }

def updateFlight (db : Db) (flightId : String) (u : FlightChanges) : Except MutationError Db := do
  checkUpdated (fun f ↦ checkFlight (f.set u)) (Rows.get (·.id) flightId db.campaignFlights)
  return { db with
    campaignFlights := Rows.updateWhere (·.id = flightId) (·.set u) db.campaignFlights }

/-! ## Placements -/

structure PlacementValues where
  displaySurfaceId : Option String := none
  storeId : Option String := none
  clusterId : Option String := none
  branchId : Option String := none
  shareOfVoicePct : Int := 100
  maxImpressions : Option Int := none

def PlacementValues.row (v : PlacementValues) (placementId campaignId : String) :
    CampaignPlacement where
  id := placementId
  campaignId := campaignId
  displaySurfaceId := v.displaySurfaceId
  storeId := v.storeId
  clusterId := v.clusterId
  branchId := v.branchId
  shareOfVoicePct := v.shareOfVoicePct
  maxImpressions := v.maxImpressions
  status := "active"

structure PlacementChanges where
  displaySurfaceId : Option String := none
  storeId : Option String := none
  clusterId : Option String := none
  branchId : Option String := none
  shareOfVoicePct : Option Int := none
  maxImpressions : Option Int := none

def CampaignPlacement.set (u : PlacementChanges) (p : CampaignPlacement) : CampaignPlacement :=
  { p with
    displaySurfaceId := u.displaySurfaceId.or p.displaySurfaceId
    storeId := u.storeId.or p.storeId
    clusterId := u.clusterId.or p.clusterId
    branchId := u.branchId.or p.branchId
    shareOfVoicePct := u.shareOfVoicePct.getD p.shareOfVoicePct
    maxImpressions := u.maxImpressions.or p.maxImpressions }

def PlacementChanges.net (u : PlacementChanges) (loaded : CampaignPlacement) :
    PlacementChanges where
  displaySurfaceId := u.displaySurfaceId.filter (loaded.displaySurfaceId ≠ some ·)
  storeId := u.storeId.filter (loaded.storeId ≠ some ·)
  clusterId := u.clusterId.filter (loaded.clusterId ≠ some ·)
  branchId := u.branchId.filter (loaded.branchId ≠ some ·)
  shareOfVoicePct := u.shareOfVoicePct.filter (loaded.shareOfVoicePct ≠ ·)
  maxImpressions := u.maxImpressions.filter (loaded.maxImpressions ≠ some ·)

def bigInteger (n : Int) : Bool := -2 ^ 63 ≤ n ∧ n < 2 ^ 63

def checkPlacement (db : Db) (p : CampaignPlacement) : Except MutationError Unit :=
  if ¬ (varchar 36 p.id ∧ integer p.shareOfVoicePct ∧ p.maxImpressions.all bigInteger) then
    .error .dataError
  else if p.displaySurfaceId = none ∧ p.storeId = none ∧ p.clusterId = none ∧
      p.branchId = none then .error (.integrityError "ck_cp_at_least_one_target")
  else if ¬ p.displaySurfaceId.all (· ∈ db.displaySurfaces.map (·.id)) then
    .error (.integrityError "campaign_placements_display_surface_id_fkey")
  else if ¬ p.storeId.all (· ∈ db.stores.map (·.id)) then
    .error (.integrityError "campaign_placements_store_id_fkey")
  else if ¬ p.clusterId.all (· ∈ db.clusters.map (·.id)) then
    .error (.integrityError "campaign_placements_cluster_id_fkey")
  else if ¬ p.branchId.all (· ∈ db.branches.map (·.id)) then
    .error (.integrityError "campaign_placements_branch_id_fkey")
  else .ok ()

def insertPlacement (db : Db) (p : CampaignPlacement) : Except MutationError Db := do
  checkPlacement db p
  if p.id ∈ db.campaignPlacements.map (·.id) then
    .error (.integrityError "campaign_placements_pkey")
  else .ok { db with campaignPlacements := db.campaignPlacements ++ [p] }

def updatePlacement (db : Db) (placementId : String) (u : PlacementChanges) :
    Except MutationError Db := do
  checkUpdated (fun p ↦ checkPlacement db (p.set u))
    (Rows.get (·.id) placementId db.campaignPlacements)
  return { db with
    campaignPlacements :=
      Rows.updateWhere (·.id = placementId) (·.set u) db.campaignPlacements }

/-! ## What an edit flushes -/

inductive ContentWrite
  | insertFlight (f : CampaignFlight)
  | updateFlight (f : CampaignFlight) (u : FlightChanges)
  | insertPlacement (p : CampaignPlacement)
  | updatePlacement (p : CampaignPlacement) (u : PlacementChanges)
  | insertCreative (a : CreativeAsset) (l : CampaignCreative)
  | insertLink (l : CampaignCreative)

namespace ContentWrite

def campaignId : ContentWrite → String
  | insertFlight f => f.campaignId
  | updateFlight f _ => f.campaignId
  | insertPlacement p => p.campaignId
  | updatePlacement p _ => p.campaignId
  | insertCreative _ l => l.campaignId
  | insertLink l => l.campaignId

/-- The updates also set the campaign's `updated_at`. -/
def touches : ContentWrite → Bool
  | updateFlight _ _ => true
  | updatePlacement _ _ => true
  | _ => false

end ContentWrite

def Db.touchCampaign (db : Db) (campaignId : String) (now : Int) : Db :=
  { db with
    campaigns := Rows.updateWhere (·.id = campaignId) (fun c ↦ { c with updatedAt := now })
      db.campaigns }

def ContentWrite.apply (now : Int) (d : Db) : ContentWrite → Except MutationError Db
  | insertFlight f => RetailMedia.insertFlight d f
  | updateFlight f u => RetailMedia.updateFlight (d.touchCampaign f.campaignId now) f.id u
  | insertPlacement p => RetailMedia.insertPlacement d p
  | updatePlacement p u => RetailMedia.updatePlacement (d.touchCampaign p.campaignId now) p.id u
  | insertCreative a l => do
      let stored ← insertAsset d a
      RetailMedia.insertLink stored l
  | insertLink l => RetailMedia.insertLink d l

/-! ## The transactions -/

/-- Identifiers of new rows are what `uuid4` returns. -/
inductive ContentEdit
  | createCampaignFlight (flightId campaignId : String) (values : FlightValues)
  | updateCampaignFlight (flightId : String) (changes : FlightChanges)
  | createCampaignPlacement (placementId campaignId : String) (values : PlacementValues)
  | updateCampaignPlacement (placementId : String) (changes : PlacementChanges)
  | createCampaignCreative (assetId : String) (n : NewCreative)
  | attachCreativeToCampaign (campaignId creativeAssetId : String) (sortOrder : Int)

/-- Of a call that has nothing to write: `None`, the link that exists, or an error. -/
abbrev EditReturn := Except MutationError (Option CampaignCreative)

inductive EditPhase
  | start
  | ofFlight (f : CampaignFlight) (u : FlightChanges)
  | ofPlacement (p : CampaignPlacement) (u : PlacementChanges)
  | attaching (advertiserOrganizationId : String) (l : CampaignCreative)
  | linking (l : CampaignCreative)
  | allowed (w : ContentWrite)
  | flushed (w : ContentWrite)
  | returning (r : EditReturn)

structure EditTx where
  now : Int
  scope : Option (List String) := none
  edit : ContentEdit
  phase : EditPhase := .start

/-- Goes on if the checks pass. -/
def EditPhase.checked (checks : Except MutationError Unit) (next : EditPhase) : EditPhase :=
  match checks with
  | .error e => .returning (.error e)
  | .ok () => next

namespace EditTx

variable (x : EditTx)

/-- `campaign is None or campaign.status != "draft"`. -/
def inDraft (d : Db) (campaignId : String) (k : Campaign → EditPhase) : EditPhase :=
  match d.campaign campaignId with
  | none => .returning (.ok none)
  | some c => if c.status ≠ .draft then .returning (.ok none) else k c

def inDraftAndScope (d : Db) (w : ContentWrite) : EditPhase :=
  inDraft d w.campaignId fun c ↦
    .checked (assertOrgInScope c.advertiserOrganizationId x.scope) (.allowed w)

/-- The first `SELECT`: of the campaign, or of the row to update. -/
def select (d : Db) : EditPhase :=
  match x.edit with
  | .createCampaignFlight flightId campaignId values =>
      x.inDraftAndScope d (.insertFlight (values.row flightId campaignId))
  | .updateCampaignFlight flightId changes =>
      match Rows.get (·.id) flightId d.campaignFlights with
      | none => .returning (.ok none)
      | some f => .ofFlight f changes
  | .createCampaignPlacement placementId campaignId values =>
      x.inDraftAndScope d (.insertPlacement (values.row placementId campaignId))
  | .updateCampaignPlacement placementId changes =>
      match Rows.get (·.id) placementId d.campaignPlacements with
      | none => .returning (.ok none)
      | some p => .ofPlacement p changes
  | .createCampaignCreative assetId n =>
      inDraft d n.campaignId fun c ↦
        .checked (do
          validateOwner (some c.advertiserOrganizationId) n.advertiserOrganizationId
            "Campaign advertiser_organization_id does not match creative owner"
          assertOrgInScope n.advertiserOrganizationId x.scope)
          (.allowed (.insertCreative (n.asset assetId) {
            campaignId := n.campaignId
            creativeAssetId := assetId
            sortOrder := n.sortOrder
            durationOverrideMs := n.durationOverrideMs }))
  | .attachCreativeToCampaign campaignId creativeAssetId sortOrder =>
      inDraft d campaignId fun c ↦ .attaching c.advertiserOrganizationId {
        campaignId := campaignId
        creativeAssetId := creativeAssetId
        sortOrder := sortOrder }

/-- The asset to attach must be the campaign's advertiser's. -/
def selectAsset (advertiserOrganizationId : String) (l : CampaignCreative) (d : Db) : EditPhase :=
  match d.assetOwner l.creativeAssetId with
  | none => .returning (.ok none)
  | some owner =>
      .checked (do
        validateOwner (some advertiserOrganizationId) owner
          "Creative asset does not belong to the campaign's advertiser organization"
        assertOrgInScope owner x.scope) (.linking l)

def selectLink (l : CampaignCreative) (d : Db) : EditPhase :=
  match d.campaignCreatives.find? fun k ↦
      k.campaignId = l.campaignId ∧ k.creativeAssetId = l.creativeAssetId with
  | some link => .returning (.ok (some link))
  | none => .allowed (.insertLink l)

end EditTx

/-- An update flushes `UPDATE campaigns` first, which locks the campaign.  An insert takes no lock
that a transition waits for: the foreign key shares the row with an `UPDATE` of its status. -/
def editStmt (x : EditTx) : Stmt String Db EditTx :=
  match x.phase with
  | .start => .run fun d ↦ { x with phase := x.select d }
  | .ofFlight f u => .run fun d ↦
      { x with phase := x.inDraftAndScope d (.updateFlight f (u.net f)) }
  | .ofPlacement p u => .run fun d ↦
      { x with phase := x.inDraftAndScope d (.updatePlacement p (u.net p)) }
  | .attaching organizationId l => .run fun d ↦
      { x with phase := x.selectAsset organizationId l d }
  | .linking l => .run fun d ↦ { x with phase := EditTx.selectLink l d }
  | .allowed w =>
      if w.touches then
        .lock (fun d ↦ (d.campaign w.campaignId).map (·.id)) fun _ ↦ { x with phase := .flushed w }
      else .run fun _ ↦ { x with phase := .flushed w }
  | .flushed w => .commit fun d ↦ (w.apply x.now d).toOption
  | .returning _ => .commit some

end RetailMedia
