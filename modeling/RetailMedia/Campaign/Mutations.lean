import RetailMedia.Campaign.Lifecycle

/-! Creation and update of draft campaigns, and the creatives linked to them. -/

namespace RetailMedia

/-- What makes a call raise; the request is then rolled back. -/
inductive MutationError
  | scopeError (message : String)
  | crossOrgReference (message : String)
  | dataError
  | integrityError (constraint : String)
  deriving DecidableEq, Repr

/-! ## Columns -/

def lengthWithin (low high : Nat) (s : String) : Bool := low ≤ s.length ∧ s.length ≤ high

def varchar (size : Nat) (s : String) : Bool := lengthWithin 0 size s ∧ storableText s

def integer (n : Int) : Bool := -2 ^ 31 ≤ n ∧ n < 2 ^ 31

/-- `NUMERIC(18, 2)` rounds half away from zero. -/
def toNumeric (x : Rat) : Rat :=
  let cents : Int := if 0 ≤ x then (x * 100 + 1 / 2).floor else -(-x * 100 + 1 / 2).floor
  cents / 100

def numeric (x : Rat) : Bool := -10 ^ 16 < toNumeric x ∧ toNumeric x < 10 ^ 16

/-! ## Ownership -/

/-- Both lookups of a reference end in the same error, so that it does not tell whether the row
exists. -/
def validateOwner (owner : Option String) (advertiserOrganizationId message : String) :
    Except MutationError Unit :=
  if owner = some advertiserOrganizationId then .ok () else .error (.crossOrgReference message)

def Db.contractOwner (db : Db) (contractId : String) : Option String :=
  (Rows.get (·.id) contractId db.advertiserContracts).map (·.advertiserOrganizationId)

def Db.brandOwner (db : Db) (brandId : String) : Option String :=
  (Rows.get (·.id) brandId db.advertiserBrands).map (·.advertiserOrganizationId)

def Db.assetOwner (db : Db) (assetId : String) : Option String :=
  (Rows.get (·.id) assetId db.creativeAssets).map (·.advertiserOrganizationId)

def validateContractBelongsToOrg (db : Db) (contractId advertiserOrganizationId : String) :
    Except MutationError Unit :=
  validateOwner (db.contractOwner contractId) advertiserOrganizationId
    "Invalid advertiser contract reference"

def validateBrandBelongsToOrg (db : Db) (brandId advertiserOrganizationId : String) :
    Except MutationError Unit :=
  validateOwner (db.brandOwner brandId) advertiserOrganizationId
    "Invalid advertiser brand reference"

def assertOrgInScope (advertiserOrganizationId : String) (scope : Option (List String)) :
    Except MutationError Unit :=
  if inScope advertiserOrganizationId scope then .ok ()
  else .error (.scopeError "Organization not in scope")

/-! ## Campaigns -/

structure CampaignCreateRequest where
  advertiserOrganizationId : String
  advertiserBrandId : Option String := none
  advertiserContractId : String
  code : String
  name : String
  description : Option String := none
  startAt : Option Int := none
  endAt : Option Int := none
  timezone : String := "Europe/Moscow"
  budgetLimitAmount : Option Rat := none
  budgetLimitCurrency : String := "RUB"
  priority : Int := 0
  placementBasis : String := "commercial"
  codeLength : lengthWithin 1 64 code = true := by decide
  nameLength : lengthWithin 1 255 name = true := by decide

/-- All fields optional; `none` also stands for a field that the request leaves out, as
`update_campaign` skips both. -/
structure CampaignUpdateRequest where
  advertiserBrandId : Option String := none
  advertiserContractId : Option String := none
  code : Option String := none
  name : Option String := none
  description : Option String := none
  startAt : Option Int := none
  endAt : Option Int := none
  timezone : Option String := none
  budgetLimitAmount : Option Rat := none
  budgetLimitCurrency : Option String := none
  priority : Option Int := none
  codeLength : code.all (lengthWithin 1 64) = true := by decide
  nameLength : name.all (lengthWithin 1 255) = true := by decide

def codeTaken (db : Db) (c : Campaign) (code : String) : Bool :=
  db.campaigns.any fun d ↦
    d.id ≠ c.id ∧ d.advertiserOrganizationId = c.advertiserOrganizationId ∧ d.code = code

/-- The insert, under the column types, the keys and the unique code of an organization.  The
organization itself exists, as a contract of it does. -/
def insertCampaign (db : Db) (c : Campaign) : Except MutationError Db :=
  if ¬ (varchar 36 c.id ∧ varchar 64 c.code ∧ varchar 255 c.name ∧
      c.description.all storableText ∧ varchar 64 c.timezone ∧ varchar 3 c.budgetLimitCurrency ∧
      integer c.priority ∧ c.budgetLimitAmount.all numeric) then .error .dataError
  else if c.id ∈ db.campaigns.map (·.id) then .error (.integrityError "campaigns_pkey")
  else if codeTaken db c c.code then .error (.integrityError "uq_campaign_code_per_org")
  else .ok { db with campaigns := db.campaigns ++ [c] }

def CampaignCreateRequest.row (req : CampaignCreateRequest) (id createdBy : String) (now : Int) :
    Campaign where
  id := id
  advertiserOrganizationId := req.advertiserOrganizationId
  advertiserBrandId := req.advertiserBrandId
  advertiserContractId := req.advertiserContractId
  code := req.code
  name := req.name
  description := req.description
  status := .draft
  priority := req.priority
  budgetLimitAmount := req.budgetLimitAmount.map toNumeric
  budgetLimitCurrency := req.budgetLimitCurrency
  startAt := req.startAt
  endAt := req.endAt
  timezone := req.timezone
  placementBasis := req.placementBasis
  createdBy := some createdBy
  updatedAt := now

/-- `newId` is what `uuid4` returns. -/
def createCampaign (db : Db) (now : Int) (newId createdBy : String) (req : CampaignCreateRequest)
    (scope : Option (List String)) : Except MutationError (Db × String) := do
  validateContractBelongsToOrg db req.advertiserContractId req.advertiserOrganizationId
  match req.advertiserBrandId with
  | none => pure ()
  | some brandId => validateBrandBelongsToOrg db brandId req.advertiserOrganizationId
  assertOrgInScope req.advertiserOrganizationId scope
  let inserted ← insertCampaign db (req.row newId createdBy now)
  return ({ inserted with
    campaignStatusHistory := inserted.campaignStatusHistory ++ [{
      campaignId := newId
      oldStatus := none
      newStatus := .draft
      changedBy := createdBy
      changedAt := now
      reason := "Campaign created" }] }, newId)

/-- The `setattr` loop over the fields that are not `None`. -/
def Campaign.setFields (r : CampaignUpdateRequest) (c : Campaign) : Campaign :=
  { c with
    advertiserBrandId := r.advertiserBrandId.or c.advertiserBrandId
    advertiserContractId := r.advertiserContractId.getD c.advertiserContractId
    code := r.code.getD c.code
    name := r.name.getD c.name
    description := r.description.or c.description
    startAt := r.startAt.or c.startAt
    endAt := r.endAt.or c.endAt
    timezone := r.timezone.getD c.timezone
    budgetLimitAmount := (r.budgetLimitAmount.map toNumeric).or c.budgetLimitAmount
    budgetLimitCurrency := r.budgetLimitCurrency.getD c.budgetLimitCurrency
    priority := r.priority.getD c.priority }

/-- The update of the columns that the request sets, under their types, keys and constraint. -/
def flushUpdate (db : Db) (c : Campaign) (r : CampaignUpdateRequest) : Except MutationError Unit :=
  if ¬ (r.advertiserBrandId.all (varchar 36) ∧ r.advertiserContractId.all (varchar 36) ∧
      r.code.all (varchar 64) ∧ r.name.all (varchar 255) ∧ r.description.all storableText ∧
      r.timezone.all (varchar 64) ∧ r.budgetLimitCurrency.all (varchar 3) ∧
      r.priority.all integer ∧ r.budgetLimitAmount.all numeric) then .error .dataError
  else if r.code.any (codeTaken db c) then .error (.integrityError "uq_campaign_code_per_org")
  else if r.advertiserBrandId.any (db.brandOwner · = none) then
    .error (.integrityError "campaigns_advertiser_brand_id_fkey")
  else if r.advertiserContractId.any (db.contractOwner · = none) then
    .error (.integrityError "campaigns_advertiser_contract_id_fkey")
  else .ok ()

def updateCampaign (db : Db) (now : Int) (campaignId : String) (scope : Option (List String))
    (r : CampaignUpdateRequest) : Except MutationError (Db × Option CampaignStatus) :=
  match db.campaign campaignId with
  | none => .ok (db, none)
  | some c =>
      if c.status ≠ .draft then .ok (db, none)
      else do
        assertOrgInScope c.advertiserOrganizationId scope
        flushUpdate db c r
        return ({ db with
          campaigns := Rows.updateWhere (·.id = campaignId)
            (fun d ↦ { d.setFields r with updatedAt := now }) db.campaigns }, some c.status)

/-! ## Creatives of a campaign -/

structure NewCreative where
  campaignId : String
  advertiserOrganizationId : String
  code : String
  name : String
  mediaType : String
  durationMs : Option Int := none
  resolutionW : Option Int := none
  resolutionH : Option Int := none
  sortOrder : Int := 0
  durationOverrideMs : Option Int := none
  createdBy : Option String := none
  storageBucket : String := "pilot"

/-- Always `metadata_only` and `pending_review`; the client's checksum and size are not used. -/
def NewCreative.asset (n : NewCreative) (assetId : String) : CreativeAsset where
  id := assetId
  advertiserOrganizationId := n.advertiserOrganizationId
  code := n.code
  name := n.name
  mediaType := n.mediaType
  storageBucket := n.storageBucket
  storageKey := "pilot/creatives/" ++ assetId
  sha256Checksum := ""
  fileSizeBytes := 0
  durationMs := n.durationMs
  resolutionW := n.resolutionW
  resolutionH := n.resolutionH
  status := .metadataOnly
  moderationStatus := .pendingReview
  createdBy := n.createdBy

def insertAsset (db : Db) (a : CreativeAsset) : Except MutationError Db :=
  if ¬ (varchar 36 a.id ∧ varchar 64 a.code ∧ varchar 255 a.name ∧ varchar 32 a.mediaType ∧
      varchar 128 a.storageBucket ∧ a.durationMs.all integer ∧ a.resolutionW.all integer ∧
      a.resolutionH.all integer) then .error .dataError
  else if a.id ∈ db.creativeAssets.map (·.id) then .error (.integrityError "creative_assets_pkey")
  else if db.creativeAssets.any fun b ↦
      b.advertiserOrganizationId = a.advertiserOrganizationId ∧ b.code = a.code then
    .error (.integrityError "uq_creative_asset_code_per_org")
  else .ok { db with creativeAssets := db.creativeAssets ++ [a] }

/-- Campaign and asset have been read, so their foreign keys hold. -/
def insertLink (db : Db) (l : CampaignCreative) : Except MutationError Db :=
  if ¬ (integer l.sortOrder ∧ l.durationOverrideMs.all integer) then .error .dataError
  else if db.campaignCreatives.any fun k ↦
      k.campaignId = l.campaignId ∧ k.creativeAssetId = l.creativeAssetId then
    .error (.integrityError "uq_campaign_creative")
  else .ok { db with campaignCreatives := db.campaignCreatives ++ [l] }

def createCampaignCreative (db : Db) (assetId : String) (n : NewCreative)
    (scope : Option (List String)) : Except MutationError (Db × Option String) :=
  match db.campaign n.campaignId with
  | none => .ok (db, none)
  | some c =>
      if c.status ≠ .draft then .ok (db, none)
      else do
        validateOwner (some c.advertiserOrganizationId) n.advertiserOrganizationId
          "Campaign advertiser_organization_id does not match creative owner"
        assertOrgInScope n.advertiserOrganizationId scope
        let stored ← insertAsset db (n.asset assetId)
        let linked ← insertLink stored {
          campaignId := n.campaignId
          creativeAssetId := assetId
          sortOrder := n.sortOrder
          durationOverrideMs := n.durationOverrideMs }
        return (linked, some assetId)

/-- An asset that is attached already is returned as it is linked. -/
def attachCreativeToCampaign (db : Db) (campaignId creativeAssetId : String) (sortOrder : Int)
    (scope : Option (List String)) : Except MutationError (Db × Option CampaignCreative) :=
  match db.campaign campaignId with
  | none => .ok (db, none)
  | some c =>
      if c.status ≠ .draft then .ok (db, none)
      else
        match db.assetOwner creativeAssetId with
        | none => .ok (db, none)
        | some owner => do
            validateOwner (some c.advertiserOrganizationId) owner
              "Creative asset does not belong to the campaign's advertiser organization"
            assertOrgInScope owner scope
            match db.campaignCreatives.find? fun l ↦
                l.campaignId = campaignId ∧ l.creativeAssetId = creativeAssetId with
            | some link => return (db, some link)
            | none =>
                let link : CampaignCreative := {
                  campaignId := campaignId
                  creativeAssetId := creativeAssetId
                  sortOrder := sortOrder }
                let linked ← insertLink db link
                return (linked, some link)

/-! ## Requests -/

inductive CampaignMutation
  | create (now : Int) (newId createdBy : String) (req : CampaignCreateRequest)
    (scope : Option (List String))
  | update (now : Int) (campaignId : String) (scope : Option (List String))
    (req : CampaignUpdateRequest)
  | createCreative (assetId : String) (n : NewCreative) (scope : Option (List String))
  | attachCreative (campaignId creativeAssetId : String) (sortOrder : Int)
    (scope : Option (List String))

/-- The state that a call leaves; one that raises is rolled back. -/
def committedState {α : Type} (db : Db) : Except MutationError (Db × α) → Db
  | .ok (db', _) => db'
  | .error _ => db

def campaignMutation (db : Db) : CampaignMutation → Db
  | .create now newId createdBy req scope =>
      committedState db (createCampaign db now newId createdBy req scope)
  | .update now campaignId scope req =>
      committedState db (updateCampaign db now campaignId scope req)
  | .createCreative assetId n scope =>
      committedState db (createCampaignCreative db assetId n scope)
  | .attachCreative campaignId creativeAssetId sortOrder scope =>
      committedState db (attachCreativeToCampaign db campaignId creativeAssetId sortOrder scope)

end RetailMedia
