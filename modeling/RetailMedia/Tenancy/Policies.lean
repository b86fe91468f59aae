import RetailMedia.Tenancy.Settings
import RetailMedia.Lib.RowSecurity

/-! The row-level security policies that the migrations create, drop and leave, and the rights that
a session has under them. -/

namespace RetailMedia

/-! ## Tables and checks -/

inductive RlsTable
  | advertiserOrganizations
  | advertiserUserMemberships
  | advertiserBrands
  | advertiserContracts
  | advertiserContacts
  | advertiserInvites
  | advertiserApplications
  | campaigns
  | campaignBriefs
  | creativeAssets
  | creativeUploadSessions
  | contractUploadSessions
  | campaignApprovals
  | campaignCreatives
  | campaignFlights
  | campaignPlacements
  | campaignStatusHistory
  | deliveryManifests
  | deliveryManifestAssets
  | deliveryManifestSurfaces
  | deliveryPlans
  | inventoryBookings
  | popEventsRaw
  | popIngestionBatches
  | branches
  | clusters
  | stores
  | physicalDevices
  | displaySurfaces
  | inventoryRules
  | inventorySlots
  | deviceOnboardingCodes
  | commerceOrders
  | commerceOrderLines
  | commerceTariffVersions
  | commercePriceItems
  | licenseGrants
  | licenseSeats
  deriving DecidableEq, Repr

inductive RlsColumn
  | id
  | retailerId
  | advertiserOrganizationId
  | organizationId
  deriving DecidableEq, Repr

/-- The expressions that the policies are made of. -/
inductive RlsCheck
  | isAdmin
  | inScope (column : RlsColumn) (scope : RlsVariable)
  | isDevice
  /-- A row of the parent table that this one refers to passes the check. -/
  | viaParent (parent : RlsTable) (check : RlsCheck)
  | always
  | either (a b : RlsCheck)
  | both (a b : RlsCheck)
  deriving DecidableEq, Repr

inductive RlsCommand
  | select
  | insert
  | update
  | delete
  deriving DecidableEq, Repr

/-- `{stem}_sel`, `{stem}_ins`, `{stem}_upd`, `{stem}_del`; the stem is `{table}_rls` but for the
oldest policies and those of the onboarding codes. -/
inductive PolicyStem
  | table (t : RlsTable)
  | advertiserRls
  | membershipRls
  | deviceOnboardingCodes
  deriving DecidableEq, Repr

structure RlsPolicy where
  stem : PolicyStem
  table : RlsTable
  command : RlsCommand
  using? : Option RlsCheck := none
  withCheck : Option RlsCheck := none
  deriving DecidableEq, Repr

/-! ## Migrations -/

inductive RlsStatement
  | enable (t : RlsTable)
  | create (p : RlsPolicy)
  | dropIfExists (stem : PolicyStem) (t : RlsTable) (command : RlsCommand)
  deriving DecidableEq, Repr

structure RlsCatalogue where
  enabled : List RlsTable := []
  policies : List RlsPolicy := []
  deriving DecidableEq, Repr

def RlsPolicy.named (stem : PolicyStem) (t : RlsTable) (command : RlsCommand) (p : RlsPolicy) :
    Bool := p.stem = stem ∧ p.table = t ∧ p.command = command

/-- A policy cannot be created under a name that its table has. -/
def RlsCatalogue.execute (c : RlsCatalogue) : RlsStatement → Option RlsCatalogue
  | .enable t => some { c with enabled := t :: c.enabled }
  | .create p =>
      if c.policies.any (RlsPolicy.named p.stem p.table p.command) then none
      else some { c with policies := p :: c.policies }
  | .dropIfExists stem t command =>
      some { c with policies := c.policies.filter fun p ↦ !p.named stem t command }

section Checks

def ownAdvertiser (column : RlsColumn) : RlsCheck := .inScope column .scopeAdvertiserIds

def ownRetailer : RlsCheck := .inScope .retailerId .scopeRetailerIds

/-- `SCOPE_CHECK`, and the checks written like it. -/
def scopeCheck (column : RlsColumn) : RlsCheck := .either .isAdmin (ownAdvertiser column)

/-- `TWO_LEVEL`. -/
def twoLevel (column : RlsColumn) : RlsCheck :=
  .either .isAdmin (.both ownRetailer (ownAdvertiser column))

/-- `RETAILER_ONLY`. -/
def retailerOnly : RlsCheck := .either .isAdmin ownRetailer

def viaCampaignScope : RlsCheck :=
  .either .isAdmin (.viaParent .campaigns (ownAdvertiser .advertiserOrganizationId))

def viaOrderScope : RlsCheck :=
  .either .isAdmin (.viaParent .commerceOrders (ownAdvertiser .advertiserOrganizationId))

def deviceBootstrapSelect : RlsCheck := .either (.either .isAdmin .isDevice) ownRetailer

end Checks

section Migrations

open RlsStatement RlsTable

def selectPolicy (stem : PolicyStem) (t : RlsTable) (check : RlsCheck) : RlsStatement :=
  create { stem := stem, table := t, command := .select, using? := some check }

def insertPolicy (stem : PolicyStem) (t : RlsTable) (check : RlsCheck) : RlsStatement :=
  create { stem := stem, table := t, command := .insert, withCheck := some check }

def updatePolicy (stem : PolicyStem) (t : RlsTable) (check : RlsCheck) : RlsStatement :=
  create { stem := stem, table := t, command := .update, using? := some check, withCheck := some check }

/-- An update policy without a check of its own for the row that it leaves. -/
def updateUsingPolicy (stem : PolicyStem) (t : RlsTable) (check : RlsCheck) : RlsStatement :=
  create { stem := stem, table := t, command := .update, using? := some check }

def deletePolicy (stem : PolicyStem) (t : RlsTable) (check : RlsCheck) : RlsStatement :=
  create { stem := stem, table := t, command := .delete, using? := some check }

def writePolicies (t : RlsTable) (check : RlsCheck) : List RlsStatement := [
  insertPolicy (.table t) t check,
  updatePolicy (.table t) t check,
  deletePolicy (.table t) t check]

def fourPolicies (t : RlsTable) (check : RlsCheck) : List RlsStatement :=
  selectPolicy (.table t) t check :: writePolicies t check

def replacePolicies (t : RlsTable) (check : RlsCheck) : List RlsStatement :=
  ([.select, .insert, .update, .delete].map fun command ↦ dropIfExists (.table t) t command) ++
    enable t :: fourPolicies t check

def rlsPilot : List RlsStatement := [
  enable advertiserOrganizations,
  selectPolicy .advertiserRls advertiserOrganizations (scopeCheck .id),
  enable advertiserUserMemberships,
  selectPolicy .membershipRls advertiserUserMemberships (scopeCheck .advertiserOrganizationId)]

def advertiserDomain : List RlsStatement :=
  [advertiserBrands, advertiserContracts, advertiserContacts].flatMap fun t ↦
    [enable t, selectPolicy (.table t) t (scopeCheck .advertiserOrganizationId)]

def directTables : List RlsTable := [campaigns, creativeAssets]

def viaCampaignTables : List RlsTable := [
  campaignFlights, campaignPlacements, campaignCreatives, campaignApprovals, campaignStatusHistory]

def campaignDomain : List RlsStatement :=
  directTables.flatMap (fun t ↦
    [enable t, selectPolicy (.table t) t (scopeCheck .advertiserOrganizationId)]) ++
  viaCampaignTables.flatMap fun t ↦ [enable t, selectPolicy (.table t) t viaCampaignScope]

def campaignWriteRls : List RlsStatement :=
  directTables.flatMap (writePolicies · (scopeCheck .advertiserOrganizationId)) ++
  viaCampaignTables.flatMap (writePolicies · viaCampaignScope)

def advertiserWriteRls : List RlsStatement :=
  [advertiserOrganizations, advertiserUserMemberships, advertiserBrands, advertiserContracts,
    advertiserContacts].flatMap (writePolicies · .isAdmin)

def uploadSessionsRls : List RlsStatement := [
  enable creativeUploadSessions,
  selectPolicy (.table creativeUploadSessions) creativeUploadSessions
    (scopeCheck .advertiserOrganizationId),
  insertPolicy (.table creativeUploadSessions) creativeUploadSessions
    (scopeCheck .advertiserOrganizationId),
  updateUsingPolicy (.table creativeUploadSessions) creativeUploadSessions
    (scopeCheck .advertiserOrganizationId)]

def campaignBriefsRls : List RlsStatement := [
  enable campaignBriefs,
  selectPolicy (.table campaignBriefs) campaignBriefs (scopeCheck .advertiserOrganizationId),
  insertPolicy (.table campaignBriefs) campaignBriefs (scopeCheck .advertiserOrganizationId),
  updatePolicy (.table campaignBriefs) campaignBriefs (scopeCheck .advertiserOrganizationId)]

def advertiserTables : List RlsTable := [
  advertiserBrands, advertiserContacts, advertiserContracts, advertiserInvites,
  advertiserUserMemberships, campaigns, campaignBriefs, creativeAssets, creativeUploadSessions]

def derivedTables : List RlsTable := [
  campaignApprovals, campaignCreatives, campaignFlights, campaignPlacements, campaignStatusHistory,
  deliveryManifests, deliveryManifestAssets, deliveryManifestSurfaces, deliveryPlans,
  inventoryBookings, popEventsRaw, popIngestionBatches]

def hierarchyTables : List RlsTable := [
  branches, clusters, stores, physicalDevices, displaySurfaces, inventoryRules, inventorySlots]

def multitenancyRetailerId : List RlsStatement :=
  advertiserTables.flatMap (replacePolicies · (twoLevel .advertiserOrganizationId)) ++
  replacePolicies advertiserApplications (twoLevel .organizationId) ++
  replacePolicies advertiserOrganizations (twoLevel .id) ++
  derivedTables.flatMap (replacePolicies · retailerOnly) ++
  hierarchyTables.flatMap (replacePolicies · retailerOnly)

def deviceOnboardingCodesRls : List RlsStatement := [
  enable deviceOnboardingCodes,
  selectPolicy .deviceOnboardingCodes deviceOnboardingCodes retailerOnly,
  insertPolicy .deviceOnboardingCodes deviceOnboardingCodes retailerOnly,
  updateUsingPolicy .deviceOnboardingCodes deviceOnboardingCodes retailerOnly]

def deviceRlsBootstrap : List RlsStatement := [
  dropIfExists (.table physicalDevices) physicalDevices .select,
  selectPolicy (.table physicalDevices) physicalDevices deviceBootstrapSelect]

def publicAdvertiserApplicationInsert : List RlsStatement := [
  dropIfExists (.table advertiserApplications) advertiserApplications .insert,
  insertPolicy (.table advertiserApplications) advertiserApplications .always]

def contractUploadSessionsRls : List RlsStatement := [
  enable contractUploadSessions,
  selectPolicy (.table contractUploadSessions) contractUploadSessions
    (scopeCheck .advertiserOrganizationId),
  insertPolicy (.table contractUploadSessions) contractUploadSessions
    (scopeCheck .advertiserOrganizationId),
  updateUsingPolicy (.table contractUploadSessions) contractUploadSessions
    (scopeCheck .advertiserOrganizationId)]

/-- The select policies of tariffs and prices ask whether a coalesced value is null. -/
def commerceRls : List RlsStatement :=
  [(commerceOrders, scopeCheck .advertiserOrganizationId), (commerceOrderLines, viaOrderScope)].flatMap
    (fun (t, check) ↦ [enable t, selectPolicy (.table t) t check, insertPolicy (.table t) t check,
      updatePolicy (.table t) t check]) ++
  [commerceTariffVersions, commercePriceItems].flatMap fun t ↦ [enable t,
    selectPolicy (.table t) t .always, insertPolicy (.table t) t .isAdmin,
    updatePolicy (.table t) t .isAdmin]

def licenseSeatLedger : List RlsStatement :=
  [licenseGrants, licenseSeats].flatMap fun t ↦ enable t :: fourPolicies t .isAdmin

/-- The migrations from 004 to 034, in order. -/
def rlsMigrations : List RlsStatement :=
  rlsPilot ++ advertiserDomain ++ campaignDomain ++ campaignWriteRls ++ advertiserWriteRls ++
    uploadSessionsRls ++ campaignBriefsRls ++ multitenancyRetailerId ++ deviceOnboardingCodesRls ++
    deviceRlsBootstrap ++ publicAdvertiserApplicationInsert ++ contractUploadSessionsRls ++
    commerceRls ++ licenseSeatLedger

end Migrations

/-- What the migrations leave; nothing if one of their statements fails. -/
def rlsCatalogue : Option RlsCatalogue := rlsMigrations.foldlM RlsCatalogue.execute {}

theorem rlsCatalogue_isSome : rlsCatalogue.isSome = true := by decide +kernel

def deployedCatalogue : RlsCatalogue := rlsCatalogue.get rlsCatalogue_isSome

/-! ## Rows -/

/-- A row of one of these tables; `rest` is what no policy reads. -/
structure TenantRow (δ : Type*) where
  table : RlsTable
  id : String
  retailerId : Option String := none
  advertiserOrganizationId : Option String := none
  organizationId : Option String := none
  rest : δ

variable {δ : Type*}

def TenantRow.column (r : TenantRow δ) : RlsColumn → Option String
  | .id => some r.id
  | .retailerId => r.retailerId
  | .advertiserOrganizationId => r.advertiserOrganizationId
  | .organizationId => r.organizationId

section Rights

-- The row of another table that a row refers to. A line stays with its order, and no code gives an
-- order to another advertiser.
variable (parent : RlsTable → TenantRow δ → Option (TenantRow δ)) (s : RlsSettings)

/-- A comparison with null is not true. -/
def RlsCheck.holds : RlsCheck → TenantRow δ → Bool
  | .isAdmin, _ => s.admin
  | .inScope column scope, r => (r.column column).any (· ∈ s.scopeArray scope)
  | .isDevice, r => s.effective .deviceId = some r.id
  | .viaParent t check, r => (parent t r).any check.holds
  | .always, _ => true
  | .either a b, r => a.holds r || b.holds r
  | .both a b, r => a.holds r && b.holds r

namespace RlsCatalogue

variable (c : RlsCatalogue)

/-- The checks of a table's policies for a command. -/
def checks (clause : RlsPolicy → Option RlsCheck) (t : RlsTable) (command : RlsCommand) :
    List RlsCheck :=
  (c.policies.filter fun p ↦ p.table = t ∧ p.command = command).filterMap clause

/-- Without row-level security every row passes; with it, one policy has to let the row pass. -/
def passes (clause : RlsPolicy → Option RlsCheck) (command : RlsCommand) (r : TenantRow δ) : Bool :=
  r.table ∉ c.enabled || (c.checks clause r.table command).any fun check ↦ check.holds parent s r

/-- An update policy without a check for the new row checks it like the old one. -/
def rights : RowSecurity.Rights (TenantRow δ) where
  reads := c.passes parent s (·.using?) .select
  inserts := c.passes parent s (·.withCheck) .insert
  updates := c.passes parent s (·.using?) .update
  keeps := c.passes parent s (fun p ↦ p.withCheck.orElse fun _ ↦ p.using?) .update
  deletes := c.passes parent s (·.using?) .delete

end RlsCatalogue

end Rights

end RetailMedia
