import RetailMedia.Tenancy.Policies

/-! What the deployed policies amount to: the rows that each scope can read and write, and that a
request learns and changes nothing beyond its scope. -/

namespace RetailMedia

variable {δ β κ : Type*}

/-! ## Tenants -/

/-- Who reads the rows of a table, besides administrators. -/
inductive Readership
  | retailerAndAdvertiser (column : RlsColumn)
  | advertiser (column : RlsColumn)
  | retailer
  | orderAdvertiser
  | everyone
  | nobody
  deriving DecidableEq, Repr

/-- The pilot's policies on organizations and memberships were never dropped, so the retailer's
scope does not narrow what is read of them. -/
def RlsTable.readership : RlsTable → Readership
  | .advertiserOrganizations => .advertiser .id
  | .advertiserUserMemberships | .contractUploadSessions | .commerceOrders =>
      .advertiser .advertiserOrganizationId
  | .advertiserBrands | .advertiserContracts | .advertiserContacts | .advertiserInvites
  | .campaigns | .campaignBriefs | .creativeAssets | .creativeUploadSessions =>
      .retailerAndAdvertiser .advertiserOrganizationId
  | .advertiserApplications => .retailerAndAdvertiser .organizationId
  | .campaignApprovals | .campaignCreatives | .campaignFlights | .campaignPlacements
  | .campaignStatusHistory | .deliveryManifests | .deliveryManifestAssets
  | .deliveryManifestSurfaces | .deliveryPlans | .inventoryBookings | .popEventsRaw
  | .popIngestionBatches | .branches | .clusters | .stores | .physicalDevices | .displaySurfaces
  | .inventoryRules | .inventorySlots | .deviceOnboardingCodes => .retailer
  | .commerceOrderLines => .orderAdvertiser
  | .commerceTariffVersions | .commercePriceItems => .everyone
  | .licenseGrants | .licenseSeats => .nobody

section Owned

variable (parent : RlsTable → TenantRow δ → Option (TenantRow δ))
  (retailers advertisers : List String)

/-- The rows of a scope of retailers and advertisers. -/
def TenantRow.owned (r : TenantRow δ) : Bool :=
  match r.table.readership with
  | .retailerAndAdvertiser column =>
      r.retailerId.any (· ∈ retailers) && (r.column column).any (· ∈ advertisers)
  | .advertiser column => (r.column column).any (· ∈ advertisers)
  | .retailer => r.retailerId.any (· ∈ retailers)
  | .orderAdvertiser =>
      (parent .commerceOrders r).any fun order ↦
        order.advertiserOrganizationId.any (· ∈ advertisers)
  | .everyone | .nobody => false

/-- The price lists are everyone's to read. -/
def TenantRow.seen (r : TenantRow δ) : Bool :=
  r.owned parent retailers advertisers || r.table.readership = .everyone

end Owned

/-! ## The deployed checks -/

def RlsTable.readChecks : RlsTable → List RlsCheck
  | .advertiserOrganizations => [twoLevel .id, scopeCheck .id]
  | .advertiserUserMemberships =>
      [twoLevel .advertiserOrganizationId, scopeCheck .advertiserOrganizationId]
  | .physicalDevices => [deviceBootstrapSelect]
  | t =>
      match t.readership with
      | .retailerAndAdvertiser column => [twoLevel column]
      | .advertiser column => [scopeCheck column]
      | .retailer => [retailerOnly]
      | .orderAdvertiser => [viaOrderScope]
      | .everyone => [.always]
      | .nobody => [.isAdmin]

/-- What a row has to pass to be inserted, or to be taken and left by an update. -/
def RlsTable.writeCheck : RlsTable → RlsCheck
  | .advertiserOrganizations => twoLevel .id
  | .advertiserUserMemberships => twoLevel .advertiserOrganizationId
  | t =>
      match t.readership with
      | .retailerAndAdvertiser column => twoLevel column
      | .advertiser column => scopeCheck column
      | .retailer => retailerOnly
      | .orderAdvertiser => viaOrderScope
      | .everyone | .nobody => .isAdmin

/-- The public form files applications for anyone. -/
def RlsTable.insertCheck : RlsTable → RlsCheck
  | .advertiserApplications => .always
  | t => t.writeCheck

/-- Contract upload sessions, orders, prices and onboarding codes have no policy for deletes. -/
def RlsTable.deleteChecks : RlsTable → List RlsCheck
  | .contractUploadSessions | .commerceOrders | .commerceOrderLines | .commerceTariffVersions
  | .commercePriceItems | .deviceOnboardingCodes => []
  | t => [t.writeCheck]

/-- Row-level security is on for the table, with these checks. -/
def RlsTable.Checked (c : RlsCatalogue) (t : RlsTable) : Prop :=
  t ∈ c.enabled ∧
  c.checks (·.using?) t .select = t.readChecks ∧
  c.checks (·.withCheck) t .insert = [t.insertCheck] ∧
  c.checks (·.using?) t .update = [t.writeCheck] ∧
  c.checks (fun p ↦ p.withCheck.orElse fun _ ↦ p.using?) t .update = [t.writeCheck] ∧
  c.checks (·.using?) t .delete = t.deleteChecks

instance (c : RlsCatalogue) : DecidablePred (RlsTable.Checked c) :=
  fun _ ↦ inferInstanceAs (Decidable (_ ∧ _ ∧ _ ∧ _ ∧ _ ∧ _))

def RlsTable.all : List RlsTable := [.advertiserOrganizations, .advertiserUserMemberships,
  .advertiserBrands, .advertiserContracts, .advertiserContacts, .advertiserInvites,
  .advertiserApplications, .campaigns, .campaignBriefs, .creativeAssets, .creativeUploadSessions,
  .contractUploadSessions, .campaignApprovals, .campaignCreatives, .campaignFlights,
  .campaignPlacements, .campaignStatusHistory, .deliveryManifests, .deliveryManifestAssets,
  .deliveryManifestSurfaces, .deliveryPlans, .inventoryBookings, .popEventsRaw,
  .popIngestionBatches, .branches, .clusters, .stores, .physicalDevices, .displaySurfaces,
  .inventoryRules, .inventorySlots, .deviceOnboardingCodes, .commerceOrders, .commerceOrderLines,
  .commerceTariffVersions, .commercePriceItems, .licenseGrants, .licenseSeats]

theorem RlsTable.mem_all (t : RlsTable) : t ∈ RlsTable.all := by
  cases t <;> decide

theorem checked_all : ∀ t ∈ RlsTable.all, t.Checked deployedCatalogue := by decide +kernel

theorem checked (t : RlsTable) : t.Checked deployedCatalogue := checked_all t t.mem_all

/-! ## Sessions without administration -/

section Session

variable {parent : RlsTable → TenantRow δ → Option (TenantRow δ)} {s : RlsSettings}
  {r : TenantRow δ} {c : RlsCatalogue} {clause : RlsPolicy → Option RlsCheck} {command : RlsCommand}
  {checks : List RlsCheck}

theorem passes_eq (hon : r.table ∈ c.enabled) (h : c.checks clause r.table command = checks) :
    c.passes parent s clause command r = checks.any fun check ↦ check.holds parent s r := by
  unfold RlsCatalogue.passes
  rw [h, decide_eq_false (not_not.2 hon), Bool.false_or]

theorem passes_one {check : RlsCheck} (hon : r.table ∈ c.enabled)
    (h : c.checks clause r.table command = [check]) :
    c.passes parent s clause command r = check.holds parent s r := by
  rw [passes_eq hon h, List.any_cons, List.any_nil, Bool.or_false]

variable (hc : r.table.Checked c)

include hc

theorem reads_eq : (c.rights parent s).reads r =
    r.table.readChecks.any fun check ↦ check.holds parent s r :=
  passes_eq hc.1 hc.2.1

theorem inserts_eq : (c.rights parent s).inserts r = r.table.insertCheck.holds parent s r :=
  passes_one hc.1 hc.2.2.1

theorem updates_eq : (c.rights parent s).updates r = r.table.writeCheck.holds parent s r :=
  passes_one hc.1 hc.2.2.2.1

theorem keeps_eq : (c.rights parent s).keeps r = r.table.writeCheck.holds parent s r :=
  passes_one hc.1 hc.2.2.2.2.1

theorem deletes_eq : (c.rights parent s).deletes r =
    r.table.deleteChecks.any fun check ↦ check.holds parent s r :=
  passes_eq hc.1 hc.2.2.2.2.2

omit hc

variable (hadmin : s.admin = false)

include hadmin

theorem holds_scopeCheck (column : RlsColumn) : (scopeCheck column).holds parent s r =
    (r.column column).any (· ∈ s.scopeArray .scopeAdvertiserIds) := by
  unfold scopeCheck ownAdvertiser
  simp only [RlsCheck.holds, hadmin, Bool.false_or]

theorem holds_twoLevel (column : RlsColumn) : (twoLevel column).holds parent s r =
    (r.retailerId.any (· ∈ s.scopeArray .scopeRetailerIds) &&
      (r.column column).any (· ∈ s.scopeArray .scopeAdvertiserIds)) := by
  unfold twoLevel ownAdvertiser ownRetailer
  simp only [RlsCheck.holds, hadmin, Bool.false_or]
  rfl

theorem holds_retailerOnly : retailerOnly.holds parent s r =
    r.retailerId.any (· ∈ s.scopeArray .scopeRetailerIds) := by
  unfold retailerOnly ownRetailer
  simp only [RlsCheck.holds, hadmin, Bool.false_or]
  rfl

theorem holds_viaOrderScope : viaOrderScope.holds parent s r =
    (parent .commerceOrders r).any fun order ↦
      order.advertiserOrganizationId.any (· ∈ s.scopeArray .scopeAdvertiserIds) := by
  unfold viaOrderScope ownAdvertiser
  simp only [RlsCheck.holds, hadmin, Bool.false_or]
  rfl

/-- Read: exactly the rows of the scope and the price lists, for a session that is not a
device's. -/
theorem reads_seen (hc : r.table.Checked c) (hdevice : s.effective .deviceId = none) :
    (c.rights parent s).reads r =
      r.seen parent (s.scopeArray .scopeRetailerIds) (s.scopeArray .scopeAdvertiserIds) := by
  rw [reads_eq hc]
  have hboot : deviceBootstrapSelect.holds parent s r =
      r.retailerId.any (· ∈ s.scopeArray .scopeRetailerIds) := by
    unfold deviceBootstrapSelect ownRetailer
    simp only [RlsCheck.holds, hadmin, hdevice, Bool.false_or]
    rfl
  unfold TenantRow.seen TenantRow.owned RlsTable.readChecks
  cases r.table <;>
    simp only [RlsTable.readership, List.any_cons, List.any_nil, Bool.or_false,
      holds_scopeCheck hadmin, holds_twoLevel hadmin, holds_retailerOnly hadmin,
      holds_viaOrderScope hadmin, hboot, RlsCheck.holds, hadmin]
  all_goals grind

/-- Written: rows of the scope, and applications. -/
theorem owned_of_writeCheck (h : r.table.writeCheck.holds parent s r = true) :
    r.owned parent (s.scopeArray .scopeRetailerIds) (s.scopeArray .scopeAdvertiserIds) = true := by
  unfold TenantRow.owned
  revert h
  unfold RlsTable.writeCheck
  cases r.table <;>
    simp only [RlsTable.readership, holds_scopeCheck hadmin, holds_twoLevel hadmin,
      holds_retailerOnly hadmin, holds_viaOrderScope hadmin, RlsCheck.holds, hadmin]
  all_goals grind

theorem application_of_inserts (hc : r.table.Checked c) (h : (c.rights parent s).inserts r = true)
    (hforeign : r.owned parent (s.scopeArray .scopeRetailerIds)
      (s.scopeArray .scopeAdvertiserIds) = false) : r.table = .advertiserApplications := by
  by_contra hne
  have hsame : r.table.insertCheck = r.table.writeCheck := by
    unfold RlsTable.insertCheck
    split
    · exact absurd ‹_› hne
    · rfl
  rw [inserts_eq hc, hsame] at h
  rw [owned_of_writeCheck hadmin h] at hforeign
  cases hforeign

end Session

theorem mem_deleteChecks {t : RlsTable} {check : RlsCheck} (h : check ∈ t.deleteChecks) :
    check = t.writeCheck := by
  unfold RlsTable.deleteChecks at h
  split at h
  all_goals simp_all

/-- Changed, left and deleted: rows of the scope only. -/
theorem rights_confined (parent : RlsTable → TenantRow δ → Option (TenantRow δ))
    {s : RlsSettings} (hadmin : s.admin = false) :
    (deployedCatalogue.rights parent s).Confined
      (TenantRow.owned parent (s.scopeArray .scopeRetailerIds)
        (s.scopeArray .scopeAdvertiserIds)) := by
  constructor
  · intro r hr
    rw [updates_eq (checked r.table)] at hr
    exact owned_of_writeCheck hadmin hr
  · intro r hr
    rw [keeps_eq (checked r.table)] at hr
    exact owned_of_writeCheck hadmin hr
  · intro r hr
    rw [deletes_eq (checked r.table), List.any_eq_true] at hr
    obtain ⟨check, hmem, hcheck⟩ := hr
    exact owned_of_writeCheck hadmin (mem_deleteChecks hmem ▸ hcheck)

/-! ## Requests -/

/-- What the policies see of a list of ids is the list. -/
theorem owned_congr {parent : RlsTable → TenantRow δ → Option (TenantRow δ)}
    {retailers retailers' advertisers advertisers' : List String}
    (hretailers : ∀ id, id ∈ retailers ↔ id ∈ retailers')
    (hadvertisers : ∀ id, id ∈ advertisers ↔ id ∈ advertisers') :
    TenantRow.owned parent retailers advertisers =
      TenantRow.owned parent retailers' advertisers' := by
  funext r
  unfold TenantRow.owned
  simp only [hretailers, hadvertisers]

section Request

variable (parent : RlsTable → TenantRow δ → Option (TenantRow δ)) (history : List PoolEvent)
  (connection : Nat) (scope : ScopeContext)

variable {scope} (hadmin : scope.isAdmin = false)
  (hplain : ∀ id ∈ scope.retailerScopeIds ++ scope.advertiserScopeIds, PlainId id)

include hadmin hplain

end Request

/-! ## Requests without a scope -/

section Unscoped

variable {parent : RlsTable → TenantRow δ → Option (TenantRow δ)} {s : RlsSettings}
  {r : TenantRow δ} {c : RlsCatalogue} (hs : s.effective = RlsSettings.fresh.effective)

include hs

theorem idle_admin : s.admin = false := by
  unfold RlsSettings.admin
  rw [hs]
  rfl

theorem idle_scopeArray (v : RlsVariable) : s.scopeArray v = [] := by
  unfold RlsSettings.scopeArray
  rw [hs]
  rfl

theorem idle_writeCheck : r.table.writeCheck.holds parent s r = false := by
  have hadmin := idle_admin hs
  unfold RlsTable.writeCheck
  cases r.table <;>
    simp [RlsTable.readership, holds_scopeCheck hadmin, holds_twoLevel hadmin,
      holds_retailerOnly hadmin, holds_viaOrderScope hadmin, RlsCheck.holds, hadmin,
      idle_scopeArray hs]

theorem idle_reads (hc : r.table.Checked c) : (c.rights parent s).reads r =
    decide (r.table.readership = .everyone) := by
  rw [reads_seen (idle_admin hs) hc (by rw [hs]; rfl), idle_scopeArray hs, idle_scopeArray hs]
  unfold TenantRow.seen TenantRow.owned
  cases r.table <;> simp [RlsTable.readership]

theorem idle_updates (hc : r.table.Checked c) : (c.rights parent s).updates r = false := by
  rw [updates_eq hc, idle_writeCheck hs]

theorem idle_deletes (hc : r.table.Checked c) : (c.rights parent s).deletes r = false := by
  rw [deletes_eq hc]
  unfold RlsTable.deleteChecks
  split <;> simp [idle_writeCheck hs]

end Unscoped

/-- The policies fail closed: without a scope, a request reads the price lists only, and can do
nothing to the database but file applications. -/
theorem unscoped_fails_closed [DecidableEq κ]
    (parent : RlsTable → TenantRow δ → Option (TenantRow δ)) (history : List PoolEvent)
    (connection : Nat) (C : RowSecurity.Constraints (TenantRow δ) κ)
    (client : RowSecurity.Client (TenantRow δ) β) (l : List (TenantRow δ)) :
    (∀ r, (deployedCatalogue.rights parent (pooled history connection).current).reads r =
      decide (r.table.readership = .everyone)) ∧
    ∃ new : List (TenantRow δ),
      client.after (deployedCatalogue.rights parent (pooled history connection).current) C l =
        l ++ new ∧
      ∀ r ∈ new, r.table = .advertiserApplications := by
  have hs := (pooled_idle history connection).current
  refine ⟨fun r ↦ idle_reads hs (checked r.table), ?_⟩
  obtain ⟨new, heq, hnew⟩ := client.after_append C
    (fun r ↦ idle_updates hs (checked r.table))
    (fun r ↦ idle_deletes hs (checked r.table)) l
  refine ⟨new, heq, ?_⟩
  intro r hr
  have hinsert := hnew r hr
  rw [inserts_eq (checked r.table)] at hinsert
  by_contra hne
  unfold RlsTable.insertCheck at hinsert
  split at hinsert
  · exact hne ‹_›
  · rw [idle_writeCheck hs] at hinsert
    cases hinsert

end RetailMedia
