import RetailMedia.Campaign.Lifecycle
import RetailMedia.Lib.Dict

/-! Which campaigns manifests are generated for, and which devices they reach. -/

namespace RetailMedia

structure EligibilityResult where
  eligible : Bool
  reason : Option String := none
  deriving DecidableEq, Repr

def eligibleStatuses : List CampaignStatus := [.active, .approved, .scheduled]

def ineligible (reason : String) : EligibilityResult := ⟨false, some reason⟩

def CreativeAsset.deliverable (a : CreativeAsset) : Bool :=
  a.status = .ready ∧ a.moderationStatus = .approved

/-- The campaign's links, each with its asset, where that is ready and approved. -/
def Db.creativeAssetRows (db : Db) (campaignId : String) :
    List (CampaignCreative × CreativeAsset) :=
  (db.creativesOf campaignId).filterMap fun cc ↦
    ((Rows.get (·.id) cc.creativeAssetId db.creativeAssets).filter (·.deliverable)).map (cc, ·)

def Db.deliverableAssetIds (db : Db) (campaignId : String) : List String :=
  (db.creativeAssetRows campaignId).map (·.2.id)

/-- The contract check; `none` when it passes. -/
def contractProblem (db : Db) (now : Int) (c : Campaign) : Option String :=
  if c.advertiserContractId = "" then none
  else
    match Rows.get (·.id) c.advertiserContractId db.advertiserContracts with
    | none => some "Contract not found"
    | some contract =>
        if contract.validFrom > now then some "Contract not yet valid"
        else if contract.validUntil.any (· ≤ now) then some "Contract has expired"
        else none

def checkEligibility (db : Db) (now : Int) (campaignId : String) : EligibilityResult :=
  match db.campaign campaignId with
  | none => ineligible "Campaign not found"
  | some c =>
      if c.status ∉ eligibleStatuses then
        ineligible ("Campaign status is '" ++ c.status.text ++
          "', not in ['active', 'approved', 'scheduled']")
      else
        match contractProblem db now c with
        | some problem => ineligible problem
        | none =>
            if ¬ (db.flightsOf campaignId).any fun f ↦ f.startAt ≤ now ∧ f.endAt > now then
              ineligible "No valid flight window (started and not yet ended)"
            else if db.placementsOf campaignId = [] then ineligible "No placements"
            else if db.creativeAssetRows campaignId = [] then
              ineligible "No linked creative assets with status=ready and moderation=approved"
            else ⟨true, none⟩

/-- What an eligible campaign has, of the checks that other modules rely on. -/
theorem checkEligibility_eligible {db : Db} {now : Int} {campaignId : String}
    (h : (checkEligibility db now campaignId).eligible = true) :
    (∃ c, db.campaign campaignId = some c ∧ c.status ∈ eligibleStatuses) ∧
      db.creativeAssetRows campaignId ≠ [] := by
  unfold checkEligibility at h
  split at h
  · cases h
  · rename_i c hc
    by_cases hstatus : c.status ∉ eligibleStatuses
    · rw [if_pos hstatus] at h
      cases h
    rw [if_neg hstatus] at h
    split at h
    · cases h
    · split at h
      · cases h
      · split at h
        · cases h
        · split at h
          · cases h
          · rename_i hrows
            exact ⟨⟨c, hc, not_not.1 hstatus⟩, hrows⟩

/-! ## Targets -/

/-- The most specific scope that a placement names; an empty id counts as missing. -/
def CampaignPlacement.scope (p : CampaignPlacement) : Option (ScopeType × String) :=
  let given (id : Option String) := id.filter (· ≠ "")
  (given p.displaySurfaceId).map (.surface, ·) <|>
    (given p.storeId).map (.store, ·) <|>
    (given p.clusterId).map (.cluster, ·) <|>
    (given p.branchId).map (.branch, ·)

/-- The ids that the campaign's placements name at one level. -/
def Db.scopeIds (db : Db) (campaignId : String) (level : ScopeType) : List String :=
  (db.placementsOf campaignId).filterMap fun p ↦
    (p.scope.filter (·.1 = level)).map (·.2)

/-- Active surfaces on active devices that meet the condition, each with its device. -/
def Db.resolveSurfaces (db : Db) (clause : DisplaySurface → Bool) : List (String × String) :=
  db.displaySurfaces.filterMap fun s ↦
    match Rows.get (·.id) s.logicalCarrierId db.logicalCarriers with
    | none => none
    | some carrier =>
        match Rows.get (·.id) carrier.physicalDeviceId db.physicalDevices with
        | none => none
        | some device =>
            if s.isActive ∧ device.status = .active ∧ clause s then some (s.id, device.id)
            else none

def Db.clusterOf (db : Db) (s : DisplaySurface) : Option String :=
  (Rows.get (·.id) s.storeId db.stores).map (·.clusterId)

def Db.branchOf (db : Db) (s : DisplaySurface) : Option String :=
  ((db.clusterOf s).bind fun id ↦ Rows.get (·.id) id db.clusters).map (·.branchId)

structure TargetResolutionResult where
  surfaceDeviceMap : List (String × String) := []
  deviceSurfaces : List (String × List String) := []
  deriving DecidableEq, Repr

def Db.surfaceDeviceMap (db : Db) (campaignId : String) : List (String × String) :=
  let ids := db.scopeIds campaignId
  -- a level without ids selects no surface, so its query need not be skipped
  Dict.setAll [] (
    db.resolveSurfaces (fun s ↦ s.id ∈ ids .surface) ++
    db.resolveSurfaces (fun s ↦ s.storeId ∈ ids .store) ++
    db.resolveSurfaces (fun s ↦ (db.clusterOf s).any (· ∈ ids .cluster)) ++
    db.resolveSurfaces (fun s ↦ (db.branchOf s).any (· ∈ ids .branch)))

def resolveTargets (db : Db) (campaignId : String) : TargetResolutionResult where
  surfaceDeviceMap := db.surfaceDeviceMap campaignId
  deviceSurfaces := Dict.groupBy (db.surfaceDeviceMap campaignId)

theorem resolveSurfaces_mem {db : Db} {clause : DisplaySurface → Bool} {s d : String}
    (h : (s, d) ∈ db.resolveSurfaces clause) : s ∈ db.displaySurfaces.map (·.id) := by
  unfold Db.resolveSurfaces at h
  obtain ⟨surface, hmem, h⟩ := List.mem_filterMap.1 h
  have hid : surface.id = s := by
    split at h
    · cases h
    · split at h
      · cases h
      · split at h
        · exact congrArg Prod.fst (Option.some.inj h)
        · cases h
  exact hid ▸ List.mem_map_of_mem hmem

/-- Targets are surfaces of the table. -/
theorem resolveTargets_surface {db : Db} {campaignId d s : String} {surfaces : List String}
    (h : (d, surfaces) ∈ (resolveTargets db campaignId).deviceSurfaces) (hs : s ∈ surfaces) :
    s ∈ db.displaySurfaces.map (·.id) := by
  have hmap : (s, d) ∈ db.surfaceDeviceMap campaignId := Dict.mem_groupBy h hs
  rcases Dict.mem_setAll hmap with h | h
  · cases h
  · rcases List.mem_append.1 h with h | h
    · rcases List.mem_append.1 h with h | h
      · rcases List.mem_append.1 h with h | h
        · exact resolveSurfaces_mem h
        · exact resolveSurfaces_mem h
      · exact resolveSurfaces_mem h
    · exact resolveSurfaces_mem h

theorem resolveTargets_nodup (db : Db) (campaignId : String) :
    ((resolveTargets db campaignId).deviceSurfaces.map (·.1)).Nodup :=
  Dict.nodup_keys_groupBy _

end RetailMedia
