import RetailMedia.Delivery.Freshness
import RetailMedia.Delivery.Resolution

/-! A second call of manifest generation finds every id stored, in whatever order the queries
return their rows. -/

namespace RetailMedia

/-! ## The same rows in another order -/

/-- The primary keys of the tables that generation reads. -/
structure Db.GenerationKeys (db : Db) : Prop extends db.TopologyKeys where
  campaigns : (db.campaigns.map (·.id)).Nodup
  assets : (db.creativeAssets.map (·.id)).Nodup

/-- The tables that generation reads have the same rows. -/
structure Db.SameRows (db db' : Db) : Prop where
  surfaces : db.displaySurfaces.Perm db'.displaySurfaces
  carriers : db.logicalCarriers.Perm db'.logicalCarriers
  devices : db.physicalDevices.Perm db'.physicalDevices
  stores : db.stores.Perm db'.stores
  clusters : db.clusters.Perm db'.clusters
  campaigns : db.campaigns.Perm db'.campaigns
  flights : db.campaignFlights.Perm db'.campaignFlights
  placements : db.campaignPlacements.Perm db'.campaignPlacements
  creatives : db.campaignCreatives.Perm db'.campaignCreatives
  assets : db.creativeAssets.Perm db'.creativeAssets
  contracts : db.advertiserContracts.Perm db'.advertiserContracts
  manifests : db.deliveryManifests.Perm db'.deliveryManifests

theorem Db.SameRows.refl (db : Db) : db.SameRows db where
  surfaces := .refl _
  carriers := .refl _
  devices := .refl _
  stores := .refl _
  clusters := .refl _
  campaigns := .refl _
  flights := .refl _
  placements := .refl _
  creatives := .refl _
  assets := .refl _
  contracts := .refl _
  manifests := .refl _

theorem Db.SameRows.symm {db db' : Db} (h : db.SameRows db') : db'.SameRows db where
  surfaces := h.surfaces.symm
  carriers := h.carriers.symm
  devices := h.devices.symm
  stores := h.stores.symm
  clusters := h.clusters.symm
  campaigns := h.campaigns.symm
  flights := h.flights.symm
  placements := h.placements.symm
  creatives := h.creatives.symm
  assets := h.assets.symm
  contracts := h.contracts.symm
  manifests := h.manifests.symm

namespace Db.SameRows

variable {db db' : Db} {campaignId : String}

theorem keys (h : db.SameRows db') (hkeys : db.GenerationKeys) : db'.GenerationKeys where
  surfaces := (h.surfaces.map _).nodup_iff.1 hkeys.surfaces
  carriers := (h.carriers.map _).nodup_iff.1 hkeys.carriers
  devices := (h.devices.map _).nodup_iff.1 hkeys.devices
  stores := (h.stores.map _).nodup_iff.1 hkeys.stores
  clusters := (h.clusters.map _).nodup_iff.1 hkeys.clusters
  campaigns := (h.campaigns.map _).nodup_iff.1 hkeys.campaigns
  assets := (h.assets.map _).nodup_iff.1 hkeys.assets

theorem covers (h : db.SameRows db') (s : DisplaySurface) (target : ScopeType × String) :
    db.Covers s target ↔ db'.Covers s target := by
  obtain ⟨level, id⟩ := target
  cases level with
  | surface => exact Iff.rfl
  | store => exact Iff.rfl
  | cluster =>
      unfold Db.Covers
      simp only [h.stores.mem_iff]
  | branch =>
      unfold Db.Covers
      simp only [h.stores.mem_iff, h.clusters.mem_iff]
  | global => exact Iff.rfl

theorem placementsOf (h : db.SameRows db') :
    (db.placementsOf campaignId).Perm (db'.placementsOf campaignId) :=
  h.placements.filter _

/-- Targets are a relation over the rows, so they do not depend on the order of the rows. -/
theorem targeted (h : db.SameRows db') {s : DisplaySurface} {d : PhysicalDevice} :
    db.Targeted campaignId s d ↔ db'.Targeted campaignId s d := by
  have hcarried : db.CarriedBy s d ↔ db'.CarriedBy s d := by
    unfold Db.CarriedBy
    simp only [h.devices.mem_iff, h.carriers.mem_iff]
  have hselected : (∃ p ∈ db.placementsOf campaignId, p.Selects db s) ↔
      ∃ p ∈ db'.placementsOf campaignId, p.Selects db' s := by
    unfold CampaignPlacement.Selects
    simp only [h.placementsOf.mem_iff, h.covers]
  constructor
  · intro ht
    exact ⟨h.surfaces.mem_iff.1 ht.surface, ht.active, hcarried.1 ht.carried, ht.deviceActive,
      hselected.1 ht.selected⟩
  · intro ht
    exact ⟨h.surfaces.mem_iff.2 ht.surface, ht.active, hcarried.2 ht.carried, ht.deviceActive,
      hselected.2 ht.selected⟩

theorem surfaceDeviceMap (h : db.SameRows db') (hkeys : db.GenerationKeys) :
    (db.surfaceDeviceMap campaignId).Perm (db'.surfaceDeviceMap campaignId) := by
  -- neither map repeats a surface, so their entries decide
  apply (List.perm_ext_iff_of_nodup (surfaceDeviceMap_nodup db campaignId).of_map
    (surfaceDeviceMap_nodup db' campaignId).of_map).2
  intro e
  rw [mem_surfaceDeviceMap hkeys.toTopologyKeys, mem_surfaceDeviceMap (h.keys hkeys).toTopologyKeys]
  simp only [h.targeted]

/-- Each device has a list in both, of the same surfaces. -/
theorem deviceSurfaces (h : db.SameRows db') (hkeys : db.GenerationKeys)
    {g : String × List String} (hg : g ∈ (resolveTargets db campaignId).deviceSurfaces) :
    ∃ surfaces, (g.1, surfaces) ∈ (resolveTargets db' campaignId).deviceSurfaces ∧
      g.2.Perm surfaces :=
  Dict.groupBy_perm (h.surfaceDeviceMap hkeys) hg

theorem creativeAssetRows (h : db.SameRows db') (hkeys : db.GenerationKeys) :
    (db.creativeAssetRows campaignId).Perm (db'.creativeAssetRows campaignId) := by
  have hlinks : (db.creativesOf campaignId).Perm (db'.creativesOf campaignId) :=
    h.creatives.filter _
  unfold Db.creativeAssetRows
  simp only [Rows.get_perm hkeys.assets h.assets]
  exact hlinks.filterMap _

theorem campaign (h : db.SameRows db') (hkeys : db.GenerationKeys) :
    db.campaign campaignId = db'.campaign campaignId :=
  Rows.get_perm hkeys.campaigns h.campaigns campaignId

end Db.SameRows

/-! ## The ids do not depend on the order -/

/-- The content that ids are computed from, up to the order of the rows. -/
structure CampaignData.SameContent (data data' : CampaignData) : Prop where
  campaign : data.campaign = data'.campaign
  flights : data.flights.Perm data'.flights
  placements : data.placements.Perm data'.placements
  creativeAssetRows : data.creativeAssetRows.Perm data'.creativeAssetRows

theorem CampaignData.SameContent.parts {data data' : CampaignData} (h : data.SameContent data') :
    data.version.parts = data'.version.parts := by
  have hflightData : (data.flights.insertionSort fun f g ↦ f.id ≤ g.id).Perm
      (data'.flights.insertionSort fun f g ↦ f.id ≤ g.id) :=
    (List.perm_insertionSort _ _).trans (h.flights.trans (List.perm_insertionSort _ _).symm)
  unfold CampaignData.version CampaignVersion.parts
  dsimp only
  rw [h.campaign, sortedTexts_perm (h.creativeAssetRows.map fun r ↦ r.2.id),
    sortedTexts_perm (h.creativeAssetRows.map fun r ↦ r.2.sha256Checksum),
    sortedTexts_perm (h.flights.map fun f ↦ f.id), sortedTexts_perm (hflightData.map _),
    sortedTexts_perm (h.placements.map fun p ↦ p.id)]

theorem CampaignData.SameContent.manifestId {data data' : CampaignData}
    (h : data.SameContent data') {deviceId : String} {surfaces surfaces' : List String}
    (hsurfaces : surfaces.Perm surfaces') :
    data.manifestId (deviceId, surfaces) = data'.manifestId (deviceId, surfaces') := by
  unfold CampaignData.manifestId computeManifestId
  dsimp only
  rw [h.parts, sortedTexts_perm hsurfaces]

theorem Db.SameRows.content {db db' : Db} {campaignId : String} {data data' : CampaignData}
    (h : db.SameRows db') (hkeys : db.GenerationKeys) (hdata : db.campaignData campaignId = some data)
    (hdata' : db'.campaignData campaignId = some data') : data.SameContent data' := by
  obtain ⟨c, hc, rfl⟩ := Option.map_eq_some_iff.1 hdata
  obtain ⟨c', hc', rfl⟩ := Option.map_eq_some_iff.1 hdata'
  have hcc : c = c' := by
    rw [h.campaign hkeys, hc'] at hc
    exact (Option.some.inj hc).symm
  rw [← hcc]
  exact ⟨rfl, h.flights.filter _, h.placementsOf, h.creativeAssetRows hkeys⟩

/-! ## The second call -/

/-- Every manifest that a call would generate is stored. -/
def Db.AllStored (db : Db) (campaignId : String) : Prop :=
  ∀ data, db.campaignData campaignId = some data →
    ∀ g ∈ (resolveTargets db campaignId).deviceSurfaces, data.manifestId g ∈ db.manifestIds

theorem Db.SameRows.allStored {db db' : Db} {campaignId : String} (h : db.SameRows db')
    (hkeys : db.GenerationKeys) (hstored : db'.AllStored campaignId) :
    db.AllStored campaignId := by
  intro data hdata g hg
  obtain ⟨surfaces, hg', hperm⟩ := h.deviceSurfaces hkeys hg
  have hsome : (db'.campaignData campaignId).isSome = true := by
    unfold Db.campaignData at hdata ⊢
    rw [← h.campaign hkeys, Option.isSome_map]
    obtain ⟨c, hc, -⟩ := Option.map_eq_some_iff.1 hdata
    rw [hc]
    rfl
  obtain ⟨data', hdata'⟩ := Option.isSome_iff_exists.1 hsome
  -- the device's list in the other order has the same id, and that is stored
  have hid : data.manifestId g = data'.manifestId (g.1, surfaces) :=
    (h.content hkeys hdata hdata').manifestId hperm
  rw [hid]
  exact (h.manifests.map _).mem_iff.2 (hstored data' hdata' _ hg')

section Call

variable (cfg : SecurityConfig) (now : Int) (faults : String → Option Fault)

theorem generateLoop_skips (data : CampaignData) (db : Db) {targets : List (String × List String)}
    (h : ∀ g ∈ targets, data.manifestId g ∈ db.manifestIds) :
    Rows.sweep (generateForDevice cfg now data faults) db targets =
      (db, targets.map fun _ ↦ Outcome.skipped) := by
  induction targets with
  | nil => rfl
  | cons g targets ih =>
      -- the state is the same after the pass, so the rest is skipped in it too
      have hskip : generateForDevice cfg now data faults db g = (db, .skipped) := by
        have hg := h g List.mem_cons_self
        rcases generateForDevice_cases cfg now data faults db g with hold | hnew | hnew
        · exact hold.2
        · exact absurd hg hnew.1
        · exact absurd hg hnew.1
      rw [Rows.sweep_cons, hskip, ih fun g hg ↦ h g (List.mem_cons_of_mem _ hg)]
      rfl

/-- A call that finds every id stored writes nothing. -/
theorem generate_allStored {db : Db} {campaignId : String} (hstored : db.AllStored campaignId)
    (htargets : (resolveTargets db campaignId).deviceSurfaces ≠ []) :
    (generateManifestsForCampaign cfg db now campaignId faults).1 = db ∧
      (generateManifestsForCampaign cfg db now campaignId faults).2.manifestCount = 0 ∧
      (generateManifestsForCampaign cfg db now campaignId faults).2.failureCount = 0 := by
  unfold generateManifestsForCampaign
  dsimp only
  by_cases helig : (checkEligibility db now campaignId).eligible = true
  · rw [if_neg (not_not.2 helig), if_neg htargets]
    obtain ⟨⟨c, hc, -⟩, -⟩ := checkEligibility_eligible helig
    have hskips := generateLoop_skips cfg now faults
      (loadCampaignData db c (resolveTargets db campaignId)) db
      (hstored _ (congrArg (Option.map _) hc))
    have hnone : generationResult campaignId (resolveTargets db campaignId)
        ((resolveTargets db campaignId).deviceSurfaces.map fun _ ↦ Outcome.skipped) = {
          campaignId := campaignId
          eligible := true
          deviceCount := (resolveTargets db campaignId).deviceSurfaces.length
          surfaceCount := (resolveTargets db campaignId).allSurfaceIds.length } := by
      have hids : ((resolveTargets db campaignId).deviceSurfaces.map
          fun _ ↦ Outcome.skipped).filterMap (·.id) = [] := by
        simp [Outcome.id]
      have hfailed : ((resolveTargets db campaignId).deviceSurfaces.map
          fun _ ↦ Outcome.skipped).countP (·.isFailed) = 0 := by
        simp [Outcome.isFailed]
      unfold generationResult
      rw [hids, hfailed]
      rfl
    rw [hc]
    dsimp only
    rw [hskips, hnone]
    exact ⟨rfl, rfl, rfl⟩
  · rw [if_pos helig]
    exact ⟨rfl, rfl, rfl⟩

theorem manifestIds_extended (db : Db) (rows : List DeliveryManifest) (events : List OutboxEvent)
    (plans : List DeliveryPlan) : (db.extended rows events plans).manifestIds =
      db.manifestIds ++ rows.map (·.manifestId) :=
  List.map_append

/-- A call that succeeds for every device leaves every id stored. -/
theorem generate_stores {db : Db} {campaignId : String}
    (heligible : (generateManifestsForCampaign cfg db now campaignId faults).2.eligible = true)
    (hdevices : 1 ≤ (generateManifestsForCampaign cfg db now campaignId faults).2.deviceCount)
    (hok : (generateManifestsForCampaign cfg db now campaignId faults).2.failureCount = 0) :
    (generateManifestsForCampaign cfg db now campaignId faults).1.AllStored campaignId ∧
      (resolveTargets (generateManifestsForCampaign cfg db now campaignId faults).1
        campaignId).deviceSurfaces ≠ [] := by
  have htargets : (resolveTargets db campaignId).deviceSurfaces ≠ [] := by
    intro hnone
    have hcount : (generateManifestsForCampaign cfg db now campaignId faults).2.deviceCount = 0 := by
      unfold generateManifestsForCampaign
      dsimp only
      split
      · rfl
      · rfl
    omega
  obtain ⟨data, plans, hdata, hgen, hnofail⟩ :=
    generate_succeeded cfg faults heligible hok htargets
  obtain ⟨rows, events, hloop, -, -⟩ := generateLoop_extends cfg now data faults db
    (resolveTargets db campaignId).deviceSurfaces
  have hids := generateLoop_ids cfg now data faults db _ hnofail
  rw [hgen]
  rw [hloop] at hids ⊢
  -- the call has extended only tables that targets and content are not read from
  constructor
  · intro data' hdata' g hg
    have hsame : some data' = some data := hdata'.symm.trans hdata
    rw [Option.some.inj hsame, manifestIds_extended, List.map_nil, List.append_nil]
    exact (hids _).2 (.inr (List.mem_map_of_mem hg))
  · exact htargets

/-- After a call that succeeds for every device, the next one generates nothing, fails for no
device and writes no row, whatever the order of the rows that its queries return. -/
theorem generate_again {db db' : Db} {campaignId : String} (hkeys : db.GenerationKeys)
    (heligible : (generateManifestsForCampaign cfg db now campaignId faults).2.eligible = true)
    (hdevices : 1 ≤ (generateManifestsForCampaign cfg db now campaignId faults).2.deviceCount)
    (hok : (generateManifestsForCampaign cfg db now campaignId faults).2.failureCount = 0)
    (hrows : (generateManifestsForCampaign cfg db now campaignId faults).1.SameRows db')
    (now' : Int) (faults' : String → Option Fault) :
    (generateManifestsForCampaign cfg db' now' campaignId faults').1 = db' ∧
      (generateManifestsForCampaign cfg db' now' campaignId faults').2.manifestCount = 0 ∧
      (generateManifestsForCampaign cfg db' now' campaignId faults').2.failureCount = 0 := by
  obtain ⟨hstored, htargets⟩ := generate_stores cfg now faults heligible hdevices hok
  obtain ⟨rows, events, plans, hextended, -⟩ := generate_extends cfg db now campaignId faults
  have hkeys₁ : (generateManifestsForCampaign cfg db now campaignId faults).1.GenerationKeys := by
    rw [hextended]
    exact ⟨⟨hkeys.surfaces, hkeys.carriers, hkeys.devices, hkeys.stores, hkeys.clusters⟩,
      hkeys.campaigns, hkeys.assets⟩
  have hback := hrows.symm
  apply generate_allStored cfg now' faults' (hback.allStored (hrows.keys hkeys₁) hstored)
  -- the devices of the first call are targets of the second one
  intro hnone
  obtain ⟨g, hg⟩ := List.exists_mem_of_ne_nil _ htargets
  obtain ⟨surfaces, hmem, -⟩ := hrows.deviceSurfaces hkeys₁ hg
  rw [hnone] at hmem
  cases hmem

end Call

theorem demoDeliveryDb_keys : demoDeliveryDb.GenerationKeys where
  surfaces := by decide
  carriers := by decide
  devices := by decide
  stores := by decide
  clusters := by decide
  campaigns := by decide
  assets := by decide

theorem demo_generated_again :
    (generateManifestsForCampaign {} demoDeliveryDb 0 "a" fun _ ↦ none).2.deviceCount = 1 ∧
    (generateManifestsForCampaign {}
      (generateManifestsForCampaign {} demoDeliveryDb 0 "a" fun _ ↦ none).1 1 "a"
      fun _ ↦ none).2.manifestCount = 0 := by
  have hdevices :
      (generateManifestsForCampaign {} demoDeliveryDb 0 "a" fun _ ↦ none).2.deviceCount = 1 := by
    decide +kernel
  exact ⟨hdevices, (generate_again {} 0 (fun _ ↦ none) demoDeliveryDb_keys (by decide +kernel)
    hdevices.ge (by decide +kernel) (.refl _) 1 fun _ ↦ none).2.1⟩

end RetailMedia
