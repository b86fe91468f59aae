import RetailMedia.Delivery.Targets

/-! Target resolution as a relation over the tables: which surfaces the placements of a campaign
select, and that the device lists are a partition of them. -/

namespace RetailMedia

/-- The primary keys of the tables that targets are resolved over. -/
structure Db.TopologyKeys (db : Db) : Prop where
  surfaces : (db.displaySurfaces.map (·.id)).Nodup
  carriers : (db.logicalCarriers.map (·.id)).Nodup
  devices : (db.physicalDevices.map (·.id)).Nodup
  stores : (db.stores.map (·.id)).Nodup
  clusters : (db.clusters.map (·.id)).Nodup

/-- The surface's carrier is one of the device. -/
def Db.CarriedBy (db : Db) (s : DisplaySurface) (d : PhysicalDevice) : Prop :=
  d ∈ db.physicalDevices ∧ ∃ carrier ∈ db.logicalCarriers,
    carrier.id = s.logicalCarrierId ∧ d.id = carrier.physicalDeviceId

/-- The surfaces that an id at a level stands for. -/
def Db.Covers (db : Db) (s : DisplaySurface) : ScopeType × String → Prop
  | (.surface, id) => s.id = id
  | (.store, id) => s.storeId = id
  | (.cluster, id) => ∃ store ∈ db.stores, store.id = s.storeId ∧ store.clusterId = id
  | (.branch, id) => ∃ store ∈ db.stores, store.id = s.storeId ∧
      ∃ cluster ∈ db.clusters, cluster.id = store.clusterId ∧ cluster.branchId = id
  | (.global, _) => False

/-- The placement's most specific target covers the surface. -/
def CampaignPlacement.Selects (db : Db) (p : CampaignPlacement) (s : DisplaySurface) : Prop :=
  ∃ target, p.scope = some target ∧ db.Covers s target

/-- An active surface on an active device that a placement of the campaign selects. -/
structure Db.Targeted (db : Db) (campaignId : String) (s : DisplaySurface) (d : PhysicalDevice) :
    Prop where
  surface : s ∈ db.displaySurfaces
  active : s.isActive = true
  carried : db.CarriedBy s d
  deviceActive : d.status = .active
  selected : ∃ p ∈ db.placementsOf campaignId, p.Selects db s

variable {db : Db} {campaignId : String}

theorem carriedBy_unique (hkeys : db.TopologyKeys) {s : DisplaySurface} {d d' : PhysicalDevice}
    (h : db.CarriedBy s d) (h' : db.CarriedBy s d') : d = d' := by
  obtain ⟨hd, c, hc, hcs, hcd⟩ := h
  obtain ⟨hd', c', hc', hcs', hcd'⟩ := h'
  have hcc : c = c' := Rows.key_inj hkeys.carriers hc hc' (hcs.trans hcs'.symm)
  rw [← hcc] at hcd'
  exact Rows.key_inj hkeys.devices hd hd' (hcd.trans hcd'.symm)

/-! ## The queries -/

theorem mem_resolveSurfaces (hkeys : db.TopologyKeys) {clause : DisplaySurface → Bool}
    {e : String × String} :
    e ∈ db.resolveSurfaces clause ↔ ∃ s d, (s ∈ db.displaySurfaces ∧ s.isActive = true ∧
      db.CarriedBy s d ∧ d.status = .active ∧ clause s = true) ∧ s.id = e.1 ∧ d.id = e.2 := by
  unfold Db.resolveSurfaces
  rw [List.mem_filterMap]
  constructor
  · intro h
    obtain ⟨s, hs, h⟩ := h
    -- a row without its carrier or device drops out of the join
    split at h
    · cases h
    · rename_i carrier hcarrier
      split at h
      · cases h
      · rename_i device hdevice
        split at h
        · rename_i hok
          have he := Option.some.inj h
          have hc := (Rows.get_eq_some hkeys.carriers).1 hcarrier
          have hd := (Rows.get_eq_some hkeys.devices).1 hdevice
          exact ⟨s, device, ⟨hs, hok.1, ⟨hd.1, carrier, hc.1, hc.2, hd.2⟩, hok.2⟩,
            congrArg Prod.fst he, congrArg Prod.snd he⟩
        · cases h
  · intro h
    obtain ⟨s, d, ⟨hs, hactive, ⟨hd, carrier, hc, hcs, hdc⟩, hrest⟩, hsid, hdid⟩ := h
    have hcarrier := (Rows.get_eq_some hkeys.carriers).2 ⟨hc, hcs⟩
    have hdevice := (Rows.get_eq_some hkeys.devices).2 ⟨hd, hdc⟩
    have he : (s.id, d.id) = e := Prod.ext hsid hdid
    refine ⟨s, hs, ?_⟩
    rw [hcarrier]
    dsimp only
    rw [hdevice]
    dsimp only
    rw [if_pos ⟨hactive, hrest⟩, he]

theorem mem_scopeIds {level : ScopeType} {id : String} :
    id ∈ db.scopeIds campaignId level ↔
      ∃ p ∈ db.placementsOf campaignId, p.scope = some (level, id) := by
  unfold Db.scopeIds
  rw [List.mem_filterMap]
  constructor
  · intro h
    obtain ⟨p, hp, h⟩ := h
    obtain ⟨target, htarget, hid⟩ := Option.map_eq_some_iff.1 h
    obtain ⟨hscope, hlevel⟩ := Option.filter_eq_some_iff.1 htarget
    have heq : target = (level, id) := Prod.ext (of_decide_eq_true hlevel) hid
    exact ⟨p, hp, heq ▸ hscope⟩
  · intro h
    obtain ⟨p, hp, hscope⟩ := h
    refine ⟨p, hp, ?_⟩
    rw [hscope]
    simp

theorem clusterOf_any (hkeys : db.TopologyKeys) {s : DisplaySurface} {ids : List String} :
    (db.clusterOf s).any (· ∈ ids) = true ↔ ∃ id ∈ ids, db.Covers s (.cluster, id) := by
  unfold Db.clusterOf
  rw [Option.any_map, Option.any_eq_true]
  constructor
  · intro h
    obtain ⟨store, hstore, hmem⟩ := h
    have hget := (Rows.get_eq_some hkeys.stores).1 hstore
    exact ⟨_, of_decide_eq_true hmem, store, hget.1, hget.2, rfl⟩
  · intro h
    obtain ⟨id, hid, store, hstore, hs, hcluster⟩ := h
    exact ⟨store, (Rows.get_eq_some hkeys.stores).2 ⟨hstore, hs⟩,
      decide_eq_true (show store.clusterId ∈ ids from hcluster ▸ hid)⟩

theorem branchOf_any (hkeys : db.TopologyKeys) {s : DisplaySurface} {ids : List String} :
    (db.branchOf s).any (· ∈ ids) = true ↔ ∃ id ∈ ids, db.Covers s (.branch, id) := by
  unfold Db.branchOf Db.clusterOf
  rw [Option.any_map, Option.any_eq_true]
  constructor
  · intro h
    obtain ⟨cluster, hcluster, hmem⟩ := h
    obtain ⟨id, hid, hget⟩ := Option.bind_eq_some_iff.1 hcluster
    obtain ⟨store, hstore, hsid⟩ := Option.map_eq_some_iff.1 hid
    have hc := (Rows.get_eq_some hkeys.clusters).1 hget
    have hs := (Rows.get_eq_some hkeys.stores).1 hstore
    exact ⟨_, of_decide_eq_true hmem, store, hs.1, hs.2, cluster, hc.1, hc.2.trans hsid.symm, rfl⟩
  · intro h
    obtain ⟨id, hid, store, hstore, hs, cluster, hcluster, hc, hbranch⟩ := h
    have hget := (Rows.get_eq_some hkeys.stores).2 ⟨hstore, hs⟩
    refine ⟨cluster, ?_, decide_eq_true (show cluster.branchId ∈ ids from hbranch ▸ hid)⟩
    rw [hget]
    exact (Rows.get_eq_some hkeys.clusters).2 ⟨hcluster, hc⟩

/-! ## The map from surfaces to devices -/

/-- A surface is selected when one of the four queries asks for it. -/
theorem selected_iff (hkeys : db.TopologyKeys) {s : DisplaySurface} :
    (∃ p ∈ db.placementsOf campaignId, p.Selects db s) ↔
      decide (s.id ∈ db.scopeIds campaignId .surface) = true ∨
      decide (s.storeId ∈ db.scopeIds campaignId .store) = true ∨
      (db.clusterOf s).any (· ∈ db.scopeIds campaignId .cluster) = true ∨
      (db.branchOf s).any (· ∈ db.scopeIds campaignId .branch) = true := by
  rw [decide_eq_true_iff, decide_eq_true_iff, clusterOf_any hkeys, branchOf_any hkeys]
  constructor
  · intro h
    obtain ⟨p, hp, ⟨level, id⟩, hscope, hcovers⟩ := h
    have hid : id ∈ db.scopeIds campaignId level := mem_scopeIds.2 ⟨p, hp, hscope⟩
    -- each level has a query of its own
    cases level with
    | surface => exact .inl (hcovers ▸ hid)
    | store => exact .inr (.inl (hcovers ▸ hid))
    | cluster => exact .inr (.inr (.inl ⟨id, hid, hcovers⟩))
    | branch => exact .inr (.inr (.inr ⟨id, hid, hcovers⟩))
    | global => exact hcovers.elim
  · intro h
    have hselect : ∀ level id, id ∈ db.scopeIds campaignId level → db.Covers s (level, id) →
        ∃ p ∈ db.placementsOf campaignId, p.Selects db s := by
      intro level id hid hcovers
      obtain ⟨p, hp, hscope⟩ := mem_scopeIds.1 hid
      exact ⟨p, hp, _, hscope, hcovers⟩
    rcases h with hid | hid | ⟨id, hid, hcovers⟩ | ⟨id, hid, hcovers⟩
    · exact hselect _ _ hid rfl
    · exact hselect _ _ hid rfl
    · exact hselect _ _ hid hcovers
    · exact hselect _ _ hid hcovers

/-- The rows of the four queries, before they are put into the map. -/
def Db.targetRows (db : Db) (campaignId : String) : List (String × String) :=
  db.resolveSurfaces (fun s ↦ s.id ∈ db.scopeIds campaignId .surface) ++
  db.resolveSurfaces (fun s ↦ s.storeId ∈ db.scopeIds campaignId .store) ++
  db.resolveSurfaces (fun s ↦ (db.clusterOf s).any (· ∈ db.scopeIds campaignId .cluster)) ++
  db.resolveSurfaces (fun s ↦ (db.branchOf s).any (· ∈ db.scopeIds campaignId .branch))

theorem mem_targetRows (hkeys : db.TopologyKeys) {e : String × String} :
    e ∈ db.targetRows campaignId ↔
      ∃ s d, db.Targeted campaignId s d ∧ s.id = e.1 ∧ d.id = e.2 := by
  unfold Db.targetRows
  rw [List.mem_append, List.mem_append, List.mem_append, mem_resolveSurfaces hkeys,
    mem_resolveSurfaces hkeys, mem_resolveSurfaces hkeys, mem_resolveSurfaces hkeys]
  constructor
  · intro h
    rcases h with ((h | h) | h) | h
    · obtain ⟨s, d, ⟨hs, ha, hc, hd, hq⟩, he⟩ := h
      exact ⟨s, d, ⟨hs, ha, hc, hd, (selected_iff hkeys).2 (.inl hq)⟩, he⟩
    · obtain ⟨s, d, ⟨hs, ha, hc, hd, hq⟩, he⟩ := h
      exact ⟨s, d, ⟨hs, ha, hc, hd, (selected_iff hkeys).2 (.inr (.inl hq))⟩, he⟩
    · obtain ⟨s, d, ⟨hs, ha, hc, hd, hq⟩, he⟩ := h
      exact ⟨s, d, ⟨hs, ha, hc, hd, (selected_iff hkeys).2 (.inr (.inr (.inl hq)))⟩, he⟩
    · obtain ⟨s, d, ⟨hs, ha, hc, hd, hq⟩, he⟩ := h
      exact ⟨s, d, ⟨hs, ha, hc, hd, (selected_iff hkeys).2 (.inr (.inr (.inr hq)))⟩, he⟩
  · intro h
    obtain ⟨s, d, ht, he⟩ := h
    rcases (selected_iff hkeys).1 ht.selected with hq | hq | hq | hq
    · exact .inl (.inl (.inl ⟨s, d, ⟨ht.surface, ht.active, ht.carried, ht.deviceActive, hq⟩, he⟩))
    · exact .inl (.inl (.inr ⟨s, d, ⟨ht.surface, ht.active, ht.carried, ht.deviceActive, hq⟩, he⟩))
    · exact .inl (.inr ⟨s, d, ⟨ht.surface, ht.active, ht.carried, ht.deviceActive, hq⟩, he⟩)
    · exact .inr ⟨s, d, ⟨ht.surface, ht.active, ht.carried, ht.deviceActive, hq⟩, he⟩

/-- Overlapping placements give a surface the same device: that of its carrier. -/
theorem targetRows_agree (hkeys : db.TopologyKeys) {e e' : String × String}
    (he : e ∈ db.targetRows campaignId) (he' : e' ∈ db.targetRows campaignId) (h : e.1 = e'.1) :
    e.2 = e'.2 := by
  obtain ⟨s, d, ht, hs, hd⟩ := (mem_targetRows hkeys).1 he
  obtain ⟨s', d', ht', hs', hd'⟩ := (mem_targetRows hkeys).1 he'
  have hss : s = s' :=
    Rows.key_inj hkeys.surfaces ht.surface ht'.surface (hs.trans (h.trans hs'.symm))
  have hcarried := ht'.carried
  rw [← hss] at hcarried
  rw [← hd, ← hd', carriedBy_unique hkeys ht.carried hcarried]

theorem mem_surfaceDeviceMap (hkeys : db.TopologyKeys) {e : String × String} :
    e ∈ db.surfaceDeviceMap campaignId ↔
      ∃ s d, db.Targeted campaignId s d ∧ s.id = e.1 ∧ d.id = e.2 := by
  rw [← mem_targetRows hkeys]
  exact Dict.mem_setAll_iff fun _ h _ h' ↦ targetRows_agree hkeys h h'

theorem surfaceDeviceMap_nodup (db : Db) (campaignId : String) :
    ((db.surfaceDeviceMap campaignId).map (·.1)).Nodup :=
  Dict.nodup_keys_setAll List.nodup_nil

/-! ## The result -/

/-- The device of a list and a surface in it. -/
theorem mem_deviceSurfaces (hkeys : db.TopologyKeys) {surfaceId deviceId : String} :
    (∃ g ∈ (resolveTargets db campaignId).deviceSurfaces, g.1 = deviceId ∧ surfaceId ∈ g.2) ↔
      ∃ s d, db.Targeted campaignId s d ∧ s.id = surfaceId ∧ d.id = deviceId := by
  unfold resolveTargets
  rw [Dict.mem_group, mem_surfaceDeviceMap hkeys]

/-- The result has the surfaces that the placements select, each in one list, that of its
carrier's device. -/
theorem targets_partitioned (hkeys : db.TopologyKeys) (campaignId : String) :
    (∀ surfaceId, surfaceId ∈ (resolveTargets db campaignId).surfaceDeviceMap.map (·.1) ↔
      ∃ s d, db.Targeted campaignId s d ∧ s.id = surfaceId) ∧
    (∀ g ∈ (resolveTargets db campaignId).deviceSurfaces, g.2.Nodup) ∧
    ((resolveTargets db campaignId).deviceSurfaces.Pairwise fun g g' ↦
      g.1 ≠ g'.1 ∧ g.2.Disjoint g'.2) ∧
    (∀ surfaceId, (∃ g ∈ (resolveTargets db campaignId).deviceSurfaces, surfaceId ∈ g.2) ↔
      ∃ s d, db.Targeted campaignId s d ∧ s.id = surfaceId) ∧
    ∀ g ∈ (resolveTargets db campaignId).deviceSurfaces, ∀ s ∈ db.displaySurfaces,
      s.id ∈ g.2 → ∃ d, db.CarriedBy s d ∧ d.id = g.1 := by
  have hnodup := surfaceDeviceMap_nodup db campaignId
  -- whatever is listed is a target, with its device
  have hlisted : ∀ g ∈ (resolveTargets db campaignId).deviceSurfaces, ∀ surfaceId ∈ g.2,
      ∃ s d, db.Targeted campaignId s d ∧ s.id = surfaceId ∧ d.id = g.1 := by
    intro g hg surfaceId hs
    exact (mem_deviceSurfaces hkeys).1 ⟨g, hg, rfl, hs⟩
  refine ⟨?_, fun g hg ↦ Dict.groupBy_nodup hnodup hg, ?_, ?_, ?_⟩
  · intro surfaceId
    rw [List.mem_map]
    constructor
    · intro h
      obtain ⟨e, he, hid⟩ := h
      obtain ⟨s, d, ht, hs, -⟩ := (mem_surfaceDeviceMap hkeys).1 he
      exact ⟨s, d, ht, hs.trans hid⟩
    · intro h
      obtain ⟨s, d, ht, hs⟩ := h
      exact ⟨(s.id, d.id), (mem_surfaceDeviceMap hkeys).2 ⟨s, d, ht, rfl, rfl⟩, hs⟩
  · have hkeysApart := List.pairwise_map.1 (resolveTargets_nodup db campaignId)
    exact hkeysApart.and (Dict.groupBy_disjoint hnodup)
  · intro surfaceId
    constructor
    · intro h
      obtain ⟨g, hg, hs⟩ := h
      obtain ⟨s, d, ht, hid, -⟩ := hlisted g hg surfaceId hs
      exact ⟨s, d, ht, hid⟩
    · intro h
      obtain ⟨s, d, ht, hid⟩ := h
      obtain ⟨g, hg, -, hmem⟩ := (mem_deviceSurfaces hkeys).2 ⟨s, d, ht, hid, rfl⟩
      exact ⟨g, hg, hmem⟩
  · intro g hg s hs hmem
    obtain ⟨s', d, ht, hid, hdevice⟩ := hlisted g hg s.id hmem
    have heq : s' = s := Rows.key_inj hkeys.surfaces ht.surface hs hid
    exact ⟨d, heq ▸ ht.carried, hdevice⟩

/-! Three placements that overlap on the surfaces of one store. -/

def overlappingTargets : Db where
  clusters := [{ id := "cl1", branchId := "b1" }]
  stores := [{ id := "st1", clusterId := "cl1", code := "ST-1" }]
  physicalDevices := [
    { id := "d1", storeId := "st1", deviceTypeId := "t1", code := "D-1", status := .active },
    { id := "d2", storeId := "st1", deviceTypeId := "t1", code := "D-2", status := .active }]
  logicalCarriers := [
    { id := "l1", physicalDeviceId := "d1" }, { id := "l2", physicalDeviceId := "d2" }]
  displaySurfaces := [
    { id := "s1", logicalCarrierId := "l1", storeId := "st1", code := "S-1" },
    { id := "s2", logicalCarrierId := "l1", storeId := "st1", code := "S-2", isActive := false },
    { id := "s3", logicalCarrierId := "l2", storeId := "st1", code := "S-3" }]
  campaignPlacements := [
    { id := "p1", campaignId := "a", displaySurfaceId := some "s3", branchId := some "b2" },
    { id := "p2", campaignId := "a", storeId := some "st1" },
    { id := "p3", campaignId := "a", branchId := some "b1" }]

theorem overlappingTargets_keys : overlappingTargets.TopologyKeys where
  surfaces := by decide
  carriers := by decide
  devices := by decide
  stores := by decide
  clusters := by decide

theorem overlappingTargets_partitioned : overlappingTargets.TopologyKeys ∧
    (resolveTargets overlappingTargets "a").deviceSurfaces = [("d2", ["s3"]), ("d1", ["s1"])] ∧
    (resolveTargets overlappingTargets "a").deviceSurfaces.Pairwise fun g g' ↦
      g.1 ≠ g'.1 ∧ g.2.Disjoint g'.2 :=
  ⟨overlappingTargets_keys, by decide +kernel,
    (targets_partitioned overlappingTargets_keys "a").2.2.1⟩

end RetailMedia
