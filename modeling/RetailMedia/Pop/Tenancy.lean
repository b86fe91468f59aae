import RetailMedia.Delivery.Freshness
import RetailMedia.Pop.Integrity

/-! The tenant of manifests and of accepted events: a new manifest takes the column default, and an
accepted event takes its manifest's. -/

namespace RetailMedia

/-- A row of the device `row.1` whose retailer is `row.2` is of the device's own tenant. -/
def OwnTenant (devices : List PhysicalDevice) (row : String × String) : Prop :=
  ∀ x ∈ devices, x.id = row.1 → x.retailerId ≠ none → x.retailerId = some row.2

instance (devices : List PhysicalDevice) (row : String × String) :
    Decidable (OwnTenant devices row) :=
  inferInstanceAs (Decidable (∀ x ∈ devices, _ → _ → _))

def DeliveryManifest.tenancy (m : DeliveryManifest) : String × String :=
  (m.physicalDeviceId, m.retailerId)

def PopEventRaw.tenancy (r : PopEventRaw) : String × String := (r.deviceId, r.retailerId)

structure TenantsAgree (db : Db) : Prop where
  manifests : ∀ t ∈ db.deliveryManifests.map (·.tenancy), OwnTenant db.physicalDevices t
  accepted : ∀ r ∈ db.popEventsRaw, r.status = .accepted → OwnTenant db.physicalDevices r.tenancy

/-! ## Generation -/

section Device

variable (cfg : SecurityConfig) (now : Int) (data : CampaignData) (faults : String → Option Fault)

/-- The pass of a device creates a row: its id is not stored, and the exception of the `try`
block, if any, comes after the insert. -/
def CreatesRow (db : Db) (target : String × List String) : Prop :=
  data.manifestId target ∉ db.manifestIds ∧ faults target.1 ≠ some .building

instance (db : Db) (target : String × List String) :
    Decidable (CreatesRow data faults db target) :=
  inferInstanceAs (Decidable (_ ∧ _))

theorem markManifestGenerated_tenancy (db : Db) (manifestId hash : String) :
    (markManifestGenerated db now manifestId hash).deliveryManifests.map (·.tenancy) =
      db.deliveryManifests.map (·.tenancy) :=
  Rows.map_updateWhere (f := (·.markGenerated now hash)) (·.tenancy) (fun _ ↦ rfl)
    db.deliveryManifests

theorem failDevice_tenancy (db : Db) (campaignId manifestId deviceId : String) :
    (failDevice db campaignId manifestId deviceId).deliveryManifests.map (·.tenancy) =
      db.deliveryManifests.map (·.tenancy) :=
  Rows.map_updateWhere (f := (·.markFailed generationFailure)) (·.tenancy) (fun _ ↦ rfl)
    db.deliveryManifests

/-- Marking a manifest generated or failed leaves its tenant alone, and the new row has the
default one. -/
theorem generateForDevice_tenancy (db : Db) (target : String × List String) :
    (generateForDevice cfg now data faults db target).1.deliveryManifests.map (·.tenancy) =
      db.deliveryManifests.map (·.tenancy) ++
        if CreatesRow data faults db target then [(target.1, defaultRetailerId)] else [] := by
  have hany : db.deliveryManifests.any (·.manifestId = data.manifestId target) = true ↔
      data.manifestId target ∈ db.manifestIds := by
    simp [Db.manifestIds]
  unfold generateForDevice
  dsimp only
  by_cases hid : data.manifestId target ∈ db.manifestIds
  · have hskip : ¬ CreatesRow data faults db target := fun h ↦ h.1 hid
    rw [if_pos (hany.2 hid), if_neg hskip, List.append_nil]
  · rw [if_neg (mt hany.1 hid)]
    cases hf : faults target.1 with
    | none =>
        have hnew : CreatesRow data faults db target := ⟨hid, by simp [hf]⟩
        rw [if_pos hnew]
        exact (markManifestGenerated_tenancy _ _ _ _).trans List.map_append
    | some fault =>
        cases fault with
        | building =>
            have hold : ¬ CreatesRow data faults db target := fun h ↦ h.2 hf
            rw [if_neg hold, List.append_nil]
            exact failDevice_tenancy _ _ _ _
        | marking =>
            have hnew : CreatesRow data faults db target := ⟨hid, by simp [hf]⟩
            rw [if_pos hnew]
            exact (failDevice_tenancy _ _ _ _).trans List.map_append
        | enqueueing =>
            have hnew : CreatesRow data faults db target := ⟨hid, by simp [hf]⟩
            rw [if_pos hnew]
            exact ((failDevice_tenancy _ _ _ _).trans
              (markManifestGenerated_tenancy _ _ _ _)).trans List.map_append

theorem generateForDevice_untouched (db : Db) (target : String × List String) :
    (generateForDevice cfg now data faults db target).1.physicalDevices = db.physicalDevices ∧
      (generateForDevice cfg now data faults db target).1.popEventsRaw = db.popEventsRaw := by
  rcases generateForDevice_cases cfg now data faults db target with
    ⟨-, h⟩ | ⟨-, failed, e, h, -, -⟩ | ⟨-, version, e, h, -⟩
  all_goals
    rw [h]
    exact ⟨rfl, rfl⟩

/-- The row that the pass creates, if it creates one, is right for the device. -/
def DefaultFits (db : Db) (target : String × List String) : Prop :=
  CreatesRow data faults db target →
    OwnTenant db.physicalDevices (target.1, defaultRetailerId)

instance (db : Db) (target : String × List String) :
    Decidable (DefaultFits data faults db target) :=
  inferInstanceAs (Decidable (_ → _))

theorem generateForDevice_tenants (db : Db) (target : String × List String) :
    TenantsAgree (generateForDevice cfg now data faults db target).1 ↔
      TenantsAgree db ∧ DefaultFits data faults db target := by
  have hkept := generateForDevice_untouched cfg now data faults db target
  have hrows := generateForDevice_tenancy cfg now data faults db target
  constructor
  · intro h
    have hall := h.manifests
    rw [hrows, hkept.1] at hall
    have haccepted := h.accepted
    rw [hkept.1, hkept.2] at haccepted
    refine ⟨⟨fun t ht ↦ hall t (List.mem_append_left _ ht), haccepted⟩, fun hnew ↦ ?_⟩
    rw [if_pos hnew] at hall
    exact hall _ (List.mem_append_right _ (List.mem_singleton_self _))
  · rintro ⟨h, hfits⟩
    constructor
    · rw [hrows, hkept.1]
      intro t ht
      rcases List.mem_append.1 ht with ht | ht
      · exact h.manifests t ht
      · split at ht
        · rename_i hnew
          rw [List.mem_singleton.1 ht]
          exact hfits hnew
        · exact absurd ht List.not_mem_nil
    · rw [hkept.1, hkept.2]
      exact h.accepted

end Device

/-- A call that comes to its loop over the devices meets the condition at each of them. -/
def GeneratesForDefault (cfg : SecurityConfig) (db : Db) (now : Int) (campaignId : String)
    (faults : String → Option Fault) : Prop :=
  (checkEligibility db now campaignId).eligible = true →
    ∀ data, db.campaignData campaignId = some data →
      Run.Guarded (fun db t ↦ (generateForDevice cfg now data faults db t).1)
        (DefaultFits data faults) db (resolveTargets db campaignId).deviceSurfaces

theorem tenantsAgree_extended {db : Db} (events : List OutboxEvent) (plans : List DeliveryPlan) :
    TenantsAgree (db.extended [] events plans) ↔ TenantsAgree db := by
  have hrows : (db.extended [] events plans).deliveryManifests = db.deliveryManifests :=
    List.append_nil _
  constructor
  · intro h
    exact ⟨hrows ▸ h.manifests, h.accepted⟩
  · intro h
    exact ⟨hrows.symm ▸ h.manifests, h.accepted⟩

theorem generate_tenants (cfg : SecurityConfig) (db : Db) (now : Int) (campaignId : String)
    (faults : String → Option Fault) :
    TenantsAgree (generateManifestsForCampaign cfg db now campaignId faults).1 ↔
      TenantsAgree db ∧ GeneratesForDefault cfg db now campaignId faults := by
  unfold GeneratesForDefault
  cases helig : (checkEligibility db now campaignId).eligible with
  | false =>
      rw [(generate_ineligible cfg faults helig).1]
      simp
  | true =>
      obtain ⟨⟨c, hc, -⟩, -⟩ := checkEligibility_eligible helig
      have hdata : db.campaignData campaignId =
          some (loadCampaignData db c (resolveTargets db campaignId)) := congrArg (Option.map _) hc
      simp only [hdata, Option.some.injEq, forall_eq', forall_const]
      by_cases htargets : (resolveTargets db campaignId).deviceSurfaces = []
      · -- the event about missing targets is all that such a call writes
        rw [htargets]
        unfold generateManifestsForCampaign
        dsimp only
        rw [helig, if_neg (by decide), if_pos htargets]
        obtain ⟨e, he, -⟩ := enqueueOutboxEvent_spec db "delivery.manifest.failed" "campaign"
          campaignId (.obj [("campaign_id", .str campaignId),
            ("reason", .str "No targets resolved to active surfaces/devices")]) (.obj []) none
        rw [he, tenantsAgree_extended]
        exact (and_iff_left trivial).symm
      · obtain ⟨plans, hgen⟩ := generate_loop cfg faults helig htargets hc
        rw [hgen, tenantsAgree_extended]
        exact Rows.sweep_iff_guarded
          (generateForDevice_tenants cfg now
            (loadCampaignData db c (resolveTargets db campaignId)) faults) db _

/-! ## Ingestion -/

/-- An event recorded with the tenant of its device leaves the tenants as they were. -/
theorem TenantsAgree.record {db : Db} (h : TenantsAgree db) {row : PopEventRaw}
    (hrow : row.status = .accepted → OwnTenant db.physicalDevices row.tenancy)
    (outbox : List OutboxEvent) : TenantsAgree (db.recorded [row] outbox) := by
  refine ⟨h.manifests, fun r hr ↦ ?_⟩
  rcases List.mem_append.1 hr with hr | hr
  · exact h.accepted r hr
  · rw [List.mem_singleton.1 hr]
    exact hrow

theorem TenantsAgree.write {db db' : Db} (h : TenantsAgree db) {row : PopEventRaw}
    (hrow : row.status = .accepted → OwnTenant db.physicalDevices row.tenancy)
    {takesNaive : Bool} {eventType : String} {payload : Json} {done r : IngestResult}
    (hwrite : writePopEvent takesNaive db row eventType payload done = .ok (db', r)) :
    TenantsAgree db' := by
  rcases writePopEvent_ok hwrite with ⟨rfl, -⟩ | ⟨-, -, outbox, rfl⟩
  · exact h
  · exact h.record hrow outbox

theorem TenantsAgree.settle {takesNaive : Bool} {db db' : Db} (h : TenantsAgree db)
    {event : PopEventIn} {now : Int} {batchId : Option String} {renderedAt : DateTime}
    {retailerId : String} {r : IngestResult}
    (hsettle : settleEvent takesNaive db event now batchId renderedAt retailerId = .ok (db', r)) :
    TenantsAgree db' := by
  have hquarantined {reason : String} {payload : Json}
      (hq : quarantineEvent takesNaive db event now batchId renderedAt retailerId reason payload =
        .ok (db', r)) : TenantsAgree db' := by
    apply h.write _ hq
    intro hstatus
    cases hstatus
  unfold settleEvent at hsettle
  split at hsettle
  · cases hsettle
  · exact hquarantined hsettle
  · rename_i m hm
    split at hsettle
    · exact hquarantined hsettle
    · split at hsettle
      · cases hsettle
        exact h
      · rename_i hmatch
        have hmem : m ∈ db.deliveryManifests :=
          (List.mem_filter.1 (resolveEventManifest_some hm ▸ List.mem_singleton_self m)).1
        -- the row has the manifest's tenant, and the manifest is of the event's device
        have hown := h.manifests _ (List.mem_map_of_mem hmem)
        apply h.write _ hsettle
        intro _
        show OwnTenant db.physicalDevices (event.deviceId, m.retailerId)
        rw [(manifestMismatch_none hmatch).1]
        exact hown

theorem TenantsAgree.event {takesNaive : Bool} {db db' : Db} (h : TenantsAgree db)
    {event : PopEventIn} {jwtDeviceId : String} {now : Int} {batchId : Option String}
    {r : IngestResult}
    (hevent : ingestPopEvent takesNaive db event jwtDeviceId now batchId = .ok (db', r)) :
    TenantsAgree db' := by
  unfold ingestPopEvent at hevent
  split at hevent
  · cases hevent
  · cases hevent
    exact h
  · split at hevent
    · cases hevent
      exact h
    · split at hevent
      · cases hevent
      · split at hevent
        · cases hevent
          exact h
        · exact h.settle hevent

theorem TenantsAgree.events {b : PopBatch} {db db' : Db} (h : TenantsAgree db)
    {events : List PopEventIn} {results : List PopEventResult}
    (hevents : ingestEvents b db events = .ok (db', results)) : TenantsAgree db' := by
  induction events generalizing db results with
  | nil =>
      cases hevents
      exact h
  | cons event events ih =>
      obtain ⟨mid, r, rest, hevent, hrest⟩ := ingestEvents_cons hevents
      exact ih (h.event hevent) hrest

theorem TenantsAgree.batch {db : Db} (h : TenantsAgree db) (b : PopBatch) :
    TenantsAgree (popStep db b) := by
  unfold popStep ingestPopBatch
  cases hevents : ingestEvents b db b.events with
  | error e => exact h
  | ok result =>
      have hdb := h.events hevents
      exact ⟨hdb.manifests, hdb.accepted⟩

/-! ## Runs -/

/-- A generation call, or a batch of events. -/
inductive DeliveryCall
  | generate (now : Int) (campaignId : String) (faults : String → Option Fault)
  | ingest (b : PopBatch)

def deliveryCall (cfg : SecurityConfig) (db : Db) : DeliveryCall → Db
  | .generate now campaignId faults =>
      (generateManifestsForCampaign cfg db now campaignId faults).1
  | .ingest b => popStep db b

/-- No row is created for a device whose retailer is set and is not the default one. -/
def CreatesForDefault (cfg : SecurityConfig) (db : Db) : DeliveryCall → Prop
  | .generate now campaignId faults => GeneratesForDefault cfg db now campaignId faults
  | .ingest _ => True

theorem deliveryCall_tenants (cfg : SecurityConfig) {db : Db} (h : TenantsAgree db)
    (c : DeliveryCall) : TenantsAgree (deliveryCall cfg db c) ↔ CreatesForDefault cfg db c := by
  cases c with
  | generate now campaignId faults =>
      exact (generate_tenants cfg db now campaignId faults).trans (and_iff_right h)
  | ingest b => exact iff_of_true (h.batch b) trivial

theorem tenantsAgree_iff_default (cfg : SecurityConfig) (db : Db) (l : List DeliveryCall)
    (h : TenantsAgree db) :
    Run.Always (deliveryCall cfg) TenantsAgree db l ↔
      Run.Guarded (deliveryCall cfg) (CreatesForDefault cfg) db l :=
  Run.always_iff_guarded (I := fun _ ↦ True) (A := fun _ ↦ True) (fun _ _ _ _ ↦ trivial)
    (fun _ c _ _ h ↦ deliveryCall_tenants cfg h c) (fun _ _ ↦ trivial) trivial h

/-! Two devices of retailers, one of them the default one. -/

def tenantDb (retailerId : String) : Db :=
  { demoDeliveryDb with
    physicalDevices := [{
      id := "d1", storeId := "st1", deviceTypeId := "t1", code := "D-1", status := .active
      retailerId := some retailerId }] }

def tenantGenerate : DeliveryCall := .generate 0 "a" fun _ ↦ none

theorem tenantDb_agrees (retailerId : String) : TenantsAgree (tenantDb retailerId) :=
  ⟨fun _ ht ↦ absurd ht List.not_mem_nil, fun _ hr ↦ absurd hr List.not_mem_nil⟩

theorem second_retailer_manifest_misfiled :
    ¬ ∀ (cfg : SecurityConfig) (db : Db) (l : List DeliveryCall), TenantsAgree db →
      Run.Always (deliveryCall cfg) TenantsAgree db l := by
  intro h
  have hlast := (h {} (tenantDb "r2") [tenantGenerate] (tenantDb_agrees "r2")).final.manifests
  have hmisfiled : ¬ ∀ t ∈ (Run.final (deliveryCall {}) (tenantDb "r2")
      [tenantGenerate]).deliveryManifests.map (·.tenancy),
      OwnTenant (Run.final (deliveryCall {}) (tenantDb "r2") [tenantGenerate]).physicalDevices t := by
    decide +kernel
  exact hmisfiled hlast

theorem default_retailer_manifest_filed :
    Run.Always (deliveryCall {}) TenantsAgree (tenantDb defaultRetailerId) [tenantGenerate] := by
  refine (tenantsAgree_iff_default {} _ _ (tenantDb_agrees _)).2 ⟨?_, trivial⟩
  intro _ data _
  have hone : (resolveTargets (tenantDb defaultRetailerId) "a").deviceSurfaces =
      [("d1", ["s1"])] := by
    decide +kernel
  rw [hone]
  refine ⟨fun _ ↦ ?_, trivial⟩
  decide

end RetailMedia
