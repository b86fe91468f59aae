import RetailMedia.Lib.Run
import RetailMedia.Campaign.Creatives
import RetailMedia.Delivery.GenerateSpec

/-! Whether a device is served the content that its campaign has when generation returns. -/

namespace RetailMedia

/-! ## Content changes and generation calls -/

def toggleSurfaceActive (db : Db) (surfaceId : String) (isActive : Bool) : Db × Bool :=
  ({ db with
      displaySurfaces := Rows.updateWhere (·.id = surfaceId) ({ · with isActive := isActive })
        db.displaySurfaces },
    db.displaySurfaces.any (·.id = surfaceId))

def setDeviceStatus (db : Db) (deviceId : String) (status : DeviceStatus) : Db :=
  { db with
    physicalDevices := Rows.updateWhere (·.id = deviceId) ({ · with status := status })
      db.physicalDevices }

inductive ContentOp
  | generate (campaignId : String) (faults : String → Option Fault)
  | upload (assetId storageKey sha256Checksum : String) (fileSizeBytes : Int)
      (moderationStatus : ModerationStatus)
  | approve (assetId : String)
  | reject (assetId reason : String)
  | toggleSurface (surfaceId : String) (isActive : Bool)
  | setDevice (deviceId : String) (status : DeviceStatus)

/-- An operation, and how long after the last one it comes. -/
structure ContentStep where
  elapsed : Nat
  op : ContentOp

structure DeliveryState where
  db : Db
  clock : Int

def DeliveryState.timeOf (s : DeliveryState) (a : ContentStep) : Int := s.clock + a.elapsed + 1

def ContentOp.run (cfg : SecurityConfig) (now : Int) (db : Db) : ContentOp → Db
  | .generate campaignId faults =>
      (generateManifestsForCampaign cfg db now campaignId faults).1
  | .upload assetId storageKey sha256Checksum fileSizeBytes moderationStatus =>
      (markAssetUploaded db assetId storageKey sha256Checksum fileSizeBytes moderationStatus).1
  | .approve assetId => (approveCreativeEndpoint db assetId).1
  | .reject assetId reason => (rejectCreativeEndpoint db assetId reason).1
  | .toggleSurface surfaceId isActive => (toggleSurfaceActive db surfaceId isActive).1
  | .setDevice deviceId status => setDeviceStatus db deviceId status

def contentStep (cfg : SecurityConfig) (s : DeliveryState) (a : ContentStep) : DeliveryState where
  db := a.op.run cfg (s.timeOf a) s.db
  clock := s.timeOf a

/-! ## What a device is served -/

def SameMembers (l m : List String) : Prop := (∀ x ∈ l, x ∈ m) ∧ ∀ x ∈ m, x ∈ l

instance (l m : List String) : Decidable (SameMembers l m) := inferInstanceAs (Decidable (_ ∧ _))

/-- The device is served a manifest with these surfaces and these assets. -/
def ServesExactly (cfg : SecurityConfig) (db : Db) (deviceId : String)
    (surfaces assets : List String) : Prop :=
  match getLatestManifestForDevice cfg db deviceId with
  | none => False
  | some m => SameMembers m.surfaceIds surfaces ∧ SameMembers m.assetIds assets

instance (cfg : SecurityConfig) (db : Db) (deviceId : String) (surfaces assets : List String) :
    Decidable (ServesExactly cfg db deviceId surfaces assets) := by
  unfold ServesExactly
  split <;> infer_instance

/-- Every device that the campaign resolves to is served its resolved surfaces and the
campaign's deliverable assets. -/
def Fresh (cfg : SecurityConfig) (db : Db) (campaignId : String) : Prop :=
  ∀ t ∈ (resolveTargets db campaignId).deviceSurfaces,
    ServesExactly cfg db t.1 t.2 (db.deliverableAssetIds campaignId)

instance (cfg : SecurityConfig) (db : Db) (campaignId : String) :
    Decidable (Fresh cfg db campaignId) := inferInstanceAs (Decidable (∀ _ ∈ _, _))

/-- A step that is a call for the campaign, and succeeds for every device, meets `P`. -/
def OnSuccess (cfg : SecurityConfig) (campaignId : String) (P : Db → Db → Prop)
    (s : DeliveryState) (a : ContentStep) : Prop :=
  ∀ faults, a.op = .generate campaignId faults →
    (generateManifestsForCampaign cfg s.db (s.timeOf a) campaignId faults).2.eligible = true →
    (generateManifestsForCampaign cfg s.db (s.timeOf a) campaignId faults).2.failureCount = 0 →
    P s.db (generateManifestsForCampaign cfg s.db (s.timeOf a) campaignId faults).1

def FreshCall (cfg : SecurityConfig) (campaignId : String) : DeliveryState → ContentStep → Prop :=
  OnSuccess cfg campaignId fun _ db' ↦ Fresh cfg db' campaignId

/-- A target whose manifest id is taken is served the current content already: the call skips
the device, so its newest row has to be the right one. -/
def TakenServed (cfg : SecurityConfig) (campaignId : String) (db : Db) : Prop :=
  ∀ before t after, (resolveTargets db campaignId).deviceSurfaces = before ++ t :: after →
    ∀ data, db.campaignData campaignId = some data → data.Taken db before t →
      ServesExactly cfg db t.1 t.2 (db.deliverableAssetIds campaignId)

def TakenServedCall (cfg : SecurityConfig) (campaignId : String) :
    DeliveryState → ContentStep → Prop :=
  OnSuccess cfg campaignId fun db _ ↦ TakenServed cfg campaignId db

/-! ## Stored manifests are older than the clock -/

def Stamped (s : DeliveryState) : Prop :=
  ∀ m ∈ s.db.deliveryManifests, m.status = .generated →
    ∃ t, m.generatedAt = some t ∧ t ≤ s.clock

theorem timeOf_gt (s : DeliveryState) (a : ContentStep) : s.clock < s.timeOf a := by
  unfold DeliveryState.timeOf
  omega

theorem generatedRow_generatedAt (data : CampaignData) (cfg : SecurityConfig) (now version : Int)
    (target : String × List String) :
    (data.generatedRow cfg now version target).generatedAt = some now := rfl

theorem Stamped.generate {s : DeliveryState} (h : Stamped s) (cfg : SecurityConfig) {now : Int}
    (hnow : s.clock < now) (campaignId : String) (faults : String → Option Fault) :
    Stamped ⟨(generateManifestsForCampaign cfg s.db now campaignId faults).1, now⟩ := by
  obtain ⟨rows, events, plans, heq, -, hrows⟩ := generate_extends cfg s.db now campaignId faults
  intro m hm hstatus
  rw [heq] at hm
  rcases List.mem_append.1 hm with hold | hnew
  · obtain ⟨t, ht, hle⟩ := h m hold hstatus
    exact ⟨t, ht, hle.trans hnow.le⟩
  · rcases hrows m hnew with hfailed | ⟨-, data, -, version, t, -, rfl⟩
    · rw [hfailed] at hstatus
      cases hstatus
    · exact ⟨now, generatedRow_generatedAt _ _ _ _ _, le_refl now⟩

theorem Stamped.later {s : DeliveryState} (h : Stamped s) {db : Db} {now : Int}
    (hnow : s.clock < now) (hsame : db.deliveryManifests = s.db.deliveryManifests) :
    Stamped ⟨db, now⟩ := by
  intro m hm hstatus
  obtain ⟨t, ht, hle⟩ := h m (hsame ▸ hm) hstatus
  exact ⟨t, ht, hle.trans hnow.le⟩

theorem stamped_step (cfg : SecurityConfig) (s : DeliveryState) (a : ContentStep)
    (h : Stamped s) : Stamped (contentStep cfg s a) := by
  have hnow := timeOf_gt s a
  unfold contentStep
  cases hop : a.op with
  | generate campaignId faults => exact h.generate cfg hnow campaignId faults
  | upload assetId storageKey sha size moderation => exact h.later hnow rfl
  | approve assetId =>
      have hstate := congrArg Db.deliveryManifests (approveCreativeEndpoint_state s.db assetId)
      exact h.later hnow (hstate.trans rfl)
  | reject assetId reason =>
      have hstate :=
        congrArg Db.deliveryManifests (rejectCreativeEndpoint_state s.db assetId reason)
      exact h.later hnow (hstate.trans rfl)
  | toggleSurface surfaceId isActive => exact h.later hnow rfl
  | setDevice deviceId status => exact h.later hnow rfl

/-! ## One call -/

theorem servesExactly_extended {cfg : SecurityConfig} {db : Db} {rows : List DeliveryManifest}
    {events : List OutboxEvent} {plans : List DeliveryPlan} {deviceId : String}
    (surfaces assets : List String)
    (hsame : (db.extended rows events plans).generatedManifests deviceId =
      db.generatedManifests deviceId) :
    ServesExactly cfg (db.extended rows events plans) deviceId surfaces assets ↔
      ServesExactly cfg db deviceId surfaces assets := by
  have hlatest : (db.extended rows events plans).latestManifest deviceId =
      db.latestManifest deviceId := congrArg (Rows.newest _) hsame
  unfold ServesExactly getLatestManifestForDevice
  rw [hlatest]
  exact Iff.rfl

/-- The newest generated manifest of a device is the one that the call has just added. -/
theorem latestManifest_new {s : DeliveryState} (h : Stamped s) {db : Db} {deviceId : String}
    {row : DeliveryManifest} {now : Int} (hnow : s.clock < now) (hrow : row.generatedAt = some now)
    (hnew : db.generatedManifests deviceId = s.db.generatedManifests deviceId ++ [row]) :
    db.latestManifest deviceId = some row := by
  unfold Db.latestManifest
  rw [hnew]
  refine Rows.newest_concat fun m hm ↦ ?_
  have hm : m ∈ s.db.deliveryManifests ∧ m.physicalDeviceId = deviceId ∧ m.status = .generated := by
    simpa [Db.generatedManifests] using hm
  obtain ⟨t, ht, hle⟩ := h m hm.1 hm.2.2
  rw [ht, hrow]
  exact WithTop.coe_lt_coe.2 (hle.trans_lt hnow)

theorem servesExactly_new {cfg : SecurityConfig} {db : Db} {campaignId : String}
    {data : CampaignData} {now version : Int} {t : String × List String}
    (hdata : data.creativeAssetRows = db.creativeAssetRows campaignId)
    (ht : ∀ s ∈ t.2, s ∈ db.displaySurfaces.map (·.id))
    (hlatest : db.latestManifest t.1 = some (data.generatedRow cfg now version t)) :
    ServesExactly cfg db t.1 t.2 (db.deliverableAssetIds campaignId) := by
  have hsurfaces : ∀ s ∈ (data.generatedRow cfg now version t).surfaceIds,
      s ∈ db.displaySurfaces.map (·.id) := fun s hs ↦ ht s (mem_sortedTexts.1 hs)
  have hassets : (data.generatedRow cfg now version t).assets.map (·.creativeAssetId) =
      db.deliverableAssetIds campaignId := by
    change (data.creativeAssetRows.map assetRecord).map _ = _
    rw [hdata, List.map_map]
    rfl
  unfold ServesExactly getLatestManifestForDevice
  rw [hlatest]
  change SameMembers _ t.2 ∧ SameMembers _ (db.deliverableAssetIds campaignId)
  rw [signed_surfaceIds, signed_assetIds, servedPayload_surfaceIds, servedPayload_assetIds,
    manifestSurfaces_ids hsurfaces, hassets]
  exact ⟨⟨fun s hs ↦ mem_sortedTexts.1 hs, fun s hs ↦ mem_sortedTexts.2 hs⟩,
    fun _ h ↦ h, fun _ h ↦ h⟩

/-- After a call that succeeds for every device, the devices are served the current content
exactly if those were that the call skipped. -/
theorem fresh_iff_takenServed {cfg : SecurityConfig} {s : DeliveryState} {now : Int}
    {campaignId : String} {faults : String → Option Fault} (h : Stamped s) (hnow : s.clock < now)
    (helig : (generateManifestsForCampaign cfg s.db now campaignId faults).2.eligible = true)
    (hfail : (generateManifestsForCampaign cfg s.db now campaignId faults).2.failureCount = 0) :
    Fresh cfg (generateManifestsForCampaign cfg s.db now campaignId faults).1 campaignId ↔
      TakenServed cfg campaignId s.db := by
  obtain ⟨rows, events, plans, heq, -, -⟩ := generate_extends cfg s.db now campaignId faults
  constructor
  · intro hfresh before t after htargets data hdata htaken
    obtain ⟨data', hdata', hcases⟩ := generate_target cfg faults helig hfail htargets
    obtain rfl := Option.some.inj (hdata'.symm.trans hdata)
    have ht : t ∈ (resolveTargets s.db campaignId).deviceSurfaces := htargets ▸ by simp
    rcases hcases with ⟨-, hsame⟩ | ⟨hnot, -⟩
    · rw [heq] at hfresh hsame
      exact (servesExactly_extended t.2 _ hsame).1 (hfresh t ht)
    · exact absurd htaken hnot
  · intro hserved
    rw [heq]
    intro t ht
    have ht : t ∈ (resolveTargets s.db campaignId).deviceSurfaces := ht
    obtain ⟨before, after, htargets⟩ := List.append_of_mem ht
    obtain ⟨data, hdata, hcases⟩ := generate_target cfg faults helig hfail htargets
    rw [heq] at hcases
    rcases hcases with ⟨htaken, hsame⟩ | ⟨-, version, hnew⟩
    · exact (servesExactly_extended t.2 _ hsame).2
        (hserved before t after htargets data hdata htaken)
    · have hlatest :=
        latestManifest_new h hnow (generatedRow_generatedAt data cfg now version t) hnew
      exact servesExactly_new (campaignData_rows hdata)
        (fun x hx ↦ resolveTargets_surface (show (t.1, t.2) ∈ _ from ht) hx) hlatest

theorem not_freshCall {cfg : SecurityConfig} {campaignId : String} {s : DeliveryState}
    {a : ContentStep} {faults : String → Option Fault} (hop : a.op = .generate campaignId faults)
    (h : (generateManifestsForCampaign cfg s.db (s.timeOf a) campaignId faults).2.eligible = true ∧
      (generateManifestsForCampaign cfg s.db (s.timeOf a) campaignId faults).2.failureCount = 0 ∧
      ¬ Fresh cfg (generateManifestsForCampaign cfg s.db (s.timeOf a) campaignId faults).1
        campaignId) : ¬ FreshCall cfg campaignId s a :=
  fun hfresh ↦ h.2.2 (hfresh faults hop h.1 h.2.1)

theorem freshCall_iff (cfg : SecurityConfig) (campaignId : String) (s : DeliveryState)
    (a : ContentStep) (h : Stamped s) :
    FreshCall cfg campaignId s a ↔ TakenServedCall cfg campaignId s a := by
  refine forall_congr' fun faults ↦ forall_congr' fun _ ↦ forall_congr' fun helig ↦
    forall_congr' fun hfail ↦ ?_
  exact fresh_iff_takenServed h (timeOf_gt s a) helig hfail

/-- The campaign's devices, and those that it shares with no other campaign. -/
def Db.targetDevices (db : Db) (campaignId : String) : List String :=
  (resolveTargets db campaignId).deviceSurfaces.map (·.1)

def Db.SoleOnDevices (db : Db) (campaignId : String) : Prop :=
  ∀ c ∈ db.campaigns, c.id ≠ campaignId →
    ∀ d ∈ db.targetDevices campaignId, d ∉ db.targetDevices c.id

instance (db : Db) (campaignId : String) : Decidable (db.SoleOnDevices campaignId) :=
  inferInstanceAs (Decidable (∀ _ ∈ _, _))

/-- In every run, all successful calls for the campaign leave fresh content exactly if none of
them skips a device that is not served the current content. -/
theorem freshCalls_iff_takenServed (cfg : SecurityConfig) (campaignId : String)
    (s : DeliveryState) (l : List ContentStep) (h0 : Stamped s) :
    Run.Guarded (contentStep cfg) (FreshCall cfg campaignId) s l ↔
      Run.Guarded (contentStep cfg) (TakenServedCall cfg campaignId) s l :=
  Run.guarded_iff (stamped_step cfg) (freshCall_iff cfg campaignId) h0

/-! An approved campaign with two assets on one device. -/

def demoAsset (id : String) (moderationStatus : ModerationStatus) : CreativeAsset where
  id := id
  code := id
  mediaType := "video/mp4"
  storageKey := "creatives/" ++ id
  sha256Checksum := "0123456789abcdef0123456789abcdef0123456789abcdef0123456789abcdef"
  fileSizeBytes := 1000
  durationMs := some 5000
  moderationStatus := moderationStatus

def demoDeliveryDb : Db where
  channels := [{ id := "ch1", code := "KSO" }]
  deviceTypes := [{ id := "t1", channelId := "ch1", code := "KSO-15" }]
  stores := [{ id := "st1", clusterId := "cl1", code := "ST-1" }]
  physicalDevices := [
    { id := "d1", storeId := "st1", deviceTypeId := "t1", code := "D-1", status := .active }]
  logicalCarriers := [{ id := "l1", physicalDeviceId := "d1" }]
  displaySurfaces := [{ id := "s1", logicalCarrierId := "l1", storeId := "st1", code := "S-1" }]
  campaigns := [{
    id := "a", advertiserOrganizationId := "o1", advertiserContractId := "k1", code := "A"
    status := .approved }]
  campaignFlights := [{ id := "f1", campaignId := "a", startAt := 0, endAt := 1000000 }]
  campaignPlacements := [{ id := "p1", campaignId := "a", displaySurfaceId := some "s1" }]
  creativeAssets := [demoAsset "x" .approved, demoAsset "y" .approved]
  campaignCreatives := [
    { campaignId := "a", creativeAssetId := "x" }, { campaignId := "a", creativeAssetId := "y" }]
  advertiserContracts := [{ id := "k1", validFrom := 0 }]

def demoGenerate : ContentStep := ⟨0, .generate "a" fun _ ↦ none⟩

-- the content goes from x and y to x and back
def backAndForth : List ContentStep :=
  [demoGenerate, ⟨0, .reject "y" "blurred"⟩, demoGenerate, ⟨0, .approve "y"⟩]

theorem demo_stamped : Stamped ⟨demoDeliveryDb, 0⟩ := fun _ hm ↦ absurd hm List.not_mem_nil

theorem lastCall_stale : ¬ FreshCall {} "a"
    (Run.final (contentStep {}) ⟨demoDeliveryDb, 0⟩ backAndForth) demoGenerate :=
  not_freshCall rfl (by decide +kernel)

theorem always_sole : Run.Always (contentStep {}) (fun s ↦ s.db.SoleOnDevices "a")
    ⟨demoDeliveryDb, 0⟩ (backAndForth ++ [demoGenerate]) := by
  decide +kernel

theorem content_back_and_forth_stale :
    ¬ ∀ (cfg : SecurityConfig) (campaignId : String) (s : DeliveryState) (l : List ContentStep),
      Stamped s →
      Run.Always (contentStep cfg) (fun s ↦ s.db.SoleOnDevices campaignId) s l →
      Run.Guarded (contentStep cfg) (FreshCall cfg campaignId) s l := by
  intro h
  have hrun := h {} "a" ⟨demoDeliveryDb, 0⟩ (backAndForth ++ [demoGenerate]) demo_stamped
    always_sole
  exact lastCall_stale (@Run.Guarded.last _ _ (contentStep {}) (FreshCall {} "a")
    ⟨demoDeliveryDb, 0⟩ backAndForth demoGenerate hrun)

theorem demo_takenServed : TakenServed {} "a" demoDeliveryDb := by
  intro before t after htargets data _ htaken
  have hone : (resolveTargets demoDeliveryDb "a").deviceSurfaces = [("d1", ["s1"])] := by
    decide +kernel
  -- the only target comes first, and no manifest is stored
  have hbefore : before = [] := by
    cases before with
    | nil => rfl
    | cons u us =>
        have hlen := congrArg List.length (hone.symm.trans htargets)
        simp at hlen
  rw [hbefore] at htaken
  rcases htaken with hstored | hearlier
  · exact absurd hstored List.not_mem_nil
  · exact absurd hearlier List.not_mem_nil

theorem first_content_fresh :
    Run.Guarded (contentStep {}) (FreshCall {} "a") ⟨demoDeliveryDb, 0⟩ [demoGenerate] :=
  (freshCalls_iff_takenServed {} "a" ⟨demoDeliveryDb, 0⟩ [demoGenerate] demo_stamped).2
    ⟨fun _ _ _ _ ↦ demo_takenServed, trivial⟩

end RetailMedia
