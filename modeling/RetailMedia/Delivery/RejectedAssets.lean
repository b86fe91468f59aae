import RetailMedia.Delivery.StoppedCampaigns

/-! Whether a device is still served an asset that has lost its approval. -/

namespace RetailMedia

def Db.Deliverable (db : Db) (assetId : String) : Prop :=
  ∃ a, Rows.get (·.id) assetId db.creativeAssets = some a ∧ a.deliverable = true

instance (db : Db) (assetId : String) : Decidable (db.Deliverable assetId) :=
  decidable_of_iff _ (Option.any_eq_true _ _)

/-- The placements that resolve to the device are all of one campaign. -/
def Db.SoleTarget (db : Db) (deviceId : String) : Prop :=
  ∃ p ∈ db.campaignPlacements, deviceId ∈ db.targetDevices p.campaignId ∧
    ∀ q ∈ db.campaignPlacements, deviceId ∈ db.targetDevices q.campaignId →
      q.campaignId = p.campaignId

instance (db : Db) (deviceId : String) : Decidable (db.SoleTarget deviceId) :=
  inferInstanceAs (Decidable (∃ _ ∈ _, _ ∧ _))

/-- Devices with a single campaign are served assets that are ready and approved now. -/
def ServesDeliverable (cfg : SecurityConfig) (db : Db) : Prop :=
  ∀ deviceId, db.SoleTarget deviceId → ∀ manifest,
    getLatestManifestForDevice cfg db deviceId = some manifest →
      ∀ assetId ∈ manifest.assetIds, db.Deliverable assetId

/-- With every event handled, no lost approval is served. -/
def QuiescentDeliverable (cfg : SecurityConfig) (s : PipelineState) : Prop :=
  s.Quiescent → ServesDeliverable cfg s.db

/-- An asset that the step rejects is in no manifest that a device with a single campaign is
served from. -/
def RejectsUnserved (s : PipelineState) (a : PipelineStep) : Prop :=
  ∀ assetId reason, a.op = .rejectAsset assetId reason →
    ∀ deviceId, s.db.SoleTarget deviceId → ∀ m, s.db.latestManifest deviceId = some m →
      assetId ∉ m.assets.map (·.creativeAssetId)

def RejectsQuiescent (s : PipelineState) (a : PipelineStep) : Prop :=
  ∀ assetId reason, a.op = .rejectAsset assetId reason → s.Quiescent

/-! ## The stored rows behind the served playlist -/

def CarriesDeliverable (db : Db) : Prop :=
  ∀ deviceId, db.SoleTarget deviceId → ∀ m, db.latestManifest deviceId = some m →
    ∀ assetId ∈ m.assets.map (·.creativeAssetId), db.Deliverable assetId

theorem servesDeliverable_iff (cfg : SecurityConfig) (db : Db) :
    ServesDeliverable cfg db ↔ CarriesDeliverable db := by
  have hids (deviceId : String) (m : DeliveryManifest) :
      (signed cfg (servedPayload db deviceId m)).assetIds = m.assets.map (·.creativeAssetId) := by
    rw [signed_assetIds, servedPayload_assetIds]
  constructor
  · intro h deviceId hsole m hm assetId hid
    have hserved : getLatestManifestForDevice cfg db deviceId =
        some (signed cfg (servedPayload db deviceId m)) := congrArg (Option.map _) hm
    exact h deviceId hsole _ hserved assetId (hids deviceId m ▸ hid)
  · intro h deviceId hsole manifest hserved assetId hid
    obtain ⟨m, hm, rfl⟩ := Option.map_eq_some_iff.1 hserved
    rw [hids] at hid
    exact h deviceId hsole m hm assetId hid

/-- The assets that generation works on are deliverable. -/
theorem creativeAssetRows_deliverable {db : Db} {campaignId assetId : String}
    (h : assetId ∈ db.deliverableAssetIds campaignId) : db.Deliverable assetId := by
  obtain ⟨row, hrow, rfl⟩ := List.mem_map.1 h
  obtain ⟨cc, -, hcc⟩ := List.mem_filterMap.1 hrow
  obtain ⟨a, ha, rfl⟩ := Option.map_eq_some_iff.1 hcc
  have hfound := Option.mem_filter_iff.1 ha
  have hid : a.id = cc.creativeAssetId := Rows.get_key hfound.1
  exact ⟨a, hid ▸ hfound.1, hfound.2⟩

theorem generatedRow_assetIds (data : CampaignData) (cfg : SecurityConfig) (now version : Int)
    (t : String × List String) :
    (data.generatedRow cfg now version t).assets.map (·.creativeAssetId) =
      data.creativeAssetRows.map (·.2.id) := by
  show (data.creativeAssetRows.map assetRecord).map (·.creativeAssetId) = _
  rw [List.map_map]
  rfl

/-- A generation call adds manifests of deliverable assets only. -/
theorem CarriesDeliverable.generate {db : Db} (h : CarriesDeliverable db) (cfg : SecurityConfig)
    (now : Int) (campaignId : String) (faults : String → Option Fault) :
    CarriesDeliverable (generateManifestsForCampaign cfg db now campaignId faults).1 := by
  obtain ⟨rows, events, plans, heq, -, hrows⟩ := generate_extends cfg db now campaignId faults
  rw [heq]
  intro deviceId hsole m hm assetId hid
  rcases latestManifest_extended hm with ⟨hnew, hstatus⟩ | hold
  · rcases hrows m hnew with hfailed | ⟨-, data, hdata, version, t, -, rfl⟩
    · rw [hfailed] at hstatus
      cases hstatus
    · rw [generatedRow_assetIds, campaignData_rows hdata] at hid
      exact creativeAssetRows_deliverable hid
  · exact h deviceId hsole m hold assetId hid

/-! ## Moderation -/

theorem deliverable_moderated (db : Db) (assetId id : String) (status : ModerationStatus)
    (notes : Option String) :
    (moderateAsset db assetId status notes).1.Deliverable id ↔
      ∃ a, Rows.get (·.id) id db.creativeAssets = some a ∧
        (if id = assetId then a.moderated status notes else a).deliverable = true := by
  have hget :
      Rows.get CreativeAsset.id id (moderateAsset db assetId status notes).1.creativeAssets =
      (Rows.get CreativeAsset.id id db.creativeAssets).map fun a ↦
        if decide (a.id = assetId) = true then a.moderated status notes else a :=
    Rows.get_updateWhere (f := (·.moderated status notes)) (fun _ ↦ rfl) db.creativeAssets
  unfold Db.Deliverable
  rw [hget]
  constructor
  · rintro ⟨a, ha, hd⟩
    obtain ⟨b, hb, rfl⟩ := Option.map_eq_some_iff.1 ha
    have hid : b.id = id := Rows.get_key hb
    rw [hid] at hd
    simp only [decide_eq_true_eq] at hd
    exact ⟨b, hb, hd⟩
  · rintro ⟨b, hb, hd⟩
    have hid : b.id = id := Rows.get_key hb
    refine ⟨_, congrArg (Option.map _) hb, ?_⟩
    simp only [decide_eq_true_eq]
    rw [hid]
    exact hd

theorem deliverable_rejected (db : Db) (assetId id reason : String) :
    (rejectCreativeEndpoint db assetId reason).1.Deliverable id ↔
      db.Deliverable id ∧ id ≠ assetId := by
  rw [rejectCreativeEndpoint_state, deliverable_moderated]
  by_cases hid : id = assetId
  · simp [hid, CreativeAsset.deliverable, CreativeAsset.moderated]
  · simp [hid, Db.Deliverable]

theorem Db.Deliverable.approved {db : Db} {id : String} (h : db.Deliverable id)
    (assetId : String) : (approveCreativeEndpoint db assetId).1.Deliverable id := by
  obtain ⟨a, ha, hd⟩ := h
  rw [approveCreativeEndpoint_state, deliverable_moderated]
  refine ⟨a, ha, ?_⟩
  by_cases hid : id = assetId
  · rw [if_pos hid]
    simp only [CreativeAsset.deliverable, decide_eq_true_eq] at hd
    simp [CreativeAsset.deliverable, CreativeAsset.moderated, hd.1]
  · rw [if_neg hid]
    exact hd

/-! ## Runs -/

theorem CarriesDeliverable.approve {db : Db} (h : CarriesDeliverable db) (assetId : String) :
    CarriesDeliverable (approveCreativeEndpoint db assetId).1 := by
  intro deviceId hsole m hm id hid
  have hstate := approveCreativeEndpoint_state db assetId
  rw [hstate] at hsole hm
  exact (h deviceId hsole m hm id hid).approved assetId

theorem carriesDeliverable_reject {db : Db} (h : CarriesDeliverable db) (assetId reason : String) :
    CarriesDeliverable (rejectCreativeEndpoint db assetId reason).1 ↔
      ∀ deviceId, db.SoleTarget deviceId → ∀ m, db.latestManifest deviceId = some m →
        assetId ∉ m.assets.map (·.creativeAssetId) := by
  have hstate := rejectCreativeEndpoint_state db assetId reason
  constructor
  · intro hclean deviceId hsole m hm hid
    -- a served asset would have to stay deliverable
    have hafter : (rejectCreativeEndpoint db assetId reason).1.Deliverable assetId :=
      hclean deviceId (hstate ▸ hsole) m (hstate ▸ hm) assetId hid
    exact ((deliverable_rejected db assetId assetId reason).1 hafter).2 rfl
  · intro hunserved deviceId hsole m hm id hid
    rw [hstate] at hsole hm
    have hne : id ≠ assetId := fun heq ↦ hunserved deviceId hsole m hm (heq ▸ hid)
    exact (deliverable_rejected db assetId id reason).2 ⟨h deviceId hsole m hm id hid, hne⟩

theorem Announced.carriesDeliverable {db db' : Db} (h : Announced db db')
    (hclean : CarriesDeliverable db) : CarriesDeliverable db' := by
  intro deviceId hsole m hm
  rw [h.latestManifest] at hm
  obtain ⟨mid, events, ⟨_, _, _, _, _, rfl⟩, rfl, -⟩ := h.frame
  exact hclean deviceId hsole m hm

theorem rejectsUnserved_of_ne {s : PipelineState} {a : PipelineStep}
    (h : ∀ assetId reason, a.op ≠ .rejectAsset assetId reason) : RejectsUnserved s a :=
  fun assetId reason hop ↦ absurd hop (h assetId reason)

/-- A step keeps the stored manifests free of lost approvals exactly if it rejects no asset that
is in one of them. -/
theorem carriesDeliverable_step (cfg : PipelineConfig) (s : PipelineState) (a : PipelineStep)
    (h : CarriesDeliverable s.db) :
    CarriesDeliverable (pipelineStep cfg s a).db ↔ RejectsUnserved s a := by
  by_cases hlife : a.op.lifecycle = true
  · obtain ⟨db', hannounced, heq⟩ := pipelineStep_lifecycle cfg s a hlife
    rw [heq]
    refine iff_of_true (hannounced.carriesDeliverable h) (rejectsUnserved_of_ne fun _ _ hop ↦ ?_)
    rw [hop] at hlife
    cases hlife
  · unfold pipelineStep
    cases hop : a.op with
    | approveAsset assetId =>
        exact iff_of_true (h.approve assetId) (rejectsUnserved_of_ne (by simp [hop]))
    | rejectAsset assetId reason =>
        show CarriesDeliverable (rejectCreativeEndpoint s.db assetId reason).1 ↔ _
        rw [carriesDeliverable_reject h]
        constructor
        · intro hg id r hid
          cases hop.symm.trans hid
          exact hg
        · intro hg
          exact hg assetId reason hop
    | generate campaignId faults =>
        exact iff_of_true (h.generate cfg.security a.now campaignId faults)
          (rejectsUnserved_of_ne (by simp [hop]))
    | handle eventId faults interrupted =>
        refine iff_of_true ?_ (rejectsUnserved_of_ne (by simp [hop]))
        show CarriesDeliverable (handleEvent cfg.security a.now s eventId faults interrupted).db
        rcases handleEvent_cases cfg.security a.now s eventId faults interrupted with
          ⟨heq, -⟩ | ⟨e, -, heq | ⟨-, heq⟩⟩
        · rw [heq]
          exact h
        · rw [heq]
          exact h
        · rw [heq]
          exact h.generate cfg.security a.now e.aggregateId faults
    | _ => exact absurd (by rw [hop]; rfl) hlife

/-- In every run, devices are served approved assets throughout, quiescent or not, exactly if no
served asset is rejected. -/
theorem alwaysDeliverable_iff (cfg : PipelineConfig) (s : PipelineState) (l : List PipelineStep)
    (h : CarriesDeliverable s.db) :
    Run.Always (pipelineStep cfg) (fun s ↦ CarriesDeliverable s.db) s l ↔
      Run.Guarded (pipelineStep cfg) RejectsUnserved s l :=
  Run.always_iff_guarded (I := fun _ ↦ True) (A := fun _ ↦ True) (fun _ _ _ _ ↦ trivial)
    (fun s a _ _ ↦ carriesDeliverable_step cfg s a) (fun _ _ ↦ trivial) trivial h

/-- A rejection leaves the outbox alone, so a quiescent pipeline stays quiescent. -/
theorem Quiescent.reject {s : PipelineState} (h : s.Quiescent) (assetId reason : String) :
    PipelineState.Quiescent { s with db := (rejectCreativeEndpoint s.db assetId reason).1 } := by
  rw [rejectCreativeEndpoint_state]
  exact h

/-- When rejections come in quiescent states only, what holds in the quiescent states of a run
holds in all of its states. -/
theorem rejectsUnserved_of_quiescent (cfg : PipelineConfig) {s : PipelineState}
    {l : List PipelineStep} (h : CarriesDeliverable s.db)
    (hquiet : Run.Guarded (pipelineStep cfg) RejectsQuiescent s l)
    (hrun : Run.Always (pipelineStep cfg) (QuiescentDeliverable cfg.security) s l) :
    Run.Guarded (pipelineStep cfg) RejectsUnserved s l := by
  induction l generalizing s with
  | nil => trivial
  | cons a l ih =>
      have hstep := carriesDeliverable_step cfg s a h
      have hguard : RejectsUnserved s a := by
        intro assetId reason hop
        have hquiescent : (pipelineStep cfg s a).Quiescent := by
          have hafter := Quiescent.reject (hquiet.1 assetId reason hop) assetId reason
          unfold pipelineStep
          rw [hop]
          exact hafter
        have hclean := (servesDeliverable_iff cfg.security _).1 (hrun.2.head hquiescent)
        exact hstep.1 hclean assetId reason hop
      exact ⟨hguard, ih (hstep.2 hguard) hquiet.2 hrun.2⟩

/-- In every run that rejects no served asset, quiescent states serve approved assets only; a run
that rejects in quiescent states only serves approved assets in its quiescent states in no other
case. -/
theorem quiescent_deliverable (cfg : PipelineConfig) (s : PipelineState) (l : List PipelineStep)
    (h : ServesDeliverable cfg.security s.db) :
    (Run.Guarded (pipelineStep cfg) RejectsUnserved s l →
      Run.Always (pipelineStep cfg) (QuiescentDeliverable cfg.security) s l) ∧
    (Run.Guarded (pipelineStep cfg) RejectsQuiescent s l →
      Run.Always (pipelineStep cfg) (QuiescentDeliverable cfg.security) s l →
        Run.Guarded (pipelineStep cfg) RejectsUnserved s l) := by
  have hcarries := (servesDeliverable_iff cfg.security s.db).1 h
  constructor
  · intro hg
    refine Run.Always.mono (fun t ht _ ↦ ?_) ((alwaysDeliverable_iff cfg s l hcarries).2 hg)
    exact (servesDeliverable_iff cfg.security t.db).2 ht
  · intro hquiet hrun
    exact rejectsUnserved_of_quiescent cfg hcarries hquiet hrun

-- the rejection comes when the only event has been handled
def rejectedRun : List PipelineStep := [
  ⟨1, .generate "a" fun _ ↦ none⟩, ⟨2, .handle 1 (fun _ ↦ none) false⟩,
  ⟨3, .rejectAsset "y" "blurred"⟩]

theorem demoState_deliverable (cfg : SecurityConfig) : ServesDeliverable cfg demoState.db := by
  intro _ _ _ hserved
  cases hserved

theorem not_carriesDeliverable {db : Db} {deviceId assetId : String}
    (hsole : db.SoleTarget deviceId)
    (hserved : (db.latestManifest deviceId).any
      (fun m ↦ assetId ∈ m.assets.map (·.creativeAssetId)) = true)
    (hlost : ¬ db.Deliverable assetId) : ¬ CarriesDeliverable db := by
  intro h
  obtain ⟨m, hm, hid⟩ := (Option.any_eq_true _ _).1 hserved
  exact hlost (h deviceId hsole m hm assetId (of_decide_eq_true hid))

theorem rejectedRun_serves :
    (Run.final (pipelineStep {}) demoState rejectedRun).Quiescent ∧
      ¬ CarriesDeliverable (Run.final (pipelineStep {}) demoState rejectedRun).db :=
  ⟨by decide +kernel, @not_carriesDeliverable _ "d1" "y" (by decide +kernel) (by decide +kernel)
    (by decide +kernel)⟩

theorem rejected_asset_served :
    ¬ ∀ (cfg : PipelineConfig) (s : PipelineState) (l : List PipelineStep),
      ServesDeliverable cfg.security s.db →
      Run.Always (pipelineStep cfg) (QuiescentDeliverable cfg.security) s l := by
  intro h
  have hrun := h {} demoState rejectedRun (demoState_deliverable {})
  have hlast := hrun.final rejectedRun_serves.1
  exact rejectedRun_serves.2 ((servesDeliverable_iff _ _).1 hlast)

def rejectedEarly : List PipelineStep := [
  ⟨1, .rejectAsset "y" "blurred"⟩, ⟨2, .generate "a" fun _ ↦ none⟩,
  ⟨3, .handle 1 (fun _ ↦ none) false⟩]

theorem rejectedEarly_unserved :
    Run.Guarded (pipelineStep {}) RejectsUnserved demoState rejectedEarly := by
  have hfirst : RejectsUnserved demoState ⟨1, .rejectAsset "y" "blurred"⟩ := by
    intro _ _ _ _ _ m hm
    cases hm
  exact ⟨hfirst, rejectsUnserved_of_ne (by simp), rejectsUnserved_of_ne (by simp), trivial⟩

theorem rejected_before_generation :
    Run.Always (pipelineStep {}) (QuiescentDeliverable {}) demoState rejectedEarly :=
  (quiescent_deliverable {} demoState rejectedEarly (demoState_deliverable {})).1
    rejectedEarly_unserved

end RetailMedia
