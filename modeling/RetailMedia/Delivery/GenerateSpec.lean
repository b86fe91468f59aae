import RetailMedia.Delivery.Generate

/-! What a generation call adds to the tables, and what each device is served after it. -/

namespace RetailMedia

/-- Rows added to the tables that generation writes. -/
def Db.extended (db : Db) (manifests : List DeliveryManifest) (events : List OutboxEvent)
    (plans : List DeliveryPlan) : Db :=
  { db with
    deliveryManifests := db.deliveryManifests ++ manifests
    outboxEvents := db.outboxEvents ++ events
    deliveryPlans := db.deliveryPlans ++ plans }

theorem extended_nil (db : Db) : db.extended [] [] [] = db := by
  unfold Db.extended
  simp only [List.append_nil]

theorem extended_extended (db : Db) (m m' : List DeliveryManifest) (e e' : List OutboxEvent)
    (p p' : List DeliveryPlan) :
    (db.extended m e p).extended m' e' p' = db.extended (m ++ m') (e ++ e') (p ++ p') := by
  unfold Db.extended
  simp only [List.append_assoc]

def Db.manifestIds (db : Db) : List String := db.deliveryManifests.map (·.manifestId)

theorem generatedManifests_extended (db : Db) (m : List DeliveryManifest)
    (e : List OutboxEvent) (p : List DeliveryPlan) (deviceId : String) :
    (db.extended m e p).generatedManifests deviceId = db.generatedManifests deviceId ++
      m.filter fun r ↦ r.physicalDeviceId = deviceId ∧ r.status = .generated :=
  List.filter_append _ _

theorem createDeliveryPlan_extends (db : Db) (campaignId versionHash reason : String) :
    ∃ plans, createDeliveryPlan db campaignId versionHash reason = db.extended [] [] plans := by
  unfold createDeliveryPlan Db.extended
  simp only [List.append_nil]
  exact ⟨_, rfl⟩

def OutboxEvent.aboutManifest (e : OutboxEvent) : Prop :=
  e.eventType = "delivery.manifest.generated" ∨ e.eventType = "delivery.manifest.failed"

theorem enqueueOutboxEvent_spec (db : Db) (eventType aggregateType aggregateId : String)
    (payload headers : Json) (partitionKey : Option String) :
    ∃ e, enqueueOutboxEvent db eventType aggregateType aggregateId payload headers partitionKey =
        db.extended [] [e] [] ∧
      e.eventType = eventType ∧ e.aggregateId = aggregateId ∧
      e.id ∉ db.outboxEvents.map (·.id) := by
  unfold enqueueOutboxEvent Db.extended
  simp only [List.append_nil]
  exact ⟨_, rfl, rfl, rfl, Rows.freshKey_not_mem _⟩

/-- The row that a device's manifest leaves. -/
def CampaignData.generatedRow (data : CampaignData) (cfg : SecurityConfig) (now version : Int)
    (target : String × List String) : DeliveryManifest :=
  (data.record cfg version target).markGenerated now (data.record cfg version target).contentHash

@[simp] theorem generatedRow_device (data : CampaignData) (cfg : SecurityConfig)
    (now version : Int) (target : String × List String) :
    (data.generatedRow cfg now version target).physicalDeviceId = target.1 := rfl

@[simp] theorem generatedRow_status (data : CampaignData) (cfg : SecurityConfig)
    (now version : Int) (target : String × List String) :
    (data.generatedRow cfg now version target).status = .generated := rfl

theorem markGenerated_new {db : Db} (row : DeliveryManifest) (now : Int) (hash : String)
    (hid : row.manifestId ∉ db.manifestIds) (hplanned : row.status = .planned) :
    markManifestGenerated (createDeliveryManifestRecord db row) now row.manifestId hash =
      db.extended [row.markGenerated now hash] [] [] := by
  have hold : ∀ m ∈ db.deliveryManifests,
      decide (m.manifestId = row.manifestId ∧ m.status = .planned) = false := by
    intro m hm
    have hne : m.manifestId ≠ row.manifestId := fun h ↦ hid (h ▸ List.mem_map_of_mem hm)
    simp [hne]
  unfold markManifestGenerated createDeliveryManifestRecord Db.extended
  rw [Rows.updateWhere_append, Rows.updateWhere_eq_self hold]
  simp [hplanned]

theorem markFailed_new {db : Db} {manifestId : String} (lastError : String)
    (rows : List DeliveryManifest) (hid : manifestId ∉ db.manifestIds)
    (hrows : ∀ r ∈ rows, r.manifestId = manifestId ∧
      (r.status = .planned ∨ r.status = .generated)) :
    markManifestFailed (db.extended rows [] []) manifestId lastError =
      db.extended (rows.map (·.markFailed lastError)) [] [] := by
  have hold : ∀ m ∈ db.deliveryManifests,
      decide (m.manifestId = manifestId ∧ (m.status = .planned ∨ m.status = .generated)) =
        false := by
    intro m hm
    have hne : m.manifestId ≠ manifestId := fun h ↦ hid (h ▸ List.mem_map_of_mem hm)
    simp [hne]
  have hnew : Rows.updateWhere (fun m ↦ m.manifestId = manifestId ∧
      (m.status = .planned ∨ m.status = .generated)) (·.markFailed lastError) rows =
      rows.map (·.markFailed lastError) :=
    List.map_congr_left fun r hr ↦ if_pos (by simpa using hrows r hr)
  unfold markManifestFailed Db.extended
  dsimp only
  rw [Rows.updateWhere_append, Rows.updateWhere_eq_self hold, hnew]

/-- The `except` branch leaves the rows of its manifest failed, and one event. -/
theorem failDevice_spec {db : Db} {manifestId : String} (campaignId deviceId : String)
    (rows : List DeliveryManifest) (hid : manifestId ∉ db.manifestIds)
    (hrows : ∀ r ∈ rows, r.manifestId = manifestId ∧
      (r.status = .planned ∨ r.status = .generated)) :
    ∃ failed e, failDevice (db.extended rows [] []) campaignId manifestId deviceId =
        db.extended failed [e] [] ∧
      (∀ r ∈ failed, r.status = .failed) ∧ e.aboutManifest := by
  unfold failDevice
  rw [markFailed_new _ rows hid hrows]
  obtain ⟨e, he, htype, -⟩ := enqueueOutboxEvent_spec
    (db.extended (rows.map (·.markFailed generationFailure)) [] []) "delivery.manifest.failed"
    "campaign" campaignId (.obj [("campaign_id", .str campaignId), ("device_id", .str deviceId),
      ("reason", .str generationFailure)]) (.obj []) none
  rw [extended_extended, List.append_nil] at he
  refine ⟨_, e, he, ?_, .inr htype⟩
  intro r hr
  obtain ⟨r₀, -, rfl⟩ := List.mem_map.1 hr
  rfl

section Device

variable (cfg : SecurityConfig) (now : Int) (data : CampaignData) (faults : String → Option Fault)

/-- One pass of the loop: the id is stored and the device is skipped, or a fault leaves only
failed rows, or one generated row is added. -/
theorem generateForDevice_cases (db : Db) (target : String × List String) :
    (data.manifestId target ∈ db.manifestIds ∧
      generateForDevice cfg now data faults db target = (db, .skipped)) ∨
    (data.manifestId target ∉ db.manifestIds ∧
      ∃ failed e, (generateForDevice cfg now data faults db target) =
          (db.extended failed [e] [], .failed) ∧
        (∀ r ∈ failed, r.status = .failed) ∧ e.aboutManifest) ∨
    (data.manifestId target ∉ db.manifestIds ∧
      ∃ version e, generateForDevice cfg now data faults db target =
          (db.extended [data.generatedRow cfg now version target] [e] [],
            .generated (data.manifestId target) (data.manifest cfg version target)) ∧
        e.aboutManifest) := by
  by_cases hid : data.manifestId target ∈ db.manifestIds
  · refine .inl ⟨hid, ?_⟩
    obtain ⟨m, hm, hmid⟩ := List.mem_map.1 hid
    unfold generateForDevice
    exact if_pos (List.any_eq_true.2 ⟨m, hm, decide_eq_true hmid⟩)
  · refine .inr ?_
    have hnew : ¬ (db.deliveryManifests.any (·.manifestId = data.manifestId target)) = true := by
      intro h
      obtain ⟨m, hm, hmid⟩ := List.any_eq_true.1 h
      exact hid (List.mem_map.2 ⟨m, hm, of_decide_eq_true hmid⟩)
    let version := getNextManifestVersionForDevice db target.1
    have hrecorded : createDeliveryManifestRecord db (data.record cfg version target) =
        db.extended [data.record cfg version target] [] [] := by
      unfold createDeliveryManifestRecord Db.extended
      simp
    have hmarked := markGenerated_new (data.record cfg version target) now
      (data.record cfg version target).contentHash hid rfl
    unfold generateForDevice
    rw [if_neg hnew]
    dsimp only
    cases hf : faults target.1 with
    | none =>
        have hevent : ∃ e, enqueueGenerated (db.extended
              [data.generatedRow cfg now version target] [] []) data.campaign.id
              (data.manifestId target) target.1 version =
            db.extended [data.generatedRow cfg now version target] [e] [] ∧ e.aboutManifest := by
          obtain ⟨e, he, htype, -⟩ := enqueueOutboxEvent_spec (db.extended
            [data.generatedRow cfg now version target] [] []) "delivery.manifest.generated"
            "campaign" data.campaign.id _ _ _
          exact ⟨e, he.trans (extended_extended db _ [] [] [e] [] []), .inl htype⟩
        obtain ⟨e, he, habout⟩ := hevent
        exact .inr ⟨hid, version, e, congrArg (·, _) (hmarked ▸ he), habout⟩
    | some fault =>
        -- all three places leave rows of this id only, none of them served
        refine .inl ⟨hid, ?_⟩
        cases fault with
        | building =>
            obtain ⟨failed, e, heq, hfailed, he⟩ :=
              failDevice_spec data.campaign.id target.1 []
                hid (by simp)
            rw [extended_nil] at heq
            exact ⟨failed, e, congrArg (·, _) heq, hfailed, he⟩
        | marking =>
            obtain ⟨failed, e, heq, hfailed, he⟩ :=
              failDevice_spec data.campaign.id target.1
                [data.record cfg version target] hid
                (fun r hr ↦ List.mem_singleton.1 hr ▸ ⟨rfl, .inl rfl⟩)
            exact ⟨failed, e, congrArg (·, _) (hrecorded ▸ heq), hfailed, he⟩
        | enqueueing =>
            obtain ⟨failed, e, heq, hfailed, he⟩ :=
              failDevice_spec data.campaign.id target.1
                [data.generatedRow cfg now version target] hid
                (fun r hr ↦ List.mem_singleton.1 hr ▸ ⟨rfl, .inr rfl⟩)
            exact ⟨failed, e, congrArg (·, _) (hmarked ▸ heq), hfailed, he⟩

/-- The loop adds failed rows, generated rows of its targets, and manifest events. -/
theorem generateLoop_extends (db : Db) (targets : List (String × List String)) :
    ∃ rows events,
      (Rows.sweep (generateForDevice cfg now data faults) db targets).1 =
        db.extended rows events [] ∧
      (∀ e ∈ events, e.aboutManifest) ∧
      ∀ r ∈ rows, r.status = .failed ∨
        ∃ version, ∃ t ∈ targets, r = data.generatedRow cfg now version t := by
  induction targets generalizing db with
  | nil => exact ⟨[], [], (extended_nil db).symm, by simp, by simp⟩
  | cons t targets ih =>
      rw [Rows.sweep_cons]
      obtain ⟨rows, events, heq, hevents, hrows⟩ :=
        ih (generateForDevice cfg now data faults db t).1
      have hrest : ∀ r ∈ rows, r.status = .failed ∨
          ∃ version, ∃ u ∈ t :: targets, r = data.generatedRow cfg now version u := by
        intro r hr
        refine (hrows r hr).imp_right fun ⟨version, u, hu, h⟩ ↦ ?_
        exact ⟨version, u, List.mem_cons_of_mem t hu, h⟩
      rcases generateForDevice_cases cfg now data faults db t with ⟨-, hskip⟩ |
        ⟨-, failed, e, hfail, hfailed, he⟩ | ⟨-, version, e, hnew, he⟩
      · rw [hskip] at heq ⊢
        exact ⟨rows, events, heq, hevents, hrest⟩
      · rw [hfail] at heq ⊢
        refine ⟨failed ++ rows, [e] ++ events, heq.trans (extended_extended db _ _ _ _ _ _), ?_, ?_⟩
        · exact List.forall_mem_append.2 ⟨fun x hx ↦ List.mem_singleton.1 hx ▸ he, hevents⟩
        · exact List.forall_mem_append.2 ⟨fun r hr ↦ .inl (hfailed r hr), hrest⟩
      · rw [hnew] at heq ⊢
        refine ⟨[_] ++ rows, [e] ++ events, heq.trans (extended_extended db _ _ _ _ _ _), ?_, ?_⟩
        · exact List.forall_mem_append.2 ⟨fun x hx ↦ List.mem_singleton.1 hx ▸ he, hevents⟩
        · refine List.forall_mem_append.2 ⟨fun r hr ↦ ?_, hrest⟩
          exact .inr ⟨version, t, List.mem_cons_self, List.mem_singleton.1 hr⟩

/-- A pass leaves the served rows of every other device alone. -/
theorem generateForDevice_other (db : Db) {t : String × List String} {deviceId : String}
    (h : t.1 ≠ deviceId) :
    (generateForDevice cfg now data faults db t).1.generatedManifests deviceId =
      db.generatedManifests deviceId := by
  rcases generateForDevice_cases cfg now data faults db t with ⟨-, hskip⟩ |
    ⟨-, failed, e, hfail, hfailed, -⟩ | ⟨-, version, e, hnew, -⟩
  · rw [hskip]
  · rw [hfail, generatedManifests_extended, List.filter_eq_nil_iff.2, List.append_nil]
    intro r hr
    simp [hfailed r hr]
  · rw [hnew, generatedManifests_extended, List.filter_eq_nil_iff.2, List.append_nil]
    intro r hr
    rw [List.mem_singleton.1 hr]
    simpa using fun hd ↦ absurd hd h

theorem generateLoop_other (db : Db) {targets : List (String × List String)} {deviceId : String}
    (h : deviceId ∉ targets.map (·.1)) :
    (Rows.sweep (generateForDevice cfg now data faults) db targets).1.generatedManifests deviceId =
      db.generatedManifests deviceId := by
  induction targets generalizing db with
  | nil => rfl
  | cons t targets ih =>
      rw [List.map_cons, List.mem_cons, not_or] at h
      rw [Rows.sweep_cons]
      exact (ih _ h.2).trans (generateForDevice_other cfg now data faults db (Ne.symm h.1))

/-- A pass that does not fail stores the target's id and no other new id. -/
theorem generateForDevice_ids (db : Db) (t : String × List String)
    (h : (generateForDevice cfg now data faults db t).2.isFailed = false) (id : String) :
    id ∈ (generateForDevice cfg now data faults db t).1.manifestIds ↔
      id ∈ db.manifestIds ∨ id = data.manifestId t := by
  rcases generateForDevice_cases cfg now data faults db t with ⟨hid, hskip⟩ |
    ⟨-, failed, e, hfail, -, -⟩ | ⟨-, version, e, hnew, -⟩
  · rw [hskip]
    exact ⟨.inl, fun h ↦ h.elim (fun h ↦ h) fun h ↦ h ▸ hid⟩
  · rw [hfail] at h
    cases h
  · rw [hnew]
    unfold Db.manifestIds Db.extended
    rw [List.map_append, List.mem_append]
    exact or_congr_right List.mem_singleton

theorem generateLoop_ids (db : Db) (targets : List (String × List String))
    (h : ∀ o ∈ (Rows.sweep (generateForDevice cfg now data faults) db targets).2,
      o.isFailed = false) (id : String) :
    id ∈ (Rows.sweep (generateForDevice cfg now data faults) db targets).1.manifestIds ↔
      id ∈ db.manifestIds ∨ id ∈ targets.map data.manifestId := by
  induction targets generalizing db with
  | nil => simp
  | cons t targets ih =>
      rw [Rows.sweep_cons] at h ⊢
      have hhead := h _ List.mem_cons_self
      have htail := fun o ho ↦ h o (List.mem_cons_of_mem _ ho)
      rw [List.map_cons, List.mem_cons, ← or_assoc,
        ← generateForDevice_ids cfg now data faults db t hhead]
      exact ih _ htail

/-- The target's id is stored when the loop comes to it: from before the call, or by a target
that comes first. -/
def CampaignData.Taken (data : CampaignData) (db : Db) (before : List (String × List String))
    (t : String × List String) : Prop :=
  data.manifestId t ∈ db.manifestIds ∨ data.manifestId t ∈ before.map data.manifestId

instance (data : CampaignData) (db : Db) (before : List (String × List String))
    (t : String × List String) : Decidable (data.Taken db before t) :=
  inferInstanceAs (Decidable (_ ∨ _))

/-- The rows that a device is served from after a loop without failures. -/
theorem generateLoop_generated (db : Db) {before after : List (String × List String)}
    {t : String × List String} (hnodup : ((before ++ t :: after).map (·.1)).Nodup)
    (h : ∀ o ∈ (Rows.sweep (generateForDevice cfg now data faults) db (before ++ t :: after)).2,
      o.isFailed = false) :
    (data.Taken db before t ∧
      (Rows.sweep (generateForDevice cfg now data faults) db
        (before ++ t :: after)).1.generatedManifests t.1 = db.generatedManifests t.1) ∨
    (¬ data.Taken db before t ∧ ∃ version,
      (Rows.sweep (generateForDevice cfg now data faults) db
        (before ++ t :: after)).1.generatedManifests t.1 =
        db.generatedManifests t.1 ++ [data.generatedRow cfg now version t]) := by
  rw [List.map_append, List.map_cons] at hnodup
  have hbefore : t.1 ∉ before.map (·.1) := fun hmem ↦
    (List.nodup_append.1 hnodup).2.2 _ hmem _ List.mem_cons_self rfl
  have hafter : t.1 ∉ after.map (·.1) :=
    (List.nodup_cons.1 (List.nodup_append.1 hnodup).2.1).1
  rw [Rows.sweep_append, Rows.sweep_cons] at h ⊢
  dsimp only at h ⊢
  rw [generateLoop_other cfg now data faults _ hafter]
  have hpre := generateLoop_ids cfg now data faults db before
    (fun o ho ↦ h o (List.mem_append_left _ ho)) (data.manifestId t)
  have hkept := generateLoop_other cfg now data faults db hbefore
  have ht := h _ (List.mem_append_right _ List.mem_cons_self)
  rcases generateForDevice_cases cfg now data faults
    (Rows.sweep (generateForDevice cfg now data faults) db before).1 t with
    ⟨hid, hskip⟩ | ⟨-, failed, e, hfail, -, -⟩ | ⟨hid, version, e, hnew, -⟩
  · refine .inl ⟨hpre.1 hid, ?_⟩
    rw [hskip]
    exact hkept
  · rw [hfail] at ht
    cases ht
  · refine .inr ⟨fun htaken ↦ hid (hpre.2 htaken), version, ?_⟩
    rw [hnew, generatedManifests_extended, hkept]
    congr 1
    exact List.filter_eq_self.2 fun r hr ↦ List.mem_singleton.1 hr ▸ by simp

end Device

/-! ## The whole call -/

/-- What a call for the campaign works on. -/
def Db.campaignData (db : Db) (campaignId : String) : Option CampaignData :=
  (db.campaign campaignId).map fun c ↦ loadCampaignData db c (resolveTargets db campaignId)

theorem campaignData_campaign {db : Db} {campaignId : String} {data : CampaignData}
    (h : db.campaignData campaignId = some data) : data.campaign.id = campaignId := by
  obtain ⟨c, hc, rfl⟩ := Option.map_eq_some_iff.1 h
  exact Rows.get_key hc

theorem campaignData_rows {db : Db} {campaignId : String} {data : CampaignData}
    (h : db.campaignData campaignId = some data) :
    data.creativeAssetRows = db.creativeAssetRows campaignId := by
  obtain ⟨c, hc, rfl⟩ := Option.map_eq_some_iff.1 h
  exact congrArg db.creativeAssetRows (Rows.get_key hc)

variable (cfg : SecurityConfig) {db : Db} {now : Int} {campaignId : String}
  (faults : String → Option Fault)

/-- The result of a call that runs the loop. -/
theorem generate_loop {c : Campaign} (helig : (checkEligibility db now campaignId).eligible = true)
    (htargets : (resolveTargets db campaignId).deviceSurfaces ≠ [])
    (hc : db.campaign campaignId = some c) :
    ∃ plans, generateManifestsForCampaign cfg db now campaignId faults =
      ((Rows.sweep (generateForDevice cfg now (loadCampaignData db c (resolveTargets db campaignId))
          faults) db (resolveTargets db campaignId).deviceSurfaces).1.extended [] [] plans,
        generationResult campaignId (resolveTargets db campaignId)
          (Rows.sweep (generateForDevice cfg now
            (loadCampaignData db c (resolveTargets db campaignId)) faults) db
            (resolveTargets db campaignId).deviceSurfaces).2) := by
  unfold generateManifestsForCampaign
  dsimp only
  rw [if_neg (not_not.2 helig), if_neg htargets, hc]
  dsimp only
  split
  · obtain ⟨plans, hplans⟩ := createDeliveryPlan_extends _ campaignId _ _
    exact ⟨plans, congrArg (·, _) hplans⟩
  · exact ⟨[], congrArg (·, _) (extended_nil _).symm⟩

theorem generate_ineligible (helig : (checkEligibility db now campaignId).eligible = false) :
    (generateManifestsForCampaign cfg db now campaignId faults).1 = db ∧
      (generateManifestsForCampaign cfg db now campaignId faults).2.eligible = false := by
  unfold generateManifestsForCampaign
  dsimp only
  rw [helig, if_pos (by decide)]
  exact ⟨rfl, rfl⟩

/-- Nothing but the eligibility check makes a call ineligible. -/
theorem generate_eligible : (generateManifestsForCampaign cfg db now campaignId faults).2.eligible =
    (checkEligibility db now campaignId).eligible := by
  cases helig : (checkEligibility db now campaignId).eligible with
  | false => exact (generate_ineligible cfg faults helig).2
  | true =>
      obtain ⟨⟨c, hc, -⟩, -⟩ := checkEligibility_eligible helig
      by_cases htargets : (resolveTargets db campaignId).deviceSurfaces = []
      · unfold generateManifestsForCampaign
        dsimp only
        rw [helig, if_neg (by decide), if_pos htargets]
      · obtain ⟨plans, hgen⟩ := generate_loop cfg faults helig htargets hc
        rw [hgen]
        rfl

/-- Without faults no device fails. -/
theorem generate_faultless (hfaults : ∀ deviceId, faults deviceId = none) :
    (generateManifestsForCampaign cfg db now campaignId faults).2.failureCount = 0 := by
  have hdevice : ∀ data d t, (generateForDevice cfg now data faults d t).2.isFailed = false := by
    intro data d t
    unfold generateForDevice
    dsimp only
    split
    · rfl
    · rw [hfaults]
      rfl
  have hloop : ∀ data targets, (Rows.sweep (generateForDevice cfg now data faults) db
      targets).2.map (·.isFailed) = targets.map fun _ ↦ false := by
    intro data targets
    exact Rows.sweep_column (I := fun _ ↦ True) (fun d t _ _ ↦ ⟨trivial, hdevice data d t⟩) trivial
  cases helig : (checkEligibility db now campaignId).eligible with
  | false =>
      unfold generateManifestsForCampaign
      dsimp only
      rw [helig, if_pos (by decide)]
  | true =>
      obtain ⟨⟨c, hc, -⟩, -⟩ := checkEligibility_eligible helig
      by_cases htargets : (resolveTargets db campaignId).deviceSurfaces = []
      · unfold generateManifestsForCampaign
        dsimp only
        rw [helig, if_neg (by decide), if_pos htargets]
      · obtain ⟨plans, hgen⟩ := generate_loop cfg faults helig htargets hc
        rw [hgen]
        apply List.countP_eq_zero.2
        intro o ho
        have hmem : o.isFailed ∈ (resolveTargets db campaignId).deviceSurfaces.map
            fun _ ↦ false := hloop _ _ ▸ List.mem_map_of_mem ho
        obtain ⟨t, -, hfalse⟩ := List.mem_map.1 hmem
        rw [← hfalse]
        exact Bool.false_ne_true

/-- A call adds failed rows, generated rows of its targets when the campaign is eligible, and
manifest events; it changes nothing else. -/
theorem generate_extends (cfg : SecurityConfig) (db : Db) (now : Int) (campaignId : String)
    (faults : String → Option Fault) :
    ∃ rows events plans,
      (generateManifestsForCampaign cfg db now campaignId faults).1 =
        db.extended rows events plans ∧
      (∀ e ∈ events, e.aboutManifest) ∧
      ∀ r ∈ rows, r.status = .failed ∨
        (checkEligibility db now campaignId).eligible = true ∧
          ∃ data, db.campaignData campaignId = some data ∧
            ∃ version, ∃ t ∈ (resolveTargets db campaignId).deviceSurfaces,
              r = data.generatedRow cfg now version t := by
  cases helig : (checkEligibility db now campaignId).eligible with
  | false =>
      rw [(generate_ineligible cfg faults helig).1]
      exact ⟨[], [], [], (extended_nil db).symm, by simp, by simp⟩
  | true =>
      obtain ⟨⟨c, hc, -⟩, -⟩ := checkEligibility_eligible helig
      by_cases htargets : (resolveTargets db campaignId).deviceSurfaces = []
      · unfold generateManifestsForCampaign
        dsimp only
        rw [helig, if_neg (by decide), if_pos htargets]
        obtain ⟨e, he, htype, -⟩ := enqueueOutboxEvent_spec db "delivery.manifest.failed" "campaign"
          campaignId (.obj [("campaign_id", .str campaignId),
            ("reason", .str "No targets resolved to active surfaces/devices")]) (.obj []) none
        exact ⟨[], [e], [], he, fun x hx ↦ List.mem_singleton.1 hx ▸ .inr htype, by simp⟩
      · obtain ⟨plans, hgen⟩ := generate_loop cfg faults helig htargets hc
        obtain ⟨rows, events, hloop, hevents, hrows⟩ := generateLoop_extends cfg now
          (loadCampaignData db c (resolveTargets db campaignId)) faults db
          (resolveTargets db campaignId).deviceSurfaces
        rw [hgen, hloop, extended_extended, List.append_nil, List.append_nil]
        refine ⟨rows, events, _, rfl, hevents, fun r hr ↦ (hrows r hr).imp_right ?_⟩
        rintro ⟨version, t, ht, h⟩
        exact ⟨rfl, _, congrArg (Option.map _) hc, version, t, ht, h⟩

/-- A call that succeeds for every device is its loop, without failures, and a plan. -/
theorem generate_succeeded
    (helig : (generateManifestsForCampaign cfg db now campaignId faults).2.eligible = true)
    (hfail : (generateManifestsForCampaign cfg db now campaignId faults).2.failureCount = 0)
    (hne : (resolveTargets db campaignId).deviceSurfaces ≠ []) :
    ∃ data plans, db.campaignData campaignId = some data ∧
      (generateManifestsForCampaign cfg db now campaignId faults).1 =
        (Rows.sweep (generateForDevice cfg now data faults) db
          (resolveTargets db campaignId).deviceSurfaces).1.extended [] [] plans ∧
      ∀ o ∈ (Rows.sweep (generateForDevice cfg now data faults) db
        (resolveTargets db campaignId).deviceSurfaces).2, o.isFailed = false := by
  have hcheck : (checkEligibility db now campaignId).eligible = true := by
    cases h : (checkEligibility db now campaignId).eligible with
    | true => rfl
    | false =>
        rw [(generate_ineligible cfg faults h).2] at helig
        cases helig
  obtain ⟨⟨c, hc, -⟩, -⟩ := checkEligibility_eligible hcheck
  obtain ⟨plans, hgen⟩ := generate_loop cfg faults hcheck hne hc
  rw [hgen] at hfail ⊢
  have hok := List.countP_eq_zero.1 hfail
  exact ⟨_, plans, congrArg (Option.map _) hc, rfl, fun o ho ↦ Bool.eq_false_iff.2 (hok o ho)⟩

/-- After a call without failures, a target is served from the rows it had if its id was taken,
and from one new row besides if not. -/
theorem generate_target {before after : List (String × List String)} {t : String × List String}
    (helig : (generateManifestsForCampaign cfg db now campaignId faults).2.eligible = true)
    (hfail : (generateManifestsForCampaign cfg db now campaignId faults).2.failureCount = 0)
    (htargets : (resolveTargets db campaignId).deviceSurfaces = before ++ t :: after) :
    ∃ data, db.campaignData campaignId = some data ∧
      ((data.Taken db before t ∧
        (generateManifestsForCampaign cfg db now campaignId faults).1.generatedManifests t.1 =
          db.generatedManifests t.1) ∨
      (¬ data.Taken db before t ∧ ∃ version,
        (generateManifestsForCampaign cfg db now campaignId faults).1.generatedManifests t.1 =
          db.generatedManifests t.1 ++ [data.generatedRow cfg now version t])) := by
  have hne : (resolveTargets db campaignId).deviceSurfaces ≠ [] := by
    rw [htargets]
    exact List.append_ne_nil_of_right_ne_nil _ (List.cons_ne_nil _ _)
  obtain ⟨data, plans, hdata, hgen, hok⟩ := generate_succeeded cfg faults helig hfail hne
  have hnodup := resolveTargets_nodup db campaignId
  rw [htargets] at hgen hok hnodup
  refine ⟨data, hdata, ?_⟩
  rw [hgen, generatedManifests_extended, List.filter_nil, List.append_nil]
  exact generateLoop_generated cfg now data faults db hnodup hok

end RetailMedia
