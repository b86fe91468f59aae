import RetailMedia.Delivery.Freshness

/-! Campaigns that share a device: which of them its one manifest carries, after a generation
call for each. -/

namespace RetailMedia

/-! ## Calls in an order -/

structure GenerationCall where
  now : Int
  campaignId : String
  faults : String → Option Fault

def generateCall (cfg : SecurityConfig) (db : Db) (call : GenerationCall) :
    Db × ManifestGenerationResult :=
  generateManifestsForCampaign cfg db call.now call.campaignId call.faults

def generateInOrder (cfg : SecurityConfig) (db : Db) (calls : List GenerationCall) :
    Db × List ManifestGenerationResult :=
  Rows.sweep (generateCall cfg) db calls

/-- The calls come after `clock` at increasing times, are for campaigns on the device, and
succeed. -/
structure SuccessfulCalls (cfg : SecurityConfig) (db : Db) (clock : Int) (deviceId : String)
    (calls : List GenerationCall) : Prop where
  times : (clock :: calls.map (·.now)).Pairwise (· < ·)
  targets : ∀ call ∈ calls, deviceId ∈ db.targetDevices call.campaignId
  succeeded : ∀ r ∈ (generateInOrder cfg db calls).2, r.eligible = true ∧ r.failureCount = 0

/-- The device's playlist has every deliverable asset of every one of the campaigns. -/
def ServesEvery (cfg : SecurityConfig) (db : Db) (deviceId : String) (campaignIds : List String) :
    Prop :=
  ∀ campaignId ∈ campaignIds, ∀ assetId ∈ db.deliverableAssetIds campaignId,
    ∃ manifest, getLatestManifestForDevice cfg db deviceId = some manifest ∧
      assetId ∈ manifest.assetIds

/-! ## The campaign whose manifest is the last one written -/

/-- The manifest ids that a call for the campaign computes, each with its device. -/
def Db.deviceManifestIds (db : Db) (campaignId : String) : List (String × String) :=
  match db.campaignData campaignId with
  | none => []
  | some data =>
      (resolveTargets db campaignId).deviceSurfaces.map fun t ↦ (t.1, data.manifestId t)

/-- The id for the device is stored, or calls for `earlier` campaigns compute it, or the
campaign's own call does for a device that comes first. -/
def Db.Skips (db : Db) (deviceId : String) (earlier : List String) (campaignId : String) : Prop :=
  ∃ e ∈ db.deviceManifestIds campaignId, e.1 = deviceId ∧
    (e.2 ∈ db.manifestIds ∨ e.2 ∈ (earlier.flatMap db.deviceManifestIds).map (·.2) ∨
      e.2 ∈ ((db.deviceManifestIds campaignId).takeWhile (·.1 ≠ deviceId)).map (·.2))

instance (db : Db) (deviceId : String) (earlier : List String) (campaignId : String) :
    Decidable (db.Skips deviceId earlier campaignId) :=
  inferInstanceAs (Decidable (∃ _ ∈ _, _ ∧ _))

/-- The last campaign of the order that is not skipped for the device. -/
def Db.lastWriter (db : Db) (deviceId : String) (earlier : List String) :
    List String → Option String
  | [] => none
  | c :: later =>
      (db.lastWriter deviceId (c :: earlier) later).or
        (if db.Skips deviceId earlier c then none else some c)

def Db.carriedIds (db : Db) (deviceId : String) : List String :=
  ((db.latestManifest deviceId).map fun m ↦ m.assets.map (·.creativeAssetId)).getD []

/-- What one manifest carries: the assets of the last writer, or what the device had. -/
def Db.lastContent (db : Db) (deviceId : String) (campaignIds : List String) : List String :=
  match db.lastWriter deviceId [] campaignIds with
  | some w => db.deliverableAssetIds w
  | none => db.carriedIds deviceId

/-- One campaign of the order, or what the device had, carries the assets of all of them. -/
def LastCoversEvery (db : Db) (deviceId : String) (campaignIds : List String) : Prop :=
  ∀ campaignId ∈ campaignIds, ∀ assetId ∈ db.deliverableAssetIds campaignId,
    assetId ∈ db.lastContent deviceId campaignIds

instance (db : Db) (deviceId : String) (campaignIds : List String) :
    Decidable (LastCoversEvery db deviceId campaignIds) := inferInstanceAs (Decidable (∀ _ ∈ _, _))

/-! ## One call -/

theorem mem_carriedIds {cfg : SecurityConfig} {db : Db} {deviceId assetId : String} :
    assetId ∈ db.carriedIds deviceId ↔
      ∃ manifest, getLatestManifestForDevice cfg db deviceId = some manifest ∧
        assetId ∈ manifest.assetIds := by
  unfold Db.carriedIds getLatestManifestForDevice
  cases db.latestManifest deviceId with
  | none => simp
  | some m => simp [signed_assetIds, servedPayload_assetIds]

theorem skips_iff {db : Db} {campaignId : String} {data : CampaignData} (earlier : List String)
    {before after : List (String × List String)} {t : String × List String}
    (hdata : db.campaignData campaignId = some data)
    (htargets : (resolveTargets db campaignId).deviceSurfaces = before ++ t :: after) :
    db.Skips t.1 earlier campaignId ↔ data.Taken db before t ∨
      data.manifestId t ∈ (earlier.flatMap db.deviceManifestIds).map (·.2) := by
  have hnodup := resolveTargets_nodup db campaignId
  rw [htargets, List.map_append, List.map_cons] at hnodup
  have hbefore : ∀ u ∈ before, u.1 ≠ t.1 := fun u hu heq ↦
    (List.nodup_append.1 hnodup).2.2 _ (List.mem_map_of_mem hu) _ List.mem_cons_self heq
  have hafter : ∀ u ∈ after, u.1 ≠ t.1 := fun u hu heq ↦
    (List.nodup_cons.1 (List.nodup_append.1 hnodup).2.1).1 (heq ▸ List.mem_map_of_mem hu)
  have hids : db.deviceManifestIds campaignId =
      (before.map fun u ↦ (u.1, data.manifestId u)) ++ (t.1, data.manifestId t) ::
        after.map fun u ↦ (u.1, data.manifestId u) := by
    unfold Db.deviceManifestIds
    rw [hdata, htargets]
    simp
  -- the pairs before the device's own are those of `before`
  have hfirst : (db.deviceManifestIds campaignId).takeWhile (·.1 ≠ t.1) =
      before.map fun u ↦ (u.1, data.manifestId u) := by
    rw [hids, List.takeWhile_append_of_pos]
    · simp
    · intro e he
      obtain ⟨u, hu, rfl⟩ := List.mem_map.1 he
      exact decide_eq_true (hbefore u hu)
  unfold Db.Skips CampaignData.Taken
  rw [hfirst, List.map_map]
  show (∃ e ∈ db.deviceManifestIds campaignId,
    e.1 = t.1 ∧ (_ ∨ _ ∨ e.2 ∈ before.map data.manifestId)) ↔ _
  constructor
  · rintro ⟨e, he, heq, h⟩
    have hown : e = (t.1, data.manifestId t) := by
      rw [hids] at he
      rcases List.mem_append.1 he with he | he
      · obtain ⟨u, hu, rfl⟩ := List.mem_map.1 he
        exact absurd heq (hbefore u hu)
      · rcases List.mem_cons.1 he with he | he
        · exact he
        · obtain ⟨u, hu, rfl⟩ := List.mem_map.1 he
          exact absurd heq (hafter u hu)
    rw [hown] at h
    rcases h with h | h | h
    · exact .inl (.inl h)
    · exact .inr h
    · exact .inl (.inr h)
  · intro h
    refine ⟨(t.1, data.manifestId t), hids ▸ by simp, rfl, ?_⟩
    rcases h with (h | h) | h
    · exact .inl h
    · exact .inr (.inr h)
    · exact .inr (.inl h)

/-- A call that succeeds for every device stores the ids that it computes, and no others. -/
theorem generate_ids (cfg : SecurityConfig) {db : Db} {now : Int} {campaignId : String}
    (faults : String → Option Fault)
    (helig : (generateManifestsForCampaign cfg db now campaignId faults).2.eligible = true)
    (hfail : (generateManifestsForCampaign cfg db now campaignId faults).2.failureCount = 0)
    (hne : (resolveTargets db campaignId).deviceSurfaces ≠ []) (id : String) :
    id ∈ (generateManifestsForCampaign cfg db now campaignId faults).1.manifestIds ↔
      id ∈ db.manifestIds ∨ id ∈ (db.deviceManifestIds campaignId).map (·.2) := by
  obtain ⟨data, plans, hdata, hgen, hok⟩ := generate_succeeded cfg faults helig hfail hne
  have hloop := generateLoop_ids cfg now data faults db
    (resolveTargets db campaignId).deviceSurfaces hok id
  have hids : (db.deviceManifestIds campaignId).map (·.2) =
      (resolveTargets db campaignId).deviceSurfaces.map data.manifestId := by
    unfold Db.deviceManifestIds
    rw [hdata]
    simp
  rw [hgen, hids, ← hloop]
  unfold Db.manifestIds Db.extended
  rw [List.append_nil]

/-- After a call for a campaign on the device, the device is served the campaign's content, or
what it was served if the call skips it. -/
theorem generate_carried {cfg : SecurityConfig} {s : DeliveryState} {call : GenerationCall}
    {deviceId : String} (h : Stamped s) (hnow : s.clock < call.now)
    (htarget : deviceId ∈ s.db.targetDevices call.campaignId)
    (hok : (generateCall cfg s.db call).2.eligible = true ∧
      (generateCall cfg s.db call).2.failureCount = 0) :
    (generateCall cfg s.db call).1.carriedIds deviceId =
      if s.db.Skips deviceId [] call.campaignId then s.db.carriedIds deviceId
      else s.db.deliverableAssetIds call.campaignId := by
  obtain ⟨t, ht, rfl⟩ := List.mem_map.1 htarget
  obtain ⟨before, after, htargets⟩ := List.append_of_mem ht
  obtain ⟨data, hdata, hcases⟩ := generate_target cfg call.faults hok.1 hok.2 htargets
  have hskips := skips_iff [] hdata htargets
  simp only [List.flatMap_nil, List.map_nil, List.not_mem_nil, or_false] at hskips
  rcases hcases with ⟨htaken, hsame⟩ | ⟨hnot, version, hnew⟩
  · rw [if_pos (hskips.2 htaken)]
    have hlatest : (generateCall cfg s.db call).1.latestManifest t.1 = s.db.latestManifest t.1 :=
      congrArg (Rows.newest _) hsame
    unfold Db.carriedIds
    rw [hlatest]
  · rw [if_neg fun hskip ↦ hnot (hskips.1 hskip)]
    have hlatest : (generateCall cfg s.db call).1.latestManifest t.1 =
        some (data.generatedRow cfg call.now version t) :=
      latestManifest_new h hnow (generatedRow_generatedAt data cfg call.now version t) hnew
    unfold Db.carriedIds
    rw [hlatest]
    show (data.creativeAssetRows.map assetRecord).map (·.creativeAssetId) = _
    rw [campaignData_rows hdata, List.map_map]
    rfl

/-! ## All calls -/

section Extended

variable {db : Db} {rows : List DeliveryManifest} {events : List OutboxEvent}
  {plans : List DeliveryPlan}

/-- A call of the order counts as an earlier one for those after it. -/
theorem skips_extended {first : String}
    (hids : ∀ id, id ∈ (db.extended rows events plans).manifestIds ↔
      id ∈ db.manifestIds ∨ id ∈ (db.deviceManifestIds first).map (·.2))
    (deviceId : String) (earlier : List String) (campaignId : String) :
    (db.extended rows events plans).Skips deviceId earlier campaignId ↔
      db.Skips deviceId (earlier ++ [first]) campaignId := by
  have hsame : (db.extended rows events plans).deviceManifestIds = db.deviceManifestIds := rfl
  unfold Db.Skips
  simp only [hsame, hids, List.flatMap_append, List.flatMap_singleton, List.map_append,
    List.mem_append]
  refine exists_congr fun e ↦ and_congr_right fun _ ↦ and_congr_right fun _ ↦ ?_
  tauto

theorem lastWriter_extended {first : String}
    (hids : ∀ id, id ∈ (db.extended rows events plans).manifestIds ↔
      id ∈ db.manifestIds ∨ id ∈ (db.deviceManifestIds first).map (·.2))
    (deviceId : String) (earlier later : List String) :
    (db.extended rows events plans).lastWriter deviceId earlier later =
      db.lastWriter deviceId (earlier ++ [first]) later := by
  induction later generalizing earlier with
  | nil => rfl
  | cons c later ih =>
      unfold Db.lastWriter
      rw [ih (c :: earlier)]
      simp only [skips_extended hids deviceId earlier c]
      rfl

end Extended

theorem generateInOrder_deliverable (cfg : SecurityConfig) (db : Db)
    (calls : List GenerationCall) :
    (generateInOrder cfg db calls).1.deliverableAssetIds = db.deliverableAssetIds := by
  refine Rows.sweep_state (I := fun d : Db ↦ d.deliverableAssetIds = db.deliverableAssetIds)
    (fun d call hd ↦ ?_) calls rfl
  obtain ⟨rows, events, plans, heq, -, -⟩ :=
    generate_extends cfg d call.now call.campaignId call.faults
  have hdb : (generateCall cfg d call).1 = d.extended rows events plans := heq
  rw [hdb]
  exact hd

/-- The run lemma: after the calls of an order, the device is served what its last writer
carries. -/
theorem generateInOrder_carried {cfg : SecurityConfig} {s : DeliveryState} {deviceId : String}
    {calls : List GenerationCall} (hstamped : Stamped s)
    (h : SuccessfulCalls cfg s.db s.clock deviceId calls) :
    (generateInOrder cfg s.db calls).1.carriedIds deviceId =
      s.db.lastContent deviceId (calls.map (·.campaignId)) := by
  induction calls generalizing s with
  | nil => rfl
  | cons call calls ih =>
      have hnow : s.clock < call.now := List.rel_of_pairwise_cons h.times List.mem_cons_self
      have htarget := h.targets call List.mem_cons_self
      have hok := h.succeeded (generateCall cfg s.db call).2 List.mem_cons_self
      have hcarried := generate_carried hstamped hnow htarget hok
      have hne : (resolveTargets s.db call.campaignId).deviceSurfaces ≠ [] := by
        intro hnil
        unfold Db.targetDevices at htarget
        rw [hnil] at htarget
        cases htarget
      have hids := generate_ids cfg call.faults hok.1 hok.2 hne
      have hnext := hstamped.generate cfg hnow call.campaignId call.faults
      obtain ⟨rows, events, plans, heq, -, -⟩ :=
        generate_extends cfg s.db call.now call.campaignId call.faults
      have hdb : (generateCall cfg s.db call).1 = s.db.extended rows events plans := heq
      rw [heq] at hids hnext
      have hrest :
          SuccessfulCalls cfg (s.db.extended rows events plans) call.now deviceId calls := by
        constructor
        · exact (List.pairwise_cons.1 h.times).2
        · exact fun c hc ↦ h.targets c (List.mem_cons_of_mem call hc)
        · exact fun r hr ↦ h.succeeded r (List.mem_cons_of_mem _ (hdb ▸ hr))
      have hafter := ih hnext hrest
      show (generateInOrder cfg (generateCall cfg s.db call).1 calls).1.carriedIds deviceId = _
      rw [hdb] at hcarried ⊢
      rw [hafter]
      unfold Db.lastContent
      rw [lastWriter_extended hids, List.map_cons, Db.lastWriter, List.nil_append]
      -- a writer among the later campaigns, or the first campaign, or none
      cases s.db.lastWriter deviceId [call.campaignId] (calls.map (·.campaignId)) with
      | some w => rfl
      | none =>
          rw [Option.none_or]
          show (s.db.extended rows events plans).carriedIds deviceId = _
          rw [hcarried]
          split
          · rfl
          · rfl

/-- After successful calls for the campaigns of a device, in any order, the device is served all
their assets exactly if the last campaign that was not skipped has all of them. -/
theorem servesEvery_iff (cfg : SecurityConfig) (db : Db) (clock : Int) (deviceId : String)
    (calls : List GenerationCall) (hstamped : Stamped ⟨db, clock⟩)
    (h : SuccessfulCalls cfg db clock deviceId calls) :
    ServesEvery cfg (generateInOrder cfg db calls).1 deviceId (calls.map (·.campaignId)) ↔
      LastCoversEvery db deviceId (calls.map (·.campaignId)) := by
  have hcarried := generateInOrder_carried hstamped h
  have hsame : (generateInOrder cfg db calls).1.deliverableAssetIds = db.deliverableAssetIds :=
    generateInOrder_deliverable cfg db calls
  unfold ServesEvery LastCoversEvery
  rw [hsame, ← hcarried]
  refine forall_congr' fun c ↦ forall_congr' fun _ ↦ forall_congr' fun assetId ↦
    forall_congr' fun _ ↦ mem_carriedIds.symm

/-- Calls without faults succeed for campaigns that are eligible before the first of them: what
they write is not part of the eligibility. -/
theorem SuccessfulCalls.of_faultless {cfg : SecurityConfig} {db : Db} {clock : Int}
    {deviceId : String} {calls : List GenerationCall}
    (htimes : (clock :: calls.map (·.now)).Pairwise (· < ·))
    (htargets : ∀ call ∈ calls, deviceId ∈ db.targetDevices call.campaignId)
    (heligible : ∀ call ∈ calls, (checkEligibility db call.now call.campaignId).eligible = true)
    (hfaults : ∀ call ∈ calls, ∀ d, call.faults d = none) :
    SuccessfulCalls cfg db clock deviceId calls := by
  refine ⟨htimes, htargets, ?_⟩
  have hresults : (generateInOrder cfg db calls).2.map (fun r ↦ (r.eligible, r.failureCount)) =
      calls.map fun _ ↦ (true, 0) := by
    apply Rows.sweep_column (I := fun d ↦ ∃ rows events plans, d = db.extended rows events plans)
    · intro d call hcall hd
      obtain ⟨rows, events, plans, rfl⟩ := hd
      obtain ⟨rows', events', plans', heq, -, -⟩ := generate_extends cfg
        (db.extended rows events plans) call.now call.campaignId call.faults
      constructor
      · exact ⟨_, _, _, heq.trans (extended_extended db _ _ _ _ _ _)⟩
      · exact Prod.ext ((generate_eligible cfg call.faults).trans (heligible call hcall))
          (generate_faultless cfg call.faults (hfaults call hcall))
    · exact ⟨[], [], [], (extended_nil db).symm⟩
  intro r hr
  have hmem := List.mem_map_of_mem (f := fun r ↦ (r.eligible, r.failureCount)) hr
  rw [hresults] at hmem
  obtain ⟨_, -, hpair⟩ := List.mem_map.1 hmem
  exact ⟨(congrArg Prod.fst hpair).symm, (congrArg Prod.snd hpair).symm⟩

/-! Campaign `b` has one of the two assets of campaign `a`, on the same device. -/

def sharedDb : Db := { demoDeliveryDb with
  campaigns := demoDeliveryDb.campaigns ++ [{
    id := "b", advertiserOrganizationId := "o1", advertiserContractId := "k1", code := "B"
    status := .approved }]
  campaignFlights := demoDeliveryDb.campaignFlights ++
    [{ id := "f2", campaignId := "b", startAt := 0, endAt := 1000000 }]
  campaignPlacements := demoDeliveryDb.campaignPlacements ++
    [{ id := "p2", campaignId := "b", displaySurfaceId := some "s1" }]
  campaignCreatives := demoDeliveryDb.campaignCreatives ++
    [{ campaignId := "b", creativeAssetId := "y" }] }

def callsInOrder (first second : String) : List GenerationCall :=
  [⟨1, first, fun _ ↦ none⟩, ⟨2, second, fun _ ↦ none⟩]

theorem sharedDb_stamped : Stamped ⟨sharedDb, 0⟩ := fun _ hm ↦ absurd hm List.not_mem_nil

theorem callsInOrder_faultless (first second : String) :
    ∀ call ∈ callsInOrder first second, ∀ d, call.faults d = none := by
  intro call hcall d
  unfold callsInOrder at hcall
  rcases List.mem_pair.1 hcall with rfl | rfl
  · rfl
  · rfl

theorem calls_ab : SuccessfulCalls {} sharedDb 0 "d1" (callsInOrder "a" "b") :=
  .of_faultless (by decide) (by decide +kernel) (by decide +kernel) (callsInOrder_faultless "a" "b")

theorem calls_ba : SuccessfulCalls {} sharedDb 0 "d1" (callsInOrder "b" "a") :=
  .of_faultless (by decide) (by decide +kernel) (by decide +kernel) (callsInOrder_faultless "b" "a")

theorem ab_not_covered : ¬ "x" ∈ (generateInOrder {} sharedDb (callsInOrder "a" "b")).1.carriedIds
    "d1" := by
  decide +kernel

theorem second_campaign_replaces_first :
    ¬ ∀ (cfg : SecurityConfig) (db : Db) (clock : Int) (deviceId : String)
      (calls : List GenerationCall), Stamped ⟨db, clock⟩ →
      SuccessfulCalls cfg db clock deviceId calls → (calls.map (·.campaignId)).Nodup →
      ServesEvery cfg (generateInOrder cfg db calls).1 deviceId (calls.map (·.campaignId)) := by
  intro h
  have hserves := h {} sharedDb 0 "d1" (callsInOrder "a" "b") sharedDb_stamped calls_ab (by decide)
  have hx :
      "x" ∈ (generateInOrder {} sharedDb (callsInOrder "a" "b")).1.deliverableAssetIds "a" := by
    rw [generateInOrder_deliverable]
    decide
  exact ab_not_covered (mem_carriedIds.2 (hserves "a" List.mem_cons_self "x" hx))

theorem covering_campaign_last :
    ServesEvery {} (generateInOrder {} sharedDb (callsInOrder "b" "a")).1 "d1" ["b", "a"] :=
  (servesEvery_iff {} sharedDb 0 "d1" (callsInOrder "b" "a") sharedDb_stamped calls_ba).2
    (by decide +kernel)

end RetailMedia
