import RetailMedia.Delivery.Pipeline

/-! Whether a paused or completed campaign is still served once its event has been handled. -/

namespace RetailMedia

/-- The device is served the campaign: its latest generated manifest is one of the campaign. -/
def Db.Serves (db : Db) (deviceId campaignId : String) : Prop :=
  ∃ m, db.latestManifest deviceId = some m ∧ m.campaignId = campaignId

def Db.NotServed (db : Db) (campaignId : String) : Prop :=
  ∀ deviceId, ¬ db.Serves deviceId campaignId

/-- Campaigns whose pause or completion has been handled are not served. -/
def StopsHonoured (s : PipelineState) : Prop :=
  ∀ eventId ∈ s.handled, ∀ e, s.db.outboxEvent eventId = some e → e.Stops →
    s.db.NotServed e.aggregateId

/-- When the event of a stop is handled, no device is served its campaign. -/
def StopsUnserved (s : PipelineState) (a : PipelineStep) : Prop :=
  ∀ eventId faults interrupted, a.op = .handle eventId faults interrupted →
    ∀ e, s.db.outboxEvent eventId = some e → e.Stops → s.db.NotServed e.aggregateId

/-- Announced stops are about stopped campaigns, and what was handled is in the outbox. -/
structure StopsAnnounced (s : PipelineState) : Prop where
  stopped : ∀ e ∈ s.db.outboxEvents, e.Stops → s.db.Stopped e.aggregateId
  handled : ∀ eventId ∈ s.handled, eventId ∈ s.db.outboxEvents.map (·.id)

/-! ## What a step adds to the outbox -/

theorem outboxEvent_extended {db : Db} {m : List DeliveryManifest} {events : List OutboxEvent}
    {p : List DeliveryPlan} {eventId : Nat} (h : eventId ∈ db.outboxEvents.map (·.id)) :
    (db.extended m events p).outboxEvent eventId = db.outboxEvent eventId := by
  have hsome := Rows.get_isSome.2 h
  unfold Db.outboxEvent Db.extended
  dsimp only
  rw [Rows.get_append]
  cases hget : Rows.get (·.id) eventId db.outboxEvents with
  | none =>
      rw [hget] at hsome
      cases hsome
  | some e => rfl

theorem aboutManifest_not_stops {e : OutboxEvent} (h : e.aboutManifest) : ¬ e.Stops := by
  unfold OutboxEvent.Stops
  rcases h with h | h
  · rw [h]
    decide
  · rw [h]
    decide

theorem delivery_not_stops {e : OutboxEvent} (h : e.eventType ∈ deliveryEventTypes) :
    ¬ e.Stops := by
  rintro (hstop | hstop)
  · rw [hstop] at h
    exact absurd h (by decide)
  · rw [hstop] at h
    exact absurd h (by decide)

/-- The invariant, over a step that appends events. -/
theorem StopsAnnounced.extend {s : PipelineState} (h : StopsAnnounced s) {db' : Db}
    {events : List OutboxEvent} (hout : db'.outboxEvents = s.db.outboxEvents ++ events)
    (hstopped : ∀ campaignId, s.db.Stopped campaignId → db'.Stopped campaignId)
    (hevents : ∀ e ∈ events, e.Stops → db'.Stopped e.aggregateId) {handled : List Nat}
    (hhandled : ∀ eventId ∈ handled, eventId ∈ s.handled ∨
      (s.db.outboxEvent eventId).isSome) :
    StopsAnnounced { db := db', handled := handled } := by
  constructor
  · intro e he hstop
    rw [hout] at he
    rcases List.mem_append.1 he with he | he
    · exact hstopped _ (h.stopped e he hstop)
    · exact hevents e he hstop
  · intro eventId hid
    rw [hout, List.map_append, List.mem_append]
    rcases hhandled eventId hid with hold | hnew
    · exact .inl (h.handled eventId hold)
    · exact .inl (Rows.get_isSome.1 hnew)

theorem StopsAnnounced.generate {s : PipelineState} (h : StopsAnnounced s) (cfg : SecurityConfig)
    (now : Int) (campaignId : String) (faults : String → Option Fault) {handled : List Nat}
    (hhandled : ∀ eventId ∈ handled, eventId ∈ s.handled ∨
      (s.db.outboxEvent eventId).isSome) :
    StopsAnnounced
      ⟨(generateManifestsForCampaign cfg s.db now campaignId faults).1, handled⟩ := by
  obtain ⟨rows, events, plans, heq, hevents, -⟩ :=
    generate_extends cfg s.db now campaignId faults
  have hout : (s.db.extended rows events plans).outboxEvents = s.db.outboxEvents ++ events := rfl
  rw [heq]
  exact h.extend hout (fun _ hc ↦ hc)
    (fun e he hstop ↦ absurd hstop (aboutManifest_not_stops (hevents e he))) hhandled

theorem stopsAnnounced_step (cfg : PipelineConfig) (s : PipelineState) (a : PipelineStep)
    (h : StopsAnnounced s) : StopsAnnounced (pipelineStep cfg s a) := by
  by_cases hlife : a.op.lifecycle = true
  · obtain ⟨db', hannounced, heq⟩ := pipelineStep_lifecycle cfg s a hlife
    obtain ⟨mid, events, hmid, hdb, hevents⟩ := hannounced.frame
    have hout : db'.outboxEvents = s.db.outboxEvents ++ events := by
      obtain ⟨_, _, _, _, _, rfl⟩ := hmid
      rw [hdb]
      rfl
    rw [heq]
    exact h.extend hout hannounced.stopped hevents fun _ hid ↦ .inl hid
  · unfold pipelineStep
    cases hop : a.op with
    | approveAsset assetId =>
        dsimp only
        rw [approveCreativeEndpoint_state]
        exact ⟨h.stopped, h.handled⟩
    | rejectAsset assetId reason =>
        dsimp only
        rw [rejectCreativeEndpoint_state]
        exact ⟨h.stopped, h.handled⟩
    | generate campaignId faults =>
        exact h.generate cfg.security a.now campaignId faults fun _ hid ↦ .inl hid
    | handle eventId faults interrupted =>
        show StopsAnnounced (handleEvent cfg.security a.now s eventId faults interrupted)
        rcases handleEvent_cases cfg.security a.now s eventId faults interrupted with
          ⟨heq, -⟩ | ⟨e, he, heq | ⟨-, heq⟩⟩
        · rw [heq]
          exact h
        · rw [heq]
          refine ⟨h.stopped, fun id hid ↦ ?_⟩
          rcases List.mem_cons.1 hid with rfl | hid
          · exact Rows.get_isSome.1 (Option.isSome_iff_exists.2 ⟨e, he⟩)
          · exact h.handled id hid
        · rw [heq]
          refine h.generate cfg.security a.now e.aggregateId faults fun id hid ↦ ?_
          rcases List.mem_cons.1 hid with rfl | hid
          · exact .inr (Option.isSome_iff_exists.2 ⟨e, he⟩)
          · exact .inl hid
    | _ => exact absurd (by rw [hop]; rfl) hlife

/-! ## What a step serves -/

theorem latestManifest_extended {db : Db} {rows : List DeliveryManifest}
    {events : List OutboxEvent} {plans : List DeliveryPlan} {deviceId : String}
    {m : DeliveryManifest} (h : (db.extended rows events plans).latestManifest deviceId = some m) :
    (m ∈ rows ∧ m.status = .generated) ∨ db.latestManifest deviceId = some m := by
  unfold Db.latestManifest at h
  rw [generatedManifests_extended] at h
  rcases Rows.newest_append h with hnew | hold
  · have hm := List.mem_filter.1 hnew
    exact .inl ⟨hm.1, (of_decide_eq_true hm.2).2⟩
  · exact .inr hold

/-- A generation call for another campaign, or one that is not eligible, does not start to serve
the campaign. -/
theorem Db.NotServed.generate {db : Db} {campaignId : String} (h : db.NotServed campaignId)
    (cfg : SecurityConfig) (now : Int) (other : String) (faults : String → Option Fault)
    (hother : other = campaignId → (checkEligibility db now campaignId).eligible = false) :
    (generateManifestsForCampaign cfg db now other faults).1.NotServed campaignId := by
  obtain ⟨rows, events, plans, heq, -, hrows⟩ := generate_extends cfg db now other faults
  rw [heq]
  rintro deviceId ⟨m, hm, hcampaign⟩
  rcases latestManifest_extended hm with ⟨hnew, hstatus⟩ | hold
  · rcases hrows m hnew with hfailed | ⟨helig, data, hdata, version, t, -, rfl⟩
    · rw [hfailed] at hstatus
      cases hstatus
    · have hid : other = campaignId := (campaignData_campaign hdata).symm.trans hcampaign
      rw [hid, hother hid] at helig
      cases helig
  · exact h deviceId ⟨m, hold, hcampaign⟩

theorem Announced.latestManifest {db db' : Db} (h : Announced db db') (deviceId : String) :
    db'.latestManifest deviceId = db.latestManifest deviceId := by
  obtain ⟨mid, events, ⟨_, _, _, _, _, rfl⟩, rfl, -⟩ := h.frame
  unfold Db.latestManifest
  rw [generatedManifests_extended, List.filter_nil, List.append_nil]
  rfl

theorem Announced.outboxEvent {db db' : Db} (h : Announced db db') {eventId : Nat}
    (hid : eventId ∈ db.outboxEvents.map (·.id)) :
    db'.outboxEvent eventId = db.outboxEvent eventId := by
  obtain ⟨mid, events, ⟨_, _, _, _, _, rfl⟩, rfl, -⟩ := h.frame
  exact outboxEvent_extended hid

theorem generate_outboxEvent (cfg : SecurityConfig) {db : Db} (now : Int) (campaignId : String)
    (faults : String → Option Fault) {eventId : Nat}
    (hid : eventId ∈ db.outboxEvents.map (·.id)) :
    (generateManifestsForCampaign cfg db now campaignId faults).1.outboxEvent eventId =
      db.outboxEvent eventId := by
  obtain ⟨rows, events, plans, heq, -, -⟩ := generate_extends cfg db now campaignId faults
  rw [heq]
  exact outboxEvent_extended hid

/-- Handled stops stay honoured over a step that keeps the events and serves no stopped campaign
anew. -/
theorem StopsHonoured.keep {s : PipelineState} (h : StopsHonoured s) (hinv : StopsAnnounced s)
    {db' : Db} (hevents : ∀ eventId ∈ s.db.outboxEvents.map (·.id),
      db'.outboxEvent eventId = s.db.outboxEvent eventId)
    (hserved : ∀ campaignId, s.db.Stopped campaignId → s.db.NotServed campaignId →
      db'.NotServed campaignId) : StopsHonoured ⟨db', s.handled⟩ := by
  intro eventId hid e he hstop
  have he : s.db.outboxEvent eventId = some e :=
    (hevents eventId (hinv.handled eventId hid)).symm.trans he
  exact hserved _ (hinv.stopped e (Rows.get_mem he) hstop) (h eventId hid e he hstop)

/-- Marking one more event as handled asks that its stop be honoured. -/
theorem stopsHonoured_cons {db : Db} {handled : List Nat} {eventId : Nat} :
    StopsHonoured ⟨db, eventId :: handled⟩ ↔ StopsHonoured ⟨db, handled⟩ ∧
      ∀ e, db.outboxEvent eventId = some e → e.Stops → db.NotServed e.aggregateId := by
  constructor
  · intro h
    exact ⟨fun id hid ↦ h id (List.mem_cons_of_mem _ hid), h eventId List.mem_cons_self⟩
  · rintro ⟨h, hone⟩ id hid
    rcases List.mem_cons.1 hid with rfl | hid
    · exact hone
    · exact h id hid

theorem stopsUnserved_of_ne {s : PipelineState} {a : PipelineStep}
    (h : ∀ eventId faults interrupted, a.op ≠ .handle eventId faults interrupted) :
    StopsUnserved s a :=
  fun eventId faults interrupted hop ↦ absurd hop (h eventId faults interrupted)

theorem StopsHonoured.generate {s : PipelineState} (h : StopsHonoured s) (hinv : StopsAnnounced s)
    (cfg : SecurityConfig) (now : Int) (campaignId : String) (faults : String → Option Fault) :
    StopsHonoured ⟨(generateManifestsForCampaign cfg s.db now campaignId faults).1, s.handled⟩ :=
  h.keep hinv (fun _ hid ↦ generate_outboxEvent cfg now campaignId faults hid)
    fun _ hstopped hserved ↦ hserved.generate cfg now campaignId faults fun _ ↦
      hstopped.ineligible now

/-- A step keeps handled stops honoured exactly if it handles no stop of a served campaign. -/
theorem stopsHonoured_step (cfg : PipelineConfig) (s : PipelineState) (a : PipelineStep)
    (hinv : StopsAnnounced s) (h : StopsHonoured s) :
    StopsHonoured (pipelineStep cfg s a) ↔ StopsUnserved s a := by
  by_cases hlife : a.op.lifecycle = true
  · obtain ⟨db', hannounced, heq⟩ := pipelineStep_lifecycle cfg s a hlife
    have hkeep : StopsHonoured ⟨db', s.handled⟩ := by
      refine h.keep hinv (fun _ hid ↦ hannounced.outboxEvent hid) fun c _ hserved d hd ↦ ?_
      obtain ⟨m, hm, hcampaign⟩ := hd
      rw [hannounced.latestManifest] at hm
      exact hserved d ⟨m, hm, hcampaign⟩
    refine iff_of_true (heq ▸ hkeep) (stopsUnserved_of_ne fun _ _ _ hop ↦ ?_)
    rw [hop] at hlife
    cases hlife
  · unfold pipelineStep
    cases hop : a.op with
    | approveAsset assetId =>
        dsimp only
        rw [approveCreativeEndpoint_state]
        exact iff_of_true h (stopsUnserved_of_ne (by simp [hop]))
    | rejectAsset assetId reason =>
        dsimp only
        rw [rejectCreativeEndpoint_state]
        exact iff_of_true h (stopsUnserved_of_ne (by simp [hop]))
    | generate campaignId faults =>
        exact iff_of_true (h.generate hinv cfg.security a.now campaignId faults)
          (stopsUnserved_of_ne (by simp [hop]))
    | handle eventId faults interrupted =>
        have hguard : StopsUnserved s a ↔ ∀ e, s.db.outboxEvent eventId = some e → e.Stops →
            s.db.NotServed e.aggregateId := by
          refine ⟨fun hg ↦ hg eventId faults interrupted hop, fun hg id f i hid ↦ ?_⟩
          cases hop.symm.trans hid
          exact hg
        show StopsHonoured (handleEvent cfg.security a.now s eventId faults interrupted) ↔ _
        rw [hguard]
        rcases handleEvent_cases cfg.security a.now s eventId faults interrupted with
          ⟨heq, htype⟩ | ⟨e, he, heq | ⟨htype, heq⟩⟩
        · rw [heq]
          exact iff_of_true h fun e he hstop ↦ absurd hstop (delivery_not_stops (htype e he))
        · rw [heq, stopsHonoured_cons]
          exact and_iff_right h
        · -- a delivery event is no stop, and the stopped campaigns are not eligible
          have hnot : ∀ d, s.db.outboxEvent eventId = some d → ¬ d.Stops := fun d hd ↦
            Option.some.inj (he.symm.trans hd) ▸ delivery_not_stops htype
          have hsame := generate_outboxEvent cfg.security a.now e.aggregateId faults
            (Rows.get_isSome.1 (Option.isSome_iff_exists.2 ⟨e, he⟩))
          rw [heq, stopsHonoured_cons, hsame]
          exact iff_of_true ⟨h.generate hinv cfg.security a.now e.aggregateId faults,
            fun d hd hstop ↦ absurd hstop (hnot d hd)⟩
            fun d hd hstop ↦ absurd hstop (hnot d hd)
    | _ => exact absurd (by rw [hop]; rfl) hlife

/-- In every run, handled stops are honoured throughout exactly if none is handled while a device
is served the campaign. -/
theorem stopsHonoured_iff_unserved (cfg : PipelineConfig) (s : PipelineState)
    (l : List PipelineStep) (hinv : StopsAnnounced s) (h : StopsHonoured s) :
    Run.Always (pipelineStep cfg) StopsHonoured s l ↔
      Run.Guarded (pipelineStep cfg) StopsUnserved s l :=
  Run.always_iff_guarded (A := fun _ ↦ True) (fun s a _ ↦ stopsAnnounced_step cfg s a)
    (fun s a _ ↦ stopsHonoured_step cfg s a) (fun _ _ ↦ trivial) hinv h

theorem not_stopsHonoured {s : PipelineState} {eventId : Nat} {deviceId campaignId : String}
    (hid : eventId ∈ s.handled)
    (he : (s.db.outboxEvent eventId).map (fun e ↦ (e.eventType, e.aggregateId)) =
      some ("campaign.paused", campaignId))
    (hd : (s.db.latestManifest deviceId).map (·.campaignId) = some campaignId) :
    ¬ StopsHonoured s := by
  obtain ⟨e, hget, hpair⟩ := Option.map_eq_some_iff.1 he
  obtain ⟨htype, haggregate⟩ := Prod.mk.inj hpair
  intro h
  exact h eventId hid e hget (.inl htype) deviceId
    (haggregate ▸ Option.map_eq_some_iff.1 hd)

def demoState : PipelineState := { db := demoDeliveryDb }

theorem demoState_announced : StopsAnnounced demoState :=
  ⟨fun _ he ↦ absurd he List.not_mem_nil, fun _ hid ↦ absurd hid List.not_mem_nil⟩

theorem demoState_honoured : StopsHonoured demoState :=
  fun _ hid ↦ absurd hid List.not_mem_nil

-- the activation event is handled with a generation call, the pause event with nothing
def pausedRun : List PipelineStep := [
  ⟨1, .activate "a" "u1" none⟩, ⟨2, .handle 1 (fun _ ↦ none) false⟩,
  ⟨3, .pause "a" "u1" none⟩, ⟨4, .handle 3 (fun _ ↦ none) false⟩]

theorem pausedRun_serves : ¬ StopsHonoured (Run.final (pipelineStep {}) demoState pausedRun) :=
  @not_stopsHonoured _ 3 "d1" "a" (by decide +kernel) (by decide +kernel) (by decide +kernel)

theorem paused_campaign_served :
    ¬ ∀ (cfg : PipelineConfig) (s : PipelineState) (l : List PipelineStep), StopsAnnounced s →
      StopsHonoured s → Run.Always (pipelineStep cfg) StopsHonoured s l := by
  intro h
  have hrun := h {} demoState pausedRun demoState_announced demoState_honoured
  exact pausedRun_serves hrun.final

theorem stopsUnserved_of_no_manifests {s : PipelineState} (a : PipelineStep)
    (h : s.db.deliveryManifests = []) : StopsUnserved s a := by
  intro _ _ _ _ e _ _ deviceId hserves
  obtain ⟨m, hm, -⟩ := hserves
  have hmem := (latestManifest_mem hm).1
  rw [h] at hmem
  cases hmem

def pausedEarly : List PipelineStep := [
  ⟨1, .activate "a" "u1" none⟩, ⟨2, .pause "a" "u1" none⟩, ⟨3, .handle 2 (fun _ ↦ none) false⟩]

theorem pausedEarly_unserved :
    Run.Guarded (pipelineStep {}) StopsUnserved demoState pausedEarly := by
  have hnone : (Run.final (pipelineStep {}) demoState (pausedEarly.take 2)).db.deliveryManifests =
      [] := by
    decide +kernel
  have hone : (Run.final (pipelineStep {}) demoState (pausedEarly.take 1)).db.deliveryManifests =
      [] := by
    decide +kernel
  exact ⟨stopsUnserved_of_no_manifests _ rfl, stopsUnserved_of_no_manifests _ hone,
    stopsUnserved_of_no_manifests _ hnone, trivial⟩

theorem paused_before_generation :
    Run.Always (pipelineStep {}) StopsHonoured demoState pausedEarly :=
  (stopsHonoured_iff_unserved {} demoState pausedEarly demoState_announced
    demoState_honoured).2 pausedEarly_unserved

end RetailMedia
