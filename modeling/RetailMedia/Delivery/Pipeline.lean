import RetailMedia.Delivery.Events
import RetailMedia.Inventory.Plans

/-! What the steps of the pipeline can change. -/

namespace RetailMedia

/-! ## Frames -/

/-- Only the tables of the campaign life cycle changed. -/
def LifecycleOnly (db db' : Db) : Prop :=
  ∃ campaigns history approvals slots bookings, db' = { db with
    campaigns := campaigns
    campaignStatusHistory := history
    campaignApprovals := approvals
    inventorySlots := slots
    inventoryBookings := bookings }

theorem LifecycleOnly.refl (db : Db) : LifecycleOnly db db := ⟨_, _, _, _, _, rfl⟩

theorem LifecycleOnly.trans {db db' db'' : Db} (h : LifecycleOnly db db')
    (h' : LifecycleOnly db' db'') : LifecycleOnly db db'' := by
  obtain ⟨_, _, _, _, _, rfl⟩ := h
  obtain ⟨campaigns, history, approvals, slots, bookings, rfl⟩ := h'
  exact ⟨campaigns, history, approvals, slots, bookings, rfl⟩

theorem LifecycleOnly.of_inventory {db db' : Db} (h : InventoryOnly db db') :
    LifecycleOnly db db' := by
  obtain ⟨slots, bookings, rfl⟩ := h
  exact ⟨_, _, _, slots, bookings, rfl⟩

theorem reserveAll_inventoryOnly (now : Int) (db : Db) (requests : List ReserveRequest) :
    InventoryOnly db (reserveAll now db requests).1 := by
  induction requests generalizing db with
  | nil => exact InventoryOnly.refl db
  | cons r rs ih =>
      have hone := reserve_inventoryOnly db now r
      unfold reserveAll
      split
      · rename_i heq
        rw [heq] at hone
        exact hone
      · rename_i heq
        rw [heq] at hone
        exact hone.trans (ih _)

/-- Paused and completed campaigns, which no transition leaves. -/
def Db.Stopped (db : Db) (campaignId : String) : Prop :=
  ∃ c, db.campaign campaignId = some c ∧ (c.status = .paused ∨ c.status = .completed)

theorem Db.Stopped.ineligible {db : Db} {campaignId : String} (h : db.Stopped campaignId)
    (now : Int) : (checkEligibility db now campaignId).eligible = false := by
  cases helig : (checkEligibility db now campaignId).eligible with
  | false => rfl
  | true =>
      obtain ⟨⟨c, hc, hstatus⟩, -⟩ := checkEligibility_eligible helig
      obtain ⟨c', hc', hstopped⟩ := h
      obtain rfl := Option.some.inj (hc.symm.trans hc')
      rcases hstopped with hp | hp
      · rw [hp] at hstatus
        exact absurd hstatus (by decide)
      · rw [hp] at hstatus
        exact absurd hstatus (by decide)

/-- What every lifecycle operation does: its own tables, and no stopped campaign starts again. -/
structure Progress (db db' : Db) : Prop where
  frame : LifecycleOnly db db'
  stopped : ∀ campaignId, db.Stopped campaignId → db'.Stopped campaignId

theorem Progress.refl (db : Db) : Progress db db := ⟨LifecycleOnly.refl db, fun _ h ↦ h⟩

theorem Progress.trans {db db' db'' : Db} (h : Progress db db') (h' : Progress db' db'') :
    Progress db db'' :=
  ⟨h.frame.trans h'.frame, fun c hc ↦ h'.stopped c (h.stopped c hc)⟩

/-! ## Transitions -/

theorem campaign_moved (db : Db) (c : Campaign) (target : CampaignStatus) (changedBy : String)
    (now : Int) (reason : String) (campaignId : String) :
    (db.moveCampaign c target changedBy now reason).campaign campaignId =
      (db.campaign campaignId).map fun d ↦ if d.id = c.id then d.withStatus target now else d := by
  have hget : Rows.get Campaign.id campaignId (Rows.updateWhere (fun d ↦ d.id = c.id)
      (·.withStatus target now) db.campaigns) = _ := 
    Rows.get_updateWhere (f := (·.withStatus target now)) (fun _ ↦ rfl) db.campaigns
  simp only [decide_eq_true_eq] at hget
  exact hget

/-- A move after changes to the other lifecycle tables, from a status that is not final. -/
theorem Progress.move {db mid : Db} {c : Campaign} (h : LifecycleOnly db mid)
    (hsame : mid.campaigns = db.campaigns) {campaignId : String}
    (hc : db.campaign campaignId = some c)
    (hsource : c.status ≠ .paused ∧ c.status ≠ .completed) (target : CampaignStatus)
    (changedBy : String) (now : Int) (reason : String) :
    Progress db (mid.moveCampaign c target changedBy now reason) := by
  refine ⟨h.trans ⟨_, _, _, _, _, rfl⟩, fun stopped hstopped ↦ ?_⟩
  obtain ⟨d, hd, hstatus⟩ := hstopped
  have hmid : mid.campaign stopped = some d := by
    unfold Db.campaign
    rw [hsame]
    exact hd
  -- the moved campaign is not the stopped one: their statuses differ
  have hne : d.id ≠ c.id := by
    intro heq
    have hid : stopped = campaignId :=
      (Rows.get_key hd).symm.trans (heq.trans (Rows.get_key hc))
    rw [hid, hc] at hd
    obtain rfl := Option.some.inj hd
    exact hstatus.elim hsource.1 hsource.2
  refine ⟨d, ?_, hstatus⟩
  rw [campaign_moved, hmid, Option.map_some, if_neg hne]

theorem moved_stopped {db mid : Db} {c : Campaign} (hsame : mid.campaigns = db.campaigns)
    {campaignId : String} (hc : db.campaign campaignId = some c) {target : CampaignStatus}
    (htarget : target = .paused ∨ target = .completed) (changedBy : String) (now : Int)
    (reason : String) : (mid.moveCampaign c target changedBy now reason).Stopped campaignId := by
  refine ⟨c.withStatus target now, ?_, htarget⟩
  have hmid : mid.campaign campaignId = some c := by
    unfold Db.campaign
    rw [hsame]
    exact hc
  rw [campaign_moved, hmid, Option.map_some, if_pos rfl]

theorem Progress.of_inventory {db db' : Db} (h : InventoryOnly db db') : Progress db db' := by
  refine ⟨LifecycleOnly.of_inventory h, fun _ hc ↦ ?_⟩
  obtain ⟨_, _, rfl⟩ := h
  exact hc

theorem InventoryOnly.campaigns {db db' : Db} (h : InventoryOnly db db') :
    db'.campaigns = db.campaigns := by
  obtain ⟨_, _, rfl⟩ := h
  rfl

theorem LifecycleOnly.decision {db mid : Db} (h : LifecycleOnly db mid) (c : Campaign)
    (decision : CampaignStatus) (reviewedBy : String) (requestedAt now : Int)
    (rejectionReason : Option String) :
    LifecycleOnly db (recordDecision mid c decision reviewedBy requestedAt now rejectionReason) :=
  h.trans ⟨_, _, _, _, _, rfl⟩

section Operations

variable (db : Db) (now : Int) (campaignId userId : String) (scope : Option (List String))

theorem requestCampaignApproval_progress (cfg : InventoryConfig) :
    Progress db (requestCampaignApproval db cfg now campaignId userId scope).1 := by
  refine guardedTransition_state campaignId .draft .pendingApproval scope (Progress.refl db)
    fun c hc hstatus ↦ ?_
  split
  · exact Progress.refl db
  · have hreserved := (settle_inventoryOnly _ _ _ _ db).trans (reserveAll_inventoryOnly now
      (releaseInventoryForCampaign db now campaignId "re-reserve cleanup").1
      (approvalRequests (releaseInventoryForCampaign db now campaignId "re-reserve cleanup").1 cfg
        campaignId))
    unfold reservationPhase
    dsimp only
    split
    · rename_i heq
      rw [heq] at hreserved
      exact Progress.of_inventory hreserved
    · rename_i heq
      rw [heq] at hreserved
      exact Progress.move (LifecycleOnly.of_inventory hreserved) hreserved.campaigns hc
        (by rw [hstatus]; decide) _ _ _ _

theorem approveCampaign_progress :
    Progress db (approveCampaign db now campaignId userId scope).1 := by
  refine guardedTransition_state campaignId .pendingApproval .approved scope (Progress.refl db)
    fun c hc hstatus ↦ ?_
  have hcommit : InventoryOnly db (commitInventoryForCampaign db now campaignId).1 :=
    settle_inventoryOnly _ _ _ _ db
  split
  · exact Progress.refl db
  · split
    · exact Progress.refl db
    · exact Progress.move ((LifecycleOnly.of_inventory hcommit).decision c .approved userId _ now
        none) hcommit.campaigns hc (by rw [hstatus]; decide) _ _ _ _

theorem rejectCampaign_progress (reason : String) :
    Progress db (rejectCampaign db now campaignId userId reason scope).1 := by
  refine guardedTransition_state campaignId .pendingApproval .rejected scope (Progress.refl db)
    fun c hc hstatus ↦ ?_
  have hrelease : InventoryOnly db
      (releaseInventoryForCampaign db now campaignId (firstChars 512 reason)).1 :=
    settle_inventoryOnly _ _ _ _ db
  split
  · exact Progress.refl db
  · exact Progress.move ((LifecycleOnly.of_inventory hrelease).decision c .rejected userId _ now
      (some (firstChars 1000 reason))) hrelease.campaigns hc (by rw [hstatus]; decide) _ _ _ _

theorem activateCampaign_progress :
    Progress db (activateCampaign db now campaignId userId scope).1 :=
  guardedTransition_state campaignId .approved .active scope (Progress.refl db)
    fun _ hc hstatus ↦
      Progress.move (LifecycleOnly.refl db) rfl hc (by rw [hstatus]; decide) _ _ _ _

theorem pauseCampaign_progress : Progress db (pauseCampaign db now campaignId userId scope).1 :=
  guardedTransition_state campaignId .active .paused scope (Progress.refl db)
    fun _ hc hstatus ↦
      Progress.move (LifecycleOnly.refl db) rfl hc (by rw [hstatus]; decide) _ _ _ _

theorem completeCampaign_progress :
    Progress db (completeCampaign db now campaignId userId scope).1 := by
  unfold completeCampaign
  split
  · exact Progress.refl db
  · split
    · exact Progress.refl db
    · refine guardedTransition_state campaignId .active .completed scope (Progress.refl db)
        fun c hc hstatus ↦ ?_
      dsimp only
      split
      · exact Progress.refl db
      · exact Progress.move (LifecycleOnly.refl db) rfl hc (by rw [hstatus]; decide) _ _ _ _

theorem completeExpiredCampaigns_progress :
    Progress db (completeExpiredCampaigns db now userId).1 := by
  unfold completeExpiredCampaigns
  dsimp only
  refine Rows.sweep_state (I := Progress db) (fun d id h ↦ ?_) _ (Progress.refl db)
  exact h.trans (completeCampaign_progress d now id userId none)

theorem archiveCampaign_progress :
    Progress db (archiveCampaign db now campaignId userId scope).1 := by
  unfold archiveCampaign
  split
  · exact Progress.refl db
  · rename_i c hc
    split
    · exact Progress.refl db
    · rename_i hstatus
      split
      · exact Progress.refl db
      · refine Progress.move (LifecycleOnly.refl db) rfl hc ⟨fun h ↦ hstatus ?_, fun h ↦ hstatus ?_⟩
          _ _ _ _
        · rw [h]
          decide
        · rw [h]
          decide

variable {db now campaignId userId scope}

theorem pauseCampaign_stopped {moved : CampaignStatus × CampaignStatus}
    (h : (pauseCampaign db now campaignId userId scope).2 = .ok (some moved)) :
    (pauseCampaign db now campaignId userId scope).1.Stopped campaignId := by
  obtain ⟨c, hc, -, -, hdb⟩ := guardedTransition_some h
  unfold pauseCampaign
  rw [hdb]
  exact moved_stopped rfl hc (.inl rfl) _ _ _

theorem completeCampaign_stopped {moved : CampaignStatus × CampaignStatus}
    (h : (completeCampaign db now campaignId userId scope).2 = .ok (some moved)) :
    (completeCampaign db now campaignId userId scope).1.Stopped campaignId := by
  unfold completeCampaign at h ⊢
  split at h
  · cases h
  · rename_i c hc
    split at h
    · rename_i hcompleted
      rw [if_pos hcompleted]
      exact ⟨c, hc, .inr hcompleted⟩
    · rename_i hcompleted
      rw [if_neg hcompleted]
      obtain ⟨d, hd, -, hbody, hdb⟩ := guardedTransition_some h
      rw [hdb]
      dsimp only at hbody ⊢
      split at hbody
      · cases hbody
      · rename_i hflights
        rw [if_neg hflights]
        exact moved_stopped rfl hd (.inr rfl) _ _ _

end Operations

/-! ## Routes -/

def OutboxEvent.Stops (e : OutboxEvent) : Prop :=
  e.eventType = "campaign.paused" ∨ e.eventType = "campaign.completed"

instance (e : OutboxEvent) : Decidable e.Stops := inferInstanceAs (Decidable (_ ∨ _))

/-- A lifecycle operation and the events about it; a pause or a completion is only announced of
a stopped campaign. -/
structure Announced (db db' : Db) : Prop where
  frame : ∃ mid events, LifecycleOnly db mid ∧ db' = mid.extended [] events [] ∧
    ∀ e ∈ events, e.Stops → db'.Stopped e.aggregateId
  stopped : ∀ campaignId, db.Stopped campaignId → db'.Stopped campaignId

theorem Announced.of_progress {db db' : Db} (h : Progress db db') : Announced db db' :=
  ⟨⟨db', [], h.frame, (extended_nil db').symm, fun _ he ↦ absurd he List.not_mem_nil⟩, h.stopped⟩

theorem Announced.refl (db : Db) : Announced db db := .of_progress (Progress.refl db)

theorem Progress.enqueue {db mid : Db} (h : Progress db mid) (eventType campaignId : String)
    (oldStatus newStatus : CampaignStatus) (extra : List (String × Json))
    (hstops : eventType = "campaign.paused" ∨ eventType = "campaign.completed" →
      mid.Stopped campaignId) :
    Announced db (enqueueTransition mid eventType campaignId oldStatus newStatus extra) := by
  obtain ⟨e, he, htype, haggregate, -⟩ := enqueueOutboxEvent_spec mid eventType "campaign"
    campaignId (transitionPayload campaignId oldStatus newStatus extra)
    (.obj [("source_service", .str "control-api")]) none
  unfold enqueueTransition
  rw [he]
  refine ⟨⟨mid, [e], h.frame, rfl, fun e' he' hstop ↦ ?_⟩, h.stopped⟩
  have heq := List.mem_singleton.1 he'
  subst heq
  rw [haggregate]
  exact hstops (htype ▸ hstop)

theorem transitionEndpoint_announced {db : Db} {campaignId missing message eventType : String}
    {extra : List (String × Json)} {result : Db × TransitionResult} (h : Progress db result.1)
    (hstops : eventType = "campaign.paused" ∨ eventType = "campaign.completed" →
      ∀ moved, result.2 = .ok (some moved) → result.1.Stopped campaignId) :
    Announced db (transitionEndpoint db campaignId missing message eventType extra result).1 := by
  unfold transitionEndpoint
  split
  · exact Announced.refl db
  · exact Announced.refl db
  · exact h.enqueue eventType campaignId _ _ extra fun hstop ↦ hstops hstop _ rfl

theorem completeEndpoint_announced (db : Db) (now : Int) (campaignId userId : String)
    (scope : Option (List String)) :
    Announced db (completeEndpoint db now campaignId userId scope).1 := by
  have hprogress := completeCampaign_progress db now campaignId userId scope
  unfold completeEndpoint
  split
  · exact Announced.refl db
  · exact Announced.refl db
  · rename_i db' oldStatus newStatus heq
    have hstopped : (completeCampaign db now campaignId userId scope).1.Stopped campaignId :=
      completeCampaign_stopped (congrArg Prod.snd heq)
    rw [heq] at hprogress hstopped
    split
    · exact Announced.of_progress hprogress
    · exact hprogress.enqueue _ _ _ _ _ fun _ ↦ hstopped

theorem archiveEndpoint_announced (db : Db) (now : Int) (campaignId userId : String)
    (scope : Option (List String)) :
    Announced db (archiveEndpoint db now campaignId userId scope).1 := by
  have hprogress := archiveCampaign_progress db now campaignId userId scope
  unfold archiveEndpoint
  split
  · exact Announced.refl db
  · exact Announced.refl db
  · rename_i heq
    rw [heq] at hprogress
    split
    · exact Announced.refl db
    · exact hprogress.enqueue _ _ _ _ _ fun hstop ↦ absurd hstop (by decide)

theorem requestApprovalEndpoint_announced (db : Db) (cfg : InventoryConfig) (now : Int)
    (campaignId userId : String) (scope : Option (List String)) :
    Announced db (requestApprovalEndpoint db cfg now campaignId userId scope).1 := by
  have hprogress := requestCampaignApproval_progress db now campaignId userId scope cfg
  unfold requestApprovalEndpoint
  split
  · exact Announced.refl db
  · exact Announced.refl db
  · rename_i heq
    rw [heq] at hprogress
    split
    · exact Announced.refl db
    · exact hprogress.enqueue _ _ _ _ _ fun hstop ↦ absurd hstop (by decide)

/-- The operations of the lifecycle routes. -/
def PipelineOp.lifecycle : PipelineOp → Bool
  | .approveAsset _ | .rejectAsset _ _ | .generate _ _ | .handle _ _ _ => false
  | _ => true

theorem pipelineStep_lifecycle (cfg : PipelineConfig) (s : PipelineState) (a : PipelineStep)
    (h : a.op.lifecycle = true) :
    ∃ db', Announced s.db db' ∧ pipelineStep cfg s a = { s with db := db' } := by
  unfold pipelineStep
  cases hop : a.op with
  | requestApproval campaignId userId scope =>
      exact ⟨_, requestApprovalEndpoint_announced s.db cfg.inventory a.now campaignId userId scope,
        rfl⟩
  | approve campaignId userId scope =>
      exact ⟨_, transitionEndpoint_announced
        (approveCampaign_progress s.db a.now campaignId userId scope)
        fun hstop ↦ absurd hstop (by decide), rfl⟩
  | reject campaignId userId reason scope =>
      exact ⟨_, transitionEndpoint_announced
        (rejectCampaign_progress s.db a.now campaignId userId scope reason)
        fun hstop ↦ absurd hstop (by decide), rfl⟩
  | activate campaignId userId scope =>
      exact ⟨_, transitionEndpoint_announced
        (activateCampaign_progress s.db a.now campaignId userId scope)
        fun hstop ↦ absurd hstop (by decide), rfl⟩
  | pause campaignId userId scope =>
      exact ⟨_, transitionEndpoint_announced
        (pauseCampaign_progress s.db a.now campaignId userId scope)
        fun _ _ hmoved ↦ pauseCampaign_stopped hmoved, rfl⟩
  | complete campaignId userId scope =>
      exact ⟨_, completeEndpoint_announced s.db a.now campaignId userId scope, rfl⟩
  | completeExpired =>
      exact ⟨_, .of_progress (completeExpiredCampaigns_progress s.db a.now systemUser), rfl⟩
  | archive campaignId userId scope =>
      exact ⟨_, archiveEndpoint_announced s.db a.now campaignId userId scope, rfl⟩
  | approveAsset assetId =>
      rw [hop] at h
      cases h
  | rejectAsset assetId reason =>
      rw [hop] at h
      cases h
  | generate campaignId faults =>
      rw [hop] at h
      cases h
  | handle eventId faults interrupted =>
      rw [hop] at h
      cases h

/-- Handling an event changes nothing, or marks it handled, after a generation call for its
campaign if it is a delivery event. -/
theorem handleEvent_cases (cfg : SecurityConfig) (now : Int) (s : PipelineState) (eventId : Nat)
    (faults : String → Option Fault) (interrupted : Bool) :
    (handleEvent cfg now s eventId faults interrupted = s ∧
      ∀ e, s.db.outboxEvent eventId = some e → e.eventType ∈ deliveryEventTypes) ∨
    ∃ e, s.db.outboxEvent eventId = some e ∧
      (handleEvent cfg now s eventId faults interrupted =
        { s with handled := eventId :: s.handled } ∨
      e.eventType ∈ deliveryEventTypes ∧
        handleEvent cfg now s eventId faults interrupted =
          { db := (generateManifestsForCampaign cfg s.db now e.aggregateId faults).1
            handled := eventId :: s.handled }) := by
  unfold handleEvent handleCampaignDeliveryEvent
  cases he : s.db.outboxEvent eventId with
  | none => exact .inl ⟨rfl, fun e he ↦ by cases he⟩
  | some e =>
      dsimp only
      by_cases hcampaign : e.aggregateId = ""
      · rw [if_pos hcampaign]
        exact .inr ⟨e, rfl, .inl rfl⟩
      · rw [if_neg hcampaign]
        by_cases htype : e.eventType ∉ deliveryEventTypes
        · rw [if_pos htype]
          exact .inr ⟨e, rfl, .inl rfl⟩
        · rw [if_neg htype]
          cases interrupted with
          | true => exact .inl ⟨rfl, fun d hd ↦ Option.some.inj hd ▸ not_not.1 htype⟩
          | false => exact .inr ⟨e, rfl, .inr ⟨not_not.1 htype, rfl⟩⟩

end RetailMedia
