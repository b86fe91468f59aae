import RetailMedia.Inventory.Reservation

/-! The campaign life cycle: guarded status transitions, with the inventory they reserve, book
and release. -/

namespace RetailMedia

/-- `ALLOWED_TRANSITIONS`. -/
def allowedTransitions : CampaignStatus → List CampaignStatus
  | .draft => [.pendingApproval]
  | .pendingApproval => [.approved, .rejected]
  | .approved => [.active]
  | .active => [.paused, .completed]
  | _ => []

/-- `validate_transition` does not raise. -/
def validTransition (current target : CampaignStatus) : Bool := target ∈ allowedTransitions current

def Db.campaign (db : Db) (id : String) : Option Campaign := Rows.get (·.id) id db.campaigns

def Db.flightsOf (db : Db) (campaignId : String) : List CampaignFlight :=
  db.campaignFlights.filter fun f ↦ f.campaignId = campaignId

def Db.placementsOf (db : Db) (campaignId : String) : List CampaignPlacement :=
  db.campaignPlacements.filter fun p ↦ p.campaignId = campaignId

def Db.surfacePlacementsOf (d : Db) (campaignId : String) : List CampaignPlacement :=
  (d.placementsOf campaignId).filter (·.displaySurfaceId.isSome)

def Db.creativesOf (db : Db) (campaignId : String) : List CampaignCreative :=
  db.campaignCreatives.filter fun c ↦ c.campaignId = campaignId

def Db.linkedAssets (db : Db) (campaignId : String) : List CreativeAsset :=
  db.creativeAssets.filter fun a ↦
    a.id ∈ (db.creativesOf campaignId).map (·.creativeAssetId)

/-- `_assert_org_in_scope` does not raise. -/
def inScope (organizationId : String) (scope : Option (List String)) : Bool :=
  scope.all (organizationId ∈ ·)

def Campaign.withStatus (status : CampaignStatus) (now : Int) (c : Campaign) : Campaign :=
  { c with status := status, updatedAt := now }

def Db.setCampaignStatus (db : Db) (campaignId : String) (status : CampaignStatus) (now : Int) :
    Db :=
  { db with
    campaigns := Rows.updateWhere (·.id = campaignId) (·.withStatus status now) db.campaigns }

/-- Status and history row of a transition. -/
def Db.moveCampaign (db : Db) (c : Campaign) (target : CampaignStatus) (changedBy : String)
    (now : Int) (reason : String) : Db :=
  let moved := db.setCampaignStatus c.id target now
  { moved with campaignStatusHistory := moved.campaignStatusHistory ++ [{
      campaignId := c.id
      oldStatus := c.status
      newStatus := target
      changedBy := changedBy
      changedAt := now
      reason := reason }] }

/-- Old and new status; `none` where the source returns `(None, None)`; an error is a
`ScopeError`. -/
abbrev TransitionResult := Except String (Option (CampaignStatus × CampaignStatus))

/-- The guards that the transitions share: the campaign exists, is in the source status, is in
the caller's scope, and may make the transition. -/
def guardedTransition {α : Type} (db : Db) (campaignId : String) (source target : CampaignStatus)
    (scope : Option (List String)) (body : Campaign → Db × Option α) :
    Db × Except String (Option α) :=
  match db.campaign campaignId with
  | none => (db, .ok none)
  | some c =>
      if c.status ≠ source then (db, .ok none)
      else if ¬ inScope c.advertiserOrganizationId scope then
        (db, .error "Organization not in scope")
      else if ¬ validTransition c.status target then (db, .ok none)
      else
        let (db', result) := body c
        (db', .ok result)

section Guards

variable {α : Type} {db : Db} {campaignId : String} {source target : CampaignStatus}
  {scope : Option (List String)} {body : Campaign → Db × Option α}

/-- A transition is refused without an effect, or runs its body. -/
theorem guardedTransition_cases {P : Db × Except String (Option α) → Prop}
    (hrefused : ∀ r, (∀ a, r ≠ .ok (some a)) → P (db, r))
    (hbody : ∀ c, db.campaign campaignId = some c → c.status = source →
      inScope c.advertiserOrganizationId scope = true → P ((body c).1, .ok (body c).2)) :
    P (guardedTransition db campaignId source target scope body) := by
  unfold guardedTransition
  cases hc : db.campaign campaignId with
  | none => exact hrefused _ fun a h ↦ by cases h
  | some c =>
      dsimp only
      by_cases hstatus : c.status ≠ source
      · rw [if_pos hstatus]
        exact hrefused _ fun a h ↦ by cases h
      rw [if_neg hstatus]
      by_cases hscope : ¬ inScope c.advertiserOrganizationId scope = true
      · rw [if_pos hscope]
        exact hrefused _ fun a h ↦ by cases h
      rw [if_neg hscope]
      split
      · exact hrefused _ fun a h ↦ by cases h
      · exact hbody c hc (not_not.1 hstatus) (not_not.1 hscope)

/-- A transition that reports statuses passed its guards and ran its body. -/
theorem guardedTransition_some {a : α}
    (h : (guardedTransition db campaignId source target scope body).2 = .ok (some a)) :
    ∃ c, db.campaign campaignId = some c ∧ c.status = source ∧ (body c).2 = some a ∧
      (guardedTransition db campaignId source target scope body).1 = (body c).1 := by
  revert h
  refine guardedTransition_cases (P := fun r ↦ r.2 = .ok (some a) →
    ∃ c, db.campaign campaignId = some c ∧ c.status = source ∧ (body c).2 = some a ∧
      r.1 = (body c).1) (fun r hr h ↦ absurd h (hr a)) fun c hc hstatus _ h ↦ ?_
  exact ⟨c, hc, hstatus, Except.ok.inj h, rfl⟩

theorem guardedTransition_passes {c : Campaign} (hc : db.campaign campaignId = some c)
    (hstatus : c.status = source) (hscope : inScope c.advertiserOrganizationId scope = true)
    (hvalid : validTransition source target = true) :
    guardedTransition db campaignId source target scope body =
      ((body c).1, .ok (body c).2) := by
  unfold guardedTransition
  rw [hc]
  dsimp only
  rw [if_neg (not_not.2 hstatus), if_neg (not_not.2 hscope), hstatus, if_neg (not_not.2 hvalid)]

end Guards

/-- A transition changes the state only through its body. -/
theorem guardedTransition_state {α : Type} {P : Db → Prop} {db : Db} (campaignId : String)
    (source target : CampaignStatus) (scope : Option (List String))
    {body : Campaign → Db × Option α} (h0 : P db)
    (hbody : ∀ c, db.campaign campaignId = some c → c.status = source → P (body c).1) :
    P (guardedTransition db campaignId source target scope body).1 :=
  guardedTransition_cases (P := fun r ↦ P r.1) (fun _ _ ↦ h0) fun c hc hstatus _ ↦
    hbody c hc hstatus

/-! ## Request for approval -/

structure InventoryConfig where
  defaultSlotCapacity : Int := 100
  reservationTtlHours : Int := 24
  deriving DecidableEq, Repr

def emptySha256 : String := "e3b0c44298fc1c149afbf4c8996fb92427ae41e4649b934ca495991b7852b855"

def isDeliverableChecksum (sha256 : String) : Bool :=
  sha256.length = 64 ∧ sha256.toList.all (· ∈ "0123456789abcdef".toList) ∧ sha256 ≠ emptySha256

def missingParts (db : Db) (campaignId : String) : List String :=
  (if db.flightsOf campaignId = [] then ["флайты"] else []) ++
    (if db.placementsOf campaignId = [] then ["плейсменты"] else []) ++
    (if db.creativesOf campaignId = [] then ["креативы"] else [])

def notDeliverable (a : CreativeAsset) : Option String :=
  if ¬ isDeliverableChecksum a.sha256Checksum then
    some ("Креатив не загружен: отсутствует файл. " ++
      "Загрузите файл через библиотеку креативов перед отправкой кампании.")
  else if a.status ≠ .ready then
    some ("Креатив не готов: статус загрузки — «" ++ a.status.text ++ "». " ++
      "Дождитесь завершения загрузки файла.")
  else if a.moderationStatus ≠ .approved then
    some ("Креатив не прошёл модерацию: статус — «" ++ a.moderationStatus.text ++ "». " ++
      "Отправьте креатив на модерацию и дождитесь одобрения.")
  else if a.fileSizeBytes ≤ 0 then
    some ("Креатив повреждён: размер файла равен нулю. " ++ "Загрузите файл заново.")
  else if a.storageKey = "" then
    some ("Креатив не загружен: файл отсутствует в хранилище. " ++
      "Загрузите файл через библиотеку креативов.")
  else none

def outsideContract (contract : AdvertiserContract) (f : CampaignFlight) : Option String :=
  let start := (DateTime.utc f.startAt).dmy
  let end_ := (DateTime.utc f.endAt).dmy
  if f.startAt < contract.validFrom then
    some ("Дата начала флайта (" ++ start ++ ") раньше даты начала договора (" ++
      (DateTime.utc contract.validFrom).dmy ++ "). Скорректируйте период флайта.")
  else if f.endAt < f.startAt then
    some ("Дата окончания флайта (" ++ end_ ++ ") раньше даты начала (" ++ start ++
      "). Проверьте период флайта.")
  else
    match contract.validUntil with
    | none => none
    | some validUntil =>
        if f.endAt > validUntil then
          some ("Дата окончания флайта (" ++ end_ ++ ") позже даты окончания договора (" ++
            (DateTime.utc validUntil).dmy ++ "). Скорректируйте период флайта.")
        else none

/-- The first check that a campaign fails, in the order of the source. -/
def notReady (db : Db) (c : Campaign) : Option String :=
  let missing := missingParts db c.id
  if missing ≠ [] then
    some ("Кампания не готова к отправке: отсутствуют " ++ ", ".intercalate missing)
  else
    match (db.linkedAssets c.id).findSome? notDeliverable with
    | some reason => some reason
    | none =>
        match Rows.get (·.id) c.advertiserContractId db.advertiserContracts with
        | none => none
        | some contract => (db.flightsOf c.id).findSome? (outsideContract contract)

/-- `share_of_voice_pct or 100`. -/
def CampaignPlacement.sov (p : CampaignPlacement) : Int :=
  if p.shareOfVoicePct = 0 then 100 else p.shareOfVoicePct

def flightRequest (cfg : InventoryConfig) (campaignId : String) (p : CampaignPlacement)
    (surfaceId : String) (f : CampaignFlight) : ReserveRequest where
  campaignId := campaignId
  placementId := p.id
  displaySurfaceId := surfaceId
  startsAt := .utc f.startAt
  endsAt := .utc f.endAt
  sovPercent := some p.sov
  defaultTotalCapacity := cfg.defaultSlotCapacity
  reservationTtlHours := cfg.reservationTtlHours

/-- The inner loop over the flights, for a placement with a display surface. -/
def placementRequests (cfg : InventoryConfig) (campaignId : String) (flights : List CampaignFlight)
    (p : CampaignPlacement) : List ReserveRequest :=
  match p.displaySurfaceId with
  | none => []
  | some surfaceId => flights.map (flightRequest cfg campaignId p surfaceId)

def approvalRequests (db : Db) (cfg : InventoryConfig) (campaignId : String) :
    List ReserveRequest :=
  (db.placementsOf campaignId).flatMap
    (placementRequests cfg campaignId (db.flightsOf campaignId))

def reserveAll (now : Int) : Db → List ReserveRequest → Db × Except String Unit
  | db, [] => (db, .ok ())
  | db, r :: rs =>
      match reserveInventoryForPlacement db now r with
      | (db', .error e) => (db', .error e)
      | (db', .ok _) => reserveAll now db' rs

/-- The part of `request_campaign_approval` that touches the inventory. -/
def reservationPhase (db : Db) (cfg : InventoryConfig) (now : Int) (campaignId : String) :
    Db × Except String Unit :=
  let released := (releaseInventoryForCampaign db now campaignId "re-reserve cleanup").1
  reserveAll now released (approvalRequests released cfg campaignId)

def requestCampaignApproval (db : Db) (cfg : InventoryConfig) (now : Int) (campaignId : String)
    (changedBy : String) (scope : Option (List String)) :
    Db × Except String (Option (CampaignStatus × CampaignStatus × Option String)) :=
  guardedTransition db campaignId .draft .pendingApproval scope fun c ↦
    match notReady db c with
    | some reason => (db, some (c.status, c.status, some reason))
    | none =>
        match reservationPhase db cfg now campaignId with
        | (db', .error e) =>
            (db', some (c.status, c.status, some ("Невозможно забронировать инвентарь: " ++ e ++
              ". Проверьте доступность рекламных поверхностей на выбранные даты " ++
              "или уменьшите долю голоса (SoV).")))
        | (db', .ok ()) =>
            (db'.moveCampaign c .pendingApproval changedBy now "Approval requested",
              some (c.status, .pendingApproval, none))

/-! ## Decision -/

/-- `changed_at` of the latest move from draft to pending approval. -/
def requestedAt (db : Db) (campaignId : String) : Option Int :=
  (Rows.newest (·.changedAt) (db.campaignStatusHistory.filter fun h ↦
    h.campaignId = campaignId ∧ h.oldStatus = some .draft ∧ h.newStatus = .pendingApproval)).map
    (·.changedAt)

/-- Flights, placements and creatives exist, and every linked asset is ready and approved. -/
def approvable (db : Db) (campaignId : String) : Bool :=
  db.flightsOf campaignId ≠ [] ∧ db.placementsOf campaignId ≠ [] ∧
    db.creativesOf campaignId ≠ [] ∧
    (db.linkedAssets campaignId).all fun a ↦
      a.status = .ready ∧ a.moderationStatus = .approved

def recordDecision (db : Db) (c : Campaign) (decision : CampaignStatus) (reviewedBy : String)
    (requestedAt now : Int) (rejectionReason : Option String) : Db :=
  { db with campaignApprovals := db.campaignApprovals ++ [{
      campaignId := c.id
      requestedBy := c.createdBy.getD ""
      requestedAt := requestedAt
      reviewedBy := reviewedBy
      reviewedAt := now
      decision := decision
      rejectionReason := rejectionReason }] }

def approveCampaign (db : Db) (now : Int) (campaignId reviewedBy : String)
    (scope : Option (List String)) : Db × TransitionResult :=
  guardedTransition db campaignId .pendingApproval .approved scope fun c ↦
    if ¬ approvable db campaignId then (db, none)
    else
      match requestedAt db campaignId with
      | none => (db, none)
      | some at_ =>
          let committed := (commitInventoryForCampaign db now campaignId).1
          let decided := recordDecision committed c .approved reviewedBy at_ now none
          (decided.moveCampaign c .approved reviewedBy now "Campaign approved",
            some (c.status, .approved))

def firstChars (n : Nat) (s : String) : String := String.ofList (s.toList.take n)

def rejectCampaign (db : Db) (now : Int) (campaignId reviewedBy reason : String)
    (scope : Option (List String)) : Db × TransitionResult :=
  guardedTransition db campaignId .pendingApproval .rejected scope fun c ↦
    match requestedAt db campaignId with
    | none => (db, none)
    | some at_ =>
        let released := (releaseInventoryForCampaign db now campaignId (firstChars 512 reason)).1
        let decided := recordDecision released c .rejected reviewedBy at_ now
          (some (firstChars 1000 reason))
        (decided.moveCampaign c .rejected reviewedBy now
          ("Campaign rejected: " ++ firstChars 200 reason), some (c.status, .rejected))

/-! ## Activation, pause, completion, archive -/

def activateCampaign (db : Db) (now : Int) (campaignId changedBy : String)
    (scope : Option (List String)) : Db × TransitionResult :=
  guardedTransition db campaignId .approved .active scope fun c ↦
    (db.moveCampaign c .active changedBy now "Campaign activated", some (c.status, .active))

def pauseCampaign (db : Db) (now : Int) (campaignId changedBy : String)
    (scope : Option (List String)) : Db × TransitionResult :=
  guardedTransition db campaignId .active .paused scope fun c ↦
    (db.moveCampaign c .paused changedBy now "Campaign paused", some (c.status, .paused))

def systemUser : String := "00000000-0000-0000-0000-000000000150"

def completeCampaign (db : Db) (now : Int) (campaignId changedBy : String)
    (scope : Option (List String)) : Db × TransitionResult :=
  match db.campaign campaignId with
  | none => (db, .ok none)
  | some c =>
      -- already completed: nothing to do, whatever the scope
      if c.status = .completed then (db, .ok (some (.completed, .completed)))
      else
        guardedTransition db campaignId .active .completed scope fun c ↦
          let flights := db.flightsOf campaignId
          if flights = [] ∨ flights.any (fun f ↦ f.endAt ≥ now) then (db, none)
          else
            (db.moveCampaign c .completed changedBy now
              "All flights ended — campaign completed by system",
              some (c.status, .completed))

def expiredCampaigns (db : Db) (now : Int) : List String :=
  (db.campaigns.filter fun c ↦ c.status = .active ∧ db.flightsOf c.id ≠ [] ∧
    (db.flightsOf c.id).all fun f ↦ f.endAt < now).map (·.id)

def completeExpiredCampaigns (db : Db) (now : Int) (changedBy : String) : Db × List String :=
  let r := Rows.sweep
    (fun d id ↦
      let (d', result) := completeCampaign d now id changedBy none
      (d', match result with
        | .ok (some (_, .completed)) => some id
        | _ => none))
    db (expiredCampaigns db now)
  (r.1, r.2.filterMap id)

/-- Archiving has guards of its own: two source statuses and no transition table. -/
def archiveCampaign (db : Db) (now : Int) (campaignId changedBy : String)
    (scope : Option (List String)) : Db × Except String (Option CampaignStatus × CampaignStatus) :=
  match db.campaign campaignId with
  | none => (db, .ok (none, .archived))
  | some c =>
      if c.status ≠ .draft ∧ c.status ≠ .rejected then (db, .ok (some c.status, c.status))
      else if ¬ inScope c.advertiserOrganizationId scope then
        (db, .error "Organization not in scope")
      else
        (db.moveCampaign c .archived changedBy now "Campaign archived",
          .ok (some c.status, .archived))

end RetailMedia
