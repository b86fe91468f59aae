import RetailMedia.Inventory.Plans
import RetailMedia.Campaign.Lifecycle
import RetailMedia.Lib.Interleaving

/-! The transitions of a campaign as transactions: which of them lock the campaign before they
check its status, what they read, and what they write. -/

namespace RetailMedia

open Interleaving

/-! ## What a transition writes before the status -/

/-- Approvals and inventory only. -/
def PreparationOnly (d d' : Db) : Prop :=
  ∃ approvals slots bookings, d' = { d with
    campaignApprovals := approvals
    inventorySlots := slots
    inventoryBookings := bookings }

/-- What a transition's queries of flights, placements, links and assets have returned. -/
structure ContentAnswers where
  flightCounts : List Nat := []
  placementCounts : List Nat := []
  creativeCounts : List Nat := []
  creativeAssetIds : List (List String) := []
  assets : List (List CreativeAsset) := []
  flights : List (List CampaignFlight) := []
  surfacePlacements : List (List CampaignPlacement) := []
  deriving DecidableEq, Repr

structure Preparation where
  apply : Db → Db
  only : ∀ d, PreparationOnly d (apply d)
  answers : ContentAnswers := {}

theorem PreparationOnly.of_inventory {d d' : Db} (h : InventoryOnly d d') :
    PreparationOnly d d' := by
  obtain ⟨slots, bookings, rfl⟩ := h
  exact ⟨_, slots, bookings, rfl⟩

theorem PreparationOnly.decision {d d' : Db} (h : PreparationOnly d d') (c : Campaign)
    (decision : CampaignStatus) (reviewedBy : String) (requestedAt now : Int)
    (rejectionReason : Option String) :
    PreparationOnly d
      (recordDecision d' c decision reviewedBy requestedAt now rejectionReason) := by
  obtain ⟨_, slots, bookings, rfl⟩ := h
  exact ⟨_, slots, bookings, rfl⟩

def Preparation.nothing : Preparation where
  apply d := d
  only _ := ⟨_, _, _, rfl⟩

/-- What a call makes of slots and bookings. -/
abbrev InventoryWrite := List InventorySlot × List InventoryBooking →
  List InventorySlot × List InventoryBooking

def Preparation.inventory (w : InventoryWrite) (answers : ContentAnswers) : Preparation where
  apply d := { d with
    inventorySlots := (w (d.inventorySlots, d.inventoryBookings)).1
    inventoryBookings := (w (d.inventorySlots, d.inventoryBookings)).2 }
  only _ := ⟨_, _, _, rfl⟩
  answers := answers

/-- What the inventory calls of a request come to when their statements interleave with others:
what the cleanup writes, and what a reservation writes or the text of its error. -/
structure InventoryCalls where
  cfg : InventoryConfig := {}
  release : Db → InventoryWrite
  reserve : ReserveRequest → Db → Except String InventoryWrite

/-! ## The operations -/

inductive CampaignOp
  | requestApproval (calls : InventoryCalls)
  | approve
  | reject (reason : String)
  | activate
  | pause
  | complete
  | archive

namespace CampaignOp

/-- The statuses that the operation starts from. -/
def sources : CampaignOp → List CampaignStatus
  | requestApproval _ => [.draft]
  | approve => [.pendingApproval]
  | reject _ => [.pendingApproval]
  | activate => [.approved]
  | pause => [.active]
  | complete => [.active]
  | archive => [.draft, .rejected]

def target : CampaignOp → CampaignStatus
  | requestApproval _ => .pendingApproval
  | approve => .approved
  | reject _ => .rejected
  | activate => .active
  | pause => .paused
  | complete => .completed
  | archive => .archived

def historyReason : CampaignOp → String
  | requestApproval _ => "Approval requested"
  | approve => "Campaign approved"
  | reject reason => "Campaign rejected: " ++ firstChars 200 reason
  | activate => "Campaign activated"
  | pause => "Campaign paused"
  | complete => "All flights ended — campaign completed by system"
  | archive => "Campaign archived"

/-- `SELECT … FOR UPDATE`, which two of the operations leave out. -/
def locks : CampaignOp → Bool
  | requestApproval _ => false
  | archive => false
  | _ => true

end CampaignOp

/-- Old and new status, and the reason of a request that fails; an error is a `ScopeError`. -/
abbrev Returned :=
  Except String (Option CampaignStatus × Option CampaignStatus × Option String)

def nothingDone : Returned := .ok (none, none, none)

namespace CampaignOp

def missing : CampaignOp → Returned
  | archive => .ok (none, some .archived, none)
  | _ => nothingDone

/-- What the operation returns for a campaign in another status. -/
def inapplicable : CampaignOp → CampaignStatus → Returned
  | archive, status => .ok (some status, some status, none)
  | complete, .completed => .ok (some .completed, some .completed, none)
  | _, _ => nothingDone

/-- Archiving does not ask the transition table. -/
def guarded : CampaignOp → Bool
  | archive => false
  | _ => true

/-- The checks on the campaign that has been read. -/
def refusal (op : CampaignOp) (c : Campaign) (scope : Option (List String)) : Option Returned :=
  if c.status ∉ op.sources then some (op.inapplicable c.status)
  else if ¬ inScope c.advertiserOrganizationId scope then
    some (.error "Organization not in scope")
  else if op.guarded ∧ ¬ validTransition c.status op.target then some nothingDone
  else none

end CampaignOp

/-! ## The transaction -/

/-- `preparation` is what is written besides the status and its history. -/
inductive TransitionPhase
  | start
  | reading (c : Campaign) (reads : Reading Db (Except Returned Preparation))
  | updated (c : Campaign) (preparation : Preparation)
  | returning (r : Returned)

structure TransitionTx where
  campaignId : String
  actor : String
  now : Int
  scope : Option (List String) := none
  op : CampaignOp
  phase : TransitionPhase := .start

namespace TransitionTx

/-- The reservations of a placement, one for each flight. -/
def reserveFlights (calls : InventoryCalls) :
    List ReserveRequest → InventoryWrite → Reading Db (Except String InventoryWrite)
  | [], w => .done (.ok w)
  | r :: rs, w => .read fun d ↦
      match calls.reserve r d with
      | .error e => .done (.error e)
      | .ok w' => reserveFlights calls rs (w' ∘ w)

/-- The flights are read again for every placement. -/
def reservePlacements (calls : InventoryCalls) (campaignId : String) :
    List CampaignPlacement → InventoryWrite → List (List CampaignFlight) →
      Reading Db (Except String (InventoryWrite × List (List CampaignFlight)))
  | [], w, seen => .done (.ok (w, seen))
  | p :: ps, w, seen => .read fun d ↦
      let flights := d.flightsOf campaignId
      (reserveFlights calls (placementRequests calls.cfg campaignId flights p) w).bind fun
        | .error e => .done (.error e)
        | .ok w' => reservePlacements calls campaignId ps w' (seen ++ [flights])

def requestRefused (c : Campaign) (reason : String) : Returned :=
  .ok (some c.status, some c.status, some reason)

/-- The reservation, and what it adds to the answers that the checks have had. -/
def reserveReads (calls : InventoryCalls) (c : Campaign) (answers : ContentAnswers) :
    Reading Db (Except Returned Preparation) :=
  .read fun placements ↦ .read fun bookings ↦
    let reservable := placements.surfacePlacementsOf c.id
    (reservePlacements calls c.id reservable (calls.release bookings) answers.flights).bind fun
      | .error e => .done (.error (requestRefused c ("Невозможно забронировать инвентарь: " ++ e ++
          ". Проверьте доступность рекламных поверхностей на выбранные даты " ++
          "или уменьшите долю голоса (SoV).")))
      | .ok (w, flights) => .done (.ok (.inventory w { answers with
          flights := flights
          surfacePlacements := [reservable] }))

/-- Flights, placements and links are counted one after the other, then come the assets of the
links, the contract, and the flights if there is one. -/
def requestReads (calls : InventoryCalls) (c : Campaign) :
    Reading Db (Except Returned Preparation) :=
  .read fun flights ↦ .read fun placements ↦ .read fun creatives ↦
    let missing := missingParts { flights with
      campaignPlacements := placements.campaignPlacements
      campaignCreatives := creatives.campaignCreatives } c.id
    if missing ≠ [] then
      .done (.error (requestRefused c
        ("Кампания не готова к отправке: отсутствуют " ++ ", ".intercalate missing)))
    else .read fun links ↦ .read fun assets ↦
      let linked := { assets with campaignCreatives := links.campaignCreatives }.linkedAssets c.id
      match linked.findSome? notDeliverable with
      | some reason => .done (.error (requestRefused c reason))
      | none =>
          let answers : ContentAnswers := {
            flightCounts := [(flights.flightsOf c.id).length]
            placementCounts := [(placements.placementsOf c.id).length]
            creativeCounts := [(creatives.creativesOf c.id).length]
            creativeAssetIds := [(links.creativesOf c.id).map (·.creativeAssetId)]
            assets := [linked] }
          .read fun contracts ↦
            match Rows.get (·.id) c.advertiserContractId contracts.advertiserContracts with
            | none => reserveReads calls c answers
            | some contract => .read fun flights ↦
                match (flights.flightsOf c.id).findSome? (outsideContract contract) with
                | some reason => .done (.error (requestRefused c reason))
                | none => reserveReads calls c { answers with flights := [flights.flightsOf c.id] }

def commitPreparation (now : Int) (c : Campaign) (reviewedBy : String) (answers : ContentAnswers)
    (requestedAt : Int) : Preparation where
  apply d := recordDecision (commitInventoryForCampaign d now c.id).1 c .approved reviewedBy
    requestedAt now none
  only d := (PreparationOnly.of_inventory (settle_inventoryOnly _ _ _ _ d)).decision c .approved
    reviewedBy requestedAt now none
  answers := answers

def releasePreparation (now : Int) (c : Campaign) (reviewedBy reason : String)
    (requestedAt : Int) : Preparation where
  apply d := recordDecision (releaseInventoryForCampaign d now c.id (firstChars 512 reason)).1 c
    .rejected reviewedBy requestedAt now (some (firstChars 1000 reason))
  only d := (PreparationOnly.of_inventory (settle_inventoryOnly _ _ _ _ d)).decision c .rejected
    reviewedBy requestedAt now (some (firstChars 1000 reason))

def assetsApproved (assets : List CreativeAsset) : Bool :=
  assets.all fun a ↦ a.status = .ready ∧ a.moderationStatus = .approved

/-- The readiness is read again, and then when the approval was requested. -/
def approveReads (now : Int) (c : Campaign) (reviewedBy : String) :
    Reading Db (Except Returned Preparation) :=
  .read fun flights ↦ .read fun placements ↦ .read fun links ↦
    if flights.flightsOf c.id = [] ∨ placements.placementsOf c.id = [] ∨
        links.creativesOf c.id = [] then .done (.error nothingDone)
    else .read fun assets ↦
      let linked := { assets with campaignCreatives := links.campaignCreatives }.linkedAssets c.id
      if ¬ assetsApproved linked then .done (.error nothingDone)
      else .read fun history ↦
        match requestedAt history c.id with
        | none => .done (.error nothingDone)
        | some at_ =>
            let answers : ContentAnswers := {
              flightCounts := [(flights.flightsOf c.id).length]
              placementCounts := [(placements.placementsOf c.id).length]
              creativeAssetIds := [(links.creativesOf c.id).map (·.creativeAssetId)]
              assets := [linked] }
            .done (.ok (commitPreparation now c reviewedBy answers at_))

def rejectReads (now : Int) (c : Campaign) (reviewedBy reason : String) :
    Reading Db (Except Returned Preparation) :=
  .read fun history ↦
    match requestedAt history c.id with
    | none => .done (.error nothingDone)
    | some at_ => .done (.ok (releasePreparation now c reviewedBy reason at_))

def completeReads (now : Int) (c : Campaign) : Reading Db (Except Returned Preparation) :=
  .read fun d ↦
    let flights := d.flightsOf c.id
    if flights = [] ∨ flights.any (fun f ↦ f.endAt ≥ now) then .done (.error nothingDone)
    else .done (.ok .nothing)

variable (x : TransitionTx)

def reads (c : Campaign) : Reading Db (Except Returned Preparation) :=
  match x.op with
  | .requestApproval calls => requestReads calls c
  | .approve => approveReads x.now c x.actor
  | .reject reason => rejectReads x.now c x.actor reason
  | .complete => completeReads x.now c
  | _ => .done (.ok .nothing)

/-- The first `SELECT`, and the checks on what it returns. -/
def select (d : Db) : TransitionPhase :=
  match d.campaign x.campaignId with
  | none => .returning x.op.missing
  | some c =>
      match x.op.refusal c x.scope with
      | some r => .returning r
      | none => .reading c (x.reads c)

def row (d : Db) : Option String := (d.campaign x.campaignId).map (·.id)

/-- The tables once the transaction has committed. -/
def write (c : Campaign) (p : Preparation) (d : Db) : Db :=
  (p.apply d).moveCampaign c x.op.target x.actor x.now x.op.historyReason

end TransitionTx

/-- The session writes when it is flushed: first `UPDATE campaigns … WHERE id`, which locks the
row in every operation. -/
def transitionStmt (x : TransitionTx) : Stmt String Db TransitionTx :=
  match x.phase with
  | .start =>
      if x.op.locks then .lock x.row fun d ↦ { x with phase := x.select d }
      else .run fun d ↦ { x with phase := x.select d }
  | .reading c (.read k) => .run fun d ↦ { x with phase := .reading c (k d) }
  | .reading _ (.done (.error r)) => .run fun _ ↦ { x with phase := .returning r }
  | .reading c (.done (.ok p)) => .lock x.row fun _ ↦ { x with phase := .updated c p }
  | .updated c p => .commit fun d ↦ some (x.write c p d)
  | .returning _ => .commit some

end RetailMedia
