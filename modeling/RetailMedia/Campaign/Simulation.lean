import RetailMedia.Inventory.Supply
import RetailMedia.Campaign.Lifecycle
import Mathlib

/-! The two checks of a campaign's inventory before its approval, and when the reservations of the
approval request agree with them. -/

namespace RetailMedia

/-! ## The availability check -/

def unavailableText (surfaceId : String) (conflicts : List SlotEntry) : String :=
  let first := conflicts.head?
  let date := (first.map (·.slotDate)).getD "?"
  let hour := (first.map fun e ↦ toString e.slotHour).getD "?"
  "Inventory unavailable for surface " ++ surfaceId ++ ": slot " ++ date ++ "T" ++ hour ++
    ":00 available=" ++ toString ((first.map (·.availableCapacity)).getD 0) ++ ", needed=" ++
    toString ((first.map (·.requestedCapacity)).getD 0)

/-- The loop over the flights, up to the first that does not fit. -/
def checkFlights (default : Int) (p : CampaignPlacement) (surfaceId : String) (db : Db) :
    List CampaignFlight → Db × Option String
  | [] => (db, none)
  | f :: flights =>
      match computeInventoryAvailability db surfaceId (.utc f.startAt) (.utc f.endAt) none
          (some p.sov) default with
      | (db', .error e) => (db', some ("Availability check failed: " ++ e))
      | (db', .ok a) =>
          if ¬ a.allAvailable then (db', some (unavailableText surfaceId a.conflicts))
          else checkFlights default p surfaceId db' flights

def checkPlacements (default : Int) (flights : List CampaignFlight) (db : Db) :
    List CampaignPlacement → Db × Option String
  | [] => (db, none)
  | p :: placements =>
      match p.displaySurfaceId with
      | none => checkPlacements default flights db placements
      -- an empty surface id is falsy
      | some "" => checkPlacements default flights db placements
      | some surfaceId =>
          match checkFlights default p surfaceId db flights with
          | (db', some detail) => (db', some detail)
          | (db', none) => checkPlacements default flights db' placements

def checkInventoryAvailableForCampaign (db : Db) (campaignId : String) (default : Int) :
    Db × Bool × String :=
  let placements := db.surfacePlacementsOf campaignId
  let flights := db.flightsOf campaignId
  if placements = [] then (db, false, "No placements with display surface targets found")
  else if flights = [] then (db, false, "No flights found")
  else
    match checkPlacements default flights db placements with
    | (db', some detail) => (db', false, detail)
    | (db', none) => (db', true, "Inventory available for all placements")

/-! ## The simulation -/

structure AppliedRule where
  ruleId : String
  ruleType : RuleType
  scopeType : ScopeType
  scopeId : Option String
  valueJson : RuleValue
  priority : Int
  deriving DecidableEq, Repr

def InventoryRule.applied (r : InventoryRule) : AppliedRule where
  ruleId := r.id
  ruleType := r.ruleType
  scopeType := r.scopeType
  scopeId := r.scopeId
  valueJson := r.valueJson
  priority := r.priority

def listInventoryRules (db : Db) : List InventoryRule :=
  db.inventoryRules.insertionSort fun r r' ↦ r'.priority ≤ r.priority

/-- What the loop over the flights of one placement has gathered. -/
structure PlacementTotals where
  fit : Bool := true
  blocking : List Conflict := []
  warnings : List SovWarning := []
  -- blocking conflicts and warnings in the order of the flights
  conflicts : List (Conflict ⊕ SovWarning) := []
  appliedRules : List AppliedRule := []
  totalRequested : Int := 0
  totalAvailable : Int := 0
  deriving Repr

def addRule (rules : List AppliedRule) (r : InventoryRule) : List AppliedRule :=
  if ¬ r.isActive ∨ r.applied ∈ rules then rules else rules ++ [r.applied]

def PlacementTotals.add (t : PlacementTotals) (a : Availability) (c : Conflicts)
    (rules : List InventoryRule) : PlacementTotals where
  fit := t.fit ∧ a.allAvailable ∧ c.blocking = []
  blocking := t.blocking ++ c.blocking
  warnings := t.warnings ++ c.warnings
  conflicts := t.conflicts ++ c.blocking.map .inl ++ c.warnings.map .inr
  appliedRules := rules.foldl addRule t.appliedRules
  totalRequested := t.totalRequested + a.totalRequested
  totalAvailable := t.totalAvailable + a.totalAvailable

/-- The loop over the flights; an availability that cannot be computed ends the simulation. -/
def simulateFlights (now default : Int) (p : CampaignPlacement) (surfaceId : String) (db : Db)
    (t : PlacementTotals) : List CampaignFlight → Db × Except String PlacementTotals
  | [] => (db, .ok t)
  | f :: flights =>
      match computeInventoryAvailability db surfaceId (.utc f.startAt) (.utc f.endAt) none
          (some p.sov) default with
      | (db', .error e) => (db', .error e)
      | (db', .ok a) =>
          let (db'', conflicts) := detectInventoryConflicts db' now surfaceId (.utc f.startAt)
            (.utc f.endAt) none (some p.sov) default
          simulateFlights now default p surfaceId db''
            (t.add a conflicts (listInventoryRules db'')) flights

structure PlacementSimulation where
  placementId : String
  surfaceId : String
  surfaceCode : Option String
  /-- A surface has no name. -/
  surfaceName : Option String := none
  storeCode : Option String
  storeName : Option String
  fit : Bool
  /-- Numerator and denominator of what is reported as a rounded percentage. -/
  slotFill : Int × Int
  totalRequested : Int
  totalAvailable : Int
  conflicts : List (Conflict ⊕ SovWarning)
  appliedRules : List AppliedRule
  deriving Repr

def placementSimulation (db : Db) (p : CampaignPlacement) (surfaceId : String)
    (t : PlacementTotals) : PlacementSimulation :=
  let surface := Rows.get (·.id) surfaceId db.displaySurfaces
  let store := surface.bind fun s ↦ Rows.get (·.id) s.storeId db.stores
  { placementId := p.id
    surfaceId := surfaceId
    surfaceCode := surface.map (·.code)
    storeCode := store.map (·.code)
    storeName := store.map (·.name)
    fit := t.fit
    slotFill := (t.totalRequested, max t.totalAvailable 1)
    totalRequested := t.totalRequested
    totalAvailable := t.totalAvailable
    conflicts := t.conflicts
    appliedRules := t.appliedRules }

structure Simulation where
  campaignId : String
  overallFit : Bool := true
  placements : List PlacementSimulation := []
  blockingCount : Nat := 0
  warningCount : Nat := 0
  deriving Repr

def Simulation.add (x : Simulation) (s : PlacementSimulation) (t : PlacementTotals) :
    Simulation :=
  { x with
    overallFit := x.overallFit ∧ s.fit
    placements := x.placements ++ [s]
    blockingCount := x.blockingCount + t.blocking.length
    warningCount := x.warningCount + t.warnings.length }

def simulatePlacements (now default : Int) (flights : List CampaignFlight) (db : Db)
    (x : Simulation) : List CampaignPlacement → Db × Except String Simulation
  | [] => (db, .ok x)
  | p :: placements =>
      match p.displaySurfaceId with
      | none => simulatePlacements now default flights db x placements
      | some surfaceId =>
          match simulateFlights now default p surfaceId db {} flights with
          | (db', .error e) => (db', .error e)
          | (db', .ok t) =>
              simulatePlacements now default flights db'
                (x.add (placementSimulation db' p surfaceId t) t) placements

def simulateCampaignInventory (db : Db) (now : Int) (campaignId : String) (default : Int) :
    Db × Except String Simulation :=
  simulatePlacements now default (db.flightsOf campaignId) db { campaignId := campaignId }
    (db.surfacePlacementsOf campaignId)

/-- The simulation is reported, with `overall_fit`. -/
def SimulatedFit (db : Db) (now : Int) (campaignId : String) (default : Int) : Prop :=
  ∃ x, (simulateCampaignInventory db now campaignId default).2 = .ok x ∧ x.overallFit = true

/-! ## The reservations of an approval request -/

/-- What placements book in an hour of a surface: each its share, in the hours of the first
flight. -/
def bookedUnits (default : Int) (flights : List CampaignFlight) (c : Capacity)
    (surfaceId : String) (p : Int × Nat) (placements : List CampaignPlacement) : Int :=
  match flights with
  | [] => 0
  | first :: _ =>
      if (slotPairs (.utc first.startAt) (.utc first.endAt)).contains p then
        ((placements.filter (·.displaySurfaceId = some surfaceId)).map
          fun q ↦ c.units default q.sov).sum
      else 0

/-- The supply that is left by the placements that have booked already. -/
def Supply.leftBy (S : Supply) (default : Int) (flights : List CampaignFlight)
    (placements : List CampaignPlacement) : Supply :=
  fun surfaceId p ↦
    (S surfaceId p).take (bookedUnits default flights (S surfaceId p) surfaceId p placements)

/-- A placement fits after the placements before it: its share has room in every hour of every
flight, and from the second flight on beside its own bookings for the first. -/
def PlacementFits (S : Supply) (default : Int) (flights : List CampaignFlight)
    (earlier : List CampaignPlacement) (q : CampaignPlacement) : Prop :=
  ∀ surfaceId, q.displaySurfaceId = some surfaceId →
    match flights with
    | [] => True
    | first :: later =>
        (S.leftBy default flights earlier).Covers default surfaceId q.sov (.utc first.startAt)
            (.utc first.endAt) ∧
          ∀ f ∈ later, (S.leftBy default flights (earlier ++ [q])).Covers default surfaceId q.sov
            (.utc f.startAt) (.utc f.endAt)

/-- All placements fit, each after the ones before it. -/
def FitInTurn (S : Supply) (default : Int) (flights : List CampaignFlight) :
    List CampaignPlacement → List CampaignPlacement → Prop
  | _, [] => True
  | earlier, q :: placements =>
      PlacementFits S default flights earlier q ∧
        FitInTurn S default flights (earlier ++ [q]) placements

def CampaignFits (db : Db) (cfg : InventoryConfig) (campaignId : String) : Prop :=
  FitInTurn (db.supply cfg.defaultSlotCapacity) cfg.defaultSlotCapacity (db.flightsOf campaignId)
    [] (db.placementsOf campaignId)

end RetailMedia
