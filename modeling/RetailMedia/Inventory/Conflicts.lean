import RetailMedia.Inventory.Slots
import Mathlib.Data.List.Sort

/-! Conflict detection for a placement request: surface, rules, capacity and total demand. -/

namespace RetailMedia

inductive ConflictType
  | capacityOverbooked
  | surfaceInactive
  | blackoutRule
  | internalBlock
  | sovOver100
  | maxSovRule
  deriving DecidableEq, Repr

def ConflictType.text : ConflictType → String
  | capacityOverbooked => "CAPACITY_OVERBOOKED"
  | surfaceInactive => "SURFACE_INACTIVE"
  | blackoutRule => "BLACKOUT_RULE"
  | internalBlock => "INTERNAL_BLOCK"
  | sovOver100 => "SOV_OVER_100"
  | maxSovRule => "MAX_SOV_RULE"

inductive Severity
  | blocking
  | warning
  deriving DecidableEq, Repr

structure Conflict where
  conflictType : ConflictType
  severity : Severity := .blocking
  surfaceId : String
  ruleId : Option String := none
  ruleType : Option RuleType := none
  capacityUnits : Option Int := none
  maxSovPercent : Option Int := none
  requestedSovPercent : Option Int := none
  slotDate : Option String := none
  slotHour : Option Nat := none
  availableCapacity : Option Int := none
  requestedCapacity : Option Int := none
  message : String
  deriving DecidableEq, Repr

/-- Demand and supply of the window when their ratio exceeds 100%: the `SOV_OVER_100` warning,
which the source reports with the ratio as a rounded percentage. -/
structure SovWarning where
  surfaceId : String
  totalRequested : Int
  totalAvailable : Int
  deriving DecidableEq, Repr

structure Conflicts where
  hasConflicts : Bool
  blocking : List Conflict
  warnings : List SovWarning
  deriving DecidableEq, Repr

def blockedBy (c : Conflict) : Conflicts := ⟨true, [c], []⟩

/-! ## Rules -/

def scopeRank : ScopeType → Int
  | .surface => 5
  | .store => 4
  | .cluster => 3
  | .branch => 2
  | .global => 1

/-- `reverse=True` on the pair of scope rank and priority: the more specific scope first, the
higher priority first within a scope. -/
def precedes (r r' : InventoryRule) : Bool :=
  scopeRank r'.scopeType < scopeRank r.scopeType ∨
    (scopeRank r'.scopeType = scopeRank r.scopeType ∧ r'.priority ≤ r.priority)

def InventoryRule.inWindow (now : Int) (r : InventoryRule) : Bool :=
  r.startsAt.all (· ≤ now) ∧ r.endsAt.all (now ≤ ·)

def getApplicableRules (db : Db) (now : Int) : List InventoryRule :=
  let active := db.inventoryRules.filter (·.isActive)
  let rules := active.insertionSort fun r r' ↦ r'.priority ≤ r.priority
  let applicable := rules.filter (·.inWindow now)
  -- both sorts are stable, so equal rules stay in the order of the first one
  applicable.insertionSort fun r r' ↦ precedes r r'

/-- Only surface and global scopes apply; a surface rule only to its own surface. -/
def InventoryRule.appliesTo (surfaceId : String) (r : InventoryRule) : Bool :=
  match r.scopeType with
  | .surface => r.scopeId = some surfaceId
  | .global => true
  | _ => false

def ruleConflict (surfaceId : String) (sov : Option Int) (r : InventoryRule) : Option Conflict :=
  match r.ruleType with
  | .blackout =>
      some {
        conflictType := .blackoutRule
        surfaceId := surfaceId
        ruleId := some r.id
        ruleType := some r.ruleType
        message := "Blackout rule: " ++ r.valueJson.reason.getD "Blackout period" }
  | .internalBlock =>
      let cap := r.valueJson.capacityUnits.getD 0
      some {
        conflictType := .internalBlock
        surfaceId := surfaceId
        ruleId := some r.id
        ruleType := some r.ruleType
        capacityUnits := some cap
        message := "Internal block: " ++ toString cap ++ " capacity units reserved" }
  | .maxSov =>
      let maxPct := r.valueJson.maxSovPercent.getD 100
      -- a share of zero is falsy and passes every limit
      match sov with
      | none => none
      | some p =>
          if p ≠ 0 ∧ p > maxPct then
            some {
              conflictType := .maxSovRule
              surfaceId := surfaceId
              ruleId := some r.id
              ruleType := some r.ruleType
              maxSovPercent := some maxPct
              requestedSovPercent := some p
              message := "Requested SOV " ++ toString p ++ "% exceeds max allowed " ++
                toString maxPct ++ "%" }
          else none

def ruleConflicts (db : Db) (now : Int) (surfaceId : String) (sov : Option Int) : List Conflict :=
  ((getApplicableRules db now).filter (·.appliesTo surfaceId)).filterMap
    (ruleConflict surfaceId sov)

/-! ## Capacity -/

def overbooked (surfaceId : String) (e : SlotEntry) : Conflict where
  conflictType := .capacityOverbooked
  surfaceId := surfaceId
  slotDate := some e.slotDate
  slotHour := some e.slotHour
  availableCapacity := some e.availableCapacity
  requestedCapacity := some e.requestedCapacity
  message := "Slot " ++ e.slotDate ++ "T" ++ toString e.slotHour ++ ":00 overbooked: available=" ++
    toString e.availableCapacity ++ ", needed=" ++ toString e.requestedCapacity

/-- `total_requested / max(total_available, 1) * 100 > 100`, for a request by share. -/
def sovWarnings (surfaceId : String) (sov : Option Int) (a : Availability) : List SovWarning :=
  if sov.isSome ∧ a.totalRequested > max a.totalAvailable 1 then
    [⟨surfaceId, a.totalRequested, max a.totalAvailable 1⟩]
  else []

def detectInventoryConflicts (db : Db) (now : Int) (surfaceId : String)
    (startsAt endsAt : DateTime) (units sov : Option Int) (default : Int) : Db × Conflicts :=
  match Rows.get (·.id) surfaceId db.displaySurfaces with
  | none =>
      (db, blockedBy {
        conflictType := .surfaceInactive
        surfaceId := surfaceId
        message := "Display surface not found" })
  | some surface =>
      if ¬ surface.isActive then
        (db, blockedBy {
          conflictType := .surfaceInactive
          surfaceId := surfaceId
          message := "Display surface is inactive" })
      else
        let rules := ruleConflicts db now surfaceId sov
        match computeInventoryAvailability db surfaceId startsAt endsAt units sov default with
        | (db', .error e) =>
            (db', {
              hasConflicts := true
              blocking := rules ++ [{
                conflictType := .capacityOverbooked, surfaceId := surfaceId, message := e }]
              warnings := [] })
        | (db', .ok avail) =>
            let blocking := rules ++ avail.conflicts.map (overbooked surfaceId)
            (db', {
              hasConflicts := ¬ blocking.isEmpty
              blocking := blocking
              warnings := sovWarnings surfaceId sov avail })

end RetailMedia
