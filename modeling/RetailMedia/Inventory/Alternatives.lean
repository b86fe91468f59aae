import RetailMedia.Inventory.Hours

/-! Alternatives for a request that cannot be met: other surfaces of the store, hours nearby, fewer
units, later days. -/

namespace RetailMedia

inductive AlternativeType
  | sameStoreSurface
  | sameSurfaceTime
  | lowerSov
  | laterTime
  deriving DecidableEq, Repr

def AlternativeType.text : AlternativeType → String
  | sameStoreSurface => "SAME_STORE_SURFACE"
  | sameSurfaceTime => "SAME_SURFACE_TIME"
  | lowerSov => "LOWER_SOV"
  | laterTime => "LATER_TIME"

structure AlternativesRequest where
  displaySurfaceId : String
  startsAt : DateTime
  endsAt : DateTime
  requestedCapacityUnits : Option Int := none
  requestedSovPercent : Option Int := none
  maxResults : Nat := 5
  defaultTotalCapacity : Int := 100
  deriving DecidableEq, Repr

/-- The ends of the window are shown by `isoformat`. -/
structure Alternative where
  alternativeType : AlternativeType
  surfaceId : String
  surfaceCode : String
  surfaceName : Option String
  storeId : Option String
  storeCode : Option String
  storeName : Option String
  startsAt : DateTime
  endsAt : DateTime
  availableCapacity : Int
  suggestedCapacityUnits : Option Int
  suggestedSovPercent : Option Int
  reason : String
  score : Int
  deriving DecidableEq, Repr

/-- `t + timedelta(hours=hours)`. -/
def DateTime.plusHours (t : DateTime) (hours : Int) : DateTime :=
  { t with wall := t.wall + hours * hourMicros }

/-- `t + timedelta(days=days)`. -/
def DateTime.plusDays (t : DateTime) (days : Int) : DateTime :=
  { t with wall := t.wall + days * dayMicros }

/-! ## Helpers -/

/-- `_can_satisfy`: always about the window of the request. -/
def canSatisfy (req : AlternativesRequest) (db : Db) (surfaceId : String) (cap sov : Option Int) :
    Db × Bool × Int :=
  match computeInventoryAvailability db surfaceId req.startsAt req.endsAt cap sov
    req.defaultTotalCapacity with
  | (db', .error _) => (db', false, 0)
  | (db', .ok avail) =>
      if avail.allAvailable then (db', true, avail.totalAvailable)
      else
        -- partial: the units of all hours together suffice
        let partially := cap.any fun c ↦
          avail.totalAvailable > 0 ∧ c ≠ 0 ∧ avail.totalAvailable ≥ c
        (db', partially, avail.totalAvailable)

/-- The detector's verdict on a request for the window, units and share. -/
def conflictsAt (req : AlternativesRequest) (now : Int) (db : Db) (surfaceId : String)
    (startsAt endsAt : DateTime) (cap sov : Option Int) : Db × Bool :=
  let (db', conflicts) :=
    detectInventoryConflicts db now surfaceId startsAt endsAt cap sov req.defaultTotalCapacity
  (db', conflicts.hasConflicts)

/-- One turn of a loop that breaks when there are enough alternatives. -/
def offer (maxResults : Nat) (candidate : Db → Db × Option Alternative)
    (st : Db × List Alternative) : Db × List Alternative :=
  if st.2.length ≥ maxResults then st
  else
    match candidate st.1 with
    | (db, some a) => (db, st.2 ++ [a])
    | (db, none) => (db, st.2)

def offerAll (maxResults : Nat) (candidates : List (Db → Db × Option Alternative))
    (st : Db × List Alternative) : Db × List Alternative :=
  candidates.foldl (fun st candidate ↦ offer maxResults candidate st) st

/-! ## Generators -/

/-- A surface with the store that it is joined with. -/
structure SurfaceRow where
  surface : DisplaySurface
  store : Option Store
  deriving DecidableEq, Repr

def Db.surfaceRow (db : Db) (s : DisplaySurface) : SurfaceRow :=
  ⟨s, Rows.get (·.id) s.storeId db.stores⟩

def getDisplaySurface (db : Db) (surfaceId : String) : Option SurfaceRow :=
  (Rows.get (·.id) surfaceId db.displaySurfaces).map db.surfaceRow

/-- Other active surfaces of the store, at most twice as many as results. -/
def Db.storeSurfaces (db : Db) (req : AlternativesRequest) (storeId : String) : List SurfaceRow :=
  ((db.displaySurfaces.filter fun s ↦
    s.storeId = storeId ∧ s.id ≠ req.displaySurfaceId ∧ s.isActive).take
      (req.maxResults * 2)).map db.surfaceRow

def sameStoreSurface (req : AlternativesRequest) (now : Int) (row : SurfaceRow) (db : Db) :
    Db × Option Alternative :=
  let (db, blocked) := conflictsAt req now db row.surface.id req.startsAt req.endsAt
    req.requestedCapacityUnits req.requestedSovPercent
  if blocked then (db, none)
  else
    match canSatisfy req db row.surface.id req.requestedCapacityUnits req.requestedSovPercent with
    | (db, false, _) => (db, none)
    | (db, true, available) =>
        (db, some {
          alternativeType := .sameStoreSurface
          surfaceId := row.surface.id
          surfaceCode := row.surface.code
          surfaceName := none
          storeId := row.store.map (·.id)
          storeCode := row.store.map (·.code)
          storeName := row.store.map (·.name)
          startsAt := req.startsAt
          endsAt := req.endsAt
          availableCapacity := available
          suggestedCapacityUnits := req.requestedCapacityUnits
          suggestedSovPercent := req.requestedSovPercent
          reason := "Поверхность «" ++ row.surface.code ++ "» в том же магазине доступна: " ++
            toString available ++ " ед."
          score := 100 })

/-- An alternative on the requested surface. -/
def onSurface (row : SurfaceRow) (type : AlternativeType) (startsAt endsAt : DateTime)
    (available : Int) (cap sov : Option Int) (reason : String) (score : Int) : Alternative where
  alternativeType := type
  surfaceId := row.surface.id
  surfaceCode := row.surface.code
  surfaceName := some row.surface.code
  storeId := some row.surface.storeId
  storeCode := row.store.map (·.code)
  storeName := row.store.map (·.name)
  startsAt := startsAt
  endsAt := endsAt
  availableCapacity := available
  suggestedCapacityUnits := cap
  suggestedSovPercent := sov
  reason := reason
  score := score

def sameSurfaceTime (req : AlternativesRequest) (now : Int) (row : SurfaceRow) (hours : Int)
    (db : Db) : Db × Option Alternative :=
  let newStart := req.startsAt.plusHours hours
  let newEnd := req.endsAt.plusHours hours
  if newStart.instant ≤ req.startsAt.instant then (db, none)
  else
    match computeInventoryAvailability db req.displaySurfaceId newStart newEnd
      req.requestedCapacityUnits req.requestedSovPercent req.defaultTotalCapacity with
    | (db, .error _) => (db, none)
    | (db, .ok avail) =>
        if ¬ avail.allAvailable then (db, none)
        else
          match conflictsAt req now db req.displaySurfaceId newStart newEnd
            req.requestedCapacityUnits req.requestedSovPercent with
          | (db, true) => (db, none)
          | (db, false) =>
              (db, some (onSurface row .sameSurfaceTime newStart newEnd avail.totalAvailable
                req.requestedCapacityUnits req.requestedSovPercent
                ("На " ++ toString hours ++ "ч позже на той же поверхности доступно: " ++
                  toString avail.totalAvailable ++ " ед.") 80))

/-- A generator that asks `_can_satisfy` about the units or the share, and then the detector about
the window that it suggests. -/
def suggestSatisfied (req : AlternativesRequest) (now : Int) (row : SurfaceRow)
    (type : AlternativeType) (startsAt endsAt : DateTime) (cap sov : Option Int)
    (reason : Int → String) (score : Int) (db : Db) : Db × Option Alternative :=
  match canSatisfy req db req.displaySurfaceId cap sov with
  | (db, false, _) => (db, none)
  | (db, true, available) =>
      match conflictsAt req now db req.displaySurfaceId startsAt endsAt cap sov with
      | (db, true) => (db, none)
      | (db, false) =>
          (db, some (onSurface row type startsAt endsAt available cap sov (reason available) score))

/-- The units that are suggested instead, when there are units to reduce. -/
def reducedUnits (cap : Option Int) : Option Int :=
  (cap.filter (· > 1)).map fun c ↦ max 1 (c / 2)

def lowerSov (req : AlternativesRequest) (now : Int) (row : SurfaceRow) (reducedCap : Int) :
    Db → Db × Option Alternative :=
  suggestSatisfied req now row .lowerSov req.startsAt req.endsAt (some reducedCap) none
    (fun available ↦ "Можно снизить до " ++ toString reducedCap ++
      " ед. — частичная ёмкость доступна: " ++ toString available ++ " ед.") 60

def laterTime (req : AlternativesRequest) (now : Int) (row : SurfaceRow) (days : Int) :
    Db → Db × Option Alternative :=
  suggestSatisfied req now row .laterTime (req.startsAt.plusDays days) (req.endsAt.plusDays days)
    req.requestedCapacityUnits req.requestedSovPercent
    (fun available ↦ "На " ++ toString days ++ " дн. позже на той же поверхности доступно: " ++
      toString available ++ " ед.") 40

/-! ## The call -/

/-- What the first three generators try, in their order. -/
def earlierCandidates (req : AlternativesRequest) (now : Int) (db : Db) (row : SurfaceRow) :
    List (Db → Db × Option Alternative) :=
  (db.storeSurfaces req row.surface.storeId).map (sameStoreSurface req now) ++
    [1, 2, -1, -2].map (sameSurfaceTime req now row) ++
    (reducedUnits req.requestedCapacityUnits).toList.map (lowerSov req now row)

def laterCandidates (req : AlternativesRequest) (now : Int) (row : SurfaceRow) :
    List (Db → Db × Option Alternative) :=
  [1, 2, 3].map (laterTime req now row)

/-- The alternatives of the first three generators. -/
def earlierAlternatives (req : AlternativesRequest) (now : Int) (db : Db) (row : SurfaceRow) :
    Db × List Alternative :=
  offerAll req.maxResults (earlierCandidates req now db row) (db, [])

/-- All alternatives, in the order in which they are found. -/
def foundAlternatives (req : AlternativesRequest) (now : Int) (db : Db) (row : SurfaceRow) :
    Db × List Alternative :=
  offerAll req.maxResults (laterCandidates req now row) (earlierAlternatives req now db row)

/-- `sort(key=score, reverse=True)` is stable. -/
def ranked (alternatives : List Alternative) : List Alternative :=
  alternatives.insertionSort fun a b ↦ b.score ≤ a.score

/-- `suggest_inventory_alternatives`: the `ValueError` text, or the alternatives.  The clock is read
once. -/
def suggestInventoryAlternatives (db : Db) (now : Int) (req : AlternativesRequest) :
    Db × Except String (List Alternative) :=
  if req.requestedCapacityUnits.isSome ∧ req.requestedSovPercent.isSome then
    (db, .error "Provide either requested_capacity_units or requested_sov_percent, not both")
  else
    match getDisplaySurface db req.displaySurfaceId with
    | none => (db, .ok [])
    | some row =>
        let (db', alternatives) := foundAlternatives req now db row
        (db', .ok ((ranked alternatives).take req.maxResults))

end RetailMedia
