import RetailMedia.Pop.Quarantine
import RetailMedia.Lib.Query

/-! The reports of a campaign by day and by surface beside its summary. -/

namespace RetailMedia

structure PopDayRow where
  date : Int
  impressionsCount : Nat
  totalDurationMs : Int
  deriving DecidableEq, Repr

structure PopSurfaceRow where
  surfaceId : String
  impressionsCount : Nat
  totalDurationMs : Int
  deriving DecidableEq, Repr

/-- The `timezone` columns of the stores and the branches, by id. -/
structure TimezoneColumns where
  store : String → String
  branch : String → String

/-- An event with the rows that the outer joins find for it. -/
structure JoinedEvent where
  event : PopEventRaw
  surface : Option DisplaySurface
  store : Option Store
  cluster : Option Cluster
  branch : Option Branch

/-! ## By day -/

/-- The event's surface, the surface's store and so on; a row that a join has found nothing for
joins nothing further. -/
def joinLocations (db : Db) (rows : List PopEventRaw) : List JoinedEvent :=
  let surfaces := Query.leftJoin (fun r x ↦ x.id = r.surfaceId) rows db.displaySurfaces
  let stores := Query.leftJoin (fun r x ↦ r.2.any (x.id = ·.storeId)) surfaces db.stores
  let clusters := Query.leftJoin (fun r x ↦ r.2.any (x.id = ·.clusterId)) stores db.clusters
  let branches := Query.leftJoin (fun r x ↦ r.2.any (x.id = ·.branchId)) clusters db.branches
  branches.map fun r ↦ {
    event := r.1.1.1.1
    surface := r.1.1.1.2
    store := r.1.1.2
    cluster := r.1.2
    branch := r.2 }

/-- `coalesce(Store.timezone, Branch.timezone, 'Europe/Moscow')`. -/
def JoinedEvent.localTz (tz : TimezoneColumns) (r : JoinedEvent) : String :=
  ((r.store.map fun s ↦ tz.store s.id).or (r.branch.map fun b ↦ tz.branch b.id)).getD
    "Europe/Moscow"

section Reports

-- `localDate` is the database's `cast(timezone(tz, t) as date)`
variable (localDate : String → Int → Int) (tz : TimezoneColumns) (db : Db) (campaignId : String)

def listCampaignPopByDay : List PopDayRow :=
  let rows := (joinLocations db (summaryRows db campaignId)).map fun r ↦
    (r.event, localDate (r.localTz tz) r.event.renderedAt)
  ((Dict.groupBy rows).map fun g ↦ {
    date := g.1
    impressionsCount := g.2.length
    totalDurationMs := (g.2.map (·.durationMs)).sum : PopDayRow }).insertionSort fun a b ↦
      a.date ≤ b.date

def listCampaignPopBySurface : List PopSurfaceRow :=
  let rows := (summaryRows db campaignId).map fun r ↦ (r, r.surfaceId)
  ((Dict.groupBy rows).map fun g ↦ {
    surfaceId := g.1
    impressionsCount := g.2.length
    totalDurationMs := (g.2.map (·.durationMs)).sum : PopSurfaceRow }).insertionSort fun a b ↦
      a.impressionsCount ≥ b.impressionsCount

end Reports

/-! ## Every row is counted once -/

/-- The primary keys of the tables that the report by day joins. -/
structure LocationKeys (db : Db) : Prop where
  surfaces : (db.displaySurfaces.map (·.id)).Nodup
  stores : (db.stores.map (·.id)).Nodup
  clusters : (db.clusters.map (·.id)).Nodup
  branches : (db.branches.map (·.id)).Nodup

/-- A join on a key that may be missing finds one row at most. -/
theorem filter_any_key {α β : Type*} {key : β → String} {table : List β}
    (h : (table.map key).Nodup) (o : Option α) (f : α → String) :
    (table.filter fun x ↦ o.any (key x = f ·)).length ≤ 1 := by
  cases o with
  | none => simp
  | some a =>
      simp only [Option.any_some]
      exact Query.filter_key_length h (f a)

theorem joinLocations_events {db : Db} (h : LocationKeys db) (rows : List PopEventRaw) :
    (joinLocations db rows).map (·.event) = rows := by
  have hsurface (r : PopEventRaw) := Query.filter_key_length h.surfaces r.surfaceId
  have hstore (r : PopEventRaw × Option DisplaySurface) :=
    filter_any_key h.stores r.2 (·.storeId)
  have hcluster (r : (PopEventRaw × Option DisplaySurface) × Option Store) :=
    filter_any_key h.clusters r.2 (·.clusterId)
  have hbranch (r : ((PopEventRaw × Option DisplaySurface) × Option Store) × Option Cluster) :=
    filter_any_key h.branches r.2 (·.branchId)
  have hevent : (fun r : JoinedEvent ↦ r.event) ∘
      (fun r : (((PopEventRaw × Option DisplaySurface) × Option Store) × Option Cluster) ×
        Option Branch ↦ (⟨r.1.1.1.1, r.1.1.1.2, r.1.1.2, r.1.2, r.2⟩ : JoinedEvent)) =
      (·.1) ∘ (·.1) ∘ (·.1) ∘ (·.1) := rfl
  unfold joinLocations
  dsimp only
  -- from the last join back to the first
  rw [List.map_map, hevent, ← List.map_map, ← List.map_map, ← List.map_map,
    Query.map_fst_leftJoin hbranch, Query.map_fst_leftJoin hcluster,
    Query.map_fst_leftJoin hstore, Query.map_fst_leftJoin hsurface]

/-- The counts of groups add up to the number of their members. -/
theorem sum_length_groupBy {α κ : Type*} [DecidableEq κ] (entries : List (α × κ)) :
    ((Dict.groupBy entries).map (·.2.length)).sum = entries.length := by
  have hone := Query.sum_groupBy (fun _ : α ↦ 1) entries
  simpa using hone

section Sums

variable (localDate : String → Int → Int) (tz : TimezoneColumns) {db : Db} (h : LocationKeys db)
  (campaignId : String)
include h

theorem byDay_impressions :
    ((listCampaignPopByDay localDate tz db campaignId).map (·.impressionsCount)).sum =
      (summaryRows db campaignId).length := by
  have hlength := congrArg List.length (joinLocations_events h (summaryRows db campaignId))
  rw [List.length_map] at hlength
  unfold listCampaignPopByDay
  rw [((List.perm_insertionSort _ _).map _).sum_eq, List.map_map, ← hlength]
  refine (sum_length_groupBy _).trans ?_
  rw [List.length_map]

theorem byDay_duration :
    ((listCampaignPopByDay localDate tz db campaignId).map (·.totalDurationMs)).sum =
      ((summaryRows db campaignId).map (·.durationMs)).sum := by
  have hevents := joinLocations_events h (summaryRows db campaignId)
  unfold listCampaignPopByDay
  rw [((List.perm_insertionSort _ _).map _).sum_eq, List.map_map]
  refine (Query.sum_groupBy PopEventRaw.durationMs _).trans ?_
  rw [List.map_map, ← hevents, List.map_map, hevents]
  rfl

end Sums

theorem bySurface_impressions (db : Db) (campaignId : String) :
    ((listCampaignPopBySurface db campaignId).map (·.impressionsCount)).sum =
      (summaryRows db campaignId).length := by
  unfold listCampaignPopBySurface
  rw [((List.perm_insertionSort _ _).map _).sum_eq, List.map_map]
  refine (sum_length_groupBy _).trans ?_
  rw [List.length_map]

theorem bySurface_duration (db : Db) (campaignId : String) :
    ((listCampaignPopBySurface db campaignId).map (·.totalDurationMs)).sum =
      ((summaryRows db campaignId).map (·.durationMs)).sum := by
  unfold listCampaignPopBySurface
  rw [((List.perm_insertionSort _ _).map _).sum_eq, List.map_map]
  refine (Query.sum_groupBy PopEventRaw.durationMs _).trans ?_
  rw [List.map_map]
  rfl

theorem bySurface_length (db : Db) (campaignId : String) :
    (listCampaignPopBySurface db campaignId).length =
      ((summaryRows db campaignId).map (·.surfaceId)).dedup.length := by
  unfold listCampaignPopBySurface
  rw [(List.perm_insertionSort _ _).length_eq, List.length_map, Query.length_groupBy,
    List.map_map]
  rfl

/-- The three reports count the same rows, each of them once, whatever their surfaces resolve
to. -/
theorem popReports_agree (localDate : String → Int → Int) (tz : TimezoneColumns) {db : Db}
    (h : LocationKeys db) (campaignId : String) :
    let summary := getCampaignPopSummary db campaignId
    let days := listCampaignPopByDay localDate tz db campaignId
    let surfaces := listCampaignPopBySurface db campaignId
    summary.impressionsCount = (days.map (·.impressionsCount)).sum ∧
    summary.totalDurationMs = (days.map (·.totalDurationMs)).sum ∧
    summary.impressionsCount = (surfaces.map (·.impressionsCount)).sum ∧
    summary.totalDurationMs = (surfaces.map (·.totalDurationMs)).sum ∧
    summary.uniqueSurfaces = surfaces.length :=
  ⟨(byDay_impressions localDate tz h campaignId).symm,
    (byDay_duration localDate tz h campaignId).symm,
    (bySurface_impressions db campaignId).symm, (bySurface_duration db campaignId).symm,
    (bySurface_length db campaignId).symm⟩

/-- The date in two zones that are a fixed number of hours ahead of UTC. -/
def russianDate (tz : String) (t : Int) : Int :=
  let hours := if tz = "Europe/Moscow" then 3 else if tz = "Asia/Yekaterinburg" then 5 else 0
  (t + hours * hourMicros) / dayMicros

def eveningPlay (eventId surfaceId : String) : PopEventRaw where
  eventId := eventId
  schemaVersion := popSchemaVersion
  deviceId := "d"
  manifestId := none
  campaignId := some "c"
  campaignVerified := true
  creativeAssetId := "a"
  surfaceId := surfaceId
  renderedAt := 1785610800000000
  eventRecordedAt := .aware (.utc 1785610800000000)
  durationMs := 15000
  playbackResult := "success"
  status := .accepted

/-- Two plays at one instant of an evening: in the store it is tomorrow already, and the other
surface is gone. -/
def eveningPlays : Db where
  branches := [{ id := "b" }]
  clusters := [{ id := "k", branchId := "b" }]
  stores := [{ id := "s", clusterId := "k", code := "S" }]
  displaySurfaces := [{ id := "x", logicalCarrierId := "l", storeId := "s", code := "X" }]
  popEventsRaw := [eveningPlay "e1" "x", eveningPlay "e2" "gone"]

def storeTimezones : TimezoneColumns where
  store _ := "Asia/Yekaterinburg"
  branch _ := "Europe/Moscow"

theorem eveningPlays_keys : LocationKeys eveningPlays where
  surfaces := by decide
  stores := by decide
  clusters := by decide
  branches := by decide

theorem eveningPlays_agree :
    (listCampaignPopByDay russianDate storeTimezones eveningPlays "c").length = 2 ∧
    (getCampaignPopSummary eveningPlays "c").impressionsCount =
      ((listCampaignPopByDay russianDate storeTimezones eveningPlays "c").map
        (·.impressionsCount)).sum ∧
    (getCampaignPopSummary eveningPlays "c").uniqueSurfaces =
      (listCampaignPopBySurface eveningPlays "c").length := by
  have hagree := popReports_agree russianDate storeTimezones eveningPlays_keys "c"
  exact ⟨by decide +kernel, hagree.1, hagree.2.2.2.2⟩

end RetailMedia
