import RetailMedia.Pop.Ingestion

/-! What a run of ingestion calls leaves in the raw table: one row an event, accepted rows that
agree with their manifest, and nothing new from events that are submitted again. -/

namespace RetailMedia

/-- What an accepted row has to be, for the batch that writes it. -/
structure Billable (manifests : List DeliveryManifest) (b : PopBatch) (r : PopEventRaw) : Prop where
  device : r.deviceId = b.jwtDeviceId
  notStale : b.now - staleEventAge ≤ r.renderedAt
  notAhead : r.renderedAt ≤ b.now + popClockDrift
  manifest : ∃ m, manifests.filter (·.manifestId = m.manifestId) = [m] ∧
    r.manifestId = some m.manifestId ∧ m.physicalDeviceId = r.deviceId ∧
    r.campaignId = some m.campaignId ∧ r.surfaceId ∈ m.surfaceIds ∧
    r.creativeAssetId ∈ m.assets.map (·.creativeAssetId)

/-- Event ids are unique in the raw table, and all of them are in the dedup index. -/
structure PopConsistent (db : Db) : Prop where
  unique : (db.popEventsRaw.map (·.eventId)).Nodup
  indexed : ∀ r ∈ db.popEventsRaw, r.eventId ∈ db.popDedupIndex

/-- Rows recorded in both tables. -/
def Db.recorded (db : Db) (rows : List PopEventRaw) (outbox : List OutboxEvent) : Db :=
  { db with
    popEventsRaw := db.popEventsRaw ++ rows
    popDedupIndex := db.popDedupIndex ++ rows.map (·.eventId)
    outboxEvents := outbox }

theorem recorded_nil (db : Db) : db.recorded [] db.outboxEvents = db := by
  unfold Db.recorded
  simp

theorem recorded_recorded (db : Db) (l m : List PopEventRaw) (o o' : List OutboxEvent) :
    (db.recorded l o).recorded m o' = db.recorded (l ++ m) o' := by
  unfold Db.recorded
  simp

theorem PopConsistent.outbox {db : Db} (h : PopConsistent db) (outbox : List OutboxEvent) :
    PopConsistent { db with outboxEvents := outbox } := ⟨h.unique, h.indexed⟩

theorem PopConsistent.record {db : Db} (h : PopConsistent db) {row : PopEventRaw}
    (hnew : row.eventId ∉ db.popEventsRaw.map (·.eventId)) (outbox : List OutboxEvent) :
    PopConsistent (db.recorded [row] outbox) := by
  constructor
  · show ((db.popEventsRaw ++ [row]).map (·.eventId)).Nodup
    rw [List.map_append]
    exact Rows.nodup_concat h.unique hnew
  · intro r hr
    rcases List.mem_append.1 hr with hr | hr
    · exact List.mem_append_left _ (h.indexed r hr)
    · exact List.mem_append_right _ (List.mem_map_of_mem hr)

/-! ## One event -/

theorem insertPopRawEvent_ok {takesNaive : Bool} {db db' : Db} {row : PopEventRaw}
    (h : insertPopRawEvent takesNaive db row = .ok db') :
    row.eventId ∉ db.popEventsRaw.map (·.eventId) ∧
      db' = { db with popEventsRaw := db.popEventsRaw ++ [row] } := by
  unfold insertPopRawEvent at h
  split at h
  · cases h
  · split at h
    · cases h
    · rename_i hnew
      split at h
      · cases h
      · split at h
        · cases h
        · cases h
          exact ⟨hnew, rfl⟩

/-- A write that does not raise records its row, or finds the key taken and changes nothing. -/
theorem writePopEvent_ok {takesNaive : Bool} {db db' : Db} {row : PopEventRaw}
    {eventType : String} {payload : Json} {done r : IngestResult}
    (h : writePopEvent takesNaive db row eventType payload done = .ok (db', r)) :
    (db' = db ∧ r = duplicateEvent) ∨
    (r = done ∧ row.eventId ∉ db.popEventsRaw.map (·.eventId) ∧
      ∃ outbox, db' = db.recorded [row] outbox) := by
  unfold writePopEvent at h
  cases hraw : insertPopRawEvent takesNaive db row with
  | error e =>
      rw [hraw] at h
      dsimp only [bind, Except.bind] at h
      split at h
      · cases h
        exact .inl ⟨rfl, rfl⟩
      · cases h
  | ok inserted =>
      obtain ⟨hnew, rfl⟩ := insertPopRawEvent_ok hraw
      rw [hraw] at h
      dsimp only [bind, Except.bind] at h
      unfold insertPopDedupKey at h
      dsimp only at h
      split at h
      · rename_i heq
        split at heq
        · cases heq
        · cases heq
          cases h
          exact .inr ⟨rfl, hnew, _, rfl⟩
      · split at h
        · cases h
          exact .inl ⟨rfl, rfl⟩
        · cases h

theorem scalarOneOrNone_some {α : Type*} {l : List α} {x : α}
    (h : scalarOneOrNone l = .ok (some x)) : l = [x] := by
  match l with
  | [] => cases h
  | [y] =>
      cases h
      rfl
  | _ :: _ :: _ => cases h

theorem resolveEventManifest_some {db : Db} {event : PopEventIn} {m : DeliveryManifest}
    (h : resolveEventManifest db event = .ok (some m)) :
    db.deliveryManifests.filter (·.manifestId = m.manifestId) = [m] := by
  unfold resolveEventManifest at h
  split at h
  · cases h
  · rename_i manifestId _
    unfold resolveManifest at h
    split at h
    · have hone := scalarOneOrNone_some h
      have hmem : m ∈ db.deliveryManifests.filter (·.manifestId = manifestId) := by
        rw [hone]
        exact List.mem_singleton_self m
      have hid : m.manifestId = manifestId := of_decide_eq_true (List.mem_filter.1 hmem).2
      rw [hid]
      exact hone
    · cases h

theorem manifestMismatch_none {event : PopEventIn} {m : DeliveryManifest}
    (h : manifestMismatch event m = none) :
    event.deviceId = m.physicalDeviceId ∧ event.surfaceId ∈ m.surfaceIds ∧
      event.creativeAssetId ∈ m.assets.map (·.creativeAssetId) := by
  unfold manifestMismatch at h
  split at h
  · cases h
  · split at h
    · cases h
    · rename_i hdevice
      split at h
      · cases h
      · rename_i hsurface
        split at h
        · cases h
        · rename_i hasset
          exact ⟨not_not.1 hdevice, not_not.1 hsurface, not_not.1 hasset⟩

/-- What one call for an event writes when it does not raise. -/
def EventWrites (db db' : Db) (b : PopBatch) : Prop :=
  db' = db ∨ ∃ row outbox, db' = db.recorded [row] outbox ∧
    row.eventId ∉ db.popEventsRaw.map (·.eventId) ∧
    (row.status = .accepted → Billable db.deliveryManifests b row)

theorem writePopEvent_writes {takesNaive : Bool} {db db' : Db} {b : PopBatch} {row : PopEventRaw}
    {eventType : String} {payload : Json} {done r : IngestResult}
    (hrow : row.status = .accepted → Billable db.deliveryManifests b row)
    (h : writePopEvent takesNaive db row eventType payload done = .ok (db', r)) :
    EventWrites db db' b := by
  rcases writePopEvent_ok h with ⟨hsame, -⟩ | ⟨-, hnew, outbox, hdb⟩
  · exact .inl hsame
  · exact .inr ⟨row, outbox, hdb, hnew, hrow⟩

theorem settleEvent_writes {db db' : Db} {event : PopEventIn} {b : PopBatch} {renderedAt : DateTime}
    {retailerId : String} {r : IngestResult} (hdevice : event.deviceId = b.jwtDeviceId)
    (hstale : ¬ renderedAt.instant < b.now - staleEventAge)
    (h : settleEvent b.takesNaive db event b.now b.batchId renderedAt retailerId = .ok (db', r)) :
    EventWrites db db' b := by
  unfold settleEvent at h
  split at h
  · cases h
  · refine writePopEvent_writes ?_ h
    intro hstatus
    cases hstatus
  · rename_i m hm
    split at h
    · refine writePopEvent_writes ?_ h
      intro hstatus
      cases hstatus
    · rename_i hdrift
      split at h
      · cases h
        exact .inl rfl
      · rename_i hmatch
        obtain ⟨hmdevice, hsurface, hasset⟩ := manifestMismatch_none hmatch
        refine writePopEvent_writes (fun _ ↦ ?_) h
        -- every field comes from the event's checks or from the manifest itself
        exact {
          device := hdevice
          notStale := not_lt.1 hstale
          notAhead := not_lt.1 hdrift
          manifest := ⟨m, resolveEventManifest_some hm, rfl, hmdevice.symm, rfl, hsurface, hasset⟩ }

theorem misdirected_none {event : PopEventIn} {jwtDeviceId : String}
    (h : misdirected event jwtDeviceId = none) : event.deviceId = jwtDeviceId := by
  unfold misdirected at h
  split at h
  · cases h
  · split at h
    · cases h
    · rename_i hdevice
      exact not_not.1 hdevice

theorem refusal_none {db : Db} {event : PopEventIn} {jwtDeviceId : String}
    (h : refusal db event jwtDeviceId = .ok none) : event.deviceId = jwtDeviceId := by
  unfold refusal at h
  split at h
  · cases h
  · rename_i hdirected
    exact misdirected_none hdirected

theorem ingestPopEvent_writes {db db' : Db} {event : PopEventIn} {b : PopBatch} {r : IngestResult}
    (h : ingestPopEvent b.takesNaive db event b.jwtDeviceId b.now b.batchId = .ok (db', r)) :
    EventWrites db db' b := by
  unfold ingestPopEvent at h
  split at h
  · cases h
  · cases h
    exact .inl rfl
  · rename_i hrefusal
    split at h
    · cases h
      exact .inl rfl
    · split at h
      · cases h
      · split at h
        · cases h
          exact .inl rfl
        · rename_i hstale
          exact settleEvent_writes (refusal_none hrefusal) hstale h

/-- An event whose key is in the dedup index is refused without a write. -/
theorem ingestPopEvent_indexed {db : Db} {event : PopEventIn} (h : event.eventId ∈ db.popDedupIndex)
    (b : PopBatch) :
    ∃ r, ingestPopEvent b.takesNaive db event b.jwtDeviceId b.now b.batchId = .ok (db, r) := by
  unfold ingestPopEvent refusal isPopEventDuplicate
  cases misdirected event b.jwtDeviceId with
  | some result => exact ⟨result, rfl⟩
  | none =>
      rw [if_pos h]
      exact ⟨duplicateEvent, rfl⟩

/-! ## A batch -/

theorem EventWrites.consistent {db db' : Db} {b : PopBatch} (h : EventWrites db db' b)
    (hdb : PopConsistent db) : PopConsistent db' := by
  rcases h with rfl | ⟨row, outbox, rfl, hnew, -⟩
  · exact hdb
  · exact hdb.record hnew outbox

theorem ingestEvents_cons {b : PopBatch} {db db' : Db} {event : PopEventIn}
    {events : List PopEventIn} {results : List PopEventResult}
    (h : ingestEvents b db (event :: events) = .ok (db', results)) :
    ∃ mid r rest, ingestPopEvent b.takesNaive db event b.jwtDeviceId b.now b.batchId = .ok (mid, r) ∧
      ingestEvents b mid events = .ok (db', rest) := by
  unfold ingestEvents at h
  split at h
  · cases h
  · rename_i mid r hevent
    split at h
    · cases h
    · rename_i last rest hrest
      cases h
      exact ⟨mid, r, rest, hevent, hrest⟩

theorem ingestEvents_consistent {b : PopBatch} {db db' : Db} {events : List PopEventIn}
    {results : List PopEventResult} (h : ingestEvents b db events = .ok (db', results))
    (hdb : PopConsistent db) : PopConsistent db' := by
  induction events generalizing db results with
  | nil =>
      cases h
      exact hdb
  | cons event events ih =>
      obtain ⟨mid, r, rest, hevent, hrest⟩ := ingestEvents_cons h
      exact ih hrest ((ingestPopEvent_writes hevent).consistent hdb)

theorem ingestEvents_writes {b : PopBatch} {db db' : Db} {events : List PopEventIn}
    {results : List PopEventResult} (h : ingestEvents b db events = .ok (db', results)) :
    ∃ rows outbox, db' = db.recorded rows outbox ∧
      ∀ row ∈ rows, row.status = .accepted → Billable db.deliveryManifests b row := by
  induction events generalizing db results with
  | nil =>
      cases h
      exact ⟨[], _, (recorded_nil _).symm, by simp⟩
  | cons event events ih =>
      obtain ⟨mid, r, rest, hevent, hrest⟩ := ingestEvents_cons h
      obtain ⟨rows, outbox, heq, hrows⟩ := ih hrest
      rcases ingestPopEvent_writes hevent with rfl | ⟨row, o, rfl, -, hrow⟩
      · exact ⟨rows, outbox, heq, hrows⟩
      · refine ⟨[row] ++ rows, outbox, heq.trans (recorded_recorded db _ _ _ _), ?_⟩
        exact List.forall_mem_append.2 ⟨fun x hx ↦ List.mem_singleton.1 hx ▸ hrow, hrows⟩

/-- A call records rows of its batch, in a consistent way; one that raises records none. -/
theorem popStep_writes (db : Db) (b : PopBatch) :
    ∃ rows outbox, popStep db b = db.recorded rows outbox ∧
      ∀ row ∈ rows, row.status = .accepted → Billable db.deliveryManifests b row := by
  unfold popStep ingestPopBatch
  cases h : ingestEvents b db b.events with
  | error e => exact ⟨[], db.outboxEvents, (recorded_nil db).symm, by simp⟩
  | ok result =>
      obtain ⟨rows, outbox, heq, hrows⟩ := ingestEvents_writes h
      exact ⟨rows, _, congrArg (fun d ↦ enqueueOutboxEvent d _ _ _ _ _ _) heq, hrows⟩

theorem popStep_consistent (db : Db) (b : PopBatch) (h : PopConsistent db) :
    PopConsistent (popStep db b) := by
  unfold popStep ingestPopBatch
  cases hevents : ingestEvents b db b.events with
  | error e => exact h
  | ok result => exact (ingestEvents_consistent hevents h).outbox _

/-! ## Events that are submitted again -/

/-- After the events before it in the batch, the event's id has a row. -/
def Resubmitted (db : Db) (b : PopBatch) (before : List PopEventIn) (event : PopEventIn) : Prop :=
  ∀ db' results, ingestEvents b db before = .ok (db', results) →
    event.eventId ∈ db'.popEventsRaw.map (·.eventId)

/-- The same raw rows, and so the same numbers in every summary. -/
def SamePop (db db' : Db) : Prop :=
  db.popEventsRaw = db'.popEventsRaw ∧
    ∀ campaignId, getCampaignPopSummary db campaignId = getCampaignPopSummary db' campaignId

theorem samePop_of_rows {db db' : Db} (h : db.popEventsRaw = db'.popEventsRaw) :
    SamePop db db' := by
  refine ⟨h, fun campaignId ↦ ?_⟩
  unfold getCampaignPopSummary
  rw [h]

theorem PopConsistent.indexed_of_row {db : Db} (h : PopConsistent db) {eventId : String}
    (hid : eventId ∈ db.popEventsRaw.map (·.eventId)) : eventId ∈ db.popDedupIndex := by
  obtain ⟨r, hr, rfl⟩ := List.mem_map.1 hid
  exact h.indexed r hr

theorem ingestEvents_tables (b : PopBatch) (db : Db) (event : PopEventIn)
    (events : List PopEventIn) :
    (ingestEvents b db (event :: events)).map (·.1) =
      (ingestPopEvent b.takesNaive db event b.jwtDeviceId b.now b.batchId).bind fun p ↦
        (ingestEvents b p.1 events).map (·.1) := by
  rw [ingestEvents]
  cases ingestPopEvent b.takesNaive db event b.jwtDeviceId b.now b.batchId with
  | error e => rfl
  | ok p =>
      rw [show Except.bind (Except.ok p) (fun p ↦ (ingestEvents b p.1 events).map (·.1)) =
        (ingestEvents b p.1 events).map (·.1) from rfl]
      dsimp only
      cases ingestEvents b p.1 events with
      | error e => rfl
      | ok rest => rfl

theorem ingestEvents_resubmitted {db : Db} (b : PopBatch) (h : PopConsistent db)
    {before : List PopEventIn} {event : PopEventIn} (after : List PopEventIn)
    (hre : Resubmitted db b before event) :
    (ingestEvents b db (before ++ event :: after)).map (·.1) =
      (ingestEvents b db (before ++ after)).map (·.1) := by
  induction before generalizing db with
  | nil =>
      have hid := h.indexed_of_row (hre db [] rfl)
      obtain ⟨r, hr⟩ := ingestPopEvent_indexed hid b
      rw [List.nil_append, List.nil_append, ingestEvents_tables, hr]
      rfl
  | cons first before ih =>
      rw [List.cons_append, List.cons_append, ingestEvents_tables, ingestEvents_tables]
      cases hfirst : ingestPopEvent b.takesNaive db first b.jwtDeviceId b.now b.batchId with
      | error e => rfl
      | ok p =>
          have hmid := (ingestPopEvent_writes hfirst).consistent h
          have hrest : Resubmitted p.1 b before event := by
            intro db' results hok
            refine hre db' (⟨first.eventId, p.2.status, p.2.reason⟩ :: results) ?_
            rw [ingestEvents, hfirst]
            dsimp only
            rw [hok]
          exact ih hmid hrest

theorem ingestEvents_allIndexed {db : Db} (b : PopBatch) {events : List PopEventIn}
    (h : ∀ event ∈ events, event.eventId ∈ db.popDedupIndex) :
    ∃ results, ingestEvents b db events = .ok (db, results) := by
  induction events with
  | nil => exact ⟨[], rfl⟩
  | cons event events ih =>
      obtain ⟨r, hr⟩ := ingestPopEvent_indexed (h event List.mem_cons_self) b
      obtain ⟨results, hrest⟩ := ih fun e he ↦ h e (List.mem_cons_of_mem event he)
      refine ⟨⟨event.eventId, r.status, r.reason⟩ :: results, ?_⟩
      rw [ingestEvents, hr]
      dsimp only
      rw [hrest]

theorem ingestEvents_events (b : PopBatch) (events l : List PopEventIn) (db : Db) :
    ingestEvents { b with events := events } db l = ingestEvents b db l := by
  induction l generalizing db with
  | nil => rfl
  | cons event l ih =>
      rw [ingestEvents, ingestEvents]
      dsimp only
      cases ingestPopEvent b.takesNaive db event b.jwtDeviceId b.now b.batchId with
      | error e => rfl
      | ok result =>
          dsimp only
          rw [ih]

/-- The raw rows after a call, from the loop over its events. -/
theorem popStep_rows (db : Db) (b : PopBatch) :
    (popStep db b).popEventsRaw =
      match (ingestEvents b db b.events).map (·.1) with
      | .ok db' => db'.popEventsRaw
      | .error _ => db.popEventsRaw := by
  unfold popStep ingestPopBatch
  cases ingestEvents b db b.events with
  | error e => rfl
  | ok result => rfl

theorem popStep_resubmitted {db : Db} (h : PopConsistent db) {b : PopBatch}
    {before after : List PopEventIn} {event : PopEventIn}
    (hevents : b.events = before ++ event :: after) (hre : Resubmitted db b before event) :
    SamePop (popStep db b) (popStep db { b with events := before ++ after }) := by
  have hless := ingestEvents_events b (before ++ after) (before ++ after) db
  have hsame := ingestEvents_resubmitted b h after hre
  refine samePop_of_rows ?_
  rw [popStep_rows, popStep_rows, hevents]
  dsimp only
  rw [hless, hsame]

theorem popStep_allResubmitted {db : Db} (h : PopConsistent db) {b : PopBatch}
    (hevents : ∀ event ∈ b.events, event.eventId ∈ db.popEventsRaw.map (·.eventId)) :
    SamePop (popStep db b) db := by
  obtain ⟨results, hok⟩ :=
    ingestEvents_allIndexed b fun event he ↦ h.indexed_of_row (hevents event he)
  refine samePop_of_rows ?_
  rw [popStep_rows, hok]
  rfl

/-! ## Runs -/

theorem popRun_consistent (l : List PopBatch) {db : Db} (h : PopConsistent db) :
    Run.Always popStep PopConsistent db l :=
  Run.always_of_step popStep_consistent l h

/-- A run appends to the raw table, batch by batch, rows of which the accepted ones are billable
for the batch that wrote them. -/
theorem popRun_writes (db : Db) (l : List PopBatch) :
    ∃ written, List.Forall₂ (fun b rows ↦ ∀ row ∈ rows, row.status = .accepted →
        Billable db.deliveryManifests b row) l written ∧
      (Run.final popStep db l).popEventsRaw = db.popEventsRaw ++ written.flatten := by
  induction l generalizing db with
  | nil => exact ⟨[], .nil, (List.append_nil _).symm⟩
  | cons b l ih =>
      obtain ⟨rows, outbox, heq, hrows⟩ := popStep_writes db b
      obtain ⟨written, hwritten, hfinal⟩ := ih (popStep db b)
      have hmanifests : (popStep db b).deliveryManifests = db.deliveryManifests := by
        rw [heq]
        rfl
      have hraw : (popStep db b).popEventsRaw = db.popEventsRaw ++ rows := by
        rw [heq]
        rfl
      rw [hmanifests] at hwritten
      refine ⟨rows :: written, .cons hrows hwritten, ?_⟩
      rw [Run.final_cons, hfinal, hraw, List.flatten_cons, List.append_assoc]

/-- Over every run of ingestion calls: one raw row an event; accepted rows are billable for the
batch that wrote them; and in the state reached, events that have a row already add nothing,
whatever batch they come in. -/
theorem popRun_integrity (db : Db) (l : List PopBatch) (h : PopConsistent db) :
    Run.Always popStep (fun s ↦ (s.popEventsRaw.map (·.eventId)).Nodup) db l ∧
    (∃ written, List.Forall₂ (fun b rows ↦ ∀ row ∈ rows, row.status = .accepted →
        Billable db.deliveryManifests b row) l written ∧
      (Run.final popStep db l).popEventsRaw = db.popEventsRaw ++ written.flatten) ∧
    (∀ b before event after, b.events = before ++ event :: after →
      Resubmitted (Run.final popStep db l) b before event →
        SamePop (popStep (Run.final popStep db l) b)
          (popStep (Run.final popStep db l) { b with events := before ++ after })) ∧
    ∀ b : PopBatch, (∀ event ∈ b.events, event.eventId ∈
        (Run.final popStep db l).popEventsRaw.map (·.eventId)) →
      SamePop (popStep (Run.final popStep db l) b) (Run.final popStep db l) := by
  have hrun := popRun_consistent l h
  refine ⟨hrun.mono fun _ hs ↦ hs.unique, popRun_writes db l, ?_, ?_⟩
  · intro b before event after hevents hre
    exact popStep_resubmitted hrun.final hevents hre
  · intro b hevents
    exact popStep_allResubmitted hrun.final hevents

/-! A device with one manifest reports an event, and reports it again. -/

def demoPopDb : Db where
  physicalDevices := [{
    id := "d1", storeId := "st1", deviceTypeId := "t1", code := "D-1", status := .active
    retailerId := some defaultRetailerId }]
  creativeAssets := [{
    id := "x", code := "X", mediaType := "video/mp4", storageKey := "", sha256Checksum := ""
    fileSizeBytes := 0 }]
  deliveryManifests := [{
    manifestId := "m1", campaignId := "a", physicalDeviceId := "d1", contentHash := ""
    surfaceIds := ["s1"], assets := [⟨"x", "", none, "video/mp4"⟩] }]

def demoPopEvent : PopEventIn where
  eventId := "e1"
  deviceId := "d1"
  manifestId := some "m1"
  creativeAssetId := "x"
  surfaceId := "s1"
  durationMs := 5000
  playbackResult := "success"
  renderedAt := .aware (.utc 0)
  eventRecordedAt := .aware (.utc 0)

def demoBatch : PopBatch := { events := [demoPopEvent], jwtDeviceId := "d1", now := hourMicros }

theorem demoPopDb_consistent : PopConsistent demoPopDb :=
  ⟨List.nodup_nil, fun _ hr ↦ absurd hr List.not_mem_nil⟩

theorem demoBatch_counted :
    (getCampaignPopSummary (Run.final popStep demoPopDb [demoBatch]) "a").impressionsCount = 1 ∧
      ∀ event ∈ demoBatch.events, event.eventId ∈
        (Run.final popStep demoPopDb [demoBatch]).popEventsRaw.map (·.eventId) := by
  decide +kernel

theorem demoBatch_again :
    (getCampaignPopSummary (Run.final popStep demoPopDb [demoBatch, demoBatch]) "a").impressionsCount
      = 1 := by
  have hsame := (popRun_integrity demoPopDb [demoBatch] demoPopDb_consistent).2.2.2 demoBatch
    demoBatch_counted.2
  exact (congrArg CampaignPopSummary.impressionsCount (hsame.2 "a")).trans demoBatch_counted.1

end RetailMedia
