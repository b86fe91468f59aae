import RetailMedia.Pop.Isolation

/-! Quarantined events: what the expiry and later submissions make of them. -/

namespace RetailMedia

/-! ## The life of a raw row -/

def PopEventRaw.expired (r : PopEventRaw) : PopEventRaw :=
  { r with
    status := .rejected
    quarantineReason := some "quarantine_expired" }

def expirePopQuarantineEvents (db : Db) (before : Int) : Db :=
  { db with
    popEventsRaw := Rows.updateWhere
      (fun r ↦ r.status = .quarantined ∧ r.expiresAt.any (· < before)) PopEventRaw.expired
      db.popEventsRaw }

/-- What happens to the tables between two submissions. -/
inductive PopChange
  | ingest (b : PopBatch)
  | expire (before : Int)
  /-- Everything else, such as the generation of manifests, leaves raw rows and index alone. -/
  | other (rest : Db)

def popChange (db : Db) : PopChange → Db
  | .ingest b => popStep db b
  | .expire before => expirePopQuarantineEvents db before
  | .other rest =>
      { rest with
        popEventsRaw := db.popEventsRaw
        popDedupIndex := db.popDedupIndex }

/-! ## What is counted -/

/-- The rows behind the numbers of a campaign. -/
def summaryRows (db : Db) (campaignId : String) : List PopEventRaw :=
  db.popEventsRaw.filter fun r ↦ r.campaignId = some campaignId ∧ r.status = .accepted ∧
    r.campaignVerified = true ∧ r.playbackResult = "success"

def timesAccepted (db : Db) (eventId : String) : Nat :=
  db.popEventsRaw.countP fun r ↦ r.eventId = eventId ∧ r.status = .accepted

def timesCounted (db : Db) (campaignId eventId : String) : Nat :=
  (summaryRows db campaignId).countP (·.eventId = eventId)

/-- The event ends up accepted once and is counted once. -/
def Recovered (db : Db) (campaignId eventId : String) : Prop :=
  timesAccepted db eventId = 1 ∧ timesCounted db campaignId eventId = 1

instance (db : Db) (campaignId eventId : String) : Decidable (Recovered db campaignId eventId) :=
  inferInstanceAs (Decidable (_ ∧ _))

/-- An event is quarantined for its unknown manifest, other things happen, and the event is
submitted again, now in order. -/
structure Resubmission (db : Db) (first : PopBatch) (event : PopEventIn) (l : List PopChange)
    (again : PopBatch) (m : DeliveryManifest) : Prop where
  consistent : PopConsistent db
  quarantined : ∃ before after out, first.events = before ++ event :: after ∧
    ingestPopBatch db first = .ok out ∧
    out.2.results[before.length]? =
      some ⟨event.eventId, .quarantined, some "unknown_manifest"⟩
  submitted : event ∈ again.events
  device : event.deviceId = again.jwtDeviceId
  fresh : ∃ t, event.renderedAt = .aware t ∧ again.now - staleEventAge ≤ t.instant ∧
    t.instant ≤ again.now + popClockDrift
  manifest : resolveEventManifest (Run.final popChange (popStep db first) l) event = .ok (some m)
  agrees : manifestMismatch event m = none

/-! ## A row that is not accepted stays so -/

/-- The id has a row, and none that is accepted. -/
structure NotBillable (eventId : String) (db : Db) : Prop where
  stored : eventId ∈ db.popEventsRaw.map (·.eventId)
  unaccepted : ∀ r ∈ db.popEventsRaw, r.eventId = eventId → r.status ≠ .accepted

theorem NotBillable.event {eventId : String} {db db' : Db} {b : PopBatch}
    (h : NotBillable eventId db) (hw : EventWrites db db' b) : NotBillable eventId db' := by
  rcases hw with rfl | ⟨row, outbox, rfl, hnew, -⟩
  · exact h
  · constructor
    · show eventId ∈ (db.popEventsRaw ++ [row]).map (·.eventId)
      rw [List.map_append]
      exact List.mem_append_left _ h.stored
    · intro r hr hid
      rcases List.mem_append.1 hr with hr | hr
      · exact h.unaccepted r hr hid
      · -- a new row has an id of its own
        rw [List.mem_singleton.1 hr] at hid
        rw [hid] at hnew
        exact absurd h.stored hnew

theorem NotBillable.events {eventId : String} {db db' : Db} {b : PopBatch}
    {events : List PopEventIn} {results : List PopEventResult} (h : NotBillable eventId db)
    (hok : ingestEvents b db events = .ok (db', results)) : NotBillable eventId db' := by
  induction events generalizing db results with
  | nil =>
      cases hok
      exact h
  | cons event events ih =>
      obtain ⟨mid, r, rest, hevent, hrest⟩ := ingestEvents_cons hok
      exact ih (h.event (ingestPopEvent_writes hevent)) hrest

theorem NotBillable.popStep {eventId : String} {db : Db} (h : NotBillable eventId db)
    (b : PopBatch) : NotBillable eventId (popStep db b) := by
  unfold RetailMedia.popStep ingestPopBatch
  cases hok : ingestEvents b db b.events with
  | error e => exact h
  | ok result =>
      have hlast := h.events hok
      exact ⟨hlast.stored, hlast.unaccepted⟩

theorem NotBillable.expire {eventId : String} {db : Db} (h : NotBillable eventId db)
    (before : Int) : NotBillable eventId (expirePopQuarantineEvents db before) := by
  have hids : (expirePopQuarantineEvents db before).popEventsRaw.map (·.eventId) =
      db.popEventsRaw.map (·.eventId) :=
    Rows.map_updateWhere (f := PopEventRaw.expired) (·.eventId) (fun _ ↦ rfl) db.popEventsRaw
  constructor
  · rw [hids]
    exact h.stored
  · intro r hr hid
    obtain ⟨x, hx, heq⟩ := Rows.mem_updateWhere.1 hr
    split at heq
    · subst heq
      intro hstatus
      cases hstatus
    · subst heq
      exact h.unaccepted x hx hid

theorem NotBillable.step {eventId : String} (db : Db) (change : PopChange)
    (h : NotBillable eventId db) : NotBillable eventId (popChange db change) := by
  cases change with
  | ingest b => exact h.popStep b
  | expire before => exact h.expire before
  | other rest => exact ⟨h.stored, h.unaccepted⟩

/-! ## Quarantine -/

/-- An event that is quarantined has a row, which is not accepted. -/
theorem ingestPopEvent_quarantined {db db' : Db} {b : PopBatch} {event : PopEventIn}
    {r : IngestResult}
    (h : ingestPopEvent b.takesNaive db event b.jwtDeviceId b.now b.batchId = .ok (db', r))
    (hr : r.status = .quarantined) : NotBillable event.eventId db' := by
  have hrec := recorded_nil db
  cases hdirected : misdirected event b.jwtDeviceId with
  | some result =>
      rw [ingestPopEvent_misdirected hdirected] at h
      cases h
      unfold misdirected at hdirected
      split at hdirected
      · cases hdirected
        cases hr
      · split at hdirected
        · cases hdirected
          cases hr
        · cases hdirected
  | none =>
      by_cases hid : event.eventId ∈ db.popDedupIndex
      · rw [ingestPopEvent_known hdirected hid] at h
        cases h
        cases hr
      · by_cases htext : storableText event.eventId = true
        · obtain ⟨eventType, payload, heq⟩ := ingestPopEvent_new [] db.outboxEvents hdirected
            (by rw [hrec]; exact hid) htext
          rw [hrec, h] at heq
          cases hv : settlement db b event with
          | error e =>
              rw [hv] at heq
              cases heq
          | ok v =>
              obtain ⟨result, asked⟩ := v
              rw [hv] at heq
              rcases settlement_cases hv with ⟨rfl, hstatus⟩ | ⟨row, rfl, hrow, -, hstatus⟩
              · cases heq
                rw [hr] at hstatus
                cases hstatus
              · rcases writePopEvent_ok heq.symm with ⟨-, rfl⟩ | ⟨rfl, hnew, outbox, rfl⟩
                · cases hr
                · have hquarantined : row.status = .quarantined := by
                    rcases hstatus with ⟨ha, -⟩ | ⟨-, hq⟩
                    · rw [hr] at ha
                      cases ha
                    · exact hq
                  constructor
                  · rw [← hrow]
                    exact List.mem_map_of_mem (List.mem_append_right _ List.mem_cons_self)
                  · intro x hx hxid
                    rcases List.mem_append.1 hx with hx | hx
                    · rw [hrow, ← hxid] at hnew
                      exact absurd (List.mem_map_of_mem hx) hnew
                    · rw [List.mem_singleton.1 hx, hquarantined]
                      intro hstatus
                      cases hstatus
        · rw [ingestPopEvent_unstorableId hdirected hid (Bool.not_eq_true _ ▸ htext)] at h
          cases h

theorem ingestEvents_quarantined {db db' : Db} {b : PopBatch} {before after : List PopEventIn}
    {event : PopEventIn} {results : List PopEventResult} {reason : Option String}
    (h : ingestEvents b db (before ++ event :: after) = .ok (db', results))
    (hr : results[before.length]? = some ⟨event.eventId, .quarantined, reason⟩) :
    NotBillable event.eventId db' := by
  induction before generalizing db results with
  | nil =>
      rw [List.nil_append, ingestEvents] at h
      split at h
      · cases h
      · rename_i mid r hevent
        split at h
        · cases h
        · rename_i last rest hrest
          cases h
          have hstatus : r.status = .quarantined :=
            congrArg PopEventResult.status (Option.some.inj hr)
          exact (ingestPopEvent_quarantined hevent hstatus).events hrest
  | cons first before ih =>
      rw [List.cons_append, ingestEvents] at h
      split at h
      · cases h
      · rename_i mid r hevent
        split at h
        · cases h
        · rename_i last rest hrest
          cases h
          rw [List.length_cons, List.getElem?_cons_succ] at hr
          exact ih hrest hr

theorem Resubmission.notBillable {db : Db} {first again : PopBatch} {event : PopEventIn}
    {l : List PopChange} {m : DeliveryManifest} (h : Resubmission db first event l again m) :
    NotBillable event.eventId (popStep (Run.final popChange (popStep db first) l) again) := by
  have hstart : NotBillable event.eventId (popStep db first) := by
    obtain ⟨before, after, out, hevents, hok, hr⟩ := h.quarantined
    unfold popStep
    rw [hok]
    unfold ingestPopBatch at hok
    rw [hevents] at hok
    split at hok
    · cases hok
    · rename_i last results hloop
      cases hok
      have hlast := ingestEvents_quarantined hloop hr
      exact ⟨hlast.stored, hlast.unaccepted⟩
  exact ((Run.always_of_step NotBillable.step l hstart).final).popStep again

theorem NotBillable.counts {eventId : String} {db : Db} (h : NotBillable eventId db)
    (campaignId : String) :
    timesAccepted db eventId = 0 ∧ timesCounted db campaignId eventId = 0 := by
  constructor
  · apply List.countP_eq_zero.2
    intro r hr hboth
    have hboth := of_decide_eq_true hboth
    exact h.unaccepted r hr hboth.1 hboth.2
  · apply List.countP_eq_zero.2
    intro r hr hid
    obtain ⟨hmem, hcounted⟩ := List.mem_filter.1 hr
    exact h.unaccepted r hmem (of_decide_eq_true hid) (of_decide_eq_true hcounted).2.1

/-- The second submission finds the id of the first in the dedup index: the event is never
accepted and never counted, whatever has become known about its manifest. -/
theorem quarantined_never_recovered (db : Db) (first : PopBatch) (event : PopEventIn)
    (l : List PopChange) (again : PopBatch) (m : DeliveryManifest)
    (h : Resubmission db first event l again m) :
    ¬ Recovered (popStep (Run.final popChange (popStep db first) l) again) m.campaignId
      event.eventId := by
  intro hrecovered
  obtain ⟨haccepted, -⟩ := h.notBillable.counts m.campaignId
  rw [hrecovered.1] at haccepted
  cases haccepted

/-! The manifest of the event is generated an hour after the first submission. -/

def lateManifestDb : Db := { demoPopDb with deliveryManifests := [] }

def demoManifest : DeliveryManifest :=
  { manifestId := "m1", campaignId := "a", physicalDeviceId := "d1", contentHash := ""
    surfaceIds := ["s1"], assets := [⟨"x", "", none, "video/mp4"⟩] }

def demoBatchAgain : PopBatch := { demoBatch with now := 2 * hourMicros }

theorem lateManifest_resubmission : Resubmission lateManifestDb demoBatch demoPopEvent
    [.other demoPopDb] demoBatchAgain demoManifest where
  consistent := ⟨List.nodup_nil, fun _ hr ↦ absurd hr List.not_mem_nil⟩
  quarantined := by
    have hok : (ingestPopBatch lateManifestDb demoBatch).toOption.map (·.2.results) =
        some [⟨"e1", .quarantined, some "unknown_manifest"⟩] := by
      decide +kernel
    cases hout : ingestPopBatch lateManifestDb demoBatch with
    | error e =>
        rw [hout] at hok
        cases hok
    | ok out =>
        rw [hout] at hok
        refine ⟨[], [], out, rfl, rfl, ?_⟩
        have hresults : out.2.results = [⟨"e1", .quarantined, some "unknown_manifest"⟩] :=
          Option.some.inj hok
        rw [hresults]
        rfl
  submitted := List.mem_cons_self
  device := rfl
  fresh := ⟨.utc 0, rfl, by decide, by decide⟩
  manifest := by rfl
  agrees := by decide

theorem late_manifest_not_counted : ¬ ∀ (db : Db) (first : PopBatch) (event : PopEventIn)
    (l : List PopChange) (again : PopBatch) (m : DeliveryManifest),
    Resubmission db first event l again m →
      Recovered (popStep (Run.final popChange (popStep db first) l) again) m.campaignId
        event.eventId := by
  intro h
  have hrecovered := h _ _ _ _ _ _ lateManifest_resubmission
  have hlost : ¬ Recovered (popStep (Run.final popChange (popStep lateManifestDb demoBatch)
      [.other demoPopDb]) demoBatchAgain) demoManifest.campaignId demoPopEvent.eventId := by
    decide +kernel
  exact hlost hrecovered

theorem lateManifest_never_recovered :
    ¬ Recovered (popStep (Run.final popChange (popStep lateManifestDb demoBatch)
      [.other demoPopDb]) demoBatchAgain) "a" "e1" :=
  quarantined_never_recovered _ _ demoPopEvent _ _ demoManifest lateManifest_resubmission

end RetailMedia
