import RetailMedia.Delivery.GenerateSpec
import RetailMedia.Pop.Integrity

/-! One event of a batch among the others: what becomes of an event does not depend on the rows
that are stored already, except on those with its id. -/

namespace RetailMedia

/-! ## What becomes of an event -/

section Settlement

variable (db : Db) (b : PopBatch) (event : PopEventIn)

/-- The result of an event that is addressed to the device and not known yet, with the row that
is to be stored for it. -/
def settlement : Except IngestError (IngestResult × Option PopEventRaw) :=
  match unplayed event with
  | some result => .ok (result, none)
  | none =>
      match getDeviceRetailerId db event.deviceId with
      | none => .ok (rejected "device_not_found", none)
      | some retailerId =>
          match event.renderedAt with
          | .naive _ => .error .typeError
          | .aware renderedAt =>
              if renderedAt.instant < b.now - staleEventAge then
                .ok (rejected "stale_event", none)
              else
                match resolveEventManifest db event with
                | .error e => .error e
                | .ok none =>
                    .ok (⟨.quarantined, some "unknown_manifest"⟩,
                      some (quarantinedRow event b.now b.batchId renderedAt retailerId
                        "unknown_manifest"))
                | .ok (some m) =>
                    if renderedAt.instant > b.now + popClockDrift then
                      .ok (⟨.quarantined, some "clock_drift"⟩,
                        some (quarantinedRow event b.now b.batchId renderedAt retailerId
                          "clock_drift"))
                    else
                      match manifestMismatch event m with
                      | some reason => .ok (rejected reason, none)
                      | none => .ok (⟨.accepted, none⟩, some (acceptedRow event b.batchId renderedAt m))

/-- The row that the event asks for. -/
def askedRow : Option PopEventRaw :=
  match misdirected event b.jwtDeviceId, settlement db b event with
  | none, .ok (_, row) => row
  | _, _ => none

/-- The database takes the row. -/
def Storable (row : PopEventRaw) : Prop :=
  row.fits b.takesNaive = true ∧ row.creativeAssetId ∈ db.creativeAssets.map (·.id)

instance (row : PopEventRaw) : Decidable (Storable db b row) :=
  inferInstanceAs (Decidable (_ ∧ _))

/-- The event goes through the checks and the write without an exception. -/
structure Sound : Prop where
  id : storableText event.eventId = true
  comparable : unplayed event = none → ∀ retailerId,
    getDeviceRetailerId db event.deviceId = some retailerId →
      ∃ renderedAt, event.renderedAt = .aware renderedAt
  resolvable : unplayed event = none → ∀ retailerId,
    getDeviceRetailerId db event.deviceId = some retailerId →
      ∀ renderedAt, event.renderedAt = .aware renderedAt →
        b.now - staleEventAge ≤ renderedAt.instant →
          event.manifestId.all storableText = true
  storable : ∀ row, askedRow db b event = some row → Storable db b row

end Settlement

/-! ## The batch as it should be -/

section Batch

variable (db : Db) (b : PopBatch)

/-- The rows that events with the id have asked for. -/
def askedBefore (before : List PopEventIn) (eventId : String) : List PopEventRaw :=
  (before.filter (·.eventId = eventId)).filterMap (askedRow db b)

/-- The event needs no write of its own: it is for another device or schema, or known. -/
def Settled (event : PopEventIn) : Prop :=
  misdirected event b.jwtDeviceId ≠ none ∨ event.eventId ∈ db.popDedupIndex

/-- Whichever event that is not accepted is left out, one before this one asks for its row. -/
def Covered : List PopEventRaw → Prop
  | [] => False
  | [row] => row.status = .accepted
  | _ :: _ :: _ => True

/-- Every event is known already, covered by those before it, or sound. -/
def AllSound : Prop :=
  ∀ before event after, b.events = before ++ event :: after →
    Settled db b event ∨ Covered (askedBefore db b before event.eventId) ∨ Sound db b event

/-- For events with other ids it makes no difference that this one was left out. -/
structure SameForOthers (event : PopEventIn) (out out' : Db × PopBatchResponse) : Prop where
  results : out.2.results.filter (·.eventId ≠ event.eventId) =
    out'.2.results.filter (·.eventId ≠ event.eventId)
  rows : out.1.popEventsRaw.filter (·.eventId ≠ event.eventId) =
    out'.1.popEventsRaw.filter (·.eventId ≠ event.eventId)

/-- The batch returns, with one result an event and counts that add up.  It would return too
without any one event that is not accepted, with the same for the events with other ids, and
without a rejected one with the same for all others. -/
def BatchIsolated : Prop :=
  ∃ out, ingestPopBatch db b = .ok out ∧
    out.2.results.map (·.eventId) = b.events.map (·.eventId) ∧
    out.2.acceptedCount + out.2.rejectedCount + out.2.quarantinedCount + out.2.duplicateCount =
      b.events.length ∧
    ∀ before event after, b.events = before ++ event :: after →
      ∀ r, out.2.results[before.length]? = some r → r.status ≠ .accepted →
        ∃ out', ingestPopBatch db { b with events := before ++ after } = .ok out' ∧
          SameForOthers event out out' ∧
          (r.status = .rejected → out'.2.results = out.2.results.eraseIdx before.length ∧
            out'.1.popEventsRaw = out.1.popEventsRaw)

end Batch

/-! ## What an event is settled to -/

theorem scalarOneOrNone_unique {db : Db} (h : db.manifestIds.Nodup) (manifestId : String) :
    ∃ m, scalarOneOrNone (db.deliveryManifests.filter (·.manifestId = manifestId)) = .ok m := by
  have hmem : ∀ m ∈ db.deliveryManifests.filter (·.manifestId = manifestId),
      m.manifestId = manifestId := fun m hm ↦ of_decide_eq_true (List.mem_filter.1 hm).2
  have hnodup : ((db.deliveryManifests.filter (·.manifestId = manifestId)).map
      (·.manifestId)).Nodup := h.sublist (List.filter_sublist.map _)
  match hfound : db.deliveryManifests.filter (·.manifestId = manifestId) with
  | [] =>
      rw [hfound]
      exact ⟨none, rfl⟩
  | [m] =>
      rw [hfound]
      exact ⟨some m, rfl⟩
  | m :: m' :: rest =>
      rw [hfound] at hmem hnodup
      have hm := hmem m List.mem_cons_self
      have hm' := hmem m' (List.mem_cons_of_mem m List.mem_cons_self)
      rw [List.map_cons, List.map_cons, hm, hm'] at hnodup
      exact absurd List.mem_cons_self (List.nodup_cons.1 hnodup).1

theorem resolveEventManifest_ok_iff {db : Db} (h : db.manifestIds.Nodup) (event : PopEventIn) :
    (∃ found, resolveEventManifest db event = .ok found) ↔
      event.manifestId.all storableText = true := by
  unfold resolveEventManifest
  cases event.manifestId with
  | none => exact ⟨fun _ ↦ rfl, fun _ ↦ ⟨none, rfl⟩⟩
  | some manifestId =>
      by_cases hempty : manifestId = ""
      · subst hempty
        exact ⟨fun _ ↦ by decide, fun _ ↦ ⟨none, rfl⟩⟩
      · have hfilter : (some manifestId).filter (· ≠ "") = some manifestId := by
          simp [hempty]
        rw [hfilter]
        show (∃ found, resolveManifest db manifestId = .ok found) ↔ storableText manifestId = true
        unfold resolveManifest
        by_cases htext : storableText manifestId = true
        · rw [if_pos htext]
          exact ⟨fun _ ↦ htext, fun _ ↦ scalarOneOrNone_unique h manifestId⟩
        · rw [if_neg htext]
          constructor
          · rintro ⟨found, hfound⟩
            cases hfound
          · intro ht
            exact absurd ht htext

theorem unplayed_some {event : PopEventIn} {result : IngestResult}
    (h : unplayed event = some result) : result.status = .rejected := by
  unfold unplayed at h
  split at h
  · cases h
    rfl
  · split at h
    · cases h
      rfl
    · cases h

/-- A rejected event asks for no row; a row that is asked for is that of the event, of a known
device, and accepted exactly if the event is. -/
theorem settlement_cases {db : Db} {b : PopBatch} {event : PopEventIn} {result : IngestResult}
    {asked : Option PopEventRaw} (h : settlement db b event = .ok (result, asked)) :
    (asked = none ∧ result.status = .rejected) ∨
    ∃ row, asked = some row ∧ row.eventId = event.eventId ∧
      row.deviceId ∈ db.physicalDevices.map (·.id) ∧
      ((result.status = .accepted ∧ row.status = .accepted) ∨
        (result.status = .quarantined ∧ row.status = .quarantined)) := by
  unfold settlement at h
  split at h
  · rename_i hplayed
    cases h
    exact .inl ⟨rfl, unplayed_some hplayed⟩
  · split at h
    · cases h
      exact .inl ⟨rfl, rfl⟩
    · rename_i retailerId hretailer
      have hdevice : event.deviceId ∈ db.physicalDevices.map (·.id) := by
        unfold getDeviceRetailerId at hretailer
        obtain ⟨x, hx, -⟩ := Option.bind_eq_some_iff.1 hretailer
        exact List.mem_map.2 ⟨x, Rows.get_mem hx, Rows.get_key hx⟩
      split at h
      · cases h
      · split at h
        · cases h
          exact .inl ⟨rfl, rfl⟩
        · split at h
          · cases h
          · cases h
            exact .inr ⟨_, rfl, rfl, hdevice, .inr ⟨rfl, rfl⟩⟩
          · split at h
            · cases h
              exact .inr ⟨_, rfl, rfl, hdevice, .inr ⟨rfl, rfl⟩⟩
            · split at h
              · cases h
                exact .inl ⟨rfl, rfl⟩
              · cases h
                exact .inr ⟨_, rfl, rfl, hdevice, .inl ⟨rfl, rfl⟩⟩

/-- The checks raise only on a time without a zone and on a manifest id that cannot be sent. -/
theorem settlement_ok_iff {db : Db} (hunique : db.manifestIds.Nodup) (b : PopBatch)
    (event : PopEventIn) :
    (∃ v, settlement db b event = .ok v) ↔
      (unplayed event = none → ∀ retailerId,
        getDeviceRetailerId db event.deviceId = some retailerId →
          ∃ renderedAt, event.renderedAt = .aware renderedAt) ∧
      (unplayed event = none → ∀ retailerId,
        getDeviceRetailerId db event.deviceId = some retailerId →
          ∀ renderedAt, event.renderedAt = .aware renderedAt →
            b.now - staleEventAge ≤ renderedAt.instant →
              event.manifestId.all storableText = true) := by
  unfold settlement
  cases unplayed event with
  | some result => simp
  | none =>
      cases getDeviceRetailerId db event.deviceId with
      | none => simp
      | some retailerId =>
          cases event.renderedAt with
          | naive wall => simp
          | aware renderedAt =>
              dsimp only
              by_cases hstale : renderedAt.instant < b.now - staleEventAge
              · rw [if_pos hstale]
                constructor
                · intro _
                  refine ⟨fun _ _ _ ↦ ⟨renderedAt, rfl⟩, ?_⟩
                  intro _ _ _ t ht hfresh
                  cases ht
                  omega
                · intro _
                  exact ⟨_, rfl⟩
              · rw [if_neg hstale]
                have hresolve := resolveEventManifest_ok_iff hunique event
                constructor
                · rintro ⟨v, hv⟩
                  refine ⟨fun _ _ _ ↦ ⟨renderedAt, rfl⟩, ?_⟩
                  intro _ _ _ _ _ _
                  apply hresolve.1
                  cases hfound : resolveEventManifest db event with
                  | error e =>
                      rw [hfound] at hv
                      cases hv
                  | ok found => exact ⟨found, rfl⟩
                · rintro ⟨-, hall⟩
                  obtain ⟨found, hfound⟩ := hresolve.2
                    (hall rfl retailerId rfl renderedAt rfl (not_lt.1 hstale))
                  rw [hfound]
                  cases found with
                  | none => exact ⟨_, rfl⟩
                  | some m =>
                      dsimp only
                      split
                      · exact ⟨_, rfl⟩
                      · split
                        · exact ⟨_, rfl⟩
                        · exact ⟨_, rfl⟩

/-! ## One event -/

section Event

variable {db : Db} {b : PopBatch} {event : PopEventIn}

theorem ingestPopEvent_misdirected {db' : Db} {result : IngestResult}
    (h : misdirected event b.jwtDeviceId = some result) :
    ingestPopEvent b.takesNaive db' event b.jwtDeviceId b.now b.batchId = .ok (db', result) := by
  unfold ingestPopEvent refusal
  rw [h]

theorem ingestPopEvent_known {db' : Db} (h : misdirected event b.jwtDeviceId = none)
    (hid : event.eventId ∈ db'.popDedupIndex) :
    ingestPopEvent b.takesNaive db' event b.jwtDeviceId b.now b.batchId =
      .ok (db', duplicateEvent) := by
  unfold ingestPopEvent refusal isPopEventDuplicate
  rw [h, if_pos hid]

theorem ingestPopEvent_unstorableId {db' : Db} (h : misdirected event b.jwtDeviceId = none)
    (hid : event.eventId ∉ db'.popDedupIndex) (htext : storableText event.eventId = false) :
    ingestPopEvent b.takesNaive db' event b.jwtDeviceId b.now b.batchId = .error .dataError := by
  unfold ingestPopEvent refusal isPopEventDuplicate
  rw [h, if_neg hid, htext]
  rfl

/-- The rows that are stored play no part in what a new event is settled to. -/
theorem ingestPopEvent_new (rows : List PopEventRaw) (outbox : List OutboxEvent)
    (h : misdirected event b.jwtDeviceId = none)
    (hid : event.eventId ∉ (db.recorded rows outbox).popDedupIndex)
    (htext : storableText event.eventId = true) :
    ∃ eventType payload,
      ingestPopEvent b.takesNaive (db.recorded rows outbox) event b.jwtDeviceId b.now b.batchId =
        match settlement db b event with
        | .error e => .error e
        | .ok (result, none) => .ok (db.recorded rows outbox, result)
        | .ok (result, some row) =>
            writePopEvent b.takesNaive (db.recorded rows outbox) row eventType payload result := by
  have hrefusal : refusal (db.recorded rows outbox) event b.jwtDeviceId = .ok (unplayed event) := by
    unfold refusal isPopEventDuplicate
    rw [h, if_neg hid, if_pos htext]
  have hdevice : getDeviceRetailerId (db.recorded rows outbox) event.deviceId =
      getDeviceRetailerId db event.deviceId := rfl
  have hmanifest : resolveEventManifest (db.recorded rows outbox) event =
      resolveEventManifest db event := rfl
  unfold ingestPopEvent settlement
  rw [hrefusal, hdevice]
  cases unplayed event with
  | some result => exact ⟨"", .null, rfl⟩
  | none =>
      cases getDeviceRetailerId db event.deviceId with
      | none => exact ⟨"", .null, rfl⟩
      | some retailerId =>
          cases event.renderedAt with
          | naive wall => exact ⟨"", .null, rfl⟩
          | aware renderedAt =>
              dsimp only
              by_cases hstale : renderedAt.instant < b.now - staleEventAge
              · rw [if_pos hstale, if_pos hstale]
                exact ⟨"", .null, rfl⟩
              · rw [if_neg hstale, if_neg hstale]
                unfold settleEvent
                rw [hmanifest]
                cases resolveEventManifest db event with
                | error e => exact ⟨"", .null, rfl⟩
                | ok found =>
                    cases found with
                    | none => exact ⟨_, _, rfl⟩
                    | some m =>
                        dsimp only
                        by_cases hdrift : renderedAt.instant > b.now + popClockDrift
                        · rw [if_pos hdrift, if_pos hdrift]
                          exact ⟨_, _, rfl⟩
                        · rw [if_neg hdrift, if_neg hdrift]
                          cases manifestMismatch event m with
                          | some reason => exact ⟨"", .null, rfl⟩
                          | none => exact ⟨_, _, rfl⟩

end Event

theorem insertPopRawEvent_storable {db db' : Db} {b : PopBatch} {row : PopEventRaw}
    (hnew : row.eventId ∉ db'.popEventsRaw.map (·.eventId))
    (hdevice : row.deviceId ∈ db'.physicalDevices.map (·.id))
    (hassets : db'.creativeAssets = db.creativeAssets) (hrow : Storable db b row) :
    insertPopRawEvent b.takesNaive db' row =
      .ok { db' with popEventsRaw := db'.popEventsRaw ++ [row] } := by
  unfold insertPopRawEvent
  rw [if_neg (not_not.2 hrow.1), if_neg hnew, if_neg (not_not.2 hdevice), hassets,
    if_neg (not_not.2 hrow.2)]

/-- A row that the database refuses is not taken for a duplicate. -/
theorem insertPopRawEvent_unstorable {db db' : Db} {b : PopBatch} {row : PopEventRaw}
    (hnew : row.eventId ∉ db'.popEventsRaw.map (·.eventId))
    (hassets : db'.creativeAssets = db.creativeAssets) (hrow : ¬ Storable db b row) :
    ∃ e, insertPopRawEvent b.takesNaive db' row = .error e ∧ isPopDedupUniqueViolation e = false := by
  unfold insertPopRawEvent
  by_cases hfits : row.fits b.takesNaive = true
  · have hasset : row.creativeAssetId ∉ db.creativeAssets.map (·.id) := fun h ↦ hrow ⟨hfits, h⟩
    rw [if_neg (not_not.2 hfits), if_neg hnew]
    by_cases hdevice : row.deviceId ∈ db'.physicalDevices.map (·.id)
    · rw [if_neg (not_not.2 hdevice), hassets, if_pos hasset]
      exact ⟨_, rfl, rfl⟩
    · rw [if_pos hdevice]
      exact ⟨_, rfl, rfl⟩
  · rw [if_pos hfits]
    exact ⟨_, rfl, rfl⟩

theorem writePopEvent_storable {db db' : Db} {b : PopBatch} {row : PopEventRaw}
    (hnew : row.eventId ∉ db'.popEventsRaw.map (·.eventId))
    (hid : row.eventId ∉ db'.popDedupIndex)
    (hdevice : row.deviceId ∈ db'.physicalDevices.map (·.id))
    (hassets : db'.creativeAssets = db.creativeAssets) (hrow : Storable db b row)
    (eventType : String) (payload : Json) (done : IngestResult) :
    ∃ outbox, writePopEvent b.takesNaive db' row eventType payload done =
      .ok (db'.recorded [row] outbox, done) := by
  unfold writePopEvent
  rw [insertPopRawEvent_storable hnew hdevice hassets hrow]
  dsimp only [bind, Except.bind]
  unfold insertPopDedupKey
  dsimp only
  rw [if_neg hid]
  exact ⟨_, rfl⟩

theorem writePopEvent_unstorable {db db' : Db} {b : PopBatch} {row : PopEventRaw}
    (hnew : row.eventId ∉ db'.popEventsRaw.map (·.eventId))
    (hassets : db'.creativeAssets = db.creativeAssets) (hrow : ¬ Storable db b row)
    (eventType : String) (payload : Json) (done : IngestResult) :
    ∃ e, writePopEvent b.takesNaive db' row eventType payload done = .error e := by
  obtain ⟨e, he, hdedup⟩ := insertPopRawEvent_unstorable hnew hassets hrow
  unfold writePopEvent
  rw [he]
  dsimp only [bind, Except.bind]
  rw [hdedup]
  exact ⟨e, rfl⟩

/-! ## The events before -/

section Reached

variable {db db' : Db} {b : PopBatch} {before : List PopEventIn} {event : PopEventIn}

/-- A state that the events before lead to. -/
structure Reached (db : Db) (b : PopBatch) (before : List PopEventIn) (db' : Db) : Prop where
  rows : ∃ rows outbox, db' = db.recorded rows outbox
  consistent : PopConsistent db'
  index : ∀ eventId, eventId ∈ db'.popDedupIndex ↔
    eventId ∈ db.popDedupIndex ∨ askedBefore db b before eventId ≠ []

/-- The event does not make the call raise. -/
def Unraised (db : Db) (b : PopBatch) (before : List PopEventIn) (event : PopEventIn) : Prop :=
  Settled db b event ∨ askedBefore db b before event.eventId ≠ [] ∨ Sound db b event

/-- The event is among those that the dedup index has by now. -/
def KnownBefore (db : Db) (b : PopBatch) (before : List PopEventIn) (event : PopEventIn) : Prop :=
  event.eventId ∈ db.popDedupIndex ∨ askedBefore db b before event.eventId ≠ []

instance (db : Db) (b : PopBatch) (before : List PopEventIn) (event : PopEventIn) :
    Decidable (KnownBefore db b before event) := inferInstanceAs (Decidable (_ ∨ _))

def resultAt (db : Db) (b : PopBatch) (before : List PopEventIn) (event : PopEventIn) :
    IngestResult :=
  match misdirected event b.jwtDeviceId with
  | some result => result
  | none =>
      if KnownBefore db b before event then duplicateEvent
      else
        match settlement db b event with
        | .ok (result, _) => result
        | .error _ => duplicateEvent

def rowAt (db : Db) (b : PopBatch) (before : List PopEventIn) (event : PopEventIn) :
    Option PopEventRaw :=
  if KnownBefore db b before event then none else askedRow db b event

theorem askedBefore_append (db : Db) (b : PopBatch) (l m : List PopEventIn) (eventId : String) :
    askedBefore db b (l ++ m) eventId = askedBefore db b l eventId ++ askedBefore db b m eventId := by
  unfold askedBefore
  rw [List.filter_append, List.filterMap_append]

theorem askedBefore_singleton (db : Db) (b : PopBatch) (event : PopEventIn) (eventId : String) :
    askedBefore db b [event] eventId =
      if event.eventId = eventId then (askedRow db b event).toList else [] := by
  unfold askedBefore
  by_cases h : event.eventId = eventId
  · rw [if_pos h, List.filter_cons_of_pos (by simp [h])]
    cases hrow : askedRow db b event with
    | none => simp [hrow]
    | some row => simp [hrow]
  · rw [if_neg h, List.filter_cons_of_neg (by simp [h])]
    rfl

theorem Reached.start (hdb : PopConsistent db) (b : PopBatch) : Reached db b [] db where
  rows := ⟨[], db.outboxEvents, (recorded_nil db).symm⟩
  consistent := hdb
  index := fun _ ↦ ⟨.inl, fun h ↦ h.resolve_right fun hne ↦ hne rfl⟩

/-- An event that leaves the tables alone leads to the same state, unless it asks for a row that
is not there. -/
theorem Reached.skip (h : Reached db b before db')
    (hrow : askedRow db b event = none ∨ KnownBefore db b before event) :
    Reached db b (before ++ [event]) db' where
  rows := h.rows
  consistent := h.consistent
  index := by
    intro eventId
    rw [h.index, askedBefore_append, askedBefore_singleton]
    by_cases hid : event.eventId = eventId
    · subst hid
      rw [if_pos rfl]
      rcases hrow with hrow | hknown
      · rw [hrow]
        simp
      · have hleft := hknown
        unfold KnownBefore at hleft
        constructor
        · intro _
          rcases hleft with hin | hne
          · exact .inl hin
          · exact .inr fun hnil ↦ hne (List.append_eq_nil_iff.1 hnil).1
        · intro _
          exact hleft
    · rw [if_neg hid, List.append_nil]

theorem Reached.record (h : Reached db b before db') {row : PopEventRaw}
    (hasked : askedRow db b event = some row) (hid : row.eventId = event.eventId)
    (hnew : ¬ KnownBefore db b before event) (outbox : List OutboxEvent) :
    Reached db b (before ++ [event]) (db'.recorded [row] outbox) where
  rows := by
    obtain ⟨rows, o, rfl⟩ := h.rows
    exact ⟨rows ++ [row], outbox, recorded_recorded db _ _ _ _⟩
  consistent := by
    apply h.consistent.record
    intro hmem
    apply hnew
    rw [hid] at hmem
    exact (h.index _).1 (h.consistent.indexed_of_row hmem)
  index := by
    intro eventId
    rw [askedBefore_append, askedBefore_singleton]
    show eventId ∈ db'.popDedupIndex ++ [row.eventId] ↔ _
    rw [List.mem_append, h.index, List.mem_singleton, hid]
    by_cases heq : event.eventId = eventId
    · rw [if_pos heq, hasked]
      simp [heq.symm]
    · rw [if_neg heq, List.append_nil]
      simp [Ne.symm heq]

theorem askedRow_of_directed (hdirected : misdirected event b.jwtDeviceId = none)
    {result : IngestResult} {row : Option PopEventRaw}
    (h : settlement db b event = .ok (result, row)) : askedRow db b event = row := by
  unfold askedRow
  rw [hdirected, h]

theorem Sound.settles (hunique : db.manifestIds.Nodup) (h : Sound db b event) :
    ∃ result row, settlement db b event = .ok (result, row) := by
  obtain ⟨⟨result, row⟩, hv⟩ := (settlement_ok_iff hunique b event).2 ⟨h.comparable, h.resolvable⟩
  exact ⟨result, row, hv⟩

/-- What one event does after the events before it, when it does not raise. -/
theorem Reached.step (hunique : db.manifestIds.Nodup) (h : Reached db b before db')
    (hevent : Unraised db b before event) :
    ∃ db'', ingestPopEvent b.takesNaive db' event b.jwtDeviceId b.now b.batchId =
        .ok (db'', resultAt db b before event) ∧
      Reached db b (before ++ [event]) db'' ∧
      db''.popEventsRaw = db'.popEventsRaw ++ (rowAt db b before event).toList := by
  unfold resultAt rowAt
  cases hdirected : misdirected event b.jwtDeviceId with
  | some result =>
      have hnone : askedRow db b event = none := by
        unfold askedRow
        rw [hdirected]
      refine ⟨db', ingestPopEvent_misdirected hdirected, h.skip (.inl hnone), ?_⟩
      rw [hnone, ite_self]
      simp
  | none =>
      by_cases hknown : KnownBefore db b before event
      · dsimp only
        rw [if_pos hknown, if_pos hknown]
        refine ⟨db', ingestPopEvent_known hdirected ((h.index _).2 hknown),
          h.skip (.inr hknown), ?_⟩
        simp
      · dsimp only
        rw [if_neg hknown, if_neg hknown]
        -- neither settled nor known: the event has to be sound
        have hsound : Sound db b event := by
          rcases hevent with (hmis | hin) | hne | hsound
          · exact absurd hdirected hmis
          · exact absurd (.inl hin) hknown
          · exact absurd (.inr hne) hknown
          · exact hsound
        have hid := mt (h.index _).1 hknown
        obtain ⟨result, asked, hsettled⟩ := hsound.settles hunique
        have hasked := askedRow_of_directed hdirected hsettled
        obtain ⟨rows, o, rfl⟩ := h.rows
        obtain ⟨eventType, payload, heq⟩ := ingestPopEvent_new rows o hdirected hid hsound.id
        rw [heq, hsettled, hasked]
        dsimp only
        rcases settlement_cases hsettled with ⟨rfl, -⟩ | ⟨row, rfl, hrowId, hdevice, -⟩
        · exact ⟨_, rfl, h.skip (.inl hasked), by simp⟩
        · rw [← hrowId] at hid
          have hnew : row.eventId ∉ (db.recorded rows o).popEventsRaw.map (·.eventId) :=
            fun hmem ↦ hid (h.consistent.indexed_of_row hmem)
          obtain ⟨outbox, hwrite⟩ := writePopEvent_storable hnew hid hdevice rfl
            (hsound.storable row hasked) eventType payload result
          exact ⟨_, hwrite, h.record hasked hrowId hknown outbox, rfl⟩

theorem Reached.raises (hunique : db.manifestIds.Nodup) (h : Reached db b before db')
    (hevent : ¬ Unraised db b before event) :
    ∃ e, ingestPopEvent b.takesNaive db' event b.jwtDeviceId b.now b.batchId = .error e := by
  obtain ⟨hsettled, hrest⟩ := not_or.1 hevent
  obtain ⟨hasked, hsound⟩ := not_or.1 hrest
  obtain ⟨hdirected, hin⟩ := not_or.1 hsettled
  have hdirected : misdirected event b.jwtDeviceId = none := not_not.1 hdirected
  have hid : event.eventId ∉ db'.popDedupIndex := by
    rw [h.index]
    exact not_or.2 ⟨hin, hasked⟩
  by_cases htext : storableText event.eventId = true
  · obtain ⟨rows, o, rfl⟩ := h.rows
    obtain ⟨eventType, payload, heq⟩ := ingestPopEvent_new rows o hdirected hid htext
    rw [heq]
    cases hv : settlement db b event with
    | error e => exact ⟨e, rfl⟩
    | ok v =>
        obtain ⟨result, asked⟩ := v
        have hrow := askedRow_of_directed hdirected hv
        have hchecks := (settlement_ok_iff hunique b event).1 ⟨_, hv⟩
        -- only the write is left to go wrong
        cases asked with
        | none =>
            refine absurd ⟨htext, hchecks.1, hchecks.2, ?_⟩ hsound
            intro row hr
            rw [hrow] at hr
            cases hr
        | some row =>
            have hstore : ¬ Storable db b row := by
              intro hs
              refine hsound ⟨htext, hchecks.1, hchecks.2, ?_⟩
              intro row' hr
              rw [hrow] at hr
              cases hr
              exact hs
            rcases settlement_cases hv with ⟨hnone, -⟩ | ⟨row', hsome, hrowId, -, -⟩
            · cases hnone
            · cases hsome
              have hnew : row.eventId ∉ (db.recorded rows o).popEventsRaw.map (·.eventId) := by
                rw [hrowId]
                exact fun hmem ↦ hid (h.consistent.indexed_of_row hmem)
              exact writePopEvent_unstorable hnew rfl hstore eventType payload result
  · exact ⟨_, ingestPopEvent_unstorableId hdirected hid (Bool.not_eq_true _ ▸ htext)⟩

end Reached

/-! ## The batch -/

section Run

variable {db db' : Db} {b : PopBatch}

def resultsFrom (db : Db) (b : PopBatch) (before : List PopEventIn) :
    List PopEventIn → List PopEventResult
  | [] => []
  | event :: after =>
      ⟨event.eventId, (resultAt db b before event).status, (resultAt db b before event).reason⟩ ::
        resultsFrom db b (before ++ [event]) after

def rowsFrom (db : Db) (b : PopBatch) (before : List PopEventIn) :
    List PopEventIn → List PopEventRaw
  | [] => []
  | event :: after =>
      (rowAt db b before event).toList ++ rowsFrom db b (before ++ [event]) after

/-- No event of the list, coming after those before it, makes the call raise. -/
def AllUnraised (db : Db) (b : PopBatch) (before events : List PopEventIn) : Prop :=
  ∀ pre event post, events = pre ++ event :: post → Unraised db b (before ++ pre) event

theorem allUnraised_cons {before events : List PopEventIn} {event : PopEventIn} :
    AllUnraised db b before (event :: events) ↔
      Unraised db b before event ∧ AllUnraised db b (before ++ [event]) events := by
  constructor
  · intro h
    constructor
    · have hfirst := h [] event events rfl
      rw [List.append_nil] at hfirst
      exact hfirst
    · intro pre e post heq
      have hnext := h (event :: pre) e post (by rw [heq]; rfl)
      rw [List.append_cons] at hnext
      exact hnext
  · rintro ⟨hfirst, hrest⟩ pre e post heq
    cases pre with
    | nil =>
        cases heq
        rw [List.append_nil]
        exact hfirst
    | cons x pre =>
        cases heq
        rw [List.append_cons]
        exact hrest pre e post rfl

theorem ingestEvents_unraised (hunique : db.manifestIds.Nodup) {before events : List PopEventIn}
    (h : Reached db b before db') (hall : AllUnraised db b before events) :
    ∃ db'', ingestEvents b db' events = .ok (db'', resultsFrom db b before events) ∧
      db''.popEventsRaw = db'.popEventsRaw ++ rowsFrom db b before events := by
  induction events generalizing before db' with
  | nil => exact ⟨db', rfl, (List.append_nil _).symm⟩
  | cons event events ih =>
      obtain ⟨hevent, hrest⟩ := allUnraised_cons.1 hall
      obtain ⟨mid, hstep, hmid, hrows⟩ := h.step hunique hevent
      obtain ⟨last, hloop, hlast⟩ := ih hmid hrest
      refine ⟨last, ?_, ?_⟩
      · rw [ingestEvents, hstep]
        dsimp only
        rw [hloop]
        rfl
      · rw [hlast, hrows, List.append_assoc]
        rfl

theorem ingestEvents_ok_iff (hunique : db.manifestIds.Nodup) {before events : List PopEventIn}
    (h : Reached db b before db') :
    (∃ out, ingestEvents b db' events = .ok out) ↔ AllUnraised db b before events := by
  constructor
  · intro hok
    induction events generalizing before db' with
    | nil =>
        intro pre event post heq
        simp at heq
    | cons event events ih =>
        obtain ⟨out, hout⟩ := hok
        obtain ⟨mid, r, rest, hevent, hrest⟩ := @ingestEvents_cons b db' out.1 event events out.2 hout
        have hun : Unraised db b before event := by
          by_contra hraise
          obtain ⟨e, he⟩ := h.raises hunique hraise
          rw [he] at hevent
          cases hevent
        obtain ⟨mid', hstep, hmid, -⟩ := h.step hunique hun
        rw [hevent] at hstep
        cases hstep
        exact allUnraised_cons.2 ⟨hun, ih hmid ⟨_, hrest⟩⟩
  · intro hall
    obtain ⟨db'', hok, -⟩ := ingestEvents_unraised hunique h hall
    exact ⟨_, hok⟩

/-- A batch in closed form. -/
theorem ingestPopBatch_unraised (hunique : db.manifestIds.Nodup) (hdb : PopConsistent db)
    (events : List PopEventIn) (hall : AllUnraised db b [] events) :
    ∃ out, ingestPopBatch db { b with events := events } = .ok out ∧
      out.2 = batchResponse (resultsFrom db b [] events) ∧
      out.1.popEventsRaw = db.popEventsRaw ++ rowsFrom db b [] events := by
  obtain ⟨db', hloop, hrows⟩ := ingestEvents_unraised hunique (Reached.start hdb b) hall
  unfold ingestPopBatch
  dsimp only
  rw [ingestEvents_events, hloop]
  exact ⟨_, rfl, rfl, hrows⟩

theorem ingestPopBatch_ok (hunique : db.manifestIds.Nodup) (hdb : PopConsistent db)
    {events : List PopEventIn} {out : Db × PopBatchResponse}
    (h : ingestPopBatch db { b with events := events } = .ok out) :
    AllUnraised db b [] events := by
  apply (ingestEvents_ok_iff hunique (Reached.start hdb b)).1
  unfold ingestPopBatch at h
  dsimp only at h
  rw [ingestEvents_events] at h
  split at h
  · cases h
  · rename_i db' results hloop
    exact ⟨_, hloop⟩

/-! ## Results and rows, event by event -/

theorem resultsFrom_length (before events : List PopEventIn) :
    (resultsFrom db b before events).length = events.length := by
  induction events generalizing before with
  | nil => rfl
  | cons event events ih =>
      show (resultsFrom db b (before ++ [event]) events).length + 1 = _
      rw [ih]
      rfl

theorem resultsFrom_ids (before events : List PopEventIn) :
    (resultsFrom db b before events).map (·.eventId) = events.map (·.eventId) := by
  induction events generalizing before with
  | nil => rfl
  | cons event events ih =>
      show event.eventId :: (resultsFrom db b (before ++ [event]) events).map (·.eventId) = _
      rw [ih]
      rfl

theorem resultsFrom_append (before l m : List PopEventIn) :
    resultsFrom db b before (l ++ m) =
      resultsFrom db b before l ++ resultsFrom db b (before ++ l) m := by
  induction l generalizing before with
  | nil =>
      rw [List.append_nil]
      rfl
  | cons event l ih =>
      rw [List.append_cons before event l]
      exact congrArg (List.cons _) (ih (before ++ [event]))

theorem rowsFrom_append (before l m : List PopEventIn) :
    rowsFrom db b before (l ++ m) = rowsFrom db b before l ++ rowsFrom db b (before ++ l) m := by
  induction l generalizing before with
  | nil =>
      rw [List.append_nil]
      rfl
  | cons event l ih =>
      rw [List.append_cons before event l]
      show (rowAt db b before event).toList ++ rowsFrom db b (before ++ [event]) (l ++ m) = _
      rw [ih, ← List.append_assoc]
      rfl

theorem askedRow_id {event : PopEventIn} {row : PopEventRaw} (h : askedRow db b event = some row) :
    misdirected event b.jwtDeviceId = none ∧ row.eventId = event.eventId ∧
      ∃ result, settlement db b event = .ok (result, some row) ∧
        (row.status = .accepted ↔ result.status = .accepted) := by
  unfold askedRow at h
  split at h
  · rename_i result asked hdirected hsettled
    subst h
    rcases settlement_cases hsettled with ⟨hnone, -⟩ | ⟨row', hsome, hid, -, hstatus⟩
    · cases hnone
    · cases hsome
      refine ⟨hdirected, hid, result, hsettled, ?_⟩
      rcases hstatus with ⟨hr, hrow⟩ | ⟨hr, hrow⟩
      · simp [hr, hrow]
      · simp [hr, hrow]
  · cases h

/-- Ids about which the events before agree get the same results. -/
theorem resultsFrom_congr {p : String → Prop} [DecidablePred p] {before before' : List PopEventIn}
    (h : ∀ eventId, p eventId → (askedBefore db b before eventId = [] ↔
      askedBefore db b before' eventId = [])) (events : List PopEventIn) :
    (resultsFrom db b before events).filter (p ·.eventId) =
        (resultsFrom db b before' events).filter (p ·.eventId) ∧
      (rowsFrom db b before events).filter (p ·.eventId) =
        (rowsFrom db b before' events).filter (p ·.eventId) := by
  induction events generalizing before before' with
  | nil => exact ⟨rfl, rfl⟩
  | cons event events ih =>
      have hnext : ∀ eventId, p eventId → (askedBefore db b (before ++ [event]) eventId = [] ↔
          askedBefore db b (before' ++ [event]) eventId = []) := by
        intro eventId hp
        rw [askedBefore_append, askedBefore_append, List.append_eq_nil_iff,
          List.append_eq_nil_iff, h eventId hp]
      obtain ⟨hresults, hrows⟩ := ih hnext
      unfold resultsFrom rowsFrom
      rw [List.filter_append, List.filter_append, hrows]
      by_cases hp : p event.eventId
      · have hknown : KnownBefore db b before event ↔ KnownBefore db b before' event :=
          or_congr_right (not_congr (h event.eventId hp))
        have hresult : resultAt db b before event = resultAt db b before' event := by
          unfold resultAt
          simp only [hknown]
        have hrow : rowAt db b before event = rowAt db b before' event := by
          unfold rowAt
          simp only [hknown]
        rw [List.filter_cons_of_pos (by simpa using hp), List.filter_cons_of_pos (by simpa using hp),
          hresults, hresult, hrow]
        exact ⟨rfl, rfl⟩
      · have hnone : ∀ l, ((rowAt db b l event).toList).filter (p ·.eventId) = [] := by
          intro l
          unfold rowAt
          split
          · rfl
          · cases hrow : askedRow db b event with
            | none => rfl
            | some row =>
                have hid := (askedRow_id hrow).2.1
                simp [hid, hp]
        rw [List.filter_cons_of_neg (by simpa using hp), List.filter_cons_of_neg (by simpa using hp),
          hresults, hnone, hnone]
        exact ⟨rfl, rfl⟩

theorem batchResponse_counts (results : List PopEventResult) :
    (batchResponse results).acceptedCount + (batchResponse results).rejectedCount +
      (batchResponse results).quarantinedCount + (batchResponse results).duplicateCount =
        results.length := by
  unfold batchResponse
  dsimp only
  induction results with
  | nil => rfl
  | cons r results ih =>
      rw [List.countP_cons, List.countP_cons, List.countP_cons, List.countP_cons, List.length_cons,
        ← ih]
      cases r.status with
      | accepted => simp; omega
      | quarantined => simp; omega
      | rejected => simp; omega
      | duplicate => simp; omega

theorem resultAt_asked {before : List PopEventIn} {event : PopEventIn} {row : PopEventRaw}
    (hnew : ¬ KnownBefore db b before event) (h : askedRow db b event = some row) :
    (resultAt db b before event).status = .accepted ↔ row.status = .accepted := by
  obtain ⟨hdirected, -, result, hsettled, hstatus⟩ := askedRow_id h
  unfold resultAt
  rw [hdirected, if_neg hnew, hsettled]
  exact hstatus.symm

theorem askedRow_of_rejected {before : List PopEventIn} {event : PopEventIn}
    (h : (resultAt db b before event).status = .rejected) : askedRow db b event = none := by
  unfold resultAt at h
  unfold askedRow
  split at h
  · rename_i hdirected
    rw [hdirected]
  · rename_i hdirected
    rw [hdirected]
    split at h
    · cases h
    · split at h
      · rename_i result asked hsettled
        rw [hsettled]
        rcases settlement_cases hsettled with ⟨hnone, -⟩ | ⟨row, -, -, -, hstatus⟩
        · exact hnone
        · rcases hstatus with ⟨hr, -⟩ | ⟨hr, -⟩
          · rw [hr] at h
            cases h
          · rw [hr] at h
            cases h
      · cases h

/-- The only event before that has asked for a row with the id. -/
theorem askedBefore_single {before : List PopEventIn} {eventId : String} {row : PopEventRaw}
    (h : askedBefore db b before eventId = [row]) :
    ∃ pre event post, before = pre ++ event :: post ∧ event.eventId = eventId ∧
      askedRow db b event = some row ∧ askedBefore db b pre eventId = [] ∧
        askedBefore db b post eventId = [] := by
  induction before with
  | nil => cases h
  | cons event before ih =>
      have hsplit := askedBefore_append db b [event] before eventId
      rw [List.singleton_append, h, askedBefore_singleton] at hsplit
      by_cases hid : event.eventId = eventId
      · rw [if_pos hid] at hsplit
        cases hasked : askedRow db b event with
        | none =>
            rw [hasked] at hsplit
            obtain ⟨pre, e, post, rfl, he, hrow, hpre, hpost⟩ := ih hsplit.symm
            refine ⟨event :: pre, e, post, rfl, he, hrow, ?_, hpost⟩
            have hcons := askedBefore_append db b [event] pre eventId
            rw [List.singleton_append, askedBefore_singleton, if_pos hid, hasked, hpre] at hcons
            exact hcons
        | some row' =>
            rw [hasked] at hsplit
            have hrest : row = row' ∧ [] = askedBefore db b before eventId :=
              List.cons_eq_cons.1 hsplit
            exact ⟨[], event, before, rfl, hid, by rw [hasked, hrest.1], rfl, hrest.2.symm⟩
      · rw [if_neg hid, List.nil_append] at hsplit
        obtain ⟨pre, e, post, rfl, he, hrow, hpre, hpost⟩ := ih hsplit.symm
        refine ⟨event :: pre, e, post, rfl, he, hrow, ?_, hpost⟩
        have hcons := askedBefore_append db b [event] pre eventId
        rw [List.singleton_append, askedBefore_singleton, if_neg hid, hpre] at hcons
        exact hcons

/-- The result at the place of an event. -/
theorem resultsFrom_at (before : List PopEventIn) (event : PopEventIn) (after : List PopEventIn) :
    (resultsFrom db b [] (before ++ event :: after))[before.length]? =
      some ⟨event.eventId, (resultAt db b before event).status,
        (resultAt db b before event).reason⟩ := by
  rw [resultsFrom_append]
  show (resultsFrom db b [] before ++ _ :: resultsFrom db b (before ++ [event]) after)[_]? = _
  rw [List.getElem?_append_right (resultsFrom_length [] before).le, resultsFrom_length]
  simp

theorem resultsFrom_eraseIdx (before : List PopEventIn) (event : PopEventIn)
    (after : List PopEventIn) :
    (resultsFrom db b [] (before ++ event :: after)).eraseIdx before.length =
      resultsFrom db b [] before ++ resultsFrom db b (before ++ [event]) after := by
  rw [resultsFrom_append]
  show (resultsFrom db b [] before ++ _ :: resultsFrom db b (before ++ [event]) after).eraseIdx _ = _
  rw [List.eraseIdx_append_of_length_le (resultsFrom_length [] before).le, resultsFrom_length]
  simp

/-! ## Leaving an event out -/

theorem allUnraised_append {before l m : List PopEventIn} (hl : AllUnraised db b before l)
    (hm : AllUnraised db b (before ++ l) m) : AllUnraised db b before (l ++ m) := by
  induction l generalizing before with
  | nil =>
      rw [List.append_nil] at hm
      exact hm
  | cons event l ih =>
      obtain ⟨hevent, hrest⟩ := allUnraised_cons.1 hl
      rw [List.append_cons] at hm
      exact allUnraised_cons.2 ⟨hevent, ih hrest hm⟩

theorem covered_ne_nil {rows : List PopEventRaw} (h : Covered rows) : rows ≠ [] := by
  rintro rfl
  exact h

theorem AllSound.unraised (h : AllSound db b) : AllUnraised db b [] b.events := by
  intro pre event post heq
  rw [List.nil_append]
  rcases h pre event post heq with hsettled | hcovered | hsound
  · exact .inl hsettled
  · exact .inr (.inl (covered_ne_nil hcovered))
  · exact .inr (.inr hsound)

/-- Without an event that is not accepted, those behind it still have no reason to raise. -/
theorem AllSound.unraised_without (h : AllSound db b) {before after : List PopEventIn}
    {event : PopEventIn} (hevents : b.events = before ++ event :: after)
    (hleft : (resultAt db b before event).status ≠ .accepted) :
    AllUnraised db b [] (before ++ after) := by
  apply allUnraised_append
  · intro pre e post heq
    apply h.unraised pre e (post ++ event :: after)
    rw [hevents, heq, List.append_assoc]
    rfl
  · intro pre e post heq
    rw [List.nil_append]
    have hall := h (before ++ event :: pre) e post (by rw [hevents, heq, List.append_assoc]; rfl)
    rcases hall with hsettled | hcovered | hsound
    · exact .inl hsettled
    · by_cases hin : e.eventId ∈ db.popDedupIndex
      · exact .inl (.inr hin)
      · apply Or.inr
        apply Or.inl
        intro hnil
        rw [askedBefore_append, List.append_eq_nil_iff] at hnil
        obtain ⟨hbefore, hpre⟩ := hnil
        rw [List.append_cons, askedBefore_append, askedBefore_append, askedBefore_singleton,
          hbefore, hpre, List.append_nil, List.nil_append] at hcovered
        -- the event itself is then the only one before `e` to ask for the row
        by_cases hid : event.eventId = e.eventId
        · rw [if_pos hid] at hcovered
          cases hasked : askedRow db b event with
          | none =>
              rw [hasked] at hcovered
              exact hcovered
          | some row =>
              rw [hasked] at hcovered
              have hnew : ¬ KnownBefore db b before event := by
                unfold KnownBefore
                rw [hid, hbefore]
                exact not_or.2 ⟨hin, not_not.2 rfl⟩
              exact hleft ((resultAt_asked hnew hasked).2 hcovered)
        · rw [if_neg hid] at hcovered
          exact hcovered
    · exact .inr (.inr hsound)

/-- An event that keeps the batch from raising by an earlier one that is not accepted has to be
sound: the earlier one can be left out. -/
theorem AllSound.of_isolated (hunique : db.manifestIds.Nodup) (hdb : PopConsistent db)
    (h : BatchIsolated db b) : AllSound db b := by
  obtain ⟨out, hok, -, -, hleave⟩ := h
  have hall : AllUnraised db b [] b.events := ingestPopBatch_ok hunique hdb hok
  obtain ⟨out', hok', hresults, -⟩ := ingestPopBatch_unraised hunique hdb b.events hall
  cases hok.symm.trans hok'
  intro before event after hevents
  rcases hall before event after hevents with hsettled | hasked | hsound
  · exact .inl hsettled
  · rw [List.nil_append] at hasked
    match hrows : askedBefore db b before event.eventId with
    | [] => exact absurd hrows hasked
    | _ :: _ :: _ =>
        exact .inr (.inl trivial)
    | [row] =>
        by_cases hstatus : row.status = .accepted
        · exact .inr (.inl hstatus)
        · obtain ⟨pre, first, post, rfl, hid, hfirst, hpre, hpost⟩ := askedBefore_single hrows
          by_cases hin : event.eventId ∈ db.popDedupIndex
          · exact .inl (.inr hin)
          · have hnew : ¬ KnownBefore db b pre first := by
              unfold KnownBefore
              rw [hid, hpre]
              exact not_or.2 ⟨hin, not_not.2 rfl⟩
            have hsplit : b.events = pre ++ first :: (post ++ event :: after) := by
              rw [hevents, List.append_assoc]
              rfl
            have hplace := @resultsFrom_at db b pre first (post ++ event :: after)
            rw [← hsplit] at hplace
            rw [hresults] at hleave
            obtain ⟨without, hwithout, -⟩ := hleave pre first _ hsplit _ hplace
              (mt (resultAt_asked hnew hfirst).1 hstatus)
            have hrest := ingestPopBatch_ok hunique hdb hwithout (pre ++ post) event after
              (by rw [List.append_assoc])
            rw [List.nil_append] at hrest
            rcases hrest with hsettled | hasked' | hsound
            · exact .inl hsettled
            · rw [askedBefore_append, hpre, hpost] at hasked'
              exact absurd rfl hasked'
            · exact .inr (.inr hsound)
  · exact .inr (.inr hsound)

theorem AllSound.isolated (hunique : db.manifestIds.Nodup) (hdb : PopConsistent db)
    (h : AllSound db b) : BatchIsolated db b := by
  obtain ⟨out, hok, hresults, hrows⟩ := ingestPopBatch_unraised hunique hdb b.events h.unraised
  have hlist : out.2.results = resultsFrom db b [] b.events := congrArg (·.results) hresults
  refine ⟨out, hok, ?_, ?_, ?_⟩
  · rw [hlist]
    exact resultsFrom_ids [] b.events
  · rw [hresults, batchResponse_counts]
    exact resultsFrom_length [] b.events
  · intro before event after hevents r hr hstatus
    have hplace := @resultsFrom_at db b before event after
    rw [hlist, hevents, hplace] at hr
    cases hr
    obtain ⟨out', hok', hresults', hrows'⟩ := ingestPopBatch_unraised hunique hdb (before ++ after)
      (h.unraised_without hevents hstatus)
    have hlist' : out'.2.results = resultsFrom db b [] (before ++ after) :=
      congrArg (·.results) hresults'
    have hall : resultsFrom db b [] b.events = resultsFrom db b [] before ++
        ⟨event.eventId, (resultAt db b before event).status,
          (resultAt db b before event).reason⟩ :: resultsFrom db b (before ++ [event]) after := by
      rw [hevents, resultsFrom_append]
      rfl
    have hallRows : rowsFrom db b [] b.events = rowsFrom db b [] before ++
        ((rowAt db b before event).toList ++ rowsFrom db b (before ++ [event]) after) := by
      rw [hevents, rowsFrom_append]
      rfl
    have hrest : resultsFrom db b [] (before ++ after) =
        resultsFrom db b [] before ++ resultsFrom db b before after := resultsFrom_append [] _ _
    have hrestRows : rowsFrom db b [] (before ++ after) =
        rowsFrom db b [] before ++ rowsFrom db b before after := rowsFrom_append [] _ _
    refine ⟨out', hok', ?_, ?_⟩
    · have hsame := @resultsFrom_congr db b (· ≠ event.eventId) _ (before ++ [event]) before ?_
        after
      · constructor
        · rw [hlist, hlist', hall, hrest, List.filter_append, List.filter_append,
            List.filter_cons_of_neg (by simp), hsame.1]
        · have hown : ((rowAt db b before event).toList).filter
              (·.eventId ≠ event.eventId) = [] := by
            unfold rowAt
            split
            · rfl
            · cases hasked : askedRow db b event with
              | none => rfl
              | some row => simp [(askedRow_id hasked).2.1]
          rw [hrows, hrows', hallRows, hrestRows, List.filter_append, List.filter_append,
            List.filter_append, List.filter_append, List.filter_append, hown, hsame.2,
            List.nil_append]
      · intro eventId hne
        rw [askedBefore_append, askedBefore_singleton, if_neg (Ne.symm hne), List.append_nil]
    · intro hrejected
      have hnone := askedRow_of_rejected hrejected
      have hsame := @resultsFrom_congr db b (fun _ ↦ True) _ (before ++ [event]) before ?_ after
      · rw [hlist, hlist', hrows, hrows', hrest, hrestRows, hallRows, hevents,
          resultsFrom_eraseIdx]
        simp only [decide_true, List.filter_true] at hsame
        have hown : rowAt db b before event = none := by
          unfold rowAt
          rw [hnone, ite_self]
        rw [hsame.1, hsame.2, hown]
        exact ⟨rfl, rfl⟩
      · intro eventId _
        rw [askedBefore_append, askedBefore_singleton, hnone]
        simp

end Run

/-- A batch is isolated exactly if no event of it makes the call raise, whichever event that is
not accepted is left out. -/
theorem batchIsolated_iff (db : Db) (b : PopBatch) (hdb : PopConsistent db)
    (hunique : db.manifestIds.Nodup) : BatchIsolated db b ↔ AllSound db b :=
  ⟨AllSound.of_isolated hunique hdb, AllSound.isolated hunique hdb⟩

/-! ## What the request schema admits -/

def popMaxBatchSize : Nat := 500

def schemaLength (lower upper : Nat) (s : String) : Bool := lower ≤ s.length ∧ s.length ≤ upper

def PopEventIn.valid (event : PopEventIn) : Bool :=
  schemaLength 1 64 event.eventId ∧ schemaLength 1 8 event.schemaVersion ∧
    schemaLength 1 64 event.deviceId ∧ event.manifestId.all (schemaLength 0 128) ∧
    event.campaignId.all (schemaLength 0 64) ∧ schemaLength 1 64 event.creativeAssetId ∧
    schemaLength 1 64 event.surfaceId ∧
    1 ≤ event.durationMs ∧ event.durationMs ≤ popMaxDurationMs ∧
    event.playbackResult ∈ ["success", "fallback", "interrupted", "failed"]

def PopBatch.valid (b : PopBatch) : Bool :=
  1 ≤ b.events.length ∧ b.events.length ≤ popMaxBatchSize ∧ b.events.all (·.valid)

/-! An event without a manifest is quarantined under the asset that it names, known or not. -/

def unknownAssetEvent : PopEventIn :=
  { demoPopEvent with
    eventId := "e2"
    manifestId := none
    creativeAssetId := "ghost" }

def unknownAssetBatch : PopBatch :=
  { demoBatch with events := [unknownAssetEvent, demoPopEvent] }

theorem unknown_asset_discards_batch : ¬ ∀ (db : Db) (b : PopBatch), PopConsistent db →
    db.manifestIds.Nodup → (getDeviceRetailerId db b.jwtDeviceId).isSome = true →
      b.valid = true → BatchIsolated db b := by
  intro h
  obtain ⟨out, hok, -⟩ := h demoPopDb unknownAssetBatch demoPopDb_consistent (by decide +kernel)
    (by decide +kernel) (by decide +kernel)
  have herror : (ingestPopBatch demoPopDb unknownAssetBatch).toOption.isSome = false := by
    decide +kernel
  rw [hok] at herror
  cases herror

def quarantinedPopEvent : PopEventIn :=
  { demoPopEvent with
    eventId := "e2"
    manifestId := none }

theorem AllSound.of_sound {db : Db} {b : PopBatch} (h : ∀ event ∈ b.events, Sound db b event) :
    AllSound db b := by
  intro before event after hevents
  refine .inr (.inr (h event ?_))
  rw [hevents]
  exact List.mem_append_right before List.mem_cons_self

theorem quarantined_beside_accepted :
    BatchIsolated demoPopDb { demoBatch with events := [quarantinedPopEvent, demoPopEvent] } := by
  apply (batchIsolated_iff _ _ demoPopDb_consistent (by decide +kernel)).2
  apply AllSound.of_sound
  intro event hevent
  have hstorable : ∀ e ∈ [quarantinedPopEvent, demoPopEvent],
      ∀ row ∈ askedRow demoPopDb { demoBatch with events := [quarantinedPopEvent, demoPopEvent] } e,
        Storable demoPopDb demoBatch row := by
    decide +kernel
  have htext : ∀ e ∈ [quarantinedPopEvent, demoPopEvent],
      storableText e.eventId = true ∧ e.manifestId.all storableText = true ∧
        e.renderedAt = .aware (.utc 0) := by
    decide +kernel
  obtain ⟨hid, hmanifest, htime⟩ := htext event hevent
  exact {
    id := hid
    comparable := fun _ _ _ ↦ ⟨_, htime⟩
    resolvable := fun _ _ _ _ _ _ ↦ hmanifest
    storable := hstorable event hevent }

end RetailMedia
