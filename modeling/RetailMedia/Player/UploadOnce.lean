import RetailMedia.Player.PopUpload

/-! An event counts once, however often it is uploaded. -/

namespace RetailMedia

/-! ## The outbox plays no part -/

/-- The tables without the outbox, which is told of duplicates too. -/
def Db.tables (db : Db) : Db := { db with outboxEvents := [] }

section Tables

variable {takesNaive : Bool} {db db' : Db} {b : PopBatch} {event : PopEventIn}

/-- What a call gives, without the outbox. -/
def seenTables {β : Type*} (r : Except IngestError (Db × β)) : Except IngestError (Db × β) :=
  r.map fun p ↦ (p.1.tables, p.2)

theorem seenTables_ok {β : Type*} {r r' : Except IngestError (Db × β)}
    (h : seenTables r = seenTables r') {p : Db × β} (hr : r = .ok p) :
    ∃ p', r' = .ok p' ∧ p'.1.tables = p.1.tables ∧ p'.2 = p.2 := by
  subst hr
  cases r' with
  | error e => cases h
  | ok p' =>
      have hp := Except.ok.inj h
      exact ⟨p', rfl, (congrArg Prod.fst hp).symm, (congrArg Prod.snd hp).symm⟩

theorem seenTables_error {β : Type*} {r r' : Except IngestError (Db × β)}
    (h : seenTables r = seenTables r') {e : IngestError} (hr : r = .error e) : r' = .error e := by
  subst hr
  cases r' with
  | error e' => exact congrArg Except.error (Except.error.inj h).symm
  | ok p' => cases h

theorem writePopEvent_tables (row : PopEventRaw) (eventType : String) (payload : Json)
    (done : IngestResult) :
    seenTables (writePopEvent takesNaive db.tables row eventType payload done) =
      seenTables (writePopEvent takesNaive db row eventType payload done) := by
  have hraw : insertPopRawEvent takesNaive db.tables row =
      (insertPopRawEvent takesNaive db row).map Db.tables := by
    unfold insertPopRawEvent
    split_ifs <;> first | rfl | contradiction
  unfold writePopEvent
  rw [hraw]
  cases insertPopRawEvent takesNaive db row with
  | error e =>
      dsimp only [Except.map, bind, Except.bind]
      split <;> rfl
  | ok inserted =>
      dsimp only [Except.map, bind, Except.bind]
      unfold insertPopDedupKey
      by_cases hid : row.eventId ∈ inserted.popDedupIndex
      · rw [if_pos hid, if_pos (show row.eventId ∈ inserted.tables.popDedupIndex from hid)]
        rfl
      · rw [if_neg hid, if_neg (show row.eventId ∉ inserted.tables.popDedupIndex from hid)]
        rfl

theorem settleEvent_tables (now : Int) (batchId : Option String) (renderedAt : DateTime)
    (retailerId : String) :
    seenTables (settleEvent takesNaive db.tables event now batchId renderedAt retailerId) =
      seenTables (settleEvent takesNaive db event now batchId renderedAt retailerId) := by
  have hmanifest : resolveEventManifest db.tables event = resolveEventManifest db event := rfl
  unfold settleEvent
  rw [hmanifest]
  cases resolveEventManifest db event with
  | error e => rfl
  | ok found =>
      cases found with
      | none => exact writePopEvent_tables _ _ _ _
      | some m =>
          dsimp only
          split
          · exact writePopEvent_tables _ _ _ _
          · cases manifestMismatch event m with
            | some reason => rfl
            | none => exact writePopEvent_tables _ _ _ _

theorem ingestPopEvent_tables (jwtDeviceId : String) (now : Int) (batchId : Option String) :
    seenTables (ingestPopEvent takesNaive db.tables event jwtDeviceId now batchId) =
      seenTables (ingestPopEvent takesNaive db event jwtDeviceId now batchId) := by
  have hrefusal : refusal db.tables event jwtDeviceId = refusal db event jwtDeviceId := rfl
  have hdevice : getDeviceRetailerId db.tables event.deviceId =
      getDeviceRetailerId db event.deviceId := rfl
  unfold ingestPopEvent
  rw [hrefusal, hdevice]
  cases refusal db event jwtDeviceId with
  | error e => rfl
  | ok refused =>
      cases refused with
      | some result => rfl
      | none =>
          cases getDeviceRetailerId db event.deviceId with
          | none => rfl
          | some retailerId =>
              cases event.renderedAt with
              | naive wall => rfl
              | aware renderedAt =>
                  dsimp only
                  split
                  · rfl
                  · exact settleEvent_tables _ _ _ _

theorem ingestPopEvent_congr (h : db.tables = db'.tables) (b : PopBatch) (event : PopEventIn) :
    seenTables (ingestPopEvent b.takesNaive db event b.jwtDeviceId b.now b.batchId) =
      seenTables (ingestPopEvent b.takesNaive db' event b.jwtDeviceId b.now b.batchId) := by
  rw [← ingestPopEvent_tables, h, ingestPopEvent_tables]

theorem ingestEvents_congr (h : db.tables = db'.tables) (b : PopBatch) (events : List PopEventIn) :
    seenTables (ingestEvents b db events) = seenTables (ingestEvents b db' events) := by
  induction events generalizing db db' with
  | nil =>
      show Except.ok (db.tables, _) = Except.ok (db'.tables, _)
      rw [h]
  | cons event events ih =>
      have hevent := ingestPopEvent_congr h b event
      rw [ingestEvents, ingestEvents]
      cases hone : ingestPopEvent b.takesNaive db event b.jwtDeviceId b.now b.batchId with
      | error e =>
          rw [seenTables_error hevent hone]
      | ok p =>
          obtain ⟨p', hone', htables, hresult⟩ := seenTables_ok hevent hone
          have hrest := ih htables.symm
          rw [hone']
          dsimp only
          cases hmore : ingestEvents b p.1 events with
          | error e =>
              rw [seenTables_error hrest hmore]
          | ok q =>
              obtain ⟨q', hmore', htables', hresults⟩ := seenTables_ok hrest hmore
              rw [hmore']
              show Except.ok (q.1.tables, _) = Except.ok (q'.1.tables, _)
              rw [htables', hresult, hresults]

theorem popStep_tables (h : db.tables = db'.tables) (b : PopBatch) :
    (popStep db b).tables = (popStep db' b).tables := by
  have hevents := ingestEvents_congr h b b.events
  unfold popStep ingestPopBatch
  cases hall : ingestEvents b db b.events with
  | error e =>
      rw [seenTables_error hevents hall]
      exact h
  | ok p =>
      obtain ⟨p', hall', htables, -⟩ := seenTables_ok hevents hall
      rw [hall']
      exact htables.symm

theorem popChange_tables (h : db.tables = db'.tables) (change : PopChange) :
    (popChange db change).tables = (popChange db' change).tables := by
  cases change with
  | ingest b => exact popStep_tables h b
  | expire before => exact congrArg (fun d ↦ expirePopQuarantineEvents d before) h
  | other rest =>
      exact congrArg (fun d ↦ ({ rest.tables with
        popEventsRaw := d.popEventsRaw
        popDedupIndex := d.popDedupIndex } : Db)) h

end Tables

/-! ## One event in a batch of its own -/

theorem misdirected_rejected {event : PopEventIn} {jwtDeviceId : String} {result : IngestResult}
    (h : misdirected event jwtDeviceId = some result) : result.status = .rejected := by
  unfold misdirected at h
  split at h
  · cases h
    rfl
  · split at h
    · cases h
      rfl
    · cases h

/-- With its key out of the index, a write that does not raise records its row. -/
theorem writePopEvent_new {takesNaive : Bool} {db db' : Db} {row : PopEventRaw}
    {eventType : String} {payload : Json} {done r : IngestResult}
    (hid : row.eventId ∉ db.popDedupIndex)
    (h : writePopEvent takesNaive db row eventType payload done = .ok (db', r)) :
    r = done ∧ ∃ outbox, db' = db.recorded [row] outbox := by
  unfold writePopEvent at h
  cases hraw : insertPopRawEvent takesNaive db row with
  | error e =>
      rw [hraw] at h
      dsimp only [bind, Except.bind] at h
      split at h
      · rename_i hdedup
        -- the insert of the row raises no violation of the index
        unfold insertPopRawEvent at hraw
        split_ifs at hraw <;> cases hraw <;> cases hdedup
      · cases h
  | ok inserted =>
      obtain ⟨-, rfl⟩ := insertPopRawEvent_ok hraw
      rw [hraw] at h
      dsimp only [bind, Except.bind] at h
      unfold insertPopDedupKey at h
      dsimp only at h
      rw [if_neg hid] at h
      cases h
      exact ⟨rfl, _, rfl⟩

/-- What becomes of an event: it is refused, or known, or recorded. -/
inductive Ingested (db : Db) (b : PopBatch) (event : PopEventIn) : Db → IngestResult → Prop
  | refused {r : IngestResult} (hr : r.status = .rejected) : Ingested db b event db r
  | known (hid : event.eventId ∈ db.popDedupIndex) : Ingested db b event db duplicateEvent
  | recorded {r : IngestResult} (row : PopEventRaw) (outbox : List OutboxEvent)
      (hnew : event.eventId ∉ db.popDedupIndex) (hasked : askedRow db b event = some row)
      (hr : r.status = .accepted ∧ row.status = .accepted ∨
        r.status = .quarantined ∧ row.status = .quarantined) :
      Ingested db b event (db.recorded [row] outbox) r

theorem ingestPopEvent_ingested {db db' : Db} {b : PopBatch} {event : PopEventIn}
    {r : IngestResult}
    (h : ingestPopEvent b.takesNaive db event b.jwtDeviceId b.now b.batchId = .ok (db', r)) :
    Ingested db b event db' r := by
  cases hdirected : misdirected event b.jwtDeviceId with
  | some result =>
      rw [ingestPopEvent_misdirected hdirected] at h
      cases h
      exact .refused (misdirected_rejected hdirected)
  | none =>
      by_cases hid : event.eventId ∈ db.popDedupIndex
      · rw [ingestPopEvent_known hdirected hid] at h
        cases h
        exact .known hid
      · by_cases htext : storableText event.eventId = true
        · have hrec := recorded_nil db
          obtain ⟨eventType, payload, heq⟩ := ingestPopEvent_new [] db.outboxEvents hdirected
            (by rw [hrec]; exact hid) htext
          rw [hrec, h] at heq
          cases hv : settlement db b event with
          | error e =>
              rw [hv] at heq
              cases heq
          | ok v =>
              obtain ⟨result, asked⟩ := v
              rw [hv] at heq
              rcases settlement_cases hv with ⟨rfl, hstatus⟩ | ⟨row, rfl, hrow, -, hstatus⟩
              · cases heq
                exact .refused hstatus
              · obtain ⟨rfl, outbox, rfl⟩ := writePopEvent_new (hrow ▸ hid) heq.symm
                refine .recorded row outbox hid ?_ hstatus
                unfold askedRow
                rw [hdirected, hv]
        · rw [ingestPopEvent_unstorableId hdirected hid (Bool.not_eq_true _ ▸ htext)] at h
          cases h

theorem ingestPopBatch_single {b : PopBatch} {event : PopEventIn} (hevents : b.events = [event])
    (db : Db) :
    (∃ e, ingestPopBatch db b = .error e) ∨
    ∃ db' r outbox, Ingested db b event db' r ∧ ingestPopBatch db b =
      .ok ({ db' with outboxEvents := outbox },
        batchResponse [⟨event.eventId, r.status, r.reason⟩]) := by
  unfold ingestPopBatch
  rw [hevents, ingestEvents]
  cases hone : ingestPopEvent b.takesNaive db event b.jwtDeviceId b.now b.batchId with
  | error e => exact .inl ⟨e, rfl⟩
  | ok p => exact .inr ⟨p.1, p.2, _, ingestPopEvent_ingested hone, rfl⟩

theorem Ingested.indexed {db db' : Db} {b : PopBatch} {event : PopEventIn} {r : IngestResult}
    (h : Ingested db b event db' r) :
    db' = db ∨ event.eventId ∉ db.popDedupIndex ∧ event.eventId ∈ db'.popDedupIndex := by
  cases h with
  | refused hr => exact .inl rfl
  | known hid => exact .inl rfl
  | recorded row outbox hnew hasked hr =>
      refine .inr ⟨hnew, ?_⟩
      show event.eventId ∈ db.popDedupIndex ++ [row.eventId]
      rw [(askedRow_id hasked).2.1]
      exact List.mem_append_right _ List.mem_cons_self

/-! ## The server takes each event once -/

/-- The event of a change that uploads one alone. -/
def PopChange.upload : PopChange → Option String
  | .ingest ⟨[event], _, _, _, _⟩ => some event.eventId
  | _ => none

theorem upload_some {change : PopChange} {eventId : String} (h : change.upload = some eventId) :
    ∃ b event, change = .ingest b ∧ b.events = [event] ∧ event.eventId = eventId := by
  unfold PopChange.upload at h
  split at h
  · exact ⟨_, _, rfl, rfl, Option.some.inj h⟩
  · cases h

theorem popChange_indexed {db : Db} {eventId : String} (h : eventId ∈ db.popDedupIndex)
    (change : PopChange) : eventId ∈ (popChange db change).popDedupIndex := by
  cases change with
  | ingest b =>
      obtain ⟨rows, outbox, heq, -⟩ := popStep_writes db b
      show eventId ∈ (popStep db b).popDedupIndex
      rw [heq]
      exact List.mem_append_left _ h
  | expire before => exact h
  | other rest => exact h

theorem popStep_single (db : Db) {b : PopBatch} {event : PopEventIn}
    (hevents : b.events = [event]) :
    (popStep db b).tables = db.tables ∨
      event.eventId ∉ db.popDedupIndex ∧ event.eventId ∈ (popStep db b).popDedupIndex := by
  unfold popStep
  rcases ingestPopBatch_single hevents db with ⟨e, herror⟩ | ⟨db', r, outbox, hevent, hok⟩
  · rw [herror]
    exact .inl rfl
  · rw [hok]
    rcases hevent.indexed with rfl | hindexed
    · exact .inl rfl
    · exact .inr hindexed

theorem server_receives_once : Redelivery.Receiver popChange PopChange.upload Db.tables
    (fun eventId db ↦ eventId ∈ db.popDedupIndex) where
  view_next h change := popChange_tables h change
  done_next h change := popChange_indexed h change
  effect {db change eventId} h := by
    obtain ⟨b, event, rfl, hevents, rfl⟩ := upload_some h
    rcases popStep_single db hevents with hsame | ⟨-, hindexed⟩
    · exact .inl hsame
    · exact .inr hindexed
  again {db change eventId} h hid := by
    obtain ⟨b, event, rfl, hevents, rfl⟩ := upload_some h
    rcases popStep_single db hevents with hsame | ⟨hnew, -⟩
    · exact hsame
    · exact absurd hid hnew

/-! ## The tables of a run -/

theorem ingestBatch_db (db : Db) (b : PopBatch) :
    (ingestBatch db b).1 = if b.valid then popStep db b else db := by
  unfold ingestBatch popStep
  by_cases hvalid : b.valid = true
  · rw [if_neg (not_not.2 hvalid), if_pos hvalid]
    cases ingestPopBatch db b with
    | error e => rfl
    | ok p => rfl
  · rw [if_pos hvalid, if_neg hvalid]

namespace UploadSystem

theorem next_db (s : UploadSystem) (move : UploadMove) :
    (s.next move).db = Run.final popChange s.db (s.change move) := by
  cases move with
  | send slot jwtDeviceId maxRetries eventId now =>
      unfold next start
      dsimp only
      split <;> rfl
  | deliver eventId attempt serving =>
      unfold next change
      dsimp only
      cases s.sender eventId attempt with
      | none => rfl
      | some c =>
          dsimp only [update]
          rw [ingestBatch_db]
          split <;> rfl
  | refuse eventId attempt statusCode =>
      unfold next
      dsimp only
      split <;> rfl
  | blank eventId attempt =>
      unfold next
      dsimp only
      split <;> rfl
  | answer eventId n =>
      unfold next
      dsimp only
      split <;> rfl
  | fail eventId error => rfl
  | world change => rfl

theorem final_db (s : UploadSystem) (l : List UploadMove) :
    (Run.final next s l).db = Run.final popChange s.db (s.changes l) := by
  induction l generalizing s with
  | nil => rfl
  | cons move l ih =>
      rw [Run.final_cons, ih, next_db, changes]
      exact (List.foldl_append ..).symm

end UploadSystem

/-- Whatever is lost, late or repeated on the way, the tables apart from the outbox are those of a
history in which everything else happens as it does, and each event is uploaded at most once. -/
theorem uploads_recorded_once (s : UploadSystem) (l : List UploadMove) :
    ∃ kept : List PopChange, kept.Sublist (s.changes l) ∧
      kept.filter (·.upload.isNone) = (s.changes l).filter (·.upload.isNone) ∧
      (kept.filterMap PopChange.upload).Nodup ∧
      (Run.final UploadSystem.next s l).db.tables = (Run.final popChange s.db kept).tables := by
  obtain ⟨kept, honce⟩ := Redelivery.once server_receives_once s.db (s.changes l)
  refine ⟨kept, honce.sublist, honce.keyless, honce.keys, ?_⟩
  rw [UploadSystem.final_db]
  exact honce.same

end RetailMedia
