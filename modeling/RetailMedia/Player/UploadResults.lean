import RetailMedia.Player.UploadOnce

/-! What an upload leaves in the tables, and what it comes back with. -/

namespace RetailMedia

/-! ## What a call is told -/

/-- The row is the report of the event. -/
structure Reports (event : PopEventIn) (row : PopEventRaw) : Prop where
  device : row.deviceId = event.deviceId
  surface : row.surfaceId = event.surfaceId
  asset : row.creativeAssetId = event.creativeAssetId
  duration : row.durationMs = event.durationMs
  rendered : ∃ t, event.renderedAt = .aware t ∧ row.renderedAt = t.instant

/-- A result is about one event, and what it says of it is so. -/
structure Told (db : Db) (eventId : String) (r : PopSendResult) : Prop where
  one : r.acceptedCount + r.rejectedCount + r.quarantinedCount + r.duplicateCount = 1
  accepted : r.acceptedCount = 1 →
    ∃ row ∈ db.popEventsRaw, row.eventId = eventId ∧ row.status = .accepted
  quarantined : r.quarantinedCount = 1 →
    ∃ row ∈ db.popEventsRaw, row.eventId = eventId ∧ row.status ≠ .accepted
  duplicate : r.duplicateCount = 1 → ∃ row ∈ db.popEventsRaw, row.eventId = eventId

/-- The server has answered a request of the call that it has recorded the event. -/
def PopCall.ToldRecorded (c : PopCall) (r : PopSendResult) : Prop :=
  (∃ p ∈ c.answers, p.2.handle = .ok r) ∧ (r.acceptedCount = 1 ∨ r.quarantinedCount = 1)

/-- What the call comes back with is so, or an answer without a text has told it nothing. -/
def PopCall.Understands (db : Db) (c : PopCall) (r : PopSendResult) : Prop :=
  Told db c.eventId r ∨ r = {} ∧ ∃ p ∈ c.answers, p.2 = .empty

/-- An event that comes back as a duplicate was recorded by a request of the same call, the answer
to which the player has not got. -/
structure UploadSettled (db : Db) (c : PopCall) : Prop where
  attempts : c.sent ≤ c.policy.maxAttempts
  once : (db.popEventsRaw.filter (·.eventId = c.eventId)).length ≤ 1
  reports : ∀ row ∈ db.popEventsRaw, row.eventId = c.eventId → Reports c.event row
  result : ∀ r, c.outcome = some (.ok r) → c.Understands db r
  lost : ∀ r, c.outcome = some (.ok r) → r.duplicateCount = 1 →
    ∃ recorded, c.ToldRecorded recorded ∧ .ok recorded ∉ c.seen
  raised : ∀ e, c.outcome = some (.error e) →
    classifyError e = false ∨ c.sent = c.policy.maxAttempts

/-! ## The tables grow -/

/-- Rows stay, but for their expiry, and what is new has one of the ids. -/
structure RawGrows (ids : List String) (db db' : Db) : Prop where
  kept : ∀ row ∈ db.popEventsRaw, ∃ row' ∈ db'.popEventsRaw, row'.eventId = row.eventId ∧
    (row'.status = .accepted ↔ row.status = .accepted)
  old : ∀ row' ∈ db'.popEventsRaw, row'.eventId ∉ ids →
    ∃ row ∈ db.popEventsRaw, row' = row ∨ row' = row.expired
  index : ∀ eventId ∈ db'.popDedupIndex, eventId ∉ ids → eventId ∈ db.popDedupIndex

theorem RawGrows.of_rows {db db' : Db} {ids : List String}
    (hraw : db'.popEventsRaw = db.popEventsRaw) (hindex : db'.popDedupIndex = db.popDedupIndex) :
    RawGrows ids db db' where
  kept row hrow := ⟨row, hraw ▸ hrow, rfl, Iff.rfl⟩
  old row hrow _ := ⟨row, hraw ▸ hrow, .inl rfl⟩
  index _ hid _ := hindex ▸ hid

theorem RawGrows.of_recorded {db : Db} {rows : List PopEventRaw} {ids : List String}
    (h : ∀ row ∈ rows, row.eventId ∈ ids) (outbox : List OutboxEvent) :
    RawGrows ids db (db.recorded rows outbox) where
  kept row hrow := ⟨row, List.mem_append_left _ hrow, rfl, Iff.rfl⟩
  old row' hrow' hid := by
    rcases List.mem_append.1 hrow' with hold | hnew
    · exact ⟨row', hold, .inl rfl⟩
    · exact absurd (h row' hnew) hid
  index eventId hindex hid := by
    rcases List.mem_append.1 hindex with hold | hnew
    · exact hold
    · obtain ⟨row, hrow, rfl⟩ := List.mem_map.1 hnew
      exact absurd (h row hrow) hid

theorem Ingested.recorded_rows {db db' : Db} {b : PopBatch} {event : PopEventIn} {r : IngestResult}
    (h : Ingested db b event db' r) :
    ∃ rows outbox, db' = db.recorded rows outbox ∧ ∀ row ∈ rows, row.eventId = event.eventId := by
  cases h with
  | refused hr => exact ⟨[], _, (recorded_nil db).symm, by simp⟩
  | known hid => exact ⟨[], _, (recorded_nil db).symm, by simp⟩
  | recorded row outbox hnew hasked hr =>
      refine ⟨[row], outbox, rfl, fun x hx ↦ ?_⟩
      rw [List.mem_singleton.1 hx]
      exact (askedRow_id hasked).2.1

theorem ingestEvents_recorded {b : PopBatch} {db db' : Db} {events : List PopEventIn}
    {results : List PopEventResult} (h : ingestEvents b db events = .ok (db', results)) :
    ∃ rows outbox, db' = db.recorded rows outbox ∧
      ∀ row ∈ rows, row.eventId ∈ events.map (·.eventId) := by
  induction events generalizing db results with
  | nil =>
      cases h
      exact ⟨[], _, (recorded_nil _).symm, by simp⟩
  | cons event events ih =>
      obtain ⟨mid, r, rest, hevent, hrest⟩ := ingestEvents_cons h
      obtain ⟨rows, o, rfl, hrows⟩ := (ingestPopEvent_ingested hevent).recorded_rows
      obtain ⟨more, outbox, heq, hmore⟩ := ih hrest
      refine ⟨rows ++ more, outbox, heq.trans (recorded_recorded db _ _ _ _), ?_⟩
      intro row hrow
      rcases List.mem_append.1 hrow with hrow | hrow
      · exact hrows row hrow ▸ List.mem_cons_self
      · exact List.mem_cons_of_mem _ (hmore row hrow)

/-- The ids that a change may record. -/
def PopChange.ids : PopChange → List String
  | .ingest b => b.events.map (·.eventId)
  | _ => []

theorem popChange_grows (db : Db) (change : PopChange) :
    RawGrows change.ids db (popChange db change) := by
  cases change with
  | ingest b =>
      show RawGrows _ db (popStep db b)
      unfold popStep ingestPopBatch
      cases hall : ingestEvents b db b.events with
      | error e => exact RawGrows.of_rows rfl rfl
      | ok p =>
          obtain ⟨rows, outbox, heq, hrows⟩ := ingestEvents_recorded hall
          have hgrows : RawGrows (b.events.map (·.eventId)) db (db.recorded rows outbox) :=
            RawGrows.of_recorded hrows outbox
          rw [← heq] at hgrows
          exact ⟨hgrows.kept, hgrows.old, hgrows.index⟩
  | expire before =>
      refine ⟨?_, ?_, fun _ h _ ↦ h⟩
      · intro row hrow
        refine ⟨_, Rows.mem_updateWhere.2 ⟨row, hrow, rfl⟩, ?_⟩
        split
        · rename_i hexpired
          have hstatus := (of_decide_eq_true hexpired).1
          refine ⟨rfl, ?_⟩
          rw [hstatus]
          show PopStatus.rejected = .accepted ↔ PopStatus.quarantined = .accepted
          decide
        · exact ⟨rfl, Iff.rfl⟩
      · intro row' hrow' _
        obtain ⟨row, hrow, rfl⟩ := Rows.mem_updateWhere.1 hrow'
        refine ⟨row, hrow, ?_⟩
        split
        · exact .inr rfl
        · exact .inl rfl
  | other rest => exact RawGrows.of_rows rfl rfl

/-! ## A call on its way -/

section Retries

variable {α : Type*} {policy : BackoffPolicy} {l : List (Except AttemptError α)} {attempt : Nat}

/-- A loop that waits goes on with what its attempt gives. -/
theorem executeWithRetries_concat (h : executeWithRetries policy attempt l = none)
    (result : Except AttemptError α) :
    executeWithRetries policy attempt (l ++ [result]) =
      executeWithRetries policy (attempt + l.length) [result] := by
  induction l generalizing attempt with
  | nil => rfl
  | cons first l ih =>
      cases first with
      | ok r => cases h
      | error e =>
          unfold executeWithRetries at h
          rw [List.cons_append, executeWithRetries]
          split at h
          · rename_i hagain
            rw [if_pos hagain, ih h, List.length_cons]
            congr 1
            omega
          · cases h

theorem executeWithRetries_ok {result : α}
    (h : executeWithRetries policy attempt l = some (.ok result)) : .ok result ∈ l := by
  induction l generalizing attempt with
  | nil => cases h
  | cons first l ih =>
      cases first with
      | ok r =>
          cases h
          exact List.mem_cons_self
      | error e =>
          unfold executeWithRetries at h
          split at h
          · exact List.mem_cons_of_mem _ (ih h)
          · cases h

theorem executeWithRetries_none (h : executeWithRetries policy attempt l = none) (result : α) :
    .ok result ∉ l := by
  induction l generalizing attempt with
  | nil => exact List.not_mem_nil
  | cons first l ih =>
      cases first with
      | ok r => cases h
      | error e =>
          unfold executeWithRetries at h
          split at h
          · intro hmem
            rcases List.mem_cons.1 hmem with heq | hmem
            · cases heq
            · exact ih h hmem
          · cases h

end Retries

/-- What holds of a call while its requests and answers are under way. -/
structure CallHolds (db : Db) (c : PopCall) : Prop where
  attempts : c.sent ≤ c.policy.maxAttempts
  raised : ∀ e, c.outcome = some (.error e) →
    classifyError e = false ∨ c.sent = c.policy.maxAttempts
  heard : ∀ p ∈ c.answers, ∀ r, p.2.handle = .ok r → c.Understands db r
  seen : ∀ r, .ok r ∈ c.seen → c.Understands db r
  single : ∀ r r', .ok r ∈ c.seen → .ok r' ∈ c.seen → r = r'
  reports : ∀ row ∈ db.popEventsRaw, row.eventId = c.eventId → Reports c.event row
  stored : c.eventId ∈ db.popDedupIndex →
    (∃ row ∈ db.popEventsRaw, row.eventId = c.eventId) ∧ ∃ r, c.ToldRecorded r

theorem CallHolds.settled {db : Db} {c : PopCall} (h : CallHolds db c) (hdb : PopConsistent db) :
    UploadSettled db c where
  attempts := h.attempts
  once := by
    rw [← List.countP_eq_length_filter]
    have hcount := List.nodup_iff_count_le_one.1 hdb.unique c.eventId
    rwa [List.count, List.countP_map] at hcount
  reports := h.reports
  result r hr := h.seen r (executeWithRetries_ok hr)
  lost r hr hduplicate := by
    have hseen := executeWithRetries_ok hr
    have htold : Told db c.eventId r := by
      rcases h.seen r hseen with htold | ⟨rfl, -⟩
      · exact htold
      · cases hduplicate
    obtain ⟨row, hrow, hid⟩ := htold.duplicate hduplicate
    have hindex : c.eventId ∈ db.popDedupIndex := hid ▸ hdb.indexed row hrow
    obtain ⟨recorded, hanswer, hcount⟩ := (h.stored hindex).2
    refine ⟨recorded, ⟨hanswer, hcount⟩, fun hmem ↦ ?_⟩
    -- the player has got one result, and it counts one event
    have hone := htold.one
    rw [h.single recorded r hmem hseen] at hcount
    omega
  raised := h.raised

theorem Told.grows {db db' : Db} {eventId : String} {r : PopSendResult} {ids : List String}
    (h : Told db eventId r) (hgrows : RawGrows ids db db') : Told db' eventId r where
  one := h.one
  accepted hr := by
    obtain ⟨row, hrow, hid, hstatus⟩ := h.accepted hr
    obtain ⟨row', hrow', hid', hstatus'⟩ := hgrows.kept row hrow
    exact ⟨row', hrow', hid'.trans hid, hstatus'.2 hstatus⟩
  quarantined hr := by
    obtain ⟨row, hrow, hid, hstatus⟩ := h.quarantined hr
    obtain ⟨row', hrow', hid', hstatus'⟩ := hgrows.kept row hrow
    exact ⟨row', hrow', hid'.trans hid, fun ha ↦ hstatus (hstatus'.1 ha)⟩
  duplicate hr := by
    obtain ⟨row, hrow, hid⟩ := h.duplicate hr
    obtain ⟨row', hrow', hid', -⟩ := hgrows.kept row hrow
    exact ⟨row', hrow', hid'.trans hid⟩

theorem PopCall.Understands.grows {db db' : Db} {c : PopCall} {r : PopSendResult}
    {ids : List String} (h : c.Understands db r) (hgrows : RawGrows ids db db') :
    c.Understands db' r := h.imp_left fun htold ↦ htold.grows hgrows

theorem PopCall.Understands.hear {db : Db} {c : PopCall} {r : PopSendResult}
    (h : c.Understands db r) (attempt : Nat) (answer : HttpAnswer) :
    (c.hear attempt answer).Understands db r := by
  rcases h with htold | ⟨hempty, p, hp, hanswer⟩
  · exact .inl htold
  · exact .inr ⟨hempty, p, List.mem_append_left _ hp, hanswer⟩

theorem Reports.expired {event : PopEventIn} {row : PopEventRaw} (h : Reports event row) :
    Reports event row.expired := ⟨h.device, h.surface, h.asset, h.duration, h.rendered⟩

/-- What others upload leaves a call alone. -/
theorem CallHolds.grows {db db' : Db} {c : PopCall} {ids : List String} (h : CallHolds db c)
    (hgrows : RawGrows ids db db') (hid : c.eventId ∉ ids) : CallHolds db' c where
  attempts := h.attempts
  raised := h.raised
  heard p hp r hr := (h.heard p hp r hr).grows hgrows
  seen r hr := (h.seen r hr).grows hgrows
  reports row' hrow' heq := by
    obtain ⟨row, hrow, rfl | rfl⟩ := hgrows.old row' hrow' (heq ▸ hid)
    · exact h.reports row' hrow heq
    · exact (h.reports row hrow heq).expired
  single := h.single
  stored hindex := by
    obtain ⟨⟨row, hrow, heq⟩, htold⟩ := h.stored (hgrows.index _ hindex hid)
    obtain ⟨row', hrow', heq', -⟩ := hgrows.kept row hrow
    exact ⟨⟨row', hrow', heq'.trans heq⟩, htold⟩

theorem take_sent {c : PopCall} (houtcome : c.outcome = none)
    (result : Except AttemptError PopSendResult) :
    (c.take result).outcome = executeWithRetries c.policy (1 + c.seen.length) [result] := by
  unfold PopCall.take
  rw [houtcome]
  exact executeWithRetries_concat houtcome result

theorem take_open {c : PopCall} (houtcome : c.outcome = none)
    (result : Except AttemptError PopSendResult) :
    c.take result = { c with seen := c.seen ++ [result] } := by
  unfold PopCall.take
  rw [houtcome]
  rfl

theorem take_length {c : PopCall} (houtcome : c.outcome = none)
    (result : Except AttemptError PopSendResult) :
    (c.take result).seen.length = c.seen.length + 1 := by
  rw [take_open houtcome]
  exact List.length_append

/-- An attempt that gives nothing more to wait for ends the call; another one is within the
policy. -/
theorem CallHolds.take_attempts {db : Db} {c : PopCall} (h : CallHolds db c)
    (houtcome : c.outcome = none) (result : Except AttemptError PopSendResult) :
    (c.take result).sent ≤ c.policy.maxAttempts := by
  have hattempts : c.seen.length + 1 ≤ c.policy.maxAttempts := by
    have hsent := h.attempts
    unfold PopCall.sent at hsent
    rwa [houtcome] at hsent
  unfold PopCall.sent
  rw [take_length houtcome, take_sent houtcome]
  cases result with
  | ok r => exact hattempts
  | error e =>
      unfold executeWithRetries
      by_cases hagain : shouldRetry c.policy (1 + c.seen.length) e = true
      · have hless := (of_decide_eq_true hagain).2
        rw [if_pos hagain]
        show c.seen.length + 1 + 1 ≤ c.policy.maxAttempts
        omega
      · rw [if_neg hagain]
        exact hattempts

/-- An error ends the call when it is not worth another attempt, or after the last one. -/
theorem CallHolds.take_raised {db : Db} {c : PopCall} (h : CallHolds db c)
    (houtcome : c.outcome = none) {result : Except AttemptError PopSendResult} {e : AttemptError}
    (he : (c.take result).outcome = some (.error e)) :
    classifyError e = false ∨ (c.take result).sent = c.policy.maxAttempts := by
  have hattempts := h.take_attempts houtcome result
  unfold PopCall.sent at hattempts ⊢
  rw [he, take_length houtcome] at hattempts ⊢
  rw [take_sent houtcome] at he
  cases result with
  | ok r => cases he
  | error e' =>
      unfold executeWithRetries at he
      split at he
      · cases he
      · rename_i hstop
        cases he
        by_cases hretryable : classifyError e = true
        · right
          have hlast : ¬ 1 + c.seen.length < c.policy.maxAttempts :=
            fun hless ↦ hstop (decide_eq_true ⟨hretryable, hless⟩)
          show c.seen.length + 1 = c.policy.maxAttempts
          change c.seen.length + 1 ≤ c.policy.maxAttempts at hattempts
          omega
        · exact .inl (Bool.not_eq_true _ ▸ hretryable)

theorem CallHolds.take {db : Db} {c : PopCall} (h : CallHolds db c)
    (result : Except AttemptError PopSendResult)
    (hresult : ∀ r, result = .ok r → c.Understands db r) : CallHolds db (c.take result) := by
  cases houtcome : c.outcome with
  | some done =>
      unfold PopCall.take
      rw [houtcome]
      exact h
  | none =>
      have hattempts := h.take_attempts houtcome result
      have hraised : ∀ e, (c.take result).outcome = some (.error e) →
          classifyError e = false ∨ (c.take result).sent = c.policy.maxAttempts :=
        fun e ↦ h.take_raised houtcome
      rw [take_open houtcome] at hattempts hraised ⊢
      refine ⟨hattempts, hraised, h.heard, ?_, ?_, h.reports, h.stored⟩
      · intro r hr
        rcases List.mem_append.1 hr with hr | hr
        · exact h.seen r hr
        · exact hresult r (List.mem_singleton.1 hr).symm
      · -- before it, there were only errors
        intro r r' hr hr'
        have hnone := executeWithRetries_none houtcome
        rcases List.mem_append.1 hr with hr | hr
        · exact absurd hr (hnone r)
        · rcases List.mem_append.1 hr' with hr' | hr'
          · exact absurd hr' (hnone r')
          · have heq := (List.mem_singleton.1 hr).trans (List.mem_singleton.1 hr').symm
            exact Except.ok.inj heq

theorem askedRow_reports {db : Db} {b : PopBatch} {event : PopEventIn} {row : PopEventRaw}
    (h : askedRow db b event = some row) : Reports event row := by
  obtain ⟨-, -, result, hsettled, -⟩ := askedRow_id h
  unfold settlement at hsettled
  split at hsettled
  · cases hsettled
  · split at hsettled
    · cases hsettled
    · split at hsettled
      · cases hsettled
      · rename_i renderedAt hrendered
        split at hsettled
        · cases hsettled
        · split at hsettled
          · cases hsettled
          · cases hsettled
            exact ⟨rfl, rfl, rfl, rfl, renderedAt, hrendered, rfl⟩
          · split at hsettled
            · cases hsettled
              exact ⟨rfl, rfl, rfl, rfl, renderedAt, hrendered, rfl⟩
            · split at hsettled
              · cases hsettled
              · cases hsettled
                exact ⟨rfl, rfl, rfl, rfl, renderedAt, hrendered, rfl⟩

theorem CallHolds.hear {db : Db} {c : PopCall} (h : CallHolds db c) (attempt : Nat)
    {answer : HttpAnswer}
    (hanswer : ∀ r, answer.handle = .ok r → (c.hear attempt answer).Understands db r) :
    CallHolds db (c.hear attempt answer) where
  attempts := h.attempts
  raised := h.raised
  heard p hp r hr := by
    rcases List.mem_append.1 hp with hp | hp
    · exact (h.heard p hp r hr).hear attempt answer
    · rw [List.mem_singleton.1 hp] at hr
      exact hanswer r hr
  seen r hr := (h.seen r hr).hear attempt answer
  single := h.single
  reports := h.reports
  stored hindex := by
    obtain ⟨hrow, r, ⟨p, hp, hr⟩, hcount⟩ := h.stored hindex
    exact ⟨hrow, r, ⟨p, List.mem_append_left _ hp, hr⟩, hcount⟩

/-- The result that the player makes of an answer about its one event. -/
def toldOne (status : IngestStatus) : PopSendResult where
  acceptedCount := if status = .accepted then 1 else 0
  rejectedCount := if status = .rejected then 1 else 0
  quarantinedCount := if status = .quarantined then 1 else 0
  duplicateCount := if status = .duplicate then 1 else 0

theorem handle_single (result : PopEventResult) :
    (HttpAnswer.ok (batchResponse [result])).handle = .ok (toldOne result.status) := by
  obtain ⟨eventId, status, reason⟩ := result
  cases status <;> rfl

/-- The row of the event is written, and the server says so. -/
theorem CallHolds.recorded {db : Db} {c : PopCall} (h : CallHolds db c) {row : PopEventRaw}
    (hid : row.eventId = c.eventId) (hreports : Reports c.event row) (outbox : List OutboxEvent)
    (attempt : Nat) {answer : HttpAnswer} {r : PopSendResult} (hanswer : answer.handle = .ok r)
    (htold : Told (db.recorded [row] outbox) c.eventId r)
    (hcount : r.acceptedCount = 1 ∨ r.quarantinedCount = 1) :
    CallHolds (db.recorded [row] outbox) (c.hear attempt answer) := by
  have hgrows : RawGrows [row.eventId] db (db.recorded [row] outbox) :=
    RawGrows.of_recorded (by simp) outbox
  refine ⟨h.attempts, h.raised, ?_, ?_, h.single, ?_, ?_⟩
  · intro p hp told hr
    rcases List.mem_append.1 hp with hp | hp
    · exact ((h.heard p hp told hr).grows hgrows).hear attempt answer
    · rw [List.mem_singleton.1 hp, hanswer] at hr
      exact .inl (Except.ok.inj hr ▸ htold)
  · exact fun told hr ↦ ((h.seen told hr).grows hgrows).hear attempt answer
  · intro x hx hxid
    rcases List.mem_append.1 hx with hold | hnew
    · exact h.reports x hold hxid
    · rw [List.mem_singleton.1 hnew]
      exact hreports
  · intro _
    refine ⟨⟨row, List.mem_append_right _ List.mem_cons_self, hid⟩, r,
      ⟨(attempt, answer), ?_, hanswer⟩, hcount⟩
    exact List.mem_append_right _ List.mem_cons_self

theorem CallHolds.outbox {db : Db} {c : PopCall} (h : CallHolds db c) (outbox : List OutboxEvent) :
    CallHolds { db with outboxEvents := outbox } c := by
  have hgrows : RawGrows [] db { db with outboxEvents := outbox } := RawGrows.of_rows rfl rfl
  exact h.grows hgrows List.not_mem_nil

/-- The server's answer to a request of the call is about the tables as it leaves them. -/
theorem CallHolds.served {db : Db} {c : PopCall} (h : CallHolds db c) (attempt : Nat)
    (serving : Serving) :
    CallHolds (ingestBatch db (c.batch serving)).1
      (c.hear attempt (ingestBatch db (c.batch serving)).2) := by
  have hrefused : ∀ statusCode, CallHolds db (c.hear attempt (.error statusCode)) :=
    fun _ ↦ h.hear attempt fun _ hr ↦ by cases hr
  unfold ingestBatch
  split
  · exact hrefused 422
  · rcases ingestPopBatch_single (b := c.batch serving) rfl db with
      ⟨e, herror⟩ | ⟨db', r, outbox, hevent, hok⟩
    · rw [herror]
      exact hrefused 500
    · rw [hok]
      dsimp only
      cases hevent with
      | refused hr =>
          refine (h.outbox outbox).hear attempt fun told htold ↦ ?_
          rw [handle_single, hr] at htold
          cases htold
          exact .inl ⟨rfl, nofun, nofun, nofun⟩
      | known hid =>
          refine (h.outbox outbox).hear attempt fun told htold ↦ ?_
          rw [handle_single] at htold
          cases htold
          exact .inl ⟨rfl, nofun, nofun, fun _ ↦ (h.stored hid).1⟩
      | recorded row o hnew hasked hr =>
          have hid : row.eventId = c.eventId := (askedRow_id hasked).2.1
          have hreports := askedRow_reports hasked
          have hmem : row ∈ (db.recorded [row] o).popEventsRaw :=
            List.mem_append_right _ List.mem_cons_self
          rcases hr with ⟨hr, hrow⟩ | ⟨hr, hrow⟩
          · have htold : Told (db.recorded [row] o) c.eventId (toldOne r.status) := by
              rw [hr]
              exact ⟨rfl, fun _ ↦ ⟨row, hmem, hid, hrow⟩, nofun, nofun⟩
            refine (h.recorded hid hreports o attempt (handle_single _) htold ?_).outbox outbox
            rw [hr]
            exact .inl rfl
          · have htold : Told (db.recorded [row] o) c.eventId (toldOne r.status) := by
              rw [hr]
              refine ⟨rfl, nofun, fun _ ↦ ⟨row, hmem, hid, ?_⟩, nofun⟩
              rw [hrow]
              decide
            refine (h.recorded hid hreports o attempt (handle_single _) htold ?_).outbox outbox
            rw [hr]
            exact .inr rfl

/-! ## Runs -/

structure UploadHolds (s : UploadSystem) : Prop where
  consistent : PopConsistent s.db
  unique : (s.calls.map PopCall.eventId).Nodup
  calls : ∀ c ∈ s.calls, CallHolds s.db c

theorem popChange_consistent {db : Db} (h : PopConsistent db) (change : PopChange) :
    PopConsistent (popChange db change) := by
  cases change with
  | ingest b => exact popStep_consistent db b h
  | expire before =>
      have hids : (expirePopQuarantineEvents db before).popEventsRaw.map (·.eventId) =
          db.popEventsRaw.map (·.eventId) :=
        Rows.map_updateWhere (f := PopEventRaw.expired) (·.eventId) (fun _ ↦ rfl) db.popEventsRaw
      constructor
      · show ((expirePopQuarantineEvents db before).popEventsRaw.map (·.eventId)).Nodup
        rw [hids]
        exact h.unique
      · intro row hrow
        have hid := hids ▸ List.mem_map_of_mem hrow
        exact h.indexed_of_row hid
  | other rest => exact ⟨h.unique, h.indexed⟩

theorem UploadHolds.update {s : UploadSystem} (h : UploadHolds s) (eventId : String)
    {f : PopCall → PopCall} (hid : ∀ c, (f c).eventId = c.eventId)
    (hf : ∀ c ∈ s.calls, c.eventId = eventId → CallHolds s.db (f c)) :
    UploadHolds (s.update eventId f) where
  consistent := h.consistent
  unique := by
    show ((Rows.updateWhere _ f s.calls).map PopCall.eventId).Nodup
    rw [Rows.map_updateWhere PopCall.eventId hid]
    exact h.unique
  calls c hc := by
    obtain ⟨x, hx, rfl⟩ := Rows.mem_updateWhere.1 hc
    split
    · rename_i heq
      exact hf x hx (of_decide_eq_true heq)
    · exact h.calls x hx

theorem sender_call {s : UploadSystem} {eventId : String} {attempt : Nat} {c : PopCall}
    (h : s.sender eventId attempt = some c) : c ∈ s.calls ∧ c.eventId = eventId := by
  have hcall := (Option.filter_eq_some_iff.1 h).1
  have hid := Rows.get_key hcall
  exact ⟨Rows.get_mem hcall, hid⟩

theorem UploadHolds.world {s : UploadSystem} (h : UploadHolds s) {change : PopChange}
    (hids : ∀ c ∈ s.calls, c.eventId ∉ change.ids) :
    UploadHolds { s with db := popChange s.db change } where
  consistent := popChange_consistent h.consistent change
  unique := h.unique
  calls c hc := (h.calls c hc).grows (popChange_grows s.db change) (hids c hc)

theorem UploadHolds.start {s : UploadSystem} (h : UploadHolds s) (slot : PlayedSlot)
    (jwtDeviceId : String) (maxRetries : Int) {eventId : String} (now : Int)
    (hcalls : eventId ∉ s.calls.map PopCall.eventId) (hindex : eventId ∉ s.db.popDedupIndex) :
    UploadHolds (s.start slot jwtDeviceId maxRetries eventId now) := by
  unfold UploadSystem.start
  split
  · exact h
  · rename_i policy _
    refine ⟨h.consistent, ?_, ?_⟩
    · show ((s.calls ++ [_]).map PopCall.eventId).Nodup
      rw [List.map_append]
      exact Rows.nodup_concat h.unique hcalls
    · intro c hc
      rcases List.mem_append.1 hc with hc | hc
      · exact h.calls c hc
      · -- the new call has one request, and nothing is known of its event
        rw [List.mem_singleton.1 hc]
        exact {
          attempts := policy.least
          raised := nofun
          heard := nofun
          seen := nofun
          single := nofun
          reports := fun row hrow hid ↦ by
            have hold := h.consistent.indexed row hrow
            rw [hid] at hold
            exact absurd hold hindex
          stored := fun hid ↦ absurd hid hindex }

theorem UploadHolds.deliver {s : UploadSystem} (h : UploadHolds s) {eventId : String}
    {attempt : Nat} {c : PopCall} (hsender : s.sender eventId attempt = some c)
    (serving : Serving) :
    UploadHolds ({ s with db := (ingestBatch s.db (c.batch serving)).1 }.update eventId
      (PopCall.hear attempt (ingestBatch s.db (c.batch serving)).2)) := by
  obtain ⟨hc, hid⟩ := sender_call hsender
  have hserved := (h.calls c hc).served attempt serving
  have hdb := ingestBatch_db s.db (c.batch serving)
  have hgrows : RawGrows [c.eventId] s.db (ingestBatch s.db (c.batch serving)).1 := by
    rw [hdb]
    split
    · exact popChange_grows s.db (.ingest (c.batch serving))
    · exact RawGrows.of_rows rfl rfl
  refine ⟨?_, ?_, ?_⟩
  · show PopConsistent (ingestBatch s.db (c.batch serving)).1
    rw [hdb]
    split
    · exact popStep_consistent s.db _ h.consistent
    · exact h.consistent
  · show ((Rows.updateWhere _ _ s.calls).map PopCall.eventId).Nodup
    rw [Rows.map_updateWhere (f := PopCall.hear attempt _) PopCall.eventId (fun _ ↦ rfl)]
    exact h.unique
  · intro x hx
    obtain ⟨y, hy, rfl⟩ := Rows.mem_updateWhere.1 hx
    split
    · rename_i heq
      have hsame : y = c := Rows.key_inj h.unique hy hc ((of_decide_eq_true heq).trans hid.symm)
      rw [hsame]
      exact hserved
    · rename_i hother
      refine (h.calls y hy).grows hgrows fun hmem ↦ hother (decide_eq_true ?_)
      exact (List.mem_singleton.1 hmem).trans hid

theorem uploadNext_holds {s : UploadSystem} (h : UploadHolds s) {move : UploadMove}
    (hfresh : s.Fresh move) : UploadHolds (s.next move) := by
  cases move with
  | send slot jwtDeviceId maxRetries eventId now =>
      exact h.start slot jwtDeviceId maxRetries now hfresh.1 hfresh.2
  | deliver eventId attempt serving =>
      unfold UploadSystem.next
      dsimp only
      cases hsender : s.sender eventId attempt with
      | none => exact h
      | some c => exact h.deliver hsender serving
  | refuse eventId attempt statusCode =>
      unfold UploadSystem.next
      dsimp only
      cases s.sender eventId attempt with
      | none => exact h
      | some c =>
          exact h.update eventId (fun _ ↦ rfl) fun x hx _ ↦ (h.calls x hx).hear attempt nofun
  | blank eventId attempt =>
      unfold UploadSystem.next
      dsimp only
      cases s.sender eventId attempt with
      | none => exact h
      | some c =>
          refine h.update eventId (fun _ ↦ rfl) fun x hx _ ↦ (h.calls x hx).hear attempt ?_
          intro r hr
          cases hr
          exact .inr ⟨rfl, (attempt, .empty), List.mem_append_right _ List.mem_cons_self, rfl⟩
  | answer eventId n =>
      unfold UploadSystem.next
      dsimp only
      cases hdue : (s.call eventId).bind (·.due[n]?) with
      | none => exact h
      | some answer =>
          obtain ⟨c, hcall, hanswer⟩ := Option.bind_eq_some_iff.1 hdue
          refine h.update eventId ?_ fun x hx hid ↦ (h.calls x hx).take _ fun r hr ↦ ?_
          · intro x
            unfold PopCall.take
            split <;> rfl
          · have hkey := Rows.get_key hcall
            have hc := Rows.get_mem hcall
            have hsame : x = c := Rows.key_inj h.unique hx hc (hid.trans hkey.symm)
            subst hsame
            obtain ⟨p, hp, rfl⟩ := List.mem_map.1 (List.mem_of_getElem? hanswer)
            exact (h.calls x hx).heard p (List.mem_filter.1 hp).1 r hr
  | fail eventId error =>
      refine h.update eventId ?_ fun x hx _ ↦ (h.calls x hx).take _ nofun
      intro x
      unfold PopCall.take
      split <;> rfl
  | world change =>
      refine h.world fun c hc ↦ ?_
      cases change with
      | ingest b =>
          intro hid
          obtain ⟨event, hevent, heq⟩ := List.mem_map.1 hid
          exact hfresh event hevent (heq ▸ List.mem_map_of_mem hc)
      | expire before => exact List.not_mem_nil
      | other rest => exact List.not_mem_nil

/-- In every state of every run, each call keeps to its policy, its event has one row at most, which
is its report, and what the call comes back with is so; it raises for an error that is not worth
another attempt, or after the last one. -/
theorem uploads_settled (s : UploadSystem) (hdb : PopConsistent s.db) (hcalls : s.calls = [])
    (l : List UploadMove) (hfresh : Run.Guarded UploadSystem.next UploadSystem.Fresh s l) :
    Run.Always UploadSystem.next (fun s ↦ ∀ c ∈ s.calls, UploadSettled s.db c) s l := by
  have hstart : UploadHolds s := by
    refine ⟨hdb, ?_, ?_⟩
    · rw [hcalls]
      exact List.nodup_nil
    · rw [hcalls]
      exact fun c hc ↦ absurd hc List.not_mem_nil
  have hrun : Run.Always UploadSystem.next UploadHolds s l :=
    Run.always_of_guarded (G := UploadSystem.Fresh)
      (fun _ _ h hf ↦ uploadNext_holds h hf) hstart hfresh
  exact hrun.mono fun t ht c hc ↦ (ht.calls c hc).settled ht.consistent

/-! The answer to the first attempt is lost; the second one comes back with a duplicate. -/

def demoSlot : PlayedSlot where
  manifestId := "m1"
  deviceId := "d1"
  campaignId := "a"
  surfaceId := "s1"
  creativeAssetId := "x"

def lostAnswer : List UploadMove := [
  .send demoSlot "d1" 3 "e1" 0,
  .deliver "e1" 1 { now := secondMicros },
  .fail "e1" .os,
  .deliver "e1" 2 { now := 2 * secondMicros },
  .answer "e1" 0]

theorem lostAnswer_duplicate :
    (Run.final UploadSystem.next ⟨demoPopDb, []⟩ lostAnswer).calls.map PopCall.outcome =
        [some (.ok { duplicateCount := 1 })] ∧
      ∀ c ∈ (Run.final UploadSystem.next ⟨demoPopDb, []⟩ lostAnswer).calls,
        UploadSettled (Run.final UploadSystem.next ⟨demoPopDb, []⟩ lostAnswer).db c := by
  have hfresh : Run.Guarded UploadSystem.next UploadSystem.Fresh ⟨demoPopDb, []⟩ lostAnswer := by
    decide +kernel
  have hrun := uploads_settled ⟨demoPopDb, []⟩ demoPopDb_consistent rfl lostAnswer hfresh
  constructor
  · decide +kernel
  · exact hrun.final

end RetailMedia
