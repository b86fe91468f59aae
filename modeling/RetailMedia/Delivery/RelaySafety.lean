import RetailMedia.Delivery.Relay

/-! Whatever the publisher answers and wherever a batch is cut short, the relay keeps its books:
no event is lost, published without an acknowledgement, or touched once it is closed. -/

namespace RetailMedia

/-! ## Marks -/

/-- The row of an event after a mark. -/
def OutboxRow.marked (cfg : RelayConfig) (now : Int) (reply : Reply) (r : OutboxRow) : OutboxRow :=
  match reply.failure with
  | none => { r with status := .published, publishedAt := some now }
  | some error =>
      if r.attempts + 1 ≥ cfg.maxAttempts then
        { r with
          status := .deadLetter
          attempts := r.attempts + 1
          lastError := some (firstChars 2048 error) }
      else
        { r with
          status := .failed
          attempts := r.attempts + 1
          nextAttemptAt := now + retryDelay (r.attempts + 1)
          lastError := some (firstChars 2048 error) }

namespace OutboxRow

/-- What the relay never writes. -/
def content (r : OutboxRow) : Nat × NewEvent := (r.id, r.toNewEvent)

variable {cfg : RelayConfig} {now : Int} {reply : Reply}

theorem content_marked (r : OutboxRow) : (r.marked cfg now reply).content = r.content := by
  unfold marked
  split
  · rfl
  · split <;> rfl

end OutboxRow

section Marks

variable {cfg : RelayConfig} {now : Int} {reply : Reply} {rows : List OutboxRow} {e : OutboxRow}
  (hids : (rows.map (·.id)).Nodup) (he : e ∈ rows)

include hids he

/-- The marks of an event are written on its row and on no other. -/
theorem markEvent_eq : markEvent cfg rows e.id now reply =
    Rows.updateWhere (·.id = e.id) (fun r ↦ r.marked cfg now reply) rows := by
  have honly {f : OutboxRow → OutboxRow} (hf : f e = e.marked cfg now reply) :
      Rows.updateWhere (·.id = e.id) f rows =
        Rows.updateWhere (·.id = e.id) (fun r ↦ r.marked cfg now reply) rows := by
    apply List.map_congr_left
    intro r hr
    by_cases hid : r.id = e.id
    · obtain rfl := Rows.key_inj hids hr he hid
      simp [hf]
    · simp [hid]
  have hget := Rows.get_of_mem hids he
  unfold markEvent
  cases hfail : reply.failure with
  | none =>
      apply honly
      simp [OutboxRow.marked, hfail]
  | some error =>
      dsimp only
      unfold markEventFailed
      rw [hget]
      dsimp only [Option.map_some]
      by_cases hlast : e.attempts + 1 ≥ cfg.maxAttempts
      · rw [if_pos hlast]
        apply honly
        simp [OutboxRow.marked, hfail, hlast]
      · rw [if_neg hlast]
        apply honly
        simp only [OutboxRow.marked, hfail, if_neg hlast]

theorem mem_markEvent {r : OutboxRow} : r ∈ markEvent cfg rows e.id now reply ↔
    (r ∈ rows ∧ r.id ≠ e.id) ∨ r = e.marked cfg now reply := by
  rw [markEvent_eq hids he, Rows.mem_updateWhere]
  constructor
  · rintro ⟨x, hx, rfl⟩
    by_cases hid : x.id = e.id
    · obtain rfl := Rows.key_inj hids hx he hid
      simp
    · simp [hid, hx]
  · rintro (⟨hr, hid⟩ | rfl)
    · exact ⟨r, hr, by simp [hid]⟩
    · exact ⟨e, he, by simp⟩

theorem content_markEvent : (markEvent cfg rows e.id now reply).map (·.content) =
    rows.map (·.content) := by
  rw [markEvent_eq hids he]
  exact Rows.map_updateWhere _ OutboxRow.content_marked rows

end Marks

/-! ## What a mark does to the books of an event -/

theorem failuresOf_concat (failures : List Failure) (f : Failure) (id : Nat) :
    failuresOf (failures ++ [f]) id =
      failuresOf failures id ++ if f.eventId = id then [f] else [] := by
  unfold failuresOf
  by_cases h : f.eventId = id
  · simp [h]
  · simp [h]

theorem OutboxRow.not_live_and_closed {r : OutboxRow} (hlive : r.live) (hclosed : r.closed) :
    False := by
  cases hstatus : r.status <;> simp [live, closed, hstatus] at hlive hclosed

namespace OutboxRow.Sound

variable {cfg : RelayConfig} {acks acks' : List Publication} {failures : List Failure}
  {r : OutboxRow}

theorem mono (hsub : ∀ p ∈ acks, p ∈ acks') (h : r.Sound cfg.maxAttempts acks failures) :
    r.Sound cfg.maxAttempts acks' failures :=
  { h with published := fun hpub ↦ hsub _ (h.published hpub) }

/-- Failures of other events do not count. -/
theorem other {f : Failure} (hne : f.eventId ≠ r.id)
    (h : r.Sound cfg.maxAttempts acks failures) :
    r.Sound cfg.maxAttempts acks (failures ++ [f]) := by
  have hsame : failuresOf (failures ++ [f]) r.id = failuresOf failures r.id := by
    rw [failuresOf_concat, if_neg hne, List.append_nil]
  constructor
  · rw [hsame]
    exact h.attempts
  · exact h.bounded
  · exact h.published
  · rw [hsame]
    exact h.dead
  · exact h.known
  · rw [hsame]
    exact h.retry

/-- A live event has an attempt left. -/
theorem attempts_left (h : r.Sound cfg.maxAttempts acks failures) (hlive : r.live) :
    r.attempts < cfg.maxAttempts := by
  have hne : r.attempts ≠ cfg.maxAttempts := by
    intro heq
    have hdead := h.dead.2 (h.attempts.symm.trans heq)
    simp [live, hdead] at hlive
  have hle := h.bounded
  omega

/-- Publishing a live event needs its acknowledgement, and marking its failure counts it. -/
theorem marked {now : Int} {reply : Reply} (h : r.Sound cfg.maxAttempts acks failures)
    (hlive : r.live) (hack : reply.failure = none → r.publication ∈ acks) :
    (r.marked cfg now reply).Sound cfg.maxAttempts acks
      (if reply.failure.isSome then failures ++ [⟨r.id, now⟩] else failures) := by
  have hleft := h.attempts_left hlive
  have hcount := h.attempts
  cases hfail : reply.failure with
  | none =>
      have hmarked : r.marked cfg now reply =
          { r with status := .published, publishedAt := some now } := by
        simp [OutboxRow.marked, hfail]
      rw [hmarked]
      refine ⟨hcount, h.bounded, fun _ ↦ hack hfail, ?_, .inr rfl, (fun hno ↦ nomatch hno)⟩
      -- the event has failed fewer times than it may
      constructor
      · intro hno
        cases hno
      · intro hmax
        have : r.attempts = cfg.maxAttempts := hcount.trans hmax
        omega
  | some error =>
      have hgrown : failuresOf (failures ++ [⟨r.id, now⟩]) r.id =
          failuresOf failures r.id ++ [⟨r.id, now⟩] := by
        rw [failuresOf_concat, if_pos rfl]
      have hlength : (failuresOf (failures ++ [⟨r.id, now⟩]) r.id).length = r.attempts + 1 := by
        rw [hgrown, List.length_append, List.length_singleton, hcount]
      simp only [Option.isSome_some, if_true]
      by_cases hlast : r.attempts + 1 ≥ cfg.maxAttempts
      · have hmarked : r.marked cfg now reply = { r with
            status := .deadLetter
            attempts := r.attempts + 1
            lastError := some (firstChars 2048 error) } := by
          simp [OutboxRow.marked, hfail, hlast]
        rw [hmarked]
        refine ⟨hlength.symm, hleft, (fun hno ↦ nomatch hno), ?_, .inr rfl, (fun hno ↦ nomatch hno)⟩
        show OutboxStatus.deadLetter = .deadLetter ↔
          (failuresOf (failures ++ [⟨r.id, now⟩]) r.id).length = cfg.maxAttempts
        rw [hlength]
        exact ⟨fun _ ↦ by omega, fun _ ↦ rfl⟩
      · have hmarked : r.marked cfg now reply = { r with
            status := .failed
            attempts := r.attempts + 1
            nextAttemptAt := now + retryDelay (r.attempts + 1)
            lastError := some (firstChars 2048 error) } := by
          simp only [OutboxRow.marked, hfail, if_neg hlast]
        rw [hmarked]
        refine ⟨hlength.symm, hleft, (fun hno ↦ nomatch hno), ?_, .inl rfl, fun _ ↦ ?_⟩
        · show OutboxStatus.failed = .deadLetter ↔
            (failuresOf (failures ++ [⟨r.id, now⟩]) r.id).length = cfg.maxAttempts
          rw [hlength]
          exact ⟨(fun hno ↦ nomatch hno), fun hmax ↦ absurd hmax.ge hlast⟩
        · refine ⟨⟨r.id, now⟩, ?_, rfl⟩
          show (failuresOf (failures ++ [⟨r.id, now⟩]) r.id).getLast? = _
          rw [hgrown, List.getLast?_concat]

end OutboxRow.Sound

/-! ## The invariant -/

/-- The books of a table: distinct keys, and failures of its own events only. -/
structure RelayBooks (maxAttempts : Nat) (acks : List Publication) (rows : List OutboxRow)
    (failures : List Failure) : Prop where
  ids : (rows.map (·.id)).Nodup
  sound : ∀ r ∈ rows, r.Sound maxAttempts acks failures
  failed : ∀ f ∈ failures, f.eventId ∈ rows.map (·.id)

/-- An open transaction: its own view keeps the books, it holds the committed events, and what
it has still to process is live there and untouched in its view. -/
structure RelaySession.Inv (maxAttempts : Nat) (s : Relay) (x : RelaySession) : Prop where
  books : RelayBooks maxAttempts s.acks x.rows x.failures
  content : x.rows.map (·.content) = s.rows.map (·.content)
  todo : ∀ e ∈ x.todo, e ∈ s.rows ∧ e.live ∧ e ∈ x.rows
  distinct : (x.todo.map (·.id)).Nodup
  closed : ∀ r ∈ s.rows, r.closed → r ∈ x.rows

structure Relay.Inv (maxAttempts : Nat) (s : Relay) : Prop where
  books : RelayBooks maxAttempts s.acks s.rows s.failures
  session : ∀ x, s.session = some x → x.Inv maxAttempts s

theorem content_ids (rows : List OutboxRow) :
    (rows.map (·.content)).map Prod.fst = rows.map (·.id) := by
  rw [List.map_map]
  rfl

/-! ## One step -/

section Enqueue

variable {cfg : RelayConfig} {acks : List Publication} {rows : List OutboxRow}
  {failures : List Failure}

/-- A new event enters the books with no failure. -/
theorem RelayBooks.enqueue (h : RelayBooks cfg.maxAttempts acks rows failures) (e : NewEvent)
    (nextAttemptAt createdAt : Int) :
    RelayBooks cfg.maxAttempts acks (enqueueRow rows e nextAttemptAt createdAt) failures := by
  have hfresh := Rows.freshKey_not_mem (rows.map (·.id))
  have hnone : failuresOf failures (Rows.freshKey (rows.map (·.id))) = [] := by
    unfold failuresOf
    rw [List.filter_eq_nil_iff]
    intro f hf heq
    have hid : f.eventId = _ := of_decide_eq_true heq
    exact hfresh (hid ▸ h.failed f hf)
  have hmax := cfg.maxAttempts_pos
  unfold enqueueRow
  constructor
  · rw [List.map_append]
    exact Rows.nodup_concat h.ids hfresh
  · intro r hr
    rcases List.mem_append.1 hr with hr | hr
    · exact h.sound r hr
    · obtain rfl := List.mem_singleton.1 hr
      refine ⟨?_, Nat.zero_le _, (fun hno ↦ nomatch hno), ?_, .inl rfl, (fun hno ↦ nomatch hno)⟩
      · show 0 = (failuresOf failures _).length
        rw [hnone]
        rfl
      · show OutboxStatus.pending = .deadLetter ↔ (failuresOf failures _).length = _
        rw [hnone, List.length_nil]
        exact ⟨(fun hno ↦ nomatch hno), fun h0 ↦ by omega⟩
  · intro f hf
    rw [List.map_append]
    exact List.mem_append_left _ (h.failed f hf)

theorem content_enqueue {rows' : List OutboxRow}
    (h : rows'.map (·.content) = rows.map (·.content)) (e : NewEvent)
    (nextAttemptAt createdAt : Int) :
    (enqueueRow rows' e nextAttemptAt createdAt).map (·.content) =
      (enqueueRow rows e nextAttemptAt createdAt).map (·.content) := by
  have hids : rows'.map (·.id) = rows.map (·.id) := by
    rw [← content_ids, h, content_ids]
  unfold enqueueRow
  rw [List.map_append, List.map_append, h, hids]

end Enqueue

theorem Relay.Inv.enqueue {cfg : RelayConfig} {s : Relay} (h : s.Inv cfg.maxAttempts)
    (e : NewEvent) (nextAttemptAt createdAt : Int) :
    (s.enqueue e nextAttemptAt createdAt).Inv cfg.maxAttempts := by
  refine ⟨h.books.enqueue e nextAttemptAt createdAt, fun x hx ↦ ?_⟩
  obtain ⟨y, hy, rfl⟩ := Option.map_eq_some_iff.1 hx
  have hs := h.session y hy
  constructor
  · exact hs.books.enqueue e nextAttemptAt createdAt
  · exact content_enqueue hs.content e nextAttemptAt createdAt
  · intro r hr
    obtain ⟨hrow, hlive, hview⟩ := hs.todo r hr
    exact ⟨List.mem_append_left _ hrow, hlive, List.mem_append_left _ hview⟩
  · exact hs.distinct
  · intro r hr hclosed
    rcases List.mem_append.1 hr with hr | hr
    · exact List.mem_append_left _ (hs.closed r hr hclosed)
    · obtain rfl := List.mem_singleton.1 hr
      cases hclosed

/-- A batch consists of live rows, each once. -/
theorem fetchPendingEvents_spec {rows : List OutboxRow} (hids : (rows.map (·.id)).Nodup)
    (now : Int) (limit : Nat) (found : Nat → Nat) :
    (∀ e ∈ fetchPendingEvents rows now limit found, e ∈ rows ∧ e.live) ∧
      ((fetchPendingEvents rows now limit found).map (·.id)).Nodup := by
  unfold fetchPendingEvents
  constructor
  · intro e he
    have hdue := List.mem_mergeSort.1 (List.mem_of_mem_take he)
    obtain ⟨hrow, hcond⟩ := List.mem_filter.1 hdue
    exact ⟨hrow, (of_decide_eq_true hcond).1⟩
  · have hdue : ((rows.filter fun r ↦ r.live ∧ r.nextAttemptAt ≤ now).map (·.id)).Nodup :=
      hids.sublist (List.filter_sublist.map _)
    have hperm := List.mergeSort_perm (rows.filter fun r ↦ r.live ∧ r.nextAttemptAt ≤ now)
      (OutboxRow.dueBefore found)
    have hsorted := (hperm.map fun r : OutboxRow ↦ r.id).nodup_iff.2 hdue
    exact hsorted.sublist ((List.take_sublist _ _).map _)

/-- One turn of the loop: the event that comes next is live, so the transaction may mark it. -/
theorem RelaySession.Inv.process {cfg : RelayConfig} {s : Relay} {rows todo : List OutboxRow}
    {e : OutboxRow} {failures : List Failure} {aborted : Bool}
    (h : RelaySession.Inv cfg.maxAttempts s ⟨rows, e :: todo, failures, aborted⟩) (now : Int)
    (reply : Reply) (dbOk : Bool) {acks : List Publication} (hsub : ∀ p ∈ s.acks, p ∈ acks)
    (hack : reply.failure = none → e.publication ∈ acks) (session : Option RelaySession) :
    RelaySession.Inv cfg.maxAttempts { s with acks := acks, session := session }
      (RelaySession.process ⟨rows, e :: todo, failures, aborted⟩ cfg e todo now reply dbOk) := by
  obtain ⟨hrow, hlive, hview⟩ := h.todo e List.mem_cons_self
  have hdistinct := List.nodup_cons.1 h.distinct
  have hrest : ∀ r ∈ todo, r ∈ s.rows ∧ r.live ∧ r ∈ rows :=
    fun r hr ↦ h.todo r (List.mem_cons_of_mem e hr)
  unfold RelaySession.process
  split
  · exact ⟨⟨h.books.ids, fun r hr ↦ (h.books.sound r hr).mono hsub, h.books.failed⟩, h.content,
      hrest, hdistinct.2, h.closed⟩
  · have hids : (rows.map (·.id)).Nodup := h.books.ids
    have hcontent : (markEvent cfg rows e.id now reply).map (·.content) =
        rows.map (·.content) := content_markEvent hids hview
    have hmem {r : OutboxRow} : r ∈ markEvent cfg rows e.id now reply ↔
        (r ∈ rows ∧ r.id ≠ e.id) ∨ r = e.marked cfg now reply := mem_markEvent hids hview
    have hsameIds : (markEvent cfg rows e.id now reply).map (·.id) = rows.map (·.id) := by
      rw [← content_ids, hcontent, content_ids]
    refine ⟨⟨?_, fun r hr ↦ ?_, fun f hf ↦ ?_⟩, ?_, fun r hr ↦ ?_, hdistinct.2, fun r hr hclosed ↦ ?_⟩
    · rw [hsameIds]
      exact hids
    · rcases hmem.1 hr with ⟨hold, hne⟩ | rfl
      · have hsound := (h.books.sound r hold).mono hsub
        dsimp only
        split
        · exact hsound.other (Ne.symm hne)
        · exact hsound
      · exact ((h.books.sound e hview).mono hsub).marked hlive hack
    · show f.eventId ∈ (markEvent cfg rows e.id now reply).map (·.id)
      rw [hsameIds]
      have hcases : f ∈ failures ∨ f = ⟨e.id, now⟩ := by
        dsimp only at hf
        split at hf
        · simpa using hf
        · exact .inl hf
      rcases hcases with hf | rfl
      · exact h.books.failed f hf
      · exact List.mem_map_of_mem hview
    · exact hcontent.trans h.content
    · obtain ⟨hrow', hlive', hview'⟩ := hrest r hr
      refine ⟨hrow', hlive', hmem.2 (.inl ⟨hview', fun heq ↦ hdistinct.1 ?_⟩)⟩
      show e.id ∈ todo.map (·.id)
      rw [← heq]
      exact List.mem_map_of_mem hr
    · refine hmem.2 (.inl ⟨h.closed r hr hclosed, fun heq ↦ ?_⟩)
      -- the closed row would be the live one
      have hids' : (s.rows.map (·.id)).Nodup := by
        rw [← content_ids, ← h.content, content_ids]
        exact hids
      obtain rfl := Rows.key_inj hids' hr hrow heq
      exact OutboxRow.not_live_and_closed hlive hclosed

theorem Relay.Inv.next {cfg : RelayConfig} {s : Relay} (h : s.Inv cfg.maxAttempts)
    (label : RelayLabel) : (Relay.next cfg s label).Inv cfg.maxAttempts := by
  cases label with
  | enqueue e nextAttemptAt createdAt => exact h.enqueue e nextAttemptAt createdAt
  | poll now found =>
      unfold Relay.next
      dsimp only
      cases hsession : s.session with
      | some x => exact h
      | none =>
          refine ⟨h.books, fun x hx ↦ ?_⟩
          obtain rfl := Option.some.inj hx
          obtain ⟨hlive, hdistinct⟩ := fetchPendingEvents_spec h.books.ids now cfg.batchSize
            found
          exact ⟨h.books, rfl, fun e he ↦ ⟨(hlive e he).1, (hlive e he).2, (hlive e he).1⟩,
            hdistinct, fun r hr _ ↦ hr⟩
  | process now reply dbOk =>
      unfold Relay.next
      dsimp only
      split
      · rename_i rows e todo failures aborted hsession
        have hsub : ∀ p ∈ s.acks, p ∈ if reply.isAck then s.acks ++ [e.publication] else s.acks := by
          intro p hp
          split
          · exact List.mem_append_left _ hp
          · exact hp
        have hack : reply.failure = none →
            e.publication ∈ if reply.isAck then s.acks ++ [e.publication] else s.acks := by
          intro hnone
          cases reply with
          | acknowledged => simp [Reply.isAck]
          | refused error => cases error <;> cases hnone
          | raised acked => cases hnone
        refine ⟨⟨h.books.ids, fun r hr ↦ (h.books.sound r hr).mono hsub, h.books.failed⟩,
          fun x hx ↦ ?_⟩
        obtain rfl := Option.some.inj hx
        exact (h.session _ hsession).process now reply dbOk hsub hack _
      · exact h
  | commit =>
      unfold Relay.next
      dsimp only
      split
      · rename_i rows failures hsession
        exact ⟨(h.session _ hsession).books, fun x hx ↦ nomatch hx⟩
      · exact ⟨h.books, fun x hx ↦ nomatch hx⟩
      · exact h
  | abort => exact ⟨h.books, fun x hx ↦ nomatch hx⟩

/-- A closed event stays as it is. -/
theorem Relay.Inv.closed_next {cfg : RelayConfig} {s : Relay} (h : s.Inv cfg.maxAttempts)
    (label : RelayLabel) {r : OutboxRow} (hr : r ∈ s.rows) (hclosed : r.closed) :
    r ∈ (Relay.next cfg s label).rows := by
  cases label with
  | enqueue e nextAttemptAt createdAt => exact List.mem_append_left _ hr
  | poll now found =>
      unfold Relay.next
      dsimp only
      split <;> exact hr
  | process now reply dbOk =>
      unfold Relay.next
      dsimp only
      split <;> exact hr
  | commit =>
      unfold Relay.next
      dsimp only
      split
      · rename_i rows failures hsession
        exact (h.session _ hsession).closed r hr hclosed
      · exact hr
      · exact hr
  | abort => exact hr

/-- The relay takes no event away and adds none. -/
theorem Relay.Inv.events_next {cfg : RelayConfig} {s : Relay} (h : s.Inv cfg.maxAttempts)
    (label : RelayLabel) : (Relay.next cfg s label).rows.map (·.toNewEvent) =
      s.rows.map (·.toNewEvent) ++ enqueued [label] := by
  cases label with
  | enqueue e nextAttemptAt createdAt => exact List.map_append
  | poll now found =>
      unfold Relay.next
      dsimp only
      split <;> exact (List.append_nil _).symm
  | process now reply dbOk =>
      unfold Relay.next
      dsimp only
      split <;> exact (List.append_nil _).symm
  | commit =>
      unfold Relay.next
      dsimp only
      split
      · rename_i rows failures hsession
        have hcontent := congrArg (List.map Prod.snd) (h.session _ hsession).content
        rw [List.map_map, List.map_map] at hcontent
        exact hcontent.trans (List.append_nil _).symm
      · exact (List.append_nil _).symm
      · exact (List.append_nil _).symm
  | abort => exact (List.append_nil _).symm

/-! ## Runs -/

theorem enqueued_cons (label : RelayLabel) (l : List RelayLabel) :
    enqueued (label :: l) = enqueued [label] ++ enqueued l := by
  cases label <;> rfl

theorem relay_run {cfg : RelayConfig} {s : Relay} (h : s.Inv cfg.maxAttempts)
    (l : List RelayLabel) : (Run.final (Relay.next cfg) s l).Inv cfg.maxAttempts ∧
      (Run.final (Relay.next cfg) s l).rows.map (·.toNewEvent) =
        s.rows.map (·.toNewEvent) ++ enqueued l ∧
      ∀ r ∈ s.rows, r.closed → r ∈ (Run.final (Relay.next cfg) s l).rows := by
  induction l generalizing s with
  | nil => exact ⟨h, (List.append_nil _).symm, fun r hr _ ↦ hr⟩
  | cons label l ih =>
      obtain ⟨hinv, hevents, hclosed⟩ := ih (h.next label)
      refine ⟨hinv, ?_, fun r hr hc ↦ hclosed r (h.closed_next label hr hc) hc⟩
      rw [Run.final_cons, hevents, h.events_next, enqueued_cons label l, List.append_assoc]

theorem relay_init (maxAttempts : Nat) : Relay.Inv maxAttempts {} where
  books := ⟨List.nodup_nil, fun _ hr ↦ (nomatch hr), fun _ hf ↦ (nomatch hf)⟩
  session := fun _ hx ↦ nomatch hx

/-- A closed event is in no batch. -/
theorem Relay.Inv.not_fetched {cfg : RelayConfig} {s : Relay} (h : s.Inv cfg.maxAttempts)
    {r : OutboxRow} (hr : r ∈ s.rows) (hclosed : r.closed) : ∀ e ∈ s.fetched, e.id ≠ r.id := by
  intro e he hid
  unfold Relay.fetched at he
  split at he
  · rename_i x hsession
    obtain ⟨hrow, hlive, -⟩ := (h.session x hsession).todo e he
    obtain rfl := Rows.key_inj h.books.ids hrow hr hid
    exact OutboxRow.not_live_and_closed hlive hclosed
  · cases he

/-- In every committed state each event of the stream has exactly one row, which keeps the books
of its publications and failures; and once the row is closed it stays as it is and is in no
batch. -/
theorem relay_safe (cfg : RelayConfig) (l m : List RelayLabel) :
    ((Relay.after cfg l).Safe cfg.maxAttempts ∧
      ((Relay.after cfg l).rows.map (·.id)).Nodup ∧
      (Relay.after cfg l).rows.map (·.toNewEvent) = enqueued l) ∧
    ∀ r ∈ (Relay.after cfg l).rows, r.closed →
      r ∈ (Relay.after cfg (l ++ m)).rows ∧
        ∀ e ∈ (Relay.after cfg (l ++ m)).fetched, e.id ≠ r.id := by
  obtain ⟨hinv, hevents, -⟩ := relay_run (relay_init cfg.maxAttempts) l
  obtain ⟨hinv', -, hclosed⟩ := relay_run hinv m
  have hsplit : Relay.after cfg (l ++ m) = Run.final (Relay.next cfg) (Relay.after cfg l) m :=
    List.foldl_append
  refine ⟨⟨hinv.books.sound, hinv.books.ids, hevents⟩, fun r hr hc ↦ ?_⟩
  rw [hsplit]
  have hkept := hclosed r hr hc
  exact ⟨hkept, hinv'.not_fetched hkept hc⟩

end RetailMedia
