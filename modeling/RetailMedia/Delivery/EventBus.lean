import RetailMedia.Delivery.Consumer
import RetailMedia.Delivery.RelaySafety

/-! The way of an event from the outbox over the stream to the handler: the relay, the messages
that it publishes, and the consumer that is handed them at least once. -/

namespace RetailMedia

open JsonText (Limits loads codes)

/-! ## The system -/

/-- An event whose handling the consumer has committed, and the tables before and after. -/
structure Handling where
  eventId : Nat
  before : Db
  after : Db
  now : Int
  faults : String → Option Fault

/-- `settled` are the events that the stream hands out no more. -/
structure EventBus where
  relay : Relay := {}
  consumer : Consumer
  settled : List Nat := []
  handled : List Handling := []

inductive BusLabel
  | relay (label : RelayLabel)
  /-- The stream hands out the message of an event, again and again until it has heard an answer
  that settles it.  What the relay has sent may be stored without an acknowledgement, so that
  every event of the table may come.  The body in `message` is not the one that arrives. -/
  | deliver (eventId : Nat) (message : Message) (heard : Bool)
  /-- The consumer's process is started again. -/
  | restart
  /-- What other transactions make of the tables. -/
  | world (db : Db)

structure BusConfig where
  relay : RelayConfig := {}
  security : SecurityConfig := {}
  limits : Limits

namespace EventBus

variable (cfg : BusConfig) (s : EventBus)

/-- A message with the body that the relay has published for the event. -/
def received (r : OutboxRow) (m : Message) : Message := { m with body := r.publication.payload }

/-- An `ack` and a `term` settle a message; a `nak` asks for it again. -/
def settles : List Signal → Bool
  | [.ack] => true
  | [.term] => true
  | _ => false

/-- What the consumer has made of a message of the event. -/
def processed (r : OutboxRow) (m : Message) (heard : Bool) (p : Processed) : EventBus :=
  { s with
    consumer := { p.consumer with running := p.raised.isNone }
    settled := if settles p.signals ∧ heard ∧ ¬ m.signalRaises then s.settled ++ [r.id]
      else s.settled
    handled := if p.signals = [.ack] then
        s.handled ++ [⟨r.id, s.consumer.db, p.consumer.db, m.now, m.faults⟩]
      else s.handled }

def deliver (r : OutboxRow) (m : Message) (heard : Bool) : EventBus :=
  s.processed r m heard (processOne cfg.security cfg.limits s.consumer (received r m))

def next : BusLabel → EventBus
  | .relay label => { s with relay := Relay.next cfg.relay s.relay label }
  | .deliver eventId m heard =>
      if eventId ∈ s.settled ∨ ¬ s.consumer.running then s
      else
        match Rows.get OutboxRow.id eventId s.relay.rows with
        | none => s
        | some r => s.deliver cfg r m heard
  | .restart => { s with consumer := { s.consumer with running := true } }
  | .world db => { s with consumer := { s.consumer with db := db } }

end EventBus

/-- The event can be read again: its documents are within the limits of the consumer's
interpreter, and a text column has no NUL. -/
structure NewEvent.Sendable (limits : Limits) (e : NewEvent) : Prop where
  documents : ∃ depth, limits.depth = depth + 1 ∧ e.payload.Readable limits.digits depth ∧
    e.headers.Readable limits.digits depth
  aggregate : ∀ c ∈ e.aggregateId.toList, c.toNat ≠ 0

section Wire

variable {limits : Limits}

/-- The envelope in the order of its fields. -/
def OutboxRow.envelope (r : OutboxRow) : List (String × Json) := [
  ("event_id", .str (toString r.id)),
  ("event_type", .str r.eventType),
  ("event_version", .str r.eventVersion),
  ("aggregate_type", .str r.aggregateType),
  ("aggregate_id", .str r.aggregateId),
  ("payload", r.payload),
  ("headers", r.headers),
  ("created_at", .str (DateTime.utc r.createdAt).isoformat)]

theorem jsonStr_readable (digits depth : Nat) (s : String) :
    (Json.str s).Readable digits depth := by
  cases depth <;> simp [Json.Readable]

theorem envelope_keys (r : OutboxRow) : r.envelope.map (·.1) = ["event_id", "event_type",
    "event_version", "aggregate_type", "aggregate_id", "payload", "headers", "created_at"] := rfl

theorem envelope_readable {r : OutboxRow} (h : r.toNewEvent.Sendable limits) :
    (Json.obj r.envelope).Readable limits.digits limits.depth := by
  obtain ⟨depth, hdepth, hpayload, hheaders⟩ := h.documents
  have hkeys : (r.envelope.map (·.1)).Nodup := by
    rw [envelope_keys]
    decide
  rw [hdepth]
  refine ⟨hkeys, Json.readableFields_iff.2 fun f hf ↦ ?_⟩
  simp only [OutboxRow.envelope, List.mem_cons, List.not_mem_nil, or_false] at hf
  rcases hf with rfl | rfl | rfl | rfl | rfl | rfl | rfl | rfl
  case inr.inr.inr.inr.inr.inl => exact hpayload
  case inr.inr.inr.inr.inr.inr.inl => exact hheaders
  all_goals exact jsonStr_readable _ _ _

theorem loads_publication {r : OutboxRow} (h : r.toNewEvent.Sendable limits) :
    loads limits r.publication.payload = .ok (Json.obj r.envelope).toValue := by
  have hreadable := envelope_readable h
  have hscalar := Json.scalar_text Json.defaultStyle_standard (Json.obj r.envelope)
  have hread := Json.reads_text Json.defaultStyle_standard limits.depth (Json.obj r.envelope) hreadable
  show loads limits (JsonText.encodeUtf8 ((Json.obj r.envelope).text defaultStyle)) = _
  obtain ⟨tail, htext⟩ : ∃ tail, (Json.obj r.envelope).text defaultStyle = 123 :: 34 :: tail :=
    ⟨_, rfl⟩
  rw [htext] at hscalar hread ⊢
  exact JsonText.loads_encoded (by decide) (by decide)
    (fun u hu ↦ hscalar u (List.mem_cons_of_mem _ (List.mem_cons_of_mem _ hu))) hread

theorem getD_eventType (r : OutboxRow) (default : JsonText.Value) :
    Dict.getD (Json.toMembers r.envelope) (codes "event_type") default = .str (codes r.eventType) :=
  rfl

theorem getD_aggregateId (r : OutboxRow) (default : JsonText.Value) :
    Dict.getD (Json.toMembers r.envelope) (codes "aggregate_id") default =
      .str (codes r.aggregateId) := rfl

theorem parseEnvelope_publication {r : OutboxRow} (h : r.toNewEvent.Sendable limits) :
    parseEnvelope limits r.publication.payload = .ok (.obj (Json.toMembers r.envelope)) := by
  rw [parseEnvelope, loads_publication h]
  rfl

/-- What becomes of a message of the outbox: it is read as its event, and it is not thrown away. -/
theorem processOne_publication {cfg : SecurityConfig} {c : Consumer} {r : OutboxRow}
    (h : r.toNewEvent.Sendable limits) (m : Message) :
    processOne cfg limits c (EventBus.received r m) =
      if m.setupRaises then ⟨c, [], some .databaseError⟩
      else
        match handleCampaignDeliveryEvent cfg c.db m.now r.event m.faults m.interrupted with
        | (_, false) => safeNak c (EventBus.received r m) none
        | (db, true) =>
            if m.commitRaises then safeNak c (EventBus.received r m) none
            else safeAck { c with db := db } (EventBus.received r m) := by
  have hbody : (EventBus.received r m).body = r.publication.payload := rfl
  have hhandle : handleEnvelope cfg c.db (EventBus.received r m)
      (.obj (Json.toMembers r.envelope)) =
        .ok (handleCampaignDeliveryEvent cfg c.db m.now r.event m.faults m.interrupted) :=
    handleEnvelope_event cfg c.db (EventBus.received r m) r.event (getD_eventType r _)
      (getD_aggregateId r _) h.aggregate
  have hlog : unhandledError c (EventBus.received r m) (.obj (Json.toMembers r.envelope)) =
      safeNak c (EventBus.received r m) none := rfl
  unfold processOne
  rw [hbody, parseEnvelope_publication h]
  dsimp only
  rw [hhandle, hlog]
  rcases handleCampaignDeliveryEvent cfg c.db m.now r.event m.faults m.interrupted with
    ⟨db, success⟩
  cases success <;> rfl

end Wire

/-! ## Nothing is lost on the way -/

/-- Where an event is: the relay owes it, or has given it up, or the stream has it; and what the
stream has settled has been handled. -/
structure Carried (s : EventBus) (r : OutboxRow) : Prop where
  sent : r.live ∨ r.status = .deadLetter ∨ r.publication ∈ s.relay.acks
  handled : r.id ∈ s.settled → ∃ h ∈ s.handled, h.eventId = r.id

/-- A handling is that of an event of the outbox, and what it committed. -/
def Handling.Genuine (cfg : BusConfig) (rows : List OutboxRow) (h : Handling) : Prop :=
  ∃ r ∈ rows, r.id = h.eventId ∧
    handleCampaignDeliveryEvent cfg.security h.before h.now r.event h.faults false =
      (h.after, true)

structure EventBus.Sound (cfg : BusConfig) (s : EventBus) : Prop where
  carried : ∀ r ∈ s.relay.rows, Carried s r
  genuine : ∀ h ∈ s.handled, h.Genuine cfg s.relay.rows
  /-- No message of the outbox is taken for a malformed one. -/
  terminated : s.consumer.terminated = 0

structure BusInv (cfg : BusConfig) (s : EventBus) : Prop where
  relay : s.relay.Inv cfg.relay.maxAttempts
  sendable : ∀ r ∈ s.relay.rows, r.toNewEvent.Sendable cfg.limits
  settled : ∀ eventId ∈ s.settled, ∃ h ∈ s.handled, h.eventId = eventId
  genuine : ∀ h ∈ s.handled, h.Genuine cfg s.relay.rows
  terminated : s.consumer.terminated = 0

section Bus

variable {cfg : BusConfig} {s : EventBus}

theorem BusInv.sound (h : BusInv cfg s) : s.Sound cfg where
  carried r hr := by
    have hbooks := h.relay.books.sound r hr
    refine ⟨?_, h.settled r.id⟩
    rcases hbooks.known with hlive | hclosed
    · exact .inl hlive
    · rcases of_decide_eq_true hclosed with hpublished | hdead
      · exact .inr (.inr (hbooks.published hpublished))
      · exact .inr (.inl hdead)
  genuine := h.genuine
  terminated := h.terminated

/-- A success is one without an interruption. -/
theorem handle_uninterrupted {cfg : SecurityConfig} {db db' : Db} {now : Int} {e : OutboxEvent}
    {faults : String → Option Fault} {interrupted : Bool}
    (h : handleCampaignDeliveryEvent cfg db now e faults interrupted = (db', true)) :
    handleCampaignDeliveryEvent cfg db now e faults false = (db', true) := by
  unfold handleCampaignDeliveryEvent at h ⊢
  split
  · rename_i hempty
    rwa [if_pos hempty] at h
  · rename_i hempty
    rw [if_neg hempty] at h
    split
    · rename_i htype
      rwa [if_pos htype] at h
    · rename_i htype
      rw [if_neg htype] at h
      split at h
      · cases h
      · exact h

/-- The consumer leaves the message for later, or commits its handling. -/
theorem processOne_sendable {c : Consumer} {r : OutboxRow}
    (h : r.toNewEvent.Sendable cfg.limits) (m : Message) :
    let p := processOne cfg.security cfg.limits c (EventBus.received r m)
    p.consumer.terminated = c.terminated ∧
      (EventBus.settles p.signals = false ∧ p.signals ≠ [.ack] ∨
        p.signals = [.ack] ∧ handleCampaignDeliveryEvent cfg.security c.db m.now r.event m.faults
          false = (p.consumer.db, true)) := by
  dsimp only
  rw [processOne_publication h]
  split
  · exact ⟨rfl, .inl ⟨rfl, nofun⟩⟩
  · split
    · exact ⟨rfl, .inl ⟨rfl, nofun⟩⟩
    · rename_i db hhandle
      split
      · exact ⟨rfl, .inl ⟨rfl, nofun⟩⟩
      · unfold safeAck
        split <;> exact ⟨rfl, .inr ⟨rfl, handle_uninterrupted hhandle⟩⟩

theorem BusInv.processed (h : BusInv cfg s) {r : OutboxRow} (hr : r ∈ s.relay.rows) {m : Message}
    {p : Processed} (hterminated : p.consumer.terminated = s.consumer.terminated)
    (hcase : EventBus.settles p.signals = false ∧ p.signals ≠ [.ack] ∨
      p.signals = [.ack] ∧ handleCampaignDeliveryEvent cfg.security s.consumer.db m.now r.event
        m.faults false = (p.consumer.db, true)) (heard : Bool) :
    BusInv cfg (s.processed r m heard p) := by
  rcases hcase with ⟨hsettles, hack⟩ | ⟨hack, hhandle⟩
  · unfold EventBus.processed
    rw [hsettles, if_neg (fun hs ↦ Bool.false_ne_true hs.1), if_neg hack]
    exact ⟨h.relay, h.sendable, h.settled, h.genuine, hterminated.trans h.terminated⟩
  · unfold EventBus.processed
    rw [if_pos hack]
    refine ⟨h.relay, h.sendable, ?_, ?_, hterminated.trans h.terminated⟩
    · intro eventId hid
      have hcases : eventId ∈ s.settled ∨ eventId = r.id := by
        dsimp only at hid
        split at hid
        · exact (List.mem_append.1 hid).imp_right List.mem_singleton.1
        · exact .inl hid
      rcases hcases with hold | rfl
      · obtain ⟨x, hx, heq⟩ := h.settled eventId hold
        exact ⟨x, List.mem_append_left _ hx, heq⟩
      · exact ⟨_, List.mem_append_right _ List.mem_cons_self, rfl⟩
    · intro x hx
      rcases List.mem_append.1 hx with hold | hnew
      · exact h.genuine x hold
      · rw [List.mem_singleton.1 hnew]
        exact ⟨r, hr, rfl, hhandle⟩

theorem BusInv.delivered (h : BusInv cfg s) {r : OutboxRow} (hr : r ∈ s.relay.rows) (m : Message)
    (heard : Bool) : BusInv cfg (s.deliver cfg r m heard) := by
  obtain ⟨hterminated, hcase⟩ := processOne_sendable (c := s.consumer) (h.sendable r hr) m
  exact h.processed hr hterminated hcase heard

end Bus

end RetailMedia
