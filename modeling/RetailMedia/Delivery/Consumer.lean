import RetailMedia.Lib.JsonText
import RetailMedia.Delivery.Events

/-! The consumer of the campaign events: the body of a message, the handler on the parsed
envelope, and the signal that answers the message. -/

namespace RetailMedia

open JsonText (Text Value Limits LoadError loads codes)

inductive Raised
  | load (e : LoadError)
  | attributeError
  | typeError
  | databaseError
  deriving DecidableEq, Repr

/-! ## The envelope -/

/-- `None` is the value that `null` is read to. -/
def parseEnvelope (limits : Limits) (raw : List UInt8) : Except Raised Value :=
  match loads limits raw with
  | .ok v => .ok v
  | .error .unicodeDecodeError => .ok .null
  | .error .jsonDecodeError => .ok .null
  | .error e => .error (.load e)

/-- `envelope.get(key, default)`; only a dictionary has the method. -/
def envelopeGet (envelope : Value) (key : String) (default : Value) : Except Raised Value :=
  match envelope with
  | .obj fields => .ok (Dict.getD fields (codes key) default)
  | _ => .error .attributeError

def extractCampaignId (envelope : Value) : Except Raised (Option Value) :=
  match envelopeGet envelope "aggregate_id" .null with
  | .error e => .error e
  | .ok v => .ok (if v.truthy then some v else none)

/-- `event_type in DELIVERY_EVENT_TYPES`; a list or a dictionary cannot be hashed. -/
def deliveryTrigger (eventType : Value) : Except Raised Bool :=
  match eventType with
  | .str s => .ok ((deliveryEventTypes.map codes).contains s)
  | .arr _ => .error .typeError
  | .obj _ => .error .typeError
  | _ => .ok false

/-- What the driver takes for a text column: a string without NUL and lone surrogates. -/
def storedText (v : Value) : Option String :=
  match v with
  | .str s =>
      if ∀ c ∈ s, c ≠ 0 ∧ c.isValidChar then some (String.ofList (s.map Char.ofNat)) else none
  | _ => none

/-! ## The handler -/

/-- A message with what happens around it while it is processed: whether the session's setup,
the generation, the commit and the signal raise. -/
structure Message where
  body : List UInt8
  now : Int := 0
  faults : String → Option Fault := fun _ ↦ none
  interrupted : Bool := false
  setupRaises : Bool := false
  commitRaises : Bool := false
  signalRaises : Bool := false

/-- `handle_campaign_delivery_event` on a parsed body. -/
def handleEnvelope (cfg : SecurityConfig) (db : Db) (m : Message) (envelope : Value) :
    Except Raised (Db × Bool) :=
  match envelopeGet envelope "event_type" (.str []) with
  | .error e => .error e
  | .ok eventType =>
      match extractCampaignId envelope with
      | .error e => .error e
      | .ok none => .ok (db, true)
      | .ok (some campaignId) =>
          match deliveryTrigger eventType with
          | .error e => .error e
          | .ok false => .ok (db, true)
          | .ok true =>
              match storedText campaignId with
              | none => .ok (db, false)
              | some campaignId =>
                  if m.interrupted then .ok (db, false)
                  else .ok ((generateManifestsForCampaign cfg db m.now campaignId m.faults).1, true)

/-! ## The loop -/

inductive Signal
  | ack
  | nak
  | term
  deriving DecidableEq, Repr

structure Consumer where
  db : Db
  acked : Nat := 0
  nakd : Nat := 0
  terminated : Nat := 0
  errors : Nat := 0
  running : Bool := true

/-- The consumer after a message, the signals sent for it, and what left `_process_one`. -/
structure Processed where
  consumer : Consumer
  signals : List Signal
  raised : Option Raised

def safeAck (c : Consumer) (m : Message) : Processed :=
  if m.signalRaises then ⟨{ c with errors := c.errors + 1 }, [.ack], none⟩
  else ⟨{ c with acked := c.acked + 1 }, [.ack], none⟩

def safeNak (c : Consumer) (m : Message) (raised : Option Raised) : Processed :=
  ⟨{ c with nakd := c.nakd + 1, errors := c.errors + m.signalRaises.toNat }, [.nak], raised⟩

def safeTerm (c : Consumer) (m : Message) : Processed :=
  ⟨{ c with terminated := c.terminated + 1, errors := c.errors + m.signalRaises.toNat },
    [.term], none⟩

/-- The `except` branch reads the envelope once more for its log line. -/
def unhandledError (c : Consumer) (m : Message) (envelope : Value) : Processed :=
  match envelopeGet envelope "event_id" (.str (codes "?")) with
  | .error e => safeNak c m (some e)
  | .ok _ => safeNak c m none

def processOne (cfg : SecurityConfig) (limits : Limits) (c : Consumer) (m : Message) :
    Processed :=
  match parseEnvelope limits m.body with
  | .error e => ⟨c, [], some e⟩
  | .ok .null => safeTerm c m
  | .ok envelope =>
      -- the setup runs outside the `try`
      if m.setupRaises then ⟨c, [], some .databaseError⟩
      else
        match handleEnvelope cfg c.db m envelope with
        | .error _ => unhandledError c m envelope
        | .ok (_, false) => safeNak c m none
        | .ok (db, true) =>
            if m.commitRaises then unhandledError c m envelope
            else safeAck { c with db := db } m

/-- The messages of the fetched batches, in turn; whatever leaves `_process_one` ends the loop. -/
def consume (cfg : SecurityConfig) (limits : Limits) (c : Consumer) : List Message → Consumer
  | [] => c
  | m :: ms =>
      if ¬ c.running then c
      else
        match (processOne cfg limits c m).raised with
        | none => consume cfg limits (processOne cfg limits c m).consumer ms
        | some _ => { (processOne cfg limits c m).consumer with running := false }

/-! ## The envelope of an outbox event -/

theorem isValidChar_toNat (c : Char) : c.toNat.isValidChar := c.valid

theorem storedText_codes {s : String} (h : ∀ c ∈ s.toList, c.toNat ≠ 0) :
    storedText (.str (codes s)) = some s := by
  have hvalid : ∀ c ∈ codes s, c ≠ 0 ∧ c.isValidChar := by
    intro n hn
    have hc := List.mem_map.1 hn
    exact hc.choose_spec.2 ▸ ⟨h _ hc.choose_spec.1, isValidChar_toNat _⟩
  have hback : (codes s).map Char.ofNat = s.toList := by
    rw [codes, List.map_map]
    have hid : Char.ofNat ∘ (fun c : Char ↦ c.toNat) = id := by
      funext c
      exact Char.ofNat_toNat c
    rw [hid, List.map_id]
  simp only [storedText]
  rw [if_pos hvalid, hback, String.ofList_toList]

/-- On the envelope of an outbox event the handler is the one of the pipeline. -/
theorem handleEnvelope_event (cfg : SecurityConfig) (db : Db) (m : Message) (e : OutboxEvent)
    {fields : List (Text × Value)}
    (htype : Dict.getD fields (codes "event_type") (.str []) = .str (codes e.eventType))
    (hid : Dict.getD fields (codes "aggregate_id") .null = .str (codes e.aggregateId))
    (hnul : ∀ c ∈ e.aggregateId.toList, c.toNat ≠ 0) :
    handleEnvelope cfg db m (.obj fields) =
      .ok (handleCampaignDeliveryEvent cfg db m.now e m.faults m.interrupted) := by
  have htruthy : (Value.str (codes e.aggregateId)).truthy = true ↔ e.aggregateId ≠ "" := by
    simp [Value.truthy, codes]
  have hmem : (codes e.eventType ∈ deliveryEventTypes.map codes) ↔
      e.eventType ∈ deliveryEventTypes :=
    List.mem_map_of_injective JsonText.codes_injective
  have hget : extractCampaignId (.obj fields) =
      .ok (if e.aggregateId ≠ "" then some (.str (codes e.aggregateId)) else none) := by
    simp only [extractCampaignId, envelopeGet, hid]
    rw [if_congr htruthy rfl rfl]
  have htrigger : deliveryTrigger (.str (codes e.eventType)) =
      .ok (decide (e.eventType ∈ deliveryEventTypes)) := by
    simp only [deliveryTrigger, List.contains_eq_mem]
    rw [decide_eq_decide.2 hmem]
  unfold handleEnvelope handleCampaignDeliveryEvent
  rw [hget]
  simp only [envelopeGet, htype, htrigger]
  by_cases hempty : e.aggregateId = ""
  · simp [hempty]
  · simp only [ne_eq, hempty, not_false_eq_true, if_true, if_false]
    by_cases htypes : e.eventType ∈ deliveryEventTypes
    · simp only [htypes, decide_true, not_true_eq_false, if_false, storedText_codes hnul]
      split <;> rfl
    · simp [htypes]

/-! ## Robustness -/

/-- The message is answered once, a body that is not a JSON object is terminated, and the loop
goes on to the next message. -/
structure Robust (cfg : SecurityConfig) (limits : Limits) (c : Consumer) (m : Message) : Prop where
  returns : (processOne cfg limits c m).raised = none
  answered : ∃ signal, (processOne cfg limits c m).signals = [signal]
  terminated : (∀ fields, loads limits m.body ≠ .ok (.obj fields)) →
    (processOne cfg limits c m).signals = [.term]
  continues : c.running → ∀ ms, consume cfg limits c (m :: ms) =
    consume cfg limits (processOne cfg limits c m).consumer ms

/-- The bodies that the parser turns down or reads to `None`. -/
def Unparseable (limits : Limits) (body : List UInt8) : Prop :=
  loads limits body = .error .unicodeDecodeError ∨
    loads limits body = .error .jsonDecodeError ∨ loads limits body = .ok .null

theorem processOne_unparseable {limits : Limits} {m : Message} (h : Unparseable limits m.body)
    (cfg : SecurityConfig) (c : Consumer) : processOne cfg limits c m = safeTerm c m := by
  rcases h with h | h | h <;> simp [processOne, parseEnvelope, h]

theorem processOne_obj {limits : Limits} {m : Message} {fields : List (Text × Value)}
    (h : loads limits m.body = .ok (.obj fields)) (hsetup : m.setupRaises = false)
    (cfg : SecurityConfig) (c : Consumer) :
    (∃ db, processOne cfg limits c m = safeAck { c with db := db } m) ∨
      processOne cfg limits c m = safeNak c m none := by
  have hparse : parseEnvelope limits m.body = .ok (.obj fields) := by simp [parseEnvelope, h]
  -- a dictionary has `get`, so the `except` branch returns as well
  have hlog : unhandledError c m (.obj fields) = safeNak c m none := rfl
  unfold processOne
  simp only [hparse, hsetup, hlog]
  split
  · exact absurd ‹false = true› Bool.false_ne_true
  · split
    · exact .inr rfl
    · exact .inr rfl
    · split
      · exact .inr rfl
      · exact .inl ⟨_, rfl⟩

theorem safeAck_signals (c : Consumer) (m : Message) :
    (safeAck c m).signals = [.ack] ∧ (safeAck c m).raised = none := by
  unfold safeAck
  split <;> exact ⟨rfl, rfl⟩

/-- Whatever is read from the body and has no `get` raises twice: in the handler, and again in the
line that logs the first exception. -/
theorem processOne_notDict {limits : Limits} {m : Message} {v : Value}
    (h : loads limits m.body = .ok v) (hnull : v ≠ .null) (hobj : ∀ fields, v ≠ .obj fields)
    (cfg : SecurityConfig) (c : Consumer) : (processOne cfg limits c m).raised ≠ none := by
  have hparse : parseEnvelope limits m.body = .ok v := by simp [parseEnvelope, h]
  have hget : ∀ key default, envelopeGet v key default = .error .attributeError := by
    intro key default
    cases v with
    | obj fields => exact absurd rfl (hobj fields)
    | _ => rfl
  have hhandle : handleEnvelope cfg c.db m v = .error .attributeError := by
    simp [handleEnvelope, hget]
  have hlog : unhandledError c m v = safeNak c m (some .attributeError) := by
    simp [unhandledError, hget]
  unfold processOne
  rw [hparse]
  split
  · simp
  · exact absurd (Except.ok.inj ‹_›) hnull
  · rename_i envelope hv
    cases hv
    simp only [hhandle, hlog]
    split <;> simp [safeNak]

theorem consume_returned {cfg : SecurityConfig} {limits : Limits} {c : Consumer} {m : Message}
    (h : (processOne cfg limits c m).raised = none) (hrunning : c.running) (ms : List Message) :
    consume cfg limits c (m :: ms) = consume cfg limits (processOne cfg limits c m).consumer ms := by
  rw [consume, if_neg (not_not.2 hrunning), h]

theorem processOne_robust_iff (cfg : SecurityConfig) (limits : Limits) (c : Consumer)
    (m : Message) :
    Robust cfg limits c m ↔ Unparseable limits m.body ∨
      ((∃ fields, loads limits m.body = .ok (.obj fields)) ∧ m.setupRaises = false) := by
  constructor
  · intro h
    cases hload : loads limits m.body with
    | error e =>
        cases e with
        | unicodeDecodeError => exact .inl (.inl hload)
        | jsonDecodeError => exact .inl (.inr (.inl hload))
        | _ =>
            have hreturns := h.returns
            simp [processOne, parseEnvelope, hload] at hreturns
    | ok v =>
        by_cases hnull : v = .null
        · exact .inl (.inr (.inr (hnull ▸ hload)))
        · by_cases hobj : ∀ fields, v ≠ .obj fields
          · exact absurd h.returns (processOne_notDict hload hnull hobj cfg c)
          · have hfields := not_forall_not.1 hobj
            have hv := hfields.choose_spec
            rw [hv] at hload ⊢
            refine .inr ⟨⟨_, rfl⟩, ?_⟩
            have hreturns := h.returns
            simp only [processOne, parseEnvelope, hload] at hreturns
            split at hreturns
            · cases hreturns
            · exact Bool.eq_false_iff.2 ‹_›
  · intro h
    rcases h with h | h
    · have hterm := processOne_unparseable h cfg c
      have hreturns : (processOne cfg limits c m).raised = none := by rw [hterm]; rfl
      exact ⟨hreturns, ⟨.term, by rw [hterm]; rfl⟩, fun _ ↦ by rw [hterm]; rfl,
        consume_returned hreturns⟩
    · have hload := h.1.choose_spec
      have hsome : (processOne cfg limits c m).raised = none ∧
          ∃ signal, (processOne cfg limits c m).signals = [signal] := by
        rcases processOne_obj hload h.2 cfg c with hack | hnak
        · have hsignals := safeAck_signals { c with db := hack.choose } m
          rw [hack.choose_spec]
          exact ⟨hsignals.2, .ack, hsignals.1⟩
        · rw [hnak]
          exact ⟨rfl, .nak, rfl⟩
      exact ⟨hsome.1, hsome.2, fun hnot ↦ absurd hload (hnot _), consume_returned hsome.1⟩

theorem processOne_running (cfg : SecurityConfig) (limits : Limits) (c : Consumer) (m : Message) :
    (processOne cfg limits c m).consumer.running = c.running := by
  unfold processOne unhandledError safeAck
  split
  · rfl
  · rfl
  · split
    · rfl
    · split
      · split <;> rfl
      · rfl
      · split <;> split <;> rfl

/-- Over the messages of any number of batches. -/
theorem consume_running {cfg : SecurityConfig} {limits : Limits} {c : Consumer}
    {ms : List Message} (h : ∀ m ∈ ms, ∀ c, Robust cfg limits c m) :
    (consume cfg limits c ms).running = c.running := by
  induction ms generalizing c with
  | nil => rfl
  | cons m ms ih =>
      by_cases hrunning : c.running = true
      · rw [(h m List.mem_cons_self c).continues hrunning,
          ih fun m' hm' ↦ h m' (List.mem_cons_of_mem m hm'), processOne_running]
      · rw [consume, if_pos hrunning]

/-- `[]`: valid JSON, but without `get`. -/
theorem emptyList_stops_loop : ¬ ∀ cfg limits c m, Robust cfg limits c m := by
  intro h
  have hreturns := (h {} { depth := 1000 } { db := {} } { body := [91, 93] }).returns
  exact absurd hreturns (by decide)

end RetailMedia
