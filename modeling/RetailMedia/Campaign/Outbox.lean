import RetailMedia.Campaign.StatusChain
import RetailMedia.Delivery.Events

/-! Status changes and the outbox events that are committed with them, when the lifecycle routes and
the completion of expired campaigns interleave. -/

namespace RetailMedia

open Interleaving

/-! ## The routes -/

namespace CampaignOp

def eventType : CampaignOp → String
  | requestApproval _ => "campaign.approval_requested"
  | approve => "campaign.approved"
  | reject _ => "campaign.rejected"
  | activate => "campaign.activated"
  | pause => "campaign.paused"
  | complete => "campaign.completed"
  | archive => "campaign.archived"

/-- What a route adds to the two statuses. -/
def eventExtra : CampaignOp → List (String × Json)
  | reject reason => [("rejection_reason", .str (firstChars 200 reason))]
  | _ => []

end CampaignOp

/-- A route that raises is rolled back with its event, so only a move has one. -/
def TransitionTx.announce (x : TransitionTx) (d : Db) : Db :=
  match x.phase with
  | .updated c _ =>
      enqueueTransition d x.op.eventType x.campaignId c.status x.op.target x.op.eventExtra
  | _ => d

/-! ## The completion of expired campaigns -/

inductive CompletionPhase
  | start
  | scanning (candidates : List String)
  /-- The candidate is locked and active; its flights come next. -/
  | checking (c : Campaign) (candidates : List String)

/-- `completed` are the campaigns that the loop has completed, as it has read them. -/
structure CompletionTx where
  now : Int
  phase : CompletionPhase := .start
  completed : List Campaign := []

namespace CompletionTx

variable (x : CompletionTx)

/-- `complete_campaign` up to its query of the flights. -/
def select (d : Db) (id : String) (candidates : List String) : CompletionPhase :=
  match d.campaign id with
  | none => .scanning candidates
  | some c => if c.status = .active then .checking c candidates else .scanning candidates

def check (d : Db) (c : Campaign) (candidates : List String) : CompletionTx :=
  let flights := d.flightsOf c.id
  if flights = [] ∨ flights.any (fun f ↦ f.endAt ≥ x.now) then
    { x with phase := .scanning candidates }
  else { x with phase := .scanning candidates, completed := x.completed ++ [c] }

def moveTo (d : Db) (c : Campaign) : Db :=
  d.moveCampaign c .completed systemUser x.now "All flights ended — campaign completed by system"

/-- The tables once the transaction has committed. -/
def write (d : Db) : Db := x.completed.foldl x.moveTo d

end CompletionTx

/-- `complete_expired_campaigns`, of the route and of the periodic job: neither enqueues an
event. -/
def completionStmt (x : CompletionTx) : Stmt String Db CompletionTx :=
  match x.phase with
  | .start => .run fun d ↦ { x with phase := .scanning (expiredCampaigns d x.now) }
  | .scanning [] => .commit fun d ↦ some (x.write d)
  | .scanning (id :: candidates) =>
      .lock (fun d ↦ (d.campaign id).map (·.id)) fun d ↦
        { x with phase := CompletionTx.select d id candidates }
  | .checking c candidates => .run fun d ↦ x.check d c candidates

abbrev LifecycleTx := TransitionTx ⊕ CompletionTx

def lifecycleStmt : LifecycleTx → Stmt String Db LifecycleTx
  | .inl x => (transitionStmt x).within id (fun _ d ↦ x.announce d) .inl
  | .inr x => (completionStmt x).within id (fun _ d ↦ d) .inr

/-! ## Changes and events -/

/-- The type of the events about moves to a status. -/
def transitionEventType : CampaignStatus → String
  | .pendingApproval => "campaign.approval_requested"
  | .active => "campaign.activated"
  | status => "campaign." ++ status.text

def transitionEventTypes : List String := [
  "campaign.approval_requested", "campaign.approved", "campaign.rejected", "campaign.activated",
  "campaign.paused", "campaign.completed", "campaign.archived"]

namespace OutboxEvent

def announces (e : OutboxEvent) (campaignId : String) : Bool :=
  e.eventType ∈ transitionEventTypes ∧ e.aggregateId = campaignId

/-- The event carries the campaign, its old status and its new one. -/
structure Reports (e : OutboxEvent) (campaignId : String) (old new : CampaignStatus) : Prop where
  eventType : e.eventType = transitionEventType new
  aggregate : e.aggregateType = "campaign" ∧ e.aggregateId = campaignId
  payload : ∃ extra, e.payload = transitionPayload campaignId old new extra

end OutboxEvent

/-- Old and new status of a campaign that a commit has moved. -/
def Db.changeOf (d d' : Db) (campaignId : String) : Option (CampaignStatus × CampaignStatus) :=
  match d.statusOf campaignId, d'.statusOf campaignId with
  | some old, some new => if old = new then none else some (old, new)
  | _, _ => none

/-- One event for each change, and no other. -/
def ChangeAnnounced (events : List OutboxEvent) (campaignId : String) :
    Option (CampaignStatus × CampaignStatus) → Prop
  | none => events.filter (·.announces campaignId) = []
  | some (old, new) =>
      ∃ e, events.filter (·.announces campaignId) = [e] ∧ e.Reports campaignId old new

/-- What is committed at once: status changes, each with its event, and no event without its
change. -/
def OutboxComplete (d d' : Db) : Prop :=
  ∃ events, d'.outboxEvents = d.outboxEvents ++ events ∧
    ∀ campaignId, ChangeAnnounced events campaignId (d.changeOf d' campaignId)

/-! ## Statuses after a commit -/

theorem CampaignStatus.text_injective {a b : CampaignStatus} (h : a.text = b.text) : a = b := by
  revert h
  cases a <;> cases b <;> simp [CampaignStatus.text]

theorem announce_statusOf (x : TransitionTx) (d : Db) (id : String) :
    (x.announce d).statusOf id = d.statusOf id := by
  unfold TransitionTx.announce
  cases x.phase with
  | updated c p => rfl
  | _ => rfl

theorem completion_statusOf (x : CompletionTx) (d : Db) (id : String) :
    (x.write d).statusOf id = (d.statusOf id).map fun status ↦
      if id ∈ x.completed.map (·.id) then .completed else status := by
  unfold CompletionTx.write
  induction x.completed generalizing d with
  | nil => simp
  | cons c cs ih =>
      rw [List.foldl_cons, ih]
      unfold CompletionTx.moveTo
      rw [moveCampaign_statusOf, Option.map_map]
      congr 1
      funext status
      by_cases hid : id = c.id
      · simp [hid]
      · simp [hid]

theorem completion_events (x : CompletionTx) (d : Db) :
    (x.write d).outboxEvents = d.outboxEvents := by
  unfold CompletionTx.write
  induction x.completed generalizing d with
  | nil => rfl
  | cons c cs ih => exact ih (x.moveTo d c)

theorem write_events (x : TransitionTx) (c : Campaign) (p : Preparation) (d : Db) :
    (x.write c p d).outboxEvents = d.outboxEvents := by
  obtain ⟨_, _, _, happly⟩ := p.only d
  unfold TransitionTx.write
  rw [happly]
  rfl

/-! ## Assertions -/

namespace CompletionTx

/-- The campaigns that the transaction has found active and holds. -/
def held (x : CompletionTx) : List String :=
  match x.phase with
  | .checking c _ => c.id :: x.completed.map (·.id)
  | _ => x.completed.map (·.id)

def Sound (d : Db) (x : CompletionTx) : Prop :=
  ∀ id ∈ x.held, d.statusOf id = some .active

end CompletionTx

def LifecycleTx.Sound (d : Db) : LifecycleTx → Prop
  | .inl x => x.Sound d
  | .inr x => x.Sound d

def LifecycleTx.Relies (row : String) : LifecycleTx → Prop
  | .inl x => x.relies = some row
  | .inr x => row ∈ x.held

def lifecycleOutline (τ : Type*) : Outline τ String Db LifecycleTx where
  inv _ := True
  sound d _ a := a.Sound d
  relies a row := a.Relies row
  guard _ _ := True

/-- Statuses of campaigns that a transaction does not rely on may change, but no campaign
disappears. -/
theorem LifecycleTx.Sound.disturbed {d d' : Db} {a : LifecycleTx} (h : a.Sound d)
    (hkept : ∀ id, a.Relies id → d'.statusOf id = d.statusOf id)
    (hstored : ∀ id, (d.statusOf id).isSome → (d'.statusOf id).isSome) : a.Sound d' := by
  cases a with
  | inr x =>
      intro id hid
      rw [hkept id hid]
      exact h id hid
  | inl x =>
      have hknows {c : Campaign} (hc : x.Knows d c)
          (hrelies : x.op.locks = true → x.relies = some x.campaignId) : x.Knows d' c := by
        refine ⟨hc.id, hc.source, hstored _ hc.stored, fun hlocks ↦ ?_⟩
        rw [hkept x.campaignId (hrelies hlocks)]
        exact hc.current hlocks
      have hsound : x.Sound d := h
      show x.Sound d'
      unfold TransitionTx.Sound at hsound ⊢
      cases hphase : x.phase with
      | start => trivial
      | returning r => trivial
      | reading c reads =>
          rw [hphase] at hsound
          apply hknows hsound
          intro hlocks
          unfold TransitionTx.relies
          rw [hphase]
          exact if_pos hlocks
      | updated c p =>
          rw [hphase] at hsound
          apply hknows hsound
          intro _
          unfold TransitionTx.relies
          rw [hphase]

theorem lifecycleStmt_route {τ : Type*} (x : TransitionTx) :
    (lifecycleOutline τ).Keeps (.inl x) (lifecycleStmt (.inl x)) := by
  have hkeeps := transitionOutline_proves τ x
  dsimp only [lifecycleStmt]
  cases hstmt : transitionStmt x with
  | lock row k =>
      rw [hstmt] at hkeeps
      exact hkeeps
  | run k =>
      rw [hstmt] at hkeeps
      exact hkeeps
  | commit w =>
      intro d d' t _ hsound _ hcommit
      refine ⟨trivial, fun u b _ hb hfree ↦ ?_⟩
      rcases transitionStmt_commit hstmt with ⟨r, hphase, rfl⟩ | ⟨c, p, hphase, rfl⟩
      · obtain rfl : x.announce d = d' := Option.some.inj hcommit
        apply hb.disturbed
        · exact fun id _ ↦ announce_statusOf x d id
        · intro id hid
          rw [announce_statusOf]
          exact hid
      · obtain rfl : x.announce (x.write c p d) = d' := Option.some.inj hcommit
        have hrelies : x.relies = some x.campaignId := by
          unfold TransitionTx.relies
          rw [hphase]
        have hid : c.id = x.campaignId := by
          have hknows : x.Sound d := hsound
          unfold TransitionTx.Sound at hknows
          rw [hphase] at hknows
          exact hknows.id
        apply hb.disturbed
        · intro id hid'
          have hne : id ≠ c.id := fun heq ↦ hfree id (hrelies.trans (by rw [heq, hid])) hid'
          rw [announce_statusOf, write_status]
          simp [hne]
        · intro id hid'
          rw [announce_statusOf, write_status, Option.isSome_map]
          exact hid'

theorem lifecycleStmt_completion {τ : Type*} (x : CompletionTx) :
    (lifecycleOutline τ).Keeps (.inr x) (lifecycleStmt (.inr x)) := by
  obtain ⟨now, phase, completed⟩ := x
  cases phase with
  | start => exact fun d _ _ h _ ↦ ⟨h, fun _ hrow ↦ hrow⟩
  | checking c candidates =>
      intro d t _ h _
      show CompletionTx.Sound d (CompletionTx.check ⟨now, .checking c candidates, completed⟩ d c
        candidates) ∧ ∀ row, row ∈ CompletionTx.held (CompletionTx.check
          ⟨now, .checking c candidates, completed⟩ d c candidates) → _
      have hrows : ∀ row, row ∈ CompletionTx.held (CompletionTx.check
          ⟨now, .checking c candidates, completed⟩ d c candidates) →
          row ∈ c.id :: completed.map (·.id) := by
        intro row hrow
        unfold CompletionTx.check at hrow
        dsimp only at hrow
        split at hrow
        · exact List.mem_cons_of_mem _ hrow
        · have hmem : row ∈ (completed ++ [c]).map (·.id) := hrow
          simpa [or_comm] using hmem
      exact ⟨fun id hid ↦ h id (hrows id hid), hrows⟩
  | scanning candidates =>
      cases candidates with
      | nil =>
          intro d d' t _ _ _ hcommit
          obtain rfl : CompletionTx.write ⟨now, .scanning [], completed⟩ d = d' :=
            Option.some.inj hcommit
          refine ⟨trivial, fun u b _ hb hfree ↦ hb.disturbed (fun id hid ↦ ?_) fun id hid ↦ ?_⟩
          · have hnot : id ∉ completed.map (·.id) := fun hmem ↦ hfree id hmem hid
            rw [completion_statusOf]
            simp [hnot]
          · rw [completion_statusOf, Option.isSome_map]
            exact hid
      | cons id candidates =>
          intro d t _ h _
          show CompletionTx.Sound d ⟨now, CompletionTx.select d id candidates, completed⟩ ∧
            ∀ row, row ∈ CompletionTx.held ⟨now, CompletionTx.select d id candidates, completed⟩ →
              _ ∨ (d.campaign id).map (·.id) = some row
          unfold CompletionTx.select
          cases hc : d.campaign id with
          | none => exact ⟨h, fun _ hrow ↦ .inl hrow⟩
          | some c =>
              dsimp only
              split
              · rename_i hactive
                have hkey : c.id = id := Rows.get_key hc
                have hstatus : d.statusOf c.id = some .active := by
                  unfold Db.statusOf
                  rw [hkey, hc]
                  exact congrArg some hactive
                refine ⟨fun row hrow ↦ ?_, fun row hrow ↦ ?_⟩
                · rcases List.mem_cons.1 hrow with rfl | hrow
                  · exact hstatus
                  · exact h row hrow
                · rcases List.mem_cons.1 hrow with rfl | hrow
                  · exact .inr rfl
                  · exact .inl hrow
              · exact ⟨h, fun _ hrow ↦ .inl hrow⟩

theorem lifecycleOutline_proves (τ : Type*) : (lifecycleOutline τ).Proves lifecycleStmt
  | .inl x => lifecycleStmt_route x
  | .inr x => lifecycleStmt_completion x

/-! ## One commit -/

theorem outboxComplete_same {d d' : Db} (hstatus : ∀ id, d'.statusOf id = d.statusOf id)
    (hevents : d'.outboxEvents = d.outboxEvents) : OutboxComplete d d' := by
  refine ⟨[], by rw [hevents, List.append_nil], fun id ↦ ?_⟩
  have hnone : d.changeOf d' id = none := by
    unfold Db.changeOf
    rw [hstatus]
    cases d.statusOf id with
    | none => rfl
    | some status => exact if_pos rfl
  rw [hnone]
  rfl

theorem CampaignOp.announced (op : CampaignOp) :
    op.eventType = transitionEventType op.target ∧ op.eventType ∈ transitionEventTypes := by
  cases op <;> exact ⟨rfl, by simp [eventType, transitionEventTypes]⟩

theorem CampaignOp.target_not_source {op : CampaignOp} {status : CampaignStatus}
    (h : status ∈ op.sources) : status ≠ op.target := by
  rintro rfl
  cases op <;> simp [sources, target] at h

section Move

variable {x : TransitionTx} {c : Campaign} {p : Preparation} {d : Db}
  (hphase : x.phase = .updated c p) (hid : c.id = x.campaignId)

include hphase

/-- The commit of a move adds one event, about the statuses that the operation has read and
written. -/
theorem move_events : ∃ e, (x.announce (x.write c p d)).outboxEvents = d.outboxEvents ++ [e] ∧
    e.announces x.campaignId = true ∧ e.aggregateId = x.campaignId ∧
    e.Reports x.campaignId c.status x.op.target := by
  have hannounced := x.op.announced
  have hannounce : x.announce (x.write c p d) = enqueueTransition (x.write c p d) x.op.eventType
      x.campaignId c.status x.op.target x.op.eventExtra := by
    unfold TransitionTx.announce
    rw [hphase]
  have hevents : (x.announce (x.write c p d)).outboxEvents =
      (x.write c p d).outboxEvents ++ [_] := congrArg Db.outboxEvents hannounce
  rw [write_events] at hevents
  exact ⟨_, hevents, decide_eq_true ⟨hannounced.2, rfl⟩, rfl, hannounced.1, ⟨rfl, rfl⟩, _, rfl⟩

include hid

/-- It is complete exactly if the campaign still has the status that the operation has read. -/
theorem move_complete_iff (hsource : c.status ∈ x.op.sources)
    (hstored : (d.statusOf x.campaignId).isSome) :
    OutboxComplete d (x.announce (x.write c p d)) ↔ d.statusOf x.campaignId = some c.status := by
  obtain ⟨status, hstatus⟩ := Option.isSome_iff_exists.1 hstored
  have hnew (id : String) : (x.announce (x.write c p d)).statusOf id =
      (d.statusOf id).map fun status ↦ if id = x.campaignId then x.op.target else status := by
    rw [announce_statusOf, write_status, hid]
  have hchange : d.changeOf (x.announce (x.write c p d)) x.campaignId =
      if status = x.op.target then none else some (status, x.op.target) := by
    unfold Db.changeOf
    rw [hnew, hstatus, Option.map_some, if_pos rfl]
  obtain ⟨e, hevents, habout, haggregate, hreports⟩ := move_events (d := d) hphase
  have honly : [e].filter (·.announces x.campaignId) = [e] := by simp [habout]
  constructor
  · rintro ⟨events, hadded, hall⟩
    obtain rfl : events = [e] := List.append_cancel_left (hadded.symm.trans hevents)
    have hown := hall x.campaignId
    rw [hchange] at hown
    by_cases htarget : status = x.op.target
    · -- the event of a change that did not happen
      rw [if_pos htarget] at hown
      have hnone : [e].filter (·.announces x.campaignId) = [] := hown
      rw [honly] at hnone
      cases hnone
    · rw [if_neg htarget] at hown
      obtain ⟨e', hsame, hreports'⟩ := hown
      rw [honly] at hsame
      cases hsame
      obtain ⟨extra, hpayload⟩ := hreports.payload
      obtain ⟨extra', hpayload'⟩ := hreports'.payload
      have htexts := Json.obj.inj (hpayload.symm.trans hpayload')
      have htext : c.status.text = status.text ∧ extra = extra' := by simpa using htexts
      rw [hstatus, CampaignStatus.text_injective htext.1]
  · intro hcurrent
    obtain rfl : status = c.status := Option.some.inj (hstatus.symm.trans hcurrent)
    refine ⟨[e], hevents, fun id ↦ ?_⟩
    by_cases hsame : id = x.campaignId
    · subst hsame
      rw [hchange, if_neg (CampaignOp.target_not_source hsource)]
      exact ⟨e, honly, hreports⟩
    · have hnone : d.changeOf (x.announce (x.write c p d)) id = none := by
        unfold Db.changeOf
        rw [hnew]
        cases d.statusOf id with
        | none => rfl
        | some status => simp [hsame]
      rw [hnone]
      show [e].filter (·.announces id) = []
      have hother : e.announces id = false := by
        unfold OutboxEvent.announces
        rw [haggregate]
        simp [Ne.symm hsame]
      simp [hother]

end Move

/-- The commit of a completion is complete exactly if it completes nothing. -/
theorem completion_complete_iff {x : CompletionTx} {d : Db} (h : x.Sound d)
    (hphase : x.phase = .scanning []) :
    OutboxComplete d (x.write d) ↔ x.completed = [] := by
  constructor
  · rintro ⟨events, hevents, hall⟩
    have hnone : events = [] := by
      have hsame : d.outboxEvents ++ [] = d.outboxEvents ++ events := by
        rw [List.append_nil, ← hevents, completion_events]
      exact (List.append_cancel_left hsame).symm
    cases hcompleted : x.completed with
    | nil => rfl
    | cons c cs =>
        have hmem : c.id ∈ x.completed.map (·.id) := by simp [hcompleted]
        have hactive : d.statusOf c.id = some .active := by
          apply h
          unfold CompletionTx.held
          rw [hphase]
          exact hmem
        have hchange : d.changeOf (x.write d) c.id = some (.active, .completed) := by
          unfold Db.changeOf
          rw [completion_statusOf, hactive, Option.map_some, if_pos hmem]
          rfl
        have hown := hall c.id
        rw [hchange, hnone] at hown
        obtain ⟨e, he, -⟩ := hown
        cases he
  · intro hnone
    have hsame : x.write d = d := by
      unfold CompletionTx.write
      rw [hnone]
      rfl
    rw [hsame]
    exact outboxComplete_same (fun _ ↦ rfl) rfl

/-! ## Every interleaving -/

section Interleavings

variable {τ : Type*}

/-- Transactions that have not run a statement yet. -/
structure Starting (s : System τ String Db LifecycleTx) : Prop where
  routes : ∀ t x, s.tx t = some (.inl x) → x.phase = .start
  completions : ∀ t x, s.tx t = some (.inr x) → x.phase = .start ∧ x.completed = []

theorem Starting.holds {s : System τ String Db LifecycleTx} (h : Starting s) :
    (lifecycleOutline τ).Holds s := by
  refine ⟨trivial, fun t a ha ↦ ?_, fun t a ha row hrow ↦ ?_⟩
  · cases a with
    | inl x =>
        show x.Sound s.data
        unfold TransitionTx.Sound
        rw [h.routes t x ha]
        trivial
    | inr x =>
        obtain ⟨hphase, hnone⟩ := h.completions t x ha
        intro id hid
        unfold CompletionTx.held at hid
        rw [hphase, hnone] at hid
        cases hid
  · cases a with
    | inl x =>
        have hrelies : x.relies = some row := hrow
        unfold TransitionTx.relies at hrelies
        rw [h.routes t x ha] at hrelies
        cases hrelies
    | inr x =>
        obtain ⟨hphase, hnone⟩ := h.completions t x ha
        have hheld : row ∈ x.held := hrow
        unfold CompletionTx.held at hheld
        rw [hphase, hnone] at hheld
        cases hheld

/-- The loop has come to its end. -/
def CompletionTx.ended (x : CompletionTx) : Bool :=
  match x.phase with
  | .scanning [] => true
  | _ => false

/-- What a transaction needs for its commit to be complete: an operation without a lock finds the
status that it has read, and a completion has completed nothing. -/
def LifecycleTx.Announcing (d : Db) : LifecycleTx → Prop
  | .inl x => x.op.locks = false → ∀ c ∈ x.writing, d.statusOf x.campaignId = some c.status
  | .inr x => x.ended = true → x.completed = []

instance (d : Db) : (a : LifecycleTx) → Decidable (a.Announcing d)
  | .inl x => inferInstanceAs (Decidable (x.op.locks = false → ∀ c ∈ x.writing, _))
  | .inr x => inferInstanceAs (Decidable (x.ended = true → x.completed = []))

variable [DecidableEq τ]

/-- The step is a commit that announces what it changes, or none. -/
def StepAnnounces (s : System τ String Db LifecycleTx) (label : τ × Move) : Prop :=
  OutboxComplete s.data (next lifecycleStmt s label).data

def CommitsAnnouncing (s : System τ String Db LifecycleTx) (label : τ × Move) : Prop :=
  ∀ a ∈ s.tx label.1, label.2 = .advance → a.Announcing s.data

instance (s : System τ String Db LifecycleTx) (label : τ × Move) :
    Decidable (CommitsAnnouncing s label) :=
  inferInstanceAs (Decidable (∀ a ∈ s.tx label.1, label.2 = .advance → a.Announcing s.data))

theorem completionStmt_commit {x : CompletionTx} {w : Db → Option Db}
    (h : completionStmt x = .commit w) : x.phase = .scanning [] ∧ w = fun d ↦ some (x.write d) := by
  unfold completionStmt at h
  cases hphase : x.phase with
  | start =>
      rw [hphase] at h
      cases h
  | checking c candidates =>
      rw [hphase] at h
      cases h
  | scanning candidates =>
      rw [hphase] at h
      cases candidates with
      | nil => exact ⟨rfl, (Stmt.commit.inj h).symm⟩
      | cons id candidates => cases h

omit [DecidableEq τ] in
/-- A transaction that is about to commit does commit, so what does not commit has nothing to
announce. -/
theorem announcing_of_no_commit {s : System τ String Db LifecycleTx} {label : τ × Move}
    (hnone : commitOf lifecycleStmt s label = none) : CommitsAnnouncing s label := by
  intro a ha hmove
  cases a with
  | inl x =>
      intro _ c hc
      unfold TransitionTx.writing at hc
      cases hphase : x.phase with
      | updated e p =>
          have hstmt : transitionStmt x = .commit fun d ↦ some (x.write e p d) := by
            unfold transitionStmt
            rw [hphase]
          have hcommit : lifecycleStmt (.inl x) = (Stmt.commit fun d ↦ some (x.write e p d)).within
              id (fun _ d ↦ x.announce d) .inl := by
            dsimp only [lifecycleStmt]
            rw [hstmt]
          cases commitOf_none hnone ha hmove hcommit
      | _ =>
          rw [hphase] at hc
          cases hc
  | inr x =>
      intro hended
      unfold CompletionTx.ended at hended
      split at hended
      · rename_i hphase
        have hstmt : completionStmt x = .commit fun d ↦ some (x.write d) := by
          unfold completionStmt
          rw [hphase]
        have hcommit : lifecycleStmt (.inr x) = (Stmt.commit fun d ↦ some (x.write d)).within
            id (fun _ d ↦ d) .inr := by
          dsimp only [lifecycleStmt]
          rw [hstmt]
        cases commitOf_none hnone ha hmove hcommit
      · cases hended

theorem stepAnnounces_iff {s : System τ String Db LifecycleTx} (h : (lifecycleOutline τ).Holds s)
    (label : τ × Move) : StepAnnounces s label ↔ CommitsAnnouncing s label := by
  unfold StepAnnounces
  rcases next_commit_or s label with ⟨a, w, d, -, ha, hmove, hprog, hw, hnext⟩ | ⟨hnone, hdata⟩
  · have hown : CommitsAnnouncing s label ↔ a.Announcing s.data := by
      constructor
      · intro hall
        exact hall a ha hmove
      · intro hannouncing b hb _
        rw [ha] at hb
        cases hb
        exact hannouncing
    have hsound := h.tx label.1 a ha
    rw [hown, hnext]
    show OutboxComplete s.data d ↔ _
    cases a with
    | inl x =>
        obtain ⟨write, hstmt, rfl⟩ := Stmt.within_commit hprog
        rcases transitionStmt_commit hstmt with ⟨r, hphase, rfl⟩ | ⟨c, p, hphase, rfl⟩
        · -- nothing has been moved, and nothing is announced
          obtain rfl : x.announce s.data = d := Option.some.inj hw
          have hnothing : x.announce s.data = s.data := by
            unfold TransitionTx.announce
            rw [hphase]
          rw [hnothing]
          refine iff_of_true (outboxComplete_same (fun _ ↦ rfl) rfl) fun _ c hc ↦ ?_
          unfold TransitionTx.writing at hc
          rw [hphase] at hc
          cases hc
        · obtain rfl : x.announce (x.write c p s.data) = d := Option.some.inj hw
          have hknows : x.Knows s.data c := by
            have hx : x.Sound s.data := hsound
            unfold TransitionTx.Sound at hx
            rw [hphase] at hx
            exact hx
          have hwriting : x.writing = some c := by
            unfold TransitionTx.writing
            rw [hphase]
          rw [move_complete_iff hphase hknows.id hknows.source hknows.stored]
          constructor
          · intro hcurrent _ e he
            rw [hwriting] at he
            cases he
            exact hcurrent
          · intro hannouncing
            cases hlocks : x.op.locks with
            | true => exact hknows.current hlocks
            | false => exact hannouncing hlocks c hwriting
    | inr x =>
        obtain ⟨write, hstmt, rfl⟩ := Stmt.within_commit hprog
        obtain ⟨hphase, rfl⟩ := completionStmt_commit hstmt
        obtain rfl : x.write s.data = d := Option.some.inj hw
        rw [completion_complete_iff hsound hphase]
        have hended : x.ended = true := by
          unfold CompletionTx.ended
          rw [hphase]
        exact ⟨fun hnone _ ↦ hnone, fun hannouncing ↦ hannouncing hended⟩
  · rw [hdata]
    exact iff_of_true (outboxComplete_same (fun _ ↦ rfl) rfl) (announcing_of_no_commit hnone)

/-- In a run every commit announces what it changes exactly if no completion completes a campaign
and the unlocked operations commit on the status that they have read. -/
theorem commitsAnnounced_iff {s : System τ String Db LifecycleTx} (hs : Starting s)
    (l : List (τ × Move)) :
    Run.Guarded (next lifecycleStmt) StepAnnounces s l ↔
      Run.Guarded (next lifecycleStmt) CommitsAnnouncing s l :=
  Run.guarded_iff (I := (lifecycleOutline τ).Holds)
    (fun _ _ h ↦ (lifecycleOutline_proves τ).next h fun _ _ _ _ ↦ trivial)
    (fun _ label h ↦ stepAnnounces_iff h label) hs.holds

end Interleavings

/-! One campaign whose flight has ended, completed by its own route or with all that have
expired. -/

def endedDb : Db where
  campaigns := [{
    id := "a", advertiserOrganizationId := "o1", advertiserContractId := "k1", code := "A"
    status := .active }]
  campaignFlights := [{ id := "f1", campaignId := "a", startAt := 10, endAt := 20 }]

def completing : System Bool String Db LifecycleTx where
  data := endedDb
  holder _ := none
  tx
    | true => some (.inl { campaignId := "a", actor := "u", now := 30, op := .complete })
    | false => some (.inr { now := 30 })

theorem completing_starting : Starting completing where
  routes t x hx := by
    cases t with
    | true =>
        cases hx
        rfl
    | false => cases hx
  completions t x hx := by
    cases t with
    | true => cases hx
    | false =>
        cases hx
        exact ⟨rfl, rfl⟩

theorem expired_campaign_unannounced :
    ¬ ∀ (s : System Bool String Db LifecycleTx) (l : List (Bool × Move)), Starting s →
      Run.Guarded (next lifecycleStmt) StepAnnounces s l := by
  intro h
  have hrun := h completing (List.replicate 4 (false, .advance)) completing_starting
  have hall := (Run.guarded_iff (I := (lifecycleOutline Bool).Holds)
    (fun _ _ h ↦ (lifecycleOutline_proves Bool).next h fun _ _ _ _ ↦ trivial)
    (fun _ label h ↦ stepAnnounces_iff h label) completing_starting.holds).1 hrun
  revert hall
  decide +kernel

/-- The route completes the campaign; the completion of expired ones finds it no longer active. -/
theorem route_completion_announced :
    Run.Guarded (next lifecycleStmt) StepAnnounces completing
      (List.replicate 4 (true, .advance) ++ List.replicate 2 (false, .advance)) :=
  (commitsAnnounced_iff completing_starting _).2 (by decide +kernel)

end RetailMedia
