import RetailMedia.Campaign.StatusChain

/-! Concurrent decisions about one campaign: the lock is taken before the status is checked, so
that one of them decides and the others find it decided. -/

namespace RetailMedia

open Interleaving

/-! ## The two decisions -/

def CampaignOp.decides : CampaignOp → Bool
  | approve => true
  | reject _ => true
  | _ => false

namespace CampaignOp

variable {op : CampaignOp} (h : op.decides = true)

include h

theorem decides_cases : op = .approve ∨ ∃ reason, op = .reject reason := by
  cases op with
  | approve => exact .inl rfl
  | reject reason => exact .inr ⟨reason, rfl⟩
  | _ => cases h

theorem decides_locks : op.locks = true := by
  rcases decides_cases h with rfl | ⟨reason, rfl⟩
  · rfl
  · rfl

theorem decides_inapplicable (status : CampaignStatus) :
    op.inapplicable status = nothingDone := by
  rcases decides_cases h with rfl | ⟨reason, rfl⟩
  · rfl
  · rfl

theorem decides_sources : op.sources = [.pendingApproval] := by
  rcases decides_cases h with rfl | ⟨reason, rfl⟩
  · rfl
  · rfl

theorem decides_valid : validTransition .pendingApproval op.target = true := by
  rcases decides_cases h with rfl | ⟨reason, rfl⟩
  · rfl
  · rfl

theorem decides_target : op.target ≠ .pendingApproval := by
  rcases decides_cases h with rfl | ⟨reason, rfl⟩
  · exact fun heq ↦ by cases heq
  · exact fun heq ↦ by cases heq

/-- A decision in scope goes on exactly if the campaign awaits it. -/
theorem decides_refusal {c : Campaign} {scope : Option (List String)}
    (hscope : inScope c.advertiserOrganizationId scope = true) :
    op.refusal c scope = if c.status = .pendingApproval then none else some nothingDone := by
  unfold refusal
  rw [decides_sources h, decides_inapplicable h]
  by_cases hpending : c.status = .pendingApproval
  · simp [hpending, hscope, decides_valid h]
  · simp [hpending]

end CampaignOp

/-! ## What the reads come to -/

/-- What an approval is answered when nothing changes between its reads. -/
def approvalAnswers (d : Db) (campaignId : String) : ContentAnswers where
  flightCounts := [(d.flightsOf campaignId).length]
  placementCounts := [(d.placementsOf campaignId).length]
  creativeAssetIds := [(d.creativesOf campaignId).map (·.creativeAssetId)]
  assets := [d.linkedAssets campaignId]

namespace TransitionTx

theorem approveReads_eval (now : Int) (c : Campaign) (reviewedBy : String) (d : Db) :
    (approveReads now c reviewedBy).eval d =
      if approvable d c.id then
        match requestedAt d c.id with
        | none => .error nothingDone
        | some at_ => .ok (commitPreparation now c reviewedBy (approvalAnswers d c.id) at_)
      else .error nothingDone := by
  unfold approveReads approvable
  dsimp only [Reading.eval]
  by_cases hparts : d.flightsOf c.id = [] ∨ d.placementsOf c.id = [] ∨ d.creativesOf c.id = []
  · have hnot : ¬ (d.flightsOf c.id ≠ [] ∧ d.placementsOf c.id ≠ [] ∧ d.creativesOf c.id ≠ [] ∧
        assetsApproved (d.linkedAssets c.id) = true) := by tauto
    rw [if_pos hparts, if_neg (by simpa [assetsApproved] using hnot)]
    rfl
  · -- nothing is missing, so the assets decide
    rw [if_neg hparts]
    dsimp only [Reading.eval]
    by_cases hassets : assetsApproved (d.linkedAssets c.id) = true
    · have hall : d.flightsOf c.id ≠ [] ∧ d.placementsOf c.id ≠ [] ∧ d.creativesOf c.id ≠ [] ∧
          assetsApproved (d.linkedAssets c.id) = true := by tauto
      rw [if_neg (not_not.2 hassets), if_pos (by simpa [assetsApproved] using hall)]
      dsimp only [Reading.eval]
      cases requestedAt d c.id with
      | none => rfl
      | some at_ => rfl
    · have hnot : ¬ (d.flightsOf c.id ≠ [] ∧ d.placementsOf c.id ≠ [] ∧
          d.creativesOf c.id ≠ [] ∧ assetsApproved (d.linkedAssets c.id) = true) := by tauto
      rw [if_pos hassets, if_neg (by simpa [assetsApproved] using hnot)]
      rfl

theorem rejectReads_eval (now : Int) (c : Campaign) (reviewedBy reason : String) (d : Db) :
    (rejectReads now c reviewedBy reason).eval d =
      match requestedAt d c.id with
      | none => .error nothingDone
      | some at_ => .ok (releasePreparation now c reviewedBy reason at_) := by
  unfold rejectReads
  dsimp only [Reading.eval]
  cases requestedAt d c.id with
  | none => rfl
  | some at_ => rfl

/-- The call of the operation when nothing runs beside it. -/
def sequential (x : TransitionTx) (d : Db) : Db × TransitionResult :=
  match x.op with
  | .approve => approveCampaign d x.now x.campaignId x.actor x.scope
  | .reject reason => rejectCampaign d x.now x.campaignId x.actor reason x.scope
  | _ => (d, .ok none)

end TransitionTx

/-! ## Assertions -/

structure Reviewing (c : Campaign) (x : TransitionTx) : Prop where
  decides : x.op.decides = true
  campaign : x.campaignId = c.id
  scope : inScope c.advertiserOrganizationId x.scope = true

theorem Reviewing.goto {c : Campaign} {x : TransitionTx} (h : Reviewing c x)
    (phase : TransitionPhase) : Reviewing c { x with phase := phase } :=
  ⟨h.decides, h.campaign, h.scope⟩

/-- Before the decision all reads see the tables as they are at the start, `d₀`. -/
def TransitionTx.Undecided (d₀ : Db) (c : Campaign) (d : Db) (x : TransitionTx) : Prop :=
  match x.phase with
  | .start => True
  | .reading e reads => d = d₀ ∧ e = c ∧ reads.eval d₀ = (x.reads c).eval d₀
  | .updated e p => d = d₀ ∧ e = c ∧ (x.reads c).eval d₀ = .ok p
  | .returning r => r = nothingDone

/-- The row of the campaign is relied on from the `SELECT` to the commit. -/
def TransitionTx.deciding (x : TransitionTx) : Option String :=
  match x.phase with
  | .reading _ _ => some x.campaignId
  | .updated _ _ => some x.campaignId
  | _ => none

def Decided (c : Campaign) (d : Db) : Prop :=
  ∃ status, d.statusOf c.id = some status ∧ status ≠ .pendingApproval

def decisionOutline (τ : Type*) (d₀ : Db) (c : Campaign) : Outline τ String Db TransitionTx where
  inv d := d = d₀ ∨ Decided c d
  sound d _ x := Reviewing c x ∧ x.Undecided d₀ c d
  relies x row := x.deciding = some row
  guard _ _ := True

/-- A campaign that awaits a decision. -/
structure Awaiting (d₀ : Db) (c : Campaign) : Prop where
  campaign : d₀.campaign c.id = some c
  pending : c.status = .pendingApproval

section Statements

variable {d₀ : Db} {c : Campaign} {x : TransitionTx}

theorem reads_approve (hop : x.op = .approve) {p : Preparation}
    (h : (x.reads c).eval d₀ = .ok p) :
    approvable d₀ c.id = true ∧ ∃ at_, requestedAt d₀ c.id = some at_ ∧
      p = TransitionTx.commitPreparation x.now c x.actor (approvalAnswers d₀ c.id) at_ := by
  unfold TransitionTx.reads at h
  rw [hop] at h
  dsimp only at h
  rw [TransitionTx.approveReads_eval] at h
  split at h
  · rename_i happrovable
    split at h
    · cases h
    · rename_i at_ hat
      cases h
      exact ⟨happrovable, at_, hat, rfl⟩
  · cases h

theorem reads_reject {reason : String} (hop : x.op = .reject reason) {p : Preparation}
    (h : (x.reads c).eval d₀ = .ok p) :
    ∃ at_, requestedAt d₀ c.id = some at_ ∧
      p = TransitionTx.releasePreparation x.now c x.actor reason at_ := by
  unfold TransitionTx.reads at h
  rw [hop] at h
  dsimp only at h
  rw [TransitionTx.rejectReads_eval] at h
  split at h
  · cases h
  · rename_i at_ hat
    cases h
    exact ⟨at_, hat, rfl⟩

variable (hx : Reviewing c x)

include hx

/-- What the reads come to on one state of the tables. -/
theorem reads_decision (d : Db) : (∃ p, (x.reads c).eval d = .ok p) ∨
    (x.reads c).eval d = .error nothingDone := by
  unfold TransitionTx.reads
  rcases CampaignOp.decides_cases hx.decides with hop | ⟨reason, hop⟩
  · rw [hop]
    dsimp only
    rw [TransitionTx.approveReads_eval]
    split
    · cases requestedAt d c.id with
      | none => exact .inr rfl
      | some at_ => exact .inl ⟨_, rfl⟩
    · exact .inr rfl
  · rw [hop]
    dsimp only
    rw [TransitionTx.rejectReads_eval]
    cases requestedAt d c.id with
    | none => exact .inr rfl
    | some at_ => exact .inl ⟨_, rfl⟩

variable (hc : Awaiting d₀ c)

include hc

/-- The `SELECT … FOR UPDATE` finds the campaign undecided, or there is nothing left to do. -/
theorem select_decision {d : Db} (hinv : d = d₀ ∨ Decided c d) :
    (d = d₀ ∧ x.select d = .reading c (x.reads c)) ∨ x.select d = .returning nothingDone := by
  unfold TransitionTx.select
  rw [hx.campaign]
  rcases hinv with rfl | ⟨status, hstatus, hdecided⟩
  · -- the first to get the row
    refine .inl ⟨rfl, ?_⟩
    rw [hc.campaign]
    dsimp only
    rw [CampaignOp.decides_refusal hx.decides hx.scope, if_pos hc.pending]
  · -- another has decided: the status check refuses
    refine .inr ?_
    obtain ⟨e, he, rfl⟩ := Option.map_eq_some_iff.1 hstatus
    rw [he]
    dsimp only
    have hsource : e.status ∉ x.op.sources := by
      rw [CampaignOp.decides_sources hx.decides, List.mem_singleton]
      exact hdecided
    unfold CampaignOp.refusal
    rw [if_pos hsource, CampaignOp.decides_inapplicable hx.decides]

theorem awaiting_guards {α : Type} (target : CampaignStatus) (body : Campaign → Db × Option α)
    (hvalid : validTransition .pendingApproval target = true) :
    guardedTransition d₀ x.campaignId .pendingApproval target x.scope body =
      ((body c).1, .ok (body c).2) := by
  have hstored : d₀.campaign x.campaignId = some c := by
    rw [hx.campaign]
    exact hc.campaign
  exact guardedTransition_passes hstored hc.pending hx.scope hvalid

/-- The commit of a decision is the call of its operation on the tables of the start. -/
theorem decision_sequential {p : Preparation} (h : (x.reads c).eval d₀ = .ok p) :
    x.sequential d₀ = (x.write c p d₀, .ok (some (.pendingApproval, x.op.target))) := by
  unfold TransitionTx.sequential TransitionTx.write
  rcases CampaignOp.decides_cases hx.decides with hop | ⟨reason, hop⟩
  · obtain ⟨happrovable, at_, hat, rfl⟩ := reads_approve hop h
    rw [hop]
    dsimp only
    unfold approveCampaign
    rw [awaiting_guards hx hc .approved _ rfl, hx.campaign, if_neg (not_not.2 happrovable), hat,
      hc.pending]
    rfl
  · obtain ⟨at_, hat, rfl⟩ := reads_reject hop h
    rw [hop]
    dsimp only
    unfold rejectCampaign
    rw [awaiting_guards hx hc .rejected _ rfl, hx.campaign, hat, hc.pending]
    rfl

theorem decision_decides (p : Preparation) : Decided c (x.write c p d₀) := by
  refine ⟨x.op.target, ?_, CampaignOp.decides_target hx.decides⟩
  rw [write_status]
  unfold Db.statusOf
  rw [hc.campaign]
  simp

end Statements

theorem Awaiting.not_decided {d₀ : Db} {c : Campaign} (hc : Awaiting d₀ c) : ¬ Decided c d₀ := by
  rintro ⟨status, hstatus, hdecided⟩
  unfold Db.statusOf at hstatus
  rw [hc.campaign] at hstatus
  exact hdecided ((Option.some.inj hstatus).symm.trans hc.pending)

theorem decisionOutline_proves (τ : Type*) {d₀ : Db} {c : Campaign} (hc : Awaiting d₀ c) :
    (decisionOutline τ d₀ c).Proves transitionStmt := by
  rintro ⟨campaignId, actor, now, scope, op, phase⟩
  cases phase with
  | start =>
      unfold transitionStmt
      dsimp only
      by_cases hlocks : op.locks = true
      · rw [if_pos hlocks]
        intro d t hinv hsound _
        have hx := hsound.1
        rcases select_decision hx hc hinv with ⟨rfl, hselect⟩ | hselect
        · dsimp only
          rw [hselect]
          refine ⟨⟨hx.goto _, rfl, rfl, rfl⟩, fun row hrow ↦ .inr ?_⟩
          cases hrow
          show (d.campaign campaignId).map (·.id) = some campaignId
          rw [show campaignId = c.id from hx.campaign, hc.campaign]
          rfl
        · dsimp only
          rw [hselect]
          exact ⟨⟨hx.goto _, rfl⟩, fun row hrow ↦ by cases hrow⟩
      · -- a decision takes the lock
        rw [if_neg hlocks]
        exact fun d t _ hsound _ ↦ absurd (CampaignOp.decides_locks hsound.1.decides) hlocks
  | reading e reads =>
      cases reads with
      | read k =>
          rintro d t _ ⟨hx, rfl, rfl, heval⟩ _
          exact ⟨⟨hx.goto _, rfl, rfl, heval⟩, fun _ hrow ↦ hrow⟩
      | done outcome =>
          cases outcome with
          | error r =>
              rintro d t _ ⟨hx, rfl, rfl, heval⟩ _
              -- the reads have all seen `d₀`, on which they refuse with this answer only
              have hr : r = nothingDone := by
                rcases reads_decision hx d with ⟨p, hp⟩ | herror
                · cases heval.trans hp
                · exact Except.error.inj (heval.trans herror)
              exact ⟨⟨hx.goto _, hr⟩, fun _ hrow ↦ by cases hrow⟩
          | ok p =>
              rintro d t _ ⟨hx, rfl, rfl, heval⟩ _
              exact ⟨⟨hx.goto _, rfl, rfl, heval.symm⟩,
                fun _ hrow ↦ .inl hrow⟩
  | updated e p =>
      rintro d d' t _ ⟨hx, rfl, rfl, heval⟩ _ ⟨⟩
      refine ⟨.inr (decision_decides hx hc p), fun u b _ hb hfree ↦ ⟨hb.1, ?_⟩⟩
      -- the others do not hold the row, so none of them is past its `SELECT`
      have hundecided := hb.2
      have hrow : b.deciding ≠ some campaignId := hfree campaignId rfl
      have hsame : b.campaignId = campaignId := hb.1.campaign.trans hx.campaign.symm
      unfold TransitionTx.Undecided TransitionTx.deciding at *
      cases hphase : b.phase with
      | start => trivial
      | returning r =>
          rw [hphase] at hundecided
          exact hundecided
      | reading f reads =>
          rw [hphase] at hrow
          exact absurd (congrArg some hsame) hrow
      | updated f q =>
          rw [hphase] at hrow
          exact absurd (congrArg some hsame) hrow
  | returning r =>
      rintro d d' t hinv - - ⟨⟩
      exact ⟨hinv, fun u b _ hb _ ↦ hb⟩

/-! ## Every interleaving -/

/-- Flights, placements and links were there, and the linked assets ready and approved. -/
structure ContentAnswers.Approvable (a : ContentAnswers) : Prop where
  flights : ∃ n, a.flightCounts = [n] ∧ 0 < n
  placements : ∃ n, a.placementCounts = [n] ∧ 0 < n
  creatives : ∃ ids, a.creativeAssetIds = [ids] ∧ ids ≠ []
  assets : ∃ assets, a.assets = [assets] ∧
    ∀ asset ∈ assets, asset.status = .ready ∧ asset.moderationStatus = .approved

/-- What a successful decision makes of the tables: what its call makes of them alone, with one
approval row and one history row. -/
structure Decision (d₀ : Db) (c : Campaign) (x : TransitionTx) (d : Db) : Prop where
  sequential : x.sequential d₀ = (d, .ok (some (.pendingApproval, x.op.target)))
  approval : ∃ a, d.campaignApprovals = d₀.campaignApprovals ++ [a] ∧ a.campaignId = c.id ∧
    a.decision = x.op.target ∧ a.reviewedBy = x.actor
  history : ∃ h, d.campaignStatusHistory = d₀.campaignStatusHistory ++ [h] ∧
    h.campaignId = c.id ∧ h.oldStatus = some .pendingApproval ∧ h.newStatus = x.op.target
  answers : x.op = .approve → ∃ e p, x.phase = .updated e p ∧
    p.answers = approvalAnswers d₀ c.id ∧ p.answers.Approvable

/-- The transactions that a run has ended, and the tables that it leaves. -/
structure DecidedOnce {τ : Type*} (d₀ : Db) (c : Campaign) (ended : List (τ × TransitionTx))
    (d : Db) : Prop where
  once : (ended.filter (·.2.writing.isSome)).length ≤ 1
  decision : ∀ e ∈ ended, e.2.writing.isSome = true → Decision d₀ c e.2 d
  others : ∀ e ∈ ended, e.2.writing.isSome = false → e.2.phase = .returning nothingDone
  unchanged : (∀ e ∈ ended, e.2.writing.isSome = false) → d = d₀

theorem writing_updated {x : TransitionTx} {c : Campaign} {p : Preparation}
    (h : x.phase = .updated c p) : x.writing.isSome = true := by
  unfold TransitionTx.writing
  rw [h]
  rfl

theorem writing_returning {x : TransitionTx} {r : Returned} (h : x.phase = .returning r) :
    x.writing.isSome = false := by
  unfold TransitionTx.writing
  rw [h]
  rfl

section Ended

variable {τ : Type*} {d₀ d : Db} {c : Campaign} {ended : List (τ × TransitionTx)}

/-- One more transaction that has found nothing to do. -/
theorem DecidedOnce.cons (h : DecidedOnce d₀ c ended d) {e : τ × TransitionTx}
    (he : e.2.phase = .returning nothingDone) : DecidedOnce d₀ c (e :: ended) d := by
  have hnone := writing_returning he
  refine ⟨?_, fun f hf hwriting ↦ ?_, fun f hf hwriting ↦ ?_, fun hall ↦ ?_⟩
  · -- it does not count
    rw [List.filter_cons_of_neg (by simp [hnone])]
    exact h.once
  · rcases List.mem_cons.1 hf with rfl | hf
    · rw [hnone] at hwriting
      cases hwriting
    · exact h.decision f hf hwriting
  · rcases List.mem_cons.1 hf with rfl | hf
    · exact he
    · exact h.others f hf hwriting
  · exact h.unchanged fun f hf ↦ hall f (List.mem_cons_of_mem e hf)

/-- A decision, and then only transactions that find nothing to do. -/
theorem DecidedOnce.decide {e : τ × TransitionTx} (h : Decision d₀ c e.2 d)
    (he : e.2.writing.isSome = true)
    (hrest : ∀ f ∈ ended, f.2.phase = .returning nothingDone) :
    DecidedOnce d₀ c (e :: ended) d := by
  have hnone : ∀ f ∈ ended, f.2.writing.isSome = false :=
    fun f hf ↦ writing_returning (hrest f hf)
  refine ⟨?_, fun f hf hwriting ↦ ?_, fun f hf hwriting ↦ ?_, fun hall ↦ ?_⟩
  · have hfilter : ended.filter (·.2.writing.isSome) = [] :=
      List.filter_eq_nil_iff.2 fun f hf ↦ by simp [hnone f hf]
    have hone : (e :: ended).filter (·.2.writing.isSome) = [e] := by
      rw [List.filter_cons, if_pos he, hfilter]
    rw [hone]
    exact le_refl 1
  · rcases List.mem_cons.1 hf with rfl | hf
    · exact h
    · rw [hnone f hf] at hwriting
      cases hwriting
  · rcases List.mem_cons.1 hf with rfl | hf
    · rw [he] at hwriting
      cases hwriting
    · exact hrest f hf
  · have hlast := hall e List.mem_cons_self
    rw [he] at hlast
    cases hlast

end Ended

theorem approvalAnswers_approvable {d : Db} {campaignId : String}
    (h : approvable d campaignId = true) : (approvalAnswers d campaignId).Approvable := by
  unfold approvable at h
  obtain ⟨hflights, hplacements, hcreatives, hassets⟩ := of_decide_eq_true h
  refine ⟨⟨_, rfl, List.length_pos_iff.2 hflights⟩, ⟨_, rfl, List.length_pos_iff.2 hplacements⟩,
    ⟨_, rfl, fun hnil ↦ hcreatives (List.map_eq_nil_iff.1 hnil)⟩, _, rfl, fun asset ha ↦ ?_⟩
  exact of_decide_eq_true (List.all_eq_true.1 hassets asset ha)

theorem recordDecision_approvals {d d' : Db} (h : InventoryOnly d d') (c : Campaign)
    (decision : CampaignStatus) (reviewedBy : String) (requestedAt now : Int)
    (rejectionReason : Option String) :
    (recordDecision d' c decision reviewedBy requestedAt now rejectionReason).campaignApprovals =
      d.campaignApprovals ++ [{
        campaignId := c.id
        requestedBy := c.createdBy.getD ""
        requestedAt := requestedAt
        reviewedBy := reviewedBy
        reviewedAt := now
        decision := decision
        rejectionReason := rejectionReason }] := by
  obtain ⟨_, _, rfl⟩ := h
  rfl

theorem write_approvals {d : Db} {x : TransitionTx} {c : Campaign} {p : Preparation}
    (hx : Reviewing c x) (h : (x.reads c).eval d = .ok p) :
    ∃ a, (x.write c p d).campaignApprovals = d.campaignApprovals ++ [a] ∧ a.campaignId = c.id ∧
      a.decision = x.op.target ∧ a.reviewedBy = x.actor := by
  rcases CampaignOp.decides_cases hx.decides with hop | ⟨reason, hop⟩
  · obtain ⟨-, at_, -, rfl⟩ := reads_approve hop h
    refine ⟨_, recordDecision_approvals (settle_inventoryOnly _ _ _ _ d) c .approved x.actor at_
      x.now none, rfl, ?_, rfl⟩
    rw [hop]
    rfl
  · obtain ⟨at_, -, rfl⟩ := reads_reject hop h
    refine ⟨_, recordDecision_approvals (settle_inventoryOnly _ _ _ _ d) c .rejected x.actor at_
      x.now (some (firstChars 1000 reason)), rfl, ?_, rfl⟩
    rw [hop]
    rfl

theorem write_decision {d₀ : Db} {c : Campaign} {x : TransitionTx} {p : Preparation}
    (hc : Awaiting d₀ c) (hx : Reviewing c x) (hphase : x.phase = .updated c p)
    (h : (x.reads c).eval d₀ = .ok p) : Decision d₀ c x (x.write c p d₀) where
  sequential := decision_sequential hx hc h
  approval := write_approvals hx h
  history := ⟨_, write_history x c p d₀, rfl, congrArg some hc.pending, rfl⟩
  answers hop := by
    obtain ⟨happrovable, at_, -, rfl⟩ := reads_approve hop h
    exact ⟨c, _, hphase, rfl, approvalAnswers_approvable happrovable⟩

section Interleavings

variable {τ : Type*} [DecidableEq τ] {d₀ : Db} {c : Campaign} (hc : Awaiting d₀ c)
  {s : System τ String Db TransitionTx} (h : (decisionOutline τ d₀ c).Holds s)

include hc h

theorem decision_step (label : τ × Move) :
    (∃ x p, commitOf transitionStmt s label = some x ∧ x.phase = .updated c p ∧ s.data = d₀ ∧
      Reviewing c x ∧ (x.reads c).eval d₀ = .ok p ∧
      (next transitionStmt s label).data = x.write c p d₀) ∨
    ((∀ x ∈ commitOf transitionStmt s label, x.phase = .returning nothingDone) ∧
      (next transitionStmt s label).data = s.data) := by
  rcases next_commit_or s label with ⟨x, w, d, hcommit, hx, -, hprog, hw, hnext⟩ | ⟨hnone, hdata⟩
  · obtain ⟨hreviewing, hundecided⟩ := h.tx label.1 x hx
    unfold TransitionTx.Undecided at hundecided
    rcases transitionStmt_commit hprog with ⟨r, hphase, rfl⟩ | ⟨e, p, hphase, rfl⟩
    · rw [hphase] at hundecided
      have hr : r = nothingDone := hundecided
      refine .inr ⟨fun y hy ↦ ?_, ?_⟩
      · rw [hcommit] at hy
        cases hy
        rw [hphase, hr]
      · rw [hnext]
        exact (Option.some.inj hw).symm
    · rw [hphase] at hundecided
      obtain ⟨hd, rfl, heval⟩ := hundecided
      refine .inl ⟨x, p, hcommit, hphase, hd, hreviewing, heval, ?_⟩
      rw [hnext, ← hd]
      exact (Option.some.inj hw).symm
  · refine .inr ⟨fun x hx ↦ ?_, hdata⟩
    rw [hnone] at hx
    cases hx

theorem next_holds (label : τ × Move) :
    (decisionOutline τ d₀ c).Holds (next transitionStmt s label) :=
  (decisionOutline_proves τ hc).next h fun _ _ _ _ ↦ trivial

/-- After the decision nobody else decides. -/
theorem decided_run (hd : Decided c s.data) (l : List (τ × Move)) :
    (∀ e ∈ commits transitionStmt s l, e.2.phase = .returning nothingDone) ∧
      (Run.final (next transitionStmt) s l).data = s.data := by
  induction l generalizing s with
  | nil => exact ⟨fun e he ↦ absurd he List.not_mem_nil, rfl⟩
  | cons label l ih =>
      rcases decision_step hc h label with ⟨x, p, -, -, hdata, -⟩ | ⟨hcommit, hdata⟩
      · -- a decision starts from `d₀`, which is undecided
        exact absurd (hdata ▸ hd) hc.not_decided
      · have hrest := ih (next_holds hc h label) (hdata.symm ▸ hd)
        refine ⟨fun e he ↦ ?_, hrest.2.trans hdata⟩
        cases hx : commitOf transitionStmt s label with
        | none =>
            rw [commits_cons_none hx] at he
            exact hrest.1 e he
        | some x =>
            rw [commits_cons hx] at he
            rcases List.mem_cons.1 he with rfl | he
            · exact hcommit x hx
            · exact hrest.1 e he

theorem decidedOnce_run (hdata : s.data = d₀) (l : List (τ × Move)) :
    DecidedOnce d₀ c (commits transitionStmt s l) (Run.final (next transitionStmt) s l).data := by
  induction l generalizing s with
  | nil =>
      exact ⟨Nat.zero_le _, fun e he ↦ absurd he List.not_mem_nil,
        fun e he ↦ absurd he List.not_mem_nil, fun _ ↦ hdata⟩
  | cons label l ih =>
      rcases decision_step hc h label with ⟨x, p, hx, hphase, -, hreviewing, heval, hnext⟩ |
        ⟨hcommit, hsame⟩
      · -- the decision: what comes after it changes nothing
        have hdecided : Decided c (next transitionStmt s label).data :=
          hnext.symm ▸ decision_decides hreviewing hc p
        obtain ⟨hrest, hfinal⟩ := decided_run hc (next_holds hc h label) hdecided l
        have hdecision := write_decision hc hreviewing hphase heval
        rw [← hnext, ← hfinal] at hdecision
        rw [commits_cons hx]
        exact DecidedOnce.decide hdecision (writing_updated hphase) hrest
      · have hrest := ih (next_holds hc h label) (hsame.trans hdata)
        cases hx : commitOf transitionStmt s label with
        | none =>
            rw [commits_cons_none hx]
            exact hrest
        | some x =>
            rw [commits_cons hx]
            exact hrest.cons (hcommit x hx)

end Interleavings

/-- Reviewers of one campaign that awaits its decision, before their first statement. -/
structure Reviewed {τ : Type*} (s : System τ String Db TransitionTx) (c : Campaign) : Prop where
  awaiting : Awaiting s.data c
  tx : ∀ t x, s.tx t = some x → x.phase = .start ∧ Reviewing c x

theorem Reviewed.holds {τ : Type*} {s : System τ String Db TransitionTx} {c : Campaign}
    (h : Reviewed s c) : (decisionOutline τ s.data c).Holds s := by
  refine ⟨.inl rfl, fun t x hx ↦ ⟨(h.tx t x hx).2, ?_⟩, fun t x hx row hrow ↦ ?_⟩
  · unfold TransitionTx.Undecided
    rw [(h.tx t x hx).1]
    trivial
  · have hnone : x.deciding = some row := hrow
    unfold TransitionTx.deciding at hnone
    rw [(h.tx t x hx).1] at hnone
    cases hnone

/-- Reads and writes of a decision happen under the lock of the campaign's row. -/
def DecidesLocked {τ : Type*} (s : System τ String Db TransitionTx) : Prop :=
  ∀ t x, s.tx t = some x → ∀ row, x.deciding = some row → s.holder row = some t

/-- Whatever the interleaving, one decision at most succeeds. -/
theorem decided_once {τ : Type*} [DecidableEq τ] {s : System τ String Db TransitionTx}
    {c : Campaign} (h : Reviewed s c) (l : List (τ × Move)) :
    DecidedOnce s.data c (commits transitionStmt s l)
      (Run.final (next transitionStmt) s l).data ∧
    Run.Always (next transitionStmt) DecidesLocked s l := by
  refine ⟨decidedOnce_run h.awaiting h.holds rfl l, ?_⟩
  have hholds := (decisionOutline_proves τ h.awaiting).run_always_unguarded
    (fun _ _ ↦ trivial) h.holds l
  exact hholds.mono fun _ hs ↦ hs.held

/-! Two reviewers of one campaign. -/

def pendingDb : Db where
  campaigns := [{
    id := "a", advertiserOrganizationId := "o1", advertiserContractId := "k1", code := "A"
    status := .pendingApproval, createdBy := some "u" }]
  campaignFlights := [{ id := "f1", campaignId := "a", startAt := 10, endAt := 20 }]
  campaignPlacements := [{ id := "p1", campaignId := "a", storeId := some "st1" }]
  campaignCreatives := [{ campaignId := "a", creativeAssetId := "c1" }]
  creativeAssets := [{
    id := "c1", code := "C-1", mediaType := "video/mp4", storageKey := "creatives/c1"
    sha256Checksum := "0123", fileSizeBytes := 1000 }]
  campaignStatusHistory := [
    { campaignId := "a", oldStatus := none, newStatus := .draft, changedBy := "u", changedAt := 0
      reason := "Campaign created" },
    { campaignId := "a", oldStatus := some .draft, newStatus := .pendingApproval, changedBy := "u"
      changedAt := 1, reason := "Approval requested" }]

def twoReviewers : System Bool String Db TransitionTx where
  data := pendingDb
  holder _ := none
  tx t := some {
    campaignId := "a", actor := "r", now := 2, scope := some ["o1"]
    op := if t then .approve else .reject "colours" }

theorem twoReviewers_reviewed {c : Campaign} (hc : pendingDb.campaign "a" = some c) :
    Reviewed twoReviewers c := by
  cases hc
  refine ⟨⟨rfl, rfl⟩, fun t x hx ↦ ?_⟩
  cases Option.some.inj hx
  cases t with
  | true => exact ⟨rfl, rfl, rfl, rfl⟩
  | false => exact ⟨rfl, rfl, rfl, rfl⟩

/-- The rejection waits for the approval, and finds the campaign approved. -/
def rejectionWaits : List (Bool × Move) :=
  [(true, .advance), (false, .advance)] ++ List.replicate 7 (true, .advance) ++
    List.replicate 2 (false, .advance)

theorem twoReviewers_decided_once : ∃ c, pendingDb.campaign "a" = some c ∧
    DecidedOnce pendingDb c (commits transitionStmt twoReviewers rejectionWaits)
      (Run.final (next transitionStmt) twoReviewers rejectionWaits).data ∧
    (commits transitionStmt twoReviewers rejectionWaits).map (fun e ↦ (e.1, e.2.writing.isSome)) =
      [(true, true), (false, false)] ∧
    (Run.final (next transitionStmt) twoReviewers rejectionWaits).data.statusOf "a" =
      some .approved :=
  ⟨_, rfl, (decided_once (twoReviewers_reviewed rfl) rejectionWaits).1, by decide +kernel,
    by decide +kernel⟩

end RetailMedia
