import RetailMedia.Campaign.ApprovalQueue
import RetailMedia.Campaign.Decisions

/-! The approval queue over runs of interleaved transitions: when it shows a campaign twice. -/

namespace RetailMedia

open Interleaving

/-! ## Decisions follow submissions -/

/-- A campaign has no more decisions than submissions, and fewer as long as it waits for one. -/
structure DecisionsFollow (d : Db) : Prop where
  ids : (d.campaigns.map (·.id)).Nodup
  decided : ∀ k, d.approvalCount k ≤ d.submissionCount k
  waiting : ∀ k, d.statusOf k = some .pendingApproval → d.approvalCount k < d.submissionCount k

/-- One decision about the campaign, if the operation is to decide. -/
def Preparation.Decides (p : Preparation) (op : CampaignOp) (c : Campaign) : Prop :=
  ∀ d k, (p.apply d).approvalCount k =
    d.approvalCount k + if op.decides = true ∧ k = c.id then 1 else 0

/-- What a transition writes besides the status will be its decision. -/
def TransitionTx.Prepares (x : TransitionTx) : Prop :=
  match x.phase with
  | .reading c reads => reads.All fun r ↦ ∀ p, r = .ok p → p.Decides x.op c
  | .updated c p => p.Decides x.op c
  | _ => True

theorem reading_all {σ α : Type*} : ∀ r : Reading σ α, r.All fun _ ↦ True
  | .done _ => trivial
  | .read k => fun d ↦ reading_all (k d)

section Reads

variable {op : CampaignOp} {c : Campaign}

theorem undecided_decides {p : Preparation} (hop : op.decides = false)
    (h : ∀ d, (p.apply d).campaignApprovals = d.campaignApprovals) : p.Decides op c := by
  intro d k
  have hcount : (p.apply d).approvalCount k = d.approvalCount k := by
    unfold Db.approvalCount
    rw [h]
  have hnot : ¬ (op.decides = true ∧ k = c.id) := by
    rw [hop]
    exact fun hboth ↦ Bool.false_ne_true hboth.1
  rw [hcount, if_neg hnot, Nat.add_zero]

/-- A transition that is refused comes to no preparation. -/
theorem refused_prepares (r : Returned) :
    (Reading.done (.error r) : Reading Db (Except Returned Preparation)).All
      fun r ↦ ∀ p, r = .ok p → p.Decides op c := by
  intro p hp
  cases hp

theorem recorded_decides {d d' : Db} (h : InventoryOnly d d') (hop : op.decides = true)
    (decision : CampaignStatus) (reviewedBy : String) (requestedAt now : Int)
    (rejectionReason : Option String) (k : String) :
    (recordDecision d' c decision reviewedBy requestedAt now rejectionReason).approvalCount k =
      d.approvalCount k + if op.decides = true ∧ k = c.id then 1 else 0 := by
  unfold Db.approvalCount
  rw [recordDecision_approvals h, List.countP_append, List.countP_singleton]
  simp [hop, eq_comm]

theorem requestReads_prepares (hop : op.decides = false) (calls : InventoryCalls) :
    (TransitionTx.requestReads calls c).All fun r ↦ ∀ p, r = .ok p → p.Decides op c := by
  have hreserve (answers : ContentAnswers) : (TransitionTx.reserveReads calls c answers).All
      fun r ↦ ∀ p, r = .ok p → p.Decides op c := by
    intro placements bookings
    apply (reading_all _).bind
    rintro (e | ⟨w, flights⟩) _ p hp
    · cases hp
    · cases hp
      exact undecided_decides hop fun _ ↦ rfl
  intro flights placements creatives
  dsimp only
  split
  · exact refused_prepares _
  intro links assets
  dsimp only
  split
  · exact refused_prepares _
  intro contracts
  dsimp only
  split
  · exact hreserve _
  intro flightsAgain
  dsimp only
  split
  · exact refused_prepares _
  · exact hreserve _

theorem reads_prepare (x : TransitionTx) :
    (x.reads c).All fun r ↦ ∀ p, r = .ok p → p.Decides x.op c := by
  unfold TransitionTx.reads
  cases hop : x.op with
  | requestApproval calls => exact requestReads_prepares rfl calls
  | approve =>
      intro flights placements links
      dsimp only
      split
      · exact refused_prepares _
      intro assets
      dsimp only
      split
      · exact refused_prepares _
      intro history
      dsimp only
      split
      · exact refused_prepares _
      · intro p hp d k
        cases hp
        exact recorded_decides (settle_inventoryOnly _ _ _ _ d) rfl _ _ _ _ _ k
  | reject reason =>
      intro history
      dsimp only
      split
      · exact refused_prepares _
      · intro p hp d k
        cases hp
        exact recorded_decides (settle_inventoryOnly _ _ _ _ d) rfl _ _ _ _ _ k
  | complete =>
      intro d
      dsimp only
      split
      · exact refused_prepares _
      · intro p hp
        cases hp
        exact undecided_decides rfl fun _ ↦ rfl
  | activate =>
      intro p hp
      cases hp
      exact undecided_decides rfl fun _ ↦ rfl
  | pause =>
      intro p hp
      cases hp
      exact undecided_decides rfl fun _ ↦ rfl
  | archive =>
      intro p hp
      cases hp
      exact undecided_decides rfl fun _ ↦ rfl

theorem select_prepares (x : TransitionTx) (d : Db) :
    TransitionTx.Prepares { x with phase := x.select d } := by
  rcases select_knows x d with ⟨r, hr⟩ | ⟨c, hselect, _⟩
  · rw [hr]
    trivial
  · rw [hselect]
    exact reads_prepare x

end Reads

/-! ## One commit -/

section Write

variable {x : TransitionTx} {c : Campaign} {p : Preparation} {d : Db}

theorem submissionCount_write (k : String) : (x.write c p d).submissionCount k =
    d.submissionCount k + if x.op.target = .pendingApproval ∧ k = c.id then 1 else 0 := by
  unfold Db.submissionCount
  rw [write_history, List.countP_append, List.countP_singleton]
  by_cases hnew : x.op.target = .pendingApproval ∧ k = c.id
  · rw [if_pos hnew, if_pos (decide_eq_true ⟨hnew.2.symm, hnew.1⟩)]
  · rw [if_neg hnew, if_neg fun h ↦ hnew ⟨(of_decide_eq_true h).2, (of_decide_eq_true h).1.symm⟩]

theorem approvalCount_write (hp : p.Decides x.op c) (k : String) :
    (x.write c p d).approvalCount k =
      d.approvalCount k + if x.op.decides = true ∧ k = c.id then 1 else 0 :=
  hp d k

theorem write_ids : (x.write c p d).campaigns.map (·.id) = d.campaigns.map (·.id) := by
  rw [write_campaigns]
  apply Rows.map_updateWhere
  intro e
  rfl

/-- A decision is made under the lock, about a campaign that waits for it. -/
theorem DecisionsFollow.write (h : DecisionsFollow d) (hknows : x.Knows d c)
    (hp : p.Decides x.op c) : DecisionsFollow (x.write c p d) where
  ids := by
    rw [write_ids]
    exact h.ids
  decided k := by
    rw [submissionCount_write, approvalCount_write hp]
    have hle := h.decided k
    by_cases hdecided : x.op.decides = true ∧ k = c.id
    · have hsource := hknows.source
      rw [CampaignOp.decides_sources hdecided.1] at hsource
      have hcurrent := hknows.current (CampaignOp.decides_locks hdecided.1)
      rw [List.mem_singleton.1 hsource, ← hknows.id, ← hdecided.2] at hcurrent
      have hless := h.waiting k hcurrent
      rw [if_pos hdecided]
      omega
    · rw [if_neg hdecided]
      omega
  waiting k hk := by
    rw [write_status] at hk
    obtain ⟨status, hstatus, hnew⟩ := Option.map_eq_some_iff.1 hk
    rw [submissionCount_write, approvalCount_write hp]
    by_cases hid : k = c.id
    · rw [if_pos hid] at hnew
      have hundecided : ¬ (x.op.decides = true ∧ k = c.id) := fun hdecided ↦
        CampaignOp.decides_target hdecided.1 hnew
      have hle := h.decided k
      rw [if_neg hundecided, if_pos ⟨hnew, hid⟩]
      omega
    · rw [if_neg hid] at hnew
      rw [if_neg fun hboth ↦ hid hboth.2, if_neg fun hboth ↦ hid hboth.2]
      exact h.waiting k (hstatus.trans (congrArg some hnew))

/-- With one submission there is one decision at most. -/
theorem DecisionsFollow.timesShown_le_one (h : DecisionsFollow d) (k : String) :
    d.timesShown k ≤ 1 ↔ d.submissionCount k ≤ 1 := by
  have hle := h.decided k
  unfold Db.timesShown
  constructor
  · intro htimes
    have hmore : d.submissionCount k * 1 ≤ d.submissionCount k * max 1 (d.approvalCount k) :=
      Nat.mul_le_mul_left _ (Nat.le_max_left 1 _)
    omega
  · intro hone
    rw [Nat.max_eq_left (by omega), Nat.mul_one]
    exact hone

theorem write_noRepeats_iff (names : AdvertiserNames) (h : DecisionsFollow d)
    (hknows : x.Knows d c) (hp : p.Decides x.op c) (hno : NoRepeats names d) :
    NoRepeats names (x.write c p d) ↔
      (x.op.target = .pendingApproval → d.submissionCount c.id = 0) := by
  have h' := h.write hknows hp
  rw [noRepeats_iff names h.ids] at hno
  rw [noRepeats_iff names h'.ids]
  constructor
  · intro hone htarget
    have hmem : c.id ∈ (x.write c p d).campaigns.map (·.id) := by
      rw [write_ids, hknows.id]
      obtain ⟨e, he, _⟩ := Option.map_eq_some_iff.1
        (Option.isSome_iff_exists.1 hknows.stored).choose_spec
      rw [← Rows.get_key he]
      exact List.mem_map_of_mem (Rows.get_mem he)
    obtain ⟨e, he, hid⟩ := List.mem_map.1 hmem
    have hshown := (h'.timesShown_le_one e.id).1 (hone e he)
    rw [hid, submissionCount_write, if_pos ⟨htarget, rfl⟩] at hshown
    omega
  · intro hfirst e he
    rw [h'.timesShown_le_one, submissionCount_write]
    have hmem : e.id ∈ d.campaigns.map (·.id) := by
      rw [← write_ids (x := x) (c := c) (p := p)]
      exact List.mem_map_of_mem he
    obtain ⟨e', he', hid⟩ := List.mem_map.1 hmem
    have hold := (h.timesShown_le_one e'.id).1 (hno e' he')
    rw [hid] at hold
    by_cases hnew : x.op.target = .pendingApproval ∧ e.id = c.id
    · have hnone := hfirst hnew.1
      rw [if_pos hnew, hnew.2]
      omega
    · rw [if_neg hnew]
      exact hold

end Write

/-! ## Every interleaving -/

section Interleavings

variable {τ : Type*}

def queueOutline (τ : Type*) : Outline τ String Db TransitionTx :=
  (transitionOutline τ).adding DecisionsFollow TransitionTx.Prepares

theorem TransitionTx.Sound.updated {d : Db} {x : TransitionTx} {c : Campaign} {p : Preparation}
    (h : x.Sound d) (hphase : x.phase = .updated c p) : x.Knows d c := by
  unfold TransitionTx.Sound at h
  rw [hphase] at h
  exact h

theorem TransitionTx.Prepares.updated {x : TransitionTx} {c : Campaign} {p : Preparation}
    (h : x.Prepares) (hphase : x.phase = .updated c p) : p.Decides x.op c := by
  unfold TransitionTx.Prepares at h
  rw [hphase] at h
  exact h

theorem queueOutline_proves (τ : Type*) : (queueOutline τ).Proves transitionStmt := by
  apply (transitionOutline_proves τ).adding
  · rintro ⟨campaignId, actor, now, scope, op, phase⟩ h
    cases phase with
    | start =>
        unfold transitionStmt
        dsimp only
        split
        · exact fun d ↦ select_prepares ⟨campaignId, actor, now, scope, op, .start⟩ d
        · exact fun d ↦ select_prepares ⟨campaignId, actor, now, scope, op, .start⟩ d
    | reading c reads =>
        cases reads with
        | read k => exact fun d ↦ h d
        | done outcome =>
            cases outcome with
            | error r => exact fun _ ↦ trivial
            | ok p => exact fun _ ↦ h p rfl
    | updated c p => trivial
    | returning r => trivial
  · intro x write d d' t hstmt hfollow hsound hprepares hwrite
    rcases transitionStmt_commit hstmt with ⟨r, _, rfl⟩ | ⟨c, p, hphase, rfl⟩
    · cases hwrite
      exact hfollow
    · cases hwrite
      have hknows : x.Sound d := hsound
      exact hfollow.write (hknows.updated hphase) (hprepares.updated hphase)

theorem Transitioning.queue {s : System τ String Db TransitionTx} (hs : Transitioning s)
    (hfollow : DecisionsFollow s.data) : (queueOutline τ).Holds s where
  data := ⟨trivial, hfollow⟩
  tx t x hx := by
    refine ⟨hs.holds.tx t x hx, ?_⟩
    unfold TransitionTx.Prepares
    rw [hs t x hx]
    trivial
  held := hs.holds.held

variable [DecidableEq τ]

/-- A request for approval commits only for a campaign that has never been submitted. -/
def FirstSubmission (s : System τ String Db TransitionTx) (label : τ × Move) : Prop :=
  ∀ x ∈ s.tx label.1, label.2 = .advance → x.op.target = .pendingApproval →
    ∀ c ∈ x.writing, s.data.submissionCount c.id = 0

instance (s : System τ String Db TransitionTx) (label : τ × Move) :
    Decidable (FirstSubmission s label) :=
  inferInstanceAs (Decidable (∀ x ∈ s.tx label.1, label.2 = .advance →
    x.op.target = .pendingApproval → ∀ c ∈ x.writing, s.data.submissionCount c.id = 0))

theorem next_noRepeats (names : AdvertiserNames) {s : System τ String Db TransitionTx}
    (h : (queueOutline τ).Holds s) (hno : NoRepeats names s.data) (label : τ × Move) :
    NoRepeats names (next transitionStmt s label).data ↔ FirstSubmission s label := by
  rcases transition_step s label with ⟨x, c, p, hx, hmove, hphase, hnext⟩ | ⟨hnone, hdata⟩
  · obtain ⟨hsound, hprepares⟩ := h.tx label.1 x hx
    have hknows : x.Sound s.data := hsound
    obtain ⟨_, hfollow⟩ := h.data
    have hwriting : x.writing = some c := by
      unfold TransitionTx.writing
      rw [hphase]
    rw [hnext]
    refine (write_noRepeats_iff names hfollow (hknows.updated hphase)
      (hprepares.updated hphase) hno).trans ?_
    constructor
    · intro hfirst y hy _ htarget e he
      rw [hx] at hy
      cases hy
      rw [hwriting] at he
      cases he
      exact hfirst htarget
    · intro hfirst htarget
      exact hfirst x hx hmove htarget c hwriting
  · rw [hdata]
    refine iff_of_true hno fun x hx hmove _ c hc ↦ ?_
    rw [hnone x hx hmove] at hc
    cases hc

/-- Over every run of transitions whose statements interleave, the approval queue never shows a
campaign twice on a page exactly if a request for approval commits only for campaigns that have
never been submitted. The request does not lock the campaign that it checks. -/
theorem approval_queue_repeats_iff (names : AdvertiserNames)
    {s : System τ String Db TransitionTx} (hs : Transitioning s) (hfollow : DecisionsFollow s.data)
    (hno : NoRepeats names s.data) (l : List (τ × Move)) :
    Run.Always (next transitionStmt) (fun s ↦ NoRepeats names s.data) s l ↔
      Run.Guarded (next transitionStmt) FirstSubmission s l :=
  Run.always_iff_guarded (I := (queueOutline τ).Holds) (A := fun _ ↦ True)
    (fun _ _ _ h ↦ (queueOutline_proves τ).next h fun _ _ _ _ ↦ trivial)
    (fun _ label _ h hno ↦ next_noRepeats names h hno label) (fun _ _ ↦ trivial)
    (hs.queue hfollow) hno

end Interleavings

/-! Two requests for the approval of one draft. -/

def readyDraftDb : Db where
  campaigns := [{
    id := "a", advertiserOrganizationId := "o1", advertiserContractId := "k1", code := "A" }]
  campaignFlights := [{ id := "f1", campaignId := "a", startAt := 10, endAt := 20 }]
  campaignPlacements := [{ id := "p1", campaignId := "a", storeId := some "st1" }]
  campaignCreatives := [{ campaignId := "a", creativeAssetId := "c1" }]
  creativeAssets := [{
    id := "c1", code := "C-1", mediaType := "video/mp4", storageKey := "creatives/c1"
    sha256Checksum := "0123456789abcdef0123456789abcdef0123456789abcdef0123456789abcdef"
    fileSizeBytes := 1000 }]

def twoRequests : System Bool String Db TransitionTx where
  data := readyDraftDb
  holder _ := none
  tx _ := some {
    campaignId := "a", actor := "u", now := 2
    op := .requestApproval { release := fun _ w ↦ w, reserve := fun _ _ ↦ .ok id } }

/-- One request has read the draft before the other commits. -/
def requestedTwice : List (Bool × Move) :=
  List.replicate 9 (false, .advance) ++ List.replicate 11 (true, .advance) ++
    List.replicate 2 (false, .advance)

theorem readyDraft_follows : DecisionsFollow readyDraftDb where
  ids := by decide
  decided _ := Nat.le_refl 0
  waiting k hk := by
    obtain ⟨c, hc, hstatus⟩ := Option.map_eq_some_iff.1 hk
    have hmem : c ∈ readyDraftDb.campaigns := Rows.get_mem hc
    rw [List.mem_singleton.1 hmem] at hstatus
    cases hstatus

theorem twoRequests_repeat : ¬ Run.Always (next transitionStmt)
    (fun s ↦ NoRepeats {} s.data) twoRequests requestedTwice := by
  have hno : NoRepeats {} readyDraftDb :=
    (noRepeats_iff {} readyDraft_follows.ids).2 (by decide)
  rw [approval_queue_repeats_iff {} (fun _ _ hx ↦ by cases hx; rfl) readyDraft_follows hno]
  decide +kernel

end RetailMedia
