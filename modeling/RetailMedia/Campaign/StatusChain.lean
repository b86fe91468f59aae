import RetailMedia.Campaign.Transitions

/-! The status history of a campaign as a chain, when transitions interleave. -/

namespace RetailMedia

open Interleaving

/-! ## Chains -/

/-- A move that the history may record: the creation, one of the transition table, or an archive. -/
def AllowedMove : Option CampaignStatus → CampaignStatus → Bool
  | none, new => new = .draft
  | some old, new => validTransition old new ∨ new = .archived ∧ (old = .draft ∨ old = .rejected)

/-- The rows lead from one status to another, each from where the one before it has led. -/
def StatusPath : Option CampaignStatus → List CampaignStatusHistory → Option CampaignStatus → Prop
  | a, [], b => a = b
  | a, h :: hs, b =>
      h.oldStatus = a ∧ AllowedMove a h.newStatus ∧ StatusPath (some h.newStatus) hs b

instance decidableStatusPath (a : Option CampaignStatus) (hs : List CampaignStatusHistory)
    (b : Option CampaignStatus) : Decidable (StatusPath a hs b) :=
  match hs with
  | [] => inferInstanceAs (Decidable (a = b))
  | h :: hs =>
      have := decidableStatusPath (some h.newStatus) hs b
      inferInstanceAs (Decidable (h.oldStatus = a ∧ AllowedMove a h.newStatus ∧
        StatusPath (some h.newStatus) hs b))

theorem StatusPath.unique {a m b : Option CampaignStatus} {hs : List CampaignStatusHistory}
    (h : StatusPath a hs m) (h' : StatusPath a hs b) : m = b := by
  induction hs generalizing a with
  | nil => exact h.symm.trans h'
  | cons r hs ih => exact ih h.2.2 h'.2.2

theorem statusPath_concat {a b : Option CampaignStatus} {hs : List CampaignStatusHistory}
    {r : CampaignStatusHistory} :
    StatusPath a (hs ++ [r]) b ↔
      StatusPath a hs r.oldStatus ∧ AllowedMove r.oldStatus r.newStatus ∧
        some r.newStatus = b := by
  induction hs generalizing a with
  | nil =>
      constructor
      · rintro ⟨hold, hmove, hlast⟩
        exact ⟨hold.symm, hold ▸ hmove, hlast⟩
      · rintro ⟨hold, hmove, hlast⟩
        have hold : a = r.oldStatus := hold
        exact ⟨hold.symm, hold ▸ hmove, hlast⟩
  | cons q hs ih =>
      rw [List.cons_append, StatusPath, StatusPath, ih]
      simp only [and_assoc]

def Db.historyOf (d : Db) (campaignId : String) : List CampaignStatusHistory :=
  d.campaignStatusHistory.filter (·.campaignId = campaignId)

def Db.statusOf (d : Db) (campaignId : String) : Option CampaignStatus :=
  (d.campaign campaignId).map (·.status)

/-- Every campaign's history leads from its creation to its status. -/
def StatusChains (d : Db) : Prop :=
  ∀ c ∈ d.campaigns, StatusPath none (d.historyOf c.id) (some c.status)

instance : DecidablePred StatusChains := fun d ↦
  inferInstanceAs (Decidable (∀ c ∈ d.campaigns, _))

/-! ## One commit -/

theorem CampaignOp.allowed {op : CampaignOp} {status : CampaignStatus}
    (h : status ∈ op.sources) : AllowedMove (some status) op.target = true := by
  cases op with
  | archive =>
      simp only [sources, List.mem_cons, List.not_mem_nil, or_false] at h
      rcases h with rfl | rfl
      · rfl
      · rfl
  | _ =>
      rw [List.mem_singleton.1 h]
      rfl

theorem moveCampaign_statusOf (d : Db) (c : Campaign) (target : CampaignStatus)
    (changedBy : String) (now : Int) (reason id : String) :
    (d.moveCampaign c target changedBy now reason).statusOf id =
      (d.statusOf id).map fun status ↦ if id = c.id then target else status := by
  have hget := Rows.get_updateWhere (k := id) (p := fun e : Campaign ↦ e.id = c.id)
    (f := (·.withStatus target now))
    (fun e ↦ (rfl : Campaign.id (e.withStatus target now) = e.id)) d.campaigns
  show ((Rows.get Campaign.id id (Rows.updateWhere (fun e : Campaign ↦ e.id = c.id)
    (·.withStatus target now) d.campaigns)).map (·.status)) = _
  unfold Db.statusOf Db.campaign
  rw [hget]
  cases hid : Rows.get Campaign.id id d.campaigns with
  | none => rfl
  | some e =>
      have hkey : e.id = id := Rows.get_key hid
      rw [Option.map_some, Option.map_some, hkey]
      by_cases heq : id = c.id
      · simp [heq, Campaign.withStatus]
      · simp [heq]

section Write

variable (x : TransitionTx) (c : Campaign) (p : Preparation) (d : Db)

theorem write_campaigns : (x.write c p d).campaigns =
    Rows.updateWhere (·.id = c.id) (·.withStatus x.op.target x.now) d.campaigns := by
  obtain ⟨_, _, _, happly⟩ := p.only d
  unfold TransitionTx.write Db.moveCampaign Db.setCampaignStatus
  rw [happly]

theorem write_history : (x.write c p d).campaignStatusHistory = d.campaignStatusHistory ++ [{
    campaignId := c.id
    oldStatus := c.status
    newStatus := x.op.target
    changedBy := x.actor
    changedAt := x.now
    reason := x.op.historyReason }] := by
  obtain ⟨_, _, _, happly⟩ := p.only d
  unfold TransitionTx.write Db.moveCampaign Db.setCampaignStatus
  rw [happly]

theorem write_status (id : String) : (x.write c p d).statusOf id =
    (d.statusOf id).map fun status ↦ if id = c.id then x.op.target else status := by
  have happly : (p.apply d).statusOf id = d.statusOf id := by
    obtain ⟨_, _, _, happly⟩ := p.only d
    rw [happly]
    rfl
  unfold TransitionTx.write
  rw [moveCampaign_statusOf, happly]

theorem write_historyOf_other {id : String} (h : id ≠ c.id) :
    (x.write c p d).historyOf id = d.historyOf id := by
  unfold Db.historyOf
  rw [write_history, List.filter_append, List.filter_cons_of_neg (by simpa using Ne.symm h),
    List.filter_nil, List.append_nil]

variable {d}

/-- The commit of a move keeps the chains exactly if the campaign still has the status that the
move starts from. -/
theorem write_chains_iff (h : StatusChains d) (hexists : (d.statusOf c.id).isSome)
    (hsource : c.status ∈ x.op.sources) :
    StatusChains (x.write c p d) ↔ d.statusOf c.id = some c.status := by
  obtain ⟨status, hstatus⟩ := Option.isSome_iff_exists.1 hexists
  obtain ⟨e, he, rfl⟩ := Option.map_eq_some_iff.1 hstatus
  have hid : e.id = c.id := Rows.get_key he
  have hpath : StatusPath none (d.historyOf c.id) (some e.status) :=
    hid ▸ h e (Rows.get_mem he)
  have hnew : (x.write c p d).historyOf c.id = d.historyOf c.id ++ [{
      campaignId := c.id
      oldStatus := c.status
      newStatus := x.op.target
      changedBy := x.actor
      changedAt := x.now
      reason := x.op.historyReason }] := by
    unfold Db.historyOf
    rw [write_history, List.filter_append, List.filter_cons_of_pos (by simp), List.filter_nil]
  have hlast : StatusPath none ((x.write c p d).historyOf c.id) (some x.op.target) ↔
      d.statusOf c.id = some c.status := by
    rw [hnew, statusPath_concat, hstatus]
    constructor
    · rintro ⟨hold, -⟩
      exact hpath.unique hold
    · intro hsame
      exact ⟨hsame ▸ hpath, CampaignOp.allowed hsource, rfl⟩
  rw [← hlast]
  constructor
  · intro hchains
    have hmem : e.withStatus x.op.target x.now ∈ (x.write c p d).campaigns := by
      rw [write_campaigns]
      exact Rows.mem_updateWhere.2 ⟨e, Rows.get_mem he, if_pos (decide_eq_true hid)⟩
    exact hid ▸ hchains _ hmem
  · intro hpath' e' he'
    rw [write_campaigns] at he'
    obtain ⟨f, hf, rfl⟩ := Rows.mem_updateWhere.1 he'
    by_cases hfc : f.id = c.id
    · rw [if_pos (decide_eq_true hfc)]
      show StatusPath none ((x.write c p d).historyOf f.id) (some x.op.target)
      rw [hfc]
      exact hpath'
    · rw [if_neg (by simpa using hfc), write_historyOf_other x c p d hfc]
      exact h f hf

end Write

/-! ## The assertions -/

/-- What a transaction knows of the campaign that it has read: its status, as long as the row is
locked. -/
structure TransitionTx.Knows (x : TransitionTx) (d : Db) (c : Campaign) : Prop where
  id : c.id = x.campaignId
  source : c.status ∈ x.op.sources
  stored : (d.statusOf x.campaignId).isSome = true
  current : x.op.locks = true → d.statusOf x.campaignId = some c.status

def TransitionTx.Sound (d : Db) (x : TransitionTx) : Prop :=
  match x.phase with
  | .reading c _ => x.Knows d c
  | .updated c _ => x.Knows d c
  | _ => True

/-- The campaign row that the rest of a transition relies on. -/
def TransitionTx.relies (x : TransitionTx) : Option String :=
  match x.phase with
  | .reading _ _ => if x.op.locks then some x.campaignId else none
  | .updated _ _ => some x.campaignId
  | _ => none

def transitionOutline (τ : Type*) : Outline τ String Db TransitionTx where
  inv _ := True
  sound d _ x := x.Sound d
  relies x row := x.relies = some row
  guard _ _ := True

theorem CampaignOp.refusal_none {op : CampaignOp} {c : Campaign} {scope : Option (List String)}
    (h : op.refusal c scope = none) :
    c.status ∈ op.sources ∧ inScope c.advertiserOrganizationId scope = true := by
  unfold CampaignOp.refusal at h
  split at h
  · cases h
  · rename_i hsource
    split at h
    · cases h
    · rename_i hscope
      exact ⟨not_not.1 hsource, not_not.1 hscope⟩

/-- The first `SELECT` of a transition that goes on has found the campaign in a source status. -/
theorem select_knows (x : TransitionTx) (d : Db) :
    (∃ r, x.select d = .returning r) ∨
      ∃ c, x.select d = .reading c (x.reads c) ∧ d.campaign x.campaignId = some c ∧
        x.Knows d c := by
  unfold TransitionTx.select
  cases hc : d.campaign x.campaignId with
  | none => exact .inl ⟨_, rfl⟩
  | some c =>
      dsimp only
      cases hrefusal : x.op.refusal c x.scope with
      | some r => exact .inl ⟨r, rfl⟩
      | none =>
          have hstatus : d.statusOf x.campaignId = some c.status := by
            unfold Db.statusOf
            rw [hc]
            rfl
          have hsource := (CampaignOp.refusal_none hrefusal).1
          have hstored : (d.statusOf x.campaignId).isSome = true := by
            rw [hstatus]
            rfl
          exact .inr ⟨c, rfl, rfl, Rows.get_key hc, hsource, hstored, fun _ ↦ hstatus⟩

theorem select_sound (x : TransitionTx) (d : Db) :
    TransitionTx.Sound d { x with phase := x.select d } ∧
      ∀ row, TransitionTx.relies { x with phase := x.select d } = some row →
        x.op.locks = true ∧ x.row d = some row := by
  rcases select_knows x d with ⟨r, hr⟩ | ⟨c, hselect, hc, hknows⟩
  · rw [hr]
    exact ⟨trivial, fun _ h ↦ by cases h⟩
  · rw [hselect]
    refine ⟨⟨hknows.id, hknows.source, hknows.stored, hknows.current⟩, fun row hrow ↦ ?_⟩
    have hrelies : (if x.op.locks then some x.campaignId else none) = some row := hrow
    by_cases hlocks : x.op.locks = true
    · rw [if_pos hlocks] at hrelies
      refine ⟨hlocks, ?_⟩
      unfold TransitionTx.row
      rw [hc, ← hrelies]
      exact congrArg some hknows.id
    · rw [if_neg hlocks] at hrelies
      cases hrelies

/-- A commit disturbs only those who rely on its campaign's row. -/
theorem TransitionTx.Sound.write {d : Db} {x b : TransitionTx} {c : Campaign}
    (hid : c.id = x.campaignId) (p : Preparation) (h : b.Sound d)
    (hrelies : b.relies ≠ some x.campaignId) : b.Sound (x.write c p d) := by
  have hknows {e : Campaign} (he : b.Knows d e)
      (hfree : b.op.locks = true → b.campaignId ≠ x.campaignId) : b.Knows (x.write c p d) e := by
    refine ⟨he.id, he.source, ?_, fun hlocks ↦ ?_⟩
    · rw [write_status, Option.isSome_map]
      exact he.stored
    · have hother : b.campaignId ≠ c.id := fun heq ↦ hfree hlocks (heq.trans hid)
      rw [write_status, he.current hlocks, Option.map_some, if_neg hother]
  unfold TransitionTx.Sound TransitionTx.relies at *
  cases hphase : b.phase with
  | start => trivial
  | returning r => trivial
  | reading e reads =>
      rw [hphase] at h hrelies
      refine hknows h fun hlocks heq ↦ ?_
      dsimp only at hrelies
      rw [if_pos hlocks, heq] at hrelies
      exact hrelies rfl
  | updated e q =>
      rw [hphase] at h hrelies
      exact hknows h fun _ heq ↦ hrelies (congrArg some heq)

theorem transitionOutline_proves (τ : Type*) : (transitionOutline τ).Proves transitionStmt := by
  rintro ⟨campaignId, actor, now, scope, op, phase⟩
  cases phase with
  | start =>
      unfold transitionStmt
      dsimp only
      by_cases hlocks : op.locks = true
      · rw [if_pos hlocks]
        intro d _ _ _ _
        have hselect := select_sound ⟨campaignId, actor, now, scope, op, .start⟩ d
        exact ⟨hselect.1, fun row hrow ↦ .inr (hselect.2 row hrow).2⟩
      · rw [if_neg hlocks]
        intro d _ _ _ _
        have hselect := select_sound ⟨campaignId, actor, now, scope, op, .start⟩ d
        exact ⟨hselect.1, fun row hrow ↦ absurd (hselect.2 row hrow).1 hlocks⟩
  | reading c reads =>
      cases reads with
      | read k =>
          intro d _ _ h _
          have hknows : TransitionTx.Knows _ d c := h
          exact ⟨⟨hknows.id, hknows.source, hknows.stored, hknows.current⟩, fun _ hrow ↦ hrow⟩
      | done outcome =>
          cases outcome with
          | error r => exact fun d _ _ _ _ ↦ ⟨trivial, fun _ hrow ↦ by cases hrow⟩
          | ok p =>
              intro d _ _ h _
              have hknows : TransitionTx.Knows _ d c := h
              refine ⟨⟨hknows.id, hknows.source, hknows.stored, hknows.current⟩,
                fun row hrow ↦ .inr ?_⟩
              -- the `UPDATE` locks the campaign, whether the `SELECT` has or not
              obtain ⟨e, he, -⟩ := Option.map_eq_some_iff.1
                (Option.isSome_iff_exists.1 hknows.stored).choose_spec
              cases hrow
              show (d.campaign campaignId).map (·.id) = some campaignId
              rw [he]
              exact congrArg some (Rows.get_key he)
  | updated c p =>
      rintro d d' t hI h - ⟨⟩
      refine ⟨trivial, fun u b _ hb hrelies ↦ ?_⟩
      exact TransitionTx.Sound.write (TransitionTx.Knows.id h) p hb (hrelies campaignId rfl)
  | returning r =>
      rintro d d' t hI - - ⟨⟩
      exact ⟨trivial, fun u b _ hb _ ↦ hb⟩

/-! ## Every interleaving -/

section Interleavings

variable {τ : Type*}

/-- Transitions that have not run a statement yet. -/
def Transitioning (s : System τ String Db TransitionTx) : Prop :=
  ∀ t x, s.tx t = some x → x.phase = .start

theorem Transitioning.holds {s : System τ String Db TransitionTx} (h : Transitioning s) :
    (transitionOutline τ).Holds s := by
  constructor
  · trivial
  · intro t x hx
    show x.Sound s.data
    unfold TransitionTx.Sound
    rw [h t x hx]
    trivial
  · intro t x hx row hrow
    have hnone : x.relies = some row := hrow
    unfold TransitionTx.relies at hnone
    rw [h t x hx] at hnone
    cases hnone

/-- The campaign as a transaction has read it, once its `UPDATE` has run. -/
def TransitionTx.writing (x : TransitionTx) : Option Campaign :=
  match x.phase with
  | .updated c _ => some c
  | _ => none

variable [DecidableEq τ]

/-- A commit of an operation without a lock finds the status that the operation has read. -/
def CommitsCurrent (s : System τ String Db TransitionTx) (label : τ × Move) : Prop :=
  ∀ x ∈ s.tx label.1, label.2 = .advance → x.op.locks = false →
    ∀ c ∈ x.writing, s.data.statusOf x.campaignId = some c.status

instance (s : System τ String Db TransitionTx) (label : τ × Move) :
    Decidable (CommitsCurrent s label) :=
  inferInstanceAs (Decidable (∀ x ∈ s.tx label.1, label.2 = .advance → x.op.locks = false →
    ∀ c ∈ x.writing, s.data.statusOf x.campaignId = some c.status))

/-- A transition that commits has found nothing to write, or writes a move. -/
theorem transitionStmt_commit {x : TransitionTx} {w : Db → Option Db}
    (h : transitionStmt x = .commit w) :
    (∃ r, x.phase = .returning r ∧ w = some) ∨
      ∃ c p, x.phase = .updated c p ∧ w = fun d ↦ some (x.write c p d) := by
  unfold transitionStmt at h
  cases hphase : x.phase with
  | start =>
      rw [hphase] at h
      dsimp only at h
      split at h
      · cases h
      · cases h
  | reading c reads =>
      rw [hphase] at h
      rcases reads with (_ | _) | _
      · cases h
      · cases h
      · cases h
  | updated c p =>
      rw [hphase] at h
      exact .inr ⟨c, p, rfl, (Stmt.commit.inj h).symm⟩
  | returning r =>
      rw [hphase] at h
      exact .inl ⟨r, rfl, (Stmt.commit.inj h).symm⟩

/-- A step changes the tables only by the commit of a move. -/
theorem transition_step (s : System τ String Db TransitionTx) (label : τ × Move) :
    (∃ x c p, s.tx label.1 = some x ∧ label.2 = .advance ∧ x.phase = .updated c p ∧
      next transitionStmt s label = s.finish label.1 (x.write c p s.data)) ∨
    ((∀ x ∈ s.tx label.1, label.2 = .advance → x.writing = none) ∧
      (next transitionStmt s label).data = s.data) := by
  rcases next_commit_or s label with ⟨x, w, d, -, hx, hmove, hprog, hw, hnext⟩ | ⟨hnone, hdata⟩
  · rcases transitionStmt_commit hprog with ⟨r, hphase, rfl⟩ | ⟨c, p, hphase, rfl⟩
    · refine .inr ⟨fun y hy _ ↦ ?_, ?_⟩
      · rw [hx] at hy
        cases hy
        unfold TransitionTx.writing
        rw [hphase]
      · rw [hnext]
        exact (Option.some.inj hw).symm
    · refine .inl ⟨x, c, p, hx, hmove, hphase, ?_⟩
      rw [hnext, ← Option.some.inj hw]
  · refine .inr ⟨fun x hx hmove ↦ ?_, hdata⟩
    unfold TransitionTx.writing
    cases hphase : x.phase with
    | updated c p =>
        -- its commit would have been accepted
        have hcommit : transitionStmt x = .commit fun d ↦ some (x.write c p d) := by
          unfold transitionStmt
          rw [hphase]
        cases commitOf_none hnone hx hmove hcommit
    | _ => rfl

theorem next_chains {s : System τ String Db TransitionTx} (h : (transitionOutline τ).Holds s)
    (hchains : StatusChains s.data) (label : τ × Move) :
    StatusChains (next transitionStmt s label).data ↔ CommitsCurrent s label := by
  rcases transition_step s label with ⟨x, c, p, hx, hmove, hphase, hnext⟩ | ⟨hnone, hdata⟩
  · have hknows : x.Knows s.data c := by
      have hsound : x.Sound s.data := h.tx label.1 x hx
      unfold TransitionTx.Sound at hsound
      rw [hphase] at hsound
      exact hsound
    have hwriting : x.writing = some c := by
      unfold TransitionTx.writing
      rw [hphase]
    have hstored := hknows.stored
    rw [← hknows.id] at hstored
    rw [hnext]
    refine (write_chains_iff x c p hchains hstored hknows.source).trans ?_
    rw [hknows.id]
    constructor
    · intro hcurrent y hy _ _ e he
      rw [hx] at hy
      cases hy
      rw [hwriting] at he
      cases he
      exact hcurrent
    · intro hcurrent
      cases hlocks : x.op.locks with
      | true => exact hknows.current hlocks
      | false => exact hcurrent x hx hmove hlocks c hwriting
  · rw [hdata]
    refine iff_of_true hchains fun x hx hmove _ c hc ↦ ?_
    rw [hnone x hx hmove] at hc
    cases hc

/-- The histories stay chains in a run exactly if the unlocked operations commit on the status
that they have read. -/
theorem statusChains_iff_current {s : System τ String Db TransitionTx} (hs : Transitioning s)
    (l : List (τ × Move)) (hchains : StatusChains s.data) :
    Run.Always (next transitionStmt) (fun s ↦ StatusChains s.data) s l ↔
      Run.Guarded (next transitionStmt) CommitsCurrent s l :=
  Run.always_iff_guarded (I := (transitionOutline τ).Holds) (A := fun _ ↦ True)
    (fun _ _ _ h ↦ (transitionOutline_proves τ).next h fun _ _ _ _ ↦ trivial)
    (fun _ label _ h hchains ↦ next_chains h hchains label) (fun _ _ ↦ trivial) hs.holds hchains

end Interleavings

/-! Two requests archive one draft campaign. -/

def draftDb : Db where
  campaigns := [{
    id := "a", advertiserOrganizationId := "o1", advertiserContractId := "k1", code := "A" }]
  campaignStatusHistory := [{
    campaignId := "a", oldStatus := none, newStatus := .draft, changedBy := "u", changedAt := 0
    reason := "Campaign created" }]

def twoArchiving : System Bool String Db TransitionTx where
  data := draftDb
  holder _ := none
  tx t := some { campaignId := "a", actor := if t then "u" else "v", now := 1, op := .archive }

theorem twoArchiving_transitioning : Transitioning twoArchiving := by
  intro t x hx
  cases Option.some.inj hx
  rfl

/-- Both read the draft, then one after the other archives it. -/
def archiveTwice : List (Bool × Move) :=
  [(true, .advance), (false, .advance), (true, .advance), (true, .advance), (false, .advance),
    (false, .advance)]

theorem archived_twice_breaks_chain :
    ¬ ∀ (s : System Bool String Db TransitionTx) (l : List (Bool × Move)), Transitioning s →
      StatusChains s.data →
      Run.Always (next transitionStmt) (fun s ↦ StatusChains s.data) s l := by
  intro h
  have hlast := (h twoArchiving archiveTwice twoArchiving_transitioning (by decide)).final
  revert hlast
  decide +kernel

/-- The second request reads the campaign after the first one has committed. -/
theorem archived_once_chain :
    Run.Always (next transitionStmt) (fun s ↦ StatusChains s.data) twoArchiving
      (List.replicate 3 (true, .advance) ++ List.replicate 2 (false, .advance)) :=
  (statusChains_iff_current twoArchiving_transitioning _ (by decide)).2 (by decide +kernel)

end RetailMedia
