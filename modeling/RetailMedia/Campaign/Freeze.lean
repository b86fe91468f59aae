import RetailMedia.Campaign.References
import RetailMedia.Campaign.StatusChain
import RetailMedia.Campaign.Edits

/-! What a campaign that awaits its approval consists of, when edits and requests for approval
interleave. -/

namespace RetailMedia

open Interleaving

/-! ## Content -/

structure Content where
  flights : List CampaignFlight
  placements : List CampaignPlacement
  creatives : List CampaignCreative
  deriving DecidableEq

def Db.content (d : Db) (campaignId : String) : Content where
  flights := d.flightsOf campaignId
  placements := d.placementsOf campaignId
  creatives := d.creativesOf campaignId

/-- The queries would be answered alike on this content. -/
def ContentAnswers.Describes (a : ContentAnswers) (c : Content) : Prop :=
  (∀ n ∈ a.flightCounts, n = c.flights.length) ∧
    (∀ n ∈ a.placementCounts, n = c.placements.length) ∧
    (∀ n ∈ a.creativeCounts, n = c.creatives.length) ∧
    (∀ ids ∈ a.creativeAssetIds, ids = c.creatives.map (·.creativeAssetId)) ∧
    (∀ flights ∈ a.flights, flights = c.flights) ∧
    ∀ ps ∈ a.surfacePlacements, ps = c.placements.filter (·.displaySurfaceId.isSome)

instance (a : ContentAnswers) (c : Content) : Decidable (a.Describes c) :=
  inferInstanceAs (Decidable (_ ∧ _))

/-- A committed move to `pending_approval`: the content at the commit, and what the request had
been answered. -/
structure PendingMove where
  campaignId : String
  content : Content
  answers : ContentAnswers

structure FreezeDb where
  db : Db
  moves : List PendingMove := []

/-- Since its move, every campaign consists of what its request has validated. -/
def Frozen (d : FreezeDb) : Prop :=
  ∀ m ∈ d.moves, d.db.content m.campaignId = m.content ∧ m.answers.Describes m.content

instance : DecidablePred Frozen := fun d ↦ inferInstanceAs (Decidable (∀ m ∈ d.moves, _))

/-! ## What a flush does -/

namespace ContentWrite

/-- An update of columns that have the new values already. -/
def Idle (d : Db) : ContentWrite → Prop
  | updateFlight f u => ∀ g ∈ d.campaignFlights, g.id = f.id → g.set u = g
  | updatePlacement p u => ∀ q ∈ d.campaignPlacements, q.id = p.id → q.set u = q
  | _ => False

instance (d : Db) : (w : ContentWrite) → Decidable (w.Idle d)
  | updateFlight _ _ => inferInstanceAs (Decidable (∀ g ∈ d.campaignFlights, _))
  | updatePlacement _ _ => inferInstanceAs (Decidable (∀ q ∈ d.campaignPlacements, _))
  | insertFlight _ => inferInstanceAs (Decidable False)
  | insertPlacement _ => inferInstanceAs (Decidable False)
  | insertCreative _ _ => inferInstanceAs (Decidable False)
  | insertLink _ => inferInstanceAs (Decidable False)

end ContentWrite

def Db.flightOwner (d : Db) (flightId : String) : Option String :=
  (Rows.get (·.id) flightId d.campaignFlights).map (·.campaignId)

def Db.placementOwner (d : Db) (placementId : String) : Option String :=
  (Rows.get (·.id) placementId d.campaignPlacements).map (·.campaignId)

structure ContentKeys (d : Db) : Prop where
  flights : (d.campaignFlights.map (·.id)).Nodup
  placements : (d.campaignPlacements.map (·.id)).Nodup

/-- The row that an update is about belongs to the campaign that was checked. -/
def ContentWrite.Owned (d : Db) : ContentWrite → Prop
  | updateFlight f _ => d.flightOwner f.id = some f.campaignId
  | updatePlacement p _ => d.placementOwner p.id = some p.campaignId
  | _ => True

/-- What a flush that the constraints accept makes of the tables. -/
inductive Flushed (now : Int) (d : Db) : ContentWrite → Db → Prop
  | insertFlight {f : CampaignFlight} (fresh : f.id ∉ d.campaignFlights.map (·.id)) :
      Flushed now d (.insertFlight f) { d with campaignFlights := d.campaignFlights ++ [f] }
  | updateFlight (f : CampaignFlight) (u : FlightChanges) :
      Flushed now d (.updateFlight f u) { d.touchCampaign f.campaignId now with
        campaignFlights := Rows.updateWhere (·.id = f.id) (·.set u) d.campaignFlights }
  | insertPlacement {p : CampaignPlacement} (fresh : p.id ∉ d.campaignPlacements.map (·.id)) :
      Flushed now d (.insertPlacement p)
        { d with campaignPlacements := d.campaignPlacements ++ [p] }
  | updatePlacement (p : CampaignPlacement) (u : PlacementChanges) :
      Flushed now d (.updatePlacement p u) { d.touchCampaign p.campaignId now with
        campaignPlacements := Rows.updateWhere (·.id = p.id) (·.set u) d.campaignPlacements }
  | insertCreative (a : CreativeAsset) (l : CampaignCreative) :
      Flushed now d (.insertCreative a l) { d with
        creativeAssets := d.creativeAssets ++ [a]
        campaignCreatives := d.campaignCreatives ++ [l] }
  | insertLink (l : CampaignCreative) :
      Flushed now d (.insertLink l) { d with campaignCreatives := d.campaignCreatives ++ [l] }

theorem ok_of_toOption {ε α : Type} {x : Except ε α} {a : α} (h : x.toOption = some a) :
    x = .ok a := by
  cases x with
  | error e => cases h
  | ok b => exact congrArg _ (Option.some.inj h)

theorem apply_flushed {w : ContentWrite} {now : Int} {d d' : Db}
    (h : w.apply now d = .ok d') : Flushed now d w d' := by
  cases w with
  | insertFlight f =>
      obtain ⟨_, -, hinsert⟩ := bind_ok h
      split at hinsert
      · cases hinsert
      · cases hinsert
        exact .insertFlight ‹_›
  | updateFlight f u =>
      obtain ⟨_, -, hupdate⟩ := bind_ok h
      cases hupdate
      exact .updateFlight f u
  | insertPlacement p =>
      obtain ⟨_, -, hinsert⟩ := bind_ok h
      split at hinsert
      · cases hinsert
      · cases hinsert
        exact .insertPlacement ‹_›
  | updatePlacement p u =>
      obtain ⟨_, -, hupdate⟩ := bind_ok h
      cases hupdate
      exact .updatePlacement p u
  | insertCreative a l =>
      obtain ⟨stored, hstored, hlink⟩ := bind_ok h
      obtain ⟨-, rfl⟩ := insertAsset_ok hstored
      rw [insertLink_ok hlink]
      exact .insertCreative a l
  | insertLink l =>
      rw [insertLink_ok h]
      exact .insertLink l

section Flush

variable {now : Int} {d d' : Db} {w : ContentWrite} (h : Flushed now d w d')

include h

theorem Flushed.campaigns :
    d'.campaigns.map (fun c ↦ (c.id, c.status)) = d.campaigns.map fun c ↦ (c.id, c.status) := by
  have htouch (id : String) : (d.touchCampaign id now).campaigns.map (fun c ↦ (c.id, c.status)) =
      d.campaigns.map fun c ↦ (c.id, c.status) :=
    Rows.map_updateWhere (f := fun c : Campaign ↦ { c with updatedAt := now })
      (fun c ↦ (c.id, c.status)) (fun _ ↦ rfl) d.campaigns
  cases h with
  | updateFlight f u => exact htouch f.campaignId
  | updatePlacement p u => exact htouch p.campaignId
  | _ => rfl

theorem Flushed.statusOf (id : String) : d'.statusOf id = d.statusOf id := by
  have hget (e : Db) : e.statusOf id =
      ((e.campaigns.map fun c ↦ (c.id, c.status)).find? (fun r ↦ r.1 = id)).map (·.2) := by
    unfold Db.statusOf Db.campaign Rows.get
    rw [List.find?_map, Option.map_map]
    rfl
  rw [hget, hget, h.campaigns]

theorem Flushed.keys (hkeys : ContentKeys d) : ContentKeys d' := by
  cases h with
  | insertFlight fresh =>
      refine ⟨?_, hkeys.placements⟩
      rw [List.map_append]
      exact Rows.nodup_concat hkeys.flights fresh
  | updateFlight f u =>
      refine ⟨?_, hkeys.placements⟩
      rw [Rows.map_updateWhere (f := (·.set u)) (·.id) (fun _ ↦ rfl) d.campaignFlights]
      exact hkeys.flights
  | insertPlacement fresh =>
      refine ⟨hkeys.flights, ?_⟩
      rw [List.map_append]
      exact Rows.nodup_concat hkeys.placements fresh
  | updatePlacement p u =>
      refine ⟨hkeys.flights, ?_⟩
      rw [Rows.map_updateWhere (f := (·.set u)) (·.id) (fun _ ↦ rfl) d.campaignPlacements]
      exact hkeys.placements
  | insertCreative a l => exact ⟨hkeys.flights, hkeys.placements⟩
  | insertLink l => exact ⟨hkeys.flights, hkeys.placements⟩

/-- A row once found keeps its campaign. -/
theorem Flushed.flightOwner {id owner : String} (howner : d.flightOwner id = some owner) :
    d'.flightOwner id = some owner := by
  cases h with
  | insertFlight fresh =>
      obtain ⟨f, hf, hfo⟩ := Option.map_eq_some_iff.1 howner
      unfold Db.flightOwner
      rw [Rows.get_append, hf]
      exact congrArg some hfo
  | updateFlight f u =>
      unfold Db.flightOwner
      have hget := Rows.get_updateWhere (k := id) (p := fun g : CampaignFlight ↦ g.id = f.id)
        (f := (·.set u)) (fun g ↦ (rfl : CampaignFlight.id (g.set u) = g.id)) d.campaignFlights
      rw [hget, Option.map_map, ← howner]
      congr 1
      funext g
      dsimp only [Function.comp]
      split
      · rfl
      · rfl
  | _ => exact howner

theorem Flushed.placementOwner {id owner : String} (howner : d.placementOwner id = some owner) :
    d'.placementOwner id = some owner := by
  cases h with
  | insertPlacement fresh =>
      obtain ⟨p, hp, hpo⟩ := Option.map_eq_some_iff.1 howner
      unfold Db.placementOwner
      rw [Rows.get_append, hp]
      exact congrArg some hpo
  | updatePlacement p u =>
      unfold Db.placementOwner
      have hget := Rows.get_updateWhere (k := id) (p := fun q : CampaignPlacement ↦ q.id = p.id)
        (f := (·.set u)) (fun q ↦ (rfl : CampaignPlacement.id (q.set u) = q.id))
        d.campaignPlacements
      rw [hget, Option.map_map, ← howner]
      congr 1
      funext q
      dsimp only [Function.comp]
      split
      · rfl
      · rfl
  | _ => exact howner

theorem Flushed.owned {v : ContentWrite} (howned : v.Owned d) : v.Owned d' := by
  cases v with
  | updateFlight f u => exact h.flightOwner howned
  | updatePlacement p u => exact h.placementOwner howned
  | _ => trivial

/-- Other campaigns keep their content. -/
theorem Flushed.content_other (hkeys : ContentKeys d) (howned : w.Owned d) {id : String}
    (hid : id ≠ w.campaignId) : d'.content id = d.content id := by
  cases h with
  | insertFlight fresh =>
      have hkept := (Rows.ownedBy_concat_iff (·.campaignId) (l := d.campaignFlights)).2 hid.symm
      exact congrArg (fun l ↦ (⟨l, _, _⟩ : Content)) hkept
  | updateFlight f u =>
      have hkept := Rows.ownedBy_update_other (f := (·.set u)) hkeys.flights howned
        (fun _ ↦ rfl) hid
      exact congrArg (fun l ↦ (⟨l, _, _⟩ : Content)) hkept
  | insertPlacement fresh =>
      have hkept := (Rows.ownedBy_concat_iff (·.campaignId) (l := d.campaignPlacements)).2
        hid.symm
      exact congrArg (fun l ↦ (⟨_, l, _⟩ : Content)) hkept
  | updatePlacement p u =>
      have hkept := Rows.ownedBy_update_other (f := (·.set u)) hkeys.placements howned
        (fun _ ↦ rfl) hid
      exact congrArg (fun l ↦ (⟨_, l, _⟩ : Content)) hkept
  | insertCreative a l =>
      have hkept := (Rows.ownedBy_concat_iff (·.campaignId) (l := d.campaignCreatives)).2
        hid.symm
      exact congrArg (fun l ↦ (⟨_, _, l⟩ : Content)) hkept
  | insertLink l =>
      have hkept := (Rows.ownedBy_concat_iff (·.campaignId) (l := d.campaignCreatives)).2
        hid.symm
      exact congrArg (fun l ↦ (⟨_, _, l⟩ : Content)) hkept

/-- The campaign of the edit keeps its content only under an idle update. -/
theorem Flushed.content_iff (hkeys : ContentKeys d) (howned : w.Owned d) :
    d'.content w.campaignId = d.content w.campaignId ↔ w.Idle d := by
  cases h with
  | insertFlight fresh =>
      refine iff_of_false (fun hsame ↦ ?_) not_false
      have hother := (Rows.ownedBy_concat_iff (·.campaignId) (l := d.campaignFlights)).1
        (congrArg Content.flights hsame)
      exact hother rfl
  | updateFlight f u =>
      have hkept := Rows.ownedBy_update_iff (f := (·.set u)) hkeys.flights howned (fun _ ↦ rfl)
      refine Iff.trans ?_ hkept
      exact ⟨congrArg Content.flights, congrArg fun l ↦ (⟨l, _, _⟩ : Content)⟩
  | insertPlacement fresh =>
      refine iff_of_false (fun hsame ↦ ?_) not_false
      have hother := (Rows.ownedBy_concat_iff (·.campaignId) (l := d.campaignPlacements)).1
        (congrArg Content.placements hsame)
      exact hother rfl
  | updatePlacement p u =>
      have hkept := Rows.ownedBy_update_iff (f := (·.set u)) hkeys.placements howned (fun _ ↦ rfl)
      refine Iff.trans ?_ hkept
      exact ⟨congrArg Content.placements, congrArg fun l ↦ (⟨_, l, _⟩ : Content)⟩
  | insertCreative a l =>
      refine iff_of_false (fun hsame ↦ ?_) not_false
      have hother := (Rows.ownedBy_concat_iff (·.campaignId) (l := d.campaignCreatives)).1
        (congrArg Content.creatives hsame)
      exact hother rfl
  | insertLink l =>
      refine iff_of_false (fun hsame ↦ ?_) not_false
      have hother := (Rows.ownedBy_concat_iff (·.campaignId) (l := d.campaignCreatives)).1
        (congrArg Content.creatives hsame)
      exact hother rfl

end Flush

/-! ## What a request's commit does -/

section Write

variable (x : TransitionTx) (c : Campaign) (p : Preparation) (d : Db)

theorem write_content (id : String) : (x.write c p d).content id = d.content id := by
  obtain ⟨_, _, _, happly⟩ := p.only d
  unfold TransitionTx.write
  rw [happly]
  rfl

theorem write_flightOwner (id : String) :
    (x.write c p d).flightOwner id = d.flightOwner id := by
  obtain ⟨_, _, _, happly⟩ := p.only d
  unfold TransitionTx.write
  rw [happly]
  rfl

theorem write_placementOwner (id : String) :
    (x.write c p d).placementOwner id = d.placementOwner id := by
  obtain ⟨_, _, _, happly⟩ := p.only d
  unfold TransitionTx.write
  rw [happly]
  rfl

theorem write_contentKeys {d : Db} (h : ContentKeys d) : ContentKeys (x.write c p d) := by
  obtain ⟨_, _, _, happly⟩ := p.only d
  unfold TransitionTx.write
  rw [happly]
  exact ⟨h.flights, h.placements⟩

end Write

/-! ## Edits and requests together -/

/-- What the commit of a request adds to the record. -/
def TransitionTx.moved (x : TransitionTx) (d : Db) : List PendingMove :=
  match x.phase with
  | .updated c p => [{ campaignId := c.id, content := d.content c.id, answers := p.answers }]
  | _ => []

abbrev FreezeTx := TransitionTx ⊕ EditTx

def freezeStmt : FreezeTx → Stmt String FreezeDb FreezeTx
  | .inl x => (transitionStmt x).within (·.db)
      (fun d db ↦ { db := db, moves := d.moves ++ x.moved d.db }) .inl
  | .inr e => (editStmt e).within (·.db) (fun d db ↦ { d with db := db }) .inr

/-- What the edit writes next. -/
def EditTx.flushing (e : EditTx) : Option ContentWrite :=
  match e.phase with
  | .flushed w => some w
  | _ => none

def TransitionTx.preparing (x : TransitionTx) : Option (Campaign × Preparation) :=
  match x.phase with
  | .updated c p => some (c, p)
  | _ => none

/-- The condition on commits: a request finds the content that its queries were answered from,
and an edit finds its campaign still in draft, or sets nothing new. -/
def KeepsFreeze (d : FreezeDb) : FreezeTx → Prop
  | .inl x => ∀ r ∈ x.preparing, r.2.answers.Describes (d.db.content r.1.id)
  | .inr e => ∀ w ∈ e.flushing, (w.apply e.now d.db).isOk = true →
      d.db.statusOf w.campaignId = some .draft ∨ w.Idle d.db

instance (d : FreezeDb) : (x : FreezeTx) → Decidable (KeepsFreeze d x)
  | .inl x => inferInstanceAs (Decidable (∀ r ∈ x.preparing, _))
  | .inr e => inferInstanceAs (Decidable (∀ w ∈ e.flushing, _))

structure FreezeDb.Valid (d : FreezeDb) : Prop where
  keys : ContentKeys d.db
  moved : ∀ m ∈ d.moves, d.db.statusOf m.campaignId ≠ some .draft

/-- The campaign has been seen in draft, and can have left it only by a recorded move. -/
def FreezeDb.Checked (d : FreezeDb) (campaignId : String) : Prop :=
  d.db.statusOf campaignId = some .draft ∨ ∃ m ∈ d.moves, m.campaignId = campaignId

def EditPhase.Sound (d : FreezeDb) : EditPhase → Prop
  | .ofFlight f _ => d.db.flightOwner f.id = some f.campaignId
  | .ofPlacement p _ => d.db.placementOwner p.id = some p.campaignId
  | .attaching _ l => d.Checked l.campaignId
  | .linking l => d.Checked l.campaignId
  | .allowed w => d.Checked w.campaignId ∧ w.Owned d.db
  | .flushed w => d.Checked w.campaignId ∧ w.Owned d.db
  | _ => True

def FreezeTx.Sound (d : FreezeDb) : FreezeTx → Prop
  | .inl x => x.op.target = .pendingApproval
  | .inr e => e.phase.Sound d

/-- No assertion needs a lock. -/
def freezeOutline (τ : Type*) : Outline τ String FreezeDb FreezeTx where
  inv := FreezeDb.Valid
  sound d _ a := FreezeTx.Sound d a
  relies _ _ := False
  guard _ _ := True

/-! ## The statements of an edit -/

theorem inDraft_sound {d : FreezeDb} {campaignId : String} {k : Campaign → EditPhase}
    (hk : ∀ c, d.Checked campaignId → (k c).Sound d) :
    (EditTx.inDraft d.db campaignId k).Sound d := by
  unfold EditTx.inDraft
  cases hc : d.db.campaign campaignId with
  | none => trivial
  | some c =>
      dsimp only
      split
      · trivial
      · rename_i hdraft
        apply hk c
        refine .inl ?_
        unfold Db.statusOf
        rw [hc]
        exact congrArg some (not_not.1 hdraft)

theorem checked_sound {d : FreezeDb} {checks : Except MutationError Unit} {next : EditPhase}
    (h : next.Sound d) : (EditPhase.checked checks next).Sound d := by
  cases checks with
  | error e => trivial
  | ok _ => exact h

theorem inDraftAndScope_sound (e : EditTx) {d : FreezeDb} {w : ContentWrite}
    (howned : w.Owned d.db) : (e.inDraftAndScope d.db w).Sound d :=
  inDraft_sound fun _ hchecked ↦ checked_sound ⟨hchecked, howned⟩

theorem select_edit_sound (e : EditTx) (d : FreezeDb) : (e.select d.db).Sound d := by
  unfold EditTx.select
  cases e.edit with
  | createCampaignFlight flightId campaignId values => exact inDraftAndScope_sound e trivial
  | createCampaignPlacement placementId campaignId values => exact inDraftAndScope_sound e trivial
  | updateCampaignFlight flightId changes =>
      dsimp only
      cases hf : Rows.get CampaignFlight.id flightId d.db.campaignFlights with
      | none => trivial
      | some f =>
          show d.db.flightOwner f.id = some f.campaignId
          unfold Db.flightOwner
          rw [Rows.get_key hf, hf]
          rfl
  | updateCampaignPlacement placementId changes =>
      dsimp only
      cases hp : Rows.get CampaignPlacement.id placementId d.db.campaignPlacements with
      | none => trivial
      | some p =>
          show d.db.placementOwner p.id = some p.campaignId
          unfold Db.placementOwner
          rw [Rows.get_key hp, hp]
          rfl
  | createCampaignCreative assetId n =>
      exact inDraft_sound fun _ hchecked ↦ checked_sound ⟨hchecked, trivial⟩
  | attachCreativeToCampaign campaignId creativeAssetId sortOrder =>
      exact inDraft_sound fun _ hchecked ↦ hchecked

theorem selectAsset_sound (e : EditTx) {d : FreezeDb} (organizationId : String)
    {l : CampaignCreative} (h : d.Checked l.campaignId) :
    (e.selectAsset organizationId l d.db).Sound d := by
  unfold EditTx.selectAsset
  cases d.db.assetOwner l.creativeAssetId with
  | none => trivial
  | some owner => exact checked_sound h

theorem selectLink_sound {d : FreezeDb} {l : CampaignCreative} (h : d.Checked l.campaignId) :
    (EditTx.selectLink l d.db).Sound d := by
  unfold EditTx.selectLink
  split
  · trivial
  · exact ⟨h, trivial⟩

/-! ## Commits -/

/-- A commit that keeps owners and recorded checks disturbs no edit. -/
theorem EditPhase.Sound.mono {d d' : FreezeDb} (hchecked : ∀ id, d.Checked id → d'.Checked id)
    (howned : ∀ w : ContentWrite, w.Owned d.db → w.Owned d'.db) {phase : EditPhase}
    (h : phase.Sound d) : phase.Sound d' := by
  cases phase with
  | ofFlight f u => exact howned (.updateFlight f u) h
  | ofPlacement p u => exact howned (.updatePlacement p u) h
  | attaching organizationId l => exact hchecked _ h
  | linking l => exact hchecked _ h
  | allowed w => exact ⟨hchecked _ h.1, howned w h.2⟩
  | flushed w => exact ⟨hchecked _ h.1, howned w h.2⟩
  | start => trivial
  | returning r => trivial

theorem FreezeTx.Sound.mono {d d' : FreezeDb} (hchecked : ∀ id, d.Checked id → d'.Checked id)
    (howned : ∀ w : ContentWrite, w.Owned d.db → w.Owned d'.db) {a : FreezeTx}
    (h : a.Sound d) : a.Sound d' := by
  cases a with
  | inl x => exact h
  | inr e => exact EditPhase.Sound.mono hchecked howned h

section Flush

variable {now : Int} {d : FreezeDb} {db : Db} {w : ContentWrite} (h : Flushed now d.db w db)

include h

theorem Flushed.valid (hvalid : d.Valid) : FreezeDb.Valid { d with db := db } where
  keys := h.keys hvalid.keys
  moved m hm := by
    show db.statusOf m.campaignId ≠ some .draft
    rw [h.statusOf]
    exact hvalid.moved m hm

theorem Flushed.sound {a : FreezeTx} (ha : a.Sound d) : a.Sound { d with db := db } := by
  refine FreezeTx.Sound.mono (fun id hid ↦ ?_) (fun v hv ↦ h.owned hv) ha
  unfold FreezeDb.Checked
  rw [h.statusOf]
  exact hid

end Flush

section Request

variable {x : TransitionTx} {c : Campaign} {p : Preparation} {d : FreezeDb}

/-- The tables and the record after the commit of a request. -/
def FreezeDb.moveTo (d : FreezeDb) (x : TransitionTx) (c : Campaign) (p : Preparation) :
    FreezeDb where
  db := x.write c p d.db
  moves := d.moves ++
    [{ campaignId := c.id, content := d.db.content c.id, answers := p.answers }]

variable (htarget : x.op.target = .pendingApproval)

include htarget

theorem move_valid (h : d.Valid) : (d.moveTo x c p).Valid := by
  refine ⟨write_contentKeys x c p h.keys, fun m hm ↦ ?_⟩
  show (x.write c p d.db).statusOf m.campaignId ≠ some .draft
  rw [write_status, htarget]
  intro hdraft
  obtain ⟨status, hstatus, hnew⟩ := Option.map_eq_some_iff.1 hdraft
  by_cases hid : m.campaignId = c.id
  · rw [if_pos hid] at hnew
    cases hnew
  · rw [if_neg hid] at hnew
    rcases List.mem_append.1 hm with hm | hm
    · exact h.moved m hm (hstatus.trans (congrArg some hnew))
    · exact hid (List.mem_singleton.1 hm ▸ rfl)

omit htarget

theorem move_sound {a : FreezeTx} (h : a.Sound d) : a.Sound (d.moveTo x c p) := by
  refine FreezeTx.Sound.mono (fun id hid ↦ ?_) (fun w hw ↦ ?_) h
  · by_cases hc : id = c.id
    · exact .inr ⟨_, List.mem_append_right _ (List.mem_singleton_self _), hc.symm⟩
    · rcases hid with hdraft | ⟨m, hm, hmid⟩
      · refine .inl ?_
        show (x.write c p d.db).statusOf id = some .draft
        rw [write_status, hdraft, Option.map_some, if_neg hc]
      · exact .inr ⟨m, List.mem_append_left _ hm, hmid⟩
  · cases w with
    | updateFlight f u => exact (write_flightOwner x c p d.db f.id).trans hw
    | updatePlacement q u => exact (write_placementOwner x c p d.db q.id).trans hw
    | _ => trivial

end Request

/-! ## The content after a commit -/

/-- A request keeps the content frozen if the campaign is what its queries have seen. -/
theorem frozen_moveTo {x : TransitionTx} {c : Campaign} {p : Preparation} {d : FreezeDb}
    (h : Frozen d) : Frozen (d.moveTo x c p) ↔ p.answers.Describes (d.db.content c.id) := by
  constructor
  · intro hnext
    exact (hnext _ (List.mem_append_right _ (List.mem_singleton_self _))).2
  · intro hdescribes m hm
    show (x.write c p d.db).content m.campaignId = m.content ∧ _
    rw [write_content]
    rcases List.mem_append.1 hm with hm | hm
    · exact h m hm
    · rw [List.mem_singleton.1 hm]
      exact ⟨rfl, hdescribes⟩

theorem Flushed.frozen_iff {now : Int} {d : FreezeDb} {db : Db} {w : ContentWrite}
    (h : Flushed now d.db w db) (hvalid : d.Valid) (hchecked : d.Checked w.campaignId)
    (howned : w.Owned d.db) (hfrozen : Frozen d) :
    Frozen { d with db := db } ↔
      d.db.statusOf w.campaignId = some .draft ∨ w.Idle d.db := by
  rw [← h.content_iff hvalid.keys howned]
  constructor
  · intro hnext
    rcases hchecked with hdraft | ⟨m, hm, hid⟩
    · exact .inl hdraft
    · refine .inr ?_
      rw [← hid]
      exact (hnext m hm).1.trans (hfrozen m hm).1.symm
  · intro hdraft m hm
    refine ⟨?_, (hfrozen m hm).2⟩
    show db.content m.campaignId = m.content
    rw [← (hfrozen m hm).1]
    by_cases hid : m.campaignId = w.campaignId
    · have hleft := hvalid.moved m hm
      rw [hid] at hleft ⊢
      -- a campaign with a recorded move has left draft
      exact hdraft.resolve_left hleft
    · exact h.content_other hvalid.keys howned hid

/-! ## One statement -/

theorem editStmt_keeps (τ : Type*) (e : EditTx) :
    (freezeOutline τ).Keeps (.inr e) (freezeStmt (.inr e)) := by
  obtain ⟨now, scope, edit, phase⟩ := e
  cases phase with
  | start => exact fun d _ _ _ _ ↦ ⟨select_edit_sound _ d, fun _ h ↦ h⟩
  | ofFlight f u => exact fun d _ _ h _ ↦ ⟨inDraftAndScope_sound _ h, fun _ h ↦ h⟩
  | ofPlacement p u => exact fun d _ _ h _ ↦ ⟨inDraftAndScope_sound _ h, fun _ h ↦ h⟩
  | attaching organizationId l =>
      exact fun d _ _ h _ ↦ ⟨selectAsset_sound _ organizationId h, fun _ h ↦ h⟩
  | linking l => exact fun d _ _ h _ ↦ ⟨selectLink_sound h, fun _ h ↦ h⟩
  | allowed w =>
      unfold freezeStmt editStmt
      dsimp only
      split
      · exact fun d _ _ h _ ↦ ⟨h, fun _ h ↦ h.elim⟩
      · exact fun d _ _ h _ ↦ ⟨h, fun _ h ↦ h⟩
  | flushed w =>
      intro d d' t hvalid _ _ hcommit
      obtain ⟨db, hdb, rfl⟩ := Option.map_eq_some_iff.1 hcommit
      have hflushed : Flushed now d.db w db := apply_flushed (ok_of_toOption hdb)
      exact ⟨hflushed.valid hvalid, fun _ _ _ hb _ ↦ hflushed.sound hb⟩
  | returning r =>
      rintro d d' t hvalid - - ⟨⟩
      exact ⟨hvalid, fun _ _ _ hb _ ↦ hb⟩

theorem requestStmt_keeps (τ : Type*) (x : TransitionTx) :
    (freezeOutline τ).Keeps (.inl x) (freezeStmt (.inl x)) := by
  obtain ⟨campaignId, actor, now, scope, op, phase⟩ := x
  cases phase with
  | start =>
      unfold freezeStmt transitionStmt
      dsimp only
      split
      · exact fun d _ _ h _ ↦ ⟨h, fun _ h ↦ h.elim⟩
      · exact fun d _ _ h _ ↦ ⟨h, fun _ h ↦ h⟩
  | reading c reads =>
      cases reads with
      | read k => exact fun d _ _ h _ ↦ ⟨h, fun _ h ↦ h⟩
      | done outcome =>
          cases outcome with
          | error r => exact fun d _ _ h _ ↦ ⟨h, fun _ h ↦ h⟩
          | ok p => exact fun d _ _ h _ ↦ ⟨h, fun _ h ↦ h.elim⟩
  | updated c p =>
      rintro d d' t hvalid htarget - ⟨⟩
      exact ⟨move_valid htarget hvalid, fun _ _ _ hb _ ↦ move_sound hb⟩
  | returning r =>
      rintro d d' t hvalid - - ⟨⟩
      have hsame : (⟨d.db, d.moves ++ []⟩ : FreezeDb) = d := by rw [List.append_nil]
      show FreezeDb.Valid ⟨d.db, d.moves ++ []⟩ ∧ ∀ u b, u ≠ t → FreezeTx.Sound d b → _ →
        FreezeTx.Sound ⟨d.db, d.moves ++ []⟩ b
      rw [hsame]
      exact ⟨hvalid, fun _ _ _ hb _ ↦ hb⟩

theorem freezeOutline_proves (τ : Type*) : (freezeOutline τ).Proves freezeStmt
  | .inl x => requestStmt_keeps τ x
  | .inr e => editStmt_keeps τ e

/-! ## Every interleaving -/

section Interleavings

variable {τ : Type*}

/-- Requests and edits that have not run a statement yet. -/
structure Editing (s : System τ String FreezeDb FreezeTx) : Prop where
  keys : ContentKeys s.data.db
  unmoved : s.data.moves = []
  requests : ∀ t x, s.tx t = some (.inl x) →
    x.phase = .start ∧ ∃ calls, x.op = .requestApproval calls
  edits : ∀ t e, s.tx t = some (.inr e) → e.phase = .start

theorem Editing.holds {s : System τ String FreezeDb FreezeTx} (h : Editing s) :
    (freezeOutline τ).Holds s := by
  refine ⟨⟨h.keys, fun m hm ↦ ?_⟩, fun t a ha ↦ ?_, fun _ _ _ _ hrow ↦ hrow.elim⟩
  · rw [h.unmoved] at hm
    cases hm
  · cases a with
    | inl x =>
        obtain ⟨-, calls, hop⟩ := h.requests t x ha
        show x.op.target = .pendingApproval
        rw [hop]
        rfl
    | inr e =>
        show e.phase.Sound s.data
        rw [h.edits t e ha]
        trivial

variable [DecidableEq τ]

/-- Every commit meets its condition. -/
def CommitsFreeze (s : System τ String FreezeDb FreezeTx) (label : τ × Interleaving.Move) : Prop :=
  ∀ a ∈ s.tx label.1, label.2 = .advance → KeepsFreeze s.data a

instance (s : System τ String FreezeDb FreezeTx) (label : τ × Interleaving.Move) :
    Decidable (CommitsFreeze s label) :=
  inferInstanceAs (Decidable (∀ a ∈ s.tx label.1, label.2 = .advance → KeepsFreeze s.data a))

theorem editStmt_commit {e : EditTx} {w : Db → Option Db} (h : editStmt e = .commit w) :
    (∃ r, e.phase = .returning r ∧ w = some) ∨
      ∃ v, e.phase = .flushed v ∧ w = fun d ↦ (v.apply e.now d).toOption := by
  unfold editStmt at h
  cases hphase : e.phase with
  | flushed v =>
      rw [hphase] at h
      exact .inr ⟨v, rfl, (Stmt.commit.inj h).symm⟩
  | returning r =>
      rw [hphase] at h
      exact .inl ⟨r, rfl, (Stmt.commit.inj h).symm⟩
  | allowed v =>
      rw [hphase] at h
      dsimp only at h
      split at h
      · cases h
      · cases h
  | _ =>
      rw [hphase] at h
      cases h

theorem keepsFreeze_of_not_updated {x : TransitionTx} (h : ∀ c p, x.phase ≠ .updated c p)
    (d : FreezeDb) : KeepsFreeze d (.inl x) := by
  show ∀ r ∈ x.preparing, _
  unfold TransitionTx.preparing
  cases hphase : x.phase with
  | updated c p => exact absurd hphase (h c p)
  | _ => exact fun _ hr ↦ by cases hr

theorem keepsFreeze_of_not_flushed {e : EditTx} (h : ∀ w, e.phase ≠ .flushed w) (d : FreezeDb) :
    KeepsFreeze d (.inr e) := by
  show ∀ w ∈ e.flushing, _
  unfold EditTx.flushing
  cases hphase : e.phase with
  | flushed w => exact absurd hphase (h w)
  | _ => exact fun _ hw ↦ by cases hw

section Step

variable {s : System τ String FreezeDb FreezeTx} {label : τ × Interleaving.Move}

omit [DecidableEq τ] in
/-- A request that is about to commit does commit, and so does an edit whose flush is accepted. -/
theorem commitsFreeze_of_no_commit (hnone : commitOf freezeStmt s label = none) :
    CommitsFreeze s label := by
  intro a ha hmove
  cases a with
  | inl x =>
      refine keepsFreeze_of_not_updated (fun c p hphase ↦ ?_) s.data
      have hcommit : freezeStmt (.inl x) =
          (Stmt.commit fun d ↦ some (x.write c p d)).within (·.db)
            (fun d db ↦ { db := db, moves := d.moves ++ x.moved d.db }) .inl := by
        have hstmt : transitionStmt x = .commit fun d ↦ some (x.write c p d) := by
          unfold transitionStmt
          rw [hphase]
        dsimp only [freezeStmt]
        rw [hstmt]
      cases commitOf_none hnone ha hmove hcommit
  | inr e =>
      show ∀ w ∈ e.flushing, _
      unfold EditTx.flushing
      cases hphase : e.phase with
      | flushed v =>
          intro w hw hok
          cases hw
          have hcommit : freezeStmt (.inr e) =
              (Stmt.commit fun d ↦ (v.apply e.now d).toOption).within (·.db)
                (fun d db ↦ { d with db := db }) .inr := by
            have hstmt : editStmt e = .commit fun d ↦ (v.apply e.now d).toOption := by
              unfold editStmt
              rw [hphase]
            dsimp only [freezeStmt]
            rw [hstmt]
          have hfailed := commitOf_none hnone ha hmove hcommit
          cases happly : v.apply e.now s.data.db with
          | error err =>
              rw [happly] at hok
              cases hok
          | ok db =>
              dsimp only at hfailed
              rw [happly] at hfailed
              cases hfailed
      | _ => exact fun _ hv ↦ by cases hv

omit [DecidableEq τ] in
theorem commitsFreeze_request {x : TransitionTx} {c : Campaign} {p : Preparation}
    (hx : s.tx label.1 = some (.inl x)) (hmove : label.2 = .advance)
    (hphase : x.phase = .updated c p) :
    CommitsFreeze s label ↔ p.answers.Describes (s.data.db.content c.id) := by
  have hpreparing : x.preparing = some (c, p) := by
    unfold TransitionTx.preparing
    rw [hphase]
  constructor
  · intro hall
    exact hall (.inl x) hx hmove (c, p) hpreparing
  · intro hdescribes a ha _
    rw [hx] at ha
    cases ha
    intro r hr
    rw [hpreparing] at hr
    cases hr
    exact hdescribes

omit [DecidableEq τ] in
theorem commitsFreeze_edit {e : EditTx} {w : ContentWrite} {db : Db}
    (he : s.tx label.1 = some (.inr e)) (hmove : label.2 = .advance)
    (hphase : e.phase = .flushed w) (happly : w.apply e.now s.data.db = .ok db) :
    CommitsFreeze s label ↔
      s.data.db.statusOf w.campaignId = some .draft ∨ w.Idle s.data.db := by
  have hflushing : e.flushing = some w := by
    unfold EditTx.flushing
    rw [hphase]
  constructor
  · intro hall
    apply hall (.inr e) he hmove w hflushing
    rw [happly]
    rfl
  · intro hdraft a ha _
    rw [he] at ha
    cases ha
    intro v hv _
    rw [hflushing] at hv
    cases hv
    exact hdraft

end Step

/-- A step that changes the tables is the commit of a request or the flush of an edit. -/
theorem freeze_step (s : System τ String FreezeDb FreezeTx) (label : τ × Interleaving.Move) :
    (∃ x c p, s.tx label.1 = some (.inl x) ∧ label.2 = .advance ∧ x.phase = .updated c p ∧
      (next freezeStmt s label).data = s.data.moveTo x c p) ∨
    (∃ e w db, s.tx label.1 = some (.inr e) ∧ label.2 = .advance ∧ e.phase = .flushed w ∧
      w.apply e.now s.data.db = .ok db ∧
      (next freezeStmt s label).data = { s.data with db := db }) ∨
    (CommitsFreeze s label ∧ (next freezeStmt s label).data = s.data) := by
  rcases next_commit_or s label with ⟨a, w, d, -, ha, hmove, hprog, hw, hnext⟩ | ⟨hnone, hdata⟩
  · rw [hnext]
    cases a with
    | inl x =>
        obtain ⟨write, hstmt, rfl⟩ := Stmt.within_commit hprog
        rcases transitionStmt_commit hstmt with ⟨r, hphase, rfl⟩ | ⟨c, p, hphase, rfl⟩
        · -- a request that returns records no move
          refine .inr (.inr ⟨fun b hb _ ↦ ?_, ?_⟩)
          · rw [ha] at hb
            cases hb
            apply keepsFreeze_of_not_updated
            intro c p hupdated
            rw [hphase] at hupdated
            cases hupdated
          · cases hw
            show (⟨s.data.db, s.data.moves ++ x.moved s.data.db⟩ : FreezeDb) = s.data
            unfold TransitionTx.moved
            rw [hphase]
            simp
        · refine .inl ⟨x, c, p, ha, hmove, hphase, ?_⟩
          cases hw
          show (⟨x.write c p s.data.db, s.data.moves ++ x.moved s.data.db⟩ : FreezeDb) = _
          unfold TransitionTx.moved
          rw [hphase]
          rfl
    | inr e =>
        obtain ⟨write, hstmt, rfl⟩ := Stmt.within_commit hprog
        rcases editStmt_commit hstmt with ⟨r, hphase, rfl⟩ | ⟨v, hphase, rfl⟩
        · refine .inr (.inr ⟨fun b hb _ ↦ ?_, ?_⟩)
          · rw [ha] at hb
            cases hb
            apply keepsFreeze_of_not_flushed
            intro w hflushed
            rw [hphase] at hflushed
            cases hflushed
          · cases hw
            rfl
        · obtain ⟨db, hdb, rfl⟩ := Option.map_eq_some_iff.1 hw
          exact .inr (.inl ⟨e, v, db, ha, hmove, hphase, ok_of_toOption hdb, rfl⟩)
  · exact .inr (.inr ⟨commitsFreeze_of_no_commit hnone, hdata⟩)

theorem next_frozen {s : System τ String FreezeDb FreezeTx} (h : (freezeOutline τ).Holds s)
    (hfrozen : Frozen s.data) (label : τ × Interleaving.Move) :
    Frozen (next freezeStmt s label).data ↔ CommitsFreeze s label := by
  rcases freeze_step s label with ⟨x, c, p, hx, hmove, hphase, hdata⟩ |
    ⟨e, w, db, he, hmove, hphase, happly, hdata⟩ | ⟨hcommits, hdata⟩
  · rw [hdata, commitsFreeze_request hx hmove hphase]
    exact frozen_moveTo hfrozen
  · have hflushed : Flushed e.now s.data.db w db := apply_flushed happly
    obtain ⟨hchecked, howned⟩ : s.data.Checked w.campaignId ∧ w.Owned s.data.db := by
      have hsound : e.phase.Sound s.data := h.tx label.1 (.inr e) he
      rw [hphase] at hsound
      exact hsound
    rw [hdata, commitsFreeze_edit he hmove hphase happly]
    exact hflushed.frozen_iff h.data hchecked howned hfrozen
  · rw [hdata]
    exact iff_of_true hfrozen hcommits

/-- In a run the content stays frozen exactly if all commits meet their conditions. -/
theorem frozen_iff_commits {s : System τ String FreezeDb FreezeTx} (hs : Editing s)
    (l : List (τ × Interleaving.Move)) :
    Run.Always (next freezeStmt) (fun s ↦ Frozen s.data) s l ↔
      Run.Guarded (next freezeStmt) CommitsFreeze s l := by
  have hfrozen : Frozen s.data := by
    intro m hm
    rw [hs.unmoved] at hm
    cases hm
  exact Run.always_iff_guarded (I := (freezeOutline τ).Holds) (A := fun _ ↦ True)
    (fun _ _ _ h ↦ (freezeOutline_proves τ).next h fun _ _ _ _ ↦ trivial)
    (fun _ label _ h hfrozen ↦ next_frozen h hfrozen label) (fun _ _ ↦ trivial) hs.holds hfrozen

end Interleavings

/-! A flight is added to a campaign that was a draft when it was checked. -/

def editedDb : Db where
  stores := [{ id := "st1", clusterId := "cl1", code := "ST-1" }]
  campaigns := [{
    id := "a", advertiserOrganizationId := "o1", advertiserContractId := "k1", code := "A" }]
  advertiserContracts := [{ id := "k1", advertiserOrganizationId := "o1", validFrom := 0 }]
  campaignFlights := [{ id := "f1", campaignId := "a", startAt := 10, endAt := 20 }]
  campaignPlacements := [{ id := "p1", campaignId := "a", storeId := some "st1" }]
  campaignCreatives := [{ campaignId := "a", creativeAssetId := "c1" }]
  creativeAssets := [{
    id := "c1", code := "C-1", mediaType := "video/mp4", storageKey := "creatives/c1"
    sha256Checksum := "0123456789abcdef0123456789abcdef0123456789abcdef0123456789abcdef"
    fileSizeBytes := 1000 }]

/-- There are no bookings to release, and no placement with a surface to reserve. -/
def requestAndFlight : System Bool String FreezeDb FreezeTx where
  data := { db := editedDb }
  holder _ := none
  tx
    | true => some (.inl { campaignId := "a", actor := "u", now := 1, op := .requestApproval {
        release := fun _ w ↦ w
        reserve := fun _ _ ↦ .ok fun w ↦ w } })
    | false => some (.inr { now := 1, edit := .createCampaignFlight "f2" "a" {
        startAt := 30, endAt := 40 } })

theorem requestAndFlight_editing : Editing requestAndFlight where
  keys := ⟨by decide, by decide⟩
  unmoved := rfl
  requests t x hx := by
    cases t with
    | true =>
        cases hx
        exact ⟨rfl, _, rfl⟩
    | false => cases hx
  edits t e he := by
    cases t with
    | true => cases he
    | false =>
        cases he
        rfl

/-- The flight's request reads the draft, the other transaction runs, then the flight is added. -/
theorem flight_added_after_request :
    ¬ ∀ (s : System Bool String FreezeDb FreezeTx) (l : List (Bool × Interleaving.Move)),
      Editing s → Run.Always (next freezeStmt) (fun s ↦ Frozen s.data) s l := by
  intro h
  have hlast := (h requestAndFlight ([(false, .advance)] ++ List.replicate 12 (true, .advance) ++
    List.replicate 2 (false, .advance)) requestAndFlight_editing).final
  revert hlast
  decide +kernel

/-- The flight is added before the request starts. -/
theorem flight_added_before_request :
    Run.Always (next freezeStmt) (fun s ↦ Frozen s.data) requestAndFlight
      (List.replicate 3 (false, .advance) ++ List.replicate 12 (true, .advance)) :=
  (frozen_iff_commits requestAndFlight_editing _).2 (by decide +kernel)

end RetailMedia
