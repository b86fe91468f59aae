import RetailMedia.Campaign.Mutations

/-! The rows that a campaign refers to: its contract, its brand and its creative assets, each of
one advertiser organization. -/

namespace RetailMedia

/-- Contract, brand and linked assets are the campaign's advertiser's own. -/
structure OwnReferences (db : Db) (c : Campaign) : Prop where
  contract : db.contractOwner c.advertiserContractId = some c.advertiserOrganizationId
  brand : ∀ b, c.advertiserBrandId = some b → db.brandOwner b = some c.advertiserOrganizationId
  creatives : ∀ l ∈ db.campaignCreatives, l.campaignId = c.id →
    db.assetOwner l.creativeAssetId = some c.advertiserOrganizationId

def ReferencesOwned (db : Db) : Prop := ∀ c ∈ db.campaigns, OwnReferences db c

/-- Campaign ids are unique, and links are of campaigns that exist. -/
structure CampaignKeys (db : Db) : Prop where
  unique : (db.campaigns.map (·.id)).Nodup
  linked : ∀ l ∈ db.campaignCreatives, l.campaignId ∈ db.campaigns.map (·.id)

/-! ## What a call does when it does not raise -/

theorem bind_ok {ε α β : Type} {x : Except ε α} {f : α → Except ε β} {b : β}
    (h : x >>= f = .ok b) : ∃ a, x = .ok a ∧ f a = .ok b := by
  cases x with
  | error e => cases h
  | ok a => exact ⟨a, rfl, h⟩

theorem validateOwner_ok {owner : Option String} {organizationId message : String} {u : Unit}
    (h : validateOwner owner organizationId message = .ok u) : owner = some organizationId := by
  unfold validateOwner at h
  split at h
  · assumption
  · cases h

theorem insertCampaign_ok {db db' : Db} {c : Campaign} (h : insertCampaign db c = .ok db') :
    c.id ∉ db.campaigns.map (·.id) ∧ db' = { db with campaigns := db.campaigns ++ [c] } := by
  unfold insertCampaign at h
  split at h
  · cases h
  · split at h
    · cases h
    · rename_i hid
      split at h
      · cases h
      · cases h
        exact ⟨hid, rfl⟩

theorem createCampaign_ok {db db' : Db} {now : Int} {newId createdBy id : String}
    {req : CampaignCreateRequest} {scope : Option (List String)}
    (h : createCampaign db now newId createdBy req scope = .ok (db', id)) :
    db.contractOwner req.advertiserContractId = some req.advertiserOrganizationId ∧
      (∀ b, req.advertiserBrandId = some b →
        db.brandOwner b = some req.advertiserOrganizationId) ∧
      newId ∉ db.campaigns.map (·.id) ∧
      ∃ history, db' = { db with
        campaigns := db.campaigns ++ [req.row newId createdBy now]
        campaignStatusHistory := history } := by
  unfold createCampaign at h
  obtain ⟨_, hcontract, h⟩ := bind_ok h
  have hbrand : ∀ b, req.advertiserBrandId = some b →
      db.brandOwner b = some req.advertiserOrganizationId := by
    intro b hb
    rw [hb] at h
    obtain ⟨_, hvalid, -⟩ := bind_ok h
    exact validateOwner_ok hvalid
  have hrest : ∃ inserted, insertCampaign db (req.row newId createdBy now) = .ok inserted ∧
      db' = { inserted with campaignStatusHistory := db'.campaignStatusHistory } := by
    cases hb : req.advertiserBrandId with
    | none =>
        rw [hb] at h
        obtain ⟨_, -, h⟩ := bind_ok h
        obtain ⟨inserted, hinsert, h⟩ := bind_ok h
        cases h
        exact ⟨inserted, hinsert, rfl⟩
    | some brandId =>
        rw [hb] at h
        obtain ⟨_, -, h⟩ := bind_ok h
        obtain ⟨_, -, h⟩ := bind_ok h
        obtain ⟨inserted, hinsert, h⟩ := bind_ok h
        cases h
        exact ⟨inserted, hinsert, rfl⟩
  obtain ⟨inserted, hinsert, hdb⟩ := hrest
  obtain ⟨hid, rfl⟩ := insertCampaign_ok hinsert
  exact ⟨validateOwner_ok hcontract, hbrand, hid, _, hdb⟩

/-- The update finds a draft in scope, and the columns that it sets are accepted. -/
def UpdateApplies (db : Db) (c : Campaign) (scope : Option (List String))
    (req : CampaignUpdateRequest) : Prop :=
  c.status = .draft ∧ inScope c.advertiserOrganizationId scope = true ∧
    flushUpdate db c req = .ok ()

def Campaign.updated (now : Int) (req : CampaignUpdateRequest) (c : Campaign) : Campaign :=
  { c.setFields req with updatedAt := now }

theorem updateCampaign_state (db : Db) (now : Int) (campaignId : String)
    (scope : Option (List String)) (req : CampaignUpdateRequest) :
    (∃ c, db.campaign campaignId = some c ∧ UpdateApplies db c scope req ∧
      committedState db (updateCampaign db now campaignId scope req) = { db with
        campaigns := Rows.updateWhere (·.id = campaignId) (·.updated now req) db.campaigns }) ∨
    ((∀ c, db.campaign campaignId = some c → ¬ UpdateApplies db c scope req) ∧
      committedState db (updateCampaign db now campaignId scope req) = db) := by
  unfold updateCampaign
  cases hc : db.campaign campaignId with
  | none => exact .inr ⟨fun _ h ↦ (Option.some_ne_none _ h.symm).elim, rfl⟩
  | some c =>
      dsimp only
      by_cases hstatus : c.status = .draft
      · rw [if_neg (not_not.2 hstatus)]
        unfold assertOrgInScope
        by_cases hscope : inScope c.advertiserOrganizationId scope = true
        · rw [if_pos hscope]
          cases hflush : flushUpdate db c req with
          | ok u => exact .inl ⟨c, rfl, ⟨hstatus, hscope, hflush⟩, rfl⟩
          | error e =>
              refine .inr ⟨?_, rfl⟩
              intro d hd happlies
              cases hd
              rw [happlies.2.2] at hflush
              cases hflush
        · rw [if_neg hscope]
          refine .inr ⟨?_, rfl⟩
          intro d hd happlies
          cases hd
          exact hscope happlies.2.1
      · rw [if_pos hstatus]
        refine .inr ⟨?_, rfl⟩
        intro d hd happlies
        cases hd
        exact hstatus happlies.1

theorem insertAsset_ok {db db' : Db} {a : CreativeAsset} (h : insertAsset db a = .ok db') :
    a.id ∉ db.creativeAssets.map (·.id) ∧
      db' = { db with creativeAssets := db.creativeAssets ++ [a] } := by
  unfold insertAsset at h
  split at h
  · cases h
  · split at h
    · cases h
    · rename_i hid
      split at h
      · cases h
      · cases h
        exact ⟨hid, rfl⟩

theorem insertLink_ok {db db' : Db} {l : CampaignCreative} (h : insertLink db l = .ok db') :
    db' = { db with campaignCreatives := db.campaignCreatives ++ [l] } := by
  unfold insertLink at h
  split at h
  · cases h
  · split at h
    · cases h
    · cases h
      rfl

theorem createCampaignCreative_ok {db db' : Db} {assetId : String} {n : NewCreative}
    {scope : Option (List String)} {r : Option String}
    (h : createCampaignCreative db assetId n scope = .ok (db', r)) :
    db' = db ∨ ∃ c, db.campaign n.campaignId = some c ∧
      c.advertiserOrganizationId = n.advertiserOrganizationId ∧
      assetId ∉ db.creativeAssets.map (·.id) ∧
      ∃ l : CampaignCreative, l.campaignId = n.campaignId ∧ l.creativeAssetId = assetId ∧
        db' = { db with
          creativeAssets := db.creativeAssets ++ [n.asset assetId]
          campaignCreatives := db.campaignCreatives ++ [l] } := by
  unfold createCampaignCreative at h
  split at h
  · cases h
    exact .inl rfl
  · rename_i c hc
    split at h
    · cases h
      exact .inl rfl
    · obtain ⟨_, howner, h⟩ := bind_ok h
      obtain ⟨_, -, h⟩ := bind_ok h
      obtain ⟨stored, hstored, h⟩ := bind_ok h
      obtain ⟨linked, hlinked, h⟩ := bind_ok h
      cases h
      obtain ⟨hid, rfl⟩ := insertAsset_ok hstored
      have hdb := insertLink_ok hlinked
      exact .inr ⟨c, hc, Option.some.inj (validateOwner_ok howner), hid, _, rfl, rfl, hdb⟩

theorem attachCreativeToCampaign_ok {db db' : Db} {campaignId creativeAssetId : String}
    {sortOrder : Int} {scope : Option (List String)} {r : Option CampaignCreative}
    (h : attachCreativeToCampaign db campaignId creativeAssetId sortOrder scope = .ok (db', r)) :
    db' = db ∨ ∃ c, db.campaign campaignId = some c ∧
      db.assetOwner creativeAssetId = some c.advertiserOrganizationId ∧
      ∃ l : CampaignCreative, l.campaignId = campaignId ∧ l.creativeAssetId = creativeAssetId ∧
        db' = { db with campaignCreatives := db.campaignCreatives ++ [l] } := by
  unfold attachCreativeToCampaign at h
  split at h
  · cases h
    exact .inl rfl
  · rename_i c hc
    split at h
    · cases h
      exact .inl rfl
    · split at h
      · cases h
        exact .inl rfl
      · rename_i owner howned
        obtain ⟨_, howner, h⟩ := bind_ok h
        obtain ⟨_, -, h⟩ := bind_ok h
        split at h
        · cases h
          exact .inl rfl
        · obtain ⟨linked, hlinked, h⟩ := bind_ok h
          cases h
          have hsame := validateOwner_ok howner
          exact .inr ⟨c, hc, howned.trans hsame.symm, _, rfl, rfl, insertLink_ok hlinked⟩

/-! ## One call -/

section Steps

variable {db : Db} (hkeys : CampaignKeys db)

include hkeys

theorem CampaignKeys.campaign_of_mem {c : Campaign} (hc : c ∈ db.campaigns) :
    db.campaign c.id = some c := Rows.get_of_mem hkeys.unique hc

theorem CampaignKeys.create {row : Campaign} (hid : row.id ∉ db.campaigns.map (·.id))
    (history : List CampaignStatusHistory) :
    CampaignKeys { db with
      campaigns := db.campaigns ++ [row], campaignStatusHistory := history } := by
  constructor
  · show ((db.campaigns ++ [row]).map (·.id)).Nodup
    rw [List.map_append]
    exact Rows.nodup_concat hkeys.unique hid
  · intro l hl
    show l.campaignId ∈ (db.campaigns ++ [row]).map (·.id)
    rw [List.map_append]
    exact List.mem_append_left _ (hkeys.linked l hl)

theorem ReferencesOwned.create {row : Campaign} (h : ReferencesOwned db)
    (hid : row.id ∉ db.campaigns.map (·.id))
    (hcontract : db.contractOwner row.advertiserContractId = some row.advertiserOrganizationId)
    (hbrand : ∀ b, row.advertiserBrandId = some b →
      db.brandOwner b = some row.advertiserOrganizationId)
    (history : List CampaignStatusHistory) :
    ReferencesOwned { db with
      campaigns := db.campaigns ++ [row], campaignStatusHistory := history } := by
  intro c hc
  rcases List.mem_append.1 hc with hc | hc
  · exact ⟨(h c hc).contract, (h c hc).brand, (h c hc).creatives⟩
  · rw [List.mem_singleton.1 hc]
    refine ⟨hcontract, hbrand, fun l hl hlc ↦ ?_⟩
    -- no link is of the new campaign yet
    exact absurd (hlc ▸ hkeys.linked l hl) hid

theorem CampaignKeys.update (now : Int) (campaignId : String) (req : CampaignUpdateRequest) :
    CampaignKeys { db with
      campaigns := Rows.updateWhere (·.id = campaignId) (·.updated now req) db.campaigns } := by
  have hids : (Rows.updateWhere (fun c : Campaign ↦ c.id = campaignId) (·.updated now req)
      db.campaigns).map (·.id) = db.campaigns.map (·.id) :=
    Rows.map_updateWhere (f := (·.updated now req)) (·.id) (fun _ ↦ rfl) db.campaigns
  constructor
  · show ((Rows.updateWhere _ _ db.campaigns).map (·.id)).Nodup
    rw [hids]
    exact hkeys.unique
  · intro l hl
    show l.campaignId ∈ (Rows.updateWhere _ _ db.campaigns).map (·.id)
    rw [hids]
    exact hkeys.linked l hl

/-- The contract and the brand that the request sets, if it sets them, are the campaign's
advertiser's own. -/
def SetsOwn (db : Db) (c : Campaign) (req : CampaignUpdateRequest) : Prop :=
  (∀ k, req.advertiserContractId = some k →
    db.contractOwner k = some c.advertiserOrganizationId) ∧
  ∀ b, req.advertiserBrandId = some b → db.brandOwner b = some c.advertiserOrganizationId

theorem ReferencesOwned.update_iff (h : ReferencesOwned db) {campaignId : String} {c : Campaign}
    (hc : db.campaign campaignId = some c) (now : Int) (req : CampaignUpdateRequest) :
    ReferencesOwned { db with
      campaigns := Rows.updateWhere (·.id = campaignId) (·.updated now req) db.campaigns } ↔
      SetsOwn db c req := by
  have hmem := Rows.get_mem hc
  have hid : c.id = campaignId := Rows.get_key hc
  constructor
  · intro h'
    have hnew : c.updated now req ∈
        Rows.updateWhere (fun d : Campaign ↦ d.id = campaignId) (·.updated now req) db.campaigns :=
      Rows.mem_updateWhere.2 ⟨c, hmem, if_pos (decide_eq_true hid)⟩
    have hown := h' _ hnew
    constructor
    · intro k hk
      have hcontract : (c.updated now req).advertiserContractId = k := by
        simp [Campaign.updated, Campaign.setFields, hk]
      exact hcontract ▸ hown.contract
    · intro b hb
      apply hown.brand
      simp [Campaign.updated, Campaign.setFields, hb]
  · rintro ⟨hcontract, hbrand⟩ d hd
    obtain ⟨e, he, rfl⟩ := Rows.mem_updateWhere.1 hd
    have hold := h e he
    by_cases hec : e.id = campaignId
    · have hsame : e = c := Rows.key_inj hkeys.unique he hmem (hec.trans hid.symm)
      subst hsame
      rw [if_pos (decide_eq_true hec)]
      refine ⟨?_, ?_, hold.creatives⟩
      · show db.contractOwner (req.advertiserContractId.getD e.advertiserContractId) = _
        cases hk : req.advertiserContractId with
        | none => exact hold.contract
        | some k => exact hcontract k hk
      · intro b hb
        have hb' : req.advertiserBrandId.or e.advertiserBrandId = some b := hb
        cases hreq : req.advertiserBrandId with
        | none =>
            rw [hreq] at hb'
            exact hold.brand b hb'
        | some b' =>
            rw [hreq] at hb'
            exact hbrand b (hreq.trans hb')
    · rw [if_neg (by simpa using hec)]
      exact ⟨hold.contract, hold.brand, hold.creatives⟩

theorem CampaignKeys.link {l : CampaignCreative} {c : Campaign}
    (hc : db.campaign l.campaignId = some c) (assets : List CreativeAsset) :
    CampaignKeys { db with
      creativeAssets := assets, campaignCreatives := db.campaignCreatives ++ [l] } := by
  refine ⟨hkeys.unique, ?_⟩
  intro k hk
  rcases List.mem_append.1 hk with hk | hk
  · exact hkeys.linked k hk
  · rw [List.mem_singleton.1 hk]
    exact List.mem_map.2 ⟨c, Rows.get_mem hc, Rows.get_key hc⟩

/-- A link to an asset of the campaign's advertiser keeps the references, whatever assets are
added with it. -/
theorem ReferencesOwned.link (h : ReferencesOwned db) {l : CampaignCreative} {c : Campaign}
    (hc : db.campaign l.campaignId = some c) {assets : List CreativeAsset}
    (howner : ({ db with creativeAssets := db.creativeAssets ++ assets } : Db).assetOwner
      l.creativeAssetId = some c.advertiserOrganizationId) :
    ReferencesOwned { db with
      creativeAssets := db.creativeAssets ++ assets
      campaignCreatives := db.campaignCreatives ++ [l] } := by
  intro d hd
  have hold := h d hd
  refine ⟨hold.contract, hold.brand, fun k hk hkd ↦ ?_⟩
  rcases List.mem_append.1 hk with hk | hk
  · have hkept := hold.creatives k hk hkd
    unfold Db.assetOwner at hkept ⊢
    obtain ⟨a, ha, howned⟩ := Option.map_eq_some_iff.1 hkept
    rw [Rows.get_append, ha]
    exact congrArg some howned
  · rw [List.mem_singleton.1 hk] at hkd ⊢
    have hsame : d = c := by
      have hget := hkeys.campaign_of_mem hd
      rw [← hkd, hc] at hget
      exact (Option.some.inj hget).symm
    rw [hsame]
    exact howner

end Steps

/-- The condition on a request: only an update that is applied has one. -/
def KeepsReferences (db : Db) : CampaignMutation → Prop
  | .update _ campaignId scope req =>
      ∀ c, db.campaign campaignId = some c → UpdateApplies db c scope req → SetsOwn db c req
  | _ => True

theorem campaignMutation_keys {db : Db} (m : CampaignMutation) (h : CampaignKeys db) :
    CampaignKeys (campaignMutation db m) := by
  cases m with
  | create now newId createdBy req scope =>
      show CampaignKeys (committedState db (createCampaign db now newId createdBy req scope))
      cases hcall : createCampaign db now newId createdBy req scope with
      | error e => exact h
      | ok result =>
          obtain ⟨-, -, hid, history, hdb⟩ := createCampaign_ok hcall
          show CampaignKeys result.1
          rw [hdb]
          exact h.create hid history
  | update now campaignId scope req =>
      show CampaignKeys (committedState db (updateCampaign db now campaignId scope req))
      rcases updateCampaign_state db now campaignId scope req with ⟨c, -, -, hdb⟩ | ⟨-, hdb⟩
      · rw [hdb]
        exact h.update now campaignId req
      · rw [hdb]
        exact h
  | createCreative assetId n scope =>
      show CampaignKeys (committedState db (createCampaignCreative db assetId n scope))
      cases hcall : createCampaignCreative db assetId n scope with
      | error e => exact h
      | ok result =>
          rcases createCampaignCreative_ok hcall with hdb | ⟨c, hc, -, -, l, hl, -, hdb⟩
          · show CampaignKeys result.1
            rw [hdb]
            exact h
          · show CampaignKeys result.1
            rw [hdb]
            exact h.link (hl ▸ hc) _
  | attachCreative campaignId creativeAssetId sortOrder scope =>
      show CampaignKeys (committedState db
        (attachCreativeToCampaign db campaignId creativeAssetId sortOrder scope))
      cases hcall : attachCreativeToCampaign db campaignId creativeAssetId sortOrder scope with
      | error e => exact h
      | ok result =>
          rcases attachCreativeToCampaign_ok hcall with hdb | ⟨c, hc, -, l, hl, -, hdb⟩
          · show CampaignKeys result.1
            rw [hdb]
            exact h
          · show CampaignKeys result.1
            rw [hdb]
            exact h.link (hl ▸ hc) db.creativeAssets

theorem campaignMutation_references {db : Db} (m : CampaignMutation) (hkeys : CampaignKeys db)
    (h : ReferencesOwned db) :
    ReferencesOwned (campaignMutation db m) ↔ KeepsReferences db m := by
  cases m with
  | create now newId createdBy req scope =>
      apply iff_of_true _ trivial
      show ReferencesOwned (committedState db (createCampaign db now newId createdBy req scope))
      cases hcall : createCampaign db now newId createdBy req scope with
      | error e => exact h
      | ok result =>
          obtain ⟨hcontract, hbrand, hid, history, hdb⟩ := createCampaign_ok hcall
          have hnew : (req.row newId createdBy now).id ∉ db.campaigns.map (·.id) := hid
          show ReferencesOwned result.1
          rw [hdb]
          exact h.create hkeys hnew hcontract hbrand history
  | update now campaignId scope req =>
      show ReferencesOwned (committedState db (updateCampaign db now campaignId scope req)) ↔ _
      rcases updateCampaign_state db now campaignId scope req with
        ⟨c, hc, happlies, hdb⟩ | ⟨hskipped, hdb⟩
      · rw [hdb, h.update_iff hkeys hc]
        constructor
        · intro hsets d hd _
          rw [hc] at hd
          exact Option.some.inj hd ▸ hsets
        · intro hkeeps
          exact hkeeps c hc happlies
      · rw [hdb]
        exact iff_of_true h fun c hc happlies ↦ absurd happlies (hskipped c hc)
  | createCreative assetId n scope =>
      apply iff_of_true _ trivial
      show ReferencesOwned (committedState db (createCampaignCreative db assetId n scope))
      cases hcall : createCampaignCreative db assetId n scope with
      | error e => exact h
      | ok result =>
          rcases createCampaignCreative_ok hcall with hdb | ⟨c, hc, horg, hid, l, hl, hasset, hdb⟩
          · show ReferencesOwned result.1
            rw [hdb]
            exact h
          · have hfresh : Rows.get CreativeAsset.id assetId db.creativeAssets = none :=
              Rows.get_eq_none.2 fun a ha haid ↦ hid (List.mem_map.2 ⟨a, ha, haid⟩)
            have howner : ({ db with
                creativeAssets := db.creativeAssets ++ [n.asset assetId] } : Db).assetOwner
                l.creativeAssetId = some c.advertiserOrganizationId := by
              unfold Db.assetOwner
              rw [hasset, Rows.get_append, hfresh, horg]
              simp [Rows.get, NewCreative.asset]
            show ReferencesOwned result.1
            rw [hdb]
            exact h.link hkeys (hl ▸ hc) howner
  | attachCreative campaignId creativeAssetId sortOrder scope =>
      apply iff_of_true _ trivial
      show ReferencesOwned (committedState db
        (attachCreativeToCampaign db campaignId creativeAssetId sortOrder scope))
      cases hcall : attachCreativeToCampaign db campaignId creativeAssetId sortOrder scope with
      | error e => exact h
      | ok result =>
          rcases attachCreativeToCampaign_ok hcall with hdb | ⟨c, hc, howned, l, hl, hasset, hdb⟩
          · show ReferencesOwned result.1
            rw [hdb]
            exact h
          · have howner : ({ db with creativeAssets := db.creativeAssets ++ [] } : Db).assetOwner
                l.creativeAssetId = some c.advertiserOrganizationId := by
              rw [hasset, List.append_nil]
              exact howned
            have hlinked := h.link hkeys (hl ▸ hc) howner
            rw [List.append_nil] at hlinked
            show ReferencesOwned result.1
            rw [hdb]
            exact hlinked

/-! ## Runs -/

theorem referencesOwned_iff_setsOwn (db : Db) (l : List CampaignMutation)
    (hkeys : CampaignKeys db) (h : ReferencesOwned db) :
    Run.Always campaignMutation ReferencesOwned db l ↔
      Run.Guarded campaignMutation KeepsReferences db l :=
  Run.always_iff_guarded (I := CampaignKeys) (A := fun _ ↦ True)
    (fun _ m _ hkeys ↦ campaignMutation_keys m hkeys)
    (fun _ m _ hkeys h ↦ campaignMutation_references m hkeys h) (fun _ _ ↦ trivial) hkeys h

/-! Two advertisers with a contract each; a campaign of the first one is created and updated. -/

def twoContracts : Db where
  advertiserContracts := [
    { id := "k1", advertiserOrganizationId := "o1", validFrom := 0 },
    { id := "k2", advertiserOrganizationId := "o2", validFrom := 0 }]

def createOwn : CampaignMutation :=
  .create 0 "a" "u" {
    advertiserOrganizationId := "o1", advertiserContractId := "k1", code := "A", name := "A" }
    (some ["o1"])

def setContract (contractId : String) : CampaignMutation :=
  .update 0 "a" (some ["o1"]) { advertiserContractId := some contractId }

theorem twoContracts_keys : CampaignKeys twoContracts :=
  ⟨List.nodup_nil, fun _ hl ↦ absurd hl List.not_mem_nil⟩

theorem twoContracts_owned : ReferencesOwned twoContracts :=
  fun _ hc ↦ absurd hc List.not_mem_nil

theorem update_takes_foreign_contract :
    ¬ ∀ (db : Db) (l : List CampaignMutation), CampaignKeys db → ReferencesOwned db →
      Run.Always campaignMutation ReferencesOwned db l := by
  intro h
  have hlast := (h twoContracts [createOwn, setContract "k2"] twoContracts_keys
    twoContracts_owned).final
  have hforeign : ¬ ∀ c ∈ (Run.final campaignMutation twoContracts
      [createOwn, setContract "k2"]).campaigns,
      (Run.final campaignMutation twoContracts [createOwn, setContract "k2"]).contractOwner
        c.advertiserContractId = some c.advertiserOrganizationId := by
    decide +kernel
  exact hforeign fun c hc ↦ (hlast c hc).contract

theorem update_keeps_own_contract :
    Run.Always campaignMutation ReferencesOwned twoContracts [createOwn, setContract "k1"] := by
  refine (referencesOwned_iff_setsOwn _ _ twoContracts_keys twoContracts_owned).2
    ⟨trivial, ?_, trivial⟩
  intro c hc _
  have hone : c.advertiserOrganizationId = "o1" := by
    have hown : (Run.final campaignMutation twoContracts [createOwn]).campaigns.all
        (·.advertiserOrganizationId = "o1") = true := by
      decide +kernel
    exact of_decide_eq_true (List.all_eq_true.1 hown c (Rows.get_mem hc))
  constructor
  · intro k hk
    cases hk
    rw [hone]
    decide +kernel
  · intro b hb
    cases hb

end RetailMedia
