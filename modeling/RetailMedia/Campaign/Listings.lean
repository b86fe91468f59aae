import RetailMedia.Campaign.Creatives
import RetailMedia.Lib.Paging
import RetailMedia.Lib.Query

/-! Listings that clients read page by page: campaigns, creatives to be moderated, and campaigns
that wait for a decision. -/

namespace RetailMedia

open Paging

/-! ## Pagination -/

def maxLimit : Int := 200

structure PaginationParams where
  limit : Nat
  offset : Nat
  deriving DecidableEq, Repr

def getPaginationParams (limit offset : Int) : PaginationParams where
  limit := (min (max limit 1) maxLimit).toNat
  offset := (max offset 0).toNat

structure PaginatedResponse (α : Type) where
  items : List α
  total : Nat
  limit : Nat
  offset : Nat
  deriving DecidableEq, Repr

/-- What a client gets on its first `n` pages, going on by the limit that the answers tell; `list`
is asked once for each page. -/
def browse {α : Type} (limit : Int) (list : Nat → PaginationParams → List α) : Nat → List α
  | 0 => []
  | n + 1 => browse limit list n ++
      list n (getPaginationParams limit (n * (getPaginationParams limit 0).limit))

/-- The items of an answer; an error has none. -/
def shownItems {α : Type} (r : Except HttpError (PaginatedResponse α)) : List α :=
  match r with
  | .ok response => response.items
  | .error _ => []

theorem limit_pos (limit offset : Int) : 0 < (getPaginationParams limit offset).limit := by
  show 0 < (min (max limit 1) 200).toNat
  omega

/-- The pages that a client asks for lie side by side. -/
theorem getPaginationParams_page (limit : Int) (n : Nat) :
    getPaginationParams limit (n * (getPaginationParams limit 0).limit) =
      ⟨(getPaginationParams limit 0).limit, n * (getPaginationParams limit 0).limit⟩ := by
  unfold getPaginationParams
  rw [PaginationParams.mk.injEq]
  constructor
  · rfl
  · rw [← Int.natCast_mul]
    omega

theorem browse_pages {α β : Type} {f : α → β} {list : Nat → PaginationParams → List β}
    {answers : Nat → List α}
    (h : ∀ i p, list i p = (page p.offset p.limit (answers i)).map f) (limit : Int) (n : Nat) :
    browse limit list n = (walk (getPaginationParams limit 0).limit answers n).map f := by
  induction n with
  | zero => rfl
  | succ n ih =>
      unfold browse walk
      rw [ih, List.map_append, h, getPaginationParams_page]

/-- The same for pages that show their rows in another order. -/
theorem browse_perm {α β : Type} {f : α → β} {list : Nat → PaginationParams → List β}
    {answers : Nat → List α}
    (h : ∀ i p, (list i p).Perm ((page p.offset p.limit (answers i)).map f)) (limit : Int)
    (n : Nat) : (browse limit list n).Perm
      ((walk (getPaginationParams limit 0).limit answers n).map f) := by
  induction n with
  | zero => exact List.Perm.refl []
  | succ n ih =>
      unfold browse walk
      have hlast := h n (getPaginationParams limit (n * (getPaginationParams limit 0).limit))
      rw [getPaginationParams_page] at hlast ⊢
      rw [List.map_append]
      exact ih.append hlast

/-! ## Campaigns -/

/-- `order` is what the database makes of `ORDER BY`. -/
def listCampaignsPaginated (order : List Campaign → List Campaign) (d : Db) (limit offset : Nat)
    (campaignId : Option String) : List Campaign × Nat :=
  let rows := d.campaigns.filter fun c ↦ campaignId.all fun id ↦ id = "" ∨ c.id = id
  (page offset limit (order rows), rows.length)

def listCampaigns (order : List Campaign → List Campaign) (d : Db) (pagination : PaginationParams)
    (campaignId : Option String) : PaginatedResponse Campaign :=
  let (items, total) :=
    listCampaignsPaginated order d pagination.limit pagination.offset campaignId
  { items := items, total := total, limit := pagination.limit, offset := pagination.offset }

section Campaigns

variable {κ : Type} [LinearOrder κ] (collate : String → κ)

/-- Under a collation that tells all codes apart, whoever sees campaigns of one organization gets
them all, each once: the organization's codes are unique. -/
theorem own_campaigns_browsed (hcollate : Function.Injective collate) {d : Db}
    (hcodes : (d.campaigns.map fun c ↦ (c.advertiserOrganizationId, c.code)).Nodup)
    {organizationId : String}
    (hown : ∀ c ∈ d.campaigns, c.advertiserOrganizationId = organizationId) (limit : Int) {n : Nat}
    (hn : d.campaigns.length ≤ n * (getPaginationParams limit 0).limit)
    {orders : Nat → List Campaign → List Campaign}
    (horders : ∀ i, IsSorted (fun c ↦ collate c.code) d.campaigns (orders i d.campaigns)) :
    (browse limit (fun i p ↦ (listCampaigns (orders i) d p none).items) n).Perm d.campaigns := by
  have hall : (d.campaigns.filter fun c ↦ (none : Option String).all fun id ↦ id = "" ∨ c.id = id) =
      d.campaigns := List.filter_eq_self.2 fun c _ ↦ rfl
  have hitems (order : List Campaign → List Campaign) (p : PaginationParams) :
      (listCampaigns order d p none).items =
        (page p.offset p.limit (order d.campaigns)).map fun c ↦ c := by
    rw [List.map_id']
    unfold listCampaigns listCampaignsPaginated
    dsimp only
    rw [hall]
  have hunique : (d.campaigns.map fun c ↦ collate c.code).Nodup := by
    rw [List.nodup_map_iff_inj_on hcodes.of_map]
    intro b hb c hc hsame
    apply List.inj_on_of_nodup_map hcodes hb hc
    rw [hown b hb, hown c hc, hcollate hsame]
  rw [browse_pages fun i p ↦ hitems (orders i) p, List.map_id']
  exact walk_perm (fun i _ ↦ horders i) (fun i _ ↦ unsplit_of_unique hunique _) hn

end Campaigns

/-! ## The moderation queue -/

/-- An `advertiser_organizations` row, with its names. -/
structure OrganizationName where
  id : String
  legalName : String
  code : String
  deriving DecidableEq, Repr

/-- An `advertiser_brands` row, with its name. -/
structure BrandName where
  id : String
  name : String
  deriving DecidableEq, Repr

/-- The names that the queues show, under their primary keys. -/
structure AdvertiserNames where
  organizations : List OrganizationName := []
  brands : List BrandName := []
  organizationIds : (organizations.map (·.id)).Nodup := by decide
  brandIds : (brands.map (·.id)).Nodup := by decide

/-- A `creative_assets` row, with its times. -/
structure StampedAsset where
  asset : CreativeAsset
  createdAt : Int
  updatedAt : Int
  deriving DecidableEq, Repr

structure CreativeModerationQueueItem where
  id : String
  advertiserOrganizationId : String
  code : String
  name : String
  mediaType : String
  fileSizeBytes : Int
  durationMs : Option Int
  resolutionW : Option Int
  resolutionH : Option Int
  status : String
  moderationStatus : String
  moderationNotes : Option String
  createdAt : Int
  updatedAt : Int
  advertiserName : Option String
  advertiserCode : Option String
  deriving DecidableEq, Repr

abbrev ModerationRow := StampedAsset × Option OrganizationName

def ModerationRow.item (r : ModerationRow) : CreativeModerationQueueItem where
  id := r.1.asset.id
  advertiserOrganizationId := r.1.asset.advertiserOrganizationId
  code := r.1.asset.code
  name := r.1.asset.name
  mediaType := r.1.asset.mediaType
  fileSizeBytes := r.1.asset.fileSizeBytes
  durationMs := r.1.asset.durationMs
  resolutionW := r.1.asset.resolutionW
  resolutionH := r.1.asset.resolutionH
  status := r.1.asset.status.text
  moderationStatus := r.1.asset.moderationStatus.text
  moderationNotes := r.1.asset.moderationNotes
  createdAt := r.1.createdAt
  updatedAt := r.1.updatedAt
  advertiserName := r.2.map (·.legalName)
  advertiserCode := r.2.map (·.code)

/-- `order_by(CreativeAsset.created_at.desc())`. -/
def ModerationRow.newestFirst (r : ModerationRow) : Intᵒᵈ := OrderDual.toDual r.1.createdAt

def inModeration (statusFilter : String) (a : StampedAsset) : Bool :=
  statusFilter = "all" ∨ a.asset.moderationStatus.text = statusFilter

/-- The rows of the query, before they are ordered and cut into pages. -/
def moderationRows (names : AdvertiserNames) (assets : List StampedAsset) (statusFilter : String) :
    List ModerationRow :=
  Query.leftJoin (fun a o ↦ o.id = a.asset.advertiserOrganizationId)
    (assets.filter (inModeration statusFilter)) names.organizations

def listModerationQueuePaginated (order : List ModerationRow → List ModerationRow)
    (names : AdvertiserNames) (assets : List StampedAsset) (statusFilter : String)
    (limit offset : Nat) : List ModerationRow × Nat :=
  -- the organizations are joined for the items only, not for their number
  (page offset limit (order (moderationRows names assets statusFilter)),
    (assets.filter (inModeration statusFilter)).length)

def moderationFilters : List String := ["pending_review", "approved", "rejected", "all"]

def moderationQueueEndpoint (order : List ModerationRow → List ModerationRow)
    (names : AdvertiserNames) (assets : List StampedAsset) (statusFilter : String)
    (pagination : PaginationParams) :
    Except HttpError (PaginatedResponse CreativeModerationQueueItem) :=
  if statusFilter ∉ moderationFilters then
    .error ⟨422, "Invalid status_filter: " ++ statusFilter⟩
  else
    let (items, total) := listModerationQueuePaginated order names assets statusFilter
      pagination.limit pagination.offset
    .ok {
      items := items.map (·.item)
      total := total
      limit := pagination.limit
      offset := pagination.offset }

theorem map_fst_moderationRows (names : AdvertiserNames) (assets : List StampedAsset)
    (statusFilter : String) : (moderationRows names assets statusFilter).map (·.1) =
      assets.filter (inModeration statusFilter) :=
  Query.map_fst_leftJoin (fun _ ↦ Query.filter_key_length names.organizationIds _) _

/-- A browse of the moderation queue shows every creative once, however the database orders those
of one moment each time, exactly if no page ends between two creatives of one moment. -/
theorem moderation_queue_browsed (names : AdvertiserNames) {assets : List StampedAsset}
    (hassets : (assets.map (·.asset.id)).Nodup) {statusFilter : String}
    (hfilter : statusFilter ∈ moderationFilters) (limit : Int) {n : Nat}
    (hn : (assets.filter (inModeration statusFilter)).length ≤
      n * (getPaginationParams limit 0).limit) :
    (∀ orders : Nat → List ModerationRow → List ModerationRow,
      (∀ i, IsSorted ModerationRow.newestFirst (moderationRows names assets statusFilter)
        (orders i (moderationRows names assets statusFilter))) →
      (browse limit (fun i p ↦
        shownItems (moderationQueueEndpoint (orders i) names assets statusFilter p)) n).Perm
        ((moderationRows names assets statusFilter).map (·.item))) ↔
      ∀ i < n, Unsplit ModerationRow.newestFirst (moderationRows names assets statusFilter)
        (i * (getPaginationParams limit 0).limit) := by
  have hfst := map_fst_moderationRows names assets statusFilter
  have hlength : (moderationRows names assets statusFilter).length ≤
      n * (getPaginationParams limit 0).limit := by
    rw [← List.length_map (·.1), hfst]
    exact hn
  have hnodup : ((moderationRows names assets statusFilter).map (·.item)).Nodup := by
    have hids : (((moderationRows names assets statusFilter).map (·.item)).map (·.id)).Nodup := by
      have hsame : ((moderationRows names assets statusFilter).map (·.item)).map (·.id) =
          ((moderationRows names assets statusFilter).map (·.1)).map (·.asset.id) := by
        rw [List.map_map, List.map_map]
        rfl
      rw [hsame, hfst]
      exact hassets.sublist (List.filter_sublist.map _)
    exact hids.of_map
  have hshown (order : List ModerationRow → List ModerationRow) (p : PaginationParams) :
      shownItems (moderationQueueEndpoint order names assets statusFilter p) =
        (page p.offset p.limit (order (moderationRows names assets statusFilter))).map
          (·.item) := by
    unfold moderationQueueEndpoint
    rw [if_neg (not_not.2 hfilter)]
    rfl
  rw [← map_walk_perm_iff hnodup (limit_pos limit 0) hlength]
  constructor
  · intro hbrowse answers hanswers
    have hone := hbrowse (fun i _ ↦ answers i) hanswers
    rw [browse_pages fun i p ↦ hshown (fun _ ↦ answers i) p] at hone
    exact hone
  · intro hwalk orders horders
    rw [browse_pages fun i p ↦ hshown (orders i) p]
    exact hwalk _ horders

/-! Two creatives that were uploaded at one moment. -/

def twinCreatives : List StampedAsset := ["c1", "c2"].map fun id ↦
  { asset := {
      id := id, code := id, mediaType := "video/mp4", storageKey := id, sha256Checksum := "00"
      fileSizeBytes := 1, moderationStatus := .pendingReview }
    createdAt := 5
    updatedAt := 5 }

theorem twinCreatives_browsed :
    (¬ ∀ orders : Nat → List ModerationRow → List ModerationRow,
      (∀ i, IsSorted ModerationRow.newestFirst (moderationRows {} twinCreatives "all")
        (orders i (moderationRows {} twinCreatives "all"))) →
      (browse 1 (fun i p ↦
        shownItems (moderationQueueEndpoint (orders i) {} twinCreatives "all" p)) 2).Perm
        ((moderationRows {} twinCreatives "all").map (·.item))) ∧
    ∀ orders : Nat → List ModerationRow → List ModerationRow,
      (∀ i, IsSorted ModerationRow.newestFirst (moderationRows {} twinCreatives "all")
        (orders i (moderationRows {} twinCreatives "all"))) →
      (browse 2 (fun i p ↦
        shownItems (moderationQueueEndpoint (orders i) {} twinCreatives "all" p)) 1).Perm
        ((moderationRows {} twinCreatives "all").map (·.item)) := by
  constructor
  · rw [moderation_queue_browsed {} (by decide) (by decide) 1 (by decide)]
    decide
  · rw [moderation_queue_browsed {} (by decide) (by decide) 2 (by decide)]
    decide

/-! ## The approval queue -/

structure CampaignApprovalQueueItem where
  campaignId : String
  campaignCode : String
  campaignName : String
  campaignStatus : String
  advertiserOrgId : String
  advertiserOrgName : Option String
  advertiserBrandName : Option String
  requestedAt : Int
  requestedBy : String
  hasFlight : Bool
  hasPlacement : Bool
  hasCreative : Bool
  allCreativesReady : Bool
  allCreativesApproved : Bool
  rejectionReason : Option String
  deriving DecidableEq, Repr

/-- A campaign with one of the times it was put up for approval. -/
abbrev Submission := Campaign × CampaignStatusHistory

def Submission.newestFirst (r : Submission) : Intᵒᵈ := OrderDual.toDual r.2.changedAt

def inApproval (statusFilter : String) (c : Campaign) : Bool :=
  statusFilter = "all" ∨ c.status.text = statusFilter

def submittedAs (c : Campaign) (h : CampaignStatusHistory) : Bool :=
  h.campaignId = c.id ∧ h.newStatus = .pendingApproval

/-- The rows that the pages are cut out of. -/
def Db.submissions (d : Db) (statusFilter : String) : List Submission :=
  (d.campaigns.filter (inApproval statusFilter)).flatMap fun c ↦
    (d.campaignStatusHistory.filter (submittedAs c)).map fun h ↦ (c, h)

/-- A row of the second query: campaign, organization, brand, decision, submission. -/
structure ApprovalRow where
  campaign : Campaign
  organization : Option OrganizationName
  brand : Option BrandName
  approval : Option CampaignApproval
  history : CampaignStatusHistory

def ApprovalRow.newestFirst (r : ApprovalRow) : Intᵒᵈ := OrderDual.toDual r.history.changedAt

abbrev NamedCampaign := (Campaign × Option OrganizationName) × Option BrandName

def withNames (names : AdvertiserNames) (campaigns : List Campaign) : List NamedCampaign :=
  let withOrganization := Query.leftJoin
    (fun c o ↦ o.id = c.advertiserOrganizationId) campaigns names.organizations
  Query.leftJoin (fun r b ↦ r.1.advertiserBrandId = some b.id) withOrganization names.brands

def withApprovals (names : AdvertiserNames) (d : Db) :
    List (NamedCampaign × Option CampaignApproval) :=
  Query.leftJoin (fun r a ↦ r.1.1.id = a.campaignId) (withNames names d.campaigns)
    d.campaignApprovals

/-- The joins of the second query; `WHERE` on the status of the history drops the campaigns
without a submission again. -/
def approvalRows (names : AdvertiserNames) (d : Db) : List ApprovalRow :=
  let withHistory := Query.leftJoin (fun r h ↦ r.1.1.1.id = h.campaignId) (withApprovals names d)
    d.campaignStatusHistory
  withHistory.filterMap fun r ↦ r.2.bind fun h ↦
    if h.newStatus = .pendingApproval then
      some { campaign := r.1.1.1.1, organization := r.1.1.1.2, brand := r.1.1.2, approval := r.1.2,
             history := h }
    else none

def approvalQueueRowsByIds (order : List ApprovalRow → List ApprovalRow) (names : AdvertiserNames)
    (d : Db) (campaignIds : List String) : List ApprovalRow :=
  order ((approvalRows names d).filter fun r ↦ r.campaign.id ∈ campaignIds)

/-- The item of a row, with the readiness of its campaign. -/
def enrichApprovalQueueRow (d : Db) (r : ApprovalRow) : CampaignApprovalQueueItem :=
  let assets := d.linkedAssets r.campaign.id
  let linked : Bool := d.creativesOf r.campaign.id ≠ []
  { campaignId := r.campaign.id
    campaignCode := r.campaign.code
    campaignName := r.campaign.name
    campaignStatus := r.campaign.status.text
    advertiserOrgId := r.campaign.advertiserOrganizationId
    advertiserOrgName := r.organization.map (·.legalName)
    advertiserBrandName := r.brand.map (·.name)
    requestedAt := r.history.changedAt
    requestedBy := r.history.changedBy
    hasFlight := d.flightsOf r.campaign.id ≠ []
    hasPlacement := d.placementsOf r.campaign.id ≠ []
    hasCreative := linked
    allCreativesReady := linked ∧ assets.all fun a ↦ a.status = .ready
    allCreativesApproved := linked ∧ assets.all fun a ↦ a.moderationStatus = .approved
    rejectionReason := r.approval.bind (·.rejectionReason) }

/-- What the database makes of the `ORDER BY changed_at DESC` of the two queries. -/
structure QueueOrder where
  ids : List Submission → List Submission
  rows : List ApprovalRow → List ApprovalRow
  idsSorted : ∀ l, IsSorted Submission.newestFirst l (ids l)
  rowsSorted : ∀ l, IsSorted ApprovalRow.newestFirst l (rows l)

def listApprovalQueuePaginated (order : QueueOrder) (names : AdvertiserNames) (d : Db)
    (statusFilter : String) (limit offset : Nat) : List CampaignApprovalQueueItem × Nat :=
  let submissions := d.submissions statusFilter
  let paginatedIds := (page offset limit (order.ids submissions)).map (·.1.id)
  if paginatedIds = [] then ([], submissions.length)
  else
    let rows := approvalQueueRowsByIds order.rows names d paginatedIds
    (rows.map (enrichApprovalQueueRow d), submissions.length)

def approvalFilters : List String := ["pending_approval", "approved", "rejected", "all"]

def approvalQueueEndpoint (order : QueueOrder) (names : AdvertiserNames) (d : Db)
    (statusFilter : String) (pagination : PaginationParams) :
    Except HttpError (PaginatedResponse CampaignApprovalQueueItem) :=
  if statusFilter ∉ approvalFilters then
    .error ⟨422, "Invalid status filter: " ++ statusFilter⟩
  else
    let (items, total) := listApprovalQueuePaginated order names d statusFilter pagination.limit
      pagination.offset
    .ok {
      items := items
      total := total
      limit := pagination.limit
      offset := pagination.offset }

end RetailMedia
