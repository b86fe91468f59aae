import RetailMedia.Campaign.Listings
import RetailMedia.Campaign.StatusChain

/-! What the pages of the approval queue show, in the states that interleaved transitions lead
to. -/

namespace RetailMedia

open Paging Interleaving

/-! ## How often a campaign is shown -/

def Db.submissionCount (d : Db) (campaignId : String) : Nat :=
  d.campaignStatusHistory.countP fun h ↦ h.campaignId = campaignId ∧ h.newStatus = .pendingApproval

def Db.approvalCount (d : Db) (campaignId : String) : Nat :=
  d.campaignApprovals.countP fun a ↦ a.campaignId = campaignId

/-- The rows of a campaign on each page that shows it: every submission with every decision. -/
def Db.timesShown (d : Db) (campaignId : String) : Nat :=
  d.submissionCount campaignId * max 1 (d.approvalCount campaignId)

theorem flatMap_replicate_replicate (ks : List String) (m n : String → Nat) :
    (ks.flatMap fun k ↦ List.replicate (m k) k).flatMap (fun k ↦ List.replicate (n k) k) =
      ks.flatMap fun k ↦ List.replicate (m k * n k) k := by
  rw [List.flatMap_assoc]
  congr 1
  funext k
  rw [List.flatMap_replicate, List.flatten_replicate_replicate]

/-- The submissions of a campaign among the rows of the history. -/
theorem map_id_matched (row : CampaignStatusHistory → ApprovalRow) {k : String}
    (hrow : ∀ h, (row h).campaign.id = k) (history : List CampaignStatusHistory) :
    ((history.filter fun h ↦ k = h.campaignId).filterMap fun h ↦
      if h.newStatus = .pendingApproval then some (row h) else none).map (·.campaign.id) =
      List.replicate (history.countP fun h ↦ h.campaignId = k ∧ h.newStatus = .pendingApproval)
        k := by
  induction history with
  | nil => rfl
  | cons h history ih =>
      rw [List.filter_cons, List.countP_cons]
      by_cases hk : k = h.campaignId
      · rw [if_pos (decide_eq_true hk), List.filterMap_cons]
        by_cases hnew : h.newStatus = .pendingApproval
        · rw [if_pos hnew, if_pos (decide_eq_true ⟨hk.symm, hnew⟩), List.map_cons, ih, hrow]
          rfl
        · rw [if_neg hnew, if_neg (by simp [hnew])]
          exact ih
      · rw [if_neg (by simpa using hk), if_neg (by simp [Ne.symm hk])]
        exact ih

/-- The names neither drop nor repeat a campaign. -/
theorem map_campaign_withNames (names : AdvertiserNames) (campaigns : List Campaign) :
    (withNames names campaigns).map (·.1.1) = campaigns := by
  have hbrand (r : Campaign × Option OrganizationName) :
      (names.brands.filter fun b ↦ r.1.advertiserBrandId = some b.id).length ≤ 1 := by
    cases r.1.advertiserBrandId with
    | none => simp
    | some id =>
        have hone := Query.filter_key_length names.brandIds id
        simpa [eq_comm] using hone
  have hsplit : (withNames names campaigns).map (·.1.1) =
      ((withNames names campaigns).map (·.1)).map (·.1) := by
    rw [List.map_map]
    rfl
  have hfirst : (withNames names campaigns).map (·.1) = Query.leftJoin
      (fun c o ↦ o.id = c.advertiserOrganizationId) campaigns names.organizations :=
    Query.map_fst_leftJoin hbrand _
  rw [hsplit, hfirst]
  exact Query.map_fst_leftJoin (fun _ ↦ Query.filter_key_length names.organizationIds _) campaigns

theorem map_id_withApprovals (names : AdvertiserNames) (d : Db) :
    (withApprovals names d).map (·.1.1.1.id) =
      (d.campaigns.map (·.id)).flatMap fun k ↦ List.replicate (max 1 (d.approvalCount k)) k := by
  have hcount (k : String) : d.campaignApprovals.countP (fun a ↦ k = a.campaignId) =
      d.approvalCount k := by
    unfold Db.approvalCount
    apply List.countP_congr
    intro a _
    rw [decide_eq_true_eq, decide_eq_true_eq, eq_comm]
  have hjoined := Query.map_leftJoin_fst (fun (r : NamedCampaign) (a : CampaignApproval) ↦
    decide (r.1.1.id = a.campaignId)) d.campaignApprovals (·.1.1.id) (withNames names d.campaigns)
  unfold withApprovals
  rw [hjoined]
  conv_rhs => rw [← map_campaign_withNames names d.campaigns, List.map_map, List.flatMap_map]
  congr 1
  funext r
  rw [hcount]
  rfl

theorem map_id_approvalRows (names : AdvertiserNames) (d : Db) :
    (approvalRows names d).map (·.campaign.id) =
      (d.campaigns.map (·.id)).flatMap fun k ↦ List.replicate (d.timesShown k) k := by
  unfold approvalRows
  dsimp only
  rw [Query.filterMap_leftJoin (fun (r : NamedCampaign × Option CampaignApproval) h ↦
      decide (r.1.1.1.id = h.campaignId)) d.campaignStatusHistory
      (fun r h ↦ if h.newStatus = .pendingApproval then
        some (⟨r.1.1.1, r.1.1.2, r.1.2, r.2, h⟩ : ApprovalRow) else none), List.map_flatMap]
  have hmatched (r : NamedCampaign × Option CampaignApproval) :
      ((d.campaignStatusHistory.filter fun h ↦ r.1.1.1.id = h.campaignId).filterMap fun h ↦
        if h.newStatus = .pendingApproval then
          some (⟨r.1.1.1, r.1.1.2, r.1.2, r.2, h⟩ : ApprovalRow) else none).map (·.campaign.id) =
        List.replicate (d.submissionCount r.1.1.1.id) r.1.1.1.id :=
    map_id_matched (fun h ↦ ⟨r.1.1.1, r.1.1.2, r.1.2, r.2, h⟩) (fun _ ↦ rfl)
      d.campaignStatusHistory
  have hids := congrArg (fun ks ↦ ks.flatMap fun k ↦ List.replicate (d.submissionCount k) k)
    (map_id_withApprovals names d)
  rw [List.flatMap_map, flatMap_replicate_replicate] at hids
  rw [funext hmatched, hids]
  congr 1
  funext k
  rw [Nat.mul_comm]
  rfl

theorem map_id_submissions (d : Db) (statusFilter : String) :
    (d.submissions statusFilter).map (·.1.id) =
      ((d.campaigns.filter (inApproval statusFilter)).map (·.id)).flatMap fun k ↦
        List.replicate (d.submissionCount k) k := by
  unfold Db.submissions
  rw [List.map_flatMap, List.flatMap_map]
  congr 1
  funext c
  rw [List.map_map, Db.submissionCount, List.countP_eq_length_filter]
  exact List.map_const' (b := c.id)

/-! ## A page -/

/-- The campaigns that a page is to show. -/
def pageIds (order : QueueOrder) (d : Db) (statusFilter : String) (pagination : PaginationParams) :
    List String :=
  (page pagination.offset pagination.limit (order.ids (d.submissions statusFilter))).map (·.1.id)

def shownIds (order : QueueOrder) (names : AdvertiserNames) (d : Db) (statusFilter : String)
    (pagination : PaginationParams) : List String :=
  (shownItems (approvalQueueEndpoint order names d statusFilter pagination)).map (·.campaignId)

theorem filter_flatMap_replicate (ks : List String) (n : String → Nat) (q : String → Bool) :
    (ks.flatMap fun k ↦ List.replicate (n k) k).filter q =
      (ks.filter q).flatMap fun k ↦ List.replicate (n k) k := by
  induction ks with
  | nil => rfl
  | cons k ks ih =>
      rw [List.flatMap_cons, List.filter_append, ih]
      by_cases hk : q k = true
      · rw [List.filter_cons_of_pos hk, List.flatMap_cons, List.filter_replicate, if_pos hk]
      · rw [List.filter_cons_of_neg hk, List.filter_replicate, if_neg hk, List.nil_append]

/-- A page shows its campaigns, each in all its rows. -/
theorem shownIds_perm (order : QueueOrder) (names : AdvertiserNames) (d : Db)
    {statusFilter : String} (hfilter : statusFilter ∈ approvalFilters)
    (pagination : PaginationParams) : (shownIds order names d statusFilter pagination).Perm
      (((d.campaigns.map (·.id)).filter (· ∈ pageIds order d statusFilter pagination)).flatMap
        fun k ↦ List.replicate (d.timesShown k) k) := by
  have hselected : ((approvalRows names d).filter fun r ↦
      r.campaign.id ∈ pageIds order d statusFilter pagination).map (·.campaign.id) =
      ((d.campaigns.map (·.id)).filter (· ∈ pageIds order d statusFilter pagination)).flatMap
        fun k ↦ List.replicate (d.timesShown k) k := by
    rw [← filter_flatMap_replicate, ← map_id_approvalRows names d, List.filter_map]
    rfl
  have hitems : shownIds order names d statusFilter pagination =
      if pageIds order d statusFilter pagination = [] then [] else
        (approvalQueueRowsByIds order.rows names d
          (pageIds order d statusFilter pagination)).map (·.campaign.id) := by
    unfold shownIds approvalQueueEndpoint listApprovalQueuePaginated pageIds
    rw [if_neg (not_not.2 hfilter)]
    dsimp only
    by_cases hnil : (page pagination.offset pagination.limit
        (order.ids (d.submissions statusFilter))).map (·.1.id) = []
    · rw [if_pos hnil, if_pos hnil]
      rfl
    · rw [if_neg hnil, if_neg hnil]
      exact List.map_map
  rw [hitems, ← hselected]
  by_cases hnil : pageIds order d statusFilter pagination = []
  · rw [if_pos hnil, hnil]
    simp
  · rw [if_neg hnil]
    exact (order.rowsSorted _).perm.map _

theorem mem_pageIds {order : QueueOrder} {d : Db} {statusFilter k : String}
    {pagination : PaginationParams} (hk : k ∈ pageIds order d statusFilter pagination) :
    k ∈ d.campaigns.map (·.id) ∧ 0 < d.submissionCount k := by
  obtain ⟨r, hr, rfl⟩ := List.mem_map.1 hk
  have hrow : r ∈ d.submissions statusFilter :=
    (order.idsSorted _).perm.mem_iff.1 (List.mem_of_mem_drop (List.mem_of_mem_take hr))
  have hid : r.1.id ∈ (d.submissions statusFilter).map (·.1.id) := List.mem_map_of_mem hrow
  rw [map_id_submissions, List.mem_flatMap] at hid
  obtain ⟨k, hk, hcount⟩ := hid
  rw [List.mem_replicate] at hcount
  obtain ⟨c, hc, hck⟩ := List.mem_map.1 hk
  rw [hcount.2]
  exact ⟨List.mem_map.2 ⟨c, List.mem_of_mem_filter hc, hck⟩, by omega⟩

/-! ## Campaigns that are shown twice -/

/-- No page of the queue has two items of one campaign. -/
def NoRepeats (names : AdvertiserNames) (d : Db) : Prop :=
  ∀ (order : QueueOrder) (statusFilter : String) (limit offset : Int),
    (shownIds order names d statusFilter (getPaginationParams limit offset)).Nodup

theorem shownIds_invalid {order : QueueOrder} {names : AdvertiserNames} {d : Db}
    {statusFilter : String} (hfilter : statusFilter ∉ approvalFilters)
    (pagination : PaginationParams) : shownIds order names d statusFilter pagination = [] := by
  unfold shownIds approvalQueueEndpoint
  rw [if_pos hfilter]
  rfl

theorem nodup_flatMap_replicate {ks : List String} (hks : ks.Nodup) (n : String → Nat) :
    (ks.flatMap fun k ↦ List.replicate (n k) k).Nodup ↔ ∀ k ∈ ks, n k ≤ 1 := by
  rw [List.nodup_flatMap]
  constructor
  · rintro ⟨hone, _⟩ k hk
    exact List.nodup_replicate.1 (hone k hk)
  · intro hone
    refine ⟨fun k hk ↦ List.nodup_replicate.2 (hone k hk), ?_⟩
    refine hks.imp ?_
    intro k k' hne x hx hx'
    exact hne ((List.eq_of_mem_replicate hx).symm.trans (List.eq_of_mem_replicate hx'))

/-- An order that leaves rows of one moment as they are. -/
def QueueOrder.stable : QueueOrder where
  ids l := l.mergeSort fun x y ↦ Submission.newestFirst x ≤ Submission.newestFirst y
  rows l := l.mergeSort fun x y ↦ ApprovalRow.newestFirst x ≤ ApprovalRow.newestFirst y
  idsSorted := isSorted_mergeSort Submission.newestFirst
  rowsSorted := isSorted_mergeSort ApprovalRow.newestFirst

/-- A campaign with a submission is alone on a page of one. -/
theorem exists_page {d : Db} {c : Campaign} (hc : c ∈ d.campaigns)
    (hcount : 0 < d.submissionCount c.id) (order : QueueOrder) :
    ∃ offset : Nat, pageIds order d "all" (getPaginationParams 1 offset) = [c.id] := by
  have hmem : c.id ∈ (d.submissions "all").map (·.1.id) := by
    rw [map_id_submissions, List.mem_flatMap]
    refine ⟨c.id, List.mem_map_of_mem (List.mem_filter.2 ⟨hc, by simp [inApproval]⟩), ?_⟩
    exact List.mem_replicate.2 ⟨by omega, rfl⟩
  have hordered := ((order.idsSorted (d.submissions "all")).perm.map (·.1.id)).mem_iff.2 hmem
  obtain ⟨i, hi, hget⟩ := List.getElem_of_mem hordered
  refine ⟨i, ?_⟩
  rw [List.length_map] at hi
  rw [List.getElem_map] at hget
  have hparams : getPaginationParams 1 i = ⟨1, i⟩ := by
    unfold getPaginationParams
    rw [PaginationParams.mk.injEq]
    exact ⟨rfl, by omega⟩
  unfold pageIds page
  rw [hparams]
  dsimp only
  rw [List.drop_eq_getElem_cons hi, List.take_succ_cons, List.take_zero, List.map_singleton, hget]

theorem noRepeats_iff (names : AdvertiserNames) {d : Db} (hids : (d.campaigns.map (·.id)).Nodup) :
    NoRepeats names d ↔ ∀ c ∈ d.campaigns, d.timesShown c.id ≤ 1 := by
  constructor
  · intro hno c hc
    rcases Nat.eq_zero_or_pos (d.submissionCount c.id) with hzero | hpos
    · unfold Db.timesShown
      rw [hzero]
      omega
    · obtain ⟨offset, hpage⟩ := exists_page hc hpos .stable
      have hall : "all" ∈ approvalFilters := by decide
      have hshown := shownIds_perm .stable names d hall (getPaginationParams 1 offset)
      have hnodup := hshown.nodup_iff.1 (hno .stable "all" 1 offset)
      rw [hpage, nodup_flatMap_replicate (hids.filter _)] at hnodup
      apply hnodup c.id
      rw [List.mem_filter]
      exact ⟨List.mem_map_of_mem hc, by simp⟩
  · intro hone order statusFilter limit offset
    by_cases hfilter : statusFilter ∈ approvalFilters
    · rw [(shownIds_perm order names d hfilter _).nodup_iff,
        nodup_flatMap_replicate (hids.filter _)]
      intro k hk
      obtain ⟨c, hc, rfl⟩ := List.mem_map.1 (List.mem_of_mem_filter hk)
      exact hone c hc
    · rw [shownIds_invalid hfilter]
      exact List.nodup_nil

/-! ## All pages -/

theorem submissionCount_le_timesShown (d : Db) (k : String) :
    d.submissionCount k ≤ d.timesShown k := by
  have hmore : d.submissionCount k * 1 ≤ d.submissionCount k * max 1 (d.approvalCount k) :=
    Nat.mul_le_mul_left _ (Nat.le_max_left 1 _)
  unfold Db.timesShown
  omega

/-- An order that answers one listing with the given rows. -/
def QueueOrder.answering {listed ans : List Submission}
    (h : IsSorted Submission.newestFirst listed ans) : QueueOrder where
  ids l := if l = listed then ans else QueueOrder.stable.ids l
  rows := QueueOrder.stable.rows
  idsSorted l := by
    by_cases hl : l = listed
    · rw [if_pos hl, hl]
      exact h
    · rw [if_neg hl]
      exact QueueOrder.stable.idsSorted l
  rowsSorted := QueueOrder.stable.rowsSorted

section Browse

variable {names : AdvertiserNames} {d : Db} (hids : (d.campaigns.map (·.id)).Nodup)
  (hno : NoRepeats names d)

include hids hno

theorem submissions_nodup (statusFilter : String) :
    ((d.submissions statusFilter).map (·.1.id)).Nodup := by
  rw [map_id_submissions, nodup_flatMap_replicate (hids.sublist (List.filter_sublist.map _))]
  intro k hk
  obtain ⟨c, hc, rfl⟩ := List.mem_map.1 hk
  have hone := (noRepeats_iff names hids).1 hno c (List.mem_of_mem_filter hc)
  exact Nat.le_trans (submissionCount_le_timesShown d c.id) hone

/-- Where no campaign repeats, a page shows just the campaigns that it is to show. -/
theorem shownIds_perm_pageIds (order : QueueOrder) {statusFilter : String}
    (hfilter : statusFilter ∈ approvalFilters) (pagination : PaginationParams) :
    (shownIds order names d statusFilter pagination).Perm
      (pageIds order d statusFilter pagination) := by
  have hshown := shownIds_perm order names d hfilter pagination
  have hones : ∀ k ∈ (d.campaigns.map (·.id)).filter
      (· ∈ pageIds order d statusFilter pagination), d.timesShown k ≤ 1 := by
    intro k hk
    obtain ⟨c, hc, rfl⟩ := List.mem_map.1 (List.mem_of_mem_filter hk)
    exact (noRepeats_iff names hids).1 hno c hc
  have hnodup : (shownIds order names d statusFilter pagination).Nodup :=
    hshown.nodup_iff.2 ((nodup_flatMap_replicate (hids.filter _) _).2 hones)
  have hpage : (pageIds order d statusFilter pagination).Nodup := by
    have hordered := ((order.idsSorted (d.submissions statusFilter)).perm.map (·.1.id)).nodup_iff.2
      (submissions_nodup hids hno statusFilter)
    unfold pageIds page
    exact hordered.sublist (((List.take_sublist _ _).trans (List.drop_sublist _ _)).map _)
  rw [List.perm_ext_iff_of_nodup hnodup hpage]
  intro k
  rw [hshown.mem_iff, List.mem_flatMap]
  constructor
  · rintro ⟨k', hk', hmem⟩
    rw [List.eq_of_mem_replicate hmem]
    exact of_decide_eq_true (List.mem_filter.1 hk').2
  · intro hk
    obtain ⟨hcampaign, hsubmitted⟩ := mem_pageIds hk
    have htimes := submissionCount_le_timesShown d k
    exact ⟨k, List.mem_filter.2 ⟨hcampaign, decide_eq_true hk⟩,
      List.mem_replicate.2 ⟨by omega, rfl⟩⟩

/-- Where no campaign repeats on a page, a browse of the queue shows every submitted campaign of
the status once, however the database orders submissions of one moment each time, exactly if no
page ends between two submissions of one moment. -/
theorem approval_queue_browsed {statusFilter : String} (hfilter : statusFilter ∈ approvalFilters)
    (limit : Int) {n : Nat}
    (hn : (d.submissions statusFilter).length ≤ n * (getPaginationParams limit 0).limit) :
    (∀ orders : Nat → QueueOrder,
      (browse limit (fun i p ↦ shownIds (orders i) names d statusFilter p) n).Perm
        ((d.submissions statusFilter).map (·.1.id))) ↔
      ∀ i < n, Unsplit Submission.newestFirst (d.submissions statusFilter)
        (i * (getPaginationParams limit 0).limit) := by
  have hnodup := submissions_nodup hids hno statusFilter
  have hpages (orders : Nat → QueueOrder) :
      (browse limit (fun i p ↦ shownIds (orders i) names d statusFilter p) n).Perm
        ((walk (getPaginationParams limit 0).limit
          (fun i ↦ (orders i).ids (d.submissions statusFilter)) n).map (·.1.id)) :=
    browse_perm (fun i p ↦ shownIds_perm_pageIds hids hno (orders i) hfilter p) limit n
  rw [← map_walk_perm_iff hnodup (limit_pos limit 0) hn]
  constructor
  · intro hbrowse answers hanswers
    have hone := hbrowse fun i ↦ .answering (hanswers i)
    have hans : (fun i ↦ (QueueOrder.answering (hanswers i)).ids (d.submissions statusFilter)) =
        answers := funext fun i ↦ if_pos rfl
    have hwalk := (hpages fun i ↦ .answering (hanswers i)).symm.trans hone
    rw [hans] at hwalk
    exact hwalk
  · intro hwalk orders
    exact (hpages orders).trans (hwalk _ fun i ↦ (orders i).idsSorted _)

end Browse

/-! Two campaigns that were put up for approval at one moment. -/

def sameMomentDb : Db where
  campaigns := [
    { id := "a", advertiserOrganizationId := "o1", advertiserContractId := "k1", code := "A"
      status := .pendingApproval },
    { id := "b", advertiserOrganizationId := "o1", advertiserContractId := "k1", code := "B"
      status := .pendingApproval }]
  campaignStatusHistory := [
    { campaignId := "a", oldStatus := some .draft, newStatus := .pendingApproval
      changedBy := "u", changedAt := 5, reason := "Approval requested" },
    { campaignId := "b", oldStatus := some .draft, newStatus := .pendingApproval
      changedBy := "u", changedAt := 5, reason := "Approval requested" }]

theorem sameMoment_browsed :
    (¬ ∀ orders : Nat → QueueOrder,
      (browse 1 (fun i p ↦ shownIds (orders i) {} sameMomentDb "pending_approval" p) 2).Perm
        ((sameMomentDb.submissions "pending_approval").map (·.1.id))) ∧
    ∀ orders : Nat → QueueOrder,
      (browse 2 (fun i p ↦ shownIds (orders i) {} sameMomentDb "pending_approval" p) 1).Perm
        ((sameMomentDb.submissions "pending_approval").map (·.1.id)) := by
  have hids : (sameMomentDb.campaigns.map (·.id)).Nodup := by decide
  have hno : NoRepeats {} sameMomentDb := (noRepeats_iff {} hids).2 (by decide)
  constructor
  · rw [approval_queue_browsed hids hno (by decide) 1 (by decide)]
    decide
  · rw [approval_queue_browsed hids hno (by decide) 2 (by decide)]
    decide

end RetailMedia
