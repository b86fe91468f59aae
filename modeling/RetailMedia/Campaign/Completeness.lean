import RetailMedia.Campaign.Lifecycle
import RetailMedia.Inventory.Plans

/-! Whether a request for approval reserves every hour of every flight. -/

namespace RetailMedia

/-! ## A list of reservations -/

/-- What accepted reservations, made one after another, leave of the bookings. -/
structure AllReserved (rs : List ReserveRequest) (total ttl now : Int) (db db' : Db) : Prop where
  kept : Kept total db db'
  frame : InventoryOnly db db'
  others : ∀ placementId, (∀ r ∈ rs, r.placementId ≠ placementId) →
    db'.bookingsOf placementId = db.bookingsOf placementId
  again : ∀ placementId, db.bookingsOf placementId ≠ [] → (∃ r ∈ rs, r.placementId = placementId) →
    db'.bookingsOf placementId =
      (db.bookingsOf placementId).map (·.again (reservedUntil now ttl))
  fresh : ∀ placementId r, db.bookingsOf placementId = [] →
    rs.find? (·.placementId = placementId) = some r →
    List.Forall₂ (FreshBooking r db') (slotPairs r.startsAt r.endsAt)
      (db'.bookingsOf placementId)

/-- Bookings that are reserved stay as they are when their placement reserves again. -/
theorem map_again_of_fresh {r : ReserveRequest} {db : Db} {ps : List (Int × Nat)}
    {bs : List InventoryBooking} (h : List.Forall₂ (FreshBooking r db) ps bs) (t : Int) :
    bs.map (·.again t) = bs := by
  have hid : ∀ b ∈ bs, b.again t = id b := by
    intro b hb
    obtain ⟨p, -, hfresh⟩ := Rows.forall₂_mem_right h hb
    have hactive : b.isActive = true := by simp [InventoryBooking.isActive, hfresh.status]
    exact if_pos hactive
  rw [List.map_congr_left hid, List.map_id]

theorem AllReserved.cons {r : ReserveRequest} {rs : List ReserveRequest} {now : Int}
    {db db1 db' : Db} (hframe : InventoryOnly db db1) (h : Reserved r now db db1)
    (hrest : AllReserved rs r.defaultTotalCapacity r.reservationTtlHours now db1 db') :
    AllReserved (r :: rs) r.defaultTotalCapacity r.reservationTtlHours now db db' := by
  refine ⟨h.kept.trans hrest.kept, hframe.trans hrest.frame, fun q hq ↦ ?_, fun q hq hex ↦ ?_,
    fun q r' hq hfind ↦ ?_⟩
  · rw [hrest.others q fun r' hr' ↦ hq r' (List.mem_cons_of_mem r hr'),
      h.others q (hq r List.mem_cons_self).symm]
  · by_cases hrq : r.placementId = q
    · subst hrq
      have h1 := h.again hq
      by_cases hlater : ∃ r' ∈ rs, r'.placementId = r.placementId
      · rw [hrest.again _ h.booked hlater, h1, List.map_map]
        exact List.map_congr_left fun b _ ↦ again_again _ b
      · rw [hrest.others _ fun r' hr' heq ↦ hlater ⟨r', hr', heq⟩, h1]
    · have h1 := h.others q (Ne.symm hrq)
      have hlater : ∃ r' ∈ rs, r'.placementId = q := by
        obtain ⟨r', hr', heq⟩ := hex
        rcases List.mem_cons.1 hr' with rfl | hr'
        · exact absurd heq hrq
        · exact ⟨r', hr', heq⟩
      rw [← h1]
      exact hrest.again q (h1 ▸ hq) hlater
  · by_cases hrq : r.placementId = q
    · subst hrq
      have hr : r = r' := by simpa using hfind
      subst hr
      have hfresh := h.fresh hq
      -- a later request of the placement finds bookings that are reserved already
      have hsame : db'.bookingsOf r.placementId = db1.bookingsOf r.placementId := by
        by_cases hlater : ∃ r' ∈ rs, r'.placementId = r.placementId
        · rw [hrest.again _ h.booked hlater, map_again_of_fresh hfresh]
        · exact hrest.others _ fun r' hr' heq ↦ hlater ⟨r', hr', heq⟩
      rw [hsame]
      exact hfresh.imp fun p b hb ↦ hb.kept hrest.kept
    · have h1 := h.others q (Ne.symm hrq)
      rw [List.find?_cons_of_neg (by simpa using hrq)] at hfind
      exact hrest.fresh q r' (h1 ▸ hq) hfind

theorem reserveAll_ok {now total ttl : Int} {rs : List ReserveRequest} {db : Db}
    (htotal : ∀ r ∈ rs, r.defaultTotalCapacity = total)
    (httl : ∀ r ∈ rs, r.reservationTtlHours = ttl) (hdb : db.BookingsHaveSlots)
    (h : (reserveAll now db rs).2 = .ok ()) :
    AllReserved rs total ttl now db (reserveAll now db rs).1 := by
  induction rs generalizing db with
  | nil =>
      exact ⟨Kept.refl total db, InventoryOnly.refl db, fun _ _ ↦ rfl,
        fun _ _ ⟨_, hr, _⟩ ↦ absurd hr List.not_mem_nil, fun _ _ _ hr ↦ by cases hr⟩
  | cons r rs ih =>
      have hframe := reserve_inventoryOnly db now r
      have hres := reserve_ok r now hdb
      unfold reserveAll at h ⊢
      cases hone : reserveInventoryForPlacement db now r with
      | mk db1 result =>
          rw [hone] at h hframe hres
          cases result with
          | error e => cases h
          | ok res =>
              have hr := hres res rfl
              have hrest := ih (fun r' hr' ↦ htotal r' (List.mem_cons_of_mem r hr'))
                (fun r' hr' ↦ httl r' (List.mem_cons_of_mem r hr')) hr.haveSlots h
              have htotal0 := htotal r List.mem_cons_self
              have httl0 := httl r List.mem_cons_self
              subst htotal0 httl0
              exact hrest.cons hframe hr

/-! ## The cleanup before the reservations -/

/-- A booking after the cleanup of its campaign's reservations. -/
def cleanedUp (campaignId : String) (now : Int) (b : InventoryBooking) : InventoryBooking :=
  if b.campaignId = campaignId ∧ b.isActive then
    { b with
      status := .released
      releasedAt := some now
      releaseReason := "re-reserve cleanup" }
  else b

theorem releaseSlot_shape (b : InventoryBooking) (s : InventorySlot) :
    (releaseSlot b s).shape = s.shape := by
  unfold releaseSlot
  split <;> rfl

theorem release_bookings {db : Db} (hdb : db.BookingsHaveSlots) (now : Int)
    (campaignId : String) :
    (releaseInventoryForCampaign db now campaignId "re-reserve cleanup").1.inventoryBookings =
      db.inventoryBookings.map (cleanedUp campaignId now) := by
  refine (settle_bookings releaseSlot_shape hdb).trans (List.map_congr_left fun b _ ↦ ?_)
  unfold cleanedUp
  by_cases h : b.campaignId = campaignId ∧ b.isActive = true
  · rw [if_pos h, if_pos (by simpa using h)]
    rfl
  · rw [if_neg h, if_neg (by simpa using h)]

theorem cleanedUp_kept (campaignId : String) (now : Int) (b : InventoryBooking) :
    (cleanedUp campaignId now b).campaignPlacementId = b.campaignPlacementId ∧
      (cleanedUp campaignId now b).inventorySlotId = b.inventorySlotId ∧
      (cleanedUp campaignId now b).capacityUnits = b.capacityUnits := by
  unfold cleanedUp
  split <;> exact ⟨rfl, rfl, rfl⟩

/-- Cleaned up and taken again, a booking is reserved, unless another campaign committed it. -/
theorem renewed_status (campaignId : String) (now t : Int) (b : InventoryBooking) :
    ((cleanedUp campaignId now b).again t).status = .reserved ↔
      ¬ (b.status = .committed ∧ b.campaignId ≠ campaignId) := by
  unfold cleanedUp InventoryBooking.again InventoryBooking.isActive InventoryBooking.revive
  by_cases hc : b.campaignId = campaignId <;> cases hs : b.status <;> simp [hc, hs]

/-! ## Completeness -/

/-- A reserved booking of the placement on the slot `p`, for its whole share. -/
def HourReserved (db : Db) (pl : CampaignPlacement) (surfaceId : String) (p : Int × Nat) : Prop :=
  ∃ s ∈ db.inventorySlots, s.IsAt surfaceId p ∧ ∃ b ∈ db.bookingsOf pl.id,
    b.inventorySlotId = s.id ∧ b.status = .reserved ∧
      b.capacityUnits = sovUnits s.totalCapacity pl.shareOfVoicePct

def EveryHour (P : CampaignPlacement → String → Int × Nat → Prop) (db : Db)
    (campaignId : String) : Prop :=
  ∀ pl ∈ db.placementsOf campaignId, ∀ surfaceId, pl.displaySurfaceId = some surfaceId →
    ∀ f ∈ db.flightsOf campaignId, ∀ p ∈ slotPairs (.utc f.startAt) (.utc f.endAt),
      P pl surfaceId p

/-- Every placement has every hour of every flight reserved. -/
def FullyReserved (db : Db) (campaignId : String) : Prop :=
  EveryHour (HourReserved db) db campaignId

/-- Before the request: a placement with bookings has one on the slot, of the right size and not
committed by another campaign; for a placement without, the first flight has the hour, and the
share of an existing slot is the same by the default in place of a zero total. -/
def HourReady (db : Db) (cfg : InventoryConfig) (campaignId : String) (pl : CampaignPlacement)
    (surfaceId : String) (p : Int × Nat) : Prop :=
  db.bookingsOf pl.id ≠ [] ∧ (∃ s ∈ db.inventorySlots, s.IsAt surfaceId p ∧
      ∃ b ∈ db.bookingsOf pl.id, b.inventorySlotId = s.id ∧
        ¬ (b.status = .committed ∧ b.campaignId ≠ campaignId) ∧
        b.capacityUnits = sovUnits s.totalCapacity pl.shareOfVoicePct) ∨
    db.bookingsOf pl.id = [] ∧
      (∃ f, (db.flightsOf campaignId).head? = some f ∧
        p ∈ slotPairs (.utc f.startAt) (.utc f.endAt)) ∧
      ∀ s ∈ db.inventorySlots, s.IsAt surfaceId p →
        sovUnits (s.totalOr cfg.defaultSlotCapacity) pl.shareOfVoicePct =
          sovUnits s.totalCapacity pl.shareOfVoicePct

theorem everyHour_frame {P : CampaignPlacement → String → Int × Nat → Prop} {db db' : Db}
    (h : InventoryOnly db db') (campaignId : String) :
    EveryHour P db' campaignId ↔ EveryHour P db campaignId := by
  obtain ⟨_, _, rfl⟩ := h
  rfl

theorem approvalRequests_frame {db db' : Db} (h : InventoryOnly db db') (cfg : InventoryConfig)
    (campaignId : String) :
    approvalRequests db' cfg campaignId = approvalRequests db cfg campaignId := by
  obtain ⟨_, _, rfl⟩ := h
  rfl

section Hours

variable {db db' : Db} {total : Int} (hslots : SlotTable db.inventorySlots)
  (hbookings : db.BookingsHaveSlots) (hk : Kept total db db') (pl : CampaignPlacement)
  (surfaceId : String) (p : Int × Nat)

include hslots hk

/-- Where the placement had bookings, they decide. -/
theorem hourReserved_again {f : InventoryBooking → InventoryBooking}
    {Q : InventoryBooking → Prop} (hb : db'.bookingsOf pl.id = (db.bookingsOf pl.id).map f)
    (hslot : ∀ b, (f b).inventorySlotId = b.inventorySlotId)
    (hunits : ∀ b, (f b).capacityUnits = b.capacityUnits)
    (hstatus : ∀ b, (f b).status = .reserved ↔ Q b) (hbookings : db.BookingsHaveSlots) :
    HourReserved db' pl surfaceId p ↔
      ∃ s ∈ db.inventorySlots, s.IsAt surfaceId p ∧ ∃ b ∈ db.bookingsOf pl.id,
        b.inventorySlotId = s.id ∧ Q b ∧
          b.capacityUnits = sovUnits s.totalCapacity pl.shareOfVoicePct := by
  constructor
  · rintro ⟨s', hs', hat, b', hb', hid, hst, hun⟩
    rw [hb] at hb'
    obtain ⟨b, hbm, rfl⟩ := List.mem_map.1 hb'
    have hmem := hbookings b (List.mem_filter.1 hbm).1
    obtain ⟨s, hs, hsid⟩ := List.mem_map.1 hmem
    obtain ⟨s'', hs'', heq⟩ := hk.fwd s hs
    have hsame : s'' = s' := by
      apply Rows.key_inj (hk.table hslots).ids hs'' hs'
      rw [id_shape heq, hsid, ← hslot b, hid]
    subst hsame
    refine ⟨s, hs, (isAt_shape heq).1 hat, b, hbm, hsid.symm, (hstatus b).1 hst, ?_⟩
    rw [← hunits b, hun, total_shape heq]
  · rintro ⟨s, hs, hat, b, hbm, hid, hQ, hun⟩
    obtain ⟨s', hs', heq⟩ := hk.fwd s hs
    refine ⟨s', hs', (isAt_shape heq).2 hat, f b, hb ▸ List.mem_map_of_mem hbm, ?_,
      (hstatus b).2 hQ, ?_⟩
    · rw [hslot, hid, id_shape heq]
    · rw [hunits, hun, total_shape heq]

/-- Where it had none, the window of its first flight decides. -/
theorem hourReserved_fresh {r : ReserveRequest} (hunits : r.capacityUnits = none)
    (hsov : r.sovPercent = some pl.shareOfVoicePct) (hsurface : r.displaySurfaceId = surfaceId)
    (htotal : r.defaultTotalCapacity = total)
    (hb : List.Forall₂ (FreshBooking r db') (slotPairs r.startsAt r.endsAt)
      (db'.bookingsOf pl.id)) :
    HourReserved db' pl surfaceId p ↔ p ∈ slotPairs r.startsAt r.endsAt ∧
      ∀ s ∈ db.inventorySlots, s.IsAt surfaceId p →
        sovUnits (s.totalOr total) pl.shareOfVoicePct =
          sovUnits s.totalCapacity pl.shareOfVoicePct := by
  have hreq (s : InventorySlot) : requestedUnits r.capacityUnits r.sovPercent
      r.defaultTotalCapacity s = sovUnits (s.totalOr total) pl.shareOfVoicePct := by
    rw [hunits, hsov, htotal]
    rfl
  have htable := hk.table hslots
  constructor
  · rintro ⟨s', hs', hat, b', hb', hid, -, hun⟩
    obtain ⟨p', hp', hfresh⟩ := Rows.forall₂_mem_right hb hb'
    obtain ⟨s0, hs0, hat0, hid0, hun0⟩ := hfresh.slot
    have hsame : s0 = s' := Rows.key_inj htable.ids hs0 hs' (hid0.symm.trans hid)
    subst hsame
    rw [hsurface, isAt_iff] at hat0
    rw [isAt_iff] at hat
    have hpp : p' = p := (Prod.ext_iff.1 (hat0.symm.trans hat)).2
    refine ⟨hpp ▸ hp', fun s hs hats ↦ ?_⟩
    obtain ⟨s'', hs'', heq⟩ := hk.fwd s hs
    have hkey : s'' = s0 := by
      apply Rows.key_inj htable.keys hs'' hs0
      rw [key_shape heq, hat, isAt_iff.1 hats]
    subst hkey
    have htot := total_shape heq
    rw [hreq] at hun0
    unfold InventorySlot.totalOr at hun0 ⊢
    rw [← htot, ← hun0, hun]
  · rintro ⟨hp, hshare⟩
    obtain ⟨b, hbm, hfresh⟩ := Rows.forall₂_mem_left hb hp
    obtain ⟨s, hs, hat, hid, hun⟩ := hfresh.slot
    rw [hsurface] at hat
    refine ⟨s, hs, hat, b, hbm, hid, hfresh.status, ?_⟩
    rw [hun, hreq]
    rcases hk.bwd s hs with ⟨s0, hs0, heq⟩ | hnew
    · have := hshare s0 hs0 ((isAt_shape heq).2 hat)
      unfold InventorySlot.totalOr at this ⊢
      rwa [total_shape heq] at this
    · unfold InventorySlot.totalOr
      rw [hnew, ite_self]

end Hours

/-! ## The request -/

theorem placementRequests_mem {cfg : InventoryConfig} {campaignId : String}
    {flights : List CampaignFlight} {pl : CampaignPlacement} {r : ReserveRequest}
    (h : r ∈ placementRequests cfg campaignId flights pl) :
    r.placementId = pl.id ∧ r.defaultTotalCapacity = cfg.defaultSlotCapacity ∧
      r.reservationTtlHours = cfg.reservationTtlHours := by
  unfold placementRequests at h
  split at h
  · cases h
  · obtain ⟨f, -, rfl⟩ := List.mem_map.1 h
    exact ⟨rfl, rfl, rfl⟩

/-- A placement's first reservation is for the first flight. -/
theorem find_placementRequest {cfg : InventoryConfig} {campaignId surfaceId : String}
    {f : CampaignFlight} {fs : List CampaignFlight} {pl : CampaignPlacement}
    (hsurface : pl.displaySurfaceId = some surfaceId) {pls : List CampaignPlacement}
    (hpl : pl ∈ pls) (hids : (pls.map (·.id)).Nodup) :
    (pls.flatMap (placementRequests cfg campaignId (f :: fs))).find? (·.placementId = pl.id) =
      some (flightRequest cfg campaignId pl surfaceId f) := by
  induction pls with
  | nil => cases hpl
  | cons q pls ih =>
      obtain ⟨hnot, hids⟩ := List.nodup_cons.1 hids
      rw [List.flatMap_cons, List.find?_append]
      rcases List.mem_cons.1 hpl with rfl | hpl
      · have hhead : placementRequests cfg campaignId (f :: fs) pl =
            flightRequest cfg campaignId pl surfaceId f ::
              fs.map (flightRequest cfg campaignId pl surfaceId) := by
          unfold placementRequests
          rw [hsurface]
          rfl
        rw [hhead, List.find?_cons_of_pos (by simp [flightRequest])]
        rfl
      · have hother : (placementRequests cfg campaignId (f :: fs) q).find?
            (fun r ↦ decide (r.placementId = pl.id)) = none := by
          rw [List.find?_eq_none]
          intro r hr
          rw [(placementRequests_mem hr).1]
          have hne : q.id ≠ pl.id := fun heq ↦ hnot (List.mem_map.2 ⟨pl, hpl, heq.symm⟩)
          simpa using hne
        rw [hother, ih hpl hids]
        rfl

/-- A successful request: the campaign has flights, and all reservations after the cleanup were
accepted. -/
theorem requestApproval_ok {db : Db} {cfg : InventoryConfig} {now : Int} {campaignId : String}
    {changedBy : String} {scope : Option (List String)}
    (hok : (requestCampaignApproval db cfg now campaignId changedBy scope).2 =
      .ok (some (.draft, .pendingApproval, none))) :
    ∃ c, c.id = campaignId ∧ db.flightsOf campaignId ≠ [] ∧
      let released := (releaseInventoryForCampaign db now campaignId "re-reserve cleanup").1
      let requests := approvalRequests released cfg campaignId
      (reserveAll now released requests).2 = .ok () ∧
        (requestCampaignApproval db cfg now campaignId changedBy scope).1 =
          (reserveAll now released requests).1.moveCampaign c .pendingApproval changedBy now
            "Approval requested" := by
  obtain ⟨c, hc, hstatus, hbody, hdb⟩ := guardedTransition_some hok
  have hcid : c.id = campaignId := Rows.get_key hc
  subst hcid
  refine ⟨c, ?_⟩
  unfold requestCampaignApproval
  rw [hdb]
  unfold reservationPhase at hbody ⊢
  dsimp only at hbody ⊢
  cases hready : notReady db c with
  | some reason =>
      rw [hready] at hbody
      simp at hbody
  | none =>
      rw [hready] at hbody
      have hflights : db.flightsOf c.id ≠ [] := by
        intro hnil
        unfold notReady missingParts at hready
        simp [hnil] at hready
      refine ⟨rfl, hflights, ?_⟩
      dsimp only at hbody ⊢
      cases hall : reserveAll now (releaseInventoryForCampaign db now c.id "re-reserve cleanup").1
          (approvalRequests (releaseInventoryForCampaign db now c.id "re-reserve cleanup").1 cfg
            c.id) with
      | mk db' result =>
          rw [hall] at hbody
          cases result with
          | error e => simp at hbody
          | ok _ => exact ⟨rfl, rfl⟩

/-- A successful request reserves every hour of every flight exactly when every hour was ready
for it. -/
theorem fullyReserved_iff_ready (db : Db) (cfg : InventoryConfig) (now : Int)
    (campaignId changedBy : String) (scope : Option (List String))
    (hslots : SlotTable db.inventorySlots) (hbookings : db.BookingsHaveSlots)
    (hplacements : (db.campaignPlacements.map (·.id)).Nodup)
    (hsov : ∀ pl ∈ db.placementsOf campaignId, pl.displaySurfaceId.isSome →
      1 ≤ pl.shareOfVoicePct ∧ pl.shareOfVoicePct ≤ 100)
    (hok : (requestCampaignApproval db cfg now campaignId changedBy scope).2 =
      .ok (some (.draft, .pendingApproval, none))) :
    FullyReserved (requestCampaignApproval db cfg now campaignId changedBy scope).1 campaignId ↔
      EveryHour (HourReady db cfg campaignId) db campaignId := by
  obtain ⟨c, -, hflights, hall, hdb⟩ := requestApproval_ok hok
  have hframe1 : InventoryOnly db
      (releaseInventoryForCampaign db now campaignId "re-reserve cleanup").1 :=
    settle_inventoryOnly _ _ _ _ _
  have hk1 : Kept cfg.defaultSlotCapacity db
      (releaseInventoryForCampaign db now campaignId "re-reserve cleanup").1 :=
    settle_kept releaseSlot_shape _ db
  have hb1 := release_bookings hbookings now campaignId
  rw [hdb]
  generalize (releaseInventoryForCampaign db now campaignId "re-reserve cleanup").1 = db1 at *
  have hbookings1 : db1.BookingsHaveSlots := by
    refine hbookings.kept hk1 ?_
    rw [hb1, List.map_map]
    exact List.map_congr_left fun b _ ↦ (cleanedUp_kept campaignId now b).2.1
  rw [approvalRequests_frame hframe1] at hall ⊢
  have hreq {r : ReserveRequest} (hr : r ∈ approvalRequests db cfg campaignId) :
      r.defaultTotalCapacity = cfg.defaultSlotCapacity ∧
        r.reservationTtlHours = cfg.reservationTtlHours := by
    obtain ⟨pl, -, hr⟩ := List.mem_flatMap.1 hr
    exact (placementRequests_mem hr).2
  have hres := reserveAll_ok (fun r hr ↦ (hreq hr).1) (fun r hr ↦ (hreq hr).2) hbookings1 hall
  generalize (reserveAll now db1 (approvalRequests db cfg campaignId)).1 = db2 at *
  have hk := hk1.trans hres.kept
  show EveryHour (HourReserved db2) db2 campaignId ↔ _
  rw [everyHour_frame (hframe1.trans hres.frame)]
  refine forall₂_congr fun pl hpl ↦ forall₂_congr fun surfaceId hsurface ↦
    forall₂_congr fun f hf ↦ forall₂_congr fun p hp ↦ ?_
  have hshare := hsov pl hpl (by rw [hsurface]; rfl)
  have hsov' : pl.sov = pl.shareOfVoicePct := if_neg (by omega)
  have hof1 : db1.bookingsOf pl.id = (db.bookingsOf pl.id).map (cleanedUp campaignId now) :=
    bookingsOf_map hb1 (fun b ↦ (cleanedUp_kept campaignId now b).1) fun _ _ ↦ rfl
  obtain ⟨first, rest, hfs⟩ := List.exists_cons_of_ne_nil hflights
  have hfind : (approvalRequests db cfg campaignId).find? (·.placementId = pl.id) =
      some (flightRequest cfg campaignId pl surfaceId first) := by
    unfold approvalRequests
    rw [hfs]
    exact find_placementRequest hsurface hpl (hplacements.sublist (List.filter_sublist.map _))
  unfold HourReady
  by_cases hold : db.bookingsOf pl.id = []
  · have hfresh := hres.fresh pl.id _ (by rw [hof1, hold]; rfl) hfind
    rw [hourReserved_fresh hslots hk pl surfaceId p rfl (congrArg some hsov') rfl rfl hfresh]
    simp [hold, hfs, flightRequest]
  · have hof2 := hres.again pl.id (by rw [hof1]; exact fun h ↦ hold (List.map_eq_nil_iff.1 h))
      ⟨_, List.mem_of_find?_eq_some hfind, rfl⟩
    rw [hof1, List.map_map] at hof2
    rw [hourReserved_again hslots hk pl surfaceId p hof2
      (fun b ↦ (again_kept _ _).2.1.trans (cleanedUp_kept campaignId now b).2.1)
      (fun b ↦ (again_kept _ _).2.2.1.trans (cleanedUp_kept campaignId now b).2.2)
      (fun b ↦ renewed_status campaignId now _ b) hbookings]
    simp [hold]

/-! A draft campaign for one surface, with its flights as a parameter. -/

def demoChecksum : String := "0123456789abcdef0123456789abcdef0123456789abcdef0123456789abcdef"

def draftCampaignDb (flights : List CampaignFlight) : Db where
  displaySurfaces := [{ id := "s1", logicalCarrierId := "l1", storeId := "st1", code := "S-1" }]
  campaigns := [
    { id := "a", advertiserOrganizationId := "o1", advertiserContractId := "k1", code := "A" }]
  advertiserContracts := [{ id := "k1", validFrom := 0 }]
  campaignFlights := flights
  campaignPlacements := [{ id := "pa", campaignId := "a", displaySurfaceId := some "s1" }]
  campaignCreatives := [{ campaignId := "a", creativeAssetId := "c1" }]
  creativeAssets := [{
    id := "c1", code := "C-1", mediaType := "video/mp4", storageKey := "creatives/c1"
    sha256Checksum := demoChecksum, fileSizeBytes := 1000 }]

-- 10:00 to 11:00 and 11:00 to 12:00 of the same day
def earlyFlight : CampaignFlight where
  id := "f1"
  campaignId := "a"
  startAt := 1782900000000000
  endAt := 1782903600000000

def lateFlight : CampaignFlight where
  id := "f2"
  campaignId := "a"
  startAt := 1782903600000000
  endAt := 1782907200000000

theorem second_flight_not_reserved :
    ¬ ∀ (db : Db) (cfg : InventoryConfig) (now : Int) (campaignId changedBy : String)
      (scope : Option (List String)), SlotTable db.inventorySlots → db.BookingsHaveSlots →
      (db.campaignPlacements.map (·.id)).Nodup →
      (∀ pl ∈ db.placementsOf campaignId, pl.displaySurfaceId.isSome →
        1 ≤ pl.shareOfVoicePct ∧ pl.shareOfVoicePct ≤ 100) →
      (requestCampaignApproval db cfg now campaignId changedBy scope).2 =
        .ok (some (.draft, .pendingApproval, none)) →
      FullyReserved (requestCampaignApproval db cfg now campaignId changedBy scope).1
        campaignId := by
  intro h
  have hrun := h (draftCampaignDb [earlyFlight, lateFlight]) {} 1 "a" "u1" none
    ⟨List.nodup_nil, List.nodup_nil⟩ (fun b hb ↦ absurd hb List.not_mem_nil) (by decide)
    (by decide) (by decide +kernel)
  have hhour := hrun { id := "pa", campaignId := "a", displaySurfaceId := some "s1" }
    (by decide +kernel) "s1" rfl lateFlight (.tail _ (.head _)) (20635, 11) (by decide +kernel)
  revert hhour
  unfold HourReserved
  decide +kernel

theorem single_flight_reserved :
    FullyReserved (requestCampaignApproval (draftCampaignDb [earlyFlight]) {} 1 "a" "u1"
      none).1 "a" := by
  refine (fullyReserved_iff_ready (draftCampaignDb [earlyFlight]) {} 1 "a" "u1" none
    ⟨List.nodup_nil, List.nodup_nil⟩ (fun b hb ↦ absurd hb List.not_mem_nil) (by decide)
    (by decide) (by decide +kernel)).2 ?_
  intro pl _ surfaceId _ f hf p hp
  have hfirst : f = earlyFlight := List.mem_singleton.1 (List.mem_filter.1 hf).1
  subst hfirst
  exact .inr ⟨rfl, ⟨_, rfl, hp⟩, fun s hs ↦ absurd hs List.not_mem_nil⟩

end RetailMedia
