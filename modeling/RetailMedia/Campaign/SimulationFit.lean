import RetailMedia.Campaign.Simulation

/-! The simulation and the check look at each placement alone, the reservations at all of them in
turn: the two agree exactly on the campaigns whose placements fit beside each other. -/

namespace RetailMedia

/-! ## What the simulation has seen -/

theorem detected_blocking {db : Db} {now : Int} {surfaceId : String} {startsAt endsAt : DateTime}
    {units sov : Option Int} {default : Int}
    (h : (detectInventoryConflicts db now surfaceId startsAt endsAt units sov default).2.blocking =
      []) :
    (detectInventoryConflicts db now surfaceId startsAt endsAt units sov default).2.hasConflicts =
      false := by
  revert h
  unfold detectInventoryConflicts
  cases Rows.get (·.id) surfaceId db.displaySurfaces with
  | none =>
      intro h
      cases h
  | some surface =>
      dsimp only
      split
      · intro h
        cases h
      · split
        · intro h
          exact absurd h (List.append_ne_nil_of_right_ne_nil _ (List.cons_ne_nil _ _))
        · intro h
          dsimp only at h ⊢
          rw [h]
          rfl

theorem flightRequest_byShare (cfg : InventoryConfig) (campaignId : String) (p : CampaignPlacement)
    (surfaceId : String) (f : CampaignFlight) :
    (flightRequest cfg campaignId p surfaceId f).ByShare := ⟨rfl, rfl⟩

theorem PlacementTotals.add_fit {t : PlacementTotals} {a : Availability} {c : Conflicts}
    {rules : List InventoryRule} : (t.add a c rules).fit = true ↔
      t.fit = true ∧ a.allAvailable = true ∧ c.blocking = [] := by
  simp [PlacementTotals.add]

section Simulated

variable {now : Int} {cfg : InventoryConfig}

theorem simulateFlights_fit (campaignId : String) {p : CampaignPlacement} {surfaceId : String}
    {db : Db}
    {t t' : PlacementTotals} {flights : List CampaignFlight}
    (h : (simulateFlights now cfg.defaultSlotCapacity p surfaceId db t flights).2 = .ok t')
    (hfit : t'.fit = true) : t.fit = true ∧
      ∀ f ∈ flights, (flightRequest cfg campaignId p surfaceId f).Passes db now := by
  induction flights generalizing db t with
  | nil =>
      obtain rfl := Except.ok.inj h
      exact ⟨hfit, fun f hf ↦ absurd hf List.not_mem_nil⟩
  | cons f flights ih =>
      have hgrow := computeInventoryAvailability_grows db surfaceId (.utc f.startAt) (.utc f.endAt)
        none (some p.sov) cfg.defaultSlotCapacity
      unfold simulateFlights at h
      split at h
      · cases h
      · rename_i db' a heq
        rw [heq] at hgrow
        -- the conflicts are looked for after the slots of the window have been created
        have hgrow' := detectInventoryConflicts_grows db' now surfaceId (.utc f.startAt)
          (.utc f.endAt) none (some p.sov) cfg.defaultSlotCapacity
        obtain ⟨hadd, hrest⟩ := ih h
        have hparts : t.fit = true ∧ a.allAvailable = true ∧
            (detectInventoryConflicts db' now surfaceId (.utc f.startAt) (.utc f.endAt) none
              (some p.sov) cfg.defaultSlotCapacity).2.blocking = [] :=
          PlacementTotals.add_fit.1 hadd
        have hpass : (flightRequest cfg campaignId p surfaceId f).Passes db' now :=
          (passes_iff_served _ db' now).2
            ((noConflict_iff_served _ db' now).1 (detected_blocking hparts.2.2))
        refine ⟨hparts.1, fun g hg ↦ ?_⟩
        rcases List.mem_cons.1 hg with rfl | hg
        · exact (passes_grows hgrow).1 hpass
        · exact (passes_grows (hgrow.trans hgrow')).1 (hrest g hg)

theorem simulateFlights_grows (now : Int) (cfg : InventoryConfig) (p : CampaignPlacement)
    (surfaceId : String) (db : Db)
    (t : PlacementTotals) (flights : List CampaignFlight) :
    Grows cfg.defaultSlotCapacity db
      (simulateFlights now cfg.defaultSlotCapacity p surfaceId db t flights).1 := by
  induction flights generalizing db t with
  | nil => exact Grows.refl _ db
  | cons f flights ih =>
      have hgrow := computeInventoryAvailability_grows db surfaceId (.utc f.startAt) (.utc f.endAt)
        none (some p.sov) cfg.defaultSlotCapacity
      unfold simulateFlights
      split
      · rename_i db' e heq
        rw [heq] at hgrow
        exact hgrow
      · rename_i db' a heq
        rw [heq] at hgrow
        exact (hgrow.trans (detectInventoryConflicts_grows db' now surfaceId (.utc f.startAt)
          (.utc f.endAt) none (some p.sov) cfg.defaultSlotCapacity)).trans (ih _ _)

/-- A placement passes the simulation if the request of each of its flights would pass alone. -/
def PassesAlone (db : Db) (now : Int) (cfg : InventoryConfig) (campaignId : String)
    (flights : List CampaignFlight) (q : CampaignPlacement) : Prop :=
  ∀ surfaceId, q.displaySurfaceId = some surfaceId →
    ∀ f ∈ flights, (flightRequest cfg campaignId q surfaceId f).Passes db now

theorem simulatePlacements_fit (campaignId : String) {flights : List CampaignFlight} {db : Db}
    {x x' : Simulation}
    {placements : List CampaignPlacement}
    (h : (simulatePlacements now cfg.defaultSlotCapacity flights db x placements).2 = .ok x')
    (hfit : x'.overallFit = true) : x.overallFit = true ∧
      ∀ q ∈ placements, PassesAlone db now cfg campaignId flights q := by
  induction placements generalizing db x with
  | nil =>
      obtain rfl := Except.ok.inj h
      exact ⟨hfit, fun q hq ↦ absurd hq List.not_mem_nil⟩
  | cons q placements ih =>
      unfold simulatePlacements at h
      split at h
      · rename_i hnone
        obtain ⟨hx, hrest⟩ := ih h
        refine ⟨hx, fun q' hq' ↦ ?_⟩
        rcases List.mem_cons.1 hq' with rfl | hq'
        · intro surfaceId hsurface
          rw [hnone] at hsurface
          cases hsurface
        · exact hrest q' hq'
      · rename_i surfaceId hsome
        split at h
        · cases h
        · rename_i db' t heq
          have hgrow := simulateFlights_grows now cfg q surfaceId db {} flights
          rw [heq] at hgrow
          obtain ⟨hadd, hrest⟩ := ih h
          have hparts : x.overallFit = true ∧ t.fit = true := by
            simpa [Simulation.add, placementSimulation] using hadd
          obtain ⟨-, hflights⟩ := simulateFlights_fit campaignId
            (congrArg Prod.snd heq) hparts.2
          refine ⟨hparts.1, fun q' hq' ↦ ?_⟩
          rcases List.mem_cons.1 hq' with rfl | hq'
          · intro surfaceId' hsurface
            obtain rfl := Option.some.inj (hsome.symm.trans hsurface)
            exact hflights
          · intro surfaceId' hsurface f hf
            exact (passes_grows hgrow).1 (hrest q' hq' surfaceId' hsurface f hf)

end Simulated

/-! ## The reservations in turn -/

theorem reserveAll_append (now : Int) (db : Db) (rs rs' : List ReserveRequest) :
    reserveAll now db (rs ++ rs') =
      match reserveAll now db rs with
      | (db', .error e) => (db', .error e)
      | (db', .ok ()) => reserveAll now db' rs' := by
  induction rs generalizing db with
  | nil => rfl
  | cons r rs ih =>
      rw [List.cons_append, reserveAll, reserveAll]
      cases reserveInventoryForPlacement db now r with
      | mk db' result =>
          cases result with
          | error e => rfl
          | ok res => exact ih db'

theorem reserveAll_append_ok {now : Int} {db : Db} {rs rs' : List ReserveRequest} :
    (reserveAll now db (rs ++ rs')).2 = .ok () ↔
      (reserveAll now db rs).2 = .ok () ∧
        (reserveAll now (reserveAll now db rs).1 rs').2 = .ok () := by
  rw [reserveAll_append]
  cases reserveAll now db rs with
  | mk db' result =>
      cases result with
      | error e => simp
      | ok _ => simp

theorem reserveAll_cons_ok {now : Int} {db : Db} {r : ReserveRequest} (hr : r.ByShare)
    {rs : List ReserveRequest} : (reserveAll now db (r :: rs)).2 = .ok () ↔
      r.Passes db now ∧
        (reserveAll now (reserveInventoryForPlacement db now r).1 rs).2 = .ok () := by
  have hok := reserve_ok_iff hr db now
  rw [← passes_iff hr] at hok
  rw [reserveAll]
  cases hone : reserveInventoryForPlacement db now r with
  | mk db' result =>
      rw [hone] at hok
      cases result with
      | error e =>
          have hno : ¬ r.Passes db now := fun h ↦ by
            obtain ⟨res, hres⟩ := hok.2 h
            cases hres
          simp [hno]
      | ok res => simp [hok.1 ⟨res, rfl⟩]

theorem reserveAll_cons_state {now : Int} {db : Db} {r : ReserveRequest} (hr : r.ByShare)
    (hpass : r.Passes db now) (rs : List ReserveRequest) :
    (reserveAll now db (r :: rs)).1 =
      (reserveAll now (reserveInventoryForPlacement db now r).1 rs).1 := by
  obtain ⟨res, hres⟩ := (reserve_ok_iff hr db now).2 ((passes_iff hr db now).1 hpass)
  rw [reserveAll]
  cases hone : reserveInventoryForPlacement db now r with
  | mk db' result =>
      rw [hone] at hres
      obtain rfl : result = .ok res := hres
      rfl

/-- The flights after the first: the placement's bookings are reused, and nothing is taken. -/
theorem laterFlights_ok (cfg : InventoryConfig) (now : Int) (campaignId surfaceId : String)
    {q : CampaignPlacement} {db : Db} (flights : List CampaignFlight)
    (hsome : db.bookingsOf q.id ≠ []) (hactive : ∀ b ∈ db.bookingsOf q.id, b.isActive = true) :
    ((reserveAll now db (flights.map (flightRequest cfg campaignId q surfaceId))).2 = .ok () ↔
      ∀ f ∈ flights, (flightRequest cfg campaignId q surfaceId f).Passes db now) ∧
    ((reserveAll now db (flights.map (flightRequest cfg campaignId q surfaceId))).2 = .ok () →
      Grows cfg.defaultSlotCapacity db
        (reserveAll now db (flights.map (flightRequest cfg campaignId q surfaceId))).1) := by
  induction flights generalizing db with
  | nil => exact ⟨by simp [reserveAll], fun _ ↦ Grows.refl _ db⟩
  | cons f flights ih =>
      have hbyShare := flightRequest_byShare cfg campaignId q surfaceId f
      rw [List.map_cons, reserveAll_cons_ok hbyShare]
      by_cases hpass : (flightRequest cfg campaignId q surfaceId f).Passes db now
      · have hgrow := detected_grows (flightRequest cfg campaignId q surfaceId f) db now
        have hstate := reserve_again hpass hsome hactive
        have hbookings := hgrow.bookingsOf q.id
        obtain ⟨hiff, hgrows⟩ := ih (hbookings.symm ▸ hsome) (hbookings.symm ▸ hactive)
        rw [reserveAll_cons_state hbyShare hpass, hstate]
        constructor
        · rw [hiff, List.forall_mem_cons]
          refine and_congr_right fun _ ↦ forall₂_congr fun g _ ↦ ?_
          exact passes_grows hgrow
        · exact fun h ↦ hgrow.trans (hgrows h.2)
      · constructor
        · rw [List.forall_mem_cons]
          exact iff_of_false (fun h ↦ hpass h.1) (fun h ↦ hpass h.1)
        · exact fun h ↦ absurd h.1 hpass

/-! ## What the placements take -/

section LeftBy

variable {S : Supply} {default : Int} {flights : List CampaignFlight}

theorem leftBy_nil : S.leftBy default flights [] = S := by
  funext s p
  unfold Supply.leftBy bookedUnits
  cases flights with
  | nil => exact Capacity.take_zero _
  | cons first later => simp

/-- A placement without a surface, or a campaign without flights, takes nothing. -/
theorem leftBy_idle {earlier : List CampaignPlacement} {q : CampaignPlacement}
    (h : q.displaySurfaceId = none ∨ flights = []) :
    S.leftBy default flights (earlier ++ [q]) = S.leftBy default flights earlier := by
  funext s p
  unfold Supply.leftBy bookedUnits
  rcases h with h | rfl
  · simp [h]
  · rfl

/-- A placement takes its share from the hours of the first flight. -/
theorem leftBy_concat {earlier : List CampaignPlacement} {q : CampaignPlacement}
    {first : CampaignFlight} {later : List CampaignFlight} {surfaceId : String}
    (h : q.displaySurfaceId = some surfaceId) :
    S.leftBy default (first :: later) (earlier ++ [q]) =
      (S.leftBy default (first :: later) earlier).takeFrom surfaceId
        (slotPairs (.utc first.startAt) (.utc first.endAt)) fun p ↦
          (S.leftBy default (first :: later) earlier surfaceId p).units default q.sov := by
  funext s p
  unfold Supply.takeFrom
  by_cases hp : p ∈ slotPairs (.utc first.startAt) (.utc first.endAt)
  · by_cases hs : s = surfaceId
    · subst hs
      rw [if_pos ⟨rfl, hp⟩]
      unfold Supply.leftBy
      rw [Capacity.take_take]
      dsimp only
      rw [Capacity.units_take]
      unfold bookedUnits
      simp [hp, h]
    · have hother : ¬ some surfaceId = some s := fun heq ↦ hs (Option.some.inj heq).symm
      rw [if_neg fun hmem ↦ hs hmem.1]
      unfold Supply.leftBy bookedUnits
      simp [hp, h, hother]
  · rw [if_neg fun hmem ↦ hp hmem.2]
    unfold Supply.leftBy bookedUnits
    simp [hp]

end LeftBy

/-! ## The run over the placements -/

/-- The state when the placements of `earlier` have been reserved for, and those of `later` have
not. -/
structure Turn (db0 : Db) (cfg : InventoryConfig) (flights : List CampaignFlight)
    (earlier later : List CampaignPlacement) (db : Db) : Prop where
  frame : InventoryOnly db0 db
  table : SlotTable db.inventorySlots
  haveSlots : db.BookingsHaveSlots
  supply : db.supply cfg.defaultSlotCapacity =
    (db0.supply cfg.defaultSlotCapacity).leftBy cfg.defaultSlotCapacity flights earlier
  fresh : ∀ q ∈ later, db.bookingsOf q.id = []

/-- In its turn a request is refused for want of room only. -/
theorem passes_in_turn {r : ReserveRequest} (hr : r.ByShare) {db0 db : Db} {now : Int} {S : Supply}
    (hframe : InventoryOnly db0 db) (hsupply : db.supply r.defaultTotalCapacity = S)
    (hclear : r.Clear db0 now) : r.Passes db now ↔ r.Covered S := by
  rw [passes_iff hr, ReserveRequest.Clear.frame hframe, hsupply]
  exact and_iff_right hclear

theorem Turn.grow {db0 db db' : Db} {cfg : InventoryConfig} {flights : List CampaignFlight}
    {earlier later : List CampaignPlacement} (h : Turn db0 cfg flights earlier later db)
    (hg : Grows cfg.defaultSlotCapacity db db') : Turn db0 cfg flights earlier later db' where
  frame := h.frame.trans (.of_grows hg)
  table := (Kept.of_grows hg).table h.table
  haveSlots := h.haveSlots.kept (Kept.of_grows hg) (by rw [hg.bookings])
  supply := hg.supply.trans h.supply
  fresh := fun q hq ↦ (hg.bookingsOf q.id).trans (h.fresh q hq)

section Turns

variable {db0 db : Db} {cfg : InventoryConfig} {now : Int} {campaignId : String}
  {flights : List CampaignFlight} {earlier later : List CampaignPlacement} {q : CampaignPlacement}

/-- The first flight of a placement: its bookings take the share. -/
theorem Turn.first {first : CampaignFlight} {surfaceId : String}
    (h : Turn db0 cfg (first :: flights) earlier (q :: later) db) (hids : q.id ∉ later.map (·.id))
    (hsurface : q.displaySurfaceId = some surfaceId)
    (hpass : (flightRequest cfg campaignId q surfaceId first).Passes db now) :
    let db1 := (reserveInventoryForPlacement db now
      (flightRequest cfg campaignId q surfaceId first)).1
    Turn db0 cfg (first :: flights) (earlier ++ [q]) later db1 ∧ db1.bookingsOf q.id ≠ [] ∧
      ∀ b ∈ db1.bookingsOf q.id, b.isActive = true := by
  have hbyShare := flightRequest_byShare cfg campaignId q surfaceId first
  have hnone := h.fresh q List.mem_cons_self
  obtain ⟨res, hres⟩ := (reserve_ok_iff hbyShare db now).2 ((passes_iff hbyShare db now).1 hpass)
  have hreserved := reserve_ok _ now h.haveSlots res hres
  refine ⟨⟨?_, ?_, ?_, ?_, ?_⟩, hreserved.booked, ?_⟩
  · exact h.frame.trans (reserve_inventoryOnly db now _)
  · exact hreserved.kept.table h.table
  · exact hreserved.haveSlots
  · rw [leftBy_concat hsurface, ← h.supply]
    exact reserve_supply hbyShare h.table hpass hnone
  · intro q' hq'
    have hne : q'.id ≠ q.id := fun heq ↦ hids (heq ▸ List.mem_map_of_mem hq')
    exact (hreserved.others q'.id hne).trans (h.fresh q' (List.mem_cons_of_mem q hq'))
  · intro b hb
    obtain ⟨p, -, hfresh⟩ := Rows.forall₂_mem_right (hreserved.fresh hnone) hb
    exact decide_eq_true (.inl hfresh.status)

/-- The requests of one placement are accepted exactly if it fits in its turn. -/
theorem Turn.placement (h : Turn db0 cfg flights earlier (q :: later) db)
    (hids : q.id ∉ later.map (·.id)) (halone : PassesAlone db0 now cfg campaignId flights q) :
    ((reserveAll now db (placementRequests cfg campaignId flights q)).2 = .ok () ↔
      PlacementFits (db0.supply cfg.defaultSlotCapacity) cfg.defaultSlotCapacity flights earlier
        q) ∧
    ((reserveAll now db (placementRequests cfg campaignId flights q)).2 = .ok () →
      Turn db0 cfg flights (earlier ++ [q]) later
        (reserveAll now db (placementRequests cfg campaignId flights q)).1) := by
  have hidle : q.displaySurfaceId = none ∨ flights = [] →
      Turn db0 cfg flights (earlier ++ [q]) later db := fun hi ↦
    ⟨h.frame, h.table, h.haveSlots, h.supply.trans (leftBy_idle hi).symm,
      fun q' hq' ↦ h.fresh q' (List.mem_cons_of_mem q hq')⟩
  unfold PlacementFits placementRequests
  cases hsurface : q.displaySurfaceId with
  | none => exact ⟨by simp [reserveAll], fun _ ↦ hidle (.inl hsurface)⟩
  | some surfaceId =>
      cases flights with
      | nil => exact ⟨by simp [reserveAll], fun _ ↦ hidle (.inr rfl)⟩
      | cons first rest =>
          have hclear : ∀ f ∈ first :: rest,
              (flightRequest cfg campaignId q surfaceId f).Clear db0 now := fun f hf ↦
            ((passes_iff (flightRequest_byShare cfg campaignId q surfaceId f) db0 now).1
              (halone surfaceId hsurface f hf)).1
          have hbyShare := flightRequest_byShare cfg campaignId q surfaceId first
          have hfirst := passes_in_turn hbyShare h.frame h.supply (hclear first List.mem_cons_self)
          dsimp only
          rw [List.map_cons, reserveAll_cons_ok hbyShare]
          by_cases hpass : (flightRequest cfg campaignId q surfaceId first).Passes db now
          · obtain ⟨hturn, hsome, hactive⟩ := h.first hids hsurface hpass
            obtain ⟨hiff, hgrows⟩ := laterFlights_ok cfg now campaignId surfaceId rest hsome
              hactive
            rw [reserveAll_cons_state hbyShare hpass]
            constructor
            · rw [hiff]
              have hrest : ∀ f ∈ rest, ((flightRequest cfg campaignId q surfaceId f).Passes
                  (reserveInventoryForPlacement db now
                    (flightRequest cfg campaignId q surfaceId first)).1 now ↔
                  (flightRequest cfg campaignId q surfaceId f).Covered
                    ((db0.supply cfg.defaultSlotCapacity).leftBy cfg.defaultSlotCapacity
                      (first :: rest) (earlier ++ [q]))) := fun f hf ↦
                passes_in_turn (flightRequest_byShare cfg campaignId q surfaceId f) hturn.frame
                  hturn.supply (hclear f (List.mem_cons_of_mem first hf))
              constructor
              · rintro ⟨-, hall⟩ surfaceId' heq
                obtain rfl := Option.some.inj heq
                exact ⟨hfirst.1 hpass, fun f hf ↦ (hrest f hf).1 (hall f hf)⟩
              · intro hfits
                exact ⟨hpass, fun f hf ↦ (hrest f hf).2 ((hfits surfaceId rfl).2 f hf)⟩
            · exact fun hok ↦ hturn.grow (hgrows hok.2)
          · constructor
            · exact iff_of_false (fun hok ↦ hpass hok.1) fun hfits ↦
                hpass (hfirst.2 (hfits surfaceId rfl).1)
            · exact fun hok ↦ absurd hok.1 hpass

/-- All placements in turn. -/
theorem Turn.placements (h : Turn db0 cfg flights earlier later db)
    (hids : (later.map (·.id)).Nodup)
    (halone : ∀ q ∈ later, PassesAlone db0 now cfg campaignId flights q) :
    (reserveAll now db (later.flatMap (placementRequests cfg campaignId flights))).2 = .ok () ↔
      FitInTurn (db0.supply cfg.defaultSlotCapacity) cfg.defaultSlotCapacity flights earlier
        later := by
  induction later generalizing db earlier with
  | nil => exact iff_of_true rfl trivial
  | cons q later ih =>
      obtain ⟨hnot, hids⟩ := List.nodup_cons.1 hids
      obtain ⟨hiff, hturn⟩ := h.placement hnot (halone q List.mem_cons_self)
      rw [List.flatMap_cons, reserveAll_append_ok]
      by_cases hok : (reserveAll now db (placementRequests cfg campaignId flights q)).2 = .ok ()
      · exact and_congr hiff (ih (hturn hok) hids
          fun q' hq' ↦ halone q' (List.mem_cons_of_mem q hq'))
      · exact iff_of_false (fun hall ↦ hok hall.1) fun hfits ↦ hok (hiff.2 hfits.1)

end Turns

/-! ## Simulation and reservation -/

/-- What a caller is told before the approval request: the simulation fits overall, and the
inventory is available. -/
structure PreApproved (db : Db) (now : Int) (campaignId : String) (default : Int) : Prop where
  simulated : SimulatedFit db now campaignId default
  checked : (checkInventoryAvailableForCampaign db campaignId default).2.1 = true

/-- No booking is of the campaign or of one of its placements. -/
def Db.Unbooked (db : Db) (campaignId : String) : Prop :=
  ∀ b ∈ db.inventoryBookings, b.campaignId ≠ campaignId ∧
    ∀ q ∈ db.placementsOf campaignId, b.campaignPlacementId ≠ q.id

/-- After both checks, the reservations of the approval request succeed exactly if the placements
fit beside each other. -/
theorem reservations_succeed_iff (db : Db) (cfg : InventoryConfig) (now : Int)
    (campaignId : String) (hslots : SlotTable db.inventorySlots)
    (hbookings : db.BookingsHaveSlots) (hplacements : (db.campaignPlacements.map (·.id)).Nodup)
    (hunbooked : db.Unbooked campaignId)
    (hpre : PreApproved db now campaignId cfg.defaultSlotCapacity) :
    (reservationPhase db cfg now campaignId).2 = .ok () ↔ CampaignFits db cfg campaignId := by
  obtain ⟨x, hx, hfit⟩ := hpre.simulated
  obtain ⟨-, hsimulated⟩ := simulatePlacements_fit campaignId hx hfit
  have halone : ∀ q ∈ db.placementsOf campaignId,
      PassesAlone db now cfg campaignId (db.flightsOf campaignId) q := by
    intro q hq surfaceId hsurface
    exact hsimulated q (List.mem_filter.2 ⟨hq, by rw [hsurface]; rfl⟩) surfaceId hsurface
  have hreleased : (releaseInventoryForCampaign db now campaignId "re-reserve cleanup").1 = db := by
    apply settleBookings_none
    intro b hb
    simp [(hunbooked b hb).1]
  have hturn : Turn db cfg (db.flightsOf campaignId) [] (db.placementsOf campaignId) db := by
    refine ⟨InventoryOnly.refl db, hslots, hbookings, leftBy_nil.symm, fun q hq ↦ ?_⟩
    unfold Db.bookingsOf
    rw [List.filter_eq_nil_iff]
    intro b hb
    simpa using (hunbooked b hb).2 q hq
  unfold reservationPhase
  rw [hreleased]
  exact hturn.placements (hplacements.sublist (List.filter_sublist.map _)) halone

/-! A campaign with one flight and two placements on the same surface, of a share each. -/

def twoPlacementsDb (share share' : Int) : Db where
  displaySurfaces := [{ id := "s1", logicalCarrierId := "l1", storeId := "st1", code := "S-1" }]
  campaigns := [
    { id := "a", advertiserOrganizationId := "o1", advertiserContractId := "k1", code := "A" }]
  campaignFlights := [{
    id := "f1", campaignId := "a", startAt := 1782900000000000, endAt := 1782903600000000 }]
  campaignPlacements := [
    { id := "pa", campaignId := "a", displaySurfaceId := some "s1", shareOfVoicePct := share },
    { id := "pb", campaignId := "a", displaySurfaceId := some "s1", shareOfVoicePct := share' }]

theorem fitting_simulation_not_reservable :
    ¬ ∀ (db : Db) (cfg : InventoryConfig) (now : Int) (campaignId : String),
      SlotTable db.inventorySlots → db.BookingsHaveSlots →
      (db.campaignPlacements.map (·.id)).Nodup →
      (db.campaign campaignId).map (·.status) = some .draft →
      (∀ q ∈ db.surfacePlacementsOf campaignId,
        1 ≤ q.shareOfVoicePct ∧ q.shareOfVoicePct ≤ 100) →
      db.Unbooked campaignId → PreApproved db now campaignId cfg.defaultSlotCapacity →
      (reservationPhase db cfg now campaignId).2 = .ok () := by
  intro h
  have hpre : PreApproved (twoPlacementsDb 60 60) 0 "a" 100 :=
    ⟨⟨_, rfl, by decide +kernel⟩, by decide +kernel⟩
  have hok := h (twoPlacementsDb 60 60) {} 0 "a" ⟨List.nodup_nil, List.nodup_nil⟩
    (fun b hb ↦ absurd hb List.not_mem_nil) (by decide) (by decide) (by decide)
    (fun b hb ↦ absurd hb List.not_mem_nil) hpre
  revert hok
  decide +kernel

theorem sharedSurface_fits : CampaignFits (twoPlacementsDb 60 40) {} "a" := by
  have hpre : PreApproved (twoPlacementsDb 60 40) 0 "a" 100 :=
    ⟨⟨_, rfl, by decide +kernel⟩, by decide +kernel⟩
  apply (reservations_succeed_iff (twoPlacementsDb 60 40) {} 0 "a"
    ⟨List.nodup_nil, List.nodup_nil⟩ (fun b hb ↦ absurd hb List.not_mem_nil) (by decide)
    (fun b hb ↦ absurd hb List.not_mem_nil) hpre).1
  decide +kernel

end RetailMedia
