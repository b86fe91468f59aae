import RetailMedia.Inventory.Alternatives

/-! Every suggested alternative is bookable; later days are suggested only when the requested window
itself has room. -/

namespace RetailMedia

/-! ## Loops that break when there are enough -/

section Offers

variable {maxResults : Nat} {candidates : List (Db → Db × Option Alternative)}

theorem offerAll_cons (c : Db → Db × Option Alternative) (st : Db × List Alternative) :
    offerAll maxResults (c :: candidates) st =
      offerAll maxResults candidates (offer maxResults c st) := rfl

theorem offerAll_append (more : List (Db → Db × Option Alternative)) (st : Db × List Alternative) :
    offerAll maxResults (candidates ++ more) st =
      offerAll maxResults more (offerAll maxResults candidates st) :=
  List.foldl_append

/-- What one candidate keeps of the state, and holds of what it finds. -/
structure Finds (I : Db → Prop) (P : Alternative → Prop) (c : Db → Db × Option Alternative) :
    Prop where
  state : ∀ db, I db → I (c db).1
  found : ∀ db a, I db → (c db).2 = some a → P a

variable {I : Db → Prop} {P : Alternative → Prop}

theorem offer_finds {c : Db → Db × Option Alternative} (hc : Finds I P c)
    {st : Db × List Alternative} (hdb : I st.1) (hall : ∀ a ∈ st.2, P a) :
    I (offer maxResults c st).1 ∧ ∀ a ∈ (offer maxResults c st).2, P a := by
  have hstate := hc.state st.1 hdb
  have hfound := hc.found st.1
  unfold offer
  by_cases hfull : st.2.length ≥ maxResults
  · rw [if_pos hfull]
    exact ⟨hdb, hall⟩
  · rw [if_neg hfull]
    split
    · rename_i db a heq
      rw [heq] at hstate
      refine ⟨hstate, List.forall_mem_append.2 ⟨hall, ?_⟩⟩
      intro b hb
      rw [List.mem_singleton.1 hb]
      exact hfound a hdb (congrArg Prod.snd heq)
    · rename_i db heq
      rw [heq] at hstate
      exact ⟨hstate, hall⟩

/-- What all candidates keep and find holds after the loop. -/
theorem offerAll_finds (hcandidates : ∀ c ∈ candidates, Finds I P c)
    {st : Db × List Alternative} (hdb : I st.1) (hall : ∀ a ∈ st.2, P a) :
    I (offerAll maxResults candidates st).1 ∧
      ∀ a ∈ (offerAll maxResults candidates st).2, P a := by
  induction candidates generalizing st with
  | nil => exact ⟨hdb, hall⟩
  | cons c candidates ih =>
      have hstep : I (offer maxResults c st).1 ∧ ∀ a ∈ (offer maxResults c st).2, P a :=
        offer_finds (hcandidates c List.mem_cons_self) hdb hall
      rw [offerAll_cons]
      exact ih (fun d hd ↦ hcandidates d (List.mem_cons_of_mem c hd)) hstep.1 hstep.2

theorem offer_length (c : Db → Db × Option Alternative) {st : Db × List Alternative}
    (h : st.2.length ≤ maxResults) : (offer maxResults c st).2.length ≤ maxResults := by
  unfold offer
  by_cases hfull : st.2.length ≥ maxResults
  · rw [if_pos hfull]
    exact h
  · rw [if_neg hfull]
    split
    · rw [List.length_append]
      simp only [List.length_singleton]
      omega
    · exact h

theorem offerAll_length (candidates : List (Db → Db × Option Alternative))
    {st : Db × List Alternative} (h : st.2.length ≤ maxResults) :
    (offerAll maxResults candidates st).2.length ≤ maxResults := by
  induction candidates generalizing st with
  | nil => exact h
  | cons c candidates ih => exact ih (offer_length c h)

variable (maxResults) in
/-- Nothing is taken back. -/
theorem offer_grows (c : Db → Db × Option Alternative) (st : Db × List Alternative) :
    ∃ more, (offer maxResults c st).2 = st.2 ++ more := by
  unfold offer
  split
  · exact ⟨[], (List.append_nil _).symm⟩
  · split
    · exact ⟨_, rfl⟩
    · exact ⟨[], (List.append_nil _).symm⟩

variable (maxResults) in
theorem offerAll_grows (candidates : List (Db → Db × Option Alternative))
    (st : Db × List Alternative) :
    ∃ more, (offerAll maxResults candidates st).2 = st.2 ++ more := by
  induction candidates generalizing st with
  | nil => exact ⟨[], (List.append_nil _).symm⟩
  | cons c candidates ih =>
      obtain ⟨first, hfirst⟩ := offer_grows maxResults c st
      obtain ⟨more, hmore⟩ := ih (offer maxResults c st)
      refine ⟨first ++ more, ?_⟩
      rw [offerAll_cons, hmore, hfirst, List.append_assoc]

/-- A candidate that finds something is either reached by the loop, or the loop is full. -/
theorem offerAll_reaches (hcandidates : ∀ c ∈ candidates, Finds I P c)
    {c : Db → Db × Option Alternative} (hc : c ∈ candidates)
    (hfind : ∀ db, I db → ∃ a, (c db).2 = some a) {st : Db × List Alternative} (hdb : I st.1) :
    maxResults ≤ (offerAll maxResults candidates st).2.length ∨
      ∃ db a, I db ∧ (c db).2 = some a ∧ a ∈ (offerAll maxResults candidates st).2 := by
  -- the candidates before `c` keep the state, and those after it take nothing back
  obtain ⟨before, after, rfl⟩ := List.append_of_mem hc
  rw [offerAll_append, offerAll_cons]
  have hstate : I (offerAll maxResults before st).1 :=
    (offerAll_finds (P := fun _ ↦ True) (fun d hd ↦
      ⟨(hcandidates d (List.mem_append_left _ hd)).state, fun _ _ _ _ ↦ trivial⟩) hdb
      fun _ _ ↦ trivial).1
  generalize offerAll maxResults before st = mid at hstate ⊢
  obtain ⟨more, hmore⟩ := offerAll_grows maxResults after (offer maxResults c mid)
  rw [hmore]
  by_cases hfull : mid.2.length ≥ maxResults
  · left
    unfold offer
    rw [if_pos hfull, List.length_append]
    omega
  · right
    obtain ⟨a, ha⟩ := hfind mid.1 hstate
    refine ⟨mid.1, a, hstate, ha, List.mem_append_left _ ?_⟩
    unfold offer
    rw [if_neg hfull]
    split
    · rename_i db b heq
      rw [heq] at ha
      cases ha
      exact List.mem_append_right _ List.mem_cons_self
    · rename_i db heq
      rw [heq] at ha
      cases ha

/-- Candidates that find nothing add nothing. -/
theorem offerAll_none (hcandidates : ∀ c ∈ candidates, Finds I P c)
    (hnone : ∀ c ∈ candidates, ∀ db, I db → (c db).2 = none) {st : Db × List Alternative}
    (hdb : I st.1) : (offerAll maxResults candidates st).2 = st.2 := by
  induction candidates generalizing st with
  | nil => rfl
  | cons c candidates ih =>
      have hstate : I (offer maxResults c st).1 :=
        (offer_finds (P := fun _ ↦ True)
          ⟨(hcandidates c List.mem_cons_self).state, fun _ _ _ _ ↦ trivial⟩ hdb
          fun _ _ ↦ trivial).1
      have hsame : (offer maxResults c st).2 = st.2 := by
        have hc := hnone c List.mem_cons_self st.1 hdb
        unfold offer
        split
        · rfl
        · split
          · rename_i heq
            rw [heq] at hc
            cases hc
          · rfl
      rw [offerAll_cons, ih (fun d hd ↦ hcandidates d (List.mem_cons_of_mem c hd))
        (fun d hd ↦ hnone d (List.mem_cons_of_mem c hd)) hstate, hsame]

end Offers

/-! ## What the helpers say -/

section Helpers

variable (req : AlternativesRequest) (now : Int)

theorem canSatisfy_grows (db : Db) (surfaceId : String) (cap sov : Option Int) :
    Grows req.defaultTotalCapacity db (canSatisfy req db surfaceId cap sov).1 := by
  have hgrow := computeInventoryAvailability_grows db surfaceId req.startsAt req.endsAt cap sov
    req.defaultTotalCapacity
  unfold canSatisfy
  split
  · rename_i heq
    rw [heq] at hgrow
    exact hgrow
  · rename_i heq
    rw [heq] at hgrow
    split
    · exact hgrow
    · exact hgrow

theorem conflictsAt_grows (db : Db) (surfaceId : String) (startsAt endsAt : DateTime)
    (cap sov : Option Int) : Grows req.defaultTotalCapacity db
      (conflictsAt req now db surfaceId startsAt endsAt cap sov).1 :=
  detectInventoryConflicts_grows db now surfaceId startsAt endsAt cap sov req.defaultTotalCapacity

/-- The reservation asks for what is given here. -/
structure ReserveRequest.AsksFor (r : ReserveRequest) (surfaceId : String)
    (startsAt endsAt : DateTime) (cap sov : Option Int) (default : Int) : Prop where
  surface : r.displaySurfaceId = surfaceId
  startsAt : r.startsAt = startsAt
  endsAt : r.endsAt = endsAt
  units : r.capacityUnits = cap
  sov : r.sovPercent = sov
  default : r.defaultTotalCapacity = default

/-- The detector's verdict is that on the reservation. -/
theorem conflictsAt_iff {r : ReserveRequest} {surfaceId : String} {startsAt endsAt : DateTime}
    {cap sov : Option Int}
    (hr : r.AsksFor surfaceId startsAt endsAt cap sov req.defaultTotalCapacity) {db0 db : Db}
    (hgrow : Grows req.defaultTotalCapacity db0 db) :
    (conflictsAt req now db surfaceId startsAt endsAt cap sov).2 = false ↔ r.Passes db0 now := by
  obtain ⟨rfl, rfl, rfl, rfl, rfl, hdefault⟩ := hr
  rw [← hdefault] at hgrow
  rw [← passes_grows hgrow, passes_iff_served, ← noConflict_iff_served]
  unfold conflictsAt ReserveRequest.detected
  rw [hdefault]

end Helpers

/-! ## Soundness -/

/-- A reservation that takes the alternative up passes. -/
def AlternativesRequest.Offers (req : AlternativesRequest) (db : Db) (now : Int) (a : Alternative) :
    Prop :=
  ∀ r : ReserveRequest, r.AsksFor a.surfaceId a.startsAt a.endsAt a.suggestedCapacityUnits
    a.suggestedSovPercent req.defaultTotalCapacity → r.Passes db now

section Sound

variable (req : AlternativesRequest) (now : Int) (db0 : Db) (row : SurfaceRow)

theorem sameStoreSurface_finds : Finds (Grows req.defaultTotalCapacity db0)
    (fun a ↦ req.Offers db0 now a ∧ a.alternativeType = .sameStoreSurface)
    (sameStoreSurface req now row) := by
  constructor
  · intro db hdb
    have hverdict := hdb.trans (conflictsAt_grows req now db row.surface.id req.startsAt req.endsAt
      req.requestedCapacityUnits req.requestedSovPercent)
    have hsatisfied := hverdict.trans (canSatisfy_grows req _ row.surface.id
      req.requestedCapacityUnits req.requestedSovPercent)
    unfold sameStoreSurface
    dsimp only
    split
    · exact hverdict
    · split
      · rename_i heq
        rw [heq] at hsatisfied
        exact hsatisfied
      · rename_i heq
        rw [heq] at hsatisfied
        exact hsatisfied
  · intro db a hdb ha
    unfold sameStoreSurface at ha
    dsimp only at ha
    -- the detector is asked about this surface; `_can_satisfy` only counts the units to show
    split at ha
    · cases ha
    · rename_i hfree
      split at ha
      · cases ha
      · cases ha
        exact ⟨fun r hr ↦ (conflictsAt_iff req now hr hdb).1 (by simpa using hfree), rfl⟩

theorem sameSurfaceTime_finds (hrow : row.surface.id = req.displaySurfaceId) (hours : Int) :
    Finds (Grows req.defaultTotalCapacity db0)
      (fun a ↦ req.Offers db0 now a ∧ a.alternativeType = .sameSurfaceTime)
      (sameSurfaceTime req now row hours) := by
  constructor
  · intro db hdb
    have havail := hdb.trans (computeInventoryAvailability_grows db req.displaySurfaceId
      (req.startsAt.plusHours hours) (req.endsAt.plusHours hours) req.requestedCapacityUnits
      req.requestedSovPercent req.defaultTotalCapacity)
    unfold sameSurfaceTime
    dsimp only
    split
    · exact hdb
    · split
      · rename_i heq
        rw [heq] at havail
        exact havail
      · rename_i db' avail heq
        rw [heq] at havail
        have hverdict := havail.trans (conflictsAt_grows req now db' req.displaySurfaceId
          (req.startsAt.plusHours hours) (req.endsAt.plusHours hours)
          req.requestedCapacityUnits req.requestedSovPercent)
        split
        · exact havail
        · split
          · rename_i heq'
            rw [heq'] at hverdict
            exact hverdict
          · rename_i heq'
            rw [heq'] at hverdict
            exact hverdict
  · intro db a hdb ha
    have havail := hdb.trans (computeInventoryAvailability_grows db req.displaySurfaceId
      (req.startsAt.plusHours hours) (req.endsAt.plusHours hours) req.requestedCapacityUnits
      req.requestedSovPercent req.defaultTotalCapacity)
    unfold sameSurfaceTime at ha
    dsimp only at ha
    -- not later, no availability, an hour without room, or a conflict: the last test decides
    split at ha
    · cases ha
    · split at ha
      · cases ha
      · rename_i db' avail heq
        rw [heq] at havail
        split at ha
        · cases ha
        · split at ha
          · cases ha
          · rename_i heq'
            cases ha
            refine ⟨fun r hr ↦ ?_, rfl⟩
            rw [onSurface, hrow] at hr
            exact (conflictsAt_iff req now hr havail).1 (congrArg Prod.snd heq')

theorem suggestSatisfied_finds (hrow : row.surface.id = req.displaySurfaceId)
    (type : AlternativeType) (startsAt endsAt : DateTime) (cap sov : Option Int)
    (reason : Int → String) (score : Int) : Finds (Grows req.defaultTotalCapacity db0)
      (fun a ↦ req.Offers db0 now a ∧ a.alternativeType = type)
      (suggestSatisfied req now row type startsAt endsAt cap sov reason score) := by
  constructor
  · intro db hdb
    have hsatisfied := hdb.trans (canSatisfy_grows req db req.displaySurfaceId cap sov)
    unfold suggestSatisfied
    split
    · rename_i heq
      rw [heq] at hsatisfied
      exact hsatisfied
    · rename_i db' available heq
      rw [heq] at hsatisfied
      have hverdict := hsatisfied.trans (conflictsAt_grows req now db' req.displaySurfaceId
        startsAt endsAt cap sov)
      split
      · rename_i heq'
        rw [heq'] at hverdict
        exact hverdict
      · rename_i heq'
        rw [heq'] at hverdict
        exact hverdict
  · intro db a hdb ha
    have hsatisfied := hdb.trans (canSatisfy_grows req db req.displaySurfaceId cap sov)
    unfold suggestSatisfied at ha
    -- `_can_satisfy` leaves slots on demand behind, which the detector does not mind
    split at ha
    · cases ha
    · rename_i db' available heq
      rw [heq] at hsatisfied
      split at ha
      · cases ha
      · rename_i heq'
        cases ha
        refine ⟨fun r hr ↦ ?_, rfl⟩
        rw [onSurface, hrow] at hr
        exact (conflictsAt_iff req now hr hsatisfied).1 (congrArg Prod.snd heq')

theorem Finds.mono {I : Db → Prop} {P Q : Alternative → Prop} {c : Db → Db × Option Alternative}
    (h : Finds I P c) (hPQ : ∀ a, P a → Q a) : Finds I Q c :=
  ⟨h.state, fun db a hdb ha ↦ hPQ a (h.found db a hdb ha)⟩

/-- What the first three generators find is bookable, and on no later day. -/
theorem earlierCandidates_find (hrow : row.surface.id = req.displaySurfaceId) (db : Db) :
    ∀ c ∈ earlierCandidates req now db row, Finds (Grows req.defaultTotalCapacity db0)
      (fun a ↦ req.Offers db0 now a ∧ a.alternativeType ≠ .laterTime) c := by
  have hother {type : AlternativeType} (htype : type ≠ .laterTime)
      {c : Db → Db × Option Alternative} (hc : Finds (Grows req.defaultTotalCapacity db0)
        (fun a ↦ req.Offers db0 now a ∧ a.alternativeType = type) c) :
      Finds (Grows req.defaultTotalCapacity db0)
        (fun a ↦ req.Offers db0 now a ∧ a.alternativeType ≠ .laterTime) c :=
    hc.mono fun a ha ↦ ⟨ha.1, ha.2 ▸ htype⟩
  intro c hc
  unfold earlierCandidates at hc
  rw [List.append_assoc, List.mem_append, List.mem_append] at hc
  rcases hc with hc | hc | hc
  · obtain ⟨other, -, rfl⟩ := List.mem_map.1 hc
    exact hother (by decide) (sameStoreSurface_finds req now db0 other)
  · obtain ⟨hours, -, rfl⟩ := List.mem_map.1 hc
    exact hother (by decide) (sameSurfaceTime_finds req now db0 row hrow hours)
  · obtain ⟨reducedCap, -, rfl⟩ := List.mem_map.1 hc
    exact hother (by decide) (suggestSatisfied_finds req now db0 row hrow _ _ _ _ _ _ _)

theorem laterCandidates_find (hrow : row.surface.id = req.displaySurfaceId) :
    ∀ c ∈ laterCandidates req now row, Finds (Grows req.defaultTotalCapacity db0)
      (fun a ↦ req.Offers db0 now a) c := by
  intro c hc
  obtain ⟨days, -, rfl⟩ := List.mem_map.1 hc
  exact (suggestSatisfied_finds req now db0 row hrow _ _ _ _ _ _ _).mono fun a ha ↦ ha.1

end Sound

theorem getDisplaySurface_id {db : Db} {surfaceId : String} {row : SurfaceRow}
    (h : getDisplaySurface db surfaceId = some row) : row.surface.id = surfaceId := by
  obtain ⟨s, hs, rfl⟩ := Option.map_eq_some_iff.1 h
  exact Rows.get_key hs

theorem earlierAlternatives_spec (req : AlternativesRequest) (now : Int) (db : Db)
    {row : SurfaceRow} (hrow : row.surface.id = req.displaySurfaceId) :
    Grows req.defaultTotalCapacity db (earlierAlternatives req now db row).1 ∧
      ∀ a ∈ (earlierAlternatives req now db row).2,
        req.Offers db now a ∧ a.alternativeType ≠ .laterTime :=
  offerAll_finds (earlierCandidates_find req now db row hrow db) (Grows.refl _ db)
    fun _ ha ↦ absurd ha List.not_mem_nil

theorem foundAlternatives_length (req : AlternativesRequest) (now : Int) (db : Db)
    (row : SurfaceRow) : (foundAlternatives req now db row).2.length ≤ req.maxResults := by
  apply offerAll_length
  apply offerAll_length
  exact Nat.zero_le _

theorem ranked_length (alternatives : List Alternative) :
    (ranked alternatives).length = alternatives.length :=
  List.length_insertionSort _ _

/-- All that is found is returned, the better first. -/
theorem ranked_take_mem {alternatives : List Alternative} {n : Nat}
    (h : alternatives.length ≤ n) {a : Alternative} :
    a ∈ (ranked alternatives).take n ↔ a ∈ alternatives := by
  rw [List.take_of_length_le ((ranked_length alternatives).trans_le h)]
  exact List.mem_insertionSort _

theorem ranked_sorted (alternatives : List Alternative) :
    (ranked alternatives).Pairwise fun a b ↦ b.score ≤ a.score := by
  have htotal : Std.Total fun a b : Alternative ↦ b.score ≤ a.score :=
    ⟨fun a b ↦ le_total b.score a.score⟩
  have htrans : IsTrans Alternative fun a b ↦ b.score ≤ a.score :=
    ⟨fun _ _ _ hab hbc ↦ hbc.trans hab⟩
  exact List.pairwise_insertionSort _ alternatives

/-- What is suggested can be booked: in the state in which the alternatives are asked for, every
reservation that takes one of them up is accepted.  There are at most as many as asked for, the
better ones first. -/
theorem suggestions_bookable (db : Db) (now : Int) (req : AlternativesRequest)
    (alternatives : List Alternative)
    (h : (suggestInventoryAlternatives db now req).2 = .ok alternatives) :
    alternatives.length ≤ req.maxResults ∧
      alternatives.Pairwise (fun a b ↦ b.score ≤ a.score) ∧
      ∀ a ∈ alternatives, ∀ r : ReserveRequest,
        r.AsksFor a.surfaceId a.startsAt a.endsAt a.suggestedCapacityUnits a.suggestedSovPercent
          req.defaultTotalCapacity →
        db.bookingsOf r.placementId = [] →
        ∃ res, (reserveInventoryForPlacement db now r).2 = .ok res := by
  unfold suggestInventoryAlternatives at h
  split at h
  · cases h
  · split at h
    · -- an unknown surface has no alternatives
      cases h
      exact ⟨Nat.zero_le _, .nil, fun a ha ↦ absurd ha List.not_mem_nil⟩
    · rename_i row hget
      cases h
      have hrow := getDisplaySurface_id hget
      obtain ⟨hgrow, hearlier⟩ := earlierAlternatives_spec req now db hrow
      have hfound : ∀ a ∈ (foundAlternatives req now db row).2, req.Offers db now a :=
        (offerAll_finds (laterCandidates_find req now db row hrow) hgrow
          fun a ha ↦ (hearlier a ha).1).2
      refine ⟨List.length_take_le _ _, (ranked_sorted _).sublist (List.take_sublist _ _), ?_⟩
      intro a ha r hr _
      have hmem := (ranked_take_mem (foundAlternatives_length req now db row)).1 ha
      exact reserve_accepts (hfound a hmem r hr)

/-! ## Later days -/

/-- Units that the hours of the window offer together. -/
def Supply.offered (S : Supply) (surfaceId : String) (startsAt endsAt : DateTime) : Int :=
  ((slotPairs startsAt endsAt).map fun p ↦ (S surfaceId p).available).sum

theorem availability_total {db : Db} {surfaceId : String} {startsAt endsAt : DateTime}
    {units sov : Option Int} {default : Int} {a : Availability}
    (h : (computeInventoryAvailability db surfaceId startsAt endsAt units sov default).2 = .ok a) :
    a.totalAvailable = (db.supply default).offered surfaceId startsAt endsAt := by
  unfold computeInventoryAvailability at h
  split_ifs at h
  obtain rfl := Except.ok.inj h
  unfold Supply.offered
  dsimp only
  congr 1
  apply Rows.sweep_column (I := fun d ↦ Grows default db d) _ (Grows.refl default db)
  intro d p _ hd
  refine ⟨hd.trans (Grows.getOrCreate d surfaceId p default), ?_⟩
  show (getOrCreateInventorySlot d surfaceId p default).2.availableCapacity = _
  rw [availableCapacity_eq, getOrCreate_capacity, hd.supply]

/-- The window of the request has room: in every hour, or, for a number of units, in all its hours
together. -/
structure AlternativesRequest.Roomy (req : AlternativesRequest) (S : Supply) (surfaceId : String)
    (cap sov : Option Int) : Prop where
  askable : Askable req.startsAt req.endsAt cap sov
  room : S.Serves req.defaultTotalCapacity surfaceId cap sov req.startsAt req.endsAt ∨
    ∃ c ∈ cap, c ≠ 0 ∧ 0 < S.offered surfaceId req.startsAt req.endsAt ∧
      c ≤ S.offered surfaceId req.startsAt req.endsAt

theorem canSatisfy_iff (req : AlternativesRequest) (db : Db) (surfaceId : String)
    (cap sov : Option Int) : (canSatisfy req db surfaceId cap sov).2.1 = true ↔
      req.Roomy (db.supply req.defaultTotalCapacity) surfaceId cap sov := by
  have hcases := availability_cases db surfaceId req.startsAt req.endsAt cap sov
    req.defaultTotalCapacity
  unfold canSatisfy
  split
  · rename_i db' e heq
    rcases hcases with ⟨-, a, ha, -⟩ | ⟨hbad, -⟩
    · rw [heq] at ha
      cases ha
    · exact iff_of_false Bool.false_ne_true fun h ↦ hbad h.askable
  · rename_i db' avail heq
    rcases hcases with ⟨hgood, a, ha, hall, -⟩ | ⟨-, e, he⟩
    · rw [heq] at ha
      cases ha
      have htotal := availability_total (congrArg Prod.snd heq)
      by_cases hserves : avail.allAvailable = true
      · rw [if_pos hserves]
        exact iff_of_true rfl ⟨hgood, .inl (hall.1 hserves)⟩
      · -- the shortcut for a number of units adds up the hours
        rw [if_neg hserves]
        have hpartial : (cap.any fun c ↦ decide (avail.totalAvailable > 0 ∧ c ≠ 0 ∧
            avail.totalAvailable ≥ c)) = true ↔ ∃ c ∈ cap, c ≠ 0 ∧
              0 < (db.supply req.defaultTotalCapacity).offered surfaceId req.startsAt req.endsAt ∧
              c ≤ (db.supply req.defaultTotalCapacity).offered surfaceId req.startsAt
                req.endsAt := by
          rw [htotal]
          cases cap with
          | none => simp
          | some c =>
              simp only [Option.any_some, decide_eq_true_eq, Option.mem_some_iff, exists_eq_left',
                gt_iff_lt, ge_iff_le]
              exact and_left_comm
        refine hpartial.trans ⟨fun h ↦ ⟨hgood, .inr h⟩, fun h ↦ ?_⟩
        exact h.room.resolve_left fun hs ↦ hserves (hall.2 hs)
    · rw [heq] at he
      cases he

/-- The generator finds its alternative exactly when `_can_satisfy` and the detector let it. -/
theorem suggestSatisfied_isSome (req : AlternativesRequest) (now : Int) (row : SurfaceRow)
    (type : AlternativeType) {startsAt endsAt : DateTime} {cap sov : Option Int}
    (reason : Int → String) (score : Int) {db0 db : Db}
    (hgrow : Grows req.defaultTotalCapacity db0 db) {r : ReserveRequest}
    (hr : r.AsksFor req.displaySurfaceId startsAt endsAt cap sov req.defaultTotalCapacity) :
    ((suggestSatisfied req now row type startsAt endsAt cap sov reason score db).2.isSome = true ↔
      req.Roomy (db0.supply req.defaultTotalCapacity) req.displaySurfaceId cap sov ∧
        r.Passes db0 now) := by
  have hsatisfied := hgrow.trans (canSatisfy_grows req db req.displaySurfaceId cap sov)
  rw [← hgrow.supply, ← canSatisfy_iff]
  unfold suggestSatisfied
  split
  · rename_i heq
    rw [heq]
    exact iff_of_false Bool.false_ne_true fun h ↦ Bool.false_ne_true h.1
  · rename_i db' available heq
    rw [heq] at hsatisfied
    rw [heq, and_iff_right rfl, ← conflictsAt_iff req now hr hsatisfied]
    split
    · rename_i heq'
      rw [heq']
      exact iff_of_false Bool.false_ne_true fun h ↦ Bool.noConfusion h
    · rename_i heq'
      rw [heq']
      exact iff_of_true rfl rfl

/-- The reservation of the request some days later. -/
def AlternativesRequest.later (req : AlternativesRequest) (days : Int)
    (campaignId placementId : String) : ReserveRequest where
  campaignId := campaignId
  placementId := placementId
  displaySurfaceId := req.displaySurfaceId
  startsAt := req.startsAt.plusDays days
  endsAt := req.endsAt.plusDays days
  capacityUnits := req.requestedCapacityUnits
  sovPercent := req.requestedSovPercent
  defaultTotalCapacity := req.defaultTotalCapacity

/-- The alternative is the request itself, some days later. -/
structure AlternativesRequest.LaterDay (req : AlternativesRequest) (days : Int) (a : Alternative) :
    Prop where
  type : a.alternativeType = .laterTime
  surface : a.surfaceId = req.displaySurfaceId
  startsAt : a.startsAt = req.startsAt.plusDays days
  endsAt : a.endsAt = req.endsAt.plusDays days
  units : a.suggestedCapacityUnits = req.requestedCapacityUnits
  sov : a.suggestedSovPercent = req.requestedSovPercent

theorem laterTime_laterDay {req : AlternativesRequest} {now : Int} {row : SurfaceRow} {days : Int}
    {db : Db} {a : Alternative} (hrow : row.surface.id = req.displaySurfaceId)
    (h : (laterTime req now row days db).2 = some a) : req.LaterDay days a := by
  unfold laterTime suggestSatisfied at h
  split at h
  · cases h
  · split at h
    · cases h
    · cases h
      exact ⟨rfl, hrow, rfl, rfl, rfl, rfl⟩

section Later

variable {db : Db} {now : Int} {req : AlternativesRequest} (campaignId placementId : String)

theorem laterTime_isSome {row : SurfaceRow} (days : Int) {db' : Db}
    (hgrow : Grows req.defaultTotalCapacity db db') :
    (laterTime req now row days db').2.isSome = true ↔
      req.Roomy (db.supply req.defaultTotalCapacity) req.displaySurfaceId
          req.requestedCapacityUnits req.requestedSovPercent ∧
        (req.later days campaignId placementId).Passes db now :=
  suggestSatisfied_isSome req now row _ _ _ hgrow ⟨rfl, rfl, rfl, rfl, rfl, rfl⟩

/-- When the requested window has room, every later day that can be booked is found, up to the
number of results. -/
theorem later_found_of_roomy {row : SurfaceRow}
    (hget : getDisplaySurface db req.displaySurfaceId = some row)
    (hroomy : req.Roomy (db.supply req.defaultTotalCapacity) req.displaySurfaceId
      req.requestedCapacityUnits req.requestedSovPercent) {days : Int}
    (hdays : days ∈ ([1, 2, 3] : List Int))
    (hpass : (req.later days campaignId placementId).Passes db now) :
    req.maxResults ≤ (foundAlternatives req now db row).2.length ∨
      ∃ a ∈ (foundAlternatives req now db row).2, req.LaterDay days a := by
  have hrow := getDisplaySurface_id hget
  have hfind : ∀ db', Grows req.defaultTotalCapacity db db' →
      ∃ a, (laterTime req now row days db').2 = some a := by
    intro db' hgrow
    exact Option.isSome_iff_exists.1
      ((laterTime_isSome campaignId placementId days hgrow).2 ⟨hroomy, hpass⟩)
  have hreaches : req.maxResults ≤ (foundAlternatives req now db row).2.length ∨
      ∃ db' a, Grows req.defaultTotalCapacity db db' ∧
        (laterTime req now row days db').2 = some a ∧
        a ∈ (foundAlternatives req now db row).2 :=
    offerAll_reaches (laterCandidates_find req now db row hrow) (List.mem_map_of_mem hdays) hfind
      (earlierAlternatives_spec req now db hrow).1
  rcases hreaches with hfull | ⟨db', a, -, ha, hmem⟩
  · exact .inl hfull
  · exact .inr ⟨a, hmem, laterTime_laterDay hrow ha⟩

/-- Without room in the requested window no later day is tried. -/
theorem later_none_of_full {row : SurfaceRow}
    (hget : getDisplaySurface db req.displaySurfaceId = some row)
    (hfull : ¬ req.Roomy (db.supply req.defaultTotalCapacity) req.displaySurfaceId
      req.requestedCapacityUnits req.requestedSovPercent) :
    (foundAlternatives req now db row).2 = (earlierAlternatives req now db row).2 := by
  have hrow := getDisplaySurface_id hget
  apply offerAll_none (laterCandidates_find req now db row hrow) _
    (earlierAlternatives_spec req now db hrow).1
  intro c hc db' hgrow
  obtain ⟨days, -, rfl⟩ := List.mem_map.1 hc
  rw [← Option.not_isSome_iff_eq_none]
  exact fun h ↦ hfull ((laterTime_isSome "" "" days hgrow).1 h).1

theorem suggest_found {row : SurfaceRow}
    (hget : getDisplaySurface db req.displaySurfaceId = some row)
    (hboth : ¬ (req.requestedCapacityUnits.isSome ∧ req.requestedSovPercent.isSome)) :
    (suggestInventoryAlternatives db now req).2 =
      .ok ((ranked (foundAlternatives req now db row).2).take req.maxResults) := by
  unfold suggestInventoryAlternatives
  rw [if_neg hboth, hget]

/-- A later day that can be booked is one of a surface that there is, and its request is sound. -/
theorem suggest_of_later_passes {days : Int}
    (hpass : (req.later days campaignId placementId).Passes db now) :
    ∃ row, getDisplaySurface db req.displaySurfaceId = some row ∧
      (suggestInventoryAlternatives db now req).2 =
        .ok ((ranked (foundAlternatives req now db row).2).take req.maxResults) := by
  obtain ⟨s, hs, -⟩ := ((passes_iff_served _ db now).1 hpass).1.surface
  have hget : getDisplaySurface db req.displaySurfaceId = some (db.surfaceRow s) :=
    congrArg (Option.map db.surfaceRow) hs
  exact ⟨_, hget, suggest_found hget hpass.notBoth⟩

/-- The later days that can be booked are all suggested, up to the number of results, exactly when
the requested window itself has room, or none of them can be booked: `_can_satisfy` is asked about
the requested window, not about the later one. -/
theorem later_days_suggested_iff
    (hfew : ∀ row, getDisplaySurface db req.displaySurfaceId = some row →
      (earlierAlternatives req now db row).2.length < req.maxResults) :
    (∀ days ∈ ([1, 2, 3] : List Int),
      (∃ res, (reserveInventoryForPlacement db now
        (req.later days campaignId placementId)).2 = .ok res) →
      ∃ alternatives, (suggestInventoryAlternatives db now req).2 = .ok alternatives ∧
        ((∃ a ∈ alternatives, req.LaterDay days a) ∨ alternatives.length = req.maxResults)) ↔
    req.Roomy (db.supply req.defaultTotalCapacity) req.displaySurfaceId
        req.requestedCapacityUnits req.requestedSovPercent ∨
      ∀ days ∈ ([1, 2, 3] : List Int), ¬ ∃ res, (reserveInventoryForPlacement db now
        (req.later days campaignId placementId)).2 = .ok res := by
  simp only [reserve_accepts_iff]
  constructor
  · intro h
    by_contra hno
    rw [not_or] at hno
    obtain ⟨hfull, hsome⟩ := hno
    apply hsome
    intro days hdays hpass
    -- a full window blocks all three days, so only the earlier generators have found anything
    obtain ⟨row, hget, hsuggest⟩ := suggest_of_later_passes campaignId placementId hpass
    obtain ⟨alternatives, hok, hfound⟩ := h days hdays hpass
    rw [hsuggest] at hok
    obtain rfl := Except.ok.inj hok
    have hlength := foundAlternatives_length req now db row
    have hsame : (foundAlternatives req now db row).2 = (earlierAlternatives req now db row).2 :=
      later_none_of_full hget hfull
    rcases hfound with ⟨a, ha, hday⟩ | hmany
    · rw [ranked_take_mem hlength, hsame] at ha
      have hspec := earlierAlternatives_spec req now db (getDisplaySurface_id hget)
      exact (hspec.2 a ha).2 hday.type
    · have hfew := hfew row hget
      rw [← hsame] at hfew
      rw [List.length_take, ranked_length] at hmany
      omega
  · intro h days hdays hpass
    rcases h with hroomy | hnone
    · obtain ⟨row, hget, hsuggest⟩ := suggest_of_later_passes campaignId placementId hpass
      have hlength := foundAlternatives_length req now db row
      refine ⟨_, hsuggest, ?_⟩
      rcases later_found_of_roomy campaignId placementId hget hroomy hdays hpass with
        hmany | ⟨a, ha, hday⟩
      · right
        rw [List.length_take, ranked_length]
        omega
      · exact .inl ⟨a, (ranked_take_mem hlength).2 ha, hday⟩
    · exact absurd hpass (hnone days hdays)

end Later

/-! ## A full hour -/

/-- A surface whose first hour is sold out. -/
def soldOutDb : Db where
  displaySurfaces := [{ id := "s", logicalCarrierId := "c", storeId := "st", code := "S" }]
  inventorySlots := [{
    id := 1, displaySurfaceId := "s", slotDate := 0, slotHour := 0, totalCapacity := 10
    bookedCapacity := 10 }]

/-- One unit for the first hour of a day. -/
def hourOfDay (day : Int) : AlternativesRequest where
  displaySurfaceId := "s"
  startsAt := .utc (day * dayMicros)
  endsAt := .utc (day * dayMicros + hourMicros)
  requestedCapacityUnits := some 1

def suggestedFor (db : Db) (req : AlternativesRequest) : List Alternative :=
  ((suggestInventoryAlternatives db 0 req).2.toOption).getD []

/-- The two hours after the sold out one are suggested, and both can be booked. -/
theorem next_hours_bookable :
    (suggestedFor soldOutDb (hourOfDay 0)).length = 2 ∧
      (suggestedFor soldOutDb (hourOfDay 0)).length ≤ 5 ∧
      (suggestedFor soldOutDb (hourOfDay 0)).Pairwise (fun a b ↦ b.score ≤ a.score) ∧
      ∀ a ∈ suggestedFor soldOutDb (hourOfDay 0), ∀ r : ReserveRequest,
        r.AsksFor a.surfaceId a.startsAt a.endsAt a.suggestedCapacityUnits a.suggestedSovPercent
          100 →
        soldOutDb.bookingsOf r.placementId = [] →
        ∃ res, (reserveInventoryForPlacement soldOutDb 0 r).2 = .ok res :=
  ⟨by decide +kernel, suggestions_bookable soldOutDb 0 (hourOfDay 0) _ (by decide +kernel)⟩

theorem one_row {row : SurfaceRow} (hget : getDisplaySurface soldOutDb "s" = some row) :
    row = ⟨{ id := "s", logicalCarrierId := "c", storeId := "st", code := "S" }, none⟩ :=
  (Option.some.inj hget).symm

/-- From a day on which the hour is free, the later days are suggested too. -/
theorem later_days_of_free_hour :
    (suggestedFor soldOutDb (hourOfDay 1)).length = 5 ∧
      ∀ days ∈ ([1, 2, 3] : List Int),
        (∃ res, (reserveInventoryForPlacement soldOutDb 0
          ((hourOfDay 1).later days "a" "p")).2 = .ok res) →
        ∃ alternatives, (suggestInventoryAlternatives soldOutDb 0 (hourOfDay 1)).2 =
          .ok alternatives ∧
            ((∃ a ∈ alternatives, (hourOfDay 1).LaterDay days a) ∨ alternatives.length = 5) := by
  have hroomy : (hourOfDay 1).Roomy (soldOutDb.supply 100) "s" (some 1) none :=
    ⟨⟨by decide, by decide, by decide, by decide⟩, .inl (by decide +kernel)⟩
  refine ⟨by decide +kernel, (later_days_suggested_iff "a" "p" ?_).2 (.inl hroomy)⟩
  intro row hget
  rw [one_row hget]
  decide +kernel

/-- The sold out hour is free on the next day, which is not suggested: every later day fails with
the test of `_can_satisfy` for the sold out one. -/
theorem next_day_not_suggested :
    ¬ ((∀ row, getDisplaySurface soldOutDb "s" = some row →
        (earlierAlternatives (hourOfDay 0) 0 soldOutDb row).2.length < 5) →
      ∀ days ∈ ([1, 2, 3] : List Int),
        (∃ res, (reserveInventoryForPlacement soldOutDb 0
          ((hourOfDay 0).later days "a" "p")).2 = .ok res) →
        ∃ alternatives, (suggestInventoryAlternatives soldOutDb 0 (hourOfDay 0)).2 =
          .ok alternatives ∧
            ((∃ a ∈ alternatives, (hourOfDay 0).LaterDay days a) ∨ alternatives.length = 5)) := by
  intro h
  have hfew : ∀ row, getDisplaySurface soldOutDb "s" = some row →
      (earlierAlternatives (hourOfDay 0) 0 soldOutDb row).2.length < 5 := by
    intro row hget
    rw [one_row hget]
    decide +kernel
  have hbooked : ∃ res, (reserveInventoryForPlacement soldOutDb 0
      ((hourOfDay 0).later 1 "a" "p")).2 = .ok res :=
    ⟨⟨true, 1, 0, [⟨2, "1970-01-02", 0, 1⟩]⟩, by decide +kernel⟩
  have hsuggested : (suggestInventoryAlternatives soldOutDb 0 (hourOfDay 0)).2 =
      .ok (suggestedFor soldOutDb (hourOfDay 0)) := by
    decide +kernel
  have htypes : (suggestedFor soldOutDb (hourOfDay 0)).map (·.alternativeType) =
      [.sameSurfaceTime, .sameSurfaceTime] := by
    decide +kernel
  obtain ⟨alternatives, hok, hfound⟩ := h hfew 1 (by decide) hbooked
  rw [hsuggested] at hok
  obtain rfl := Except.ok.inj hok
  rcases hfound with ⟨a, ha, hday⟩ | hmany
  · have htype := List.mem_map_of_mem (f := (·.alternativeType)) ha
    rw [htypes, hday.type] at htype
    exact absurd htype (by decide)
  · have hlength := congrArg List.length htypes
    rw [List.length_map, hmany] at hlength
    exact absurd hlength (by decide)

end RetailMedia
