import RetailMedia.Inventory.Plans

/-! What the slots of every surface and hour still offer, as a function of the hour: slots that
are created on demand do not change it, and a reservation takes its units from the hours of its
window. -/

namespace RetailMedia

/-! ## Capacity of an hour -/

structure Capacity where
  total : Int
  taken : Int
  blocked : Bool
  deriving DecidableEq, Repr

namespace Capacity

def available (c : Capacity) : Int := if c.blocked then 0 else max 0 (c.total - c.taken)

def take (n : Int) (c : Capacity) : Capacity := { c with taken := c.taken + n }

/-- What a share asks of the hour. -/
def units (default sov : Int) (c : Capacity) : Int :=
  sovUnits (if c.total = 0 then default else c.total) sov

/-- The hour has room for the share. -/
def Admits (default sov : Int) (c : Capacity) : Prop := c.units default sov ≤ c.available

/-- What a request by units or by share asks of the hour. -/
def asked (units sov : Option Int) (default : Int) (c : Capacity) : Int :=
  match units, sov with
  | some u, _ => u
  | none, some p => c.units default p
  | none, none => 0

/-- The hour has room for the request. -/
def Serves (units sov : Option Int) (default : Int) (c : Capacity) : Prop :=
  c.asked units sov default ≤ c.available

instance (units sov : Option Int) (default : Int) (c : Capacity) :
    Decidable (c.Serves units sov default) :=
  inferInstanceAs (Decidable (_ ≤ _))

@[simp] theorem take_zero (c : Capacity) : c.take 0 = c := by
  unfold take
  rw [add_zero]

theorem take_take (m n : Int) (c : Capacity) : (c.take m).take n = c.take (m + n) := by
  unfold take
  dsimp only
  rw [add_assoc]

@[simp] theorem units_take (default sov n : Int) (c : Capacity) :
    (c.take n).units default sov = c.units default sov := rfl

end Capacity

/-- Capacity of every hour of every surface. -/
abbrev Supply := String → Int × Nat → Capacity

/-- Units are taken from some hours of one surface. -/
def Supply.takeFrom (S : Supply) (surfaceId : String) (ps : List (Int × Nat))
    (u : Int × Nat → Int) : Supply :=
  fun s p ↦ if s = surfaceId ∧ p ∈ ps then (S s p).take (u p) else S s p

def InventorySlot.capacity (s : InventorySlot) : Capacity where
  total := s.totalCapacity
  taken := s.taken
  blocked := s.emergencyBlockedCapacity > 0

/-- An hour without a slot has the default capacity. -/
def Db.supply (db : Db) (default : Int) : Supply := fun surfaceId p ↦
  match db.inventorySlots.find? fun s ↦ s.IsAt surfaceId p with
  | some s => s.capacity
  | none => ⟨default, 0, false⟩

theorem availableCapacity_eq (s : InventorySlot) :
    s.availableCapacity = s.capacity.available := by
  unfold InventorySlot.availableCapacity Capacity.available InventorySlot.capacity
  dsimp only [InventorySlot.taken]
  by_cases h : s.emergencyBlockedCapacity > 0
  · simp [h]
  · simp only [h, decide_false, Bool.false_eq_true, if_false]
    congr 1
    omega

theorem requestedUnits_share (default sov : Int) (s : InventorySlot) :
    requestedUnits none (some sov) default s = s.capacity.units default sov := rfl

theorem requestedUnits_asked (units sov : Option Int) (default : Int) (s : InventorySlot) :
    requestedUnits units sov default s = s.capacity.asked units sov default := by
  unfold requestedUnits Capacity.asked
  split
  · rfl
  · rfl
  · rfl

theorem InventorySlot.Blank.capacity {total : Int} {s : InventorySlot} (h : s.Blank total) :
    s.capacity = ⟨total, 0, false⟩ := by
  have hblocked : ¬ s.emergencyBlockedCapacity > 0 := by
    rw [h.emergencyBlockedCapacity]
    decide
  unfold InventorySlot.capacity
  rw [h.taken, h.totalCapacity]
  simp [hblocked]

/-- Slots on demand are what the supply has counted on. -/
theorem Grows.supply {total : Int} {db db' : Db} (h : Grows total db db') :
    db'.supply total = db.supply total := by
  obtain ⟨new, rfl, hnew⟩ := h
  funext surfaceId p
  unfold Db.supply
  dsimp only
  rw [List.find?_append]
  cases hold : db.inventorySlots.find? fun s ↦ s.IsAt surfaceId p with
  | some s => rfl
  | none =>
      rw [Option.none_or]
      cases hfind : new.find? fun s ↦ s.IsAt surfaceId p with
      | some s => exact (hnew.blank s (List.mem_of_find?_eq_some hfind)).capacity
      | none => rfl

theorem getOrCreate_capacity (db : Db) (surfaceId : String) (p : Int × Nat) (total : Int) :
    (getOrCreateInventorySlot db surfaceId p total).2.capacity =
      db.supply total surfaceId p := by
  unfold getOrCreateInventorySlot Db.supply
  cases db.inventorySlots.find? fun s ↦ s.IsAt surfaceId p with
  | some s => rfl
  | none => rfl

/-! ## Checks of a request -/

/-- Every hour of the window has room for the request. -/
def Supply.Serves (S : Supply) (default : Int) (surfaceId : String) (units sov : Option Int)
    (startsAt endsAt : DateTime) : Prop :=
  ∀ p ∈ slotPairs startsAt endsAt, (S surfaceId p).Serves units sov default

instance (S : Supply) (default : Int) (surfaceId : String) (units sov : Option Int)
    (startsAt endsAt : DateTime) :
    Decidable (S.Serves default surfaceId units sov startsAt endsAt) :=
  inferInstanceAs (Decidable (∀ p ∈ slotPairs startsAt endsAt, _))

/-- The window and the amount of a request are well formed. -/
structure Askable (startsAt endsAt : DateTime) (units sov : Option Int) : Prop where
  window : startsAt.instant < endsAt.instant
  notBoth : ¬ (units.isSome ∧ sov.isSome)
  sov : sovOutOfRange sov = false
  hours : slotPairs startsAt endsAt ≠ []

theorem entries_available (surfaceId : String) (units sov : Option Int) (default : Int) (db : Db)
    (ps : List (Int × Nat)) :
    (Rows.sweep (availabilityStep surfaceId units sov default) db ps).2.map (·.available) =
      ps.map fun p ↦ decide ((db.supply default surfaceId p).Serves units sov default) := by
  apply Rows.sweep_column (I := fun d ↦ Grows default db d) _ (Grows.refl default db)
  intro d p _ hd
  refine ⟨hd.trans (Grows.getOrCreate d surfaceId p default), ?_⟩
  show decide ((getOrCreateInventorySlot d surfaceId p default).2.availableCapacity ≥
    requestedUnits units sov default (getOrCreateInventorySlot d surfaceId p default).2) = _
  rw [availableCapacity_eq, requestedUnits_asked, getOrCreate_capacity, hd.supply]
  rfl

/-- A well-formed request gets its availability, and every other an error. -/
theorem availability_cases (db : Db) (surfaceId : String) (startsAt endsAt : DateTime)
    (units sov : Option Int) (default : Int) :
    (Askable startsAt endsAt units sov ∧ ∃ a,
      (computeInventoryAvailability db surfaceId startsAt endsAt units sov default).2 = .ok a ∧
        (a.allAvailable = true ↔
          (db.supply default).Serves default surfaceId units sov startsAt endsAt) ∧
        (a.conflicts = [] ↔ a.allAvailable = true)) ∨
      (¬ Askable startsAt endsAt units sov ∧ ∃ e,
        (computeInventoryAvailability db surfaceId startsAt endsAt units sov default).2 =
          .error e) := by
  unfold computeInventoryAvailability
  -- the checks come in the order of the source, and each raises an error of its own
  by_cases hwindow : endsAt.instant ≤ startsAt.instant
  · rw [if_pos hwindow]
    exact .inr ⟨fun h ↦ absurd h.window (not_lt.2 hwindow), _, rfl⟩
  rw [if_neg hwindow]
  by_cases hboth : units.isSome = true ∧ sov.isSome = true
  · rw [if_pos hboth]
    exact .inr ⟨fun h ↦ h.notBoth hboth, _, rfl⟩
  rw [if_neg hboth]
  cases hsov : sovOutOfRange sov with
  | true => exact .inr ⟨fun h ↦ Bool.noConfusion (h.sov.symm.trans hsov), _, rfl⟩
  | false =>
      rw [if_neg Bool.false_ne_true]
      by_cases hhours : slotPairs startsAt endsAt = []
      · rw [if_pos hhours]
        exact .inr ⟨fun h ↦ h.hours hhours, _, rfl⟩
      rw [if_neg hhours]
      refine .inl ⟨⟨not_le.1 hwindow, hboth, hsov, hhours⟩, _, rfl, ?_, ?_⟩
      · have hentries := entries_available surfaceId units sov default db
          (slotPairs startsAt endsAt)
        have hall (l : List SlotEntry) : l.all (·.available) = (l.map (·.available)).all id := by
          rw [List.all_map]
          rfl
        dsimp only
        rw [hall, hentries]
        simp [Supply.Serves]
      · dsimp only
        rw [List.filter_eq_nil_iff, List.all_eq_true]
        simp

/-- What a request is refused for whatever the slots hold: the surface, a rule, or the request
itself. -/
structure ReserveRequest.Admissible (r : ReserveRequest) (db : Db) (now : Int) : Prop where
  surface : ∃ s, Rows.get (·.id) r.displaySurfaceId db.displaySurfaces = some s ∧ s.isActive = true
  rules : ruleConflicts db now r.displaySurfaceId r.sovPercent = []
  askable : Askable r.startsAt r.endsAt r.capacityUnits r.sovPercent

/-- Every hour of the request's window has room for it. -/
def ReserveRequest.Served (r : ReserveRequest) (S : Supply) : Prop :=
  S.Serves r.defaultTotalCapacity r.displaySurfaceId r.capacityUnits r.sovPercent r.startsAt
    r.endsAt

/-- The conflicts are those of the rules and the surface, and the hours without room. -/
theorem noConflict_iff_served (r : ReserveRequest) (db : Db) (now : Int) :
    (r.detected db now).2.hasConflicts = false ↔
      r.Admissible db now ∧ r.Served (db.supply r.defaultTotalCapacity) := by
  have hcases := availability_cases db r.displaySurfaceId r.startsAt r.endsAt r.capacityUnits
    r.sovPercent r.defaultTotalCapacity
  unfold ReserveRequest.detected detectInventoryConflicts
  cases hsurface : Rows.get (·.id) r.displaySurfaceId db.displaySurfaces with
  | none =>
      -- a surface that is missing counts as inactive
      constructor
      · intro h
        cases h
      · rintro ⟨⟨⟨s, hs, -⟩, -, -⟩, -⟩
        rw [hsurface] at hs
        cases hs
  | some surface =>
      dsimp only
      by_cases hactive : surface.isActive = true
      · rw [if_neg (not_not.2 hactive)]
        split
        · -- the request itself is not well formed
          rename_i db' e heq
          have herror := congrArg Prod.snd heq
          rcases hcases with ⟨-, a, ha, -⟩ | ⟨hbad, -⟩
          · rw [ha] at herror
            cases herror
          · exact ⟨fun h ↦ (nomatch h), fun h ↦ absurd h.1.askable hbad⟩
        · -- the conflicts of the rules come first, the overbooked hours after them
          rename_i db' avail heq
          have hok := congrArg Prod.snd heq
          rcases hcases with ⟨hgood, a, ha, hall, hconf⟩ | ⟨-, e, he⟩
          · rw [ha] at hok
            obtain rfl := Except.ok.inj hok
            have hempty : (ruleConflicts db now r.displaySurfaceId r.sovPercent ++
                a.conflicts.map (overbooked r.displaySurfaceId)).isEmpty = true ↔
                ruleConflicts db now r.displaySurfaceId r.sovPercent = [] ∧ a.conflicts = [] := by
              rw [List.isEmpty_iff, List.append_eq_nil_iff, List.map_eq_nil_iff]
            constructor
            · intro h
              obtain ⟨hnone, hfits⟩ := hempty.1 (by simpa using h)
              exact ⟨⟨⟨surface, hsurface, hactive⟩, hnone, hgood⟩, hall.1 (hconf.1 hfits)⟩
            · intro h
              have h := hempty.2 ⟨h.1.rules, hconf.2 (hall.2 h.2)⟩
              simpa using h
          · rw [he] at hok
            cases hok
      · rw [if_pos hactive]
        constructor
        · intro h
          cases h
        · rintro ⟨⟨⟨s, hs, hs'⟩, -, -⟩, -⟩
          rw [hsurface] at hs
          cases hs
          exact absurd hs' hactive

/-- The detector decides: a request without a conflict passes the argument checks too. -/
theorem passes_iff_served (r : ReserveRequest) (db : Db) (now : Int) :
    r.Passes db now ↔ r.Admissible db now ∧ r.Served (db.supply r.defaultTotalCapacity) := by
  constructor
  · exact fun h ↦ (noConflict_iff_served r db now).1 h.noConflict
  · intro h
    have hask := h.1.askable
    exact ⟨hask.window, hask.notBoth, hask.sov, (noConflict_iff_served r db now).2 h⟩

theorem ReserveRequest.Admissible.frame {r : ReserveRequest} {db db' : Db} {now : Int}
    (h : InventoryOnly db db') : r.Admissible db' now ↔ r.Admissible db now := by
  obtain ⟨slots, bookings, rfl⟩ := h
  constructor
  · exact fun ⟨hsurface, hrules, hask⟩ ↦ ⟨hsurface, hrules, hask⟩
  · exact fun ⟨hsurface, hrules, hask⟩ ↦ ⟨hsurface, hrules, hask⟩

/-- Slots on demand do not matter to a request. -/
theorem passes_grows {r : ReserveRequest} {db db' : Db} {now : Int}
    (h : Grows r.defaultTotalCapacity db db') : r.Passes db' now ↔ r.Passes db now := by
  rw [passes_iff_served, passes_iff_served,
    ReserveRequest.Admissible.frame (InventoryOnly.of_grows h), h.supply]

/-- Phase 1 finds what the conflict check has found. -/
theorem checkSlots_served (r : ReserveRequest) (db : Db) (ps : List (Int × Nat))
    (h : ∀ p ∈ ps, (db.supply r.defaultTotalCapacity r.displaySurfaceId p).Serves
      r.capacityUnits r.sovPercent r.defaultTotalCapacity) :
    ∃ needed, (checkSlots r db ps).2 = .ok needed := by
  induction ps generalizing db with
  | nil => exact ⟨[], rfl⟩
  | cons p ps ih =>
      have hgrow := Grows.getOrCreate db r.displaySurfaceId p r.defaultTotalCapacity
      have hroom := h p List.mem_cons_self
      rw [← getOrCreate_capacity] at hroom
      have hrest : ∃ needed, (checkSlots r (getOrCreateInventorySlot db r.displaySurfaceId p
          r.defaultTotalCapacity).1 ps).2 = .ok needed := by
        apply ih
        rw [hgrow.supply]
        exact fun q hq ↦ h q (List.mem_cons_of_mem p hq)
      obtain ⟨needed, hneeded⟩ := hrest
      -- the slot that this hour has created leaves the room of the later hours as it was
      unfold checkSlots
      dsimp only
      rw [requestedUnits_asked, availableCapacity_eq, if_neg (not_lt.2 hroom)]
      split
      · exact ⟨_, rfl⟩
      · rename_i db'' e heq
        rw [heq] at hneeded
        cases hneeded

/-- A request that passes is accepted. -/
theorem reserve_accepts {r : ReserveRequest} {db : Db} {now : Int} (hpass : r.Passes db now) :
    ∃ res, (reserveInventoryForPlacement db now r).2 = .ok res := by
  obtain ⟨hadmissible, hserved⟩ := (passes_iff_served r db now).1 hpass
  rw [reserve_passed hpass]
  unfold reserveChecked
  dsimp only
  by_cases hex : (r.detected db now).1.bookingsOf r.placementId = []
  · rw [if_neg (not_not.2 hex), if_neg hadmissible.askable.hours]
    -- the conflict check has already looked at every hour
    have hsame := (detected_grows r db now).supply
    obtain ⟨needed, hneeded⟩ := checkSlots_served r (r.detected db now).1
      (slotPairs r.startsAt r.endsAt) (by rw [hsame]; exact hserved)
    split
    · rename_i db' e heq
      rw [heq] at hneeded
      cases hneeded
    · exact ⟨_, rfl⟩
  · -- a placement with bookings gets these back
    rw [if_pos hex]
    exact ⟨_, rfl⟩

theorem reserve_accepts_iff {r : ReserveRequest} {db : Db} {now : Int} :
    (∃ res, (reserveInventoryForPlacement db now r).2 = .ok res) ↔ r.Passes db now := by
  constructor
  · rintro ⟨res, hres⟩
    by_contra hno
    obtain ⟨-, e, he⟩ := reserve_refused hno
    rw [he] at hres
    cases hres
  · exact reserve_accepts

/-! ## Requests by share -/

/-- Every hour of the window has room for the share. -/
def Supply.Covers (S : Supply) (default : Int) (surfaceId : String) (sov : Int)
    (startsAt endsAt : DateTime) : Prop :=
  ∀ p ∈ slotPairs startsAt endsAt, (S surfaceId p).Admits default sov

/-- The window and the share of a request are well formed. -/
structure WellFormed (startsAt endsAt : DateTime) (sov : Int) : Prop where
  window : startsAt.instant < endsAt.instant
  sov : sovOutOfRange (some sov) = false
  hours : slotPairs startsAt endsAt ≠ []

def ReserveRequest.share (r : ReserveRequest) : Int := r.sovPercent.getD 0

/-- The request asks for a share, as every request of an approval does. -/
def ReserveRequest.ByShare (r : ReserveRequest) : Prop :=
  r.capacityUnits = none ∧ r.sovPercent = some r.share

/-- What a request is refused for whatever the slots hold: the surface, a rule, or the request
itself. -/
structure ReserveRequest.Clear (r : ReserveRequest) (db : Db) (now : Int) : Prop where
  surface : ∃ s, Rows.get (·.id) r.displaySurfaceId db.displaySurfaces = some s ∧ s.isActive = true
  rules : ruleConflicts db now r.displaySurfaceId r.sovPercent = []
  wellFormed : WellFormed r.startsAt r.endsAt r.share

/-- Every hour of the request's window has room for it. -/
def ReserveRequest.Covered (r : ReserveRequest) (S : Supply) : Prop :=
  S.Covers r.defaultTotalCapacity r.displaySurfaceId r.share r.startsAt r.endsAt

theorem ReserveRequest.Clear.frame {r : ReserveRequest} {db db' : Db} {now : Int}
    (h : InventoryOnly db db') : r.Clear db' now ↔ r.Clear db now := by
  obtain ⟨slots, bookings, rfl⟩ := h
  constructor
  · exact fun ⟨hsurface, hrules, hwell⟩ ↦ ⟨hsurface, hrules, hwell⟩
  · exact fun ⟨hsurface, hrules, hwell⟩ ↦ ⟨hsurface, hrules, hwell⟩

section ByShare

variable {r : ReserveRequest} (hr : r.ByShare) (db : Db) (now : Int)

include hr

theorem clear_iff : r.Clear db now ↔ r.Admissible db now := by
  obtain ⟨hunits, hsov⟩ := hr
  have hask : Askable r.startsAt r.endsAt r.capacityUnits r.sovPercent ↔
      WellFormed r.startsAt r.endsAt r.share := by
    rw [hunits, hsov]
    exact ⟨fun h ↦ ⟨h.window, h.sov, h.hours⟩, fun h ↦ ⟨h.window, by simp, h.sov, h.hours⟩⟩
  constructor
  · exact fun ⟨hsurface, hrules, hwell⟩ ↦ ⟨hsurface, hrules, hask.2 hwell⟩
  · exact fun ⟨hsurface, hrules, hwell⟩ ↦ ⟨hsurface, hrules, hask.1 hwell⟩

omit db now in
theorem covered_iff (S : Supply) : r.Covered S ↔ r.Served S := by
  unfold ReserveRequest.Served
  rw [hr.1, hr.2]
  rfl

theorem passes_iff : r.Passes db now ↔
    r.Clear db now ∧ r.Covered (db.supply r.defaultTotalCapacity) := by
  rw [clear_iff hr, covered_iff hr]
  exact passes_iff_served r db now

end ByShare

/-! ## What a reservation takes -/

theorem find?_isAt_map {f : InventorySlot → InventorySlot} (hf : ∀ s, (f s).shape = s.shape)
    (slots : List InventorySlot) (surfaceId : String) (p : Int × Nat) :
    (slots.map f).find? (fun s ↦ s.IsAt surfaceId p) =
      (slots.find? fun s ↦ s.IsAt surfaceId p).map f := by
  rw [List.find?_map]
  have hsame : ((fun s : InventorySlot ↦ decide (s.IsAt surfaceId p)) ∘ f) =
      fun s ↦ decide (s.IsAt surfaceId p) := by
    funext s
    exact decide_eq_decide.2 (isAt_shape (hf s))
  rw [hsame]

theorem capacity_addReserved (n : Int) (s : InventorySlot) :
    (s.addReserved n).capacity = s.capacity.take n := by
  unfold InventorySlot.capacity Capacity.take
  have htaken : (s.addReserved n).taken = s.taken + n := by
    show s.bookedCapacity + (s.reservedCapacity + n) + s.internalBlockedCapacity =
      s.bookedCapacity + s.reservedCapacity + s.internalBlockedCapacity + n
    omega
  rw [htaken]
  rfl

/-- One booking takes its units from its slot's hour. -/
theorem bookSlot_supply (r : ReserveRequest) (reservedUntil total : Int) {db : Db}
    (ht : SlotTable db.inventorySlots) {surfaceId : String} {p : Int × Nat}
    {need : InventorySlot × Int}
    (h : ∃ s ∈ db.inventorySlots, s.id = need.1.id ∧ s.IsAt surfaceId p) :
    (bookSlot r reservedUntil db need).supply total =
      (db.supply total).takeFrom surfaceId [p] fun _ ↦ need.2 := by
  obtain ⟨s, hs, hid, hat⟩ := h
  have hshape : ∀ x : InventorySlot,
      (if x.id = need.1.id then x.addReserved need.2 else x).shape = x.shape := by
    intro x
    split
    · exact addReserved_shape need.2 x
    · rfl
  funext surfaceId' q
  have hfind := find?_isAt_map hshape db.inventorySlots surfaceId' q
  have hslots : (bookSlot r reservedUntil db need).inventorySlots = db.inventorySlots.map
      fun x ↦ if x.id = need.1.id then x.addReserved need.2 else x := by
    show Ledger.adjust (·.id) need.1.id (·.addReserved need.2) db.inventorySlots = _
    simp [Ledger.adjust, Rows.updateWhere]
  unfold Db.supply Supply.takeFrom
  dsimp only
  rw [hslots, hfind]
  cases hq : db.inventorySlots.find? fun x ↦ x.IsAt surfaceId' q with
  | none =>
      -- the booked slot is there, so this is another hour
      have hne : ¬ (surfaceId' = surfaceId ∧ q ∈ [p]) := by
        rintro ⟨rfl, hmem⟩
        rw [List.mem_singleton.1 hmem] at hq
        have := List.find?_eq_none.1 hq s hs
        exact this (decide_eq_true hat)
      rw [if_neg hne]
      rfl
  | some x =>
      have hx := List.mem_of_find?_eq_some hq
      have hfound := List.find?_some hq
      have hxat : x.IsAt surfaceId' q := by simpa using hfound
      have hiff : x.id = need.1.id ↔ surfaceId' = surfaceId ∧ q ∈ [p] := by
        constructor
        · intro hxid
          obtain rfl := Rows.key_inj ht.ids hx hs (hxid.trans hid.symm)
          have hkey := (isAt_iff.1 hxat).symm.trans (isAt_iff.1 hat)
          obtain ⟨hsurface, hhour⟩ := Prod.mk.inj hkey
          exact ⟨hsurface, List.mem_singleton.2 hhour⟩
        · rintro ⟨rfl, hmem⟩
          rw [List.mem_singleton.1 hmem] at hxat
          obtain rfl := Rows.key_inj ht.keys hx hs ((isAt_iff.1 hxat).trans (isAt_iff.1 hat).symm)
          exact hid
      by_cases hbooked : x.id = need.1.id
      · rw [if_pos (hiff.1 hbooked)]
        simp only [Option.map_some, if_pos hbooked]
        exact capacity_addReserved need.2 x
      · rw [if_neg fun h ↦ hbooked (hiff.2 h)]
        simp only [Option.map_some, if_neg hbooked]

theorem takeFrom_cons (S : Supply) (surfaceId : String) {p : Int × Nat} {ps : List (Int × Nat)}
    (hp : p ∉ ps) (u : Int × Nat → Int) :
    (S.takeFrom surfaceId [p] fun _ ↦ u p).takeFrom surfaceId ps u =
      S.takeFrom surfaceId (p :: ps) u := by
  funext s q
  unfold Supply.takeFrom
  by_cases hq : q = p
  · subst hq
    simp [hp]
  · simp [hq]

theorem bookSlots_supply {r : ReserveRequest} {reservedUntil total : Int} {db : Db}
    (ht : SlotTable db.inventorySlots) {surfaceId : String} {u : Int × Nat → Int}
    {ps : List (Int × Nat)} (hps : ps.Nodup) {needed : List (InventorySlot × Int)}
    (h : List.Forall₂ (fun p need ↦ (∃ s ∈ db.inventorySlots, s.id = need.1.id ∧
      s.IsAt surfaceId p) ∧ need.2 = u p) ps needed) :
    (bookSlots r reservedUntil db needed).supply total =
      (db.supply total).takeFrom surfaceId ps u := by
  induction ps generalizing db needed with
  | nil =>
      cases h
      funext s q
      simp [Supply.takeFrom, bookSlots]
  | cons p ps ih =>
      cases h with
      | @cons _ need _ needed hp hrest =>
          obtain ⟨hnot, hps⟩ := List.nodup_cons.1 hps
          have hone := bookSlot_supply r reservedUntil total ht hp.1
          have hshapes := map_shape_adjust (k := need.1.id) (addReserved_shape need.2)
            db.inventorySlots
          have hkept : Kept total db (bookSlot r reservedUntil db need) :=
            Kept.of_map_shape hshapes
          have hrest' : List.Forall₂ (fun q need' ↦
              (∃ s ∈ (bookSlot r reservedUntil db need).inventorySlots, s.id = need'.1.id ∧
                s.IsAt surfaceId q) ∧ need'.2 = u q) ps needed := by
            refine hrest.imp fun q need' ⟨⟨s, hs, hid, hat⟩, hunits⟩ ↦ ⟨?_, hunits⟩
            obtain ⟨s', hs', heq⟩ := hkept.fwd s hs
            exact ⟨s', hs', (id_shape heq).trans hid, (isAt_shape heq).2 hat⟩
          show (bookSlots r reservedUntil (bookSlot r reservedUntil db need) needed).supply total = _
          rw [ih (hkept.table ht) hps hrest', hone, hp.2]
          exact takeFrom_cons _ surfaceId hnot u

/-- An accepted request is clear and covered. -/
theorem reserve_ok_iff {r : ReserveRequest} (hr : r.ByShare) (db : Db) (now : Int) :
    (∃ res, (reserveInventoryForPlacement db now r).2 = .ok res) ↔
      r.Clear db now ∧ r.Covered (db.supply r.defaultTotalCapacity) := by
  rw [← passes_iff hr]
  exact reserve_accepts_iff

/-- The first reservation of a placement takes the share from every hour of the window. -/
theorem reserve_supply {r : ReserveRequest} (hr : r.ByShare) {db : Db} {now : Int}
    (ht : SlotTable db.inventorySlots) (hpass : r.Passes db now)
    (hnone : db.bookingsOf r.placementId = []) :
    (reserveInventoryForPlacement db now r).1.supply r.defaultTotalCapacity =
      (db.supply r.defaultTotalCapacity).takeFrom r.displaySurfaceId
        (slotPairs r.startsAt r.endsAt) fun p ↦
          (db.supply r.defaultTotalCapacity r.displaySurfaceId p).units r.defaultTotalCapacity
            r.share := by
  obtain ⟨hclear, hcovered⟩ := (passes_iff hr db now).1 hpass
  have hgrow := detected_grows r db now
  have hgrow' := hgrow.trans (checkSlots_grows r (r.detected db now).1
    (slotPairs r.startsAt r.endsAt))
  obtain ⟨needed, hneeded⟩ := checkSlots_served r (r.detected db now).1
    (slotPairs r.startsAt r.endsAt) (by rw [hgrow.supply]; exact (covered_iff hr _).1 hcovered)
  have hchecked := checkSlots_ok hneeded
  rw [reserve_passed hpass]
  unfold reserveChecked
  dsimp only
  rw [if_neg (not_not.2 ((hgrow.bookingsOf r.placementId).trans hnone)),
    if_neg hclear.wellFormed.hours]
  split
  · rename_i db' e heq
    rw [heq] at hneeded
    cases hneeded
  · rename_i db' needed' heq
    rw [heq] at hneeded hchecked hgrow'
    obtain rfl := Except.ok.inj hneeded
    have ht' : SlotTable db'.inventorySlots := (Kept.of_grows hgrow').table ht
    have hsupply : db'.supply r.defaultTotalCapacity = db.supply r.defaultTotalCapacity :=
      hgrow'.supply
    rw [← hsupply]
    apply bookSlots_supply ht' (slotPairs_nodup r.startsAt r.endsAt)
    refine hchecked.imp fun p need h ↦ ⟨⟨need.1, h.mem, rfl, h.at_⟩, ?_⟩
    have hfound : db'.supply r.defaultTotalCapacity r.displaySurfaceId p = need.1.capacity := by
      unfold Db.supply
      cases hq : db'.inventorySlots.find? fun x ↦ x.IsAt r.displaySurfaceId p with
      | none => exact absurd (decide_eq_true h.at_) (List.find?_eq_none.1 hq need.1 h.mem)
      | some x =>
          have hx := List.find?_some hq
          have hxat : x.IsAt r.displaySurfaceId p := by simpa using hx
          rw [Rows.key_inj ht'.keys (List.mem_of_find?_eq_some hq) h.mem
            ((isAt_iff.1 hxat).trans (isAt_iff.1 h.at_).symm)]
    rw [hfound, h.units, hr.1, hr.2, requestedUnits_share]

/-- A loop that selects no booking does nothing. -/
theorem settleBookings_none {selected : InventoryBooking → Bool} {evenWithoutSlot : Bool}
    {onSlot : InventoryBooking → InventorySlot → InventorySlot}
    {onBooking : InventoryBooking → InventoryBooking} {db : Db}
    (h : ∀ b ∈ db.inventoryBookings, selected b = false) :
    (settleBookings selected evenWithoutSlot onSlot onBooking db).1 = db := by
  have hsweep : ∀ bs : List InventoryBooking, (∀ b ∈ bs, selected b = false) →
      Rows.sweep (settleStep selected evenWithoutSlot onSlot onBooking) db bs = (db, bs) := by
    intro bs hbs
    induction bs with
    | nil => rfl
    | cons b bs ih =>
        have hstep : settleStep selected evenWithoutSlot onSlot onBooking db b = (db, b) := by
          unfold settleStep
          rw [hbs b List.mem_cons_self]
          rfl
        rw [Rows.sweep_cons, hstep, ih fun c hc ↦ hbs c (List.mem_cons_of_mem b hc)]
  unfold settleBookings
  rw [hsweep db.inventoryBookings h]

/-- A later reservation of the placement takes nothing: its bookings are active already. -/
theorem reserve_again {r : ReserveRequest} {db : Db} {now : Int} (hpass : r.Passes db now)
    (hsome : db.bookingsOf r.placementId ≠ [])
    (hactive : ∀ b ∈ db.bookingsOf r.placementId, b.isActive = true) :
    (reserveInventoryForPlacement db now r).1 = (r.detected db now).1 := by
  have hgrow := detected_grows r db now
  rw [reserve_passed hpass]
  unfold reserveChecked
  dsimp only
  rw [hgrow.bookingsOf, if_pos hsome]
  exact settleBookings_none fun b hb ↦ by
    rw [hgrow.bookings] at hb
    by_cases hp : b.campaignPlacementId = r.placementId
    · have hact := hactive b (List.mem_filter.2 ⟨hb, decide_eq_true hp⟩)
      simp [hact]
    · simp [hp]

/-! ## Detector and reservation

The conflict detector decides whether a placement gets its reservation: the checks that the
reservation makes before and after it add nothing. -/

theorem conflict_iff_refused (db : Db) (now : Int) (r : ReserveRequest) :
    (r.detected db now).2.hasConflicts = true ↔ ¬ r.Passes db now := by
  rw [passes_iff_served, ← noConflict_iff_served, Bool.not_eq_false]

/-- A reservation, with valid arguments or not, is refused when the detector reports a conflict
for the same arguments, and only then.  When it reports none, nothing that follows raises: in
every hour phase 1 finds the room that the detector has found. -/
theorem detector_decides (db : Db) (now : Int) (r : ReserveRequest) :
    ((∃ e, (reserveInventoryForPlacement db now r).2 = .error e) ↔
      (r.detected db now).2.hasConflicts = true) ∧
    ((r.detected db now).2.hasConflicts = false →
      ∀ e, (reserveChecked (r.detected db now).1 now r).2 ≠ .error e) := by
  have hrefused := conflict_iff_refused db now r
  constructor
  · rw [hrefused]
    constructor
    · rintro ⟨e, he⟩ hpass
      obtain ⟨res, hres⟩ := reserve_accepts hpass
      rw [hres] at he
      cases he
    · exact fun h ↦ (reserve_refused h).2
  · intro hnone e he
    have hpass : r.Passes db now := by
      by_contra hno
      rw [hrefused.2 hno] at hnone
      cases hnone
    obtain ⟨res, hres⟩ := reserve_accepts hpass
    rw [reserve_passed hpass, he] at hres
    cases hres

end RetailMedia
