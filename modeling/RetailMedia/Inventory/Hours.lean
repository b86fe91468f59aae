import RetailMedia.Inventory.Supply

/-! The hours that a window is expanded to: which they are, what they cover, and how they depend
on the offsets that the window is written with. -/

namespace RetailMedia

/-! ## The hours of a window -/

/-- Date and hour that a wall clock shows `k` hours after its epoch. -/
def hourLabel (k : Int) : Int × Nat := (k / 24, (k % 24).toNat)

theorem hourLabel_eq (k : Int) : (hourLabel k).1 * 24 + (hourLabel k).2 = k := by
  unfold hourLabel
  dsimp only
  omega

theorem hourLabel_injective : Function.Injective hourLabel := by
  intro k k' h
  rw [← hourLabel_eq k, ← hourLabel_eq k', h]

theorem hour_lt (t : DateTime) : t.hour < 24 := by
  have hday : t.wall % dayMicros < 24 * hourMicros := Int.emod_lt_of_pos _ (by decide)
  have hlt : t.wall % dayMicros / hourMicros < 24 := Int.ediv_lt_of_lt_mul hourMicros_pos hday
  unfold DateTime.hour
  omega

theorem hourLabel_wall (t : DateTime) : hourLabel (t.wall / hourMicros) = (t.date, t.hour) := by
  have hsum := date_hour_eq t
  have hlt := hour_lt t
  unfold hourLabel
  apply Prod.ext
  · show t.wall / hourMicros / 24 = t.date
    omega
  · show (t.wall / hourMicros % 24).toNat = t.hour
    omega

theorem floorHour_hours (t : DateTime) : t.floorHour.wall / hourMicros = t.wall / hourMicros := by
  have hmod := Int.emod_add_mul_ediv t.wall hourMicros
  show (t.wall - t.wall % hourMicros) / hourMicros = t.wall / hourMicros
  rw [show t.wall - t.wall % hourMicros = hourMicros * (t.wall / hourMicros) by omega,
    Int.mul_ediv_cancel_left _ hourMicros_pos.ne']

theorem hourPairs_eq_range (current endHour : DateTime) :
    hourPairs current endHour = (List.range (hoursBetween current endHour)).map fun i : Nat ↦
      hourLabel (current.wall / hourMicros + i) := by
  generalize hn : hoursBetween current endHour = n
  induction n generalizing current with
  | zero =>
      unfold hourPairs
      rw [hn]
      rfl
  | succ n ih =>
      -- the loop has another pass, and the hours after it are those from the next hour on
      have hlt : current.instant < endHour.instant := by
        by_contra hno
        rw [hoursBetween_zero hno] at hn
        cases hn
      have hrest : hoursBetween current.nextHour endHour = n := by
        rw [hoursBetween_succ hlt] at hn
        omega
      rw [hourPairs_eq, if_pos hlt, ih current.nextHour hrest, List.range_succ_eq_map,
        List.map_cons, List.map_map, ← hourLabel_wall, nextHour_hours]
      congr 1
      · simp
      · apply List.map_congr_left
        intro i _
        show hourLabel _ = hourLabel _
        congr 1
        push_cast
        ring

/-- How many hours a window is expanded to. -/
def hourCount (startsAt endsAt : DateTime) : Nat :=
  hoursBetween startsAt.floorHour endsAt.floorHour

/-- The hours of a window follow each other, from the one that its start falls in. -/
theorem slotPairs_eq_range (startsAt endsAt : DateTime) :
    slotPairs startsAt endsAt = (List.range (hourCount startsAt endsAt)).map fun i : Nat ↦
      hourLabel (startsAt.wall / hourMicros + i) := by
  unfold slotPairs hourCount
  rw [hourPairs_eq_range, floorHour_hours]

theorem mem_slotPairs {startsAt endsAt : DateTime} {p : Int × Nat} :
    p ∈ slotPairs startsAt endsAt ↔ ∃ k, startsAt.wall / hourMicros ≤ k ∧
      k < startsAt.wall / hourMicros + hourCount startsAt endsAt ∧ hourLabel k = p := by
  rw [slotPairs_eq_range, List.mem_map]
  constructor
  · intro h
    obtain ⟨i, hi, hp⟩ := h
    have hi := List.mem_range.1 hi
    exact ⟨_, by omega, by omega, hp⟩
  · intro h
    obtain ⟨k, hle, hlt, hp⟩ := h
    refine ⟨(k - startsAt.wall / hourMicros).toNat, List.mem_range.2 (by omega), ?_⟩
    rw [← hp]
    congr 1
    omega

theorem mem_slotPairs_label {startsAt endsAt : DateTime} {k : Int} :
    hourLabel k ∈ slotPairs startsAt endsAt ↔ startsAt.wall / hourMicros ≤ k ∧
      k < startsAt.wall / hourMicros + hourCount startsAt endsAt := by
  rw [mem_slotPairs]
  constructor
  · intro h
    obtain ⟨j, hle, hlt, hp⟩ := h
    rw [← hourLabel_injective hp]
    exact ⟨hle, hlt⟩
  · exact fun h ↦ ⟨k, h.1, h.2, rfl⟩

/-! ## The two functions that expand a window -/

/-- The availability that is computed is that of the window's hours. -/
theorem availability_hours {db : Db} {surfaceId : String} {startsAt endsAt : DateTime}
    {units sov : Option Int} {default : Int} {a : Availability}
    (h : (computeInventoryAvailability db surfaceId startsAt endsAt units sov default).2 = .ok a) :
    (a.slots.map fun e ↦ (e.slotDate, e.slotHour)) =
      (slotPairs startsAt endsAt).map fun p ↦ (dateIsoformat p.1, p.2) := by
  unfold computeInventoryAvailability at h
  split_ifs at h
  obtain rfl := Except.ok.inj h
  apply Rows.sweep_column (I := fun _ ↦ True) _ trivial
  exact fun d p _ _ ↦ ⟨trivial, rfl⟩

/-- An accepted reservation of a new placement books the window's hours, one booking each. -/
theorem reservation_hours {r : ReserveRequest} {db : Db} {now : Int} {res : ReserveResult}
    (hdb : db.BookingsHaveSlots) (hnew : db.bookingsOf r.placementId = [])
    (h : (reserveInventoryForPlacement db now r).2 = .ok res) :
    List.Forall₂ (FreshBooking r (reserveInventoryForPlacement db now r).1)
      (slotPairs r.startsAt r.endsAt)
      ((reserveInventoryForPlacement db now r).1.bookingsOf r.placementId) :=
  (reserve_ok r now hdb res h).fresh hnew

/-! ## Offsets -/

/-- The datetime that denotes the instant on a clock which is `offset` ahead of UTC. -/
def DateTime.at (t offset : Int) : DateTime := ⟨t + offset, offset⟩

theorem at_instant (t : DateTime) : DateTime.at t.instant t.offset = t := by
  unfold DateTime.at DateTime.instant
  rw [Int.sub_add_cancel]

theorem interval_ext {a b : Int} {n m : Nat} :
    (∀ k, (a ≤ k ∧ k < a + n) ↔ (b ≤ k ∧ k < b + m)) ↔ n = m ∧ (n = 0 ∨ a = b) := by
  constructor
  · intro h
    -- the ends of both intervals decide
    have ha := h a
    have hb := h b
    have hlast := h (a + n - 1)
    have hlast' := h (b + m - 1)
    omega
  · intro h k
    omega

theorem slotPairs_ext {s e s' e' : DateTime} :
    (∀ p, p ∈ slotPairs s e ↔ p ∈ slotPairs s' e') ↔
      hourCount s e = hourCount s' e' ∧
        (hourCount s e = 0 ∨ s.wall / hourMicros = s'.wall / hourMicros) := by
  rw [← interval_ext]
  constructor
  · intro h k
    rw [← mem_slotPairs_label, ← mem_slotPairs_label]
    exact h (hourLabel k)
  · intro h p
    rw [mem_slotPairs, mem_slotPairs]
    apply exists_congr
    intro k
    rw [← and_assoc, ← and_assoc, h k]

/-- Two spellings of one window are expanded to the same hours exactly when they have equally many
and, unless there is none, the clocks of the two starts show the same hour. -/
theorem same_hours_iff (t u o q o' q' : Int) :
    (∀ p, p ∈ slotPairs (.at t o) (.at u q) ↔ p ∈ slotPairs (.at t o') (.at u q')) ↔
      hourCount (.at t o) (.at u q) = hourCount (.at t o') (.at u q') ∧
        (hourCount (.at t o) (.at u q) = 0 ∨ (t + o) / hourMicros = (t + o') / hourMicros) :=
  slotPairs_ext

/-- Seven o'clock in London is ten o'clock in Moscow, and another slot. -/
theorem moscow_hour_another_slot :
    ¬ ∀ p, p ∈ slotPairs (.at (7 * hourMicros) 0) (.at (8 * hourMicros) 0) ↔
      p ∈ slotPairs (.at (7 * hourMicros) (3 * hourMicros))
        (.at (8 * hourMicros) (3 * hourMicros)) := by
  intro h
  exact absurd ((h (0, 7)).1 (by decide)) (by decide)

theorem hourMicros_eq : hourMicros = 3600000000 := rfl

theorem hourCount_zero_iff {startsAt endsAt : DateTime} :
    hourCount startsAt endsAt = 0 ↔ slotPairs startsAt endsAt = [] := by
  rw [slotPairs_eq_range, List.map_eq_nil_iff, List.range_eq_nil]

theorem floorHour_at_whole (t m : Int) :
    (DateTime.at t (hourMicros * m)).floorHour.instant = t - t % hourMicros := by
  show t + hourMicros * m - (t + hourMicros * m) % hourMicros - hourMicros * m = _
  rw [Int.add_mul_emod_self_left]
  omega

/-- With offsets of whole hours the count is that of UTC, and the hours are the same only for
starts with the same offset. -/
theorem same_hours_iff_offset {o q o' q' : Int} (t u : Int) (ho : hourMicros ∣ o)
    (hq : hourMicros ∣ q) (ho' : hourMicros ∣ o') (hq' : hourMicros ∣ q') :
    (∀ p, p ∈ slotPairs (.at t o) (.at u q) ↔ p ∈ slotPairs (.at t o') (.at u q')) ↔
      slotPairs (.at t o) (.at u q) = [] ∨ o = o' := by
  obtain ⟨m, rfl⟩ := ho
  obtain ⟨l, rfl⟩ := hq
  obtain ⟨m', rfl⟩ := ho'
  obtain ⟨l', rfl⟩ := hq'
  have hcount : hourCount (.at t (hourMicros * m)) (.at u (hourMicros * l)) =
      hourCount (.at t (hourMicros * m')) (.at u (hourMicros * l')) := by
    unfold hourCount hoursBetween
    simp only [floorHour_at_whole]
  have hstart : (t + hourMicros * m) / hourMicros = (t + hourMicros * m') / hourMicros ↔
      hourMicros * m = hourMicros * m' := by
    rw [hourMicros_eq]
    omega
  rw [same_hours_iff, ← hourCount_zero_iff, hstart]
  exact and_iff_right hcount

/-! ## Coverage -/

/-- When the hour of a slot starts, on a clock that shows UTC. -/
def hourStart (p : Int × Nat) : Int := (p.1 * 24 + p.2) * hourMicros

theorem hourStart_label (k : Int) : hourStart (hourLabel k) = k * hourMicros := by
  unfold hourStart
  rw [hourLabel_eq]

/-- Every instant of the window lies in an hour that it is expanded to. -/
def HoursCover (startsAt endsAt : Int) : Prop :=
  ∀ t, startsAt ≤ t → t < endsAt →
    ∃ p ∈ slotPairs (.utc startsAt) (.utc endsAt), hourStart p ≤ t ∧ t < hourStart p + hourMicros

/-- Every hour that the window is expanded to meets it. -/
def HoursMeet (startsAt endsAt : Int) : Prop :=
  ∀ p ∈ slotPairs (.utc startsAt) (.utc endsAt),
    hourStart p < endsAt ∧ startsAt < hourStart p + hourMicros

theorem hourCount_utc (startsAt endsAt : Int) : hourCount (.utc startsAt) (.utc endsAt) =
    (endsAt / hourMicros - startsAt / hourMicros).toNat := by
  have hfloor (t : Int) : (DateTime.utc t).floorHour.instant = t - t % hourMicros := by
    show t - t % hourMicros - 0 = _
    omega
  unfold hourCount hoursBetween
  rw [hfloor, hfloor, hourMicros_eq]
  omega

theorem mem_slotPairs_utc {startsAt endsAt : Int} {p : Int × Nat} :
    p ∈ slotPairs (.utc startsAt) (.utc endsAt) ↔ ∃ k, startsAt / hourMicros ≤ k ∧
      k < endsAt / hourMicros ∧ hourLabel k = p := by
  rw [mem_slotPairs, hourCount_utc]
  apply exists_congr
  intro k
  show startsAt / hourMicros ≤ k ∧ _ ↔ _
  rw [← and_assoc, ← and_assoc]
  apply and_congr_left
  intro _
  show startsAt / hourMicros ≤ k ∧ k < startsAt / hourMicros + _ ↔ _
  omega

/-- The start is cut down to its hour, so the first hour may start before the window, but no hour
lies outside of it. -/
theorem hours_meet (startsAt endsAt : Int) : HoursMeet startsAt endsAt := by
  intro p hp
  obtain ⟨k, hle, hlt, rfl⟩ := mem_slotPairs_utc.1 hp
  rw [hourStart_label]
  rw [hourMicros_eq] at hle hlt ⊢
  omega

/-- The hours cover the window exactly when it ends on the hour: the end is cut down too, so a
started last hour is left out. -/
theorem window_covered_iff {startsAt endsAt : Int} (h : startsAt < endsAt) :
    HoursCover startsAt endsAt ∧ HoursMeet startsAt endsAt ↔ endsAt % hourMicros = 0 := by
  rw [and_iff_left (hours_meet startsAt endsAt)]
  constructor
  · intro hcover
    -- the last instant of the window
    obtain ⟨p, hp, hstart, hend⟩ := hcover (endsAt - 1) (by omega) (by omega)
    obtain ⟨k, hle, hlt, rfl⟩ := mem_slotPairs_utc.1 hp
    rw [hourStart_label] at hstart hend
    rw [hourMicros_eq] at hlt hstart hend ⊢
    omega
  · intro hwhole t hle hlt
    -- an instant lies in the hour that its own clock shows
    refine ⟨hourLabel (t / hourMicros), mem_slotPairs_utc.2 ⟨_, ?_, ?_, rfl⟩, ?_⟩
    · exact Int.ediv_le_ediv hourMicros_pos hle
    · rw [hourMicros_eq] at hwhole ⊢
      omega
    · rw [hourStart_label, hourMicros_eq]
      omega

theorem two_hours_covered :
    HoursCover 1800000000 7200000000 ∧ HoursMeet 1800000000 7200000000 :=
  (window_covered_iff (by decide)).2 (by decide)

/-- Of the window from 00:00 to 01:30 the last half hour is in no slot. -/
theorem started_hour_not_covered :
    ¬ (HoursCover 0 5400000000 ∧ HoursMeet 0 5400000000) := by
  intro h
  obtain ⟨p, hp, hstart, hend⟩ := h.1 4000000000 (by decide) (by decide)
  have hslots : slotPairs (.utc 0) (.utc 5400000000) = [(0, 0)] := by
    decide
  rw [hslots] at hp
  rw [List.mem_singleton.1 hp] at hend
  exact absurd hend (by decide)

end RetailMedia
