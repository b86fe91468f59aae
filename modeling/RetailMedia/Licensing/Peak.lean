import RetailMedia.Licensing.Seats
import RetailMedia.Lib.Occupancy

/-! The monthly peak of a license: the most seats that are open at one instant of the month. -/

namespace RetailMedia

/-! ## Months -/

/-- Days from the epoch to a day of the proleptic Gregorian calendar. -/
def dayOfCivil (year month day : Int) : Int :=
  let y := if month ≤ 2 then year - 1 else year
  let mp := if month ≤ 2 then month + 9 else month - 3
  let doy := (153 * mp + 2) / 5 + day - 1
  let yoe := y % 400
  let doe := yoe * 365 + yoe / 4 - yoe / 100 + doy
  y / 400 * 146097 + doe - 719468

/-- `datetime(year, month, 1, tzinfo=timezone.utc)`, for a valid month. -/
def firstOfMonth (year month : Int) : Int := dayOfCivil year month 1 * dayMicros

/-- The month as a half-open window.  The last month that a datetime can have has no next one. -/
def monthBounds (year month : Int) : Except String (Int × Int) :=
  if ¬ (1 ≤ year ∧ year ≤ 9999) then
    .error ("year must be an integer in 1..9999, got " ++ toString year)
  else if ¬ (1 ≤ month ∧ month ≤ 12) then
    .error ("month must be an integer in 1..12, got " ++ toString month)
  else if month = 12 then
    if year = 9999 then .error "year 10000 is out of range"
    else .ok (firstOfMonth year month, firstOfMonth (year + 1) 1)
  else .ok (firstOfMonth year month, firstOfMonth year (month + 1))

example : monthBounds 2026 8 = .ok (1785542400000000, 1788220800000000) := by decide

theorem firstOfMonth_lt_next {year month : Int} (h : 1 ≤ month) (h' : month < 12) :
    firstOfMonth year month < firstOfMonth year (month + 1) := by
  have hday : dayOfCivil year month 1 < dayOfCivil year (month + 1) 1 := by
    unfold dayOfCivil
    interval_cases month
    all_goals
      simp only [Int.reduceLE, Int.reduceAdd, Int.reduceSub, Int.reduceMul, Int.reduceDiv, if_true,
        if_false]
      omega
  exact Int.mul_lt_mul_of_pos_right hday (by decide)

theorem firstOfMonth_lt_nextYear (year : Int) :
    firstOfMonth year 12 < firstOfMonth (year + 1) 1 := by
  have hday : dayOfCivil year 12 1 < dayOfCivil (year + 1) 1 1 := by
    unfold dayOfCivil
    simp only [Int.reduceLE, Int.reduceAdd, Int.reduceSub, Int.reduceMul, Int.reduceDiv, if_true,
      if_false]
    omega
  exact Int.mul_lt_mul_of_pos_right hday (by decide)

theorem monthBounds_lt {year month monthStart nextMonthStart : Int}
    (h : monthBounds year month = .ok (monthStart, nextMonthStart)) :
    monthStart < nextMonthStart := by
  unfold monthBounds at h
  split at h
  · cases h
  · split at h
    · cases h
    · rename_i hmonth
      split at h
      · rename_i hlast
        split at h
        · cases h
        · cases h
          rw [hlast]
          exact firstOfMonth_lt_nextYear year
      · cases h
        exact firstOfMonth_lt_next (by omega) (by omega)

/-! ## The peak -/

section Peak

variable {τ : Type*} [LinearOrder τ]

def clipStart (monthStart reservedAt : τ) : τ :=
  if reservedAt < monthStart then monthStart else reservedAt

/-- An open seat is occupied to the end of the month. -/
def clipEnd (nextMonthStart : τ) (releasedAt : Option τ) : τ :=
  let e := releasedAt.getD nextMonthStart
  if e > nextMonthStart then nextMonthStart else e

/-- The part of a seat's interval in the month, if there is one. -/
def clip (monthStart nextMonthStart : τ) (i : τ × Option τ) : Option (τ × τ) :=
  let s := clipStart monthStart i.1
  let e := clipEnd nextMonthStart i.2
  if s ≥ e then none else some (s, e)

def peakFromIntervals (intervals : List (τ × Option τ)) (monthStart nextMonthStart : τ) : Int :=
  Occupancy.sweep (Occupancy.events (intervals.filterMap (clip monthStart nextMonthStart)))

/-- The seat is reserved at `t` and not yet released. -/
def openAt (t : τ) (i : τ × Option τ) : Bool := i.1 ≤ t ∧ i.2.all fun releasedAt ↦ t < releasedAt

/-- The rows that the query selects. -/
def overlapsMonth (monthStart nextMonthStart : τ) (i : τ × Option τ) : Bool :=
  i.1 < nextMonthStart ∧ i.2.all fun releasedAt ↦ releasedAt > monthStart

/-! ## Clipping -/

theorem le_clipStart (monthStart reservedAt : τ) :
    monthStart ≤ clipStart monthStart reservedAt ∧
      reservedAt ≤ clipStart monthStart reservedAt := by
  unfold clipStart
  split
  · rename_i hbefore
    exact ⟨le_refl _, hbefore.le⟩
  · rename_i hbefore
    exact ⟨not_lt.1 hbefore, le_refl _⟩

theorem clipStart_le_iff {monthStart t : τ} (h : monthStart ≤ t) (reservedAt : τ) :
    clipStart monthStart reservedAt ≤ t ↔ reservedAt ≤ t := by
  constructor
  · exact (le_clipStart monthStart reservedAt).2.trans
  · intro hreserved
    unfold clipStart
    split
    · exact h
    · exact hreserved

theorem clipEnd_le (nextMonthStart : τ) (releasedAt : Option τ) :
    clipEnd nextMonthStart releasedAt ≤ nextMonthStart := by
  unfold clipEnd
  dsimp only
  split
  · exact le_refl _
  · rename_i hafter
    exact not_lt.1 hafter

theorem clipEnd_le_released (nextMonthStart releasedAt : τ) :
    clipEnd nextMonthStart (some releasedAt) ≤ releasedAt := by
  unfold clipEnd
  rw [Option.getD_some]
  dsimp only
  split
  · rename_i hafter
    exact hafter.le
  · exact le_refl _

theorem lt_clipEnd_iff {nextMonthStart t : τ} (h : t < nextMonthStart) (releasedAt : Option τ) :
    t < clipEnd nextMonthStart releasedAt ↔ releasedAt.all (fun e ↦ t < e) = true := by
  unfold clipEnd
  cases releasedAt with
  | none => simpa using h
  | some e =>
      simp only [Option.getD_some, Option.all_some, decide_eq_true_eq]
      split
      · rename_i hafter
        exact ⟨fun _ ↦ h.trans hafter, fun _ ↦ h⟩
      · exact Iff.rfl

/-- What is left of an interval is not empty and lies in the month. -/
theorem clip_proper {monthStart nextMonthStart : τ} {i : τ × Option τ} {p : τ × τ}
    (h : clip monthStart nextMonthStart i = some p) :
    p.1 < p.2 ∧ monthStart ≤ p.1 ∧ p.1 < nextMonthStart := by
  unfold clip at h
  by_cases hempty : clipStart monthStart i.1 ≥ clipEnd nextMonthStart i.2
  · rw [if_pos hempty] at h
    cases h
  · have hlt := not_le.1 hempty
    rw [if_neg hempty] at h
    cases h
    exact ⟨hlt, (le_clipStart monthStart i.1).1, hlt.trans_le (clipEnd_le nextMonthStart i.2)⟩

/-- In the month, the clipped interval is open when the seat is. -/
theorem clip_open {monthStart nextMonthStart t : τ} (hstart : monthStart ≤ t)
    (hnext : t < nextMonthStart) (i : τ × Option τ) :
    (clip monthStart nextMonthStart i).any (fun p ↦ p.1 ≤ t ∧ t < p.2) = openAt t i := by
  have hs := clipStart_le_iff hstart i.1
  have he := lt_clipEnd_iff hnext i.2
  unfold clip openAt
  by_cases hempty : clipStart monthStart i.1 ≥ clipEnd nextMonthStart i.2
  · rw [if_pos hempty, Option.any_none, eq_comm, decide_eq_false_iff_not]
    intro hopen
    have hlt := (hs.2 hopen.1).trans_lt (he.2 hopen.2)
    exact absurd hlt (not_lt.2 hempty)
  · rw [if_neg hempty, Option.any_some]
    exact decide_eq_decide.2 (and_congr hs he)

theorem openAt_filterMap {α β : Type*} (f : α → Option β) (p : β → Bool) (l : List α) :
    (l.filterMap f).countP p = l.countP fun x ↦ (f x).any p := by
  induction l with
  | nil => rfl
  | cons x l ih =>
      rw [List.filterMap_cons, List.countP_cons]
      cases hx : f x with
      | none => simp [ih]
      | some y => simp [List.countP_cons, ih]

theorem clipped_openAt {monthStart nextMonthStart t : τ} (hstart : monthStart ≤ t)
    (hnext : t < nextMonthStart) (intervals : List (τ × Option τ)) :
    Occupancy.openAt t (intervals.filterMap (clip monthStart nextMonthStart)) =
      intervals.countP (openAt t) := by
  unfold Occupancy.openAt
  rw [openAt_filterMap]
  apply List.countP_congr
  intro i _
  rw [clip_open hstart hnext]

/-- The rows that the query leaves out have no instant in the month. -/
theorem clip_of_not_overlaps {monthStart nextMonthStart : τ} {i : τ × Option τ}
    (h : overlapsMonth monthStart nextMonthStart i = false) :
    clip monthStart nextMonthStart i = none := by
  unfold overlapsMonth at h
  rw [decide_eq_false_iff_not, not_and_or, not_lt] at h
  have hstart := le_clipStart monthStart i.1
  unfold clip
  apply if_pos
  rcases h with hlate | hearly
  · exact (clipEnd_le nextMonthStart i.2).trans (hlate.trans hstart.2)
  · cases hreleased : i.2 with
    | none =>
        rw [hreleased] at hearly
        exact absurd rfl hearly
    | some releasedAt =>
        rw [hreleased] at hearly
        have hle : releasedAt ≤ monthStart := by simpa using hearly
        exact (clipEnd_le_released nextMonthStart releasedAt).trans (hle.trans hstart.1)

theorem filterMap_clip_overlaps (monthStart nextMonthStart : τ)
    (intervals : List (τ × Option τ)) :
    (intervals.filter (overlapsMonth monthStart nextMonthStart)).filterMap
      (clip monthStart nextMonthStart) =
    intervals.filterMap (clip monthStart nextMonthStart) := by
  induction intervals with
  | nil => rfl
  | cons i l ih =>
      cases hi : overlapsMonth monthStart nextMonthStart i with
      | true => rw [List.filter_cons_of_pos hi, List.filterMap_cons, List.filterMap_cons, ih]
      | false =>
          rw [List.filter_cons_of_neg (by simp [hi]), List.filterMap_cons,
            clip_of_not_overlaps hi, ih]

/-! ## The peak is the maximum -/

theorem peakFromIntervals_isGreatest {monthStart nextMonthStart : τ}
    (h : monthStart < nextMonthStart) (intervals : List (τ × Option τ)) :
    IsGreatest {n : Int | ∃ t, (monthStart ≤ t ∧ t < nextMonthStart) ∧
        n = intervals.countP (openAt t)}
      (peakFromIntervals intervals monthStart nextMonthStart) := by
  have hproper : ∀ p ∈ intervals.filterMap (clip monthStart nextMonthStart), p.1 < p.2 ∧
      monthStart ≤ p.1 ∧ p.1 < nextMonthStart := by
    intro p hp
    obtain ⟨i, -, hclip⟩ := List.mem_filterMap.1 hp
    exact clip_proper hclip
  have hgreatest := Occupancy.sweep_isGreatest
    (W := fun t ↦ monthStart ≤ t ∧ t < nextMonthStart) (fun p hp ↦ (hproper p hp).1)
    (fun p hp ↦ (hproper p hp).2) ⟨le_refl monthStart, h⟩
  have hsame : {n : Int | ∃ t, (monthStart ≤ t ∧ t < nextMonthStart) ∧
        n = intervals.countP (openAt t)} =
      {n : Int | ∃ t, (monthStart ≤ t ∧ t < nextMonthStart) ∧
        n = Occupancy.openAt t (intervals.filterMap (clip monthStart nextMonthStart))} := by
    ext n
    apply exists_congr
    intro t
    apply and_congr_right
    intro ht
    rw [clipped_openAt ht.1 ht.2]
  rw [hsame]
  exact hgreatest

theorem peakFromIntervals_filter (monthStart nextMonthStart : τ)
    (intervals : List (τ × Option τ)) :
    peakFromIntervals (intervals.filter (overlapsMonth monthStart nextMonthStart)) monthStart
      nextMonthStart = peakFromIntervals intervals monthStart nextMonthStart := by
  unfold peakFromIntervals
  rw [filterMap_clip_overlaps]

/-- The largest number of seats that are open at one instant of the month; the rows that the
query leaves out do not change it. -/
theorem peakFromIntervals_exact {monthStart nextMonthStart : τ} (h : monthStart < nextMonthStart)
    (intervals : List (τ × Option τ)) :
    IsGreatest {n : Int | ∃ t, (monthStart ≤ t ∧ t < nextMonthStart) ∧
        n = intervals.countP (openAt t)} (peakFromIntervals intervals monthStart nextMonthStart) ∧
    peakFromIntervals (intervals.filter (overlapsMonth monthStart nextMonthStart)) monthStart
      nextMonthStart = peakFromIntervals intervals monthStart nextMonthStart :=
  ⟨peakFromIntervals_isGreatest h intervals,
    peakFromIntervals_filter monthStart nextMonthStart intervals⟩

end Peak

/-- August 2026, in days: a seat that passes on in mid-month to another device, and a seat that
was released when the month began. -/
def handedOver : List (Int × Option Int) :=
  [(20659, some 20680), (20680, none), (20640, some 20666)]

theorem handedOver_peak : (20666 : Int) < 20697 ∧
    IsGreatest {n : Int | ∃ t, (20666 ≤ t ∧ t < 20697) ∧ n = handedOver.countP (openAt t)}
      (peakFromIntervals handedOver 20666 20697) ∧
    peakFromIntervals (handedOver.filter (overlapsMonth 20666 20697)) 20666 20697 =
      peakFromIntervals handedOver 20666 20697 :=
  ⟨by decide, peakFromIntervals_exact (by decide) handedOver⟩

def peakSeatsForMonth (d : LicenseDb) (licenseId : String) (year month : Int) :
    Except String Int := do
  let (monthStart, nextMonthStart) ← monthBounds year month
  let intervals := (d.licenseSeats.filter fun s ↦ s.licenseId = licenseId ∧
    overlapsMonth monthStart nextMonthStart (s.reservedAt, s.releasedAt)).map fun s ↦
      (s.reservedAt, s.releasedAt)
  return peakFromIntervals intervals monthStart nextMonthStart

/-- The seats of a license that are reserved at `t` and not yet released. -/
def seatsOpenAt (d : LicenseDb) (licenseId : String) (t : Int) : Nat :=
  d.licenseSeats.countP fun s ↦ s.licenseId = licenseId ∧ openAt t (s.reservedAt, s.releasedAt)

theorem peakSeatsForMonth_isGreatest {year month monthStart nextMonthStart : Int}
    (h : monthBounds year month = .ok (monthStart, nextMonthStart)) (d : LicenseDb)
    (licenseId : String) :
    ∃ peak, peakSeatsForMonth d licenseId year month = .ok peak ∧
      IsGreatest {n : Int | ∃ t, (monthStart ≤ t ∧ t < nextMonthStart) ∧
        n = seatsOpenAt d licenseId t} peak := by
  let intervals : List (Int × Option Int) :=
    (d.licenseSeats.filter (·.licenseId = licenseId)).map fun s ↦ (s.reservedAt, s.releasedAt)
  have hselected : (d.licenseSeats.filter fun s ↦ s.licenseId = licenseId ∧
      overlapsMonth monthStart nextMonthStart (s.reservedAt, s.releasedAt)).map
        (fun s ↦ (s.reservedAt, s.releasedAt)) =
      intervals.filter (overlapsMonth monthStart nextMonthStart) := by
    rw [List.filter_map, List.filter_filter]
    congr 2
    funext s
    simp [Bool.and_comm]
  have hcount (t : Int) : intervals.countP (openAt t) = seatsOpenAt d licenseId t := by
    unfold seatsOpenAt
    rw [List.countP_map, List.countP_filter]
    apply List.countP_congr
    intro s _
    simp [And.comm]
  refine ⟨peakFromIntervals intervals monthStart nextMonthStart, ?_, ?_⟩
  · unfold peakSeatsForMonth
    rw [h]
    show Except.ok (peakFromIntervals _ monthStart nextMonthStart) = _
    rw [hselected, peakFromIntervals_filter]
  · have hgreatest := peakFromIntervals_isGreatest (monthBounds_lt h) intervals
    simp only [hcount] at hgreatest
    exact hgreatest

end RetailMedia
