import Mathlib.Data.List.Nodup
import Mathlib.Data.List.Range
import Mathlib.Tactic.Ring
import Mathlib.Tactic.Linarith

/-! Timezone-aware datetimes and the expansion of a time window into hourly slots. -/

namespace RetailMedia

def secondMicros : Int := 1000000
def hourMicros : Int := 3600 * secondMicros
def dayMicros : Int := 24 * hourMicros

/-- A timezone-aware `datetime`: what its clock shows and how far the clock is ahead of UTC. -/
structure DateTime where
  wall : Int
  offset : Int
  deriving DecidableEq, Repr

namespace DateTime

/-- Microseconds since the epoch, UTC; aware datetimes compare by it. -/
def instant (t : DateTime) : Int := t.wall - t.offset

def utc (t : Int) : DateTime := ⟨t, 0⟩

/-- Days since the epoch on the datetime's own calendar. -/
def date (t : DateTime) : Int := t.wall / dayMicros

def hour (t : DateTime) : Nat := (t.wall % dayMicros / hourMicros).toNat

/-- `replace(minute=0, second=0, microsecond=0)`. -/
def floorHour (t : DateTime) : DateTime := { t with wall := t.wall - t.wall % hourMicros }

/-- `t + timedelta(hours=1)`. -/
def nextHour (t : DateTime) : DateTime := { t with wall := t.wall + hourMicros }

end DateTime

/-- A `datetime` as it is submitted, with or without a timezone. -/
inductive PyDatetime
  | naive (wall : Int)
  | aware (t : DateTime)
  deriving DecidableEq, Repr

/-! ## Texts -/

/-- A number padded with zeros to `width` digits. -/
def padded (width : Nat) (n : Nat) : String :=
  let digits := toString n
  String.ofList (List.replicate (width - digits.length) '0') ++ digits

/-- Year, month and day of the proleptic Gregorian calendar. -/
def civil (d : Int) : Int × Nat × Nat :=
  let z := d + 719468
  let era := z / 146097
  let doe := (z % 146097).toNat
  let yoe := (doe - doe / 1460 + doe / 36524 - doe / 146096) / 365
  let doy := doe - (365 * yoe + yoe / 4 - yoe / 100)
  let mp := (5 * doy + 2) / 153
  let day := doy - (153 * mp + 2) / 5 + 1
  let month := if mp < 10 then mp + 3 else mp - 9
  (yoe + era * 400 + (if month ≤ 2 then 1 else 0), month, day)

/-- `str(date)`, `date.isoformat()`. -/
def dateIsoformat (d : Int) : String :=
  let (y, m, day) := civil d
  padded 4 y.toNat ++ "-" ++ padded 2 m ++ "-" ++ padded 2 day

/-- `strftime("%d.%m.%Y")`. -/
def DateTime.dmy (t : DateTime) : String :=
  let (y, m, day) := civil t.date
  padded 2 day ++ "." ++ padded 2 m ++ "." ++ padded 4 y.toNat

/-- The `+hh:mm` part of an ISO timestamp. -/
def offsetText (offset : Int) : String :=
  let sign := if offset < 0 then "-" else "+"
  let seconds := offset.natAbs / 1000000
  let micros := offset.natAbs % 1000000
  sign ++ padded 2 (seconds / 3600) ++ ":" ++ padded 2 (seconds / 60 % 60) ++
    (if seconds % 60 ≠ 0 ∨ micros ≠ 0 then ":" ++ padded 2 (seconds % 60) else "") ++
    (if micros ≠ 0 then "." ++ padded 6 micros else "")

/-- `datetime.isoformat()`. -/
def DateTime.isoformat (t : DateTime) : String :=
  let ofDay := (t.wall % dayMicros).toNat
  let seconds := ofDay / 1000000
  let micros := ofDay % 1000000
  dateIsoformat t.date ++ "T" ++ padded 2 t.hour ++ ":" ++ padded 2 (seconds / 60 % 60) ++ ":" ++
    padded 2 (seconds % 60) ++ (if micros ≠ 0 then "." ++ padded 6 micros else "") ++
    offsetText t.offset

example : (DateTime.mk 1782900000000000 10800000000).isoformat = "2026-07-01T10:00:00+03:00" := by
  decide

/-! ## Hourly slots of a window -/

/-- The loop `while current < end_hour`, with fuel. -/
def expandLoop : Nat → DateTime → DateTime → List (Int × Nat)
  | 0, _, _ => []
  | fuel + 1, current, endHour =>
      if current.instant < endHour.instant then
        (current.date, current.hour) :: expandLoop fuel current.nextHour endHour
      else []

/-- Whole or started hours between two datetimes, none when the second is not the later. -/
def hoursBetween (s e : DateTime) : Nat :=
  ((e.instant - s.instant + hourMicros - 1) / hourMicros).toNat

/-- The loop with the fuel it needs. -/
def hourPairs (current endHour : DateTime) : List (Int × Nat) :=
  expandLoop (hoursBetween current endHour) current endHour

/-- The hourly `(slot_date, slot_hour)` pairs of the window from `startsAt` to `endsAt`. -/
def slotPairs (startsAt endsAt : DateTime) : List (Int × Nat) :=
  hourPairs startsAt.floorHour endsAt.floorHour

theorem hourMicros_pos : 0 < hourMicros := by decide

theorem nextHour_instant (t : DateTime) : t.nextHour.instant = t.instant + hourMicros := by
  unfold DateTime.instant DateTime.nextHour
  ring

theorem hoursBetween_zero {s e : DateTime} (h : ¬ s.instant < e.instant) :
    hoursBetween s e = 0 := by
  have hpos := hourMicros_pos
  have hlt : (e.instant - s.instant + hourMicros - 1) / hourMicros < 1 :=
    Int.ediv_lt_of_lt_mul hpos (by linarith)
  unfold hoursBetween
  omega

theorem hoursBetween_succ {s e : DateTime} (h : s.instant < e.instant) :
    hoursBetween s e = hoursBetween s.nextHour e + 1 := by
  have hpos := hourMicros_pos
  have hshift : e.instant - s.instant + hourMicros - 1 =
      (e.instant - s.nextHour.instant + hourMicros - 1) + 1 * hourMicros := by
    rw [nextHour_instant]
    ring
  have hnn : 0 ≤ (e.instant - s.nextHour.instant + hourMicros - 1) / hourMicros := by
    apply Int.ediv_nonneg _ hpos.le
    rw [nextHour_instant]
    linarith
  unfold hoursBetween
  rw [hshift, Int.add_mul_ediv_right _ _ hpos.ne']
  omega

/-- The fuel suffices: `hourPairs` runs as the `while` loop of the source does. -/
theorem hourPairs_eq (current endHour : DateTime) :
    hourPairs current endHour =
      if current.instant < endHour.instant then
        (current.date, current.hour) :: hourPairs current.nextHour endHour
      else [] := by
  unfold hourPairs
  by_cases h : current.instant < endHour.instant
  · rw [hoursBetween_succ h, if_pos h, expandLoop, if_pos h]
  · rw [hoursBetween_zero h, if_neg h, expandLoop]

/-- The hour count of a wall clock, from its date and its hour. -/
theorem date_hour_eq (t : DateTime) : t.date * 24 + t.hour = t.wall / hourMicros := by
  have hpos := hourMicros_pos
  have hmod : 0 ≤ t.wall % dayMicros := Int.emod_nonneg _ (by decide)
  have hnn : 0 ≤ t.wall % dayMicros / hourMicros := Int.ediv_nonneg hmod hpos.le
  have hsplit : t.wall = t.wall % dayMicros + (t.wall / dayMicros * 24) * hourMicros := by
    calc t.wall = t.wall % dayMicros + dayMicros * (t.wall / dayMicros) :=
          (Int.emod_add_mul_ediv t.wall dayMicros).symm
      _ = t.wall % dayMicros + (t.wall / dayMicros * 24) * hourMicros := by
          rw [show dayMicros = 24 * hourMicros from rfl]
          ring
  unfold DateTime.date DateTime.hour
  rw [Int.toNat_of_nonneg hnn]
  calc t.wall / dayMicros * 24 + t.wall % dayMicros / hourMicros
      = (t.wall % dayMicros + (t.wall / dayMicros * 24) * hourMicros) / hourMicros := by
        rw [Int.add_mul_ediv_right _ _ hpos.ne']
        ring
    _ = t.wall / hourMicros := by rw [← hsplit]

theorem nextHour_hours (t : DateTime) : t.nextHour.wall / hourMicros = t.wall / hourMicros + 1 := by
  have hpos := hourMicros_pos
  change (t.wall + hourMicros) / hourMicros = _
  rw [Int.add_ediv_of_dvd_right (dvd_refl _), Int.ediv_self hpos.ne']

theorem expandLoop_hours {fuel : Nat} {current endHour : DateTime} {p : Int × Nat}
    (h : p ∈ expandLoop fuel current endHour) :
    current.wall / hourMicros ≤ p.1 * 24 + p.2 := by
  induction fuel generalizing current with
  | zero => simp [expandLoop] at h
  | succ fuel ih =>
      unfold expandLoop at h
      split at h
      · rcases List.mem_cons.1 h with rfl | h
        · exact (date_hour_eq current).ge
        · have := ih h
          rw [nextHour_hours] at this
          linarith
      · simp at h

theorem expandLoop_nodup (fuel : Nat) (current endHour : DateTime) :
    (expandLoop fuel current endHour).Nodup := by
  induction fuel generalizing current with
  | zero => exact List.nodup_nil
  | succ fuel ih =>
      unfold expandLoop
      split
      · refine List.nodup_cons.2 ⟨fun hmem ↦ ?_, ih _⟩
        -- a later slot has a larger hour count
        have hle := expandLoop_hours hmem
        rw [nextHour_hours] at hle
        have heq := date_hour_eq current
        linarith
      · exact List.nodup_nil

/-- A window never yields the same slot twice. -/
theorem slotPairs_nodup (startsAt endsAt : DateTime) : (slotPairs startsAt endsAt).Nodup :=
  expandLoop_nodup _ _ _

end RetailMedia
