import RetailMedia.Lib.PyValue
import Mathlib.Data.Int.Log
import Mathlib.Data.Rat.Floor
import Mathlib.Tactic.Linarith
import Mathlib.Tactic.FieldSimp
import Mathlib.Tactic.Positivity
import Mathlib.Tactic.NormNum

/-! Python's decimals and floats: the precision of the context, the float nearest to a decimal, the
shortest text of a float, and what a `NUMERIC` column makes of it. -/

namespace PyDecimal

open JsonText

/-! ## The context -/

/-- A coefficient as the default context keeps it: 28 digits, half to even. -/
def rounded (n : Nat) : Nat :=
  let unit := 10 ^ (Nat.log 10 n - 27)
  divideRounded n unit * unit

theorem div_le_divideRounded (a b : Nat) : a / b ≤ divideRounded a b := by
  unfold divideRounded
  split
  · omega
  · omega

theorem rounded_of_lt {n : Nat} (h : n < 10 ^ 28) : rounded n = n := by
  have hlog : Nat.log 10 n - 27 = 0 := by
    have hlt : Nat.log 10 n < 28 := Nat.log_lt_of_lt_pow' (by decide) h
    omega
  unfold rounded
  rw [hlog]
  simp [divideRounded, Nat.mod_one]

/-- A number with more digits keeps its order of magnitude. -/
theorem le_rounded {n : Nat} (h : 10 ^ 28 ≤ n) : 10 ^ 28 ≤ rounded n := by
  have hpos : n ≠ 0 := by
    intro hzero
    rw [hzero] at h
    omega
  have hlog : 28 ≤ Nat.log 10 n := Nat.le_log_of_pow_le (by decide) h
  have hsplit : 10 ^ Nat.log 10 n = 10 ^ 27 * 10 ^ (Nat.log 10 n - 27) := by
    rw [← Nat.pow_add]
    congr 1
    omega
  have hdiv : 10 ^ 27 ≤ n / 10 ^ (Nat.log 10 n - 27) := by
    rw [Nat.le_div_iff_mul_le (by positivity), ← hsplit]
    exact Nat.pow_log_le_self 10 hpos
  calc 10 ^ 28 ≤ 10 ^ Nat.log 10 n := Nat.pow_le_pow_right (by decide) hlog
    _ = 10 ^ 27 * 10 ^ (Nat.log 10 n - 27) := hsplit
    _ ≤ rounded n := Nat.mul_le_mul_right _ (hdiv.trans (div_le_divideRounded _ _))

/-- `n` stands for the exact number `m`: they agree where the context can hold `m`, and both are
beyond it elsewhere. -/
def Tracks (n m : Nat) : Prop := (m < 10 ^ 28 → n = m) ∧ (10 ^ 28 ≤ m → 10 ^ 28 ≤ n)

theorem tracks_self (m : Nat) : Tracks m m := ⟨fun _ ↦ rfl, fun h ↦ h⟩

theorem Tracks.rounded {n m : Nat} (h : Tracks n m) : Tracks (rounded n) m := by
  constructor
  · intro hm
    rw [h.1 hm]
    exact rounded_of_lt hm
  · intro hm
    exact le_rounded (h.2 hm)

theorem Tracks.add {n m k j : Nat} (h : Tracks n m) (h' : Tracks k j) :
    Tracks (n + k) (m + j) := by
  unfold Tracks at *
  omega

theorem Tracks.lt_iff {n m bound : Nat} (h : Tracks n m) (hbound : bound ≤ 10 ^ 28) :
    n < bound ↔ m < bound := by
  unfold Tracks at h
  omega

/-! ## The nearest float -/

theorem divideRounded_close (a : Nat) {b : Nat} (hb : 0 < b) :
    2 * a ≤ 2 * (divideRounded a b * b) + b ∧ 2 * (divideRounded a b * b) ≤ 2 * a + b := by
  have hmod := Nat.mod_lt a hb
  have hdiv : a / b * b + a % b = a := Nat.div_add_mod' a b
  unfold divideRounded
  split
  · omega
  · rw [Nat.add_mul]
    omega

/-- In units of `2 ^ -1074`, before the largest float is considered. -/
def nearestUnits (a b : Nat) : Nat :=
  let units := a * 2 ^ 1074
  let ulp := 2 ^ (Nat.log 2 (units / b) - 52)
  divideRounded units (b * ulp) * ulp

theorem binary64_eq (a b : Nat) : binary64 a b =
    if nearestUnits a b < 2 ^ 2098 then some (nearestUnits a b) else none := rfl

/-- `float(q)` of a number that is not negative. -/
def floatOf (q : ℚ) : Option Nat := binary64 q.num.toNat q.den

def floatValue (x : Nat) : ℚ := x / 2 ^ 1074

theorem num_toNat_div_den {q : ℚ} (hq : 0 ≤ q) : (q.num.toNat : ℚ) / q.den = q := by
  have hnum : ((q.num.toNat : Int) : ℚ) = q.num := by
    rw [Int.toNat_of_nonneg (Rat.num_nonneg.2 hq)]
  calc (q.num.toNat : ℚ) / q.den = q.num / q.den := by
        rw [← hnum]
        rfl
    _ = q := Rat.num_div_den q

/-- A whole number of last places that is half of one off. -/
theorem grid_close {a b d ulp scale : ℚ} (hb : 0 < b) (hscale : 0 < scale)
    (hlow : 2 * (a * scale) ≤ 2 * (d * (b * ulp)) + b * ulp)
    (hhigh : 2 * (d * (b * ulp)) ≤ 2 * (a * scale) + b * ulp) :
    |d * ulp / scale - a / b| ≤ ulp / (2 * scale) := by
  have hdiff : d * ulp / scale - a / b = (d * (b * ulp) - a * scale) / (b * scale) := by
    field_simp
  have hbound : ulp / (2 * scale) = b * ulp / 2 / (b * scale) := by
    field_simp
  have hpos : 0 < b * scale := mul_pos hb hscale
  rw [hdiff, hbound, abs_div, abs_of_pos hpos]
  apply div_le_div_of_nonneg_right _ hpos.le
  rw [abs_le]
  constructor
  · linarith
  · linarith

/-- The last place is small beside the number, or it is the smallest float. -/
theorem ulp_le {a b : Nat} (hb : 0 < b) (k : Nat) :
    ((2 ^ (Nat.log 2 (a * 2 ^ k / b) - 52) : Nat) : ℚ) ≤ (a : ℚ) / b * 2 ^ k / 2 ^ 52 + 1 := by
  have hbq : (0 : ℚ) < b := by exact_mod_cast hb
  have hnonneg : (0 : ℚ) ≤ (a : ℚ) / b * 2 ^ k / 2 ^ 52 := by positivity
  by_cases hlog : 52 ≤ Nat.log 2 (a * 2 ^ k / b)
  · have hne : a * 2 ^ k / b ≠ 0 := by
      intro hzero
      rw [hzero] at hlog
      simp at hlog
    have hpow : 2 ^ (Nat.log 2 (a * 2 ^ k / b) - 52) * 2 ^ 52 ≤ a * 2 ^ k / b := by
      rw [← Nat.pow_add, Nat.sub_add_cancel hlog]
      exact Nat.pow_log_le_self 2 hne
    have hmul := (Nat.le_div_iff_mul_le hb).1 hpow
    have hcast : ((2 ^ (Nat.log 2 (a * 2 ^ k / b) - 52) : Nat) : ℚ) * 2 ^ 52 * b ≤ a * 2 ^ k := by
      exact_mod_cast hmul
    have hdiv : ((2 ^ (Nat.log 2 (a * 2 ^ k / b) - 52) : Nat) : ℚ) ≤
        (a : ℚ) / b * 2 ^ k / 2 ^ 52 := by
      rw [div_mul_eq_mul_div, div_div, le_div_iff₀ (by positivity)]
      linarith
    linarith
  · rw [Nat.sub_eq_zero_of_le (by omega), Nat.pow_zero, Nat.cast_one]
    linarith

theorem units_close (a : Nat) {b : Nat} (hb : 0 < b) (k : Nat) :
    |((divideRounded (a * 2 ^ k) (b * 2 ^ (Nat.log 2 (a * 2 ^ k / b) - 52)) *
      2 ^ (Nat.log 2 (a * 2 ^ k / b) - 52) : Nat) : ℚ) / 2 ^ k - (a : ℚ) / b| ≤
      (a : ℚ) / b / 2 ^ 53 + 1 / 2 ^ (k + 1) := by
  have hbq : (0 : ℚ) < b := by exact_mod_cast hb
  have hscale : (0 : ℚ) < 2 ^ k := by positivity
  have hulp : 0 < 2 ^ (Nat.log 2 (a * 2 ^ k / b) - 52) := by positivity
  have hsmall := @ulp_le a b hb k
  obtain ⟨hlow, hhigh⟩ := divideRounded_close (a * 2 ^ k) (Nat.mul_pos hb hulp)
  generalize 2 ^ (Nat.log 2 (a * 2 ^ k / b) - 52) = ulp at *
  generalize divideRounded (a * 2 ^ k) (b * ulp) = d at *
  have hlow' : 2 * ((a : ℚ) * 2 ^ k) ≤ 2 * (d * (b * ulp)) + b * ulp := by exact_mod_cast hlow
  have hhigh' : 2 * ((d : ℚ) * (b * ulp)) ≤ 2 * (a * 2 ^ k) + b * ulp := by exact_mod_cast hhigh
  rw [Nat.cast_mul]
  calc |(d : ℚ) * ulp / 2 ^ k - (a : ℚ) / b| ≤ ulp / (2 * 2 ^ k) :=
        grid_close hbq hscale hlow' hhigh'
    _ ≤ ((a : ℚ) / b * 2 ^ k / 2 ^ 52 + 1) / (2 * 2 ^ k) :=
        div_le_div_of_nonneg_right hsmall (by positivity)
    _ = (a : ℚ) / b / 2 ^ 53 + 1 / 2 ^ (k + 1) := by
        rw [pow_succ]
        field_simp
        ring

/-- Half a unit in the last place: a part in `2 ^ 53`, or half of the smallest float. -/
theorem nearestUnits_close (a : Nat) {b : Nat} (hb : 0 < b) :
    |floatValue (nearestUnits a b) - (a : ℚ) / b| ≤ (a : ℚ) / b / 2 ^ 53 + 1 / 2 ^ 1075 :=
  units_close a hb 1074

theorem floatOf_close {q : ℚ} (hq : 0 ≤ q) {x : Nat} (h : floatOf q = some x) :
    |floatValue x - q| ≤ q / 2 ^ 53 + 1 / 2 ^ 1075 := by
  have hclose := nearestUnits_close q.num.toNat q.den_pos
  rw [num_toNat_div_den hq] at hclose
  unfold floatOf at h
  rw [binary64_eq] at h
  split at h
  · rw [← Option.some.inj h]
    exact hclose
  · cases h

theorem smallest_le : (1 : ℚ) / 2 ^ 1075 ≤ 1 / 2 ^ 20 :=
  one_div_le_one_div_of_le (by positivity) (pow_le_pow_right₀ (by norm_num) (by norm_num))

/-- Every number of a moderate size has a float. -/
theorem floatOf_isSome {q : ℚ} (hq : 0 ≤ q) (hsize : q ≤ 2 ^ 60) : (floatOf q).isSome := by
  have hclose := (abs_le.1 (nearestUnits_close q.num.toNat q.den_pos)).2
  rw [num_toNat_div_den hq] at hclose
  have hvalue : floatValue (nearestUnits q.num.toNat q.den) ≤ 2 ^ 62 := by
    have hsmallest := smallest_le
    generalize (1 : ℚ) / 2 ^ 1075 = δ at *
    linarith
  have hunits : nearestUnits q.num.toNat q.den ≤ 2 ^ 62 * 2 ^ 1074 := by
    unfold floatValue at hvalue
    rw [div_le_iff₀ (by positivity)] at hvalue
    exact_mod_cast hvalue
  have hpow (k m : Nat) (hk : 62 + k < m) : 2 ^ 62 * 2 ^ k < 2 ^ m := by
    rw [← Nat.pow_add]
    exact Nat.pow_lt_pow_right (by decide) hk
  have hlt := hunits.trans_lt (hpow 1074 2098 (by decide))
  unfold floatOf
  rw [binary64_eq, if_pos hlt]
  rfl

/-! ## The text of a float -/

/-- The decimals of so many digits on either side of a number, the nearer one first. -/
def neighbours (v : ℚ) (digits : Nat) : List ℚ :=
  let quantum : ℚ := 10 ^ (Int.log 10 v + 1 - digits)
  let k := ⌊v / quantum⌋
  let below := k * quantum
  let above := (k + 1) * quantum
  if 2 * (v - below) < quantum ∨ 2 * (v - below) = quantum ∧ k % 2 = 0 then [below, above]
  else [above, below]

/-- `Decimal(str(x))`: of the decimals whose float this is, the nearest of the shortest ones. -/
def shortest (x : Nat) : ℚ :=
  let v := floatValue x
  (((List.range 17).flatMap fun digits ↦ neighbours v (digits + 1)).find? fun q ↦
    floatOf q = some x).getD v

theorem neighbours_nonneg {v : ℚ} (hv : 0 ≤ v) {digits : Nat} {q : ℚ}
    (hq : q ∈ neighbours v digits) : 0 ≤ q := by
  have hquantum : (0 : ℚ) < 10 ^ (Int.log 10 v + 1 - digits) := by positivity
  have hfloor : (0 : ℚ) ≤ ⌊v / 10 ^ (Int.log 10 v + 1 - (digits : Int))⌋ := by
    have hint : 0 ≤ ⌊v / 10 ^ (Int.log 10 v + 1 - (digits : Int))⌋ :=
      Int.floor_nonneg.2 (div_nonneg hv hquantum.le)
    exact_mod_cast hint
  have hboth : q = ⌊v / 10 ^ (Int.log 10 v + 1 - (digits : Int))⌋ *
        10 ^ (Int.log 10 v + 1 - (digits : Int)) ∨
      q = (⌊v / 10 ^ (Int.log 10 v + 1 - (digits : Int))⌋ + 1) *
        10 ^ (Int.log 10 v + 1 - (digits : Int)) := by
    unfold neighbours at hq
    dsimp only at hq
    split at hq
    · simpa using hq
    · rw [or_comm]
      simpa using hq
  rcases hboth with hbelow | habove
  · rw [hbelow]
    exact mul_nonneg hfloor hquantum.le
  · rw [habove]
    exact mul_nonneg (by linarith) hquantum.le

theorem floatValue_nonneg (x : Nat) : 0 ≤ floatValue x := by
  unfold floatValue
  positivity

/-- The text of a float names the float again. -/
theorem shortest_spec (x : Nat) :
    shortest x = floatValue x ∨ 0 ≤ shortest x ∧ floatOf (shortest x) = some x := by
  unfold shortest
  dsimp only
  cases hfind : ((List.range 17).flatMap fun digits ↦ neighbours (floatValue x) (digits + 1)).find?
      fun q ↦ floatOf q = some x with
  | none => exact .inl rfl
  | some q =>
      right
      obtain ⟨digits, -, hmem⟩ := List.mem_flatMap.1 (List.mem_of_find?_eq_some hfind)
      have hfloat := List.find?_some hfind
      rw [decide_eq_true_eq] at hfloat
      exact ⟨neighbours_nonneg (floatValue_nonneg x) hmem, hfloat⟩

theorem shortest_nonneg (x : Nat) : 0 ≤ shortest x := by
  rcases shortest_spec x with hexact | hnamed
  · rw [hexact]
    exact floatValue_nonneg x
  · exact hnamed.1

/-- A number comes back from its float's text changed by a part in `2 ^ 51` at most. -/
theorem shortest_close {q : ℚ} (hq : 0 ≤ q) {x : Nat} (h : floatOf q = some x) :
    |shortest x - q| ≤ q / 2 ^ 51 + 4 * (1 / 2 ^ 1075) := by
  have hsmallest : (0 : ℚ) ≤ 1 / 2 ^ 1075 := by positivity
  have hfloat := floatOf_close hq h
  rcases shortest_spec x with hexact | ⟨hnonneg, hnamed⟩
  · rw [hexact]
    generalize (1 : ℚ) / 2 ^ 1075 = δ at *
    linarith
  · have htext := floatOf_close hnonneg hnamed
    generalize (1 : ℚ) / 2 ^ 1075 = δ at *
    rw [abs_le] at *
    constructor
    · linarith
    · linarith

/-! ## Columns -/

/-- `NUMERIC(p, 2)`: hundredths, rounded half away from zero; none when they do not fit. -/
def numeric (p : Nat) (q : ℚ) : Option Nat :=
  let cents := ⌊q * 100 + 1 / 2⌋₊
  if cents < 10 ^ p then some cents else none

/-- `float` of an amount in hundredths; none is infinite. -/
@[irreducible] def floatOfCents (cents : Nat) : Option Nat := floatOf (cents / 100)

/-- `Decimal(str(x))` in such a column. -/
@[irreducible] def store (p : Nat) (x : Option Nat) : Option Nat :=
  x.bind fun x ↦ numeric p (shortest x)

theorem floatOfCents_ne_zero {cents : Nat} (h : 0 < cents) : floatOfCents cents ≠ some 0 := by
  intro hzero
  unfold floatOfCents at hzero
  have hclose := (abs_le.1 (floatOf_close (by positivity) hzero)).1
  have hvalue : floatValue 0 = 0 := by
    unfold floatValue
    rw [Nat.cast_zero, zero_div]
  have hsmallest := smallest_le
  have hcent : (1 : ℚ) ≤ cents := by exact_mod_cast h
  rw [hvalue] at hclose
  generalize (1 : ℚ) / 2 ^ 1075 = δ at *
  linarith

/-- Below `10 ^ 12`, the text of a float is nearer than half of a hundredth. -/
theorem numeric_of_lt {p cents x : Nat} (hcents : cents < 10 ^ 14)
    (hx : floatOf (cents / 100) = some x) :
    numeric p (shortest x) = if cents < 10 ^ p then some cents else none := by
  have hclose := shortest_close (by positivity) hx
  have hsmallest := smallest_le
  have hbound : (cents : ℚ) < 10 ^ 14 := by exact_mod_cast hcents
  generalize (1 : ℚ) / 2 ^ 1075 = δ at *
  rw [abs_le] at hclose
  have hfloor : ⌊shortest x * 100 + 1 / 2⌋₊ = cents := by
    rw [Nat.floor_eq_iff (by have hnonneg := shortest_nonneg x; linarith)]
    constructor
    · linarith
    · linarith
  unfold numeric
  rw [hfloor]

/-- From `10 ^ 12` on, it overflows the column. -/
theorem numeric_of_le {p cents x : Nat} (hp : p ≤ 14) (hcents : 10 ^ 14 ≤ cents)
    (hx : floatOf (cents / 100) = some x) : numeric p (shortest x) = none := by
  have hclose := shortest_close (by positivity) hx
  have hsmallest := smallest_le
  have hbound : (10 : ℚ) ^ 14 ≤ cents := by exact_mod_cast hcents
  generalize (1 : ℚ) / 2 ^ 1075 = δ at *
  rw [abs_le] at hclose
  have hfloor : 10 ^ 14 ≤ ⌊shortest x * 100 + 1 / 2⌋₊ := by
    apply Nat.le_floor
    push_cast
    linarith
  have hpow : 10 ^ p ≤ 10 ^ 14 := Nat.pow_le_pow_right (by decide) hp
  unfold numeric
  exact if_neg (by omega)

/-- Up to fourteen digits, an amount is stored as it is, or it does not fit. -/
theorem store_floatOfCents {p : Nat} (hp : p ≤ 14) (cents : Nat) :
    store p (floatOfCents cents) = if cents < 10 ^ p then some cents else none := by
  unfold store floatOfCents
  by_cases hcents : cents < 10 ^ 14
  · have hsize : (cents : ℚ) / 100 ≤ 2 ^ 60 := by
      have hbound : (cents : ℚ) < 10 ^ 14 := by exact_mod_cast hcents
      linarith
    obtain ⟨x, hx⟩ := Option.isSome_iff_exists.1 (floatOf_isSome (by positivity) hsize)
    rw [hx]
    exact numeric_of_lt hcents hx
  · have hpow : 10 ^ p ≤ 10 ^ 14 := Nat.pow_le_pow_right (by decide) hp
    rw [if_neg (by omega)]
    cases hx : floatOf (cents / 100) with
    | none => rfl
    | some x => exact numeric_of_le hp (not_lt.1 hcents) hx

/-- What tracks an exact amount is stored as that amount, or the amount does not fit. -/
theorem Tracks.store {p n m : Nat} (h : Tracks n m) (hp : p ≤ 14) :
    store p (floatOfCents n) = if m < 10 ^ p then some m else none := by
  have hpow : 10 ^ p ≤ 10 ^ 14 := Nat.pow_le_pow_right (by decide) hp
  rw [store_floatOfCents hp]
  by_cases hm : m < 10 ^ p
  · have hsame : n = m := h.1 (by omega)
    rw [hsame]
  · have hlarge : ¬ n < 10 ^ p := fun hn ↦ hm ((h.lt_iff (by omega)).1 hn)
    rw [if_neg hlarge, if_neg hm]

end PyDecimal
