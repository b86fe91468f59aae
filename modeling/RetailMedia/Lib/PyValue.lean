import Mathlib.Data.List.Sort
import Mathlib.Data.Nat.Log
import RetailMedia.Lib.JsonDump

/-! What Python's operators make of parsed JSON: numbers, `==`, the order and `json.dumps`. -/

namespace JsonText

/-! ## Numbers -/

/-- The quotient, rounded to the nearest integer and half to even. -/
def divideRounded (a b : Nat) : Nat :=
  if 2 * (a % b) < b ∨ 2 * (a % b) = b ∧ a / b % 2 = 0 then a / b else a / b + 1

/-- The positive number `a / b` as a binary64 float, counted in units of `2 ^ -1074`; none when it
is too large. -/
def binary64 (a b : Nat) : Option Nat :=
  let units := a * 2 ^ 1074
  -- a normal float has 53 significant bits, a subnormal one is a whole number of units
  let ulp := 2 ^ (Nat.log 2 (units / b) - 52)
  let x := divideRounded units (b * ulp) * ulp
  if x < 2 ^ 2098 then some x else none

/-- A number that Python compares, in units of `2 ^ -1074`. -/
inductive Number
  | nan
  | infinity (negative : Bool)
  | units (x : Int)
  deriving DecidableEq

def Number.ofInt (n : Int) : Number := .units (n * 2 ^ 1074)

def Real.number : Real → Number
  | .nan => .nan
  | .infinity negative => .infinity negative
  | .decimal negative mantissa exponent =>
      match binary64 (mantissa * 10 ^ exponent.toNat) (10 ^ (-exponent).toNat) with
      | some x => .units (signed negative x)
      | none => .infinity negative

/-- A `bool` is a number too. -/
def Value.number : Value → Option Number
  | .bool b => some (.ofInt (if b then 1 else 0))
  | .int n => some (.ofInt n)
  | .float x => some x.number
  | _ => none

example : (Real.decimal false 3 0).number = .ofInt 3 := by decide +kernel

/-! ## Equality and order -/

namespace Value

mutual

/-- `x == y`. -/
def eq : Value → Value → Bool
  | null, null => true
  | str s, str t => s = t
  | arr xs, arr ys => eqItems xs ys
  | obj fs, obj gs => fs.length = gs.length && eqFields fs gs
  | x, y =>
      match x.number, y.number with
      | some a, some b => a = b ∧ a ≠ .nan
      | _, _ => false

def eqItems : List Value → List Value → Bool
  | [], [] => true
  | x :: xs, y :: ys => eq x y && eqItems xs ys
  | _, _ => false

/-- Each key of the one dictionary has an equal value in the other. -/
def eqFields : List (Text × Value) → List (Text × Value) → Bool
  | [], _ => true
  | (k, x) :: fs, gs => (gs.find? (·.1 = k)).any (fun g ↦ eq x g.2) && eqFields fs gs

end

end Value

inductive Comparison
  | less
  | equal
  | greater
  | unordered
  deriving DecidableEq, Repr

def Number.compare : Number → Number → Comparison
  | .units a, .units b => if a < b then .less else if a = b then .equal else .greater
  | .units _, .infinity negative => if negative then .greater else .less
  | .infinity negative, .units _ => if negative then .less else .greater
  | .infinity a, .infinity b => if a = b then .equal else if a then .less else .greater
  | _, _ => .unordered

/-- By code points. -/
def compareText (s t : Text) : Comparison :=
  if s < t then .less else if s = t then .equal else .greater

namespace Value

mutual

/-- What `<`, `<=` and `>` find; none where they raise.  Lists go by the first items that differ;
items of different documents are different objects, so a NaN differs from every item. -/
def compare : Value → Value → Option Comparison
  | str s, str t => some (compareText s t)
  | arr xs, arr ys => compareItems xs ys
  | x, y =>
      match x.number, y.number with
      | some a, some b => some (a.compare b)
      | _, _ => none

def compareItems : List Value → List Value → Option Comparison
  | [], [] => some .equal
  | [], _ :: _ => some .less
  | _ :: _, [] => some .greater
  | x :: xs, y :: ys => if eq x y then compareItems xs ys else compare x y

end

/-- `x <= y`. -/
def le (x y : Value) : Option Bool :=
  (x.compare y).map fun c ↦ c = .less ∨ c = .equal

/-- `x > y`. -/
def gt (x y : Value) : Option Bool := (x.compare y).map (· = .greater)

/-- Two values of which the operators find neither the one nor the other to be larger. -/
def Unordered (x y : Value) : Prop := x.compare y = some .unordered

instance (x y : Value) : Decidable (Unordered x y) := inferInstanceAs (Decidable (_ = _))

/-- What is not at most another value is larger, unless the two are unordered. -/
theorem gt_of_not_le {x y : Value} (h : x.le y = some false) :
    x.gt y = some true ↔ ¬ Unordered x y := by
  unfold le at h
  unfold gt Unordered
  cases hc : x.compare y with
  | none =>
      rw [hc] at h
      cases h
  | some c =>
      rw [hc] at h
      cases c with
      | less => cases h
      | equal => cases h
      | greater => simp
      | unordered => simp

example : Unordered (float .nan) (int 1) := by decide +kernel

/-! ## Text -/

/-- `value.get(key, default)` on a dictionary. -/
def dictGet (d : List (Text × Value)) (key : String) (default : Value) : Value :=
  Dict.getD d (codes key) default

section Dumps

variable (reprFloat : Real → Text) (style : Style)

mutual

/-- `json.dumps`; how a float is written is up to `float.__repr__`. -/
def dumps : Value → Text
  | null => codes "null"
  | bool b => codes (if b then "true" else "false")
  | int n => intText n
  | float x => reprFloat x
  | str s => quote style.ascii s
  | arr xs => arrayText style (dumpsItems xs)
  | obj fields => objectText style (dumpsFields fields)

def dumpsItems : List Value → List Text
  | [] => []
  | x :: xs => dumps x :: dumpsItems xs

def dumpsFields : List (Text × Value) → List (Text × Text)
  | [] => []
  | (k, x) :: fields => (k, dumps x) :: dumpsFields fields

end

mutual

/-- The same with `sort_keys=True`. -/
def dumpsSorted : Value → Text
  | arr xs => arrayText style (dumpsSortedItems xs)
  | obj fields =>
      objectText style ((dumpsSortedFields fields).insertionSort fun f g ↦ f.1 ≤ g.1)
  | x => dumps reprFloat style x

def dumpsSortedItems : List Value → List Text
  | [] => []
  | x :: xs => dumpsSorted x :: dumpsSortedItems xs

def dumpsSortedFields : List (Text × Value) → List (Text × Text)
  | [] => []
  | (k, x) :: fields => (k, dumpsSorted x) :: dumpsSortedFields fields

end

end Dumps

end Value

end JsonText
