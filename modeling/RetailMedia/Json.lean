import Mathlib.Data.List.Sort
import RetailMedia.Lib.Sha256

/-! JSON values, their Python `str` and their canonical serialisation. -/

namespace RetailMedia

/-- The numbers are integers: what is served has no floats. -/
inductive Json
  | null
  | bool (b : Bool)
  | num (n : Int)
  | str (s : String)
  | arr (items : List Json)
  | obj (fields : List (String × Json))
  deriving Repr

open Sha256 (hexText)

namespace Json

/-- `bool(value)`. -/
def truthy : Json → Bool
  | null => false
  | bool b => b
  | num n => n ≠ 0
  | str s => s ≠ ""
  | arr items => ¬ items.isEmpty
  | obj fields => ¬ fields.isEmpty

/-- `value.get(key)`; `None` where the key is missing. -/
def get (key : String) : Json → Json
  | obj fields => ((fields.find? fun f ↦ f.1 = key).map (·.2)).getD null
  | _ => null

def items : Json → List Json
  | arr js => js
  | _ => []

def ofOption {α : Type} (f : α → Json) : Option α → Json
  | none => null
  | some a => f a

/-! ## Equality -/

mutual

def beq : Json → Json → Bool
  | null, null => true
  | bool a, bool b => a = b
  | num a, num b => a = b
  | str a, str b => a = b
  | arr xs, arr ys => beqItems xs ys
  | obj fs, obj gs => beqFields fs gs
  | _, _ => false

def beqItems : List Json → List Json → Bool
  | [], [] => true
  | x :: xs, y :: ys => beq x y && beqItems xs ys
  | _, _ => false

def beqFields : List (String × Json) → List (String × Json) → Bool
  | [], [] => true
  | (k, x) :: fs, (l, y) :: gs => (k = l) && (beq x y && beqFields fs gs)
  | _, _ => false

end

mutual

theorem beq_iff (x y : Json) : beq x y = true ↔ x = y := by
  match x with
  | null => cases y <;> simp [beq]
  | bool a => cases y <;> simp [beq]
  | num a => cases y <;> simp [beq]
  | str a => cases y <;> simp [beq]
  | arr xs =>
      cases y with
      | arr ys => simp [beq, beqItems_iff xs ys]
      | _ => simp [beq]
  | obj fs =>
      cases y with
      | obj gs => simp [beq, beqFields_iff fs gs]
      | _ => simp [beq]

theorem beqItems_iff (xs ys : List Json) : beqItems xs ys = true ↔ xs = ys := by
  match xs, ys with
  | [], [] => simp [beqItems]
  | [], y :: ys => simp [beqItems]
  | x :: xs, [] => simp [beqItems]
  | x :: xs, y :: ys => simp [beqItems, beq_iff x y, beqItems_iff xs ys]

theorem beqFields_iff (fs gs : List (String × Json)) : beqFields fs gs = true ↔ fs = gs := by
  match fs, gs with
  | [], [] => simp [beqFields]
  | [], g :: gs => simp [beqFields]
  | f :: fs, [] => simp [beqFields]
  | (k, x) :: fs, (l, y) :: gs =>
      simp [beqFields, beq_iff x y, beqFields_iff fs gs, and_assoc]

end

instance : DecidableEq Json := fun x y ↦ decidable_of_iff (beq x y = true) (beq_iff x y)

/-! ## Python text -/

def quoteChar : Char := Char.ofNat 39

/-- The code points above ASCII whose character is a control, a format mark, a separator or for
private use, as intervals (Unicode 15.0). -/
def unprintable : List (Nat × Nat) := [
  (0x80, 0xa0), (0xad, 0xad), (0x600, 0x605), (0x61c, 0x61c), (0x6dd, 0x6dd), (0x70f, 0x70f),
  (0x890, 0x891), (0x8e2, 0x8e2), (0x1680, 0x1680), (0x180e, 0x180e), (0x2000, 0x200f),
  (0x2028, 0x202f), (0x205f, 0x2064), (0x2066, 0x206f), (0x3000, 0x3000), (0xe000, 0xf8ff),
  (0xfeff, 0xfeff), (0xfff9, 0xfffb), (0x110bd, 0x110bd), (0x110cd, 0x110cd),
  (0x13430, 0x1343f), (0x1bca0, 0x1bca3), (0x1d173, 0x1d17a), (0xe0001, 0xe0001),
  (0xe0020, 0xe007f), (0xf0000, 0xffffd), (0x100000, 0x10fffd)]

/-- `c.isprintable()`.  Code points that Unicode has not assigned count as printable here. -/
def isprintable (c : Char) : Bool :=
  if c.toNat < 127 then 32 ≤ c.toNat
  else c.toNat ≠ 127 ∧ ¬ unprintable.any fun r ↦ r.1 ≤ c.toNat ∧ c.toNat ≤ r.2

def reprEscape (n : Nat) : String :=
  if n < 0x100 then "\\x" ++ hexText 2 n
  else if n < 0x10000 then "\\u" ++ hexText 4 n
  else "\\U" ++ hexText 8 n

/-- One character inside a `repr`. -/
def reprChar (quote c : Char) : String :=
  if c = quote ∨ c = '\\' then String.ofList ['\\', c]
  else if c = '\n' then "\\n"
  else if c = '\r' then "\\r"
  else if c = '\t' then "\\t"
  else if isprintable c then String.singleton c
  else reprEscape c.toNat

/-- `repr` of a string: single quotes, unless it holds one and no double quote. -/
def reprString (s : String) : String :=
  let quote := if quoteChar ∈ s.toList ∧ '"' ∉ s.toList then '"' else quoteChar
  String.singleton quote ++ String.join (s.toList.map (reprChar quote)) ++ String.singleton quote

mutual

def pyRepr : Json → String
  | null => "None"
  | bool b => if b then "True" else "False"
  | num n => toString n
  | str s => reprString s
  | arr js => "[" ++ ", ".intercalate (pyReprItems js) ++ "]"
  | obj fields => "\x7b" ++ ", ".intercalate (pyReprFields fields) ++ "\x7d"

def pyReprItems : List Json → List String
  | [] => []
  | j :: js => pyRepr j :: pyReprItems js

def pyReprFields : List (String × Json) → List String
  | [] => []
  | (k, j) :: fields => (reprString k ++ ": " ++ pyRepr j) :: pyReprFields fields

end

/-- `str(value)`. -/
def pyStr : Json → String
  | str s => s
  | j => pyRepr j

/-! ## `json.dumps(value, sort_keys=True, separators=(",", ":"))` -/

def escapeUnit (n : Nat) : String := "\\u" ++ hexText 4 n

def escapeChar (c : Char) : String :=
  if c = '"' then "\\\""
  else if c = '\\' then "\\\\"
  else if c = '\n' then "\\n"
  else if c = '\r' then "\\r"
  else if c = '\t' then "\\t"
  else if c.toNat = 8 then "\\b"
  else if c.toNat = 12 then "\\f"
  else if 32 ≤ c.toNat ∧ c.toNat ≤ 126 then String.singleton c
  else if c.toNat < 65536 then escapeUnit c.toNat
  else
    -- a character outside the basic plane is a surrogate pair
    let v := c.toNat - 65536
    escapeUnit (55296 + v / 1024) ++ escapeUnit (56320 + v % 1024)

def quoted (s : String) : String := "\"" ++ String.join (s.toList.map escapeChar) ++ "\""

mutual

def dumps : Json → String
  | null => "null"
  | bool b => if b then "true" else "false"
  | num n => toString n
  | str s => quoted s
  | arr js => "[" ++ ",".intercalate (dumpsItems js) ++ "]"
  | obj fields =>
      let sorted := (dumpsFields fields).insertionSort fun f g ↦ f.1 ≤ g.1
      "\x7b" ++ ",".intercalate (sorted.map fun f ↦ quoted f.1 ++ ":" ++ f.2) ++ "\x7d"

def dumpsItems : List Json → List String
  | [] => []
  | j :: js => dumps j :: dumpsItems js

def dumpsFields : List (String × Json) → List (String × String)
  | [] => []
  | (k, j) :: fields => (k, dumps j) :: dumpsFields fields

end

example : pyStr (obj [("a", num 3), ("b", arr [null, str "x"])]) =
    "\x7b'a': 3, 'b': [None, 'x']\x7d" := by decide

end Json

end RetailMedia
