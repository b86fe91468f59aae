import Mathlib
import RetailMedia.Lib.Dict

/-! Python's `json.loads` on bytes: the encoding that the first bytes announce, the decoding of
the text to code points and the scanner. -/

namespace JsonText

/-- A Python string, as its code points; a lone surrogate is one of them. -/
abbrev Text := List Nat

def codes (s : String) : Text := s.toList.map (·.toNat)

theorem codes_injective : Function.Injective codes := by
  intro s t h
  apply String.toList_inj.1
  exact List.map_injective_iff.2 (fun a b hab ↦ Char.toNat_inj.1 hab) h

/-- A `decimal` is the float nearest to `mantissa * 10 ^ exponent`. -/
inductive Real
  | nan
  | infinity (negative : Bool)
  | decimal (negative : Bool) (mantissa : Nat) (exponent : Int)
  deriving DecidableEq, Repr

inductive Value
  | null
  | bool (b : Bool)
  | int (n : Int)
  | float (x : Real)
  | str (s : Text)
  | arr (items : List Value)
  | obj (fields : List (Text × Value))
  deriving Repr

/-- `digits` is the length from which the interpreter refuses to read an integer, `depth` how
many containers may be open before it gives up on the recursion. -/
structure Limits where
  digits : Nat := 4300
  depth : Nat
  deriving DecidableEq, Repr

inductive LoadError
  | unicodeDecodeError
  | jsonDecodeError
  | valueError
  | recursionError
  | outOfFuel
  deriving DecidableEq, Repr

abbrev Parsed (α : Type) := Except LoadError (α × Text)

/-! ## Equality -/

namespace Value

mutual

def beq : Value → Value → Bool
  | null, null => true
  | bool a, bool b => a = b
  | int m, int n => m = n
  | float x, float y => x = y
  | str s, str t => s = t
  | arr xs, arr ys => beqItems xs ys
  | obj fs, obj gs => beqFields fs gs
  | _, _ => false

def beqItems : List Value → List Value → Bool
  | [], [] => true
  | x :: xs, y :: ys => beq x y && beqItems xs ys
  | _, _ => false

def beqFields : List (Text × Value) → List (Text × Value) → Bool
  | [], [] => true
  | (k, x) :: fs, (l, y) :: gs => (k = l) && (beq x y && beqFields fs gs)
  | _, _ => false

end

mutual

theorem beq_iff (x y : Value) : beq x y = true ↔ x = y := by
  match x with
  | null => cases y <;> simp [beq]
  | bool a => cases y <;> simp [beq]
  | int n => cases y <;> simp [beq]
  | float x => cases y <;> simp [beq]
  | str s => cases y <;> simp [beq]
  | arr xs =>
      cases y with
      | arr ys => simp [beq, beqItems_iff xs ys]
      | _ => simp [beq]
  | obj fs =>
      cases y with
      | obj gs => simp [beq, beqFields_iff fs gs]
      | _ => simp [beq]

theorem beqItems_iff (xs ys : List Value) : beqItems xs ys = true ↔ xs = ys := by
  match xs, ys with
  | [], [] => simp [beqItems]
  | [], y :: ys => simp [beqItems]
  | x :: xs, [] => simp [beqItems]
  | x :: xs, y :: ys => simp [beqItems, beq_iff x y, beqItems_iff xs ys]

theorem beqFields_iff (fs gs : List (Text × Value)) : beqFields fs gs = true ↔ fs = gs := by
  match fs, gs with
  | [], [] => simp [beqFields]
  | [], g :: gs => simp [beqFields]
  | f :: fs, [] => simp [beqFields]
  | (k, x) :: fs, (l, y) :: gs =>
      simp [beqFields, beq_iff x y, beqFields_iff fs gs, and_assoc]

end

instance : DecidableEq Value := fun x y ↦ decidable_of_iff (beq x y = true) (beq_iff x y)

end Value

/-! ## Truth -/

/-- Half of the least positive float and everything below it becomes zero. -/
def Real.zero : Real → Bool
  | .decimal _ mantissa exponent =>
      if exponent < 0 then mantissa * 2 ^ 1075 ≤ 10 ^ exponent.natAbs else mantissa = 0
  | _ => false

/-- `bool(value)`. -/
def Value.truthy : Value → Bool
  | .null => false
  | .bool b => b
  | .int n => n ≠ 0
  | .float x => ¬ x.zero
  | .str s => ¬ s.isEmpty
  | .arr items => ¬ items.isEmpty
  | .obj fields => ¬ fields.isEmpty

/-! ## Encodings -/

inductive Encoding
  | utf8
  | utf8Sig
  | utf16 (big : Bool)
  | utf32 (big : Bool)
  deriving DecidableEq, Repr

/-- The encoding, and the length of the mark that announces it. -/
def detectEncoding (bs : List Nat) : Encoding × Nat :=
  if [0, 0, 254, 255] <+: bs then (.utf32 true, 4)
  else if [255, 254, 0, 0] <+: bs then (.utf32 false, 4)
  else if [254, 255] <+: bs then (.utf16 true, 2)
  else if [255, 254] <+: bs then (.utf16 false, 2)
  else if [239, 187, 191] <+: bs then (.utf8Sig, 3)
  else
    match bs with
    | a :: b :: c :: d :: _ =>
        if a = 0 then (if b = 0 then .utf32 true else .utf16 true, 0)
        else if b = 0 then (if c = 0 ∧ d = 0 then .utf32 false else .utf16 false, 0)
        else (.utf8, 0)
    | [a, b] =>
        if a = 0 then (.utf16 true, 0)
        else if b = 0 then (.utf16 false, 0)
        else (.utf8, 0)
    | _ => (.utf8, 0)

def tailByte (b : Nat) : Bool := 128 ≤ b ∧ b < 192

/-- UTF-8 with `surrogatepass`: the three bytes of a surrogate are read as any others. -/
def decodeUtf8 : List Nat → Option Text
  | [] => some []
  | a :: bs =>
      if a < 128 then (decodeUtf8 bs).map (a :: ·)
      else
        match bs with
        | [] => none
        | b :: bs =>
            if ¬ tailByte b then none
            else if 194 ≤ a ∧ a < 224 then
              (decodeUtf8 bs).map ((a % 32 * 64 + b % 64) :: ·)
            else
              match bs with
              | [] => none
              | c :: bs =>
                  if ¬ tailByte c then none
                  else if 224 ≤ a ∧ a < 240 ∧ (a = 224 → 160 ≤ b) then
                    (decodeUtf8 bs).map ((a % 16 * 4096 + b % 64 * 64 + c % 64) :: ·)
                  else
                    match bs with
                    | [] => none
                    | d :: bs =>
                        if tailByte d ∧ 240 ≤ a ∧ a < 245 ∧ (a = 240 → 144 ≤ b) ∧
                            (a = 244 → b < 144) then
                          (decodeUtf8 bs).map
                            ((a % 8 * 262144 + b % 64 * 4096 + c % 64 * 64 + d % 64) :: ·)
                        else none

def highSurrogate (u : Nat) : Bool := 55296 ≤ u ∧ u < 56320

def lowSurrogate (u : Nat) : Bool := 56320 ≤ u ∧ u < 57344

def joinPair (hi lo : Nat) : Nat := 65536 + (hi - 55296) * 1024 + (lo - 56320)

def units16 (big : Bool) : List Nat → Option (List Nat)
  | [] => some []
  | [_] => none
  | a :: b :: bs =>
      (units16 big bs).map ((if big then a * 256 + b else b * 256 + a) :: ·)

/-- A surrogate without its partner stays as it is. -/
def joinUnits : List Nat → Text
  | hi :: lo :: us =>
      if highSurrogate hi ∧ lowSurrogate lo then joinPair hi lo :: joinUnits us
      else hi :: joinUnits (lo :: us)
  | us => us

def decodeUtf32 (big : Bool) : List Nat → Option Text
  | [] => some []
  | a :: b :: c :: d :: bs =>
      let u :=
        if big then ((a * 256 + b) * 256 + c) * 256 + d else ((d * 256 + c) * 256 + b) * 256 + a
      if u < 1114112 then (decodeUtf32 big bs).map (u :: ·) else none
  | _ => none

/-- `s.decode(detect_encoding(s), "surrogatepass")`. -/
def decode (bs : List Nat) : Option Text :=
  match detectEncoding bs with
  | (.utf8, mark) => decodeUtf8 (bs.drop mark)
  | (.utf8Sig, mark) => decodeUtf8 (bs.drop mark)
  | (.utf16 big, mark) => (units16 big (bs.drop mark)).map joinUnits
  | (.utf32 big, mark) => decodeUtf32 big (bs.drop mark)

/-! ## Strings -/

def quoteMark : Nat := 34

def backslash : Nat := 92

def escapeCode (e : Nat) : Option Nat :=
  if e = 34 ∨ e = 92 ∨ e = 47 then some e
  else if e = 98 then some 8
  else if e = 102 then some 12
  else if e = 110 then some 10
  else if e = 114 then some 13
  else if e = 116 then some 9
  else none

def hexDigit (c : Nat) : Option Nat :=
  if 48 ≤ c ∧ c ≤ 57 then some (c - 48)
  else if 97 ≤ c ∧ c ≤ 102 then some (c - 87)
  else if 65 ≤ c ∧ c ≤ 70 then some (c - 55)
  else none

def hexUnit (a b c d : Nat) : Option Nat :=
  match hexDigit a, hexDigit b, hexDigit c, hexDigit d with
  | some a, some b, some c, some d => some (((a * 16 + b) * 16 + c) * 16 + d)
  | _, _, _, _ => none

/-- What one character or escape of a string stands for; only a unit written as an escape is
joined with its partner. -/
structure CodeUnit where
  code : Nat
  escaped : Bool := false
  deriving DecidableEq, Repr

def joinEscapes : List CodeUnit → Text
  | hi :: lo :: us =>
      if hi.escaped ∧ lo.escaped ∧ highSurrogate hi.code ∧ lowSurrogate lo.code then
        joinPair hi.code lo.code :: joinEscapes us
      else hi.code :: joinEscapes (lo :: us)
  | us => us.map (·.code)

def Parsed.cons {α : Type} (x : α) (p : Parsed (List α)) : Parsed (List α) :=
  match p with
  | .error e => .error e
  | .ok (xs, rest) => .ok (x :: xs, rest)

/-- The text after the opening quote, up to the closing one. -/
def scanUnits : Text → Parsed (List CodeUnit)
  | [] => .error .jsonDecodeError
  | c :: cs =>
      if c = quoteMark then .ok ([], cs)
      else if c = backslash then
        match cs with
        | [] => .error .jsonDecodeError
        | e :: cs =>
            if e = 117 then
              match cs with
              | h₁ :: h₂ :: h₃ :: h₄ :: cs =>
                  match hexUnit h₁ h₂ h₃ h₄ with
                  | none => .error .jsonDecodeError
                  | some u => Parsed.cons ⟨u, true⟩ (scanUnits cs)
              | _ => .error .jsonDecodeError
            else
              match escapeCode e with
              | none => .error .jsonDecodeError
              | some u => Parsed.cons ⟨u, false⟩ (scanUnits cs)
      else if c < 32 then .error .jsonDecodeError
      else Parsed.cons ⟨c, false⟩ (scanUnits cs)

def scanString (cs : Text) : Parsed Text :=
  match scanUnits cs with
  | .error e => .error e
  | .ok (us, rest) => .ok (joinEscapes us, rest)

/-! ## Numbers -/

def digit (c : Nat) : Bool := 48 ≤ c ∧ c ≤ 57

def natOf (ds : Text) : Nat := ds.foldl (fun n d ↦ n * 10 + (d - 48)) 0

def signed (negative : Bool) (n : Nat) : Int := if negative then -(n : Int) else n

/-- What a numeral is made of; without fraction and exponent it is an integer. -/
structure Numeral where
  negative : Bool
  whole : Text
  fraction : Text
  exponent : Option (Bool × Text)
  deriving DecidableEq, Repr

/-- The digits of the integer part, without a leading zero. -/
def wholePart (cs : Text) : Text :=
  match cs with
  | 48 :: _ => [48]
  | _ => cs.takeWhile digit

/-- The digits after a point; a point without digits is not part of the numeral. -/
def fractionPart (cs : Text) : Text × Text :=
  match cs with
  | 46 :: tail =>
      if tail.takeWhile digit = [] then ([], cs)
      else (tail.takeWhile digit, tail.dropWhile digit)
  | _ => ([], cs)

def exponentSign (cs : Text) : Bool × Text :=
  match cs with
  | 45 :: tail => (true, tail)
  | 43 :: tail => (false, tail)
  | _ => (false, cs)

/-- An `e` without digits after it is not part of the numeral either. -/
def exponentPart (cs : Text) : Option (Bool × Text) × Text :=
  match cs with
  | [] => (none, cs)
  | e :: tail =>
      if (e = 101 ∨ e = 69) ∧ (exponentSign tail).2.takeWhile digit ≠ [] then
        (some ((exponentSign tail).1, (exponentSign tail).2.takeWhile digit),
          (exponentSign tail).2.dropWhile digit)
      else (none, cs)

def unsignedNumeral (negative : Bool) (cs : Text) : Option (Numeral × Text) :=
  if wholePart cs = [] then none
  else
    let fraction := fractionPart (cs.drop (wholePart cs).length)
    let exponent := exponentPart fraction.2
    some (⟨negative, wholePart cs, fraction.1, exponent.1⟩, exponent.2)

def numeral (cs : Text) : Option (Numeral × Text) :=
  match cs with
  | 45 :: tail => unsignedNumeral true tail
  | _ => unsignedNumeral false cs

def Numeral.value (limits : Limits) (n : Numeral) : Except LoadError Value :=
  match n.exponent with
  | some (negative, ds) =>
      .ok (.float (.decimal n.negative (natOf (n.whole ++ n.fraction))
        (signed negative (natOf ds) - n.fraction.length)))
  | none =>
      if n.fraction ≠ [] then
        .ok (.float (.decimal n.negative (natOf (n.whole ++ n.fraction)) (-n.fraction.length)))
      else if limits.digits < n.whole.length then .error .valueError
      else .ok (.int (signed n.negative (natOf n.whole)))

def scanNumber (limits : Limits) (cs : Text) : Parsed Value :=
  match numeral cs with
  | none => .error .jsonDecodeError
  | some (n, rest) =>
      match n.value limits with
      | .error e => .error e
      | .ok v => .ok (v, rest)

/-! ## Values -/

def blank (c : Nat) : Bool := c = 32 ∨ c = 9 ∨ c = 10 ∨ c = 13

def skipBlanks (cs : Text) : Text := cs.dropWhile blank

/-- The words that stand for a value. -/
def keywords : List (Text × Value) := [
  (codes "null", .null), (codes "true", .bool true), (codes "false", .bool false),
  (codes "NaN", .float .nan), (codes "Infinity", .float (.infinity false)),
  (codes "-Infinity", .float (.infinity true))]

/-- What is read with `item`, between commas and up to the closing character. -/
def scanSeparated {α : Type} (close : Nat) (item : Text → Parsed α) :
    Nat → Text → Parsed (List α)
  | 0, _ => .error .outOfFuel
  | fuel + 1, cs =>
      match item cs with
      | .error e => .error e
      | .ok (x, rest) =>
          match skipBlanks rest with
          | [] => .error .jsonDecodeError
          | c :: rest =>
              if c = close then .ok ([x], rest)
              else if c = 44 then
                Parsed.cons x (scanSeparated close item fuel (skipBlanks rest))
              else .error .jsonDecodeError

/-- A key with its colon and its value. -/
def scanMember (scan : Text → Parsed Value) (cs : Text) : Parsed (Text × Value) :=
  match cs with
  | [] => .error .jsonDecodeError
  | c :: cs =>
      if c = quoteMark then
        match scanString cs with
        | .error e => .error e
        | .ok (k, rest) =>
            match skipBlanks rest with
            | [] => .error .jsonDecodeError
            | c :: rest =>
                if c = 58 then
                  match scan (skipBlanks rest) with
                  | .error e => .error e
                  | .ok (v, rest) => .ok ((k, v), rest)
                else .error .jsonDecodeError
      else .error .jsonDecodeError

/-- The text after an opening bracket. -/
def scanArray (scan : Text → Parsed Value) (cs : Text) : Parsed Value :=
  match skipBlanks cs with
  | [] => .error .jsonDecodeError
  | c :: rest =>
      if c = 93 then .ok (.arr [], rest)
      else
        match scanSeparated 93 scan (c :: rest).length (c :: rest) with
        | .error e => .error e
        | .ok (vs, rest) => .ok (.arr vs, rest)

/-- The text after an opening brace; the last value of a key wins. -/
def scanObject (scan : Text → Parsed Value) (cs : Text) : Parsed Value :=
  match skipBlanks cs with
  | [] => .error .jsonDecodeError
  | c :: rest =>
      if c = 125 then .ok (.obj [], rest)
      else
        match scanSeparated 125 (scanMember scan) (c :: rest).length (c :: rest) with
        | .error e => .error e
        | .ok (kvs, rest) => .ok (.obj (Dict.setAll [] kvs), rest)

/-- One value.  `inner` reads the values inside a container, `none` where the recursion limit is
reached. -/
def scanWith (limits : Limits) (inner : Option (Text → Parsed Value)) (cs : Text) :
    Parsed Value :=
  match cs with
  | [] => .error .jsonDecodeError
  | c :: rest =>
      if c = quoteMark then
        match scanString rest with
        | .error e => .error e
        | .ok (s, rest) => .ok (.str s, rest)
      else if c = 123 then
        match inner with
        | none => .error .recursionError
        | some scan => scanObject scan rest
      else if c = 91 then
        match inner with
        | none => .error .recursionError
        | some scan => scanArray scan rest
      else
        match keywords.find? fun w ↦ w.1 <+: c :: rest with
        | some w => .ok (w.2, (c :: rest).drop w.1.length)
        | none => scanNumber limits (c :: rest)

def scanOnce (limits : Limits) : Nat → Text → Parsed Value
  | 0 => scanWith limits none
  | depth + 1 => scanWith limits (some (scanOnce limits depth))

/-- `json.loads(bytes)`. -/
def loads (limits : Limits) (bytes : List UInt8) : Except LoadError Value :=
  match decode (bytes.map (·.toNat)) with
  | none => .error .unicodeDecodeError
  | some cs =>
      match scanOnce limits limits.depth (skipBlanks cs) with
      | .error e => .error e
      | .ok (v, rest) =>
          if skipBlanks rest = [] then .ok v else .error .jsonDecodeError

/-! ## Every scanner moves on -/

/-- A scanner that leaves less text than it was given, and whose fuel lasts. -/
structure Advances {α : Type} (p : Text → Parsed α) : Prop where
  shorter : ∀ {cs x rest}, p cs = .ok (x, rest) → rest.length < cs.length
  fueled : ∀ cs, p cs ≠ .error .outOfFuel

theorem Parsed.cons_ok {α : Type} {x : α} {p : Parsed (List α)} {ys : List α} {rest : Text}
    (h : Parsed.cons x p = .ok (ys, rest)) : ∃ xs, p = .ok (xs, rest) ∧ ys = x :: xs := by
  match p with
  | .error e => cases h
  | .ok (xs, rest') =>
      cases h
      exact ⟨xs, rfl, rfl⟩

theorem Parsed.cons_error {α : Type} {x : α} {p : Parsed (List α)} {e : LoadError}
    (h : Parsed.cons x p = .error e) : p = .error e := by
  match p with
  | .error e' =>
      cases h
      rfl
  | .ok (xs, rest') => cases h

theorem length_skipBlanks (cs : Text) : (skipBlanks cs).length ≤ cs.length :=
  (List.dropWhile_sublist blank).length_le

theorem scanUnits_shorter {cs rest : Text} {us : List CodeUnit}
    (h : scanUnits cs = .ok (us, rest)) : rest.length < cs.length := by
  fun_induction scanUnits cs generalizing us with
  | case2 cs =>
      cases h
      simp
  | case5 h₁ h₂ h₃ h₄ cs u hu ne ih =>
      have hcons := Parsed.cons_ok h
      have hlt := ih hcons.choose_spec.1
      simp only [List.length_cons]
      omega
  | case8 e cs he u hu ne ih =>
      have hcons := Parsed.cons_ok h
      have hlt := ih hcons.choose_spec.1
      simp only [List.length_cons]
      omega
  | case10 c cs hq hb hc ih =>
      have hcons := Parsed.cons_ok h
      have hlt := ih hcons.choose_spec.1
      simp only [List.length_cons]
      omega
  | _ => cases h

theorem scanUnits_fueled (cs : Text) : scanUnits cs ≠ .error .outOfFuel := by
  fun_induction scanUnits cs with
  | case5 h₁ h₂ h₃ h₄ cs u hu ne ih => exact fun h ↦ ih (Parsed.cons_error h)
  | case8 e cs he u hu ne ih => exact fun h ↦ ih (Parsed.cons_error h)
  | case10 c cs hq hb hc ih => exact fun h ↦ ih (Parsed.cons_error h)
  | _ => simp

theorem advances_scanString : Advances scanString where
  shorter := by
    intro cs s rest h
    unfold scanString at h
    split at h
    · cases h
    · rename_i us rest' hus
      cases h
      exact scanUnits_shorter hus
  fueled := by
    intro cs h
    unfold scanString at h
    split at h
    · rename_i e he
      cases h
      exact scanUnits_fueled cs he
    · cases h

theorem length_fractionPart (cs : Text) : (fractionPart cs).2.length ≤ cs.length := by
  unfold fractionPart
  split
  · rename_i tail
    have hdrop := (List.dropWhile_sublist (l := tail) digit).length_le
    split
    · exact Nat.le_refl _
    · simp only [List.length_cons]
      omega
  · exact Nat.le_refl _

theorem length_exponentPart (cs : Text) : (exponentPart cs).2.length ≤ cs.length := by
  unfold exponentPart
  split
  · exact Nat.le_refl _
  · rename_i e tail
    have hsign : (exponentSign tail).2.length ≤ tail.length := by
      unfold exponentSign
      split <;> simp
    have hdrop := (List.dropWhile_sublist (l := (exponentSign tail).2) digit).length_le
    split
    · simp only [List.length_cons]
      omega
    · exact Nat.le_refl _

theorem unsignedNumeral_shorter {negative : Bool} {cs rest : Text} {n : Numeral}
    (h : unsignedNumeral negative cs = some (n, rest)) : rest.length < cs.length := by
  unfold unsignedNumeral at h
  split at h
  · cases h
  · rename_i hne
    cases h
    have hpos : 0 < (wholePart cs).length := List.length_pos_iff.2 hne
    have hcs : cs ≠ [] := by
      intro hnil
      subst hnil
      exact hne rfl
    have hlen : 0 < cs.length := List.length_pos_iff.2 hcs
    have hfraction := length_fractionPart (cs.drop (wholePart cs).length)
    have hexponent := length_exponentPart (fractionPart (cs.drop (wholePart cs).length)).2
    rw [List.length_drop] at hfraction
    omega

theorem advances_scanNumber (limits : Limits) : Advances (scanNumber limits) where
  shorter := by
    intro cs v rest h
    unfold scanNumber at h
    split at h
    · cases h
    · rename_i n rest' hn
      have hrest : rest = rest' := by
        split at h <;> cases h
        rfl
      unfold numeral at hn
      split at hn
      · have hlt := unsignedNumeral_shorter hn
        rw [hrest, List.length_cons]
        omega
      · exact hrest ▸ unsignedNumeral_shorter hn
  fueled := by
    intro cs h
    unfold scanNumber at h
    split at h
    · cases h
    · split at h
      · rename_i n rest hn e he
        cases h
        unfold Numeral.value at he
        split at he
        · cases he
        · split at he
          · cases he
          · split at he <;> cases he
      · cases h

theorem scanSeparated_shorter {α : Type} {close : Nat} {item : Text → Parsed α}
    (hitem : Advances item) {fuel : Nat} {cs rest : Text} {xs : List α}
    (h : scanSeparated close item fuel cs = .ok (xs, rest)) : rest.length < cs.length := by
  induction fuel generalizing cs xs with
  | zero => cases h
  | succ fuel ih =>
      unfold scanSeparated at h
      split at h
      · cases h
      · rename_i x rest₁ hx
        have hlt := hitem.shorter hx
        have hblank := length_skipBlanks rest₁
        split at h
        · cases h
        · rename_i c rest₂ hc
          rw [hc, List.length_cons] at hblank
          split at h
          · cases h
            omega
          · split at h
            · have hcons := Parsed.cons_ok h
              have hrest := ih hcons.choose_spec.1
              have hblank₂ := length_skipBlanks rest₂
              omega
            · cases h

/-- Each round takes an item and a comma, so a fuel of the text's length lasts. -/
theorem scanSeparated_fueled {α : Type} {close : Nat} {item : Text → Parsed α}
    (hitem : Advances item) {fuel : Nat} {cs : Text} (hpos : 0 < fuel)
    (hfuel : cs.length ≤ fuel) : scanSeparated close item fuel cs ≠ .error .outOfFuel := by
  induction fuel generalizing cs with
  | zero => exact absurd hpos (Nat.lt_irrefl 0)
  | succ fuel ih =>
      intro h
      unfold scanSeparated at h
      split at h
      · rename_i e he
        cases h
        exact hitem.fueled cs he
      · rename_i x rest₁ hx
        have hlt := hitem.shorter hx
        have hblank := length_skipBlanks rest₁
        split at h
        · cases h
        · rename_i c rest₂ hc
          rw [hc, List.length_cons] at hblank
          split at h
          · cases h
          · split at h
            · have hblank₂ := length_skipBlanks rest₂
              exact ih (by omega) (by omega) (Parsed.cons_error h)
            · cases h

theorem advances_scanMember {scan : Text → Parsed Value} (hscan : Advances scan) :
    Advances (scanMember scan) where
  shorter := by
    intro cs kv rest h
    unfold scanMember at h
    split at h
    · cases h
    · split at h
      · split at h
        · cases h
        · rename_i c cs hq k rest₁ hk
          have hkey := advances_scanString.shorter hk
          have hblank := length_skipBlanks rest₁
          split at h
          · cases h
          · rename_i c₂ rest₂ hc
            rw [hc, List.length_cons] at hblank
            split at h
            · split at h
              · cases h
              · rename_i hcolon v rest₃ hv
                cases h
                have hvalue := hscan.shorter hv
                have hblank₂ := length_skipBlanks rest₂
                rw [List.length_cons]
                omega
            · cases h
      · cases h
  fueled := by
    intro cs h
    unfold scanMember at h
    split at h
    · cases h
    · split at h
      · split at h
        · rename_i e he
          cases h
          exact advances_scanString.fueled _ he
        · split at h
          · cases h
          · split at h
            · split at h
              · rename_i e he
                cases h
                exact hscan.fueled _ he
              · cases h
            · cases h
      · cases h

theorem advances_scanArray {scan : Text → Parsed Value} (hscan : Advances scan) :
    Advances (scanArray scan) where
  shorter := by
    intro cs v rest h
    have hblank := length_skipBlanks cs
    unfold scanArray at h
    split at h
    · cases h
    · rename_i c rest₁ hc
      rw [hc] at hblank
      split at h
      · cases h
        rw [List.length_cons] at hblank
        omega
      · split at h
        · cases h
        · rename_i vs rest₂ hvs
          cases h
          have hlt := scanSeparated_shorter hscan hvs
          omega
  fueled := by
    intro cs h
    unfold scanArray at h
    split at h
    · cases h
    · split at h
      · cases h
      · split at h
        · rename_i e he
          cases h
          exact scanSeparated_fueled hscan (Nat.succ_pos _) (Nat.le_refl _) he
        · cases h

theorem advances_scanObject {scan : Text → Parsed Value} (hscan : Advances scan) :
    Advances (scanObject scan) where
  shorter := by
    intro cs v rest h
    have hblank := length_skipBlanks cs
    unfold scanObject at h
    split at h
    · cases h
    · rename_i c rest₁ hc
      rw [hc] at hblank
      split at h
      · cases h
        rw [List.length_cons] at hblank
        omega
      · split at h
        · cases h
        · rename_i kvs rest₂ hkvs
          cases h
          have hlt := scanSeparated_shorter (advances_scanMember hscan) hkvs
          omega
  fueled := by
    intro cs h
    unfold scanObject at h
    split at h
    · cases h
    · split at h
      · cases h
      · split at h
        · rename_i e he
          cases h
          exact scanSeparated_fueled (advances_scanMember hscan) (Nat.succ_pos _)
            (Nat.le_refl _) he
        · cases h

theorem keywords_nonempty : ∀ w ∈ keywords, w.1 ≠ [] := by
  decide

theorem advances_scanWith (limits : Limits) {inner : Option (Text → Parsed Value)}
    (hinner : ∀ scan ∈ inner, Advances scan) : Advances (scanWith limits inner) where
  shorter := by
    intro cs v rest h
    unfold scanWith at h
    split at h
    · cases h
    · rename_i c cs
      rw [List.length_cons]
      split at h
      · split at h
        · cases h
        · rename_i s rest' hs
          cases h
          have hlt := advances_scanString.shorter hs
          omega
      · split at h
        · split at h
          · cases h
          · rename_i scan
            have hlt := (advances_scanObject (hinner scan rfl)).shorter h
            omega
        · split at h
          · split at h
            · cases h
            · rename_i scan
              have hlt := (advances_scanArray (hinner scan rfl)).shorter h
              omega
          · split at h
            · rename_i w hw
              cases h
              have hne := keywords_nonempty w (List.mem_of_find?_eq_some hw)
              have hpos := List.length_pos_iff.2 hne
              rw [List.length_drop, List.length_cons]
              omega
            · exact (advances_scanNumber limits).shorter h
  fueled := by
    intro cs h
    unfold scanWith at h
    split at h
    · cases h
    · split at h
      · split at h
        · rename_i e he
          cases h
          exact advances_scanString.fueled _ he
        · cases h
      · split at h
        · split at h
          · cases h
          · rename_i scan
            exact (advances_scanObject (hinner scan rfl)).fueled _ h
        · split at h
          · split at h
            · cases h
            · rename_i scan
              exact (advances_scanArray (hinner scan rfl)).fueled _ h
          · split at h
            · cases h
            · exact (advances_scanNumber limits).fueled _ h

theorem advances_scanOnce (limits : Limits) (depth : Nat) :
    Advances (scanOnce limits depth) := by
  induction depth with
  | zero => exact advances_scanWith limits fun scan h ↦ by cases h
  | succ depth ih => exact advances_scanWith limits fun scan h ↦ Option.some.inj h ▸ ih

/-- The fuel is a matter of the definition only: every byte string is read to a value or to one
of Python's exceptions. -/
theorem loads_fueled (limits : Limits) (bytes : List UInt8) :
    loads limits bytes ≠ .error .outOfFuel := by
  intro h
  unfold loads at h
  split at h
  · cases h
  · split at h
    · rename_i e he
      cases h
      exact (advances_scanOnce limits limits.depth).fueled _ he
    · split at h <;> cases h

end JsonText
