import Mathlib.Data.List.DropRight
import Mathlib.Data.List.TakeWhile
import Mathlib.Tactic.Common

/-! Python's `int(text)`, and the zero-padded text of an integer. -/

namespace PyInt

def otherZeros : List Nat := [
  0x660, 0x6F0, 0x7C0, 0x966, 0x9E6, 0xA66, 0xAE6, 0xB66, 0xBE6, 0xC66, 0xCE6, 0xD66, 0xDE6, 0xE50,
  0xED0, 0xF20, 0x1040, 0x1090, 0x17E0, 0x1810, 0x1946, 0x19D0, 0x1A80, 0x1A90, 0x1B50, 0x1BB0,
  0x1C40, 0x1C50, 0xA620, 0xA8D0, 0xA900, 0xA9D0, 0xA9F0, 0xAA50, 0xABF0, 0xFF10, 0x104A0, 0x10D30,
  0x11066, 0x110F0, 0x11136, 0x111D0, 0x112F0, 0x11450, 0x114D0, 0x11650, 0x116C0, 0x11730,
  0x118E0, 0x11950, 0x11C50, 0x11D50, 0x11DA0, 0x11F50, 0x16A60, 0x16AC0, 0x16B50, 0x1D7CE,
  0x1D7D8, 0x1D7E2, 0x1D7EC, 0x1D7F6, 0x1E140, 0x1E2F0, 0x1E4F0, 0x1E950, 0x1FBF0]

/-- The zeros of Unicode 15; the other nine digits of a script follow its zero. -/
def zeros : List Nat := 0x30 :: otherZeros

def digitValue (c : Char) : Option Nat :=
  (zeros.find? fun z ↦ z ≤ c.toNat ∧ c.toNat < z + 10).map (c.toNat - ·)

-- the separators from 0x1C to 0x1F are spaces to `str.isspace`, but not here
def spaces : List Nat := [
  0x09, 0x0A, 0x0B, 0x0C, 0x0D, 0x20, 0x85, 0xA0, 0x1680, 0x2000, 0x2001, 0x2002, 0x2003, 0x2004,
  0x2005, 0x2006, 0x2007, 0x2008, 0x2009, 0x200A, 0x2028, 0x2029, 0x202F, 0x205F, 0x3000]

def isSpace (c : Char) : Bool := spaces.contains c.toNat

/-- An underscore stands between two digits. -/
def readDigits (afterDigit : Bool) (n : Nat) : List Char → Option Nat
  | [] => if afterDigit then some n else none
  | c :: rest =>
      if c = '_' then
        if afterDigit then readDigits false n rest else none
      else (digitValue c).bind fun d ↦ readDigits true (10 * n + d) rest

def readInt (t : List Char) : Option Int :=
  match (t.dropWhile isSpace).rdropWhile isSpace with
  | '+' :: digits => (readDigits false 0 digits).map Int.ofNat
  | '-' :: digits => (readDigits false 0 digits).map fun n : Nat ↦ -Int.ofNat n
  | digits => (readDigits false 0 digits).map Int.ofNat

/-- `f"{n:0{width}d}"`; the width counts the sign. -/
def padded (width : Nat) (n : Int) : List Char :=
  let sign := if n < 0 then ['-'] else []
  let digits := Nat.toDigits 10 n.natAbs
  sign ++ List.replicate (width - sign.length - digits.length) '0' ++ digits

/-! ## A padded integer is read back -/

section Digits

variable {c : Char} {ds : List Char}

theorem toNat_of_isDigit (h : c.isDigit = true) : 48 ≤ c.toNat ∧ c.toNat < 58 := by
  simp only [Char.isDigit, UInt32.le_iff_toNat_le, Bool.and_eq_true, decide_eq_true_eq] at h
  exact ⟨h.1, Nat.lt_succ_of_le h.2⟩

theorem ne_of_isDigit (h : c.isDigit = true) {mark : Char} (hmark : mark.isDigit = false) :
    c ≠ mark := by
  intro hsame
  rw [hsame, hmark] at h
  cases h

theorem digitValue_of_isDigit (h : c.isDigit = true) : digitValue c = some (c.toNat - 48) := by
  have hzero : zeros.find? (fun z ↦ z ≤ c.toNat ∧ c.toNat < z + 10) = some 0x30 :=
    List.find?_cons_of_pos (decide_eq_true (toNat_of_isDigit h))
  unfold digitValue
  rw [hzero]
  rfl

theorem isSpace_of_isDigit (h : c.isDigit = true) : isSpace c = false := by
  unfold isSpace
  rw [← Bool.not_eq_true, List.contains_iff_mem]
  intro hmem
  have hapart : ∀ space ∈ spaces, space < 48 ∨ 58 ≤ space := by
    decide
  have hspace := hapart c.toNat hmem
  have hdigit := toNat_of_isDigit h
  omega

theorem readDigits_cons (h : c.isDigit = true) (afterDigit : Bool) (n : Nat) :
    readDigits afterDigit n (c :: ds) = readDigits true (10 * n + (c.toNat - 48)) ds := by
  rw [readDigits, if_neg (ne_of_isDigit h (by decide)), digitValue_of_isDigit h]
  rfl

theorem readDigits_digits (hds : ∀ c ∈ ds, c.isDigit = true) (n : Nat) :
    readDigits true n ds = some (Nat.ofDigitChars 10 ds n) := by
  induction ds generalizing n with
  | nil => rfl
  | cons c ds ih =>
      have hrest : ∀ d ∈ ds, d.isDigit = true := fun d hd ↦ hds d (List.mem_cons_of_mem c hd)
      rw [readDigits_cons (hds c List.mem_cons_self), ih hrest, Nat.ofDigitChars_cons]
      rfl

theorem readDigits_first (hds : ∀ d ∈ c :: ds, d.isDigit = true) :
    readDigits false 0 (c :: ds) = some (Nat.ofDigitChars 10 (c :: ds) 0) := by
  have hc : c.isDigit = true := hds c List.mem_cons_self
  rw [← readDigits_digits hds, readDigits_cons hc, readDigits_cons hc]

end Digits

theorem strip_of_ends {c : Char} {rest : List Char} (hfirst : isSpace c = false)
    (hlast : ∀ d ∈ rest, isSpace d = false) :
    ((c :: rest).dropWhile isSpace).rdropWhile isSpace = c :: rest := by
  rw [List.dropWhile_cons_of_neg (Bool.eq_false_iff.1 hfirst), List.rdropWhile_eq_self_iff]
  intro hne
  rcases List.mem_cons.1 (List.getLast_mem hne) with hhead | htail
  · rw [hhead]
    exact Bool.eq_false_iff.1 hfirst
  · exact Bool.eq_false_iff.1 (hlast _ htail)

theorem readInt_digits {ds : List Char} (hne : ds ≠ []) (hds : ∀ d ∈ ds, d.isDigit = true) :
    readInt ds = some (Int.ofNat (Nat.ofDigitChars 10 ds 0)) := by
  obtain ⟨c, rest, rfl⟩ := List.exists_cons_of_ne_nil hne
  have hc : c.isDigit = true := hds c List.mem_cons_self
  have hrest : ∀ d ∈ rest, isSpace d = false := fun d hd ↦
    isSpace_of_isDigit (hds d (List.mem_cons_of_mem c hd))
  unfold readInt
  rw [strip_of_ends (isSpace_of_isDigit hc) hrest]
  split
  · rename_i _ _ hplus
    exact absurd (List.cons.inj hplus).1 (ne_of_isDigit hc (by decide))
  · rename_i _ _ hminus
    exact absurd (List.cons.inj hminus).1 (ne_of_isDigit hc (by decide))
  · rw [readDigits_first hds]
    rfl

theorem readInt_minus {ds : List Char} (hne : ds ≠ []) (hds : ∀ d ∈ ds, d.isDigit = true) :
    readInt ('-' :: ds) = some (-Int.ofNat (Nat.ofDigitChars 10 ds 0)) := by
  obtain ⟨c, rest, rfl⟩ := List.exists_cons_of_ne_nil hne
  unfold readInt
  rw [strip_of_ends (by decide) fun d hd ↦ isSpace_of_isDigit (hds d hd)]
  show (readDigits false 0 (c :: rest)).map (fun n : Nat ↦ -Int.ofNat n) = _
  rw [readDigits_first hds]
  rfl

/-- The digits of a number, with any number of zeros before them. -/
def withZeros (k n : Nat) : List Char := List.replicate k '0' ++ Nat.toDigits 10 n

theorem withZeros_ne_nil (k n : Nat) : withZeros k n ≠ [] := by
  unfold withZeros
  simp

theorem isDigit_withZeros {k n : Nat} {d : Char} (hd : d ∈ withZeros k n) : d.isDigit = true := by
  rcases List.mem_append.1 hd with hzero | hdigit
  · rw [List.eq_of_mem_replicate hzero]
    decide
  · exact Nat.isDigit_of_mem_toDigits (by decide) (by decide) hdigit

theorem ofDigitChars_withZeros (k n : Nat) : Nat.ofDigitChars 10 (withZeros k n) 0 = n := by
  unfold withZeros
  rw [Nat.ofDigitChars_append, Nat.ofDigitChars_replicate_zero, Nat.mul_zero,
    Nat.ofDigitChars_ten_toDigits]

theorem readInt_padded (width : Nat) (n : Int) : readInt (padded width n) = some n := by
  by_cases hn : n < 0
  · have htext : padded width n =
        '-' :: withZeros (width - 1 - (Nat.toDigits 10 n.natAbs).length) n.natAbs := by
      unfold padded
      rw [if_pos hn]
      rfl
    rw [htext, readInt_minus (withZeros_ne_nil _ _) fun d hd ↦ isDigit_withZeros hd,
      ofDigitChars_withZeros]
    congr 1
    show -(n.natAbs : Int) = n
    omega
  · have htext : padded width n =
        withZeros (width - (Nat.toDigits 10 n.natAbs).length) n.natAbs := by
      unfold padded
      rw [if_neg hn]
      rfl
    rw [htext, readInt_digits (withZeros_ne_nil _ _) fun d hd ↦ isDigit_withZeros hd,
      ofDigitChars_withZeros]
    congr 1
    show (n.natAbs : Int) = n
    omega

end PyInt
