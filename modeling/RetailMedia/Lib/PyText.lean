import RetailMedia.Lib.JsonText
import RetailMedia.Lib.PyInt
import Mathlib.Data.List.DropRight
import Mathlib.Data.List.Infix
import Mathlib.Tactic.Common

/-! Python's `str.lower`, `str.strip` and `str.replace`. -/

namespace PyText

open JsonText (Text codes)

/-! ## Lower case -/

/-- Every `step`-th code point, `count` of them, and where the first goes. -/
structure CaseRange where
  start : Nat
  count : Nat
  step : Nat
  target : Nat
  deriving DecidableEq, Repr

/-- The lower case mappings of Unicode 15 to one code point. -/
def lowerRanges : List CaseRange := [
  ⟨0x41, 26, 1, 0x61⟩, ⟨0xC0, 23, 1, 0xE0⟩, ⟨0xD8, 7, 1, 0xF8⟩, ⟨0x100, 24, 2, 0x101⟩,
  ⟨0x132, 3, 2, 0x133⟩, ⟨0x139, 8, 2, 0x13A⟩, ⟨0x14A, 23, 2, 0x14B⟩, ⟨0x178, 1, 1, 0xFF⟩,
  ⟨0x179, 3, 2, 0x17A⟩, ⟨0x181, 1, 1, 0x253⟩, ⟨0x182, 2, 2, 0x183⟩, ⟨0x186, 1, 1, 0x254⟩,
  ⟨0x187, 1, 1, 0x188⟩, ⟨0x189, 2, 1, 0x256⟩, ⟨0x18B, 1, 1, 0x18C⟩, ⟨0x18E, 1, 1, 0x1DD⟩,
  ⟨0x18F, 1, 1, 0x259⟩, ⟨0x190, 1, 1, 0x25B⟩, ⟨0x191, 1, 1, 0x192⟩, ⟨0x193, 1, 1, 0x260⟩,
  ⟨0x194, 1, 1, 0x263⟩, ⟨0x196, 1, 1, 0x269⟩, ⟨0x197, 1, 1, 0x268⟩, ⟨0x198, 1, 1, 0x199⟩,
  ⟨0x19C, 1, 1, 0x26F⟩, ⟨0x19D, 1, 1, 0x272⟩, ⟨0x19F, 1, 1, 0x275⟩, ⟨0x1A0, 3, 2, 0x1A1⟩,
  ⟨0x1A6, 1, 1, 0x280⟩, ⟨0x1A7, 1, 1, 0x1A8⟩, ⟨0x1A9, 1, 1, 0x283⟩, ⟨0x1AC, 1, 1, 0x1AD⟩,
  ⟨0x1AE, 1, 1, 0x288⟩, ⟨0x1AF, 1, 1, 0x1B0⟩, ⟨0x1B1, 2, 1, 0x28A⟩, ⟨0x1B3, 2, 2, 0x1B4⟩,
  ⟨0x1B7, 1, 1, 0x292⟩, ⟨0x1B8, 1, 1, 0x1B9⟩, ⟨0x1BC, 1, 1, 0x1BD⟩, ⟨0x1C4, 1, 1, 0x1C6⟩,
  ⟨0x1C5, 1, 1, 0x1C6⟩, ⟨0x1C7, 1, 1, 0x1C9⟩, ⟨0x1C8, 1, 1, 0x1C9⟩, ⟨0x1CA, 1, 1, 0x1CC⟩,
  ⟨0x1CB, 9, 2, 0x1CC⟩, ⟨0x1DE, 9, 2, 0x1DF⟩, ⟨0x1F1, 1, 1, 0x1F3⟩, ⟨0x1F2, 2, 2, 0x1F3⟩,
  ⟨0x1F6, 1, 1, 0x195⟩, ⟨0x1F7, 1, 1, 0x1BF⟩, ⟨0x1F8, 20, 2, 0x1F9⟩, ⟨0x220, 1, 1, 0x19E⟩,
  ⟨0x222, 9, 2, 0x223⟩, ⟨0x23A, 1, 1, 0x2C65⟩, ⟨0x23B, 1, 1, 0x23C⟩, ⟨0x23D, 1, 1, 0x19A⟩,
  ⟨0x23E, 1, 1, 0x2C66⟩, ⟨0x241, 1, 1, 0x242⟩, ⟨0x243, 1, 1, 0x180⟩, ⟨0x244, 1, 1, 0x289⟩,
  ⟨0x245, 1, 1, 0x28C⟩, ⟨0x246, 5, 2, 0x247⟩, ⟨0x370, 2, 2, 0x371⟩, ⟨0x376, 1, 1, 0x377⟩,
  ⟨0x37F, 1, 1, 0x3F3⟩, ⟨0x386, 1, 1, 0x3AC⟩, ⟨0x388, 3, 1, 0x3AD⟩, ⟨0x38C, 1, 1, 0x3CC⟩,
  ⟨0x38E, 2, 1, 0x3CD⟩, ⟨0x391, 17, 1, 0x3B1⟩, ⟨0x3A3, 9, 1, 0x3C3⟩, ⟨0x3CF, 1, 1, 0x3D7⟩,
  ⟨0x3D8, 12, 2, 0x3D9⟩, ⟨0x3F4, 1, 1, 0x3B8⟩, ⟨0x3F7, 1, 1, 0x3F8⟩, ⟨0x3F9, 1, 1, 0x3F2⟩,
  ⟨0x3FA, 1, 1, 0x3FB⟩, ⟨0x3FD, 3, 1, 0x37B⟩, ⟨0x400, 16, 1, 0x450⟩, ⟨0x410, 32, 1, 0x430⟩,
  ⟨0x460, 17, 2, 0x461⟩, ⟨0x48A, 27, 2, 0x48B⟩, ⟨0x4C0, 1, 1, 0x4CF⟩, ⟨0x4C1, 7, 2, 0x4C2⟩,
  ⟨0x4D0, 48, 2, 0x4D1⟩, ⟨0x531, 38, 1, 0x561⟩, ⟨0x10A0, 38, 1, 0x2D00⟩, ⟨0x10C7, 1, 1, 0x2D27⟩,
  ⟨0x10CD, 1, 1, 0x2D2D⟩, ⟨0x13A0, 80, 1, 0xAB70⟩, ⟨0x13F0, 6, 1, 0x13F8⟩, ⟨0x1C90, 43, 1, 0x10D0⟩,
  ⟨0x1CBD, 3, 1, 0x10FD⟩, ⟨0x1E00, 75, 2, 0x1E01⟩, ⟨0x1E9E, 1, 1, 0xDF⟩, ⟨0x1EA0, 48, 2, 0x1EA1⟩,
  ⟨0x1F08, 8, 1, 0x1F00⟩, ⟨0x1F18, 6, 1, 0x1F10⟩, ⟨0x1F28, 8, 1, 0x1F20⟩, ⟨0x1F38, 8, 1, 0x1F30⟩,
  ⟨0x1F48, 6, 1, 0x1F40⟩, ⟨0x1F59, 4, 2, 0x1F51⟩, ⟨0x1F68, 8, 1, 0x1F60⟩, ⟨0x1F88, 8, 1, 0x1F80⟩,
  ⟨0x1F98, 8, 1, 0x1F90⟩, ⟨0x1FA8, 8, 1, 0x1FA0⟩, ⟨0x1FB8, 2, 1, 0x1FB0⟩, ⟨0x1FBA, 2, 1, 0x1F70⟩,
  ⟨0x1FBC, 1, 1, 0x1FB3⟩, ⟨0x1FC8, 4, 1, 0x1F72⟩, ⟨0x1FCC, 1, 1, 0x1FC3⟩, ⟨0x1FD8, 2, 1, 0x1FD0⟩,
  ⟨0x1FDA, 2, 1, 0x1F76⟩, ⟨0x1FE8, 2, 1, 0x1FE0⟩, ⟨0x1FEA, 2, 1, 0x1F7A⟩, ⟨0x1FEC, 1, 1, 0x1FE5⟩,
  ⟨0x1FF8, 2, 1, 0x1F78⟩, ⟨0x1FFA, 2, 1, 0x1F7C⟩, ⟨0x1FFC, 1, 1, 0x1FF3⟩, ⟨0x2126, 1, 1, 0x3C9⟩,
  ⟨0x212A, 1, 1, 0x6B⟩, ⟨0x212B, 1, 1, 0xE5⟩, ⟨0x2132, 1, 1, 0x214E⟩, ⟨0x2160, 16, 1, 0x2170⟩,
  ⟨0x2183, 1, 1, 0x2184⟩, ⟨0x24B6, 26, 1, 0x24D0⟩, ⟨0x2C00, 48, 1, 0x2C30⟩, ⟨0x2C60, 1, 1, 0x2C61⟩,
  ⟨0x2C62, 1, 1, 0x26B⟩, ⟨0x2C63, 1, 1, 0x1D7D⟩, ⟨0x2C64, 1, 1, 0x27D⟩, ⟨0x2C67, 3, 2, 0x2C68⟩,
  ⟨0x2C6D, 1, 1, 0x251⟩, ⟨0x2C6E, 1, 1, 0x271⟩, ⟨0x2C6F, 1, 1, 0x250⟩, ⟨0x2C70, 1, 1, 0x252⟩,
  ⟨0x2C72, 1, 1, 0x2C73⟩, ⟨0x2C75, 1, 1, 0x2C76⟩, ⟨0x2C7E, 2, 1, 0x23F⟩, ⟨0x2C80, 50, 2, 0x2C81⟩,
  ⟨0x2CEB, 2, 2, 0x2CEC⟩, ⟨0x2CF2, 1, 1, 0x2CF3⟩, ⟨0xA640, 23, 2, 0xA641⟩, ⟨0xA680, 14, 2, 0xA681⟩,
  ⟨0xA722, 7, 2, 0xA723⟩, ⟨0xA732, 31, 2, 0xA733⟩, ⟨0xA779, 2, 2, 0xA77A⟩, ⟨0xA77D, 1, 1, 0x1D79⟩,
  ⟨0xA77E, 5, 2, 0xA77F⟩, ⟨0xA78B, 1, 1, 0xA78C⟩, ⟨0xA78D, 1, 1, 0x265⟩, ⟨0xA790, 2, 2, 0xA791⟩,
  ⟨0xA796, 10, 2, 0xA797⟩, ⟨0xA7AA, 1, 1, 0x266⟩, ⟨0xA7AB, 1, 1, 0x25C⟩, ⟨0xA7AC, 1, 1, 0x261⟩,
  ⟨0xA7AD, 1, 1, 0x26C⟩, ⟨0xA7AE, 1, 1, 0x26A⟩, ⟨0xA7B0, 1, 1, 0x29E⟩, ⟨0xA7B1, 1, 1, 0x287⟩,
  ⟨0xA7B2, 1, 1, 0x29D⟩, ⟨0xA7B3, 1, 1, 0xAB53⟩, ⟨0xA7B4, 8, 2, 0xA7B5⟩, ⟨0xA7C4, 1, 1, 0xA794⟩,
  ⟨0xA7C5, 1, 1, 0x282⟩, ⟨0xA7C6, 1, 1, 0x1D8E⟩, ⟨0xA7C7, 2, 2, 0xA7C8⟩, ⟨0xA7D0, 1, 1, 0xA7D1⟩,
  ⟨0xA7D6, 2, 2, 0xA7D7⟩, ⟨0xA7F5, 1, 1, 0xA7F6⟩, ⟨0xFF21, 26, 1, 0xFF41⟩,
  ⟨0x10400, 40, 1, 0x10428⟩, ⟨0x104B0, 36, 1, 0x104D8⟩, ⟨0x10570, 19, 2, 0x10597⟩,
  ⟨0x10571, 5, 2, 0x10598⟩, ⟨0x1057D, 7, 2, 0x105A4⟩, ⟨0x1058D, 3, 2, 0x105B4⟩,
  ⟨0x10595, 1, 1, 0x105BC⟩, ⟨0x10C80, 51, 1, 0x10CC0⟩, ⟨0x118A0, 32, 1, 0x118C0⟩,
  ⟨0x16E40, 32, 1, 0x16E60⟩, ⟨0x1E900, 34, 1, 0x1E922⟩]

def CaseRange.has (r : CaseRange) (c : Nat) : Bool :=
  r.start ≤ c ∧ c < r.start + r.count * r.step ∧ (c - r.start) % r.step = 0

def lowerCode (c : Nat) : Nat :=
  match lowerRanges.find? (·.has c) with
  | some r => r.target + (c - r.start)
  | none => c

def asciiLower (c : Nat) : Nat := if 0x41 ≤ c ∧ c ≤ 0x5A then c + 0x20 else c

theorem lowerRanges_above_ascii : ∀ r ∈ lowerRanges.tail, 128 ≤ r.start := by
  decide +kernel

theorem lowerCode_ascii {c : Nat} (h : c < 128) : lowerCode c = asciiLower c := by
  have hothers : lowerRanges.tail.find? (·.has c) = none := by
    rw [List.find?_eq_none]
    intro r hr hhas
    unfold CaseRange.has at hhas
    rw [decide_eq_true_eq] at hhas
    have hstart := lowerRanges_above_ascii r hr
    omega
  have hsplit : lowerRanges = ⟨0x41, 26, 1, 0x61⟩ :: lowerRanges.tail := rfl
  have hletter : CaseRange.has ⟨0x41, 26, 1, 0x61⟩ c = true ↔ 0x41 ≤ c ∧ c ≤ 0x5A := by
    unfold CaseRange.has
    rw [decide_eq_true_eq]
    dsimp only
    omega
  unfold lowerCode asciiLower
  by_cases hcapital : 0x41 ≤ c ∧ c ≤ 0x5A
  · have hfirst : lowerRanges.find? (·.has c) = some ⟨0x41, 26, 1, 0x61⟩ := by
      rw [hsplit]
      exact List.find?_cons_of_pos (hletter.2 hcapital)
    rw [hfirst, if_pos hcapital]
    dsimp only
    omega
  · have hnone : lowerRanges.find? (·.has c) = none := by
      rw [hsplit, ← hothers]
      exact List.find?_cons_of_neg fun hhas ↦ hcapital (hletter.1 hhas)
    rw [hnone, if_neg hcapital]

theorem map_lowerCode {t : Text} (h : ∀ c ∈ t, c < 128) : t.map lowerCode = t.map asciiLower :=
  List.map_congr_left fun c hc ↦ lowerCode_ascii (h c hc)

def lowerAt (endsWord : Bool) (c : Nat) : Text :=
  -- a capital I with a dot is the one that becomes two
  if c = 0x130 then [0x69, 0x307]
  else if c = 0x3A3 then [if endsWord then 0x3C2 else 0x3C3]
  else [lowerCode c]

section Lower

/- Whether a capital sigma between two texts, the first one in reverse, ends a word. -/
variable (endsWord : Text → Text → Bool)

def lowerFrom (before : Text) : Text → Text
  | [] => []
  | c :: rest => lowerAt (endsWord before rest) c ++ lowerFrom (c :: before) rest

def lower (t : Text) : Text := lowerFrom endsWord [] t

end Lower

/-- A term of ASCII that does not end in the letter which a dotted capital I begins with. -/
def Plain (term : Text) : Prop := (∀ c ∈ term, c < 128) ∧ term.getLast? ≠ some 0x69

instance (term : Text) : Decidable (Plain term) :=
  inferInstanceAs (Decidable ((∀ c ∈ term, c < 128) ∧ term.getLast? ≠ some 0x69))

theorem Plain.tail {c : Nat} {term : Text} (h : Plain (c :: term)) : Plain term := by
  constructor
  · intro d hd
    exact h.1 d (List.mem_cons_of_mem c hd)
  · intro hlast
    cases term with
    | nil => cases hlast
    | cons d term => exact h.2 hlast

section PlainTerms

variable {endsWord : Text → Text → Bool} {term : Text}

theorem lowerCode_dotted : lowerCode 0x130 = 0x130 := by decide +kernel

theorem lowerCode_sigma : lowerCode 0x3A3 = 0x3C3 := by decide +kernel

theorem exists_prefix_lower_cons {c x : Nat} {t : Text} :
    (∃ u, u <+: c :: t ∧ u.map lowerCode = x :: term) ↔
      lowerCode c = x ∧ ∃ u, u <+: t ∧ u.map lowerCode = term := by
  constructor
  · intro ⟨u, hu, hterm⟩
    cases u with
    | nil => cases hterm
    | cons d u =>
        obtain ⟨hsame, htail⟩ := List.cons_prefix_cons.1 hu
        obtain ⟨hd, hrest⟩ := List.cons.inj hterm
        exact ⟨hsame ▸ hd, u, htail, hrest⟩
  · intro ⟨hd, u, hu, hrest⟩
    exact ⟨c :: u, List.cons_prefix_cons.2 ⟨rfl, hu⟩, congrArg₂ _ hd hrest⟩

/-- In lower case a term is found where its letters are, each in any case. -/
theorem prefix_lowerFrom_iff (h : Plain term) (before t : Text) :
    term <+: lowerFrom endsWord before t ↔ ∃ u, u <+: t ∧ u.map lowerCode = term := by
  induction t generalizing before term with
  | nil =>
      rw [lowerFrom, List.prefix_nil]
      constructor
      · intro hnil
        exact ⟨[], List.nil_prefix, hnil.symm⟩
      · intro ⟨u, hu, hterm⟩
        rw [List.prefix_nil.1 hu] at hterm
        exact hterm.symm
  | cons c t ih =>
      cases term with
      | nil => exact ⟨fun _ ↦ ⟨[], List.nil_prefix, rfl⟩, fun _ ↦ List.nil_prefix⟩
      | cons x term =>
          have hx : x < 128 := h.1 x List.mem_cons_self
          rw [exists_prefix_lower_cons, lowerFrom, lowerAt]
          by_cases hdotted : c = 0x130
          · rw [if_pos hdotted, hdotted, lowerCode_dotted]
            constructor
            · intro hprefix
              -- the dot above is not in the term, and the term does not end before it
              obtain ⟨rfl, hrest⟩ := List.cons_prefix_cons.1 hprefix
              cases term with
              | nil => exact absurd rfl h.2
              | cons y term =>
                  obtain ⟨rfl, -⟩ := List.cons_prefix_cons.1 hrest
                  exact absurd (h.1 0x307 (by simp)) (by decide)
            · intro ⟨hbig, _⟩
              omega
          · rw [if_neg hdotted]
            by_cases hsigma : c = 0x3A3
            · rw [if_pos hsigma, hsigma, lowerCode_sigma]
              constructor
              · intro hprefix
                have hsmall := (List.cons_prefix_cons.1 hprefix).1
                split_ifs at hsmall
                · omega
                · omega
              · intro ⟨hbig, _⟩
                omega
            · rw [if_neg hsigma, List.singleton_append, List.cons_prefix_cons, ih h.tail]
              exact and_congr_left fun _ ↦ eq_comm

theorem infix_lowerFrom_iff (h : Plain term) (hne : term ≠ []) (before t : Text) :
    term <:+: lowerFrom endsWord before t ↔ ∃ u, u <:+: t ∧ u.map lowerCode = term := by
  induction t generalizing before with
  | nil =>
      rw [lowerFrom, List.infix_nil]
      constructor
      · intro hnil
        exact absurd hnil hne
      · intro ⟨u, hu, hterm⟩
        rw [List.infix_nil.1 hu] at hterm
        exact hterm.symm
  | cons c t ih =>
      have hright : (∃ u, u <:+: c :: t ∧ u.map lowerCode = term) ↔
          (∃ u, u <+: c :: t ∧ u.map lowerCode = term) ∨
            ∃ u, u <:+: t ∧ u.map lowerCode = term := by
        simp only [List.infix_cons_iff, or_and_right, exists_or]
      rw [hright, ← ih (c :: before), ← prefix_lowerFrom_iff h before (c :: t), lowerFrom, lowerAt]
      by_cases hdotted : c = 0x130
      · rw [if_pos hdotted]
        show term <:+: 0x69 :: 0x307 :: _ ↔ _
        rw [List.infix_cons_iff, List.infix_cons_iff]
        constructor
        · intro hfound
          rcases hfound with hfirst | hsecond | hlater
          · exact .inl hfirst
          · cases term with
            | nil => exact absurd rfl hne
            | cons x term =>
                obtain ⟨rfl, -⟩ := List.cons_prefix_cons.1 hsecond
                exact absurd (h.1 0x307 List.mem_cons_self) (by decide)
          · exact .inr hlater
        · intro hfound
          exact hfound.imp_right .inr
      · rw [if_neg hdotted]
        by_cases hsigma : c = 0x3A3
        · rw [if_pos hsigma, List.singleton_append, List.infix_cons_iff]
        · rw [if_neg hsigma, List.singleton_append, List.infix_cons_iff]

theorem infix_lower_iff (h : Plain term) (hne : term ≠ []) (t : Text) :
    term <:+: lower endsWord t ↔ ∃ u, u <:+: t ∧ u.map lowerCode = term :=
  infix_lowerFrom_iff h hne [] t

end PlainTerms

/-- The text of valid code points as a string. -/
def string (t : Text) : String := String.ofList (t.map Char.ofNat)

/-! ## Stripping -/

/-- `str.isspace`, which takes four separators that `int` does not. -/
def isSpace (c : Nat) : Bool := (PyInt.spaces ++ [0x1C, 0x1D, 0x1E, 0x1F]).contains c

def strip (t : Text) : Text := (t.dropWhile isSpace).rdropWhile isSpace

/-- `t.strip(chars)`. -/
def stripChars (chars t : Text) : Text := (t.dropWhile chars.contains).rdropWhile chars.contains

/-! ## Replacement -/

section Replace

variable {α : Type*} [DecidableEq α]

def replaceFrom (old new : List α) : (skip : Nat) → List α → List α
  | _, [] => []
  | skip + 1, _ :: t => replaceFrom old new skip t
  | 0, c :: t =>
      if old <+: c :: t then new ++ replaceFrom old new (old.length - 1) t
      else c :: replaceFrom old new 0 t

/-- `t.replace(old, new)`, for a term that is not empty. -/
def replace (old new t : List α) : List α := replaceFrom old new 0 t

variable {old new : List α}

theorem replaceFrom_skip (skip : Nat) (t : List α) :
    replaceFrom old new skip t = replace old new (t.drop skip) := by
  induction skip generalizing t with
  | zero => rfl
  | succ skip ih =>
      cases t with
      | nil => rfl
      | cons c t => exact ih t

@[simp] theorem replace_nil : replace old new [] = [] := rfl

theorem replace_append (hold : old ≠ []) (rest : List α) :
    replace old new (old ++ rest) = new ++ replace old new rest := by
  cases old with
  | nil => exact absurd rfl hold
  | cons c old =>
      have hprefix : c :: old <+: c :: (old ++ rest) := List.prefix_append (c :: old) rest
      rw [List.cons_append, replace, replaceFrom, if_pos hprefix, replaceFrom_skip,
        List.length_cons, Nat.add_sub_cancel, List.drop_left]

theorem replace_cons {c : α} {t : List α} (h : ¬ old <+: c :: t) :
    replace old new (c :: t) = c :: replace old new t := by
  rw [replace, replaceFrom, if_neg h]
  rfl

/-- The text begins with the term, which goes as a whole, or with a character that stays. -/
theorem replace_induction (hold : old ≠ []) {motive : List α → Prop} (nil : motive [])
    (found : ∀ rest, motive rest → motive (old ++ rest))
    (kept : ∀ c t, ¬ old <+: c :: t → motive t → motive (c :: t)) (t : List α) : motive t := by
  induction h : t.length using Nat.strong_induction_on generalizing t with
  | _ n ih =>
      cases t with
      | nil => exact nil
      | cons c t =>
          by_cases hprefix : old <+: c :: t
          · obtain ⟨rest, hrest⟩ := hprefix
            have hshorter : rest.length < n := by
              have hlength := congrArg List.length hrest
              have hpos := List.length_pos_iff.2 hold
              rw [List.length_append] at hlength
              omega
            rw [← hrest]
            exact found rest (ih _ hshorter rest rfl)
          · have hshorter : t.length < n := by
              rw [← h, List.length_cons]
              omega
            exact kept c t hprefix (ih _ hshorter t rfl)

end Replace

end PyText
