import RetailMedia.Lib.JsonText
import RetailMedia.Lib.Sha256
import Mathlib.Data.List.Forall2

/-! The pieces of `json.dumps`, and that `json.loads` reads each of them back. -/

namespace JsonText

/-! ## Writing -/

/-- `ensure_ascii` and the separators. -/
structure Style where
  ascii : Bool
  comma : Text
  colon : Text

def hexCode (d : Nat) : Nat := if d < 10 then 48 + d else 87 + d

def escapeUnit (u : Nat) : Text :=
  [backslash, 117, hexCode (u / 4096), hexCode (u / 256 % 16), hexCode (u / 16 % 16),
    hexCode (u % 16)]

/-- The characters that have an escape of their own. -/
def shortEscape (c : Nat) : Option Nat :=
  if c = 34 ∨ c = 92 then some c
  else if c = 10 then some 110
  else if c = 13 then some 114
  else if c = 9 then some 116
  else if c = 8 then some 98
  else if c = 12 then some 102
  else none

/-- One code point inside a string; above the basic plane an escape takes a surrogate pair. -/
def escapeText (ascii : Bool) (c : Nat) : Text :=
  match shortEscape c with
  | some e => [backslash, e]
  | none =>
      if c < 32 then escapeUnit c
      else if ¬ ascii ∨ c < 127 then [c]
      else if c < 65536 then escapeUnit c
      else
        escapeUnit (55296 + (c - 65536) / 1024) ++ escapeUnit (56320 + (c - 65536) % 1024)

def escaped (ascii : Bool) (t : Text) : Text := t.flatMap (escapeText ascii)

def quote (ascii : Bool) (t : Text) : Text := quoteMark :: (escaped ascii t ++ [quoteMark])

def intText (n : Int) : Text := codes (toString n)

def arrayText (style : Style) (items : List Text) : Text :=
  91 :: (style.comma.intercalate items ++ [93])

def memberText (style : Style) (m : Text × Text) : Text :=
  quote style.ascii m.1 ++ style.colon ++ m.2

def objectText (style : Style) (members : List (Text × Text)) : Text :=
  123 :: (style.comma.intercalate (members.map (memberText style)) ++ [125])

def encodeUtf8 (t : Text) : List UInt8 := (t.flatMap Sha256.utf8Char).map UInt8.ofNat

/-! ## Reading back -/

/-- A code point that is no surrogate. -/
def Scalar (c : Nat) : Prop := c < 55296 ∨ 57344 ≤ c ∧ c < 1114112

theorem scalar_codes (s : String) : ∀ c ∈ codes s, Scalar c := by
  intro c hc
  obtain ⟨ch, -, rfl⟩ := List.mem_map.1 hc
  rcases ch.valid with h | ⟨h, h'⟩
  · exact .inl h
  · exact .inr ⟨Nat.succ_le_of_lt h, h'⟩

/-- What may follow a value: nothing that would make a numeral longer. -/
def Stops (rest : Text) : Prop := ∀ c ∈ rest.head?, ¬ digit c ∧ c ≠ 46 ∧ c ≠ 101 ∧ c ≠ 69

theorem stops_cons {c : Nat} (h : ¬ digit c ∧ c ≠ 46 ∧ c ≠ 101 ∧ c ≠ 69) (rest : Text) :
    Stops (c :: rest) := by
  intro d hd
  rw [← Option.some.inj hd]
  exact h

/-- How a value may begin: with no blank, and with nothing that closes a container. -/
def Opens (c : Nat) : Prop := blank c = false ∧ c ≠ 93 ∧ c ≠ 125

/-- The scanner reads the text as the value, whatever comes after it. -/
structure Reads {α : Type} (p : Text → Parsed α) (text : Text) (x : α) : Prop where
  head : ∃ c tail, text = c :: tail ∧ Opens c
  scans : ∀ rest, Stops rest → p (text ++ rest) = .ok (x, rest)

theorem Reads.skipBlanks {α : Type} {p : Text → Parsed α} {text : Text} {x : α}
    (h : Reads p text x) (rest : Text) : skipBlanks (text ++ rest) = text ++ rest := by
  obtain ⟨c, tail, rfl, hc⟩ := h.head
  unfold JsonText.skipBlanks
  rw [List.cons_append, List.dropWhile_cons_of_neg (by rw [hc.1]; decide)]

/-! ### Strings -/

theorem hexDigit_hexCode : ∀ d < 16, hexDigit (hexCode d) = some d := by decide

theorem hexUnit_escape {u : Nat} (h : u < 65536) :
    hexUnit (hexCode (u / 4096)) (hexCode (u / 256 % 16)) (hexCode (u / 16 % 16))
      (hexCode (u % 16)) = some u := by
  unfold hexUnit
  rw [hexDigit_hexCode _ (by omega), hexDigit_hexCode _ (by omega), hexDigit_hexCode _ (by omega),
    hexDigit_hexCode _ (by omega)]
  have hsum : ((u / 4096 * 16 + u / 256 % 16) * 16 + u / 16 % 16) * 16 + u % 16 = u := by omega
  exact congrArg some hsum

theorem scanUnits_escapeUnit {u : Nat} (h : u < 65536) (rest : Text) :
    scanUnits (escapeUnit u ++ rest) = Parsed.cons ⟨u, true⟩ (scanUnits rest) := by
  show scanUnits (backslash :: 117 :: _ :: _ :: _ :: _ :: rest) = _
  rw [scanUnits.eq_def]
  dsimp only
  rw [if_neg (by decide), if_pos rfl, if_pos rfl, hexUnit_escape h]

theorem scanUnits_short {c e : Nat} (h : shortEscape c = some e) (rest : Text) :
    scanUnits (backslash :: e :: rest) = Parsed.cons ⟨c, false⟩ (scanUnits rest) := by
  have hcode : e ≠ 117 ∧ escapeCode e = some c := by
    unfold shortEscape at h
    split at h
    · rename_i hc
      rw [← Option.some.inj h]
      rcases hc with rfl | rfl <;> decide
    · split_ifs at h with h10 h13 h9 h8 h12 <;>
        exact Option.some.inj h ▸ by subst c; decide
  rw [scanUnits.eq_def]
  dsimp only
  rw [if_neg (by decide), if_pos rfl, if_neg hcode.1, hcode.2]

theorem scanUnits_plain {c : Nat} (hq : c ≠ quoteMark) (hb : c ≠ backslash) (hc : ¬ c < 32)
    (rest : Text) : scanUnits (c :: rest) = Parsed.cons ⟨c, false⟩ (scanUnits rest) := by
  rw [scanUnits.eq_def]
  dsimp only
  rw [if_neg hq, if_neg hb, if_neg hc]

/-- What the scanner makes of an escaped code point. -/
def unitsOf (ascii : Bool) (c : Nat) : List CodeUnit :=
  if (shortEscape c).isSome then [⟨c, false⟩]
  else if c < 32 then [⟨c, true⟩]
  else if ¬ ascii ∨ c < 127 then [⟨c, false⟩]
  else if c < 65536 then [⟨c, true⟩]
  else [⟨55296 + (c - 65536) / 1024, true⟩, ⟨56320 + (c - 65536) % 1024, true⟩]

def Parsed.prepend {α : Type} (xs : List α) (p : Parsed (List α)) : Parsed (List α) :=
  xs.foldr Parsed.cons p

theorem scanUnits_escapeText (ascii : Bool) {c : Nat} (hc : Scalar c) (rest : Text) :
    scanUnits (escapeText ascii c ++ rest) = (scanUnits rest).prepend (unitsOf ascii c) := by
  unfold escapeText unitsOf
  cases hshort : shortEscape c with
  | some e => exact scanUnits_short hshort rest
  | none =>
      have hquote : c ≠ 34 ∧ c ≠ 92 := by
        unfold shortEscape at hshort
        split at hshort
        · cases hshort
        · rename_i hne
          exact not_or.1 hne
      have hnone : ¬ (none : Option Nat).isSome = true := by decide
      dsimp only
      rw [if_neg hnone]
      by_cases h32 : c < 32
      · rw [if_pos h32, if_pos h32]
        exact scanUnits_escapeUnit (by omega) rest
      rw [if_neg h32, if_neg h32]
      by_cases hascii : ¬ ascii ∨ c < 127
      · rw [if_pos hascii, if_pos hascii]
        exact scanUnits_plain hquote.1 hquote.2 h32 rest
      rw [if_neg hascii, if_neg hascii]
      by_cases hbasic : c < 65536
      · rw [if_pos hbasic, if_pos hbasic]
        exact scanUnits_escapeUnit hbasic rest
      -- both halves of the pair are units
      rw [if_neg hbasic, if_neg hbasic, List.append_assoc]
      have hmax : c < 1114112 := by
        rcases hc with h | h <;> omega
      rw [scanUnits_escapeUnit (by omega), scanUnits_escapeUnit (by omega)]
      rfl

theorem scanUnits_escaped (ascii : Bool) {t : Text} (ht : ∀ c ∈ t, Scalar c) (rest : Text) :
    scanUnits (escaped ascii t ++ quoteMark :: rest) =
      .ok (t.flatMap (unitsOf ascii), rest) := by
  induction t with
  | nil =>
      show scanUnits (quoteMark :: rest) = _
      rw [scanUnits.eq_def]
      rfl
  | cons c t ih =>
      have hrest : escaped ascii (c :: t) = escapeText ascii c ++ escaped ascii t := rfl
      have hprepend (us vs : List CodeUnit) :
          Parsed.prepend us (.ok (vs, rest)) = .ok (us ++ vs, rest) := by
        induction us with
        | nil => rfl
        | cons u us ih => exact congrArg (Parsed.cons u) ih
      rw [hrest, List.append_assoc, scanUnits_escapeText ascii (ht c List.mem_cons_self),
        ih fun d hd ↦ ht d (List.mem_cons_of_mem c hd), hprepend]
      rfl

theorem joinEscapes_single {u : CodeUnit} (h : ¬ (u.escaped ∧ highSurrogate u.code))
    (us : List CodeUnit) : joinEscapes (u :: us) = u.code :: joinEscapes us := by
  cases us with
  | nil => rfl
  | cons v us =>
      rw [joinEscapes, if_neg fun hpair ↦ h ⟨hpair.1, hpair.2.2.1⟩]

/-- A surrogate is written for one half of a pair only, and the pair is joined again. -/
theorem joinEscapes_unitsOf (ascii : Bool) {c : Nat} (hc : Scalar c) (us : List CodeUnit) :
    joinEscapes (unitsOf ascii c ++ us) = c :: joinEscapes us := by
  have hscalar (escaped : Bool) :
      ¬ ((CodeUnit.mk c escaped).escaped ∧ highSurrogate (CodeUnit.mk c escaped).code) := by
    rintro ⟨-, hhigh⟩
    have hrange := of_decide_eq_true hhigh
    dsimp only at hrange
    rcases hc with h | h <;> omega
  unfold unitsOf
  split
  · exact joinEscapes_single (hscalar _) us
  split
  · exact joinEscapes_single (hscalar _) us
  split
  · exact joinEscapes_single (hscalar _) us
  split
  · exact joinEscapes_single (hscalar _) us
  · rename_i hbasic
    have hmax : c < 1114112 := by
      rcases hc with h | h <;> omega
    have hpair : joinPair (55296 + (c - 65536) / 1024) (56320 + (c - 65536) % 1024) = c := by
      unfold joinPair
      omega
    have hhigh : highSurrogate (55296 + (c - 65536) / 1024) = true :=
      decide_eq_true ⟨by omega, by omega⟩
    have hlow : lowSurrogate (56320 + (c - 65536) % 1024) = true :=
      decide_eq_true ⟨by omega, by omega⟩
    show joinEscapes (_ :: _ :: us) = _
    rw [joinEscapes, if_pos ⟨rfl, rfl, hhigh, hlow⟩, hpair]

theorem joinEscapes_flatMap (ascii : Bool) {t : Text} (ht : ∀ c ∈ t, Scalar c) :
    joinEscapes (t.flatMap (unitsOf ascii)) = t := by
  induction t with
  | nil => rfl
  | cons c t ih =>
      rw [List.flatMap_cons, joinEscapes_unitsOf ascii (ht c List.mem_cons_self),
        ih fun d hd ↦ ht d (List.mem_cons_of_mem c hd)]

/-- What is written between quotes is read back, whatever comes after it. -/
theorem scanString_escaped (ascii : Bool) {t : Text} (ht : ∀ c ∈ t, Scalar c) (rest : Text) :
    scanString (escaped ascii t ++ quoteMark :: rest) = .ok (t, rest) := by
  unfold scanString
  rw [scanUnits_escaped ascii ht]
  dsimp only
  rw [joinEscapes_flatMap ascii ht]

/-! ### Integers -/

def natText (n : Nat) : Text := (Nat.toDigits 10 n).map (·.toNat)

theorem intText_nonneg (n : Nat) : intText n = natText n := by
  show codes (Nat.repr n) = _
  unfold codes natText
  rw [Nat.toList_repr]

theorem intText_neg (n : Nat) : intText (Int.negSucc n) = 45 :: natText (n + 1) := by
  show codes ("-" ++ Nat.repr (n + 1)) = _
  unfold codes natText
  rw [String.toList_append, Nat.toList_repr]
  rfl

theorem digit_natText {n d : Nat} (h : d ∈ natText n) : digit d = true := by
  obtain ⟨c, hc, rfl⟩ := List.mem_map.1 h
  have hdigit := Nat.isDigit_of_mem_toDigits (by decide) (by decide) hc
  simpa [Char.isDigit, UInt32.le_iff_toNat_le, digit] using hdigit

theorem natText_ne_nil (n : Nat) : natText n ≠ [] := by
  unfold natText
  simp

/-- A positive number does not start with a zero. -/
theorem natText_head {n : Nat} (h : 0 < n) : (natText n).head? ≠ some 48 := by
  induction n using Nat.strong_induction_on with
  | h n ih =>
      unfold natText
      by_cases hlt : n < 10
      · have hsmall : ∀ d < 10, 0 < d → ([d.digitChar].map (·.toNat)).head? ≠ some 48 := by
          decide
        rw [Nat.toDigits_of_lt_base hlt]
        exact hsmall n hlt h
      · have hdiv : 0 < n / 10 := by omega
        have hrec := ih (n / 10) (by omega) hdiv
        have hne := natText_ne_nil (n / 10)
        rw [Nat.toDigits_of_base_le (by decide) (by omega), List.map_append]
        change (natText (n / 10) ++ _).head? ≠ some 48
        rwa [List.head?_append_of_ne_nil _ hne]

theorem natOf_natText (n : Nat) : natOf (natText n) = n := by
  have hfold : natOf (natText n) = Nat.ofDigitChars 10 (Nat.toDigits 10 n) 0 := by
    unfold natOf natText
    rw [Nat.ofDigitChars_eq_foldl, List.foldl_map]
    exact congrArg (fun f ↦ List.foldl f 0 _) (funext fun a ↦ funext fun c ↦ by
      rw [Nat.mul_comm]
      rfl)
  rw [hfold, Nat.ofDigitChars_ten_toDigits]

theorem takeWhile_stops {rest : Text} (h : Stops rest) : rest.takeWhile digit = [] := by
  cases rest with
  | nil => rfl
  | cons c rest =>
      have hc := (h c rfl).1
      rw [List.takeWhile_cons_of_neg hc]

theorem wholePart_natText (n : Nat) {rest : Text} (h : Stops rest) :
    wholePart (natText n ++ rest) = natText n := by
  rcases Nat.eq_zero_or_pos n with rfl | hpos
  · rfl
  · have hall : (natText n ++ rest).takeWhile digit = natText n := by
      rw [List.takeWhile_append_of_pos fun d hd ↦ digit_natText hd, takeWhile_stops h,
        List.append_nil]
    have hhead := natText_head hpos
    have hne := natText_ne_nil n
    rcases htext : natText n with _ | ⟨d, ds⟩
    · exact absurd htext hne
    · rw [htext] at hhead hall
      unfold wholePart
      split
      · rename_i tail heq
        exact absurd (congrArg List.head? heq) hhead
      · exact hall

theorem unsignedNumeral_natText (negative : Bool) (n : Nat) {rest : Text} (h : Stops rest) :
    unsignedNumeral negative (natText n ++ rest) =
      some (⟨negative, natText n, [], none⟩, rest) := by
  have hfraction : fractionPart rest = ([], rest) := by
    unfold fractionPart
    split
    · exact absurd rfl (h 46 rfl).2.1
    · rfl
  have hexponent : exponentPart rest = (none, rest) := by
    cases rest with
    | nil => rfl
    | cons e rest =>
        have he := (h e rfl).2.2
        exact if_neg fun hsome ↦ hsome.1.elim he.1 he.2
  unfold unsignedNumeral
  rw [wholePart_natText n h, if_neg (natText_ne_nil n), List.drop_left, hfraction]
  dsimp only
  rw [hexponent]

theorem scanNumber_of_numeral {limits : Limits} {cs rest : Text} {negative : Bool} {n : Nat}
    (hlimit : (natText n).length ≤ limits.digits)
    (h : numeral cs = some (⟨negative, natText n, [], none⟩, rest)) :
    scanNumber limits cs = .ok (.int (signed negative n), rest) := by
  unfold scanNumber
  rw [h]
  unfold Numeral.value
  dsimp only
  rw [if_neg (by simp), if_neg (Nat.not_lt.2 hlimit), natOf_natText]

/-- An integer that the interpreter's limit admits is read back. -/
theorem scanNumber_intText {limits : Limits} {n : Int}
    (hlimit : (natText n.natAbs).length ≤ limits.digits) {rest : Text} (h : Stops rest) :
    scanNumber limits (intText n ++ rest) = .ok (.int n, rest) := by
  cases n with
  | ofNat n =>
      have hplain : numeral (natText n ++ rest) = unsignedNumeral false (natText n ++ rest) := by
        rcases htext : natText n with _ | ⟨d, ds⟩
        · exact absurd htext (natText_ne_nil n)
        · have hd := digit_natText (htext ▸ List.mem_cons_self : d ∈ natText n)
          unfold numeral
          split
          · rename_i tail heq
            rw [List.cons_append] at heq
            have hminus : d = 45 := (List.cons.inj heq).1
            rw [hminus] at hd
            exact absurd hd (by decide)
          · rfl
      have hread := scanNumber_of_numeral hlimit
        (hplain.trans (unsignedNumeral_natText false n h))
      rw [Int.ofNat_eq_natCast, intText_nonneg]
      exact hread
  | negSucc n =>
      have hread := scanNumber_of_numeral hlimit
        (show numeral (45 :: (natText (n + 1) ++ rest)) = _ from
          unsignedNumeral_natText true (n + 1) h)
      rw [intText_neg]
      exact hread

theorem length_natText_le {n k : Nat} (hk : 0 < k) (h : n < 10 ^ k) : (natText n).length ≤ k := by
  unfold natText
  rw [List.length_map]
  exact (Nat.length_toDigits_le_iff (by decide) hk).2 h

/-! ### Values -/

theorem reads_string (limits : Limits) (inner : Option (Text → Parsed Value)) (ascii : Bool)
    {t : Text} (ht : ∀ c ∈ t, Scalar c) :
    Reads (scanWith limits inner) (quote ascii t) (.str t) where
  head := ⟨quoteMark, _, rfl, by decide, by decide, by decide⟩
  scans := by
    intro rest hrest
    have happend : quote ascii t ++ rest =
        quoteMark :: (escaped ascii t ++ quoteMark :: rest) := by
      unfold quote
      simp
    rw [happend]
    unfold scanWith
    dsimp only
    rw [if_pos rfl, scanString_escaped ascii ht]

theorem keywords_letters : ∀ w ∈ keywords,
    2 ≤ w.1.length ∧ (∀ c ∈ w.1.head?, ¬ digit c) ∧ ∀ c ∈ w.1.tail.head?, ¬ digit c := by
  decide

/-- No word stands where a digit is the first character or the second. -/
theorem find_keyword_none {c : Nat} {tail : Text}
    (h : digit c = true ∨ ∃ d ∈ tail.head?, digit d = true) :
    keywords.find? (fun w ↦ w.1 <+: c :: tail) = none := by
  rw [List.find?_eq_none]
  intro w hw hprefix
  obtain ⟨hlen, hhead, hsecond⟩ := keywords_letters w hw
  have hp : w.1 <+: c :: tail := of_decide_eq_true hprefix
  rcases htext : w.1 with _ | ⟨a, _ | ⟨b, ws⟩⟩
  · rw [htext] at hlen
    exact absurd hlen (by decide)
  · rw [htext, List.length_singleton] at hlen
    exact absurd hlen (by decide)
  · rw [htext] at hp hhead hsecond
    obtain ⟨rfl, tail', heq⟩ := List.cons_prefix_cons.1 hp
    rcases h with h | ⟨d, hd, h⟩
    · exact hhead a rfl h
    · rw [← heq] at hd
      exact hsecond b rfl (Option.some.inj hd ▸ h)

theorem scanWith_number (limits : Limits) (inner : Option (Text → Parsed Value)) {c : Nat}
    {tail : Text} (hc : digit c = true ∨ c = 45)
    (hfind : keywords.find? (fun w ↦ w.1 <+: c :: tail) = none) :
    scanWith limits inner (c :: tail) = scanNumber limits (c :: tail) := by
  have hne : c ≠ quoteMark ∧ c ≠ 123 ∧ c ≠ 91 := by
    rcases hc with h | rfl
    · have hrange := of_decide_eq_true h
      unfold quoteMark
      omega
    · decide
  unfold scanWith
  dsimp only
  rw [if_neg hne.1, if_neg hne.2.1, if_neg hne.2.2, hfind]

theorem reads_int {limits : Limits} (inner : Option (Text → Parsed Value)) {n : Int}
    (hlimit : (natText n.natAbs).length ≤ limits.digits) :
    Reads (scanWith limits inner) (intText n) (.int n) := by
  -- a digit, or a minus and a digit
  have hshape : ∃ c tail, intText n = c :: tail ∧ (digit c = true ∨ c = 45) ∧
      (digit c = true ∨ ∃ d ∈ tail.head?, digit d = true) := by
    cases n with
    | ofNat n =>
        rcases htext : natText n with _ | ⟨d, ds⟩
        · exact absurd htext (natText_ne_nil n)
        · have hd := digit_natText (htext ▸ List.mem_cons_self : d ∈ natText n)
          exact ⟨d, ds, (intText_nonneg n).trans htext, .inl hd, .inl hd⟩
    | negSucc n =>
        rcases htext : natText (n + 1) with _ | ⟨d, ds⟩
        · exact absurd htext (natText_ne_nil (n + 1))
        · have hd := digit_natText (htext ▸ List.mem_cons_self : d ∈ natText (n + 1))
          exact ⟨45, d :: ds, (intText_neg n).trans (congrArg _ htext), .inr rfl, .inr ⟨d, rfl, hd⟩⟩
  obtain ⟨c, tail, htext, hc, hsecond⟩ := hshape
  constructor
  · refine ⟨c, tail, htext, ?_⟩
    rcases hc with h | rfl
    · have hrange := of_decide_eq_true h
      exact ⟨decide_eq_false (by omega), by omega, by omega⟩
    · exact ⟨by decide, by decide, by decide⟩
  · intro rest hrest
    have hread := scanNumber_intText hlimit hrest
    rw [htext, List.cons_append] at hread ⊢
    rw [scanWith_number limits inner hc, hread]
    apply find_keyword_none
    rcases hsecond with h | ⟨d, hd, h⟩
    · exact .inl h
    · refine .inr ⟨d, ?_, h⟩
      rw [Option.mem_def] at hd ⊢
      rw [List.head?_append, hd]
      rfl

theorem keywords_head : ∀ w ∈ keywords, ∀ c ∈ w.1.head?,
    c ≠ quoteMark ∧ c ≠ 123 ∧ c ≠ 91 ∧ blank c = false ∧ c ≠ 93 ∧ c ≠ 125 := by
  decide

theorem keywords_prefix_free : ∀ v ∈ keywords, ∀ w ∈ keywords, v.1 <+: w.1 → v = w := by
  decide +kernel

theorem find_keyword {w : Text × Value} (hw : w ∈ keywords) (rest : Text) :
    keywords.find? (fun v ↦ v.1 <+: w.1 ++ rest) = some w := by
  have hself : w.1 <+: w.1 ++ rest := List.prefix_append w.1 rest
  cases hfind : keywords.find? (fun v ↦ v.1 <+: w.1 ++ rest) with
  | none => exact absurd (decide_eq_true hself) (List.find?_eq_none.1 hfind w hw)
  | some v =>
      have hv := List.mem_of_find?_eq_some hfind
      have hp : v.1 <+: w.1 ++ rest := by simpa using List.find?_some hfind
      rcases List.prefix_or_prefix_of_prefix hp hself with h | h
      · exact congrArg some (keywords_prefix_free v hv w hw h)
      · exact congrArg some (keywords_prefix_free w hw v hv h).symm

theorem reads_keyword (limits : Limits) (inner : Option (Text → Parsed Value)) {w : Text × Value}
    (hw : w ∈ keywords) : Reads (scanWith limits inner) w.1 w.2 := by
  have hhead := keywords_head w hw
  have hfind := find_keyword hw
  rcases htext : w.1 with _ | ⟨c, tail⟩
  · exact absurd htext (keywords_nonempty w hw)
  · rw [htext] at hhead hfind
    obtain ⟨hq, hbrace, hbracket, hopens⟩ := hhead c rfl
    refine ⟨⟨c, tail, rfl, hopens⟩, fun rest _ ↦ ?_⟩
    rw [List.cons_append]
    unfold scanWith
    dsimp only
    rw [if_neg hq, if_neg hbrace, if_neg hbracket, ← List.cons_append, hfind rest]
    dsimp only
    rw [htext, List.drop_left]

/-! ### Containers -/

/-- A separator as it is written: its character and blanks. -/
def Separates (mark : Nat) (sep : Text) : Prop := ∃ blanks, sep = mark :: blanks ∧
  ∀ b ∈ blanks, blank b = true

theorem skipBlanks_blanks {blanks : Text} (h : ∀ b ∈ blanks, blank b = true) (rest : Text) :
    skipBlanks (blanks ++ rest) = skipBlanks rest := by
  unfold skipBlanks
  exact List.dropWhile_append_of_pos h

theorem skipBlanks_mark {c : Nat} (h : blank c = false) (rest : Text) :
    skipBlanks (c :: rest) = c :: rest := by
  unfold skipBlanks
  rw [List.dropWhile_cons_of_neg (by rw [h]; decide)]

/-- A closing bracket or brace. -/
structure Closes (close : Nat) : Prop where
  solid : blank close = false
  noComma : close ≠ 44
  stops : ¬ digit close ∧ close ≠ 46 ∧ close ≠ 101 ∧ close ≠ 69

theorem intercalate_start (sep text : Text) (texts : List Text) :
    ∃ tail, sep.intercalate (text :: texts) = text ++ tail := by
  cases texts with
  | nil => exact ⟨[], by simp⟩
  | cons t ts => exact ⟨sep ++ sep.intercalate (t :: ts), by simp⟩

/-- Every item takes some text, so the text's length is fuel enough for the items. -/
theorem length_le_intercalate {α : Type} {p : Text → Parsed α} (sep : Text) {texts : List Text}
    {xs : List α} (h : List.Forall₂ (Reads p) texts xs) :
    texts.length ≤ (sep.intercalate texts).length := by
  induction h with
  | nil => exact Nat.zero_le _
  | cons hfirst hothers ih =>
      rename_i text x texts xs
      obtain ⟨c, tail, rfl, -⟩ := hfirst.head
      cases texts with
      | nil => simp
      | cons t ts =>
          rw [List.intercalate_cons_cons]
          simp only [List.length_append, List.length_cons] at ih ⊢
          omega

theorem scanSeparated_intercalate {α : Type} {p : Text → Parsed α} {close : Nat}
    (hclose : Closes close) {sep : Text} (hsep : Separates 44 sep) {text : Text}
    {texts : List Text} {x : α} {xs : List α}
    (h : List.Forall₂ (Reads p) (text :: texts) (x :: xs)) {fuel : Nat}
    (hfuel : texts.length < fuel) (rest : Text) :
    scanSeparated close p fuel (sep.intercalate (text :: texts) ++ close :: rest) =
      .ok (x :: xs, rest) := by
  induction fuel generalizing text texts x xs with
  | zero => exact absurd hfuel (Nat.not_lt_zero _)
  | succ fuel ih =>
      cases h with
      | cons hfirst hothers =>
          cases hothers with
          | nil =>
              rw [List.intercalate_singleton, scanSeparated,
                hfirst.scans _ (stops_cons hclose.stops rest)]
              dsimp only
              rw [skipBlanks_mark hclose.solid]
              exact if_pos rfl
          | cons hsecond hothers =>
              rename_i text₂ x₂ texts xs
              obtain ⟨blanks, rfl, hblanks⟩ := hsep
              obtain ⟨tail, htail⟩ := intercalate_start (44 :: blanks) text₂ texts
              have hnext := hsecond.skipBlanks (tail ++ close :: rest)
              rw [← List.append_assoc, ← htail] at hnext
              have hrest := ih (.cons hsecond hothers) (by simpa using hfuel)
              have hsplit : (44 :: blanks).intercalate (text :: text₂ :: texts) ++ close :: rest =
                  text ++ 44 :: (blanks ++
                    ((44 :: blanks).intercalate (text₂ :: texts) ++ close :: rest)) := by
                simp
              have hcomma : Stops (44 :: (blanks ++
                  ((44 :: blanks).intercalate (text₂ :: texts) ++ close :: rest))) :=
                stops_cons (by decide) _
              rw [hsplit, scanSeparated, hfirst.scans _ hcomma]
              dsimp only
              rw [skipBlanks_mark (by decide)]
              dsimp only
              rw [if_neg hclose.noComma.symm, if_pos rfl, skipBlanks_blanks hblanks, hnext, hrest]
              rfl

/-- The items of a container, as the scanner meets them after the opening character. -/
theorem scanSeparated_body {α : Type} {p : Text → Parsed α} {close : Nat} (hclose : Closes close)
    {sep : Text} (hsep : Separates 44 sep) {text : Text} {texts : List Text} {x : α} {xs : List α}
    (h : List.Forall₂ (Reads p) (text :: texts) (x :: xs)) (rest : Text) :
    ∃ c tail, skipBlanks (sep.intercalate (text :: texts) ++ close :: rest) = c :: tail ∧
      c ≠ 93 ∧ c ≠ 125 ∧ scanSeparated close p (c :: tail).length (c :: tail) =
        .ok (x :: xs, rest) := by
  have hlen := length_le_intercalate sep h
  have hfuel : texts.length < (sep.intercalate (text :: texts) ++ close :: rest).length := by
    rw [List.length_cons] at hlen
    rw [List.length_append]
    omega
  have hread := scanSeparated_intercalate hclose hsep h hfuel rest
  cases h with
  | cons hfirst hothers =>
      obtain ⟨c, first, htext, hopens⟩ := hfirst.head
      obtain ⟨tail, htail⟩ := intercalate_start sep text texts
      have hskip := hfirst.skipBlanks (tail ++ close :: rest)
      rw [← List.append_assoc, ← htail] at hskip
      have hcons : sep.intercalate (text :: texts) ++ close :: rest =
          c :: (first ++ tail ++ close :: rest) := by
        rw [htail, htext]
        simp
      refine ⟨c, first ++ tail ++ close :: rest, hskip.trans hcons, hopens.2.1, hopens.2.2, ?_⟩
      rw [← hcons]
      exact hread

theorem reads_array {limits : Limits} {scan : Text → Parsed Value} {style : Style}
    (hcomma : Separates 44 style.comma) {texts : List Text} {xs : List Value}
    (h : List.Forall₂ (Reads scan) texts xs) :
    Reads (scanWith limits (some scan)) (arrayText style texts) (.arr xs) where
  head := ⟨91, _, rfl, by decide, by decide, by decide⟩
  scans := by
    intro rest hrest
    have hclose : Closes 93 := ⟨by decide, by decide, by decide⟩
    show scanArray scan ((style.comma.intercalate texts ++ [93]) ++ rest) = _
    rw [List.append_assoc, List.singleton_append]
    unfold scanArray
    cases h with
    | nil =>
        rw [List.intercalate_nil, List.nil_append, skipBlanks_mark hclose.solid]
        exact if_pos rfl
    | cons hfirst hothers =>
        obtain ⟨c, tail, hskip, hc, -, hread⟩ :=
          scanSeparated_body hclose hcomma (.cons hfirst hothers) rest
        rw [hskip]
        dsimp only
        rw [if_neg hc, hread]

/-- A key with the text of its value, and what they are read as. -/
structure ReadsField (scan : Text → Parsed Value) (m : Text × Text) (f : Text × Value) : Prop where
  key : m.1 = f.1
  scalar : ∀ c ∈ m.1, Scalar c
  value : Reads scan m.2 f.2

theorem ReadsField.member {scan : Text → Parsed Value} {style : Style}
    (hcolon : Separates 58 style.colon) {m : Text × Text} {f : Text × Value}
    (h : ReadsField scan m f) : Reads (scanMember scan) (memberText style m) f where
  head := ⟨quoteMark, _, rfl, by decide, by decide, by decide⟩
  scans := by
    intro rest hrest
    obtain ⟨blanks, hcolon, hblanks⟩ := hcolon
    have hsplit : memberText style m ++ rest = quoteMark :: (escaped style.ascii m.1 ++
        quoteMark :: 58 :: (blanks ++ (m.2 ++ rest))) := by
      unfold memberText quote
      rw [hcolon]
      simp
    rw [hsplit]
    unfold scanMember
    dsimp only
    rw [if_pos rfl, scanString_escaped style.ascii h.scalar]
    dsimp only
    rw [skipBlanks_mark (by decide)]
    dsimp only
    rw [if_pos rfl, skipBlanks_blanks hblanks, h.value.skipBlanks, h.value.scans rest hrest, h.key]

theorem reads_object {limits : Limits} {scan : Text → Parsed Value} {style : Style}
    (hcomma : Separates 44 style.comma) (hcolon : Separates 58 style.colon)
    {members : List (Text × Text)} {fields : List (Text × Value)}
    (hkeys : (fields.map (·.1)).Nodup)
    (h : List.Forall₂ (ReadsField scan) members fields) :
    Reads (scanWith limits (some scan)) (objectText style members) (.obj fields) where
  head := ⟨123, _, rfl, by decide, by decide, by decide⟩
  scans := by
    intro rest hrest
    have hclose : Closes 125 := ⟨by decide, by decide, by decide⟩
    have hmembers : List.Forall₂ (Reads (scanMember scan)) (members.map (memberText style))
        fields := by
      rw [List.forall₂_map_left_iff]
      exact h.imp fun m f hf ↦ hf.member hcolon
    show scanObject scan ((style.comma.intercalate (members.map (memberText style)) ++ [125]) ++
      rest) = _
    rw [List.append_assoc, List.singleton_append]
    unfold scanObject
    generalize members.map (memberText style) = texts at hmembers
    cases hmembers with
    | nil =>
        rw [List.intercalate_nil, List.nil_append, skipBlanks_mark hclose.solid]
        exact if_pos rfl
    | cons hfirst hothers =>
        obtain ⟨c, tail, hskip, -, hc, hread⟩ :=
          scanSeparated_body hclose hcomma (.cons hfirst hothers) rest
        rw [hskip]
        dsimp only
        rw [if_neg hc, hread]
        dsimp only
        rw [Dict.setAll_of_nodup hkeys]
        rfl

/-! ### Documents -/

theorem decodeUtf8_utf8Char {c : Nat} (hc : Scalar c) (bs : List Nat) :
    decodeUtf8 (Sha256.utf8Char c ++ bs) = (decodeUtf8 bs).map (c :: ·) := by
  have hmax : c < 1114112 := by
    rcases hc with h | h <;> omega
  have htail (n : Nat) : tailByte (128 + n % 64) = true := decide_eq_true ⟨by omega, by omega⟩
  unfold Sha256.utf8Char
  by_cases h1 : c < 128
  · rw [if_pos h1, List.singleton_append, decodeUtf8.eq_def]
    exact if_pos h1
  rw [if_neg h1]
  by_cases h2 : c < 2048
  · rw [if_pos h2, List.cons_append, List.singleton_append, decodeUtf8.eq_def]
    have hcode : (192 + c / 64) % 32 * 64 + (128 + c % 64) % 64 = c := by omega
    dsimp only
    rw [if_neg (by omega), htail, if_neg (by decide), if_pos (by omega), hcode]
  rw [if_neg h2]
  by_cases h3 : c < 65536
  · rw [if_pos h3, List.cons_append, List.cons_append, List.singleton_append, decodeUtf8.eq_def]
    have hcode : (224 + c / 4096) % 16 * 4096 + (128 + c / 64 % 64) % 64 * 64 +
        (128 + c % 64) % 64 = c := by omega
    dsimp only
    rw [if_neg (by omega), htail, if_neg (by decide), if_neg (by omega), htail,
      if_neg (by decide), if_pos (by omega), hcode]
  · rw [if_neg h3, List.cons_append, List.cons_append, List.cons_append, List.singleton_append,
      decodeUtf8.eq_def]
    have hcode : (240 + c / 262144) % 8 * 262144 + (128 + c / 4096 % 64) % 64 * 4096 +
        (128 + c / 64 % 64) % 64 * 64 + (128 + c % 64) % 64 = c := by omega
    dsimp only
    rw [if_neg (by omega), htail, if_neg (by decide), if_neg (by omega), htail,
      if_neg (by decide), if_neg (by omega), htail, if_pos ⟨rfl, by omega⟩, hcode]

theorem decodeUtf8_flatMap {t : Text} (ht : ∀ c ∈ t, Scalar c) :
    decodeUtf8 (t.flatMap Sha256.utf8Char) = some t := by
  induction t with
  | nil => rfl
  | cons c t ih =>
      rw [List.flatMap_cons, decodeUtf8_utf8Char (ht c List.mem_cons_self),
        ih fun d hd ↦ ht d (List.mem_cons_of_mem c hd)]
      rfl

/-! ### What is written are characters -/

theorem scalar_of_lt {c : Nat} (h : c < 128) : Scalar c := .inl (by omega)

theorem scalar_escapeUnit {u : Nat} (h : u < 65536) : ∀ c ∈ escapeUnit u, Scalar c := by
  have hhex : ∀ d < 16, hexCode d < 128 := by decide
  intro c hc
  unfold escapeUnit at hc
  simp only [List.mem_cons, List.not_mem_nil, or_false] at hc
  rcases hc with rfl | rfl | rfl | rfl | rfl | rfl
  · exact scalar_of_lt (by decide)
  · exact scalar_of_lt (by decide)
  · exact scalar_of_lt (hhex _ (by omega))
  · exact scalar_of_lt (hhex _ (by omega))
  · exact scalar_of_lt (hhex _ (by omega))
  · exact scalar_of_lt (hhex _ (by omega))

theorem shortEscape_lt {c e : Nat} (h : shortEscape c = some e) : e < 128 := by
  unfold shortEscape at h
  split_ifs at h with hq <;> cases h <;> omega

theorem scalar_escapeText (ascii : Bool) {c : Nat} (hc : Scalar c) :
    ∀ d ∈ escapeText ascii c, Scalar d := by
  intro d hd
  unfold escapeText at hd
  cases hshort : shortEscape c with
  | some e =>
      rw [hshort] at hd
      simp only [List.mem_cons, List.not_mem_nil, or_false] at hd
      rcases hd with rfl | rfl
      · exact scalar_of_lt (by decide)
      · exact scalar_of_lt (shortEscape_lt hshort)
  | none =>
      rw [hshort] at hd
      dsimp only at hd
      have hmax : c < 1114112 := by
        rcases hc with h | h <;> omega
      split_ifs at hd with h32 hascii hbasic
      · exact scalar_escapeUnit (by omega) d hd
      · exact List.mem_singleton.1 hd ▸ hc
      · exact scalar_escapeUnit hbasic d hd
      · rcases List.mem_append.1 hd with hd | hd
        · exact scalar_escapeUnit (by omega) d hd
        · exact scalar_escapeUnit (by omega) d hd

theorem scalar_quote (ascii : Bool) {t : Text} (ht : ∀ c ∈ t, Scalar c) :
    ∀ c ∈ quote ascii t, Scalar c := by
  intro c hc
  unfold quote escaped at hc
  rcases List.mem_cons.1 hc with rfl | hc
  · exact scalar_of_lt (by decide)
  rcases List.mem_append.1 hc with hc | hc
  · obtain ⟨d, hd, hcd⟩ := List.mem_flatMap.1 hc
    exact scalar_escapeText ascii (ht d hd) c hcd
  · exact List.mem_singleton.1 hc ▸ scalar_of_lt (by decide)

theorem scalar_separator {mark : Nat} {sep : Text} (hmark : mark < 128)
    (h : Separates mark sep) : ∀ c ∈ sep, Scalar c := by
  obtain ⟨blanks, rfl, hblanks⟩ := h
  intro c hc
  rcases List.mem_cons.1 hc with rfl | hc
  · exact scalar_of_lt hmark
  · have hblank := of_decide_eq_true (hblanks c hc)
    exact scalar_of_lt (by omega)

theorem scalar_intercalate {sep : Text} (hsep : ∀ c ∈ sep, Scalar c) {texts : List Text}
    (h : ∀ t ∈ texts, ∀ c ∈ t, Scalar c) : ∀ c ∈ sep.intercalate texts, Scalar c := by
  induction texts with
  | nil =>
      intro c hc
      cases hc
  | cons t texts ih =>
      have hrest := ih fun u hu ↦ h u (List.mem_cons_of_mem t hu)
      cases texts with
      | nil =>
          rw [List.intercalate_singleton]
          exact h t List.mem_cons_self
      | cons u texts =>
          rw [List.intercalate_cons_cons]
          intro c hc
          rcases List.mem_append.1 hc with hc | hc
          · rcases List.mem_append.1 hc with hc | hc
            · exact h t List.mem_cons_self c hc
            · exact hsep c hc
          · exact hrest c hc

/-- A container between its brackets. -/
theorem scalar_container {opening closing : Nat} (hopen : opening < 128) (hclose : closing < 128)
    {sep : Text} (hsep : ∀ c ∈ sep, Scalar c) {texts : List Text}
    (h : ∀ t ∈ texts, ∀ c ∈ t, Scalar c) :
    ∀ c ∈ opening :: (sep.intercalate texts ++ [closing]), Scalar c := by
  intro c hc
  rcases List.mem_cons.1 hc with rfl | hc
  · exact scalar_of_lt hopen
  rcases List.mem_append.1 hc with hc | hc
  · exact scalar_intercalate hsep h c hc
  · exact List.mem_singleton.1 hc ▸ scalar_of_lt hclose

theorem utf8Char_lt {c : Nat} (hc : Scalar c) : ∀ b ∈ Sha256.utf8Char c, b < 256 := by
  have hmax : c < 1114112 := by
    rcases hc with h | h <;> omega
  intro b hb
  unfold Sha256.utf8Char at hb
  split_ifs at hb <;> simp only [List.mem_cons, List.not_mem_nil, or_false] at hb <;> omega

theorem encodeUtf8_toNat {t : Text} (ht : ∀ c ∈ t, Scalar c) :
    (encodeUtf8 t).map (·.toNat) = t.flatMap Sha256.utf8Char := by
  have hid : ∀ b ∈ t.flatMap Sha256.utf8Char, ((·.toNat) ∘ UInt8.ofNat) b = id b := by
    intro b hb
    obtain ⟨c, hc, hbc⟩ := List.mem_flatMap.1 hb
    have hlt := utf8Char_lt (ht c hc) b hbc
    show (UInt8.ofNat b).toNat = b
    rw [UInt8.toNat_ofNat']
    exact Nat.mod_eq_of_lt hlt
  unfold encodeUtf8
  rw [List.map_map, List.map_congr_left hid, List.map_id]

/-- Text that starts as an object or a list does is taken for UTF-8. -/
theorem detectEncoding_ascii {c d : Nat} (hc : 0 < c ∧ c < 128) (hd : 0 < d ∧ d < 128)
    (bs : List Nat) : detectEncoding (c :: d :: bs) = (.utf8, 0) := by
  have hmark {m : Nat} {ms : List Nat} (hm : m ≠ c) : ¬ (m :: ms <+: c :: d :: bs) :=
    fun h ↦ hm (List.cons_prefix_cons.1 h).1
  unfold detectEncoding
  rw [if_neg (hmark (by omega)), if_neg (hmark (by omega)), if_neg (hmark (by omega)),
    if_neg (hmark (by omega)), if_neg (hmark (by omega))]
  split
  · rename_i heq
    cases heq
    rw [if_neg (by omega), if_neg (by omega)]
  · rename_i heq
    cases heq
    rw [if_neg (by omega), if_neg (by omega)]
  · rfl

/-- What is read from the text is read from its bytes. -/
theorem loads_encoded {limits : Limits} {c d : Nat} {tail : Text} {v : Value}
    (hc : 0 < c ∧ c < 128) (hd : 0 < d ∧ d < 128) (htail : ∀ u ∈ tail, Scalar u)
    (h : Reads (scanOnce limits limits.depth) (c :: d :: tail) v) :
    loads limits (encodeUtf8 (c :: d :: tail)) = .ok v := by
  have hscalar : ∀ u ∈ c :: d :: tail, Scalar u := by
    intro u hu
    rcases List.mem_cons.1 hu with rfl | hu
    · exact .inl (by omega)
    · rcases List.mem_cons.1 hu with rfl | hu
      · exact .inl (by omega)
      · exact htail u hu
  have hbytes : (c :: d :: tail).flatMap Sha256.utf8Char =
      c :: d :: tail.flatMap Sha256.utf8Char := by
    rw [List.flatMap_cons, List.flatMap_cons]
    unfold Sha256.utf8Char
    rw [if_pos hc.2, if_pos hd.2]
    rfl
  have hdecode : decode ((encodeUtf8 (c :: d :: tail)).map (·.toNat)) = some (c :: d :: tail) := by
    rw [encodeUtf8_toNat hscalar]
    unfold decode
    rw [hbytes, detectEncoding_ascii hc hd, ← hbytes]
    exact decodeUtf8_flatMap hscalar
  have hskip := h.skipBlanks []
  have hread := h.scans [] nofun
  rw [List.append_nil] at hskip hread
  unfold loads
  rw [hdecode]
  dsimp only
  rw [hskip, hread]
  rfl

end JsonText
