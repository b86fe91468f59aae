import RetailMedia.Lib.Hidden
import Mathlib

/-! The reason of a retry decision, with forbidden words redacted. -/

namespace RetailMedia

open JsonText (Text codes)
open Hidden (Cell Mark kept original shown hide Touches)

/-! ## Redaction -/

def forbiddenReasonSubstrings : List String := [
  "token", "jwt", "password", "secret", "api_key", "private_key", "payment_card", "receipt",
  "device_secret", "access_token"]

/-- `str.upper` on lower case ASCII. -/
def asciiUpper (c : Nat) : Nat := if 97 ≤ c ∧ c ≤ 122 then c - 32 else c

/-- `str.title` on lower case ASCII. -/
def asciiTitle (afterLetter : Bool) : Text → Text
  | [] => []
  | c :: t => (if afterLetter then c else asciiUpper c) :: asciiTitle (97 ≤ c ∧ c ≤ 122) t

/-- The spellings in their order. -/
def spellings (term : Text) : List Text := [term, asciiTitle false term, term.map asciiUpper]

def redacted : Text := codes "[REDACTED]"

def redactTerm (result term : Text) : Text :=
  (spellings term).foldl (fun result old ↦ PyText.replace old redacted result) result

/-- Detection reads the reason as it was. -/
def redactReason (endsWord : Text → Text → Bool) (reason : Text) : Text :=
  let lower := PyText.lower endsWord reason
  (forbiddenReasonSubstrings.map codes).foldl
    (fun result forbidden ↦
      if forbidden <:+: lower then redactTerm result forbidden else result) reason

/-! ## The defect -/

/-- The terms of which no other one is a part. -/
def shortTerms : List Text := (forbiddenReasonSubstrings.take 8).map codes

def standardSpellings : List Text := shortTerms.flatMap spellings

/-- No forbidden word is left, in any letter case. -/
def Redacted (endsWord : Text → Text → Bool) (reason : Text) : Prop :=
  ∀ term ∈ forbiddenReasonSubstrings,
    ¬ codes term <:+: PyText.lower endsWord (redactReason endsWord reason)

/-- Each word in any letter case shares a character with a short one in a standard spelling. -/
def StandardReason (reason : Text) : Prop :=
  ∀ term ∈ forbiddenReasonSubstrings, ∀ i u, u.map PyText.lowerCode = codes term →
    u <+: reason.drop i → ∃ s ∈ standardSpellings, ∃ j, s <+: reason.drop j ∧
      j < i + u.length ∧ i < j + s.length

/-! ## Facts about the words -/

theorem forbidden_plain : ∀ term ∈ forbiddenReasonSubstrings,
    PyText.Plain (codes term) ∧ codes term ≠ [] := by
  decide +kernel

theorem spellings_lower : ∀ term ∈ forbiddenReasonSubstrings, ∀ s ∈ spellings (codes term),
    s.map PyText.lowerCode = codes term := by
  have hascii : ∀ term ∈ forbiddenReasonSubstrings, ∀ s ∈ spellings (codes term),
      (∀ c ∈ s, c < 128) ∧ s.map PyText.asciiLower = codes term := by
    decide +kernel
  intro term hterm s hs
  obtain ⟨hsmall, hlower⟩ := hascii term hterm s hs
  rw [PyText.map_lowerCode hsmall, hlower]

/-- Each long word, in a standard spelling, has a short one in the same spelling in it. -/
theorem long_spellings : ∀ term ∈ forbiddenReasonSubstrings.drop 8, ∀ s ∈ spellings (codes term),
    ∃ s' ∈ standardSpellings, s' <:+: s := by
  decide +kernel

def redactedMark : Mark Nat where
  opening := 91
  body := codes "REDACTED"
  closing := 93

theorem redactedMark_text : redactedMark.text = redacted := by decide

theorem forbidden_apart : ∀ term ∈ forbiddenReasonSubstrings,
    91 ∉ codes term ∧ 93 ∉ codes term ∧ ¬ codes term <:+: codes "redacted" := by
  decide +kernel

/-- A character of a short word that is in every word which shares one with it. -/
def pivot (term : Text) : Nat := if term = codes "token" then 0 else term.length - 1

theorem pivot_shared : ∀ short ∈ shortTerms, ∀ term ∈ forbiddenReasonSubstrings.map codes,
    (∀ k < short.length, k < pivot short →
      ¬ short.take (k + 1) <:+ term ∧ ¬ term <:+ short.take (k + 1)) ∧
    ∀ m < short.length, pivot short < m →
      ¬ short.drop m <+: term ∧ ¬ term <+: short.drop m := by
  decide +kernel

/-! ## What the redaction leaves -/

section Redacting

variable {reason result : Text} {done : List Text} {cells : List (Cell Nat)} {s u : Text}
  {term : String}

theorem apart_of_lower (hterm : term ∈ forbiddenReasonSubstrings)
    (hu : u.map PyText.lowerCode = codes term) : redactedMark.Apart u := by
  obtain ⟨hopening, hclosing, hbody⟩ := forbidden_apart term hterm
  constructor
  · intro hmem
    have hlower : PyText.lowerCode 91 = 91 := PyText.lowerCode_ascii (by decide)
    exact hopening (hu ▸ hlower ▸ List.mem_map_of_mem hmem)
  · intro hmem
    have hlower : PyText.lowerCode 93 = 93 := PyText.lowerCode_ascii (by decide)
    exact hclosing (hu ▸ hlower ▸ List.mem_map_of_mem hmem)
  · intro hoccurs
    have hlower : (codes "REDACTED").map PyText.lowerCode = codes "redacted" := by
      rw [PyText.map_lowerCode (by decide)]
      decide
    have hmap := hoccurs.map PyText.lowerCode
    rw [hu] at hmap
    exact hbody (hlower ▸ hmap)

theorem ne_nil_of_lower (hterm : term ∈ forbiddenReasonSubstrings)
    (hu : u.map PyText.lowerCode = codes term) : u ≠ [] := by
  intro hnil
  rw [hnil] at hu
  exact (forbidden_plain term hterm).2 hu.symm

/-- The result so far, as the parts of the reason that are left and the spellings that have gone. -/
structure Redacting (reason result : Text) (done : List Text) (cells : List (Cell Nat)) :
    Prop where
  original : original cells = reason
  shown : shown redactedMark cells = result
  gone : ∀ t, .gone t ∈ cells → t ∈ standardSpellings
  left : ∀ s ∈ done, ¬ kept s <:+: cells

/-- A standard spelling, or one with a spelling in it that is not left. -/
def Ready (done : List Text) (s : Text) : Prop :=
  s ∈ standardSpellings ∨ ∃ s' ∈ done, s' <:+: s

theorem Ready.mono {done' : List Text} (h : Ready done s) (hsub : done ⊆ done') :
    Ready done' s := by
  rcases h with hstandard | ⟨s', hs', hoccurs⟩
  · exact .inl hstandard
  · exact .inr ⟨s', hsub hs', hoccurs⟩

theorem Redacting.hide (h : Redacting reason result done cells) (hne : s ≠ [])
    (hapart : redactedMark.Apart s) (hs : Ready done s) :
    Redacting reason (PyText.replace s redacted result) (s :: done) (hide s cells) where
  original := (Hidden.original_hide hne).trans h.original
  shown := by rw [Hidden.shown_hide hne hapart, h.shown, redactedMark_text]
  gone := by
    intro t ht
    rcases Hidden.gone_mem_hide hne ht with ⟨rfl, hfound⟩ | hold
    · -- with a part that is not left, the spelling is not found
      rcases hs with hstandard | ⟨s', hs', hoccurs⟩
      · exact hstandard
      · exact absurd ((hoccurs.map Cell.kept).trans hfound) (h.left s' hs')
    · exact h.gone t hold
  left := by
    intro s' hs'
    rcases List.mem_cons.1 hs' with rfl | hdone
    · exact Hidden.not_infix_hide hne
    · intro hoccurs
      exact h.left s' hdone (Hidden.infix_of_infix_hide hne hoccurs)

theorem Redacting.spelled (h : Redacting reason result done cells)
    (hterm : term ∈ forbiddenReasonSubstrings) {l : List Text} (hl : l ⊆ spellings (codes term))
    (hready : ∀ s ∈ l, Ready done s) :
    ∃ done' cells', done ⊆ done' ∧ l ⊆ done' ∧
      Redacting reason (l.foldl (fun result old ↦ PyText.replace old redacted result) result)
        done' cells' := by
  induction l generalizing result done cells with
  | nil => exact ⟨done, cells, List.Subset.refl _, List.nil_subset _, h⟩
  | cons s l ih =>
      have hlower := spellings_lower term hterm s (hl List.mem_cons_self)
      have hnext := h.hide (ne_nil_of_lower hterm hlower) (apart_of_lower hterm hlower)
        (hready s List.mem_cons_self)
      obtain ⟨done', cells', hdone, hsub, hinv⟩ := ih hnext
        (fun t ht ↦ hl (List.mem_cons_of_mem s ht))
        (fun t ht ↦ (hready t (List.mem_cons_of_mem s ht)).mono (List.subset_cons_self s done))
      refine ⟨done', cells', ?_, ?_, hinv⟩
      · exact fun t ht ↦ hdone (List.mem_cons_of_mem s ht)
      · exact List.cons_subset.2 ⟨hdone List.mem_cons_self, hsub⟩

theorem Redacting.terms (endsWord : Text → Text → Bool)
    (h : Redacting reason result done cells) {terms : List String}
    (hterms : ∀ term ∈ terms, term ∈ forbiddenReasonSubstrings)
    (hready : ∀ term ∈ terms, ∀ s ∈ spellings (codes term), Ready done s) :
    ∃ done' cells', done ⊆ done' ∧ (∀ term ∈ terms, spellings (codes term) ⊆ done') ∧
      Redacting reason ((terms.map codes).foldl (fun result forbidden ↦
        if forbidden <:+: PyText.lower endsWord reason then redactTerm result forbidden
        else result) result) done' cells' := by
  induction terms generalizing result done cells with
  | nil => exact ⟨done, cells, List.Subset.refl _, by simp, h⟩
  | cons term terms ih =>
      have hmem := hterms term List.mem_cons_self
      obtain ⟨next, cells₁, hdone, hspelled, hinv⟩ : ∃ done' cells', done ⊆ done' ∧
          spellings (codes term) ⊆ done' ∧ Redacting reason
            (if codes term <:+: PyText.lower endsWord reason then redactTerm result (codes term)
            else result) done' cells' := by
        by_cases hfound : codes term <:+: PyText.lower endsWord reason
        · rw [if_pos hfound]
          exact h.spelled hmem (List.Subset.refl _) (hready term List.mem_cons_self)
        · -- a term that is not detected has no spelling in the reason
          rw [if_neg hfound]
          refine ⟨spellings (codes term) ++ done, cells, List.subset_append_right _ _,
            List.subset_append_left _ _, ⟨h.original, h.shown, h.gone, ?_⟩⟩
          intro s hs hoccurs
          rcases List.mem_append.1 hs with hspelling | hdone
          · apply hfound
            obtain ⟨hplain, hne⟩ := forbidden_plain term hmem
            rw [PyText.infix_lower_iff hplain hne]
            exact ⟨s, h.original ▸ Hidden.original_infix hoccurs,
              spellings_lower term hmem s hspelling⟩
          · exact h.left s hdone hoccurs
      obtain ⟨done', cells', hdone', hspelled', hinv'⟩ := ih hinv
        (fun other hother ↦ hterms other (List.mem_cons_of_mem term hother))
        (fun other hother s hs ↦
          (hready other (List.mem_cons_of_mem term hother) s hs).mono hdone)
      refine ⟨done', cells', fun s hs ↦ hdone' (hdone hs), ?_, hinv'⟩
      intro other hother
      rcases List.mem_cons.1 hother with rfl | hlater
      · exact fun s hs ↦ hdone' (hspelled hs)
      · exact hspelled' other hlater

/-- At the end no short word is left in a standard spelling, and nothing else has gone. -/
theorem redactReason_cells (endsWord : Text → Text → Bool) (reason : Text) :
    ∃ cells, Redacting reason (redactReason endsWord reason) standardSpellings cells := by
  have hstart : Redacting reason reason [] (kept reason) := by
    refine ⟨Hidden.original_kept, Hidden.shown_kept, ?_, ?_⟩
    · intro t ht
      obtain ⟨c, -, hc⟩ := List.mem_map.1 ht
      cases hc
    · intro s hs
      cases hs
  -- the short words first, and then the long ones
  have hsplit : forbiddenReasonSubstrings =
      forbiddenReasonSubstrings.take 8 ++ forbiddenReasonSubstrings.drop 8 :=
    (List.take_append_drop 8 _).symm
  obtain ⟨done, cells, -, hdone, hshort⟩ := hstart.terms endsWord
    (fun term hterm ↦ List.mem_of_mem_take hterm)
    (fun term hterm s hs ↦
      .inl (List.mem_flatMap.2 ⟨codes term, List.mem_map_of_mem hterm, hs⟩))
  have hstandard : standardSpellings ⊆ done := by
    intro s hs
    obtain ⟨t, ht, hst⟩ := List.mem_flatMap.1 hs
    obtain ⟨term, hterm, rfl⟩ := List.mem_map.1 ht
    exact hdone term hterm hst
  obtain ⟨done', cells', hdone', -, hlong⟩ := hshort.terms endsWord
    (fun term hterm ↦ List.mem_of_mem_drop hterm)
    (fun term hterm s hs ↦ by
      obtain ⟨s', hs', hoccurs⟩ := long_spellings term hterm s hs
      exact .inr ⟨s', hstandard hs', hoccurs⟩)
  refine ⟨cells', hlong.original, ?_, hlong.gone, ?_⟩
  · rw [hlong.shown, redactReason, ← List.foldl_append, ← List.map_append, ← hsplit]
  · intro s hs
    exact hlong.left s (hdone' (hstandard hs))

end Redacting

/-! ## Words that share a character -/

section Pivot

variable {short term t : Text} {i j : Nat}

theorem pivot_lt : ∀ short ∈ shortTerms, pivot short < short.length := by
  decide +kernel

theorem take_drop_of_prefix (h : short <+: t.drop j) {k : Nat} (hk : k ≤ short.length) :
    short.take k <:+ t.take (j + k) := by
  obtain ⟨rest, hrest⟩ := h
  rw [List.take_add, ← hrest, List.take_append_of_le_length hk]
  exact List.suffix_append _ _

/-- A word that shares a character with a short one has its pivot. -/
theorem pivot_within (hshort : short ∈ shortTerms)
    (hterm : term ∈ forbiddenReasonSubstrings.map codes) (hj : short <+: t.drop j)
    (hi : term <+: t.drop i) (hbefore : j < i + term.length) (hafter : i < j + short.length) :
    i ≤ j + pivot short ∧ j + pivot short < i + term.length := by
  obtain ⟨hleft, hright⟩ := pivot_shared short hshort term hterm
  have hpivot := pivot_lt short hshort
  constructor
  · -- the word would begin after the pivot, as the rest of the short one does
    by_contra hstart
    obtain ⟨m, rfl⟩ : ∃ m, i = j + m := ⟨i - j, by omega⟩
    obtain ⟨hshorter, hlonger⟩ := hright m (by omega) (by omega)
    have hrest : short.drop m <+: t.drop (j + m) := by
      rw [← List.drop_drop]
      exact hj.drop m
    rcases List.prefix_or_prefix_of_prefix hrest hi with h | h
    · exact hshorter h
    · exact hlonger h
  · -- the word would end before the pivot, as a first part of the short one does
    by_contra hend
    obtain ⟨k, hk⟩ : ∃ k, i + term.length = j + (k + 1) := ⟨i + term.length - j - 1, by omega⟩
    obtain ⟨hshorter, hlonger⟩ := hleft k (by omega) (by omega)
    have hfirst : short.take (k + 1) <:+ t.take (j + (k + 1)) := take_drop_of_prefix hj (by omega)
    have hword : term <:+ t.take (i + term.length) := by
      have hall := take_drop_of_prefix hi le_rfl
      rwa [List.take_length] at hall
    rw [← hk] at hfirst
    rcases List.suffix_or_suffix_of_suffix hfirst hword with h | h
    · exact hshorter h
    · exact hlonger h

end Pivot

/-! ## When the reason comes out clean -/

section Clean

variable {endsWord : Text → Text → Bool} {reason result : Text} {cells : List (Cell Nat)}

theorem standard_lower {s : Text} (h : s ∈ standardSpellings) :
    ∃ term ∈ forbiddenReasonSubstrings, codes term ∈ shortTerms ∧
      s.map PyText.lowerCode = codes term := by
  obtain ⟨t, ht, hs⟩ := List.mem_flatMap.1 h
  obtain ⟨term, hterm, rfl⟩ := List.mem_map.1 ht
  have hmem : term ∈ forbiddenReasonSubstrings := List.mem_of_mem_take hterm
  exact ⟨term, hmem, ht, spellings_lower term hmem s hs⟩

theorem lower_prefix {s : Text} {j : Nat} (h : s <+: reason.drop j) :
    s.map PyText.lowerCode <+: (reason.map PyText.lowerCode).drop j := by
  rw [← List.map_drop]
  exact h.map PyText.lowerCode

theorem Redacting.at_gone {done : List Text} {a b : List (Cell Nat)} {s : Text}
    (h : Redacting reason result done cells) (hcells : cells = a ++ .gone s :: b) :
    s <+: reason.drop (Hidden.original a).length := by
  rw [← h.original, hcells, Hidden.original_append, List.drop_left, Hidden.original_gone_cons]
  exact List.prefix_append s _

theorem Redacting.gone_ne_nil {done : List Text} (h : Redacting reason result done cells) :
    ∀ s, .gone s ∈ cells → s ≠ [] := by
  intro s hs
  obtain ⟨term, hterm, -, hlower⟩ := standard_lower (h.gone s hs)
  exact ne_nil_of_lower hterm hlower

theorem redacted_iff_cells
    (h : Redacting reason (redactReason endsWord reason) standardSpellings cells) :
    Redacted endsWord reason ↔ ∀ term ∈ forbiddenReasonSubstrings, ∀ u,
      u.map PyText.lowerCode = codes term → ¬ kept u <:+: cells := by
  have hterm : ∀ term ∈ forbiddenReasonSubstrings,
      (codes term <:+: PyText.lower endsWord (redactReason endsWord reason) ↔
        ∃ u, u.map PyText.lowerCode = codes term ∧ kept u <:+: cells) := by
    intro term hterm
    obtain ⟨hplain, hne⟩ := forbidden_plain term hterm
    rw [PyText.infix_lower_iff hplain hne, ← h.shown]
    constructor
    · intro ⟨u, hoccurs, hu⟩
      rw [Hidden.infix_shown_iff (ne_nil_of_lower hterm hu) (apart_of_lower hterm hu)] at hoccurs
      exact ⟨u, hu, hoccurs⟩
    · intro ⟨u, hu, hoccurs⟩
      rw [← Hidden.infix_shown_iff (ne_nil_of_lower hterm hu) (apart_of_lower hterm hu)] at hoccurs
      exact ⟨u, hoccurs, hu⟩
  constructor
  · intro hclean term hmem u hu hoccurs
    exact hclean term hmem ((hterm term hmem).2 ⟨u, hu, hoccurs⟩)
  · intro hcells term hmem hfound
    obtain ⟨u, hu, hoccurs⟩ := (hterm term hmem).1 hfound
    exact hcells term hmem u hu hoccurs

theorem standardReason_of_cells
    (h : Redacting reason result standardSpellings cells)
    (hclean : ∀ term ∈ forbiddenReasonSubstrings, ∀ u,
      u.map PyText.lowerCode = codes term → ¬ kept u <:+: cells) : StandardReason reason := by
  intro term hterm i u hu hat
  have hne : u ≠ [] := ne_nil_of_lower hterm hu
  rw [← h.original] at hat
  rcases Hidden.kept_or_touches hne h.gone_ne_nil hat with hkept | ⟨a, s, b, hcells, hfrom, hto⟩
  · exact absurd hkept (hclean term hterm u hu)
  · have hgone : .gone s ∈ cells := hcells ▸ List.mem_append_right a List.mem_cons_self
    exact ⟨s, h.gone s hgone, (original a).length, h.at_gone hcells, hfrom, hto⟩

/-- A word that is left would share its neighbour's pivot with a word that has gone. -/
theorem cells_of_standardReason
    (h : Redacting reason result standardSpellings cells) (hreason : StandardReason reason) :
    ∀ term ∈ forbiddenReasonSubstrings, ∀ u,
      u.map PyText.lowerCode = codes term → ¬ kept u <:+: cells := by
  intro term hterm u hu ⟨a, b, hcells⟩
  have hne : u ≠ [] := ne_nil_of_lower hterm hu
  have hat : u <+: reason.drop (original a).length := by
    rw [← h.original, ← hcells, List.append_assoc, Hidden.original_append, List.drop_left,
      Hidden.original_append, Hidden.original_kept]
    exact List.prefix_append u _
  obtain ⟨s, hs, j, hsat, hbefore, hafter⟩ := hreason term hterm _ u hu hat
  obtain ⟨short, hshort, hshortMem, hlower⟩ := standard_lower hs
  have hslength : s.length = (codes short).length := by rw [← hlower, List.length_map]
  have hulength : u.length = (codes term).length := by rw [← hu, List.length_map]
  have hsat' : s <+: (original cells).drop j := h.original.symm ▸ hsat
  rcases Hidden.kept_or_touches (ne_nil_of_lower hshort hlower) h.gone_ne_nil hsat' with
    hkept | ⟨a', s', b', hcells', hfrom, hto⟩
  · exact h.left s hs hkept
  · -- a word that has gone touches the standard spelling, and so has its pivot, as the one left has
    have hgone : .gone s' ∈ cells := hcells' ▸ List.mem_append_right a' List.mem_cons_self
    obtain ⟨short', hshort', -, hlower'⟩ := standard_lower (h.gone s' hgone)
    have hslength' : s'.length = (codes short').length := by rw [← hlower', List.length_map]
    have hword := pivot_within hshortMem (List.mem_map_of_mem hterm) (hlower ▸ lower_prefix hsat)
      (hu ▸ lower_prefix hat) (by omega) (by omega)
    have hother := pivot_within hshortMem (List.mem_map_of_mem hshort')
      (hlower ▸ lower_prefix hsat) (hlower' ▸ lower_prefix (h.at_gone hcells')) (by omega)
      (by omega)
    rcases Hidden.kept_apart hne (hcells.trans hcells') with hleft | hright
    · omega
    · omega

end Clean

/-- The reason comes out clean exactly if each forbidden word in it, in any letter case, shares a
character with a short one that is spelled in a standard way. -/
theorem redacted_iff (endsWord : Text → Text → Bool) (reason : Text) :
    Redacted endsWord reason ↔ StandardReason reason := by
  obtain ⟨cells, h⟩ := redactReason_cells endsWord reason
  rw [redacted_iff_cells h]
  constructor
  · exact standardReason_of_cells h
  · exact cells_of_standardReason h

theorem mixed_case_left : ¬ ∀ (endsWord : Text → Text → Bool) (reason : Text),
    Redacted endsWord reason := by
  intro h
  have hclean := h (fun _ _ ↦ false) (codes "bad tOkEn") "token" (by decide)
  exact hclean (by decide +kernel)

end RetailMedia
