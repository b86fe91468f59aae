import RetailMedia.Lib.PyText
import RetailMedia.Lib.Substring
import Mathlib.Tactic.Common

/-! Texts in which terms are replaced by a mark, one term after the other: the parts that are left,
and the terms that have gone. -/

namespace Hidden

variable {α : Type*}

/-! ## Cells -/

/-- A character that is left, or a term that has gone. -/
inductive Cell (α : Type*)
  | kept (c : α)
  | gone (term : List α)
  deriving DecidableEq

def kept (t : List α) : List (Cell α) := t.map .kept

def Cell.original : Cell α → List α
  | .kept c => [c]
  | .gone term => term

def original (cells : List (Cell α)) : List α := cells.flatMap Cell.original

/-- A mark, with the characters at its ends. -/
structure Mark (α : Type*) where
  opening : α
  body : List α
  closing : α

def Mark.text (mark : Mark α) : List α := mark.opening :: (mark.body ++ [mark.closing])

def Cell.shown (mark : Mark α) : Cell α → List α
  | .kept c => [c]
  | .gone _ => mark.text

def shown (mark : Mark α) (cells : List (Cell α)) : List α := cells.flatMap (Cell.shown mark)

section Texts

variable {mark : Mark α} {t u : List α} {cells rest : List (Cell α)} {c : α} {term : List α}

@[simp] theorem kept_nil : kept ([] : List α) = [] := rfl

@[simp] theorem kept_cons : kept (c :: t) = .kept c :: kept t := rfl

@[simp] theorem kept_append : kept (t ++ u) = kept t ++ kept u := List.map_append

@[simp] theorem length_kept : (kept t).length = t.length := List.length_map _

theorem kept_ne_nil (h : t ≠ []) : kept t ≠ [] := by
  intro hnil
  exact h (List.map_eq_nil_iff.1 hnil)

@[simp] theorem original_nil : original ([] : List (Cell α)) = [] := rfl

@[simp] theorem original_kept_cons : original (.kept c :: cells) = c :: original cells := rfl

@[simp] theorem original_gone_cons : original (.gone term :: cells) = term ++ original cells := rfl

@[simp] theorem original_append : original (cells ++ rest) = original cells ++ original rest :=
  List.flatMap_append

@[simp] theorem original_kept : original (kept t) = t := by
  induction t with
  | nil => rfl
  | cons c t ih => rw [kept_cons, original_kept_cons, ih]

@[simp] theorem shown_nil : shown mark [] = [] := rfl

@[simp] theorem shown_kept_cons : shown mark (.kept c :: cells) = c :: shown mark cells := rfl

@[simp] theorem shown_gone_cons :
    shown mark (.gone term :: cells) = mark.text ++ shown mark cells := rfl

@[simp] theorem shown_append : shown mark (cells ++ rest) = shown mark cells ++ shown mark rest :=
  List.flatMap_append

@[simp] theorem shown_kept : shown mark (kept t) = t := by
  induction t with
  | nil => rfl
  | cons c t ih => rw [kept_cons, shown_kept_cons, ih]

theorem original_infix (h : kept t <:+: cells) : t <:+: original cells := by
  obtain ⟨a, b, rfl⟩ := h
  rw [original_append, original_append, original_kept]
  exact ⟨original a, original b, rfl⟩

theorem kept_not_prefix_gone (ht : t ≠ []) : ¬ kept t <+: .gone term :: rest := by
  cases t with
  | nil => exact absurd rfl ht
  | cons c t =>
      intro h
      cases (List.cons_prefix_cons.1 h).1

end Texts

/-! ## Terms and the mark -/

/-- No part of the term can lie in the mark. -/
structure Mark.Apart (mark : Mark α) (term : List α) : Prop where
  opening : mark.opening ∉ term
  closing : mark.closing ∉ term
  body : ¬ term <:+: mark.body

section Apart

variable {mark : Mark α} {cells : List (Cell α)} {term t : List α}

theorem prefix_of_prefix_append_cons {a b : List α} {x : α} (h : term <+: a ++ x :: b)
    (hx : x ∉ term) : term <+: a := by
  obtain ⟨t, ht⟩ := h
  rcases List.append_eq_append_iff.1 ht with ⟨rest, rfl, -⟩ | ⟨rest, hterm, hrest⟩
  · exact List.prefix_append term rest
  · cases rest with
    | nil => rw [hterm, List.append_nil]
    | cons y rest =>
        have hy : x = y := (List.cons.inj hrest).1
        exact absurd (by rw [hterm, ← hy]; simp) hx

/-- A text that begins with the term begins with the same kept cells. -/
theorem prefix_shown_iff (hopening : mark.opening ∉ term) :
    term <+: shown mark cells ↔ kept term <+: cells := by
  induction cells generalizing term with
  | nil => rw [shown_nil, List.prefix_nil, List.prefix_nil, kept, List.map_eq_nil_iff]
  | cons cell cells ih =>
      cases term with
      | nil => exact ⟨fun _ ↦ List.nil_prefix, fun _ ↦ List.nil_prefix⟩
      | cons c term =>
          have htail : mark.opening ∉ term := fun h ↦ hopening (List.mem_cons_of_mem c h)
          cases cell with
          | kept d =>
              rw [shown_kept_cons, kept_cons, List.cons_prefix_cons, List.cons_prefix_cons,
                ih htail, Cell.kept.injEq]
          | gone other =>
              -- the term would begin with the mark
              constructor
              · intro h
                have hc : c = mark.opening := (List.cons_prefix_cons.1 h).1
                exact absurd (hc ▸ List.mem_cons_self) hopening
              · intro h
                cases (List.cons_prefix_cons.1 h).1

theorem infix_shown_iff (hne : term ≠ []) (h : mark.Apart term) :
    term <:+: shown mark cells ↔ kept term <:+: cells := by
  induction cells with
  | nil => rw [shown_nil, List.infix_nil, List.infix_nil, kept, List.map_eq_nil_iff]
  | cons cell cells ih =>
      have hcells : kept term <:+: cell :: cells ↔
          kept term <+: cell :: cells ∨ kept term <:+: cells := List.infix_cons_iff
      rw [hcells, ← ih, ← prefix_shown_iff h.opening]
      cases cell with
      | kept d => rw [shown_kept_cons, List.infix_cons_iff]
      | gone other =>
          have hmark : term <:+: mark.text ++ shown mark cells ↔ term <:+: shown mark cells := by
            rw [show mark.text ++ shown mark cells =
              ([] ++ mark.opening :: mark.body) ++ mark.closing :: shown mark cells by
                simp [Mark.text], Substring.infix_append_cons hne h.closing,
              Substring.infix_append_cons hne h.opening]
            constructor
            · intro hfound
              rcases hfound with (hbefore | hbody) | hafter
              · exact absurd (List.infix_nil.1 hbefore) hne
              · exact absurd hbody h.body
              · exact hafter
            · exact .inr
          rw [shown_gone_cons, hmark]
          constructor
          · exact .inr
          · intro hfound
            rcases hfound with hfirst | hlater
            · exact hmark.1 hfirst.isInfix
            · exact hlater

end Apart

/-! ## Hiding a term -/

section Hide

variable [DecidableEq α] {mark : Mark α} {cells : List (Cell α)} {term t : List α}

def hide (term : List α) (cells : List (Cell α)) : List (Cell α) :=
  PyText.replace (kept term) [.gone term] cells

theorem hide_induction (hne : term ≠ []) {motive : List (Cell α) → Prop} (nil : motive [])
    (found : ∀ rest, motive rest → motive (kept term ++ rest))
    (left : ∀ cell rest, ¬ kept term <+: cell :: rest → motive rest → motive (cell :: rest))
    (cells : List (Cell α)) : motive cells :=
  PyText.replace_induction (kept_ne_nil hne) nil found left cells

theorem hide_found (hne : term ≠ []) (rest : List (Cell α)) :
    hide term (kept term ++ rest) = .gone term :: hide term rest :=
  PyText.replace_append (kept_ne_nil hne) rest

theorem hide_left {cell : Cell α} {rest : List (Cell α)} (h : ¬ kept term <+: cell :: rest) :
    hide term (cell :: rest) = cell :: hide term rest :=
  PyText.replace_cons h

/-- The original is still known. -/
theorem original_hide (hne : term ≠ []) : original (hide term cells) = original cells := by
  induction cells using hide_induction hne with
  | nil => rfl
  | found rest ih =>
      rw [hide_found hne, original_gone_cons, original_append, original_kept, ih]
  | left cell rest hleft ih =>
      rw [hide_left hleft]
      cases cell with
      | kept c => rw [original_kept_cons, original_kept_cons, ih]
      | gone other => rw [original_gone_cons, original_gone_cons, ih]

theorem gone_mem_hide (hne : term ≠ []) (h : .gone t ∈ hide term cells) :
    t = term ∧ kept term <:+: cells ∨ .gone t ∈ cells := by
  induction cells using hide_induction hne with
  | nil => exact .inr h
  | found rest ih =>
      rw [hide_found hne, List.mem_cons, Cell.gone.injEq] at h
      have hfound : kept term <:+: kept term ++ rest := (List.prefix_append _ rest).isInfix
      rcases h with heq | hrest
      · exact .inl ⟨heq, hfound⟩
      · rcases ih hrest with ⟨heq, -⟩ | hold
        · exact .inl ⟨heq, hfound⟩
        · exact .inr (List.mem_append_right _ hold)
  | left cell rest hleft ih =>
      rw [hide_left hleft, List.mem_cons] at h
      rcases h with heq | hrest
      · exact .inr (heq ▸ List.mem_cons_self)
      · rcases ih hrest with ⟨heq, hoccurs⟩ | hold
        · exact .inl ⟨heq, hoccurs.trans (List.suffix_cons cell rest).isInfix⟩
        · exact .inr (List.mem_cons_of_mem cell hold)

theorem prefix_of_prefix_hide (hne : term ≠ []) (h : kept t <+: hide term cells) :
    kept t <+: cells := by
  induction cells using hide_induction hne generalizing t with
  | nil => exact h
  | found rest ih =>
      rw [hide_found hne] at h
      cases t with
      | nil => exact List.nil_prefix
      | cons c t => exact absurd h (kept_not_prefix_gone (List.cons_ne_nil c t))
  | left cell rest hleft ih =>
      rw [hide_left hleft] at h
      cases t with
      | nil => exact List.nil_prefix
      | cons c t =>
          obtain ⟨hc, ht⟩ := List.cons_prefix_cons.1 h
          exact List.cons_prefix_cons.2 ⟨hc, ih ht⟩

/-- What is left of a text was there before. -/
theorem infix_of_infix_hide (hne : term ≠ []) (h : kept t <:+: hide term cells) :
    kept t <:+: cells := by
  induction cells using hide_induction hne with
  | nil => exact h
  | found rest ih =>
      rw [hide_found hne, List.infix_cons_iff] at h
      rcases h with hfirst | hlater
      · by_cases ht : t = []
        · rw [ht]
          exact List.nil_infix
        · exact absurd hfirst (kept_not_prefix_gone ht)
      · exact (ih hlater).trans (List.suffix_append _ rest).isInfix
  | left cell rest hleft ih =>
      rw [hide_left hleft, List.infix_cons_iff, ← hide_left hleft] at h
      rcases h with hfirst | hlater
      · exact (prefix_of_prefix_hide hne hfirst).isInfix
      · exact (ih hlater).trans (List.suffix_cons cell rest).isInfix

theorem not_infix_hide (hne : term ≠ []) : ¬ kept term <:+: hide term cells := by
  induction cells using hide_induction hne with
  | nil =>
      intro h
      exact kept_ne_nil hne (List.infix_nil.1 h)
  | found rest ih =>
      rw [hide_found hne, List.infix_cons_iff]
      exact not_or_intro (kept_not_prefix_gone hne) ih
  | left cell rest hleft ih =>
      -- nothing begins here that did not begin here before
      rw [hide_left hleft, List.infix_cons_iff, ← hide_left hleft]
      exact not_or_intro (fun h ↦ hleft (prefix_of_prefix_hide hne h)) ih

theorem replace_mark_append (hne : term ≠ []) (h : mark.Apart term) (new t : List α) :
    PyText.replace term new (mark.text ++ t) = mark.text ++ PyText.replace term new t := by
  -- at no place in the mark does the term begin, from the last to the first
  have hbody : ∀ part : List α, part <:+ mark.opening :: mark.body →
      PyText.replace term new (part ++ mark.closing :: t) =
        part ++ mark.closing :: PyText.replace term new t := by
    intro part hpart
    induction part with
    | nil =>
        apply PyText.replace_cons
        intro hprefix
        have hnil := prefix_of_prefix_append_cons (a := []) hprefix h.closing
        exact hne (List.prefix_nil.1 hnil)
    | cons c part ih =>
        have hnot : ¬ term <+: c :: (part ++ mark.closing :: t) := by
          intro hprefix
          have hin : term <+: c :: part := prefix_of_prefix_append_cons hprefix h.closing
          have hoccurs : term <:+: [] ++ mark.opening :: mark.body :=
            hin.isInfix.trans hpart.isInfix
          rcases (Substring.infix_append_cons hne h.opening).1 hoccurs with hbefore | hafter
          · exact hne (List.infix_nil.1 hbefore)
          · exact h.body hafter
        rw [List.cons_append, PyText.replace_cons hnot,
          ih ((List.suffix_cons c part).trans hpart), List.cons_append]
  have hwhole := hbody (mark.opening :: mark.body) List.suffix_rfl
  simpa [Mark.text] using hwhole

/-- Hiding is replacing by the mark. -/
theorem shown_hide (hne : term ≠ []) (h : mark.Apart term) :
    shown mark (hide term cells) = PyText.replace term mark.text (shown mark cells) := by
  induction cells using hide_induction hne with
  | nil => rfl
  | found rest ih =>
      rw [hide_found hne, shown_gone_cons, shown_append, shown_kept, PyText.replace_append hne, ih]
  | left cell rest hleft ih =>
      rw [hide_left hleft]
      cases cell with
      | kept c =>
          have hnot : ¬ term <+: c :: shown mark rest := by
            rw [← shown_kept_cons, prefix_shown_iff h.opening]
            exact hleft
          rw [shown_kept_cons, shown_kept_cons, PyText.replace_cons hnot, ih]
      | gone other => rw [shown_gone_cons, shown_gone_cons, replace_mark_append hne h, ih]

end Hide

/-! ## Places -/

section Places

variable {cells a b a' b' : List (Cell α)} {t term : List α} {i : Nat}

/-- A text at `i` is left, or a term that has gone shares a character with it. -/
def Touches (cells : List (Cell α)) (i length : Nat) : Prop :=
  ∃ a term b, cells = a ++ .gone term :: b ∧ (original a).length < i + length ∧
    i < (original a).length + term.length

theorem kept_or_touches_first (hterms : ∀ term, .gone term ∈ cells → term ≠ [])
    (h : t <+: original cells) : kept t <+: cells ∨ Touches cells 0 t.length := by
  induction cells generalizing t with
  | nil =>
      rw [original_nil, List.prefix_nil] at h
      rw [h]
      exact .inl List.nil_prefix
  | cons cell cells ih =>
      cases t with
      | nil => exact .inl List.nil_prefix
      | cons c t =>
          cases cell with
          | kept d =>
              rw [original_kept_cons] at h
              obtain ⟨rfl, ht⟩ := List.cons_prefix_cons.1 h
              rcases ih (fun term hterm ↦ hterms term (List.mem_cons_of_mem _ hterm)) ht with
                hkept | ⟨a, term, b, rfl, hfrom, hto⟩
              · exact .inl (List.cons_prefix_cons.2 ⟨rfl, hkept⟩)
              · right
                refine ⟨.kept c :: a, term, b, rfl, ?_, ?_⟩
                · rw [original_kept_cons, List.length_cons, List.length_cons]
                  omega
                · rw [original_kept_cons, List.length_cons]
                  omega
          | gone term =>
              have hpos : 0 < term.length := List.length_pos_iff.2 (hterms term List.mem_cons_self)
              right
              refine ⟨[], term, cells, rfl, ?_, ?_⟩
              · rw [original_nil, List.length_nil, List.length_cons]
                omega
              · rw [original_nil, List.length_nil]
                omega

theorem kept_or_touches (ht : t ≠ []) (hterms : ∀ term, .gone term ∈ cells → term ≠ [])
    (h : t <+: (original cells).drop i) : kept t <:+: cells ∨ Touches cells i t.length := by
  have hpos : 0 < t.length := List.length_pos_iff.2 ht
  induction cells generalizing i with
  | nil =>
      rw [original_nil, List.drop_nil, List.prefix_nil] at h
      exact absurd h ht
  | cons cell cells ih =>
      have hlater := fun term hterm ↦ hterms term (List.mem_cons_of_mem cell hterm)
      cases i with
      | zero =>
          rcases kept_or_touches_first hterms h with hkept | htouches
          · exact .inl hkept.isInfix
          · exact .inr htouches
      | succ i =>
          cases cell with
          | kept d =>
              rcases ih hlater h with hkept | ⟨a, term, b, rfl, hfrom, hto⟩
              · exact .inl (hkept.trans (List.suffix_cons _ cells).isInfix)
              · right
                refine ⟨.kept d :: a, term, b, rfl, ?_, ?_⟩
                · rw [original_kept_cons, List.length_cons]
                  omega
                · rw [original_kept_cons, List.length_cons]
                  omega
          | gone term =>
              -- the text begins within the term, or after it
              by_cases hin : i + 1 < term.length
              · right
                refine ⟨[], term, cells, rfl, ?_, ?_⟩
                · rw [original_nil, List.length_nil]
                  omega
                · rw [original_nil, List.length_nil]
                  omega
              · rw [original_gone_cons, List.drop_append,
                  List.drop_eq_nil_of_le (not_lt.1 hin), List.nil_append] at h
                rcases ih hlater h with hkept | ⟨a, other, b, rfl, hfrom, hto⟩
                · exact .inl (hkept.trans (List.suffix_cons _ cells).isInfix)
                · right
                  refine ⟨.gone term :: a, other, b, rfl, ?_, ?_⟩
                  · rw [original_gone_cons, List.length_append]
                    omega
                  · rw [original_gone_cons, List.length_append]
                    omega

/-- What is left is touched by no term that has gone. -/
theorem kept_apart (ht : t ≠ []) (h : a ++ kept t ++ b = a' ++ .gone term :: b') :
    (original a').length + term.length ≤ (original a).length ∨
      (original a).length + t.length ≤ (original a').length := by
  rw [List.append_assoc] at h
  rcases List.append_eq_append_iff.1 h with ⟨c, rfl, hc⟩ | ⟨c, rfl, hc⟩
  · -- the term lies after the start of the text
    rcases List.append_eq_append_iff.1 hc with ⟨d, rfl, -⟩ | ⟨d, hd, hterm⟩
    · right
      rw [original_append, original_append, original_kept, List.length_append, List.length_append]
      omega
    · cases d with
      | nil =>
          right
          rw [List.append_nil] at hd
          rw [original_append, ← hd, original_kept, List.length_append]
      | cons cell d =>
          have hcell : .gone term = cell := (List.cons.inj hterm).1
          have hmem : cell ∈ kept t := hd ▸ List.mem_append_right c List.mem_cons_self
          obtain ⟨x, -, hx⟩ := List.mem_map.1 hmem
          rw [← hcell] at hx
          cases hx
  · cases c with
    | nil =>
        cases t with
        | nil => exact absurd rfl ht
        | cons x t => cases (List.cons.inj hc).1
    | cons cell c =>
        left
        rw [← (List.cons.inj hc).1, original_append, original_gone_cons, List.length_append,
          List.length_append]
        omega

end Places

end Hidden
