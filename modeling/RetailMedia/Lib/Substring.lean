import Mathlib.Data.List.Infix
import Mathlib.Data.List.Forall2

/-! Searching a text for a term, when characters that are not in the term stand between the parts
of the text. -/

namespace Substring

variable {α : Type*} {term : List α}

/-- A term that does not contain the mark lies on one side of it. -/
theorem infix_append_cons {a b : List α} {mark : α} (hne : term ≠ []) (hmark : mark ∉ term) :
    term <:+: a ++ mark :: b ↔ term <:+: a ∨ term <:+: b := by
  constructor
  · rintro ⟨s, t, h⟩
    rw [List.append_assoc] at h
    rcases List.append_eq_append_iff.1 h with ⟨a', rfl, ha⟩ | ⟨s', rfl, hs⟩
    · rcases List.append_eq_append_iff.1 ha with ⟨x, rfl, -⟩ | ⟨x, rfl, hx⟩
      · exact .inl ⟨s, x, by simp⟩
      · cases x with
        | nil => exact .inl ⟨s, [], by simp⟩
        | cons y ys =>
            have hy : mark = y := (List.cons.inj hx).1
            exact absurd (hy ▸ List.mem_append_right a' List.mem_cons_self) hmark
    · cases s' with
      | nil =>
          cases term with
          | nil => exact absurd rfl hne
          | cons y ys =>
              have hy : mark = y := (List.cons.inj hs).1
              exact absurd (hy ▸ List.mem_cons_self) hmark
      | cons y ys =>
          refine .inr ⟨ys, t, ?_⟩
          rw [List.append_assoc]
          exact (List.cons.inj hs).2.symm
  · rintro (h | h)
    · exact h.trans (List.prefix_append a _).isInfix
    · exact h.trans ((List.suffix_cons mark b).trans (List.suffix_append a _)).isInfix

/-- The term occurs in the text exactly when it occurs in one of the parts. -/
def Splits (term text : List α) (parts : List (List α)) : Prop :=
  term <:+: text ↔ ∃ p ∈ parts, term <:+: p

theorem splits_self (term text : List α) : Splits term text [text] := by
  unfold Splits
  simp

theorem splits_absent {text : List α} (h : ¬ term <:+: text) : Splits term text [] := by
  unfold Splits
  simpa using h

theorem splits_marks (hne : term ≠ []) {text : List α} (h : ∀ c ∈ text, c ∉ term) :
    Splits term text [] := by
  apply splits_absent
  intro hfound
  obtain ⟨c, hc⟩ := List.exists_mem_of_ne_nil term hne
  exact h c (hfound.mem hc) hc

theorem splits_nil (hne : term ≠ []) : Splits term [] [] := splits_marks hne (by simp)

theorem Splits.append_mark (hne : term ≠ []) {a b : List α} {pa pb : List (List α)} {mark : α}
    (ha : Splits term a pa) (hb : Splits term b pb) (hmark : mark ∉ term) :
    Splits term (a ++ mark :: b) (pa ++ pb) := by
  unfold Splits at ha hb ⊢
  rw [infix_append_cons hne hmark, ha, hb]
  simp only [List.mem_append, or_and_right, exists_or]

theorem Splits.cons_mark (hne : term ≠ []) {b : List α} {pb : List (List α)} {mark : α}
    (hb : Splits term b pb) (hmark : mark ∉ term) : Splits term (mark :: b) pb :=
  (splits_nil hne).append_mark hne hb hmark

theorem Splits.marks_append (hne : term ≠ []) {marks b : List α} {pb : List (List α)}
    (hb : Splits term b pb) (hmarks : ∀ c ∈ marks, c ∉ term) : Splits term (marks ++ b) pb := by
  induction marks with
  | nil => exact hb
  | cons c marks ih =>
      have hrest := ih fun d hd ↦ hmarks d (List.mem_cons_of_mem c hd)
      exact hrest.cons_mark hne (hmarks c List.mem_cons_self)

theorem Splits.concat_mark (hne : term ≠ []) {a : List α} {pa : List (List α)} {mark : α}
    (ha : Splits term a pa) (hmark : mark ∉ term) : Splits term (a ++ [mark]) pa := by
  have h := ha.append_mark hne (splits_nil hne) hmark
  rwa [List.append_nil] at h

/-- Two parts with a separator between them. -/
theorem Splits.append_sep (hne : term ≠ []) {sep a b : List α} {pa pb : List (List α)}
    (hsep : sep ≠ []) (hmarks : ∀ c ∈ sep, c ∉ term) (ha : Splits term a pa)
    (hb : Splits term b pb) : Splits term (a ++ sep ++ b) (pa ++ pb) := by
  cases sep with
  | nil => exact absurd rfl hsep
  | cons mark marks =>
      have hnext := hb.marks_append hne fun c hc ↦ hmarks c (List.mem_cons_of_mem mark hc)
      have hall := ha.append_mark hne hnext (hmarks mark List.mem_cons_self)
      rwa [List.append_assoc]

/-- A separator between all items. -/
theorem Splits.intercalate (hne : term ≠ []) {sep : List α} (hsep : sep ≠ [])
    (hmarks : ∀ c ∈ sep, c ∉ term) {texts : List (List α)} {parts : List (List (List α))}
    (h : List.Forall₂ (Splits term) texts parts) :
    Splits term (sep.intercalate texts) parts.flatten := by
  induction h with
  | nil => exact splits_nil hne
  | cons hfirst hothers ih =>
      cases hothers with
      | nil =>
          rw [List.intercalate_singleton, List.flatten_singleton]
          exact hfirst
      | cons hsecond hothers =>
          rw [List.intercalate_cons_cons, List.flatten_cons]
          exact hfirst.append_sep hne hsep hmarks ih

end Substring
