import Mathlib.Data.List.Basic
import Mathlib.Algebra.Order.Group.Defs
import Mathlib.Algebra.Order.Monoid.Unbundled.Basic

/-! Runs of a system whose next state is a function of the state and of the label it takes. -/

namespace Run

variable {σ α : Type*} (next : σ → α → σ)

/-- The state after the labels of `l`, taken in order. -/
def final (s : σ) (l : List α) : σ := l.foldl next s

/-- `P` holds in every state of the run, the first and the last included. -/
def Always (P : σ → Prop) : σ → List α → Prop
  | s, [] => P s
  | s, a :: l => P s ∧ Always P (next s a) l

/-- Every step of the run meets `G` in the state it is taken from. -/
def Guarded (G : σ → α → Prop) : σ → List α → Prop
  | _, [] => True
  | s, a :: l => G s a ∧ Guarded G (next s a) l

instance decidableAlways (P : σ → Prop) [DecidablePred P] (s : σ) (l : List α) :
    Decidable (Always next P s l) :=
  match l with
  | [] => inferInstanceAs (Decidable (P s))
  | a :: l =>
      have := decidableAlways P (next s a) l
      inferInstanceAs (Decidable (P s ∧ Always next P (next s a) l))

instance decidableGuarded (G : σ → α → Prop) [∀ s, DecidablePred (G s)] (s : σ) (l : List α) :
    Decidable (Guarded next G s l) :=
  match l with
  | [] => inferInstanceAs (Decidable True)
  | a :: l =>
      have := decidableGuarded G (next s a) l
      inferInstanceAs (Decidable (G s a ∧ Guarded next G (next s a) l))

variable {next}

@[simp] theorem final_nil (s : σ) : final next s [] = s := rfl

@[simp] theorem final_cons (s : σ) (a : α) (l : List α) :
    final next s (a :: l) = final next (next s a) l := rfl

/-- What the labels add to `P` one by one, a run has from one of its labels. -/
theorem final_iff_exists {P : σ → Prop} {A : α → Prop} (h : ∀ s a, P (next s a) ↔ P s ∨ A a)
    (s : σ) (l : List α) : P (final next s l) ↔ P s ∨ ∃ a ∈ l, A a := by
  induction l generalizing s with
  | nil => simp
  | cons a l ih =>
      rw [final_cons, ih, h, or_assoc]
      simp

theorem Always.head {P : σ → Prop} {s : σ} {l : List α} (h : Always next P s l) : P s := by
  cases l with
  | nil => exact h
  | cons a l => exact h.1

theorem Always.final {P : σ → Prop} {s : σ} {l : List α} (h : Always next P s l) :
    P (Run.final next s l) := by
  induction l generalizing s with
  | nil => exact h
  | cons a l ih => exact ih h.2

theorem Always.mono {P Q : σ → Prop} (hPQ : ∀ s, P s → Q s) {s : σ} {l : List α}
    (h : Always next P s l) : Always next Q s l := by
  induction l generalizing s with
  | nil => exact hPQ s h
  | cons a l ih => exact ⟨hPQ s h.1, ih h.2⟩

theorem Always.and {P Q : σ → Prop} {s : σ} {l : List α} (hP : Always next P s l)
    (hQ : Always next Q s l) : Always next (fun s ↦ P s ∧ Q s) s l := by
  induction l generalizing s with
  | nil => exact ⟨hP, hQ⟩
  | cons a l ih => exact ⟨⟨hP.1, hQ.1⟩, ih hP.2 hQ.2⟩

theorem Guarded.mono {G H : σ → α → Prop} (hGH : ∀ s a, G s a → H s a) {s : σ} {l : List α}
    (h : Guarded next G s l) : Guarded next H s l := by
  induction l generalizing s with
  | nil => trivial
  | cons a l ih => exact ⟨hGH s a h.1, ih h.2⟩

theorem Guarded.last {G : σ → α → Prop} {s : σ} {l : List α} {a : α}
    (h : Guarded next G s (l ++ [a])) : G (Run.final next s l) a := by
  induction l generalizing s with
  | nil => exact h.1
  | cons b l ih => exact ih h.2

/-- The induction over runs: what holds at the start and is kept by every step that meets
the guard holds throughout each guarded run. -/
theorem always_of_guarded {I : σ → Prop} {G : σ → α → Prop}
    (hstep : ∀ s a, I s → G s a → I (next s a)) {s : σ} {l : List α}
    (h0 : I s) (hg : Guarded next G s l) : Always next I s l := by
  induction l generalizing s with
  | nil => exact h0
  | cons a l ih => exact ⟨h0, ih (hstep s a h0 hg.1) hg.2⟩

theorem always_of_step {I : σ → Prop} (hstep : ∀ s a, I s → I (next s a)) {s : σ}
    (l : List α) (h0 : I s) : Always next I s l := by
  induction l generalizing s with
  | nil => exact h0
  | cons a l ih => exact ⟨h0, ih (hstep s a h0)⟩

/-- The same induction for runs whose labels all meet `A`. -/
theorem always_of_labels {I : σ → Prop} {A : α → Prop}
    (hstep : ∀ s a, A a → I s → I (next s a)) {s : σ} {l : List α} (hl : ∀ a ∈ l, A a)
    (h0 : I s) : Always next I s l := by
  induction l generalizing s with
  | nil => exact h0
  | cons a l ih =>
      have hrest : ∀ b ∈ l, A b := fun b hb => hl b (List.mem_cons_of_mem a hb)
      exact ⟨h0, ih hrest (hstep s a (hl a List.mem_cons_self) h0)⟩

theorem Always.guarded {I : σ → Prop} {G : σ → α → Prop} (hG : ∀ s a, I s → G s a) {s : σ}
    {l : List α} (h : Always next I s l) : Guarded next G s l := by
  induction l generalizing s with
  | nil => trivial
  | cons a l ih => exact ⟨hG s a h.1, ih h.2⟩

/-- Two conditions on steps that agree under an invariant agree on runs. -/
theorem guarded_iff {I : σ → Prop} {G H : σ → α → Prop}
    (hinv : ∀ s a, I s → I (next s a)) (hstep : ∀ s a, I s → (G s a ↔ H s a)) {s : σ}
    {l : List α} (h0 : I s) : Guarded next G s l ↔ Guarded next H s l := by
  induction l generalizing s with
  | nil => exact Iff.rfl
  | cons a l ih => exact and_congr (hstep s a h0) (ih (hinv s a h0))

/-- When, under an invariant, a step keeps `P` exactly if it meets `G`, a run keeps `P`
exactly if all its steps meet `G`. -/
theorem always_iff_guarded {I P : σ → Prop} {G : σ → α → Prop} {A : α → Prop}
    (hinv : ∀ s a, A a → I s → I (next s a))
    (hstep : ∀ s a, A a → I s → P s → (P (next s a) ↔ G s a)) {s : σ} {l : List α}
    (hl : ∀ a ∈ l, A a) (h0 : I s) (hP : P s) :
    Always next P s l ↔ Guarded next G s l := by
  induction l generalizing s with
  | nil => exact ⟨fun _ => trivial, fun _ => hP⟩
  | cons a l ih =>
      have ha : A a := hl a List.mem_cons_self
      have hrest : ∀ b ∈ l, A b := fun b hb => hl b (List.mem_cons_of_mem a hb)
      have hI := hinv s a ha h0
      constructor
      · rintro ⟨-, ht⟩
        exact ⟨(hstep s a ha h0 hP).1 ht.head, (ih hrest hI ht.head).1 ht⟩
      · rintro ⟨hg, ht⟩
        have hP' := (hstep s a ha h0 hP).2 hg
        exact ⟨hP, (ih hrest hI hP').2 ht⟩

/-! ## The cost of a run -/

section Cost

variable {K : Type*} [AddCommGroup K] [PartialOrder K] [IsOrderedAddMonoid K]

/-- What the steps cost in all. -/
def spent (next : σ → α → σ) (cost : σ → α → K) : σ → List α → K
  | _, [] => 0
  | s, a :: l => cost s a + spent next cost (next s a) l

/-- The potential method: every step is paid from a potential.  The invariant also speaks of the
labels that are still to come. -/
theorem spent_le {cost : σ → α → K} {I : σ → List α → Prop} {potential : σ → K}
    (hstep : ∀ s a l, I s (a :: l) →
      I (next s a) l ∧ cost s a + potential (next s a) ≤ potential s)
    (hnonneg : ∀ s, 0 ≤ potential s) {s : σ} {l : List α} (h : I s l) :
    spent next cost s l ≤ potential s := by
  induction l generalizing s with
  | nil => exact hnonneg s
  | cons a l ih =>
      obtain ⟨hnext, hpaid⟩ := hstep s a l h
      calc spent next cost s (a :: l) = cost s a + spent next cost (next s a) l := rfl
        _ ≤ cost s a + potential (next s a) := add_le_add_right (ih hnext) _
        _ ≤ potential s := hpaid

end Cost

end Run
