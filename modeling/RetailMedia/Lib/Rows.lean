import RetailMedia.Lib.Run
import Mathlib.Data.List.Nodup
import Mathlib.Algebra.BigOperators.Group.List.Basic
import Mathlib.Order.Basic
import Mathlib.Tactic.Ring
import Mathlib.Tactic.Linarith

/-! Database tables as lists of rows: updates, primary keys, sums, sweeps with a running state,
and the newest row under an order. -/

namespace Rows

variable {α β κ σ : Type*}

/-! ## Updates -/

/-- `UPDATE … SET f WHERE p`. -/
def updateWhere (p : α → Bool) (f : α → α) (l : List α) : List α :=
  l.map fun x ↦ if p x then f x else x

@[simp] theorem updateWhere_nil (p : α → Bool) (f : α → α) : updateWhere p f [] = [] := rfl

@[simp] theorem updateWhere_cons (p : α → Bool) (f : α → α) (x : α) (l : List α) :
    updateWhere p f (x :: l) = (if p x then f x else x) :: updateWhere p f l := rfl

@[simp] theorem updateWhere_append (p : α → Bool) (f : α → α) (l m : List α) :
    updateWhere p f (l ++ m) = updateWhere p f l ++ updateWhere p f m :=
  List.map_append

theorem mem_updateWhere {p : α → Bool} {f : α → α} {l : List α} {y : α} :
    y ∈ updateWhere p f l ↔ ∃ x ∈ l, (if p x then f x else x) = y :=
  List.mem_map

theorem updateWhere_eq_self {p : α → Bool} {f : α → α} {l : List α}
    (h : ∀ x ∈ l, p x = false) : updateWhere p f l = l := by
  induction l with
  | nil => rfl
  | cons x l ih =>
      rw [updateWhere_cons, ih fun y hy ↦ h y (List.mem_cons_of_mem x hy),
        h x List.mem_cons_self]
      simp

/-- An update that keeps an attribute of every row keeps the column of that attribute. -/
theorem map_updateWhere {p : α → Bool} {f : α → α} (k : α → κ) (hk : ∀ x, k (f x) = k x)
    (l : List α) : (updateWhere p f l).map k = l.map k := by
  induction l with
  | nil => rfl
  | cons x l ih =>
      rw [updateWhere_cons, List.map_cons, List.map_cons, ih]
      by_cases hp : p x = true
      · rw [if_pos hp, hk]
      · rw [if_neg hp]

/-- A query of other rows does not see an update. -/
theorem filter_updateWhere_of_not {p q : α → Bool} {f : α → α} {l : List α}
    (h : ∀ x ∈ l, p x = true → q x = false ∧ q (f x) = false) :
    (updateWhere p f l).filter q = l.filter q := by
  induction l with
  | nil => rfl
  | cons x l ih =>
      have hrest := ih fun y hy ↦ h y (List.mem_cons_of_mem x hy)
      rw [updateWhere_cons]
      by_cases hp : p x = true
      · obtain ⟨hold, hnew⟩ := h x List.mem_cons_self hp
        rw [if_pos hp, List.filter_cons_of_neg (by simp [hnew]),
          List.filter_cons_of_neg (by simp [hold]), hrest]
      · rw [if_neg hp, List.filter_cons, List.filter_cons, hrest]

/-- A query of the updated rows returns the same exactly if the update changes none of them. -/
theorem filter_updateWhere_iff {p q : α → Bool} {f : α → α} {l : List α}
    (h : ∀ x ∈ l, p x = true → q x = true ∧ q (f x) = true) :
    (updateWhere p f l).filter q = l.filter q ↔ ∀ x ∈ l, p x = true → f x = x := by
  induction l with
  | nil => simp
  | cons x l ih =>
      have hrest := ih fun y hy ↦ h y (List.mem_cons_of_mem x hy)
      rw [updateWhere_cons, List.forall_mem_cons, ← hrest]
      by_cases hp : p x = true
      · obtain ⟨hold, hnew⟩ := h x List.mem_cons_self hp
        rw [if_pos hp, List.filter_cons_of_pos hnew, List.filter_cons_of_pos hold,
          List.cons_eq_cons]
        simp [hp]
      · rw [if_neg hp, List.filter_cons, List.filter_cons]
        by_cases hq : q x = true
        · rw [if_pos hq, if_pos hq, List.cons_eq_cons]
          simp [hp]
        · rw [if_neg hq, if_neg hq]
          simp [hp]

/-! ## Primary keys -/

theorem key_inj {key : α → κ} {l : List α} (h : (l.map key).Nodup) {x y : α}
    (hx : x ∈ l) (hy : y ∈ l) (hk : key x = key y) : x = y :=
  List.inj_on_of_nodup_map h hx hy hk

theorem nodup_concat {l : List κ} {k : κ} (h : l.Nodup) (hk : k ∉ l) : (l ++ [k]).Nodup :=
  List.nodup_append.2 ⟨h, List.nodup_singleton k, fun _ ha _ hb hab ↦
    hk (List.mem_singleton.1 hb ▸ hab ▸ ha)⟩

section Keys

variable [DecidableEq κ]

/-- The row with primary key `k`. -/
def get (key : α → κ) (k : κ) (l : List α) : Option α := l.find? fun x ↦ key x = k

theorem get_mem {key : α → κ} {k : κ} {l : List α} {x : α} (h : get key k l = some x) : x ∈ l :=
  List.mem_of_find?_eq_some h

theorem get_key {key : α → κ} {k : κ} {l : List α} {x : α} (h : get key k l = some x) :
    key x = k := by
  simpa using List.find?_some h

theorem get_eq_none {key : α → κ} {k : κ} {l : List α} :
    get key k l = none ↔ ∀ x ∈ l, key x ≠ k := by
  simp [get]

theorem get_isSome {key : α → κ} {k : κ} {l : List α} :
    (get key k l).isSome ↔ k ∈ l.map key := by
  simp [get, List.mem_map]

/-- Under a unique key, the lookup finds each row by its key. -/
theorem get_of_mem {key : α → κ} {l : List α} (h : (l.map key).Nodup) {x : α} (hx : x ∈ l) :
    get key (key x) l = some x := by
  cases hg : get key (key x) l with
  | none => exact absurd rfl (get_eq_none.1 hg x hx)
  | some y => rw [key_inj h (get_mem hg) hx (get_key hg)]

theorem get_eq_some {key : α → κ} {l : List α} (h : (l.map key).Nodup) {k : κ} {x : α} :
    get key k l = some x ↔ x ∈ l ∧ key x = k := by
  constructor
  · intro hget
    exact ⟨get_mem hget, get_key hget⟩
  · intro hx
    rw [← hx.2]
    exact get_of_mem h hx.1

/-- The order of the rows does not matter. -/
theorem get_perm {key : α → κ} {l m : List α} (h : (l.map key).Nodup) (hlm : l.Perm m) (k : κ) :
    get key k l = get key k m := by
  have hm : (m.map key).Nodup := (hlm.map key).nodup_iff.1 h
  apply Option.ext
  intro x
  rw [get_eq_some h, get_eq_some hm, hlm.mem_iff]

/-- A column value that the lookup finds is every row's with that key. -/
theorem column_of_get {key : α → κ} {l : List α} (h : (l.map key).Nodup) {γ : Type*}
    {column : α → γ} {k : κ} {a : γ} (hget : (get key k l).map column = some a) {x : α}
    (hx : x ∈ l) (hk : key x = k) : column x = a := by
  rw [← hk, get_of_mem h hx] at hget
  exact Option.some.inj hget

theorem get_append {key : α → κ} {k : κ} {l m : List α} :
    get key k (l ++ m) = (get key k l).or (get key k m) :=
  List.find?_append

/-- An update that keeps the keys is seen by a lookup as an update of the row found. -/
theorem get_updateWhere {key : α → κ} {k : κ} {p : α → Bool} {f : α → α}
    (hf : ∀ x, key (f x) = key x) (l : List α) :
    get key k (updateWhere p f l) = (get key k l).map fun x ↦ if p x then f x else x := by
  induction l with
  | nil => rfl
  | cons x l ih =>
      have hx : key (if p x = true then f x else x) = key x := by
        split
        · exact hf x
        · rfl
      unfold get at ih ⊢
      rw [updateWhere_cons, List.find?_cons, List.find?_cons, hx, ih]
      by_cases hk : key x = k
      · simp [hk]
      · simp [hk]

/-- The same for a change of all rows that keeps the keys of those that are there. -/
theorem get_map {key : α → κ} {k : κ} {f : α → α} {l : List α}
    (hf : ∀ x ∈ l, key (f x) = key x) : get key k (l.map f) = (get key k l).map f := by
  induction l with
  | nil => rfl
  | cons x l ih =>
      have hrest := ih fun y hy ↦ hf y (List.mem_cons_of_mem x hy)
      unfold get at hrest ⊢
      rw [List.map_cons, List.find?_cons, List.find?_cons, hf x List.mem_cons_self, hrest]
      by_cases hk : key x = k
      · simp [hk]
      · simp [hk]

/-! ## The rows of an owner -/

section Owner

variable {γ : Type*} [DecidableEq γ] {key : α → κ} {l : List α} {k : κ} {o : γ}

/-- `WHERE owner = o`. -/
def ownedBy (owner : α → γ) (o : γ) (l : List α) : List α := l.filter fun x ↦ owner x = o

theorem ownedBy_concat_iff (owner : α → γ) {x : α} :
    ownedBy owner o (l ++ [x]) = ownedBy owner o l ↔ owner x ≠ o := by
  unfold ownedBy
  rw [List.filter_append]
  by_cases h : owner x = o
  · simp [h]
  · simp [h]

variable {owner : α → γ} {f : α → α} (hkeys : (l.map key).Nodup)
  (howner : (get key k l).map owner = some o)
  (hf : ∀ x, owner (f x) = owner x)

include hkeys howner hf

/-- An update of one row by its key is an update of its owner's rows. -/
theorem ownedBy_update_other {o' : γ} (h : o' ≠ o) :
    ownedBy owner o' (updateWhere (key · = k) f l) = ownedBy owner o' l := by
  apply filter_updateWhere_of_not
  intro x hx hk
  have hxo : owner x = o := column_of_get hkeys howner hx (of_decide_eq_true hk)
  rw [hf, hxo]
  exact ⟨decide_eq_false h.symm, decide_eq_false h.symm⟩

theorem ownedBy_update_iff :
    ownedBy owner o (updateWhere (key · = k) f l) = ownedBy owner o l ↔
      ∀ x ∈ l, key x = k → f x = x := by
  have hrows : ∀ x ∈ l, decide (key x = k) = true →
      decide (owner x = o) = true ∧ decide (owner (f x) = o) = true := by
    intro x hx hk
    have hxo : owner x = o := column_of_get hkeys howner hx (of_decide_eq_true hk)
    rw [hf, hxo]
    exact ⟨decide_eq_true rfl, decide_eq_true rfl⟩
  refine (filter_updateWhere_iff hrows).trans ?_
  simp only [decide_eq_true_eq]

end Owner

end Keys

/-- A key not used by any row: the successor of the largest one. -/
def freshKey (l : List Nat) : Nat := l.foldr max 0 + 1

theorem le_foldr_max {l : List Nat} {n : Nat} (h : n ∈ l) : n ≤ l.foldr max 0 := by
  induction l with
  | nil => simp at h
  | cons m l ih =>
      rcases List.mem_cons.1 h with rfl | h
      · exact le_max_left _ _
      · exact (ih h).trans (le_max_right _ _)

theorem freshKey_not_mem (l : List Nat) : freshKey l ∉ l := by
  intro h
  have := le_foldr_max h
  unfold freshKey at this
  omega

/-! ## Rows matched one to one -/

theorem forall₂_mem_left {R : α → β → Prop} {l : List α} {m : List β} (h : List.Forall₂ R l m)
    {a : α} (ha : a ∈ l) : ∃ b ∈ m, R a b := by
  induction h with
  | nil => cases ha
  | @cons x y l m hxy _ ih =>
      rcases List.mem_cons.1 ha with rfl | ha
      · exact ⟨y, List.mem_cons_self, hxy⟩
      · obtain ⟨b, hb, hR⟩ := ih ha
        exact ⟨b, List.mem_cons_of_mem y hb, hR⟩

theorem forall₂_mem_right {R : α → β → Prop} {l : List α} {m : List β} (h : List.Forall₂ R l m)
    {b : β} (hb : b ∈ m) : ∃ a ∈ l, R a b :=
  forall₂_mem_left h.flip hb

theorem forall₂_comp {γ : Type*} {R : α → β → Prop} {S : β → γ → Prop} {T : α → γ → Prop}
    (hT : ∀ a b c, R a b → S b c → T a c) {l : List α} {m : List β} {n : List γ}
    (h : List.Forall₂ R l m) (h' : List.Forall₂ S m n) : List.Forall₂ T l n := by
  induction h generalizing n with
  | nil =>
      cases h'
      exact .nil
  | cons hab _ ih =>
      cases h' with
      | cons hbc hrest => exact .cons (hT _ _ _ hab hbc) (ih hrest)

/-! ## Sums over the rows that meet a condition -/

/-- `SELECT SUM(w) WHERE p`, zero when no row meets `p`. -/
def total (p : α → Bool) (w : α → Int) (l : List α) : Int :=
  (l.map fun x ↦ if p x then w x else 0).sum

@[simp] theorem total_nil (p : α → Bool) (w : α → Int) : total p w [] = 0 := rfl

@[simp] theorem total_cons (p : α → Bool) (w : α → Int) (x : α) (l : List α) :
    total p w (x :: l) = (if p x then w x else 0) + total p w l := by
  simp [total]

@[simp] theorem total_append (p : α → Bool) (w : α → Int) (l m : List α) :
    total p w (l ++ m) = total p w l + total p w m := by
  simp [total]

theorem total_nonneg {p : α → Bool} {w : α → Int} {l : List α}
    (h : ∀ x ∈ l, p x = true → 0 ≤ w x) : 0 ≤ total p w l := by
  induction l with
  | nil => simp
  | cons x l ih =>
      have hl := ih fun y hy ↦ h y (List.mem_cons_of_mem x hy)
      rw [total_cons]
      by_cases hp : p x = true
      · have hx := h x List.mem_cons_self hp
        rw [if_pos hp]
        omega
      · rw [if_neg hp]
        omega

theorem total_eq_zero {p : α → Bool} {w : α → Int} {l : List α}
    (h : ∀ x ∈ l, p x = false) : total p w l = 0 := by
  induction l with
  | nil => simp
  | cons x l ih =>
      rw [total_cons, ih fun y hy ↦ h y (List.mem_cons_of_mem x hy), h x List.mem_cons_self]
      simp

/-- One summand is at most the sum of nonnegative summands. -/
theorem le_total {p : α → Bool} {w : α → Int} {l : List α}
    (h : ∀ x ∈ l, p x = true → 0 ≤ w x) {x : α} (hx : x ∈ l) (hp : p x = true) :
    w x ≤ total p w l := by
  induction l with
  | nil => simp at hx
  | cons y l ih =>
      have hl : ∀ z ∈ l, p z = true → 0 ≤ w z := fun z hz ↦ h z (List.mem_cons_of_mem y hz)
      have hn := total_nonneg hl
      rw [total_cons]
      rcases List.mem_cons.1 hx with rfl | hx
      · rw [if_pos hp]
        omega
      · have hi := ih hl hx
        by_cases hy : p y = true
        · have := h y List.mem_cons_self hy
          rw [if_pos hy]
          omega
        · rw [if_neg hy]
          omega

/-! ## Sweeps -/

/-- A loop over `l`: each element may change the running state and leaves a result, the
element that takes its place or what the loop collects. -/
def sweep {γ : Type*} (step : σ → β → σ × γ) : σ → List β → σ × List γ
  | s, [] => (s, [])
  | s, b :: bs =>
      let r := step s b
      let t := sweep step r.1 bs
      (t.1, r.2 :: t.2)

variable {γ : Type*}

@[simp] theorem sweep_nil (step : σ → β → σ × γ) (s : σ) : sweep step s [] = (s, []) := rfl

theorem sweep_cons (step : σ → β → σ × γ) (s : σ) (b : β) (bs : List β) :
    sweep step s (b :: bs) =
      ((sweep step (step s b).1 bs).1, (step s b).2 :: (sweep step (step s b).1 bs).2) := rfl

theorem sweep_append (step : σ → β → σ × γ) (s : σ) (l m : List β) :
    sweep step s (l ++ m) = ((sweep step (sweep step s l).1 m).1,
      (sweep step s l).2 ++ (sweep step (sweep step s l).1 m).2) := by
  induction l generalizing s with
  | nil => rfl
  | cons b bs ih =>
      rw [List.cons_append, sweep_cons, sweep_cons, ih]
      rfl

/-- The loop rule: what relates the running state to the whole table, rows already replaced
and rows still to come alike, and survives one row, survives the sweep. -/
theorem sweep_invariant {step : σ → β → σ × β} {I : σ → List β → Prop}
    (h : ∀ s pre b post, I s (pre ++ b :: post) →
      I (step s b).1 (pre ++ (step s b).2 :: post))
    {s : σ} {l : List β} (h0 : I s l) : I (sweep step s l).1 (sweep step s l).2 := by
  have aux (bs : List β) : ∀ s pre, I s (pre ++ bs) →
      I (sweep step s bs).1 (pre ++ (sweep step s bs).2) := by
    induction bs with
    | nil => intro s pre hI; exact hI
    | cons b bs ih =>
        intro s pre hI
        have hI' := h s pre b bs hI
        rw [List.append_cons] at hI'
        have := ih (step s b).1 (pre ++ [(step s b).2]) hI'
        rw [List.append_assoc, List.singleton_append] at this
        exact this
  exact aux l s [] h0

/-- What the invariant gives for the next row holds at every row of the loop. -/
theorem sweep_guarded {step : σ → β → σ × β} {I : σ → List β → Prop} {G : σ → β → Prop}
    (h : ∀ s pre b post, I s (pre ++ b :: post) →
      I (step s b).1 (pre ++ (step s b).2 :: post))
    (hG : ∀ s pre b post, I s (pre ++ b :: post) → G s b) {s : σ} {l : List β} (h0 : I s l) :
    Run.Guarded (fun s b ↦ (step s b).1) G s l := by
  have aux (bs : List β) : ∀ s pre, I s (pre ++ bs) →
      Run.Guarded (fun s b ↦ (step s b).1) G s bs := by
    induction bs with
    | nil => exact fun _ _ _ ↦ trivial
    | cons b bs ih =>
        intro s pre hI
        have hI' := h s pre b bs hI
        rw [List.append_cons] at hI'
        exact ⟨hG s pre b bs hI, ih (step s b).1 (pre ++ [(step s b).2]) hI'⟩
  exact aux l s [] h0

theorem sweep_state {f : σ → β → σ × γ} {I : σ → Prop}
    (h : ∀ s b, I s → I (f s b).1) {s : σ} (l : List β) (h0 : I s) :
    I (sweep f s l).1 := by
  induction l generalizing s with
  | nil => exact h0
  | cons b bs ih => exact ih (h s b h0)

/-- What every row adds to a property of the running state, the whole loop adds to it. -/
theorem sweep_iff_guarded {f : σ → β → σ × γ} {P : σ → Prop} {G : σ → β → Prop}
    (h : ∀ s b, P (f s b).1 ↔ P s ∧ G s b) (s : σ) (l : List β) :
    P (sweep f s l).1 ↔ P s ∧ Run.Guarded (fun s b ↦ (f s b).1) G s l := by
  induction l generalizing s with
  | nil => exact (and_iff_left trivial).symm
  | cons b bs ih =>
      calc P (sweep f s (b :: bs)).1 ↔ P (f s b).1 ∧ Run.Guarded _ G (f s b).1 bs := ih (f s b).1
        _ ↔ (P s ∧ G s b) ∧ Run.Guarded _ G (f s b).1 bs := and_congr_left' (h s b)
        _ ↔ P s ∧ Run.Guarded _ G s (b :: bs) := and_assoc

/-- When a column of the results does not depend on the running state, a sweep maps it over the
table. -/
theorem sweep_column {δ : Type*} {step : σ → β → σ × γ} {I : σ → Prop} {h : γ → δ} {g : β → δ}
    {l : List β} (hstep : ∀ s, ∀ b ∈ l, I s → I (step s b).1 ∧ h (step s b).2 = g b) {s : σ}
    (h0 : I s) : (sweep step s l).2.map h = l.map g := by
  induction l generalizing s with
  | nil => rfl
  | cons b bs ih =>
      obtain ⟨hI, hg⟩ := hstep s b List.mem_cons_self h0
      rw [sweep_cons, List.map_cons, List.map_cons, hg]
      show g b :: (sweep step (step s b).1 bs).2.map h = _
      rw [ih (fun s c hc ↦ hstep s c (List.mem_cons_of_mem b hc)) hI]

/-- The same for the results as a whole. -/
theorem sweep_rows {step : σ → β → σ × γ} {I : σ → Prop} {g : β → γ} {l : List β}
    (h : ∀ s, ∀ b ∈ l, I s → I (step s b).1 ∧ (step s b).2 = g b) {s : σ} (h0 : I s) :
    (sweep step s l).2 = l.map g := by
  have hall := sweep_column (h := id) h h0
  rw [List.map_id] at hall
  exact hall

/-! ## The newest row -/

section Newest

variable [LinearOrder κ]

/-- `ORDER BY key DESC LIMIT 1`; among equal keys, the row that comes first. -/
def newest (key : α → κ) : List α → Option α
  | [] => none
  | x :: l =>
      match newest key l with
      | none => some x
      | some y => if key y ≤ key x then some x else some y

@[simp] theorem newest_nil (key : α → κ) : newest key [] = none := rfl

theorem newest_cons_isSome (key : α → κ) (x : α) (l : List α) :
    (newest key (x :: l)).isSome := by
  unfold newest
  split
  · rfl
  · split <;> rfl

theorem newest_eq_none {key : α → κ} {l : List α} : newest key l = none ↔ l = [] := by
  cases l with
  | nil => simp
  | cons x l =>
      have h := newest_cons_isSome key x l
      constructor
      · intro hn
        rw [hn] at h
        cases h
      · intro hl
        cases hl

theorem newest_mem {key : α → κ} {l : List α} {x : α} (h : newest key l = some x) : x ∈ l := by
  induction l generalizing x with
  | nil => cases h
  | cons y l ih =>
      unfold newest at h
      split at h
      · cases h
        exact List.mem_cons_self
      · rename_i z hz
        split at h
        · cases h
          exact List.mem_cons_self
        · cases h
          exact List.mem_cons_of_mem y (ih hz)

theorem newest_le {key : α → κ} {l : List α} {x : α} (h : newest key l = some x) :
    ∀ y ∈ l, key y ≤ key x := by
  induction l generalizing x with
  | nil => cases h
  | cons z l ih =>
      intro y hy
      unfold newest at h
      split at h
      · rename_i hnone
        cases h
        rw [newest_eq_none.1 hnone, List.mem_singleton] at hy
        exact hy ▸ le_refl _
      · rename_i w hw
        split at h
        · rename_i hle
          cases h
          rcases List.mem_cons.1 hy with rfl | hy
          · exact le_refl _
          · exact (ih hw y hy).trans hle
        · rename_i hlt
          cases h
          rcases List.mem_cons.1 hy with rfl | hy
          · exact (not_le.1 hlt).le
          · exact ih hw y hy

/-- It is the first of the rows that no row exceeds. -/
theorem newest_eq_some_iff {key : α → κ} {l : List α} {x : α} :
    newest key l = some x ↔ ∃ before after, l = before ++ x :: after ∧
      (∀ y ∈ before, key y < key x) ∧ ∀ y ∈ after, key y ≤ key x := by
  induction l generalizing x with
  | nil => simp
  | cons y l ih =>
      unfold newest
      constructor
      · intro h
        cases hl : newest key l with
        | none =>
            rw [hl] at h
            cases h
            rw [newest_eq_none.1 hl]
            exact ⟨[], [], rfl, nofun, nofun⟩
        | some z =>
            rw [hl] at h
            dsimp only at h
            by_cases hle : key z ≤ key y
            · rw [if_pos hle] at h
              cases h
              exact ⟨[], l, rfl, nofun, fun w hw ↦ (newest_le hl w hw).trans hle⟩
            · rw [if_neg hle] at h
              cases h
              obtain ⟨before, after, hsplit, hbefore, hafter⟩ := ih.1 hl
              refine ⟨y :: before, after, congrArg (y :: ·) hsplit, ?_, hafter⟩
              exact List.forall_mem_cons.2 ⟨not_le.1 hle, hbefore⟩
      · intro h
        obtain ⟨before, after, hsplit, hbefore, hafter⟩ := h
        cases before with
        | nil =>
            cases hsplit
            cases hl : newest key l with
            | none => rfl
            | some z => exact if_pos (hafter z (newest_mem hl))
        | cons b before =>
            cases hsplit
            obtain ⟨hy, hrest⟩ := List.forall_mem_cons.1 hbefore
            rw [ih.2 ⟨before, after, rfl, hrest, hafter⟩]
            exact if_neg (not_le.2 hy)

/-- Once rows are appended, the newest row is one of them or the newest row from before. -/
theorem newest_append {key : α → κ} {l m : List α} {x : α} (h : newest key (l ++ m) = some x) :
    x ∈ m ∨ newest key l = some x := by
  induction l generalizing x with
  | nil => exact .inl (newest_mem h)
  | cons y l ih =>
      rw [List.cons_append, newest] at h
      split at h
      · rename_i hnone
        cases h
        rw [(List.append_eq_nil_iff.1 (newest_eq_none.1 hnone)).1]
        exact .inr rfl
      · rename_i z hz
        split at h
        · rename_i hle
          cases h
          -- no row of `l` is newer than `z`, and `z` is not newer than `y`
          refine .inr ?_
          unfold newest
          split
          · rfl
          · rename_i w hw
            exact if_pos ((newest_le hz w (List.mem_append_left m (newest_mem hw))).trans hle)
        · rename_i hlt
          cases h
          rcases ih hz with hm | hl
          · exact .inl hm
          · refine .inr ?_
            rw [newest, hl]
            exact if_neg hlt

/-- A row newer than all rows before it is the newest once appended. -/
theorem newest_concat {key : α → κ} {l : List α} {x : α} (h : ∀ y ∈ l, key y < key x) :
    newest key (l ++ [x]) = some x := by
  induction l with
  | nil => rfl
  | cons y l ih =>
      have hx := ih fun z hz ↦ h z (List.mem_cons_of_mem y hz)
      rw [List.cons_append, newest, hx]
      exact if_neg (not_le.2 (h y List.mem_cons_self))

theorem newest_concat_eq (key : α → κ) (l : List α) (x : α) :
    newest key (l ++ [x]) =
      match newest key l with
      | none => some x
      | some y => if key y < key x then some x else some y := by
  induction l with
  | nil => rfl
  | cons z l ih =>
      rw [List.cons_append, newest, newest, ih]
      cases newest key l with
      | none =>
          dsimp only
          by_cases hz : key z < key x
          · rw [if_neg (not_le.2 hz), if_pos hz]
          · rw [if_pos (not_lt.1 hz), if_neg hz]
      | some y =>
          dsimp only
          by_cases hx : key y < key x
          · rw [if_pos hx]
            dsimp only
            by_cases hy : key y ≤ key z
            · rw [if_pos hy]
              dsimp only
              by_cases hz : key z < key x
              · rw [if_neg (not_le.2 hz), if_pos hz]
              · rw [if_pos (not_lt.1 hz), if_neg hz]
            · rw [if_neg hy, if_neg (not_le.2 ((not_le.1 hy).trans hx))]
              exact (if_pos hx).symm
          · rw [if_neg hx]
            dsimp only
            by_cases hy : key y ≤ key z
            · rw [if_pos hy]
              exact (if_neg (not_lt.2 ((not_lt.1 hx).trans hy))).symm
            · rw [if_neg hy]
              exact (if_neg hx).symm

end Newest

/-! ## Loops over rows that a round can end -/

section Loops

variable {ε : Type*}

/-- A loop none of whose rounds fails is a fold. -/
theorem foldlM_eq_foldl {step : σ → α → Except ε σ} {f : σ → α → σ} {l : List α}
    (h : ∀ s, ∀ a ∈ l, step s a = .ok (f s a)) (s : σ) :
    l.foldlM step s = .ok (l.foldl f s) := by
  induction l generalizing s with
  | nil => rfl
  | cons a l ih =>
      rw [List.foldlM_cons, h s a List.mem_cons_self]
      exact ih (fun s b hb ↦ h s b (List.mem_cons_of_mem a hb)) (f s a)

/-- A loop that collects results, or gives up at the first element without one. -/
theorem mapM_eq_ite {f : α → Option β} {p : α → Prop} [DecidablePred p] {g : α → β} {l : List α}
    (h : ∀ a ∈ l, f a = if p a then some (g a) else none) :
    l.mapM f = if ∀ a ∈ l, p a then some (l.map g) else none := by
  induction l with
  | nil => rfl
  | cons a l ih =>
      have hrest := ih fun b hb ↦ h b (List.mem_cons_of_mem a hb)
      rw [List.mapM_cons, h a List.mem_cons_self, hrest]
      by_cases ha : p a
      · by_cases hl : ∀ b ∈ l, p b
        · have hall : ∀ b ∈ a :: l, p b := List.forall_mem_cons.2 ⟨ha, hl⟩
          rw [if_pos ha, if_pos hl, if_pos hall]
          rfl
        · have hall : ¬ ∀ b ∈ a :: l, p b := fun hall ↦ hl (List.forall_mem_cons.1 hall).2
          rw [if_pos ha, if_neg hl, if_neg hall]
          rfl
      · have hall : ¬ ∀ b ∈ a :: l, p b := fun hall ↦ ha (List.forall_mem_cons.1 hall).1
        rw [if_neg ha, if_neg hall]
        rfl

end Loops

end Rows
