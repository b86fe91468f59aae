import RetailMedia.Lib.Rows
import Mathlib.Data.List.Sort
import Mathlib.Data.List.Perm.Basic

/-! The latest rows of a table, and what a cap on their number keeps. -/

namespace Rows

variable {α κ ι : Type*}

section Latest

variable [LinearOrder κ] {key : α → κ}

/-- `kept` is a choice of the `n` latest rows of `l`, or of all rows if there are no more. -/
structure IsLatest (key : α → κ) (n : Nat) (l kept : List α) : Prop where
  sublist : kept.Sublist l
  length_eq : kept.length = min n l.length
  latest : ∀ x ∈ l, x ∉ kept → ∀ y ∈ kept, key x ≤ key y

theorem isLatest_nil (key : α → κ) (n : Nat) : IsLatest key n [] [] where
  sublist := List.Sublist.refl []
  length_eq := (Nat.min_zero n).symm
  latest _ hx := absurd hx List.not_mem_nil

/-- In a sorted list, what is taken comes before what is left. -/
theorem key_take_le_drop {l : List α} (hsorted : l.Pairwise fun x y ↦ key x ≤ key y) {k : Nat}
    {x y : α} (hx : x ∈ l.take k) (hy : y ∈ l.drop k) : key x ≤ key y := by
  rw [← List.take_append_drop k l, List.pairwise_append] at hsorted
  exact hsorted.2.2 x hx y hy

end Latest

/-! ## A cap -/

section Cap

variable {l : List α} {q : α → Bool} {n : Nat}

theorem length_filter_take_drop (q : α → Bool) (k : Nat) (l : List α) :
    (l.filter q).length = (l.take k).countP q + (l.drop k).countP q := by
  rw [← List.countP_eq_length_filter, ← List.countP_append, List.take_append_drop]

/-- The last `n` rows of a list are kept and one row with `q` is added.  The rows with `q` are then
as many as `n` allows exactly if there was a place left, or a row without `q` gives its own: only
one such row, unless no row with `q` has been cut off. -/
theorem capped_length_iff (hn : 1 ≤ n) :
    ((l.drop (l.length - n)).filter q).length + 1 = min n ((l.filter q).length + 1) ↔
      l.length < n ∨ (∃ x ∈ l.drop (l.length - n), q x = false) ∧
        ((l.drop (l.length - n)).countP (fun x ↦ !q x) = 1 ∨
          ∀ x ∈ l.take (l.length - n), q x = false) := by
  have hnewer : (l.drop (l.length - n)).length = (l.drop (l.length - n)).countP q +
      (l.drop (l.length - n)).countP (fun x ↦ !q x) := by
    rw [List.length_eq_countP_add_countP q]
    simp
  have hexists : (∃ x ∈ l.drop (l.length - n), q x = false) ↔
      0 < (l.drop (l.length - n)).countP (fun x ↦ !q x) := by
    simp [List.countP_pos_iff]
  have hall : (∀ x ∈ l.take (l.length - n), q x = false) ↔
      (l.take (l.length - n)).countP q = 0 := by
    simp [List.countP_eq_zero]
  have holder : (l.take (l.length - n)).countP q ≤ (l.take (l.length - n)).length :=
    List.countP_le_length
  rw [hexists, hall, length_filter_take_drop q (l.length - n) l, ← List.countP_eq_length_filter]
  rw [List.length_drop] at hnewer
  rw [List.length_take] at holder
  omega

end Cap

/-! ## A cut by keys -/

section Cut

variable [DecidableEq ι] {key : α → ι} {l : List α}

/-- Under a unique key, the rows whose keys are not among those taken are the rows left. -/
theorem filter_key_notMem_take (h : (l.map key).Nodup) (k : Nat) (p : α → Bool) :
    l.filter (fun x ↦ p x ∧ key x ∉ (l.take k).map key) = (l.drop k).filter p := by
  have hsplit : l.filter (fun x ↦ p x ∧ key x ∉ (l.take k).map key) =
      (l.take k ++ l.drop k).filter (fun x ↦ p x ∧ key x ∉ (l.take k).map key) := by
    rw [List.take_append_drop]
  have hnodup : ((l.take k).map key ++ (l.drop k).map key).Nodup := by
    rw [← List.map_append, List.take_append_drop]
    exact h
  rw [hsplit, List.filter_append]
  have htaken : (l.take k).filter (fun x ↦ p x ∧ key x ∉ (l.take k).map key) = [] := by
    apply List.filter_eq_nil_iff.2
    intro x hx hcond
    rw [decide_eq_true_eq] at hcond
    exact hcond.2 (List.mem_map_of_mem hx)
  have hleft : (l.drop k).filter (fun x ↦ p x ∧ key x ∉ (l.take k).map key) =
      (l.drop k).filter p := by
    apply List.filter_congr
    intro x hx
    have hout : key x ∉ (l.take k).map key := fun hmem ↦
      List.disjoint_of_nodup_append hnodup hmem (List.mem_map_of_mem hx)
    simp only [hout, not_false_eq_true, and_true, Bool.decide_eq_true]
  rw [htaken, hleft, List.nil_append]

end Cut

end Rows
