import Mathlib.Data.Finset.Card
import Mathlib.Data.Finset.Image
import Mathlib.Order.Interval.Finset.Nat
import Mathlib.Tactic.Common

/-! The search for a name that is not used, along names with a number. -/

namespace FreshName

variable {β : Type*} [DecidableEq β] {used : List β} {name : Nat → β} {n : Nat}

/-- The first number from `n` on whose name is not used. -/
def search (used : List β) (name : Nat → β) : (fuel : Nat) → Nat → Option Nat
  | 0, _ => none
  | fuel + 1, n => if name n ∈ used then search used name fuel (n + 1) else some n

/-- As many names as are used do not take up one more number. -/
theorem exists_unused (h : Set.InjOn name (Set.Ici n)) :
    ∃ k, k ≤ used.length ∧ name (n + k) ∉ used := by
  by_contra hall
  -- the names of one number more than there are used ones would all be used
  have hused : ∀ k ≤ used.length, name (n + k) ∈ used := by
    intro k hk
    by_contra hunused
    exact hall ⟨k, hk, hunused⟩
  have hsubset : (Finset.Icc n (n + used.length)).image name ⊆ used.toFinset := by
    intro code hcode
    obtain ⟨i, hi, rfl⟩ := Finset.mem_image.1 hcode
    obtain ⟨hlow, hhigh⟩ := Finset.mem_Icc.1 hi
    have hmem := hused (i - n) (by omega)
    rw [show n + (i - n) = i by omega] at hmem
    exact List.mem_toFinset.2 hmem
  have hinj : Set.InjOn name (Finset.Icc n (n + used.length)) := by
    apply h.mono
    intro i hi
    exact (Finset.mem_Icc.1 (Finset.mem_coe.1 hi)).1
  have hcard : used.length + 1 ≤ used.length := by
    calc used.length + 1 = (Finset.Icc n (n + used.length)).card := by
          rw [Nat.card_Icc]
          omega
      _ = ((Finset.Icc n (n + used.length)).image name).card :=
          (Finset.card_image_of_injOn hinj).symm
      _ ≤ used.toFinset.card := Finset.card_le_card hsubset
      _ ≤ used.length := used.toFinset_card_le
  omega

theorem search_of_first {k fuel : Nat} (hused : ∀ i < k, name (n + i) ∈ used)
    (hunused : name (n + k) ∉ used) (hfuel : k < fuel) :
    search used name fuel n = some (n + k) := by
  induction k generalizing n fuel with
  | zero =>
      obtain ⟨fuel, rfl⟩ : ∃ f, fuel = f + 1 := ⟨fuel - 1, by omega⟩
      exact if_neg hunused
  | succ k ih =>
      obtain ⟨fuel, rfl⟩ : ∃ f, fuel = f + 1 := ⟨fuel - 1, by omega⟩
      have hnext : search used name fuel (n + 1) = some (n + 1 + k) := by
        apply ih
        · intro i hi
          rw [show n + 1 + i = n + (i + 1) by omega]
          exact hused (i + 1) (by omega)
        · rw [show n + 1 + k = n + (k + 1) by omega]
          exact hunused
        · omega
      have hfirst : name n ∈ used := hused 0 (by omega)
      rw [search, if_pos hfirst, hnext, show n + 1 + k = n + (k + 1) by omega]

/-- The search stops at the first name that is not used, if its fuel takes it there. -/
theorem search_iff {fuel m : Nat} : search used name fuel n = some m ↔
    ∃ k < fuel, m = n + k ∧ name (n + k) ∉ used ∧ ∀ i < k, name (n + i) ∈ used := by
  constructor
  · intro h
    induction fuel generalizing n with
    | zero => cases h
    | succ fuel ih =>
        unfold search at h
        by_cases hused : name n ∈ used
        · rw [if_pos hused] at h
          obtain ⟨k, hk, hm, hunused, hbefore⟩ := ih h
          refine ⟨k + 1, by omega, by omega, ?_, ?_⟩
          · rw [show n + (k + 1) = n + 1 + k by omega]
            exact hunused
          · intro i hi
            cases i with
            | zero => exact hused
            | succ i =>
                rw [show n + (i + 1) = n + 1 + i by omega]
                exact hbefore i (by omega)
        · rw [if_neg hused] at h
          cases h
          refine ⟨0, by omega, rfl, hused, ?_⟩
          intro i hi
          omega
  · intro ⟨k, hk, hm, hunused, hbefore⟩
    rw [hm]
    exact search_of_first hbefore hunused hk

/-- With different names for different numbers, the search ends within one step more than there are
used names. -/
theorem search_ends (h : Set.InjOn name (Set.Ici n)) :
    ∃ k, k ≤ used.length ∧ name (n + k) ∉ used ∧
      ∀ fuel, used.length < fuel → search used name fuel n = some (n + k) := by
  classical
  have hunused : ∃ k, k ≤ used.length ∧ name (n + k) ∉ used := exists_unused h
  have hexists : ∃ k, name (n + k) ∉ used := hunused.imp fun _ hk ↦ hk.2
  have hbound : Nat.find hexists ≤ used.length := by
    obtain ⟨k, hk, hfree⟩ := hunused
    exact (Nat.find_min' hexists hfree).trans hk
  refine ⟨Nat.find hexists, hbound, Nat.find_spec hexists, ?_⟩
  intro fuel hfuel
  apply search_of_first
  · intro i hi
    exact not_not.1 (Nat.find_min hexists hi)
  · exact Nat.find_spec hexists
  · omega

end FreshName
