import RetailMedia.Lib.Dict
import Mathlib.Algebra.BigOperators.Group.List.Basic
import Mathlib.Data.List.Dedup

/-! Left outer joins, and sums and counts over groups. -/

namespace Query

variable {α β κ ν : Type*}

/-! ## Joins -/

/-- The rows with each of their matches in the table; a row without a match comes once, alone. -/
def leftJoin (on : α → β → Bool) (rows : List α) (table : List β) : List (α × Option β) :=
  rows.flatMap fun a ↦
    match table.filter (on a) with
    | [] => [(a, none)]
    | b :: bs => (b :: bs).map fun b ↦ (a, some b)

/-- Where no row has two matches, a left join neither drops nor repeats one. -/
theorem map_fst_leftJoin {on : α → β → Bool} {table : List β}
    (h : ∀ a, (table.filter (on a)).length ≤ 1) (rows : List α) :
    (leftJoin on rows table).map (·.1) = rows := by
  induction rows with
  | nil => rfl
  | cons a rows ih =>
      unfold leftJoin at ih ⊢
      rw [List.flatMap_cons, List.map_append, ih]
      have hone := h a
      cases hmatch : table.filter (on a) with
      | nil => rfl
      | cons b bs =>
          rw [hmatch, List.length_cons] at hone
          have hbs : bs = [] := List.eq_nil_of_length_eq_zero (by omega)
          rw [hbs]
          rfl

/-- Each row comes as often as it has matches, and once if it has none. -/
theorem map_leftJoin_fst {γ : Type*} (on : α → β → Bool) (table : List β) (g : α → γ)
    (rows : List α) : (leftJoin on rows table).map (fun r ↦ g r.1) =
      rows.flatMap fun a ↦ List.replicate (max 1 (table.countP (on a))) (g a) := by
  unfold leftJoin
  rw [List.map_flatMap]
  congr 1
  funext a
  rw [List.countP_eq_length_filter]
  cases table.filter (on a) with
  | nil => rfl
  | cons b bs =>
      rw [List.map_map, List.length_cons, Nat.max_eq_right (by omega)]
      exact List.map_const' (l := b :: bs) (b := g a)

/-- What is made of the matches alone. -/
theorem filterMap_leftJoin {γ : Type*} (on : α → β → Bool) (table : List β) (f : α → β → Option γ)
    (rows : List α) : (leftJoin on rows table).filterMap (fun r ↦ r.2.bind (f r.1)) =
      rows.flatMap fun a ↦ (table.filter (on a)).filterMap (f a) := by
  unfold leftJoin
  rw [List.filterMap_flatMap]
  congr 1
  funext a
  cases table.filter (on a) with
  | nil => rfl
  | cons b bs => exact List.filterMap_map

theorem filter_key_length [DecidableEq κ] {key : β → κ} {table : List β}
    (h : (table.map key).Nodup) (k : κ) : (table.filter fun b ↦ key b = k).length ≤ 1 := by
  induction table with
  | nil => exact Nat.zero_le 1
  | cons b table ih =>
      have hcons := List.nodup_cons.1 h
      by_cases hb : key b = k
      · have hnone : table.filter (fun x ↦ key x = k) = [] := by
          rw [List.filter_eq_nil_iff]
          intro x hx hsame
          apply hcons.1
          rw [hb, ← of_decide_eq_true hsame]
          exact List.mem_map_of_mem hx
        rw [List.filter_cons_of_pos (by simpa using hb), hnone]
        exact Nat.le_refl 1
      · rw [List.filter_cons_of_neg (by simpa using hb)]
        exact ih hcons.2

/-! ## Groups -/

section Groups

variable [DecidableEq κ] {M : Type*} [AddCommMonoid M]

theorem sum_upsert {F : ν → M} {k : κ} {f : Option ν → ν} {c : M}
    (h : ∀ old : Option ν, F (f old) = (old.map F).getD 0 + c) (d : List (κ × ν)) :
    ((Dict.upsert k f d).map fun e ↦ F e.2).sum = (d.map fun e ↦ F e.2).sum + c := by
  induction d with
  | nil =>
      show F (f none) + 0 = 0 + c
      rw [h none, add_zero]
      rfl
  | cons e d ih =>
      unfold Dict.upsert
      by_cases he : e.1 = k
      · rw [if_pos he, List.map_cons, List.sum_cons, List.map_cons, List.sum_cons, h]
        show F e.2 + c + _ = F e.2 + _ + c
        rw [add_right_comm]
      · rw [if_neg he, List.map_cons, List.sum_cons, ih, List.map_cons, List.sum_cons, add_assoc]

/-- What the members of the groups add up to together, the entries do. -/
theorem sum_groupBy (w : α → M) (entries : List (α × κ)) :
    ((Dict.groupBy entries).map fun g ↦ (g.2.map w).sum).sum =
      (entries.map fun e ↦ w e.1).sum := by
  induction entries using List.reverseRecOn with
  | nil => rfl
  | append_singleton entries e ih =>
      have hgroup (old : Option (List α)) : ((old.getD [] ++ [e.1]).map w).sum =
          (old.map fun xs ↦ (xs.map w).sum).getD 0 + w e.1 := by
        rw [List.map_append, List.sum_append, List.map_singleton, List.sum_singleton]
        cases old with
        | none => rfl
        | some xs => rfl
      have hnext := sum_upsert (F := fun xs : List α ↦ (xs.map w).sum) (k := e.2) hgroup
        (Dict.groupBy entries)
      rw [Dict.groupBy_concat, hnext, ih, List.map_append, List.sum_append, List.map_singleton,
        List.sum_singleton]

omit M [AddCommMonoid M] in
/-- There is a group for each value. -/
theorem length_groupBy (entries : List (α × κ)) :
    (Dict.groupBy entries).length = (entries.map (·.2)).dedup.length := by
  have hsame : ((Dict.groupBy entries).map (·.1)).Perm (entries.map (·.2)).dedup := by
    apply (List.perm_ext_iff_of_nodup (Dict.nodup_keys_groupBy entries)
      (List.nodup_dedup _)).2
    intro k
    rw [List.mem_dedup, List.mem_map, List.mem_map]
    constructor
    · rintro ⟨g, hg, rfl⟩
      have hne := (Dict.mem_groupBy_iff.1 hg).2
      obtain ⟨x, hx⟩ := List.exists_mem_of_ne_nil _ hne
      exact ⟨(x, g.1), Dict.mem_groupBy hg hx, rfl⟩
    · rintro ⟨e, he, rfl⟩
      obtain ⟨g, hg, hk, -⟩ := Dict.mem_group.2 he
      exact ⟨g, hg, hk⟩
  rw [← hsame.length_eq, List.length_map]

end Groups

end Query
