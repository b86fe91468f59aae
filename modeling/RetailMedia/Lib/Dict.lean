import Mathlib.Data.List.Induction
import Mathlib.Data.List.Nodup

/-! Dictionaries that keep the order in which their keys were first set. -/

namespace Dict

variable {κ ν α : Type*} [DecidableEq κ]

/-- Sets the value of `k` from its old value; a new key goes to the end. -/
def upsert (k : κ) (f : Option ν → ν) : List (κ × ν) → List (κ × ν)
  | [] => [(k, f none)]
  | e :: d => if e.1 = k then (k, f (some e.2)) :: d else e :: upsert k f d

/-- `d[k] = v` for each entry in turn. -/
def setAll (d : List (κ × ν)) (entries : List (κ × ν)) : List (κ × ν) :=
  entries.foldl (fun d e ↦ upsert e.1 (fun _ ↦ e.2) d) d

/-- The keys of each value, in order. -/
def groupBy (entries : List (α × κ)) : List (κ × List α) :=
  entries.foldl (fun d e ↦ upsert e.2 (fun xs ↦ xs.getD [] ++ [e.1]) d) []

/-- `d.get(k, default)`. -/
def getD (d : List (κ × ν)) (k : κ) (default : ν) : ν :=
  ((d.find? fun e ↦ e.1 = k).map (·.2)).getD default

theorem mem_upsert {k : κ} {f : Option ν → ν} {d : List (κ × ν)} {e : κ × ν}
    (h : e ∈ upsert k f d) :
    e ∈ d ∨ e = (k, f none) ∨ ∃ v, (k, v) ∈ d ∧ e = (k, f (some v)) := by
  induction d with
  | nil =>
      rw [upsert, List.mem_singleton] at h
      exact .inr (.inl h)
  | cons x d ih =>
      unfold upsert at h
      split at h
      · rename_i hx
        rcases List.mem_cons.1 h with h | h
        · exact .inr (.inr ⟨x.2, hx ▸ List.mem_cons_self, h⟩)
        · exact .inl (List.mem_cons_of_mem x h)
      · rcases List.mem_cons.1 h with h | h
        · exact .inl (h ▸ List.mem_cons_self)
        · rcases ih h with h | h | ⟨v, hv, h⟩
          · exact .inl (List.mem_cons_of_mem x h)
          · exact .inr (.inl h)
          · exact .inr (.inr ⟨v, List.mem_cons_of_mem x hv, h⟩)

theorem mem_keys_upsert {k j : κ} {f : Option ν → ν} {d : List (κ × ν)} :
    j ∈ (upsert k f d).map (·.1) ↔ j = k ∨ j ∈ d.map (·.1) := by
  induction d with
  | nil => simp [upsert]
  | cons x d ih =>
      unfold upsert
      split
      · rename_i hx
        simp [← hx]
      · rw [List.map_cons, List.map_cons, List.mem_cons, List.mem_cons, ih]
        tauto

theorem nodup_keys_upsert {k : κ} {f : Option ν → ν} {d : List (κ × ν)}
    (h : (d.map (·.1)).Nodup) : ((upsert k f d).map (·.1)).Nodup := by
  induction d with
  | nil => exact List.nodup_singleton k
  | cons x d ih =>
      have hd := List.nodup_cons.1 h
      unfold upsert
      split
      · rename_i hx
        rw [← hx]
        exact h
      · rename_i hx
        apply List.nodup_cons.2
        refine ⟨fun hmem ↦ ?_, ih hd.2⟩
        rcases mem_keys_upsert.1 hmem with hk | hk
        · exact hx hk
        · exact hd.1 hk

theorem mem_setAll {entries d : List (κ × ν)} {e : κ × ν} (h : e ∈ setAll d entries) :
    e ∈ d ∨ e ∈ entries := by
  induction entries generalizing d with
  | nil => exact .inl h
  | cons x entries ih =>
      rcases ih h with h | h
      · rcases mem_upsert h with h | h | ⟨v, -, h⟩
        · exact .inl h
        · exact .inr (h ▸ List.mem_cons_self)
        · exact .inr (h ▸ List.mem_cons_self)
      · exact .inr (List.mem_cons_of_mem x h)

theorem upsert_new {k : κ} {f : Option ν → ν} {d : List (κ × ν)} (h : k ∉ d.map (·.1)) :
    upsert k f d = d ++ [(k, f none)] := by
  induction d with
  | nil => rfl
  | cons x d ih =>
      rw [List.map_cons, List.mem_cons, not_or] at h
      rw [upsert, if_neg (Ne.symm h.1), ih h.2]
      rfl

/-- Entries with different keys are set one after the other. -/
theorem setAll_of_nodup {d entries : List (κ × ν)} (h : ((d ++ entries).map (·.1)).Nodup) :
    setAll d entries = d ++ entries := by
  induction entries generalizing d with
  | nil => exact (List.append_nil d).symm
  | cons e entries ih =>
      have hsplit : d ++ e :: entries = (d ++ [e]) ++ entries := by simp
      have hnew : e.1 ∉ d.map (·.1) := by
        rw [List.map_append, List.nodup_append] at h
        exact fun hmem ↦ h.2.2 _ hmem _ List.mem_cons_self rfl
      rw [hsplit] at h ⊢
      rw [← ih h, setAll, List.foldl_cons, upsert_new hnew]
      rfl

theorem nodup_keys_groupBy (entries : List (α × κ)) : ((groupBy entries).map (·.1)).Nodup := by
  have aux (d : List (κ × List α)) (hd : (d.map (·.1)).Nodup) :
      ((entries.foldl (fun d e ↦ upsert e.2 (fun xs ↦ xs.getD [] ++ [e.1]) d) d).map
        (·.1)).Nodup := by
    induction entries generalizing d with
    | nil => exact hd
    | cons e entries ih => exact ih _ (nodup_keys_upsert hd)
  exact aux [] List.nodup_nil

/-! ## Looking up -/

/-- `d.get(k)`. -/
def lookup (d : List (κ × ν)) (k : κ) : Option ν := (d.find? fun e ↦ e.1 = k).map (·.2)

theorem lookup_cons (e : κ × ν) (d : List (κ × ν)) (k : κ) :
    lookup (e :: d) k = if e.1 = k then some e.2 else lookup d k := by
  unfold lookup
  rw [List.find?_cons]
  by_cases he : e.1 = k
  · rw [if_pos he, decide_eq_true he]
    rfl
  · rw [if_neg he, decide_eq_false he]

theorem lookup_upsert (k j : κ) (f : Option ν → ν) (d : List (κ × ν)) :
    lookup (upsert k f d) j = if j = k then some (f (lookup d k)) else lookup d j := by
  induction d with
  | nil =>
      rw [upsert, lookup_cons]
      by_cases hj : j = k
      · rw [if_pos hj, if_pos hj.symm]
        rfl
      · rw [if_neg hj, if_neg (Ne.symm hj)]
  | cons x d ih =>
      unfold upsert
      by_cases hx : x.1 = k
      · rw [if_pos hx, lookup_cons, lookup_cons, lookup_cons, if_pos hx]
        by_cases hj : j = k
        · rw [if_pos hj, if_pos hj.symm]
        · rw [if_neg hj, if_neg (Ne.symm hj), if_neg (hx ▸ Ne.symm hj)]
      · rw [if_neg hx, lookup_cons, lookup_cons, lookup_cons, ih, if_neg hx]
        by_cases hj : j = k
        · rw [if_pos hj, if_pos hj, if_neg (hj ▸ hx)]
        · rw [if_neg hj, if_neg hj]

/-- Each key is there once, so its entry is what the lookup finds. -/
theorem mem_iff_lookup {d : List (κ × ν)} (hd : (d.map (·.1)).Nodup) {k : κ} {v : ν} :
    (k, v) ∈ d ↔ lookup d k = some v := by
  induction d with
  | nil => simp [lookup]
  | cons x d ih =>
      have hrest := List.nodup_cons.1 hd
      rw [lookup_cons, List.mem_cons]
      by_cases hx : x.1 = k
      · have hk : (k, v) ∉ d := by
          intro hmem
          apply hrest.1
          exact List.mem_map.2 ⟨_, hmem, hx.symm⟩
        rw [if_pos hx, or_iff_left hk, Option.some.injEq, ← hx, Prod.ext_iff]
        exact ⟨fun h ↦ h.2.symm, fun h ↦ ⟨rfl, h.symm⟩⟩
      · have hk : (k, v) ≠ x := fun h ↦ hx (h ▸ rfl)
        rw [if_neg hx, or_iff_right hk]
        exact ih hrest.2

theorem nodup_keys_setAll {d entries : List (κ × ν)} (hd : (d.map (·.1)).Nodup) :
    ((setAll d entries).map (·.1)).Nodup := by
  induction entries generalizing d with
  | nil => exact hd
  | cons e entries ih => exact ih (nodup_keys_upsert hd)

theorem mem_keys_setAll {d entries : List (κ × ν)} {k : κ} :
    k ∈ (setAll d entries).map (·.1) ↔ k ∈ d.map (·.1) ∨ k ∈ entries.map (·.1) := by
  induction entries generalizing d with
  | nil => simp [setAll]
  | cons e entries ih =>
      have hstep : setAll d (e :: entries) = setAll (upsert e.1 (fun _ ↦ e.2) d) entries := rfl
      rw [hstep, ih, mem_keys_upsert, List.map_cons, List.mem_cons]
      tauto

/-- Entries that never give a key two values are all there in the end, and nothing else. -/
theorem mem_setAll_iff {entries : List (κ × ν)}
    (h : ∀ e ∈ entries, ∀ e' ∈ entries, e.1 = e'.1 → e.2 = e'.2) {e : κ × ν} :
    e ∈ setAll [] entries ↔ e ∈ entries := by
  constructor
  · intro he
    exact (mem_setAll he).resolve_left List.not_mem_nil
  · intro he
    have hkey : e.1 ∈ (setAll [] entries).map (·.1) :=
      mem_keys_setAll.2 (.inr (List.mem_map_of_mem he))
    -- the entry that the key has in the end has the same value
    obtain ⟨e', hmem, hk⟩ := List.mem_map.1 hkey
    have hmem' := (mem_setAll hmem).resolve_left List.not_mem_nil
    have heq : e' = e := Prod.ext hk (h e' hmem' e he hk)
    exact heq ▸ hmem

/-! ## Groups -/

/-- The keys that an entry gives the value `k`, in order. -/
def keysOf (entries : List (α × κ)) (k : κ) : List α :=
  (entries.filter fun e ↦ e.2 = k).map (·.1)

theorem mem_keysOf {entries : List (α × κ)} {k : κ} {x : α} :
    x ∈ keysOf entries k ↔ (x, k) ∈ entries := by
  simp [keysOf]

theorem groupBy_concat (entries : List (α × κ)) (e : α × κ) :
    groupBy (entries ++ [e]) = upsert e.2 (fun xs ↦ xs.getD [] ++ [e.1]) (groupBy entries) :=
  List.foldl_concat _ _ _ _

/-- A group is there when it has members, and holds all of them. -/
theorem lookup_groupBy (entries : List (α × κ)) (k : κ) :
    (lookup (groupBy entries) k).getD [] = keysOf entries k ∧
      (lookup (groupBy entries) k = none ↔ keysOf entries k = []) := by
  -- on the last entry, as the loop adds it to the groups of the ones before
  induction entries using List.reverseRecOn with
  | nil => exact ⟨rfl, ⟨fun _ ↦ rfl, fun _ ↦ rfl⟩⟩
  | append_singleton entries e ih =>
      have hkeys : keysOf (entries ++ [e]) k =
          keysOf entries k ++ if e.2 = k then [e.1] else [] := by
        unfold keysOf
        rw [List.filter_append, List.map_append, List.filter_singleton]
        by_cases he : e.2 = k
        · rw [if_pos he, decide_eq_true he, cond_true, List.map_singleton]
        · rw [if_neg he, decide_eq_false he, cond_false, List.map_nil]
      rw [groupBy_concat, lookup_upsert, hkeys]
      by_cases he : e.2 = k
      · rw [if_pos he.symm, if_pos he, he, ih.1]
        simp
      · rw [if_neg (Ne.symm he), if_neg he, List.append_nil]
        exact ih

theorem mem_groupBy_iff {entries : List (α × κ)} {k : κ} {xs : List α} :
    (k, xs) ∈ groupBy entries ↔ xs = keysOf entries k ∧ xs ≠ [] := by
  obtain ⟨hkeys, hnone⟩ := lookup_groupBy entries k
  rw [mem_iff_lookup (nodup_keys_groupBy entries)]
  cases hl : lookup (groupBy entries) k with
  | none =>
      have hempty := hnone.1 hl
      constructor
      · intro h
        cases h
      · intro h
        exact absurd (h.1.trans hempty) h.2
  | some ys =>
      have hne : keysOf entries k ≠ [] := by
        intro hempty
        rw [hnone.2 hempty] at hl
        cases hl
      have hys : ys = keysOf entries k := by
        rw [← hkeys, hl]
        rfl
      rw [Option.some.injEq, hys]
      constructor
      · intro h
        exact ⟨h.symm, h ▸ hne⟩
      · intro h
        exact h.1.symm

/-- What a group holds was in the entries under the group's key. -/
theorem mem_groupBy {entries : List (α × κ)} {k : κ} {xs : List α} {x : α}
    (h : (k, xs) ∈ groupBy entries) (hx : x ∈ xs) : (x, k) ∈ entries := by
  rw [(mem_groupBy_iff.1 h).1] at hx
  exact mem_keysOf.1 hx

/-- Every entry is in the group of its value. -/
theorem mem_group {entries : List (α × κ)} {x : α} {k : κ} :
    (∃ g ∈ groupBy entries, g.1 = k ∧ x ∈ g.2) ↔ (x, k) ∈ entries := by
  constructor
  · intro h
    obtain ⟨g, hg, hk, hx⟩ := h
    exact mem_groupBy (hk ▸ hg) hx
  · intro h
    have hx := mem_keysOf.2 h
    exact ⟨(k, keysOf entries k), mem_groupBy_iff.2 ⟨rfl, List.ne_nil_of_mem hx⟩, rfl, hx⟩

/-- The entries in another order make the same groups, up to the order in them. -/
theorem groupBy_perm {entries entries' : List (α × κ)} (h : entries.Perm entries')
    {g : κ × List α} (hg : g ∈ groupBy entries) :
    ∃ xs, (g.1, xs) ∈ groupBy entries' ∧ g.2.Perm xs := by
  have hgroup := mem_groupBy_iff.1 hg
  have hperm : (keysOf entries g.1).Perm (keysOf entries' g.1) := by
    unfold keysOf
    exact (h.filter _).map _
  have hne : keysOf entries' g.1 ≠ [] := by
    intro hempty
    rw [hempty] at hperm
    exact hgroup.2 (hgroup.1.trans hperm.eq_nil)
  exact ⟨_, mem_groupBy_iff.2 ⟨rfl, hne⟩, hgroup.1 ▸ hperm⟩

/-- Entries with different keys make groups without repetition. -/
theorem groupBy_nodup {entries : List (α × κ)} (h : (entries.map (·.1)).Nodup)
    {g : κ × List α} (hg : g ∈ groupBy entries) : g.2.Nodup := by
  rw [(mem_groupBy_iff.1 hg).1]
  exact h.sublist (List.filter_sublist.map _)

/-- Such groups have no member in common. -/
theorem groupBy_disjoint {entries : List (α × κ)} (h : (entries.map (·.1)).Nodup) :
    (groupBy entries).Pairwise fun g g' ↦ g.2.Disjoint g'.2 := by
  have hkeys : (groupBy entries).Pairwise fun g g' ↦ g.1 ≠ g'.1 :=
    List.pairwise_map.1 (nodup_keys_groupBy entries)
  apply hkeys.imp_of_mem
  intro g g' hg hg' hne x hx hx'
  have hmem := mem_groupBy hg hx
  have hmem' := mem_groupBy hg' hx'
  exact hne (congrArg Prod.snd (List.inj_on_of_nodup_map h hmem hmem' rfl))

end Dict
