import Mathlib.Data.List.Perm.Basic
import Mathlib.Data.List.Sort
import Mathlib.Tactic.Linarith

/-! Reading a sorted answer page by page, where rows of equal keys may come in another order each
time. -/

namespace Paging

variable {α β κ : Type*}

/-! ## Answers and pages -/

section Answers

variable [LinearOrder κ] {key : α → κ} {rows ans : List α}

/-- `ans` has the rows in the order of their keys; rows of equal keys come in any order. -/
structure IsSorted (key : α → κ) (rows ans : List α) : Prop where
  perm : ans.Perm rows
  sorted : ans.Pairwise fun x y ↦ key x ≤ key y

def page (offset limit : Nat) (ans : List α) : List α :=
  (ans.drop offset).take limit

/-- The first `n` pages, each cut out of an answer of its own. -/
def walk (limit : Nat) (answers : Nat → List α) : Nat → List α
  | 0 => []
  | n + 1 => walk limit answers n ++ page (n * limit) limit (answers n)

/-- The first `m` rows of an answer are a matter of their keys: no two rows of one key come on
both sides of the cut. -/
def Unsplit (key : α → κ) (rows : List α) (m : Nat) : Prop :=
  ∀ x ∈ rows, m ≤ rows.countP (fun y ↦ key y < key x) ∨ rows.countP (fun y ↦ key y ≤ key x) ≤ m

instance (key : α → κ) (rows : List α) (m : Nat) : Decidable (Unsplit key rows m) :=
  inferInstanceAs (Decidable (∀ x ∈ rows, _ ∨ _))

theorem take_append_page (offset limit : Nat) (ans : List α) :
    ans.take offset ++ page offset limit ans = ans.take (offset + limit) := by
  unfold page
  rw [List.take_add]

theorem walk_congr {answers answers' : Nat → List α} {limit : Nat} :
    ∀ {n : Nat}, (∀ i < n, answers i = answers' i) → walk limit answers n = walk limit answers' n
  | 0, _ => rfl
  | n + 1, h => by
      unfold walk
      rw [walk_congr fun i hi ↦ h i (by omega), h n (by omega)]

/-- Pages of one answer only put it together. -/
theorem walk_const (limit : Nat) (ans : List α) (n : Nat) :
    walk limit (fun _ ↦ ans) n = ans.take (n * limit) := by
  induction n with
  | zero =>
      rw [Nat.zero_mul]
      rfl
  | succ n ih =>
      unfold walk
      rw [ih, take_append_page, Nat.succ_mul]

theorem mem_walk {limit n i : Nat} {answers : Nat → List α} {x : α} (hi : i < n)
    (hx : x ∈ page (i * limit) limit (answers i)) : x ∈ walk limit answers n := by
  induction n with
  | zero => omega
  | succ n ih =>
      unfold walk
      rw [List.mem_append]
      rcases Nat.lt_or_ge i n with hlt | hge
      · exact Or.inl (ih hlt)
      · have hlast : i = n := by omega
        subst hlast
        exact Or.inr hx

theorem mem_walk_iff {limit n : Nat} {answers : Nat → List α} {x : α} :
    x ∈ walk limit answers n ↔ ∃ i < n, x ∈ page (i * limit) limit (answers i) := by
  constructor
  · intro hx
    induction n with
    | zero => exact absurd hx List.not_mem_nil
    | succ n ih =>
        unfold walk at hx
        rcases List.mem_append.1 hx with hx | hx
        · obtain ⟨i, hi, hpage⟩ := ih hx
          exact ⟨i, by omega, hpage⟩
        · exact ⟨n, by omega, hx⟩
  · rintro ⟨i, hi, hx⟩
    exact mem_walk hi hx

/-! ## What the keys say about places -/

namespace IsSorted

theorem countP_eq (h : IsSorted key rows ans) (p : α → Bool) : ans.countP p = rows.countP p :=
  h.perm.countP_eq p

theorem length_eq (h : IsSorted key rows ans) : ans.length = rows.length :=
  h.perm.length_eq

theorem key_le (h : IsSorted key rows ans) {i j : Nat} (hij : i ≤ j) (hi : i < ans.length)
    (hj : j < ans.length) : key ans[i] ≤ key ans[j] := by
  rcases Nat.lt_or_ge i j with hlt | hge
  · exact List.pairwise_iff_getElem.1 h.sorted i j hi hj hlt
  · have hsame : i = j := by omega
    subst hsame
    exact le_refl _

/-- The rows of a smaller key stand before a row. -/
theorem countP_lt_le (h : IsSorted key rows ans) {i : Nat} (hi : i < ans.length) :
    rows.countP (fun y ↦ key y < key ans[i]) ≤ i := by
  rw [← h.countP_eq]
  have hafter : (ans.drop i).countP (fun y ↦ key y < key ans[i]) = 0 := by
    rw [List.countP_eq_zero]
    intro y hy hlt
    obtain ⟨j, hj, rfl⟩ := List.getElem_of_mem hy
    rw [decide_eq_true_eq, List.getElem_drop] at hlt
    rw [List.length_drop] at hj
    exact absurd (h.key_le (Nat.le_add_right i j) hi (by omega)) (not_le.2 hlt)
  have hsplit : ans.countP (fun y ↦ key y < key ans[i]) =
      (ans.take i).countP (fun y ↦ key y < key ans[i]) +
        (ans.drop i).countP (fun y ↦ key y < key ans[i]) := by
    rw [← List.countP_append, List.take_append_drop]
  have hle : (ans.take i).countP (fun y ↦ key y < key ans[i]) ≤ (ans.take i).length :=
    List.countP_le_length
  rw [List.length_take] at hle
  omega

/-- A row, and all before it, have no larger key. -/
theorem lt_countP_le (h : IsSorted key rows ans) {i : Nat} (hi : i < ans.length) :
    i < rows.countP (fun y ↦ key y ≤ key ans[i]) := by
  rw [← h.countP_eq]
  have hbefore : (ans.take (i + 1)).countP (fun y ↦ key y ≤ key ans[i]) = i + 1 := by
    have hall : (ans.take (i + 1)).countP (fun y ↦ key y ≤ key ans[i]) =
        (ans.take (i + 1)).length := by
      rw [List.countP_eq_length]
      intro y hy
      obtain ⟨j, hj, rfl⟩ := List.getElem_of_mem hy
      rw [List.length_take] at hj
      rw [decide_eq_true_eq, List.getElem_take]
      exact h.key_le (by omega) (by omega) hi
    rw [hall, List.length_take]
    omega
  have hsub : (ans.take (i + 1)).countP (fun y ↦ key y ≤ key ans[i]) ≤
      ans.countP fun y ↦ key y ≤ key ans[i] := (List.take_sublist (i + 1) ans).countP_le
  omega

/-- Where no key is split, a row is before the cut exactly if there are no more rows up to its
key than the cut takes. -/
theorem take_eq_filter (h : IsSorted key rows ans) {m : Nat} (hcut : Unsplit key rows m) :
    ans.take m = ans.filter fun x ↦ rows.countP (fun y ↦ key y ≤ key x) ≤ m := by
  have hbefore : (ans.take m).filter (fun x ↦ rows.countP (fun y ↦ key y ≤ key x) ≤ m) =
      ans.take m := by
    rw [List.filter_eq_self]
    intro x hx
    obtain ⟨i, hi, rfl⟩ := List.getElem_of_mem hx
    rw [List.length_take] at hi
    have hin : i < ans.length := by omega
    rw [decide_eq_true_eq, List.getElem_take]
    rcases hcut ans[i] (h.perm.mem_iff.1 (List.getElem_mem hin)) with hlow | hhigh
    · have hplace := h.countP_lt_le hin
      omega
    · exact hhigh
  have hafter : (ans.drop m).filter (fun x ↦ rows.countP (fun y ↦ key y ≤ key x) ≤ m) = [] := by
    rw [List.filter_eq_nil_iff]
    intro x hx hle
    obtain ⟨i, hi, rfl⟩ := List.getElem_of_mem hx
    rw [List.length_drop] at hi
    rw [decide_eq_true_eq, List.getElem_drop] at hle
    have hplace := h.lt_countP_le (i := m + i) (by omega)
    omega
  conv_rhs => rw [← List.take_append_drop m ans]
  rw [List.filter_append, hbefore, hafter, List.append_nil]

theorem take_perm (h : IsSorted key rows ans) {m : Nat} (hcut : Unsplit key rows m) :
    (ans.take m).Perm (rows.filter fun x ↦ rows.countP (fun y ↦ key y ≤ key x) ≤ m) := by
  rw [h.take_eq_filter hcut]
  exact h.perm.filter _

end IsSorted

theorem unsplit_of_length_le {m : Nat} (hm : rows.length ≤ m) : Unsplit key rows m := by
  intro x _
  exact Or.inr (Nat.le_trans List.countP_le_length hm)

/-! ## Walks -/

/-- Where no page ends between rows of one key, a walk has the rows that its pages are to have,
whatever answer each page is cut out of. -/
theorem walk_perm_filter {limit n : Nat} {answers : Nat → List α}
    (h : ∀ i < n, IsSorted key rows (answers i)) (hcut : ∀ i ≤ n, Unsplit key rows (i * limit)) :
    (walk limit answers n).Perm
      (rows.filter fun x ↦ rows.countP (fun y ↦ key y ≤ key x) ≤ n * limit) := by
  induction n with
  | zero =>
      have hnone : rows.filter (fun x ↦ rows.countP (fun y ↦ key y ≤ key x) ≤ 0 * limit) = [] := by
        rw [List.filter_eq_nil_iff]
        intro x hx hle
        have hpos : 0 < rows.countP (fun y ↦ key y ≤ key x) :=
          List.countP_pos_iff.2 ⟨x, hx, by simp⟩
        rw [decide_eq_true_eq] at hle
        omega
      rw [hnone]
      exact List.Perm.refl []
  | succ n ih =>
      have hfirst := ih (fun i hi ↦ h i (by omega)) (fun i hi ↦ hcut i (by omega))
      have hlast := h n (by omega)
      have hjoined : (walk limit answers n ++ page (n * limit) limit (answers n)).Perm
          ((answers n).take (n * limit) ++ page (n * limit) limit (answers n)) :=
        (hfirst.trans (hlast.take_perm (hcut n (by omega))).symm).append_right _
      rw [take_append_page, ← Nat.succ_mul] at hjoined
      exact hjoined.trans (hlast.take_perm (hcut (n + 1) (Nat.le_refl _)))

/-- Walked to the end, the pages have every row once. -/
theorem walk_perm {limit n : Nat} {answers : Nat → List α}
    (h : ∀ i < n, IsSorted key rows (answers i)) (hcut : ∀ i < n, Unsplit key rows (i * limit))
    (hall : rows.length ≤ n * limit) : (walk limit answers n).Perm rows := by
  have hall' : rows.filter (fun x ↦ rows.countP (fun y ↦ key y ≤ key x) ≤ n * limit) = rows := by
    rw [List.filter_eq_self]
    intro x _
    rw [decide_eq_true_eq]
    exact Nat.le_trans List.countP_le_length hall
  rw [← hall']
  refine walk_perm_filter h fun i hi ↦ ?_
  rcases Nat.lt_or_ge i n with hlt | hge
  · exact hcut i hlt
  · have hlast : i = n := by omega
    rw [hlast]
    exact unsplit_of_length_le hall

theorem countP_le_add (key : α → κ) (rows : List α) (k : κ) :
    rows.countP (fun y ↦ key y ≤ k) =
      rows.countP (fun y ↦ key y < k) + rows.countP (fun y ↦ key y = k) := by
  induction rows with
  | nil => rfl
  | cons r rows ih =>
      rw [List.countP_cons, List.countP_cons, List.countP_cons, ih]
      rcases lt_trichotomy (key r) k with hlt | heq | hgt
      · simp only [hlt, le_of_lt hlt, ne_of_lt hlt, decide_true, decide_false, if_true,
          Bool.false_eq_true, if_false]
        omega
      · simp only [heq, lt_irrefl, le_refl, decide_true, decide_false, if_true,
          Bool.false_eq_true, if_false]
        omega
      · simp only [not_lt.2 (le_of_lt hgt), not_le.2 hgt, ne_of_gt hgt, decide_false,
          Bool.false_eq_true, if_false]
        omega

/-- A key that no two rows share is never split. -/
theorem unsplit_of_unique (h : (rows.map key).Nodup) (m : Nat) : Unsplit key rows m := by
  intro x _
  have hone : rows.countP (fun y ↦ key y = key x) ≤ 1 := by
    have hcount := List.nodup_iff_count_le_one.1 h (key x)
    rw [List.count, List.countP_map] at hcount
    refine Nat.le_trans (Nat.le_of_eq ?_) hcount
    exact List.countP_congr fun y _ ↦ by simp
  have hsplit := countP_le_add key rows (key x)
  omega

/-! ## Split keys -/

/-- Two neighbours of one key may as well come the other way round. -/
theorem IsSorted.swap {xs ys : List α} {a b : α} (h : IsSorted key rows (xs ++ a :: b :: ys))
    (hkey : key a = key b) : IsSorted key rows (xs ++ b :: a :: ys) where
  perm := (List.Perm.append_left xs (List.Perm.swap a b ys)).trans h.perm
  sorted := by
    have hsorted := h.sorted
    rw [List.pairwise_append, List.pairwise_cons, List.pairwise_cons] at hsorted ⊢
    obtain ⟨hxs, ⟨ha, hb, hys⟩, hall⟩ := hsorted
    refine ⟨hxs, ⟨?_, ?_, hys⟩, ?_⟩
    · intro y hy
      rcases List.mem_cons.1 hy with rfl | hy
      · exact le_of_eq hkey.symm
      · exact hb y hy
    · intro y hy
      exact ha y (List.mem_cons_of_mem b hy)
    · intro x hx y hy
      apply hall x hx y
      simp only [List.mem_cons] at hy ⊢
      tauto

/-- A split key puts neighbours of one key on both sides of the cut. -/
theorem IsSorted.neighbours (h : IsSorted key rows ans) {m : Nat} (hm : ¬ Unsplit key rows m) :
    ∃ xs a b ys, ans = xs ++ a :: b :: ys ∧ xs.length + 1 = m ∧ key a = key b := by
  unfold Unsplit at hm
  push Not at hm
  obtain ⟨x, hx, hlow, hhigh⟩ := hm
  have hlength : m < ans.length := by
    rw [h.length_eq]
    exact Nat.lt_of_lt_of_le hhigh List.countP_le_length
  have hbefore : m - 1 < ans.length := by omega
  have hfirst : key x ≤ key ans[m - 1] := by
    by_contra hlt
    have hplace := h.lt_countP_le hbefore
    have hle : rows.countP (fun y ↦ key y ≤ key ans[m - 1]) ≤
        rows.countP fun y ↦ key y < key x := by
      apply List.countP_mono_left
      intro y _ hy
      rw [decide_eq_true_eq] at hy ⊢
      exact lt_of_le_of_lt hy (not_le.1 hlt)
    omega
  have hsecond : key ans[m] ≤ key x := by
    by_contra hlt
    have hplace := h.countP_lt_le hlength
    have hle : rows.countP (fun y ↦ key y ≤ key x) ≤
        rows.countP fun y ↦ key y < key ans[m] := by
      apply List.countP_mono_left
      intro y _ hy
      rw [decide_eq_true_eq] at hy ⊢
      exact lt_of_le_of_lt hy (not_le.1 hlt)
    omega
  have hsame : key ans[m - 1] = key ans[m] :=
    le_antisymm (h.key_le (Nat.sub_le m 1) hbefore hlength) (hsecond.trans hfirst)
  refine ⟨ans.take (m - 1), ans[m - 1], ans[m], ans.drop (m + 1), ?_, ?_, hsame⟩
  · have hdrop : ans.drop (m - 1 + 1) = ans[m] :: ans.drop (m + 1) := by
      rw [Nat.sub_add_cancel (by omega)]
      exact List.drop_eq_getElem_cons hlength
    rw [← hdrop, ← List.drop_eq_getElem_cons hbefore, List.take_append_drop]
  · rw [List.length_take]
    omega

/-- Pages cut out of one answer, and from the cut on out of another. -/
theorem walk_two {limit i n : Nat} (hi : i ≤ n) (ans ans' : List α) :
    walk limit (fun j ↦ if j < i then ans else ans') n =
      ans.take (i * limit) ++ (ans'.drop (i * limit)).take ((n - i) * limit) := by
  induction n, hi using Nat.le_induction with
  | base =>
      have hfirst : walk limit (fun j ↦ if j < i then ans else ans') i =
          walk limit (fun _ ↦ ans) i := walk_congr fun j hj ↦ if_pos hj
      rw [hfirst, walk_const, Nat.sub_self, Nat.zero_mul, List.take_zero, List.append_nil]
  | succ n hn ih =>
      unfold walk
      rw [ih, if_neg (Nat.not_lt.2 hn), List.append_assoc]
      have hcount : n * limit = i * limit + (n - i) * limit := by
        rw [← Nat.add_mul]
        congr 1
        omega
      have hnext : (n + 1 - i) * limit = (n - i) * limit + limit := by
        rw [← Nat.succ_mul]
        congr 1
        omega
      congr 1
      unfold page
      rw [hnext, List.take_add, List.drop_drop, ← hcount]

/-- Where a page ends between rows of one key, there are answers with which the walk shows one row
twice and another one never. -/
theorem walk_skips (hnodup : rows.Nodup) (h : IsSorted key rows ans) {limit i n : Nat} (hi : i < n)
    (hlimit : 0 < limit) (hsplit : ¬ Unsplit key rows (i * limit)) :
    ∃ answers : Nat → List α, (∀ j, IsSorted key rows (answers j)) ∧
      ∃ a ∈ rows, ∃ b ∈ rows, [a, a].Sublist (walk limit answers n) ∧
        b ∉ walk limit answers n := by
  obtain ⟨xs, a, b, ys, rfl, hxs, hkey⟩ := h.neighbours hsplit
  have hmem (y : α) : y ∈ rows ↔ y ∈ xs ++ a :: b :: ys := h.perm.mem_iff.symm
  refine ⟨fun j ↦ if j < i then xs ++ a :: b :: ys else xs ++ b :: a :: ys, ?_, a, ?_, b, ?_, ?_⟩
  · intro j
    dsimp only
    by_cases hj : j < i
    · rw [if_pos hj]
      exact h
    · rw [if_neg hj]
      exact h.swap hkey
  · simp [hmem]
  · simp [hmem]
  have htake : (xs ++ a :: b :: ys).take (i * limit) = xs ++ [a] := by
    rw [← hxs, List.take_length_add_append]
    rfl
  have hdrop : (xs ++ b :: a :: ys).drop (i * limit) = a :: ys := by
    rw [← hxs, List.drop_length_add_append]
    rfl
  have hrest : (a :: ys).take ((n - i) * limit) = a :: ys.take ((n - i) * limit - 1) := by
    have hpos : 0 < (n - i) * limit := Nat.mul_pos (by omega) hlimit
    obtain ⟨k, hk⟩ := Nat.exists_eq_succ_of_ne_zero (Nat.ne_of_gt hpos)
    rw [hk, List.take_succ_cons, Nat.succ_sub_one]
  rw [walk_two (Nat.le_of_lt hi), htake, hdrop, hrest]
  constructor
  · rw [List.append_assoc]
    refine List.Sublist.trans ?_ (List.sublist_append_right xs _)
    exact (List.Sublist.cons_cons a (List.nil_sublist _)).cons_cons a
  · have hnodup' : (xs ++ a :: b :: ys).Nodup := h.perm.nodup_iff.2 hnodup
    rw [List.nodup_append, List.nodup_cons, List.nodup_cons] at hnodup'
    obtain ⟨_, ⟨ha, hb, _⟩, hdisjoint⟩ := hnodup'
    intro hin
    rcases List.mem_append.1 hin with hin | hin
    · rcases List.mem_append.1 hin with hin | hin
      · exact hdisjoint b hin b (by simp) rfl
      · apply ha
        rw [List.mem_singleton.1 hin]
        exact List.mem_cons_self
    · rcases List.mem_cons.1 hin with heq | hin
      · apply ha
        rw [heq]
        exact List.mem_cons_self
      · exact hb (List.mem_of_mem_take hin)

theorem isSorted_mergeSort (key : α → κ) (rows : List α) :
    IsSorted key rows (rows.mergeSort fun x y ↦ key x ≤ key y) where
  perm := List.mergeSort_perm rows _
  sorted := by
    have htrans (x y z : α) (hxy : decide (key x ≤ key y) = true)
        (hyz : decide (key y ≤ key z) = true) : decide (key x ≤ key z) = true := by
      rw [decide_eq_true_eq] at hxy hyz ⊢
      exact le_trans hxy hyz
    have htotal (x y : α) : (decide (key x ≤ key y) || decide (key y ≤ key x)) = true := by
      rw [Bool.or_eq_true, decide_eq_true_eq, decide_eq_true_eq]
      exact le_total (key x) (key y)
    have hsorted := List.pairwise_mergeSort htrans htotal rows
    exact hsorted.imp fun h ↦ of_decide_eq_true h

/-- What a walk shows of the rows is every row's own, once, whatever answer each page is cut out
of, exactly if no page ends between two rows of one key. -/
theorem map_walk_perm_iff {f : α → β} (hnodup : (rows.map f).Nodup) {limit n : Nat}
    (hlimit : 0 < limit) (hall : rows.length ≤ n * limit) :
    (∀ answers : Nat → List α, (∀ i, IsSorted key rows (answers i)) →
      ((walk limit answers n).map f).Perm (rows.map f)) ↔ ∀ i < n, Unsplit key rows (i * limit) := by
  constructor
  · intro hwalks i hi
    by_contra hsplit
    obtain ⟨answers, hanswers, a, _, b, hb, _, hmissing⟩ :=
      walk_skips hnodup.of_map (isSorted_mergeSort key rows) hi hlimit hsplit
    have hshown := (hwalks answers hanswers).mem_iff.2 (List.mem_map_of_mem hb)
    obtain ⟨c, hc, hsame⟩ := List.mem_map.1 hshown
    obtain ⟨j, _, hpage⟩ := mem_walk_iff.1 hc
    have hrow : c ∈ rows :=
      (hanswers j).perm.mem_iff.1 (List.mem_of_mem_drop (List.mem_of_mem_take hpage))
    apply hmissing
    rw [← List.inj_on_of_nodup_map hnodup hrow hb hsame]
    exact hc
  · intro hcut answers hanswers
    exact (walk_perm (fun i _ ↦ hanswers i) hcut hall).map f

end Answers

end Paging
