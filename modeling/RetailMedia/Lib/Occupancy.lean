import Mathlib.Data.List.Induction
import Mathlib.Data.List.Sort
import Mathlib.Data.Prod.Lex
import Mathlib.Algebra.Order.BigOperators.Group.List
import Mathlib.Algebra.Order.Ring.Int
import Mathlib.Order.Bounds.Basic

/-! Half-open intervals over a linear order: how many of them are open at an instant, and the
sweep over their ends that finds the largest such number. -/

namespace Occupancy

variable {τ : Type*}

/-- A start counts one up, an end one down. -/
def events (l : List (τ × τ)) : List (τ × Int) := l.flatMap fun i ↦ [(i.1, 1), (i.2, -1)]

/-- The current number and the largest so far. -/
def sweepStep (acc : Int × Int) (ev : τ × Int) : Int × Int :=
  let current := acc.1 + ev.2
  (current, if current > acc.2 then current else acc.2)

/-! ## The scan -/

/-- What the events add up to. -/
def height (evs : List (τ × Int)) : Int := (evs.map (·.2)).sum

theorem height_append (a b : List (τ × Int)) : height (a ++ b) = height a + height b := by
  unfold height
  rw [List.map_append, List.sum_append]

theorem height_cons (ev : τ × Int) (evs : List (τ × Int)) :
    height (ev :: evs) = ev.2 + height evs := List.sum_cons

theorem height_nonneg {evs : List (τ × Int)} (h : ∀ ev ∈ evs, 0 ≤ ev.2) : 0 ≤ height evs := by
  apply List.sum_nonneg
  intro x hx
  obtain ⟨ev, hev, rfl⟩ := List.mem_map.1 hx
  exact h ev hev

theorem sweepStep_eq (c p : Int) (ev : τ × Int) :
    sweepStep (c, p) ev = (c + ev.2, max p (c + ev.2)) := by
  unfold sweepStep
  dsimp only
  split
  · rw [max_eq_right (by omega)]
  · rw [max_eq_left (by omega)]

theorem le_foldl_sweepStep (evs : List (τ × Int)) (c p : Int) :
    p ≤ (evs.foldl sweepStep (c, p)).2 := by
  induction evs generalizing c p with
  | nil => exact le_refl p
  | cons ev evs ih =>
      rw [List.foldl_cons, sweepStep_eq]
      exact (le_max_left _ _).trans (ih _ _)

/-- The largest number bounds every partial sum. -/
theorem height_le_foldl (a b : List (τ × Int)) (c p : Int) (h : c ≤ p) :
    c + height a ≤ ((a ++ b).foldl sweepStep (c, p)).2 := by
  induction a generalizing c p with
  | nil =>
      have hp := le_foldl_sweepStep b c p
      show c + 0 ≤ (b.foldl sweepStep (c, p)).2
      omega
  | cons ev a ih =>
      have hrest := ih (c + ev.2) (max p (c + ev.2)) (le_max_right _ _)
      rw [List.cons_append, List.foldl_cons, sweepStep_eq, height_cons]
      omega

/-- It is one of the partial sums, or the largest number from before. -/
theorem foldl_attained (evs : List (τ × Int)) (c p : Int) :
    (evs.foldl sweepStep (c, p)).2 = p ∨
      ∃ a b, evs = a ++ b ∧ (evs.foldl sweepStep (c, p)).2 = c + height a := by
  induction evs generalizing c p with
  | nil => exact .inl rfl
  | cons ev evs ih =>
      rw [List.foldl_cons, sweepStep_eq]
      rcases ih (c + ev.2) (max p (c + ev.2)) with hmax | ⟨a, b, hab, hmax⟩
      · rw [hmax]
        rcases max_choice p (c + ev.2) with hp | hc
        · exact .inl hp
        · refine .inr ⟨[ev], evs, rfl, ?_⟩
          rw [hc]
          show c + ev.2 = c + (ev.2 + 0)
          omega
      · refine .inr ⟨ev :: a, b, ?_, ?_⟩
        · rw [hab, List.cons_append]
        · rw [hmax, height_cons]
          omega

theorem start_of_event {l : List (τ × τ)} {ev : τ × Int} (h : ev ∈ events l) (hpos : 0 < ev.2) :
    ∃ i ∈ l, i.1 = ev.1 := by
  obtain ⟨i, hi, hev⟩ := List.mem_flatMap.1 h
  rcases List.mem_cons.1 hev with rfl | hev
  · exact ⟨i, hi, rfl⟩
  · rw [List.mem_singleton.1 hev] at hpos
    simp at hpos

/-! ## Events in order -/

variable [LinearOrder τ]

/-- How many intervals are open at `t`. -/
def openAt (t : τ) (l : List (τ × τ)) : Nat := l.countP fun i ↦ i.1 ≤ t ∧ t < i.2

/-- By their time, and at one time the ends before the starts. -/
def inOrder (evs : List (τ × Int)) : List (τ × Int) :=
  evs.insertionSort fun a b ↦ toLex a ≤ toLex b

def sweep (evs : List (τ × Int)) : Int := ((inOrder evs).foldl sweepStep (0, 0)).2

def heightUpTo (t : τ) (evs : List (τ × Int)) : Int := height (evs.filter (·.1 ≤ t))

theorem inOrder_perm (evs : List (τ × Int)) : (inOrder evs).Perm evs :=
  List.perm_insertionSort _ evs

theorem inOrder_pairwise (evs : List (τ × Int)) :
    (inOrder evs).Pairwise fun a b ↦ toLex a ≤ toLex b :=
  List.pairwise_insertionSort (fun a b : τ × Int ↦ toLex a ≤ toLex b) evs

theorem heightUpTo_perm {evs evs' : List (τ × Int)} (h : evs.Perm evs') (t : τ) :
    heightUpTo t evs = heightUpTo t evs' := ((h.filter _).map _).sum_eq

/-- Of events in order, those up to an instant are the first ones. -/
theorem upTo_prefix {evs : List (τ × Int)} (h : evs.Pairwise fun a b ↦ toLex a ≤ toLex b) (t : τ) :
    ∃ b, evs = evs.filter (·.1 ≤ t) ++ b := by
  induction evs with
  | nil => exact ⟨[], rfl⟩
  | cons ev evs ih =>
      have hcons := List.pairwise_cons.1 h
      by_cases ht : ev.1 ≤ t
      · obtain ⟨b, hb⟩ := ih hcons.2
        refine ⟨b, ?_⟩
        rw [List.filter_cons_of_pos (by simpa using ht), List.cons_append, ← hb]
      · -- the others come later still
        have hnone : (ev :: evs).filter (·.1 ≤ t) = [] := by
          apply List.filter_eq_nil_iff.2
          intro x hx
          rw [decide_eq_true_eq]
          intro hxt
          rcases List.mem_cons.1 hx with rfl | hx
          · exact ht hxt
          · have hle := Prod.Lex.le_iff.1 (hcons.1 x hx)
            rcases hle with hlt | ⟨heq, -⟩
            · exact ht (hlt.le.trans hxt)
            · exact ht (heq.le.trans hxt)
        exact ⟨ev :: evs, by rw [hnone]; rfl⟩

/-- A partial sum is at most the sum up to the time of one of its events: after an event that
counts up there are no events of that time that count down. -/
theorem height_le_heightUpTo {evs : List (τ × Int)}
    (h : evs.Pairwise fun a b ↦ toLex a ≤ toLex b) {a b : List (τ × Int)} (hab : evs = a ++ b) :
    height a ≤ 0 ∨ ∃ ev ∈ a, 0 < ev.2 ∧ height a ≤ heightUpTo ev.1 evs := by
  induction a using List.reverseRecOn generalizing b with
  | nil => exact .inl (le_refl 0)
  | append_singleton a ev ih =>
      have hsum : height (a ++ [ev]) = height a + ev.2 := by
        rw [height_append]
        show height a + (ev.2 + 0) = _
        omega
      by_cases hpos : 0 < ev.2
      · refine .inr ⟨ev, by simp, hpos, ?_⟩
        rw [hab] at h ⊢
        have happ := List.pairwise_append.1 h
        have hbefore : ∀ x ∈ a ++ [ev], x.1 ≤ ev.1 := by
          intro x hx
          rcases List.mem_append.1 hx with hxa | hxe
          · have hle := (List.pairwise_append.1 happ.1).2.2 x hxa ev (List.mem_singleton_self ev)
            rcases Prod.Lex.le_iff.1 hle with hlt | ⟨heq, -⟩
            · exact hlt.le
            · exact heq.le
          · rw [List.mem_singleton.1 hxe]
        have hafter : ∀ x ∈ b.filter (·.1 ≤ ev.1), 0 ≤ x.2 := by
          intro x hx
          have hmem := List.mem_filter.1 hx
          have hxt : x.1 ≤ ev.1 := by simpa using hmem.2
          have hle := happ.2.2 ev (by simp) x hmem.1
          rcases Prod.Lex.le_iff.1 hle with hlt | ⟨-, hdelta⟩
          · exact absurd hxt (not_le.2 hlt)
          · exact hpos.le.trans hdelta
        have hall : (a ++ [ev]).filter (·.1 ≤ ev.1) = a ++ [ev] :=
          List.filter_eq_self.2 fun x hx ↦ by simpa using hbefore x hx
        have hrest := height_nonneg hafter
        unfold heightUpTo
        rw [List.filter_append, hall, height_append (a ++ [ev])]
        omega
      · have hb : evs = a ++ (ev :: b) := by rw [hab, List.append_assoc]; rfl
        rcases ih hb with hle | ⟨x, hx, hup, hle⟩
        · left
          omega
        · right
          exact ⟨x, List.mem_append_left _ hx, hup, by omega⟩

/-! ## The events of intervals -/

theorem heightUpTo_events {l : List (τ × τ)} (h : ∀ i ∈ l, i.1 < i.2) (t : τ) :
    heightUpTo t (events l) = openAt t l := by
  induction l with
  | nil => rfl
  | cons i l ih =>
      have hi := h i List.mem_cons_self
      have hrest := ih fun j hj ↦ h j (List.mem_cons_of_mem i hj)
      have hsplit : heightUpTo t (events (i :: l)) =
          heightUpTo t [(i.1, 1), (i.2, -1)] + heightUpTo t (events l) := by
        unfold heightUpTo events
        rw [List.flatMap_cons, List.filter_append, height_append]
      have hone : heightUpTo t [(i.1, 1), (i.2, -1)] = if i.1 ≤ t ∧ t < i.2 then 1 else 0 := by
        unfold heightUpTo height
        by_cases hs : i.1 ≤ t
        · by_cases he : i.2 ≤ t
          · simp [hs, he]
          · simp [hs, he, not_le.1 he]
        · have he : ¬ i.2 ≤ t := fun he ↦ hs (hi.le.trans he)
          simp [hs, he]
      have hcount : openAt t (i :: l) = openAt t l + if i.1 ≤ t ∧ t < i.2 then 1 else 0 := by
        unfold openAt
        rw [List.countP_cons]
        simp
      rw [hsplit, hone, hrest, hcount]
      push_cast
      omega

/-! ## The sweep finds the largest number -/

theorem openAt_le_sweep {l : List (τ × τ)} (h : ∀ i ∈ l, i.1 < i.2) (t : τ) :
    (openAt t l : Int) ≤ sweep (events l) := by
  obtain ⟨b, hb⟩ := upTo_prefix (inOrder_pairwise (events l)) t
  have hle := height_le_foldl ((inOrder (events l)).filter (·.1 ≤ t)) b 0 0 (le_refl 0)
  rw [← hb] at hle
  have hup : height ((inOrder (events l)).filter (·.1 ≤ t)) = openAt t l :=
    (heightUpTo_perm (inOrder_perm (events l)) t).trans (heightUpTo_events h t)
  rw [hup] at hle
  unfold sweep
  omega

theorem sweep_nonneg (evs : List (τ × Int)) : 0 ≤ sweep evs := le_foldl_sweepStep _ 0 0

/-- Some interval starts when the number is as large as the sweep says. -/
theorem sweep_attained {l : List (τ × τ)} (h : ∀ i ∈ l, i.1 < i.2) :
    sweep (events l) = 0 ∨ ∃ i ∈ l, sweep (events l) ≤ openAt i.1 l := by
  rcases foldl_attained (inOrder (events l)) 0 0 with hzero | ⟨a, b, hab, hmax⟩
  · exact .inl hzero
  · have hsum : sweep (events l) = height a := by
      unfold sweep
      omega
    rcases height_le_heightUpTo (inOrder_pairwise (events l)) hab with hle | ⟨ev, hev, hpos, hle⟩
    · left
      have hnn := sweep_nonneg (events l)
      omega
    · right
      have hmem : ev ∈ inOrder (events l) := by
        rw [hab]
        exact List.mem_append_left b hev
      obtain ⟨i, hi, hstart⟩ := start_of_event ((inOrder_perm _).mem_iff.1 hmem) hpos
      refine ⟨i, hi, ?_⟩
      rw [heightUpTo_perm (inOrder_perm (events l)), heightUpTo_events h] at hle
      rw [hsum, hstart]
      exact hle

/-- The sweep over intervals that are not empty is the largest number that is open at once, where
`W` is a set of instants that has all their starts and is not empty. -/
theorem sweep_isGreatest {l : List (τ × τ)} (h : ∀ i ∈ l, i.1 < i.2) {W : τ → Prop}
    (hstart : ∀ i ∈ l, W i.1) {t₀ : τ} (ht₀ : W t₀) :
    IsGreatest {n : Int | ∃ t, W t ∧ n = openAt t l} (sweep (events l)) := by
  constructor
  · rcases sweep_attained h with hzero | ⟨i, hi, hle⟩
    · have hbound := openAt_le_sweep h t₀
      refine ⟨t₀, ht₀, ?_⟩
      omega
    · have hbound := openAt_le_sweep h i.1
      refine ⟨i.1, hstart i hi, ?_⟩
      omega
  · rintro n ⟨t, -, rfl⟩
    exact openAt_le_sweep h t

end Occupancy
