import Mathlib.Data.List.Nodup
import RetailMedia.Lib.Run

/-! Messages that arrive more than once, in any order, at a receiver that takes each of them into
account once. -/

namespace Redelivery

variable {σ α κ : Type*}

/-- A receiver whose messages may have a key.  States are compared by what counts of them, `view`;
once a key is `done`, its messages change nothing that counts. -/
structure Receiver (next : σ → α → σ) (key : α → Option κ) {ν : Type*} (view : σ → ν)
    (done : κ → σ → Prop) : Prop where
  view_next : ∀ {s t}, view s = view t → ∀ a, view (next s a) = view (next t a)
  done_next : ∀ {k s}, done k s → ∀ a, done k (next s a)
  /-- A message without an effect may come again: only one that has an effect is done with. -/
  effect : ∀ {s a k}, key a = some k → view (next s a) = view s ∨ done k (next s a)
  again : ∀ {s a k}, key a = some k → done k s → view (next s a) = view s

variable {next : σ → α → σ} {key : α → Option κ} {ν : Type*} {view : σ → ν} {done : κ → σ → Prop}

theorem view_final (h : Receiver next key view done) {s t : σ} (hst : view s = view t)
    (l : List α) : view (Run.final next s l) = view (Run.final next t l) := by
  induction l generalizing s t with
  | nil => exact hst
  | cons a l ih => exact ih (h.view_next hst a)

/-- The part of a history that counts, with at most one message for each key; `spent` are the keys
it does not need. -/
structure Once (next : σ → α → σ) (key : α → Option κ) {ν : Type*} (view : σ → ν)
    (spent : κ → Prop) (s : σ) (l kept : List α) : Prop where
  sublist : kept.Sublist l
  keys : (kept.filterMap key).Nodup
  unspent : ∀ k ∈ kept.filterMap key, ¬ spent k
  keyless : kept.filter (fun a ↦ (key a).isNone) = l.filter (fun a ↦ (key a).isNone)
  same : view (Run.final next s l) = view (Run.final next s kept)

theorem Once.drop {s : σ} {a : α} {l kept : List α} {k : κ} (h : Receiver next key view done)
    (hkey : key a = some k) (hsame : view (next s a) = view s)
    (honce : Once next key view (done · s) s l kept) :
    Once next key view (done · s) s (a :: l) kept where
  sublist := honce.sublist.cons a
  keys := honce.keys
  unspent := honce.unspent
  keyless := by
    rw [honce.keyless, List.filter_cons_of_neg]
    simp [hkey]
  same := by
    rw [Run.final_cons, view_final h hsame l, honce.same]

theorem Once.keep {s : σ} {a : α} {l kept : List α} (h : Receiver next key view done)
    (hdone : ∀ k, key a = some k → done k (next s a) ∧ ¬ done k s)
    (honce : Once next key view (done · (next s a)) (next s a) l kept) :
    Once next key view (done · s) s (a :: l) (a :: kept) where
  sublist := honce.sublist.cons_cons a
  keys := by
    cases hkey : key a with
    | none =>
        rw [List.filterMap_cons_none hkey]
        exact honce.keys
    | some k =>
        rw [List.filterMap_cons_some hkey]
        exact List.nodup_cons.2 ⟨fun hk ↦ honce.unspent k hk (hdone k hkey).1, honce.keys⟩
  unspent := by
    intro k hk hspent
    cases hkey : key a with
    | none =>
        rw [List.filterMap_cons_none hkey] at hk
        exact honce.unspent k hk (h.done_next hspent a)
    | some k' =>
        rw [List.filterMap_cons_some hkey] at hk
        rcases List.mem_cons.1 hk with rfl | hk
        · exact (hdone k hkey).2 hspent
        · exact honce.unspent k hk (h.done_next hspent a)
  keyless := by
    rw [List.filter_cons, List.filter_cons, honce.keyless]
  same := honce.same

/-- Whatever arrives how often and in whatever order, what counts is what a history leaves in
which each key comes at most once. -/
theorem once (h : Receiver next key view done) (s : σ) (l : List α) :
    ∃ kept, Once next key view (done · s) s l kept := by
  induction l generalizing s with
  | nil => exact ⟨[], List.Sublist.refl _, List.nodup_nil, by simp, rfl, rfl⟩
  | cons a l ih =>
      cases hkey : key a with
      | none =>
          obtain ⟨kept, honce⟩ := ih (next s a)
          refine ⟨a :: kept, honce.keep h fun k hk ↦ ?_⟩
          rw [hkey] at hk
          cases hk
      | some k =>
          by_cases hsame : view (next s a) = view s
          · obtain ⟨kept, honce⟩ := ih s
            exact ⟨kept, honce.drop h hkey hsame⟩
          · -- the message has an effect, the first one for its key
            obtain ⟨kept, honce⟩ := ih (next s a)
            refine ⟨a :: kept, honce.keep h fun k' hk' ↦ ?_⟩
            rw [hkey] at hk'
            cases hk'
            exact ⟨(h.effect hkey).resolve_left hsame, fun hd ↦ hsame (h.again hkey hd)⟩

end Redelivery
