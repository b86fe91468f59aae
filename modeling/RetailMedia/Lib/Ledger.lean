import RetailMedia.Lib.Rows

/-! Denormalised counters: cells whose counter repeats the sum of the rows that point to them. -/

namespace Ledger

open Rows

variable {γ β κ : Type*} [DecidableEq κ]

/-- What the rows that point to the cell `k` weigh together. -/
def owed (account : β → κ) (weight : β → Int) (rows : List β) (k : κ) : Int :=
  total (fun b ↦ account b = k) weight rows

theorem owed_append (account : β → κ) (weight : β → Int) (l m : List β) (k : κ) :
    owed account weight (l ++ m) k = owed account weight l k + owed account weight m k :=
  total_append _ _ _ _

theorem owed_cons (account : β → κ) (weight : β → Int) (b : β) (l : List β) (k : κ) :
    owed account weight (b :: l) k =
      (if account b = k then weight b else 0) + owed account weight l k := by
  unfold owed
  rw [total_cons]
  by_cases h : account b = k <;> simp [h]

theorem owed_nonneg {account : β → κ} {weight : β → Int} {rows : List β}
    (h : ∀ b ∈ rows, 0 ≤ weight b) (k : κ) : 0 ≤ owed account weight rows k :=
  total_nonneg fun b hb _ ↦ h b hb

theorem weight_le_owed {account : β → κ} {weight : β → Int} {rows : List β}
    (h : ∀ b ∈ rows, 0 ≤ weight b) {b : β} (hb : b ∈ rows) :
    weight b ≤ owed account weight rows (account b) :=
  le_total (fun c hc _ ↦ h c hc) hb (by simp)

/-- Every counter equals the sum it repeats. -/
def Balanced (key : γ → κ) (counter : γ → Int) (account : β → κ) (weight : β → Int)
    (cells : List γ) (rows : List β) : Prop :=
  ∀ c ∈ cells, counter c = owed account weight rows (key c)

/-- `f` on the cell with key `k`. -/
def adjust (key : γ → κ) (k : κ) (f : γ → γ) (cells : List γ) : List γ :=
  updateWhere (fun c ↦ key c = k) f cells

theorem mem_adjust {key : γ → κ} {k : κ} {f : γ → γ} {cells : List γ} {c' : γ} :
    c' ∈ adjust key k f cells ↔ ∃ c ∈ cells, (if key c = k then f c else c) = c' := by
  simp [adjust, mem_updateWhere]

variable {key : γ → κ} {counter : γ → Int} {account : β → κ} {weight : β → Int}
  {cells : List γ} {f : γ → γ}

/-- When `rows` turn into `rows'` and only the sum of the cell `k` changes, by `d`, adding `d` to
that cell restores the balance. -/
theorem Balanced.adjust {rows rows' : List β} {k : κ} {d : Int}
    (h : Balanced key counter account weight cells rows)
    (hd : ∀ j, owed account weight rows' j = owed account weight rows j + if k = j then d else 0)
    (hkey : ∀ c, key (f c) = key c)
    (hf : ∀ c ∈ cells, key c = k → counter (f c) = counter c + d) :
    Balanced key counter account weight (adjust key k f cells) rows' := by
  intro c' hc'
  obtain ⟨c, hc, rfl⟩ := mem_adjust.1 hc'
  by_cases hk : key c = k
  · rw [if_pos hk, hf c hc hk, h c hc, hkey, hd, if_pos hk.symm]
  · rw [if_neg hk, h c hc, hd, if_neg (Ne.symm hk), add_zero]

theorem owed_replace (pre post : List β) {b b' : β} (hacc : account b' = account b) (j : κ) :
    owed account weight (pre ++ b' :: post) j =
      owed account weight (pre ++ b :: post) j +
        if account b = j then weight b' - weight b else 0 := by
  rw [owed_append, owed_append, owed_cons, owed_cons, hacc]
  split
  · ring
  · ring

theorem owed_concat (rows : List β) (b : β) (j : κ) :
    owed account weight (rows ++ [b]) j =
      owed account weight rows j + if account b = j then weight b else 0 := by
  rw [owed_append, owed_cons]
  simp [owed]

/-- A row changes its weight and its cell follows. -/
theorem Balanced.replace {pre post : List β} {b b' : β}
    (h : Balanced key counter account weight cells (pre ++ b :: post))
    (hacc : account b' = account b) (hkey : ∀ c, key (f c) = key c)
    (hf : ∀ c ∈ cells, key c = account b → counter (f c) = counter c + (weight b' - weight b)) :
    Balanced key counter account weight (Ledger.adjust key (account b) f cells)
      (pre ++ b' :: post) :=
  h.adjust (owed_replace pre post hacc) hkey hf

/-- A row is added and its cell follows. -/
theorem Balanced.concat {rows : List β} {b : β}
    (h : Balanced key counter account weight cells rows) (hkey : ∀ c, key (f c) = key c)
    (hf : ∀ c ∈ cells, key c = account b → counter (f c) = counter c + weight b) :
    Balanced key counter account weight (Ledger.adjust key (account b) f cells) (rows ++ [b]) :=
  h.adjust (owed_concat rows b) hkey hf

/-- No counter is below what one of its rows weighs: taking the row off never goes below zero. -/
theorem Balanced.weight_le {rows : List β} (h : Balanced key counter account weight cells rows)
    (hw : ∀ b ∈ rows, 0 ≤ weight b) {b : β} (hb : b ∈ rows) {c : γ} (hc : c ∈ cells)
    (hk : key c = account b) : weight b ≤ counter c := by
  rw [h c hc, hk]
  exact weight_le_owed hw hb

theorem Balanced.nonneg {rows : List β} (h : Balanced key counter account weight cells rows)
    (hw : ∀ b ∈ rows, 0 ≤ weight b) {c : γ} (hc : c ∈ cells) : 0 ≤ counter c := by
  rw [h c hc]
  exact owed_nonneg hw _

end Ledger
