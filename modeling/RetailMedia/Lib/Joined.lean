import Mathlib.Data.List.Basic

/-! Lists joined at a separator: what the joined list still tells of its fields. -/

namespace Joined

variable {α β : Type*}

theorem flatMap_intercalate (f : α → List β) (sep : List α) (fields : List (List α)) :
    (sep.intercalate fields).flatMap f =
      (sep.flatMap f).intercalate (fields.map fun field ↦ field.flatMap f) := by
  induction fields with
  | nil => rfl
  | cons field fields ih =>
      cases fields with
      | nil => simp
      | cons next fields =>
          rw [List.intercalate_cons_cons, List.flatMap_append, List.flatMap_append, ih]
          simp only [List.map_cons, List.intercalate_cons_cons]

section Pieces

variable [DecidableEq α]

/-- The fields, each cut where it holds the separator itself. -/
def pieces (x : α) (fields : List (List α)) : List (List α) := fields.flatMap (·.splitOn x)

theorem splitOn_joined (x : α) {fields : List (List α)} (h : fields ≠ []) :
    ([x].intercalate fields).splitOn x = pieces x fields := by
  induction fields with
  | nil => exact absurd rfl h
  | cons field fields ih =>
      cases fields with
      | nil => simp [pieces]
      | cons next fields =>
          have hrest := ih (List.cons_ne_nil next fields)
          rw [List.intercalate_cons_cons, List.append_assoc, List.singleton_append,
            List.splitOn_append_cons_self, hrest]
          rfl

/-- The joined list tells the pieces, and nothing but the pieces. -/
theorem joined_eq_iff (x : α) {fields fields' : List (List α)} (h : fields ≠ [])
    (h' : fields' ≠ []) :
    [x].intercalate fields = [x].intercalate fields' ↔ pieces x fields = pieces x fields' := by
  rw [← splitOn_joined x h, ← splitOn_joined x h']
  constructor
  · intro heq
    rw [heq]
  · intro heq
    have hback : [x].intercalate (([x].intercalate fields).splitOn x) = [x].intercalate fields :=
      List.intercalate_splitOn x
    rw [← hback, heq, List.intercalate_splitOn]

/-- Cutting forgets nothing. -/
theorem splitOn_inj {x : α} {field field' : List α}
    (h : field.splitOn x = field'.splitOn x) : field = field' := by
  have hback : [x].intercalate (field.splitOn x) = field := List.intercalate_splitOn x
  rw [← hback, h, List.intercalate_splitOn]

/-- A field without the separator ends at the first separator. -/
theorem first_field_inj {x : α} {field field' rest rest' : List α} (hfield : x ∉ field)
    (hfield' : x ∉ field') (h : field ++ x :: rest = field' ++ x :: rest') :
    field = field' ∧ rest = rest' := by
  have hcut := congrArg (List.splitOn x) h
  rw [List.splitOn_append_cons_self_of_not_mem hfield,
    List.splitOn_append_cons_self_of_not_mem hfield'] at hcut
  obtain ⟨hhead, htail⟩ := List.cons_eq_cons.1 hcut
  exact ⟨hhead, splitOn_inj htail⟩

/-- Into how many pieces each field is cut. -/
def cuts (x : α) (fields : List (List α)) : List Nat := fields.map fun f ↦ (f.splitOn x).length

/-- Fields that are cut alike are told by their pieces. -/
theorem pieces_inj {x : α} {fields fields' : List (List α)} (hcuts : cuts x fields = cuts x fields')
    (h : pieces x fields = pieces x fields') : fields = fields' := by
  induction fields generalizing fields' with
  | nil => exact (List.map_eq_nil_iff.1 hcuts.symm).symm
  | cons f fields ih =>
      cases fields' with
      | nil => cases hcuts
      | cons f' fields' =>
          obtain ⟨hlength, hrest⟩ := List.cons_eq_cons.1 hcuts
          have hsplit : f.splitOn x ++ pieces x fields = f'.splitOn x ++ pieces x fields' := h
          obtain ⟨hhead, htail⟩ := List.append_inj hsplit hlength
          rw [splitOn_inj hhead, ih hrest htail]

end Pieces

end Joined
