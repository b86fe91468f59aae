import RetailMedia.Lib.Rows

/-! Files in a directory.  A path is the list of its names; a file cannot lie under another file,
which would have to be a directory.  Creating a file makes the directories above it. -/

abbrev FilePath := List (List Char)

/-- The names of a relative path: empty ones and the current directory do not count. -/
def FilePath.parts (s : String) : FilePath :=
  (s.toList.splitOn '/').filter fun name ↦ name ≠ [] ∧ name ≠ ['.']

def FilePath.text (p : FilePath) : List Char := List.intercalate ['/'] p

/-- A text that is its path, written with one slash between the names. -/
def FilePath.Canonical (s : String) : Prop := FilePath.text (FilePath.parts s) = s.toList

instance (s : String) : Decidable (FilePath.Canonical s) := by
  unfold FilePath.Canonical
  infer_instance

theorem FilePath.Canonical.inj {s t : String} (hs : Canonical s) (ht : Canonical t)
    (h : parts s = parts t) : s = t := by
  apply String.toList_injective
  rw [← hs, ← ht, h]

/-- Both can be files: neither is a directory above the other. -/
def FilePath.Apart (p q : FilePath) : Prop := ¬ (p <+: q ∧ p ≠ q) ∧ ¬ (q <+: p ∧ p ≠ q)

instance (p q : FilePath) : Decidable (FilePath.Apart p q) := by
  unfold FilePath.Apart
  infer_instance

theorem FilePath.Apart.refl (p : FilePath) : Apart p p :=
  ⟨fun h ↦ h.2 rfl, fun h ↦ h.2 rfl⟩

theorem FilePath.Apart.symm {p q : FilePath} (h : Apart p q) : Apart q p :=
  ⟨fun hp ↦ h.2 ⟨hp.1, hp.2.symm⟩, fun hp ↦ h.1 ⟨hp.1, hp.2.symm⟩⟩

structure FileTree (α : Type*) where
  files : List (FilePath × α)
  distinct : (files.map Prod.fst).Nodup
  apart : ∀ f ∈ files, ∀ g ∈ files, FilePath.Apart f.1 g.1

namespace FileTree

variable {α : Type*}

def empty : FileTree α where
  files := []
  distinct := List.nodup_nil
  apart := nofun

def read (t : FileTree α) (p : FilePath) : Option α := (Rows.get Prod.fst p t.files).map Prod.snd

/-- `p` can be created or written over. -/
def Writable (t : FileTree α) (p : FilePath) : Prop :=
  p ≠ [] ∧ ∀ f ∈ t.files, FilePath.Apart p f.1

instance (t : FileTree α) (p : FilePath) : Decidable (t.Writable p) := by
  unfold Writable
  infer_instance

def put (t : FileTree α) (p : FilePath) (x : α) (h : t.Writable p) : FileTree α where
  files := t.files.filter (fun f ↦ f.1 ≠ p) ++ [(p, x)]
  distinct := by
    rw [List.map_append]
    refine Rows.nodup_concat ?_ ?_
    · exact t.distinct.sublist (List.filter_sublist.map _)
    · intro hp
      obtain ⟨f, hf, rfl⟩ := List.mem_map.1 hp
      exact of_decide_eq_true (List.mem_filter.1 hf).2 rfl
  apart := by
    intro f hf g hg
    rcases List.mem_append.1 hf with hf | hf <;> rcases List.mem_append.1 hg with hg | hg
    · exact t.apart f (List.mem_filter.1 hf).1 g (List.mem_filter.1 hg).1
    · rw [List.mem_singleton.1 hg]
      exact (h.2 f (List.mem_filter.1 hf).1).symm
    · rw [List.mem_singleton.1 hf]
      exact h.2 g (List.mem_filter.1 hg).1
    · rw [List.mem_singleton.1 hf, List.mem_singleton.1 hg]
      exact FilePath.Apart.refl p

def write (t : FileTree α) (p : FilePath) (x : α) : Option (FileTree α) :=
  if h : t.Writable p then some (t.put p x h) else none

theorem write_eq_some {t t' : FileTree α} {p : FilePath} {x : α} :
    t.write p x = some t' ↔ ∃ h, t.put p x h = t' := by
  unfold write
  split
  · rename_i h
    rw [Option.some.injEq]
    exact ⟨fun heq ↦ ⟨h, heq⟩, fun ⟨_, heq⟩ ↦ heq⟩
  · rename_i h
    exact ⟨nofun, fun ⟨h', _⟩ ↦ absurd h' h⟩

theorem read_put_self (t : FileTree α) (p : FilePath) (x : α) (h : t.Writable p) :
    (t.put p x h).read p = some x := by
  have hnone : Rows.get Prod.fst p (t.files.filter fun f ↦ f.1 ≠ p) = none := by
    rw [Rows.get_eq_none]
    intro f hf
    exact of_decide_eq_true (List.mem_filter.1 hf).2
  show (Rows.get Prod.fst p (_ ++ [(p, x)])).map Prod.snd = _
  rw [Rows.get_append, hnone]
  simp [Rows.get]

theorem read_put_other (t : FileTree α) {p q : FilePath} (x : α) (h : t.Writable p)
    (hq : q ≠ p) : (t.put p x h).read q = t.read q := by
  have hlast : Rows.get Prod.fst q [(p, x)] = none := by
    rw [Rows.get_eq_none]
    intro f hf
    rw [List.mem_singleton.1 hf]
    exact hq.symm
  have hfilter : Rows.get Prod.fst q (t.files.filter fun f ↦ f.1 ≠ p) =
      Rows.get Prod.fst q t.files := by
    unfold Rows.get
    rw [List.find?_filter]
    congr 1
    funext f
    by_cases hf : f.1 = q
    · simp [hf, hq]
    · simp [hf]
  show (Rows.get Prod.fst q (_ ++ [(p, x)])).map Prod.snd = _
  rw [Rows.get_append, hlast, hfilter, Option.or_none]
  rfl

theorem mem_put {t : FileTree α} {p q : FilePath} {x : α} {h : t.Writable p} :
    q ∈ (t.put p x h).files.map Prod.fst ↔ q = p ∨ q ∈ t.files.map Prod.fst := by
  show q ∈ (t.files.filter (fun f ↦ f.1 ≠ p) ++ [(p, x)]).map Prod.fst ↔ _
  rw [List.map_append, List.mem_append]
  constructor
  · rintro (hq | hq)
    · obtain ⟨f, hf, rfl⟩ := List.mem_map.1 hq
      exact .inr (List.mem_map_of_mem (List.mem_filter.1 hf).1)
    · exact .inl (List.mem_singleton.1 hq)
  · rintro (rfl | hq)
    · exact .inr List.mem_cons_self
    · by_cases hp : q = p
      · exact .inr (hp ▸ List.mem_cons_self)
      · obtain ⟨f, hf, rfl⟩ := List.mem_map.1 hq
        exact .inl (List.mem_map_of_mem (List.mem_filter.2 ⟨hf, decide_eq_true hp⟩))

theorem writable_put {t : FileTree α} {p q : FilePath} {x : α} {h : t.Writable p} :
    (t.put p x h).Writable q ↔ t.Writable q ∧ FilePath.Apart q p := by
  have hpaths : (∀ f ∈ (t.put p x h).files, FilePath.Apart q f.1) ↔
      ∀ r, (r = p ∨ r ∈ t.files.map Prod.fst) → FilePath.Apart q r := by
    constructor
    · intro hall r hr
      obtain ⟨f, hf, rfl⟩ := List.mem_map.1 (mem_put.2 hr)
      exact hall f hf
    · intro hall f hf
      exact hall f.1 (mem_put.1 (List.mem_map_of_mem hf))
  unfold Writable
  rw [hpaths]
  constructor
  · rintro ⟨hq, hall⟩
    exact ⟨⟨hq, fun f hf ↦ hall f.1 (.inr (List.mem_map_of_mem hf))⟩, hall p (.inl rfl)⟩
  · rintro ⟨⟨hq, hall⟩, hp⟩
    refine ⟨hq, fun r hr ↦ ?_⟩
    rcases hr with rfl | hr
    · exact hp
    · obtain ⟨f, hf, rfl⟩ := List.mem_map.1 hr
      exact hall f hf

/-- `p` is the directory itself or lies above a file. -/
def isDirectory (t : FileTree α) (p : FilePath) : Bool :=
  p = [] ∨ ∃ f ∈ t.files, p <+: f.1 ∧ p ≠ f.1

end FileTree
