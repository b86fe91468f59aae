import RetailMedia.Lib.Rows

/-! Row-level security: clients that read and write tables through rights on their rows, under
constraints that are checked against all rows, and what such a client can learn and change. -/

namespace RowSecurity

variable {ρ κ β : Type*}

/-! ## Statements -/

/-- What a session may do: read a row, insert it, take it for an update, leave it by one, delete
it. -/
structure Rights (ρ : Type*) where
  reads : ρ → Bool
  inserts : ρ → Bool
  updates : ρ → Bool
  keeps : ρ → Bool
  deletes : ρ → Bool

/-- The constraints of the tables: what a row has to be by itself, the values of its unique keys,
and the keys of rows that its foreign keys name.  Rows elsewhere have the keys `outside` and refer
to the keys `pinned`. -/
structure Constraints (ρ κ : Type*) where
  valid : ρ → Bool
  keys : ρ → List κ
  refers : ρ → List κ
  outside : List κ
  pinned : List κ

inductive Statement (ρ : Type*)
  | select (p : ρ → Bool)
  | insert (r : ρ)
  | update (p : ρ → Bool) (f : ρ → ρ)
  | delete (p : ρ → Bool)

inductive Answer (ρ : Type*)
  | rows (l : List ρ)
  | count (n : Nat)

inductive Refusal
  | rowSecurity
  | check
  | uniqueKey
  | foreignKey
  deriving DecidableEq, Repr

namespace Constraints

variable [DecidableEq κ] (C : Constraints ρ κ)

/-- One of the row's unique keys is another's. -/
def clashes (r : ρ) (others : List ρ) : Bool :=
  (C.keys r).any fun k ↦ others.any fun x ↦ k ∈ C.keys x

def held (l : List ρ) (k : κ) : Bool := k ∈ C.outside || l.any fun x ↦ k ∈ C.keys x

/-- Every key that is referred to is there. -/
def referenced (l : List ρ) : Bool :=
  (l.all fun r ↦ (C.refers r).all (C.held l)) && C.pinned.all (C.held l)

/-- References are checked when the statement has done its work. -/
def settle (l : List ρ) (a : Answer ρ) : Except Refusal (List ρ × Answer ρ) :=
  if C.referenced l then .ok (l, a) else .error .foreignKey

end Constraints

namespace Rights

variable (R : Rights ρ)

/-- The condition of a statement sees only rows that may be read. -/
def updated (p : ρ → Bool) (r : ρ) : Bool := R.reads r && R.updates r && p r

def deleted (p : ρ → Bool) (r : ρ) : Bool := R.reads r && R.deletes r && p r

/-- The row that an update makes is read again. -/
def leaves (r : ρ) : Bool := R.keeps r && R.reads r

variable [DecidableEq κ] (C : Constraints ρ κ)

/-- An update goes row by row, past the rows that are `done`. -/
def updateRows (p : ρ → Bool) (f : ρ → ρ) : List ρ → List ρ → Except Refusal (List ρ)
  | done, [] => .ok done
  | done, r :: todo =>
      if R.updated p r = false then updateRows p f (done ++ [r]) todo
      else if R.leaves (f r) = false then .error .rowSecurity
      else if C.valid (f r) = false then .error .check
      else if C.clashes (f r) (done ++ todo) then .error .uniqueKey
      else updateRows p f (done ++ [f r]) todo

/-- Keys are compared with those of all rows, the ones that may not be read included. -/
def exec : Statement ρ → List ρ → Except Refusal (List ρ × Answer ρ)
  | .select p, l => .ok (l, .rows (l.filter fun r ↦ R.reads r && p r))
  | .insert r, l =>
      if R.inserts r = false then .error .rowSecurity
      else if C.valid r = false then .error .check
      else if C.clashes r l then .error .uniqueKey
      else C.settle (l ++ [r]) (.count 1)
  | .update p f, l =>
      (R.updateRows C p f [] l).bind fun l' ↦ C.settle l' (.count (l.countP (R.updated p)))
  | .delete p, l =>
      C.settle (l.filter fun r ↦ !R.deleted p r) (.count (l.countP (R.deleted p)))

end Rights

/-! ## Clients -/

/-- A client whose next statement depends on the answers to those before. -/
inductive Client (ρ β : Type*)
  | done (b : β)
  | ask (s : Statement ρ) (next : Answer ρ → Client ρ β)

namespace Client

variable [DecidableEq κ] (R : Rights ρ) (C : Constraints ρ κ)

def run : Client ρ β → List ρ → Except Refusal (List ρ × β)
  | done b, l => .ok (l, b)
  | ask s next, l =>
      match R.exec C s l with
      | .error e => .error e
      | .ok (l', a) => (next a).run l'

/-- What the client ends with; a statement that is refused ends it. -/
def outcome (c : Client ρ β) (l : List ρ) : Except Refusal β := (c.run R C l).map (·.2)

/-- The rows after the client's transaction, which is rolled back when a statement is refused. -/
def after (c : Client ρ β) (l : List ρ) : List ρ :=
  match c.run R C l with
  | .ok (l', _) => l'
  | .error _ => l

/-- No unique key and no foreign key has refused a statement of the client. -/
structure Unhindered (c : Client ρ β) (l : List ρ) : Prop where
  unique : c.outcome R C l ≠ .error .uniqueKey
  foreign : c.outcome R C l ≠ .error .foreignKey

end Client

/-! ## Rights within a set of rows -/

/-- The session reads rows of its own only. -/
def Rights.Within (R : Rights ρ) (own : ρ → Bool) : Prop := ∀ r, R.reads r = true → own r = true

/-- It changes and deletes rows of its own only, and leaves them its own. -/
structure Rights.Confined (R : Rights ρ) (own : ρ → Bool) : Prop where
  updates : ∀ r, R.updates r = true → own r = true
  keeps : ∀ r, R.keeps r = true → own r = true
  deletes : ∀ r, R.deletes r = true → own r = true

section Own

variable {R : Rights ρ} {own : ρ → Bool} {l m : List ρ} {p : ρ → Bool} {f : ρ → ρ}

theorem updated_iff {r : ρ} :
    R.updated p r = true ↔ (R.reads r = true ∧ R.updates r = true) ∧ p r = true := by
  unfold Rights.updated
  rw [Bool.and_eq_true, Bool.and_eq_true]

theorem deleted_iff {r : ρ} :
    R.deleted p r = true ↔ (R.reads r = true ∧ R.deletes r = true) ∧ p r = true := by
  unfold Rights.deleted
  rw [Bool.and_eq_true, Bool.and_eq_true]

theorem leaves_iff {r : ρ} : R.leaves r = true ↔ R.keeps r = true ∧ R.reads r = true := by
  unfold Rights.leaves
  rw [Bool.and_eq_true]

theorem Rights.Within.own_of_updated (h : R.Within own) {r : ρ} (hr : R.updated p r = true) :
    own r = true := h r (updated_iff.1 hr).1.1

theorem Rights.Within.own_of_deleted (h : R.Within own) {r : ρ} (hr : R.deleted p r = true) :
    own r = true := h r (deleted_iff.1 hr).1.1

/-- A query of own rows needs no other rows. -/
theorem filter_own (hp : ∀ r, p r = true → own r = true) :
    l.filter p = (l.filter own).filter p := by
  rw [List.filter_filter]
  apply List.filter_congr
  intro r _
  by_cases hpr : p r = true
  · rw [hpr, hp r hpr, Bool.true_and]
  · rw [Bool.not_eq_true] at hpr
    rw [hpr, Bool.false_and]

theorem filter_agree (hp : ∀ r, p r = true → own r = true)
    (h : l.filter own = m.filter own) : l.filter p = m.filter p := by
  rw [filter_own hp, h, ← filter_own hp]

theorem count_agree (hp : ∀ r, p r = true → own r = true)
    (h : l.filter own = m.filter own) : l.countP p = m.countP p := by
  rw [List.countP_eq_length_filter, filter_agree hp h, ← List.countP_eq_length_filter]

/-- An update of own rows commutes with the choice of own rows, if it leaves them own. -/
theorem filter_own_updateWhere (hp : ∀ r, p r = true → own r = true)
    (hf : ∀ r ∈ l, p r = true → own (f r) = true) :
    (Rows.updateWhere p f l).filter own = Rows.updateWhere p f (l.filter own) := by
  induction l with
  | nil => rfl
  | cons r l ih =>
      have hrest := ih fun x hx ↦ hf x (List.mem_cons_of_mem r hx)
      rw [Rows.updateWhere_cons]
      by_cases hpr : p r = true
      · have hnew := hf r List.mem_cons_self hpr
        rw [if_pos hpr, List.filter_cons_of_pos hnew, List.filter_cons_of_pos (hp r hpr),
          Rows.updateWhere_cons, if_pos hpr, hrest]
      · rw [if_neg hpr, List.filter_cons, List.filter_cons, hrest]
        split
        · rw [Rows.updateWhere_cons, if_neg hpr]
        · rfl

/-- The rows of others do not see it. -/
theorem filter_foreign_updateWhere (hp : ∀ r, p r = true → own r = true)
    (hf : ∀ r ∈ l, p r = true → own (f r) = true) :
    (Rows.updateWhere p f l).filter (fun r ↦ !own r) = l.filter fun r ↦ !own r := by
  apply Rows.filter_updateWhere_of_not
  intro r hr hpr
  rw [hp r hpr, hf r hr hpr]
  exact ⟨rfl, rfl⟩

end Own

/-! ## One statement -/

section Step

variable [DecidableEq κ] {R : Rights ρ} {C : Constraints ρ κ} {own : ρ → Bool}
  {s : Statement ρ} {l m l' : List ρ} {a : Answer ρ} {p : ρ → Bool} {f : ρ → ρ}

theorem settle_ok {k : List ρ} {b : Answer ρ} (h : C.settle l a = .ok (k, b)) :
    k = l ∧ b = a := by
  unfold Constraints.settle at h
  split at h
  · cases h
    exact ⟨rfl, rfl⟩
  · cases h

theorem settle_of_ne (h : C.settle l a ≠ .error .foreignKey) : C.settle l a = .ok (l, a) := by
  unfold Constraints.settle at h ⊢
  split
  · rfl
  · rename_i hnot
    rw [if_neg hnot] at h
    exact absurd rfl h

variable (R C) in
/-- Why the row that an update makes is refused for its own sake. -/
def refusal (f : ρ → ρ) (r : ρ) : Option Refusal :=
  if R.leaves (f r) = false then some .rowSecurity
  else if C.valid (f r) = false then some .check
  else none

omit [DecidableEq κ] in
theorem refusal_eq_none {r : ρ} (h : refusal R C f r = none) : R.leaves (f r) = true := by
  unfold refusal at h
  split at h
  · cases h
  · simpa using ‹¬ R.leaves (f r) = false›

/-- An update that no key stops ends at the first row that is refused, or changes them all. -/
theorem updateRows_eq {done todo : List ρ}
    (h : R.updateRows C p f done todo ≠ .error .uniqueKey) :
    R.updateRows C p f done todo =
      match (todo.filter (R.updated p)).findSome? (refusal R C f) with
      | some e => .error e
      | none => .ok (done ++ Rows.updateWhere (R.updated p) f todo) := by
  induction todo generalizing done with
  | nil =>
      show Except.ok done = Except.ok (done ++ [])
      rw [List.append_nil]
  | cons r todo ih =>
      unfold Rights.updateRows at h ⊢
      by_cases hhit : R.updated p r = true
      · rw [if_neg (by simp [hhit])] at h ⊢
        rw [List.filter_cons_of_pos hhit, List.findSome?_cons, Rows.updateWhere_cons, if_pos hhit]
        unfold refusal
        by_cases hleaves : R.leaves (f r) = false
        · rw [if_pos hleaves, if_pos hleaves]
        · rw [if_neg hleaves] at h
          rw [if_neg hleaves, if_neg hleaves]
          by_cases hvalid : C.valid (f r) = false
          · rw [if_pos hvalid, if_pos hvalid]
          · rw [if_neg hvalid] at h
            rw [if_neg hvalid, if_neg hvalid]
            by_cases hclash : C.clashes (f r) (done ++ todo) = true
            · rw [if_pos hclash] at h
              exact absurd rfl h
            · rw [if_neg hclash] at h
              rw [if_neg hclash, ih h, List.append_assoc]
              rfl
      · rw [Bool.not_eq_true] at hhit
        rw [if_pos hhit] at h ⊢
        rw [List.filter_cons_of_neg (by simp [hhit]), Rows.updateWhere_cons,
          if_neg (by simp [hhit]), ih h, List.append_assoc]
        rfl

theorem insert_ok {r : ρ} (h : R.exec C (.insert r) l = .ok (l', a)) :
    R.inserts r = true ∧ l' = l ++ [r] := by
  simp only [Rights.exec] at h
  split at h
  · cases h
  · rename_i hinsert
    split at h
    · cases h
    · split at h
      · cases h
      · exact ⟨by simpa using hinsert, (settle_ok h).1⟩

theorem update_ok (h : R.exec C (.update p f) l = .ok (l', a)) :
    (∀ r ∈ l, R.updated p r = true → R.leaves (f r) = true) ∧
      l' = Rows.updateWhere (R.updated p) f l := by
  simp only [Rights.exec] at h
  cases hrows : R.updateRows C p f [] l with
  | error e =>
      rw [hrows] at h
      cases h
  | ok k =>
      rw [hrows] at h
      have hsettled := (settle_ok h).1
      rw [updateRows_eq (by rw [hrows]; nofun)] at hrows
      split at hrows
      · cases hrows
      · rename_i hnone
        rw [List.findSome?_eq_none_iff] at hnone
        cases hrows
        exact ⟨fun r hr hhit ↦ refusal_eq_none (hnone r (List.mem_filter.2 ⟨hr, hhit⟩)), hsettled⟩

theorem delete_ok (h : R.exec C (.delete p) l = .ok (l', a)) :
    l' = l.filter fun r ↦ !R.deleted p r := (settle_ok h).1

/-- A statement that is executed leaves the rows of others as they are, and adds to them only what
may be inserted. -/
theorem exec_foreign (h : R.Confined own) (hok : R.exec C s l = .ok (l', a)) :
    ∃ new : List ρ, l'.filter (fun r ↦ !own r) = l.filter (fun r ↦ !own r) ++ new ∧
      ∀ r ∈ new, R.inserts r = true ∧ own r = false := by
  cases s with
  | select p =>
      cases hok
      exact ⟨[], by rw [List.append_nil], fun r hr ↦ absurd hr List.not_mem_nil⟩
  | insert r =>
      obtain ⟨hinsert, rfl⟩ := insert_ok hok
      refine ⟨[r].filter fun r ↦ !own r, by rw [List.filter_append], ?_⟩
      intro x hx
      rw [List.mem_filter, List.mem_singleton] at hx
      rw [hx.1]
      exact ⟨hinsert, by simpa [hx.1] using hx.2⟩
  | update p f =>
      obtain ⟨hleaves, rfl⟩ := update_ok hok
      refine ⟨[], ?_, fun r hr ↦ absurd hr List.not_mem_nil⟩
      rw [List.append_nil]
      apply filter_foreign_updateWhere
      · exact fun r hr ↦ h.updates r (updated_iff.1 hr).1.2
      · exact fun r hr hhit ↦ h.keeps (f r) (leaves_iff.1 (hleaves r hr hhit)).1
  | delete p =>
      obtain rfl := delete_ok hok
      refine ⟨[], ?_, fun r hr ↦ absurd hr List.not_mem_nil⟩
      rw [List.append_nil, List.filter_filter]
      apply List.filter_congr
      intro r _
      by_cases hdel : R.deleted p r = true
      · rw [hdel, h.deletes r (deleted_iff.1 hdel).1.2]
        rfl
      · rw [Bool.not_eq_true] at hdel
        rw [hdel, Bool.not_false, Bool.and_true]

theorem exec_append (hupdates : ∀ r, R.updates r = false) (hdeletes : ∀ r, R.deletes r = false)
    (hok : R.exec C s l = .ok (l', a)) :
    ∃ new : List ρ, l' = l ++ new ∧ ∀ r ∈ new, R.inserts r = true := by
  cases s with
  | select p =>
      cases hok
      exact ⟨[], by rw [List.append_nil], fun r hr ↦ absurd hr List.not_mem_nil⟩
  | insert r =>
      obtain ⟨hinsert, rfl⟩ := insert_ok hok
      refine ⟨[r], rfl, ?_⟩
      intro x hx
      rw [List.mem_singleton.1 hx]
      exact hinsert
  | update p f =>
      obtain ⟨-, rfl⟩ := update_ok hok
      refine ⟨[], ?_, fun r hr ↦ absurd hr List.not_mem_nil⟩
      rw [List.append_nil]
      apply Rows.updateWhere_eq_self
      intro r _
      unfold Rights.updated
      rw [hupdates r, Bool.and_false, Bool.false_and]
  | delete p =>
      obtain rfl := delete_ok hok
      refine ⟨[], ?_, fun r hr ↦ absurd hr List.not_mem_nil⟩
      rw [List.append_nil, List.filter_eq_self]
      intro r _
      unfold Rights.deleted
      rw [hdeletes r, Bool.and_false, Bool.false_and]
      rfl

/-- No key has refused. -/
def KeysPass {γ : Type*} (x : Except Refusal γ) : Prop :=
  ∀ e, x = .error e → e ≠ .uniqueKey ∧ e ≠ .foreignKey

/-- Two tables are answered alike: refused for the same reason, or with the same answer and the same
own rows afterwards. -/
def Alike (own : ρ → Bool) (x y : Except Refusal (List ρ × β)) : Prop :=
  (∃ e, x = .error e ∧ y = .error e) ∨
    ∃ l m b, x = .ok (l, b) ∧ y = .ok (m, b) ∧ l.filter own = m.filter own

/-- What is left after references are checked. -/
theorem settle_alike (hown : l.filter own = m.filter own)
    (hl : C.settle l a ≠ .error .foreignKey) (hm : C.settle m a ≠ .error .foreignKey) :
    Alike own (C.settle l a) (C.settle m a) := by
  rw [settle_of_ne hl, settle_of_ne hm]
  exact .inr ⟨l, m, a, rfl, rfl, hown⟩

theorem insert_alike {r : ρ} (hown : l.filter own = m.filter own)
    (hl : KeysPass (R.exec C (.insert r) l)) (hm : KeysPass (R.exec C (.insert r) m)) :
    Alike own (R.exec C (.insert r) l) (R.exec C (.insert r) m) := by
  simp only [Rights.exec] at hl hm ⊢
  by_cases hinsert : R.inserts r = false
  · rw [if_pos hinsert, if_pos hinsert]
    exact .inl ⟨_, rfl, rfl⟩
  · rw [if_neg hinsert] at hl hm ⊢
    rw [if_neg hinsert]
    by_cases hvalid : C.valid r = false
    · rw [if_pos hvalid, if_pos hvalid]
      exact .inl ⟨_, rfl, rfl⟩
    · rw [if_neg hvalid] at hl hm ⊢
      rw [if_neg hvalid]
      by_cases hcl : C.clashes r l = true
      · rw [if_pos hcl] at hl
        exact absurd rfl (hl _ rfl).1
      · by_cases hcm : C.clashes r m = true
        · rw [if_pos hcm] at hm
          exact absurd rfl (hm _ rfl).1
        · rw [if_neg hcl] at hl ⊢
          rw [if_neg hcm] at hm ⊢
          refine settle_alike ?_ (fun heq ↦ (hl _ heq).2 rfl) fun heq ↦ (hm _ heq).2 rfl
          rw [List.filter_append, List.filter_append, hown]

theorem update_alike (h : R.Within own) (hown : l.filter own = m.filter own)
    (hl : KeysPass (R.exec C (.update p f) l)) (hm : KeysPass (R.exec C (.update p f) m)) :
    Alike own (R.exec C (.update p f) l) (R.exec C (.update p f) m) := by
  have hupdated : ∀ r, R.updated p r = true → own r = true := fun r ↦ h.own_of_updated
  have hhits := filter_agree hupdated hown
  have hcount := count_agree hupdated hown
  have hfree : ∀ k : List ρ,
      KeysPass (R.exec C (.update p f) k) → R.updateRows C p f [] k ≠ .error .uniqueKey := by
    intro k hk heq
    refine (hk .uniqueKey ?_).1 rfl
    simp only [Rights.exec]
    rw [heq]
    rfl
  have heql := updateRows_eq (hfree l hl)
  have heqm := updateRows_eq (hfree m hm)
  rw [← hhits] at heqm
  simp only [Rights.exec] at hl hm ⊢
  cases hbad : (l.filter (R.updated p)).findSome? (refusal R C f) with
  | some e =>
      rw [hbad] at heql heqm
      rw [heql, heqm]
      exact .inl ⟨e, rfl, rfl⟩
  | none =>
      rw [hbad] at heql heqm
      have hown_f : ∀ k : List ρ, k.filter (R.updated p) = l.filter (R.updated p) →
          ∀ r ∈ k, R.updated p r = true → own (f r) = true := by
        intro k hk r hr hhit
        have hmem : r ∈ l.filter (R.updated p) := hk ▸ List.mem_filter.2 ⟨hr, hhit⟩
        have hleaves := refusal_eq_none (List.findSome?_eq_none_iff.1 hbad r hmem)
        exact h (f r) (leaves_iff.1 hleaves).2
      rw [heql] at hl ⊢
      rw [heqm] at hm ⊢
      rw [← hcount] at hm ⊢
      refine settle_alike ?_ (fun heq ↦ (hl _ heq).2 rfl) fun heq ↦ (hm _ heq).2 rfl
      rw [List.nil_append, List.nil_append,
        filter_own_updateWhere hupdated (hown_f l rfl),
        filter_own_updateWhere hupdated (hown_f m hhits.symm), hown]

theorem delete_alike (h : R.Within own) (hown : l.filter own = m.filter own)
    (hl : KeysPass (R.exec C (.delete p) l)) (hm : KeysPass (R.exec C (.delete p) m)) :
    Alike own (R.exec C (.delete p) l) (R.exec C (.delete p) m) := by
  have hdeleted : ∀ r, R.deleted p r = true → own r = true := fun r ↦ h.own_of_deleted
  have hswap : ∀ k : List ρ, (k.filter fun r ↦ own r && !R.deleted p r) =
      (k.filter own).filter fun r ↦ !R.deleted p r := by
    intro k
    rw [List.filter_filter]
    apply List.filter_congr
    intro r _
    rw [Bool.and_comm]
  simp only [Rights.exec] at hl hm ⊢
  rw [← count_agree hdeleted hown] at hm ⊢
  refine settle_alike ?_ (fun heq ↦ (hl _ heq).2 rfl) fun heq ↦ (hm _ heq).2 rfl
  rw [List.filter_filter, List.filter_filter, hswap l, hswap m, hown]

/-- Tables with the same own rows answer alike, unless a key stops the statement. -/
theorem exec_alike (h : R.Within own) (hown : l.filter own = m.filter own)
    (hl : KeysPass (R.exec C s l)) (hm : KeysPass (R.exec C s m)) :
    Alike own (R.exec C s l) (R.exec C s m) := by
  cases s with
  | select p =>
      have hread : ∀ r, (R.reads r && p r) = true → own r = true := by
        intro r hr
        rw [Bool.and_eq_true] at hr
        exact h r hr.1
      refine .inr ⟨l, m, _, rfl, ?_, hown⟩
      show Except.ok (m, Answer.rows (m.filter _)) = _
      rw [filter_agree hread hown]
  | insert r => exact insert_alike hown hl hm
  | update p f => exact update_alike h hown hl hm
  | delete p => exact delete_alike h hown hl hm

end Step

/-! ## A whole transaction -/

namespace Client

variable [DecidableEq κ] {R : Rights ρ} {C : Constraints ρ κ} {own : ρ → Bool}

theorem run_foreign (h : R.Confined own) (c : Client ρ β) {l l' : List ρ} {b : β}
    (hok : c.run R C l = .ok (l', b)) :
    ∃ new : List ρ, l'.filter (fun r ↦ !own r) = l.filter (fun r ↦ !own r) ++ new ∧
      ∀ r ∈ new, R.inserts r = true ∧ own r = false := by
  induction c generalizing l with
  | done b' =>
      cases hok
      exact ⟨[], by rw [List.append_nil], fun r hr ↦ absurd hr List.not_mem_nil⟩
  | ask s next ih =>
      simp only [run] at hok
      split at hok
      · cases hok
      · rename_i l₁ a hexec
        obtain ⟨new₁, heq₁, hnew₁⟩ := exec_foreign h hexec
        obtain ⟨new₂, heq₂, hnew₂⟩ := ih a hok
        refine ⟨new₁ ++ new₂, by rw [heq₂, heq₁, List.append_assoc], ?_⟩
        intro r hr
        rcases List.mem_append.1 hr with hr | hr
        · exact hnew₁ r hr
        · exact hnew₂ r hr

variable (C) in
/-- Whatever the client asks, and however it ends, the rows of others stay. -/
theorem after_foreign (h : R.Confined own) (c : Client ρ β) (l : List ρ) :
    ∃ new : List ρ, (c.after R C l).filter (fun r ↦ !own r) =
        l.filter (fun r ↦ !own r) ++ new ∧
      ∀ r ∈ new, R.inserts r = true ∧ own r = false := by
  unfold after
  split
  · rename_i l' b hok
    exact run_foreign h c hok
  · exact ⟨[], by rw [List.append_nil], fun r hr ↦ absurd hr List.not_mem_nil⟩

theorem run_append (hupdates : ∀ r, R.updates r = false) (hdeletes : ∀ r, R.deletes r = false)
    (c : Client ρ β) {l l' : List ρ} {b : β} (hok : c.run R C l = .ok (l', b)) :
    ∃ new : List ρ, l' = l ++ new ∧ ∀ r ∈ new, R.inserts r = true := by
  induction c generalizing l with
  | done b' =>
      cases hok
      exact ⟨[], by rw [List.append_nil], fun r hr ↦ absurd hr List.not_mem_nil⟩
  | ask s next ih =>
      simp only [run] at hok
      split at hok
      · cases hok
      · rename_i l₁ a hexec
        obtain ⟨new₁, rfl, hnew₁⟩ := exec_append hupdates hdeletes hexec
        obtain ⟨new₂, rfl, hnew₂⟩ := ih a hok
        refine ⟨new₁ ++ new₂, List.append_assoc .., ?_⟩
        intro r hr
        rcases List.mem_append.1 hr with hr | hr
        · exact hnew₁ r hr
        · exact hnew₂ r hr

variable (C) in
/-- A session that takes no row for an update or a delete can only append. -/
theorem after_append (hupdates : ∀ r, R.updates r = false) (hdeletes : ∀ r, R.deletes r = false)
    (c : Client ρ β) (l : List ρ) :
    ∃ new : List ρ, c.after R C l = l ++ new ∧ ∀ r ∈ new, R.inserts r = true := by
  unfold after
  split
  · rename_i l' b hok
    exact run_append hupdates hdeletes c hok
  · exact ⟨[], by rw [List.append_nil], fun r hr ↦ absurd hr List.not_mem_nil⟩

theorem Unhindered.keysPass {c : Client ρ β} {l : List ρ} (h : c.Unhindered R C l) :
    KeysPass (c.run R C l) := by
  intro e he
  have houtcome : c.outcome R C l = .error e := by
    unfold outcome
    rw [he]
    rfl
  constructor
  · rintro rfl
    exact h.unique houtcome
  · rintro rfl
    exact h.foreign houtcome

/-- What the client ends with, and the own rows that it leaves, depend on the own rows alone. -/
theorem run_alike (h : R.Within own) (c : Client ρ β) {l m : List ρ}
    (hown : l.filter own = m.filter own)
    (hl : KeysPass (c.run R C l)) (hm : KeysPass (c.run R C m)) :
    Alike own (c.run R C l) (c.run R C m) := by
  induction c generalizing l m with
  | done b => exact .inr ⟨l, m, b, rfl, rfl, hown⟩
  | ask s next ih =>
      simp only [run] at hl hm ⊢
      have hstep : Alike own (R.exec C s l) (R.exec C s m) :=
        exec_alike h hown (fun e he ↦ hl e (by rw [he])) fun e he ↦ hm e (by rw [he])
      rcases hstep with ⟨e, he, he'⟩ | ⟨l', m', a, hok, hok', hown'⟩
      · rw [he, he']
        exact .inl ⟨e, rfl, rfl⟩
      · rw [hok] at hl ⊢
        rw [hok'] at hm ⊢
        exact ih a hown' hl hm

/-- Noninterference: only a key can tell two tables with the same own rows apart. -/
theorem noninterference (h : R.Within own) (c : Client ρ β) {l m : List ρ}
    (hown : l.filter own = m.filter own) (hl : c.Unhindered R C l) (hm : c.Unhindered R C m) :
    c.outcome R C l = c.outcome R C m ∧
      (c.after R C l).filter own = (c.after R C m).filter own := by
  have hrun := run_alike h c hown hl.keysPass hm.keysPass
  unfold outcome after
  rcases hrun with ⟨e, he, he'⟩ | ⟨l', m', b, hok, hok', hown'⟩
  · rw [he, he']
    exact ⟨rfl, hown⟩
  · rw [hok, hok']
    exact ⟨rfl, hown'⟩

end Client

end RowSecurity
