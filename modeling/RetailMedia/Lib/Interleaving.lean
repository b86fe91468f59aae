import RetailMedia.Lib.Run
import Mathlib.Logic.Function.Basic

/-! Transactions under READ COMMITTED with exclusive row locks: every interleaving of their
statements, and the rule that proves assertions about them. -/

namespace Interleaving

variable {τ κ σ α : Type*}

/-- What a transaction does next, given its local state.  A statement sees the committed data of
the moment it runs; what the transaction has written itself is part of its local state.  A lock
waits until its row is free and then continues, and a commit applies the writes, or fails on a
constraint. -/
inductive Stmt (κ σ α : Type*)
  | lock (row : σ → Option κ) (k : σ → α)
  | run (k : σ → α)
  | commit (write : σ → Option σ)

/-- The same statement in a larger space of local states. -/
def Stmt.map {β : Type*} (f : α → β) : Stmt κ σ α → Stmt κ σ β
  | lock row k => .lock row (f ∘ k)
  | run k => .run (f ∘ k)
  | commit write => .commit write

/-- The same statement on a part of the data, of one kind of transaction among others. -/
def Stmt.within {β σ' : Type*} (get : σ' → σ) (put : σ' → σ → σ') (f : α → β) :
    Stmt κ σ α → Stmt κ σ' β
  | lock row k => .lock (fun s ↦ row (get s)) fun s ↦ f (k (get s))
  | run k => .run fun s ↦ f (k (get s))
  | commit write => .commit fun s ↦ (write (get s)).map (put s)

/-- The same statement where its rows are some of the rows that can be locked. -/
def Stmt.onRows {κ' : Type*} (f : κ → κ') : Stmt κ σ α → Stmt κ' σ α
  | lock row k => .lock (fun s ↦ (row s).map f) k
  | run k => .run k
  | commit write => .commit write

theorem Stmt.within_commit {β σ' : Type*} {get : σ' → σ} {put : σ' → σ → σ'} {f : α → β}
    {stmt : Stmt κ σ α} {w : σ' → Option σ'} (h : stmt.within get put f = .commit w) :
    ∃ write, stmt = .commit write ∧ w = fun s ↦ (write (get s)).map (put s) := by
  cases stmt with
  | lock row k => cases h
  | run k => cases h
  | commit write => exact ⟨write, rfl, (Stmt.commit.inj h).symm⟩

/-- Statements that only read, each of them the data of its own moment, and what the transaction
makes of them in the end. -/
inductive Reading (σ α : Type*)
  | done (a : α)
  | read (k : σ → Reading σ α)

namespace Reading

variable {β : Type*}

/-- The end when all statements read the same data. -/
def eval (d : σ) : Reading σ α → α
  | .done a => a
  | .read k => (k d).eval d

def bind : Reading σ α → (α → Reading σ β) → Reading σ β
  | .done a, f => f a
  | .read k, f => .read fun d ↦ (k d).bind f

/-- `P` holds of every end that the statements can come to. -/
def All (P : α → Prop) : Reading σ α → Prop
  | .done a => P a
  | .read k => ∀ d, (k d).All P

theorem All.bind {P : α → Prop} {Q : β → Prop} {f : α → Reading σ β} :
    ∀ {r : Reading σ α}, r.All P → (∀ a, P a → (f a).All Q) → (r.bind f).All Q
  | .done a, h, hf => hf a h
  | .read _, h, hf => fun d ↦ All.bind (h d) hf

end Reading

structure System (τ κ σ α : Type*) where
  data : σ
  holder : κ → Option τ
  tx : τ → Option α

inductive Move
  | advance
  | abort
  deriving DecidableEq, Repr

section Steps

variable [DecidableEq τ] [DecidableEq κ] (prog : α → Stmt κ σ α)

def System.resume (s : System τ κ σ α) (t : τ) (a : α) : System τ κ σ α :=
  { s with tx := Function.update s.tx t (some a) }

/-- The end of a transaction releases its locks. -/
def System.finish (s : System τ κ σ α) (t : τ) (data : σ) : System τ κ σ α where
  data := data
  holder row := if s.holder row = some t then none else s.holder row
  tx := Function.update s.tx t none

def System.acquire (s : System τ κ σ α) (t : τ) (row : κ) : System τ κ σ α :=
  { s with holder := Function.update s.holder row (some t) }

def advance (s : System τ κ σ α) (t : τ) (a : α) : System τ κ σ α :=
  match prog a with
  | .lock row k =>
      match row s.data with
      | none => s.resume t (k s.data)
      | some r =>
          if s.holder r = none ∨ s.holder r = some t then (s.acquire t r).resume t (k s.data)
          else s
  | .run k => s.resume t (k s.data)
  | .commit write =>
      match write s.data with
      | none => s
      | some d => s.finish t d

/-- One step of a schedule: a transaction takes its next statement, or is rolled back. -/
def next (s : System τ κ σ α) (label : τ × Move) : System τ κ σ α :=
  match s.tx label.1 with
  | none => s
  | some a =>
      match label.2 with
      | .advance => advance prog s label.1 a
      | .abort => s.finish label.1 s.data

/-- The next statement does not wait for a lock that another transaction holds. -/
def Enabled (s : System τ κ σ α) (t : τ) (a : α) : Prop :=
  match prog a with
  | .lock row _ => ∀ r, row s.data = some r → s.holder r = none ∨ s.holder r = some t
  | _ => True

instance (s : System τ κ σ α) (t : τ) (a : α) : Decidable (Enabled prog s t a) :=
  match h : prog a with
  | .lock row _ =>
      decidable_of_iff (∀ r ∈ row s.data, s.holder r = none ∨ s.holder r = some t) (by
        rw [Enabled, h]
        rfl)
  | .run _ => .isTrue (by rw [Enabled, h]; trivial)
  | .commit _ => .isTrue (by rw [Enabled, h]; trivial)

variable {prog}

/-- A statement changes the data only by a commit. -/
theorem advance_data {s : System τ κ σ α} {t : τ} {a : α} (h : ∀ w, prog a ≠ .commit w) :
    (advance prog s t a).data = s.data := by
  unfold advance
  cases hprog : prog a with
  | commit w => exact absurd hprog (h w)
  | run k => rfl
  | lock row k =>
      dsimp only
      cases row s.data with
      | none => rfl
      | some r =>
          dsimp only
          split
          · rfl
          · rfl

variable (prog) in
/-- The transaction that a step ends by a commit, in its last local state. -/
def commitOf (s : System τ κ σ α) (label : τ × Move) : Option α :=
  match s.tx label.1, label.2 with
  | some a, .advance =>
      match prog a with
      | .commit w => if (w s.data).isSome then some a else none
      | _ => none
  | _, _ => none

variable (prog) in
/-- The transactions that a run ends by a commit, in the order of their commits. -/
def commits (s : System τ κ σ α) : List (τ × Move) → List (τ × α)
  | [] => []
  | label :: l =>
      ((commitOf prog s label).map fun a ↦ (label.1, a)).toList ++ commits (next prog s label) l

/-- A step is the commit of a transaction, or leaves the data as they are. -/
theorem next_commit_or (s : System τ κ σ α) (label : τ × Move) :
    (∃ a w d, commitOf prog s label = some a ∧ s.tx label.1 = some a ∧ label.2 = .advance ∧
      prog a = .commit w ∧ w s.data = some d ∧ next prog s label = s.finish label.1 d) ∨
    (commitOf prog s label = none ∧ (next prog s label).data = s.data) := by
  unfold next commitOf
  cases ha : s.tx label.1 with
  | none => exact .inr ⟨rfl, rfl⟩
  | some a =>
      cases hmove : label.2 with
      | abort => exact .inr ⟨rfl, rfl⟩
      | advance =>
          dsimp only
          cases hprog : prog a with
          | commit w =>
              unfold advance
              rw [hprog]
              dsimp only
              cases hd : w s.data with
              | some d => exact .inl ⟨a, w, d, rfl, rfl, rfl, hprog, hd, rfl⟩
              | none => exact .inr ⟨rfl, rfl⟩
          | run k => exact .inr ⟨rfl, advance_data fun w hw ↦ by rw [hprog] at hw; cases hw⟩
          | lock row k => exact .inr ⟨rfl, advance_data fun w hw ↦ by rw [hprog] at hw; cases hw⟩

theorem commits_cons {s : System τ κ σ α} {label : τ × Move} {a : α}
    (h : commitOf prog s label = some a) (l : List (τ × Move)) :
    commits prog s (label :: l) = (label.1, a) :: commits prog (next prog s label) l := by
  rw [commits, h]
  rfl

theorem commits_cons_none {s : System τ κ σ α} {label : τ × Move}
    (h : commitOf prog s label = none) (l : List (τ × Move)) :
    commits prog s (label :: l) = commits prog (next prog s label) l := by
  rw [commits, h]
  rfl

omit [DecidableEq τ] [DecidableEq κ] in
/-- A step that is no commit is none that would be accepted. -/
theorem commitOf_none {s : System τ κ σ α} {label : τ × Move} (h : commitOf prog s label = none)
    {a : α} {w : σ → Option σ} (ha : s.tx label.1 = some a) (hmove : label.2 = .advance)
    (hw : prog a = .commit w) : w s.data = none := by
  unfold commitOf at h
  rw [ha, hmove] at h
  dsimp only at h
  rw [hw] at h
  dsimp only at h
  split at h
  · cases h
  · rename_i hrefused
    exact Option.not_isSome_iff_eq_none.1 hrefused

end Steps

/-! ## A transaction alone -/

/-- A transaction that no other runs beside, up to its commit: what it leaves, and the local state
it commits in.  There is nothing when a constraint fails, or after `fuel` statements. -/
def alone (prog : α → Stmt κ σ α) : (fuel : Nat) → σ → α → Option (σ × α)
  | 0, _, _ => none
  | fuel + 1, d, a =>
      match prog a with
      | .lock _ k => alone prog fuel d (k d)
      | .run k => alone prog fuel d (k d)
      | .commit write => (write d).map fun d' ↦ (d', a)

/-- What holds of the local states of a transaction alone holds of the one it commits in. -/
theorem alone_commit {prog : α → Stmt κ σ α} {I : α → Prop} {d d' : σ} {b : α}
    (hlock : ∀ a row k, prog a = .lock row k → I a → I (k d))
    (hrun : ∀ a k, prog a = .run k → I a → I (k d)) {fuel : Nat} {a : α} (h0 : I a)
    (h : alone prog fuel d a = some (d', b)) :
    I b ∧ ∃ write, prog b = .commit write ∧ write d = some d' := by
  induction fuel generalizing a with
  | zero => cases h
  | succ fuel ih =>
      unfold alone at h
      cases hprog : prog a with
      | lock row k =>
          rw [hprog] at h
          exact ih (hlock a row k hprog h0) h
      | run k =>
          rw [hprog] at h
          exact ih (hrun a k hprog h0) h
      | commit write =>
          rw [hprog] at h
          obtain ⟨d'', hwrite, heq⟩ := Option.map_eq_some_iff.1 h
          cases heq
          exact ⟨h0, write, hprog, hwrite⟩

/-! ## Proof outlines -/

/-- An invariant of the data, an assertion for each transaction in each local state, the rows
that a local state relies on holding, and a condition under which statements are run. -/
structure Outline (τ κ σ α : Type*) where
  inv : σ → Prop
  sound : σ → τ → α → Prop
  relies : α → κ → Prop
  guard : σ → α → Prop

namespace Outline

/-- A statement that is run under its condition establishes the assertion that it leads to, and
a commit disturbs the assertion of no transaction that relies on other rows. -/
def Keeps (o : Outline τ κ σ α) (a : α) : Stmt κ σ α → Prop
  | .lock row k => ∀ d t, o.inv d → o.sound d t a → o.guard d a →
      o.sound d t (k d) ∧ ∀ r, o.relies (k d) r → o.relies a r ∨ row d = some r
  | .run k => ∀ d t, o.inv d → o.sound d t a → o.guard d a →
      o.sound d t (k d) ∧ ∀ r, o.relies (k d) r → o.relies a r
  | .commit write => ∀ d d' t, o.inv d → o.sound d t a → o.guard d a → write d = some d' →
      o.inv d' ∧ ∀ u b, u ≠ t → o.sound d u b → (∀ r, o.relies a r → ¬ o.relies b r) →
        o.sound d' u b

def Proves (o : Outline τ κ σ α) (prog : α → Stmt κ σ α) : Prop := ∀ a, o.Keeps a (prog a)

/-- The assertions hold, and the rows that are relied on are held. -/
structure Holds (o : Outline τ κ σ α) (s : System τ κ σ α) : Prop where
  data : o.inv s.data
  tx : ∀ t a, s.tx t = some a → o.sound s.data t a
  held : ∀ t a, s.tx t = some a → ∀ r, o.relies a r → s.holder r = some t

/-- The step of a schedule meets the condition of the statement that it runs, if it runs one. -/
def Meets [DecidableEq τ] [DecidableEq κ] (o : Outline τ κ σ α) (prog : α → Stmt κ σ α)
    (s : System τ κ σ α) (label : τ × Move) : Prop :=
  ∀ a, s.tx label.1 = some a → label.2 = .advance → Enabled prog s label.1 a → o.guard s.data a

section Rule

variable {o : Outline τ κ σ α} {prog : α → Stmt κ σ α} {s : System τ κ σ α} {t : τ}

theorem tx_update [DecidableEq τ] {f : τ → Option α} {x : Option α} {u : τ} {b : α}
    (h : Function.update f t x u = some b) : (u = t ∧ x = some b) ∨ (u ≠ t ∧ f u = some b) := by
  by_cases hu : u = t
  · rw [hu, Function.update_self] at h
    exact .inl ⟨hu, h⟩
  · rw [Function.update_of_ne hu] at h
    exact .inr ⟨hu, h⟩

/-- A statement that changes local state only. -/
theorem Holds.resume [DecidableEq τ] (h : o.Holds s) {b : α} (hb : o.sound s.data t b)
    (hrows : ∀ r, o.relies b r → s.holder r = some t) : o.Holds (s.resume t b) := by
  constructor
  · exact h.data
  · intro u c hc
    rcases tx_update hc with ⟨hu, heq⟩ | ⟨-, hold⟩
    · cases heq
      exact hu ▸ hb
    · exact h.tx u c hold
  · intro u c hc r hr
    rcases tx_update hc with ⟨hu, heq⟩ | ⟨-, hold⟩
    · cases heq
      exact hu ▸ hrows r hr
    · exact h.held u c hold r hr

theorem Holds.acquire [DecidableEq κ] (h : o.Holds s) {r : κ}
    (hfree : s.holder r = none ∨ s.holder r = some t) : o.Holds (s.acquire t r) := by
  refine ⟨h.data, h.tx, fun u c hc q hq ↦ ?_⟩
  have hold := h.held u c hc q hq
  show Function.update s.holder r (some t) q = some u
  by_cases hqr : q = r
  · -- the row was free or the transaction's own, so nobody else relies on it
    rw [hqr] at hold ⊢
    rw [Function.update_self]
    rcases hfree with hnone | hown
    · rw [hnone] at hold
      cases hold
    · exact hown.symm.trans hold
  · rw [Function.update_of_ne hqr]
    exact hold

/-- The end of a transaction, with data that the others' assertions survive. -/
theorem Holds.finish [DecidableEq τ] (h : o.Holds s) {d : σ} (hd : o.inv d)
    (hothers : ∀ u b, u ≠ t → s.tx u = some b → o.sound d u b) : o.Holds (s.finish t d) := by
  constructor
  · exact hd
  · intro u b hb
    rcases tx_update hb with ⟨-, hnone⟩ | ⟨hne, hold⟩
    · cases hnone
    · exact hothers u b hne hold
  · intro u b hb r hr
    rcases tx_update hb with ⟨-, hnone⟩ | ⟨hne, hold⟩
    · cases hnone
    · have hheld := h.held u b hold r hr
      show (if s.holder r = some t then none else s.holder r) = some u
      rw [hheld, if_neg fun heq ↦ hne (Option.some.inj heq)]

variable [DecidableEq τ] [DecidableEq κ]

theorem Proves.advance (p : o.Proves prog) (h : o.Holds s) {a : α} (ha : s.tx t = some a)
    (hg : Enabled prog s t a → o.guard s.data a) : o.Holds (advance prog s t a) := by
  have hsound := h.tx t a ha
  have hheld := h.held t a ha
  have hkeeps := p a
  unfold Enabled at hg
  unfold Interleaving.advance
  cases hprog : prog a with
  | run k =>
      rw [hprog] at hkeeps hg
      have hrun := hkeeps s.data t h.data hsound (hg trivial)
      exact h.resume hrun.1 fun r hr ↦ hheld r (hrun.2 r hr)
  | lock row k =>
      rw [hprog] at hkeeps hg
      dsimp only at hg ⊢
      cases hrow : row s.data with
      | none =>
          have hlock := hkeeps s.data t h.data hsound
            (hg fun r hr ↦ by rw [hrow] at hr; cases hr)
          apply h.resume hlock.1
          intro r hr
          rcases hlock.2 r hr with hr | hr
          · exact hheld r hr
          · rw [hrow] at hr
            cases hr
      | some q =>
          dsimp only
          split
          · rename_i hfree
            have hlock := hkeeps s.data t h.data hsound
              (hg fun r hr ↦ by rw [hrow] at hr; cases hr; exact hfree)
            apply (h.acquire hfree).resume hlock.1
            intro r hr
            rcases hlock.2 r hr with hr | hr
            · exact (h.acquire hfree).held t a ha r hr
            · rw [hrow] at hr
              cases hr
              exact Function.update_self q (some t) s.holder
          · exact h
  | commit write =>
      rw [hprog] at hkeeps hg
      dsimp only
      cases hwrite : write s.data with
      | none => exact h
      | some d =>
          have hcommit := hkeeps s.data d t h.data hsound (hg trivial) hwrite
          apply h.finish hcommit.1
          intro u b hne hb
          apply hcommit.2 u b hne (h.tx u b hb)
          intro r hr hr'
          -- two transactions do not hold one row
          exact hne (Option.some.inj ((h.held u b hb r hr').symm.trans (hheld r hr)))

/-- The rule: a step that meets its condition keeps a proof outline. -/
theorem Proves.next (p : o.Proves prog) (h : o.Holds s) {label : τ × Move}
    (hg : o.Meets prog s label) : o.Holds (next prog s label) := by
  unfold Interleaving.next
  cases ha : s.tx label.1 with
  | none => exact h
  | some a =>
      cases hmove : label.2 with
      | abort => exact h.finish h.data fun u b _ hb ↦ h.tx u b hb
      | advance => exact p.advance h ha (hg a ha hmove)

theorem Proves.run_always (p : o.Proves prog) (h : o.Holds s) {l : List (τ × Move)}
    (hg : Run.Guarded (Interleaving.next prog) (o.Meets prog) s l) :
    Run.Always (Interleaving.next prog) o.Holds s l :=
  Run.always_of_guarded (fun _ _ hs hstep ↦ p.next hs hstep) h hg

/-- Where statements are run unconditionally, every schedule keeps the outline. -/
theorem Proves.run_always_unguarded (p : o.Proves prog) (hguard : ∀ d a, o.guard d a)
    (h : o.Holds s) (l : List (τ × Move)) : Run.Always (Interleaving.next prog) o.Holds s l :=
  Run.always_of_step (fun s _ hs ↦ p.next hs fun a _ _ _ ↦ hguard s.data a) l h

end Rule

/-! ## More in an outline -/

section Adding

variable {o : Outline τ κ σ α} {prog : α → Stmt κ σ α} {inv : σ → Prop} {own : α → Prop}

/-- The outline with another invariant, and with something that holds of local states whatever
the data are. -/
def adding (o : Outline τ κ σ α) (inv : σ → Prop) (own : α → Prop) : Outline τ κ σ α where
  inv d := o.inv d ∧ inv d
  sound d t a := o.sound d t a ∧ own a
  relies := o.relies
  guard := o.guard

def OwnKept (own : α → Prop) : Stmt κ σ α → Prop
  | .lock _ k => ∀ d, own (k d)
  | .run k => ∀ d, own (k d)
  | .commit _ => True

theorem Proves.adding (p : o.Proves prog) (hown : ∀ a, own a → OwnKept own (prog a))
    (hcommit : ∀ a write d d' t, prog a = .commit write → inv d → o.sound d t a → own a →
      write d = some d' → inv d') : (o.adding inv own).Proves prog := by
  intro a
  have hkeeps := p a
  cases hprog : prog a with
  | lock row k =>
      rw [hprog] at hkeeps
      rintro d t ⟨hinv, _⟩ ⟨hsound, ha⟩ hguard
      have hlock := hkeeps d t hinv hsound hguard
      have hnext := hown a ha
      rw [hprog] at hnext
      exact ⟨⟨hlock.1, hnext d⟩, hlock.2⟩
  | run k =>
      rw [hprog] at hkeeps
      rintro d t ⟨hinv, _⟩ ⟨hsound, ha⟩ hguard
      have hrun := hkeeps d t hinv hsound hguard
      have hnext := hown a ha
      rw [hprog] at hnext
      exact ⟨⟨hrun.1, hnext d⟩, hrun.2⟩
  | commit write =>
      rw [hprog] at hkeeps
      rintro d d' t ⟨hinv, hmore⟩ ⟨hsound, ha⟩ hguard hwrite
      have hends := hkeeps d d' t hinv hsound hguard hwrite
      refine ⟨⟨hends.1, hcommit a write d d' t hprog hmore hsound ha hwrite⟩, ?_⟩
      rintro u b hne ⟨hb, hbown⟩ hrows
      exact ⟨hends.2 u b hne hb hrows, hbown⟩

end Adding

end Outline

end Interleaving
