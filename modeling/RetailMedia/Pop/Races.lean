import RetailMedia.Pop.Concurrency
import RetailMedia.Lib.Interleaving

/-! Transactions that race for an event: when one of them stores it and the others answer that
it is a duplicate. -/

namespace RetailMedia

/-! ## What a race should lead to -/

/-- The event asks for a row of its own. -/
def Asks (db : Db) (b : PopBatch) (event : PopEventIn) : Prop := askedRow db b event ≠ none

/-- The checks of the event raise nothing. -/
structure Checkable (db : Db) (b : PopBatch) (event : PopEventIn) : Prop where
  id : storableText event.eventId = true
  comparable : unplayed event = none → ∀ retailerId,
    getDeviceRetailerId db event.deviceId = some retailerId →
      ∃ renderedAt, event.renderedAt = .aware renderedAt
  resolvable : unplayed event = none → ∀ retailerId,
    getDeviceRetailerId db event.deviceId = some retailerId →
      ∀ renderedAt, event.renderedAt = .aware renderedAt →
        b.now - staleEventAge ≤ renderedAt.instant →
          event.manifestId.all storableText = true

section Races

variable {τ : Type*}

def PopSystem.Completed (s : PopSystem τ) (t : τ) (x : IngestTx) : Prop :=
  s.tx t = some (.completed x)

/-- No batch has been lost.  Every id that was new and that a completed batch asked to store has
been stored by exactly one of them, in one row, and the events of all others are duplicates. -/
structure RaceSettled (db₀ : Db) (s : PopSystem τ) : Prop where
  completes : ∀ t e, s.tx t ≠ some (.raised e)
  duplicates : ∀ t x, s.Completed t x → ∀ p ∈ x.answers, Asks db₀ x.batch p.1 →
    p.1.eventId ∉ x.ids → p.2.status = .duplicate
  once : ∀ eventId ∉ db₀.popDedupIndex,
    (∃ t x, s.Completed t x ∧ ∃ event ∈ x.batch.events,
      event.eventId = eventId ∧ Asks db₀ x.batch event) →
    (∃ t x, s.Completed t x ∧ eventId ∈ x.ids ∧
      ∀ u y, s.Completed u y → eventId ∈ y.ids → u = t) ∧
    s.db.popEventsRaw.countP (·.eventId = eventId) = 1

/-- Transactions that have not run a statement yet. -/
structure PopStart (db₀ : Db) (s : PopSystem τ) : Prop where
  db : s.db = db₀
  consistent : PopConsistent db₀
  manifests : db₀.manifestIds.Nodup
  entry : ∀ key, s.entry key = none
  tx : ∀ t status, s.tx t = some status →
    ∃ b : PopBatch, status = .running { batch := b, todo := b.events }

section Steps

variable [DecidableEq τ] (driver : Driver)

/-- The insert that is next goes through, or ends as a duplicate. -/
def SparedWrite (s : PopSystem τ) (x : IngestTx) (w : PendingWrite) : Prop :=
  match w.index with
  | .dedup => w.row.eventId ∈ s.db.popDedupIndex →
      isPopDedupViolation (driver popDedupConstraint) = true
  | .raw => Storable s.db x.batch w.row ∧
      (w.first = .raw → w.row.eventId ∉ s.db.popEventsRaw.map (·.eventId))

/-- The step raises nothing: the event can be checked, an event whose row is flushed first meets
no committed row, a duplicate is recognised, and nobody waits in a circle. -/
def Spared (s : PopSystem τ) (label : τ × PopMove τ) : Prop :=
  ∀ x, s.tx label.1 = some (.running x) →
    match label.2 with
    | .abort => True
    | .deadlock others => s.waitChain label.1 label.1 others = false
    | .advance _ =>
        match x.pending, x.todo with
        | some w, _ => s.waitsFor label.1 = none → SparedWrite driver s x w
        | none, [] => True
        | none, event :: _ =>
            misdirected event x.batch.jwtDeviceId ≠ none ∨
              event.eventId ∈ (x.view s.db).popDedupIndex ∨ Checkable s.db x.batch event

/-! ## What a step can do -/

inductive PopStep (s : PopSystem τ) (t : τ) : PopSystem τ → Prop
  | stay : PopStep s t s
  | aborted : PopStep s t (s.finish t s.db none)
  | failed (e : IngestFailure) : PopStep s t (s.fail t e)
  | committed (x : IngestTx) (hx : s.tx t = some (.running x)) (hpending : x.pending = none)
      (htodo : x.todo = []) : PopStep s t (s.finish t (x.view s.db) (some (.completed x)))
  | answered (x : IngestTx) (event : PopEventIn) (rest : List PopEventIn) (result : IngestResult)
      (hx : s.tx t = some (.running x)) (hpending : x.pending = none)
      (htodo : x.todo = event :: rest) (hcheck : checkEvent s.db x event = .ok (result, none)) :
      PopStep s t (s.resume t (x.answer event result))
  | begun (x : IngestTx) (event : PopEventIn) (rest : List PopEventIn) (result : IngestResult)
      (row : PopEventRaw) (first : PopIndex) (hx : s.tx t = some (.running x))
      (hpending : x.pending = none) (htodo : x.todo = event :: rest)
      (hcheck : checkEvent s.db x event = .ok (result, some row)) :
      PopStep s t (s.resume t { x with pending := some { event, row, done := result, first } })
  | inserted (x : IngestTx) (w : PendingWrite) (db : Db) (hx : s.tx t = some (.running x))
      (hpending : x.pending = some w) (hhalf : w.half = false) (hwaits : s.waitsFor t = none)
      (hinsert : insertEntry w.index x.batch.takesNaive (x.view s.db) w.row = .ok db) :
      PopStep s t ((s.insert t w).resume t { x with pending := some { w with half := true } })
  | recorded (x : IngestTx) (w : PendingWrite) (db : Db) (hx : s.tx t = some (.running x))
      (hpending : x.pending = some w) (hhalf : w.half = true) (hwaits : s.waitsFor t = none)
      (hinsert : insertEntry w.index x.batch.takesNaive (x.view s.db) w.row = .ok db) :
      PopStep s t ((s.insert t w).resume t (x.record w))
  | duplicate (x : IngestTx) (w : PendingWrite) (e : IngestError)
      (hx : s.tx t = some (.running x)) (hpending : x.pending = some w)
      (hinsert : insertEntry w.index x.batch.takesNaive (x.view s.db) w.row = .error e)
      (hduplicate : driver.reportsDuplicate e = true) :
      PopStep s t ((s.rollback w).resume t (x.answer w.event duplicateEvent))

theorem writeStep_step {s : PopSystem τ} {t : τ} {x : IngestTx} {w : PendingWrite}
    (hx : s.tx t = some (.running x)) (hpending : x.pending = some w) :
    PopStep driver s t (writeStep driver s t x w) := by
  unfold writeStep
  cases hwaits : s.waitsFor t with
  | some u => exact .stay
  | none =>
      cases hinsert : insertEntry w.index x.batch.takesNaive (x.view s.db) w.row with
      | ok db =>
          dsimp only
          by_cases hhalf : w.half = true
          · rw [if_pos hhalf]
            exact .recorded x w db hx hpending hhalf hwaits hinsert
          · rw [if_neg hhalf]
            exact .inserted x w db hx hpending (Bool.eq_false_of_not_eq_true hhalf) hwaits hinsert
      | error e =>
          dsimp only
          split
          · rename_i hduplicate
            exact .duplicate x w e hx hpending hinsert hduplicate
          · exact .failed _

theorem popNext_step (s : PopSystem τ) (label : τ × PopMove τ) :
    PopStep driver s label.1 (popNext driver s label) := by
  unfold popNext
  split
  · rename_i x hx
    split
    · rename_i first hmove
      unfold ingestStep
      split
      · rename_i w hpending
        exact writeStep_step driver hx hpending
      · rename_i hpending htodo
        exact .committed x hx hpending htodo
      · rename_i event rest hpending htodo
        split
        · exact .failed _
        · rename_i result hcheck
          exact .answered x event rest result hx hpending htodo hcheck
        · rename_i result row hcheck
          exact .begun x event rest result row first hx hpending htodo hcheck
    · exact .aborted
    · split
      · exact .failed _
      · exact .stay
  · exact .stay

end Steps

/-! ## The invariant -/

/-- The uncommitted entries of a transaction. -/
def IngestTx.holds (x : IngestTx) (key : PopIndex × String) : Prop :=
  key.2 ∈ x.ids ∨ ∃ w ∈ x.pending, w.half = true ∧ w.first = key.1 ∧ w.row.eventId = key.2

/-- What is said of a transaction from its own state and the committed dedup index. -/
structure IngestTx.Sound (db₀ : Db) (known : List String) (x : IngestTx) : Prop where
  progress : x.answers.map Prod.fst ++ x.todo = x.batch.events
  unique : x.ids.Nodup
  head : ∀ w ∈ x.pending, x.todo.head? = some w.event
  row : ∀ w ∈ x.pending, w.row.eventId = w.event.eventId ∧
    w.row.deviceId ∈ db₀.physicalDevices.map (·.id)
  new : ∀ w ∈ x.pending, w.row.eventId ∉ x.ids
  answers : ∀ p ∈ x.answers, Asks db₀ x.batch p.1 →
    p.1.eventId ∈ x.ids ∨ (p.2.status = .duplicate ∧ p.1.eventId ∈ known)

structure PopInv (db₀ : Db) (s : PopSystem τ) : Prop where
  tables : ∃ rows : List PopEventRaw, s.db = db₀.recorded rows db₀.outboxEvents ∧
    (rows.map (·.eventId)).Nodup ∧ ∀ eventId ∈ rows.map (·.eventId), eventId ∉ db₀.popDedupIndex
  persisted : ∀ eventId, eventId ∈ s.db.popDedupIndex ↔
    eventId ∈ db₀.popDedupIndex ∨ ∃ t x, s.Completed t x ∧ eventId ∈ x.ids
  once : ∀ t u x y eventId, s.Completed t x → s.Completed u y → eventId ∈ x.ids →
    eventId ∈ y.ids → t = u
  running : ∀ t x, s.tx t = some (.running x) → x.Sound db₀ s.db.popDedupIndex
  completed : ∀ t x, s.Completed t x → x.todo = [] ∧ x.Sound db₀ s.db.popDedupIndex
  entries : ∀ t key, s.entry key = some t ↔ ∃ x, s.tx t = some (.running x) ∧ x.holds key
  fresh : ∀ t x key, s.tx t = some (.running x) → x.holds key →
    key.2 ∉ committedIds s.db key.1

theorem IngestTx.Sound.mono {db₀ : Db} {known known' : List String} {x : IngestTx}
    (h : x.Sound db₀ known) (hknown : ∀ eventId ∈ known, eventId ∈ known') :
    x.Sound db₀ known' :=
  { h with
    answers := fun p hp hasks ↦ (h.answers p hp hasks).imp_right fun hdup ↦
      ⟨hdup.1, hknown _ hdup.2⟩ }

theorem PopStart.inv {db₀ : Db} {s : PopSystem τ} (h : PopStart db₀ s) : PopInv db₀ s := by
  have hdone : ∀ t x, ¬ s.Completed t x := by
    intro t x hx
    obtain ⟨b, hb⟩ := h.tx t _ hx
    cases hb
  have hrunning : ∀ t x, s.tx t = some (.running x) →
      ∃ b : PopBatch, x = { batch := b, todo := b.events } := by
    intro t x hx
    obtain ⟨b, hb⟩ := h.tx t _ hx
    cases hb
    exact ⟨b, rfl⟩
  have hholds : ∀ t x, s.tx t = some (.running x) → ∀ key, ¬ x.holds key := by
    intro t x hx key hkey
    obtain ⟨b, rfl⟩ := hrunning t x hx
    rcases hkey with hkey | ⟨w, hw, -⟩
    · cases hkey
    · cases hw
  constructor
  · exact ⟨[], by rw [recorded_nil, h.db], List.nodup_nil, fun _ hid ↦ absurd hid List.not_mem_nil⟩
  · intro eventId
    rw [h.db]
    exact ⟨.inl, fun hor ↦ hor.resolve_right fun ⟨t, x, hx, _⟩ ↦ hdone t x hx⟩
  · exact fun t u x y eventId hx ↦ absurd hx (hdone t x)
  · intro t x hx
    obtain ⟨b, rfl⟩ := hrunning t x hx
    exact {
      progress := rfl
      unique := List.nodup_nil
      head := fun _ hw ↦ by cases hw
      row := fun _ hw ↦ by cases hw
      new := fun _ hw ↦ by cases hw
      answers := fun _ hp ↦ absurd hp List.not_mem_nil }
  · exact fun t x hx ↦ absurd hx (hdone t x)
  · intro t key
    rw [h.entry key]
    exact ⟨nofun, fun ⟨x, hx, hkey⟩ ↦ absurd hkey (hholds t x hx key)⟩
  · exact fun t x key hx hkey ↦ absurd hkey (hholds t x hx key)

section Kept

variable [DecidableEq τ] {db₀ : Db} {s : PopSystem τ} {t : τ}

omit [DecidableEq τ] in
/-- The entries of a running transaction are those that it holds. -/
theorem PopInv.own (h : PopInv db₀ s) {x : IngestTx} (hx : s.tx t = some (.running x))
    (key : PopIndex × String) : s.entry key = some t ↔ x.holds key := by
  rw [h.entries t key, hx]
  constructor
  · rintro ⟨y, heq, hkey⟩
    cases heq
    exact hkey
  · exact fun hkey ↦ ⟨x, rfl, hkey⟩

omit [DecidableEq τ] in
theorem entry_of_other {u : τ} (hu : u ≠ t) (own other : Prop) :
    (u = t ∧ own) ∨ (u ≠ t ∧ other) ↔ other := by
  simp [hu]

/-- A transaction goes on, with entries that are its own. -/
theorem PopInv.resumed (h : PopInv db₀ s) {x x' : IngestTx} (hx : s.tx t = some (.running x))
    {entry : PopIndex × String → Option τ} (hsound : x'.Sound db₀ s.db.popDedupIndex)
    (hentry : ∀ key u, entry key = some u ↔
      (u = t ∧ x'.holds key) ∨ (u ≠ t ∧ s.entry key = some u))
    (hfresh : ∀ key, x'.holds key → x.holds key ∨ key.2 ∉ committedIds s.db key.1) :
    PopInv db₀ ⟨s.db, entry, Function.update s.tx t (some (.running x'))⟩ := by
  have hcompleted : ∀ u y,
      PopSystem.Completed ⟨s.db, entry, Function.update s.tx t (some (.running x'))⟩ u y ↔
        s.Completed u y := by
    intro u y
    show Function.update s.tx t (some (.running x')) u = some (.completed y) ↔
      s.tx u = some (.completed y)
    by_cases hu : u = t
    · rw [hu, Function.update_self, hx]
      exact ⟨fun heq ↦ (by cases heq), fun heq ↦ (by cases heq)⟩
    · rw [Function.update_of_ne hu]
  have hrunning : ∀ u y, Function.update s.tx t (some (.running x')) u = some (.running y) →
      (u = t ∧ y = x') ∨ (u ≠ t ∧ s.tx u = some (.running y)) := by
    intro u y hy
    rcases Interleaving.Outline.tx_update hy with ⟨hu, heq⟩ | hold
    · cases heq
      exact .inl ⟨hu, rfl⟩
    · exact .inr hold
  constructor
  · exact h.tables
  · intro eventId
    simp only [hcompleted]
    exact h.persisted eventId
  · intro u v y z eventId hy hz
    exact h.once u v y z eventId ((hcompleted u y).1 hy) ((hcompleted v z).1 hz)
  · intro u y hy
    rcases hrunning u y hy with ⟨-, rfl⟩ | ⟨-, hold⟩
    · exact hsound
    · exact h.running u y hold
  · exact fun u y hy ↦ h.completed u y ((hcompleted u y).1 hy)
  · intro u key
    show entry key = some u ↔
      ∃ y, Function.update s.tx t (some (.running x')) u = some (.running y) ∧ y.holds key
    rw [hentry key u, h.entries u key]
    by_cases hu : u = t
    · rw [hu, Function.update_self]
      simp
    · rw [Function.update_of_ne hu, entry_of_other hu]
  · intro u y key hy hkey
    rcases hrunning u y hy with ⟨-, rfl⟩ | ⟨-, hold⟩
    · rcases hfresh key hkey with hkey | hnew
      · exact h.fresh t x key hx hkey
      · exact hnew
    · exact h.fresh u y key hold hkey

/-- Where the entries are those of before, a transaction goes on that holds the same. -/
theorem PopInv.resume (h : PopInv db₀ s) {x x' : IngestTx} (hx : s.tx t = some (.running x))
    (hsound : x'.Sound db₀ s.db.popDedupIndex) (hholds : ∀ key, x'.holds key ↔ x.holds key) :
    PopInv db₀ (s.resume t x') := by
  apply h.resumed hx hsound
  · intro key u
    by_cases hu : u = t
    · rw [hu, h.own hx key, hholds key]
      simp
    · rw [entry_of_other hu]
  · exact fun key hkey ↦ .inl ((hholds key).1 hkey)

/-- The entries of the others, after the end of a transaction. -/
theorem finish_entry (db : Db) (status : Option TxStatus) (key : PopIndex × String) (u : τ) :
    (s.finish t db status).entry key = some u ↔ u ≠ t ∧ s.entry key = some u := by
  show (if s.entry key = some t then none else s.entry key) = some u ↔ _
  by_cases hkey : s.entry key = some t
  · rw [if_pos hkey, hkey]
    exact ⟨nofun, fun ⟨hne, heq⟩ ↦ absurd (Option.some.inj heq).symm hne⟩
  · rw [if_neg hkey]
    exact ⟨fun heq ↦ ⟨fun hu ↦ hkey (hu ▸ heq), heq⟩, fun heq ↦ heq.2⟩

/-- A transaction ends with nothing. -/
theorem PopInv.dropped (h : PopInv db₀ s) {x : IngestTx} (hx : s.tx t = some (.running x))
    {status : Option TxStatus} (hstatus : ∀ y, status ≠ some (.running y))
    (hstatus' : ∀ y, status ≠ some (.completed y)) : PopInv db₀ (s.finish t s.db status) := by
  have htx : ∀ u y, (∃ z, y = TxStatus.running z ∨ y = .completed z) →
      ((s.finish t s.db status).tx u = some y ↔ u ≠ t ∧ s.tx u = some y) := by
    intro u y hy
    show Function.update s.tx t status u = some y ↔ _
    by_cases hu : u = t
    · rw [hu, Function.update_self]
      constructor
      · intro heq
        obtain ⟨z, rfl | rfl⟩ := hy
        · exact absurd heq (hstatus z)
        · exact absurd heq (hstatus' z)
      · exact fun hne ↦ absurd rfl hne.1
    · rw [Function.update_of_ne hu]
      exact ⟨fun heq ↦ ⟨hu, heq⟩, fun heq ↦ heq.2⟩
  have hcompleted : ∀ u y, (s.finish t s.db status).Completed u y ↔ s.Completed u y := by
    intro u y
    unfold PopSystem.Completed
    rw [htx u (.completed y) ⟨y, .inr rfl⟩]
    refine ⟨fun heq ↦ heq.2, fun heq ↦ ⟨?_, heq⟩⟩
    intro hu
    rw [hu, hx] at heq
    cases heq
  constructor
  · exact h.tables
  · intro eventId
    simp only [hcompleted]
    exact h.persisted eventId
  · intro u v y z eventId hy hz
    exact h.once u v y z eventId ((hcompleted u y).1 hy) ((hcompleted v z).1 hz)
  · exact fun u y hy ↦ h.running u y ((htx u _ ⟨y, .inl rfl⟩).1 hy).2
  · exact fun u y hy ↦ h.completed u y ((hcompleted u y).1 hy)
  · intro u key
    rw [finish_entry, h.entries u key]
    constructor
    · rintro ⟨hu, y, hy, hkey⟩
      exact ⟨y, (htx u _ ⟨y, .inl rfl⟩).2 ⟨hu, hy⟩, hkey⟩
    · rintro ⟨y, hy, hkey⟩
      have hold := (htx u _ ⟨y, .inl rfl⟩).1 hy
      exact ⟨hold.1, y, hold.2, hkey⟩
  · exact fun u y key hy hkey ↦ h.fresh u y key ((htx u _ ⟨y, .inl rfl⟩).1 hy).2 hkey

theorem IngestTx.view_dedupIndex (x : IngestTx) (db : Db) :
    (x.view db).popDedupIndex = db.popDedupIndex ++ x.ids := rfl

theorem committedIds_view (x : IngestTx) (db : Db) (index : PopIndex) :
    committedIds (x.view db) index = committedIds db index ++ x.ids := by
  cases index with
  | dedup => rfl
  | raw => exact List.map_append

section Commit

variable {x : IngestTx}

omit [DecidableEq τ] in
/-- What a transaction is about to commit is not known yet. -/
theorem PopInv.new_ids (h : PopInv db₀ s) (hx : s.tx t = some (.running x)) :
    ∀ eventId ∈ x.ids, eventId ∉ s.db.popDedupIndex := fun eventId hid ↦
  h.fresh t x (.dedup, eventId) hx (.inl hid)

omit [DecidableEq τ] in
theorem PopInv.commit_tables (h : PopInv db₀ s) (hx : s.tx t = some (.running x)) :
    ∃ rows : List PopEventRaw, x.view s.db = db₀.recorded rows db₀.outboxEvents ∧
      (rows.map (·.eventId)).Nodup ∧
      ∀ eventId ∈ rows.map (·.eventId), eventId ∉ db₀.popDedupIndex := by
  have hnew := h.new_ids hx
  obtain ⟨rows, hdb, hnodup, hrows⟩ := h.tables
  refine ⟨rows ++ x.rows, ?_, ?_, ?_⟩
  · unfold IngestTx.view
    rw [hdb]
    exact recorded_recorded db₀ rows x.rows _ _
  · rw [List.map_append, List.nodup_append']
    refine ⟨hnodup, (h.running t x hx).unique, fun eventId hid hid' ↦ hnew eventId hid' ?_⟩
    rw [hdb]
    exact List.mem_append_right _ hid
  · intro eventId hid
    rw [List.map_append, List.mem_append] at hid
    rcases hid with hid | hid
    · exact hrows eventId hid
    · intro hknown
      apply hnew eventId hid
      rw [hdb]
      exact List.mem_append_left _ hknown

theorem commit_completed (hx : s.tx t = some (.running x)) (db : Db) (u : τ) (y : IngestTx) :
    (s.finish t db (some (.completed x))).Completed u y ↔ (u = t ∧ y = x) ∨ s.Completed u y := by
  show Function.update s.tx t (some (.completed x)) u = some (.completed y) ↔
    (u = t ∧ y = x) ∨ s.tx u = some (.completed y)
  by_cases hu : u = t
  · rw [hu, Function.update_self, hx]
    constructor
    · intro heq
      cases heq
      exact .inl ⟨rfl, rfl⟩
    · rintro (⟨-, rfl⟩ | heq)
      · rfl
      · cases heq
  · rw [Function.update_of_ne hu]
    exact ⟨.inr, fun hor ↦ hor.resolve_left fun hsame ↦ hu hsame.1⟩

theorem running_of_finish {db : Db} {status : Option TxStatus}
    (hstatus : ∀ z, status ≠ some (.running z)) {u : τ} {y : IngestTx}
    (hy : (s.finish t db status).tx u = some (.running y)) :
    u ≠ t ∧ s.tx u = some (.running y) := by
  rcases Interleaving.Outline.tx_update hy with ⟨-, heq⟩ | hother
  · exact absurd heq (hstatus y)
  · exact hother

theorem PopInv.commit_persisted (h : PopInv db₀ s) (hx : s.tx t = some (.running x))
    (eventId : String) :
    eventId ∈ (x.view s.db).popDedupIndex ↔ eventId ∈ db₀.popDedupIndex ∨
      ∃ u y, (s.finish t (x.view s.db) (some (.completed x))).Completed u y ∧
        eventId ∈ y.ids := by
  rw [IngestTx.view_dedupIndex, List.mem_append, h.persisted eventId]
  constructor
  · rintro ((hknown | ⟨u, y, hy, hid⟩) | hid)
    · exact .inl hknown
    · exact .inr ⟨u, y, (commit_completed hx _ u y).2 (.inr hy), hid⟩
    · exact .inr ⟨t, x, (commit_completed hx _ t x).2 (.inl ⟨rfl, rfl⟩), hid⟩
  · rintro (hknown | ⟨u, y, hy, hid⟩)
    · exact .inl (.inl hknown)
    · rcases (commit_completed hx _ u y).1 hy with ⟨-, hyx⟩ | hold
      · exact .inr (hyx ▸ hid)
      · exact .inl (.inr ⟨u, y, hold, hid⟩)

theorem PopInv.commit_once (h : PopInv db₀ s) (hx : s.tx t = some (.running x)) {u v : τ}
    {y z : IngestTx} {eventId : String}
    (hy : (s.finish t (x.view s.db) (some (.completed x))).Completed u y)
    (hz : (s.finish t (x.view s.db) (some (.completed x))).Completed v z)
    (hidy : eventId ∈ y.ids) (hidz : eventId ∈ z.ids) : u = v := by
  -- what the others have stored is known, and what `x` stores was not
  have hother : ∀ u y, s.Completed u y → eventId ∈ y.ids → eventId ∉ x.ids :=
    fun u y hy hid hid' ↦ h.new_ids hx eventId hid'
      ((h.persisted eventId).2 (.inr ⟨u, y, hy, hid⟩))
  rcases (commit_completed hx _ u y).1 hy with ⟨hu, hyx⟩ | hy'
  · rcases (commit_completed hx _ v z).1 hz with ⟨hv, -⟩ | hz'
    · rw [hu, hv]
    · exact absurd (hyx ▸ hidy) (hother v z hz' hidz)
  · rcases (commit_completed hx _ v z).1 hz with ⟨-, hzx⟩ | hz'
    · exact absurd (hzx ▸ hidz) (hother u y hy' hidy)
    · exact h.once u v y z eventId hy' hz' hidy hidz

/-- A commit makes the entries of the transaction known; nobody else holds one of them. -/
theorem PopInv.committed (h : PopInv db₀ s) (hx : s.tx t = some (.running x))
    (htodo : x.todo = []) :
    PopInv db₀ (s.finish t (x.view s.db) (some (.completed x))) := by
  have hrunning : ∀ u y, (s.finish t (x.view s.db) (some (.completed x))).tx u =
      some (.running y) → u ≠ t ∧ s.tx u = some (.running y) :=
    fun u y ↦ running_of_finish fun z heq ↦ by cases heq
  have hknown : ∀ eventId ∈ s.db.popDedupIndex, eventId ∈ (x.view s.db).popDedupIndex :=
    fun eventId ↦ List.mem_append_left _
  constructor
  · exact h.commit_tables hx
  · exact h.commit_persisted hx
  · exact fun u v y z eventId hy hz ↦ h.commit_once hx hy hz
  · exact fun u y hy ↦ (h.running u y (hrunning u y hy).2).mono hknown
  · intro u y hy
    rcases (commit_completed hx _ u y).1 hy with ⟨-, rfl⟩ | hold
    · exact ⟨htodo, (h.running t y hx).mono hknown⟩
    · exact ⟨(h.completed u y hold).1, (h.completed u y hold).2.mono hknown⟩
  · intro u key
    rw [finish_entry, h.entries u key]
    constructor
    · rintro ⟨hu, y, hy, hkey⟩
      exact ⟨y, (Function.update_of_ne hu _ _).trans hy, hkey⟩
    · rintro ⟨y, hy, hkey⟩
      exact ⟨(hrunning u y hy).1, y, (hrunning u y hy).2, hkey⟩
  · intro u y key hy hkey hid
    obtain ⟨hu, hy⟩ := hrunning u y hy
    have hid' : key.2 ∈ committedIds (x.view s.db) key.1 := hid
    rw [committedIds_view, List.mem_append] at hid'
    rcases hid' with hid' | hid'
    · exact h.fresh u y key hy hkey hid'
    · -- one entry does not belong to two transactions
      have hmine := (h.own hx key).2 (.inl hid')
      have htheirs := (h.own hy key).2 hkey
      rw [hmine] at htheirs
      exact hu (Option.some.inj htheirs).symm

end Commit

/-! ## Statements -/

theorem insertPopRawEvent_error {takesNaive : Bool} {db : Db} {row : PopEventRaw}
    {e : IngestError} (h : insertPopRawEvent takesNaive db row = .error e) :
    e = .dataError ∨ ∃ constraint ∈ popRawConstraints, e = .integrityError constraint := by
  unfold insertPopRawEvent at h
  split at h
  · cases h
    exact .inl rfl
  · split at h
    · cases h
      exact .inr ⟨_, by decide, rfl⟩
    · split at h
      · cases h
        exact .inr ⟨_, by decide, rfl⟩
      · split at h
        · cases h
          exact .inr ⟨_, by decide, rfl⟩
        · cases h

theorem insertPopRawEvent_raises {driver : Driver} (hdriver : driver.NamesConstraint)
    {takesNaive : Bool} {db : Db} {row : PopEventRaw} {e : IngestError}
    (h : insertPopRawEvent takesNaive db row = .error e) : driver.reportsDuplicate e = false := by
  rcases insertPopRawEvent_error h with rfl | ⟨constraint, hmem, rfl⟩
  · rfl
  · exact hdriver constraint hmem

/-- Only the dedup index turns an insert away as a duplicate. -/
theorem insertEntry_duplicate {driver : Driver} (hdriver : driver.NamesConstraint)
    {index : PopIndex} {takesNaive : Bool} {db : Db} {row : PopEventRaw} {e : IngestError}
    (h : insertEntry index takesNaive db row = .error e)
    (hduplicate : driver.reportsDuplicate e = true) : row.eventId ∈ db.popDedupIndex := by
  cases index with
  | raw =>
      rw [insertPopRawEvent_raises hdriver h] at hduplicate
      cases hduplicate
  | dedup =>
      by_contra hnew
      have hok : insertEntry .dedup takesNaive db row = .ok _ := if_neg hnew
      rw [hok] at h
      cases h

theorem insertEntry_new {index : PopIndex} {takesNaive : Bool} {db db' : Db} {row : PopEventRaw}
    (h : insertEntry index takesNaive db row = .ok db') :
    row.eventId ∉ committedIds db index := by
  cases index with
  | raw => exact (insertPopRawEvent_ok h).1
  | dedup =>
      intro hknown
      have herror : insertEntry .dedup takesNaive db row = .error _ := if_pos hknown
      rw [herror] at h
      cases h

/-- An insert that succeeds has been sent. -/
theorem insertEntry_sent {w : PendingWrite} {takesNaive : Bool} {db db' : Db}
    (h : insertEntry w.index takesNaive db w.row = .ok db') : w.sent takesNaive = true := by
  apply decide_eq_true
  cases hindex : w.index with
  | dedup => exact .inl rfl
  | raw =>
      right
      rw [hindex] at h
      by_contra hfits
      have herror : insertEntry .raw takesNaive db w.row = .error .dataError := if_pos hfits
      rw [herror] at h
      cases h

/-- An insert that is not held up finds no entry of another transaction. -/
theorem entry_of_waitsFor {x : IngestTx} {w : PendingWrite} (hx : s.tx t = some (.running x))
    (hpending : x.pending = some w) (hsent : w.sent x.batch.takesNaive = true)
    (hwaits : s.waitsFor t = none) {u : τ}
    (hu : s.entry (w.index, w.row.eventId) = some u) : u = t := by
  unfold PopSystem.waitsFor at hwaits
  rw [hx] at hwaits
  dsimp only at hwaits
  rw [hpending] at hwaits
  dsimp only at hwaits
  rw [if_pos hsent, hu] at hwaits
  by_contra hne
  rw [Option.filter_some, if_pos (decide_eq_true hne)] at hwaits
  cases hwaits

/-- A successful insert adds its entry to those of the transaction. -/
theorem PopInv.insert (h : PopInv db₀ s) {x x' : IngestTx} {w : PendingWrite} {db : Db}
    (hx : s.tx t = some (.running x)) (hpending : x.pending = some w)
    (hwaits : s.waitsFor t = none)
    (hinsert : insertEntry w.index x.batch.takesNaive (x.view s.db) w.row = .ok db)
    (hsound : x'.Sound db₀ s.db.popDedupIndex)
    (hholds : ∀ key, x'.holds key ↔ x.holds key ∨ key = (w.index, w.row.eventId)) :
    PopInv db₀ ((s.insert t w).resume t x') := by
  apply h.resumed hx hsound
  · -- the key was free, or the insert would have waited
    intro key u
    show Function.update s.entry (w.index, w.row.eventId) (some t) key = some u ↔ _
    by_cases hkey : key = (w.index, w.row.eventId)
    · rw [hkey, Function.update_self, hholds]
      constructor
      · intro heq
        exact .inl ⟨(Option.some.inj heq).symm, .inr rfl⟩
      · rintro (⟨hu, -⟩ | ⟨hne, hentry⟩)
        · rw [hu]
        · exact absurd
            (entry_of_waitsFor hx hpending (insertEntry_sent hinsert) hwaits hentry) hne
    · rw [Function.update_of_ne hkey, hholds]
      by_cases hu : u = t
      · rw [hu, h.own hx key]
        simp [hkey]
      · rw [entry_of_other hu]
  · intro key hkey
    rcases (hholds key).1 hkey with hown | rfl
    · exact .inl hown
    · right
      have hnew := insertEntry_new hinsert
      rw [committedIds_view, List.mem_append] at hnew
      exact fun hknown ↦ hnew (.inl hknown)

end Kept

/-! ## Events -/

section Checks

variable {db : Db} {b : PopBatch} {event : PopEventIn}

theorem refusal_misdirected {result : IngestResult}
    (h : misdirected event b.jwtDeviceId = some result) :
    refusal db event b.jwtDeviceId = .ok (some result) := by
  unfold refusal
  rw [h]

theorem refusal_known (h : misdirected event b.jwtDeviceId = none)
    (hid : event.eventId ∈ db.popDedupIndex) :
    refusal db event b.jwtDeviceId = .ok (some duplicateEvent) := by
  unfold refusal isPopEventDuplicate
  rw [h, if_pos hid]

theorem refusal_new (h : misdirected event b.jwtDeviceId = none)
    (hid : event.eventId ∉ db.popDedupIndex) :
    refusal db event b.jwtDeviceId =
      if storableText event.eventId = true then .ok (unplayed event) else .error .dataError := by
  unfold refusal isPopEventDuplicate
  rw [h, if_neg hid]
  by_cases htext : storableText event.eventId = true
  · rw [if_pos htext, if_pos htext]
  · rw [if_neg htext, if_neg htext]

theorem settlement_unplayed {result : IngestResult} (h : unplayed event = some result) :
    settlement db b event = .ok (result, none) := by
  unfold settlement
  rw [h]

theorem Asks.directed (h : Asks db b event) : misdirected event b.jwtDeviceId = none := by
  unfold Asks askedRow at h
  cases hmisdirected : misdirected event b.jwtDeviceId with
  | none => rfl
  | some result =>
      rw [hmisdirected] at h
      exact absurd rfl h

theorem not_asks_of_settlement {result : IngestResult}
    (h : settlement db b event = .ok (result, none)) : ¬ Asks db b event := by
  intro hasks
  exact hasks (askedRow_of_directed hasks.directed h)

end Checks

/-- An event that is answered without a write asks for no row, or is known. -/
theorem checkEvent_answered {db : Db} {x : IngestTx} {event : PopEventIn} {result : IngestResult}
    (h : checkEvent db x event = .ok (result, none)) (hasks : Asks db x.batch event) :
    result.status = .duplicate ∧ event.eventId ∈ (x.view db).popDedupIndex := by
  unfold checkEvent at h
  by_cases hknown : event.eventId ∈ (x.view db).popDedupIndex
  · rw [refusal_known hasks.directed hknown] at h
    cases h
    exact ⟨rfl, hknown⟩
  · -- the checks of a new event are those of its settlement, which asks for no row
    rw [refusal_new hasks.directed hknown] at h
    exfalso
    split at h
    · cases h
    · rename_i hrefused
      split at hrefused
      · exact not_asks_of_settlement (settlement_unplayed (Except.ok.inj hrefused)) hasks
      · cases hrefused
    · exact not_asks_of_settlement h hasks

/-- The row of an event that begins its write: the event is new. -/
theorem checkEvent_begun {db : Db} {x : IngestTx} {event : PopEventIn} {result : IngestResult}
    {row : PopEventRaw} (h : checkEvent db x event = .ok (result, some row)) :
    row.eventId = event.eventId ∧ row.deviceId ∈ db.physicalDevices.map (·.id) ∧
      event.eventId ∉ (x.view db).popDedupIndex := by
  unfold checkEvent at h
  split at h
  · cases h
  · cases h
  · rename_i hrefusal
    rcases settlement_cases h with ⟨hnone, -⟩ | ⟨row', hrow, hid, hdevice, -⟩
    · cases hnone
    · cases hrow
      refine ⟨hid, hdevice, fun hknown ↦ ?_⟩
      cases hmisdirected : misdirected event x.batch.jwtDeviceId with
      | some r =>
          rw [refusal_misdirected hmisdirected] at hrefusal
          cases hrefusal
      | none =>
          rw [refusal_known hmisdirected hknown] at hrefusal
          cases hrefusal

section Statements

variable [DecidableEq τ] {db₀ : Db} {s : PopSystem τ} {t : τ} {x : IngestTx}

omit [DecidableEq τ] in
theorem PopInv.asks (h : PopInv db₀ s) (b : PopBatch) (event : PopEventIn) :
    Asks s.db b event ↔ Asks db₀ b event := by
  obtain ⟨rows, hdb, -⟩ := h.tables
  rw [hdb]
  exact Iff.rfl

theorem holds_idle {key : PopIndex × String} (hpending : x.pending = none) :
    x.holds key ↔ key.2 ∈ x.ids := by
  refine ⟨fun h ↦ h.resolve_right ?_, .inl⟩
  rintro ⟨w, hw, -⟩
  rw [hpending] at hw
  cases hw

theorem IngestTx.Sound.todo_cons {known : List String} {w : PendingWrite}
    (h : x.Sound db₀ known) (hw : x.pending = some w) : x.todo = w.event :: x.todo.tail := by
  have hhead := h.head w hw
  cases htodo : x.todo with
  | nil =>
      rw [htodo] at hhead
      cases hhead
  | cons event rest =>
      rw [htodo] at hhead
      cases hhead
      rfl

/-- The answer to the event at the head of a batch. -/
theorem IngestTx.Sound.answer {known : List String} (h : x.Sound db₀ known) {event : PopEventIn}
    {rest : List PopEventIn} {result : IngestResult} (htodo : x.todo = event :: rest)
    (hanswer : Asks db₀ x.batch event →
      event.eventId ∈ x.ids ∨ (result.status = .duplicate ∧ event.eventId ∈ known)) :
    (x.answer event result).Sound db₀ known where
  progress := by
    show (x.answers ++ [(event, result)]).map Prod.fst ++ x.todo.tail = x.batch.events
    rw [← h.progress, htodo, List.map_append, List.append_assoc]
    rfl
  unique := h.unique
  head _ hw := by cases hw
  row _ hw := by cases hw
  new _ hw := by cases hw
  answers p hp hasks := by
    rcases List.mem_append.1 hp with hp | hp
    · exact h.answers p hp hasks
    · rw [List.mem_singleton.1 hp] at hasks ⊢
      exact hanswer hasks

theorem PopInv.answered (h : PopInv db₀ s) (hx : s.tx t = some (.running x))
    (hpending : x.pending = none) {event : PopEventIn} {rest : List PopEventIn}
    {result : IngestResult} (htodo : x.todo = event :: rest)
    (hcheck : checkEvent s.db x event = .ok (result, none)) :
    PopInv db₀ (s.resume t (x.answer event result)) := by
  apply h.resume hx
  · apply (h.running t x hx).answer htodo
    intro hasks
    obtain ⟨hstatus, hknown⟩ := checkEvent_answered hcheck ((h.asks x.batch event).2 hasks)
    rcases List.mem_append.1 hknown with hknown | hown
    · exact .inr ⟨hstatus, hknown⟩
    · exact .inl hown
  · intro key
    rw [holds_idle hpending, holds_idle rfl]
    rfl

theorem PopInv.begun (h : PopInv db₀ s) (hx : s.tx t = some (.running x))
    (hpending : x.pending = none) {event : PopEventIn} {rest : List PopEventIn}
    {result : IngestResult} {row : PopEventRaw} (first : PopIndex)
    (htodo : x.todo = event :: rest)
    (hcheck : checkEvent s.db x event = .ok (result, some row)) :
    PopInv db₀ (s.resume t { x with pending := some { event, row, done := result, first } }) := by
  obtain ⟨hid, hdevice, hnew⟩ := checkEvent_begun hcheck
  have hsound := h.running t x hx
  apply h.resume hx
  · refine { hsound with head := ?_, row := ?_, new := ?_ }
    · rintro w ⟨⟩
      rw [htodo]
      rfl
    · rintro w ⟨⟩
      obtain ⟨rows, hdb, -⟩ := h.tables
      rw [hdb] at hdevice
      exact ⟨hid, hdevice⟩
    · rintro w ⟨⟩ hown
      apply hnew
      rw [← hid]
      exact List.mem_append_right _ hown
  · intro key
    rw [holds_idle hpending]
    constructor
    · rintro (hown | ⟨w, ⟨⟩, hhalf, -⟩)
      · exact hown
      · cases hhalf
    · exact .inl

theorem PopInv.inserted (h : PopInv db₀ s) (hx : s.tx t = some (.running x)) {w : PendingWrite}
    {db : Db} (hpending : x.pending = some w) (hhalf : w.half = false)
    (hwaits : s.waitsFor t = none)
    (hinsert : insertEntry w.index x.batch.takesNaive (x.view s.db) w.row = .ok db) :
    PopInv db₀
      ((s.insert t w).resume t { x with pending := some { w with half := true } }) := by
  have hsound := h.running t x hx
  apply h.insert hx hpending hwaits hinsert
  · refine { hsound with head := ?_, row := ?_, new := ?_ }
    · rintro _ ⟨⟩
      exact hsound.head w hpending
    · rintro _ ⟨⟩
      exact hsound.row w hpending
    · rintro _ ⟨⟩
      exact hsound.new w hpending
  · intro key
    have hindex : w.index = w.first := by
      unfold PendingWrite.index
      rw [hhalf]
      rfl
    rw [hindex]
    constructor
    · rintro (hown | ⟨w', ⟨⟩, -, hfirst, hid⟩)
      · exact .inl (.inl hown)
      · exact .inr (Prod.ext hfirst.symm hid.symm)
    · rintro ((hown | ⟨w', hw', hhalf', -⟩) | rfl)
      · exact .inl hown
      · rw [hpending] at hw'
        cases hw'
        rw [hhalf] at hhalf'
        cases hhalf'
      · exact .inr ⟨_, rfl, rfl, rfl, rfl⟩

theorem PopInv.recorded (h : PopInv db₀ s) (hx : s.tx t = some (.running x)) {w : PendingWrite}
    {db : Db} (hpending : x.pending = some w) (hhalf : w.half = true)
    (hwaits : s.waitsFor t = none)
    (hinsert : insertEntry w.index x.batch.takesNaive (x.view s.db) w.row = .ok db) :
    PopInv db₀ ((s.insert t w).resume t (x.record w)) := by
  have hsound := h.running t x hx
  have hids : (x.record w).ids = x.ids ++ [w.row.eventId] := List.map_append
  apply h.insert hx hpending hwaits hinsert
  · -- the record is the answer of a transaction that has the row already
    have hwith : IngestTx.Sound db₀ s.db.popDedupIndex
        { x with rows := x.rows ++ [w.row], pending := none } := by
      refine { hsound with
        unique := ?_
        head := fun _ hw ↦ by cases hw
        row := fun _ hw ↦ by cases hw
        new := fun _ hw ↦ by cases hw
        answers := ?_ }
      · exact hids ▸ Rows.nodup_concat hsound.unique (hsound.new w hpending)
      · intro p hp hasks
        exact (hsound.answers p hp hasks).imp_left fun hown ↦
          hids ▸ List.mem_append_left _ hown
    apply hwith.answer (hsound.todo_cons hpending)
    intro _
    left
    rw [← (hsound.row w hpending).1]
    exact hids ▸ List.mem_append_right _ (List.mem_singleton.2 rfl)
  · intro key
    rw [holds_idle rfl, hids, List.mem_append, List.mem_singleton]
    constructor
    · rintro (hown | hid)
      · exact .inl (.inl hown)
      · -- one of the two indexes had the entry already
        by_cases hindex : key.1 = w.index
        · exact .inr (Prod.ext hindex hid)
        · refine .inl (.inr ⟨w, hpending, hhalf, ?_, hid.symm⟩)
          unfold PendingWrite.index at hindex
          rw [if_pos hhalf] at hindex
          cases hfirst : w.first with
          | dedup =>
              rw [hfirst] at hindex
              cases hkey : key.1 with
              | dedup => rfl
              | raw => exact absurd hkey hindex
          | raw =>
              rw [hfirst] at hindex
              cases hkey : key.1 with
              | dedup => exact absurd hkey hindex
              | raw => rfl
    · rintro ((hown | ⟨w', hw', -, -, hid⟩) | rfl)
      · exact .inl hown
      · rw [hpending] at hw'
        cases hw'
        exact .inr hid.symm
      · exact .inr rfl

theorem PopInv.duplicate (h : PopInv db₀ s) (hx : s.tx t = some (.running x)) {w : PendingWrite}
    (hpending : x.pending = some w)
    (hknown : w.row.eventId ∈ (x.view s.db).popDedupIndex) :
    PopInv db₀ ((s.rollback w).resume t (x.answer w.event duplicateEvent)) := by
  have hsound := h.running t x hx
  have hanswer : (x.answer w.event duplicateEvent).Sound db₀ s.db.popDedupIndex := by
    apply hsound.answer (hsound.todo_cons hpending)
    intro _
    rw [← (hsound.row w hpending).1]
    rcases List.mem_append.1 hknown with hknown | hown
    · exact .inr ⟨rfl, hknown⟩
    · exact .inl hown
  have hholds : ∀ key, (x.answer w.event duplicateEvent).holds key ↔ key.2 ∈ x.ids :=
    fun key ↦ holds_idle rfl
  unfold PopSystem.rollback
  by_cases hhalf : w.half = true
  · rw [if_pos hhalf]
    apply h.resumed hx hanswer
    · intro key u
      show Function.update s.entry (w.first, w.row.eventId) none key = some u ↔ _
      rw [hholds key]
      by_cases hkey : key = (w.first, w.row.eventId)
      · -- the entry was the transaction's own
        have hmine := (h.own hx (w.first, w.row.eventId)).2
          (.inr ⟨w, hpending, hhalf, rfl, rfl⟩)
        rw [hkey, Function.update_self, hmine]
        constructor
        · exact nofun
        · rintro (⟨-, hown⟩ | ⟨hne, heq⟩)
          · exact absurd hown (hsound.new w hpending)
          · exact absurd (Option.some.inj heq).symm hne
      · rw [Function.update_of_ne hkey]
        by_cases hu : u = t
        · have hkept : x.holds key ↔ key.2 ∈ x.ids := by
            refine ⟨fun hown ↦ hown.resolve_right ?_, .inl⟩
            rintro ⟨w', hw', -, hfirst, hid⟩
            rw [hpending] at hw'
            cases hw'
            exact hkey (Prod.ext hfirst.symm hid.symm)
          rw [hu, h.own hx key, hkept]
          simp
        · rw [entry_of_other hu]
    · exact fun key hkey ↦ .inl (.inl ((hholds key).1 hkey))
  · rw [if_neg hhalf]
    apply h.resume hx hanswer
    intro key
    rw [hholds key]
    refine ⟨.inl, fun hown ↦ hown.resolve_right ?_⟩
    rintro ⟨w', hw', hhalf', -⟩
    rw [hpending] at hw'
    cases hw'
    exact hhalf hhalf'

/-- Every step keeps the invariant. -/
theorem popNext_inv {driver : Driver} (hdriver : driver.NamesConstraint) (h : PopInv db₀ s)
    (label : τ × PopMove τ) : PopInv db₀ (popNext driver s label) := by
  cases hx : s.tx label.1 with
  | none =>
      unfold popNext
      rw [hx]
      exact h
  | some status =>
      cases status with
      -- what has ended takes no more steps
      | completed y =>
          unfold popNext
          rw [hx]
          exact h
      | raised e =>
          unfold popNext
          rw [hx]
          exact h
      | running x =>
          have hstep := popNext_step driver s label
          generalize popNext driver s label = s' at hstep ⊢
          cases hstep with
          | stay => exact h
          | aborted => exact h.dropped hx (fun _ hy ↦ by cases hy) fun _ hy ↦ by cases hy
          | failed e => exact h.dropped hx (fun _ hy ↦ by cases hy) fun _ hy ↦ by cases hy
          | committed x' hx' hpending htodo => exact h.committed hx' htodo
          | answered x' event rest result hx' hpending htodo hcheck =>
              exact h.answered hx' hpending htodo hcheck
          | begun x' event rest result row first hx' hpending htodo hcheck =>
              exact h.begun hx' hpending first htodo hcheck
          | inserted x' w db hx' hpending hhalf hwaits hinsert =>
              exact h.inserted hx' hpending hhalf hwaits hinsert
          | recorded x' w db hx' hpending hhalf hwaits hinsert =>
              exact h.recorded hx' hpending hhalf hwaits hinsert
          | duplicate x' w e hx' hpending hinsert hduplicate =>
              exact h.duplicate hx' hpending
                (insertEntry_duplicate hdriver hinsert hduplicate)

/-! ## When a step raises -/

omit [DecidableEq τ] in
theorem PopInv.consistent (h : PopInv db₀ s) (hdb : PopConsistent db₀) {eventId : String}
    (hnew : eventId ∉ s.db.popDedupIndex) : eventId ∉ s.db.popEventsRaw.map (·.eventId) := by
  obtain ⟨rows, heq, -⟩ := h.tables
  rw [heq] at hnew ⊢
  intro hrow
  apply hnew
  obtain ⟨r, hr, rfl⟩ := List.mem_map.1 hrow
  rcases List.mem_append.1 hr with hr | hr
  · exact List.mem_append_left _ (hdb.indexed r hr)
  · exact List.mem_append_right _ (List.mem_map_of_mem hr)

theorem checkEvent_ok_iff {db : Db} (hunique : db.manifestIds.Nodup) (event : PopEventIn) :
    (∃ v, checkEvent db x event = .ok v) ↔
      misdirected event x.batch.jwtDeviceId ≠ none ∨
        event.eventId ∈ (x.view db).popDedupIndex ∨ Checkable db x.batch event := by
  unfold checkEvent
  cases hmisdirected : misdirected event x.batch.jwtDeviceId with
  | some result =>
      rw [refusal_misdirected hmisdirected]
      exact ⟨fun _ ↦ .inl (by simp), fun _ ↦ ⟨_, rfl⟩⟩
  | none =>
      by_cases hknown : event.eventId ∈ (x.view db).popDedupIndex
      · rw [refusal_known hmisdirected hknown]
        exact ⟨fun _ ↦ .inr (.inl hknown), fun _ ↦ ⟨_, rfl⟩⟩
      · rw [refusal_new hmisdirected hknown]
        have hsettles := settlement_ok_iff hunique x.batch event
        by_cases htext : storableText event.eventId = true
        · rw [if_pos htext]
          have hok : (∃ v, settlement db x.batch event = .ok v) ↔
              Checkable db x.batch event :=
            hsettles.trans ⟨fun h ↦ ⟨htext, h.1, h.2⟩, fun h ↦ ⟨h.comparable, h.resolvable⟩⟩
          have hor : (none ≠ (none : Option IngestResult) ∨
              event.eventId ∈ (x.view db).popDedupIndex ∨ Checkable db x.batch event) ↔
                Checkable db x.batch event := by simp [hknown]
          rw [hor, ← hok]
          cases hplayed : unplayed event with
          | none => rfl
          | some result =>
              exact ⟨fun _ ↦ ⟨_, settlement_unplayed hplayed⟩, fun _ ↦ ⟨_, rfl⟩⟩
        · rw [if_neg htext]
          constructor
          · rintro ⟨v, hv⟩
            cases hv
          · rintro (hne | hid | hcheck)
            · exact absurd rfl hne
            · exact absurd hid hknown
            · exact absurd hcheck.id htext

/-- The insert into the raw table. -/
theorem insertPopRawEvent_ok_iff {takesNaive : Bool} {db : Db} {row : PopEventRaw}
    (hdevice : row.deviceId ∈ db.physicalDevices.map (·.id)) :
    (∃ db', insertPopRawEvent takesNaive db row = .ok db') ↔
      (row.fits takesNaive = true ∧ row.creativeAssetId ∈ db.creativeAssets.map (·.id)) ∧
        row.eventId ∉ db.popEventsRaw.map (·.eventId) := by
  unfold insertPopRawEvent
  by_cases hfits : row.fits takesNaive = true
  · rw [if_neg (not_not.2 hfits)]
    by_cases hid : row.eventId ∈ db.popEventsRaw.map (·.eventId)
    · rw [if_pos hid]
      exact ⟨fun ⟨_, h⟩ ↦ (by cases h), fun h ↦ absurd hid h.2⟩
    · rw [if_neg hid, if_neg (not_not.2 hdevice)]
      by_cases hasset : row.creativeAssetId ∈ db.creativeAssets.map (·.id)
      · rw [if_neg (not_not.2 hasset)]
        exact ⟨fun _ ↦ ⟨⟨hfits, hasset⟩, hid⟩, fun _ ↦ ⟨_, rfl⟩⟩
      · rw [if_pos hasset]
        exact ⟨fun ⟨_, h⟩ ↦ (by cases h), fun h ↦ absurd h.1.2 hasset⟩
  · rw [if_pos hfits]
    exact ⟨fun ⟨_, h⟩ ↦ (by cases h), fun h ↦ absurd h.1.1 hfits⟩

/-- The insert goes through, or its error is reported as a duplicate. -/
def Driver.Survives (driver : Driver) (r : Except IngestError Db) : Prop :=
  ∀ e, r = .error e → driver.reportsDuplicate e = true

section Survives

variable {driver : Driver} {w : PendingWrite}

omit [DecidableEq τ] in
/-- An event in its savepoint is not among those that the transaction has written before. -/
theorem PopInv.committedIds_pending (h : PopInv db₀ s) (hx : s.tx t = some (.running x))
    (hpending : x.pending = some w) (index : PopIndex) :
    w.row.eventId ∈ committedIds (x.view s.db) index ↔
      w.row.eventId ∈ committedIds s.db index := by
  rw [committedIds_view, List.mem_append]
  exact ⟨fun hor ↦ hor.resolve_right ((h.running t x hx).new w hpending), .inl⟩

omit [DecidableEq τ] in
/-- Where the dedup index has taken the id already, it is in neither table. -/
theorem PopInv.raw_second (h : PopInv db₀ s) (hdb : PopConsistent db₀)
    (hx : s.tx t = some (.running x)) (hpending : x.pending = some w) (hindex : w.index = .raw)
    (hfirst : w.first = .dedup) : w.row.eventId ∉ s.db.popEventsRaw.map (·.eventId) := by
  have hhalf : w.half = true := by
    by_contra hhalf
    unfold PendingWrite.index at hindex
    rw [if_neg hhalf, hfirst] at hindex
    cases hindex
  exact h.consistent hdb (h.fresh t x (.dedup, w.row.eventId) hx
    (.inr ⟨w, hpending, hhalf, hfirst, rfl⟩))

omit [DecidableEq τ] in
theorem insertDedup_survives_iff (h : PopInv db₀ s) (hx : s.tx t = some (.running x))
    (hpending : x.pending = some w) :
    driver.Survives (insertPopDedupKey (x.view s.db) w.row.eventId) ↔
      (w.row.eventId ∈ s.db.popDedupIndex →
        isPopDedupViolation (driver popDedupConstraint) = true) := by
  have hview := h.committedIds_pending hx hpending .dedup
  unfold insertPopDedupKey
  by_cases hknown : w.row.eventId ∈ (x.view s.db).popDedupIndex
  · rw [if_pos hknown]
    constructor
    · exact fun hsurvives _ ↦ hsurvives _ rfl
    · rintro hrecognized e ⟨⟩
      exact hrecognized (hview.1 hknown)
  · rw [if_neg hknown]
    exact ⟨fun _ hid ↦ absurd (hview.2 hid) hknown, fun _ e he ↦ by cases he⟩

omit [DecidableEq τ] in
theorem insertRaw_survives_iff (hdriver : driver.NamesConstraint) (h : PopInv db₀ s)
    (hx : s.tx t = some (.running x)) (hpending : x.pending = some w) :
    driver.Survives (insertPopRawEvent x.batch.takesNaive (x.view s.db) w.row) ↔
      Storable s.db x.batch w.row ∧ w.row.eventId ∉ s.db.popEventsRaw.map (·.eventId) := by
  have hdevice : w.row.deviceId ∈ (x.view s.db).physicalDevices.map (·.id) := by
    obtain ⟨rows, heq, -⟩ := h.tables
    rw [heq]
    exact ((h.running t x hx).row w hpending).2
  have hview : w.row.eventId ∈ (x.view s.db).popEventsRaw.map (·.eventId) ↔
      w.row.eventId ∈ s.db.popEventsRaw.map (·.eventId) :=
    h.committedIds_pending hx hpending .raw
  rw [← hview]
  constructor
  · intro hsurvives
    apply (insertPopRawEvent_ok_iff hdevice).1
    cases hinsert : insertPopRawEvent x.batch.takesNaive (x.view s.db) w.row with
    | ok db => exact ⟨db, rfl⟩
    | error e =>
        have hduplicate := hsurvives e hinsert
        rw [insertPopRawEvent_raises hdriver hinsert] at hduplicate
        cases hduplicate
  · intro hspared e he
    obtain ⟨db, hok⟩ := (insertPopRawEvent_ok_iff hdevice).2 hspared
    rw [hok] at he
    cases he

omit [DecidableEq τ] in
theorem insertEntry_survives_iff (hdriver : driver.NamesConstraint) (h : PopInv db₀ s)
    (hdb : PopConsistent db₀) (hx : s.tx t = some (.running x)) (hpending : x.pending = some w) :
    driver.Survives (insertEntry w.index x.batch.takesNaive (x.view s.db) w.row) ↔
      SparedWrite driver s x w := by
  unfold SparedWrite
  cases hindex : w.index with
  | dedup => exact insertDedup_survives_iff h hx hpending
  | raw =>
      dsimp only [insertEntry]
      rw [insertRaw_survives_iff hdriver h hx hpending]
      apply and_congr_right
      intro _
      refine ⟨fun hid _ ↦ hid, fun himp ↦ ?_⟩
      cases hfirst : w.first with
      | raw => exact himp hfirst
      | dedup => exact h.raw_second hdb hx hpending hindex hfirst

end Survives

/-- A step changes the status of one transaction. -/
theorem popNext_others {driver : Driver} {label : τ × PopMove τ} {u : τ} (hu : u ≠ label.1) :
    (popNext driver s label).tx u = s.tx u := by
  have hstep := popNext_step driver s label
  generalize popNext driver s label = s' at hstep ⊢
  cases hstep with
  | stay => rfl
  | duplicate x w e hx hpending hinsert hduplicate =>
      show Function.update (s.rollback w).tx _ _ u = s.tx u
      rw [Function.update_of_ne hu]
      unfold PopSystem.rollback
      split
      · rfl
      · rfl
  | aborted => exact Function.update_of_ne hu _ _
  | failed e => exact Function.update_of_ne hu _ _
  | committed x hx hpending htodo => exact Function.update_of_ne hu _ _
  | answered x event rest result hx hpending htodo hcheck => exact Function.update_of_ne hu _ _
  | begun x event rest result row first hx hpending htodo hcheck =>
      exact Function.update_of_ne hu _ _
  | inserted x w db hx hpending hhalf hwaits hinsert => exact Function.update_of_ne hu _ _
  | recorded x w db hx hpending hhalf hwaits hinsert => exact Function.update_of_ne hu _ _

theorem resume_unraised (x : IngestTx) (e : IngestFailure) :
    (s.resume t x).tx t ≠ some (.raised e) := by
  show Function.update s.tx t _ t ≠ _
  rw [Function.update_self]
  intro heq
  cases heq

theorem finish_tx (db : Db) (status : Option TxStatus) : (s.finish t db status).tx t = status :=
  Function.update_self (β := fun _ ↦ Option TxStatus) t status s.tx

theorem fail_raised (e : IngestFailure) : (s.fail t e).tx t = some (.raised e) :=
  finish_tx s.db _

theorem writeStep_unraised_iff {driver : Driver} {w : PendingWrite}
    (hx : s.tx t = some (.running x)) :
    (∀ e, (writeStep driver s t x w).tx t ≠ some (.raised e)) ↔
      (s.waitsFor t = none →
        driver.Survives (insertEntry w.index x.batch.takesNaive (x.view s.db) w.row)) := by
  unfold writeStep
  cases hwaits : s.waitsFor t with
  | some u =>
      refine ⟨fun _ hnone ↦ (by cases hnone), fun _ e heq ↦ ?_⟩
      rw [hx] at heq
      cases heq
  | none =>
      dsimp only
      cases hinsert : insertEntry w.index x.batch.takesNaive (x.view s.db) w.row with
      | ok db =>
          refine ⟨fun _ _ e he ↦ (by cases he), fun _ e ↦ ?_⟩
          dsimp only
          split
          · exact resume_unraised _ e
          · exact resume_unraised _ e
      | error e =>
          dsimp only
          by_cases hduplicate : driver.reportsDuplicate e = true
          · rw [if_pos hduplicate]
            constructor
            · rintro - - e' ⟨⟩
              exact hduplicate
            · exact fun _ e' ↦ resume_unraised _ e'
          · rw [if_neg hduplicate]
            constructor
            · exact fun hraises ↦ absurd (fail_raised _) (hraises _)
            · exact fun hunraised ↦ absurd (hunraised rfl e rfl) hduplicate

/-- The next statement of a transaction raises nothing exactly if its event can be checked, or
its insert survives. -/
theorem ingestStep_unraised_iff {driver : Driver} (hdriver : driver.NamesConstraint)
    (h : PopInv db₀ s) (hdb : PopConsistent db₀) (hmanifests : db₀.manifestIds.Nodup)
    (hx : s.tx t = some (.running x)) (first : PopIndex) :
    (∀ e, (ingestStep driver s t first x).tx t ≠ some (.raised e)) ↔
      match x.pending, x.todo with
      | some w, _ => s.waitsFor t = none → SparedWrite driver s x w
      | none, [] => True
      | none, event :: _ =>
          misdirected event x.batch.jwtDeviceId ≠ none ∨
            event.eventId ∈ (x.view s.db).popDedupIndex ∨ Checkable s.db x.batch event := by
  unfold ingestStep
  cases hpending : x.pending with
  | some w =>
      dsimp only
      rw [writeStep_unraised_iff hx, insertEntry_survives_iff hdriver h hdb hx hpending]
  | none =>
      cases htodo : x.todo with
      | nil =>
          refine ⟨fun _ ↦ trivial, fun _ e heq ↦ ?_⟩
          rw [finish_tx] at heq
          cases heq
      | cons event rest =>
          have hunique : s.db.manifestIds.Nodup := by
            obtain ⟨rows, heq, -⟩ := h.tables
            rw [heq]
            exact hmanifests
          dsimp only
          rw [← checkEvent_ok_iff hunique event]
          split
          · rename_i e hcheck
            constructor
            · exact fun hraises ↦ absurd (fail_raised _) (hraises _)
            · rintro ⟨v, hv⟩
              rw [hcheck] at hv
              cases hv
          · rename_i result hcheck
            exact ⟨fun _ ↦ ⟨_, hcheck⟩, fun _ e ↦ resume_unraised _ e⟩
          · rename_i result row hcheck
            exact ⟨fun _ ↦ ⟨_, hcheck⟩, fun _ e ↦ resume_unraised _ e⟩

/-- The same of a step of a schedule, and of the one transaction that it is a step of. -/
theorem popNext_own_unraised_iff {driver : Driver} (hdriver : driver.NamesConstraint)
    (h : PopInv db₀ s) (hdb : PopConsistent db₀) (hmanifests : db₀.manifestIds.Nodup)
    (label : τ × PopMove τ) (hs : ∀ e, s.tx label.1 ≠ some (.raised e)) :
    (∀ e, (popNext driver s label).tx label.1 ≠ some (.raised e)) ↔ Spared driver s label := by
  unfold Spared
  by_cases hrunning : ∃ x, s.tx label.1 = some (.running x)
  · obtain ⟨x, hx⟩ := hrunning
    have hspared : ∀ P : IngestTx → Prop,
        (∀ y, s.tx label.1 = some (.running y) → P y) ↔ P x := by
      intro P
      refine ⟨fun hall ↦ hall x hx, fun hP y hy ↦ ?_⟩
      rw [hx] at hy
      cases hy
      exact hP
    rw [hspared]
    unfold popNext
    rw [hx]
    dsimp only
    cases label.2 with
    | abort =>
        refine ⟨fun _ ↦ trivial, fun _ e heq ↦ ?_⟩
        dsimp only at heq
        rw [finish_tx] at heq
        cases heq
    | deadlock others =>
        dsimp only
        by_cases hchain : s.waitChain label.1 label.1 others = true
        · rw [if_pos hchain, hchain]
          exact ⟨fun hraises ↦ absurd (fail_raised _) (hraises _), fun heq ↦ by cases heq⟩
        · rw [if_neg hchain]
          exact ⟨fun _ ↦ Bool.eq_false_of_not_eq_true hchain, fun _ ↦ hs⟩
    | advance first =>
        exact ingestStep_unraised_iff hdriver h hdb hmanifests hx first
  · -- a transaction that has ended takes no more steps
    have hsame : popNext driver s label = s := by
      unfold popNext
      split
      · rename_i x hx
        exact absurd ⟨x, hx⟩ hrunning
      · rfl
    rw [hsame]
    exact ⟨fun _ x hx ↦ absurd ⟨x, hx⟩ hrunning, fun _ ↦ hs⟩

theorem popNext_unraised_iff {driver : Driver} (hdriver : driver.NamesConstraint)
    (h : PopInv db₀ s) (hdb : PopConsistent db₀) (hmanifests : db₀.manifestIds.Nodup)
    (label : τ × PopMove τ) (hs : ∀ t e, s.tx t ≠ some (.raised e)) :
    (∀ t e, (popNext driver s label).tx t ≠ some (.raised e)) ↔ Spared driver s label := by
  rw [← popNext_own_unraised_iff hdriver h hdb hmanifests label (hs label.1)]
  refine ⟨fun hall ↦ hall label.1, fun hlabel t ↦ ?_⟩
  by_cases ht : t = label.1
  · rw [ht]
    exact hlabel
  · rw [popNext_others ht]
    exact hs t

/-! ## Every run -/

omit [DecidableEq τ] in
theorem PopInv.settled (h : PopInv db₀ s) (hdb : PopConsistent db₀)
    (hraised : ∀ t e, s.tx t ≠ some (.raised e)) : RaceSettled db₀ s := by
  constructor
  · exact hraised
  · exact fun t x hx p hp hasks hother ↦
      (((h.completed t x hx).2.answers p hp hasks).resolve_left hother).1
  · rintro eventId hnew ⟨t, x, hx, event, hevent, rfl, hasks⟩
    have hstored : event.eventId ∈ s.db.popDedupIndex := by
      obtain ⟨htodo, hsound⟩ := h.completed t x hx
      -- all events are answered, this one too
      have hprogress := hsound.progress
      rw [htodo, List.append_nil] at hprogress
      rw [← hprogress] at hevent
      obtain ⟨p, hp, rfl⟩ := List.mem_map.1 hevent
      rcases hsound.answers p hp hasks with hown | ⟨-, hknown⟩
      · exact (h.persisted _).2 (.inr ⟨t, x, hx, hown⟩)
      · exact hknown
    constructor
    · -- the id was new, so a batch of the run has made it known
      obtain ⟨u, y, hy, hid⟩ := ((h.persisted _).1 hstored).resolve_left hnew
      exact ⟨u, y, hy, hid, fun v z hz hidz ↦ h.once v u z y _ hz hy hidz hid⟩
    · obtain ⟨rows, heq, hnodup, -⟩ := h.tables
      rw [heq] at hstored ⊢
      have hrow : event.eventId ∈ rows.map (·.eventId) :=
        (List.mem_append.1 hstored).resolve_left hnew
      have hbefore : db₀.popEventsRaw.countP (·.eventId = event.eventId) = 0 := by
        rw [List.countP_eq_zero]
        intro r hr hid
        apply hnew
        rw [← of_decide_eq_true hid]
        exact hdb.indexed r hr
      have hcount := List.count_eq_one_of_mem hnodup hrow
      rw [List.count_eq_countP, List.countP_map] at hcount
      show (db₀.popEventsRaw ++ rows).countP (·.eventId = event.eventId) = 1
      rw [List.countP_append, hbefore, Nat.zero_add, ← hcount]
      exact List.countP_congr fun r _ ↦ by simp

/-- A race is settled throughout a run exactly if no step of it raises: no row that is flushed
first meets a committed one, no duplicate goes unrecognised, and no transaction is the victim of
a deadlock. -/
theorem raceSettled_always_iff {driver : Driver} (hdriver : driver.NamesConstraint)
    (h : PopStart db₀ s) (l : List (τ × PopMove τ)) :
    Run.Always (popNext driver) (RaceSettled db₀) s l ↔
      Run.Guarded (popNext driver) (Spared driver) s l := by
  apply Run.always_iff_guarded (I := PopInv db₀) (A := fun _ ↦ True)
  · exact fun s label _ hs ↦ popNext_inv hdriver hs label
  · intro s label _ hs hsettled
    rw [← popNext_unraised_iff hdriver hs h.consistent h.manifests label hsettled.completes]
    exact ⟨fun hnext ↦ hnext.completes, (popNext_inv hdriver hs label).settled h.consistent⟩
  · exact fun _ _ ↦ trivial
  · exact h.inv
  · apply h.inv.settled h.consistent
    intro t e ht
    obtain ⟨b, hb⟩ := h.tx t _ ht
    cases hb

end Statements

end Races

/-! Two players send the same event.  Where the raw table is flushed first, its constraint stops
the second one, and the batch is lost. -/

def TxStatus.hasRaised : TxStatus → Bool
  | .raised _ => true
  | _ => false

theorem unraised_of_hasRaised {τ : Type*} {s : PopSystem τ}
    (h : ∀ t, (s.tx t).any TxStatus.hasRaised = false) : ∀ t e, s.tx t ≠ some (.raised e) := by
  intro t e heq
  have hany := h t
  rw [heq] at hany
  cases hany

/-- A run without a loss settles its races. -/
theorem raceSettled_of_unraised {τ : Type*} [DecidableEq τ] {driver : Driver} {db₀ : Db}
    {s : PopSystem τ} (hdriver : driver.NamesConstraint) (h : PopStart db₀ s)
    {l : List (τ × PopMove τ)}
    (hl : Run.Always (popNext driver) (fun s ↦ ∀ t, (s.tx t).any TxStatus.hasRaised = false) s l) :
    Run.Always (popNext driver) (RaceSettled db₀) s l := by
  have hinv : Run.Always (popNext driver) (PopInv db₀) s l :=
    Run.always_of_step (fun _ label hs ↦ popNext_inv hdriver hs label) l h.inv
  exact (hinv.and hl).mono fun s hs ↦ hs.1.settled h.consistent (unraised_of_hasRaised hs.2)

/-- The violations as asyncpg raises them, where `orig` is what was raised.  In the wrapper that an
adapter puts there instead, the code finds no violation. -/
def asyncpgDriver : Driver := fun constraint ↦ some {
  clsName :=
    if constraint ∈ ["pop_events_raw_device_id_fkey", "pop_events_raw_creative_asset_id_fkey"] then
      "ForeignKeyViolationError"
    else "UniqueViolationError"
  constraintName := some constraint }

theorem asyncpgDriver_names : asyncpgDriver.NamesConstraint := by
  unfold Driver.NamesConstraint
  decide +kernel

def rivalBatch (events : List PopEventIn) : IngestTx where
  batch := { demoBatch with events := events }
  todo := events

def rivals (events others : List PopEventIn) : PopSystem Bool where
  db := demoPopDb
  entry _ := none
  tx t := some (.running (rivalBatch (if t then events else others)))

theorem rivals_start (events others : List PopEventIn) :
    PopStart demoPopDb (rivals events others) where
  db := rfl
  consistent := demoPopDb_consistent
  manifests := by decide +kernel
  entry _ := rfl
  tx t status h := by
    cases h
    exact ⟨_, rfl⟩

/-- Both look the event up before one of them stores it. -/
def raceForEvent (first : PopIndex) : List (Bool × PopMove Bool) :=
  [true, false, true, true, true, false, false].map fun t ↦ (t, .advance first)

theorem raw_index_loses_batch : ¬ ∀ (db₀ : Db) (s : PopSystem Bool)
    (l : List (Bool × PopMove Bool)), PopStart db₀ s →
      Run.Always (popNext asyncpgDriver) (RaceSettled db₀) s l := by
  intro h
  have hend := (h demoPopDb (rivals [demoPopEvent] [demoPopEvent]) (raceForEvent .raw)
    (rivals_start _ _)).final
  have hraised : ((Run.final (popNext asyncpgDriver) (rivals [demoPopEvent] [demoPopEvent])
      (raceForEvent .raw)).tx false).any TxStatus.hasRaised = true := by
    decide +kernel
  cases htx : (Run.final (popNext asyncpgDriver) (rivals [demoPopEvent] [demoPopEvent])
      (raceForEvent .raw)).tx false with
  | none =>
      rw [htx] at hraised
      cases hraised
  | some status =>
      cases status with
      | raised e => exact hend.completes false e htx
      | running x =>
          rw [htx] at hraised
          cases hraised
      | completed x =>
          rw [htx] at hraised
          cases hraised

/-- With the dedup index first, the same race ends with a duplicate. -/
theorem dedup_index_settles_race :
    Run.Guarded (popNext asyncpgDriver) (Spared asyncpgDriver)
      (rivals [demoPopEvent] [demoPopEvent]) (raceForEvent .dedup) :=
  (raceSettled_always_iff asyncpgDriver_names (rivals_start _ _) _).1
    (raceSettled_of_unraised asyncpgDriver_names (rivals_start _ _) (by decide +kernel))

def secondPopEvent : PopEventIn := { demoPopEvent with eventId := "e2" }

/-- Two batches with the same events in opposite orders wait for each other, and one of them is
lost whichever index comes first. -/
theorem crossed_batches_deadlock (first : PopIndex) : ¬ Run.Always (popNext asyncpgDriver)
    (fun s ↦ (s.tx true).any TxStatus.hasRaised = false)
    (rivals [demoPopEvent, secondPopEvent] [secondPopEvent, demoPopEvent])
    ([true, true, true, false, false, false, true, false].map (fun t ↦ (t, .advance first)) ++
      [(true, .deadlock [false])]) := by
  cases first with
  | dedup => decide +kernel
  | raw => decide +kernel

end RetailMedia
