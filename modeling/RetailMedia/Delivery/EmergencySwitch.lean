import RetailMedia.Delivery.Manifest
import RetailMedia.Lib.Interleaving

/-! The emergency switch.  An activation looks for an active override and inserts one, a
deactivation switches the newest active one off; both in transactions of their own. -/

namespace RetailMedia

open Interleaving

/-- A row of the override table, with the columns that only its writers use. -/
structure StoredOverride extends EmergencyOverride where
  id : String
  activatedBy : Option String := none
  deactivatedBy : Option String := none
  deactivatedAt : Option Int := none
  deactivatedReason : String := ""
  deriving DecidableEq, Repr

def StoredOverride.live (o : StoredOverride) : Bool := o.level = "global" ∧ o.active

/-- `get_active_emergency_override`. -/
def getActiveOverride (rows : List StoredOverride) : Option StoredOverride :=
  Rows.newest (fun o ↦ nullsFirst o.activatedAt) (rows.filter (·.live))

theorem getActiveOverride_eq_none {rows : List StoredOverride} :
    getActiveOverride rows = none ↔ ∀ o ∈ rows, o.live = false := by
  unfold getActiveOverride
  rw [Rows.newest_eq_none, List.filter_eq_nil_iff]
  simp

/-! ## The two writers -/

structure ActivateRequest where
  /-- The key that the new row draws. -/
  id : String
  reason : String
  activatedBy : String
  now : Int
  deriving DecidableEq, Repr

def ActivateRequest.row (r : ActivateRequest) : StoredOverride where
  id := r.id
  level := "global"
  active := true
  reason := r.reason
  activatedBy := some r.activatedBy
  activatedAt := some r.now

structure DeactivateRequest where
  reason : String
  deactivatedBy : String
  now : Int
  deriving DecidableEq, Repr

/-- The UPDATE names the columns whose value differs from the row as it was read. -/
def StoredOverride.switchedOff (r : DeactivateRequest) (existing o : StoredOverride) :
    StoredOverride :=
  { o with
    active := false
    deactivatedBy :=
      if existing.deactivatedBy = some r.deactivatedBy then o.deactivatedBy
      else some r.deactivatedBy
    deactivatedAt :=
      if existing.deactivatedAt = some r.now then o.deactivatedAt else some r.now
    deactivatedReason :=
      if existing.deactivatedReason = r.reason then o.deactivatedReason else r.reason }

inductive SwitchTx
  | activate (r : ActivateRequest)
  | inserting (r : ActivateRequest)
  | deactivate (r : DeactivateRequest)
  | found (r : DeactivateRequest) (existing : StoredOverride)
  | updating (r : DeactivateRequest) (existing : StoredOverride)
  | raised (message : String)
  deriving DecidableEq, Repr

/-- The table has a primary key, and no constraint on the active rows. -/
def insertOverride (o : StoredOverride) (rows : List StoredOverride) :
    Option (List StoredOverride) :=
  if o.id ∈ rows.map (·.id) then none else some (rows ++ [o])

def switchStmt : SwitchTx → Stmt String (List StoredOverride) SwitchTx
  | .activate r =>
      .run fun rows ↦
        match getActiveOverride rows with
        | some _ => .raised "Emergency mode is already active"
        | none => .inserting r
  | .inserting r => .commit (insertOverride r.row)
  | .deactivate r =>
      .run fun rows ↦
        match getActiveOverride rows with
        | none => .raised "No active emergency mode to deactivate"
        | some existing => .found r existing
  | .found r existing => .lock (fun _ ↦ some existing.id) fun _ ↦ .updating r existing
  | .updating r existing => .commit fun rows ↦
      some (Rows.updateWhere (·.id = existing.id) (.switchedOff r existing) rows)
  | .raised _ => .commit some

/-! ## What the switch promises -/

/-- Transactions on the table, and whether a deactivation has committed since the last activation
started. -/
structure SwitchState (τ : Type*) where
  sys : System τ String (List StoredOverride) SwitchTx
  off : Bool := false

section Switch

variable {τ : Type*}

def SwitchState.offAfter (s : SwitchState τ) (label : τ × Move) : Bool :=
  match s.sys.tx label.1, label.2 with
  | some (.activate _), .advance => false
  | some (.updating _ _), .advance => true
  | _, _ => s.off

def switchNext [DecidableEq τ] (s : SwitchState τ) (label : τ × Move) : SwitchState τ where
  sys := next switchStmt s.sys label
  off := s.offAfter label

/-- At most one override is active, and none once the switch is off. -/
structure SwitchSound (s : SwitchState τ) : Prop where
  single : (s.sys.data.filter (·.live)).length ≤ 1
  off : s.off = true → getActiveOverride s.sys.data = none

/-- An activation that commits finds no active override and no deactivation behind its back; a
deactivation that commits has found the only override that is active then. -/
def SwitchesAlone (s : SwitchState τ) (label : τ × Move) : Prop :=
  match s.sys.tx label.1, label.2 with
  | some (.inserting r), .advance =>
      r.id ∈ s.sys.data.map (·.id) ∨ (getActiveOverride s.sys.data = none ∧ s.off = false)
  | some (.updating _ existing), .advance => ∀ o ∈ s.sys.data, o.live = true → o.id = existing.id
  | _, _ => True

/-- Activations and deactivations that have not run a statement yet. -/
structure SwitchStart (s : SwitchState τ) : Prop where
  tx : ∀ t a, s.sys.tx t = some a → (∃ r, a = .activate r) ∨ ∃ r, a = .deactivate r
  holder : ∀ row, s.sys.holder row = none
  single : (s.sys.data.filter (·.live)).length ≤ 1
  off : s.off = false

/-! ## One step -/

/-- A step without a commit may only forget that the switch is off. -/
theorem SwitchSound.of_data {s s' : SwitchState τ} (h : SwitchSound s)
    (hdata : s'.sys.data = s.sys.data) (hoff : s'.off = true → s.off = true) :
    SwitchSound s' := by
  constructor
  · rw [hdata]
    exact h.single
  · intro hs'
    rw [hdata]
    exact h.off (hoff hs')

theorem filter_live_insert (r : ActivateRequest) (rows : List StoredOverride) :
    (rows ++ [r.row]).filter (·.live) = rows.filter (·.live) ++ [r.row] := by
  rw [List.filter_append]
  rfl

/-- An insertion keeps the promise exactly where it is the only active row and the switch on. -/
theorem switchSound_insert {s s' : SwitchState τ} {r : ActivateRequest}
    (hdata : s'.sys.data = s.sys.data ++ [r.row]) (hoff : s'.off = s.off) :
    SwitchSound s' ↔ getActiveOverride s.sys.data = none ∧ s.off = false := by
  have hlive := filter_live_insert r s.sys.data
  constructor
  · intro h
    have hlength := h.single
    rw [hdata, hlive, List.length_append, List.length_singleton] at hlength
    have hnil : s.sys.data.filter (·.live) = [] := List.length_eq_zero_iff.1 (by omega)
    constructor
    · exact Rows.newest_eq_none.2 hnil
    · -- the new row would be active with the switch off
      rw [← hoff]
      apply Bool.eq_false_iff.2
      intro hon
      have hnone := Rows.newest_eq_none.1 (h.off hon)
      rw [hdata, hlive] at hnone
      exact absurd hnone (by simp)
  · rintro ⟨hnone, hon⟩
    constructor
    · rw [hdata, hlive, Rows.newest_eq_none.1 hnone]
      exact le_rfl
    · intro h
      rw [hoff, hon] at h
      cases h

theorem live_switchedOff (r : DeactivateRequest) (existing o : StoredOverride) :
    (StoredOverride.switchedOff r existing o).live = false := by
  simp [StoredOverride.live, StoredOverride.switchedOff]

/-- Switching a row off keeps the promise exactly where no other row is active. -/
theorem switchSound_update {s s' : SwitchState τ} {r : DeactivateRequest}
    {existing : StoredOverride}
    (hdata : s'.sys.data =
      Rows.updateWhere (·.id = existing.id) (.switchedOff r existing) s.sys.data)
    (hoff : s'.off = true) :
    SwitchSound s' ↔ ∀ o ∈ s.sys.data, o.live = true → o.id = existing.id := by
  constructor
  · intro h' o ho hlive
    by_contra hid
    have hnone := getActiveOverride_eq_none.1 (h'.off hoff) o
    rw [hdata] at hnone
    have hstays : o ∈ Rows.updateWhere (·.id = existing.id) (.switchedOff r existing) s.sys.data :=
      Rows.mem_updateWhere.2 ⟨o, ho, if_neg (by simpa using hid)⟩
    rw [hnone hstays] at hlive
    cases hlive
  · intro honly
    have hnone : getActiveOverride s'.sys.data = none := by
      apply getActiveOverride_eq_none.2
      intro o' ho'
      rw [hdata] at ho'
      obtain ⟨o, ho, heq⟩ := Rows.mem_updateWhere.1 ho'
      by_cases hid : o.id = existing.id
      · rw [if_pos (decide_eq_true hid)] at heq
        rw [← heq]
        exact live_switchedOff r existing o
      · rw [if_neg (by simpa using hid)] at heq
        rw [← heq]
        exact Bool.eq_false_iff.2 fun hlive ↦ hid (honly o ho hlive)
    constructor
    · rw [Rows.newest_eq_none.1 hnone]
      exact Nat.zero_le 1
    · exact fun _ ↦ hnone

variable [DecidableEq τ]

theorem switchNext_sound {s : SwitchState τ} (h : SwitchSound s) (label : τ × Move) :
    SwitchSound (switchNext s label) ↔ SwitchesAlone s label := by
  obtain ⟨t, move⟩ := label
  -- the statements that commit nothing leave the rows and, at most, reset the flag
  have hquiet (hdata : (switchNext s (t, move)).sys.data = s.sys.data)
      (hoff : (switchNext s (t, move)).off = true → s.off = true) :
      SwitchSound (switchNext s (t, move)) ↔ True := iff_true_intro (h.of_data hdata hoff)
  cases htx : s.sys.tx t with
  | none =>
      simp only [switchNext, SwitchState.offAfter, SwitchesAlone, next, htx] at hquiet ⊢
      exact hquiet trivial id
  | some a =>
      cases move with
      | abort =>
          simp only [switchNext, SwitchState.offAfter, SwitchesAlone, next, htx] at hquiet ⊢
          cases a with
          | _ => exact hquiet rfl id
      | advance =>
          cases a with
          | activate r =>
              simp only [switchNext, SwitchState.offAfter, SwitchesAlone, next, htx] at hquiet ⊢
              exact hquiet rfl nofun
          | deactivate r =>
              simp only [switchNext, SwitchState.offAfter, SwitchesAlone, next, htx] at hquiet ⊢
              exact hquiet rfl id
          | found r existing =>
              simp only [switchNext, SwitchState.offAfter, SwitchesAlone, next, htx] at hquiet ⊢
              exact hquiet (advance_data nofun) id
          | raised message =>
              simp only [switchNext, SwitchState.offAfter, SwitchesAlone, next, htx] at hquiet ⊢
              exact hquiet rfl id
          | updating r existing =>
              simp only [SwitchesAlone, htx]
              apply switchSound_update (r := r)
              · simp only [switchNext, next, htx, advance, switchStmt]
                rfl
              · simp only [switchNext, SwitchState.offAfter, htx]
          | inserting r =>
              simp only [SwitchesAlone, htx]
              by_cases hid : r.id ∈ s.sys.data.map (·.id)
              · -- the primary key refuses the row
                have hrefused : insertOverride r.row s.sys.data = none := if_pos hid
                simp only [switchNext, SwitchState.offAfter, next, htx, advance, switchStmt,
                  hrefused] at hquiet ⊢
                exact (hquiet trivial id).trans (iff_true_intro (.inl hid)).symm
              · have hinsert : insertOverride r.row s.sys.data = some (s.sys.data ++ [r.row]) :=
                  if_neg hid
                rw [or_iff_right hid]
                apply switchSound_insert (r := r)
                · simp only [switchNext, next, htx, advance, switchStmt, hinsert]
                  rfl
                · simp only [switchNext, SwitchState.offAfter, htx]

/-! ## Every interleaving -/

/-- Over every interleaving: at most one override is active and the switch turns off in every
committed state exactly if every activation and deactivation commits alone. -/
theorem switchSound_iff {s : SwitchState τ} (h : SwitchStart s) (l : List (τ × Move)) :
    Run.Always switchNext SwitchSound s l ↔ Run.Guarded switchNext SwitchesAlone s l := by
  have hstart : SwitchSound s := by
    constructor
    · exact h.single
    · intro hon
      rw [h.off] at hon
      cases hon
  exact Run.always_iff_guarded (I := fun _ ↦ True) (A := fun _ ↦ True) (fun _ _ _ _ ↦ trivial)
    (fun _ label _ _ hs ↦ switchNext_sound hs label) (fun _ _ ↦ trivial) trivial hstart

end Switch

/-! Two administrators press the button; a third one releases it once. -/

def firstAlarm : ActivateRequest where
  id := "a"
  reason := "fire"
  activatedBy := "admin-a"
  now := 1

def secondAlarm : ActivateRequest := { firstAlarm with id := "b", activatedBy := "admin-b" }

def allClear : SwitchTx := .deactivate { reason := "over", deactivatedBy := "admin-c", now := 9 }

def buttonPressed : SwitchState Nat where
  sys := {
    data := []
    holder := fun _ ↦ none
    tx := fun t ↦
      match t with
      | 0 => some (.activate firstAlarm)
      | 1 => some (.activate secondAlarm)
      | 2 => some allClear
      | _ => none }

/-- Both look before either inserts. -/
def bothAlarms : List (Nat × Move) :=
  [(0, .advance), (1, .advance), (0, .advance), (1, .advance)]

/-- The deactivation finds one of the two rows. -/
def oneAllClear : List (Nat × Move) := [(2, .advance), (2, .advance), (2, .advance)]

theorem buttonPressed_start : SwitchStart buttonPressed where
  tx t a h := by
    match t with
    | 0 => exact .inl ⟨_, (Option.some.inj h).symm⟩
    | 1 => exact .inl ⟨_, (Option.some.inj h).symm⟩
    | 2 => exact .inr ⟨_, (Option.some.inj h).symm⟩
    | _ + 3 => cases h
  holder _ := rfl
  single := Nat.zero_le 1
  off := rfl

theorem alarm_survives_allClear : ¬ ∀ (s : SwitchState Nat) (l : List (Nat × Move)),
    SwitchStart s → Run.Always switchNext SwitchSound s l := by
  intro h
  have hend := (h buttonPressed (bothAlarms ++ oneAllClear) buttonPressed_start).final
  have hoff : (Run.final switchNext buttonPressed (bothAlarms ++ oneAllClear)).off = true := by
    decide +kernel
  have hnone := hend.off hoff
  have hactive : (getActiveOverride
      (Run.final switchNext buttonPressed (bothAlarms ++ oneAllClear)).sys.data).isSome := by
    decide +kernel
  rw [hnone] at hactive
  cases hactive

/-- One alarm after the other. -/
theorem alarm_cleared :
    Run.Always switchNext SwitchSound buttonPressed ([(0, .advance), (0, .advance)] ++ oneAllClear) :=
  (switchSound_iff buttonPressed_start _).2 (by
    refine ⟨trivial, .inr (by decide), trivial, trivial, ?_, trivial⟩
    show ∀ o ∈ [firstAlarm.row], o.live = true → o.id = firstAlarm.id
    decide)

end RetailMedia
