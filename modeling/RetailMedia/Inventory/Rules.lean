import RetailMedia.Inventory.Conflicts

/-! Which rules the conflict detector applies to a request, against the rules that the windows and
the precedence of the rules select. -/

namespace RetailMedia

/-! ## What the detector reports -/

/-- The detector reports a blocking conflict of the type. -/
def Conflicts.Reports (c : Conflicts) (t : ConflictType) : Prop :=
  ∃ x ∈ c.blocking, x.conflictType = t

instance (c : Conflicts) (t : ConflictType) : Decidable (c.Reports t) :=
  inferInstanceAs (Decidable (∃ x ∈ c.blocking, x.conflictType = t))

def RuleType.conflictType : RuleType → ConflictType
  | .blackout => .blackoutRule
  | .internalBlock => .internalBlock
  | .maxSov => .maxSovRule

def Db.surfaceActive (db : Db) (surfaceId : String) : Bool :=
  (Rows.get (·.id) surfaceId db.displaySurfaces).any (·.isActive)

/-- The active rules of one type that concern the surface. -/
def Db.rulesOn (db : Db) (ruleType : RuleType) (surfaceId : String) : List InventoryRule :=
  db.inventoryRules.filter fun r ↦
    r.isActive ∧ r.ruleType = ruleType ∧ r.appliesTo surfaceId

/-- `rule_val.get("max_sov_percent", 100)`. -/
def InventoryRule.limit (r : InventoryRule) : Int := r.valueJson.maxSovPercent.getD 100

/-- A rule that is looked at makes a conflict: always, unless it limits the share. -/
def InventoryRule.Fires (sov : Option Int) (r : InventoryRule) : Prop :=
  r.ruleType = .maxSov → ∃ p ∈ sov, p ≠ 0 ∧ r.limit < p

theorem mem_rulesOn {db : Db} {ruleType : RuleType} {surfaceId : String} {r : InventoryRule} :
    r ∈ db.rulesOn ruleType surfaceId ↔ r ∈ db.inventoryRules ∧ r.isActive = true ∧
      r.ruleType = ruleType ∧ r.appliesTo surfaceId = true := by
  unfold Db.rulesOn
  simp

/-- Sorting by precedence drops no rule. -/
theorem mem_getApplicableRules {db : Db} {now : Int} {r : InventoryRule} :
    r ∈ getApplicableRules db now ↔
      r ∈ db.inventoryRules ∧ r.isActive = true ∧ r.inWindow now = true := by
  unfold getApplicableRules
  simp only [List.mem_insertionSort, List.mem_filter, and_assoc]

theorem ruleConflict_type {surfaceId : String} {sov : Option Int} {r : InventoryRule} {c : Conflict}
    (h : ruleConflict surfaceId sov r = some c) : c.conflictType = r.ruleType.conflictType := by
  unfold ruleConflict at h
  cases ht : r.ruleType with
  | blackout =>
      rw [ht] at h
      exact (congrArg Conflict.conflictType (Option.some.inj h)).symm
  | internalBlock =>
      rw [ht] at h
      exact (congrArg Conflict.conflictType (Option.some.inj h)).symm
  | maxSov =>
      rw [ht] at h
      dsimp only at h
      cases sov with
      | none => cases h
      | some p =>
          dsimp only at h
          split at h
          · exact (congrArg Conflict.conflictType (Option.some.inj h)).symm
          · cases h

theorem ruleConflict_isSome (surfaceId : String) (sov : Option Int) (r : InventoryRule) :
    (∃ c, ruleConflict surfaceId sov r = some c) ↔ r.Fires sov := by
  unfold ruleConflict InventoryRule.Fires
  cases ht : r.ruleType with
  | blackout => exact iff_of_true ⟨_, rfl⟩ (by intro h; cases h)
  | internalBlock => exact iff_of_true ⟨_, rfl⟩ (by intro h; cases h)
  | maxSov =>
      cases sov with
      | none => simp
      | some p =>
          dsimp only
          -- the share of zero is falsy
          by_cases hp : p ≠ 0 ∧ p > r.valueJson.maxSovPercent.getD 100
          · rw [if_pos hp]
            exact iff_of_true ⟨_, rfl⟩ fun _ ↦ ⟨p, rfl, hp⟩
          · rw [if_neg hp]
            apply iff_of_false
            · simp
            · intro h
              obtain ⟨q, hq, hlimit⟩ := h rfl
              cases hq
              exact hp hlimit

theorem mem_ruleConflicts {db : Db} {now : Int} {surfaceId : String} {sov : Option Int}
    {ruleType : RuleType} :
    (∃ c ∈ ruleConflicts db now surfaceId sov, c.conflictType = ruleType.conflictType) ↔
      ∃ r ∈ db.rulesOn ruleType surfaceId, r.inWindow now = true ∧ r.Fires sov := by
  unfold ruleConflicts
  constructor
  · intro h
    obtain ⟨c, hc, htype⟩ := h
    obtain ⟨r, hr, hconflict⟩ := List.mem_filterMap.1 hc
    obtain ⟨hr, happlies⟩ := List.mem_filter.1 hr
    obtain ⟨hmem, hactive, hwindow⟩ := mem_getApplicableRules.1 hr
    rw [ruleConflict_type hconflict] at htype
    have hsame : r.ruleType = ruleType := by
      revert htype
      cases r.ruleType <;> cases ruleType <;> decide
    exact ⟨r, mem_rulesOn.2 ⟨hmem, hactive, hsame, happlies⟩, hwindow,
      (ruleConflict_isSome surfaceId sov r).1 ⟨c, hconflict⟩⟩
  · intro h
    obtain ⟨r, hr, hwindow, hfires⟩ := h
    obtain ⟨hmem, hactive, htype, happlies⟩ := mem_rulesOn.1 hr
    obtain ⟨c, hc⟩ := (ruleConflict_isSome surfaceId sov r).2 hfires
    refine ⟨c, List.mem_filterMap.2 ⟨r, ?_, hc⟩, htype ▸ ruleConflict_type hc⟩
    exact List.mem_filter.2 ⟨mem_getApplicableRules.2 ⟨hmem, hactive, hwindow⟩, happlies⟩

/-- The conflicts of the slots have a type of their own. -/
theorem reports_added_iff {ruleType : RuleType} {rules slots : List Conflict}
    (hslots : ∀ c ∈ slots, c.conflictType = .capacityOverbooked) {b : Bool} {w : List SovWarning} :
    Conflicts.Reports ⟨b, rules ++ slots, w⟩ ruleType.conflictType ↔
      ∃ c ∈ rules, c.conflictType = ruleType.conflictType := by
  have hoverbooked : ruleType.conflictType ≠ .capacityOverbooked := by
    cases ruleType <;> decide
  constructor
  · intro h
    obtain ⟨c, hc, htype⟩ := h
    rcases List.mem_append.1 hc with hc | hc
    · exact ⟨c, hc, htype⟩
    · exact absurd (htype.symm.trans (hslots c hc)) hoverbooked
  · intro h
    obtain ⟨c, hc, htype⟩ := h
    exact ⟨c, List.mem_append_left _ hc, htype⟩

section Detector

variable (db : Db) (now : Int) (surfaceId : String) (startsAt endsAt : DateTime)
  (units sov : Option Int) (default : Int)

/-- The detector reports a rule when one of its type is in force at the time of the call, whatever
the requested window. -/
theorem reports_rule_iff (ruleType : RuleType) :
    (detectInventoryConflicts db now surfaceId startsAt endsAt units sov default).2.Reports
        ruleType.conflictType ↔
      db.surfaceActive surfaceId = true ∧
        ∃ r ∈ db.rulesOn ruleType surfaceId, r.inWindow now = true ∧ r.Fires sov := by
  have hinactive : ruleType.conflictType ≠ .surfaceInactive := by
    cases ruleType <;> decide
  rw [← mem_ruleConflicts]
  unfold detectInventoryConflicts Db.surfaceActive
  cases hget : Rows.get (·.id) surfaceId db.displaySurfaces with
  | none =>
      -- without the surface the only conflict is that it is inactive
      apply iff_of_false
      · rintro ⟨c, hc, htype⟩
        rw [List.mem_singleton.1 hc] at htype
        exact hinactive htype.symm
      · exact fun h ↦ Bool.noConfusion h.1
  | some surface =>
      dsimp only
      by_cases hactive : surface.isActive = true
      · rw [if_neg (not_not.2 hactive)]
        have hsurface : (some surface).any (·.isActive) = true := hactive
        rw [and_iff_right hsurface]
        split
        · apply reports_added_iff
          intro c hc
          rw [List.mem_singleton.1 hc]
        · apply reports_added_iff
          intro c hc
          obtain ⟨e, -, rfl⟩ := List.mem_map.1 hc
          rfl
      · rw [if_pos hactive]
        apply iff_of_false
        · rintro ⟨c, hc, htype⟩
          rw [List.mem_singleton.1 hc] at htype
          exact hinactive htype.symm
        · exact fun h ↦ hactive h.1

/-! ## Blackouts -/

/-- The rule is in force at some time of the window; like the detector's own test, with both ends
of the rule included. -/
def InventoryRule.overlaps (startsAt endsAt : DateTime) (r : InventoryRule) : Bool :=
  r.startsAt.all (· < endsAt.instant) ∧ r.endsAt.all (startsAt.instant ≤ ·)

/-- A blackout is reported for the windows that it overlaps exactly when, of the rules on the
surface, one is in force at the time of the call if and only if one overlaps the window. -/
theorem blackout_reported_iff :
    ((detectInventoryConflicts db now surfaceId startsAt endsAt units sov default).2.Reports
        .blackoutRule ↔
      ∃ r ∈ db.rulesOn .blackout surfaceId, r.overlaps startsAt endsAt = true) ↔
    ((db.surfaceActive surfaceId = true ∧
        ∃ r ∈ db.rulesOn .blackout surfaceId, r.inWindow now = true) ↔
      ∃ r ∈ db.rulesOn .blackout surfaceId, r.overlaps startsAt endsAt = true) := by
  have hfires : ∀ r ∈ db.rulesOn .blackout surfaceId, r.Fires sov := by
    intro r hr hmax
    rw [(mem_rulesOn.1 hr).2.2.1] at hmax
    cases hmax
  have hreports := reports_rule_iff db now surfaceId startsAt endsAt units sov default .blackout
  have hforce : (∃ r ∈ db.rulesOn .blackout surfaceId, r.inWindow now = true ∧ r.Fires sov) ↔
      ∃ r ∈ db.rulesOn .blackout surfaceId, r.inWindow now = true := by
    apply exists_congr
    exact fun r ↦ and_congr_right fun hr ↦ and_iff_left (hfires r hr)
  rw [hforce] at hreports
  exact iff_congr hreports Iff.rfl

/-! ## Limits of the share -/

/-- The limits of the share that are in force for the surface. -/
def Db.shareRules (db : Db) (now : Int) (surfaceId : String) : List InventoryRule :=
  (db.rulesOn .maxSov surfaceId).filter (·.inWindow now)

/-- The rule that wins a conflict: no rule has a more specific scope, and none of its scope a
higher priority. -/
def Wins (rules : List InventoryRule) (w : InventoryRule) : Prop :=
  w ∈ rules ∧ ∀ r ∈ rules, precedes w r = true

/-- The share that is asked for exceeds the rule's limit. -/
def InventoryRule.Exceeded (sov : Option Int) (r : InventoryRule) : Prop := ∃ p ∈ sov, r.limit < p

/-- Rules whose priorities are distinct within each scope have one winner. -/
theorem Wins.unique {rules : List InventoryRule} {w w' : InventoryRule} (h : Wins rules w)
    (h' : Wins rules w')
    (hdistinct : (rules.map fun r ↦ (scopeRank r.scopeType, r.priority)).Nodup) : w = w' := by
  have hle := of_decide_eq_true (h.2 w' h'.1)
  have hge := of_decide_eq_true (h'.2 w h.1)
  have hrank : scopeRank w.scopeType = scopeRank w'.scopeType := by omega
  have hpriority : w.priority = w'.priority := by omega
  exact Rows.key_inj hdistinct h.1 h'.1 (Prod.ext hrank hpriority)

/-- The detector looks at every limit in force, and at none for a share of zero. -/
theorem reports_limit_iff :
    (detectInventoryConflicts db now surfaceId startsAt endsAt units sov default).2.Reports
        .maxSovRule ↔
      (db.surfaceActive surfaceId = true ∧ sov ≠ some 0) ∧
        ∃ r ∈ db.shareRules now surfaceId, r.Exceeded sov := by
  have hfires : ∀ r ∈ db.rulesOn .maxSov surfaceId,
      (r.Fires sov ↔ sov ≠ some 0 ∧ r.Exceeded sov) := by
    intro r hr
    have htype := (mem_rulesOn.1 hr).2.2.1
    unfold InventoryRule.Fires InventoryRule.Exceeded
    cases sov with
    | none => simp [htype]
    | some p => simp [htype]
  have h := reports_rule_iff db now surfaceId startsAt endsAt units sov default .maxSov
  refine h.trans ?_
  rw [and_assoc]
  apply and_congr_right
  intro _
  constructor
  · intro h
    obtain ⟨r, hr, hwindow, hf⟩ := h
    have hboth := (hfires r hr).1 hf
    exact ⟨hboth.1, r, List.mem_filter.2 ⟨hr, hwindow⟩, hboth.2⟩
  · intro h
    obtain ⟨hzero, r, hr, hexceeded⟩ := h
    have hrule := List.mem_filter.1 hr
    exact ⟨r, hrule.1, hrule.2, (hfires r hrule.1).2 ⟨hzero, hexceeded⟩⟩

/-- The limits are reported as their precedence demands exactly when no outranked rule turns down
a share that the winner allows; without an active surface, and for the share of zero, which is
checked against no rule, when the winner allows the share. -/
theorem limit_reported_iff :
    ((detectInventoryConflicts db now surfaceId startsAt endsAt units sov default).2.Reports
        .maxSovRule ↔
      ∃ w, Wins (db.shareRules now surfaceId) w ∧ w.Exceeded sov) ↔
    if db.surfaceActive surfaceId = true ∧ sov ≠ some 0 then
      (∃ w, Wins (db.shareRules now surfaceId) w ∧ w.Exceeded sov) ∨
        ∀ r ∈ db.shareRules now surfaceId, ¬ r.Exceeded sov
    else ¬ ∃ w, Wins (db.shareRules now surfaceId) w ∧ w.Exceeded sov := by
  have hwinner : (∃ w, Wins (db.shareRules now surfaceId) w ∧ w.Exceeded sov) →
      ∃ r ∈ db.shareRules now surfaceId, r.Exceeded sov :=
    fun ⟨w, hw, hexceeded⟩ ↦ ⟨w, hw.1, hexceeded⟩
  rw [reports_limit_iff]
  split
  · rename_i hlooked
    rw [and_iff_right hlooked]
    -- what is left to compare is the winner with the limits that it outranks
    constructor
    · intro h
      by_cases hany : ∃ r ∈ db.shareRules now surfaceId, r.Exceeded sov
      · exact .inl (h.1 hany)
      · exact .inr fun r hr hexceeded ↦ hany ⟨r, hr, hexceeded⟩
    · intro h
      refine ⟨fun hany ↦ ?_, hwinner⟩
      rcases h with h | h
      · exact h
      · obtain ⟨r, hr, hexceeded⟩ := hany
        exact absurd hexceeded (h r hr)
  · rename_i hskipped
    constructor
    · exact fun h hw ↦ hskipped (h.2 hw).1
    · exact fun h ↦ iff_of_false (fun hr ↦ hskipped hr.1) h

end Detector

/-! ## Rules that are applied at the wrong time, or although another one wins -/

/-- A surface that is blacked out for the hour that starts at `at_`. -/
def blackoutDb (at_ : Int) : Db where
  displaySurfaces := [{ id := "s", logicalCarrierId := "c", storeId := "st", code := "S" }]
  inventoryRules := [{
    id := "r", scopeType := .surface, scopeId := some "s", ruleType := .blackout
    startsAt := some at_, endsAt := some (at_ + hourMicros) }]

/-- The day before, a request for the very hour of the blackout meets no conflict. -/
theorem coming_blackout_not_reported :
    ¬ ((detectInventoryConflicts (blackoutDb dayMicros) 0 "s" (.utc dayMicros)
          (.utc (dayMicros + hourMicros)) (some 1) none 100).2.Reports .blackoutRule ↔
      ∃ r ∈ (blackoutDb dayMicros).rulesOn .blackout "s",
        r.overlaps (.utc dayMicros) (.utc (dayMicros + hourMicros)) = true) := by
  decide +kernel

/-- The limit of 80% for the surface takes precedence over the 10% for all of them. -/
def twoLimitsDb : Db where
  displaySurfaces := [{ id := "s", logicalCarrierId := "c", storeId := "st", code := "S" }]
  inventoryRules := [
    { id := "g", ruleType := .maxSov, priority := 50, valueJson := { maxSovPercent := some 10 } },
    { id := "r", scopeType := .surface, scopeId := some "s", ruleType := .maxSov, priority := 10
      valueJson := { maxSovPercent := some 80 } }]

/-- Half of the voice is turned down, although the rule of the surface allows it. -/
theorem outranked_limit_reported :
    ¬ ((detectInventoryConflicts twoLimitsDb 0 "s" (.utc 0) (.utc hourMicros) none (some 50)
          100).2.Reports .maxSovRule ↔
      ∃ w, Wins (twoLimitsDb.shareRules 0 "s") w ∧ w.Exceeded (some 50)) := by
  have hreported : (detectInventoryConflicts twoLimitsDb 0 "s" (.utc 0) (.utc hourMicros) none
      (some 50) 100).2.Reports .maxSovRule := by
    decide +kernel
  have hrules : twoLimitsDb.shareRules 0 "s" = twoLimitsDb.inventoryRules := by
    decide +kernel
  intro h
  obtain ⟨w, ⟨hmem, hwins⟩, p, hp, hexceeded⟩ := h.1 hreported
  rw [hrules] at hmem hwins
  cases hp
  rcases List.mem_cons.1 hmem with rfl | hmem
  · -- the rule for all surfaces is outranked
    have hoverSurface := List.forall_mem_cons.1 (List.forall_mem_cons.1 hwins).2
    exact absurd hoverSurface.1 (by decide)
  · rw [List.mem_singleton.1 hmem] at hexceeded
    exact absurd hexceeded (by decide)

end RetailMedia
