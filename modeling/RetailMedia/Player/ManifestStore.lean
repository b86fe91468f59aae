import RetailMedia.Delivery.PlayerAgreement
import RetailMedia.Lib.Run
import RetailMedia.Player.Simulator

/-! The two manifests that a player keeps: what they have passed, and how versions move. -/

namespace RetailMedia

open JsonText (Text Value codes)

section Store

variable (player : Player)

/-- Every check of a manifest on its own. -/
structure Vetted (m : PlayerManifest) : Prop where
  required : ∀ field ∈ requiredManifestFields,
    m.has field = true ∧ (Value.dictGet m field .null).truthy = true
  version : m.has "manifest_version" = true
  surfaces : m.has "display_surfaces" = true
  clean : ∀ term ∈ forbiddenTerms,
    ¬ codes term <:+: Json.lowered (Value.dumps player.reprFloat defaultStyle (.obj m))
  device : Value.dictGet m "device_id" .null = .str player.deviceId
  signature : ∃ sig, Value.dictGet m "signature" (.obj []) = .obj sig ∧
    Value.dictGet sig "value" (.str []) ≠ .str (codes "INVALID") ∧
    (player.signingKey ≠ "" → Value.dictGet sig "algorithm" (.str []) = .str (codes "HMAC-SHA256") ∧
      Value.dictGet sig "value" (.str []) =
        .str (codes (signPlayerManifest player m player.signingKey)))

def SlotsVetted (s : Simulator) : Prop :=
  (∀ m ∈ s.currentManifest, Vetted player m) ∧ ∀ m ∈ s.lastKnownGood, Vetted player m

/-- The call returns a successful result. -/
def Applied (s : Simulator) (m : PlayerManifest) : Prop :=
  ∃ s' r, applyManifest player s m = .ok (s', r) ∧ r.success = true

def PlayerManifest.emergency (m : PlayerManifest) : Bool :=
  (Value.dictGet m "emergency_flag" (.bool false)).truthy

/-- An application that fails changes neither manifest. -/
def FailureKeeps (s : Simulator) : PlayerOp → Prop
  | .apply m => ¬ Applied player s m →
      (player.next s (.apply m)).currentManifest = s.currentManifest ∧
        (player.next s (.apply m)).lastKnownGood = s.lastKnownGood
  | _ => True

/-- One that succeeds, without the flag, raises the version. -/
def SuccessRaises (s : Simulator) : PlayerOp → Prop
  | .apply m => ∀ current, s.currentManifest = some current → Applied player s m →
      m.emergency = false → m.version.gt current.version = some true
  | _ => True

/-- The manifest that is applied does not come with a version that Python cannot order against
the current one, such as NaN. -/
def VersionsOrdered (s : Simulator) : PlayerOp → Prop
  | .apply m => ∀ current, s.currentManifest = some current → Vetted player m →
      m.emergency = false → ¬ Value.Unordered m.version current.version
  | _ => True

end Store

/-! ## The checks -/

section Checks

variable {player : Player} {m : PlayerManifest}

theorem validateManifest_nil : validateManifest m = [] ↔
    (∀ field ∈ requiredManifestFields,
      m.has field = true ∧ (Value.dictGet m field .null).truthy = true) ∧
    m.has "manifest_version" = true ∧ m.has "display_surfaces" = true := by
  unfold validateManifest
  rw [List.append_eq_nil_iff, List.append_eq_nil_iff, List.map_eq_nil_iff, List.filter_eq_nil_iff,
    and_assoc]
  apply and_congr
  · apply forall_congr'
    intro field
    apply imp_congr_right
    intro _
    simp
  · simp

theorem forbiddenTerm_none : forbiddenTerm player m = none ↔ ∀ term ∈ forbiddenTerms,
    ¬ codes term <:+: Json.lowered (Value.dumps player.reprFloat defaultStyle (.obj m)) := by
  unfold forbiddenTerm
  simp

theorem verifyPlayerManifest_true {signature : Value} {key : String} :
    verifyPlayerManifest player m signature key = .ok true ↔
      signature = .str (codes (signPlayerManifest player m key)) := by
  have hascii : ∀ c ∈ codes (signPlayerManifest player m key), c < 128 := by
    have hhex : ∀ c ∈ hexAlphabet, c < 128 := by decide
    intro c hc
    exact hhex c (over_hmac _ _ c hc)
  constructor
  · intro h
    unfold verifyPlayerManifest at h
    split at h
    · split at h
      · rw [of_decide_eq_true (Except.ok.inj h)]
      · cases h
    · cases h
  · rintro rfl
    unfold verifyPlayerManifest
    dsimp only
    rw [if_pos hascii, decide_eq_true rfl]

/-- A digest is never the empty text. -/
theorem signature_truthy :
    (Value.str (codes (signPlayerManifest player m player.signingKey))).truthy = true := by
  by_contra hfalse
  have hempty : codes (signPlayerManifest player m player.signingKey) = codes "" := by
    show codes (signPlayerManifest player m player.signingKey) = []
    simpa [Value.truthy] using hfalse
  exact hmac_ne_empty _ _ (JsonText.codes_injective hempty)

theorem signatureReason_none {sigValue sigAlgo : Value} :
    signatureReason player m sigValue sigAlgo = .ok none ↔
      sigValue ≠ .str (codes "INVALID") ∧
      (player.signingKey ≠ "" → sigAlgo = .str (codes "HMAC-SHA256") ∧
        sigValue = .str (codes (signPlayerManifest player m player.signingKey))) := by
  unfold signatureReason
  by_cases hinvalid : sigValue = .str (codes "INVALID")
  · rw [if_pos hinvalid]
    constructor
    · intro h
      cases h
    · intro h
      exact absurd hinvalid h.1
  · rw [if_neg hinvalid]
    by_cases hkey : player.signingKey = ""
    · rw [if_pos hkey]
      exact ⟨fun _ ↦ ⟨hinvalid, fun h ↦ absurd hkey h⟩, fun _ ↦ rfl⟩
    · rw [if_neg hkey]
      by_cases hvalue : sigValue.truthy = true
      · rw [if_neg (not_not.2 hvalue)]
        by_cases halgo : sigAlgo = .str (codes "HMAC-SHA256")
        · rw [if_neg (not_not.2 halgo)]
          have hverify :
              verifyPlayerManifest player m sigValue player.signingKey = .ok true ↔
                sigValue = .str (codes (signPlayerManifest player m player.signingKey)) :=
            verifyPlayerManifest_true
          cases hv : verifyPlayerManifest player m sigValue player.signingKey with
          | error e =>
              constructor
              · intro h
                cases h
              · intro h
                rw [hverify.2 (h.2 hkey).2] at hv
                cases hv
          | ok verified =>
              cases verified with
              | true => exact ⟨fun _ ↦ ⟨hinvalid, fun _ ↦ ⟨halgo, hverify.1 hv⟩⟩, fun _ ↦ rfl⟩
              | false =>
                  constructor
                  · intro h
                    cases h
                  · intro h
                    rw [hverify.2 (h.2 hkey).2] at hv
                    cases hv
        · rw [if_pos halgo]
          constructor
          · intro h
            cases h
          · intro h
            exact absurd (h.2 hkey).1 halgo
      · rw [if_pos hvalue]
        constructor
        · intro h
          cases h
        · intro h
          rw [(h.2 hkey).2] at hvalue
          exact absurd signature_truthy hvalue

theorem checkPlayerSignature_none : checkPlayerSignature player m = .ok none ↔
    ∃ sig, Value.dictGet m "signature" (.obj []) = .obj sig ∧
      Value.dictGet sig "value" (.str []) ≠ .str (codes "INVALID") ∧
      (player.signingKey ≠ "" →
        Value.dictGet sig "algorithm" (.str []) = .str (codes "HMAC-SHA256") ∧
        Value.dictGet sig "value" (.str []) =
          .str (codes (signPlayerManifest player m player.signingKey))) := by
  unfold checkPlayerSignature
  constructor
  · intro h
    split at h
    · rename_i sig hsig
      exact ⟨sig, hsig, signatureReason_none.1 h⟩
    · cases h
  · rintro ⟨sig, hsig, hrest⟩
    rw [hsig]
    exact signatureReason_none.2 hrest

theorem checkManifest_none {s : Simulator} : checkManifest player s m = .ok none ↔
    Vetted player m ∧ ∀ current, s.currentManifest = some current →
      versionGuard current m = .ok true := by
  unfold checkManifest
  by_cases hshape : validateManifest m = []
  · rw [if_neg (not_not.2 hshape)]
    obtain ⟨hrequired, hversion, hsurfaces⟩ := validateManifest_nil.1 hshape
    cases hterm : forbiddenTerm player m with
    | some term =>
        constructor
        · intro h
          cases h
        · intro h
          rw [forbiddenTerm_none.2 h.1.clean] at hterm
          cases hterm
    | none =>
        dsimp only
        by_cases hdevice : Value.dictGet m "device_id" .null = .str player.deviceId
        · rw [if_neg (not_not.2 hdevice)]
          have hvetted : checkPlayerSignature player m = .ok none ↔ Vetted player m := by
            rw [checkPlayerSignature_none]
            constructor
            · intro h
              exact ⟨hrequired, hversion, hsurfaces, forbiddenTerm_none.1 hterm, hdevice, h⟩
            · intro h
              exact h.signature
          cases s.currentManifest with
          | none => simpa using hvetted
          | some current =>
              dsimp only
              cases hguard : versionGuard current m with
              | error e => simp [hguard]
              | ok passes =>
                  cases passes with
                  | true => simpa [hguard] using hvetted
                  | false => simp [hguard]
        · rw [if_pos hdevice]
          constructor
          · intro h
            cases h
          · intro h
            exact absurd h.1.device hdevice
  · rw [if_pos hshape]
    constructor
    · intro h
      cases h
    · intro h
      exact absurd (validateManifest_nil.2 ⟨h.1.required, h.1.version, h.1.surfaces⟩) hshape

theorem versionGuard_true {current : PlayerManifest} : versionGuard current m = .ok true ↔
    m.version.le current.version = some false ∨
      (m.emergency = true ∧ m.version.le current.version = some true) := by
  unfold versionGuard
  cases m.version.le current.version with
  | none => simp
  | some notNewer =>
      cases notNewer with
      | false => simp
      | true => simp [PlayerManifest.emergency]

end Checks

/-! ## One application -/

section Apply

variable {player : Player}

/-- An application stores the manifest, or it fails and changes nothing. -/
theorem applyManifest_cases (player : Player) (s : Simulator) (m : PlayerManifest) :
    (Applied player s m ∧ checkManifest player s m = .ok none ∧
      player.next s (.apply m) =
        { s with
          lastKnownGood := s.currentManifest
          currentManifest := some m }) ∨
    (¬ Applied player s m ∧ checkManifest player s m ≠ .ok none ∧
      player.next s (.apply m) = s) := by
  have happlied : Applied player s m ↔ checkManifest player s m = .ok none := by
    unfold Applied applyManifest
    cases hcheck : checkManifest player s m with
    | error e => simp
    | ok found =>
        cases found with
        | none => simp
        | some reason => simp [ApplyResult.failed]
  by_cases hcheck : checkManifest player s m = .ok none
  · refine .inl ⟨happlied.2 hcheck, hcheck, ?_⟩
    show okState s (applyManifest player s m) = _
    unfold applyManifest
    rw [hcheck]
    rfl
  · refine .inr ⟨mt happlied.1 hcheck, hcheck, ?_⟩
    show okState s (applyManifest player s m) = s
    unfold applyManifest
    cases hother : checkManifest player s m with
    | error e => rfl
    | ok found =>
        cases found with
        | none => exact absurd hother hcheck
        | some reason => rfl

theorem failureKeeps (player : Player) (s : Simulator) (op : PlayerOp) :
    FailureKeeps player s op := by
  cases op with
  | apply m =>
      intro hfailed
      rcases applyManifest_cases player s m with ⟨happlied, -⟩ | ⟨-, -, hsame⟩
      · exact absurd happlied hfailed
      · rw [hsame]
        exact ⟨rfl, rfl⟩
  | _ => trivial

theorem successRaises_iff (player : Player) (s : Simulator) (op : PlayerOp) :
    SuccessRaises player s op ↔ VersionsOrdered player s op := by
  cases op with
  | apply m =>
      apply forall_congr'
      intro current
      apply imp_congr_right
      intro hcurrent
      constructor
      · intro h hvetted hflag hunordered
        -- an unordered version passes the guard, and is not greater
        have hle : m.version.le current.version = some false := by
          unfold Value.le
          rw [hunordered]
          rfl
        have hcheck : checkManifest player s m = .ok none := by
          refine checkManifest_none.2 ⟨hvetted, ?_⟩
          intro c hc
          cases hcurrent.symm.trans hc
          exact versionGuard_true.2 (.inl hle)
        rcases applyManifest_cases player s m with ⟨happlied, -⟩ | ⟨-, hnot, -⟩
        · exact (Value.gt_of_not_le hle).1 (h happlied hflag) hunordered
        · exact hnot hcheck
      · intro h happlied hflag
        rcases applyManifest_cases player s m with ⟨-, hcheck, -⟩ | ⟨hnot, -, -⟩
        · obtain ⟨hvetted, hguard⟩ := checkManifest_none.1 hcheck
          rcases versionGuard_true.1 (hguard current hcurrent) with hle | ⟨hemergency, -⟩
          · exact (Value.gt_of_not_le hle).2 (h hvetted hflag)
          · rw [hflag] at hemergency
            cases hemergency
        · exact absurd happlied hnot
  | _ => exact Iff.rfl

/-! ## Runs -/

theorem emitPop_state (s : Simulator) (m : PlayerManifest) (c : RenderCall) :
    ∃ ids queue, (emitPop s m c).1 =
      { s with
        eventIds := ids
        eventQueue := queue } := by
  unfold emitPop
  dsimp only
  split
  · exact ⟨s.eventIds, s.eventQueue, rfl⟩
  · exact ⟨_, _, rfl⟩

theorem renderValid_state {s s' : Simulator} {m : PlayerManifest} {c : RenderCall}
    {r : RenderResult} (h : renderValid player s m c = .ok (s', r)) :
    ∃ ids queue, s' =
      { s with
        eventIds := ids
        eventQueue := queue } := by
  have hemit := emitPop_state s m c
  unfold renderValid at h
  split at h
  · cases h
  · cases h
    exact ⟨s.eventIds, s.eventQueue, rfl⟩
  · split at h
    · split at h
      · cases h
      · split at h
        · rw [Except.ok.inj h] at hemit
          exact hemit
        · cases h
          exact ⟨s.eventIds, s.eventQueue, rfl⟩
    · rw [Except.ok.inj h] at hemit
      exact hemit

/-- Rendering changes the events and nothing else. -/
theorem renderSlot_state {s s' : Simulator} {c : RenderCall} {r : RenderResult}
    (h : renderSlot player s c = .ok (s', r)) :
    ∃ ids queue, s' =
      { s with
        eventIds := ids
        eventQueue := queue } := by
  have hsame : ∃ ids queue, s =
      { s with
        eventIds := ids
        eventQueue := queue } := ⟨s.eventIds, s.eventQueue, rfl⟩
  unfold renderSlot at h
  split at h
  · cases h
  · cases h
    exact hsame
  · split at h
    · cases h
    · split at h
      · cases h
        exact hsame
      · split at h
        · cases h
          exact hsame
        · unfold renderManifest at h
          split at h
          · cases h
          · split at h
            · cases h
            · split at h
              · exact renderValid_state h
              · cases h
                exact hsame
          · exact renderValid_state h

theorem slotsVetted_step (player : Player) (s : Simulator) (op : PlayerOp)
    (h : SlotsVetted player s) : SlotsVetted player (player.next s op) := by
  cases op with
  | apply m =>
      rcases applyManifest_cases player s m with ⟨-, hcheck, hnext⟩ | ⟨-, -, hsame⟩
      · rw [hnext]
        constructor
        · intro x hx
          cases hx
          exact (checkManifest_none.1 hcheck).1
        · exact h.1
      · rw [hsame]
        exact h
  | rollback => exact ⟨h.2, h.2⟩
  | render c =>
      show SlotsVetted player (okState s (renderSlot player s c))
      cases hr : renderSlot player s c with
      | error e => exact h
      | ok out =>
          have hout : renderSlot player s c = .ok (out.1, out.2) := hr
          obtain ⟨ids, queue, hstate⟩ := renderSlot_state hout
          show SlotsVetted player out.1
          rw [hstate]
          exact h
  | reset => exact ⟨fun _ hm ↦ absurd hm (Option.not_mem_none _),
      fun _ hm ↦ absurd hm (Option.not_mem_none _)⟩
  | setOffline offline =>
      show SlotsVetted player (setOffline s offline)
      unfold setOffline
      split
      · exact h
      · exact h
      · exact h
  | _ => exact h

/-- Over every run of a player: both manifests have passed all checks in every state and a failed
application leaves them; and every successful one without the flag raises the version exactly if
no applied manifest has an unordered version. -/
theorem manifest_store_iff (player : Player) (s : Simulator) (hcurrent : s.currentManifest = none)
    (hlast : s.lastKnownGood = none) (l : List PlayerOp) :
    (Run.Always player.next (SlotsVetted player) s l ∧
      Run.Guarded player.next (FailureKeeps player) s l ∧
      Run.Guarded player.next (SuccessRaises player) s l) ↔
    Run.Guarded player.next (VersionsOrdered player) s l := by
  have hstart : SlotsVetted player s := by
    unfold SlotsVetted
    rw [hcurrent, hlast]
    exact ⟨fun _ hm ↦ absurd hm (Option.not_mem_none _),
      fun _ hm ↦ absurd hm (Option.not_mem_none _)⟩
  have hvetted : Run.Always player.next (SlotsVetted player) s l :=
    Run.always_of_step (slotsVetted_step player) l hstart
  have hkeeps : Run.Guarded player.next (FailureKeeps player) s l :=
    hvetted.guarded fun s op _ ↦ failureKeeps player s op
  have hraises : Run.Guarded player.next (SuccessRaises player) s l ↔
      Run.Guarded player.next (VersionsOrdered player) s l := by
    constructor
    · intro h
      exact h.mono fun s op ↦ (successRaises_iff player s op).1
    · intro h
      exact h.mono fun s op ↦ (successRaises_iff player s op).2
  exact ⟨fun h ↦ hraises.1 h.2.2, fun h ↦ ⟨hvetted, hkeeps, hraises.2 h⟩⟩

end Apply

/-! Manifests of one device, without a signing key; the second version is the number NaN, which
`json.loads` reads too. -/

def demoPlayer : Player where
  deviceId := codes "d1"
  reprFloat := fun _ ↦ codes "NaN"
  format := fun _ ↦ ""
  fromisoformat := fun _ ↦ none
  emptyText := rfl

def versionedManifest (version : Value) : PlayerManifest := [
  (codes "manifest_id", .str (codes "m")),
  (codes "device_id", .str (codes "d1")),
  (codes "store_id", .str (codes "st1")),
  (codes "channel_type", .str (codes "KSO")),
  (codes "manifest_version", version),
  (codes "display_surfaces", .arr [])]

theorem nan_version_applied : ¬ ∀ (player : Player) (s : Simulator) (l : List PlayerOp),
    s.currentManifest = none → s.lastKnownGood = none →
      Run.Always player.next (SlotsVetted player) s l ∧
        Run.Guarded player.next (FailureKeeps player) s l ∧
        Run.Guarded player.next (SuccessRaises player) s l := by
  intro h
  obtain ⟨-, -, -, hraises, -⟩ := h demoPlayer {}
    [.apply (versionedManifest (.int 1)), .apply (versionedManifest (.float .nan))] rfl rfl
  have hfirst : checkManifest demoPlayer {} (versionedManifest (.int 1)) = .ok none := by
    decide +kernel
  have hnan : checkManifest demoPlayer {} (versionedManifest (.float .nan)) = .ok none := by
    decide +kernel
  have hcurrent : (demoPlayer.next {} (.apply (versionedManifest (.int 1)))).currentManifest =
      some (versionedManifest (.int 1)) := by
    rcases applyManifest_cases demoPlayer {} (versionedManifest (.int 1)) with
      ⟨-, -, hnext⟩ | ⟨-, hnot, -⟩
    · rw [hnext]
    · exact absurd hfirst hnot
  exact (successRaises_iff _ _ _).1 hraises _ hcurrent (checkManifest_none.1 hnan).1
    (by decide) (by decide +kernel)

theorem integer_versions_raise :
    Run.Guarded demoPlayer.next (SuccessRaises demoPlayer) {}
      [.apply (versionedManifest (.int 1)), .apply (versionedManifest (.int 2)), .rollback] := by
  refine ((manifest_store_iff demoPlayer {} rfl rfl _).2 ?_).2.2
  have hordered : ¬ Value.Unordered (.int 2) (.int 1) := by decide +kernel
  refine ⟨?_, ?_, trivial, trivial⟩
  · intro current hcurrent
    cases hcurrent
  · intro current hcurrent _ _
    have hfirst : checkManifest demoPlayer {} (versionedManifest (.int 1)) = .ok none := by
      decide +kernel
    rcases applyManifest_cases demoPlayer {} (versionedManifest (.int 1)) with
      ⟨-, -, hnext⟩ | ⟨-, hnot, -⟩
    · rw [hnext] at hcurrent
      cases hcurrent
      exact hordered
    · exact absurd hfirst hnot

end RetailMedia
