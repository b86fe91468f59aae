import RetailMedia.Delivery.ManifestCache
import RetailMedia.Lib.Run

/-! When cached and repeated manifests are the ones that would be assembled. -/

namespace RetailMedia

namespace Gateway

variable {cfg : SecurityConfig} {s : Gateway}

/-- Every body in the cache, and so every body that a device holds, is the body of the source that
was noted when it was assembled. -/
structure Traced (cfg : SecurityConfig) (s : Gateway) : Prop where
  ids : s.db.manifestIds.Nodup
  stored : ∀ deviceId a, s.built deviceId = some a → a.manifest ∈ s.db.deliveryManifests
  queried : ∀ deviceId a, s.built deviceId = some a → a.Queried
  cache : ∀ deviceId, s.cache deviceId = (s.built deviceId).map (·.body cfg s.db deviceId)
  received : ∀ deviceId r, s.received deviceId = some r → s.cache deviceId = some r.body

theorem traced_start (cfg : SecurityConfig) {db : Db} (h : db.manifestIds.Nodup) :
    Traced cfg { db := db } where
  ids := h
  stored := fun _ _ hbuilt ↦ by cases hbuilt
  queried := fun _ _ hbuilt ↦ by cases hbuilt
  cache := fun _ ↦ rfl
  received := fun _ _ hreceived ↦ by cases hreceived

/-- A step on the tables that adds manifests, or touches the overrides only. -/
theorem Traced.write (h : Traced cfg s) {db : Db} (hids : db.manifestIds.Nodup)
    (hrows : ∀ m ∈ s.db.deliveryManifests, m ∈ db.deliveryManifests)
    (hbody : ∀ deviceId (a : BodySource), a.body cfg db deviceId = a.body cfg s.db deviceId) :
    Traced cfg { s with db := db } where
  ids := hids
  stored := fun deviceId a ha ↦ hrows _ (h.stored deviceId a ha)
  queried := h.queried
  cache := by
    intro deviceId
    show s.cache deviceId = _
    rw [h.cache deviceId]
    exact congrArg (Option.map · _) (funext fun a ↦ (hbody deviceId a).symm)
  received := h.received

theorem Traced.generate (h : Traced cfg s) (now : Int) (campaignId : String)
    (faults : String → Option Fault) :
    Traced cfg (s.step cfg (.generate now campaignId faults)) := by
  have hids := generate_nodup cfg now campaignId faults h.ids
  obtain ⟨rows, events, plans, heq, -, -⟩ := generate_extends cfg s.db now campaignId faults
  show Traced cfg { s with db := (generateManifestsForCampaign cfg s.db now campaignId faults).1 }
  rw [heq] at hids ⊢
  exact h.write hids (fun m hm ↦ List.mem_append_left rows hm) fun _ _ ↦ rfl

theorem Traced.overrides (h : Traced cfg s) (overrides : List EmergencyOverride) :
    Traced cfg { s with db := { s.db with emergencyOverrides := overrides } } :=
  h.write h.ids (fun _ hm ↦ hm) fun _ _ ↦ rfl

theorem Traced.activate (h : Traced cfg s) (now : Int) (reason : String) :
    Traced cfg (s.step cfg (.activate now reason)) := by
  show Traced cfg (s.written (activateEmergencyOverride s.db now reason))
  unfold activateEmergencyOverride
  cases getActiveEmergencyOverride s.db with
  | some o => exact h
  | none => exact h.overrides _

theorem Traced.deactivate (h : Traced cfg s) : Traced cfg (s.step cfg .deactivate) := by
  show Traced cfg (s.written (deactivateEmergencyOverride s.db))
  unfold deactivateEmergencyOverride
  cases getActiveEmergencyOverride s.db with
  | none => exact h
  | some o => exact h.overrides _

/-! ## Answers -/

/-- What the endpoint can answer, and from what. -/
theorem getLatestManifest_cases (cfg : SecurityConfig) (db : Db) (deviceId ifNoneMatch : String)
    (cached : Option Json) :
    (getLatestManifest cfg db deviceId ifNoneMatch cached = .notFound ∧
      ¬ FastPath db deviceId ifNoneMatch cached) ∨
    (∃ etag, getLatestManifest cfg db deviceId ifNoneMatch cached = .notModified etag ∧
      FastPath db deviceId ifNoneMatch cached ∧ stripQuotes ifNoneMatch ≠ "") ∨
    (∃ etag body, getLatestManifest cfg db deviceId ifNoneMatch cached = .fromCache etag body ∧
      FastPath db deviceId ifNoneMatch cached ∧ cached = some body) ∨
    ∃ etag body, getLatestManifest cfg db deviceId ifNoneMatch cached = .assembled etag body ∧
      ¬ FastPath db deviceId ifNoneMatch cached ∧
      getLatestManifestForDevice cfg db deviceId = some body := by
  unfold getLatestManifest FastPath
  cases hinfo : getLatestManifestMetadata db deviceId with
  | none => exact .inl ⟨rfl, by simp⟩
  | some info =>
      dsimp only
      by_cases hetag : etagMatches info ifNoneMatch = true
      · rw [if_pos hetag]
        have hsent : stripQuotes ifNoneMatch ≠ "" := (of_decide_eq_true hetag).1
        exact .inr (.inl ⟨_, rfl, ⟨info, rfl, .inl hetag⟩, hsent⟩)
      · rw [if_neg hetag]
        cases hcached : cached.filter (cacheUsable info) with
        | some body =>
            have hbody := Option.filter_eq_some_iff.1 hcached
            exact .inr (.inr (.inl ⟨_, body, rfl,
              ⟨info, rfl, .inr ⟨body, hbody.1, hbody.2⟩⟩, hbody.1⟩))
        | none =>
            have hslow : ¬ ∃ info', some info = some info' ∧ (etagMatches info' ifNoneMatch = true ∨
                ∃ body, cached = some body ∧ cacheUsable info' body = true) := by
              rintro ⟨info', hsame, hmatch | ⟨body, hbody, husable⟩⟩
              · exact hetag (Option.some.inj hsame ▸ hmatch)
              · have hfound : cached.filter (cacheUsable info) = some body :=
                  Option.filter_eq_some_iff.2 ⟨hbody, Option.some.inj hsame ▸ husable⟩
                rw [hcached] at hfound
                cases hfound
            cases hbody : getLatestManifestForDevice cfg db deviceId with
            | none => exact .inl ⟨rfl, hslow⟩
            | some body => exact .inr (.inr (.inr ⟨_, body, rfl, hslow, rfl⟩))

/-- A device that has received nothing repeats no ETag. -/
theorem received_of_repeated {deviceId : String} {repeats : Bool}
    (h : stripQuotes (s.ifNoneMatch deviceId repeats) ≠ "") :
    ∃ r, s.received deviceId = some r := by
  cases hr : s.received deviceId with
  | some r => exact ⟨r, rfl⟩
  | none =>
      have hempty : s.ifNoneMatch deviceId repeats = "" := by
        unfold ifNoneMatch
        rw [hr]
        cases repeats <;> rfl
      rw [hempty] at h
      exact absurd (by decide) h

theorem Traced.request (h : Traced cfg s) (deviceId : String) (repeats : Bool) :
    Traced cfg (s.step cfg (.request deviceId repeats)) := by
  show Traced cfg (s.request cfg deviceId repeats)
  unfold Gateway.request respond
  rcases getLatestManifest_cases cfg s.db deviceId (s.ifNoneMatch deviceId repeats)
    (s.cache deviceId) with ⟨heq, -⟩ | ⟨etag, heq, -⟩ | ⟨etag, body, heq, -, hcached⟩ |
      ⟨etag, body, heq, -, hbody⟩
  · rw [heq]
    exact h
  · rw [heq]
    exact h
  · rw [heq]
    dsimp only
    refine { h with received := ?_ }
    apply (Function.forall_update_iff _
      fun d x ↦ ∀ r : Received, x = some r → s.cache d = some r.body).2
    refine ⟨fun r hr ↦ ?_, fun d _ ↦ h.received d⟩
    rw [← Option.some.inj hr]
    exact hcached
  · rw [heq]
    rw [getLatestManifestForDevice_eq] at hbody
    obtain ⟨a, ha, hab⟩ := Option.map_eq_some_iff.1 hbody
    have hmem : a.manifest ∈ s.db.deliveryManifests := by
      obtain ⟨m, hm, rfl⟩ := Option.map_eq_some_iff.1 ha
      exact (latestManifest_mem hm).1
    dsimp only
    rw [ha]
    -- the entries of the other devices stand
    constructor
    · exact h.ids
    · apply (Function.forall_update_iff _
        fun d x ↦ ∀ b : BodySource, x = some b → b.manifest ∈ s.db.deliveryManifests).2
      exact ⟨fun b hb ↦ Option.some.inj hb ▸ hmem, fun d _ ↦ h.stored d⟩
    · apply (Function.forall_update_iff _ fun d x ↦ ∀ b : BodySource, x = some b → b.Queried).2
      exact ⟨fun b hb ↦ Option.some.inj hb ▸ bodySource_queried ha, fun d _ ↦ h.queried d⟩
    · intro d
      by_cases hd : d = deviceId
      · subst hd
        simp [hab]
      · simpa [Function.update_of_ne hd] using h.cache d
    · intro d r hr
      by_cases hd : d = deviceId
      · subst hd
        dsimp only at hr ⊢
        rw [Function.update_self] at hr ⊢
        rw [← Option.some.inj hr]
      · dsimp only at hr ⊢
        rw [Function.update_of_ne hd] at hr ⊢
        exact h.received d r hr

theorem Traced.step (h : Traced cfg s) (op : GatewayOp) : Traced cfg (s.step cfg op) := by
  cases op with
  | generate now campaignId faults => exact h.generate now campaignId faults
  | activate now reason => exact h.activate now reason
  | deactivate => exact h.deactivate
  | request deviceId repeats => exact h.request deviceId repeats

/-! ## Coherence of one answer -/

/-- The body that the device or its cache entry holds is the one that would be assembled exactly
when its source agrees with the tables. -/
theorem Traced.body_iff (h : Traced cfg s) {deviceId : String} {body : Json}
    (hcache : s.cache deviceId = some body) :
    getLatestManifestForDevice cfg s.db deviceId = some body ↔
      ∃ a b, s.built deviceId = some a ∧ s.db.bodySource deviceId = some b ∧ a.Agrees b := by
  rw [h.cache deviceId] at hcache
  obtain ⟨a, ha, hab⟩ := Option.map_eq_some_iff.1 hcache
  rw [getLatestManifestForDevice_eq, Option.map_eq_some_iff]
  have hbody {b : BodySource} (hb : s.db.bodySource deviceId = some b) :
      a.body cfg s.db deviceId = b.body cfg s.db deviceId ↔ a.Agrees b := by
    apply body_eq_iff cfg h.ids deviceId (h.queried deviceId a ha) (bodySource_queried hb)
      (h.stored deviceId a ha)
    obtain ⟨m, hm, rfl⟩ := Option.map_eq_some_iff.1 hb
    exact (latestManifest_mem hm).1
  constructor
  · rintro ⟨b, hb, hbb⟩
    exact ⟨a, b, ha, hb, (hbody hb).1 (hab.trans hbb.symm)⟩
  · rintro ⟨a', b, ha', hb, hagree⟩
    have hsame : a = a' := Option.some.inj (ha.symm.trans ha')
    exact ⟨b, hb, ((hbody hb).2 (hsame ▸ hagree)).symm.trans hab⟩

theorem Traced.coherent_iff (h : Traced cfg s) (op : GatewayOp) :
    s.Coherent cfg op ↔ s.StillCurrent op := by
  cases op with
  | request deviceId repeats =>
      unfold Coherent StillCurrent respond
      dsimp only
      rcases getLatestManifest_cases cfg s.db deviceId (s.ifNoneMatch deviceId repeats)
        (s.cache deviceId) with ⟨heq, hslow⟩ | ⟨etag, heq, hfast, hsent⟩ |
          ⟨etag, body, heq, hfast, hcached⟩ | ⟨etag, body, heq, hslow, -⟩
      · rw [heq]
        exact ⟨fun _ hfast ↦ absurd hfast hslow, fun _ ↦ trivial⟩
      · rw [heq]
        obtain ⟨r, hr⟩ := received_of_repeated hsent
        show _ = (s.received deviceId).map (·.body) ↔ _
        rw [hr, Option.map_some, h.body_iff (h.received deviceId r hr)]
        exact ⟨fun hagree _ ↦ hagree, fun hagree ↦ hagree hfast⟩
      · rw [heq]
        show _ = some body ↔ _
        rw [h.body_iff hcached]
        exact ⟨fun hagree _ ↦ hagree, fun hagree ↦ hagree hfast⟩
      · rw [heq]
        exact ⟨fun _ hfast ↦ absurd hfast hslow, fun _ ↦ trivial⟩
  | _ => exact Iff.rfl

end Gateway

/-- From an empty cache, every answer of a run is the one that would be assembled exactly when each
request that is answered without assembling finds the manifest, the reason and the time that the
last body of the device was assembled with. -/
theorem answers_coherent_iff (cfg : SecurityConfig) {db : Db} (hids : db.manifestIds.Nodup)
    (ops : List GatewayOp) :
    Run.Guarded (Gateway.step cfg) (Gateway.Coherent cfg) { db := db } ops ↔
      Run.Guarded (Gateway.step cfg) Gateway.StillCurrent { db := db } ops :=
  Run.guarded_iff (fun _ op h ↦ h.step op) (fun _ op h ↦ h.coherent_iff op)
    (Gateway.traced_start cfg hids)

/-- A screen with one manifest. -/
def servedScreen : Db where
  physicalDevices := [{ id := "tv-1", storeId := "", deviceTypeId := "", code := "TV1" }]
  campaigns := [{
    id := "c-1"
    advertiserOrganizationId := "o-1"
    advertiserContractId := "k-1"
    code := "SPRING" }]
  deliveryManifests := [{
    manifestId := "sha256:a1"
    campaignId := "c-1"
    physicalDeviceId := "tv-1"
    contentHash := "sha256:b2"
    status := .generated
    generatedAt := some 0
    surfaceIds := []
    assets := [] }]

/-- Between two requests one alarm ends and another begins. -/
def twoAlarms : List GatewayOp := [
  .activate 1000000 "fire drill",
  .request "tv-1" false,
  .deactivate,
  .activate 2000000 "evacuate",
  .request "tv-1" true]

/-- The screen is told that nothing has changed, and keeps showing the first alarm. -/
theorem second_alarm_not_modified :
    ¬ ∀ (cfg : SecurityConfig) (db : Db), db.manifestIds.Nodup → ∀ ops : List GatewayOp,
      Run.Guarded (Gateway.step cfg) (Gateway.Coherent cfg) { db := db } ops := by
  intro h
  have hrun := h {} servedScreen (by decide) twoAlarms
  revert hrun
  decide +kernel

/-- The alarm that the screen asks about again is still the same, and its end is noticed. -/
def oneAlarm : List GatewayOp := [
  .activate 1000000 "fire drill",
  .request "tv-1" false,
  .request "tv-1" true,
  .request "tv-1" false,
  .deactivate,
  .request "tv-1" true]

/-- The second request is told that nothing has changed, and the third is served from the cache. -/
theorem answers_coherent_ended :
    servedScreen.manifestIds.Nodup ∧
      FastPath (Run.final (Gateway.step {}) { db := servedScreen } (oneAlarm.take 3)).db "tv-1" ""
        ((Run.final (Gateway.step {}) { db := servedScreen } (oneAlarm.take 3)).cache "tv-1") ∧
      Run.Guarded (Gateway.step {}) (Gateway.Coherent {}) { db := servedScreen } oneAlarm :=
  ⟨by decide, by decide +kernel, (answers_coherent_iff {} (by decide) oneAlarm).2 (by decide +kernel)⟩

end RetailMedia
