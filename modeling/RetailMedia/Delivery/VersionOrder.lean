import RetailMedia.Delivery.SharedDevices
import RetailMedia.Delivery.Versions
import Mathlib.Data.List.MinMax

/-! When concurrent generation calls give the manifests of a device versions in the order in which
they are served. -/

namespace RetailMedia

open Interleaving

/-! ## Versions that are read from the table -/

def nextVersion (l : List Int) : Int := l.max?.getD 0 + 1

theorem lt_nextVersion {l : List Int} {u : Int} (h : u ∈ l) : u < nextVersion l := by
  cases hmax : l.max? with
  | none => rw [List.max?_eq_none_iff.1 hmax] at h; cases h
  | some m =>
      have hle := (List.max?_eq_some_iff.1 hmax).2 u h
      unfold nextVersion
      rw [hmax]
      exact Int.lt_add_one_of_le hle

theorem nextVersion_concat {l : List Int} {u : Int} (h : u ∈ l) :
    nextVersion (l ++ [u]) = nextVersion l := by
  cases hmax : l.max? with
  | none => rw [List.max?_eq_none_iff.1 hmax] at h; cases h
  | some m =>
      have hm := List.max?_eq_some_iff.1 hmax
      have hmax' : (l ++ [u]).max? = some m := by
        apply List.max?_eq_some_iff.2
        refine ⟨List.mem_append_left _ hm.1, fun b hb ↦ ?_⟩
        rcases List.mem_append.1 hb with hb | hb
        · exact hm.2 b hb
        · exact List.mem_singleton.1 hb ▸ hm.2 u h
      unfold nextVersion
      rw [hmax, hmax']

/-- A version that was once the next one: it still is, or somebody else has taken it. -/
def ReadVersion (l : List Int) (v : Int) : Prop := v ∈ l ∨ v = nextVersion l

theorem ReadVersion.concat {l : List Int} {u v : Int} (hv : ReadVersion l v)
    (hu : ReadVersion l u) : ReadVersion (l ++ [u]) v := by
  rcases hv with hv | hv
  · exact .inl (List.mem_append_left _ hv)
  · rcases hu with hu | hu
    · exact .inr (hv.trans (nextVersion_concat hu).symm)
    · exact .inl (List.mem_append_right _ (List.mem_singleton.2 (hv.trans hu.symm)))

theorem ReadVersion.above {l : List Int} {u v : Int} (h : ReadVersion l v) (hv : v ∉ l)
    (hu : u ∈ l) : u < v := by
  rcases h with h | h
  · exact absurd h hv
  · exact h ▸ lt_nextVersion hu

/-! ## The manifests of one device -/

def Db.versions (db : Db) (deviceId : String) : List Int :=
  (db.deliveryManifests.filter (·.physicalDeviceId = deviceId)).map (·.manifestVersion)

theorem getNextManifestVersion_eq (db : Db) (deviceId : String) :
    getNextManifestVersionForDevice db deviceId = nextVersion (db.versions deviceId) := rfl

theorem mem_versions {db : Db} {deviceId : String} {r : DeliveryManifest}
    (h : r ∈ db.deliveryManifests) (hd : r.physicalDeviceId = deviceId) :
    r.manifestVersion ∈ db.versions deviceId := by
  apply List.mem_map_of_mem
  exact List.mem_filter.2 ⟨h, decide_eq_true hd⟩

theorem generated_mem_versions {db : Db} {deviceId : String} {r : DeliveryManifest}
    (h : r ∈ db.generatedManifests deviceId) : r.manifestVersion ∈ db.versions deviceId := by
  have hr := List.mem_filter.1 h
  exact mem_versions hr.1 (of_decide_eq_true hr.2).1

/-- Versions tell the manifests of a device apart, the one that is served has the greatest, and
the player runs it or accepts it. -/
structure VersionsAgree (w : World) (deviceId : String) : Prop where
  distinct : (w.db.versions deviceId).Nodup
  greatest : ∀ m, w.db.latestManifest deviceId = some m →
    ∀ r ∈ w.db.generatedManifests deviceId, r.manifestVersion ≤ m.manifestVersion
  accepted : ∀ m, w.db.latestManifest deviceId = some m →
    w.applied deviceId = some m ∨ acceptsVersion (w.applied deviceId) m = true

/-- The version is not among the committed ones yet, and a generated manifest is marked later than
all that are committed. -/
def InOrder (db : Db) (r : DeliveryManifest) : Prop :=
  r.manifestVersion ∉ db.versions r.physicalDeviceId ∧
    (r.status = .generated → ∀ m ∈ db.generatedManifests r.physicalDeviceId,
      nullsFirst m.generatedAt < nullsFirst r.generatedAt)

instance (db : Db) (r : DeliveryManifest) : Decidable (InOrder db r) :=
  inferInstanceAs (Decidable (_ ∧ _))

def Db.manifestsOf (db : Db) (deviceId : String) : List DeliveryManifest :=
  db.deliveryManifests.filter (·.physicalDeviceId = deviceId)

theorem generatedManifests_eq (db : Db) (deviceId : String) :
    db.generatedManifests deviceId = (db.manifestsOf deviceId).filter (·.status = .generated) := by
  unfold Db.generatedManifests Db.manifestsOf
  rw [List.filter_filter]
  apply List.filter_congr
  intro m _
  rw [Bool.decide_and, Bool.and_comm]

section Device

variable {w w' : World} {deviceId : String}

/-- Tables in which the device has the same rows. -/
theorem versionsAgree_same (hrows : w'.db.manifestsOf deviceId = w.db.manifestsOf deviceId)
    (happlied : w'.applied deviceId = w.applied deviceId) (h : VersionsAgree w deviceId) :
    VersionsAgree w' deviceId := by
  have hversions : w'.db.versions deviceId = w.db.versions deviceId :=
    congrArg (List.map fun m : DeliveryManifest ↦ m.manifestVersion) hrows
  have hgenerated : w'.db.generatedManifests deviceId = w.db.generatedManifests deviceId := by
    rw [generatedManifests_eq, generatedManifests_eq, hrows]
  have hlatest : w'.db.latestManifest deviceId = w.db.latestManifest deviceId :=
    congrArg (Rows.newest _) hgenerated
  constructor
  · rw [hversions]
    exact h.distinct
  · rw [hlatest, hgenerated]
    exact h.greatest
  · rw [hlatest, happlied]
    exact h.accepted

/-- What the player of a device runs is one of its committed manifests. -/
def AppliedStored (w : World) : Prop :=
  ∀ d c, w.applied d = some c → c ∈ w.db.generatedManifests d

/-- One more row of the device: generated with a stamp, or failed. -/
structure AddsRow (w w' : World) (deviceId : String) (r : DeliveryManifest) : Prop where
  rows : w'.db.manifestsOf deviceId = w.db.manifestsOf deviceId ++ [r]
  device : r.physicalDeviceId = deviceId
  applied : w'.applied deviceId = w.applied deviceId
  read : ReadVersion (w.db.versions deviceId) r.manifestVersion

variable {r : DeliveryManifest}

theorem AddsRow.versions (h : AddsRow w w' deviceId r) :
    w'.db.versions deviceId = w.db.versions deviceId ++ [r.manifestVersion] := by
  have hmap := congrArg (List.map (·.manifestVersion)) h.rows
  rw [List.map_append] at hmap
  exact hmap

theorem AddsRow.generated (h : AddsRow w w' deviceId r) (hr : r.status = .generated) :
    w'.db.generatedManifests deviceId = w.db.generatedManifests deviceId ++ [r] := by
  rw [generatedManifests_eq, generatedManifests_eq, h.rows, List.filter_append]
  simp [hr]

theorem AddsRow.generated_failed (h : AddsRow w w' deviceId r) (hr : r.status ≠ .generated) :
    w'.db.generatedManifests deviceId = w.db.generatedManifests deviceId := by
  rw [generatedManifests_eq, generatedManifests_eq, h.rows, List.filter_append]
  simp [hr]

theorem acceptsVersion_of_lt {current : Option DeliveryManifest} {m : DeliveryManifest}
    (h : ∀ c, current = some c → c.manifestVersion < m.manifestVersion) :
    acceptsVersion current m = true := by
  cases current with
  | none => rfl
  | some c => exact decide_eq_true (h c rfl)

theorem latest_concat {db : Db}
    (h : ∀ m ∈ w.db.generatedManifests deviceId, nullsFirst m.generatedAt <
      nullsFirst r.generatedAt)
    (hrows : db.generatedManifests deviceId = w.db.generatedManifests deviceId ++ [r]) :
    db.latestManifest deviceId = some r := by
  unfold Db.latestManifest
  rw [hrows]
  exact Rows.newest_concat h

/-- A manifest that is served although others came before it is marked later than they are. -/
theorem later_of_latest {db : Db} (hr : r ∉ w.db.generatedManifests deviceId)
    (hrows : db.generatedManifests deviceId = w.db.generatedManifests deviceId ++ [r])
    (h : db.latestManifest deviceId = some r) :
    ∀ m ∈ w.db.generatedManifests deviceId, nullsFirst m.generatedAt <
      nullsFirst r.generatedAt := by
  intro m hm
  unfold Db.latestManifest at h
  rw [hrows, Rows.newest_concat_eq] at h
  cases hold : Rows.newest (fun m ↦ nullsFirst m.generatedAt)
      (w.db.generatedManifests deviceId) with
  | none =>
      rw [Rows.newest_eq_none.1 hold] at hm
      cases hm
  | some y =>
      rw [hold] at h
      dsimp only at h
      split at h
      · rename_i hlt
        exact (Rows.newest_le hold m hm).trans_lt hlt
      · cases h
        exact absurd (Rows.newest_mem hold) hr

/-- A new row keeps the agreement exactly if it comes in order. -/
theorem AddsRow.agree_iff (h : AddsRow w w' deviceId r) (hstored : AppliedStored w)
    (hagree : VersionsAgree w deviceId) : VersionsAgree w' deviceId ↔ InOrder w.db r := by
  have hdevice := h.device
  subst hdevice
  constructor
  · intro hnew
    have hfresh : r.manifestVersion ∉ w.db.versions r.physicalDeviceId := by
      have hnodup := hnew.distinct
      rw [h.versions] at hnodup
      intro hmem
      exact (List.nodup_append.1 hnodup).2.2 _ hmem _ (List.mem_singleton_self _) rfl
    refine ⟨hfresh, fun hstatus ↦ ?_⟩
    have hrows := h.generated hstatus
    have hnotmem : r ∉ w.db.generatedManifests r.physicalDeviceId :=
      fun hmem ↦ hfresh (generated_mem_versions hmem)
    apply later_of_latest hnotmem hrows
    -- the row has the greatest version, so it is the one that is served
    cases hlatest : w'.db.latestManifest r.physicalDeviceId with
    | none =>
        have hnil := Rows.newest_eq_none.1 hlatest
        rw [hrows] at hnil
        exact absurd hnil (List.append_ne_nil_of_right_ne_nil _ (List.cons_ne_nil _ _))
    | some m =>
        have hle := hnew.greatest m hlatest r (by
          rw [hrows]
          exact List.mem_append_right _ (List.mem_singleton_self r))
        have hmem := Rows.newest_mem hlatest
        rw [hrows] at hmem
        rcases List.mem_append.1 hmem with hold | hlast
        · have hlt := h.read.above hfresh (generated_mem_versions hold)
          exact absurd hle (not_le.2 hlt)
        · rw [List.mem_singleton.1 hlast]
  · rintro ⟨hfresh, hlater⟩
    have hbelow : ∀ m ∈ w.db.generatedManifests r.physicalDeviceId,
        m.manifestVersion < r.manifestVersion :=
      fun m hm ↦ h.read.above hfresh (generated_mem_versions hm)
    have hdistinct : (w'.db.versions r.physicalDeviceId).Nodup := by
      rw [h.versions, ← List.concat_eq_append]
      exact hagree.distinct.concat hfresh
    by_cases hstatus : r.status = .generated
    · have hrows := h.generated hstatus
      have hlatest := latest_concat (hlater hstatus) hrows
      refine ⟨hdistinct, fun m hm u hu ↦ ?_, fun m hm ↦ .inr ?_⟩
      · cases hlatest.symm.trans hm
        rw [hrows] at hu
        rcases List.mem_append.1 hu with hu | hu
        · exact (hbelow u hu).le
        · exact List.mem_singleton.1 hu ▸ le_refl _
      · cases hlatest.symm.trans hm
        rw [h.applied]
        exact acceptsVersion_of_lt fun c hc ↦ hbelow c (hstored _ c hc)
    · have hrows := h.generated_failed hstatus
      have hlatest : w'.db.latestManifest r.physicalDeviceId =
          w.db.latestManifest r.physicalDeviceId := congrArg (Rows.newest _) hrows
      constructor
      · exact hdistinct
      · rw [hlatest, hrows]
        exact hagree.greatest
      · rw [hlatest, h.applied]
        exact hagree.accepted

end Device

/-! ## What a call relies on -/

namespace GenerateTx

/-- The devices that the loop still comes to. -/
def todo (x : GenerateTx) : List (String × List String) :=
  match x.phase with
  | .looping _ todo => todo
  | .versioning _ t todo => t :: todo
  | .writing _ t todo _ => t :: todo
  | _ => []

/-- What the phase adds: the next manifest is not among the session's own, and its version was
read from the table. -/
def AtPhase (cfg : SecurityConfig) (db : Db) (x : GenerateTx) : Prop :=
  match x.phase with
  | .begin => x.writes = []
  | .versioning data t _ => data.manifestId t ∉ (x.rows cfg).map (·.manifestId)
  | .writing data t _ version => data.manifestId t ∉ (x.rows cfg).map (·.manifestId) ∧
      ReadVersion (db.versions t.1) version
  | _ => True

structure Sound (cfg : SecurityConfig) (db : Db) (x : GenerateTx) : Prop where
  read : ∀ r ∈ x.rows cfg, ReadVersion (db.versions r.physicalDeviceId) r.manifestVersion
  ids : x.writes.Pairwise fun w w' ↦ w.rows cfg ≠ [] → w.manifestId ≠ w'.manifestId
  devices : ((x.rows cfg).map (·.physicalDeviceId) ++ x.todo.map (·.1)).Nodup
  phase : x.AtPhase cfg db

end GenerateTx

theorem manifestIds_keys (db : Db) : db.manifestIds = db.manifestKeys.map (·.1) := by
  unfold Db.manifestIds Db.manifestKeys
  rw [List.map_map]
  rfl

theorem versions_keys (db : Db) (deviceId : String) :
    db.versions deviceId = (db.manifestKeys.filter (·.2.1 = deviceId)).map (·.2.2) := by
  unfold Db.versions Db.manifestKeys
  rw [List.filter_map, List.map_map]
  rfl

/-- The session sees its own rows after the committed ones. -/
theorem view_keys (cfg : SecurityConfig) (db : Db) (ws : List DeviceWrite) :
    (ws.foldl (fun d w ↦ w.apply cfg d) db).manifestKeys =
      db.manifestKeys ++ (ws.flatMap (·.rows cfg)).map (·.key) := by
  induction ws generalizing db with
  | nil => exact (List.append_nil _).symm
  | cons w ws ih =>
      rw [List.foldl_cons, ih, apply_keys, List.flatMap_cons, List.map_append, List.append_assoc]

/-- Where no id is stored yet, the session leaves exactly its own rows. -/
theorem view_manifests (cfg : SecurityConfig) {db : Db} {ws : List DeviceWrite}
    (hids : ws.Pairwise fun w w' ↦ w.rows cfg ≠ [] → w.manifestId ≠ w'.manifestId)
    (hnew : ∀ w ∈ ws, w.manifestId ∉ db.manifestIds) :
    (ws.foldl (fun d w ↦ w.apply cfg d) db).deliveryManifests =
      db.deliveryManifests ++ ws.flatMap (·.rows cfg) := by
  induction ws generalizing db with
  | nil => exact (List.append_nil _).symm
  | cons w ws ih =>
      have hpair := List.pairwise_cons.1 hids
      have hone : (w.apply cfg db).deliveryManifests = db.deliveryManifests ++ w.rows cfg :=
        apply_manifests (hnew w List.mem_cons_self)
      rw [List.foldl_cons, ih hpair.2, hone, List.flatMap_cons, List.append_assoc]
      intro w' hw' hmem
      have hkeys := apply_keys cfg db w
      rw [manifestIds_keys, hkeys, List.map_append, List.mem_append, ← manifestIds_keys] at hmem
      rcases hmem with hold | hown
      · exact hnew w' (List.mem_cons_of_mem w hw') hold
      · obtain ⟨k, hk, hkid⟩ := List.mem_map.1 hown
        obtain ⟨r, hr, hrk⟩ := List.mem_map.1 hk
        have hid : w.manifestId = w'.manifestId := by
          rw [← hkid, ← hrk]
          exact (mem_rows hr).1.symm
        exact hpair.1 w' hw' (List.ne_nil_of_mem hr) hid

theorem finish_manifests (db : Db) (campaignId : String) (last : Ending) :
    (GenerateTx.finish db campaignId last).deliveryManifests = db.deliveryManifests := by
  cases last with
  | unchanged => rfl
  | noTargets => rfl
  | planned versionHash reason => rfl

theorem commit_manifests {cfg : SecurityConfig} {db db' : Db} {x : GenerateTx} {last : Ending}
    (hx : x.Sound cfg db) (h : x.commit cfg db last = some db') :
    db'.deliveryManifests = db.deliveryManifests ++ x.rows cfg := by
  unfold GenerateTx.commit at h
  split at h
  · cases h
  · rename_i hnew
    cases h
    rw [finish_manifests]
    exact view_manifests cfg hx.ids fun w hw hmem ↦ hnew ⟨w, hw, hmem⟩

/-- What the view of a session adds for a device. -/
theorem view_versions (cfg : SecurityConfig) (db : Db) (x : GenerateTx) {deviceId : String}
    (h : deviceId ∉ (x.rows cfg).map (·.physicalDeviceId)) :
    (x.view cfg db).versions deviceId = db.versions deviceId := by
  have hnone : ((x.rows cfg).map (·.key)).filter (·.2.1 = deviceId) = [] := by
    apply List.filter_eq_nil_iff.2
    intro k hk
    obtain ⟨r, hr, rfl⟩ := List.mem_map.1 hk
    have hne : r.physicalDeviceId ≠ deviceId := fun heq ↦ h (heq ▸ List.mem_map_of_mem hr)
    show ¬ decide (r.physicalDeviceId = deviceId) = true
    rwa [decide_eq_true_eq]
  rw [versions_keys, versions_keys]
  unfold GenerateTx.view
  rw [view_keys, List.filter_append]
  have hrows : (x.writes.flatMap (·.rows cfg)) = x.rows cfg := rfl
  rw [hrows, hnone, List.append_nil]

theorem view_ids (cfg : SecurityConfig) (db : Db) (x : GenerateTx) :
    (x.view cfg db).manifestIds = db.manifestIds ++ (x.rows cfg).map (·.manifestId) := by
  rw [manifestIds_keys, manifestIds_keys]
  unfold GenerateTx.view GenerateTx.rows
  rw [view_keys, List.map_append, List.map_map]
  rfl

theorem rows_append (cfg : SecurityConfig) (x : GenerateTx) (w : DeviceWrite)
    (phase : GeneratePhase) (outcomes : List Outcome) :
    ({ x with phase := phase, writes := x.writes ++ [w], outcomes := outcomes } :
      GenerateTx).rows cfg = x.rows cfg ++ w.rows cfg := by
  show (x.writes ++ [w]).flatMap _ = _
  rw [List.flatMap_append, List.flatMap_singleton]
  rfl

/-! ## Steps -/

theorem GenerateTx.Sound.of_phase {cfg : SecurityConfig} {db : Db} {x y : GenerateTx}
    (h : x.Sound cfg db) (hwrites : y.writes = x.writes)
    (htodo : (y.todo.map (·.1)).Sublist (x.todo.map (·.1))) (hphase : y.AtPhase cfg db) :
    y.Sound cfg db := by
  have hrows : y.rows cfg = x.rows cfg := by
    unfold GenerateTx.rows
    rw [hwrites]
  constructor
  · rw [hrows]
    exact h.read
  · rw [hwrites]
    exact h.ids
  · rw [hrows]
    exact List.Nodup.sublist (htodo.append_left _) h.devices
  · exact hphase

theorem GenerateTx.Sound.begun {cfg : SecurityConfig} {db : Db} {x : GenerateTx}
    (h : x.writes = []) : (x.begun db).Sound cfg db := by
  have hwrites : (x.begun db).writes = [] := by
    unfold GenerateTx.begun
    dsimp only
    split
    · exact h
    · split
      · exact h
      · split <;> exact h
  have hrows : (x.begun db).rows cfg = [] := by
    unfold GenerateTx.rows
    rw [hwrites]
    rfl
  constructor
  · rw [hrows]
    exact fun r hr ↦ absurd hr List.not_mem_nil
  · rw [hwrites]
    exact List.Pairwise.nil
  · rw [hrows]
    unfold GenerateTx.begun
    dsimp only
    split
    · exact List.nodup_nil
    · split
      · exact List.nodup_nil
      · split
        · exact List.nodup_nil
        · exact resolveTargets_nodup db x.campaignId
  · unfold GenerateTx.begun
    dsimp only
    split
    · trivial
    · split
      · trivial
      · split <;> trivial

/-- The device that the loop has come to is none of those written. -/
theorem GenerateTx.Sound.head_device {cfg : SecurityConfig} {db : Db} {x : GenerateTx}
    (h : x.Sound cfg db) {t : String × List String} {todo : List (String × List String)}
    (htodo : x.todo = t :: todo) : t.1 ∉ (x.rows cfg).map (·.physicalDeviceId) := by
  have hdevices := h.devices
  rw [htodo, List.map_cons] at hdevices
  intro hmem
  exact (List.nodup_append.1 hdevices).2.2 _ hmem _ List.mem_cons_self rfl

/-- A statement of a call that is not its commit keeps what the call relies on. -/
theorem GenerateTx.Sound.step {cfg : SecurityConfig} {db : Db} {x : GenerateTx}
    (h : x.Sound cfg db) : (x.step cfg db).Sound cfg db := by
  have hphase := h.phase
  unfold GenerateTx.AtPhase at hphase
  unfold GenerateTx.step
  split
  · rename_i hbegin
    rw [hbegin] at hphase
    exact GenerateTx.Sound.begun hphase
  · rename_i data hloop
    refine GenerateTx.Sound.of_phase h ?_ ?_ ?_
    · rfl
    · exact List.nil_sublist _
    · trivial
  · rename_i data t todo hloop
    have htodo : x.todo = t :: todo := by
      unfold GenerateTx.todo
      rw [hloop]
    split
    · refine GenerateTx.Sound.of_phase h ?_ ?_ ?_
      · rfl
      · rw [htodo]
        exact List.sublist_cons_self _ _
      · trivial
    · rename_i hnew
      refine GenerateTx.Sound.of_phase h ?_ ?_ ?_
      · rfl
      · rw [htodo]
        exact List.Sublist.refl _
      · -- the view has the session's own rows
        show data.manifestId t ∉ (x.rows cfg).map (·.manifestId)
        intro hmem
        apply hnew
        rw [any_manifestId_iff, view_ids]
        exact List.mem_append_right _ hmem
  · rename_i data t todo hversion
    have htodo : x.todo = t :: todo := by
      unfold GenerateTx.todo
      rw [hversion]
    rw [hversion] at hphase
    refine GenerateTx.Sound.of_phase h ?_ ?_ ?_
    · rfl
    · rw [htodo]
      exact List.Sublist.refl _
    · refine ⟨hphase, .inr ?_⟩
      rw [getNextManifestVersion_eq, view_versions cfg db x (h.head_device htodo)]
  · rename_i data t todo version hwriting
    have htodo : x.todo = t :: todo := by
      unfold GenerateTx.todo
      rw [hwriting]
    rw [hwriting] at hphase
    have hdevices := h.devices
    rw [htodo, List.map_cons] at hdevices
    constructor
    · rw [rows_append]
      intro r hr
      rcases List.mem_append.1 hr with hr | hr
      · exact h.read r hr
      · rw [(mem_rows hr).2.1, (mem_rows hr).2.2.1]
        exact hphase.2
    · apply List.pairwise_append.2
      refine ⟨h.ids, List.pairwise_singleton _ _, fun w hw w' hw' hne ↦ ?_⟩
      rw [List.mem_singleton.1 hw']
      intro heq
      obtain ⟨r, hr⟩ := List.exists_mem_of_ne_nil _ hne
      apply hphase.1
      have hmem : r ∈ x.rows cfg := List.mem_flatMap.2 ⟨w, hw, hr⟩
      have hid : r.manifestId = data.manifestId t := (mem_rows hr).1.trans heq
      exact hid ▸ List.mem_map_of_mem hmem
    · rw [rows_append, List.map_append, List.append_assoc]
      refine List.Nodup.sublist (List.Sublist.append_left ?_ _) hdevices
      rw [← List.singleton_append]
      refine List.Sublist.append ?_ (List.Sublist.refl _)
      -- at most one row, and it is the device's
      cases hrows : DeviceWrite.rows cfg ⟨data, t, version, x.stamps t.1, x.faults t.1⟩ with
      | nil => exact List.nil_sublist _
      | cons r rs =>
          have hlen : (DeviceWrite.rows cfg
              ⟨data, t, version, x.stamps t.1, x.faults t.1⟩).length ≤ 1 := rows_length _
          rw [hrows] at hlen
          have hrs : rs = [] := List.length_eq_zero_iff.1 (by simpa using hlen)
          have hdevice := (mem_rows (hrows ▸ List.mem_cons_self)).2.1
          rw [hrs, List.map_singleton, hdevice]
    · trivial
  · exact h

/-! ## Commits -/

theorem filter_eq_of_nodup {α κ : Type*} [DecidableEq κ] {f : α → κ} {l : List α}
    (h : (l.map f).Nodup) (k : κ) :
    l.filter (f · = k) = [] ∨ ∃ r ∈ l, f r = k ∧ l.filter (f · = k) = [r] := by
  induction l with
  | nil => exact .inl rfl
  | cons x l ih =>
      have hpair := List.nodup_cons.1 h
      by_cases hx : f x = k
      · have hrest : l.filter (f · = k) = [] := by
          apply List.filter_eq_nil_iff.2
          intro y hy heq
          have hyk : f y = k := of_decide_eq_true heq
          exact hpair.1 (hx.trans hyk.symm ▸ List.mem_map_of_mem hy)
        refine .inr ⟨x, List.mem_cons_self, hx, ?_⟩
        rw [List.filter_cons, if_pos (decide_eq_true hx), hrest]
      · rw [List.filter_cons, if_neg (by simpa using hx)]
        rcases ih hpair.2 with hnone | ⟨r, hr, hrk, hone⟩
        · exact .inl hnone
        · exact .inr ⟨r, List.mem_cons_of_mem x hr, hrk, hone⟩

section Commit

variable {cfg : SecurityConfig} {w : World} {db' : Db} {x : GenerateTx} {last : Ending}

/-- A commit gives a device no row or one. -/
theorem commit_device (hx : x.Sound cfg w.db) (h : x.commit cfg w.db last = some db')
    (deviceId : String) :
    db'.manifestsOf deviceId = w.db.manifestsOf deviceId ∧
        (∀ r ∈ x.rows cfg, r.physicalDeviceId ≠ deviceId) ∨
      ∃ r ∈ x.rows cfg, AddsRow w { w with db := db' } deviceId r := by
  have hrows : db'.manifestsOf deviceId = w.db.manifestsOf deviceId ++
      (x.rows cfg).filter (·.physicalDeviceId = deviceId) := by
    unfold Db.manifestsOf
    rw [commit_manifests hx h, List.filter_append]
  have hnodup := (List.nodup_append.1 hx.devices).1
  rcases filter_eq_of_nodup hnodup deviceId with hnone | ⟨r, hr, hdevice, hone⟩
  · rw [hnone, List.append_nil] at hrows
    refine .inl ⟨hrows, fun r hr heq ↦ ?_⟩
    exact absurd (decide_eq_true heq) (List.filter_eq_nil_iff.1 hnone r hr)
  · rw [hone] at hrows
    exact .inr ⟨r, hr, hrows, hdevice, rfl, hdevice ▸ hx.read r hr⟩

/-- The commit keeps the agreement of all devices exactly if each of its rows comes in order. -/
theorem commit_agree_iff (hx : x.Sound cfg w.db) (h : x.commit cfg w.db last = some db')
    (hstored : AppliedStored w) (hagree : ∀ d, VersionsAgree w d) :
    (∀ d, VersionsAgree { w with db := db' } d) ↔ ∀ r ∈ x.rows cfg, InOrder w.db r := by
  constructor
  · intro hnew r hr
    rcases commit_device hx h r.physicalDeviceId with ⟨-, hnone⟩ | ⟨u, hu, hadds⟩
    · exact absurd rfl (hnone r hr)
    · -- the device's only row is `r`
      have hnodup := (List.nodup_append.1 hx.devices).1
      have hsame : u = r := List.inj_on_of_nodup_map hnodup hu hr hadds.device
      exact hsame ▸ (hadds.agree_iff hstored (hagree _)).1 (hnew _)
  · intro horder d
    rcases commit_device hx h d with ⟨hsame, -⟩ | ⟨r, hr, hadds⟩
    · exact versionsAgree_same hsame rfl (hagree d)
    · exact (hadds.agree_iff hstored (hagree d)).2 (horder r hr)

theorem commit_stored (hx : x.Sound cfg w.db) (h : x.commit cfg w.db last = some db')
    (hstored : AppliedStored w) : AppliedStored { w with db := db' } := by
  intro d c hc
  have hold := hstored d c hc
  show c ∈ db'.generatedManifests d
  unfold Db.generatedManifests at hold ⊢
  rw [commit_manifests hx h, List.filter_append]
  exact List.mem_append_left _ hold

/-- What another call has read is still what it was, or taken by now. -/
theorem commit_read (hx : x.Sound cfg w.db) (h : x.commit cfg w.db last = some db')
    {deviceId : String} {v : Int} (hv : ReadVersion (w.db.versions deviceId) v) :
    ReadVersion (db'.versions deviceId) v := by
  rcases commit_device hx h deviceId with ⟨hsame, -⟩ | ⟨r, hr, hadds⟩
  · have hversions : db'.versions deviceId = w.db.versions deviceId :=
      congrArg (List.map fun m : DeliveryManifest ↦ m.manifestVersion) hsame
    exact hversions ▸ hv
  · have hversions := hadds.versions
    dsimp only at hversions
    rw [hversions]
    exact hv.concat hadds.read

theorem GenerateTx.Sound.commit {y : GenerateTx} (hy : y.Sound cfg w.db) (hx : x.Sound cfg w.db)
    (h : x.commit cfg w.db last = some db') : y.Sound cfg db' := by
  refine ⟨fun r hr ↦ commit_read hx h (hy.read r hr), hy.ids, hy.devices, ?_⟩
  have hphase := hy.phase
  unfold GenerateTx.AtPhase at hphase ⊢
  cases hp : y.phase with
  | writing data t todo version =>
      rw [hp] at hphase
      exact ⟨hphase.1, commit_read hx h hphase.2⟩
  | begin =>
      rw [hp] at hphase
      exact hphase
  | versioning data t todo =>
      rw [hp] at hphase
      exact hphase
  | looping data todo => trivial
  | ending last => trivial

end Commit

/-! ## Polls -/

theorem poll_stored {w : World} (h : AppliedStored w) (deviceId : String) :
    AppliedStored (w.poll deviceId) := by
  unfold World.poll
  split
  · exact h
  · rename_i m hm
    split
    · intro d c hc
      by_cases hd : d = deviceId
      · rw [hd] at hc ⊢
        rw [show ({ w with applied := Function.update w.applied deviceId (some m) } :
          World).applied deviceId = some m from Function.update_self ..] at hc
        exact Option.some.inj hc ▸ Rows.newest_mem hm
      · exact h d c ((Function.update_of_ne hd _ w.applied).symm.trans hc)
    · exact h

theorem poll_db (w : World) (deviceId : String) : (w.poll deviceId).db = w.db := by
  unfold World.poll
  split
  · rfl
  · split <;> rfl

theorem poll_agree {w : World} (deviceId : String) (h : ∀ d, VersionsAgree w d) (d : String) :
    VersionsAgree (w.poll deviceId) d := by
  have hd := h d
  constructor
  · rw [poll_db]
    exact hd.distinct
  · unfold Db.latestManifest at *
    rw [poll_db]
    exact hd.greatest
  · intro m hm
    rw [poll_db] at hm
    unfold World.poll
    split
    · exact hd.accepted m hm
    · rename_i m' hm'
      split
      · by_cases hsame : d = deviceId
        · subst hsame
          cases hm'.symm.trans hm
          exact .inl (Function.update_self ..)
        · have hkeep := hd.accepted m hm
          show Function.update w.applied deviceId (some m') d = _ ∨ acceptsVersion
            (Function.update w.applied deviceId (some m') d) m = true
          rw [Function.update_of_ne hsame]
          exact hkeep
      · exact hd.accepted m hm

/-! ## Runs -/

def VersionTx.Sound (cfg : SecurityConfig) (db : Db) : VersionTx → Prop
  | .generate x => x.Sound cfg db
  | .poll _ => True

section Run

variable {τ : Type*} {cfg : SecurityConfig}

/-- The invariant of every run, whatever is committed. -/
structure Underway (cfg : SecurityConfig) (s : System τ Empty World VersionTx) : Prop where
  stored : AppliedStored s.data
  tx : ∀ t a, s.tx t = some a → a.Sound cfg s.data.db

def versionOutline (cfg : SecurityConfig) (τ : Type*) : Outline τ Empty World VersionTx where
  inv := AppliedStored
  sound w _ a := a.Sound cfg w.db
  relies _ _ := False
  guard _ _ := True

theorem versionStmt_commit {x : GenerateTx} {f : World → Option World}
    (h : versionStmt cfg (.generate x) = .commit f) :
    ∃ last, x.phase = .ending last ∧
      f = fun w ↦ (x.commit cfg w.db last).map fun db ↦ { w with db := db } := by
  unfold versionStmt at h
  dsimp only at h
  split at h
  · rename_i last hlast
    exact ⟨last, hlast, (Stmt.commit.inj h).symm⟩
  · cases h

theorem versionOutline_proves (cfg : SecurityConfig) (τ : Type*) :
    (versionOutline cfg τ).Proves (versionStmt cfg) := by
  intro a
  cases hstmt : versionStmt cfg a with
  | lock row k =>
      cases a with
      | poll deviceId => cases hstmt
      | generate x =>
          unfold versionStmt at hstmt
          dsimp only at hstmt
          split at hstmt <;> cases hstmt
  | run k =>
      cases a with
      | poll deviceId => cases hstmt
      | generate x =>
          intro w t hinv hsound _
          unfold versionStmt at hstmt
          dsimp only at hstmt
          split at hstmt
          · cases hstmt
          · cases hstmt
            exact ⟨GenerateTx.Sound.step hsound, fun r hr ↦ hr⟩
  | commit f =>
      intro w w' t hinv hsound _ hcommit
      cases a with
      | poll deviceId =>
          cases hstmt
          cases hcommit
          refine ⟨poll_stored hinv deviceId, fun u b _ hb _ ↦ ?_⟩
          show b.Sound cfg (w.poll deviceId).db
          rw [poll_db]
          exact hb
      | generate x =>
          obtain ⟨last, -, rfl⟩ := versionStmt_commit hstmt
          obtain ⟨db', hdb', rfl⟩ := Option.map_eq_some_iff.1 hcommit
          refine ⟨commit_stored hsound hdb' hinv, fun u b _ hb _ ↦ ?_⟩
          cases b with
          | poll deviceId => trivial
          | generate y => exact GenerateTx.Sound.commit hb hsound hdb'

/-- Calls and polls that have not begun. -/
structure Beginning (s : System τ Empty World VersionTx) : Prop where
  stored : AppliedStored s.data
  agree : ∀ d, VersionsAgree s.data d
  calls : ∀ t x, s.tx t = some (.generate x) → x.phase = .begin ∧ x.writes = []

theorem Beginning.underway {s : System τ Empty World VersionTx} (h : Beginning s)
    (cfg : SecurityConfig) : Underway cfg s := by
  refine ⟨h.stored, fun t a ha ↦ ?_⟩
  cases a with
  | poll deviceId => trivial
  | generate x =>
      obtain ⟨hphase, hwrites⟩ := h.calls t x ha
      have hrows : x.rows cfg = [] := by
        unfold GenerateTx.rows
        rw [hwrites]
        rfl
      have htodo : x.todo = [] := by
        unfold GenerateTx.todo
        rw [hphase]
      constructor
      · rw [hrows]
        exact fun r hr ↦ absurd hr List.not_mem_nil
      · rw [hwrites]
        exact List.Pairwise.nil
      · rw [hrows, htodo]
        exact List.nodup_nil
      · unfold GenerateTx.AtPhase
        rw [hphase]
        exact hwrites

variable [DecidableEq τ]

theorem Underway.next {s : System τ Empty World VersionTx} (h : Underway cfg s)
    (label : τ × Move) : Underway cfg (next (versionStmt cfg) s label) := by
  have hholds : (versionOutline cfg τ).Holds s :=
    ⟨h.stored, h.tx, fun _ _ _ _ hr ↦ hr.elim⟩
  have hmeets : (versionOutline cfg τ).Meets (versionStmt cfg) s label := fun _ _ _ _ ↦ trivial
  have hnext := (versionOutline_proves cfg τ).next hholds hmeets
  exact ⟨hnext.data, hnext.tx⟩

/-- Every row that a step commits comes in order. -/
def CommitsInOrder (cfg : SecurityConfig) (s : System τ Empty World VersionTx)
    (label : τ × Move) : Prop :=
  match commitOf (versionStmt cfg) s label with
  | some (.generate x) => ∀ r ∈ x.rows cfg, InOrder s.data.db r
  | _ => True

instance (cfg : SecurityConfig) (s : System τ Empty World VersionTx) (label : τ × Move) :
    Decidable (CommitsInOrder cfg s label) := by
  unfold CommitsInOrder
  split <;> infer_instance

theorem next_agree_iff {s : System τ Empty World VersionTx} (h : Underway cfg s)
    (hagree : ∀ d, VersionsAgree s.data d) (label : τ × Move) :
    (∀ d, VersionsAgree (next (versionStmt cfg) s label).data d) ↔
      CommitsInOrder cfg s label := by
  unfold CommitsInOrder
  rcases @next_commit_or _ _ _ _ _ _ (versionStmt cfg) s label with
    ⟨a, f, w', hcommit, htx, -, hstmt, hw', hnext⟩ | ⟨hnone, hdata⟩
  · rw [hnext, hcommit]
    show (∀ d, VersionsAgree w' d) ↔ _
    cases a with
    | poll deviceId =>
        cases hstmt
        cases hw'
        exact iff_of_true (poll_agree deviceId hagree) trivial
    | generate x =>
        obtain ⟨last, -, rfl⟩ := versionStmt_commit hstmt
        obtain ⟨db', hdb', rfl⟩ := Option.map_eq_some_iff.1 hw'
        exact commit_agree_iff (h.tx _ _ htx) hdb' h.stored hagree
  · rw [hdata, hnone]
    exact iff_of_true hagree trivial

/-- In every schedule of concurrent calls and polls, versions agree with the order of serving in
all states exactly if every commit comes in order. -/
theorem versionsAgree_iff_commitsInOrder (cfg : SecurityConfig) (τ : Type*) [DecidableEq τ]
    (s : System τ Empty World VersionTx) (l : List (τ × Move)) (h : Beginning s) :
    Run.Always (next (versionStmt cfg)) (fun s ↦ ∀ d, VersionsAgree s.data d) s l ↔
      Run.Guarded (next (versionStmt cfg)) (CommitsInOrder cfg) s l :=
  Run.always_iff_guarded (A := fun _ ↦ True) (fun _ label _ hs ↦ Underway.next hs label)
    (fun _ label _ hs hagree ↦ next_agree_iff hs hagree label) (fun _ _ ↦ trivial)
    (h.underway cfg) h.agree

end Run

/-! Two campaigns on one device: both calls read the version before either of them commits. -/

def demoCall (campaignId : String) (stamp : Int) : VersionTx :=
  .generate { campaignId := campaignId, now := 0, stamps := fun _ ↦ stamp, faults := fun _ ↦ none }

def twoCalls : System Bool Empty World VersionTx where
  data := { db := sharedDb, applied := fun _ ↦ none }
  holder row := nomatch row
  tx t := some (if t then demoCall "a" 1 else demoCall "b" 2)

theorem twoCalls_beginning : Beginning twoCalls := by
  constructor
  · exact fun d c hc ↦ by cases hc
  · intro d
    refine ⟨List.nodup_nil, fun m hm ↦ ?_, fun m hm ↦ ?_⟩
    · cases hm
    · cases hm
  · intro t x hx
    cases t with
    | true => cases hx; exact ⟨rfl, rfl⟩
    | false => cases hx; exact ⟨rfl, rfl⟩

def readTogether : List (Bool × Move) :=
  List.replicate 3 (true, .advance) ++ List.replicate 3 (false, .advance) ++
    List.replicate 3 (true, .advance) ++ List.replicate 3 (false, .advance)

theorem both_versions_one :
    ¬ ∀ (cfg : SecurityConfig) (s : System Bool Empty World VersionTx) (l : List (Bool × Move)),
      Beginning s →
      Run.Always (next (versionStmt cfg)) (fun s ↦ ∀ d, VersionsAgree s.data d) s l := by
  intro h
  have hlast := (h {} twoCalls readTogether twoCalls_beginning).final
  have hnodup : ¬ ((Run.final (next (versionStmt {})) twoCalls readTogether).data.db.versions
      "d1").Nodup := by
    decide +kernel
  exact hnodup (hlast "d1").distinct

theorem call_alone_in_order :
    Run.Always (next (versionStmt {})) (fun s ↦ ∀ d, VersionsAgree s.data d) twoCalls
      (List.replicate 6 (true, .advance)) :=
  (versionsAgree_iff_commitsInOrder {} Bool twoCalls _ twoCalls_beginning).2 (by decide +kernel)

end RetailMedia
