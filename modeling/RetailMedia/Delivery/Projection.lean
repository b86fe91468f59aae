import RetailMedia.Delivery.Freshness

/-! The manifest that a device is served against the manifest that generation built for it. -/

namespace RetailMedia

/-- The items of two playlists agree under every key that a generated item sets for the player. -/
def SameItem (a b : Json) : Prop :=
  ∀ k ∈ ["order", "weight", "priority", "creative_asset_id", "media_type", "duration_ms",
    "sha256_checksum"], a.get k = b.get k

def SamePlaylist (a b : Json) : Prop :=
  List.Forall₂ SameItem (a.get "playlist").items (b.get "playlist").items

def SameManifest (a b : Json) : Prop :=
  (∀ k ∈ ["manifest_id", "manifest_version", "display_surfaces", "valid_from", "valid_to"],
    a.get k = b.get k) ∧ SamePlaylist a b

/-- The device is served the manifest that was built for it. -/
def ServedAsBuilt (cfg : SecurityConfig) (db : Db) (deviceId : String) (built : Json) : Prop :=
  ∃ served, getLatestManifestForDevice cfg db deviceId = some served ∧ SameManifest built served

/-- The manifests that a call builds, signs and hashes, each with its device. -/
def builtManifests (cfg : SecurityConfig) (db : Db) (now : Int) (campaignId : String)
    (faults : String → Option Fault) : List (String × Json) :=
  if ¬ (checkEligibility db now campaignId).eligible then []
  else
    match db.campaignData campaignId with
    | none => []
    | some data =>
        let targets := (resolveTargets db campaignId).deviceSurfaces
        let outcomes := (Rows.sweep (generateForDevice cfg now data faults) db targets).2
        (targets.zip outcomes).filterMap fun p ↦
          match p.2 with
          | .generated _ manifest => some (p.1.1, manifest)
          | _ => none

theorem generateLoop_built {cfg : SecurityConfig} {now : Int} {data : CampaignData}
    {faults : String → Option Fault} (db : Db) (targets : List (String × List String))
    {manifestId : String} {manifest : Json}
    (h : .generated manifestId manifest ∈
      (Rows.sweep (generateForDevice cfg now data faults) db targets).2) :
    ∃ version target, manifest = data.manifest cfg version target := by
  induction targets generalizing db with
  | nil => cases h
  | cons t targets ih =>
      rw [Rows.sweep_cons] at h
      rcases List.mem_cons.1 h with h | h
      · rcases generateForDevice_cases cfg now data faults db t with ⟨-, heq⟩ |
          ⟨-, _, _, heq, -, -⟩ | ⟨-, version, _, heq, -⟩
        · rw [heq] at h
          cases h
        · rw [heq] at h
          cases h
        · rw [heq] at h
          cases h
          exact ⟨version, t, rfl⟩
      · exact ih _ h

/-- A built manifest has the items of the campaign's deliverable assets, at least one. -/
theorem builtManifests_playlist {cfg : SecurityConfig} {db : Db} {now : Int}
    {campaignId deviceId : String} {faults : String → Option Fault} {built : Json}
    (h : (deviceId, built) ∈ builtManifests cfg db now campaignId faults) :
    ∃ priority row rows,
      (built.get "playlist").items = playlistItem priority row :: rows := by
  unfold builtManifests at h
  split at h
  · cases h
  · rename_i helig
    have helig := checkEligibility_eligible (not_not.1 helig)
    split at h
    · cases h
    · rename_i data hdata
      obtain ⟨⟨target, outcome⟩, hzip, hout⟩ := List.mem_filterMap.1 h
      cases outcome with
      | skipped => cases hout
      | failed => cases hout
      | generated manifestId manifest =>
          cases hout
          obtain ⟨version, t, rfl⟩ := generateLoop_built db _ (List.of_mem_zip hzip).2
          obtain ⟨row, rows, hrows⟩ := List.exists_cons_of_ne_nil helig.2
          refine ⟨data.campaign.priority, row, rows.map (playlistItem data.campaign.priority), ?_⟩
          unfold CampaignData.manifest
          rw [get_signed _ (by decide)]
          change data.creativeAssetRows.map _ = _
          rw [campaignData_rows hdata, hrows, List.map_cons]

/-- A stored asset keeps no weight for the item that it is served as. -/
theorem servedItem_no_weight (a : DeliveryManifestAsset) : (servedItem a).get "weight" = .null :=
  rfl

theorem playlistItem_weight (priority : Int) (row : CampaignCreative × CreativeAsset) :
    (playlistItem priority row).get "weight" =
      .num (if row.1.sortOrder = 0 then 1 else row.1.sortOrder) := rfl

theorem servedPayload_playlist (db : Db) (deviceId : String) (m : DeliveryManifest) :
    ((servedPayload db deviceId m).get "playlist").items = m.assets.map servedItem := rfl

/-- No device is ever served the manifest that generation built for it. -/
theorem built_never_served (cfg : SecurityConfig) (db : Db) (now : Int)
    (campaignId deviceId : String) (faults : String → Option Fault) (built : Json)
    (h : (deviceId, built) ∈ builtManifests cfg db now campaignId faults) :
    ¬ ServedAsBuilt cfg (generateManifestsForCampaign cfg db now campaignId faults).1 deviceId
      built := by
  rintro ⟨served, hserved, -, hplaylist⟩
  obtain ⟨m, -, rfl⟩ := Option.map_eq_some_iff.1 hserved
  obtain ⟨priority, row, rows, hbuilt⟩ := builtManifests_playlist h
  unfold SamePlaylist at hplaylist
  rw [hbuilt, get_signed _ (by decide), servedPayload_playlist] at hplaylist
  cases hassets : m.assets with
  | nil =>
      rw [hassets] at hplaylist
      cases hplaylist
  | cons a assets =>
      rw [hassets, List.map_cons] at hplaylist
      cases hplaylist with
      | cons hitem _ =>
          -- the built item has a weight, the served one has none
          have hweight := hitem "weight" (by decide)
          rw [playlistItem_weight, servedItem_no_weight] at hweight
          cases hweight

/-- Which items of the playlist carry a weight. -/
def Json.weighted (manifest : Json) : List Bool :=
  (manifest.get "playlist").items.map fun item ↦
    match item.get "weight" with
    | .num _ => true
    | _ => false

theorem SamePlaylist.weighted {a b : Json} (h : SamePlaylist a b) : a.weighted = b.weighted := by
  unfold SamePlaylist at h
  unfold Json.weighted
  generalize (a.get "playlist").items = items, (b.get "playlist").items = items' at h
  induction h with
  | nil => rfl
  | cons hitem _ ih => rw [List.map_cons, List.map_cons, ih, hitem "weight" (by decide)]

theorem demo_built_weighted :
    (builtManifests {} demoDeliveryDb 1 "a" fun _ ↦ none).map (fun p ↦ (p.1, p.2.weighted)) =
      [("d1", [true, true])] := by
  decide +kernel

theorem demo_served_weighted :
    (getLatestManifestForDevice {} (generateManifestsForCampaign {} demoDeliveryDb 1 "a"
      fun _ ↦ none).1 "d1").map Json.weighted = some [false, false] := by
  decide +kernel

theorem demo_built : ∃ built,
    ("d1", built) ∈ builtManifests {} demoDeliveryDb 1 "a" (fun _ ↦ none) ∧
      built.weighted = [true, true] := by
  have hmem : ("d1", [true, true]) ∈ (builtManifests {} demoDeliveryDb 1 "a" fun _ ↦ none).map
      fun p ↦ (p.1, p.2.weighted) := demo_built_weighted ▸ List.mem_singleton_self _
  obtain ⟨⟨deviceId, built⟩, hbuilt, heq⟩ := List.mem_map.1 hmem
  obtain ⟨hdevice, hweighted⟩ := Prod.mk.inj heq
  exact ⟨built, hdevice ▸ hbuilt, hweighted⟩

theorem built_weights_not_served :
    ¬ ∀ (cfg : SecurityConfig) (db : Db) (now : Int) (campaignId deviceId : String)
      (faults : String → Option Fault) (built : Json),
      (deviceId, built) ∈ builtManifests cfg db now campaignId faults →
      ServedAsBuilt cfg (generateManifestsForCampaign cfg db now campaignId faults).1 deviceId
        built := by
  intro h
  obtain ⟨built, hmem, hweighted⟩ := demo_built
  obtain ⟨served, hserved, -, hplaylist⟩ := h {} demoDeliveryDb 1 "a" "d1" _ built hmem
  have hunweighted := demo_served_weighted
  rw [hserved, Option.map_some, ← hplaylist.weighted, hweighted] at hunweighted
  cases hunweighted

theorem demo_never_served : ∃ built,
    ("d1", built) ∈ builtManifests {} demoDeliveryDb 1 "a" (fun _ ↦ none) ∧
      ¬ ServedAsBuilt {} (generateManifestsForCampaign {} demoDeliveryDb 1 "a" fun _ ↦ none).1
        "d1" built := by
  obtain ⟨built, hmem, -⟩ := demo_built
  exact ⟨built, hmem, built_never_served {} demoDeliveryDb 1 "a" "d1" (fun _ ↦ none) built hmem⟩

end RetailMedia
