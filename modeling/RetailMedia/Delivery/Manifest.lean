import RetailMedia.Delivery.Targets
import Mathlib

/-! Manifest ids, the manifest that generation builds, and the manifest that a device is served. -/

namespace RetailMedia

def sortedTexts (l : List String) : List String := l.insertionSort (· ≤ ·)

theorem mem_sortedTexts {s : String} {l : List String} : s ∈ sortedTexts l ↔ s ∈ l :=
  (List.perm_insertionSort (· ≤ ·) l).mem_iff

/-- Sorting forgets the order that the texts came in. -/
theorem sortedTexts_perm {l m : List String} (h : l.Perm m) : sortedTexts l = sortedTexts m := by
  have hl := List.perm_insertionSort (· ≤ ·) l
  have hm := List.perm_insertionSort (· ≤ ·) m
  exact (hl.trans (h.trans hm.symm)).eq_of_sortedLE List.sortedLE_insertionSort
    List.sortedLE_insertionSort

/-! ## Manifest ids -/

def separator : String := "‖"

/-- The parts are encoded one by one: the encoding of the joined text is the join of theirs. -/
def hashParts (parts : List String) : String :=
  "sha256:" ++
    Sha256.hexdigest ((Sha256.utf8 separator).intercalate (parts.map Sha256.utf8))

/-- What manifest ids and campaign version hashes have in common. -/
structure CampaignVersion where
  campaignId : String
  campaignStatus : String
  campaignUpdatedAt : String
  creativeAssetIds : List String
  creativeChecksums : List String
  flightIds : List String
  flightData : List String
  placementIds : List String
  deriving DecidableEq, Repr

def CampaignVersion.parts (v : CampaignVersion) : List String :=
  [v.campaignId, v.campaignStatus, v.campaignUpdatedAt] ++
    sortedTexts v.creativeAssetIds ++ sortedTexts v.creativeChecksums ++
    sortedTexts v.flightIds ++ sortedTexts v.flightData ++ sortedTexts v.placementIds

def computeManifestId (v : CampaignVersion) (surfaceIds : List String) (deviceId : String) :
    String :=
  hashParts (v.parts ++ sortedTexts surfaceIds ++ [deviceId])

def computeCampaignVersionHash (v : CampaignVersion) : String := hashParts v.parts

/-! ## Building and signing -/

structure SecurityConfig where
  manifestSigningKey : String := ""
  deriving DecidableEq, Repr

/-- `dict[key] = f(dict[key])`. -/
def Json.update (key : String) (f : Json → Json) : Json → Json
  | .obj fields => .obj (fields.map fun e ↦ (e.1, if e.1 = key then f e.2 else e.2))
  | j => j

def isoText (t : Int) : String := (DateTime.utc t).isoformat

def surfaceJson (s : String × String) : Json :=
  .obj [("surface_id", .str s.1), ("surface_code", .str s.2)]

def fallbackRules : Json := .obj [
  ("on_manifest_expired", .str "show_fallback"),
  ("on_network_lost", .str "continue_last_valid"),
  ("filler_media_ids", .arr []),
  ("emit_pop", .bool false)]

def unsigned : Json := .obj [("algorithm", .str "HMAC-SHA256"), ("value", .str "")]

structure ManifestArgs where
  manifestId : String
  manifestVersion : Int
  deviceId : String
  deviceCode : String := ""
  storeId : String := ""
  storeCode : String := ""
  retailerId : String := ""
  channelType : String := ""
  deviceType : String := ""
  surfaceIds : List String
  surfaceCodes : List (String × String) := []
  playlistItems : List Json := []
  validFrom : Option String := none
  validTo : Option String := none
  offlineTtlHours : Int := 168

def generateManifestJson (a : ManifestArgs) : Json := .obj [
  ("manifest_id", .str a.manifestId),
  ("manifest_version", .num a.manifestVersion),
  ("schema_version", .str "1.0"),
  ("device_id", .str a.deviceId),
  ("device_code", .str a.deviceCode),
  ("store_id", .str a.storeId),
  ("store_code", .str a.storeCode),
  ("retailer_id", .str a.retailerId),
  ("channel_type", .str a.channelType),
  ("device_type", .str a.deviceType),
  ("display_surfaces", .arr ((sortedTexts a.surfaceIds).map fun s ↦
    surfaceJson (s, Dict.getD a.surfaceCodes s ""))),
  ("playlist", .arr a.playlistItems),
  ("media_files", .arr []),
  ("adapter_payload", .obj []),
  ("valid_from", .ofOption .str a.validFrom),
  ("valid_to", .ofOption .str a.validTo),
  ("offline_ttl_hours", .num a.offlineTtlHours),
  ("fallback_rules", fallbackRules),
  ("emergency", .obj [("active", .bool false), ("activated_at", .null), ("reason", .str "")]),
  ("signature", unsigned)]

def canonicalJson : Json → String
  | .obj fields => (Json.obj (fields.filter (·.1 ≠ "signature"))).dumps
  | j => j.dumps

def signManifestPayload (payload : Json) (key : String) : String :=
  Sha256.hmacHexdigest (Sha256.utf8 key) (Sha256.utf8 (canonicalJson payload))

/-- The payload with its signature, when there is a key to sign with. -/
def signed (cfg : SecurityConfig) (payload : Json) : Json :=
  if cfg.manifestSigningKey = "" then payload
  else
    payload.update "signature" (Json.update "value" fun _ ↦
      .str (signManifestPayload payload cfg.manifestSigningKey))

def contentHash (manifest : Json) : String :=
  "sha256:" ++ Sha256.hexdigest (Sha256.utf8 manifest.pyStr)

/-! ## Serving -/

/-- A timestamp as `ORDER BY … DESC` ranks it: `NULL` comes before every time. -/
def nullsFirst : Option Int → WithTop Int
  | none => ⊤
  | some t => t

def getActiveEmergencyOverride (db : Db) : Option EmergencyOverride :=
  Rows.newest (fun o ↦ nullsFirst o.activatedAt)
    (db.emergencyOverrides.filter fun o ↦ o.level = "global" ∧ o.active)

def Db.generatedManifests (db : Db) (deviceId : String) : List DeliveryManifest :=
  db.deliveryManifests.filter fun m ↦ m.physicalDeviceId = deviceId ∧ m.status = .generated

/-- `ORDER BY generated_at DESC LIMIT 1` over the generated manifests of the device. -/
def Db.latestManifest (db : Db) (deviceId : String) : Option DeliveryManifest :=
  Rows.newest (fun m ↦ nullsFirst m.generatedAt) (db.generatedManifests deviceId)

structure ManifestMetadata where
  manifestId : String
  contentHash : String
  manifestVersion : Int
  generatedAt : Option String
  emergencyActive : Bool
  deriving DecidableEq, Repr

def getLatestManifestMetadata (db : Db) (deviceId : String) : Option ManifestMetadata :=
  (db.latestManifest deviceId).map fun m ↦ {
    manifestId := m.manifestId
    contentHash := m.contentHash
    manifestVersion := m.manifestVersion
    generatedAt := m.generatedAt.map isoText
    emergencyActive := ((getActiveEmergencyOverride db).map (·.active)).getD false }

/-- The manifest's surfaces, in slot order, joined with the surface table. -/
def Db.manifestSurfaces (db : Db) (m : DeliveryManifest) : List DisplaySurface :=
  m.surfaceIds.filterMap fun id ↦ Rows.get (·.id) id db.displaySurfaces

def servedItem (a : DeliveryManifestAsset) : Json := .obj [
  ("creative_asset_id", .str a.creativeAssetId),
  ("sha256_checksum", .str a.sha256Checksum),
  ("duration_ms", .ofOption .num a.durationMs),
  ("media_type", .str a.mediaType)]

def emergencyJson (o : Option EmergencyOverride) : Json := .obj [
  ("active", .bool ((o.map (·.active)).getD false)),
  ("activated_at", .ofOption .str ((o.bind (·.activatedAt)).map isoText)),
  ("reason", .str ((o.map (·.reason)).getD ""))]

/-- The payload that is rebuilt from a stored manifest. -/
def servedPayload (db : Db) (deviceId : String) (m : DeliveryManifest) : Json :=
  let campaign := db.campaign m.campaignId
  let device := Rows.get (·.id) deviceId db.physicalDevices
  let storeId := (device.map (·.storeId)).getD ""
  let store := if storeId = "" then none else Rows.get (·.id) storeId db.stores
  let deviceType := (device.filter (·.deviceTypeId ≠ "")).bind fun d ↦
    Rows.get (·.id) d.deviceTypeId db.deviceTypes
  let channel := deviceType.bind fun t ↦ Rows.get (·.id) t.channelId db.channels
  .obj [
    ("manifest_id", .str m.manifestId),
    ("manifest_version", .num m.manifestVersion),
    ("schema_version", .str "1.0"),
    ("device_id", .str deviceId),
    ("device_code", .str ((device.map (·.code)).getD "")),
    ("store_id", .str storeId),
    ("store_code", .str ((store.map (·.code)).getD "")),
    ("retailer_id", .str ((device.bind (·.retailerId)).getD "")),
    ("channel_type", .str ((channel.map (·.code)).getD "")),
    ("device_type", .str ((deviceType.map (·.code)).getD "")),
    ("display_surfaces", .arr ((db.manifestSurfaces m).map fun s ↦ surfaceJson (s.id, s.code))),
    ("playlist", .arr (m.assets.map servedItem)),
    ("media_files", .arr []),
    ("adapter_payload", .obj []),
    ("valid_from", .ofOption .str ((campaign.bind (·.startAt)).map isoText)),
    ("valid_to", .ofOption .str ((campaign.bind (·.endAt)).map isoText)),
    ("offline_ttl_hours", .num 168),
    ("fallback_rules", fallbackRules),
    ("emergency", emergencyJson (getActiveEmergencyOverride db)),
    ("signature", unsigned),
    ("generated_at", .ofOption .str (m.generatedAt.map isoText)),
    ("content_hash", .str m.contentHash)]

def getLatestManifestForDevice (cfg : SecurityConfig) (db : Db) (deviceId : String) :
    Option Json :=
  (db.latestManifest deviceId).map fun m ↦ signed cfg (servedPayload db deviceId m)

/-! ## What a manifest shows -/

/-- The text under a key. -/
def Json.textAt (key : String) (j : Json) : String :=
  match j.get key with
  | .str s => s
  | _ => ""

def Json.surfaceIds (manifest : Json) : List String :=
  (manifest.get "display_surfaces").items.map (Json.textAt "surface_id")

def Json.assetIds (manifest : Json) : List String :=
  (manifest.get "playlist").items.map (Json.textAt "creative_asset_id")

theorem find_update {key : String} {k : String} {f : Json → Json} (fields : List (String × Json))
    (hk : k ≠ key) :
    ((fields.map fun e ↦ (e.1, if e.1 = key then f e.2 else e.2)).find? (·.1 = k)).map (·.2) =
      (fields.find? (·.1 = k)).map (·.2) := by
  induction fields with
  | nil => rfl
  | cons e fields ih =>
      rw [List.map_cons, List.find?_cons, List.find?_cons]
      by_cases he : e.1 = k
      · have hne : e.1 ≠ key := he ▸ hk
        simp [he, hk]
      · simp only [he, decide_false]
        exact ih

theorem get_update {key k : String} {f : Json → Json} (j : Json) (hk : k ≠ key) :
    (j.update key f).get k = j.get k := by
  cases j with
  | obj fields =>
      exact congrArg (·.getD .null) (find_update fields hk)
  | _ => rfl

/-- Signing changes nothing but the signature. -/
theorem get_signed {cfg : SecurityConfig} {k : String} (payload : Json) (hk : k ≠ "signature") :
    (signed cfg payload).get k = payload.get k := by
  unfold signed
  split
  · rfl
  · exact get_update payload hk

theorem signed_surfaceIds (cfg : SecurityConfig) (payload : Json) :
    (signed cfg payload).surfaceIds = payload.surfaceIds := by
  unfold Json.surfaceIds
  rw [get_signed payload (by decide)]

theorem signed_assetIds (cfg : SecurityConfig) (payload : Json) :
    (signed cfg payload).assetIds = payload.assetIds := by
  unfold Json.assetIds
  rw [get_signed payload (by decide)]

theorem servedPayload_surfaceIds (db : Db) (deviceId : String) (m : DeliveryManifest) :
    (servedPayload db deviceId m).surfaceIds = (db.manifestSurfaces m).map (·.id) := by
  change ((db.manifestSurfaces m).map fun s ↦ surfaceJson (s.id, s.code)).map _ = _
  rw [List.map_map]
  rfl

theorem servedPayload_assetIds (db : Db) (deviceId : String) (m : DeliveryManifest) :
    (servedPayload db deviceId m).assetIds = m.assets.map (·.creativeAssetId) := by
  change (m.assets.map servedItem).map _ = _
  rw [List.map_map]
  rfl

/-- Surfaces that are in the table survive the join. -/
theorem manifestSurfaces_ids {db : Db} {m : DeliveryManifest}
    (h : ∀ s ∈ m.surfaceIds, s ∈ db.displaySurfaces.map (·.id)) :
    (db.manifestSurfaces m).map (·.id) = m.surfaceIds := by
  unfold Db.manifestSurfaces
  generalize m.surfaceIds = ids at h
  induction ids with
  | nil => rfl
  | cons s ids ih =>
      have hget := Rows.get_isSome.2 (h s List.mem_cons_self)
      cases hs : Rows.get (·.id) s db.displaySurfaces with
      | none =>
          rw [hs] at hget
          cases hget
      | some surface =>
          rw [List.filterMap_cons, hs]
          dsimp only
          rw [List.map_cons, ih fun t ht ↦ h t (List.mem_cons_of_mem s ht), Rows.get_key hs]

theorem latestManifest_mem {db : Db} {deviceId : String} {m : DeliveryManifest}
    (h : db.latestManifest deviceId = some m) :
    m ∈ db.deliveryManifests ∧ m.physicalDeviceId = deviceId ∧ m.status = .generated := by
  have hmem := Rows.newest_mem h
  unfold Db.generatedManifests at hmem
  simpa using hmem

end RetailMedia
