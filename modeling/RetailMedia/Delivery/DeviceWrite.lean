import RetailMedia.Delivery.GenerateSpec

/-! What generation writes for one device once its manifest has a version. -/

namespace RetailMedia

/-- What a device whose manifest is not stored yet adds to the table. -/
def CampaignData.addedRows (data : CampaignData) (cfg : SecurityConfig) (now version : Int)
    (fault : Option Fault) (t : String × List String) : List DeliveryManifest :=
  match fault with
  | none => [data.generatedRow cfg now version t]
  | some .building => []
  | some .marking => [(data.record cfg version t).markFailed generationFailure]
  | some .enqueueing => [(data.generatedRow cfg now version t).markFailed generationFailure]

/-- A device for which the `try` block is entered. -/
structure DeviceWrite where
  data : CampaignData
  target : String × List String
  version : Int
  now : Int
  fault : Option Fault

namespace DeviceWrite

def manifestId (w : DeviceWrite) : String := w.data.manifestId w.target

def rows (cfg : SecurityConfig) (w : DeviceWrite) : List DeliveryManifest :=
  w.data.addedRows cfg w.now w.version w.fault w.target

def outcome (cfg : SecurityConfig) (w : DeviceWrite) : Outcome :=
  match w.fault with
  | none => .generated w.manifestId (w.data.manifest cfg w.version w.target)
  | some _ => .failed

/-- The `try` block and its `except` branch. -/
def apply (cfg : SecurityConfig) (db : Db) (w : DeviceWrite) : Db :=
  let record := w.data.record cfg w.version w.target
  let recorded := createDeliveryManifestRecord db record
  let marked := markManifestGenerated recorded w.now w.manifestId record.contentHash
  match w.fault with
  | some .building => failDevice db w.data.campaign.id w.manifestId w.target.1
  | some .marking => failDevice recorded w.data.campaign.id w.manifestId w.target.1
  | some .enqueueing => failDevice marked w.data.campaign.id w.manifestId w.target.1
  | none => enqueueGenerated marked w.data.campaign.id w.manifestId w.target.1 w.version

end DeviceWrite

theorem generateForDevice_write {cfg : SecurityConfig} {now : Int} {data : CampaignData}
    {faults : String → Option Fault} {db : Db} {t : String × List String} {w : DeviceWrite}
    (hw : w = ⟨data, t, getNextManifestVersionForDevice db t.1, now, faults t.1⟩) :
    generateForDevice cfg now data faults db t =
      if db.deliveryManifests.any (·.manifestId = data.manifestId t) then (db, .skipped)
      else (w.apply cfg db, w.outcome cfg) := by
  subst hw
  unfold generateForDevice DeviceWrite.apply DeviceWrite.outcome DeviceWrite.manifestId
  dsimp only
  cases faults t.1 with
  | none => rfl
  | some fault => cases fault <;> rfl

theorem any_manifestId_iff {db : Db} {manifestId : String} :
    db.deliveryManifests.any (·.manifestId = manifestId) = true ↔ manifestId ∈ db.manifestIds := by
  unfold Db.manifestIds
  simp [List.any_eq_true, List.mem_map]

/-! ## The rows -/

section Rows

variable {cfg : SecurityConfig}

theorem rows_length (w : DeviceWrite) : (w.rows cfg).length ≤ 1 := by
  unfold DeviceWrite.rows CampaignData.addedRows
  split <;> simp

/-- Every row that is added belongs to the device, under the manifest's id and version. -/
theorem mem_rows {w : DeviceWrite} {r : DeliveryManifest} (h : r ∈ w.rows cfg) :
    r.manifestId = w.manifestId ∧ r.physicalDeviceId = w.target.1 ∧
      r.manifestVersion = w.version ∧
      (r.status = .generated ∧ r.generatedAt = some w.now ∧ w.fault = none ∨
        r.status = .failed ∧ w.fault ≠ none) := by
  unfold DeviceWrite.rows CampaignData.addedRows at h
  split at h
  · rename_i hf
    rw [List.mem_singleton.1 h]
    exact ⟨rfl, rfl, rfl, .inl ⟨rfl, rfl, hf⟩⟩
  · exact absurd h List.not_mem_nil
  · rename_i hf
    rw [List.mem_singleton.1 h, hf]
    exact ⟨rfl, rfl, rfl, .inr ⟨rfl, by simp⟩⟩
  · rename_i hf
    rw [List.mem_singleton.1 h, hf]
    exact ⟨rfl, rfl, rfl, .inr ⟨rfl, by simp⟩⟩

theorem rows_eq_nil {w : DeviceWrite} : w.rows cfg = [] ↔ w.fault = some .building := by
  unfold DeviceWrite.rows CampaignData.addedRows
  split <;> rename_i hf <;> simp [hf]

theorem enqueueOutboxEvent_manifests (db : Db) (eventType aggregateType aggregateId : String)
    (payload headers : Json) (partitionKey : Option String) :
    (enqueueOutboxEvent db eventType aggregateType aggregateId payload headers
      partitionKey).deliveryManifests = db.deliveryManifests := rfl

theorem failDevice_manifests {db : Db} {manifestId : String} (campaignId deviceId : String)
    (rows : List DeliveryManifest) (hid : manifestId ∉ db.manifestIds)
    (hrows : ∀ r ∈ rows, r.manifestId = manifestId ∧
      (r.status = .planned ∨ r.status = .generated)) :
    (failDevice (db.extended rows [] []) campaignId manifestId deviceId).deliveryManifests =
      db.deliveryManifests ++ rows.map (·.markFailed generationFailure) := by
  unfold failDevice
  rw [enqueueOutboxEvent_manifests, markFailed_new _ rows hid hrows]
  rfl

/-- The place of the fault decides what is left in the table. -/
theorem apply_manifests {db : Db} {w : DeviceWrite} (h : w.manifestId ∉ db.manifestIds) :
    (w.apply cfg db).deliveryManifests = db.deliveryManifests ++ w.rows cfg := by
  have hrecorded : createDeliveryManifestRecord db (w.data.record cfg w.version w.target) =
      db.extended [w.data.record cfg w.version w.target] [] [] := by
    unfold createDeliveryManifestRecord Db.extended
    simp
  have hmarked : markManifestGenerated (createDeliveryManifestRecord db
      (w.data.record cfg w.version w.target)) w.now w.manifestId
      (w.data.record cfg w.version w.target).contentHash =
      db.extended [w.data.generatedRow cfg w.now w.version w.target] [] [] :=
    markGenerated_new (w.data.record cfg w.version w.target) w.now _ h rfl
  unfold DeviceWrite.apply DeviceWrite.rows
  dsimp only
  cases w.fault with
  | none =>
      unfold enqueueGenerated
      rw [enqueueOutboxEvent_manifests, hmarked]
      rfl
  | some fault =>
      cases fault with
      | building =>
          have hfail := failDevice_manifests w.data.campaign.id w.target.1 [] h (by simp)
          rw [extended_nil] at hfail
          exact hfail
      | marking =>
          dsimp only
          rw [hrecorded]
          exact failDevice_manifests w.data.campaign.id w.target.1
            [w.data.record cfg w.version w.target] h
            fun r hr ↦ List.mem_singleton.1 hr ▸ ⟨rfl, .inl rfl⟩
      | enqueueing =>
          dsimp only
          rw [hmarked]
          exact failDevice_manifests w.data.campaign.id w.target.1
            [w.data.generatedRow cfg w.now w.version w.target] h
            fun r hr ↦ List.mem_singleton.1 hr ▸ ⟨rfl, .inr rfl⟩

/-! ## What the rows are told apart by -/

def DeliveryManifest.key (m : DeliveryManifest) : String × String × Int :=
  (m.manifestId, m.physicalDeviceId, m.manifestVersion)

def Db.manifestKeys (db : Db) : List (String × String × Int) := db.deliveryManifests.map (·.key)

theorem markManifestFailed_keys (db : Db) (manifestId lastError : String) :
    (markManifestFailed db manifestId lastError).manifestKeys = db.manifestKeys := by
  unfold markManifestFailed Db.manifestKeys
  rw [Rows.map_updateWhere]
  exact fun m ↦ rfl

theorem markManifestGenerated_keys (db : Db) (now : Int) (manifestId hash : String) :
    (markManifestGenerated db now manifestId hash).manifestKeys = db.manifestKeys := by
  unfold markManifestGenerated Db.manifestKeys
  rw [Rows.map_updateWhere]
  exact fun m ↦ rfl

/-- Marking a manifest does not change what it is told apart by, whichever rows are stored. -/
theorem apply_keys (cfg : SecurityConfig) (db : Db) (w : DeviceWrite) :
    (w.apply cfg db).manifestKeys = db.manifestKeys ++ (w.rows cfg).map (·.key) := by
  have hrecorded : (createDeliveryManifestRecord db
      (w.data.record cfg w.version w.target)).manifestKeys =
      db.manifestKeys ++ [(w.data.record cfg w.version w.target).key] :=
    List.map_append
  have hfail (d : Db) : (failDevice d w.data.campaign.id w.manifestId w.target.1).manifestKeys =
      d.manifestKeys := markManifestFailed_keys d w.manifestId generationFailure
  unfold DeviceWrite.apply DeviceWrite.rows
  dsimp only
  cases w.fault with
  | none =>
      show (markManifestGenerated _ _ _ _).manifestKeys = _
      rw [markManifestGenerated_keys, hrecorded]
      rfl
  | some fault =>
      cases fault with
      | building =>
          dsimp only
          rw [hfail]
          exact (List.append_nil _).symm
      | marking =>
          dsimp only
          rw [hfail, hrecorded]
          rfl
      | enqueueing =>
          dsimp only
          rw [hfail, markManifestGenerated_keys, hrecorded]
          rfl

end Rows

/-! ## Manifest ids stay unique -/

theorem manifestIds_eq (db : Db) : db.manifestIds = db.manifestKeys.map (·.1) := by
  unfold Db.manifestIds Db.manifestKeys
  rw [List.map_map]
  rfl

theorem generateForDevice_nodup (cfg : SecurityConfig) (now : Int) (data : CampaignData)
    (faults : String → Option Fault) {db : Db} (t : String × List String)
    (h : db.manifestIds.Nodup) :
    (generateForDevice cfg now data faults db t).1.manifestIds.Nodup := by
  rw [generateForDevice_write rfl]
  by_cases hstored : db.deliveryManifests.any (·.manifestId = data.manifestId t) = true
  · rw [if_pos hstored]
    exact h
  · rw [if_neg hstored, manifestIds_eq, apply_keys, List.map_append, ← manifestIds_eq]
    have hnew : data.manifestId t ∉ db.manifestIds := fun hid ↦ hstored (any_manifestId_iff.2 hid)
    let w : DeviceWrite :=
      ⟨data, t, getNextManifestVersionForDevice db t.1, now, faults t.1⟩
    show (db.manifestIds ++ ((w.rows cfg).map (·.key)).map (·.1)).Nodup
    -- one row at most, under the new id
    have hlen : (w.rows cfg).length ≤ 1 := rows_length w
    rcases hrows : w.rows cfg with _ | ⟨r, rest⟩
    · simpa using h
    · rw [hrows, List.length_cons] at hlen
      have hrest : rest = [] := List.length_eq_zero_iff.1 (by omega)
      have hr : r.manifestId = data.manifestId t :=
        (mem_rows (hrows ▸ List.mem_cons_self : r ∈ w.rows cfg)).1
      rw [hrest]
      exact Rows.nodup_concat h (show r.manifestId ∉ db.manifestIds from hr ▸ hnew)

theorem generate_nodup (cfg : SecurityConfig) {db : Db} (now : Int) (campaignId : String)
    (faults : String → Option Fault) (h : db.manifestIds.Nodup) :
    (generateManifestsForCampaign cfg db now campaignId faults).1.manifestIds.Nodup := by
  cases helig : (checkEligibility db now campaignId).eligible with
  | false =>
      rw [(generate_ineligible cfg faults helig).1]
      exact h
  | true =>
      obtain ⟨⟨c, hc, -⟩, -⟩ := checkEligibility_eligible helig
      by_cases htargets : (resolveTargets db campaignId).deviceSurfaces = []
      · unfold generateManifestsForCampaign
        dsimp only
        rw [helig, if_neg (by decide), if_pos htargets]
        exact h
      · obtain ⟨plans, hgen⟩ := generate_loop cfg faults helig htargets hc
        rw [hgen]
        have hids (d : Db) : (d.extended [] [] plans).manifestIds = d.manifestIds :=
          congrArg (List.map _) (List.append_nil _)
        show (Db.extended _ [] [] plans).manifestIds.Nodup
        rw [hids]
        have hstep (d : Db) (t : String × List String) (hd : d.manifestIds.Nodup) :=
          generateForDevice_nodup cfg now (loadCampaignData db c (resolveTargets db campaignId))
            faults t hd
        exact Rows.sweep_state hstep _ h

end RetailMedia
