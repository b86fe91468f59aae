import RetailMedia.Delivery.Consumer
import RetailMedia.Delivery.DeviceWrite

/-! What an acknowledged delivery event leaves for the devices of its campaign. -/

namespace RetailMedia

open JsonText (Text Value Limits loads codes)

/-- A row of the manifest that a device can be served from. -/
def Db.Delivered (db : Db) (manifestId : String) : Prop :=
  ∃ r ∈ db.deliveryManifests, r.manifestId = manifestId ∧ r.status = .generated

instance (db : Db) (manifestId : String) : Decidable (db.Delivered manifestId) :=
  inferInstanceAs (Decidable (∃ _ ∈ _, _))

/-! ## One device -/

section Device

variable (cfg : SecurityConfig) (now : Int) (data : CampaignData) (faults : String → Option Fault)

theorem generateForDevice_taken {db : Db} {t : String × List String}
    (h : data.manifestId t ∈ db.manifestIds) :
    generateForDevice cfg now data faults db t = (db, .skipped) := by
  rw [generateForDevice_write rfl, if_pos (any_manifestId_iff.2 h)]

/-- The write for the device with the version that the loop finds. -/
def CampaignData.deviceWrite (data : CampaignData) (now : Int) (faults : String → Option Fault)
    (db : Db) (t : String × List String) : DeviceWrite :=
  ⟨data, t, getNextManifestVersionForDevice db t.1, now, faults t.1⟩

theorem generateForDevice_new {db : Db} {t : String × List String}
    (h : data.manifestId t ∉ db.manifestIds) :
    (generateForDevice cfg now data faults db t).1.deliveryManifests =
      db.deliveryManifests ++ (data.deviceWrite now faults db t).rows cfg := by
  rw [generateForDevice_write rfl, if_neg (any_manifestId_iff.not.2 h)]
  exact apply_manifests h

/-- The target whose manifest gets the row of the id.  A fault before the row is created leaves
nothing, and a later target of the same id tries again. -/
def CampaignData.attempt (data : CampaignData) (faults : String → Option Fault)
    (targets : List (String × List String)) (manifestId : String) :
    Option (String × List String) :=
  targets.find? fun t ↦ data.manifestId t = manifestId ∧ faults t.1 ≠ some .building

/-- The manifest is stored as generated from before; or it is not stored, and the device that gets
its row meets no fault. -/
def CampaignData.Delivers (data : CampaignData) (db : Db) (faults : String → Option Fault)
    (targets : List (String × List String)) (manifestId : String) : Prop :=
  db.Delivered manifestId ∨ manifestId ∉ db.manifestIds ∧
    ∃ t, data.attempt faults targets manifestId = some t ∧ faults t.1 = none

theorem delivered_append {db db' : Db} {rows : List DeliveryManifest} {manifestId : String}
    (h : db'.deliveryManifests = db.deliveryManifests ++ rows) :
    db'.Delivered manifestId ↔ db.Delivered manifestId ∨
      ∃ r ∈ rows, r.manifestId = manifestId ∧ r.status = .generated := by
  unfold Db.Delivered
  rw [h]
  simp only [List.mem_append, or_and_right, exists_or]

theorem manifestIds_append {db db' : Db} {rows : List DeliveryManifest} {manifestId : String}
    (h : db'.deliveryManifests = db.deliveryManifests ++ rows) :
    manifestId ∈ db'.manifestIds ↔
      manifestId ∈ db.manifestIds ∨ manifestId ∈ rows.map (·.manifestId) := by
  unfold Db.manifestIds
  rw [h, List.map_append, List.mem_append]

theorem not_delivered_of_not_mem {db : Db} {manifestId : String}
    (h : manifestId ∉ db.manifestIds) : ¬ db.Delivered manifestId :=
  fun hd ↦ h (hd.choose_spec.2.1 ▸ List.mem_map_of_mem hd.choose_spec.1)

/-- A device leaves the manifests of other ids as they are. -/
theorem generateForDevice_otherId {db : Db} {t : String × List String} {manifestId : String}
    (h : data.manifestId t ≠ manifestId) :
    ((generateForDevice cfg now data faults db t).1.Delivered manifestId ↔
      db.Delivered manifestId) ∧
    (manifestId ∈ (generateForDevice cfg now data faults db t).1.manifestIds ↔
      manifestId ∈ db.manifestIds) := by
  by_cases hid : data.manifestId t ∈ db.manifestIds
  · rw [generateForDevice_taken cfg now data faults hid]
    exact ⟨Iff.rfl, Iff.rfl⟩
  · have hrows := generateForDevice_new cfg now data faults hid
    rw [delivered_append hrows, manifestIds_append hrows]
    refine ⟨or_iff_left ?_, or_iff_left ?_⟩
    · rintro ⟨r, hr, hrid, -⟩
      exact h ((mem_rows hr).1.symm.trans hrid)
    · intro hr
      obtain ⟨r, hr, hrid⟩ := List.mem_map.1 hr
      exact h ((mem_rows hr).1.symm.trans hrid)

/-- The device that is the first to store a row of the id decides what the row is. -/
theorem generateForDevice_firstRow {db : Db} {t : String × List String}
    (h : data.manifestId t ∉ db.manifestIds) (hfault : faults t.1 ≠ some .building) :
    ((generateForDevice cfg now data faults db t).1.Delivered (data.manifestId t) ↔
      faults t.1 = none) ∧
    data.manifestId t ∈ (generateForDevice cfg now data faults db t).1.manifestIds := by
  have hrows := generateForDevice_new cfg now data faults h
  rw [delivered_append hrows, manifestIds_append hrows,
    or_iff_right (not_delivered_of_not_mem h)]
  -- the write has one row, and what is told of it decides both sides
  obtain ⟨r, hr⟩ := List.exists_mem_of_ne_nil _ (rows_eq_nil.not.2 hfault :
    (data.deviceWrite now faults db t).rows cfg ≠ [])
  refine ⟨⟨?_, ?_⟩, .inr (List.mem_map.2 ⟨r, hr, (mem_rows hr).1⟩)⟩
  · rintro ⟨u, hu, -, hstatus⟩
    rcases (mem_rows hu).2.2.2 with hgenerated | hfailed
    · exact hgenerated.2.2
    · rw [hfailed.1] at hstatus
      cases hstatus
  · intro hnone
    rcases (mem_rows hr).2.2.2 with hgenerated | hfailed
    · exact ⟨r, hr, (mem_rows hr).1, hgenerated.1⟩
    · exact absurd hnone hfailed.2

/-- The loop over the devices, by induction on those that are still to come. -/
theorem generateLoop_delivered_iff (db : Db) (targets : List (String × List String))
    (manifestId : String) :
    (Rows.sweep (generateForDevice cfg now data faults) db targets).1.Delivered manifestId ↔
      data.Delivers db faults targets manifestId := by
  induction targets generalizing db with
  | nil => exact (or_iff_left fun h ↦ by simp [CampaignData.attempt] at h).symm
  | cons t targets ih =>
      rw [Rows.sweep_cons]
      show (Rows.sweep _ (generateForDevice cfg now data faults db t).1 targets).1.Delivered _ ↔ _
      rw [ih]
      unfold CampaignData.Delivers
      by_cases hid : data.manifestId t = manifestId
      · subst hid
        by_cases hstored : data.manifestId t ∈ db.manifestIds
        · rw [generateForDevice_taken cfg now data faults hstored]
          exact or_congr_right (by simp [hstored])
        · by_cases hfault : faults t.1 = some .building
          · have hrows := generateForDevice_new cfg now data faults hstored
            have hskip : data.attempt faults (t :: targets) (data.manifestId t) =
                data.attempt faults targets (data.manifestId t) :=
              List.find?_cons_of_neg (by simp [hfault])
            have hnone : (data.deviceWrite now faults db t).rows cfg = [] := rows_eq_nil.2 hfault
            rw [hnone] at hrows
            rw [delivered_append hrows, manifestIds_append hrows, hskip]
            simp
          · have hfirst := generateForDevice_firstRow cfg now data faults hstored hfault
            have hhead : data.attempt faults (t :: targets) (data.manifestId t) = some t :=
              List.find?_cons_of_pos (by simp [hfault])
            rw [hfirst.1, hhead]
            simp [hfirst.2, hstored, not_delivered_of_not_mem hstored]
      · have hother : ((generateForDevice cfg now data faults db t).1.Delivered manifestId ↔
            db.Delivered manifestId) ∧
            (manifestId ∈ (generateForDevice cfg now data faults db t).1.manifestIds ↔
              manifestId ∈ db.manifestIds) := generateForDevice_otherId cfg now data faults hid
        have hskip : data.attempt faults (t :: targets) manifestId =
            data.attempt faults targets manifestId :=
          List.find?_cons_of_neg (by simp [hid])
        rw [hother.1, hother.2, hskip]

end Device

/-! ## The call and the message -/

theorem generate_delivered_iff (cfg : SecurityConfig) {db : Db} {now : Int} {campaignId : String}
    (faults : String → Option Fault) {data : CampaignData}
    (helig : (checkEligibility db now campaignId).eligible = true)
    (hdata : db.campaignData campaignId = some data)
    (htargets : (resolveTargets db campaignId).deviceSurfaces ≠ []) (manifestId : String) :
    (generateManifestsForCampaign cfg db now campaignId faults).1.Delivered manifestId ↔
      data.Delivers db faults (resolveTargets db campaignId).deviceSurfaces manifestId := by
  obtain ⟨c, hc, -⟩ := (checkEligibility_eligible helig).1
  obtain ⟨plans, hplans⟩ := generate_loop cfg faults helig htargets hc
  have hload : loadCampaignData db c (resolveTargets db campaignId) = data := by
    unfold Db.campaignData at hdata
    rw [hc] at hdata
    exact Option.some.inj hdata
  rw [hload] at hplans
  have hmanifests := congrArg (fun r ↦ r.1.deliveryManifests) hplans
  unfold Db.Delivered
  rw [hmanifests]
  show (∃ r ∈ (Rows.sweep _ db _).1.deliveryManifests ++ [], _) ↔ _
  rw [List.append_nil]
  exact generateLoop_delivered_iff cfg now data faults db _ manifestId

/-- The body is a delivery event of the campaign. -/
def Message.Triggers (limits : Limits) (m : Message) (campaignId : String) : Prop :=
  campaignId ≠ "" ∧ ∃ fields, loads limits m.body = .ok (.obj fields) ∧
    (∃ eventType ∈ deliveryEventTypes,
      Dict.getD fields (codes "event_type") (.str []) = .str (codes eventType)) ∧
    storedText (Dict.getD fields (codes "aggregate_id") .null) = some campaignId

/-- Something around the message raises before it is acknowledged. -/
def Message.Failing (m : Message) : Prop :=
  m.setupRaises = true ∨ m.interrupted = true ∨ m.commitRaises = true ∨ m.signalRaises = true

/-- The broker takes the `ack`. -/
def Acknowledged (cfg : SecurityConfig) (limits : Limits) (c : Consumer) (m : Message) : Prop :=
  .ack ∈ (processOne cfg limits c m).signals ∧ m.signalRaises = false

/-- Every device that the call resolves has its manifest, under the id that the call computes. -/
def AllDelivered (before after : Db) (campaignId : String) : Prop :=
  ∀ data, before.campaignData campaignId = some data →
    ∀ t ∈ (resolveTargets before campaignId).deviceSurfaces, after.Delivered (data.manifestId t)

section Message

variable {cfg : SecurityConfig} {limits : Limits} {c : Consumer} {m : Message}
  {campaignId : String}

theorem handleEnvelope_triggers (cfg : SecurityConfig) (db : Db)
    (h : m.Triggers limits campaignId) :
    ∃ fields, loads limits m.body = .ok (.obj fields) ∧
      handleEnvelope cfg db m (.obj fields) =
        if m.interrupted then .ok (db, false)
        else .ok ((generateManifestsForCampaign cfg db m.now campaignId m.faults).1, true) := by
  obtain ⟨hne, fields, hload, ⟨eventType, htype, hget⟩, hstored⟩ := h
  have htruthy : (Dict.getD fields (codes "aggregate_id") Value.null).truthy = true := by
    cases hv : Dict.getD fields (codes "aggregate_id") Value.null with
    | str s =>
        have hs : s ≠ [] := by
          intro hnil
          rw [hv, hnil] at hstored
          exact hne (Option.some.inj hstored).symm
        simpa [Value.truthy] using hs
    | _ =>
        rw [hv] at hstored
        cases hstored
  have htrigger : deliveryTrigger (.str (codes eventType)) = .ok true := by
    simp only [deliveryTrigger, List.contains_eq_mem]
    rw [decide_eq_true (List.mem_map_of_mem htype)]
  refine ⟨fields, hload, ?_⟩
  unfold handleEnvelope extractCampaignId
  simp only [envelopeGet, hget, htruthy, if_true, htrigger, hstored]

theorem processOne_triggers (h : m.Triggers limits campaignId) (hok : ¬ m.Failing) :
    (processOne cfg limits c m).consumer.db =
      (generateManifestsForCampaign cfg c.db m.now campaignId m.faults).1 ∧
    Acknowledged cfg limits c m := by
  have hquiet : m.setupRaises = false ∧ m.interrupted = false ∧ m.commitRaises = false ∧
      m.signalRaises = false := by
    simpa [Message.Failing, not_or] using hok
  obtain ⟨fields, hload, hhandle⟩ := handleEnvelope_triggers cfg c.db h
  have hparse : parseEnvelope limits m.body = .ok (.obj fields) := by simp [parseEnvelope, hload]
  have hone : processOne cfg limits c m = safeAck
      { c with db := (generateManifestsForCampaign cfg c.db m.now campaignId m.faults).1 } m := by
    unfold processOne
    simp [hparse, hquiet, hhandle]
  rw [Acknowledged, hone]
  simp [safeAck, hquiet]

/-- What raises before the commit or in the `ack` leaves the message unacknowledged. -/
theorem not_acknowledged_of_failing (h : m.Triggers limits campaignId) (hfail : m.Failing) :
    ¬ Acknowledged cfg limits c m := by
  obtain ⟨fields, hload, hhandle⟩ := handleEnvelope_triggers cfg c.db h
  have hparse : parseEnvelope limits m.body = .ok (.obj fields) := by simp [parseEnvelope, hload]
  have hlog : unhandledError c m (.obj fields) = safeNak c m none := rfl
  intro hack
  rcases hfail with hsetup | hinterrupted | hcommit | hsignal
  · have hnone := hack.1
    simp [processOne, hparse, hsetup] at hnone
  · have hnak := hack.1
    simp only [processOne, hparse, hhandle, hinterrupted, if_true] at hnak
    split at hnak <;> simp [safeNak] at hnak
  · have hnak := hack.1
    simp only [processOne, hparse, hhandle, hcommit, hlog, if_true] at hnak
    split at hnak
    · simp at hnak
    · split at hnak
      · simp [safeNak] at hnak
      · simp [safeNak] at hnak
      · simp [safeNak] at hnak
  · rw [hack.2] at hsignal
    cases hsignal

/-- An acknowledged delivery event has left every resolved device its manifest exactly if nothing
was acknowledged, or each manifest was stored as generated before, or its first device to store a
row met no fault. -/
theorem acknowledged_delivered_iff (cfg : SecurityConfig) (limits : Limits) (c : Consumer)
    (m : Message) (campaignId : String) (htriggers : m.Triggers limits campaignId)
    (helig : (checkEligibility c.db m.now campaignId).eligible = true) :
    (Acknowledged cfg limits c m →
      AllDelivered c.db (processOne cfg limits c m).consumer.db campaignId) ↔
    m.Failing ∨ ∀ data, c.db.campaignData campaignId = some data →
      ∀ t ∈ (resolveTargets c.db campaignId).deviceSurfaces,
        data.Delivers c.db m.faults (resolveTargets c.db campaignId).deviceSurfaces
          (data.manifestId t) := by
  by_cases hfail : m.Failing
  · exact iff_of_true (fun hack ↦ absurd hack (not_acknowledged_of_failing htriggers hfail))
      (.inl hfail)
  · have hone : (processOne cfg limits c m).consumer.db =
          (generateManifestsForCampaign cfg c.db m.now campaignId m.faults).1 ∧
        Acknowledged cfg limits c m := processOne_triggers htriggers hfail
    rw [or_iff_right hfail, hone.1]
    have hcall : AllDelivered c.db
        (generateManifestsForCampaign cfg c.db m.now campaignId m.faults).1 campaignId ↔
        ∀ data, c.db.campaignData campaignId = some data →
          ∀ t ∈ (resolveTargets c.db campaignId).deviceSurfaces,
            data.Delivers c.db m.faults (resolveTargets c.db campaignId).deviceSurfaces
              (data.manifestId t) := by
      refine forall_congr' fun data ↦ forall_congr' fun hdata ↦ forall_congr' fun t ↦
        forall_congr' fun ht ↦ ?_
      exact generate_delivered_iff cfg m.faults helig hdata (List.ne_nil_of_mem ht) _
    rw [← hcall]
    exact ⟨fun h ↦ h hone.2, fun h _ ↦ h⟩

end Message

/-! An approval whose only device cannot be built. -/

def approvedFields : List (Text × Value) := [
  (codes "event_type", .str (codes "campaign.approved")), (codes "aggregate_id", .str (codes "a"))]

def approvedBody : List UInt8 := (codes
  "\x7b\"event_type\": \"campaign.approved\", \"aggregate_id\": \"a\"\x7d").map UInt8.ofNat

def approvedMessage (faults : String → Option Fault) : Message where
  body := approvedBody
  faults := faults

theorem approvedMessage_triggers (faults : String → Option Fault) :
    (approvedMessage faults).Triggers { depth := 1000 } "a" := by
  have hload : loads { depth := 1000 } approvedBody = .ok (.obj approvedFields) := by
    decide +kernel
  refine ⟨by decide, approvedFields, hload, ⟨"campaign.approved", by decide, rfl⟩, ?_⟩
  exact storedText_codes (s := "a") (by simp)

theorem unbuilt_acknowledged :
    ¬ ∀ cfg limits c (m : Message) campaignId, m.Triggers limits campaignId →
      (checkEligibility c.db m.now campaignId).eligible = true →
      Acknowledged cfg limits c m →
      AllDelivered c.db (processOne cfg limits c m).consumer.db campaignId := by
  intro h
  have htriggers := approvedMessage_triggers fun _ ↦ some .building
  have hquiet : ¬ (approvedMessage fun _ ↦ some .building).Failing := by
    simp [Message.Failing, approvedMessage]
  have hone := @processOne_triggers {} _ { db := demoDeliveryDb } _ _ htriggers hquiet
  have hall := h {} { depth := 1000 } { db := demoDeliveryDb } _ "a" htriggers (by decide +kernel)
    hone.2
  rw [hone.1] at hall
  have hempty : (generateManifestsForCampaign {} demoDeliveryDb 0 "a"
      fun _ ↦ some .building).1.deliveryManifests = [] := by decide +kernel
  have htarget : ("d1", ["s1"]) ∈ (resolveTargets demoDeliveryDb "a").deviceSurfaces := by
    decide +kernel
  obtain ⟨data, hdata⟩ : ∃ data, demoDeliveryDb.campaignData "a" = some data :=
    Option.isSome_iff_exists.1 (by decide +kernel)
  obtain ⟨r, hr, -⟩ := hall data hdata _ htarget
  change r ∈ (generateManifestsForCampaign {} demoDeliveryDb 0 "a"
    fun _ ↦ some .building).1.deliveryManifests at hr
  rw [hempty] at hr
  exact absurd hr List.not_mem_nil

theorem approved_delivered :
    Acknowledged {} { depth := 1000 } { db := demoDeliveryDb } (approvedMessage fun _ ↦ none) ∧
      AllDelivered demoDeliveryDb (processOne {} { depth := 1000 } { db := demoDeliveryDb }
        (approvedMessage fun _ ↦ none)).consumer.db "a" := by
  have htriggers := approvedMessage_triggers fun _ ↦ none
  have hack : Acknowledged {} { depth := 1000 } { db := demoDeliveryDb }
      (approvedMessage fun _ ↦ none) := by
    apply (processOne_triggers htriggers _).2
    simp [Message.Failing, approvedMessage]
  refine ⟨hack, (acknowledged_delivered_iff {} { depth := 1000 } { db := demoDeliveryDb }
    (approvedMessage fun _ ↦ none) "a" htriggers (by decide +kernel)).2 ?_ hack⟩
  refine .inr fun data _ t ht ↦ .inr ⟨List.not_mem_nil, ?_⟩
  -- no device has a fault, so the first one of the id is as good as `t` itself
  have hsome : (data.attempt (fun _ ↦ none) (resolveTargets demoDeliveryDb "a").deviceSurfaces
      (data.manifestId t)).isSome := by
    apply List.find?_isSome.2
    exact ⟨t, ht, by simp⟩
  obtain ⟨u, hu⟩ := Option.isSome_iff_exists.1 hsome
  exact ⟨u, hu, rfl⟩

end RetailMedia
