import RetailMedia.Delivery.DeviceWrite
import RetailMedia.Lib.Interleaving

/-! Concurrent generation calls, one transaction each, and the players of the devices that are
served the committed manifests. -/

namespace RetailMedia

open Interleaving

/-! ## The call as a transaction -/

/-- What follows the loop over the devices. -/
inductive Ending
  | unchanged
  | noTargets
  | planned (versionHash reason : String)

/-- Where the call is.  The tables that eligibility, targets and campaign data are read from are
written by no generation call, so one statement reads them all. -/
inductive GeneratePhase
  | begin
  | looping (data : CampaignData) (todo : List (String × List String))
  | versioning (data : CampaignData) (t : String × List String) (todo : List (String × List String))
  | writing (data : CampaignData) (t : String × List String) (todo : List (String × List String))
      (version : Int)
  | ending (last : Ending)

/-- `stamps` is what `datetime.now()` gives when the manifest of a device is marked: the clocks of
the workers need not agree.  `writes` is what the session has flushed. -/
structure GenerateTx where
  campaignId : String
  now : Int
  stamps : String → Int
  faults : String → Option Fault
  phase : GeneratePhase := .begin
  targets : TargetResolutionResult := {}
  writes : List DeviceWrite := []
  outcomes : List Outcome := []

namespace GenerateTx

variable (cfg : SecurityConfig)

/-- The committed tables with the session's own writes. -/
def view (db : Db) (x : GenerateTx) : Db := x.writes.foldl (fun d w ↦ w.apply cfg d) db

def rows (x : GenerateTx) : List DeliveryManifest := x.writes.flatMap (·.rows cfg)

def begun (db : Db) (x : GenerateTx) : GenerateTx :=
  let targets := resolveTargets db x.campaignId
  if ¬ (checkEligibility db x.now x.campaignId).eligible then { x with phase := .ending .unchanged }
  else if targets.deviceSurfaces = [] then { x with phase := .ending .noTargets }
  else
    match db.campaignData x.campaignId with
    | none => { x with phase := .ending .unchanged }
    | some data => { x with phase := .looping data targets.deviceSurfaces, targets := targets }

def planned (data : CampaignData) (x : GenerateTx) : Ending :=
  let result := generationResult x.campaignId x.targets x.outcomes
  if result.manifestCount > 0 then
    .planned (computeCampaignVersionHash data.version) (planReason result)
  else .unchanged

/-- The statement that the call runs next, on the committed tables of that moment. -/
def step (db : Db) (x : GenerateTx) : GenerateTx :=
  match x.phase with
  | .begin => x.begun db
  | .looping data [] => { x with phase := .ending (x.planned data) }
  | .looping data (t :: todo) =>
      if (x.view cfg db).deliveryManifests.any (·.manifestId = data.manifestId t) then
        { x with phase := .looping data todo, outcomes := x.outcomes ++ [.skipped] }
      else { x with phase := .versioning data t todo }
  | .versioning data t todo =>
      { x with phase :=
          .writing data t todo (getNextManifestVersionForDevice (x.view cfg db) t.1) }
  | .writing data t todo version =>
      let w : DeviceWrite := ⟨data, t, version, x.stamps t.1, x.faults t.1⟩
      { x with
        phase := .looping data todo
        writes := x.writes ++ [w]
        outcomes := x.outcomes ++ [w.outcome cfg] }
  | .ending _ => x

def finish (db : Db) (campaignId : String) : Ending → Db
  | .unchanged => db
  | .noTargets =>
      enqueueOutboxEvent db "delivery.manifest.failed" "campaign" campaignId
        (.obj [("campaign_id", .str campaignId),
          ("reason", .str "No targets resolved to active surfaces/devices")]) (.obj []) none
  | .planned versionHash reason => createDeliveryPlan db campaignId versionHash reason

/-- The commit; the unique index on `manifest_id` refuses a manifest that is stored by now.  Ids of
different campaigns are different, so calls for them are not refused. -/
def commit (db : Db) (x : GenerateTx) (last : Ending) : Option Db :=
  if ∃ w ∈ x.writes, w.manifestId ∈ db.manifestIds then none
  else some (finish (x.view cfg db) x.campaignId last)

end GenerateTx

/-! ## Players -/

/-- The version guard of `apply_manifest`; no served manifest has an `emergency_flag`. -/
def acceptsVersion (current : Option DeliveryManifest) (m : DeliveryManifest) : Bool :=
  match current with
  | none => true
  | some c => c.manifestVersion < m.manifestVersion

/-- `applied` is the manifest that the player of a device runs. -/
structure World where
  db : Db
  applied : String → Option DeliveryManifest

def World.poll (w : World) (deviceId : String) : World :=
  match w.db.latestManifest deviceId with
  | none => w
  | some m =>
      if acceptsVersion (w.applied deviceId) m then
        { w with applied := Function.update w.applied deviceId (some m) }
      else w

/-! ## The system -/

inductive VersionTx
  | generate (x : GenerateTx)
  | poll (deviceId : String)

def versionStmt (cfg : SecurityConfig) : VersionTx → Stmt Empty World VersionTx
  | .generate x =>
      match x.phase with
      | .ending last => .commit fun w ↦ (x.commit cfg w.db last).map fun db ↦ { w with db := db }
      | _ => .run fun w ↦ .generate (x.step cfg w.db)
  | .poll deviceId => .commit fun w ↦ some (w.poll deviceId)

/-! ## A call alone -/

/-- The steps of a call that no commit comes between. -/
inductive GenerateTx.Alone (cfg : SecurityConfig) (db : Db) : GenerateTx → GenerateTx → Prop
  | here (x : GenerateTx) : Alone cfg db x x
  | step {x y : GenerateTx} (h : Alone cfg db (x.step cfg db) y) : Alone cfg db x y

theorem GenerateTx.alone_trans {cfg : SecurityConfig} {db : Db} {x y z : GenerateTx}
    (h : Alone cfg db x y) (h' : Alone cfg db y z) : Alone cfg db x z := by
  induction h with
  | here => exact h'
  | step _ ih => exact .step (ih h')

/-- The loop of a call alone is the loop over the devices. -/
theorem GenerateTx.alone_loop (cfg : SecurityConfig) (db : Db) (data : CampaignData) (now : Int)
    (todo : List (String × List String)) (x : GenerateTx) (hphase : x.phase = .looping data todo)
    (hstamps : x.stamps = fun _ ↦ now) :
    ∃ y, Alone cfg db x y ∧ y.phase = .looping data [] ∧ y.campaignId = x.campaignId ∧
      y.targets = x.targets ∧
      y.view cfg db = (Rows.sweep (generateForDevice cfg now data x.faults) (x.view cfg db) todo).1 ∧
      y.outcomes = x.outcomes ++
        (Rows.sweep (generateForDevice cfg now data x.faults) (x.view cfg db) todo).2 := by
  induction todo generalizing x with
  | nil => exact ⟨x, .here x, hphase, rfl, rfl, rfl, (List.append_nil _).symm⟩
  | cons t todo ih =>
      let w : DeviceWrite := ⟨data, t, getNextManifestVersionForDevice (x.view cfg db) t.1,
        x.stamps t.1, x.faults t.1⟩
      have hw : w = ⟨data, t, getNextManifestVersionForDevice (x.view cfg db) t.1, now,
          x.faults t.1⟩ := by
        show DeviceWrite.mk data t _ (x.stamps t.1) _ = _
        rw [hstamps]
      rw [Rows.sweep_cons, generateForDevice_write hw]
      by_cases hstored : (x.view cfg db).deliveryManifests.any (·.manifestId = data.manifestId t)
      · rw [if_pos hstored]
        have hstep : x.step cfg db =
            { x with phase := .looping data todo, outcomes := x.outcomes ++ [.skipped] } := by
          unfold step
          rw [hphase]
          exact if_pos hstored
        obtain ⟨y, hy, hlast, hid, htargets, hview, houtcomes⟩ := ih (x.step cfg db)
          (by rw [hstep]) (by rw [hstep]; exact hstamps)
        rw [hstep] at hid htargets hview houtcomes
        refine ⟨y, .step hy, hlast, hid, htargets, hview, ?_⟩
        rw [houtcomes]
        exact List.append_assoc _ _ _
      · rw [if_neg hstored]
        let z : GenerateTx := { x with
          phase := .looping data todo
          writes := x.writes ++ [w]
          outcomes := x.outcomes ++ [w.outcome cfg] }
        have hfirst : x.step cfg db = { x with phase := .versioning data t todo } := by
          unfold step
          rw [hphase]
          exact if_neg hstored
        -- the check, the version and the write
        have hsteps : ((x.step cfg db).step cfg db).step cfg db = z := by
          rw [hfirst]
          rfl
        have hreach : Alone cfg db x z := .step (.step (.step (hsteps ▸ .here _)))
        have hz : z.view cfg db = w.apply cfg (x.view cfg db) := List.foldl_concat ..
        obtain ⟨y, hy, hlast, hid, htargets, hview, houtcomes⟩ := ih z rfl hstamps
        rw [hz] at hview houtcomes
        refine ⟨y, alone_trans hreach hy, hlast, hid, htargets, hview, ?_⟩
        rw [houtcomes]
        exact List.append_assoc _ _ _

/-- A call that runs alone commits what the sequential call leaves. -/
theorem GenerateTx.alone_commits (cfg : SecurityConfig) (db : Db) (now : Int)
    (campaignId : String) (faults : String → Option Fault) :
    ∃ y last, Alone cfg db
        { campaignId := campaignId, now := now, stamps := fun _ ↦ now, faults := faults } y ∧
      y.phase = .ending last ∧
      finish (y.view cfg db) y.campaignId last =
        (generateManifestsForCampaign cfg db now campaignId faults).1 := by
  let x : GenerateTx :=
    { campaignId := campaignId, now := now, stamps := fun _ ↦ now, faults := faults }
  have hbegin : x.step cfg db = x.begun db := rfl
  unfold generateManifestsForCampaign
  dsimp only
  by_cases helig : (checkEligibility db now campaignId).eligible = true
  · rw [if_neg (not_not.2 helig)]
    by_cases htargets : (resolveTargets db campaignId).deviceSurfaces = []
    · rw [if_pos htargets]
      refine ⟨x.begun db, .noTargets, .step (.here _), ?_⟩
      unfold begun
      rw [if_neg (not_not.2 helig), if_pos htargets]
      exact ⟨rfl, rfl⟩
    · rw [if_neg htargets]
      cases hc : db.campaign campaignId with
      | none =>
          refine ⟨x.begun db, .unchanged, .step (.here _), ?_⟩
          have hdata : db.campaignData campaignId = none := by
            unfold Db.campaignData
            rw [hc]
            rfl
          unfold begun
          rw [if_neg (not_not.2 helig), if_neg htargets, hdata]
          exact ⟨rfl, rfl⟩
      | some c =>
          have hdata : db.campaignData campaignId =
              some (loadCampaignData db c (resolveTargets db campaignId)) := by
            unfold Db.campaignData
            rw [hc]
            rfl
          have hstart : x.begun db = { x with
              phase := .looping (loadCampaignData db c (resolveTargets db campaignId))
                (resolveTargets db campaignId).deviceSurfaces
              targets := resolveTargets db campaignId } := by
            unfold begun
            rw [if_neg (not_not.2 helig), if_neg htargets, hdata]
          obtain ⟨y, hy, hlast, hid, htargets', hview, houtcomes⟩ :=
            alone_loop cfg db (loadCampaignData db c (resolveTargets db campaignId)) now
              (resolveTargets db campaignId).deviceSurfaces (x.begun db) (by rw [hstart])
              (by rw [hstart])
          rw [hstart] at hid htargets' hview houtcomes
          have hend : y.step cfg db = { y with phase := .ending (y.planned
              (loadCampaignData db c (resolveTargets db campaignId))) } := by
            unfold step
            rw [hlast]
          have hsame : (y.step cfg db).view cfg db = y.view cfg db := by rw [hend]; rfl
          refine ⟨y.step cfg db, y.planned (loadCampaignData db c (resolveTargets db campaignId)),
            .step (alone_trans hy (.step (.here _))), by rw [hend], ?_⟩
          rw [hsame, hview, hend]
          unfold planned
          dsimp only
          rw [hid, htargets', houtcomes]
          show finish (Rows.sweep (generateForDevice cfg now _ faults) db _).1 campaignId
            (if (generationResult campaignId _ ([] ++ (Rows.sweep _ db _).2)).manifestCount > 0
              then _ else _) = _
          rw [List.nil_append]
          by_cases hcount : (generationResult campaignId (resolveTargets db campaignId)
            (Rows.sweep (generateForDevice cfg now
              (loadCampaignData db c (resolveTargets db campaignId)) faults) db
              (resolveTargets db campaignId).deviceSurfaces).2).manifestCount > 0
          · rw [if_pos hcount, if_pos hcount]
            rfl
          · rw [if_neg hcount, if_neg hcount]
            rfl
  · rw [if_pos helig]
    refine ⟨x.begun db, .unchanged, .step (.here _), ?_⟩
    unfold begun
    rw [if_pos helig]
    exact ⟨rfl, rfl⟩

end RetailMedia
