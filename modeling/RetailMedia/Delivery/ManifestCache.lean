import RetailMedia.Delivery.DeviceWrite

/-! The manifest endpoint of the device gateway: the ETag and the Redis entry of a device against
the manifest that is assembled from the tables. -/

namespace RetailMedia

/-! ## Emergency overrides -/

def activateEmergencyOverride (db : Db) (now : Int) (reason : String) : Except String Db :=
  match getActiveEmergencyOverride db with
  | some _ => .error "Emergency mode is already active"
  | none => .ok { db with emergencyOverrides := db.emergencyOverrides ++
      [{ level := "global", active := true, reason := reason, activatedAt := some now }] }

/-- The rows have no id here: of rows that agree in every column, either may be the one. -/
def deactivateEmergencyOverride (db : Db) : Except String Db :=
  match getActiveEmergencyOverride db with
  | none => .error "No active emergency mode to deactivate"
  | some o => .ok { db with
      emergencyOverrides := db.emergencyOverrides.replace o { o with active := false } }

/-! ## The endpoint -/

def ManifestMetadata.runtimeEtag (info : ManifestMetadata) : String :=
  info.contentHash ++ ":em:" ++ (if info.emergencyActive then "True" else "False")

/-- The value of the `ETag` header. -/
def quoted (etag : String) : String := "\"" ++ etag ++ "\""

def isQuote (c : Char) : Bool := c.toNat = 34

/-- `text.strip('"')`. -/
def stripQuotes (s : String) : String :=
  String.ofList (((s.toList.dropWhile isQuote).reverse.dropWhile isQuote).reverse)

def etagMatches (info : ManifestMetadata) (ifNoneMatch : String) : Bool :=
  stripQuotes ifNoneMatch ≠ "" ∧ info.runtimeEtag = stripQuotes ifNoneMatch

def cacheUsable (info : ManifestMetadata) (cached : Json) : Bool :=
  (cached.get "emergency").get "active" = .bool info.emergencyActive ∧
    cached.get "content_hash" = .str info.contentHash

inductive ManifestResponse
  | notFound
  | notModified (etag : String)
  | fromCache (etag : String) (body : Json)
  | assembled (etag : String) (body : Json)
  deriving DecidableEq

/-- `cached` is the Redis entry of the device; what is assembled is written to it. -/
def getLatestManifest (cfg : SecurityConfig) (db : Db) (deviceId ifNoneMatch : String)
    (cached : Option Json) : ManifestResponse :=
  match getLatestManifestMetadata db deviceId with
  | none => .notFound
  | some info =>
      if etagMatches info ifNoneMatch then .notModified (quoted info.runtimeEtag)
      else
        match cached.filter (cacheUsable info) with
        | some body => .fromCache (quoted info.runtimeEtag) body
        | none =>
            match getLatestManifestForDevice cfg db deviceId with
            | none => .notFound
            | some manifest => .assembled (quoted info.runtimeEtag) manifest

/-! ## The gateway and its devices -/

/-- What a body is assembled from, besides the tables that no step here writes. -/
structure BodySource where
  manifest : DeliveryManifest
  emergency : Option EmergencyOverride

def Db.bodySource (db : Db) (deviceId : String) : Option BodySource :=
  (db.latestManifest deviceId).map fun m ↦ ⟨m, getActiveEmergencyOverride db⟩

structure Received where
  etag : String
  body : Json

/-- `received` is the last 200 response of each device, and `built` what the last body that was
assembled for the device was assembled from; no answer depends on `built`. -/
structure Gateway where
  db : Db
  cache : String → Option Json := fun _ ↦ none
  received : String → Option Received := fun _ ↦ none
  built : String → Option BodySource := fun _ ↦ none

inductive GatewayOp
  | generate (now : Int) (campaignId : String) (faults : String → Option Fault)
  | activate (now : Int) (reason : String)
  | deactivate
  | request (deviceId : String) (repeats : Bool)

namespace Gateway

variable (cfg : SecurityConfig) (s : Gateway)

/-- The `If-None-Match` header of a device that repeats its last ETag, or sends none. -/
def ifNoneMatch (deviceId : String) (repeats : Bool) : String :=
  if repeats then ((s.received deviceId).map (·.etag)).getD "" else ""

def respond (deviceId : String) (repeats : Bool) : ManifestResponse :=
  getLatestManifest cfg s.db deviceId (s.ifNoneMatch deviceId repeats) (s.cache deviceId)

def request (deviceId : String) (repeats : Bool) : Gateway :=
  match s.respond cfg deviceId repeats with
  | .notFound => s
  -- the device keeps what it has, under the ETag it has sent
  | .notModified _ => s
  | .fromCache etag body =>
      { s with received := Function.update s.received deviceId (some ⟨etag, body⟩) }
  | .assembled etag body =>
      { s with
        cache := Function.update s.cache deviceId (some body)
        received := Function.update s.received deviceId (some ⟨etag, body⟩)
        built := Function.update s.built deviceId (s.db.bodySource deviceId) }

/-- A `ValueError` leaves the tables as they are. -/
def written (result : Except String Db) : Gateway :=
  match result with
  | .ok db => { s with db := db }
  | .error _ => s

def step : GatewayOp → Gateway
  | .generate now campaignId faults =>
      { s with db := (generateManifestsForCampaign cfg s.db now campaignId faults).1 }
  | .activate now reason => s.written (activateEmergencyOverride s.db now reason)
  | .deactivate => s.written (deactivateEmergencyOverride s.db)
  | .request deviceId repeats => s.request cfg deviceId repeats

/-- What is served from the cache is what the tables give, and so is what a 304 refers to. -/
def Coherent : GatewayOp → Prop
  | .request deviceId repeats =>
      match s.respond cfg deviceId repeats with
      | .fromCache _ body => getLatestManifestForDevice cfg s.db deviceId = some body
      | .notModified _ =>
          getLatestManifestForDevice cfg s.db deviceId = (s.received deviceId).map (·.body)
      | _ => True
  | _ => True

instance (op : GatewayOp) : Decidable (s.Coherent cfg op) := by
  unfold Coherent
  split
  · split <;> infer_instance
  · infer_instance

end Gateway

/-! ## When the two paths agree -/

def EmergencyOverride.shown (o : EmergencyOverride) : String × Option String :=
  (o.reason, o.activatedAt.map isoText)

/-- The same manifest, under an override with the same reason and time, or under none. -/
def BodySource.Agrees (a b : BodySource) : Prop :=
  a.manifest.manifestId = b.manifest.manifestId ∧
    a.emergency.map (·.shown) = b.emergency.map (·.shown)

/-- The request is answered without assembling the manifest. -/
def FastPath (db : Db) (deviceId ifNoneMatch : String) (cached : Option Json) : Prop :=
  ∃ info, getLatestManifestMetadata db deviceId = some info ∧
    (etagMatches info ifNoneMatch ∨ ∃ body, cached = some body ∧ cacheUsable info body)

def Gateway.StillCurrent (s : Gateway) : GatewayOp → Prop
  | .request deviceId repeats =>
      FastPath s.db deviceId (s.ifNoneMatch deviceId repeats) (s.cache deviceId) →
        ∃ a b, s.built deviceId = some a ∧ s.db.bodySource deviceId = some b ∧ a.Agrees b
  | _ => True

instance (a b : BodySource) : Decidable (a.Agrees b) := inferInstanceAs (Decidable (_ ∧ _))

instance (db : Db) (deviceId ifNoneMatch : String) (cached : Option Json) :
    Decidable (FastPath db deviceId ifNoneMatch cached) :=
  decidable_of_iff ((getLatestManifestMetadata db deviceId).any fun info ↦
    etagMatches info ifNoneMatch || cached.any (cacheUsable info)) (by
      unfold FastPath
      simp only [Option.any_eq_true, Bool.or_eq_true])

instance (s : Gateway) (op : GatewayOp) : Decidable (s.StillCurrent op) := by
  cases op with
  | request deviceId repeats =>
      have : Decidable (∃ a b, s.built deviceId = some a ∧ s.db.bodySource deviceId = some b ∧
          a.Agrees b) :=
        decidable_of_iff ((s.built deviceId).any fun a ↦ (s.db.bodySource deviceId).any fun b ↦
          decide (a.Agrees b)) (by simp only [Option.any_eq_true, decide_eq_true_eq]; grind)
      exact inferInstanceAs (Decidable (_ → _))
  | _ => exact inferInstanceAs (Decidable True)

/-! ## What a body shows of its source -/

/-- The tables with one override at most. -/
def Db.withOverride (db : Db) (o : Option EmergencyOverride) : Db :=
  { db with emergencyOverrides := o.toList }

def BodySource.body (cfg : SecurityConfig) (db : Db) (deviceId : String) (a : BodySource) : Json :=
  signed cfg (servedPayload (db.withOverride a.emergency) deviceId a.manifest)

/-- The override is one that the query can return. -/
def BodySource.Queried (a : BodySource) : Prop :=
  ∀ o ∈ a.emergency, o.level = "global" ∧ o.active = true

theorem getActive_queried {db : Db} {o : EmergencyOverride}
    (h : getActiveEmergencyOverride db = some o) : o.level = "global" ∧ o.active = true := by
  unfold getActiveEmergencyOverride at h
  have hmem := Rows.newest_mem h
  simpa using (List.mem_filter.1 hmem).2

theorem getActive_withOverride (db : Db) {a : BodySource} (h : a.Queried) :
    getActiveEmergencyOverride (db.withOverride a.emergency) = a.emergency := by
  unfold getActiveEmergencyOverride Db.withOverride
  cases ho : a.emergency with
  | none => rfl
  | some o =>
      have hq := h o ho
      simp [hq, Rows.newest]

theorem bodySource_queried {db : Db} {deviceId : String} {a : BodySource}
    (h : db.bodySource deviceId = some a) : a.Queried := by
  obtain ⟨m, -, rfl⟩ := Option.map_eq_some_iff.1 h
  exact fun o ho ↦ getActive_queried ho

/-- The assembled body is the body of the source that the tables give. -/
theorem getLatestManifestForDevice_eq (cfg : SecurityConfig) (db : Db) (deviceId : String) :
    getLatestManifestForDevice cfg db deviceId =
      (db.bodySource deviceId).map (·.body cfg db deviceId) := by
  cases hb : db.bodySource deviceId with
  | none =>
      have hm : db.latestManifest deviceId = none := Option.map_eq_none_iff.1 hb
      unfold getLatestManifestForDevice
      rw [hm]
      rfl
  | some a =>
      have hactive := getActive_withOverride db (bodySource_queried hb)
      obtain ⟨m, hm, rfl⟩ := Option.map_eq_some_iff.1 hb
      unfold getLatestManifestForDevice
      rw [hm]
      show some (signed cfg (servedPayload db deviceId m)) =
        some (signed cfg (servedPayload _ deviceId m))
      dsimp only at hactive ⊢
      unfold servedPayload
      rw [hactive]
      rfl

theorem emergencyJson_eq_iff {a b : BodySource} (ha : a.Queried) (hb : b.Queried) :
    emergencyJson a.emergency = emergencyJson b.emergency ↔
      a.emergency.map (·.shown) = b.emergency.map (·.shown) := by
  unfold BodySource.Queried at ha hb
  generalize a.emergency = o at ha ⊢
  generalize b.emergency = p at hb ⊢
  have htext (x y : Option String) : Json.ofOption .str x = Json.ofOption .str y ↔ x = y := by
    cases x <;> cases y <;> simp [Json.ofOption]
  cases o with
  | none =>
      cases p with
      | none => simp
      | some p => simp [emergencyJson, (hb p rfl).2]
  | some o =>
      cases p with
      | none => simp [emergencyJson, (ha o rfl).2]
      | some p =>
          simp [emergencyJson, EmergencyOverride.shown, (ha o rfl).2, (hb p rfl).2, htext,
            and_comm]

/-- Two bodies of a device are the same exactly when their sources agree. -/
theorem body_eq_iff (cfg : SecurityConfig) {db : Db} (hids : db.manifestIds.Nodup)
    (deviceId : String) {a b : BodySource} (ha : a.Queried) (hb : b.Queried)
    (hma : a.manifest ∈ db.deliveryManifests) (hmb : b.manifest ∈ db.deliveryManifests) :
    a.body cfg db deviceId = b.body cfg db deviceId ↔ a.Agrees b := by
  unfold BodySource.Agrees
  rw [← emergencyJson_eq_iff ha hb]
  constructor
  · intro heq
    have hid := congrArg (Json.get "manifest_id") heq
    have hem := congrArg (Json.get "emergency") heq
    unfold BodySource.body at hid hem
    rw [get_signed _ (by decide), get_signed _ (by decide)] at hid hem
    have hid' : Json.str a.manifest.manifestId = Json.str b.manifest.manifestId := hid
    have hem' : emergencyJson (getActiveEmergencyOverride (db.withOverride a.emergency)) =
        emergencyJson (getActiveEmergencyOverride (db.withOverride b.emergency)) := hem
    rw [getActive_withOverride db ha, getActive_withOverride db hb] at hem'
    exact ⟨Json.str.inj hid', hem'⟩
  · rintro ⟨hid, hem⟩
    have hsame : a.manifest = b.manifest := Rows.key_inj hids hma hmb hid
    unfold BodySource.body servedPayload
    rw [getActive_withOverride db ha, getActive_withOverride db hb, hem, hsame]
    rfl

end RetailMedia
