import Mathlib.Algebra.Order.Ring.Rat
import RetailMedia.Clock
import RetailMedia.Delivery.PlayerClient
import RetailMedia.Lib.PyValue

/-! The headless runtime of a player: its manifests, its kill switch, its offline clock and the
rendering of a slot. -/

namespace RetailMedia

open JsonText (Text Value codes)

/-- A manifest as it was parsed. -/
abbrev PlayerManifest := List (Text × Value)

inductive PlayerError
  | attributeError
  | typeError
  deriving DecidableEq, Repr

/-- What the runtime is built with, and the functions of the interpreter that it uses on arbitrary
values: how a float and an f-string write them, and which texts are timestamps. -/
structure Player where
  deviceId : Text
  signingKey : String := ""
  reprFloat : JsonText.Real → Text
  format : Value → String
  fromisoformat : Text → Option PyDatetime
  emptyText : fromisoformat [] = none

structure KillSwitch where
  global : Bool := false
  store : Bool := false
  device : Bool := false
  campaign : List (Text × Bool) := []
  deriving DecidableEq, Repr

structure PlayerEvent where
  eventId : Text
  manifestId : Value
  campaignId : Value
  creativeAssetId : Value
  surfaceId : Value
  durationMs : Value
  renderedAt : Int
  deriving Repr

/-- The state, with the two clocks that it reads: seconds that only grow, and microseconds of
the wall clock. -/
structure Simulator where
  currentManifest : Option PlayerManifest := none
  lastKnownGood : Option PlayerManifest := none
  killSwitch : KillSwitch := {}
  killSwitchStale : Bool := true
  eventQueue : List PlayerEvent := []
  eventIds : List Text := []
  offlineStart : Option ℚ := none
  offlineDuration : ℚ := 0
  monotonic : ℚ := 0
  now : Int := 0
  deriving Repr

/-! ## Manifests -/

structure ApplyResult where
  success : Bool
  failureReason : String := ""
  manifestId : Value := .str []
  manifestVersion : Value := .int 0
  deriving Repr

def ApplyResult.failed (reason : String) : ApplyResult := ⟨false, reason, .str [], .int 0⟩

/-- A set in the source: the order in which a message lists them is not fixed there. -/
def requiredManifestFields : List String := ["manifest_id", "device_id", "store_id", "channel_type"]

def PlayerManifest.has (m : PlayerManifest) (field : String) : Bool := codes field ∈ m.map (·.1)

def validateManifest (m : PlayerManifest) : List String :=
  (requiredManifestFields.filter fun field ↦
      ¬ m.has field ∨ ¬ (Value.dictGet m field .null).truthy).map
    ("Missing required field: " ++ ·) ++
  (if m.has "manifest_version" then [] else ["Missing manifest_version"]) ++
  (if m.has "display_surfaces" then [] else ["Missing display_surfaces"])

def compactStyle : JsonText.Style := { ascii := true, comma := [44], colon := [58] }

section Apply

variable (player : Player)

def forbiddenTerm (m : PlayerManifest) : Option String :=
  let manifestStr := Json.lowered (Value.dumps player.reprFloat defaultStyle (.obj m))
  forbiddenTerms.find? fun term ↦ codes term <:+: manifestStr

def canonicalManifest (m : PlayerManifest) : Text :=
  Value.dumpsSorted player.reprFloat compactStyle (.obj (m.filter (·.1 ≠ codes "signature")))

def signPlayerManifest (m : PlayerManifest) (key : String) : String :=
  Sha256.hmacHexdigest (Sha256.utf8 key) ((canonicalManifest player m).flatMap Sha256.utf8Char)

/-- `hmac.compare_digest` takes two ASCII strings; the digest is one. -/
def verifyPlayerManifest (m : PlayerManifest) (signature : Value) (key : String) :
    Except PlayerError Bool :=
  match signature with
  | .str s =>
      if ∀ c ∈ s, c < 128 then .ok (codes (signPlayerManifest player m key) = s)
      else .error .typeError
  | _ => .error .typeError

def PlayerManifest.version (m : PlayerManifest) : Value :=
  Value.dictGet m "manifest_version" (.int 0)

/-- Whether the manifest may replace the current one by its version. -/
def versionGuard (current m : PlayerManifest) : Except PlayerError Bool :=
  match m.version.le current.version with
  | none => .error .typeError
  | some notNewer => .ok (¬ notNewer ∨ (Value.dictGet m "emergency_flag" (.bool false)).truthy)

def versionReason (current m : PlayerManifest) : String :=
  "Version " ++ player.format m.version ++ " <= current " ++ player.format current.version ++
    " and emergency_flag is not set"

def signatureReason (m : PlayerManifest) (sigValue sigAlgo : Value) :
    Except PlayerError (Option String) :=
  if sigValue = .str (codes "INVALID") then
    .ok (some "Manifest signature verification failed")
  else if player.signingKey = "" then .ok none
  else if ¬ sigValue.truthy then
    .ok (some "Manifest signature is missing (signing key configured)")
  else if sigAlgo ≠ .str (codes "HMAC-SHA256") then
    .ok (some ("Unsupported signature algorithm: " ++ player.format sigAlgo))
  else
    match verifyPlayerManifest player m sigValue player.signingKey with
    | .error e => .error e
    | .ok true => .ok none
    | .ok false => .ok (some "Manifest signature verification failed")

def checkPlayerSignature (m : PlayerManifest) : Except PlayerError (Option String) :=
  match Value.dictGet m "signature" (.obj []) with
  | .obj sig =>
      signatureReason player m (Value.dictGet sig "value" (.str []))
        (Value.dictGet sig "algorithm" (.str []))
  | _ => .error .attributeError

/-- The checks in their order; a reason when one fails. -/
def checkManifest (s : Simulator) (m : PlayerManifest) : Except PlayerError (Option String) :=
  if validateManifest m ≠ [] then .ok (some ("; ".intercalate (validateManifest m)))
  else
    match forbiddenTerm player m with
    | some term => .ok (some ("Manifest contains forbidden term: " ++ term))
    | none =>
        if Value.dictGet m "device_id" .null ≠ .str player.deviceId then
          .ok (some "Manifest device_id does not match this device")
        else
          match s.currentManifest with
          | none => checkPlayerSignature player m
          | some current =>
              match versionGuard current m with
              | .error e => .error e
              | .ok false => .ok (some (versionReason player current m))
              | .ok true => checkPlayerSignature player m

/-- Nothing is assigned before the last check has passed, so an exception leaves the state. -/
def applyManifest (s : Simulator) (m : PlayerManifest) :
    Except PlayerError (Simulator × ApplyResult) :=
  match checkManifest player s m with
  | .error e => .error e
  | .ok (some reason) => .ok (s, .failed reason)
  | .ok none =>
      .ok ({ s with
          lastKnownGood := s.currentManifest
          currentManifest := some m },
        { success := true
          manifestId := Value.dictGet m "manifest_id" (.str [])
          manifestVersion := m.version })

end Apply

def rollbackToLastKnownGood (s : Simulator) : Simulator :=
  { s with currentManifest := s.lastKnownGood }

/-! ## Kill switch -/

inductive KillLevel
  | global
  | store
  | device
  | campaign
  /-- Any other text: nothing is switched, but the cache counts as fresh. -/
  | other
  deriving DecidableEq, Repr

def setKillSwitch (s : Simulator) (level : KillLevel) (targetId : Text) (active : Bool) :
    Simulator :=
  let killSwitch := match level with
    | .global => { s.killSwitch with global := active }
    | .store => { s.killSwitch with store := active }
    | .device => { s.killSwitch with device := active }
    | .campaign =>
        { s.killSwitch with
          campaign := Dict.upsert targetId (fun _ ↦ active) s.killSwitch.campaign }
    | .other => s.killSwitch
  { s with
    killSwitch := killSwitch
    killSwitchStale := false }

def clearKillSwitchCache (s : Simulator) : Simulator := { s with killSwitchStale := true }

def refreshKillSwitch (s : Simulator) : Simulator := { s with killSwitchStale := false }

/-- `campaign_id and self._kill_switch["campaign"].get(campaign_id, False)`; a list or a
dictionary cannot be a key. -/
def campaignKilled (s : Simulator) (campaignId : Value) : Except PlayerError Bool :=
  if campaignId.truthy then
    match campaignId with
    | .str t => .ok (Dict.getD s.killSwitch.campaign t false)
    | .arr _ => .error .typeError
    | .obj _ => .error .typeError
    | _ => .ok false
  else .ok false

def isKillSwitchActive (s : Simulator) (campaignId : Value) : Except PlayerError Bool :=
  if s.killSwitchStale then .ok true
  else
    match campaignKilled s campaignId with
    | .error e => .error e
    | .ok killed =>
        .ok (killed ∨ s.killSwitch.device ∨ s.killSwitch.store ∨ s.killSwitch.global)

/-! ## Offline -/

def setOffline (s : Simulator) (offline : Bool) : Simulator :=
  match offline, s.offlineStart with
  | true, none => { s with offlineStart := some s.monotonic }
  | true, some _ => s
  | false, _ => { s with offlineStart := none }

def advanceOfflineClock (s : Simulator) (hours : ℚ) : Simulator :=
  let duration := s.offlineDuration + hours * 3600
  { s with
    offlineDuration := duration
    offlineStart := s.offlineStart.map fun _ ↦ s.monotonic - duration }

/-- The seconds that count as offline. -/
def Simulator.offlineSeconds (s : Simulator) : ℚ :=
  match s.offlineStart with
  | none => s.offlineDuration
  | some start => s.offlineDuration + (s.monotonic - start)

/-- `seconds >= hours * 3600`, for hours that are a number. -/
def reachesHours (seconds : ℚ) : JsonText.Number → Bool
  | .nan => false
  | .infinity negative => negative
  | .units x => x * 3600 ≤ seconds * 2 ^ 1074

def isOfflineTtlExpired (s : Simulator) : Except PlayerError Bool :=
  match s.currentManifest with
  | none => .ok false
  | some m =>
      match (Value.dictGet m "offline_ttl_hours" (.int 168)).number with
      | none => .error .typeError
      | some hours => .ok (reachesHours s.offlineSeconds hours)

/-! ## Rendering -/

structure RenderResult where
  played : Bool
  failureReason : String := ""
  eventId : Text := []
  surfaceId : Value := .str []
  creativeAssetId : Value := .str []
  durationMs : Value := .int 0
  deriving Repr

def RenderResult.blocked (reason : String) : RenderResult :=
  { played := false
    failureReason := reason }

/-- The arguments of a call, with the id that `uuid4` gives to its event. -/
structure RenderCall where
  slot : PlayerManifest := []
  campaignId : Text := []
  surfaceId : Text := []
  creativeAssetId : Text := []
  durationMs : Int := 10000
  isFallback : Bool := false
  uuid : Text
  deriving Repr

/-- `argument or slot.get(key, default)`. -/
def orSlot (argument : Value) (slot : PlayerManifest) (key : String) (default : Value) : Value :=
  if argument.truthy then argument else Value.dictGet slot key default

def RenderCall.campaign (c : RenderCall) : Value :=
  orSlot (.str c.campaignId) c.slot "campaign_id" (.str [])

/-- `iso_str.replace("Z", "+00:00")`. -/
def replaceZulu (t : Text) : Text := t.flatMap fun c ↦ if c = 90 then codes "+00:00" else [c]

/-- `_is_past`: a text that is no timestamp, and one without a timezone, is not past. -/
def isPast (player : Player) (s : Simulator) (iso : Value) : Except PlayerError Bool :=
  match iso with
  | .str t =>
      match player.fromisoformat (replaceZulu t) with
      | some (.aware dt) => .ok (dt.instant < s.now)
      | some (.naive _) => .ok false
      | none => .ok false
  | _ => .error .attributeError

def buildPlayerEvent (s : Simulator) (m : PlayerManifest) (c : RenderCall) : PlayerEvent where
  eventId := c.uuid
  manifestId :=
    let mid := Value.dictGet m "manifest_id" (.str [])
    if mid.truthy then mid else .null
  campaignId := if c.campaign.truthy then c.campaign else .null
  creativeAssetId := orSlot (.str c.creativeAssetId) c.slot "creative_asset_id" (.str [])
  surfaceId := orSlot (.str c.surfaceId) c.slot "surface_id" (.str [])
  durationMs := orSlot (.int c.durationMs) c.slot "duration_ms" (.int 10000)
  renderedAt := s.now

section Render

variable (player : Player)

/-- `valid_to and self._is_past(valid_to)`. -/
def pastValidTo (s : Simulator) (m : PlayerManifest) : Except PlayerError Bool :=
  let validTo := Value.dictGet m "valid_to" .null
  if validTo.truthy then isPast player s validTo else .ok false

/-- `valid_from and not self._is_past(valid_from)`. -/
def beforeValidFrom (s : Simulator) (m : PlayerManifest) : Except PlayerError Bool :=
  let validFrom := Value.dictGet m "valid_from" .null
  if validFrom.truthy then (isPast player s validFrom).map (!·) else .ok false

/-- `manifest.get("fallback_rules", {}).get(key, default)`. -/
def fallbackRule (m : PlayerManifest) (key : String) (default : Value) :
    Except PlayerError Value :=
  match Value.dictGet m "fallback_rules" (.obj []) with
  | .obj rules => .ok (Value.dictGet rules key default)
  | _ => .error .attributeError

/-- A slot that no gate holds back. -/
def emitPop (s : Simulator) (m : PlayerManifest) (c : RenderCall) : Simulator × RenderResult :=
  let event := buildPlayerEvent s m c
  if event.eventId ∈ s.eventIds then
    (s, { played := true, eventId := event.eventId })
  else
    ({ s with
        eventIds := s.eventIds ++ [event.eventId]
        eventQueue := s.eventQueue ++ [event] },
      { played := true
        eventId := event.eventId
        surfaceId := event.surfaceId
        creativeAssetId := event.creativeAssetId
        durationMs := event.durationMs })

/-- Gates 5 and 6. -/
def renderValid (s : Simulator) (m : PlayerManifest) (c : RenderCall) :
    Except PlayerError (Simulator × RenderResult) :=
  match beforeValidFrom player s m with
  | .error e => .error e
  | .ok true => .ok (s, .blocked "manifest_not_yet_valid")
  | .ok false =>
      if c.isFallback then
        match fallbackRule m "emit_pop" (.bool false) with
        | .error e => .error e
        | .ok emit => if emit.truthy then .ok (emitPop s m c) else .ok (s, { played := true })
      else .ok (emitPop s m c)

/-- Gate 4 and those after it. -/
def renderManifest (s : Simulator) (m : PlayerManifest) (c : RenderCall) :
    Except PlayerError (Simulator × RenderResult) :=
  match pastValidTo player s m with
  | .error e => .error e
  | .ok true =>
      match fallbackRule m "on_manifest_expired" (.str (codes "show_fallback")) with
      | .error e => .error e
      | .ok onExpired =>
          if c.isFallback ∧ onExpired = .str (codes "show_fallback") then renderValid player s m c
          else .ok (s, .blocked "manifest_expired")
  | .ok false => renderValid player s m c

def renderSlot (s : Simulator) (c : RenderCall) : Except PlayerError (Simulator × RenderResult) :=
  match isKillSwitchActive s c.campaign with
  | .error e => .error e
  | .ok true => .ok (s, .blocked "kill_switch_active")
  | .ok false =>
      match isOfflineTtlExpired s with
      | .error e => .error e
      | .ok expired =>
          if expired ∧ ¬ c.isFallback then .ok (s, .blocked "offline_ttl_expired")
          else
            match s.currentManifest with
            | none => .ok (s, .blocked "no_manifest_loaded")
            | some m => renderManifest player s m c

end Render

/-! ## The runtime -/

inductive PlayerOp
  | apply (m : PlayerManifest)
  | rollback
  | setKillSwitch (level : KillLevel) (targetId : Text) (active : Bool)
  | clearKillSwitchCache
  | refreshKillSwitch
  | setOffline (offline : Bool)
  | advanceOfflineClock (hours : ℚ)
  | render (c : RenderCall)
  | popEvents
  | reset
  /-- Time goes by; the wall clock may also be set. -/
  | tick (seconds : ℚ) (now : Int)

def okState {α : Type} (s : Simulator) (r : Except PlayerError (Simulator × α)) : Simulator :=
  match r with
  | .ok (s', _) => s'
  | .error _ => s

def Player.next (player : Player) (s : Simulator) : PlayerOp → Simulator
  | .apply m => okState s (applyManifest player s m)
  | .rollback => rollbackToLastKnownGood s
  | .setKillSwitch level targetId active => RetailMedia.setKillSwitch s level targetId active
  | .clearKillSwitchCache => RetailMedia.clearKillSwitchCache s
  | .refreshKillSwitch => RetailMedia.refreshKillSwitch s
  | .setOffline offline => RetailMedia.setOffline s offline
  | .advanceOfflineClock hours => RetailMedia.advanceOfflineClock s hours
  | .render c => okState s (renderSlot player s c)
  | .popEvents => { s with eventQueue := [] }
  | .reset =>
      { monotonic := s.monotonic
        now := s.now }
  | .tick seconds now =>
      { s with
        monotonic := s.monotonic + max seconds 0
        now := now }

end RetailMedia
