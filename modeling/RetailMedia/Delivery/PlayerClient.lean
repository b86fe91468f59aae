import RetailMedia.Delivery.Manifest
import RetailMedia.Delivery.Wire

/-! The player client's check of a manifest, and the manifests that pass it. -/

namespace RetailMedia

/-! ## The player -/

inductive FetchError
  | http (detail : String)
  | value (text : String)
  | attributeError
  | typeError
  deriving DecidableEq, Repr

/-- `value.get(key, default)`; only a dict has it. -/
def Json.dictGet (j : Json) (key : String) (default : Json) : Except FetchError Json :=
  match j with
  | .obj fields => .ok (Dict.getD fields key default)
  | _ => .error .attributeError

def Json.keys : Json → List String
  | .obj fields => fields.map (·.1)
  | _ => []

/-- In the order in which the message lists them. -/
def requiredFields : List String :=
  ["device_id", "emergency", "manifest_id", "playlist", "signature"]

def forbiddenTerms : List String := [
  "storage_bucket", "storage_key", "access_key", "secret_key", "presigned_url", "token", "email",
  "phone", "password"]

structure ManifestSnapshot where
  raw : Json
  verified : Bool

def validateShape (data : Json) : Except FetchError Unit :=
  let missing := requiredFields.filter (· ∉ data.keys)
  if missing = [] then .ok ()
  else .error (.value ("manifest missing fields: " ++ ", ".intercalate missing))

def validateForbidden (data : Json) : Except FetchError Unit :=
  let body := Json.lowered (data.text defaultStyle)
  match forbiddenTerms.find? fun term ↦ JsonText.codes term <:+: body with
  | some term => .error (.value ("manifest contains forbidden term: " ++ term))
  | none => .ok ()

/-- `hmac.compare_digest` takes two ASCII strings; the digest is one. -/
def verifyManifestSignature (payload signature : Json) (key : String) :
    Except FetchError Bool :=
  match signature with
  | .str s =>
      if ∀ c ∈ JsonText.codes s, c < 128 then .ok (signManifestPayload payload key = s)
      else .error .typeError
  | _ => .error .typeError

/-- What a response gives as a dict. -/
def handleResponse : Json → Except FetchError Json
  | .obj fields => .ok (.obj fields)
  | _ => .error (.http "invalid JSON response")

def checkSignature (signingKey : String) (raw sigVal sigAlgo : Json) : Except FetchError Unit :=
  if sigVal = .str "INVALID" then .error (.value "manifest signature is INVALID placeholder")
  else if signingKey = "" then .ok ()
  else if ¬ sigVal.truthy then
    .error (.value "manifest missing signature (signing_key configured)")
  else if sigAlgo ≠ .str "HMAC-SHA256" then
    .error (.value ("unsupported signature algorithm: " ++ sigAlgo.pyStr))
  else
    match verifyManifestSignature raw sigVal signingKey with
    | .error e => .error e
    | .ok true => .ok ()
    | .ok false => .error (.value "manifest signature verification failed")

/-- `fetch_manifest`, on the decoded response. -/
def fetchManifest (signingKey : String) (response : Json) :
    Except FetchError ManifestSnapshot := do
  let raw ← handleResponse response
  validateShape raw
  validateForbidden raw
  let sig ← raw.dictGet "signature" (.obj [])
  let sigVal ← sig.dictGet "value" (.str "")
  let sigAlgo ← sig.dictGet "algorithm" (.str "")
  checkSignature signingKey raw sigVal sigAlgo
  return { raw := raw, verified := signingKey ≠ "" }

/-! ## Texts that the scan lets pass -/

/-- No forbidden term in the text, escaped and in lower case. -/
def Clean (t : String) : Prop :=
  ∀ term ∈ forbiddenTerms, ¬ JsonText.codes term <:+: Json.spelled defaultStyle t

instance (t : String) : Decidable (Clean t) := by
  unfold Clean
  infer_instance

theorem forbiddenTerms_search : ∀ term ∈ forbiddenTerms, Json.SearchTerm (JsonText.codes term) := by
  decide +kernel

/-- The scan passes exactly the documents whose keys and strings it would pass one by one. -/
theorem validateForbidden_iff (data : Json) :
    validateForbidden data = .ok () ↔ ∀ s ∈ data.strings, Clean s := by
  have hfind : validateForbidden data = .ok () ↔ ∀ term ∈ forbiddenTerms,
      ¬ JsonText.codes term <:+: Json.lowered (data.text defaultStyle) := by
    unfold validateForbidden
    dsimp only
    constructor
    · intro h
      cases hfound : forbiddenTerms.find?
        fun term ↦ JsonText.codes term <:+: Json.lowered (data.text defaultStyle) with
      | some term =>
          rw [hfound] at h
          cases h
      | none => simpa using hfound
    · intro h
      have hnone : (forbiddenTerms.find?
          fun term ↦ JsonText.codes term <:+: Json.lowered (data.text defaultStyle)) = none := by
        simpa using h
      rw [hnone]
  rw [hfind]
  constructor
  · intro h s hs term hterm hoccurs
    have hsplit := Json.splits_text (forbiddenTerms_search term hterm) Json.defaultStyle_standard
      data
    exact h term hterm (hsplit.2 ⟨_, List.mem_map_of_mem hs, hoccurs⟩)
  · intro h term hterm hoccurs
    have hsplit := Json.splits_text (forbiddenTerms_search term hterm) Json.defaultStyle_standard
      data
    obtain ⟨p, hp, hin⟩ := hsplit.1 hoccurs
    obtain ⟨s, hs, rfl⟩ := List.mem_map.1 hp
    exact h s hs term hterm hin

end RetailMedia
