import RetailMedia.Delivery.PlayerClient

/-! Which of the manifests that the gateway serves the player client takes. -/

namespace RetailMedia

open JsonText (Text codes)

/-! ## Texts over an alphabet -/

def Over (alphabet : Text) (s : String) : Prop := ∀ c ∈ codes s, c ∈ alphabet

theorem codes_append (s t : String) : codes (s ++ t) = codes s ++ codes t := by
  unfold codes
  rw [String.toList_append, List.map_append]

theorem Over.append {alphabet : Text} {s t : String} (hs : Over alphabet s) (ht : Over alphabet t) :
    Over alphabet (s ++ t) := by
  intro c hc
  rw [codes_append] at hc
  rcases List.mem_append.1 hc with hc | hc
  · exact hs c hc
  · exact ht c hc

theorem spelled_over {alphabet : Text} {s : String} (h : Over alphabet s)
    (hplain : ∀ c ∈ alphabet, 32 ≤ c ∧ c < 127 ∧ c ≠ 34 ∧ c ≠ 92) :
    Json.spelled defaultStyle s = Json.lowered (codes s) := by
  have hescape : ∀ c ∈ codes s, JsonText.escapeText true c = [c] := by
    intro c hc
    obtain ⟨hlow, hhigh, hq, hb⟩ := hplain c (h c hc)
    have hshort : JsonText.shortEscape c = none := by
      unfold JsonText.shortEscape
      rw [if_neg (by omega), if_neg (by omega), if_neg (by omega), if_neg (by omega),
        if_neg (by omega), if_neg (by omega)]
    unfold JsonText.escapeText
    rw [hshort]
    dsimp only
    rw [if_neg (by omega), if_pos (.inr hhigh)]
  have hall (t : Text) (ht : ∀ c ∈ t, JsonText.escapeText true c = [c]) :
      JsonText.escaped true t = t := by
    induction t with
    | nil => rfl
    | cons c t ih =>
        have hc := ht c List.mem_cons_self
        show JsonText.escapeText true c ++ JsonText.escaped true t = c :: t
        rw [hc, ih fun d hd ↦ ht d (List.mem_cons_of_mem c hd)]
        rfl
  unfold Json.spelled
  exact congrArg Json.lowered (hall _ hescape)

/-- Every forbidden term has a letter that the alphabet lacks. -/
theorem clean_over {alphabet : Text} {s : String} (h : Over alphabet s)
    (hplain : ∀ c ∈ alphabet, 32 ≤ c ∧ c < 127 ∧ c ≠ 34 ∧ c ≠ 92)
    (hmiss : ∀ term ∈ forbiddenTerms, ∃ d ∈ codes term, d ∉ alphabet.map Json.asciiLower) :
    Clean s := by
  intro term hterm hfound
  obtain ⟨d, hd, hnot⟩ := hmiss term hterm
  rw [spelled_over h hplain] at hfound
  obtain ⟨c, hc, rfl⟩ := List.mem_map.1 (hfound.mem hd)
  exact hnot (List.mem_map_of_mem (h c hc))

/-! ### Times -/

def dateAlphabet : Text := codes "0123456789+-.:T"

theorem natText_date {n c : Nat} (h : c ∈ JsonText.natText n) : c ∈ dateAlphabet := by
  have hdigit : ∀ c < 58, 48 ≤ c → c ∈ dateAlphabet := by decide
  have hrange := of_decide_eq_true (JsonText.digit_natText h)
  exact hdigit c (by omega) hrange.1

theorem over_padded (width n : Nat) : Over dateAlphabet (padded width n) := by
  unfold padded
  apply Over.append
  · intro c hc
    unfold codes at hc
    rw [String.toList_ofList, List.map_replicate] at hc
    rw [List.eq_of_mem_replicate hc]
    decide
  · intro c hc
    apply natText_date (n := n)
    rw [← JsonText.intText_nonneg]
    exact hc

theorem over_mark {s : String} (h : s ∈ ["", "-", "+", ":", ".", "T"]) : Over dateAlphabet s := by
  have hall : ∀ s ∈ ["", "-", "+", ":", ".", "T"], ∀ c ∈ codes s, c ∈ dateAlphabet := by decide
  exact hall s h

theorem over_optional {s : String} (h : Over dateAlphabet s) (p : Prop) [Decidable p] :
    Over dateAlphabet (if p then s else "") := by
  split
  · exact h
  · exact over_mark (by decide)

theorem over_dateIsoformat (d : Int) : Over dateAlphabet (dateIsoformat d) := by
  have hminus : Over dateAlphabet "-" := over_mark (by decide)
  unfold dateIsoformat
  rcases civil d with ⟨y, m, day⟩
  exact ((((over_padded 4 _).append hminus).append (over_padded 2 _)).append hminus).append
    (over_padded 2 _)

theorem over_offsetText (offset : Int) : Over dateAlphabet (offsetText offset) := by
  have hcolon : Over dateAlphabet ":" := over_mark (by decide)
  have hpoint : Over dateAlphabet "." := over_mark (by decide)
  have hsign : Over dateAlphabet (if offset < 0 then "-" else "+") := by
    split
    · exact over_mark (by decide)
    · exact over_mark (by decide)
  unfold offsetText
  dsimp only
  apply Over.append
  · apply Over.append
    · exact ((hsign.append (over_padded 2 _)).append hcolon).append (over_padded 2 _)
    · exact over_optional (hcolon.append (over_padded 2 _)) _
  · exact over_optional (hpoint.append (over_padded 6 _)) _

theorem over_isoText (t : Int) : Over dateAlphabet (isoText t) := by
  have hcolon : Over dateAlphabet ":" := over_mark (by decide)
  have hpoint : Over dateAlphabet "." := over_mark (by decide)
  have hday : Over dateAlphabet "T" := over_mark (by decide)
  unfold isoText DateTime.isoformat
  dsimp only
  apply Over.append
  · apply Over.append
    · exact ((((((over_dateIsoformat _).append hday).append (over_padded 2 _)).append
        hcolon).append (over_padded 2 _)).append hcolon).append (over_padded 2 _)
    · exact over_optional (hpoint.append (over_padded 6 _)) _
  · exact over_offsetText _

theorem clean_isoText (t : Int) : Clean (isoText t) :=
  clean_over (over_isoText t) (by decide) (by decide +kernel)

/-! ### Digests -/

def hexAlphabet : Text := codes "0123456789abcdef"

theorem toDigits_hex {n : Nat} {c : Char} (h : c ∈ Nat.toDigits 16 n) : c.toNat ∈ hexAlphabet := by
  have hsmall : ∀ d < 16, d.digitChar.toNat ∈ hexAlphabet := by decide
  induction n using Nat.strong_induction_on with
  | h n ih =>
      by_cases hlt : n < 16
      · rw [Nat.toDigits_of_lt_base hlt, List.mem_singleton] at h
        rw [h]
        exact hsmall n hlt
      · rw [Nat.toDigits_of_base_le (by decide) (by omega)] at h
        rcases List.mem_append.1 h with h | h
        · exact ih (n / 16) (by omega) h
        · rw [List.mem_singleton.1 h]
          exact hsmall (n % 16) (by omega)

theorem over_hexText (width n : Nat) : Over hexAlphabet (Sha256.hexText width n) := by
  intro c hc
  obtain ⟨ch, hch, rfl⟩ := List.mem_map.1 hc
  unfold Sha256.hexText at hch
  rw [String.toList_ofList] at hch
  rcases List.mem_append.1 hch with h | h
  · rw [List.eq_of_mem_replicate h]
    decide
  · exact toDigits_hex h

theorem over_join {alphabet : Text} {l : List String} (h : ∀ s ∈ l, Over alphabet s) {s : String}
    (hs : Over alphabet s) : Over alphabet (l.foldl (· ++ ·) s) := by
  induction l generalizing s with
  | nil => exact hs
  | cons t l ih =>
      exact ih (fun u hu ↦ h u (List.mem_cons_of_mem t hu)) (hs.append (h t List.mem_cons_self))

theorem over_hexdigest (bytes : List Nat) : Over hexAlphabet (Sha256.hexdigest bytes) := by
  unfold Sha256.hexdigest Sha256.Digest.hex String.join
  apply over_join
  · intro s hs
    obtain ⟨w, -, rfl⟩ := List.mem_map.1 hs
    exact over_hexText 8 w
  · intro c hc
    cases hc

theorem join_ne_empty {l : List String} {s : String} (h : s ≠ "") :
    l.foldl (· ++ ·) s ≠ "" := by
  induction l generalizing s with
  | nil => exact h
  | cons t l ih =>
      apply ih
      intro hnil
      exact h (String.append_eq_empty_iff.1 hnil).1

theorem hexdigest_ne_empty (bytes : List Nat) : Sha256.hexdigest bytes ≠ "" := by
  unfold Sha256.hexdigest Sha256.Digest.hex String.join Sha256.Digest.words
  rw [List.map_cons, List.foldl_cons]
  apply join_ne_empty
  intro hnil
  have hlist := congrArg String.toList (String.append_eq_empty_iff.1 hnil).2
  unfold Sha256.hexText at hlist
  rw [String.toList_ofList] at hlist
  exact Nat.toDigits_ne_nil (List.append_eq_nil_iff.1 hlist).2

theorem over_hmac (key message : List Nat) :
    Over hexAlphabet (Sha256.hmacHexdigest key message) := by
  unfold Sha256.hmacHexdigest
  exact over_hexdigest _

theorem hmac_ne_empty (key message : List Nat) : Sha256.hmacHexdigest key message ≠ "" := by
  unfold Sha256.hmacHexdigest
  exact hexdigest_ne_empty _

theorem hmac_ne_invalid (key message : List Nat) :
    Sha256.hmacHexdigest key message ≠ "INVALID" := by
  intro h
  have hover := over_hmac key message
  rw [h] at hover
  exact absurd (hover 73 (by decide)) (by decide)

theorem clean_hmac (key message : List Nat) : Clean (Sha256.hmacHexdigest key message) :=
  clean_over (over_hmac key message) (by decide) (by decide +kernel)

/-! ## The texts of a manifest -/

/-- The texts of the tables that a served manifest shows. -/
def Db.shownTexts (db : Db) (deviceId : String) (m : DeliveryManifest) : List String :=
  let device := Rows.get (·.id) deviceId db.physicalDevices
  let storeId := (device.map (·.storeId)).getD ""
  let store := if storeId = "" then none else Rows.get (·.id) storeId db.stores
  let deviceType := (device.filter (·.deviceTypeId ≠ "")).bind fun d ↦
    Rows.get (·.id) d.deviceTypeId db.deviceTypes
  let channel := deviceType.bind fun t ↦ Rows.get (·.id) t.channelId db.channels
  [m.manifestId, deviceId, (device.map (·.code)).getD "", storeId, (store.map (·.code)).getD "",
    (device.bind (·.retailerId)).getD "", (channel.map (·.code)).getD "",
    (deviceType.map (·.code)).getD ""] ++
  (db.manifestSurfaces m).flatMap (fun s ↦ [s.id, s.code]) ++
  m.assets.flatMap (fun a ↦ [a.creativeAssetId, a.sha256Checksum, a.mediaType]) ++
  [((getActiveEmergencyOverride db).map (·.reason)).getD "", m.contentHash]

/-- Every key and every string of the document. -/
def AllStrings (p : String → Prop) (j : Json) : Prop := ∀ s ∈ j.strings, p s

section AllStrings

variable {p : String → Prop}

theorem allStrings_str {s : String} : AllStrings p (.str s) ↔ p s := by
  unfold AllStrings
  rw [Json.strings, List.forall_mem_singleton]

theorem allStrings_arr {js : List Json} : AllStrings p (.arr js) ↔ ∀ j ∈ js, AllStrings p j := by
  unfold AllStrings
  rw [Json.strings]
  induction js with
  | nil => simp [Json.stringsItems]
  | cons j js ih => rw [Json.stringsItems, List.forall_mem_append, ih, List.forall_mem_cons]

theorem allStrings_obj {fields : List (String × Json)} :
    AllStrings p (.obj fields) ↔ ∀ f ∈ fields, p f.1 ∧ AllStrings p f.2 := by
  unfold AllStrings
  rw [Json.strings]
  induction fields with
  | nil => simp [Json.stringsFields]
  | cons f fields ih =>
      rw [Json.stringsFields, List.forall_mem_cons, List.forall_mem_append, ih,
        List.forall_mem_cons, and_assoc]

theorem allStrings_other {j : Json} (h : j.strings = []) : AllStrings p j := by
  unfold AllStrings
  rw [h]
  nofun

theorem allStrings_ofOption {α : Type} {f : α → String} {o : Option α} (h : ∀ a, p (f a)) :
    AllStrings p (.ofOption .str (o.map f)) := by
  cases o with
  | none => exact allStrings_other rfl
  | some a => exact allStrings_str.2 (h a)

end AllStrings

/-- The keys and the constants of a manifest. -/
def fixedTexts : List String := [
  "manifest_id", "manifest_version", "schema_version", "1.0", "device_id", "device_code",
  "store_id", "store_code", "retailer_id", "channel_type", "device_type", "display_surfaces",
  "surface_id", "surface_code", "playlist", "creative_asset_id", "sha256_checksum", "duration_ms",
  "media_type", "media_files", "adapter_payload", "valid_from", "valid_to", "offline_ttl_hours",
  "fallback_rules", "on_manifest_expired", "show_fallback", "on_network_lost",
  "continue_last_valid", "filler_media_ids", "emit_pop", "emergency", "active", "activated_at",
  "reason", "signature", "algorithm", "HMAC-SHA256", "value", "", "generated_at", "content_hash"]

theorem fixedTexts_clean : ∀ s ∈ fixedTexts, Clean s := by
  decide +kernel

theorem servedPayload_clean (db : Db) (deviceId : String) (m : DeliveryManifest) :
    AllStrings Clean (servedPayload db deviceId m) ↔ ∀ s ∈ db.shownTexts deviceId m, Clean s := by
  have hfixed := fixedTexts_clean
  have hdate (o : Option Int) : AllStrings Clean (.ofOption .str (o.map isoText)) :=
    allStrings_ofOption clean_isoText
  have hnum (n : Int) : AllStrings Clean (.num n) := allStrings_other rfl
  have hbool (b : Bool) : AllStrings Clean (.bool b) := allStrings_other rfl
  have hnums (o : Option Int) : AllStrings Clean (.ofOption .num o) := by
    cases o with
    | none => exact allStrings_other rfl
    | some n => exact hnum n
  simp only [fixedTexts, List.forall_mem_cons] at hfixed
  unfold servedPayload Db.shownTexts surfaceJson servedItem fallbackRules emergencyJson unsigned
  simp only [allStrings_obj, allStrings_arr, allStrings_str, List.forall_mem_cons,
    List.forall_mem_append, List.forall_mem_map, List.forall_mem_flatMap, hfixed, hdate, hnum,
    hbool, hnums, true_and, and_true, List.not_mem_nil, false_implies, implies_true, and_assoc]

/-! ## The signature -/

def servedKeys : List String := [
  "manifest_id", "manifest_version", "schema_version", "device_id", "device_code", "store_id",
  "store_code", "retailer_id", "channel_type", "device_type", "display_surfaces", "playlist",
  "media_files", "adapter_payload", "valid_from", "valid_to", "offline_ttl_hours",
  "fallback_rules", "emergency", "signature", "generated_at", "content_hash"]

theorem servedPayload_fields (db : Db) (deviceId : String) (m : DeliveryManifest) :
    ∃ fields, servedPayload db deviceId m = .obj fields ∧ fields.map (·.1) = servedKeys ∧
      ∀ f ∈ fields, f.1 = "signature" → f.2 = unsigned := by
  refine ⟨_, rfl, rfl, ?_⟩
  simp

def signature (value : String) : Json :=
  .obj [("algorithm", .str "HMAC-SHA256"), ("value", .str value)]

/-- The value that the gateway signs with: none without a key. -/
def signatureValue (cfg : SecurityConfig) (payload : Json) : String :=
  if cfg.manifestSigningKey = "" then ""
  else signManifestPayload payload cfg.manifestSigningKey

/-- A served manifest is its payload with the value in place. -/
theorem signed_eq (cfg : SecurityConfig) {fields : List (String × Json)}
    (h : ∀ f ∈ fields, f.1 = "signature" → f.2 = unsigned) :
    signed cfg (.obj fields) = (Json.obj fields).update "signature"
      fun _ ↦ signature (signatureValue cfg (.obj fields)) := by
  unfold signed signatureValue
  split
  · have hself : ∀ f ∈ fields,
        (f.1, if f.1 = "signature" then signature "" else f.2) = f := by
      intro f hf
      split
      · rename_i hkey
        exact Prod.ext rfl (h f hf hkey).symm
      · rfl
    show _ = Json.obj (fields.map _)
    rw [List.map_congr_left hself, List.map_id']
  · have hsame : ∀ f ∈ fields,
        (f.1, if f.1 = "signature" then Json.update "value" (fun _ ↦
          .str (signManifestPayload (.obj fields) cfg.manifestSigningKey)) f.2 else f.2) =
        (f.1, if f.1 = "signature" then
          signature (signManifestPayload (.obj fields) cfg.manifestSigningKey) else f.2) := by
      intro f hf
      split
      · rename_i hkey
        rw [h f hf hkey]
        rfl
      · rfl
    show Json.obj (fields.map _) = Json.obj (fields.map _)
    rw [List.map_congr_left hsame]

theorem update_keys (key : String) (f : Json → Json) (j : Json) : (j.update key f).keys = j.keys := by
  cases j with
  | obj fields =>
      show (fields.map _).map _ = _
      rw [List.map_map]
      rfl
  | _ => rfl

/-- What is signed leaves the signature out. -/
theorem canonicalJson_update (f : Json → Json) (fields : List (String × Json)) :
    canonicalJson ((Json.obj fields).update "signature" f) = canonicalJson (.obj fields) := by
  have hfilter : (fields.map fun e ↦ (e.1, if e.1 = "signature" then f e.2 else e.2)).filter
      (·.1 ≠ "signature") = fields.filter (·.1 ≠ "signature") := by
    induction fields with
    | nil => rfl
    | cons e fields ih =>
        rw [List.map_cons, List.filter_cons, List.filter_cons, ih]
        by_cases he : e.1 = "signature"
        · simp [he]
        · simp [he]
  show (Json.obj _).dumps = (Json.obj _).dumps
  rw [hfilter]

theorem dictGet_update (default : Json) (value : Json) {fields : List (String × Json)}
    {key : String} (h : key ∈ fields.map (·.1)) :
    (Json.update key (fun _ ↦ value) (.obj fields)).dictGet key default = .ok value := by
  have hfind : (fields.map fun e ↦ (e.1, if e.1 = key then value else e.2)).find? (·.1 = key) =
      some (key, value) := by
    induction fields with
    | nil => cases h
    | cons e fields ih =>
        rw [List.map_cons, List.find?_cons]
        by_cases he : e.1 = key
        · simp [he]
        · rw [List.map_cons, List.mem_cons] at h
          simp only [he, decide_false]
          exact ih (h.resolve_left fun heq ↦ he heq.symm)
  show Except.ok (Dict.getD _ key default) = _
  unfold Dict.getD
  rw [hfind]
  rfl

theorem signatureValue_ascii (cfg : SecurityConfig) (payload : Json) :
    ∀ c ∈ codes (signatureValue cfg payload), c < 128 := by
  have hhex : ∀ c ∈ hexAlphabet, c < 128 := by decide
  intro c hc
  unfold signatureValue at hc
  split at hc
  · cases hc
  · exact hhex c (over_hmac _ _ c hc)

theorem clean_signatureValue (cfg : SecurityConfig) (payload : Json) :
    Clean (signatureValue cfg payload) := by
  unfold signatureValue
  split
  · exact fixedTexts_clean "" (by decide)
  · exact clean_hmac _ _

/-- The player verifies what the gateway has signed, with the same key. -/
theorem checkSignature_signed (cfg : SecurityConfig) {fields : List (String × Json)}
    (h : ∀ f ∈ fields, f.1 = "signature" → f.2 = unsigned) :
    checkSignature cfg.manifestSigningKey (signed cfg (.obj fields))
      (.str (signatureValue cfg (.obj fields))) (.str "HMAC-SHA256") = .ok () := by
  have hascii := signatureValue_ascii cfg (.obj fields)
  have hverify : verifyManifestSignature (signed cfg (.obj fields))
      (.str (signatureValue cfg (.obj fields))) cfg.manifestSigningKey =
      .ok (signManifestPayload (.obj fields) cfg.manifestSigningKey =
        signatureValue cfg (.obj fields)) := by
    unfold verifyManifestSignature signManifestPayload
    dsimp only
    rw [if_pos hascii, signed_eq cfg h, canonicalJson_update]
  unfold checkSignature
  by_cases hkey : cfg.manifestSigningKey = ""
  · have hvalue : signatureValue cfg (.obj fields) = "" := if_pos hkey
    rw [hvalue, if_neg (by decide), if_pos hkey]
  · have hvalue : signatureValue cfg (.obj fields) =
        signManifestPayload (.obj fields) cfg.manifestSigningKey := if_neg hkey
    have hinvalid : Json.str (signatureValue cfg (.obj fields)) ≠ .str "INVALID" := by
      intro heq
      exact hmac_ne_invalid _ _ (hvalue.symm.trans (Json.str.inj heq))
    have htruthy : (Json.str (signatureValue cfg (.obj fields))).truthy = true := by
      rw [hvalue]
      unfold Json.truthy signManifestPayload
      exact decide_eq_true (hmac_ne_empty _ _)
    rw [if_neg hinvalid, if_neg hkey, if_neg (not_not.2 htruthy), if_neg (not_not.2 rfl), hverify,
      hvalue, decide_eq_true rfl]

/-! ## What the player takes -/

theorem signed_clean (cfg : SecurityConfig) (db : Db) (deviceId : String) (m : DeliveryManifest) :
    AllStrings Clean (signed cfg (servedPayload db deviceId m)) ↔
      AllStrings Clean (servedPayload db deviceId m) := by
  obtain ⟨fields, hpayload, -, hunsigned⟩ := servedPayload_fields db deviceId m
  have hvalue := clean_signatureValue cfg (.obj fields)
  have hfixed := fixedTexts_clean
  simp only [fixedTexts, List.forall_mem_cons] at hfixed
  have hsignature : AllStrings Clean (signature (signatureValue cfg (.obj fields))) := by
    unfold signature
    simp only [allStrings_obj, allStrings_str, List.forall_mem_cons, hfixed, hvalue, true_and,
      List.not_mem_nil, false_implies, implies_true]
  have hplain : AllStrings Clean unsigned := by
    unfold unsigned
    simp only [allStrings_obj, allStrings_str, List.forall_mem_cons, hfixed, true_and,
      List.not_mem_nil, false_implies, implies_true]
  rw [hpayload, signed_eq cfg hunsigned]
  show AllStrings Clean (.obj (fields.map _)) ↔ _
  rw [allStrings_obj, allStrings_obj, List.forall_mem_map]
  apply forall₂_congr
  intro f hf
  dsimp only
  split
  · rename_i hkey
    rw [hunsigned f hf hkey]
    simp only [hsignature, hplain]
  · exact Iff.rfl

theorem fetchManifest_signed (cfg : SecurityConfig) (db : Db) (deviceId : String)
    (m : DeliveryManifest) :
    (∃ snapshot, fetchManifest cfg.manifestSigningKey (signed cfg (servedPayload db deviceId m)) =
        .ok snapshot) ↔
      ∀ s ∈ db.shownTexts deviceId m, Clean s := by
  rw [← servedPayload_clean, ← signed_clean cfg]
  unfold AllStrings
  rw [← validateForbidden_iff]
  obtain ⟨fields, hpayload, hkeys, hunsigned⟩ := servedPayload_fields db deviceId m
  have hcheck := checkSignature_signed cfg hunsigned
  rw [hpayload]
  rw [signed_eq cfg hunsigned] at hcheck ⊢
  have hraw : handleResponse (Json.update "signature" (fun _ ↦
      signature (signatureValue cfg (.obj fields))) (.obj fields)) = .ok (Json.update "signature"
        (fun _ ↦ signature (signatureValue cfg (.obj fields))) (.obj fields)) := rfl
  have hshape : validateShape (Json.update "signature" (fun _ ↦
      signature (signatureValue cfg (.obj fields))) (.obj fields)) = .ok () := by
    unfold validateShape
    rw [update_keys]
    show (if requiredFields.filter (· ∉ fields.map (·.1)) = [] then _ else _) = _
    rw [hkeys]
    rfl
  have hmem : "signature" ∈ fields.map (·.1) := by
    rw [hkeys]
    decide
  have hdict := dictGet_update (.obj []) (signature (signatureValue cfg (.obj fields))) hmem
  generalize Json.update "signature" (fun _ ↦ signature (signatureValue cfg (.obj fields)))
    (.obj fields) = raw at hcheck hraw hshape hdict ⊢
  have hfetch : fetchManifest cfg.manifestSigningKey raw =
      match validateForbidden raw with
      | .error e => .error e
      | .ok _ => .ok { raw := raw, verified := cfg.manifestSigningKey ≠ "" } := by
    unfold fetchManifest
    rw [hraw]
    dsimp only [bind, Except.bind]
    rw [hshape, hdict]
    dsimp only
    cases validateForbidden raw with
    | error e => rfl
    | ok u =>
        have hvalue (v : String) : (signature v).dictGet "value" (.str "") = .ok (.str v) := rfl
        have halgorithm (v : String) : (signature v).dictGet "algorithm" (.str "") =
            .ok (.str "HMAC-SHA256") := rfl
        dsimp only
        rw [hvalue]
        dsimp only
        rw [halgorithm]
        dsimp only
        rw [hcheck]
        rfl
  rw [hfetch]
  cases validateForbidden raw with
  | error e => simp
  | ok u => simp

/-! ## What the player reads -/

/-- The range of an `Integer` column. -/
def FitsInteger (n : Int) : Prop := -2147483648 ≤ n ∧ n ≤ 2147483647

/-- The numbers of a stored manifest that are shown. -/
structure DeliveryManifest.FitsColumns (m : DeliveryManifest) : Prop where
  version : FitsInteger m.manifestVersion
  durations : ∀ a ∈ m.assets, ∀ n ∈ a.durationMs, FitsInteger n

theorem readable_fitting {digits : Nat} (hdigits : 10 ≤ digits) {n : Int} (h : FitsInteger n) :
    (JsonText.natText n.natAbs).length ≤ digits := by
  have hlt : n.natAbs < 10 ^ 10 := by
    have hrange := h.1
    have hrange' := h.2
    omega
  exact (JsonText.length_natText_le (by decide) hlt).trans hdigits

section Readable

variable {digits : Nat}

theorem readable_str (depth : Nat) (s : String) : Json.Readable digits depth (.str s) := by
  cases depth <;> trivial

theorem readable_num (hdigits : 10 ≤ digits) (depth : Nat) {n : Int} (h : FitsInteger n) :
    Json.Readable digits depth (.num n) := by
  cases depth <;> exact readable_fitting hdigits h

theorem readable_text (depth : Nat) (o : Option String) :
    Json.Readable digits depth (.ofOption .str o) := by
  cases o with
  | none => cases depth <;> trivial
  | some s => exact readable_str depth s

theorem readable_servedItem (hdigits : 10 ≤ digits) (depth : Nat) {a : DeliveryManifestAsset}
    (h : ∀ n ∈ a.durationMs, FitsInteger n) :
    Json.Readable digits (depth + 1) (servedItem a) := by
  have hduration : Json.Readable digits depth (.ofOption .num a.durationMs) := by
    cases hd : a.durationMs with
    | none => cases depth <;> trivial
    | some n => exact readable_num hdigits depth (h n hd)
  unfold servedItem
  simp only [Json.Readable, Json.readableFields_iff, List.forall_mem_cons, hduration, and_true,
    List.not_mem_nil, false_implies, implies_true, List.map_cons, List.map_nil]
  decide

/-- A manifest has three containers inside each other, and integers of ten digits at most. -/
theorem servedPayload_readable (hdigits : 10 ≤ digits) (depth : Nat) (db : Db)
    (deviceId : String) {m : DeliveryManifest} (h : m.FitsColumns) :
    Json.Readable digits (depth + 3) (servedPayload db deviceId m) := by
  have hversion := readable_fitting hdigits h.version
  have hhours : (JsonText.natText (Int.natAbs 168)).length ≤ digits := by
    apply readable_fitting hdigits
    constructor <;> decide
  have hitem : ∀ a ∈ m.assets, Json.Readable digits (depth + 1) (servedItem a) :=
    fun a ha ↦ readable_servedItem hdigits depth (h.durations a ha)
  unfold servedPayload surfaceJson fallbackRules emergencyJson unsigned
  simp only [Json.Readable, Json.readableFields_iff, Json.readableItems_iff, List.forall_mem_cons,
    List.forall_mem_map, readable_text, true_and, and_true, List.not_mem_nil, false_implies,
    implies_true, List.map_cons, List.map_nil]
  exact ⟨by decide, hversion, fun _ _ ↦ by decide, hitem, by decide, hhours, by decide, by decide,
    by decide⟩

theorem signed_readable (hdigits : 10 ≤ digits) (depth : Nat) (cfg : SecurityConfig) (db : Db)
    (deviceId : String) {m : DeliveryManifest} (h : m.FitsColumns) :
    Json.Readable digits (depth + 3) (signed cfg (servedPayload db deviceId m)) := by
  have hpayload := servedPayload_readable hdigits depth db deviceId h
  obtain ⟨fields, heq, -, hunsigned⟩ := servedPayload_fields db deviceId m
  rw [heq] at hpayload ⊢
  rw [signed_eq cfg hunsigned]
  obtain ⟨hkeys, hfields⟩ := hpayload
  rw [Json.readableFields_iff] at hfields
  have hsignature (value : String) : Json.Readable digits (depth + 2) (signature value) := by
    unfold signature
    simp only [Json.Readable, Json.readableFields_iff, List.forall_mem_cons, List.not_mem_nil,
      false_implies, implies_true, and_true, List.map_cons, List.map_nil]
    decide
  constructor
  · rw [List.map_map]
    exact hkeys
  · rw [Json.readableFields_iff, List.forall_mem_map]
    intro f hf
    dsimp only
    split
    · exact hsignature _
    · exact hfields f hf

end Readable

/-- The player reads the response as the document that was sent. -/
def Json.ReceivedAs (style : JsonText.Style) (limits : JsonText.Limits) (sent raw : Json) : Prop :=
  JsonText.loads limits (sent.responseBytes style) = .ok raw.toValue

theorem signed_received {style : JsonText.Style} (hstyle : Json.Standard style)
    {limits : JsonText.Limits} (hdigits : 10 ≤ limits.digits) (hdepth : 3 ≤ limits.depth)
    (cfg : SecurityConfig) (db : Db) (deviceId : String) {m : DeliveryManifest}
    (h : m.FitsColumns) (raw : Json) :
    (signed cfg (servedPayload db deviceId m)).ReceivedAs style limits raw ↔
      raw = signed cfg (servedPayload db deviceId m) := by
  have hread := signed_readable hdigits (limits.depth - 3) cfg db deviceId h
  rw [Nat.sub_add_cancel hdepth] at hread
  obtain ⟨fields, heq, -, -⟩ := servedPayload_fields db deviceId m
  have hobj : ∃ signedFields, signed cfg (servedPayload db deviceId m) = .obj signedFields := by
    rw [heq]
    unfold signed
    split
    · exact ⟨_, rfl⟩
    · exact ⟨_, rfl⟩
  obtain ⟨signedFields, hsigned⟩ := hobj
  rw [hsigned] at hread ⊢
  unfold Json.ReceivedAs
  rw [Json.loads_responseBytes hstyle hread]
  constructor
  · intro hvalue
    exact Json.toValue_inj (Except.ok.inj hvalue).symm
  · rintro rfl
    rfl

/-- A manifest that is served passes the player's checks exactly when no text of the tables that it
shows holds a forbidden term, escaped and in lower case. -/
theorem player_takes_iff (cfg : SecurityConfig) {style : JsonText.Style}
    (hstyle : Json.Standard style) {limits : JsonText.Limits} (hdigits : 10 ≤ limits.digits)
    (hdepth : 3 ≤ limits.depth) {db : Db} (hfits : ∀ m ∈ db.deliveryManifests, m.FitsColumns)
    (deviceId : String) {manifest : Json}
    (h : getLatestManifestForDevice cfg db deviceId = some manifest) :
    (∃ raw snapshot, manifest.ReceivedAs style limits raw ∧
        fetchManifest cfg.manifestSigningKey raw = .ok snapshot) ↔
      ∀ m, db.latestManifest deviceId = some m → ∀ s ∈ db.shownTexts deviceId m, Clean s := by
  obtain ⟨m, hm, rfl⟩ := Option.map_eq_some_iff.1 h
  have hmfits := hfits m (latestManifest_mem hm).1
  have hreceived := signed_received hstyle hdigits hdepth cfg db deviceId hmfits
  have htaken := fetchManifest_signed cfg db deviceId m
  constructor
  · rintro ⟨raw, snapshot, hraw, htake⟩ m' hm'
    have hsame : m = m' := Option.some.inj (hm.symm.trans hm')
    rw [(hreceived raw).1 hraw] at htake
    exact hsame ▸ htaken.1 ⟨snapshot, htake⟩
  · intro hclean
    obtain ⟨snapshot, htake⟩ := htaken.2 (hclean m hm)
    exact ⟨_, snapshot, (hreceived _).2 rfl, htake⟩

def kioskManifest : DeliveryManifest where
  manifestId := "sha256:a1"
  campaignId := "c-1"
  physicalDeviceId := "kso-1"
  contentHash := "sha256:b2"
  status := .generated
  generatedAt := some 0
  surfaceIds := []
  assets := []

/-- A kiosk, while an alarm with this reason is on. -/
def alarmedKiosk (reason : String) : Db where
  physicalDevices := [{ id := "kso-1", storeId := "", deviceTypeId := "", code := "KSO1" }]
  campaigns := [{
    id := "c-1"
    advertiserOrganizationId := "o-1"
    advertiserContractId := "k-1"
    code := "SPRING" }]
  deliveryManifests := [kioskManifest]
  emergencyOverrides := [{ active := true, reason := reason, activatedAt := some 0 }]

theorem alarmedKiosk_fits (reason : String) :
    ∀ m ∈ (alarmedKiosk reason).deliveryManifests, m.FitsColumns := by
  intro m hm
  rw [List.mem_singleton.1 hm]
  exact ⟨by constructor <;> decide, by simp [kioskManifest]⟩

/-- The kiosk does not take the manifest that tells it of the alarm. -/
theorem alarm_with_phone_refused :
    ¬ ∀ (cfg : SecurityConfig) (limits : JsonText.Limits), 10 ≤ limits.digits →
      3 ≤ limits.depth → ∀ db : Db, (∀ m ∈ db.deliveryManifests, m.FitsColumns) →
      ∀ (deviceId : String) (manifest : Json),
        getLatestManifestForDevice cfg db deviceId = some manifest →
        ∃ raw snapshot, manifest.ReceivedAs responseStyle limits raw ∧
          fetchManifest cfg.manifestSigningKey raw = .ok snapshot := by
  intro h
  have hfits := alarmedKiosk_fits "Call the shop's phone"
  obtain ⟨raw, snapshot, hraw, htake⟩ := h {} (.mk 4300 900) (by decide) (by decide)
    (alarmedKiosk "Call the shop's phone") hfits "kso-1" _ rfl
  have hsent := (signed_received Json.responseStyle_standard (by decide) (by decide) {}
    (alarmedKiosk "Call the shop's phone") "kso-1" (hfits kioskManifest List.mem_cons_self)
    raw).1 hraw
  rw [hsent] at htake
  have hclean := (fetchManifest_signed {} _ "kso-1" kioskManifest).1 ⟨snapshot, htake⟩
  have hreason := hclean "Call the shop's phone" (by decide +kernel)
  revert hreason
  decide +kernel

/-- It takes the one that tells it of a drill. -/
theorem player_takes_drill :
    ∃ raw snapshot, (signed {} (servedPayload (alarmedKiosk "fire drill") "kso-1"
        kioskManifest)).ReceivedAs responseStyle (.mk 4300 900) raw ∧
      fetchManifest "" raw = .ok snapshot := by
  have hlatest : (alarmedKiosk "fire drill").latestManifest "kso-1" = some kioskManifest := rfl
  have hclean : ∀ s ∈ (alarmedKiosk "fire drill").shownTexts "kso-1" kioskManifest, Clean s := by
    decide +kernel
  apply (player_takes_iff {} Json.responseStyle_standard (by decide) (by decide)
    (alarmedKiosk_fits "fire drill") "kso-1" rfl).2
  intro m hm
  rw [hlatest] at hm
  exact Option.some.inj hm ▸ hclean

end RetailMedia
