import RetailMedia.Delivery.PlayerAgreement
import RetailMedia.Delivery.Freshness
import RetailMedia.Lib.Joined

/-! What a manifest id tells of the manifest: the fields that are hashed, cut at the separator, and
none of the fields that are not. -/

namespace RetailMedia

/-! ## What is hashed -/

/-- SHA-256 has no collision on the two inputs. -/
def Sha256.Separates (x y : List Nat) : Prop :=
  Sha256.hexdigest x = Sha256.hexdigest y → x = y

def separatorChar : Char := '‖'

namespace CampaignData

/-- The fields of a manifest id, in the order in which they are joined. -/
def idFields (data : CampaignData) (target : String × List String) : List String :=
  data.version.parts ++ sortedTexts (sortedTexts target.2) ++ [target.1]

/-- The bytes that are hashed. -/
def idBytes (data : CampaignData) (target : String × List String) : List Nat :=
  (Sha256.utf8 separator).intercalate ((data.idFields target).map Sha256.utf8)

/-- The fields, each cut where it holds the separator itself, as a flight's does. -/
def idPieces (data : CampaignData) (target : String × List String) : List (List Char) :=
  Joined.pieces separatorChar ((data.idFields target).map String.toList)

end CampaignData

/-- The encoding of the joined text. -/
def joinedBytes (text : List Char) : List Nat := text.flatMap fun c ↦ Sha256.utf8Char c.toNat

theorem joinedBytes_inj {text text' : List Char} (h : joinedBytes text = joinedBytes text') :
    text = text' := by
  have hcodes : ∀ t : List Char, joinedBytes t = (t.map Char.toNat).flatMap Sha256.utf8Char := by
    intro t
    exact (List.flatMap_map ..).symm
  have hscalar : ∀ t : List Char, ∀ c ∈ t.map Char.toNat, JsonText.Scalar c := by
    intro t
    rw [← String.toList_ofList (l := t)]
    exact JsonText.scalar_codes (String.ofList t)
  -- decoding gives the code points back
  have hdecoded : some (text.map Char.toNat) = some (text'.map Char.toNat) := by
    rw [← JsonText.decodeUtf8_flatMap (hscalar text),
      ← JsonText.decodeUtf8_flatMap (hscalar text'), ← hcodes, ← hcodes, h]
  exact List.map_injective_iff.2 (fun _ _ ↦ Char.toNat_inj.1) (Option.some.inj hdecoded)

section Pair

variable {data data' : CampaignData} {target target' : String × List String}

theorem idBytes_eq (data : CampaignData) (target : String × List String) :
    data.idBytes target =
      joinedBytes ([separatorChar].intercalate ((data.idFields target).map String.toList)) := by
  unfold joinedBytes
  rw [Joined.flatMap_intercalate, List.map_map]
  rfl

theorem idFields_ne_nil (data : CampaignData) (target : String × List String) :
    (data.idFields target).map String.toList ≠ [] := by
  unfold CampaignData.idFields
  simp

theorem idBytes_eq_iff :
    data.idBytes target = data'.idBytes target' ↔ data.idPieces target = data'.idPieces target' := by
  unfold CampaignData.idPieces
  rw [← Joined.joined_eq_iff separatorChar (idFields_ne_nil data target)
    (idFields_ne_nil data' target'), idBytes_eq, idBytes_eq]
  constructor
  · intro h
    exact joinedBytes_inj h
  · intro h
    rw [h]

theorem manifestId_of_idFields (h : data.idFields target = data'.idFields target') :
    data.manifestId target = data'.manifestId target' :=
  congrArg hashParts h

/-- Two ids are equal exactly if the hashed fields are, piece by piece. -/
theorem manifestId_eq_iff (hsha : Sha256.Separates (data.idBytes target) (data'.idBytes target')) :
    data.manifestId target = data'.manifestId target' ↔
      data.idPieces target = data'.idPieces target' := by
  rw [← idBytes_eq_iff]
  constructor
  · intro h
    apply hsha
    exact String.append_right_inj _ |>.1 h
  · intro h
    show "sha256:" ++ Sha256.hexdigest (data.idBytes target) =
      "sha256:" ++ Sha256.hexdigest (data'.idBytes target')
    rw [h]

/-! ## What is shown -/

/-- The same playlist, surfaces and validity window. -/
structure Json.ShowsSame (manifest manifest' : Json) : Prop where
  playlist : manifest.get "playlist" = manifest'.get "playlist"
  surfaces : manifest.surfaceIds = manifest'.surfaceIds
  validFrom : manifest.get "valid_from" = manifest'.get "valid_from"
  validTo : manifest.get "valid_to" = manifest'.get "valid_to"

/-- What a playlist item shows of a link and its asset. -/
@[ext]
structure ItemFields where
  sortOrder : Int
  priority : Int
  creativeAssetId : String
  mediaType : String
  sha256Checksum : String
  durationMs : Option Int
  deriving DecidableEq

/-- The playlist's fields, in the order of the rows. -/
def CampaignData.items (data : CampaignData) : List ItemFields :=
  data.creativeAssetRows.map fun row ↦ {
    sortOrder := row.1.sortOrder
    priority := data.campaign.priority
    creativeAssetId := row.2.id
    mediaType := row.2.mediaType
    sha256Checksum := row.2.sha256Checksum
    durationMs := playDuration row.1 row.2 }

/-- The two states agree on the links, the priority, the surfaces and the window. -/
structure CampaignData.SameShown (data data' : CampaignData) (target target' : String × List String) :
    Prop where
  items : data.items = data'.items
  surfaces : sortedTexts target.2 = sortedTexts target'.2
  validFrom : data.validFrom = data'.validFrom
  validTo : data.validTo = data'.validTo

def ItemFields.json (f : ItemFields) : Json := .obj [
  ("order", .num f.sortOrder),
  ("weight", .num (if f.sortOrder = 0 then 1 else f.sortOrder)),
  ("priority", .num f.priority),
  ("creative_asset_id", .str f.creativeAssetId),
  ("media_type", .str f.mediaType),
  ("sha256_checksum", .str f.sha256Checksum),
  ("duration_ms", .ofOption .num f.durationMs),
  ("start_time", .null),
  ("days_of_week", .null)]

theorem ofOption_inj {α : Type} {f : α → Json} (hf : ∀ a b, f a = f b → a = b)
    (hnull : ∀ a, f a ≠ .null) {a b : Option α} (h : Json.ofOption f a = Json.ofOption f b) :
    a = b := by
  cases a with
  | none =>
      cases b with
      | none => rfl
      | some b => exact absurd h.symm (hnull b)
  | some a =>
      cases b with
      | none => exact absurd h (hnull a)
      | some b => exact congrArg some (hf a b h)

theorem itemFields_json_inj {f g : ItemFields} (h : f.json = g.json) : f = g := by
  unfold ItemFields.json at h
  simp only [Json.obj.injEq, List.cons.injEq, Prod.mk.injEq, Json.num.injEq, Json.str.injEq,
    true_and, and_true] at h
  obtain ⟨horder, -, hpriority, hasset, hmedia, hchecksum, hduration⟩ := h
  have hd : f.durationMs = g.durationMs :=
    ofOption_inj (fun _ _ ↦ Json.num.inj) (fun _ ↦ Json.noConfusion) hduration
  exact ItemFields.ext horder hpriority hasset hmedia hchecksum hd

theorem ofOption_str_inj {a b : Option String}
    (h : Json.ofOption .str a = Json.ofOption .str b) : a = b :=
  ofOption_inj (fun _ _ ↦ Json.str.inj) (fun _ ↦ Json.noConfusion) h

theorem generateManifestJson_surfaceIds (a : ManifestArgs) :
    (generateManifestJson a).surfaceIds = sortedTexts a.surfaceIds := by
  change ((sortedTexts a.surfaceIds).map fun s ↦
    surfaceJson (s, Dict.getD a.surfaceCodes s "")).map _ = _
  rw [List.map_map]
  exact List.map_id _

variable (cfg : SecurityConfig) (version : Int) (data target)

theorem manifest_playlist :
    (data.manifest cfg version target).get "playlist" = .arr (data.items.map ItemFields.json) := by
  unfold CampaignData.manifest CampaignData.items
  dsimp only
  rw [get_signed _ (by decide), List.map_map]
  rfl

theorem manifest_surfaceIds :
    (data.manifest cfg version target).surfaceIds = sortedTexts target.2 := by
  have htwice : sortedTexts (sortedTexts target.2) = sortedTexts target.2 :=
    sortedTexts_perm (List.perm_insertionSort _ _)
  unfold CampaignData.manifest
  dsimp only
  rw [signed_surfaceIds, generateManifestJson_surfaceIds, htwice]

theorem manifest_validFrom :
    (data.manifest cfg version target).get "valid_from" = .ofOption .str data.validFrom :=
  get_signed _ (by decide)

theorem manifest_validTo :
    (data.manifest cfg version target).get "valid_to" = .ofOption .str data.validTo :=
  get_signed _ (by decide)

variable {data target}

/-- The manifests show the same exactly if the states agree on what is shown. -/
theorem showsSame_iff (cfg' : SecurityConfig) (version' : Int) :
    (data.manifest cfg version target).ShowsSame (data'.manifest cfg' version' target') ↔
      data.SameShown data' target target' := by
  constructor
  · intro h
    have hplaylist := h.playlist
    rw [manifest_playlist, manifest_playlist] at hplaylist
    have hitems : data.items = data'.items :=
      List.map_injective_iff.2 (fun _ _ ↦ itemFields_json_inj) (Json.arr.inj hplaylist)
    have hsurfaces := h.surfaces
    rw [manifest_surfaceIds, manifest_surfaceIds] at hsurfaces
    have hfrom := h.validFrom
    rw [manifest_validFrom, manifest_validFrom] at hfrom
    have hto := h.validTo
    rw [manifest_validTo, manifest_validTo] at hto
    exact ⟨hitems, hsurfaces, ofOption_str_inj hfrom, ofOption_str_inj hto⟩
  · intro h
    constructor
    · rw [manifest_playlist, manifest_playlist, h.items]
    · rw [manifest_surfaceIds, manifest_surfaceIds, h.surfaces]
    · rw [manifest_validFrom, manifest_validFrom, h.validFrom]
    · rw [manifest_validTo, manifest_validTo, h.validTo]

theorem forall_showsSame_iff :
    (∀ cfg version cfg' version', (data.manifest cfg version target).ShowsSame
      (data'.manifest cfg' version' target')) ↔ data.SameShown data' target target' := by
  constructor
  · intro h
    exact (showsSame_iff {} 0 {} 0).1 (h {} 0 {} 0)
  · intro h cfg version cfg' version'
    exact (showsSame_iff cfg version cfg' version').2 h

/-- With the id equal, the manifests show the same exactly if a hashed piece tells the states apart
or nothing that is shown does: the sort order, duration, media type and pairing of the creatives and
the campaign's priority are shown, and not hashed. -/
theorem id_faithful_iff
    (hsha : Sha256.Separates (data.idBytes target) (data'.idBytes target')) :
    (data.manifestId target = data'.manifestId target' →
      ∀ cfg version cfg' version', (data.manifest cfg version target).ShowsSame
        (data'.manifest cfg' version' target')) ↔
    data.idPieces target ≠ data'.idPieces target' ∨ data.SameShown data' target target' := by
  rw [manifestId_eq_iff hsha, imp_iff_not_or, forall_showsSame_iff]

/-! ## Fields that are cut alike -/

/-- The version with its lists in the order in which they are hashed. -/
def CampaignVersion.sorted (v : CampaignVersion) : CampaignVersion :=
  { v with
    creativeAssetIds := sortedTexts v.creativeAssetIds
    creativeChecksums := sortedTexts v.creativeChecksums
    flightIds := sortedTexts v.flightIds
    flightData := sortedTexts v.flightData
    placementIds := sortedTexts v.placementIds }

/-- As many rows of each kind, and each hashed field with as many separators. -/
structure CampaignData.CutAlike (data data' : CampaignData) (target target' : String × List String) :
    Prop where
  rows : data.creativeAssetRows.length = data'.creativeAssetRows.length
  flights : data.flights.length = data'.flights.length
  placements : data.placements.length = data'.placements.length
  cuts : Joined.cuts separatorChar ((data.idFields target).map String.toList) =
    Joined.cuts separatorChar ((data'.idFields target').map String.toList)

/-- Then the pieces tell every hashed list, and the surfaces with them. -/
theorem hashed_of_idPieces (halike : data.CutAlike data' target target')
    (h : data.idPieces target = data'.idPieces target') :
    data.version.sorted = data'.version.sorted ∧
      sortedTexts target.2 = sortedTexts target'.2 ∧ target.1 = target'.1 := by
  have hfields : data.idFields target = data'.idFields target' :=
    List.map_injective_iff.2 (fun _ _ ↦ String.toList_inj.1) (Joined.pieces_inj halike.cuts h)
  have htwice : ∀ l, sortedTexts (sortedTexts l) = sortedTexts l := by
    intro l
    exact sortedTexts_perm (List.perm_insertionSort _ _)
  have hlength : ∀ {l m : List String}, l.length = m.length →
      (sortedTexts l).length = (sortedTexts m).length := by
    intro l m hlm
    exact (List.length_insertionSort _ _).trans (hlm.trans (List.length_insertionSort _ _).symm)
  unfold CampaignData.idFields CampaignVersion.parts at hfields
  rw [htwice, htwice] at hfields
  simp only [List.append_assoc] at hfields
  -- the lists come off one by one from the left
  obtain ⟨hhead, hfields⟩ := List.append_inj hfields (by simp)
  obtain ⟨hassets, hfields⟩ := List.append_inj hfields
    (hlength (by simpa [CampaignData.version] using halike.rows))
  obtain ⟨hchecksums, hfields⟩ := List.append_inj hfields
    (hlength (by simpa [CampaignData.version] using halike.rows))
  obtain ⟨hflights, hfields⟩ := List.append_inj hfields
    (hlength (by simpa [CampaignData.version] using halike.flights))
  obtain ⟨hdata, hfields⟩ := List.append_inj hfields
    (hlength (by simpa [CampaignData.version] using halike.flights))
  obtain ⟨hplacements, hfields⟩ := List.append_inj hfields
    (hlength (by simpa [CampaignData.version] using halike.placements))
  obtain ⟨hsurfaces, hdevice⟩ := List.append_inj' hfields (by simp)
  simp only [List.cons.injEq, and_true] at hhead hdevice
  refine ⟨?_, hsurfaces, hdevice⟩
  unfold CampaignVersion.sorted
  rw [hhead.1, hhead.2.1, hhead.2.2, hassets, hchecksums, hflights, hdata, hplacements]

/-- No timestamp holds the separator. -/
theorem separator_not_mem_isoText (t : Int) : separatorChar ∉ (isoText t).toList := by
  intro hmem
  have hcode : separatorChar.toNat ∈ dateAlphabet :=
    over_isoText t _ (List.mem_map_of_mem hmem)
  revert hcode
  decide

theorem joined_toList (s t : String) (l : List String) :
    (separator.intercalate (s :: t :: l)).toList =
      s.toList ++ separatorChar :: (separator.intercalate (t :: l)).toList := by
  have hsep : separator.toList = [separatorChar] := by decide
  rw [String.intercalate_cons_cons, String.toList_append, String.toList_append, hsep,
    List.append_assoc, List.singleton_append]

/-- The data of a flight tells its window. -/
theorem dataText_window {f f' : CampaignFlight} (h : f.dataText = f'.dataText) :
    isoText f.startAt = isoText f'.startAt ∧ isoText f.endAt = isoText f'.endAt := by
  have htext := congrArg String.toList h
  unfold CampaignFlight.dataText at htext
  simp only [joined_toList] at htext
  obtain ⟨hstart, hrest⟩ := Joined.first_field_inj (separator_not_mem_isoText _)
    (separator_not_mem_isoText _) htext
  obtain ⟨hend, -⟩ := Joined.first_field_inj (separator_not_mem_isoText _)
    (separator_not_mem_isoText _) hrest
  exact ⟨String.toList_inj.1 hstart, String.toList_inj.1 hend⟩

/-- The flights' timestamps have texts of their own. -/
def CampaignData.TimesTold (data data' : CampaignData) : Prop :=
  ∀ f ∈ data.flights, ∀ f' ∈ data'.flights,
    (isoText f.startAt = isoText f'.startAt → f.startAt = f'.startAt) ∧
      (isoText f.endAt = isoText f'.endAt → f.endAt = f'.endAt)

theorem CampaignData.TimesTold.symm (h : data.TimesTold data') : data'.TimesTold data := by
  intro f' hf' f hf
  obtain ⟨hstart, hend⟩ := h f hf f' hf'
  exact ⟨fun htext ↦ (hstart htext.symm).symm, fun htext ↦ (hend htext.symm).symm⟩

theorem flight_of_flightData (htimes : data.TimesTold data')
    (hdata : sortedTexts data.version.flightData = sortedTexts data'.version.flightData)
    {f : CampaignFlight} (hf : f ∈ data.flights) :
    ∃ f' ∈ data'.flights, f'.startAt = f.startAt ∧ f'.endAt = f.endAt := by
  have hmem : ∀ (d : CampaignData) (s : String), s ∈ d.version.flightData ↔
      ∃ g ∈ d.flights, g.dataText = s := by
    intro d s
    unfold CampaignData.version
    dsimp only
    rw [List.mem_map]
    simp only [List.mem_insertionSort]
  -- sorting keeps the members, so some flight of the other state has the same text
  have hmine : f.dataText ∈ data'.version.flightData := by
    rw [← mem_sortedTexts, ← hdata, mem_sortedTexts, hmem]
    exact ⟨f, hf, rfl⟩
  obtain ⟨f', hf', htext⟩ := (hmem _ _).1 hmine
  obtain ⟨hstart, hend⟩ := dataText_window htext.symm
  obtain ⟨htold, htold'⟩ := htimes f hf f' hf'
  exact ⟨f', hf', (htold hstart).symm, (htold' hend).symm⟩

/-- The flight data tells the times at either end of the flights. -/
theorem mem_flight_times (htimes : data.TimesTold data')
    (hdata : sortedTexts data.version.flightData = sortedTexts data'.version.flightData)
    {time : CampaignFlight → Int}
    (htime : ∀ f f' : CampaignFlight, f'.startAt = f.startAt ∧ f'.endAt = f.endAt →
      time f' = time f) (t : Int) :
    t ∈ data.flights.map time ↔ t ∈ data'.flights.map time := by
  rw [List.mem_map, List.mem_map]
  constructor
  · intro h
    obtain ⟨f, hf, ht⟩ := h
    obtain ⟨f', hf', hwindow⟩ := flight_of_flightData htimes hdata hf
    exact ⟨f', hf', (htime f f' hwindow).trans ht⟩
  · intro h
    obtain ⟨f, hf, ht⟩ := h
    obtain ⟨f', hf', hwindow⟩ := flight_of_flightData htimes.symm hdata.symm hf
    exact ⟨f', hf', (htime f f' hwindow).trans ht⟩

/-- The flight data tells the validity window. -/
theorem window_of_flightData (htimes : data.TimesTold data')
    (hdata : sortedTexts data.version.flightData = sortedTexts data'.version.flightData) :
    data.validFrom = data'.validFrom ∧ data.validTo = data'.validTo := by
  have hstarts := mem_flight_times htimes hdata fun _ _ h ↦ h.1
  have hends := mem_flight_times htimes hdata fun _ _ h ↦ h.2
  have hmin : (data.flights.map (·.startAt)).min? = (data'.flights.map (·.startAt)).min? := by
    apply Option.ext
    intro t
    rw [List.min?_eq_some_iff, List.min?_eq_some_iff]
    simp only [hstarts]
  have hmax : (data.flights.map (·.endAt)).max? = (data'.flights.map (·.endAt)).max? := by
    apply Option.ext
    intro t
    rw [List.max?_eq_some_iff, List.max?_eq_some_iff]
    simp only [hends]
  unfold CampaignData.validFrom CampaignData.validTo
  rw [hmin, hmax]
  exact ⟨rfl, rfl⟩

/-- Between states whose fields are cut alike, surfaces and window are told by the id, and only the
playlist is not. -/
theorem id_faithful_of_cutAlike
    (hsha : Sha256.Separates (data.idBytes target) (data'.idBytes target'))
    (halike : data.CutAlike data' target target') (htimes : data.TimesTold data') :
    (data.manifestId target = data'.manifestId target' →
      ∀ cfg version cfg' version', (data.manifest cfg version target).ShowsSame
        (data'.manifest cfg' version' target')) ↔
    data.idPieces target ≠ data'.idPieces target' ∨ data.items = data'.items := by
  have hshown : data.idPieces target = data'.idPieces target' →
      (data.SameShown data' target target' ↔ data.items = data'.items) := by
    intro hpieces
    obtain ⟨hversion, hsurfaces, -⟩ := hashed_of_idPieces halike hpieces
    obtain ⟨hfrom, hto⟩ :=
      window_of_flightData htimes (congrArg CampaignVersion.flightData hversion)
    exact ⟨fun h ↦ h.items, fun h ↦ ⟨h, hsurfaces, hfrom, hto⟩⟩
  rw [manifestId_eq_iff hsha, imp_iff_not_or]
  by_cases hpieces : data.idPieces target = data'.idPieces target'
  · rw [or_iff_right (not_not.2 hpieces), or_iff_right (not_not.2 hpieces), ← hshown hpieces]
    exact forall_showsSame_iff
  · exact ⟨fun _ ↦ .inl hpieces, fun _ ↦ .inl hpieces⟩

end Pair

/-! Two states of one campaign that differ in the order of its creatives. -/

def reorderedDb : Db :=
  { demoDeliveryDb with
    campaignCreatives := [
      { campaignId := "a", creativeAssetId := "x", sortOrder := 2 },
      { campaignId := "a", creativeAssetId := "y", durationOverrideMs := some 9000 }] }

def demoTarget : String × List String := ("d1", ["s1"])

def Db.demoContent (db : Db) : CampaignData :=
  (db.campaignData "a").getD (loadCampaignData db {
    id := "a", advertiserOrganizationId := "o1", advertiserContractId := "k1", code := "A" } {})

theorem reordered_same_id :
    demoDeliveryDb.campaignData "a" = some demoDeliveryDb.demoContent ∧
    reorderedDb.campaignData "a" = some reorderedDb.demoContent ∧
    demoTarget ∈ (resolveTargets demoDeliveryDb "a").deviceSurfaces ∧
    demoTarget ∈ (resolveTargets reorderedDb "a").deviceSurfaces ∧
    ¬ (demoDeliveryDb.demoContent.manifestId demoTarget =
        reorderedDb.demoContent.manifestId demoTarget →
      ∀ cfg version cfg' version',
        (demoDeliveryDb.demoContent.manifest cfg version demoTarget).ShowsSame
          (reorderedDb.demoContent.manifest cfg' version' demoTarget)) := by
  have hfields : demoDeliveryDb.demoContent.idFields demoTarget =
      reorderedDb.demoContent.idFields demoTarget := by decide +kernel
  have hid := manifestId_of_idFields hfields
  have hitems : demoDeliveryDb.demoContent.items ≠ reorderedDb.demoContent.items := by
    decide +kernel
  refine ⟨rfl, rfl, by decide +kernel, by decide +kernel, ?_⟩
  intro h
  exact hitems ((showsSame_iff {} 0 {} 0).1 (h hid {} 0 {} 0)).items

/-- The same campaign under another code, which is neither hashed nor shown. -/
def recodedDb : Db :=
  { demoDeliveryDb with
    campaigns := [{
      id := "a", advertiserOrganizationId := "o1", advertiserContractId := "k1", code := "B"
      status := .approved }] }

/-- The same campaign without its second creative. -/
def shortenedDb : Db :=
  { demoDeliveryDb with campaignCreatives := [{ campaignId := "a", creativeAssetId := "x" }] }

/-- Another code leaves id and manifests; a creative less gives another id. -/
theorem demo_states_told :
    (demoDeliveryDb.demoContent ≠ recodedDb.demoContent ∧
      ∀ cfg version cfg' version',
        (demoDeliveryDb.demoContent.manifest cfg version demoTarget).ShowsSame
          (recodedDb.demoContent.manifest cfg' version' demoTarget)) ∧
    ¬ demoDeliveryDb.demoContent.SameShown shortenedDb.demoContent demoTarget demoTarget ∧
    demoDeliveryDb.demoContent.idPieces demoTarget ≠
      shortenedDb.demoContent.idPieces demoTarget := by
  have hfields : demoDeliveryDb.demoContent.idFields demoTarget =
      recodedDb.demoContent.idFields demoTarget := by decide +kernel
  have hbytes : demoDeliveryDb.demoContent.idBytes demoTarget =
      recodedDb.demoContent.idBytes demoTarget := by
    unfold CampaignData.idBytes
    rw [hfields]
  have hsame : demoDeliveryDb.demoContent.SameShown recodedDb.demoContent demoTarget
      demoTarget := ⟨by decide +kernel, rfl, rfl, rfl⟩
  have hcode : demoDeliveryDb.demoContent ≠ recodedDb.demoContent := by
    intro h
    exact absurd (congrArg (·.campaign.code) h) (by decide +kernel)
  have hdigests : Sha256.hexdigest (demoDeliveryDb.demoContent.idBytes demoTarget) ≠
      Sha256.hexdigest (shortenedDb.demoContent.idBytes demoTarget) := by decide +kernel
  have hitems : demoDeliveryDb.demoContent.items ≠ shortenedDb.demoContent.items := by
    decide +kernel
  have hother : ¬ demoDeliveryDb.demoContent.SameShown shortenedDb.demoContent demoTarget
      demoTarget := fun h ↦ hitems h.items
  refine ⟨⟨hcode, (id_faithful_iff fun _ ↦ hbytes).2 (.inr hsame)
    (manifestId_of_idFields hfields)⟩, hother, ?_⟩
  -- the digests differ, so that nothing is claimed of the manifests
  have htold := (id_faithful_iff fun h ↦ absurd h hdigests).1 fun hid ↦
    absurd (String.append_right_inj _ |>.1 hid) hdigests
  exact htold.resolve_right hother
end RetailMedia
