import RetailMedia.Auth.Scopes
import RetailMedia.Campaign.Creatives
import RetailMedia.Lib.Interleaving
import RetailMedia.Lib.Sha256

/-! Creative files: upload intents, PUTs through presigned URLs, completions and moderation, and
when the object under a ready asset's key is the one that was checked. -/

namespace RetailMedia

open Interleaving

/-! ## Tables and objects -/

structure StorageConfig where
  creativeStorageBucket : String := "retail-media-creatives"
  creativeMaxFileSizeBytes : Int := 10485760
  creativeAllowedMimeTypes : List String :=
    ["image/png", "image/jpeg", "image/webp", "video/mp4", "image/gif"]
  creativeUploadUrlTtl : Int := 300 * secondMicros
  creativeAutoApproveUploads : Bool := false

structure CreativeUploadSession where
  id : String
  creativeAssetId : String
  advertiserOrganizationId : String
  storageBucket : String
  storageKey : String
  filename : String
  contentType : String
  contentLength : Int
  expiresAt : Int
  completedAt : Option Int := none
  createdBy : Option String := none
  deriving DecidableEq, Repr

structure PresignedUrl where
  key : String
  expiresAt : Int
  deriving DecidableEq, Repr

/-- The tables, the bucket with the last PUT of each key, and the URLs that have been signed. -/
structure MediaDb where
  creativeAssets : List CreativeAsset := []
  uploadSessions : List CreativeUploadSession := []
  objects : String → Option (List Nat) := fun _ ↦ none
  urls : List PresignedUrl := []
  now : Int

def MediaDb.asset (d : MediaDb) (id : String) : Option CreativeAsset :=
  Rows.get CreativeAsset.id id d.creativeAssets

def MediaDb.Accepts (d : MediaDb) (url : PresignedUrl) : Prop :=
  url ∈ d.urls ∧ d.now ≤ url.expiresAt

instance (d : MediaDb) (url : PresignedUrl) : Decidable (d.Accepts url) :=
  inferInstanceAs (Decidable (_ ∧ _))

/-- The bucket asks for a valid signature; which file is sent, it does not know. -/
def MediaDb.put (d : MediaDb) (url : PresignedUrl) (content : List Nat) : MediaDb :=
  if d.Accepts url then { d with objects := Function.update d.objects url.key (some content) }
  else d

/-! ## Requests -/

structure IntentRequest where
  assetId : String
  filename : String
  contentType : String
  contentLength : Int
  scope : ScopeContext
  /-- The key that the session row draws. -/
  sessionId : String

structure CompleteRequest where
  assetId : String
  uploadId : String
  scope : ScopeContext

structure ModerationRequest where
  assetId : String
  status : ModerationStatus
  notes : Option String
  failure : String

inductive UploadTx
  | intent (r : IntentRequest)
  | signing (r : IntentRequest) (orgId : String)
  | recording (r : IntentRequest) (orgId : String)
  | complete (r : CompleteRequest)
  | locating (r : CompleteRequest) (upload : CreativeUploadSession)
  | sizing (r : CompleteRequest) (upload : CreativeUploadSession)
  | hashing (r : CompleteRequest) (upload : CreativeUploadSession)
  | hashed (r : CompleteRequest) (upload : CreativeUploadSession) (content : List Nat)
  | marked (r : CompleteRequest) (upload : CreativeUploadSession) (content : List Nat)
  | closing (r : CompleteRequest) (upload : CreativeUploadSession) (content : List Nat) (at_ : Int)
  | moderation (r : ModerationRequest)
  | moderating (r : ModerationRequest)
  | moderated (r : ModerationRequest)
  | failed (e : HttpError)

def IntentRequest.storageKey (r : IntentRequest) (orgId : String) : String :=
  orgId ++ "/" ++ r.assetId ++ "/" ++ r.filename

/-- `not scope.is_admin and scope.advertiser_scope_ids and org_id not in …`. -/
def ScopeContext.excludes (scope : ScopeContext) (orgId : String) : Bool :=
  !scope.isAdmin ∧ scope.advertiserScopeIds ≠ [] ∧ orgId ∉ scope.advertiserScopeIds

def checkIntent (cfg : StorageConfig) (r : IntentRequest) (d : MediaDb) : UploadTx :=
  if r.contentType ∉ cfg.creativeAllowedMimeTypes then
    .failed ⟨422, "Unsupported media type: " ++ r.contentType⟩
  else if r.contentLength > cfg.creativeMaxFileSizeBytes then
    .failed ⟨422, "File too large: " ++ toString r.contentLength ++ " bytes"⟩
  else
    match d.asset r.assetId with
    | none => .failed ⟨404, "Creative asset not found"⟩
    | some asset =>
        if asset.status ≠ .metadataOnly then
          .failed ⟨409, "Asset already has a file uploaded"⟩
        else if r.scope.excludes asset.advertiserOrganizationId then
          .failed ⟨403, "Not in your organisation scope"⟩
        else .signing r asset.advertiserOrganizationId

def createUploadSession (cfg : StorageConfig) (r : IntentRequest) (orgId : String)
    (d : MediaDb) : MediaDb :=
  { d with
    uploadSessions := d.uploadSessions ++ [{
      id := r.sessionId
      creativeAssetId := r.assetId
      advertiserOrganizationId := orgId
      storageBucket := cfg.creativeStorageBucket
      storageKey := r.storageKey orgId
      filename := r.filename
      contentType := r.contentType
      contentLength := r.contentLength
      expiresAt := d.now + cfg.creativeUploadUrlTtl
      createdBy := some r.scope.userId }] }

def checkUpload (r : CompleteRequest) (d : MediaDb) : UploadTx :=
  match Rows.get CreativeUploadSession.id r.uploadId d.uploadSessions with
  | none => .failed ⟨404, "Upload session not found"⟩
  | some upload =>
      if upload.creativeAssetId ≠ r.assetId then
        .failed ⟨422, "Upload session does not match this asset"⟩
      else if upload.completedAt.isSome then .failed ⟨409, "Upload already completed"⟩
      else if upload.expiresAt < d.now then .failed ⟨410, "Upload session expired"⟩
      else if r.scope.excludes upload.advertiserOrganizationId then
        .failed ⟨403, "Not in your organisation scope"⟩
      else .locating r upload

def checkSize (r : CompleteRequest) (upload : CreativeUploadSession) (d : MediaDb) : UploadTx :=
  let actualSize : Option Int := (d.objects upload.storageKey).map fun bytes ↦ bytes.length
  if actualSize ≠ some upload.contentLength then
    .failed ⟨422, "Size mismatch: expected " ++ toString upload.contentLength ++ ", got " ++
      (actualSize.map toString).getD "None"⟩
  else .hashing r upload

def CompleteRequest.marks (r : CompleteRequest) (a : CreativeAsset) : Bool :=
  a.id = r.assetId ∧ a.status = .metadataOnly

/-- `mark_asset_uploaded`, with the digest of the bytes that were read. -/
def markUploaded (cfg : StorageConfig) (upload : CreativeUploadSession) (content : List Nat)
    (a : CreativeAsset) : CreativeAsset :=
  { a.uploaded upload.storageKey (Sha256.hexdigest content) upload.contentLength
      (if cfg.creativeAutoApproveUploads then .approved else .pendingReview) with
    storageBucket := upload.storageBucket }

def closeUpload (cfg : StorageConfig) (r : CompleteRequest) (upload : CreativeUploadSession)
    (content : List Nat) (at_ : Int) (d : MediaDb) : MediaDb :=
  { d with
    creativeAssets := Rows.updateWhere r.marks (markUploaded cfg upload content) d.creativeAssets
    uploadSessions := Rows.updateWhere (fun u ↦ u.id = r.uploadId ∧ u.completedAt = none)
      (fun u ↦ { u with completedAt := some at_ }) d.uploadSessions }

def decideModeration (r : ModerationRequest) (d : MediaDb) : MediaDb :=
  { d with
    creativeAssets := Rows.updateWhere (·.id = r.assetId) (·.moderated r.status r.notes)
      d.creativeAssets }

/-- An UPDATE waits for the row that its condition selects, and tells whether there was one. -/
def uploadStmt (cfg : StorageConfig) : UploadTx → Stmt String MediaDb UploadTx
  | .intent r => .run (checkIntent cfg r)
  | .signing r orgId => .run fun _ ↦ .recording r orgId
  | .recording r orgId => .commit fun d ↦ some (createUploadSession cfg r orgId d)
  | .complete r => .run (checkUpload r)
  | .locating r upload => .run fun d ↦
      if (d.objects upload.storageKey).isNone then .failed ⟨404, "File not found in storage"⟩
      else .sizing r upload
  | .sizing r upload => .run (checkSize r upload)
  | .hashing r upload => .run fun d ↦
      match d.objects upload.storageKey with
      | none => .failed ⟨500, "Failed to compute checksum"⟩
      | some content => .hashed r upload content
  | .hashed r upload content =>
      .lock (fun d ↦ if d.creativeAssets.any r.marks then some r.assetId else none) fun d ↦
        if d.creativeAssets.any r.marks then .marked r upload content
        else .failed ⟨409, "Asset is not in metadata_only status"⟩
  | .marked r upload content => .run fun d ↦ .closing r upload content d.now
  | .closing r upload content at_ => .commit fun d ↦ some (closeUpload cfg r upload content at_ d)
  | .moderation r => .run fun d ↦
      match d.asset r.assetId with
      | none => .failed ⟨404, "Creative asset not found"⟩
      | some _ => .moderating r
  | .moderating r =>
      .lock (fun d ↦ (d.asset r.assetId).map (·.id)) fun d ↦
        if (d.asset r.assetId).isSome then .moderated r else .failed ⟨409, r.failure⟩
  | .moderated r => .commit fun d ↦ some (decideModeration r d)
  | .failed _ => .commit some

/-! ## Runs -/

inductive MediaLabel (τ : Type*)
  | request (t : τ) (move : Move)
  | put (url : PresignedUrl) (content : List Nat)
  | tick (elapsed : Nat)

section Runs

variable {τ : Type*} (cfg : StorageConfig)

/-- A signature needs no transaction: the URL is good from when it is made. -/
def UploadTx.signed (now : Int) : UploadTx → List PresignedUrl
  | .signing r orgId => [⟨r.storageKey orgId, now + cfg.creativeUploadUrlTtl⟩]
  | _ => []

def signedBy (s : System τ String MediaDb UploadTx) (t : τ) : Move → List PresignedUrl
  | .advance => ((s.tx t).map (·.signed cfg s.data.now)).getD []
  | .abort => []

def mediaNext [DecidableEq τ] (s : System τ String MediaDb UploadTx) :
    MediaLabel τ → System τ String MediaDb UploadTx
  | .request t move =>
      let s' := next (uploadStmt cfg) s (t, move)
      { s' with data := { s'.data with urls := s'.data.urls ++ signedBy cfg s t move } }
  | .put url content => { s with data := s.data.put url content }
  | .tick elapsed => { s with data := { s.data with now := s.data.now + elapsed } }

/-- Every ready asset names the digest of the object under its key. -/
def MediaDb.Intact (d : MediaDb) : Prop :=
  ∀ a ∈ d.creativeAssets, a.status = .ready →
    ∃ content, d.objects a.storageKey = some content ∧
      a.sha256Checksum = Sha256.hexdigest content

/-- A PUT under a ready asset's key sends a file with its digest, and a completion that commits
finds an object with the digest of the one that it has read. -/
def KeepsContent (s : System τ String MediaDb UploadTx) : MediaLabel τ → Prop
  | .put url content => s.data.Accepts url → ∀ a ∈ s.data.creativeAssets, a.status = .ready →
      a.storageKey = url.key → a.sha256Checksum = Sha256.hexdigest content
  | .request t .advance =>
      match s.tx t with
      | some (.closing r upload content _) => s.data.creativeAssets.any r.marks = true →
          ∃ current, s.data.objects upload.storageKey = some current ∧
            Sha256.hexdigest content = Sha256.hexdigest current
      | _ => True
  | _ => True

/-! ## One step -/

theorem MediaDb.Intact.of_eq {d d' : MediaDb} (h : d.Intact)
    (hassets : d'.creativeAssets = d.creativeAssets) (hobjects : d'.objects = d.objects) :
    d'.Intact := by
  intro a ha hready
  rw [hassets] at ha
  rw [hobjects]
  exact h a ha hready

theorem intact_put {d : MediaDb} (h : d.Intact) (url : PresignedUrl) (content : List Nat) :
    (d.put url content).Intact ↔ (d.Accepts url → ∀ a ∈ d.creativeAssets, a.status = .ready →
      a.storageKey = url.key → a.sha256Checksum = Sha256.hexdigest content) := by
  unfold MediaDb.put
  by_cases haccepts : d.Accepts url
  · rw [if_pos haccepts]
    constructor
    · intro h' _ a ha hready hkey
      obtain ⟨stored, hstored, hdigest⟩ := h' a ha hready
      dsimp only at hstored
      rw [hkey, Function.update_self] at hstored
      rw [hdigest, Option.some.inj hstored]
    · intro hput a ha hready
      show ∃ stored, Function.update d.objects url.key (some content) a.storageKey = some stored ∧ _
      by_cases hkey : a.storageKey = url.key
      · rw [hkey, Function.update_self]
        exact ⟨content, rfl, hput haccepts a ha hready hkey⟩
      · rw [Function.update_of_ne hkey]
        exact h a ha hready
  · rw [if_neg haccepts]
    exact ⟨fun _ hacc ↦ absurd hacc haccepts, fun _ ↦ h⟩

theorem intact_closeUpload {d : MediaDb} (h : d.Intact) (r : CompleteRequest)
    (upload : CreativeUploadSession) (content : List Nat) (at_ : Int) :
    (closeUpload cfg r upload content at_ d).Intact ↔ (d.creativeAssets.any r.marks = true →
      ∃ current, d.objects upload.storageKey = some current ∧
        Sha256.hexdigest content = Sha256.hexdigest current) := by
  constructor
  · intro h' hany
    obtain ⟨a, ha, hmarks⟩ := List.any_eq_true.1 hany
    have hnew : markUploaded cfg upload content a ∈
        (closeUpload cfg r upload content at_ d).creativeAssets :=
      Rows.mem_updateWhere.2 ⟨a, ha, if_pos hmarks⟩
    exact h' _ hnew rfl
  · intro hcurrent a' ha' hready
    obtain ⟨a, ha, heq⟩ := Rows.mem_updateWhere.1 ha'
    by_cases hmarks : r.marks a = true
    · rw [if_pos hmarks] at heq
      rw [← heq]
      exact hcurrent (List.any_eq_true.2 ⟨a, ha, hmarks⟩)
    · rw [if_neg hmarks] at heq
      rw [← heq] at hready ⊢
      exact h a ha hready

/-- Moderation concerns neither the file nor what is known of it. -/
theorem intact_decideModeration {d : MediaDb} (h : d.Intact) (r : ModerationRequest) :
    (decideModeration r d).Intact := by
  intro a' ha' hready
  obtain ⟨a, ha, heq⟩ := Rows.mem_updateWhere.1 ha'
  split at heq
  · rw [← heq] at hready ⊢
    exact h a ha hready
  · rw [← heq] at hready ⊢
    exact h a ha hready

variable {cfg} [DecidableEq τ] {s : System τ String MediaDb UploadTx}

/-- Signing a URL changes neither the assets nor the objects. -/
theorem intact_request {t : τ} {move : Move} :
    (mediaNext cfg s (.request t move)).data.Intact ↔
      (next (uploadStmt cfg) s (t, move)).data.Intact :=
  ⟨fun h ↦ h.of_eq rfl rfl, fun h ↦ h.of_eq rfl rfl⟩

theorem mediaNext_intact (h : s.data.Intact) (label : MediaLabel τ) :
    (mediaNext cfg s label).data.Intact ↔ KeepsContent s label := by
  cases label with
  | put url content => exact intact_put h url content
  | tick elapsed => exact iff_true_intro (h.of_eq rfl rfl)
  | request t move =>
      rw [intact_request]
      unfold KeepsContent
      rcases @next_commit_or _ _ _ _ _ _ (uploadStmt cfg) s (t, move) with
        ⟨a, w, d, -, htx, hmove, hw, hd, hnext⟩ | ⟨hcommit, hdata⟩
      · -- four requests commit, and only a completion touches a file's digest
        cases hmove
        rw [hnext]
        show d.Intact ↔ _
        dsimp only at htx ⊢
        rw [htx]
        cases a with
        | recording r orgId =>
            cases hw
            cases hd
            exact iff_true_intro (h.of_eq rfl rfl)
        | closing r upload content at_ =>
            cases hw
            cases hd
            exact intact_closeUpload cfg h r upload content at_
        | moderated r =>
            cases hw
            cases hd
            exact iff_true_intro (intact_decideModeration h r)
        | failed e =>
            cases hw
            cases hd
            exact iff_true_intro h
        | intent r => cases hw
        | signing r orgId => cases hw
        | complete r => cases hw
        | locating r upload => cases hw
        | sizing r upload => cases hw
        | hashing r upload => cases hw
        | hashed r upload content => cases hw
        | marked r upload content => cases hw
        | moderation r => cases hw
        | moderating r => cases hw
      · rw [hdata]
        refine ⟨fun _ ↦ ?_, fun _ ↦ h⟩
        cases move with
        | abort => trivial
        | advance =>
            cases htx : s.tx t with
            | none =>
                dsimp only
                rw [htx]
                trivial
            | some a =>
                dsimp only
                rw [htx]
                cases a with
                | closing r upload content at_ =>
                    -- the last statement of a completion always commits
                    have hrefused := commitOf_none hcommit htx rfl rfl
                    cases hrefused
                | _ => trivial

/-! ## Every interleaving -/

/-- Requests that have not run a statement yet. -/
structure MediaStart (s : System τ String MediaDb UploadTx) : Prop where
  intact : s.data.Intact
  tx : ∀ t a, s.tx t = some a →
    (∃ r, a = .intent r) ∨ (∃ r, a = .complete r) ∨ ∃ r, a = .moderation r
  holder : ∀ row, s.holder row = none

/-- Over every interleaving of requests and PUTs: every ready asset names the digest of the object
under its key in every state exactly if no PUT replaces a checked object by one with another
digest, be it after the asset is ready or between the check and the commit. -/
theorem contentIntact_iff (h : MediaStart s) (l : List (MediaLabel τ)) :
    Run.Always (mediaNext cfg) (·.data.Intact) s l ↔
      Run.Guarded (mediaNext cfg) KeepsContent s l :=
  Run.always_iff_guarded (I := fun _ ↦ True) (A := fun _ ↦ True) (fun _ _ _ _ ↦ trivial)
    (fun _ label _ _ hs ↦ mediaNext_intact hs label) (fun _ _ ↦ trivial) trivial h.intact

end Runs

/-! One asset: its file is sent, checked, and sent again through the same URL. -/

def bannerIntent : IntentRequest where
  assetId := "banner"
  filename := "banner.png"
  contentType := "image/png"
  contentLength := 1
  scope := { userId := "user-1" }
  sessionId := "upload-1"

def bannerComplete : CompleteRequest where
  assetId := "banner"
  uploadId := "upload-1"
  scope := { userId := "user-1" }

def bannerUpload : System Bool String MediaDb UploadTx where
  data := {
    creativeAssets := [{
      id := "banner"
      advertiserOrganizationId := "brand"
      code := "banner"
      mediaType := "image"
      storageKey := "pilot/creatives/banner"
      sha256Checksum := ""
      fileSizeBytes := 0
      status := .metadataOnly
      moderationStatus := .pendingReview }]
    now := 0 }
  holder _ := none
  tx t := some (if t then .intent bannerIntent else .complete bannerComplete)

theorem bannerUpload_start : MediaStart bannerUpload where
  intact a ha hready := by
    rw [List.mem_singleton.1 ha] at hready
    cases hready
  tx t a h := by
    cases t with
    | true => exact .inl ⟨_, (Option.some.inj h).symm⟩
    | false => exact .inr (.inl ⟨_, (Option.some.inj h).symm⟩)
  holder _ := rfl

def bannerUrl : PresignedUrl := ⟨"brand/banner/banner.png", 300 * secondMicros⟩

def checkedUpload : List (MediaLabel Bool) :=
  List.replicate 3 (.request true .advance) ++ .put bannerUrl [1] ::
    List.replicate 7 (.request false .advance)

theorem ready_file_replaced : ¬ ∀ (s : System Bool String MediaDb UploadTx)
    (l : List (MediaLabel Bool)), MediaStart s → Run.Always (mediaNext {}) (·.data.Intact) s l := by
  intro h
  have hend := (h bannerUpload (checkedUpload ++ [.put bannerUrl [2]]) bannerUpload_start).final
  have hasset : ∃ a ∈ (Run.final (mediaNext {}) bannerUpload
      (checkedUpload ++ [.put bannerUrl [2]])).data.creativeAssets, a.status = .ready ∧
        a.storageKey = bannerUrl.key ∧ a.sha256Checksum = Sha256.hexdigest [1] :=
    ⟨_, List.mem_cons_self, rfl, rfl, rfl⟩
  obtain ⟨a, ha, hready, hkey, hdigest⟩ := hasset
  obtain ⟨content, hstored, hsame⟩ := hend a ha hready
  rw [hkey] at hstored
  have hsecond : (Run.final (mediaNext {}) bannerUpload
      (checkedUpload ++ [.put bannerUrl [2]])).data.objects bannerUrl.key = some [2] := by
    decide +kernel
  rw [hsecond] at hstored
  cases hstored
  rw [hdigest] at hsame
  exact absurd hsame (by decide +kernel)

theorem checkedUpload_intact :
    Run.Always (mediaNext {}) (·.data.Intact) bannerUpload checkedUpload :=
  (contentIntact_iff bannerUpload_start checkedUpload).2 (by
    have hput : ∀ a ∈ bannerUpload.data.creativeAssets, a.status ≠ .ready := by decide
    refine ⟨trivial, trivial, trivial, fun _ a ha hready ↦ absurd hready (hput a ha), trivial,
      trivial, trivial, trivial, trivial, trivial, fun _ ↦ ⟨[1], ?_, rfl⟩, trivial⟩
    decide +kernel)

end RetailMedia
