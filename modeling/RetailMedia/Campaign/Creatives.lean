import RetailMedia.Campaign.Lifecycle

/-! Upload and moderation of creative assets.  Neither writes to the outbox. -/

namespace RetailMedia

def CreativeAsset.uploaded (storageKey sha256Checksum : String) (fileSizeBytes : Int)
    (moderationStatus : ModerationStatus) (a : CreativeAsset) : CreativeAsset :=
  { a with
    status := .ready
    moderationStatus := moderationStatus
    storageKey := storageKey
    sha256Checksum := sha256Checksum
    fileSizeBytes := fileSizeBytes }

def CreativeAsset.moderated (status : ModerationStatus) (notes : Option String)
    (a : CreativeAsset) : CreativeAsset :=
  { a with moderationStatus := status, moderationNotes := notes }

def markAssetUploaded (db : Db) (assetId storageKey sha256Checksum : String)
    (fileSizeBytes : Int) (moderationStatus : ModerationStatus) : Db × Bool :=
  let matching (a : CreativeAsset) : Bool := a.id = assetId ∧ a.status = .metadataOnly
  ({ db with
      creativeAssets := Rows.updateWhere matching
        (·.uploaded storageKey sha256Checksum fileSizeBytes moderationStatus) db.creativeAssets },
    db.creativeAssets.any matching)

/-- The update that both moderation decisions make. -/
def moderateAsset (db : Db) (assetId : String) (status : ModerationStatus)
    (notes : Option String) : Db × Bool :=
  ({ db with
      creativeAssets := Rows.updateWhere (·.id = assetId) (·.moderated status notes)
        db.creativeAssets },
    db.creativeAssets.any (·.id = assetId))

def approveCreativeAsset (db : Db) (assetId : String) : Db × Bool :=
  moderateAsset db assetId .approved none

def rejectCreativeAsset (db : Db) (assetId reason : String) : Db × Bool :=
  moderateAsset db assetId .rejected (some reason)

/-! ## Routes -/

structure HttpError where
  statusCode : Nat
  detail : String
  deriving DecidableEq, Repr

structure CreativeModerationResponse where
  assetId : String
  moderationStatus : String
  message : String
  deriving DecidableEq, Repr

/-- The asset must exist and the update must find it; a request that raises is rolled back. -/
def moderationEndpoint (db : Db) (assetId : String) (decide_ : Db → Db × Bool)
    (failure : String) (response : CreativeModerationResponse) :
    Db × Except HttpError CreativeModerationResponse :=
  match Rows.get (·.id) assetId db.creativeAssets with
  | none => (db, .error ⟨404, "Creative asset not found"⟩)
  | some _ =>
      match decide_ db with
      | (_, false) => (db, .error ⟨409, failure⟩)
      | (db', true) => (db', .ok response)

def approveCreativeEndpoint (db : Db) (assetId : String) :
    Db × Except HttpError CreativeModerationResponse :=
  moderationEndpoint db assetId (approveCreativeAsset · assetId)
    "Failed to approve creative asset" ⟨assetId, "approved", "Креатив одобрен"⟩

def rejectCreativeEndpoint (db : Db) (assetId reason : String) :
    Db × Except HttpError CreativeModerationResponse :=
  moderationEndpoint db assetId (rejectCreativeAsset · assetId reason)
    "Failed to reject creative asset" ⟨assetId, "rejected", "Креатив отклонён"⟩

/-- A moderation request changes the assets only, and those as one update. -/
theorem moderationEndpoint_state (db : Db) (assetId : String) (status : ModerationStatus)
    (notes : Option String) (failure : String) (response : CreativeModerationResponse) :
    (moderationEndpoint db assetId (moderateAsset · assetId status notes) failure response).1 =
      (moderateAsset db assetId status notes).1 := by
  unfold moderationEndpoint
  cases hget : Rows.get (·.id) assetId db.creativeAssets with
  | none =>
      have hkept : Rows.updateWhere (fun a : CreativeAsset ↦ a.id = assetId)
          (·.moderated status notes) db.creativeAssets = db.creativeAssets :=
        Rows.updateWhere_eq_self fun a ha ↦ decide_eq_false (Rows.get_eq_none.1 hget a ha)
      unfold moderateAsset
      rw [hkept]
  | some a =>
      have hany : db.creativeAssets.any (·.id = assetId) = true :=
        List.any_eq_true.2 ⟨a, Rows.get_mem hget, decide_eq_true (Rows.get_key hget)⟩
      have hfound : (moderateAsset db assetId status notes).2 = true := hany
      dsimp only
      split
      · rename_i h
        rw [h] at hfound
        cases hfound
      · rename_i h
        rw [h]

theorem approveCreativeEndpoint_state (db : Db) (assetId : String) :
    (approveCreativeEndpoint db assetId).1 = (moderateAsset db assetId .approved none).1 :=
  moderationEndpoint_state db assetId .approved none _ _

theorem rejectCreativeEndpoint_state (db : Db) (assetId reason : String) :
    (rejectCreativeEndpoint db assetId reason).1 =
      (moderateAsset db assetId .rejected (some reason)).1 :=
  moderationEndpoint_state db assetId .rejected (some reason) _ _

end RetailMedia
