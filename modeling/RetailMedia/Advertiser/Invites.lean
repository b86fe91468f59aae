import RetailMedia.Advertiser.Applications
import RetailMedia.Auth.Administrators
import RetailMedia.Auth.Login
import Mathlib

/-! The way of an advertiser into the portal: the application, the organization, the invite and the
account that its acceptance creates. -/

namespace RetailMedia

open JsonText (Text codes)

/-! ## Rows -/

structure AdvertiserInvite where
  id : String
  advertiserApplicationId : String
  advertiserOrganizationId : String
  token : String
  contactEmail : String
  status : String := "pending"
  expiresAt : Int
  acceptedAt : Option Int := none
  acceptedByUserId : Option String := none
  deriving DecidableEq, Repr

structure PortalUser extends LoginUser where
  code : String
  displayName : String
  deriving DecidableEq, Repr

structure PortalCredential extends LocalCredential where
  id : String
  mustChangePassword : Bool
  deriving DecidableEq, Repr

structure PortalMembership extends AdvertiserUserMembership where
  id : String
  deriving DecidableEq, Repr

/-- The foreign keys, and the columns that are unique and filled from elsewhere. -/
structure PortalDb where
  directory : AdvertiserDb := {}
  applications : List AdvertiserApplication := []
  invites : List AdvertiserInvite := []
  users : List PortalUser := []
  roles : List Role := []
  localCredentials : List PortalCredential := []
  userRoles : List RoleAssignment := []
  memberships : List PortalMembership := []
  uniqueTokens : (invites.map (·.token)).Nodup := by decide
  invitesFit : ∀ invite ∈ invites, fitsText 255 invite.contactEmail = true ∧
    invite.advertiserOrganizationId ∈ directory.organizations.map (·.id) := by decide
  credentialUsers : ∀ credential ∈ localCredentials, credential.userId ∈ users.map (·.id) := by
    decide
  userRoleUsers : ∀ userRole ∈ userRoles, userRole.userId ∈ users.map (·.id) := by decide
  membershipUsers : ∀ membership ∈ memberships, membership.userId ∈ users.map (·.id) := by decide

inductive PortalError
  | valueError (message : String)
  | overflowError
  | httpException (statusCode : Nat) (detail : String)
  | database (error : AdvertiserError)
  deriving DecidableEq, Repr

/-- The settings, and the functions that come from elsewhere; a hash of `hashpw` is sixty characters
of ASCII. -/
structure PortalConfig where
  endsWord : Text → Text → Bool
  upper : String → String
  passwordMinLength : Nat := 8
  hashpw : String → Except String { hash : String // fitsText 255 hash = true }

/-! ## Applications -/

structure AdvertiserApplicationCreate where
  companyName : String
  email : String
  consent : Bool
  companyNameLength : lengthWithin 1 255 companyName = true := by decide
  emailLength : lengthWithin 1 255 email = true := by decide

def stripped (s : String) : String := PyText.string (PyText.strip (codes s))

def submitApplication (db : PortalDb) (id : String) (body : AdvertiserApplicationCreate) :
    Except PortalError PortalDb :=
  if body.consent = false then
    .error (.httpException 422 "Требуется согласие на обработку данных")
  else
    let application : AdvertiserApplication :=
      { id := id, companyName := stripped body.companyName, email := stripped body.email }
    if fitsText 255 application.companyName = false ∨ fitsText 255 application.email = false then
      .error (.database .dataError)
    else if id ∈ db.applications.map (·.id) then .error (.database .integrityError)
    else .ok { db with applications := db.applications ++ [application] }

/-- The status after the review, or the text of its `ValueError`. -/
def reviewStatus (status action : String) : Except String String :=
  if action = "reviewing" then
    if status ≠ "new" then .error ("Cannot start review — current status: " ++ status)
    else .ok "reviewing"
  else if action = "approve" then
    if status ∉ ["new", "reviewing"] then .error ("Cannot approve — current status: " ++ status)
    else .ok "approved"
  else if action = "reject" then
    if status ∉ ["new", "reviewing"] then .error ("Cannot reject — current status: " ++ status)
    else .ok "rejected"
  else .error ("Invalid action: " ++ action)

theorem insertOrganization_keeps {db db' : AdvertiserDb} {row organization : NamedOrganization}
    (h : insertOrganization db row = .ok (db', organization)) :
    db.organizations.map (·.id) ⊆ db'.organizations.map (·.id) := by
  unfold insertOrganization at h
  split at h
  · cases h
  · split at h
    · cases h
      rw [List.map_append]
      exact List.subset_append_left _ _
    · cases h

def reviewApplication (cfg : PortalConfig) (db : PortalDb)
    (applicationId action organizationId : String) : Except PortalError PortalDb :=
  match Rows.get AdvertiserApplication.id applicationId db.applications with
  | none => .error (.httpException 409 "Application not found")
  | some application =>
      match reviewStatus application.status action with
      | .error message => .error (.httpException 409 message)
      | .ok status =>
          if action = "approve" then
            match h : createAdvertiserFromApplication cfg.endsWord db.directory organizationId
                application with
            | .error error => .error (.database error)
            | .ok (directory, organization) =>
                .ok { db with
                  directory := directory
                  applications := Rows.updateWhere (·.id = applicationId)
                    (fun a ↦ { a with status := status, organizationId := some organization.id })
                    db.applications
                  invitesFit := fun invite hinvite ↦
                    ⟨(db.invitesFit invite hinvite).1,
                      insertOrganization_keeps h (db.invitesFit invite hinvite).2⟩ }
          else
            .ok { db with
              applications := Rows.updateWhere (·.id = applicationId)
                (fun a ↦ { a with status := status }) db.applications }

/-! ## Invites -/

/-- An update of invites that leaves their tokens, addresses and organizations. -/
def PortalDb.updateInvites (db : PortalDb) (p : AdvertiserInvite → Bool)
    (f : AdvertiserInvite → AdvertiserInvite) (htoken : ∀ i, (f i).token = i.token)
    (hemail : ∀ i, (f i).contactEmail = i.contactEmail)
    (horganization : ∀ i, (f i).advertiserOrganizationId = i.advertiserOrganizationId) :
    PortalDb :=
  { db with
    invites := Rows.updateWhere p f db.invites
    uniqueTokens := by
      rw [Rows.map_updateWhere _ htoken]
      exact db.uniqueTokens
    invitesFit := by
      intro invite hinvite
      obtain ⟨i, hi, rfl⟩ := Rows.mem_updateWhere.1 hinvite
      split_ifs
      · rw [hemail, horganization]
        exact db.invitesFit i hi
      · exact db.invitesFit i hi }

def insertInvite (db : PortalDb) (invite : AdvertiserInvite) : Except PortalError PortalDb :=
  if hfits : fitsText 255 invite.contactEmail = false then .error (.database .dataError)
  else if h : invite.id ∉ db.invites.map (·.id) ∧ invite.token ∉ db.invites.map (·.token) ∧
      invite.advertiserOrganizationId ∈ db.directory.organizations.map (·.id) then
    .ok { db with
      invites := db.invites ++ [invite]
      uniqueTokens := by
        rw [List.map_append]
        exact Rows.nodup_concat db.uniqueTokens h.2.1
      invitesFit := by
        intro i hi
        rcases List.mem_append.1 hi with hold | hnew
        · exact db.invitesFit i hold
        · rw [List.mem_singleton.1 hnew]
          exact ⟨Bool.of_not_eq_false hfits, h.2.2⟩ }
  else .error (.database .integrityError)

/-- Seven days, in microseconds. -/
def inviteTtl : Int := 7 * 86400 * 1000000

/-- Pending invites of the application expire first. -/
def createAdvertiserInvite (db : PortalDb) (now : Int) (id token : String)
    (applicationId organizationId contactEmail : String) : Except PortalError PortalDb :=
  let db := db.updateInvites
    (fun i ↦ i.advertiserApplicationId = applicationId ∧ i.status = "pending")
    (fun i ↦ { i with status := "expired" }) (fun _ ↦ rfl) (fun _ ↦ rfl) (fun _ ↦ rfl)
  if fitsInstant (now + inviteTtl) = false then .error .overflowError
  else
    insertInvite db
      { id := id
        advertiserApplicationId := applicationId
        advertiserOrganizationId := organizationId
        token := token
        contactEmail := contactEmail
        expiresAt := now + inviteTtl }

def createApplicationInvite (db : PortalDb) (now : Int) (id token applicationId : String) :
    Except PortalError PortalDb :=
  match Rows.get AdvertiserApplication.id applicationId db.applications with
  | none => .error (.httpException 404 "Заявка не найдена")
  | some application =>
      if application.status ≠ "approved" then
        .error (.httpException 409 "Приглашение можно создать только для одобренной заявки")
      else if application.organizationId.getD "" = "" then
        .error (.httpException 409 "У заявки нет связанной организации — сначала одобрите заявку")
      else
        createAdvertiserInvite db now id token applicationId
          (application.organizationId.getD "") application.email

/-! ## Accounts -/

/-- The keys that a new account draws. -/
structure AccountKeys where
  userId : String
  credentialId : String
  userRoleId : String
  membershipId : String
  deriving DecidableEq, Repr

structure NewAccount where
  code : String
  username : String
  displayName : String
  passwordHash : String
  advertiserOrganizationId : String
  roleId : String
  mustChangePassword : Bool := true
  isActive : Bool := true

namespace NewAccount

variable (account : NewAccount) (keys : AccountKeys)

def status : String := if account.isActive then "active" else "inactive"

def user : PortalUser where
  id := keys.userId
  code := account.code
  username := account.username
  displayName := account.displayName
  authProvider := "local_advertiser"
  status := account.status

def credential : PortalCredential where
  id := keys.credentialId
  userId := keys.userId
  credentialType := "local_advertiser"
  passwordHash := account.passwordHash
  mustChangePassword := account.mustChangePassword
  status := account.status

def userRole : RoleAssignment where
  id := keys.userRoleId
  userId := keys.userId
  roleId := account.roleId
  scopeType := some "advertiser"
  scopeId := some account.advertiserOrganizationId
  scopePair := Option.isNone_some.trans Option.isNone_some.symm

def membership : PortalMembership where
  id := keys.membershipId
  userId := keys.userId
  advertiserOrganizationId := account.advertiserOrganizationId

end NewAccount

def PortalUser.fits (user : PortalUser) : Bool :=
  fitsText 64 user.code && fitsText 128 user.username && fitsText 255 user.displayName

theorem mem_users_concat {α : Type} {owner : α → String} {l : List α} {users : List PortalUser}
    {user : PortalUser} {row : α} (h : ∀ x ∈ l, owner x ∈ users.map (·.id))
    (hrow : owner row = user.id) : ∀ x ∈ l ++ [row], owner x ∈ (users ++ [user]).map (·.id) := by
  intro x hx
  rw [List.map_append]
  rcases List.mem_append.1 hx with hold | hnew
  · exact List.mem_append_left _ (h x hold)
  · rw [List.mem_singleton.1 hnew, hrow]
    exact List.mem_append_right _ List.mem_cons_self

def PortalDb.addAccount (db : PortalDb) (keys : AccountKeys) (account : NewAccount) : PortalDb :=
  { db with
    users := db.users ++ [account.user keys]
    localCredentials := db.localCredentials ++ [account.credential keys]
    userRoles := db.userRoles ++ [account.userRole keys]
    memberships := db.memberships ++ [account.membership keys]
    credentialUsers := mem_users_concat db.credentialUsers rfl
    userRoleUsers := mem_users_concat db.userRoleUsers rfl
    membershipUsers := mem_users_concat db.membershipUsers rfl }

/-- The user is written first. The other unique columns of the rows after it hold the key of the
user, which is new. -/
def createLocalAdvertiserUser (db : PortalDb) (keys : AccountKeys) (account : NewAccount) :
    Except PortalError (PortalDb × PortalUser) :=
  let user := account.user keys
  -- the first flush
  if user.fits = false then .error (.database .dataError)
  else if user.id ∈ db.users.map (·.id) ∨ user.code ∈ db.users.map (·.code) ∨
      user.username ∈ db.users.map (·.username) then
    .error (.database .integrityError)
  -- the second flush
  else if fitsText 255 account.passwordHash = false then .error (.database .dataError)
  else if keys.credentialId ∈ db.localCredentials.map (·.id) ∨
      keys.userRoleId ∈ db.userRoles.map (·.id) ∨ keys.membershipId ∈ db.memberships.map (·.id) ∨
      account.roleId ∉ db.roles.map (·.id) ∨
      account.advertiserOrganizationId ∉ db.directory.organizations.map (·.id) then
    .error (.database .integrityError)
  else .ok (db.addAccount keys account, user)

def validatePassword (cfg : PortalConfig) (plain : String) : Except PortalError Unit :=
  if plain = "" then .error (.valueError "Password must not be empty")
  else if plain.length < cfg.passwordMinLength then
    .error (.valueError
      ("Password must be at least " ++ cfg.passwordMinLength.repr ++ " characters"))
  else .ok ()

def hashPassword (cfg : PortalConfig) (plain : String) : Except PortalError String :=
  match validatePassword cfg plain with
  | .error error => .error error
  | .ok () =>
      match cfg.hashpw plain with
      | .error message => .error (.valueError message)
      | .ok hash => .ok hash.val

structure CreateLocalAdvertiserRequest where
  username : String
  displayName : String
  advertiserOrganizationId : String
  temporaryPassword : Option String := none
  autoGeneratePassword : Bool := false
  mustChangePassword : Bool := true
  isActive : Bool := true
  usernameLength : lengthWithin 3 128 username = true := by decide
  displayNameLength : lengthWithin 1 255 displayName = true := by decide
  organizationIdLength : lengthWithin 1 36 advertiserOrganizationId = true := by decide
  passwordLength : temporaryPassword.elim true (lengthWithin 8 128) = true := by decide

/-- `drawn` are the eight hexadecimal digits of a new UUID. -/
def generateUserCode (cfg : PortalConfig) (username drawn : String) : String :=
  let prefixed := PyText.replace (codes " ") (codes "_") (codes (cfg.upper username))
  PyText.string (prefixed.take 32) ++ "-" ++ drawn

def createLocalAdvertiser (cfg : PortalConfig) (db : PortalDb) (keys : AccountKeys)
    (drawn generated : String) (body : CreateLocalAdvertiserRequest) :
    Except PortalError PortalDb :=
  if body.username ∈ db.users.map (·.username) then
    .error (.httpException 409 "Username already taken")
  else if body.advertiserOrganizationId ∉ db.directory.organizations.map (·.id) then
    .error (.httpException 404 "Advertiser organization not found")
  else if body.autoGeneratePassword = false ∧ body.temporaryPassword.getD "" = "" then
    .error (.httpException 422
      "Either temporary_password or auto_generate_password must be provided")
  else
    let password :=
      if body.autoGeneratePassword then generated else body.temporaryPassword.getD ""
    match hashPassword cfg password with
    | .error error => .error error
    | .ok hash =>
        match Rows.get Role.code "advertiser" db.roles with
        | none => .error (.httpException 500 "Advertiser role not found in system")
        | some role =>
            let account : NewAccount :=
              { code := generateUserCode cfg body.username drawn
                username := body.username
                displayName := body.displayName
                passwordHash := hash
                advertiserOrganizationId := body.advertiserOrganizationId
                roleId := role.id
                mustChangePassword := body.mustChangePassword
                isActive := body.isActive }
            match createLocalAdvertiserUser db keys account with
            | .error error => .error error
            | .ok (db', _) => .ok db'

/-! ## Acceptance -/

/-- `contact_email.split("@")[0]`. -/
def localPart (email : String) : String := String.ofList (email.toList.takeWhile (· ≠ '@'))

def inviteCode (email : String) : String :=
  -- two cuts, and no suffix that tells two local parts apart
  let username := (localPart email).toList.take 64
  "adv-" ++ String.ofList (username.take 32)

def AdvertiserInvite.account (invite : AdvertiserInvite) (roleId passwordHash : String) :
    NewAccount where
  code := inviteCode invite.contactEmail
  username := invite.contactEmail
  displayName := localPart invite.contactEmail
  passwordHash := passwordHash
  advertiserOrganizationId := invite.advertiserOrganizationId
  roleId := roleId
  mustChangePassword := false

structure AcceptRequest where
  token : String
  password : String
  now : Int
  keys : AccountKeys

def AcceptRequest.accepted (r : AcceptRequest) (invite : AdvertiserInvite) : AdvertiserInvite :=
  { invite with
    status := "accepted"
    acceptedAt := some r.now
    acceptedByUserId := some r.keys.userId }

def AdvertiserInvite.openAccount (invite : AdvertiserInvite) (cfg : PortalConfig) (db : PortalDb)
    (r : AcceptRequest) (role : Role) : Except PortalError PortalDb :=
  match hashPassword cfg r.password with
  | .error error => .error error
  | .ok hash =>
      match createLocalAdvertiserUser db r.keys (invite.account role.id hash) with
      | .error error => .error error
      | .ok (db', _) =>
          .ok (db'.updateInvites (·.token = r.token) r.accepted (fun _ ↦ rfl) (fun _ ↦ rfl)
            (fun _ ↦ rfl))

/-- An error rolls everything back, the status of an expired invite too. -/
def acceptAdvertiserInvite (cfg : PortalConfig) (db : PortalDb) (r : AcceptRequest) :
    Except PortalError PortalDb :=
  match Rows.get AdvertiserInvite.token r.token db.invites with
  | none => .error (.valueError "Недействительный код приглашения")
  | some invite =>
      if invite.status = "accepted" then .error (.valueError "Приглашение уже использовано")
      else if invite.status = "expired" ∨ invite.expiresAt < r.now then
        .error (.valueError "Срок действия приглашения истёк")
      else if invite.status ≠ "pending" then
        .error (.valueError ("Приглашение не может быть принято — статус: " ++ invite.status))
      else if invite.advertiserOrganizationId ∉ db.directory.organizations.map (·.id) then
        .error (.valueError "Организация не найдена")
      else
        match Rows.get Role.code "advertiser" db.roles with
        | none => .error (.valueError "Роль advertiser не найдена — проверьте seed")
        | some role => invite.openAccount cfg db r role

/-! ## Runs -/

inductive PortalEvent
  | submit (id : String) (body : AdvertiserApplicationCreate)
  | review (applicationId action organizationId : String)
  | invite (now : Int) (id token applicationId : String)
  | create (keys : AccountKeys) (drawn generated : String) (body : CreateLocalAdvertiserRequest)
  | accept (r : AcceptRequest)

def PortalEvent.result (cfg : PortalConfig) (db : PortalDb) :
    PortalEvent → Except PortalError PortalDb
  | .submit id body => submitApplication db id body
  | .review applicationId action organizationId =>
      reviewApplication cfg db applicationId action organizationId
  | .invite now id token applicationId => createApplicationInvite db now id token applicationId
  | .create keys drawn generated body => createLocalAdvertiser cfg db keys drawn generated body
  | .accept r => acceptAdvertiserInvite cfg db r

def portalNext (cfg : PortalConfig) (db : PortalDb) (e : PortalEvent) : PortalDb :=
  match e.result cfg db with
  | .ok db' => db'
  | .error _ => db

def PortalDb.Seeded (db : PortalDb) : Prop := ∃ role ∈ db.roles, role.code = "advertiser"

instance (db : PortalDb) : Decidable db.Seeded :=
  inferInstanceAs (Decidable (∃ role ∈ db.roles, role.code = "advertiser"))

/-- A pending invite that has not expired, for an address that no user has. -/
structure ValidInvite (db : PortalDb) (r : AcceptRequest) (invite : AdvertiserInvite) : Prop where
  mem : invite ∈ db.invites
  token : invite.token = r.token
  pending : invite.status = "pending"
  unexpired : r.now ≤ invite.expiresAt
  newUsername : invite.contactEmail ∉ db.users.map (·.username)
  newEmail : some invite.contactEmail ∉ db.users.map (·.email)

/-- The acceptance creates the user with its membership and its role. -/
structure InviteTaken (db db' : PortalDb) (r : AcceptRequest) (invite : AdvertiserInvite) :
    Prop where
  user : ∃ user, db'.users = db.users ++ [user] ∧ user.id = r.keys.userId ∧
    user.username = invite.contactEmail
  membership : ∃ membership, db'.memberships = db.memberships ++ [membership] ∧
    membership.userId = r.keys.userId ∧ membership.status = "active" ∧
    membership.advertiserOrganizationId = invite.advertiserOrganizationId
  userRole : ∃ userRole, db'.userRoles = db.userRoles ++ [userRole] ∧
    userRole.userId = r.keys.userId ∧ userRole.scopeId = some invite.advertiserOrganizationId ∧
    ∃ role ∈ db.roles, role.code = "advertiser" ∧ userRole.roleId = role.id
  accepted : r.accepted invite ∈ db'.invites

def AcceptSucceeds (cfg : PortalConfig) (db : PortalDb) (r : AcceptRequest)
    (invite : AdvertiserInvite) : Prop :=
  ∃ db', acceptAdvertiserInvite cfg db r = .ok db' ∧ InviteTaken db db' r invite

/-- The drawn keys are new. -/
structure AccountKeys.New (keys : AccountKeys) (db : PortalDb) : Prop where
  user : keys.userId ∉ db.users.map (·.id)
  credential : keys.credentialId ∉ db.localCredentials.map (·.id)
  userRole : keys.userRoleId ∉ db.userRoles.map (·.id)
  membership : keys.membershipId ∉ db.memberships.map (·.id)

/-- No user has the code that is made from the address, and the address fits a username. -/
structure InviteAcceptable (cfg : PortalConfig) (db : PortalDb) (r : AcceptRequest)
    (invite : AdvertiserInvite) : Prop where
  newCode : inviteCode invite.contactEmail ∉ db.users.map (·.code)
  shortAddress : invite.contactEmail.length ≤ 128
  password : ∃ hash, hashPassword cfg r.password = .ok hash
  newKeys : r.keys.New db

/-! ## One acceptance -/

section Acceptance

variable {cfg : PortalConfig} {db : PortalDb} {r : AcceptRequest} {invite : AdvertiserInvite}

theorem storable_sublist {s : String} {l : List Char} (h : storableText s = true)
    (hl : l.Sublist s.toList) : storableText (String.ofList l) = true := by
  unfold storableText at h ⊢
  rw [decide_eq_true_eq] at h ⊢
  rw [String.toList_ofList]
  intro hzero
  exact h (hl.subset hzero)

theorem localPart_sublist (email : String) :
    (localPart email).toList.Sublist email.toList := by
  unfold localPart
  rw [String.toList_ofList]
  exact List.takeWhile_sublist _

theorem fitsText_iff {length : Nat} {s : String} :
    fitsText length s = true ↔ s.length ≤ length ∧ storableText s = true :=
  decide_eq_true_iff

theorem inviteCode_fits {email : String} (h : storableText email = true) :
    fitsText 64 (inviteCode email) = true := by
  have hlocal : storableText (localPart email) = true :=
    storable_sublist h (List.takeWhile_sublist _)
  have hprefix : storableText (String.ofList (((localPart email).toList.take 64).take 32)) = true :=
    storable_sublist hlocal ((List.take_sublist 32 _).trans (List.take_sublist 64 _))
  have hlength : (String.ofList (((localPart email).toList.take 64).take 32)).length ≤ 32 := by
    rw [String.length_ofList]
    exact List.length_take_le _ _
  have hadv : "adv-".length = 4 := rfl
  rw [fitsText_iff]
  unfold inviteCode
  constructor
  · rw [String.length_append]
    omega
  · unfold storableText at hprefix ⊢
    rw [decide_eq_true_eq] at hprefix ⊢
    rw [String.toList_append, List.mem_append, not_or]
    exact ⟨by decide, hprefix⟩

/-- Of an address that fits its own column, only the username can be too long. -/
theorem account_fits_iff {roleId passwordHash : String} {keys : AccountKeys}
    (h : fitsText 255 invite.contactEmail = true) :
    ((invite.account roleId passwordHash).user keys).fits = true ↔
      invite.contactEmail.length ≤ 128 := by
  obtain ⟨hlength, hstorable⟩ := fitsText_iff.1 h
  have hlocal : fitsText 255 (localPart invite.contactEmail) = true :=
    fitsText_iff.2 ⟨(localPart_sublist invite.contactEmail).length_le.trans hlength,
      storable_sublist hstorable (List.takeWhile_sublist _)⟩
  have hcode : fitsText 64 (inviteCode invite.contactEmail) = true := inviteCode_fits hstorable
  unfold PortalUser.fits NewAccount.user AdvertiserInvite.account
  rw [hcode, hlocal, Bool.true_and, Bool.and_true, fitsText_iff]
  constructor
  · intro h
    exact h.1
  · intro hshort
    exact ⟨hshort, hstorable⟩

/-- What lets an account in. -/
structure AccountAccepted (db : PortalDb) (keys : AccountKeys) (account : NewAccount) : Prop where
  fits : (account.user keys).fits = true
  newCode : account.code ∉ db.users.map (·.code)
  newUsername : account.username ∉ db.users.map (·.username)
  hash : fitsText 255 account.passwordHash = true
  newKeys : keys.New db
  role : account.roleId ∈ db.roles.map (·.id)
  organization : account.advertiserOrganizationId ∈ db.directory.organizations.map (·.id)

theorem createLocalAdvertiserUser_iff {keys : AccountKeys} {account : NewAccount}
    {result : PortalDb × PortalUser} :
    createLocalAdvertiserUser db keys account = .ok result ↔
      AccountAccepted db keys account ∧
        result = (db.addAccount keys account, account.user keys) := by
  unfold createLocalAdvertiserUser
  constructor
  · intro h
    dsimp only at h
    split_ifs at h with hfits hkeys hhash hrows
    simp only [not_or, not_not] at hkeys hrows
    obtain ⟨hcredential, huserRole, hmembership, hrole, horganization⟩ := hrows
    exact ⟨⟨Bool.of_not_eq_false hfits, hkeys.2.1, hkeys.2.2, Bool.of_not_eq_false hhash,
      ⟨hkeys.1, hcredential, huserRole, hmembership⟩, hrole, horganization⟩,
      (Except.ok.inj h).symm⟩
  · intro ⟨h, hresult⟩
    have hrows : ¬ (keys.credentialId ∈ db.localCredentials.map (·.id) ∨
        keys.userRoleId ∈ db.userRoles.map (·.id) ∨ keys.membershipId ∈ db.memberships.map (·.id) ∨
        account.roleId ∉ db.roles.map (·.id) ∨
        account.advertiserOrganizationId ∉ db.directory.organizations.map (·.id)) := by
      simp only [not_or, not_not]
      exact ⟨h.newKeys.credential, h.newKeys.userRole, h.newKeys.membership, h.role,
        h.organization⟩
    have hkeys : ¬ ((account.user keys).id ∈ db.users.map (·.id) ∨
        (account.user keys).code ∈ db.users.map (·.code) ∨
        (account.user keys).username ∈ db.users.map (·.username)) := by
      simp only [not_or]
      exact ⟨h.newKeys.user, h.newCode, h.newUsername⟩
    dsimp only
    rw [if_neg (by rw [h.fits]; decide), if_neg hkeys, if_neg (by rw [h.hash]; decide),
      if_neg hrows, hresult]

theorem hashPassword_fits {plain hash : String} (h : hashPassword cfg plain = .ok hash) :
    fitsText 255 hash = true := by
  unfold hashPassword at h
  split at h
  · cases h
  · split at h
    · cases h
    · rename_i hash' _
      rw [← Except.ok.inj h]
      exact hash'.property

/-- A valid invite comes to the creation of its account. -/
theorem acceptAdvertiserInvite_eq (cfg : PortalConfig) (hseeded : db.Seeded)
    (h : ValidInvite db r invite) :
    ∃ role, (role ∈ db.roles ∧ role.code = "advertiser") ∧
      acceptAdvertiserInvite cfg db r = invite.openAccount cfg db r role := by
  obtain ⟨seed, hseed, hadvertiser⟩ := hseeded
  have hsome : (Rows.get Role.code "advertiser" db.roles).isSome := by
    rw [Rows.get_isSome]
    exact hadvertiser ▸ List.mem_map_of_mem hseed
  obtain ⟨role, hrole⟩ := Option.isSome_iff_exists.1 hsome
  have hinvite : Rows.get AdvertiserInvite.token r.token db.invites = some invite := by
    rw [← h.token]
    exact Rows.get_of_mem db.uniqueTokens h.mem
  -- none of the checks before the account refuses a valid invite
  have hnot : ¬ (invite.status = "expired" ∨ invite.expiresAt < r.now) := by
    rw [h.pending]
    exact not_or_intro (by decide) (not_lt.2 h.unexpired)
  refine ⟨role, ⟨Rows.get_mem hrole, Rows.get_key hrole⟩, ?_⟩
  unfold acceptAdvertiserInvite
  rw [hinvite, hrole]
  dsimp only
  rw [if_neg (by rw [h.pending]; decide), if_neg hnot, if_neg (not_not.2 h.pending),
    if_neg (not_not.2 (db.invitesFit invite h.mem).2)]

theorem openAccount_iff {role : Role} {db' : PortalDb} :
    invite.openAccount cfg db r role = .ok db' ↔
      ∃ hash, hashPassword cfg r.password = .ok hash ∧
        AccountAccepted db r.keys (invite.account role.id hash) ∧
        db' = (db.addAccount r.keys (invite.account role.id hash)).updateInvites
          (·.token = r.token) r.accepted (fun _ ↦ rfl) (fun _ ↦ rfl) (fun _ ↦ rfl) := by
  unfold AdvertiserInvite.openAccount
  constructor
  · intro h
    split at h
    · cases h
    · rename_i hash hhash
      split at h
      · cases h
      · rename_i added user hcreate
        obtain ⟨haccepted, hresult⟩ := createLocalAdvertiserUser_iff.1 hcreate
        cases hresult
        exact ⟨hash, hhash, haccepted, (Except.ok.inj h).symm⟩
  · intro ⟨hash, hhash, haccepted, hdb⟩
    rw [hhash, hdb]
    dsimp only
    rw [createLocalAdvertiserUser_iff.2 ⟨haccepted, rfl⟩]

/-- The account of a valid invite is one that the tables take. -/
theorem accountAccepted_iff {role : Role} {hash : String} (h : ValidInvite db r invite)
    (hrole : role ∈ db.roles) (hhash : fitsText 255 hash = true) :
    AccountAccepted db r.keys (invite.account role.id hash) ↔
      inviteCode invite.contactEmail ∉ db.users.map (·.code) ∧
        invite.contactEmail.length ≤ 128 ∧ r.keys.New db := by
  obtain ⟨haddress, horganization⟩ := db.invitesFit invite h.mem
  constructor
  · intro haccepted
    exact ⟨haccepted.newCode, (account_fits_iff haddress).1 haccepted.fits, haccepted.newKeys⟩
  · intro ⟨hcode, hshort, hkeys⟩
    exact {
      fits := (account_fits_iff haddress).2 hshort
      newCode := hcode
      newUsername := h.newUsername
      hash := hhash
      newKeys := hkeys
      role := List.mem_map_of_mem hrole
      organization := horganization }

theorem inviteTaken {role : Role} {hash : String} (h : ValidInvite db r invite)
    (hrole : role ∈ db.roles) (hadvertiser : role.code = "advertiser") :
    InviteTaken db ((db.addAccount r.keys (invite.account role.id hash)).updateInvites
      (·.token = r.token) r.accepted (fun _ ↦ rfl) (fun _ ↦ rfl) (fun _ ↦ rfl)) r invite where
  user := ⟨_, rfl, rfl, rfl⟩
  membership := ⟨_, rfl, rfl, rfl, rfl⟩
  userRole := ⟨_, rfl, rfl, rfl, role, hrole, hadvertiser, rfl⟩
  accepted := by
    have htoken : decide (invite.token = r.token) = true := decide_eq_true h.token
    exact Rows.mem_updateWhere.2 ⟨invite, h.mem, if_pos htoken⟩

theorem acceptSucceeds_iff (hseeded : db.Seeded) (h : ValidInvite db r invite) :
    AcceptSucceeds cfg db r invite ↔ InviteAcceptable cfg db r invite := by
  obtain ⟨role, ⟨hrole, hadvertiser⟩, hopen⟩ := acceptAdvertiserInvite_eq cfg hseeded h
  constructor
  · intro ⟨db', haccept, _⟩
    rw [hopen] at haccept
    obtain ⟨hash, hhash, haccepted, -⟩ := openAccount_iff.1 haccept
    obtain ⟨hcode, hshort, hkeys⟩ :=
      (accountAccepted_iff h hrole (hashPassword_fits hhash)).1 haccepted
    exact ⟨hcode, hshort, ⟨hash, hhash⟩, hkeys⟩
  · intro ⟨hcode, hshort, ⟨hash, hhash⟩, hkeys⟩
    have haccepted := (accountAccepted_iff h hrole (hashPassword_fits hhash)).2
      ⟨hcode, hshort, hkeys⟩
    exact ⟨_, hopen.trans (openAccount_iff.2 ⟨hash, hhash, haccepted, rfl⟩),
      inviteTaken h hrole hadvertiser⟩

end Acceptance

/-! ## All runs -/

section Runs

variable {cfg : PortalConfig} {db db' : PortalDb}

theorem submitApplication_roles {id : String} {body : AdvertiserApplicationCreate}
    (h : submitApplication db id body = .ok db') : db'.roles = db.roles := by
  unfold submitApplication at h
  dsimp only at h
  split_ifs at h
  cases h
  rfl

theorem reviewApplication_roles {applicationId action organizationId : String}
    (h : reviewApplication cfg db applicationId action organizationId = .ok db') :
    db'.roles = db.roles := by
  unfold reviewApplication at h
  split at h
  · cases h
  · split at h
    · cases h
    · split_ifs at h
      · split at h
        · cases h
        · cases h
          rfl
      · cases h
        rfl

theorem createApplicationInvite_roles {now : Int} {id token applicationId : String}
    (h : createApplicationInvite db now id token applicationId = .ok db') :
    db'.roles = db.roles := by
  unfold createApplicationInvite at h
  split at h
  · cases h
  · split_ifs at h
    unfold createAdvertiserInvite insertInvite at h
    dsimp only at h
    split_ifs at h
    cases h
    rfl

theorem createLocalAdvertiser_roles {keys : AccountKeys} {drawn generated : String}
    {body : CreateLocalAdvertiserRequest}
    (h : createLocalAdvertiser cfg db keys drawn generated body = .ok db') :
    db'.roles = db.roles := by
  unfold createLocalAdvertiser at h
  dsimp only at h
  split_ifs at h
  all_goals
    split at h
    · cases h
    · split at h
      · cases h
      · split at h
        · cases h
        · rename_i added user hcreate
          obtain ⟨-, hresult⟩ := createLocalAdvertiserUser_iff.1 hcreate
          cases hresult
          cases h
          rfl

theorem acceptAdvertiserInvite_roles {r : AcceptRequest}
    (h : acceptAdvertiserInvite cfg db r = .ok db') : db'.roles = db.roles := by
  unfold acceptAdvertiserInvite at h
  split at h
  · cases h
  · split_ifs at h
    split at h
    · cases h
    · obtain ⟨hash, -, -, rfl⟩ := openAccount_iff.1 h
      rfl

theorem portalNext_roles (e : PortalEvent) : (portalNext cfg db e).roles = db.roles := by
  unfold portalNext
  cases hresult : e.result cfg db with
  | error _ => rfl
  | ok db' =>
      unfold PortalEvent.result at hresult
      cases e with
      | submit id body => exact submitApplication_roles hresult
      | review applicationId action organizationId => exact reviewApplication_roles hresult
      | invite now id token applicationId => exact createApplicationInvite_roles hresult
      | create keys drawn generated body => exact createLocalAdvertiser_roles hresult
      | accept r => exact acceptAdvertiserInvite_roles hresult

theorem seeded_final (l : List PortalEvent) (h : db.Seeded) :
    (Run.final (portalNext cfg) db l).Seeded := by
  have hseeded : Run.Always (portalNext cfg) PortalDb.Seeded db l := by
    apply Run.always_of_step
    · intro db e hdb
      unfold PortalDb.Seeded
      rw [portalNext_roles]
      exact hdb
    · exact h
  exact hseeded.final

end Runs

/-- In every state that is reached, a valid invite is accepted exactly if its code is not taken, its
address fits a username and its account can be opened. -/
theorem invite_accepted_iff (cfg : PortalConfig) (start : PortalDb) (hseeded : start.Seeded)
    (l : List PortalEvent) (r : AcceptRequest) (invite : AdvertiserInvite)
    (hvalid : ValidInvite (Run.final (portalNext cfg) start l) r invite) :
    AcceptSucceeds cfg (Run.final (portalNext cfg) start l) r invite ↔
      InviteAcceptable cfg (Run.final (portalNext cfg) start l) r invite :=
  acceptSucceeds_iff (seeded_final l hseeded) hvalid

/-! Two applicants whose addresses differ only in the domain. -/

def seededPortal : PortalDb where
  roles := [⟨"role-advertiser", "advertiser"⟩]

def portalConfig : PortalConfig where
  endsWord := fun _ _ ↦ false
  upper := id
  hashpw := fun _ ↦
    .ok ⟨"$2b$12$R9h/cIPz0gi.URNNX3kh2OPST9/PgBkqquzi.Ss7KIUgO2t0jWMUW", by decide +kernel⟩

def annaAccepts : AcceptRequest where
  token := "6f1d"
  password := "correct horse"
  now := 1784000000000000
  keys := ⟨"user-1", "credential-1", "assignment-1", "membership-1"⟩

def otherAnnaAccepts : AcceptRequest where
  token := "a94c"
  password := "battery staple"
  now := 1784000000000000
  keys := ⟨"user-2", "credential-2", "assignment-2", "membership-2"⟩

def otherAnnaInvite : AdvertiserInvite where
  id := "invite-2"
  advertiserApplicationId := "application-2"
  advertiserOrganizationId := "organization-2"
  token := "a94c"
  contactEmail := "anna@b.example"
  expiresAt := 1783990000000000 + inviteTtl

def annasRun : List PortalEvent := [
  .submit "application-1" { companyName := "Alpha", email := "anna@a.example", consent := true },
  .submit "application-2" { companyName := "Beta", email := "anna@b.example", consent := true },
  .review "application-1" "approve" "organization-1",
  .review "application-2" "approve" "organization-2",
  .invite 1783990000000000 "invite-1" "6f1d" "application-1",
  .invite 1783990000000000 "invite-2" "a94c" "application-2",
  .accept annaAccepts]

def bothInvited : PortalDb := Run.final (portalNext portalConfig) seededPortal (annasRun.take 6)

def firstAccepted : PortalDb := Run.final (portalNext portalConfig) seededPortal annasRun

theorem firstAccepted_rows : otherAnnaInvite ∈ firstAccepted.invites ∧
    firstAccepted.users.map (·.code) = ["adv-anna"] ∧
    firstAccepted.users.map (·.username) = ["anna@a.example"] ∧
    firstAccepted.users.map (·.email) = [none] := by
  decide +kernel

theorem otherAnnaInvite_valid : ValidInvite firstAccepted otherAnnaAccepts otherAnnaInvite := by
  obtain ⟨hmem, -, husernames, hemails⟩ := firstAccepted_rows
  exact {
    mem := hmem
    token := rfl
    pending := rfl
    unexpired := by decide
    newUsername := by
      rw [husernames]
      decide
    newEmail := by
      rw [hemails]
      decide }

/-- The second invite is valid, and is not accepted. -/
theorem otherAnna_refused : ¬ ∀ (cfg : PortalConfig) (start : PortalDb) (l : List PortalEvent)
    (r : AcceptRequest) (invite : AdvertiserInvite), start.Seeded →
      ValidInvite (Run.final (portalNext cfg) start l) r invite →
        AcceptSucceeds cfg (Run.final (portalNext cfg) start l) r invite := by
  intro h
  have hseeded : seededPortal.Seeded := by decide
  have hsucceeds := h portalConfig seededPortal annasRun otherAnnaAccepts otherAnnaInvite hseeded
    otherAnnaInvite_valid
  have hacceptable := (acceptSucceeds_iff (seeded_final annasRun hseeded)
    otherAnnaInvite_valid).1 hsucceeds
  have hcodes : inviteCode otherAnnaInvite.contactEmail ∈ firstAccepted.users.map (·.code) := by
    rw [firstAccepted_rows.2.1]
    decide
  exact hacceptable.newCode hcodes

/-- The first invite is accepted. -/
def annaInvite : AdvertiserInvite :=
  { otherAnnaInvite with
    id := "invite-1"
    advertiserApplicationId := "application-1"
    advertiserOrganizationId := "organization-1"
    token := "6f1d"
    contactEmail := "anna@a.example" }

theorem bothInvited_rows : annaInvite ∈ bothInvited.invites ∧ bothInvited.users = [] ∧
    bothInvited.localCredentials = [] ∧ bothInvited.userRoles.map (·.id) = [] ∧
    bothInvited.memberships = [] := by
  decide +kernel

theorem annaInvite_valid : ValidInvite bothInvited annaAccepts annaInvite := by
  obtain ⟨hmem, husers, -⟩ := bothInvited_rows
  exact {
    mem := hmem
    token := rfl
    pending := rfl
    unexpired := by decide
    newUsername := by simp [husers]
    newEmail := by simp [husers] }

theorem annaInvite_acceptable :
    InviteAcceptable portalConfig bothInvited annaAccepts annaInvite := by
  obtain ⟨-, husers, hcredentials, huserRoles, hmemberships⟩ := bothInvited_rows
  exact {
    newCode := by simp [husers]
    shortAddress := by decide
    password := ⟨_, rfl⟩
    newKeys := {
      user := by simp [husers]
      credential := by simp [hcredentials]
      userRole := by simp [huserRoles]
      membership := by simp [hmemberships] } }

theorem annaInvite_accepted :
    AcceptSucceeds portalConfig
      (Run.final (portalNext portalConfig) seededPortal (annasRun.take 6)) annaAccepts annaInvite :=
  (invite_accepted_iff portalConfig seededPortal (by decide) (annasRun.take 6) annaAccepts
    annaInvite annaInvite_valid).2 annaInvite_acceptable

end RetailMedia
