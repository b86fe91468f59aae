import RetailMedia.Auth.Sessions
import RetailMedia.Campaign.Mutations
import RetailMedia.Lib.Run

/-! Scoped permissions: a user's role assignments are resolved into one context, which the guards
of the routes read. -/

namespace RetailMedia

/-! ## Tables -/

structure Role where
  id : String
  code : String
  deriving DecidableEq, Repr

structure Permission where
  id : String
  code : String
  deriving DecidableEq, Repr

structure RolePermission where
  roleId : String
  permissionId : String
  deriving DecidableEq, Repr

/-- Scope type and scope id are both null or both set. -/
structure UserRole where
  userId : String
  roleId : String
  scopeType : Option String := none
  scopeId : Option String := none
  scopePair : scopeType.isNone = scopeId.isNone := by rfl

structure AdvertiserUserMembership where
  userId : String
  advertiserOrganizationId : String
  status : String := "active"
  deriving DecidableEq, Repr

structure AdvertiserOrganization where
  id : String
  retailerId : String
  deriving DecidableEq, Repr

/-- An assignment refers to a role that exists. -/
structure IdentityDb where
  users : List User := []
  roles : List Role := []
  permissions : List Permission := []
  rolePermissions : List RolePermission := []
  userRoles : List UserRole := []
  advertiserUserMemberships : List AdvertiserUserMembership := []
  advertiserOrganizations : List AdvertiserOrganization := []
  rolesExist : ∀ ur ∈ userRoles, (Rows.get Role.id ur.roleId roles).isSome = true := by decide

/-! ## Resolution -/

def adminRoleCodes : List String := ["system_admin", "security_admin"]

/-- Sets are lists without repetitions. -/
structure ScopeContext where
  userId : String
  isAdmin : Bool := false
  roleCodes : List String := []
  globalPermissions : List String := []
  retailerScopeIds : List String := []
  advertiserScopeIds : List String := []
  allPermissions : List String := []
  deriving DecidableEq, Repr

namespace ScopeContext

def denyAll (userId : String) : ScopeContext := { userId := userId }

/-- `__bool__`. -/
def truthy (s : ScopeContext) : Bool :=
  s.isAdmin ∨ s.globalPermissions ≠ [] ∨ s.retailerScopeIds ≠ [] ∨ s.advertiserScopeIds ≠ []

end ScopeContext

structure RoleRow where
  scopeType : Option String
  scopeId : Option String
  roleCode : String
  permCode : Option String
  deriving DecidableEq, Repr

/-- The outer joins: a role without permissions has one row. -/
def IdentityDb.permCodes (db : IdentityDb) (roleId : String) : List (Option String) :=
  match db.rolePermissions.filter (·.roleId = roleId) with
  | [] => [none]
  | l => l.map fun rp ↦ (Rows.get Permission.id rp.permissionId db.permissions).map (·.code)

def loadUserRoles (db : IdentityDb) (userId : String) : List RoleRow :=
  (db.userRoles.filter (·.userId = userId)).flatMap fun ur ↦
    match Rows.get Role.id ur.roleId db.roles with
    | none => []
    | some role => (db.permCodes role.id).map fun permCode ↦
        ⟨ur.scopeType, ur.scopeId, role.code, permCode⟩

def loadAdvertiserMemberships (db : IdentityDb) (userId : String) : List String :=
  ((db.advertiserUserMemberships.filter fun m ↦ m.userId = userId ∧ m.status = "active").map
    (·.advertiserOrganizationId)).dedup

def loadRetailerIds (db : IdentityDb) (advertiserOrgIds : List String) : List String :=
  (((db.advertiserOrganizations.filter (·.id ∈ advertiserOrgIds)).map (·.retailerId)).filter
    (· ≠ "")).dedup

def addCode (codes : List String) : Option String → List String
  | none => codes
  | some code => codes.insert code

/-- One pass of the loop over the rows. -/
def ScopeContext.addRow (s : ScopeContext) (ur : RoleRow) : ScopeContext :=
  let seen := { s with
    roleCodes := s.roleCodes.insert ur.roleCode
    allPermissions := addCode s.allPermissions ur.permCode }
  if ur.scopeType = none then
    { seen with
      globalPermissions := addCode s.globalPermissions ur.permCode
      isAdmin := s.isAdmin || ur.roleCode ∈ adminRoleCodes }
  else if ur.scopeType = some "advertiser" then
    { seen with advertiserScopeIds := addCode s.advertiserScopeIds (ur.scopeId.filter (· ≠ "")) }
  -- branch, cluster and store scopes are not expanded yet
  else seen

def resolveScopeContext (db : IdentityDb) (userId : String) : ScopeContext :=
  match Rows.get User.id userId db.users with
  | none => .denyAll userId
  | some user =>
      if user.status ≠ "active" then .denyAll userId
      else
        let rows := loadUserRoles db userId
        if rows = [] then .denyAll userId
        else
          let roles := Run.final ScopeContext.addRow (.denyAll userId) rows
          let ids := Run.final (fun ids id ↦ ids.insert id) roles.advertiserScopeIds
            (loadAdvertiserMemberships db userId)
          { roles with
            advertiserScopeIds := ids
            retailerScopeIds := if ids ≠ [] then loadRetailerIds db ids else [] }

/-! ## Guards -/

def permissionDenied (permissionCode : String) : RouteError :=
  .http 403 "PERMISSION_DENIED" ("Missing required permission: " ++ permissionCode)

def scopeRestricted (scopeType : String) : RouteError :=
  .http 403 "SCOPE_RESTRICTED" ("Access requires " ++ scopeType ++ " scope")

def requireScopedPermission (permissionCode : String) (scopeType : Option String)
    (scope : ScopeContext) : Except RouteError ScopeContext :=
  if scope.isAdmin ∧ permissionCode ∈ scope.globalPermissions then .ok scope
  else if permissionCode ∈ scope.globalPermissions then .ok scope
  else
    match scopeType with
    | none => .error (permissionDenied permissionCode)
    | some type =>
        if type = "advertiser" then
          if scope.advertiserScopeIds ≠ [] ∧ permissionCode ∈ scope.allPermissions then .ok scope
          else if scope.advertiserScopeIds ≠ [] then .error (permissionDenied permissionCode)
          else .error (scopeRestricted type)
        else .error (scopeRestricted type)

/-- `None` for an admin. -/
def scopeIds (scope : ScopeContext) : Option (List String) :=
  if scope.isAdmin then none
  else some (if scope.truthy then scope.advertiserScopeIds else [])

/-- The guard of a route and then the check of the object's organization. -/
def accessesOrganization (db : IdentityDb) (userId permissionCode organizationId : String) : Bool :=
  match requireScopedPermission permissionCode (some "advertiser")
    (resolveScopeContext db userId) with
  | .error _ => false
  | .ok scope => (assertOrgInScope organizationId (scopeIds scope)).isOk

/-! ## Assignments -/

/-- The assignment's role has the permission. -/
def Grants (db : IdentityDb) (ur : UserRole) (permissionCode : String) : Prop :=
  ∃ role, Rows.get Role.id ur.roleId db.roles = some role ∧
    some permissionCode ∈ db.permCodes role.id

def UserRole.scopedTo (ur : UserRole) (organizationId : String) : Prop :=
  ur.scopeType = some "advertiser" ∧ ur.scopeId = some organizationId

/-- Some assignment of the user has the property. -/
def Assigned (db : IdentityDb) (userId : String) (P : UserRole → Prop) : Prop :=
  ∃ ur ∈ db.userRoles, ur.userId = userId ∧ P ur

/-- A single assignment grants the permission, without a scope or for the organization. -/
def GrantedBySingle (db : IdentityDb) (userId permissionCode organizationId : String) : Prop :=
  Assigned db userId fun ur ↦ Grants db ur permissionCode ∧
    (ur.scopeType = none ∨ ur.scopedTo organizationId)

def ActiveUser (db : IdentityDb) (userId : String) : Prop :=
  ∃ user, Rows.get User.id userId db.users = some user ∧ user.status = "active"

/-- The user has an unscoped admin role. -/
def HoldsAdmin (db : IdentityDb) (userId : String) : Prop :=
  Assigned db userId fun ur ↦ ur.scopeType = none ∧
    ∃ role, Rows.get Role.id ur.roleId db.roles = some role ∧ role.code ∈ adminRoleCodes

def HoldsScope (db : IdentityDb) (userId organizationId : String) : Prop :=
  organizationId ≠ "" ∧ Assigned db userId (·.scopedTo organizationId)

/-! ## What the resolution collects -/

theorem permCodes_ne_nil (db : IdentityDb) (roleId : String) : db.permCodes roleId ≠ [] := by
  unfold IdentityDb.permCodes
  split
  · exact List.cons_ne_nil _ _
  · rename_i hne
    intro hnil
    exact hne (List.map_eq_nil_iff.1 hnil)

/-- A property of the rows that scope and role decide is one of the assignments. -/
theorem exists_row_iff (db : IdentityDb) (userId : String)
    (P : Option String → Option String → String → Option String → Prop) :
    (∃ row ∈ loadUserRoles db userId, P row.scopeType row.scopeId row.roleCode row.permCode) ↔
      Assigned db userId fun ur ↦ ∃ role, Rows.get Role.id ur.roleId db.roles = some role ∧
        ∃ permCode ∈ db.permCodes role.id, P ur.scopeType ur.scopeId role.code permCode := by
  unfold loadUserRoles Assigned
  constructor
  · rintro ⟨row, hrow, hP⟩
    obtain ⟨ur, hur, hrow⟩ := List.mem_flatMap.1 hrow
    obtain ⟨hmem, huser⟩ := List.mem_filter.1 hur
    split at hrow
    · exact absurd hrow List.not_mem_nil
    · rename_i role hrole
      obtain ⟨permCode, hcode, rfl⟩ := List.mem_map.1 hrow
      exact ⟨ur, hmem, of_decide_eq_true huser, role, hrole, permCode, hcode, hP⟩
  · rintro ⟨ur, hmem, huser, role, hrole, permCode, hcode, hP⟩
    refine ⟨⟨ur.scopeType, ur.scopeId, role.code, permCode⟩, ?_, hP⟩
    apply List.mem_flatMap.2
    refine ⟨ur, List.mem_filter.2 ⟨hmem, decide_eq_true huser⟩, ?_⟩
    rw [hrole]
    exact List.mem_map_of_mem hcode

/-- The role of an assignment exists, and has a row. -/
theorem assigned_joined {db : IdentityDb} {ur : UserRole} (hmem : ur ∈ db.userRoles) :
    ∃ role, Rows.get Role.id ur.roleId db.roles = some role ∧
      ∃ permCode, permCode ∈ db.permCodes role.id := by
  obtain ⟨role, hrole⟩ := Option.isSome_iff_exists.1 (db.rolesExist ur hmem)
  exact ⟨role, hrole, List.exists_mem_of_ne_nil _ (permCodes_ne_nil db role.id)⟩

theorem mem_addCode {codes : List String} {code? : Option String} {code : String} :
    code ∈ addCode codes code? ↔ code ∈ codes ∨ code? = some code := by
  cases code? with
  | none => simp [addCode]
  | some c =>
      rw [addCode, List.mem_insert_iff, or_comm, Option.some.injEq, eq_comm]

section Row

variable (s : ScopeContext) (ur : RoleRow)

theorem addRow_allPermissions (code : String) :
    code ∈ (s.addRow ur).allPermissions ↔
      code ∈ s.allPermissions ∨ ur.permCode = some code := by
  have hfield : (s.addRow ur).allPermissions = addCode s.allPermissions ur.permCode := by
    unfold ScopeContext.addRow
    split
    · rfl
    · split <;> rfl
  rw [hfield, mem_addCode]

theorem addRow_globalPermissions (code : String) :
    code ∈ (s.addRow ur).globalPermissions ↔
      code ∈ s.globalPermissions ∨ ur.scopeType = none ∧ ur.permCode = some code := by
  unfold ScopeContext.addRow
  by_cases htype : ur.scopeType = none
  · rw [if_pos htype]
    simpa [htype] using mem_addCode
  · rw [if_neg htype]
    split <;> simp [htype]

theorem addRow_isAdmin :
    (s.addRow ur).isAdmin = true ↔
      s.isAdmin = true ∨ ur.scopeType = none ∧ ur.roleCode ∈ adminRoleCodes := by
  unfold ScopeContext.addRow
  by_cases htype : ur.scopeType = none
  · rw [if_pos htype]
    simp [htype]
  · rw [if_neg htype]
    split <;> simp [htype]

theorem addRow_advertiserScopeIds (id : String) :
    id ∈ (s.addRow ur).advertiserScopeIds ↔
      id ∈ s.advertiserScopeIds ∨
        ur.scopeType = some "advertiser" ∧ ur.scopeId = some id ∧ id ≠ "" := by
  unfold ScopeContext.addRow
  by_cases htype : ur.scopeType = none
  · rw [if_pos htype]
    simp [htype]
  · rw [if_neg htype]
    by_cases hadv : ur.scopeType = some "advertiser"
    · rw [if_pos hadv]
      simp only [mem_addCode, Option.filter_eq_some_iff, decide_eq_true_eq, hadv, true_and]
    · rw [if_neg hadv]
      simp [hadv]

end Row

section Resolved

variable {db : IdentityDb} {userId : String} (hactive : ActiveUser db userId)
  (hmember : loadAdvertiserMemberships db userId = [])

include hactive hmember

/-- Without memberships, the context is what the loop collects; a user without rows included. -/
theorem resolveScopeContext_rows :
    ∃ retailers, resolveScopeContext db userId =
      { Run.final ScopeContext.addRow (.denyAll userId) (loadUserRoles db userId) with
        retailerScopeIds := retailers } := by
  obtain ⟨user, huser, hstatus⟩ := hactive
  unfold resolveScopeContext
  rw [huser]
  dsimp only
  rw [if_neg (not_not.2 hstatus), hmember]
  split
  · rename_i hnil
    rw [hnil]
    exact ⟨[], rfl⟩
  · exact ⟨_, rfl⟩

theorem mem_allPermissions (code : String) :
    code ∈ (resolveScopeContext db userId).allPermissions ↔
      Assigned db userId (Grants db · code) := by
  obtain ⟨retailers, hresolved⟩ := resolveScopeContext_rows hactive hmember
  rw [hresolved]
  have hloop := Run.final_iff_exists (P := fun s : ScopeContext ↦ code ∈ s.allPermissions)
    (fun s ur ↦ addRow_allPermissions s ur code) (.denyAll userId) (loadUserRoles db userId)
  rw [hloop, exists_row_iff db userId fun _ _ _ permCode ↦ permCode = some code]
  simp [ScopeContext.denyAll, Grants]

theorem mem_globalPermissions (code : String) :
    code ∈ (resolveScopeContext db userId).globalPermissions ↔
      Assigned db userId fun ur ↦ Grants db ur code ∧ ur.scopeType = none := by
  obtain ⟨retailers, hresolved⟩ := resolveScopeContext_rows hactive hmember
  rw [hresolved]
  have hloop := Run.final_iff_exists (P := fun s : ScopeContext ↦ code ∈ s.globalPermissions)
    (fun s ur ↦ addRow_globalPermissions s ur code) (.denyAll userId) (loadUserRoles db userId)
  rw [hloop, exists_row_iff db userId fun scopeType _ _ permCode ↦
    scopeType = none ∧ permCode = some code]
  constructor
  · rintro (hnil | ⟨ur, hur, huser, role, hrole, permCode, hcode, htype, rfl⟩)
    · exact absurd hnil List.not_mem_nil
    · exact ⟨ur, hur, huser, ⟨role, hrole, hcode⟩, htype⟩
  · rintro ⟨ur, hur, huser, ⟨role, hrole, hcode⟩, htype⟩
    exact .inr ⟨ur, hur, huser, role, hrole, some code, hcode, htype, rfl⟩

theorem resolved_isAdmin :
    (resolveScopeContext db userId).isAdmin = true ↔ HoldsAdmin db userId := by
  obtain ⟨retailers, hresolved⟩ := resolveScopeContext_rows hactive hmember
  rw [hresolved]
  have hloop := Run.final_iff_exists (P := fun s : ScopeContext ↦ s.isAdmin = true)
    addRow_isAdmin (.denyAll userId) (loadUserRoles db userId)
  rw [hloop, exists_row_iff db userId fun scopeType _ roleCode _ ↦
    scopeType = none ∧ roleCode ∈ adminRoleCodes]
  constructor
  · rintro (hadmin | ⟨ur, hur, huser, role, hrole, -, -, htype, hcode⟩)
    · cases hadmin
    · exact ⟨ur, hur, huser, htype, role, hrole, hcode⟩
  · rintro ⟨ur, hur, huser, htype, role, hrole, hcode⟩
    -- the role has a row even when it has no permission
    obtain ⟨permCode, hperm⟩ := List.exists_mem_of_ne_nil _ (permCodes_ne_nil db role.id)
    exact .inr ⟨ur, hur, huser, role, hrole, permCode, hperm, htype, hcode⟩

theorem mem_advertiserScopeIds (organizationId : String) :
    organizationId ∈ (resolveScopeContext db userId).advertiserScopeIds ↔
      HoldsScope db userId organizationId := by
  obtain ⟨retailers, hresolved⟩ := resolveScopeContext_rows hactive hmember
  rw [hresolved]
  have hloop := Run.final_iff_exists
    (P := fun s : ScopeContext ↦ organizationId ∈ s.advertiserScopeIds)
    (fun s ur ↦ addRow_advertiserScopeIds s ur organizationId) (.denyAll userId)
    (loadUserRoles db userId)
  rw [hloop, exists_row_iff db userId fun scopeType scopeId _ _ ↦
    scopeType = some "advertiser" ∧ scopeId = some organizationId ∧ organizationId ≠ ""]
  constructor
  · rintro (hnil | ⟨ur, hur, huser, -, -, -, -, htype, hid, hne⟩)
    · exact absurd hnil List.not_mem_nil
    · exact ⟨hne, ur, hur, huser, htype, hid⟩
  · rintro ⟨hne, ur, hur, huser, htype, hid⟩
    obtain ⟨role, hrole, permCode, hcode⟩ := assigned_joined hur
    exact .inr ⟨ur, hur, huser, role, hrole, permCode, hcode, htype, hid, hne⟩

end Resolved

/-! ## Access -/

/-- Who passes the guard: an unscoped role has the permission, or some role has it and some role
is scoped. -/
theorem requireScopedPermission_ok (permissionCode : String) (scope s : ScopeContext) :
    requireScopedPermission permissionCode (some "advertiser") scope = .ok s ↔
      s = scope ∧ (permissionCode ∈ scope.globalPermissions ∨
        scope.advertiserScopeIds ≠ [] ∧ permissionCode ∈ scope.allPermissions) := by
  have hpass (h : permissionCode ∈ scope.globalPermissions ∨
      scope.advertiserScopeIds ≠ [] ∧ permissionCode ∈ scope.allPermissions) :
      requireScopedPermission permissionCode (some "advertiser") scope = .ok scope := by
    unfold requireScopedPermission
    split
    · rfl
    · split
      · rfl
      · rename_i hglobal
        exact if_pos (h.resolve_left hglobal)
  have hfail (h : ¬ (permissionCode ∈ scope.globalPermissions ∨
      scope.advertiserScopeIds ≠ [] ∧ permissionCode ∈ scope.allPermissions)) :
      requireScopedPermission permissionCode (some "advertiser") scope ≠ .ok s := by
    rw [not_or] at h
    unfold requireScopedPermission
    rw [if_neg (fun hadmin ↦ h.1 hadmin.2), if_neg h.1]
    dsimp only
    rw [if_pos rfl, if_neg h.2]
    intro hok
    split at hok
    · cases hok
    · cases hok
  by_cases h : permissionCode ∈ scope.globalPermissions ∨
      scope.advertiserScopeIds ≠ [] ∧ permissionCode ∈ scope.allPermissions
  · rw [hpass h, Except.ok.injEq, eq_comm, and_iff_left h]
  · exact iff_of_false (hfail h) fun hok ↦ h hok.2

theorem assertOrgInScope_scopeIds (organizationId : String) (scope : ScopeContext) :
    (assertOrgInScope organizationId (scopeIds scope)).isOk = true ↔
      scope.isAdmin = true ∨ organizationId ∈ scope.advertiserScopeIds := by
  unfold assertOrgInScope scopeIds inScope
  by_cases hadmin : scope.isAdmin = true
  · simp [hadmin, Except.isOk, Except.toBool]
  · rw [if_neg hadmin]
    by_cases hmem : organizationId ∈ scope.advertiserScopeIds
    · -- a context with an organization in it is not empty
      have htruthy : scope.truthy = true := by
        have hne : scope.advertiserScopeIds ≠ [] := List.ne_nil_of_mem hmem
        simp [ScopeContext.truthy, hne]
      simp [htruthy, hmem, Except.isOk, Except.toBool]
    · have hout : organizationId ∉ (if scope.truthy then scope.advertiserScopeIds else []) := by
        split
        · exact hmem
        · exact List.not_mem_nil
      simp [hadmin, hmem, hout, Except.isOk, Except.toBool]

theorem resolve_inactive {db : IdentityDb} {userId : String} (h : ¬ ActiveUser db userId) :
    resolveScopeContext db userId = .denyAll userId := by
  unfold resolveScopeContext
  cases huser : Rows.get User.id userId db.users with
  | none => rfl
  | some user =>
      have hstatus : user.status ≠ "active" := fun hs ↦ h ⟨user, huser, hs⟩
      exact if_pos hstatus

theorem accessesOrganization_iff {db : IdentityDb} {userId : String}
    (hmember : loadAdvertiserMemberships db userId = []) (permissionCode organizationId : String) :
    accessesOrganization db userId permissionCode organizationId = true ↔
      ActiveUser db userId ∧
      ((Assigned db userId fun ur ↦ Grants db ur permissionCode ∧ ur.scopeType = none) ∨
        (∃ o, HoldsScope db userId o) ∧ Assigned db userId (Grants db · permissionCode)) ∧
      (HoldsAdmin db userId ∨ HoldsScope db userId organizationId) := by
  have hguard : accessesOrganization db userId permissionCode organizationId = true ↔
      ∃ s, requireScopedPermission permissionCode (some "advertiser")
        (resolveScopeContext db userId) = .ok s ∧
        (assertOrgInScope organizationId (scopeIds s)).isOk = true := by
    unfold accessesOrganization
    split
    · rename_i e he
      simp [he]
    · rename_i s hs
      simp [hs]
  rw [hguard]
  simp only [requireScopedPermission_ok, assertOrgInScope_scopeIds]
  by_cases hactive : ActiveUser db userId
  · have hscoped : (resolveScopeContext db userId).advertiserScopeIds ≠ [] ↔
        ∃ o, HoldsScope db userId o := by
      constructor
      · intro hne
        obtain ⟨o, ho⟩ := List.exists_mem_of_ne_nil _ hne
        exact ⟨o, (mem_advertiserScopeIds hactive hmember o).1 ho⟩
      · rintro ⟨o, ho⟩
        exact List.ne_nil_of_mem ((mem_advertiserScopeIds hactive hmember o).2 ho)
    rw [← mem_globalPermissions hactive hmember, ← mem_allPermissions hactive hmember,
      ← resolved_isAdmin hactive hmember, ← mem_advertiserScopeIds hactive hmember, ← hscoped]
    constructor
    · rintro ⟨s, ⟨rfl, hpermitted⟩, horg⟩
      exact ⟨hactive, hpermitted, horg⟩
    · rintro ⟨-, hpermitted, horg⟩
      exact ⟨_, ⟨rfl, hpermitted⟩, horg⟩
  · rw [resolve_inactive hactive]
    refine iff_of_false ?_ (fun h ↦ hactive h.1)
    rintro ⟨s, ⟨-, hpermitted⟩, -⟩
    rcases hpermitted with hglobal | ⟨hscope, -⟩
    · exact absurd hglobal List.not_mem_nil
    · exact hscope rfl

/-- Every organization that the user reaches is the scope of an assignment that grants the
permission: all organizations for an unscoped admin, those of the assignments for anyone else. -/
def GrantedInEachScope (db : IdentityDb) (userId permissionCode : String) : Prop :=
  ∀ o ∈ db.advertiserOrganizations.map (·.id), HoldsAdmin db userId ∨ HoldsScope db userId o →
    Assigned db userId fun ur ↦ Grants db ur permissionCode ∧ ur.scopedTo o

theorem scopedAccess_sound_iff (db : IdentityDb) (userId permissionCode : String)
    (hmember : loadAdvertiserMemberships db userId = []) :
    (∀ o ∈ db.advertiserOrganizations.map (·.id),
      accessesOrganization db userId permissionCode o = true →
        GrantedBySingle db userId permissionCode o) ↔
      (¬ ActiveUser db userId ∨
        (Assigned db userId fun ur ↦ Grants db ur permissionCode ∧ ur.scopeType = none) ∨
        ¬ Assigned db userId (Grants db · permissionCode) ∨
        (¬ ∃ o, HoldsScope db userId o) ∨
        GrantedInEachScope db userId permissionCode) := by
  constructor
  · intro hsound
    by_contra hbad
    simp only [not_or, not_not] at hbad
    obtain ⟨hactive, hunscoped, hgranted, hscoped, heach⟩ := hbad
    apply heach
    intro o ho hreach
    have haccess := (accessesOrganization_iff hmember permissionCode o).2
      ⟨hactive, .inr ⟨hscoped, hgranted⟩, hreach⟩
    obtain ⟨ur, hur, huser, hgrants, hscope⟩ := hsound o ho haccess
    rcases hscope with hnone | hto
    · exact absurd ⟨ur, hur, huser, hgrants, hnone⟩ hunscoped
    · exact ⟨ur, hur, huser, hgrants, hto⟩
  · intro hcond o ho haccess
    obtain ⟨hactive, hpermitted, hreach⟩ :=
      (accessesOrganization_iff hmember permissionCode o).1 haccess
    have hsingle (h : Assigned db userId fun ur ↦ Grants db ur permissionCode ∧
        ur.scopeType = none) : GrantedBySingle db userId permissionCode o := by
      obtain ⟨ur, hur, huser, hgrants, hnone⟩ := h
      exact ⟨ur, hur, huser, hgrants, .inl hnone⟩
    rcases hpermitted with hunscoped | ⟨hscoped, hgranted⟩
    · exact hsingle hunscoped
    · rcases hcond with hinactive | hunscoped | hnot | hno | heach
      · exact absurd hactive hinactive
      · exact hsingle hunscoped
      · exact absurd hgranted hnot
      · exact absurd hscoped hno
      · obtain ⟨ur, hur, huser, hgrants, hto⟩ := heach o ho hreach
        exact ⟨ur, hur, huser, hgrants, .inr hto⟩

/-! One user manages an organization and views another; a second user manages both. -/

def scopedRole (userId roleId organizationId : String) : UserRole where
  userId := userId
  roleId := roleId
  scopeType := some "advertiser"
  scopeId := some organizationId

def twoOrganizations : IdentityDb where
  users := [{ id := "u" }, { id := "v" }]
  roles := [⟨"r1", "campaign_manager"⟩, ⟨"r2", "campaign_viewer"⟩]
  permissions := [⟨"p1", "campaigns.manage"⟩, ⟨"p2", "campaigns.read"⟩]
  rolePermissions := [⟨"r1", "p1"⟩, ⟨"r2", "p2"⟩]
  userRoles := [scopedRole "u" "r1" "o1", scopedRole "u" "r2" "o2", scopedRole "v" "r1" "o1",
    scopedRole "v" "r1" "o2"]
  advertiserOrganizations := [⟨"o1", "r"⟩, ⟨"o2", "r"⟩]

theorem viewer_manages_other_organization :
    ¬ ∀ (db : IdentityDb) (userId permissionCode : String),
      loadAdvertiserMemberships db userId = [] →
      ∀ o ∈ db.advertiserOrganizations.map (·.id),
        accessesOrganization db userId permissionCode o = true →
          GrantedBySingle db userId permissionCode o := by
  intro h
  obtain ⟨ur, hur, huser, ⟨role, hrole, hcode⟩, hscope⟩ :=
    h twoOrganizations "u" "campaigns.manage" (by decide) "o2" (by decide) (by decide +kernel)
  simp only [twoOrganizations, List.mem_cons, List.not_mem_nil, or_false] at hur
  rcases hur with rfl | rfl | rfl | rfl
  · -- the manager role is for the other organization
    rcases hscope with hnone | ⟨-, hid⟩
    · cases hnone
    · exact absurd hid (by decide)
  · -- the viewer role does not grant
    cases hrole
    exact absurd hcode (by decide)
  · exact absurd huser (by decide)
  · exact absurd huser (by decide)

theorem manager_of_both_sound :
    accessesOrganization twoOrganizations "v" "campaigns.manage" "o2" = true ∧
      ∀ o ∈ twoOrganizations.advertiserOrganizations.map (·.id),
        accessesOrganization twoOrganizations "v" "campaigns.manage" o = true →
          GrantedBySingle twoOrganizations "v" "campaigns.manage" o := by
  refine ⟨by decide +kernel, ?_⟩
  apply (scopedAccess_sound_iff twoOrganizations "v" "campaigns.manage" (by decide)).2
  refine .inr (.inr (.inr (.inr ?_)))
  intro o ho _
  have hgrants : Grants twoOrganizations (scopedRole "v" "r1" o) "campaigns.manage" :=
    ⟨⟨"r1", "campaign_manager"⟩, rfl, by decide⟩
  have hmem : scopedRole "v" "r1" o ∈ twoOrganizations.userRoles := by
    simp only [twoOrganizations, List.map_cons, List.map_nil, List.mem_cons, List.not_mem_nil,
      or_false] at ho
    rcases ho with rfl | rfl
    · simp [twoOrganizations]
    · simp [twoOrganizations]
  exact ⟨_, hmem, rfl, hgrants, rfl, rfl⟩

end RetailMedia
