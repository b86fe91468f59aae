import RetailMedia.Advertiser.Invites

/-! Who can get into the portal: over any run, access to an organization comes from an administrator
or from the invite of an application that was approved. -/

namespace RetailMedia

/-! ## What holds of the tables -/

/-- The application's organization is its own, and it has one exactly when it is approved. -/
structure ApplicationsSound (db : PortalDb) : Prop where
  ids : (db.applications.map (·.id)).Nodup
  organization : ∀ a ∈ db.applications, a.status = "approved" ∧
      (∃ o ∈ db.directory.organizations, a.organizationId = some o.id ∧
        o.legalName = a.companyName ∧ o.displayName = a.companyName) ∨
    a.status ∈ ["new", "reviewing", "rejected"] ∧ a.organizationId = none
  own : ∀ a ∈ db.applications, ∀ a' ∈ db.applications, ∀ id, a.organizationId = some id →
    a'.organizationId = some id → a = a'

structure InvitesSound (db : PortalDb) : Prop where
  application : ∀ i ∈ db.invites, ∃ a ∈ db.applications, a.id = i.advertiserApplicationId ∧
    a.status = "approved" ∧ a.organizationId = some i.advertiserOrganizationId ∧
      a.email = i.contactEmail
  onePending : ∀ i ∈ db.invites, ∀ i' ∈ db.invites,
    i.advertiserApplicationId = i'.advertiserApplicationId → i.status = "pending" →
      i'.status = "pending" → i = i'
  accepted : ∀ i ∈ db.invites, i.status = "accepted" → ∃ u ∈ db.users,
    i.acceptedByUserId = some u.id ∧ u.username = i.contactEmail
  once : ∀ i ∈ db.invites, ∀ i' ∈ db.invites, i.status = "accepted" → i'.status = "accepted" →
    i.acceptedByUserId = i'.acceptedByUserId → i = i'

/-- The user has accepted an invite to the organization, or an administrator has created it for
this one; `created` are the accounts that administrators have created. -/
def Entitled (created : List (String × String)) (db : PortalDb) (userId organizationId : String) :
    Prop :=
  (userId, organizationId) ∈ created ∨ ∃ i ∈ db.invites, i.status = "accepted" ∧
    i.acceptedByUserId = some userId ∧ i.advertiserOrganizationId = organizationId

structure AccessSound (start : PortalDb) (created : List (String × String)) (db : PortalDb) :
    Prop where
  memberships : ∀ m ∈ db.memberships, m ∈ start.memberships ∨
    Entitled created db m.userId m.advertiserOrganizationId
  userRoles : ∀ g ∈ db.userRoles, g ∈ start.userRoles ∨ ∃ organizationId,
    g.scopeType = some "advertiser" ∧ g.scopeId = some organizationId ∧
      (∃ role ∈ db.roles, role.id = g.roleId ∧ role.code = "advertiser") ∧
        Entitled created db g.userId organizationId
  /-- A new account is for one organization. -/
  single : ∀ m ∈ db.memberships, ∀ m' ∈ db.memberships, m.userId = m'.userId →
    m.userId ∉ start.users.map (·.id) → m = m'

structure PortalSound (start : PortalDb) (created : List (String × String)) (db : PortalDb) :
    Prop where
  applications : ApplicationsSound db
  invites : InvitesSound db
  access : AccessSound start created db

/-- What stays in every later state. -/
structure PortalKept (db db' : PortalDb) : Prop where
  decided : ∀ a ∈ db.applications, a.status ∈ ["approved", "rejected"] → a ∈ db'.applications
  accepted : ∀ i ∈ db.invites, i.status = "accepted" → i ∈ db'.invites
  organizations : db.directory.organizations ⊆ db'.directory.organizations
  users : db.users ⊆ db'.users
  memberships : db.memberships ⊆ db'.memberships
  userRoles : db.userRoles ⊆ db'.userRoles

/-- The account that a request of an administrator creates, with its organization. -/
def PortalEvent.creates (cfg : PortalConfig) (db : PortalDb) : PortalEvent → List (String × String)
  | .create keys drawn generated body =>
      match createLocalAdvertiser cfg db keys drawn generated body with
      | .ok _ => [(keys.userId, body.advertiserOrganizationId)]
      | .error _ => []
  | _ => []

/-- The accounts that the administrators create in the run. -/
def createdAccounts (cfg : PortalConfig) : PortalDb → List PortalEvent → List (String × String)
  | _, [] => []
  | db, e :: l => e.creates cfg db ++ createdAccounts cfg (portalNext cfg db e) l

/-! ## What one request does -/

section Requests

variable {cfg : PortalConfig} {db db' : PortalDb}

theorem submitApplication_ok {id : String} {body : AdvertiserApplicationCreate}
    (h : submitApplication db id body = .ok db') :
    ∃ a : AdvertiserApplication, a.id ∉ db.applications.map (·.id) ∧ a.status = "new" ∧
      a.organizationId = none ∧ db' = { db with applications := db.applications ++ [a] } := by
  unfold submitApplication at h
  dsimp only at h
  split_ifs at h with _ _ hid
  exact ⟨_, hid, rfl, rfl, (Except.ok.inj h).symm⟩

theorem reviewStatus_ok {status action status' : String}
    (h : reviewStatus status action = .ok status') :
    status ∈ ["new", "reviewing"] ∧ status' ∈ ["reviewing", "approved", "rejected"] ∧
      (action = "approve" ↔ status' = "approved") := by
  unfold reviewStatus at h
  split_ifs at h with haction hstatus haction' hstatus' haction'' hstatus''
  · cases h
    rw [not_not] at hstatus
    rw [hstatus, haction]
    decide
  · cases h
    exact ⟨hstatus', by decide, fun _ ↦ rfl, fun _ ↦ haction'⟩
  · cases h
    rw [haction'']
    exact ⟨hstatus'', by decide, by decide⟩

/-- A review decides one application that was not decided; on approval the organization is new and
bears the company's name. -/
theorem reviewApplication_ok {applicationId action organizationId : String}
    (h : reviewApplication cfg db applicationId action organizationId = .ok db') :
    ∃ a ∈ db.applications, a.id = applicationId ∧ a.status ∈ ["new", "reviewing"] ∧
      db'.invites = db.invites ∧ db'.users = db.users ∧ db'.roles = db.roles ∧
      db'.userRoles = db.userRoles ∧ db'.memberships = db.memberships ∧
      ((∃ status ∈ ["reviewing", "rejected"], db'.directory = db.directory ∧
          db'.applications = Rows.updateWhere (·.id = applicationId)
            (fun a ↦ { a with status := status }) db.applications) ∨
        ∃ o : NamedOrganization, o.id ∉ db.directory.organizations.map (·.id) ∧
          o.legalName = a.companyName ∧ o.displayName = a.companyName ∧
          db'.directory.organizations = db.directory.organizations ++ [o] ∧
          db'.applications = Rows.updateWhere (·.id = applicationId)
            (fun a ↦ { a with status := "approved", organizationId := some o.id })
            db.applications) := by
  unfold reviewApplication at h
  split at h
  · cases h
  · rename_i a hfound
    split at h
    · cases h
    · rename_i status hstatus
      obtain ⟨hopen, hclosed, happrove⟩ := reviewStatus_ok hstatus
      refine ⟨a, Rows.get_mem hfound, Rows.get_key hfound, hopen, ?_⟩
      split_ifs at h with haction
      · obtain rfl := happrove.1 haction
        split at h
        · cases h
        · rename_i directory organization hcreate
          cases h
          refine ⟨rfl, rfl, rfl, rfl, rfl, .inr ⟨organization, ?_⟩⟩
          unfold createAdvertiserFromApplication insertOrganization at hcreate
          dsimp only at hcreate
          split at hcreate
          · cases hcreate
          · split at hcreate
            · rename_i hnew
              cases hcreate
              exact ⟨hnew.1, rfl, rfl, rfl, rfl⟩
            · cases hcreate
      · cases h
        refine ⟨rfl, rfl, rfl, rfl, rfl, .inl ⟨status, ?_, rfl, rfl⟩⟩
        have hne : status ≠ "approved" := fun heq ↦ haction (happrove.2 heq)
        simp only [List.mem_cons, List.not_mem_nil, or_false] at hclosed ⊢
        tauto

theorem createApplicationInvite_ok {now : Int} {id token applicationId : String}
    (h : createApplicationInvite db now id token applicationId = .ok db') :
    ∃ a ∈ db.applications, a.id = applicationId ∧ a.status = "approved" ∧
      ∃ i : AdvertiserInvite, i.advertiserApplicationId = applicationId ∧ i.status = "pending" ∧
        a.organizationId = some i.advertiserOrganizationId ∧ i.contactEmail = a.email ∧
        db'.invites = Rows.updateWhere
          (fun i ↦ i.advertiserApplicationId = applicationId ∧ i.status = "pending")
          (fun i ↦ { i with status := "expired" }) db.invites ++ [i] ∧
        db'.directory = db.directory ∧ db'.applications = db.applications ∧
        db'.users = db.users ∧ db'.roles = db.roles ∧ db'.userRoles = db.userRoles ∧
        db'.memberships = db.memberships := by
  unfold createApplicationInvite at h
  split at h
  · cases h
  · rename_i a hfound
    split_ifs at h with hstatus horganization
    unfold createAdvertiserInvite insertInvite PortalDb.updateInvites at h
    dsimp only at h
    split_ifs at h
    cases h
    have hsome : a.organizationId = some (a.organizationId.getD "") := by
      cases ha : a.organizationId with
      | none => exact absurd (by rw [ha]; rfl) horganization
      | some organizationId => rfl
    exact ⟨a, Rows.get_mem hfound, Rows.get_key hfound, not_not.1 hstatus, _, rfl, rfl, hsome, rfl,
      rfl, rfl, rfl, rfl, rfl, rfl, rfl⟩

/-- The account of an administrator's request, and its access to one organization. -/
theorem createLocalAdvertiser_ok {keys : AccountKeys} {drawn generated : String}
    {body : CreateLocalAdvertiserRequest}
    (h : createLocalAdvertiser cfg db keys drawn generated body = .ok db') :
    ∃ account : NewAccount, account.advertiserOrganizationId = body.advertiserOrganizationId ∧
      (∃ role ∈ db.roles, role.id = account.roleId ∧ role.code = "advertiser") ∧
      AccountAccepted db keys account ∧ db' = db.addAccount keys account := by
  unfold createLocalAdvertiser at h
  dsimp only at h
  split_ifs at h
  all_goals
    split at h
    · cases h
    · split at h
      · cases h
      · rename_i role hrole
        split at h
        · cases h
        · rename_i added user hcreate
          obtain ⟨haccepted, hresult⟩ := createLocalAdvertiserUser_iff.1 hcreate
          cases hresult
          exact ⟨_, rfl, ⟨role, Rows.get_mem hrole, rfl, Rows.get_key hrole⟩, haccepted,
            (Except.ok.inj h).symm⟩

/-- An acceptance uses up a pending invite, and opens its account. -/
theorem acceptAdvertiserInvite_ok {r : AcceptRequest}
    (h : acceptAdvertiserInvite cfg db r = .ok db') :
    ∃ i ∈ db.invites, i.token = r.token ∧ i.status = "pending" ∧
      ∃ account : NewAccount, account.advertiserOrganizationId = i.advertiserOrganizationId ∧
        account.username = i.contactEmail ∧
        (∃ role ∈ db.roles, role.id = account.roleId ∧ role.code = "advertiser") ∧
        AccountAccepted db r.keys account ∧
        db' = (db.addAccount r.keys account).updateInvites (·.token = r.token) r.accepted
          (fun _ ↦ rfl) (fun _ ↦ rfl) (fun _ ↦ rfl) := by
  unfold acceptAdvertiserInvite at h
  split at h
  · cases h
  · rename_i i hfound
    split_ifs at h with _ _ hstatus
    split at h
    · cases h
    · rename_i role hrole
      obtain ⟨hash, -, haccepted, hdb⟩ := openAccount_iff.1 h
      exact ⟨i, Rows.get_mem hfound, Rows.get_key hfound, not_not.1 hstatus, _, rfl, rfl,
        ⟨role, Rows.get_mem hrole, rfl, Rows.get_key hrole⟩, haccepted, hdb⟩

end Requests

/-! ## What one request keeps -/

section Step

variable {cfg : PortalConfig} {start db db' : PortalDb} {created created' : List (String × String)}

theorem ApplicationsSound.of_eq (h : ApplicationsSound db)
    (happlications : db'.applications = db.applications)
    (hdirectory : db'.directory = db.directory) : ApplicationsSound db' := by
  refine ⟨?_, ?_, ?_⟩
  · rw [happlications]
    exact h.ids
  · rw [happlications, hdirectory]
    exact h.organization
  · rw [happlications]
    exact h.own

theorem InvitesSound.mono (h : InvitesSound db)
    (happlications : ∀ a ∈ db.applications, a.status = "approved" → a ∈ db'.applications)
    (hinvites : db'.invites = db.invites) (husers : db.users ⊆ db'.users) : InvitesSound db' := by
  refine ⟨?_, ?_, ?_, ?_⟩
  · intro i hi
    rw [hinvites] at hi
    obtain ⟨a, ha, hid, hstatus, hrest⟩ := h.application i hi
    exact ⟨a, happlications a ha hstatus, hid, hstatus, hrest⟩
  · rw [hinvites]
    exact h.onePending
  · intro i hi hstatus
    rw [hinvites] at hi
    obtain ⟨u, hu, hrest⟩ := h.accepted i hi hstatus
    exact ⟨u, husers hu, hrest⟩
  · rw [hinvites]
    exact h.once

theorem Entitled.mono {userId organizationId : String}
    (h : Entitled created db userId organizationId)
    (hcreated : created ⊆ created')
    (hinvites : ∀ i ∈ db.invites, i.status = "accepted" → i ∈ db'.invites) :
    Entitled created' db' userId organizationId := by
  rcases h with h | ⟨i, hi, hstatus, hrest⟩
  · exact .inl (hcreated h)
  · exact .inr ⟨i, hinvites i hi hstatus, hstatus, hrest⟩

theorem AccessSound.mono (h : AccessSound start created db) (hcreated : created ⊆ created')
    (hinvites : ∀ i ∈ db.invites, i.status = "accepted" → i ∈ db'.invites)
    (hmemberships : db'.memberships = db.memberships) (huserRoles : db'.userRoles = db.userRoles)
    (hroles : db'.roles = db.roles) : AccessSound start created' db' := by
  refine ⟨?_, ?_, ?_⟩
  · intro m hm
    rw [hmemberships] at hm
    exact (h.memberships m hm).imp_right fun hent ↦ hent.mono hcreated hinvites
  · intro g hg
    rw [huserRoles] at hg
    rw [hroles]
    rcases h.userRoles g hg with hold | ⟨organizationId, htype, hid, hrole, hent⟩
    · exact .inl hold
    · exact .inr ⟨organizationId, htype, hid, hrole, hent.mono hcreated hinvites⟩
  · rw [hmemberships]
    exact h.single

/-- A new account has the access of its organization only. -/
theorem AccessSound.addAccount (h : AccessSound start created db) {keys : AccountKeys}
    {account : NewAccount} (haccepted : AccountAccepted db keys account)
    (hrole : ∃ role ∈ db.roles, role.id = account.roleId ∧ role.code = "advertiser")
    (hcreated : created ⊆ created')
    (hinvites : ∀ i ∈ db.invites, i.status = "accepted" → i ∈ db'.invites)
    (hmemberships : db'.memberships = db.memberships ++ [account.membership keys])
    (huserRoles : db'.userRoles = db.userRoles ++ [account.userRole keys])
    (hroles : db'.roles = db.roles)
    (hentitled : Entitled created' db' keys.userId account.advertiserOrganizationId) :
    AccessSound start created' db' := by
  refine ⟨?_, ?_, ?_⟩
  · intro m hm
    rw [hmemberships] at hm
    rcases List.mem_append.1 hm with hm | hm
    · exact (h.memberships m hm).imp_right fun hent ↦ hent.mono hcreated hinvites
    · rw [List.mem_singleton.1 hm]
      exact .inr hentitled
  · intro g hg
    rw [huserRoles] at hg
    rw [hroles]
    rcases List.mem_append.1 hg with hg | hg
    · rcases h.userRoles g hg with hold | ⟨organizationId, htype, hid, hgrole, hent⟩
      · exact .inl hold
      · exact .inr ⟨organizationId, htype, hid, hgrole, hent.mono hcreated hinvites⟩
    · rw [List.mem_singleton.1 hg]
      exact .inr ⟨_, rfl, rfl, hrole, hentitled⟩
  · have hother : ∀ m ∈ db.memberships, m.userId ≠ keys.userId := by
      intro m hm heq
      exact haccepted.newKeys.user (heq ▸ db.membershipUsers m hm)
    intro m hm m' hm' heq hnew
    rw [hmemberships] at hm hm'
    rcases List.mem_append.1 hm with hm | hm <;> rcases List.mem_append.1 hm' with hm' | hm'
    · exact h.single m hm m' hm' heq hnew
    · rw [List.mem_singleton.1 hm'] at heq
      exact absurd heq (hother m hm)
    · rw [List.mem_singleton.1 hm] at heq
      exact absurd heq.symm (hother m' hm')
    · rw [List.mem_singleton.1 hm, List.mem_singleton.1 hm']

theorem PortalKept.refl (db : PortalDb) : PortalKept db db :=
  ⟨fun _ h _ ↦ h, fun _ h _ ↦ h, fun _ h ↦ h, fun _ h ↦ h, fun _ h ↦ h, fun _ h ↦ h⟩

theorem PortalKept.trans {db'' : PortalDb} (h : PortalKept db db') (h' : PortalKept db' db'') :
    PortalKept db db'' where
  decided a ha hstatus := h'.decided a (h.decided a ha hstatus) hstatus
  accepted i hi hstatus := h'.accepted i (h.accepted i hi hstatus) hstatus
  organizations := List.Subset.trans h.organizations h'.organizations
  users := List.Subset.trans h.users h'.users
  memberships := List.Subset.trans h.memberships h'.memberships
  userRoles := List.Subset.trans h.userRoles h'.userRoles

theorem submit_sound (h : PortalSound start created db) {id : String}
    {body : AdvertiserApplicationCreate} (hok : submitApplication db id body = .ok db') :
    PortalSound start created db' ∧ PortalKept db db' := by
  obtain ⟨a, hid, hstatus, horganization, rfl⟩ := submitApplication_ok hok
  have hkept : ∀ a' ∈ db.applications, a' ∈ db.applications ++ [a] := fun _ ha ↦
    List.mem_append_left _ ha
  refine ⟨⟨⟨?_, ?_, ?_⟩, ?_, ?_⟩, ?_⟩
  · rw [List.map_append]
    exact Rows.nodup_concat h.applications.ids hid
  · intro a' ha'
    rcases List.mem_append.1 ha' with ha' | ha'
    · exact h.applications.organization a' ha'
    · rw [List.mem_singleton.1 ha', hstatus]
      exact .inr ⟨by decide, horganization⟩
  · intro a₁ h₁ a₂ h₂ organizationId heq₁ heq₂
    rcases List.mem_append.1 h₁ with h₁ | h₁
    · rcases List.mem_append.1 h₂ with h₂ | h₂
      · exact h.applications.own a₁ h₁ a₂ h₂ organizationId heq₁ heq₂
      · rw [List.mem_singleton.1 h₂, horganization] at heq₂
        cases heq₂
    · rw [List.mem_singleton.1 h₁, horganization] at heq₁
      cases heq₁
  · exact h.invites.mono (fun a' ha' _ ↦ hkept a' ha') rfl (fun _ hu ↦ hu)
  · exact h.access.mono (fun _ hc ↦ hc) (fun _ hi _ ↦ hi) rfl rfl rfl
  · exact { PortalKept.refl db with decided := fun a' ha' _ ↦ hkept a' ha' }

/-- The applications after a review: the reviewed one, and the others as they were. -/
theorem mem_reviewed (h : ApplicationsSound db) {a : AdvertiserApplication}
    (ha : a ∈ db.applications) {f : AdvertiserApplication → AdvertiserApplication}
    {x : AdvertiserApplication} :
    x ∈ Rows.updateWhere (·.id = a.id) f db.applications ↔
      x = f a ∨ x ∈ db.applications ∧ x.id ≠ a.id := by
  rw [Rows.mem_updateWhere]
  constructor
  · rintro ⟨y, hy, rfl⟩
    by_cases hid : y.id = a.id
    · obtain rfl := Rows.key_inj h.ids hy ha hid
      rw [if_pos (decide_eq_true rfl)]
      exact .inl rfl
    · rw [if_neg (by rw [decide_eq_false hid]; decide)]
      exact .inr ⟨hy, hid⟩
  · rintro (rfl | ⟨hx, hid⟩)
    · exact ⟨a, ha, if_pos (decide_eq_true rfl)⟩
    · exact ⟨x, hx, if_neg (by rw [decide_eq_false hid]; decide)⟩

theorem review_sound (h : PortalSound start created db)
    {applicationId action organizationId : String}
    (hok : reviewApplication cfg db applicationId action organizationId = .ok db') :
    PortalSound start created db' ∧ PortalKept db db' := by
  obtain ⟨a, ha, rfl, hstatus, hinvites, husers, hroles, huserRoles, hmemberships, hcase⟩ :=
    reviewApplication_ok hok
  have hmem := fun f x ↦ mem_reviewed h.applications ha (f := f) (x := x)
  have hids : ∀ f : AdvertiserApplication → AdvertiserApplication, (∀ x, (f x).id = x.id) →
      ((Rows.updateWhere (·.id = a.id) f db.applications).map (·.id)).Nodup := by
    intro f hf
    rw [Rows.map_updateWhere _ hf]
    exact h.applications.ids
  -- an application that is decided is another one
  have hother : ∀ a' ∈ db.applications, a'.status ∈ ["approved", "rejected"] → a'.id ≠ a.id := by
    intro a' ha' hdecided heq
    obtain rfl := Rows.key_inj h.applications.ids ha' ha heq
    simp only [List.mem_cons, List.not_mem_nil, or_false] at hdecided hstatus
    rcases hdecided with hdecided | hdecided <;> rw [hdecided] at hstatus <;>
      exact absurd hstatus (by decide)
  have hnone : a.organizationId = none := by
    rcases h.applications.organization a ha with ⟨happroved, -⟩ | ⟨-, hnone⟩
    · exact absurd rfl (hother a ha (by rw [happroved]; decide))
    · exact hnone
  have hkept : ∀ f, db'.applications = Rows.updateWhere (·.id = a.id) f db.applications →
      ∀ a' ∈ db.applications, a'.status ∈ ["approved", "rejected"] → a' ∈ db'.applications := by
    intro f happlications a' ha' hdecided
    rw [happlications, hmem]
    exact .inr ⟨ha', hother a' ha' hdecided⟩
  have happroved : ∀ f, db'.applications = Rows.updateWhere (·.id = a.id) f db.applications →
      ∀ a' ∈ db.applications, a'.status = "approved" → a' ∈ db'.applications := by
    intro f happlications a' ha' heq
    exact hkept f happlications a' ha' (by rw [heq]; decide)
  have haccess : AccessSound start created db' := h.access.mono (fun _ hc ↦ hc)
    (fun i hi _ ↦ by rw [hinvites]; exact hi) hmemberships huserRoles hroles
  have hsame : ∀ {α : Type} {l m : List α}, m = l → l ⊆ m := by
    rintro α l m rfl
    exact fun _ hx ↦ hx
  rcases hcase with ⟨status, hnew, hdirectory, happlications⟩ |
    ⟨o, hid, hlegal, hdisplay, hdirectory, happlications⟩
  · refine ⟨⟨⟨?_, ?_, ?_⟩, h.invites.mono (happroved _ happlications) hinvites (hsame husers),
      haccess⟩, ⟨hkept _ happlications, fun i hi _ ↦ by rw [hinvites]; exact hi,
        hsame (by rw [hdirectory]), hsame husers, hsame hmemberships, hsame huserRoles⟩⟩
    · rw [happlications]
      exact hids _ fun _ ↦ rfl
    · intro x hx
      rw [happlications, hmem] at hx
      rw [hdirectory]
      rcases hx with rfl | ⟨hx, -⟩
      · refine .inr ⟨?_, hnone⟩
        show status ∈ _
        simp only [List.mem_cons, List.not_mem_nil, or_false] at hnew ⊢
        tauto
      · exact h.applications.organization x hx
    · intro x hx y hy organizationId hxid hyid
      rw [happlications, hmem] at hx hy
      rcases hx with rfl | ⟨hx, -⟩
      · rw [show _ = none from hnone] at hxid
        cases hxid
      · rcases hy with rfl | ⟨hy, -⟩
        · rw [show _ = none from hnone] at hyid
          cases hyid
        · exact h.applications.own x hx y hy organizationId hxid hyid
  · have hgrown : db.directory.organizations ⊆ db'.directory.organizations := by
      rw [hdirectory]
      exact List.subset_append_left _ _
    -- no application has the new organization yet
    have hfresh : ∀ x ∈ db.applications, x.organizationId ≠ some o.id := by
      intro x hx heq
      rcases h.applications.organization x hx with ⟨-, o', ho', hsome, -⟩ | ⟨-, hnone'⟩
      · rw [heq, Option.some.injEq] at hsome
        exact hid (hsome ▸ List.mem_map_of_mem ho')
      · rw [heq] at hnone'
        cases hnone'
    refine ⟨⟨⟨?_, ?_, ?_⟩, h.invites.mono (happroved _ happlications) hinvites (hsame husers),
      haccess⟩, ⟨hkept _ happlications, fun i hi _ ↦ by rw [hinvites]; exact hi, hgrown,
        hsame husers, hsame hmemberships, hsame huserRoles⟩⟩
    · rw [happlications]
      exact hids _ fun _ ↦ rfl
    · intro x hx
      rw [happlications, hmem] at hx
      rcases hx with rfl | ⟨hx, -⟩
      · refine .inl ⟨rfl, o, ?_, rfl, hlegal, hdisplay⟩
        rw [hdirectory]
        exact List.mem_append_right _ List.mem_cons_self
      · rcases h.applications.organization x hx with ⟨hx', o', ho', hrest⟩ | hx'
        · exact .inl ⟨hx', o', hgrown ho', hrest⟩
        · exact .inr hx'
    · intro x hx y hy organizationId hxid hyid
      rw [happlications, hmem] at hx hy
      rcases hx with rfl | ⟨hx, -⟩ <;> rcases hy with rfl | ⟨hy, -⟩
      · rfl
      · exact absurd (hyid.trans hxid.symm) (hfresh y hy)
      · exact absurd (hxid.trans hyid.symm) (hfresh x hx)
      · exact h.applications.own x hx y hy organizationId hxid hyid

theorem invite_sound (h : PortalSound start created db) {now : Int}
    {id token applicationId : String}
    (hok : createApplicationInvite db now id token applicationId = .ok db') :
    PortalSound start created db' ∧ PortalKept db db' := by
  obtain ⟨a, ha, rfl, hstatus, i, hid, hpending, horganization, hemail, hinvites, hdirectory,
    happlications, husers, hroles, huserRoles, hmemberships⟩ := createApplicationInvite_ok hok
  have hsame : ∀ {α : Type} {l m : List α}, m = l → l ⊆ m := by
    rintro α l m rfl
    exact fun _ hx ↦ hx
  -- an invite of before, of which only the status may differ, or the new one
  have hmem : ∀ x ∈ db'.invites, x = i ∨ ∃ y ∈ db.invites,
      y.advertiserApplicationId = x.advertiserApplicationId ∧
      y.advertiserOrganizationId = x.advertiserOrganizationId ∧ y.contactEmail = x.contactEmail ∧
      (y = x ∧ ¬ (x.advertiserApplicationId = a.id ∧ x.status = "pending") ∨
        x.status = "expired") := by
    intro x hx
    rw [hinvites] at hx
    rcases List.mem_append.1 hx with hx | hx
    · obtain ⟨y, hy, rfl⟩ := Rows.mem_updateWhere.1 hx
      refine .inr ⟨y, hy, ?_⟩
      by_cases hmatch : y.advertiserApplicationId = a.id ∧ y.status = "pending"
      · rw [if_pos (decide_eq_true hmatch)]
        exact ⟨rfl, rfl, rfl, .inr rfl⟩
      · rw [if_neg (by rw [decide_eq_false hmatch]; decide)]
        exact ⟨rfl, rfl, rfl, .inl ⟨rfl, hmatch⟩⟩
    · exact .inl (List.mem_singleton.1 hx)
  have haccepted : ∀ x ∈ db'.invites, x.status = "accepted" → x ∈ db.invites := by
    intro x hx hx'
    rcases hmem x hx with rfl | ⟨y, hy, -, -, -, ⟨rfl, -⟩ | hexpired⟩
    · rw [hpending] at hx'
      exact absurd hx' (by decide)
    · exact hy
    · rw [hexpired] at hx'
      exact absurd hx' (by decide)
  have hkept : ∀ x ∈ db.invites, x.status = "accepted" → x ∈ db'.invites := by
    intro x hx hx'
    have hno : ¬ (x.advertiserApplicationId = a.id ∧ x.status = "pending") := by
      rw [hx']
      exact fun hmatch ↦ absurd hmatch.2 (by decide)
    rw [hinvites]
    refine List.mem_append_left _ (Rows.mem_updateWhere.2 ⟨x, hx, ?_⟩)
    rw [if_neg (by rw [decide_eq_false hno]; decide)]
  refine ⟨⟨h.applications.of_eq happlications hdirectory, ⟨?_, ?_, ?_, ?_⟩,
    h.access.mono (fun _ hc ↦ hc) hkept hmemberships huserRoles hroles⟩,
    ⟨fun x hx _ ↦ by rw [happlications]; exact hx, hkept, hsame (by rw [hdirectory]), hsame husers,
      hsame hmemberships, hsame huserRoles⟩⟩
  · intro x hx
    rw [happlications]
    rcases hmem x hx with rfl | ⟨y, hy, happ, horg, hmail, -⟩
    · exact ⟨a, ha, hid.symm, hstatus, horganization, hemail.symm⟩
    · obtain ⟨b, hb, hbid, hbstatus, hborg, hbmail⟩ := h.invites.application y hy
      exact ⟨b, hb, hbid.trans happ, hbstatus, horg ▸ hborg, hbmail.trans hmail⟩
  · intro x hx y hy heq hx' hy'
    rcases hmem x hx with rfl | ⟨x₀, hx₀, -, -, -, ⟨rfl, hno⟩ | hexpired⟩
    · rcases hmem y hy with rfl | ⟨y₀, hy₀, -, -, -, ⟨rfl, hno⟩ | hexpired⟩
      · rfl
      · exact absurd ⟨heq.symm.trans hid, hy'⟩ hno
      · rw [hexpired] at hy'
        exact absurd hy' (by decide)
    · rcases hmem y hy with rfl | ⟨y₀, hy₀, -, -, -, ⟨rfl, -⟩ | hexpired⟩
      · exact absurd ⟨heq.trans hid, hx'⟩ hno
      · exact h.invites.onePending x₀ hx₀ y₀ hy₀ heq hx' hy'
      · rw [hexpired] at hy'
        exact absurd hy' (by decide)
    · rw [hexpired] at hx'
      exact absurd hx' (by decide)
  · intro x hx hx'
    rw [husers]
    exact h.invites.accepted x (haccepted x hx hx') hx'
  · intro x hx y hy hx' hy' heq
    exact h.invites.once x (haccepted x hx hx') y (haccepted y hy hy') hx' hy' heq

theorem create_sound (h : PortalSound start created db) {keys : AccountKeys}
    {drawn generated : String} {body : CreateLocalAdvertiserRequest}
    (hok : createLocalAdvertiser cfg db keys drawn generated body = .ok db') :
    PortalSound start (created ++ [(keys.userId, body.advertiserOrganizationId)]) db' ∧
      PortalKept db db' := by
  obtain ⟨account, horganization, hrole, haccepted, rfl⟩ := createLocalAdvertiser_ok hok
  have husers : db.users ⊆ (db.addAccount keys account).users := List.subset_append_left _ _
  refine ⟨⟨h.applications.of_eq rfl rfl, h.invites.mono (fun _ ha _ ↦ ha) rfl husers, ?_⟩, ?_⟩
  · refine h.access.addAccount haccepted hrole (List.subset_append_left _ _) (fun _ hi _ ↦ hi)
      rfl rfl rfl (.inl ?_)
    rw [horganization]
    exact List.mem_append_right _ List.mem_cons_self
  · exact { PortalKept.refl db with
      users := husers
      memberships := List.subset_append_left _ _
      userRoles := List.subset_append_left _ _ }

theorem accept_sound (h : PortalSound start created db) {r : AcceptRequest}
    (hok : acceptAdvertiserInvite cfg db r = .ok db') :
    PortalSound start created db' ∧ PortalKept db db' := by
  obtain ⟨i, hi, htoken, hpending, account, horganization, husername, hrole, haccepted, rfl⟩ :=
    acceptAdvertiserInvite_ok hok
  have hmem : ∀ x, x ∈ Rows.updateWhere (·.token = r.token) r.accepted db.invites ↔
      x = r.accepted i ∨ x ∈ db.invites ∧ x.token ≠ r.token := by
    intro x
    rw [Rows.mem_updateWhere]
    constructor
    · rintro ⟨y, hy, rfl⟩
      by_cases hy' : y.token = r.token
      · obtain rfl := Rows.key_inj db.uniqueTokens hy hi (hy'.trans htoken.symm)
        rw [if_pos (decide_eq_true hy')]
        exact .inl rfl
      · rw [if_neg (by rw [decide_eq_false hy']; decide)]
        exact .inr ⟨hy, hy'⟩
    · rintro (rfl | ⟨hx, hx'⟩)
      · exact ⟨i, hi, if_pos (decide_eq_true htoken)⟩
      · exact ⟨x, hx, if_neg (by rw [decide_eq_false hx']; decide)⟩
  have hkept : ∀ x ∈ db.invites, x.status = "accepted" →
      x ∈ Rows.updateWhere (·.token = r.token) r.accepted db.invites := by
    intro x hx hx'
    refine (hmem x).2 (.inr ⟨hx, fun heq ↦ ?_⟩)
    obtain rfl := Rows.key_inj db.uniqueTokens hx hi (heq.trans htoken.symm)
    rw [hpending] at hx'
    exact absurd hx' (by decide)
  -- the user of an earlier acceptance is not the new one
  have hnew : ∀ x ∈ db.invites, x.status = "accepted" →
      x.acceptedByUserId ≠ some r.keys.userId := by
    intro x hx hx' heq
    obtain ⟨u, hu, hby, -⟩ := h.invites.accepted x hx hx'
    rw [heq, Option.some.injEq] at hby
    exact haccepted.newKeys.user (hby ▸ List.mem_map_of_mem hu)
  refine ⟨⟨h.applications.of_eq rfl rfl, ⟨?_, ?_, ?_, ?_⟩, ?_⟩, ?_⟩
  · intro x hx
    rcases (hmem x).1 hx with rfl | ⟨hx, -⟩
    · exact h.invites.application i hi
    · exact h.invites.application x hx
  · intro x hx y hy heq hx' hy'
    rcases (hmem x).1 hx with rfl | ⟨hx, -⟩
    · exact absurd hx' (show "accepted" ≠ "pending" by decide)
    · rcases (hmem y).1 hy with rfl | ⟨hy, -⟩
      · exact absurd hy' (show "accepted" ≠ "pending" by decide)
      · exact h.invites.onePending x hx y hy heq hx' hy'
  · intro x hx hx'
    rcases (hmem x).1 hx with rfl | ⟨hx, -⟩
    · exact ⟨account.user r.keys, List.mem_append_right _ List.mem_cons_self, rfl, husername⟩
    · obtain ⟨u, hu, hrest⟩ := h.invites.accepted x hx hx'
      exact ⟨u, List.mem_append_left _ hu, hrest⟩
  · intro x hx y hy hx' hy' heq
    rcases (hmem x).1 hx with rfl | ⟨hx, -⟩ <;> rcases (hmem y).1 hy with rfl | ⟨hy, -⟩
    · rfl
    · exact absurd heq.symm (hnew y hy hy')
    · exact absurd heq (hnew x hx hx')
    · exact h.invites.once x hx y hy hx' hy' heq
  · exact h.access.addAccount haccepted hrole (fun _ hc ↦ hc) hkept rfl rfl rfl
      (.inr ⟨r.accepted i, (hmem _).2 (.inl rfl), rfl, rfl, horganization.symm⟩)
  · exact ⟨fun _ ha _ ↦ ha, hkept, fun _ ho ↦ ho, List.subset_append_left _ _,
      List.subset_append_left _ _, List.subset_append_left _ _⟩

theorem portal_step (h : PortalSound start created db) (e : PortalEvent) :
    PortalSound start (created ++ e.creates cfg db) (portalNext cfg db e) ∧
      PortalKept db (portalNext cfg db e) := by
  have hnone : created ++ [] = created := List.append_nil created
  unfold portalNext
  cases e with
  | submit id body =>
      rw [show PortalEvent.creates cfg db _ = [] from rfl, hnone]
      split
      · rename_i hok
        exact submit_sound h hok
      · exact ⟨h, .refl db⟩
  | review applicationId action organizationId =>
      rw [show PortalEvent.creates cfg db _ = [] from rfl, hnone]
      split
      · rename_i hok
        exact review_sound h hok
      · exact ⟨h, .refl db⟩
  | invite now id token applicationId =>
      rw [show PortalEvent.creates cfg db _ = [] from rfl, hnone]
      split
      · rename_i hok
        exact invite_sound h hok
      · exact ⟨h, .refl db⟩
  | create keys drawn generated body =>
      unfold PortalEvent.creates PortalEvent.result
      dsimp only
      cases hok : createLocalAdvertiser cfg db keys drawn generated body with
      | ok db' => exact create_sound h hok
      | error e =>
          dsimp only
          rw [hnone]
          exact ⟨h, .refl db⟩
  | accept r =>
      rw [show PortalEvent.creates cfg db _ = [] from rfl, hnone]
      split
      · rename_i hok
        exact accept_sound h hok
      · exact ⟨h, .refl db⟩

theorem portal_run (h : PortalSound start created db) (l : List PortalEvent) :
    PortalSound start (created ++ createdAccounts cfg db l) (Run.final (portalNext cfg) db l) ∧
      PortalKept db (Run.final (portalNext cfg) db l) := by
  induction l generalizing db created with
  | nil =>
      rw [show createdAccounts cfg db [] = [] from rfl, List.append_nil]
      exact ⟨h, .refl db⟩
  | cons e l ih =>
      obtain ⟨hstep, hkept⟩ : PortalSound start (created ++ e.creates cfg db)
          (portalNext cfg db e) ∧ PortalKept db (portalNext cfg db e) := portal_step h e
      obtain ⟨hrun, hkept'⟩ := ih hstep
      rw [createdAccounts, ← List.append_assoc, Run.final_cons]
      exact ⟨hrun, hkept.trans hkept'⟩

end Step

/-- In every state that is reached from a portal without applications: an application has an
organization of its own, with the company's name, exactly when it is approved; an invite is for the
address and the organization of an approved application, which has at most one pending; an accepted
invite has opened one account, with the invited address as its name; and every access that was not
there at the start is of an account that an administrator created for the organization or that
was opened with an invite to it.  Decisions, acceptances, organizations and accounts stay. -/
theorem portal_access (cfg : PortalConfig) (start : PortalDb)
    (happlications : start.applications = []) (hinvites : start.invites = [])
    (l m : List PortalEvent) :
    PortalSound start (createdAccounts cfg start l) (Run.final (portalNext cfg) start l) ∧
      PortalKept (Run.final (portalNext cfg) start l)
        (Run.final (portalNext cfg) start (l ++ m)) := by
  have hstart : PortalSound start [] start := by
    refine ⟨⟨?_, ?_, ?_⟩, ⟨?_, ?_, ?_, ?_⟩, ⟨fun _ hm ↦ .inl hm, fun _ hg ↦ .inl hg, ?_⟩⟩
    · rw [happlications]
      exact List.nodup_nil
    · rw [happlications]
      exact fun _ ha ↦ absurd ha List.not_mem_nil
    · rw [happlications]
      exact fun _ ha ↦ absurd ha List.not_mem_nil
    · rw [hinvites]
      exact fun _ hi ↦ absurd hi List.not_mem_nil
    · rw [hinvites]
      exact fun _ hi ↦ absurd hi List.not_mem_nil
    · rw [hinvites]
      exact fun _ hi ↦ absurd hi List.not_mem_nil
    · rw [hinvites]
      exact fun _ hi ↦ absurd hi List.not_mem_nil
    · exact fun m hm _ _ _ hnew ↦ absurd (start.membershipUsers m hm) hnew
  have hrun : PortalSound start ([] ++ createdAccounts cfg start l)
      (Run.final (portalNext cfg) start l) := (portal_run hstart l).1
  rw [List.nil_append] at hrun
  refine ⟨hrun, ?_⟩
  have hsplit : Run.final (portalNext cfg) start (l ++ m) =
      Run.final (portalNext cfg) (Run.final (portalNext cfg) start l) m := List.foldl_append
  rw [hsplit]
  exact (portal_run hrun m).2

theorem anna_access :
    PortalSound seededPortal (createdAccounts portalConfig seededPortal annasRun) firstAccepted ∧
      PortalKept firstAccepted
        (Run.final (portalNext portalConfig) seededPortal
          (annasRun ++ [.accept otherAnnaAccepts])) :=
  portal_access portalConfig seededPortal rfl rfl annasRun [.accept otherAnnaAccepts]

end RetailMedia
