import RetailMedia.Tenancy.Isolation
import RetailMedia.Campaign.Creatives

/-! Device requests: a device looks itself up under a variable that shows it no row but its own, and
works in the scope of its retailer from then on. -/

namespace RetailMedia

variable {δ β κ : Type*}

/-! ## The dependency -/

section Dependency

variable (parent : RlsTable → TenantRow δ → Option (TenantRow δ)) (status : δ → String)

/-- The row, if the session's policies show it. -/
def getDeviceRetailerIdAndStatus (s : RlsSettings) (l : List (TenantRow δ)) (deviceId : String) :
    Option (Option String × String) :=
  ((l.filter fun r ↦ (deployedCatalogue.rights parent s).reads r &&
      (r.table = .physicalDevices && r.id = deviceId)).head?).map
    fun r ↦ (r.retailerId, status r.rest)

def deviceStatuses : List String := ["active", "online"]

def setDeviceRlsContext (l : List (TenantRow δ)) (deviceId : String) (c : RlsConnection) :
    Except HttpError RlsConnection :=
  let bootstrap := c.execute (.setConfig .deviceId deviceId true)
  let row := getDeviceRetailerIdAndStatus parent status bootstrap.current l deviceId
  let cleared := bootstrap.execute (.setConfig .deviceId "" true)
  match row with
  | none => .error ⟨404, "Device not found"⟩
  | some (retailerId, deviceStatus) =>
      if deviceStatus ∉ deviceStatuses then .error ⟨403, "Device not authorized"⟩
      else .ok (cleared.run (deviceScope retailerId))

end Dependency

/-! ## The lookup -/

section Lookup

variable {parent : RlsTable → TenantRow δ → Option (TenantRow δ)} {status : δ → String}
  {s s' : RlsSettings} {r : TenantRow δ} {c : RlsCatalogue} {deviceId : String}

def ownDevice (deviceId : String) (r : TenantRow δ) : Bool :=
  r.table = .physicalDevices && r.id = deviceId

/-- While it looks itself up, a device reads its own row, and the price lists. -/
theorem bootstrap_reads (hs : s.effective = RlsSettings.fresh.effective) (hid : deviceId ≠ "")
    (hc : r.table.Checked c) :
    (c.rights parent (s.set .deviceId deviceId)).reads r =
      (ownDevice deviceId r || r.table.readership = .everyone) := by
  have hadmin : (s.set .deviceId deviceId).admin = false := by
    unfold RlsSettings.admin
    rw [effective_set, hs]
    rfl
  have hscope : ∀ v, v ≠ .deviceId → (s.set .deviceId deviceId).scopeArray v = [] := by
    intro v hv
    unfold RlsSettings.scopeArray
    rw [effective_set, if_neg hv, hs]
    rfl
  have hdevice : (s.set .deviceId deviceId).effective .deviceId = some deviceId := by
    rw [effective_set, if_pos rfl, Option.filter_some, if_pos (by simpa using hid)]
  rw [reads_eq hc]
  unfold RlsTable.readChecks ownDevice
  cases htable : r.table <;>
    simp [RlsTable.readership, holds_scopeCheck hadmin, holds_twoLevel hadmin,
      holds_retailerOnly hadmin, holds_viaOrderScope hadmin, RlsCheck.holds, hadmin, hdevice,
      hscope, deviceBootstrapSelect, ownRetailer, TenantRow.column, eq_comm]

end Lookup

section Confined

variable (parent : RlsTable → TenantRow δ → Option (TenantRow δ)) (status : δ → String)
  (history : List PoolEvent) (connection : Nat) (l : List (TenantRow δ)) (deviceId : String)

/-- The connection while the device looks itself up. -/
def bootstrapped : RlsConnection :=
  (pooled history connection).execute (.setConfig .deviceId deviceId true)

/-- The policies hide nothing that the lookup needs. -/
theorem lookup_eq (hid : deviceId ≠ "") :
    getDeviceRetailerIdAndStatus parent status
        (bootstrapped history connection deviceId).current l deviceId =
      ((l.filter (ownDevice deviceId)).head?).map fun r ↦ (r.retailerId, status r.rest) := by
  have hset : (bootstrapped history connection deviceId).current =
      (pooled history connection).current.set .deviceId deviceId := rfl
  have hsame : (l.filter fun r ↦ (deployedCatalogue.rights parent
        (bootstrapped history connection deviceId).current).reads r &&
        (r.table = .physicalDevices && r.id = deviceId)) = l.filter (ownDevice deviceId) := by
    apply List.filter_congr
    intro r _
    rw [hset, bootstrap_reads (pooled_idle history connection).current hid (checked r.table)]
    unfold ownDevice
    cases (decide (r.table = .physicalDevices) && decide (r.id = deviceId)) <;> simp
  unfold getDeviceRetailerIdAndStatus
  rw [hsame]

/-- A device is let in just when it has a row and is active or online. -/
theorem device_admitted_iff (hid : deviceId ≠ "") :
    (∃ c', setDeviceRlsContext parent status l deviceId (pooled history connection) = .ok c') ↔
      ∃ device, (l.filter (ownDevice deviceId)).head? = some device ∧
        status device.rest ∈ deviceStatuses := by
  have hlookup := lookup_eq parent status history connection l deviceId hid
  unfold bootstrapped at hlookup
  unfold setDeviceRlsContext
  dsimp only
  rw [hlookup]
  cases (l.filter (ownDevice deviceId)).head? with
  | none => simp
  | some device =>
      by_cases hstatus : status device.rest ∈ deviceStatuses
      · simp [hstatus]
      · simp [hstatus]

variable {parent} {status} {history} {connection} {l} {deviceId}
  {c' : RlsConnection}

/-- A device that is let in has a row, and has run the statements of its step with the retailer of
that row. -/
theorem deviceContext_ok
    (h : setDeviceRlsContext parent status l deviceId (pooled history connection) = .ok c') :
    ∃ device ∈ l, ownDevice deviceId device = true ∧ status device.rest ∈ deviceStatuses ∧
      c' = (pooled history connection).run
        (RequestStep.setDeviceRlsContext deviceId device.retailerId).statements := by
  unfold setDeviceRlsContext at h
  dsimp only at h
  split at h
  · cases h
  · rename_i retailerId deviceStatus hrow
    split at h
    · cases h
    · rename_i hstatus
      unfold getDeviceRetailerIdAndStatus at hrow
      rw [Option.map_eq_some_iff] at hrow
      obtain ⟨device, hhead, hpair⟩ := hrow
      obtain ⟨hmem, hcond⟩ := List.mem_filter.1 (List.mem_of_mem_head? hhead)
      rw [Bool.and_eq_true] at hcond
      cases hpair
      cases h
      exact ⟨device, hmem, hcond.2, not_not.1 hstatus, rfl⟩

theorem scopeCsv_singleton (id : String) : scopeCsv [id] = id := by
  unfold scopeCsv
  rw [if_pos (List.cons_ne_nil id [])]
  simp [sortedTexts]

variable (parent) in
/-- The scope that a device gets: its retailer, and no advertiser. -/
theorem deviceContext_scope (device : TenantRow δ)
    (hplain : ∀ retailer ∈ device.retailerId, PlainId retailer) {s : RlsSettings}
    (hs : s = ((pooled history connection).run
      (RequestStep.setDeviceRlsContext deviceId device.retailerId).statements).current) :
    s.admin = false ∧ s.effective .deviceId = none ∧
      TenantRow.owned parent (s.scopeArray .scopeRetailerIds) (s.scopeArray .scopeAdvertiserIds) =
        TenantRow.owned parent device.retailerId.toList [] := by
  have hidle := (pooled_idle history connection).current
  -- the statements of the call, one after the other, on a connection that holds nothing
  have hset : s = ((((pooled history connection).current.set .deviceId deviceId).set .deviceId
      "").set .scopeRetailerIds (device.retailerId.getD "")).set .isAdmin "false" := hs
  subst hset
  refine ⟨?_, ?_, ?_⟩
  · unfold RlsSettings.admin
    rw [effective_set, if_pos rfl]
    decide
  · rw [effective_set, if_neg (by decide), effective_set, if_neg (by decide), effective_set,
      if_pos rfl]
    decide
  · apply owned_congr
    · intro id
      cases hretailer : device.retailerId with
      | none =>
          unfold RlsSettings.scopeArray
          rw [effective_set, if_neg (by decide), effective_set, if_pos rfl]
          exact iff_of_false List.not_mem_nil List.not_mem_nil
      | some retailer =>
          apply mem_scopeArray
          · rw [Option.toList_some, scopeCsv_singleton]
            rfl
          · intro x hx
            rw [Option.toList_some, List.mem_singleton] at hx
            exact hx ▸ hplain retailer hretailer
    · intro id
      unfold RlsSettings.scopeArray
      rw [effective_set, if_neg (by decide), effective_set, if_neg (by decide), effective_set,
        if_neg (by decide), effective_set, if_neg (by decide), hidle]
      rfl

/-- The rows of the device's retailer. -/
def sameRetailer (parent : RlsTable → TenantRow δ → Option (TenantRow δ)) (device : TenantRow δ) :
    TenantRow δ → Bool := TenantRow.owned parent device.retailerId.toList []

/-- Those, and the price lists. -/
def seenByDevice (parent : RlsTable → TenantRow δ → Option (TenantRow δ)) (device : TenantRow δ) :
    TenantRow δ → Bool := TenantRow.seen parent device.retailerId.toList []

/-- A device that is let in works within its retailer: it changes no row beyond, and neither what it
is answered nor what it leaves of the rows that it sees depends on the others, unless a unique or a
foreign key stops it. -/
theorem device_confined [DecidableEq κ] (C : RowSecurity.Constraints (TenantRow δ) κ)
    (client : RowSecurity.Client (TenantRow δ) β)
    (hplain : ∀ r ∈ l, ∀ retailer ∈ r.retailerId, PlainId retailer)
    (h : setDeviceRlsContext parent status l deviceId (pooled history connection) = .ok c') :
    ∃ device ∈ l, ownDevice deviceId device = true ∧ status device.rest ∈ deviceStatuses ∧
      (∃ new : List (TenantRow δ),
        (client.after (deployedCatalogue.rights parent c'.current) C l).filter
            (fun r ↦ !sameRetailer parent device r) =
          l.filter (fun r ↦ !sameRetailer parent device r) ++ new ∧
        ∀ r ∈ new, r.table = .advertiserApplications) ∧
      ∀ m : List (TenantRow δ),
        l.filter (seenByDevice parent device) = m.filter (seenByDevice parent device) →
        client.Unhindered (deployedCatalogue.rights parent c'.current) C l →
        client.Unhindered (deployedCatalogue.rights parent c'.current) C m →
        client.outcome (deployedCatalogue.rights parent c'.current) C l =
            client.outcome (deployedCatalogue.rights parent c'.current) C m ∧
          (client.after (deployedCatalogue.rights parent c'.current) C l).filter
              (seenByDevice parent device) =
            (client.after (deployedCatalogue.rights parent c'.current) C m).filter
              (seenByDevice parent device) := by
  obtain ⟨device, hmem, hown, hstatus, hc'⟩ := deviceContext_ok h
  obtain ⟨hadmin, hdevice, hscope⟩ := deviceContext_scope parent device
    (hplain device hmem) (congrArg RlsConnection.current hc')
  -- what the connection's rights cover is the retailer's, for reading and for writing
  have hwithin : (deployedCatalogue.rights parent c'.current).Within
      (seenByDevice parent device) := by
    intro r hr
    rw [reads_seen hadmin (checked r.table) hdevice] at hr
    unfold TenantRow.seen at hr
    rw [hscope] at hr
    exact hr
  have hconfined : (deployedCatalogue.rights parent c'.current).Confined
      (sameRetailer parent device) := by
    have hrights := rights_confined parent hadmin
    rw [hscope] at hrights
    exact hrights
  refine ⟨device, hmem, hown, hstatus, ?_, ?_⟩
  · obtain ⟨new, heq, hnew⟩ := client.after_foreign C hconfined l
    refine ⟨new, heq, ?_⟩
    intro r hr
    obtain ⟨hinsert, hforeign⟩ := hnew r hr
    unfold sameRetailer at hforeign
    rw [← hscope] at hforeign
    exact application_of_inserts hadmin (checked r.table) hinsert hforeign
  · intro m hsame hl hm
    exact client.noninterference hwithin hsame hl hm

end Confined

def deviceRow (retailerId : String) : TenantRow String :=
  { table := .physicalDevices, id := "d1", retailerId := some retailerId, rest := "online" }

def otherDeviceRow : TenantRow String :=
  { table := .physicalDevices, id := "d2", retailerId := some "r2", rest := "online" }

/-- The connection of the device's session. -/
def firstDeviceConnection : RlsConnection :=
  (pooled [] 0).run (RequestStep.setDeviceRlsContext "d1" (some "r1")).statements

theorem firstDevice_admitted :
    setDeviceRlsContext (fun _ _ ↦ none) (fun status ↦ status) [deviceRow "r1", otherDeviceRow] "d1"
      (pooled [] 0) = .ok firstDeviceConnection := by
  have hlookup := lookup_eq (fun _ _ ↦ none) (fun status : String ↦ status) [] 0
    [deviceRow "r1", otherDeviceRow] "d1" (by decide)
  unfold bootstrapped at hlookup
  unfold setDeviceRlsContext
  dsimp only
  rw [hlookup]
  rfl

def wipe : RowSecurity.Client (TenantRow String) (RowSecurity.Answer (TenantRow String)) :=
  .ask (.delete fun _ ↦ true) .done

def wipedRights : RowSecurity.Rights (TenantRow String) :=
  deployedCatalogue.rights (fun _ _ ↦ none) firstDeviceConnection.current

/-- Ids are unique, and a device refers to its retailer. -/
def deviceKeys : RowSecurity.Constraints (TenantRow String) String where
  valid _ := true
  keys r := [r.id]
  refers r := r.retailerId.toList
  outside := ["r1", "r2"]
  pinned := []

theorem device_confined_wipe :
    ∃ device ∈ [deviceRow "r1", otherDeviceRow], ownDevice "d1" device = true ∧
      device.rest ∈ deviceStatuses ∧
      (∃ new : List (TenantRow String),
        (wipe.after wipedRights deviceKeys [deviceRow "r1", otherDeviceRow]).filter
            (fun r ↦ !sameRetailer (fun _ _ ↦ none) device r) =
          [deviceRow "r1", otherDeviceRow].filter
            (fun r ↦ !sameRetailer (fun _ _ ↦ none) device r) ++ new ∧
        ∀ r ∈ new, r.table = .advertiserApplications) ∧
      ∀ m : List (TenantRow String),
        [deviceRow "r1", otherDeviceRow].filter (seenByDevice (fun _ _ ↦ none) device) =
          m.filter (seenByDevice (fun _ _ ↦ none) device) →
        wipe.Unhindered wipedRights deviceKeys [deviceRow "r1", otherDeviceRow] →
        wipe.Unhindered wipedRights deviceKeys m →
        wipe.outcome wipedRights deviceKeys [deviceRow "r1", otherDeviceRow] =
            wipe.outcome wipedRights deviceKeys m ∧
          (wipe.after wipedRights deviceKeys [deviceRow "r1", otherDeviceRow]).filter
              (seenByDevice (fun _ _ ↦ none) device) =
            (wipe.after wipedRights deviceKeys m).filter
              (seenByDevice (fun _ _ ↦ none) device) :=
  device_confined deviceKeys wipe (by decide) firstDevice_admitted

end RetailMedia
