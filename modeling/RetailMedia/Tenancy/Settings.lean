import RetailMedia.Auth.Scopes
import RetailMedia.Delivery.Manifest
import RetailMedia.Lib.Joined

/-! The session variables that row-level security reads: how a scope is written into them, and how
long they last on a connection that many requests use. -/

namespace RetailMedia

/-! ## Variables -/

inductive RlsVariable
  | userId
  | isAdmin
  | deviceId
  | scopeRetailerIds
  | scopeAdvertiserIds
  deriving DecidableEq, Repr

/-- `current_setting('app.rmp_…', true)`, null for a variable that the connection has never set. -/
abbrev RlsSettings := RlsVariable → Option String

namespace RlsSettings

def fresh : RlsSettings := fun _ ↦ none

variable (s : RlsSettings)

def set (v : RlsVariable) (value : String) : RlsSettings := Function.update s v (some value)

/-- A variable that has been set once is empty, not null, where it has no value. -/
def touch (v : RlsVariable) : RlsSettings := if s v = none then s.set v "" else s

/-- `NULLIF(…, '')`. -/
def effective (v : RlsVariable) : Option String := (s v).filter (· ≠ "")

/-- `COALESCE(…, 'false')::bool = true`; no value but `true` and `false` is ever written. -/
def admin : Bool := (s.effective .isAdmin).getD "false" = "true"

/-- `COALESCE(string_to_array(…, ','), '{}')`. -/
def scopeArray (v : RlsVariable) : List String :=
  match s.effective v with
  | none => []
  | some csv => (csv.toList.splitOn ',').map String.ofList

end RlsSettings

/-! ## Connections -/

/-- The values that `current_setting` reads, those that stay when the open transaction commits, and
those that come back when it rolls back. -/
structure RlsConnection where
  current : RlsSettings
  kept : RlsSettings
  restored : RlsSettings

/-- What is executed on a connection, as far as the variables go: `set_config(…, is_local)`, other
work, and the ends of transactions. -/
inductive SessionStatement
  | setConfig (v : RlsVariable) (value : String) (isLocal : Bool)
  | work
  | commit
  | rollback
  deriving DecidableEq, Repr

namespace RlsConnection

def new : RlsConnection := ⟨.fresh, .fresh, .fresh⟩

variable (c : RlsConnection)

/-- A local value lasts to the end of the transaction, another one beyond its commit. -/
def execute : SessionStatement → RlsConnection
  | .setConfig v value isLocal => {
      current := c.current.set v value
      kept := if isLocal then c.kept.touch v else c.kept.set v value
      restored := c.restored.touch v }
  | .work => c
  | .commit => ⟨c.kept, c.kept, c.kept⟩
  | .rollback => ⟨c.restored, c.restored, c.restored⟩

def run (l : List SessionStatement) : RlsConnection := l.foldl execute c

/-- The variables as each piece of work finds them. -/
def seen : RlsConnection → List SessionStatement → List RlsSettings
  | _, [] => []
  | c, .work :: l => c.current :: seen c l
  | c, a :: l => seen (c.execute a) l

end RlsConnection

/-! ## Who sets them -/

def scopeCsv (ids : List String) : String :=
  if ids ≠ [] then ",".intercalate (sortedTexts ids) else ""

def adminText (isAdmin : Bool) : String := if isAdmin then "true" else "false"

def setRlsContext (scope : ScopeContext) : List SessionStatement := [
  .setConfig .userId scope.userId true,
  .setConfig .isAdmin (adminText scope.isAdmin) true,
  .setConfig .scopeRetailerIds (scopeCsv scope.retailerScopeIds) true,
  .setConfig .scopeAdvertiserIds (scopeCsv scope.advertiserScopeIds) true]

/-- `set_device_rls_context`, of the device gateway too: it reads the device's row while the
variable shows it, and goes on with what it has found; a null configures the empty text. -/
def deviceBootstrap (deviceId : String) : List SessionStatement := [
  .setConfig .deviceId deviceId true,
  .work,
  .setConfig .deviceId "" true]

def deviceScope (retailerId : Option String) : List SessionStatement := [
  .setConfig .scopeRetailerIds (retailerId.getD "") true,
  .setConfig .isAdmin "false" true]

/-- `resolve_scope_context` reads roles and memberships as an administrator. -/
def elevatedLookup : List SessionStatement := [
  .setConfig .isAdmin "true" true,
  .work,
  .setConfig .isAdmin "false" true]

/-- Relay and consumer work for all tenants. -/
def setWorkerAdminContext : List SessionStatement := [.setConfig .isAdmin "true" true]

def setLicensingAdminContext : List SessionStatement := [.setConfig .isAdmin "true" true]

/-- The `SET LOCAL` of `accept_advertiser_invite`. -/
def inviteElevation : List SessionStatement := [.setConfig .isAdmin "true" true]

/-- A step of a request or of a worker. -/
inductive RequestStep
  | resolveScopeContext
  | setRlsContext (scope : ScopeContext)
  | setDeviceRlsContext (deviceId : String) (retailerId : Option String)
  | setWorkerAdminContext
  | setLicensingAdminContext
  | acceptAdvertiserInvite
  | work
  | commit
  | rollback
  deriving DecidableEq, Repr

namespace RequestStep

def statements : RequestStep → List SessionStatement
  | resolveScopeContext => elevatedLookup
  | setRlsContext scope => RetailMedia.setRlsContext scope
  | setDeviceRlsContext deviceId retailerId => deviceBootstrap deviceId ++ deviceScope retailerId
  | setWorkerAdminContext => RetailMedia.setWorkerAdminContext
  | setLicensingAdminContext => RetailMedia.setLicensingAdminContext
  | acceptAdvertiserInvite => inviteElevation
  | work => [.work]
  | commit => [.commit]
  | rollback => [.rollback]

end RequestStep

def statementsOf (steps : List RequestStep) : List SessionStatement :=
  steps.flatMap RequestStep.statements

/-! ## Lists of ids -/

/-- An id as the database draws it: not empty, and without a comma. -/
def PlainId (id : String) : Prop := id ≠ "" ∧ ',' ∉ id.toList

instance : DecidablePred PlainId := fun id ↦ inferInstanceAs (Decidable (id ≠ "" ∧ ',' ∉ id.toList))

theorem toList_scopeCsv {ids : List String} (h : ids ≠ []) :
    (scopeCsv ids).toList = [','].intercalate ((sortedTexts ids).map String.toList) := by
  unfold scopeCsv
  rw [if_pos h, String.toList_intercalate]
  rfl

theorem sortedTexts_ne_nil {ids : List String} (h : ids ≠ []) : sortedTexts ids ≠ [] := by
  obtain ⟨id, hid⟩ := List.exists_mem_of_ne_nil ids h
  exact List.ne_nil_of_mem (mem_sortedTexts.2 hid)

/-- Plain ids are each a piece of its own. -/
theorem pieces_plain {ids : List String} (h : ∀ id ∈ ids, PlainId id) :
    Joined.pieces ',' (ids.map String.toList) = ids.map String.toList := by
  induction ids with
  | nil => rfl
  | cons id ids ih =>
      have hrest := ih fun x hx ↦ h x (List.mem_cons_of_mem id hx)
      have hid := (h id List.mem_cons_self).2
      unfold Joined.pieces at hrest ⊢
      rw [List.map_cons, List.flatMap_cons, hrest, List.splitOn_eq_singleton hid]
      rfl

/-- The joined list is empty only if there is nothing to join. -/
theorem scopeCsv_eq_empty {ids : List String} (h : ∀ id ∈ ids, PlainId id) :
    scopeCsv ids = "" ↔ ids = [] := by
  constructor
  · intro hempty
    by_contra hne
    have hfields : (sortedTexts ids).map String.toList ≠ [] := by
      simpa using sortedTexts_ne_nil hne
    have hcut := Joined.splitOn_joined ',' hfields
    have hplain : ∀ id ∈ sortedTexts ids, PlainId id := fun id hid ↦ h id (mem_sortedTexts.1 hid)
    rw [← toList_scopeCsv hne, hempty, pieces_plain hplain] at hcut
    obtain ⟨id, hid⟩ := List.exists_mem_of_ne_nil _ (sortedTexts_ne_nil hne)
    have hmem : id.toList ∈ (sortedTexts ids).map String.toList := List.mem_map_of_mem hid
    rw [← hcut] at hmem
    have hnil : id.toList = [] := by simpa using hmem
    exact (hplain id hid).1 (String.toList_eq_nil_iff.1 hnil)
  · rintro rfl
    rfl

/-- The policies read the scope that was written. -/
theorem mem_scopeArray {s : RlsSettings} {v : RlsVariable} {ids : List String}
    (hs : s v = some (scopeCsv ids)) (h : ∀ id ∈ ids, PlainId id) (id : String) :
    id ∈ s.scopeArray v ↔ id ∈ ids := by
  unfold RlsSettings.scopeArray RlsSettings.effective
  rw [hs]
  by_cases hnil : ids = []
  · rw [hnil]
    rfl
  · have hcsv : scopeCsv ids ≠ "" := fun heq ↦ hnil ((scopeCsv_eq_empty h).1 heq)
    have hplain : ∀ id ∈ sortedTexts ids, PlainId id := fun id hid ↦ h id (mem_sortedTexts.1 hid)
    rw [Option.filter_some, if_pos (by simpa using hcsv)]
    dsimp only
    rw [toList_scopeCsv hnil, Joined.splitOn_joined ',' (by simpa using sortedTexts_ne_nil hnil),
      pieces_plain hplain, List.map_map]
    have hback : (String.ofList ∘ String.toList) = fun x ↦ x := by
      funext x
      exact String.ofList_toList
    rw [hback, List.map_id', mem_sortedTexts]

/-! ## The pool -/

/-- Requests take connections from the pool, which replaces one now and then.  A request can fail
after any of its statements, and what is open then is rolled back. -/
inductive PoolEvent
  | request (connection : Nat) (steps : List RequestStep) (executed : Nat)
  | reconnect (connection : Nat)
  deriving DecidableEq, Repr

namespace PoolEvent

def connection : PoolEvent → Nat
  | request i _ _ => i
  | reconnect i => i

/-- The event's connection when it is back in the pool. -/
def leaves (c : RlsConnection) : PoolEvent → RlsConnection
  | request _ steps executed => (c.run ((statementsOf steps).take executed)).execute .rollback
  | reconnect _ => .new

end PoolEvent

def poolNext (pool : Nat → RlsConnection) (e : PoolEvent) : Nat → RlsConnection :=
  Function.update pool e.connection (e.leaves (pool e.connection))

def newPool : Nat → RlsConnection := fun _ ↦ .new

/-- A connection of the pool, between any requests. -/
def pooled (history : List PoolEvent) (connection : Nat) : RlsConnection :=
  Run.final poolNext newPool history connection

/-! ## What statements do to the values -/

theorem effective_set (s : RlsSettings) (v w : RlsVariable) (value : String) :
    (s.set v value).effective w =
      if w = v then (some value).filter (· ≠ "") else s.effective w := by
  unfold RlsSettings.effective RlsSettings.set
  by_cases hw : w = v
  · rw [hw, Function.update_self, if_pos rfl]
  · rw [Function.update_of_ne hw, if_neg hw]

theorem effective_touch (s : RlsSettings) (v : RlsVariable) :
    (s.touch v).effective = s.effective := by
  funext w
  unfold RlsSettings.touch
  split
  · rename_i hnone
    rw [effective_set]
    split
    · rename_i hw
      rw [hw]
      unfold RlsSettings.effective
      rw [hnone]
      rfl
    · rfl
  · rfl

theorem set_effective {s t : RlsSettings} (h : s.effective = t.effective) (v : RlsVariable)
    (value : String) : (s.set v value).effective = (t.set v value).effective := by
  funext w
  rw [effective_set, effective_set, h]

/-- Two connections that no policy can tell apart, now or after the transaction. -/
structure RlsConnection.Alike (c d : RlsConnection) : Prop where
  current : c.current.effective = d.current.effective
  kept : c.kept.effective = d.kept.effective
  restored : c.restored.effective = d.restored.effective

namespace RlsConnection

theorem Alike.execute {c d : RlsConnection} (h : c.Alike d) (a : SessionStatement) :
    (c.execute a).Alike (d.execute a) := by
  cases a with
  | setConfig v value isLocal =>
      refine ⟨set_effective h.current v value, ?_, ?_⟩
      · unfold RlsConnection.execute
        dsimp only
        split
        · rw [effective_touch, effective_touch, h.kept]
        · exact set_effective h.kept v value
      · show (c.restored.touch v).effective = (d.restored.touch v).effective
        rw [effective_touch, effective_touch, h.restored]
  | work => exact h
  | commit => exact ⟨h.kept, h.kept, h.kept⟩
  | rollback => exact ⟨h.restored, h.restored, h.restored⟩

theorem Alike.run {c d : RlsConnection} (h : c.Alike d) (l : List SessionStatement) :
    (c.run l).Alike (d.run l) := by
  induction l generalizing c d with
  | nil => exact h
  | cons a l ih => exact ih (h.execute a)

theorem Alike.seen {c d : RlsConnection} (h : c.Alike d) (l : List SessionStatement) :
    (c.seen l).map (·.effective) = (d.seen l).map (·.effective) := by
  induction l generalizing c d with
  | nil => rfl
  | cons a l ih =>
      cases a with
      | work =>
          unfold RlsConnection.seen
          rw [List.map_cons, List.map_cons, h.current, ih h]
      | setConfig v value isLocal => exact ih (h.execute _)
      | commit => exact ih (h.execute _)
      | rollback => exact ih (h.execute _)

theorem seen_append (c : RlsConnection) (l m : List SessionStatement) :
    c.seen (l ++ m) = c.seen l ++ (c.run l).seen m := by
  induction l generalizing c with
  | nil => rfl
  | cons a l ih =>
      cases a with
      | work => exact congrArg (c.current :: ·) (ih c)
      | setConfig v value isLocal => exact ih _
      | commit => exact ih _
      | rollback => exact ih _

/-- Nothing that has been set outlives the transaction, however it ends. -/
structure Clean (c : RlsConnection) : Prop where
  kept : c.kept.effective = RlsSettings.fresh.effective
  restored : c.restored.effective = RlsSettings.fresh.effective

end RlsConnection

/-- The statement sets no value for the whole session. -/
def SessionStatement.Transactional : SessionStatement → Prop
  | .setConfig _ _ isLocal => isLocal = true
  | _ => True

namespace RlsConnection

theorem Clean.execute {c : RlsConnection} (h : c.Clean) {a : SessionStatement}
    (ha : a.Transactional) : (c.execute a).Clean := by
  cases a with
  | setConfig v value isLocal =>
      cases ha
      constructor
      · exact (effective_touch c.kept v).trans h.kept
      · exact (effective_touch c.restored v).trans h.restored
  | work => exact h
  | commit => exact ⟨h.kept, h.kept⟩
  | rollback => exact ⟨h.restored, h.restored⟩

theorem Clean.run {c : RlsConnection} (h : c.Clean) {l : List SessionStatement}
    (hl : ∀ a ∈ l, a.Transactional) : (c.run l).Clean := by
  induction l generalizing c with
  | nil => exact h
  | cons a l ih =>
      exact ih (h.execute (hl a List.mem_cons_self)) fun b hb ↦ hl b (List.mem_cons_of_mem a hb)

/-- The end of a transaction leaves a connection that is as good as a new one. -/
theorem Clean.commit {c : RlsConnection} (h : c.Clean) : (c.execute .commit).Alike .new :=
  ⟨h.kept, h.kept, h.kept⟩

theorem Clean.rollback {c : RlsConnection} (h : c.Clean) : (c.execute .rollback).Alike .new :=
  ⟨h.restored, h.restored, h.restored⟩

theorem Alike.clean {c : RlsConnection} (h : c.Alike .new) : c.Clean := ⟨h.kept, h.restored⟩

/-- A value that is not local stays on the connection once its transaction has committed, and the
next request finds it. -/
theorem session_value_survives (c : RlsConnection) (v : RlsVariable) {value : String}
    (hvalue : value ≠ "") :
    ((c.run [.setConfig v value false, .commit]).execute .rollback).current.effective v =
      some value := by
  show (c.kept.set v value).effective v = some value
  rw [effective_set, if_pos rfl, Option.filter_some, if_pos (by simpa using hvalue)]

end RlsConnection

/-! ## Every request -/

/-- Each call of the services sets its values for the transaction only. -/
theorem RequestStep.statements_transactional (step : RequestStep) :
    ∀ a ∈ step.statements, a.Transactional := by
  cases step <;>
    simp [statements, RetailMedia.setRlsContext, deviceBootstrap, deviceScope, elevatedLookup,
      RetailMedia.setWorkerAdminContext, RetailMedia.setLicensingAdminContext, inviteElevation,
      SessionStatement.Transactional]

theorem statementsOf_transactional (steps : List RequestStep) :
    ∀ a ∈ statementsOf steps, a.Transactional := by
  intro a ha
  obtain ⟨step, -, hmem⟩ := List.mem_flatMap.1 ha
  exact step.statements_transactional a hmem

/-- Between requests every connection is as good as a new one. -/
def PoolIdle (pool : Nat → RlsConnection) : Prop := ∀ i, (pool i).Alike .new

theorem PoolEvent.leaves_idle {c : RlsConnection} (h : c.Alike .new) (e : PoolEvent) :
    (e.leaves c).Alike .new := by
  cases e with
  | request i steps executed =>
      have hrun : (c.run ((statementsOf steps).take executed)).Clean :=
        h.clean.run fun a ha ↦ statementsOf_transactional steps a (List.mem_of_mem_take ha)
      exact hrun.rollback
  | reconnect i => exact ⟨rfl, rfl, rfl⟩

theorem poolNext_idle {pool : Nat → RlsConnection} (h : PoolIdle pool) (e : PoolEvent) :
    PoolIdle (poolNext pool e) := by
  intro i
  unfold poolNext
  by_cases hi : i = e.connection
  · rw [hi, Function.update_self]
    exact e.leaves_idle (h _)
  · rw [Function.update_of_ne hi]
    exact h i

theorem pooled_idle (history : List PoolEvent) (connection : Nat) :
    (pooled history connection).Alike .new := by
  have hidle : Run.Always poolNext PoolIdle newPool history :=
    Run.always_of_step (fun _ e h ↦ poolNext_idle h e) history fun _ ↦ ⟨rfl, rfl, rfl⟩
  exact hidle.final connection

/-- Whatever other requests have left on a connection, a request works under the variables that
it would see on a new one; and what follows the end of a transaction sees none of the values that
were set before it. -/
theorem settings_forgotten (history : List PoolEvent) (connection : Nat) :
    (∀ steps, ((pooled history connection).seen (statementsOf steps)).map (·.effective) =
      (RlsConnection.new.seen (statementsOf steps)).map (·.effective)) ∧
    ∀ before after ending, ending = .commit ∨ ending = .rollback →
      ((pooled history connection).seen (statementsOf (before ++ ending :: after))).map
          (·.effective) =
        (RlsConnection.new.seen (statementsOf before)).map (·.effective) ++
          (RlsConnection.new.seen (statementsOf after)).map (·.effective) := by
  have hidle := pooled_idle history connection
  refine ⟨fun steps ↦ hidle.seen _, ?_⟩
  intro before after ending hending
  have hclean : ((pooled history connection).run (statementsOf before)).Clean :=
    hidle.clean.run (statementsOf_transactional before)
  have hsplit : statementsOf (before ++ ending :: after) =
      statementsOf before ++ ending.statements ++ statementsOf after := by
    unfold statementsOf
    rw [List.flatMap_append, List.flatMap_cons, List.append_assoc]
  rw [hsplit, List.append_assoc, RlsConnection.seen_append, List.map_append, hidle.seen]
  congr 1
  rcases hending with rfl | rfl
  · exact hclean.commit.seen _
  · exact hclean.rollback.seen _

end RetailMedia
