import RetailMedia.Commerce.Currency
import RetailMedia.Campaign.Creatives

/-! Orders after they are created: their statuses, and what no later call changes. -/

namespace RetailMedia

/-! ## Transitions -/

namespace CommerceOrderStatus

def text : CommerceOrderStatus → String
  | draft => "draft"
  | offered => "offered"
  | booked => "booked"
  | confirmed => "confirmed"
  | closed => "closed"
  | cancelled => "cancelled"

/-- `_ORDER_TRANSITIONS`, each set in the order of its texts. -/
def transitions : CommerceOrderStatus → List CommerceOrderStatus
  | draft => [offered]
  | offered => [booked, cancelled]
  | booked => [cancelled, confirmed]
  | confirmed => [cancelled, closed]
  | closed => []
  | cancelled => []

/-- The `repr` of a member, as in the message of a refused transition. -/
def repr (s : CommerceOrderStatus) : String :=
  "<CommerceOrderStatus." ++ s.text.toUpper ++ ": '" ++ s.text ++ "'>"

end CommerceOrderStatus

def CommercePaymentStatus.text : CommercePaymentStatus → String
  | .notRequired => "not_required"
  | .unpaid => "unpaid"
  | .partiallyPaid => "partial"
  | .paid => "paid"
  | .overdue => "overdue"

def validPaymentStatuses : List CommercePaymentStatus :=
  [.notRequired, .unpaid, .partiallyPaid, .paid, .overdue]

/-- The status that the text names, if the order may take it. -/
def validateOrderTransition (current : CommerceOrderStatus) (newStatus : String) :
    Except CommerceError CommerceOrderStatus :=
  match current.transitions.find? (·.text = newStatus) with
  | some status => .ok status
  | none =>
      .error (.valueError ("Cannot transition order from " ++ current.text ++ " to " ++ newStatus ++
        ". Allowed: [" ++ ", ".intercalate (current.transitions.map (·.repr)) ++ "]"))

/-! ## Updating -/

structure CommerceOrderUpdate where
  newStatus : Option String := none
  paymentStatus : Option String := none
  deriving DecidableEq, Repr

/-- An empty text names no new status. -/
def CommerceOrder.transition (order : CommerceOrder) (newStatus : String) :
    Except CommerceError CommerceOrder :=
  if newStatus = "" then .ok order
  else (validateOrderTransition order.status newStatus).map fun status ↦
    { order with status := status }

def CommerceOrder.pay (order : CommerceOrder) : Option String → Except CommerceError CommerceOrder
  | none => .ok order
  | some paymentStatus =>
      match validPaymentStatuses.find? (·.text = paymentStatus) with
      | some status => .ok { order with paymentStatus := status }
      | none => .error (.valueError ("Invalid payment status: " ++ paymentStatus))

def updateOrderStatus (db : CommerceDb) (orderId newStatus : String)
    (paymentStatus : Option String) (scopeAdvertiserIds : Option (List String)) :
    Except CommerceError (CommerceDb × Option CommerceOrder) :=
  match Rows.get CommerceOrder.id orderId db.orders with
  | none => .ok (db, none)
  | some order => do
      (assertOrgInScope order.advertiserOrganizationId scopeAdvertiserIds).mapError .scope
      let moved ← order.transition newStatus
      let order' ← moved.pay paymentStatus
      return ({ db with orders := Rows.updateWhere (·.id = orderId) (fun _ ↦ order') db.orders },
        some order')

/-- A refused update is rolled back, its new status included. -/
def updateOrderEndpoint (db : CommerceDb) (orderId : String) (body : CommerceOrderUpdate)
    (scopeAdvertiserIds : Option (List String)) : CommerceDb × Except HttpError CommerceOrder :=
  if body.newStatus = none ∧ body.paymentStatus = none then
    (db, .error ⟨422, "At least one of new_status or payment_status required"⟩)
  else
    match updateOrderStatus db orderId (body.newStatus.getD "") body.paymentStatus
        scopeAdvertiserIds with
    | .error (.scope (.scopeError message)) => (db, .error ⟨403, message⟩)
    | .error (.valueError message) => (db, .error ⟨422, message⟩)
    | .error _ => (db, .error ⟨500, "Internal Server Error"⟩)
    | .ok (_, none) => (db, .error ⟨404, "Order not found"⟩)
    | .ok (db', some order) => (db', .ok order)

/-! ## Runs -/

inductive OrderEvent
  | commerce (e : CommerceEvent)
  | update (orderId : String) (body : CommerceOrderUpdate)
      (scopeAdvertiserIds : Option (List String))

def orderNext (db : CommerceDb) : OrderEvent → CommerceDb
  | .commerce e => commerceNext db e
  | .update orderId body scopeAdvertiserIds =>
      (updateOrderEndpoint db orderId body scopeAdvertiserIds).1

/-! ## One update -/

section Update

variable {db db' : CommerceDb} {orderId newStatus : String} {paymentStatus : Option String}
  {scopeAdvertiserIds : Option (List String)} {order order' : CommerceOrder}

theorem validateOrderTransition_ok {current status : CommerceOrderStatus}
    (h : validateOrderTransition current newStatus = .ok status) :
    status ∈ current.transitions ∧ status.text = newStatus := by
  unfold validateOrderTransition at h
  split at h
  · rename_i found hfind
    cases h
    exact ⟨List.mem_of_find?_eq_some hfind, by simpa using List.find?_some hfind⟩
  · cases h

/-- A step of the status, or none; everything else but the payment stays. -/
structure Advanced (order order' : CommerceOrder) : Prop where
  status : Relation.ReflTransGen (fun a b ↦ b ∈ CommerceOrderStatus.transitions a) order.status
    order'.status
  frozen : order' = { order with status := order'.status, paymentStatus := order'.paymentStatus }

theorem Advanced.refl (order : CommerceOrder) : Advanced order order := ⟨.refl, rfl⟩

theorem Advanced.trans {order'' : CommerceOrder} (h : Advanced order order')
    (h' : Advanced order' order'') : Advanced order order'' where
  status := h.status.trans h'.status
  frozen := by
    rw [h'.frozen, h.frozen]

theorem transition_advanced (h : order.transition newStatus = .ok order') :
    Advanced order order' := by
  unfold CommerceOrder.transition at h
  split at h
  · cases h
    exact Advanced.refl order
  · cases hvalid : validateOrderTransition order.status newStatus with
    | error e =>
        rw [hvalid] at h
        cases h
    | ok status =>
        rw [hvalid] at h
        cases h
        exact ⟨.single (validateOrderTransition_ok hvalid).1, rfl⟩

theorem pay_advanced (h : order.pay paymentStatus = .ok order') : Advanced order order' := by
  unfold CommerceOrder.pay at h
  split at h
  · cases h
    exact Advanced.refl order
  · split at h
    · cases h
      exact ⟨.refl, rfl⟩
    · cases h

theorem updateOrderStatus_ok {result : Option CommerceOrder}
    (h : updateOrderStatus db orderId newStatus paymentStatus scopeAdvertiserIds =
      .ok (db', result)) :
    (db' = db ∧ result = none) ∨ ∃ order order',
      Rows.get CommerceOrder.id orderId db.orders = some order ∧
      inScope order.advertiserOrganizationId scopeAdvertiserIds = true ∧ Advanced order order' ∧
      db' = { db with orders := Rows.updateWhere (·.id = orderId) (fun _ ↦ order') db.orders } ∧
      result = some order' := by
  unfold updateOrderStatus at h
  split at h
  · cases h
    exact .inl ⟨rfl, rfl⟩
  · rename_i order horder
    right
    by_cases hscope : inScope order.advertiserOrganizationId scopeAdvertiserIds = true
    · unfold assertOrgInScope at h
      rw [if_pos hscope] at h
      cases hmoved : order.transition newStatus with
      | error e =>
          rw [hmoved] at h
          cases h
      | ok moved =>
          cases hpaid : moved.pay paymentStatus with
          | error e =>
              rw [hmoved] at h
              simp only [bind, Except.bind, Except.mapError, hpaid] at h
              cases h
          | ok order' =>
              rw [hmoved] at h
              simp only [bind, Except.bind, Except.mapError, hpaid] at h
              cases h
              exact ⟨order, order', horder, hscope,
                (transition_advanced hmoved).trans (pay_advanced hpaid), rfl, rfl⟩
    · unfold assertOrgInScope at h
      rw [if_neg hscope] at h
      cases h

end Update

/-! ## One call -/

/-- The lines of an order. -/
def CommerceDb.linesOf (db : CommerceDb) (orderId : String) : List CommerceOrderLine :=
  db.orderLines.filter (·.orderId = orderId)

/-- The total of each order is the sum of its lines, and the amount of each line its price for every
day. -/
structure OrdersBalanced (db : CommerceDb) : Prop where
  ids : (db.orders.map (·.id)).Nodup
  owned : ∀ line ∈ db.orderLines, line.orderId ∈ db.orders.map (·.id)
  total : ∀ o ∈ db.orders, o.totalAmount = ((db.linesOf o.id).map (·.lineAmount)).sum
  amount : ∀ line ∈ db.orderLines, line.lineAmount = line.unitPriceAmount * line.quantityDays
  days : ∀ line ∈ db.orderLines, (line.quantityDays : Int) = line.dateTo - line.dateFrom + 1

/-- Each order is still there with its lines, and has advanced at most. -/
def OrdersKept (db db' : CommerceDb) : Prop :=
  ∀ o ∈ db.orders, ∃ o' ∈ db'.orders, Advanced o o' ∧ db'.linesOf o.id = db.linesOf o.id

section Calls

variable {db db' : CommerceDb}

/-- The tables of the orders are the same. -/
def SameOrders (db db' : CommerceDb) : Prop :=
  db'.orders = db.orders ∧ db'.orderLines = db.orderLines

/-- One more order, with lines of its own that add up. -/
structure OrderAdded (db db' : CommerceDb) (order : CommerceOrder) (rows : List CommerceOrderLine) :
    Prop where
  newId : order.id ∉ db.orders.map (·.id)
  owner : ∀ row ∈ rows, row.orderId = order.id
  total : order.totalAmount = (rows.map (·.lineAmount)).sum
  amount : ∀ row ∈ rows, row.lineAmount = row.unitPriceAmount * row.quantityDays
  days : ∀ row ∈ rows, (row.quantityDays : Int) = row.dateTo - row.dateFrom + 1
  orders : db'.orders = db.orders ++ [order]
  lines : db'.orderLines = db.orderLines ++ rows

/-- The order with the key advances, and the lines stay. -/
structure OrderUpdated (db db' : CommerceDb) (order order' : CommerceOrder) : Prop where
  found : Rows.get CommerceOrder.id order.id db.orders = some order
  advanced : Advanced order order'
  orders : db'.orders = Rows.updateWhere (·.id = order.id) (fun _ ↦ order') db.orders
  lines : db'.orderLines = db.orderLines

/-- Tariffs and prices are written beside the orders. -/
theorem commerceNext_sameOrders (e : CommerceEvent)
    (h : ∀ today scope req drawn, e ≠ .createOrder today scope req drawn) :
    SameOrders db (commerceNext db e) := by
  cases e with
  | createTariffVersion id req =>
      show SameOrders db (afterCall db (createTariffVersion db id req))
      unfold createTariffVersion
      split
      · exact ⟨rfl, rfl⟩
      · split
        · exact ⟨rfl, rfl⟩
        · exact ⟨rfl, rfl⟩
  | updateTariffVersion tariffId req =>
      show SameOrders db (afterCall db (updateTariffVersion db tariffId req))
      unfold updateTariffVersion
      split
      · exact ⟨rfl, rfl⟩
      · split
        · exact ⟨rfl, rfl⟩
        · exact ⟨rfl, rfl⟩
  | createPriceItem id tariffVersionId req =>
      show SameOrders db (afterCall db (createPriceItem db id tariffVersionId req))
      unfold createPriceItem
      split
      · exact ⟨rfl, rfl⟩
      · split
        · exact ⟨rfl, rfl⟩
        · dsimp only
          split
          · exact ⟨rfl, rfl⟩
          · exact ⟨rfl, rfl⟩
  | updatePriceItem priceItemId req =>
      show SameOrders db (afterCall db (updatePriceItem db priceItemId req))
      unfold updatePriceItem
      split
      · exact ⟨rfl, rfl⟩
      · dsimp only
        split
        · exact ⟨rfl, rfl⟩
        · exact ⟨rfl, rfl⟩
  | createOrder today scope req drawn => exact absurd rfl (h today scope req drawn)

variable (db) in
theorem updateOrderEndpoint_cases (orderId : String) (body : CommerceOrderUpdate)
    (scopeAdvertiserIds : Option (List String)) :
    (updateOrderEndpoint db orderId body scopeAdvertiserIds).1 = db ∨ ∃ order order',
      Rows.get CommerceOrder.id orderId db.orders = some order ∧
      inScope order.advertiserOrganizationId scopeAdvertiserIds = true ∧ Advanced order order' ∧
      (updateOrderEndpoint db orderId body scopeAdvertiserIds).1 =
        { db with orders := Rows.updateWhere (·.id = orderId) (fun _ ↦ order') db.orders } := by
  unfold updateOrderEndpoint
  split
  · exact .inl rfl
  · split
    · exact .inl rfl
    · exact .inl rfl
    · exact .inl rfl
    · exact .inl rfl
    · rename_i db' order' hcall
      rcases updateOrderStatus_ok hcall with ⟨-, hnone⟩ | ⟨order, order'', hget, hscope, hadv, hdb, -⟩
      · cases hnone
      · exact .inr ⟨order, order'', hget, hscope, hadv, hdb⟩

variable (db) in
theorem updateOrderEndpoint_updated (orderId : String) (body : CommerceOrderUpdate)
    (scopeAdvertiserIds : Option (List String)) :
    SameOrders db (updateOrderEndpoint db orderId body scopeAdvertiserIds).1 ∨ ∃ order order',
      OrderUpdated db (updateOrderEndpoint db orderId body scopeAdvertiserIds).1 order order' := by
  rcases updateOrderEndpoint_cases db orderId body scopeAdvertiserIds with
    hsame | ⟨order, order', hget, -, hadv, hdb⟩
  · left
    rw [hsame]
    exact ⟨rfl, rfl⟩
  · right
    have hid : order.id = orderId := Rows.get_key hget
    rw [hdb]
    refine ⟨order, order', hid ▸ hget, hadv, ?_, rfl⟩
    rw [hid]

theorem createOrder_added {today : Int} {scope : Option (List String)} {req : CommerceQuoteRequest}
    {drawn : OrderDrawn} {order : CommerceOrder}
    (h : createOrder db today scope req drawn = .ok (db', order)) :
    ∃ rows, OrderAdded db db' order rows := by
  obtain ⟨t, -, hall, horder, -⟩ := createOrder_ok h
  obtain ⟨rows, hexact⟩ := (createOrder_exact h).1
  have hkeys := hall.keys
  unfold CommerceDb.accepts at hkeys
  rw [decide_eq_true_eq] at hkeys
  refine ⟨rows, horder ▸ hkeys.1, hexact.owner, hexact.total, ?_, ?_, hexact.stored,
    hexact.storedLines⟩
  · intro row hrow
    obtain ⟨l, -, hline⟩ := Rows.forall₂_mem_right hexact.lines hrow
    obtain ⟨item, -, -, -, hunit, hamount⟩ := hline.amount
    rw [hamount, hunit]
  · intro row hrow
    obtain ⟨l, -, hline⟩ := Rows.forall₂_mem_right hexact.lines hrow
    rw [hline.days, hline.dates.1, hline.dates.2]

variable (db) in
/-- What one call does to the orders. -/
theorem orderNext_cases (e : OrderEvent) : SameOrders db (orderNext db e) ∨
    (∃ order rows, OrderAdded db (orderNext db e) order rows) ∨
      ∃ order order', OrderUpdated db (orderNext db e) order order' := by
  cases e with
  | update orderId body scopeAdvertiserIds =>
      rcases updateOrderEndpoint_updated db orderId body scopeAdvertiserIds with
        hsame | hupdated
      · exact .inl hsame
      · exact .inr (.inr hupdated)
  | commerce e =>
      by_cases hcreate : ∃ today scope req drawn, e = .createOrder today scope req drawn
      · obtain ⟨today, scope, req, drawn, rfl⟩ := hcreate
        show SameOrders db (afterCall db (createOrder db today scope req drawn)) ∨
          (∃ order rows, OrderAdded db (afterCall db (createOrder db today scope req drawn)) order
            rows) ∨ _
        cases hcall : createOrder db today scope req drawn with
        | error e => exact .inl ⟨rfl, rfl⟩
        | ok result =>
            obtain ⟨db', order⟩ := result
            exact .inr (.inl ⟨order, createOrder_added hcall⟩)
      · exact .inl (commerceNext_sameOrders e fun today scope req drawn heq ↦
          hcreate ⟨today, scope, req, drawn, heq⟩)

end Calls

/-! ## The books -/

section Books

variable {db db' : CommerceDb} {order order' : CommerceOrder} {rows : List CommerceOrderLine}

theorem linesOf_unknown (h : OrdersBalanced db) {orderId : String}
    (hnew : orderId ∉ db.orders.map (·.id)) : db.linesOf orderId = [] := by
  apply List.filter_eq_nil_iff.2
  intro line hline hid
  exact hnew (of_decide_eq_true hid ▸ h.owned line hline)

theorem OrderAdded.linesOf_old (h : OrderAdded db db' order rows) {orderId : String}
    (hold : orderId ∈ db.orders.map (·.id)) : db'.linesOf orderId = db.linesOf orderId := by
  have hnone : rows.filter (·.orderId = orderId) = [] := by
    apply List.filter_eq_nil_iff.2
    intro row hrow hid
    exact h.newId ((h.owner row hrow).symm.trans (of_decide_eq_true hid) ▸ hold)
  unfold CommerceDb.linesOf
  rw [h.lines, List.filter_append, hnone, List.append_nil]

theorem OrderAdded.linesOf_new (h : OrderAdded db db' order rows) (hdb : OrdersBalanced db) :
    db'.linesOf order.id = rows := by
  have hold := linesOf_unknown hdb h.newId
  unfold CommerceDb.linesOf at hold ⊢
  rw [h.lines, List.filter_append, hold, List.nil_append, List.filter_eq_self]
  intro row hrow
  exact decide_eq_true (h.owner row hrow)

theorem OrderAdded.balanced (h : OrderAdded db db' order rows) (hdb : OrdersBalanced db) :
    OrdersBalanced db' where
  ids := by
    rw [h.orders, List.map_append]
    exact Rows.nodup_concat hdb.ids h.newId
  owned := by
    intro line hline
    rw [h.lines] at hline
    rw [h.orders, List.map_append]
    rcases List.mem_append.1 hline with hold | hnew
    · exact List.mem_append_left _ (hdb.owned line hold)
    · rw [h.owner line hnew]
      exact List.mem_append_right _ (List.mem_singleton_self _)
  total := by
    intro o ho
    rw [h.orders] at ho
    rcases List.mem_append.1 ho with hold | hnew
    · rw [h.linesOf_old (List.mem_map_of_mem hold)]
      exact hdb.total o hold
    · rw [List.mem_singleton.1 hnew, h.linesOf_new hdb]
      exact h.total
  amount := by
    intro line hline
    rw [h.lines] at hline
    rcases List.mem_append.1 hline with hold | hnew
    · exact hdb.amount line hold
    · exact h.amount line hnew
  days := by
    intro line hline
    rw [h.lines] at hline
    rcases List.mem_append.1 hline with hold | hnew
    · exact hdb.days line hold
    · exact h.days line hnew

theorem Advanced.same (h : Advanced order order') :
    order'.id = order.id ∧ order'.totalAmount = order.totalAmount := by
  rw [h.frozen]
  exact ⟨rfl, rfl⟩

theorem OrderUpdated.ids (h : OrderUpdated db db' order order') :
    db'.orders.map (·.id) = db.orders.map (·.id) := by
  rw [h.orders]
  have hsame := h.advanced.same.1
  unfold Rows.updateWhere
  rw [List.map_map]
  apply List.map_congr_left
  intro o _
  by_cases hid : o.id = order.id
  · simp [hid, hsame]
  · simp [hid]

theorem OrderUpdated.mem (h : OrderUpdated db db' order order') {o : CommerceOrder}
    (ho : o ∈ db'.orders) : o = order' ∨ o ∈ db.orders := by
  rw [h.orders] at ho
  obtain ⟨x, hx, rfl⟩ := Rows.mem_updateWhere.1 ho
  split
  · exact .inl rfl
  · exact .inr hx

theorem OrderUpdated.balanced (h : OrderUpdated db db' order order') (hdb : OrdersBalanced db) :
    OrdersBalanced db' where
  ids := by
    rw [h.ids]
    exact hdb.ids
  owned := by
    rw [h.ids, h.lines]
    exact hdb.owned
  total := by
    intro o ho
    unfold CommerceDb.linesOf
    rw [h.lines]
    rcases h.mem ho with rfl | hold
    · rw [h.advanced.same.1, h.advanced.same.2]
      exact hdb.total order (Rows.get_mem h.found)
    · exact hdb.total o hold
  amount := by
    rw [h.lines]
    exact hdb.amount
  days := by
    rw [h.lines]
    exact hdb.days

theorem SameOrders.balanced (h : SameOrders db db') (hdb : OrdersBalanced db) :
    OrdersBalanced db' where
  ids := by
    rw [h.1]
    exact hdb.ids
  owned := by
    rw [h.1, h.2]
    exact hdb.owned
  total := by
    unfold CommerceDb.linesOf
    rw [h.1, h.2]
    exact hdb.total
  amount := by
    rw [h.2]
    exact hdb.amount
  days := by
    rw [h.2]
    exact hdb.days

theorem orderNext_balanced (hdb : OrdersBalanced db) (e : OrderEvent) :
    OrdersBalanced (orderNext db e) := by
  rcases orderNext_cases db e with hsame | ⟨order, rows, hadded⟩ | ⟨order, order', hupdated⟩
  · exact hsame.balanced hdb
  · exact hadded.balanced hdb
  · exact hupdated.balanced hdb

/-- Over every run from tables without orders, whatever happens to tariffs, prices and statuses: the
total of each order is the sum of its lines, each line the price of its days. -/
theorem orders_balanced {db : CommerceDb} (horders : db.orders = []) (hlines : db.orderLines = [])
    (l : List OrderEvent) : Run.Always orderNext OrdersBalanced db l := by
  apply Run.always_of_step (fun _ e h ↦ orderNext_balanced h e)
  constructor
  · rw [horders]
    exact List.nodup_nil
  · rw [hlines]
    exact fun line hline ↦ absurd hline List.not_mem_nil
  · rw [horders]
    exact fun o ho ↦ absurd ho List.not_mem_nil
  · rw [hlines]
    exact fun line hline ↦ absurd hline List.not_mem_nil
  · rw [hlines]
    exact fun line hline ↦ absurd hline List.not_mem_nil

/-- The order of six days, then a change of its price item. -/
def sixDaysThenPrice : List OrderEvent := [
  .commerce (.createOrder 20660 (some ["org-1"]) sixDays firstOrder),
  .commerce (.updatePriceItem "pi-1" { billingUnit := some "surface_week" })]

theorem sixDays_balanced : Run.Always orderNext OrdersBalanced twoSurfaces sixDaysThenPrice :=
  orders_balanced rfl rfl sixDaysThenPrice

/-! ## The life of an order -/

theorem OrdersKept.refl (db : CommerceDb) : OrdersKept db db :=
  fun o ho ↦ ⟨o, ho, Advanced.refl o, rfl⟩

theorem OrdersKept.trans {db'' : CommerceDb} (h : OrdersKept db db') (h' : OrdersKept db' db'') :
    OrdersKept db db'' := by
  intro o ho
  obtain ⟨o', ho', hadv, hlines⟩ := h o ho
  obtain ⟨o'', ho'', hadv', hlines'⟩ := h' o' ho'
  rw [hadv.same.1] at hlines'
  exact ⟨o'', ho'', hadv.trans hadv', hlines'.trans hlines⟩

theorem orderNext_kept (hdb : OrdersBalanced db) (e : OrderEvent) :
    OrdersKept db (orderNext db e) := by
  intro o ho
  rcases orderNext_cases db e with hsame | ⟨order, rows, hadded⟩ | ⟨order, order', hupdated⟩
  · refine ⟨o, by rw [hsame.1]; exact ho, Advanced.refl o, ?_⟩
    unfold CommerceDb.linesOf
    rw [hsame.2]
  · refine ⟨o, ?_, Advanced.refl o, hadded.linesOf_old (List.mem_map_of_mem ho)⟩
    rw [hadded.orders]
    exact List.mem_append_left _ ho
  · have hlines : (orderNext db e).linesOf o.id = db.linesOf o.id := by
      unfold CommerceDb.linesOf
      rw [hupdated.lines]
    by_cases hid : o.id = order.id
    · have hsame : o = order := Rows.key_inj hdb.ids ho (Rows.get_mem hupdated.found) hid
      refine ⟨order', ?_, hsame ▸ hupdated.advanced, hlines⟩
      rw [hupdated.orders]
      exact Rows.mem_updateWhere.2 ⟨o, ho, if_pos (decide_eq_true hid)⟩
    · refine ⟨o, ?_, Advanced.refl o, hlines⟩
      rw [hupdated.orders]
      exact Rows.mem_updateWhere.2 ⟨o, ho, if_neg (by simpa using hid)⟩

theorem orders_kept_run (hdb : OrdersBalanced db) (l : List OrderEvent) :
    OrdersKept db (Run.final orderNext db l) := by
  induction l generalizing db with
  | nil => exact OrdersKept.refl db
  | cons e l ih => exact (orderNext_kept hdb e).trans (ih (orderNext_balanced hdb e))

/-- A closed or cancelled order goes nowhere. -/
theorem Advanced.terminal (h : Advanced order order') (hend : order.status.transitions = []) :
    order'.status = order.status := by
  rcases h.status.cases_head with hsame | ⟨next, hnext, -⟩
  · exact hsame.symm
  · rw [hend] at hnext
    exact absurd hnext List.not_mem_nil

/-- From any state of any run to any later one: an order stays, its key, code, organization, version,
currency, total and lines stay as they were created, and its status has moved along the table of
transitions, not at all once it is closed or cancelled. -/
theorem order_life {db : CommerceDb} (horders : db.orders = []) (hlines : db.orderLines = [])
    (before after : List OrderEvent) :
    ∀ o ∈ (Run.final orderNext db before).orders,
      ∃ o' ∈ (Run.final orderNext db (before ++ after)).orders,
        o' = { o with status := o'.status, paymentStatus := o'.paymentStatus } ∧
        (Run.final orderNext db (before ++ after)).linesOf o.id =
          (Run.final orderNext db before).linesOf o.id ∧
        Relation.ReflTransGen (fun a b ↦ b ∈ CommerceOrderStatus.transitions a) o.status
          o'.status ∧
        (o.status = .closed ∨ o.status = .cancelled → o'.status = o.status) := by
  have hbooks := (orders_balanced horders hlines before).final
  have hkept := orders_kept_run hbooks after
  intro o ho
  obtain ⟨o', ho', hadv, hsame⟩ := hkept o ho
  have hsplit : Run.final orderNext db (before ++ after) =
      Run.final orderNext (Run.final orderNext db before) after := List.foldl_append
  rw [hsplit]
  refine ⟨o', ho', hadv.frozen, hsame, hadv.status, ?_⟩
  rintro (hclosed | hcancelled)
  · exact hadv.terminal (by rw [hclosed]; rfl)
  · exact hadv.terminal (by rw [hcancelled]; rfl)

/-- The order is there, and offered. -/
theorem sixDays_life :
    (Run.final orderNext twoSurfaces (sixDaysThenPrice ++
      [.update "order-1" { newStatus := some "offered" } none])).orders.map (·.status) =
        [.offered] ∧
    ∀ o ∈ (Run.final orderNext twoSurfaces sixDaysThenPrice).orders,
      ∃ o' ∈ (Run.final orderNext twoSurfaces (sixDaysThenPrice ++
          [.update "order-1" { newStatus := some "offered" } none])).orders,
        o' = { o with status := o'.status, paymentStatus := o'.paymentStatus } ∧
        (Run.final orderNext twoSurfaces (sixDaysThenPrice ++
          [.update "order-1" { newStatus := some "offered" } none])).linesOf o.id =
          (Run.final orderNext twoSurfaces sixDaysThenPrice).linesOf o.id ∧
        Relation.ReflTransGen (fun a b ↦ b ∈ CommerceOrderStatus.transitions a) o.status
          o'.status ∧
        (o.status = .closed ∨ o.status = .cancelled → o'.status = o.status) := by
  constructor
  · decide +kernel
  · exact order_life rfl rfl sixDaysThenPrice
      [.update "order-1" { newStatus := some "offered" } none]

end Books

end RetailMedia
