import RetailMedia.Commerce.Pricing

/-! What an order stores: when one is created, and the amounts of its lines and in total. -/

namespace RetailMedia

/-! ## The rows of an order -/

/-- The row of the line at a position, with the exact amounts. -/
def CommerceDb.orderRow (db : CommerceDb) (t : CommerceTariffVersion) (drawn : OrderDrawn)
    (l : CommerceOrderLineCreate × Nat) : CommerceOrderLine where
  id := drawn.lineId l.2
  orderId := drawn.orderId
  surfaceId := l.1.surfaceId
  dateFrom := l.1.dateFrom
  dateTo := l.1.dateTo
  quantityDays := l.1.days
  unitPriceAmount := db.unitPrice t l.1
  lineAmount := db.lineAmount t l.1

def CommerceDb.orderRows (db : CommerceDb) (t : CommerceTariffVersion)
    (req : CommerceQuoteRequest) (drawn : OrderDrawn) : List CommerceOrderLine :=
  req.lines.zipIdx.map (db.orderRow t drawn)

def CommerceDb.orderTotal (db : CommerceDb) (t : CommerceTariffVersion)
    (req : CommerceQuoteRequest) : Nat := (req.lines.map (db.lineAmount t)).sum

def CommerceDb.orderFor (db : CommerceDb) (t : CommerceTariffVersion)
    (req : CommerceQuoteRequest) (drawn : OrderDrawn) : CommerceOrder where
  id := drawn.orderId
  advertiserOrganizationId := req.advertiserOrganizationId
  code := orderCode drawn
  tariffVersionId := req.tariffVersionId
  totalAmount := db.orderTotal t req
  currency := t.currency

def CommerceDb.withOrder (db : CommerceDb) (order : CommerceOrder)
    (lines : List CommerceOrderLine) : CommerceDb :=
  { db with
    orders := db.orders ++ [order]
    orderLines := db.orderLines ++ lines }

/-- The columns hold what the line has. -/
def CommerceDb.lineFits (db : CommerceDb) (t : CommerceTariffVersion)
    (l : CommerceOrderLineCreate) : Prop :=
  db.unitPrice t l < 10 ^ 12 ∧ db.lineAmount t l < 10 ^ 14 ∧ integer l.days = true

instance (db : CommerceDb) (t : CommerceTariffVersion) :
    DecidablePred (db.lineFits t) := fun _ ↦ inferInstanceAs (Decidable (_ ∧ _))

/-- All that an order needs besides a version to price it with. -/
structure Orderable (db : CommerceDb) (scopeAdvertiserIds : Option (List String))
    (req : CommerceQuoteRequest) (drawn : OrderDrawn) (t : CommerceTariffVersion) : Prop where
  inScope : inScope req.advertiserOrganizationId scopeAdvertiserIds = true
  priced : ∀ l ∈ req.lines, db.priceOf t.id l.surfaceId ≠ none
  fits : ∀ l ∈ req.lines, db.lineFits t l
  total : db.orderTotal t req < 10 ^ 14
  keys : db.accepts (db.orderFor t req drawn) (db.orderRows t req drawn) = true

/-! ## What the quote leaves in the columns -/

section Columns

variable {db : CommerceDb} {t : CommerceTariffVersion} {req : CommerceQuoteRequest}

theorem quoteFor_errors_nil :
    (db.quoteFor t req).errors = [] ↔ ∀ l ∈ req.lines, db.priceOf t.id l.surfaceId ≠ none := by
  show (req.lines.foldl (db.quoted t) {}).errors = [] ↔ _
  rw [quoted_errors]
  show req.lines.filterMap (db.lineError t) = [] ↔ _
  rw [List.filterMap_eq_nil_iff]
  apply forall₂_congr
  intro l _
  unfold CommerceDb.lineError
  by_cases hprice : db.priceOf t.id l.surfaceId = none
  · simp [hprice]
  · simp [hprice]

theorem quoteFor_lines : (db.quoteFor t req).lines = req.lines.map (db.quotedLine t) := by
  show (req.lines.foldl (db.quoted t) {}).quoteLines = _
  rw [quoted_quoteLines]
  rfl

theorem quoteFor_total : PyDecimal.store 14 (db.quoteFor t req).totalAmount =
    if db.orderTotal t req < 10 ^ 14 then some (db.orderTotal t req) else none := by
  have htotal := quoted_total db t req.lines (q := {}) (PyDecimal.tracks_self 0)
  rw [Nat.zero_add] at htotal
  exact htotal.store (le_refl 14)

theorem orderLine_quotedLine {orderId lineId : String} {l : CommerceOrderLineCreate}
    {item : CommercePriceItem} (h : db.priceOf t.id l.surfaceId = some item) :
    orderLine orderId lineId (db.quotedLine t l) = if db.lineFits t l then some {
      id := lineId
      orderId := orderId
      surfaceId := l.surfaceId
      dateFrom := l.dateFrom
      dateTo := l.dateTo
      quantityDays := l.days
      unitPriceAmount := db.unitPrice t l
      lineAmount := db.lineAmount t l } else none := by
  have hunit : db.unitPrice t l = item.unitPriceAmount := by
    unfold CommerceDb.unitPrice
    rw [h]
    rfl
  have hrow : db.quotedLine t l = pricedLine l l.days item := by
    unfold CommerceDb.quotedLine
    rw [h]
  have hunitColumn : PyDecimal.store 12 (pricedLine l l.days item).unitPriceAmount =
      if db.unitPrice t l < 10 ^ 12 then some (db.unitPrice t l) else none := by
    rw [hunit]
    exact PyDecimal.store_floatOfCents (by decide) _
  have hlineColumn : PyDecimal.store 14 (pricedLine l l.days item).lineAmount =
      if db.lineAmount t l < 10 ^ 14 then some (db.lineAmount t l) else none := by
    unfold CommerceDb.lineAmount
    rw [hunit]
    exact (PyDecimal.tracks_self (item.unitPriceAmount * l.days)).rounded.store (le_refl 14)
  unfold orderLine
  rw [hrow, hunitColumn, hlineColumn]
  by_cases hu : db.unitPrice t l < 10 ^ 12
  · by_cases ha : db.lineAmount t l < 10 ^ 14
    · rw [if_pos hu, if_pos ha]
      by_cases hd : integer l.days = true
      · have hfits : db.lineFits t l := ⟨hu, ha, hd⟩
        rw [if_pos hfits]
        exact if_pos hd
      · have hfits : ¬ db.lineFits t l := fun hall ↦ hd hall.2.2
        rw [if_neg hfits]
        exact if_neg hd
    · have hfits : ¬ db.lineFits t l := fun hall ↦ ha hall.2.1
      rw [if_pos hu, if_neg ha, if_neg hfits]
  · have hfits : ¬ db.lineFits t l := fun hall ↦ hu hall.1
    rw [if_neg hu, if_neg hfits]

/-- The rows of a quote without errors, all of them or none. -/
theorem orderLines_quoteFor (drawn : OrderDrawn)
    (h : ∀ l ∈ req.lines, db.priceOf t.id l.surfaceId ≠ none) :
    orderLines drawn (db.quoteFor t req).lines =
      if ∀ l ∈ req.lines, db.lineFits t l then some (db.orderRows t req drawn) else none := by
  have hrows := Rows.mapM_eq_ite (l := req.lines.zipIdx)
    (f := fun l ↦ orderLine drawn.orderId (drawn.lineId l.2) (db.quotedLine t l.1))
    (p := fun l ↦ db.lineFits t l.1) (g := db.orderRow t drawn) (by
      intro l hl
      have hmem : l.1 ∈ req.lines := by
        have hfst := List.mem_map_of_mem (f := Prod.fst) hl
        rw [List.zipIdx_map_fst] at hfst
        exact hfst
      obtain ⟨item, hitem⟩ := Option.ne_none_iff_exists'.1 (h l.1 hmem)
      exact orderLine_quotedLine hitem)
  have hall : (∀ l ∈ req.lines.zipIdx, db.lineFits t l.1) ↔ ∀ l ∈ req.lines, db.lineFits t l := by
    rw [← List.forall_mem_map (P := db.lineFits t) (f := Prod.fst), List.zipIdx_map_fst]
  unfold orderLines
  rw [quoteFor_lines, List.zipIdx_map, List.mapM_map]
  refine hrows.trans ?_
  simp only [hall]
  rfl

end Columns

/-! ## When an order is created -/

section Creation

variable {db : CommerceDb} {today : Int} {scopeAdvertiserIds : Option (List String)}
  {req : CommerceQuoteRequest} {drawn : OrderDrawn} {t : CommerceTariffVersion}

/-- What is left of the creation once the version is known. -/
theorem createOrder_some (hscope : inScope req.advertiserOrganizationId scopeAdvertiserIds = true)
    (ht : getActiveTariffVersion db today (some req.tariffVersionId) = some t) :
    createOrder db today scopeAdvertiserIds req drawn =
      if (db.quoteFor t req).errors ≠ [] then
        .error (.valueError ("Quote errors: " ++ "; ".intercalate (db.quoteFor t req).errors))
      else
        storeOrder db req drawn t.currency (PyDecimal.store 14 (db.quoteFor t req).totalAmount)
          (orderLines drawn (db.quoteFor t req).lines) := by
  unfold createOrder assertOrgInScope
  rw [if_pos hscope, ht]
  dsimp only
  rw [calculateOrderQuote_some ht]
  rfl

theorem storeOrder_some :
    storeOrder db req drawn t.currency (some (db.orderTotal t req))
        (some (db.orderRows t req drawn)) =
      if db.accepts (db.orderFor t req drawn) (db.orderRows t req drawn) then
        .ok (db.withOrder (db.orderFor t req drawn) (db.orderRows t req drawn),
          db.orderFor t req drawn)
      else .error .integrityError := rfl

theorem createOrder_of_orderable
    (ht : getActiveTariffVersion db today (some req.tariffVersionId) = some t)
    (h : Orderable db scopeAdvertiserIds req drawn t) :
    createOrder db today scopeAdvertiserIds req drawn =
      .ok (db.withOrder (db.orderFor t req drawn) (db.orderRows t req drawn),
        db.orderFor t req drawn) := by
  have herrors : ¬ (db.quoteFor t req).errors ≠ [] := not_not.2 (quoteFor_errors_nil.2 h.priced)
  rw [createOrder_some h.inScope ht, if_neg herrors, quoteFor_total, if_pos h.total,
    orderLines_quoteFor drawn h.priced, if_pos h.fits, storeOrder_some, if_pos h.keys]

/-- An order is created only from a version and a request that have all it needs. -/
theorem createOrder_ok {db' : CommerceDb} {order : CommerceOrder}
    (h : createOrder db today scopeAdvertiserIds req drawn = .ok (db', order)) :
    ∃ t, getActiveTariffVersion db today (some req.tariffVersionId) = some t ∧
      Orderable db scopeAdvertiserIds req drawn t ∧ order = db.orderFor t req drawn ∧
      db' = db.withOrder (db.orderFor t req drawn) (db.orderRows t req drawn) := by
  by_cases hscope : inScope req.advertiserOrganizationId scopeAdvertiserIds = true
  · cases ht : getActiveTariffVersion db today (some req.tariffVersionId) with
    | none =>
        unfold createOrder assertOrgInScope at h
        rw [if_pos hscope, ht] at h
        cases h
    | some t =>
        rw [createOrder_some hscope ht] at h
        by_cases herrors : (db.quoteFor t req).errors ≠ []
        · rw [if_pos herrors] at h
          cases h
        · have hpriced := quoteFor_errors_nil.1 (not_not.1 herrors)
          rw [if_neg herrors, quoteFor_total, orderLines_quoteFor drawn hpriced] at h
          by_cases htotal : db.orderTotal t req < 10 ^ 14
          · by_cases hfits : ∀ l ∈ req.lines, db.lineFits t l
            · rw [if_pos htotal, if_pos hfits, storeOrder_some] at h
              by_cases hkeys : db.accepts (db.orderFor t req drawn) (db.orderRows t req drawn) = true
              · rw [if_pos hkeys] at h
                cases h
                exact ⟨t, rfl, ⟨hscope, hpriced, hfits, htotal, hkeys⟩, rfl, rfl⟩
              · rw [if_neg hkeys] at h
                cases h
            · rw [if_pos htotal, if_neg hfits] at h
              cases h
          · rw [if_neg htotal] at h
            cases h
  · unfold createOrder assertOrgInScope at h
    rw [if_neg hscope] at h
    cases h

theorem Orderable.named (h : Orderable db scopeAdvertiserIds req drawn t) :
    req.tariffVersionId ≠ "" := by
  have hkeys := h.keys
  unfold CommerceDb.accepts at hkeys
  rw [decide_eq_true_eq] at hkeys
  intro hempty
  have hmem : req.tariffVersionId ∈ db.tariffVersions.map (·.id) := hkeys.2.2.2.1
  rw [hempty] at hmem
  exact db.tariffNamed hmem

/-- An order names the version that it was priced with. -/
theorem Orderable.tariff_id (h : Orderable db scopeAdvertiserIds req drawn t)
    (ht : getActiveTariffVersion db today (some req.tariffVersionId) = some t) :
    t.id = req.tariffVersionId := ((getActive_named h.named).1 ht).2.1

end Creation

/-! ## The amounts -/

/-- The request with other day counts from the client. -/
def CommerceQuoteRequest.withQuantityDays (req : CommerceQuoteRequest)
    (sent : CommerceOrderLineCreate → Nat) : CommerceQuoteRequest :=
  { req with
    lines := req.lines.map fun l ↦ { l with quantityDays := sent l }
    someLine := by
      rw [List.isEmpty_map]
      exact req.someLine }

/-- A stored line: the surface and the dates of the request, both days counted, and the price of
the surface for each of them. -/
structure ExactLine (db : CommerceDb) (tariffVersionId : String) (l : CommerceOrderLineCreate)
    (row : CommerceOrderLine) : Prop where
  surface : row.surfaceId = l.surfaceId
  dates : row.dateFrom = l.dateFrom ∧ row.dateTo = l.dateTo
  days : (row.quantityDays : Int) = l.dateTo - l.dateFrom + 1
  oneDay : 1 ≤ row.quantityDays
  amount : ∃ item ∈ db.priceItems, item.tariffVersionId = tariffVersionId ∧
    item.surfaceId = l.surfaceId ∧ row.unitPriceAmount = item.unitPriceAmount ∧
    row.lineAmount = item.unitPriceAmount * row.quantityDays

/-- The new rows of the tables are one order and its lines, and the total is their sum. -/
structure ExactOrder (db db' : CommerceDb) (req : CommerceQuoteRequest) (order : CommerceOrder)
    (rows : List CommerceOrderLine) : Prop where
  stored : db'.orders = db.orders ++ [order]
  storedLines : db'.orderLines = db.orderLines ++ rows
  owner : ∀ row ∈ rows, row.orderId = order.id
  lines : List.Forall₂ (ExactLine db order.tariffVersionId) req.lines rows
  total : order.totalAmount = (rows.map (·.lineAmount)).sum

section Exact

variable {db : CommerceDb} {t : CommerceTariffVersion} {req : CommerceQuoteRequest}
  {drawn : OrderDrawn}

theorem days_eq (l : CommerceOrderLineCreate) : (l.days : Int) = l.dateTo - l.dateFrom + 1 := by
  have hrange := l.dateRange
  unfold CommerceOrderLineCreate.days
  omega

theorem orderRow_exact {l : CommerceOrderLineCreate × Nat}
    (h : db.priceOf t.id l.1.surfaceId ≠ none) :
    ExactLine db t.id l.1 (db.orderRow t drawn l) := by
  obtain ⟨item, hprice⟩ := Option.ne_none_iff_exists'.1 h
  obtain ⟨hitem, htariff, hsurface⟩ := priceOf_eq_some.1 hprice
  have hunit : db.unitPrice t l.1 = item.unitPriceAmount := by
    unfold CommerceDb.unitPrice
    rw [hprice]
    rfl
  have hamount : db.lineAmount t l.1 = item.unitPriceAmount * l.1.days := by
    unfold CommerceDb.lineAmount
    rw [hunit]
  constructor
  · rfl
  · exact ⟨rfl, rfl⟩
  · exact days_eq l.1
  · exact Nat.le_add_left 1 _
  · exact ⟨item, hitem, htariff, hsurface, hunit, hamount⟩

/-- One row for each line of the request, in order. -/
theorem orderRows_exact (h : ∀ l ∈ req.lines, db.priceOf t.id l.surfaceId ≠ none) :
    List.Forall₂ (ExactLine db t.id) req.lines (db.orderRows t req drawn) := by
  have hfrom (lines : List CommerceOrderLineCreate)
      (hlines : ∀ l ∈ lines, db.priceOf t.id l.surfaceId ≠ none) (k : Nat) :
      List.Forall₂ (ExactLine db t.id) lines ((lines.zipIdx k).map (db.orderRow t drawn)) := by
    induction lines generalizing k with
    | nil => exact .nil
    | cons l lines ih =>
        have hhead : ExactLine db t.id l (db.orderRow t drawn (l, k)) :=
          orderRow_exact (l := (l, k)) (hlines l List.mem_cons_self)
        have htail := ih (fun m hm ↦ hlines m (List.mem_cons_of_mem l hm)) (k + 1)
        rw [List.zipIdx_cons, List.map_cons]
        exact .cons hhead htail
  exact hfrom req.lines h 0

theorem orderRows_sum :
    ((db.orderRows t req drawn).map (·.lineAmount)).sum = db.orderTotal t req := by
  unfold CommerceDb.orderRows CommerceDb.orderTotal
  rw [List.map_map]
  show (req.lines.zipIdx.map (db.lineAmount t ∘ Prod.fst)).sum = _
  rw [← List.map_map, List.zipIdx_map_fst]

theorem quoteFor_quantityDays (sent : CommerceOrderLineCreate → Nat) :
    db.quoteFor t (req.withQuantityDays sent) = db.quoteFor t req := by
  have hloop : (req.withQuantityDays sent).lines.foldl (db.quoted t) {} =
      req.lines.foldl (db.quoted t) {} := by
    show (req.lines.map fun l ↦ { l with quantityDays := sent l }).foldl (db.quoted t) {} = _
    rw [List.foldl_map]
    rfl
  unfold CommerceDb.quoteFor
  rw [hloop]

theorem storeOrder_quantityDays (sent : CommerceOrderLineCreate → Nat) (currency : String)
    (totalAmount : Option Nat) (rows : Option (List CommerceOrderLine)) :
    storeOrder db (req.withQuantityDays sent) drawn currency totalAmount rows =
      storeOrder db req drawn currency totalAmount rows := by
  cases totalAmount with
  | none => rfl
  | some total =>
      cases rows with
      | none => rfl
      | some rows => rfl

/-- The day count that the client sends is not read. -/
theorem createOrder_quantityDays (db : CommerceDb) (today : Int)
    (scopeAdvertiserIds : Option (List String)) (req : CommerceQuoteRequest)
    (sent : CommerceOrderLineCreate → Nat) (drawn : OrderDrawn) :
    createOrder db today scopeAdvertiserIds (req.withQuantityDays sent) drawn =
      createOrder db today scopeAdvertiserIds req drawn := by
  by_cases hscope : inScope req.advertiserOrganizationId scopeAdvertiserIds = true
  · cases ht : getActiveTariffVersion db today (some req.tariffVersionId) with
    | none =>
        have ht' : getActiveTariffVersion db today
          (some (req.withQuantityDays sent).tariffVersionId) = none := ht
        unfold createOrder
        rw [ht, ht']
        rfl
    | some t =>
        have hscope' : inScope (req.withQuantityDays sent).advertiserOrganizationId
          scopeAdvertiserIds = true := hscope
        have ht' : getActiveTariffVersion db today
          (some (req.withQuantityDays sent).tariffVersionId) = some t := ht
        rw [createOrder_some hscope ht, createOrder_some hscope' ht', quoteFor_quantityDays,
          storeOrder_quantityDays]
  · have hscope' : ¬ inScope (req.withQuantityDays sent).advertiserOrganizationId
      scopeAdvertiserIds = true := hscope
    unfold createOrder assertOrgInScope
    rw [if_neg hscope, if_neg hscope']
    rfl

end Exact

/-- The arithmetic of every order that is created. -/
theorem createOrder_exact {db db' : CommerceDb} {today : Int}
    {scopeAdvertiserIds : Option (List String)} {req : CommerceQuoteRequest} {drawn : OrderDrawn}
    {order : CommerceOrder}
    (h : createOrder db today scopeAdvertiserIds req drawn = .ok (db', order)) :
    (∃ rows, ExactOrder db db' req order rows) ∧
      ∀ sent, createOrder db today scopeAdvertiserIds (req.withQuantityDays sent) drawn =
        .ok (db', order) := by
  obtain ⟨t, ht, hall, horder, hdb⟩ := createOrder_ok h
  have hid : (db.orderFor t req drawn).tariffVersionId = t.id := (hall.tariff_id ht).symm
  constructor
  · use db.orderRows t req drawn
    rw [horder, hdb]
    constructor
    · rfl
    · rfl
    · intro row hrow
      obtain ⟨l, -, rfl⟩ := List.mem_map.1 hrow
      rfl
    · rw [hid]
      exact orderRows_exact hall.priced
    · exact orderRows_sum.symm
  · intro sent
    rw [createOrder_quantityDays]
    exact h

/-! Five days at 150.00 and one at 99.99. -/

def twoSurfaces : CommerceDb where
  tariffVersions := [{
    id := "tv-1"
    code := "BASE"
    name := "Base prices"
    status := "active"
    validFrom := 20454 }]
  priceItems := [
    { id := "pi-1", tariffVersionId := "tv-1", surfaceId := "s-1", unitPriceAmount := 15000 },
    { id := "pi-2", tariffVersionId := "tv-1", surfaceId := "s-2", unitPriceAmount := 9999 }]
  displaySurfaces := ["s-1", "s-2"]
  advertiserOrganizations := ["org-1"]

def sixDays : CommerceQuoteRequest where
  tariffVersionId := "tv-1"
  advertiserOrganizationId := "org-1"
  lines := [
    { surfaceId := "s-1", dateFrom := 20666, dateTo := 20670, quantityDays := 99 },
    { surfaceId := "s-2", dateFrom := 20666, dateTo := 20666 }]

def firstOrder : OrderDrawn where
  orderId := "order-1"
  codeUuid := "0a1b2c3d-4e5f-4a6b-8c7d-9e0f1a2b3c4d"
  lineId i := "line-" ++ toString i
  utcDay := 20660

theorem sixDays_exact : ∃ db' order,
    createOrder twoSurfaces 20660 (some ["org-1"]) sixDays firstOrder = .ok (db', order) ∧
      (∃ rows, ExactOrder twoSurfaces db' sixDays order rows) ∧
      ∀ sent, createOrder twoSurfaces 20660 (some ["org-1"]) (sixDays.withQuantityDays sent)
        firstOrder = .ok (db', order) := by
  have hok : (createOrder twoSurfaces 20660 (some ["org-1"]) sixDays firstOrder).isOk = true := by
    decide +kernel
  cases h : createOrder twoSurfaces 20660 (some ["org-1"]) sixDays firstOrder with
  | error e =>
      rw [h] at hok
      cases hok
  | ok result => exact ⟨result.1, result.2, rfl, createOrder_exact h⟩

end RetailMedia
