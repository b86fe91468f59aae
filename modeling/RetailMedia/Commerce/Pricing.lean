import RetailMedia.Commerce.Tariffs
import RetailMedia.Lib.Dict
import RetailMedia.Clock

/-! Quotes and orders: every price goes through `calculateOrderQuote`. -/

namespace RetailMedia

/-! ## Requests and answers -/

/-- Days are counted from 1970-01-01; the last three fields are not used for pricing. -/
structure CommerceOrderLineCreate where
  surfaceId : String
  dateFrom : Int
  dateTo : Int
  quantityDays : Nat := 0
  unitPriceAmount : Option Nat := some 0
  lineAmount : Option Nat := some 0
  dateRange : ¬ dateTo < dateFrom := by decide

structure CommerceQuoteRequest where
  tariffVersionId : String
  advertiserOrganizationId : String
  lines : List CommerceOrderLineCreate
  someLine : lines.isEmpty = false := by rfl

/-- The amounts are floats, in units of `2 ^ -1074`; none is infinite. -/
structure CommerceQuoteLine where
  surfaceId : String
  dateFrom : Int
  dateTo : Int
  quantityDays : Nat
  unitPriceAmount : Option Nat
  lineAmount : Option Nat
  error : Option String := none
  deriving DecidableEq, Repr

structure CommerceQuoteResponse where
  tariffVersionId : String
  currency : String
  lines : List CommerceQuoteLine := []
  totalAmount : Option Nat := some 0
  errors : List String := []
  deriving DecidableEq, Repr

/-! ## The quote -/

/-- Both days count. -/
def deriveQuantityDays (dateFrom dateTo : Int) : Except CommerceError Nat :=
  if dateTo < dateFrom then .error (.valueError "date_to must be >= date_from")
  else .ok ((dateTo - dateFrom).toNat + 1)

/-- `{surface_id: price_item}` for the surfaces of the request. -/
def listPriceItems (db : CommerceDb) (tariffVersionId : String) (surfaceIds : List String) :
    List (String × CommercePriceItem) :=
  Dict.setAll [] ((db.priceItems.filter fun p ↦
    p.tariffVersionId = tariffVersionId ∧ surfaceIds.contains p.surfaceId).map fun p ↦
      (p.surfaceId, p))

/-- What the loop has gathered so far; the total is in hundredths. -/
structure QuoteProgress where
  errors : List String := []
  quoteLines : List CommerceQuoteLine := []
  total : Nat := 0

/-- The exact amount of a line under the decimal context. -/
def lineCents (quantityDays : Nat) (item : CommercePriceItem) : Nat :=
  PyDecimal.rounded (item.unitPriceAmount * quantityDays)

def pricedLine (l : CommerceOrderLineCreate) (quantityDays : Nat) (item : CommercePriceItem) :
    CommerceQuoteLine where
  surfaceId := l.surfaceId
  dateFrom := l.dateFrom
  dateTo := l.dateTo
  quantityDays := quantityDays
  unitPriceAmount := PyDecimal.floatOfCents item.unitPriceAmount
  lineAmount := PyDecimal.floatOfCents (lineCents quantityDays item)

/-- A line that cannot be priced is kept, with zero amounts. -/
def refusedLine (l : CommerceOrderLineCreate) (quantityDays : Nat) (error : String) :
    CommerceQuoteLine where
  surfaceId := l.surfaceId
  dateFrom := l.dateFrom
  dateTo := l.dateTo
  quantityDays := quantityDays
  unitPriceAmount := some 0
  lineAmount := some 0
  error := some error

def QuoteProgress.refuse (q : QuoteProgress) (l : CommerceOrderLineCreate) (quantityDays : Nat)
    (error : String) : QuoteProgress :=
  { q with
    quoteLines := q.quoteLines ++ [refusedLine l quantityDays error]
    errors := q.errors ++ [error] }

def QuoteProgress.price (q : QuoteProgress) (l : CommerceOrderLineCreate) (quantityDays : Nat)
    (item : CommercePriceItem) : QuoteProgress :=
  { q with
    total := PyDecimal.rounded (q.total + lineCents quantityDays item)
    quoteLines := q.quoteLines ++ [pricedLine l quantityDays item] }

/-- One round of the loop. -/
def quoteLine (tariff : CommerceTariffVersion) (existingSurfaces : List String)
    (priceMap : List (String × CommercePriceItem)) (q : QuoteProgress)
    (l : CommerceOrderLineCreate) : Except CommerceError QuoteProgress := do
  let quantityDays ← deriveQuantityDays l.dateFrom l.dateTo
  if existingSurfaces.contains l.surfaceId = false then
    return q.refuse l quantityDays ("Surface " ++ l.surfaceId ++ " not found")
  match Dict.lookup priceMap l.surfaceId with
  | none =>
      return q.refuse l quantityDays
        ("No price for surface " ++ l.surfaceId ++ " in tariff " ++ tariff.code)
  | some item => return q.price l quantityDays item

def calculateOrderQuote (db : CommerceDb) (today : Int) (req : CommerceQuoteRequest) :
    Except CommerceError CommerceQuoteResponse :=
  match getActiveTariffVersion db today (some req.tariffVersionId) with
  | none =>
      return {
        tariffVersionId := req.tariffVersionId
        currency := "RUB"
        errors := ["Tariff version " ++ req.tariffVersionId ++ " not found or not active"] }
  | some tariff => do
      let surfaceIds := (req.lines.map (·.surfaceId)).dedup
      let priceMap := listPriceItems db tariff.id surfaceIds
      let existingSurfaces := db.displaySurfaces.filter surfaceIds.contains
      let q ← req.lines.foldlM (quoteLine tariff existingSurfaces priceMap) {}
      return {
        tariffVersionId := tariff.id
        currency := tariff.currency
        lines := q.quoteLines
        totalAmount := PyDecimal.floatOfCents q.total
        errors := q.errors }

/-! ## The order -/

/-- What the creation draws: the keys, and the time in UTC. -/
structure OrderDrawn where
  orderId : String
  codeUuid : String
  lineId : Nat → String
  utcDay : Int

/-- `ORD-%Y%m%d-` and eight hexadecimal digits. -/
def orderCode (drawn : OrderDrawn) : String :=
  let (y, m, day) := civil drawn.utcDay
  "ORD-" ++ padded 4 y.toNat ++ padded 2 m ++ padded 2 day ++ "-" ++
    (firstChars 8 drawn.codeUuid).toUpper

/-- A row of the quote through the columns of the lines. -/
def orderLine (orderId lineId : String) (ql : CommerceQuoteLine) : Option CommerceOrderLine :=
  match PyDecimal.store 12 ql.unitPriceAmount, PyDecimal.store 14 ql.lineAmount with
  | some unitPriceAmount, some lineAmount =>
      if integer ql.quantityDays then
        some {
          id := lineId
          orderId := orderId
          surfaceId := ql.surfaceId
          dateFrom := ql.dateFrom
          dateTo := ql.dateTo
          quantityDays := ql.quantityDays
          unitPriceAmount := unitPriceAmount
          lineAmount := lineAmount }
      else none
  | _, _ => none

def orderLines (drawn : OrderDrawn) (lines : List CommerceQuoteLine) :
    Option (List CommerceOrderLine) :=
  lines.zipIdx.mapM fun l ↦ orderLine drawn.orderId (drawn.lineId l.2) l.1

/-- The keys that the rows of an order need. -/
def CommerceDb.accepts (db : CommerceDb) (order : CommerceOrder)
    (lines : List CommerceOrderLine) : Bool :=
  order.id ∉ db.orders.map (·.id) ∧ order.code ∉ db.orders.map (·.code) ∧
    order.advertiserOrganizationId ∈ db.advertiserOrganizations ∧
    order.tariffVersionId ∈ db.tariffVersions.map (·.id) ∧
    ((db.orderLines ++ lines).map (·.id)).Nodup ∧ ∀ l ∈ lines, l.surfaceId ∈ db.displaySurfaces

/-- The rows go in, unless a column cannot hold a value or a key is refused. -/
def storeOrder (db : CommerceDb) (req : CommerceQuoteRequest) (drawn : OrderDrawn)
    (currency : String) :
    Option Nat → Option (List CommerceOrderLine) → Except CommerceError (CommerceDb × CommerceOrder)
  | some totalAmount, some lines =>
      let order : CommerceOrder := {
        id := drawn.orderId
        advertiserOrganizationId := req.advertiserOrganizationId
        code := orderCode drawn
        tariffVersionId := req.tariffVersionId
        totalAmount := totalAmount
        currency := currency }
      if db.accepts order lines then
        .ok ({ db with
          orders := db.orders ++ [order]
          orderLines := db.orderLines ++ lines }, order)
      else .error .integrityError
  | _, _ => .error .dataError

def createOrder (db : CommerceDb) (today : Int) (scopeAdvertiserIds : Option (List String))
    (req : CommerceQuoteRequest) (drawn : OrderDrawn) :
    Except CommerceError (CommerceDb × CommerceOrder) := do
  (assertOrgInScope req.advertiserOrganizationId scopeAdvertiserIds).mapError .scope
  match getActiveTariffVersion db today (some req.tariffVersionId) with
  | none =>
      throw (.valueError ("Tariff version " ++ req.tariffVersionId ++ " is not active"))
  | some tariff =>
      let quote ← calculateOrderQuote db today req
      if quote.errors ≠ [] then
        throw (.valueError ("Quote errors: " ++ "; ".intercalate quote.errors))
      storeOrder db req drawn tariff.currency (PyDecimal.store 14 quote.totalAmount)
        (orderLines drawn quote.lines)

/-! ## What the quote computes -/

def CommerceOrderLineCreate.days (l : CommerceOrderLineCreate) : Nat :=
  (l.dateTo - l.dateFrom).toNat + 1

/-- The price of a surface in a version. -/
def CommerceDb.priceOf (db : CommerceDb) (tariffVersionId surfaceId : String) :
    Option CommercePriceItem :=
  Rows.get CommercePriceItem.key (tariffVersionId, surfaceId) db.priceItems

/-- Why a line without a price is refused. -/
def CommerceDb.refusal (db : CommerceDb) (t : CommerceTariffVersion)
    (l : CommerceOrderLineCreate) : String :=
  if db.displaySurfaces.contains l.surfaceId = false then "Surface " ++ l.surfaceId ++ " not found"
  else "No price for surface " ++ l.surfaceId ++ " in tariff " ++ t.code

/-- One round of the loop, in terms of the tables. -/
def CommerceDb.quoted (db : CommerceDb) (t : CommerceTariffVersion) (q : QuoteProgress)
    (l : CommerceOrderLineCreate) : QuoteProgress :=
  match db.priceOf t.id l.surfaceId with
  | some item => q.price l l.days item
  | none => q.refuse l l.days (db.refusal t l)

def CommerceDb.quoteFor (db : CommerceDb) (t : CommerceTariffVersion)
    (req : CommerceQuoteRequest) : CommerceQuoteResponse :=
  let q := req.lines.foldl (db.quoted t) {}
  {
    tariffVersionId := t.id
    currency := t.currency
    lines := q.quoteLines
    totalAmount := PyDecimal.floatOfCents q.total
    errors := q.errors }

section Quote

variable {db : CommerceDb} {t : CommerceTariffVersion}

theorem deriveQuantityDays_line (l : CommerceOrderLineCreate) :
    deriveQuantityDays l.dateFrom l.dateTo = .ok l.days := if_neg l.dateRange

theorem priceOf_eq_some {tariffVersionId surfaceId : String} {item : CommercePriceItem} :
    db.priceOf tariffVersionId surfaceId = some item ↔
      item ∈ db.priceItems ∧ item.tariffVersionId = tariffVersionId ∧
        item.surfaceId = surfaceId := by
  unfold CommerceDb.priceOf
  rw [Rows.get_eq_some db.priceKeys]
  unfold CommercePriceItem.key
  rw [Prod.mk.injEq]

/-- In one version, a surface has one price. -/
theorem priceSurfaces_nodup (db : CommerceDb) (tariffVersionId : String) (ids : List String) :
    ((db.priceItems.filter fun p ↦ p.tariffVersionId = tariffVersionId ∧
      ids.contains p.surfaceId).map (·.surfaceId)).Nodup := by
  have hkeys : ((db.priceItems.filter fun p ↦ p.tariffVersionId = tariffVersionId ∧
      ids.contains p.surfaceId).map (·.key)).Nodup :=
    db.priceKeys.sublist (List.filter_sublist.map _)
  have hsame : (db.priceItems.filter fun p ↦ p.tariffVersionId = tariffVersionId ∧
        ids.contains p.surfaceId).map (·.key) =
      ((db.priceItems.filter fun p ↦ p.tariffVersionId = tariffVersionId ∧
        ids.contains p.surfaceId).map (·.surfaceId)).map fun s ↦ (tariffVersionId, s) := by
    rw [List.map_map]
    apply List.map_congr_left
    intro p hp
    have hcond := (List.mem_filter.1 hp).2
    rw [decide_eq_true_eq] at hcond
    show (p.tariffVersionId, p.surfaceId) = (tariffVersionId, p.surfaceId)
    rw [hcond.1]
  rw [hsame] at hkeys
  exact hkeys.of_map

/-- The dictionary of the request holds the price of each of its surfaces. -/
theorem lookup_listPriceItems {tariffVersionId surfaceId : String} {ids : List String}
    (h : ids.contains surfaceId = true) :
    Dict.lookup (listPriceItems db tariffVersionId ids) surfaceId =
      db.priceOf tariffVersionId surfaceId := by
  have hnodup : (((db.priceItems.filter fun p ↦ p.tariffVersionId = tariffVersionId ∧
      ids.contains p.surfaceId).map fun p ↦ (p.surfaceId, p)).map (·.1)).Nodup := by
    rw [List.map_map]
    exact priceSurfaces_nodup db tariffVersionId ids
  have hentries : listPriceItems db tariffVersionId ids =
      (db.priceItems.filter fun p ↦ p.tariffVersionId = tariffVersionId ∧
        ids.contains p.surfaceId).map fun p ↦ (p.surfaceId, p) := Dict.setAll_of_nodup hnodup
  apply Option.ext
  intro item
  rw [hentries, ← Dict.mem_iff_lookup hnodup, priceOf_eq_some]
  simp only [List.mem_map, List.mem_filter, decide_eq_true_eq, Prod.mk.injEq]
  constructor
  · intro hmem
    obtain ⟨p, ⟨hp, htariff, -⟩, hsurface, hsame⟩ := hmem
    rw [← hsame]
    exact ⟨hp, htariff, hsurface⟩
  · intro hitem
    obtain ⟨hitem, htariff, hsurface⟩ := hitem
    have hid : ids.contains item.surfaceId = true := hsurface.symm ▸ h
    exact ⟨item, ⟨hitem, htariff, hid⟩, hsurface, rfl⟩

theorem quoteLine_eq {ids : List String} (q : QuoteProgress) {l : CommerceOrderLineCreate}
    (h : ids.contains l.surfaceId = true) :
    quoteLine t (db.displaySurfaces.filter ids.contains) (listPriceItems db t.id ids) q l =
      .ok (db.quoted t q l) := by
  have hexisting : (db.displaySurfaces.filter ids.contains).contains l.surfaceId =
      db.displaySurfaces.contains l.surfaceId := by
    rw [Bool.eq_iff_iff]
    simp only [List.contains_iff_mem, List.mem_filter]
    exact and_iff_left (List.contains_iff_mem.1 h)
  unfold quoteLine CommerceDb.quoted CommerceDb.refusal
  rw [deriveQuantityDays_line, hexisting, lookup_listPriceItems h]
  cases hprice : db.priceOf t.id l.surfaceId with
  | none =>
      show (if _ then _ else _) = _
      split
      · rfl
      · rfl
  | some item =>
      -- a price item names a surface that exists
      have hsurface : db.displaySurfaces.contains l.surfaceId = true := by
        obtain ⟨hitem, -, hsame⟩ := priceOf_eq_some.1 hprice
        rw [List.contains_iff_mem, ← hsame]
        exact db.priceSurfaces item hitem
      show (if _ then _ else _) = _
      rw [hsurface]
      rfl

theorem calculateOrderQuote_some {today : Int} {req : CommerceQuoteRequest}
    (h : getActiveTariffVersion db today (some req.tariffVersionId) = some t) :
    calculateOrderQuote db today req = .ok (db.quoteFor t req) := by
  have hasked : ∀ l ∈ req.lines,
      (req.lines.map (·.surfaceId)).dedup.contains l.surfaceId = true := by
    intro l hl
    rw [List.contains_iff_mem, List.mem_dedup]
    exact List.mem_map_of_mem hl
  have hloop := Rows.foldlM_eq_foldl (l := req.lines) (f := db.quoted t)
    (fun q l hl ↦ quoteLine_eq q (hasked l hl)) {}
  unfold calculateOrderQuote
  rw [h]
  dsimp only
  rw [hloop]
  rfl

theorem calculateOrderQuote_none {today : Int} {req : CommerceQuoteRequest}
    (h : getActiveTariffVersion db today (some req.tariffVersionId) = none) :
    calculateOrderQuote db today req = .ok {
      tariffVersionId := req.tariffVersionId
      currency := "RUB"
      errors := ["Tariff version " ++ req.tariffVersionId ++ " not found or not active"] } := by
  unfold calculateOrderQuote
  rw [h]
  rfl

end Quote

/-! ## The loop, field by field -/

def CommerceDb.unitPrice (db : CommerceDb) (t : CommerceTariffVersion)
    (l : CommerceOrderLineCreate) : Nat :=
  ((db.priceOf t.id l.surfaceId).map (·.unitPriceAmount)).getD 0

/-- The exact amount of a line. -/
def CommerceDb.lineAmount (db : CommerceDb) (t : CommerceTariffVersion)
    (l : CommerceOrderLineCreate) : Nat := db.unitPrice t l * l.days

def CommerceDb.lineError (db : CommerceDb) (t : CommerceTariffVersion)
    (l : CommerceOrderLineCreate) : Option String :=
  if db.priceOf t.id l.surfaceId = none then some (db.refusal t l) else none

/-- The row that a line gets. -/
def CommerceDb.quotedLine (db : CommerceDb) (t : CommerceTariffVersion)
    (l : CommerceOrderLineCreate) : CommerceQuoteLine :=
  match db.priceOf t.id l.surfaceId with
  | some item => pricedLine l l.days item
  | none => refusedLine l l.days (db.refusal t l)

section Fields

variable (db : CommerceDb) (t : CommerceTariffVersion)

theorem quoted_errors (lines : List CommerceOrderLineCreate) (q : QuoteProgress) :
    (lines.foldl (db.quoted t) q).errors = q.errors ++ lines.filterMap (db.lineError t) := by
  induction lines generalizing q with
  | nil => exact (List.append_nil _).symm
  | cons l lines ih =>
      rw [List.foldl_cons, ih, List.filterMap_cons]
      unfold CommerceDb.quoted CommerceDb.lineError
      cases db.priceOf t.id l.surfaceId with
      | none =>
          show (q.errors ++ [db.refusal t l]) ++ _ = _
          rw [if_pos rfl, List.append_assoc]
          rfl
      | some item => rfl

theorem quoted_quoteLines (lines : List CommerceOrderLineCreate) (q : QuoteProgress) :
    (lines.foldl (db.quoted t) q).quoteLines = q.quoteLines ++ lines.map (db.quotedLine t) := by
  induction lines generalizing q with
  | nil => exact (List.append_nil _).symm
  | cons l lines ih =>
      rw [List.foldl_cons, ih, List.map_cons]
      have hrow : (db.quoted t q l).quoteLines = q.quoteLines ++ [db.quotedLine t l] := by
        unfold CommerceDb.quoted CommerceDb.quotedLine
        cases db.priceOf t.id l.surfaceId with
        | none => rfl
        | some item => rfl
      rw [hrow, List.append_assoc]
      rfl

/-- The running total stands for the exact sum. -/
theorem quoted_total (lines : List CommerceOrderLineCreate) {q : QuoteProgress} {m : Nat}
    (h : PyDecimal.Tracks q.total m) :
    PyDecimal.Tracks (lines.foldl (db.quoted t) q).total
      (m + (lines.map (db.lineAmount t)).sum) := by
  induction lines generalizing q m with
  | nil => exact h
  | cons l lines ih =>
      have hround : PyDecimal.Tracks (db.quoted t q l).total (m + db.lineAmount t l) := by
        unfold CommerceDb.quoted CommerceDb.lineAmount CommerceDb.unitPrice
        cases db.priceOf t.id l.surfaceId with
        | none =>
            show PyDecimal.Tracks q.total (m + 0 * l.days)
            rw [Nat.zero_mul]
            exact h
        | some item =>
            show PyDecimal.Tracks (PyDecimal.rounded (q.total + lineCents l.days item))
              (m + item.unitPriceAmount * l.days)
            have hline := (PyDecimal.tracks_self (item.unitPriceAmount * l.days)).rounded
            exact (h.add hline).rounded
      rw [List.foldl_cons, List.map_cons, List.sum_cons, ← Nat.add_assoc]
      exact ih hround

end Fields

end RetailMedia
