import RetailMedia.Campaign.Mutations
import RetailMedia.Lib.PyDecimal
import RetailMedia.Lib.Rows
import Mathlib

/-! Tariff versions and their price items: the tables, what is created and updated in them, and
the version that a request is priced with. -/

namespace RetailMedia

/-! ## Tables -/

structure CommerceTariffVersion where
  id : String
  code : String
  name : String
  /-- One of `draft`, `active` and `archived`; an update stores any text. -/
  status : String := "draft"
  validFrom : Int
  validTo : Option Int := none
  currency : String := "RUB"
  deriving DecidableEq, Repr

/-- Amounts are in hundredths. -/
structure CommercePriceItem where
  id : String
  tariffVersionId : String
  surfaceId : String
  billingUnit : String := "surface_day"
  unitPriceAmount : Nat
  currency : String := "RUB"
  deriving DecidableEq, Repr

inductive CommerceOrderStatus
  | draft
  | offered
  | booked
  | confirmed
  | closed
  | cancelled
  deriving DecidableEq, Repr

inductive CommercePaymentStatus
  | notRequired
  | unpaid
  | partiallyPaid
  | paid
  | overdue
  deriving DecidableEq, Repr

structure CommerceOrder where
  id : String
  advertiserOrganizationId : String
  code : String
  status : CommerceOrderStatus := .draft
  paymentStatus : CommercePaymentStatus := .notRequired
  tariffVersionId : String
  totalAmount : Nat
  currency : String := "RUB"
  deriving DecidableEq, Repr

structure CommerceOrderLine where
  id : String
  orderId : String
  surfaceId : String
  dateFrom : Int
  dateTo : Int
  quantityDays : Nat
  unitPriceAmount : Nat
  lineAmount : Nat
  deriving DecidableEq, Repr

def CommercePriceItem.key (p : CommercePriceItem) : String × String :=
  (p.tariffVersionId, p.surfaceId)

/-- Tables under their primary keys, the unique price of a surface in a version, and the foreign
keys of a price item. -/
structure CommerceDb where
  tariffVersions : List CommerceTariffVersion := []
  priceItems : List CommercePriceItem := []
  displaySurfaces : List String := []
  advertiserOrganizations : List String := []
  orders : List CommerceOrder := []
  orderLines : List CommerceOrderLine := []
  tariffIds : (tariffVersions.map (·.id)).Nodup := by decide
  tariffNamed : "" ∉ tariffVersions.map (·.id) := by decide
  priceKeys : (priceItems.map (·.key)).Nodup := by decide
  priceTariffs : ∀ p ∈ priceItems, p.tariffVersionId ∈ tariffVersions.map (·.id) := by decide
  priceSurfaces : ∀ p ∈ priceItems, p.surfaceId ∈ displaySurfaces := by decide

inductive CommerceError
  | scope (e : MutationError)
  | valueError (message : String)
  | integrityError
  | dataError
  deriving DecidableEq, Repr

/-- A new primary key. -/
structure Uuid where
  text : String
  nonempty : text ≠ "" := by decide

/-! ## Tariff versions -/

def getTariffVersion (db : CommerceDb) (tariffId : String) : Option CommerceTariffVersion :=
  Rows.get CommerceTariffVersion.id tariffId db.tariffVersions

/-- An empty id counts as none.  Of several latest versions, the first. -/
def getActiveTariffVersion (db : CommerceDb) (today : Int) (tariffVersionId : Option String) :
    Option CommerceTariffVersion :=
  match tariffVersionId.filter (· ≠ "") with
  | some id => db.tariffVersions.find? fun t ↦ t.id = id ∧ t.status = "active"
  | none => Rows.newest CommerceTariffVersion.validFrom
      (db.tariffVersions.filter fun t ↦ t.status = "active" ∧ t.validFrom ≤ today)

theorem getActive_named {db : CommerceDb} {today : Int} {id : String} (hid : id ≠ "")
    {t : CommerceTariffVersion} :
    getActiveTariffVersion db today (some id) = some t ↔
      t ∈ db.tariffVersions ∧ t.id = id ∧ t.status = "active" := by
  have hlookup : getActiveTariffVersion db today (some id) =
      db.tariffVersions.find? fun t ↦ t.id = id ∧ t.status = "active" := by
    unfold getActiveTariffVersion
    rw [Option.filter_some, if_pos (decide_eq_true hid)]
  rw [hlookup]
  constructor
  · intro h
    have hcond := List.find?_some h
    rw [decide_eq_true_eq] at hcond
    exact ⟨List.mem_of_find?_eq_some h, hcond⟩
  · intro h
    obtain ⟨hmem, hsame, hactive⟩ := h
    cases hfind : db.tariffVersions.find? fun t ↦ t.id = id ∧ t.status = "active" with
    | none =>
        have hnone := List.find?_eq_none.1 hfind t hmem
        exact absurd (decide_eq_true ⟨hsame, hactive⟩) hnone
    | some other =>
        have hother := List.find?_some hfind
        rw [decide_eq_true_eq] at hother
        rw [Rows.key_inj db.tariffIds (List.mem_of_find?_eq_some hfind) hmem
          (hother.1.trans hsame.symm)]

theorem getActive_unnamed {db : CommerceDb} {today : Int} :
    getActiveTariffVersion db today (some "") = Rows.newest CommerceTariffVersion.validFrom
      (db.tariffVersions.filter fun t ↦ t.status = "active" ∧ t.validFrom ≤ today) := rfl

theorem getActive_mem {db : CommerceDb} {today : Int} {id : String} {t : CommerceTariffVersion}
    (h : getActiveTariffVersion db today (some id) = some t) :
    t ∈ db.tariffVersions ∧ t.status = "active" := by
  by_cases hid : id = ""
  · rw [hid, getActive_unnamed] at h
    obtain ⟨hmem, hcond⟩ := List.mem_filter.1 (Rows.newest_mem h)
    rw [decide_eq_true_eq] at hcond
    exact ⟨hmem, hcond.1⟩
  · obtain ⟨hmem, -, hactive⟩ := (getActive_named hid).1 h
    exact ⟨hmem, hactive⟩

structure CommerceTariffVersionCreate where
  code : String
  name : String
  validFrom : Int
  validTo : Option Int := none
  currency : String := "RUB"
  codeLength : lengthWithin 1 64 code = true := by decide
  nameLength : lengthWithin 1 255 name = true := by decide
  currencyLength : lengthWithin 3 3 currency = true := by decide

structure CommerceTariffVersionUpdate where
  name : Option String := none
  status : Option String := none
  validFrom : Option Int := none
  validTo : Option Int := none
  nameLength : name.elim true (lengthWithin 1 255) = true := by decide

def CommerceTariffVersionCreate.row (req : CommerceTariffVersionCreate) (id : String) :
    CommerceTariffVersion where
  id := id
  code := req.code
  name := req.name
  status := "draft"
  validFrom := req.validFrom
  validTo := req.validTo
  currency := req.currency

def CommerceTariffVersionUpdate.apply (req : CommerceTariffVersionUpdate)
    (t : CommerceTariffVersion) : CommerceTariffVersion :=
  { t with
    name := req.name.getD t.name
    status := req.status.getD t.status
    validFrom := req.validFrom.getD t.validFrom
    validTo := req.validTo.or t.validTo }

theorem update_id (req : CommerceTariffVersionUpdate) (t : CommerceTariffVersion) :
    (req.apply t).id = t.id := rfl

def createTariffVersion (db : CommerceDb) (id : Uuid) (req : CommerceTariffVersionCreate) :
    Except CommerceError (CommerceDb × CommerceTariffVersion) :=
  if ¬ (varchar 64 req.code ∧ varchar 255 req.name ∧ varchar 3 req.currency) then .error .dataError
  else if h : id.text ∉ db.tariffVersions.map (·.id) ∧
      req.code ∉ db.tariffVersions.map (·.code) then
    .ok ({ db with
      tariffVersions := db.tariffVersions ++ [req.row id.text]
      tariffIds := by
        rw [List.map_append]
        exact Rows.nodup_concat db.tariffIds h.1
      tariffNamed := by
        rw [List.map_append, List.mem_append, not_or]
        exact ⟨db.tariffNamed, fun hmem ↦ id.nonempty (List.mem_singleton.1 hmem).symm⟩
      priceTariffs := by
        intro p hp
        rw [List.map_append]
        exact List.mem_append_left _ (db.priceTariffs p hp) }, req.row id.text)
  else .error .integrityError

def updateTariffVersion (db : CommerceDb) (tariffId : String) (req : CommerceTariffVersionUpdate) :
    Except CommerceError (CommerceDb × Option CommerceTariffVersion) :=
  match getTariffVersion db tariffId with
  | none => .ok (db, none)
  | some t =>
      if ¬ (req.name.all (varchar 255) ∧ req.status.all (varchar 32)) then .error .dataError
      else
        have hids : (Rows.updateWhere (·.id = tariffId) req.apply db.tariffVersions).map (·.id) =
            db.tariffVersions.map (·.id) :=
          Rows.map_updateWhere CommerceTariffVersion.id (update_id req) _
        .ok ({ db with
          tariffVersions := Rows.updateWhere (·.id = tariffId) req.apply db.tariffVersions
          tariffIds := by
            rw [hids]
            exact db.tariffIds
          tariffNamed := by
            rw [hids]
            exact db.tariffNamed
          priceTariffs := by
            intro p hp
            rw [hids]
            exact db.priceTariffs p hp }, some (req.apply t))

/-! ## Price items -/

/-- A float is a number of units of `2 ^ -1074`; none is infinite. -/
structure CommercePriceItemCreate where
  surfaceId : String
  billingUnit : String := "surface_day"
  unitPriceAmount : Option Nat
  currency : String := "RUB"
  positive : unitPriceAmount ≠ some 0 := by decide
  currencyLength : lengthWithin 3 3 currency = true := by decide

structure CommercePriceItemUpdate where
  unitPriceAmount : Option (Option Nat) := none
  billingUnit : Option String := none
  positive : unitPriceAmount ≠ some (some 0) := by decide

def CommercePriceItemCreate.row (req : CommercePriceItemCreate) (id tariffVersionId : String)
    (unitPriceAmount : Nat) : CommercePriceItem where
  id := id
  tariffVersionId := tariffVersionId
  surfaceId := req.surfaceId
  billingUnit := req.billingUnit
  unitPriceAmount := unitPriceAmount
  currency := req.currency

def CommercePriceItemUpdate.apply (req : CommercePriceItemUpdate) (unitPriceAmount : Option Nat)
    (p : CommercePriceItem) : CommercePriceItem :=
  { p with
    unitPriceAmount := unitPriceAmount.getD p.unitPriceAmount
    billingUnit := req.billingUnit.getD p.billingUnit }

def createPriceItem (db : CommerceDb) (id tariffVersionId : String) (req : CommercePriceItemCreate) :
    Except CommerceError (CommerceDb × CommercePriceItem) :=
  if ¬ (varchar 32 req.billingUnit ∧ varchar 3 req.currency) then .error .dataError
  else
    match PyDecimal.store 12 req.unitPriceAmount with
    | none => .error .dataError
    | some amount =>
        let item := req.row id tariffVersionId amount
        if h : id ∉ db.priceItems.map (·.id) ∧ (∀ p ∈ db.priceItems, p.key ≠ item.key) ∧
            item.tariffVersionId ∈ db.tariffVersions.map (·.id) ∧
            item.surfaceId ∈ db.displaySurfaces then
          .ok ({ db with
            priceItems := db.priceItems ++ [item]
            priceKeys := by
              rw [List.map_append]
              apply Rows.nodup_concat db.priceKeys
              intro hmem
              obtain ⟨p, hp, hsame⟩ := List.mem_map.1 hmem
              exact h.2.1 p hp hsame
            priceTariffs := by
              intro p hp
              rcases List.mem_append.1 hp with hold | hnew
              · exact db.priceTariffs p hold
              · exact List.mem_singleton.1 hnew ▸ h.2.2.1
            priceSurfaces := by
              intro p hp
              rcases List.mem_append.1 hp with hold | hnew
              · exact db.priceSurfaces p hold
              · exact List.mem_singleton.1 hnew ▸ h.2.2.2 }, item)
        else .error .integrityError

/-- An update that keeps the keys. -/
def CommerceDb.updatePrices (db : CommerceDb) (p : CommercePriceItem → Bool)
    (f : CommercePriceItem → CommercePriceItem) (hf : ∀ item, (f item).key = item.key) :
    CommerceDb :=
  { db with
    priceItems := Rows.updateWhere p f db.priceItems
    priceKeys := by
      rw [Rows.map_updateWhere _ hf]
      exact db.priceKeys
    priceTariffs := by
      intro item hitem
      obtain ⟨old, hold, rfl⟩ := Rows.mem_updateWhere.1 hitem
      split
      · rw [show (f old).tariffVersionId = old.tariffVersionId from congrArg (·.1) (hf old)]
        exact db.priceTariffs old hold
      · exact db.priceTariffs old hold
    priceSurfaces := by
      intro item hitem
      obtain ⟨old, hold, rfl⟩ := Rows.mem_updateWhere.1 hitem
      split
      · rw [show (f old).surfaceId = old.surfaceId from congrArg (·.2) (hf old)]
        exact db.priceSurfaces old hold
      · exact db.priceSurfaces old hold }

theorem update_key (req : CommercePriceItemUpdate) (amount : Option Nat)
    (p : CommercePriceItem) : (req.apply amount p).key = p.key := rfl

def updatePriceItem (db : CommerceDb) (priceItemId : String) (req : CommercePriceItemUpdate) :
    Except CommerceError (CommerceDb × Option CommercePriceItem) :=
  match Rows.get CommercePriceItem.id priceItemId db.priceItems with
  | none => .ok (db, none)
  | some p =>
      let amount := req.unitPriceAmount.map (PyDecimal.store 12)
      if amount = some none ∨ req.billingUnit.all (varchar 32) = false then .error .dataError
      else
        .ok (db.updatePrices (·.id = priceItemId) (req.apply (amount.getD none))
          (update_key req (amount.getD none)), some (req.apply (amount.getD none) p))

end RetailMedia
