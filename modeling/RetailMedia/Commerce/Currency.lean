import RetailMedia.Commerce.Amounts
import RetailMedia.Lib.Run

/-! The currency of a total, and the currencies of the prices that are summed into it. -/

namespace RetailMedia

/-! ## Runs -/

inductive CommerceEvent
  | createTariffVersion (id : Uuid) (req : CommerceTariffVersionCreate)
  | updateTariffVersion (tariffId : String) (req : CommerceTariffVersionUpdate)
  | createPriceItem (id tariffVersionId : String) (req : CommercePriceItemCreate)
  | updatePriceItem (priceItemId : String) (req : CommercePriceItemUpdate)
  | createOrder (today : Int) (scopeAdvertiserIds : Option (List String))
      (req : CommerceQuoteRequest) (drawn : OrderDrawn)

/-- The tables after a call; one that raises is rolled back. -/
def afterCall {α : Type} (db : CommerceDb) : Except CommerceError (CommerceDb × α) → CommerceDb
  | .ok (db', _) => db'
  | .error _ => db

def commerceNext (db : CommerceDb) : CommerceEvent → CommerceDb
  | .createTariffVersion id req => afterCall db (createTariffVersion db id req)
  | .updateTariffVersion tariffId req => afterCall db (updateTariffVersion db tariffId req)
  | .createPriceItem id tariffVersionId req =>
      afterCall db (createPriceItem db id tariffVersionId req)
  | .updatePriceItem priceItemId req => afterCall db (updatePriceItem db priceItemId req)
  | .createOrder today scopeAdvertiserIds req drawn =>
      afterCall db (createOrder db today scopeAdvertiserIds req drawn)

/-- The price is added to the total of the request. -/
def Summed (db : CommerceDb) (today : Int) (req : CommerceQuoteRequest)
    (p : CommercePriceItem) : Prop :=
  ∃ t, getActiveTariffVersion db today (some req.tariffVersionId) = some t ∧
    ∃ l ∈ req.lines, db.priceOf t.id l.surfaceId = some p

/-- Every quote that can be made and every order that can be created has the currency of the prices
in its total. -/
structure SingleCurrency (db : CommerceDb) : Prop where
  quotes : ∀ today req quote, calculateOrderQuote db today req = .ok quote →
    ∀ p, Summed db today req p → p.currency = quote.currency
  orders : ∀ today scopeAdvertiserIds req drawn db' order,
    createOrder db today scopeAdvertiserIds req drawn = .ok (db', order) →
      ∀ p, Summed db today req p → p.currency = order.currency

/-- The prices of an active version are in its currency. -/
def Uniform (tariffVersions : List CommerceTariffVersion) (priceItems : List CommercePriceItem) :
    Prop :=
  ∀ t ∈ tariffVersions, t.status = "active" → ∀ p ∈ priceItems, p.tariffVersionId = t.id →
    p.currency = t.currency

/-- Nothing refuses the price item. -/
structure PriceAccepted (db : CommerceDb) (id tariffVersionId : String)
    (req : CommercePriceItemCreate) : Prop where
  unit : varchar 32 req.billingUnit = true
  currency : varchar 3 req.currency = true
  amount : PyDecimal.store 12 req.unitPriceAmount ≠ none
  newId : id ∉ db.priceItems.map (·.id)
  newKey : ∀ p ∈ db.priceItems, p.key ≠ (tariffVersionId, req.surfaceId)
  tariff : tariffVersionId ∈ db.tariffVersions.map (·.id)
  surface : req.surfaceId ∈ db.displaySurfaces

/-- A price that enters an active version has its currency, and so have the prices of a version
that becomes active. -/
def KeepsCurrency (db : CommerceDb) : CommerceEvent → Prop
  | .createPriceItem id tariffVersionId req =>
      PriceAccepted db id tariffVersionId req → ∀ t ∈ db.tariffVersions, t.id = tariffVersionId →
        t.status = "active" → req.currency = t.currency
  | .updateTariffVersion tariffId req =>
      req.status = some "active" → req.name.all (varchar 255) = true →
        ∀ t ∈ db.tariffVersions, t.id = tariffId →
        ∀ p ∈ db.priceItems, p.tariffVersionId = t.id → p.currency = t.currency
  | _ => True

/-! ## One state -/

section State

variable {db : CommerceDb}

theorem singleCurrency_of_uniform (h : Uniform db.tariffVersions db.priceItems) :
    SingleCurrency db := by
  have hsummed {today : Int} {req : CommerceQuoteRequest} {t : CommerceTariffVersion}
      (ht : getActiveTariffVersion db today (some req.tariffVersionId) = some t)
      {p : CommercePriceItem} (hp : Summed db today req p) : p.currency = t.currency := by
    obtain ⟨t', ht', l, -, hprice⟩ := hp
    rw [ht] at ht'
    cases ht'
    obtain ⟨hitem, htariff, -⟩ := priceOf_eq_some.1 hprice
    obtain ⟨hmem, hactive⟩ := getActive_mem ht
    exact h t hmem hactive p hitem htariff
  constructor
  · intro today req quote hquote p hp
    obtain ⟨t, ht, -⟩ := id hp
    rw [calculateOrderQuote_some ht] at hquote
    cases hquote
    exact hsummed ht hp
  · intro today scopeAdvertiserIds req drawn db' order horder p hp
    obtain ⟨t, ht, -, hrow, -⟩ := createOrder_ok horder
    rw [hrow]
    exact hsummed ht hp

/-- A quote of one line, on any version and surface. -/
def lineQuote (tariffVersionId surfaceId : String) : CommerceQuoteRequest where
  tariffVersionId := tariffVersionId
  advertiserOrganizationId := ""
  lines := [{ surfaceId := surfaceId, dateFrom := 0, dateTo := 0 }]

/-- What is not uniform shows in a quote. -/
theorem uniform_of_singleCurrency (h : SingleCurrency db) :
    Uniform db.tariffVersions db.priceItems := by
  intro t ht hactive p hp htariff
  have hid : t.id ≠ "" := by
    intro hempty
    have hin : t.id ∈ db.tariffVersions.map (·.id) := List.mem_map_of_mem ht
    rw [hempty] at hin
    exact db.tariffNamed hin
  have hfound : getActiveTariffVersion db 0 (some (lineQuote t.id p.surfaceId).tariffVersionId) =
      some t := (getActive_named hid).2 ⟨ht, rfl, hactive⟩
  have hprice : db.priceOf t.id p.surfaceId = some p := priceOf_eq_some.2 ⟨hp, htariff, rfl⟩
  exact h.quotes 0 (lineQuote t.id p.surfaceId) _ (calculateOrderQuote_some hfound) p
    ⟨t, hfound, _, List.mem_singleton_self _, hprice⟩

theorem singleCurrency_iff_uniform :
    SingleCurrency db ↔ Uniform db.tariffVersions db.priceItems :=
  ⟨uniform_of_singleCurrency, singleCurrency_of_uniform⟩

end State

/-! ## One event -/

section Step

variable {db : CommerceDb}

theorem createTariffVersion_uniform (id : Uuid) (req : CommerceTariffVersionCreate)
    (h : Uniform db.tariffVersions db.priceItems) :
    Uniform (commerceNext db (.createTariffVersion id req)).tariffVersions
      (commerceNext db (.createTariffVersion id req)).priceItems := by
  show Uniform (afterCall db (createTariffVersion db id req)).tariffVersions
    (afterCall db (createTariffVersion db id req)).priceItems
  unfold createTariffVersion
  split
  · exact h
  · split
    · intro t ht hactive
      rcases List.mem_append.1 ht with hold | hnew
      · exact h t hold hactive
      · -- a new version is a draft
        rw [List.mem_singleton.1 hnew] at hactive
        exact absurd hactive (by decide : "draft" ≠ "active")
    · exact h

theorem updatePriceItem_uniform (priceItemId : String) (req : CommercePriceItemUpdate)
    (h : Uniform db.tariffVersions db.priceItems) :
    Uniform (commerceNext db (.updatePriceItem priceItemId req)).tariffVersions
      (commerceNext db (.updatePriceItem priceItemId req)).priceItems := by
  show Uniform (afterCall db (updatePriceItem db priceItemId req)).tariffVersions
    (afterCall db (updatePriceItem db priceItemId req)).priceItems
  unfold updatePriceItem
  split
  · exact h
  · dsimp only
    split
    · exact h
    · intro t ht hactive p hp
      obtain ⟨old, hold, rfl⟩ := Rows.mem_updateWhere.1 hp
      split
      · exact h t ht hactive old hold
      · exact h t ht hactive old hold

theorem createOrder_uniform (today : Int) (scopeAdvertiserIds : Option (List String))
    (req : CommerceQuoteRequest) (drawn : OrderDrawn)
    (h : Uniform db.tariffVersions db.priceItems) :
    Uniform (commerceNext db (.createOrder today scopeAdvertiserIds req drawn)).tariffVersions
      (commerceNext db (.createOrder today scopeAdvertiserIds req drawn)).priceItems := by
  show Uniform (afterCall db (createOrder db today scopeAdvertiserIds req drawn)).tariffVersions
    (afterCall db (createOrder db today scopeAdvertiserIds req drawn)).priceItems
  cases horder : createOrder db today scopeAdvertiserIds req drawn with
  | error e => exact h
  | ok result =>
      obtain ⟨db', order⟩ := result
      obtain ⟨t, -, -, -, hdb⟩ := createOrder_ok horder
      show Uniform db'.tariffVersions db'.priceItems
      rw [hdb]
      exact h

/-- Uniform tables stay so when a price enters exactly if it is not of another currency than the
active version that it enters. -/
theorem uniform_concat_iff {tariffVersions : List CommerceTariffVersion}
    {priceItems : List CommercePriceItem} {item : CommercePriceItem}
    (h : Uniform tariffVersions priceItems) :
    Uniform tariffVersions (priceItems ++ [item]) ↔ ∀ t ∈ tariffVersions,
      t.id = item.tariffVersionId → t.status = "active" → item.currency = t.currency := by
  constructor
  · intro hall t ht hid hactive
    exact hall t ht hactive item (List.mem_append_right _ (List.mem_singleton_self _)) hid.symm
  · intro hitem t ht hactive p hp hid
    rcases List.mem_append.1 hp with hold | hnew
    · exact h t ht hactive p hold hid
    · rw [List.mem_singleton.1 hnew] at hid ⊢
      exact hitem t ht hid.symm hactive

theorem createPriceItem_accepted {id tariffVersionId : String} {req : CommercePriceItemCreate}
    (h : PriceAccepted db id tariffVersionId req) :
    ∃ amount, (commerceNext db (.createPriceItem id tariffVersionId req)).tariffVersions =
        db.tariffVersions ∧
      (commerceNext db (.createPriceItem id tariffVersionId req)).priceItems =
        db.priceItems ++ [req.row id tariffVersionId amount] := by
  obtain ⟨amount, hamount⟩ := Option.ne_none_iff_exists'.1 h.amount
  have hcreate : commerceNext db (.createPriceItem id tariffVersionId req) =
      afterCall db (createPriceItem db id tariffVersionId req) := rfl
  unfold createPriceItem at hcreate
  rw [if_neg (not_not.2 ⟨h.unit, h.currency⟩), hamount] at hcreate
  dsimp only at hcreate
  have hkeys : id ∉ db.priceItems.map (·.id) ∧
      (∀ p ∈ db.priceItems, p.key ≠ (req.row id tariffVersionId amount).key) ∧
      (req.row id tariffVersionId amount).tariffVersionId ∈ db.tariffVersions.map (·.id) ∧
      (req.row id tariffVersionId amount).surfaceId ∈ db.displaySurfaces :=
    ⟨h.newId, h.newKey, h.tariff, h.surface⟩
  rw [dif_pos hkeys] at hcreate
  rw [hcreate]
  exact ⟨amount, rfl, rfl⟩

theorem createPriceItem_refused {id tariffVersionId : String} {req : CommercePriceItemCreate}
    (h : ¬ PriceAccepted db id tariffVersionId req) :
    commerceNext db (.createPriceItem id tariffVersionId req) = db := by
  show afterCall db (createPriceItem db id tariffVersionId req) = db
  unfold createPriceItem
  split
  · rfl
  · split
    · rfl
    · dsimp only
      split
      · -- all that could refuse it has been passed
        rename_i hunit _ amount hamount hkeys
        have hnone : PyDecimal.store 12 req.unitPriceAmount ≠ none := by
          rw [hamount]
          exact Option.some_ne_none amount
        obtain ⟨hunit, hcurrency⟩ := not_not.1 hunit
        exact absurd ⟨hunit, hcurrency, hnone, hkeys.1, hkeys.2.1, hkeys.2.2.1, hkeys.2.2.2⟩ h
      · rfl

theorem createPriceItem_uniform_iff (id tariffVersionId : String) (req : CommercePriceItemCreate)
    (h : Uniform db.tariffVersions db.priceItems) :
    Uniform (commerceNext db (.createPriceItem id tariffVersionId req)).tariffVersions
        (commerceNext db (.createPriceItem id tariffVersionId req)).priceItems ↔
      KeepsCurrency db (.createPriceItem id tariffVersionId req) := by
  by_cases haccepted : PriceAccepted db id tariffVersionId req
  · obtain ⟨amount, htariffs, hitems⟩ := createPriceItem_accepted haccepted
    rw [htariffs, hitems, uniform_concat_iff h]
    constructor
    · intro hitem _
      exact hitem
    · intro hguard
      exact hguard haccepted
  · rw [createPriceItem_refused haccepted]
    constructor
    · intro _ hyes
      exact absurd hyes haccepted
    · intro _
      exact h

/-- After an update of the version, the tables are uniform exactly if its prices are in its
currency where it comes out active. -/
theorem uniform_updateWhere_iff {tariffId : String} {req : CommerceTariffVersionUpdate}
    {tariffVersions : List CommerceTariffVersion} {priceItems : List CommercePriceItem}
    (h : Uniform tariffVersions priceItems) :
    Uniform (Rows.updateWhere (·.id = tariffId) req.apply tariffVersions) priceItems ↔
      ∀ t ∈ tariffVersions, t.id = tariffId → (req.apply t).status = "active" →
        ∀ p ∈ priceItems, p.tariffVersionId = t.id → p.currency = t.currency := by
  constructor
  · intro hall t ht hid hactive p hp hprice
    have hmem : req.apply t ∈ Rows.updateWhere (·.id = tariffId) req.apply tariffVersions :=
      Rows.mem_updateWhere.2 ⟨t, ht, if_pos (decide_eq_true hid)⟩
    exact hall (req.apply t) hmem hactive p hp hprice
  · intro hitems t ht hactive p hp hprice
    obtain ⟨old, hold, rfl⟩ := Rows.mem_updateWhere.1 ht
    by_cases hid : old.id = tariffId
    · rw [if_pos (decide_eq_true hid)] at hactive hprice ⊢
      exact hitems old hold hid hactive p hp hprice
    · have hother : ¬ decide (old.id = tariffId) = true := by
        rw [decide_eq_true_eq]
        exact hid
      rw [if_neg hother] at hactive hprice ⊢
      exact h old hold hactive p hp hprice

theorem updateTariffVersion_uniform_iff (tariffId : String) (req : CommerceTariffVersionUpdate)
    (h : Uniform db.tariffVersions db.priceItems) :
    Uniform (commerceNext db (.updateTariffVersion tariffId req)).tariffVersions
        (commerceNext db (.updateTariffVersion tariffId req)).priceItems ↔
      KeepsCurrency db (.updateTariffVersion tariffId req) := by
  show Uniform (afterCall db (updateTariffVersion db tariffId req)).tariffVersions
      (afterCall db (updateTariffVersion db tariffId req)).priceItems ↔
    (req.status = some "active" → req.name.all (varchar 255) = true →
      ∀ t ∈ db.tariffVersions, t.id = tariffId →
      ∀ p ∈ db.priceItems, p.tariffVersionId = t.id → p.currency = t.currency)
  unfold updateTariffVersion
  split
  · -- no version has the id
    rename_i hnone
    constructor
    · intro _ _ _ t ht hid
      exact absurd hid (Rows.get_eq_none.1 hnone t ht)
    · intro _
      exact h
  · split
    · -- the column takes the active status, so that it is the name that is refused
      rename_i hrefused
      constructor
      · intro _ hstatus hname
        rw [hstatus] at hrefused
        exact absurd ⟨hname, by decide⟩ hrefused
      · intro _
        exact h
    · rename_i haccepted
      refine (uniform_updateWhere_iff h).trans ?_
      constructor
      · intro hitems hstatus _ t ht hid
        apply hitems t ht hid
        show req.status.getD t.status = "active"
        rw [hstatus]
        rfl
      · intro hguard t ht hid hactive
        cases hstatus : req.status with
        | none =>
            -- it was active already
            have hkept : (req.apply t).status = t.status := congrArg (·.getD t.status) hstatus
            exact h t ht (hkept ▸ hactive)
        | some status =>
            have hset : (req.apply t).status = status := congrArg (·.getD t.status) hstatus
            rw [hset] at hactive
            rw [hactive] at hstatus
            exact hguard hstatus (not_not.1 haccepted).1 t ht hid

theorem commerceNext_singleCurrency (h : SingleCurrency db) (e : CommerceEvent) :
    SingleCurrency (commerceNext db e) ↔ KeepsCurrency db e := by
  rw [singleCurrency_iff_uniform] at h ⊢
  cases e with
  | createTariffVersion id req => exact iff_of_true (createTariffVersion_uniform id req h) trivial
  | updateTariffVersion tariffId req => exact updateTariffVersion_uniform_iff tariffId req h
  | createPriceItem id tariffVersionId req =>
      exact createPriceItem_uniform_iff id tariffVersionId req h
  | updatePriceItem priceItemId req =>
      exact iff_of_true (updatePriceItem_uniform priceItemId req h) trivial
  | createOrder today scopeAdvertiserIds req drawn =>
      exact iff_of_true (createOrder_uniform today scopeAdvertiserIds req drawn h) trivial

end Step

/-! ## Runs from empty tables -/

def noTariffs (displaySurfaces advertiserOrganizations : List String) : CommerceDb where
  displaySurfaces := displaySurfaces
  advertiserOrganizations := advertiserOrganizations
  priceSurfaces := by
    intro p hp
    cases hp

theorem noTariffs_singleCurrency (displaySurfaces advertiserOrganizations : List String) :
    SingleCurrency (noTariffs displaySurfaces advertiserOrganizations) := by
  apply singleCurrency_of_uniform
  intro t ht
  cases ht

/-- In every run: the totals of all its states are of one currency exactly if each price enters an
active version in the currency of the version, or is in it when the version becomes active. -/
theorem singleCurrency_iff (displaySurfaces advertiserOrganizations : List String)
    (l : List CommerceEvent) :
    Run.Always commerceNext SingleCurrency (noTariffs displaySurfaces advertiserOrganizations) l ↔
      Run.Guarded commerceNext KeepsCurrency (noTariffs displaySurfaces advertiserOrganizations)
        l := by
  have hinv : ∀ (db : CommerceDb) (e : CommerceEvent), True → True → True := by
    intros
    trivial
  have hstep : ∀ (db : CommerceDb) (e : CommerceEvent), True → True → SingleCurrency db →
      (SingleCurrency (commerceNext db e) ↔ KeepsCurrency db e) := by
    intro db e _ _ h
    exact commerceNext_singleCurrency h e
  exact Run.always_iff_guarded hinv hstep (fun _ _ ↦ trivial) trivial
    (noTariffs_singleCurrency displaySurfaces advertiserOrganizations)

/-! A version in dollars, with the price of a request that names no currency. -/

def dollarRun : List CommerceEvent := [
  .createTariffVersion { text := "tv-1" }
    { code := "USD-2026", name := "Dollar prices", validFrom := 20454, currency := "USD" },
  .updateTariffVersion "tv-1" { status := some "active" },
  .createPriceItem "pi-1" "tv-1"
    { surfaceId := "s-1"
      unitPriceAmount := PyDecimal.floatOfCents 15000
      positive := PyDecimal.floatOfCents_ne_zero (by decide) }]

theorem dollar_version_rouble_price : ¬ ∀ (displaySurfaces advertiserOrganizations : List String)
    (l : List CommerceEvent),
    Run.Always commerceNext SingleCurrency (noTariffs displaySurfaces advertiserOrganizations)
      l := by
  intro h
  have hsingle : Run.Always commerceNext SingleCurrency (noTariffs ["s-1"] []) dollarRun :=
    h ["s-1"] [] dollarRun
  obtain ⟨-, -, hactive, hprice⟩ := hsingle
  have hkeeps := (commerceNext_singleCurrency hactive _).1 hprice
  have hrouble : "RUB" = "USD" := by
    refine hkeeps ?_ _ (List.mem_singleton_self _) rfl rfl
    constructor
    · decide
    · decide
    · rw [PyDecimal.store_floatOfCents (by decide), if_pos (by decide)]
      exact Option.some_ne_none 15000
    all_goals decide
  exact absurd hrouble (by decide)

end RetailMedia
