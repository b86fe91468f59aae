import RetailMedia.Commerce.Amounts

/-! Which versions quotes and orders are priced with, and whether these are in force. -/

namespace RetailMedia

/-- Active, and valid on the day; the days of the period are both in it. -/
def CommerceTariffVersion.InForce (t : CommerceTariffVersion) (today : Int) : Prop :=
  t.status = "active" ∧ t.validFrom ≤ today ∧ ∀ day, t.validTo = some day → today ≤ day

def SomeInForce (db : CommerceDb) (today : Int) : Prop :=
  ∃ t ∈ db.tariffVersions, t.InForce today

def InForceId (db : CommerceDb) (today : Int) (tariffVersionId : String) : Prop :=
  ∃ t ∈ db.tariffVersions, t.id = tariffVersionId ∧ t.InForce today

def CommerceQuoteRequest.naming (req : CommerceQuoteRequest) (tariffVersionId : String) :
    CommerceQuoteRequest := { req with tariffVersionId := tariffVersionId }

inductive CommerceRequest
  | quote (req : CommerceQuoteRequest)
  | order (scopeAdvertiserIds : Option (List String)) (req : CommerceQuoteRequest)
      (drawn : OrderDrawn)

/-! ## The property -/

section Property

variable (db : CommerceDb) (today : Int)

/-- No line is priced but from a version in force; and when none is named and one is in force, the
quote is made with such a version. -/
structure QuoteInForce (req : CommerceQuoteRequest) : Prop where
  only : ∀ quote, calculateOrderQuote db today req = .ok quote →
    (∃ l ∈ quote.lines, l.error = none) → InForceId db today quote.tariffVersionId
  used : req.tariffVersionId = "" → SomeInForce db today →
    ∃ quote, calculateOrderQuote db today req = .ok quote ∧
      InForceId db today quote.tariffVersionId

/-- No order is created but from a version in force; and when none is named and one is in force,
such a version is found, and the order is created on it if a request that names it gets one. -/
structure OrderInForce (scopeAdvertiserIds : Option (List String)) (req : CommerceQuoteRequest)
    (drawn : OrderDrawn) : Prop where
  only : ∀ db' order, createOrder db today scopeAdvertiserIds req drawn = .ok (db', order) →
    InForceId db today order.tariffVersionId
  used : req.tariffVersionId = "" → SomeInForce db today →
    ∃ t, getActiveTariffVersion db today (some req.tariffVersionId) = some t ∧
      t.InForce today ∧
      ((createOrder db today scopeAdvertiserIds (req.naming t.id) drawn).isOk = true →
        (createOrder db today scopeAdvertiserIds req drawn).isOk = true)

def OnlyInForce : CommerceRequest → Prop
  | .quote req => QuoteInForce db today req
  | .order scopeAdvertiserIds req drawn => OrderInForce db today scopeAdvertiserIds req drawn

/-- The latest started of the active versions, the first of several, whether or not it has ended. -/
def LatestStarted (t : CommerceTariffVersion) : Prop :=
  ∃ before after,
    (db.tariffVersions.filter fun t ↦ t.status = "active" ∧ t.validFrom ≤ today) =
      before ++ t :: after ∧
    (∀ other ∈ before, other.validFrom < t.validFrom) ∧
    ∀ other ∈ after, other.validFrom ≤ t.validFrom

/-- The version that the request's id leads to. -/
structure VersionFound (tariffVersionId : String) (t : CommerceTariffVersion) : Prop where
  named : tariffVersionId ≠ "" →
    t ∈ db.tariffVersions ∧ t.id = tariffVersionId ∧ t.status = "active"
  unnamed : tariffVersionId = "" → LatestStarted db today t

/-- The version found is in force; or else no surface of the request has a price in it, and a
version was named or none is in force. -/
def QuoteFound (req : CommerceQuoteRequest) : Prop :=
  ∀ t, VersionFound db today req.tariffVersionId t →
    t.InForce today ∨ (∀ l ∈ req.lines, db.priceOf t.id l.surfaceId = none) ∧
      (req.tariffVersionId = "" → ¬ SomeInForce db today)

/-- The version named is in force, or the order lacks something else.  When none is named: none is
in force; or the one found is, and the order would lack something else if it named it. -/
structure OrderFound (scopeAdvertiserIds : Option (List String)) (req : CommerceQuoteRequest)
    (drawn : OrderDrawn) : Prop where
  named : req.tariffVersionId ≠ "" →
    ∀ t, VersionFound db today req.tariffVersionId t →
      t.InForce today ∨ ¬ Orderable db scopeAdvertiserIds req drawn t
  unnamed : req.tariffVersionId = "" → SomeInForce db today →
    ∃ t, VersionFound db today req.tariffVersionId t ∧
      t.InForce today ∧ ¬ Orderable db scopeAdvertiserIds (req.naming t.id) drawn t

def FoundInForce : CommerceRequest → Prop
  | .quote req => QuoteFound db today req
  | .order scopeAdvertiserIds req drawn => OrderFound db today scopeAdvertiserIds req drawn

end Property

/-! ## The version found -/

section InForce

variable {db : CommerceDb} {today : Int} {t : CommerceTariffVersion}

theorem getActive_eq_some_iff {tariffVersionId : String} :
    getActiveTariffVersion db today (some tariffVersionId) = some t ↔
      VersionFound db today tariffVersionId t := by
  -- an empty id is no name: the lookup then goes by the start of the period
  by_cases hid : tariffVersionId = ""
  · subst hid
    rw [getActive_unnamed, Rows.newest_eq_some_iff]
    constructor
    · intro h
      exact ⟨fun hnamed ↦ absurd rfl hnamed, fun _ ↦ h⟩
    · intro h
      exact h.unnamed rfl
  · rw [getActive_named hid]
    constructor
    · intro h
      exact ⟨fun _ ↦ h, fun hempty ↦ absurd hempty hid⟩
    · intro h
      exact h.named hid

/-- If some version is in force, a request that names none finds a version. -/
theorem getActive_isSome (h : SomeInForce db today) :
    ∃ t, getActiveTariffVersion db today (some "") = some t := by
  obtain ⟨t, hmem, hactive, hfrom, -⟩ := h
  apply Option.ne_none_iff_exists'.1
  intro hnone
  rw [getActive_unnamed] at hnone
  have hfilter : t ∈ db.tariffVersions.filter fun t ↦
      t.status = "active" ∧ t.validFrom ≤ today :=
    List.mem_filter.2 ⟨hmem, decide_eq_true ⟨hactive, hfrom⟩⟩
  rw [Rows.newest_eq_none.1 hnone] at hfilter
  cases hfilter

/-- An id is that of one version. -/
theorem inForceId_iff (h : t ∈ db.tariffVersions) :
    InForceId db today t.id ↔ t.InForce today := by
  constructor
  · intro hid
    obtain ⟨other, hmem, hsame, hother⟩ := hid
    rw [← Rows.key_inj db.tariffIds hmem h hsame]
    exact hother
  · intro hforce
    exact ⟨t, h, rfl, hforce⟩

/-! ## Quotes -/

section Quotes

variable {req : CommerceQuoteRequest}

theorem quotedLine_error (l : CommerceOrderLineCreate) :
    (db.quotedLine t l).error = none ↔ db.priceOf t.id l.surfaceId ≠ none := by
  unfold CommerceDb.quotedLine
  cases db.priceOf t.id l.surfaceId with
  | none => simp [refusedLine]
  | some item => simp [pricedLine]

theorem quoteFor_priced :
    (∃ l ∈ (db.quoteFor t req).lines, l.error = none) ↔
      ¬ ∀ l ∈ req.lines, db.priceOf t.id l.surfaceId = none := by
  rw [quoteFor_lines]
  simp [quotedLine_error]

/-- Without a version, nothing is priced. -/
theorem quoteInForce_of_none
    (ht : getActiveTariffVersion db today (some req.tariffVersionId) = none) :
    QuoteInForce db today req := by
  constructor
  · intro quote hquote hpriced
    rw [calculateOrderQuote_none ht] at hquote
    cases hquote
    obtain ⟨l, hl, -⟩ := hpriced
    cases hl
  · intro hid hforce
    obtain ⟨t, hsome⟩ := getActive_isSome hforce
    rw [hid, hsome] at ht
    cases ht

/-- With one, the quote is that version's. -/
theorem quoteInForce_of_some
    (ht : getActiveTariffVersion db today (some req.tariffVersionId) = some t) :
    QuoteInForce db today req ↔ t.InForce today ∨
      (∀ l ∈ req.lines, db.priceOf t.id l.surfaceId = none) ∧
        (req.tariffVersionId = "" → ¬ SomeInForce db today) := by
  have hquote := calculateOrderQuote_some ht
  have hversion : InForceId db today (db.quoteFor t req).tariffVersionId ↔ t.InForce today :=
    inForceId_iff (getActive_mem ht).1
  constructor
  · intro h
    by_cases hforce : t.InForce today
    · exact .inl hforce
    · right
      constructor
      · by_contra hpriced
        exact hforce (hversion.1 (h.only _ hquote (quoteFor_priced.2 hpriced)))
      · intro hid hsome
        obtain ⟨quote, hother, hused⟩ := h.used hid hsome
        rw [hquote] at hother
        cases hother
        exact hforce (hversion.1 hused)
  · intro h
    constructor
    · intro quote hother hpriced
      rw [hquote] at hother
      cases hother
      rcases h with hforce | hnone
      · exact hversion.2 hforce
      · exact absurd hnone.1 (quoteFor_priced.1 hpriced)
    · intro hid hsome
      rcases h with hforce | hnone
      · exact ⟨db.quoteFor t req, hquote, hversion.2 hforce⟩
      · exact absurd hsome (hnone.2 hid)

theorem quoteInForce_iff : QuoteInForce db today req ↔ QuoteFound db today req := by
  unfold QuoteFound
  simp only [← getActive_eq_some_iff]
  cases ht : getActiveTariffVersion db today (some req.tariffVersionId) with
  | none =>
      constructor
      · intro _ t hnone
        exact absurd hnone (by simp)
      · intro _
        exact quoteInForce_of_none ht
  | some t =>
      rw [quoteInForce_of_some ht]
      simp

end Quotes

/-! ## Orders -/

section Orders

variable {scopeAdvertiserIds : Option (List String)} {req : CommerceQuoteRequest}
  {drawn : OrderDrawn}

/-- An order that names no version is never created: its foreign key fails. -/
theorem createOrder_unnamed (hid : req.tariffVersionId = "") :
    (createOrder db today scopeAdvertiserIds req drawn).isOk = false := by
  cases h : createOrder db today scopeAdvertiserIds req drawn with
  | error e => rfl
  | ok result =>
      obtain ⟨t, -, hall, -, -⟩ := createOrder_ok h
      exact absurd hid hall.named

theorem createOrder_isOk_iff
    (ht : getActiveTariffVersion db today (some req.tariffVersionId) = some t) :
    (createOrder db today scopeAdvertiserIds req drawn).isOk = true ↔
      Orderable db scopeAdvertiserIds req drawn t := by
  constructor
  · intro hok
    cases h : createOrder db today scopeAdvertiserIds req drawn with
    | error e =>
        rw [h] at hok
        cases hok
    | ok result =>
        obtain ⟨t', ht', hall, -, -⟩ := createOrder_ok h
        rw [ht] at ht'
        cases ht'
        exact hall
  · intro hall
    rw [createOrder_of_orderable ht hall]
    rfl

theorem orderInForce_of_named (hid : req.tariffVersionId ≠ "") :
    OrderInForce db today scopeAdvertiserIds req drawn ↔
      ∀ t, getActiveTariffVersion db today (some req.tariffVersionId) = some t →
        t.InForce today ∨ ¬ Orderable db scopeAdvertiserIds req drawn t := by
  constructor
  · intro h t ht
    by_cases hall : Orderable db scopeAdvertiserIds req drawn t
    · left
      have hforce := h.only _ _ (createOrder_of_orderable ht hall)
      have hsame : (db.orderFor t req drawn).tariffVersionId = t.id := (hall.tariff_id ht).symm
      rw [hsame] at hforce
      exact (inForceId_iff (getActive_mem ht).1).1 hforce
    · exact .inr hall
  · intro h
    constructor
    · intro db' order horder
      obtain ⟨t, ht, hall, hrow, -⟩ := createOrder_ok horder
      have hsame : order.tariffVersionId = t.id := by
        rw [hrow]
        exact (hall.tariff_id ht).symm
      rw [hsame]
      rcases h t ht with hforce | hnot
      · exact (inForceId_iff (getActive_mem ht).1).2 hforce
      · exact absurd hall hnot
    · intro hempty
      exact absurd hempty hid

/-- A version that is found without a name is found by its name. -/
theorem getActive_naming
    (ht : getActiveTariffVersion db today (some req.tariffVersionId) = some t) :
    getActiveTariffVersion db today (some (req.naming t.id).tariffVersionId) = some t := by
  obtain ⟨hmem, hactive⟩ := getActive_mem ht
  have hid : t.id ≠ "" := by
    intro hempty
    have hin : t.id ∈ db.tariffVersions.map (·.id) := List.mem_map_of_mem hmem
    rw [hempty] at hin
    exact db.tariffNamed hin
  exact (getActive_named hid).2 ⟨hmem, rfl, hactive⟩

theorem orderInForce_of_unnamed (hid : req.tariffVersionId = "") :
    OrderInForce db today scopeAdvertiserIds req drawn ↔
      (SomeInForce db today →
        ∃ t, getActiveTariffVersion db today (some req.tariffVersionId) = some t ∧
          t.InForce today ∧ ¬ Orderable db scopeAdvertiserIds (req.naming t.id) drawn t) := by
  have hnever : (createOrder db today scopeAdvertiserIds req drawn).isOk = false :=
    createOrder_unnamed hid
  constructor
  · intro h hsome
    obtain ⟨t, ht, hforce, hcreated⟩ := h.used hid hsome
    refine ⟨t, ht, hforce, ?_⟩
    intro hall
    have hok := hcreated ((createOrder_isOk_iff (getActive_naming ht)).2 hall)
    rw [hnever] at hok
    cases hok
  · intro h
    constructor
    · intro db' order horder
      rw [horder] at hnever
      cases hnever
    · intro _ hsome
      obtain ⟨t, ht, hforce, hnot⟩ := h hsome
      refine ⟨t, ht, hforce, ?_⟩
      intro hok
      exact absurd ((createOrder_isOk_iff (getActive_naming ht)).1 hok) hnot

theorem orderInForce_iff : OrderInForce db today scopeAdvertiserIds req drawn ↔
    OrderFound db today scopeAdvertiserIds req drawn := by
  by_cases hid : req.tariffVersionId = ""
  · rw [orderInForce_of_unnamed hid]
    simp only [getActive_eq_some_iff]
    constructor
    · intro h
      exact ⟨fun hnamed ↦ absurd hid hnamed, fun _ ↦ h⟩
    · intro h
      exact h.unnamed hid
  · rw [orderInForce_of_named hid]
    simp only [getActive_eq_some_iff]
    constructor
    · intro h
      exact ⟨fun _ ↦ h, fun hempty ↦ absurd hempty hid⟩
    · intro h
      exact h.named hid

end Orders

end InForce

/-- For every request: nothing comes from a version that is not in force exactly if the version
found is in force, or nothing could come of it. -/
theorem onlyInForce_iff (db : CommerceDb) (today : Int) (r : CommerceRequest) :
    OnlyInForce db today r ↔ FoundInForce db today r := by
  cases r with
  | quote req => exact quoteInForce_iff
  | order scopeAdvertiserIds req drawn => exact orderInForce_iff

/-! A version whose period ended before the day of the request. -/

def expiredVersion : CommerceTariffVersion where
  id := "tv-1"
  code := "BASE"
  name := "Base prices"
  status := "active"
  validFrom := 20454
  validTo := some 20484

def expiredPrices : CommerceDb where
  tariffVersions := [expiredVersion]
  priceItems := [
    { id := "pi-1", tariffVersionId := "tv-1", surfaceId := "s-1", unitPriceAmount := 15000 }]
  displaySurfaces := ["s-1"]

def oneDay : CommerceQuoteRequest where
  tariffVersionId := "tv-1"
  advertiserOrganizationId := "org-1"
  lines := [{ surfaceId := "s-1", dateFrom := 20667, dateTo := 20667 }]

theorem expired_version_priced : ¬ ∀ (db : CommerceDb) (today : Int) (r : CommerceRequest),
    OnlyInForce db today r := by
  intro h
  have hquote : QuoteInForce expiredPrices 20660 oneDay := h expiredPrices 20660 (.quote oneDay)
  have hpriced : ¬ ∀ l ∈ oneDay.lines,
      expiredPrices.priceOf "tv-1" l.surfaceId = none := by
    decide
  have hfound : VersionFound expiredPrices 20660 oneDay.tariffVersionId expiredVersion :=
    ⟨fun _ ↦ ⟨List.mem_singleton_self _, rfl, rfl⟩, nofun⟩
  rcases quoteInForce_iff.1 hquote expiredVersion hfound with hforce | hnone
  · exact absurd (hforce.2.2 20484 rfl) (by decide)
  · exact hpriced hnone.1

end RetailMedia
