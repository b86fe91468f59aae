import RetailMedia.Campaign.Mutations
import RetailMedia.Pop.Ingestion
import RetailMedia.Lib.FreshName
import RetailMedia.Lib.PyInt
import RetailMedia.Lib.Rows
import RetailMedia.Lib.Run
import Mathlib

/-! The codes of advertiser organizations: chosen by the caller, or numbered within a year. -/

namespace RetailMedia

/-! ## Creation -/

structure Year where
  value : Nat
  proper : 1 ≤ value ∧ value ≤ 9999 := by decide

/-- An advertiser organization, with the columns that its creation writes. -/
structure NamedOrganization where
  id : String
  code : String
  legalName : String
  displayName : String
  status : String := "active"
  deriving DecidableEq, Repr

/-- Only administrators create, and they see every row. -/
structure AdvertiserDb where
  organizations : List NamedOrganization := []
  ids : (organizations.map (·.id)).Nodup := by decide
  uniqueCodes : (organizations.map (·.code)).Nodup := by decide

def AdvertiserDb.codes (db : AdvertiserDb) : List String := db.organizations.map (·.code)

inductive AdvertiserError
  | runtimeError (message : String)
  | integrityError
  | dataError
  deriving DecidableEq, Repr

structure AdvertiserOrganizationCreate where
  code : Option String := none
  legalName : String
  displayName : String
  codeLength : code.elim true (lengthWithin 1 64) = true := by decide
  legalNameLength : lengthWithin 1 255 legalName = true := by decide
  displayNameLength : lengthWithin 1 255 displayName = true := by decide

def maxAttempts : Nat := 5

def codePrefix (year : Year) : List Char := "ADV-".toList ++ Nat.toDigits 10 year.value ++ ['-']

def ofYear (year : Year) (code : String) : Bool := (codePrefix year).isPrefixOf code.toList

/-- The first in descending order of code points. -/
def lastCode (codes : List String) (year : Year) : Option String :=
  (codes.filter (ofYear year)).argmax String.toList

def candidate (year : Year) (nextNum : Int) : String :=
  String.ofList (codePrefix year ++ PyInt.padded 4 nextNum)

def nextNum (codes : List String) (year : Year) : Int :=
  match lastCode codes year with
  | some last =>
      match PyInt.readInt (last.toList.drop (codePrefix year).length) with
      | some n => n + 1
      | none => 1
  | none => 1

def tryCandidates (codes : List String) (year : Year) :
    (attempts : Nat) → (nextNum : Int) → Except AdvertiserError String
  | 0, _ =>
      .error (.runtimeError "Failed to generate unique advertiser code after 5 attempts")
  | attempts + 1, nextNum =>
      if codes.contains (candidate year nextNum) then
        tryCandidates codes year attempts (nextNum + 1)
      else .ok (candidate year nextNum)

def generateAdvertiserOrgCode (codes : List String) (year : Year) :
    Except AdvertiserError String :=
  tryCandidates codes year maxAttempts (nextNum codes year)

def AdvertiserOrganizationCreate.row (req : AdvertiserOrganizationCreate) (id code : String) :
    NamedOrganization where
  id := id
  code := code
  legalName := req.legalName
  displayName := req.displayName

def NamedOrganization.fits (organization : NamedOrganization) : Bool :=
  fitsText 64 organization.code && fitsText 255 organization.legalName &&
    fitsText 255 organization.displayName

def insertOrganization (db : AdvertiserDb) (organization : NamedOrganization) :
    Except AdvertiserError (AdvertiserDb × NamedOrganization) :=
  if organization.fits = false then .error .dataError
  else if h : organization.id ∉ db.organizations.map (·.id) ∧
      organization.code ∉ db.organizations.map (·.code) then
    .ok ({ db with
      organizations := db.organizations ++ [organization]
      ids := by
        rw [List.map_append]
        exact Rows.nodup_concat db.ids h.1
      uniqueCodes := by
        rw [List.map_append]
        exact Rows.nodup_concat db.uniqueCodes h.2 }, organization)
  else .error .integrityError

def codeFor (db : AdvertiserDb) (year : Year) (req : AdvertiserOrganizationCreate) :
    Except AdvertiserError String :=
  match req.code with
  | some code => .ok code
  | none => generateAdvertiserOrgCode db.codes year

def createAdvertiserOrganization (db : AdvertiserDb) (year : Year) (id : String)
    (req : AdvertiserOrganizationCreate) :
    Except AdvertiserError (AdvertiserDb × NamedOrganization) :=
  match codeFor db year req with
  | .error e => .error e
  | .ok code => insertOrganization db (req.row id code)

/-! ## Runs -/

/-- A creation in a year, with the key that it draws. -/
structure OrganizationCreation where
  year : Year
  id : String
  request : AdvertiserOrganizationCreate

def advertiserNext (db : AdvertiserDb) (e : OrganizationCreation) : AdvertiserDb :=
  match createAdvertiserOrganization db e.year e.id e.request with
  | .ok (db', _) => db'
  | .error _ => db

def GeneratesFresh (db : AdvertiserDb) : Prop :=
  ∀ year, ∃ code, generateAdvertiserOrgCode db.codes year = .ok code ∧ code ∉ db.codes

/-- The number after the prefix, or 0 where no number is written. -/
def numberIn (year : Year) (code : String) : Int :=
  (PyInt.readInt (code.toList.drop (codePrefix year).length)).getD 0

def lastNumber (codes : List String) (year : Year) : Int :=
  (lastCode codes year).elim 0 (numberIn year)

/-- One of the five codes with the numbers after `n` is unused. -/
def UnusedAfter (codes : List String) (year : Year) (n : Int) : Prop :=
  ∃ k < maxAttempts, candidate year (n + 1 + (k : Nat)) ∉ codes

/-- With the code, one of the five codes after the last one is still unused. -/
structure LeavesUnused (codes : List String) (code : String) (year : Year) : Prop where
  last : (∀ other ∈ codes, ofYear year other = true → other.toList < code.toList) →
    UnusedAfter codes year (numberIn year code)
  notLast : ∀ other ∈ codes, ofYear year other = true → code.toList < other.toList →
    ∃ k < maxAttempts, candidate year (lastNumber codes year + 1 + (k : Nat)) ∉ codes ∧
      candidate year (lastNumber codes year + 1 + (k : Nat)) ≠ code

/-- The code that is created: the one given, or the first unused one after the last. -/
def AsksFor (codes : List String) (e : OrganizationCreation) (code : String) : Prop :=
  match e.request.code with
  | some explicit => explicit = code
  | none => ∃ k < maxAttempts, candidate e.year (lastNumber codes e.year + 1 + (k : Nat)) = code ∧
      code ∉ codes ∧
      ∀ j < k, candidate e.year (lastNumber codes e.year + 1 + (j : Nat)) ∈ codes

structure OrganizationAccepted (db : AdvertiserDb) (organization : NamedOrganization) :
    Prop where
  fits : organization.fits = true
  newId : organization.id ∉ db.organizations.map (·.id)
  newCode : organization.code ∉ db.codes

/-- Each code that enters leaves an unused one in its year. -/
def KeepsUnused (db : AdvertiserDb) (e : OrganizationCreation) : Prop :=
  ∀ code, AsksFor db.codes e code → OrganizationAccepted db (e.request.row e.id code) →
    ∀ year, ofYear year code = true → LeavesUnused db.codes code year

/-! ## The code that is generated -/

section Generated

variable {codes : List String} {year : Year} {code : String}

theorem nextNum_eq (codes : List String) (year : Year) :
    nextNum codes year = lastNumber codes year + 1 := by
  unfold nextNum lastNumber
  cases lastCode codes year with
  | none => rfl
  | some last =>
      show _ = (PyInt.readInt (last.toList.drop (codePrefix year).length)).getD 0 + 1
      dsimp only
      cases PyInt.readInt (last.toList.drop (codePrefix year).length) with
      | none => rfl
      | some n => rfl

theorem tryCandidates_eq_search {attempts : Nat} {n : Int} {k : Nat} :
    tryCandidates codes year attempts (n + k) =
      (FreshName.search codes (fun i ↦ candidate year (n + i)) attempts k).elim
        (.error (.runtimeError "Failed to generate unique advertiser code after 5 attempts"))
        fun i ↦ .ok (candidate year (n + i)) := by
  induction attempts generalizing k with
  | zero => rfl
  | succ attempts ih =>
      have hshift : n + k + 1 = n + (k + 1 : Nat) := by omega
      unfold tryCandidates FreshName.search
      by_cases hused : candidate year (n + k) ∈ codes
      · rw [if_pos (List.contains_iff_mem.2 hused), if_pos hused, hshift, ih]
      · rw [if_neg (fun h ↦ hused (List.contains_iff_mem.1 h)), if_neg hused]
        rfl

/-- The first unused one of the candidates is taken. -/
theorem tryCandidates_iff {attempts : Nat} {n : Int} :
    tryCandidates codes year attempts n = .ok code ↔
      ∃ k < attempts, candidate year (n + (k : Nat)) = code ∧ code ∉ codes ∧
        ∀ j < k, candidate year (n + (j : Nat)) ∈ codes := by
  have hsearch := @tryCandidates_eq_search codes year attempts n 0
  rw [Nat.cast_zero, add_zero] at hsearch
  rw [hsearch]
  constructor
  · intro h
    cases hfound : FreshName.search codes (fun i ↦ candidate year (n + i)) attempts 0 with
    | none =>
        rw [hfound] at h
        cases h
    | some m =>
        rw [hfound] at h
        cases h
        obtain ⟨k, hk, rfl, hunused, hbefore⟩ := FreshName.search_iff.1 hfound
        simp only [zero_add] at hunused hbefore ⊢
        exact ⟨k, hk, rfl, hunused, hbefore⟩
  · intro ⟨k, hk, hcode, hunused, hbefore⟩
    have hfound : FreshName.search codes (fun i ↦ candidate year (n + i)) attempts 0 = some k := by
      rw [FreshName.search_iff]
      refine ⟨k, hk, (zero_add k).symm, ?_, ?_⟩
      · rw [zero_add, hcode]
        exact hunused
      · intro i hi
        rw [zero_add]
        exact hbefore i hi
    rw [hfound, ← hcode]
    rfl

theorem generated_iff : generateAdvertiserOrgCode codes year = .ok code ↔
    ∃ k < maxAttempts, candidate year (lastNumber codes year + 1 + (k : Nat)) = code ∧
      code ∉ codes ∧
      ∀ j < k, candidate year (lastNumber codes year + 1 + (j : Nat)) ∈ codes := by
  unfold generateAdvertiserOrgCode
  rw [tryCandidates_iff, nextNum_eq]

/-- Of the five codes, the first that is unused has only used ones before it. -/
theorem freshCode_iff : (∃ code, generateAdvertiserOrgCode codes year = .ok code ∧ code ∉ codes) ↔
    UnusedAfter codes year (lastNumber codes year) := by
  constructor
  · intro h
    obtain ⟨code, hcode, hnew⟩ := h
    obtain ⟨k, hk, rfl, -⟩ := generated_iff.1 hcode
    exact ⟨k, hk, hnew⟩
  · intro h
    classical
    have hfirst := Nat.find_spec h
    refine ⟨_, generated_iff.2 ⟨Nat.find h, hfirst.1, rfl, hfirst.2, ?_⟩, hfirst.2⟩
    intro j hj
    by_contra hunused
    exact Nat.find_min h hj ⟨hj.trans hfirst.1, hunused⟩

theorem ofYear_candidate (year : Year) (n : Int) : ofYear year (candidate year n) = true := by
  unfold ofYear candidate
  rw [String.toList_ofList, List.isPrefixOf_iff_prefix]
  exact List.prefix_append _ _

/-- A generated number is read back from its code. -/
theorem numberIn_candidate (year : Year) (n : Int) : numberIn year (candidate year n) = n := by
  unfold numberIn candidate
  rw [String.toList_ofList, List.drop_left, PyInt.readInt_padded]
  rfl

end Generated

/-! ## One more code -/

section OneMore

variable {codes : List String} {year : Year} {code : String}

theorem lastCode_mem {last : String} (h : lastCode codes year = some last) :
    last ∈ codes ∧ ofYear year last = true :=
  List.mem_filter.1 (List.argmax_mem h)

theorem lastCode_concat_other (h : ofYear year code = false) :
    lastCode (codes ++ [code]) year = lastCode codes year := by
  unfold lastCode
  rw [List.filter_append, List.filter_singleton, h]
  exact congrArg _ (List.append_nil _)

theorem lastCode_concat_year (h : ofYear year code = true) :
    lastCode (codes ++ [code]) year =
      match lastCode codes year with
      | none => some code
      | some last => if last.toList < code.toList then some code else some last := by
  have hrow : (codes ++ [code]).filter (ofYear year) = codes.filter (ofYear year) ++ [code] := by
    rw [List.filter_append, List.filter_singleton, h]
    rfl
  unfold lastCode
  rw [hrow, List.argmax_concat]
  cases (codes.filter (ofYear year)).argmax String.toList with
  | none => rfl
  | some last => rfl

theorem lastCode_concat_last (h : ofYear year code = true)
    (hlast : ∀ other ∈ codes, ofYear year other = true → other.toList < code.toList) :
    lastCode (codes ++ [code]) year = some code := by
  rw [lastCode_concat_year h]
  cases hbefore : lastCode codes year with
  | none => rfl
  | some last =>
      obtain ⟨hmem, hyear⟩ := lastCode_mem hbefore
      exact if_pos (hlast last hmem hyear)

theorem lastCode_concat_notLast (h : ofYear year code = true) {other : String}
    (hother : other ∈ codes) (hyear : ofYear year other = true)
    (hlt : code.toList < other.toList) :
    lastCode (codes ++ [code]) year = lastCode codes year := by
  have hfiltered : other ∈ codes.filter (ofYear year) := List.mem_filter.2 ⟨hother, hyear⟩
  rw [lastCode_concat_year h]
  cases hbefore : lastCode codes year with
  | none =>
      rw [List.argmax_eq_none.1 hbefore] at hfiltered
      cases hfiltered
  | some last =>
      have hle : ¬ last.toList < other.toList := List.not_lt_of_mem_argmax hfiltered hbefore
      exact if_neg fun hbelow ↦ hle (hbelow.trans hlt)

theorem unusedAfter_concat (codes : List String) (year : Year) (code : String) (n : Int) :
    UnusedAfter (codes ++ [code]) year n ↔
      ∃ k < maxAttempts, candidate year (n + 1 + (k : Nat)) ∉ codes ∧
        candidate year (n + 1 + (k : Nat)) ≠ code := by
  unfold UnusedAfter
  simp only [List.mem_append, List.mem_singleton, not_or]

/-- The codes after the number of a code are other codes. -/
theorem unusedAfter_own (codes : List String) (year : Year) (code : String) :
    UnusedAfter (codes ++ [code]) year (numberIn year code) ↔
      UnusedAfter codes year (numberIn year code) := by
  have hother (k : Nat) : candidate year (numberIn year code + 1 + k) ≠ code := by
    intro hsame
    have hnumber := numberIn_candidate year (numberIn year code + 1 + k)
    rw [hsame] at hnumber
    omega
  rw [unusedAfter_concat]
  constructor
  · intro h
    obtain ⟨k, hk, hunused, -⟩ := h
    exact ⟨k, hk, hunused⟩
  · intro h
    obtain ⟨k, hk, hunused⟩ := h
    exact ⟨k, hk, hunused, hother k⟩

/-- With one more code of the year, a code can be generated exactly if that one leaves one unused. -/
theorem unusedAfter_iff_leaves (hnew : code ∉ codes) (hyear : ofYear year code = true) :
    UnusedAfter (codes ++ [code]) year (lastNumber (codes ++ [code]) year) ↔
      LeavesUnused codes code year := by
  by_cases hlast : ∀ other ∈ codes, ofYear year other = true → other.toList < code.toList
  · have hnumber : lastNumber (codes ++ [code]) year = numberIn year code := by
      unfold lastNumber
      rw [lastCode_concat_last hyear hlast]
      rfl
    rw [hnumber, unusedAfter_own]
    constructor
    · intro h
      constructor
      · intro _
        exact h
      · intro other hother hsame hlt
        exact absurd hlt (hlast other hother hsame).asymm
    · intro h
      exact h.last hlast
  · simp only [not_forall, not_lt] at hlast
    obtain ⟨other, hother, hsame, hle⟩ := hlast
    have hne : code.toList ≠ other.toList := by
      intro heq
      rw [String.toList_inj.1 heq] at hnew
      exact hnew hother
    have hlt : code.toList < other.toList := lt_of_le_of_ne hle hne
    have hnumber : lastNumber (codes ++ [code]) year = lastNumber codes year := by
      unfold lastNumber
      rw [lastCode_concat_notLast hyear hother hsame hlt]
    rw [hnumber, unusedAfter_concat]
    constructor
    · intro h
      constructor
      · intro hall
        exact absurd (hall other hother hsame) hlt.asymm
      · intro _ _ _ _
        exact h
    · intro h
      exact h.notLast other hother hsame hlt

/-- A code of another year takes none of the codes that can be generated. -/
theorem unusedAfter_other (hyear : ofYear year code = false) :
    UnusedAfter (codes ++ [code]) year (lastNumber (codes ++ [code]) year) ↔
      UnusedAfter codes year (lastNumber codes year) := by
  have hnumber : lastNumber (codes ++ [code]) year = lastNumber codes year := by
    unfold lastNumber
    rw [lastCode_concat_other hyear]
  have hother (n : Int) : candidate year n ≠ code := by
    intro hsame
    rw [← hsame, ofYear_candidate] at hyear
    cases hyear
  rw [hnumber, unusedAfter_concat]
  constructor
  · intro h
    obtain ⟨k, hk, hunused, -⟩ := h
    exact ⟨k, hk, hunused⟩
  · intro h
    obtain ⟨k, hk, hunused⟩ := h
    exact ⟨k, hk, hunused, hother _⟩

end OneMore

/-! ## One creation -/

section Step

variable {db : AdvertiserDb} {e : OrganizationCreation} {code : String}

theorem codeFor_iff : codeFor db e.year e.request = .ok code ↔ AsksFor db.codes e code := by
  unfold codeFor AsksFor
  cases e.request.code with
  | none => exact generated_iff
  | some explicit =>
      constructor
      · intro h
        exact Except.ok.inj h
      · intro h
        exact congrArg Except.ok h

theorem insertOrganization_codes {organization : NamedOrganization}
    (h : OrganizationAccepted db organization) : ∃ db',
      insertOrganization db organization = .ok (db', organization) ∧
        db'.codes = db.codes ++ [organization.code] := by
  have hfits : ¬ organization.fits = false := by
    rw [h.fits]
    decide
  unfold insertOrganization
  rw [if_neg hfits, dif_pos ⟨h.newId, h.newCode⟩]
  exact ⟨_, rfl, List.map_append⟩

theorem insertOrganization_refused {organization : NamedOrganization}
    (h : ¬ OrganizationAccepted db organization) :
    ∃ error, insertOrganization db organization = .error error := by
  unfold insertOrganization
  split
  · exact ⟨_, rfl⟩
  · split
    · rename_i hfits hkeys
      exact absurd ⟨Bool.of_not_eq_false hfits, hkeys.1, hkeys.2⟩ h
    · exact ⟨_, rfl⟩

/-- A creation adds the code that it asks for, or nothing. -/
theorem advertiserNext_codes (db : AdvertiserDb) (e : OrganizationCreation) :
    (∃ code, AsksFor db.codes e code ∧
        OrganizationAccepted db (e.request.row e.id code) ∧
        (advertiserNext db e).codes = db.codes ++ [code]) ∨
      (∀ code, AsksFor db.codes e code →
        ¬ OrganizationAccepted db (e.request.row e.id code)) ∧ advertiserNext db e = db := by
  unfold advertiserNext createAdvertiserOrganization
  cases hcode : codeFor db e.year e.request with
  | error error =>
      right
      constructor
      · intro code hasks
        rw [codeFor_iff.2 hasks] at hcode
        cases hcode
      · rfl
  | ok code =>
      have hasks : AsksFor db.codes e code := codeFor_iff.1 hcode
      by_cases haccepted : OrganizationAccepted db (e.request.row e.id code)
      · obtain ⟨db', hinsert, hcodes⟩ := insertOrganization_codes haccepted
        left
        refine ⟨code, hasks, haccepted, ?_⟩
        dsimp only
        rw [hinsert]
        exact hcodes
      · obtain ⟨error, hrefused⟩ := insertOrganization_refused haccepted
        right
        constructor
        · intro other hother
          rw [codeFor_iff.2 hother] at hcode
          rw [Except.ok.inj hcode]
          exact haccepted
        · dsimp only
          rw [hrefused]

theorem asksFor_unique {other : String} (h : AsksFor db.codes e code)
    (hother : AsksFor db.codes e other) : other = code := by
  have hcode := codeFor_iff.2 h
  rw [codeFor_iff.2 hother] at hcode
  exact Except.ok.inj hcode

theorem advertiserNext_fresh (h : GeneratesFresh db) :
    GeneratesFresh (advertiserNext db e) ↔ KeepsUnused db e := by
  rcases advertiserNext_codes db e with ⟨code, hasks, haccepted, hcodes⟩ | ⟨hrefused, hsame⟩
  · have hnew : code ∉ db.codes := haccepted.newCode
    have hyears : GeneratesFresh (advertiserNext db e) ↔
        ∀ year, ofYear year code = true → LeavesUnused db.codes code year := by
      unfold GeneratesFresh
      rw [hcodes]
      apply forall_congr'
      intro year
      rw [freshCode_iff]
      cases hyear : ofYear year code with
      | false =>
          rw [unusedAfter_other hyear]
          exact iff_of_true (freshCode_iff.1 (h year)) fun htrue ↦ by cases htrue
      | true =>
          rw [unusedAfter_iff_leaves hnew hyear]
          constructor
          · intro hleaves _
            exact hleaves
          · intro hleaves
            exact hleaves rfl
    rw [hyears]
    constructor
    · intro hleaves other hother _
      rw [asksFor_unique hasks hother]
      exact hleaves
    · intro hkeeps
      exact hkeeps code hasks haccepted
  · rw [hsame]
    apply iff_of_true h
    intro code hasks haccepted
    exact absurd haccepted (hrefused code hasks)

end Step

theorem generatesFresh_start : GeneratesFresh {} := by
  intro year
  apply freshCode_iff.2
  exact ⟨0, by decide, List.not_mem_nil⟩

/-- In every run of creations: a fresh code can be generated in every state exactly if each code
that enters leaves one unused. -/
theorem generatesFresh_iff (l : List OrganizationCreation) :
    Run.Always advertiserNext GeneratesFresh {} l ↔ Run.Guarded advertiserNext KeepsUnused {} l := by
  have hinv : ∀ (db : AdvertiserDb) (e : OrganizationCreation), True → True → True := by
    intros
    trivial
  have hstep : ∀ (db : AdvertiserDb) (e : OrganizationCreation), True → True → GeneratesFresh db →
      (GeneratesFresh (advertiserNext db e) ↔ KeepsUnused db e) := by
    intro db e _ _ h
    exact advertiserNext_fresh h
  exact Run.always_iff_guarded hinv hstep (fun _ _ ↦ trivial) trivial generatesFresh_start

/-! A code that outgrows the padding sorts before the last one. -/

def numberedCreation (id : String) : OrganizationCreation where
  year := { value := 2026 }
  id := id
  request := { legalName := "Acme Ltd", displayName := "Acme" }

def outgrownRun : List OrganizationCreation := [
  { year := { value := 2026 }
    id := "org-1"
    request := { code := some "ADV-2026-9999", legalName := "Acme Ltd", displayName := "Acme" } },
  numberedCreation "org-2", numberedCreation "org-3", numberedCreation "org-4",
  numberedCreation "org-5", numberedCreation "org-6"]

theorem outgrown_padding_stuck : ¬ ∀ l : List OrganizationCreation,
    Run.Always advertiserNext GeneratesFresh {} l := by
  intro h
  have hfresh : GeneratesFresh (Run.final advertiserNext {} outgrownRun) := (h outgrownRun).final
  obtain ⟨code, hcode, -⟩ := hfresh { value := 2026 }
  have hstuck : (generateAdvertiserOrgCode (Run.final advertiserNext {} outgrownRun).codes
      { value := 2026 }).isOk = false := by
    decide +kernel
  rw [hcode] at hstuck
  cases hstuck

end RetailMedia
