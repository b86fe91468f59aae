import RetailMedia.Advertiser.Codes
import RetailMedia.Lib.FreshName
import RetailMedia.Lib.PyText
import Mathlib

/-! The organization of an application that is approved, and its code: the company's name, numbered
when it is taken. -/

namespace RetailMedia

open JsonText (Text codes)

/-! ## Creation -/

structure AdvertiserApplication where
  id : String
  companyName : String
  email : String
  status : String := "new"
  organizationId : Option String := none
  deriving DecidableEq, Repr

def companyCode (endsWord : Text → Text → Bool) (companyName : String) : String :=
  let name := PyText.lower endsWord (PyText.strip (codes companyName))
  PyText.string ((PyText.replace (codes " ") (codes "-") name).take 64)

def numberedCode (baseCode : String) (suffix : Nat) : String :=
  if 60 < baseCode.length then String.ofList (baseCode.toList.take 60) ++ "-" ++ suffix.repr
  else baseCode ++ "-" ++ suffix.repr

/-- The code and its suffix; 0 is the base code itself. -/
def codeLoop (codes : List String) (baseCode : String) :
    (fuel : Nat) → (code : String) → (suffix : Nat) → Option (String × Nat)
  | 0, _, _ => none
  | fuel + 1, code, suffix =>
      if codes.contains code then
        codeLoop codes baseCode fuel (numberedCode baseCode (suffix + 1)) (suffix + 1)
      else some (code, suffix)

/-- The loop ends with this fuel (`codeLoop_ends`). -/
def organizationCode (codes : List String) (baseCode : String) : String :=
  ((codeLoop codes baseCode (codes.length + 2) baseCode 0).map (·.1)).getD baseCode

def AdvertiserApplication.organization (application : AdvertiserApplication) (id code : String) :
    NamedOrganization where
  id := id
  code := code
  legalName := application.companyName
  displayName := application.companyName

def createAdvertiserFromApplication (endsWord : Text → Text → Bool) (db : AdvertiserDb)
    (id : String) (application : AdvertiserApplication) :
    Except AdvertiserError (AdvertiserDb × NamedOrganization) :=
  let code := organizationCode db.codes (companyCode endsWord application.companyName)
  insertOrganization db (application.organization id code)

/-! ## The loop ends -/

section Loop

variable {codes : List String} {baseCode : String} {m n suffix : Nat}

/-- Cutting the base off does not make two of them the same. -/
theorem numberedCode_injective (h : numberedCode baseCode m = numberedCode baseCode n) : m = n := by
  unfold numberedCode at h
  by_cases hlong : 60 < baseCode.length
  -- either way the text before the number is the same for both
  · rw [if_pos hlong, if_pos hlong] at h
    exact Nat.repr_injective (String.append_right_inj _ |>.1 h)
  · rw [if_neg hlong, if_neg hlong] at h
    exact Nat.repr_injective (String.append_right_inj _ |>.1 h)

/-- The candidates, in their order. -/
def candidateCode (baseCode : String) (suffix : Nat) : String :=
  if suffix = 0 then baseCode else numberedCode baseCode suffix

theorem candidateCode_succ : candidateCode baseCode (n + 1) = numberedCode baseCode (n + 1) :=
  if_neg (Nat.succ_ne_zero n)

theorem candidateCode_injOn : Set.InjOn (candidateCode baseCode) (Set.Ici 1) := by
  intro m hm n hn h
  unfold candidateCode at h
  have hm' : m ≠ 0 := Nat.one_le_iff_ne_zero.1 hm
  have hn' : n ≠ 0 := Nat.one_le_iff_ne_zero.1 hn
  rw [if_neg hm', if_neg hn'] at h
  exact numberedCode_injective h

theorem codeLoop_eq_search {fuel : Nat} :
    codeLoop codes baseCode fuel (candidateCode baseCode suffix) suffix =
      (FreshName.search codes (candidateCode baseCode) fuel suffix).map
        fun n ↦ (candidateCode baseCode n, n) := by
  induction fuel generalizing suffix with
  | zero => rfl
  | succ fuel ih =>
      unfold codeLoop FreshName.search
      rw [← candidateCode_succ, ih]
      by_cases htaken : candidateCode baseCode suffix ∈ codes
      · rw [if_pos htaken, if_pos (List.contains_iff_mem.2 htaken)]
      · rw [if_neg htaken, if_neg (fun h ↦ htaken (List.contains_iff_mem.1 h))]
        rfl

/-- The base code is not among the numbered ones always, and is tried first. -/
theorem codeLoop_ends (codes : List String) (baseCode : String) :
    ∃ suffix, suffix ≤ codes.length + 1 ∧ candidateCode baseCode suffix ∉ codes ∧
      ∀ fuel, codes.length + 2 ≤ fuel →
        codeLoop codes baseCode fuel baseCode 0 = some (candidateCode baseCode suffix, suffix) := by
  by_cases htaken : baseCode ∈ codes
  · -- the numbered codes differ from each other, though one of them may be the base code
    have hinj : Set.InjOn (candidateCode baseCode) (Set.Ici 1) := candidateCode_injOn
    obtain ⟨k, hk, hfree, hsearch⟩ := @FreshName.search_ends _ _ codes _ _ hinj
    refine ⟨1 + k, by omega, hfree, ?_⟩
    intro fuel hfuel
    obtain ⟨fuel, rfl⟩ : ∃ f, fuel = f + 1 := ⟨fuel - 1, by omega⟩
    rw [codeLoop, if_pos (List.contains_iff_mem.2 htaken), ← candidateCode_succ,
      codeLoop_eq_search, hsearch fuel (by omega)]
    rfl
  · refine ⟨0, by omega, htaken, ?_⟩
    intro fuel hfuel
    obtain ⟨fuel, rfl⟩ : ∃ f, fuel = f + 1 := ⟨fuel - 1, by omega⟩
    rw [codeLoop, if_neg (fun h ↦ htaken (List.contains_iff_mem.1 h))]
    rfl

theorem organizationCode_not_mem (codes : List String) (baseCode : String) :
    organizationCode codes baseCode ∉ codes := by
  obtain ⟨suffix, -, hfresh, hloop⟩ := codeLoop_ends codes baseCode
  unfold organizationCode
  rw [hloop _ le_rfl]
  exact hfresh

end Loop

/-! ## The column -/

section Length

variable {baseCode : String} {suffix : Nat}

theorem companyCode_length (endsWord : Text → Text → Bool) (companyName : String) :
    (companyCode endsWord companyName).length ≤ 64 := by
  unfold companyCode PyText.string
  rw [String.length_ofList, List.length_map]
  exact List.length_take_le _ _

theorem candidateCode_length (hbase : baseCode.length ≤ 64) (hsuffix : suffix < 1000) :
    (candidateCode baseCode suffix).length ≤ 64 := by
  have hdigits : suffix.repr.length ≤ 3 := (Nat.length_repr_le_iff (by decide)).2 hsuffix
  unfold candidateCode numberedCode
  split_ifs with hzero hlong
  · exact hbase
  · rw [String.length_append, String.length_append, String.length_ofList, List.length_take,
      show "-".length = 1 from rfl]
    omega
  · rw [String.length_append, String.length_append, show "-".length = 1 from rfl]
    omega

end Length

/-- Whatever codes there are, the loop ends with one that is not among them. -/
theorem organizationCode_fresh (endsWord : Text → Text → Bool) (existing : List String)
    (application : AdvertiserApplication) :
    ∃ code suffix, (∀ fuel ≥ existing.length + 2,
        codeLoop existing (companyCode endsWord application.companyName) fuel
          (companyCode endsWord application.companyName) 0 = some (code, suffix)) ∧
      code ∉ existing ∧ (suffix < 1000 → code.length ≤ 64) := by
  obtain ⟨suffix, -, hfresh, hloop⟩ :=
    codeLoop_ends existing (companyCode endsWord application.companyName)
  refine ⟨_, suffix, hloop, hfresh, ?_⟩
  exact candidateCode_length (companyCode_length endsWord application.companyName)

/-- So only the columns and the key that it draws can refuse the organization. -/
theorem createAdvertiserFromApplication_iff (endsWord : Text → Text → Bool) (db : AdvertiserDb)
    (id : String) (application : AdvertiserApplication) :
    (∃ db' organization,
        createAdvertiserFromApplication endsWord db id application = .ok (db', organization)) ↔
      id ∉ db.organizations.map (·.id) ∧ (application.organization id (organizationCode db.codes
        (companyCode endsWord application.companyName))).fits = true := by
  have hfresh := organizationCode_not_mem db.codes (companyCode endsWord application.companyName)
  constructor
  · intro ⟨db', organization, h⟩
    by_contra hrefused
    have hnot : ¬ OrganizationAccepted db (application.organization id (organizationCode db.codes
        (companyCode endsWord application.companyName))) := by
      intro haccepted
      exact hrefused ⟨haccepted.newId, haccepted.fits⟩
    obtain ⟨error, herror⟩ := insertOrganization_refused hnot
    unfold createAdvertiserFromApplication at h
    rw [herror] at h
    cases h
  · intro ⟨hid, hfits⟩
    obtain ⟨db', hinsert, -⟩ := insertOrganization_codes ⟨hfits, hid, hfresh⟩
    exact ⟨db', _, hinsert⟩

end RetailMedia
