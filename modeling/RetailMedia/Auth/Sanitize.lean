import RetailMedia.Lib.PyText
import Mathlib

/-! The details of authentication events, with the values of sensitive keys masked before they are
logged or stored. -/

namespace RetailMedia

open JsonText (Text codes)

/-! ## The masks -/

/-- What nested dicts and lists are made of; scalars other than texts are of any kind. -/
inductive AuthDetail (σ : Type)
  | text (t : Text)
  | scalar (x : σ)
  | list (items : List (AuthDetail σ))
  | dict (fields : List (Text × AuthDetail σ))

def sensitiveShort : List String := ["password", "passwd", "pwd", "secret"]

def sensitiveToken : List String := [
  "token", "access-token", "access_token", "refresh-token", "refresh_token", "reset-token",
  "reset_token", "id-token", "id_token", "jwt", "api-key", "api_key", "authorization", "cookie",
  "set-cookie", "set_cookie"]

section Sanitize

variable {σ : Type} (endsWord : Text → Text → Bool)

def normalize (key : Text) : Text :=
  PyText.stripChars (codes "-")
    (PyText.replace (codes "_") (codes "-") (PyText.lower endsWord key))

/-- The text that takes the place of a key's value. -/
def maskOf (key : Text) : Option Text :=
  if (sensitiveShort.map codes).contains (normalize endsWord key) then some (codes "***")
  else if (sensitiveToken.map codes).contains (normalize endsWord key) then
    some (codes "***MASKED***")
  else none

/- Whole keys only. -/
example : maskOf (fun _ _ ↦ false) (codes "_Access_Token") = some (codes "***MASKED***") ∧
    maskOf (fun _ _ ↦ false) (codes "authorization_id") = none := by decide +kernel

mutual

def sanitizeRecursive : AuthDetail σ → AuthDetail σ
  | .text t => .text t
  | .scalar x => .scalar x
  | .list items => .list (sanitizeItems items)
  | .dict fields => .dict (sanitizeFields fields)

def sanitizeItems : List (AuthDetail σ) → List (AuthDetail σ)
  | [] => []
  | item :: items => sanitizeRecursive item :: sanitizeItems items

def sanitizeFields : List (Text × AuthDetail σ) → List (Text × AuthDetail σ)
  | [] => []
  | (key, value) :: fields =>
      match maskOf endsWord key with
      -- the recursion then finds the mask, and leaves it
      | some mask => (key, .text mask) :: sanitizeFields fields
      | none => (key, sanitizeRecursive value) :: sanitizeFields fields

end

/-- The data is a dict, or `None`. -/
def sanitizeAuthDetails (data : Option (List (Text × AuthDetail σ))) :
    List (Text × AuthDetail σ) :=
  match data with
  | none => []
  | some fields => sanitizeFields endsWord fields

end Sanitize

/-! ## Places in a structure -/

inductive DetailStep
  | key (k : Text)
  | index (i : Nat)
  deriving DecidableEq, Repr

namespace AuthDetail

variable {σ : Type}

def child : AuthDetail σ → DetailStep → Option (AuthDetail σ)
  | .dict fields, .key k => (fields.find? (·.1 = k)).map (·.2)
  | .list items, .index i => items[i]?
  | _, _ => none

def atPath : AuthDetail σ → List DetailStep → Option (AuthDetail σ)
  | d, [] => some d
  | d, step :: path => (d.child step).bind (·.atPath path)

def IsLeaf : AuthDetail σ → Prop
  | .text _ => True
  | .scalar _ => True
  | _ => False

end AuthDetail

def DetailStep.mask (endsWord : Text → Text → Bool) : DetailStep → Option Text
  | .key k => maskOf endsWord k
  | .index _ => none

/-! ## Masked or left -/

section Paths

variable {σ : Type} {endsWord : Text → Text → Bool}

theorem sanitizeItems_eq (items : List (AuthDetail σ)) :
    sanitizeItems endsWord items = items.map (sanitizeRecursive endsWord) := by
  induction items with
  | nil => rfl
  | cons item items ih =>
      unfold sanitizeItems
      rw [List.map_cons, ih]

/-- A key stays, and its value is masked or sanitized. -/
theorem find_sanitizeFields (fields : List (Text × AuthDetail σ)) (k : Text) :
    ((sanitizeFields endsWord fields).find? (·.1 = k)).map (·.2) =
      ((fields.find? (·.1 = k)).map (·.2)).map fun value ↦
        (maskOf endsWord k).elim (sanitizeRecursive endsWord value) .text := by
  induction fields with
  | nil => rfl
  | cons field fields ih =>
      obtain ⟨key, value⟩ := field
      unfold sanitizeFields
      by_cases hkey : key = k
      · subst hkey
        cases hmask : maskOf endsWord key with
        | none => simp
        | some mask => simp
      · cases hmask : maskOf endsWord key with
        | none => simpa [hkey] using ih
        | some mask => simpa [hkey] using ih

theorem child_sanitize (d : AuthDetail σ) (step : DetailStep) :
    (sanitizeRecursive endsWord d).child step = (d.child step).map fun value ↦
      (step.mask endsWord).elim (sanitizeRecursive endsWord value) .text := by
  cases d with
  | text t => rfl
  | scalar x => rfl
  | list items =>
      cases step with
      | key k => rfl
      | index i =>
          show (sanitizeItems endsWord items)[i]? = items[i]?.map (sanitizeRecursive endsWord)
          rw [sanitizeItems_eq]
          exact List.getElem?_map
  | dict fields =>
      cases step with
      | key k => exact find_sanitizeFields fields k
      | index i => rfl

theorem atPath_text (t : Text) (path : List DetailStep) (value : AuthDetail σ)
    (h : (AuthDetail.text t).atPath path = some value) : path = [] ∧ value = .text t := by
  cases path with
  | nil => exact ⟨rfl, (Option.some.inj h).symm⟩
  | cons step path => cases h

/-- Below a sensitive key nothing is left but the mask. -/
theorem masked_atPath {d value : AuthDetail σ} {path rest : List DetailStep} {k mask : Text}
    (hmask : maskOf endsWord k = some mask)
    (h : (sanitizeRecursive endsWord d).atPath (path ++ .key k :: rest) = some value) :
    rest = [] ∧ value = .text mask := by
  induction path generalizing d with
  | nil =>
      rw [List.nil_append, AuthDetail.atPath, child_sanitize] at h
      cases hchild : d.child (.key k) with
      | none =>
          rw [hchild] at h
          cases h
      | some below =>
          rw [hchild, Option.map_some, Option.bind_some, DetailStep.mask, hmask] at h
          exact atPath_text mask rest value h
  | cons step path ih =>
      rw [List.cons_append, AuthDetail.atPath, child_sanitize] at h
      cases hchild : d.child step with
      | none =>
          rw [hchild] at h
          cases h
      | some below =>
          rw [hchild, Option.map_some, Option.bind_some] at h
          cases hstep : step.mask endsWord with
          | none =>
              rw [hstep] at h
              exact ih h
          | some other =>
              -- a mask has nothing below it
              rw [hstep] at h
              obtain ⟨hempty, -⟩ := atPath_text other _ value h
              exact absurd hempty (by simp)

theorem atPath_sanitize {d : AuthDetail σ} {path : List DetailStep}
    (hpath : ∀ step ∈ path, step.mask endsWord = none) :
    (sanitizeRecursive endsWord d).atPath path =
      (d.atPath path).map (sanitizeRecursive endsWord) := by
  induction path generalizing d with
  | nil => rfl
  | cons step path ih =>
      have hstep := hpath step List.mem_cons_self
      have hothers := fun s hs ↦ hpath s (List.mem_cons_of_mem step hs)
      rw [AuthDetail.atPath, AuthDetail.atPath, child_sanitize, hstep]
      cases d.child step with
      | none => rfl
      | some below => exact ih hothers

theorem sanitize_leaf_iff {d leaf : AuthDetail σ} (hleaf : leaf.IsLeaf) :
    sanitizeRecursive endsWord d = leaf ↔ d = leaf := by
  cases d with
  | text t => exact Iff.rfl
  | scalar x => exact Iff.rfl
  | list items =>
      constructor
      · intro h
        rw [← h] at hleaf
        exact hleaf.elim
      · intro h
        rw [← h] at hleaf
        exact hleaf.elim
  | dict fields =>
      constructor
      · intro h
        rw [← h] at hleaf
        exact hleaf.elim
      · intro h
        rw [← h] at hleaf
        exact hleaf.elim

/-! ## Twice -/

mutual

theorem sanitizeRecursive_twice (d : AuthDetail σ) :
    sanitizeRecursive endsWord (sanitizeRecursive endsWord d) = sanitizeRecursive endsWord d := by
  match d with
  | .text t => rfl
  | .scalar x => rfl
  -- by the recursion of the function
  | .list items => exact congrArg AuthDetail.list (sanitizeItems_twice items)
  | .dict fields => exact congrArg AuthDetail.dict (sanitizeFields_twice fields)

theorem sanitizeItems_twice (items : List (AuthDetail σ)) :
    sanitizeItems endsWord (sanitizeItems endsWord items) = sanitizeItems endsWord items := by
  match items with
  | [] => rfl
  | item :: items =>
      simp only [sanitizeItems]
      rw [sanitizeRecursive_twice item, sanitizeItems_twice items]

/-- A masked key is masked again, with the same mask. -/
theorem sanitizeFields_twice (fields : List (Text × AuthDetail σ)) :
    sanitizeFields endsWord (sanitizeFields endsWord fields) = sanitizeFields endsWord fields := by
  match fields with
  | [] => rfl
  | (key, value) :: fields =>
      cases hmask : maskOf endsWord key with
      | none =>
          simp only [sanitizeFields, hmask]
          rw [sanitizeRecursive_twice value, sanitizeFields_twice fields]
      | some mask =>
          simp only [sanitizeFields, hmask]
          rw [sanitizeFields_twice fields]

end

end Paths

/-- Under a sensitive key there is only its mask, and all other leaves are where they were. -/
structure Sanitized {σ : Type} (endsWord : Text → Text → Bool) (before after : AuthDetail σ) :
    Prop where
  masked : ∀ path k rest mask value, maskOf endsWord k = some mask →
    after.atPath (path ++ .key k :: rest) = some value → rest = [] ∧ value = .text mask
  left : ∀ path leaf, leaf.IsLeaf → (∀ step ∈ path, step.mask endsWord = none) →
    (after.atPath path = some leaf ↔ before.atPath path = some leaf)

theorem sanitizeAuthDetails_spec {σ : Type} (endsWord : Text → Text → Bool)
    (data : Option (List (Text × AuthDetail σ))) :
    Sanitized endsWord (.dict (data.getD [])) (.dict (sanitizeAuthDetails endsWord data)) ∧
      sanitizeAuthDetails endsWord (some (sanitizeAuthDetails endsWord data)) =
        sanitizeAuthDetails endsWord data := by
  have hdict : AuthDetail.dict (sanitizeAuthDetails endsWord data) =
      sanitizeRecursive endsWord (.dict (data.getD [])) := by
    cases data with
    | none => rfl
    | some fields => rfl
  constructor
  · rw [hdict]
    constructor
    · intro path k rest mask value hmask h
      exact masked_atPath hmask h
    · intro path leaf hleaf hpath
      rw [atPath_sanitize hpath, Option.map_eq_some_iff]
      constructor
      · intro ⟨value, hvalue, hsanitized⟩
        rw [hvalue, (sanitize_leaf_iff hleaf).1 hsanitized]
      · intro h
        exact ⟨leaf, h, (sanitize_leaf_iff hleaf).2 rfl⟩
  · cases data with
    | none => rfl
    | some fields => exact sanitizeFields_twice fields

/-- A login that keeps what the user typed. -/
def loginDetails : List (Text × AuthDetail Nat) := [
  (codes "user", .dict [
    (codes "Password", .text (codes "hunter2")),
    (codes "attempt", .scalar 2)])]

/-- The password is masked, the number of the attempt is left. -/
theorem loginDetails_masked :
    (AuthDetail.dict (sanitizeAuthDetails (fun _ _ ↦ false) (some loginDetails))).atPath
        [.key (codes "user"), .key (codes "Password")] = some (.text (codes "***")) ∧
      (AuthDetail.dict (sanitizeAuthDetails (fun _ _ ↦ false) (some loginDetails))).atPath
        [.key (codes "user"), .key (codes "attempt")] = some (.scalar 2) := by
  obtain ⟨hsanitized, -⟩ := sanitizeAuthDetails_spec (fun _ _ ↦ false) (some loginDetails)
  constructor
  · cases hvalue : (AuthDetail.dict (sanitizeAuthDetails (fun _ _ ↦ false)
        (some loginDetails))).atPath [.key (codes "user"), .key (codes "Password")] with
    | none => exact absurd (congrArg Option.isSome hvalue) (by decide +kernel)
    | some value =>
        have hmask : maskOf (fun _ _ ↦ false) (codes "Password") = some (codes "***") := by
          decide +kernel
        rw [(hsanitized.masked [.key (codes "user")] _ [] _ value hmask hvalue).2]
  · have hleaf : (AuthDetail.scalar 2).IsLeaf := trivial
    exact (hsanitized.left _ _ hleaf (by decide +kernel)).2 rfl

end RetailMedia
