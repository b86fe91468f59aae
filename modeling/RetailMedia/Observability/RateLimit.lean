import RetailMedia.Lib.Run
import Mathlib.Data.Rat.Floor
import Mathlib.Tactic.Linarith
import Mathlib.Tactic.Ring

/-! The rate limiter: a bucket of tokens for each key, refilled with time, and the cleanup of
buckets that are not used. -/

namespace RetailMedia

/-! ## Buckets -/

/-- The settings. -/
structure RateLimiter where
  enabled : Bool
  windowSeconds : Int := 60
  positive : 0 < windowSeconds := by decide

structure RateBucket where
  tokens : Int
  lastRefill : ℚ
  deriving DecidableEq, Repr

/-- The dictionary of the buckets. -/
abbrev RateBuckets := String → Option RateBucket

/-- `int(q)`. -/
def truncate (q : ℚ) : Int := if 0 ≤ q then ⌊q⌋ else ⌈q⌉

section Limiter

variable (cfg : RateLimiter)

def refill (bucket : RateBucket) (now : ℚ) (rate : Int) : RateBucket :=
  let elapsed := now - bucket.lastRefill
  -- whole tokens only: the rest of the time counts on until there is one
  let newTokens := truncate (elapsed * (rate / cfg.windowSeconds))
  if 0 < newTokens then
    { tokens := min (bucket.tokens + newTokens) rate
      lastRefill := now }
  else bucket

/-- The bucket of the key, after the refill of a request. -/
def refilled (buckets : RateBuckets) (key : String) (maxRequests : Int) (now : ℚ) : RateBucket :=
  refill cfg ((buckets key).getD ⟨maxRequests, now⟩) now maxRequests

def checkRateLimit (buckets : RateBuckets) (key : String) (maxRequests : Int) (now : ℚ) :
    RateBuckets × Bool :=
  if cfg.enabled = false then (buckets, true)
  else
    let bucket := refilled cfg buckets key maxRequests now
    if 0 < bucket.tokens then
      (Function.update buckets key (some { bucket with tokens := bucket.tokens - 1 }), true)
    else (Function.update buckets key (some bucket), false)

/-- The cutoff is read from the clock before the lock is taken: `now` may be some time ago. -/
def cleanupExpired (buckets : RateBuckets) (now : ℚ) : RateBuckets :=
  let cutoff := now - 2 * cfg.windowSeconds
  fun key ↦ (buckets key).filter fun bucket ↦ ¬ bucket.lastRefill < cutoff

/-! ## Runs -/

inductive RateEvent
  | check (key : String) (maxRequests : Int) (now : ℚ)
  | cleanup (now : ℚ)
  deriving DecidableEq, Repr

def RateEvent.now : RateEvent → ℚ
  | .check _ _ now => now
  | .cleanup now => now

def RateEvent.isCheck : RateEvent → Bool
  | .check _ _ _ => true
  | .cleanup _ => false

structure RateDecision where
  key : String
  now : ℚ
  allowed : Bool
  deriving DecidableEq, Repr

def rateNext (buckets : RateBuckets) : RateEvent → RateBuckets
  | .check key maxRequests now => (checkRateLimit cfg buckets key maxRequests now).1
  | .cleanup now => cleanupExpired cfg buckets now

def decisions : RateBuckets → List RateEvent → List RateDecision
  | _, [] => []
  | buckets, .check key maxRequests now :: es =>
      ⟨key, now, (checkRateLimit cfg buckets key maxRequests now).2⟩ ::
        decisions (checkRateLimit cfg buckets key maxRequests now).1 es
  | buckets, .cleanup now :: es => decisions (cleanupExpired cfg buckets now) es

/-- From a start without buckets. -/
def decisionsOf (key : String) (es : List RateEvent) : List RateDecision :=
  (decisions cfg (fun _ ↦ none) es).filter (·.key = key)

/-- The requests allowed from `a` to `b`, both included. -/
def allowedIn (key : String) (a b : ℚ) (es : List RateEvent) : Nat :=
  (decisionsOf cfg key es).countP fun d ↦ d.allowed ∧ a ≤ d.now ∧ d.now ≤ b

end Limiter

/-- No request comes before anything that precedes it. -/
def InTime (es : List RateEvent) : Prop :=
  es.Pairwise fun e e' ↦ e'.isCheck = true → e.now ≤ e'.now

def ConstantLimit (key : String) (maxRequests : Int) (es : List RateEvent) : Prop :=
  ∀ limit now, .check key limit now ∈ es → limit = maxRequests

/-! ## One request -/

def RateBucket.taken (bucket : RateBucket) : RateBucket :=
  if 0 < bucket.tokens then { bucket with tokens := bucket.tokens - 1 } else bucket

section Request

variable {cfg : RateLimiter} {buckets : RateBuckets} {bucket : RateBucket} {key : String}
  {maxRequests : Int} {now : ℚ}

theorem checkRateLimit_eq (h : cfg.enabled = true) :
    checkRateLimit cfg buckets key maxRequests now =
      (Function.update buckets key (some (refilled cfg buckets key maxRequests now).taken),
        decide (0 < (refilled cfg buckets key maxRequests now).tokens)) := by
  unfold checkRateLimit RateBucket.taken
  rw [h, if_neg (by decide)]
  dsimp only
  by_cases htokens : 0 < (refilled cfg buckets key maxRequests now).tokens
  · rw [if_pos htokens, if_pos htokens, decide_eq_true htokens]
  · rw [if_neg htokens, if_neg htokens, decide_eq_false htokens]

theorem checkRateLimit_self (h : cfg.enabled = true) :
    (checkRateLimit cfg buckets key maxRequests now).1 key =
      some (refilled cfg buckets key maxRequests now).taken := by
  rw [checkRateLimit_eq h]
  exact Function.update_self key _ buckets

theorem checkRateLimit_of_ne {other : String} (h : cfg.enabled = true) (hkey : key ≠ other) :
    (checkRateLimit cfg buckets other maxRequests now).1 key = buckets key := by
  rw [checkRateLimit_eq h]
  exact Function.update_of_ne hkey _ buckets

/-- The tokens of a second. -/
def RateLimiter.rate (cfg : RateLimiter) (maxRequests : Int) : ℚ :=
  (maxRequests : ℚ) / cfg.windowSeconds

theorem rate_pos (hmax : 1 ≤ maxRequests) : 0 < cfg.rate maxRequests := by
  have hwindow : (0 : ℚ) < cfg.windowSeconds := by exact_mod_cast cfg.positive
  have hrequests : (0 : ℚ) < maxRequests := by exact_mod_cast hmax
  exact div_pos hrequests hwindow

/-- Too little time for a token, or the whole tokens of the time since the last refill. -/
theorem refill_cases (hmax : 1 ≤ maxRequests) (htime : bucket.lastRefill ≤ now) :
    (refill cfg bucket now maxRequests = bucket ∧
        (now - bucket.lastRefill) * cfg.rate maxRequests < 1) ∨
      ∃ newTokens : Int, 1 ≤ newTokens ∧
        newTokens = ⌊(now - bucket.lastRefill) * cfg.rate maxRequests⌋ ∧
        refill cfg bucket now maxRequests =
          ⟨min (bucket.tokens + newTokens) maxRequests, now⟩ := by
  have hgained : 0 ≤ (now - bucket.lastRefill) * cfg.rate maxRequests :=
    mul_nonneg (sub_nonneg.2 htime) (rate_pos hmax).le
  have htruncate : truncate ((now - bucket.lastRefill) * (maxRequests / cfg.windowSeconds)) =
      ⌊(now - bucket.lastRefill) * cfg.rate maxRequests⌋ := if_pos hgained
  unfold refill
  dsimp only
  rw [htruncate]
  by_cases hnew : 0 < ⌊(now - bucket.lastRefill) * cfg.rate maxRequests⌋
  · right
    rw [if_pos hnew]
    exact ⟨_, hnew, rfl, rfl⟩
  · left
    rw [if_neg hnew]
    refine ⟨rfl, ?_⟩
    by_contra hone
    have hfloor : 1 ≤ ⌊(now - bucket.lastRefill) * cfg.rate maxRequests⌋ :=
      Int.le_floor.2 (by exact_mod_cast not_lt.1 hone)
    omega

/-- A new bucket is full. -/
theorem refill_new (hmax : 1 ≤ maxRequests) :
    refill cfg ⟨maxRequests, now⟩ now maxRequests = ⟨maxRequests, now⟩ := by
  rcases @refill_cases cfg ⟨maxRequests, now⟩ maxRequests now hmax le_rfl with
    ⟨hsame, -⟩ | ⟨newTokens, hnew, hfloor, -⟩
  · exact hsame
  · rw [sub_self, zero_mul, Int.floor_zero] at hfloor
    omega

/-- And so is one that has not been refilled for two windows. -/
theorem refill_expired (hmax : 1 ≤ maxRequests) (htokens : 0 ≤ bucket.tokens)
    (hexpired : bucket.lastRefill < now - 2 * cfg.windowSeconds) :
    refill cfg bucket now maxRequests = ⟨maxRequests, now⟩ := by
  have hwindow : (0 : ℚ) < cfg.windowSeconds := by exact_mod_cast cfg.positive
  have hrequests : (1 : ℚ) ≤ maxRequests := by exact_mod_cast hmax
  have htime : bucket.lastRefill ≤ now := by linarith
  have hfull : ((2 * maxRequests : Int) : ℚ) ≤
      (now - bucket.lastRefill) * cfg.rate maxRequests := by
    have hlong : 2 * (cfg.windowSeconds : ℚ) ≤ now - bucket.lastRefill := by linarith
    calc ((2 * maxRequests : Int) : ℚ) = 2 * cfg.windowSeconds * cfg.rate maxRequests := by
          unfold RateLimiter.rate
          rw [Int.cast_mul, mul_assoc, mul_div_cancel₀ _ hwindow.ne']
          rfl
      _ ≤ (now - bucket.lastRefill) * cfg.rate maxRequests :=
          mul_le_mul_of_nonneg_right hlong (rate_pos hmax).le
  have hfloor : 2 * maxRequests ≤ ⌊(now - bucket.lastRefill) * cfg.rate maxRequests⌋ :=
    Int.le_floor.2 hfull
  rcases @refill_cases cfg bucket maxRequests now hmax htime with
    ⟨-, hshort⟩ | ⟨newTokens, hnew, heq, hrefill⟩
  · have htwo : ((2 * maxRequests : Int) : ℚ) = 2 * maxRequests := by push_cast; rfl
    linarith
  · rw [hrefill, min_eq_right]
    omega

/-- A bucket after a request of its key. -/
structure RateBucket.Within (bucket : RateBucket) (maxRequests : Int) (now : ℚ) : Prop where
  nonneg : 0 ≤ bucket.tokens
  below : bucket.tokens ≤ maxRequests - 1
  time : bucket.lastRefill ≤ now

theorem taken_within (hmax : 1 ≤ maxRequests)
    (hbucket : ∀ b, buckets key = some b → b.Within maxRequests now) :
    (refilled cfg buckets key maxRequests now).taken.Within maxRequests now := by
  have hrefilled : 0 ≤ (refilled cfg buckets key maxRequests now).tokens ∧
      (refilled cfg buckets key maxRequests now).tokens ≤ maxRequests ∧
      (refilled cfg buckets key maxRequests now).lastRefill ≤ now := by
    unfold refilled
    cases hkey : buckets key with
    | none =>
        rw [Option.getD_none, refill_new hmax]
        exact ⟨by dsimp only; omega, le_rfl, le_rfl⟩
    | some b =>
        have hb := hbucket b hkey
        have hnonneg := hb.nonneg
        have hbelow := hb.below
        rw [Option.getD_some]
        rcases @refill_cases cfg b maxRequests now hmax hb.time with
          ⟨hsame, -⟩ | ⟨newTokens, hnew, -, hrefill⟩
        · rw [hsame]
          exact ⟨hnonneg, by omega, hb.time⟩
        · rw [hrefill]
          exact ⟨le_min (by omega) (by omega), min_le_right _ _, le_rfl⟩
  unfold RateBucket.taken
  by_cases htokens : 0 < (refilled cfg buckets key maxRequests now).tokens
  · rw [if_pos htokens]
    exact ⟨by dsimp only; omega, by dsimp only; omega, hrefilled.2.2⟩
  · rw [if_neg htokens]
    exact ⟨hrefilled.1, by omega, hrefilled.2.2⟩

end Request

/-! ## The cleanup -/

section Cleanup

variable {cfg : RateLimiter} {buckets cleaned : RateBuckets} {key : String} {maxRequests : Int}
  {es : List RateEvent}

/-- The bucket of the key has tokens, and all that is still to come is not before its refill. -/
def BucketSound (key : String) (maxRequests : Int) (es : List RateEvent)
    (buckets : RateBuckets) : Prop :=
  ∀ b, buckets key = some b → 0 ≤ b.tokens ∧ b.tokens ≤ maxRequests - 1 ∧
    ∀ e ∈ es, e.isCheck = true → b.lastRefill ≤ e.now

/-- Cleaned or not: the buckets differ in one that the next request fills up anyway. -/
def Alike (cfg : RateLimiter) (key : String) (es : List RateEvent) (cleaned buckets : RateBuckets) :
    Prop :=
  cleaned key = buckets key ∨ cleaned key = none ∧ ∃ b, buckets key = some b ∧
    ∀ e ∈ es, e.isCheck = true → b.lastRefill < e.now - 2 * cfg.windowSeconds

theorem bucketSound_check {limit now : _} {other : String} (henabled : cfg.enabled = true)
    (hmax : 1 ≤ maxRequests) (htime : InTime (.check other limit now :: es))
    (hlimit : ConstantLimit key maxRequests (.check other limit now :: es))
    (h : BucketSound key maxRequests (.check other limit now :: es) buckets) :
    BucketSound key maxRequests es (checkRateLimit cfg buckets other limit now).1 := by
  intro b hb
  by_cases hkey : key = other
  · subst hkey
    have hlimits : limit = maxRequests := hlimit limit now List.mem_cons_self
    rw [hlimits, checkRateLimit_self henabled, Option.some_inj] at hb
    have hwithin : b.Within maxRequests now := by
      rw [← hb]
      apply taken_within hmax
      intro b' hb'
      obtain ⟨hnonneg, hbelow, hlater⟩ := h b' hb'
      exact ⟨hnonneg, hbelow, hlater _ List.mem_cons_self rfl⟩
    refine ⟨hwithin.nonneg, hwithin.below, ?_⟩
    intro e he hcheck
    exact hwithin.time.trans ((List.pairwise_cons.1 htime).1 e he hcheck)
  · rw [checkRateLimit_of_ne henabled hkey] at hb
    obtain ⟨hnonneg, hbelow, hlater⟩ := h b hb
    exact ⟨hnonneg, hbelow, fun e he ↦ hlater e (List.mem_cons_of_mem _ he)⟩

theorem refilled_alike {now : ℚ} (hmax : 1 ≤ maxRequests)
    (hsound : BucketSound key maxRequests (.check key maxRequests now :: es) buckets)
    (h : Alike cfg key (.check key maxRequests now :: es) cleaned buckets) :
    refilled cfg cleaned key maxRequests now = refilled cfg buckets key maxRequests now := by
  unfold refilled
  rcases h with heq | ⟨hnone, b, hb, hexpired⟩
  · rw [heq]
  · have hlong : b.lastRefill < now - 2 * cfg.windowSeconds := hexpired _ List.mem_cons_self rfl
    rw [hnone, hb, Option.getD_none, Option.getD_some, refill_new hmax,
      refill_expired hmax (hsound b hb).1 hlong]

theorem alike_check {limit : Int} {now : ℚ} {other : String} (henabled : cfg.enabled = true)
    (hmax : 1 ≤ maxRequests)
    (hlimit : ConstantLimit key maxRequests (.check other limit now :: es))
    (hsound : BucketSound key maxRequests (.check other limit now :: es) buckets)
    (h : Alike cfg key (.check other limit now :: es) cleaned buckets) :
    Alike cfg key es (checkRateLimit cfg cleaned other limit now).1
      (checkRateLimit cfg buckets other limit now).1 := by
  by_cases hkey : key = other
  · subst hkey
    have hlimits : limit = maxRequests := hlimit limit now List.mem_cons_self
    subst hlimits
    left
    rw [checkRateLimit_self henabled, checkRateLimit_self henabled, refilled_alike hmax hsound h]
  · unfold Alike
    rw [checkRateLimit_of_ne henabled hkey, checkRateLimit_of_ne henabled hkey]
    rcases h with heq | ⟨hnone, b, hb, hexpired⟩
    · exact .inl heq
    · exact .inr ⟨hnone, b, hb, fun e he ↦ hexpired e (List.mem_cons_of_mem _ he)⟩

/-- What the cleanup drops has not been refilled for two windows. -/
theorem alike_cleanup {now : ℚ} (htime : InTime (.cleanup now :: es))
    (h : Alike cfg key (.cleanup now :: es) cleaned buckets) :
    Alike cfg key es (cleanupExpired cfg cleaned now) buckets := by
  rcases h with heq | ⟨hnone, b, hb, hexpired⟩
  · cases hcleaned : cleaned key with
    | none =>
        left
        rw [← heq, hcleaned]
        unfold cleanupExpired
        rw [hcleaned, Option.filter_none]
    | some b =>
        by_cases hold : b.lastRefill < now - 2 * cfg.windowSeconds
        · -- dropped: every request to come is two windows after its refill
          right
          have hdropped : cleanupExpired cfg cleaned now key = none := by
            unfold cleanupExpired
            rw [hcleaned]
            exact Option.filter_some_neg (decide_eq_false (not_not_intro hold))
          refine ⟨hdropped, b, by rw [← heq, hcleaned], ?_⟩
          intro e he hcheck
          have hnow : now ≤ e.now := (List.pairwise_cons.1 htime).1 e he hcheck
          linarith
        · left
          rw [← heq, hcleaned]
          unfold cleanupExpired
          rw [hcleaned]
          exact Option.filter_some_pos (decide_eq_true hold)
  · right
    refine ⟨by unfold cleanupExpired; rw [hnone, Option.filter_none], b, hb, ?_⟩
    exact fun e he ↦ hexpired e (List.mem_cons_of_mem _ he)

theorem decisions_alike (henabled : cfg.enabled = true) (hmax : 1 ≤ maxRequests)
    (htime : InTime es) (hlimit : ConstantLimit key maxRequests es)
    (hsound : BucketSound key maxRequests es buckets) (h : Alike cfg key es cleaned buckets) :
    (decisions cfg cleaned es).filter (·.key = key) =
      (decisions cfg buckets (es.filter (·.isCheck))).filter (·.key = key) := by
  induction es generalizing cleaned buckets with
  | nil => rfl
  | cons e es ih =>
      have hlater : InTime es := (List.pairwise_cons.1 htime).2
      have hlimits : ConstantLimit key maxRequests es :=
        fun limit now hmem ↦ hlimit limit now (List.mem_cons_of_mem _ hmem)
      cases e with
      | check other limit now =>
          have hnext := ih hlater hlimits (bucketSound_check henabled hmax htime hlimit hsound)
            (alike_check henabled hmax hlimit hsound h)
          rw [List.filter_cons_of_pos rfl]
          unfold decisions
          by_cases hkey : other = key
          · -- the key finds the same bucket after its refill, cleaned or not
            subst hkey
            have hsame : (checkRateLimit cfg cleaned other limit now).2 =
                (checkRateLimit cfg buckets other limit now).2 := by
              have hconstant : limit = maxRequests := hlimit limit now List.mem_cons_self
              subst hconstant
              rw [checkRateLimit_eq henabled, checkRateLimit_eq henabled,
                refilled_alike hmax hsound h]
            rw [List.filter_cons_of_pos (by simp), List.filter_cons_of_pos (by simp), hnext, hsame]
          · rw [List.filter_cons_of_neg (by simpa using hkey),
              List.filter_cons_of_neg (by simpa using hkey), hnext]
      | cleanup now =>
          -- a cleanup takes no decision; only the invariant has to go on
          rw [List.filter_cons_of_neg Bool.false_ne_true]
          have hsound' : BucketSound key maxRequests es buckets := by
            intro b hb
            obtain ⟨hnonneg, hbelow, hall⟩ := hsound b hb
            exact ⟨hnonneg, hbelow, fun e he ↦ hall e (List.mem_cons_of_mem _ he)⟩
          exact ih hlater hlimits hsound' (alike_cleanup htime h)

/-- The cleanups of a run do not matter. -/
theorem decisionsOf_filter (henabled : cfg.enabled = true) (hmax : 1 ≤ maxRequests)
    (htime : InTime es) (hlimit : ConstantLimit key maxRequests es) :
    decisionsOf cfg key (es.filter (·.isCheck)) = decisionsOf cfg key es := by
  have hsound : BucketSound key maxRequests es (fun _ ↦ none) := by
    intro b hb
    cases hb
  exact (decisions_alike henabled hmax htime hlimit hsound (.inl rfl)).symm

end Cleanup

/-! ## The potential -/

section Bound

variable {cfg : RateLimiter} {buckets : RateBuckets} {key : String} {maxRequests : Int} {a b : ℚ}
  {es : List RateEvent}

/-- The tokens a bucket has handed out by `b` at most. -/
def RateBucket.worth (bucket : RateBucket) (cfg : RateLimiter) (maxRequests : Int) (b : ℚ) : ℚ :=
  bucket.tokens + (b - bucket.lastRefill) * cfg.rate maxRequests

/-- A full bucket at `a`. -/
def rateBound (cfg : RateLimiter) (maxRequests : Int) (a b : ℚ) : ℚ :=
  maxRequests + (b - a) * cfg.rate maxRequests

def credit (cfg : RateLimiter) (key : String) (maxRequests : Int) (a b : ℚ)
    (buckets : RateBuckets) : ℚ :=
  max 0 ((buckets key).elim (rateBound cfg maxRequests a b) fun bucket ↦
    min (bucket.worth cfg maxRequests b) (rateBound cfg maxRequests a b))

/-- A request of the key that is allowed from `a` to `b`. -/
def rateCost (cfg : RateLimiter) (key : String) (a b : ℚ) (buckets : RateBuckets) :
    RateEvent → ℚ
  | .check other limit now =>
      if other = key ∧ (checkRateLimit cfg buckets other limit now).2 ∧ a ≤ now ∧ now ≤ b then 1
      else 0
  | .cleanup _ => 0

theorem taken_worth {bucket : RateBucket} (h : 0 < bucket.tokens) :
    bucket.taken.worth cfg maxRequests b = bucket.worth cfg maxRequests b - 1 := by
  unfold RateBucket.taken RateBucket.worth
  rw [if_pos h]
  push_cast
  ring

theorem taken_worth_le {bucket : RateBucket} :
    bucket.taken.worth cfg maxRequests b ≤ bucket.worth cfg maxRequests b := by
  by_cases htokens : 0 < bucket.tokens
  · rw [taken_worth htokens]
    linarith
  · unfold RateBucket.taken
    rw [if_neg htokens]

/-- The refill gives no more than the time that has gone by is worth. -/
theorem refill_worth_le {bucket : RateBucket} {now : ℚ} (hmax : 1 ≤ maxRequests)
    (htime : bucket.lastRefill ≤ now) :
    (refill cfg bucket now maxRequests).worth cfg maxRequests b ≤
      bucket.worth cfg maxRequests b := by
  rcases @refill_cases cfg bucket maxRequests now hmax htime with
    ⟨hsame, -⟩ | ⟨newTokens, -, hfloor, hrefill⟩
  · rw [hsame]
  · have htokens : ((min (bucket.tokens + newTokens) maxRequests : Int) : ℚ) ≤
        bucket.tokens + (now - bucket.lastRefill) * cfg.rate maxRequests := by
      calc ((min (bucket.tokens + newTokens) maxRequests : Int) : ℚ)
          ≤ ((bucket.tokens + newTokens : Int) : ℚ) := by exact_mod_cast min_le_left _ _
        _ = bucket.tokens + newTokens := by push_cast; rfl
        _ ≤ bucket.tokens + (now - bucket.lastRefill) * cfg.rate maxRequests := by
            rw [hfloor]
            exact add_le_add_right (Int.floor_le _) _
    rw [hrefill]
    unfold RateBucket.worth
    dsimp only
    calc _ ≤ bucket.tokens + (now - bucket.lastRefill) * cfg.rate maxRequests +
          (b - now) * cfg.rate maxRequests := add_le_add_left htokens _
      _ = bucket.tokens + (b - bucket.lastRefill) * cfg.rate maxRequests := by ring

/-- A request at `a` or later finds a bucket worth no more than a full one at `a`. -/
theorem refill_worth_le_bound {bucket : RateBucket} {now : ℚ} (hmax : 1 ≤ maxRequests)
    (hbucket : bucket.Within maxRequests now) (hnow : a ≤ now) :
    (refill cfg bucket now maxRequests).worth cfg maxRequests b ≤
      rateBound cfg maxRequests a b := by
  have hrate : 0 < cfg.rate maxRequests := rate_pos hmax
  have hspan : (b - now) * cfg.rate maxRequests ≤ (b - a) * cfg.rate maxRequests :=
    mul_le_mul_of_nonneg_right (by linarith) hrate.le
  unfold rateBound RateBucket.worth
  rcases @refill_cases cfg bucket maxRequests now hmax hbucket.time with
    ⟨hsame, hshort⟩ | ⟨newTokens, -, -, hrefill⟩
  · -- less than a token is missing, and the bucket is not full
    have htokens : (bucket.tokens : ℚ) ≤ maxRequests - 1 := by exact_mod_cast hbucket.below
    rw [hsame]
    calc _ = bucket.tokens + (now - bucket.lastRefill) * cfg.rate maxRequests +
          (b - now) * cfg.rate maxRequests := by ring
      _ ≤ maxRequests + (b - a) * cfg.rate maxRequests := by linarith
  · have hfull : ((min (bucket.tokens + newTokens) maxRequests : Int) : ℚ) ≤ maxRequests := by
      exact_mod_cast min_le_right _ _
    rw [hrefill]
    exact add_le_add hfull hspan

theorem credit_some {bucket : RateBucket} (h : buckets key = some bucket) :
    credit cfg key maxRequests a b buckets =
      max 0 (min (bucket.worth cfg maxRequests b) (rateBound cfg maxRequests a b)) := by
  unfold credit
  rw [h, Option.elim_some]

theorem credit_none (h : buckets key = none) :
    credit cfg key maxRequests a b buckets = max 0 (rateBound cfg maxRequests a b) := by
  unfold credit
  rw [h, Option.elim_none]

theorem refilled_worth_le_bound {now : ℚ} (hmax : 1 ≤ maxRequests)
    (hbucket : ∀ bucket, buckets key = some bucket → bucket.Within maxRequests now)
    (hnow : a ≤ now) :
    (refilled cfg buckets key maxRequests now).worth cfg maxRequests b ≤
      rateBound cfg maxRequests a b := by
  unfold refilled
  cases hkey : buckets key with
  | none =>
      have hrate : 0 < cfg.rate maxRequests := rate_pos hmax
      rw [Option.getD_none, refill_new hmax]
      exact add_le_add_right (mul_le_mul_of_nonneg_right (by dsimp only; linarith) hrate.le) _
  | some bucket =>
      rw [Option.getD_some]
      exact refill_worth_le_bound hmax (hbucket bucket hkey) hnow

theorem refilled_credit {now : ℚ} (hmax : 1 ≤ maxRequests)
    (hbucket : ∀ bucket, buckets key = some bucket → bucket.Within maxRequests now) :
    max 0 (min ((refilled cfg buckets key maxRequests now).worth cfg maxRequests b)
      (rateBound cfg maxRequests a b)) ≤ credit cfg key maxRequests a b buckets := by
  unfold refilled
  cases hkey : buckets key with
  | none =>
      rw [credit_none hkey]
      exact max_le_max_left _ (min_le_right _ _)
  | some bucket =>
      rw [credit_some hkey, Option.getD_some]
      exact max_le_max_left _
        (min_le_min_right _ (refill_worth_le hmax (hbucket bucket hkey).time))

/-- A request that is allowed from `a` to `b` takes a token of the credit. -/
theorem request_paid {now : ℚ} (henabled : cfg.enabled = true) (hmax : 1 ≤ maxRequests)
    (hbucket : ∀ bucket, buckets key = some bucket → bucket.Within maxRequests now) :
    rateCost cfg key a b buckets (.check key maxRequests now) +
        credit cfg key maxRequests a b (checkRateLimit cfg buckets key maxRequests now).1 ≤
      credit cfg key maxRequests a b buckets := by
  have hcredit : max 0 (min ((refilled cfg buckets key maxRequests now).worth cfg maxRequests b)
      (rateBound cfg maxRequests a b)) ≤ credit cfg key maxRequests a b buckets :=
    refilled_credit hmax hbucket
  have hwithin : (refilled cfg buckets key maxRequests now).taken.Within maxRequests now :=
    taken_within hmax hbucket
  rw [credit_some (checkRateLimit_self henabled)]
  simp only [rateCost]
  split_ifs with hcost
  · -- the bucket is not worth more than the bound, so the token comes off the credit itself
    obtain ⟨-, hallowed, hfrom, hto⟩ := hcost
    rw [checkRateLimit_eq henabled, decide_eq_true_eq] at hallowed
    have hbound : (refilled cfg buckets key maxRequests now).worth cfg maxRequests b ≤
        rateBound cfg maxRequests a b := refilled_worth_le_bound hmax hbucket hfrom
    rw [min_eq_left hbound] at hcredit
    have htaken : 0 ≤ (refilled cfg buckets key maxRequests now).taken.worth cfg maxRequests b := by
      have htokens : (0 : ℚ) ≤ (refilled cfg buckets key maxRequests now).taken.tokens := by
        exact_mod_cast hwithin.nonneg
      exact add_nonneg htokens
        (mul_nonneg (sub_nonneg.2 (hwithin.time.trans hto)) (rate_pos hmax).le)
    have hworth : (refilled cfg buckets key maxRequests now).taken.worth cfg maxRequests b =
        (refilled cfg buckets key maxRequests now).worth cfg maxRequests b - 1 :=
      taken_worth hallowed
    rw [min_eq_left (by linarith), max_eq_right htaken, hworth]
    linarith [le_max_right 0
      ((refilled cfg buckets key maxRequests now).worth cfg maxRequests b)]
  · -- refused, or outside the interval
    rw [zero_add]
    exact (max_le_max_left _ (min_le_min_right _ taken_worth_le)).trans hcredit

/-- A run without cleanups, and where it is. -/
structure Requests (key : String) (maxRequests : Int) (buckets : RateBuckets)
    (es : List RateEvent) : Prop where
  sound : BucketSound key maxRequests es buckets
  time : InTime es
  limit : ConstantLimit key maxRequests es
  checks : ∀ e ∈ es, e.isCheck = true

theorem requests_step (henabled : cfg.enabled = true) (hmax : 1 ≤ maxRequests) (e : RateEvent)
    (h : Requests key maxRequests buckets (e :: es)) :
    Requests key maxRequests (rateNext cfg buckets e) es ∧
      rateCost cfg key a b buckets e + credit cfg key maxRequests a b (rateNext cfg buckets e) ≤
        credit cfg key maxRequests a b buckets := by
  cases e with
  | cleanup now =>
      cases h.checks _ List.mem_cons_self
  | check other limit now =>
      constructor
      · exact {
          sound := bucketSound_check henabled hmax h.time h.limit h.sound
          time := (List.pairwise_cons.1 h.time).2
          limit := fun limit now hmem ↦ h.limit limit now (List.mem_cons_of_mem _ hmem)
          checks := fun e he ↦ h.checks e (List.mem_cons_of_mem _ he) }
      · by_cases hkey : other = key
        · subst hkey
          have hlimit : limit = maxRequests := h.limit limit now List.mem_cons_self
          subst hlimit
          apply request_paid henabled hmax
          intro bucket hbucket
          obtain ⟨hnonneg, hbelow, hlater⟩ := h.sound bucket hbucket
          exact ⟨hnonneg, hbelow, hlater _ List.mem_cons_self rfl⟩
        · simp only [rateCost, rateNext, credit]
          rw [if_neg (fun hcost ↦ hkey hcost.1), zero_add,
            checkRateLimit_of_ne henabled (Ne.symm hkey)]

/-- What the potential pays for are the requests allowed. -/
theorem spent_rateCost :
    Run.spent (rateNext cfg) (rateCost cfg key a b) buckets es =
      ((((decisions cfg buckets es).filter (·.key = key)).countP
        fun d ↦ d.allowed ∧ a ≤ d.now ∧ d.now ≤ b : Nat) : ℚ) := by
  induction es generalizing buckets with
  | nil => rfl
  | cons e es ih =>
      unfold Run.spent
      rw [ih]
      cases e with
      | cleanup now => exact zero_add _
      | check other limit now =>
          simp only [rateCost, decisions, rateNext]
          by_cases hkey : other = key
          · rw [List.filter_cons_of_pos (by simpa using hkey), List.countP_cons]
            by_cases hcost : (checkRateLimit cfg buckets other limit now).2 ∧ a ≤ now ∧ now ≤ b
            · rw [if_pos ⟨hkey, hcost⟩, if_pos (decide_eq_true hcost)]
              push_cast
              ring
            · rw [if_neg (fun h ↦ hcost h.2), if_neg (fun h ↦ hcost (of_decide_eq_true h)),
                zero_add]
              rfl
          · rw [List.filter_cons_of_neg (by simpa using hkey), if_neg (fun h ↦ hkey h.1), zero_add]

theorem allowedIn_le (henabled : cfg.enabled = true) (hmax : 1 ≤ maxRequests) (hab : a ≤ b)
    (htime : InTime es) (hlimit : ConstantLimit key maxRequests es)
    (hchecks : ∀ e ∈ es, e.isCheck = true) :
    (allowedIn cfg key a b es : ℚ) ≤ rateBound cfg maxRequests a b := by
  have hstart : Requests key maxRequests (fun _ ↦ none) es := by
    refine ⟨?_, htime, hlimit, hchecks⟩
    intro bucket hbucket
    cases hbucket
  have hspent : Run.spent (rateNext cfg) (rateCost cfg key a b) (fun _ ↦ none) es ≤
      credit cfg key maxRequests a b (fun _ ↦ none) := by
    apply Run.spent_le (I := Requests key maxRequests)
    · intro buckets e es hrequests
      exact requests_step henabled hmax e hrequests
    · intro buckets
      exact le_max_left _ _
    · exact hstart
  have hbound : 0 ≤ rateBound cfg maxRequests a b := by
    have hrequests : (1 : ℚ) ≤ maxRequests := by exact_mod_cast hmax
    have hspan : 0 ≤ (b - a) * cfg.rate maxRequests :=
      mul_nonneg (sub_nonneg.2 hab) (rate_pos hmax).le
    unfold rateBound
    linarith
  rw [spent_rateCost, credit_none rfl, max_eq_right hbound] at hspent
  exact hspent

end Bound

/-- A limit holds in every interval, and the cleanups of a run change no decision. -/
theorem rateLimit_bound (cfg : RateLimiter) (henabled : cfg.enabled = true) (key : String)
    (maxRequests : Int) (hmax : 1 ≤ maxRequests) (es : List RateEvent) (htime : InTime es)
    (hlimit : ConstantLimit key maxRequests es) :
    (∀ start length : ℚ, 0 ≤ length →
      (allowedIn cfg key start (start + length) es : ℚ) ≤
        maxRequests + length * maxRequests / cfg.windowSeconds) ∧
    ∀ es', InTime es' → es'.filter (·.isCheck) = es.filter (·.isCheck) →
      decisionsOf cfg key es' = decisionsOf cfg key es := by
  constructor
  · -- the potential pays for the run without its cleanups, which decides the same
    intro start length hlength
    have hlimit' : ConstantLimit key maxRequests (es.filter (·.isCheck)) := by
      intro limit now hmem
      exact hlimit limit now (List.mem_filter.1 hmem).1
    have hchecks : ∀ e ∈ es.filter (·.isCheck), e.isCheck = true := by
      intro e he
      exact (List.mem_filter.1 he).2
    have hbound : (allowedIn cfg key start (start + length) (es.filter (·.isCheck)) : ℚ) ≤
        rateBound cfg maxRequests start (start + length) :=
      allowedIn_le henabled hmax (le_add_of_nonneg_right hlength) (htime.filter _) hlimit' hchecks
    unfold allowedIn at hbound ⊢
    rw [decisionsOf_filter henabled hmax htime hlimit] at hbound
    calc _ ≤ rateBound cfg maxRequests start (start + length) := hbound
      _ = maxRequests + length * maxRequests / cfg.windowSeconds := by
        unfold rateBound RateLimiter.rate
        ring
  · intro es' htime' hsame
    have hlimit' : ConstantLimit key maxRequests es' := by
      intro limit now hmem
      have hfilter : .check key limit now ∈ es'.filter (·.isCheck) := List.mem_filter.2 ⟨hmem, rfl⟩
      rw [hsame] at hfilter
      exact hlimit limit now (List.mem_filter.1 hfilter).1
    rw [← decisionsOf_filter henabled hmax htime' hlimit', hsame,
      decisionsOf_filter henabled hmax htime hlimit]

/-! Two requests a minute, and a cleanup that drops the bucket between the second and the third. -/

def minuteLimiter : RateLimiter where
  enabled := true

def gatewayRequests : List RateEvent :=
  [.check "device:7" 2 0, .check "device:7" 2 1, .cleanup 150, .check "device:7" 2 151,
    .check "ip:10.0.0.1" 3 151, .check "device:7" 2 152, .check "device:7" 2 153]

theorem gatewayRequests_inTime : InTime gatewayRequests := by
  unfold InTime gatewayRequests
  decide +kernel

theorem gatewayRequests_limit : ConstantLimit "device:7" 2 gatewayRequests := by
  intro limit now hmem
  unfold gatewayRequests at hmem
  simp at hmem
  omega

theorem gatewayRequests_bound :
    (allowedIn minuteLimiter "device:7" 100 (100 + 60) gatewayRequests : ℚ) ≤
        (2 : Int) + 60 * (2 : Int) / (60 : Int) ∧
      decisionsOf minuteLimiter "device:7" (gatewayRequests.eraseIdx 2) =
        decisionsOf minuteLimiter "device:7" gatewayRequests := by
  obtain ⟨hbound, hcleanups⟩ := rateLimit_bound minuteLimiter rfl "device:7" 2 (by decide)
    gatewayRequests gatewayRequests_inTime gatewayRequests_limit
  constructor
  · exact hbound 100 60 (by norm_num)
  · exact hcleanups _ (gatewayRequests_inTime.sublist (List.eraseIdx_sublist _ 2))
      (by decide +kernel)

end RetailMedia
