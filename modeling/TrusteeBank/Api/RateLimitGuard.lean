import TrusteeBank.Api.ClientSeparation
import TrusteeBank.Js
import TrusteeBank.Services.RateLimits

/-!
# The rate limit of a client

`RateLimitGuard` looks up the limit of the client a request comes from, counts the request, and
refuses it when the client has used up its minute. Sessions and requests without credentials are
not counted. The dashboard reads the hourly counters, which Redis keeps for 26 hours.

**Surroundings** (`LimitedRequest`). A request has its own time, and finds the limit its client has
then: administrators may change it at any moment.

* `serve_counted`: how one request is answered, by what has been counted;
* `admitted_of_minute`: a client gets as many requests through in a minute as its limit says;
* `usage_counts`: with Redis the dashboard shows the requests of each hour, those that were refused
  included.
-/

set_option autoImplicit false

namespace TrusteeBank

open Lib (WindowCounter counted)
open RateLimitService

/-! ## The source -/

/-- A request, the limit in the row of its client, and the time. -/
structure LimitedRequest where
  principal : Option Principal
  rateLimitPerMin : Option Int
  nowMs : Int

/-- The body of a 429. -/
structure TooManyRequests where
  statusCode : Nat := 429
  message : String := "Rate limit exceeded"
  retryAfterSeconds : Int
deriving DecidableEq, Repr

/-- What the guard answers, and the headers it sets. -/
structure RateLimitResponse where
  headers : List (String × String)
  result : Except TooManyRequests Bool

/-- A count of the dashboard. -/
structure UsageHour where
  hour : String
  count : Nat
deriving DecidableEq, Repr

namespace RateLimitGuard

/-- The client a request is counted for. -/
def limitedClient (principal : Option Principal) : Option String :=
  match principal with
  | some (.client client) => if client.oauthClientId = "" then none else some client.oauthClientId
  | some (.user _) => none
  | none => none

/-- `client?.rateLimitPerMin ?? 600`. -/
def limitOf (req : LimitedRequest) : Int := req.rateLimitPerMin.getD 600

def rateHeaders (decision : RateDecision) : List (String × String) :=
  [("X-RateLimit-Limit", toString decision.limit),
    ("X-RateLimit-Remaining", toString decision.remaining),
    ("X-RateLimit-Reset", toString decision.resetSeconds)]

def canActivate (available : Bool) (req : LimitedRequest) (s : RateLimitState) :
    RateLimitResponse × RateLimitState :=
  match limitedClient req.principal with
  | none => (⟨[], .ok true⟩, s)
  | some clientId =>
    let (decision, s) := consume available ⟨clientId, limitOf req, req.nowMs⟩ s
    let headers := rateHeaders decision
    if decision.allowed then (⟨headers, .ok true⟩, s)
    else
      (⟨headers ++ [("Retry-After", toString decision.resetSeconds)],
        .error { retryAfterSeconds := decision.resetSeconds }⟩, s)

/-- Requests one after the other, with what is answered. -/
def serve (available : Bool) (s : RateLimitState) :
    List LimitedRequest → List (LimitedRequest × RateLimitResponse) × RateLimitState
  | [] => ([], s)
  | req :: reqs =>
    let (response, s) := canActivate available req s
    let (rest, s) := serve available s reqs
    ((req, response) :: rest, s)

end RateLimitGuard

/-- The counters of the keys. `MGET` without a key is refused. -/
def RedisStore.mget (now : Int) (keys : List String) (redis : RedisStore) :
    Except ApiError (List (Option RedisEntry)) :=
  if keys.isEmpty then
    .error (.thrown "ReplyError" "ERR wrong number of arguments for 'mget' command")
  else .ok (keys.map (redis.live now))

/-- `RateLimitService.usage`. -/
def RateLimitService.usage (available : Bool) (clientId : String) (hours : Nat) (nowMs : Int)
    (redis : RedisStore) : Except ApiError (List UsageHour) := do
  if available then
    let nowHour := nowMs / 3600000
    let hourOf (i : Nat) : Int := nowHour - (hours - 1 - i)
    let values ← redis.mget nowMs ((List.range hours).map fun i => usageKey clientId (hourOf i))
    return (List.range hours).zipWith
      (fun i value =>
        { hour := String.ofList ((isoString (hourOf i * 3600000)).toList.take 13) ++ ":00Z"
          count := value.elim 0 RedisEntry.count }) values
  else return []

/-- The total of `AdminService.usage`. -/
def AdminService.usageTotal (hourly : List UsageHour) : Nat := (hourly.map UsageHour.count).sum

/-! ## One request -/

namespace RateLimitGuard

/-- The client and the clock minute a request is counted in. -/
def requestWindow (req : LimitedRequest) : Option (String × Int) :=
  (limitedClient req.principal).map fun clientId => (clientId, minuteOf req.nowMs)

/-- The request was let through. -/
def Passed (answered : LimitedRequest × RateLimitResponse) : Prop := answered.2.result.isOk = true

instance (answered : LimitedRequest × RateLimitResponse) : Decidable (Passed answered) :=
  inferInstanceAs (Decidable (_ = true))

section

variable {σ : Type} {available : Bool} {W : WindowCounter (String × Int) Int σ}
  {store : RateLimitState → σ} {t : Int} {n : String × Int → Nat} {s : RateLimitState}
  {req : LimitedRequest}

theorem canActivate_free (h : requestWindow req = none) :
    canActivate available req s = (⟨[], .ok true⟩, s) := by
  unfold requestWindow at h
  unfold canActivate
  rw [Option.map_eq_none_iff.mp h]

/-- **One request of a client.** It passes when its number is within the limit, and is counted. -/
theorem canActivate_counted (h : CountsIn available W store) (hcounts : W.Counts t n (store s))
    (hle : t ≤ req.nowMs) {k : String × Int} (hk : requestWindow req = some k) :
    (Passed (req, (canActivate available req s).1) ↔ ((n k + 1 : Nat) : Int) ≤ limitOf req) ∧
      W.Counts req.nowMs (counted n k) (store (canActivate available req s).2) := by
  unfold requestWindow at hk
  obtain ⟨clientId, hclient, rfl⟩ := Option.map_eq_some_iff.mp hk
  let call : RateLimitCall := ⟨clientId, limitOf req, req.nowMs⟩
  have hopen := h.opened call
  have hdecision := h.decision call s
  rw [W.hit_count hcounts hle hopen] at hdecision
  have hstore := h.store_consume call s
  have hnext := W.counts_hit hcounts hle hopen
  rw [← hstore] at hnext
  have hallowed : (consume available call s).1.allowed = true ↔
      ((n (clientId, minuteOf req.nowMs) + 1 : Nat) : Int) ≤ limitOf req := by
    rw [hdecision]
    exact decide_eq_true_iff
  unfold canActivate Passed
  rw [hclient]
  simp only
  by_cases hpass : (consume available call s).1.allowed = true
  · rw [if_pos hpass]
    exact ⟨⟨fun _ => hallowed.mp hpass, fun _ => rfl⟩, hnext⟩
  · rw [if_neg hpass]
    exact ⟨⟨fun hok => Bool.noConfusion hok, fun hlimit => absurd (hallowed.mpr hlimit) hpass⟩, hnext⟩

/-- The requests of a window that pass. -/
def passes (available : Bool) (s : RateLimitState) (reqs : List LimitedRequest)
    (k : String × Int) : Nat :=
  (serve available s reqs).1.countP fun a => requestWindow a.1 = some k ∧ Passed a

/-- The requests of a window. -/
def sent (reqs : List LimitedRequest) (k : String × Int) : Nat :=
  reqs.countP fun r => requestWindow r = some k

theorem sent_cons (req : LimitedRequest) (reqs : List LimitedRequest) (k : String × Int) :
    sent (req :: reqs) k = sent reqs k + if requestWindow req = some k then 1 else 0 := by
  unfold sent
  rw [List.countP_cons]
  simp only [decide_eq_true_eq]

theorem passes_cons (req : LimitedRequest) (reqs : List LimitedRequest) (k : String × Int) :
    passes available s (req :: reqs) k = passes available (canActivate available req s).2 reqs k +
      if requestWindow req = some k ∧ Passed (req, (canActivate available req s).1) then 1 else 0 := by
  unfold passes
  rw [serve, List.countP_cons]
  simp only [decide_eq_true_eq]

/-- **How one request is answered**, by what has been counted, and what is counted then. -/
theorem serve_counted (h : CountsIn available W store) (hcounts : W.Counts t n (store s))
    {reqs : List LimitedRequest} (hfrom : ∀ r ∈ req :: reqs, t ≤ r.nowMs)
    (hsorted : (req :: reqs).Pairwise fun a b => a.nowMs ≤ b.nowMs) (k : String × Int) :
    ∃ t' n', W.Counts t' n' (store (canActivate available req s).2) ∧
      (∀ r ∈ reqs, t' ≤ r.nowMs) ∧
      n' k = n k + (if requestWindow req = some k then 1 else 0) ∧
      passes available s (req :: reqs) k = passes available (canActivate available req s).2 reqs k +
        if requestWindow req = some k ∧ ((n k + 1 : Nat) : Int) ≤ limitOf req then 1 else 0 := by
  obtain ⟨hle, hfrom⟩ := List.forall_mem_cons.mp hfrom
  rw [passes_cons]
  cases hwindow : requestWindow req with
  | none =>
    refine ⟨t, n, ?_, hfrom, by simp, by simp⟩
    rw [canActivate_free hwindow]
    exact hcounts
  | some j =>
    obtain ⟨hpassed, hnext⟩ := canActivate_counted h hcounts hle hwindow
    refine ⟨req.nowMs, counted n j, hnext, (List.pairwise_cons.mp hsorted).1, ?_, ?_⟩
    · by_cases hj : j = k
      · subst hj
        rw [Lib.counted_self, if_pos rfl]
      · rw [Lib.counted_of_ne (Ne.symm hj), if_neg fun heq => hj (Option.some.inj heq),
          Nat.add_zero]
    · by_cases hj : j = k
      · subst hj
        simp only [hpassed, true_and]
      · simp [hj]

/-! ## A minute of a client -/

theorem passes_le (h : CountsIn available W store) (hcounts : W.Counts t n (store s))
    {reqs : List LimitedRequest} (hfrom : ∀ r ∈ reqs, t ≤ r.nowMs)
    (hsorted : reqs.Pairwise fun a b => a.nowMs ≤ b.nowMs) {k : String × Int} {limit : Int}
    (hlimit : ∀ r ∈ reqs, requestWindow r = some k → limitOf r ≤ limit) :
    passes available s reqs k ≤ (limit - n k).toNat := by
  induction reqs generalizing t n s with
  | nil => exact Nat.zero_le _
  | cons req reqs ih =>
    obtain ⟨hreq, hlimit⟩ := List.forall_mem_cons.mp hlimit
    obtain ⟨t', n', hcounts', hfrom', hn, hpasses⟩ := serve_counted h hcounts hfrom hsorted k
    have hrest := ih hcounts' hfrom' (List.pairwise_cons.mp hsorted).2 hlimit
    rw [hpasses]
    by_cases hwindow : requestWindow req = some k
    · have hle := hreq hwindow
      rw [if_pos hwindow] at hn
      by_cases hpass : ((n k + 1 : Nat) : Int) ≤ limitOf req
      · rw [if_pos ⟨hwindow, hpass⟩]
        omega
      · rw [if_neg fun hboth => hpass hboth.2]
        omega
    · rw [if_neg hwindow] at hn
      rw [if_neg fun hboth => hwindow hboth.1]
      omega

theorem passes_eq (h : CountsIn available W store) (hcounts : W.Counts t n (store s))
    {reqs : List LimitedRequest} (hfrom : ∀ r ∈ reqs, t ≤ r.nowMs)
    (hsorted : reqs.Pairwise fun a b => a.nowMs ≤ b.nowMs) {k : String × Int} {limit : Int}
    (hlimit : ∀ r ∈ reqs, requestWindow r = some k → limitOf r = limit) :
    passes available s reqs k = min (limit - n k).toNat (sent reqs k) := by
  induction reqs generalizing t n s with
  | nil => exact (Nat.min_eq_right (Nat.zero_le _)).symm
  | cons req reqs ih =>
    obtain ⟨hreq, hlimit⟩ := List.forall_mem_cons.mp hlimit
    obtain ⟨t', n', hcounts', hfrom', hn, hpasses⟩ := serve_counted h hcounts hfrom hsorted k
    have hrest := ih hcounts' hfrom' (List.pairwise_cons.mp hsorted).2 hlimit
    rw [hpasses, sent_cons]
    by_cases hwindow : requestWindow req = some k
    · have heq := hreq hwindow
      rw [if_pos hwindow] at hn ⊢
      by_cases hpass : ((n k + 1 : Nat) : Int) ≤ limitOf req
      · rw [if_pos ⟨hwindow, hpass⟩]
        omega
      · rw [if_neg fun hboth => hpass hboth.2]
        omega
    · rw [if_neg hwindow] at hn
      rw [if_neg fun hboth => hwindow hboth.1, if_neg hwindow]
      omega

/-- A time before all requests. -/
theorem exists_start (reqs : List LimitedRequest) : ∃ t : Int, ∀ r ∈ reqs, t ≤ r.nowMs := by
  induction reqs with
  | nil => exact ⟨0, fun _ hr => absurd hr List.not_mem_nil⟩
  | cons req reqs ih =>
    obtain ⟨t, ht⟩ := ih
    refine ⟨min t req.nowMs, List.forall_mem_cons.mpr ⟨min_le_right _ _, fun r hr => ?_⟩⟩
    exact (min_le_left _ _).trans (ht r hr)

end

/-- **A client gets as many requests through in a clock minute as its limit says**, with Redis and
without: never more than the highest limit it has had in the minute, and if the limit did not
change, all it sends up to that number. -/
theorem admitted_of_minute (available : Bool) {reqs : List LimitedRequest}
    (hsorted : reqs.Pairwise fun a b => a.nowMs ≤ b.nowMs) (k : String × Int) (limit : Nat) :
    ((∀ r ∈ reqs, requestWindow r = some k → limitOf r ≤ limit) →
      passes available start reqs k ≤ limit) ∧
    ((∀ r ∈ reqs, requestWindow r = some k → limitOf r = limit) →
      passes available start reqs k = min limit (sent reqs k)) ∧
    ∀ a ∈ (serve available start reqs).1, requestWindow a.1 = none → a.2 = ⟨[], .ok true⟩ := by
  obtain ⟨t, hfrom⟩ := exists_start reqs
  have hfree : ∀ s, ∀ a ∈ (serve available s reqs).1, requestWindow a.1 = none →
      a.2 = ⟨[], .ok true⟩ := by
    clear hsorted hfrom
    induction reqs with
    | nil => exact fun _ _ ha => absurd ha List.not_mem_nil
    | cons req reqs ih =>
      intro s a ha hnone
      rcases List.mem_cons.mp ha with rfl | ha
      · exact congrArg Prod.fst (canActivate_free hnone)
      · exact ih _ a ha hnone
  cases available with
  | true =>
    refine ⟨fun hlimit => ?_, fun hlimit => ?_, hfree start⟩
    · exact passes_le redis_countsIn (redis_countsIn.started t) hfrom hsorted hlimit
    · exact passes_eq redis_countsIn (redis_countsIn.started t) hfrom hsorted hlimit
  | false =>
    refine ⟨fun hlimit => ?_, fun hlimit => ?_, hfree start⟩
    · exact passes_le memory_countsIn (memory_countsIn.started t) hfrom hsorted hlimit
    · exact passes_eq memory_countsIn (memory_countsIn.started t) hfrom hsorted hlimit

/-! ## The hours of the dashboard -/

/-- The client and the hour a request is counted in. -/
def requestHour (req : LimitedRequest) : Option (String × Int) :=
  (limitedClient req.principal).map fun clientId => (clientId, req.nowMs / 3600000)

/-- The last minute in which the counter of an hour is sure to be there. -/
def lastMinuteOf (hour : Int) : Int := 60 * (hour + 26) - 1

theorem lt_endOf_lastMinute {nowMs hour : Int} :
    nowMs < endOf (lastMinuteOf hour) ↔ nowMs < 3600000 * (hour + 26) := by
  unfold endOf lastMinuteOf
  omega

theorem toList_usageKey (clientId : String) (hour : Int) :
    (usageKey clientId hour).toList =
      ['u', 's', 'a', 'g', 'e', ':'] ++ clientId.toList ++ ':' :: (toString hour).toList := by
  unfold usageKey
  rw [String.toList_append, String.toList_append, String.toList_append, List.append_assoc]
  rfl

/-- A usage key belongs to one client and one hour. -/
theorem usageKey_inj {clientId clientId' : String} {hour hour' : Int}
    (h : usageKey clientId hour = usageKey clientId' hour') :
    (clientId, hour) = (clientId', hour') := by
  have hlist := congrArg String.toList h
  rw [toList_usageKey, toList_usageKey] at hlist
  obtain ⟨hclient, hhour⟩ :=
    append_colon_inj (colon_notMem_toString hour) (colon_notMem_toString hour') hlist
  rw [String.toList_inj.mp (List.append_cancel_left hclient),
    toString_injective (String.toList_inj.mp hhour)]

/-- At the time `t`, the counters of the hours that are not 26 hours back have counted `n k`
requests of each client and hour `k`. -/
def UsageCounts (t : Int) (n : String × Int → Nat) (redis : RedisStore) : Prop :=
  ∀ k : String × Int, t < endOf (lastMinuteOf k.2) →
    RedisCounts (lastMinuteOf k.2) (n k) (redis (usageKey k.1 k.2))

theorem UsageCounts.later {t t' : Int} {n : String × Int → Nat} {redis : RedisStore}
    (h : UsageCounts t n redis) (hle : t ≤ t') : UsageCounts t' n redis :=
  fun k hk => h k (lt_of_le_of_lt hle hk)

/-- A request is counted in the key of its hour. -/
theorem countFor_usage {nowMs : Int} {n : Nat} {redis : RedisStore} {key : String}
    (h : RedisCounts (lastMinuteOf (nowMs / 3600000)) n (redis key)) :
    RedisCounts (lastMinuteOf (nowMs / 3600000)) (n + 1)
      ((redis.countFor key 93600 nowMs).2 key) := by
  cases hentry : redis key with
  | none =>
    rw [hentry] at h
    obtain rfl : n = 0 := h
    obtain ⟨-, hkey⟩ := countFor_none hentry 93600 nowMs
    rw [hkey]
    refine ⟨rfl, Nat.one_pos, _, rfl, ?_⟩
    unfold endOf lastMinuteOf
    omega
  | some entry =>
    rw [hentry] at h
    obtain ⟨rfl, hpos, hexpires⟩ := h
    obtain ⟨-, hkey⟩ := countFor_some hentry hpos 93600 nowMs
    rw [hkey]
    exact ⟨rfl, Nat.succ_pos _, hexpires⟩

/-- **One request more** of a client in its hour. -/
theorem UsageCounts.count {t nowMs : Int} {n : String × Int → Nat} {redis : RedisStore}
    (h : UsageCounts t n redis) (hle : t ≤ nowMs) (clientId : String) :
    UsageCounts nowMs (counted n (clientId, nowMs / 3600000))
      (countInRedis clientId nowMs redis).2 := by
  intro k hk
  have hcounts := h k (lt_of_le_of_lt hle hk)
  have hlive := live_of_counts hcounts hk
  rw [← hlive] at hcounts
  have hother : ((redis.live nowMs).countFor (rlKey clientId (minuteOf nowMs)) 65 nowMs).2
      (usageKey k.1 k.2) = redis.live nowMs (usageKey k.1 k.2) :=
    countFor_of_ne (rlKey_ne_usageKey _ _ _ _).symm 65 nowMs _
  rw [← hother] at hcounts
  change RedisCounts _ _ ((RedisStore.countFor _ _ _ _).2 (usageKey k.1 k.2))
  by_cases hkey : k = (clientId, nowMs / 3600000)
  · subst hkey
    rw [Lib.counted_self]
    exact countFor_usage hcounts
  · have hne : usageKey k.1 k.2 ≠ usageKey clientId (nowMs / 3600000) :=
      fun heq => hkey (usageKey_inj heq)
    rw [Lib.counted_of_ne hkey, countFor_of_ne hne]
    exact hcounts

/-- **What has been counted after requests** that were served before `nowMs`. -/
theorem serve_usage {t nowMs : Int} {n : String × Int → Nat} {s : RateLimitState}
    {reqs : List LimitedRequest} (h : UsageCounts t n s.redis) (hnow : t ≤ nowMs)
    (hfrom : ∀ r ∈ reqs, t ≤ r.nowMs) (hbefore : ∀ r ∈ reqs, r.nowMs ≤ nowMs)
    (hsorted : reqs.Pairwise fun a b => a.nowMs ≤ b.nowMs) :
    UsageCounts nowMs (fun k => n k + reqs.countP fun r => requestHour r = some k)
      (serve true s reqs).2.redis := by
  induction reqs generalizing t n s with
  | nil => exact h.later hnow
  | cons req reqs ih =>
    obtain ⟨hle, hfrom⟩ := List.forall_mem_cons.mp hfrom
    obtain ⟨hreq, hbefore⟩ := List.forall_mem_cons.mp hbefore
    obtain ⟨hnext, hsorted⟩ := List.pairwise_cons.mp hsorted
    rw [serve]
    cases hclient : limitedClient req.principal with
    | none =>
      have hstate : (canActivate true req s).2 = s := by
        unfold canActivate
        rw [hclient]
      have hhour : requestHour req = none := by
        unfold requestHour
        rw [hclient]
        rfl
      have hrest := ih (hstate ▸ h) hnow hfrom hbefore hsorted
      simp only [List.countP_cons, hhour]
      exact hrest
    | some clientId =>
      have hstate : (canActivate true req s).2.redis =
          (countInRedis clientId req.nowMs s.redis).2 := by
        unfold canActivate
        rw [hclient]
        simp only
        split_ifs <;> rfl
      have hhour : requestHour req = some (clientId, req.nowMs / 3600000) := by
        unfold requestHour
        rw [hclient]
        rfl
      have hrest := ih (hstate ▸ h.count hle clientId) hreq hnext hbefore hsorted
      have hcount : (fun k => counted n (clientId, req.nowMs / 3600000) k +
          reqs.countP fun r => requestHour r = some k) =
          fun k => n k + (req :: reqs).countP fun r => requestHour r = some k := by
        funext k
        rw [List.countP_cons, hhour]
        by_cases hk : k = (clientId, req.nowMs / 3600000)
        · subst hk
          rw [Lib.counted_self]
          simp only [decide_true, if_true]
          omega
        · rw [Lib.counted_of_ne hk, if_neg (by simpa using Ne.symm hk)]
          rfl
      rw [← hcount]
      exact hrest

/-- The hour at a position of the dashboard. -/
def hourAt (hours : Nat) (nowMs : Int) (i : Nat) : Int := nowMs / 3600000 - (hours - 1 - i)

/-- Hours one after the other are counted together. -/
theorem sum_hours (reqs : List LimitedRequest) (clientId : String) (first : Int) (hours : Nat) :
    ((List.range hours).map fun i : Nat =>
        reqs.countP fun r => requestHour r = some (clientId, first + i)).sum =
      reqs.countP fun r => limitedClient r.principal = some clientId ∧
        first ≤ r.nowMs / 3600000 ∧ r.nowMs / 3600000 < first + hours := by
  have hiff (r : LimitedRequest) (hour : Int) : requestHour r = some (clientId, hour) ↔
      limitedClient r.principal = some clientId ∧ r.nowMs / 3600000 = hour := by
    unfold requestHour
    cases limitedClient r.principal <;> simp
  induction hours with
  | zero =>
    refine (List.countP_eq_zero.mpr fun r _ => ?_).symm
    simp only [decide_eq_true_eq]
    omega
  | succ hours ih =>
    rw [List.range_succ, List.map_append, List.sum_append, ih, List.map_singleton,
      List.sum_singleton]
    clear ih
    induction reqs with
    | nil => rfl
    | cons r reqs ih =>
      rw [List.countP_cons, List.countP_cons, List.countP_cons, ← ih]
      simp only [decide_eq_true_eq, hiff]
      by_cases hclient : limitedClient r.principal = some clientId
      · simp only [hclient, true_and]
        split_ifs <;> omega
      · simp only [hclient, false_and, if_false]
        omega

/-- What the requests of each hour add up to. -/
def hourlyOf (reqs : List LimitedRequest) (clientId : String) (hours : Nat) (nowMs : Int) :
    List UsageHour :=
  (List.range hours).map fun i : Nat =>
    { hour := String.ofList ((isoString (hourAt hours nowMs i * 3600000)).toList.take 13) ++ ":00Z"
      count := reqs.countP fun r => requestHour r = some (clientId, hourAt hours nowMs i) }

/-- The usage of one hour or more is read off the keys of its hours. -/
theorem usage_of_pos {hours : Nat} (hpos : 0 < hours) (clientId : String) (nowMs : Int)
    (redis : RedisStore) : usage true clientId hours nowMs redis =
      .ok ((List.range hours).map fun i : Nat =>
        { hour := String.ofList
            ((isoString (hourAt hours nowMs i * 3600000)).toList.take 13) ++ ":00Z"
          count := (redis.live nowMs (usageKey clientId (hourAt hours nowMs i))).elim 0
            RedisEntry.count }) := by
  have hne : List.range hours ≠ [] := by
    rw [Ne, List.range_eq_nil]
    omega
  unfold usage RedisStore.mget
  simp only [if_true, List.isEmpty_iff, List.map_eq_nil_iff, hne, if_false, bind, Except.bind,
    pure, Except.pure, List.map_map, List.zipWith_map_right, List.zipWith_self]
  rfl

/-- **The dashboard shows the requests of each hour**, those that were refused included, and their
total, for any number of hours from one to 26. -/
theorem usage_counts {reqs : List LimitedRequest} {nowMs : Int} {hours : Nat} (hpos : 0 < hours)
    (hhours : hours ≤ 26) (hbefore : ∀ r ∈ reqs, r.nowMs ≤ nowMs)
    (hsorted : reqs.Pairwise fun a b => a.nowMs ≤ b.nowMs) (clientId : String) :
    usage true clientId hours nowMs (serve true start reqs).2.redis =
      .ok (hourlyOf reqs clientId hours nowMs) ∧
    AdminService.usageTotal (hourlyOf reqs clientId hours nowMs) = reqs.countP fun r =>
      limitedClient r.principal = some clientId ∧
        nowMs / 3600000 - hours < r.nowMs / 3600000 ∧ r.nowMs / 3600000 ≤ nowMs / 3600000 := by
  obtain ⟨t, hfrom⟩ := exists_start reqs
  have hstart : UsageCounts (min t nowMs) (fun _ => 0) start.redis := fun _ _ => rfl
  have hcounts := serve_usage hstart (min_le_right _ _)
    (fun r hr => (min_le_left _ _).trans (hfrom r hr)) hbefore hsorted
  have hcount {i : Nat} (hi : i < hours) :
      (((serve true start reqs).2.redis.live nowMs
        (usageKey clientId (hourAt hours nowMs i))).elim 0 RedisEntry.count) =
      reqs.countP fun r => requestHour r = some (clientId, hourAt hours nowMs i) := by
    have hlast : nowMs < endOf (lastMinuteOf (hourAt hours nowMs i)) := by
      rw [lt_endOf_lastMinute]
      unfold hourAt
      omega
    have hkey := hcounts (clientId, hourAt hours nowMs i) hlast
    rw [live_of_counts hkey hlast]
    simp only [Nat.zero_add] at hkey
    cases hentry : (serve true start reqs).2.redis (usageKey clientId (hourAt hours nowMs i)) with
    | none =>
      rw [hentry] at hkey
      exact hkey.symm
    | some entry =>
      rw [hentry] at hkey
      exact hkey.1
  constructor
  · rw [usage_of_pos hpos]
    refine congrArg Except.ok (List.map_congr_left fun i hi => ?_)
    exact congrArg (UsageHour.mk _) (hcount (List.mem_range.mp hi))
  unfold AdminService.usageTotal hourlyOf
  rw [List.map_map]
  have hfirst (i : Nat) : hourAt hours nowMs i = nowMs / 3600000 - hours + 1 + i := by
    unfold hourAt
    omega
  simp only [Function.comp_def, hfirst]
  rw [sum_hours]
  refine List.countP_congr fun r _ => ?_
  simp only [decide_eq_true_eq]
  refine and_congr_right fun _ => ?_
  omega

end RateLimitGuard

/-! ## A client over its limit -/

namespace Sample

def limitedRequest (nowMs : Int) : LimitedRequest :=
  ⟨some (.client ⟨"PAYCHAIN", "paychain", "PayChain"⟩), some 2, nowMs⟩

/-- Three requests within a minute, and one in the next hour. -/
def limitedRequests : List LimitedRequest :=
  [limitedRequest 1000, limitedRequest 2000, limitedRequest 3000, limitedRequest 3600000]

theorem limitedRequests_sorted : limitedRequests.Pairwise fun a b => a.nowMs ≤ b.nowMs := by
  simp [limitedRequests, limitedRequest]

end Sample

open Sample in
theorem admitted_of_minute_two :
    RateLimitGuard.passes false start limitedRequests ("paychain", 0) = 2 ∧
      RateLimitGuard.sent limitedRequests ("paychain", 0) = 3 :=
  ⟨(RateLimitGuard.admitted_of_minute false limitedRequests_sorted ("paychain", 0) 2).2.1
    (by decide), by decide⟩

open Sample in
theorem usage_counts_hours :
    (usage true "paychain" 2 3700000
      (RateLimitGuard.serve true start limitedRequests).2.redis).map AdminService.usageTotal =
        .ok 4 := by
  have h := @RateLimitGuard.usage_counts limitedRequests 3700000 2 (by decide) (by decide)
    (by decide) limitedRequests_sorted "paychain"
  rw [h.1]
  exact congrArg Except.ok (h.2.trans (by decide))

end TrusteeBank
