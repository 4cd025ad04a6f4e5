import TrusteeBank.Decimals
import TrusteeBank.Lib.Windows

/-!
# Rate limits

`RateLimitService.consume` counts the calls of a client within a clock minute: in Redis, or in
memory when Redis is not available. The entry in memory is reset at an instant computed from the
rounded seconds that are left of the minute; the key in Redis expires 65 seconds after it was
created. Neither happens while the minute lasts.

**Theorem (`rate_limit_paths_agree`).** At times that do not decrease, both paths give the k-th call
of a client within a minute the count k, and decide alike.

* `endOf_le_resetMs`: an entry in memory outlasts its minute;
* `rlKey_inj`: a key belongs to one client and one minute;
* `CountsIn.decisions_eq_ordinals`: either path answers as counters that are never dropped.
-/

set_option autoImplicit false

namespace TrusteeBank

open Lib (WindowCounter counted ordinals)

/-! ## The source -/

structure RateDecision where
  allowed : Bool
  limit : Int
  remaining : Int
  resetSeconds : Int
deriving DecidableEq, Repr

/-- A counter in memory. -/
structure MemoryEntry where
  count : Nat
  resetMs : Int

abbrev MemoryStore := String → Option MemoryEntry

/-- A counter of Redis, and when its key expires. -/
structure RedisEntry where
  count : Nat
  expiresAt : Option Int

abbrev RedisStore := String → Option RedisEntry

namespace RedisStore

/-- The keys that have not expired. -/
def live (now : Int) (redis : RedisStore) : RedisStore := fun key =>
  (redis key).filter fun e => e.expiresAt.all fun expiresAt => now < expiresAt

/-- `INCR`: the new count. -/
def incr (key : String) (redis : RedisStore) : Nat × RedisStore :=
  let count := (redis key).elim 0 RedisEntry.count + 1
  (count, Function.update redis key (some ⟨count, (redis key).bind RedisEntry.expiresAt⟩))

/-- `EXPIRE`. -/
def expire (key : String) (seconds now : Int) (redis : RedisStore) : RedisStore :=
  Function.update redis key
    ((redis key).map fun e => { e with expiresAt := some (now + seconds * 1000) })

/-- Count in a key that expires some time after it was created. -/
def countFor (key : String) (seconds now : Int) (redis : RedisStore) : Nat × RedisStore :=
  let (count, redis) := redis.incr key
  (count, if count = 1 then redis.expire key seconds now else redis)

end RedisStore

/-- A call of `consume`, with the time of the clock. -/
structure RateLimitCall where
  clientId : String
  limitPerMin : Int
  nowMs : Int

/-- What the service and Redis hold. -/
structure RateLimitState where
  mem : MemoryStore
  redis : RedisStore

namespace RateLimitService

/-- `Math.floor(nowMs / 60000)`. -/
def minuteOf (nowMs : Int) : Int := nowMs / 60000

/-- `60 - Math.floor((nowMs % 60000) / 1000)`, where the remainder has the sign of the time. -/
def resetSeconds (nowMs : Int) : Int := 60 - nowMs.tmod 60000 / 1000

def rlKey (clientId : String) (minute : Int) : String :=
  "rl:" ++ clientId ++ ":" ++ toString minute

def usageKey (clientId : String) (hour : Int) : String :=
  "usage:" ++ clientId ++ ":" ++ toString hour

/-- The count in Redis. The usage counter of the hour is kept as well. -/
def countInRedis (clientId : String) (nowMs : Int) (redis : RedisStore) : Nat × RedisStore :=
  let (count, redis) := (redis.live nowMs).countFor (rlKey clientId (minuteOf nowMs)) 65 nowMs
  (count, (redis.countFor (usageKey clientId (nowMs / 3600000)) 93600 nowMs).2)

/-- The count in memory. -/
def countInMemory (clientId : String) (nowMs : Int) (mem : MemoryStore) : Nat × MemoryStore :=
  let key := rlKey clientId (minuteOf nowMs)
  let fresh : MemoryEntry := ⟨1, nowMs + resetSeconds nowMs * 1000⟩
  match mem key with
  | none => (1, Function.update mem key (some fresh))
  | some entry =>
    if entry.resetMs < nowMs then (1, Function.update mem key (some fresh))
    else (entry.count + 1,
      Function.update mem key (some { entry with count := entry.count + 1 }))

/-- What is decided about a call with a count. -/
def decisionOf (call : RateLimitCall) (count : Nat) : RateDecision where
  allowed := count ≤ call.limitPerMin
  limit := call.limitPerMin
  remaining := max 0 (call.limitPerMin - count)
  resetSeconds := resetSeconds call.nowMs

/-- `available` says whether Redis is. -/
def consume (available : Bool) (call : RateLimitCall) (s : RateLimitState) :
    RateDecision × RateLimitState :=
  if available then
    let (count, redis) := countInRedis call.clientId call.nowMs s.redis
    (decisionOf call count, { s with redis })
  else
    let (count, mem) := countInMemory call.clientId call.nowMs s.mem
    (decisionOf call count, { s with mem })

/-- The decisions about calls one after the other. -/
def decisions (available : Bool) (s : RateLimitState) : List RateLimitCall → List RateDecision
  | [] => []
  | call :: calls =>
    let (decision, s) := consume available call s
    decision :: decisions available s calls

/-- Before the first call. -/
def start : RateLimitState := ⟨fun _ => none, fun _ => none⟩

/-! ## Keys -/

theorem colon_notMem_toString (n : Int) : ':' ∉ (toString n).toList := by
  have hdigits (k : Nat) : ':' ∉ Nat.toDigits 10 k := by
    intro h
    have hdigit := allDigits_toDigits k _ h
    revert hdigit
    decide
  cases n with
  | ofNat k =>
    rw [toString_ofNat, String.toList_ofList]
    exact hdigits k
  | negSucc k =>
    rw [toString_negSucc, String.toList_ofList, List.mem_cons, not_or]
    exact ⟨by decide, hdigits (k + 1)⟩

/-- The text behind the last colon. -/
theorem append_colon_inj {a b x y : List Char} (hx : ':' ∉ x) (hy : ':' ∉ y)
    (h : a ++ ':' :: x = b ++ ':' :: y) : a = b ∧ x = y := by
  rcases List.append_eq_append_iff.mp h with ⟨c, hb, hc⟩ | ⟨c, ha, hc⟩
  · cases c with
    | nil =>
      rw [hb, List.append_nil]
      exact ⟨rfl, (List.cons.inj hc).2⟩
    | cons d c =>
      obtain ⟨-, hrest⟩ := List.cons.inj hc
      exact absurd (hrest ▸ List.mem_append_right c List.mem_cons_self) hx
  · cases c with
    | nil =>
      rw [ha, List.append_nil]
      exact ⟨rfl, (List.cons.inj hc).2.symm⟩
    | cons d c =>
      obtain ⟨-, hrest⟩ := List.cons.inj hc
      exact absurd (hrest ▸ List.mem_append_right c List.mem_cons_self) hy

theorem toList_rlKey (clientId : String) (minute : Int) :
    (rlKey clientId minute).toList =
      ['r', 'l', ':'] ++ clientId.toList ++ ':' :: (toString minute).toList := by
  unfold rlKey
  rw [String.toList_append, String.toList_append, String.toList_append, List.append_assoc]
  rfl

/-- **A key belongs to one client and one minute**, whatever the client's id is. -/
theorem rlKey_inj {clientId clientId' : String} {minute minute' : Int}
    (h : rlKey clientId minute = rlKey clientId' minute') :
    (clientId, minute) = (clientId', minute') := by
  have hlist := congrArg String.toList h
  rw [toList_rlKey, toList_rlKey] at hlist
  obtain ⟨hclient, hminute⟩ :=
    append_colon_inj (colon_notMem_toString minute) (colon_notMem_toString minute') hlist
  rw [String.toList_inj.mp (List.append_cancel_left hclient),
    toString_injective (String.toList_inj.mp hminute)]

theorem rlKey_ne_usageKey (clientId clientId' : String) (minute hour : Int) :
    rlKey clientId minute ≠ usageKey clientId' hour := by
  intro h
  have hlist := congrArg (fun s => s.toList.head?) h
  unfold usageKey at hlist
  rw [toList_rlKey, String.toList_append, String.toList_append, String.toList_append] at hlist
  revert hlist
  simp

/-! ## Minutes -/

/-- When a minute is over. -/
def endOf (minute : Int) : Int := 60000 * (minute + 1)

theorem lt_endOf (nowMs : Int) : nowMs < endOf (minuteOf nowMs) := by
  unfold endOf minuteOf
  omega

/-- **An entry in memory outlasts its minute**, although the seconds are rounded. -/
theorem endOf_le_resetMs (nowMs : Int) :
    endOf (minuteOf nowMs) ≤ nowMs + resetSeconds nowMs * 1000 := by
  have hrest : nowMs.tmod 60000 ≤ nowMs % 60000 := by
    rw [Int.tmod_eq_emod]
    split_ifs
    · omega
    · omega
  unfold endOf minuteOf resetSeconds
  omega

/-- So does a key of Redis. -/
theorem endOf_le_expiresAt (nowMs : Int) : endOf (minuteOf nowMs) ≤ nowMs + 65 * 1000 := by
  unfold endOf minuteOf
  omega

/-! ## The path in memory -/

/-- The client and the clock minute of a call. -/
def window (call : RateLimitCall) : String × Int := (call.clientId, minuteOf call.nowMs)

/-- An entry has counted `n` calls of its minute, and is not reset before it is over. -/
def MemoryCounts (minute : Int) (n : Nat) : Option MemoryEntry → Prop
  | none => n = 0
  | some entry => entry.count = n ∧ endOf minute ≤ entry.resetMs

theorem countInMemory_eq {clientId : String} {nowMs : Int} {n : Nat} {mem : MemoryStore}
    (h : MemoryCounts (minuteOf nowMs) n (mem (rlKey clientId (minuteOf nowMs)))) :
    ∃ resetMs, endOf (minuteOf nowMs) ≤ resetMs ∧
      countInMemory clientId nowMs mem =
        (n + 1, Function.update mem (rlKey clientId (minuteOf nowMs)) (some ⟨n + 1, resetMs⟩)) := by
  have hlt := lt_endOf nowMs
  unfold countInMemory
  simp only
  cases hentry : mem (rlKey clientId (minuteOf nowMs)) with
  | none =>
    rw [hentry] at h
    obtain rfl : n = 0 := h
    exact ⟨_, endOf_le_resetMs nowMs, rfl⟩
  | some entry =>
    rw [hentry] at h
    obtain ⟨rfl, hreset⟩ := h
    refine ⟨entry.resetMs, hreset, ?_⟩
    have hlive : ¬entry.resetMs < nowMs := by omega
    simp only [hlive, if_false]

/-- The counters in memory. -/
def memoryCounter : WindowCounter (String × Int) Int MemoryStore where
  Open k nowMs := minuteOf nowMs = k.2
  hit k nowMs mem := countInMemory k.1 nowMs mem
  Counts _ n mem := ∀ k : String × Int, MemoryCounts k.2 (n k) (mem (rlKey k.1 k.2))
  hit_count {k t t' n mem} h hle hopen := by
    obtain ⟨clientId, minute⟩ := k
    obtain rfl : minuteOf t' = minute := hopen
    obtain ⟨resetMs, -, heq⟩ := countInMemory_eq (h (clientId, minuteOf t'))
    rw [heq]
  counts_hit {k t t' n mem} h hle hopen := by
    obtain ⟨clientId, minute⟩ := k
    obtain rfl : minuteOf t' = minute := hopen
    obtain ⟨resetMs, hreset, heq⟩ := countInMemory_eq (h (clientId, minuteOf t'))
    intro j
    rw [heq]
    by_cases hj : j = (clientId, minuteOf t')
    · subst hj
      rw [Lib.counted_self]
      simp only [Function.update_self]
      exact ⟨rfl, hreset⟩
    · have hkey : rlKey j.1 j.2 ≠ rlKey clientId (minuteOf t') := fun hkey => hj (rlKey_inj hkey)
      rw [Lib.counted_of_ne hj]
      simp only [Function.update_of_ne hkey]
      exact h j

/-! ## The path in Redis -/

/-- A key has counted `n` calls of its minute, and does not expire before it is over. -/
def RedisCounts (minute : Int) (n : Nat) : Option RedisEntry → Prop
  | none => n = 0
  | some entry => entry.count = n ∧ 0 < n ∧ ∃ expiresAt, entry.expiresAt = some expiresAt ∧
      endOf minute ≤ expiresAt

/-- Another key is not touched. -/
theorem countFor_of_ne {key other : String} (hne : other ≠ key) (seconds now : Int)
    (redis : RedisStore) : (redis.countFor key seconds now).2 other = redis other := by
  unfold RedisStore.countFor RedisStore.incr RedisStore.expire
  simp only
  split_ifs
  · rw [Function.update_of_ne hne, Function.update_of_ne hne]
  · rw [Function.update_of_ne hne]

/-- A key counts on while its minute lasts. -/
theorem live_of_counts {now minute : Int} {n : Nat} {redis : RedisStore} {key : String}
    (h : RedisCounts minute n (redis key)) (hnow : now < endOf minute) :
    redis.live now key = redis key := by
  unfold RedisStore.live
  cases hentry : redis key with
  | none => rfl
  | some entry =>
    rw [hentry] at h
    obtain ⟨-, -, expiresAt, hexpires, hle⟩ := h
    rw [Option.filter_some, hexpires, Option.all_some, if_pos]
    exact decide_eq_true (lt_of_lt_of_le hnow hle)

/-- The first call of a window creates its key. -/
theorem countFor_none {key : String} {redis : RedisStore} (h : redis key = none)
    (seconds now : Int) :
    (redis.countFor key seconds now).1 = 1 ∧
      (redis.countFor key seconds now).2 key = some ⟨1, some (now + seconds * 1000)⟩ := by
  simp [RedisStore.countFor, RedisStore.incr, RedisStore.expire, h]

/-- Every other call leaves its expiry. -/
theorem countFor_some {key : String} {redis : RedisStore} {entry : RedisEntry}
    (h : redis key = some entry) (hpos : 0 < entry.count) (seconds now : Int) :
    (redis.countFor key seconds now).1 = entry.count + 1 ∧
      (redis.countFor key seconds now).2 key = some ⟨entry.count + 1, entry.expiresAt⟩ := by
  have hne : entry.count ≠ 0 := by omega
  simp [RedisStore.countFor, RedisStore.incr, h, hne]

/-- A call is counted in its key. -/
theorem countFor_self {nowMs : Int} {n : Nat} {redis : RedisStore} {key : String}
    (h : RedisCounts (minuteOf nowMs) n (redis key)) :
    (redis.countFor key 65 nowMs).1 = n + 1 ∧
      RedisCounts (minuteOf nowMs) (n + 1) ((redis.countFor key 65 nowMs).2 key) := by
  cases hentry : redis key with
  | none =>
    rw [hentry] at h
    obtain rfl : n = 0 := h
    obtain ⟨hcount, hkey⟩ := countFor_none hentry 65 nowMs
    rw [hkey]
    exact ⟨hcount, rfl, Nat.one_pos, _, rfl, endOf_le_expiresAt nowMs⟩
  | some entry =>
    rw [hentry] at h
    obtain ⟨rfl, hpos, hexpires⟩ := h
    obtain ⟨hcount, hkey⟩ := countFor_some hentry hpos 65 nowMs
    rw [hkey]
    exact ⟨hcount, rfl, Nat.succ_pos _, hexpires⟩

/-- The counters of Redis. -/
def redisCounter : WindowCounter (String × Int) Int RedisStore where
  Open k nowMs := minuteOf nowMs = k.2
  hit k nowMs redis := countInRedis k.1 nowMs redis
  Counts t n redis := ∀ k : String × Int, t < endOf k.2 →
    RedisCounts k.2 (n k) (redis (rlKey k.1 k.2))
  hit_count {k t t' n redis} h hle hopen := by
    obtain ⟨clientId, minute⟩ := k
    obtain rfl : minuteOf t' = minute := hopen
    have hlt := lt_endOf t'
    have hcounts := h (clientId, minuteOf t') (lt_of_le_of_lt hle hlt)
    have hlive := live_of_counts hcounts hlt
    rw [← hlive] at hcounts
    exact (countFor_self hcounts).1
  counts_hit {k t t' n redis} h hle hopen := by
    obtain ⟨clientId, minute⟩ := k
    obtain rfl : minuteOf t' = minute := hopen
    intro j hj
    have hcounts := h j (lt_of_le_of_lt hle hj)
    have hlive := live_of_counts hcounts hj
    rw [← hlive] at hcounts
    show RedisCounts j.2 _ ((RedisStore.countFor _ _ _
      ((redis.live t').countFor (rlKey clientId (minuteOf t')) 65 t').2).2 (rlKey j.1 j.2))
    rw [countFor_of_ne (rlKey_ne_usageKey _ _ _ _)]
    by_cases hkey : j = (clientId, minuteOf t')
    · subst hkey
      rw [Lib.counted_self]
      exact (countFor_self hcounts).2
    · have hne : rlKey j.1 j.2 ≠ rlKey clientId (minuteOf t') := fun h => hkey (rlKey_inj h)
      rw [Lib.counted_of_ne hkey, countFor_of_ne hne]
      exact hcounts

/-! ## The decisions -/

/-- The calls, as hits of their windows. -/
def hits (calls : List RateLimitCall) : List ((String × Int) × Int) :=
  calls.map fun call => (window call, call.nowMs)

/-- The number of a call among those of its client within its minute. -/
def callNumber (calls : List RateLimitCall) (i : Nat) (call : RateLimitCall) : Nat :=
  ((calls.take i).countP fun earlier => window earlier = window call) + 1

/-- A path is decided by the store it counts in. -/
structure CountsIn {σ : Type} (available : Bool) (W : WindowCounter (String × Int) Int σ)
    (store : RateLimitState → σ) : Prop where
  decision (call : RateLimitCall) (s : RateLimitState) : (consume available call s).1 =
    decisionOf call (W.hit (window call) call.nowMs (store s)).1
  store_consume (call : RateLimitCall) (s : RateLimitState) :
    store (consume available call s).2 = (W.hit (window call) call.nowMs (store s)).2
  opened (call : RateLimitCall) : W.Open (window call) call.nowMs
  started (t : Int) : W.Counts t (fun _ => 0) (store start)

theorem memory_countsIn : CountsIn false memoryCounter RateLimitState.mem where
  decision _ _ := rfl
  store_consume _ _ := rfl
  opened _ := rfl
  started _ _ := rfl

theorem redis_countsIn : CountsIn true redisCounter RateLimitState.redis where
  decision _ _ := rfl
  store_consume _ _ := rfl
  opened _ := rfl
  started _ _ _ := rfl

namespace CountsIn

variable {σ : Type} {available : Bool} {W : WindowCounter (String × Int) Int σ}
  {store : RateLimitState → σ}

theorem decisions_eq_counts (h : CountsIn available W store) (s : RateLimitState)
    (calls : List RateLimitCall) :
    decisions available s calls =
      List.zipWith decisionOf calls (W.counts (store s) (hits calls)) := by
  induction calls generalizing s with
  | nil => rfl
  | cons call calls ih =>
    show (consume available call s).1 :: decisions available (consume available call s).2 calls = _
    rw [ih, h.decision, h.store_consume]
    rfl

/-- **Either path counts the calls** of each client within each minute. -/
theorem decisions_eq_ordinals (h : CountsIn available W store) {calls : List RateLimitCall}
    (hsorted : calls.Pairwise fun a b => a.nowMs ≤ b.nowMs) :
    decisions available start calls =
      List.zipWith decisionOf calls (ordinals (fun _ => 0) (calls.map window)) := by
  have htimes : (hits calls).Pairwise fun a b => a.2 ≤ b.2 := List.pairwise_map.mpr hsorted
  have hkeys : (hits calls).map Prod.fst = calls.map window := by
    rw [hits, List.map_map]
    rfl
  have hopen : ∀ hit ∈ hits calls, W.Open hit.1 hit.2 :=
    List.forall_mem_map.mpr fun call _ => h.opened call
  -- the counters are followed from the time of the first call
  have hfrom : ∃ t, ∀ hit ∈ hits calls, t ≤ hit.2 := by
    cases calls with
    | nil => exact ⟨0, fun _ hmem => absurd hmem List.not_mem_nil⟩
    | cons call calls =>
      refine ⟨call.nowMs, List.forall_mem_cons.mpr ⟨le_refl _, ?_⟩⟩
      exact List.forall_mem_map.mpr (List.pairwise_cons.mp hsorted).1
  obtain ⟨t, hfrom⟩ := hfrom
  rw [h.decisions_eq_counts, W.counts_eq (h.started t) hfrom htimes hopen, hkeys]

end CountsIn

/-- **The fallback agrees with Redis**: at times that do not decrease, the k-th call of a client
within a clock minute is given the count k, on both paths. -/
theorem rate_limit_paths_agree {calls : List RateLimitCall}
    (h : calls.Pairwise fun a b => a.nowMs ≤ b.nowMs) :
    (∀ (i : Nat) (call : RateLimitCall), calls[i]? = some call →
      (decisions false start calls)[i]? = some (decisionOf call (callNumber calls i call)) ∧
      ((decisionOf call (callNumber calls i call)).allowed = true ↔
        callNumber calls i call ≤ call.limitPerMin)) ∧
    decisions true start calls = decisions false start calls := by
  have hmemory := memory_countsIn.decisions_eq_ordinals h
  have hredis := redis_countsIn.decisions_eq_ordinals h
  refine ⟨fun i call hcall => ⟨?_, decide_eq_true_iff⟩, hredis.trans hmemory.symm⟩
  have hordinal := Lib.getElem?_ordinals (fun _ => 0) (calls.map window) i
  rw [List.getElem?_map, hcall, Option.map_some, Option.map_some, ← List.map_take,
    List.countP_map, Nat.zero_add] at hordinal
  rw [hmemory, List.getElem?_zipWith, hcall, hordinal]
  rfl

end RateLimitService

/-! ## A busy minute -/

namespace Sample

/-- Three calls of one client within a minute, one of another, and one in the next minute. -/
def busyMinute : List RateLimitCall :=
  [⟨"paychain", 2, 1000⟩, ⟨"paychain", 2, 59000⟩, ⟨"paykh", 2, 59999⟩, ⟨"paychain", 2, 59999⟩,
    ⟨"paychain", 2, 60000⟩]

theorem busyMinute_sorted : busyMinute.Pairwise fun a b => a.nowMs ≤ b.nowMs := by
  unfold busyMinute
  simp

end Sample

/-- The third call of the client is refused on both paths. -/
theorem rate_limit_paths_agree_busy :
    (RateLimitService.decisions false RateLimitService.start Sample.busyMinute)[3]? =
        some ⟨false, 2, 0, 1⟩ ∧
      RateLimitService.decisions true RateLimitService.start Sample.busyMinute =
        RateLimitService.decisions false RateLimitService.start Sample.busyMinute :=
  have h := RateLimitService.rate_limit_paths_agree Sample.busyMinute_sorted
  ⟨(h.1 3 ⟨"paychain", 2, 59999⟩ rfl).1, h.2⟩

end TrusteeBank
