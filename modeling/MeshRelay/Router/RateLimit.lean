import MeshRelay.Router.Daemon
import Mathlib.Algebra.Order.Field.Rat
import Mathlib.Tactic.Linarith

/-! The token-bucket rate limiters and the DATA branch of `Client.ReadLoop`, with tokens, rates
and `time.Now` readings as exact rationals (seconds). -/

namespace MeshRelay

/-! ### Admissions in a window -/

/-- The admission times among `admitted` from `start` to `stop`. -/
def admittedIn (start stop : ℚ) (admitted : List ℚ) : Nat :=
  admitted.countP fun t => decide (start ≤ t ∧ t ≤ stop)

/-- No admission counts nothing. -/
@[simp] theorem admittedIn_nil (start stop : ℚ) : admittedIn start stop [] = 0 := rfl

/-- Admissions in two parts count in two parts. -/
@[simp] theorem admittedIn_append (start stop : ℚ) (first second : List ℚ) :
    admittedIn start stop (first ++ second) =
      admittedIn start stop first + admittedIn start stop second :=
  List.countP_append _ _ _

/-- Admissions that all lie outside the window count nothing. -/
theorem admittedIn_eq_zero {start stop : ℚ} {admitted : List ℚ}
    (outside : ∀ t ∈ admitted, t < start ∨ stop < t) : admittedIn start stop admitted = 0 :=
  List.countP_eq_zero.mpr fun t member inside => by
    have := of_decide_eq_true inside
    rcases outside t member with early | late
    · exact absurd this.1 (not_le.mpr early)
    · exact absurd this.2 (not_le.mpr late)

/-- Past `last`, the end of a window adds no admission made by then. -/
theorem admittedIn_of_past {start stop last : ℚ} {admitted : List ℚ}
    (past : ∀ t ∈ admitted, t ≤ last) (after : last ≤ stop) :
    admittedIn start stop admitted = admittedIn start last admitted :=
  List.countP_congr fun t member => by
    simp only [decide_eq_true_iff]
    exact ⟨fun inside => ⟨inside.1, past t member⟩, fun inside => ⟨inside.1, inside.2.trans after⟩⟩

/-- A wider window counts at least as many admissions. -/
theorem admittedIn_mono {start stop start' stop' : ℚ} (earlier : start' ≤ start)
    (later : stop ≤ stop') (admitted : List ℚ) :
    admittedIn start stop admitted ≤ admittedIn start' stop' admitted :=
  List.countP_mono_left fun _ _ inside => by
    simp only [decide_eq_true_iff] at inside ⊢
    exact ⟨earlier.trans inside.1, inside.2.trans later⟩

/-- A call's own time counts in a window around it exactly when the call was allowed. -/
theorem admittedIn_call {start stop now : ℚ} (inside : start ≤ now ∧ now ≤ stop) (allowed : Bool) :
    admittedIn start stop (if allowed then [now] else []) = if allowed then 1 else 0 := by
  cases allowed <;> simp [admittedIn, inside]

/-- Fewer admissions count no more. -/
theorem admittedIn_sublist {fewer admitted : List ℚ} (sub : fewer.Sublist admitted)
    (start stop : ℚ) : admittedIn start stop fewer ≤ admittedIn start stop admitted :=
  sub.countP_le _

/-! ### The token bucket -/

/-- `TokenBucket`: `tokens` refill at `refillRate` per second up to `maxTokens`, and `lastRefill`
is the `time.Now` reading of the last refill. -/
structure TokenBucket where
  tokens : ℚ
  maxTokens : ℚ
  refillRate : ℚ
  lastRefill : ℚ

namespace TokenBucket

/-- `NewTokenBucket(rate, burst)` when `time.Now` reads `now`: a full bucket. -/
def new (rate : ℚ) (burst : Int) (now : ℚ) : TokenBucket :=
  ⟨burst, burst, rate, now⟩

/-- `Allow()` when `time.Now` reads `now`: refill for the time elapsed, cap at `maxTokens`, and
take a token if a whole one is there. -/
def allow (tb : TokenBucket) (now : ℚ) : Bool × TokenBucket :=
  let elapsed := now - tb.lastRefill
  let tokens := tb.tokens + elapsed * tb.refillRate
  let tokens := if tokens > tb.maxTokens then tb.maxTokens else tokens
  if tokens ≥ 1 then (true, { tb with tokens := tokens - 1, lastRefill := now })
  else (false, { tb with tokens := tokens, lastRefill := now })

/-- `Allow()` called at each of `times` in turn: the answers, and the bucket after. -/
def allowEach (tb : TokenBucket) : List ℚ → List Bool × TokenBucket
  | [] => ([], tb)
  | now :: later =>
    let rest := (tb.allow now).2.allowEach later
    ((tb.allow now).1 :: rest.1, rest.2)

/-- The times among `times` at which `allowEach` answered `true`, in order. -/
def admittedTimes (tb : TokenBucket) : List ℚ → List ℚ
  | [] => []
  | now :: later =>
    (if (tb.allow now).1 then [now] else []) ++ (tb.allow now).2.admittedTimes later

/-- The tokens `Allow()` holds at `now` before it takes one: the refill, capped. -/
def refilled (tb : TokenBucket) (now : ℚ) : ℚ :=
  min tb.maxTokens (tb.tokens + (now - tb.lastRefill) * tb.refillRate)

/-- `Allow()` takes a token exactly when the capped refill holds a whole one. -/
theorem allow_eq (tb : TokenBucket) (now : ℚ) :
    tb.allow now = if 1 ≤ tb.refilled now
      then (true, { tb with tokens := tb.refilled now - 1, lastRefill := now })
      else (false, { tb with tokens := tb.refilled now, lastRefill := now }) := by
  -- The `if tokens > maxTokens` cap is `min`.
  have capped : (if tb.tokens + (now - tb.lastRefill) * tb.refillRate > tb.maxTokens then
      tb.maxTokens else tb.tokens + (now - tb.lastRefill) * tb.refillRate) = tb.refilled now := by
    by_cases over : tb.tokens + (now - tb.lastRefill) * tb.refillRate > tb.maxTokens
    · rw [if_pos over, refilled, min_eq_left (le_of_lt over)]
    · rw [if_neg over, refilled, min_eq_right (not_lt.mp over)]
  simp only [allow, capped, ge_iff_le]

/-- `Allow()` keeps the burst. -/
@[simp] theorem allow_maxTokens (tb : TokenBucket) (now : ℚ) :
    (tb.allow now).2.maxTokens = tb.maxTokens := by
  rw [allow_eq]; split <;> rfl

/-- `Allow()` keeps the rate. -/
@[simp] theorem allow_refillRate (tb : TokenBucket) (now : ℚ) :
    (tb.allow now).2.refillRate = tb.refillRate := by
  rw [allow_eq]; split <;> rfl

/-- `Allow()` refills at its own `time.Now` reading. -/
@[simp] theorem allow_lastRefill (tb : TokenBucket) (now : ℚ) :
    (tb.allow now).2.lastRefill = now := by
  rw [allow_eq]; split <;> rfl

/-- A call's answer and the tokens it leaves add up to the capped refill. -/
theorem allow_tokens_add (tb : TokenBucket) (now : ℚ) :
    (tb.allow now).2.tokens + (if (tb.allow now).1 then 1 else 0) = tb.refilled now := by
  rw [allow_eq]
  split
  · exact sub_add_cancel _ _
  · exact add_zero _

/-- A call answers `true` exactly when a whole token is there after the refill. -/
theorem allow_true_iff (tb : TokenBucket) (now : ℚ) :
    (tb.allow now).1 = true ↔ 1 ≤ tb.refilled now := by
  rw [allow_eq]
  split <;> simp [*]

/-- A call that finds a whole token after the refill takes it. -/
theorem allow_of_one_le {tb : TokenBucket} {now : ℚ} (one : 1 ≤ tb.refilled now) :
    tb.allow now = (true, { tb with tokens := tb.refilled now - 1, lastRefill := now }) := by
  rw [allow_eq, if_pos one]

/-- A second call at the same time finds one token fewer than the first. -/
theorem refilled_again (tb : TokenBucket) (now : ℚ) :
    ({ tb with tokens := tb.refilled now - 1, lastRefill := now } : TokenBucket).refilled now =
      tb.refilled now - 1 := by
  -- nothing elapses, and one token less stays under the cap
  simp only [refilled, sub_self, zero_mul, add_zero]
  exact min_eq_right ((sub_le_self _ zero_le_one).trans (min_le_left _ _))

/-! ### The bucket's invariant -/

/-- What a bucket configured `(rate, burst)` keeps true of the times it `admitted`: its tokens
stay between zero and the burst, every admission was at or before its last refill, the
admissions since any earlier `start` plus the tokens left are within
`burst + rate · (lastRefill - start)`, and every window `[start, stop]` holds at most
`burst + rate · (stop - start)` admissions. -/
structure Admits (rate burst : ℚ) (tb : TokenBucket) (admitted : List ℚ) : Prop where
  rate_nonneg : 0 ≤ rate
  maxTokens_eq : tb.maxTokens = burst
  refillRate_eq : tb.refillRate = rate
  tokens_nonneg : 0 ≤ tb.tokens
  tokens_le : tb.tokens ≤ burst
  past : ∀ t ∈ admitted, t ≤ tb.lastRefill
  since : ∀ start ≤ tb.lastRefill,
    (admittedIn start tb.lastRefill admitted : ℚ) + tb.tokens ≤ burst + rate * (tb.lastRefill - start)
  window : ∀ start stop, start ≤ stop →
    (admittedIn start stop admitted : ℚ) ≤ burst + rate * (stop - start)

/-- A new bucket with a nonnegative rate and burst has admitted nothing. -/
theorem new_admits {rate : ℚ} {burst : Int} (rateNonneg : 0 ≤ rate) (burstNonneg : 0 ≤ burst)
    (now : ℚ) : Admits rate burst (new rate burst now) [] := by
  -- It is full, and every bound has the burst to spare.
  have full : (0 : ℚ) ≤ burst := Int.cast_nonneg.mpr burstNonneg
  refine ⟨rateNonneg, rfl, rfl, full, le_refl _, fun _ member => absurd member (List.not_mem_nil _),
    fun start early => ?_, fun start stop ordered => ?_⟩
  · show ((0 : Nat) : ℚ) + burst ≤ burst + rate * (now - start)
    rw [Nat.cast_zero, zero_add]
    exact le_add_of_nonneg_right (mul_nonneg rateNonneg (sub_nonneg.mpr early))
  · rw [admittedIn_nil, Nat.cast_zero]
    exact add_nonneg full (mul_nonneg rateNonneg (sub_nonneg.mpr ordered))

section Step

variable {rate burst : ℚ} {tb : TokenBucket} {admitted : List ℚ} {now : ℚ}

/-- After a call at `now`, every admission was made at `now` or before. -/
theorem Admits.past_allow (admits : Admits rate burst tb admitted) (later : tb.lastRefill ≤ now) :
    ∀ t ∈ admitted ++ (if (tb.allow now).1 then [now] else []), t ≤ now := by
  intro t member
  rcases List.mem_append.mp member with old | fresh
  · exact (admits.past t old).trans later
  · split at fresh
    · exact le_of_eq (List.mem_singleton.mp fresh)
    · exact absurd fresh (List.not_mem_nil t)

/-- After a call at `now`, the admissions since any `start` plus the tokens left stay within
`burst + rate · (now - start)`: the refill adds at most `rate · (now - lastRefill)` and never
passes the burst. -/
theorem Admits.since_allow (admits : Admits rate burst tb admitted) (later : tb.lastRefill ≤ now)
    {start : ℚ} (early : start ≤ now) :
    (admittedIn start now (admitted ++ if (tb.allow now).1 then [now] else []) : ℚ) +
      (tb.allow now).2.tokens ≤ burst + rate * (now - start) := by
  have gain := allow_tokens_add tb now
  have capped : tb.refilled now ≤ burst := admits.maxTokens_eq ▸ min_le_left _ _
  have grown : tb.refilled now ≤ tb.tokens + (now - tb.lastRefill) * rate :=
    admits.refillRate_eq ▸ min_le_right _ _
  -- The call itself is counted exactly when it answered `true`.
  have counted : (admittedIn start now (if (tb.allow now).1 then [now] else []) : ℚ) =
      if (tb.allow now).1 then 1 else 0 := by
    split <;> simp [admittedIn, early]
  rw [admittedIn_append, Nat.cast_add, counted, admittedIn_of_past admits.past later]
  by_cases recent : start ≤ tb.lastRefill
  · -- The window started before the last refill: the old bound plus this refill.
    have := admits.since start recent
    linarith
  · -- The window started after it: nothing older counts, and the refill is capped.
    rw [admittedIn_eq_zero fun t member => .inl ((admits.past t member).trans_lt (not_le.mp recent))]
    have := mul_nonneg admits.rate_nonneg (sub_nonneg.mpr early)
    push_cast
    linarith

/-- After a call, the tokens are still between zero and the burst. -/
theorem Admits.tokens_allow (admits : Admits rate burst tb admitted) (later : tb.lastRefill ≤ now) :
    0 ≤ (tb.allow now).2.tokens ∧ (tb.allow now).2.tokens ≤ burst := by
  have gain := allow_tokens_add tb now
  have capped : tb.refilled now ≤ burst := admits.maxTokens_eq ▸ min_le_left _ _
  have positive : 0 ≤ tb.refilled now := by
    refine le_min (admits.maxTokens_eq ▸ admits.tokens_nonneg.trans admits.tokens_le) ?_
    rw [admits.refillRate_eq]
    exact add_nonneg admits.tokens_nonneg (mul_nonneg (sub_nonneg.mpr later) admits.rate_nonneg)
  -- A call that took a token had a whole one to take.
  by_cases allowed : (tb.allow now).1 = true
  · rw [if_pos allowed] at gain
    constructor <;> linarith [(allow_true_iff tb now).mp allowed]
  · rw [if_neg allowed] at gain
    constructor <;> linarith

/-- One call at a time no earlier than the last refill keeps the invariant, with the call's time
added to the admissions when it answered `true`. -/
theorem Admits.allow (admits : Admits rate burst tb admitted) (later : tb.lastRefill ≤ now) :
    Admits rate burst (tb.allow now).2 (admitted ++ if (tb.allow now).1 then [now] else []) := by
  have tokens := admits.tokens_allow later
  refine ⟨admits.rate_nonneg, by rw [allow_maxTokens, admits.maxTokens_eq],
    by rw [allow_refillRate, admits.refillRate_eq], tokens.1, tokens.2, ?_, ?_, ?_⟩
  · simpa only [allow_lastRefill] using admits.past_allow later
  · simpa only [allow_lastRefill] using fun start early => admits.since_allow later early
  · intro start stop ordered
    by_cases before : stop < now
    · -- A window that closed before the call is as it was.
      have uncounted : admittedIn start stop (if (tb.allow now).1 then [now] else []) = 0 :=
        admittedIn_eq_zero fun t member => by
          split at member
          · rw [List.mem_singleton.mp member]
            exact .inr before
          · exact absurd member (List.not_mem_nil t)
      rw [admittedIn_append, uncounted, add_zero]
      exact admits.window start stop ordered
    · -- A window reaching the call counts what the new bound since its start allows.
      rw [admittedIn_of_past (admits.past_allow later) (not_lt.mp before)]
      by_cases early : start ≤ now
      · have := admits.since_allow later early
        have := mul_nonneg admits.rate_nonneg (sub_nonneg.mpr (not_lt.mp before))
        linarith
      · rw [admittedIn_eq_zero fun t member => .inl ((admits.past_allow later t member).trans_lt
          (not_le.mp early)), Nat.cast_zero]
        have := mul_nonneg admits.rate_nonneg (sub_nonneg.mpr ordered)
        linarith [admits.tokens_nonneg, admits.tokens_le]

/-- Forgetting some admissions keeps the invariant. -/
theorem Admits.sublist (admits : Admits rate burst tb admitted) {fewer : List ℚ}
    (sub : fewer.Sublist admitted) : Admits rate burst tb fewer := by
  refine ⟨admits.rate_nonneg, admits.maxTokens_eq, admits.refillRate_eq, admits.tokens_nonneg,
    admits.tokens_le, fun t member => admits.past t (sub.subset member), fun start early => ?_,
    fun start stop ordered => ?_⟩
  · have := admits.since start early
    have : (admittedIn start tb.lastRefill fewer : ℚ) ≤ admittedIn start tb.lastRefill admitted :=
      Nat.cast_le.mpr (admittedIn_sublist sub _ _)
    linarith
  · exact (Nat.cast_le.mpr (admittedIn_sublist sub _ _)).trans (admits.window start stop ordered)

end Step

/-- A run of calls at nondecreasing times from the last refill keeps the invariant, adding the
times of the calls it allowed. -/
theorem Admits.allowEach {rate burst : ℚ} : ∀ {tb : TokenBucket} {admitted times : List ℚ},
    Admits rate burst tb admitted → (tb.lastRefill :: times).Pairwise (· ≤ ·) →
    Admits rate burst (tb.allowEach times).2 (admitted ++ tb.admittedTimes times)
  | _, _, [], admits, _ => by simpa [allowEach, admittedTimes] using admits
  | tb, _, now :: later, admits, ordered => by
    -- The first call, then the rest from the refill it made at `now`.
    have first := admits.allow (List.rel_of_pairwise_cons ordered (List.mem_cons_self now later))
    have rest := first.allowEach (by rw [allow_lastRefill]; exact ordered.of_cons)
    simpa only [allowEach, admittedTimes, List.append_assoc] using rest

/-- The calls `i` to `j` of a run at nondecreasing times that answered `true` are admissions of
the run from `times[i]` to `times[j]`. -/
theorem count_segment_le : ∀ (tb : TokenBucket) (times : List ℚ), times.Pairwise (· ≤ ·) →
    ∀ i j (early : i ≤ j) (within : j < times.length),
      (((tb.allowEach times).1.drop i).take (j + 1 - i)).count true ≤
        admittedIn times[i] times[j] (tb.admittedTimes times)
  | _, [], _, _, _, _, within => absurd within (Nat.not_lt_zero _)
  | tb, now :: later, ordered, 0, j, _, within => by
    -- The segment opens with the first call, which counts at its own time.
    have reaches : now ≤ (now :: later)[j] := by
      cases j with
      | zero => exact le_refl now
      | succ j => exact List.rel_of_pairwise_cons ordered (List.getElem_mem _)
    have rest : ((((tb.allow now).2.allowEach later).1).take j).count true ≤
        admittedIn now (now :: later)[j] ((tb.allow now).2.admittedTimes later) := by
      cases j with
      | zero => exact Nat.zero_le _
      | succ j =>
        have := count_segment_le (tb.allow now).2 later ordered.of_cons 0 j (Nat.zero_le j)
          (Nat.lt_of_succ_lt_succ within)
        exact this.trans (admittedIn_mono (List.rel_of_pairwise_cons ordered (List.getElem_mem _))
          (le_refl _) _)
    simp only [allowEach, admittedTimes, List.getElem_cons_zero, admittedIn_append,
      admittedIn_call ⟨le_refl now, reaches⟩, List.drop_zero, Nat.sub_zero, List.take_succ_cons,
      List.count_cons, beq_true]
    omega
  | _, _ :: _, _, _ + 1, 0, early, _ => absurd early (Nat.not_succ_le_zero _)
  | tb, now :: later, ordered, i + 1, j + 1, early, within => by
    -- Past the first call, the segment is one of the rest of the run.
    have := count_segment_le (tb.allow now).2 later ordered.of_cons i j (Nat.le_of_succ_le_succ early)
      (Nat.lt_of_succ_lt_succ within)
    simp only [allowEach, admittedTimes, admittedIn_append, List.drop_succ_cons,
      Nat.add_sub_add_right, List.getElem_cons_succ]
    omega

end TokenBucket

/-! ### The DATA branch of `Client.ReadLoop` -/

/-- The rate-limit fields of `Config`. -/
structure RateLimits where
  clientPacketsPerSec : ℚ
  clientBurstSize : Int
  globalPacketsPerSec : ℚ
  globalBurstSize : Int

/-- `DefaultConfig()`'s rate limits. -/
def defaultRateLimits : RateLimits where
  clientPacketsPerSec := 10
  clientBurstSize := 20
  globalPacketsPerSec := 100
  globalBurstSize := 200

/-- Rates and bursts that are not negative, as the defaults are. -/
structure RateLimits.Nonneg (limits : RateLimits) : Prop where
  client_rate : 0 ≤ limits.clientPacketsPerSec
  client_burst : 0 ≤ limits.clientBurstSize
  global_rate : 0 ≤ limits.globalPacketsPerSec
  global_burst : 0 ≤ limits.globalBurstSize

/-- A limiter call of the relay, with the `time.Now` reading it takes under the bucket's lock. -/
inductive LimiterCall where
  /-- `NewClient` makes the client's `limiter`. -/
  | newClient (conn : ConnId) (now : ℚ)
  /-- `ReadLoop` reads a DATA frame and asks `c.limiter.Allow()`. -/
  | clientAllow (conn : ConnId) (now : ℚ)
  /-- The frame passed the client's limiter: `router.GlobalLimiter.Allow()`. -/
  | globalAllow (conn : ConnId) (now : ℚ)

/-- The relay's limiters, and what its `ReadLoop`s did with DATA frames. -/
structure ReadLoops where
  /-- Each client's `limiter`, once `NewClient` made it. -/
  limiter : ConnId → Option TokenBucket
  /-- `router.GlobalLimiter`. -/
  globalLimiter : TokenBucket
  /-- A `ReadLoop` between its two checks, with the time its client's limiter allowed the frame. -/
  allowedAt : ConnId → Option ℚ
  /-- The DATA frames passed to `RouteFromClient`, oldest first: the client, and the times of
  its two checks. -/
  routed : List (ConnId × ℚ × ℚ)

namespace ReadLoops

/-- `NewRouter` when `time.Now` reads `now`: a full global limiter and no client. -/
def start (limits : RateLimits) (now : ℚ) : ReadLoops where
  limiter _ := none
  globalLimiter := .new limits.globalPacketsPerSec limits.globalBurstSize now
  allowedAt _ := none
  routed := []

/-- `NewClient` makes `conn`'s `limiter` at `now`. -/
def newClient (limits : RateLimits) (s : ReadLoops) (conn : ConnId) (now : ℚ) : ReadLoops :=
  { s with
    limiter := Function.update s.limiter conn
      (some (.new limits.clientPacketsPerSec limits.clientBurstSize now)) }

/-- `if !c.limiter.Allow() { continue }` at `now` in `conn`'s `ReadLoop`, whose limiter is `tb`:
the frame waits for the global limiter when it passes, and is dropped when it does not. -/
def clientAllow (s : ReadLoops) (conn : ConnId) (tb : TokenBucket) (now : ℚ) : ReadLoops :=
  { s with
    limiter := Function.update s.limiter conn (some (tb.allow now).2)
    allowedAt := Function.update s.allowedAt conn (if (tb.allow now).1 then some now else none) }

/-- `if !router.GlobalLimiter.Allow() { continue }; router.RouteFromClient(c, frame.Payload)` at
`now` for `conn`'s frame that its limiter allowed at `checked`. -/
def globalAllow (s : ReadLoops) (conn : ConnId) (checked now : ℚ) : ReadLoops :=
  { s with
    globalLimiter := (s.globalLimiter.allow now).2
    allowedAt := Function.update s.allowedAt conn none
    routed := s.routed ++ if (s.globalLimiter.allow now).1 then [(conn, checked, now)] else [] }

/-- One limiter call; `none` when it cannot happen: a second `NewClient` for a client, a check
out of its `ReadLoop`'s turn, or a `time.Now` reading before the bucket's last one (the monotonic
clock is read under the bucket's lock). -/
def call (limits : RateLimits) (s : ReadLoops) : LimiterCall → Option ReadLoops
  | .newClient conn now =>
    match s.limiter conn with
    | none => some (s.newClient limits conn now)
    | some _ => none
  | .clientAllow conn now =>
    match s.limiter conn, s.allowedAt conn with
    | some tb, none => if tb.lastRefill ≤ now then some (s.clientAllow conn tb now) else none
    | _, _ => none
  | .globalAllow conn now =>
    match s.allowedAt conn with
    | some checked =>
      if s.globalLimiter.lastRefill ≤ now then some (s.globalAllow conn checked now) else none
    | none => none

/-- The calls in turn from `s`. -/
def run (limits : RateLimits) (s : ReadLoops) : List LimiterCall → Option ReadLoops
  | [] => some s
  | first :: rest => (s.call limits first).bind fun next => next.run limits rest

/-- The times at which `conn`'s own limiter allowed the frames that were routed or wait for the
global limiter, in order. -/
def clientAdmitted (s : ReadLoops) (conn : ConnId) : List ℚ :=
  (s.routed.filter fun frame => frame.1 == conn).map (·.2.1) ++ (s.allowedAt conn).toList

/-- The times at which the global limiter allowed the routed frames. -/
def globalAdmitted (s : ReadLoops) : List ℚ :=
  s.routed.map (·.2.2)

/-- The limiters' invariant: each client's limiter admits its client's frames, and the global
limiter all routed frames. -/
structure Limited (limits : RateLimits) (s : ReadLoops) : Prop where
  unconnected : ∀ conn, s.limiter conn = none → s.clientAdmitted conn = []
  client : ∀ conn tb, s.limiter conn = some tb →
    TokenBucket.Admits limits.clientPacketsPerSec limits.clientBurstSize tb (s.clientAdmitted conn)
  global : TokenBucket.Admits limits.globalPacketsPerSec limits.globalBurstSize s.globalLimiter
    s.globalAdmitted

/-- A new router has routed nothing. -/
theorem start_limited {limits : RateLimits} (nonneg : limits.Nonneg) (now : ℚ) :
    (start limits now).Limited limits :=
  ⟨fun _ _ => rfl, fun _ _ unset => absurd unset (Option.noConfusion),
    TokenBucket.new_admits nonneg.global_rate nonneg.global_burst now⟩

section Steps

variable {limits : RateLimits} {s : ReadLoops}

/-- `NewClient` gives a client with no frame yet its full limiter. -/
theorem Limited.newClient (nonneg : limits.Nonneg) (limited : s.Limited limits) {conn : ConnId}
    (fresh : s.limiter conn = none) (now : ℚ) : (s.newClient limits conn now).Limited limits := by
  refine ⟨fun c unset => limited.unconnected c ?_, fun c tb set => ?_, limited.global⟩
  · by_cases same : c = conn
    · simp [ReadLoops.newClient, same] at unset
    · simpa [ReadLoops.newClient, same] using unset
  · by_cases same : c = conn
    · subst same
      simp only [ReadLoops.newClient, Function.update_same, Option.some.injEq] at set
      rw [← set]
      show TokenBucket.Admits _ _ _ (s.clientAdmitted c)
      rw [limited.unconnected c fresh]
      exact TokenBucket.new_admits nonneg.client_rate nonneg.client_burst now
    · simp only [ReadLoops.newClient, Function.update_noteq same] at set
      exact limited.client c tb set

/-- A client's check adds its time to that client's admissions when it passes. -/
theorem Limited.clientAllow (limited : s.Limited limits) {conn : ConnId} {tb : TokenBucket}
    (set : s.limiter conn = some tb) (idle : s.allowedAt conn = none) {now : ℚ}
    (later : tb.lastRefill ≤ now) : (s.clientAllow conn tb now).Limited limits := by
  -- The other clients keep their limiter and their admissions.
  have others : ∀ c, c ≠ conn → (s.clientAllow conn tb now).clientAdmitted c = s.clientAdmitted c :=
    fun c other => by simp only [ReadLoops.clientAllow, clientAdmitted, Function.update_noteq other]
  have own : (s.clientAllow conn tb now).clientAdmitted conn =
      s.clientAdmitted conn ++ if (tb.allow now).1 then [now] else [] := by
    simp only [ReadLoops.clientAllow, clientAdmitted, Function.update_same, idle, Option.toList_none,
      List.append_nil]
    cases (tb.allow now).1 <;> rfl
  refine ⟨fun c unset => ?_, fun c tb' set' => ?_, limited.global⟩
  · by_cases same : c = conn
    · simp [ReadLoops.clientAllow, same] at unset
    · simp only [ReadLoops.clientAllow, Function.update_noteq same] at unset
      rw [others c same, limited.unconnected c unset]
  · by_cases same : c = conn
    · subst same
      simp only [ReadLoops.clientAllow, Function.update_same, Option.some.injEq] at set'
      rw [← set', own]
      exact (limited.client c tb set).allow later
    · simp only [ReadLoops.clientAllow, Function.update_noteq same] at set'
      rw [others c same]
      exact limited.client c tb' set'

/-- The global check adds its time to the global admissions when it passes; the frame then leaves
its client's admissions only when it is dropped. -/
theorem Limited.globalAllow (limited : s.Limited limits) {conn : ConnId} {checked : ℚ}
    (waiting : s.allowedAt conn = some checked) {now : ℚ} (later : s.globalLimiter.lastRefill ≤ now) :
    (s.globalAllow conn checked now).Limited limits := by
  -- Every client's admissions shrink or stay, and the global ones grow by this call.
  have fewer : ∀ c, List.Sublist ((s.globalAllow conn checked now).clientAdmitted c)
      (s.clientAdmitted c) := fun c => by
    by_cases same : c = conn
    · subst same
      simp only [ReadLoops.globalAllow, clientAdmitted, Function.update_same, waiting, Option.toList_none,
        Option.toList_some, List.append_nil, List.filter_append, List.map_append]
      refine List.Sublist.append_left ?_ _
      cases (s.globalLimiter.allow now).1 <;> simp
    · have unrouted : (if (s.globalLimiter.allow now).1 then [(conn, checked, now)] else []).filter
          (fun frame => frame.1 == c) = [] := by
        split <;> simp [Ne.symm same]
      simp only [ReadLoops.globalAllow, clientAdmitted, Function.update_noteq same, List.filter_append,
        unrouted, List.map_nil, List.append_nil, List.Sublist.refl]
  have grown : (s.globalAllow conn checked now).globalAdmitted =
      s.globalAdmitted ++ if (s.globalLimiter.allow now).1 then [now] else [] := by
    simp only [ReadLoops.globalAllow, globalAdmitted, List.map_append]
    cases (s.globalLimiter.allow now).1 <;> rfl
  refine ⟨fun c unset => List.eq_nil_of_sublist_nil (limited.unconnected c unset ▸ fewer c),
    fun c tb set => (limited.client c tb set).sublist (fewer c), ?_⟩
  rw [grown]
  exact limited.global.allow later

/-- Every call keeps the invariant. -/
theorem Limited.call (nonneg : limits.Nonneg) (limited : s.Limited limits) {c : LimiterCall}
    {next : ReadLoops} (called : s.call limits c = some next) : next.Limited limits := by
  cases c with
  | newClient conn now =>
    rcases fresh : s.limiter conn with _ | tb
    · simp only [ReadLoops.call, fresh, Option.some.injEq] at called
      exact called ▸ limited.newClient nonneg fresh now
    · simp [ReadLoops.call, fresh] at called
  | clientAllow conn now =>
    rcases set : s.limiter conn with _ | tb
    · simp [ReadLoops.call, set] at called
    rcases idle : s.allowedAt conn with _ | checked
    · by_cases later : tb.lastRefill ≤ now
      · simp only [ReadLoops.call, set, idle, if_pos later, Option.some.injEq] at called
        exact called ▸ limited.clientAllow set idle later
      · simp [ReadLoops.call, set, idle, later] at called
    · simp [ReadLoops.call, set, idle] at called
  | globalAllow conn now =>
    rcases waiting : s.allowedAt conn with _ | checked
    · simp [ReadLoops.call, waiting] at called
    by_cases later : s.globalLimiter.lastRefill ≤ now
    · simp only [ReadLoops.call, waiting, if_pos later, Option.some.injEq] at called
      exact called ▸ limited.globalAllow waiting later
    · simp [ReadLoops.call, waiting, later] at called

/-- Every run keeps the invariant. -/
theorem Limited.run (nonneg : limits.Nonneg) : ∀ {s : ReadLoops} {calls : List LimiterCall}
    {final : ReadLoops}, s.Limited limits → s.run limits calls = some final → final.Limited limits
  | _, [], _, limited, ran => Option.some.inj ran ▸ limited
  | _, _ :: _, _, limited, ran => by
    obtain ⟨next, called, rest⟩ := Option.bind_eq_some.mp ran
    exact (limited.call nonneg called).run nonneg rest

/-- Under the invariant, each client's routed frames checked by its own limiter in a window, and
all routed frames checked by the global limiter in it, are within the two limiters' bounds. -/
theorem Limited.routed_within (nonneg : limits.Nonneg) (limited : s.Limited limits) (conn : ConnId)
    {start stop : ℚ} (ordered : start ≤ stop) :
    (admittedIn start stop ((s.routed.filter fun frame => frame.1 == conn).map (·.2.1)) : ℚ) ≤
        limits.clientBurstSize + limits.clientPacketsPerSec * (stop - start) ∧
      (admittedIn start stop (s.routed.map (·.2.2)) : ℚ) ≤
        limits.globalBurstSize + limits.globalPacketsPerSec * (stop - start) := by
  -- The routed frames of `conn` are among its limiter's admissions.
  have routedPart : ((s.routed.filter fun frame => frame.1 == conn).map (·.2.1)).Sublist
      (s.clientAdmitted conn) := List.sublist_append_left _ _
  refine ⟨?_, limited.global.window start stop ordered⟩
  rcases set : s.limiter conn with _ | tb
  · rw [limited.unconnected conn set] at routedPart
    rw [List.eq_nil_of_sublist_nil routedPart, admittedIn_nil, Nat.cast_zero]
    exact add_nonneg (Int.cast_nonneg.mpr nonneg.client_burst)
      (mul_nonneg nonneg.client_rate (sub_nonneg.mpr ordered))
  · exact ((limited.client conn tb set).sublist routedPart).window start stop ordered

end Steps

/-! ### Frames routed at one instant -/

/-- The calls of two runs one after the other. -/
theorem run_append (limits : RateLimits) : ∀ (s : ReadLoops) (first second : List LimiterCall),
    s.run limits (first ++ second) = (s.run limits first).bind fun next => next.run limits second
  | _, [], _ => rfl
  | s, call :: rest, second => by
    -- the first call, then the rest of the first run
    simp only [List.cons_append, run]
    cases s.call limits call with
    | none => rfl
    | some next => exact run_append limits next rest second

/-- `n` frames of `conn` each checked by both limiters at `now`, when both refill to at least `n`
tokens by then: all are routed at `now`. -/
theorem run_burst (limits : RateLimits) (conn : ConnId) (now : ℚ) :
    ∀ (n : Nat) (s : ReadLoops) (tb : TokenBucket), s.limiter conn = some tb → s.allowedAt conn = none →
      tb.lastRefill ≤ now → s.globalLimiter.lastRefill ≤ now → (n : ℚ) ≤ tb.refilled now →
      (n : ℚ) ≤ s.globalLimiter.refilled now →
      ∃ next, s.run limits (List.replicate n [.clientAllow conn now, .globalAllow conn now]).flatten =
        some next ∧ next.routed = s.routed ++ List.replicate n (conn, now, now)
  | 0, s, _, _, _, _, _, _, _ => ⟨s, rfl, by simp⟩
  | n + 1, s, tb, set, idle, later, globalLater, enough, globalEnough => by
    -- both checks of the first frame pass, and each limiter is left one token fewer
    push_cast at enough globalEnough
    have client := tb.allow_of_one_le (by linarith [(n.cast_nonneg : (0 : ℚ) ≤ n)])
    have global := s.globalLimiter.allow_of_one_le (by linarith [(n.cast_nonneg : (0 : ℚ) ≤ n)])
    obtain ⟨next, ran, routed⟩ := run_burst limits conn now n
      ((s.clientAllow conn tb now).globalAllow conn now now)
      { tb with tokens := tb.refilled now - 1, lastRefill := now }
      (by simp [globalAllow, clientAllow, client]) (by simp [globalAllow]) le_rfl
      (by simp [globalAllow, clientAllow, global])
      (by rw [TokenBucket.refilled_again]; linarith)
      (by simp only [globalAllow, clientAllow, global]; rw [TokenBucket.refilled_again]; linarith)
    refine ⟨next, ?_, by rw [routed]; simp [globalAllow, clientAllow, global, List.replicate_succ]⟩
    rw [← ran]
    simp [List.replicate_succ, run, call, set, idle, later, globalLater, clientAllow, client]

end ReadLoops

/-- The token bucket admits at most its burst plus its rate times the time elapsed. With a rate
and a burst that are not negative and calls at nondecreasing times from the bucket's creation,
the tokens stay between zero and the burst after every call, and the calls `i` to `j` answer
`true` at most `burst + rate · (times[j] - times[i])` times. So, over every interleaving of the
relay's limiter calls, each client's `ReadLoop` passes to `RouteFromClient` at most
`ClientBurstSize + ClientPacketsPerSec · T` DATA frames whose client check lies in a window of
length `T`, and all clients together at most `GlobalBurstSize + GlobalPacketsPerSec · T` whose
global check does. -/
theorem allow_admits_burst_plus_rate (rate : ℚ) (burst : Int) (created : ℚ) (times : List ℚ)
    (rateNonneg : 0 ≤ rate) (burstNonneg : 0 ≤ burst)
    (ordered : (created :: times).Pairwise (· ≤ ·)) :
    (∀ k, 0 ≤ ((TokenBucket.new rate burst created).allowEach (times.take k)).2.tokens ∧
      ((TokenBucket.new rate burst created).allowEach (times.take k)).2.tokens ≤ burst) ∧
    (∀ i j (early : i ≤ j) (within : j < times.length),
      (((((TokenBucket.new rate burst created).allowEach times).1.drop i).take (j + 1 - i)).count
        true : ℚ) ≤ burst + rate * (times[j] - times[i])) ∧
    ∀ limits : RateLimits, limits.Nonneg → ∀ (now : ℚ) (calls : List LimiterCall) (s : ReadLoops),
      (ReadLoops.start limits now).run limits calls = some s → ∀ start T : ℚ, 0 ≤ T →
        (∀ conn, (admittedIn start (start + T)
            ((s.routed.filter fun frame => frame.1 == conn).map (·.2.1)) : ℚ) ≤
              limits.clientBurstSize + limits.clientPacketsPerSec * T) ∧
          (admittedIn start (start + T) (s.routed.map (·.2.2)) : ℚ) ≤
            limits.globalBurstSize + limits.globalPacketsPerSec * T := by
  have admits := (TokenBucket.new_admits rateNonneg burstNonneg created).allowEach ordered
  refine ⟨fun k => ?_, fun i j early within => ?_, ?_⟩
  · -- Every prefix of the run is a run at nondecreasing times.
    have upTo := (TokenBucket.new_admits rateNonneg burstNonneg created).allowEach
      (ordered.sublist ((List.take_sublist k times).cons_cons created))
    exact ⟨upTo.tokens_nonneg, upTo.tokens_le⟩
  · -- The segment's admissions lie in the window from its first call to its last.
    have segment := TokenBucket.count_segment_le (TokenBucket.new rate burst created) times
      ordered.of_cons i j early within
    have apart : times[i] ≤ times[j] := by
      rcases Nat.lt_or_eq_of_le early with before | same
      · exact List.pairwise_iff_getElem.mp ordered.of_cons i j _ _ before
      · simp only [same, le_refl]
    calc (((((TokenBucket.new rate burst created).allowEach times).1.drop i).take
            (j + 1 - i)).count true : ℚ)
        ≤ admittedIn times[i] times[j] ((TokenBucket.new rate burst created).admittedTimes times) :=
          Nat.cast_le.mpr segment
      _ ≤ burst + rate * (times[j] - times[i]) := by
          simpa using admits.window _ _ apart
  · -- The routers' invariant at the end of the run bounds every window.
    intro limits nonneg now calls s ran start T long
    have bounds := ((ReadLoops.start_limited nonneg now).run nonneg ran).routed_within nonneg
    refine ⟨fun conn => ?_, ?_⟩
    · simpa only [add_sub_cancel_left] using (bounds conn (le_add_of_nonneg_right long)).1
    · simpa only [add_sub_cancel_left] using (bounds 0 (le_add_of_nonneg_right long)).2

/-- The bound at the default client limiter made at time zero and called at `0`, `1/2` and `1`:
the three calls answer `true` at most `20 + 10 · 1` times. -/
theorem allow_admits_burst_plus_rate_defaults :
    0 ≤ (10 : ℚ) ∧ 0 ≤ (20 : Int) ∧ ([0, 0, 1 / 2, 1] : List ℚ).Pairwise (· ≤ ·) ∧
      (((((TokenBucket.new 10 20 0).allowEach [0, 1 / 2, 1]).1.drop 0).take (2 + 1 - 0)).count true
        : ℚ) ≤ ((20 : Int) : ℚ) + 10 * (([0, 1 / 2, 1] : List ℚ)[2] - ([0, 1 / 2, 1] : List ℚ)[0]) :=
  ⟨by norm_num, by norm_num, by norm_num,
    (allow_admits_burst_plus_rate 10 20 0 [0, 1 / 2, 1] (by norm_num) (by norm_num) (by norm_num)).2.1
      0 2 (Nat.zero_le 2) (by decide)⟩

/-- The per-client bound does not hold for frames counted by the time they are routed. A client
whose `ReadLoop` pauses a tenth of a second between the two checks of its first frame has that
frame and twenty more, which its refilled limiter allows at once, all routed at the same instant:
twenty-one frames in a window of length zero, against `ClientBurstSize + ClientPacketsPerSec · 0
= 20`. -/
theorem client_frames_routed_at_one_instant :
    ∃ s, (ReadLoops.start defaultRateLimits 0).run defaultRateLimits
        ([.newClient 0 0, .clientAllow 0 0, .globalAllow 0 (1 / 10)] ++
          (List.replicate 20 [LimiterCall.clientAllow 0 (1 / 10), .globalAllow 0 (1 / 10)]).flatten) = some s ∧
      (defaultRateLimits.clientBurstSize : ℚ) + defaultRateLimits.clientPacketsPerSec * 0 <
        admittedIn (1 / 10) (1 / 10 + 0) ((s.routed.filter fun frame => frame.1 == 0).map (·.2.2)) := by
  -- the first frame's two checks, a tenth of a second apart
  have first : (⟨20, 20, 10, 0⟩ : TokenBucket).allow 0 = (true, ⟨19, 20, 10, 0⟩) := by
    rw [TokenBucket.allow_of_one_le] <;> norm_num [TokenBucket.refilled]
  have firstGlobal : (⟨200, 200, 100, 0⟩ : TokenBucket).allow (1 / 10) = (true, ⟨199, 200, 100, 1 / 10⟩) := by
    rw [TokenBucket.allow_of_one_le] <;> norm_num [TokenBucket.refilled]
  let waited := (((ReadLoops.start defaultRateLimits 0).newClient defaultRateLimits 0 0).clientAllow 0
    (TokenBucket.new 10 20 0) 0).globalAllow 0 0 (1 / 10)
  have prefixRun : (ReadLoops.start defaultRateLimits 0).run defaultRateLimits
      [.newClient 0 0, .clientAllow 0 0, .globalAllow 0 (1 / 10)] = some waited := by
    simp [ReadLoops.run, ReadLoops.call, ReadLoops.start, ReadLoops.newClient, ReadLoops.clientAllow, first,
      waited, defaultRateLimits, TokenBucket.new]
  -- after it the client's limiter holds 19 tokens from time zero, and the global one 199
  obtain ⟨limiter, idle, global, routedFirst⟩ : waited.limiter 0 = some ⟨19, 20, 10, 0⟩ ∧
      waited.allowedAt 0 = none ∧ waited.globalLimiter = ⟨199, 200, 100, 1 / 10⟩ ∧
      waited.routed = [(0, 0, 1 / 10)] := by
    simp only [waited, ReadLoops.globalAllow, ReadLoops.clientAllow, ReadLoops.newClient, ReadLoops.start,
      defaultRateLimits, TokenBucket.new, Int.cast_ofNat, first, firstGlobal]
    simp
  -- by then the client's limiter has refilled to twenty tokens: twenty more frames pass both checks
  obtain ⟨next, ran, routed⟩ := ReadLoops.run_burst defaultRateLimits 0 (1 / 10) 20 waited _ limiter idle
    (by norm_num) (by rw [global]) (by norm_num [TokenBucket.refilled])
    (by rw [global]; norm_num [TokenBucket.refilled])
  refine ⟨next, by rw [ReadLoops.run_append, prefixRun, Option.some_bind]; exact ran, ?_⟩
  rw [routed, routedFirst]
  simp [admittedIn, defaultRateLimits]
  norm_num

end MeshRelay
