import Aivtuber.Runtime.Ingress

/-!
# The rate of a content source

A source is admitted no more often than its token bucket earns tokens, over any interval
and whatever other sources send, along the runs that keep its bucket honest
(`rate_limited`).  Two kinds of calls do not.  A call at an instant before the last refill
earns nothing, but moves the refill back, so that what was earned once is earned again; and
a bucket that was dropped as idle before it would have been full starts again as a full one.
-/

open Saturating
open Std (ExtTreeMap)

namespace Aivtuber

/-- A bucket with its instant as a rational number of milliseconds. -/
def Bucket.toTokenBucket (bucket : Bucket) : TokenBucket ℚ where
  tokens := bucket.tokens
  mark := bucket.lastRefillMs

/-- A refill at an instant that is not earlier earns the rate for the time in between. -/
theorem Bucket.refill_toTokenBucket {config : SecurityRuntimeConfig} {bucket : Bucket}
    {nowMs : Nat} (h : bucket.lastRefillMs ≤ nowMs) :
    (bucket.refill config nowMs).toTokenBucket =
      ⟨bucket.toTokenBucket.refilled config.contentBurst config.ratePerMs nowMs, nowMs⟩ := by
  apply TokenBucket.ext
  · rw [toTokenBucket, refill, TokenBucket.refilled, SecurityRuntimeConfig.ratePerMs,
      Nat.cast_sub h]
    change min _ _ = min (bucket.tokens + (nowMs - bucket.lastRefillMs) * _) _
    congr 2
    ring
  · rfl

theorem SecurityRuntimeConfig.ratePerMs_nonneg {config : SecurityRuntimeConfig}
    (h : config.validateConfig = .ok ()) : 0 ≤ config.ratePerMs := by
  have hpositive := Check.ensure_eq_ok.mp (Check.unit_bind_eq_ok.mp h).1
  rw [ratePerMs]
  cases hrate : config.contentRatePerSecond with
  | finite value =>
    rw [hrate, Float64.isPositive, decide_eq_true_eq] at hpositive
    exact div_nonneg hpositive.le (by norm_num)
  | infinite negative => rw [hrate] at hpositive; cases hpositive
  | nan => rw [hrate] at hpositive; cases hpositive

open TokenBucket (Metered) in
/-- A bucket that is asked at an instant that is not earlier stays metered. -/
theorem Bucket.take_metered {config : SecurityRuntimeConfig}
    (hconfig : config.validateConfig = .ok ()) {bucket : Bucket} {granted : List ℚ} {nowMs : Nat}
    (h : Metered (config.contentBurst : ℚ) config.ratePerMs bucket.toTokenBucket granted)
    (hle : bucket.lastRefillMs ≤ nowMs) :
    Metered (config.contentBurst : ℚ) config.ratePerMs (bucket.take config nowMs).1.toTokenBucket
      (if (bucket.take config nowMs).2 then (nowMs : ℚ) :: granted else granted) := by
  have hrate := config.ratePerMs_nonneg hconfig
  have hrefilled : Metered (config.contentBurst : ℚ) config.ratePerMs
      (bucket.refill config nowMs).toTokenBucket granted := by
    rw [refill_toTokenBucket hle]
    exact h.refill hrate (Nat.cast_le.mpr hle)
  rw [take]
  split
  case isTrue => exact hrefilled
  case isFalse htoken => exact hrefilled.spend hrate (not_lt.mp htoken)

namespace SecurityBoundary

variable {boundary : SecurityBoundary} {codec : ContentCodec} {source other : String}
variable {event : EventEnvelope} {bucket : Bucket} {payloadBytes nowMs : Nat}

/-! ## What a call does to the buckets -/

@[simp] theorem enqueue_buckets :
    (boundary.enqueue event payloadBytes).1.buckets = boundary.buckets := by
  rw [enqueue]
  split <;> rfl

@[simp] theorem enqueue_config :
    (boundary.enqueue event payloadBytes).1.config = boundary.config := by
  rw [enqueue]
  split <;> rfl

/-- The bucket that a call of a source draws on, unless there is no room for it. -/
def drawnBucket (boundary : SecurityBoundary) (source : String) (nowMs : Nat) : Option Bucket :=
  match boundary.buckets[source]? with
  | some bucket => some bucket
  | none =>
    if boundary.config.maxRateLimitSources ≤ (boundary.expireRateLimitSources nowMs).buckets.size
    then none else some (boundary.fullBucket nowMs)

/-- No bucket appears where idle ones are dropped. -/
theorem expireRateLimitSources_buckets
    (h : (boundary.expireRateLimitSources nowMs).buckets[source]? = some bucket) :
    boundary.buckets[source]? = some bucket := by
  rw [expireRateLimitSources, ExtTreeMap.getElem?_filter'] at h
  exact (Option.filter_eq_some_iff.mp h).1

theorem spendToken_buckets_of_ne (h : source ≠ other) :
    (boundary.spendToken source bucket nowMs).1.buckets[other]? = boundary.buckets[other]? := by
  rw [spendToken]
  exact (ExtTreeMap.getElem?_insert ..).trans
    (if_neg fun heq ↦ h (Std.LawfulEqCmp.compare_eq_iff_eq.mp heq))

theorem consumeToken_config :
    (boundary.consumeToken source nowMs).1.config = boundary.config := by
  rw [consumeToken]
  split
  case h_1 => rfl
  case h_2 =>
    dsimp only
    split <;> rfl

/-- A call leaves the buckets of other sources as they were, or drops them. -/
theorem consumeToken_buckets_of_ne (h : source ≠ other)
    (hbucket : (boundary.consumeToken source nowMs).1.buckets[other]? = some bucket) :
    boundary.buckets[other]? = some bucket := by
  rw [consumeToken] at hbucket
  split at hbucket
  case h_1 => rwa [spendToken_buckets_of_ne h] at hbucket
  case h_2 =>
    dsimp only at hbucket
    split at hbucket
    case isTrue => exact expireRateLimitSources_buckets hbucket
    case isFalse =>
      rw [spendToken_buckets_of_ne h, insertBucket] at hbucket
      exact expireRateLimitSources_buckets (((ExtTreeMap.getElem?_insert ..).trans
        (if_neg fun heq ↦ h (Std.LawfulEqCmp.compare_eq_iff_eq.mp heq))).symm.trans hbucket)

/-- A call that draws on no bucket is refused, and makes none. -/
theorem consumeToken_of_drawnBucket_none (h : boundary.drawnBucket source nowMs = none) :
    (boundary.consumeToken source nowMs).2 = false ∧
      (boundary.consumeToken source nowMs).1.buckets[source]? = none := by
  rw [drawnBucket] at h
  cases hsource : boundary.buckets[source]? with
  | some bucket => rw [hsource] at h; cases h
  | none =>
    rw [hsource] at h
    dsimp only at h
    split at h
    case isFalse => cases h
    case isTrue hroom =>
      rw [consumeToken, hsource]
      dsimp only
      rw [if_pos (show (boundary.expireRateLimitSources nowMs).config.maxRateLimitSources ≤ _
        from hroom)]
      refine ⟨rfl, Option.eq_none_iff_forall_ne_some.mpr fun bucket hbucket ↦ ?_⟩
      rw [expireRateLimitSources_buckets hbucket] at hsource
      cases hsource

/-- A call takes its token from the bucket that it draws on. -/
theorem consumeToken_of_drawnBucket_some (h : boundary.drawnBucket source nowMs = some bucket) :
    (boundary.consumeToken source nowMs).2 = (bucket.take boundary.config nowMs).2 ∧
      (boundary.consumeToken source nowMs).1.buckets[source]? =
        some (bucket.take boundary.config nowMs).1 := by
  rw [drawnBucket] at h
  cases hsource : boundary.buckets[source]? with
  | some known =>
    rw [hsource] at h
    cases h
    rw [consumeToken, hsource]
    exact ⟨rfl, ExtTreeMap.getElem?_insert_self⟩
  | none =>
    rw [hsource] at h
    dsimp only at h
    split at h
    case isTrue => cases h
    case isFalse hroom =>
      cases h
      rw [consumeToken, hsource]
      dsimp only
      rw [if_neg (show ¬(boundary.expireRateLimitSources nowMs).config.maxRateLimitSources ≤ _
        from hroom)]
      exact ⟨rfl, ExtTreeMap.getElem?_insert_self⟩

theorem drawnBucket_of_none (hnone : boundary.buckets[source]? = none)
    (h : boundary.drawnBucket source nowMs = some bucket) : bucket = boundary.fullBucket nowMs := by
  rw [drawnBucket, hnone] at h
  dsimp only at h
  split at h
  · cases h
  · exact (Option.some.inj h).symm

theorem admitEvent_buckets : (boundary.admitEvent event payloadBytes nowMs).1.buckets =
    (boundary.consumeToken event.source nowMs).1.buckets := by
  rw [admitEvent]
  dsimp only
  split
  · exact enqueue_buckets
  · rfl

theorem admitEvent_config :
    (boundary.admitEvent event payloadBytes nowMs).1.config = boundary.config := by
  rw [admitEvent]
  dsimp only
  split
  · exact enqueue_config.trans consumeToken_config
  · exact consumeToken_config

/-- An event is queued only against a token. -/
theorem granted_of_queued (h : (boundary.admitEvent event payloadBytes nowMs).2 = .queued) :
    (boundary.consumeToken event.source nowMs).2 = true := by
  rw [admitEvent] at h
  dsimp only at h
  split at h
  case isTrue hgranted => exact hgranted
  case isFalse => cases h

/-! ## What is known of a source -/

/-- What a run has shown of a source. -/
structure SourceHistory where
  /-- The bucket of the source, as it last stood. -/
  known : Option Bucket
  /-- When events of the source were admitted, the last one first. -/
  admitted : List Nat

/-- Before a run. -/
def SourceHistory.empty : SourceHistory := ⟨none, []⟩

/-- The source whose bucket some bytes reach. -/
def asked (codec : ContentCodec) (boundary : SecurityBoundary) (raw : List UInt8) :
    Option String :=
  match boundary.screen codec raw with
  | .ok (.passed event _) => some event.source
  | _ => none

/-- The times of admission of a source, after a step. -/
def observeAdmitted (codec : ContentCodec) (source : String) (admitted : List Nat)
    (e : Machine.Event SecurityBoundary IngressOp IngressOutput) : List Nat :=
  match e.input, e.output with
  | .admitContentBytes raw nowMs, .admission (.ok .queued) =>
    if e.pre.asked codec raw = some source then nowMs :: admitted else admitted
  | _, _ => admitted

def observe (codec : ContentCodec) (source : String) (history : SourceHistory)
    (e : Machine.Event SecurityBoundary IngressOp IngressOutput) : SourceHistory where
  known := e.post.buckets[source]?.or history.known
  admitted := observeAdmitted codec source history.admitted e

/-- A call is honest about the time, and draws on a bucket that holds what the last one of
the source would hold by now: a dropped bucket would be full again. -/
def HonestDraw (config : SecurityRuntimeConfig) (known drawn : Option Bucket) (nowMs : Nat) :
    Prop :=
  ∀ bucket ∈ drawn, ∀ last ∈ known, last.lastRefillMs ≤ nowMs ∧
    bucket.refill config nowMs = last.refill config nowMs

/-- Every call that reaches the bucket of the source is honest. -/
def HonestCall (codec : ContentCodec) (source : String) (history : SourceHistory)
    (e : Machine.Event SecurityBoundary IngressOp IngressOutput) : Prop :=
  match e.input with
  | .admitContentBytes raw nowMs => e.pre.asked codec raw = some source →
      HonestDraw e.pre.config history.known (e.pre.drawnBucket source nowMs) nowMs
  | _ => True

instance HonestCall.decidable (codec : ContentCodec) (source : String)
    (history : SourceHistory) (e : Machine.Event SecurityBoundary IngressOp IngressOutput) :
    Decidable (HonestCall codec source history e) :=
  match e with
  | ⟨pre, .admitContentBytes raw nowMs, _, _⟩ =>
    inferInstanceAs (Decidable (pre.asked codec raw = some source →
      ∀ bucket ∈ pre.drawnBucket source nowMs, ∀ last ∈ history.known,
        last.lastRefillMs ≤ nowMs ∧
          bucket.refill pre.config nowMs = last.refill pre.config nowMs))
  | ⟨_, .popContent, _, _⟩ | ⟨_, .handleControl _ _, _, _⟩ => inferInstanceAs (Decidable True)

/-- Between any two times, no more is admitted than the burst and what the rate earned. -/
def RateBound (config : SecurityRuntimeConfig) (admitted : List Nat) : Prop :=
  ∀ t₁ t₂ : Nat, t₁ ≤ t₂ → ((admitted.countP fun t ↦ decide (t₁ ≤ t ∧ t ≤ t₂) : Nat) : ℚ) ≤
    config.contentBurst + config.contentRatePerSecond.value * ((t₂ - t₁ : Nat) : ℚ) / 1000

/-- What was admitted was paid for by the bucket. -/
def Accounted (config : SecurityRuntimeConfig) (known : Option Bucket) (admitted : List Nat) :
    Prop :=
  match known with
  | none => admitted = []
  | some bucket => ∃ granted : List ℚ,
      (admitted.map fun t : Nat ↦ (t : ℚ)).Sublist granted ∧
        TokenBucket.Metered (config.contentBurst : ℚ) config.ratePerMs bucket.toTokenBucket granted

structure Tracked (config : SecurityRuntimeConfig) (source : String) (boundary : SecurityBoundary)
    (history : SourceHistory) : Prop where
  config_eq : boundary.config = config
  current : ∀ bucket, boundary.buckets[source]? = some bucket → history.known = some bucket
  accounted : Accounted config history.known history.admitted

variable {config : SecurityRuntimeConfig} {history : SourceHistory} {known : Option Bucket}
variable {admitted : List Nat}

theorem Accounted.rateBound (h : Accounted config known admitted)
    (hconfig : config.validateConfig = .ok ()) : RateBound config admitted := by
  intro t₁ t₂ ht
  have hearned : (0 : ℚ) ≤ config.contentRatePerSecond.value * ((t₂ - t₁ : Nat) : ℚ) / 1000 := by
    rw [mul_div_right_comm]
    exact mul_nonneg (config.ratePerMs_nonneg hconfig) (Nat.cast_nonneg _)
  cases known with
  | none =>
    obtain rfl : admitted = [] := h
    rw [List.countP_nil, Nat.cast_zero]
    exact add_nonneg (Nat.cast_nonneg _) hearned
  | some bucket =>
    obtain ⟨granted, hsublist, hmetered⟩ := h
    have hcount : (admitted.countP fun t ↦ decide (t₁ ≤ t ∧ t ≤ t₂)) ≤
        TokenBucket.count granted (t₁ : ℚ) t₂ := by
      refine le_trans (le_of_eq ?_) (TokenBucket.count_mono hsublist _ _)
      rw [TokenBucket.count, List.countP_map]
      apply List.countP_congr
      intro t _
      simp
    calc ((admitted.countP fun t ↦ decide (t₁ ≤ t ∧ t ≤ t₂) : Nat) : ℚ)
        ≤ TokenBucket.count granted (t₁ : ℚ) t₂ := Nat.cast_le.mpr hcount
      _ ≤ config.contentBurst + config.ratePerMs * ((t₂ : ℚ) - t₁) :=
          hmetered.within t₁ t₂ (Nat.cast_le.mpr ht)
      _ = _ := by
          rw [SecurityRuntimeConfig.ratePerMs, Nat.cast_sub ht]
          ring

/-- A step that admits nothing of the source, and makes no bucket for it, changes nothing. -/
theorem Tracked.of_buckets (h : Tracked config source boundary history)
    {pre post : SecurityBoundary} {input : IngressOp} {output : IngressOutput}
    (hconfig : post.config = config)
    (hbuckets : ∀ bucket, post.buckets[source]? = some bucket →
      boundary.buckets[source]? = some bucket)
    (hadmitted : observeAdmitted codec source history.admitted ⟨pre, input, post, output⟩ =
      history.admitted) :
    Tracked config source post (observe codec source history ⟨pre, input, post, output⟩) := by
  have hknown : (observe codec source history ⟨pre, input, post, output⟩).known =
      history.known := by
    change post.buckets[source]?.or history.known = history.known
    cases hpost : post.buckets[source]? with
    | none => rfl
    | some bucket => exact (h.current bucket (hbuckets bucket hpost)).symm
  constructor
  · exact hconfig
  · intro bucket hbucket
    exact hknown.trans (h.current bucket (hbuckets bucket hbucket))
  · change Accounted config _ (observeAdmitted codec source history.admitted _)
    rw [hknown, hadmitted]
    exact h.accounted

/-- What an honest draw leaves of the bucket pays for what it granted. -/
theorem Tracked.draw (h : Tracked config source boundary history)
    (hconfig : config.validateConfig = .ok ())
    (hdrawn : boundary.drawnBucket source nowMs = some bucket)
    (hhonest : HonestDraw config history.known (some bucket) nowMs) :
    ∃ granted : List ℚ, (history.admitted.map fun t : Nat ↦ (t : ℚ)).Sublist granted ∧
      TokenBucket.Metered (config.contentBurst : ℚ) config.ratePerMs
        (bucket.take config nowMs).1.toTokenBucket
        (if (bucket.take config nowMs).2 then (nowMs : ℚ) :: granted else granted) := by
  have haccounted := h.accounted
  cases hknown : history.known with
  | none =>
    -- the first bucket of the source: a full one, which has granted nothing
    have hnone : boundary.buckets[source]? = none := by
      refine Option.eq_none_iff_forall_ne_some.mpr fun bucket hbucket ↦ ?_
      rw [h.current bucket hbucket] at hknown
      cases hknown
    rw [hknown] at haccounted
    have hnever : history.admitted = [] := haccounted
    obtain rfl := drawnBucket_of_none hnone hdrawn
    refine ⟨[], by rw [hnever]; exact List.Sublist.slnil, ?_⟩
    apply Bucket.take_metered hconfig
    · rw [fullBucket, h.config_eq]
      exact TokenBucket.metered_full (Nat.cast_nonneg _) (config.ratePerMs_nonneg hconfig) _
    · exact le_refl nowMs
  | some last =>
    rw [hknown] at haccounted
    obtain ⟨granted, hsublist, hmetered⟩ := haccounted
    obtain ⟨hle, hrefill⟩ := hhonest bucket rfl last hknown
    have htake : bucket.take config nowMs = last.take config nowMs := by
      rw [Bucket.take, Bucket.take, hrefill]
    rw [htake]
    exact ⟨granted, hsublist, Bucket.take_metered hconfig hmetered hle⟩

theorem observeAdmitted_of_ne {raw : List UInt8} {post : SecurityBoundary}
    {output : IngressOutput} (h : boundary.asked codec raw ≠ some source) :
    observeAdmitted codec source admitted
      ⟨boundary, .admitContentBytes raw nowMs, post, output⟩ = admitted := by
  rw [observeAdmitted]
  split
  case h_1 heq heq' =>
    cases heq
    exact if_neg h
  case h_2 => rfl

theorem observeAdmitted_of_asked {raw : List UInt8} {post : SecurityBoundary}
    (h : boundary.asked codec raw = some source) (decision : ContentAdmitDecision) :
    observeAdmitted codec source admitted
      ⟨boundary, .admitContentBytes raw nowMs, post, .admission (.ok decision)⟩ =
        if decision = .queued then nowMs :: admitted else admitted := by
  cases decision with
  | queued => exact if_pos h
  | _ => rfl

theorem asked_of_passed {raw : List UInt8}
    (h : boundary.screen codec raw = .ok (.passed event payloadBytes)) :
    boundary.asked codec raw = some event.source := by rw [asked, h]

/-- What an admission call does, by what the gates made of its bytes. -/
theorem step_admitContentBytes (raw : List UInt8) (nowMs : Nat) :
    step codec boundary (.admitContentBytes raw nowMs) =
      match boundary.screen codec raw with
      | .error error => (boundary, .admission (.error error))
      | .ok (.refused decision entry) => (boundary.audited entry, .admission (.ok decision))
      | .ok (.passed event payloadBytes) =>
        ((boundary.admitEvent event payloadBytes nowMs).1,
          .admission (.ok (boundary.admitEvent event payloadBytes nowMs).2)) := by
  rw [step, admitContentBytes]
  rcases boundary.screen codec raw with error | ⟨decision, entry⟩ | ⟨event, payloadBytes⟩ <;> rfl

/-- A call of the source that passed the gates. -/
theorem Tracked.admitEvent (h : Tracked config source boundary history)
    (hconfig : config.validateConfig = .ok ()) {raw : List UInt8}
    (hscreen : boundary.screen codec raw = .ok (.passed event payloadBytes))
    (hsource : event.source = source)
    (hhonest : HonestDraw boundary.config history.known (boundary.drawnBucket source nowMs) nowMs) :
    Tracked config source (boundary.admitEvent event payloadBytes nowMs).1
      (observe codec source history ⟨boundary, .admitContentBytes raw nowMs,
        (boundary.admitEvent event payloadBytes nowMs).1,
        .admission (.ok (boundary.admitEvent event payloadBytes nowMs).2)⟩) := by
  subst hsource
  have hasked := asked_of_passed hscreen
  cases hdrawn : boundary.drawnBucket event.source nowMs with
  | none =>
    obtain ⟨hrefused, hbuckets⟩ := consumeToken_of_drawnBucket_none hdrawn
    apply h.of_buckets (admitEvent_config.trans h.config_eq)
    · intro bucket hbucket
      rw [admitEvent_buckets, hbuckets] at hbucket
      cases hbucket
    · rw [observeAdmitted_of_asked hasked, if_neg]
      intro hqueued
      rw [granted_of_queued hqueued] at hrefused
      cases hrefused
  | some bucket =>
    obtain ⟨hgranted, hbuckets⟩ := consumeToken_of_drawnBucket_some hdrawn
    rw [hdrawn, h.config_eq] at hhonest
    rw [h.config_eq] at hgranted hbuckets
    obtain ⟨granted, hsublist, hmetered⟩ := h.draw hconfig hdrawn hhonest
    have hpost : (boundary.admitEvent event payloadBytes nowMs).1.buckets[event.source]? =
        some (bucket.take config nowMs).1 := by rw [admitEvent_buckets, hbuckets]
    have hknown : (observe codec event.source history ⟨boundary, .admitContentBytes raw nowMs,
        (boundary.admitEvent event payloadBytes nowMs).1,
        .admission (.ok (boundary.admitEvent event payloadBytes nowMs).2)⟩).known =
          some (bucket.take config nowMs).1 := by
      change ((boundary.admitEvent event payloadBytes nowMs).1.buckets[event.source]?).or _ = _
      rw [hpost]
      rfl
    constructor
    · exact admitEvent_config.trans h.config_eq
    · intro other hother
      rw [hpost] at hother
      exact hknown.trans hother
    · rw [hknown]
      refine ⟨_, ?_, hmetered⟩
      -- an event is queued only against a token, which the bucket then counts
      change ((observeAdmitted codec event.source history.admitted _).map _).Sublist _
      rw [observeAdmitted_of_asked hasked]
      split
      case isTrue hqueued =>
        rw [← hgranted, granted_of_queued hqueued, if_pos rfl, List.map_cons]
        exact hsublist.cons_cons _
      case isFalse =>
        split
        · exact hsublist.cons _
        · exact hsublist

/-- A call that is not of the source, or does not pass the gates. -/
theorem Tracked.step_other (h : Tracked config source boundary history) {raw : List UInt8}
    (hasked : boundary.asked codec raw ≠ some source) :
    Tracked config source (step codec boundary (.admitContentBytes raw nowMs)).1
      (observe codec source history
        ((machine codec).event boundary (.admitContentBytes raw nowMs))) := by
  refine h.of_buckets ?_ ?_ (observeAdmitted_of_ne hasked)
  all_goals
    rw [step_admitContentBytes]
    rcases hscreen : boundary.screen codec raw with error | ⟨decision, entry⟩ | ⟨event, payloadBytes⟩
  · exact h.config_eq
  · exact h.config_eq
  · exact admitEvent_config.trans h.config_eq
  · exact fun _ hbucket ↦ hbucket
  · exact fun _ hbucket ↦ hbucket
  · intro bucket hbucket
    have hne : event.source ≠ source := by
      rintro rfl
      exact hasked (asked_of_passed hscreen)
    rw [admitEvent_buckets] at hbucket
    exact consumeToken_buckets_of_ne hne hbucket

theorem Tracked.step_own (h : Tracked config source boundary history)
    (hconfig : config.validateConfig = .ok ()) {raw : List UInt8}
    (hasked : boundary.asked codec raw = some source)
    (hhonest : HonestDraw boundary.config history.known (boundary.drawnBucket source nowMs) nowMs) :
    Tracked config source (step codec boundary (.admitContentBytes raw nowMs)).1
      (observe codec source history
        ((machine codec).event boundary (.admitContentBytes raw nowMs))) := by
  have hevent : (machine codec).event boundary (.admitContentBytes raw nowMs) =
      ⟨boundary, .admitContentBytes raw nowMs,
        (step codec boundary (.admitContentBytes raw nowMs)).1,
        (step codec boundary (.admitContentBytes raw nowMs)).2⟩ := rfl
  rw [hevent, step_admitContentBytes]
  rw [asked] at hasked
  split at hasked
  case h_1 event payloadBytes hscreen =>
    rw [hscreen]
    exact h.admitEvent hconfig hscreen (Option.some.inj hasked) hhonest
  case h_2 => cases hasked

/-- Control leaves the buckets alone. -/
theorem step_handleControl_buckets (boundary : SecurityBoundary) (codec : ContentCodec)
    (request : ControlRequest) (atMs : Nat) :
    (step codec boundary (.handleControl request atMs)).1.config = boundary.config ∧
      (step codec boundary (.handleControl request atMs)).1.buckets = boundary.buckets := by
  rw [step]
  split
  case h_1 => exact ⟨rfl, rfl⟩
  case h_2 h =>
    obtain ⟨-, h⟩ := Check.unit_bind_eq_ok.mp h
    obtain ⟨action, -, h⟩ := Check.expect_bind_eq_ok.mp h
    obtain ⟨⟨performed, result⟩, hperform, h⟩ := Check.bind_eq_ok.mp h
    cases h
    rw [performControl] at hperform
    split_ifs at hperform
    · cases (Check.unit_bind_eq_ok.mp hperform).2
      exact ⟨rfl, rfl⟩
    · cases (Check.unit_bind_eq_ok.mp hperform).2
      exact ⟨rfl, rfl⟩
    · cases hperform
      exact ⟨rfl, rfl⟩

/-- **An honest step keeps what is known of the source paid for**, whatever the step is. -/
theorem Tracked.step (h : Tracked config source boundary history)
    (hconfig : config.validateConfig = .ok ()) (op : IngressOp)
    (hhonest : HonestCall codec source history ((machine codec).event boundary op)) :
    Tracked config source ((machine codec).next boundary op)
      (observe codec source history ((machine codec).event boundary op)) := by
  cases op with
  | admitContentBytes raw nowMs =>
    by_cases hasked : boundary.asked codec raw = some source
    · exact h.step_own hconfig hasked (hhonest hasked)
    · exact h.step_other hasked
  | popContent =>
    have hpop : boundary.popContent.1.config = boundary.config ∧
        boundary.popContent.1.buckets = boundary.buckets := by
      rw [popContent]
      split <;> exact ⟨rfl, rfl⟩
    refine h.of_buckets (hpop.1.trans h.config_eq) (fun bucket hbucket ↦ ?_) rfl
    rw [← hpop.2]
    exact hbucket
  | handleControl request atMs =>
    obtain ⟨hcontrol, hbuckets⟩ :=
      boundary.step_handleControl_buckets codec request atMs
    refine h.of_buckets (hcontrol.trans h.config_eq) (fun bucket hbucket ↦ ?_) rfl
    rw [← hbuckets]
    exact hbucket

theorem new_eq_ok {schedulerConfig : SchedulerConfig} {redactor : SecretRedactor}
    (h : new config schedulerConfig redactor = .ok boundary) :
    config.validateConfig = .ok () ∧ ∀ source, Tracked config source boundary .empty := by
  rw [new] at h
  split at h
  case h_1 => cases h
  case h_2 hvalid =>
    cases h
    refine ⟨hvalid, fun source ↦ ⟨rfl, fun bucket hbucket ↦ ?_, rfl⟩⟩
    rw [opened, ExtTreeMap.getElem?_empty] at hbucket
    cases hbucket

/-- **A source is admitted no more often than its rate allows**, between any two times of
a run whose calls are honest, whatever other sources send and whichever buckets are dropped. -/
theorem rate_limited {schedulerConfig : SchedulerConfig} {redactor : SecretRedactor}
    (hnew : new config schedulerConfig redactor = .ok boundary) {ops : List IngressOp}
    (hhonest : (machine codec).Meets (observe codec source) (HonestCall codec source) boundary
      .empty ops) :
    RateBound config ((machine codec).watch (observe codec source) boundary .empty ops).admitted := by
  obtain ⟨hconfig, hstart⟩ := new_eq_ok hnew
  have htracked := (machine codec).invariant (P := Tracked config source)
    (fun _ _ op h ↦ h.step hconfig op) (hstart source) hhonest
  exact htracked.accounted.rateBound hconfig

/-! ## Calls that are not honest -/

theorem new_eq {schedulerConfig : SchedulerConfig} {redactor : SecretRedactor}
    (hvalid : config.validateConfig = .ok ()) :
    new config schedulerConfig redactor = .ok (opened config schedulerConfig redactor hvalid) := by
  rw [new]
  split
  case h_1 herror => rw [hvalid] at herror; cases herror
  case h_2 => rfl

/-- One message a second, from sources that are forgotten after a millisecond. -/
def slowConfig : SecurityRuntimeConfig :=
  { SecurityRuntimeConfig.default with
    contentRatePerSecond := .finite 1
    contentBurst := 1
    rateLimitSourceTtlMs := 1 }

theorem slowConfig_valid : slowConfig.validateConfig = .ok () := by decide +kernel

def chatMessage (source : String) : EventEnvelope where
  schemaVersion := eventSchemaVersion
  eventId := "chat-1"
  correlationId := "chat-1"
  sequence := 1
  observedAt := "2024-01-01T00:00:00Z"
  source := source
  sourceClass := .publicChat
  plane := .content
  trustLevel := .untrusted
  kind := .chatMessage
  actorId := none
  priorityHint := none
  authorization := none
  payload := ∅

/-- The message of a source, written out. -/
def chatJson (source : String) : List UInt8 := List.map Char.toUInt8 <| List.flatMap String.toList
  ["\x7b\"schema_version\":\"0.2.0\",\"event_id\":\"chat-1\",\"correlation_id\":\"chat-1\",",
    "\"sequence\":1,\"observed_at\":\"2024-01-01T00:00:00Z\",\"source\":\"", source,
    "\",\"source_class\":\"public_chat\",\"plane\":\"content\",\"trust_level\":\"untrusted\",",
    "\"kind\":\"chat.message\",\"actor_id\":null,\"priority_hint\":null,\"payload\":\x7b\x7d\x7d"]

/-- A library that knows the messages of a viewer and a guest; a payload is two braces. -/
def chatCodec : ContentCodec where
  parse raw :=
    if raw = chatJson "viewer" then .ok (chatMessage "viewer")
    else if raw = chatJson "guest" then .ok (chatMessage "guest")
    else .error "expected value"
  payloadBytes _ := .ok 2

def slowBoundary : SecurityBoundary := opened slowConfig .default (.new []) slowConfig_valid

/-- Messages of some sources at some times. -/
def chatAt (calls : List (String × Nat)) : List IngressOp :=
  calls.map fun call ↦ .admitContentBytes (chatJson call.1) call.2

/-- When the messages of the viewer were admitted. -/
def viewerAdmitted (calls : List (String × Nat)) : List Nat :=
  ((machine chatCodec).watch (observe chatCodec "viewer") slowBoundary .empty
    (chatAt calls)).admitted

/-- What comes of some messages: the bytes of each are looked at once. -/
theorem chat_runs :
    viewerAdmitted [("viewer", 10), ("viewer", 0), ("viewer", 1000)] = [1000, 10] ∧
    viewerAdmitted [("viewer", 0), ("guest", 1), ("viewer", 2)] = [2, 0] ∧
    (machine chatCodec).Meets (observe chatCodec "viewer") (HonestCall chatCodec "viewer")
      slowBoundary .empty
      (chatAt [("viewer", 0), ("viewer", 10), ("guest", 1000), ("viewer", 1000)]) ∧
    (step chatCodec slowBoundary (.admitContentBytes (chatJson "viewer") 0)).1.correlations.size =
      1 := by
  decide +kernel

theorem viewer_rate_limited : RateBound slowConfig
    (viewerAdmitted [("viewer", 0), ("viewer", 10), ("guest", 1000), ("viewer", 1000)]) :=
  rate_limited (new_eq slowConfig_valid) chat_runs.2.2.1

/-- Two messages in less than a second: after a refused call at an earlier time, and after a
call of another source, for which the bucket is dropped. -/
theorem viewer_admitted_twice : new slowConfig .default (.new []) = .ok slowBoundary ∧
    ¬ RateBound slowConfig (viewerAdmitted [("viewer", 10), ("viewer", 0), ("viewer", 1000)]) ∧
    ¬ RateBound slowConfig (viewerAdmitted [("viewer", 0), ("guest", 1), ("viewer", 2)]) := by
  rw [chat_runs.1, chat_runs.2.1]
  refine ⟨?_, fun hbound ↦ ?_, fun hbound ↦ ?_⟩
  · rw [slowBoundary]
    exact new_eq slowConfig_valid
  · have htwo := hbound 10 1000 (by norm_num)
    norm_num [slowConfig, Float64.value] at htwo
  · have htwo := hbound 0 2 (by norm_num)
    norm_num [slowConfig, Float64.value] at htwo

end SecurityBoundary

end Aivtuber
