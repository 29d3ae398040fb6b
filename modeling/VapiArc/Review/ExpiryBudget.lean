import VapiArc.Review.DeliverableScan
import VapiArc.Review.Service

/-!
# The budget of a job's expiry

A job is admitted with enough time for the review and its settlement. Later checks read the
clock in milliseconds and round what is left of the review up to seconds.
-/
namespace VapiArc.Review

open Checked Processor
open Json (nearest nearest_natCast nearest_of_nonneg nearest_of_representable roundNonneg_natCast
  ceil_nearest_div)

structure OperationalConfig where
  port : ℤ
  claimTtlSeconds : ℤ
  reviewSlaSeconds : ℤ
  minJobExpiryBufferSeconds : ℤ
  maxDispatches : ℤ
  circleMaxAttempts : ℤ
  transactionPollTimeoutMs : ℤ
  backgroundIntervalMs : ℤ
  logLookbackBlocks : ℤ
  deriving DecidableEq, Repr

namespace OperationalConfig

variable (config : OperationalConfig)

def positiveValues : List (String × ℤ) :=
  [("PORT/REVIEW_PORT", config.port),
    ("REVIEW_CLAIM_TTL_SECONDS", config.claimTtlSeconds),
    ("REVIEW_SLA_SECONDS", config.reviewSlaSeconds),
    ("REVIEW_MIN_JOB_EXPIRY_SECONDS", config.minJobExpiryBufferSeconds),
    ("REVIEW_MAX_DISPATCHES", config.maxDispatches),
    ("CIRCLE_MAX_ATTEMPTS", config.circleMaxAttempts),
    ("CIRCLE_TRANSACTION_TIMEOUT_MS", config.transactionPollTimeoutMs),
    ("REVIEW_BACKGROUND_INTERVAL_MS", config.backgroundIntervalMs),
    ("REVIEW_LOG_LOOKBACK_BLOCKS", config.logLookbackBlocks)]

def dispatchWindowMs : ℤ :=
  config.claimTtlSeconds * 1000 * config.maxDispatches +
    config.backgroundIntervalMs * max 0 (config.maxDispatches - 1)

def requiredExpiryBuffer : ℤ :=
  config.reviewSlaSeconds + (2 * config.transactionPollTimeoutMs + 999) / 1000 + 60

def validateOperationalConfig : Except Failure Unit := do
  config.positiveValues.forM fun entry =>
    revertIf (isSafeInteger entry.2 = false ∨ entry.2 < 1)
      (.error (entry.1 ++ " must be a positive safe integer"))
  revertIf (config.port > 65535) (.error "PORT/REVIEW_PORT must be between 1 and 65535")
  revertIf (config.backgroundIntervalMs > config.claimTtlSeconds * 1000)
    (.error "REVIEW_BACKGROUND_INTERVAL_MS cannot exceed REVIEW_CLAIM_TTL_SECONDS")
  revertIf (config.dispatchWindowMs > config.reviewSlaSeconds * 1000)
    (.error "REVIEW_SLA_SECONDS must cover every claim window and redispatch interval")
  revertIf (config.requiredExpiryBuffer > maxSafeInteger)
    (.error "configured review and Circle SLA is too large")
  revertIf (config.minJobExpiryBufferSeconds < config.requiredExpiryBuffer)
    (.error ("REVIEW_MIN_JOB_EXPIRY_SECONDS must be at least " ++
      toString config.requiredExpiryBuffer ++ " for the configured review and Circle SLA"))

/-- The processor and the chain run with this configuration. -/
structure Configures (d : Dependencies) (chain : LiveReviewChain) : Prop where
  sla : config.reviewSlaSeconds = d.config.reviewSlaSeconds
  timeout : config.transactionPollTimeoutMs = d.config.transactionPollTimeoutMs
  buffer : chain.minJobExpiryBufferSeconds = config.minJobExpiryBufferSeconds

variable {config}

/-- An accepted configuration has time for the review and for its payout. -/
theorem accepted_covers (accepted : config.validateOperationalConfig = .ok ()) :
    0 < config.reviewSlaSeconds ∧ config.transactionPollTimeoutMs ≤ maxSafeInteger ∧
      config.requiredExpiryBuffer ≤ config.minJobExpiryBufferSeconds := by
  simp only [validateOperationalConfig, bind_ok, revertIf_ok, exists_const] at accepted
  obtain ⟨_, guards, -, -, -, -, enough⟩ := accepted
  have positive : ∀ entry ∈ config.positiveValues, isSafeInteger entry.2 = true ∧ 1 ≤ entry.2 := by
    intro entry member
    have passes := (forM_ok _ _).mp guards entry member
    rw [revertIf_ok, not_or, Bool.not_eq_false, Int.not_lt] at passes
    exact passes
  have sla := positive ("REVIEW_SLA_SECONDS", config.reviewSlaSeconds) (by simp [positiveValues])
  have timeout := positive ("CIRCLE_TRANSACTION_TIMEOUT_MS", config.transactionPollTimeoutMs)
    (by simp [positiveValues])
  have safe : config.transactionPollTimeoutMs ≤ maxSafeInteger := by
    simpa [isSafeInteger] using And.right (by simpa [isSafeInteger] using timeout.1)
  exact ⟨sla.2, safe, Int.not_lt.mp enough⟩

end OperationalConfig

section Budget

variable {config : OperationalConfig} {d : Dependencies} {chain : LiveReviewChain}
  {hashes hashes' : Nat → Option Hex} {jobId : Nat} {content : String} {job : ValidatedReviewJob}
  {now : Timestamp}

/-- The chain answers as it did when the job was admitted. -/
structure LiveReviewChain.Unchanged (chain later : LiveReviewChain) (hashes hashes' : Nat → Option Hex)
    (jobId : Nat) : Prop where
  library : later.library = chain.library
  routerAddress : later.routerAddress = chain.routerAddress
  job : later.client.getJob jobId = chain.client.getJob jobId
  resolution : later.client.resolutions jobId = chain.client.resolutions jobId
  evidence : later.client.evidence jobId = chain.client.evidence jobId
  deliverable : later.findDeliverableHash hashes' jobId = chain.findDeliverableHash hashes jobId

/-- A job that was admitted is accepted again if it does not expire within the buffer. -/
theorem LiveReviewChain.validateReview_again {later : LiveReviewChain} {admittedAt : Timestamp}
    {buffer : ℤ} (admitted : chain.validateReview hashes jobId content none admittedAt = .ok job)
    (unchanged : chain.Unchanged later hashes hashes' jobId) (safe : isSafeInteger buffer = true)
    (positive : 0 ≤ buffer) :
    later.validateReview hashes' jobId content (some buffer) now = .ok job ↔
      ((now / 1000 : Nat) : ℤ) + buffer ≤ job.expiredAt := by
  simp only [validateReview, bind_ok, revertIf_ok, exists_const, pure_ok] at admitted
  obtain ⟨raw, read, id, evaluator, status, -, -, resolution, escalated, same, deliverable, found,
    evidence, reason, hash, rfl⟩ := admitted
  simp only [validateReview, unchanged.job, unchanged.resolution, unchanged.evidence,
    unchanged.deliverable, unchanged.library, unchanged.routerAddress, read, escalated, found, reason,
    bind_ok, revertIf_ok, exists_const, pure_ok, Except.ok.injEq, exists_eq_left', Option.getD_some]
  constructor
  · intro accepted
    exact Int.not_lt.mp accepted.2.2.2.2.1
  · intro enough
    exact ⟨id, evaluator, status, by simp [safe, positive], Int.not_lt.mpr enough, same, hash, trivial⟩

/-- A job that expires within the buffer is turned away for good. -/
theorem LiveReviewChain.validateReview_tooClose {later : LiveReviewChain} {admittedAt : Timestamp}
    {buffer : ℤ} (admitted : chain.validateReview hashes jobId content none admittedAt = .ok job)
    (unchanged : chain.Unchanged later hashes hashes' jobId) (safe : isSafeInteger buffer = true)
    (positive : 0 ≤ buffer) (late : job.expiredAt < ((now / 1000 : Nat) : ℤ) + buffer) :
    later.validateReview hashes' jobId content (some buffer) now =
      .error (.validation (jobExpiryTooClose buffer)) := by
  simp only [validateReview, bind_ok, revertIf_ok, exists_const, pure_ok, not_not] at admitted
  obtain ⟨raw, read, id, evaluator, status, _, _, _, _, _, _, _, _, _, _, rfl⟩ := admitted
  have soon : (raw.expiredAt : ℤ) < ((now / 1000 : Nat) : ℤ) + buffer := late
  simp only [validateReview, unchanged.job, unchanged.routerAddress, read, revertIf, id, evaluator,
    status, Option.getD_some, safe, Int.not_lt.mpr positive, soon, bind, Except.bind, ne_eq,
    not_true_eq_false, Bool.true_eq_false, or_self, if_true, if_false]

/-- What an admission under the default buffer leaves. -/
theorem LiveReviewChain.admitted_expiry {admittedAt : Timestamp}
    (admitted : chain.validateReview hashes jobId content none admittedAt = .ok job) :
    ((admittedAt / 1000 : Nat) : ℤ) + chain.minJobExpiryBufferSeconds ≤ job.expiredAt := by
  simp only [validateReview, bind_ok, revertIf_ok, exists_const, pure_ok, Option.getD_none] at admitted
  obtain ⟨raw, -, -, -, -, -, enough, _, -, -, _, -, _, -, -, rfl⟩ := admitted
  exact Int.not_lt.mp enough

section Doubles

variable {order : ReviewOrder}

/-- The millisecond in which the review ends. -/
def endOfReview (order : ReviewOrder) (reviewSlaSeconds : Nat) : Nat :=
  ⌊Database.reviewEnd order reviewSlaSeconds⌋.toNat

/-- Up to the largest SLA the doubles miss the end of the review by a millisecond at most. -/
theorem endOfReview_spec {sla : Nat} (date : order.purchase.createdAt ≤ Database.latestDate)
    (short : sla ≤ 9007199254740) :
    Database.reviewEnd order sla = endOfReview order sla ∧
      endOfReview order sla ≤ sla * 1000 + order.purchase.createdAt + 1 ∧
      sla * 1000 + order.purchase.createdAt ≤ endOfReview order sla + 1 ∧
      (sla * 1000 + order.purchase.createdAt < 2 ^ 53 →
        endOfReview order sla = sla * 1000 + order.purchase.createdAt) := by
  unfold Database.latestDate at date
  have product : nearest (sla * 1000) = (sla * 1000 : Nat) := by
    have := @nearest_natCast (sla * 1000) (by omega)
    exact_mod_cast this
  obtain ⟨n, rounded, same, close⟩ := roundNonneg_natCast (sla * 1000 + order.purchase.createdAt)
  have value : Database.reviewEnd order sla = n := by
    rw [Database.reviewEnd, product, add_comm, ← Nat.cast_add,
      nearest_of_nonneg (Nat.cast_nonneg _), rounded]
  have whole : endOfReview order sla = n := by
    rw [endOfReview, value]
    simp
  have bounded : sla * 1000 + order.purchase.createdAt < 2 ^ 54 :=
    lt_of_le_of_lt (Nat.add_le_add (Nat.mul_le_mul_right 1000 short) date) (by norm_num)
  rw [whole]
  exact ⟨value, (close bounded).1, (close bounded).2, same⟩

/-- A review is in time while the clock is before its end. -/
theorem reviewSlaElapsed_in_time {sla : Nat} {now : Timestamp} :
    Database.reviewSlaElapsed order sla now = .ok false ↔
      sla ≤ 9007199254740 ∧ order.purchase.createdAt ≤ Database.latestDate ∧
        now < endOfReview order sla := by
  simp only [Database.reviewSlaElapsed, bind_ok, revertIf_ok, exists_const, pure_ok,
    decide_eq_false_iff_not, not_le, Nat.not_lt]
  constructor
  · rintro ⟨short, date, before⟩
    rw [(endOfReview_spec date short).1] at before
    exact ⟨short, date, by exact_mod_cast before⟩
  · rintro ⟨short, date, before⟩
    refine ⟨short, date, ?_⟩
    rw [(endOfReview_spec date short).1]
    exact_mod_cast before

theorem seconds_natCast {ms : Nat} (small : ms < 2 ^ 53) : seconds ms = ((ms + 999) / 1000 : Nat) := by
  have := ceil_nearest_div (d := 1000) small (by norm_num) (by norm_num)
  exact_mod_cast this

theorem payoutExpiryBufferSeconds_eq (safe : d.config.transactionPollTimeoutMs < 2 ^ 53) :
    payoutExpiryBufferSeconds d = (2 * d.config.transactionPollTimeoutMs + 999) / 1000 + 60 := by
  have double : nearest (2 * d.config.transactionPollTimeoutMs) =
      2 * d.config.transactionPollTimeoutMs := by
    apply nearest_of_representable
    exact ⟨d.config.transactionPollTimeoutMs, 1, by rw [Nat.abs_cast]; exact_mod_cast safe,
      by norm_num, by norm_num, by push_cast; ring⟩
  have ceil := ceil_nearest_div (d := 500) safe (by norm_num) (by norm_num)
  have quotient : (2 * d.config.transactionPollTimeoutMs : ℚ) / 1000 =
      d.config.transactionPollTimeoutMs / (500 : Nat) := by push_cast; ring
  rw [payoutExpiryBufferSeconds, double, seconds, quotient, ceil]
  omega

theorem isSafeInteger_natCast {n : Nat} (small : n < 2 ^ 53) : isSafeInteger n = true := by
  unfold isSafeInteger maxSafeInteger
  exact decide_eq_true (by omega)

/-- While the review is in time its milliseconds are exact. -/
theorem dispatchExpiryBufferSeconds_eq {checked : Timestamp}
    (safe : d.config.transactionPollTimeoutMs < 2 ^ 53) (since : order.purchase.createdAt ≤ checked)
    (inTime : Database.reviewSlaElapsed order d.config.reviewSlaSeconds checked = .ok false) :
    dispatchExpiryBufferSeconds d order checked =
        (endOfReview order d.config.reviewSlaSeconds - checked + 999) / 1000 +
          payoutExpiryBufferSeconds d ∧
      isSafeInteger (dispatchExpiryBufferSeconds d order checked) = true := by
  obtain ⟨short, date, before⟩ := reviewSlaElapsed_in_time.mp inTime
  obtain ⟨value, high, -, -⟩ := endOfReview_spec date short
  have payout := payoutExpiryBufferSeconds_eq safe
  have small : endOfReview order d.config.reviewSlaSeconds - checked < 2 ^ 53 :=
    lt_of_le_of_lt (Nat.sub_le_sub_left since _) (by omega)
  have remaining : Database.reviewEnd order d.config.reviewSlaSeconds - checked =
      (endOfReview order d.config.reviewSlaSeconds - checked : Nat) := by
    rw [value, Nat.cast_sub before.le]
  have total : (endOfReview order d.config.reviewSlaSeconds - checked + 999) / 1000 +
      payoutExpiryBufferSeconds d < 2 ^ 53 := by omega
  rw [dispatchExpiryBufferSeconds, remaining, nearest_natCast small, seconds_natCast small,
    max_eq_right (Int.natCast_nonneg _)]
  generalize (endOfReview order d.config.reviewSlaSeconds - checked + 999) / 1000 = left at total ⊢
  rw [Int.cast_natCast, ← Nat.cast_add, nearest_natCast total, Int.ceil_natCast, Int.toNat_natCast]
  exact ⟨rfl, isSafeInteger_natCast total⟩

end Doubles

/-- The seconds of a clock and what is left until a deadline, rounded up, end with the
deadline's second, or one after it. -/
theorem seconds_left {deadline checked : Nat} (within : checked < deadline) :
    checked / 1000 + (deadline - checked + 999) / 1000 =
      deadline / 1000 + if checked % 1000 < deadline % 1000 then 1 else 0 := by
  have deadlineParts := Nat.div_add_mod deadline 1000
  have checkedParts := Nat.div_add_mod checked 1000
  have deadlineMs := Nat.mod_lt deadline (by decide : 1000 > 0)
  have checkedMs := Nat.mod_lt checked (by decide : 1000 > 0)
  generalize deadline / 1000 = c, deadline % 1000 = r, checked / 1000 = k, checked % 1000 = m at *
  by_cases behind : m < r
  · have left : (deadline - checked + 999) / 1000 = c + 1 - k := by
      rw [Nat.div_eq_iff (by decide)]
      omega
    rw [if_pos behind, left]
    omega
  · have left : (deadline - checked + 999) / 1000 = c - k := by
      rw [Nat.div_eq_iff (by decide)]
      omega
    rw [if_neg behind, left]
    omega

/-- A later second costs what has passed since the buffer was computed. -/
theorem ticks_le_spare {expiry deadline payout buffer checked now : Nat} {extra : ℤ}
    (budget : (checked : ℤ) + buffer = deadline + payout + extra) (ordered : checked ≤ now) :
    (now : ℤ) + buffer ≤ expiry ↔
      ((now - checked : Nat) : ℤ) + extra ≤ expiry - (deadline + payout) := by
  omega

/-- The seconds that a job has beyond the end of its review and the time that is set aside for
its payout. -/
def spareSeconds (d : Dependencies) (order : ReviewOrder) : ℤ :=
  order.purchase.jobExpiredAt - ((endOfReview order d.config.reviewSlaSeconds / 1000 : Nat) +
    ((2 * d.config.transactionPollTimeoutMs + 999) / 1000 + 60 : Nat))

theorem spareSeconds_nonneg {order : ReviewOrder} {admittedAt : Timestamp}
    (accepted : config.validateOperationalConfig = .ok ()) (configures : config.Configures d chain)
    (admitted : chain.validateReview hashes jobId content none admittedAt = .ok job)
    (sameSecond : order.purchase.createdAt / 1000 = admittedAt / 1000)
    (expiry : order.purchase.jobExpiredAt = job.expiredAt)
    (date : order.purchase.createdAt ≤ Database.latestDate)
    (exact_ : d.config.reviewSlaSeconds * 1000 + order.purchase.createdAt < 2 ^ 53) :
    0 ≤ spareSeconds d order := by
  obtain ⟨sla, safe, enough⟩ := OperationalConfig.accepted_covers accepted
  have granted := LiveReviewChain.admitted_expiry admitted
  have timeout := configures.timeout
  have total := configures.sla
  rw [configures.buffer, ← sameSecond, ← expiry] at granted
  obtain ⟨-, -, -, same⟩ := endOfReview_spec date (by omega : d.config.reviewSlaSeconds ≤ _)
  unfold OperationalConfig.requiredExpiryBuffer at enough
  unfold spareSeconds
  rw [same exact_]
  omega

/-- A check before a dispatch looks at the clock twice. -/
theorem dispatch_expiry {order : ReviewOrder} {checked : Timestamp}
    (safe : d.config.transactionPollTimeoutMs < 2 ^ 53) (since : order.purchase.createdAt ≤ checked)
    (inTime : Database.reviewSlaElapsed order d.config.reviewSlaSeconds checked = .ok false) :
    ((checked / 1000 : Nat) : ℤ) + dispatchExpiryBufferSeconds d order checked =
      (endOfReview order d.config.reviewSlaSeconds / 1000 : Nat) +
        ((2 * d.config.transactionPollTimeoutMs + 999) / 1000 + 60 : Nat) +
        if checked % 1000 < endOfReview order d.config.reviewSlaSeconds % 1000 then 1 else 0 := by
  have left := seconds_left (reviewSlaElapsed_in_time.mp inTime).2.2
  rw [(dispatchExpiryBufferSeconds_eq safe since inTime).1, payoutExpiryBufferSeconds_eq safe]
  by_cases behind : checked % 1000 < endOfReview order d.config.reviewSlaSeconds % 1000
  · rw [if_pos behind] at left ⊢
    omega
  · rw [if_neg behind] at left ⊢
    omega

/-- The last millisecond of a review that is not on a full second belongs to its last second. -/
theorem last_second {deadline : Nat} (positive : 0 < deadline) :
    (deadline - 1) / 1000 + (if deadline % 1000 = 0 then 1 else 0) = deadline / 1000 := by
  split
  next full => omega
  next => omega

/-- The checks for a verdict in time, if none comes later than the spare seconds allow. -/
theorem payout_in_time {order : ReviewOrder} {verdictAt now decided lag : Nat}
    (safe : d.config.transactionPollTimeoutMs < 2 ^ 53)
    (before : verdictAt < endOfReview order d.config.reviewSlaSeconds) (ordered : now ≤ decided)
    (lags : decided / 1000 ≤ verdictAt / 1000 + lag)
    (enough : (lag : ℤ) ≤ spareSeconds d order +
      if endOfReview order d.config.reviewSlaSeconds % 1000 = 0 then 1 else 0) :
    ((now / 1000 : Nat) : ℤ) + payoutExpiryBufferSeconds d ≤ order.purchase.jobExpiredAt ∧
      ¬ order.purchase.jobExpiredAt < decided / 1000 + payoutExpiryBufferSeconds d := by
  have payout := payoutExpiryBufferSeconds_eq safe
  have last := last_second (lt_of_le_of_lt (Nat.zero_le verdictAt) before)
  have verdict : verdictAt / 1000 ≤ (endOfReview order d.config.reviewSlaSeconds - 1) / 1000 :=
    Nat.div_le_div_right (Nat.le_sub_one_of_lt before)
  have read : now / 1000 ≤ decided / 1000 := Nat.div_le_div_right ordered
  unfold spareSeconds at enough
  by_cases full : endOfReview order d.config.reviewSlaSeconds % 1000 = 0
  · rw [if_pos full] at enough last
    constructor <;> omega
  · rw [if_neg full] at enough last
    constructor <;> omega

/-- The verdict of the review's last millisecond, and a check that comes later. -/
theorem payout_overrun {order : ReviewOrder} {lag : Nat}
    (safe : d.config.transactionPollTimeoutMs < 2 ^ 53)
    (positive : 0 < endOfReview order d.config.reviewSlaSeconds)
    (late : spareSeconds d order +
      (if endOfReview order d.config.reviewSlaSeconds % 1000 = 0 then 1 else 0) < (lag : ℤ)) :
    order.purchase.jobExpiredAt <
      (endOfReview order d.config.reviewSlaSeconds - 1 + lag * 1000) / 1000 +
        payoutExpiryBufferSeconds d := by
  have payout := payoutExpiryBufferSeconds_eq safe
  have last := last_second positive
  unfold spareSeconds at late
  by_cases full : endOfReview order d.config.reviewSlaSeconds % 1000 = 0
  · rw [if_pos full] at late last
    omega
  · rw [if_neg full] at late last
    omega

/-- A check before a dispatch costs the seconds that pass between its two looks at the clock,
and one more where the first one's milliseconds are behind those of the review's end. The checks
before a payout pass, whenever in time the verdict was given, exactly if they are not made more than
the spare seconds after it, and one more if the review ends on a full second. -/
theorem expiry_budget {order : ReviewOrder} {admittedAt : Timestamp}
    (accepted : config.validateOperationalConfig = .ok ()) (configures : config.Configures d chain)
    (admitted : chain.validateReview hashes jobId content none admittedAt = .ok job)
    (sameSecond : order.purchase.createdAt / 1000 = admittedAt / 1000)
    (expiry : order.purchase.jobExpiredAt = job.expiredAt) :
    (order.purchase.createdAt ≤ Database.latestDate →
      d.config.reviewSlaSeconds * 1000 + order.purchase.createdAt < 2 ^ 53 →
      0 ≤ spareSeconds d order) ∧
    (∀ (later : LiveReviewChain) hashes', chain.Unchanged later hashes hashes' jobId →
      ∀ checked now, order.purchase.createdAt ≤ checked →
      Database.reviewSlaElapsed order d.config.reviewSlaSeconds checked = .ok false → checked ≤ now →
      (later.validateReview hashes' jobId content (some (dispatchExpiryBufferSeconds d order checked))
        now = .ok job ↔
      ((now / 1000 - checked / 1000 : Nat) : ℤ) +
        (if checked % 1000 < endOfReview order d.config.reviewSlaSeconds % 1000 then 1 else 0) ≤
        spareSeconds d order)) ∧
    (∀ lag : Nat,
      (∀ (later : LiveReviewChain) hashes', chain.Unchanged later hashes hashes' jobId →
        ∀ verdictAt now decided : Nat, order.purchase.createdAt ≤ verdictAt →
        Database.reviewSlaElapsed order d.config.reviewSlaSeconds verdictAt = .ok false →
        verdictAt ≤ now → now ≤ decided → decided / 1000 ≤ verdictAt / 1000 + lag →
        later.validateReview hashes' jobId content (some (payoutExpiryBufferSeconds d)) now =
            .ok job ∧
          ¬ order.purchase.jobExpiredAt < decided / 1000 + payoutExpiryBufferSeconds d) ↔
      9007199254740 < d.config.reviewSlaSeconds ∨
        Database.latestDate < order.purchase.createdAt ∨
        (lag : ℤ) ≤ spareSeconds d order +
          if endOfReview order d.config.reviewSlaSeconds % 1000 = 0 then 1 else 0) := by
  obtain ⟨sla, safe, -⟩ := OperationalConfig.accepted_covers accepted
  -- what is accepted for the configuration holds of the service that it configures
  have positive : 0 < d.config.reviewSlaSeconds := by
    have same := configures.sla
    omega
  have safe : d.config.transactionPollTimeoutMs < 2 ^ 53 := by
    have same := configures.timeout
    unfold maxSafeInteger at safe
    omega
  refine ⟨spareSeconds_nonneg accepted configures admitted sameSecond expiry, ?_, ?_⟩
  · intro later hashes' unchanged checked now since inTime ordered
    have small := (dispatchExpiryBufferSeconds_eq safe since inTime).2
    rw [LiveReviewChain.validateReview_again admitted unchanged small (Int.natCast_nonneg _), ← expiry]
    exact ticks_le_spare (dispatch_expiry safe since inTime) (Nat.div_le_div_right ordered)
  · intro lag
    constructor
    · intro accepts
      -- otherwise the last verdict in time, decided as late as allowed, is turned down
      by_contra within
      simp only [not_or, Nat.not_lt, not_le] at within
      obtain ⟨short, date, late⟩ := within
      obtain ⟨-, -, low, -⟩ := endOfReview_spec date short
      -- the verdict of the last millisecond, and the latest checks that follow it
      have low : d.config.reviewSlaSeconds * 1000 - 2 + order.purchase.createdAt ≤
          endOfReview order d.config.reviewSlaSeconds - 1 := by omega
      have since : order.purchase.createdAt ≤ endOfReview order d.config.reviewSlaSeconds - 1 :=
        le_trans (Nat.le_add_left _ _) low
      have inTime := reviewSlaElapsed_in_time.mpr
        ⟨short, date, (by omega : endOfReview order d.config.reviewSlaSeconds - 1 < _)⟩
      have accepted := (accepts chain hashes ⟨rfl, rfl, rfl, rfl, rfl, rfl⟩ _ _
        (endOfReview order d.config.reviewSlaSeconds - 1 + lag * 1000) since inTime
        (Nat.le_add_right _ _) (le_refl _) (by omega)).2
      exact accepted (payout_overrun safe (by omega) late)
    · intro within later hashes' unchanged verdictAt now decided since inTime follows ordered lags
      obtain ⟨short, date, before⟩ := reviewSlaElapsed_in_time.mp inTime
      have enough := (within.resolve_left (not_lt.mpr short)).resolve_left (not_lt.mpr date)
      have payout := payoutExpiryBufferSeconds_eq safe
      have small := isSafeInteger_natCast (by omega : payoutExpiryBufferSeconds d < 2 ^ 53)
      rw [LiveReviewChain.validateReview_again admitted unchanged small (Int.natCast_nonneg _),
        ← expiry]
      exact payout_in_time safe before ordered lags enough

end Budget

namespace ExpiryWalkthrough

/-- The configuration of the service's own tests. -/
def operational : OperationalConfig where
  port := 8787
  claimTtlSeconds := 600
  reviewSlaSeconds := 1800
  minJobExpiryBufferSeconds := 2220
  maxDispatches := 2
  circleMaxAttempts := 3
  transactionPollTimeoutMs := 180000
  backgroundIntervalMs := 5000
  logLookbackBlocks := 100000

def dependencies : Dependencies where
  config := { Walkthrough.config with reviewSlaSeconds := 1800, transactionPollTimeoutMs := 180000 }
  library := Walkthrough.dependencies.library
  chain := true
  circle := true

def rawJob : RawJob where
  id := 7
  client := 21
  provider := 22
  evaluator := 90
  budget := 1000
  expiredAt := 3220
  status := 2

def chain : LiveReviewChain where
  client := {
    getBlockNumber := .ok 10
    getLogs := fun query => .ok (matchingLogs [⟨4, 7, 22, 77⟩] query)
    getJob := fun _ => .ok rawJob
    resolutions := fun _ => .ok 3
    evidence := fun _ => .ok 31 }
  library := dependencies.library
  routerAddress := 90
  minJobExpiryBufferSeconds := 2220

def job : ValidatedReviewJob := ⟨7, 21, 22, 3220, 77, 31, none, none⟩

/-- The order is created 900 ms into the second of its admission. -/
def order : ReviewOrder where
  purchase := { Walkthrough.opening.purchase with jobExpiredAt := 3220, createdAt := 1000900 }
  circle := fun _ => { key := 0 }

def hashes : Nat → Option Hex := fun _ => some 77

theorem accepted : operational.validateOperationalConfig = .ok () := rfl

theorem admitted : chain.validateReview hashes 7 "report" none 1000200 = .ok job := rfl

theorem configures : operational.Configures dependencies chain := ⟨rfl, rfl, rfl⟩

theorem refused : chain.validateReview hashes 7 "report"
    (some (dispatchExpiryBufferSeconds dependencies order 1001100)) 1001100 =
      .error (.validation (LiveReviewChain.jobExpiryTooClose 2220)) := by
  have buffer : dispatchExpiryBufferSeconds dependencies order 1001100 = 2220 := by decide +kernel
  rw [buffer]
  exact LiveReviewChain.validateReview_tooClose admitted ⟨rfl, rfl, rfl, rfl, rfl, rfl⟩ (by decide)
    (by decide) (by decide)

end ExpiryWalkthrough

open ExpiryWalkthrough in
theorem expiry_budget_walkthrough :
    chain.validateReview hashes 7 "report"
      (some (dispatchExpiryBufferSeconds dependencies order 1001950)) 1001950 = .ok job :=
  ((expiry_budget accepted configures admitted (by decide : order.purchase.createdAt / 1000 = _) rfl).2.1
    chain hashes ⟨rfl, rfl, rfl, rfl, rfl, rfl⟩ 1001950 1001950 (by decide)
    (reviewSlaElapsed_in_time.mpr (by decide +kernel)) (Nat.le_refl _)).mpr (by decide +kernel)

open ExpiryWalkthrough in
/-- 200 ms after the order was created its job is said to expire too soon. -/
theorem expiry_budget_overrun :
    operational.validateOperationalConfig = .ok () ∧ operational.Configures dependencies chain ∧
      chain.validateReview hashes 7 "report" none 1000200 = .ok job ∧
      order.purchase.createdAt = 1000900 ∧ order.purchase.jobExpiredAt = job.expiredAt ∧
      Database.reviewSlaElapsed order dependencies.config.reviewSlaSeconds 1001100 = .ok false ∧
      chain.validateReview hashes 7 "report"
        (some (dispatchExpiryBufferSeconds dependencies order 1001100)) 1001100 =
          .error (.validation (LiveReviewChain.jobExpiryTooClose 2220)) ∧
      (LiveReviewChain.jobExpiryTooClose 2220).permanent = true :=
  ⟨accepted, configures, admitted, rfl, rfl, reviewSlaElapsed_in_time.mpr (by decide +kernel),
    refused, rfl⟩

end VapiArc.Review
