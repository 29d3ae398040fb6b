import VapiArc.Judge.EvidenceAccepted
import VapiArc.Review.Amounts
import VapiArc.Review.DashboardService

/-!
# The dashboard's snapshot on the wire

The review service sends its snapshot as JSON, with doubles for numbers. The web app takes it apart
with checks of its own, and throws the whole of it away when one of them fails.
-/
namespace VapiArc.App

open Checked
open Dashboard (ChainSnapshot SnapshotStatus Provenance Lane)
open Json (Binary64)
open Judge (JsonValue hex32 isJobId)
open Review (decimalText hashText toISOString trim)

structure DashboardJobRecord where
  id : String
  client : String
  provider : String
  evaluator : String
  description : String
  budget : String
  budgetUsdc : String
  expiredAt : Binary64
  statusCode : Binary64
  status : String
  hook : String
  deriving DecidableEq

structure DashboardFeedRow extends DashboardJobRecord where
  provenance : Option String
  lane : Option String
  confidenceBP : Option Binary64
  statusTxHash : Option String
  verdictTxHash : Option String
  latestBlock : String
  deriving DecidableEq

structure DashboardReviewRecord extends DashboardJobRecord where
  deliverableHash : Option String
  reasonHash : String
  escalationTxHash : Option String
  clientRequested : Bool
  deriving DecidableEq

structure DashboardChainSnapshot where
  configured : Bool
  status : String
  latestBlock : Option String
  indexedAt : Option String
  lastAttemptAt : Option String
  lastError : Option String
  feed : List DashboardFeedRow
  reviewQueue : List DashboardReviewRecord
  deriving DecidableEq

/-- Code that both programs take from elsewhere. -/
structure WebLibrary where
  /-- The checksummed text of an address. -/
  addressText : Nat → String
  /-- The checksummed text of what `isAddress` takes. -/
  getAddress : String → Option String
  /-- `Date.parse` of the text is a number. -/
  isTimestamp : String → Bool
  addressText_marked : ∀ a, ['0', 'x'] <+: (addressText a).toList
  getAddress_addressText : ∀ a < 2 ^ 160, getAddress (addressText a) = some (addressText a)
  isTimestamp_toISOString : ∀ time ≤ 8640000000000000, isTimestamp (toISOString time) = true

section Encoding

theorem word_small {w : Nat} (narrow : w ≤ 53) (n : Word w) : n.val < 2 ^ 53 :=
  n.isLt.trans_le (Nat.pow_le_pow_right Nat.two_pos narrow)

theorem uint8_narrow : 8 ≤ 53 := by norm_num

theorem uint16_narrow : 16 ≤ 53 := by norm_num

/-- Words of few bits are decoded to numbers. -/
def uint8Number (n : Escrow.Uint8) : Binary64 := .ofNat n.val (word_small uint8_narrow n)

def uint16Number (n : Escrow.Uint16) : Binary64 := .ofNat n.val (word_small uint16_narrow n)

/-- `DASHBOARD_SNAPSHOT_VERSION` -/
def version : Binary64 := uint8Number 1

def textOf (text : Option String) : JsonValue := text.elim .null .string

def DashboardJobRecord.fields (job : DashboardJobRecord) : List (String × JsonValue) :=
  [("id", .string job.id), ("client", .string job.client), ("provider", .string job.provider),
    ("evaluator", .string job.evaluator), ("description", .string job.description),
    ("budget", .string job.budget), ("budgetUsdc", .string job.budgetUsdc),
    ("expiredAt", .number job.expiredAt), ("statusCode", .number job.statusCode),
    ("status", .string job.status), ("hook", .string job.hook)]

/-- What a row of the feed has beyond its job. -/
def DashboardFeedRow.verdict (row : DashboardFeedRow) : List (String × JsonValue) :=
  [("provenance", textOf row.provenance), ("lane", textOf row.lane),
    ("confidenceBP", row.confidenceBP.elim .null .number),
    ("statusTxHash", textOf row.statusTxHash), ("verdictTxHash", textOf row.verdictTxHash),
    ("latestBlock", .string row.latestBlock)]

def DashboardFeedRow.toJson (row : DashboardFeedRow) : JsonValue :=
  .object (row.toDashboardJobRecord.fields ++ row.verdict)

/-- What a row of the review queue has beyond its job. -/
def DashboardReviewRecord.review (row : DashboardReviewRecord) : List (String × JsonValue) :=
  [("deliverableHash", textOf row.deliverableHash), ("reasonHash", .string row.reasonHash),
    ("escalationTxHash", textOf row.escalationTxHash),
    ("clientRequested", .bool row.clientRequested)]

def DashboardReviewRecord.toJson (row : DashboardReviewRecord) : JsonValue :=
  .object (row.toDashboardJobRecord.fields ++ row.review)

def DashboardChainSnapshot.toJson (snapshot : DashboardChainSnapshot) : JsonValue :=
  .object [("version", .number version), ("configured", .bool snapshot.configured),
    ("status", .string snapshot.status), ("latestBlock", textOf snapshot.latestBlock),
    ("indexedAt", textOf snapshot.indexedAt), ("lastAttemptAt", textOf snapshot.lastAttemptAt),
    ("lastError", textOf snapshot.lastError),
    ("feed", .array (snapshot.feed.map DashboardFeedRow.toJson)),
    ("reviewQueue", .array (snapshot.reviewQueue.map DashboardReviewRecord.toJson))]

def statusText : SnapshotStatus → String
  | .syncing => "syncing"
  | .ready => "ready"
  | .stale => "stale"
  | .degraded => "degraded"

def provenanceText : Provenance → String
  | .aiAuto => "AI auto"
  | .escalated => "escalated"
  | .human => "human"

def laneText : Lane → String
  | .ai => "AI"
  | .human => "human"

variable (lib : WebLibrary)

/-- A job's record in the texts that the service keeps it in. -/
def sentJob (job : Dashboard.DashboardJobRecord) : DashboardJobRecord where
  id := toString job.id.val
  client := lib.addressText job.client
  provider := lib.addressText job.provider
  evaluator := lib.addressText job.evaluator
  description := job.description
  budget := toString job.budget.val
  budgetUsdc := decimalText job.budget.val
  expiredAt := job.expiredAt
  statusCode := uint8Number job.statusCode
  status := job.status
  hook := lib.addressText job.hook

def sentRow (row : Dashboard.DashboardFeedRow) : DashboardFeedRow where
  toDashboardJobRecord := sentJob lib row.toDashboardJobRecord
  provenance := row.provenance.map provenanceText
  lane := row.lane.map laneText
  confidenceBP := row.confidenceBP.map uint16Number
  statusTxHash := row.statusTxHash.map hashText
  verdictTxHash := row.verdictTxHash.map hashText
  latestBlock := toString row.latestBlock

def sentReview (row : Dashboard.DashboardReviewRecord) : DashboardReviewRecord where
  toDashboardJobRecord := sentJob lib row.toDashboardJobRecord
  deliverableHash := row.deliverableHash.map hashText
  reasonHash := hashText row.reasonHash
  escalationTxHash := row.escalationTxHash.map hashText
  clientRequested := row.clientRequested

def sent (snapshot : ChainSnapshot) : DashboardChainSnapshot where
  configured := snapshot.configured
  status := statusText snapshot.status
  latestBlock := snapshot.latestBlock.map toString
  indexedAt := snapshot.indexedAt.map toISOString
  lastAttemptAt := snapshot.lastAttemptAt.map toISOString
  lastError := snapshot.lastError
  feed := snapshot.feed.map (sentRow lib)
  reviewQueue := snapshot.reviewQueue.map (sentReview lib)

end Encoding

section Decoding

def MAX_SAFE_INTEGER : Nat := 9007199254740991

def invalid (field : String) : String := "Invalid " ++ field

def asRecord : JsonValue → Option (List (String × JsonValue))
  | .object fields => some fields
  | _ => none

def requiredString (value : Option JsonValue) (field : String) (allowEmpty : Bool := false) :
    Except String String :=
  match value with
  | some (.string text) => do
    revertIf (allowEmpty = false ∧ trim text = "") (invalid field)
    return text
  | _ => throw (invalid field)

def nullableString (value : Option JsonValue) (field : String) : Except String (Option String) :=
  match value with
  | none | some .null | some (.string "") => return none
  | _ => some <$> requiredString value field

/-- `Number.isSafeInteger` -/
def isSafeInteger (n : Binary64) : Bool := n.value.den = 1 && |n.value| ≤ MAX_SAFE_INTEGER

def nonNegativeInteger (value : Option JsonValue) (field : String) : Except String Binary64 :=
  match value with
  | some (.number n) => do
    revertIf (isSafeInteger n = false ∨ n.value < 0) (invalid field)
    return n
  | _ => throw (invalid field)

def decimalString (value : Option JsonValue) (field : String) : Except String String := do
  let parsed ← requiredString value field
  revertIf (isJobId parsed = false) (invalid field)
  return parsed

variable (lib : WebLibrary)

def addressString (value : Option JsonValue) (field : String) : Except String String := do
  let parsed ← requiredString value field
  demand (invalid field) (lib.getAddress parsed)

def hashString (value : Option JsonValue) (field : String) : Except String String := do
  let parsed ← requiredString value field
  revertIf ((hex32 parsed).isSome = false) (invalid field)
  return parsed

def nullableHash (value : Option JsonValue) (field : String) : Except String (Option String) :=
  match value with
  | none | some .null => return none
  | _ => some <$> hashString value field

def nullableTimestamp (value : Option JsonValue) (field : String) :
    Except String (Option String) :=
  match value with
  | none | some .null => return none
  | _ => do
    let parsed ← requiredString value field
    revertIf (lib.isTimestamp parsed = false) (invalid field)
    return some parsed

def parseDashboardJob (value : JsonValue) : Except String DashboardJobRecord := do
  let job ← demand (invalid "dashboard job") (asRecord value)
  return {
    id := ← decimalString (job.lookup "id") "job.id"
    client := ← addressString lib (job.lookup "client") "job.client"
    provider := ← addressString lib (job.lookup "provider") "job.provider"
    evaluator := ← addressString lib (job.lookup "evaluator") "job.evaluator"
    description := ← requiredString (job.lookup "description") "job.description" true
    budget := ← decimalString (job.lookup "budget") "job.budget"
    budgetUsdc := ← requiredString (job.lookup "budgetUsdc") "job.budgetUsdc"
    expiredAt := ← nonNegativeInteger (job.lookup "expiredAt") "job.expiredAt"
    statusCode := ← nonNegativeInteger (job.lookup "statusCode") "job.statusCode"
    status := ← requiredString (job.lookup "status") "job.status"
    hook := ← addressString lib (job.lookup "hook") "job.hook" }

/-- A value that is null or one of some texts. -/
def oneOf (texts : List String) (value : Option JsonValue) (field : String) :
    Except String (Option String) :=
  match value with
  | some .null => return none
  | some (.string text) => do
    revertIf (text ∉ texts) (invalid field)
    return some text
  | _ => throw (invalid field)

def parseConfidence (value : Option JsonValue) : Except String (Option Binary64) :=
  match value with
  | some .null => return none
  | _ => do
    let confidenceBP ← nonNegativeInteger value "feed.confidenceBP"
    revertIf (10000 < confidenceBP.value) (invalid "feed.confidenceBP")
    return some confidenceBP

def parseDashboardFeedRow (value : JsonValue) : Except String DashboardFeedRow := do
  let row ← demand (invalid "dashboard feed row") (asRecord value)
  let provenance ← oneOf ["AI auto", "escalated", "human"] (row.lookup "provenance")
    "dashboard provenance"
  let lane ← oneOf ["AI", "human"] (row.lookup "lane") "dashboard lane"
  let confidenceBP ← parseConfidence (row.lookup "confidenceBP")
  let job ← parseDashboardJob lib (.object row)
  return {
    toDashboardJobRecord := job
    provenance
    lane
    confidenceBP
    statusTxHash := ← nullableHash (row.lookup "statusTxHash") "feed.statusTxHash"
    verdictTxHash := ← nullableHash (row.lookup "verdictTxHash") "feed.verdictTxHash"
    latestBlock := ← decimalString (row.lookup "latestBlock") "feed.latestBlock" }

def boolean (value : Option JsonValue) (field : String) : Except String Bool :=
  match value with
  | some (.bool b) => return b
  | _ => throw (invalid field)

def parseDashboardReviewRecord (value : JsonValue) : Except String DashboardReviewRecord := do
  let row ← demand (invalid "dashboard review row") (asRecord value)
  let clientRequested ← boolean (row.lookup "clientRequested") "review.clientRequested"
  let job ← parseDashboardJob lib (.object row)
  return {
    toDashboardJobRecord := job
    deliverableHash := ← nullableHash (row.lookup "deliverableHash") "review.deliverableHash"
    reasonHash := ← hashString (row.lookup "reasonHash") "review.reasonHash"
    escalationTxHash := ← nullableHash (row.lookup "escalationTxHash") "review.escalationTxHash"
    clientRequested }

def parseVersion (snapshot : List (String × JsonValue)) : Except String Bool :=
  match snapshot.lookup "version", snapshot.lookup "configured" with
  | some (.number version), some (.bool configured) => do
    revertIf (version.value ≠ 1) (invalid "dashboard snapshot version")
    return configured
  | _, _ => throw (invalid "dashboard snapshot version")

def parseStatus (value : Option JsonValue) : Except String String :=
  match value with
  | some (.string status) => do
    revertIf (status ∉ ["syncing", "ready", "stale", "degraded"]) (invalid "dashboard snapshot status")
    return status
  | _ => throw (invalid "dashboard snapshot status")

def parseCollections (snapshot : List (String × JsonValue)) :
    Except String (List JsonValue × List JsonValue) :=
  match snapshot.lookup "feed", snapshot.lookup "reviewQueue" with
  | some (.array feed), some (.array reviewQueue) => return (feed, reviewQueue)
  | _, _ => throw (invalid "dashboard snapshot collections")

def parseLatestBlock (value : Option JsonValue) : Except String (Option String) :=
  match value with
  | some .null => return none
  | _ => some <$> decimalString value "snapshot.latestBlock"

def parseDashboardSnapshot (value : JsonValue) : Except String DashboardChainSnapshot := do
  let root ← demand (invalid "dashboard snapshot envelope") (asRecord value)
  let snapshot := ((root.lookup "snapshot").bind asRecord).getD root
  let configured ← parseVersion snapshot
  let status ← parseStatus (snapshot.lookup "status")
  let (feed, reviewQueue) ← parseCollections snapshot
  return {
    configured
    status
    latestBlock := ← parseLatestBlock (snapshot.lookup "latestBlock")
    indexedAt := ← nullableTimestamp lib (snapshot.lookup "indexedAt") "snapshot.indexedAt"
    lastAttemptAt :=
      ← nullableTimestamp lib (snapshot.lookup "lastAttemptAt") "snapshot.lastAttemptAt"
    lastError := ← nullableString (snapshot.lookup "lastError") "snapshot.lastError"
    feed := ← feed.mapM (parseDashboardFeedRow lib)
    reviewQueue := ← reviewQueue.mapM (parseDashboardReviewRecord lib) }

end Decoding

/-! ### What the checks accept -/

section Accepted

variable {lib : WebLibrary} {text text' field : String}

/-- A text with a character that is no blank is not blank. -/
theorem trim_ne_empty {c : Char} (member : c ∈ text.toList)
    (printed : Review.blank (String.singleton c) = false) : trim text ≠ "" := by
  intro empty
  have nothing := congrArg String.toList empty
  simp only [trim, String.toList_ofList, String.toList_empty, List.reverse_eq_nil_iff,
    List.dropWhile_eq_nil_iff, List.mem_reverse] at nothing
  -- what is left of the text after its blanks begins with none
  cases kept : text.toList.dropWhile fun c => Review.blank (String.singleton c) with
  | nil =>
    rw [List.dropWhile_eq_nil_iff.mp kept c member] at printed
    cases printed
  | cons first rest =>
    have head := List.head?_dropWhile_not (fun c => Review.blank (String.singleton c)) text.toList
    rw [kept] at head nothing
    have blank := nothing first List.mem_cons_self
    simp [blank] at head

theorem blank_zero : Review.blank (String.singleton '0') = false := by decide

theorem trim_of_isJobId (decimal : isJobId text = true) : trim text ≠ "" := by
  cases chars : text.toList with
  | nil =>
    rw [String.toList_eq_nil_iff.mp chars] at decimal
    exact absurd decimal (by decide)
  | cons c rest =>
    have digit : c.isDigit = true := by
      simp only [isJobId, Bool.or_eq_true, decide_eq_true_eq, Bool.and_eq_true, List.all_eq_true] at decimal
      rcases decimal with rfl | ⟨-, all⟩
      · cases chars
        decide
      · exact all c (by simp [chars])
    exact trim_ne_empty (chars ▸ List.mem_cons_self) (Review.blank_digit digit)

theorem trim_of_hex32 (hash : (hex32 text).isSome = true) : trim text ≠ "" := by
  unfold hex32 at hash
  split at hash
  next digits chars => exact trim_ne_empty (chars ▸ List.mem_cons_self) blank_zero
  next => cases hash

@[simp] theorem requiredString_ok {allowEmpty : Bool} :
    requiredString (some (.string text)) field allowEmpty = .ok text' ↔
      (allowEmpty = false → trim text ≠ "") ∧ text = text' := by
  simp [requiredString]

@[simp] theorem decimalString_ok : decimalString (some (.string text)) field = .ok text' ↔
    isJobId text = true ∧ text = text' := by
  simp only [decimalString, bind_ok, requiredString_ok, revertIf_ok, exists_const, pure_ok,
    Bool.not_eq_false, true_implies]
  constructor
  · rintro ⟨_, ⟨-, rfl⟩, decimal, rfl⟩
    exact ⟨decimal, rfl⟩
  · rintro ⟨decimal, rfl⟩
    exact ⟨text, ⟨trim_of_isJobId decimal, rfl⟩, decimal, rfl⟩

@[simp] theorem addressString_ok : addressString lib (some (.string text)) field = .ok text' ↔
    trim text ≠ "" ∧ lib.getAddress text = some text' := by
  simp only [addressString, bind_ok, requiredString_ok, demand_ok, true_implies]
  constructor
  · rintro ⟨_, ⟨printed, rfl⟩, read⟩
    exact ⟨printed, read⟩
  · rintro ⟨printed, read⟩
    exact ⟨text, ⟨printed, rfl⟩, read⟩

@[simp] theorem hashString_ok : hashString (some (.string text)) field = .ok text' ↔
    (hex32 text).isSome = true ∧ text = text' := by
  simp only [hashString, bind_ok, requiredString_ok, revertIf_ok, exists_const, pure_ok,
    Bool.not_eq_false, true_implies]
  constructor
  · rintro ⟨_, ⟨-, rfl⟩, hash, rfl⟩
    exact ⟨hash, rfl⟩
  · rintro ⟨hash, rfl⟩
    exact ⟨text, ⟨trim_of_hex32 hash, rfl⟩, hash, rfl⟩

/-- A natural number that is safe. -/
def SafeNatural (n : Binary64) : Prop := isSafeInteger n = true ∧ 0 ≤ n.value

theorem safeNatural_iff {n : Binary64} {m : Nat} (value : n.value = m) :
    SafeNatural n ↔ m ≤ MAX_SAFE_INTEGER := by
  have natural : (0 : ℚ) ≤ m := Nat.cast_nonneg m
  simp only [SafeNatural, isSafeInteger, value, Bool.and_eq_true, decide_eq_true_eq, Rat.den_natCast,
    abs_of_nonneg natural, natural, true_and, and_true]
  exact Nat.cast_le

@[simp] theorem nonNegativeInteger_ok {n n' : Binary64} :
    nonNegativeInteger (some (.number n)) field = .ok n' ↔ SafeNatural n ∧ n = n' := by
  simp [nonNegativeInteger, SafeNatural]

@[simp] theorem nullableHash_ok {hash hash' : Option String} :
    nullableHash (some (textOf hash)) field = .ok hash' ↔
      (∀ text ∈ hash, (hex32 text).isSome = true) ∧ hash = hash' := by
  cases hash with
  | none => simp [nullableHash, textOf]
  | some text => simp [nullableHash, textOf]

@[simp] theorem nullableTimestamp_ok {time time' : Option String} :
    nullableTimestamp lib (some (textOf time)) field = .ok time' ↔
      (∀ text ∈ time, trim text ≠ "" ∧ lib.isTimestamp text = true) ∧ time = time' := by
  cases time with
  | none => simp [nullableTimestamp, textOf]
  | some text =>
    simp only [nullableTimestamp, textOf, Option.elim_some, bind_ok, requiredString_ok, revertIf_ok,
      exists_const, pure_ok, Bool.not_eq_false, true_implies, Option.mem_def, Option.some.injEq,
      forall_eq']
    constructor
    · rintro ⟨_, ⟨printed, rfl⟩, valid, rfl⟩
      exact ⟨⟨printed, valid⟩, rfl⟩
    · rintro ⟨⟨printed, valid⟩, rfl⟩
      exact ⟨text, ⟨printed, rfl⟩, valid, rfl⟩

/-- An empty text is read as none. -/
theorem nullableString_ok {told : Option String} :
    nullableString (some (textOf told)) field = .ok told ↔ ∀ text ∈ told, trim text ≠ "" := by
  cases told with
  | none => simp [nullableString, textOf]
  | some text =>
    by_cases empty : text = ""
    · subst empty
      simp only [nullableString, textOf, Option.elim_some, pure_ok, reduceCtorEq, Option.mem_def,
        Option.some.injEq, forall_eq', false_iff, not_not]
      decide
    · simp only [textOf, Option.elim_some, Option.mem_def, Option.some.injEq, forall_eq']
      unfold nullableString
      split
      next same => cases same
      next same => cases same
      next same =>
        cases same
        exact absurd rfl empty
      next => simp

variable (lib) in
/-- A text of an address that is its own checksummed text. -/
def Checksummed (text : String) : Prop := trim text ≠ "" ∧ lib.getAddress text = some text

structure DashboardJobRecord.Fits (lib : WebLibrary) (job : DashboardJobRecord) : Prop where
  id : isJobId job.id = true
  client : Checksummed lib job.client
  provider : Checksummed lib job.provider
  evaluator : Checksummed lib job.evaluator
  budget : isJobId job.budget = true
  budgetUsdc : trim job.budgetUsdc ≠ ""
  expiredAt : SafeNatural job.expiredAt
  statusCode : SafeNatural job.statusCode
  status : trim job.status ≠ ""
  hook : Checksummed lib job.hook

structure DashboardFeedRow.Fits (lib : WebLibrary) (row : DashboardFeedRow) : Prop where
  job : row.toDashboardJobRecord.Fits lib
  provenance : ∀ text ∈ row.provenance, text ∈ ["AI auto", "escalated", "human"]
  lane : ∀ text ∈ row.lane, text ∈ ["AI", "human"]
  confidenceBP : ∀ confidence ∈ row.confidenceBP, SafeNatural confidence ∧ confidence.value ≤ 10000
  statusTxHash : ∀ text ∈ row.statusTxHash, (hex32 text).isSome = true
  verdictTxHash : ∀ text ∈ row.verdictTxHash, (hex32 text).isSome = true
  latestBlock : isJobId row.latestBlock = true

structure DashboardReviewRecord.Fits (lib : WebLibrary) (row : DashboardReviewRecord) : Prop where
  job : row.toDashboardJobRecord.Fits lib
  deliverableHash : ∀ text ∈ row.deliverableHash, (hex32 text).isSome = true
  reasonHash : (hex32 row.reasonHash).isSome = true
  escalationTxHash : ∀ text ∈ row.escalationTxHash, (hex32 text).isSome = true

structure DashboardChainSnapshot.Fits (lib : WebLibrary) (snapshot : DashboardChainSnapshot) :
    Prop where
  status : snapshot.status ∈ ["syncing", "ready", "stale", "degraded"]
  latestBlock : ∀ text ∈ snapshot.latestBlock, isJobId text = true
  indexedAt : ∀ text ∈ snapshot.indexedAt, trim text ≠ "" ∧ lib.isTimestamp text = true
  lastAttemptAt : ∀ text ∈ snapshot.lastAttemptAt, trim text ≠ "" ∧ lib.isTimestamp text = true
  lastError : ∀ text ∈ snapshot.lastError, trim text ≠ ""
  feed : ∀ row ∈ snapshot.feed, row.Fits lib
  reviewQueue : ∀ row ∈ snapshot.reviewQueue, row.Fits lib

theorem parseDashboardJob_ok {job : DashboardJobRecord} {more : List (String × JsonValue)} :
    parseDashboardJob lib (.object (job.fields ++ more)) = .ok job ↔ job.Fits lib := by
  obtain ⟨id, client, provider, evaluator, description, budget, budgetUsdc, expiredAt, statusCode,
    status, hook⟩ := job
  simp only [parseDashboardJob, asRecord, demand, DashboardJobRecord.fields, List.cons_append,
    List.nil_append, bind_ok, Except.ok.injEq, exists_eq_left']
  simp [List.lookup]
  constructor
  · rintro ⟨id, client, provider, evaluator, budget, budgetUsdc, expiredAt, statusCode, status, hook⟩
    exact ⟨id, client, provider, evaluator, budget, budgetUsdc, expiredAt, statusCode, status, hook⟩
  · intro fits
    exact ⟨fits.id, fits.client, fits.provider, fits.evaluator, fits.budget, fits.budgetUsdc,
      fits.expiredAt, fits.statusCode, fits.status, fits.hook⟩

theorem oneOf_ok {texts : List String} {value : Option String} :
    oneOf texts (some (textOf value)) field = .ok value ↔ ∀ text ∈ value, text ∈ texts := by
  cases value <;> simp [oneOf, textOf]

theorem parseConfidence_ok {confidence read : Option Binary64} :
    parseConfidence (some (confidence.elim .null .number)) = .ok read ↔
      (∀ n ∈ confidence, SafeNatural n ∧ n.value ≤ 10000) ∧ confidence = read := by
  cases confidence with
  | none => simp [parseConfidence]
  | some n =>
    simp only [parseConfidence, Option.elim_some, bind_ok, nonNegativeInteger_ok, revertIf_ok,
      exists_const, pure_ok, Option.mem_def, Option.some.injEq, forall_eq', not_lt]
    constructor
    · rintro ⟨_, ⟨safe, rfl⟩, few, rfl⟩
      exact ⟨⟨safe, few⟩, rfl⟩
    · rintro ⟨⟨safe, few⟩, rfl⟩
      exact ⟨n, ⟨safe, rfl⟩, few, rfl⟩

/-- What is looked up in a row that was written of a record. -/
theorem parseDashboardFeedRow_toJson (row : DashboardFeedRow) :
    parseDashboardFeedRow lib row.toJson = do
      let provenance ← oneOf ["AI auto", "escalated", "human"] (some (textOf row.provenance))
        "dashboard provenance"
      let lane ← oneOf ["AI", "human"] (some (textOf row.lane)) "dashboard lane"
      let confidenceBP ← parseConfidence (some (row.confidenceBP.elim .null .number))
      let job ← parseDashboardJob lib (.object (row.toDashboardJobRecord.fields ++ row.verdict))
      let statusTxHash ← nullableHash (some (textOf row.statusTxHash)) "feed.statusTxHash"
      let verdictTxHash ← nullableHash (some (textOf row.verdictTxHash)) "feed.verdictTxHash"
      let latestBlock ← decimalString (some (.string row.latestBlock)) "feed.latestBlock"
      return ⟨job, provenance, lane, confidenceBP, statusTxHash, verdictTxHash, latestBlock⟩ := rfl

theorem parseDashboardReviewRecord_toJson (row : DashboardReviewRecord) :
    parseDashboardReviewRecord lib row.toJson = do
      let job ← parseDashboardJob lib (.object (row.toDashboardJobRecord.fields ++ row.review))
      let deliverableHash ← nullableHash (some (textOf row.deliverableHash)) "review.deliverableHash"
      let reasonHash ← hashString (some (.string row.reasonHash)) "review.reasonHash"
      let escalationTxHash ← nullableHash (some (textOf row.escalationTxHash))
        "review.escalationTxHash"
      return ⟨job, deliverableHash, reasonHash, escalationTxHash, row.clientRequested⟩ := rfl

theorem parseDashboardSnapshot_toJson (snapshot : DashboardChainSnapshot) :
    parseDashboardSnapshot lib snapshot.toJson = do
      let status ← parseStatus (some (.string snapshot.status))
      let latestBlock ← parseLatestBlock (some (textOf snapshot.latestBlock))
      let indexedAt ← nullableTimestamp lib (some (textOf snapshot.indexedAt)) "snapshot.indexedAt"
      let lastAttemptAt ← nullableTimestamp lib (some (textOf snapshot.lastAttemptAt))
        "snapshot.lastAttemptAt"
      let lastError ← nullableString (some (textOf snapshot.lastError)) "snapshot.lastError"
      let feed ← (snapshot.feed.map DashboardFeedRow.toJson).mapM (parseDashboardFeedRow lib)
      let reviewQueue ← (snapshot.reviewQueue.map DashboardReviewRecord.toJson).mapM
        (parseDashboardReviewRecord lib)
      return ⟨snapshot.configured, status, latestBlock, indexedAt, lastAttemptAt, lastError, feed,
        reviewQueue⟩ := rfl

theorem parseDashboardFeedRow_ok {row : DashboardFeedRow} :
    parseDashboardFeedRow lib row.toJson = .ok row ↔ row.Fits lib := by
  rw [parseDashboardFeedRow_toJson]
  obtain ⟨job, provenance, lane, confidenceBP, statusTxHash, verdictTxHash, latestBlock⟩ := row
  simp only [bind_ok, pure_ok, DashboardFeedRow.mk.injEq, nullableHash_ok, decimalString_ok]
  constructor
  · rintro ⟨_, provenance, _, lane, _, confidence, _, parsed, _, ⟨status, -⟩, _, ⟨verdict, -⟩, _,
      ⟨block, -⟩, rfl, rfl, rfl, rfl, -⟩
    exact ⟨parseDashboardJob_ok.mp parsed, oneOf_ok.mp provenance, oneOf_ok.mp lane,
      (parseConfidence_ok.mp confidence).1, status, verdict, block⟩
  · intro fits
    exact ⟨_, oneOf_ok.mpr fits.provenance, _, oneOf_ok.mpr fits.lane, _,
      parseConfidence_ok.mpr ⟨fits.confidenceBP, rfl⟩, _, parseDashboardJob_ok.mpr fits.job, _,
      ⟨fits.statusTxHash, rfl⟩, _, ⟨fits.verdictTxHash, rfl⟩, _, ⟨fits.latestBlock, rfl⟩,
      rfl, rfl, rfl, rfl, rfl, rfl, rfl⟩

theorem parseDashboardReviewRecord_ok {row : DashboardReviewRecord} :
    parseDashboardReviewRecord lib row.toJson = .ok row ↔ row.Fits lib := by
  rw [parseDashboardReviewRecord_toJson]
  obtain ⟨job, deliverableHash, reasonHash, escalationTxHash, clientRequested⟩ := row
  simp only [bind_ok, pure_ok, DashboardReviewRecord.mk.injEq, nullableHash_ok, hashString_ok]
  constructor
  · rintro ⟨_, parsed, _, ⟨deliverable, -⟩, _, ⟨reason, -⟩, _, ⟨escalation, -⟩, rfl, -⟩
    exact ⟨parseDashboardJob_ok.mp parsed, deliverable, reason, escalation⟩
  · intro fits
    exact ⟨_, parseDashboardJob_ok.mpr fits.job, _, ⟨fits.deliverableHash, rfl⟩, _,
      ⟨fits.reasonHash, rfl⟩, _, ⟨fits.escalationTxHash, rfl⟩, rfl, rfl, rfl, rfl, trivial⟩

/-- Rows are read back one by one. -/
theorem mapM_ok {α : Type} {write : α → JsonValue} {read : JsonValue → Except String α}
    {rows : List α} : (rows.map write).mapM read = .ok rows ↔
      ∀ row ∈ rows, read (write row) = .ok row := by
  induction rows with
  | nil => simp
  | cons row rest ih =>
    simp only [List.map_cons, List.mapM_cons, bind_ok, pure_ok, List.cons.injEq, List.mem_cons,
      forall_eq_or_imp]
    constructor
    · rintro ⟨_, first, _, others, rfl, rfl⟩
      exact ⟨first, ih.mp others⟩
    · rintro ⟨first, others⟩
      exact ⟨row, first, rest, ih.mpr others, rfl, rfl⟩

theorem parseLatestBlock_ok {block : Option String} :
    parseLatestBlock (some (textOf block)) = .ok block ↔ ∀ text ∈ block, isJobId text = true := by
  cases block with
  | none => simp [parseLatestBlock, textOf]
  | some text => simp [parseLatestBlock, textOf]

theorem parseStatus_ok {status : String} : parseStatus (some (.string status)) = .ok status ↔
    status ∈ ["syncing", "ready", "stale", "degraded"] := by
  simp only [parseStatus, bind_ok, revertIf_ok, exists_const, pure_ok, and_true, not_not]

theorem parseDashboardSnapshot_ok {snapshot : DashboardChainSnapshot} :
    parseDashboardSnapshot lib snapshot.toJson = .ok snapshot ↔ snapshot.Fits lib := by
  rw [parseDashboardSnapshot_toJson]
  obtain ⟨configured, status, latestBlock, indexedAt, lastAttemptAt, lastError, feed,
    reviewQueue⟩ := snapshot
  simp only [bind_ok, pure_ok, DashboardChainSnapshot.mk.injEq, nullableTimestamp_ok]
  constructor
  · rintro ⟨_, readStatus, _, block, _, ⟨indexed, -⟩, _, ⟨attempt, -⟩, _, error, _, rows, _, reviews,
      -, rfl, rfl, -, -, rfl, rfl, rfl⟩
    exact ⟨parseStatus_ok.mp readStatus, parseLatestBlock_ok.mp block, indexed, attempt,
      nullableString_ok.mp error, fun row member => parseDashboardFeedRow_ok.mp (mapM_ok.mp rows row member),
      fun row member => parseDashboardReviewRecord_ok.mp (mapM_ok.mp reviews row member)⟩
  · intro fits
    have rows := mapM_ok.mpr fun row member => parseDashboardFeedRow_ok.mpr (fits.feed row member)
    have reviews := mapM_ok.mpr fun row member =>
      parseDashboardReviewRecord_ok.mpr (fits.reviewQueue row member)
    exact ⟨_, parseStatus_ok.mpr fits.status, _, parseLatestBlock_ok.mpr fits.latestBlock, _,
      ⟨fits.indexedAt, rfl⟩, _, ⟨fits.lastAttemptAt, rfl⟩, _, nullableString_ok.mpr fits.lastError,
      _, rows, _, reviews, trivial, rfl, rfl, rfl, rfl, rfl, rfl, rfl⟩

end Accepted

/-! ### The text on the wire -/

section Text

open Json

theorem enumerated_textOf (text : Option String) : Enumerated (textOf text) := by
  cases text <;> trivial

theorem enumeratedItems_iff {items : List JsonValue} :
    EnumeratedItems items ↔ ∀ item ∈ items, Enumerated item := by
  induction items with
  | nil => simp [EnumeratedItems]
  | cons item rest ih => simp [EnumeratedItems, ih]

def jobKeys : List String :=
  ["id", "client", "provider", "evaluator", "description", "budget", "budgetUsdc", "expiredAt",
    "statusCode", "status", "hook"]

theorem enumerated_feedRow (row : DashboardFeedRow) : Enumerated row.toJson := by
  refine ⟨ofEntries_of_names (jobKeys ++ ["provenance", "lane", "confidenceBP", "statusTxHash",
    "verdictTxHash", "latestBlock"]) rfl (by decide) (by decide), ?_⟩
  have confidence : Enumerated (row.confidenceBP.elim .null .number) := by
    cases row.confidenceBP <;> trivial
  simp [EnumeratedFields, DashboardJobRecord.fields, DashboardFeedRow.verdict, Enumerated,
    enumerated_textOf, confidence]

theorem enumerated_reviewRecord (row : DashboardReviewRecord) : Enumerated row.toJson := by
  refine ⟨ofEntries_of_names (jobKeys ++ ["deliverableHash", "reasonHash", "escalationTxHash",
    "clientRequested"]) rfl (by decide) (by decide), ?_⟩
  simp [EnumeratedFields, DashboardJobRecord.fields, DashboardReviewRecord.review, Enumerated,
    enumerated_textOf]

theorem enumerated_snapshot (snapshot : DashboardChainSnapshot) : Enumerated snapshot.toJson := by
  refine ⟨ofEntries_of_names ["version", "configured", "status", "latestBlock", "indexedAt",
    "lastAttemptAt", "lastError", "feed", "reviewQueue"] rfl (by decide) (by decide), ?_⟩
  simp [EnumeratedFields, Enumerated, enumerated_textOf, enumeratedItems_iff, enumerated_feedRow,
    enumerated_reviewRecord]

end Text

/-! ### The service's own snapshots -/

section Sent

variable {lib : WebLibrary}

/-- What is decoded of a job has addresses of 20 bytes, a time of 256 bits and one of the names of a
status. -/
structure DecodedJob (job : Dashboard.DashboardJobRecord) : Prop where
  client : job.client < 2 ^ 160
  provider : job.provider < 2 ^ 160
  evaluator : job.evaluator < 2 ^ 160
  hook : job.hook < 2 ^ 160
  expiredAt : ∃ expiredAt, job.expiredAt = Dashboard.numberOf expiredAt
  status : ∃ statusCode expiredAt nowSeconds,
    job.status = Dashboard.statusName statusCode expiredAt nowSeconds

structure DecodedRow (row : Dashboard.DashboardFeedRow) : Prop where
  job : DecodedJob row.toDashboardJobRecord
  statusTxHash : ∀ hash ∈ row.statusTxHash, hash < 2 ^ 256
  verdictTxHash : ∀ hash ∈ row.verdictTxHash, hash < 2 ^ 256

structure DecodedReview (row : Dashboard.DashboardReviewRecord) : Prop where
  job : DecodedJob row.toDashboardJobRecord
  deliverableHash : ∀ hash ∈ row.deliverableHash, hash < 2 ^ 256
  reasonHash : row.reasonHash < 2 ^ 256
  escalationTxHash : ∀ hash ∈ row.escalationTxHash, hash < 2 ^ 256

/-- The rows and the times of a snapshot are those that the chain and the clock give. -/
structure Decoded (snapshot : ChainSnapshot) : Prop where
  feed : ∀ row ∈ snapshot.feed, DecodedRow row
  reviewQueue : ∀ row ∈ snapshot.reviewQueue, DecodedReview row
  indexedAt : ∀ time ∈ snapshot.indexedAt, time ≤ 8640000000000000
  lastAttemptAt : ∀ time ∈ snapshot.lastAttemptAt, time ≤ 8640000000000000
  lastError : ∀ error ∈ snapshot.lastError, trim error ≠ ""

/-- The time at which the job expires is below the numbers that are not safe. -/
def SafeJob (job : Dashboard.DashboardJobRecord) : Prop := job.expiredAt.value ≤ MAX_SAFE_INTEGER

/-- What the web app wants of the numbers in a snapshot. -/
structure Safe (snapshot : ChainSnapshot) : Prop where
  feed : ∀ row ∈ snapshot.feed, SafeJob row.toDashboardJobRecord ∧
    ∀ confidence ∈ row.confidenceBP, confidence.val ≤ 10000
  reviewQueue : ∀ row ∈ snapshot.reviewQueue, SafeJob row.toDashboardJobRecord

theorem statusName_printed (statusCode : Escrow.Uint8) (expiredAt : Binary64) (nowSeconds : Nat) :
    trim (Dashboard.statusName statusCode expiredAt nowSeconds) ≠ "" := by
  unfold Dashboard.statusName
  split
  · decide
  · rcases statusCode.val with _ | _ | _ | _ | _ | _ | more
    -- a code beyond those that have a name is shown as open
    case succ.succ.succ.succ.succ.succ =>
      simp only [List.getD, List.getElem?_cons_succ, List.getElem?_nil, Option.getD_none]
      decide
    all_goals decide

theorem checksummed_addressText {a : Nat} (address : a < 2 ^ 160) :
    Checksummed lib (lib.addressText a) := by
  refine ⟨?_, lib.getAddress_addressText a address⟩
  exact trim_ne_empty ((lib.addressText_marked a).subset List.mem_cons_self) blank_zero

theorem decimalText_printed (units : Nat) : trim (decimalText units) ≠ "" := by
  cases digits : Nat.toDigits 10 (units / 1000000) with
  | nil => exact absurd digits Nat.toDigits_ne_nil
  | cons c rest =>
    have digit : c.isDigit = true :=
      Json.Literal.digits_toDigits _ c (digits ▸ List.mem_cons_self)
    refine trim_ne_empty (c := c) ?_ (Review.blank_digit digit)
    rw [Review.decimalText_toList]
    simp [Json.Literal.text, Json.fixedPoint, digits]

theorem toISOString_printed (time : Nat) : trim (toISOString time) ≠ "" := by
  obtain ⟨front, whole⟩ : ∃ front, toISOString time = front ++ "Z" := ⟨_, rfl⟩
  refine trim_ne_empty (c := 'Z') ?_ (by decide)
  rw [whole]
  simp

theorem safeJob_iff {job : Dashboard.DashboardJobRecord} (decoded : DecodedJob job) :
    SafeNatural job.expiredAt ↔ SafeJob job := by
  obtain ⟨expiredAt, same⟩ := decoded.expiredAt
  obtain ⟨m, value, -⟩ := Binary64.nearest_safe expiredAt.isLt
  have natural : job.expiredAt.value = m := by rw [same, ← value, Dashboard.numberOf]
  rw [safeNatural_iff natural, SafeJob, natural, Nat.cast_le]

theorem uint8Number_safe (n : Escrow.Uint8) : SafeNatural (uint8Number n) := by
  have small := n.isLt
  have value : (uint8Number n).value = (n.val : Nat) := rfl
  rw [safeNatural_iff value, MAX_SAFE_INTEGER]
  omega

theorem uint16Number_safe (n : Escrow.Uint16) : SafeNatural (uint16Number n) := by
  have small := n.isLt
  have value : (uint16Number n).value = (n.val : Nat) := rfl
  rw [safeNatural_iff value, MAX_SAFE_INTEGER]
  omega

theorem uint16Number_le (n : Escrow.Uint16) : (uint16Number n).value ≤ 10000 ↔ n.val ≤ 10000 := by
  change ((n.val : Nat) : ℚ) ≤ 10000 ↔ n.val ≤ 10000
  exact_mod_cast Iff.rfl

theorem sentJob_fits {job : Dashboard.DashboardJobRecord} (decoded : DecodedJob job) :
    (sentJob lib job).Fits lib ↔ SafeJob job := by
  constructor
  · intro fits
    exact (safeJob_iff decoded).mp fits.expiredAt
  · intro safe
    obtain ⟨code, expired, nowSeconds, named⟩ := decoded.status
    have status : trim job.status ≠ "" := by
      rw [named]
      exact statusName_printed code expired nowSeconds
    exact ⟨Judge.isJobId_toString _, checksummed_addressText decoded.client,
      checksummed_addressText decoded.provider, checksummed_addressText decoded.evaluator,
      Judge.isJobId_toString _, decimalText_printed _, (safeJob_iff decoded).mpr safe,
      uint8Number_safe _, status, checksummed_addressText decoded.hook⟩

theorem hashes_fit {hash : Option Nat} (bytes32 : ∀ value ∈ hash, value < 2 ^ 256) :
    ∀ text ∈ hash.map hashText, (hex32 text).isSome = true := by
  intro text member
  obtain ⟨value, here, rfl⟩ := Option.mem_map.mp member
  exact Judge.hex32_hashText (bytes32 value here)

theorem sentRow_fits {row : Dashboard.DashboardFeedRow} (decoded : DecodedRow row) :
    (sentRow lib row).Fits lib ↔ SafeJob row.toDashboardJobRecord ∧
      ∀ confidence ∈ row.confidenceBP, confidence.val ≤ 10000 := by
  constructor
  · intro fits
    refine ⟨(sentJob_fits decoded.job).mp fits.job, fun confidence member => ?_⟩
    exact (uint16Number_le confidence).mp (fits.confidenceBP _ (Option.mem_map_of_mem _ member)).2
  · rintro ⟨safe, few⟩
    have confidence : ∀ n ∈ row.confidenceBP.map uint16Number, SafeNatural n ∧ n.value ≤ 10000 := by
      intro n member
      obtain ⟨value, here, rfl⟩ := Option.mem_map.mp member
      exact ⟨uint16Number_safe value, (uint16Number_le value).mpr (few value here)⟩
    refine ⟨(sentJob_fits decoded.job).mpr safe, ?_, ?_, confidence, hashes_fit decoded.statusTxHash,
      hashes_fit decoded.verdictTxHash, Judge.isJobId_toString _⟩
    · intro text member
      obtain ⟨value, -, rfl⟩ := Option.mem_map.mp member
      cases value <;> simp [provenanceText]
    · intro text member
      obtain ⟨value, -, rfl⟩ := Option.mem_map.mp member
      cases value <;> simp [laneText]

theorem sentReview_fits {row : Dashboard.DashboardReviewRecord} (decoded : DecodedReview row) :
    (sentReview lib row).Fits lib ↔ SafeJob row.toDashboardJobRecord := by
  constructor
  · intro fits
    exact (sentJob_fits decoded.job).mp fits.job
  · intro safe
    exact ⟨(sentJob_fits decoded.job).mpr safe, hashes_fit decoded.deliverableHash,
      Judge.hex32_hashText decoded.reasonHash, hashes_fit decoded.escalationTxHash⟩

theorem times_fit {time : Option Nat} (valid : ∀ value ∈ time, value ≤ 8640000000000000) :
    ∀ text ∈ time.map toISOString, trim text ≠ "" ∧ lib.isTimestamp text = true := by
  intro text member
  obtain ⟨value, here, rfl⟩ := Option.mem_map.mp member
  exact ⟨toISOString_printed value, lib.isTimestamp_toISOString value (valid value here)⟩

theorem sent_fits {snapshot : ChainSnapshot} (decoded : Decoded snapshot) :
    (sent lib snapshot).Fits lib ↔ Safe snapshot := by
  constructor
  · intro fits
    constructor
    · intro row member
      exact (sentRow_fits (decoded.feed row member)).mp (fits.feed _ (List.mem_map_of_mem member))
    · intro row member
      exact (sentReview_fits (decoded.reviewQueue row member)).mp
        (fits.reviewQueue _ (List.mem_map_of_mem member))
  · intro safe
    refine ⟨?_, ?_, times_fit decoded.indexedAt, times_fit decoded.lastAttemptAt, decoded.lastError,
      ?_, ?_⟩
    · simp only [sent]
      cases snapshot.status <;> simp [statusText]
    · intro text member
      obtain ⟨value, -, rfl⟩ := Option.mem_map.mp member
      exact Judge.isJobId_toString value
    · intro row member
      obtain ⟨own, here, rfl⟩ := List.mem_map.mp member
      exact (sentRow_fits (decoded.feed own here)).mpr (safe.feed own here)
    · intro row member
      obtain ⟨own, here, rfl⟩ := List.mem_map.mp member
      exact (sentReview_fits (decoded.reviewQueue own here)).mpr (safe.reviewQueue own here)

end Sent

/-! ### What is read at all -/

section Read

variable {lib : WebLibrary}

theorem parseDashboardJob_safe {job read : DashboardJobRecord} {more : List (String × JsonValue)}
    (parsed : parseDashboardJob lib (.object (job.fields ++ more)) = .ok read) :
    SafeNatural job.expiredAt := by
  obtain ⟨id, client, provider, evaluator, description, budget, budgetUsdc, expiredAt, statusCode,
    status, hook⟩ := job
  simp only [parseDashboardJob, asRecord, demand, DashboardJobRecord.fields, List.cons_append,
    List.nil_append, bind_ok, Except.ok.injEq, exists_eq_left'] at parsed
  simp [List.lookup] at parsed
  obtain ⟨-, _, -, _, -, _, -, -, -, safe, -⟩ := parsed
  exact safe

theorem parseDashboardFeedRow_safe {row read : DashboardFeedRow}
    (parsed : parseDashboardFeedRow lib row.toJson = .ok read) :
    SafeNatural row.expiredAt ∧ ∀ n ∈ row.confidenceBP, SafeNatural n ∧ n.value ≤ 10000 := by
  rw [parseDashboardFeedRow_toJson] at parsed
  simp only [bind_ok] at parsed
  obtain ⟨_, -, _, -, _, confidence, _, job, -⟩ := parsed
  exact ⟨parseDashboardJob_safe job, (parseConfidence_ok.mp confidence).1⟩

theorem parseDashboardReviewRecord_safe {row read : DashboardReviewRecord}
    (parsed : parseDashboardReviewRecord lib row.toJson = .ok read) : SafeNatural row.expiredAt := by
  rw [parseDashboardReviewRecord_toJson] at parsed
  simp only [bind_ok] at parsed
  obtain ⟨_, job, -⟩ := parsed
  exact parseDashboardJob_safe job

/-- Rows are read together only if each of them is. -/
theorem mapM_each {α β : Type} {read : α → Except String β} {items : List α} {rows : List β}
    (all : items.mapM read = .ok rows) : ∀ item ∈ items, ∃ row, read item = .ok row := by
  induction items generalizing rows with
  | nil => simp
  | cons first rest ih =>
    simp only [List.mapM_cons, bind_ok, pure_ok] at all
    obtain ⟨row, here, others, there, -⟩ := all
    exact List.forall_mem_cons.mpr ⟨⟨row, here⟩, ih there⟩

theorem sent_safe {snapshot : ChainSnapshot} {read : DashboardChainSnapshot}
    (decoded : Decoded snapshot)
    (parsed : parseDashboardSnapshot lib (sent lib snapshot).toJson = .ok read) : Safe snapshot := by
  rw [parseDashboardSnapshot_toJson] at parsed
  simp only [bind_ok] at parsed
  obtain ⟨_, -, _, -, _, -, _, -, _, -, _, rows, _, reviews, -⟩ := parsed
  constructor
  · intro row member
    obtain ⟨_, parsed⟩ := mapM_each rows _ (List.mem_map_of_mem (List.mem_map_of_mem member))
    obtain ⟨expiry, confidence⟩ := parseDashboardFeedRow_safe parsed
    refine ⟨(safeJob_iff (decoded.feed row member).job).mp expiry, fun value here => ?_⟩
    exact (uint16Number_le value).mp (confidence _ (Option.mem_map_of_mem _ here)).2
  · intro row member
    obtain ⟨_, parsed⟩ := mapM_each reviews _ (List.mem_map_of_mem (List.mem_map_of_mem member))
    exact (safeJob_iff (decoded.reviewQueue row member).job).mp (parseDashboardReviewRecord_safe parsed)

end Read

/-- The text that the service sends is read back as the snapshot it was written of, or not at all:
it is read if and only if the numbers in it are safe, and one unsafe number of one job costs the
web app the whole snapshot. -/
theorem dashboard_on_the_wire (lib : WebLibrary) {snapshot : ChainSnapshot}
    (decoded : Decoded snapshot) : ∃ value,
    Json.parse (Json.stringify 0 (sent lib snapshot).toJson) = some value ∧
      ∀ read, parseDashboardSnapshot lib value = .ok read ↔
        Safe snapshot ∧ read = sent lib snapshot := by
  refine ⟨(sent lib snapshot).toJson, Json.parse_stringify 0 (enumerated_snapshot _), ?_⟩
  intro read
  have whole : parseDashboardSnapshot lib (sent lib snapshot).toJson = .ok (sent lib snapshot) ↔
      Safe snapshot := parseDashboardSnapshot_ok.trans (sent_fits decoded)
  constructor
  · intro parsed
    have safe := sent_safe decoded parsed
    have same := parsed.symm.trans (whole.mpr safe)
    exact ⟨safe, Except.ok.inj same⟩
  · rintro ⟨safe, rfl⟩
    exact whole.mpr safe

namespace WireWalkthrough

/-- The texts of addresses without letters, which need no checksum. -/
def addressText (address : Nat) : String :=
  let digits := Nat.toDigits 16 address
  String.ofList ('0' :: 'x' :: (List.replicate (40 - digits.length) '0' ++ digits))

def getAddress (text : String) : Option String :=
  if ['0', 'x'] <+: text.toList then some text else none

theorem addressText_marked (address : Nat) : ['0', 'x'] <+: (addressText address).toList := by
  simp [addressText]

def library : WebLibrary where
  addressText := addressText
  getAddress := getAddress
  isTimestamp text := decide (trim text ≠ "")
  addressText_marked := addressText_marked
  getAddress_addressText address _ := if_pos (addressText_marked address)
  isTimestamp_toISOString time _ := decide_eq_true (toISOString_printed time)

def job (expiredAt : Escrow.Uint256) : Dashboard.DashboardJobRecord where
  id := 7
  client := 0x2000000000000000000000000000000000000001
  provider := 0x3000000000000000000000000000000000000001
  evaluator := 0x1000000000000000000000000000000000000001
  description := ""
  budget := 2500000
  expiredAt := Dashboard.numberOf expiredAt
  statusCode := 3
  status := "Completed"
  hook := 0

def snapshot (expiredAt : Escrow.Uint256) : ChainSnapshot where
  configured := true
  status := .ready
  latestBlock := some 50
  indexedAt := some 1700000000000
  lastAttemptAt := some 1700000000000
  lastError := none
  feed :=
    [{ toDashboardJobRecord := job expiredAt
       provenance := some .aiAuto
       lane := some .ai
       confidenceBP := some 9300
       statusTxHash := some 17
       verdictTxHash := none
       latestBlock := 48 }]
  reviewQueue := []

theorem decodedJob (expiredAt : Escrow.Uint256) : DecodedJob (job expiredAt) where
  client := by simp [job]
  provider := by simp [job]
  evaluator := by simp [job]
  hook := by simp [job]
  expiredAt := ⟨expiredAt, rfl⟩
  status := ⟨3, Dashboard.numberOf 0, 0, rfl⟩

theorem decoded (expiredAt : Escrow.Uint256) : Decoded (snapshot expiredAt) where
  feed := by
    simp only [snapshot, List.mem_singleton, forall_eq]
    exact ⟨decodedJob expiredAt, by simp, by simp⟩
  reviewQueue := by simp [snapshot]
  indexedAt := by simp [snapshot]
  lastAttemptAt := by simp [snapshot]
  lastError := by simp [snapshot]

theorem safeJob_job (expiredAt : Escrow.Uint256) :
    SafeJob (job expiredAt) ↔ expiredAt.val ≤ MAX_SAFE_INTEGER := by
  obtain ⟨m, value, safe⟩ := Binary64.nearest_safe expiredAt.isLt
  have rounded : (job expiredAt).expiredAt.value = m := value
  rw [SafeJob, rounded, Nat.cast_le]
  unfold MAX_SAFE_INTEGER
  omega

theorem safe_iff (expiredAt : Escrow.Uint256) :
    Safe (snapshot expiredAt) ↔ expiredAt.val ≤ MAX_SAFE_INTEGER := by
  constructor
  · intro safe
    exact (safeJob_job expiredAt).mp (safe.feed _ List.mem_cons_self).1
  · intro small
    constructor
    · simp only [snapshot, List.mem_singleton, forall_eq]
      exact ⟨(safeJob_job expiredAt).mpr small, by simp⟩
    · simp [snapshot]

/-- Seventeen digits tell the double from the others. -/
theorem rounded_text :
    (Dashboard.numberOf 18446744073709551616).text = "18446744073709552000".toList := by
  have value : (Dashboard.numberOf 18446744073709551616).value = 18446744073709551616 := by
    decide +kernel
  have found : Json.candidate |18446744073709551616| 17 = some 18446744073709552 := by
    decide +kernel
  have fewer : ∀ i < 17, 1 ≤ i → Json.candidate |18446744073709551616| i = none := by
    decide +kernel
  rw [← value] at found fewer
  rw [Binary64.text_eq (by rw [value]; decide) (by decide) fewer found (by decide), value]
  decide +kernel

end WireWalkthrough

open WireWalkthrough in
/-- A time of 65 bits is rounded, written as a number that is not safe, and refused. -/
theorem dashboard_on_the_wire_walkthrough :
    (∃ value, Json.parse (Json.stringify 0 (sent library (snapshot 1800000000)).toJson) = some value ∧
      parseDashboardSnapshot library value = .ok (sent library (snapshot 1800000000))) ∧
    (sentJob library (job 18446744073709551616)).expiredAt.text = "18446744073709552000".toList ∧
    ∃ value, Json.parse (Json.stringify 0 (sent library (snapshot 18446744073709551616)).toJson) =
        some value ∧
      (parseDashboardSnapshot library value).toOption = none := by
  refine ⟨?_, rounded_text, ?_⟩
  · obtain ⟨value, parsed, read⟩ := dashboard_on_the_wire library (decoded 1800000000)
    exact ⟨value, parsed, (read _).mpr ⟨(safe_iff _).mpr (by decide), rfl⟩⟩
  · obtain ⟨value, parsed, read⟩ := dashboard_on_the_wire library (decoded 18446744073709551616)
    refine ⟨value, parsed, ?_⟩
    cases taken : parseDashboardSnapshot library value with
    | error _ => rfl
    | ok whole =>
      -- the time that the job expires at is no number that the page can hold
      have beyond := (safe_iff _).mp ((read whole).mp taken).1
      exact absurd beyond (by decide)

end VapiArc.App
