import VapiArc.Lib.OrderedMap
import VapiArc.Lib.Table
import VapiArc.Lib.Transition
import VapiArc.Judge.EvidenceSchema

/-!
# The reviewer council

The rows of the reviewers and the calls that write them: from the command line, and from the
configuration that is applied at each start of the service.
-/
namespace VapiArc.Review.Council

open Checked Transition

structure ReviewerRow where
  id : ReviewerId
  telegramUserId : String
  telegramChatId : String
  reviewerAlias : String
  payoutAddress : Address
  skills : List String
  active : Bool
  createdAt : Timestamp
  updatedAt : Timestamp
  deriving DecidableEq

structure UpsertReviewerInput where
  telegramUserId : String
  telegramChatId : String
  reviewerAlias : String
  payoutAddress : Address
  skills : List String
  active : Option Bool
  deriving DecidableEq

/-- `/^[1-9]\d*$/` -/
def positiveDigits : List Char → Bool
  | [] => false
  | c :: rest => c.isDigit && c ≠ '0' && rest.all Char.isDigit

/-- `/^-?[1-9]\d*$/` -/
def signedDigits : List Char → Bool
  | '-' :: rest => positiveDigits rest
  | chars => positiveDigits chars

/-- The order of `Array.prototype.sort` on texts. -/
def textLE (a b : String) : Bool :=
  Json.lexLE (a.toList.flatMap Json.codeUnits) (b.toList.flatMap Json.codeUnits)

/-- A skill that the table takes. -/
def goodSkill (skill : String) : Bool := trim skill ≠ "" && utf16Length (trim skill) ≤ 64

/-- `[...new Set(skills.map(trim).filter(Boolean))].sort()` -/
def normalizedSkills (skills : List String) : List String :=
  ((skills.map trim).filter (· ≠ "")).distinct.mergeSort textLE

def userIdError : Failure := .error "reviewer Telegram user id must be a positive numeric id"

def chatIdError : Failure := .error "reviewer Telegram chat id must be a numeric chat id"

def aliasError : Failure := .error "reviewer alias must contain 1 to 80 characters"

def skillsError : Failure :=
  .error "reviewer skills must contain at most 20 non-empty values up to 64 characters"

def zeroError : Failure := .error "reviewer payout address cannot be the zero address"

def chatOwnerError : Failure :=
  .error "reviewer Telegram chat id is already assigned to another reviewer"

/-- What SQLite throws when a unique column would repeat a value. -/
def uniqueError (column : String) : Failure := .error ("UNIQUE constraint failed: reviewers." ++ column)

/-- The input as far as it is checked before the table is looked at. -/
def checkedInput (input : UpsertReviewerInput) : Except Failure Unit := do
  let telegramUserId := trim input.telegramUserId
  let telegramChatId := trim input.telegramChatId
  let reviewerAlias := trim input.reviewerAlias
  revertIf (32 < utf16Length telegramUserId ∨ positiveDigits telegramUserId.toList = false)
    userIdError
  revertIf (32 < utf16Length telegramChatId ∨ signedDigits telegramChatId.toList = false)
    chatIdError
  revertIf (reviewerAlias = "" ∨ 80 < utf16Length reviewerAlias) aliasError
  revertIf (20 < input.skills.length ∨ input.skills.all goodSkill = false) skillsError
  revertIf (input.payoutAddress = 0) zeroError

/-- The columns that an upsert writes. -/
def UpsertReviewerInput.apply (input : UpsertReviewerInput) (timestamp : Timestamp)
    (row : ReviewerRow) : ReviewerRow :=
  { row with
    telegramChatId := trim input.telegramChatId
    reviewerAlias := trim input.reviewerAlias
    payoutAddress := input.payoutAddress
    skills := normalizedSkills input.skills
    active := input.active ≠ some false
    updatedAt := timestamp }

/-- The row of a reviewer that is new. -/
def UpsertReviewerInput.row (input : UpsertReviewerInput) (id : ReviewerId)
    (timestamp : Timestamp) : ReviewerRow where
  id
  telegramUserId := trim input.telegramUserId
  telegramChatId := trim input.telegramChatId
  reviewerAlias := trim input.reviewerAlias
  payoutAddress := input.payoutAddress
  skills := normalizedSkills input.skills
  active := input.active ≠ some false
  createdAt := timestamp
  updatedAt := timestamp

def upsertReviewer (rows : List ReviewerRow) (input : UpsertReviewerInput) (timestamp : Timestamp)
    (randomUUID : ReviewerId) : Except Failure (List ReviewerRow) := do
  checkedInput input
  let telegramUserId := trim input.telegramUserId
  let existing := rows.find? (·.telegramUserId = telegramUserId)
  revertIf (∃ row ∈ rows, row.telegramChatId = trim input.telegramChatId ∧
    row.telegramUserId ≠ telegramUserId) chatOwnerError
  match existing with
  | some existing =>
    revertIf (∃ row ∈ rows, row.id ≠ existing.id ∧ row.payoutAddress = input.payoutAddress)
      (uniqueError "payout_address")
    return Table.update ReviewerRow.id existing.id (input.apply timestamp) rows
  | none =>
    revertIf (∃ row ∈ rows, row.id = randomUUID) (uniqueError "id")
    revertIf (∃ row ∈ rows, row.payoutAddress = input.payoutAddress) (uniqueError "payout_address")
    return rows ++ [input.row randomUUID timestamp]

def setReviewerActive (rows : List ReviewerRow) (id : ReviewerId) (active : Bool)
    (timestamp : Timestamp) : List ReviewerRow :=
  Table.update ReviewerRow.id id
    (fun row => { row with active, updatedAt := timestamp }) rows

/-- `listEligibleReviewers`, by the time of their creation. -/
def listEligibleReviewers (rows : List ReviewerRow) (client provider : Address)
    (additionalConflicts : List Address) : List ReviewerRow :=
  (rows.filter fun row =>
    row.active && (client :: provider :: additionalConflicts).all (row.payoutAddress ≠ ·)).mergeSort
      fun a b => a.createdAt ≤ b.createdAt

/-! ### The table over all calls -/

/-- A call that writes the table; the id is what `randomUUID` comes up with. -/
inductive Call where
  | upsert (input : UpsertReviewerInput) (timestamp : Timestamp) (randomUUID : ReviewerId)
  | setActive (id : ReviewerId) (active : Bool) (timestamp : Timestamp)

/-- A call that throws leaves the table as it is. -/
def perform (rows : List ReviewerRow) : Call → List ReviewerRow
  | .upsert input timestamp randomUUID =>
    (upsertReviewer rows input timestamp randomUUID).toOption.getD rows
  | .setActive id active timestamp => setReviewerActive rows id active timestamp

def council : System (List ReviewerRow) Call where
  admits _ _ := True
  next := perform

/-- A row that the service can work with. -/
structure ReviewerRow.WellFormed (row : ReviewerRow) : Prop where
  telegramUserId : positiveDigits row.telegramUserId.toList = true ∧
    utf16Length row.telegramUserId ≤ 32
  telegramChatId : signedDigits row.telegramChatId.toList = true ∧
    utf16Length row.telegramChatId ≤ 32
  reviewerAlias : trim row.reviewerAlias = row.reviewerAlias ∧ row.reviewerAlias ≠ "" ∧
    utf16Length row.reviewerAlias ≤ 80
  payoutAddress : row.payoutAddress ≠ 0
  skills : row.skills.length ≤ 20 ∧ row.skills.Nodup ∧
    row.skills.Pairwise (fun a b => textLE a b = true) ∧
    ∀ skill ∈ row.skills, trim skill = skill ∧ skill ≠ "" ∧ utf16Length skill ≤ 64

/-- No two reviewers share an id, a Telegram account, a chat or a payout address. -/
structure Seated (rows : List ReviewerRow) : Prop where
  ids : Table.Unique ReviewerRow.id rows
  users : Table.Unique ReviewerRow.telegramUserId rows
  chats : Table.Unique ReviewerRow.telegramChatId rows
  addresses : Table.Unique ReviewerRow.payoutAddress rows
  wellFormed : ∀ row ∈ rows, row.WellFormed

section Invariant

variable {rows rows' : List ReviewerRow} {input : UpsertReviewerInput} {timestamp : Timestamp}
  {id : ReviewerId}

/-- What the checks of the input mean. -/
structure UpsertReviewerInput.Accepted (input : UpsertReviewerInput) : Prop where
  telegramUserId : positiveDigits (trim input.telegramUserId).toList = true ∧
    utf16Length (trim input.telegramUserId) ≤ 32
  telegramChatId : signedDigits (trim input.telegramChatId).toList = true ∧
    utf16Length (trim input.telegramChatId) ≤ 32
  reviewerAlias : trim input.reviewerAlias ≠ "" ∧ utf16Length (trim input.reviewerAlias) ≤ 80
  skills : input.skills.length ≤ 20 ∧ ∀ skill ∈ input.skills, goodSkill skill = true
  payoutAddress : input.payoutAddress ≠ 0

theorem checkedInput_ok : checkedInput input = .ok () ↔ input.Accepted := by
  simp only [checkedInput, bind_ok, revertIf_ok, exists_const, not_or, not_lt, Bool.not_eq_false,
    List.all_eq_true]
  constructor
  · rintro ⟨user, chat, name, skills, address⟩
    exact ⟨user.symm, chat.symm, name, skills, address⟩
  · intro accepted
    exact ⟨accepted.telegramUserId.symm, accepted.telegramChatId.symm, accepted.reviewerAlias,
      accepted.skills, accepted.payoutAddress⟩

theorem textLE_total (a b : String) : (textLE a b || textLE b a) = true := Json.lexLE_total ..

theorem textLE_trans (a b c : String) (first : textLE a b = true) (second : textLE b c = true) :
    textLE a c = true := Json.lexLE_trans first second

theorem normalizedSkills_wellFormed {skills : List String} (few : skills.length ≤ 20)
    (good : ∀ skill ∈ skills, goodSkill skill = true) :
    (normalizedSkills skills).length ≤ 20 ∧ (normalizedSkills skills).Nodup ∧
      (normalizedSkills skills).Pairwise (fun a b => textLE a b = true) ∧
      ∀ skill ∈ normalizedSkills skills, trim skill = skill ∧ skill ≠ "" ∧
        utf16Length skill ≤ 64 := by
  refine ⟨?_, ?_, List.pairwise_mergeSort textLE_trans textLE_total _, ?_⟩
  · have short := ((nodup_distinct ((skills.map trim).filter (· ≠ ""))).subperm fun _ =>
      mem_distinct.mp).length_le
    have kept := List.length_filter_le (· ≠ "") (skills.map trim)
    rw [List.length_map] at kept
    rw [normalizedSkills, List.length_mergeSort]
    omega
  · exact (List.mergeSort_perm _ _).nodup_iff.mpr (nodup_distinct _)
  · intro skill member
    rw [normalizedSkills, List.mem_mergeSort, mem_distinct, List.mem_filter, List.mem_map] at member
    obtain ⟨⟨raw, listed, rfl⟩, -⟩ := member
    have fine := good raw listed
    simp only [goodSkill, Bool.and_eq_true, decide_eq_true_eq] at fine
    exact ⟨Judge.trim_trim raw, fine⟩

theorem UpsertReviewerInput.Accepted.row (accepted : input.Accepted) (id : ReviewerId)
    (timestamp : Timestamp) : (input.row id timestamp).WellFormed where
  telegramUserId := accepted.telegramUserId
  telegramChatId := accepted.telegramChatId
  reviewerAlias := ⟨Judge.trim_trim _, accepted.reviewerAlias⟩
  payoutAddress := accepted.payoutAddress
  skills := normalizedSkills_wellFormed accepted.skills.1 accepted.skills.2

theorem UpsertReviewerInput.Accepted.apply (accepted : input.Accepted) {row : ReviewerRow}
    (old : row.WellFormed) (timestamp : Timestamp) : (input.apply timestamp row).WellFormed where
  telegramUserId := old.telegramUserId
  telegramChatId := accepted.telegramChatId
  reviewerAlias := ⟨Judge.trim_trim _, accepted.reviewerAlias⟩
  payoutAddress := accepted.payoutAddress
  skills := normalizedSkills_wellFormed accepted.skills.1 accepted.skills.2

/-- What an upsert does that does not throw: it rewrites the row of its Telegram account, or
adds one. -/
inductive Upserted (rows : List ReviewerRow) (input : UpsertReviewerInput) (timestamp : Timestamp)
    (id : ReviewerId) : List ReviewerRow → Prop
  | updated {existing : ReviewerRow} (there : existing ∈ rows)
      (own : existing.telegramUserId = trim input.telegramUserId)
      (address : ∀ row ∈ rows, row.id ≠ existing.id → row.payoutAddress ≠ input.payoutAddress) :
      Upserted rows input timestamp id
        (Table.update ReviewerRow.id existing.id (input.apply timestamp) rows)
  | inserted (absent : ∀ row ∈ rows, row.telegramUserId ≠ trim input.telegramUserId)
      (fresh : ∀ row ∈ rows, row.id ≠ id)
      (address : ∀ row ∈ rows, row.payoutAddress ≠ input.payoutAddress) :
      Upserted rows input timestamp id (rows ++ [input.row id timestamp])

theorem upsertReviewer_ok (h : upsertReviewer rows input timestamp id = .ok rows') :
    input.Accepted ∧
    (∀ row ∈ rows, row.telegramChatId = trim input.telegramChatId →
      row.telegramUserId = trim input.telegramUserId) ∧
    Upserted rows input timestamp id rows' := by
  simp only [upsertReviewer, bind_ok, revertIf_ok, exists_const] at h
  obtain ⟨_, checked, chat, h⟩ := h
  push Not at chat
  refine ⟨checkedInput_ok.mp checked, chat, ?_⟩
  cases found : rows.find? (·.telegramUserId = trim input.telegramUserId) with
  | some existing =>
    simp only [found, bind_ok, revertIf_ok, exists_const, pure_ok] at h
    obtain ⟨address, rfl⟩ := h
    push Not at address
    have own : existing.telegramUserId = trim input.telegramUserId := by
      simpa using List.find?_some found
    exact .updated (List.mem_of_find?_eq_some found) own address
  | none =>
    simp only [found, bind_ok, revertIf_ok, exists_const, pure_ok] at h
    obtain ⟨fresh, address, rfl⟩ := h
    push Not at fresh address
    refine .inserted (fun row member => ?_) fresh address
    exact of_decide_eq_false (by simpa using List.find?_eq_none.mp found row member)

theorem Seated.upserted (seated : Seated rows) (accepted : input.Accepted)
    (chat : ∀ row ∈ rows, row.telegramChatId = trim input.telegramChatId →
      row.telegramUserId = trim input.telegramUserId)
    (upserted : Upserted rows input timestamp id rows') : Seated rows' := by
  cases upserted with
  | @updated existing there own address =>
    have same {row : ReviewerRow} (member : row ∈ rows) (here : row.id = existing.id) :
        row = existing := seated.ids.inj member there here
    refine ⟨seated.ids.untouched fun _ => rfl, seated.users.untouched fun _ => rfl, ?_, ?_, ?_⟩
    · -- the chat is nobody else's, so a row with it would be the one that is written
      refine Table.Unique.update seated.ids seated.chats fun row member here other inside elsewhere taken => ?_
      have user := chat other inside taken
      exact elsewhere (congrArg ReviewerRow.id
        (seated.users.inj inside there (user.trans own.symm)))
    · refine Table.Unique.update seated.ids seated.addresses fun row _ _ other inside elsewhere => ?_
      exact address other inside elsewhere
    · intro row member
      obtain ⟨old, inside, ⟨-, rfl⟩ | ⟨-, rfl⟩⟩ := Table.mem_update.mp member
      · exact accepted.apply (seated.wellFormed old inside) timestamp
      · exact seated.wellFormed row inside
  | inserted absent fresh address =>
    refine ⟨seated.ids.insert fresh, seated.users.insert absent, ?_, seated.addresses.insert address, ?_⟩
    · refine seated.chats.insert fun row member taken => ?_
      exact absent row member (chat row member taken)
    · intro row member
      rcases List.mem_append.mp member with old | new
      · exact seated.wellFormed row old
      · rw [List.mem_singleton.mp new]
        exact accepted.row id timestamp

theorem Seated.setActive (seated : Seated rows) (active : Bool) :
    Seated (setReviewerActive rows id active timestamp) := by
  refine ⟨seated.ids.untouched fun _ => rfl, seated.users.untouched fun _ => rfl,
    seated.chats.untouched fun _ => rfl, seated.addresses.untouched fun _ => rfl, ?_⟩
  intro row member
  obtain ⟨old, inside, ⟨-, rfl⟩ | ⟨-, rfl⟩⟩ := Table.mem_update.mp member
  · have kept := seated.wellFormed old inside
    exact ⟨kept.telegramUserId, kept.telegramChatId, kept.reviewerAlias, kept.payoutAddress,
      kept.skills⟩
  · exact seated.wellFormed row inside

theorem Seated.step (seated : Seated rows) (call : Call) : Seated (perform rows call) := by
  cases call with
  | upsert input timestamp randomUUID =>
    simp only [perform]
    cases h : upsertReviewer rows input timestamp randomUUID with
    | error reason => exact seated
    | ok rows' =>
      obtain ⟨accepted, chat, upserted⟩ := upsertReviewer_ok h
      exact seated.upserted accepted chat upserted
  | setActive id active timestamp => exact seated.setActive active

/-- The row is still there, of the same reviewer and account, since the same time. -/
def ReviewerRow.Kept (row : ReviewerRow) (rows : List ReviewerRow) : Prop :=
  ∃ row' ∈ rows, row'.id = row.id ∧ row'.telegramUserId = row.telegramUserId ∧
    row'.createdAt = row.createdAt

theorem Table.kept_update {row : ReviewerRow} (kept : row.Kept rows)
    {change : ReviewerRow → ReviewerRow} (id : ReviewerId)
    (identity : ∀ old, (change old).id = old.id ∧ (change old).telegramUserId = old.telegramUserId ∧
      (change old).createdAt = old.createdAt) :
    row.Kept (Table.update ReviewerRow.id id change rows) := by
  obtain ⟨row', there, same⟩ := kept
  by_cases here : row'.id = id
  · obtain ⟨first, second, third⟩ := identity row'
    exact ⟨_, Table.mem_update.mpr ⟨row', there, .inl ⟨here, rfl⟩⟩, first.trans same.1,
      second.trans same.2.1, third.trans same.2.2⟩
  · exact ⟨row', Table.mem_update.mpr ⟨row', there, .inr ⟨here, rfl⟩⟩, same⟩

theorem ReviewerRow.Kept.step {row : ReviewerRow} (kept : row.Kept rows) (call : Call) :
    row.Kept (perform rows call) := by
  cases call with
  | upsert input timestamp randomUUID =>
    simp only [perform]
    cases h : upsertReviewer rows input timestamp randomUUID with
    | error reason => exact kept
    | ok rows' =>
      obtain ⟨-, -, upserted⟩ := upsertReviewer_ok h
      cases upserted with
      | updated there own address => exact Table.kept_update kept _ fun _ => ⟨rfl, rfl, rfl⟩
      | inserted =>
        obtain ⟨row', there, same⟩ := kept
        exact ⟨row', List.mem_append_left _ there, same⟩
  | setActive id active timestamp => exact Table.kept_update kept id fun _ => ⟨rfl, rfl, rfl⟩

theorem seated_of_run {history : List (List ReviewerRow × Call)} (run : Run council [] history rows) :
    Seated rows := by
  refine run.invariant Seated ⟨.nil _, .nil _, .nil _, .nil _, ?_⟩ fun s call kept _ => kept.step call
  intro row member
  cases member

end Invariant

/-- After any calls, accepted or thrown out, no two reviewers share an id, an account, a chat or a
payout address, and every row is well formed. A reviewer stays with the account and the id
for good; and offers of one order go to different chats, none of which belongs to a party. -/
theorem reviewer_council {history : List (List ReviewerRow × Call)} {rows : List ReviewerRow}
    (run : Run council [] history rows) :
    Seated rows ∧
    (∀ later rows', Run council rows later rows' → ∀ row ∈ rows, row.Kept rows') ∧
    ∀ client provider conflicts,
      ((listEligibleReviewers rows client provider conflicts).map ReviewerRow.telegramChatId).Nodup ∧
      ∀ row ∈ listEligibleReviewers rows client provider conflicts,
        row ∈ rows ∧ row.active = true ∧ row.payoutAddress ≠ client ∧
          row.payoutAddress ≠ provider ∧ row.payoutAddress ∉ conflicts := by
  have seated := seated_of_run run
  refine ⟨seated, ?_, ?_⟩
  · intro later rows' more row member
    exact more.invariant (fun rows => row.Kept rows) ⟨row, member, rfl, rfl, rfl⟩
      fun s call kept _ => kept.step call
  · intro client provider conflicts
    constructor
    · apply ((List.mergeSort_perm _ _).map _).nodup_iff.mpr
      exact seated.chats.sublist (List.filter_sublist.map _)
    · intro row member
      rw [listEligibleReviewers, List.mem_mergeSort, List.mem_filter] at member
      obtain ⟨there, fit⟩ := member
      simp only [Bool.and_eq_true, List.all_cons, List.all_eq_true, decide_eq_true_eq] at fit
      obtain ⟨active, notClient, notProvider, free⟩ := fit
      exact ⟨there, active, notClient, notProvider, fun conflict => free _ conflict rfl⟩

namespace CouncilWalkthrough

/-- The second account claims the first one's chat and is thrown out; the first is paused. -/
def path : List Call :=
  [.upsert ⟨" 7", "-9", "ada ", 1, ["go", " c", "go"], none⟩ 10 100,
    .upsert ⟨"8", "-9", "bob", 2, [], none⟩ 11 101, .setActive 100 false 12]

def reached : List ReviewerRow := council.replay [] path

theorem run : Run council [] (council.record [] [] path) reached :=
  council.replay_run .refl path ⟨trivial, trivial, trivial, trivial⟩

end CouncilWalkthrough

open CouncilWalkthrough in
theorem reviewer_council_walkthrough : Seated reached ∧
    reached.map (fun row => (row.telegramUserId, row.reviewerAlias, row.active)) =
      [("7", "ada", false)] :=
  ⟨(reviewer_council run).1, by decide +kernel⟩

end VapiArc.Review.Council
