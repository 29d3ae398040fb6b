import VapiArc.Lib.JsonOrder
import VapiArc.Review.Council

/-!
# The council of the configuration

`REVIEW_BOOTSTRAP_REVIEWERS_JSON` is parsed and applied at each start of the service. What the
parser accepts the table accepts, and a further start changes no reviewer.
-/
namespace VapiArc.Review.Council

open Checked Transition

structure ReviewerBootstrapConfig where
  telegramUserId : String
  telegramChatId : String
  reviewerAlias : String
  payoutAddress : Address
  skills : List String
  active : Bool
  deriving DecidableEq

/-- The checksum library: the address of a valid text, and the text of an address. -/
structure AddressLibrary where
  getAddress : String → Option Address
  text : Address → String

def MAX_BOOTSTRAP_REVIEWERS : Nat := 20

def BOOTSTRAP_REVIEWER_KEYS : List String :=
  ["telegramUserId", "telegramChatId", "alias", "payoutAddress", "skills", "active"]

def requiredString (value : Option Judge.JsonValue) (path : String) (maximumLength : Nat) :
    Except Failure String :=
  match value with
  | some (.string text) => do
    revertIf (trim text = "") (.error (path ++ " must be a non-empty string"))
    revertIf (maximumLength < utf16Length (trim text))
      (.error (path ++ " must be at most " ++ toString maximumLength ++ " characters"))
    return trim text
  | _ => throw (.error (path ++ " must be a non-empty string"))

/-- The texts of an array, if it holds nothing else. -/
def texts (items : List Judge.JsonValue) : Option (List String) :=
  items.mapM fun
    | .string text => some text
    | _ => none

def parsedSkills (value : Option Judge.JsonValue) (path : String) : Except Failure (List String) :=
  let failure : Failure :=
    .error (path ++ " must contain at most 20 non-empty strings up to 64 characters")
  match value with
  | none => return []
  | some (.array items) => do
    let skills ← demand failure (texts items)
    revertIf (20 < skills.length ∨ skills.all goodSkill = false) failure
    return skills
  | some _ => throw failure

def parsedActive (value : Option Judge.JsonValue) (path : String) : Except Failure Bool :=
  match value with
  | none => return true
  | some (.bool active) => return active
  | some _ => throw (.error (path ++ " must be a boolean"))

def duplicateError (field value : String) : Failure :=
  .error ("REVIEW_BOOTSTRAP_REVIEWERS_JSON contains duplicate " ++ field ++ " " ++ value)

/-- One entry, after the `earlier` ones. -/
def parseEntry (lib : AddressLibrary) (index : Nat) (earlier : List ReviewerBootstrapConfig)
    (entry : Judge.JsonValue) : Except Failure ReviewerBootstrapConfig := do
  let path := "REVIEW_BOOTSTRAP_REVIEWERS_JSON[" ++ toString index ++ "]"
  let .object record := entry | throw (.error (path ++ " must be an object"))
  let unknownKey := (record.map Prod.fst).find? (· ∉ BOOTSTRAP_REVIEWER_KEYS)
  -- an empty key is no truthy one
  revertIf (unknownKey.any (· ≠ "") = true)
    (.error (path ++ "." ++ unknownKey.getD "" ++ " is not a supported field"))
  let telegramUserId ← requiredString (record.lookup "telegramUserId") (path ++ ".telegramUserId") 32
  revertIf (positiveDigits telegramUserId.toList = false)
    (.error (path ++ ".telegramUserId must be a positive numeric id"))
  let telegramChatId ← requiredString (record.lookup "telegramChatId") (path ++ ".telegramChatId") 32
  revertIf (signedDigits telegramChatId.toList = false)
    (.error (path ++ ".telegramChatId must be a Telegram numeric chat id"))
  let reviewerAlias ← requiredString (record.lookup "alias") (path ++ ".alias") 80
  let payoutAddressValue ← requiredString (record.lookup "payoutAddress") (path ++ ".payoutAddress") 42
  let payoutAddress ← demand (.error (path ++ ".payoutAddress must be a valid EVM address"))
    (lib.getAddress payoutAddressValue)
  let skills ← parsedSkills (record.lookup "skills") (path ++ ".skills")
  let active ← parsedActive (record.lookup "active") (path ++ ".active")
  revertIf (payoutAddress = 0) (.error (path ++ ".payoutAddress cannot be the zero address"))
  revertIf (telegramUserId ∈ earlier.map (·.telegramUserId))
    (duplicateError "telegramUserId" telegramUserId)
  revertIf (telegramChatId ∈ earlier.map (·.telegramChatId))
    (duplicateError "telegramChatId" telegramChatId)
  revertIf (payoutAddress ∈ earlier.map (·.payoutAddress))
    (duplicateError "payoutAddress" (lib.text payoutAddress))
  return { telegramUserId, telegramChatId, reviewerAlias, payoutAddress
           skills := (skills.map trim).distinct.mergeSort textLE
           active }

def parseEntries (lib : AddressLibrary) :
    Nat → List ReviewerBootstrapConfig → List Judge.JsonValue →
      Except Failure (List ReviewerBootstrapConfig)
  | _, earlier, [] => return earlier
  | index, earlier, entry :: rest => do
    let config ← parseEntry lib index earlier entry
    parseEntries lib (index + 1) (earlier ++ [config]) rest

def parseReviewerBootstrap (lib : AddressLibrary) (value : Option String) :
    Except Failure (List ReviewerBootstrapConfig) :=
  match value.filter (trim · ≠ "") with
  | none => return []
  | some text =>
    match Json.parse text with
    | none => throw (.error "REVIEW_BOOTSTRAP_REVIEWERS_JSON must be valid JSON")
    | some (.array items) => do
      revertIf (MAX_BOOTSTRAP_REVIEWERS < items.length)
        (.error ("REVIEW_BOOTSTRAP_REVIEWERS_JSON supports at most " ++
          toString MAX_BOOTSTRAP_REVIEWERS ++ " reviewers"))
      parseEntries lib 0 [] items
    | some _ => throw (.error "REVIEW_BOOTSTRAP_REVIEWERS_JSON must be a JSON array")

def ReviewerBootstrapConfig.input (config : ReviewerBootstrapConfig) : UpsertReviewerInput where
  telegramUserId := config.telegramUserId
  telegramChatId := config.telegramChatId
  reviewerAlias := config.reviewerAlias
  payoutAddress := config.payoutAddress
  skills := config.skills
  active := some config.active

/-- Each reviewer is written by a call of its own, with a time and an id of its own; what was
written before one that throws stays. -/
def applyReviewerBootstrap (rows : List ReviewerRow) :
    List (ReviewerBootstrapConfig × Timestamp × ReviewerId) → Except Failure Unit × List ReviewerRow
  | [] => (.ok (), rows)
  | (config, timestamp, randomUUID) :: rest =>
    match upsertReviewer rows config.input timestamp randomUUID with
    | .error reason => (.error reason, rows)
    | .ok rows => applyReviewerBootstrap rows rest

/-! ### What is parsed -/

section Parsed

variable {lib : AddressLibrary}

/-- A parsed entry is in the form that the table stores. -/
structure ReviewerBootstrapConfig.Normal (config : ReviewerBootstrapConfig) : Prop where
  accepted : config.input.Accepted
  telegramUserId : trim config.telegramUserId = config.telegramUserId
  telegramChatId : trim config.telegramChatId = config.telegramChatId
  reviewerAlias : trim config.reviewerAlias = config.reviewerAlias
  skills : normalizedSkills config.skills = config.skills

/-- No two entries share an account, a chat or an address. -/
structure Apart (configs : List ReviewerBootstrapConfig) : Prop where
  users : Table.Unique ReviewerBootstrapConfig.telegramUserId configs
  chats : Table.Unique ReviewerBootstrapConfig.telegramChatId configs
  addresses : Table.Unique ReviewerBootstrapConfig.payoutAddress configs

theorem requiredString_ok {value : Option Judge.JsonValue} {path text : String}
    {maximumLength : Nat} (h : requiredString value path maximumLength = .ok text) :
    trim text = text ∧ text ≠ "" ∧ utf16Length text ≤ maximumLength := by
  unfold requiredString at h
  split at h
  next raw =>
    simp only [bind_ok, revertIf_ok, exists_const, pure_ok, not_lt] at h
    obtain ⟨nonempty, short, rfl⟩ := h
    exact ⟨Judge.trim_trim raw, nonempty, short⟩
  next => cases h

theorem parsedSkills_ok {value : Option Judge.JsonValue} {path : String} {skills : List String}
    (h : parsedSkills value path = .ok skills) :
    skills.length ≤ 20 ∧ ∀ skill ∈ skills, goodSkill skill = true := by
  unfold parsedSkills at h
  split at h
  · cases h
    simp
  · simp only [bind_ok, demand_ok, revertIf_ok, exists_const, pure_ok, not_or, not_lt,
      Bool.not_eq_false, List.all_eq_true] at h
    obtain ⟨found, -, checks, rfl⟩ := h
    exact checks
  · cases h

theorem filter_good {skills : List String} (good : ∀ skill ∈ skills, goodSkill skill = true) :
    (skills.map trim).filter (· ≠ "") = skills.map trim := by
  apply List.filter_eq_self.mpr
  intro skill member
  obtain ⟨raw, there, rfl⟩ := List.mem_map.mp member
  have fine := good raw there
  simp only [goodSkill, Bool.and_eq_true] at fine
  exact fine.1

theorem foldl_distinct_append {l seen : List String} (nodup : (seen ++ l).Nodup) :
    l.foldl (fun seen a => if a ∈ seen then seen else seen ++ [a]) seen = seen ++ l := by
  induction l generalizing seen with
  | nil => simp
  | cons a rest ih =>
    have absent : a ∉ seen := by
      intro member
      exact List.disjoint_of_nodup_append nodup member List.mem_cons_self
    rw [List.foldl_cons, if_neg absent, ih (by simpa using nodup), List.append_assoc]
    rfl

/-- Skills that were normalized stay as they are. -/
theorem normalizedSkills_normal {skills : List String} (sorted : skills.Pairwise (textLE · ·))
    (nodup : skills.Nodup) (clean : ∀ skill ∈ skills, trim skill = skill ∧ skill ≠ "") :
    normalizedSkills skills = skills := by
  have trimmed : skills.map trim = skills := by
    conv_rhs => rw [← List.map_id skills]
    exact List.map_congr_left fun skill member => (clean skill member).1
  have kept : skills.filter (· ≠ "") = skills :=
    List.filter_eq_self.mpr fun skill member => decide_eq_true (clean skill member).2
  have once : skills.distinct = skills := by
    have all : ([] ++ skills).Nodup := by simpa using nodup
    simpa [List.distinct] using foldl_distinct_append all
  rw [normalizedSkills, trimmed, kept, once]
  exact List.mergeSort_of_pairwise sorted

theorem parseEntry_ok {index : Nat} {earlier : List ReviewerBootstrapConfig}
    {entry : Judge.JsonValue} {config : ReviewerBootstrapConfig}
    (h : parseEntry lib index earlier entry = .ok config) : config.Normal ∧
    config.telegramUserId ∉ earlier.map (·.telegramUserId) ∧
    config.telegramChatId ∉ earlier.map (·.telegramChatId) ∧
    config.payoutAddress ∉ earlier.map (·.payoutAddress) := by
  unfold parseEntry at h
  cases entry with
  | object record =>
    simp only [bind_ok, demand_ok, revertIf_ok, exists_const, pure_ok, Bool.not_eq_false] at h
    obtain ⟨-, user, readUser, userId, chat, readChat, chatId, name, readName, -, -, address, -,
      skills, readSkills, active, -, nonzero, newUser, newChat, newAddress, rfl⟩ := h
    obtain ⟨trimUser, -, shortUser⟩ := requiredString_ok readUser
    obtain ⟨trimChat, -, shortChat⟩ := requiredString_ok readChat
    obtain ⟨trimName, someName, shortName⟩ := requiredString_ok readName
    obtain ⟨few, good⟩ := parsedSkills_ok readSkills
    -- the parser normalizes as the table does
    have normalized : (skills.map trim).distinct.mergeSort textLE = normalizedSkills skills := by
      rw [normalizedSkills, filter_good good]
    obtain ⟨short, nodup, sorted, clean⟩ := normalizedSkills_wellFormed few good
    refine ⟨⟨⟨?_, ?_, ?_, ?_, nonzero⟩, trimUser, trimChat, trimName, ?_⟩, newUser, newChat,
      newAddress⟩
    · exact ⟨by rw [ReviewerBootstrapConfig.input, trimUser]; exact userId,
        by rw [ReviewerBootstrapConfig.input, trimUser]; exact shortUser⟩
    · exact ⟨by rw [ReviewerBootstrapConfig.input, trimChat]; exact chatId,
        by rw [ReviewerBootstrapConfig.input, trimChat]; exact shortChat⟩
    · exact ⟨by rw [ReviewerBootstrapConfig.input, trimName]; exact someName,
        by rw [ReviewerBootstrapConfig.input, trimName]; exact shortName⟩
    · simp only [ReviewerBootstrapConfig.input, normalized]
      refine ⟨short, fun skill member => ?_⟩
      obtain ⟨same, nonempty, brief⟩ := clean skill member
      simp [goodSkill, same, nonempty, brief]
    · simp only [normalized]
      exact normalizedSkills_normal sorted nodup fun skill member =>
        ⟨(clean skill member).1, (clean skill member).2.1⟩
  | _ => cases h

theorem Apart.add {configs : List ReviewerBootstrapConfig} {config : ReviewerBootstrapConfig}
    (apart : Apart configs) (user : config.telegramUserId ∉ configs.map (·.telegramUserId))
    (chat : config.telegramChatId ∉ configs.map (·.telegramChatId))
    (address : config.payoutAddress ∉ configs.map (·.payoutAddress)) :
    Apart (configs ++ [config]) := by
  constructor
  · exact apart.users.insert fun old member same => user (same ▸ List.mem_map_of_mem member)
  · exact apart.chats.insert fun old member same => chat (same ▸ List.mem_map_of_mem member)
  · exact apart.addresses.insert fun old member same => address (same ▸ List.mem_map_of_mem member)

theorem parseEntries_ok {index : Nat} {earlier configs : List ReviewerBootstrapConfig}
    {entries : List Judge.JsonValue} (h : parseEntries lib index earlier entries = .ok configs)
    (apart : Apart earlier) (normal : ∀ config ∈ earlier, config.Normal) :
    Apart configs ∧ ∀ config ∈ configs, config.Normal := by
  induction entries generalizing index earlier with
  | nil =>
    cases h
    exact ⟨apart, normal⟩
  | cons entry rest ih =>
    simp only [parseEntries, bind_ok] at h
    obtain ⟨config, parsed, h⟩ := h
    obtain ⟨fine, user, chat, address⟩ := parseEntry_ok parsed
    apply ih h (apart.add user chat address)
    intro other member
    rcases List.mem_append.mp member with old | new
    · exact normal other old
    · rw [List.mem_singleton.mp new]
      exact fine

/-- The entries that the parser lets through are normal and apart. -/
theorem parseReviewerBootstrap_ok {value : Option String} {configs : List ReviewerBootstrapConfig}
    (h : parseReviewerBootstrap lib value = .ok configs) :
    Apart configs ∧ ∀ config ∈ configs, config.Normal := by
  have none_ : Apart [] ∧ ∀ config ∈ ([] : List ReviewerBootstrapConfig), config.Normal :=
    ⟨⟨.nil _, .nil _, .nil _⟩, by simp⟩
  unfold parseReviewerBootstrap at h
  split at h
  · cases h
    exact none_
  · split at h
    · cases h
    · simp only [bind_ok, revertIf_ok, exists_const] at h
      exact parseEntries_ok h.2 none_.1 none_.2
    · cases h

end Parsed

/-! ### What is applied -/

section Applied

variable {rows rows' : List ReviewerRow} {config : ReviewerBootstrapConfig} {timestamp : Timestamp}
  {id : ReviewerId}

/-- The row is the one that the entry describes. -/
structure ReviewerBootstrapConfig.Holds (config : ReviewerBootstrapConfig) (row : ReviewerRow) :
    Prop where
  telegramUserId : row.telegramUserId = config.telegramUserId
  telegramChatId : row.telegramChatId = config.telegramChatId
  reviewerAlias : row.reviewerAlias = config.reviewerAlias
  payoutAddress : row.payoutAddress = config.payoutAddress
  skills : row.skills = config.skills
  active : row.active = config.active

/-- Some row is the one that the entry describes. -/
def ReviewerBootstrapConfig.Held (config : ReviewerBootstrapConfig) (rows : List ReviewerRow) : Prop :=
  ∃ row ∈ rows, config.Holds row

/-- A row without the time of its last change. -/
def ReviewerRow.untimed (row : ReviewerRow) : ReviewerRow := { row with updatedAt := 0 }

@[simp] theorem input_active : (config.input.active ≠ some false : Bool) = config.active := by
  cases h : config.active <;> simp [ReviewerBootstrapConfig.input, h]

theorem ReviewerBootstrapConfig.Normal.row (normal : config.Normal) (id : ReviewerId)
    (timestamp : Timestamp) : config.Holds (config.input.row id timestamp) where
  telegramUserId := normal.telegramUserId
  telegramChatId := normal.telegramChatId
  reviewerAlias := normal.reviewerAlias
  payoutAddress := rfl
  skills := normal.skills
  active := input_active

theorem ReviewerBootstrapConfig.Normal.apply (normal : config.Normal) {row : ReviewerRow}
    (own : row.telegramUserId = config.telegramUserId) (timestamp : Timestamp) :
    config.Holds (config.input.apply timestamp row) where
  telegramUserId := own
  telegramChatId := normal.telegramChatId
  reviewerAlias := normal.reviewerAlias
  payoutAddress := rfl
  skills := normal.skills
  active := input_active

/-- To write an entry over the row that it describes is to change the time only. -/
theorem ReviewerBootstrapConfig.Normal.untimed_apply (normal : config.Normal) {row : ReviewerRow}
    (holds : config.Holds row) : (config.input.apply timestamp row).untimed = row.untimed := by
  have after := normal.apply holds.telegramUserId timestamp
  cases row
  simp only [ReviewerRow.untimed, UpsertReviewerInput.apply, ReviewerRow.mk.injEq, true_and, and_true]
  exact ⟨after.telegramChatId.trans holds.telegramChatId.symm,
    after.reviewerAlias.trans holds.reviewerAlias.symm,
    after.payoutAddress.trans holds.payoutAddress.symm, after.skills.trans holds.skills.symm,
    after.active.trans holds.active.symm⟩

theorem Holds.of_untimed {row row' : ReviewerRow} (same : row'.untimed = row.untimed)
    (holds : config.Holds row) : config.Holds row' := by
  cases row
  cases row'
  simp only [ReviewerRow.untimed, ReviewerRow.mk.injEq] at same
  obtain ⟨-, user, chat, name, address, skills, active, -⟩ := same
  constructor
  · exact user.trans holds.telegramUserId
  · exact chat.trans holds.telegramChatId
  · exact name.trans holds.reviewerAlias
  · exact address.trans holds.payoutAddress
  · exact skills.trans holds.skills
  · exact active.trans holds.active

theorem Held.of_untimed (same : rows'.map ReviewerRow.untimed = rows.map ReviewerRow.untimed)
    (held : config.Held rows) : config.Held rows' := by
  obtain ⟨row, there, holds⟩ := held
  have listed : row.untimed ∈ rows'.map ReviewerRow.untimed := by
    rw [same]
    exact List.mem_map_of_mem there
  obtain ⟨row', there', equal⟩ := List.mem_map.mp listed
  exact ⟨row', there', Holds.of_untimed equal holds⟩

/-- What one entry leaves behind: its own row, and the rows of the other accounts. -/
theorem upserted_held (seated : Seated rows) (normal : config.Normal)
    (upserted : Upserted rows config.input timestamp id rows') : config.Held rows' ∧
    ∀ row ∈ rows, row.telegramUserId ≠ config.telegramUserId → row ∈ rows' := by
  have trimmed : trim config.input.telegramUserId = config.telegramUserId := normal.telegramUserId
  cases upserted with
  | @updated existing there own address =>
    rw [trimmed] at own
    constructor
    · exact ⟨_, Table.mem_update.mpr ⟨existing, there, .inl ⟨rfl, rfl⟩⟩, normal.apply own timestamp⟩
    · intro row member other
      refine Table.mem_update.mpr ⟨row, member, .inr ⟨fun same => other ?_, rfl⟩⟩
      rw [seated.ids.inj member there same]
      exact own
  | inserted absent fresh address =>
    constructor
    · exact ⟨_, List.mem_append_right _ List.mem_cons_self, normal.row id timestamp⟩
    · intro row member _
      exact List.mem_append_left _ member

/-- An entry whose row is there is written again, and only the time differs. -/
theorem upsertReviewer_held (seated : Seated rows) (normal : config.Normal) (held : config.Held rows)
    (timestamp : Timestamp) (id : ReviewerId) :
    ∃ rows', upsertReviewer rows config.input timestamp id = .ok rows' ∧
      rows'.map ReviewerRow.untimed = rows.map ReviewerRow.untimed := by
  obtain ⟨row, there, holds⟩ := held
  have trimmed : trim config.input.telegramUserId = config.telegramUserId := normal.telegramUserId
  have found : rows.find? (·.telegramUserId = trim config.input.telegramUserId) = some row := by
    cases found : rows.find? (·.telegramUserId = trim config.input.telegramUserId) with
    | none =>
      have absent := List.find?_eq_none.mp found row there
      simp [trimmed, holds.telegramUserId] at absent
    | some other =>
      have own : other.telegramUserId = trim config.input.telegramUserId := by
        simpa using List.find?_some found
      rw [seated.users.inj (List.mem_of_find?_eq_some found) there
        (own.trans (trimmed.trans holds.telegramUserId.symm))]
  refine ⟨Table.update ReviewerRow.id row.id (config.input.apply timestamp) rows, ?_, ?_⟩
  · simp only [upsertReviewer, bind_ok, revertIf_ok, exists_const, found, pure_ok, and_true]
    refine ⟨(), checkedInput_ok.mpr normal.accepted, ?_, ?_⟩
    · -- the chat is held by the entry's own row
      rintro ⟨other, member, chat, elsewhere⟩
      have own : other = row := seated.chats.inj member there
        (chat.trans (normal.telegramChatId.trans holds.telegramChatId.symm))
      exact elsewhere (own ▸ holds.telegramUserId.trans trimmed.symm)
    · rintro ⟨other, member, elsewhere, address⟩
      have own : other = row := seated.addresses.inj member there
        (address.trans holds.payoutAddress.symm)
      exact elsewhere (congrArg ReviewerRow.id own)
  · rw [Table.update, List.map_map]
    apply List.map_congr_left
    intro other member
    rw [Function.comp_apply]
    split
    next same =>
      rw [seated.ids.inj member there same]
      exact normal.untimed_apply holds
    next => rfl

abbrev Entry := ReviewerBootstrapConfig × Timestamp × ReviewerId

variable {calls : List Entry}

theorem applyReviewerBootstrap_ok (seated : Seated rows) (normal : ∀ call ∈ calls, call.1.Normal)
    (users : (calls.map (·.1.telegramUserId)).Nodup)
    (applied : applyReviewerBootstrap rows calls = (.ok (), rows')) :
    Seated rows' ∧ (∀ call ∈ calls, call.1.Held rows') ∧
      ∀ row ∈ rows, row.telegramUserId ∉ calls.map (·.1.telegramUserId) → row ∈ rows' := by
  induction calls generalizing rows with
  | nil =>
    cases applied
    exact ⟨seated, by simp, fun row member _ => member⟩
  | cons call rest ih =>
    obtain ⟨config, timestamp, randomUUID⟩ := call
    rw [List.map_cons, List.nodup_cons] at users
    obtain ⟨own, users⟩ := users
    simp only [applyReviewerBootstrap] at applied
    split at applied
    next => cases applied
    next middle done =>
      obtain ⟨accepted, chat, upserted⟩ := upsertReviewer_ok done
      have normalHead := normal _ List.mem_cons_self
      obtain ⟨⟨row, there, holds⟩, frame⟩ := upserted_held seated normalHead upserted
      obtain ⟨seated', held, frame'⟩ := ih (seated.upserted accepted chat upserted)
        (fun call member => normal call (List.mem_cons_of_mem _ member)) users applied
      refine ⟨seated', ?_, ?_⟩
      · intro call member
        rcases List.mem_cons.mp member with rfl | later
        · -- the entries that follow are of other accounts
          exact ⟨row, frame' row there (by rw [holds.telegramUserId]; exact own), holds⟩
        · exact held call later
      · intro row member other
        simp only [List.map_cons, List.mem_cons, not_or] at other
        exact frame' row (frame row member other.1) other.2

theorem applyReviewerBootstrap_again (seated : Seated rows) (normal : ∀ call ∈ calls, call.1.Normal)
    (held : ∀ call ∈ calls, call.1.Held rows) :
    ∃ rows', applyReviewerBootstrap rows calls = (.ok (), rows') ∧
      rows'.map ReviewerRow.untimed = rows.map ReviewerRow.untimed := by
  induction calls generalizing rows with
  | nil => exact ⟨rows, rfl, rfl⟩
  | cons call rest ih =>
    obtain ⟨config, timestamp, randomUUID⟩ := call
    obtain ⟨middle, done, same⟩ := upsertReviewer_held seated
      (normal _ List.mem_cons_self) (held _ List.mem_cons_self) timestamp randomUUID
    obtain ⟨accepted, chat, upserted⟩ := upsertReviewer_ok done
    obtain ⟨rows', applied, same'⟩ := ih (seated.upserted accepted chat upserted)
      (fun call member => normal call (List.mem_cons_of_mem _ member))
      fun call member => Held.of_untimed same (held call (List.mem_cons_of_mem _ member))
    refine ⟨rows', ?_, same'.trans same⟩
    rw [applyReviewerBootstrap, done]
    exact applied

variable (rows) in
/-- Entries that share nothing with the rows or among themselves are all added. -/
theorem applyReviewerBootstrap_fresh (normal : ∀ call ∈ calls, call.1.Normal)
    (ids : (rows.map ReviewerRow.id ++ calls.map (·.2.2)).Nodup)
    (users : (rows.map ReviewerRow.telegramUserId ++ calls.map (·.1.telegramUserId)).Nodup)
    (chats : (rows.map ReviewerRow.telegramChatId ++ calls.map (·.1.telegramChatId)).Nodup)
    (addresses : (rows.map ReviewerRow.payoutAddress ++ calls.map (·.1.payoutAddress)).Nodup) :
    applyReviewerBootstrap rows calls =
      (.ok (), rows ++ calls.map fun (config, timestamp, id) => config.input.row id timestamp) := by
  induction calls generalizing rows with
  | nil => simp [applyReviewerBootstrap]
  | cons call rest ih =>
    obtain ⟨config, timestamp, randomUUID⟩ := call
    have normalHead := normal _ List.mem_cons_self
    have trimmed : trim config.input.telegramUserId = config.telegramUserId :=
      normalHead.telegramUserId
    have elsewhere {α : Type} {column : ReviewerRow → α} {value : α} {values : List α}
        (apart : (rows.map column ++ value :: values).Nodup) : ∀ row ∈ rows, column row ≠ value := by
      intro row member same
      exact List.disjoint_of_nodup_append apart (List.mem_map_of_mem member)
        (same ▸ List.mem_cons_self)
    have done : upsertReviewer rows config.input timestamp randomUUID =
        .ok (rows ++ [config.input.row randomUUID timestamp]) := by
      have absent : rows.find? (·.telegramUserId = trim config.input.telegramUserId) = none := by
        apply List.find?_eq_none.mpr
        intro row member
        rw [trimmed, decide_eq_true_eq]
        exact elsewhere users row member
      simp only [upsertReviewer, bind_ok, revertIf_ok, exists_const, absent, pure_ok, and_true]
      push Not
      refine ⟨(), checkedInput_ok.mpr normalHead.accepted, ?_, elsewhere ids, elsewhere addresses⟩
      intro row member chat
      exact absurd (chat.trans normalHead.telegramChatId) (elsewhere chats row member)
    rw [applyReviewerBootstrap, done]
    have holds := normalHead.row randomUUID timestamp
    simp only [List.map_cons] at *
    rw [ih, List.append_assoc]
    · rfl
    · exact fun call member => normal call (List.mem_cons_of_mem _ member)
    · simpa [UpsertReviewerInput.row] using ids
    · simpa [holds.telegramUserId] using users
    · simpa [holds.telegramChatId] using chats
    · simpa [holds.payoutAddress] using addresses

end Applied

/-- Whatever configuration the parser lets through, a start with an empty table writes it whole.
At any later start, once it is applied, every configured reviewer is there as configured, also
one that was changed or paused since, the other reviewers are as they were, and applying it once
more changes nothing but the times. -/
theorem reviewer_bootstrap {lib : AddressLibrary} {value : Option String}
    {configs : List ReviewerBootstrapConfig} (parsed : parseReviewerBootstrap lib value = .ok configs)
    (entries : List Entry) (theirs : entries.map Prod.fst = configs) :
    ((entries.map (·.2.2)).Nodup → applyReviewerBootstrap [] entries =
      (.ok (), entries.map fun (config, timestamp, id) => config.input.row id timestamp)) ∧
    ∀ history rows rows', Run council [] history rows →
      applyReviewerBootstrap rows entries = (.ok (), rows') →
      (∀ config ∈ configs, config.Held rows') ∧
      (∀ row ∈ rows, row.telegramUserId ∉ configs.map (·.telegramUserId) → row ∈ rows') ∧
      ∀ again : List Entry, again.map Prod.fst = configs →
        ∃ rows'', applyReviewerBootstrap rows' again = (.ok (), rows'') ∧
          rows''.map ReviewerRow.untimed = rows'.map ReviewerRow.untimed := by
  obtain ⟨apart, normal⟩ := parseReviewerBootstrap_ok parsed
  have normalOf {calls : List Entry} (same : calls.map Prod.fst = configs) :
      ∀ call ∈ calls, call.1.Normal := fun call member =>
    normal _ (same ▸ List.mem_map_of_mem member)
  have column {α : Type} (f : ReviewerBootstrapConfig → α) :
      entries.map (fun call => f call.1) = configs.map f := by
    rw [← theirs, List.map_map]
    rfl
  constructor
  · -- on an empty table every entry finds its user, chat and address free
    intro ids
    have users := apart.users
    have chats := apart.chats
    have addresses := apart.addresses
    rw [Table.Unique, ← column] at users chats addresses
    simpa using applyReviewerBootstrap_fresh [] (normalOf theirs) (by simpa using ids)
      (by simpa using users) (by simpa using chats) (by simpa using addresses)
  · -- later starts update the rows of their own users only
    intro history rows rows' run applied
    have users := apart.users
    rw [Table.Unique, ← column] at users
    obtain ⟨seated, held, frame⟩ := applyReviewerBootstrap_ok (seated_of_run run)
      (normalOf theirs) users applied
    have heldOf {config : ReviewerBootstrapConfig} (member : config ∈ configs) :
        config.Held rows' := by
      rw [← theirs] at member
      obtain ⟨call, there, rfl⟩ := List.mem_map.mp member
      exact held call there
    refine ⟨fun config member => heldOf member, ?_, ?_⟩
    · intro row member other
      exact frame row member (by rw [column]; exact other)
    · intro again same
      exact applyReviewerBootstrap_again seated (normalOf same)
        fun call member => heldOf (same ▸ List.mem_map_of_mem member)

namespace BootstrapWalkthrough

def payoutText : String := "0x0000000000000000000000000000000000000001"

def lib : AddressLibrary where
  getAddress text := if text = payoutText then some 1 else none
  text _ := payoutText

def configured : Judge.JsonValue :=
  .array [.object [("telegramUserId", .string "7"), ("telegramChatId", .string " -9"),
    ("alias", .string "ada"), ("payoutAddress", .string payoutText)]]

def ada : ReviewerBootstrapConfig := ⟨"7", "-9", "ada", 1, [], true⟩

/-- Ada is added and paused from the command line, and so is a reviewer who is not configured. -/
def path : List Call :=
  [.upsert ⟨"7", "-9", "ada", 1, [], none⟩ 10 100, .setActive 100 false 11,
    .upsert ⟨"8", "-8", "bob", 2, [], none⟩ 12 101]

def reached : List ReviewerRow := council.replay [] path

theorem run : Run council [] (council.record [] [] path) reached :=
  council.replay_run .refl path ⟨trivial, trivial, trivial, trivial⟩

theorem parsed : parseReviewerBootstrap lib (some (Json.stringify 0 configured)) = .ok [ada] := by
  have enumerated : Json.Enumerated configured :=
    ⟨⟨Json.ofEntries_of_names ["telegramUserId", "telegramChatId", "alias", "payoutAddress"] rfl
      (by decide) (by decide), by simp [Json.EnumeratedFields, Json.Enumerated]⟩, trivial⟩
  have some_ : (some (Json.stringify 0 configured)).filter (trim · ≠ "") =
      some (Json.stringify 0 configured) := by decide +kernel
  unfold parseReviewerBootstrap
  rw [some_]
  dsimp only
  rw [Json.parse_stringify 0 enumerated]
  simp only [configured]
  decide +kernel

/-- The next start. -/
def after : List ReviewerRow := (applyReviewerBootstrap reached [(ada, 20, 102)]).2

end BootstrapWalkthrough

open BootstrapWalkthrough in
theorem reviewer_bootstrap_walkthrough : ada.Held after ∧
    reached.map (fun row => (row.reviewerAlias, row.active)) = [("ada", false), ("bob", true)] ∧
    after.map (fun row => (row.reviewerAlias, row.active)) = [("ada", true), ("bob", true)] := by
  have applied : applyReviewerBootstrap reached [(ada, 20, 102)] = (.ok (), after) := by
    decide +kernel
  have start := (reviewer_bootstrap parsed [(ada, 20, 102)] rfl).2 _ _ _ run applied
  exact ⟨start.1 ada List.mem_cons_self, by decide +kernel, by decide +kernel⟩

end VapiArc.Review.Council
