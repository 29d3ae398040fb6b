import VapiArc.Lib.Transition
import VapiArc.Review.Gateway
import VapiArc.Review.Service

/-!
# Verdict prompts

A reviewer chooses a decision with a button, is sent a prompt, and replies to it with a
reason. The prompt is written to its table once it was sent; the reply is looked up, and its
verdict is recorded, in one synchronous step.
-/
namespace VapiArc.Review

open Checked Function Transition

inductive VerdictPromptStatus where
  | active
  | consumed
  | superseded
  | expired
  deriving DecidableEq, Repr

structure VerdictPrompt where
  id : Nat
  orderId : Nat
  reviewerId : ReviewerId
  telegramUserId : Nat
  telegramChatId : Nat
  decision : ReviewDecision
  promptMessageId : Nat
  expiresAt : Timestamp
  status : VerdictPromptStatus
  createdAt : Timestamp
  consumedAt : Option Timestamp := none
  supersededAt : Option Timestamp := none
  deriving DecidableEq, Repr

/-- A prompt that is being sent: what the callback goes on with. -/
structure PendingPrompt where
  orderId : Nat
  reviewer : Reviewer
  decision : ReviewDecision
  expiresAt : Timestamp
  deriving DecidableEq, Repr

inductive PromptLookup where
  | found (prompt : VerdictPrompt)
  | notFound
  | notAuthorized
  | inactive (status : VerdictPromptStatus)
  deriving DecidableEq, Repr

/-- The table `telegram_verdict_prompts`. -/
abbrev VerdictPrompts := List VerdictPrompt

namespace VerdictPrompts

variable (prompts : VerdictPrompts)

/-- `UPDATE` of the active rows that a `WHERE` clause selects. -/
def retire (selected : VerdictPrompt → Bool) (change : VerdictPrompt → VerdictPrompt) :
    VerdictPrompts :=
  prompts.map fun p => if selected p && p.status = .active then change p else p

def supersedeActive (orderId : Nat) (reviewerId : ReviewerId) (timestamp : Timestamp) :
    VerdictPrompts :=
  prompts.retire (fun p => p.orderId = orderId && p.reviewerId = reviewerId)
    fun p => { p with status := .superseded, supersededAt := some timestamp }

/-- The primary key and the unique index over messages may refuse the row; the index over active
prompts does not, as the others are superseded. -/
def create (pending : PendingPrompt) (promptMessageId id : Nat) (createdAt : Timestamp) :
    Except Failure VerdictPrompts := do
  let others := prompts.supersedeActive pending.orderId pending.reviewer.id createdAt
  revertIf (∃ p ∈ others, p.id = id ∨ p.telegramChatId = pending.reviewer.telegramChatId ∧
      p.promptMessageId = promptMessageId)
    (.error "UNIQUE constraint failed: telegram_verdict_prompts")
  let prompt : VerdictPrompt := {
    id
    orderId := pending.orderId
    reviewerId := pending.reviewer.id
    telegramUserId := pending.reviewer.telegramUserId
    telegramChatId := pending.reviewer.telegramChatId
    decision := pending.decision
    promptMessageId
    expiresAt := pending.expiresAt
    status := .active
    createdAt }
  return others ++ [prompt]

def lookupReply (reviewerId : ReviewerId) (telegramUserId telegramChatId promptMessageId : Nat)
    (now : Timestamp) : PromptLookup × VerdictPrompts :=
  match prompts.find? fun p =>
    p.telegramChatId = telegramChatId && p.promptMessageId = promptMessageId with
  | none => (.notFound, prompts)
  | some row =>
    if row.reviewerId ≠ reviewerId ∨ row.telegramUserId ≠ telegramUserId then
      (.notAuthorized, prompts)
    else if row.status ≠ .active then (.inactive row.status, prompts)
    else if row.expiresAt ≤ now then
      (.inactive .expired, prompts.retire (·.id = row.id) ({ · with status := .expired }))
    else (.found row, prompts)

def consume (promptId : Nat) (timestamp : Timestamp) : Except Failure VerdictPrompts :=
  if prompts.any fun p => p.id = promptId && p.status = .active then
    .ok (prompts.retire (·.id = promptId)
      fun p => { p with status := .consumed, consumedAt := some timestamp })
  else if prompts.any fun p => p.id = promptId && p.status = .consumed then .ok prompts
  else .error (.error "Telegram verdict prompt is no longer active")

end VerdictPrompts

/-- The prompts, the orders by their ids and the prompts that are being sent. -/
structure PromptDesk where
  prompts : VerdictPrompts := []
  orders : Nat → Option Database
  sending : List PendingPrompt := []

/-- A text that replies to a message. -/
structure ReasonMessage where
  fromId : Nat
  chatId : Nat
  text : String
  replyTo : Nat
  deriving DecidableEq, Repr

/-- `getReviewerByTelegramUserId`, if active. -/
def activeReviewer (reviewers : List Reviewer) (fromId : Nat) : Option Reviewer :=
  (reviewers.find? (·.telegramUserId = fromId)).filter (·.active)

/-- `getMessageReviewer`: a text says why there is none. -/
def messageReviewer (reviewers : List Reviewer) (fromId chatId : Nat) : Except String Reviewer := do
  let reviewer ← demand "This Telegram account is not an active vAPI reviewer."
    (activeReviewer reviewers fromId)
  revertIf (chatId ≠ reviewer.telegramChatId)
    "Review actions must be completed in your registered vAPI reviewer chat."
  return reviewer

def PromptLookup.explanation : VerdictPromptStatus → String
  | .consumed => "That verdict prompt has already been used."
  | .superseded => "A newer verdict prompt replaced that one. Reply to the latest bot message."
  | .expired => "That verdict prompt expired. The review can no longer accept this reply."
  | .active => ""

/-- When the lookup, the verdict and the prompt's end read the clock. -/
structure ReplyTimes where
  lookedUpAt : Timestamp
  decidedAt : Timestamp
  finalizedAt : Timestamp
  deriving DecidableEq, Repr

namespace PromptDesk

variable (reviewSlaSeconds : Nat) (s : PromptDesk)

/-- The prompts after a verdict: a quoted one is consumed, others are superseded. -/
def finalized (orderId : Nat) (reviewerId : ReviewerId) (promptId : Option Nat)
    (timestamp : Timestamp) : VerdictPrompts :=
  match promptId with
  | some promptId =>
    match s.prompts.consume promptId timestamp with
    | .ok prompts => prompts
    | .error _ => s.prompts
  | none => s.prompts.supersedeActive orderId reviewerId timestamp

/-- `submitVerdictAndNotify`, with the text that is sent. -/
def submitVerdictAndNotify (reviewer : Reviewer) (orderId : Nat) (decision : ReviewDecision)
    (reasoning : String) (promptId : Option Nat) (times : ReplyTimes) : PromptDesk × String :=
  match s.orders orderId with
  | none => (s, "review order not found")
  | some db =>
    match db.submitVerdict reviewer.id decision reasoning reviewSlaSeconds times.decidedAt with
    | .error failure => (s, failure.message)
    | .ok (order, db') =>
      ({ s with
          orders := update s.orders orderId (some db')
          prompts := s.finalized orderId reviewer.id promptId times.finalizedAt },
        "Verdict recorded for job " ++ toString order.purchase.jobId ++
          ". Payout and Arc settlement are now processing.")

def handleReasonReply (message : ReasonMessage) (reviewers : List Reviewer) (times : ReplyTimes) :
    PromptDesk × String :=
  match messageReviewer reviewers message.fromId message.chatId with
  | .error text => (s, text)
  | .ok reviewer =>
    match s.prompts.lookupReply reviewer.id message.fromId message.chatId message.replyTo
      times.lookedUpAt with
    | (.notFound, prompts) => ({ s with prompts },
        "That message is not an active vAPI verdict prompt. Choose Approve or Reject again.")
    | (.notAuthorized, prompts) => ({ s with prompts },
        "That verdict prompt belongs to a different reviewer.")
    | (.inactive status, prompts) => ({ s with prompts }, PromptLookup.explanation status)
    | (.found prompt, _) =>
      let reasoning := trim message.text
      if utf16Length reasoning < 10 ∨ utf16Length reasoning > 1000 then
        (s, "Please reply to the same prompt with a reason of 10–1000 characters.")
      else
        match s.orders prompt.orderId with
        | none => (s, "This review is no longer awaiting your verdict.")
        | some db =>
          if db.order.state ≠ .claimed ∨ db.order.reviewerId ≠ some reviewer.id then
            (s, "This review is no longer awaiting your verdict.")
          else s.submitVerdictAndNotify reviewSlaSeconds reviewer prompt.orderId prompt.decision
            reasoning (some prompt.id) times

def handleLegacyVerdict (fromId chatId orderId : Nat) (decision : ReviewDecision) (reasoning : String)
    (reviewers : List Reviewer) (times : ReplyTimes) : PromptDesk × String :=
  match messageReviewer reviewers fromId chatId with
  | .error text => (s, text)
  | .ok reviewer =>
    s.submitVerdictAndNotify reviewSlaSeconds reviewer orderId decision reasoning none times

/-- The callback of a button, up to the sending of the prompt. -/
def handleCallback (orderId fromId : Nat) (chatId : Option Nat) (decision : ReviewDecision)
    (reviewers : List Reviewer) (now : Timestamp) : Except String PendingPrompt := do
  let reviewer ← demand "You are not an active reviewer" (activeReviewer reviewers fromId)
  revertIf (chatId ≠ some reviewer.telegramChatId)
    "Use this action in your registered vAPI reviewer chat"
  let db ← demand "review order not found" (s.orders orderId)
  revertIf (db.order.state ≠ .claimed ∨ db.order.reviewerId ≠ some reviewer.id)
    "Only the assigned reviewer can decide this order"
  let expiresAt := db.order.purchase.createdAt + reviewSlaSeconds * 1000
  revertIf (expiresAt ≤ now) "review SLA has elapsed"
  return { orderId, reviewer, decision, expiresAt }

end PromptDesk

/-- The steps of the bot and of what else writes to the orders. -/
inductive PromptEvent where
  | pressed (orderId fromId : Nat) (chatId : Option Nat) (decision : ReviewDecision)
      (reviewers : List Reviewer) (now : Timestamp)
  | delivered (pending : PendingPrompt) (promptMessageId id : Nat) (now : Timestamp)
  | undelivered (pending : PendingPrompt)
  | replied (message : ReasonMessage) (reviewers : List Reviewer) (times : ReplyTimes)
  | commanded (fromId chatId orderId : Nat) (decision : ReviewDecision) (reasoning : String)
      (reviewers : List Reviewer) (times : ReplyTimes)
  | claimed (orderId : Nat) (reviewerId : ReviewerId) (reviewer : Option Reviewer)
      (identityHash : Nat → Hex) (conflicts : List Address) (now : Timestamp)
  | timedOut (orderId maxDispatches : Nat) (now : Timestamp)
  | written (orderId : Nat) (db : Option Database)
  | restarted

namespace PromptDesk

variable (reviewSlaSeconds : Nat) (s : PromptDesk)

def setOrder (orderId : Nat) (result : Except Failure Database) : PromptDesk :=
  match result with
  | .ok db => { s with orders := update s.orders orderId (some db) }
  | .error _ => s

def next : PromptEvent → PromptDesk
  | .pressed orderId fromId chatId decision reviewers now =>
    match s.handleCallback reviewSlaSeconds orderId fromId chatId decision reviewers now with
    | .ok pending => { s with sending := pending :: s.sending }
    | .error _ => s
  | .delivered pending promptMessageId id now =>
    { s with
      prompts :=
        match s.prompts.create pending promptMessageId id now with
        | .ok prompts => prompts
        | .error _ => s.prompts
      sending := s.sending.erase pending }
  | .undelivered pending => { s with sending := s.sending.erase pending }
  | .replied message reviewers times => (s.handleReasonReply reviewSlaSeconds message reviewers times).1
  | .commanded fromId chatId orderId decision reasoning reviewers times =>
    (s.handleLegacyVerdict reviewSlaSeconds fromId chatId orderId decision reasoning reviewers times).1
  | .claimed orderId reviewerId reviewer identityHash conflicts now =>
    match s.orders orderId with
    | none => s
    | some db => s.setOrder orderId
      ((db.claimOrder reviewerId reviewer identityHash reviewSlaSeconds conflicts now).map (·.2))
  | .timedOut orderId maxDispatches now =>
    match s.orders orderId with
    | none => s
    | some db => s.setOrder orderId
      ((db.applyReviewTimeouts reviewSlaSeconds maxDispatches now).map (·.2))
  | .written orderId db => { s with orders := update s.orders orderId db }
  | .restarted => { s with sending := [] }

/-- A prompt that is delivered was being sent. -/
def admits : PromptEvent → Prop
  | .delivered pending _ _ _ => pending ∈ s.sending
  | .undelivered pending => pending ∈ s.sending
  | _ => True

end PromptDesk

def promptDesk (reviewSlaSeconds : Nat) : System PromptDesk PromptEvent :=
  ⟨PromptDesk.admits, PromptDesk.next reviewSlaSeconds⟩

section Rows

/-- The columns that are written once. -/
structure VerdictPrompt.Same (p p' : VerdictPrompt) : Prop where
  id : p'.id = p.id
  orderId : p'.orderId = p.orderId
  reviewerId : p'.reviewerId = p.reviewerId
  telegramUserId : p'.telegramUserId = p.telegramUserId
  telegramChatId : p'.telegramChatId = p.telegramChatId
  decision : p'.decision = p.decision
  promptMessageId : p'.promptMessageId = p.promptMessageId
  expiresAt : p'.expiresAt = p.expiresAt

/-- What may become of a row. -/
def VerdictPrompt.Retired (p p' : VerdictPrompt) : Prop :=
  p' = p ∨ p.status = .active ∧ p'.status ≠ .active ∧ p.Same p'

/-- Two rows are told apart by their ids and by their messages, and two active ones by their
order and reviewer. -/
structure VerdictPrompt.Apart (p p' : VerdictPrompt) : Prop where
  id : p.id ≠ p'.id
  message : ¬ (p.telegramChatId = p'.telegramChatId ∧ p.promptMessageId = p'.promptMessageId)
  active : p.status = .active → p'.status = .active →
    ¬ (p.orderId = p'.orderId ∧ p.reviewerId = p'.reviewerId)

variable {p p' q q' : VerdictPrompt} {prompts prompts' : VerdictPrompts}

theorem VerdictPrompt.Same.refl (p : VerdictPrompt) : p.Same p :=
  ⟨rfl, rfl, rfl, rfl, rfl, rfl, rfl, rfl⟩

theorem VerdictPrompt.Same.trans (first : p.Same p') (second : p'.Same q) : p.Same q :=
  ⟨second.id.trans first.id, second.orderId.trans first.orderId,
    second.reviewerId.trans first.reviewerId, second.telegramUserId.trans first.telegramUserId,
    second.telegramChatId.trans first.telegramChatId, second.decision.trans first.decision,
    second.promptMessageId.trans first.promptMessageId, second.expiresAt.trans first.expiresAt⟩

theorem VerdictPrompt.Retired.same (retired : p.Retired p') : p.Same p' := by
  rcases retired with rfl | ⟨-, -, same⟩
  · exact .refl p'
  · exact same

theorem VerdictPrompt.Retired.active (retired : p.Retired p') (active : p'.status = .active) :
    p' = p := by
  rcases retired with same | ⟨-, ended, -⟩
  · exact same
  · exact absurd active ended

theorem VerdictPrompt.Retired.final (retired : p.Retired p') (ended : p.status ≠ .active) :
    p' = p := by
  rcases retired with same | ⟨active, -, -⟩
  · exact same
  · exact absurd active ended

theorem VerdictPrompt.Apart.symm (apart : p.Apart p') : p'.Apart p :=
  ⟨fun same => apart.id same.symm, fun same => apart.message ⟨same.1.symm, same.2.symm⟩,
    fun active active' same => apart.active active' active ⟨same.1.symm, same.2.symm⟩⟩

instance : Std.Symm VerdictPrompt.Apart := ⟨fun _ _ apart => apart.symm⟩

theorem VerdictPrompt.Apart.retired (apart : p.Apart p') (retired : p.Retired q)
    (retired' : p'.Retired q') : q.Apart q' := by
  refine ⟨?_, ?_, fun active active' => ?_⟩
  · rw [retired.same.id, retired'.same.id]
    exact apart.id
  · rw [retired.same.telegramChatId, retired'.same.telegramChatId, retired.same.promptMessageId,
      retired'.same.promptMessageId]
    exact apart.message
  · cases retired.active active
    cases retired'.active active'
    exact apart.active active active'

/-- The rows are the same ones, some of them retired. -/
def VerdictPrompts.Retires (prompts prompts' : VerdictPrompts) : Prop :=
  ∃ f : VerdictPrompt → VerdictPrompt,
    (∀ p : VerdictPrompt, p.Retired (f p)) ∧ prompts' = prompts.map f

theorem VerdictPrompts.Retires.refl (prompts : VerdictPrompts) : prompts.Retires prompts :=
  ⟨id, fun _ => .inl rfl, (List.map_id prompts).symm⟩

theorem VerdictPrompts.retire_retires {selected : VerdictPrompt → Bool}
    {change : VerdictPrompt → VerdictPrompt}
    (ends : ∀ p, (change p).status ≠ .active ∧ p.Same (change p)) :
    prompts.Retires (prompts.retire selected change) := by
  refine ⟨fun p => if selected p && p.status = .active then change p else p, fun p => ?_, rfl⟩
  dsimp only
  split
  next active =>
    simp only [Bool.and_eq_true, decide_eq_true_eq] at active
    exact .inr ⟨active.2, ends p⟩
  next => exact .inl rfl

/-- Only the status and its time are written. -/
theorem VerdictPrompts.retire_status_retires {selected : VerdictPrompt → Bool}
    (status : VerdictPromptStatus) (retired : status ≠ .active)
    {change : VerdictPrompt → VerdictPrompt}
    (writes : ∀ p, change p = { p with
      status
      consumedAt := (change p).consumedAt
      supersededAt := (change p).supersededAt }) :
    prompts.Retires (prompts.retire selected change) := by
  refine retire_retires fun p => ?_
  rw [writes p]
  exact ⟨retired, rfl, rfl, rfl, rfl, rfl, rfl, rfl, rfl⟩

theorem VerdictPrompts.supersedeActive_retires {orderId : Nat} {reviewerId : ReviewerId}
    {timestamp : Timestamp} : prompts.Retires (prompts.supersedeActive orderId reviewerId timestamp) :=
  retire_status_retires .superseded (by decide) fun _ => rfl

theorem VerdictPrompts.consume_retires {promptId : Nat} {timestamp : Timestamp}
    (done : prompts.consume promptId timestamp = .ok prompts') : prompts.Retires prompts' := by
  unfold consume at done
  split at done
  next =>
    cases done
    exact retire_status_retires .consumed (by decide) fun _ => rfl
  next =>
    split at done
    next =>
      cases done
      exact .refl prompts
    next => cases done

theorem VerdictPrompts.lookupReply_retires {reviewerId : ReviewerId}
    {telegramUserId telegramChatId promptMessageId : Nat} {now : Timestamp} :
    prompts.Retires
      (prompts.lookupReply reviewerId telegramUserId telegramChatId promptMessageId now).2 := by
  unfold lookupReply
  split
  next => exact .refl prompts
  next row _ =>
    split
    next => exact .refl prompts
    split
    next => exact .refl prompts
    split
    next => exact retire_status_retires .expired (by decide) fun _ => rfl
    next => exact .refl prompts

/-- A reply finds the row of its quoted message: active, not expired, and the reviewer's own. -/
theorem VerdictPrompts.lookupReply_found {reviewerId : ReviewerId}
    {telegramUserId telegramChatId promptMessageId : Nat} {now : Timestamp}
    (found : (prompts.lookupReply reviewerId telegramUserId telegramChatId promptMessageId now).1 =
      .found p) :
    p ∈ prompts ∧ p.telegramChatId = telegramChatId ∧ p.promptMessageId = promptMessageId ∧
      p.reviewerId = reviewerId ∧ p.telegramUserId = telegramUserId ∧ p.status = .active ∧
      now < p.expiresAt := by
  unfold lookupReply at found
  split at found
  next => cases found
  next row here =>
    have quoted := List.find?_some here
    simp only [Bool.and_eq_true, decide_eq_true_eq] at quoted
    split at found
    next => cases found
    next own =>
      split at found
      next => cases found
      next active =>
        split at found
        next => cases found
        next unexpired =>
          cases found
          simp only [not_or, ne_eq, not_not] at own active
          exact ⟨List.mem_of_find?_eq_some here, quoted.1, quoted.2, own.1, own.2, active,
            Nat.not_le.mp unexpired⟩

/-- The row that a delivered prompt is written to. -/
def PendingPrompt.row (pending : PendingPrompt) (promptMessageId id : Nat) (createdAt : Timestamp) :
    VerdictPrompt where
  id
  orderId := pending.orderId
  reviewerId := pending.reviewer.id
  telegramUserId := pending.reviewer.telegramUserId
  telegramChatId := pending.reviewer.telegramChatId
  decision := pending.decision
  promptMessageId
  expiresAt := pending.expiresAt
  status := .active
  createdAt

/-- A new row comes after the others have been superseded, and is apart from them. -/
theorem VerdictPrompts.create_ok {pending : PendingPrompt} {promptMessageId id : Nat}
    {createdAt : Timestamp} (done : prompts.create pending promptMessageId id createdAt = .ok prompts') :
    ∃ others, prompts.Retires others ∧
      prompts' = others ++ [pending.row promptMessageId id createdAt] ∧
      ∀ p ∈ others, p.Apart (pending.row promptMessageId id createdAt) := by
  simp only [create, bind_ok, revertIf_ok, exists_const, pure_ok] at done
  obtain ⟨unique, rfl⟩ := done
  refine ⟨_, supersedeActive_retires, rfl, fun p member => ⟨?_, ?_, ?_⟩⟩
  · exact fun same => unique ⟨p, member, .inl same⟩
  · exact fun same => unique ⟨p, member, .inr same⟩
  · intro active _ same
    obtain ⟨old, _, rfl⟩ := List.mem_map.mp member
    split at active
    next => cases active
    next kept =>
      rw [if_neg kept] at same
      simp [same, active, PendingPrompt.row] at kept

end Rows

namespace PromptDesk

section Steps

variable {reviewSlaSeconds : Nat} {s : PromptDesk}

theorem finalized_retires {orderId : Nat} {reviewerId : ReviewerId} {promptId : Option Nat}
    {timestamp : Timestamp} : s.prompts.Retires (s.finalized orderId reviewerId promptId timestamp) := by
  unfold finalized
  split
  next promptId =>
    split
    next prompts done => exact VerdictPrompts.consume_retires done
    next => exact .refl s.prompts
  next => exact VerdictPrompts.supersedeActive_retires

theorem submitVerdictAndNotify_retires {reviewer : Reviewer} {orderId : Nat}
    {decision : ReviewDecision} {reasoning : String} {promptId : Option Nat} {times : ReplyTimes} :
    s.prompts.Retires (s.submitVerdictAndNotify reviewSlaSeconds reviewer orderId decision reasoning
      promptId times).1.prompts := by
  unfold submitVerdictAndNotify
  split
  next => exact .refl s.prompts
  next =>
    split
    next => exact .refl s.prompts
    next => exact finalized_retires

theorem handleReasonReply_retires {message : ReasonMessage} {reviewers : List Reviewer}
    {times : ReplyTimes} :
    s.prompts.Retires (s.handleReasonReply reviewSlaSeconds message reviewers times).1.prompts := by
  unfold handleReasonReply
  split
  next => exact .refl s.prompts
  next reviewer _ =>
    have looked := @VerdictPrompts.lookupReply_retires s.prompts reviewer.id message.fromId
      message.chatId message.replyTo times.lookedUpAt
    split
    next same =>
      rw [same] at looked
      exact looked
    next same =>
      rw [same] at looked
      exact looked
    next same =>
      rw [same] at looked
      exact looked
    next =>
      dsimp only
      split
      next => exact .refl s.prompts
      split
      next => exact .refl s.prompts
      split
      next => exact .refl s.prompts
      next => exact submitVerdictAndNotify_retires

/-- One step retires rows, and may write a new one for a prompt that was delivered. -/
theorem step_prompts {event : PromptEvent} :
    s.prompts.Retires (s.next reviewSlaSeconds event).prompts ∨
      ∃ pending promptMessageId id now others,
        event = .delivered pending promptMessageId id now ∧ s.prompts.Retires others ∧
        (s.next reviewSlaSeconds event).prompts = others ++ [pending.row promptMessageId id now] ∧
        ∀ p ∈ others, p.Apart (pending.row promptMessageId id now) := by
  have same : s.prompts.Retires s.prompts := .refl s.prompts
  -- prompts appear in one way, by a delivered request for a reason
  cases event with
  | pressed orderId fromId chatId decision reviewers now =>
    refine .inl ?_
    simp only [next]
    split <;> exact same
  | delivered pending promptMessageId id now =>
    cases done : s.prompts.create pending promptMessageId id now with
    | error failure =>
      refine .inl ?_
      simp only [next, done]
      exact same
    | ok prompts =>
      obtain ⟨others, retires, rfl, apart⟩ := VerdictPrompts.create_ok done
      refine .inr ⟨pending, promptMessageId, id, now, others, rfl, retires, ?_, apart⟩
      simp only [next, done]
  | undelivered => exact .inl same
  | replied => exact .inl handleReasonReply_retires
  | commanded fromId chatId orderId decision reasoning reviewers times =>
    refine .inl ?_
    simp only [next, handleLegacyVerdict]
    split
    next => exact same
    next => exact submitVerdictAndNotify_retires
  | claimed orderId reviewerId reviewer identityHash conflicts now =>
    refine .inl ?_
    simp only [next, setOrder]
    split
    next => exact same
    next => split <;> exact same
  | timedOut orderId maxDispatches now =>
    refine .inl ?_
    simp only [next, setOrder]
    split
    next => exact same
    next => split <;> exact same
  | written => exact .inl same
  | restarted => exact .inl same

/-- An order that a reply changes gets the verdict of the quoted prompt. -/
theorem handleReasonReply_orders {message : ReasonMessage} {reviewers : List Reviewer}
    {times : ReplyTimes} {orderId : Nat}
    (changed : (s.handleReasonReply reviewSlaSeconds message reviewers times).1.orders orderId ≠
      s.orders orderId) :
    ∃ reviewer prompt db order db',
      messageReviewer reviewers message.fromId message.chatId = .ok reviewer ∧
      (s.prompts.lookupReply reviewer.id message.fromId message.chatId message.replyTo
        times.lookedUpAt).1 = .found prompt ∧ prompt.orderId = orderId ∧
      s.orders orderId = some db ∧ db.order.state = .claimed ∧
      db.order.reviewerId = some reviewer.id ∧
      db.submitVerdict reviewer.id prompt.decision (trim message.text) reviewSlaSeconds
        times.decidedAt = .ok (order, db') ∧
      (s.handleReasonReply reviewSlaSeconds message reviewers times).1.orders orderId = some db' := by
  unfold handleReasonReply at changed ⊢
  split at changed
  next => exact absurd rfl changed
  next reviewer known =>
    split at changed
    next => exact absurd rfl changed
    next => exact absurd rfl changed
    next => exact absurd rfl changed
    next prompt rest found =>
      dsimp only at changed
      split at changed
      next => exact absurd rfl changed
      next long =>
        split at changed
        next => exact absurd rfl changed
        next db here =>
          split at changed
          next => exact absurd rfl changed
          next awaiting =>
            simp only [known, if_neg long, if_neg awaiting]
            unfold submitVerdictAndNotify at changed ⊢
            simp only [here] at changed ⊢
            split at changed
            next => exact absurd rfl changed
            next order db' done =>
              have own : prompt.orderId = orderId := by
                by_contra other
                exact changed (update_of_ne (Ne.symm other) _ _)
              subst own
              simp only [not_or, ne_eq, not_not] at awaiting
              refine ⟨reviewer, prompt, db, order, db', rfl, by rw [found], rfl, here, awaiting.1,
                awaiting.2, done, ?_⟩
              exact update_self _ _ _

end Steps

section History

variable {reviewSlaSeconds : Nat} {s : PromptDesk} {event : PromptEvent}
  {history : List (PromptDesk × PromptEvent)}

/-- The row was written when a prompt was delivered. -/
def Written (history : List (PromptDesk × PromptEvent)) (p : VerdictPrompt) : Prop :=
  ∃ entry ∈ history, ∃ pending promptMessageId id now,
    entry.2 = .delivered pending promptMessageId id now ∧ (pending.row promptMessageId id now).Same p

/-- The rows are apart from each other, and each was written by a delivery. -/
structure Unambiguous (history : List (PromptDesk × PromptEvent)) (s : PromptDesk) : Prop where
  apart : s.prompts.Pairwise VerdictPrompt.Apart
  written : ∀ p ∈ s.prompts, Written history p

theorem Written.later {p : VerdictPrompt} {entry : PromptDesk × PromptEvent}
    (written : Written history p) : Written (entry :: history) p := by
  obtain ⟨old, member, wrote⟩ := written
  exact ⟨old, List.mem_cons_of_mem entry member, wrote⟩

theorem Written.same {p p' : VerdictPrompt} (written : Written history p) (same : p.Same p') :
    Written history p' := by
  obtain ⟨entry, member, pending, promptMessageId, id, now, delivered, row⟩ := written
  exact ⟨entry, member, pending, promptMessageId, id, now, delivered, row.trans same⟩

theorem Unambiguous.unique (unambiguous : Unambiguous history s) {p p' : VerdictPrompt}
    (member : p ∈ s.prompts) (member' : p' ∈ s.prompts) : p = p' ∨ p.Apart p' := by
  by_cases same : p = p'
  · exact .inl same
  · exact .inr (unambiguous.apart.forall member member' same)

/-- Rows stay apart when some are retired. -/
theorem Unambiguous.retires (unambiguous : Unambiguous history s) {prompts : VerdictPrompts}
    (retires : s.prompts.Retires prompts) :
    prompts.Pairwise VerdictPrompt.Apart ∧ ∀ p ∈ prompts, Written history p := by
  obtain ⟨f, retired, rfl⟩ := retires
  refine ⟨List.pairwise_map.mpr (unambiguous.apart.imp ?_), fun p member => ?_⟩
  · intro p p' apart
    exact apart.retired (retired p) (retired p')
  · obtain ⟨old, before, rfl⟩ := List.mem_map.mp member
    exact (unambiguous.written old before).same (retired old).same

theorem unambiguous_step (unambiguous : Unambiguous history s) :
    Unambiguous ((s, event) :: history) (s.next reviewSlaSeconds event) := by
  rcases @step_prompts reviewSlaSeconds s event with
    retires | ⟨pending, promptMessageId, id, now, others, delivered, retires, same, apart⟩
  · obtain ⟨stays, written⟩ := unambiguous.retires retires
    exact ⟨stays, fun p member => (written p member).later⟩
  · obtain ⟨stays, written⟩ := unambiguous.retires retires
    refine ⟨?_, fun p member => ?_⟩
    · rw [same, List.pairwise_append]
      refine ⟨stays, List.pairwise_singleton _ _, fun p member p' new => ?_⟩
      rw [List.mem_singleton.mp new]
      exact apart p member
    · rw [same, List.mem_append, List.mem_singleton] at member
      rcases member with member | rfl
      · exact (written p member).later
      · exact ⟨(s, event), List.mem_cons_self, pending, promptMessageId, id, now, delivered, .refl _⟩

theorem unambiguous_run {orders : Nat → Option Database}
    (run : Run (promptDesk reviewSlaSeconds) { orders } history s) : Unambiguous history s := by
  refine run.historyInvariant (fun history s => Unambiguous history s) ?_ ?_
  · exact ⟨List.Pairwise.nil, fun p member => absurd member List.not_mem_nil⟩
  · intro history s event _ unambiguous _
    exact unambiguous_step unambiguous

/-- A row that is no longer active is kept as it is. -/
theorem ended_step {p : VerdictPrompt} (member : p ∈ s.prompts) (ended : p.status ≠ .active) :
    p ∈ (s.next reviewSlaSeconds event).prompts := by
  have kept {prompts : VerdictPrompts} (retires : s.prompts.Retires prompts) : p ∈ prompts := by
    obtain ⟨f, retired, rfl⟩ := retires
    exact List.mem_map.mpr ⟨p, member, (retired p).final ended⟩
  rcases @step_prompts reviewSlaSeconds s event with
    retires | ⟨pending, promptMessageId, id, now, others, -, retires, same, -⟩
  · exact kept retires
  · rw [same]
    exact List.mem_append_left _ (kept retires)

/-- The row that a reply's verdict comes from. -/
structure Quoted (history : List (PromptDesk × PromptEvent)) (s : PromptDesk)
    (message : ReasonMessage) (reviewer : Reviewer) (times : ReplyTimes) (orderId : Nat)
    (prompt : VerdictPrompt) : Prop where
  stored : prompt ∈ s.prompts
  chat : prompt.telegramChatId = message.chatId
  quoted : prompt.promptMessageId = message.replyTo
  only : ∀ p ∈ s.prompts, p.telegramChatId = message.chatId →
    p.promptMessageId = message.replyTo → p = prompt
  active : prompt.status = .active
  unexpired : times.lookedUpAt < prompt.expiresAt
  reviewerId : prompt.reviewerId = reviewer.id
  telegramUserId : prompt.telegramUserId = message.fromId
  order : prompt.orderId = orderId
  written : Written history prompt

/-- A reply that changes an order records the decision of the prompt that it quotes. -/
theorem handleReasonReply_quoted (unambiguous : Unambiguous history s) {message : ReasonMessage}
    {reviewers : List Reviewer} {times : ReplyTimes} {orderId : Nat}
    (changed : (s.handleReasonReply reviewSlaSeconds message reviewers times).1.orders orderId ≠
      s.orders orderId) :
    ∃ reviewer prompt db,
      messageReviewer reviewers message.fromId message.chatId = .ok reviewer ∧
      Quoted history s message reviewer times orderId prompt ∧
      (s.handleReasonReply reviewSlaSeconds message reviewers times).1.orders orderId = some db ∧
      db.order.state = .verdictSubmitted ∧ db.order.reviewerId = some reviewer.id ∧
      db.order.decision = some prompt.decision := by
  obtain ⟨reviewer, prompt, db, order, db', known, found, same, here, state, assigned, done, now⟩ :=
    handleReasonReply_orders changed
  obtain ⟨member, chat, quoted, reviewerId, user, active, unexpired⟩ :=
    VerdictPrompts.lookupReply_found found
  refine ⟨reviewer, prompt, db', known, ?_, now, ?_⟩
  · refine ⟨member, chat, quoted, fun p other chat' quoted' => ?_, active, unexpired, reviewerId,
      user, same, unambiguous.written prompt member⟩
    rcases unambiguous.unique other member with equal | apart
    · exact equal
    · exact absurd ⟨chat'.trans chat.symm, quoted'.trans quoted.symm⟩ apart.message
  · rcases submitVerdict_ok done with rfl | ⟨-, -, rfl⟩
    · rw [now, here] at changed
      exact absurd rfl changed
    · exact ⟨rfl, assigned, rfl⟩

/-- Two active prompts of one order and reviewer are the same; a reply that changes an order
records the decision of the prompt it quotes, which is active, unexpired and the reviewer's own;
and a prompt that is not active stays as it is. -/
theorem verdict_prompts {orders : Nat → Option Database}
    (run : Run (promptDesk reviewSlaSeconds) { orders } history s) :
    (∀ p ∈ s.prompts, ∀ p' ∈ s.prompts, p.status = .active → p'.status = .active →
      p.orderId = p'.orderId → p.reviewerId = p'.reviewerId → p = p') ∧
    (∀ later earlier before message reviewers times orderId,
      history = later ++ (before, .replied message reviewers times) :: earlier →
      (before.handleReasonReply reviewSlaSeconds message reviewers times).1.orders orderId ≠
        before.orders orderId →
      ∃ reviewer prompt db,
        messageReviewer reviewers message.fromId message.chatId = .ok reviewer ∧
        Quoted earlier before message reviewer times orderId prompt ∧
        (before.handleReasonReply reviewSlaSeconds message reviewers times).1.orders orderId =
          some db ∧
        db.order.state = .verdictSubmitted ∧ db.order.reviewerId = some reviewer.id ∧
        db.order.decision = some prompt.decision) ∧
    (∀ entry ∈ history, ∀ p ∈ entry.1.prompts, p.status ≠ .active →
      p ∈ s.prompts ∧ ∀ p' ∈ s.prompts, p'.id = p.id → p' = p) := by
  have unambiguous := unambiguous_run run
  refine ⟨fun p member p' member' active active' order reviewer => ?_,
    fun later earlier before message reviewers times orderId same changed => ?_,
    fun entry visited p member ended => ?_⟩
  · -- two rows are the same or have nothing in common that would confuse them
    rcases unambiguous.unique member member' with equal | apart
    · exact equal
    · exact absurd ⟨order, reviewer⟩ (apart.active active active')
  · subst same
    obtain ⟨reached, -, -⟩ := run.cut
    exact handleReasonReply_quoted (unambiguous_run reached) changed
  · obtain ⟨_, _, _, _, _, after⟩ := run.of_mem visited
    have kept : p ∈ s.prompts := by
      refine after.invariant (fun s => p ∈ s.prompts) (ended_step member ended) ?_
      intro s event member _
      exact ended_step member ended
    refine ⟨kept, fun p' member' same => ?_⟩
    rcases unambiguous.unique member' kept with equal | apart
    · exact equal
    · exact absurd same apart.id

end History

end PromptDesk

namespace PromptWalkthrough

open Walkthrough

/-- An order that the reviewer of the walkthrough has claimed. -/
def claimed : Database where
  order := {
    purchase := opening.purchase
    circle := fun _ => { key := 0 }
    state := .claimed
    reviewerId := some reviewer.id }

def orders : Nat → Option Database := update (fun _ => none) 1 (some claimed)

def pending (decision : ReviewDecision) : PendingPrompt := ⟨1, reviewer, decision, 86400000⟩

def reply : ReasonMessage := ⟨50, 51, "  the report is empty", 101⟩

def times : ReplyTimes := ⟨4000, 4000, 4000⟩

/-- Both buttons, both prompts, and then the reply to the second prompt. -/
def events : List PromptEvent :=
  [.pressed 1 50 (some 51) .approve [reviewer] 1000, .pressed 1 50 (some 51) .reject [reviewer] 1100,
    .delivered (pending .approve) 100 1 2000, .delivered (pending .reject) 101 2 3000,
    .replied reply [reviewer] times]

def desk : PromptDesk := (promptDesk 86400).replay { orders } (events.take 4)

end PromptWalkthrough

open PromptWalkthrough Walkthrough in
/-- The reply records the decision of the second button, the first prompt is superseded. -/
theorem verdict_prompts_walkthrough :
    ∃ db, (desk.handleReasonReply 86400 reply [reviewer] times).1.orders 1 = some db ∧
      db.order.state = .verdictSubmitted ∧ db.order.decision = some .reject ∧
      (pending .approve).row 100 1 2000 ∉ desk.prompts := by
  have run := (promptDesk 86400).replay_run (.refl : Run (promptDesk 86400) { orders } [] { orders })
    events ⟨trivial, trivial, (by decide : _ ∈ [pending .reject, pending .approve]),
      (by decide : _ ∈ [pending .reject]), trivial, trivial⟩
  have changed : (desk.handleReasonReply 86400 reply [reviewer] times).1.orders 1 ≠
      desk.orders 1 := by
    intro same
    exact absurd (congrArg (Option.map (·.order.state)) same) (by decide +kernel)
  have second : (pending .reject).row 101 2 3000 ∈ desk.prompts := by decide
  obtain ⟨-, replied, -⟩ := PromptDesk.verdict_prompts run
  obtain ⟨_, prompt, db, -, quoted, now, state, -, decision⟩ :=
    replied [] _ desk reply [reviewer] times 1 rfl changed
  have same := quoted.only _ second rfl rfl
  rw [← same] at decision
  exact ⟨db, now, state, decision, by decide⟩

end VapiArc.Review
