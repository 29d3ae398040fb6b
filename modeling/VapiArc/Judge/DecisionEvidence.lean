import VapiArc.Judge.Handover
import VapiArc.Judge.WatcherCoverage
import VapiArc.Review.Gateway

/-!
# Evidence before decisions

A decision is sent to the router only when the exchange holds the evidence that its hash stands
for. A job whose client wants a human is shown to no model, and no decision settles it.
-/
namespace VapiArc.Judge

open Checked Async Transition
open Review (Hex Failure ReasonCode Timestamp hashText humanLaneReason ValidatedReviewJob
  verifiedEscalationJob)

/-- The evidence is about the job and what was delivered for it. -/
def AIEvidence.About (evidence : AIEvidence) (job : SubmittedJob) : Prop :=
  evidence.jobId = toString job.id ∧ evidence.deliverableHash = hashText job.deliverable

section Submissions

variable (lib : JudgeLibrary) (records : AIEvidenceRecords) (job : SubmittedJob)

/-- What the exchange holds of the decision that a call carries out. -/
def RouterCall.Evidenced : RouterCall → Prop
  | .submitAIVerdict jobId approve confidenceBP evidenceHash =>
    jobId = job.id ∧ ∃ evidence, Held lib records evidenceHash evidence ∧ evidence.About job ∧
      evidence.reasonCode = .policyPassed ∧ evidence.verdict.approve = approve ∧
      evidence.verdict.confidenceBP = confidenceBP
  | .escalate jobId reasonHash =>
    jobId = job.id ∧ (reasonHash = lib.keccak256 humanLaneReason ∨
      ∃ evidence, Held lib records reasonHash evidence ∧ evidence.About job ∧
        evidence.reasonCode.isAIEscalation = true)

variable {lib records job}

theorem RouterCall.Evidenced.extends {records' : AIEvidenceRecords} {call : RouterCall}
    (evidenced : call.Evidenced lib records job) (more : Extends records records') :
    call.Evidenced lib records' job := by
  cases call with
  | submitAIVerdict jobId approve confidenceBP evidenceHash =>
    obtain ⟨same, evidence, held, rest⟩ := evidenced
    exact ⟨same, evidence, held.extends more, rest⟩
  | escalate jobId reasonHash =>
    obtain ⟨same, human | ⟨evidence, held, rest⟩⟩ := evidenced
    · exact ⟨same, .inl human⟩
    · exact ⟨same, .inr ⟨evidence, held.extends more, rest⟩⟩

end Submissions

section Contracts

variable (lib : JudgeLibrary) (config : JudgeConfig) (internalToken : Option String)
  (unchanged : Nat → Prop)

/-- The model is not asked about the job, and all that is sent for it is the request for a human. -/
structure JudgeStore.Spared (s : JudgeStore) (jobId : Nat) : Prop where
  prompted : ∀ prompt ∈ s.prompted, prompt.1.id ≠ jobId
  sent : ∀ submission ∈ s.sent, submission.job.id = jobId →
    submission.call = .escalate jobId (lib.keccak256 humanLaneReason)

/-- The model is shown the job's text and a deliverable that the job's commitment stands for. -/
def Framed (job : JudgedJob) (request : ModelRequest) : Prop :=
  ∃ content, request.text = promptText job.description content ∧
    request.system = judgeSystemPrompt ∧ content.utf8ByteSize ≤ maxDeliverableBytes ∧
    computeDeliverableHash lib.toLibrary content = job.deliverable

structure JudgeStore.Backed (s : JudgeStore) : Prop where
  answered : ∀ entry ∈ s.answered, entry.2 < 300 → Handed lib s.records entry.1
  sent : ∀ submission ∈ s.sent, submission.call.Evidenced lib s.records submission.job
  spared : config.mode.fixtureMode = false → ∀ jobId, unchanged jobId →
    s.lanes jobId = Judging.reviewLaneHumanOnly → s.Spared lib jobId
  framed : ∀ prompt ∈ s.prompted, Framed lib prompt.1 prompt.2
  dry : config.mode.dryRun = true → s.prompted = [] ∧ s.sent = []

/-- Tables keep their rows, and some clients leave the lanes of their jobs alone. -/
structure JudgeStore.Later (s s' : JudgeStore) : Prop where
  records : Extends s.records s'.records
  lanes : ∀ jobId, unchanged jobId → s'.lanes jobId = s.lanes jobId

def judgeContract : Contract JudgeStore JudgeRequest where
  invariant := JudgeStore.Backed lib config unchanged
  pending _ _ := True
  guarantee := JudgeStore.Later unchanged
  awaiting := JudgeStore.Later unchanged
  anytime := JudgeStore.Later unchanged
  guarantee_refl s := ⟨.refl s.records, fun _ _ => rfl⟩
  awaiting_refl s := ⟨.refl s.records, fun _ _ => rfl⟩
  awaiting_trans _ _ _ first second := ⟨first.records.trans second.records,
    fun jobId fixed => (second.lanes jobId fixed).trans (first.lanes jobId fixed)⟩
  anytime_refl s := ⟨.refl s.records, fun _ _ => rfl⟩
  anytime_trans _ _ _ first second := ⟨first.records.trans second.records,
    fun jobId fixed => (second.lanes jobId fixed).trans (first.lanes jobId fixed)⟩

/-- Requests to the exchange and choices of lanes keep the contract. -/
theorem judge_outside :
    Outside (judge lib config internalToken unchanged) (judgeContract lib config unchanged) := by
  have later (s : JudgeStore) (event : JudgeOutside)
      (permitted : (judge lib config internalToken unchanged).permits s event) :
      JudgeStore.Later unchanged s (s.outside lib internalToken event) := by
    cases event with
    | post request receivedAt =>
      exact ⟨(postAIEvidence_spec request receivedAt s.records).1, fun _ _ => rfl⟩
    | setLane jobId lane =>
      refine ⟨.refl _, fun other fixed => Function.update_of_ne ?_ _ _⟩
      rintro rfl
      exact permitted fixed
  refine ⟨fun s event kept permitted => ?_, fun s event _ permitted => later s event permitted,
    fun s event _ permitted => later s event permitted,
    fun s event _ permitted _ => later s event permitted⟩
  have more := later s event permitted
  cases event with
  | post request receivedAt =>
    refine ⟨?_, ?_, fun live other fixed human => ?_, kept.framed, kept.dry⟩
    · intro entry member success
      rcases List.mem_cons.mp member with rfl | before
      · exact (postAIEvidence_spec request receivedAt s.records).2 success
      · exact (kept.answered entry before success).extends more.records
    · intro submission member
      exact (kept.sent submission member).extends more.records
    · obtain ⟨prompted, sent⟩ := kept.spared live other fixed human
      exact ⟨prompted, sent⟩
  | setLane jobId lane =>
    refine ⟨kept.answered, kept.sent, fun live other fixed human => ?_, kept.framed, kept.dry⟩
    have before : s.lanes other = Judging.reviewLaneHumanOnly :=
      (more.lanes other fixed).symm.trans human
    obtain ⟨prompted, sent⟩ := kept.spared live other fixed before
    exact ⟨prompted, sent⟩

end Contracts

namespace Judging

variable {lib : JudgeLibrary} {config : JudgeConfig} {internalToken : Option String}
  {unchanged : Nat → Prop} {α : Type} {P : JudgeStore → Prop}

abbrev Meets (lib : JudgeLibrary) (config : JudgeConfig) (internalToken : Option String)
    (unchanged : Nat → Prop) (P : JudgeStore → Prop) (x : Judging α) (Q : α → JudgeStore → Prop) :
    Prop :=
  Triple (judge lib config internalToken unchanged) (judgeContract lib config unchanged) P x Q
    fun _ _ => True

/-- What holds lasts, whatever others do. -/
abbrev Lasts (lib : JudgeLibrary) (config : JudgeConfig) (unchanged : Nat → Prop)
    (P : JudgeStore → Prop) : Prop :=
  Stable (judgeContract lib config unchanged) P

theorem lasts_fact (fact : Prop) : Lasts lib config unchanged fun _ => fact := Stable.fact fact

theorem check_meets {result : Except Failure α} :
    Meets lib config internalToken unchanged P (check result)
      fun a s => result = .ok a ∧ P s := by
  cases result with
  | ok a => exact .pure_ fun s here => ⟨rfl, here⟩
  | error failure => exact .throw_ fun _ _ => trivial

theorem clock_meets (lasts : Lasts lib config unchanged P) :
    Meets lib config internalToken unchanged P clock fun _ s => P s := by
  refine .transaction_ lasts ?_ (fun _ _ _ _ _ _ _ => trivial)
  intro s here kept inputs _ now s' done
  cases done
  exact ⟨⟨.refl _, fun _ _ => rfl⟩, kept, here⟩

/-- A call that leaves the store alone, with its reply; what lasts holds after a failure too. -/
theorem ask_keeps {request : JudgeRequest} {expected : JudgeReply → Option α}
    (lasts : Lasts lib config unchanged P) (silent : ∀ s : JudgeStore, s.issue request = s) :
    Triple (judge lib config internalToken unchanged) (judgeContract lib config unchanged) P
      (ask request expected) (fun a s => P s ∧ s.Backed lib config unchanged ∧
        ∃ reply, judgeAnswers request s (.ok reply) ∧ expected reply = some a) fun _ s => P s := by
  have later (s s' : JudgeStore) (here : P s) (kept : s'.Backed lib config unchanged)
      (more : JudgeStore.Later unchanged (s.issue request) s') : P s' := by
    rw [silent] at more
    exact lasts s s' here more kept
  refine .bind_ (M := fun reply s => P s ∧ s.Backed lib config unchanged ∧
    judgeAnswers request s (.ok reply)) (.await_ lasts ?_ (fun _ _ _ _ _ _ => trivial) ?_ ?_)
      fun reply => ?_
  · intro s _ kept
    change JudgeStore.Later unchanged s (s.issue request) ∧
      (s.issue request).Backed lib config unchanged
    rw [silent]
    exact ⟨⟨.refl _, fun _ _ => rfl⟩, kept⟩
  · exact fun s s' here _ more kept' reply given => ⟨later s s' here kept' more, kept', given⟩
  · exact fun s s' here _ more kept' _ _ => later s s' here kept' more
  · cases found : expected reply with
    | some a =>
      refine .pure_ fun s answered => ?_
      obtain ⟨here, kept, given⟩ := answered
      exact ⟨here, kept, reply, given, found⟩
    | none => exact .throw_ fun _ answered => answered.1

theorem ask_meets {request : JudgeRequest} {expected : JudgeReply → Option α}
    (lasts : Lasts lib config unchanged P) (silent : ∀ s : JudgeStore, s.issue request = s) :
    Meets lib config internalToken unchanged P (ask request expected) fun a s =>
      P s ∧ s.Backed lib config unchanged ∧
        ∃ reply, judgeAnswers request s (.ok reply) ∧ expected reply = some a :=
  (ask_keeps lasts silent).weaken (fun _ => id) (fun _ _ => id) fun _ _ _ => trivial

/-- A call that is recorded. -/
theorem issue_meets {request : JudgeRequest} {expected : JudgeReply → Option α}
    (lasts : Lasts lib config unchanged P)
    (issued : ∀ s : JudgeStore, P s → s.Backed lib config unchanged →
      (s.issue request).Backed lib config unchanged)
    (same : ∀ s : JudgeStore, (s.issue request).records = s.records ∧
      (s.issue request).lanes = s.lanes) (after : ∀ s : JudgeStore, P s → P (s.issue request)) :
    Meets lib config internalToken unchanged P (ask request expected) fun _ s => P s := by
  have later (s : JudgeStore) : JudgeStore.Later unchanged s (s.issue request) := by
    obtain ⟨records, lanes⟩ := same s
    refine ⟨?_, fun jobId _ => congrFun lanes jobId⟩
    rw [records]
    exact .refl _
  refine .bind_ (M := fun _ s => P s) (.await_ lasts (fun s here kept => ⟨later s, issued s here kept⟩)
    (fun _ _ _ _ _ _ => trivial) ?_ (fun _ _ _ _ _ _ _ _ => trivial)) fun reply => ?_
  · intro s s' here _ more kept' _ _
    exact lasts _ s' (after s here) more kept'
  · cases expected reply with
    | some a => exact .pure_ fun _ here => here
    | none => exact .throw_ fun _ _ => trivial

/-- The model may be asked about the job: its client does not insist on a human. -/
def Judgeable (config : JudgeConfig) (unchanged : Nat → Prop) (jobId : Nat) (s : JudgeStore) : Prop :=
  config.mode.fixtureMode = false → unchanged jobId → s.lanes jobId ≠ reviewLaneHumanOnly

theorem lasts_judgeable {jobId : Nat} :
    Lasts lib config unchanged (Judgeable config unchanged jobId) := by
  intro s s' holds more _ live fixed
  rw [more.lanes jobId fixed]
  exact holds live fixed

theorem wantsHuman_meets (jobId : Nat) :
    Meets lib config internalToken unchanged (fun _ => True) (wantsHuman lib config jobId)
      fun human s => human = false → Judgeable config unchanged jobId s := by
  unfold wantsHuman
  split
  next fixture =>
    refine .pure_ fun s _ _ live => ?_
    rw [fixture] at live
    cases live
  next =>
    refine .bind_ (M := fun lane s => lane = s.lanes jobId) ?_ fun lane => .pure_ fun s same judged _ _ => ?_
    · refine .bind_ (check_meets (P := fun _ => True)) fun _ => ?_
      refine (ask_meets (lasts_fact _) fun _ => rfl).weaken (fun _ here => here) ?_ fun _ _ => id
      rintro lane s ⟨-, -, reply, given, found⟩
      cases reply with
      | lane answered =>
        cases found
        exact given
      | _ => cases found
    · rw [← same]
      exact of_decide_eq_false judged

theorem submitDecision_meets {job : SubmittedJob} {action : GateAction} {verdict : Verdict} {hash : Hex} :
    Meets lib config internalToken unchanged
      (fun s => (routerCall job.id action verdict hash).Evidenced lib s.records job ∧
        (Judgeable config unchanged job.id s ∨
          routerCall job.id action verdict hash =
            .escalate job.id (lib.keccak256 humanLaneReason)))
      (submitDecision lib config job action verdict hash) fun _ _ => True := by
  unfold submitDecision
  split
  next => exact .pure_ fun _ _ => trivial
  next live =>
    refine .bind_ check_meets fun raw => .bind_ check_meets fun _ => .bind_ check_meets fun _ => ?_
    suffices sending : Meets lib config internalToken unchanged (fun s =>
        (routerCall job.id action verdict hash).Evidenced lib s.records job ∧
        (Judgeable config unchanged job.id s ∨
          routerCall job.id action verdict hash =
            .escalate job.id (lib.keccak256 humanLaneReason))) _ fun _ _ => True from
      sending.weaken (fun _ here => here.2.2.2) (fun _ _ => id) fun _ _ => id
    refine .bind_ (issue_meets ?_ ?_ (fun _ => ⟨rfl, rfl⟩) fun _ here => here) fun _ =>
      .bind_ (M := fun _ _ => True) ?_ fun _ =>
        check_meets.weaken (fun _ here => here) (fun _ _ _ => trivial) fun _ _ => id
    · -- what the exchange holds lasts, and so does the lane
      rintro s s' ⟨evidenced, lane⟩ more kept
      exact ⟨evidenced.extends more.records, lane.imp_left fun judged =>
        lasts_judgeable s s' judged more kept⟩
    · rintro s ⟨evidenced, lane⟩ kept
      refine ⟨kept.answered, ?_, ?_, kept.framed, ?_⟩
      · intro submission member
        rcases List.mem_cons.mp member with rfl | before
        · exact evidenced
        · exact kept.sent submission before
      · intro real jobId fixed human
        obtain ⟨prompted, sent⟩ := kept.spared real jobId fixed human
        refine ⟨prompted, fun submission member same => ?_⟩
        rcases List.mem_cons.mp member with rfl | before
        · subst same
          rcases lane with judged | asked
          · exact absurd human (judged real fixed)
          · exact asked
        · exact sent submission before same
      · intro dry
        exact absurd dry live
    · exact (ask_meets (lasts_fact True) fun _ => rfl).weaken (fun _ _ => trivial)
        (fun _ _ _ => trivial) fun _ _ => id

theorem writeEvidence_meets {input : WriteEvidenceInput} (lasts : Lasts lib config unchanged P) :
    Meets lib config internalToken unchanged P (writeEvidence lib input)
      fun written s => (∃ now, written = Judge.writeEvidence lib input now) ∧ P s := by
  refine .bind_ (clock_meets lasts) fun now => .bind_ (ask_meets lasts fun _ => rfl) fun _ =>
    .pure_ fun s here => ⟨⟨now, rfl⟩, here.1⟩

theorem processHumanLane_meets (job : SubmittedJob) :
    Meets lib config internalToken unchanged (fun _ => True)
      (processHumanLane lib config job) fun _ _ => True := by
  refine .bind_ (writeEvidence_meets (lasts_fact _)) fun written => ?_
  exact submitDecision_meets.weaken (fun _ _ => ⟨⟨rfl, .inl rfl⟩, .inr rfl⟩) (fun _ _ => id)
    fun _ _ => id

theorem judgeDeliverable_meets (job : JudgedJob) {content : String}
    (hashes : computeDeliverableHash lib.toLibrary content = job.deliverable) :
    Meets lib config internalToken unchanged (Judgeable config unchanged job.id)
      (judgeDeliverable config job content)
      fun _ s => Judgeable config unchanged job.id s := by
  unfold judgeDeliverable
  split
  next => exact .pure_ fun _ here => here
  next small =>
  split
  next => exact .pure_ fun _ here => here
  next live =>
    refine .bind_ check_meets fun _ => .bind_ ((issue_meets lasts_judgeable ?_ ?_ ?_).weaken
      (fun _ here => here.2) (fun _ _ => id) fun _ _ => id) fun content =>
        check_meets.weaken (fun _ here => here) (fun _ _ here => here.2) fun _ _ => id
    rotate_left
    · exact fun _ => ⟨rfl, rfl⟩
    · exact fun _ here => here
    intro s judged kept
    refine ⟨kept.answered, kept.sent, fun real jobId fixed human => ?_, ?_, fun dry => absurd dry live⟩
    · obtain ⟨prompted, sent⟩ := kept.spared real jobId fixed human
      refine ⟨fun prompt member => ?_, sent⟩
      rcases List.mem_cons.mp member with rfl | before
      · rintro rfl
        exact judged real fixed human
      · exact prompted prompt before
    · intro prompt member
      rcases List.mem_cons.mp member with rfl | before
      · exact ⟨content, rfl, rfl, not_lt.mp small, hashes⟩
      · exact kept.framed prompt before

theorem loadDeliverable_meets (job : SubmittedJob) (lasts : Lasts lib config unchanged P) :
    Meets lib config internalToken unchanged P (loadDeliverable lib job) fun deliverable s =>
      (∃ text, Judge.loadDeliverable lib.toLibrary (.ok text) (some job.deliverable) =
        .ok deliverable) ∧ P s := by
  refine .bind_ ((ask_meets lasts fun _ => rfl).weaken (fun _ => id) (fun _ _ here => here.1)
    fun _ _ => id) fun text => check_meets.weaken (fun _ => id) ?_ fun _ _ => id
  rintro deliverable s ⟨loaded, here⟩
  exact ⟨⟨text, loaded⟩, here⟩

/-- Only a deliverable that is in order reaches the model. -/
theorem rawVerdict_meets (job : JudgedJob) {deliverable : DeliverableInspection}
    {file : Except Failure (Option String)}
    (loaded : Judge.loadDeliverable lib.toLibrary file (some job.deliverable) = .ok deliverable) :
    Meets lib config internalToken unchanged (Judgeable config unchanged job.id)
      (rawVerdict config job deliverable)
      fun _ s => Judgeable config unchanged job.id s := by
  unfold rawVerdict
  split
  next content status found =>
    obtain ⟨_, same, -, hashes⟩ := loadDeliverable_ok loaded status
    cases found.symm.trans same
    exact judgeDeliverable_meets job (hashes _ rfl)
  next => exact .pure_ fun _ here => here

/-- A decision is one that the gates have made. -/
def Decided (decision : GateResult) : Prop :=
  decision.action = .settle ∧ decision.reasonCode = .policyPassed ∨
    decision.action = .escalate ∧ decision.reasonCode.isAIEscalation = true

theorem validated_meets (job : SubmittedJob) (deliverable : DeliverableInspection)
    (rawVerdict : JsonValue) (lasts : Lasts lib config unchanged P) :
    Meets lib config internalToken unchanged P (validated config job deliverable rawVerdict)
      fun decision s => Decided decision ∧ P s := by
  refine .bind_ (clock_meets lasts) fun now => check_meets.weaken (fun _ => id) ?_ fun _ _ => id
  rintro decision s ⟨decided, here⟩
  refine ⟨?_, here⟩
  rcases validateDecision_cases decided with ⟨settles, passed, -⟩ | escalates
  · exact .inl ⟨settles, passed⟩
  · exact .inr escalates

/-- A response with success tells that the exchange holds the record. -/
theorem post_meets {token : String} {hash : Hex} {parsed : AIEvidence} {input : JsonValue}
    (accepted : aiEvidenceV1Schema lib input = some parsed) (lasts : Lasts lib config unchanged P) :
    Meets lib config internalToken unchanged P
      (post (evidenceRequest token hash parsed)) fun fetched s => P s ∧
        ∀ status detail, fetched = .response status detail → status < 300 →
          Held lib s.records hash parsed := by
  refine .tryCatch_ ((ask_keeps lasts fun _ => rfl).weaken (fun _ => id) ?_ fun _ _ => id) fun failure =>
    .pure_ fun s here => ⟨here, fun _ _ same => by cases same⟩
  rintro fetched s ⟨here, kept, reply, given, found⟩
  refine ⟨here, fun status detail same success => ?_⟩
  cases reply with
  | response answered text =>
    cases found
    cases same
    exact (kept.answered _ given success).held accepted
  | _ => cases found

theorem publishAttempts_meets {token : String} {hash : Hex} {parsed : AIEvidence} {input : JsonValue}
    (accepted : aiEvidenceV1Schema lib input = some parsed) (lasts : Lasts lib config unchanged P)
    (attempts remaining : Nat) (lastError : String) :
    Meets lib config internalToken unchanged P
      (publishAttempts attempts hash (evidenceRequest token hash parsed) remaining
        lastError) fun _ s => P s ∧ Held lib s.records hash parsed := by
  induction remaining generalizing lastError with
  | zero => exact .throw_ fun _ _ => trivial
  | succ remaining ih =>
    refine .bind_ ((post_meets accepted lasts).weaken (fun _ => id) (fun _ _ => id) fun _ _ _ => trivial)
      fun fetched => ?_
    cases fetched with
    | failed message => exact (ih _).weaken (fun _ here => here.1) (fun _ _ => id) fun _ _ => id
    | response status detail =>
      dsimp only
      split
      next success =>
        refine .pure_ fun s here => ?_
        exact ⟨here.1, here.2 status detail rfl success.2⟩
      split
      next => exact (ih _).weaken (fun _ here => here.1) (fun _ _ => id) fun _ _ => id
      next => exact .throw_ fun _ _ => trivial

/-- A publication that ends well leaves the record, as the schema reads it, in the exchange. -/
theorem publishAIEvidence_meets (record : AIEvidence) (hash : Hex) (lasts : Lasts lib config unchanged P) :
    Meets lib config internalToken unchanged P (publishAIEvidence lib config record hash)
      fun _ s => P s ∧ ∃ parsed, aiEvidenceV1Schema lib record.toJson = some parsed ∧
        Held lib s.records hash parsed := by
  refine .bind_ check_meets fun parsed => .known (fun _ here => here.1) fun schema => ?_
  have accepted := parseAIEvidence_ok.mp schema
  refine .bind_ check_meets fun _ => .bind_ check_meets fun _ => .bind_ check_meets fun token => ?_
  refine (publishAttempts_meets accepted lasts 3 3 _).weaken (fun _ here => here.2.2.2.2) ?_ fun _ _ => id
  rintro _ s ⟨here, held⟩
  exact ⟨here, parsed, accepted, held⟩

/-- What the evidence of a decision says of the call that carries the decision out. -/
theorem Decided.evidenced {decision : GateResult} {job : SubmittedJob} {records : AIEvidenceRecords}
    {model : String} {now : Timestamp} {parsed : AIEvidence} {hash : Hex} (decided : Decided decision)
    (schema : aiEvidenceV1Schema lib (Judge.writeEvidence lib {
      jobId := job.id
      verdict := decision.verdict
      reasonCode := decision.reasonCode
      model
      deliverableHash := job.deliverable } now).record.toJson = some parsed)
    (held : Held lib records hash parsed) :
    (routerCall job.id decision.action decision.verdict hash).Evidenced lib records job := by
  obtain ⟨-, rfl⟩ := aiEvidenceV1Schema_toJson.mp schema
  rcases decided with ⟨settles, passed⟩ | ⟨escalates, reason⟩
  · rw [settles]
    exact ⟨rfl, _, held, ⟨rfl, rfl⟩, passed, rfl, rfl⟩
  · rw [escalates]
    exact ⟨rfl, .inr ⟨_, held, ⟨rfl, rfl⟩, reason⟩⟩

theorem settleDecision_meets (job : SubmittedJob) {decision : GateResult} (decided : Decided decision) :
    Meets lib config internalToken unchanged (Judgeable config unchanged job.id)
      (settleDecision lib config job decision) fun _ _ => True := by
  refine .bind_ (writeEvidence_meets lasts_judgeable) fun written => ?_
  refine .known (fun _ here => here.1) fun written' => ?_
  obtain ⟨now, rfl⟩ := written'
  by_cases dry : config.mode.dryRun = true
  · -- a dry run neither publishes nor sends
    simp only [submitDecision, dry, if_true]
    exact .bind_ (M := fun _ _ => True) (.pure_ fun _ _ => trivial) fun _ => .pure_ fun _ _ => trivial
  · simp only [dry]
    refine .bind_ ((publishAIEvidence_meets _ _ lasts_judgeable).weaken (fun _ here => here.2)
      (fun _ _ => id) fun _ _ => id) fun _ => ?_
    refine submitDecision_meets.weaken ?_ (fun _ _ => id) fun _ _ => id
    rintro s ⟨judged, parsed, schema, held⟩
    exact ⟨decided.evidenced schema held, .inl judged⟩

theorem processJob_meets (job : JudgedJob) :
    Meets lib config internalToken unchanged (fun _ => True) (processJob lib config job)
      fun _ _ => True := by
  refine .bind_ (wantsHuman_meets job.id) fun human => ?_
  cases human with
  | true =>
    exact (processHumanLane_meets job.toSubmittedJob).weaken (fun _ _ => trivial) (fun _ _ => id)
      fun _ _ => id
  | false =>
    refine .bind_ ((loadDeliverable_meets _ lasts_judgeable).weaken (fun _ here => here rfl)
      (fun _ _ => id) fun _ _ => id) fun deliverable => .known (fun _ here => here.1) fun inspected => ?_
    obtain ⟨text, loaded⟩ := inspected
    refine .bind_ ((rawVerdict_meets job loaded).weaken (fun _ here => here.2) (fun _ _ => id)
      fun _ _ => id) fun raw => .bind_ (validated_meets _ _ _ lasts_judgeable) fun decision =>
      .known (fun _ here => here.1) fun decided =>
      (settleDecision_meets _ decided).weaken (fun _ here => here.2) (fun _ _ => id) fun _ _ => id

/-- Whatever the watcher asks for, its handler keeps the contract. -/
theorem answerWatcher_meets (request : WatcherRequest) :
    Meets lib config internalToken unchanged (fun _ => True)
      (answerWatcher lib config request) fun _ _ => True := by
  cases request with
  | processJob job =>
    exact .bind_ (processJob_meets ⟨job, config.description job⟩) fun _ => .pure_ fun _ _ => trivial
  | _ =>
    refine Triple.weaken (ask_meets (lasts_fact True) ?_) (fun _ => id) (fun _ _ _ => trivial)
      fun _ _ => id
    exact fun _ => rfl

theorem processAvailableJobs_safe (s : JudgeStore) :
    Safe (judge lib config internalToken unchanged) (judgeContract lib config unchanged)
      (processAvailableJobs lib config) s := by
  unfold processAvailableJobs
  split
  next =>
    have pass : Meets lib config internalToken unchanged (fun _ => True) (do
        let now ← clock
        processJob lib config (fixtureJob now)) fun _ _ => True :=
      .bind_ (clock_meets (lasts_fact True)) fun now => processJob_meets _
    exact pass _ _ (fun _ _ _ => .done) (fun _ _ _ => .done) s trivial
  next =>
    refine Safe.interpret ?_ answerWatcher_meets _ s
    intro s own kept
    refine ⟨JudgeStore.Later.mk (.refl _) fun _ _ => rfl, ?_⟩
    refine ⟨kept.answered, kept.sent, fun live jobId fixed human => ?_, kept.framed, kept.dry⟩
    obtain ⟨prompted, sent⟩ := kept.spared live jobId fixed human
    exact ⟨prompted, sent⟩

end Judging

section Runs

variable {lib : JudgeLibrary} {config : JudgeConfig} {internalToken : Option String}
  {unchanged : Nat → Prop} {cursor : WatcherStore} {records : AIEvidenceRecords} {lanes : Nat → Nat}
  {history : List (JudgeState × JudgeEvent)} {v : JudgeState}

/-- What the exchange finds under a hash when it checks a review. -/
def exchangeEvidence (lib : JudgeLibrary) (records : AIEvidenceRecords) (hash : Hex) :
    Option Review.AIEvidence :=
  match getAIEvidence lib records hash with
  | .ok (some stored) => some {
      jobId := Nat.ofDigitChars 10 stored.evidence.jobId.toList 0
      deliverableHash := (hex32 stored.evidence.deliverableHash).getD 0
      reasonCode := stored.evidence.reasonCode }
  | _ => none

/-- Evidence about a job is found with the job's own numbers. -/
theorem Held.exchangeEvidence {hash : Hex} {evidence : AIEvidence} {job : SubmittedJob}
    (held : Held lib records hash evidence) (about : evidence.About job) :
    exchangeEvidence lib records hash = some ⟨job.id, job.deliverable, evidence.reasonCode⟩ := by
  obtain ⟨stored, found, rfl⟩ := held
  obtain ⟨decoded, -, accepted⟩ := getAIEvidence_some found
  obtain ⟨deliverable, digits⟩ :=
    Option.isSome_iff_exists.mp (aiEvidenceV1Schema_valid accepted).1.deliverableHash
  have same : deliverable = job.deliverable := by
    rw [about.2] at digits
    exact hex32_hashText_eq digits
  have number : Nat.ofDigitChars 10 (toString job.id).toList 0 = job.id := by
    simp [Nat.toList_repr]
  simp only [Judge.exchangeEvidence, found, digits, Option.getD_some, same, about.1, number]

/-- A job that was escalated may be reviewed. -/
theorem RouterCall.Evidenced.reviewable {submitted : SubmittedJob} {jobId : Nat} {reasonHash : Hex}
    (evidenced : (RouterCall.escalate jobId reasonHash).Evidenced lib records submitted)
    {job : ValidatedReviewJob} (same : job.jobId = submitted.id)
    (delivered : job.deliverableHash = submitted.deliverable)
    (reason : job.escalationReasonHash = reasonHash) :
    ∃ verified,
      verifiedEscalationJob lib.toLibrary (exchangeEvidence lib records) job = .ok verified := by
  unfold verifiedEscalationJob
  split
  next => exact ⟨_, rfl⟩
  next other =>
    obtain ⟨-, human | ⟨evidence, held, about, escalation⟩⟩ := evidenced
    · exact absurd (reason.trans human) other
    · obtain ⟨cause, label⟩ := Option.isSome_iff_exists.mp escalation
      have judged : evidence.reasonCode ≠ .humanLaneRequested := by
        intro human
        rw [human] at label
        cases label
      simp [reason, held.exchangeEvidence about, same, delivered, escalation, demand,
        ReasonCode.escalationCause, judged, label, revertIf, bind, Except.bind, pure, Except.pure]

theorem JudgeStore.backed_blank (cursor : WatcherStore) (records : AIEvidenceRecords)
    (lanes : Nat → Nat) : JudgeStore.Backed lib config unchanged { cursor, records, lanes } := by
  refine ⟨?_, ?_, fun _ _ _ _ => ⟨?_, ?_⟩, ?_, fun _ => ⟨rfl, rfl⟩⟩ <;> simp

theorem judge_backed
    (run : Run (judge lib config internalToken unchanged).system ⟨{ cursor, records, lanes }, .idle⟩
      history v) : v.store.Backed lib config unchanged :=
  (run_good (judge_outside lib config internalToken unchanged)
    (fun s _ _ => Judging.processAvailableJobs_safe s) run (JudgeStore.backed_blank cursor records lanes)).1

/-- Whatever is sent to the router, the exchange holds the evidence that its hash stands for: of a
settlement, the verdict that passed every gate, and of an escalation, the reason with which the
exchange lets the job be reviewed. -/
theorem decisions_evidenced
    (run : Run (judge lib config internalToken unchanged).system ⟨{ cursor, records, lanes }, .idle⟩
      history v) :
    ∀ submission ∈ v.store.sent, submission.call.Evidenced lib v.store.records submission.job ∧
      ∀ jobId reasonHash, submission.call = .escalate jobId reasonHash →
        ∀ job : ValidatedReviewJob, job.jobId = submission.job.id →
          job.deliverableHash = submission.job.deliverable →
          job.escalationReasonHash = reasonHash →
          ∃ verified, verifiedEscalationJob lib.toLibrary
            (exchangeEvidence lib v.store.records) job = .ok verified := by
  intro submission member
  have evidenced := (judge_backed run).sent submission member
  refine ⟨evidenced, fun jobId reasonHash call job same delivered reason => ?_⟩
  rw [call] at evidenced
  exact evidenced.reviewable same delivered reason

/-- A job whose client keeps it in the lane for humans is shown to no model, and all that is sent
for it is the request for a human. -/
theorem human_lane_spared {jobId : Nat} (live : config.mode.fixtureMode = false)
    (run : Run (judge lib config internalToken unchanged).system ⟨{ cursor, records, lanes }, .idle⟩
      history v) (fixed : unchanged jobId) (human : lanes jobId = Judging.reviewLaneHumanOnly) :
    v.store.Spared lib jobId := by
  have later := run_related (judge_outside lib config internalToken unchanged)
    (fun s _ _ => Judging.processAvailableJobs_safe s) (JudgeStore.Later unchanged)
    (judgeContract lib config unchanged).guarantee_refl
    (judgeContract lib config unchanged).awaiting_trans (fun _ _ _ _ => id) .refl run
    (JudgeStore.backed_blank cursor records lanes)
  refine (judge_backed run).spared live jobId fixed ?_
  rw [later.lanes jobId fixed]
  exact human

end Runs

namespace JudgeWalkthrough

/-- A library whose hashes are numbers of 256 bits. -/
def library : JudgeLibrary := { EvidenceWalkthrough.library with
  keccak256 text := text.toList.foldl (fun hash c => (hash * 1114112 + c.toNat) % 2 ^ 256) 7 }

def config : JudgeConfig where
  environment := EvidenceWalkthrough.environment "judge"
  options := { routerAddress := 90 }
  description _ := "the report has a summary"

/-- The client of the job 7 has chosen the lane for humans. -/
def start : JudgeState := ⟨{ lanes := fun jobId => if jobId = 7 then 1 else 0 }, .idle⟩

abbrev liveJudge := judge library config (some "token") fun jobId => jobId = 7

def answered (s : JudgeStore) : JudgeRequest → JudgeReply → Bool
  | .watcher request, .watcher reply => WatcherWalkthrough.answered request (.ok reply)
  | .lanes jobId, .lane lane => lane = s.lanes jobId
  | .writeFile _ _, .written => true
  | .sendTransaction _, .transaction _ => true
  | .waitForTransactionReceipt _, .receipt _ => true
  | _, _ => false

theorem answers_of_answered {request : JudgeRequest} {s : JudgeStore} {reply : JudgeReply}
    (given : answered s request reply = true) : judgeAnswers request s (.ok reply) := by
  cases request <;> cases reply <;> first | trivial | cases given | skip
  next request reply =>
    have known : WatcherWalkthrough.answered request (.ok reply) = true := given
    exact WatcherWalkthrough.answers_of_answered s.cursor known
  next => simpa [answered, judgeAnswers] using given

def admitted (v : JudgeState) : JudgeEvent → Bool
  | .start _ =>
    match v.activity with
    | .running _ => false
    | _ => true
  | .advance _ => true
  | .reply (.ok reply) =>
    match v.activity with
    | .waiting message _ => answered v.store message reply
    | _ => false
  | _ => false

theorem admits_of_admitted {v : JudgeState} {event : JudgeEvent} (given : admitted v event = true) :
    liveJudge.admits v event := by
  cases event with
  | start =>
    intro program running
    simp [admitted, running] at given
  | advance => trivial
  | reply answer =>
    cases answer with
    | error failure => cases given
    | ok reply =>
      simp only [admitted] at given
      split at given
      next message rest waiting => exact ⟨message, rest, waiting, answers_of_answered given⟩
      next => cases given
  | crash => trivial
  | outside event => cases given

def admittedAll (v : JudgeState) : List JudgeEvent → Bool
  | [] => true
  | event :: rest => admitted v event && admittedAll (liveJudge.next v event) rest

theorem admitsAll_of_admittedAll {v : JudgeState} {events : List JudgeEvent}
    (given : admittedAll v events = true) : liveJudge.system.AdmitsAll v events := by
  induction events generalizing v with
  | nil => trivial
  | cons event rest ih =>
    simp only [admittedAll, Bool.and_eq_true] at given
    exact ⟨admits_of_admitted given.1, ih given.2⟩

def advance : JudgeEvent := .advance ⟨.ok (), 5000⟩

/-- A pass that finds the job, asks for its lane and requests a human. -/
def events : List JudgeEvent :=
  [.start (), advance, .reply (.ok (.watcher (.blockNumber 100))), advance, advance,
    .reply (.ok (.watcher (.logs [⟨100, 7, 22, 77⟩]))), advance,
    .reply (.ok (.watcher (.job WatcherWalkthrough.job))), advance,
    .reply (.ok (.watcher (.resolution 0))), advance, .reply (.ok (.lane 1)), advance, advance,
    .reply (.ok .written), advance, .reply (.ok (.transaction 9)), advance,
    .reply (.ok (.receipt true)), advance]

theorem run : Run liveJudge.system start (liveJudge.system.record start [] events)
    (liveJudge.system.replay start events) :=
  liveJudge.system.replay_run .refl _
    (admitsAll_of_admittedAll (by decide +kernel : admittedAll start events = true))

theorem sent : (liveJudge.system.replay start events).store.sent.map (·.call) =
    [.escalate 7 (library.keccak256 humanLaneReason)] := by decide +kernel

end JudgeWalkthrough

open JudgeWalkthrough in
theorem decisions_evidenced_walkthrough :
    ∃ submission ∈ (liveJudge.system.replay start events).store.sent,
      submission.call = .escalate 7 (library.keccak256 humanLaneReason) ∧
        submission.call.Evidenced library (liveJudge.system.replay start events).store.records
          submission.job := by
  have only : RouterCall.escalate 7 (library.keccak256 humanLaneReason) ∈
      (liveJudge.system.replay start events).store.sent.map (·.call) := by
    rw [sent]
    exact List.mem_singleton.mpr rfl
  obtain ⟨submission, member, call⟩ := List.mem_map.mp only
  exact ⟨submission, member, call, (decisions_evidenced run submission member).1⟩

open JudgeWalkthrough in
theorem human_lane_spared_walkthrough :
    (liveJudge.system.replay start events).store.Spared library 7 :=
  human_lane_spared rfl run rfl rfl

end VapiArc.Judge
