import VapiArc.Judge.EvidenceAccepted
import VapiArc.Judge.Pipeline

/-!
# What a response of the exchange says

The exchange answers a request with success only when its table holds the record that the
request's text spells, and what the table holds it keeps.
-/
namespace VapiArc.Judge

open Checked Function Json
open Review (Hex Failure Timestamp hashText)

section Hashes

theorem hexValue_digitChar_eq {d : Nat} (small : d < 16) : hexValue d.digitChar = some d := by
  interval_cases d <;> rfl

/-- The digits of a number are read back as the number. -/
theorem mapM_hexValue_toDigits (n : Nat) : ∃ values : List Nat,
    (Nat.toDigits 16 n).mapM hexValue = some values ∧
      values.foldl (fun value digit => value * 16 + digit) 0 = n := by
  induction n using Nat.strong_induction_on with
  | _ n ih =>
    by_cases small : n < 16
    · refine ⟨[n], ?_, by simp⟩
      rw [Nat.toDigits_of_lt_base small]
      simp [hexValue_digitChar_eq small]
    · obtain ⟨values, read, value⟩ := ih (n / 16) (by omega)
      have last := hexValue_digitChar_eq (Nat.mod_lt n (by decide : 16 > 0))
      refine ⟨values ++ [n % 16], ?_, ?_⟩
      · rw [Nat.toDigits_of_base_le (by decide) (by omega), List.mapM_append, read]
        simp [last]
      · rw [List.foldl_append, value]
        simp only [List.foldl_cons, List.foldl_nil]
        omega

/-- The text of a hash is that of no other one. -/
theorem hex32_hashText_eq {hash value : Hex} (read : hex32 (hashText hash) = some value) :
    value = hash := by
  obtain ⟨values, digits, same⟩ := mapM_hexValue_toDigits hash
  have zeros (n : Nat) : (List.replicate n '0').mapM hexValue = some (List.replicate n 0) := by
    induction n with
    | zero => rfl
    | succ n ih => simp [List.replicate_succ, List.mapM_cons, ih, hexValue]
  have nothing (n : Nat) :
      (List.replicate n 0).foldl (fun value digit => value * 16 + digit) 0 = 0 := by
    induction n with
    | zero => rfl
    | succ n ih => simpa [List.replicate_succ] using ih
  have text : (hashText hash).toList = '0' :: 'x' ::
      (List.replicate (64 - (Nat.toDigits 16 hash).length) '0' ++ Nat.toDigits 16 hash) := by
    simp [hashText]
  simp only [hex32, text] at read
  split at read
  next =>
    rw [List.mapM_append, zeros, digits] at read
    simp only [Option.pure_def, Option.bind_eq_bind, Option.bind_some, Option.map_some,
      Option.some.injEq, List.foldl_append, nothing, same] at read
    exact read.symm
  next => cases read

end Hashes

section Requests

theorem Verdict.enumerated (verdict : Verdict) : Enumerated (.object verdict.fields : JsonValue) :=
  ⟨ofEntries_of_names ["approve", "confidenceBP", "reasoning", "injectionSuspected"] rfl
    (by decide) (by decide), by simp [Verdict.fields, EnumeratedFields, Enumerated]⟩

theorem AIEvidence.enumerated (record : AIEvidence) : Enumerated record.toJson := by
  refine ⟨ofEntries_of_names ["type", "jobId", "verdict", "reasonCode", "model", "promptVersion",
    "deliverableHash", "timestamp"] rfl (by decide) (by decide), ?_⟩
  have verdict := record.verdict.enumerated
  simpa [AIEvidence.fields, EnumeratedFields, Enumerated] using verdict

/-- The publisher's text is read back as what it was made of. -/
theorem parse_evidenceRequest (internalToken : String) (hash : Hex) (parsed : AIEvidence) :
    (Json.parse (Judging.evidenceRequest internalToken hash parsed).body : Option JsonValue) =
      some (.object [("evidenceHash", .string (hashText hash)), ("evidence", parsed.toJson)]) := by
  apply parse_stringify
  refine ⟨ofEntries_of_names ["evidenceHash", "evidence"] rfl (by decide) (by decide), ?_⟩
  simp only [EnumeratedFields, Enumerated, true_and, and_true]
  exact parsed.enumerated

end Requests

section Tables

variable {lib : JudgeLibrary} {internalToken : Option String} {records records' : AIEvidenceRecords}
  {hash : Hex} {input : JsonValue} {evidence : AIEvidence} {request : EvidenceRequest}
  {receivedAt : Timestamp} {status : Nat}

/-- The rows of a table are in the other one too. -/
def Extends (records records' : AIEvidenceRecords) : Prop :=
  ∀ hash row, records hash = some row → records' hash = some row

theorem Extends.refl (records : AIEvidenceRecords) : Extends records records := fun _ _ => id

theorem Extends.trans {records'' : AIEvidenceRecords} (first : Extends records records')
    (second : Extends records' records'') : Extends records records'' :=
  fun hash row found => second hash row (first hash row found)

/-- A record is looked up under a hash, and verified. -/
def Held (lib : JudgeLibrary) (records : AIEvidenceRecords) (hash : Hex) (evidence : AIEvidence) :
    Prop :=
  ∃ stored, getAIEvidence lib records hash = .ok (some stored) ∧ stored.evidence = evidence

theorem Held.extends (held : Held lib records hash evidence) (more : Extends records records') :
    Held lib records' hash evidence := by
  obtain ⟨stored, found, same⟩ := held
  refine ⟨stored, ?_, same⟩
  unfold getAIEvidence at found ⊢
  cases there : records hash with
  | none =>
    rw [there] at found
    cases found
  | some row =>
    rw [there] at found
    rw [more hash row there]
    exact found

/-- A row that is read is the text of the record that it is read as. -/
theorem getAIEvidence_some {stored : StoredAIEvidence}
    (found : getAIEvidence lib records hash = .ok (some stored)) :
    ∃ decoded, Json.parse stored.evidenceJson = some decoded ∧
      aiEvidenceV1Schema lib decoded = some stored.evidence := by
  unfold getAIEvidence at found
  split at found
  next => cases found
  next row there =>
    simp only [bind_ok, demand_ok, parseAIEvidence_ok, pure_ok, Option.some.injEq] at found
    obtain ⟨decoded, read, evidence, parsed, _, -, rfl⟩ := found
    exact ⟨decoded, read, parsed⟩

theorem getAIEvidence_none (found : getAIEvidence lib records hash = .ok none) :
    records hash = none := by
  unfold getAIEvidence at found
  split at found
  next there => exact there
  next =>
    simp only [bind_ok, pure_ok, reduceCtorEq, and_false, exists_false] at found

/-- A store that succeeds leaves the record under its hash, and every other row as it was. -/
theorem storeAIEvidence_held {result : StoredAIEvidence × Bool}
    (done : storeAIEvidence lib records hash input receivedAt = .ok (result, records')) :
    Extends records records' ∧ ∃ evidence, aiEvidenceV1Schema lib input = some evidence ∧
      Held lib records' hash evidence := by
  have whole := done
  unfold storeAIEvidence at done
  simp only [bind_ok, revertIf_ok, exists_const, parseAIEvidence_ok] at done
  obtain ⟨evidence, accepted, verified, -, text, serialized, existing, looked, done⟩ := done
  rw [verifyAIEvidence_toJson accepted, Bool.not_eq_false, decide_eq_true_eq] at verified
  rw [serializeAIEvidence_toJson accepted] at serialized
  cases serialized
  cases existing with
  | some existing =>
    simp only [bind_ok, pure_ok, revertIf_ok, not_not, exists_const, Prod.mk.injEq] at done
    obtain ⟨text, -, rfl⟩ := done
    refine ⟨.refl records, evidence, accepted, existing, looked, ?_⟩
    -- the row has the record's text, so it is read as the record
    obtain ⟨decoded, read, parsed⟩ := getAIEvidence_some looked
    obtain ⟨decoded', read', parsed'⟩ := parse_canonicalJson accepted
    rw [text, read'] at read
    cases read
    rw [parsed'] at parsed
    exact (Option.some.inj parsed).symm
  | none =>
    have absent := getAIEvidence_none looked
    cases done
    refine ⟨?_, evidence, accepted, evidence.stored hash receivedAt, ?_, rfl⟩
    · intro other row found
      by_cases same : other = hash
      · subst same
        rw [absent] at found
        cases found
      · rwa [update_of_ne same]
    · exact getAIEvidence_row accepted verified (update_self _ _ _)

/-- The table holds the record that the request spells. -/
def Handed (lib : JudgeLibrary) (records : AIEvidenceRecords) (request : EvidenceRequest) : Prop :=
  ∃ body input evidence parsed, bodyParser request.body = .ok (some body) ∧
    aiEvidenceInputSchema body = some input ∧ input.evidence = some evidence ∧
    aiEvidenceV1Schema lib evidence = some parsed ∧ Held lib records input.hash parsed

theorem Handed.extends (handed : Handed lib records request) (more : Extends records records') :
    Handed lib records' request := by
  obtain ⟨body, input, evidence, parsed, read, schema, given, accepted, held⟩ := handed
  exact ⟨body, input, evidence, parsed, read, schema, given, accepted, held.extends more⟩

theorem handOver_ok {result : Nat × AIEvidenceRecords}
    (done : handOver lib internalToken request receivedAt records = .ok result) :
    Extends records result.2 ∧ Handed lib result.2 request := by
  simp only [handOver, bind_ok, demand_ok, mapError_ok, pure_ok] at done
  obtain ⟨body, read, _, -, input, schema, _, -, evidence, given, ⟨stored, records'⟩, stores, rfl⟩ :=
    done
  obtain ⟨body, rfl, schema⟩ := Option.bind_eq_some_iff.mp schema
  obtain ⟨more, parsed, accepted, held⟩ := storeAIEvidence_held stores
  exact ⟨more, body, input, evidence, parsed, read, schema, given, accepted, held⟩

theorem handOver_error
    (refused : handOver lib internalToken request receivedAt records = .error status) :
    400 ≤ status := by
  have body (status : Nat) (text : String) (refused : bodyParser text = .error status) :
      400 ≤ status := by
    unfold bodyParser at refused
    grind
  have token (status : Nat) (given : Option String)
      (refused : requireInternalToken internalToken given = .error status) : 400 ≤ status := by
    unfold requireInternalToken at refused
    split at refused
    · cases refused
      decide
    · obtain ⟨-, rfl⟩ := (revertIf_error _ _ _).mp refused
      decide
  simp only [handOver, bind_error, revertIf_error, demand_error] at refused
  rcases refused with refused | ⟨_, -, refused | ⟨_, -, ⟨-, rfl⟩ | ⟨_, -, ⟨-, rfl⟩ | ⟨_, -, ⟨-, rfl⟩ |
    ⟨_, -, refused | ⟨_, -, impossible⟩⟩⟩⟩⟩⟩
  · exact body status _ refused
  · exact token status _ refused
  · decide
  · decide
  · decide
  · cases stores : storeAIEvidence lib records _ _ receivedAt with
    | ok result =>
      rw [stores] at refused
      cases refused
    | error failure =>
      rw [stores] at refused
      cases refused
      exact le_refl 400
  · cases impossible

/-- Whatever the request, the table keeps its rows; with success it holds the record. -/
theorem postAIEvidence_spec (request : EvidenceRequest) (receivedAt : Timestamp)
    (records : AIEvidenceRecords) :
    Extends records (postAIEvidence lib internalToken request receivedAt records).2 ∧
      ((postAIEvidence lib internalToken request receivedAt records).1 < 300 →
        Handed lib (postAIEvidence lib internalToken request receivedAt records).2 request) := by
  unfold postAIEvidence
  cases done : handOver lib internalToken request receivedAt records with
  | ok result =>
    obtain ⟨more, handed⟩ := handOver_ok done
    exact ⟨more, fun _ => handed⟩
  | error status =>
    have refused := handOver_error done
    refine ⟨.refl records, fun success => ?_⟩
    dsimp only at success
    omega

/-- The publisher's own request, answered with success, has left the record in the table. -/
theorem Handed.held {token : String}
    (accepted : aiEvidenceV1Schema lib input = some evidence)
    (handed : Handed lib records (Judging.evidenceRequest token hash evidence)) :
    Held lib records hash evidence := by
  obtain ⟨body, decoded, value, parsed, read, schema, given, again, held⟩ := handed
  -- the body that the exchange reads is the one that the publisher wrote
  have same : body = .object
      [("evidenceHash", .string (hashText hash)), ("evidence", evidence.toJson)] := by
    unfold bodyParser at read
    rw [parse_evidenceRequest] at read
    grind
  subst same
  simp only [aiEvidenceInputSchema, Option.bind_eq_bind, Option.bind_eq_some_iff, Option.pure_def,
    Option.some.injEq] at schema
  obtain ⟨_, -, text, found, value', hashed, rfl⟩ := schema
  cases given
  have spelled : text = hashText hash := by
    have first : Fields.string [("evidenceHash", .string (hashText hash)),
      ("evidence", evidence.toJson)] "evidenceHash" = some (hashText hash) := rfl
    exact (Option.some.inj (first.symm.trans found)).symm
  subst spelled
  have unhashed := hex32_hashText_eq hashed
  rw [aiEvidenceV1Schema_again accepted] at again
  cases again
  rwa [unhashed] at held

end Tables

end VapiArc.Judge
