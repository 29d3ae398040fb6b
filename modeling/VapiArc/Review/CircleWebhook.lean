import VapiArc.Judge.Evidence
import VapiArc.Review.RateLimit

/-!
# The verifier of Circle's notifications

`POST /v1/circle/webhook` lets a notification through when its signature verifies under the key
that Circle's key service returns for the id in its header. Keys and failures are remembered for a
while, and requests for one id wait for the same answer of the service.
-/
namespace VapiArc.Review.CircleWebhook

open RateLimit Transition

def hexDigit (c : Char) : Bool :=
  c.isDigit || ('a' ≤ c && c ≤ 'f') || ('A' ≤ c && c ≤ 'F')

/-- `/^[0-9a-f]{8}-[0-9a-f]{4}-[1-8][0-9a-f]{3}-[89ab][0-9a-f]{3}-[0-9a-f]{12}$/i` -/
def KEY_ID_PATTERN (text : String) : Bool :=
  text.length = 36 && text.toList.zipIdx.all fun (c, i) =>
    if i ∈ [8, 13, 18, 23] then c = '-'
    else if i = 14 then '1' ≤ c && c ≤ '8'
    else if i = 19 then c ∈ ['8', '9', 'a', 'b', 'A', 'B']
    else hexDigit c

abbrev KeyId := { text : String // KEY_ID_PATTERN text = true }

/-- `CircleWebhookKeyServiceError` and `CircleWebhookInvalidKeyError` -/
inductive KeyError where
  | service (message : String)
  | invalid (message : String)
  deriving DecidableEq

/-- What Node's crypto makes of a key and a signature; `verify` is false also where it throws. -/
structure KeyLibrary (Key : Type) where
  createPublicKey : Judge.JsonValue → Option Key
  verify : Key → List UInt8 → String → Bool

/-- How `fetcher` settles, and what its response holds if that is JSON. -/
inductive FetchOutcome where
  | rejected
  | response (status : Nat) (json : Option Judge.JsonValue)

def KEY_TTL : Nat := 24 * 60 * 60000

def UNAVAILABLE_TTL : Nat := 30000

def UNRECOGNIZED_TTL : Nat := 5 * 60000

def CAPACITY : Nat := 100

def fieldOf (value : Judge.JsonValue) (key : String) : Option Judge.JsonValue :=
  match value with
  | .object fields => fields.lookup key
  | _ => none

def textOf (value : Judge.JsonValue) (key : String) : Option String :=
  match fieldOf value key with
  | some (.string text) => some text
  | _ => none

def truthy : Judge.JsonValue → Bool
  | .null => false
  | .bool b => b
  | .number n => n.value ≠ 0
  | .string text => text ≠ ""
  | .array _ | .object _ => true

section Keys

variable {Key : Type} (lib : KeyLibrary Key)

/-- The key of a well formed response for the id. -/
def keyOf (keyId : KeyId) (decoded : Judge.JsonValue) : Option Key := do
  let keyData ← fieldOf decoded "data"
  guard (textOf keyData "id" = some keyId.1)
  guard (textOf keyData "algorithm" = some "ECDSA_SHA_256")
  let publicKey ← fieldOf keyData "publicKey"
  guard (truthy publicKey = true)
  lib.createPublicKey publicKey

/-- What a request for a key comes to: the key, or an error and how long it is remembered. -/
def fetched (keyId : KeyId) : FetchOutcome → Except (KeyError × Nat) Key
  | .rejected =>
    .error (.service "Circle notification key service is unavailable", UNAVAILABLE_TTL)
  | .response status json =>
    if status < 200 ∨ 299 < status then
      if 500 ≤ status ∨ status = 429 then
        .error (.service ("Circle notification key service returned " ++ toString status),
          UNAVAILABLE_TTL)
      else .error (.invalid "Circle notification key was not recognized", UNRECOGNIZED_TTL)
    else
      match json.bind (keyOf lib keyId) with
      | some key => .ok key
      | none =>
        .error (.service "Circle notification key service returned malformed data", UNAVAILABLE_TTL)

/-- How long the answer of the service is remembered. -/
def ttl (keyId : KeyId) (outcome : FetchOutcome) : Nat :=
  match fetched lib keyId outcome with
  | .ok _ => KEY_TTL
  | .error (_, ttlMs) => ttlMs

end Keys

structure WebhookRequest where
  signature : Option String
  keyId : Option String
  rawBody : Option (List UInt8)
  deriving DecidableEq

/-- What is verified, once nothing of it is missing. -/
structure Input where
  keyId : String
  signature : String
  body : List UInt8
  deriving DecidableEq

def WebhookRequest.input (request : WebhookRequest) : Option Input := do
  let signature ← request.signature.filter (· ≠ "")
  let keyId ← request.keyId.filter (· ≠ "")
  let body ← request.rawBody
  return { keyId, signature, body }

/-- A request that waits for a key: when it came, and what its signature is to be checked of. -/
structure Waiter where
  request : WebhookRequest
  receivedAt : Nat
  input : Input
  deriving DecidableEq

/-- The maps of the verifier, those of the rate limit before it, and the clock. A promise in
flight is known by what waits for it. -/
structure Verifier (Key : Type) where
  clients : Clients := .empty
  keys : OrderedMap KeyId (Key × Nat) := .empty
  failures : OrderedMap KeyId (KeyError × Nat) := .empty
  inFlight : OrderedMap KeyId (List Waiter) := .empty
  clock : Nat := 0

inductive Reply where
  | limited (answer : Answer)
  | error (status : Nat) (code message : String)
  /-- The notification is handed to the processor. -/
  | accepted
  deriving DecidableEq

def notConfigured : Reply :=
  .error 503 "circle_webhook_not_configured" "CIRCLE_API_KEY is required to verify Circle webhooks"

def missingSignature : Reply := .error 401 "invalid_circle_signature" "Missing Circle signature"

def invalidSignature : Reply := .error 401 "invalid_circle_signature" "Invalid Circle signature"

def unavailable : Reply :=
  .error 503 "circle_key_service_unavailable" "Circle webhook verification is temporarily unavailable"

inductive WebhookEvent where
  /-- A request, with the times that the rate limit and the two lookups of `getKey` read. -/
  | post (client : ClientKey) (request : WebhookRequest) (arrived now again : Nat)
  /-- A request to the key service settles, and what waits for it goes on before any other task. -/
  | settle (keyId : KeyId) (outcome : FetchOutcome) (now : Nat)

inductive Lookup (Key : Type) where
  | found (answer : Except KeyError Key)
  | awaits

section Steps

variable {Key : Type} (lib : KeyLibrary Key)

/-- `verify`, once its key is there, and the reply to what it comes to. -/
def replyTo (input : Input) : Except KeyError Key → Reply
  | .ok key => if lib.verify key input.body input.signature then .accepted else invalidSignature
  | .error (.service _) => unavailable
  | .error (.invalid _) => invalidSignature

/-- A map without the entry of an id, if that is over. -/
def dropExpired {α : Type} (remembered : OrderedMap KeyId (α × Nat)) (keyId : KeyId) (now : Nat) :
    OrderedMap KeyId (α × Nat) :=
  match remembered.get keyId with
  | some (_, expiresAt) => if now < expiresAt then remembered else remembered.delete keyId
  | none => remembered

/-- What is remembered of an id, if it is not over. -/
def fresh {α : Type} (remembered : OrderedMap KeyId (α × Nat)) (keyId : KeyId) (now : Nat) :
    Option α :=
  ((remembered.get keyId).filter (now < ·.2)).map Prod.fst

def getKey (v : Verifier Key) (keyId : KeyId) (waiter : Waiter) (now again : Nat) :
    Lookup Key × Verifier Key :=
  match fresh v.keys keyId now with
  | some key => (.found (.ok key), v)
  | none =>
    let v := { v with keys := dropExpired v.keys keyId now }
    match fresh v.failures keyId again with
    | some error => (.found (.error error), v)
    | none =>
      let v := { v with failures := dropExpired v.failures keyId again }
      -- who comes first asks the service
      let waiting := (v.inFlight.get keyId).getD []
      (.awaits, { v with inFlight := v.inFlight.set keyId (waiting ++ [waiter]) })

/-- `requireCircleSignature`, up to where it may have to wait. -/
def requireCircleSignature (apiKey : Option String) (v : Verifier Key) (request : WebhookRequest)
    (now again : Nat) : Option Reply × Verifier Key :=
  if apiKey.all (· = "") then (some notConfigured, v)
  else
    match request.input with
    | none => (some missingSignature, v)
    | some input =>
      if h : KEY_ID_PATTERN input.keyId = true then
        match getKey v ⟨input.keyId, h⟩ ⟨request, now, input⟩ now again with
        | (.found answer, v) => (some (replyTo lib input answer), v)
        | (.awaits, v) => (none, v)
      else (some invalidSignature, v)

/-- The end of `fetchKey`. -/
def settleKey (v : Verifier Key) (keyId : KeyId) (outcome : FetchOutcome) (now : Nat) :
    Except KeyError Key × Verifier Key :=
  let v := { v with inFlight := v.inFlight.delete keyId }
  match fetched lib keyId outcome with
  | .ok key => (.ok key, { v with keys := v.keys.remember CAPACITY keyId (key, now + KEY_TTL) })
  | .error (error, ttlMs) =>
    (.error error, { v with failures := v.failures.remember CAPACITY keyId (error, now + ttlMs) })

/-- The replies that an event gives rise to, each with its request and the time it came. -/
def respond (apiKey : Option String) (v : Verifier Key) :
    WebhookEvent → List (WebhookRequest × Nat × Reply) × Verifier Key
  | .post client request arrived now again =>
    let (answer, clients) := fixedWindowRateLimit circleWebhookMount v.clients client arrived
    let v := { v with clients, clock := again }
    if answer = .next then
      let (reply, v) := requireCircleSignature lib apiKey v request now again
      (reply.toList.map fun reply => (request, now, reply), v)
    else ([(request, now, .limited answer)], v)
  | .settle keyId outcome now =>
    let waiters := (v.inFlight.get keyId).getD []
    let (answer, v) := settleKey lib v keyId outcome now
    (waiters.map fun waiter => (waiter.request, waiter.receivedAt, replyTo lib waiter.input answer),
      { v with clock := now })

def webhook (apiKey : Option String) : System (Verifier Key) WebhookEvent where
  admits v
    | .post _ _ arrived now again => v.clock ≤ arrived ∧ arrived ≤ now ∧ now ≤ again
    | .settle keyId _ now => v.clock ≤ now ∧ (v.inFlight.get keyId).isSome = true
  next v event := (respond lib apiKey v event).2

end Steps

/-! ### What an event can do -/

section Effects

variable {Key : Type} {lib : KeyLibrary Key} {apiKey : Option String} {v : Verifier Key}
  {keyId other : KeyId} {client : ClientKey} {request : WebhookRequest} {arrived now again : Nat}

theorem fresh_eq_some {α : Type} {remembered : OrderedMap KeyId (α × Nat)} {value : α} :
    fresh remembered keyId now = some value ↔
      ∃ expiresAt, remembered.get keyId = some (value, expiresAt) ∧ now < expiresAt := by
  unfold fresh
  cases remembered.get keyId with
  | none => simp
  | some entry =>
    obtain ⟨kept, expiresAt⟩ := entry
    by_cases live : now < expiresAt
    · simp [live]
    · simp only [Option.filter_some, live, decide_false, Bool.false_eq_true, if_false,
        Option.map_none, Option.some.injEq, Prod.mk.injEq, reduceCtorEq, false_iff]
      rintro ⟨_, ⟨rfl, rfl⟩, later⟩
      exact live later

theorem fresh_eq_none {α : Type} {remembered : OrderedMap KeyId (α × Nat)} :
    fresh remembered keyId now = none ↔
      ∀ value expiresAt, remembered.get keyId = some (value, expiresAt) → expiresAt ≤ now := by
  rw [Option.eq_none_iff_forall_ne_some]
  constructor
  · intro none value expiresAt found
    by_contra live
    exact none value (fresh_eq_some.mpr ⟨expiresAt, found, by omega⟩)
  · intro past value found
    obtain ⟨expiresAt, held, live⟩ := fresh_eq_some.mp found
    exact absurd (past value expiresAt held) (by omega)

variable (keyId other now) in
/-- What is dropped is over. -/
theorem get_dropExpired {α : Type} (remembered : OrderedMap KeyId (α × Nat)) :
    (dropExpired remembered keyId now).get other = remembered.get other ∨
      (dropExpired remembered keyId now).get other = none ∧
        ∀ entry, remembered.get other = some entry → entry.2 ≤ now := by
  unfold dropExpired
  split
  next value expiresAt held =>
    split
    · exact .inl rfl
    · rw [OrderedMap.get_delete]
      split
      next same =>
        refine .inr ⟨rfl, fun entry found => ?_⟩
        rw [same, held] at found
        cases found
        omega
      next => exact .inl rfl
  next => exact .inl rfl

theorem size_dropExpired_le {α : Type} {remembered : OrderedMap KeyId (α × Nat)} :
    (dropExpired remembered keyId now).size ≤ remembered.size := by
  unfold dropExpired
  split
  · split
    · exact le_rfl
    · exact OrderedMap.size_keep_le
  · exact le_rfl

/-- What a request leads to: it is turned away, answered from what is remembered, or waits. -/
inductive Posted (lib : KeyLibrary Key) (v : Verifier Key) (request : WebhookRequest)
    (now again : Nat) : List (WebhookRequest × Nat × Reply) × Verifier Key → Prop
  | turnedAway {reply : Reply} {clients : Clients} (denied : reply ≠ .accepted) :
      Posted lib v request now again
        ([(request, now, reply)], { v with clients, clock := again })
  | cached {clients : Clients} {keyId : KeyId} {input : Input} {key : Key}
      (complete : request.input = some input) (id : input.keyId = keyId.1)
      (known : fresh v.keys keyId now = some key) :
      Posted lib v request now again
        ([(request, now, replyTo lib input (.ok key))], { v with clients, clock := again })
  | failed {clients : Clients} {keyId : KeyId} {input : Input} {error : KeyError}
      (known : fresh v.failures keyId again = some error) :
      Posted lib v request now again
        ([(request, now, replyTo lib input (.error error))],
          { v with clients, clock := again, keys := dropExpired v.keys keyId now })
  | waits {clients : Clients} {keyId : KeyId} {input : Input}
      (complete : request.input = some input) (id : input.keyId = keyId.1)
      (noKey : fresh v.keys keyId now = none) (noFailure : fresh v.failures keyId again = none) :
      Posted lib v request now again
        ([], { v with
          clients, clock := again
          keys := dropExpired v.keys keyId now
          failures := dropExpired v.failures keyId again
          inFlight := v.inFlight.set keyId
            ((v.inFlight.get keyId).getD [] ++ [⟨request, now, input⟩]) })

variable (lib apiKey v client request arrived now again) in
theorem post_posted : Posted lib v request now again
    (respond lib apiKey v (.post client request arrived now again)) := by
  simp only [respond]
  cases limited : fixedWindowRateLimit circleWebhookMount v.clients client arrived with
  | mk answer clients =>
    dsimp only
    split
    next =>
      unfold requireCircleSignature
      split
      · exact .turnedAway (by simp [notConfigured])
      · split
        · exact .turnedAway (by simp [missingSignature])
        next input complete =>
          split
          next pattern =>
            unfold getKey
            cases known : fresh v.keys ⟨input.keyId, pattern⟩ now with
            | some key => exact .cached complete rfl known
            | none =>
              dsimp only
              cases failure : fresh v.failures ⟨input.keyId, pattern⟩ again with
              | some error => exact .failed failure
              | none => exact .waits complete rfl known failure
          next => exact .turnedAway (by simp [invalidSignature])
    next => exact .turnedAway (by simp)

theorem replyTo_accepted {input : Input} {answer : Except KeyError Key}
    (accepted : replyTo lib input answer = .accepted) :
    ∃ key, answer = .ok key ∧ lib.verify key input.body input.signature = true := by
  unfold replyTo at accepted
  split at accepted
  next key =>
    split at accepted
    next fine => exact ⟨key, rfl, fine⟩
    next => cases accepted
  next => cases accepted
  next => cases accepted

theorem fetched_ok {outcome : FetchOutcome} {key : Key} (ok : fetched lib keyId outcome = .ok key) :
    ∃ status json, outcome = .response status (some json) ∧ 200 ≤ status ∧ status ≤ 299 ∧
      keyOf lib keyId json = some key := by
  unfold fetched at ok
  split at ok
  next => cases ok
  next status json =>
    split at ok
    next =>
      split at ok
      next => cases ok
      next => cases ok
    next good =>
      push Not at good
      split at ok
      next found =>
        cases ok
        obtain ⟨decoded, rfl, here⟩ := Option.bind_eq_some_iff.mp found
        exact ⟨status, decoded, rfl, good.1, good.2, here⟩
      next => cases ok

variable (lib v keyId now) in
/-- An answer of the service ends its flight and is remembered, in place of the oldest one if
there are a hundred. -/
theorem settleKey_cases (outcome : FetchOutcome) :
    (∃ key, fetched lib keyId outcome = .ok key ∧ ttl lib keyId outcome = KEY_TTL ∧
      settleKey lib v keyId outcome now = (.ok key, { v with
        inFlight := v.inFlight.delete keyId
        keys := v.keys.remember CAPACITY keyId (key, now + KEY_TTL) })) ∨
    ∃ error ttlMs, fetched lib keyId outcome = .error (error, ttlMs) ∧
      ttl lib keyId outcome = ttlMs ∧
      settleKey lib v keyId outcome now = (.error error, { v with
        inFlight := v.inFlight.delete keyId
        failures := v.failures.remember CAPACITY keyId (error, now + ttlMs) }) := by
  unfold settleKey ttl
  cases fetched lib keyId outcome with
  | ok key => exact .inl ⟨key, rfl, rfl, rfl⟩
  | error failure => exact .inr ⟨failure.1, failure.2, rfl, rfl, rfl⟩

end Effects

/-! ### What is accepted -/

section Authentic

variable {Key : Type} {lib : KeyLibrary Key} {apiKey : Option String} {v : Verifier Key}
  {history : List (Verifier Key × WebhookEvent)}

/-- The keys that are remembered came from the service, and who waits does so for its own id. -/
structure Authentic (lib : KeyLibrary Key) (history : List (Verifier Key × WebhookEvent))
    (v : Verifier Key) : Prop where
  keys : ∀ keyId key expiresAt, v.keys.get keyId = some (key, expiresAt) →
    ∃ v₀ outcome t, (v₀, .settle keyId outcome t) ∈ history ∧
      fetched lib keyId outcome = .ok key ∧ expiresAt = t + KEY_TTL
  waiting : ∀ keyId waiters, v.inFlight.get keyId = some waiters → ∀ waiter ∈ waiters,
    waiter.request.input = some waiter.input ∧ waiter.input.keyId = keyId.1 ∧
      waiter.receivedAt ≤ v.clock

theorem Authentic.weaken {v' : Verifier Key} {entry : Verifier Key × WebhookEvent}
    (authentic : Authentic lib history v)
    (keys : ∀ keyId key expiresAt, v'.keys.get keyId = some (key, expiresAt) →
      v.keys.get keyId = some (key, expiresAt))
    (waiting : ∀ keyId, v'.inFlight.get keyId = v.inFlight.get keyId ∨ v'.inFlight.get keyId = none)
    (clock : v.clock ≤ v'.clock) : Authentic lib (entry :: history) v' where
  keys keyId key expiresAt held := by
    obtain ⟨v₀, outcome, t, member, rest⟩ := authentic.keys _ _ _ (keys _ _ _ held)
    exact ⟨v₀, outcome, t, List.mem_cons_of_mem _ member, rest⟩
  waiting keyId waiters held waiter member := by
    rcases waiting keyId with same | gone
    · obtain ⟨complete, id, time⟩ := authentic.waiting keyId waiters (same ▸ held) waiter member
      exact ⟨complete, id, time.trans clock⟩
    · rw [gone] at held
      cases held

theorem keys_dropExpired {keyId other : KeyId} {now : Nat} {key : Key} {expiresAt : Nat}
    (held : (dropExpired v.keys keyId now).get other = some (key, expiresAt)) :
    v.keys.get other = some (key, expiresAt) := by
  rcases get_dropExpired keyId other now v.keys with
    same | ⟨gone, -⟩
  · exact same ▸ held
  · rw [gone] at held
    cases held

theorem Authentic.step (authentic : Authentic lib history v) (event : WebhookEvent)
    (admitted : (webhook lib apiKey).admits v event) :
    Authentic lib ((v, event) :: history) ((webhook lib apiKey).next v event) := by
  cases event with
  | post client request arrived now again =>
    obtain ⟨first, second, third⟩ := admitted
    have clock : v.clock ≤ again := (first.trans second).trans third
    simp only [webhook]
    -- what a request does to the cache comes down to four cases, and none of them adds a key
    have posted := post_posted lib apiKey v client request arrived now again
    generalize respond lib apiKey v (.post client request arrived now again) = result at posted
    cases posted with
    | turnedAway denied => exact authentic.weaken (fun _ _ _ held => held) (fun _ => .inl rfl) clock
    | cached complete id known =>
      exact authentic.weaken (fun _ _ _ held => held) (fun _ => .inl rfl) clock
    | failed known =>
      exact authentic.weaken (fun _ _ _ held => keys_dropExpired held) (fun _ => .inl rfl) clock
    | @waits clients keyId input complete id noKey noFailure =>
      refine ⟨fun other key expiresAt held => ?_, fun other waiters held waiter member => ?_⟩
      · -- a key that is still cached was there before, and its answer is in the history
        obtain ⟨v₀, outcome, t, there, rest⟩ := authentic.keys _ _ _ (keys_dropExpired held)
        exact ⟨v₀, outcome, t, List.mem_cons_of_mem _ there, rest⟩
      · have old {waiters : List Waiter} (flying : v.inFlight.get other = some waiters)
            (there : waiter ∈ waiters) := authentic.waiting other waiters flying waiter there
        dsimp only at held
        rw [OrderedMap.get_set] at held
        split at held
        next same =>
          -- whoever waited before is one of the history's, and the newcomer is the request itself
          cases held
          rcases List.mem_append.mp member with before | new
          · cases flying : v.inFlight.get keyId with
            | none => simp [flying] at before
            | some waiters =>
              rw [flying] at before
              obtain ⟨complete, id, time⟩ := old (same ▸ flying) before
              exact ⟨complete, id, time.trans clock⟩
          · rw [List.mem_singleton.mp new]
            exact ⟨complete, same ▸ id, third⟩
        next =>
          obtain ⟨complete, id, time⟩ := old held member
          exact ⟨complete, id, time.trans clock⟩
  | settle keyId outcome now =>
    obtain ⟨clock, flying⟩ := admitted
    have deleted (other : KeyId) : (v.inFlight.delete keyId).get other = v.inFlight.get other ∨
        (v.inFlight.delete keyId).get other = none := by
      rw [OrderedMap.get_delete]
      split
      · exact .inr rfl
      · exact .inl rfl
    simp only [webhook, respond]
    rcases settleKey_cases lib v keyId now outcome with
      ⟨key, ok, -, same⟩ | ⟨error, ttlMs, -, -, same⟩
    · -- the request for the key has been answered well: the key is new, and this very step is its origin
      rw [same]
      have waiting : Authentic lib ((v, .settle keyId outcome now) :: history)
          { v with inFlight := v.inFlight.delete keyId, clock := now } :=
        authentic.weaken (fun _ _ _ held => held) deleted clock
      refine ⟨fun other key' expiresAt held => ?_, waiting.waiting⟩
      by_cases here : other = keyId
      · subst here
        dsimp only at held
        rw [OrderedMap.get_remember] at held
        cases held
        exact ⟨v, outcome, now, List.mem_cons_self, ok, rfl⟩
      · dsimp only at held
        rcases OrderedMap.get_remember_other v.keys (key, now + KEY_TTL) CAPACITY
          here with kept | ⟨-, gone⟩
        · exact waiting.keys other key' expiresAt (kept ▸ held)
        · rw [gone] at held
          cases held
    · rw [same]
      exact authentic.weaken (fun _ _ _ held => held) deleted clock

end Authentic

/-! ### How often the service is asked -/

section Spacing

variable {Key : Type} (lib : KeyLibrary Key) (apiKey : Option String)

abbrev Entry (Key : Type) := Verifier Key × WebhookEvent

/-- The last time that an event reads. -/
def WebhookEvent.time : WebhookEvent → Nat
  | .post _ _ _ _ again => again
  | .settle _ _ now => now

/-- The event makes a request to the key service for the id. -/
def Asks (keyId : KeyId) (entry : Entry Key) : Prop :=
  entry.1.inFlight.get keyId = none ∧
    ((webhook lib apiKey).next entry.1 entry.2).inFlight.get keyId ≠ none

/-- Something that is remembered of the id is gone after the event, and was not over. -/
def Forgets {α : Type} (before after : OrderedMap KeyId (α × Nat)) (keyId : KeyId) (now : Nat) : Prop :=
  ∃ value expiresAt, before.get keyId = some (value, expiresAt) ∧ now < expiresAt ∧
    after.get keyId = none

/-- The event makes room in one of the maps at the cost of the id. -/
def Evicts (keyId : KeyId) (entry : Entry Key) : Prop :=
  let after := (webhook lib apiKey).next entry.1 entry.2
  Forgets entry.1.keys after.keys keyId entry.2.time ∨
    Forgets entry.1.failures after.failures keyId entry.2.time

variable {lib apiKey} {v : Verifier Key} {keyId : KeyId} {event : WebhookEvent}
  {history : List (Entry Key)}

/-- What happens to an id's entry in a map that the id's own answer is not put in. -/
structure Framed {α : Type} (before after : OrderedMap KeyId (α × Nat)) (keyId : KeyId) (now : Nat) :
    Prop where
  get : after.get keyId = before.get keyId ∨ after.get keyId = none
  forgets : Forgets before after keyId now → CAPACITY ≤ before.size

theorem Framed.refl {α : Type} (remembered : OrderedMap KeyId (α × Nat)) (keyId : KeyId) (now : Nat) :
    Framed remembered remembered keyId now where
  get := .inl rfl
  forgets := by
    rintro ⟨value, expiresAt, held, -, gone⟩
    rw [held] at gone
    cases gone

theorem Framed.dropExpired {α : Type} (remembered : OrderedMap KeyId (α × Nat)) (asked keyId : KeyId)
    {now again : Nat} (ordered : now ≤ again) :
    Framed remembered (dropExpired remembered asked now) keyId again := by
  rcases get_dropExpired asked keyId now remembered with
    same | ⟨gone, past⟩
  · refine ⟨.inl same, ?_⟩
    rintro ⟨value, expiresAt, held, -, gone⟩
    rw [same, held] at gone
    cases gone
  · refine ⟨.inr gone, ?_⟩
    rintro ⟨value, expiresAt, held, live, -⟩
    have over_ : expiresAt ≤ now := past _ held
    omega

theorem Framed.remember {α : Type} (remembered : OrderedMap KeyId (α × Nat)) {asked keyId : KeyId}
    (different : keyId ≠ asked) (entry : α × Nat) (now : Nat) :
    Framed remembered (remembered.remember CAPACITY asked entry) keyId now := by
  rcases OrderedMap.get_remember_other remembered entry CAPACITY different with same | ⟨full, gone⟩
  · refine ⟨.inl same, ?_⟩
    rintro ⟨value, expiresAt, held, -, gone⟩
    rw [same, held] at gone
    cases gone
  · exact ⟨.inr gone, fun _ => full⟩

/-- Only an answer for the id writes its entries, and only an answer for it ends its flight. -/
theorem step_framed (admitted : (webhook lib apiKey).admits v event)
    (elsewhere : ∀ outcome now, event ≠ .settle keyId outcome now) :
    Framed v.keys ((webhook lib apiKey).next v event).keys keyId event.time ∧
    Framed v.failures ((webhook lib apiKey).next v event).failures keyId event.time ∧
    (v.inFlight.get keyId ≠ none →
      ((webhook lib apiKey).next v event).inFlight.get keyId ≠ none) := by
  cases event with
  | post client request arrived now again =>
    obtain ⟨-, -, ordered⟩ := admitted
    simp only [webhook, WebhookEvent.time]
    have posted := post_posted lib apiKey v client request arrived now again
    generalize respond lib apiKey v (.post client request arrived now again) = result at posted
    cases posted with
    | turnedAway denied => exact ⟨.refl .., .refl .., id⟩
    | cached complete id known => exact ⟨.refl .., .refl .., fun flying => flying⟩
    | failed known => exact ⟨.dropExpired _ _ _ ordered, .refl .., id⟩
    | waits complete id noKey noFailure =>
      refine ⟨.dropExpired _ _ _ ordered, .dropExpired _ _ _ le_rfl, fun flying => ?_⟩
      dsimp only
      rw [OrderedMap.get_set]
      split
      · simp
      · exact flying
  | settle asked outcome now =>
    have different : keyId ≠ asked := by
      rintro rfl
      exact elsewhere outcome now rfl
    have flight : v.inFlight.get keyId ≠ none → (v.inFlight.delete asked).get keyId ≠ none := by
      rw [OrderedMap.get_delete, if_neg different]
      exact id
    simp only [webhook, respond, WebhookEvent.time]
    rcases settleKey_cases lib v asked now outcome with
      ⟨key, -, -, same⟩ | ⟨error, ttlMs, -, -, same⟩
    · rw [same]
      exact ⟨.remember _ different _ _, .refl .., flight⟩
    · rw [same]
      exact ⟨.refl .., .remember _ different _ _, flight⟩

variable (lib apiKey v keyId) in
/-- The id's own answer is remembered. -/
theorem step_settle (outcome : FetchOutcome) (now : Nat) :
    ((webhook lib apiKey).next v (.settle keyId outcome now)).inFlight.get keyId = none ∧
    ((∃ key, fetched lib keyId outcome = .ok key ∧
      ((webhook lib apiKey).next v (.settle keyId outcome now)).keys.get keyId =
        some (key, now + ttl lib keyId outcome) ∧
      ((webhook lib apiKey).next v (.settle keyId outcome now)).failures = v.failures) ∨
    ∃ error, ((webhook lib apiKey).next v (.settle keyId outcome now)).failures.get keyId =
        some (error, now + ttl lib keyId outcome) ∧
      ((webhook lib apiKey).next v (.settle keyId outcome now)).keys = v.keys) := by
  simp only [webhook, respond]
  rcases settleKey_cases lib v keyId now outcome with
    ⟨key, ok, ttl_, same⟩ | ⟨error, ttlMs, -, ttl_, same⟩
  · rw [same]
    refine ⟨by simp [OrderedMap.get_delete], .inl ⟨key, ok, ?_, rfl⟩⟩
    simp [ttl_]
  · rw [same]
    refine ⟨by simp [OrderedMap.get_delete], .inr ⟨error, ?_, rfl⟩⟩
    simp [ttl_]

theorem Evicts.crowded (admitted : (webhook lib apiKey).admits v event)
    (evicts : Evicts lib apiKey keyId (v, event)) :
    CAPACITY ≤ v.keys.size ∨ CAPACITY ≤ v.failures.size := by
  by_cases own : ∃ outcome now, event = .settle keyId outcome now
  · obtain ⟨outcome, now, rfl⟩ := own
    obtain ⟨-, ⟨key, -, known, kept⟩ | ⟨error, known, kept⟩⟩ :=
      step_settle lib apiKey v keyId outcome now
    · rcases evicts with ⟨_, _, -, -, gone⟩ | forgets
      · rw [known] at gone
        cases gone
      · dsimp only at forgets
        rw [kept] at forgets
        exact .inr ((Framed.refl v.failures keyId now).forgets forgets)
    · rcases evicts with forgets | ⟨_, _, -, -, gone⟩
      · dsimp only at forgets
        rw [kept] at forgets
        exact .inl ((Framed.refl v.keys keyId now).forgets forgets)
      · rw [known] at gone
        cases gone
  · push Not at own
    obtain ⟨keys, failures, -⟩ := step_framed admitted own
    exact evicts.imp keys.forgets failures.forgets

/-- The answer to the last request for the id is remembered, or over, or was put out. -/
structure Quiet (lib : KeyLibrary Key) (apiKey : Option String) (keyId : KeyId)
    (history : List (Entry Key)) (v : Verifier Key) (later : List (Entry Key)) (answered : Entry Key)
    (rest : List (Entry Key)) (outcome : FetchOutcome) (t : Nat) : Prop where
  split : history = later ++ answered :: rest
  event : answered.2 = .settle keyId outcome t
  unasked : ∀ entry ∈ later, ¬ Asks lib apiKey keyId entry
  kept : (∃ key, v.keys.get keyId = some (key, t + ttl lib keyId outcome)) ∨
    (∃ error, v.failures.get keyId = some (error, t + ttl lib keyId outcome)) ∨
    t + ttl lib keyId outcome ≤ v.clock ∨ ∃ entry ∈ later, Evicts lib apiKey keyId entry

/-- Whenever no request for the id is in flight, none was ever made or the last one is answered. -/
def Settled (lib : KeyLibrary Key) (apiKey : Option String) (keyId : KeyId)
    (history : List (Entry Key)) (v : Verifier Key) : Prop :=
  v.inFlight.get keyId = none → (∀ entry ∈ history, ¬ Asks lib apiKey keyId entry) ∨
    ∃ later answered rest outcome t, Quiet lib apiKey keyId history v later answered rest outcome t

variable (lib apiKey v) in
theorem next_clock (event : WebhookEvent) : ((webhook lib apiKey).next v event).clock = event.time := by
  cases event with
  | post client request arrived now again =>
    simp only [webhook, WebhookEvent.time]
    have posted := post_posted lib apiKey v client request arrived now again
    generalize respond lib apiKey v (.post client request arrived now again) = result at posted
    cases posted <;> rfl
  | settle => rfl

theorem admits_time (admitted : (webhook lib apiKey).admits v event) : v.clock ≤ event.time := by
  cases event with
  | post =>
    obtain ⟨first, second, third⟩ := admitted
    exact (first.trans second).trans third
  | settle => exact admitted.1

theorem Quiet.step {later rest : List (Entry Key)} {answered : Entry Key} {outcome : FetchOutcome}
    {t : Nat} (quiet : Quiet lib apiKey keyId history v later answered rest outcome t)
    (admitted : (webhook lib apiKey).admits v event)
    (elsewhere : ∀ outcome now, event ≠ .settle keyId outcome now)
    (unasked : ¬ Asks lib apiKey keyId (v, event)) :
    Quiet lib apiKey keyId ((v, event) :: history) ((webhook lib apiKey).next v event)
      ((v, event) :: later) answered rest outcome t where
  split := by rw [quiet.split, List.cons_append]
  event := quiet.event
  unasked := List.forall_mem_cons.mpr ⟨unasked, quiet.unasked⟩
  kept := by
    have clock := next_clock lib apiKey v event
    have time := admits_time admitted
    obtain ⟨keys, failures, -⟩ := step_framed admitted elsewhere
    -- what is remembered stays, or is over, or is put out by this event
    rcases quiet.kept with ⟨key, known⟩ | ⟨error, known⟩ | past | ⟨entry, member, evicts⟩
    · rcases keys.get with same | gone
      · exact .inl ⟨key, same.trans known⟩
      · by_cases live : event.time < t + ttl lib keyId outcome
        · exact .inr (.inr (.inr ⟨_, List.mem_cons_self, .inl ⟨key, _, known, live, gone⟩⟩))
        · exact .inr (.inr (.inl (by omega)))
    · rcases failures.get with same | gone
      · exact .inr (.inl ⟨error, same.trans known⟩)
      · by_cases live : event.time < t + ttl lib keyId outcome
        · exact .inr (.inr (.inr ⟨_, List.mem_cons_self, .inr ⟨error, _, known, live, gone⟩⟩))
        · exact .inr (.inr (.inl (by omega)))
    · exact .inr (.inr (.inl (by omega)))
    · exact .inr (.inr (.inr ⟨entry, List.mem_cons_of_mem _ member, evicts⟩))

theorem Settled.step (settled : Settled lib apiKey keyId history v)
    (admitted : (webhook lib apiKey).admits v event) :
    Settled lib apiKey keyId ((v, event) :: history) ((webhook lib apiKey).next v event) := by
  intro landed
  by_cases own : ∃ outcome now, event = .settle keyId outcome now
  · -- the answer has just come
    obtain ⟨outcome, now, rfl⟩ := own
    refine .inr ⟨[], (v, .settle keyId outcome now), history, outcome, now, rfl, rfl, by simp, ?_⟩
    obtain ⟨-, ⟨key, -, known, -⟩ | ⟨error, known, -⟩⟩ :=
      step_settle lib apiKey v keyId outcome now
    · exact .inl ⟨key, known⟩
    · exact .inr (.inl ⟨error, known⟩)
  · push Not at own
    obtain ⟨-, -, flight⟩ := step_framed admitted own
    have before : v.inFlight.get keyId = none := by
      by_contra flying
      exact flight flying landed
    have unasked : ¬ Asks lib apiKey keyId (v, event) := fun asks => asks.2 landed
    rcases settled before with never | ⟨later, answered, rest, outcome, t, quiet⟩
    · exact .inl (List.forall_mem_cons.mpr ⟨unasked, never⟩)
    · exact .inr ⟨_, answered, rest, outcome, t, quiet.step admitted own unasked⟩

theorem settle_not_asks {v₀ : Verifier Key} {outcome : FetchOutcome} {now : Nat} {asked : KeyId} :
    ¬ Asks lib apiKey keyId (v₀, .settle asked outcome now) := by
  rintro ⟨idle, flying⟩
  apply flying
  simp only [webhook, respond]
  rcases settleKey_cases lib v₀ asked now outcome with
    ⟨key, -, -, same⟩ | ⟨error, ttlMs, -, -, same⟩
  · simp only at idle
    simp [same, OrderedMap.get_delete, idle]
  · simp only at idle
    simp [same, OrderedMap.get_delete, idle]

/-- The service is asked when nothing that is not over is remembered. -/
theorem Asks.past (admitted : (webhook lib apiKey).admits v event)
    (asks : Asks lib apiKey keyId (v, event)) :
    (∀ key expiresAt, v.keys.get keyId = some (key, expiresAt) → expiresAt ≤ event.time) ∧
      ∀ error expiresAt, v.failures.get keyId = some (error, expiresAt) → expiresAt ≤ event.time := by
  cases event with
  | post client request arrived now again =>
    obtain ⟨-, -, ordered⟩ := admitted
    obtain ⟨idle, flying⟩ := asks
    simp only [webhook, WebhookEvent.time] at idle flying ⊢
    have posted := post_posted lib apiKey v client request arrived now again
    generalize respond lib apiKey v (.post client request arrived now again) = result at posted flying
    cases posted with
    | turnedAway denied => exact absurd idle flying
    | cached complete id known => exact absurd idle flying
    | failed known => exact absurd idle flying
    | waits complete id noKey noFailure =>
      dsimp only at flying
      rw [OrderedMap.get_set] at flying
      split at flying
      next same =>
        subst same
        constructor
        · intro key expiresAt held
          exact (fresh_eq_none.mp noKey key expiresAt held).trans ordered
        · exact fresh_eq_none.mp noFailure
      next => exact absurd idle flying
  | settle => exact absurd asks settle_not_asks

/-- Of two ways to cut a list, the cut at an element that the one part does not hold comes later. -/
theorem cut_of_append_eq {α : Type} {between oldest later rest : List α} {first answered : α}
    (same : between ++ first :: oldest = later ++ answered :: rest) (outside : first ∉ later)
    (different : first ≠ answered) : ∃ middle, between = later ++ answered :: middle := by
  rcases List.append_eq_append_iff.mp same with ⟨tail, rfl, rest_⟩ | ⟨tail, rfl, rest_⟩
  · cases tail with
    | nil =>
      rw [List.nil_append, List.cons.injEq] at rest_
      exact absurd rest_.1 different
    | cons head tail =>
      rw [List.cons_append, List.cons.injEq] at rest_
      exact absurd (List.mem_append_right _ (rest_.1 ▸ List.mem_cons_self)) outside
  · cases tail with
    | nil =>
      rw [List.nil_append, List.cons.injEq] at rest_
      exact absurd rest_.1.symm different
    | cons head tail =>
      rw [List.cons_append, List.cons.injEq] at rest_
      exact ⟨tail, by rw [rest_.1]⟩

theorem sizes_step (small : v.keys.size ≤ CAPACITY ∧ v.failures.size ≤ CAPACITY)
    (event : WebhookEvent) : ((webhook lib apiKey).next v event).keys.size ≤ CAPACITY ∧
      ((webhook lib apiKey).next v event).failures.size ≤ CAPACITY := by
  have positive : 0 < CAPACITY := by decide
  cases event with
  | post client request arrived now again =>
    simp only [webhook]
    have posted := post_posted lib apiKey v client request arrived now again
    generalize respond lib apiKey v (.post client request arrived now again) = result at posted
    cases posted with
    | turnedAway denied => exact small
    | cached complete id known => exact small
    | failed known => exact ⟨size_dropExpired_le.trans small.1, small.2⟩
    | waits complete id noKey noFailure =>
      exact ⟨size_dropExpired_le.trans small.1, size_dropExpired_le.trans small.2⟩
  | settle keyId outcome now =>
    simp only [webhook, respond]
    rcases settleKey_cases lib v keyId now outcome with
      ⟨key, -, -, same⟩ | ⟨error, ttlMs, -, -, same⟩
    · rw [same]
      exact ⟨OrderedMap.size_remember_le positive small.1, small.2⟩
    · rw [same]
      exact ⟨small.1, OrderedMap.size_remember_le positive small.2⟩

/-- A request without a reply waits, or was replied to when the answer for its id came. -/
def Heard (lib : KeyLibrary Key) (apiKey : Option String) (history : List (Entry Key))
    (v : Verifier Key) (request : WebhookRequest) (receivedAt : Nat) : Prop :=
  ∃ keyId input, request.input = some input ∧ input.keyId = keyId.1 ∧
    ((∃ waiters, v.inFlight.get keyId = some waiters ∧ ⟨request, receivedAt, input⟩ ∈ waiters) ∨
      ∃ v₀ outcome t reply, (v₀, .settle keyId outcome t) ∈ history ∧
        (request, receivedAt, reply) ∈ (respond lib apiKey v₀ (.settle keyId outcome t)).1)

theorem Heard.step {request : WebhookRequest} {receivedAt : Nat}
    (heard : Heard lib apiKey history v request receivedAt) (event : WebhookEvent) :
    Heard lib apiKey ((v, event) :: history) ((webhook lib apiKey).next v event) request
      receivedAt := by
  obtain ⟨keyId, input, complete, id, ⟨waiters, flying, member⟩ | ⟨v₀, outcome, t, reply, there, said⟩⟩ :=
    heard
  · refine ⟨keyId, input, complete, id, ?_⟩
    cases event with
    | post client other arrived now again =>
      left
      simp only [webhook]
      have posted := post_posted lib apiKey v client other arrived now again
      generalize respond lib apiKey v (.post client other arrived now again) = result at posted
      cases posted with
      | turnedAway denied => exact ⟨waiters, flying, member⟩
      | cached complete id known => exact ⟨waiters, flying, member⟩
      | failed known => exact ⟨waiters, flying, member⟩
      | waits complete id noKey noFailure =>
        dsimp only
        rw [OrderedMap.get_set]
        split
        next same =>
          subst same
          exact ⟨_, rfl, List.mem_append_left _ (by simpa [flying] using member)⟩
        next => exact ⟨waiters, flying, member⟩
    | settle asked outcome now =>
      by_cases own : keyId = asked
      · subst own
        refine .inr ⟨v, outcome, now, replyTo lib input (settleKey lib v keyId outcome now).1,
          List.mem_cons_self, ?_⟩
        simp only [respond, flying, Option.getD_some]
        exact List.mem_map.mpr ⟨⟨request, receivedAt, input⟩, member, rfl⟩
      · left
        simp only [webhook, respond]
        rcases settleKey_cases lib v asked now outcome with
          ⟨key, -, -, same⟩ | ⟨error, ttlMs, -, -, same⟩
        · exact ⟨waiters, by simp [same, OrderedMap.get_delete, own, flying], member⟩
        · exact ⟨waiters, by simp [same, OrderedMap.get_delete, own, flying], member⟩
  · exact ⟨keyId, input, complete, id, .inr ⟨v₀, outcome, t, reply, List.mem_cons_of_mem _ there, said⟩⟩

theorem heard_of_unanswered {client : ClientKey} {request : WebhookRequest} {arrived now again : Nat}
    (silent : (respond lib apiKey v (.post client request arrived now again)).1 = []) :
    Heard lib apiKey history
      ((webhook lib apiKey).next v (.post client request arrived now again)) request now := by
  simp only [webhook]
  have posted := post_posted lib apiKey v client request arrived now again
  generalize respond lib apiKey v (.post client request arrived now again) = result at posted silent
  cases posted with
  | turnedAway denied => cases silent
  | cached complete id known => cases silent
  | failed known => cases silent
  | @waits clients keyId input complete id noKey noFailure =>
    refine ⟨keyId, input, complete, id, .inl ⟨(v.inFlight.get keyId).getD [] ++ [⟨request, now, input⟩],
      ?_, List.mem_append_right _ List.mem_cons_self⟩⟩
    dsimp only
    rw [OrderedMap.get_set, if_pos rfl]

end Spacing

section Results

variable {Key : Type} {lib : KeyLibrary Key} {apiKey : Option String} {v : Verifier Key}

/-- A notification reaches the processor only with a signature that verifies under a key which the
key service has returned for the id in its header, in a response of this verifier's own that came
less than a day before the notification, or after it. -/
theorem webhook_authentic {history : List (Entry Key)}
    (run : Run (webhook lib apiKey) {} history v) {event : WebhookEvent}
    (admitted : (webhook lib apiKey).admits v event) {request : WebhookRequest} {receivedAt : Nat}
    (accepted : (request, receivedAt, .accepted) ∈ (respond lib apiKey v event).1) :
    ∃ input keyId v₀ status json t key, request.input = some input ∧ input.keyId = keyId.1 ∧
      (v₀, .settle keyId (.response status (some json)) t) ∈ (v, event) :: history ∧
      200 ≤ status ∧ status ≤ 299 ∧ keyOf lib keyId json = some key ∧
      lib.verify key input.body input.signature = true ∧ receivedAt < t + KEY_TTL := by
  have start : Authentic lib [] ({} : Verifier Key) := by
    constructor
    · intro keyId key expiresAt held
      cases held
    · intro keyId waiters held
      cases held
  have authentic : Authentic lib history v :=
    run.historyInvariant (Authentic lib) start fun _ _ event _ authentic admitted =>
      authentic.step event admitted
  cases event with
  | post client posted arrived now again =>
    have cases_ := post_posted lib apiKey v client posted arrived now again
    generalize respond lib apiKey v (.post client posted arrived now again) = result
      at cases_ accepted
    cases cases_ with
    | turnedAway denied =>
      rw [List.mem_singleton, Prod.mk.injEq, Prod.mk.injEq] at accepted
      exact absurd accepted.2.2.symm denied
    -- the key was in the cache, so the settlement that put it there is in the history
    | @cached clients keyId input key complete id known =>
      rw [List.mem_singleton, Prod.mk.injEq, Prod.mk.injEq] at accepted
      obtain ⟨rfl, rfl, said⟩ := accepted
      obtain ⟨_, same, verified⟩ := replyTo_accepted said.symm
      cases same
      obtain ⟨expiresAt, held, live⟩ := fresh_eq_some.mp known
      obtain ⟨v₀, outcome, t, member, ok, rfl⟩ := authentic.keys keyId key expiresAt held
      obtain ⟨status, json, rfl, low, high, found⟩ := fetched_ok ok
      exact ⟨input, keyId, v₀, status, json, t, key, complete, id, List.mem_cons_of_mem _ member,
        low, high, found, verified, live⟩
    | failed known =>
      rw [List.mem_singleton, Prod.mk.injEq, Prod.mk.injEq] at accepted
      obtain ⟨_, wrong, -⟩ := replyTo_accepted accepted.2.2.symm
      cases wrong
    -- nothing is answered yet to one who waits
    | waits complete id noKey noFailure => cases accepted
  | settle keyId outcome now =>
    obtain ⟨clock, flying⟩ := admitted
    obtain ⟨waiters, flying⟩ := Option.isSome_iff_exists.mp flying
    simp only [respond, flying, Option.getD_some, List.mem_map, Prod.mk.injEq] at accepted
    obtain ⟨waiter, member, rfl, rfl, said⟩ := accepted
    obtain ⟨complete, id, time⟩ := authentic.waiting keyId waiters flying waiter member
    obtain ⟨key, answered, verified⟩ := replyTo_accepted said
    -- every waiter is answered with the outcome that settles the request
    rcases settleKey_cases lib v keyId now outcome with
      ⟨key', ok, -, same⟩ | ⟨error, ttlMs, -, -, same⟩
    · rw [same] at answered
      cases answered
      obtain ⟨status, json, rfl, low, high, found⟩ := fetched_ok ok
      have positive : 0 < KEY_TTL := by decide
      exact ⟨waiter.input, keyId, v, status, json, now, key, complete, id, List.mem_cons_self,
        low, high, found, verified, by omega⟩
    · rw [same] at answered
      cases answered

/-- Notifications of one key id share their requests to the key service: between two of them the
first is answered, and its answer is over or was put out of a full map before the second. The
maps hold a hundred entries at most, and a notification without a reply waits for the answer to
its id, or has got its reply with it. -/
theorem key_requests_shared {history : List (Entry Key)} (run : Run (webhook lib apiKey) {} history v) :
    (∀ keyId newest second between first oldest,
      history = newest ++ second :: (between ++ first :: oldest) →
      Asks lib apiKey keyId first → Asks lib apiKey keyId second →
      ∃ v₀ outcome t, (v₀, .settle keyId outcome t) ∈ between ∧
        (t + ttl lib keyId outcome ≤ second.2.time ∨
          ∃ entry ∈ between, Evicts lib apiKey keyId entry ∧
            (CAPACITY ≤ entry.1.keys.size ∨ CAPACITY ≤ entry.1.failures.size))) ∧
    (v.keys.size ≤ CAPACITY ∧ v.failures.size ≤ CAPACITY) ∧
    ∀ v₀ client request arrived now again, (v₀, .post client request arrived now again) ∈ history →
      (respond lib apiKey v₀ (.post client request arrived now again)).1 = [] →
      Heard lib apiKey history v request now := by
  refine ⟨?_, ?_, ?_⟩
  · rintro keyId newest ⟨v₂, event⟩ between ⟨v₁, event₁⟩ oldest rfl first second
    obtain ⟨before, admitted, -⟩ := run.cut
    have settled : Settled lib apiKey keyId (between ++ (v₁, event₁) :: oldest) v₂ :=
      before.historyInvariant (Settled lib apiKey keyId)
        (fun _ => .inl fun entry member => by cases member)
        fun _ _ _ _ settled admitted => settled.step admitted
    -- between two requests for one id the first has settled
    rcases settled second.1 with never | ⟨later, ⟨v₀, event₀⟩, rest, outcome, t, quiet⟩
    · exact absurd first (never _ (List.mem_append_right _ List.mem_cons_self))
    · have isSettle : event₀ = .settle keyId outcome t := quiet.event
      subst isSettle
      have different : (v₁, event₁) ≠ (v₀, .settle keyId outcome t) := by
        intro same
        rw [same] at first
        exact settle_not_asks first
      obtain ⟨middle, rfl⟩ := cut_of_append_eq quiet.split
        (fun member => quiet.unasked _ member first) different
      refine ⟨v₀, outcome, t, List.mem_append_right _ List.mem_cons_self, ?_⟩
      obtain ⟨keysPast, failuresPast⟩ := second.past admitted
      have time := admits_time admitted
      -- its answer stood in a cache until it lapsed or made room
      rcases quiet.kept with ⟨key, known⟩ | ⟨error, known⟩ | past | ⟨entry, member, evicts⟩
      · exact .inl (keysPast _ _ known)
      · exact .inl (failuresPast _ _ known)
      · exact .inl (past.trans time)
      · have inside : entry ∈ later ++ (v₀, WebhookEvent.settle keyId outcome t) :: middle :=
          List.mem_append_left _ member
        obtain ⟨_, _, _, _, admitted, _⟩ := before.of_mem (List.mem_append_left _ inside)
        exact .inr ⟨entry, inside, evicts, Evicts.crowded admitted evicts⟩
  · exact run.invariant (fun v => v.keys.size ≤ CAPACITY ∧ v.failures.size ≤ CAPACITY)
      ⟨Nat.zero_le _, Nat.zero_le _⟩ fun v event small _ => sizes_step small event
  · refine run.historyInvariant (fun history v =>
      ∀ v₀ client request arrived now again, (v₀, .post client request arrived now again) ∈ history →
        (respond lib apiKey v₀ (.post client request arrived now again)).1 = [] →
        Heard lib apiKey history v request now) (fun _ _ _ _ _ _ member => by cases member) ?_
    intro history v event _ ih _ v₀ client request arrived now again member silent
    rcases List.mem_cons.mp member with same | older
    · cases same
      exact heard_of_unanswered silent
    · exact (ih v₀ client request arrived now again older silent).step event

end Results

namespace CircleWebhookWalkthrough

def lib : KeyLibrary String where
  createPublicKey
    | .string text => some text
    | _ => none
  verify key body signature := key = "MFkw" && body = [123, 125] && signature = "MEUC"

theorem keyId_fits : KEY_ID_PATTERN "879dc113-5ca4-4ff7-a6b7-54652083fcf8" = true := by
  decide +kernel

def keyId : KeyId := ⟨"879dc113-5ca4-4ff7-a6b7-54652083fcf8", keyId_fits⟩

theorem client_ne : "10.0.0.1" ≠ "" := by decide

def client : ClientKey := ⟨"10.0.0.1", client_ne⟩

def apiKey : Option String := some "TEST_API_KEY"

def signed : WebhookRequest := ⟨some "MEUC", some keyId.1, some [123, 125]⟩

def forged : WebhookRequest := ⟨some "MEUD", some keyId.1, some [123, 125]⟩

def response : Judge.JsonValue :=
  .object [("data", .object [("id", .string keyId.1), ("algorithm", .string "ECDSA_SHA_256"),
    ("publicKey", .string "MFkw")])]

/-- The service is down at first; half a minute later it returns the key that two requests wait
for. -/
def path : List WebhookEvent :=
  [.post client signed 0 0 0, .settle keyId (.response 503 none) 5, .post client signed 6 6 6,
    .post client signed 30005 30005 30005, .post client forged 30006 30006 30007,
    .settle keyId (.response 200 (some response)) 30010]

def reached : Verifier String := (webhook lib apiKey).replay {} path

def history : List (Entry String) := (webhook lib apiKey).record {} [] path

theorem run : Run (webhook lib apiKey) {} history reached := by
  refine (webhook lib apiKey).replay_run .refl path ⟨?_, ?_, ?_, ?_, ?_, ?_, trivial⟩
  · exact ⟨le_rfl, le_rfl, le_rfl⟩
  · exact ⟨by decide +kernel, by decide +kernel⟩
  · exact ⟨by decide +kernel, le_rfl, le_rfl⟩
  · exact ⟨by decide +kernel, le_rfl, le_rfl⟩
  · exact ⟨by decide +kernel, le_rfl, by decide⟩
  · exact ⟨by decide +kernel, by decide +kernel⟩

end CircleWebhookWalkthrough

open CircleWebhookWalkthrough in
theorem webhook_authentic_walkthrough :
    (history.map fun (v, event) => ((respond lib apiKey v event).1.map (·.2.2))) =
      [[.accepted, invalidSignature], [], [], [unavailable], [unavailable], []] ∧
    ∃ keyId v₀ outcome t, (v₀, .settle keyId outcome t) ∈
        (reached, .post client signed 30020 30020 30020) :: history ∧ 30020 < t + KEY_TTL := by
  refine ⟨by decide +kernel, ?_⟩
  have replied : (respond lib apiKey reached (.post client signed 30020 30020 30020)).1 =
      [(signed, 30020, .accepted)] := by decide +kernel
  have accepted : (signed, 30020, .accepted) ∈
      (respond lib apiKey reached (.post client signed 30020 30020 30020)).1 := by simp [replied]
  have admitted : (webhook lib apiKey).admits reached (.post client signed 30020 30020 30020) :=
    ⟨by decide +kernel, le_rfl, le_rfl⟩
  obtain ⟨input, keyId, v₀, status, json, t, key, -, -, member, -, -, -, -, recent⟩ :=
    webhook_authentic run admitted accepted
  exact ⟨keyId, v₀, _, t, member, recent⟩

open CircleWebhookWalkthrough in
theorem key_requests_shared_walkthrough : ∃ v₀ outcome t,
    (v₀, .settle keyId outcome t) ∈ (history.drop 3).take 2 ∧
      (t + ttl lib keyId outcome ≤ 30005 ∨
        ∃ entry ∈ (history.drop 3).take 2, Evicts lib apiKey keyId entry) := by
  obtain ⟨v₀, outcome, t, member, past⟩ := (key_requests_shared run).1 keyId (history.take 2)
    (history.get ⟨2, by decide +kernel⟩) ((history.drop 3).take 2)
    (history.get ⟨5, by decide +kernel⟩) [] rfl ⟨by decide +kernel, by decide +kernel⟩
    ⟨by decide +kernel, by decide +kernel⟩
  refine ⟨v₀, outcome, t, member, past.imp id ?_⟩
  rintro ⟨entry, inside, evicts, -⟩
  exact ⟨entry, inside, evicts⟩

end VapiArc.Review.CircleWebhook
