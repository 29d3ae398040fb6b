import VapiArc.Lib.OrderedMap
import VapiArc.Lib.Transition

/-!
# The fixed window rate limit

`fixedWindowRateLimit` counts the requests of each client in a window that the client's first
request opens. It keeps at most a thousand windows, and makes room by dropping those that are
over, or else the oldest one.
-/
namespace VapiArc.Review.RateLimit

open Transition

/-- `request.ip || request.socket.remoteAddress || "unknown"`, no empty text -/
abbrev ClientKey := { key : String // key ≠ "" }

theorem unknown_ne : "unknown" ≠ "" := by decide

def clientKey (ip remoteAddress : Option String) : ClientKey :=
  let truthy (value : Option String) : Option ClientKey :=
    value.bind fun text => if h : text ≠ "" then some ⟨text, h⟩ else none
  ((truthy ip).or (truthy remoteAddress)).getD ⟨"unknown", unknown_ne⟩

structure Window where
  count : Nat
  resetsAt : Nat
  deriving DecidableEq

structure ResponseDetails where
  code : String := "rate_limited"
  message : String := "Too many Circle webhook verification attempts"
  deriving DecidableEq

/-- The parameters that a route mounts the limit with. -/
structure Mount where
  limit : Nat
  windowMs : Nat
  responseDetails : ResponseDetails := {}

def circleWebhookMount : Mount := { limit := 60, windowMs := 60000 }

def reviewOrdersMount : Mount where
  limit := 10
  windowMs := 60000
  responseDetails :=
    { code := "review_purchase_rate_limited", message := "Too many review purchase attempts" }

inductive Answer where
  | next
  /-- Status 429 with the header `retry-after`, in seconds. -/
  | refused (retryAfter : Nat) (details : ResponseDetails)
  deriving DecidableEq

abbrev Clients := OrderedMap ClientKey Window

def MAX_CLIENTS : Nat := 1000

/-- The map once there is room for one more client. -/
def makeRoom (clients : Clients) (now : Nat) : Clients :=
  if MAX_CLIENTS ≤ clients.size then
    let live := clients.keep fun _ state => now < state.resetsAt
    if MAX_CLIENTS ≤ live.size then live.deleteOldest else live
  else clients

/-- `Math.ceil(ms / 1_000)` -/
def ceilSeconds (ms : Nat) : Nat := (ms + 999) / 1000

def fixedWindowRateLimit (mount : Mount) (clients : Clients) (key : ClientKey) (now : Nat) :
    Answer × Clients :=
  let opened :=
    (Answer.next, (makeRoom clients now).set key { count := 1, resetsAt := now + mount.windowMs })
  match clients.get key with
  | none => opened
  | some current =>
    if current.resetsAt ≤ now then opened
    else
      let clients := clients.set key { current with count := current.count + 1 }
      if mount.limit < current.count + 1 then
        (.refused (ceilSeconds (current.resetsAt - now)) mount.responseDetails, clients)
      else (.next, clients)

/-! ### The limit over all requests -/

structure Request where
  key : ClientKey
  now : Nat

/-- The map, and the time of the last request. -/
structure Limiter where
  clients : Clients := .empty
  clock : Nat := 0

def Limiter.answer (mount : Mount) (s : Limiter) (request : Request) : Answer :=
  (fixedWindowRateLimit mount s.clients request.key request.now).1

/-- Requests come in the order of the clock. -/
def limiter (mount : Mount) : System Limiter Request where
  admits s request := s.clock ≤ request.now
  next s request :=
    { clients := (fixedWindowRateLimit mount s.clients request.key request.now).2
      clock := request.now }

abbrev Log := List (Limiter × Request)

/-- How many requests of a client were let through at times with a property. -/
def passes (mount : Mount) (log : Log) (client : ClientKey) (during : Nat → Bool) : Nat :=
  log.countP fun (s, request) =>
    decide (s.answer mount request = .next) && decide (request.key = client) && during request.now

/-- The window of the client that is open. -/
def Limiter.open_ (s : Limiter) (client : ClientKey) (now : Nat) : Option Window :=
  (s.clients.get client).filter fun window => now < window.resetsAt

/-- A request that takes away the window of a client while it is open. -/
def Evicts (mount : Mount) (client : ClientKey) (entry : Limiter × Request) : Prop :=
  (entry.1.open_ client entry.2.now).isSome = true ∧
    ((limiter mount).next entry.1 entry.2).open_ client entry.2.now = none

section Steps

variable {mount : Mount} {clients : Clients} {client : ClientKey} {now : Nat} {s : Limiter}
  {request : Request}

theorem get_live :
    (clients.keep fun _ state => now < state.resetsAt).get client = clients.get client ∨
      (clients.keep fun _ state => now < state.resetsAt).get client = none := by
  rw [OrderedMap.get_keep]
  cases clients.get client with
  | none => exact .inl rfl
  | some window =>
    by_cases live : now < window.resetsAt
    · simp [live]
    · right
      simpa using live

/-- To make room is to take windows away. -/
theorem get_makeRoom : (makeRoom clients now).get client = clients.get client ∨
    (makeRoom clients now).get client = none := by
  unfold makeRoom
  split
  · dsimp only
    split
    · rw [OrderedMap.get_deleteOldest]
      split
      · exact .inr rfl
      · exact get_live
    · exact get_live
  · exact .inl rfl

variable (now) in
theorem size_makeRoom (small : clients.size ≤ MAX_CLIENTS) :
    (makeRoom clients now).size < MAX_CLIENTS := by
  unfold makeRoom
  split
  · dsimp only
    have kept : (clients.keep fun _ state => now < state.resetsAt).size ≤ clients.size :=
      OrderedMap.size_keep_le
    split
    · rw [OrderedMap.size_deleteOldest]
      have some_ : 0 < MAX_CLIENTS := by decide
      omega
    · omega
  · omega

variable (mount s request) in
/-- A request without an open window opens one and is let through; one with an open window is
counted, and let through up to the limit. -/
theorem step_own : ∃ window,
    ((limiter mount).next s request).clients.get request.key = some window ∧
    ((s.open_ request.key request.now = none ∧ s.answer mount request = .next ∧
        window = ⟨1, request.now + mount.windowMs⟩) ∨
      ∃ current, s.open_ request.key request.now = some current ∧
        window = { current with count := current.count + 1 } ∧
        s.answer mount request =
          if mount.limit < current.count + 1 then
            .refused (ceilSeconds (current.resetsAt - request.now)) mount.responseDetails
          else .next) := by
  simp only [limiter, Limiter.answer, Limiter.open_, fixedWindowRateLimit]
  cases s.clients.get request.key with
  | none =>
    refine ⟨⟨1, request.now + mount.windowMs⟩, ?_, .inl ⟨rfl, rfl, rfl⟩⟩
    simp [OrderedMap.get_set]
  | some current =>
    by_cases past : current.resetsAt ≤ request.now
    · refine ⟨⟨1, request.now + mount.windowMs⟩, ?_, .inl ?_⟩
      · simp [past, OrderedMap.get_set]
      · simp [past]
    · refine ⟨{ current with count := current.count + 1 }, ?_, .inr ⟨current, ?_, rfl, ?_⟩⟩
      · simp only [past, if_false]
        split <;> simp [OrderedMap.get_set]
      · simpa using past
      · simp only [past, if_false]
        split <;> rfl

variable (mount s) in
/-- Another client's window stays as it is or is taken away. -/
theorem step_other (other : client ≠ request.key) :
    ((limiter mount).next s request).clients.get client = s.clients.get client ∨
      ((limiter mount).next s request).clients.get client = none := by
  have opened {window : Window} :
      ((makeRoom s.clients request.now).set request.key window).get client = s.clients.get client ∨
        ((makeRoom s.clients request.now).set request.key window).get client = none := by
    rw [OrderedMap.get_set, if_neg other]
    exact get_makeRoom
  simp only [limiter, fixedWindowRateLimit]
  cases s.clients.get request.key with
  | none => exact opened
  | some current =>
    dsimp only
    split
    · exact opened
    · left
      split <;> simp [OrderedMap.get_set, other]

theorem step_size (small : s.clients.size ≤ MAX_CLIENTS) :
    ((limiter mount).next s request).clients.size ≤ MAX_CLIENTS := by
  have opened {window : Window} :
      ((makeRoom s.clients request.now).set request.key window).size ≤ MAX_CLIENTS := by
    have room := size_makeRoom request.now small
    exact OrderedMap.size_set_le.trans room
  simp only [limiter, fixedWindowRateLimit]
  cases found : s.clients.get request.key with
  | none => exact opened
  | some current =>
    have there : request.key ∈ s.clients.keys := OrderedMap.mem_keys.mpr ⟨current, found⟩
    dsimp only
    split
    · exact opened
    · split <;> simpa [OrderedMap.size_set_of_mem there] using small

end Steps

/-! ### Counting -/

section Counting

variable {mount : Mount} {log : Log} {client : ClientKey} {s : Limiter} {request : Request}

theorem passes_cons (during : Nat → Bool) : passes mount ((s, request) :: log) client during =
    passes mount log client during +
      if s.answer mount request = .next ∧ request.key = client ∧ during request.now = true then 1
      else 0 := by
  simp [passes, List.countP_cons, and_assoc]

theorem passes_mono {during other : Nat → Bool} (weaker : ∀ t, during t = true → other t = true) :
    passes mount log client during ≤ passes mount log client other := by
  apply List.countP_mono_left
  intro entry member counted
  simp only [Bool.and_eq_true] at counted ⊢
  exact ⟨counted.1, weaker _ counted.2⟩

variable (mount log client) in
theorem passes_later {a b : Nat} (ordered : a ≤ b) :
    passes mount log client (fun t => b ≤ t) ≤ passes mount log client (fun t => a ≤ t) := by
  apply passes_mono
  intro t late
  simp only [decide_eq_true_eq] at late ⊢
  omega

variable (mount log client) in
theorem passes_before (a b : Nat) :
    passes mount log client (fun t => a ≤ t && t < b) ≤ passes mount log client (fun t => a ≤ t) := by
  apply passes_mono
  intro t between
  simp only [Bool.and_eq_true] at between
  exact between.1

variable (mount log client) in
theorem passes_split {a b : Nat} (ordered : a ≤ b) :
    passes mount log client (fun t => a ≤ t) =
      passes mount log client (fun t => a ≤ t && t < b) + passes mount log client (fun t => b ≤ t) := by
  induction log with
  | nil => rfl
  | cons entry rest ih =>
    obtain ⟨s, request⟩ := entry
    simp only [passes_cons, ih]
    by_cases counted : s.answer mount request = .next ∧ request.key = client
    · simp only [counted, true_and, decide_eq_true_eq, Bool.and_eq_true]
      split <;> split <;> split <;> omega
    · have never (P : Prop) : ¬ (s.answer mount request = .next ∧ request.key = client ∧ P) :=
        fun all => counted ⟨all.1, all.2.1⟩
      simp [never]

end Counting

/-! ### What is let through -/

section Bound

variable {mount : Mount} {log : Log} {client : ClientKey} {s : Limiter} {request : Request}
  {now : Nat}

/-- Of a client without an open window: nothing was let through now, and no more than the limit
since less than a window ago. -/
structure Idle (mount : Mount) (log : Log) (client : ClientKey) (now : Nat) : Prop where
  before : passes mount log client (fun t => now ≤ t) = 0
  recent : ∀ a, now < a + mount.windowMs → passes mount log client (fun t => a ≤ t) ≤ mount.limit

/-- Of a client with a window: what it counts, and what the windows before it let through. -/
structure Counted (mount : Mount) (log : Log) (client : ClientKey) (window : Window) (start : Nat) :
    Prop where
  length : window.resetsAt = start + mount.windowMs
  within : passes mount log client (fun t => window.resetsAt ≤ t) = 0
  own : passes mount log client (fun t => start ≤ t) ≤ min window.count mount.limit
  earlier : ∀ a, start < a + mount.windowMs →
    passes mount log client (fun t => a ≤ t && t < start) ≤ mount.limit

def Bounded (mount : Mount) (log : Log) (client : ClientKey) (s : Limiter) : Prop :=
  match s.clients.get client with
  | none => Idle mount log client s.clock
  | some window => ∃ start ≤ s.clock, Counted mount log client window start

theorem Idle.mono (idle : Idle mount log client now) {later : Nat} (after : now ≤ later) :
    Idle mount log client later where
  before := by
    have fewer := passes_later mount log client after
    rw [idle.before] at fewer
    omega
  recent a near := idle.recent a (by omega)

/-- A window that is over leaves its client idle. -/
theorem Bounded.idle (bounded : Bounded mount log client s) (after : s.clock ≤ now)
    (closed : s.open_ client now = none) : Idle mount log client now := by
  unfold Bounded at bounded
  unfold Limiter.open_ at closed
  cases found : s.clients.get client with
  | none =>
    rw [found] at bounded
    exact bounded.mono after
  | some window =>
    rw [found] at bounded closed
    obtain ⟨start, -, length, within, own, -⟩ := bounded
    have past : window.resetsAt ≤ now := by simpa using closed
    constructor
    · have fewer := passes_later mount log client past
      omega
    · intro a near
      have fewer := passes_later mount log client (a := start) (b := a) (by omega)
      omega

/-- What an idle client is let through with opens a window that counts it. -/
theorem Idle.opened (idle : Idle mount log client now) (long : 0 < mount.windowMs)
    (positive : 0 < mount.limit) (passed : s.answer mount request = .next)
    (key : request.key = client) (time : request.now = now) :
    Counted mount ((s, request) :: log) client ⟨1, now + mount.windowMs⟩ now := by
  have within := (idle.mono (Nat.le_add_right now mount.windowMs)).before
  constructor
  · rfl
  · simp only [passes_cons, within, passed, key, time, true_and, decide_eq_true_eq]
    rw [if_neg (by omega)]
  · simp only [passes_cons, idle.before, passed, key, time, true_and, decide_eq_true_eq, le_refl,
      if_true]
    omega
  · intro a near
    have fewer := passes_before mount log client a now
    have few := idle.recent a near
    simp only [passes_cons, time, Bool.and_eq_true, decide_eq_true_eq, lt_irrefl, and_false,
      if_false]
    omega

/-- A request with an open window is counted in it. -/
theorem Counted.counted {window : Window} {start : Nat}
    (counted : Counted mount log client window start) (after : start ≤ request.now)
    (live : request.now < window.resetsAt)
    (answer : s.answer mount request = .next → window.count < mount.limit) :
    Counted mount ((s, request) :: log) client { window with count := window.count + 1 } start := by
  obtain ⟨length, within, own, earlier⟩ := counted
  constructor
  · exact length
  · simp only [passes_cons, within, decide_eq_true_eq]
    rw [if_neg (by omega)]
  · simp only [passes_cons]
    split
    next passed =>
      have room := answer passed.1
      omega
    next => omega
  · intro a near
    have few := earlier a near
    simp only [passes_cons, Bool.and_eq_true, decide_eq_true_eq]
    rw [if_neg (by omega)]
    exact few

/-- A request of somebody else is not counted. -/
theorem passes_other (other : request.key ≠ client) (during : Nat → Bool) :
    passes mount ((s, request) :: log) client during = passes mount log client during := by
  simp [passes_cons, other]

theorem Bounded.step (bounded : Bounded mount log client s) (long : 0 < mount.windowMs)
    (positive : 0 < mount.limit) (after : s.clock ≤ request.now)
    (kept : ¬ Evicts mount client (s, request)) :
    Bounded mount ((s, request) :: log) client ((limiter mount).next s request) := by
  by_cases own : request.key = client
  · subst own
    obtain ⟨window, found, ⟨closed, passed, rfl⟩ | ⟨current, opened, rfl, answer⟩⟩ :=
      step_own mount s request
    · -- a new window opens, and what passed before it is older than a window
      simp only [Bounded, found]
      exact ⟨request.now, le_rfl, (bounded.idle after closed).opened long positive passed rfl rfl⟩
    · -- the window goes on, and lets the request pass only below the limit
      obtain ⟨held, live⟩ := Option.filter_eq_some_iff.mp opened
      simp only [Bounded, held] at bounded
      obtain ⟨start, begun, counted⟩ := bounded
      simp only [Bounded, found]
      refine ⟨start, begun.trans after, counted.counted (begun.trans after) (by simpa using live) ?_⟩
      intro passed
      rw [answer] at passed
      split at passed
      · cases passed
      · omega
  · have same : ∀ during, passes mount ((s, request) :: log) client during =
        passes mount log client during := passes_other own
    rcases step_other mount s (Ne.symm own) with found | gone
    · -- the window is as it was
      unfold Bounded at bounded ⊢
      rw [found]
      cases held : s.clients.get client with
      | none =>
        rw [held] at bounded
        have idle := Idle.mono bounded after
        exact ⟨by rw [same]; exact idle.before, fun a near => by rw [same]; exact idle.recent a near⟩
      | some window =>
        rw [held] at bounded
        obtain ⟨start, begun, counted⟩ := bounded
        refine ⟨start, begun.trans after, counted.length, ?_, ?_, ?_⟩
        · rw [same]
          exact counted.within
        · rw [same]
          exact counted.own
        · intro a near
          rw [same]
          exact counted.earlier a near
    · -- a window that is taken away was over
      have closed : s.open_ client request.now = none := by
        by_contra live
        refine kept ⟨Option.isSome_iff_ne_none.mpr live, ?_⟩
        simp [Limiter.open_, gone]
      have idle := bounded.idle after closed
      simp only [Bounded, gone]
      exact ⟨by rw [same]; exact idle.before, fun a near => by rw [same]; exact idle.recent a near⟩

/-- Two windows at most meet a time span that is no longer than they are. -/
theorem Bounded.span (bounded : Bounded mount log client s) {a : Nat}
    (near : s.clock < a + mount.windowMs) :
    passes mount log client (fun t => a ≤ t && t < a + mount.windowMs) ≤ 2 * mount.limit := by
  have within := passes_before mount log client a (a + mount.windowMs)
  unfold Bounded at bounded
  cases held : s.clients.get client with
  | none =>
    rw [held] at bounded
    have few := bounded.recent a near
    omega
  | some window =>
    rw [held] at bounded
    obtain ⟨start, begun, counted⟩ := bounded
    have own := counted.own
    by_cases ordered : a ≤ start
    · have split := passes_split mount log client ordered
      have few := counted.earlier a (by omega)
      omega
    · have fewer := passes_later mount log client (a := start) (b := a) (by omega)
      omega

end Bound

/-! ### Who is put out, and who is refused -/

section Refusal

variable {mount : Mount} {log : Log} {client : ClientKey} {s : Limiter} {request : Request}
  {now : Nat}

/-- The windows that are open. -/
def Limiter.live (s : Limiter) (now : Nat) : Clients := s.clients.keep fun _ state => now < state.resetsAt

theorem get_makeRoom_of_room {window : Window} (room : (s.live now).size < MAX_CLIENTS)
    (opened : s.open_ client now = some window) :
    (makeRoom s.clients now).get client = some window := by
  obtain ⟨held, live⟩ := Option.filter_eq_some_iff.mp opened
  unfold makeRoom
  split
  · have few : ¬ MAX_CLIENTS ≤ (s.clients.keep fun _ state => now < state.resetsAt).size :=
      not_le.mpr room
    dsimp only
    rw [if_neg few, OrderedMap.get_keep, held]
    simpa using live
  · exact held

/-- An open window is taken away only when a thousand are open. -/
theorem Evicts.crowded (evicts : Evicts mount client (s, request)) :
    MAX_CLIENTS ≤ (s.live request.now).size := by
  obtain ⟨opened, gone⟩ := evicts
  obtain ⟨window, opened⟩ := Option.isSome_iff_exists.mp opened
  obtain ⟨held, live⟩ := Option.filter_eq_some_iff.mp opened
  by_contra room
  have stays : ∃ window', ((limiter mount).next s request).clients.get client = some window' ∧
      window'.resetsAt = window.resetsAt := by
    by_cases own : request.key = client
    · subst own
      obtain ⟨window', found, ⟨closed, -⟩ | ⟨current, same, rfl, -⟩⟩ := step_own mount s request
      · rw [opened] at closed
        cases closed
      · rw [opened] at same
        cases same
        exact ⟨_, found, rfl⟩
    · have kept := get_makeRoom_of_room (not_le.mp room) opened
      refine ⟨window, ?_, rfl⟩
      simp only [limiter, fixedWindowRateLimit]
      cases s.clients.get request.key with
      | none => simp [OrderedMap.get_set, Ne.symm own, kept]
      | some current =>
        dsimp only
        split
        · simp [OrderedMap.get_set, Ne.symm own, kept]
        · split <;> simp [OrderedMap.get_set, Ne.symm own, held]
  obtain ⟨window', found, same⟩ := stays
  simp only [Limiter.open_, found, Option.filter_eq_none_iff, Option.some.injEq, decide_eq_true_eq,
    forall_eq'] at gone
  simp only [decide_eq_true_eq] at live
  omega

/-- Of every window: when it began, and that what it counts was let through since. -/
def Earned (mount : Mount) (log : Log) (s : Limiter) : Prop :=
  ∀ client window, s.clients.get client = some window →
    ∃ start ≤ s.clock, window.resetsAt = start + mount.windowMs ∧
      min window.count mount.limit ≤ passes mount log client fun t => start ≤ t

theorem Earned.step (earned : Earned mount log s) (after : s.clock ≤ request.now) :
    Earned mount ((s, request) :: log) ((limiter mount).next s request) := by
  intro client window found
  by_cases own : request.key = client
  · subst own
    obtain ⟨window', found', ⟨-, passed, rfl⟩ | ⟨current, opened, rfl, answer⟩⟩ :=
      step_own mount s request
    · cases found.symm.trans found'
      refine ⟨request.now, le_rfl, rfl, ?_⟩
      simp only [passes_cons, passed, true_and, decide_eq_true_eq, le_refl, if_true]
      omega
    · cases found.symm.trans found'
      obtain ⟨held, -⟩ := Option.filter_eq_some_iff.mp opened
      obtain ⟨start, begun, length, enough⟩ := earned _ _ held
      refine ⟨start, begun.trans after, length, ?_⟩
      simp only [passes_cons, answer, decide_eq_true_eq, begun.trans after, and_true]
      by_cases full : mount.limit < current.count + 1
      · simp only [full, if_true, reduceCtorEq, if_false]
        omega
      · simp only [full, if_false, if_true]
        omega
  · rcases step_other mount s (Ne.symm own) with same | gone
    · obtain ⟨start, begun, length, enough⟩ := earned client window (same ▸ found)
      refine ⟨start, begun.trans after, length, ?_⟩
      rw [passes_other own]
      exact enough
    · rw [gone] at found
      cases found

/-- A request that is refused found a window as full as the limit. -/
theorem answer_refused {retryAfter : Nat} {details : ResponseDetails}
    (refused : s.answer mount request = .refused retryAfter details) :
    ∃ current, s.open_ request.key request.now = some current ∧ mount.limit ≤ current.count ∧
      retryAfter = ceilSeconds (current.resetsAt - request.now) ∧
      details = mount.responseDetails ∧
      ((limiter mount).next s request).clients.get request.key =
        some { current with count := current.count + 1 } := by
  obtain ⟨window, found, ⟨-, passed, -⟩ | ⟨current, opened, rfl, answer⟩⟩ := step_own mount s request
  · rw [passed] at refused
    cases refused
  · rw [answer] at refused
    split at refused
    next full =>
      cases refused
      exact ⟨current, opened, by omega, rfl, rfl, found⟩
    next => cases refused

/-- While a client waits, its window changes in no other way than to be taken away. -/
theorem waiting {window : Window} {later : Log} {s' : Limiter}
    (there : s.clients.get client = some window) (run : Run (limiter mount) s later s')
    (waits : ∀ entry ∈ later, entry.2.key ≠ client) :
    s'.clients.get client = some window ∨ s'.clients.get client = none := by
  induction run with
  | refl => exact .inl there
  | step request run admitted ih =>
    rename_i history middle
    have other : client ≠ request.key := (waits _ List.mem_cons_self).symm
    have before := ih fun entry member => waits entry (List.mem_cons_of_mem _ member)
    rcases step_other mount middle other with same | gone
    · rw [same]
      exact before
    · exact .inr gone

theorem answer_closed (closed : s.open_ request.key request.now = none) :
    s.answer mount request = .next := by
  obtain ⟨window, -, ⟨-, passed, -⟩ | ⟨current, opened, -⟩⟩ := step_own mount s request
  · exact passed
  · rw [closed] at opened
    cases opened

end Refusal

/-- The map never outgrows its thousand places, and a client loses its window before time only
when a thousand are open. A client that never does is let through at most twice the limit in any
time span as long as a window, in whatever way it spreads its requests. -/
theorem rate_limit_bound {mount : Mount} (long : 0 < mount.windowMs) (positive : 0 < mount.limit)
    {log : Log} {s : Limiter} (run : Run (limiter mount) {} log s) :
    s.clients.size ≤ MAX_CLIENTS ∧
    (∀ entry ∈ log, ∀ client, Evicts mount client entry →
      MAX_CLIENTS ≤ (entry.1.live entry.2.now).size) ∧
    ∀ client, (∀ entry ∈ log, ¬ Evicts mount client entry) → ∀ a,
      passes mount log client (fun t => a ≤ t && t < a + mount.windowMs) ≤ 2 * mount.limit := by
  refine ⟨?_, fun entry _ client evicts => evicts.crowded, ?_⟩
  · exact run.invariant (fun s => s.clients.size ≤ MAX_CLIENTS) (Nat.zero_le _)
      fun s request small _ => step_size small
  · intro client
    -- the bound holds of what is over by now, and what is not meets two windows
    suffices kept : (∀ entry ∈ log, ¬ Evicts mount client entry) → Bounded mount log client s ∧
        ∀ a, passes mount log client (fun t => a ≤ t && t < a + mount.windowMs) ≤ 2 * mount.limit from
      fun calm => (kept calm).2
    refine run.historyInvariant (fun log s => (∀ entry ∈ log, ¬ Evicts mount client entry) →
      Bounded mount log client s ∧
        ∀ a, passes mount log client (fun t => a ≤ t && t < a + mount.windowMs) ≤ 2 * mount.limit) ?_ ?_
    · intro _
      exact ⟨⟨rfl, fun a _ => Nat.zero_le _⟩, fun a => Nat.zero_le _⟩
    · intro log s request _ ih admitted calm
      obtain ⟨bounded, before⟩ := ih fun entry member => calm entry (List.mem_cons_of_mem _ member)
      have bounded' := bounded.step long positive admitted (calm _ List.mem_cons_self)
      refine ⟨bounded', fun a => ?_⟩
      by_cases near : request.now < a + mount.windowMs
      · exact bounded'.span near
      · have same := before a
        simp only [passes_cons, Bool.and_eq_true, decide_eq_true_eq]
        rw [if_neg (by omega)]
        exact same

/-- Nobody is refused for what others do: a client that is refused was let through as often as the
limit says within the last window, and is let through again if it waits as long as it is told to. -/
theorem rate_limit_refusal {mount : Mount} {log : Log} {s : Limiter}
    (run : Run (limiter mount) {} log s) {request : Request} {retryAfter : Nat}
    {details : ResponseDetails} (refused : s.answer mount request = .refused retryAfter details) :
    0 < retryAfter ∧ details = mount.responseDetails ∧
    mount.limit ≤ passes mount log request.key (fun t => request.now < t + mount.windowMs) ∧
    ∀ later s', Run (limiter mount) ((limiter mount).next s request) later s' →
      (∀ entry ∈ later, entry.2.key ≠ request.key) →
      ∀ now, request.now + retryAfter * 1000 ≤ now → s'.answer mount ⟨request.key, now⟩ = .next := by
  have earned : Earned mount log s :=
    run.historyInvariant (Earned mount) (by intro client window found; cases found)
      fun log s request _ earned admitted => earned.step admitted
  obtain ⟨current, opened, full, rfl, rfl, found⟩ := answer_refused refused
  obtain ⟨held, live⟩ := Option.filter_eq_some_iff.mp opened
  rw [decide_eq_true_eq] at live
  obtain ⟨start, begun, length, enough⟩ := earned _ _ held
  refine ⟨by unfold ceilSeconds; omega, rfl, ?_, ?_⟩
  · calc mount.limit = min current.count mount.limit := (min_eq_right full).symm
      _ ≤ passes mount log request.key (fun t => start ≤ t) := enough
      _ ≤ _ := passes_mono fun t since => by
        simp only [decide_eq_true_eq] at since ⊢
        omega
  · intro later s' more waits now enoughWait
    apply answer_closed
    unfold ceilSeconds at enoughWait
    rcases waiting found more waits with there | gone
    · simp only [Limiter.open_, there, Option.filter_eq_none_iff, Option.some.injEq,
        decide_eq_true_eq, forall_eq']
      omega
    · simp [Limiter.open_, gone]

namespace RateLimitWalkthrough

theorem ada_ne : "10.0.0.1" ≠ "" := by decide

theorem bob_ne : "10.0.0.2" ≠ "" := by decide

def ada : ClientKey := ⟨"10.0.0.1", ada_ne⟩

def bob : ClientKey := ⟨"10.0.0.2", bob_ne⟩

/-- Nine at the end of one window and ten at the start of the next. -/
def path : List Request :=
  ⟨ada, 0⟩ :: ⟨bob, 1⟩ :: ((List.range 9).map fun i => ⟨ada, 59991 + i⟩) ++
    (List.range 10).map fun i => ⟨ada, 60000 + i⟩

def reached : Limiter := (limiter reviewOrdersMount).replay {} path

def log : Log := (limiter reviewOrdersMount).record {} [] path

theorem run : Run (limiter reviewOrdersMount) {} log reached :=
  (limiter reviewOrdersMount).replay_run .refl path
    (by simp [path, List.range, List.range.loop, System.AdmitsAll, limiter])

end RateLimitWalkthrough

open RateLimitWalkthrough in
theorem rate_limit_bound_walkthrough :
    passes reviewOrdersMount log ada (fun t => 59991 ≤ t && t < 119991) ≤ 20 ∧
      passes reviewOrdersMount log ada (fun t => 59991 ≤ t && t < 119991) = 19 := by
  have calm : ∀ entry ∈ log, ¬ Evicts reviewOrdersMount ada entry := by
    intro entry member evicts
    have crowded := (rate_limit_bound (by decide) (by decide) run).2.1 entry member ada evicts
    have few : ∀ entry ∈ log, (entry.1.live entry.2.now).size < MAX_CLIENTS := by decide +kernel
    exact absurd crowded (not_le.mpr (few entry member))
  exact ⟨(rate_limit_bound (by decide) (by decide) run).2.2 ada calm 59991, by decide +kernel⟩

open RateLimitWalkthrough in
theorem rate_limit_refusal_walkthrough :
    reached.answer reviewOrdersMount ⟨ada, 60010⟩ =
      .refused 60 reviewOrdersMount.responseDetails ∧
    ((limiter reviewOrdersMount).next reached ⟨ada, 60010⟩).answer reviewOrdersMount ⟨ada, 120010⟩ =
      .next := by
  have refused : reached.answer reviewOrdersMount ⟨ada, 60010⟩ =
      .refused 60 reviewOrdersMount.responseDetails := by decide +kernel
  have waits := (rate_limit_refusal run refused).2.2.2 [] _ .refl (by simp) 120010 (by decide)
  exact ⟨refused, waits⟩

end VapiArc.Review.RateLimit
