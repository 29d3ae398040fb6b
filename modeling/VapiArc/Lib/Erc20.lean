import VapiArc.Lib.Checked

/-!
# A standard token ledger

ERC-20 with ERC-3009 authorizations and neither transfer fees nor hooks.
`permits` is the token's own policy at the moment, such as a pause or a block
list: a transfer it refuses fails, and one it admits moves exactly its value.
Balances are natural numbers because the total supply bounds them.
-/
namespace Erc20

structure Ledger (A : Type) where
  balanceOf : A → Nat
  allowance : A → A → Nat
  authorizationUsed : A → Nat → Bool
  permits : A → A → Nat → Bool

inductive Fault where
  | invalidSender
  | invalidReceiver
  | invalidApprover
  | invalidSpender
  | insufficientBalance
  | insufficientAllowance
  | refused
  | callerMustBePayee
  | authorizationNotYetValid
  | authorizationExpired
  | authorizationAlreadyUsed
  | invalidSignature
  deriving DecidableEq, Repr

/-- An allowance of the largest word is never used up. -/
def unlimited : Nat := 2 ^ 256 - 1

/-- The share of `value` that falls to account `a` when `party` pays or gets it. -/
def share {A : Type} [DecidableEq A] (party a : A) (value : Nat) : Nat :=
  if a = party then value else 0

namespace Ledger

open Checked Function

variable {A : Type} [DecidableEq A]

/-- The balances after `src` pays `value` to `dst`. -/
def moved (l : Ledger A) (src dst : A) (value : Nat) : Ledger A :=
  let debited := update l.balanceOf src (l.balanceOf src - value)
  { l with balanceOf := update debited dst (debited dst + value) }

def approved (l : Ledger A) (owner spender : A) (value : Nat) : Ledger A :=
  { l with allowance := update l.allowance owner (update (l.allowance owner) spender value) }

def withAuthorizationUsed (l : Ledger A) (authorizer : A) (nonce : Nat) : Ledger A :=
  { l with authorizationUsed :=
      update l.authorizationUsed authorizer (update (l.authorizationUsed authorizer) nonce true) }

section Frame

variable (l : Ledger A) (src dst owner spender : A) (value : Nat)

@[simp] theorem moved_allowance : (l.moved src dst value).allowance = l.allowance := rfl
@[simp] theorem approved_balanceOf : (l.approved owner spender value).balanceOf = l.balanceOf := rfl

theorem approved_self : (l.approved owner spender value).allowance owner spender = value := by
  simp [approved]

theorem approved_allowance (o s : A) : (l.approved owner spender value).allowance o s =
    if o = owner ∧ s = spender then value else l.allowance o s := by
  by_cases ho : o = owner
  · subst ho
    by_cases hs : s = spender
    · simp [approved, hs]
    · simp [approved, hs]
  · simp [approved, ho]

theorem moved_balance (a : A) (covered : value ≤ l.balanceOf src) :
    (l.moved src dst value).balanceOf a + share src a value =
      l.balanceOf a + share dst a value := by
  unfold moved share
  -- paying oneself debits and credits the same entry
  by_cases hd : a = dst
  · by_cases hs : a = src
    · subst hd; subst hs; simp; omega
    · subst hd; simp [hs]
  · by_cases hs : a = src
    · subst hs; simp [hd]; omega
    · simp [hd, hs]

theorem moved_other (a : A) (notSrc : a ≠ src) :
    l.balanceOf a ≤ (l.moved src dst value).balanceOf a := by
  unfold moved
  by_cases hd : a = dst
  · subst hd; simp [notSrc]
  · simp [hd, notSrc]

omit l in
theorem moved_balanceOf_congr {l m : Ledger A} (same : m.balanceOf = l.balanceOf) :
    (m.moved src dst value).balanceOf = (l.moved src dst value).balanceOf := by
  simp [moved, same]

theorem moved_zero (a : A) : (l.moved src dst 0).balanceOf a = l.balanceOf a := by
  have balance := moved_balance l src dst 0 a (Nat.zero_le _)
  simpa [share] using balance

end Frame

variable [Zero A]

/-- `transfer`, on behalf of the account that pays. -/
def transfer (l : Ledger A) (src dst : A) (value : Nat) : Except Fault (Ledger A) := do
  revertIf (src = 0) .invalidSender
  revertIf (dst = 0) .invalidReceiver
  -- the token's own policy: pauses, blocklists and the like
  revertIf (l.permits src dst value = false) .refused
  revertIf (l.balanceOf src < value) .insufficientBalance
  return l.moved src dst value

def approve (l : Ledger A) (owner spender : A) (value : Nat) : Except Fault (Ledger A) := do
  revertIf (owner = 0) .invalidApprover
  revertIf (spender = 0) .invalidSpender
  return l.approved owner spender value

def spendAllowance (l : Ledger A) (owner spender : A) (value : Nat) : Except Fault (Ledger A) :=
  if l.allowance owner spender = unlimited then return l
  else do
    revertIf (l.allowance owner spender < value) .insufficientAllowance
    return l.approved owner spender (l.allowance owner spender - value)

def transferFrom (l : Ledger A) (spender src dst : A) (value : Nat) :
    Except Fault (Ledger A) := do
  let l ← l.spendAllowance src spender value
  l.transfer src dst value

/-- ERC-3009 `receiveWithAuthorization`. `signer` is the account that the signature
over the authorization recovers to. -/
def receiveWithAuthorization (l : Ledger A) (caller signer : A) (timestamp : Nat) (src dst : A)
    (value validAfter validBefore nonce : Nat) : Except Fault (Ledger A) := do
  revertIf (caller ≠ dst) .callerMustBePayee
  revertIf (timestamp ≤ validAfter) .authorizationNotYetValid
  revertIf (timestamp ≥ validBefore) .authorizationExpired
  revertIf (l.authorizationUsed src nonce = true) .authorizationAlreadyUsed
  revertIf (signer ≠ src) .invalidSignature
  (l.withAuthorizationUsed src nonce).transfer src dst value

def mint (l : Ledger A) (dst : A) (value : Nat) : Except Fault (Ledger A) := do
  revertIf (dst = 0) .invalidReceiver
  return { l with balanceOf := update l.balanceOf dst (l.balanceOf dst + value) }

/-! ### What a successful operation did -/

theorem transfer_ok (l l' : Ledger A) (src dst : A) (value : Nat) :
    l.transfer src dst value = .ok l' ↔ src ≠ 0 ∧ dst ≠ 0 ∧ l.permits src dst value = true ∧
      value ≤ l.balanceOf src ∧ l.moved src dst value = l' := by
  simp [transfer]

theorem approve_ok (l l' : Ledger A) (owner spender : A) (value : Nat) :
    l.approve owner spender value = .ok l' ↔
      owner ≠ 0 ∧ spender ≠ 0 ∧ l.approved owner spender value = l' := by
  simp [approve]

omit [Zero A] in
theorem spendAllowance_ok (l l' : Ledger A) (owner spender : A) (value : Nat) :
    l.spendAllowance owner spender value = .ok l' ↔
      (l.allowance owner spender = unlimited ∧ l = l') ∨
      (l.allowance owner spender ≠ unlimited ∧ value ≤ l.allowance owner spender ∧
        l.approved owner spender (l.allowance owner spender - value) = l') := by
  simp [spendAllowance]

theorem transferFrom_ok (l l' : Ledger A) (spender src dst : A) (value : Nat) :
    l.transferFrom spender src dst value = .ok l' ↔
      ∃ m, l.spendAllowance src spender value = .ok m ∧ m.transfer src dst value = .ok l' := by
  simp [transferFrom]

theorem receiveWithAuthorization_ok (l l' : Ledger A) (caller signer : A) (timestamp : Nat)
    (src dst : A) (value validAfter validBefore nonce : Nat) :
    l.receiveWithAuthorization caller signer timestamp src dst value validAfter validBefore nonce
        = .ok l' ↔
      caller = dst ∧ validAfter < timestamp ∧ timestamp < validBefore ∧
      l.authorizationUsed src nonce = false ∧ signer = src ∧
      (l.withAuthorizationUsed src nonce).transfer src dst value = .ok l' := by
  simp [receiveWithAuthorization]

theorem mint_ok (l l' : Ledger A) (dst : A) (value : Nat) :
    l.mint dst value = .ok l' ↔ dst ≠ 0 ∧
      { l with balanceOf := update l.balanceOf dst (l.balanceOf dst + value) } = l' := by
  simp [mint]

/-- `src` paid `value` to `dst` and no other balance changed. -/
def Paid (l l' : Ledger A) (src dst : A) (value : Nat) : Prop :=
  ∀ a, l'.balanceOf a + share src a value = l.balanceOf a + share dst a value

theorem transfer_paid {l l' : Ledger A} {src dst : A} {value : Nat}
    (h : l.transfer src dst value = .ok l') : Paid l l' src dst value := by
  obtain ⟨-, -, -, covered, rfl⟩ := (transfer_ok ..).mp h
  exact fun a => moved_balance l src dst value a covered

omit [Zero A] in
/-- Spending an allowance leaves the balances and every other allowance alone. -/
theorem spendAllowance_frame {l m : Ledger A} {owner spender : A} {value : Nat}
    (h : l.spendAllowance owner spender value = .ok m) :
    m.balanceOf = l.balanceOf ∧ m.permits = l.permits ∧
    (∀ o s, ¬ (o = owner ∧ s = spender) → m.allowance o s = l.allowance o s) ∧
    (l.allowance owner spender = 0 → value = 0 ∧ m.allowance owner spender = 0) := by
  -- a zero allowance is not the unlimited one, so it admits only the value zero
  rcases (spendAllowance_ok ..).mp h with ⟨all, rfl⟩ | ⟨-, enough, rfl⟩
  · refine ⟨rfl, rfl, fun _ _ _ => rfl, fun none => ?_⟩
    rw [none] at all
    exact absurd all (by decide)
  · refine ⟨rfl, rfl, fun o s other => ?_, fun none => ?_⟩
    · rw [approved_allowance, if_neg other]
    · rw [none] at enough ⊢
      rw [approved_self]
      omega

theorem transferFrom_paid {l l' : Ledger A} {spender src dst : A} {value : Nat}
    (h : l.transferFrom spender src dst value = .ok l') : Paid l l' src dst value := by
  obtain ⟨m, spent, paid⟩ := (transferFrom_ok ..).mp h
  obtain ⟨balances, -⟩ := spendAllowance_frame spent
  intro a
  rw [← balances]
  exact transfer_paid paid a

theorem transferFrom_allowance {l l' : Ledger A} {spender src dst : A} {value : Nat}
    (h : l.transferFrom spender src dst value = .ok l') (o s : A)
    (other : ¬ (o = src ∧ s = spender)) : l'.allowance o s = l.allowance o s := by
  obtain ⟨m, spent, paid⟩ := (transferFrom_ok ..).mp h
  obtain ⟨-, -, -, -, rfl⟩ := (transfer_ok ..).mp paid
  exact (spendAllowance_frame spent).2.2.1 o s other

/-- A transfer within the allowance succeeds, and the allowance shrinks by the value
unless it is unlimited. -/
theorem transferFrom_succeeds {l : Ledger A} (spender : A) {src dst : A} {value : Nat}
    (notZero : src ≠ 0) (receiver : dst ≠ 0) (admitted : l.permits src dst value = true)
    (covered : value ≤ l.balanceOf src)
    (allowed : l.allowance src spender = unlimited ∨ value ≤ l.allowance src spender) :
    ∃ l', l.transferFrom spender src dst value = .ok l' ∧ l'.permits = l.permits ∧
      (l.allowance src spender = unlimited ∧ l'.allowance src spender = unlimited ∨
        l'.allowance src spender + value = l.allowance src spender) := by
  by_cases all : l.allowance src spender = unlimited
  · refine ⟨l.moved src dst value, (transferFrom_ok ..).mpr ⟨l, ?_, ?_⟩, rfl, .inl ⟨all, all⟩⟩
    · exact (spendAllowance_ok ..).mpr (.inl ⟨all, rfl⟩)
    · exact (transfer_ok ..).mpr ⟨notZero, receiver, admitted, covered, rfl⟩
  · have enough : value ≤ l.allowance src spender := allowed.resolve_left all
    let m := l.approved src spender (l.allowance src spender - value)
    refine ⟨m.moved src dst value, (transferFrom_ok ..).mpr ⟨m, ?_, ?_⟩, rfl, .inr ?_⟩
    · exact (spendAllowance_ok ..).mpr (.inr ⟨all, enough, rfl⟩)
    · exact (transfer_ok ..).mpr ⟨notZero, receiver, admitted, covered, rfl⟩
    · rw [moved_allowance, approved_self]
      omega

theorem receiveWithAuthorization_paid {l l' : Ledger A} {caller signer : A} {timestamp : Nat}
    {src dst : A} {value validAfter validBefore nonce : Nat}
    (h : l.receiveWithAuthorization caller signer timestamp src dst value validAfter validBefore
      nonce = .ok l') : Paid l l' src dst value := by
  obtain ⟨-, -, -, -, -, moved⟩ := (receiveWithAuthorization_ok ..).mp h
  have paid : Paid (l.withAuthorizationUsed src nonce) l' src dst value := transfer_paid moved
  exact paid

/-! ### Sealed accounts

An account that granted no allowance can lose tokens only by its own calls. -/

def Sealed (l : Ledger A) (a : A) : Prop := ∀ spender, l.allowance a spender = 0

/-- `a` stays sealed and loses nothing. -/
def Keeps (l l' : Ledger A) (a : A) : Prop :=
  Sealed l a → Sealed l' a ∧ l.balanceOf a ≤ l'.balanceOf a

omit [DecidableEq A] [Zero A] in
theorem Keeps.refl (l : Ledger A) (a : A) : Keeps l l a := fun sealed => ⟨sealed, Nat.le_refl _⟩

theorem transfer_keeps {l l' : Ledger A} {src dst a : A} {value : Nat}
    (h : l.transfer src dst value = .ok l') (other : a ≠ src) : Keeps l l' a := by
  obtain ⟨-, -, -, -, rfl⟩ := (transfer_ok ..).mp h
  exact fun sealed => ⟨sealed, moved_other l src dst value a other⟩

theorem approve_keeps {l l' : Ledger A} {owner spender a : A} {value : Nat}
    (h : l.approve owner spender value = .ok l') (other : a ≠ owner) : Keeps l l' a := by
  obtain ⟨-, -, rfl⟩ := (approve_ok ..).mp h
  refine fun sealed => ⟨fun s => ?_, Nat.le_refl _⟩
  rw [approved_allowance, if_neg (fun same => other same.1)]
  exact sealed s

theorem transferFrom_keeps {l l' : Ledger A} {spender src dst a : A} {value : Nat}
    (h : l.transferFrom spender src dst value = .ok l') : Keeps l l' a := by
  intro sealed
  obtain ⟨m, spent, paid⟩ := (transferFrom_ok ..).mp h
  obtain ⟨balances, -, allowances, unfunded⟩ := spendAllowance_frame spent
  obtain ⟨-, -, -, -, rfl⟩ := (transfer_ok ..).mp paid
  have same := moved_balanceOf_congr src dst value balances
  unfold Sealed
  rw [same, moved_allowance]
  by_cases own : a = src
  · -- a sealed payer has allowed nothing, so the value is zero
    subst own
    obtain ⟨rfl, closed⟩ := unfunded (sealed spender)
    refine ⟨fun s => ?_, Nat.le_of_eq (moved_zero ..).symm⟩
    by_cases same : s = spender
    · subst same; exact closed
    · exact (allowances _ s (fun h => same h.2)).trans (sealed s)
  · refine ⟨fun s => ?_, moved_other _ _ _ _ _ own⟩
    exact (allowances a s (fun h => own h.1)).trans (sealed s)

theorem receiveWithAuthorization_keeps {l l' : Ledger A} {caller signer : A} {timestamp : Nat}
    {src dst a : A} {value validAfter validBefore nonce : Nat}
    (h : l.receiveWithAuthorization caller signer timestamp src dst value validAfter validBefore
      nonce = .ok l') (other : a ≠ signer) : Keeps l l' a := by
  obtain ⟨-, -, -, -, rfl, moved⟩ := (receiveWithAuthorization_ok ..).mp h
  have keeps : Keeps (l.withAuthorizationUsed signer nonce) l' a := transfer_keeps moved other
  exact keeps

theorem mint_keeps {l l' : Ledger A} {dst a : A} {value : Nat}
    (h : l.mint dst value = .ok l') : Keeps l l' a := by
  obtain ⟨-, rfl⟩ := (mint_ok ..).mp h
  refine fun sealed => ⟨sealed, ?_⟩
  by_cases own : a = dst
  · subst own; simp
  · simp [own]

end Ledger
end Erc20
