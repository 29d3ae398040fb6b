import VapiArc.Escrow.EscrowV1

/-!
# What a settlement pays

`Payout` is the abstract division of an escrowed amount. `settle_pays` shows that
`_settle` realises it, and `settle_succeeds` that nothing in `_settle` reverts
when the escrow is covered and the token admits the three transfers.
-/
namespace VapiArc.Escrow

open Checked Erc20 Erc20.Ledger

/-- What the buyer, the seller and the treasury get. -/
structure Payout where
  buyer : Nat
  seller : Nat
  treasury : Nat

namespace Payout

/-- The platform's fee on a seller's gross. -/
def fee (gross : Nat) : Nat := gross * 500 / 10000

/-- The seller's gross less the fee. -/
def ofGross (buyer gross : Nat) : Payout := ⟨buyer, gross - fee gross, fee gross⟩

/-- A refund is free of fees; of a split the buyer gets the smaller half. -/
def of : Resolution → Nat → Payout
  | .refund, amount => ⟨amount, 0, 0⟩
  | .split, amount => ofGross (amount / 2) (amount - amount / 2)
  | _, amount => ofGross 0 amount

def total (p : Payout) : Nat := p.buyer + p.seller + p.treasury

theorem fee_le (gross : Nat) : fee gross ≤ gross := Word.mulDiv_le (by decide)

theorem total_ofGross (buyer gross : Nat) : (ofGross buyer gross).total = buyer + gross := by
  have bound := fee_le gross
  simp only [ofGross, total]
  omega

theorem total_of (result : Resolution) (amount : Nat) : (of result amount).total = amount := by
  cases result with
  | none => simp [of, total_ofGross]
  | release => simp [of, total_ofGross]
  | refund => simp [of, total]
  | split =>
    have sum := total_ofGross (amount / 2) (amount - amount / 2)
    simp only [of]
    omega

end Payout

/-- `e` paid `p` out to the three parties, no other balance changed, and no
allowance of `e` is left behind. -/
structure Settlement (d : Deployment) (e buyer seller : Address) (p : Payout)
    (l l' : Ledger Address) : Prop where
  balances : ∀ a, l'.balanceOf a + share e a p.total = l.balanceOf a +
    share buyer a p.buyer + share seller a p.seller + share d.treasury a p.treasury
  allowances : ∀ o s, o ≠ e → l'.allowance o s = l.allowance o s
  closed : Sealed l e → Sealed l' e

/-- A settlement takes nothing from any other account. -/
theorem Settlement.keeps {d : Deployment} {e buyer seller : Address} {p : Payout}
    {l l' : Ledger Address} (settled : Settlement d e buyer seller p l l') {a : Address}
    (other : a ≠ e) : Keeps l l' a := by
  intro closed
  refine ⟨fun s => (settled.allowances a s other).trans (closed s), ?_⟩
  have balance := settled.balances a
  rw [share, if_neg other] at balance
  omega

variable {d : Deployment} {msg : Msg} {w w' : World} {e : Address} {c : EscrowV1}

theorem distribute_ok {token seller : Address} {gross net fee : Uint256} :
    FeeRouter.distribute d msg w token seller gross = .ok (net, fee, w') ↔
      (token ≠ 0 ∧ seller ≠ 0) ∧ gross.val * d.feeBp.val / bpDenominator = fee.val ∧
      fee.val + net.val = gross.val ∧ token = d.paymentToken ∧
      ∃ m l, w.token.transferFrom d.feeRouter msg.sender seller net.val = .ok m ∧
        m.transferFrom d.feeRouter msg.sender d.treasury fee.val = .ok l ∧
        { w with token := l } = w' := by
  simp only [FeeRouter.distribute, bind_ok, revertIf_ok, Word.mulDiv_ok, Word.checkedSub_ok,
    World.onToken_ok, exists_const, pure_ok, Prod.mk.injEq, not_or]
  constructor
  · rintro ⟨valid, fee', ⟨-, cut⟩, net', sum, w₁, ⟨paymentToken, m, first, rfl⟩, w₂,
      ⟨-, l, second, rfl⟩, rfl, rfl, rfl⟩
    exact ⟨valid, cut, sum, paymentToken, m, l, first, second, rfl⟩
  · rintro ⟨valid, cut, sum, paymentToken, m, l, first, second, rfl⟩
    exact ⟨valid, fee, ⟨by decide, cut⟩, net, sum, _, ⟨paymentToken, m, first, rfl⟩, _,
      ⟨paymentToken, l, second, rfl⟩, rfl, rfl, rfl⟩

/-- Approve the gross, pull net and fee, revoke the approval. -/
theorem paySeller_pays {gross : Uint256} (h : EscrowV1.paySeller d msg w e c gross = .ok w') :
    ∃ l, w' = { w with token := l } ∧
      Settlement d e c.buyer c.seller (Payout.ofGross 0 gross.val) w.token l := by
  simp only [EscrowV1.paySeller, bind_ok, World.onToken_ok, Prod.exists, distribute_ok,
    Word.checkedAdd_ok, Word.mulDiv_ok, revertIf_ok, exists_const, pure_ok, not_or, not_not] at h
  obtain ⟨w₁, ⟨-, l₁, approved, rfl⟩, net, fee, w₃,
    ⟨-, cut, sum, -, l₂, l₃, first, second, rfl⟩, w₄, ⟨-, l₄, revoked, rfl⟩,
    -, -, -, -, -, rfl⟩ := h
  obtain ⟨-, -, rfl⟩ := (approve_ok ..).mp approved
  obtain ⟨-, -, rfl⟩ := (approve_ok ..).mp revoked
  have feeIs : fee.val = Payout.fee gross.val := by
    rw [← cut, d.feeBp_eq]
    rfl
  refine ⟨_, rfl, ?_, ?_, ?_⟩
  · intro a
    have one := transferFrom_paid first a
    have two := transferFrom_paid second a
    -- both legs together move the gross, so the escrow's debit is the total
    have netIs : gross.val - Payout.fee gross.val = net.val := by omega
    rw [Payout.total_ofGross]
    simp only [Payout.ofGross, approved_balanceOf, ← feeIs, share] at one two ⊢
    split_ifs at one two ⊢ <;> omega
  · intro o s other
    rw [approved_allowance, if_neg (fun same => other same.1),
      transferFrom_allowance second o s (fun same => other same.1),
      transferFrom_allowance first o s (fun same => other same.1),
      approved_allowance, if_neg (fun same => other same.1)]
  · intro closed s
    rw [approved_allowance]
    split
    next => rfl
    next other =>
      have differs : ¬ (e = e ∧ s = d.feeRouter) := other
      rw [transferFrom_allowance second e s differs, transferFrom_allowance first e s differs,
        approved_allowance, if_neg differs]
      exact closed s

theorem payBuyer_pays {buyerAmount : Uint256}
    (h : EscrowV1.payBuyer d w e c buyerAmount = .ok w') :
    ∃ l, w' = { w with token := l } ∧ Paid w.token l e c.buyer buyerAmount.val ∧
      l.allowance = w.token.allowance ∧ l.permits = w.token.permits := by
  simp only [EscrowV1.payBuyer, ite_ok, World.onToken_ok, pure_ok] at h
  rcases h with ⟨-, -, l, paid, rfl⟩ | ⟨zero, rfl⟩
  · refine ⟨l, rfl, transfer_paid paid, ?_⟩
    obtain ⟨-, -, -, -, rfl⟩ := (transfer_ok ..).mp paid
    exact ⟨rfl, rfl⟩
  · have none : buyerAmount.val = 0 := congrArg Fin.val (not_not.mp zero)
    exact ⟨w.token, rfl, fun a => by simp [none, share], rfl, rfl⟩

theorem settle_pays {result : Resolution} (h : EscrowV1.settle d msg w e c result = .ok w') :
    ∃ l,
      w' = { w.setEscrow e { c with state := .resolved, resolution := result } with token := l } ∧
      Settlement d e c.buyer c.seller (Payout.of result c.amount.val) w.token l := by
  cases result with
  | none => exact paySeller_pays h
  | release => exact paySeller_pays h
  | refund =>
    simp only [EscrowV1.settle, World.onToken_ok] at h
    obtain ⟨-, l, paid, rfl⟩ := h
    have sealedAfter := (transfer_ok ..).mp paid
    refine ⟨l, rfl, fun a => ?_, fun o s _ => ?_, fun closed => ?_⟩
    · have balance := transfer_paid paid a
      simpa [Payout.of, Payout.total, share] using balance
    · obtain ⟨-, -, -, -, rfl⟩ := sealedAfter
      rfl
    · obtain ⟨-, -, -, -, rfl⟩ := sealedAfter
      exact closed
  | split =>
    simp only [EscrowV1.settle, bind_ok, Word.checkedSub_ok] at h
    obtain ⟨gross, halves, w₁, buyerPaid, h⟩ := h
    obtain ⟨m, rfl, paid, allowances, -⟩ := payBuyer_pays buyerPaid
    obtain ⟨l, rfl, balances, others, closed⟩ := paySeller_pays h
    simp only [Word.half_val, World.setEscrow_token] at halves paid allowances
    -- the odd unit of a split is the seller's
    have grossIs : gross.val = c.amount.val - c.amount.val / 2 := by omega
    refine ⟨l, rfl, fun a => ?_, fun o s other => ?_, fun sealedBefore => ?_⟩
    · have one := paid a
      have two := balances a
      rw [Payout.total_ofGross] at two
      rw [Payout.total_of]
      simp only [Payout.of, Payout.ofGross, grossIs, share] at one two ⊢
      split_ifs at one two ⊢ <;> omega
    · exact (others o s other).trans (by rw [allowances])
    · exact closed (fun s => by rw [allowances]; exact sealedBefore s)

/-! ### Nothing in a settlement reverts -/

/-- The token admits every transfer from the escrow to its three payees. -/
def Admits (d : Deployment) (l : Ledger Address) (e : Address) (c : EscrowV1) : Prop :=
  ∀ value, l.permits e c.buyer value = true ∧ l.permits e c.seller value = true ∧
    l.permits e d.treasury value = true

/-- A clone that can be paid out: real parties, and the payment token's. -/
structure Payable (d : Deployment) (e : Address) (c : EscrowV1) : Prop where
  escrow : e ≠ 0
  buyer : c.buyer ≠ 0
  seller : c.seller ≠ 0
  token : c.token = d.paymentToken

theorem distribute_succeeds (msg : Msg) {gross : Uint256} (payable : Payable d e c)
    (admits : Admits d w.token e c) (covered : gross.val ≤ w.token.balanceOf e)
    (allowed : w.token.allowance e d.feeRouter = gross.val) :
    ∃ net fee l, FeeRouter.distribute d ⟨e, msg.timestamp⟩ w c.token c.seller gross
      = .ok (net, fee, { w with token := l }) := by
  have bound := Payout.fee_le gross.val
  let fee : Uint256 := ⟨Payout.fee gross.val, Nat.lt_of_le_of_lt bound gross.isLt⟩
  let net : Uint256 := ⟨gross.val - Payout.fee gross.val, by omega⟩
  have split : fee.val + net.val = gross.val := by simp only [fee, net]; omega
  -- the first leg leaves exactly the fee in the balance and in the allowance
  obtain ⟨m, first, policy, left⟩ := transferFrom_succeeds d.feeRouter
    payable.escrow payable.seller (admits net.val).2.1 (by omega) (.inr (by omega))
  have paid := transferFrom_paid first e
  have rest : fee.val ≤ m.balanceOf e := by
    simp only [share, if_true] at paid
    omega
  have enough : m.allowance e d.feeRouter = unlimited ∨
      fee.val ≤ m.allowance e d.feeRouter := by
    rcases left with ⟨-, same⟩ | remaining
    · exact .inl same
    · exact .inr (by omega)
  obtain ⟨l, second, -, -⟩ := transferFrom_succeeds d.feeRouter
    payable.escrow d.treasury_ne_zero (policy ▸ (admits fee.val).2.2) rest enough
  refine ⟨net, fee, l, distribute_ok.mpr ⟨⟨?_, payable.seller⟩, ?_, split, payable.token,
    m, l, first, second, rfl⟩⟩
  · rw [payable.token]; exact d.paymentToken_ne_zero
  · rw [d.feeBp_eq]; rfl

theorem paySeller_succeeds (msg : Msg) (gross : Uint256) (payable : Payable d e c)
    (admits : Admits d w.token e c) (covered : gross.val ≤ w.token.balanceOf e) :
    ∃ w', EscrowV1.paySeller d msg w e c gross = .ok w' := by
  let approved := w.token.approved e d.feeRouter gross.val
  obtain ⟨net, fee, l, distributed⟩ := distribute_succeeds msg
    (w := { w with token := approved }) payable admits covered (approved_self ..)
  obtain ⟨-, cut, sum, -⟩ := distribute_ok.mp distributed
  refine ⟨{ w with token := l.approved e d.feeRouter 0 }, ?_⟩
  simp only [EscrowV1.paySeller, bind_ok, World.onToken_ok, Prod.exists, Word.checkedAdd_ok,
    Word.mulDiv_ok, revertIf_ok, exists_const, pure_ok, not_or, not_not]
  refine ⟨_, ⟨payable.token, approved, (approve_ok ..).mpr ⟨payable.escrow,
    d.feeRouter_ne_zero, rfl⟩, rfl⟩, net, fee, _, distributed, _, ⟨payable.token, _,
    (approve_ok ..).mpr ⟨payable.escrow, d.feeRouter_ne_zero, rfl⟩, rfl⟩, gross, by omega, fee,
    ⟨by decide, ?_⟩, ⟨rfl, rfl⟩, rfl⟩
  rw [← cut, d.feeBp_eq]

/-- A covered escrow settles to every result at every time. -/
theorem settle_succeeds (msg : Msg) (result : Resolution) (payable : Payable d e c)
    (admits : Admits d w.token e c) (covered : c.amount.val ≤ w.token.balanceOf e) :
    ∃ w', EscrowV1.settle d msg w e c result = .ok w' := by
  cases result with
  | none => exact paySeller_succeeds msg c.amount payable admits covered
  | release => exact paySeller_succeeds msg c.amount payable admits covered
  | refund =>
    simp only [EscrowV1.settle, World.onToken_ok]
    exact ⟨_, payable.token, _, (transfer_ok ..).mpr ⟨payable.escrow, payable.buyer,
      (admits c.amount.val).1, covered, rfl⟩, rfl⟩
  | split =>
    simp only [EscrowV1.settle, bind_ok, Word.checkedSub_ok, Word.half_val]
    let gross : Uint256 := ⟨c.amount.val - c.amount.val / 2, by omega⟩
    let half := Word.half c.amount
    have halfPaid : ∃ w₁, EscrowV1.payBuyer d
        (w.setEscrow e { c with state := .resolved, resolution := .split }) e c half = .ok w₁ := by
      simp only [EscrowV1.payBuyer, ite_ok, World.onToken_ok, pure_ok]
      by_cases zero : half = 0
      · exact ⟨_, .inr ⟨not_not.mpr zero, rfl⟩⟩
      · exact ⟨_, .inl ⟨zero, payable.token, _, (transfer_ok ..).mpr ⟨payable.escrow,
          payable.buyer, (admits half.val).1, Nat.le_trans (Nat.div_le_self _ _) covered, rfl⟩,
          rfl⟩⟩
    obtain ⟨w₁, first⟩ := halfPaid
    obtain ⟨l, rfl, paid, -, policy⟩ := payBuyer_pays first
    have rest : gross.val ≤ l.balanceOf e := by
      have balance := paid e
      simp only [share, if_true, World.setEscrow_token, half, Word.half_val, gross] at balance ⊢
      omega
    obtain ⟨w', second⟩ := paySeller_succeeds msg gross payable
      (w := { w.setEscrow e { c with state := .resolved, resolution := .split } with token := l })
      (fun value => policy ▸ admits value) rest
    exact ⟨w', gross, by simp only [gross]; omega, _, first, second⟩

end VapiArc.Escrow
