import LidoCosmos.Hub.Slashing

/-! Bonding. A user deposit mints at the rate the reconciliation just derived and leaves
that rate stored; a reward deposit mints nothing and derives the rate again after adding
itself to the bonded amount. -/
namespace LidoCosmos.Hub

/-- Modelled from the spec: `crate::math::decimal_division` is absent; the spec mints
`floor(deposit / exchange_rate)` for a deposit. A zero rate divides by zero. -/
def decimalDivision (a : Uint128) (b : Decimal) : Except StdError Uint128 :=
  a.multiplyRatio Decimal.fractional b.atomics.val

theorem decimalDivision_eq_ok {a m : Uint128} {b : Decimal} :
    decimalDivision a b = .ok m ↔
      0 < b.atomics.val ∧ m.val = a.val * 10 ^ 18 / b.atomics.val := by
  simp [decimalDivision, Uint128.multiplyRatio_eq_ok, Decimal.fractional]

theorem decimalDivision_bounds {a m : Uint128} {b : Decimal} (h : decimalDivision a b = .ok m) :
    m.val * b.atomics.val ≤ a.val * 10 ^ 18 ∧ a.val * 10 ^ 18 < (m.val + 1) * b.atomics.val := by
  obtain ⟨hb, hm⟩ := decimalDivision_eq_ok.mp h
  rw [hm, Nat.add_mul, Nat.one_mul]
  exact ⟨Nat.div_mul_le_self _ _, Nat.lt_div_mul_add hb⟩

/-- The closure `execute_bond` hands to `STATE.update`. -/
def bondUpdate (bondType : BondType) (amount totalSupply requestedWithFee : Uint128)
    (prevState : State) : Except StdError State :=
  match bondType with
  | .bondRewards =>
    prevState.totalBondStatomAmount.add amount >>= fun bonded =>
    { prevState with totalBondStatomAmount := bonded }.updateStatomExchangeRate totalSupply
      requestedWithFee
  | .stAtom =>
    prevState.totalBondStatomAmount.add amount >>= fun bonded =>
    .ok { prevState with totalBondStatomAmount := bonded }

theorem bondUpdate_eq_ok {bt : BondType} {a T R : Uint128} {st st' : State}
    (h : bondUpdate bt a T R st = .ok st') :
    ∃ bonded : Uint128, bonded.val = st.totalBondStatomAmount.val + a.val ∧
      (bt = .stAtom → st' = { st with totalBondStatomAmount := bonded }) ∧
      (bt = .bondRewards → { st with totalBondStatomAmount := bonded }.updateStatomExchangeRate
        T R = .ok st') := by
  cases bt <;>
  · obtain ⟨b, hb, h⟩ := bind_eq_ok.mp h
    refine ⟨b, Uint128.add_eq_ok.mp hb, ?_, ?_⟩ <;> intro hbt <;> cases hbt
    first | exact h | exact (Except.ok.inj h).symm

/-- The loop over the split `calculate_delegations` returns: a `Delegate` for each nonzero
share, to the validator at the same index. -/
def delegateMsgs (denom : String) : List ValidatorResponse → List Uint128 →
    Except StdError (List CosmosMsg)
  | _, [] => .ok []
  | vs, d :: ds =>
    if d.isZero then delegateMsgs denom vs.tail ds
    else match vs with
      | [] => .error (.panic "index out of bounds")
      | v :: vs => delegateMsgs denom vs ds >>= fun msgs => .ok (.delegate v.address ⟨denom, d⟩ :: msgs)

theorem delegateMsgs_delegate {denom : String} {vs : List ValidatorResponse} {ds : List Uint128}
    {msgs : List CosmosMsg} (h : delegateMsgs denom vs ds = .ok msgs) :
    ∀ m ∈ msgs, ∃ v c, m = .delegate v c := by
  induction ds generalizing vs msgs with
  | nil => cases h; simp
  | cons d ds ih =>
    unfold delegateMsgs at h
    split at h
    · exact ih h
    · split at h
      · cases h
      · obtain ⟨msgs', hm, h⟩ := bind_eq_ok.mp h
        cases h
        rintro m (_ | ⟨_, hm'⟩)
        · exact ⟨_, _, rfl⟩
        · exact ih hm m hm'

theorem funds_eq_singleton {funds : List Coin} {p : Coin → Bool} {c : Coin}
    (hlen : ¬funds.length > 1) (h : funds.find? p = some c) : funds = [c] ∧ p c = true := by
  rcases funds with _ | ⟨x, _ | ⟨y, l⟩⟩
  · cases h
  · by_cases hx : p x = true
    · simp only [List.find?, hx, Option.some.injEq] at h
      exact ⟨h ▸ rfl, h ▸ hx⟩
    · simp [List.find?, hx] at h
  · simp at hlen

section
/- `calculate_delegations` of the validators registry is not among the sources; the hub is
modelled for every split it may return. -/
variable (calculateDelegations : Uint128 → List ValidatorResponse → Except StdError (List Uint128))

def executeBond (s : Storage) (q : Querier) (info : MessageInfo) (bondType : BondType) :
    Except StdError (Storage × Response) :=
  let params := s.parameters
  if params.paused.getD false then .error (.genericErr "the contract is temporarily paused") else
  let coinDenom := params.underlyingCoinDenom
  let config := s.config
  match config.rewardDispatcherContract with
  | none => .error (.genericErr "the reward dispatcher contract must have been registered")
  | some rewardDispatcherAddr =>
  if bondType = .bondRewards ∧ info.sender ≠ rewardDispatcherAddr then
    .error (.genericErr "unauthorized") else
  let requestedWithFee := s.currentBatch.requestedStatom
  if info.funds.length > 1 then
    .error (.genericErr "More than one coin is sent; only one asset is supported") else
  match info.funds.find? (fun x => x.denom == coinDenom && decide (0 < x.amount.val)) with
  | none => .error (.genericErr ("No " ++ coinDenom ++ " assets are provided to bond"))
  | some payment =>
  slashing s q >>= fun (s, state) =>
  let sender := info.sender
  let totalSupply := state.totalStatomIssued
  (match bondType with
    | .stAtom => decimalDivision payment.amount state.statomExchangeRate
    | .bondRewards => .ok Uint128.zero) >>= fun mintAmount =>
  totalSupply.add mintAmount >>= fun totalSupply =>
  bondUpdate bondType payment.amount totalSupply requestedWithFee s.loadState >>= fun newState =>
  let s := s.saveState newState
  match config.validatorsRegistryContract with
  | none => .error (.genericErr "Validators registry contract address is empty")
  | some _ =>
  let validators := q.validatorsForDelegation
  if validators.isEmpty then .error (.genericErr "Validators registry is empty") else
  calculateDelegations payment.amount validators >>= fun delegations =>
  delegateMsgs payment.denom validators delegations >>= fun externalCallMsgs =>
  if bondType = .bondRewards then
    .ok (s, { messages := externalCallMsgs
              attributes := [attr "action" "bond_rewards", attr "from" sender,
                attr "bonded" payment.amount.toString] })
  else
  match config.statomTokenContract with
  | none => .error (.genericErr "the token contract must have been registered")
  | some tokenAddress =>
    .ok (s, { messages := externalCallMsgs ++ [.wasmExecute tokenAddress (.mint sender mintAmount) []]
              attributes := [attr "action" "mint", attr "from" sender,
                attr "bonded" payment.amount.toString, attr "minted" mintAmount.toString] })

/-- What a bond computes on its way: the coin taken, the storage and state the
reconciliation returned, the minted amount, the supply after it, the state the `STATE.update`
closure returned, the split `calculate_delegations` returned and the messages of the loop. -/
structure BondTrace where
  payment : Coin
  reconciled : Storage
  state : State
  mintAmount : Uint128
  supply : Uint128
  newState : State
  delegations : List Uint128
  externalCallMsgs : List CosmosMsg

/-- A successful bond along its trace: it took the one coin sent, in the underlying denom,
reconciled, minted at the reconciled rate (nothing for rewards, which only the registered
dispatcher may send), stored what the closure returned, and answered with the delegations
followed, for a user deposit, by the mint. -/
structure BondTrace.Ok (t : BondTrace) (s s' : Storage) (q : Querier) (info : MessageInfo)
    (bt : BondType) (resp : Response) : Prop where
  funds : info.funds = [t.payment]
  denom : t.payment.denom = s.parameters.underlyingCoinDenom
  positive : 0 < t.payment.amount.val
  reconciles : slashing s q = .ok (t.reconciled, t.state)
  mints : bt = .stAtom →
    decimalDivision t.payment.amount t.state.statomExchangeRate = .ok t.mintAmount
  fromDispatcher : bt = .bondRewards → t.mintAmount = Uint128.zero ∧
    s.config.rewardDispatcherContract = some info.sender
  addsSupply : t.state.totalStatomIssued.add t.mintAmount = .ok t.supply
  updates : bondUpdate bt t.payment.amount t.supply s.currentBatch.requestedStatom
    t.reconciled.loadState = .ok t.newState
  stores : s' = t.reconciled.saveState t.newState
  splits : calculateDelegations t.payment.amount q.validatorsForDelegation = .ok t.delegations
  sends : delegateMsgs t.payment.denom q.validatorsForDelegation t.delegations =
    .ok t.externalCallMsgs
  rewardMessages : bt = .bondRewards → resp.messages = t.externalCallMsgs
  userMessages : bt = .stAtom → ∃ token, s.config.statomTokenContract = some token ∧
    resp.messages = t.externalCallMsgs ++ [.wasmExecute token (.mint info.sender t.mintAmount) []]

theorem executeBond_eq_ok {s s' : Storage} {q : Querier} {info : MessageInfo} {bt : BondType}
    {resp : Response} (h : executeBond calculateDelegations s q info bt = .ok (s', resp)) :
    ∃ t : BondTrace, t.Ok calculateDelegations s s' q info bt resp := by
  unfold executeBond at h
  dsimp only at h
  split at h; · cases h
  split at h; · cases h
  rename_i dispatcher hdisp
  split at h; · cases h
  rename_i hauth
  split at h; · cases h
  rename_i hlen
  split at h; · cases h
  rename_i payment hpay
  obtain ⟨⟨s1, state⟩, hsl, h⟩ := bind_eq_ok.mp h
  dsimp only at h
  obtain ⟨mintAmount, hmint, h⟩ := bind_eq_ok.mp h
  obtain ⟨supply, hsupply, h⟩ := bind_eq_ok.mp h
  obtain ⟨newState, hnew, h⟩ := bind_eq_ok.mp h
  split at h; · cases h
  split at h; · cases h
  obtain ⟨delegations, hds, h⟩ := bind_eq_ok.mp h
  obtain ⟨msgs, hmsgs, h⟩ := bind_eq_ok.mp h
  obtain ⟨hfunds, hp⟩ := funds_eq_singleton hlen hpay
  simp only [Bool.and_eq_true, beq_iff_eq, decide_eq_true_eq] at hp
  cases bt with
  | bondRewards =>
    rw [if_pos rfl] at h
    cases h
    simp only [not_and, Decidable.not_not, forall_const] at hauth
    exact ⟨⟨payment, s1, state, mintAmount, supply, newState, delegations, msgs⟩, hfunds, hp.1,
      hp.2, hsl, nofun, fun _ => ⟨(Except.ok.inj hmint).symm, hauth ▸ hdisp⟩, hsupply, hnew, rfl,
      hds, hmsgs, fun _ => rfl, nofun⟩
  | stAtom =>
    rw [if_neg (by decide)] at h
    cases htoken : s.config.statomTokenContract with
    | none => rw [htoken] at h; cases h
    | some token =>
      rw [htoken] at h
      cases h
      exact ⟨⟨payment, s1, state, mintAmount, supply, newState, delegations, msgs⟩, hfunds, hp.1,
        hp.2, hsl, fun _ => hmint, nofun, hsupply, hnew, rfl, hds, hmsgs, nofun,
        fun _ => ⟨token, htoken, rfl⟩⟩

variable {calculateDelegations} {t : BondTrace} {s s' : Storage} {q : Querier}
  {info : MessageInfo} {bt : BondType} {resp : Response}

theorem BondTrace.Ok.saved (hb : t.Ok calculateDelegations s s' q info bt resp) :
    t.reconciled = s.saveState t.state :=
  (slashing_eq_ok hb.reconciles).1

theorem BondTrace.Ok.delegates (hb : t.Ok calculateDelegations s s' q info bt resp) :
    ∀ m ∈ t.externalCallMsgs, ∃ v c, m = .delegate v c :=
  delegateMsgs_delegate hb.sends

/-- Both arms add the deposit to the bonded amount the reconciliation left. -/
theorem BondTrace.Ok.bonded (hb : t.Ok calculateDelegations s s' q info bt resp) :
    s'.state.totalBondStatomAmount.val =
      t.state.totalBondStatomAmount.val + t.payment.amount.val := by
  obtain ⟨b, hbv, hst, hr⟩ := bondUpdate_eq_ok hb.updates
  rw [hb.saved] at hbv hst hr
  rw [hb.stores]
  cases bt with
  | stAtom => rw [hst rfl]; exact hbv
  | bondRewards =>
    obtain ⟨r, hr, -⟩ := updateStatomExchangeRate_eq_ok.mp (hr rfl)
    rw [hr]; exact hbv

variable (calculateDelegations)

theorem bond_priced_at_reconciled_rate {s s' : Storage} {q : Querier} {info : MessageInfo}
    {resp : Response} (h : executeBond calculateDelegations s q info .stAtom = .ok (s', resp)) :
    ∃ payment s1 state m token,
      info.funds = [payment] ∧ payment.denom = s.parameters.underlyingCoinDenom ∧
      0 < payment.amount.val ∧ slashing s q = .ok (s1, state) ∧
      0 < state.statomExchangeRate.atomics.val ∧
      decimalDivision payment.amount state.statomExchangeRate = .ok m ∧
      m.val * state.statomExchangeRate.atomics.val ≤ payment.amount.val * 10 ^ 18 ∧
      payment.amount.val * 10 ^ 18 < (m.val + 1) * state.statomExchangeRate.atomics.val ∧
      s'.state.totalBondStatomAmount.val =
        state.totalBondStatomAmount.val + payment.amount.val ∧
      s'.state.statomExchangeRate = state.statomExchangeRate ∧
      s.config.statomTokenContract = some token ∧
      resp.messages.getLast? = some (.wasmExecute token (.mint info.sender m) []) := by
  obtain ⟨t, hb⟩ := executeBond_eq_ok calculateDelegations h
  have hm := hb.mints rfl
  obtain ⟨token, htok, hresp⟩ := hb.userMessages rfl
  have bounds := decimalDivision_bounds hm
  refine ⟨t.payment, t.reconciled, t.state, t.mintAmount, token, hb.funds, hb.denom, hb.positive,
    hb.reconciles, (decimalDivision_eq_ok.mp hm).1, hm, bounds.1, bounds.2, hb.bonded, ?_, htok,
    by simp [hresp]⟩
  obtain ⟨b, -, hst, -⟩ := bondUpdate_eq_ok hb.updates
  rw [hb.stores, hst rfl, hb.saved]
  rfl

end

/-- A split for the tests: the whole deposit to the first validator. -/
def wholeToFirst (amount : Uint128) (validators : List ValidatorResponse) :
    Except StdError (List Uint128) :=
  .ok (amount :: validators.tail.map fun _ => Uint128.zero)

/-- The slashing test's second bond: 900 uatom after the write-down to rate 0.9. -/
def testBondReport : Querier := { testReport with validatorsForDelegation := [⟨Uint128.zero, "validator"⟩] }

def testDeposit : MessageInfo := ⟨"addr1000", [⟨"uatom", ⟨900, by decide⟩⟩]⟩

theorem bond_priced_at_reconciled_rate_test :
    ∃ s' resp, executeBond wholeToFirst testHub testBondReport testDeposit .stAtom =
      .ok (s', resp) ∧
    ∃ payment s1 state m token,
      testDeposit.funds = [payment] ∧ payment.denom = testHub.parameters.underlyingCoinDenom ∧
      0 < payment.amount.val ∧ slashing testHub testBondReport = .ok (s1, state) ∧
      0 < state.statomExchangeRate.atomics.val ∧
      decimalDivision payment.amount state.statomExchangeRate = .ok m ∧
      m.val * state.statomExchangeRate.atomics.val ≤ payment.amount.val * 10 ^ 18 ∧
      payment.amount.val * 10 ^ 18 < (m.val + 1) * state.statomExchangeRate.atomics.val ∧
      s'.state.totalBondStatomAmount.val =
        state.totalBondStatomAmount.val + payment.amount.val ∧
      s'.state.statomExchangeRate = state.statomExchangeRate ∧
      testHub.config.statomTokenContract = some token ∧
      resp.messages.getLast? = some (.wasmExecute token (.mint testDeposit.sender m) []) :=
  ⟨_, _, rfl, bond_priced_at_reconciled_rate wholeToFirst rfl⟩

/-- The reward test's deposit: 100 uatom from the registered dispatcher, while the staking
module reports no delegation and 1000 tokens are outstanding. -/
def rewardReport : Querier := { testBondReport with allDelegations := [] }

def rewardDeposit : MessageInfo := ⟨"reward", [⟨"uatom", ⟨100, by decide⟩⟩]⟩

/-- On an early return of `query_actual_state` the supply is never read, and the reward
bond derives the rate from a supply of zero: 1100 bonded against 1000 tokens outstanding
is stored at rate one, where the ledger formula gives 1.1. -/
theorem bondRewards_rate_ignores_supply :
    ∃ s' resp, executeBond wholeToFirst testHub rewardReport rewardDeposit .bondRewards =
      .ok (s', resp) ∧
      rewardReport.tokenTotalSupply.val = 1000 ∧
      s'.state.totalBondStatomAmount.val = 1100 ∧ s'.state.statomExchangeRate = Decimal.one ∧
      rateAtomics 1100 (1000 + testHub.currentBatch.requestedStatom.val) = 11 * 10 ^ 17 :=
  ⟨_, _, rfl, rfl, rfl, rfl, by decide⟩

end LidoCosmos.Hub
