import LidoCosmos.Hub.State

/-! Slashing detection. `query_actual_state` sets the bonded amount the hub recorded
against the delegations the staking module reports, writes the record down (never up)
and derives the rate again; `slashing` stores what it found. -/
namespace LidoCosmos.Hub

/-- The fields of a `FullDelegation` the hub reads. -/
structure Delegation where
  validator : Addr
  amount : Coin
deriving DecidableEq, Repr

/-- The registry's `ValidatorResponse`. -/
structure ValidatorResponse where
  totalDelegated : Uint128
  address : Addr
deriving DecidableEq, Repr

/-- What the hub's queries answer during one call: the staking module's delegations of
the hub, the supply of the registered token, and the registry's validators. -/
structure Querier where
  allDelegations : List Delegation
  tokenTotalSupply : Uint128
  validatorsForDelegation : List ValidatorResponse
deriving DecidableEq, Repr

/-- The amount truly delegated in `coinDenom`. -/
def bondedAmount (coinDenom : String) : List Delegation → Nat
  | [] => 0
  | d :: ds =>
    (if d.amount.denom = coinDenom then d.amount.amount.val else 0) + bondedAmount coinDenom ds

/-- The loop of `query_actual_state` that adds up `actual_total_bonded`. -/
def sumBonded (coinDenom : String) (acc : Uint128) : List Delegation → Except StdError Uint128
  | [] => .ok acc
  | d :: ds =>
    if d.amount.denom = coinDenom then
      acc.add d.amount.amount >>= fun acc => sumBonded coinDenom acc ds
    else sumBonded coinDenom acc ds

theorem sumBonded_eq_ok {c : String} {acc r : Uint128} {ds : List Delegation} :
    sumBonded c acc ds = .ok r ↔ r.val = acc.val + bondedAmount c ds := by
  induction ds generalizing acc with
  | nil =>
    simp only [sumBonded, bondedAmount, Nat.add_zero, Except.ok.injEq]
    exact ⟨fun h => h ▸ rfl, fun h => (Uint128.ext h).symm⟩
  | cons d ds ih =>
    by_cases hd : d.amount.denom = c
    · simp only [sumBonded, bondedAmount, hd, if_true, bind_eq_ok, ih, Uint128.add_eq_ok]
      constructor
      · rintro ⟨a, ha, hr⟩
        omega
      · intro hr
        have hlt : acc.val + d.amount.amount.val < 2 ^ 128 := by have := r.isLt; omega
        exact ⟨⟨_, hlt⟩, rfl, by simp only; omega⟩
    · simp only [sumBonded, bondedAmount, hd, if_false, Nat.zero_add, ih]

theorem sumBonded_eq_error {c : String} {acc : Uint128} {ds : List Delegation}
    (h : 2 ^ 128 ≤ acc.val + bondedAmount c ds) :
    sumBonded c acc ds = .error (.panic "attempt to add with overflow") := by
  induction ds generalizing acc with
  | nil => have := acc.isLt; simp only [bondedAmount] at h; omega
  | cons d ds ih =>
    by_cases hd : d.amount.denom = c
    · simp only [sumBonded, hd, if_true]
      simp only [bondedAmount, hd, if_true] at h
      by_cases hlt : acc.val + d.amount.amount.val < 2 ^ 128
      · rw [Uint128.add, dif_pos hlt, ok_bind]
        exact ih (by simp only; omega)
      · rw [Uint128.add_eq_error (by omega), error_bind]
    · simp only [bondedAmount, hd, if_false, Nat.zero_add] at h
      simp only [sumBonded, hd, if_false, ih h]

def queryTotalStatomIssued (s : Storage) (q : Querier) : Except StdError Uint128 :=
  match s.config.statomTokenContract with
  | none => .error (.genericErr "token contract must have been registered")
  | some _ => .ok q.tokenTotalSupply

def queryActualState (s : Storage) (q : Querier) : Except StdError State :=
  let state := s.loadState
  let delegations := q.allDelegations
  if delegations.isEmpty then .ok state
  else
    let coinDenom := s.parameters.underlyingCoinDenom
    sumBonded coinDenom Uint128.zero delegations >>= fun actualTotalBonded =>
    if state.totalBondStatomAmount.isZero then .ok state
    else
      queryTotalStatomIssued s q >>= fun totalStatomIssued =>
      let state := { state with totalStatomIssued := totalStatomIssued }
      let currentRequestedStatom := s.currentBatch.requestedStatom
      let state := if state.totalBondStatomAmount.val > actualTotalBonded.val then
          { state with totalBondStatomAmount := actualTotalBonded }
        else state
      state.updateStatomExchangeRate state.totalStatomIssued currentRequestedStatom

/-- `slashing`: the reconciled state is saved and returned. -/
def slashing (s : Storage) (q : Querier) : Except StdError (Storage × State) :=
  queryActualState s q >>= fun state => .ok (s.saveState state, state)

def executeSlashing (s : Storage) (q : Querier) : Except StdError (Storage × Response) :=
  if s.parameters.paused.getD false then .error (.genericErr "the contract is temporarily paused")
  else
    slashing s q >>= fun (s, state) =>
    .ok (s, { attributes := [attr "action" "check_slashing",
      attr "new_statom_exchange_rate" state.statomExchangeRate.toString] })

/-- The write-down in the words of its description: no delegations, or nothing recorded,
leaves the state as it is; otherwise the record becomes `min(recorded, actual)` and the
rate one when that or `T + R` is zero, else their ratio. The sums are checked `Uint128`
sums, and the delegations are added up before the recorded amount is looked at. -/
def writeDownSpec (st : State) (requested : Uint128) (coinDenom : String)
    (supply : Except StdError Uint128) (delegations : List Delegation) : Except StdError State :=
  if delegations = [] then .ok st
  else if h : 2 ^ 128 ≤ bondedAmount coinDenom delegations then
    .error (.panic "attempt to add with overflow")
  else if st.totalBondStatomAmount.val = 0 then .ok st
  else
    let actual : Uint128 := ⟨bondedAmount coinDenom delegations, Nat.lt_of_not_le h⟩
    let bonded := min st.totalBondStatomAmount actual
    supply >>= fun T =>
    T.add requested >>= fun total =>
    (if bonded.val = 0 ∨ total.val = 0 then .ok Decimal.one
      else Decimal.fromRatio bonded total) >>= fun rate =>
    .ok { st with
      totalStatomIssued := T
      totalBondStatomAmount := bonded
      statomExchangeRate := rate }

theorem queryActualState_eq_writeDownSpec (s : Storage) (q : Querier) :
    queryActualState s q = writeDownSpec s.loadState s.currentBatch.requestedStatom
      s.parameters.underlyingCoinDenom (queryTotalStatomIssued s q) q.allDelegations := by
  unfold queryActualState writeDownSpec
  dsimp only
  by_cases hL : q.allDelegations = []
  · simp [hL]
  have hL' : q.allDelegations.isEmpty = false := by simpa using hL
  by_cases hA : 2 ^ 128 ≤ bondedAmount s.parameters.underlyingCoinDenom q.allDelegations
  · rw [sumBonded_eq_error (by simpa using hA), if_neg hL, dif_pos hA]
    simp only [hL', Bool.false_eq_true, if_false, error_bind]
  rw [sumBonded_eq_ok.mpr (show (⟨_, Nat.lt_of_not_le hA⟩ : Uint128).val = Uint128.zero.val + _
    by simp)]
  simp only [hL, hL', hA, if_false, dif_neg, not_false_eq_true, ok_bind, Bool.false_eq_true]
  by_cases hz : s.state.totalBondStatomAmount.val = 0
  · simp [hz]
  simp only [Storage.loadState, StoredState.deserialize, Uint128.isZero_eq_true, hz, if_false]
  cases queryTotalStatomIssued s q with
  | error e => rfl
  | ok T =>
    simp only [ok_bind]
    by_cases hc : s.state.totalBondStatomAmount.val > bondedAmount s.parameters.underlyingCoinDenom
      q.allDelegations
    · rw [if_pos hc, updateStatomExchangeRate_eq_bind, Uint128.min_eq_right (by simp; omega)]
    · rw [if_neg hc, updateStatomExchangeRate_eq_bind, Uint128.min_eq_left (by simp; omega)]

/-- `st` is `st0` reconciled against the actual amount `actual`, the supply `T` and the
requested amount `R`: the record written down, the rate derived, the rest kept. -/
structure Reconciled (st0 st : State) (actual : Nat) (T R : Uint128) : Prop where
  supply : st.totalStatomIssued = T
  bonded : st.totalBondStatomAmount.val = min st0.totalBondStatomAmount.val actual
  fits : T.val + R.val < 2 ^ 128
  rate : st.statomExchangeRate.atomics.val =
    rateAtomics st.totalBondStatomAmount.val (T.val + R.val)
  prevHubBalance : st.prevHubBalance = st0.prevHubBalance
  lastUnbondedTime : st.lastUnbondedTime = st0.lastUnbondedTime
  lastProcessedBatch : st.lastProcessedBatch = st0.lastProcessedBatch

theorem writeDownSpec_eq_ok {st st' : State} {R : Uint128} {c : String}
    {supply : Except StdError Uint128} {L : List Delegation}
    (h : writeDownSpec st R c supply L = .ok st') :
    (st' = st ∧ (L = [] ∨ st.totalBondStatomAmount.val = 0)) ∨
      (L ≠ [] ∧ st.totalBondStatomAmount.val ≠ 0 ∧
        ∃ T, supply = .ok T ∧ Reconciled st st' (bondedAmount c L) T R) := by
  unfold writeDownSpec at h
  by_cases hL : L = []
  · simp only [hL, if_true, Except.ok.injEq] at h
    exact .inl ⟨h.symm, .inl hL⟩
  rw [if_neg hL] at h
  by_cases hA : 2 ^ 128 ≤ bondedAmount c L
  · rw [dif_pos hA] at h; cases h
  rw [dif_neg hA] at h
  by_cases hz : st.totalBondStatomAmount.val = 0
  · simp only [hz, if_true, Except.ok.injEq] at h
    exact .inl ⟨h.symm, .inr hz⟩
  rw [if_neg hz] at h
  obtain ⟨T, hT, h⟩ := bind_eq_ok.mp h
  rw [← updateStatomExchangeRate_eq_bind
    { st with totalStatomIssued := T, totalBondStatomAmount := min st.totalBondStatomAmount _ }]
    at h
  obtain ⟨r, rfl, hfit, hr⟩ := updateStatomExchangeRate_eq_ok.mp h
  exact .inr ⟨hL, hz, T, hT, rfl, by simp, hfit, hr, rfl, rfl, rfl⟩

theorem slashing_eq_writeDownSpec (s : Storage) (q : Querier) :
    slashing s q = (writeDownSpec s.loadState s.currentBatch.requestedStatom
        s.parameters.underlyingCoinDenom (queryTotalStatomIssued s q) q.allDelegations >>=
          fun st => .ok (s.saveState st, st)) := by
  rw [slashing, queryActualState_eq_writeDownSpec]

theorem slashing_writes_down (s : Storage) (q : Querier) :
    slashing s q = (writeDownSpec s.loadState s.currentBatch.requestedStatom
        s.parameters.underlyingCoinDenom (queryTotalStatomIssued s q) q.allDelegations >>=
          fun st => .ok (s.saveState st, st)) ∧
    ∀ s' st', slashing s q = .ok (s', st') →
      s' = s.saveState st' ∧
      st'.totalBondStatomAmount.val ≤ s.state.totalBondStatomAmount.val ∧
      (q.allDelegations ≠ [] → st'.totalBondStatomAmount.val ≤
        bondedAmount s.parameters.underlyingCoinDenom q.allDelegations) ∧
      st'.prevHubBalance = s.state.prevHubBalance ∧
      st'.lastUnbondedTime = s.state.lastUnbondedTime ∧
      st'.lastProcessedBatch = s.state.lastProcessedBatch := by
  refine ⟨slashing_eq_writeDownSpec s q, fun s' st' h => ?_⟩
  rw [slashing_eq_writeDownSpec, bind_eq_ok] at h
  obtain ⟨st, hst, h⟩ := h
  cases h
  rcases writeDownSpec_eq_ok hst with ⟨rfl, hL | hz⟩ | ⟨-, -, T, -, hr⟩
  · exact ⟨rfl, Nat.le_refl _, fun h => absurd hL h, rfl, rfl, rfl⟩
  · exact ⟨rfl, Nat.le_refl _, fun _ => by
      simp only [Storage.loadState, StoredState.deserialize] at hz ⊢; omega, rfl, rfl,
      rfl⟩
  · refine ⟨rfl, ?_, fun _ => ?_, hr.prevHubBalance, hr.lastUnbondedTime,
      hr.lastProcessedBatch⟩ <;> rw [hr.bonded] <;>
      simp only [Storage.loadState, StoredState.deserialize] <;> omega

theorem queryTotalStatomIssued_eq_ok {s : Storage} {q : Querier} {T : Uint128}
    (h : queryTotalStatomIssued s q = .ok T) : T = q.tokenTotalSupply := by
  unfold queryTotalStatomIssued at h
  split at h
  · cases h
  · exact (Except.ok.inj h).symm

theorem slashing_eq_ok {s s1 : Storage} {q : Querier} {st : State}
    (h : slashing s q = .ok (s1, st)) :
    s1 = s.saveState st ∧
      ((st = s.loadState ∧ (q.allDelegations = [] ∨ s.state.totalBondStatomAmount.val = 0)) ∨
        (q.allDelegations ≠ [] ∧ s.state.totalBondStatomAmount.val ≠ 0 ∧
          Reconciled s.loadState st (bondedAmount s.parameters.underlyingCoinDenom q.allDelegations)
            q.tokenTotalSupply s.currentBatch.requestedStatom)) := by
  rw [slashing_eq_writeDownSpec, bind_eq_ok] at h
  obtain ⟨st', hst, h⟩ := h
  cases h
  refine ⟨rfl, ?_⟩
  rcases writeDownSpec_eq_ok hst with h | ⟨hL, hz, T, hT, hr⟩
  · exact .inl h
  · exact .inr ⟨hL, hz, queryTotalStatomIssued_eq_ok hT ▸ hr⟩

theorem executeSlashing_eq_ok {s s' : Storage} {q : Querier} {resp : Response}
    (h : executeSlashing s q = .ok (s', resp)) :
    ∃ st, slashing s q = .ok (s', st) ∧ resp.messages = [] := by
  unfold executeSlashing at h
  split at h
  · cases h
  · obtain ⟨⟨s1, st⟩, hs, h⟩ := bind_eq_ok.mp h
    cases h
    exact ⟨st, hs, rfl⟩

/-- A second write-down against the same delegations, supply and requested amount, from
what the first one stored, stores the same again: the record is already at most the
actual amount, and the rate is derived from the same numbers. -/
theorem writeDownSpec_idempotent {st st' : State} {R : Uint128} {c : String}
    {supply : Except StdError Uint128} {L : List Delegation}
    (h : writeDownSpec st R c supply L = .ok st') :
    ∃ st'', writeDownSpec st'.serialize.deserialize R c supply L = .ok st'' ∧
      st''.serialize = st'.serialize := by
  unfold writeDownSpec at h ⊢
  by_cases hL : L = []
  · simp only [hL, if_true, Except.ok.injEq] at h ⊢
    exact ⟨_, rfl, rfl⟩
  rw [if_neg hL] at h ⊢
  by_cases hA : 2 ^ 128 ≤ bondedAmount c L
  · rw [dif_pos hA] at h; cases h
  rw [dif_neg hA] at h ⊢
  by_cases hz : st.totalBondStatomAmount.val = 0
  · rw [if_pos hz] at h
    cases h
    exact ⟨_, if_pos hz, rfl⟩
  rw [if_neg hz] at h
  obtain ⟨T, hT, h⟩ := bind_eq_ok.mp h
  obtain ⟨total, htotal, h⟩ := bind_eq_ok.mp h
  obtain ⟨rate, hrate, h⟩ := bind_eq_ok.mp h
  cases h
  by_cases hz' : (min st.totalBondStatomAmount ⟨_, Nat.lt_of_not_le hA⟩).val = 0
  · exact ⟨_, if_pos hz', rfl⟩
  have hmin : min (min st.totalBondStatomAmount ⟨_, Nat.lt_of_not_le hA⟩)
      ⟨_, Nat.lt_of_not_le hA⟩ = min st.totalBondStatomAmount ⟨_, Nat.lt_of_not_le hA⟩ :=
    Uint128.min_eq_left (by simp)
  simp only [State.serialize, StoredState.deserialize] at hz' ⊢
  rw [if_neg hz', hT, ok_bind, htotal, ok_bind, hmin, hrate, ok_bind]
  exact ⟨_, rfl, rfl⟩

theorem slashing_idempotent {s s1 : Storage} {q : Querier} {st : State}
    (h : slashing s q = .ok (s1, st)) :
    ∃ st', slashing s1 q = .ok (s1, st') ∧ st'.serialize = st.serialize := by
  rw [slashing_eq_writeDownSpec, bind_eq_ok] at h
  obtain ⟨st0, hst, h⟩ := h
  cases h
  obtain ⟨st', h2, hser⟩ := writeDownSpec_idempotent hst
  refine ⟨st', ?_, hser⟩
  rw [slashing_eq_writeDownSpec]
  exact (congrArg (· >>= _) h2).trans (by simp only [ok_bind, Storage.saveState, hser])

/-- The `StateResponse` of the `State` query. -/
structure StateResponse where
  statomExchangeRate : Decimal
  totalBondStatomAmount : Uint128
  prevHubBalance : Uint128
  lastUnbondedTime : UInt64
  lastProcessedBatch : UInt64
deriving DecidableEq, Repr

/-- `query_state`: the state reconciled against the staking module, which a query does not
store. -/
def queryState (s : Storage) (q : Querier) : Except StdError StateResponse :=
  queryActualState s q >>= fun state =>
  .ok ⟨state.statomExchangeRate, state.totalBondStatomAmount, state.prevHubBalance,
    state.lastUnbondedTime, state.lastProcessedBatch⟩

/-- The hub of the slashing test: 1000 uatom recorded at rate one, the token registered. -/
def testHub : Storage where
  config := ⟨"owner1", some "reward", some "validators_registry", some "statom_token"⟩
  state := ⟨Decimal.one, ⟨1000, by decide⟩, Uint128.zero, 0, 0⟩
  parameters := ⟨30, "uatom", 2, some false⟩
  currentBatch := ⟨1, Uint128.zero⟩
  guardians := []

def testReport : Querier :=
  ⟨[⟨"validator", ⟨"uatom", ⟨900, by decide⟩⟩⟩], ⟨1000, by decide⟩, []⟩

def testReconciled : State :=
  ⟨⟨1000, by decide⟩, ⟨⟨9 * 10 ^ 17, by decide⟩⟩, ⟨900, by decide⟩, Uint128.zero, 0, 0⟩

theorem slashing_writes_down_test :
    slashing testHub testReport = .ok (testHub.saveState testReconciled, testReconciled) ∧
      testReconciled.totalBondStatomAmount.val ≤ testHub.state.totalBondStatomAmount.val :=
  have h : slashing testHub testReport = .ok (testHub.saveState testReconciled, testReconciled) :=
    rfl
  ⟨h, ((slashing_writes_down testHub testReport).2 _ _ h).2.1⟩

/-- Nothing is recorded, yet two delegations of `2^127` abort the call: their sum is
taken before the recorded amount is looked at. -/
def overflowHub : Storage :=
  { testHub with state := { testHub.state with totalBondStatomAmount := Uint128.zero } }

def overflowReport : Querier :=
  ⟨[⟨"validator", ⟨"uatom", ⟨2 ^ 127, by decide⟩⟩⟩, ⟨"validator2", ⟨"uatom", ⟨2 ^ 127, by decide⟩⟩⟩],
    ⟨1000, by decide⟩, []⟩

theorem slashing_overflow_with_nothing_bonded :
    overflowHub.state.totalBondStatomAmount.val = 0 ∧
      slashing overflowHub overflowReport = .error (.panic "attempt to add with overflow") :=
  ⟨rfl, rfl⟩

end LidoCosmos.Hub
