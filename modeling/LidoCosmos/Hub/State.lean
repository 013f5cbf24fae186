import LidoCosmos.CosmWasm.Messages

/-! The hub's records from `basset::hub` and the storage items that hold them. The only
computation here is `update_statom_exchange_rate`, the one place the rate is derived. -/
namespace LidoCosmos.Hub

inductive BondType where
  | stAtom
  | bondRewards
deriving DecidableEq, Repr

structure State where
  totalStatomIssued : Uint128
  statomExchangeRate : Decimal
  totalBondStatomAmount : Uint128
  prevHubBalance : Uint128
  lastUnbondedTime : UInt64
  lastProcessedBatch : UInt64
deriving DecidableEq, Repr

structure Config where
  creator : Addr
  rewardDispatcherContract : Option Addr
  validatorsRegistryContract : Option Addr
  statomTokenContract : Option Addr
deriving DecidableEq, Repr

structure Parameters where
  epochPeriod : UInt64
  underlyingCoinDenom : String
  unbondingPeriod : UInt64
  paused : Option Bool
deriving DecidableEq, Repr

structure CurrentBatch where
  id : UInt64
  requestedStatom : Uint128
deriving DecidableEq, Repr

structure InstantiateMsg where
  epochPeriod : UInt64
  underlyingCoinDenom : String
  unbondingPeriod : UInt64
deriving DecidableEq, Repr

/-- `State` as the `STATE` item holds it: `total_statom_issued` is `skip_serializing`. -/
structure StoredState where
  statomExchangeRate : Decimal
  totalBondStatomAmount : Uint128
  prevHubBalance : Uint128
  lastUnbondedTime : UInt64
  lastProcessedBatch : UInt64
deriving DecidableEq, Repr

@[simp] def State.serialize (st : State) : StoredState :=
  ⟨st.statomExchangeRate, st.totalBondStatomAmount, st.prevHubBalance, st.lastUnbondedTime,
    st.lastProcessedBatch⟩

/-- `total_statom_issued` is also `skip_deserializing`: a load reads it as zero. -/
@[simp] def StoredState.deserialize (st : StoredState) : State :=
  ⟨Uint128.zero, st.statomExchangeRate, st.totalBondStatomAmount, st.prevHubBalance,
    st.lastUnbondedTime, st.lastProcessedBatch⟩

/-- The items `CONFIG`, `STATE`, `PARAMETERS`, `CURRENT_BATCH` and the keys of `GUARDIANS`.
The unbonding wait list and history, which only the unbonding handlers use, are not held. -/
structure Storage where
  config : Config
  state : StoredState
  parameters : Parameters
  currentBatch : CurrentBatch
  guardians : List Addr
deriving DecidableEq, Repr

/-- `STATE.load`. -/
@[simp] def Storage.loadState (s : Storage) : State := s.state.deserialize

/-- `STATE.save`. -/
@[simp] def Storage.saveState (s : Storage) (st : State) : Storage := { s with state := st.serialize }

@[simp] theorem Storage.saveState_loadState (s : Storage) : s.saveState s.loadState = s := rfl

/-- The rate, in atomics, that `update_statom_exchange_rate` derives from the bonded amount
and the supply: one when either is zero, else their ratio rounded down. -/
def rateAtomics (bonded supply : Nat) : Nat :=
  if bonded = 0 ∨ supply = 0 then 10 ^ 18 else bonded * 10 ^ 18 / supply

def State.updateStatomExchangeRate (st : State) (totalIssued requested : Uint128) :
    Except StdError State :=
  totalIssued.add requested >>= fun actualSupply =>
  if st.totalBondStatomAmount.isZero || actualSupply.isZero then
    .ok { st with statomExchangeRate := Decimal.one }
  else
    Decimal.fromRatio st.totalBondStatomAmount actualSupply >>= fun r =>
    .ok { st with statomExchangeRate := r }

theorem setRate_eq_ok {st st' : State} {supply : Uint128} :
    (if st.totalBondStatomAmount.isZero || supply.isZero then
      Except.ok { st with statomExchangeRate := Decimal.one }
    else
      Decimal.fromRatio st.totalBondStatomAmount supply >>= fun r =>
      Except.ok { st with statomExchangeRate := r }) = .ok st' ↔
      ∃ r : Decimal, st' = { st with statomExchangeRate := r } ∧
        r.atomics.val = rateAtomics st.totalBondStatomAmount.val supply.val := by
  unfold rateAtomics
  by_cases hz : st.totalBondStatomAmount.val = 0 ∨ supply.val = 0
  · simp only [hz, Uint128.isZero_eq_true, Bool.or_eq_true, if_true]
    constructor
    · rintro ⟨⟩
      exact ⟨_, rfl, rfl⟩
    · rintro ⟨r, rfl, hr⟩
      exact congrArg (fun r => Except.ok { st with statomExchangeRate := r })
        (Decimal.ext (Uint128.ext (show Decimal.one.atomics.val = r.atomics.val from hr.symm)))
  · have hs : 0 < supply.val := by omega
    simp only [hz, Uint128.isZero_eq_true, Bool.or_eq_true, if_false, bind_eq_ok,
      Decimal.fromRatio_eq_ok, hs, true_and]
    constructor
    · rintro ⟨r, hr, ⟨⟩⟩
      exact ⟨r, rfl, hr⟩
    · rintro ⟨r, rfl, hr⟩
      exact ⟨r, hr, rfl⟩

theorem updateStatomExchangeRate_eq_ok {st st' : State} {T R : Uint128} :
    st.updateStatomExchangeRate T R = .ok st' ↔
      ∃ r : Decimal, st' = { st with statomExchangeRate := r } ∧ T.val + R.val < 2 ^ 128 ∧
        r.atomics.val = rateAtomics st.totalBondStatomAmount.val (T.val + R.val) := by
  rw [State.updateStatomExchangeRate, bind_eq_ok]
  constructor
  · rintro ⟨s, hs, h⟩
    have hv := Uint128.add_eq_ok.mp hs
    obtain ⟨r, rfl, hr⟩ := setRate_eq_ok.mp h
    exact ⟨r, rfl, hv ▸ s.isLt, hv ▸ hr⟩
  · rintro ⟨r, rfl, hlt, hr⟩
    exact ⟨⟨_, hlt⟩, Uint128.add_eq_ok.mpr rfl, setRate_eq_ok.mpr ⟨r, rfl, hr⟩⟩

theorem updateStatomExchangeRate_eq_bind (st : State) (T R : Uint128) :
    st.updateStatomExchangeRate T R = T.add R >>= fun supply =>
      (if st.totalBondStatomAmount.val = 0 ∨ supply.val = 0 then Except.ok Decimal.one
        else Decimal.fromRatio st.totalBondStatomAmount supply) >>= fun r =>
      Except.ok { st with statomExchangeRate := r } := by
  unfold State.updateStatomExchangeRate
  congr 1
  funext supply
  by_cases h : st.totalBondStatomAmount.val = 0 ∨ supply.val = 0 <;> simp [h]

end LidoCosmos.Hub
