import LidoCosmos.Hub.Bond

/-! The hub's entry points: instantiation, the owner's and guardians' operations, the
reward trigger and the dispatch of `ExecuteMsg`. `Receive` and `WithdrawUnbonded` are not
dispatched: their handlers in `unbond.rs` are not among the sources. `receive_cw20` is
modelled up to the unbonding handler it calls, which it takes as a parameter. -/
namespace LidoCosmos.Hub

/-- What the handlers read of `Env`. -/
structure Env where
  blockTime : UInt64
  contractAddress : Addr
deriving DecidableEq, Repr

def instantiate (env : Env) (info : MessageInfo) (msg : InstantiateMsg) : Storage × Response :=
  ({ config := ⟨info.sender, none, none, none⟩
     state := State.serialize
      { totalStatomIssued := Uint128.zero
        statomExchangeRate := Decimal.one
        totalBondStatomAmount := Uint128.zero
        prevHubBalance := Uint128.zero
        lastUnbondedTime := env.blockTime
        lastProcessedBatch := 0 }
     parameters := ⟨msg.epochPeriod, msg.underlyingCoinDenom, msg.unbondingPeriod, some false⟩
     currentBatch := ⟨1, Uint128.zero⟩
     guardians := [] }, {})

/-- The guard the creator-only handlers start with; `r` is what the handler then stores and
answers. -/
def requireCreator (s : Storage) (info : MessageInfo) (r : Storage × Response) :
    Except StdError (Storage × Response) :=
  if info.sender ≠ s.config.creator then .error (.genericErr "unauthorized") else .ok r

theorem requireCreator_eq_ok {s : Storage} {info : MessageInfo} {r r' : Storage × Response} :
    requireCreator s info r = .ok r' ↔ info.sender = s.config.creator ∧ r = r' := by
  unfold requireCreator
  split <;> simp_all

/-- Modelled from the spec: `execute_update_config` of the hub's `config.rs` is absent. This
follows the `UpdateConfig` message of `basset::hub` and the hub's `proper_update_config`
test: only the owner may call it, a new dispatcher also becomes the reward withdraw
address, and a registered token cannot be replaced. -/
def executeUpdateConfig (s : Storage) (info : MessageInfo)
    (owner rewardsDispatcherContract statomTokenContract validatorsRegistryContract : Option Addr) :
    Except StdError (Storage × Response) :=
  if info.sender ≠ s.config.creator then .error (.genericErr "unauthorized") else
  if statomTokenContract.isSome ∧ s.config.statomTokenContract.isSome then
    .error (.genericErr "updating stAtom token address is forbidden") else
  let config : Config :=
    { creator := owner.getD s.config.creator
      rewardDispatcherContract := rewardsDispatcherContract.or s.config.rewardDispatcherContract
      validatorsRegistryContract :=
        validatorsRegistryContract.or s.config.validatorsRegistryContract
      statomTokenContract := statomTokenContract.or s.config.statomTokenContract }
  .ok ({ s with config := config },
    { messages := (rewardsDispatcherContract.map CosmosMsg.setWithdrawAddress).toList })

theorem executeUpdateConfig_eq_ok {s s' : Storage} {info : MessageInfo}
    {owner rewards token registry : Option Addr} {resp : Response}
    (h : executeUpdateConfig s info owner rewards token registry = .ok (s', resp)) :
    info.sender = s.config.creator ∧ s' = { s with config := s'.config } ∧
      (s.config.statomTokenContract.isSome →
        s'.config.statomTokenContract = s.config.statomTokenContract) ∧
      resp.messages = (rewards.map CosmosMsg.setWithdrawAddress).toList := by
  unfold executeUpdateConfig at h
  split at h; · cases h
  next hs =>
  split at h; · cases h
  next hnew =>
  cases h
  refine ⟨Decidable.not_not.mp hs, rfl, fun hreg => ?_, rfl⟩
  cases token with
  | none => rfl
  | some _ => exact absurd ⟨rfl, hreg⟩ hnew

/-- Modelled from the spec: `execute_update_params` of the hub's `config.rs` is absent; only
the owner may set the two periods, as the hub's `test_update_params` expects. -/
def executeUpdateParams (s : Storage) (info : MessageInfo) (epochPeriod unbondingPeriod : Option UInt64) :
    Except StdError (Storage × Response) :=
  requireCreator s info ({ s with parameters := { s.parameters with
      epochPeriod := epochPeriod.getD s.parameters.epochPeriod
      unbondingPeriod := unbondingPeriod.getD s.parameters.unbondingPeriod } }, {})

def executeAddGuardians (s : Storage) (info : MessageInfo) (guardians : List Addr) :
    Except StdError (Storage × Response) :=
  requireCreator s info ({ s with guardians := guardians.foldl (fun gs g => gs.insert g) s.guardians },
    { attributes := attr "action" "add_guardians" :: guardians.map (attr "address") })

def executeRemoveGuardians (s : Storage) (info : MessageInfo) (guardians : List Addr) :
    Except StdError (Storage × Response) :=
  requireCreator s info ({ s with guardians := s.guardians.filter (· ∉ guardians) },
    { attributes := attr "action" "remove_guardians" :: guardians.map (attr "value") })

/-- Unlike the other guarded handlers, a guardian may pause too. -/
def executePauseContracts (s : Storage) (info : MessageInfo) :
    Except StdError (Storage × Response) :=
  if ¬(info.sender = s.config.creator ∨ info.sender ∈ s.guardians) then
    .error (.genericErr "unauthorized") else
  .ok ({ s with parameters := { s.parameters with paused := some true } },
    { attributes := [attr "action" "pause_contracts"] })

theorem executePauseContracts_eq_ok {s s' : Storage} {info : MessageInfo} {resp : Response}
    (h : executePauseContracts s info = .ok (s', resp)) :
    (info.sender = s.config.creator ∨ info.sender ∈ s.guardians) ∧
      s' = { s with parameters := { s.parameters with paused := some true } } ∧
      resp.messages = [] := by
  unfold executePauseContracts at h
  split at h; · cases h
  next hs => cases h; exact ⟨Decidable.not_not.mp hs, rfl, rfl⟩

def executeUnpauseContracts (s : Storage) (info : MessageInfo) :
    Except StdError (Storage × Response) :=
  requireCreator s info ({ s with parameters := { s.parameters with paused := some false } },
    { attributes := [attr "action" "unpause_contracts"] })

def executeRedelegateProxy (s : Storage) (info : MessageInfo) (srcValidator : Addr)
    (redelegations : List (Addr × Coin)) : Except StdError (Storage × Response) :=
  match s.config.validatorsRegistryContract with
  | none => .error (.genericErr "the validator registry contract must have been registered")
  | some validatorsRegistryContract =>
  if ¬(info.sender = validatorsRegistryContract ∨ info.sender = s.config.creator) then
    .error (.genericErr "unauthorized") else
  .ok (s, { messages := redelegations.map fun r => .redelegate srcValidator r.1 r.2 })

theorem executeRedelegateProxy_eq_ok {s s' : Storage} {info : MessageInfo} {src : Addr}
    {redelegations : List (Addr × Coin)} {resp : Response}
    (h : executeRedelegateProxy s info src redelegations = .ok (s', resp)) :
    s' = s ∧ resp.messages = redelegations.map fun r => .redelegate src r.1 r.2 := by
  unfold executeRedelegateProxy at h
  split at h; · cases h
  split at h; · cases h
  cases h
  exact ⟨rfl, rfl⟩

/-- `withdraw_all_rewards`: one withdrawal per delegation of the hub. -/
def withdrawAllRewards (q : Querier) : List CosmosMsg :=
  q.allDelegations.map fun d => .withdrawDelegatorReward d.validator

/-- Permissionless: withdraws every reward and asks the dispatcher to split them. -/
def executeDispatchRewards (s : Storage) (q : Querier) : Except StdError (Storage × Response) :=
  if s.parameters.paused.getD false then .error (.genericErr "the contract is temporarily paused")
  else
  match s.config.rewardDispatcherContract with
  | none => .error (.genericErr "the reward contract must have been registered")
  | some rewardAddrDispatcher =>
    .ok (s, { messages := withdrawAllRewards q ++ [.wasmExecute rewardAddrDispatcher .dispatchRewards []]
              attributes := [attr "action" "dispatch_rewards"] })

theorem executeDispatchRewards_eq_ok {s s' : Storage} {q : Querier} {resp : Response}
    (h : executeDispatchRewards s q = .ok (s', resp)) :
    s' = s ∧ ∃ dispatcher, s.config.rewardDispatcherContract = some dispatcher ∧
      resp.messages = withdrawAllRewards q ++ [.wasmExecute dispatcher .dispatchRewards []] := by
  unfold executeDispatchRewards at h
  split at h; · cases h
  split at h; · cases h
  next dispatcher hd => cases h; exact ⟨rfl, dispatcher, hd, rfl⟩

inductive ExecuteMsg where
  | updateConfig (owner rewardsDispatcherContract validatorsRegistryContract
      statomTokenContract : Option Addr)
  | updateParams (epochPeriod unbondingPeriod : Option UInt64)
  | pauseContracts
  | unpauseContracts
  | bondForStAtom
  | bondRewards
  | dispatchRewards
  | checkSlashing
  | redelegateProxy (srcValidator : Addr) (redelegations : List (Addr × Coin))
  | addGuardians (addresses : List Addr)
  | removeGuardians (addresses : List Addr)
deriving DecidableEq, Repr

section
variable (calculateDelegations : Uint128 → List ValidatorResponse → Except StdError (List Uint128))

def execute (s : Storage) (q : Querier) (info : MessageInfo) :
    ExecuteMsg → Except StdError (Storage × Response)
  | .bondForStAtom => executeBond calculateDelegations s q info .stAtom
  | .bondRewards => executeBond calculateDelegations s q info .bondRewards
  | .dispatchRewards => executeDispatchRewards s q
  | .checkSlashing => executeSlashing s q
  | .updateParams epochPeriod unbondingPeriod =>
    executeUpdateParams s info epochPeriod unbondingPeriod
  | .updateConfig owner rewardsDispatcherContract validatorsRegistryContract statomTokenContract =>
    executeUpdateConfig s info owner rewardsDispatcherContract statomTokenContract
      validatorsRegistryContract
  | .redelegateProxy srcValidator redelegations =>
    executeRedelegateProxy s info srcValidator redelegations
  | .pauseContracts => executePauseContracts s info
  | .unpauseContracts => executeUnpauseContracts s info
  | .addGuardians addresses => executeAddGuardians s info addresses
  | .removeGuardians addresses => executeRemoveGuardians s info addresses

end

/-- What a call may change, by who sent it: the config and the guardians only the creator
may change, the parameters only the creator or a guardian, and a registered token no one. -/
structure Authorized (s s' : Storage) (sender : Addr) : Prop where
  config : s'.config ≠ s.config → sender = s.config.creator
  token : s.config.statomTokenContract.isSome →
    s'.config.statomTokenContract = s.config.statomTokenContract
  guardians : s'.guardians ≠ s.guardians → sender = s.config.creator
  parameters : s'.parameters ≠ s.parameters → sender = s.config.creator ∨ sender ∈ s.guardians

theorem Authorized.of_frame {s s' : Storage} {sender : Addr} (hc : s'.config = s.config)
    (hg : s'.guardians = s.guardians) (hp : s'.parameters = s.parameters) :
    Authorized s s' sender :=
  ⟨fun h => absurd hc h, fun _ => by rw [hc], fun h => absurd hg h, fun h => absurd hp h⟩

section
variable (calculateDelegations : Uint128 → List ValidatorResponse → Except StdError (List Uint128))

theorem execute_cases {s s' : Storage} {q : Querier} {info : MessageInfo} {msg : ExecuteMsg}
    {resp : Response} (h : execute calculateDelegations s q info msg = .ok (s', resp)) :
    s' = { s with state := s'.state } ∨
      ((info.sender = s.config.creator ∨ info.sender ∈ s.guardians) ∧
        s' = { s with parameters := { s.parameters with paused := some true } }) ∨
      (info.sender = s.config.creator ∧ (s.config.statomTokenContract.isSome →
        s'.config.statomTokenContract = s.config.statomTokenContract)) := by
  cases msg <;> simp only [execute] at h
  case bondForStAtom | bondRewards =>
    obtain ⟨_, hb⟩ := executeBond_eq_ok calculateDelegations h
    rw [hb.stores, hb.saved]
    exact .inl rfl
  case checkSlashing =>
    obtain ⟨_, hsl, -⟩ := executeSlashing_eq_ok h
    clear h
    obtain ⟨rfl, -⟩ := slashing_eq_ok hsl
    exact .inl rfl
  case dispatchRewards =>
    obtain ⟨rfl, -⟩ := executeDispatchRewards_eq_ok h
    exact .inl rfl
  case redelegateProxy =>
    obtain ⟨rfl, -⟩ := executeRedelegateProxy_eq_ok h
    exact .inl rfl
  case pauseContracts =>
    obtain ⟨hs, rfl, -⟩ := executePauseContracts_eq_ok h
    exact .inr (.inl ⟨hs, rfl⟩)
  case updateConfig =>
    obtain ⟨hs, -, htoken, -⟩ := executeUpdateConfig_eq_ok h
    exact .inr (.inr ⟨hs, htoken⟩)
  case updateParams | unpauseContracts | addGuardians | removeGuardians =>
    obtain ⟨hs, h⟩ := requireCreator_eq_ok.mp h
    cases h
    exact .inr (.inr ⟨hs, fun _ => rfl⟩)

theorem execute_authorized {s s' : Storage} {q : Querier} {info : MessageInfo} {msg : ExecuteMsg}
    {resp : Response} (h : execute calculateDelegations s q info msg = .ok (s', resp)) :
    Authorized s s' info.sender ∧
      (msg = .bondRewards → s.config.rewardDispatcherContract = some info.sender) := by
  refine ⟨?_, fun hm => ?_⟩
  · rcases execute_cases calculateDelegations h with hs | ⟨hs, hp⟩ | ⟨hs, ht⟩
    · rw [hs]
      exact .of_frame rfl rfl rfl
    · rw [hp]
      exact ⟨fun h => absurd rfl h, fun _ => rfl, fun h => absurd rfl h, fun _ => hs⟩
    · exact ⟨fun _ => hs, ht, fun _ => hs, fun _ => .inl hs⟩
  · subst hm
    obtain ⟨_, hb⟩ := executeBond_eq_ok calculateDelegations h
    exact (hb.fromDispatcher rfl).2

end

/-- `Cw20HookMsg` of `basset::hub`. -/
inductive Cw20HookMsg where
  | unbond
deriving DecidableEq, Repr

/-- `Cw20ReceiveMsg`: the token holder, the amount, and the hook message as `from_binary`
decodes it. -/
structure Cw20ReceiveMsg where
  sender : Addr
  amount : Uint128
  msg : Except StdError Cw20HookMsg

section
/- `addr_validate` of the chain's API, and `execute_unbond_statom` of `unbond.rs`, which is
not among the sources. -/
variable (addrValidate : String → Except StdError Addr)
  (executeUnbondStatom : Storage → Env → Uint128 → Addr → Except StdError (Storage × Response))

/-- `receive_cw20`: only the registered token may hand the hub tokens to unbond. -/
def receiveCw20 (s : Storage) (env : Env) (info : MessageInfo) (cw20Msg : Cw20ReceiveMsg) :
    Except StdError (Storage × Response) :=
  if s.parameters.paused.getD false then .error (.genericErr "the contract is temporarily paused")
  else
  addrValidate info.sender >>= fun contractAddr =>
  match s.config.statomTokenContract with
  | none => .error (.genericErr "the statom token contract must have been registered")
  | some statomContractAddr =>
  cw20Msg.msg >>= fun
    | .unbond =>
      if contractAddr = statomContractAddr then
        executeUnbondStatom s env cw20Msg.amount cw20Msg.sender
      else .error (.genericErr "unauthorized")

end

theorem reward_bond_authorized :
    ∃ s' resp, execute wholeToFirst testHub rewardReport rewardDeposit .bondRewards =
      .ok (s', resp) ∧ Authorized testHub s' rewardDeposit.sender ∧
      (ExecuteMsg.bondRewards = .bondRewards →
        testHub.config.rewardDispatcherContract = some rewardDeposit.sender) :=
  ⟨_, _, rfl, @execute_authorized wholeToFirst testHub _ rewardReport rewardDeposit .bondRewards _ rfl⟩

end LidoCosmos.Hub
