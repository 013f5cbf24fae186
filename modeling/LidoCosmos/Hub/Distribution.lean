import LidoCosmos.Hub.World

/-! Where the hub's staking rewards go. The distribution module keeps a withdraw address
for the hub, which `SetWithdrawAddress` replaces, and pays the rewards that
`WithdrawDelegatorReward` withdraws there. `Chain` is the hub's world together with that
address; the chain runs a transaction's messages after its handler, in order, and reverts
the whole transaction when one fails. Along every run from instantiation the withdraw
address is the registered dispatcher, so `DispatchRewards` withdraws the rewards into the
contract it then asks to split them. -/
namespace LidoCosmos.Hub

/-- The hub's withdraw address after its messages; `none` is the default, the hub itself. -/
def withdrawAddressAfter (addr : Option Addr) : List CosmosMsg → Option Addr
  | [] => addr
  | .setWithdrawAddress a :: ms => withdrawAddressAfter (some a) ms
  | _ :: ms => withdrawAddressAfter addr ms

theorem withdrawAddressAfter_keep {addr : Option Addr} {ms : List CosmosMsg}
    (h : ∀ m ∈ ms, ∀ a, m ≠ .setWithdrawAddress a) : withdrawAddressAfter addr ms = addr := by
  induction ms with
  | nil => rfl
  | cons m ms ih =>
    have hrest := ih fun m' hm' => h m' (List.mem_cons_of_mem _ hm')
    cases m with
    | setWithdrawAddress a => exact absurd rfl (h _ (List.mem_cons_self _ _) a)
    | _ => exact hrest

theorem withdrawAddressAfter_append (addr : Option Addr) (ms ms' : List CosmosMsg) :
    withdrawAddressAfter addr (ms ++ ms') = withdrawAddressAfter (withdrawAddressAfter addr ms) ms' := by
  induction ms generalizing addr with
  | nil => rfl
  | cons m ms ih => cases m <;> exact ih _

theorem executeUpdateConfig_dispatcher {s s' : Storage} {info : MessageInfo}
    {owner rewards token registry : Option Addr} {resp : Response}
    (h : executeUpdateConfig s info owner rewards token registry = .ok (s', resp)) :
    s'.config.rewardDispatcherContract = rewards.or s.config.rewardDispatcherContract := by
  unfold executeUpdateConfig at h
  split at h; · cases h
  split at h; · cases h
  cases h
  rfl

section
variable (calculateDelegations : Uint128 → List ValidatorResponse → Except StdError (List Uint128))

theorem executeBond_keeps_withdrawAddress {s s' : Storage} {q : Querier} {info : MessageInfo}
    {bt : BondType} {resp : Response}
    (h : executeBond calculateDelegations s q info bt = .ok (s', resp)) :
    withdrawAddressAfter s.config.rewardDispatcherContract resp.messages =
      s'.config.rewardDispatcherContract := by
  obtain ⟨t, hb⟩ := executeBond_eq_ok calculateDelegations h
  have hd : ∀ m ∈ t.externalCallMsgs, ∀ a, m ≠ .setWithdrawAddress a := fun m hm a => by
    obtain ⟨v, c, rfl⟩ := hb.delegates m hm
    nofun
  rw [hb.stores, hb.saved]
  cases bt with
  | bondRewards =>
    rw [hb.rewardMessages rfl]
    exact withdrawAddressAfter_keep hd
  | stAtom =>
    obtain ⟨_, -, hresp⟩ := hb.userMessages rfl
    rw [hresp, withdrawAddressAfter_append, withdrawAddressAfter_keep hd]
    rfl

theorem execute_withdrawAddress {s s' : Storage} {q : Querier} {info : MessageInfo}
    {msg : ExecuteMsg} {resp : Response}
    (h : execute calculateDelegations s q info msg = .ok (s', resp)) :
    withdrawAddressAfter s.config.rewardDispatcherContract resp.messages =
      s'.config.rewardDispatcherContract := by
  cases msg <;> simp only [execute] at h
  case bondForStAtom | bondRewards => exact executeBond_keeps_withdrawAddress calculateDelegations h
  case checkSlashing =>
    obtain ⟨_, hsl, hm⟩ := executeSlashing_eq_ok h
    clear h
    obtain ⟨rfl, -⟩ := slashing_eq_ok hsl
    rw [hm]; rfl
  case dispatchRewards =>
    obtain ⟨rfl, _, -, hm⟩ := executeDispatchRewards_eq_ok h
    have hw : ∀ m ∈ withdrawAllRewards q, ∀ a, m ≠ .setWithdrawAddress a := fun m hm a => by
      obtain ⟨d, -, rfl⟩ := List.mem_map.mp hm
      nofun
    rw [hm, withdrawAddressAfter_append, withdrawAddressAfter_keep hw]
    rfl
  case redelegateProxy =>
    obtain ⟨rfl, hm⟩ := executeRedelegateProxy_eq_ok h
    rw [hm, withdrawAddressAfter_keep]
    intro m hm a
    obtain ⟨r, -, rfl⟩ := List.mem_map.mp hm
    nofun
  case pauseContracts =>
    obtain ⟨-, rfl, hm⟩ := executePauseContracts_eq_ok h
    rw [hm]; rfl
  case updateConfig _ rewards _ _ =>
    obtain ⟨-, -, -, hm⟩ := executeUpdateConfig_eq_ok h
    rw [hm, executeUpdateConfig_dispatcher h]
    cases rewards <;> rfl
  case updateParams | unpauseContracts | addGuardians | removeGuardians =>
    obtain ⟨-, h⟩ := requireCreator_eq_ok.mp h
    cases h
    rfl

end

/-- The hub's world and the withdraw address the distribution module keeps for it. -/
structure Chain where
  world : World
  withdrawAddress : Option Addr

def Chain.instantiate (env : Env) (info : MessageInfo) (msg : InstantiateMsg) : Chain :=
  ⟨World.instantiate env info msg, none⟩

section
variable (calculateDelegations : Uint128 → List ValidatorResponse → Except StdError (List Uint128))

/-- A transaction: the hub's handler, then its messages: the mints, and the withdraw
address it sets. -/
def Chain.step (ch : Chain) (c : Call) : Except StdError Chain :=
  execute calculateDelegations ch.world.hub (ch.world.querier c) c.info c.msg >>= fun (hub, resp) =>
  applyMints hub.config.statomTokenContract ch.world.tokenSupply resp.messages >>= fun supply =>
  .ok ⟨⟨hub, supply⟩, withdrawAddressAfter ch.withdrawAddress resp.messages⟩

def Chain.run (ch : Chain) : List Call → Except StdError Chain
  | [] => .ok ch
  | c :: cs => ch.step calculateDelegations c >>= fun ch => Chain.run ch cs

theorem Chain.step_withdrawAddress {ch ch' : Chain} {c : Call}
    (h : ch.step calculateDelegations c = .ok ch')
    (h0 : ch.withdrawAddress = ch.world.hub.config.rewardDispatcherContract) :
    ch'.withdrawAddress = ch'.world.hub.config.rewardDispatcherContract := by
  obtain ⟨⟨hub, resp⟩, hx, h⟩ := bind_eq_ok.mp h
  obtain ⟨supply, -, h⟩ := bind_eq_ok.mp h
  cases h
  exact h0 ▸ execute_withdrawAddress calculateDelegations hx

theorem Chain.run_withdrawAddress {ch ch' : Chain} {cs : List Call}
    (h : ch.run calculateDelegations cs = .ok ch')
    (h0 : ch.withdrawAddress = ch.world.hub.config.rewardDispatcherContract) :
    ch'.withdrawAddress = ch'.world.hub.config.rewardDispatcherContract := by
  induction cs generalizing ch with
  | nil => cases h; exact h0
  | cons c cs ih =>
    obtain ⟨ch1, h1, h⟩ := bind_eq_ok.mp h
    exact ih h (Chain.step_withdrawAddress calculateDelegations h1 h0)

theorem rewards_withdrawn_to_dispatcher {env : Env} {info : MessageInfo} {msg : InstantiateMsg}
    {cs : List Call} {ch : Chain}
    (h : (Chain.instantiate env info msg).run calculateDelegations cs = .ok ch) :
    ch.withdrawAddress = ch.world.hub.config.rewardDispatcherContract ∧
      ∀ c hub resp, execute calculateDelegations ch.world.hub (ch.world.querier c) c.info
          .dispatchRewards = .ok (hub, resp) →
        ∃ d, ch.withdrawAddress = some d ∧
          resp.messages = withdrawAllRewards (ch.world.querier c) ++ [.wasmExecute d .dispatchRewards []] := by
  have inv := Chain.run_withdrawAddress calculateDelegations h rfl
  refine ⟨inv, fun c hub resp hx => ?_⟩
  obtain ⟨-, d, hd, hm⟩ := executeDispatchRewards_eq_ok hx
  exact ⟨d, inv.trans hd, hm⟩

end

/-- The owner names a new dispatcher, as in the hub's `proper_update_config` test. -/
def newDispatcher : Call :=
  ⟨⟨"owner1", []⟩, .updateConfig none (some "new reward") none none, [], []⟩

theorem rewards_withdrawn_to_dispatcher_test :
    ∃ ch, (Chain.instantiate ⟨1571797419, "cosmos2contract"⟩ ⟨"owner1", []⟩ ⟨30, "uatom", 2⟩).run
        wholeToFirst [registerContracts, newDispatcher] = .ok ch ∧
      ch.withdrawAddress = ch.world.hub.config.rewardDispatcherContract ∧
      ch.withdrawAddress = some "new reward" :=
  ⟨_, rfl, (@rewards_withdrawn_to_dispatcher wholeToFirst ⟨1571797419, "cosmos2contract"⟩
    ⟨"owner1", []⟩ ⟨30, "uatom", 2⟩ [registerContracts, newDispatcher] _ rfl).1, rfl⟩

end LidoCosmos.Hub
