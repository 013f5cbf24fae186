import LidoCosmos.CosmWasm.Messages

/-! The rewards dispatcher. It holds the rewards the hub withdraws; when the hub asks, it
keeps a fee at `lido_fee_rate` for the fee address and sends the rest back to the hub as a
reward bond. Its owner may change every field of its config but the reward denom, and
nothing bounds the fee rate. -/
namespace LidoCosmos.Dispatcher

/-- Modelled from the spec: `crate::state::Config` is absent; its fields are those
`contract.rs` builds and reads. -/
structure Config where
  owner : Addr
  hubContract : Addr
  statomRewardDenom : String
  lidoFeeAddress : Addr
  lidoFeeRate : Decimal
deriving DecidableEq, Repr

structure InstantiateMsg where
  hubContract : String
  statomRewardDenom : String
  lidoFeeAddress : String
  lidoFeeRate : Decimal
deriving DecidableEq, Repr

inductive ExecuteMsg where
  | updateConfig (owner hubContract statomRewardDenom lidoFeeAddress : Option String)
      (lidoFeeRate : Option Decimal)
  | dispatchRewards
deriving DecidableEq, Repr

/-- What the dispatcher's queries answer during one call: its own balance in each denom, and
the `paused` parameter of the contract at an address, if that contract answers. -/
structure Querier where
  balance : String → Uint128
  paused : Addr → Except StdError (Option Bool)

/-- `basset::hub::is_paused`. -/
def isPaused (q : Querier) (hubAddr : Addr) : Except StdError Bool :=
  q.paused hubAddr >>= fun paused => .ok (paused.getD false)

theorem isPaused_eq_ok {q : Querier} {hubAddr : Addr} {b : Bool} :
    isPaused q hubAddr = .ok b ↔ ∃ p, q.paused hubAddr = .ok p ∧ p.getD false = b := by
  unfold isPaused
  cases q.paused hubAddr <;> simp [eq_comm]

/-- `compute_lido_fee`: `amount * fee_rate`, rounded down. -/
def computeLidoFee (amount : Uint128) (feeRate : Decimal) : Except StdError Uint128 :=
  amount.mulDecimal feeRate

theorem computeLidoFee_eq_ok {a fee : Uint128} {r : Decimal} :
    computeLidoFee a r = .ok fee ↔ fee.val = a.val * r.atomics.val / 10 ^ 18 :=
  Uint128.mulDecimal_eq_ok

section
/- `Api::addr_validate` is the chain's; the dispatcher is modelled for every validator. -/
variable (addrValidate : String → Except StdError Addr)

def instantiate (info : MessageInfo) (msg : InstantiateMsg) : Except StdError (Config × Response) :=
  addrValidate msg.hubContract >>= fun hubContract =>
  addrValidate msg.lidoFeeAddress >>= fun lidoFeeAddress =>
  .ok (⟨info.sender, hubContract, msg.statomRewardDenom, lidoFeeAddress, msg.lidoFeeRate⟩, {})

/-- The `if let Some(x)` blocks of `execute_update_config` that validate an address and store
it with `set`. -/
def updateAddr (x : Option String) (set : Config → Addr → Config) (conf : Config) :
    Except StdError Config :=
  match x with
  | none => .ok conf
  | some a => addrValidate a >>= fun raw => .ok (set conf raw)

theorem updateAddr_preserves {α : Type} {x : Option String} {set : Config → Addr → Config}
    {conf c : Config} (f : Config → α) (h : updateAddr addrValidate x set conf = .ok c)
    (hset : ∀ c a, f (set c a) = f c) : f c = f conf := by
  unfold updateAddr at h
  split at h
  · cases h; rfl
  · obtain ⟨raw, -, h⟩ := bind_eq_ok.mp h
    cases h
    exact hset _ _

/-- Each `CONFIG.update` stores on success, and a later error reverts the whole call, so the
updates compose as one function of the loaded config. -/
def executeUpdateConfig (conf : Config) (info : MessageInfo)
    (owner hubContract statomRewardDenom lidoFeeAddress : Option String)
    (lidoFeeRate : Option Decimal) : Except StdError (Config × Response) :=
  addrValidate info.sender >>= fun senderRaw =>
  if senderRaw ≠ conf.owner then .error (.genericErr "unauthorized") else
  updateAddr addrValidate owner (fun c o => { c with owner := o }) conf >>= fun conf =>
  updateAddr addrValidate hubContract (fun c h => { c with hubContract := h }) conf >>= fun conf =>
  match statomRewardDenom with
  | some _ => .error (.genericErr "updating statom reward denom is forbidden")
  | none =>
  let conf := match lidoFeeRate with
    | none => conf
    | some r => { conf with lidoFeeRate := r }
  updateAddr addrValidate lidoFeeAddress (fun c a => { c with lidoFeeAddress := a }) conf >>=
    fun conf => .ok (conf, {})

end

/-- The messages of a dispatch: the reward bond to the hub, then the fee, each only when
its amount is nonzero. -/
def dispatchMessages (hub feeAddress : Addr) (denom : String) (rewards fee : Uint128) :
    List CosmosMsg :=
  (if rewards.isZero then [] else [.wasmExecute hub .bondRewards [⟨denom, rewards⟩]]) ++
    (if fee.isZero then [] else [.bankSend feeAddress [⟨denom, fee⟩]])

def executeDispatchRewards (conf : Config) (q : Querier) (info : MessageInfo) :
    Except StdError Response :=
  isPaused q conf.hubContract >>= fun paused =>
  if paused then .error (.genericErr "the contract is temporarily paused") else
  let hubAddr := conf.hubContract
  if info.sender ≠ hubAddr then .error (.genericErr "unauthorized") else
  let statomRewards : Coin := ⟨conf.statomRewardDenom, q.balance conf.statomRewardDenom⟩
  computeLidoFee statomRewards.amount conf.lidoFeeRate >>= fun lidoStatomFeeAmount =>
  statomRewards.amount.checkedSub lidoStatomFeeAmount >>= fun amount =>
  let statomRewards := { statomRewards with amount := amount }
  let statomFee : Coin := ⟨conf.statomRewardDenom, lidoStatomFeeAmount⟩
  .ok { messages := dispatchMessages hubAddr conf.lidoFeeAddress conf.statomRewardDenom amount
          lidoStatomFeeAmount
        attributes := [attr "action" "claim_reward", attr "statom_rewards" statomRewards.toString] ++
          if lidoStatomFeeAmount.isZero then [] else [attr "lido_statom_fee" statomFee.toString] }

theorem executeDispatchRewards_eq_ok {conf : Config} {q : Querier} {info : MessageInfo}
    {resp : Response} (h : executeDispatchRewards conf q info = .ok resp) :
    ∃ fee rewards : Uint128, isPaused q conf.hubContract = .ok false ∧
      info.sender = conf.hubContract ∧
      fee.val = (q.balance conf.statomRewardDenom).val * conf.lidoFeeRate.atomics.val / 10 ^ 18 ∧
      rewards.val + fee.val = (q.balance conf.statomRewardDenom).val ∧
      resp.messages =
        dispatchMessages conf.hubContract conf.lidoFeeAddress conf.statomRewardDenom rewards fee := by
  unfold executeDispatchRewards at h
  obtain ⟨paused, hp, h⟩ := bind_eq_ok.mp h
  dsimp only at h
  split at h; · cases h
  next hpaused =>
  split at h; · cases h
  next hs =>
  obtain ⟨fee, hfee, h⟩ := bind_eq_ok.mp h
  obtain ⟨rewards, hrew, h⟩ := bind_eq_ok.mp h
  cases h
  obtain ⟨hle, hval⟩ := Uint128.checkedSub_eq_ok.mp hrew
  refine ⟨fee, rewards, ?_, Decidable.not_not.mp hs, computeLidoFee_eq_ok.mp hfee, by omega, rfl⟩
  rwa [Bool.eq_false_iff.mpr hpaused] at hp

theorem executeDispatchRewards_ok_of_le {conf : Config} {q : Querier} {info : MessageInfo}
    (hp : isPaused q conf.hubContract = .ok false) (hs : info.sender = conf.hubContract)
    (hle : (q.balance conf.statomRewardDenom).val * conf.lidoFeeRate.atomics.val / 10 ^ 18 ≤
      (q.balance conf.statomRewardDenom).val) :
    ∃ resp, executeDispatchRewards conf q info = .ok resp := by
  have hlt := (q.balance conf.statomRewardDenom).isLt
  let fee : Uint128 := ⟨_, Nat.lt_of_le_of_lt hle hlt⟩
  have hfee : computeLidoFee (q.balance conf.statomRewardDenom) conf.lidoFeeRate = .ok fee :=
    computeLidoFee_eq_ok.mpr rfl
  have hsub : (q.balance conf.statomRewardDenom).checkedSub fee =
      .ok ⟨_, Nat.lt_of_le_of_lt (Nat.sub_le _ fee.val) hlt⟩ :=
    Uint128.checkedSub_eq_ok.mpr ⟨hle, rfl⟩
  unfold executeDispatchRewards
  rw [hp, ok_bind, if_neg Bool.false_ne_true]
  dsimp only
  rw [if_neg (not_not.mpr hs), hfee, ok_bind, hsub, ok_bind]
  exact ⟨_, rfl⟩

section
variable (addrValidate : String → Except StdError Addr)

def execute (conf : Config) (q : Querier) (info : MessageInfo) :
    ExecuteMsg → Except StdError (Config × Response)
  | .dispatchRewards => executeDispatchRewards conf q info >>= fun resp => .ok (conf, resp)
  | .updateConfig owner hubContract statomRewardDenom lidoFeeAddress lidoFeeRate =>
    executeUpdateConfig addrValidate conf info owner hubContract statomRewardDenom lidoFeeAddress
      lidoFeeRate

/-- The configs that the instantiation by `info` with `msg`, and any calls after it, leave
stored. -/
inductive ConfigReachable (info : MessageInfo) (msg : InstantiateMsg) : Config → Prop
  | instantiate {conf : Config} {resp : Response}
      (h : instantiate addrValidate info msg = .ok (conf, resp)) : ConfigReachable info msg conf
  | execute {conf conf' : Config} {q : Querier} {info' : MessageInfo} {m : ExecuteMsg}
      {resp : Response} (hc : ConfigReachable info msg conf)
      (h : execute addrValidate conf q info' m = .ok (conf', resp)) : ConfigReachable info msg conf'

theorem executeUpdateConfig_eq_ok {conf conf' : Config} {info : MessageInfo}
    {owner hubContract statomRewardDenom lidoFeeAddress : Option String}
    {lidoFeeRate : Option Decimal} {resp : Response}
    (h : executeUpdateConfig addrValidate conf info owner hubContract statomRewardDenom
      lidoFeeAddress lidoFeeRate = .ok (conf', resp)) :
    addrValidate info.sender = .ok conf.owner ∧ statomRewardDenom = none ∧
      conf'.statomRewardDenom = conf.statomRewardDenom ∧
      conf'.lidoFeeRate = lidoFeeRate.getD conf.lidoFeeRate := by
  unfold executeUpdateConfig at h
  obtain ⟨senderRaw, hsender, h⟩ := bind_eq_ok.mp h
  split at h; · cases h
  next hs =>
  obtain ⟨c1, h1, h⟩ := bind_eq_ok.mp h
  obtain ⟨c2, h2, h⟩ := bind_eq_ok.mp h
  refine ⟨Decidable.not_not.mp hs ▸ hsender, ?_⟩
  cases statomRewardDenom with
  | some _ => cases h
  | none =>
    obtain ⟨c3, h3, h⟩ := bind_eq_ok.mp h
    cases h
    -- the address updates set neither the denom nor the fee rate
    let kept (c : Config) := (c.statomRewardDenom, c.lidoFeeRate)
    have h12 : kept c2 = kept conf :=
      (updateAddr_preserves addrValidate kept h2 fun _ _ => rfl).trans
        (updateAddr_preserves addrValidate kept h1 fun _ _ => rfl)
    have h3 := updateAddr_preserves addrValidate kept h3 fun _ _ => rfl
    cases lidoFeeRate <;> simp only [kept, Prod.mk.injEq] at h12 h3 <;> simp [h12, h3]

theorem execute_keeps_rewardDenom {conf conf' : Config} {q : Querier} {info : MessageInfo}
    {msg : ExecuteMsg} {resp : Response} (h : execute addrValidate conf q info msg = .ok (conf', resp)) :
    conf'.statomRewardDenom = conf.statomRewardDenom ∧
      (conf' ≠ conf → addrValidate info.sender = .ok conf.owner) := by
  cases msg with
  | dispatchRewards =>
    obtain ⟨_, -, h⟩ := bind_eq_ok.mp h
    cases h
    exact ⟨rfl, fun h => absurd rfl h⟩
  | updateConfig =>
    obtain ⟨hs, -, hd, -⟩ := executeUpdateConfig_eq_ok addrValidate h
    exact ⟨hd, fun _ => hs⟩

theorem rewardDenom_of_reachable {info : MessageInfo} {msg : InstantiateMsg} {conf : Config}
    (h : ConfigReachable addrValidate info msg conf) :
    conf.statomRewardDenom = msg.statomRewardDenom := by
  induction h with
  | instantiate h =>
    obtain ⟨_, -, h⟩ := bind_eq_ok.mp h
    obtain ⟨_, -, h⟩ := bind_eq_ok.mp h
    cases h
    rfl
  | execute _ h ih => exact (execute_keeps_rewardDenom addrValidate h).1.trans ih

end

theorem dispatchRewards_splits_when_fee_fits {conf : Config} {q : Querier} {info : MessageInfo}
    (hp : isPaused q conf.hubContract = .ok false) (hs : info.sender = conf.hubContract) :
    ((∃ resp, executeDispatchRewards conf q info = .ok resp) ↔
      (q.balance conf.statomRewardDenom).val * conf.lidoFeeRate.atomics.val / 10 ^ 18 ≤
        (q.balance conf.statomRewardDenom).val) ∧
    (conf.lidoFeeRate ≤ Decimal.one →
      (q.balance conf.statomRewardDenom).val * conf.lidoFeeRate.atomics.val / 10 ^ 18 ≤
        (q.balance conf.statomRewardDenom).val) ∧
    ∀ resp, executeDispatchRewards conf q info = .ok resp →
      ∃ fee rewards : Uint128,
        fee.val = (q.balance conf.statomRewardDenom).val * conf.lidoFeeRate.atomics.val / 10 ^ 18 ∧
        rewards.val + fee.val = (q.balance conf.statomRewardDenom).val ∧
        resp.messages =
          (if rewards.val = 0 then [] else
            [.wasmExecute conf.hubContract .bondRewards [⟨conf.statomRewardDenom, rewards⟩]]) ++
          (if fee.val = 0 then [] else
            [.bankSend conf.lidoFeeAddress [⟨conf.statomRewardDenom, fee⟩]]) := by
  refine ⟨⟨fun ⟨_, h⟩ => ?_, executeDispatchRewards_ok_of_le hp hs⟩, fun hr => ?_, fun _ h => ?_⟩
  · obtain ⟨fee, rewards, -, -, hfee, hsum, -⟩ := executeDispatchRewards_eq_ok h
    rw [← hfee]
    omega
  · calc _ ≤ (q.balance conf.statomRewardDenom).val * 10 ^ 18 / 10 ^ 18 :=
          Nat.div_le_div_right (Nat.mul_le_mul_left _ hr)
      _ = _ := Nat.mul_div_cancel _ (by norm_num)
  · obtain ⟨fee, rewards, -, -, hfee, hsum, hmsgs⟩ := executeDispatchRewards_eq_ok h
    refine ⟨fee, rewards, hfee, hsum, ?_⟩
    simp only [hmsgs, dispatchMessages, Uint128.isZero_eq_true]

/-- `MockApi` accepts the lowercase names the tests use, unchanged. -/
def mockAddrValidate (s : String) : Except StdError Addr := .ok s

/-- The tests' `default_init`: a 5% fee. -/
def defaultInit : InstantiateMsg :=
  ⟨"hub", "uatom", "lido_fee", ⟨⟨5 * 10 ^ 16, by decide⟩⟩⟩

def testConfig : Config := ⟨"creator", "hub", "uatom", "lido_fee", ⟨⟨5 * 10 ^ 16, by decide⟩⟩⟩

def testQuerier : Querier :=
  ⟨fun denom => if denom = "uatom" then ⟨200, by decide⟩ else Uint128.zero, fun _ => .ok none⟩

theorem dispatchRewards_splits_when_fee_fits_test :
    ∃ resp, executeDispatchRewards testConfig testQuerier ⟨"hub", []⟩ = .ok resp :=
  (@dispatchRewards_splits_when_fee_fits testConfig testQuerier ⟨"hub", []⟩ rfl rfl).1.mpr
    (by decide)

def feeRateTwo : ExecuteMsg := .updateConfig none none none none (some ⟨⟨2 * 10 ^ 18, by decide⟩⟩)

/-- Once the owner sets the fee rate to two, the fee on 200 uatom is 400 and the dispatch
aborts in `checked_sub`. -/
theorem feeRate_two_blocks_dispatch :
    ∃ conf, ConfigReachable mockAddrValidate ⟨"creator", []⟩ defaultInit conf ∧
      conf.lidoFeeRate.atomics.val = 2 * 10 ^ 18 ∧
      executeDispatchRewards conf testQuerier ⟨"hub", []⟩ =
        .error (.overflow ⟨200, by decide⟩ ⟨400, by decide⟩) :=
  ⟨_, @ConfigReachable.execute mockAddrValidate _ _ testConfig _ testQuerier ⟨"creator", []⟩
    feeRateTwo {} (.instantiate rfl) rfl, rfl, rfl⟩

theorem feeRateTwo_keeps_rewardDenom :
    ∃ conf' resp, execute mockAddrValidate testConfig testQuerier ⟨"creator", []⟩ feeRateTwo =
      .ok (conf', resp) ∧ conf'.statomRewardDenom = testConfig.statomRewardDenom ∧
      (conf' ≠ testConfig → mockAddrValidate "creator" = .ok testConfig.owner) :=
  ⟨_, _, rfl, @execute_keeps_rewardDenom mockAddrValidate testConfig _ testQuerier ⟨"creator", []⟩
    feeRateTwo _ rfl⟩

theorem rewardDenom_after_feeRateTwo :
    ∃ conf, execute mockAddrValidate testConfig testQuerier ⟨"creator", []⟩ feeRateTwo =
      .ok (conf, {}) ∧ conf.statomRewardDenom = defaultInit.statomRewardDenom :=
  ⟨_, rfl, rewardDenom_of_reachable mockAddrValidate
    (@ConfigReachable.execute mockAddrValidate ⟨"creator", []⟩ defaultInit testConfig _ testQuerier
      ⟨"creator", []⟩ feeRateTwo {} (.instantiate rfl) rfl)⟩

end LidoCosmos.Dispatcher
