import LidoCosmos.Hub.Contract
import LidoCosmos.Hub.Ledger

/-! The hub in its chain. A transaction runs one `ExecuteMsg` against the hub's storage and
then the messages of its response, of which only the mints to the registered derivative
token change what the hub computes with; a failure anywhere reverts the whole transaction.
The staking module and the registry answer with whatever they report. Every transaction is
one step of the ledger of `Hub.Ledger` (`World.step_ledger`), so the invariants proved
there hold along every run. -/
namespace LidoCosmos.Hub

/-- Modelled from the spec: the cw20 token contract is not among the sources. Of it the world
holds the total supply, which starts at zero and changes only by the hub's mints. -/
structure World where
  hub : Storage
  tokenSupply : Uint128
deriving DecidableEq, Repr

/-- One transaction: its sender and funds, the message, and what the staking module and the
registry report while it runs. -/
structure Call where
  info : MessageInfo
  msg : ExecuteMsg
  delegations : List Delegation
  validators : List ValidatorResponse
deriving DecidableEq, Repr

/-- The hub's queries during a transaction; the token answers with the world's supply. -/
def World.querier (w : World) (c : Call) : Querier := ⟨c.delegations, w.tokenSupply, c.validators⟩

def World.instantiate (env : Env) (info : MessageInfo) (msg : InstantiateMsg) : World :=
  ⟨(Hub.instantiate env info msg).1, Uint128.zero⟩

/-- Modelled from the spec: cw20 `Mint` to the registered token adds to its supply and aborts
on overflow; no other message changes it. -/
def applyMint (token : Option Addr) (supply : Uint128) : CosmosMsg → Except StdError Uint128
  | .wasmExecute addr (.mint _ amount) _ =>
    if token = some addr then supply.add amount else .ok supply
  | _ => .ok supply

def applyMints (token : Option Addr) : Uint128 → List CosmosMsg → Except StdError Uint128
  | supply, [] => .ok supply
  | supply, m :: ms => applyMint token supply m >>= fun supply => applyMints token supply ms

theorem applyMints_append (token : Option Addr) (supply : Uint128) (xs ys : List CosmosMsg) :
    applyMints token supply (xs ++ ys) =
      (applyMints token supply xs >>= fun supply => applyMints token supply ys) := by
  induction xs generalizing supply with
  | nil => rfl
  | cons x xs ih =>
    simp only [List.cons_append, applyMints]
    cases applyMint token supply x <;> simp [ih]

theorem applyMints_of_not_isMint {token : Option Addr} {supply : Uint128} {ms : List CosmosMsg}
    (h : ∀ m ∈ ms, m.isMint = false) : applyMints token supply ms = .ok supply := by
  induction ms with
  | nil => rfl
  | cons m ms ih =>
    have hm : applyMint token supply m = .ok supply := by
      have := h m (List.mem_cons_self _ _)
      cases m <;> try rfl
      next msg _ => cases msg <;> first | rfl | cases this
    rw [applyMints, hm, ok_bind, ih fun m' hm' => h m' (List.mem_cons_of_mem _ hm')]

theorem applyMints_delegates {token : Option Addr} {supply : Uint128} {ms : List CosmosMsg}
    (h : ∀ m ∈ ms, ∃ v c, m = .delegate v c) : applyMints token supply ms = .ok supply :=
  applyMints_of_not_isMint fun m hm => by obtain ⟨v, c, rfl⟩ := h m hm; rfl

def Storage.ledger (s : Storage) (supply : Uint128) : Ledger :=
  ⟨s.state.statomExchangeRate.atomics.val, s.state.totalBondStatomAmount.val, supply.val,
    s.currentBatch.requestedStatom.val⟩

def World.ledger (w : World) : Ledger := w.hub.ledger w.tokenSupply

def Call.reported (c : Call) : Bool := !c.delegations.isEmpty

def World.actual (w : World) (c : Call) : Nat :=
  bondedAmount w.hub.parameters.underlyingCoinDenom c.delegations

theorem actual_of_not_reported (w : World) (c : Call) (h : c.reported = false) :
    w.actual c = 0 := by
  simp only [Call.reported, Bool.not_eq_false', List.isEmpty_iff] at h
  simp [World.actual, h, bondedAmount]

def ExecuteMsg.ledgerOp : ExecuteMsg → LedgerOp
  | .bondForStAtom => .bond
  | .bondRewards => .bondRewards
  | .checkSlashing => .checkSlashing
  | _ => .keep

theorem slashing_reconcile {s s1 : Storage} {q : Querier} {st : State}
    (h : slashing s q = .ok (s1, st)) :
    (s.ledger q.tokenTotalSupply).reconcile (!q.allDelegations.isEmpty)
        (bondedAmount s.parameters.underlyingCoinDenom q.allDelegations) =
      (s1.ledger q.tokenTotalSupply, st.totalStatomIssued.val) := by
  obtain ⟨rfl, hst⟩ := slashing_eq_ok h
  clear h
  unfold Ledger.reconcile
  rcases hst with ⟨rfl, hL | hz⟩ | ⟨hL, hz, hr⟩
  · simp [hL]
  · rw [if_neg (by simp [Storage.ledger, hz])]; rfl
  · rw [if_pos ⟨by simpa using hL, hz⟩]
    simp [Storage.ledger, hr.bonded, hr.rate, hr.supply]

section
variable (calculateDelegations : Uint128 → List ValidatorResponse → Except StdError (List Uint128))

/-- A transaction: the hub's handler, then the mints of its response. -/
def World.step (w : World) (c : Call) : Except StdError World :=
  execute calculateDelegations w.hub (w.querier c) c.info c.msg >>= fun (hub, resp) =>
  applyMints hub.config.statomTokenContract w.tokenSupply resp.messages >>= fun supply =>
  .ok ⟨hub, supply⟩

def World.run (w : World) : List Call → Except StdError World
  | [] => .ok w
  | c :: cs => w.step calculateDelegations c >>= fun w => World.run w cs

/-- The worlds reached from instantiation by transactions that each meet `ok`. -/
inductive ReachableUnder (ok : World → Call → Prop) : World → Prop
  | instantiate (env : Env) (info : MessageInfo) (msg : InstantiateMsg) :
      ReachableUnder ok (World.instantiate env info msg)
  | step {w w' : World} {c : Call} (hw : ReachableUnder ok w) (hc : ok w c)
      (h : w.step calculateDelegations c = .ok w') : ReachableUnder ok w'

theorem ReachableUnder.run {ok : World → Call → Prop} {w w' : World} {cs : List Call}
    (hw : ReachableUnder calculateDelegations ok w) (hok : ∀ w c, ok w c)
    (h : w.run calculateDelegations cs = .ok w') : ReachableUnder calculateDelegations ok w' := by
  induction cs generalizing w with
  | nil => cases h; exact hw
  | cons c cs ih =>
    obtain ⟨w1, h1, h⟩ := bind_eq_ok.mp h
    exact ih (.step hw (hok w c) h1) h

theorem execute_of_checkSlashing {s : Storage} {q : Querier} {info : MessageInfo}
    {msg : ExecuteMsg} (h : msg.ledgerOp = .checkSlashing) :
    execute calculateDelegations s q info msg = executeSlashing s q := by
  cases msg <;> first | rfl | cases h

theorem execute_of_bond {s : Storage} {q : Querier} {info : MessageInfo} {msg : ExecuteMsg}
    (h : msg.ledgerOp = .bond) :
    execute calculateDelegations s q info msg = executeBond calculateDelegations s q info .stAtom := by
  cases msg <;> first | rfl | cases h

theorem execute_of_bondRewards {s : Storage} {q : Querier} {info : MessageInfo}
    {msg : ExecuteMsg} (h : msg.ledgerOp = .bondRewards) :
    execute calculateDelegations s q info msg =
      executeBond calculateDelegations s q info .bondRewards := by
  cases msg <;> first | rfl | cases h

theorem execute_keep {s s' : Storage} {q : Querier} {info : MessageInfo} {msg : ExecuteMsg}
    {resp : Response} (hop : msg.ledgerOp = .keep)
    (h : execute calculateDelegations s q info msg = .ok (s', resp)) :
    s'.state = s.state ∧ s'.currentBatch = s.currentBatch ∧
      ∀ m ∈ resp.messages, m.isMint = false := by
  cases msg <;> cases hop <;> simp only [execute] at h
  case updateConfig _ rewards _ _ =>
    obtain ⟨-, hs', -, hm⟩ := executeUpdateConfig_eq_ok h
    rw [hs', hm]
    refine ⟨rfl, rfl, ?_⟩
    cases rewards <;> simp [CosmosMsg.isMint]
  case pauseContracts =>
    obtain ⟨-, rfl, hm⟩ := executePauseContracts_eq_ok h
    exact ⟨rfl, rfl, by simp [hm]⟩
  case dispatchRewards =>
    obtain ⟨rfl, d, -, hm⟩ := executeDispatchRewards_eq_ok h
    refine ⟨rfl, rfl, fun m hm' => ?_⟩
    simp only [hm, withdrawAllRewards, List.mem_append, List.mem_map, List.mem_singleton] at hm'
    rcases hm' with ⟨d, -, rfl⟩ | rfl <;> rfl
  case redelegateProxy =>
    obtain ⟨rfl, hm⟩ := executeRedelegateProxy_eq_ok h
    refine ⟨rfl, rfl, fun m hm' => ?_⟩
    obtain ⟨r, -, rfl⟩ := List.mem_map.mp (hm ▸ hm')
    rfl
  case updateParams | unpauseContracts | addGuardians | removeGuardians =>
    obtain ⟨-, h⟩ := requireCreator_eq_ok.mp h
    cases h
    exact ⟨rfl, rfl, nofun⟩

theorem execute_keep_ledger {w : World} {c : Call} {hub : Storage} {resp : Response}
    {supply : Uint128} (hop : c.msg.ledgerOp = .keep)
    (hx : execute calculateDelegations w.hub (w.querier c) c.info c.msg = .ok (hub, resp))
    (hsup : applyMints hub.config.statomTokenContract w.tokenSupply resp.messages = .ok supply) :
    World.ledger ⟨hub, supply⟩ = w.ledger := by
  obtain ⟨hst, hbatch, hmint⟩ := execute_keep calculateDelegations hop hx
  rw [applyMints_of_not_isMint hmint] at hsup
  cases hsup
  simp only [World.ledger, Storage.ledger, hst, hbatch]

theorem reconcile_of_bond {w : World} {c : Call} {t : BondTrace} {hub : Storage} {bt : BondType}
    {resp : Response} (hb : t.Ok calculateDelegations w.hub hub (w.querier c) c.info bt resp) :
    w.ledger.reconcile c.reported (w.actual c) =
      ((w.hub.saveState t.state).ledger w.tokenSupply, t.state.totalStatomIssued.val) := by
  rw [← hb.saved]
  exact slashing_reconcile hb.reconciles

/-- The refinement: every transaction of the world is one step of its ledger, the step
the message names, against the delegations the staking module reported. -/
theorem World.step_ledger {w w' : World} {c : Call} (h : w.step calculateDelegations c = .ok w') :
    LedgerStep c.reported (w.actual c) c.msg.ledgerOp w.ledger w'.ledger := by
  obtain ⟨⟨hub, resp⟩, hx, h⟩ := bind_eq_ok.mp h
  obtain ⟨supply, hsup, h⟩ := bind_eq_ok.mp h
  cases h
  cases hop : c.msg.ledgerOp with
  | keep => exact execute_keep_ledger calculateDelegations hop hx hsup ▸ .keep _
  | checkSlashing =>
    rw [execute_of_checkSlashing calculateDelegations hop] at hx
    obtain ⟨st, hsl, hmsgs⟩ := executeSlashing_eq_ok hx
    rw [hmsgs] at hsup
    cases hsup
    exact .checkSlashing _ _ _ (slashing_reconcile hsl)
  | bond =>
    rw [execute_of_bond calculateDelegations hop] at hx
    obtain ⟨t, hb⟩ := executeBond_eq_ok calculateDelegations hx
    obtain ⟨token, htoken, hresp⟩ := hb.userMessages rfl
    obtain ⟨b, hbv, hst, -⟩ := bondUpdate_eq_ok hb.updates
    have hsupply : supply.val = w.tokenSupply.val + t.mintAmount.val := by
      rw [hresp, applyMints_append, applyMints_delegates hb.delegates, hb.stores, hb.saved] at hsup
      simp only [Storage.saveState, htoken, ok_bind, applyMints, applyMint, if_true,
        bind_eq_ok] at hsup
      obtain ⟨s, hs, hsup⟩ := hsup
      cases hsup
      exact Uint128.add_eq_ok.mp hs
    convert LedgerStep.bond _ _ _ _ t.mintAmount.val (reconcile_of_bond calculateDelegations hb)
      hb.positive (decimalDivision_bounds (hb.mints rfl)).1 using 1
    simp [World.ledger, Storage.ledger, hb.stores, hb.saved, hst rfl, hbv, hsupply]
  | bondRewards =>
    rw [execute_of_bondRewards calculateDelegations hop] at hx
    obtain ⟨t, hb⟩ := executeBond_eq_ok calculateDelegations hx
    obtain ⟨b, hbv, -, hst⟩ := bondUpdate_eq_ok hb.updates
    obtain ⟨r, hnew, -, hr⟩ := updateStatomExchangeRate_eq_ok.mp (hst rfl)
    rw [hb.rewardMessages rfl, applyMints_delegates hb.delegates] at hsup
    cases hsup
    have hsupply : t.supply.val = t.state.totalStatomIssued.val := by
      simpa [(hb.fromDispatcher rfl).1] using Uint128.add_eq_ok.mp hb.addsSupply
    convert LedgerStep.bondRewards _ _ _ t.payment.amount.val
      (reconcile_of_bond calculateDelegations hb) hb.positive using 1
    simp [World.ledger, Storage.ledger, hb.stores, hb.saved, hnew, hr, hbv, hsupply]

theorem World.paused_keeps_ledger {w w' : World} {c : Call}
    (hp : w.hub.parameters.paused = some true) (h : w.step calculateDelegations c = .ok w') :
    w'.ledger = w.ledger := by
  obtain ⟨⟨hub, resp⟩, hx, h⟩ := bind_eq_ok.mp h
  obtain ⟨supply, hsup, h⟩ := bind_eq_ok.mp h
  cases h
  have hpaused : w.hub.parameters.paused.getD false = true := by rw [hp]; rfl
  cases hop : c.msg.ledgerOp with
  | keep => exact execute_keep_ledger calculateDelegations hop hx hsup
  | checkSlashing =>
    rw [execute_of_checkSlashing calculateDelegations hop, executeSlashing, if_pos hpaused] at hx
    cases hx
  | bond =>
    rw [execute_of_bond calculateDelegations hop, executeBond] at hx
    simp only [hpaused, if_true] at hx
    cases hx
  | bondRewards =>
    rw [execute_of_bondRewards calculateDelegations hop, executeBond] at hx
    simp only [hpaused, if_true] at hx
    cases hx

end

/-- The hub of the tests' `initialize`, before its contracts are registered. -/
def testWorld : World :=
  World.instantiate ⟨1571797419, "cosmos2contract"⟩ ⟨"owner1", []⟩ ⟨30, "uatom", 2⟩

/-- The owner registers the dispatcher, the token and the registry, as `initialize` does. -/
def registerContracts : Call :=
  ⟨⟨"owner1", []⟩, .updateConfig none (some "reward") (some "validators_registry")
    (some "statom_token"), [], []⟩

def registeredWorld : World :=
  { testWorld with
    hub := { testWorld.hub with
      config := ⟨"owner1", some "reward", some "validators_registry", some "statom_token"⟩ } }

def userBond (amount : Uint128) : Call :=
  ⟨⟨"addr1000", [⟨"uatom", amount⟩]⟩, .bondForStAtom, [], [⟨Uint128.zero, "validator"⟩]⟩

def rewardBond (amount : Uint128) : Call :=
  ⟨⟨"reward", [⟨"uatom", amount⟩]⟩, .bondRewards, [], [⟨Uint128.zero, "validator"⟩]⟩

def slashingReport (amount : Uint128) : Call :=
  ⟨⟨"addr1000", []⟩, .checkSlashing, [⟨"validator", ⟨"uatom", amount⟩⟩], []⟩

def pauseByOwner : Call := ⟨⟨"owner1", []⟩, .pauseContracts, [], []⟩

def pausedWorld : World :=
  { registeredWorld with
    hub := { registeredWorld.hub with
      parameters := { registeredWorld.hub.parameters with paused := some true } } }

theorem paused_world_keeps_ledger :
    ∃ w', pausedWorld.step wholeToFirst pauseByOwner = .ok w' ∧ w'.ledger = pausedWorld.ledger :=
  ⟨_, rfl, @World.paused_keeps_ledger wholeToFirst pausedWorld _ pauseByOwner rfl rfl⟩

def bondedWorld : World :=
  { hub := registeredWorld.hub.saveState
      { registeredWorld.hub.loadState with totalBondStatomAmount := ⟨1000, by decide⟩ }
    tokenSupply := ⟨1000, by decide⟩ }

def coveredRewards : Call :=
  { rewardBond ⟨100, by decide⟩ with delegations := [⟨"validator", ⟨"uatom", ⟨1000, by decide⟩⟩⟩] }

theorem step_ledger_covered_rewards :
    registeredWorld.step wholeToFirst (userBond ⟨1000, by decide⟩) = .ok bondedWorld ∧
      ∃ w', bondedWorld.step wholeToFirst coveredRewards = .ok w' ∧
        LedgerStep true 1000 .bondRewards bondedWorld.ledger w'.ledger ∧
        w'.ledger = ⟨11 * 10 ^ 17, 1100, 1000, 0⟩ :=
  ⟨rfl, _, rfl, @World.step_ledger wholeToFirst bondedWorld _ coveredRewards rfl, rfl⟩

end LidoCosmos.Hub
