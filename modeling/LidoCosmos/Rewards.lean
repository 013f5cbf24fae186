import LidoCosmos.Hub.Bond
import LidoCosmos.Dispatcher.Contract

/-! The reward path across the two contracts. The hub's `DispatchRewards` asks the
dispatcher, which keeps a fee and answers with a reward bond to the hub; the hub accepts it
only from its registered dispatcher, in its underlying denom. Along the path the fee and
what the hub bonds add up to the balance the dispatcher held. -/
namespace LidoCosmos

theorem dispatchMessages_bondRewards {hub feeAddress addr : Addr} {denom : String}
    {rewards fee : Uint128} {funds : List Coin}
    (h : CosmosMsg.wasmExecute addr .bondRewards funds ∈
      Dispatcher.dispatchMessages hub feeAddress denom rewards fee) :
    addr = hub ∧ funds = [⟨denom, rewards⟩] := by
  unfold Dispatcher.dispatchMessages at h
  rw [List.mem_append] at h
  rcases h with h | h <;> split at h
  · cases h
  · simp only [List.mem_singleton, CosmosMsg.wasmExecute.injEq] at h
    exact ⟨h.1, h.2.2⟩
  · cases h
  · simp at h

section
variable (calculateDelegations : Uint128 → List Hub.ValidatorResponse → Except StdError (List Uint128))

theorem rewards_bonded_plus_fee {conf : Dispatcher.Config} {dq : Dispatcher.Querier}
    {dinfo : MessageInfo} {dresp : Response} {hubAddr dispatcherAddr : Addr} {funds : List Coin}
    {s s' : Hub.Storage} {q : Hub.Querier} {resp : Response}
    (hd : Dispatcher.executeDispatchRewards conf dq dinfo = .ok dresp)
    (hm : .wasmExecute hubAddr .bondRewards funds ∈ dresp.messages)
    (hb : Hub.executeBond calculateDelegations s q ⟨dispatcherAddr, funds⟩ .bondRewards =
      .ok (s', resp)) :
    hubAddr = conf.hubContract ∧ s.config.rewardDispatcherContract = some dispatcherAddr ∧
      conf.statomRewardDenom = s.parameters.underlyingCoinDenom ∧
      ∃ s1 st, Hub.slashing s q = .ok (s1, st) ∧
        s'.state.totalBondStatomAmount.val +
            (dq.balance conf.statomRewardDenom).val * conf.lidoFeeRate.atomics.val / 10 ^ 18 =
          st.totalBondStatomAmount.val + (dq.balance conf.statomRewardDenom).val := by
  obtain ⟨fee, rewards, -, -, hfee, hsum, hmsgs⟩ := Dispatcher.executeDispatchRewards_eq_ok hd
  rw [hmsgs] at hm
  obtain ⟨rfl, rfl⟩ := dispatchMessages_bondRewards hm
  obtain ⟨t, htr⟩ := Hub.executeBond_eq_ok calculateDelegations hb
  have hpay := (List.cons.inj htr.funds).1
  refine ⟨rfl, (htr.fromDispatcher rfl).2, (congrArg Coin.denom hpay).trans htr.denom, _, _,
    htr.reconciles, ?_⟩
  have hr : t.payment.amount = rewards := by rw [← hpay]
  rw [htr.bonded, hr, ← hfee]
  omega

/-- The tests' dispatch: 200 uatom at 5% sends 190 uatom back to the hub and 10 to the fee
address. -/
def dispatchedRewards : MessageInfo := ⟨"reward", [⟨"uatom", ⟨190, by decide⟩⟩]⟩

theorem rewards_bonded_plus_fee_test :
    ∃ dresp s' resp,
      Dispatcher.executeDispatchRewards Dispatcher.testConfig Dispatcher.testQuerier ⟨"hub", []⟩ =
        .ok dresp ∧
      Hub.executeBond Hub.wholeToFirst Hub.testHub Hub.rewardReport dispatchedRewards .bondRewards =
        .ok (s', resp) ∧
      ∃ s1 st, Hub.slashing Hub.testHub Hub.rewardReport = .ok (s1, st) ∧
        s'.state.totalBondStatomAmount.val + 200 * (5 * 10 ^ 16) / 10 ^ 18 =
          st.totalBondStatomAmount.val + 200 :=
  ⟨_, _, _, rfl, rfl, (@rewards_bonded_plus_fee Hub.wholeToFirst Dispatcher.testConfig
    Dispatcher.testQuerier ⟨"hub", []⟩ _ "hub" "reward" _ Hub.testHub _ Hub.rewardReport _ rfl
    (List.mem_cons_self _ _) rfl).2.2.2⟩

end

end LidoCosmos
