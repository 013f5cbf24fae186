import LidoCosmos.Hub.Bond

/-! What a bond delegates. The loop of `execute_bond` walks the
split that the registry's `calculate_delegations` returns and delegates each nonzero share
to the validator at the same index. It sends exactly the shares, in the deposit's denom,
only to listed validators, and it panics exactly when a nonzero share has no validator at
its index. When the registry splits the whole deposit, the hub's record of what it has
bonded grows by exactly what the bond delegates. -/
namespace LidoCosmos.Hub

def delegatedAmount (ms : List CosmosMsg) : Nat := (ms.map CosmosMsg.delegated).sum

@[simp] theorem delegatedAmount_nil : delegatedAmount [] = 0 := rfl

@[simp] theorem delegatedAmount_cons (m : CosmosMsg) (ms : List CosmosMsg) :
    delegatedAmount (m :: ms) = m.delegated + delegatedAmount ms := rfl

@[simp] theorem delegatedAmount_append (ms ms' : List CosmosMsg) :
    delegatedAmount (ms ++ ms') = delegatedAmount ms + delegatedAmount ms' := by
  simp [delegatedAmount]

section Loop
variable {denom : String} {vs : List ValidatorResponse} {ds : List Uint128}
  {msgs : List CosmosMsg}

theorem delegateMsgs_delegated (h : delegateMsgs denom vs ds = .ok msgs) :
    delegatedAmount msgs = (ds.map Uint128.val).sum := by
  induction ds generalizing vs msgs with
  | nil => cases h; rfl
  | cons d ds ih =>
    unfold delegateMsgs at h
    split at h
    · next hd => rw [List.map_cons, List.sum_cons, ← ih h, Uint128.isZero_eq_true.mp hd,
        Nat.zero_add]
    · split at h
      · cases h
      · obtain ⟨msgs', hm, h⟩ := bind_eq_ok.mp h
        cases h
        simp [CosmosMsg.delegated, ih hm]

theorem delegateMsgs_targets (h : delegateMsgs denom vs ds = .ok msgs) :
    ∀ m ∈ msgs, ∃ v ∈ vs, ∃ a : Uint128, m = .delegate v.address ⟨denom, a⟩ ∧ 0 < a.val := by
  induction ds generalizing vs msgs with
  | nil => cases h; simp
  | cons d ds ih =>
    unfold delegateMsgs at h
    split at h
    · intro m hm
      obtain ⟨v, hv, hm⟩ := ih h m hm
      exact ⟨v, List.mem_of_mem_tail hv, hm⟩
    · next hd =>
      split at h
      · cases h
      · next v vs =>
        obtain ⟨msgs', hm, h⟩ := bind_eq_ok.mp h
        cases h
        rintro m (_ | ⟨_, hm'⟩)
        · exact ⟨v, List.mem_cons_self _ _, d, rfl,
            Nat.pos_of_ne_zero fun h0 => hd (Uint128.isZero_eq_true.mpr h0)⟩
        · obtain ⟨v', hv', hm'⟩ := ih hm m hm'
          exact ⟨v', List.mem_cons_of_mem _ hv', hm'⟩

theorem delegateMsgs_eq_error {e : StdError} :
    delegateMsgs denom vs ds = .error e ↔
      e = .panic "index out of bounds" ∧ ∃ d ∈ ds.drop vs.length, 0 < d.val := by
  induction ds generalizing vs with
  | nil => simp [delegateMsgs]
  | cons d ds ih =>
    unfold delegateMsgs
    by_cases hd : d.isZero = true
    · have hd0 : d.val = 0 := Uint128.isZero_eq_true.mp hd
      rw [if_pos hd, ih]
      cases vs with
      | nil => simp [hd0]
      | cons v vs => simp
    · have hd0 : 0 < d.val := Nat.pos_of_ne_zero fun h0 => hd (Uint128.isZero_eq_true.mpr h0)
      rw [if_neg hd]
      cases vs with
      | nil =>
        simp only [List.length_nil, List.drop_zero]
        exact ⟨fun h => ⟨(Except.error.inj h).symm, d, List.mem_cons_self _ _, hd0⟩,
          fun ⟨he, _⟩ => he ▸ rfl⟩
      | cons v vs =>
        simp only [List.length_cons, List.drop_succ_cons, ← ih]
        cases delegateMsgs denom vs ds <;> simp [bind, Except.bind]

end Loop

section
variable (calculateDelegations : Uint128 → List ValidatorResponse → Except StdError (List Uint128))

theorem executeBond_messages {s s' : Storage} {q : Querier} {info : MessageInfo} {bt : BondType}
    {resp : Response} (h : executeBond calculateDelegations s q info bt = .ok (s', resp)) :
    ∃ payment ds msgs, info.funds = [payment] ∧
      calculateDelegations payment.amount q.validatorsForDelegation = .ok ds ∧
      delegateMsgs payment.denom q.validatorsForDelegation ds = .ok msgs ∧
      delegatedAmount resp.messages = delegatedAmount msgs ∧
      ∀ m ∈ resp.messages, m ∈ msgs ∨ m.isMint = true := by
  obtain ⟨t, hb⟩ := executeBond_eq_ok calculateDelegations h
  refine ⟨t.payment, t.delegations, t.externalCallMsgs, hb.funds, hb.splits, hb.sends, ?_⟩
  cases bt with
  | bondRewards =>
    rw [hb.rewardMessages rfl]
    exact ⟨rfl, fun m hm => .inl hm⟩
  | stAtom =>
    obtain ⟨_, -, hresp⟩ := hb.userMessages rfl
    simp only [hresp, delegatedAmount_append, List.mem_append, List.mem_singleton]
    exact ⟨rfl, fun m hm => hm.imp_right fun h => by subst h; rfl⟩

theorem bond_delegates_what_it_records
    (hsplit : ∀ a vs ds, calculateDelegations a vs = .ok ds → (ds.map Uint128.val).sum = a.val)
    {s s' : Storage} {q : Querier} {info : MessageInfo} {bt : BondType} {resp : Response}
    (h : executeBond calculateDelegations s q info bt = .ok (s', resp)) :
    ∃ payment s1 st, info.funds = [payment] ∧ slashing s q = .ok (s1, st) ∧
      delegatedAmount resp.messages = payment.amount.val ∧
      s'.state.totalBondStatomAmount.val =
        st.totalBondStatomAmount.val + delegatedAmount resp.messages ∧
      ∀ m ∈ resp.messages, m.isMint = false →
        ∃ v ∈ q.validatorsForDelegation, ∃ a : Uint128,
          m = .delegate v.address ⟨payment.denom, a⟩ ∧ 0 < a.val := by
  obtain ⟨payment, ds, msgs, hf, hds, hmsgs, hsum, hmem⟩ :=
    executeBond_messages calculateDelegations h
  obtain ⟨t, hb⟩ := executeBond_eq_ok calculateDelegations h
  have hp : payment = t.payment := List.head_eq_of_cons_eq (hf.symm.trans hb.funds)
  subst hp
  have hdel : delegatedAmount resp.messages = t.payment.amount.val := by
    rw [hsum, delegateMsgs_delegated hmsgs, hsplit _ _ _ hds]
  refine ⟨t.payment, t.reconciled, t.state, hf, hb.reconciles, hdel, hdel ▸ hb.bonded,
    fun m hm hmint => ?_⟩
  rcases hmem m hm with hm | hm
  · exact delegateMsgs_targets hmsgs m hm
  · exact absurd hm (by simp [hmint])

theorem wholeToFirst_splits_all (a : Uint128) (vs : List ValidatorResponse) (ds : List Uint128)
    (h : wholeToFirst a vs = .ok ds) : (ds.map Uint128.val).sum = a.val := by
  cases h
  simp [Uint128.zero]

end

theorem bond_delegates_what_it_records_test :
    ∃ s' resp, executeBond wholeToFirst testHub testBondReport testDeposit .stAtom =
      .ok (s', resp) ∧ delegatedAmount resp.messages = 900 :=
  ⟨_, _, rfl, by
    obtain ⟨payment, -, -, hf, -, hdel, -⟩ :=
      bond_delegates_what_it_records wholeToFirst wholeToFirst_splits_all
        (show executeBond wholeToFirst testHub testBondReport testDeposit .stAtom = .ok _ from rfl)
    cases hf
    exact hdel⟩

end LidoCosmos.Hub
