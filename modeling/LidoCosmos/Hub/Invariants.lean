import LidoCosmos.Hub.World

/-! What holds along every run of the hub, carried from the ledger's step lemmas through
`World.step_ledger`. Solvency holds except where a check or a user bond writes the record
down to nothing while tokens are outstanding, or a reward bond derives the rate from a supply
it never read. While the staking module reports at least what the hub recorded, the rate
never decreases and never falls below one. -/
namespace LidoCosmos.Hub

/-- A transaction that is neither a check nor a user bond writing a nonzero record down to
nothing while tokens are outstanding, nor a reward bond after an early return while tokens
are outstanding. -/
def SolvencyGuard (w : World) (c : Call) : Prop :=
  (c.msg.ledgerOp = .checkSlashing ∨ c.msg.ledgerOp = .bond →
      ¬w.ledger.WritesDownToZero c.reported (w.actual c)) ∧
    ¬w.ledger.RewardsSkipSupply c.msg.ledgerOp c.reported

instance (w : World) (c : Call) : Decidable (SolvencyGuard w c) :=
  inferInstanceAs (Decidable (_ ∧ _))

/-- The staking module reports at least the amount the hub recorded: no slashing. -/
def ReportCovers (w : World) (c : Call) : Prop :=
  w.hub.state.totalBondStatomAmount.val ≤ w.actual c

instance (w : World) (c : Call) : Decidable (ReportCovers w c) :=
  inferInstanceAs (Decidable (_ ≤ _))

@[simp] theorem instantiate_ledger (env : Env) (info : MessageInfo) (msg : InstantiateMsg) :
    (World.instantiate env info msg).ledger = ⟨10 ^ 18, 0, 0, 0⟩ := rfl

section
variable (calculateDelegations : Uint128 → List ValidatorResponse → Except StdError (List Uint128))

theorem solvent_along_guarded_runs :
    (∀ w c w', w.ledger.Solvent → SolvencyGuard w c → w.step calculateDelegations c = .ok w' →
      w'.ledger.Solvent) ∧
    ∀ w, ReachableUnder calculateDelegations SolvencyGuard w → w.ledger.Solvent := by
  have step : ∀ w c w', w.ledger.Solvent → SolvencyGuard w c →
      w.step calculateDelegations c = .ok w' → w'.ledger.Solvent :=
    fun _ _ _ hs hg h => (World.step_ledger calculateDelegations h).solvent hs hg.1 hg.2
  refine ⟨step, fun w hw => ?_⟩
  induction hw with
  | instantiate => simp [Ledger.Solvent]
  | step _ hc h ih => exact step _ _ _ ih hc h

theorem solvent_along_guarded_runs_test :
    ∃ w', bondedWorld.step wholeToFirst coveredRewards = .ok w' ∧ bondedWorld.ledger.Solvent ∧
      SolvencyGuard bondedWorld coveredRewards ∧ w'.ledger.Solvent :=
  ⟨_, rfl, by decide, by decide, (solvent_along_guarded_runs wholeToFirst).1 bondedWorld
    coveredRewards _ (by decide) (by decide) rfl⟩

/-- A report of nothing left writes 1000 bonded uatom off while 1000 tokens are
outstanding, and the rate falls back to one. -/
theorem writeOff_breaks_solvency :
    ∃ w w', testWorld.run wholeToFirst [registerContracts, userBond ⟨1000, by decide⟩] = .ok w ∧
      w.ledger.Solvent ∧ w.step wholeToFirst (slashingReport Uint128.zero) = .ok w' ∧
      ¬w'.ledger.Solvent :=
  ⟨_, _, rfl, by decide, rfl, by decide⟩

/-- After a write-down to 900 against 1000 tokens, a reward bond taken on an early return
stores rate one for 950 bonded: `query_actual_state` never read the supply, which the
state then holds as zero. -/
theorem rewardBond_breaks_solvency :
    ∃ w w', testWorld.run wholeToFirst [registerContracts, userBond ⟨1000, by decide⟩,
        slashingReport ⟨900, by decide⟩] = .ok w ∧
      w.ledger.Solvent ∧ w.step wholeToFirst (rewardBond ⟨50, by decide⟩) = .ok w' ∧
      ¬w'.ledger.Solvent :=
  ⟨_, _, rfl, by decide, rfl, by decide⟩

theorem unslashed_of_reachable {w : World}
    (hw : ReachableUnder calculateDelegations ReportCovers w) : w.ledger.Unslashed := by
  induction hw with
  | instantiate => exact ⟨rfl, by simp [Ledger.Solvent], fun _ => rfl, fun _ => rfl⟩
  | step _ hc h ih =>
    exact ((World.step_ledger calculateDelegations h).unslashed ih hc
      (actual_of_not_reported _ _)).1

theorem bondedWorld_reachable : ReachableUnder wholeToFirst ReportCovers bondedWorld :=
  @ReachableUnder.step wholeToFirst ReportCovers registeredWorld bondedWorld
    (userBond ⟨1000, Nat.le_of_ble_eq_true rfl⟩)
    (@ReachableUnder.step wholeToFirst ReportCovers testWorld registeredWorld registerContracts
      (.instantiate _ _ _) (Nat.zero_le _) rfl) (Nat.zero_le _) rfl

theorem rate_monotone_without_slashing {w w' : World} {c : Call}
    (hw : ReachableUnder calculateDelegations ReportCovers w) (hc : ReportCovers w c)
    (h : w.step calculateDelegations c = .ok w') :
    w.hub.state.statomExchangeRate ≤ w'.hub.state.statomExchangeRate :=
  ((World.step_ledger calculateDelegations h).unslashed (unslashed_of_reachable calculateDelegations hw)
    hc (actual_of_not_reported _ _)).2

theorem rate_monotone_without_slashing_test :
    ∃ w', bondedWorld.step wholeToFirst coveredRewards = .ok w' ∧
      bondedWorld.hub.state.statomExchangeRate ≤ w'.hub.state.statomExchangeRate ∧
      w'.hub.state.statomExchangeRate.atomics.val = 11 * 10 ^ 17 :=
  ⟨_, rfl, @rate_monotone_without_slashing wholeToFirst bondedWorld _ coveredRewards
    bondedWorld_reachable (by decide) rfl, rfl⟩

theorem one_le_rate_without_slashing {w : World}
    (hw : ReachableUnder calculateDelegations ReportCovers w) :
    Decimal.one ≤ w.hub.state.statomExchangeRate := by
  induction hw with
  | instantiate => exact Nat.le_refl _
  | step hw hc h ih =>
    exact Nat.le_trans ih ((World.step_ledger calculateDelegations h).unslashed
      (unslashed_of_reachable calculateDelegations hw) hc (actual_of_not_reported _ _)).2

theorem one_le_rate_after_rewards :
    ∃ w', bondedWorld.step wholeToFirst coveredRewards = .ok w' ∧
      Decimal.one ≤ w'.hub.state.statomExchangeRate :=
  ⟨_, rfl, one_le_rate_without_slashing wholeToFirst
    (@ReachableUnder.step wholeToFirst ReportCovers bondedWorld _ coveredRewards
      bondedWorld_reachable (by decide) rfl)⟩

theorem slashing_rate_without_slashing {w : World} {c : Call} {s1 : Storage} {st : State}
    (hw : ReachableUnder calculateDelegations ReportCovers w) (hc : ReportCovers w c)
    (h : slashing w.hub (w.querier c) = .ok (s1, st)) :
    Decimal.one ≤ st.statomExchangeRate := by
  have hrec : w.ledger.reconcile c.reported (w.actual c) =
      (s1.ledger w.tokenSupply, st.totalStatomIssued.val) := slashing_reconcile h
  obtain ⟨rfl, -⟩ := slashing_eq_ok h
  obtain ⟨-, -, hrate, -⟩ := reconcile_unslashed (unslashed_of_reachable calculateDelegations hw)
    hc (actual_of_not_reported _ _) hrec
  exact Nat.le_trans (one_le_rate_without_slashing calculateDelegations hw) hrate

theorem slashing_rate_on_covered_report :
    ∃ s1 st, slashing bondedWorld.hub (bondedWorld.querier coveredRewards) = .ok (s1, st) ∧
      Decimal.one ≤ st.statomExchangeRate :=
  ⟨_, _, rfl, @slashing_rate_without_slashing wholeToFirst bondedWorld coveredRewards _ _
    bondedWorld_reachable (by decide) rfl⟩

/-- A write-down from `10^19` to one uatom against `10^19` tokens stores the rate
`10^-19`, which is zero at 18 decimals; the next user bond divides by it. -/
theorem writeDown_zeroes_rate :
    ∃ w, testWorld.run wholeToFirst [registerContracts, userBond ⟨10 ^ 19, by decide⟩,
        slashingReport ⟨1, by decide⟩] = .ok w ∧
      w.hub.state.statomExchangeRate.atomics.val = 0 ∧
      slashing w.hub (w.querier (userBond ⟨10, by decide⟩)) = .ok (w.hub, w.hub.loadState) ∧
      w.step wholeToFirst (userBond ⟨10, by decide⟩) =
        .error (.panic "Denominator must not be zero") :=
  ⟨_, rfl, rfl, rfl, rfl⟩

theorem checkSlashing_idempotent {w w1 : World} {c : Call} (hc : c.msg = .checkSlashing)
    (h : w.step calculateDelegations c = .ok w1) :
    w1.step calculateDelegations c = .ok w1 ∧
      queryState w1.hub (w1.querier c) = .ok ⟨w1.hub.state.statomExchangeRate,
        w1.hub.state.totalBondStatomAmount, w1.hub.state.prevHubBalance,
        w1.hub.state.lastUnbondedTime, w1.hub.state.lastProcessedBatch⟩ := by
  have hop : c.msg.ledgerOp = .checkSlashing := by rw [hc]; rfl
  obtain ⟨⟨hub, resp⟩, hx, h⟩ := bind_eq_ok.mp h
  obtain ⟨supply, hsup, h⟩ := bind_eq_ok.mp h
  cases h
  rw [execute_of_checkSlashing calculateDelegations hop] at hx
  have hnp : ¬w.hub.parameters.paused.getD false = true := by
    unfold executeSlashing at hx
    split at hx
    · cases hx
    · assumption
  obtain ⟨st, hsl, hmsgs⟩ := executeSlashing_eq_ok hx
  rw [hmsgs] at hsup
  cases hsup
  obtain ⟨st', hsl', hser⟩ := slashing_idempotent hsl
  obtain ⟨rfl, -⟩ := slashing_eq_ok hsl
  have hq : queryActualState (w.hub.saveState st) (w.querier c) = .ok st' := by
    obtain ⟨st'', h1, h2⟩ := bind_eq_ok.mp hsl'
    rwa [← (Prod.mk.inj (Except.ok.inj h2)).2]
  constructor
  · change (execute calculateDelegations (w.hub.saveState st) (w.querier c) c.info c.msg >>= _) = _
    rw [execute_of_checkSlashing calculateDelegations hop, executeSlashing,
      if_neg (show ¬(w.hub.saveState st).parameters.paused.getD false = true from hnp), hsl']
    rfl
  · simp only [State.serialize, StoredState.mk.injEq] at hser
    obtain ⟨h1, h2, h3, h4, h5⟩ := hser
    change queryState (w.hub.saveState st) (w.querier c) = _
    rw [queryState, hq, ok_bind]
    simp only [Storage.saveState, State.serialize, h1, h2, h3, h4, h5]

end

theorem checkSlashing_idempotent_test :
    ∃ w1, bondedWorld.step wholeToFirst (slashingReport ⟨900, by decide⟩) = .ok w1 ∧
      w1.step wholeToFirst (slashingReport ⟨900, by decide⟩) = .ok w1 ∧
      w1.hub.state.totalBondStatomAmount.val = 900 :=
  ⟨_, rfl, (@checkSlashing_idempotent wholeToFirst bondedWorld _
    (slashingReport ⟨900, Nat.le_of_ble_eq_true rfl⟩) rfl rfl).1, rfl⟩

end LidoCosmos.Hub
