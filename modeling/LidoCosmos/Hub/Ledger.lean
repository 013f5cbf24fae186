import LidoCosmos.Hub.State

/-! The exchange-rate ledger in the abstract: the rate (in atomics), the bonded amount, the
derivative supply and the amount requested for unbonding, and what each operation of the
hub does to them. The hub's transactions refine these steps (`World.step_ledger`); the
invariants are proved here, on four numbers. -/
namespace LidoCosmos.Hub

structure Ledger where
  rate : Nat
  bonded : Nat
  supply : Nat
  requested : Nat
deriving DecidableEq, Repr

/-- Reconciliation against a delegation report: nothing happens when nothing is reported or
nothing is recorded; else the bonded amount is written down to the actual amount and the
rate derived again. The second component is the supply the hub holds in memory afterwards:
the real one after a reconciliation, zero after an early return. -/
def Ledger.reconcile (l : Ledger) (reported : Bool) (actual : Nat) : Ledger × Nat :=
  if reported ∧ l.bonded ≠ 0 then
    ({ l with
        bonded := min l.bonded actual
        rate := rateAtomics (min l.bonded actual) (l.supply + l.requested) }, l.supply)
  else (l, 0)

inductive LedgerOp where
  | keep
  | checkSlashing
  | bond
  | bondRewards
deriving DecidableEq, Repr

/-- One transaction on the ledger, given whether the staking module reported delegations and
the amount they hold in the underlying denom. Every operation but `keep` first reconciles,
to `l1` with `issued` held in memory. A user bond then mints at most the deposit over the
reconciled rate; a reward bond derives the rate from the supply held in memory. -/
inductive LedgerStep (reported : Bool) (actual : Nat) : LedgerOp → Ledger → Ledger → Prop where
  | keep (l : Ledger) : LedgerStep reported actual .keep l l
  | checkSlashing (l l1 : Ledger) (issued : Nat) (hrec : l.reconcile reported actual = (l1, issued)) :
      LedgerStep reported actual .checkSlashing l l1
  | bond (l l1 : Ledger) (issued amount minted : Nat)
      (hrec : l.reconcile reported actual = (l1, issued)) (hamount : 0 < amount)
      (hminted : minted * l1.rate ≤ amount * 10 ^ 18) :
      LedgerStep reported actual .bond l
        { l1 with bonded := l1.bonded + amount, supply := l1.supply + minted }
  | bondRewards (l l1 : Ledger) (issued amount : Nat)
      (hrec : l.reconcile reported actual = (l1, issued)) (hamount : 0 < amount) :
      LedgerStep reported actual .bondRewards l
        { l1 with
          bonded := l1.bonded + amount
          rate := rateAtomics (l1.bonded + amount) (issued + l1.requested) }

variable {l l1 l' : Ledger} {reported : Bool} {actual issued : Nat} {op : LedgerOp}

theorem reconcile_cases (h : l.reconcile reported actual = (l1, issued)) :
    (reported = true ∧ l.bonded ≠ 0 ∧ issued = l.supply ∧
      l1 = { l with
        bonded := min l.bonded actual
        rate := rateAtomics (min l.bonded actual) (l.supply + l.requested) }) ∨
    (¬(reported = true ∧ l.bonded ≠ 0) ∧ l1 = l ∧ issued = 0) := by
  unfold Ledger.reconcile at h
  split at h <;> cases h
  · next hr => exact .inl ⟨hr.1, hr.2, rfl, rfl⟩
  · next hr => exact .inr ⟨hr, rfl, rfl⟩

theorem reconcile_supply (h : l.reconcile reported actual = (l1, issued)) :
    l1.supply = l.supply ∧ l1.requested = l.requested := by
  rcases reconcile_cases h with ⟨-, -, -, rfl⟩ | ⟨-, rfl, -⟩ <;> exact ⟨rfl, rfl⟩

theorem rateAtomics_mul_le {bonded supply : Nat} (h : bonded ≠ 0 ∨ supply = 0) :
    rateAtomics bonded supply * supply ≤ bonded * 10 ^ 18 := by
  unfold rateAtomics
  split
  · rcases h with h | h <;> simp_all
  · exact Nat.div_mul_le_self _ _

section Solvency

/-- Redeeming the supply and the requested amount at the rate takes at most the bonded
amount, cross-multiplied by `10^18`. -/
def Ledger.Solvent (l : Ledger) : Prop := l.rate * (l.supply + l.requested) ≤ l.bonded * 10 ^ 18

instance : DecidablePred Ledger.Solvent := fun l =>
  inferInstanceAs (Decidable (l.rate * (l.supply + l.requested) ≤ l.bonded * 10 ^ 18))

/-- The reconciliation writes a nonzero bonded amount down to zero while tokens are
outstanding or requested: `update_statom_exchange_rate` then falls back to rate one. -/
def Ledger.WritesDownToZero (l : Ledger) (reported : Bool) (actual : Nat) : Prop :=
  reported = true ∧ l.bonded ≠ 0 ∧ actual = 0 ∧ l.supply + l.requested ≠ 0

instance (l : Ledger) (reported : Bool) (actual : Nat) :
    Decidable (l.WritesDownToZero reported actual) :=
  inferInstanceAs (Decidable (reported = true ∧ _ ∧ _ ∧ _))

/-- A reward bond whose reconciliation returned early while tokens are outstanding: the
rate is then derived from a supply of zero. -/
def Ledger.RewardsSkipSupply (l : Ledger) (op : LedgerOp) (reported : Bool) : Prop :=
  op = .bondRewards ∧ ¬(reported = true ∧ l.bonded ≠ 0) ∧ l.supply ≠ 0

instance (l : Ledger) (op : LedgerOp) (reported : Bool) :
    Decidable (l.RewardsSkipSupply op reported) :=
  inferInstanceAs (Decidable (op = .bondRewards ∧ _ ∧ _))

theorem reconcile_solvent (hs : l.Solvent) (hw : ¬l.WritesDownToZero reported actual)
    (h : l.reconcile reported actual = (l1, issued)) : l1.Solvent := by
  rcases reconcile_cases h with ⟨hr, hb, -, rfl⟩ | ⟨-, rfl, -⟩
  · have hz : ¬(actual = 0 ∧ l.supply + l.requested ≠ 0) := fun h => hw ⟨hr, hb, h⟩
    exact rateAtomics_mul_le (by omega)
  · exact hs

theorem bond_solvent {amount minted : Nat} (hs : l1.Solvent)
    (hm : minted * l1.rate ≤ amount * 10 ^ 18) :
    ({ l1 with bonded := l1.bonded + amount, supply := l1.supply + minted } : Ledger).Solvent :=
  calc l1.rate * (l1.supply + minted + l1.requested)
      = l1.rate * (l1.supply + l1.requested) + minted * l1.rate := by ring
    _ ≤ l1.bonded * 10 ^ 18 + amount * 10 ^ 18 := Nat.add_le_add hs hm
    _ = (l1.bonded + amount) * 10 ^ 18 := by ring

theorem rewards_solvent {amount : Nat} (hb : l1.bonded + amount ≠ 0) :
    ({ l1 with
      bonded := l1.bonded + amount
      rate := rateAtomics (l1.bonded + amount) (l1.supply + l1.requested) } : Ledger).Solvent :=
  rateAtomics_mul_le (.inl hb)

/-- Solvency survives every step but the two named exceptions. A reward bond survives a
write-down to nothing: it derives the rate again, from the real supply. -/
theorem LedgerStep.solvent (h : LedgerStep reported actual op l l') (hs : l.Solvent)
    (hw : op = .checkSlashing ∨ op = .bond → ¬l.WritesDownToZero reported actual)
    (hr : ¬l.RewardsSkipSupply op reported) : l'.Solvent := by
  cases h with
  | keep => exact hs
  | checkSlashing _ _ _ hrec => exact reconcile_solvent hs (hw (.inl rfl)) hrec
  | bond _ _ _ _ _ hrec _ hminted =>
    exact bond_solvent (reconcile_solvent hs (hw (.inr rfl)) hrec) hminted
  | bondRewards _ l1 issued amount hrec hamount =>
    rcases reconcile_cases hrec with ⟨-, -, rfl, rfl⟩ | ⟨hn, hl, rfl⟩
    · exact rewards_solvent (by omega)
    · subst l1
      have hz : l.supply = 0 := Decidable.not_not.mp fun hz => hr ⟨rfl, hn, hz⟩
      rw [← hz]
      exact rewards_solvent (by omega)

end Solvency

theorem rateAtomics_mono {b b' supply : Nat} (hb : b ≠ 0) (h : b ≤ b') :
    rateAtomics b supply ≤ rateAtomics b' supply := by
  unfold rateAtomics
  split
  · split <;> omega
  · rw [if_neg (by omega)]
    exact Nat.div_le_div_right (Nat.mul_le_mul_right _ h)

section NoSlashing

/-- What holds along a run without slashing from instantiation: nothing requested, solvency,
rate one while no token is outstanding, and no token outstanding while nothing is bonded. -/
structure Ledger.Unslashed (l : Ledger) : Prop where
  requested : l.requested = 0
  solvent : l.Solvent
  rate_one : l.supply = 0 → l.rate = 10 ^ 18
  supply_zero : l.bonded = 0 → l.supply = 0

theorem Ledger.Unslashed.rate_le (hu : l.Unslashed) (hb : l.bonded ≠ 0) :
    l.rate ≤ rateAtomics l.bonded (l.supply + l.requested) := by
  unfold rateAtomics
  rw [hu.requested, Nat.add_zero]
  split
  · exact Nat.le_of_eq (hu.rate_one (by omega))
  · have hs := hu.solvent
    rw [Ledger.Solvent, hu.requested, Nat.add_zero] at hs
    exact (Nat.le_div_iff_mul_le (by omega)).mpr hs

theorem reconcile_unslashed (hu : l.Unslashed) (hc : l.bonded ≤ actual)
    (hrep : reported = false → actual = 0) (h : l.reconcile reported actual = (l1, issued)) :
    l1.bonded = l.bonded ∧ issued = l.supply ∧ l.rate ≤ l1.rate ∧ l1.Unslashed := by
  rcases reconcile_cases h with ⟨-, hb, rfl, rfl⟩ | ⟨hn, hl, rfl⟩
  · rw [Nat.min_eq_left hc]
    refine ⟨rfl, rfl, hu.rate_le hb, hu.requested, rateAtomics_mul_le (.inl hb), fun hs => ?_,
      fun h0 => absurd h0 hb⟩
    simp only at hs
    simp [rateAtomics, hs, hu.requested]
  · subst l1
    have hb : l.bonded = 0 := by
      cases reported
      · have := hrep rfl; omega
      · simpa using hn
    exact ⟨rfl, (hu.supply_zero hb).symm, Nat.le_refl _, hu⟩

theorem LedgerStep.unslashed (h : LedgerStep reported actual op l l') (hu : l.Unslashed)
    (hc : l.bonded ≤ actual) (hrep : reported = false → actual = 0) :
    l'.Unslashed ∧ l.rate ≤ l'.rate := by
  cases h with
  | keep => exact ⟨hu, Nat.le_refl _⟩
  | checkSlashing _ _ _ hrec =>
    obtain ⟨-, -, hrate, hu'⟩ := reconcile_unslashed hu hc hrep hrec
    exact ⟨hu', hrate⟩
  | bond _ l1 _ amount minted hrec hamount hminted =>
    obtain ⟨-, -, hrate, hu'⟩ := reconcile_unslashed hu hc hrep hrec
    exact ⟨⟨hu'.requested, bond_solvent hu'.solvent hminted,
      fun hs => hu'.rate_one (by simp only at hs; omega), fun hb => by simp only at hb; omega⟩,
      hrate⟩
  | bondRewards _ l1 _ amount hrec hamount =>
    obtain ⟨hb, rfl, -, hu'⟩ := reconcile_unslashed hu hc hrep hrec
    obtain ⟨hsupply, -⟩ := reconcile_supply hrec
    have hpos : l1.bonded + amount ≠ 0 := by omega
    refine ⟨⟨hu'.requested, ?_, fun hs => ?_, fun h0 => absurd h0 hpos⟩, ?_⟩
    · rw [← hsupply]; exact rewards_solvent hpos
    · simp only [hsupply] at hs
      simp [rateAtomics, hs, hu'.requested]
    · simp only
      rw [hu'.requested, hb]
      by_cases hs : l.supply = 0
      · rw [hu.rate_one hs]; simp [rateAtomics, hs]
      · have hb0 : l.bonded ≠ 0 := fun h0 => hs (hu.supply_zero h0)
        calc l.rate ≤ rateAtomics l.bonded (l.supply + l.requested) := hu.rate_le hb0
          _ ≤ _ := by rw [hu.requested]; exact rateAtomics_mono hb0 (Nat.le_add_right _ _)

end NoSlashing

end LidoCosmos.Hub
