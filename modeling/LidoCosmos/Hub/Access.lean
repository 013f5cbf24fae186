import LidoCosmos.Hub.World

/-! Who may change what, over whole runs of the hub. By `execute_cases` a call touches the
state only, or is a pause by the creator or a guardian, or comes from the creator. Along
any run, then:

* a change of the config, a change of the guardian set and the lifting of a pause each
  happen in a call from whoever is the creator at that moment (`UpdateConfig` may hand the
  role on), so a guardian can stop the hub but never restart it;
* a registered token stays registered.

The guardian set is the map `GUARDIANS`: `AddGuardians` and `RemoveGuardians` change it by
exactly the addresses they list, and the right to pause follows it. -/
namespace LidoCosmos.Hub

/-- What only the creator may do: change the config or the guardian set, or lift a pause. -/
def CreatorOnlyChange (s s' : Storage) : Prop :=
  s'.config ≠ s.config ∨ s'.guardians ≠ s.guardians ∨
    (s.parameters.paused = some true ∧ s'.parameters.paused ≠ some true)

instance (s s' : Storage) : Decidable (CreatorOnlyChange s s') :=
  inferInstanceAs (Decidable (_ ∨ _))

theorem mem_foldl_insert {g : Addr} {gs old : List Addr} :
    g ∈ gs.foldl (fun acc x => acc.insert x) old ↔ g ∈ old ∨ g ∈ gs := by
  induction gs generalizing old with
  | nil => simp
  | cons x xs ih =>
    rw [List.foldl_cons, ih, List.mem_insert_iff, List.mem_cons]
    tauto

theorem addGuardians_then_pause {s s' : Storage} {info : MessageInfo} {gs : List Addr}
    {resp : Response} (h : executeAddGuardians s info gs = .ok (s', resp)) :
    (∀ g, g ∈ s'.guardians ↔ g ∈ s.guardians ∨ g ∈ gs) ∧
      ∀ g ∈ gs, ∀ funds, ∃ r, executePauseContracts s' ⟨g, funds⟩ = .ok r := by
  obtain ⟨-, h⟩ := requireCreator_eq_ok.mp h
  cases h
  refine ⟨fun g => mem_foldl_insert, fun g hg funds => ?_⟩
  unfold executePauseContracts
  rw [if_neg (not_not.mpr (.inr (mem_foldl_insert.mpr (.inr hg))))]
  exact ⟨_, rfl⟩

theorem removeGuardians_then_pause {s s' : Storage} {info : MessageInfo} {gs : List Addr}
    {resp : Response} (h : executeRemoveGuardians s info gs = .ok (s', resp)) :
    (∀ g, g ∈ s'.guardians ↔ g ∈ s.guardians ∧ g ∉ gs) ∧
      ∀ g ∈ gs, g ≠ s.config.creator → ∀ funds,
        executePauseContracts s' ⟨g, funds⟩ = .error (.genericErr "unauthorized") := by
  obtain ⟨-, h⟩ := requireCreator_eq_ok.mp h
  cases h
  have hmem : ∀ g, g ∈ s.guardians.filter (· ∉ gs) ↔ g ∈ s.guardians ∧ g ∉ gs := by
    simp [List.mem_filter]
  refine ⟨hmem, fun g hg hc funds => ?_⟩
  unfold executePauseContracts
  rw [if_pos]
  rintro (h | h)
  · exact hc h
  · exact (hmem g).mp h |>.2 hg

section
variable (calculateDelegations : Uint128 → List ValidatorResponse → Except StdError (List Uint128))

theorem World.step_execute {w w' : World} {c : Call} (h : w.step calculateDelegations c = .ok w') :
    ∃ resp, execute calculateDelegations w.hub (w.querier c) c.info c.msg = .ok (w'.hub, resp) := by
  obtain ⟨⟨hub, resp⟩, hx, h⟩ := bind_eq_ok.mp h
  obtain ⟨supply, -, h⟩ := bind_eq_ok.mp h
  cases h
  exact ⟨resp, hx⟩

theorem step_creatorOnly {w w' : World} {c : Call} (h : w.step calculateDelegations c = .ok w')
    (hc : CreatorOnlyChange w.hub w'.hub) : c.info.sender = w.hub.config.creator := by
  obtain ⟨resp, hx⟩ := World.step_execute calculateDelegations h
  rcases execute_cases calculateDelegations hx with hs | ⟨-, hs⟩ | ⟨hs, -⟩
  · rw [hs] at hc
    simp [CreatorOnlyChange] at hc
  · rw [hs] at hc
    simp [CreatorOnlyChange] at hc
  · exact hs

theorem step_keeps_token {w w' : World} {c : Call} {t : Addr}
    (h : w.step calculateDelegations c = .ok w') (ht : w.hub.config.statomTokenContract = some t) :
    w'.hub.config.statomTokenContract = some t := by
  obtain ⟨resp, hx⟩ := World.step_execute calculateDelegations h
  rcases execute_cases calculateDelegations hx with hs | ⟨-, hs⟩ | ⟨-, hk⟩
  · rw [hs]; exact ht
  · rw [hs]; exact ht
  · rw [hk (by simp [ht])]; exact ht

theorem World.run_flip (P : World → Prop) {w w' : World} {cs : List Call}
    (h : w.run calculateDelegations cs = .ok w') (hP : P w) (hP' : ¬P w') :
    ∃ cs1 c cs2 w1 w2, cs = cs1 ++ c :: cs2 ∧ w.run calculateDelegations cs1 = .ok w1 ∧
      w1.step calculateDelegations c = .ok w2 ∧ P w1 ∧ ¬P w2 := by
  induction cs generalizing w with
  | nil => cases h; exact absurd hP hP'
  | cons c cs ih =>
    obtain ⟨w1, h1, h⟩ := bind_eq_ok.mp h
    by_cases hP1 : P w1
    · obtain ⟨cs1, c', cs2, w2, w3, rfl, h2, h3, hw2, hw3⟩ := ih h hP1
      refine ⟨c :: cs1, c', cs2, w2, w3, rfl, ?_, h3, hw2, hw3⟩
      rw [World.run, h1, ok_bind, h2]
    · exact ⟨[], c, cs, w, w1, rfl, rfl, h1, hP, hP1⟩

theorem creator_only_along_runs {w w' : World} {cs : List Call}
    (h : w.run calculateDelegations cs = .ok w') :
    (∀ cs1 c cs2 w1 w2, cs = cs1 ++ c :: cs2 → w.run calculateDelegations cs1 = .ok w1 →
      w1.step calculateDelegations c = .ok w2 → CreatorOnlyChange w1.hub w2.hub →
      c.info.sender = w1.hub.config.creator) ∧
    (CreatorOnlyChange w.hub w'.hub → ∃ cs1 c cs2 w1 w2, cs = cs1 ++ c :: cs2 ∧
      w.run calculateDelegations cs1 = .ok w1 ∧ w1.step calculateDelegations c = .ok w2 ∧
      CreatorOnlyChange w1.hub w2.hub ∧ c.info.sender = w1.hub.config.creator) := by
  refine ⟨fun _ _ _ _ _ _ _ h2 hc => step_creatorOnly calculateDelegations h2 hc, fun hch => ?_⟩
  -- the first step at which the change shows is a change of its own
  have blame : ∀ P : World → Prop, P w → ¬P w' →
      (∀ w1 w2 : World, P w1 → ¬P w2 → CreatorOnlyChange w1.hub w2.hub) →
      ∃ cs1 c cs2 w1 w2, cs = cs1 ++ c :: cs2 ∧ w.run calculateDelegations cs1 = .ok w1 ∧
        w1.step calculateDelegations c = .ok w2 ∧ CreatorOnlyChange w1.hub w2.hub ∧
        c.info.sender = w1.hub.config.creator := by
    intro P hP hP' hflip
    obtain ⟨cs1, c, cs2, w1, w2, rfl, h1, h2, hw1, hw2⟩ :=
      World.run_flip calculateDelegations P h hP hP'
    have hc := hflip _ _ hw1 hw2
    exact ⟨cs1, c, cs2, w1, w2, rfl, h1, h2, hc, step_creatorOnly calculateDelegations h2 hc⟩
  rcases hch with hc | hg | ⟨hp, hp'⟩
  · exact blame (fun v => v.hub.config = w.hub.config) rfl hc
      fun _ _ h1 h2 => .inl (h1 ▸ h2)
  · exact blame (fun v => v.hub.guardians = w.hub.guardians) rfl hg
      fun _ _ h1 h2 => .inr (.inl (h1 ▸ h2))
  · exact blame (fun v => v.hub.parameters.paused = some true) hp hp'
      fun _ _ h1 h2 => .inr (.inr ⟨h1, h2⟩)

theorem token_fixed_along_runs {w w' : World} {cs : List Call} {t : Addr}
    (h : w.run calculateDelegations cs = .ok w') (ht : w.hub.config.statomTokenContract = some t) :
    w'.hub.config.statomTokenContract = some t := by
  induction cs generalizing w with
  | nil => cases h; exact ht
  | cons c cs ih =>
    obtain ⟨w1, h1, h⟩ := bind_eq_ok.mp h
    exact ih h (step_keeps_token calculateDelegations h1 ht)

end

theorem addGuardians_then_pause_test :
    ∃ s' resp, executeAddGuardians testHub ⟨"owner1", []⟩ ["guardian1"] = .ok (s', resp) ∧
      ∃ r, executePauseContracts s' ⟨"guardian1", []⟩ = .ok r :=
  ⟨_, _, rfl, (@addGuardians_then_pause testHub _ ⟨"owner1", []⟩ ["guardian1"] _ rfl).2
    "guardian1" (List.mem_singleton_self _) []⟩

def guardedHub : Storage := { testHub with guardians := ["guardian1"] }

theorem removeGuardians_then_pause_test :
    ∃ s' resp, executeRemoveGuardians guardedHub ⟨"owner1", []⟩ ["guardian1"] = .ok (s', resp) ∧
      executePauseContracts s' ⟨"guardian1", []⟩ = .error (.genericErr "unauthorized") :=
  ⟨_, _, rfl, (@removeGuardians_then_pause guardedHub _ ⟨"owner1", []⟩ ["guardian1"] _ rfl).2
    "guardian1" (List.mem_singleton_self _) (by decide) []⟩

theorem creator_only_along_runs_test :
    ∃ w', testWorld.run wholeToFirst [registerContracts, userBond ⟨1000, by decide⟩] = .ok w' ∧
      CreatorOnlyChange testWorld.hub w'.hub ∧
      ∃ cs1 c cs2 w1 w2, [registerContracts, userBond ⟨1000, by decide⟩] = cs1 ++ c :: cs2 ∧
        testWorld.run wholeToFirst cs1 = .ok w1 ∧ w1.step wholeToFirst c = .ok w2 ∧
        CreatorOnlyChange w1.hub w2.hub ∧ c.info.sender = w1.hub.config.creator :=
  ⟨_, rfl, by decide, (@creator_only_along_runs wholeToFirst testWorld _
    [registerContracts, userBond ⟨1000, Nat.le_of_ble_eq_true rfl⟩] rfl).2 (by decide)⟩

theorem token_fixed_along_runs_test :
    ∃ w', registeredWorld.run wholeToFirst [userBond ⟨1000, by decide⟩, pauseByOwner] = .ok w' ∧
      w'.hub.config.statomTokenContract = some "statom_token" :=
  ⟨_, rfl, @token_fixed_along_runs wholeToFirst registeredWorld _
    [userBond ⟨1000, Nat.le_of_ble_eq_true rfl⟩, pauseByOwner] _ rfl rfl⟩

end LidoCosmos.Hub
