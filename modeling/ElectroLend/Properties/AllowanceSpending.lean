import ElectroLend.Pool.Changes
import ElectroLend.Tokens.PermitRuns

namespace ElectroLend

open Outcome LendingPool

def Deed.Approves : Deed → Prop
  | approveELToken _ _ _ | lowerELTokenAllowance _ _ _ => True
  | _ => False

section Allowances

variable {pool pool' : LendingPool} {t : Nat}

/-- No allowance is higher than before. -/
def LendingPool.LowersAllowances (pool pool' : LendingPool) : Prop :=
  ∀ asset u c, (pool'.reserves asset).elToken.allowances u c ≤
    (pool.reserves asset).elToken.allowances u c

theorem LendingPool.LowersAllowances.trans {pool'' : LendingPool} (h : pool.LowersAllowances pool')
    (h' : pool'.LowersAllowances pool'') : pool.LowersAllowances pool'' :=
  fun asset u c => (h' asset u c).trans (h asset u c)

theorem LendingPool.lowersAllowances_setReserve {a : Address} {r : Reserve}
    (same : r.elToken.allowances = (pool.reserves a).elToken.allowances) :
    pool.LowersAllowances (pool.setReserve a r) := by
  intro asset u c
  by_cases ha : asset = a
  · subst ha
    simp [same]
  · simp [ha]

/-- Approvals apart, the deeds leave the allowances, or start them at zero. -/
theorem Did.lowersAllowances {deed : Deed} (h : Did t deed pool pool') (quiet : ¬deed.Approves) :
    pool.LowersAllowances pool' := by
  cases h with
  | updateState h =>
    obtain ⟨r, hr, rfl⟩ := updateState_eq_ok h
    obtain ⟨_, _, minted, _, _, _, rfl, _⟩ := Reserve.updateState_eq_ok hr
    exact lowersAllowances_setReserve rfl
  | updateInterestRates h =>
    obtain ⟨r, hr, rfl⟩ := updateInterestRates_eq_ok h
    obtain ⟨_, _, rfl⟩ := Reserve.updateInterestRates_eq_ok hr
    exact lowersAllowances_setReserve rfl
  | cumulateToLiquidityIndex h =>
    obtain ⟨_, _, rfl⟩ := cumulateToLiquidityIndex_eq_ok h
    exact lowersAllowances_setReserve rfl
  | mintELToken h =>
    obtain ⟨token, hm, rfl⟩ := mintELToken_eq_ok h
    obtain ⟨_, _, _, _, _, _, _, same⟩ := ELToken.mint_eq_ok hm
    exact lowersAllowances_setReserve same
  | @burnELToken _ _ a _ _ _ h =>
    obtain ⟨elToken, _, hb, rfl⟩ := burnELToken_eq_ok h
    obtain ⟨_, _, _, _, _, _, _, _, same, _⟩ := ELToken.burn_eq_ok hb
    have burned : pool.LowersAllowances (pool.setReserve a { pool.reserves a with elToken }) :=
      lowersAllowances_setReserve same
    exact burned
  | moveELToken h => exact lowersAllowances_setReserve rfl
  | spendELToken allowed scaled h => exact lowersAllowances_setReserve rfl
  | approveELToken h => exact (quiet trivial).elim
  | lowerELTokenAllowance lower h => exact (quiet trivial).elim
  | mintVariableDebt h =>
    obtain ⟨_, _, rfl⟩ := mintVariableDebt_eq_ok h
    exact lowersAllowances_setReserve rfl
  | mintStableDebt _ h =>
    obtain ⟨_, _, rfl⟩ := mintStableDebt_eq_ok h
    exact lowersAllowances_setReserve rfl
  | burnVariableDebt h =>
    obtain ⟨_, _, rfl⟩ := burnVariableDebt_eq_ok h
    exact lowersAllowances_setReserve rfl
  | burnStableDebt h =>
    obtain ⟨_, _, rfl⟩ := burnStableDebt_eq_ok h
    exact lowersAllowances_setReserve rfl
  | @convertStableDebt _ _ _ a _ _ _ _ _ burned minted =>
    obtain ⟨stableDebtToken, _, rfl⟩ := burnStableDebt_eq_ok burned
    obtain ⟨_, _, rfl⟩ := mintVariableDebt_eq_ok minted
    have kept : pool.LowersAllowances (pool.setReserve a
        { pool.reserves a with stableDebtToken }) := lowersAllowances_setReserve rfl
    exact kept.trans (lowersAllowances_setReserve rfl)
  | approveStableDelegation _ msgSender a delegatee amount => exact lowersAllowances_setReserve rfl
  | approveVariableDelegation _ msgSender a delegatee amount => exact lowersAllowances_setReserve rfl
  | setUsingAsCollateral h =>
    obtain ⟨_, _, rfl⟩ := setUsingAsCollateral_eq_ok h
    exact fun _ _ _ => Nat.le_refl _
  | setBorrowing h =>
    obtain ⟨_, _, rfl⟩ := setBorrowing_eq_ok h
    exact fun _ _ _ => Nat.le_refl _
  | pull h =>
    obtain ⟨_, _, rfl⟩ := pullUnderlying_eq_ok h
    exact fun _ _ _ => Nat.le_refl _
  | pay h =>
    obtain ⟨_, _, rfl⟩ := transferUnderlyingTo_eq_ok h
    exact fun _ _ _ => Nat.le_refl _
  | @listReserve _ _ input h =>
    obtain ⟨_, id, configuration, hreserves⟩ := listReserve_reserves h
    intro asset u c
    rw [hreserves]
    by_cases ha : asset = input.underlyingAsset
    · subst ha
      simp [freshReserve]
    · simp [ha]
  | setConfiguration _ a configuration => exact lowersAllowances_setReserve rfl
  | setReserveInterestRateStrategy _ a strategy => exact lowersAllowances_setReserve rfl
  | _ => exact fun _ _ _ => Nat.le_refl _

theorem Deeds.lowersAllowances {allowed : Deed → Prop} (h : Deeds t allowed pool pool')
    (quiet : ∀ deed, allowed deed → ¬deed.Approves) : pool.LowersAllowances pool' :=
  h.invariant (pool.LowersAllowances ·)
    (fun _ _ _ fine before last => before.trans (last.lowersAllowances (quiet _ fine)))
    (fun _ _ _ => Nat.le_refl _)

end Allowances

/-- What an event allows `c` to spend of `u`. -/
def AllowanceEvent.allowing (asset u c : Address) : AllowanceEvent → Nat
  | permitted a message =>
    if a = asset ∧ message.owner = u ∧ message.spender = c then message.value else 0
  | granted a owner spender amount => if a = asset ∧ owner = u ∧ spender = c then amount else 0
  | spent _ _ _ _ => 0

/-- What `c` spends of `u` in an event. -/
def AllowanceEvent.spending (asset u c : Address) : AllowanceEvent → Nat
  | spent a owner spender amount => if a = asset ∧ owner = u ∧ spender = c then amount else 0
  | _ => 0

def allowedIn (asset u c : Address) (events : List AllowanceEvent) : Nat :=
  (events.map (·.allowing asset u c)).sum

def spentIn (asset u c : Address) (events : List AllowanceEvent) : Nat :=
  (events.map (·.spending asset u c)).sum

section Spending

variable {asset u c : Address} {past events : List AllowanceEvent} {pool pool' : LendingPool}
  {t : Nat} {s s' : SignedPool} {chain : Chain}

@[simp] theorem allowedIn_append :
    allowedIn asset u c (past ++ events) = allowedIn asset u c past + allowedIn asset u c events := by
  simp [allowedIn]

@[simp] theorem spentIn_append :
    spentIn asset u c (past ++ events) = spentIn asset u c past + spentIn asset u c events := by
  simp [spentIn]

/-- What is left of an allowance, and what has been spent, is no more than what was allowed. -/
def LendingPool.SpendsWithin (pool : LendingPool) (asset u c : Address)
    (events : List AllowanceEvent) : Prop :=
  (pool.reserves asset).elToken.allowances u c + spentIn asset u c events ≤
    allowedIn asset u c events

theorem LendingPool.SpendsWithin.lowers (within : pool.SpendsWithin asset u c past)
    (lowers : pool.LowersAllowances pool') : pool'.SpendsWithin asset u c past :=
  (Nat.add_le_add_right (lowers asset u c) _).trans within

theorem LendingPool.SpendsWithin.approve {a owner spender : Address} {amount : Nat} {elToken : ELToken}
    (within : pool.SpendsWithin asset u c past)
    (h : (pool.reserves a).elToken.approve owner spender amount = .ok elToken)
    (covered : a = asset → owner = u → spender = c →
      amount + spentIn asset u c events ≤
        (pool.reserves asset).elToken.allowances u c + allowedIn asset u c events)
    (quiet : ¬(a = asset ∧ owner = u ∧ spender = c) → spentIn asset u c events = 0) :
    (pool.setReserve a { pool.reserves a with elToken }).SpendsWithin asset u c (past ++ events) := by
  unfold SpendsWithin at within ⊢
  rw [allowedIn_append, spentIn_append]
  by_cases ha : asset = a
  · subst ha
    rw [setReserve_reserves, Function.update_self, ELToken.approve_allowances h]
    by_cases hpair : owner = u ∧ spender = c
    · rw [if_pos hpair]
      have least := covered rfl hpair.1 hpair.2
      omega
    · rw [if_neg hpair, quiet (fun h => hpair h.2)]
      omega
  · rw [setReserve_reserves, Function.update_of_ne ha, quiet (fun h => ha h.1.symm)]
    omega

/-- A spender moves what it is allowed to, and is allowed that much less. -/
theorem elTokenTransferFrom_spendsWithin {a sender recipient msgSender : Address} {amount : Nat}
    (h : pool.elTokenTransferFrom t msgSender a sender recipient amount = .ok pool')
    (within : pool.SpendsWithin asset u c past) :
    pool'.SpendsWithin asset u c (past ++ [.spent a sender msgSender amount]) := by
  obtain ⟨moved, elToken, _, htransfer, hle, happrove, rfl⟩ := elTokenTransferFrom_eq_ok h
  obtain ⟨_, _, _, _, balances, _, _, _, _, hmove, _, rfl, ⟨_, hfin⟩ | ⟨hvalidate, _⟩⟩ :=
    transferELToken_eq_ok htransfer
  · have moves : pool.LowersAllowances (pool.setReserve a { pool.reserves a with
        elToken := { (pool.reserves a).elToken with balances } }) := lowersAllowances_setReserve rfl
    have lowers : pool.LowersAllowances moved := by
      intro asset u c
      rw [finalizeTransfer_reserves hfin]
      exact moves asset u c
    refine (within.lowers lowers).approve happrove ?_ ?_
    · rintro rfl rfl rfl
      simp only [spentIn, allowedIn, AllowanceEvent.spending, AllowanceEvent.allowing, List.map_cons,
        List.map_nil, List.sum_cons, List.sum_nil, and_self, if_true]
      omega
    · intro hother
      simp [spentIn, AllowanceEvent.spending, hother]
  · cases hvalidate

theorem Call.exec_spendsWithin {msgSender : Address} {call : Call}
    (h : call.exec t msgSender pool = .ok pool') (within : pool.SpendsWithin asset u c past) :
    pool'.SpendsWithin asset u c (past ++ call.allowanceEvents msgSender) := by
  have quietly : (∀ deed ∈ call.deeds pool msgSender, ¬deed.Approves) →
      pool'.SpendsWithin asset u c (past ++ []) := fun quiet => by
    rw [List.append_nil]
    exact within.lowers ((Call.exec_deeds h).lowersAllowances quiet)
  cases call with
  | elTokenTransferFrom a sender recipient amount => exact elTokenTransferFrom_spendsWithin h within
  | elTokenApprove a spender amount =>
    have happrove : pool.elTokenApprove msgSender a spender amount = .ok pool' := h
    show pool'.SpendsWithin asset u c (past ++ [.granted a msgSender spender amount])
    simp only [LendingPool.elTokenApprove, bind_eq_ok, pure_eq_ok] at happrove
    obtain ⟨elToken, happrove, rfl⟩ := happrove
    refine within.approve happrove ?_ ?_
    · rintro rfl rfl rfl
      simp [spentIn, allowedIn, AllowanceEvent.spending, AllowanceEvent.allowing]
    · intro _
      simp [spentIn, AllowanceEvent.spending]
  | _ =>
    refine quietly fun deed hdeed approves => ?_
    simp only [Call.deeds, List.mem_cons, List.not_mem_nil, or_false] at hdeed
    rcases hdeed with rfl | rfl | rfl | rfl | rfl | rfl | rfl | rfl | rfl
    all_goals exact approves

theorem SignedPool.afterCall_lendingPool {call : Call} :
    (s.afterCall chain pool' call).lendingPool = pool' := by
  cases call <;> rfl

theorem SignedPool.elToken_eq_ok {elToken : ELToken} (h : s.elToken asset = .ok elToken) :
    (s.lendingPool.reserves asset).elTokenAddress ≠ 0 ∧
      elToken = (s.lendingPool.reserves asset).elToken := by
  simp only [SignedPool.elToken, requireContract, bind_eq_ok, mapError_eq_ok, require_eq_ok,
    pure_eq_ok] at h
  obtain ⟨_, hlisted, rfl⟩ := h
  exact ⟨hlisted, rfl⟩

theorem SignedPool.exec_eq_ok {msgSender : Address} {call : AllowanceCall}
    (h : s.exec chain t msgSender call = .ok s') :
    ∃ a owner spender amount elToken,
      (s.lendingPool.reserves a).elTokenAddress ≠ 0 ∧
      (s.lendingPool.reserves a).elToken.approve owner spender amount = .ok elToken ∧
      s'.lendingPool = (s.setELToken a elToken).lendingPool ∧
      ((∃ message, s.allowanceEvents msgSender call = [.permitted a message] ∧
          message.domain = (s.storage a).domainSeparator ∧ message.owner = owner ∧
          message.spender = spender ∧ message.value = amount ∧
          message.nonce = (s.storage a).nonces owner ∧ owner ≠ 0 ∧ t ≤ message.deadline ∧
          (∃ signature, chain.ecrecover (chain.digest message) signature = owner) ∧
          s'.storage = Function.update s.storage a { s.storage a with
            nonces := Function.update (s.storage a).nonces owner
              (wrap ((s.storage a).nonces owner + 1)) }) ∨
        (s'.storage = s.storage ∧
          (s.allowanceEvents msgSender call = [] ∧
              amount ≤ (s.lendingPool.reserves a).elToken.allowances owner spender ∨
            ∃ added, s.allowanceEvents msgSender call = [.granted a owner spender added] ∧
              amount = (s.lendingPool.reserves a).elToken.allowances owner spender + added))) := by
  cases call with
  | permit a owner spender value deadline signature =>
    simp only [SignedPool.exec, bind_eq_ok, pure_eq_ok] at h
    obtain ⟨_, htoken, ⟨storage, elToken⟩, hpermit, rfl⟩ := h
    obtain ⟨hlisted, rfl⟩ := elToken_eq_ok htoken
    obtain ⟨howner, hdeadline, hsigned, happrove, rfl⟩ := ELToken.permit_eq_ok hpermit
    exact ⟨a, owner, spender, value, elToken, hlisted, happrove, rfl, .inl ⟨_, rfl, rfl, rfl, rfl,
      rfl, rfl, howner, hdeadline, ⟨signature, hsigned⟩, rfl⟩⟩
  | increaseAllowance a spender addedValue =>
    simp only [SignedPool.exec, bind_eq_ok, pure_eq_ok] at h
    obtain ⟨_, htoken, elToken, hincrease, rfl⟩ := h
    obtain ⟨hlisted, rfl⟩ := elToken_eq_ok htoken
    exact ⟨a, msgSender, spender, _, elToken, hlisted, ELToken.increaseAllowance_eq_ok hincrease, rfl,
      .inr ⟨rfl, .inr ⟨addedValue, rfl, rfl⟩⟩⟩
  | decreaseAllowance a spender subtractedValue =>
    simp only [SignedPool.exec, bind_eq_ok, pure_eq_ok] at h
    obtain ⟨_, htoken, elToken, hdecrease, rfl⟩ := h
    obtain ⟨hlisted, rfl⟩ := elToken_eq_ok htoken
    exact ⟨a, msgSender, spender, _, elToken, hlisted, ELToken.decreaseAllowance_eq_ok hdecrease, rfl,
      .inr ⟨rfl, .inl ⟨rfl, Nat.sub_le _ _⟩⟩⟩

theorem SignedPool.exec_spendsWithin {msgSender : Address} {call : AllowanceCall}
    (h : s.exec chain t msgSender call = .ok s')
    (within : s.lendingPool.SpendsWithin asset u c past) :
    s'.lendingPool.SpendsWithin asset u c (past ++ s.allowanceEvents msgSender call) := by
  obtain ⟨a, owner, spender, amount, elToken, _, happrove, hpool, hcase⟩ := exec_eq_ok h
  rw [hpool]
  obtain ⟨message, hevents, _, rfl, rfl, rfl, _⟩ | ⟨_, ⟨hevents, hle⟩ | ⟨added, hevents, rfl⟩⟩ := hcase
  · rw [hevents]
    refine within.approve happrove ?_ ?_
    · rintro rfl rfl rfl
      simp [spentIn, allowedIn, AllowanceEvent.spending, AllowanceEvent.allowing]
    · intro _
      simp [spentIn, AllowanceEvent.spending]
  · rw [hevents]
    refine within.approve happrove ?_ ?_
    · rintro rfl rfl rfl
      simpa [spentIn, allowedIn] using hle
    · intro _
      simp [spentIn]
  · rw [hevents]
    refine within.approve happrove ?_ ?_
    · rintro rfl rfl rfl
      simp [spentIn, allowedIn, AllowanceEvent.spending, AllowanceEvent.allowing]
    · intro _
      simp [spentIn, AllowanceEvent.spending]

theorem spendsWithin_invariant (chain : Chain) (asset u c : Address) :
    SignedInvariant chain fun events s => s.lendingPool.SpendsWithin asset u c events where
  call t past s pool' msgSender call within success := by
    rw [SignedPool.afterCall_lendingPool]
    exact Call.exec_spendsWithin success within
  allowance t past s s' msgSender call within success := SignedPool.exec_spendsWithin success within
  send past s pool' receiver loans entries within sending := by
    refine within.lowers ((sendFlashLoan_deeds (t := 0) sending).lowersAllowances ?_)
    rintro _ ⟨_, rfl⟩
    exact id
  settle t past s pool' msgSender receiver onBehalfOf entries modes within settling := by
    refine within.lowers ((settleFlashLoan_deeds settling).lowersAllowances ?_)
    rintro deed ⟨_, hdeed⟩
    simp only [List.mem_cons, List.not_mem_nil, or_false] at hdeed
    obtain rfl | rfl | rfl | rfl | rfl := hdeed
    all_goals exact id

theorem SignedHistory.spendsWithin {rules : Rules} (history : SignedHistory chain rules t events s) :
    s.lendingPool.SpendsWithin asset u c events :=
  (spendsWithin_invariant chain asset u c).history (fun _ _ _ _ _ _ => Nat.le_refl _) history

end Spending

end ElectroLend
