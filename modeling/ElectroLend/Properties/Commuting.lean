import ElectroLend.Pool.Postings
import ElectroLend.Pool.ScaledUnits
import ElectroLend.Properties.StoredRates

namespace ElectroLend

open Outcome Differences

/-- The operations of an account on one reserve that post to it; debt is repaid at the variable
rate. -/
inductive UserOperation
  | deposit (msgSender : Address) (amount : Nat) (onBehalfOf : Address)
  | withdraw (msgSender : Address) (amount : Nat) (recipient : Address)
  | repay (msgSender : Address) (amount : Nat) (onBehalfOf : Address)

namespace UserOperation

def exec (t : Nat) (asset : Address) (pool : LendingPool) : UserOperation → Result LendingPool
  | deposit msgSender amount onBehalfOf => pool.deposit t msgSender asset amount onBehalfOf
  | withdraw msgSender amount recipient =>
    (·.2) <$> pool.withdraw t msgSender asset amount recipient
  | repay msgSender amount onBehalfOf => (·.2) <$> pool.repay t msgSender asset amount 2 onBehalfOf

/-- Who pays and who benefits. -/
def accounts : UserOperation → List Address
  | deposit msgSender _ onBehalfOf => [msgSender, onBehalfOf]
  | withdraw msgSender _ recipient => [msgSender, recipient]
  | repay msgSender _ onBehalfOf => [msgSender, onBehalfOf]

open LendingPool Posting

/-- The mark is posted under a condition. -/
def markIf (c : Prop) [Decidable c] (u : Address)
    (change : UserConfigurationMap → Result UserConfigurationMap) : Posting :=
  if c then ofMark u change else none

/-- What an operation posts to a reserve that the block has accrued, from the indexes, the balances
of its accounts and the stable debt. -/
def Books (t : Nat) (asset : Address) (pool : LendingPool) : UserOperation → Posting → Prop
  | deposit msgSender amount onBehalfOf, e =>
    let r := pool.reserves asset
    ∃ units : Nat, rayDiv amount r.liquidityIndex = .ok units ∧
      e = ((none.next ((ofTransfer msgSender r.elTokenAddress amount).next
          (ofAllowance msgSender pool.this amount))).next (ofELToken onBehalfOf units)).next
        (markIf (r.elToken.balances onBehalfOf = 0) onBehalfOf
          (·.setUsingAsCollateral r.id true))
  | withdraw msgSender amount recipient, e =>
    let r := pool.reserves asset
    let balance := r.elToken.balances msgSender
    let paid := amountToWithdraw amount balance
    ∃ units : Nat, rayDiv paid r.liquidityIndex = .ok units ∧
      e = (none.next (markIf (paid = balance) msgSender (·.setUsingAsCollateral r.id false))).next
        ((ofELToken msgSender (-units)).next (ofTransfer r.elTokenAddress recipient paid))
  | repay msgSender amount onBehalfOf, e =>
    let r := pool.reserves asset
    let variableDebt := halfUp (r.variableDebtToken.balances onBehalfOf * r.variableBorrowIndex) RAY
    ∃ stableDebt units : Nat, r.stableDebtToken.balanceOf t onBehalfOf = .ok stableDebt ∧
      rayDiv (paybackAmount amount stableDebt variableDebt .variable) r.variableBorrowIndex =
        .ok units ∧
      e = (((ofVariableDebt onBehalfOf (-units)).next none).next
          (markIf (stableDebt + variableDebt -
              paybackAmount amount stableDebt variableDebt .variable = 0)
            onBehalfOf (·.setBorrowing r.id false))).next
        ((ofTransfer msgSender r.elTokenAddress
            (paybackAmount amount stableDebt variableDebt .variable)).next
          (ofAllowance msgSender pool.this
            (paybackAmount amount stableDebt variableDebt .variable)))

/-- All that an operation reads is as it was. -/
structure SameView (op : UserOperation) (asset : Address) (pool pool' : LendingPool) : Prop where
  this : pool'.this = pool.this
  reads : SameReads (pool.reserves asset) (pool'.reserves asset)
  elToken : ∀ u ∈ op.accounts,
    (pool'.reserves asset).elToken.balances u = (pool.reserves asset).elToken.balances u
  variableDebt : ∀ u ∈ op.accounts, (pool'.reserves asset).variableDebtToken.balances u =
    (pool.reserves asset).variableDebtToken.balances u

variable {pool pool' middle : LendingPool} {t : Nat} {asset u : Address} {op : UserOperation}
  {e e' : Posting}

/-- The posting is settled by what the operation reads. -/
theorem Books.unique (view : SameView op asset pool pool') (h : Books t asset pool op e)
    (h' : Books t asset pool' op e') : e' = e := by
  obtain ⟨hthis, ⟨hliquidity, hvariable, _, haddress, hid, _, hstable⟩, helToken, hdebt⟩ := view
  cases op with
  | deposit msgSender amount onBehalfOf =>
    obtain ⟨units, hd, rfl⟩ := h
    obtain ⟨units', hd', rfl⟩ := h'
    have balance := helToken onBehalfOf (by simp [accounts])
    rw [hliquidity] at hd'
    cases ok_unique hd hd'
    rw [hthis, haddress, hid, balance]
  | withdraw msgSender amount recipient =>
    obtain ⟨units, hd, rfl⟩ := h
    obtain ⟨units', hd', rfl⟩ := h'
    have balance := helToken msgSender (by simp [accounts])
    rw [hliquidity, balance] at hd'
    cases ok_unique hd hd'
    rw [haddress, hid, balance]
  | repay msgSender amount onBehalfOf =>
    obtain ⟨stableDebt, units, hs, hd, rfl⟩ := h
    obtain ⟨stableDebt', units', hs', hd', rfl⟩ := h'
    have balance := hdebt onBehalfOf (by simp [accounts])
    rw [hstable] at hs'
    cases ok_unique hs hs'
    rw [hvariable, balance] at hd'
    cases ok_unique hd hd'
    rw [hthis, haddress, hid, hvariable, balance]

theorem spares_markIf {c : Prop} [Decidable c] {v : Address} (hne : u ≠ v)
    {change : UserConfigurationMap → Result UserConfigurationMap} :
    (markIf c v change).Spares u := by
  unfold markIf
  split
  · exact spares_ofMark hne
  · exact ⟨rfl, rfl, rfl⟩

theorem Books.spares (h : Books t asset pool op e) (hu : u ∉ op.accounts) : e.Spares u := by
  have nothing : Posting.none.Spares u := ⟨rfl, rfl, rfl⟩
  cases op with
  | deposit msgSender amount onBehalfOf =>
    obtain ⟨units, _, rfl⟩ := h
    simp only [accounts, List.mem_cons, List.not_mem_nil, or_false, not_or] at hu
    exact ((nothing.next (spares_ofTransfer.next spares_ofAllowance)).next
      (spares_ofELToken hu.2)).next (spares_markIf hu.2)
  | withdraw msgSender amount recipient =>
    obtain ⟨units, _, rfl⟩ := h
    simp only [accounts, List.mem_cons, List.not_mem_nil, or_false, not_or] at hu
    exact (nothing.next (spares_markIf hu.1)).next ((spares_ofELToken hu.1).next spares_ofTransfer)
  | repay msgSender amount onBehalfOf =>
    obtain ⟨stableDebt, units, _, _, rfl⟩ := h
    simp only [accounts, List.mem_cons, List.not_mem_nil, or_false, not_or] at hu
    exact (((spares_ofVariableDebt hu.2).next nothing).next (spares_markIf hu.2)).next
      (spares_ofTransfer.next spares_ofAllowance)

theorem markIf_posts {c : Prop} [Decidable c]
    {change : UserConfigurationMap → Result UserConfigurationMap}
    (h : (c ∧ pool.updateUserConfig u change = .ok pool') ∨ (¬c ∧ pool = pool')) :
    Posts asset (markIf c u change) pool pool' := by
  unfold markIf
  obtain ⟨hc, hset⟩ | ⟨hc, rfl⟩ := h
  · rw [if_pos hc]
    exact updateUserConfig_posts hset
  · rw [if_neg hc]
    exact .refl _ _

theorem updateState_balance (hu : u ≠ (pool.reserves asset).elToken.treasury)
    (h : pool.updateState t asset = .ok pool') :
    (pool'.reserves asset).elToken.balances u = (pool.reserves asset).elToken.balances u := by
  obtain ⟨_, minted, _, _, hnone, _, _, credited, _⟩ := updateState_holdings h u
  rw [credited, hnone hu, Nat.add_zero]

theorem deposit_books {msgSender onBehalfOf : Address} {amount : Nat}
    (h : pool.deposit t msgSender asset amount onBehalfOf = .ok pool') :
    ∃ accrued e, pool.updateState t asset = .ok accrued ∧
      Books t asset accrued (.deposit msgSender amount onBehalfOf) e ∧
      Posts asset e accrued pool' := by
  simp only [LendingPool.deposit, bind_eq_ok, Prod.exists, ite_eq_ok, Except.ok.injEq] at h
  obtain ⟨_, _, _, _, p₁, h₁, p₂, h₂, p₃, h₃, first, p₄, h₄, hbit⟩ := h
  have rated := updateInterestRates_posts h₂
  have pulled := rated.next (pullUnderlying_posts h₃)
  obtain ⟨units, hd, rfl, minted⟩ := mintELToken_posts h₄
  have balance : (p₃.reserves asset).elToken.balances onBehalfOf =
      (p₁.reserves asset).elToken.balances onBehalfOf := pulled.elToken.same rfl
  have id : (p₄.reserves asset).id = (p₁.reserves asset).id := (pulled.next minted).reads.id
  rw [balance, id, beq_iff_eq] at hbit
  rw [pulled.reads.liquidityIndex] at hd
  have address : (pool.reserves asset).elTokenAddress = (p₁.reserves asset).elTokenAddress :=
    (updateState_onBooks h₁).elToken.symm
  rw [address, rated.this] at pulled
  exact ⟨p₁, _, h₁, ⟨units, hd, rfl⟩, (pulled.next minted).next (markIf_posts hbit)⟩

theorem withdraw_books {msgSender recipient : Address} {amount paid : Nat}
    (hs : msgSender ≠ (pool.reserves asset).elToken.treasury)
    (h : pool.withdraw t msgSender asset amount recipient = .ok (paid, pool')) :
    ∃ accrued e, pool.updateState t asset = .ok accrued ∧
      Books t asset accrued (.withdraw msgSender amount recipient) e ∧
      Posts asset e accrued pool' := by
  simp only [LendingPool.withdraw, Reserve.elTokenBalanceOf, bind_eq_ok, ite_eq_ok, pure_eq_ok,
    Except.ok.injEq, Prod.mk.injEq] at h
  obtain ⟨_, _, _, ⟨_, _, rfl⟩, _, _, p₁, h₁, p₂, h₂, p₃, hbit, p₄, h₄, rfl, rfl⟩ := h
  have balance : (pool.reserves asset).elToken.toIncentivizedERC20.balanceOf msgSender =
      (p₁.reserves asset).elToken.balances msgSender := (updateState_balance hs h₁).symm
  rw [balance] at hbit h₄
  have rated := updateInterestRates_posts h₂
  rw [rated.reads.id] at hbit
  have marked := rated.next (markIf_posts hbit)
  obtain ⟨units, hd, burned⟩ := burnELToken_posts h₄
  rw [marked.reads.liquidityIndex] at hd
  rw [marked.reads.elTokenAddress] at burned
  exact ⟨p₁, _, h₁, ⟨units, hd, rfl⟩, marked.next burned⟩

theorem updateState_debts (h : pool.updateState t asset = .ok pool') :
    (pool.reserves asset).nextVariableBorrowIndex t =
        .ok (pool'.reserves asset).variableBorrowIndex ∧
      (pool'.reserves asset).stableDebtToken = (pool.reserves asset).stableDebtToken ∧
      (pool'.reserves asset).variableDebtToken = (pool.reserves asset).variableDebtToken := by
  obtain ⟨r, hr, rfl⟩ := updateState_eq_ok h
  obtain ⟨_, index, _, _, _, hindex, rfl, _⟩ := Reserve.updateState_eq_ok hr
  exact ⟨by simpa using hindex, by simp, by simp⟩

/-- The debt that is read before the accrual is the debt at the index that the accrual stores, so
the posting does not tell whether the operation accrued. -/
theorem repay_books {msgSender onBehalfOf : Address} {amount paid : Nat} (ht : IsBlockTimestamp t)
    (accrues : 0 < (pool.reserves asset).currentLiquidityRate ∨
      (pool.reserves asset).lastUpdateTimestamp = t)
    (h : pool.repay t msgSender asset amount 2 onBehalfOf = .ok (paid, pool')) :
    ∃ accrued e, pool.updateState t asset = .ok accrued ∧
      Books t asset accrued (.repay msgSender amount onBehalfOf) e ∧
      Posts asset e accrued pool' := by
  simp only [LendingPool.repay, Reserve.getUserCurrentDebt, Reserve.stableDebtBalanceOf,
    bind_eq_ok, Prod.exists, ite_eq_ok, pure_eq_ok, Prod.mk.injEq, Except.ok.injEq,
    SafeMath.add_eq_ok, SafeMath.sub_eq_ok] at h
  obtain ⟨_, _, _, _, ⟨stableDebt, ⟨_, _, hs⟩, variableDebt, hv, rfl, rfl⟩, mode, hmode, _, _,
    p₁, h₁, p₂, h₂, p₃, h₃, _, ⟨_, rfl⟩, _, ⟨_, rfl⟩, p₄, hbit, p₅, h₅, rfl, rfl⟩ := h
  cases Except.ok.inj hmode
  rw [burnDebt, if_neg (by decide)] at h₂
  obtain ⟨units, hd, hsupply, burned⟩ := burnVariableDebt_posts h₂
  obtain ⟨hindex, hstable, hvariable⟩ := updateState_debts h₁
  rw [hvariable] at hsupply
  have debt : variableDebt = halfUp ((p₁.reserves asset).variableDebtToken.balances onBehalfOf *
      (p₁.reserves asset).variableBorrowIndex) RAY := by
    rw [hvariable]
    refine Reserve.variableDebt_of_view ?_ hv
    intro view hview
    exact Reserve.getNormalizedDebt_eq_next ht accrues hsupply hview hindex
  subst debt
  rw [← hstable] at hs
  have rated := burned.next (updateInterestRates_posts h₃)
  rw [rated.reads.id] at hbit
  have marked := rated.next (markIf_posts hbit)
  have pulled := pullUnderlying_posts h₅
  have address : (pool.reserves asset).elTokenAddress = (p₁.reserves asset).elTokenAddress :=
    (updateState_onBooks h₁).elToken.symm
  rw [marked.this, address] at pulled
  exact ⟨p₁, _, h₁, ⟨stableDebt, units, hs, hd, rfl⟩, marked.next pulled⟩

/-- No account of the operation is the treasury or the elToken of the reserve. -/
def Outside (op : UserOperation) (r : Reserve) : Prop :=
  ∀ u ∈ op.accounts, u ≠ r.elToken.treasury ∧ u ≠ r.elTokenAddress

theorem Outside.accrued (outside : op.Outside (pool.reserves asset))
    (h : pool.updateState t asset = .ok pool') : op.Outside (pool'.reserves asset) := by
  obtain ⟨r, hr, rfl⟩ := updateState_eq_ok h
  obtain ⟨_, _, _, _, _, _, rfl, _⟩ := Reserve.updateState_eq_ok hr
  intro u hu
  simpa [ELToken.creditTreasury] using outside u hu

theorem exec_books (ht : IsBlockTimestamp t)
    (accrues : 0 < (pool.reserves asset).currentLiquidityRate ∨
      (pool.reserves asset).lastUpdateTimestamp = t)
    (outside : op.Outside (pool.reserves asset)) (h : op.exec t asset pool = .ok pool') :
    ∃ accrued e, pool.updateState t asset = .ok accrued ∧ Books t asset accrued op e ∧
      Posts asset e accrued pool' := by
  cases op with
  | deposit msgSender amount onBehalfOf => exact deposit_books h
  | withdraw msgSender amount recipient =>
    obtain ⟨⟨paid, _⟩, hw, rfl⟩ := map_eq_ok.mp h
    exact withdraw_books (outside msgSender (by simp [accounts])).1 hw
  | repay msgSender amount onBehalfOf =>
    obtain ⟨⟨paid, _⟩, hr, rfl⟩ := map_eq_ok.mp h
    exact repay_books ht accrues hr

theorem exec_describes (outside : op.Outside (pool.reserves asset))
    (h : op.exec t asset pool = .ok pool') : pool'.RatesDescribe t asset := by
  cases op with
  | deposit msgSender amount onBehalfOf =>
    have hs := (outside msgSender (by simp [accounts])).2
    exact (deposit_updatesRates (fun _ => hs) h).describe
  | withdraw msgSender amount recipient =>
    obtain ⟨⟨paid, _⟩, hw, rfl⟩ := map_eq_ok.mp h
    have hr := (outside recipient (by simp [accounts])).2
    exact (withdraw_updatesRates (fun _ => hr) hw).describe
  | repay msgSender amount onBehalfOf =>
    obtain ⟨⟨paid, _⟩, hr, rfl⟩ := map_eq_ok.mp h
    have hs := (outside msgSender (by simp [accounts])).2
    exact (repay_updatesRates (fun _ => hs) hr).describe

/-- After an operation of others in the block, an operation posts what it would have posted
before, since nothing is accrued again. -/
theorem exec_after {accrued : LendingPool} (ht : IsBlockTimestamp t)
    (htime : (accrued.reserves asset).lastUpdateTimestamp = t)
    (posted : Posts asset e accrued middle) (spared : ∀ u ∈ op.accounts, e.Spares u)
    (outside : op.Outside (accrued.reserves asset)) (booked : Books t asset accrued op e')
    (h : op.exec t asset middle = .ok pool') :
    Posts asset e' middle pool' ∧ pool'.RatesDescribe t asset := by
  have reads := posted.reads
  have hlast : (middle.reserves asset).lastUpdateTimestamp = t := reads.timestamp.trans htime
  have outside' : op.Outside (middle.reserves asset) := by
    intro u hu
    rw [reads.treasury, reads.elTokenAddress]
    exact outside u hu
  obtain ⟨accrued', e'', haccrue, booked', posts⟩ := exec_books ht (.inr hlast) outside' h
  rw [updateState_again ht hlast haccrue] at booked' posts
  have view : SameView op asset accrued middle :=
    ⟨posted.this, reads, fun u hu => posted.elToken.same (spared u hu).elToken,
      fun u hu => posted.variableDebt.same (spared u hu).variableDebt⟩
  rw [booked.unique view booked'] at posts
  exact ⟨posts, exec_describes outside' h⟩

end UserOperation

open UserOperation in
/-- Two operations in one block whose accounts are distinct end in one state in either order. -/
theorem user_operations_commute {pool first second left right : LendingPool} {t : Nat}
    {asset : Address} {op op' : UserOperation} (ht : IsBlockTimestamp t)
    (accrues : 0 < (pool.reserves asset).currentLiquidityRate ∨
      (pool.reserves asset).lastUpdateTimestamp = t)
    (apart : ∀ u ∈ op.accounts, u ∉ op'.accounts)
    (outside : op.Outside (pool.reserves asset)) (outside' : op'.Outside (pool.reserves asset))
    (h₁ : op.exec t asset pool = .ok first) (h₁₂ : op'.exec t asset first = .ok left)
    (h₂ : op'.exec t asset pool = .ok second) (h₂₁ : op.exec t asset second = .ok right) :
    left = right := by
  obtain ⟨accrued, e, haccrue, booked, posts⟩ := exec_books ht accrues outside h₁
  obtain ⟨accrued', e', haccrue', booked', posts'⟩ := exec_books ht accrues outside' h₂
  cases ok_unique haccrue haccrue'
  have spares : ∀ u ∈ op'.accounts, e.Spares u := fun u hu =>
    booked.spares (fun hu' => apart u hu' hu)
  have spares' : ∀ u ∈ op.accounts, e'.Spares u := fun u hu => booked'.spares (apart u hu)
  have htime : (accrued.reserves asset).lastUpdateTimestamp = t := by
    obtain ⟨_, _, _, _, _, _, time, _⟩ := LendingPool.updateState_holdings haccrue 0
    rw [time, ht.uint40]
  obtain ⟨posts₁₂, described⟩ :=
    exec_after ht htime posts spares (outside'.accrued haccrue) booked' h₁₂
  obtain ⟨posts₂₁, described'⟩ :=
    exec_after ht htime posts' spares' (outside.accrued haccrue) booked h₂₁
  refine posts.commute posts₁₂ posts' posts₂₁ ?_ described described'
  intro u
  by_cases hu : u ∈ op.accounts
  · exact .inr (spares' u hu).marks
  · exact .inl (booked.spares hu).marks

/-- Bob owes weth that alice supplies; nothing is accrued since. -/
def debtorMarket : LendingPool :=
  Market.endState (Market.setup 1000 ++
    [(1, Market.alice, .deposit Market.weth (10 ^ 20) Market.alice),
      (2, Market.bob, .deposit Market.dai (10 ^ 20) Market.bob),
      (3, Market.bob, .borrow Market.weth (5 * 10 ^ 19) 2 Market.bob)])

/-- A day later alice withdraws and bob repays, whoever comes first. -/
theorem debtorMarket_either_order :
    ∃ first second last : LendingPool,
      (UserOperation.withdraw Market.alice (10 ^ 19) Market.alice).exec 86400 Market.weth
        debtorMarket = .ok first ∧
      (UserOperation.repay Market.bob (10 ^ 19) Market.bob).exec 86400 Market.weth first =
        .ok last ∧
      (UserOperation.repay Market.bob (10 ^ 19) Market.bob).exec 86400 Market.weth debtorMarket =
        .ok second ∧
      (UserOperation.withdraw Market.alice (10 ^ 19) Market.alice).exec 86400 Market.weth second =
        .ok last := by
  have there : succeedsWith ((UserOperation.withdraw Market.alice (10 ^ 19) Market.alice).exec
      86400 Market.weth debtorMarket) (fun first =>
        ((UserOperation.repay Market.bob (10 ^ 19) Market.bob).exec 86400 Market.weth
          first).isOk) = true := by decide +kernel
  have back : succeedsWith ((UserOperation.repay Market.bob (10 ^ 19) Market.bob).exec 86400
      Market.weth debtorMarket) (fun second =>
        ((UserOperation.withdraw Market.alice (10 ^ 19) Market.alice).exec 86400 Market.weth
          second).isOk) = true := by decide +kernel
  have accrues : 0 < (debtorMarket.reserves Market.weth).currentLiquidityRate := by decide +kernel
  have apart : ∀ u ∈ [Market.alice, Market.alice], u ∉ [Market.bob, Market.bob] := by decide
  have addresses : (debtorMarket.reserves Market.weth).elToken.treasury = Market.treasury ∧
      (debtorMarket.reserves Market.weth).elTokenAddress = 110 := by decide +kernel
  obtain ⟨first, h₁, hthen⟩ := succeedsWith_iff.mp there
  obtain ⟨second, h₂, hthen'⟩ := succeedsWith_iff.mp back
  obtain ⟨left, h₁₂⟩ := exists_of_isOk hthen
  obtain ⟨right, h₂₁⟩ := exists_of_isOk hthen'
  have outside : ∀ op : UserOperation, (∀ u ∈ op.accounts, u ≠ Market.treasury ∧ u ≠ 110) →
      op.Outside (debtorMarket.reserves Market.weth) := by
    intro op away
    rw [UserOperation.Outside, addresses.1, addresses.2]
    exact away
  have same : left = right := by
    refine user_operations_commute (show (86400 : Nat) < 2 ^ 40 by decide) (.inl accrues) ?_ ?_
      ?_ h₁ h₁₂ h₂ h₂₁
    · exact apart
    · exact outside _ (by decide)
    · exact outside _ (by decide)
  exact ⟨first, second, left, h₁, h₁₂, h₂, same ▸ h₂₁⟩

end ElectroLend
