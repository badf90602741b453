import ElectroLend.Library.TwoRuns
import ElectroLend.Pool.Steps

namespace ElectroLend

open Outcome

/-- Only where `mayDiffer` holds may the flags differ that `validateDeposit`, `validateBorrow` and
`validateSwapRateMode` look at besides the active one: frozen, borrowing and stable borrowing. -/
inductive Reserve.SameButFlags (mayDiffer : Prop) (r : Reserve) : Reserve → Prop
  | mk (configuration : ReserveConfigurationMap)
      (params : configuration.getParams = r.configuration.getParams)
      (active : configuration.getActive = r.configuration.getActive)
      (flags : ¬mayDiffer → configuration = r.configuration) :
      SameButFlags mayDiffer r { r with configuration }

namespace Reserve.SameButFlags

variable {mayDiffer : Prop} {r r' : Reserve} {t : Nat} {u : Address}

theorem refl (r : Reserve) : r.SameButFlags mayDiffer r := .mk _ rfl rfl fun _ => rfl

theorem configuration_eq (same : r.SameButFlags mayDiffer r') (no : ¬mayDiffer) :
    r'.configuration = r.configuration := by
  obtain ⟨_, _, _, flags⟩ := same
  exact flags no

theorem getParams (same : r.SameButFlags mayDiffer r') :
    r'.configuration.getParams = r.configuration.getParams := by
  obtain ⟨_, params, _, _⟩ := same
  exact params

theorem getDecimals (same : r.SameButFlags mayDiffer r') :
    r'.configuration.getDecimals = r.configuration.getDecimals :=
  congrArg (·.decimals) same.getParams

theorem getLiquidationThreshold (same : r.SameButFlags mayDiffer r') :
    r'.configuration.getLiquidationThreshold = r.configuration.getLiquidationThreshold :=
  congrArg (·.liquidationThreshold) same.getParams

theorem getReserveFactor (same : r.SameButFlags mayDiffer r') :
    r'.configuration.getReserveFactor = r.configuration.getReserveFactor :=
  congrArg (·.reserveFactor) same.getParams

theorem getActive (same : r.SameButFlags mayDiffer r') :
    r'.configuration.getActive = r.configuration.getActive := by
  obtain ⟨_, _, active, _⟩ := same
  exact active

theorem isActive (same : r.SameButFlags mayDiffer r') :
    r'.configuration.getFlags.isActive = r.configuration.getFlags.isActive := same.getActive

theorem id (same : r.SameButFlags mayDiffer r') : r'.id = r.id := by
  cases same
  rfl

theorem elTokenAddress (same : r.SameButFlags mayDiffer r') :
    r'.elTokenAddress = r.elTokenAddress := by
  cases same
  rfl

theorem elToken (same : r.SameButFlags mayDiffer r') : r'.elToken = r.elToken := by
  cases same
  rfl

theorem stableDebtToken (same : r.SameButFlags mayDiffer r') :
    r'.stableDebtToken = r.stableDebtToken := by
  cases same
  rfl

theorem variableDebtToken (same : r.SameButFlags mayDiffer r') :
    r'.variableDebtToken = r.variableDebtToken := by
  cases same
  rfl

theorem liquidityIndex (same : r.SameButFlags mayDiffer r') :
    r'.liquidityIndex = r.liquidityIndex := by
  cases same
  rfl

theorem variableBorrowIndex (same : r.SameButFlags mayDiffer r') :
    r'.variableBorrowIndex = r.variableBorrowIndex := by
  cases same
  rfl

theorem currentStableBorrowRate (same : r.SameButFlags mayDiffer r') :
    r'.currentStableBorrowRate = r.currentStableBorrowRate := by
  cases same
  rfl

theorem currentVariableBorrowRate (same : r.SameButFlags mayDiffer r') :
    r'.currentVariableBorrowRate = r.currentVariableBorrowRate := by
  cases same
  rfl

theorem getNormalizedIncome (same : r.SameButFlags mayDiffer r') :
    r'.getNormalizedIncome t = r.getNormalizedIncome t := by
  cases same
  rfl

theorem elTokenBalanceOf (same : r.SameButFlags mayDiffer r') :
    r'.elTokenBalanceOf u = r.elTokenBalanceOf u := by
  cases same
  rfl

theorem stableDebtBalanceOf (same : r.SameButFlags mayDiffer r') :
    r'.stableDebtBalanceOf t u = r.stableDebtBalanceOf t u := by
  cases same
  rfl

theorem variableDebtBalanceOf (same : r.SameButFlags mayDiffer r') :
    r'.variableDebtBalanceOf t u = r.variableDebtBalanceOf t u := by
  cases same
  rfl

theorem getUserCurrentDebt (same : r.SameButFlags mayDiffer r') :
    r'.getUserCurrentDebt t u = r.getUserCurrentDebt t u := by
  cases same
  rfl

theorem validateRebalanceStableBorrowRate (same : r.SameButFlags mayDiffer r') {balance : Nat} :
    ElectroLend.validateRebalanceStableBorrowRate r' t balance =
      ElectroLend.validateRebalanceStableBorrowRate r t balance := by
  have active := same.isActive
  obtain ⟨c, _, _, _⟩ := same
  unfold ElectroLend.validateRebalanceStableBorrowRate
  rw [active]
  rfl

theorem withELToken (same : r.SameButFlags mayDiffer r') (elToken : ELToken) :
    SameButFlags mayDiffer { r with elToken } { r' with elToken } := by
  obtain ⟨c, params, active, flags⟩ := same
  exact .mk c params active flags

theorem withStableDebtToken (same : r.SameButFlags mayDiffer r')
    (stableDebtToken : StableDebtToken) :
    SameButFlags mayDiffer { r with stableDebtToken } { r' with stableDebtToken } := by
  obtain ⟨c, params, active, flags⟩ := same
  exact .mk c params active flags

theorem withVariableDebtToken (same : r.SameButFlags mayDiffer r')
    (variableDebtToken : VariableDebtToken) :
    SameButFlags mayDiffer { r with variableDebtToken } { r' with variableDebtToken } := by
  obtain ⟨c, params, active, flags⟩ := same
  exact .mk c params active flags

theorem withConfiguration (same : r.SameButFlags mayDiffer r')
    (configuration : ReserveConfigurationMap) :
    SameButFlags mayDiffer { r with configuration } { r' with configuration } := by
  obtain ⟨c, params, active, flags⟩ := same
  exact .refl _

theorem withStrategy (same : r.SameButFlags mayDiffer r')
    (interestRateStrategy : DefaultReserveInterestRateStrategy) :
    SameButFlags mayDiffer { r with interestRateStrategy } { r' with interestRateStrategy } := by
  obtain ⟨c, params, active, flags⟩ := same
  exact .mk c params active flags

theorem withId (same : r.SameButFlags mayDiffer r') (id : Nat) :
    SameButFlags mayDiffer { r with id } { r' with id } := by
  obtain ⟨c, params, active, flags⟩ := same
  exact .mk c params active flags

theorem init (same : r.SameButFlags mayDiffer r') {elTokenAddress stable variableDebt : Address}
    {elToken : ELToken} {stableDebtToken : StableDebtToken} {variableDebtToken : VariableDebtToken}
    {strategy : DefaultReserveInterestRateStrategy} : Alike (SameButFlags mayDiffer)
      (r.init elTokenAddress stable variableDebt elToken stableDebtToken variableDebtToken strategy)
      (r'.init elTokenAddress stable variableDebt elToken stableDebtToken variableDebtToken
        strategy) := by
  obtain ⟨c, params, active, flags⟩ := same
  exact .same fun _ => .ok (.mk c params active flags)

theorem updateIndexes (same : r.SameButFlags mayDiffer r') :
    Alike (SameButFlags mayDiffer) (r.updateIndexes t) (r'.updateIndexes t) := by
  obtain ⟨c, params, active, flags⟩ := same
  refine .same fun liquidityIndex => .same fun elToken => .same fun variableBorrowIndex => ?_
  exact .ok (.mk c params active flags)

theorem mintToTreasury (same : r.SameButFlags mayDiffer r') {index timestamp : Nat} :
    r'.mintToTreasury t index timestamp = r.mintToTreasury t index timestamp := by
  have factor := same.getReserveFactor
  obtain ⟨c, _, _, _⟩ := same
  simp only [Reserve.mintToTreasury, factor]

theorem updateState (same : r.SameButFlags mayDiffer r') :
    Alike (SameButFlags mayDiffer) (r.updateState t) (r'.updateState t) := by
  have indexes := same.updateIndexes (t := t)
  obtain ⟨c, params, active, flags⟩ := same
  refine .same fun _ => indexes.bind fun r₁ r₁' same₁ => ?_
  refine (Alike.of_eq same₁.mintToTreasury.symm).bind fun elToken _ he => ?_
  subst he
  obtain ⟨c₁, params₁, active₁, flags₁⟩ := same₁
  exact .ok (.mk c₁ params₁ active₁ flags₁)

theorem updateInterestRates (same : r.SameButFlags mayDiffer r') {m balance added taken : Nat} :
    Alike (SameButFlags mayDiffer) (r.updateInterestRates t m balance added taken)
      (r'.updateInterestRates t m balance added taken) := by
  have factor := same.getReserveFactor
  obtain ⟨c, params, active, flags⟩ := same
  have rates : Reserve.calculateInterestRates { r with configuration := c } t m balance added taken =
      r.calculateInterestRates t m balance added taken := by
    simp only [Reserve.calculateInterestRates, factor]
  refine (Alike.of_eq rates.symm).bind fun answer _ he => ?_
  subst he
  refine .same fun _ => .same fun _ => .same fun _ => ?_
  exact .ok (.mk c params active flags)

end Reserve.SameButFlags

namespace LendingPool

inductive SameButFlags (asset : Address) (pool : LendingPool) : LendingPool → Prop
  | mk (reserves : Address → Reserve)
      (same : ∀ a, (pool.reserves a).SameButFlags (a = asset) (reserves a)) :
      SameButFlags asset pool { pool with reserves }

/-- The same of two results whose second part is the pool. -/
inductive AnswerButFlags {α : Type} (asset : Address) : α × LendingPool → α × LendingPool → Prop
  | mk (answer : α) {pool pool' : LendingPool} (same : pool.SameButFlags asset pool') :
      AnswerButFlags asset (answer, pool) (answer, pool')

namespace SameButFlags

variable {pool pool' : LendingPool} {asset a u v : Address} {t amount : Nat}

theorem reserve (same : pool.SameButFlags asset pool') (a : Address) :
    (pool.reserves a).SameButFlags (a = asset) (pool'.reserves a) := by
  obtain ⟨_, same⟩ := same
  exact same a

theorem usersConfig (same : pool.SameButFlags asset pool') :
    pool'.usersConfig = pool.usersConfig := by
  cases same
  rfl

theorem whenNotPaused (same : pool.SameButFlags asset pool') :
    pool'.whenNotPaused = pool.whenNotPaused := by
  cases same
  rfl

theorem tokens (same : pool.SameButFlags asset pool') : pool'.tokens = pool.tokens := by
  cases same
  rfl

theorem priceOracle (same : pool.SameButFlags asset pool') :
    pool'.priceOracle = pool.priceOracle := by
  cases same
  rfl

theorem underlyingBalance (same : pool.SameButFlags asset pool') :
    pool'.underlyingBalance a = pool.underlyingBalance a := by
  have address := (same.reserve a).elTokenAddress
  cases same
  exact congrArg (pool.tokens a).balanceOf address

theorem setReserve (same : pool.SameButFlags asset pool') {r r' : Reserve}
    (stored : r.SameButFlags (a = asset) r') :
    (pool.setReserve a r).SameButFlags asset (pool'.setReserve a r') := by
  obtain ⟨reserves, same⟩ := same
  refine .mk _ fun b => ?_
  by_cases hb : b = a
  · subst hb
    simpa using stored
  · simpa [hb] using same b

theorem setToken (same : pool.SameButFlags asset pool') {token : ERC20} :
    (pool.setToken a token).SameButFlags asset (pool'.setToken a token) := by
  obtain ⟨reserves, same⟩ := same
  exact .mk _ same

theorem withList (same : pool.SameButFlags asset pool') (reservesList : Nat → Address)
    (reservesCount : Nat) : SameButFlags asset { pool with reservesList, reservesCount }
      { pool' with reservesList, reservesCount } := by
  obtain ⟨reserves, same⟩ := same
  exact .mk _ same

theorem updateState (same : pool.SameButFlags asset pool') :
    Alike (SameButFlags asset) (pool.updateState t a) (pool'.updateState t a) :=
  (same.reserve a).updateState.bind fun _ _ stored => .ok (same.setReserve stored)

theorem updateInterestRates (same : pool.SameButFlags asset pool') {elToken : Address}
    {added taken : Nat} : Alike (SameButFlags asset)
      (pool.updateInterestRates t a elToken added taken)
      (pool'.updateInterestRates t a elToken added taken) := by
  have reserve := same.reserve a
  have stored := fun r r' (h : Reserve.SameButFlags (a = asset) r r') => same.setReserve h
  cases same
  exact reserve.updateInterestRates.bind fun _ _ h => .ok (stored _ _ h)

theorem updateUserConfig (same : pool.SameButFlags asset pool')
    {change : UserConfigurationMap → Result UserConfigurationMap} : Alike (SameButFlags asset)
      (pool.updateUserConfig u change) (pool'.updateUserConfig u change) := by
  obtain ⟨reserves, same⟩ := same
  exact .same fun _ => .ok (.mk _ same)

theorem setUsingAsCollateral (same : pool.SameButFlags asset pool') {i : Nat} {value : Bool} :
    Alike (SameButFlags asset) (pool.setUsingAsCollateral u i value)
      (pool'.setUsingAsCollateral u i value) := same.updateUserConfig

theorem setBorrowing (same : pool.SameButFlags asset pool') {i : Nat} {value : Bool} :
    Alike (SameButFlags asset) (pool.setBorrowing u i value) (pool'.setBorrowing u i value) :=
  same.updateUserConfig

theorem pullUnderlying (same : pool.SameButFlags asset pool') :
    Alike (SameButFlags asset) (pool.pullUnderlying a u v amount)
      (pool'.pullUnderlying a u v amount) := by
  obtain ⟨reserves, same⟩ := same
  exact .same fun _ => .ok (.mk _ same)

theorem transferUnderlyingTo (same : pool.SameButFlags asset pool') :
    Alike (SameButFlags asset) (pool.transferUnderlyingTo a u v amount)
      (pool'.transferUnderlyingTo a u v amount) := by
  obtain ⟨reserves, same⟩ := same
  exact .same fun _ => .ok (.mk _ same)

theorem mintELToken (same : pool.SameButFlags asset pool') :
    Alike (AnswerButFlags asset) (pool.mintELToken a u amount) (pool'.mintELToken a u amount) := by
  unfold LendingPool.mintELToken
  simp only [(same.reserve a).elToken, (same.reserve a).liquidityIndex]
  exact .same fun _ => .ok (.mk _ (same.setReserve ((same.reserve a).withELToken _)))

theorem burnELToken (same : pool.SameButFlags asset pool') :
    Alike (SameButFlags asset) (pool.burnELToken a u v amount)
      (pool'.burnELToken a u v amount) := by
  unfold LendingPool.burnELToken
  simp only [same.tokens, (same.reserve a).elToken, (same.reserve a).elTokenAddress,
    (same.reserve a).liquidityIndex]
  refine .same fun _ => .ok ?_
  exact (same.setReserve ((same.reserve a).withELToken _)).setToken

theorem mintVariableDebt (same : pool.SameButFlags asset pool') {index : Nat} :
    Alike (AnswerButFlags asset) (pool.mintVariableDebt a u v amount index)
      (pool'.mintVariableDebt a u v amount index) := by
  unfold LendingPool.mintVariableDebt
  simp only [(same.reserve a).variableDebtToken]
  exact .same fun _ => .ok (.mk _ (same.setReserve ((same.reserve a).withVariableDebtToken _)))

theorem burnVariableDebt (same : pool.SameButFlags asset pool') :
    Alike (SameButFlags asset) (pool.burnVariableDebt a u amount)
      (pool'.burnVariableDebt a u amount) := by
  unfold LendingPool.burnVariableDebt
  simp only [(same.reserve a).variableDebtToken, (same.reserve a).variableBorrowIndex]
  exact .same fun _ => .ok (same.setReserve ((same.reserve a).withVariableDebtToken _))

theorem mintStableDebt (same : pool.SameButFlags asset pool') :
    Alike (AnswerButFlags asset) (pool.mintStableDebt t a u v amount)
      (pool'.mintStableDebt t a u v amount) := by
  unfold LendingPool.mintStableDebt
  simp only [(same.reserve a).stableDebtToken, (same.reserve a).currentStableBorrowRate]
  exact .same fun _ => .ok (.mk _ (same.setReserve ((same.reserve a).withStableDebtToken _)))

theorem burnStableDebt (same : pool.SameButFlags asset pool') :
    Alike (SameButFlags asset) (pool.burnStableDebt t a u amount)
      (pool'.burnStableDebt t a u amount) := by
  unfold LendingPool.burnStableDebt
  simp only [(same.reserve a).stableDebtToken]
  exact .same fun _ => .ok (same.setReserve ((same.reserve a).withStableDebtToken _))

theorem calculateUserAccountData (same : pool.SameButFlags asset pool')
    {config : UserConfigurationMap} :
    pool'.calculateUserAccountData t u config = pool.calculateUserAccountData t u config := by
  have reserve := same.reserve
  have list : pool'.reservesList = pool.reservesList ∧ pool'.reservesCount = pool.reservesCount ∧
      pool'.priceOracle = pool.priceOracle := by
    cases same
    exact ⟨rfl, rfl, rfl⟩
  obtain ⟨list, count, prices⟩ := list
  have collateral : ∀ i vars, pool'.addCollateral u config i vars =
      pool.addCollateral u config i vars := by
    intro i vars
    simp only [addCollateral, list, prices, (reserve _).getParams, (reserve _).elTokenBalanceOf]
  have debt : ∀ i vars, pool'.addDebt t u config i vars = pool.addDebt t u config i vars := by
    intro i vars
    simp only [addDebt, list, prices, (reserve _).getParams, (reserve _).stableDebtBalanceOf,
      (reserve _).variableDebtBalanceOf]
  have step : pool'.addReserve t u config = pool.addReserve t u config := by
    funext vars i
    simp only [addReserve, collateral, debt]
  simp only [LendingPool.calculateUserAccountData, count, step]

theorem balanceDecreaseAllowed (same : pool.SameButFlags asset pool')
    {config : UserConfigurationMap} : pool'.balanceDecreaseAllowed t a u amount config =
      pool.balanceDecreaseAllowed t a u amount config := by
  simp only [LendingPool.balanceDecreaseAllowed, collateralDecreaseAllowed, (same.reserve a).id,
    (same.reserve a).getParams, same.calculateUserAccountData, same.priceOracle]

theorem swapDebt (same : pool.SameButFlags asset pool') {stableDebt variableDebt : Nat}
    {mode : InterestRateMode} : Alike (AnswerButFlags asset)
      (pool.swapDebt t a u stableDebt variableDebt mode)
      (pool'.swapDebt t a u stableDebt variableDebt mode) := by
  refine .ite (fun _ => ?_) (fun _ => ?_)
  · refine same.burnStableDebt.bind fun pool₁ pool₁' same₁ => ?_
    rw [(same₁.reserve a).variableBorrowIndex]
    exact same₁.mintVariableDebt
  · exact same.burnVariableDebt.bind fun _ _ same₁ => same₁.mintStableDebt

theorem mintDebt (same : pool.SameButFlags asset pool') {vars : ExecuteBorrowParams} :
    Alike (AnswerButFlags asset) (pool.mintDebt t vars) (pool'.mintDebt t vars) := by
  refine .same fun mode => .ite (fun _ => same.mintStableDebt) (fun _ => ?_)
  rw [(same.reserve vars.asset).variableBorrowIndex]
  exact same.mintVariableDebt

theorem burnDebt (same : pool.SameButFlags asset pool') {mode : InterestRateMode} :
    Alike (SameButFlags asset) (pool.burnDebt t a u amount mode)
      (pool'.burnDebt t a u amount mode) :=
  .ite (fun _ => same.burnStableDebt) (fun _ => same.burnVariableDebt)

theorem deposit (same : pool.SameButFlags asset pool') (other : a ≠ asset) :
    Alike (SameButFlags asset) (pool.deposit t u a amount v) (pool'.deposit t u a amount v) := by
  unfold LendingPool.deposit
  simp only [same.whenNotPaused, validateDeposit, (same.reserve a).configuration_eq other,
    (same.reserve a).elTokenAddress]
  refine .same fun _ => .same fun _ => same.updateState.bind fun _ _ same₁ => ?_
  refine same₁.updateInterestRates.bind fun _ _ same₂ => same₂.pullUnderlying.bind fun _ _ same₃ => ?_
  refine same₃.mintELToken.bind fun _ _ answer => ?_
  obtain ⟨first, same₄⟩ := answer
  simp only [(same₄.reserve a).id]
  exact .ite (fun _ => same₄.setUsingAsCollateral) (fun _ => .ok same₄)

theorem withdraw (same : pool.SameButFlags asset pool') :
    Alike (AnswerButFlags asset) (pool.withdraw t u a amount v)
      (pool'.withdraw t u a amount v) := by
  unfold LendingPool.withdraw
  simp only [same.whenNotPaused, validateWithdraw, same.balanceDecreaseAllowed, same.usersConfig,
    (same.reserve a).isActive, (same.reserve a).elTokenAddress, (same.reserve a).elTokenBalanceOf]
  refine .same fun _ => .same fun balance => .same fun _ => ?_
  refine same.updateState.bind fun _ _ same₁ => same₁.updateInterestRates.bind fun _ _ same₂ => ?_
  simp only [(same₂.reserve a).id]
  refine Alike.bind (.ite (fun _ => same₂.setUsingAsCollateral) (fun _ => .ok same₂)) ?_
  intro _ _ same₃
  exact same₃.burnELToken.bind fun _ _ same₄ => .ok (.mk _ same₄)

theorem validateBorrow (same : pool.SameButFlags asset pool') (other : a ≠ asset)
    {amountInETH mode : Nat} : pool'.validateBorrow t a u amount amountInETH mode =
      pool.validateBorrow t a u amount amountInETH mode := by
  have limit : pool'.maxStableRateBorrowSizePercent = pool.maxStableRateBorrowSizePercent := by
    cases same
    rfl
  simp only [LendingPool.validateBorrow, validateStableBorrow, validateStableAgainstCollateral,
    (same.reserve a).configuration_eq other, (same.reserve a).id, (same.reserve a).elTokenBalanceOf,
    (same.reserve a).stableDebtBalanceOf, same.underlyingBalance, same.usersConfig, limit,
    same.calculateUserAccountData]

theorem executeBorrow (same : pool.SameButFlags asset pool') {vars : ExecuteBorrowParams}
    (other : vars.asset ≠ asset) :
    Alike (SameButFlags asset) (pool.executeBorrow t vars) (pool'.executeBorrow t vars) := by
  unfold LendingPool.executeBorrow
  simp only [same.priceOracle, same.validateBorrow other, (same.reserve vars.asset).getDecimals]
  refine .same fun _ => .same fun _ => .same fun _ => same.updateState.bind fun _ _ same₁ => ?_
  refine same₁.mintDebt.bind fun _ _ answer => ?_
  obtain ⟨first, same₂⟩ := answer
  simp only [(same₂.reserve vars.asset).id]
  refine Alike.bind (.ite (fun _ => same₂.setBorrowing) (fun _ => .ok same₂)) ?_
  intro _ _ same₃
  refine same₃.updateInterestRates.bind fun _ _ same₄ => ?_
  exact .ite (fun _ => same₄.transferUnderlyingTo) (fun _ => .ok same₄)

theorem borrow (same : pool.SameButFlags asset pool') (other : a ≠ asset) {mode : Nat} :
    Alike (SameButFlags asset) (pool.borrow t u a amount mode v)
      (pool'.borrow t u a amount mode v) := by
  unfold LendingPool.borrow
  simp only [same.whenNotPaused, (same.reserve a).elTokenAddress]
  exact .same fun _ => same.executeBorrow other

theorem repay (same : pool.SameButFlags asset pool') {mode : Nat} :
    Alike (AnswerButFlags asset) (pool.repay t u a amount mode v)
      (pool'.repay t u a amount mode v) := by
  unfold LendingPool.repay
  simp only [same.whenNotPaused, validateRepay, (same.reserve a).getActive,
    (same.reserve a).elTokenAddress, (same.reserve a).getUserCurrentDebt]
  refine .same fun _ => .same fun debts => .same fun _ => .same fun _ => ?_
  refine same.updateState.bind fun _ _ same₁ => same₁.burnDebt.bind fun _ _ same₂ => ?_
  refine same₂.updateInterestRates.bind fun _ _ same₃ => .same fun _ => .same fun _ => ?_
  simp only [(same₃.reserve a).id]
  refine Alike.bind (.ite (fun _ => same₃.setBorrowing) (fun _ => .ok same₃)) ?_
  intro _ _ same₄
  exact same₄.pullUnderlying.bind fun _ _ same₅ => .ok (.mk _ same₅)

theorem swapBorrowRateMode (same : pool.SameButFlags asset pool') (other : a ≠ asset) {mode : Nat} :
    Alike (SameButFlags asset) (pool.swapBorrowRateMode t u a mode)
      (pool'.swapBorrowRateMode t u a mode) := by
  unfold LendingPool.swapBorrowRateMode
  simp only [same.whenNotPaused, validateSwapRateMode, validateStableAgainstCollateral,
    (same.reserve a).configuration_eq other, (same.reserve a).id, (same.reserve a).elTokenBalanceOf,
    same.usersConfig, (same.reserve a).getUserCurrentDebt]
  refine .same fun _ => .same fun debts => .same fun _ => .same fun _ => ?_
  refine same.updateState.bind fun _ _ same₁ => same₁.swapDebt.bind fun _ _ answer => ?_
  obtain ⟨first, same₂⟩ := answer
  simp only [(same₂.reserve a).elTokenAddress]
  exact same₂.updateInterestRates

theorem rebalanceStableBorrowRate (same : pool.SameButFlags asset pool') :
    Alike (SameButFlags asset) (pool.rebalanceStableBorrowRate t a u)
      (pool'.rebalanceStableBorrowRate t a u) := by
  unfold LendingPool.rebalanceStableBorrowRate
  simp only [same.whenNotPaused, same.underlyingBalance, (same.reserve a).elTokenAddress,
    (same.reserve a).stableDebtBalanceOf, (same.reserve a).validateRebalanceStableBorrowRate]
  refine .same fun _ => .same fun debt => .same fun _ => ?_
  refine same.updateState.bind fun _ _ same₁ => same₁.burnStableDebt.bind fun _ _ same₂ => ?_
  simp only [(same₂.reserve a).currentVariableBorrowRate]
  refine same₂.mintVariableDebt.bind fun _ _ answer => ?_
  obtain ⟨first, same₃⟩ := answer
  exact same₃.updateInterestRates

theorem setUserUseReserveAsCollateral (same : pool.SameButFlags asset pool') {value : Bool} :
    Alike (SameButFlags asset) (pool.setUserUseReserveAsCollateral t u a value)
      (pool'.setUserUseReserveAsCollateral t u a value) := by
  unfold LendingPool.setUserUseReserveAsCollateral
  simp only [same.whenNotPaused, validateSetUseReserveAsCollateral, same.balanceDecreaseAllowed,
    same.usersConfig, (same.reserve a).elTokenBalanceOf, (same.reserve a).id]
  exact .same fun _ => .same fun _ => same.setUsingAsCollateral

theorem finalizeTransfer (same : pool.SameButFlags asset pool') {msgSender : Address}
    {beforeFrom beforeTo : Nat} : Alike (SameButFlags asset)
      (pool.finalizeTransfer t msgSender a u v amount beforeFrom beforeTo)
      (pool'.finalizeTransfer t msgSender a u v amount beforeFrom beforeTo) := by
  unfold LendingPool.finalizeTransfer
  simp only [same.whenNotPaused, validateTransfer, same.usersConfig, same.calculateUserAccountData,
    (same.reserve a).elTokenAddress, (same.reserve a).id]
  refine .same fun _ => .same fun _ => .same fun _ => .ite (fun _ => ?_) (fun _ => .ok same)
  refine .same fun left => Alike.bind (.ite (fun _ => same.setUsingAsCollateral) (fun _ => .ok same)) ?_
  intro _ _ same₁
  exact .ite (fun _ => same₁.setUsingAsCollateral) (fun _ => .ok same₁)

theorem transferELToken (same : pool.SameButFlags asset pool') {validate : Bool} :
    Alike (SameButFlags asset) (pool.transferELToken t a u v amount validate)
      (pool'.transferELToken t a u v amount validate) := by
  unfold LendingPool.transferELToken
  simp only [(same.reserve a).getNormalizedIncome, (same.reserve a).elToken,
    (same.reserve a).elTokenAddress]
  refine .same fun _ => .same fun _ => .same fun _ => .same fun _ => .same fun elToken => ?_
  have same₁ := same.setReserve ((same.reserve a).withELToken elToken)
  exact .ite (fun _ => same₁.finalizeTransfer) (fun _ => .ok same₁)

theorem elTokenApprove (same : pool.SameButFlags asset pool') :
    Alike (SameButFlags asset) (pool.elTokenApprove u a v amount)
      (pool'.elTokenApprove u a v amount) := by
  unfold LendingPool.elTokenApprove
  simp only [(same.reserve a).elToken]
  exact .same fun _ => .ok (same.setReserve ((same.reserve a).withELToken _))

theorem elTokenTransfer (same : pool.SameButFlags asset pool') :
    Alike (SameButFlags asset) (pool.elTokenTransfer t u a v amount)
      (pool'.elTokenTransfer t u a v amount) := by
  unfold LendingPool.elTokenTransfer
  simp only [(same.reserve a).elTokenAddress]
  exact .same fun _ => same.transferELToken

theorem elTokenTransferFrom (same : pool.SameButFlags asset pool') {spender : Address} :
    Alike (SameButFlags asset) (pool.elTokenTransferFrom t spender a u v amount)
      (pool'.elTokenTransferFrom t spender a u v amount) := by
  unfold LendingPool.elTokenTransferFrom
  simp only [(same.reserve a).elTokenAddress]
  refine .same fun _ => same.transferELToken.bind fun _ _ same₁ => ?_
  simp only [(same₁.reserve a).elToken]
  exact .same fun _ => .same fun _ => .ok (same₁.setReserve ((same₁.reserve a).withELToken _))

theorem calculateAvailableCollateralToLiquidate (same : pool.SameButFlags asset pool')
    {balance : Nat} : pool'.calculateAvailableCollateralToLiquidate a u amount balance =
      pool.calculateAvailableCollateralToLiquidate a u amount balance := by
  simp only [LendingPool.calculateAvailableCollateralToLiquidate, debtNeededForCollateral,
    (same.reserve _).getParams, (same.reserve _).getDecimals, same.priceOracle]

theorem seizeCollateral (same : pool.SameButFlags asset pool') {receiveLToken : Bool} :
    Alike (SameButFlags asset) (pool.seizeCollateral t u a v amount receiveLToken)
      (pool'.seizeCollateral t u a v amount receiveLToken) := by
  refine .ite (fun _ => ?_) (fun _ => ?_)
  · unfold seizeELToken
    simp only [(same.reserve a).elToken]
    refine same.transferELToken.bind fun _ _ same₁ => ?_
    simp only [(same₁.reserve a).id]
    exact .ite (fun _ => same₁.setUsingAsCollateral) (fun _ => .ok same₁)
  · unfold seizeUnderlying
    simp only [(same.reserve a).elTokenAddress]
    refine same.updateState.bind fun _ _ same₁ => ?_
    exact same₁.updateInterestRates.bind fun _ _ same₂ => same₂.burnELToken

theorem burnLiquidatedDebt (same : pool.SameButFlags asset pool') {debt : Nat} :
    Alike (SameButFlags asset) (pool.burnLiquidatedDebt t a u debt amount)
      (pool'.burnLiquidatedDebt t a u debt amount) := by
  refine .ite (fun _ => same.burnVariableDebt) (fun _ => ?_)
  refine Alike.bind (.ite (fun _ => same.burnVariableDebt) (fun _ => .ok same)) ?_
  intro _ _ same₁
  exact .same fun _ => same₁.burnStableDebt

theorem liquidationCall (same : pool.SameButFlags asset pool') {collateralAsset debtAsset : Address}
    {receiveLToken : Bool} : Alike (SameButFlags asset)
      (pool.liquidationCall t u collateralAsset debtAsset v amount receiveLToken)
      (pool'.liquidationCall t u collateralAsset debtAsset v amount receiveLToken) := by
  unfold LendingPool.liquidationCall liquidatePosition validateLiquidationCall
  simp only [same.whenNotPaused, same.usersConfig, same.calculateUserAccountData,
    (same.reserve _).getActive, (same.reserve _).getLiquidationThreshold, (same.reserve _).id,
    (same.reserve _).elTokenAddress, (same.reserve _).getUserCurrentDebt,
    (same.reserve _).elTokenBalanceOf, same.calculateAvailableCollateralToLiquidate,
    same.underlyingBalance]
  refine .same fun _ => Alike.mapError ?_ liquidationError
  refine .same fun account => .same fun debts => .same fun _ => .same fun balance => ?_
  refine .same fun _ => .same fun _ => .same fun available => .same fun _ => ?_
  refine same.updateState.bind fun _ _ same₁ => same₁.burnLiquidatedDebt.bind fun _ _ same₂ => ?_
  refine same₂.updateInterestRates.bind fun _ _ same₃ => same₃.seizeCollateral.bind fun _ _ same₄ => ?_
  simp only [(same₄.reserve _).id]
  refine Alike.bind (.ite (fun _ => same₄.setUsingAsCollateral) (fun _ => .ok same₄)) ?_
  intro _ _ same₅
  exact same₅.pullUnderlying

theorem approveStableDelegation (same : pool.SameButFlags asset pool') :
    (pool.approveStableDelegation u a v amount).SameButFlags asset
      (pool'.approveStableDelegation u a v amount) := by
  unfold LendingPool.approveStableDelegation
  simp only [(same.reserve a).stableDebtToken]
  exact same.setReserve ((same.reserve a).withStableDebtToken _)

theorem approveVariableDelegation (same : pool.SameButFlags asset pool') :
    (pool.approveVariableDelegation u a v amount).SameButFlags asset
      (pool'.approveVariableDelegation u a v amount) := by
  unfold LendingPool.approveVariableDelegation
  simp only [(same.reserve a).variableDebtToken]
  exact same.setReserve ((same.reserve a).withVariableDebtToken _)

theorem callToken (same : pool.SameButFlags asset pool') (change : ERC20 → Result ERC20) :
    Alike (SameButFlags asset) (pool.callToken a change) (pool'.callToken a change) := by
  unfold LendingPool.callToken
  rw [same.tokens]
  exact .same fun _ => .ok same.setToken

theorem setConfiguration (same : pool.SameButFlags asset pool')
    (configuration : ReserveConfigurationMap) :
    (pool.setConfiguration a configuration).SameButFlags asset
      (pool'.setConfiguration a configuration) :=
  same.setReserve ((same.reserve a).withConfiguration configuration)

theorem setReserveInterestRateStrategy (same : pool.SameButFlags asset pool')
    (strategy : DefaultReserveInterestRateStrategy) :
    (pool.setReserveInterestRateStrategy a strategy).SameButFlags asset
      (pool'.setReserveInterestRateStrategy a strategy) :=
  same.setReserve ((same.reserve a).withStrategy strategy)

theorem addReserveToList (same : pool.SameButFlags asset pool') :
    Alike (SameButFlags asset) (pool.addReserveToList a) (pool'.addReserveToList a) := by
  have list : pool'.reservesList = pool.reservesList ∧ pool'.reservesCount = pool.reservesCount ∧
      pool'.maxNumberOfReserves = pool.maxNumberOfReserves := by
    cases same
    exact ⟨rfl, rfl, rfl⟩
  obtain ⟨list, count, limit⟩ := list
  unfold LendingPool.addReserveToList
  simp only [list, count, limit, (same.reserve a).id]
  refine .same fun _ => .ite (fun _ => .same fun _ => .ok same) (fun _ => .ok ?_)
  exact (same.setReserve ((same.reserve a).withId (uint8 pool.reservesCount))).withList _ _

theorem listReserve (same : pool.SameButFlags asset pool') {input : InitReserveInput}
    (other : input.underlyingAsset ≠ asset) :
    Alike (SameButFlags asset) (pool.listReserve input) (pool'.listReserve input) := by
  have code : pool'.isContract = pool.isContract := by
    cases same
    rfl
  unfold LendingPool.listReserve initReserve
  simp only [code]
  refine .same fun _ => .same fun _ => .same fun _ => Alike.bind (R := SameButFlags asset) ?_ ?_
  · refine .same fun _ => (same.reserve _).init.bind fun _ _ stored => ?_
    exact (same.setReserve stored).addReserveToList
  · intro _ _ same₁
    simp only [(same₁.reserve _).configuration_eq other]
    exact .same fun _ => .ok (same₁.setConfiguration _)

end SameButFlags

end LendingPool

end ElectroLend
