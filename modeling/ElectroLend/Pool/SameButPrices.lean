import ElectroLend.Library.TwoRuns
import ElectroLend.Pool.Steps

namespace ElectroLend

open Outcome

namespace LendingPool

inductive SameButPrices (pool : LendingPool) : LendingPool → Prop
  | mk (priceOracle : Address → Nat) : SameButPrices pool { pool with priceOracle }

/-- The same of two results whose second part is the pool. -/
inductive AnswerButPrices {α : Type} : α × LendingPool → α × LendingPool → Prop
  | mk (answer : α) {pool pool' : LendingPool} (same : pool.SameButPrices pool') :
      AnswerButPrices (answer, pool) (answer, pool')

/-- An account may take an asset out of its collateral without a look at what it is worth: it
borrows nothing, or the asset does not back what it borrows. -/
def Exempt (pool : LendingPool) (asset user : Address) : Prop :=
  (pool.usersConfig user).isBorrowingAny = false ∨
    (pool.usersConfig user).isUsingAsCollateral (pool.reserves asset).id = .ok false ∨
    (pool.reserves asset).configuration.getParams.liquidationThreshold = 0

namespace SameButPrices

variable {pool pool' : LendingPool} {a u v : Address} {t amount : Nat}

theorem reserves (same : pool.SameButPrices pool') : pool'.reserves = pool.reserves := by
  cases same
  rfl

theorem usersConfig (same : pool.SameButPrices pool') : pool'.usersConfig = pool.usersConfig := by
  cases same
  rfl

theorem whenNotPaused (same : pool.SameButPrices pool') :
    pool'.whenNotPaused = pool.whenNotPaused := by
  cases same
  rfl

theorem underlyingBalance (same : pool.SameButPrices pool') :
    pool'.underlyingBalance a = pool.underlyingBalance a := by
  cases same
  rfl

theorem setPrices (same : pool.SameButPrices pool') (priceOracle : Address → Nat) :
    SameButPrices { pool with priceOracle } pool' := by
  obtain ⟨prices⟩ := same
  exact .mk prices

theorem updateState (same : pool.SameButPrices pool') :
    Alike SameButPrices (pool.updateState t a) (pool'.updateState t a) := by
  obtain ⟨prices⟩ := same
  exact .same fun _ => .ok (.mk prices)

theorem updateInterestRates (same : pool.SameButPrices pool') {elToken : Address}
    {added taken : Nat} : Alike SameButPrices (pool.updateInterestRates t a elToken added taken)
      (pool'.updateInterestRates t a elToken added taken) := by
  obtain ⟨prices⟩ := same
  exact .same fun _ => .ok (.mk prices)

theorem updateUserConfig (same : pool.SameButPrices pool')
    {change : UserConfigurationMap → Result UserConfigurationMap} :
    Alike SameButPrices (pool.updateUserConfig u change) (pool'.updateUserConfig u change) := by
  obtain ⟨prices⟩ := same
  exact .same fun _ => .ok (.mk prices)

theorem setUsingAsCollateral (same : pool.SameButPrices pool') {i : Nat} {value : Bool} :
    Alike SameButPrices (pool.setUsingAsCollateral u i value)
      (pool'.setUsingAsCollateral u i value) := same.updateUserConfig

theorem setBorrowing (same : pool.SameButPrices pool') {i : Nat} {value : Bool} :
    Alike SameButPrices (pool.setBorrowing u i value) (pool'.setBorrowing u i value) :=
  same.updateUserConfig

theorem pullUnderlying (same : pool.SameButPrices pool') :
    Alike SameButPrices (pool.pullUnderlying a u v amount) (pool'.pullUnderlying a u v amount) := by
  obtain ⟨prices⟩ := same
  exact .same fun _ => .ok (.mk prices)

theorem mintELToken (same : pool.SameButPrices pool') :
    Alike AnswerButPrices (pool.mintELToken a u amount) (pool'.mintELToken a u amount) := by
  obtain ⟨prices⟩ := same
  exact .same fun _ => .ok (.mk _ (.mk prices))

theorem burnELToken (same : pool.SameButPrices pool') :
    Alike SameButPrices (pool.burnELToken a u v amount) (pool'.burnELToken a u v amount) := by
  obtain ⟨prices⟩ := same
  exact .same fun _ => .ok (.mk prices)

theorem mintVariableDebt (same : pool.SameButPrices pool') {index : Nat} :
    Alike AnswerButPrices (pool.mintVariableDebt a u v amount index)
      (pool'.mintVariableDebt a u v amount index) := by
  obtain ⟨prices⟩ := same
  exact .same fun _ => .ok (.mk _ (.mk prices))

theorem burnVariableDebt (same : pool.SameButPrices pool') :
    Alike SameButPrices (pool.burnVariableDebt a u amount)
      (pool'.burnVariableDebt a u amount) := by
  obtain ⟨prices⟩ := same
  exact .same fun _ => .ok (.mk prices)

theorem mintStableDebt (same : pool.SameButPrices pool') :
    Alike AnswerButPrices (pool.mintStableDebt t a u v amount)
      (pool'.mintStableDebt t a u v amount) := by
  obtain ⟨prices⟩ := same
  exact .same fun _ => .ok (.mk _ (.mk prices))

theorem burnStableDebt (same : pool.SameButPrices pool') :
    Alike SameButPrices (pool.burnStableDebt t a u amount)
      (pool'.burnStableDebt t a u amount) := by
  obtain ⟨prices⟩ := same
  exact .same fun _ => .ok (.mk prices)

theorem balanceDecreaseAllowed (same : pool.SameButPrices pool') (exempt : pool.Exempt a u) :
    pool'.balanceDecreaseAllowed t a u amount (pool.usersConfig u) =
      pool.balanceDecreaseAllowed t a u amount (pool.usersConfig u) := by
  unfold LendingPool.balanceDecreaseAllowed collateralDecreaseAllowed
  rw [same.reserves]
  obtain debtless | unused | threshold := exempt
  · simp only [debtless, Bool.not_false, if_true]
  · simp only [unused, ok_bind, Bool.not_false, if_true]
  · simp only [threshold, if_true]

theorem swapDebt (same : pool.SameButPrices pool') {stableDebt variableDebt : Nat}
    {mode : InterestRateMode} : Alike AnswerButPrices
      (pool.swapDebt t a u stableDebt variableDebt mode)
      (pool'.swapDebt t a u stableDebt variableDebt mode) := by
  refine .ite (fun _ => ?_) (fun _ => ?_)
  · refine same.burnStableDebt.bind fun pool₁ pool₁' same₁ => ?_
    rw [same₁.reserves]
    exact same₁.mintVariableDebt
  · exact same.burnVariableDebt.bind fun _ _ same₁ => same₁.mintStableDebt

theorem burnDebt (same : pool.SameButPrices pool') {mode : InterestRateMode} :
    Alike SameButPrices (pool.burnDebt t a u amount mode) (pool'.burnDebt t a u amount mode) :=
  .ite (fun _ => same.burnStableDebt) (fun _ => same.burnVariableDebt)

theorem deposit (same : pool.SameButPrices pool') :
    Alike SameButPrices (pool.deposit t u a amount v) (pool'.deposit t u a amount v) := by
  unfold LendingPool.deposit
  simp only [same.whenNotPaused, same.reserves]
  refine .same fun _ => .same fun _ => same.updateState.bind fun _ _ same₁ => ?_
  refine same₁.updateInterestRates.bind fun _ _ same₂ => same₂.pullUnderlying.bind fun _ _ same₃ => ?_
  refine same₃.mintELToken.bind fun _ _ answer => ?_
  obtain ⟨first, same₄⟩ := answer
  simp only [same₄.reserves]
  exact .ite (fun _ => same₄.setUsingAsCollateral) (fun _ => .ok same₄)

theorem withdraw (same : pool.SameButPrices pool') (exempt : pool.Exempt a u) :
    Alike AnswerButPrices (pool.withdraw t u a amount v) (pool'.withdraw t u a amount v) := by
  unfold LendingPool.withdraw
  simp only [same.whenNotPaused, validateWithdraw, same.usersConfig,
    same.balanceDecreaseAllowed exempt, same.reserves]
  refine .same fun _ => .same fun balance => .same fun _ => ?_
  refine same.updateState.bind fun _ _ same₁ => same₁.updateInterestRates.bind fun _ _ same₂ => ?_
  simp only [same₂.reserves]
  refine Alike.bind (.ite (fun _ => same₂.setUsingAsCollateral) (fun _ => .ok same₂)) ?_
  intro _ _ same₃
  exact same₃.burnELToken.bind fun _ _ same₄ => .ok (.mk _ same₄)

theorem repay (same : pool.SameButPrices pool') {mode : Nat} :
    Alike AnswerButPrices (pool.repay t u a amount mode v)
      (pool'.repay t u a amount mode v) := by
  unfold LendingPool.repay
  simp only [same.whenNotPaused, same.reserves]
  refine .same fun _ => .same fun debts => .same fun _ => .same fun _ => ?_
  refine same.updateState.bind fun _ _ same₁ => same₁.burnDebt.bind fun _ _ same₂ => ?_
  refine same₂.updateInterestRates.bind fun _ _ same₃ => .same fun _ => .same fun _ => ?_
  simp only [same₃.reserves]
  refine Alike.bind (.ite (fun _ => same₃.setBorrowing) (fun _ => .ok same₃)) ?_
  intro _ _ same₄
  exact same₄.pullUnderlying.bind fun _ _ same₅ => .ok (.mk _ same₅)

theorem swapBorrowRateMode (same : pool.SameButPrices pool') {mode : Nat} :
    Alike SameButPrices (pool.swapBorrowRateMode t u a mode)
      (pool'.swapBorrowRateMode t u a mode) := by
  unfold LendingPool.swapBorrowRateMode
  simp only [same.whenNotPaused, same.usersConfig, same.reserves]
  refine .same fun _ => .same fun debts => .same fun _ => .same fun _ => ?_
  refine same.updateState.bind fun _ _ same₁ => same₁.swapDebt.bind fun _ _ answer => ?_
  obtain ⟨first, same₂⟩ := answer
  simp only [same₂.reserves]
  exact same₂.updateInterestRates

theorem rebalanceStableBorrowRate (same : pool.SameButPrices pool') :
    Alike SameButPrices (pool.rebalanceStableBorrowRate t a u)
      (pool'.rebalanceStableBorrowRate t a u) := by
  unfold LendingPool.rebalanceStableBorrowRate
  simp only [same.whenNotPaused, same.underlyingBalance, same.reserves]
  refine .same fun _ => .same fun debt => .same fun _ => ?_
  refine same.updateState.bind fun _ _ same₁ => same₁.burnStableDebt.bind fun _ _ same₂ => ?_
  simp only [same₂.reserves]
  refine same₂.mintVariableDebt.bind fun _ _ answer => ?_
  obtain ⟨first, same₃⟩ := answer
  exact same₃.updateInterestRates

theorem setUserUseReserveAsCollateral (same : pool.SameButPrices pool') {value : Bool}
    (exempt : value = false → pool.Exempt a u) :
    Alike SameButPrices (pool.setUserUseReserveAsCollateral t u a value)
      (pool'.setUserUseReserveAsCollateral t u a value) := by
  have validated : pool'.validateSetUseReserveAsCollateral t u a value =
      pool.validateSetUseReserveAsCollateral t u a value := by
    cases value with
    | true => simp only [validateSetUseReserveAsCollateral, same.reserves, if_true]
    | false => simp only [validateSetUseReserveAsCollateral, same.usersConfig,
        same.balanceDecreaseAllowed (exempt rfl), same.reserves]
  unfold LendingPool.setUserUseReserveAsCollateral
  simp only [same.whenNotPaused, validated, same.reserves]
  exact .same fun _ => .same fun _ => same.setUsingAsCollateral

theorem finalizeTransfer (same : pool.SameButPrices pool') {msgSender : Address}
    {beforeFrom beforeTo : Nat} (empty : (pool.usersConfig u).isEmpty = true) : Alike SameButPrices
      (pool.finalizeTransfer t msgSender a u v amount beforeFrom beforeTo)
      (pool'.finalizeTransfer t msgSender a u v amount beforeFrom beforeTo) := by
  unfold LendingPool.finalizeTransfer validateTransfer calculateUserAccountData
  simp only [same.whenNotPaused, same.usersConfig, same.reserves, empty, if_true]
  refine .same fun _ => .same fun _ => .same fun _ => .ite (fun _ => ?_) (fun _ => .ok same)
  refine .same fun left => Alike.bind (.ite (fun _ => same.setUsingAsCollateral) (fun _ => .ok same)) ?_
  intro _ _ same₁
  exact .ite (fun _ => same₁.setUsingAsCollateral) (fun _ => .ok same₁)

theorem setReserve (same : pool.SameButPrices pool') (r : Reserve) :
    (pool.setReserve a r).SameButPrices (pool'.setReserve a r) := by
  obtain ⟨prices⟩ := same
  exact .mk prices

theorem transferELToken (same : pool.SameButPrices pool')
    (empty : (pool.usersConfig u).isEmpty = true) :
    Alike SameButPrices (pool.transferELToken t a u v amount true)
      (pool'.transferELToken t a u v amount true) := by
  unfold LendingPool.transferELToken
  simp only [same.reserves, if_true]
  refine .same fun _ => .same fun _ => .same fun _ => .same fun _ => .same fun elToken => ?_
  exact (same.setReserve { pool.reserves a with elToken }).finalizeTransfer empty

theorem elTokenTransfer (same : pool.SameButPrices pool')
    (empty : (pool.usersConfig u).isEmpty = true) :
    Alike SameButPrices (pool.elTokenTransfer t u a v amount)
      (pool'.elTokenTransfer t u a v amount) := by
  unfold LendingPool.elTokenTransfer
  rw [same.reserves]
  exact .same fun _ => same.transferELToken empty

theorem elTokenTransferFrom (same : pool.SameButPrices pool') {spender : Address}
    (empty : (pool.usersConfig u).isEmpty = true) :
    Alike SameButPrices (pool.elTokenTransferFrom t spender a u v amount)
      (pool'.elTokenTransferFrom t spender a u v amount) := by
  unfold LendingPool.elTokenTransferFrom
  rw [same.reserves]
  refine .same fun _ => (same.transferELToken empty).bind fun _ _ same₁ => ?_
  simp only [same₁.reserves]
  exact .same fun _ => .same fun _ => .ok (same₁.setReserve _)

theorem elTokenApprove (same : pool.SameButPrices pool') :
    Alike SameButPrices (pool.elTokenApprove u a v amount)
      (pool'.elTokenApprove u a v amount) := by
  obtain ⟨prices⟩ := same
  exact .same fun _ => .ok (.mk prices)

theorem callToken (same : pool.SameButPrices pool') (change : ERC20 → Result ERC20) :
    Alike SameButPrices (pool.callToken a change) (pool'.callToken a change) := by
  obtain ⟨prices⟩ := same
  exact .same fun _ => .ok (.mk prices)

theorem setConfiguration (same : pool.SameButPrices pool') (configuration : ReserveConfigurationMap) :
    (pool.setConfiguration a configuration).SameButPrices
      (pool'.setConfiguration a configuration) := by
  obtain ⟨prices⟩ := same
  exact .mk prices

theorem addReserveToList (same : pool.SameButPrices pool') :
    Alike SameButPrices (pool.addReserveToList a) (pool'.addReserveToList a) := by
  obtain ⟨prices⟩ := same
  exact .same fun _ => .ite (fun _ => .same fun _ => .ok (.mk prices)) (fun _ => .ok (.mk prices))

theorem listReserve (same : pool.SameButPrices pool') {input : InitReserveInput} :
    Alike SameButPrices (pool.listReserve input) (pool'.listReserve input) := by
  have code : pool'.isContract = pool.isContract := by
    cases same
    rfl
  unfold LendingPool.listReserve initReserve
  simp only [code, same.reserves]
  refine .same fun _ => .same fun _ => .same fun _ => Alike.bind (R := SameButPrices) ?_ ?_
  · refine .same fun _ => .same fun r => ?_
    exact (same.setReserve r).addReserveToList
  · intro _ _ same₁
    simp only [same₁.reserves]
    exact .same fun _ => .ok (same₁.setConfiguration _)

end SameButPrices

end LendingPool

end ElectroLend
