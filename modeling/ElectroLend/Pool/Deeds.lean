import ElectroLend.Pool.Primitives

namespace ElectroLend

open Outcome LendingPool

/-- What a storage operation does, and to whom. -/
inductive Deed
  | upkeep (asset : Address)
  | mintELToken (asset user : Address)
  | burnELToken (asset user : Address)
  | moveELToken (asset sender recipient : Address)
  | spendELToken (asset spender sender recipient : Address)
  | approveELToken (asset owner spender : Address)
  | lowerELTokenAllowance (asset owner spender : Address)
  | mintDebt (asset : Address) (mode : InterestRateMode) (user onBehalfOf : Address)
  | burnDebt (asset : Address) (mode : InterestRateMode) (user : Address)
  | convertStableDebt (asset user : Address)
  | approveDelegation (asset : Address) (mode : InterestRateMode) (delegator : Address)
  | markCollateral (user : Address)
  | markBorrowing (user : Address)
  | pull (asset sender : Address)
  | pay (asset elToken : Address)
  | sendToken (asset sender : Address)
  | spendToken (asset spender sender : Address)
  | approveToken (asset owner : Address)
  | list (asset elTokenAddress : Address)
  | configure (asset : Address)
  | setStrategy (asset : Address)
  | setPause (val : Bool)
  | setPrices
  deriving DecidableEq

/-- The storage operations of the pool, each with its deed. -/
inductive Did (t : Nat) : Deed → LendingPool → LendingPool → Prop
  | updateState {pool pool' : LendingPool} {asset : Address}
      (h : pool.updateState t asset = .ok pool') : Did t (.upkeep asset) pool pool'
  | updateInterestRates {pool pool' : LendingPool} {asset elToken : Address} {added taken : Nat}
      (h : pool.updateInterestRates t asset elToken added taken = .ok pool') :
      Did t (.upkeep asset) pool pool'
  | cumulateToLiquidityIndex {pool pool' : LendingPool} {asset : Address} {amount : Nat}
      (h : pool.cumulateToLiquidityIndex asset amount = .ok pool') :
      Did t (.upkeep asset) pool pool'
  | mintELToken {pool pool' : LendingPool} {asset user : Address} {amount : Nat} {first : Bool}
      (h : pool.mintELToken asset user amount = .ok (first, pool')) :
      Did t (.mintELToken asset user) pool pool'
  | burnELToken {pool pool' : LendingPool} {asset user receiver : Address} {amount : Nat}
      (h : pool.burnELToken asset user receiver amount = .ok pool') :
      Did t (.burnELToken asset user) pool pool'
  | moveELToken {pool : LendingPool} {asset sender recipient : Address} {amountScaled : Nat}
      {balances : Address → Nat}
      (h : moveBalance (pool.reserves asset).elToken.balances sender recipient amountScaled =
        .ok balances) :
      Did t (.moveELToken asset sender recipient) pool (pool.setReserve asset
        { pool.reserves asset with elToken := { (pool.reserves asset).elToken with balances } })
  | spendELToken {pool : LendingPool} {asset spender sender recipient : Address}
      {amount index amountScaled : Nat} {balances : Address → Nat}
      (allowed : amount ≤ (pool.reserves asset).elToken.allowances sender spender)
      (scaled : rayDiv amount index = .ok amountScaled)
      (h : moveBalance (pool.reserves asset).elToken.balances sender recipient amountScaled =
        .ok balances) :
      Did t (.spendELToken asset spender sender recipient) pool (pool.setReserve asset
        { pool.reserves asset with elToken := { (pool.reserves asset).elToken with balances } })
  | approveELToken {pool : LendingPool} {asset owner spender : Address} {amount : Nat}
      {elToken : ELToken}
      (h : (pool.reserves asset).elToken.approve owner spender amount = .ok elToken) :
      Did t (.approveELToken asset owner spender) pool
        (pool.setReserve asset { pool.reserves asset with elToken })
  | lowerELTokenAllowance {pool : LendingPool} {asset owner spender : Address} {amount : Nat}
      {elToken : ELToken}
      (lower : amount ≤ (pool.reserves asset).elToken.allowances owner spender)
      (h : (pool.reserves asset).elToken.approve owner spender amount = .ok elToken) :
      Did t (.lowerELTokenAllowance asset owner spender) pool
        (pool.setReserve asset { pool.reserves asset with elToken })
  | mintVariableDebt {pool pool' : LendingPool} {asset user onBehalfOf : Address}
      {amount index : Nat} {first : Bool}
      (h : pool.mintVariableDebt asset user onBehalfOf amount index = .ok (first, pool')) :
      Did t (.mintDebt asset .variable user onBehalfOf) pool pool'
  | mintStableDebt {pool pool' : LendingPool} {asset user onBehalfOf : Address} {amount : Nat}
      {first : Bool} (nonzero : amount ≠ 0)
      (h : pool.mintStableDebt t asset user onBehalfOf amount = .ok (first, pool')) :
      Did t (.mintDebt asset .stable user onBehalfOf) pool pool'
  | burnVariableDebt {pool pool' : LendingPool} {asset user : Address} {amount : Nat}
      (h : pool.burnVariableDebt asset user amount = .ok pool') :
      Did t (.burnDebt asset .variable user) pool pool'
  | burnStableDebt {pool pool' : LendingPool} {asset user : Address} {amount : Nat}
      (h : pool.burnStableDebt t asset user amount = .ok pool') :
      Did t (.burnDebt asset .stable user) pool pool'
  | convertStableDebt {pool middle pool' : LendingPool} {asset user : Address}
      {amount index : Nat} {first : Bool}
      (read : (pool.reserves asset).stableDebtToken.balanceOf t user = .ok amount)
      (burned : pool.burnStableDebt t asset user amount = .ok middle)
      (minted : middle.mintVariableDebt asset user user amount index = .ok (first, pool')) :
      Did t (.convertStableDebt asset user) pool pool'
  | approveStableDelegation (pool : LendingPool) (msgSender asset delegatee : Address)
      (amount : Nat) : Did t (.approveDelegation asset .stable msgSender) pool
        (pool.approveStableDelegation msgSender asset delegatee amount)
  | approveVariableDelegation (pool : LendingPool) (msgSender asset delegatee : Address)
      (amount : Nat) : Did t (.approveDelegation asset .variable msgSender) pool
        (pool.approveVariableDelegation msgSender asset delegatee amount)
  | setUsingAsCollateral {pool pool' : LendingPool} {u : Address} {i : Nat} {value : Bool}
      (h : pool.setUsingAsCollateral u i value = .ok pool') :
      Did t (.markCollateral u) pool pool'
  | setBorrowing {pool pool' : LendingPool} {u : Address} {i : Nat} {value : Bool}
      (h : pool.setBorrowing u i value = .ok pool') : Did t (.markBorrowing u) pool pool'
  | pull {pool pool' : LendingPool} {asset sender recipient : Address} {amount : Nat}
      (h : pool.pullUnderlying asset sender recipient amount = .ok pool') :
      Did t (.pull asset sender) pool pool'
  | pay {pool pool' : LendingPool} {asset elToken target : Address} {amount : Nat}
      (h : pool.transferUnderlyingTo asset elToken target amount = .ok pool') :
      Did t (.pay asset elToken) pool pool'
  | sendToken {pool : LendingPool} {asset sender recipient : Address} {amount : Nat}
      {token : ERC20} (h : (pool.tokens asset).transfer sender recipient amount = .ok token) :
      Did t (.sendToken asset sender) pool (pool.setToken asset token)
  | spendToken {pool : LendingPool} {asset spender sender recipient : Address} {amount : Nat}
      {token : ERC20}
      (h : (pool.tokens asset).transferFrom spender sender recipient amount = .ok token) :
      Did t (.spendToken asset spender sender) pool (pool.setToken asset token)
  | approveToken {pool : LendingPool} {asset owner spender : Address} {amount : Nat}
      {token : ERC20} (h : (pool.tokens asset).approve owner spender amount = .ok token) :
      Did t (.approveToken asset owner) pool (pool.setToken asset token)
  | listReserve {pool pool' : LendingPool} {input : InitReserveInput}
      (h : pool.listReserve input = .ok pool') :
      Did t (.list input.underlyingAsset input.elTokenAddress) pool pool'
  | setConfiguration (pool : LendingPool) (asset : Address)
      (configuration : ReserveConfigurationMap) :
      Did t (.configure asset) pool (pool.setConfiguration asset configuration)
  | setReserveInterestRateStrategy (pool : LendingPool) (asset : Address)
      (strategy : DefaultReserveInterestRateStrategy) :
      Did t (.setStrategy asset) pool (pool.setReserveInterestRateStrategy asset strategy)
  | setPause (pool : LendingPool) (val : Bool) : Did t (.setPause val) pool (pool.setPause val)
  | setPrices (pool : LendingPool) (priceOracle lendingRateOracle : Address → Nat) :
      Did t .setPrices pool { pool with priceOracle, lendingRateOracle }

/-- A chain of storage operations in one block whose deeds are all allowed. -/
inductive Deeds (t : Nat) (allowed : Deed → Prop) : LendingPool → LendingPool → Prop
  | refl (pool : LendingPool) : Deeds t allowed pool pool
  | tail {deed : Deed} {pool pool' pool'' : LendingPool}
      (before : Deeds t allowed pool pool') (fine : allowed deed) (last : Did t deed pool' pool'') :
      Deeds t allowed pool pool''

section Chains

variable {pool pool' pool'' : LendingPool} {t : Nat} {allowed allowed' : Deed → Prop} {deed : Deed}

theorem Did.deeds (h : Did t deed pool pool') (fine : allowed deed) :
    Deeds t allowed pool pool' :=
  .tail (.refl pool) fine h

theorem Deeds.trans (h : Deeds t allowed pool pool') (h' : Deeds t allowed pool' pool'') :
    Deeds t allowed pool pool'' := by
  induction h' with
  | refl => exact h
  | tail _ fine last ih => exact .tail (ih h) fine last

theorem Deeds.mono (h : Deeds t allowed pool pool') (weaker : ∀ deed, allowed deed → allowed' deed) :
    Deeds t allowed' pool pool' := by
  induction h with
  | refl => exact .refl _
  | tail _ fine last ih => exact .tail ih (weaker _ fine) last

theorem Deeds.invariant (P : LendingPool → Prop)
    (step : ∀ deed pool pool', allowed deed → P pool → Did t deed pool pool' → P pool')
    (h : Deeds t allowed pool pool') (initial : P pool) : P pool' := by
  induction h with
  | refl => exact initial
  | tail _ fine last ih => exact step _ _ _ fine (ih initial) last

end Chains

/-- The deeds of a call, by the state it is made in and by whom it is made. -/
def Call.deeds (pool : LendingPool) (msgSender : Address) : Call → List Deed
  | deposit asset _ onBehalfOf =>
    [.upkeep asset, .pull asset msgSender, .mintELToken asset onBehalfOf,
      .markCollateral onBehalfOf]
  | withdraw asset _ _ => [.upkeep asset, .markCollateral msgSender, .burnELToken asset msgSender]
  | borrow asset _ _ onBehalfOf =>
    [.upkeep asset, .mintDebt asset .stable msgSender onBehalfOf,
      .mintDebt asset .variable msgSender onBehalfOf, .markBorrowing onBehalfOf,
      .pay asset (pool.reserves asset).elTokenAddress]
  | repay asset _ _ onBehalfOf =>
    [.upkeep asset, .burnDebt asset .stable onBehalfOf, .burnDebt asset .variable onBehalfOf,
      .markBorrowing onBehalfOf, .pull asset msgSender]
  | swapBorrowRateMode asset _ =>
    [.upkeep asset, .burnDebt asset .stable msgSender, .burnDebt asset .variable msgSender,
      .mintDebt asset .stable msgSender msgSender, .mintDebt asset .variable msgSender msgSender]
  | rebalanceStableBorrowRate asset user => [.upkeep asset, .convertStableDebt asset user]
  | setUserUseReserveAsCollateral _ _ => [.markCollateral msgSender]
  | liquidationCall collateralAsset debtAsset user _ _ =>
    [.upkeep debtAsset, .burnDebt debtAsset .stable user, .burnDebt debtAsset .variable user,
      .upkeep collateralAsset, .moveELToken collateralAsset user msgSender,
      .burnELToken collateralAsset user, .markCollateral msgSender, .markCollateral user,
      .pull debtAsset msgSender]
  | elTokenTransfer asset recipient _ =>
    [.moveELToken asset msgSender recipient, .markCollateral msgSender, .markCollateral recipient]
  | elTokenTransferFrom asset sender recipient _ =>
    [.spendELToken asset msgSender sender recipient, .markCollateral sender,
      .markCollateral recipient, .lowerELTokenAllowance asset sender msgSender]
  | elTokenApprove asset spender _ => [.approveELToken asset msgSender spender]
  | approveStableDelegation asset _ _ => [.approveDelegation asset .stable msgSender]
  | approveVariableDelegation asset _ _ => [.approveDelegation asset .variable msgSender]
  | approve asset _ _ => [.approveToken asset msgSender]
  | transfer asset _ _ => [.sendToken asset msgSender]
  | transferFrom asset sender _ _ => [.spendToken asset msgSender sender]
  | listReserve input => [.list input.underlyingAsset input.elTokenAddress]
  | setConfiguration asset _ => [.configure asset]
  | setReserveInterestRateStrategy asset _ => [.setStrategy asset]
  | setPause val => [.setPause val]
  | setAssetPrice _ _ => [.setPrices]
  | setMarketBorrowRate _ _ => [.setPrices]

/-- The deeds of sending a flash loan. -/
def loanDeeds (pool : LendingPool) (deed : Deed) : Prop :=
  ∃ asset, deed = .pay asset (pool.reserves asset).elTokenAddress

/-- The deeds of settling a flash loan. -/
def settlementDeeds (msgSender receiver onBehalfOf : Address) (deed : Deed) : Prop :=
  ∃ asset, deed ∈ [.upkeep asset, .pull asset receiver, .mintDebt asset .stable msgSender onBehalfOf,
    .mintDebt asset .variable msgSender onBehalfOf, .markBorrowing onBehalfOf]

theorem LendingPool.listReserve_rest {pool pool' : LendingPool} {input : InitReserveInput}
    (h : pool.listReserve input = .ok pool') :
    pool'.this = pool.this ∧ pool'.tokens = pool.tokens ∧ pool'.paused = pool.paused ∧
      pool'.usersConfig = pool.usersConfig := by
  obtain ⟨_, _, _, _, added, configuration, hadd, rfl⟩ := listReserve_eq_ok h
  obtain ⟨_, ⟨_, _, rfl⟩ | ⟨_, rfl⟩⟩ := addReserveToList_eq_ok hadd
  · exact ⟨rfl, rfl, rfl, rfl⟩
  · exact ⟨rfl, rfl, rfl, rfl⟩

/-- The deed is about reserves, bits and tokens. -/
def Deed.Inner : Deed → Prop
  | list _ _ | setPause _ | setPrices => False
  | _ => True

/-- The parts of the storage. -/
inductive Part
  | interest
  | elTokens
  | payout
  | debts
  | bits
  | underlying
  | terms
  | market

/-- What accounts hold of elTokens and underlying, and their bits: of it all, the rates of a reserve
depend on its liquidity only. -/
def Part.OfHolders : Part → Prop
  | elTokens | payout | bits | underlying => True
  | _ => False

/-- The part of the storage that a deed writes. -/
def Deed.part : Deed → Part
  | upkeep _ => .interest
  | mintELToken _ _ | moveELToken _ _ _ | spendELToken _ _ _ _ | approveELToken _ _ _
  | lowerELTokenAllowance _ _ _ => .elTokens
  | burnELToken _ _ => .payout
  | mintDebt _ _ _ _ | burnDebt _ _ _ | convertStableDebt _ _ | approveDelegation _ _ _ => .debts
  | markCollateral _ | markBorrowing _ => .bits
  | pull _ _ | pay _ _ | sendToken _ _ | spendToken _ _ _ | approveToken _ _ => .underlying
  | configure _ | setStrategy _ => .terms
  | list _ _ | setPause _ | setPrices => .market

/-- The deed is about one asset, or about bits alone. -/
def Deed.About (asset : Address) : Deed → Prop
  | upkeep a | mintELToken a _ | burnELToken a _ | moveELToken a _ _ | spendELToken a _ _ _
  | approveELToken a _ _ | lowerELTokenAllowance a _ _ | mintDebt a _ _ _ | burnDebt a _ _
  | convertStableDebt a _ | approveDelegation a _ _ | pull a _ | pay a _ | sendToken a _
  | spendToken a _ _ | approveToken a _ | configure a | setStrategy a => a = asset
  | markCollateral _ | markBorrowing _ => True
  | list _ _ | setPause _ | setPrices => False

/-- A property of parts that does not hold of the market is one of inner deeds. -/
theorem Deed.Inner.of_part {deed : Deed} {P : Part → Prop} (none : ¬P .market) (h : P deed.part) :
    deed.Inner := by
  cases deed with
  | list _ _ => exact none h
  | setPause _ => exact none h
  | setPrices => exact none h
  | _ => trivial

theorem Deed.Inner.about {deed : Deed} (inner : deed.Inner) : ∃ asset, deed.About asset := by
  cases deed with
  | markCollateral _ => exact ⟨0, trivial⟩
  | markBorrowing _ => exact ⟨0, trivial⟩
  | list _ _ => exact inner.elim
  | setPause _ => exact inner.elim
  | setPrices => exact inner.elim
  | _ => exact ⟨_, rfl⟩

/-- All that can have been written in a part of the storage, if it was about the asset. -/
inductive Stored (pool : LendingPool) (asset : Address) : Part → LendingPool → Prop
  | interest (elToken : ELToken) (liquidityIndex variableBorrowIndex currentLiquidityRate
      currentVariableBorrowRate currentStableBorrowRate lastUpdateTimestamp : Nat) :
      Stored pool asset .interest (pool.setReserve asset { pool.reserves asset with
        elToken, liquidityIndex, variableBorrowIndex, currentLiquidityRate,
        currentVariableBorrowRate, currentStableBorrowRate, lastUpdateTimestamp })
  | elTokens (elToken : ELToken) :
      Stored pool asset .elTokens (pool.setReserve asset { pool.reserves asset with elToken })
  | payout (elToken : ELToken) (token : ERC20) :
      Stored pool asset .payout
        ((pool.setReserve asset { pool.reserves asset with elToken }).setToken asset token)
  | debts (stableDebtToken : StableDebtToken) (variableDebtToken : VariableDebtToken) :
      Stored pool asset .debts
        (pool.setReserve asset { pool.reserves asset with stableDebtToken, variableDebtToken })
  | bits (u : Address) (config : UserConfigurationMap) :
      Stored pool asset .bits (pool.setUserConfig u config)
  | underlying (token : ERC20) : Stored pool asset .underlying (pool.setToken asset token)
  | terms (configuration : ReserveConfigurationMap)
      (interestRateStrategy : DefaultReserveInterestRateStrategy) :
      Stored pool asset .terms
        (pool.setReserve asset { pool.reserves asset with configuration, interestRateStrategy })

theorem Did.stored {pool pool' : LendingPool} {t : Nat} {deed : Deed} {asset : Address}
    (h : Did t deed pool pool') (about : deed.About asset) : Stored pool asset deed.part pool' := by
  cases h with
  | updateState h =>
    obtain ⟨_, hr, rfl⟩ := updateState_eq_ok h
    obtain ⟨_, _, _, _, _, _, rfl, _⟩ := Reserve.updateState_eq_ok hr
    cases about
    exact .interest _ _ _ _ _ _ _
  | updateInterestRates h =>
    obtain ⟨_, hr, rfl⟩ := updateInterestRates_eq_ok h
    obtain ⟨_, _, rfl⟩ := Reserve.updateInterestRates_eq_ok hr
    cases about
    exact .interest _ _ _ _ _ _ _
  | cumulateToLiquidityIndex h =>
    obtain ⟨_, _, rfl⟩ := cumulateToLiquidityIndex_eq_ok h
    cases about
    exact .interest _ _ _ _ _ _ _
  | mintELToken h =>
    obtain ⟨elToken, _, rfl⟩ := mintELToken_eq_ok h
    cases about
    exact .elTokens elToken
  | burnELToken h =>
    obtain ⟨elToken, token, _, rfl⟩ := burnELToken_eq_ok h
    cases about
    exact .payout elToken token
  | moveELToken h =>
    cases about
    exact .elTokens _
  | spendELToken allowed scaled h =>
    cases about
    exact .elTokens _
  | approveELToken h =>
    cases about
    exact .elTokens _
  | lowerELTokenAllowance lower h =>
    cases about
    exact .elTokens _
  | mintVariableDebt h =>
    obtain ⟨token, _, rfl⟩ := mintVariableDebt_eq_ok h
    cases about
    exact .debts _ token
  | mintStableDebt nonzero h =>
    obtain ⟨token, _, rfl⟩ := mintStableDebt_eq_ok h
    cases about
    exact .debts token _
  | burnVariableDebt h =>
    obtain ⟨token, _, rfl⟩ := burnVariableDebt_eq_ok h
    cases about
    exact .debts _ token
  | burnStableDebt h =>
    obtain ⟨token, _, rfl⟩ := burnStableDebt_eq_ok h
    cases about
    exact .debts token _
  | convertStableDebt read burned minted =>
    obtain ⟨_, _, rfl⟩ := burnStableDebt_eq_ok burned
    obtain ⟨_, _, rfl⟩ := mintVariableDebt_eq_ok minted
    cases about
    rw [setReserve_setReserve, setReserve_reserves, Function.update_self]
    exact .debts _ _
  | setUsingAsCollateral h =>
    obtain ⟨config, _, rfl⟩ := setUsingAsCollateral_eq_ok h
    exact .bits _ config
  | setBorrowing h =>
    obtain ⟨config, _, rfl⟩ := setBorrowing_eq_ok h
    exact .bits _ config
  | pull h =>
    obtain ⟨token, _, rfl⟩ := pullUnderlying_eq_ok h
    cases about
    exact .underlying token
  | pay h =>
    obtain ⟨token, _, rfl⟩ := transferUnderlyingTo_eq_ok h
    cases about
    exact .underlying token
  | sendToken h =>
    cases about
    exact .underlying _
  | spendToken h =>
    cases about
    exact .underlying _
  | approveToken h =>
    cases about
    exact .underlying _
  | approveStableDelegation _ msgSender a delegatee amount =>
    cases about
    exact .debts _ _
  | approveVariableDelegation _ msgSender a delegatee amount =>
    cases about
    exact .debts _ _
  | setConfiguration _ a configuration =>
    cases about
    exact .terms configuration _
  | setReserveInterestRateStrategy _ a strategy =>
    cases about
    exact .terms _ strategy
  | listReserve h => exact about.elim
  | setPause _ val => exact about.elim
  | setPrices _ priceOracle lendingRateOracle => exact about.elim

theorem Did.stored_inner {pool pool' : LendingPool} {t : Nat} {deed : Deed}
    (h : Did t deed pool pool') (inner : deed.Inner) :
    ∃ asset, Stored pool asset deed.part pool' := by
  obtain ⟨asset, about⟩ := inner.about
  exact ⟨asset, h.stored about⟩

theorem Did.rest {pool pool' : LendingPool} {t : Nat} {deed : Deed} (h : Did t deed pool pool')
    (inner : deed.Inner) : pool' = { pool with
      reserves := pool'.reserves
      usersConfig := pool'.usersConfig
      tokens := pool'.tokens } := by
  obtain ⟨_, stored⟩ := h.stored_inner inner
  generalize deed.part = part at stored
  cases stored <;> rfl

end ElectroLend
