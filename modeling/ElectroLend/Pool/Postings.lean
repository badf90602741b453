import ElectroLend.Library.Differences
import ElectroLend.Pool.RatesFrame

namespace ElectroLend

open Outcome Differences

/-- Differences of the scaled balances, of the debts and of the underlying of a reserve, and what
becomes of the accounts' bitmaps. -/
structure Posting where
  elToken : Address → Int
  elTokenSupply : Int
  variableDebt : Address → Int
  variableSupply : Int
  underlying : Address → Int
  allowances : Address × Address → Int
  marks : Address → UserConfigurationMap → Result UserConfigurationMap

namespace Posting

def none : Posting := ⟨0, 0, 0, 0, 0, 0, fun _ => .ok⟩

def next (e e' : Posting) : Posting where
  elToken := e.elToken + e'.elToken
  elTokenSupply := e.elTokenSupply + e'.elTokenSupply
  variableDebt := e.variableDebt + e'.variableDebt
  variableSupply := e.variableSupply + e'.variableSupply
  underlying := e.underlying + e'.underlying
  allowances := e.allowances + e'.allowances
  marks u config := do
    let config ← e.marks u config
    e'.marks u config

/-- Scaled units of the elToken for `u`. -/
def ofELToken (u : Address) (units : Int) : Posting :=
  { none with elToken := Pi.single u units, elTokenSupply := units }

/-- Scaled units of variable debt for `u`. -/
def ofVariableDebt (u : Address) (units : Int) : Posting :=
  { none with variableDebt := Pi.single u units, variableSupply := units }

/-- Underlying that moves from `u` to `v`. -/
def ofTransfer (u v : Address) (amount : Nat) : Posting :=
  { none with underlying := Pi.single u (-(amount : Int)) + Pi.single v (amount : Int) }

/-- What a spender uses up of an allowance. -/
def ofAllowance (owner spender : Address) (amount : Nat) : Posting :=
  { none with allowances := Pi.single (owner, spender) (-(amount : Int)) }

/-- A change of the bitmap of `u`. -/
def ofMark (u : Address) (change : UserConfigurationMap → Result UserConfigurationMap) : Posting :=
  { none with marks := Function.update (fun _ => .ok) u change }

/-- Nothing of this is posted to `u` itself, its underlying apart. -/
structure Spares (e : Posting) (u : Address) : Prop where
  elToken : e.elToken u = 0
  variableDebt : e.variableDebt u = 0
  marks : e.marks u = .ok

variable {e e' : Posting} {u v w : Address} {units : Int} {amount : Nat}
  {change : UserConfigurationMap → Result UserConfigurationMap}

theorem Spares.next (h : e.Spares u) (h' : e'.Spares u) : (e.next e').Spares u where
  elToken := by simp [Posting.next, h.elToken, h'.elToken]
  variableDebt := by simp [Posting.next, h.variableDebt, h'.variableDebt]
  marks := by
    funext config
    simp [Posting.next, h.marks, h'.marks]

theorem spares_ofELToken (hne : u ≠ v) : (ofELToken v units).Spares u :=
  ⟨Pi.single_eq_of_ne hne _, rfl, rfl⟩

theorem spares_ofVariableDebt (hne : u ≠ v) : (ofVariableDebt v units).Spares u :=
  ⟨rfl, Pi.single_eq_of_ne hne _, rfl⟩

theorem spares_ofTransfer : (ofTransfer v w amount).Spares u := ⟨rfl, rfl, rfl⟩

theorem spares_ofAllowance : (ofAllowance v w amount).Spares u := ⟨rfl, rfl, rfl⟩

theorem spares_ofMark (hne : u ≠ v) : (ofMark v change).Spares u :=
  ⟨rfl, rfl, by simp [ofMark, hne]⟩

end Posting

/-- The reserve without the balances that are posted and the rates that are calculated. -/
def Reserve.unposted (r : Reserve) : Reserve := { r with
  elToken := { r.elToken with balances := fun _ => 0, totalSupply := 0 }
  variableDebtToken := { r.variableDebtToken with balances := fun _ => 0, totalSupply := 0 }
  currentLiquidityRate := 0
  currentStableBorrowRate := 0
  currentVariableBorrowRate := 0 }

namespace LendingPool

/-- The pool without what is posted to one asset and to the bitmaps. -/
def unposted (pool : LendingPool) (asset : Address) : LendingPool := { pool with
  reserves := Function.update pool.reserves asset (pool.reserves asset).unposted
  tokens := Function.update pool.tokens asset ⟨fun _ => 0, fun _ _ => 0⟩
  usersConfig := fun _ => ⟨0⟩ }

/-- The posting leads from one state to the other, up to the rates. -/
structure Posts (asset : Address) (e : Posting) (pool pool' : LendingPool) : Prop where
  elToken : Moved e.elToken (pool.reserves asset).elToken.balances
    (pool'.reserves asset).elToken.balances
  elTokenSupply : ((pool'.reserves asset).elToken.totalSupply : Int) =
    (pool.reserves asset).elToken.totalSupply + e.elTokenSupply
  variableDebt : Moved e.variableDebt (pool.reserves asset).variableDebtToken.balances
    (pool'.reserves asset).variableDebtToken.balances
  variableSupply : ((pool'.reserves asset).variableDebtToken.totalSupply : Int) =
    (pool.reserves asset).variableDebtToken.totalSupply + e.variableSupply
  underlying : Moved e.underlying (pool.tokens asset).balances (pool'.tokens asset).balances
  allowances : Moved e.allowances (Function.uncurry (pool.tokens asset).allowances)
    (Function.uncurry (pool'.tokens asset).allowances)
  marks : ∀ u, e.marks u (pool.usersConfig u) = .ok (pool'.usersConfig u)
  kept : pool'.unposted asset = pool.unposted asset

variable {pool pool' middle : LendingPool} {t amount added taken i : Nat}
  {asset elToken u v w : Address} {e e' : Posting} {value : Bool}

theorem Posts.refl (asset : Address) (pool : LendingPool) : Posts asset .none pool pool where
  elToken := .refl _
  elTokenSupply := by simp [Posting.none]
  variableDebt := .refl _
  variableSupply := by simp [Posting.none]
  underlying := .refl _
  allowances := .refl _
  marks _ := rfl
  kept := rfl

theorem Posts.next (h : Posts asset e pool middle) (h' : Posts asset e' middle pool') :
    Posts asset (e.next e') pool pool' where
  elToken := h.elToken.trans h'.elToken
  elTokenSupply := by
    have first := h.elTokenSupply
    have second := h'.elTokenSupply
    simp only [Posting.next]
    omega
  variableDebt := h.variableDebt.trans h'.variableDebt
  variableSupply := by
    have first := h.variableSupply
    have second := h'.variableSupply
    simp only [Posting.next]
    omega
  underlying := h.underlying.trans h'.underlying
  allowances := h.allowances.trans h'.allowances
  marks u := by
    simp only [Posting.next, h.marks u, ok_bind]
    exact h'.marks u
  kept := h'.kept.trans h.kept

theorem Posts.reserve (h : Posts asset e pool pool') :
    (pool'.reserves asset).unposted = (pool.reserves asset).unposted := by
  simpa [unposted] using congrFun (congrArg LendingPool.reserves h.kept) asset

/-- What an operation reads of the reserve, the balances of the accounts apart. -/
structure SameReads (r r' : Reserve) : Prop where
  liquidityIndex : r'.liquidityIndex = r.liquidityIndex
  variableBorrowIndex : r'.variableBorrowIndex = r.variableBorrowIndex
  timestamp : r'.lastUpdateTimestamp = r.lastUpdateTimestamp
  elTokenAddress : r'.elTokenAddress = r.elTokenAddress
  id : r'.id = r.id
  treasury : r'.elToken.treasury = r.elToken.treasury
  stableDebtToken : r'.stableDebtToken = r.stableDebtToken

theorem Posts.reads (h : Posts asset e pool pool') :
    SameReads (pool.reserves asset) (pool'.reserves asset) where
  liquidityIndex := congrArg (·.liquidityIndex) h.reserve
  variableBorrowIndex := congrArg (·.variableBorrowIndex) h.reserve
  timestamp := congrArg (·.lastUpdateTimestamp) h.reserve
  elTokenAddress := congrArg (·.elTokenAddress) h.reserve
  id := congrArg (·.id) h.reserve
  treasury := congrArg (·.elToken.treasury) h.reserve
  stableDebtToken := congrArg (·.stableDebtToken) h.reserve

theorem Posts.this (h : Posts asset e pool pool') : pool'.this = pool.this := by
  have same := congrArg LendingPool.this h.kept
  exact same

theorem Posts.setReserve {r : Reserve} {e : Posting}
    (hr : r.unposted = (pool.reserves asset).unposted)
    (elToken : Moved e.elToken (pool.reserves asset).elToken.balances r.elToken.balances)
    (elTokenSupply : (r.elToken.totalSupply : Int) =
      (pool.reserves asset).elToken.totalSupply + e.elTokenSupply)
    (variableDebt : Moved e.variableDebt (pool.reserves asset).variableDebtToken.balances
      r.variableDebtToken.balances)
    (variableSupply : (r.variableDebtToken.totalSupply : Int) =
      (pool.reserves asset).variableDebtToken.totalSupply + e.variableSupply)
    (others : e.underlying = 0 ∧ e.allowances = 0 ∧ e.marks = fun _ => .ok) :
    Posts asset e pool (pool.setReserve asset r) where
  elToken := by simpa using elToken
  elTokenSupply := by simpa using elTokenSupply
  variableDebt := by simpa using variableDebt
  variableSupply := by simpa using variableSupply
  underlying := by
    rw [others.1]
    exact .refl _
  allowances := by
    rw [others.2.1]
    exact .refl _
  marks u := by
    rw [others.2.2]
    rfl
  kept := by
    dsimp only [unposted, LendingPool.setReserve]
    rw [Function.update_self, Function.update_idem, hr]

theorem updateInterestRates_posts
    (h : pool.updateInterestRates t asset elToken added taken = .ok pool') :
    Posts asset .none pool pool' := by
  obtain ⟨r, hr, rfl⟩ := updateInterestRates_eq_ok h
  obtain ⟨rates, _, rfl⟩ := Reserve.updateInterestRates_eq_ok hr
  exact .setReserve rfl (.refl _) (by simp [Posting.none]) (.refl _) (by simp [Posting.none])
    ⟨rfl, rfl, rfl⟩

theorem mintELToken_posts {first : Bool}
    (h : pool.mintELToken asset u amount = .ok (first, pool')) :
    ∃ units, rayDiv amount (pool.reserves asset).liquidityIndex = .ok units ∧
      first = ((pool.reserves asset).elToken.balances u == 0) ∧
      Posts asset (.ofELToken u units) pool pool' := by
  obtain ⟨token, hmint, rfl⟩ := mintELToken_eq_ok h
  obtain ⟨units, hd, _, hbals, htotal, hfirst, htreasury, hallow⟩ := ELToken.mint_eq_ok hmint
  refine ⟨units, hd, hfirst, .setReserve ?_ ?_ ?_ (.refl _) ?_ ⟨rfl, rfl, rfl⟩⟩
  · simp [Reserve.unposted, htreasury, hallow]
  · rw [hbals]
    exact .add_at
  · rw [htotal]
    simp [Posting.ofELToken]
  · simp [Posting.ofELToken, Posting.none]

theorem burnVariableDebt_posts (h : pool.burnVariableDebt asset u amount = .ok pool') :
    ∃ units : Nat, rayDiv amount (pool.reserves asset).variableBorrowIndex = .ok units ∧
      (pool.reserves asset).variableDebtToken.totalSupply ≠ 0 ∧
      Posts asset (.ofVariableDebt u (-units)) pool pool' := by
  obtain ⟨token, hburn, rfl⟩ := burnVariableDebt_eq_ok h
  obtain ⟨units, hd, hne, hbal, hsup, hbals, htotal⟩ := VariableDebtToken.burn_eq_ok hburn
  have allowances : token.borrowAllowances =
      (pool.reserves asset).variableDebtToken.borrowAllowances := by
    simp only [VariableDebtToken.burn, bind_eq_ok, pure_eq_ok] at hburn
    obtain ⟨_, _, _, _, _, _, rfl⟩ := hburn
    rfl
  refine ⟨units, hd, by omega, .setReserve ?_ (.refl _) ?_ ?_ ?_ ⟨rfl, rfl, rfl⟩⟩
  · simp [Reserve.unposted, allowances]
  · simp [Posting.ofVariableDebt, Posting.none]
  · rw [hbals]
    exact .sub_at hbal
  · rw [htotal]
    simp only [Posting.ofVariableDebt]
    omega

theorem moveBalance_moved {balances balances' : Address → Nat}
    (h : moveBalance balances u v amount = .ok balances') :
    Moved (Pi.single u (-(amount : Int)) + Pi.single v (amount : Int)) balances balances' := by
  simp only [moveBalance, bind_eq_ok, require_eq_ok, SafeMath.sub_eq_ok, SafeMath.add_eq_ok,
    pure_eq_ok] at h
  obtain ⟨_, _, _, _, _, ⟨hle, rfl⟩, _, ⟨_, rfl⟩, rfl⟩ := h
  exact (Moved.sub_at hle).trans .add_at

theorem Posts.setToken {token : ERC20} {e : Posting}
    (underlying : Moved e.underlying (pool.tokens asset).balances token.balances)
    (allowances : Moved e.allowances (Function.uncurry (pool.tokens asset).allowances)
      (Function.uncurry token.allowances))
    (others : e = { Posting.none with
      underlying := e.underlying
      allowances := e.allowances }) :
    Posts asset e pool (pool.setToken asset token) where
  elToken := by
    rw [others]
    exact .refl _
  elTokenSupply := by
    rw [others]
    simp [Posting.none]
  variableDebt := by
    rw [others]
    exact .refl _
  variableSupply := by
    rw [others]
    simp [Posting.none]
  underlying := by simpa using underlying
  allowances := by simpa using allowances
  marks u := by
    rw [others]
    rfl
  kept := by
    dsimp only [unposted, LendingPool.setToken]
    rw [Function.update_idem]

theorem pullUnderlying_posts (h : pool.pullUnderlying asset u v amount = .ok pool') :
    Posts asset ((Posting.ofTransfer u v amount).next (.ofAllowance u pool.this amount)) pool
      pool' := by
  simp only [pullUnderlying, SafeERC20.safeTransferFrom, SafeERC20.lowLevelCall_eq_ok,
    ERC20.transferFrom, ERC20.transfer, ERC20.approve, bind_eq_ok, require_eq_ok, pure_eq_ok,
    SafeMath.sub_eq_ok] at h
  obtain ⟨_, ⟨_, ⟨balances, hmoved, rfl⟩, _, ⟨hle, rfl⟩, _, _, _, _, rfl⟩, rfl⟩ := h
  refine .setToken ?_ ?_ rfl
  · simpa [Posting.next, Posting.ofTransfer, Posting.ofAllowance, Posting.none] using
      moveBalance_moved hmoved
  · have spent : Moved (Pi.single (u, pool.this) (-(amount : Int)))
        (Function.uncurry (pool.tokens asset).allowances)
        (Function.update (Function.uncurry (pool.tokens asset).allowances) (u, pool.this)
          ((pool.tokens asset).allowances u pool.this - amount)) := .sub_at hle
    have same : Function.uncurry (Function.update (pool.tokens asset).allowances u
        (Function.update ((pool.tokens asset).allowances u) pool.this
          ((pool.tokens asset).allowances u pool.this - amount))) =
        Function.update (Function.uncurry (pool.tokens asset).allowances) (u, pool.this)
          ((pool.tokens asset).allowances u pool.this - amount) := by
      funext pair
      obtain ⟨owner, spender⟩ := pair
      by_cases ho : owner = u
      · subst ho
        by_cases hs : spender = pool.this
        · subst hs
          simp
        · simp [hs]
      · simp [ho]
    rw [← same] at spent
    simpa [Posting.next, Posting.ofTransfer, Posting.ofAllowance, Posting.none] using spent

theorem burnELToken_posts (h : pool.burnELToken asset u v amount = .ok pool') :
    ∃ units : Nat, rayDiv amount (pool.reserves asset).liquidityIndex = .ok units ∧
      Posts asset ((Posting.ofELToken u (-units)).next
        (.ofTransfer (pool.reserves asset).elTokenAddress v amount)) pool pool' := by
  obtain ⟨elToken, token, hburn, rfl⟩ := burnELToken_eq_ok h
  obtain ⟨units, hd, _, hle, hbals, htotal, hsup, htreasury, hallow, hsend⟩ :=
    ELToken.burn_eq_ok hburn
  obtain ⟨hmoved, hallowances⟩ := SafeERC20.safeTransfer_balances hsend
  have burned : Posts asset (.ofELToken u (-units)) pool
      (pool.setReserve asset { pool.reserves asset with elToken }) := by
    refine .setReserve ?_ ?_ ?_ (.refl _) ?_ ⟨rfl, rfl, rfl⟩
    · simp [Reserve.unposted, htreasury, hallow]
    · rw [hbals]
      exact .sub_at hle
    · rw [htotal]
      simp only [Posting.ofELToken]
      omega
    · simp [Posting.ofELToken, Posting.none]
  refine ⟨units, hd, burned.next (.setToken (moveBalance_moved hmoved) ?_ rfl)⟩
  rw [hallowances]
  exact .refl _

theorem updateUserConfig_posts {change : UserConfigurationMap → Result UserConfigurationMap}
    (h : pool.updateUserConfig u change = .ok pool') :
    Posts asset (.ofMark u change) pool pool' := by
  obtain ⟨config, hchange, rfl⟩ := updateUserConfig_eq_ok h
  refine ⟨.refl _, by simp [Posting.ofMark, Posting.none], .refl _,
    by simp [Posting.ofMark, Posting.none], .refl _, .refl _, ?_, rfl⟩
  intro w
  by_cases hw : w = u
  · subst hw
    simpa [Posting.ofMark] using hchange
  · simp [Posting.ofMark, hw]

theorem eq_of_balances {token token' : IncentivizedERC20}
    (balances : token'.balances = token.balances)
    (totalSupply : token'.totalSupply = token.totalSupply) : token' = token := by
  cases token
  cases token'
  cases balances
  cases totalSupply
  rfl

/-- Nothing but the posted balances and the rates tells two reserves apart. -/
theorem eq_of_unposted {r r' : Reserve} (h : r'.unposted = r.unposted)
    (elToken : r'.elToken.balances = r.elToken.balances)
    (elTokenSupply : r'.elToken.totalSupply = r.elToken.totalSupply)
    (variableDebt : r'.variableDebtToken.balances = r.variableDebtToken.balances)
    (variableSupply : r'.variableDebtToken.totalSupply = r.variableDebtToken.totalSupply)
    (rates : r'.storedRates = r.storedRates) : r' = r := by
  have restored : ∀ r : Reserve, r = { r.unposted with
      elToken := { r.unposted.elToken with
        toIncentivizedERC20 := r.elToken.toIncentivizedERC20 }
      variableDebtToken := { r.unposted.variableDebtToken with
        toIncentivizedERC20 := r.variableDebtToken.toIncentivizedERC20 }
      currentLiquidityRate := r.storedRates.liquidityRate
      currentStableBorrowRate := r.storedRates.stableBorrowRate
      currentVariableBorrowRate := r.storedRates.variableBorrowRate } := fun _ => rfl
  rw [restored r', restored r, h, eq_of_balances elToken elTokenSupply,
    eq_of_balances variableDebt variableSupply, rates]

/-- The rates are calculated from what is not posted and the supply of the variable debt. -/
theorem rates_of_unposted {r r' : Reserve} {market liquidity : Nat} (h : r'.unposted = r.unposted)
    (variableSupply : r'.variableDebtToken.totalSupply = r.variableDebtToken.totalSupply)
    (hr : r.RatesAt t market liquidity) (hr' : r'.RatesAt t market liquidity) :
    r'.storedRates = r.storedRates := by
  have stable : r'.stableDebtToken = r.stableDebtToken := congrArg (·.stableDebtToken) h
  have index : r'.variableBorrowIndex = r.variableBorrowIndex :=
    congrArg (·.variableBorrowIndex) h
  have strategy : r'.interestRateStrategy = r.interestRateStrategy :=
    congrArg (·.interestRateStrategy) h
  have configuration : r'.configuration = r.configuration := congrArg (·.configuration) h
  simp only [Reserve.RatesAt, Reserve.calculateInterestRates, stable, index, strategy,
    configuration, VariableDebtToken.scaledTotalSupply, variableSupply] at hr hr'
  exact ok_unique hr' hr

/-- Two states that differ from a third by nothing but postings are the same when the postings
are and both have the rates of their liquidity. -/
theorem eq_of_posts {left right : LendingPool} (kept : left.unposted asset = right.unposted asset)
    (elToken : (left.reserves asset).elToken.balances = (right.reserves asset).elToken.balances)
    (elTokenSupply : (left.reserves asset).elToken.totalSupply =
      (right.reserves asset).elToken.totalSupply)
    (variableDebt : (left.reserves asset).variableDebtToken.balances =
      (right.reserves asset).variableDebtToken.balances)
    (variableSupply : (left.reserves asset).variableDebtToken.totalSupply =
      (right.reserves asset).variableDebtToken.totalSupply)
    (underlying : (left.tokens asset).balances = (right.tokens asset).balances)
    (allowances : (left.tokens asset).allowances = (right.tokens asset).allowances)
    (marks : left.usersConfig = right.usersConfig)
    (rates : (left.reserves asset).storedRates = (right.reserves asset).storedRates) :
    left = right := by
  have reserve : left.reserves asset = right.reserves asset := by
    have same := congrFun (congrArg LendingPool.reserves kept) asset
    simp only [unposted, Function.update_self] at same
    exact eq_of_unposted same elToken elTokenSupply variableDebt variableSupply rates
  have token : left.tokens asset = right.tokens asset := by
    have restored : ∀ token : ERC20, token = ⟨token.balances, token.allowances⟩ := fun _ => rfl
    rw [restored (left.tokens asset), restored (right.tokens asset), underlying, allowances]
  have restored : ∀ p : LendingPool, p = { p.unposted asset with
      reserves := Function.update (p.unposted asset).reserves asset (p.reserves asset)
      tokens := Function.update (p.unposted asset).tokens asset (p.tokens asset)
      usersConfig := p.usersConfig } := by
    intro p
    simp [unposted]
  rw [restored left, restored right, kept, reserve, token, marks]

theorem Posts.marks_commute {first second left right : LendingPool}
    (h₁ : Posts asset e pool first) (h₁₂ : Posts asset e' first left)
    (h₂ : Posts asset e' pool second) (h₂₁ : Posts asset e second right)
    (apart : ∀ u, e.marks u = .ok ∨ e'.marks u = .ok) : left.usersConfig = right.usersConfig := by
  funext u
  have there := h₁.marks u
  have and_on := h₁₂.marks u
  have here := h₂.marks u
  have and_back := h₂₁.marks u
  obtain still | still := apart u
  · rw [still, Except.ok.injEq] at there and_back
    rw [← there] at and_on
    rw [← and_back]
    exact ok_unique and_on here
  · rw [still, Except.ok.injEq] at here and_on
    rw [← here] at and_back
    rw [← and_on]
    exact ok_unique there and_back

/-- Postings that do not both change one bitmap end in the same state in either order, when each
order leaves the rates of its liquidity. -/
theorem Posts.commute {first second : LendingPool} {left right : LendingPool}
    (h₁ : Posts asset e pool first) (h₁₂ : Posts asset e' first left)
    (h₂ : Posts asset e' pool second) (h₂₁ : Posts asset e second right)
    (apart : ∀ u, e.marks u = .ok ∨ e'.marks u = .ok)
    (described : left.RatesAt t asset (left.underlyingBalance asset))
    (described' : right.RatesAt t asset (right.underlyingBalance asset)) : left = right := by
  have kept : left.unposted asset = right.unposted asset :=
    (h₁.next h₁₂).kept.trans (h₂.next h₂₁).kept.symm
  have underlying := h₁.underlying.commute h₁₂.underlying h₂.underlying h₂₁.underlying
  have allowances := h₁.allowances.commute h₁₂.allowances h₂.allowances h₂₁.allowances
  have variableSupply : (left.reserves asset).variableDebtToken.totalSupply =
      (right.reserves asset).variableDebtToken.totalSupply := by
    have there := h₁.variableSupply
    have and_on := h₁₂.variableSupply
    have here := h₂.variableSupply
    have and_back := h₂₁.variableSupply
    omega
  have elTokenSupply : (left.reserves asset).elToken.totalSupply =
      (right.reserves asset).elToken.totalSupply := by
    have there := h₁.elTokenSupply
    have and_on := h₁₂.elTokenSupply
    have here := h₂.elTokenSupply
    have and_back := h₂₁.elTokenSupply
    omega
  have marks := h₁.marks_commute h₁₂ h₂ h₂₁ apart
  have reads := congrFun (congrArg LendingPool.reserves kept) asset
  simp only [unposted, Function.update_self] at reads
  have liquidity : left.underlyingBalance asset = right.underlyingBalance asset := by
    have address : (left.reserves asset).elTokenAddress = (right.reserves asset).elTokenAddress :=
      congrArg (·.elTokenAddress) reads
    simp only [LendingPool.underlyingBalance, ERC20.balanceOf, address, underlying]
  have market : left.lendingRateOracle = right.lendingRateOracle := by
    have same := congrArg LendingPool.lendingRateOracle kept
    exact same
  rw [liquidity, RatesAt, market] at described
  exact eq_of_posts kept
    (h₁.elToken.commute h₁₂.elToken h₂.elToken h₂₁.elToken) elTokenSupply
    (h₁.variableDebt.commute h₁₂.variableDebt h₂.variableDebt h₂₁.variableDebt) variableSupply
    underlying (Function.uncurry_injective allowances) marks
    (rates_of_unposted reads variableSupply described' described)

end LendingPool

end ElectroLend
