import ElectroLend.Pool.TouchesOnly
import ElectroLend.Properties.Withdrawal

namespace ElectroLend

open Outcome

namespace LendingPool

/-- The collateral bit of the user in the reserve says whether he still holds its elTokens. -/
def BitFollowsBalance (pool : LendingPool) (asset u : Address) : Prop :=
  (pool.usersConfig u).collateralBit (pool.reserves asset).id = true ↔
    0 < (pool.reserves asset).elToken.scaledBalanceOf u

/-- Burning `amount` out of `s` scaled units, with the bit cleared when `amount` is `s`: the bit
follows the balance unless the whole of `s` is taken in more valuable units. -/
theorem bit_follows_burn_iff {s amount index scaled : Nat} (minted : Nat) (hs : 0 < s)
    (hi : RAY ≤ index) (hle : amount ≤ s) (hd : rayDiv amount index = .ok scaled) :
    (¬amount = s ↔ 0 < s + minted - scaled) ↔
      amount < s ∨ (s * (index - RAY) ≤ index / 2 ∧ minted = 0) := by
  have hscaled := rayDiv_le hi hd
  rcases Nat.lt_or_eq_of_le hle with hlt | rfl
  · omega
  · have hexact := rayDiv_eq_self_iff hi hd
    omega

variable {pool pool' : LendingPool} {t amount : Nat} {asset u v : Address}

theorem transferELToken_holdings {validate : Bool} (hne : u ≠ v)
    (h : pool.transferELToken t asset u v amount validate = .ok pool') :
    ∃ index worth scaled, (pool.reserves asset).getNormalizedIncome t = .ok index ∧
      rayMul ((pool.reserves asset).elToken.balances u) index = .ok worth ∧
      rayDiv amount index = .ok scaled ∧ scaled ≤ (pool.reserves asset).elToken.balances u ∧
      (pool'.reserves asset).elToken.balances u =
        (pool.reserves asset).elToken.balances u - scaled ∧
      (pool'.reserves asset).id = (pool.reserves asset).id ∧
      (validate = true → amount ≤ worth ∧ ∀ i, (pool'.usersConfig u).collateralBit i =
        if amount = worth ∧ i = (pool.reserves asset).id then false
        else (pool.usersConfig u).collateralBit i) ∧
      (validate = false → pool'.usersConfig = pool.usersConfig) := by
  obtain ⟨index, worth, beforeTo, scaled, balances, hindex, hworth, _, hd, hmove, moved, rfl, hfin⟩ :=
    transferELToken_eq_ok h
  obtain ⟨hle, hbal⟩ := moveBalance_sender hne hmove
  refine ⟨index, worth, scaled, hindex, hworth, hd, hle, ?_⟩
  obtain ⟨hvalidate, hfin⟩ | ⟨hvalidate, rfl⟩ := hfin
  · obtain ⟨_, _, ⟨heq, _⟩ | ⟨_, hamount, middle, hfrom, hto⟩⟩ := finalizeTransfer_eq_ok hfin
    · exact absurd heq hne
    · have cleared : middle.reserves = (pool.setReserve asset { pool.reserves asset with
            elToken := { (pool.reserves asset).elToken with balances } }).reserves ∧
          ∀ i, (middle.usersConfig u).collateralBit i =
            if amount = worth ∧ i = (pool.reserves asset).id then false
            else (pool.usersConfig u).collateralBit i := by
        obtain ⟨hall, hset⟩ | ⟨hpart, rfl⟩ := hfrom
        · obtain ⟨hres, _, hbits, _⟩ := setUsingAsCollateral_holdings hset
          refine ⟨hres, fun i => ?_⟩
          rw [hbits]
          simp [hall]
        · refine ⟨rfl, fun i => ?_⟩
          rw [if_neg (fun hand => hpart hand.1)]
          rfl
      obtain ⟨hres, hbits⟩ := cleared
      have final : pool'.reserves = middle.reserves ∧
          pool'.usersConfig u = middle.usersConfig u := by
        obtain ⟨_, _, hset⟩ | ⟨_, rfl⟩ := hto
        · obtain ⟨hres', _, _, hother⟩ := setUsingAsCollateral_holdings hset
          exact ⟨hres', hother u hne⟩
        · exact ⟨rfl, rfl⟩
      obtain ⟨hres', hconfig⟩ := final
      refine ⟨by simp [hres', hres, hbal], by simp [hres', hres], fun _ => ⟨hamount, ?_⟩, ?_⟩
      · intro i
        rw [hconfig]
        exact hbits i
      · intro hno
        rw [hvalidate] at hno
        cases hno
  · refine ⟨by simp [hbal], by simp, ?_, fun _ => rfl⟩
    intro hyes
    rw [hvalidate] at hyes
    cases hyes

/-- A validated transfer out of `u` clears the bit exactly when the amount is what the balance is
worth; a smaller amount that still takes all scaled units leaves the bit. -/
theorem transfer_bit_follows_iff (hl : RAY ≤ (pool.reserves asset).liquidityIndex)
    (hset : (pool.usersConfig u).collateralBit (pool.reserves asset).id = true)
    (hne : u ≠ v) (h : pool.transferELToken t asset u v amount true = .ok pool') :
    ∃ index worth, (pool.reserves asset).getNormalizedIncome t = .ok index ∧
      rayMul ((pool.reserves asset).elToken.balances u) index = .ok worth ∧
      (pool'.BitFollowsBalance asset u ↔ amount = worth ∨
        amount * RAY + index / 2 < (pool.reserves asset).elToken.balances u * index) := by
  obtain ⟨index, worth, scaled, hindex, hworth, hd, hle, hbal, hid, hval, _⟩ :=
    transferELToken_holdings hne h
  obtain ⟨hamount, hbits⟩ := hval rfl
  refine ⟨index, worth, hindex, hworth, ?_⟩
  have hi : RAY ≤ index := hl.trans (Reserve.le_getNormalizedIncome hindex)
  have hpos : 0 < index := by unfold RAY at hi; omega
  simp only [BitFollowsBalance, ELToken.scaledBalanceOf, hid, hbal, hbits, and_true, hset]
  by_cases hall : amount = worth
  · subst hall
    have hround := rayDiv_rayMul hi hworth hd
    simp [hround]
  · have taken : scaled < (pool.reserves asset).elToken.balances u ↔
        amount * RAY + index / 2 < (pool.reserves asset).elToken.balances u * index := by
      obtain ⟨_, rfl⟩ := rayDiv_eq_ok.mp hd
      exact Nat.div_lt_iff_lt_mul hpos
    simp only [hall, if_false, true_iff, false_or]
    rw [← taken]
    omega

/-- The collateral that a liquidation takes, from the state before it. -/
def collateralToLiquidate (pool : LendingPool) (t : Nat) (collateralAsset debtAsset user : Address)
    (debtToCover : Nat) : Result Nat := do
  let (stableDebt, variableDebt) ← (pool.reserves debtAsset).getUserCurrentDebt t user
  let totalDebt ← SafeMath.add stableDebt variableDebt
  let maxLiquidatableDebt ← percentMul totalDebt LIQUIDATION_CLOSE_FACTOR_PERCENT
  let (collateral, _) ← pool.calculateAvailableCollateralToLiquidate collateralAsset debtAsset
    (debtToLiquidate debtToCover maxLiquidatableDebt)
    ((pool.reserves collateralAsset).elToken.balances user)
  pure collateral

variable {collateralAsset debtAsset liquidator : Address}

theorem calculateAvailableCollateralToLiquidate_le {debtToCover balance collateral needed : Nat}
    (h : pool.calculateAvailableCollateralToLiquidate collateralAsset debtAsset debtToCover balance =
      .ok (collateral, needed)) : collateral ≤ balance := by
  simp only [calculateAvailableCollateralToLiquidate, debtNeededForCollateral, bind_eq_ok,
    ite_eq_ok, pure_eq_ok, Except.ok.injEq, Prod.mk.injEq] at h
  obtain ⟨_, _, _, _, _, _, _, _, most, _, ⟨_, _, _, _, _, _, _, _, _, _, _, rfl, _⟩ | ⟨hle, rfl, _⟩⟩ := h
  · exact Nat.le_refl _
  · omega

/-- The accrual of a reserve up to `t` leaves the user with this much more, from the index it
stores. -/
def AccruesTo (r : Reserve) (t : Nat) (u : Address) (index minted : Nat) : Prop :=
  r.nextLiquidityIndex t = .ok index ∧
    ∃ r', r.updateState t = .ok r' ∧ r'.elToken.balances u = r.elToken.balances u + minted

/-- What taking over collateral does to the units of the user, at which index. -/
theorem seizeCollateral_holdings {receiveLToken : Bool} (hne : u ≠ liquidator)
    (h : pool.seizeCollateral t liquidator asset u amount receiveLToken = .ok pool') :
    ∃ index minted scaled,
      ((receiveLToken = true ∧ (pool.reserves asset).getNormalizedIncome t = .ok index ∧
          minted = 0) ∨
        (receiveLToken = false ∧ AccruesTo (pool.reserves asset) t u index minted)) ∧
      rayDiv amount index = .ok scaled ∧
      scaled ≤ (pool.reserves asset).elToken.balances u + minted ∧
      (pool'.reserves asset).elToken.balances u =
        (pool.reserves asset).elToken.balances u + minted - scaled ∧
      (pool'.reserves asset).id = (pool.reserves asset).id ∧
      pool'.usersConfig u = pool.usersConfig u := by
  obtain ⟨hflag, p₁, htransfer, hbit⟩ | ⟨hflag, p₁, p₂, h₁, h₂, h₃⟩ := seizeCollateral_eq_ok h
  · obtain ⟨index, _, scaled, hindex, _, hd, hle, hbal, hid, _, hconf⟩ :=
      transferELToken_holdings hne htransfer
    refine ⟨index, 0, scaled, .inl ⟨hflag, hindex, rfl⟩, hd, by omega, ?_⟩
    obtain ⟨_, hset⟩ | ⟨_, rfl⟩ := hbit
    · obtain ⟨hres, _, _, hother⟩ := setUsingAsCollateral_holdings hset
      rw [hres, hother u hne, hconf rfl]
      exact ⟨by rw [hbal]; rfl, hid, rfl⟩
    · rw [hconf rfl]
      exact ⟨by rw [hbal]; rfl, hid, rfl⟩
  · obtain ⟨index, minted, hindex, hcredit, _, hli, _, hbal₁, _, hid₁, hconf₁, _⟩ :=
      updateState_holdings h₁ u
    obtain ⟨rates, _⟩ := updateInterestRates_holdings h₂ asset
    obtain ⟨scaled, hd, hle, hbal, hid, hconf, _⟩ := burnELToken_holdings h₃
    rw [rates.index, hli] at hd
    rw [rates.elToken, hbal₁] at hle hbal
    refine ⟨index, minted, scaled, .inr ⟨by simpa using hflag, hindex, hcredit⟩, hd, hle, hbal,
      hid.trans (rates.id.trans hid₁), ?_⟩
    rw [hconf, rates.config, hconf₁]

/-- The amount that is taken is read off the state before the call. -/
theorem coverDebt_collateral {debtToCover : Nat} {debt : CoveredDebt}
    (h : pool.coverDebt t collateralAsset debtAsset u debtToCover = .ok debt) :
    debt.userCollateralBalance = (pool.reserves collateralAsset).elToken.balances u ∧
      pool.collateralToLiquidate t collateralAsset debtAsset u debtToCover =
        .ok debt.maxCollateralToLiquidate ∧
      debt.maxCollateralToLiquidate ≤ (pool.reserves collateralAsset).elToken.balances u := by
  obtain ⟨stable, variableDebt, most, needed, _, _, hs, hv, hbalance, hsum, hmost, hamount, _⟩ :=
    coverDebt_eq_ok h
  simp only [Reserve.elTokenBalanceOf, bind_eq_ok, pure_eq_ok] at hbalance
  obtain ⟨_, _, hbalance⟩ := hbalance
  have hunits : debt.userCollateralBalance =
      (pool.reserves collateralAsset).elToken.balances u := hbalance.symm
  rw [hunits] at hamount
  refine ⟨hunits, ?_, calculateAvailableCollateralToLiquidate_le hamount⟩
  simp only [collateralToLiquidate, Reserve.getUserCurrentDebt, hs, hv, ok_bind, pure_bind,
    SafeMath.add, if_pos hsum, hmost, hamount]
  rfl

/-- The call up to the seizure, seen from the collateral: another asset is not touched, and the
accrual of the same asset is the one that the seizure would have made. -/
theorem coverDebt_accrues {debtToCover index minted : Nat} {debt : CoveredDebt}
    {receiveLToken : Bool} (ht : IsBlockTimestamp t)
    (h : pool.coverDebt t collateralAsset debtAsset u debtToCover = .ok debt)
    (hindex : (receiveLToken = true ∧
          (debt.pool.reserves collateralAsset).getNormalizedIncome t = .ok index ∧ minted = 0) ∨
        (receiveLToken = false ∧
          AccruesTo (debt.pool.reserves collateralAsset) t u index minted)) :
    ∃ accrued, (debt.pool.reserves collateralAsset).elToken.balances u + minted =
        (pool.reserves collateralAsset).elToken.balances u + accrued ∧
      (debt.pool.reserves collateralAsset).id = (pool.reserves collateralAsset).id ∧
      debt.pool.usersConfig = pool.usersConfig ∧
      ((receiveLToken = true ∧ collateralAsset ≠ debtAsset ∧ accrued = 0 ∧
          (pool.reserves collateralAsset).getNormalizedIncome t = .ok index) ∨
        (¬(receiveLToken = true ∧ collateralAsset ≠ debtAsset) ∧
          AccruesTo (pool.reserves collateralAsset) t u index accrued)) := by
  obtain ⟨_, _, _, _, p₁, p₂, _, _, _, _, _, _, _, h₁, h₂, h₃⟩ := coverDebt_eq_ok h
  have paid := (burnLiquidatedDebt_holdings h₂ collateralAsset).trans
    (updateInterestRates_holdings h₃ collateralAsset).1
  by_cases hsame : collateralAsset = debtAsset
  · subst hsame
    obtain ⟨index₁, minted₁, hindex₁, hcredit, _, hli, htime, hbal₁, _, hid₁, hconf₁, _⟩ :=
      updateState_holdings h₁ u
    have hnow : (debt.pool.reserves collateralAsset).lastUpdateTimestamp = t := by
      rw [paid.timestamp, htime, ht.uint40]
    have hindex₃ : (debt.pool.reserves collateralAsset).liquidityIndex = index₁ := by
      rw [paid.index, hli]
    have settled : index = index₁ ∧ minted = 0 := by
      obtain ⟨_, hview, hz⟩ | ⟨_, hnext, r', hr', hcredit'⟩ := hindex
      · refine ⟨?_, hz⟩
        rw [Reserve.getNormalizedIncome, hnow, ht.uint40, if_pos rfl] at hview
        rw [← Except.ok.inj hview, hindex₃]
      · rw [Reserve.updateState_again ht hnow hr'] at hcredit'
        refine ⟨?_, by omega⟩
        rw [Reserve.nextLiquidityIndex_again hnow hnext, hindex₃]
    obtain ⟨rfl, rfl⟩ := settled
    refine ⟨minted₁, ?_, paid.id.trans hid₁, paid.config.trans hconf₁, .inr ⟨?_, hindex₁, hcredit⟩⟩
    · rw [paid.elToken, hbal₁]
      rfl
    · rintro ⟨_, hdiff⟩
      exact hdiff rfl
  · have touched := (updateState_touches h₁).trans
      ((burnLiquidatedDebt_touches h₂).trans (updateInterestRates_touches h₃))
    have hres := touched.reserves collateralAsset hsame
    have hconf₁ := (updateState_holdings_other h₁ hsame).config
    rw [hres] at hindex ⊢
    refine ⟨minted, rfl, rfl, paid.config.trans hconf₁, ?_⟩
    obtain ⟨hflag, hview, hz⟩ | ⟨hflag, haccrues⟩ := hindex
    · exact .inl ⟨hflag, hsame, hz, hview⟩
    · refine .inr ⟨?_, haccrues⟩
      rw [hflag]
      simp

theorem cleared_when_taken {balance : Nat}
    (h : (amount = balance ∧
        pool.setUsingAsCollateral u (pool.reserves asset).id false = .ok pool') ∨
      (amount ≠ balance ∧ pool = pool')) :
    pool'.reserves = pool.reserves ∧ ∀ i, (pool'.usersConfig u).collateralBit i =
      if amount = balance ∧ i = (pool.reserves asset).id then false
      else (pool.usersConfig u).collateralBit i := by
  obtain ⟨hall, hset⟩ | ⟨hpart, rfl⟩ := h
  · obtain ⟨hres, _, hbits, _⟩ := setUsingAsCollateral_holdings hset
    refine ⟨hres, fun i => ?_⟩
    rw [hbits]
    simp only [hall, true_and]
  · refine ⟨rfl, fun i => ?_⟩
    rw [if_neg (fun hand => hpart hand.1)]

theorem liquidationCall_collateral {debtToCover : Nat} {receiveLToken : Bool}
    (ht : IsBlockTimestamp t) (hne : u ≠ liquidator)
    (h : pool.liquidationCall t liquidator collateralAsset debtAsset u debtToCover receiveLToken =
      .ok pool') :
    ∃ amount index minted scaled,
      pool.collateralToLiquidate t collateralAsset debtAsset u debtToCover = .ok amount ∧
      amount ≤ (pool.reserves collateralAsset).elToken.balances u ∧
      ((receiveLToken = true ∧ collateralAsset ≠ debtAsset ∧ minted = 0 ∧
          (pool.reserves collateralAsset).getNormalizedIncome t = .ok index) ∨
        (¬(receiveLToken = true ∧ collateralAsset ≠ debtAsset) ∧
          AccruesTo (pool.reserves collateralAsset) t u index minted)) ∧
      rayDiv amount index = .ok scaled ∧
      (pool'.reserves collateralAsset).elToken.balances u =
        (pool.reserves collateralAsset).elToken.balances u + minted - scaled ∧
      (pool'.reserves collateralAsset).id = (pool.reserves collateralAsset).id ∧
      (∀ i, (pool'.usersConfig u).collateralBit i =
        if amount = (pool.reserves collateralAsset).elToken.balances u ∧
            i = (pool.reserves collateralAsset).id then false
        else (pool.usersConfig u).collateralBit i) := by
  obtain ⟨debt, seized, marked, hcover, _, hseize, hbit, hpull⟩ := liquidationCall_eq_ok h
  obtain ⟨hbalance, hpure, hle⟩ := coverDebt_collateral hcover
  obtain ⟨index, minted, scaled, hindex, hd, _, hbal, hid, hconf⟩ :=
    seizeCollateral_holdings hne hseize
  obtain ⟨accrued, hunits, hid', hconf', hcase⟩ := coverDebt_accrues ht hcover hindex
  obtain ⟨hres, hbits⟩ := cleared_when_taken hbit
  have last := pullUnderlying_holdings hpull collateralAsset
  refine ⟨_, index, accrued, scaled, hpure, hle, hcase, hd, ?_, ?_, ?_⟩
  · rw [last.elToken, hres, hbal, hunits]
  · rw [last.id, hres, hid, hid']
  · intro i
    rw [last.config, hbits, hbalance, hid, hid', hconf, hconf']

end LendingPool

open LendingPool

/-- For a user whose collateral bit is set and who holds elTokens of the reserve, with `s` his
scaled balance, exactly when the bit follows the balance through each operation that takes elTokens
from him. -/
theorem collateral_bit_follows_balance_iff {pool : LendingPool} {t : Nat} {asset u : Address}
    (ht : IsBlockTimestamp t) (hl : RAY ≤ (pool.reserves asset).liquidityIndex)
    (hset : (pool.usersConfig u).collateralBit (pool.reserves asset).id = true)
    (hpos : 0 < (pool.reserves asset).elToken.scaledBalanceOf u) :
    (∀ amount recipient paid pool', pool.withdraw t u asset amount recipient = .ok (paid, pool') →
      ∃ index minted, AccruesTo (pool.reserves asset) t u index minted ∧
        (pool'.BitFollowsBalance asset u ↔
          amountToWithdraw amount ((pool.reserves asset).elToken.scaledBalanceOf u) <
              (pool.reserves asset).elToken.scaledBalanceOf u ∨
            ((pool.reserves asset).elToken.scaledBalanceOf u * (index - RAY) ≤ index / 2 ∧
              minted = 0))) ∧
    (∀ amount v pool', v ≠ u →
      (pool.elTokenTransfer t u asset v amount = .ok pool' ∨
        ∃ msgSender, pool.elTokenTransferFrom t msgSender asset u v amount = .ok pool') →
      ∃ index worth, (pool.reserves asset).getNormalizedIncome t = .ok index ∧
        rayMul ((pool.reserves asset).elToken.scaledBalanceOf u) index = .ok worth ∧
        (pool'.BitFollowsBalance asset u ↔ amount = worth ∨
          amount * RAY + index / 2 <
            (pool.reserves asset).elToken.scaledBalanceOf u * index)) ∧
    (∀ liquidator debtAsset debtToCover receiveLToken pool', liquidator ≠ u →
      pool.liquidationCall t liquidator asset debtAsset u debtToCover receiveLToken = .ok pool' →
      ∃ amount index minted,
        pool.collateralToLiquidate t asset debtAsset u debtToCover = .ok amount ∧
        ((receiveLToken = true ∧ asset ≠ debtAsset ∧ minted = 0 ∧
            (pool.reserves asset).getNormalizedIncome t = .ok index) ∨
          (¬(receiveLToken = true ∧ asset ≠ debtAsset) ∧
            AccruesTo (pool.reserves asset) t u index minted)) ∧
        (pool'.BitFollowsBalance asset u ↔
          amount < (pool.reserves asset).elToken.scaledBalanceOf u ∨
            ((pool.reserves asset).elToken.scaledBalanceOf u * (index - RAY) ≤ index / 2 ∧
              minted = 0))) := by
  refine ⟨?_, ?_, ?_⟩
  · intro amount recipient paid pool' h
    obtain ⟨hpaid, _, hle, index, minted, scaled, hindex, hd, hcredit, _, _, hbal, hid, hbits, _⟩ :=
      withdraw_effect h
    have hi := hl.trans (Reserve.le_nextLiquidityIndex hindex)
    refine ⟨index, minted, ⟨hindex, hcredit⟩, ?_⟩
    have follows := bit_follows_burn_iff minted hpos hi hle hd
    simp only [ELToken.scaledBalanceOf, ← hpaid] at follows ⊢
    rw [← follows, BitFollowsBalance, hid, hbits, ELToken.scaledBalanceOf, hbal, hset]
    simp
  · intro amount v pool' hv htransfer
    obtain htransfer | ⟨msgSender, htransfer⟩ := htransfer
    · simp only [elTokenTransfer, bind_eq_ok] at htransfer
      obtain ⟨_, _, htransfer⟩ := htransfer
      exact transfer_bit_follows_iff hl hset (Ne.symm hv) htransfer
    · obtain ⟨moved, _, _, hmoved, _, happrove, rfl⟩ := elTokenTransferFrom_eq_ok htransfer
      cases ELToken.approve_eq_ok happrove
      obtain ⟨index, worth, hindex, hworth, follows⟩ :=
        transfer_bit_follows_iff hl hset (Ne.symm hv) hmoved
      refine ⟨index, worth, hindex, hworth, ?_⟩
      simp only [ELToken.scaledBalanceOf]
      rw [← follows]
      simp [BitFollowsBalance, ELToken.scaledBalanceOf]
  · intro liquidator debtAsset debtToCover receiveLToken pool' hne h
    obtain ⟨amount, index, minted, scaled, hamount, hle, hcase, hd, hbal, hid, hbits⟩ :=
      liquidationCall_collateral ht (Ne.symm hne) h
    have hi : RAY ≤ index := by
      obtain ⟨_, _, _, hview⟩ | ⟨_, hnext, _⟩ := hcase
      · exact hl.trans (Reserve.le_getNormalizedIncome hview)
      · exact hl.trans (Reserve.le_nextLiquidityIndex hnext)
    refine ⟨amount, index, minted, hamount, hcase, ?_⟩
    have follows := bit_follows_burn_iff minted hpos hi hle hd
    simp only [ELToken.scaledBalanceOf] at follows ⊢
    rw [← follows, BitFollowsBalance, hid, hbits, ELToken.scaledBalanceOf, hbal, hset]
    simp

/-- Alice withdraws her whole balance and keeps elTokens that no longer count as collateral. -/
theorem accruedMarket_bit_dropped :
    Reachable .any 2592003 accruedMarket ∧
      RAY ≤ (accruedMarket.reserves Market.weth).liquidityIndex ∧
      (accruedMarket.usersConfig Market.alice).collateralBit
        (accruedMarket.reserves Market.weth).id = true ∧
      0 < (accruedMarket.reserves Market.weth).elToken.scaledBalanceOf Market.alice ∧
      ∃ paid pool',
        accruedMarket.withdraw 2592003 Market.alice Market.weth uint256Max Market.alice =
          .ok (paid, pool') ∧
        ¬pool'.BitFollowsBalance Market.weth Market.alice := by
  refine ⟨Market.endState_reachable (by decide +kernel) (by decide +kernel), by decide +kernel,
    by decide +kernel, by decide +kernel, ?_⟩
  have withdrawn : succeedsWith
      (accruedMarket.withdraw 2592003 Market.alice Market.weth uint256Max Market.alice)
      (fun result => decide ((result.2.usersConfig Market.alice).collateralBit
          (result.2.reserves Market.weth).id = false ∧
        0 < (result.2.reserves Market.weth).elToken.scaledBalanceOf Market.alice)) = true := by
    decide +kernel
  obtain ⟨⟨paid, pool'⟩, hw, hafter⟩ := succeedsWith_iff.mp withdrawn
  simp only [decide_eq_true_eq] at hafter
  refine ⟨paid, pool', hw, fun follows => ?_⟩
  have hbit := follows.mpr hafter.2
  rw [hafter.1] at hbit
  cases hbit

/-- A withdrawal of half the balance keeps the bit and a balance. -/
theorem accruedMarket_bit_follows :
    ∃ paid pool', accruedMarket.withdraw 2592003 Market.alice Market.weth (5 * 10 ^ 19)
        Market.alice = .ok (paid, pool') ∧
      pool'.BitFollowsBalance Market.weth Market.alice := by
  have success : (accruedMarket.withdraw 2592003 Market.alice Market.weth (5 * 10 ^ 19)
      Market.alice).isOk = true := by decide +kernel
  obtain ⟨⟨paid, pool'⟩, hw⟩ := exists_of_isOk success
  have index : RAY ≤ (accruedMarket.reserves Market.weth).liquidityIndex := by decide +kernel
  have bit : (accruedMarket.usersConfig Market.alice).collateralBit
      (accruedMarket.reserves Market.weth).id = true := by decide +kernel
  have held : 0 < (accruedMarket.reserves Market.weth).elToken.scaledBalanceOf Market.alice := by
    decide +kernel
  obtain ⟨withdraws, _⟩ := collateral_bit_follows_balance_iff
    (show (2592003 : Nat) < 2 ^ 40 by decide) index bit held
  obtain ⟨index, minted, _, follows⟩ := withdraws _ _ _ _ hw
  exact ⟨paid, pool', hw, follows.mpr (.inl (by decide +kernel))⟩

end ElectroLend
