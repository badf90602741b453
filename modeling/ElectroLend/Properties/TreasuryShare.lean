import ElectroLend.Properties.FullRepayment
import ElectroLend.Properties.IndexGrowth

namespace ElectroLend

open Outcome

theorem ELToken.mintToTreasury_units {token token' : ELToken} {amount index : Nat}
    (h : token.mintToTreasury amount index = .ok token') :
    token' = token.creditTreasury (halfUp (amount * RAY) index) := by
  obtain ⟨minted, hzero, hd, rfl⟩ := mintToTreasury_eq_ok h
  by_cases hz : amount = 0
  · rw [hzero hz, hz, Nat.zero_mul, HalfUp.zero_left]
  · obtain ⟨_, rfl⟩ := rayDiv_eq_ok.mp (hd hz)
    rfl

namespace Reserve

variable {r r' : Reserve} {t index previous timestamp : Nat}

/-- The linear interest since the last update, in ray: what a factor of one ray has grown by. -/
def linearAccrued (r : Reserve) (t : Nat) : Nat :=
  r.currentLiquidityRate * (t - r.lastUpdateTimestamp) / SECONDS_PER_YEAR

theorem linearAccrued_eq_zero (hi : RAY ≤ r.liquidityIndex)
    (h : r.nextLiquidityIndex t = .ok r.liquidityIndex) : r.linearAccrued t = 0 := by
  have same : r.liquidityIndex = halfUp ((r.linearAccrued t + RAY) * r.liquidityIndex) RAY :=
    nextLiquidityIndex_eq_incomeAt h
  by_contra hne
  have more : RAY ≤ r.linearAccrued t * r.liquidityIndex :=
    hi.trans (Nat.le_mul_of_pos_left _ (Nat.pos_of_ne_zero hne))
  have grown : r.liquidityIndex + 1 ≤
      halfUp ((r.linearAccrued t + RAY) * r.liquidityIndex) RAY := by
    refine HalfUp.le_of_mul_le ?_ RAY_pos
    rw [Nat.add_mul, Nat.add_mul, Nat.mul_comm RAY]
    omega
  omega

/-- The first mint of an update is the linear interest factor, as an amount at the old index. -/
theorem mintLinearInterest_units {elToken : ELToken} (hi : RAY ≤ r.liquidityIndex)
    (hnext : r.nextLiquidityIndex t = .ok index) (h : r.mintLinearInterest t index = .ok elToken) :
    elToken = r.elToken.creditTreasury (halfUp (r.linearAccrued t * RAY) r.liquidityIndex) := by
  simp only [mintLinearInterest, ite_eq_ok, bind_eq_ok, Except.ok.injEq, SafeMath.sub_eq_ok] at h
  obtain ⟨_, interest, hl, _, ⟨_, rfl⟩, hm⟩ | ⟨hsame, rfl⟩ := h
  · obtain ⟨_, rfl⟩ := calculateLinearInterest_eq_ok.mp hl
    rw [Nat.add_sub_cancel] at hm
    exact ELToken.mintToTreasury_units hm
  · rw [not_not.mp hsame] at hnext
    rw [linearAccrued_eq_zero hi hnext, Nat.zero_mul, HalfUp.zero_left,
      ELToken.creditTreasury_zero]

/-- The reserve factor's share of the growth of the debts, in scaled units at the new index. -/
def ShareOfGrowth (r : Reserve) (t variableIndex liquidityIndex share : Nat) : Prop :=
  (r.configuration.getReserveFactor = 0 ∧ share = 0) ∨
    (r.configuration.getReserveFactor ≠ 0 ∧ ∃ accrued minted,
      r.DebtGrowth t variableIndex accrued ∧
      percentMul accrued r.configuration.getReserveFactor = .ok minted ∧
      rayDiv minted liquidityIndex = .ok share)

theorem DebtGrowth.unique {accrued accrued' : Nat} (h : r.DebtGrowth t index accrued)
    (h' : r.DebtGrowth t index accrued') : accrued = accrued' := by
  obtain ⟨_, _, _, _, hvb, hva, hsb, hsa, sum⟩ := h
  obtain ⟨_, _, _, _, hvb', hva', hsb', hsa', sum'⟩ := h'
  cases ok_unique hvb hvb'
  cases ok_unique hva hva'
  cases ok_unique hsb hsb'
  cases ok_unique hsa hsa'
  omega

theorem ShareOfGrowth.unique {liquidityIndex share share' : Nat}
    (h : r.ShareOfGrowth t index liquidityIndex share)
    (h' : r.ShareOfGrowth t index liquidityIndex share') : share = share' := by
  obtain ⟨_, rfl⟩ | ⟨hne, _, _, growth, hm, hd⟩ := h
  · obtain ⟨_, rfl⟩ | ⟨hne, _⟩ := h'
    · rfl
    · contradiction
  · obtain ⟨hz, _⟩ | ⟨_, _, _, growth', hm', hd'⟩ := h'
    · contradiction
    · cases growth.unique growth'
      cases ok_unique hm hm'
      exact ok_unique hd hd'

/-- `_mintToTreasury` mints the share of the growth between the index and time it is given and those
that are already stored. -/
theorem mintToTreasury_share {elToken : ELToken} (hi : RAY ≤ r.liquidityIndex)
    (h : r.mintToTreasury t previous timestamp = .ok elToken) :
    ∃ share, elToken = r.elToken.creditTreasury share ∧
      ShareOfGrowth { r with variableBorrowIndex := previous, lastUpdateTimestamp := timestamp } t
        r.variableBorrowIndex r.liquidityIndex share := by
  obtain ⟨share, rfl, ⟨hz, rfl⟩ | ⟨hne, accrued, minted, growth, hm, hzero, hd⟩⟩ :=
    mintToTreasury_growth h
  · exact ⟨0, rfl, .inl ⟨hz, rfl⟩⟩
  · refine ⟨share, rfl, .inr ⟨hne, accrued, minted, growth, hm, ?_⟩⟩
    by_cases hz : minted = 0
    · have hpos : r.liquidityIndex ≠ 0 := Nat.ne_of_gt (Nat.lt_of_lt_of_le RAY_pos hi)
      rw [hzero hz, hz]
      exact rayDiv_eq_ok.mpr ⟨⟨hpos, Nat.zero_le _⟩, by simp⟩
    · exact hd hz

theorem updateState_mints (hi : RAY ≤ r.liquidityIndex) (h : r.updateState t = .ok r') :
    ∃ share, r.ShareOfGrowth t r'.variableBorrowIndex r'.liquidityIndex share ∧
      r'.elToken = r.elToken.creditTreasury
        (halfUp (r.linearAccrued t * RAY) r.liquidityIndex + share) := by
  simp only [updateState, updateIndexes, bind_eq_ok, pure_eq_ok] at h
  obtain ⟨_, _, _, ⟨li, hli, first, hfirst, vi, hvi, rfl⟩, second, hsecond, rfl⟩ := h
  have hfirst := mintLinearInterest_units hi hli hfirst
  obtain ⟨share, hsecond, growth⟩ :=
    mintToTreasury_share (hi.trans (le_nextLiquidityIndex hli)) hsecond
  refine ⟨share, growth, ?_⟩
  rw [← ELToken.creditTreasury_add, ← hfirst]
  exact hsecond

/-- The treasury has gained the share, and so has the supply; nobody else has gained anything. -/
structure TreasuryGains (r r' : Reserve) (share : Nat) : Prop where
  treasury : r'.elToken.scaledBalanceOf r.elToken.treasury =
    r.elToken.scaledBalanceOf r.elToken.treasury + share
  supply : r'.elToken.scaledTotalSupply = r.elToken.scaledTotalSupply + share
  others : ∀ v, v ≠ r.elToken.treasury → r'.elToken.scaledBalanceOf v = r.elToken.scaledBalanceOf v

theorem treasuryGains_iff {minted share : Nat}
    (h : r'.elToken = r.elToken.creditTreasury minted) :
    r.TreasuryGains r' share ↔ minted = share := by
  have balance : r'.elToken.scaledBalanceOf r.elToken.treasury =
      r.elToken.scaledBalanceOf r.elToken.treasury + minted := by
    rw [h]
    simp [ELToken.scaledBalanceOf, ELToken.creditTreasury]
  constructor
  · intro gains
    have := gains.treasury
    omega
  · rintro rfl
    refine ⟨balance, ?_, ?_⟩
    · rw [h]
      rfl
    · intro v hv
      rw [h]
      exact ELToken.creditTreasury_other _ _ hv

/-- The linear interest factor buys nothing only at an index of more than twice its rays. -/
theorem linear_units_eq_zero_iff {accrued index : Nat} (hi : RAY ≤ index) :
    halfUp (accrued * RAY) index = 0 ↔ 2 * (accrued * RAY) < index := by
  have hpos := Nat.lt_of_lt_of_le RAY_pos hi
  have nothing := @HalfUp.ne_zero_iff (accrued * RAY) index hpos
  generalize halfUp (accrued * RAY) index = units at nothing ⊢
  omega

end Reserve

namespace LendingPool

/-- An update of the asset at `t` credits the treasury with the reserve factor's share of the growth
of the debts, and nobody with anything else. -/
def CreditsShare (pool pool' : LendingPool) (t : Nat) (asset : Address) : Prop :=
  ∃ share, (pool.reserves asset).ShareOfGrowth t (pool'.reserves asset).variableBorrowIndex
      (pool'.reserves asset).liquidityIndex share ∧
    (pool.reserves asset).TreasuryGains (pool'.reserves asset) share

theorem updateState_creditsShare_iff {pool pool' : LendingPool} {t : Nat} {asset : Address}
    (hi : RAY ≤ (pool.reserves asset).liquidityIndex)
    (h : pool.updateState t asset = .ok pool') :
    pool.CreditsShare pool' t asset ↔
      2 * ((pool.reserves asset).linearAccrued t * RAY) < (pool.reserves asset).liquidityIndex := by
  obtain ⟨r, hr, rfl⟩ := updateState_eq_ok h
  obtain ⟨share, growth, hmint⟩ := Reserve.updateState_mints hi hr
  unfold CreditsShare
  simp only [setReserve_reserves, Function.update_self]
  rw [← Reserve.linear_units_eq_zero_iff hi]
  constructor
  · rintro ⟨share', growth', gains⟩
    cases growth.unique growth'
    have := (Reserve.treasuryGains_iff hmint).mp gains
    omega
  · intro hz
    rw [hz, Nat.zero_add] at hmint
    exact ⟨share, growth, (Reserve.treasuryGains_iff hmint).mpr rfl⟩

end LendingPool

open LendingPool

/-- In every visited state and for every reserve factor: an update credits the treasury with the
reserve factor's share of the growth of the debts and with nothing else exactly when the linear
interest factor is too small to buy a unit at the old index. -/
theorem treasury_credited_share_iff {rules : Rules} {t : Nat} {pool pool' : LendingPool}
    {asset : Address} (visited : Visited rules t pool)
    (h : pool.updateState t asset = .ok pool') :
    pool.CreditsShare pool' t asset ↔
      2 * ((pool.reserves asset).linearAccrued t * RAY) < (pool.reserves asset).liquidityIndex := by
  refine updateState_creditsShare_iff ?_ h
  refine (visited.inRange asset).liquidityIndex_ge ?_
  obtain hblank | ⟨hl, _⟩ := visited.marked.listing.known asset
  · obtain ⟨r, hr, _⟩ := updateState_eq_ok h
    obtain ⟨_, _, _, listed, _⟩ := Reserve.updateState_eq_ok hr
    exact absurd hblank.variableDebtToken listed
  · exact hl.elToken

/-- All the interest of bob's stable loan goes to the treasury. -/
def stableMarket : LendingPool :=
  Market.endState (Market.setup 10000 ++
    [(1, Market.alice, .deposit Market.weth (10 ^ 20) Market.alice),
      (2, Market.bob, .deposit Market.dai (10 ^ 20) Market.bob),
      (3, Market.bob, .borrow Market.weth (10 ^ 19) 1 Market.bob)])

theorem stableMarket_credits_share :
    ∃ pool', stableMarket.updateState 2592003 Market.weth = .ok pool' ∧
      stableMarket.CreditsShare pool' 2592003 Market.weth ∧
      (stableMarket.reserves Market.weth).elToken.scaledBalanceOf Market.treasury <
        (pool'.reserves Market.weth).elToken.scaledBalanceOf Market.treasury := by
  have reach : Reachable .any 3 stableMarket :=
    Market.endState_reachable (by decide +kernel) (by decide +kernel)
  have ht : IsBlockTimestamp 2592003 := by unfold IsBlockTimestamp; omega
  have visited : Visited .any 2592003 stableMarket :=
    ⟨3, stableMarket, reach, by omega, ht, .between (.refl stableMarket)⟩
  have success : succeedsWith (stableMarket.updateState 2592003 Market.weth) (fun pool' =>
      decide ((stableMarket.reserves Market.weth).elToken.scaledBalanceOf Market.treasury <
        (pool'.reserves Market.weth).elToken.scaledBalanceOf Market.treasury)) = true := by
    decide +kernel
  obtain ⟨pool', hupdate, hmore⟩ := succeedsWith_iff.mp success
  have small : 2 * ((stableMarket.reserves Market.weth).linearAccrued 2592003 * RAY) <
      (stableMarket.reserves Market.weth).liquidityIndex := by decide +kernel
  exact ⟨pool', hupdate, (treasury_credited_share_iff visited hupdate).mpr small,
    of_decide_eq_true hmore⟩

/-- With bob's variable loan, the treasury is credited with the interest factor as well. -/
theorem borrowedMarket_credits_more :
    Reachable .any 3 borrowedMarket ∧
      (borrowedMarket.reserves Market.weth).configuration.getReserveFactor = 1000 ∧
      ∃ pool', borrowedMarket.updateState 2592003 Market.weth = .ok pool' ∧
        ¬borrowedMarket.CreditsShare pool' 2592003 Market.weth := by
  have success : (borrowedMarket.updateState 2592003 Market.weth).isOk = true := by decide +kernel
  obtain ⟨pool', hupdate⟩ := exists_of_isOk success
  have hi : RAY ≤ (borrowedMarket.reserves Market.weth).liquidityIndex := by decide +kernel
  refine ⟨Market.endState_reachable (by decide +kernel) (by decide +kernel), by decide +kernel,
    pool', hupdate, ?_⟩
  rw [updateState_creditsShare_iff hi hupdate]
  decide +kernel

end ElectroLend
