import ElectroLend.Pool.Holdings

namespace ElectroLend

open Outcome

/-- A treasury with no more units, and the same supply: what can be minted to the one can be minted
to the other. -/
structure ELToken.MintsLike (token other : ELToken) : Prop where
  treasury : token.treasury = other.treasury
  supply : token.totalSupply = other.totalSupply
  balance : token.balances other.treasury ≤ other.balances other.treasury

theorem ELToken.MintsLike.creditTreasury {token other : ELToken} (h : token.MintsLike other)
    (minted : Nat) : (token.creditTreasury minted).MintsLike (other.creditTreasury minted) where
  treasury := h.treasury
  supply := by simp [ELToken.creditTreasury, h.supply]
  balance := by
    have hle := h.balance
    simp [ELToken.creditTreasury, h.treasury]
    omega

theorem ELToken.MintsLike.mintToTreasury {token other other' : ELToken} {amount index : Nat}
    (like : token.MintsLike other) (h : other.mintToTreasury amount index = .ok other') :
    ∃ minted, other' = other.creditTreasury minted ∧
      token.mintToTreasury amount index = .ok (token.creditTreasury minted) := by
  unfold ELToken.mintToTreasury at h ⊢
  split at h
  next hz =>
    cases Except.ok.inj h
    exact ⟨0, by simp, by simp [hz]⟩
  next hz =>
    simp only [IncentivizedERC20.mint, bind_eq_ok, require_eq_ok, SafeMath.add_eq_ok,
      pure_eq_ok] at h
    obtain ⟨minted, hd, _, ⟨_, htreasury, _, ⟨hsupply, rfl⟩, _, ⟨hbalance, rfl⟩, rfl⟩, rfl⟩ := h
    refine ⟨minted, rfl, ?_⟩
    rw [if_neg hz]
    have hle := like.balance
    simp only [IncentivizedERC20.mint, bind_eq_ok, require_eq_ok, SafeMath.add_eq_ok, pure_eq_ok]
    refine ⟨minted, hd, _, ⟨(), ?_, _, ⟨?_, rfl⟩, _, ⟨?_, rfl⟩, rfl⟩, rfl⟩
    · rw [like.treasury]
      exact htreasury
    · rw [like.supply]
      exact hsupply
    · rw [like.treasury]
      omega

namespace Reserve

variable {r r' : Reserve} {t index : Nat} {token : ELToken}

theorem getNormalizedIncome_of_next (hlast : r.lastUpdateTimestamp ≤ t)
    (hfits : r.liquidityIndex ≤ uint128Max) (hn : r.nextLiquidityIndex t = .ok index) :
    ∃ view, r.getNormalizedIncome t = .ok view := by
  have hlinear : ∃ cumulated view,
      calculateLinearInterest r.currentLiquidityRate r.lastUpdateTimestamp t = .ok cumulated ∧
        rayMul cumulated r.liquidityIndex = .ok view := by
    obtain ⟨hz, _⟩ | ⟨_, cumulated, hc, hm, _⟩ := nextLiquidityIndex_eq_ok hn
    · refine ⟨RAY, r.liquidityIndex, ?_, ?_⟩
      · rw [hz]
        refine calculateLinearInterest_eq_ok.mpr ⟨⟨hlast, ?_, ?_⟩, ?_⟩
        · rw [Nat.zero_mul]
          exact Nat.zero_le _
        · rw [Nat.zero_mul]
          decide
        · rw [Nat.zero_mul]
          decide
      · refine rayMul_eq_ok.mpr ⟨?_, ?_⟩
        · have hle := Nat.mul_le_mul_left RAY hfits
          have hmax : RAY * uint128Max + halfRAY ≤ uint256Max := by decide
          omega
        · rw [Nat.mul_comm]
          exact HalfUp.mul_self_left _ RAY_pos
    · exact ⟨cumulated, index, hc, hm⟩
  obtain ⟨cumulated, view, hc, hm⟩ := hlinear
  unfold getNormalizedIncome
  by_cases hnow : r.lastUpdateTimestamp = uint40 t
  · exact ⟨_, if_pos hnow⟩
  · exact ⟨view, by simp only [if_neg hnow, hc, ok_bind, hm]⟩

theorem mintLinearInterest_like {minter : ELToken} (like : token.MintsLike r.elToken)
    (h : r.mintLinearInterest t index = .ok minter) :
    ∃ minted, minter = r.elToken.creditTreasury minted ∧
      { r with elToken := token }.mintLinearInterest t index =
        .ok (token.creditTreasury minted) := by
  unfold mintLinearInterest at h ⊢
  split at h
  next hne =>
    simp only [bind_eq_ok] at h
    obtain ⟨interest, hc, amount, ha, hm⟩ := h
    obtain ⟨minted, rfl, hmint⟩ := like.mintToTreasury hm
    refine ⟨minted, rfl, ?_⟩
    rw [if_pos hne]
    simp only [bind_eq_ok]
    exact ⟨interest, hc, amount, ha, hmint⟩
  next he =>
    cases Except.ok.inj h
    exact ⟨0, by simp, by rw [if_neg he]; simp⟩

theorem mintToTreasury_like {minter : ELToken} {previous timestamp : Nat}
    (like : token.MintsLike r.elToken) (h : r.mintToTreasury t previous timestamp = .ok minter) :
    ∃ minted, minter = r.elToken.creditTreasury minted ∧
      { r with elToken := token }.mintToTreasury t previous timestamp =
        .ok (token.creditTreasury minted) := by
  simp only [mintToTreasury] at h ⊢
  split at h
  next hz =>
    cases Except.ok.inj h
    exact ⟨0, by simp, by rw [if_pos hz]; simp⟩
  next hz =>
    rw [if_neg hz]
    simp only [bind_eq_ok, Prod.exists, ite_eq_ok, Except.ok.injEq] at h ⊢
    obtain ⟨principal, stable, average, updated, hs, previousDebt, hp, currentDebt, hcd, factor, hf,
      stableBefore, hsb, total, hsum, beyond, hbeyond, accrued, haccrued, share, hshare, hmint⟩ := h
    have minting : ∃ minted, minter = r.elToken.creditTreasury minted ∧
        ((share ≠ 0 ∧ token.mintToTreasury share r.liquidityIndex =
            .ok (token.creditTreasury minted)) ∨
          (¬share ≠ 0 ∧ token = token.creditTreasury minted)) := by
      obtain ⟨hne, hm⟩ | ⟨he, rfl⟩ := hmint
      · obtain ⟨minted, rfl, hmint⟩ := like.mintToTreasury hm
        exact ⟨minted, rfl, .inl ⟨hne, hmint⟩⟩
      · exact ⟨0, by simp, .inr ⟨he, by simp⟩⟩
    obtain ⟨minted, rfl, hcredit⟩ := minting
    exact ⟨minted, rfl, principal, stable, average, updated, hs, previousDebt, hp, currentDebt, hcd,
      factor, hf, stableBefore, hsb, total, hsum, beyond, hbeyond, accrued, haccrued, share, hshare,
      hcredit⟩

theorem updateState_like (like : token.MintsLike r.elToken) (h : r.updateState t = .ok r') :
    ∃ minted, r'.elToken = r.elToken.creditTreasury minted ∧
      { r with elToken := token }.updateState t =
        .ok { r' with elToken := token.creditTreasury minted } := by
  simp only [updateState, updateIndexes, bind_eq_ok, pure_eq_ok] at h ⊢
  obtain ⟨_, hlisted, _, ⟨li, hli, first, hfirst, vi, hvi, rfl⟩, second, hsecond, rfl⟩ := h
  obtain ⟨linear, rfl, hlinear⟩ := mintLinearInterest_like like hfirst
  obtain ⟨shared, rfl, hshared⟩ := mintToTreasury_like (like.creditTreasury linear) hsecond
  refine ⟨linear + shared, by simp, (), hlisted, _,
    ⟨li, hli, _, hlinear, vi, hvi, rfl⟩, _, hshared, ?_⟩
  simp

theorem updateInterestRates_like {market balance added taken : Nat}
    (h : r.updateInterestRates t market balance added taken = .ok r') :
    { r with elToken := token }.updateInterestRates t market balance added taken =
      .ok { r' with elToken := token } := by
  simp only [updateInterestRates, bind_eq_ok, require_eq_ok, pure_eq_ok] at h ⊢
  obtain ⟨rates, hrates, _, hliquidity, _, hstable, _, hvariable, rfl⟩ := h
  exact ⟨rates, hrates, (), hliquidity, (), hstable, (), hvariable, rfl⟩

end Reserve

namespace LendingPool

/-- Scaled units of an elToken pass from one account to another. -/
def handOver (pool : LendingPool) (asset u v : Address) (scaled : Nat) : LendingPool :=
  let reserve := pool.reserves asset
  let balances := reserve.elToken.balances
  pool.setReserve asset { reserve with
    elToken := { reserve.elToken with
      balances := Function.update (Function.update balances u (balances u - scaled)) v
        (balances v + scaled) } }

/-- The two pools differ at most in bits that mark collateral. -/
structure SameButCollateral (pool pool' : LendingPool) : Prop where
  reserves : pool'.reserves = pool.reserves
  tokens : pool'.tokens = pool.tokens
  paused : pool'.paused = pool.paused
  lendingRateOracle : pool'.lendingRateOracle = pool.lendingRateOracle
  borrowingBit : ∀ w j, (pool'.usersConfig w).borrowingBit j = (pool.usersConfig w).borrowingBit j

/-- What a transfer of elTokens leaves behind, but for allowances and for bits that mark
collateral. -/
structure HandedOver (pool pool' : LendingPool) (asset u v : Address) (scaled : Nat) : Prop where
  covered : scaled ≤ (pool.reserves asset).elToken.balances u
  reserve : pool'.reserves asset =
    { pool.reserves asset with elToken := (pool'.reserves asset).elToken }
  units : (pool'.reserves asset).elToken.toIncentivizedERC20 =
    ((pool.handOver asset u v scaled).reserves asset).elToken.toIncentivizedERC20
  treasury : (pool'.reserves asset).elToken.treasury = (pool.reserves asset).elToken.treasury
  tokens : pool'.tokens = pool.tokens
  paused : pool'.paused = pool.paused
  lendingRateOracle : pool'.lendingRateOracle = pool.lendingRateOracle
  borrowingBit : ∀ w j, (pool'.usersConfig w).borrowingBit j = (pool.usersConfig w).borrowingBit j

variable {pool middle pool' : LendingPool} {t amount paid scaled index : Nat}
  {asset u v spender caller recipient : Address}

theorem SameButCollateral.refl (pool : LendingPool) : pool.SameButCollateral pool :=
  ⟨rfl, rfl, rfl, rfl, fun _ _ => rfl⟩

theorem SameButCollateral.trans (h : pool.SameButCollateral middle)
    (h' : middle.SameButCollateral pool') : pool.SameButCollateral pool' where
  reserves := h'.reserves.trans h.reserves
  tokens := h'.tokens.trans h.tokens
  paused := h'.paused.trans h.paused
  lendingRateOracle := h'.lendingRateOracle.trans h.lendingRateOracle
  borrowingBit w j := (h'.borrowingBit w j).trans (h.borrowingBit w j)

theorem setUsingAsCollateral_sameButCollateral {i : Nat} {value : Bool}
    (h : pool.setUsingAsCollateral u i value = .ok pool') : pool.SameButCollateral pool' := by
  obtain ⟨config, hc, rfl⟩ := setUsingAsCollateral_eq_ok h
  obtain ⟨_, _, hbits⟩ := UserConfigurationMap.setUsingAsCollateral_eq_ok hc
  refine ⟨rfl, rfl, rfl, rfl, ?_⟩
  intro w j
  by_cases hw : w = u
  · subst hw
    simp [hbits]
  · simp [hw]

theorem exists_setUsingAsCollateral {i : Nat} (hi : i < 128) (w : Address) (value : Bool) :
    ∃ pool', pool.setUsingAsCollateral w i value = .ok pool' := by
  obtain ⟨config, hc⟩ :=
    UserConfigurationMap.exists_setUsingAsCollateral (pool.usersConfig w) hi value
  simp only [setUsingAsCollateral, updateUserConfig, hc, ok_bind]
  exact ⟨_, rfl⟩

theorem finalizeTransfer_sameButCollateral {beforeFrom beforeTo : Nat}
    (h : pool.finalizeTransfer t caller asset u v amount beforeFrom beforeTo = .ok pool') :
    pool.SameButCollateral pool' := by
  obtain ⟨_, _, ⟨_, rfl⟩ | ⟨_, _, middle, hout, hin⟩⟩ := finalizeTransfer_eq_ok h
  · exact .refl _
  · have out : pool.SameButCollateral middle := by
      obtain ⟨_, hset⟩ | ⟨_, rfl⟩ := hout
      · exact setUsingAsCollateral_sameButCollateral hset
      · exact .refl _
    obtain ⟨_, _, hset⟩ | ⟨_, rfl⟩ := hin
    · exact out.trans (setUsingAsCollateral_sameButCollateral hset)
    · exact out

theorem exists_finalizeTransfer {beforeFrom beforeTo : Nat}
    (hid : (pool.reserves asset).id < 128) (hpaused : pool.paused = false)
    (hle : amount ≤ beforeFrom) (hvalid : pool.validateTransfer t u = .ok ()) :
    ∃ pool', pool.finalizeTransfer t (pool.reserves asset).elTokenAddress asset u v amount
      beforeFrom beforeTo = .ok pool' := by
  have out : ∃ middle : LendingPool, (beforeFrom - amount = 0 ∧
      pool.setUsingAsCollateral u (pool.reserves asset).id false = .ok middle) ∨
      (¬beforeFrom - amount = 0 ∧ pool = middle) := by
    by_cases hz : beforeFrom - amount = 0
    · obtain ⟨middle, hset⟩ := @exists_setUsingAsCollateral pool _ hid u false
      exact ⟨middle, .inl ⟨hz, hset⟩⟩
    · exact ⟨pool, .inr ⟨hz, rfl⟩⟩
  obtain ⟨middle, hout⟩ := out
  have into : ∃ pool', ((beforeTo = 0 ∧ amount ≠ 0) ∧
      middle.setUsingAsCollateral v (pool.reserves asset).id true = .ok pool') ∨
      (¬(beforeTo = 0 ∧ amount ≠ 0) ∧ middle = pool') := by
    by_cases hfirst : beforeTo = 0 ∧ amount ≠ 0
    · obtain ⟨last, hset⟩ := @exists_setUsingAsCollateral middle _ hid v true
      exact ⟨last, .inl ⟨hfirst, hset⟩⟩
    · exact ⟨middle, .inr ⟨hfirst, rfl⟩⟩
  obtain ⟨last, hin⟩ := into
  simp only [finalizeTransfer, whenNotPaused, bind_eq_ok, require_eq_ok, ite_eq_ok,
    SafeMath.sub_eq_ok, Except.ok.injEq]
  by_cases hne : u ≠ v
  · exact ⟨last, (), by simp [hpaused], (), trivial, (), hvalid,
      .inl ⟨hne, _, ⟨hle, rfl⟩, middle, hout, hin⟩⟩
  · exact ⟨pool, (), by simp [hpaused], (), trivial, (), hvalid, .inr ⟨hne, rfl⟩⟩

theorem elTokenTransferFrom_handsOver (hne : u ≠ v)
    (h : pool.elTokenTransferFrom t spender asset u v amount = .ok pool') :
    ∃ index scaled, (pool.reserves asset).getNormalizedIncome t = .ok index ∧
      (rayMul ((pool.reserves asset).elToken.balances u) index).isOk = true ∧
      (rayMul ((pool.reserves asset).elToken.balances v) index).isOk = true ∧
      rayDiv amount index = .ok scaled ∧
      (pool.handOver asset u v scaled).validateTransfer t u = .ok () ∧
      pool.HandedOver pool' asset u v scaled := by
  obtain ⟨p₁, _, _, h₁, _, happrove, rfl⟩ := elTokenTransferFrom_eq_ok h
  cases ELToken.approve_eq_ok happrove
  obtain ⟨index, beforeFrom, beforeTo, scaled, balances, hindex, hfrom, hto, hd, hmove, moved,
    hmoved, hfinal⟩ := transferELToken_eq_ok h₁
  obtain ⟨⟨_, _, hle, _⟩, rfl⟩ := (moveBalance_eq_ok hne).mp hmove
  have handed : moved = pool.handOver asset u v scaled := hmoved
  subst handed
  obtain ⟨_, hfinal⟩ | ⟨hfalse, _⟩ := hfinal
  · obtain ⟨_, hvalid, _⟩ := finalizeTransfer_eq_ok hfinal
    have same := finalizeTransfer_sameButCollateral hfinal
    refine ⟨index, scaled, hindex, by rw [hfrom]; rfl, by rw [hto]; rfl, hd, hvalid, hle, ?_, ?_, ?_,
      same.tokens, same.paused, same.lendingRateOracle, same.borrowingBit⟩
    · simp [same.reserves, handOver]
    · simp [same.reserves]
    · simp [same.reserves, handOver]
  · cases hfalse

theorem exists_elTokenTransferFrom (hne : u ≠ v) (hu : u ≠ 0) (hv : v ≠ 0) (hspender : spender ≠ 0)
    (hcontract : (pool.reserves asset).elTokenAddress ≠ 0)
    (hid : (pool.reserves asset).id < 128) (hpaused : pool.paused = false)
    (happroved : amount ≤ (pool.reserves asset).elToken.allowances u spender)
    (hindex : (pool.reserves asset).getNormalizedIncome t = .ok index) (hi : RAY ≤ index)
    (hfrom : (rayMul ((pool.reserves asset).elToken.balances u) index).isOk = true)
    (hto : (rayMul ((pool.reserves asset).elToken.balances v) index).isOk = true)
    (hle : amount ≤ (pool.reserves asset).elToken.balances u)
    (hd : rayDiv amount index = .ok scaled)
    (hvalid : (pool.handOver asset u v scaled).validateTransfer t u = .ok ()) :
    ∃ pool', pool.elTokenTransferFrom t spender asset u v amount = .ok pool' := by
  have hscaled := rayDiv_le hi hd
  have hfits : (pool.reserves asset).elToken.balances v + scaled ≤ uint256Max := by
    have room : ∀ b, (rayMul b index).isOk = true → b * RAY ≤ uint256Max := by
      intro b hb
      obtain ⟨worth, hb⟩ := exists_of_isOk hb
      have hwidth := (rayMul_eq_ok.mp hb).1
      have hmono := Nat.mul_le_mul_left b hi
      omega
    have hu := room _ hfrom
    have hv := room _ hto
    unfold RAY at hu hv
    omega
  obtain ⟨beforeFrom, hfrom⟩ := exists_of_isOk hfrom
  obtain ⟨beforeTo, hto⟩ := exists_of_isOk hto
  have hworth := le_rayMul hi hfrom
  have hmove := (moveBalance_eq_ok hne).mpr
    ⟨⟨hu, hv, hscaled.trans hle, hfits⟩, rfl⟩
  have hid' : ((pool.handOver asset u v scaled).reserves asset).id < 128 := by
    simpa [handOver] using hid
  obtain ⟨p₁, hfinal⟩ := @exists_finalizeTransfer _ t amount asset u v beforeFrom beforeTo hid'
    hpaused (by omega) hvalid
  have same := finalizeTransfer_sameButCollateral hfinal
  have transferred : pool.transferELToken t asset u v amount true = .ok p₁ := by
    simp only [transferELToken, ELToken.transferScaled, ELToken.scaledBalanceOf, hindex, hfrom, hto,
      hd, hmove, ok_bind, if_true]
    rw [show ((pool.handOver asset u v scaled).reserves asset).elTokenAddress =
      (pool.reserves asset).elTokenAddress by simp [handOver]] at hfinal
    exact hfinal
  simp only [elTokenTransferFrom, requireContract, ELToken.approve, bind_eq_ok, require_eq_ok,
    pure_eq_ok, SafeMath.sub_eq_ok]
  refine ⟨_, (), hcontract, p₁, transferred, _, ⟨?_, rfl⟩, _, ⟨(), hu, (), hspender, rfl⟩, rfl⟩
  simpa [same.reserves, handOver] using happroved

theorem HandedOver.received (handed : pool.HandedOver middle asset u v scaled) :
    (middle.reserves asset).elToken.balances v =
      (pool.reserves asset).elToken.balances v + scaled := by
  rw [handed.units]
  simp [handOver]

theorem HandedOver.mintsLike (htreasury : v ≠ (pool.reserves asset).elToken.treasury)
    (handed : pool.HandedOver middle asset u v scaled) :
    (middle.reserves asset).elToken.MintsLike (pool.reserves asset).elToken where
  treasury := handed.treasury
  supply := by
    rw [handed.units]
    simp [handOver]
  balance := by
    rw [handed.units]
    simp only [handOver, setReserve_reserves, Function.update_self,
      Function.update_of_ne htreasury.symm]
    by_cases hu : (pool.reserves asset).elToken.treasury = u
    · rw [hu, Function.update_self]
      exact Nat.sub_le _ _
    · rw [Function.update_of_ne hu]

/-- A burn pays out of the elToken's underlying what is taken from an account that holds it. -/
theorem exists_burnELToken (hu : u ≠ 0) (hv : v ≠ 0)
    (haddress : (pool.reserves asset).elTokenAddress ≠ v)
    (hcontract : (pool.reserves asset).elTokenAddress ≠ 0)
    (hd : rayDiv amount (pool.reserves asset).liquidityIndex = .ok scaled) (hpos : scaled ≠ 0)
    (hsupply : scaled ≤ (pool.reserves asset).elToken.totalSupply)
    (hbalance : scaled ≤ (pool.reserves asset).elToken.balances u)
    (hunderlying : amount ≤ (pool.tokens asset).balances (pool.reserves asset).elTokenAddress)
    (hfits : (pool.tokens asset).balances v + amount ≤ uint256Max) :
    ∃ pool', pool.burnELToken asset u v amount = .ok pool' := by
  have hmove := (moveBalance_eq_ok haddress).mpr ⟨⟨hcontract, hv, hunderlying, hfits⟩, rfl⟩
  simp only [burnELToken, ELToken.burn, IncentivizedERC20.burn, SafeERC20.safeTransfer,
    SafeERC20.lowLevelCall_eq_ok, ERC20.transfer, bind_eq_ok, require_eq_ok, pure_eq_ok,
    SafeMath.sub_eq_ok, Prod.exists, Prod.mk.injEq]
  exact ⟨_, _, _, ⟨scaled, hd, (), hpos, _, ⟨(), hu, _, ⟨hsupply, rfl⟩, _, ⟨hbalance, rfl⟩, rfl⟩,
    _, ⟨_, hmove, rfl⟩, rfl, rfl⟩, rfl⟩

/-- An amount that can be scaled is not the greatest word, so it is what is withdrawn. -/
theorem amountToWithdraw_scalable (h : rayDiv amount index = .ok scaled) (balance : Nat) :
    amountToWithdraw amount balance = amount := by
  have hmax : amount ≠ uint256Max := by
    have hguard := (rayDiv_eq_ok.mp h).1.2
    rintro rfl
    have hdiv : (uint256Max - index / 2) / RAY ≤ uint256Max / RAY :=
      Nat.div_le_div_right (Nat.sub_le _ _)
    exact absurd (hguard.trans hdiv) (by decide)
  exact if_neg hmax

theorem withdraw_caller_ne_zero (h : pool.withdraw t u asset amount recipient = .ok (paid, pool')) :
    u ≠ 0 := by
  simp only [withdraw, burnELToken, ELToken.burn, IncentivizedERC20.burn, bind_eq_ok, require_eq_ok,
    Prod.exists] at h
  obtain ⟨_, _, _, _, _, _, _, _, _, _, _, _, _, ⟨_, _, ⟨_, _, _, _, _, ⟨_, hu, _⟩, _⟩, _⟩, _⟩ := h
  exact hu

/-- What a withdrawal needs, whosever it is: the reserve before and after the rates are updated,
and the units that are burned. -/
structure Payable (pool : LendingPool) (t : Nat) (asset : Address) (paid : Nat)
    (accrued updated : Reserve) (taken : Nat) : Prop where
  running : pool.paused = false
  contract : (pool.reserves asset).elTokenAddress ≠ 0
  active : (pool.reserves asset).configuration.getFlags.isActive = true
  positive : paid ≠ 0
  accrues : (pool.reserves asset).updateState t = .ok accrued
  updates : accrued.updateInterestRates t (pool.lendingRateOracle asset)
    ((pool.tokens asset).balances (pool.reserves asset).elTokenAddress) 0 paid = .ok updated
  scales : rayDiv paid updated.liquidityIndex = .ok taken
  burns : taken ≠ 0
  supply : taken ≤ updated.elToken.totalSupply
  underlying : paid ≤ (pool.tokens asset).balances (pool.reserves asset).elTokenAddress

theorem withdraw_payable (h : pool.withdraw t u asset amount recipient = .ok (paid, pool')) :
    ∃ accrued updated taken, pool.Payable t asset paid accrued updated taken := by
  simp only [withdraw, validateWithdraw, Reserve.elTokenBalanceOf, requireContract, whenNotPaused,
    bind_eq_ok, require_eq_ok, pure_eq_ok, ite_eq_ok, Except.ok.injEq, Prod.mk.injEq] at h
  obtain ⟨_, hpaused, balance, ⟨_, hcontract, rfl⟩, _, ⟨_, hpos, _, _, _, hactive, _⟩, p₁, h₁, p₂,
    h₂, p₃, hbit, p₄, h₄, rfl, rfl⟩ := h
  obtain ⟨accrued, hr₁, rfl⟩ := updateState_eq_ok h₁
  obtain ⟨updated, hr₂, rfl⟩ := updateInterestRates_eq_ok h₂
  have marked : p₃.reserves asset = updated ∧ p₃.tokens = pool.tokens := by
    obtain ⟨config, rfl⟩ := updateUserConfig_if hbit
    exact ⟨by simp, rfl⟩
  obtain ⟨_, _, hburn, _⟩ := burnELToken_eq_ok h₄
  obtain ⟨taken, hd, hnonzero, _, _, _, hsupply, _, _, hsend⟩ := ELToken.burn_eq_ok hburn
  have hcovered := moveBalance_covered (SafeERC20.safeTransfer_balances hsend).1
  simp only [setReserve_reserves, setReserve_tokens, setReserve_lendingRateOracle,
    Function.update_self] at hr₂
  obtain ⟨_, _, _, _, _, _, hr₁eq, _⟩ := Reserve.updateState_eq_ok hr₁
  obtain ⟨_, _, hr₂eq⟩ := Reserve.updateInterestRates_eq_ok hr₂
  have haddress : updated.elTokenAddress = (pool.reserves asset).elTokenAddress := by
    rw [hr₂eq, hr₁eq]
  rw [marked.1] at hd hsupply hcovered
  rw [marked.2, haddress] at hcovered
  exact ⟨accrued, updated, taken, by simpa using hpaused, hcontract, hactive, hpos, hr₁, hr₂, hd,
    hnonzero, hsupply, hcovered⟩

variable {accrued updated : Reserve} {taken : Nat}

theorem Payable.exists_withdraw (payable : pool.Payable t asset paid accrued updated taken)
    (hi : RAY ≤ (pool.reserves asset).liquidityIndex) (hid : (pool.reserves asset).id < 128)
    (hu : u ≠ 0) (hself : (pool.reserves asset).elTokenAddress ≠ u)
    (htreasury : u ≠ (pool.reserves asset).elToken.treasury)
    (hdebt : (pool.usersConfig u).isBorrowingAny = false)
    (hfits : (pool.tokens asset).balances u + paid ≤ uint256Max)
    (hle : paid ≤ (pool.reserves asset).elToken.balances u) :
    ∃ pool', pool.withdraw t u asset paid u = .ok (paid, pool') := by
  obtain ⟨li, _, minted, _, hli, _, hr₁eq, _⟩ := Reserve.updateState_eq_ok payable.accrues
  obtain ⟨_, _, hr₂eq⟩ := Reserve.updateInterestRates_eq_ok payable.updates
  have haddress : updated.elTokenAddress = (pool.reserves asset).elTokenAddress := by
    rw [hr₂eq, hr₁eq]
  have hid₂ : updated.id < 128 := by
    rw [hr₂eq, hr₁eq]
    exact hid
  have hunits : updated.elToken.balances u = (pool.reserves asset).elToken.balances u := by
    rw [hr₂eq, hr₁eq]
    exact ELToken.creditTreasury_other _ _ htreasury
  have htaken : taken ≤ updated.elToken.balances u := by
    have hindex : updated.liquidityIndex = li := by rw [hr₂eq, hr₁eq]
    have hd := payable.scales
    rw [hindex] at hd
    rw [hunits]
    exact (rayDiv_le (hi.trans (Reserve.le_nextLiquidityIndex hli)) hd).trans hle
  have hamount := amountToWithdraw_scalable payable.scales ((pool.reserves asset).elToken.balances u)
  let rated := (pool.setReserve asset accrued).setReserve asset updated
  have marking : ∃ last : LendingPool, rated.SameButCollateral last ∧
      ((paid = (pool.reserves asset).elToken.balances u ∧
          rated.setUsingAsCollateral u updated.id false = .ok last) ∨
        (¬paid = (pool.reserves asset).elToken.balances u ∧ rated = last)) := by
    by_cases hall : paid = (pool.reserves asset).elToken.balances u
    · obtain ⟨last, hset⟩ := @exists_setUsingAsCollateral rated _ hid₂ u false
      exact ⟨last, setUsingAsCollateral_sameButCollateral hset, .inl ⟨hall, hset⟩⟩
    · exact ⟨rated, .refl _, .inr ⟨hall, rfl⟩⟩
  obtain ⟨last, same, hmark⟩ := marking
  have hreserve : last.reserves asset = updated := by
    rw [same.reserves]
    simp [rated]
  have htokens : last.tokens = pool.tokens := same.tokens
  obtain ⟨pool', hburned⟩ := @exists_burnELToken last paid taken asset u u hu hu
    (by rw [hreserve, haddress]; exact hself)
    (by rw [hreserve, haddress]; exact payable.contract)
    (by rw [hreserve]; exact payable.scales) payable.burns
    (by rw [hreserve]; exact payable.supply) (by rw [hreserve]; exact htaken)
    (by rw [hreserve, haddress, htokens]; exact payable.underlying)
    (by rw [htokens]; exact hfits)
  refine ⟨pool', ?_⟩
  simp only [withdraw, validateWithdraw, Reserve.elTokenBalanceOf, requireContract, whenNotPaused,
    bind_eq_ok, require_eq_ok, pure_eq_ok, ite_eq_ok, Except.ok.injEq, Prod.mk.injEq]
  refine ⟨(), by simp [payable.running], _, ⟨(), payable.contract, rfl⟩, (),
    ⟨(), ?_, (), ?_, (), payable.active, true, ?_, rfl⟩, pool.setReserve asset accrued, ?_, rated,
    ?_, last, ?_, pool', ?_, hamount, rfl⟩
  · rw [hamount]
    exact payable.positive
  · rw [hamount]
    exact hle
  · simp [balanceDecreaseAllowed, hdebt]
  · simp only [updateState, payable.accrues, ok_bind]
    rfl
  · rw [hamount]
    simp only [updateInterestRates, setReserve_reserves, setReserve_tokens,
      setReserve_lendingRateOracle, Function.update_self, ERC20.balanceOf, payable.updates, ok_bind]
    rfl
  · rw [hamount]
    simpa [rated] using hmark
  · rw [hamount]
    exact hburned

/-- What could be paid out before the units passed on can be paid out after it. -/
theorem HandedOver.payable (htreasury : v ≠ (pool.reserves asset).elToken.treasury)
    (handed : pool.HandedOver middle asset u v scaled)
    (payable : pool.Payable t asset paid accrued updated taken) :
    ∃ accrued' updated', middle.Payable t asset paid accrued' updated' taken := by
  obtain ⟨minted, hel, hupdate⟩ :=
    Reserve.updateState_like (handed.mintsLike htreasury) payable.accrues
  have hrates := @Reserve.updateInterestRates_like _ _ _
    ((middle.reserves asset).elToken.creditTreasury minted) _ _ _ _ payable.updates
  have hsupply := payable.supply
  obtain ⟨_, _, hr₂eq⟩ := Reserve.updateInterestRates_eq_ok payable.updates
  rw [show updated.elToken = accrued.elToken by rw [hr₂eq], hel] at hsupply
  rw [← handed.reserve] at hupdate
  have haddress : (middle.reserves asset).elTokenAddress = (pool.reserves asset).elTokenAddress := by
    rw [handed.reserve]
  refine ⟨_, { updated with elToken := (middle.reserves asset).elToken.creditTreasury minted }, ?_, ?_,
    ?_, payable.positive, hupdate, ?_, payable.scales, payable.burns, ?_, ?_⟩
  · rw [handed.paused]
    exact payable.running
  · rw [haddress]
    exact payable.contract
  · rw [handed.reserve]
    exact payable.active
  · rw [haddress, handed.tokens, handed.lendingRateOracle]
    exact hrates
  · simpa [ELToken.creditTreasury, (handed.mintsLike htreasury).supply] using hsupply
  · rw [haddress, handed.tokens]
    exact payable.underlying

end LendingPool

end ElectroLend
