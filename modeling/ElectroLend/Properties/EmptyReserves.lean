import ElectroLend.Lending.DepositorsShare
import ElectroLend.Pool.Changes
import ElectroLend.Pool.Configurator
import ElectroLend.Properties.StoredRates

namespace ElectroLend

open Outcome

namespace LendingPool

variable {pool pool' : LendingPool} {t amount liquidity : Nat} {asset a u v : Address}

/-- All the liquidity is gone while elTokens are still held. -/
def LentOut (pool : LendingPool) (asset : Address) : Prop :=
  pool.underlyingBalance asset = 0 ∧ (pool.reserves asset).elToken.scaledTotalSupply ≠ 0

/-- A reserve that is lent out pays its depositors something. -/
def Paid (pool : LendingPool) (asset : Address) : Prop :=
  pool.LentOut asset → (pool.reserves asset).currentLiquidityRate ≠ 0

/-- Neither the liquidity of the reserve, nor its liquidity rate, nor its supply has changed. -/
structure FundsKept (pool pool' : LendingPool) (asset : Address) : Prop where
  liquidity : pool'.underlyingBalance asset = pool.underlyingBalance asset
  rate : (pool'.reserves asset).currentLiquidityRate = (pool.reserves asset).currentLiquidityRate
  supply : (pool'.reserves asset).elToken.scaledTotalSupply =
    (pool.reserves asset).elToken.scaledTotalSupply

theorem FundsKept.refl (pool : LendingPool) (asset : Address) : pool.FundsKept pool asset :=
  ⟨rfl, rfl, rfl⟩

theorem FundsKept.trans {pool'' : LendingPool} (h : pool.FundsKept pool' asset)
    (h' : pool'.FundsKept pool'' asset) : pool.FundsKept pool'' asset where
  liquidity := h'.liquidity.trans h.liquidity
  rate := h'.rate.trans h.rate
  supply := h'.supply.trans h.supply

theorem Paid.kept (h : pool.FundsKept pool' asset) (paid : pool.Paid asset) :
    pool'.Paid asset := by
  rintro ⟨hzero, hsupply⟩
  rw [h.liquidity] at hzero
  rw [h.supply] at hsupply
  rw [h.rate]
  exact paid ⟨hzero, hsupply⟩

theorem FundsKept.same (hr : pool'.reserves asset = pool.reserves asset)
    (ht : pool'.tokens asset = pool.tokens asset) : pool.FundsKept pool' asset :=
  ⟨by rw [underlyingBalance, underlyingBalance, hr, ht], by rw [hr], by rw [hr]⟩

theorem TouchesOnly.funds (h : pool.TouchesOnly pool' a) (ha : asset ≠ a) :
    pool.FundsKept pool' asset :=
  .same (h.reserves asset ha) (h.tokens asset ha)

theorem UpdatesRates.funds (h : UpdatesRates t pool pool' a) (ha : asset ≠ a) :
    pool.FundsKept pool' asset :=
  h.touches.funds ha

/-- Once the liquidity is gone the stored rates are those of no liquidity. -/
def RatesWhenEmpty (t : Nat) (pool : LendingPool) (asset : Address) : Prop :=
  pool.underlyingBalance asset = 0 → pool.RatesAt t asset 0

theorem RatesDescribe.whenEmpty (h : pool.RatesDescribe t asset) :
    RatesWhenEmpty t pool asset := by
  intro hzero
  have at_zero := h
  rw [RatesDescribe, hzero] at at_zero
  exact at_zero

/-- Whether a reserve that has just been updated is paid for is a matter of its recorded debts. -/
theorem RatesWhenEmpty.paid_iff (h : RatesWhenEmpty t pool asset) (out : pool.LentOut asset) :
    pool.Paid asset ↔ (pool.reserves asset).paysDepositors t = true := by
  have rates : (pool.reserves asset).RatesAt t (pool.lendingRateOracle asset) 0 := h out.1
  rw [← rates.lent_out]
  exact ⟨fun paid => paid out, fun hne _ => hne⟩

/-- What `_checkNoLiquidity` lets through is empty, or a reserve that pays its depositors nothing. -/
theorem checkNoLiquidity_eq_ok :
    pool.checkNoLiquidity asset = .ok () ↔ pool.underlyingBalance asset = 0 ∧
      (pool.reserves asset).currentLiquidityRate = 0 := by
  simp [checkNoLiquidity]

theorem Paid.empty (paid : pool.Paid asset) (h : pool.checkNoLiquidity asset = .ok ()) :
    (pool.reserves asset).elToken.scaledTotalSupply = 0 := by
  obtain ⟨hzero, hrate⟩ := checkNoLiquidity_eq_ok.mp h
  by_contra hsupply
  exact paid ⟨hzero, hsupply⟩ hrate

theorem pullUnderlying_emptied
    (h : pool.pullUnderlying asset u (pool.reserves asset).elTokenAddress amount = .ok pool')
    (hzero : pool'.underlyingBalance asset = 0) :
    pool.underlyingBalance asset = 0 ∧ amount = 0 := by
  obtain ⟨token, hm, rfl⟩ := pullUnderlying_eq_ok h
  have held : token.balances (pool.reserves asset).elTokenAddress = 0 := by
    simpa [underlyingBalance, ERC20.balanceOf] using hzero
  show (pool.tokens asset).balances (pool.reserves asset).elTokenAddress = 0 ∧ amount = 0
  by_cases hu : u = (pool.reserves asset).elTokenAddress
  · rw [hu] at hm
    obtain ⟨hle, hsame⟩ := moveBalance_self hm
    rw [hsame] at held
    omega
  · have received := moveBalance_recipient hu hm
    omega

theorem burnELToken_to_itself
    (h : pool.burnELToken asset u (pool.reserves asset).elTokenAddress amount = .ok pool') :
    amount ≤ pool'.underlyingBalance asset := by
  obtain ⟨elToken, token, hb, rfl⟩ := burnELToken_eq_ok h
  obtain ⟨_, _, _, _, _, _, _, _, _, hsend⟩ := ELToken.burn_eq_ok hb
  obtain ⟨hm, _⟩ := SafeERC20.safeTransfer_balances hsend
  obtain ⟨hle, hsame⟩ := moveBalance_self hm
  simpa [underlyingBalance, ERC20.balanceOf, hsame] using hle

theorem FundsKept.setReserve {r : Reserve}
    (haddress : r.elTokenAddress = (pool.reserves a).elTokenAddress)
    (hrate : r.currentLiquidityRate = (pool.reserves a).currentLiquidityRate)
    (hsupply : r.elToken.totalSupply = (pool.reserves a).elToken.totalSupply) :
    pool.FundsKept (pool.setReserve a r) asset := by
  by_cases ha : asset = a
  · subst ha
    refine ⟨?_, by simpa using hrate, by simpa [ELToken.scaledTotalSupply] using hsupply⟩
    simp [underlyingBalance, haddress]
  · exact .same (by simp [ha]) rfl

end LendingPool

open LendingPool

/-- The deed is not about the liquidity, the rates or the supply of a reserve. -/
def Deed.KeepsFunds : Deed → Prop
  | moveELToken _ _ _ | spendELToken _ _ _ _ | approveELToken _ _ _ | lowerELTokenAllowance _ _ _
  | approveDelegation _ _ _ | markCollateral _ | markBorrowing _ | configure _ | setStrategy _
  | setPause _ | setPrices => True
  | _ => False

section Deeds

variable {pool pool' : LendingPool} {t : Nat} {deed : Deed} {allowed : Deed → Prop}

theorem Did.fundsKept (h : Did t deed pool pool') (keeps : deed.KeepsFunds) (asset : Address) :
    pool.FundsKept pool' asset := by
  cases h with
  | moveELToken h => exact .setReserve rfl rfl rfl
  | spendELToken allowed scaled h => exact .setReserve rfl rfl rfl
  | approveELToken h =>
    cases ELToken.approve_eq_ok h
    exact .setReserve rfl rfl rfl
  | lowerELTokenAllowance lower h =>
    cases ELToken.approve_eq_ok h
    exact .setReserve rfl rfl rfl
  | approveStableDelegation _ msgSender a delegatee amount => exact .setReserve rfl rfl rfl
  | approveVariableDelegation _ msgSender a delegatee amount => exact .setReserve rfl rfl rfl
  | setUsingAsCollateral h =>
    obtain ⟨_, _, rfl⟩ := setUsingAsCollateral_eq_ok h
    exact ⟨rfl, rfl, rfl⟩
  | setBorrowing h =>
    obtain ⟨_, _, rfl⟩ := setBorrowing_eq_ok h
    exact ⟨rfl, rfl, rfl⟩
  | setConfiguration _ a configuration => exact .setReserve rfl rfl rfl
  | setReserveInterestRateStrategy _ a strategy => exact .setReserve rfl rfl rfl
  | setPause _ val => exact ⟨rfl, rfl, rfl⟩
  | setPrices _ priceOracle lendingRateOracle => exact ⟨rfl, rfl, rfl⟩
  | _ => exact keeps.elim

theorem Deeds.fundsKept (h : Deeds t allowed pool pool')
    (keeps : ∀ deed, allowed deed → deed.KeepsFunds) (asset : Address) :
    pool.FundsKept pool' asset :=
  h.invariant (pool.FundsKept · asset)
    (fun _ _ _ fine kept did => kept.trans (did.fundsKept (keeps _ fine) asset)) (.refl pool asset)

end Deeds

namespace LendingPool

variable {pool pool' : LendingPool} {t amount liquidity : Nat} {asset a u v : Address}

theorem seizeELToken_funds (h : pool.seizeELToken t v a u amount = .ok pool') :
    pool.FundsKept pool' asset := by
  have deeds : Deeds t Deed.KeepsFunds pool pool' := seizeELToken_deeds trivial trivial h
  exact deeds.fundsKept (fun _ keeps => keeps) asset

/-- A call that updates a reserve leaves it, when it leaves it lent out, with the rates of its
debts; any other call leaves the funds of a reserve that is lent out after it. -/
structure FundsStep (t : Nat) (updates : Prop) (pool pool' : LendingPool) (asset : Address) :
    Prop where
  updated : updates → pool'.LentOut asset → pool'.RatesDescribe t asset
  kept : ¬updates → pool'.LentOut asset → pool.FundsKept pool' asset

theorem UpdatesRates.step (h : UpdatesRates t pool pool' a) :
    FundsStep t (a = asset) pool pool' asset where
  updated ha _ := by
    subst ha
    exact h.describe
  kept ha _ := h.funds (Ne.symm ha)

theorem FundsKept.step (h : pool.FundsKept pool' asset) : FundsStep t False pool pool' asset where
  updated hfalse _ := hfalse.elim
  kept _ _ := h

/-- A withdrawal to the elToken itself leaves liquidity behind. -/
theorem withdraw_step {msgSender recipient : Address} {paid : Nat}
    (h : pool.withdraw t msgSender a amount recipient = .ok (paid, pool')) :
    FundsStep t (a = asset) pool pool' asset := by
  by_cases hr : recipient = (pool.reserves a).elTokenAddress
  · refine ⟨?_, fun ha _ => (withdraw_touches h).funds (Ne.symm ha)⟩
    rintro rfl ⟨hzero, _⟩
    obtain ⟨balance, p₁, p₂, p₃, _, hvalid, h₁, h₂, hbit, h₄, _⟩ := withdraw_eq_ok h
    simp only [validateWithdraw, bind_eq_ok, require_eq_ok] at hvalid
    obtain ⟨_, hpos, _⟩ := hvalid
    obtain ⟨books, _, _⟩ := (updateState_onBooks h₁).updateInterestRates h₂
    have marked : (p₃.reserves a).elTokenAddress = (p₂.reserves a).elTokenAddress := by
      obtain ⟨config, rfl⟩ := updateUserConfig_if hbit
      rfl
    rw [hr, ← books.elToken, ← marked] at h₄
    have left := burnELToken_to_itself h₄
    omega
  · exact (withdraw_updatesRates (fun _ => hr) h).step

theorem liquidationCall_step {collateralAsset debtAsset : Address} {debtToCover : Nat}
    {receiveLToken : Bool} (hv : pool.NotELToken v)
    (h : pool.liquidationCall t v collateralAsset debtAsset u debtToCover receiveLToken =
      .ok pool') :
    FundsStep t (debtAsset = asset ∨ (collateralAsset = asset ∧ receiveLToken = false)) pool pool'
      asset := by
  obtain ⟨collateral, covered, paid, seized, marked, hpos, books, _, hseize, same, frame, htokens,
    hpull⟩ := liquidationCall_chain h
  -- what the seizure does to the other assets, and to the collateral when it is burned
  have seizure : (∀ b, (seized.reserves b).elTokenAddress = (paid.reserves b).elTokenAddress) ∧
      FundsStep t (collateralAsset = asset ∧ receiveLToken = false) paid seized asset := by
    obtain ⟨hflag, htransfer⟩ | ⟨hflag, hburn⟩ := ite_eq_ok.mp hseize
    · obtain ⟨moves, _⟩ := seizeELToken_frame htransfer
      refine ⟨moves.elTokenAddress, ?_, fun _ _ => seizeELToken_funds htransfer⟩
      rintro ⟨_, hfalse⟩
      rw [hfalse] at hflag
      cases hflag
    · obtain ⟨_, _, updates⟩ := seizeUnderlying_updatesRates (hv.congr books.elTokenAddress) hburn
      refine ⟨updates.elToken, fun hc out => updates.step.updated hc.1 out, ?_⟩
      intro hc out
      have hne : collateralAsset ≠ asset := fun ha => hc ⟨ha, by simpa using hflag⟩
      exact updates.step.kept hne out
  obtain ⟨addresses, step⟩ := seizure
  by_cases hdebt : debtAsset = asset
  · -- the covered debt is paid in
    subst hdebt
    have address : (marked.reserves debtAsset).elTokenAddress =
        (pool.reserves debtAsset).elTokenAddress := by
      rw [same, addresses, books.elToken]
    rw [← address] at hpull
    have paidIn : ¬pool'.LentOut debtAsset := by
      rintro ⟨hzero, _⟩
      obtain ⟨_, hnone⟩ := pullUnderlying_emptied hpull hzero
      omega
    exact ⟨fun _ out => absurd out paidIn, fun _ out => absurd out paidIn⟩
  · have before : pool.FundsKept paid asset := books.touches.funds (Ne.symm hdebt)
    have marks : seized.FundsKept marked asset := .same (by rw [same]) (by rw [htokens])
    have pulled := pullUnderlying_touches hpull
    have after : seized.FundsKept pool' asset := marks.trans (pulled.funds (Ne.symm hdebt))
    have out_seized : pool'.LentOut asset → seized.LentOut asset := by
      rintro ⟨hzero, hsupply⟩
      exact ⟨after.liquidity ▸ hzero, after.supply ▸ hsupply⟩
    refine ⟨?_, ?_⟩
    · rintro (hd | hc) out
      · exact absurd hd hdebt
      · have described := step.updated hc (out_seized out)
        exact described.kept ((frame.ratesKept htokens asset).trans
          (pulled.ratesKept asset (Ne.symm hdebt)))
    · intro hc out
      exact before.trans ((step.kept (fun h => hc (.inr h)) (out_seized out)).trans after)

theorem listReserve_tokens {input : InitReserveInput} (h : pool.listReserve input = .ok pool') :
    pool'.tokens = pool.tokens := by
  obtain ⟨_, _, _, _, added, _, hadd, rfl⟩ := listReserve_eq_ok h
  obtain ⟨_, ⟨_, _, rfl⟩ | ⟨_, rfl⟩⟩ := addReserveToList_eq_ok hadd
  · rfl
  · rfl

theorem listReserve_step {input : InitReserveInput} (h : pool.listReserve input = .ok pool') :
    FundsStep t False pool pool' asset := by
  refine ⟨fun hfalse _ => hfalse.elim, ?_⟩
  rintro _ ⟨_, hsupply⟩
  obtain ⟨_, id, configuration, hreserves⟩ := listReserve_reserves h
  by_cases ha : asset = input.underlyingAsset
  · subst ha
    rw [hreserves, Function.update_self] at hsupply
    exact absurd rfl hsupply
  · exact .same (by rw [hreserves, Function.update_of_ne ha]) (by rw [listReserve_tokens h])

theorem callToken_step {change : ERC20 → Result ERC20}
    (hgain : ∀ token, change (pool.tokens a) = .ok token →
      (pool.tokens a).balances (pool.reserves a).elTokenAddress ≤
        token.balances (pool.reserves a).elTokenAddress)
    (h : pool.callToken a change = .ok pool') : FundsStep t False pool pool' asset := by
  refine ⟨fun hfalse _ => hfalse.elim, ?_⟩
  rintro _ ⟨hzero, _⟩
  simp only [callToken, bind_eq_ok, pure_eq_ok] at h
  obtain ⟨token, hchange, rfl⟩ := h
  refine ⟨?_, rfl, rfl⟩
  by_cases ha : asset = a
  · subst ha
    have gained := hgain token hchange
    simp only [underlyingBalance, ERC20.balanceOf, setToken_reserves, setToken_tokens,
      Function.update_self] at hzero ⊢
    omega
  · simp [underlyingBalance, ha]

theorem moveBalance_gain {balances balances' : Address → Nat} (hu : pool.NotELToken u)
    (h : moveBalance balances u v amount = .ok balances') :
    balances (pool.reserves asset).elTokenAddress ≤
      balances' (pool.reserves asset).elTokenAddress := by
  have hne : (pool.reserves asset).elTokenAddress ≠ u := by
    intro he
    exact hu asset (by rw [he]; exact (moveBalance_nonzero h).1) he.symm
  by_cases hv : (pool.reserves asset).elTokenAddress = v
  · rw [hv] at hne ⊢
    rw [moveBalance_recipient (Ne.symm hne) h]
    exact Nat.le_add_right _ _
  · rw [moveBalance_other hne hv h]

end LendingPool

open LendingPool

/-- The reserves whose rates a call stores anew. -/
def Call.Updates (asset : Address) : Call → Prop
  | deposit a _ _ | withdraw a _ _ | borrow a _ _ _ | repay a _ _ _ | swapBorrowRateMode a _
  | rebalanceStableBorrowRate a _ => a = asset
  | liquidationCall collateralAsset debtAsset _ _ receiveLToken =>
    debtAsset = asset ∨ (collateralAsset = asset ∧ receiveLToken = false)
  | _ => False

/-- ElTokens make no calls of their own, and let nobody spend their underlying. -/
def elTokenRules : Rules where
  call pool msgSender call := pool.NotELToken msgSender ∧ ∀ asset sender recipient amount,
    call = .transferFrom asset sender recipient amount → pool.NotELToken sender
  flashLoan _ _ _ := True

theorem Call.exec_step {pool pool' : LendingPool} {t : Nat} {msgSender asset : Address}
    {call : Call} (allowed : elTokenRules.call pool msgSender call)
    (h : call.exec t msgSender pool = .ok pool') :
    FundsStep t (call.Updates asset) pool pool' asset := by
  obtain ⟨hs, hspent⟩ := allowed
  have kept (keeps : ∀ deed ∈ call.deeds pool msgSender, deed.KeepsFunds) :
      pool.FundsKept pool' asset := (Call.exec_deeds h).fundsKept keeps asset
  cases call with
  | deposit a amount onBehalfOf => exact (deposit_updatesRates (hs _) h).step
  | withdraw a amount recipient =>
    obtain ⟨⟨_, _⟩, hw, rfl⟩ := map_eq_ok.mp h
    exact withdraw_step hw
  | borrow a amount interestRateMode onBehalfOf => exact (borrow_updatesRates hs h).step
  | repay a amount rateMode onBehalfOf =>
    obtain ⟨⟨_, _⟩, hr, rfl⟩ := map_eq_ok.mp h
    exact (repay_updatesRates (hs _) hr).step
  | swapBorrowRateMode a rateMode => exact (swapBorrowRateMode_updatesRates h).step
  | rebalanceStableBorrowRate a user => exact (rebalanceStableBorrowRate_updatesRates h).step
  | liquidationCall collateralAsset debtAsset user debtToCover receiveLToken =>
    exact liquidationCall_step hs h
  | approve a spender amount =>
    have hcall : pool.callToken a (·.approve msgSender spender amount) = .ok pool' := h
    refine callToken_step ?_ hcall
    intro token happrove
    have happrove : (pool.tokens a).approve msgSender spender amount = .ok token := happrove
    simp only [ERC20.approve, bind_eq_ok, pure_eq_ok] at happrove
    obtain ⟨_, _, _, _, rfl⟩ := happrove
    exact Nat.le_refl _
  | transfer a recipient amount =>
    have hcall : pool.callToken a (·.transfer msgSender recipient amount) = .ok pool' := h
    refine callToken_step ?_ hcall
    intro token htransfer
    have htransfer : (pool.tokens a).transfer msgSender recipient amount = .ok token := htransfer
    simp only [ERC20.transfer, bind_eq_ok, pure_eq_ok] at htransfer
    obtain ⟨balances, hm, rfl⟩ := htransfer
    exact moveBalance_gain hs hm
  | transferFrom a sender recipient amount =>
    have hcall : pool.callToken a (·.transferFrom msgSender sender recipient amount) = .ok pool' :=
      h
    refine callToken_step ?_ hcall
    intro token htransfer
    exact moveBalance_gain (hspent _ _ _ _ rfl)
      (SafeERC20.safeTransferFrom_balances (SafeERC20.lowLevelCall_eq_ok.mpr htransfer))
  | listReserve input => exact listReserve_step h
  | _ => exact (kept (by simp [Call.deeds, Deed.KeepsFunds])).step

theorem Reserve.Change.elTokenAddress {r r' : Reserve} {t : Nat} (h : r.Change t r')
    (hne : r.elTokenAddress ≠ 0) : r'.elTokenAddress = r.elTokenAddress := by
  cases h with
  | kept same _ => exact same.elToken
  | accrued h =>
    obtain ⟨_, _, _, _, _, _, rfl, _⟩ := Reserve.updateState_eq_ok h
    rfl
  | rated _ _ _ _ _ h =>
    obtain ⟨_, _, rfl⟩ := Reserve.updateInterestRates_eq_ok h
    rfl
  | premium _ _ h =>
    obtain ⟨_, _, rfl⟩ := Reserve.cumulateToLiquidityIndex_eq_ok h
    rfl
  | stableDebt same _ _ => exact same.elToken
  | listed new _ _ _ _ => exact absurd new hne

namespace LendingPool

variable {pool pool' : LendingPool} {t mode : Nat} {asset msgSender receiver onBehalfOf : Address}
  {entry : FlashLoanEntry} {entries : List FlashLoanEntry} {modes : List Nat}

theorem Writes.elTokenAddress {events : List Event} (h : Writes t events pool pool')
    (hne : (pool.reserves asset).elTokenAddress ≠ 0) :
    (pool'.reserves asset).elTokenAddress = (pool.reserves asset).elTokenAddress := by
  refine h.invariant
    (fun p => (p.reserves asset).elTokenAddress = (pool.reserves asset).elTokenAddress) ?_ rfl
  intro _ p p' same last
  have kept := (last.change asset).elTokenAddress (by rw [same]; exact hne)
  rw [kept, same]

/-- The entries name the elTokens of their assets, which are listed. -/
def NamesELTokens (entries : List FlashLoanEntry) (pool : LendingPool) : Prop :=
  ∀ entry ∈ entries, entry.elTokenAddress ≠ 0 ∧
    entry.elTokenAddress = (pool.reserves entry.asset).elTokenAddress

theorem NamesELTokens.writes {events : List Event} (h : NamesELTokens entries pool)
    (writes : Writes t events pool pool') : NamesELTokens entries pool' := by
  intro entry hm
  obtain ⟨hne, hel⟩ := h entry hm
  rw [hel] at hne ⊢
  exact ⟨hne, (writes.elTokenAddress hne).symm⟩

theorem sendFlashLoan_names {loans : List (Address × Nat)}
    (h : pool.sendFlashLoan receiver loans = .ok (entries, pool')) :
    NamesELTokens entries pool := by
  induction loans generalizing pool entries with
  | nil =>
    cases Except.ok.inj h
    intro entry hm
    cases hm
  | cons loan rest ih =>
    obtain ⟨asset, amount⟩ := loan
    obtain ⟨premium, middle, tail, hlisted, hm, hrest, rfl⟩ := sendFlashLoan_cons h
    intro entry he
    obtain rfl | he := List.mem_cons.mp he
    · exact ⟨hlisted, rfl⟩
    · have named := ih hrest entry he
      rw [(transferUnderlyingTo_ratesFrame hm).elTokenAddress] at named
      exact named

theorem sendFlashLoan_funds {loans : List (Address × Nat)}
    (h : pool.sendFlashLoan receiver loans = .ok (entries, pool'))
    (hnot : asset ∉ loans.map Prod.fst) : pool.FundsKept pool' asset := by
  induction loans generalizing pool entries with
  | nil =>
    cases Except.ok.inj h
    exact .refl _ _
  | cons loan rest ih =>
    obtain ⟨a, amount⟩ := loan
    obtain ⟨premium, middle, tail, _, hm, hrest, _⟩ := sendFlashLoan_cons h
    simp only [List.map_cons, List.mem_cons, not_or] at hnot
    exact ((transferUnderlyingTo_touches hm).funds hnot.1).trans (ih hrest hnot.2)

/-- Whatever comes back for an entry, or is left as debt, its reserve has its rates. -/
theorem settleFlashLoanEntry_emptied
    (hel : entry.elTokenAddress = (pool.reserves entry.asset).elTokenAddress)
    (h : pool.settleFlashLoanEntry t .lendingPool msgSender receiver onBehalfOf entry mode =
      .ok pool') :
    pool.TouchesOnly pool' entry.asset ∧ RatesWhenEmpty t pool' entry.asset := by
  obtain ⟨_, _, ⟨_, hreturn⟩ | ⟨_, hborrow⟩⟩ := settleFlashLoanEntry_eq_ok h
  · obtain ⟨p₁, p₂, p₃, h₁, h₂, h₃, h₄⟩ := returnFlashLoan_pulls hreturn
    rw [hel] at h₃
    obtain ⟨books, _, hat⟩ := ((updateState_onBooks h₁).trans
      (cumulateToLiquidityIndex_onBooks h₂)).updateInterestRates h₃
    rw [hel, ← books.elToken] at h₄
    refine ⟨books.touches.trans (pullUnderlying_touches h₄), ?_⟩
    intro hzero
    obtain ⟨hbefore, hnothing⟩ := pullUnderlying_emptied h₄ hzero
    rw [books.underlyingBalance] at hbefore
    rw [hbefore, hnothing] at hat
    exact hat.frame (pullUnderlying_ratesFrame h₄)
  · have updates := executeBorrow_updatesRates (fun hrelease => by cases hrelease) hel hborrow
    exact ⟨updates.touches, updates.describe.whenEmpty⟩

theorem RatesWhenEmpty.kept (kept : pool.RatesKept pool' asset)
    (h : RatesWhenEmpty t pool asset) : RatesWhenEmpty t pool' asset := by
  intro hzero
  rw [kept.liquidity] at hzero
  exact RatesAt.kept kept (h hzero)

theorem settleFlashLoan_emptied (named : NamesELTokens entries pool)
    (h : pool.settleFlashLoan t .lendingPool msgSender receiver onBehalfOf entries modes =
      .ok pool') :
    (asset ∉ entries.map FlashLoanEntry.asset → pool.FundsKept pool' asset) ∧
      (RatesWhenEmpty t pool asset ∨ asset ∈ entries.map FlashLoanEntry.asset →
        RatesWhenEmpty t pool' asset) := by
  induction entries generalizing pool modes with
  | nil =>
    cases Except.ok.inj h
    exact ⟨fun _ => .refl _ _, fun hor => hor.resolve_right (by simp)⟩
  | cons entry entries ih =>
    obtain ⟨mode, rest, middle, _, hentry, hrest⟩ := settleFlashLoan_cons h
    obtain ⟨touches, emptied⟩ := settleFlashLoanEntry_emptied (named entry List.mem_cons_self).2
      hentry
    have first : pool.settleFlashLoan t .lendingPool msgSender receiver onBehalfOf [entry] [mode] =
        .ok middle := by
      simp only [settleFlashLoan, hentry, ok_bind]
    have named' : NamesELTokens entries middle := by
      have tail : NamesELTokens entries pool := fun e he => named e (List.mem_cons_of_mem _ he)
      exact tail.writes (settleFlashLoan_writes first)
    obtain ⟨kept, updated⟩ := ih named' hrest
    simp only [List.map_cons, List.mem_cons, not_or]
    refine ⟨fun hnot => (touches.funds hnot.1).trans (kept hnot.2), ?_⟩
    intro hor
    by_cases ha : asset = entry.asset
    · subst ha
      exact updated (.inl emptied)
    · obtain before | hin | hin := hor
      · exact updated (.inl (before.kept (touches.ratesKept asset ha)))
      · exact absurd hin ha
      · exact updated (.inr hin)

end LendingPool

/-- Calls and flash loans in one block, none of which leaves the reserve lent out against debts that
pay its depositors nothing. -/
inductive PaidSteps (t : Nat) (asset : Address) : LendingPool → LendingPool → Prop
  | refl (pool : LendingPool) : PaidSteps t asset pool pool
  | call {start pool pool' : LendingPool} (before : PaidSteps t asset start pool)
      (msgSender : Address) (call : Call) (allowed : elTokenRules.call pool msgSender call)
      (success : call.exec t msgSender pool = .ok pool')
      (pays : call.Updates asset → pool'.LentOut asset →
        (pool'.reserves asset).paysDepositors t = true) : PaidSteps t asset start pool'
  | flashLoan {start pool pool' : LendingPool} (before : PaidSteps t asset start pool)
      (msgSender receiver : Address) (assets : List Address) (amounts modes : List Nat)
      (onBehalfOf : Address) (executeOperation : LendingPool → Result (Bool × LendingPool))
      (callback : ∀ sent answer returned, executeOperation sent = .ok (answer, returned) →
        PaidSteps t asset sent returned)
      (success : pool.flashLoan t .lendingPool msgSender receiver assets amounts modes onBehalfOf
        executeOperation = .ok pool')
      (pays : asset ∈ assets → pool'.LentOut asset →
        (pool'.reserves asset).paysDepositors t = true) : PaidSteps t asset start pool'

/-- The states of a block in which somebody acts. A receiver that holds the last of the reserve's
liquidity has borrowed from a reserve with a rate. -/
inductive PaidVisits (t : Nat) (asset : Address) : LendingPool → LendingPool → Prop
  | between {start pool : LendingPool} (steps : PaidSteps t asset start pool) :
      PaidVisits t asset start pool
  | inside {start pool sent visited : LendingPool} (before : PaidSteps t asset start pool)
      {receiver : Address} {loans : List (Address × Nat)} {entries : List FlashLoanEntry}
      (unpaused : pool.paused = false)
      (sending : pool.sendFlashLoan receiver loans = .ok (entries, sent))
      (pays : sent.LentOut asset → (pool.reserves asset).currentLiquidityRate ≠ 0)
      (callback : PaidVisits t asset sent visited) : PaidVisits t asset start visited

/-- The states that blocks of such steps reach, with the timestamp of the last block. -/
inductive PaidReachable (asset : Address) : Nat → LendingPool → Prop
  | start (t : Nat) (this : Address) (tokens : Address → ERC20)
      (priceOracle lendingRateOracle : Address → Nat) (isContract : Address → Bool) :
      PaidReachable asset t
        (LendingPool.initialized this tokens priceOracle lendingRateOracle isContract)
  | block {t t' : Nat} {pool pool' : LendingPool} (before : PaidReachable asset t pool)
      (later : t ≤ t') (timestamp : IsBlockTimestamp t') (steps : PaidSteps t' asset pool pool') :
      PaidReachable asset t' pool'

section Runs

variable {pool pool' : LendingPool} {t : Nat} {asset : Address}

theorem PaidSteps.steps (run : PaidSteps t asset pool pool') :
    Steps elTokenRules t pool pool' := by
  induction run with
  | refl => exact .refl _
  | call _ msgSender call allowed success _ ih => exact ih.call msgSender call allowed success
  | flashLoan _ msgSender receiver assets amounts modes onBehalfOf executeOperation _ success _ ih
      called =>
    exact ih.flashLoan msgSender receiver assets amounts modes onBehalfOf executeOperation trivial
      called success

/-- A flash loan updates the reserves of its assets; of the others it leaves the funds as the
receiver has left them. -/
theorem flashLoan_step {msgSender receiver onBehalfOf : Address} {assets : List Address}
    {amounts modes : List Nat} {executeOperation : LendingPool → Result (Bool × LendingPool)}
    (callback : ∀ sent answer returned, executeOperation sent = .ok (answer, returned) →
      Steps elTokenRules t sent returned)
    (h : pool.flashLoan t .lendingPool msgSender receiver assets amounts modes onBehalfOf
      executeOperation = .ok pool') :
    (asset ∈ assets → RatesWhenEmpty t pool' asset) ∧ ∃ sent answer returned,
      executeOperation sent = .ok (answer, returned) ∧
      (asset ∉ assets → pool.FundsKept sent asset ∧ returned.FundsKept pool' asset) := by
  obtain ⟨hlen, entries, sent, answer, returned, hsend, hcall, hsettle⟩ := flashLoan_eq_ok h
  obtain ⟨_, hassets, _, _⟩ := sendFlashLoan_frame hsend
  have opened : Quietly t pool sent := sendFlashLoan_writes hsend
  obtain ⟨_, writes⟩ := (callback sent answer returned hcall).writes
  have named := (sendFlashLoan_names hsend).writes (Writes.trans opened writes)
  obtain ⟨kept, updated⟩ := settleFlashLoan_emptied named hsettle
  rw [hassets, List.map_fst_zip (by omega)] at kept updated
  refine ⟨fun hin => updated (.inr hin), sent, answer, returned, hcall, ?_⟩
  intro hnot
  have unsent : asset ∉ (assets.zip amounts).map Prod.fst := by
    rw [List.map_fst_zip (by omega)]
    exact hnot
  exact ⟨sendFlashLoan_funds hsend unsent, kept hnot⟩

theorem PaidSteps.keep (run : PaidSteps t asset pool pool') (paid : pool.Paid asset) :
    pool'.Paid asset := by
  induction run with
  | refl => exact paid
  | call before msgSender call allowed success pays ih =>
    intro out
    have step : FundsStep t (call.Updates asset) _ _ asset := Call.exec_step allowed success
    by_cases hupdates : call.Updates asset
    · have described := (step.updated hupdates out).whenEmpty
      exact (described.paid_iff out).mpr (pays hupdates out) out
    · exact (ih paid).kept (step.kept hupdates out) out
  | flashLoan before msgSender receiver assets amounts modes onBehalfOf executeOperation callback
      success pays ih called =>
    intro out
    obtain ⟨updated, sent, answer, returned, hcall, kept⟩ :=
      flashLoan_step (fun sent answer returned h => (callback sent answer returned h).steps) success
    by_cases hin : asset ∈ assets
    · exact ((updated hin).paid_iff out).mpr (pays hin out) out
    · obtain ⟨sentKept, settledKept⟩ := kept hin
      exact (called sent answer returned hcall ((ih paid).kept sentKept)).kept settledKept out

theorem PaidVisits.keep (visits : PaidVisits t asset pool pool') (paid : pool.Paid asset) :
    pool'.Paid asset := by
  induction visits with
  | between steps => exact steps.keep paid
  | inside before unpaused sending pays _ ih =>
    refine ih ?_
    intro out
    obtain ⟨frame, _⟩ := sendFlashLoan_frame sending
    have rate := congrArg InterestRates.liquidityRate
      (Reserve.storedRates_of_rateInputs (frame.inputs asset))
    simp only [Reserve.storedRates] at rate
    rw [rate]
    exact pays out

theorem PaidReachable.paid (h : PaidReachable asset t pool) : pool.Paid asset := by
  induction h with
  | start =>
    rintro ⟨_, hsupply⟩
    exact absurd rfl hsupply
  | block _ _ _ steps ih => exact steps.keep ih

theorem deactivateReserve_succeeds_iff :
    (∃ off, pool.deactivateReserve asset = .ok off) ↔ pool.checkNoLiquidity asset = .ok () := by
  simp only [deactivateReserve, updateConfiguration, bind_eq_ok, pure_eq_ok]
  constructor
  · rintro ⟨_, _, hnone, _⟩
    exact hnone
  · intro hnone
    exact ⟨_, (), hnone, _, rfl, rfl⟩

theorem configureReserveAsCollateral_zero_iff :
    (∃ off, pool.configureReserveAsCollateral asset 0 0 0 = .ok off) ↔
      pool.checkNoLiquidity asset = .ok () := by
  constructor
  · rintro ⟨off, h⟩
    obtain ⟨_, ⟨hne, _⟩ | ⟨_, _, hnone⟩, _⟩ := configureReserveAsCollateral_eq_ok h
    · exact absurd rfl hne
    · exact hnone
  · intro hnone
    have checked : pool.validateCollateralConfiguration asset 0 0 0 = .ok () := by
      simp [validateCollateralConfiguration, hnone]
    simp only [configureReserveAsCollateral, checked, ok_bind]
    exact ⟨_, rfl⟩

end Runs

/-- In every state of the runs in which no call or flash loan leaves the reserve lent out against
debts that pay its depositors nothing, a reserve that can be switched off has no depositors; and a
call that leaves it so lets the configurator switch it off under them. -/
theorem switched_off_reserves_empty {t : Nat} {asset : Address} :
    (∀ t₁ before visited, PaidReachable asset t₁ before → PaidVisits t asset before visited →
      ((∃ off, visited.deactivateReserve asset = .ok off) ∨
        ∃ off, visited.configureReserveAsCollateral asset 0 0 0 = .ok off) →
      (visited.reserves asset).elToken.scaledTotalSupply = 0) ∧
    ∀ pool pool' msgSender call, elTokenRules.call pool msgSender call →
      call.exec t msgSender pool = .ok pool' → call.Updates asset → pool'.LentOut asset →
      (((∃ off, pool'.deactivateReserve asset = .ok off) ∨
        ∃ off, pool'.configureReserveAsCollateral asset 0 0 0 = .ok off) ↔
      (pool'.reserves asset).paysDepositors t = false) := by
  refine ⟨?_, ?_⟩
  · intro t₁ before visited reachable visits guards
    rw [deactivateReserve_succeeds_iff, configureReserveAsCollateral_zero_iff, or_self] at guards
    exact (visits.keep reachable.paid).empty guards
  · intro pool pool' msgSender call allowed success updates out
    rw [deactivateReserve_succeeds_iff, configureReserveAsCollateral_zero_iff, or_self,
      checkNoLiquidity_eq_ok, ← Bool.not_eq_true]
    have described := ((Call.exec_step allowed success).updated updates out).whenEmpty
    rw [← described.paid_iff out]
    constructor
    · rintro ⟨_, hrate⟩ paid
      exact paid out hrate
    · intro unpaid
      refine ⟨out.1, ?_⟩
      by_contra hrate
      exact unpaid fun _ => hrate

namespace Market

theorem exec_endState {calls : List TimedCall} {t : Nat} {msgSender : Address} {call : Call}
    (success : (runScript genesis (calls ++ [(t, msgSender, call)])).isOk = true) :
    call.exec t msgSender (endState calls) =
      .ok (endState (calls ++ [(t, msgSender, call)])) := by
  have whole := runScript_endState success
  rw [runScript_append, bind_eq_ok] at whole
  obtain ⟨middle, first, last⟩ := whole
  have reached : endState calls = middle := by
    rw [endState, first]
    rfl
  simp only [runScript, bind_eq_ok, Except.ok.injEq] at last
  obtain ⟨_, hcall, rfl⟩ := last
  rw [reached]
  exact hcall

theorem endState_notELToken {calls : List TimedCall} {account : Address} (last : Nat)
    (success : (runScript genesis calls).isOk = true)
    (ordered : timestampsOrdered 0 last calls = true)
    (apart : ∀ i, i < (endState calls).reservesCount →
      account ≠ ((endState calls).reserves ((endState calls).reservesList i)).elTokenAddress) :
    (endState calls).NotELToken account :=
  (endState_reachable success ordered).marked.listing.notELToken apart

end Market

/-- Weth with a reserve factor of 100%: alice supplies 100 weth, and bob borrows all of it. -/
def lentOutMarket : LendingPool :=
  Market.endState (Market.setup 10000 ++
    [(1, Market.alice, .deposit Market.weth (10 ^ 20) Market.alice),
      (2, Market.bob, .deposit Market.dai (2 * 10 ^ 20) Market.bob),
      (3, Market.bob, .borrow Market.weth (10 ^ 20) 2 Market.bob)])

theorem lentOutMarket_unguarded :
    lentOutMarket.LentOut Market.weth ∧ lentOutMarket.checkNoLiquidity Market.weth = .ok () := by
  rw [checkNoLiquidity_eq_ok, LentOut]
  decide +kernel

/-- Nothing of what bob pays goes to alice, so that her reserve looks empty. -/
theorem lentOutMarket_switched_off :
    Reachable .any 3 lentOutMarket ∧
      (lentOutMarket.reserves Market.weth).configuration.getReserveFactor = 10000 ∧
      (∃ off, lentOutMarket.deactivateReserve Market.weth = .ok off) ∧
      (∃ off, lentOutMarket.configureReserveAsCollateral Market.weth 0 0 0 = .ok off) ∧
      (lentOutMarket.reserves Market.weth).elToken.scaledTotalSupply ≠ 0 := by
  obtain ⟨out, unguarded⟩ := lentOutMarket_unguarded
  exact ⟨Market.endState_reachable (by decide +kernel) (by decide +kernel), by decide +kernel,
    deactivateReserve_succeeds_iff.mpr unguarded,
    configureReserveAsCollateral_zero_iff.mpr unguarded, out.2⟩

/-- Weth is listed; alice supplies 100 weth, and takes them all out again. -/
def emptiedScript : List TimedCall :=
  [(1, Market.poolAddress, .listReserve (Market.listing Market.weth)),
    (1, Market.poolAddress, .setConfiguration Market.weth (Market.configuration 1000)),
    (1, Market.alice, .deposit Market.weth (10 ^ 20) Market.alice),
    (1, Market.alice, .withdraw Market.weth uint256Max Market.alice)]

/-- Weth after the first calls of the script. -/
def emptiedMarket (n : Nat) : LendingPool := Market.endState (emptiedScript.take n)

/-- Each call of the script keeps the depositors of weth paid. -/
theorem emptiedMarket_paid : PaidReachable Market.weth 1 (emptiedMarket 4) := by
  have listed : Call.exec 1 Market.poolAddress (.listReserve (Market.listing Market.weth))
      (emptiedMarket 0) = .ok (emptiedMarket 1) :=
    Market.exec_endState (by decide +kernel)
  have configured : Call.exec 1 Market.poolAddress
      (.setConfiguration Market.weth (Market.configuration 1000)) (emptiedMarket 1) =
        .ok (emptiedMarket 2) :=
    Market.exec_endState (by decide +kernel)
  have supplied : Call.exec 1 Market.alice (.deposit Market.weth (10 ^ 20) Market.alice)
      (emptiedMarket 2) = .ok (emptiedMarket 3) :=
    Market.exec_endState (by decide +kernel)
  have emptied : Call.exec 1 Market.alice (.withdraw Market.weth uint256Max Market.alice)
      (emptiedMarket 3) = .ok (emptiedMarket 4) :=
    Market.exec_endState (by decide +kernel)
  have start : PaidReachable Market.weth 0 (emptiedMarket 0) := .start 0 _ _ _ _ _
  refine start.block (by decide) (by decide) ?_
  refine .call ?_ Market.alice _ ⟨?_, by simp⟩ emptied ?_
  · refine .call ?_ Market.alice _ ⟨?_, by simp⟩ supplied ?_
    · refine .call ?_ Market.poolAddress _ ⟨?_, by simp⟩ configured (fun h => h.elim)
      · refine .call (.refl _) Market.poolAddress _ ⟨?_, by simp⟩ listed (fun h => h.elim)
        exact Market.endState_notELToken 1 (by decide +kernel) (by decide +kernel) (by decide +kernel)
      · exact Market.endState_notELToken 1 (by decide +kernel) (by decide +kernel) (by decide +kernel)
    · exact Market.endState_notELToken 1 (by decide +kernel) (by decide +kernel) (by decide +kernel)
    · intro _ out
      exact absurd out.1 (by decide +kernel)
  · exact Market.endState_notELToken 1 (by decide +kernel) (by decide +kernel) (by decide +kernel)
  · intro _ out
    exact absurd (by decide +kernel) out.2

/-- Weth can be switched off once alice has left; the weth that bob has borrowed out can be, and the
debt for it pays nothing. -/
theorem emptiedMarket_switched_off :
    (∃ off, (emptiedMarket 4).deactivateReserve Market.weth = .ok off) ∧
      ((emptiedMarket 4).reserves Market.weth).elToken.scaledTotalSupply = 0 ∧
      (∃ off, lentOutMarket.deactivateReserve Market.weth = .ok off) ∧
      (lentOutMarket.reserves Market.weth).paysDepositors 3 = false := by
  have unguarded : (emptiedMarket 4).checkNoLiquidity Market.weth = .ok () := by
    rw [checkNoLiquidity_eq_ok]
    decide +kernel
  have off := deactivateReserve_succeeds_iff.mpr unguarded
  obtain ⟨out, lentUnguarded⟩ := lentOutMarket_unguarded
  have lentOff := deactivateReserve_succeeds_iff.mpr lentUnguarded
  have borrowed : Call.exec 3 Market.bob (.borrow Market.weth (10 ^ 20) 2 Market.bob)
      (Market.endState (Market.setup 10000 ++
        [(1, Market.alice, .deposit Market.weth (10 ^ 20) Market.alice),
          (2, Market.bob, .deposit Market.dai (2 * 10 ^ 20) Market.bob)])) =
        .ok lentOutMarket :=
    Market.exec_endState (by decide +kernel)
  obtain ⟨runs, _⟩ := @switched_off_reserves_empty 1 Market.weth
  obtain ⟨_, calls⟩ := @switched_off_reserves_empty 3 Market.weth
  refine ⟨off, runs 1 _ _ emptiedMarket_paid (.between (.refl _)) (.inl off), lentOff, ?_⟩
  refine (calls _ _ _ _ ⟨?_, by simp⟩ borrowed rfl out).mp (.inl lentOff)
  exact Market.endState_notELToken 2 (by decide +kernel) (by decide +kernel) (by decide +kernel)

end ElectroLend
