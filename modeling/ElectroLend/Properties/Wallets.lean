import ElectroLend.Properties.ListedBits
import ElectroLend.Properties.PassiveHoldings

namespace ElectroLend

open Outcome LendingPool

/-- The account makes no call and receives no flash loan; the pool calls the underlying tokens only
from its own functions, and no new elToken is deployed at the address of the account. -/
def Rules.leavingWallet (u : Address) : Rules where
  call pool msgSender call := msgSender ≠ u ∧ msgSender ≠ pool.this ∧
    ∀ input, call = .listReserve input → input.elTokenAddress ≠ u
  flashLoan _ _ receiver := receiver ≠ u

variable {pool pool' : LendingPool} {t t' amount held : Nat} {this asset u : Address}

/-- The account has at least `held` units, and has approved nobody but `this`. -/
structure ERC20.Keeps (token : ERC20) (this u : Address) (held : Nat) : Prop where
  balance : held ≤ token.balances u
  allowances : ∀ spender, spender ≠ this → token.allowances u spender = 0

namespace ERC20.Keeps

variable {token token' : ERC20} {spender sender recipient owner : Address}

theorem transfer (keeps : token.Keeps this u held) (hu : u ≠ sender)
    (h : token.transfer sender recipient amount = .ok token') : token'.Keeps this u held := by
  simp only [ERC20.transfer, bind_eq_ok, pure_eq_ok] at h
  obtain ⟨balances, hm, rfl⟩ := h
  exact ⟨keeps.balance.trans (moveBalance_le hm hu), keeps.allowances⟩

theorem approve (keeps : token.Keeps this u held) (small : owner = u → spender ≠ this → amount = 0)
    (h : token.approve owner spender amount = .ok token') : token'.Keeps this u held := by
  simp only [ERC20.approve, bind_eq_ok, require_eq_ok, pure_eq_ok] at h
  obtain ⟨_, _, _, _, rfl⟩ := h
  refine ⟨keeps.balance, ?_⟩
  intro c hc
  by_cases hu : u = owner
  · subst hu
    by_cases hs : c = spender
    · subst hs
      simpa using small rfl hc
    · simpa [hs] using keeps.allowances c hc
  · simpa [hu] using keeps.allowances c hc

theorem transferFrom (keeps : token.Keeps this u held) (other : u = sender → spender ≠ this)
    (h : token.transferFrom spender sender recipient amount = .ok token') :
    token'.Keeps this u held := by
  simp only [ERC20.transferFrom, bind_eq_ok, SafeMath.sub_eq_ok] at h
  obtain ⟨moved, hmoved, _, ⟨hle, rfl⟩, happrove⟩ := h
  have after : moved.Keeps this u held := by
    by_cases hu : u = sender
    · subst hu
      simp only [ERC20.transfer, bind_eq_ok, pure_eq_ok] at hmoved
      obtain ⟨balances, hm, rfl⟩ := hmoved
      rw [keeps.allowances spender (other rfl)] at hle
      obtain rfl := Nat.le_zero.mp hle
      obtain rfl := moveBalance_zero hm
      exact ⟨keeps.balance, keeps.allowances⟩
    · exact keeps.transfer hu hmoved
  refine after.approve ?_ happrove
  rintro rfl hs
  rw [after.allowances spender hs, Nat.zero_sub]

end ERC20.Keeps

/-- The account is no elToken, and the underlying of the asset keeps what it has. -/
structure LendingPool.KeepsWallet (pool : LendingPool) (this asset u : Address) (held : Nat) :
    Prop where
  isPool : pool.this = this
  notELToken : ∀ a, (pool.reserves a).elTokenAddress ≠ u
  token : (pool.tokens asset).Keeps this u held

namespace LendingPool.KeepsWallet

theorem setReserve (keeps : pool.KeepsWallet this asset u held) {a : Address} {r : Reserve}
    (address : r.elTokenAddress = (pool.reserves a).elTokenAddress) :
    (pool.setReserve a r).KeepsWallet this asset u held where
  isPool := keeps.isPool
  notELToken := setReserve_forall (P := fun _ r => r.elTokenAddress ≠ u)
    (address ▸ keeps.notELToken a) keeps.notELToken
  token := keeps.token

theorem setToken (keeps : pool.KeepsWallet this asset u held) {a : Address} {token : ERC20}
    (stored : asset = a → token.Keeps this u held) :
    (pool.setToken a token).KeepsWallet this asset u held where
  isPool := keeps.isPool
  notELToken := keeps.notELToken
  token := by
    by_cases ha : asset = a
    · subst ha
      simpa using stored rfl
    · simpa [ha] using keeps.token

end LendingPool.KeepsWallet

/-- The deed may take underlying of the asset from the account, or let others take it. -/
def Deed.Withdraws (this asset u : Address) : Deed → Prop
  | pull a sender => a = asset ∧ sender = u
  | pay a elToken => a = asset ∧ elToken = u
  | sendToken a sender => a = asset ∧ sender = u
  | spendToken a spender sender => a = asset ∧ spender = this ∧ sender = u
  | approveToken a owner => a = asset ∧ owner = u
  | list _ elTokenAddress => elTokenAddress = u
  | _ => False

theorem Did.keepsWallet {deed : Deed} (h : Did t deed pool pool')
    (fine : ¬deed.Withdraws this asset u) (keeps : pool.KeepsWallet this asset u held) :
    pool'.KeepsWallet this asset u held := by
  cases h with
  | updateState h =>
    obtain ⟨r, hr, rfl⟩ := updateState_eq_ok h
    obtain ⟨_, _, _, _, _, _, rfl, _⟩ := Reserve.updateState_eq_ok hr
    exact keeps.setReserve rfl
  | updateInterestRates h =>
    obtain ⟨r, hr, rfl⟩ := updateInterestRates_eq_ok h
    obtain ⟨_, _, rfl⟩ := Reserve.updateInterestRates_eq_ok hr
    exact keeps.setReserve rfl
  | cumulateToLiquidityIndex h =>
    obtain ⟨_, _, rfl⟩ := cumulateToLiquidityIndex_eq_ok h
    exact keeps.setReserve rfl
  | mintELToken h =>
    obtain ⟨_, _, rfl⟩ := mintELToken_eq_ok h
    exact keeps.setReserve rfl
  | @burnELToken _ _ a _ _ _ h =>
    obtain ⟨elToken, token, hb, rfl⟩ := burnELToken_eq_ok h
    obtain ⟨_, _, _, _, _, _, _, _, _, hsend⟩ := ELToken.burn_eq_ok hb
    have burned : (pool.setReserve a { pool.reserves a with elToken }).KeepsWallet this asset u
        held := keeps.setReserve rfl
    refine burned.setToken (fun ha => ?_)
    subst ha
    exact keeps.token.transfer (Ne.symm (keeps.notELToken asset))
      (SafeERC20.lowLevelCall_eq_ok.mp hsend)
  | moveELToken _ => exact keeps.setReserve rfl
  | spendELToken _ _ _ => exact keeps.setReserve rfl
  | approveELToken _ => exact keeps.setReserve rfl
  | lowerELTokenAllowance _ _ => exact keeps.setReserve rfl
  | mintVariableDebt h =>
    obtain ⟨_, _, rfl⟩ := mintVariableDebt_eq_ok h
    exact keeps.setReserve rfl
  | mintStableDebt _ h =>
    obtain ⟨_, _, rfl⟩ := mintStableDebt_eq_ok h
    exact keeps.setReserve rfl
  | burnVariableDebt h =>
    obtain ⟨_, _, rfl⟩ := burnVariableDebt_eq_ok h
    exact keeps.setReserve rfl
  | burnStableDebt h =>
    obtain ⟨_, _, rfl⟩ := burnStableDebt_eq_ok h
    exact keeps.setReserve rfl
  | @convertStableDebt _ _ _ a _ _ _ _ _ burned minted =>
    obtain ⟨stableDebtToken, _, rfl⟩ := burnStableDebt_eq_ok burned
    obtain ⟨_, _, rfl⟩ := mintVariableDebt_eq_ok minted
    have kept : (pool.setReserve a { pool.reserves a with stableDebtToken }).KeepsWallet this asset
        u held := keeps.setReserve rfl
    exact kept.setReserve rfl
  | approveStableDelegation _ msgSender a delegatee amount => exact keeps.setReserve rfl
  | approveVariableDelegation _ msgSender a delegatee amount => exact keeps.setReserve rfl
  | setUsingAsCollateral h =>
    obtain ⟨_, _, rfl⟩ := setUsingAsCollateral_eq_ok h
    exact ⟨keeps.isPool, keeps.notELToken, keeps.token⟩
  | setBorrowing h =>
    obtain ⟨_, _, rfl⟩ := setBorrowing_eq_ok h
    exact ⟨keeps.isPool, keeps.notELToken, keeps.token⟩
  | pull h =>
    simp only [pullUnderlying, bind_eq_ok, pure_eq_ok] at h
    obtain ⟨token, htransfer, rfl⟩ := h
    refine keeps.setToken (fun ha => ?_)
    subst ha
    exact keeps.token.transferFrom (fun hu => (fine ⟨rfl, hu.symm⟩).elim)
      (SafeERC20.lowLevelCall_eq_ok.mp htransfer)
  | pay h =>
    simp only [transferUnderlyingTo, ELToken.transferUnderlyingTo, bind_eq_ok, pure_eq_ok] at h
    obtain ⟨token, htransfer, rfl⟩ := h
    refine keeps.setToken (fun ha => ?_)
    subst ha
    exact keeps.token.transfer (fun hu => fine ⟨rfl, hu.symm⟩)
      (SafeERC20.lowLevelCall_eq_ok.mp htransfer)
  | sendToken h =>
    exact keeps.setToken
      (fun ha => (ha ▸ keeps.token).transfer (fun hu => fine ⟨ha.symm, hu.symm⟩) h)
  | spendToken h =>
    exact keeps.setToken (fun ha => (ha ▸ keeps.token).transferFrom
      (fun hu hs => fine ⟨ha.symm, hs, hu.symm⟩) h)
  | approveToken h =>
    exact keeps.setToken (fun ha => (ha ▸ keeps.token).approve
      (fun hu _ => (fine ⟨ha.symm, hu⟩).elim) h)
  | @listReserve _ _ input h =>
    obtain ⟨_, _, _, hreserves⟩ := listReserve_reserves h
    obtain ⟨same, tokens, _, _⟩ := listReserve_rest h
    refine ⟨same.trans keeps.isPool, ?_, by rw [tokens]; exact keeps.token⟩
    intro a
    by_cases ha : a = input.underlyingAsset
    · subst ha
      have notNew : input.elTokenAddress ≠ u := fine
      simpa [hreserves, freshReserve] using notNew
    · simpa [hreserves, ha] using keeps.notELToken a
  | setConfiguration _ a configuration => exact keeps.setReserve rfl
  | setReserveInterestRateStrategy _ a strategy => exact keeps.setReserve rfl
  | setPause _ val => exact ⟨keeps.isPool, keeps.notELToken, keeps.token⟩
  | setPrices _ priceOracle lendingRateOracle => exact ⟨keeps.isPool, keeps.notELToken, keeps.token⟩

theorem Call.leaves_wallet {msgSender : Address} {call : Call} {deed : Deed}
    (allowed : (Rules.leavingWallet u).call pool msgSender call)
    (keeps : pool.KeepsWallet this asset u held) (hdeed : deed ∈ call.deeds pool msgSender) :
    ¬deed.Withdraws this asset u := by
  obtain ⟨other, notPool, listing⟩ := allowed
  rw [keeps.isPool] at notPool
  intro withdraws
  cases call with
  | listReserve input =>
    obtain rfl := List.mem_singleton.mp hdeed
    exact listing input rfl withdraws
  | _ =>
    simp only [Call.deeds, List.mem_cons, List.not_mem_nil, or_false] at hdeed
    rcases hdeed with rfl | rfl | rfl | rfl | rfl | rfl | rfl | rfl | rfl
    all_goals first
      | exact withdraws
      | exact other withdraws.2
      | exact notPool withdraws.2.1
      | exact keeps.notELToken _ withdraws.2

theorem keepsWallet_invariant (this asset u : Address) (held : Nat) :
    RuledInvariant (.leavingWallet u) fun _ pool => pool.KeepsWallet this asset u held := by
  refine .of_deeds (fun _ _ _ _ fine did keeps => did.keepsWallet fine keeps) ?_ ?_ ?_
  · intro t pool pool' msgSender call allowed _ keeps deed hdeed
    exact Call.leaves_wallet allowed keeps hdeed
  · rintro pool msgSender receiver _ _ keeps _ ⟨a, rfl⟩ ⟨_, hu⟩
    exact keeps.notELToken a hu
  · rintro pool msgSender receiver onBehalfOf other _ _ _ ⟨_, hdeed⟩ withdraws
    simp only [List.mem_cons, List.not_mem_nil, or_false] at hdeed
    obtain rfl | rfl | rfl | rfl | rfl := hdeed
    all_goals first | exact withdraws | exact other withdraws.2

/-- An approval of the pool, however large, does not let anybody spend the account's underlying: as
long as the account itself makes no call and takes no flash loan, it keeps what it has. -/
theorem wallet_kept (notELToken : ∀ a, (pool.reserves a).elTokenAddress ≠ u)
    (onlyPool : ∀ spender, spender ≠ pool.this → (pool.tokens asset).allowances u spender = 0)
    (after : VisitedAfter (.leavingWallet u) t pool t' pool') :
    (pool.tokens asset).balanceOf u ≤ (pool'.tokens asset).balanceOf u := by
  have before : pool.KeepsWallet pool.this asset u ((pool.tokens asset).balances u) :=
    ⟨rfl, notELToken, ⟨Nat.le_refl _, onlyPool⟩⟩
  exact ((keepsWallet_invariant pool.this asset u _).visitedAfter after before).token.balance

/-- Bob, who has approved the pool without limit, keeps his weth while alice deposits and borrows. -/
theorem passiveMarket_wallet_kept :
    ∃ pool', VisitedAfter (.leavingWallet Market.bob) 2 passiveMarket 2592003 pool' ∧
      (passiveMarket.tokens Market.weth).balanceOf Market.bob ≤
        (pool'.tokens Market.weth).balanceOf Market.bob := by
  have deposited : (passiveMarket.deposit 2592003 Market.alice Market.weth (10 ^ 20)
      Market.bob).isOk = true := by decide +kernel
  obtain ⟨pool', hcall⟩ := exists_of_isOk deposited
  have run : Steps (.leavingWallet Market.bob) 2592003 passiveMarket pool' := by
    refine .call (.refl _) Market.alice (.deposit Market.weth (10 ^ 20) Market.bob) ?_ hcall
    exact ⟨by decide, by decide +kernel, fun _ hlist => by cases hlist⟩
  have after : VisitedAfter (.leavingWallet Market.bob) 2 passiveMarket 2592003 pool' :=
    ⟨2, passiveMarket, .now, by decide, by decide, .between run⟩
  have reachable : Reachable .any 2 passiveMarket :=
    Market.endState_reachable (by decide +kernel) (by decide +kernel)
  have notELToken : ∀ a, (passiveMarket.reserves a).elTokenAddress ≠ Market.bob := by
    intro a
    obtain blank | ⟨_, hid, hlist⟩ := (reachable.visited (by decide)).listing.1.known a
    · rw [blank.elToken]
      decide
    · have count : passiveMarket.reservesCount = 2 := by decide +kernel
      rw [← hlist]
      have hid : (passiveMarket.reserves a).id = 0 ∨ (passiveMarket.reserves a).id = 1 := by omega
      obtain hid | hid := hid
      · rw [hid]
        decide +kernel
      · rw [hid]
        decide +kernel
  have onlyPool : ∀ spender, spender ≠ passiveMarket.this →
      (passiveMarket.tokens Market.weth).allowances Market.bob spender = 0 := by
    intro spender hne
    have hpool : passiveMarket.this = Market.poolAddress := by decide +kernel
    rw [hpool] at hne
    show (if Market.bob < 100 ∧ spender = Market.poolAddress then uint256Max else 0) = 0
    exact if_neg (fun h => hne h.2)
  exact ⟨pool', after, wallet_kept notELToken onlyPool after⟩

end ElectroLend
