import ElectroLend.Library.Runs
import ElectroLend.Pool.ParBooks
import ElectroLend.Pool.WellListed
import ElectroLend.Pool.Scripts

namespace ElectroLend

open Outcome

namespace LendingPool

/-- A reserve at par whose elTokens are covered by its liquidity and its debt, and whose rates are
covered at these. -/
def Backed (pool : LendingPool) (asset elToken : Address) : Prop :=
  ∃ supply debt liquidity, pool.ParBooks asset elToken supply debt liquidity ∧
    supply ≤ liquidity + debt ∧ pool.CoveredAt asset liquidity debt

variable {pool pool' : LendingPool} {t amount : Nat} {asset elToken msgSender u : Address}

theorem deposit_backed (h : pool.Backed asset elToken)
    (current : (pool.reserves asset).IndexesCurrent t)
    (hd : pool.deposit t msgSender asset amount u = .ok pool') : pool'.Backed asset elToken := by
  obtain ⟨supply, debt, liquidity, books, hle, _⟩ := h
  obtain ⟨p₁, p₂, p₃, first, p₄, h₁, h₂, h₃, h₄, hbit⟩ := deposit_eq_ok hd
  rw [books.address] at h₂ h₃
  obtain ⟨balance, hbal, _, updated, covered⟩ :=
    updateInterestRates_parBooks (updateState_parBooks books current h₁) h₂
  have minted := mintELToken_parBooks (pullUnderlying_parBooks updated h₃) h₄
  have kept := covered.frame
    ((pullUnderlying_ratesFrame h₃).trans (mintELToken_ratesFrame h₄))
  rw [Nat.sub_zero] at kept
  have backed : supply + amount ≤ balance + amount + debt := by omega
  obtain ⟨_, hset⟩ | ⟨_, rfl⟩ := hbit
  · exact ⟨_, _, _, setUsingAsCollateral_parBooks minted hset, backed,
      kept.frame (setUsingAsCollateral_ratesFrame hset)⟩
  · exact ⟨_, _, _, minted, backed, kept⟩

theorem withdraw_backed {recipient : Address} {paid : Nat} (h : pool.Backed asset elToken)
    (current : (pool.reserves asset).IndexesCurrent t)
    (hw : pool.withdraw t msgSender asset amount recipient = .ok (paid, pool')) :
    pool'.Backed asset elToken := by
  obtain ⟨supply, debt, liquidity, books, hle, _⟩ := h
  obtain ⟨_, p₁, p₂, p₃, _, _, h₁, h₂, hbit, h₄, _⟩ := withdraw_eq_ok hw
  rw [books.address] at h₂
  obtain ⟨balance, hbal, htaken, updated, covered⟩ :=
    updateInterestRates_parBooks (updateState_parBooks books current h₁) h₂
  obtain ⟨marked, frame⟩ : p₃.ParBooks asset elToken supply debt balance ∧ p₂.RatesFrame p₃ := by
    obtain ⟨_, hset⟩ | ⟨_, rfl⟩ := hbit
    · exact ⟨setUsingAsCollateral_parBooks updated hset, setUsingAsCollateral_ratesFrame hset⟩
    · exact ⟨updated, .refl _⟩
  obtain ⟨hburn, burned⟩ := burnELToken_parBooks marked h₄
  have kept := covered.frame (frame.trans (burnELToken_ratesFrame h₄))
  exact ⟨_, _, _, burned, by omega, kept⟩

theorem borrow_backed (h : pool.Backed asset elToken)
    (current : (pool.reserves asset).IndexesCurrent t)
    (hb : pool.borrow t msgSender asset amount 2 u = .ok pool') : pool'.Backed asset elToken := by
  obtain ⟨supply, debt, liquidity, books, hle, _⟩ := h
  simp only [borrow, bind_eq_ok] at hb
  obtain ⟨_, _, hexec⟩ := hb
  obtain ⟨p₁, first, p₂, p₃, p₄, _, h₁, h₂, hbit, h₄, hsend⟩ := executeBorrow_eq_ok hexec
  simp only [mintDebt, InterestRateMode.fromNat, ok_bind, reduceCtorEq, if_false] at h₂
  have h₅ := (hsend.resolve_right fun hkeep => hkeep.1 rfl).2
  dsimp only at h₂ h₄ h₅
  rw [books.address] at h₄ h₅
  rw [if_pos rfl] at h₄
  have borrowed := mintVariableDebt_parBooks (updateState_parBooks books current h₁) h₂
  have marked : p₃.ParBooks asset elToken supply (debt + amount) liquidity := by
    obtain ⟨_, hset⟩ | ⟨_, rfl⟩ := hbit
    · exact setBorrowing_parBooks borrowed hset
    · exact borrowed
  obtain ⟨balance, hbal, htaken, updated, covered⟩ := updateInterestRates_parBooks marked h₄
  have sent := transferUnderlyingTo_parBooks updated h₅
  have kept := covered.frame (transferUnderlyingTo_ratesFrame h₅)
  exact ⟨_, _, _, sent, by omega, kept⟩

theorem repay_backed {paid : Nat} (h : pool.Backed asset elToken)
    (current : (pool.reserves asset).IndexesCurrent t)
    (hr : pool.repay t msgSender asset amount 2 u = .ok (paid, pool')) :
    pool'.Backed asset elToken := by
  obtain ⟨supply, debt, liquidity, books, hle, _⟩ := h
  obtain ⟨stable, variableDebt, mode, p₁, p₂, p₃, p₄, _, _, hmode, _, _, h₁, h₂, h₃, _, hbit, h₅⟩ :=
    repay_eq_ok hr
  cases Except.ok.inj hmode
  rw [burnDebt, if_neg (by decide)] at h₂
  rw [books.address] at h₃ h₅
  obtain ⟨hburn, burned⟩ := burnVariableDebt_parBooks (updateState_parBooks books current h₁) h₂
  obtain ⟨balance, hbal, _, updated, covered⟩ := updateInterestRates_parBooks burned h₃
  obtain ⟨marked, frame⟩ : p₄.ParBooks asset elToken supply (debt - paid) balance ∧
      p₃.RatesFrame p₄ := by
    obtain ⟨_, hset⟩ | ⟨_, rfl⟩ := hbit
    · exact ⟨setBorrowing_parBooks updated hset, setBorrowing_ratesFrame hset⟩
    · exact ⟨updated, .refl _⟩
  have received := pullUnderlying_parBooks marked h₅
  have kept := covered.frame (frame.trans (pullUnderlying_ratesFrame h₅))
  rw [Nat.sub_zero] at kept
  exact ⟨_, _, _, received, by omega, kept⟩

/-- A fresh reserve whose elToken has not let anybody pull its underlying. -/
structure StartsEmpty (pool : LendingPool) (asset elToken : Address) : Prop where
  par : (pool.reserves asset).AtPar
  address : (pool.reserves asset).elTokenAddress = elToken
  liquidityRate : (pool.reserves asset).currentLiquidityRate = 0
  supply : (pool.reserves asset).elToken.totalSupply = 0
  debt : (pool.reserves asset).variableDebtToken.totalSupply = 0
  allowances : ∀ spender, (pool.tokens asset).allowances elToken spender = 0

/-- What happens between two calls on a reserve: anything that neither accrues it, nor changes its
supplies and rates, nor moves underlying of its elToken. -/
structure QuietFor (pool pool' : LendingPool) (asset : Address) : Prop where
  liquidityIndex : (pool'.reserves asset).liquidityIndex = (pool.reserves asset).liquidityIndex
  variableBorrowIndex :
    (pool'.reserves asset).variableBorrowIndex = (pool.reserves asset).variableBorrowIndex
  liquidityRate :
    (pool'.reserves asset).currentLiquidityRate = (pool.reserves asset).currentLiquidityRate
  variableRate : (pool'.reserves asset).currentVariableBorrowRate =
    (pool.reserves asset).currentVariableBorrowRate
  address : (pool'.reserves asset).elTokenAddress = (pool.reserves asset).elTokenAddress
  supply : (pool'.reserves asset).elToken.totalSupply = (pool.reserves asset).elToken.totalSupply
  debt : (pool'.reserves asset).variableDebtToken.totalSupply =
    (pool.reserves asset).variableDebtToken.totalSupply
  stable : (pool'.reserves asset).stableDebtToken.totalSupply =
    (pool.reserves asset).stableDebtToken.totalSupply
  liquidity : (pool'.tokens asset).balances (pool.reserves asset).elTokenAddress =
    (pool.tokens asset).balances (pool.reserves asset).elTokenAddress
  allowances : (pool'.tokens asset).allowances (pool.reserves asset).elTokenAddress =
    (pool.tokens asset).allowances (pool.reserves asset).elTokenAddress

theorem QuietFor.refl (pool : LendingPool) (asset : Address) : pool.QuietFor pool asset :=
  ⟨rfl, rfl, rfl, rfl, rfl, rfl, rfl, rfl, rfl, rfl⟩

theorem StartsEmpty.backed (h : pool.StartsEmpty asset elToken) : pool.Backed asset elToken := by
  refine ⟨0, 0, 0, ⟨h.par, h.address, h.supply, h.debt, Nat.zero_le _, h.allowances⟩,
    Nat.zero_le _, ?_⟩
  simp [CoveredAt, InterestCovered]

theorem StartsEmpty.quiet (h : pool.StartsEmpty asset elToken)
    (quiet : pool.QuietFor pool' asset) : pool'.StartsEmpty asset elToken where
  par := ⟨quiet.liquidityIndex.trans h.par.liquidityIndex,
    quiet.variableBorrowIndex.trans h.par.variableBorrowIndex, quiet.stable.trans h.par.stable⟩
  address := quiet.address.trans h.address
  liquidityRate := quiet.liquidityRate.trans h.liquidityRate
  supply := quiet.supply.trans h.supply
  debt := quiet.debt.trans h.debt
  allowances spender := by
    have rows := quiet.allowances
    rw [h.address] at rows
    rw [rows]
    exact h.allowances spender

theorem setConfiguration_quiet (pool : LendingPool) (asset : Address)
    (configuration : ReserveConfigurationMap) :
    pool.QuietFor (pool.setConfiguration asset configuration) asset := by
  constructor <;> simp [setConfiguration]

theorem addReserveToList_quiet (h : pool.addReserveToList asset = .ok pool') :
    pool.QuietFor pool' asset := by
  obtain ⟨_, ⟨_, _, rfl⟩ | ⟨_, rfl⟩⟩ := addReserveToList_eq_ok h
  · exact .refl _ _
  · constructor <;> simp

theorem listReserve_startsEmpty {input : InitReserveInput}
    (fresh : pool.reserves input.underlyingAsset = .unlisted)
    (none : ∀ spender,
      (pool.tokens input.underlyingAsset).allowances input.elTokenAddress spender = 0)
    (h : pool.listReserve input = .ok pool') :
    pool'.StartsEmpty input.underlyingAsset input.elTokenAddress := by
  obtain ⟨_, _, _, _, added, configuration, hadd, rfl⟩ := listReserve_eq_ok h
  have start : (pool.setReserve input.underlyingAsset (pool.freshReserve input)).StartsEmpty
      input.underlyingAsset input.elTokenAddress := by
    refine ⟨⟨?_, ?_, ?_⟩, ?_, ?_, ?_, ?_, none⟩
    · simp [freshReserve, uint128, RAY]
    · simp [freshReserve, uint128, RAY]
    · simp [freshReserve, StableDebtToken.empty, IncentivizedERC20.empty]
    · simp [freshReserve]
    · simp [freshReserve, fresh, Reserve.unlisted]
    · simp [freshReserve, IncentivizedERC20.empty]
    · simp [freshReserve, VariableDebtToken.empty, IncentivizedERC20.empty]
  exact (start.quiet (addReserveToList_quiet hadd)).quiet (setConfiguration_quiet _ _ _)

theorem Backed.quiet (h : pool.Backed asset elToken) (quiet : pool.QuietFor pool' asset) :
    pool'.Backed asset elToken := by
  obtain ⟨supply, debt, liquidity, books, hle, covered⟩ := h
  have held := quiet.liquidity
  have rows := quiet.allowances
  rw [books.address] at held rows
  refine ⟨supply, debt, liquidity, ⟨⟨?_, ?_, ?_⟩, ?_, ?_, ?_, ?_, ?_⟩, hle, ?_⟩
  · exact quiet.liquidityIndex.trans books.par.liquidityIndex
  · exact quiet.variableBorrowIndex.trans books.par.variableBorrowIndex
  · exact quiet.stable.trans books.par.stable
  · exact quiet.address.trans books.address
  · exact quiet.supply.trans books.supply
  · exact quiet.debt.trans books.debt
  · rw [held]
    exact books.liquidity
  · intro spender
    rw [rows]
    exact books.allowances spender
  · rw [CoveredAt, quiet.liquidityRate, quiet.variableRate]
    exact covered

end LendingPool

open LendingPool

/-- Deposits, withdrawals, and borrows and repayments at the variable rate, of one asset. -/
def Call.OnReserve (asset : Address) : Call → Prop
  | .deposit a _ _ | .withdraw a _ _ => a = asset
  | .borrow a _ mode _ | .repay a _ mode _ => a = asset ∧ mode = 2
  | _ => False

theorem Call.exec_backed {pool pool' : LendingPool} {t : Nat} {asset elToken msgSender : Address}
    {call : Call} (on : call.OnReserve asset) (h : pool.Backed asset elToken)
    (current : (pool.reserves asset).IndexesCurrent t)
    (success : call.exec t msgSender pool = .ok pool') : pool'.Backed asset elToken := by
  cases call with
  | deposit a amount onBehalfOf =>
    cases on
    exact deposit_backed h current success
  | withdraw a amount recipient =>
    cases on
    obtain ⟨⟨_, _⟩, hw, rfl⟩ := map_eq_ok.mp success
    exact withdraw_backed h current hw
  | borrow a amount mode onBehalfOf =>
    obtain ⟨rfl, rfl⟩ := on
    exact borrow_backed h current success
  | repay a amount mode onBehalfOf =>
    obtain ⟨rfl, rfl⟩ := on
    obtain ⟨⟨_, _⟩, hr, rfl⟩ := map_eq_ok.mp success
    exact repay_backed h current hr
  | _ => exact absurd on id

/-- One call on the reserve, of a kind that `allowed` admits, after a quiet time. -/
def ReserveStep (asset : Address) (allowed : LendingPool → Nat → Prop) (_ : Nat)
    (s s' : LendingPool × Nat) : Prop :=
  s.2 ≤ s'.2 ∧ IsBlockTimestamp s'.2 ∧ ∃ (before : LendingPool) (msgSender : Address) (call : Call),
    s.1.QuietFor before asset ∧
    call.OnReserve asset ∧ allowed before s'.2 ∧ call.exec s'.2 msgSender before = .ok s'.1

/-- The pool at time `t`, after `n` calls on the reserve and a quiet time. -/
def ReserveRun (asset : Address) (allowed : LendingPool → Nat → Prop) (start : LendingPool)
    (n t : Nat) (pool : LendingPool) : Prop :=
  ∃ t₀ last t', Runs.Steps (ReserveStep asset allowed) (start, t₀) n (last, t') ∧
    last.QuietFor pool asset ∧ t' ≤ t

/-- Calls that accrue no interest on the reserve. -/
def AccruesNothing (asset : Address) (pool : LendingPool) (t : Nat) : Prop :=
  (pool.reserves asset).IndexesCurrent t

theorem ReserveRun.backed {start pool : LendingPool} {asset elToken : Address} {n t : Nat}
    (empty : start.StartsEmpty asset elToken)
    (run : ReserveRun asset (AccruesNothing asset) start n t pool) :
    pool.Backed asset elToken ∧ (n = 0 → (pool.reserves asset).elToken.totalSupply = 0) := by
  obtain ⟨t₀, last, _, steps, quiet, _⟩ := run
  have inv : last.Backed asset elToken ∧
      (n = 0 → (last.reserves asset).elToken.totalSupply = 0) := by
    refine steps.invariant (fun k s => s.1.Backed asset elToken ∧
      (k = 0 → (s.1.reserves asset).elToken.totalSupply = 0))
      ⟨empty.backed, fun _ => empty.supply⟩ ?_
    intro k s s' hs hstep
    obtain ⟨_, _, before, msgSender, call, hquiet, on, current, success⟩ := hstep
    exact ⟨Call.exec_backed on (hs.1.quiet hquiet) current success, by omega⟩
  exact ⟨inv.1.quiet quiet, fun hn => quiet.supply.trans (inv.2 hn)⟩

/-- A reserve that starts empty stays solvent in every run whose calls accrue no interest on it:
at every later time, accrued interest included, its elTokens are worth at most its assets. -/
theorem claims_within_assets {start pool : LendingPool} {asset elToken : Address}
    {n t claimed backing : Nat} (empty : start.StartsEmpty asset elToken)
    (run : ReserveRun asset (AccruesNothing asset) start n t pool) (timestamp : IsBlockTimestamp t)
    (hc : (pool.reserves asset).claims t = .ok claimed)
    (ha : (pool.reserves asset).assets t (pool.underlyingBalance asset) = .ok backing) :
    claimed ≤ backing + (n + backing / 10 ^ 9) := by
  obtain ⟨⟨supply, debt, liquidity, books, hle, covered⟩, started⟩ := run.backed empty
  have held : liquidity ≤ pool.underlyingBalance asset := by
    have hl := books.liquidity
    rw [← books.address] at hl
    exact hl
  rw [← books.supply, ← books.debt] at hle
  rw [← books.debt] at covered
  exact books.par.claims_le_assets timestamp held hle covered started hc ha

theorem ReserveRun.start {asset : Address} {allowed : LendingPool → Nat → Prop}
    (pool : LendingPool) (t : Nat) : ReserveRun asset allowed pool 0 t pool :=
  ⟨t, pool, t, .refl, .refl pool asset, Nat.le_refl t⟩

theorem ReserveRun.call {start pool pool' : LendingPool} {asset msgSender : Address} {n t t' : Nat}
    {allowed : LendingPool → Nat → Prop} {call : Call} (on : call.OnReserve asset)
    (run : ReserveRun asset allowed start n t pool) (later : t ≤ t')
    (timestamp : IsBlockTimestamp t') (hallowed : allowed pool t')
    (h : call.exec t' msgSender pool = .ok pool') :
    ReserveRun asset allowed start (n + 1) t' pool' := by
  obtain ⟨t₀, last, before, steps, quiet, hle⟩ := run
  exact ⟨t₀, pool', t', .tail steps ⟨hle.trans later, timestamp, pool, msgSender, call, quiet, on,
    hallowed, h⟩, .refl pool' asset, Nat.le_refl t'⟩

theorem ReserveRun.wait {start pool : LendingPool} {asset : Address} {n t t' : Nat}
    {allowed : LendingPool → Nat → Prop} (run : ReserveRun asset allowed start n t pool)
    (later : t ≤ t') : ReserveRun asset allowed start n t' pool := by
  obtain ⟨t₀, last, before, steps, quiet, hle⟩ := run
  exact ⟨t₀, last, before, steps, quiet, hle.trans later⟩

/-- Every call of the script goes through, and is made where `allowed` admits it. -/
def admitsAll (allowed : LendingPool → Nat → Prop) [∀ pool t, Decidable (allowed pool t)]
    (pool : LendingPool) : List TimedCall → Bool
  | [] => true
  | (t, msgSender, call) :: rest =>
    decide (allowed pool t) &&
      succeedsWith (call.exec t msgSender pool) fun next => admitsAll allowed next rest

theorem ReserveRun.script {start pool pool' : LendingPool} {asset : Address} {n t last : Nat}
    {allowed : LendingPool → Nat → Prop} [∀ pool t, Decidable (allowed pool t)]
    {calls : List TimedCall} (run : ReserveRun asset allowed start n t pool)
    (ordered : timestampsOrdered t last calls = true) (on : ∀ c ∈ calls, c.2.2.OnReserve asset)
    (admitted : admitsAll allowed pool calls = true) (success : runScript pool calls = .ok pool') :
    ReserveRun asset allowed start (n + calls.length) last pool' := by
  induction calls generalizing n t pool with
  | nil =>
    cases Except.ok.inj success
    simp only [timestampsOrdered, Bool.and_eq_true, decide_eq_true_eq] at ordered
    exact run.wait ordered.1
  | cons first rest ih =>
    obtain ⟨t', msgSender, call⟩ := first
    simp only [timestampsOrdered, Bool.and_eq_true, decide_eq_true_eq] at ordered
    simp only [runScript, bind_eq_ok] at success
    obtain ⟨middle, hcall, hrest⟩ := success
    simp only [admitsAll, Bool.and_eq_true, decide_eq_true_eq, hcall, succeedsWith] at admitted
    have step := ReserveRun.call (on _ List.mem_cons_self) run ordered.1.1 ordered.1.2 admitted.1
      hcall
    rw [List.length_cons, Nat.add_comm rest.length, ← Nat.add_assoc]
    exact ih step ordered.2 (fun c hc => on c (List.mem_cons_of_mem _ hc)) admitted.2 hrest

/-- A script that is seen to go through ends in a run with the claims and the assets seen. -/
theorem ReserveRun.of_script {start : LendingPool} {asset : Address} {last : Nat}
    {allowed : LendingPool → Nat → Prop} [∀ pool t, Decidable (allowed pool t)]
    {calls : List TimedCall} (test : Nat → Nat → Bool)
    (ordered : timestampsOrdered 0 last calls = true) (on : ∀ c ∈ calls, c.2.2.OnReserve asset)
    (admitted : admitsAll allowed start calls = true)
    (seen : succeedsWith (runScript start calls) (fun pool =>
      succeedsWith ((pool.reserves asset).claims last) fun claimed =>
        succeedsWith ((pool.reserves asset).assets last (pool.underlyingBalance asset)) fun backing =>
          test claimed backing) = true) :
    ∃ pool claimed backing, ReserveRun asset allowed start calls.length last pool ∧
      (pool.reserves asset).claims last = .ok claimed ∧
      (pool.reserves asset).assets last (pool.underlyingBalance asset) = .ok backing ∧
      test claimed backing = true := by
  obtain ⟨pool, hscript, hafter⟩ := succeedsWith_iff.mp seen
  obtain ⟨claimed, hclaimed, hafter⟩ := succeedsWith_iff.mp hafter
  obtain ⟨backing, hbacking, htest⟩ := succeedsWith_iff.mp hafter
  have run := (ReserveRun.start start 0).script ordered on admitted hscript
  rw [Nat.zero_add] at run
  exact ⟨pool, claimed, backing, run, hclaimed, hbacking, htest⟩

/-- Lists a reserve of the fresh market and configures it. -/
def soleListing (input : InitReserveInput) (reserveFactor : Nat) : List TimedCall :=
  [(0, Market.poolAddress, .listReserve input),
    (0, Market.poolAddress, .setConfiguration input.underlyingAsset
      (Market.configuration reserveFactor))]

theorem soleListing_startsEmpty {input : InitReserveInput} {reserveFactor : Nat}
    (unfunded : 100 ≤ input.elTokenAddress)
    (success : (runScript Market.genesis (soleListing input reserveFactor)).isOk = true) :
    (Market.endState (soleListing input reserveFactor)).StartsEmpty input.underlyingAsset
      input.elTokenAddress := by
  have script := Market.runScript_endState success
  simp only [soleListing, runScript, bind_eq_ok, Except.ok.injEq] at script
  obtain ⟨added, hlist, configured, hconfig, hend⟩ := script
  have none : ∀ spender,
      (Market.genesis.tokens input.underlyingAsset).allowances input.elTokenAddress spender = 0 := by
    intro spender
    simp [Market.genesis, LendingPool.initialized, Market.fundedToken, unfunded]
  have starts := listReserve_startsEmpty rfl none hlist
  cases Except.ok.inj hconfig
  rw [soleListing, ← hend]
  exact starts.quiet (setConfiguration_quiet added _ _)

def soleMarket : LendingPool :=
  Market.endState [(0, Market.poolAddress, .listReserve (Market.listing Market.weth)),
    (0, Market.poolAddress, .setConfiguration Market.weth (Market.configuration 1000))]

theorem soleMarket_startsEmpty : soleMarket.StartsEmpty Market.weth 110 :=
  soleListing_startsEmpty (by decide) (by decide +kernel)

/-- Alice deposits and borrows half of it, and carol deposits a month later. -/
def accruingCalls : List TimedCall :=
  [(1, Market.alice, .deposit Market.weth (10 ^ 20) Market.alice),
    (2, Market.alice, .borrow Market.weth (5 * 10 ^ 19) 2 Market.alice),
    (2592002, Market.carol, .deposit Market.weth (10 ^ 18) Market.carol)]

/-- Carol's deposit accrues interest, and the elTokens minted on top to the treasury are worth
a thousand times the assets. -/
theorem soleMarket_accrual_insolvent :
    soleMarket.StartsEmpty Market.weth 110 ∧
      ∃ pool claimed backing, ReserveRun Market.weth (fun _ _ => True) soleMarket 3 2592002 pool ∧
        (pool.reserves Market.weth).claims 2592002 = .ok claimed ∧
        (pool.reserves Market.weth).assets 2592002 (pool.underlyingBalance Market.weth) =
          .ok backing ∧
        backing + (3 + backing / 10 ^ 9) < claimed ∧ 1000 * backing < claimed := by
  refine ⟨soleMarket_startsEmpty, ?_⟩
  have on : ∀ c ∈ accruingCalls, c.2.2.OnReserve Market.weth := by
    simp [accruingCalls, Call.OnReserve]
  have admitted : admitsAll (fun _ _ => True) soleMarket accruingCalls = true := by decide +kernel
  obtain ⟨pool, claimed, backing, run, hclaimed, hbacking, hexcess⟩ := ReserveRun.of_script
    (fun claimed backing =>
      decide (backing + (3 + backing / 10 ^ 9) < claimed ∧ 1000 * backing < claimed))
    (by decide : timestampsOrdered 0 2592002 accruingCalls = true) on admitted (by decide +kernel)
  exact ⟨pool, claimed, backing, run, hclaimed, hbacking, of_decide_eq_true hexcess⟩

/-- Calls that leave the liquidity index as it is and so mint nothing unbacked; the variable index
may move. -/
def KeepsLiquidityIndex (asset : Address) (pool : LendingPool) (t : Nat) : Prop :=
  (pool.reserves asset).nextLiquidityIndex t = .ok (pool.reserves asset).liquidityIndex

instance (asset : Address) (pool : LendingPool) (t : Nat) :
    Decidable (KeepsLiquidityIndex asset pool t) :=
  inferInstanceAs (Decidable (_ = _))

/-- A reserve whose debt grows by a factor above 30 in a second, nearly all of it for the treasury. -/
def usuryMarket : LendingPool :=
  Market.endState (soleListing { Market.listing Market.weth with
    interestRateStrategy := { Market.strategy with baseVariableBorrowRate := 10 ^ 36 } } 9999)

theorem usuryMarket_startsEmpty : usuryMarket.StartsEmpty Market.weth 110 :=
  soleListing_startsEmpty (by decide) (by decide +kernel)

/-- Alice's 48 are recorded as one scaled unit, and carol takes out what the rest is measured by. -/
def roundedCalls : List TimedCall :=
  [(1, Market.carol, .deposit Market.weth (10 ^ 27) Market.carol),
    (1, Market.alice, .deposit Market.weth 1000 Market.alice),
    (1, Market.alice, .borrow Market.weth 1 2 Market.alice),
    (2, Market.alice, .borrow Market.weth 48 2 Market.alice),
    (2, Market.carol, .withdraw Market.weth (10 ^ 27) Market.carol)]

/-- A variable index that moves alone breaks the bound as well: at an index above one ray a call
loses more than one unit to rounding. -/
theorem usuryMarket_rounding_insolvent :
    usuryMarket.StartsEmpty Market.weth 110 ∧
      ∃ pool claimed backing,
        ReserveRun Market.weth (KeepsLiquidityIndex Market.weth) usuryMarket 5 2 pool ∧
        (pool.reserves Market.weth).claims 2 = .ok claimed ∧
        (pool.reserves Market.weth).assets 2 (pool.underlyingBalance Market.weth) = .ok backing ∧
        backing + (5 + backing / 10 ^ 9) < claimed := by
  refine ⟨usuryMarket_startsEmpty, ?_⟩
  have on : ∀ c ∈ roundedCalls, c.2.2.OnReserve Market.weth := by
    simp [roundedCalls, Call.OnReserve]
  have admitted : admitsAll (KeepsLiquidityIndex Market.weth) usuryMarket roundedCalls = true := by
    decide +kernel
  obtain ⟨pool, claimed, backing, run, hclaimed, hbacking, hexcess⟩ := ReserveRun.of_script
    (fun claimed backing => decide (backing + (5 + backing / 10 ^ 9) < claimed))
    (by decide : timestampsOrdered 0 2 roundedCalls = true) on admitted (by decide +kernel)
  exact ⟨pool, claimed, backing, run, hclaimed, hbacking, of_decide_eq_true hexcess⟩

/-- Deposited and borrowed in one block, and looked at a year later. -/
theorem soleMarket_year_later_solvent :
    ∃ deposited borrowed claimed backing,
      soleMarket.deposit 1 Market.alice Market.weth (10 ^ 20) Market.alice = .ok deposited ∧
      deposited.borrow 1 Market.alice Market.weth (5 * 10 ^ 19) 2 Market.alice = .ok borrowed ∧
      (borrowed.reserves Market.weth).claims 31536001 = .ok claimed ∧
      (borrowed.reserves Market.weth).assets 31536001 (borrowed.underlyingBalance Market.weth) =
        .ok backing ∧
      claimed ≤ backing + (2 + backing / 10 ^ 9) := by
  have start : (soleMarket.reserves Market.weth).IndexesCurrent 1 :=
    ⟨by decide +kernel, by decide +kernel⟩
  have lends : succeedsWith
      (soleMarket.deposit 1 Market.alice Market.weth (10 ^ 20) Market.alice)
      (fun deposited =>
        decide ((deposited.reserves Market.weth).nextLiquidityIndex 1 =
          .ok (deposited.reserves Market.weth).liquidityIndex) &&
        decide ((deposited.reserves Market.weth).nextVariableBorrowIndex 1 =
          .ok (deposited.reserves Market.weth).variableBorrowIndex) &&
        succeedsWith (deposited.borrow 1 Market.alice Market.weth (5 * 10 ^ 19) 2 Market.alice)
          fun borrowed => ((borrowed.reserves Market.weth).claims 31536001).isOk &&
            ((borrowed.reserves Market.weth).assets 31536001
              (borrowed.underlyingBalance Market.weth)).isOk) = true := by decide +kernel
  obtain ⟨deposited, hdeposit, hafter⟩ := succeedsWith_iff.mp lends
  simp only [Bool.and_eq_true, decide_eq_true_eq] at hafter
  obtain ⟨⟨hliquidity, hvariable⟩, hborrows⟩ := hafter
  obtain ⟨borrowed, hborrow, hviews⟩ := succeedsWith_iff.mp hborrows
  rw [Bool.and_eq_true] at hviews
  obtain ⟨claimed, hclaimed⟩ := exists_of_isOk hviews.1
  obtain ⟨backing, hbacking⟩ := exists_of_isOk hviews.2
  have onDeposit : (Call.deposit Market.weth (10 ^ 20) Market.alice).OnReserve Market.weth := rfl
  have onBorrow : (Call.borrow Market.weth (5 * 10 ^ 19) 2 Market.alice).OnReserve Market.weth :=
    ⟨rfl, rfl⟩
  have first : ReserveRun Market.weth (AccruesNothing Market.weth) soleMarket 1 1 deposited :=
    .call onDeposit (.start soleMarket 0) (Nat.zero_le 1) (by decide) start hdeposit
  have second : ReserveRun Market.weth (AccruesNothing Market.weth) soleMarket 2 1 borrowed :=
    .call onBorrow first (Nat.le_refl 1) (by decide) ⟨hliquidity, hvariable⟩ hborrow
  exact ⟨deposited, borrowed, claimed, backing, hdeposit, hborrow, hclaimed, hbacking,
    claims_within_assets soleMarket_startsEmpty (second.wait (by decide)) (by decide) hclaimed
      hbacking⟩

end ElectroLend
