import ElectroLend.Pool.LoanDebts
import ElectroLend.Properties.FlashLoanReturn

namespace ElectroLend

open Outcome

/-- The entries of an asset that are settled in a mode, in their order. -/
def entriesOf (asset : Address) (mode : Nat) : List FlashLoanEntry → List Nat → List FlashLoanEntry
  | entry :: entries, m :: modes =>
    if entry.asset = asset ∧ m = mode then entry :: entriesOf asset mode entries modes
    else entriesOf asset mode entries modes
  | _, _ => []

/-- The amounts of the entries of an asset that are settled in a mode. -/
def amountsOf (asset : Address) (mode : Nat) (entries : List FlashLoanEntry) (modes : List Nat) :
    List Nat :=
  (entriesOf asset mode entries modes).map FlashLoanEntry.amount

theorem amountsOf_cons {asset : Address} {mode m : Nat} {entry : FlashLoanEntry}
    {entries : List FlashLoanEntry} {modes : List Nat} :
    amountsOf asset mode (entry :: entries) (m :: modes) =
      if entry.asset = asset ∧ m = mode then entry.amount :: amountsOf asset mode entries modes
      else amountsOf asset mode entries modes := by
  simp only [amountsOf, entriesOf]
  split
  · rfl
  · rfl

/-- The entries that the first loop notes down for the loans asked for. -/
def LendingPool.flashLoanEntries (pool : LendingPool) (loans : List (Address × Nat)) :
    List FlashLoanEntry :=
  loans.map fun loan => {
    asset := loan.1
    elTokenAddress := (pool.reserves loan.1).elTokenAddress
    amount := loan.2
    premium := loan.2 * pool.flashLoanPremiumTotal / 10000 }

namespace StableDebtToken

variable {token : StableDebtToken} {t : Nat} {u : Address}

theorem balanceOf_now_readable (ht : IsBlockTimestamp t) (htime : token.timestamps u = uint40 t)
    (hfits : token.balances u * RAY + halfRAY ≤ uint256Max) :
    token.balanceOf t u = .ok (token.balances u) := by
  rw [balanceOf_written ht (.inr htime)]
  exact rayMul_ray (by omega)

end StableDebtToken

/-- What settling an entry leaves of the reserve of its asset. -/
structure Settled (t : Nat) (onBehalfOf : Address) (entry : FlashLoanEntry) (mode : Nat)
    (r r' : Reserve) : Prop where
  accrued : ∃ next, r.updateState t = .ok next ∧
    r'.variableBorrowIndex = next.variableBorrowIndex ∧
    r'.lastUpdateTimestamp = next.lastUpdateTimestamp
  booked : (mode = 0 ∧ r'.stableDebtToken = r.stableDebtToken ∧
        r'.variableDebtToken = r.variableDebtToken) ∨
    (mode = 1 ∧ r'.variableDebtToken = r.variableDebtToken ∧ ∃ user first rate,
        r.stableDebtToken.mint t user onBehalfOf entry.amount rate =
          .ok (first, r'.stableDebtToken)) ∨
    (mode = 2 ∧ r'.stableDebtToken = r.stableDebtToken ∧ ∃ user first,
        r.variableDebtToken.mint user onBehalfOf entry.amount r'.variableBorrowIndex =
          .ok (first, r'.variableDebtToken))

/-- What the debts of a reserve are after loans of the given amounts were opened for one account:
its stable principal is what it owed and the stable amounts, its scaled units grew by those of the
variable amounts at the final index. -/
structure Booked (t : Nat) (onBehalfOf : Address) (stable variableDebt : List Nat)
    (r r' : Reserve) : Prop where
  index : r.lastUpdateTimestamp = uint40 t → r'.variableBorrowIndex = r.variableBorrowIndex
  stableDebt : (stable = [] ∧ r'.stableDebtToken = r.stableDebtToken) ∨
    ∃ owed, r.stableDebtToken.balanceOf t onBehalfOf = .ok owed ∧
      r'.stableDebtToken.balances onBehalfOf = owed + stable.sum ∧
      r'.stableDebtToken.timestamps onBehalfOf = uint40 t
  variableDebt : ∃ scaled, variableDebt.mapM (rayDiv · r'.variableBorrowIndex) = .ok scaled ∧
    r'.variableDebtToken.balances onBehalfOf =
      r.variableDebtToken.balances onBehalfOf + scaled.sum
  others : ∀ v, v ≠ onBehalfOf →
    r'.stableDebtToken.balances v = r.stableDebtToken.balances v ∧
    r'.stableDebtToken.usersStableRate v = r.stableDebtToken.usersStableRate v ∧
    r'.variableDebtToken.balances v = r.variableDebtToken.balances v

section Books

variable {t mode : Nat} {onBehalfOf : Address} {entry : FlashLoanEntry}
  {stable variableDebt : List Nat} {r middle r' : Reserve}

theorem Booked.refl : Booked t onBehalfOf [] [] r r :=
  ⟨fun _ => rfl, .inl ⟨rfl, rfl⟩, ⟨[], rfl, rfl⟩, fun _ _ => ⟨rfl, rfl, rfl⟩⟩

theorem Settled.index (ht : IsBlockTimestamp t) (h : Settled t onBehalfOf entry mode r r') :
    r'.lastUpdateTimestamp = uint40 t ∧
      (r.lastUpdateTimestamp = uint40 t → r'.variableBorrowIndex = r.variableBorrowIndex) := by
  obtain ⟨next, hn, hindex, htime⟩ := h.accrued
  refine ⟨?_, ?_⟩
  · obtain ⟨_, _, _, _, _, _, rfl, _⟩ := Reserve.updateState_eq_ok hn
    exact htime
  · intro hlast
    rw [ht.uint40] at hlast
    rw [hindex, Reserve.updateState_again ht hlast hn]

theorem Booked.after_return (ht : IsBlockTimestamp t) (h : Settled t onBehalfOf entry mode r middle)
    (hs : middle.stableDebtToken = r.stableDebtToken)
    (hv : middle.variableDebtToken = r.variableDebtToken)
    (rest : Booked t onBehalfOf stable variableDebt middle r') :
    Booked t onBehalfOf stable variableDebt r r' := by
  obtain ⟨hlast, hindex⟩ := h.index ht
  obtain ⟨index, hstable, hvariable, others⟩ := rest
  rw [hs] at hstable others
  rw [hv] at hvariable others
  exact ⟨fun h => (index hlast).trans (hindex h), hstable, hvariable, others⟩

/-- Books opened after a stable loan: the first of them counts what was owed before it. -/
theorem Booked.after_stable {user : Address} {first : Bool} {rate : Nat} (ht : IsBlockTimestamp t)
    (h : Settled t onBehalfOf entry mode r middle)
    (hv : middle.variableDebtToken = r.variableDebtToken)
    (hmint : r.stableDebtToken.mint t user onBehalfOf entry.amount rate =
      .ok (first, middle.stableDebtToken))
    (rest : Booked t onBehalfOf stable variableDebt middle r') :
    Booked t onBehalfOf (entry.amount :: stable) variableDebt r r' := by
  obtain ⟨hlast, hindex⟩ := h.index ht
  obtain ⟨index, hstable, hvariable, others⟩ := rest
  obtain ⟨owed, _, newRate, _, hread, _, _, _, _, _, hbals, _, _, htime, hrates, _⟩ :=
    StableDebtToken.mint_eq_ok hmint
  have now : middle.stableDebtToken.timestamps onBehalfOf = uint40 t := by
    rw [htime, Function.update_self]
  have principal : middle.stableDebtToken.balances onBehalfOf = owed + entry.amount := by
    rw [hbals, Function.update_self]
  refine ⟨fun h => (index hlast).trans (hindex h), .inr ⟨owed, hread, ?_⟩, ?_, ?_⟩
  · obtain ⟨rfl, hsame⟩ | ⟨owed', hread', hbals', htime'⟩ := hstable
    · rw [hsame, principal]
      exact ⟨by simp, now⟩
    · have known := StableDebtToken.balanceOf_now ht now hread'
      refine ⟨?_, htime'⟩
      rw [hbals', known, principal, List.sum_cons]
      omega
  · rw [hv] at hvariable
    exact hvariable
  · intro v hne
    obtain ⟨hb, hr, hs⟩ := others v hne
    rw [hb, hr, hs, hbals, hrates, hv, Function.update_of_ne hne, Function.update_of_ne hne]
    exact ⟨rfl, rfl, rfl⟩

/-- Books opened after a variable loan: its units are those at the final index, which no later
entry of this block moves. -/
theorem Booked.after_variable {user : Address} {first : Bool} (ht : IsBlockTimestamp t)
    (h : Settled t onBehalfOf entry mode r middle)
    (hs : middle.stableDebtToken = r.stableDebtToken)
    (hmint : r.variableDebtToken.mint user onBehalfOf entry.amount middle.variableBorrowIndex =
      .ok (first, middle.variableDebtToken))
    (rest : Booked t onBehalfOf stable variableDebt middle r') :
    Booked t onBehalfOf stable (entry.amount :: variableDebt) r r' := by
  obtain ⟨hlast, hindex⟩ := h.index ht
  obtain ⟨index, hstable, ⟨scaled, hscaled, hgrown⟩, others⟩ := rest
  obtain ⟨units, hunits, _, hbals, _⟩ := VariableDebtToken.mint_eq_ok hmint
  have final := index hlast
  refine ⟨fun h => final.trans (hindex h), ?_, ⟨units :: scaled, ?_, ?_⟩, ?_⟩
  · rw [hs] at hstable
    exact hstable
  · rw [← final] at hunits
    simp only [List.mapM_cons, hunits, hscaled, ok_bind, pure_eq_ok]
  · rw [hgrown, hbals, Function.update_self, List.sum_cons]
    omega
  · intro v hne
    obtain ⟨hb, hr, hv⟩ := others v hne
    rw [hb, hr, hv, hs, hbals, Function.update_of_ne hne]
    exact ⟨rfl, rfl, rfl⟩

theorem Booked.cons (ht : IsBlockTimestamp t) (h : Settled t onBehalfOf entry mode r middle)
    (rest : Booked t onBehalfOf stable variableDebt middle r') :
    Booked t onBehalfOf (if mode = 1 then entry.amount :: stable else stable)
      (if mode = 2 then entry.amount :: variableDebt else variableDebt) r r' := by
  obtain ⟨rfl, hs, hv⟩ | ⟨rfl, hv, _, _, _, hmint⟩ | ⟨rfl, hs, _, _, hmint⟩ := h.booked
  · exact Booked.after_return ht h hs hv rest
  · exact Booked.after_stable ht h hv hmint rest
  · exact Booked.after_variable ht h hs hmint rest

theorem Booked.stable_grown (ht : IsBlockTimestamp t)
    (h : Booked t onBehalfOf stable variableDebt r r') {owed : Nat}
    (hread : r.stableDebtToken.balanceOf t onBehalfOf = .ok owed) :
    (∀ owes, r'.stableDebtToken.balanceOf t onBehalfOf = .ok owes → owes = owed + stable.sum) ∧
      ((owed + stable.sum) * RAY + halfRAY ≤ uint256Max →
        r'.stableDebtToken.balanceOf t onBehalfOf = .ok (owed + stable.sum)) := by
  obtain ⟨rfl, hsame⟩ | ⟨owed', hread', hbals, htime⟩ := h.stableDebt
  · rw [hsame, List.sum_nil, Nat.add_zero, hread]
    exact ⟨fun owes he => (Except.ok.inj he).symm, fun _ => rfl⟩
  · cases ok_unique hread hread'
    rw [← hbals]
    exact ⟨fun owes he => StableDebtToken.balanceOf_now ht htime he,
      StableDebtToken.balanceOf_now_readable ht htime⟩

end Books

theorem InterestRateMode.fromNat_none {mode : Nat} : fromNat mode = .ok .none ↔ mode = 0 := by
  unfold fromNat
  split <;> simp_all

theorem InterestRateMode.fromNat_debt {mode : Nat} {rateMode : InterestRateMode}
    (h : fromNat mode = .ok rateMode) (hdebt : rateMode ≠ .none) : mode = 1 ∨ mode = 2 := by
  unfold fromNat at h
  split at h
  next => exact absurd (Except.ok.inj h).symm hdebt
  next => exact .inl rfl
  next => exact .inr rfl
  next => cases h

namespace LendingPool

variable {pool pool' : LendingPool} {t mode : Nat} {msgSender receiver onBehalfOf : Address}
  {entry : FlashLoanEntry} {entries : List FlashLoanEntry} {modes : List Nat}

theorem returnFlashLoan_settled
    (h : pool.returnFlashLoan t .lendingPool receiver entry = .ok pool') :
    (∀ asset, asset ≠ entry.asset → pool'.reserves asset = pool.reserves asset ∧
        pool'.tokens asset = pool.tokens asset) ∧
      Settled t onBehalfOf entry 0 (pool.reserves entry.asset) (pool'.reserves entry.asset) ∧
      moveBalance (pool.tokens entry.asset).balances receiver entry.elTokenAddress
        (entry.amount + entry.premium) = .ok (pool'.tokens entry.asset).balances := by
  obtain ⟨p₁, p₂, p₃, h₁, h₂, h₃, h₄⟩ := returnFlashLoan_pulls h
  obtain ⟨next, hnext, rfl⟩ := updateState_eq_ok h₁
  obtain ⟨liquidityIndex, _, rfl⟩ := cumulateToLiquidityIndex_eq_ok h₂
  obtain ⟨rated, hrates, rfl⟩ := updateInterestRates_eq_ok h₃
  obtain ⟨rates, _, rfl⟩ := Reserve.updateInterestRates_eq_ok hrates
  obtain ⟨token, hmoved, rfl⟩ := pullUnderlying_eq_ok h₄
  have debts : next.stableDebtToken = (pool.reserves entry.asset).stableDebtToken ∧
      next.variableDebtToken = (pool.reserves entry.asset).variableDebtToken := by
    obtain ⟨_, _, _, _, _, _, rfl, _⟩ := Reserve.updateState_eq_ok hnext
    exact ⟨rfl, rfl⟩
  refine ⟨?_, ⟨⟨next, hnext, ?_, ?_⟩, .inl ⟨rfl, ?_, ?_⟩⟩, ?_⟩
  · intro asset hne
    simp [hne]
  · simp
  · simp
  · simpa using debts.1
  · simpa using debts.2
  · simpa using hmoved

theorem borrowFlashLoan_settled {elTokenAddress : Address} (hmode : mode = 1 ∨ mode = 2)
    (h : pool.executeBorrow t {
      asset := entry.asset
      user := msgSender
      onBehalfOf
      amount := entry.amount
      interestRateMode := mode
      elTokenAddress
      releaseUnderlying := false } = .ok pool') :
    pool'.tokens = pool.tokens ∧
      (∀ asset, asset ≠ entry.asset → pool'.reserves asset = pool.reserves asset) ∧
      Settled t onBehalfOf entry mode (pool.reserves entry.asset)
        (pool'.reserves entry.asset) := by
  have loan := executeBorrow_opensLoan h
  obtain ⟨next, hnext, _, hindex, htime⟩ := loan.accrued
  refine ⟨executeBorrow_tokens rfl h, loan.others, ⟨next, hnext, hindex, htime⟩, ?_⟩
  obtain ⟨hone, hv, first, rate, hmint⟩ | ⟨hne, hs, first, hmint⟩ := loan.minted
  · exact .inr (.inl ⟨hone, hv, _, first, rate, hmint⟩)
  · have two : mode = 2 := hmode.resolve_left hne
    exact .inr (.inr ⟨two, hs, _, first, hmint⟩)

/-- What one round of the second loop does to the reserves and to the underlying. -/
theorem settleFlashLoanEntry_settled
    (h : pool.settleFlashLoanEntry t .lendingPool msgSender receiver onBehalfOf entry mode =
      .ok pool') :
    (∀ asset, asset ≠ entry.asset → pool'.reserves asset = pool.reserves asset ∧
        pool'.tokens asset = pool.tokens asset) ∧
      Settled t onBehalfOf entry mode (pool.reserves entry.asset) (pool'.reserves entry.asset) ∧
      ((mode = 0 ∧ moveBalance (pool.tokens entry.asset).balances receiver entry.elTokenAddress
          (entry.amount + entry.premium) = .ok (pool'.tokens entry.asset).balances) ∨
        (mode ≠ 0 ∧ pool'.tokens = pool.tokens)) := by
  obtain ⟨rateMode, hrate, ⟨hnone, hreturn⟩ | ⟨hdebt, hborrow⟩⟩ := settleFlashLoanEntry_eq_ok h
  · subst hnone
    have zero := InterestRateMode.fromNat_none.mp hrate
    subst zero
    obtain ⟨others, settled, moved⟩ := returnFlashLoan_settled hreturn
    exact ⟨others, settled, .inl ⟨rfl, moved⟩⟩
  · have opened := InterestRateMode.fromNat_debt hrate hdebt
    obtain ⟨tokens, others, settled⟩ := borrowFlashLoan_settled opened hborrow
    refine ⟨fun asset hne => ⟨others asset hne, by rw [tokens]⟩, settled, .inr ⟨?_, tokens⟩⟩
    omega

theorem settleFlashLoan_booked (ht : IsBlockTimestamp t)
    (h : pool.settleFlashLoan t .lendingPool msgSender receiver onBehalfOf entries modes =
      .ok pool') (asset : Address) :
    Booked t onBehalfOf (amountsOf asset 1 entries modes) (amountsOf asset 2 entries modes)
      (pool.reserves asset) (pool'.reserves asset) := by
  induction entries generalizing pool modes with
  | nil =>
    cases Except.ok.inj h
    exact Booked.refl
  | cons entry entries ih =>
    obtain ⟨mode, rest, middle, rfl, hentry, hrest⟩ := settleFlashLoan_cons h
    obtain ⟨others, settled, _⟩ := settleFlashLoanEntry_settled hentry
    have tail := ih hrest
    rw [amountsOf_cons, amountsOf_cons]
    by_cases ha : entry.asset = asset
    · subst ha
      simpa using tail.cons ht settled
    · rw [if_neg (fun hc => ha hc.1), if_neg (fun hc => ha hc.1), ← (others asset (Ne.symm ha)).1]
      exact tail

theorem settleFlashLoan_balance {elTokenOf : Address → Address}
    (hentries : ∀ entry ∈ entries, entry.elTokenAddress = elTokenOf entry.asset)
    (h : pool.settleFlashLoan t .lendingPool msgSender receiver onBehalfOf entries modes =
      .ok pool') (asset : Address) {holder : Address} (hholder : holder ≠ receiver) :
    (pool'.tokens asset).balanceOf holder = (pool.tokens asset).balanceOf holder +
      if holder = elTokenOf asset then dueBack asset entries modes else 0 := by
  induction entries generalizing pool modes with
  | nil =>
    cases Except.ok.inj h
    simp [dueBack]
  | cons entry entries ih =>
    obtain ⟨mode, rest, middle, rfl, hentry, hrest⟩ := settleFlashLoan_cons h
    obtain ⟨others, _, paid⟩ := settleFlashLoanEntry_settled hentry
    have here : entry.elTokenAddress = elTokenOf entry.asset := hentries entry List.mem_cons_self
    have tail := ih (fun e he => hentries e (List.mem_cons_of_mem _ he)) hrest
    have head : (middle.tokens asset).balanceOf holder = (pool.tokens asset).balanceOf holder +
        if holder = elTokenOf asset then
          (if entry.asset = asset ∧ mode = 0 then entry.amount + entry.premium else 0) else 0 := by
      by_cases ha : entry.asset = asset
      · subst ha
        obtain ⟨rfl, moved⟩ | ⟨hne, tokens⟩ := paid
        · rw [here] at moved
          by_cases hel : holder = elTokenOf entry.asset
          · subst hel
            simpa [ERC20.balanceOf] using moveBalance_recipient (Ne.symm hholder) moved
          · simpa [ERC20.balanceOf, hel] using moveBalance_other hholder hel moved
        · simp [tokens, hne]
      · rw [(others asset (Ne.symm ha)).2]
        simp [ha]
    rw [tail, head, dueBack]
    split
    · omega
    · omega

/-- The first loop only moves underlying: every entry is noted down from the pool it began with. -/
theorem sendFlashLoan_eq_entries {loans : List (Address × Nat)}
    (h : pool.sendFlashLoan receiver loans = .ok (entries, pool')) :
    entries = pool.flashLoanEntries loans := by
  induction loans generalizing pool entries with
  | nil =>
    cases Except.ok.inj h
    rfl
  | cons loan rest ih =>
    obtain ⟨asset, amount⟩ := loan
    simp only [sendFlashLoan, bind_eq_ok, pure_eq_ok, Prod.exists, Prod.mk.injEq,
      SafeMath.mul_eq_ok, SafeMath.div_eq_ok] at h
    obtain ⟨_, ⟨_, rfl⟩, _, ⟨_, rfl⟩, _, _, middle, hmoved, tail, _, hrest, rfl, rfl⟩ := h
    obtain ⟨token, _, rfl⟩ := transferUnderlyingTo_eq_ok hmoved
    rw [ih hrest]
    rfl

end LendingPool

open LendingPool

/-- A flash loan of LendingPool, from the moment the receiver returned to its end: whoever is not
the receiver gains underlying only as the elToken of an asset, namely the amounts and premiums of
the asset's entries without debt; the account the loan is opened for owes the amounts of the other
entries on top, the variable ones in units of the final index; and no other account's debt
moves. -/
theorem flashLoan_books {pool pool' : LendingPool} {t : Nat}
    {msgSender receiver onBehalfOf : Address} {assets : List Address} {amounts modes : List Nat}
    {executeOperation : LendingPool → Result (Bool × LendingPool)} (ht : IsBlockTimestamp t)
    (h : pool.flashLoan t .lendingPool msgSender receiver assets amounts modes onBehalfOf
      executeOperation = .ok pool') :
    ∃ entries sent answer returned,
      entries = pool.flashLoanEntries (assets.zip amounts) ∧
      pool.sendFlashLoan receiver (assets.zip amounts) = .ok (entries, sent) ∧
      executeOperation sent = .ok (answer, returned) ∧ ∀ asset,
        (∀ holder, holder ≠ receiver →
          (pool'.tokens asset).balanceOf holder = (returned.tokens asset).balanceOf holder +
            if holder = (pool.reserves asset).elTokenAddress then dueBack asset entries modes
            else 0) ∧
        (amountsOf asset 1 entries modes ≠ [] → ∃ owed,
          (returned.reserves asset).stableDebtToken.balanceOf t onBehalfOf = .ok owed) ∧
        (∀ owed, (returned.reserves asset).stableDebtToken.balanceOf t onBehalfOf = .ok owed →
          (∀ owes, (pool'.reserves asset).stableDebtToken.balanceOf t onBehalfOf = .ok owes →
            owes = owed + (amountsOf asset 1 entries modes).sum) ∧
          ((owed + (amountsOf asset 1 entries modes).sum) * RAY + halfRAY ≤ uint256Max →
            (pool'.reserves asset).stableDebtToken.balanceOf t onBehalfOf =
              .ok (owed + (amountsOf asset 1 entries modes).sum))) ∧
        (∃ scaled, (amountsOf asset 2 entries modes).mapM
            (rayDiv · (pool'.reserves asset).variableBorrowIndex) = .ok scaled ∧
          (pool'.reserves asset).variableDebtToken.scaledBalanceOf onBehalfOf =
            (returned.reserves asset).variableDebtToken.scaledBalanceOf onBehalfOf +
              scaled.sum) ∧
        ∀ other, other ≠ onBehalfOf →
          (pool'.reserves asset).stableDebtToken.principalBalanceOf other =
            (returned.reserves asset).stableDebtToken.principalBalanceOf other ∧
          (pool'.reserves asset).stableDebtToken.getUserStableRate other =
            (returned.reserves asset).stableDebtToken.getUserStableRate other ∧
          (pool'.reserves asset).variableDebtToken.scaledBalanceOf other =
            (returned.reserves asset).variableDebtToken.scaledBalanceOf other := by
  obtain ⟨_, entries, sent, answer, returned, hsend, hcall, hsettle⟩ := flashLoan_eq_ok h
  have noted := sendFlashLoan_eq_entries hsend
  refine ⟨entries, sent, answer, returned, noted, hsend, hcall, ?_⟩
  intro asset
  have books := settleFlashLoan_booked ht hsettle asset
  have elTokens : ∀ entry ∈ entries,
      entry.elTokenAddress = (pool.reserves entry.asset).elTokenAddress := by
    intro entry hm
    rw [noted] at hm
    obtain ⟨loan, _, rfl⟩ := List.mem_map.mp hm
    rfl
  refine ⟨?_, ?_, fun owed hread => books.stable_grown ht hread, books.variableDebt, books.others⟩
  · intro holder hholder
    let elTokenOf : Address → Address := fun a => (pool.reserves a).elTokenAddress
    have noted : ∀ entry ∈ entries, entry.elTokenAddress = elTokenOf entry.asset := elTokens
    exact settleFlashLoan_balance noted hsettle asset hholder
  · intro hsome
    obtain ⟨hnone, _⟩ | ⟨owed, hread, _⟩ := books.stableDebt
    · exact absurd hnone hsome
    · exact ⟨owed, hread⟩

/-- Carol supplies the weth, alice has dai as collateral. -/
def lentMarket : LendingPool :=
  Market.endState (Market.setup 1000 ++
    [(1, Market.carol, .deposit Market.weth (10 ^ 20) Market.carol),
      (2, Market.alice, .deposit Market.dai (10 ^ 20) Market.alice)])

/-- Alice takes three loans of weth at once: she returns the first and keeps the others, one in
each mode. -/
theorem lentMarket_flashLoan_booked :
    ∃ pool' : LendingPool, lentMarket.flashLoan 3 .lendingPool Market.alice Market.alice
        [Market.weth, Market.weth, Market.weth] [10 ^ 19, 10 ^ 18, 2 * 10 ^ 18] [0, 1, 2]
        Market.alice (fun sent => .ok (true, sent)) = .ok pool' ∧
      ∃ returned : LendingPool,
        (pool'.tokens Market.weth).balanceOf (lentMarket.reserves Market.weth).elTokenAddress =
          (returned.tokens Market.weth).balanceOf
            (lentMarket.reserves Market.weth).elTokenAddress + 10009 * 10 ^ 15 ∧
        (∃ owed, (returned.reserves Market.weth).stableDebtToken.balanceOf 3 Market.alice =
            .ok owed ∧ ∀ owes,
          (pool'.reserves Market.weth).stableDebtToken.balanceOf 3 Market.alice = .ok owes →
            owes = owed + 10 ^ 18) ∧
        ∃ scaled, [2 * 10 ^ 18].mapM
            (rayDiv · (pool'.reserves Market.weth).variableBorrowIndex) = .ok scaled ∧
          (pool'.reserves Market.weth).variableDebtToken.scaledBalanceOf Market.alice =
            (returned.reserves Market.weth).variableDebtToken.scaledBalanceOf Market.alice +
              scaled.sum := by
  have success : (lentMarket.flashLoan 3 .lendingPool Market.alice Market.alice
      [Market.weth, Market.weth, Market.weth] [10 ^ 19, 10 ^ 18, 2 * 10 ^ 18] [0, 1, 2]
      Market.alice (fun sent => .ok (true, sent))).isOk = true := by decide +kernel
  have apart : (lentMarket.reserves Market.weth).elTokenAddress ≠ Market.alice := by
    decide +kernel
  have due : dueBack Market.weth (lentMarket.flashLoanEntries [(Market.weth, 10 ^ 19),
      (Market.weth, 10 ^ 18), (Market.weth, 2 * 10 ^ 18)]) [0, 1, 2] = 10009 * 10 ^ 15 := by
    decide +kernel
  obtain ⟨pool', hloan⟩ := exists_of_isOk success
  obtain ⟨_, _, _, returned, rfl, _, _, books⟩ := flashLoan_books (by decide) hloan
  obtain ⟨paid, readable, stable, variableDebt, _⟩ := books Market.weth
  obtain ⟨owed, hread⟩ := readable (List.cons_ne_nil _ _)
  refine ⟨pool', hloan, returned, ?_, ⟨owed, hread, (stable owed hread).1⟩, variableDebt⟩
  have grown := paid _ apart
  rw [if_pos rfl] at grown
  rw [grown]
  exact congrArg _ due

end ElectroLend
