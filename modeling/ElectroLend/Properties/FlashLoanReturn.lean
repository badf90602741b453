import ElectroLend.Pool.Underlying
import ElectroLend.Pool.Scripts

namespace ElectroLend

open Outcome

/-- What the entries of an asset without debt owe to its elToken. -/
def dueBack (asset : Address) : List FlashLoanEntry → List Nat → Nat
  | entry :: entries, mode :: modes =>
    (if entry.asset = asset ∧ mode = 0 then entry.amount + entry.premium else 0) +
      dueBack asset entries modes
  | _, _ => 0

namespace LendingPool

variable {pool pool' : LendingPool} {t amount index added taken : Nat} {asset elToken u v : Address}

theorem executeBorrow_tokens {vars : ExecuteBorrowParams} (hkeep : vars.releaseUnderlying = false)
    (h : pool.executeBorrow t vars = .ok pool') : pool'.tokens = pool.tokens := by
  obtain ⟨p₁, first, p₂, p₃, p₄, _, h₁, h₂, hbit, h₄, hsend⟩ := executeBorrow_eq_ok h
  have marked : p₃.tokens = p₂.tokens := by
    obtain ⟨config, rfl⟩ := updateUserConfig_if hbit
    rfl
  have moved : p₄.tokens = pool.tokens := (updateInterestRates_tokens h₄).trans
    (marked.trans ((mintDebt_tokens h₂).trans (updateState_tokens h₁)))
  obtain ⟨hrelease, _⟩ | ⟨_, rfl⟩ := hsend
  · rw [hkeep] at hrelease
    cases hrelease
  · exact moved

/-- The two upgrade copies settle a flash loan without moving any underlying. -/
theorem settleFlashLoanEntry_tokens {version : PoolVersion} {msgSender receiver onBehalfOf : Address}
    {entry : FlashLoanEntry} {mode : Nat} (hversion : version ≠ .lendingPool)
    (h : pool.settleFlashLoanEntry t version msgSender receiver onBehalfOf entry mode = .ok pool') :
    pool'.tokens = pool.tokens := by
  obtain ⟨_, _, ⟨_, hreturn⟩ | ⟨_, hborrow⟩⟩ := settleFlashLoanEntry_eq_ok h
  · obtain ⟨p₁, p₂, p₃, h₁, h₂, h₃, h₄⟩ := returnFlashLoan_eq_ok hreturn
    have accrued : p₃.tokens = pool.tokens := (updateInterestRates_tokens h₃).trans
      ((cumulateToLiquidityIndex_tokens h₂).trans (updateState_tokens h₁))
    obtain ⟨hsame, _⟩ | ⟨_, hpull⟩ := h₄
    · exact absurd hsame hversion
    · exact (elTokenTransferFrom_tokens hpull).trans accrued
  · exact executeBorrow_tokens rfl hborrow

theorem settleFlashLoan_tokens {version : PoolVersion} {msgSender receiver onBehalfOf : Address}
    {entries : List FlashLoanEntry} {modes : List Nat} (hversion : version ≠ .lendingPool)
    (h : pool.settleFlashLoan t version msgSender receiver onBehalfOf entries modes = .ok pool') :
    pool'.tokens = pool.tokens ∧ entries.length ≤ modes.length := by
  induction entries generalizing pool modes with
  | nil =>
    cases Except.ok.inj h
    exact ⟨rfl, Nat.zero_le _⟩
  | cons entry entries ih =>
    obtain ⟨mode, rest, middle, rfl, hentry, hrest⟩ := settleFlashLoan_cons h
    obtain ⟨htokens, hlen⟩ := ih hrest
    exact ⟨htokens.trans (settleFlashLoanEntry_tokens hversion hentry), Nat.succ_le_succ hlen⟩

theorem sendFlashLoan_entries {receiver : Address} {loans : List (Address × Nat)}
    {entries : List FlashLoanEntry}
    (h : pool.sendFlashLoan receiver loans = .ok (entries, pool')) :
    entries.map FlashLoanEntry.amount = loans.map Prod.snd ∧
      ∀ entry ∈ entries, entry.amount = 0 → entry.premium = 0 := by
  induction loans generalizing pool entries with
  | nil =>
    cases Except.ok.inj h
    exact ⟨rfl, fun _ hm => by cases hm⟩
  | cons loan rest ih =>
    obtain ⟨asset, amount⟩ := loan
    simp only [sendFlashLoan, bind_eq_ok, pure_eq_ok, Prod.exists, Prod.mk.injEq,
      SafeMath.mul_eq_ok, SafeMath.div_eq_ok] at h
    obtain ⟨_, ⟨_, rfl⟩, _, ⟨_, rfl⟩, _, _, middle, _, tail, _, hrest, rfl, rfl⟩ := h
    obtain ⟨hamounts, hpremiums⟩ := ih hrest
    refine ⟨by simp [hamounts], ?_⟩
    intro entry hm hz
    obtain rfl | hm := List.mem_cons.mp hm
    · simp_all
    · exact hpremiums entry hm hz

end LendingPool

/-- Nothing is due back for any asset exactly when no entry without debt has an amount. -/
theorem dueBack_zero_iff {entries : List FlashLoanEntry} {modes : List Nat}
    (hpremiums : ∀ entry ∈ entries, entry.amount = 0 → entry.premium = 0) :
    (∀ asset, dueBack asset entries modes = 0) ↔
      ∀ loan ∈ (entries.map FlashLoanEntry.amount).zip modes, loan.2 = 0 → loan.1 = 0 := by
  induction entries generalizing modes with
  | nil => simp [dueBack]
  | cons entry entries ih =>
    cases modes with
    | nil => simp [dueBack]
    | cons mode modes =>
      have rest : (∀ asset, dueBack asset entries modes = 0) ↔ _ :=
        ih fun e hm => hpremiums e (List.mem_cons_of_mem _ hm)
      have here := hpremiums entry List.mem_cons_self
      simp only [List.map_cons, List.zip_cons_cons, List.mem_cons, forall_eq_or_imp]
      rw [← rest]
      constructor
      · intro h
        refine ⟨fun hmode => ?_, fun asset => ?_⟩
        · have hz := h entry.asset
          simp [dueBack, hmode] at hz
          exact hz.1.1
        · have hz := h asset
          simp only [dueBack] at hz
          omega
      · rintro ⟨hentry, hrest⟩ asset
        simp only [dueBack, hrest asset, Nat.add_zero]
        split
        next hand =>
          have hz := hentry hand.2
          rw [hz, here hz]
        next => rfl

open LendingPool

/-- On LendingPoolTmp and LendingPoolV4 the elTokens hold after a flash loan what they held when
the receiver returned; so the loan is paid back exactly when no loan without debt has an amount. -/
theorem upgraded_flashLoan_returns_iff {pool pool' : LendingPool} {t : Nat} {version : PoolVersion}
    {msgSender receiver onBehalfOf : Address} {assets : List Address} {amounts modes : List Nat}
    {executeOperation : LendingPool → Result (Bool × LendingPool)}
    (hversion : version ≠ .lendingPool)
    (h : pool.flashLoan t version msgSender receiver assets amounts modes onBehalfOf
      executeOperation = .ok pool') :
    ∃ entries sent answer returned,
      pool.sendFlashLoan receiver (assets.zip amounts) = .ok (entries, sent) ∧
      executeOperation sent = .ok (answer, returned) ∧
      ((∀ asset, (pool'.tokens asset).balanceOf (pool.reserves asset).elTokenAddress =
          (returned.tokens asset).balanceOf (pool.reserves asset).elTokenAddress +
            dueBack asset entries modes) ↔
        ∀ loan ∈ amounts.zip modes, loan.2 = 0 → loan.1 = 0) := by
  obtain ⟨hlen, entries, sent, answer, returned, hsend, hcall, hsettle⟩ := flashLoan_eq_ok h
  obtain ⟨htokens, _⟩ := settleFlashLoan_tokens hversion hsettle
  obtain ⟨hamounts, hpremiums⟩ := sendFlashLoan_entries hsend
  refine ⟨entries, sent, answer, returned, hsend, hcall, ?_⟩
  have snd : (assets.zip amounts).map Prod.snd = amounts := List.map_snd_zip (by omega)
  rw [htokens, ← snd, ← hamounts, ← dueBack_zero_iff hpremiums]
  constructor
  · intro hback asset
    have := hback asset
    omega
  · intro hzero asset
    rw [hzero asset, Nat.add_zero]

/-- Carol holds elTokens of weth and lets the pool move them. -/
def approvedMarket : LendingPool :=
  Market.endState (Market.setup 1000 ++
    [(1, Market.carol, .deposit Market.weth (10 ^ 20) Market.carol),
      (2, Market.carol, .elTokenApprove Market.weth Market.poolAddress (10 ^ 30))])

/-- Carol borrows 10 weth in a flash loan, does nothing and keeps them: the pool takes her elTokens
in the place of the underlying. -/
theorem approvedMarket_flashLoan_not_returned :
    Reachable .any 2 approvedMarket ∧
      ∃ pool', approvedMarket.flashLoan 3 .lendingPoolV4 Market.carol Market.carol [Market.weth]
          [10 ^ 19] [0] Market.carol (fun sent => .ok (true, sent)) = .ok pool' ∧
        ∃ entries sent,
          approvedMarket.sendFlashLoan Market.carol [(Market.weth, 10 ^ 19)] =
            .ok (entries, sent) ∧
          dueBack Market.weth entries [0] = 10009 * 10 ^ 15 ∧
          pool'.underlyingBalance Market.weth = sent.underlyingBalance Market.weth := by
  refine ⟨Market.endState_reachable (by decide +kernel) (by decide +kernel), ?_⟩
  have kept : succeedsWith
      (approvedMarket.flashLoan 3 .lendingPoolV4 Market.carol Market.carol [Market.weth]
        [10 ^ 19] [0] Market.carol (fun sent => .ok (true, sent)))
      (fun pool' => pool'.underlyingBalance Market.weth == 9 * 10 ^ 19) = true := by
    decide +kernel
  have lent : succeedsWith
      (approvedMarket.sendFlashLoan Market.carol [(Market.weth, 10 ^ 19)])
      (fun result => decide (dueBack Market.weth result.1 [0] = 10009 * 10 ^ 15 ∧
        result.2.underlyingBalance Market.weth = 9 * 10 ^ 19)) = true := by decide +kernel
  obtain ⟨pool', hloan, hfinal⟩ := succeedsWith_iff.mp kept
  obtain ⟨⟨entries, sent⟩, hsend, hsent⟩ := succeedsWith_iff.mp lent
  simp only [decide_eq_true_eq] at hsent
  exact ⟨pool', hloan, entries, sent, hsend, hsent.1, (eq_of_beq hfinal).trans hsent.2.symm⟩

/-- Of nothing against no debt and one weth against variable debt, nothing is due back. -/
theorem approvedMarket_kept_flashLoan_returned :
    ∃ pool' entries sent,
      approvedMarket.flashLoan 3 .lendingPoolV4 Market.carol Market.carol
          [Market.weth, Market.weth] [0, 10 ^ 18] [0, 2] Market.carol
          (fun sent => .ok (true, sent)) = .ok pool' ∧
        approvedMarket.sendFlashLoan Market.carol [(Market.weth, 0), (Market.weth, 10 ^ 18)] =
          .ok (entries, sent) ∧
        ∀ asset, (pool'.tokens asset).balanceOf (approvedMarket.reserves asset).elTokenAddress =
          (sent.tokens asset).balanceOf (approvedMarket.reserves asset).elTokenAddress +
            dueBack asset entries [0, 2] := by
  have success : (approvedMarket.flashLoan 3 .lendingPoolV4 Market.carol Market.carol
      [Market.weth, Market.weth] [0, 10 ^ 18] [0, 2] Market.carol
      (fun sent => .ok (true, sent))).isOk = true := by
    decide +kernel
  obtain ⟨pool', hloan⟩ := exists_of_isOk success
  obtain ⟨entries, sent, answer, returned, hsend, hcall, back⟩ :=
    upgraded_flashLoan_returns_iff (by decide) hloan
  cases hcall
  exact ⟨pool', entries, sent, hloan, hsend, back.mpr (by decide)⟩

end ElectroLend
