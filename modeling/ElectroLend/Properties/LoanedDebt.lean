import ElectroLend.Library.TwoRuns
import ElectroLend.Pool.LoanDebts
import ElectroLend.Pool.RatesFrame
import ElectroLend.Pool.Scripts

namespace ElectroLend

open Outcome LendingPool

variable {pool pool' : LendingPool} {t amount : Nat} {asset u v e : Address}
  {tokens : Address → ERC20} {vars : ExecuteBorrowParams}

namespace LendingPool

/-- The part of `executeBorrow` that opens the debt. -/
def prepareLoan (pool : LendingPool) (t : Nat) (vars : ExecuteBorrowParams) : Result LendingPool := do
  let value ← SafeMath.mul (pool.priceOracle vars.asset) vars.amount
  let amountInETH ←
    SafeMath.div value (tokenUnit (pool.reserves vars.asset).configuration.getDecimals)
  pool.validateBorrow t vars.asset vars.onBehalfOf vars.amount amountInETH vars.interestRateMode
  let pool ← pool.updateState t vars.asset
  let (isFirstBorrowing, pool) ← pool.mintDebt t vars
  if isFirstBorrowing then
    pool.setBorrowing vars.onBehalfOf (pool.reserves vars.asset).id true
  else .ok pool

theorem executeBorrow_eq_prepareLoan (vars : ExecuteBorrowParams) :
    pool.executeBorrow t vars = (do
      let prepared ← pool.prepareLoan t vars
      let rated ← prepared.updateInterestRates t vars.asset vars.elTokenAddress 0
        (if vars.releaseUnderlying then vars.amount else 0)
      if vars.releaseUnderlying then
        rated.transferUnderlyingTo vars.asset vars.elTokenAddress vars.user vars.amount
      else .ok rated) := by
  simp only [executeBorrow, prepareLoan, bind_assoc]

theorem prepareLoan_tokens (mode : vars.interestRateMode = 2) :
    Alike (fun p p' => p.tokens = pool.tokens ∧ p' = { p with tokens }) (pool.prepareLoan t vars)
      (prepareLoan { pool with tokens } t vars) := by
  unfold prepareLoan
  rw [mode]
  refine .same fun value => .same fun amountInETH => .same fun _ => ?_
  refine Alike.bind (R := fun p p' => p.tokens = pool.tokens ∧ p' = { p with tokens }) ?_ ?_
  · exact .same fun _ => .ok ⟨rfl, rfl⟩
  rintro p _ ⟨kept, rfl⟩
  refine Alike.bind (R := fun r r' => r.1 = r'.1 ∧ r.2.tokens = pool.tokens ∧
    r'.2 = { r.2 with tokens }) ?_ ?_
  · exact .same fun _ => .ite (fun _ => .same fun _ => .ok ⟨rfl, kept, rfl⟩)
      (fun _ => .same fun _ => .ok ⟨rfl, kept, rfl⟩)
  rintro ⟨first, p⟩ ⟨_, _⟩ ⟨rfl, kept, rfl⟩
  exact .ite (fun _ => .same fun _ => .ok ⟨kept, rfl⟩) (fun _ => .ok ⟨kept, rfl⟩)

/-- Liquidity that will be taken counts as liquidity that is gone. -/
theorem updateInterestRates_taken {r : Reserve} {m balance : Nat} (word : balance ≤ uint256Max)
    (hle : amount ≤ balance) :
    r.updateInterestRates t m balance 0 amount = r.updateInterestRates t m (balance - amount) 0 0 := by
  have added : SafeMath.add balance 0 = .ok balance := SafeMath.add_eq_ok.mpr ⟨word, rfl⟩
  have less : SafeMath.add (balance - amount) 0 = .ok (balance - amount) :=
    SafeMath.add_eq_ok.mpr ⟨(Nat.sub_le _ _).trans word, rfl⟩
  have taken : SafeMath.sub balance amount .safeMathSubtractionOverflow = .ok (balance - amount) :=
    SafeMath.sub_eq_ok.mpr ⟨hle, rfl⟩
  have nothing : SafeMath.sub (balance - amount) 0 .safeMathSubtractionOverflow =
      .ok (balance - amount) := SafeMath.sub_eq_ok.mpr ⟨Nat.zero_le _, rfl⟩
  simp only [Reserve.updateInterestRates, Reserve.calculateInterestRates,
    DefaultReserveInterestRateStrategy.calculateInterestRates, added, less, taken, nothing, ok_bind]

end LendingPool

/-- The underlying that leaves first leaves the rates as they would be. -/
theorem updateInterestRates_sent {token : ERC20} (other : e ≠ u)
    (word : (pool.tokens asset).balanceOf e ≤ uint256Max)
    (hsend : SafeERC20.safeTransfer (pool.tokens asset) e u amount = .ok token) :
    Alike (fun q q' => q.tokens = pool.tokens ∧ q' = q.setToken asset token)
      (pool.updateInterestRates t asset e 0 amount)
      ((pool.setToken asset token).updateInterestRates t asset e 0 0) := by
  have moved : amount ≤ (pool.tokens asset).balanceOf e ∧
      token.balanceOf e = (pool.tokens asset).balanceOf e - amount :=
    moveBalance_sender other (SafeERC20.safeTransfer_balances hsend).1
  have balance : ((pool.setToken asset token).tokens asset).balanceOf e =
      (pool.tokens asset).balanceOf e - amount := by
    rw [setToken_tokens, Function.update_self]
    exact moved.2
  unfold updateInterestRates
  rw [balance, updateInterestRates_taken word moved.1]
  exact .same fun _ => .ok ⟨rfl, rfl⟩

/-- The loan that `borrow` opens in mode 2, and `flashLoan` for an amount that is not returned. -/
def variableLoan (asset user onBehalfOf : Address) (amount : Nat) (elTokenAddress : Address)
    (releaseUnderlying : Bool) : ExecuteBorrowParams where
  asset
  user
  onBehalfOf
  amount
  interestRateMode := 2
  elTokenAddress
  releaseUnderlying

/-- A loan may as well be opened after its underlying has left. -/
theorem executeBorrow_release_iff (other : e ≠ u)
    (word : (pool.tokens asset).balanceOf e ≤ uint256Max) :
    pool.executeBorrow t (variableLoan asset u v amount e true) = .ok pool' ↔
      ∃ token, SafeERC20.safeTransfer (pool.tokens asset) e u amount = .ok token ∧
        (pool.setToken asset token).executeBorrow t (variableLoan asset u v amount e false) =
          .ok pool' := by
  have prepared : ∀ token, Alike (fun p p' => p.tokens = pool.tokens ∧ p' = p.setToken asset token)
      (pool.prepareLoan t (variableLoan asset u v amount e true))
      ((pool.setToken asset token).prepareLoan t (variableLoan asset u v amount e false)) := by
    intro token
    refine (prepareLoan_tokens rfl).mono ?_
    rintro p _ ⟨kept, rfl⟩
    exact ⟨kept, by rw [setToken, kept]⟩
  have rated : ∀ (p : LendingPool) token, p.tokens = pool.tokens →
      SafeERC20.safeTransfer (pool.tokens asset) e u amount = .ok token →
      Alike (fun q q' => q.tokens = p.tokens ∧ q' = q.setToken asset token)
        (p.updateInterestRates t asset e 0 amount)
        ((p.setToken asset token).updateInterestRates t asset e 0 0) := by
    intro p token kept hsend
    rw [← kept] at word hsend
    exact updateInterestRates_sent other word hsend
  rw [executeBorrow_eq_prepareLoan]
  simp only [executeBorrow_eq_prepareLoan, bind_eq_ok]
  constructor
  · rintro ⟨p, hprepare, q, hrates, hsend⟩
    have released : q.transferUnderlyingTo asset e u amount = .ok pool' := hsend
    obtain ⟨token, htransfer, hset⟩ := bind_eq_ok.mp released
    obtain rfl := pure_eq_ok.mp hset
    obtain ⟨_, hprepare', kept, rfl⟩ := (prepared token).left hprepare
    have tokens : q.tokens = p.tokens := by
      obtain ⟨_, _, rfl⟩ := updateInterestRates_eq_ok hrates
      rfl
    have sent : SafeERC20.safeTransfer (pool.tokens asset) e u amount = .ok token := by
      rw [← kept, ← tokens]
      exact htransfer
    obtain ⟨_, hrates', _, rfl⟩ := (rated p token kept sent).left hrates
    exact ⟨token, sent, _, hprepare', _, hrates', rfl⟩
  · rintro ⟨token, hsend, _, hprepare', _, hrates', hsame⟩
    obtain ⟨p, hprepare, kept, rfl⟩ := (prepared token).right hprepare'
    obtain ⟨q, hrates, tokens, rfl⟩ := (rated p token kept hsend).right hrates'
    obtain rfl := Except.ok.inj hsame
    have released : q.transferUnderlyingTo asset e u amount = .ok (q.setToken asset token) := by
      refine bind_eq_ok.mpr ⟨token, ?_, rfl⟩
      rw [tokens, kept]
      exact hsend
    exact ⟨p, hprepare, q, hrates, released⟩

/-- `borrow` of one amount after the other, all in mode 2. -/
def borrowAll (t : Nat) (u v : Address) : List (Address × Nat) → LendingPool → Result LendingPool
  | [], pool => .ok pool
  | (asset, amount) :: rest, pool => do
    let pool ← pool.borrow t u asset amount 2 v
    borrowAll t u v rest pool

/-- The loans are of different listed assets, whose elTokens are not the borrower, and the premiums
can be computed. -/
structure LendingPool.CanBeLent (pool : LendingPool) (u : Address) (loans : List (Address × Nat)) :
    Prop where
  distinct : (loans.map (·.1)).Nodup
  listed : ∀ loan ∈ loans, (pool.reserves loan.1).elTokenAddress ≠ 0
  other : ∀ loan ∈ loans, (pool.reserves loan.1).elTokenAddress ≠ u
  words : ∀ loan ∈ loans, pool.underlyingBalance loan.1 ≤ uint256Max
  premiums : ∀ loan ∈ loans, loan.2 * pool.flashLoanPremiumTotal ≤ uint256Max

theorem sendFlashLoan_alike {q : LendingPool} {loans : List (Address × Nat)}
    (address : ∀ a, (q.reserves a).elTokenAddress = (pool.reserves a).elTokenAddress)
    (premium : q.flashLoanPremiumTotal = pool.flashLoanPremiumTotal)
    (same : q.tokens = pool.tokens) :
    Alike (fun r r' => r'.1 = r.1 ∧ r.2 = { pool with tokens := r.2.tokens } ∧
      r'.2 = { q with tokens := r.2.tokens }) (pool.sendFlashLoan u loans) (q.sendFlashLoan u loans) := by
  induction loans generalizing pool q with
  | nil => exact .ok ⟨rfl, rfl, by rw [← same]⟩
  | cons loan rest ih =>
    obtain ⟨a, x⟩ := loan
    unfold sendFlashLoan
    rw [address]
    refine Alike.bind (R := Eq) (.of_eq (by rw [premium])) ?_
    rintro product _ rfl
    refine .same fun _ => .same fun _ => ?_
    simp only [transferUnderlyingTo, bind_assoc, pure_bind, same]
    refine .same fun token => ?_
    have updated : (q.setToken a token).tokens = (pool.setToken a token).tokens := by
      simp only [setToken, same]
    have sentRest := @ih (pool.setToken a token) (q.setToken a token) address premium updated
    refine sentRest.bind ?_
    rintro ⟨entries, r⟩ ⟨entries', r'⟩ ⟨hentries, hr, hr'⟩
    dsimp only at hentries hr hr'
    subst hentries hr'
    exact .ok ⟨rfl, hr, rfl⟩

theorem sendFlashLoan_tokens {loans : List (Address × Nat)} {entries : List FlashLoanEntry}
    (absent : asset ∉ loans.map (·.1))
    (h : pool.sendFlashLoan u loans = .ok (entries, pool')) :
    pool'.tokens asset = pool.tokens asset := by
  induction loans generalizing pool entries with
  | nil =>
    cases h
    rfl
  | cons loan rest ih =>
    obtain ⟨a, x⟩ := loan
    simp only [List.map_cons, List.mem_cons, not_or] at absent
    simp only [sendFlashLoan, transferUnderlyingTo, bind_assoc, pure_bind, bind_eq_ok,
      Prod.exists, pure_eq_ok, Prod.mk.injEq] at h
    obtain ⟨_, _, _, _, _, _, token, _, _, _, hrest, _, rfl⟩ := h
    rw [ih absent.2 hrest, setToken_tokens, Function.update_of_ne absent.1]

theorem executeBorrow_tokens (same : tokens asset = pool.tokens asset) :
    Alike (fun p p' => p.tokens = pool.tokens ∧ p' = { p with tokens })
      (pool.executeBorrow t (variableLoan asset u v amount e false))
      (({ pool with tokens } : LendingPool).executeBorrow t
        (variableLoan asset u v amount e false)) := by
  rw [executeBorrow_eq_prepareLoan, executeBorrow_eq_prepareLoan]
  refine (prepareLoan_tokens rfl).bind ?_
  rintro p _ ⟨kept, rfl⟩
  have rated : Alike (fun q q' => q.tokens = pool.tokens ∧ q' = { q with tokens })
      (p.updateInterestRates t asset e 0 0)
      (({ p with tokens } : LendingPool).updateInterestRates t asset e 0 0) := by
    unfold updateInterestRates
    dsimp only
    rw [same, kept]
    exact .same fun _ => .ok ⟨kept, rfl⟩
  refine rated.bind ?_
  rintro q _ ⟨kept, rfl⟩
  exact .ok ⟨kept, rfl⟩

theorem executeBorrow_onBooks
    (h : pool.executeBorrow t (variableLoan asset u v amount (pool.reserves asset).elTokenAddress
      false) = .ok pool') :
    pool.OnBooks pool' asset ∧ pool'.paused = pool.paused ∧
      pool'.flashLoanPremiumTotal = pool.flashLoanPremiumTotal := by
  obtain ⟨p₁, first, p₂, p₃, p₄, _, h₁, h₂, hbit, h₄, hsend⟩ := executeBorrow_eq_ok h
  obtain ⟨release, _⟩ | ⟨_, rfl⟩ := hsend
  · cases release
  have marked : p₂.OnBooks p₃ asset ∧ p₃.paused = p₂.paused ∧
      p₃.flashLoanPremiumTotal = p₂.flashLoanPremiumTotal := by
    obtain ⟨_, hset⟩ | ⟨_, rfl⟩ := hbit
    · have books := setBorrowing_onBooks hset asset
      obtain ⟨_, _, rfl⟩ := setBorrowing_eq_ok hset
      exact ⟨books, rfl, rfl⟩
    · exact ⟨.refl _ _, rfl, rfl⟩
  have books := (updateState_onBooks h₁).trans ((mintDebt_onBooks h₂).trans marked.1)
  have rated := (books.updateInterestRates h₄).1
  obtain ⟨_, _, rfl⟩ := updateState_eq_ok h₁
  obtain ⟨_, _, rfl, _⟩ := mintDebt_eq_ok h₂
  obtain ⟨_, _, rfl⟩ := updateInterestRates_eq_ok h₄
  exact ⟨rated, marked.2⟩

theorem sendFlashLoan_cons_iff {loans : List (Address × Nat)} {entries : List FlashLoanEntry}
    (listed : (pool.reserves asset).elTokenAddress ≠ 0)
    (premium : amount * pool.flashLoanPremiumTotal ≤ uint256Max) :
    pool.sendFlashLoan u ((asset, amount) :: loans) = .ok (entries, pool') ↔
      ∃ token rest, SafeERC20.safeTransfer (pool.tokens asset)
          (pool.reserves asset).elTokenAddress u amount = .ok token ∧
        (pool.setToken asset token).sendFlashLoan u loans = .ok (rest, pool') ∧
        entries = ⟨asset, (pool.reserves asset).elTokenAddress, amount,
          amount * pool.flashLoanPremiumTotal / 10000⟩ :: rest := by
  have product : SafeMath.mul amount pool.flashLoanPremiumTotal =
      .ok (amount * pool.flashLoanPremiumTotal) := SafeMath.mul_eq_ok.mpr ⟨premium, rfl⟩
  have quotient : SafeMath.div (amount * pool.flashLoanPremiumTotal) 10000 =
      .ok (amount * pool.flashLoanPremiumTotal / 10000) :=
    SafeMath.div_eq_ok.mpr ⟨by decide, rfl⟩
  have contract : requireContract (pool.reserves asset).elTokenAddress = .ok () :=
    require_eq_ok.mpr (by simpa using listed)
  simp only [sendFlashLoan, product, quotient, contract, ok_bind, transferUnderlyingTo,
    ELToken.transferUnderlyingTo, bind_assoc, pure_bind, bind_eq_ok, Prod.exists, pure_eq_ok,
    Prod.mk.injEq]
  constructor
  · rintro ⟨token, hsend, rest, _, hrest, rfl, rfl⟩
    exact ⟨token, rest, hsend, hrest, rfl⟩
  · rintro ⟨token, rest, hsend, hrest, rfl⟩
    exact ⟨token, hsend, rest, _, hrest, rfl, rfl⟩

/-- The loans after the first can still be lent when the first is sent and its debt is open. -/
theorem LendingPool.CanBeLent.rest {token : ERC20} {loans : List (Address × Nat)}
    (can : pool.CanBeLent u ((asset, amount) :: loans))
    (books : (pool.setToken asset token).OnBooks pool' asset)
    (premium : pool'.flashLoanPremiumTotal = pool.flashLoanPremiumTotal) :
    pool'.CanBeLent u loans := by
  have address : ∀ a, (pool'.reserves a).elTokenAddress = (pool.reserves a).elTokenAddress :=
    books.elTokenAddress
  have apart : ∀ loan ∈ loans, loan.1 ≠ asset := by
    intro loan hloan same
    rw [← same] at can
    exact (List.nodup_cons.mp can.distinct).1 (List.mem_map_of_mem (f := (·.1)) hloan)
  refine ⟨(List.nodup_cons.mp can.distinct).2, ?_, ?_, ?_, ?_⟩
  · intro loan hloan
    rw [address]
    exact can.listed loan (.tail _ hloan)
  · intro loan hloan
    rw [address]
    exact can.other loan (.tail _ hloan)
  · intro loan hloan
    have word := can.words loan (.tail _ hloan)
    rw [underlyingBalance] at word
    rw [underlyingBalance, address, books.tokens, setToken_tokens,
      Function.update_of_ne (apart loan hloan)]
    exact word
  · intro loan hloan
    rw [premium]
    exact can.premiums loan (.tail _ hloan)

/-- It makes no difference whether the debt of one asset is opened before or after the others are
sent. -/
theorem send_then_executeBorrow_iff {loans : List (Address × Nat)} {entries : List FlashLoanEntry}
    (absent : asset ∉ loans.map (·.1)) (address : (pool.reserves asset).elTokenAddress = e) :
    (∃ sent, pool.sendFlashLoan u loans = .ok (entries, sent) ∧
        sent.executeBorrow t (variableLoan asset u v amount e false) = .ok pool') ↔
      ∃ opened, pool.executeBorrow t (variableLoan asset u v amount e false) = .ok opened ∧
        opened.sendFlashLoan u loans = .ok (entries, pool') := by
  subst address
  have alike : ∀ opened, pool.executeBorrow t (variableLoan asset u v amount
      (pool.reserves asset).elTokenAddress false) = .ok opened → opened.tokens = pool.tokens →
      Alike (fun r r' => r'.1 = r.1 ∧ r.2 = { pool with tokens := r.2.tokens } ∧
        r'.2 = { opened with tokens := r.2.tokens })
        (pool.sendFlashLoan u loans) (opened.sendFlashLoan u loans) := by
    intro opened hopen kept
    obtain ⟨books, _, premium⟩ := executeBorrow_onBooks hopen
    exact sendFlashLoan_alike books.elTokenAddress premium kept
  constructor
  · rintro ⟨sent, hsend, hopen⟩
    obtain ⟨_, _, _, hsent, _⟩ := (sendFlashLoan_alike (fun _ => rfl) rfl rfl).left hsend
    have same : sent.tokens asset = pool.tokens asset := sendFlashLoan_tokens absent hsend
    dsimp only at hsent
    rw [hsent] at hopen
    obtain ⟨opened, hopened, kept, rfl⟩ := (executeBorrow_tokens same).right hopen
    obtain ⟨⟨entries', r⟩, hsend', hentries, _, hr⟩ := (alike opened hopened kept).left hsend
    dsimp only at hentries hr
    subst hentries hr
    exact ⟨opened, hopened, hsend'⟩
  · rintro ⟨opened, hopen, hsend⟩
    have kept : opened.tokens = pool.tokens := (executeBorrow_onBooks hopen).1.tokens
    obtain ⟨⟨entries', sent⟩, hsend', hentries, hsent, hopened⟩ :=
      (alike opened hopen kept).right hsend
    dsimp only at hentries hsent hopened
    subst hentries
    have same : sent.tokens asset = pool.tokens asset := sendFlashLoan_tokens absent hsend'
    obtain ⟨_, hopen', _, rfl⟩ := (executeBorrow_tokens same).left hopen
    rw [← hsent, ← hopened] at hopen'
    exact ⟨sent, hsend', hopen'⟩

theorem borrow_eq_executeBorrow (unpaused : pool.paused = false) :
    pool.borrow t u asset amount 2 v = pool.executeBorrow t
      (variableLoan asset u v amount (pool.reserves asset).elTokenAddress true) := by
  unfold borrow whenNotPaused
  rw [unpaused]
  rfl

/-- Sending all loans and then opening the debts, or taking one loan after the other. -/
theorem kept_loans_iff (version : PoolVersion) {loans : List (Address × Nat)}
    (unpaused : pool.paused = false) (can : pool.CanBeLent u loans) :
    (∃ entries sent, pool.sendFlashLoan u loans = .ok (entries, sent) ∧
      sent.settleFlashLoan t version u u v entries (loans.map fun _ => 2) = .ok pool') ↔
      borrowAll t u v loans pool = .ok pool' := by
  induction loans generalizing pool with
  | nil => simp [sendFlashLoan, settleFlashLoan, borrowAll]
  | cons loan loans ih =>
    obtain ⟨asset, amount⟩ := loan
    have listed := can.listed _ (List.mem_cons_self)
    have other := can.other _ (List.mem_cons_self)
    have word := can.words _ (List.mem_cons_self)
    have absent : asset ∉ loans.map (·.1) := (List.nodup_cons.mp can.distinct).1
    -- once the first loan is sent and its debt is open, the others can still be taken
    have opened : ∀ token p, (pool.setToken asset token).executeBorrow t
        (variableLoan asset u v amount (pool.reserves asset).elTokenAddress false) = .ok p →
        p.paused = false ∧ p.CanBeLent u loans := by
      intro token p hopen
      obtain ⟨books, paused, premium⟩ := executeBorrow_onBooks hopen
      exact ⟨paused.trans unpaused, can.rest books premium⟩
    simp only [sendFlashLoan_cons_iff listed (can.premiums _ List.mem_cons_self), borrowAll,
      borrow_eq_executeBorrow unpaused, bind_eq_ok, executeBorrow_release_iff other word]
    constructor
    · rintro ⟨_, sent, ⟨token, entries, htoken, hsend, rfl⟩, hsettle⟩
      obtain ⟨q, hopen, hsettle⟩ := bind_eq_ok.mp hsettle
      obtain ⟨p, hopen, hsend⟩ := (send_then_executeBorrow_iff absent rfl).mp ⟨sent, hsend, hopen⟩
      obtain ⟨unpaused, can⟩ := opened token p hopen
      exact ⟨p, ⟨token, htoken, hopen⟩, (ih unpaused can).mp ⟨entries, q, hsend, hsettle⟩⟩
    · rintro ⟨p, ⟨token, htoken, hopen⟩, hrest⟩
      obtain ⟨unpaused, can⟩ := opened token p hopen
      obtain ⟨entries, q, hsend, hsettle⟩ := (ih unpaused can).mpr hrest
      obtain ⟨sent, hsend, hopen⟩ :=
        (send_then_executeBorrow_iff absent rfl).mpr ⟨p, hopen, hsend⟩
      exact ⟨_, sent, ⟨token, entries, htoken, hsend, rfl⟩, bind_eq_ok.mpr ⟨q, hopen, hsettle⟩⟩

/-- A flash loan of which the receiver returns nothing, all of it in mode 2, succeeds exactly when
the same amounts can be borrowed one after the other, and leaves the pool and the underlyings as
they are after that: no premium is paid. -/
theorem kept_flash_loan_borrows {version : PoolVersion} {loans : List (Address × Nat)}
    (unpaused : pool.paused = false) (can : pool.CanBeLent u loans) :
    pool.flashLoan t version u u (loans.map (·.1)) (loans.map (·.2)) (loans.map fun _ => 2) v
        (fun lent => .ok (true, lent)) = .ok pool' ↔
      borrowAll t u v loans pool = .ok pool' := by
  rw [← kept_loans_iff version unpaused can]
  have lengths : validateFlashloan (loans.map (·.1)) (loans.map (·.2)) = .ok () :=
    require_eq_ok.mpr (by simp)
  have zipped : (loans.map (·.1)).zip (loans.map (·.2)) = loans := by
    rw [List.zip_map', List.map_id'']
    exact fun _ => rfl
  have running : pool.whenNotPaused = .ok () := require_eq_ok.mpr (by simp [unpaused])
  simp only [flashLoan, running, lengths, zipped, ok_bind, bind_eq_ok, Prod.exists, require_eq_ok,
    exists_const, true_and]

/-- Bob has deposited both assets, and alice has collateral. -/
def lendingMarket : LendingPool :=
  Market.endState (Market.setup 1000 ++
    [(1, Market.bob, .deposit Market.weth (10 ^ 20) Market.bob),
      (1, Market.bob, .deposit Market.dai (10 ^ 20) Market.bob),
      (2, Market.alice, .deposit Market.dai (10 ^ 20) Market.alice)])

def bothLoans : List (Address × Nat) := [(Market.weth, 10 ^ 19), (Market.dai, 2 * 10 ^ 19)]

theorem bothLoans_kept : ∃ pool', borrowAll 3 Market.alice Market.alice bothLoans lendingMarket =
      .ok pool' ∧
    lendingMarket.flashLoan 3 .lendingPool Market.alice Market.alice (bothLoans.map (·.1))
      (bothLoans.map (·.2)) (bothLoans.map fun _ => 2) Market.alice
      (fun lent => .ok (true, lent)) = .ok pool' := by
  have can : lendingMarket.CanBeLent Market.alice bothLoans :=
    ⟨by decide, by decide +kernel, by decide +kernel, by decide +kernel, by decide +kernel⟩
  have taken : (borrowAll 3 Market.alice Market.alice bothLoans lendingMarket).isOk = true := by
    decide +kernel
  obtain ⟨pool', borrowed⟩ := exists_of_isOk taken
  exact ⟨pool', borrowed, (kept_flash_loan_borrows (by decide +kernel) can).mpr borrowed⟩

end ElectroLend
