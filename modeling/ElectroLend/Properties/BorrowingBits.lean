import ElectroLend.Properties.ClosingDebt

namespace ElectroLend

open Outcome

namespace LendingPool

variable {pool pool' : LendingPool} {t amount : Nat} {asset u v : Address}

theorem settleFlashLoan_marked {version : PoolVersion} {msgSender receiver onBehalfOf : Address}
    {entries : List FlashLoanEntry} {modes : List Nat} (inv : pool.DebtsMarked)
    (h : pool.settleFlashLoan t version msgSender receiver onBehalfOf entries modes = .ok pool') :
    pool'.DebtsMarked := by
  induction entries generalizing pool modes with
  | nil =>
    cases Except.ok.inj h
    exact inv
  | cons entry entries ih =>
    obtain ⟨mode, rest, middle, rfl, hentry, hrest⟩ := settleFlashLoan_cons h
    refine ih ?_ hrest
    obtain ⟨_, _, ⟨_, hreturn⟩ | ⟨_, hborrow⟩⟩ := settleFlashLoanEntry_eq_ok hentry
    · exact inv.frame (returnFlashLoan_debtFrame hreturn)
    · exact executeBorrow_marked inv hborrow

theorem setConfiguration_debtFrame (pool : LendingPool) (asset : Address)
    (configuration : ReserveConfigurationMap) :
    pool.DebtFrame (pool.setConfiguration asset configuration) :=
  .setReserve ⟨rfl, rfl, rfl, rfl, Nat.le_refl _, Nat.le_refl _⟩ fun _ h => h

theorem listReserve_marked {input : InitReserveInput} (inv : pool.DebtsMarked)
    (h : pool.listReserve input = .ok pool') : pool'.DebtsMarked := by
  obtain ⟨hel, hst, hva, hinit, added, configuration, hadd, rfl⟩ := listReserve_eq_ok h
  refine DebtsMarked.frame ?_ (setConfiguration_debtFrame added _ _)
  have blank : (pool.reserves input.underlyingAsset).Blank := by
    obtain hb | ⟨hl, _⟩ := inv.listing.known input.underlyingAsset
    · exact hb
    · exact absurd hinit hl.elToken
  have kept : (pool.freshReserve input).id = (pool.reserves input.underlyingAsset).id := rfl
  obtain ⟨room, rfl⟩ := inv.listing.addReserveToList_eq_ok blank kept hadd
  have fresh : (pool.freshReserve input).Listed := freshReserve_listed hel hst hva
  have listed : Reserve.Listed { pool.freshReserve input with id := pool.reservesCount } :=
    ⟨fresh.elToken, fresh.stableDebtToken, fresh.variableDebtToken, fresh.index⟩
  refine ⟨inv.listing.append blank room listed rfl, ?_⟩
  intro a w ho
  by_cases ha : a = input.underlyingAsset
  · subst ha
    simp [Reserve.Owes, freshReserve, StableDebtToken.empty, VariableDebtToken.empty,
      IncentivizedERC20.empty] at ho
  · simp only [setReserve_reserves, Function.update_of_ne ha] at ho ⊢
    exact inv.debts a w ho

end LendingPool

open LendingPool

variable {pool pool' : LendingPool} {t : Nat}

theorem Call.exec_marked {msgSender : Address} {call : Call} (ht : IsBlockTimestamp t)
    (inv : pool.DebtsMarked) (h : call.exec t msgSender pool = .ok pool') :
    pool'.DebtsMarked := by
  have framed (fine : ∀ deed ∈ call.deeds pool msgSender, deed.OpensNoDebt) : pool'.DebtsMarked :=
    inv.frame ((Call.exec_deeds h).debtFrame fine)
  cases call with
  | borrow asset amount interestRateMode onBehalfOf => exact borrow_marked inv h
  | repay asset amount rateMode onBehalfOf =>
    obtain ⟨⟨_, _⟩, hr, rfl⟩ := map_eq_ok.mp h
    exact repay_marked ht inv hr
  | swapBorrowRateMode asset rateMode => exact swapBorrowRateMode_marked inv h
  | rebalanceStableBorrowRate asset user => exact rebalanceStableBorrowRate_marked inv h
  | listReserve input => exact listReserve_marked inv h
  | _ => exact framed (by simp [Call.deeds, Deed.OpensNoDebt])

theorem Steps.marked {rules : Rules} (ht : IsBlockTimestamp t) (h : Steps rules t pool pool')
    (inv : pool.DebtsMarked) : pool'.DebtsMarked := by
  induction h with
  | refl _ => exact inv
  | call before msgSender call allowed success ih => exact Call.exec_marked ht (ih inv) success
  | flashLoan before msgSender receiver assets amounts modes onBehalfOf executeOperation allowed
      callback success ih ihcallback =>
    obtain ⟨_, entries, sent, answer, returned, hsend, hcall, hsettle⟩ := flashLoan_eq_ok success
    have sent_marked := (ih inv).frame (sendFlashLoan_debtFrame hsend)
    exact settleFlashLoan_marked (ihcallback sent answer returned hcall sent_marked) hsettle

theorem initialized_marked (this : Address) (tokens : Address → ERC20)
    (priceOracle lendingRateOracle : Address → Nat) (isContract : Address → Bool) :
    (LendingPool.initialized this tokens priceOracle lendingRateOracle isContract).DebtsMarked where
  listing := initialized_wellListed this tokens priceOracle lendingRateOracle isContract
  debts _ _ ho := by
    obtain h | h := ho
    · exact absurd rfl h
    · exact absurd rfl h

theorem Reachable.marked {rules : Rules} (h : Reachable rules t pool) : pool.DebtsMarked :=
  h.invariant initialized_marked fun _ _ _ timestamp inv run => run.marked timestamp inv

end ElectroLend
