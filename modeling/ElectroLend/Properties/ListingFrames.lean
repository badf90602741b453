import ElectroLend.Pool.Upgrades
import ElectroLend.Pool.Visits
import ElectroLend.Properties.BorrowingBits

namespace ElectroLend

open Outcome

namespace LendingPool

variable {pool pool' : LendingPool} {t : Nat} {asset u msgSender : Address} {events : List Event}

theorem setBorrowing_listFrame {i : Nat} {value : Bool}
    (h : pool.setBorrowing u i value = .ok pool') : pool.ListFrame pool' := by
  obtain ⟨_, _, rfl⟩ := setBorrowing_eq_ok h
  exact ⟨rfl, rfl, rfl, fun _ => .refl _⟩

theorem Write.listFrame (h : Write t events pool pool') :
    pool.ListFrame pool' ∨ ∃ input, pool.listReserve input = .ok pool' ∧
      events = [.listed input.underlyingAsset] := by
  cases h with
  | updateState h => exact .inl (updateState_debtFrame h).listing
  | updateInterestRates _ h => exact .inl (updateInterestRates_debtFrame h).listing
  | cumulateToLiquidityIndex h => exact .inl (cumulateToLiquidityIndex_debtFrame h).listing
  | setUsingAsCollateral _ h => exact .inl (setUsingAsCollateral_debtFrame h).listing
  | setBorrowing _ h => exact .inl (setBorrowing_listFrame h)
  | setToken _ asset token => exact .inl (DebtFrame.setToken pool asset token).listing
  | setELToken _ => exact .inl (setELToken_debtFrame pool _ _).listing
  | mintVariableDebt h => exact .inl (mintVariableDebt_frame h).1.listing
  | burnVariableDebt h => exact .inl (burnVariableDebt_debtFrame h).listing
  | mintStableDebt _ h => exact .inl (mintStableDebt_frame h).1.listing
  | burnStableDebt _ h => exact .inl (burnStableDebt_debtFrame h).listing
  | listReserve h => exact .inr ⟨_, h, rfl⟩
  | setWorld _ paused priceOracle lendingRateOracle =>
    exact .inl ⟨rfl, rfl, rfl, fun _ => .refl _⟩
  | _ => exact .inl (.setReserve ⟨rfl, rfl, rfl, rfl, Nat.le_refl _, Nat.le_refl _⟩)

theorem Writes.listFrame (h : Writes t events pool pool')
    (hnew : ∀ asset, Event.listed asset ∉ events) : pool.ListFrame pool' := by
  induction h with
  | refl => exact .refl _
  | tail before last ih =>
    have kept := ih fun asset hlisted => hnew asset (List.mem_append_left _ hlisted)
    obtain frame | ⟨input, _, rfl⟩ := last.listFrame
    · exact kept.trans frame
    · exact absurd (List.mem_append_right _ (List.mem_singleton_self _)) (hnew input.underlyingAsset)

theorem rebalanceStableBorrowRateUpgraded_listFrame
    (h : pool.rebalanceStableBorrowRateUpgraded t asset u = .ok pool') :
    pool.ListFrame pool' := by
  simp only [rebalanceStableBorrowRateUpgraded, bind_eq_ok, Prod.exists] at h
  obtain ⟨_, _, _, _, _, _, p₁, h₁, p₂, h₂, _, p₃, h₃, h₄⟩ := h
  exact (updateState_debtFrame h₁).listing.trans ((burnStableDebt_debtFrame h₂).listing.trans
    ((mintStableDebt_frame h₃).1.listing.trans (updateInterestRates_debtFrame h₄).listing))

theorem settleFlashLoan_listFrame {version : PoolVersion} {receiver onBehalfOf : Address}
    {entries : List FlashLoanEntry} {modes : List Nat}
    (h : pool.settleFlashLoan t version msgSender receiver onBehalfOf entries modes = .ok pool') :
    pool.ListFrame pool' := by
  refine (settleFlashLoan_writes h).listFrame ?_
  intro asset hlisted
  obtain ⟨_, _, _, _, _, he⟩ := loanEvents_opened hlisted
  cases he

end LendingPool

open LendingPool

variable {pool pool' : LendingPool} {t : Nat} {msgSender : Address}

theorem Call.listed_not_mem {call : Call} (hlist : ∀ input, call ≠ .listReserve input)
    (asset : Address) : Event.listed asset ∉ call.events msgSender := by
  cases call with
  | borrow a amount interestRateMode onBehalfOf =>
    simp only [Call.events]
    split
    · unfold Event.openedBy
      split <;> simp
    · simp
  | listReserve input => exact absurd rfl (hlist input)
  | _ => simp [Call.events]

theorem Call.exec_listFrame {call : Call} (hlist : ∀ input, call ≠ .listReserve input)
    (h : call.exec t msgSender pool = .ok pool') : pool.ListFrame pool' :=
  (Call.exec_writes h).listFrame (Call.listed_not_mem hlist)

theorem PoolVersion.exec_listFrame {version : PoolVersion} {call : Call}
    (hlist : ∀ input, call ≠ .listReserve input)
    (h : version.exec t msgSender call pool = .ok pool') : pool.ListFrame pool' := by
  unfold PoolVersion.exec at h
  split at h
  · exact absurd rfl (hlist _)
  · exact rebalanceStableBorrowRateUpgraded_listFrame h
  · exact rebalanceStableBorrowRateUpgraded_listFrame h
  · exact Call.exec_listFrame hlist h

/-- An invariant of what is listed only has to be kept by the listings that the rules allow. -/
theorem VersionSteps.invariant {allowed : VersionRules} {version : PoolVersion}
    (P : LendingPool → Prop)
    (frame : ∀ pool pool' : LendingPool, P pool → pool.ListFrame pool' → P pool')
    (lists : ∀ pool pool' msgSender input, P pool → allowed version pool (.listReserve input) →
      version.exec t msgSender (.listReserve input) pool = .ok pool' → P pool')
    (run : VersionSteps allowed version t pool pool') (initial : P pool) : P pool' := by
  induction run with
  | refl => exact initial
  | call _ msgSender call rule success ih =>
    by_cases hcall : ∃ input, call = .listReserve input
    · obtain ⟨input, rfl⟩ := hcall
      exact lists _ _ _ _ (ih initial) rule success
    · have hlist : ∀ input, call ≠ .listReserve input := fun input he => hcall ⟨input, he⟩
      exact frame _ _ (ih initial) (PoolVersion.exec_listFrame hlist success)
  | flashLoan _ _ _ _ _ _ _ _ callback success ih called =>
    obtain ⟨_, entries, sent, answer, returned, hsend, hanswer, hsettle⟩ := flashLoan_eq_ok success
    have lent := frame _ _ (ih initial) (sendFlashLoan_debtFrame hsend).listing
    exact frame _ _ (called sent answer returned hanswer lent) (settleFlashLoan_listFrame hsettle)

end ElectroLend
