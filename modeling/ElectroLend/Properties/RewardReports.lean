import ElectroLend.Library.Checkpoints
import ElectroLend.Tokens.Incentives

namespace ElectroLend

open Outcome Checkpoints

variable {t : Nat} {u : Address}

/-- The reports give the balances and the supply as they were, and name every account of a list. -/
structure IncentivizedERC20.Reported (token : IncentivizedERC20) (accounts : List Address)
    (reports : List HandleAction) : Prop where
  balance : ∀ action ∈ reports, action.userBalance = token.balances action.user
  supply : ∀ action ∈ reports, action.totalSupply = token.totalSupply
  named : ∀ u ∈ accounts, ∃ action ∈ reports, action.user = u

namespace IncentivizedERC20

variable {token : IncentivizedERC20}

theorem supplyActions_reported (token : IncentivizedERC20) (u : Address) :
    token.Reported [u] (token.supplyActions u) := by
  refine ⟨?_, ?_, ?_⟩ <;> simp [supplyActions]

theorem transferActions_reported (token : IncentivizedERC20) (u v : Address) :
    token.Reported (transferAccounts u v) (token.transferActions u v) := by
  by_cases huv : u = v
  · refine ⟨?_, ?_, ?_⟩ <;> simp [transferActions, transferAccounts, huv]
  · refine ⟨?_, ?_, ?_⟩ <;> simp [transferActions, transferAccounts, huv]

theorem Reported.none (token : IncentivizedERC20) : token.Reported [] [] := by
  refine ⟨?_, ?_, ?_⟩ <;> simp

variable {accounts : List Address} {reports : List HandleAction}

theorem Reported.value (h : token.Reported accounts reports) (u : Address) :
    ∀ value ∈ reports.filterMap (HandleAction.balanceOf u), value = token.balances u := by
  intro value hvalue
  obtain ⟨action, haction, hread⟩ := List.mem_filterMap.mp hvalue
  obtain ⟨rfl, rfl⟩ : action.user = u ∧ action.userBalance = value := by
    simpa [HandleAction.balanceOf] using hread
  exact h.balance action haction

theorem Reported.silent (h : token.Reported accounts reports)
    (silent : reports.filterMap (HandleAction.balanceOf u) = []) : u ∉ accounts := by
  intro hu
  obtain ⟨action, haction, rfl⟩ := h.named u hu
  have heard : action.userBalance ∈ reports.filterMap (HandleAction.balanceOf action.user) :=
    List.mem_filterMap.mpr ⟨action, haction, by simp [HandleAction.balanceOf]⟩
  rw [silent] at heard
  cases heard

theorem Reported.supplies (h : token.Reported accounts reports) :
    ∀ value ∈ reports.filterMap HandleAction.supply, value = token.totalSupply := by
  intro value hvalue
  obtain ⟨action, haction, hread⟩ := List.mem_filterMap.mp hvalue
  obtain rfl : action.totalSupply = value := Option.some.inj hread
  exact h.supply action haction

theorem no_supplies (silent : reports.filterMap HandleAction.supply = []) : reports = [] := by
  cases reports with
  | nil => rfl
  | cons action rest => simp [HandleAction.supply] at silent

end IncentivizedERC20

namespace ELToken

variable {token token' : ELToken} {call : ELTokenCall}

theorem handleActions_reported (h : token.exec call = .ok token') :
    ∃ accounts, (∀ u, u ∉ accounts → token'.balances u = token.balances u) ∧
      token.Reported accounts (token.handleActions call) := by
  have others := (exec_accounted h).others
  cases call with
  | mint user amount index => exact ⟨_, others, token.supplyActions_reported user⟩
  | burn underlying this user receiverOfUnderlying amount index =>
    exact ⟨_, others, token.supplyActions_reported user⟩
  | mintToTreasury amount index =>
    by_cases hz : amount = 0
    · obtain ⟨minted, hzero, _, rfl⟩ := mintToTreasury_eq_ok h
      refine ⟨[], fun u _ => ?_, ?_⟩
      · rw [hzero hz, creditTreasury_zero]
      · rw [handleActions, if_pos hz]
        exact .none _
    · refine ⟨_, others, ?_⟩
      rw [handleActions, if_neg hz]
      exact token.supplyActions_reported token.treasury
  | transfer pool msgSender recipient amount =>
    exact ⟨_, others, token.transferActions_reported msgSender recipient⟩
  | transferFrom pool msgSender sender recipient amount =>
    exact ⟨_, others, token.transferActions_reported sender recipient⟩
  | transferOnLiquidation pool sender recipient value =>
    exact ⟨_, others, token.transferActions_reported sender recipient⟩
  | approve owner spender amount => exact ⟨_, others, .none _⟩

theorem exec_unreported (h : token.exec call = .ok token') (silent : token.handleActions call = []) :
    token'.totalSupply = token.totalSupply := by
  cases call with
  | mint user amount index => cases silent
  | burn underlying this user receiverOfUnderlying amount index => cases silent
  | mintToTreasury amount index =>
    obtain ⟨minted, hzero, _, rfl⟩ := mintToTreasury_eq_ok h
    have hz : amount = 0 := by
      by_contra hne
      rw [handleActions, if_neg hne] at silent
      cases silent
    rw [hzero hz, creditTreasury_zero]
  | transfer pool msgSender recipient amount => cases silent
  | transferFrom pool msgSender sender recipient amount => cases silent
  | transferOnLiquidation pool sender recipient value => cases silent
  | approve owner spender amount =>
    rw [approve_base (show token.approve owner spender amount = .ok token' from h)]

theorem told_balance (u : Address) :
    Told ReportedStep (fun token => token.scaledBalanceOf u) (HandleAction.balanceOf u) where
  before := by
    rintro _ token token' _ ⟨call, told⟩
    obtain ⟨h, rfl⟩ := reportingExec_eq_ok told
    obtain ⟨_, _, reported⟩ := handleActions_reported h
    exact reported.value u
  silent := by
    rintro _ token token' _ ⟨call, told⟩ hsilent
    obtain ⟨h, rfl⟩ := reportingExec_eq_ok told
    obtain ⟨_, others, reported⟩ := handleActions_reported h
    exact others u (reported.silent hsilent)

theorem told_supply : Told ReportedStep scaledTotalSupply HandleAction.supply where
  before := by
    rintro _ token token' _ ⟨call, told⟩
    obtain ⟨h, rfl⟩ := reportingExec_eq_ok told
    obtain ⟨_, _, reported⟩ := handleActions_reported h
    exact reported.supplies
  silent := by
    rintro _ token token' _ ⟨call, told⟩ hsilent
    obtain ⟨h, rfl⟩ := reportingExec_eq_ok told
    exact exec_unreported h (IncentivizedERC20.no_supplies hsilent)

end ELToken

namespace VariableDebtToken

variable {token token' : VariableDebtToken} {call : VariableDebtCall}

theorem handleActions_reported (token : VariableDebtToken) (call : VariableDebtCall) :
    token.Reported call.accounts (token.handleActions call) := by
  cases call with
  | mint user onBehalfOf amount index => exact token.supplyActions_reported onBehalfOf
  | burn user amount index => exact token.supplyActions_reported user
  | approveDelegation delegator delegatee amount => exact .none _

theorem told_balance (u : Address) :
    Told ReportedStep (fun token => token.scaledBalanceOf u) (HandleAction.balanceOf u) where
  before := by
    rintro _ token token' _ ⟨call, told⟩
    obtain ⟨_, rfl⟩ := reportingExec_eq_ok told
    exact (token.handleActions_reported call).value u
  silent := by
    rintro _ token token' _ ⟨call, told⟩ hsilent
    obtain ⟨h, rfl⟩ := reportingExec_eq_ok told
    exact (exec_accounted h).others u ((token.handleActions_reported call).silent hsilent)

theorem told_supply : Told ReportedStep scaledTotalSupply HandleAction.supply where
  before := by
    rintro _ token token' _ ⟨call, told⟩
    obtain ⟨_, rfl⟩ := reportingExec_eq_ok told
    exact (token.handleActions_reported call).supplies
  silent := by
    rintro _ token token' _ ⟨call, told⟩ hsilent
    obtain ⟨h, rfl⟩ := reportingExec_eq_ok told
    have silent := IncentivizedERC20.no_supplies hsilent
    cases call with
    | mint user onBehalfOf amount index => cases silent
    | burn user amount index => cases silent
    | approveDelegation delegator delegatee amount =>
      cases Except.ok.inj h
      rfl

end VariableDebtToken

namespace StableDebtToken

variable {token token' : StableDebtToken} {call : StableCall} {reports : List HandleAction}

/-- Only the principal of the account that the report names moves. -/
theorem exec_others (h : token.exec t call = .ok token') :
    ∀ u, u ≠ call.account → token'.principalBalanceOf u = token.principalBalanceOf u := by
  intro u hu
  cases call with
  | mint user onBehalfOf amount rate =>
    obtain ⟨first, hmint⟩ := exec_mint_eq_ok h
    obtain ⟨_, _, _, _, _, _, _, _, _, _, hbalances, _⟩ := mint_eq_ok hmint
    rw [principalBalanceOf, hbalances]
    exact Function.update_of_ne hu _ _
  | burn user amount =>
    obtain ⟨_, _, _, _, _, _, hbalances, _⟩ := burn_eq_ok h
    rw [principalBalanceOf, hbalances]
    exact Function.update_of_ne hu _ _

theorem told_principal (u : Address) :
    Told ReportedStep (fun token => token.principalBalanceOf u) (HandleAction.balanceOf u) where
  before := by
    rintro t token token' _ ⟨allowances, call, told⟩ value hvalue
    obtain ⟨supply, _, rfl⟩ := reportingExec_reports told
    by_cases hu : call.account = u
    · subst hu
      simpa [HandleAction.balanceOf, principalBalanceOf, withAllowances] using hvalue
    · simp [HandleAction.balanceOf, hu] at hvalue
  silent := by
    rintro t token token' _ ⟨allowances, call, told⟩ hsilent
    obtain ⟨supply, _, rfl⟩ := reportingExec_reports told
    refine exec_others (reportingExec_exec told) u fun hu => ?_
    simp [HandleAction.balanceOf, hu] at hsilent

end StableDebtToken

/-- Whatever calls the three tokens take and however they interleave with time: the third argument
of the reports gives every account's scaled balance (of stable debt: its principal) summed over
time, and the second argument that of the scaled supply. -/
theorem reports_measure_holdings :
    (∀ (t now : Nat) (token : ELToken) (history : List (Moment ELToken HandleAction)),
      Follows ELToken.ReportedStep now t token history →
        (∀ u, overTime (·.scaledBalanceOf u) now t token history =
          measured ((lastState token history).scaledBalanceOf u) now t
            (readings (HandleAction.balanceOf u) history)) ∧
        overTime ELToken.scaledTotalSupply now t token history =
          measured (lastState token history).scaledTotalSupply now t
            (readings HandleAction.supply history)) ∧
    (∀ (t now : Nat) (token : VariableDebtToken)
      (history : List (Moment VariableDebtToken HandleAction)),
      Follows VariableDebtToken.ReportedStep now t token history →
        (∀ u, overTime (·.scaledBalanceOf u) now t token history =
          measured ((lastState token history).scaledBalanceOf u) now t
            (readings (HandleAction.balanceOf u) history)) ∧
        overTime VariableDebtToken.scaledTotalSupply now t token history =
          measured (lastState token history).scaledTotalSupply now t
            (readings HandleAction.supply history)) ∧
    ∀ (t now : Nat) (token : StableDebtToken)
      (history : List (Moment StableDebtToken HandleAction)),
      Follows StableDebtToken.ReportedStep now t token history →
        ∀ u, overTime (·.principalBalanceOf u) now t token history =
          measured ((lastState token history).principalBalanceOf u) now t
            (readings (HandleAction.balanceOf u) history) := by
  refine ⟨?_, ?_, ?_⟩
  · intro t now token history h
    exact ⟨fun u => (ELToken.told_balance u).overTime_eq h, ELToken.told_supply.overTime_eq h⟩
  · intro t now token history h
    exact ⟨fun u => (VariableDebtToken.told_balance u).overTime_eq h,
      VariableDebtToken.told_supply.overTime_eq h⟩
  · intro t now token history h u
    exact (StableDebtToken.told_principal u).overTime_eq h

/-- Alice has 100 scaled units. -/
def rewardedBase : IncentivizedERC20 where
  balances := fun account => if account = 10 then 100 else 0
  totalSupply := 100

def rewardedELToken : ELToken := ⟨rewardedBase, fun _ _ => 0, 91⟩

def rewardedVariableDebt : VariableDebtToken := ⟨rewardedBase, fun _ _ => 0⟩

def rewardedStableDebt : StableDebtToken := ⟨rewardedBase, fun _ _ => 0, 0, fun _ => 1, fun _ => 0, 1⟩

/-- Alice sends 40 to bob. -/
def rewardedTransfer : ELTokenCall := .transfer ⟨.ok RAY, fun _ _ _ _ _ => .ok ()⟩ 10 11 40

/-- Bob has 0 up to the transfer at time 3 and 40 then; alice repays a half at time 3. -/
theorem rewardedTokens_measured :
    (∃ token', rewardedELToken.reportingExec rewardedTransfer =
        .ok (token', [⟨10, 100, 100⟩, ⟨11, 100, 0⟩]) ∧
      overTime (·.scaledBalanceOf 11) 7 1 rewardedELToken
        [⟨3, token', [HandleAction.mk 10 100 100, HandleAction.mk 11 100 0]⟩] =
          measured (token'.scaledBalanceOf 11) 7 1 [(3, 0)]) ∧
    (∃ token', rewardedVariableDebt.reportingExec (.burn 10 50 RAY) =
        .ok (token', [⟨10, 100, 100⟩]) ∧
      overTime (·.scaledBalanceOf 10) 7 1 rewardedVariableDebt
        [⟨3, token', [HandleAction.mk 10 100 100]⟩] =
          measured (token'.scaledBalanceOf 10) 7 1 [(3, 100)]) ∧
    ∃ token', rewardedStableDebt.reportingExec 3 (.burn 10 50) = .ok (token', [⟨10, 100, 100⟩]) ∧
      overTime (·.principalBalanceOf 10) 7 1 rewardedStableDebt
        [⟨3, token', [HandleAction.mk 10 100 100]⟩] =
          measured (token'.principalBalanceOf 10) 7 1 [(3, 100)] := by
  obtain ⟨⟨sent, toldSent⟩, hsent, htoldSent⟩ := succeedsWith_iff.mp
    (show succeedsWith (rewardedELToken.reportingExec rewardedTransfer)
      (fun r => r.2 = [⟨10, 100, 100⟩, ⟨11, 100, 0⟩]) = true by decide +kernel)
  obtain ⟨⟨burned, toldBurned⟩, hburned, htoldBurned⟩ := succeedsWith_iff.mp
    (show succeedsWith (rewardedVariableDebt.reportingExec (.burn 10 50 RAY))
      (fun r => r.2 = [⟨10, 100, 100⟩]) = true by decide +kernel)
  obtain ⟨⟨repaid, toldRepaid⟩, hrepaid, htoldRepaid⟩ := succeedsWith_iff.mp
    (show succeedsWith (rewardedStableDebt.reportingExec 3 (.burn 10 50))
      (fun r => r.2 = [⟨10, 100, 100⟩]) = true by decide +kernel)
  obtain rfl := of_decide_eq_true htoldSent
  obtain rfl := of_decide_eq_true htoldBurned
  obtain rfl := of_decide_eq_true htoldRepaid
  have before : 1 ≤ 3 := by decide
  have after : 3 ≤ 7 := by decide
  refine ⟨⟨sent, hsent, ?_⟩, ⟨burned, hburned, ?_⟩, ⟨repaid, hrepaid, ?_⟩⟩
  · exact (reports_measure_holdings.1 1 7 rewardedELToken [⟨3, sent, _⟩]
      ⟨before, ⟨_, hsent⟩, after⟩).1 11
  · exact (reports_measure_holdings.2.1 1 7 rewardedVariableDebt [⟨3, burned, _⟩]
      ⟨before, ⟨_, hburned⟩, after⟩).1 10
  · exact reports_measure_holdings.2.2 1 7 rewardedStableDebt [⟨3, repaid, _⟩]
      ⟨before, ⟨fun _ _ => 0, _, hrepaid⟩, after⟩ 10

end ElectroLend
