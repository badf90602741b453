import ElectroLend.Pool.Scripts
import ElectroLend.Tokens.StableRuns

namespace ElectroLend

open Outcome

namespace StableDebtToken

variable {token token' : StableDebtToken} {t t' amount : Nat} {u : Address}

/-- No principal is left when the total is zero. -/
def Remembers (token : StableDebtToken) : Prop :=
  token.totalSupply = 0 → ∀ v, token.balances v = 0

/-- A burn that resets the total repays the whole debt of the last borrower. -/
def ResetByLastBorrower (token : StableDebtToken) (t : Nat) : StableCall → Prop
  | .mint _ _ _ _ => True
  | .burn user amount =>
    ∀ supply, token.totalSupplyAt t = .ok supply →
      token.BurnResets supply (token.usersStableRate user) amount →
        token.balanceOf t user = .ok amount ∧ ∀ v, v ≠ user → token.balances v = 0

theorem mint_totalSupply_pos {user : Address} {rate : Nat} {first : Bool}
    (h : token.mint t user u amount rate = .ok (first, token')) : 0 < token'.totalSupply := by
  obtain ⟨_, supply, _, _, _, _, _, _, havg, _, _, hsupply, _⟩ := mint_eq_ok h
  rw [hsupply]
  exact (weightedRate_eq_ok havg).1

theorem burn_remembers_iff (h : token.burn t u amount = .ok token') :
    token'.Remembers ↔ token.ResetByLastBorrower t (.burn u amount) := by
  obtain ⟨balance, supply, hb, hs, hnext, hle, hbal, _⟩ := burn_eq_ok h
  obtain ⟨resets, _, hzero⟩ | ⟨keeps, hsub, _⟩ := supplyAfterBurn_eq_ok hnext
  · constructor
    · intro remembers supply' hs' _
      have forgotten := remembers hzero
      rw [hbal] at forgotten
      have hu : balance - amount = 0 := by simpa using forgotten u
      have hall : amount = balance := by omega
      refine ⟨by rw [hall]; exact hb, ?_⟩
      intro v hv
      simpa [Function.update_of_ne hv] using forgotten v
    · intro last _ v
      obtain ⟨hwhole, hothers⟩ := last supply hs resets
      have hall := ok_unique hb hwhole
      rw [hbal]
      by_cases hv : v = u
      · simp [hv, hall]
      · rw [Function.update_of_ne hv]
        exact hothers v hv
  · have hlt : amount < supply := by
      by_contra hge
      exact keeps (.inl (by omega))
    constructor
    · intro _ supply' hs' resets
      cases ok_unique hs hs'
      exact absurd resets keeps
    · intro _ hzero
      omega

/-- After a call the total forgets nobody exactly when no reset left a borrower behind. -/
theorem exec_remembers_iff {call : StableCall} (h : token.exec t call = .ok token') :
    token'.Remembers ↔ token.ResetByLastBorrower t call := by
  cases call with
  | mint user onBehalfOf amount rate =>
    obtain ⟨_, hm⟩ := exec_mint_eq_ok h
    have hpos := mint_totalSupply_pos hm
    constructor
    · intro _
      trivial
    · intro _ hzero
      omega
  | burn user amount => exact burn_remembers_iff h

/-- In a run whose resets are all made by the last borrower, a zero total means that nobody owes. -/
theorem zero_totalSupply_zero_balances {n : Nat}
    (run : After (fun _ t token call => token.ResetByLastBorrower t call) n t token)
    (hzero : token.totalSupplyAt t' = .ok 0) : token.balanceOf t' u = .ok 0 := by
  have remembers : token.Remembers := by
    refine run.invariant (fun _ token => token.Remembers) (fun _ _ => rfl) ?_
    intro k t token allowances call token' _ hlast hexec
    exact (exec_remembers_iff hexec).mpr hlast
  exact balanceOf_zero (remembers (totalSupplyAt_eq_zero_iff.mp hzero) u)

end StableDebtToken

open StableDebtToken

/-- Alice borrows at 10% and repays, the last borrower. -/
def repaidLoan : List (Nat × StableCall) :=
  [(1, .mint Market.alice Market.alice (10 ^ 20) (10 ^ 26)), (1, .burn Market.alice (10 ^ 20))]

theorem repaidLoan_nobody_owes :
    ∃ token, stableScript .empty repaidLoan = .ok token ∧
      token.balanceOf 2 Market.bob = .ok 0 := by
  have success : succeedsWith (stableScript .empty repaidLoan)
      (fun token => token.totalSupply == 0) = true := by decide +kernel
  obtain ⟨token, hscript, hzero⟩ := succeedsWith_iff.mp success
  refine ⟨token, hscript, ?_⟩
  simp only [repaidLoan, stableScript, bind_eq_ok, Except.ok.injEq, exists_eq_right] at hscript
  obtain ⟨lent, hmint, hburn⟩ := hscript
  obtain ⟨_, hm⟩ := exec_mint_eq_ok hmint
  obtain ⟨balance, _, _, _, hb, _, _, _, _, _, hbal, _⟩ := mint_eq_ok hm
  have whole : succeedsWith (empty.exec 1 (.mint Market.alice Market.alice (10 ^ 20) (10 ^ 26)))
      (fun token => decide (token.balanceOf 1 Market.alice = .ok (10 ^ 20))) = true := by
    decide +kernel
  obtain ⟨lent', hmint', howed⟩ := succeedsWith_iff.mp whole
  cases ok_unique hmint hmint'
  have start : After (fun _ t token call => token.ResetByLastBorrower t call) 0 0 empty := .refl
  have free : empty.ResetByLastBorrower 1
      (.mint Market.alice Market.alice (10 ^ 20) (10 ^ 26)) := trivial
  have loan := start.call (Nat.zero_le 1) free hmint
  have last : lent.ResetByLastBorrower 1 (.burn Market.alice (10 ^ 20)) := by
    intro _ _ _
    refine ⟨of_decide_eq_true howed, ?_⟩
    intro v hv
    rw [hbal, Function.update_of_ne hv]
    rfl
  exact zero_totalSupply_zero_balances (loan.call (Nat.le_refl 1) last hburn)
    (totalSupplyAt_eq_zero_iff.mpr (eq_of_beq hzero))

/-- Alice borrows at 0.1% and bob at 10%; a year later bob repays almost all of his debt, and the
total is reset while both owe. -/
theorem reset_forgets_alice :
    ∃ token, After (fun _ _ _ _ => True) 3 31536001 token ∧
      token.totalSupplyAt 31536001 = .ok 0 ∧
      ∃ balance, token.balanceOf 31536001 Market.alice = .ok balance ∧ 10 ^ 20 ≤ balance := by
  have success : succeedsWith (stableScript .empty
      [(1, .mint Market.alice Market.alice (10 ^ 20) (10 ^ 24)),
        (1, .mint Market.bob Market.bob (10 ^ 20) (10 ^ 26)),
        (31536001, .burn Market.bob (110 * 10 ^ 18))])
      (fun token => token.totalSupply == 0 && succeedsWith (token.balanceOf 31536001 Market.alice)
        (fun balance => decide (10 ^ 20 ≤ balance))) = true := by decide +kernel
  obtain ⟨token, hscript, hafter⟩ := succeedsWith_iff.mp success
  simp only [Bool.and_eq_true] at hafter
  obtain ⟨balance, hb, howes⟩ := succeedsWith_iff.mp hafter.2
  have start : After (fun _ _ _ _ => True) 0 0 empty := .refl
  have run : After (fun _ _ _ _ => True) 3 31536001 token :=
    start.script rfl (fun _ _ _ _ => trivial) hscript
  exact ⟨token, run, totalSupplyAt_eq_zero_iff.mpr (eq_of_beq hafter.1), balance, hb,
    of_decide_eq_true howes⟩

end ElectroLend
