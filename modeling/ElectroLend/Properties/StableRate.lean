import ElectroLend.Lending.StableReads
import ElectroLend.Library.FiniteTotals
import ElectroLend.Pool.Scripts
import ElectroLend.Tokens.StableRuns

namespace ElectroLend

open FiniteTotals Outcome

/-- The bound on the average rate after `n` calls that lend at most at the rate `R`. -/
def averageBound (R n : Nat) : Nat := R + n * (10 ^ 18 + 1)

theorem averageBound_succ (R n : Nat) :
    averageBound R (n + 1) = averageBound R n + (10 ^ 18 + 1) := by
  unfold averageBound
  rw [Nat.succ_mul]
  omega

theorem le_averageBound (R n : Nat) : R ≤ averageBound R n := Nat.le_add_right _ _

theorem halfUp_masses_le {masses total bound : Nat} (ht : 0 < total)
    (h : masses * WAD ≤ bound * total) :
    halfUp (masses * RAY) (total * WAD_RAY_RATIO) ≤ bound := by
  have ratio : 0 < WAD_RAY_RATIO := by decide
  have ray : RAY = WAD * WAD_RAY_RATIO := by decide
  apply HalfUp.le_of_le_mul _ (Nat.mul_pos ht ratio)
  rw [ray, ← Nat.mul_assoc, ← Nat.mul_assoc]
  exact Nat.mul_le_mul_right _ h

theorem le_halfUp_masses {masses total bound : Nat} (ht : 0 < total)
    (h : bound * total ≤ masses * WAD + WAD) :
    bound ≤ halfUp (masses * RAY) (total * WAD_RAY_RATIO) + (10 ^ 18 + 1) := by
  have ratio : 0 < WAD_RAY_RATIO := by decide
  have ray : RAY = WAD * WAD_RAY_RATIO := by decide
  have wad : WAD = 10 ^ 18 := rfl
  have rounded := HalfUp.lt_mul_succ (masses * RAY) (Nat.mul_pos ht ratio)
  generalize halfUp (masses * RAY) (total * WAD_RAY_RATIO) = average at rounded ⊢
  have exact : masses * WAD < total * (average + 1) := by
    apply Nat.lt_of_mul_lt_mul_right (a := WAD_RAY_RATIO)
    calc masses * WAD * WAD_RAY_RATIO = masses * RAY := by rw [ray, Nat.mul_assoc]
      _ ≤ masses * RAY + total * WAD_RAY_RATIO / 2 := Nat.le_add_right _ _
      _ < total * WAD_RAY_RATIO * (average + 1) := rounded
      _ = total * (average + 1) * WAD_RAY_RATIO := by ring
  have whole : WAD ≤ total * WAD := Nat.le_mul_of_pos_left WAD ht
  have hlt : total * bound < total * (average + 1 + WAD) := by
    rw [Nat.mul_comm total bound, Nat.mul_add]
    omega
  have := Nat.lt_of_mul_lt_mul_left hlt
  omega

theorem rateMass_bounds (rate amount : Nat) :
    rateMass rate amount * WAD ≤ rate * amount + WAD / 2 ∧
      rate * amount + WAD / 2 < rateMass rate amount * WAD + WAD := by
  have low := HalfUp.mul_le (rate * amount) WAD
  have high := HalfUp.lt_mul_succ (rate * amount) (d := WAD) (by decide)
  unfold rateMass
  rw [Nat.mul_add, Nat.mul_one] at high
  rw [Nat.mul_comm (halfUp (rate * amount) WAD)]
  exact ⟨low, high⟩

/-- The average over a joint debt is at most the bound of both rates and one rounding. -/
theorem weightedRate_le {rate balance newRate amount average bound : Nat}
    (h : weightedRate rate balance newRate amount (balance + amount) = .ok average)
    (hold : rate * balance ≤ bound * balance) (hnew : newRate ≤ bound) :
    average ≤ bound + (10 ^ 18 + 1) := by
  obtain ⟨hpos, rfl⟩ := weightedRate_eq_ok h
  apply halfUp_masses_le hpos
  obtain ⟨first, _⟩ := rateMass_bounds rate balance
  obtain ⟨second, _⟩ := rateMass_bounds newRate amount
  have new := Nat.mul_le_mul_right amount hnew
  have wad : WAD / 2 + WAD / 2 = 10 ^ 18 := by decide
  have room : 10 ^ 18 ≤ (10 ^ 18 + 1) * (balance + amount) := by omega
  rw [Nat.add_mul, Nat.add_mul, Nat.mul_add]
  omega

theorem le_weightedRate {rate balance newRate amount average bound : Nat}
    (h : weightedRate rate balance newRate amount (balance + amount) = .ok average)
    (hold : bound * balance ≤ rate * balance) (hnew : bound ≤ newRate) :
    bound ≤ average + (10 ^ 18 + 1) := by
  obtain ⟨hpos, rfl⟩ := weightedRate_eq_ok h
  apply le_halfUp_masses hpos
  obtain ⟨_, first⟩ := rateMass_bounds rate balance
  obtain ⟨_, second⟩ := rateMass_bounds newRate amount
  have new := Nat.mul_le_mul_right amount hnew
  have wad : WAD / 2 + WAD / 2 = WAD := by decide
  rw [Nat.mul_add, Nat.add_mul]
  omega

namespace StableDebtToken

variable {token token' : StableDebtToken} {R k t amount : Nat} {u : Address}

/-- The recorded total is made up of parts of debts that are owed, at least `amount` of the burner's,
and its average is theirs, but for one rounding of every unit that a burn leaves after the first. -/
structure MadeOfDebts (token : StableDebtToken) (t supply : Nat) (user : Address) (amount : Nat)
    (part : Address → Nat) (total mass : Nat) : Prop where
  parts : SumsTo part total
  masses : SumsTo (fun u => token.usersStableRate u * part u) mass
  owed : ∀ u, ∃ balance, token.balanceOf t u = .ok balance ∧ part u ≤ balance
  recorded : total ≤ supply
  repaid : amount ≤ part user
  average : token.avgStableRate * supply + 10 ^ 18 ≤ mass + 10 ^ 18 * (supply - amount)

/-- New debt is lent at `R` at most, and a burn that does not reset the total takes from a total that
is made up of debts. -/
def KeepsTrack (R t : Nat) (token : StableDebtToken) : StableCall → Prop
  | .mint _ _ _ rate => rate ≤ R
  | .burn user amount =>
    ∀ supply, token.totalSupplyAt t = .ok supply →
      ¬token.BurnResets supply (token.usersStableRate user) amount →
        ∃ part total mass, token.MadeOfDebts t supply user amount part total mass

structure RatesWithin (R k : Nat) (token : StableDebtToken) : Prop where
  average : token.avgStableRate ≤ averageBound R k
  users : ∀ u, token.usersStableRate u ≤ averageBound R k

theorem RatesWithin.mint {user : Address} {rate : Nat} {first : Bool}
    (within : RatesWithin R k token) (hrate : rate ≤ R)
    (h : token.mint t user u amount rate = .ok (first, token')) : RatesWithin R (k + 1) token' := by
  obtain ⟨_, _, _, _, _, _, hjoined, _, hw, _, _, _, hstored, _, hrates, _⟩ := mint_eq_ok h
  have lent : rate ≤ averageBound R k := hrate.trans (le_averageBound R k)
  have next := averageBound_succ R k
  refine ⟨?_, fun v => ?_⟩
  · rw [hstored, next]
    exact weightedRate_le hw (Nat.mul_le_mul_right _ within.average) lent
  · rw [hrates, Function.update_apply]
    split
    · rw [next]
      exact weightedRate_le hjoined (Nat.mul_le_mul_right _ (within.users u)) lent
    · exact (within.users v).trans (by omega)

/-- The masses that a burn leaves are those of debts at rates within the bound, and a rounding. -/
theorem MadeOfDebts.left_le {supply total mass bound : Nat} {part : Address → Nat}
    (made : token.MadeOfDebts t supply u amount part total mass) (hlt : amount < supply)
    (users : ∀ v, token.usersStableRate v ≤ bound) :
    (rateMass token.avgStableRate supply - rateMass (token.usersStableRate u) amount) * WAD ≤
      (bound + (10 ^ 18 + 1)) * (supply - amount) := by
  obtain ⟨first, _⟩ := rateMass_bounds token.avgStableRate supply
  obtain ⟨_, second⟩ := rateMass_bounds (token.usersStableRate u) amount
  have left := made.parts.weighted_sub_le made.masses users made.repaid
  have kept : bound * (total - amount) ≤ bound * (supply - amount) :=
    Nat.mul_le_mul_left _ (Nat.sub_le_sub_right made.recorded _)
  have average := made.average
  have wad : WAD = 10 ^ 18 := rfl
  rw [Nat.sub_mul, Nat.add_mul, Nat.add_mul]
  omega

theorem RatesWithin.burn (within : RatesWithin R k token)
    (keeps : token.KeepsTrack R t (.burn u amount)) (h : token.burn t u amount = .ok token') :
    RatesWithin R (k + 1) token' := by
  obtain ⟨_, supply, _, hs, hnext, _, _, _, hrates, _⟩ := burn_eq_ok h
  have next := averageBound_succ R k
  refine ⟨?_, fun v => ?_⟩
  · obtain ⟨_, hzero, _⟩ | ⟨goes, _, hstored⟩ := supplyAfterBurn_eq_ok hnext
    · rw [hzero]
      exact Nat.zero_le _
    · obtain ⟨part, total, mass, made⟩ := keeps supply hs goes
      have hlt : amount < supply := by
        by_contra hge
        exact goes (.inl (by omega))
      rw [hstored, next]
      exact halfUp_masses_le (by omega) (made.left_le hlt within.users)
  · have rate : token'.usersStableRate v ≤ token.usersStableRate v := by
      rw [hrates]
      split
      · rw [Function.update_apply]
        split
        · exact Nat.zero_le _
        · exact Nat.le_refl _
      · exact Nat.le_refl _
    exact (rate.trans (within.users v)).trans (by omega)

/-- In a run whose burns take from a total made up of debts, the average rate stays within the bound. -/
theorem average_le_bound {n : Nat}
    (run : After (fun _ t token call => token.KeepsTrack R t call) n t token) :
    token.getAverageStableRate ≤ R + n * (10 ^ 18 + 1) := by
  have within : RatesWithin R n token := by
    refine run.invariant (RatesWithin R) ⟨Nat.zero_le _, fun _ => Nat.zero_le _⟩ ?_
    intro k t token allowances call token' within keeps hexec
    have within' : RatesWithin R k (token.withAllowances allowances) :=
      ⟨within.average, within.users⟩
    have keeps' : (token.withAllowances allowances).KeepsTrack R t call := by
      cases call with
      | mint user onBehalfOf amount rate => exact keeps
      | burn user amount =>
        intro supply hs goes
        obtain ⟨part, total, mass, made⟩ := keeps supply hs goes
        exact ⟨part, total, mass, made.1, made.2, made.3, made.4, made.5, made.6⟩
    cases call with
    | mint user onBehalfOf amount rate =>
      obtain ⟨_, hm⟩ := exec_mint_eq_ok hexec
      exact within'.mint keeps' hm
    | burn user amount => exact within'.burn keeps' hexec
  exact within.average

end StableDebtToken

open StableDebtToken

/-- The calls of a run that lends at most at 10%. -/
def lendsAtMostTenPercent : CallGuard
  | _, _, _, .mint _ _ _ rate => rate ≤ 10 ^ 26
  | _, _, _, .burn _ _ => True

/-- Bob repays what he owes a year after borrowing, which resets the total, and borrows again;
alice then repays at 0.1% and leaves an average near 20%. -/
def lateRepayment : List (Nat × StableCall) :=
  [(1, .mint Market.alice Market.alice (10 ^ 20) (10 ^ 24)),
    (1, .mint Market.bob Market.bob (10 ^ 20) (10 ^ 26)),
    (31536001, .burn Market.bob (110 * 10 ^ 18)),
    (31536002, .mint Market.bob Market.bob (10 ^ 19) (10 ^ 26)),
    (31536002, .burn Market.alice (5 * 10 ^ 18))]

theorem lateRepayment_exceeds_bound :
    ∃ token, After lendsAtMostTenPercent 5 31536002 token ∧
      10 ^ 26 + 5 * (10 ^ 18 + 1) < token.getAverageStableRate := by
  have success : succeedsWith (stableScript .empty lateRepayment)
      (fun token => decide (19 * 10 ^ 25 < token.avgStableRate)) = true := by decide +kernel
  obtain ⟨token, hscript, hhigh⟩ := succeedsWith_iff.mp success
  have start : After lendsAtMostTenPercent 0 0 empty := .refl
  have guarded : ∀ c ∈ lateRepayment, ∀ k token, lendsAtMostTenPercent k c.1 token c.2 := by
    simp [lateRepayment, lendsAtMostTenPercent]
  have run : After lendsAtMostTenPercent 5 31536002 token := start.script rfl guarded hscript
  have high := of_decide_eq_true hhigh
  refine ⟨token, run, ?_⟩
  unfold getAverageStableRate
  omega

/-- Alice borrows at 10% and repays half of it at once: the total is her debt. -/
theorem halfRepayment_within_bound :
    ∃ token, (empty.exec 1 (.mint Market.alice Market.alice (10 ^ 20) (10 ^ 26)) >>= fun lent =>
        lent.exec 1 (.burn Market.alice (5 * 10 ^ 19))) = .ok token ∧
      token.getAverageStableRate ≤ 10 ^ 26 + 2 * (10 ^ 18 + 1) := by
  have lends : succeedsWith (empty.exec 1 (.mint Market.alice Market.alice (10 ^ 20) (10 ^ 26)))
      (fun lent => decide (lent.totalSupplyAt 1 = .ok (10 ^ 20) ∧ lent.avgStableRate = 10 ^ 26 ∧
        lent.usersStableRate Market.alice = 10 ^ 26 ∧
        lent.balanceOf 1 Market.alice = .ok (10 ^ 20)) &&
        (lent.exec 1 (.burn Market.alice (5 * 10 ^ 19))).isOk) = true := by decide +kernel
  obtain ⟨lent, hmint, hlent⟩ := succeedsWith_iff.mp lends
  simp only [Bool.and_eq_true, decide_eq_true_eq] at hlent
  obtain ⟨⟨hsupply, havg, hrate, hbalance⟩, hrepays⟩ := hlent
  obtain ⟨token, hburn⟩ := exists_of_isOk hrepays
  have start : After (fun _ t token call => token.KeepsTrack (10 ^ 26) t call) 0 0 empty := .refl
  have within : empty.KeepsTrack (10 ^ 26) 1
      (.mint Market.alice Market.alice (10 ^ 20) (10 ^ 26)) := Nat.le_refl _
  have keeps : lent.KeepsTrack (10 ^ 26) 1 (.burn Market.alice (5 * 10 ^ 19)) := by
    intro supply hs _
    cases ok_unique hs hsupply
    refine ⟨Function.update (fun _ => 0) Market.alice (10 ^ 20), 10 ^ 20, 10 ^ 26 * 10 ^ 20,
      SumsTo.zero.update rfl, ?_, ?_, Nat.le_refl _, by decide, ?_⟩
    · have masses : (fun u => lent.usersStableRate u *
          Function.update (fun _ => 0) Market.alice (10 ^ 20) u) =
          Function.update (fun _ => 0) Market.alice (10 ^ 26 * 10 ^ 20) := by
        funext u
        by_cases hu : u = Market.alice
        · rw [hu, Function.update_self, Function.update_self, hrate]
        · rw [Function.update_of_ne hu, Function.update_of_ne hu, Nat.mul_zero]
      rw [masses]
      exact SumsTo.zero.update rfl
    · intro u
      by_cases hu : u = Market.alice
      · rw [hu, Function.update_self]
        exact ⟨10 ^ 20, hbalance, Nat.le_refl _⟩
      · rw [Function.update_of_ne hu]
        obtain ⟨_, hm⟩ := exec_mint_eq_ok hmint
        have others : lent.balanceOf 1 u = empty.balanceOf 1 u :=
          (mint_sameAccount hm hu).balanceOf 1
        exact ⟨0, others.trans (balanceOf_zero rfl), Nat.le_refl _⟩
    · rw [havg]
      decide
  refine ⟨token, bind_eq_ok.mpr ⟨lent, hmint, hburn⟩, ?_⟩
  exact average_le_bound ((start.call (Nat.zero_le 1) within hmint).call (Nat.le_refl 1) keeps hburn)

end ElectroLend
