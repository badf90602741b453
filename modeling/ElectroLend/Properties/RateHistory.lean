import ElectroLend.Lending.StableReads
import ElectroLend.Properties.StableRate

namespace ElectroLend

open Outcome

namespace StableDebtToken

variable {token token' : StableDebtToken} {n t amount : Nat} {u v : Address}
  {rates : Address → List Nat}

/-- The rates passed to `mint` for each user since his balance was last 0, after a call that leaves
the token `token'`. -/
def ratesSinceZero (token' : StableDebtToken) (rates : Address → List Nat) (call : StableCall)
    (v : Address) : List Nat :=
  if token'.balances v = 0 then []
  else
    match call with
    | .mint _ onBehalfOf _ rate => if v = onBehalfOf then rate :: rates v else rates v
    | .burn _ _ => rates v

/-- The token after `n` calls on the empty one, the last of them at time `t`, with the rates that
every user has borrowed at since he last owed nothing. -/
inductive Lent : Nat → Nat → StableDebtToken → (Address → List Nat) → Prop
  | start : Lent 0 0 empty (fun _ => [])
  | call {n t t' token token' rates allowances call} : Lent n t token rates → t ≤ t' →
      (token.withAllowances allowances).exec t' call = .ok token' →
      Lent (n + 1) t' token' (token'.ratesSinceZero rates call)

theorem Lent.next {t' : Nat} {call : StableCall} (run : Lent n t token rates) (ht : t ≤ t')
    (h : token.exec t' call = .ok token') :
    Lent (n + 1) t' token' (token'.ratesSinceZero rates call) := by
  have same : (token.withAllowances token.borrowAllowances).exec t' call = .ok token' := h
  exact .call run ht same

/-- The rate lies between two of the rates, up to the slack. -/
def Between (rates : List Nat) (slack rate : Nat) : Prop :=
  ∃ low ∈ rates, ∃ high ∈ rates, low ≤ rate + slack ∧ rate ≤ high + slack

theorem Between.widen {rates : List Nat} {slack slack' rate : Nat} (h : Between rates slack rate)
    (hle : slack ≤ slack') : Between rates slack' rate := by
  obtain ⟨low, hlow, high, hhigh, below, above⟩ := h
  exact ⟨low, hlow, high, hhigh, by omega, by omega⟩

theorem Between.weightedRate {rates : List Nat} {slack rate balance newRate average : Nat}
    (old : balance ≠ 0 → Between rates slack rate)
    (h : weightedRate rate balance newRate amount (balance + amount) = .ok average) :
    Between (newRate :: rates) (slack + (10 ^ 18 + 1)) average := by
  by_cases hz : balance = 0
  · -- nothing was owed: the old rate has no weight
    subst hz
    have low := le_weightedRate h (Nat.le_refl (newRate * 0)) (Nat.le_refl newRate)
    have high := weightedRate_le h (Nat.le_refl (newRate * 0)) (Nat.le_refl newRate)
    generalize 10 ^ 18 + 1 = rounding at low high ⊢
    exact ⟨newRate, List.mem_cons_self, newRate, List.mem_cons_self, by omega, by omega⟩
  · obtain ⟨low, hlow, high, hhigh, below, above⟩ := old hz
    have hmin : min low newRate - slack ≤ rate := by omega
    have hmax : rate ≤ max high newRate + slack := by omega
    have atLeast := le_weightedRate h (Nat.mul_le_mul_right balance hmin) (by omega)
    have atMost := weightedRate_le h (Nat.mul_le_mul_right balance hmax) (by omega)
    generalize 10 ^ 18 + 1 = rounding at atLeast atMost ⊢
    refine ⟨min low newRate, ?_, max high newRate, ?_, by omega, by omega⟩
    · obtain hle | hle := Nat.le_total low newRate
      · rw [Nat.min_eq_left hle]
        exact List.mem_cons_of_mem _ hlow
      · rw [Nat.min_eq_right hle]
        exact List.mem_cons_self
    · obtain hle | hle := Nat.le_total high newRate
      · rw [Nat.max_eq_right hle]
        exact List.mem_cons_self
      · rw [Nat.max_eq_left hle]
        exact List.mem_cons_of_mem _ hhigh

/-- What is known of an account after `n` calls. -/
structure Averaged (n : Nat) (token : StableDebtToken) (rates : List Nat) (u : Address) : Prop where
  between : token.balances u ≠ 0 → Between rates (n * (10 ^ 18 + 1)) (token.usersStableRate u)
  cleared : token.balances u = 0 → token.usersStableRate u = 0 ∧ token.timestamps u = 0

theorem Averaged.frame {call : StableCall} (known : Averaged n token (rates v) v)
    (same : token.SameAccount token' v)
    (kept : token'.balances v ≠ 0 → token'.ratesSinceZero rates call v = rates v) :
    Averaged (n + 1) token' (token'.ratesSinceZero rates call v) v := by
  refine ⟨?_, ?_⟩
  · intro hne
    rw [kept hne, same.rate]
    rw [same.principal] at hne
    exact (known.between hne).widen (Nat.mul_le_mul_right _ (Nat.le_succ n))
  · intro hz
    rw [same.principal] at hz
    rw [same.rate, same.timestamp]
    exact known.cleared hz

theorem Averaged.mint {user : Address} {rate : Nat} {first : Bool}
    (known : Averaged n token (rates u) u)
    (h : token.mint t user u amount rate = .ok (first, token')) :
    Averaged (n + 1) token' (token'.ratesSinceZero rates (.mint user u amount rate) u) u := by
  obtain ⟨balance, _, newRate, _, hb, _, hw, _, _, _, hbals, _, _, _, hrates, _⟩ := mint_eq_ok h
  have principal : token'.balances u = balance + amount := by simp [hbals]
  have positive := (weightedRate_eq_ok hw).1
  refine ⟨?_, ?_⟩
  · intro hne
    have borrowed : token'.ratesSinceZero rates (.mint user u amount rate) u = rate :: rates u := by
      simp [ratesSinceZero, hne]
    have old : balance ≠ 0 → Between (rates u) (n * (10 ^ 18 + 1)) (token.usersStableRate u) := by
      intro howed
      apply known.between
      intro hz
      exact howed (ok_unique hb (balanceOf_zero hz))
    rw [borrowed, hrates, Function.update_self, Nat.succ_mul]
    exact Between.weightedRate old hw
  · intro hz
    omega

theorem Averaged.burn (known : Averaged n token (rates u) u)
    (h : token.burn t u amount = .ok token') :
    Averaged (n + 1) token' (token'.ratesSinceZero rates (.burn u amount) u) u := by
  obtain ⟨balance, _, hb, _, _, hle, hbals, htimes, hrates, _⟩ := burn_eq_ok h
  have principal : token'.balances u = balance - amount := by simp [hbals]
  by_cases hall : amount = balance
  · refine ⟨fun hne => absurd principal (by omega), ?_⟩
    intro _
    simp [hrates, htimes, hall]
  · refine ⟨?_, fun hz => by omega⟩
    intro hne
    have owed : token.balances u ≠ 0 := by
      intro hz
      have := ok_unique hb (balanceOf_zero hz)
      omega
    have kept : token'.ratesSinceZero rates (.burn u amount) u = rates u := by
      simp [ratesSinceZero, hne]
    rw [kept, hrates, if_neg hall]
    exact (known.between owed).widen (Nat.mul_le_mul_right _ (Nat.le_succ n))

theorem Averaged.exec {call : StableCall} (known : ∀ u, Averaged n token (rates u) u)
    (h : token.exec t call = .ok token') (v : Address) :
    Averaged (n + 1) token' (token'.ratesSinceZero rates call v) v := by
  cases call with
  | mint user u amount rate =>
    obtain ⟨_, hm⟩ := exec_mint_eq_ok h
    by_cases hv : v = u
    · subst hv
      exact (known v).mint hm
    · exact (known v).frame (mint_sameAccount hm hv) (fun hne => by simp [ratesSinceZero, hne, hv])
  | burn u amount =>
    by_cases hv : v = u
    · subst hv
      exact (known v).burn h
    · exact (known v).frame (burn_sameAccount h hv) (fun hne => by simp [ratesSinceZero, hne])

theorem Lent.averaged (run : Lent n t token rates) (u : Address) :
    Averaged n token (rates u) u := by
  induction run generalizing u with
  | start => exact ⟨fun hne => absurd rfl hne, fun _ => ⟨rfl, rfl⟩⟩
  | @call n t t' token token' rates allowances call _ _ hexec ih =>
    -- an account is the same whatever the allowances are
    have known : ∀ u, Averaged n (token.withAllowances allowances) (rates u) u := fun u =>
      ⟨(ih u).between, (ih u).cleared⟩
    exact Averaged.exec known hexec u

/-- Every run of calls has its history of rates. -/
theorem After.lent {allowed : CallGuard} (run : After allowed n t token) :
    ∃ rates, Lent n t token rates := by
  have steps : ∀ k s, Runs.Steps (CallStep allowed) (empty, 0) k s → ∃ rates, Lent k s.2 s.1 rates := by
    intro k s hs
    induction hs with
    | refl => exact ⟨_, .start⟩
    | tail _ last ih =>
      obtain ⟨rates, hlent⟩ := ih
      obtain ⟨hle, allowances, call, _, hexec⟩ := last
      exact ⟨_, .call hlent hle hexec⟩
  exact steps n (token, t) run

end StableDebtToken

open StableDebtToken

/-- After any run the rate of a user who owes is an average of the rates he has borrowed at since
he last owed nothing, up to the roundings; who owes nothing has no rate and no timestamp. -/
theorem stableRate_is_average {n t : Nat} {token : StableDebtToken} {rates : Address → List Nat}
    (run : Lent n t token rates) (u : Address) :
    (token.principalBalanceOf u ≠ 0 → ∃ low ∈ rates u, ∃ high ∈ rates u,
      low ≤ token.getUserStableRate u + n * (10 ^ 18 + 1) ∧
        token.getUserStableRate u ≤ high + n * (10 ^ 18 + 1)) ∧
    (token.principalBalanceOf u = 0 →
      token.getUserStableRate u = 0 ∧ token.timestamps u = 0) := by
  have known := run.averaged u
  exact ⟨known.between, known.cleared⟩

/-- Alice borrows at 10% and at 20%: her rate lies between the two. -/
theorem aliceRate_between :
    ∃ token rates, Lent 2 1 token rates ∧ token.principalBalanceOf Market.alice ≠ 0 ∧
      ∃ low ∈ rates Market.alice, ∃ high ∈ rates Market.alice,
        low ≤ token.getUserStableRate Market.alice + 2 * (10 ^ 18 + 1) ∧
          token.getUserStableRate Market.alice ≤ high + 2 * (10 ^ 18 + 1) := by
  have success : succeedsWith (stableScript .empty
      [(1, .mint Market.alice Market.alice (10 ^ 20) (10 ^ 26)),
        (1, .mint Market.alice Market.alice (10 ^ 20) (2 * 10 ^ 26))])
      (fun token => token.balances Market.alice != 0) = true := by decide +kernel
  obtain ⟨token, hscript, howes⟩ := succeedsWith_iff.mp success
  simp only [stableScript, bind_eq_ok, Except.ok.injEq, exists_eq_right] at hscript
  obtain ⟨lent, hfirst, hsecond⟩ := hscript
  have run := (Lent.start.next (Nat.zero_le 1) hfirst).next (Nat.le_refl 1) hsecond
  have owes : token.principalBalanceOf Market.alice ≠ 0 := by simpa [principalBalanceOf] using howes
  exact ⟨token, _, run, owes, (stableRate_is_average run Market.alice).1 owes⟩

end ElectroLend
