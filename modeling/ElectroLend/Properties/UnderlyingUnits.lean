import ElectroLend.Pool.Scripts
import ElectroLend.Tokens.SupplyRuns

namespace ElectroLend

open Outcome HalfUp

/-- The amounts that an index of at least one ray leaves nearly as they are. -/
def NearScaled (amount index : Nat) : Prop :=
  amount * (index - RAY) ≤ (index / (2 * RAY) + 1) * index + index / 2

instance (amount index : Nat) : Decidable (NearScaled amount index) :=
  inferInstanceAs (Decidable (_ ≤ _))

/-- Adding the scaled units of an amount adds the amount, up to its rounding, exactly when the index
leaves the amount nearly as it is. -/
theorem within_scaled_iff {amount index scaled : Nat} (hi : RAY ≤ index)
    (h : rayDiv amount index = .ok scaled) (balance : Nat) :
    Within (index / (2 * RAY) + 1) (balance + scaled) (balance + amount) ↔
      NearScaled amount index := by
  have hle := rayDiv_le hi h
  obtain ⟨⟨hne, _⟩, rfl⟩ := rayDiv_eq_ok.mp h
  have near := @le_div_index_add_iff RAY index (Nat.pos_of_ne_zero hne) amount
    (index / (2 * RAY) + 1)
  unfold Within NearScaled
  omega

theorem within_scaled_sub_iff {amount index scaled balance : Nat} (hi : RAY ≤ index)
    (h : rayDiv amount index = .ok scaled) (hle : scaled ≤ balance) :
    Within (index / (2 * RAY) + 1) balance (balance - scaled + amount) ↔
      NearScaled amount index := by
  have iff := within_scaled_iff hi h (balance - scaled)
  rwa [Nat.sub_add_cancel hle] at iff

/-- The balances of the elToken move by an amount of underlying exactly when the index leaves the
amount nearly as it is, and nobody else's balance moves. -/
theorem elToken_moves_underlying_iff {index : Nat} (hi : RAY ≤ index) (token : ELToken)
    (amount : Nat) (u : Address) :
    (∀ first token', token.mint u amount index = .ok (first, token') →
      (Within (index / (2 * RAY) + 1) (token'.balanceOf u) (token.balanceOf u + amount) ∧
          Within (index / (2 * RAY) + 1) token'.totalSupply (token.totalSupply + amount) ↔
        NearScaled amount index) ∧
      ∀ v, v ≠ u → token'.balanceOf v = token.balanceOf v) ∧
    (∀ underlying this receiver token' underlying',
      token.burn underlying this u receiver amount index = .ok (token', underlying') →
      (Within (index / (2 * RAY) + 1) (token.balanceOf u) (token'.balanceOf u + amount) ∧
          Within (index / (2 * RAY) + 1) token.totalSupply (token'.totalSupply + amount) ↔
        NearScaled amount index) ∧
      ∀ v, v ≠ u → token'.balanceOf v = token.balanceOf v) ∧
    ∀ pool v validate token', u ≠ v → pool.getReserveNormalizedIncome = .ok index →
      token.transferValidated pool u v amount validate = .ok token' →
      (Within (index / (2 * RAY) + 1) (token.balanceOf u) (token'.balanceOf u + amount) ∧
          Within (index / (2 * RAY) + 1) (token'.balanceOf v) (token.balanceOf v + amount) ↔
        NearScaled amount index) ∧
      ∀ w, w ≠ u → w ≠ v → token'.balanceOf w = token.balanceOf w := by
  refine ⟨?_, ?_, ?_⟩
  · intro first token' hmint
    obtain ⟨scaled, hd, _, hbals, hsupply, _⟩ := ELToken.mint_eq_ok hmint
    refine ⟨?_, ?_⟩
    · rw [hsupply, within_scaled_iff hi hd]
      simp only [IncentivizedERC20.balanceOf, hbals, Function.update_self]
      rw [within_scaled_iff hi hd, and_self]
    · intro v hv
      simp only [IncentivizedERC20.balanceOf, hbals, Function.update_of_ne hv]
  · intro underlying this receiver token' underlying' hburn
    obtain ⟨scaled, hd, _, hle, hbals, hsupply, hles, _⟩ := ELToken.burn_eq_ok hburn
    refine ⟨?_, ?_⟩
    · rw [hsupply, within_scaled_sub_iff hi hd hles]
      simp only [IncentivizedERC20.balanceOf, hbals, Function.update_self]
      rw [within_scaled_sub_iff hi hd hle, and_self]
    · intro v hv
      simp only [IncentivizedERC20.balanceOf, hbals, Function.update_of_ne hv]
  · intro pool v validate token' hne hindex htransfer
    obtain ⟨_, scaled, hincome, hd, hmove, _⟩ := ELToken.transferValidated_eq_ok htransfer
    cases ok_unique hindex hincome
    obtain ⟨hle, hsender⟩ := moveBalance_sender hne hmove
    have hrecipient := moveBalance_recipient hne hmove
    refine ⟨?_, ?_⟩
    · simp only [IncentivizedERC20.balanceOf, hsender, hrecipient]
      rw [within_scaled_iff hi hd, within_scaled_sub_iff hi hd hle, and_self]
    · intro w hu hv
      exact moveBalance_other hu hv hmove

/-- An elToken that nobody holds. -/
def noELTokens : ELToken := ⟨.empty, fun _ _ => 0, 0⟩

/-- At an index of 1.1 rays ten units move by nine, which is within the rounding. -/
theorem ten_units_moved :
    ∃ first token, noELTokens.mint Market.alice 10 (11 * 10 ^ 26) = .ok (first, token) ∧
      Within 1 (token.balanceOf Market.alice) 10 := by
  have mints : (noELTokens.mint Market.alice 10 (11 * 10 ^ 26)).isOk = true := by decide +kernel
  obtain ⟨⟨first, token⟩, hmint⟩ := exists_of_isOk mints
  have near : NearScaled 10 (11 * 10 ^ 26) := by decide
  have above : RAY ≤ 11 * 10 ^ 26 := by decide
  obtain ⟨moves, _⟩ := (elToken_moves_underlying_iff above noELTokens 10 Market.alice).1 _ _ hmint
  have within := (moves.mpr near).1
  exact ⟨first, token, hmint, within⟩

/-- At an index of 1.1 rays a deposit of 1.1 tokens raises the balance by one token. -/
theorem deposit_raises_scaled :
    ∃ first token, noELTokens.mint Market.alice (11 * 10 ^ 17) (11 * 10 ^ 26) = .ok (first, token) ∧
      token.balanceOf Market.alice = 10 ^ 18 ∧
      ¬Within (11 * 10 ^ 26 / (2 * RAY) + 1) (token.balanceOf Market.alice)
        (noELTokens.balanceOf Market.alice + 11 * 10 ^ 17) := by
  have mints : succeedsWith (noELTokens.mint Market.alice (11 * 10 ^ 17) (11 * 10 ^ 26))
      (fun result => result.2.balanceOf Market.alice == 10 ^ 18) = true := by decide +kernel
  obtain ⟨⟨first, token⟩, hmint, hbalance⟩ := succeedsWith_iff.mp mints
  have scaled : token.balanceOf Market.alice = 10 ^ 18 := eq_of_beq hbalance
  refine ⟨first, token, hmint, scaled, ?_⟩
  rw [scaled]
  decide

end ElectroLend
