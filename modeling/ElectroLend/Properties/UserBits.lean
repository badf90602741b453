import ElectroLend.Configuration.BitSets

namespace ElectroLend

open LastWrite UserConfigurationMap

/-- Every word is a pair of sets of reserve indexes, as all five views read it; after any calls below
the bound, each bit is the value written last to its own reserve and kind, or else the initial
one. -/
theorem userConfiguration_is_bit_sets (word : BitVec 256) (calls : List BitCall)
    (inRange : ∀ call ∈ calls, call.reserveIndex < 128) :
    ∃ initial self', (⟨word⟩ : UserConfigurationMap).Views initial ∧
      (⟨word⟩ : UserConfigurationMap).setAll calls = .ok self' ∧
      self'.Views fun key => (lastWrite (calls.map BitCall.write) key).getD (initial key) := by
  obtain ⟨self', hset, hbits⟩ := setAll_bitAt ⟨word⟩ inRange
  refine ⟨_, self', views_bitAt ⟨word⟩, hset, ?_⟩
  have last : self'.bitAt = fun key => (lastWrite (calls.map BitCall.write) key).getD
      ((⟨word⟩ : UserConfigurationMap).bitAt key) := by
    funext key
    rw [hbits, overwrite_apply]
  rw [← last]
  exact views_bitAt self'

/-- Reserve 127 is borrowed, and reserve 0 given as collateral and taken back. -/
theorem last_reserve_borrowed : ∃ self', (⟨0⟩ : UserConfigurationMap).setAll
      [⟨.usingAsCollateral, 0, true⟩, ⟨.borrowing, 127, true⟩, ⟨.usingAsCollateral, 0, false⟩] =
        .ok self' ∧
    self'.isBorrowing 127 = .ok true ∧ self'.isUsingAsCollateral 0 = .ok false ∧
    self'.isBorrowingAny = true := by
  obtain ⟨_, self', _, hset, last⟩ := userConfiguration_is_bit_sets 0
    [⟨.usingAsCollateral, 0, true⟩, ⟨.borrowing, 127, true⟩, ⟨.usingAsCollateral, 0, false⟩]
    (by simp)
  exact ⟨self', hset, last.isBorrowing 127 (by decide), last.isUsingAsCollateral 0 (by decide),
    last.isBorrowingAny.mpr ⟨127, by decide, rfl⟩⟩

end ElectroLend
