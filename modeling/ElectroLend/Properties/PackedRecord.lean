import ElectroLend.Configuration.FieldLayout

namespace ElectroLend

open Outcome LastWrite

namespace ReserveConfigurationMap

variable {self : ReserveConfigurationMap} {values : ConfigurationField → Nat}

theorem configure_shows (shows : self.Shows values) (calls : List SetterCall) :
    (self.configure calls).Shows (overwrite values (SetterCall.writes calls)) ∧
      ∀ i, ConfigurationField.Reserved i →
        (self.configure calls).data.getLsbD i = self.data.getLsbD i := by
  induction calls generalizing self values with
  | nil => exact ⟨shows, fun _ _ => rfl⟩
  | cons call rest ih =>
    unfold configure
    split
    next self' hexec =>
      have inRange := ((SetterCall.exec_eq_ok call).mp hexec).1
      obtain ⟨shows', reserved'⟩ := SetterCall.exec_shows shows hexec
      obtain ⟨shown, reserved⟩ := ih shows'
      have writes : SetterCall.writes (call :: rest) =
          (call.field, call.written) :: SetterCall.writes rest := by
        simp [SetterCall.writes, inRange]
      rw [writes]
      exact ⟨shown, fun i hi => (reserved i hi).trans (reserved' i hi)⟩
    next e hexec =>
      have outOfRange : ¬call.InRange := by
        intro inRange
        rw [(SetterCall.exec_eq_ok call).mpr ⟨inRange, rfl⟩] at hexec
        cases hexec
      have writes : SetterCall.writes (call :: rest) = SetterCall.writes rest := by
        simp [SetterCall.writes, outOfRange]
      rw [writes]
      exact ih shows

end ReserveConfigurationMap

/-- Every configuration word is a record of nine fields and the reserved bits. After any setter
calls every family of getters shows the values written last in range, and the initial ones of the
other fields; the next call is accepted exactly in range, and then changes its own field only. -/
theorem configuration_is_record (word : BitVec 256) (calls : List SetterCall) :
    ∃ initial, (⟨word⟩ : ReserveConfigurationMap).Shows initial ∧
      ((⟨word⟩ : ReserveConfigurationMap).configure calls).Shows
        (overwrite initial (SetterCall.writes calls)) ∧
      (∀ i, ConfigurationField.Reserved i →
        ((⟨word⟩ : ReserveConfigurationMap).configure calls).data.getLsbD i = word.getLsbD i) ∧
      ∀ call : SetterCall,
        (¬call.InRange →
          ∃ e, call.exec ((⟨word⟩ : ReserveConfigurationMap).configure calls) = .error e) ∧
        (call.InRange →
          ∃ self', call.exec ((⟨word⟩ : ReserveConfigurationMap).configure calls) = .ok self' ∧
            self'.Shows (Function.update (overwrite initial (SetterCall.writes calls)) call.field
              call.written) ∧
            ∀ i, ConfigurationField.Reserved i → self'.data.getLsbD i = word.getLsbD i) := by
  obtain ⟨shown, reserved⟩ :=
    ReserveConfigurationMap.configure_shows (ReserveConfigurationMap.shows_stored ⟨word⟩) calls
  refine ⟨_, ReserveConfigurationMap.shows_stored ⟨word⟩, shown, reserved, fun call => ⟨?_, ?_⟩⟩
  · intro outOfRange
    cases hexec : call.exec ((⟨word⟩ : ReserveConfigurationMap).configure calls) with
    | error e => exact ⟨e, rfl⟩
    | ok self' => exact absurd ((SetterCall.exec_eq_ok call).mp hexec).1 outOfRange
  · intro inRange
    have hexec : call.exec ((⟨word⟩ : ReserveConfigurationMap).configure calls) = .ok _ :=
      (SetterCall.exec_eq_ok call).mpr ⟨inRange, rfl⟩
    obtain ⟨shown', reserved'⟩ := SetterCall.exec_shows shown hexec
    exact ⟨_, hexec, shown', fun i hi => (reserved' i hi).trans (reserved i hi)⟩

end ElectroLend
