import ElectroLend.Configuration.AddressesProviderRegistry

namespace ElectroLend

open Outcome

namespace LendingPoolAddressesProviderRegistry

variable {registry registry' : LendingPoolAddressesProviderRegistry} {msgSender provider : Address}
  {call : RegistryCall} {calls : List (Address × RegistryCall)}

theorem addToAddressesProvidersList_eq (list : List Address) (provider : Address) :
    addToAddressesProvidersList list provider = AppendOnce.append list provider := by
  simp [addToAddressesProvidersList, AppendOnce.append]

/-- What a successful call can do to the listing: set an id and list its provider, clear an id, or
nothing. -/
theorem exec_cases (h : registry.exec msgSender call = .ok registry') :
    (∃ provider id, call = .registerAddressesProvider provider id ∧ id ≠ 0 ∧
      registry'.addressesProviders = Function.update registry.addressesProviders provider id ∧
      registry'.addressesProvidersList =
        AppendOnce.append registry.addressesProvidersList provider) ∨
    (∃ provider, call = .unregisterAddressesProvider provider ∧
      registry'.addressesProviders = Function.update registry.addressesProviders provider 0 ∧
      registry'.addressesProvidersList = registry.addressesProvidersList) ∨
    (registry'.addressesProviders = registry.addressesProviders ∧
      registry'.addressesProvidersList = registry.addressesProvidersList) := by
  cases call with
  | registerAddressesProvider provider id =>
    simp only [exec, registerAddressesProvider, bind_eq_ok, require_eq_ok, pure_eq_ok] at h
    obtain ⟨_, _, _, hid, rfl⟩ := h
    exact .inl ⟨provider, id, rfl, hid, rfl, addToAddressesProvidersList_eq _ _⟩
  | unregisterAddressesProvider provider =>
    simp only [exec, unregisterAddressesProvider, bind_eq_ok, require_eq_ok, pure_eq_ok] at h
    obtain ⟨_, _, _, _, rfl⟩ := h
    exact .inr (.inl ⟨provider, rfl, rfl, rfl⟩)
  | transferOwnership newOwner =>
    simp only [exec, transferOwnership, bind_eq_ok, require_eq_ok, pure_eq_ok] at h
    obtain ⟨_, _, _, _, rfl⟩ := h
    exact .inr (.inr ⟨rfl, rfl⟩)
  | renounceOwnership =>
    simp only [exec, renounceOwnership, bind_eq_ok, pure_eq_ok] at h
    obtain ⟨_, _, rfl⟩ := h
    exact .inr (.inr ⟨rfl, rfl⟩)

/-- Every provider with an id has one slot, and no slot is the zero address. -/
structure SlotsExact (registry : LendingPoolAddressesProviderRegistry) : Prop where
  distinct : registry.addressesProvidersList.Nodup
  nonzero : 0 ∉ registry.addressesProvidersList
  listed : ∀ provider, registry.addressesProviders provider ≠ 0 →
    provider ∈ registry.addressesProvidersList

theorem SlotsExact.exec (slots : registry.SlotsExact) (nonzero : call.NonzeroProvider)
    (h : registry.exec msgSender call = .ok registry') : registry'.SlotsExact := by
  obtain ⟨provider, id, rfl, hid, hids, hlist⟩ | ⟨provider, rfl, hids, hlist⟩ | ⟨hids, hlist⟩ :=
    exec_cases h
  · refine ⟨?_, ?_, ?_⟩
    · rw [hlist]
      exact AppendOnce.nodup_append slots.distinct
    · rw [hlist, AppendOnce.mem_append]
      rintro (hold | hnew)
      · exact slots.nonzero hold
      · exact nonzero hnew.symm
    · intro other hother
      rw [hlist, AppendOnce.mem_append]
      by_cases heq : other = provider
      · exact .inr heq
      · rw [hids, Function.update_of_ne heq] at hother
        exact .inl (slots.listed other hother)
  · refine ⟨hlist ▸ slots.distinct, hlist ▸ slots.nonzero, ?_⟩
    intro other hother
    rw [hids] at hother
    rw [hlist]
    by_cases heq : other = provider
    · subst heq
      exact absurd (Function.update_self ..) hother
    · rw [Function.update_of_ne heq] at hother
      exact slots.listed other hother
  · exact ⟨hlist ▸ slots.distinct, hlist ▸ slots.nonzero, hids ▸ hlist ▸ slots.listed⟩

theorem exec_extends (h : registry.exec msgSender call = .ok registry') :
    registry.addressesProvidersList <+: registry'.addressesProvidersList := by
  obtain ⟨_, _, _, _, _, hlist⟩ | ⟨_, _, _, hlist⟩ | ⟨_, hlist⟩ := exec_cases h
  · rw [hlist]
    exact AppendOnce.prefix_append _ _
  · exact hlist ▸ List.prefix_refl _
  · exact hlist ▸ List.prefix_refl _

theorem history_exact (slots : registry.SlotsExact)
    (nonzero : ∀ entry ∈ calls, entry.2.NonzeroProvider) :
    (registry.history calls).SlotsExact ∧
      registry.addressesProvidersList <+: (registry.history calls).addressesProvidersList := by
  induction calls generalizing registry with
  | nil => exact ⟨slots, List.prefix_refl _⟩
  | cons entry rest ih =>
    obtain ⟨msgSender, call⟩ := entry
    have later : ∀ entry ∈ rest, entry.2.NonzeroProvider :=
      fun entry hentry => nonzero entry (List.mem_cons_of_mem _ hentry)
    unfold history
    split
    next registry' hexec =>
      have step := slots.exec (nonzero _ (List.mem_cons_self ..)) hexec
      obtain ⟨end_slots, grown⟩ := ih step later
      exact ⟨end_slots, (exec_extends hexec).trans grown⟩
    next => exact ih slots later

theorem deployed_exact {initialOwner : Address} (h : deployed msgSender initialOwner = .ok registry) :
    registry.SlotsExact := by
  simp only [deployed, transferOwnership, bind_eq_ok, require_eq_ok, pure_eq_ok] at h
  obtain ⟨_, _, _, _, rfl⟩ := h
  exact ⟨List.nodup_nil, List.not_mem_nil, fun _ hne => absurd rfl hne⟩

theorem getAddressesProvidersList_slot {i : Nat} (hne : provider ≠ 0) :
    registry.getAddressesProvidersList[i]? = some provider ↔
      registry.addressesProvidersList[i]? = some provider ∧
        registry.getAddressesProviderIdByAddress provider ≠ 0 := by
  simp only [getAddressesProvidersList, getAddressesProviderIdByAddress, List.getElem?_map,
    Option.map_eq_some_iff]
  constructor
  · rintro ⟨slot, hslot, hshown⟩
    split at hshown
    next hid =>
      subst hshown
      exact ⟨hslot, Nat.ne_of_gt hid⟩
    next => exact absurd hshown.symm hne
  · rintro ⟨hslot, hid⟩
    exact ⟨provider, hslot, if_pos (Nat.pos_of_ne_zero hid)⟩

/-- The entries other than 0 are the slots whose provider has an id, in their order. -/
theorem nonzero_entries (slots : registry.SlotsExact) :
    registry.getAddressesProvidersList.filter (fun entry => entry ≠ 0) =
      registry.addressesProvidersList.filter
        (fun provider => registry.addressesProviders provider ≠ 0) := by
  have nonzero := slots.nonzero
  unfold getAddressesProvidersList
  generalize registry.addressesProvidersList = list at nonzero ⊢
  induction list with
  | nil => rfl
  | cons slot rest ih =>
    have hslot : slot ≠ 0 := fun hz => nonzero (hz ▸ List.mem_cons_self ..)
    have hrest : 0 ∉ rest := fun hz => nonzero (List.mem_cons_of_mem _ hz)
    rw [List.map_cons, List.filter_cons, List.filter_cons, ih hrest]
    by_cases hid : registry.addressesProviders slot = 0
    · simp [hid]
    · simp [hid, hslot, Nat.pos_of_ne_zero hid]

theorem history_append (registry : LendingPoolAddressesProviderRegistry)
    (first later : List (Address × RegistryCall)) :
    registry.history (first ++ later) = (registry.history first).history later := by
  induction first generalizing registry with
  | nil => rfl
  | cons entry rest ih =>
    obtain ⟨msgSender, call⟩ := entry
    simp only [List.cons_append, history]
    split
    · exact ih _
    · exact ih _

end LendingPoolAddressesProviderRegistry

open LendingPoolAddressesProviderRegistry

/-- After any calls on a deployed registry the entries of the list other than 0 are distinct and are
the providers with an id; and whatever calls follow, a listed provider shows in no other position,
and in its own whenever it has an id. -/
theorem registry_listing_exact {msgSender initialOwner : Address}
    {registry : LendingPoolAddressesProviderRegistry}
    (h : deployed msgSender initialOwner = .ok registry) (calls later : List (Address × RegistryCall))
    (nonzero : ∀ entry ∈ calls ++ later, entry.2.NonzeroProvider) :
    ((registry.history calls).getAddressesProvidersList.filter (fun entry => entry ≠ 0)).Nodup ∧
      (∀ provider, provider ∈
          (registry.history calls).getAddressesProvidersList.filter (fun entry => entry ≠ 0) ↔
        (registry.history calls).getAddressesProviderIdByAddress provider ≠ 0) ∧
      ∀ (i : Nat) provider, provider ≠ 0 →
        (registry.history calls).getAddressesProvidersList[i]? = some provider →
        ((registry.history (calls ++ later)).getAddressesProviderIdByAddress provider ≠ 0 →
          (registry.history (calls ++ later)).getAddressesProvidersList[i]? = some provider) ∧
        ∀ j : Nat, (registry.history (calls ++ later)).getAddressesProvidersList[j]? = some provider →
          j = i := by
  have before : ∀ entry ∈ calls, entry.2.NonzeroProvider :=
    fun entry hentry => nonzero entry (List.mem_append_left _ hentry)
  have after : ∀ entry ∈ later, entry.2.NonzeroProvider :=
    fun entry hentry => nonzero entry (List.mem_append_right _ hentry)
  obtain ⟨slots, _⟩ := history_exact (deployed_exact h) before
  obtain ⟨slots', grown⟩ := history_exact slots after
  rw [history_append, nonzero_entries slots]
  refine ⟨slots.distinct.filter _, ?_, ?_⟩
  · intro provider
    rw [List.mem_filter, decide_eq_true_eq]
    exact ⟨fun hmem => hmem.2, fun hid => ⟨slots.listed provider hid, hid⟩⟩
  · intro i provider hne hshown
    obtain ⟨hslot, _⟩ := (getAddressesProvidersList_slot hne).mp hshown
    have kept := AppendOnce.getElem?_of_prefix grown hslot
    refine ⟨fun hid => (getAddressesProvidersList_slot hne).mpr ⟨kept, hid⟩, ?_⟩
    intro j hj
    obtain ⟨hslot', _⟩ := (getAddressesProvidersList_slot hne).mp hj
    have bound : j < _ := (List.getElem?_eq_some_iff.mp hslot').1
    exact (List.getElem?_inj bound slots'.distinct).mp (hslot'.trans kept.symm)

/-- A provider that is listed second, removed and registered again with another id is second
again. -/
theorem registered_again : ∃ registry, deployed 1 2 = .ok registry ∧
    (registry.history [(2, .registerAddressesProvider 10 1), (2, .registerAddressesProvider 11 2),
        (2, .unregisterAddressesProvider 11), (2, .registerAddressesProvider 12 3),
        (2, .registerAddressesProvider 11 4)]).getAddressesProvidersList[1]? = some 11 := by
  obtain ⟨registry, h⟩ := exists_of_isOk (x := deployed 1 2) (by decide)
  have listing := registry_listing_exact h
    [(2, .registerAddressesProvider 10 1), (2, .registerAddressesProvider 11 2)]
    [(2, .unregisterAddressesProvider 11), (2, .registerAddressesProvider 12 3),
      (2, .registerAddressesProvider 11 4)]
    (by simp [RegistryCall.NonzeroProvider])
  cases Except.ok.inj h
  exact ⟨_, rfl, (listing.2.2 1 11 (by decide) (by decide)).1 (by decide)⟩

end ElectroLend
