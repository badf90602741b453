import ElectroLend.Pool.RuledRuns
import ElectroLend.Pool.Scripts
import ElectroLend.Views.WalletBalanceProvider

namespace ElectroLend

open Outcome LendingPool

namespace WalletBalanceProvider

variable {pool : LendingPool} {ether : Address → Nat} {others : Address → Address → Option Nat}

/-- What the provider answers for ether and the listed assets. -/
def heldBy (pool : LendingPool) (ether : Address → Nat) (user token : Address) : Nat :=
  if token = MOCK_ETH_ADDRESS then ether user else (pool.tokens token).balanceOf user

/-- The token is ether, or a contract that answers. -/
def Readable (pool : LendingPool) (others : Address → Address → Option Nat) (user token : Address) :
    Prop :=
  token = MOCK_ETH_ADDRESS ∨
    (pool.isContract token = true ∧
      (token ∈ pool.getReservesList ∨ (others token user).isSome = true))

theorem balanceOf_listed {user token : Address}
    (contract : token ≠ MOCK_ETH_ADDRESS → pool.isContract token = true)
    (listed : token ≠ MOCK_ETH_ADDRESS → token ∈ pool.getReservesList) :
    balanceOf pool ether others user token = .ok (heldBy pool ether user token) := by
  unfold balanceOf heldBy
  split
  · rfl
  · next other => rw [if_pos (contract other), tokenBalanceOf, if_pos (listed other)]

theorem balanceOf_isOk {user token : Address} :
    (balanceOf pool ether others user token).isOk = true ↔ Readable pool others user token := by
  unfold balanceOf tokenBalanceOf Readable
  by_cases hether : token = MOCK_ETH_ADDRESS
  · simp [hether, Except.isOk, Except.toBool]
  · by_cases hcontract : pool.isContract token = true
    · by_cases hlisted : token ∈ pool.getReservesList
      · simp [hether, hcontract, hlisted, Except.isOk, Except.toBool]
      · cases others token user with
        | none => simp [hether, hcontract, hlisted, Except.isOk, Except.toBool]
        | some balance => simp [hether, hcontract, hlisted, Except.isOk, Except.toBool]
    · simp [hether, hcontract, Except.isOk, Except.toBool]

theorem fillUsers_eq {tokens users : List Address} {i : Nat} {before old : List Nat}
    (hbefore : before.length = i * tokens.length) (room : old.length = users.length * tokens.length) :
    fillUsers pool ether others tokens i users (before ++ old) =
      ((users.mapM fun user => tokens.mapM (balanceOf pool ether others user)) >>= fun rows =>
        .ok (before ++ rows.flatten)) := by
  induction users generalizing i before old with
  | nil =>
    obtain rfl := List.length_eq_zero_iff.mp (by simpa using room)
    simp [fillUsers, pure, Except.pure]
  | cons user users ih =>
    have size : old.length = tokens.length + users.length * tokens.length := by
      rw [room, List.length_cons, Nat.add_mul, Nat.one_mul, Nat.add_comm]
    unfold fillUsers
    rw [fill_eq_mapM (by simpa using hbefore) (by omega), List.mapM_cons]
    cases hrow : tokens.mapM (balanceOf pool ether others user) with
    | error e => rfl
    | ok row =>
      have width := mapM_length hrow
      rw [ok_bind, ok_bind, ok_bind, ih (by rw [List.length_append, hbefore, width, Nat.add_mul,
        Nat.one_mul]) (by rw [List.length_drop]; omega), bind_assoc]
      refine bind_congr fun rows => ?_
      simp [pure, Except.pure]

/-- The answer lists the balances of one user after the other, each in the order of the tokens, and
fails as soon as one of the balances cannot be read. -/
theorem batchBalanceOf_eq (pool : LendingPool) (ether : Address → Nat)
    (others : Address → Address → Option Nat) (users tokens : List Address) :
    batchBalanceOf pool ether others users tokens =
        ((users.mapM fun user => tokens.mapM (balanceOf pool ether others user)) >>= fun rows =>
          .ok rows.flatten) ∧
      ((batchBalanceOf pool ether others users tokens).isOk = true ↔
        ∀ user ∈ users, ∀ token ∈ tokens, Readable pool others user token) := by
  have filled := @fillUsers_eq pool ether others tokens users 0 []
    (List.replicate (users.length * tokens.length) 0) (by simp) (by simp)
  have rows : batchBalanceOf pool ether others users tokens =
      ((users.mapM fun user => tokens.mapM (balanceOf pool ether others user)) >>= fun rows =>
        .ok rows.flatten) := by
    unfold batchBalanceOf
    simpa using filled
  refine ⟨rows, ?_⟩
  have answers : (batchBalanceOf pool ether others users tokens).isOk =
      (users.mapM fun user => tokens.mapM (balanceOf pool ether others user)).isOk := by
    rw [rows]
    cases users.mapM fun user => tokens.mapM (balanceOf pool ether others user) with
    | error e => rfl
    | ok rows => rfl
  rw [answers, mapM_isOk, List.all_eq_true]
  refine forall₂_congr fun user _ => ?_
  rw [mapM_isOk, List.all_eq_true]
  exact forall₂_congr fun token _ => balanceOf_isOk

end WalletBalanceProvider

variable {pool pool' : LendingPool} {t : Nat} {rules : Rules}

/-- Every listed asset is a contract. -/
def LendingPool.ListsContracts (pool : LendingPool) : Prop :=
  ∀ i, i < pool.reservesCount → pool.isContract (pool.reservesList i) = true

theorem LendingPool.listReserve_listsContracts {input : InitReserveInput} (lists : pool.ListsContracts)
    (h : pool.listReserve input = .ok pool') : pool'.ListsContracts := by
  have contract : pool.isContract input.underlyingAsset = true := by
    simp only [listReserve, initReserve, bind_eq_ok, require_eq_ok] at h
    obtain ⟨_, _, _, _, _, _, _, ⟨_, contract, _⟩, _⟩ := h
    exact contract
  obtain ⟨_, _, _, _, added, configuration, hadd, rfl⟩ := listReserve_eq_ok h
  obtain ⟨_, ⟨_, _, rfl⟩ | ⟨_, rfl⟩⟩ := addReserveToList_eq_ok hadd
  · exact lists
  · intro i hi
    have hi : i < pool.reservesCount + 1 := hi
    show pool.isContract (Function.update pool.reservesList pool.reservesCount
      input.underlyingAsset i) = true
    by_cases hlast : i = pool.reservesCount
    · rw [hlast, Function.update_self]
      exact contract
    · rw [Function.update_of_ne hlast]
      exact lists i (by omega)

theorem Did.listsContracts {deed : Deed} (h : Did t deed pool pool') (lists : pool.ListsContracts) :
    pool'.ListsContracts := by
  cases deed with
  | list asset elTokenAddress =>
    cases h with
    | listReserve h => exact listReserve_listsContracts lists h
  | setPause val =>
    cases h
    exact lists
  | setPrices =>
    cases h
    exact lists
  | _ =>
    rw [h.rest trivial]
    exact lists

theorem listsContracts_invariant : RuledInvariant rules fun _ pool => pool.ListsContracts := by
  have step : ∀ (t : Nat) (deed : Deed) (pool pool' : LendingPool), True → Did t deed pool pool' →
      pool.ListsContracts → pool'.ListsContracts := fun _ _ _ _ _ did => did.listsContracts
  refine .of_deeds step ?_ ?_ ?_
  all_goals intros; trivial

theorem Reachable.listsContracts (h : Reachable rules t pool) : pool.ListsContracts :=
  h.invariant (fun _ _ _ _ _ _ hi => absurd hi (Nat.not_lt_zero _))
    fun _ _ _ timestamp lists run => listsContracts_invariant.steps timestamp run lists

namespace WalletBalanceProvider

/-- In a reachable pool the balances of a wallet can always be read: of every active reserve its
underlying, nothing of the others, and ether last. -/
theorem getUserWalletBalances_eq (reach : Reachable rules t pool) (ether : Address → Nat)
    (others : Address → Address → Option Nat) (user : Address) :
    getUserWalletBalances pool ether others user = .ok (pool.getReservesList ++ [MOCK_ETH_ADDRESS],
      pool.getReservesList.map (fun asset =>
        if (pool.reserves asset).configuration.getActive then heldBy pool ether user asset else 0) ++
          [ether user]) := by
  have lists := reach.listsContracts
  have rows : pool.getReservesList.mapM (reserveBalance pool ether others user) =
      .ok (pool.getReservesList.map fun asset =>
        if (pool.reserves asset).configuration.getActive then heldBy pool ether user asset
        else 0) := by
    refine mapM_ok fun asset hasset => ?_
    obtain ⟨i, hi, rfl⟩ := List.mem_map.mp hasset
    have contract := lists i (List.mem_range.mp hi)
    have active : (pool.reserves (pool.reservesList i)).configuration.getFlagsMemory.isActive =
        (pool.reserves (pool.reservesList i)).configuration.getActive := rfl
    simp only [reserveBalance, active, balanceOf_listed (fun _ => contract) (fun _ => hasset)]
    cases (pool.reserves (pool.reservesList i)).configuration.getActive <;> rfl
  have inEther : balanceOf pool ether others user MOCK_ETH_ADDRESS = .ok (ether user) := if_pos rfl
  simp only [getUserWalletBalances, rows, ok_bind, inEther]
  rfl

/-- Alice has deposited a part of her weth. -/
def walletMarket : LendingPool :=
  Market.endState (Market.setup 1000 ++
    [(1, Market.alice, .deposit Market.weth (10 ^ 20) Market.alice)])

theorem walletMarket_getUserWalletBalances_eq :
    getUserWalletBalances walletMarket (fun _ => 7) (fun _ _ => none) Market.alice =
      .ok (walletMarket.getReservesList ++ [MOCK_ETH_ADDRESS],
        walletMarket.getReservesList.map (fun asset =>
          if (walletMarket.reserves asset).configuration.getActive then
            heldBy walletMarket (fun _ => 7) Market.alice asset
          else 0) ++ [7]) := by
  have reachable : Reachable .any 1 walletMarket :=
    Market.endState_reachable (by decide +kernel) (by decide +kernel)
  exact getUserWalletBalances_eq reachable (fun _ => 7) (fun _ _ => none) Market.alice

end WalletBalanceProvider

end ElectroLend
