import ElectroLend.Gateway.GatewayRuns
import ElectroLend.Properties.EtherWithdrawal
import ElectroLend.Properties.PassiveDebt

namespace ElectroLend

open Outcome LendingPool

variable {pool pool' : LendingPool} {t t' held owed : Nat} {asset this weth u : Address}

theorem setToken_keepsHolding {token : ERC20} {a trusted : Address}
    (keeps : pool.KeepsHolding asset trusted u held) :
    (pool.setToken a token).KeepsHolding asset trusted u held :=
  ⟨keeps.initialised, keeps.token⟩

theorem setToken_keepsDebt {token : ERC20} {a trusted : Address}
    (keeps : pool.KeepsDebt asset trusted u owed) :
    (pool.setToken a token).KeepsDebt asset trusted u owed :=
  ⟨keeps.variableDebt, keeps.stableDebt⟩

theorem pulled_spares {msgSender : Address} {amount : Nat} {a : Address} {made : Call} {deed : Deed}
    (pulls : made = .elTokenTransferFrom a msgSender this amount ∨
      made = .transferFrom a msgSender this amount) (other : msgSender ≠ u)
    (hdeed : deed ∈ made.deeds pool this) :
    ¬deed.Takes asset this u ∧ ¬deed.Indebts asset this u := by
  obtain rfl | rfl := pulls
  all_goals
    simp only [Call.deeds, List.mem_cons, List.not_mem_nil, or_false] at hdeed
    rcases hdeed with rfl | rfl | rfl | rfl | rfl
    all_goals refine ⟨fun takes => ?_, fun indebts => ?_⟩
    all_goals first | exact takes | exact indebts | exact other takes.2.2

/-- Of an account that has approved the gateway, the gateway takes nothing for anybody else. -/
theorem GatewayCall.Makes.spares {gateway : WETHGateway} {msgSender : Address} {call : GatewayCall}
    {made : Call} (makes : GatewayCall.Makes gateway msgSender call made) (other : msgSender ≠ u)
    (self : gateway.this ≠ u) {deed : Deed} (hdeed : deed ∈ made.deeds pool gateway.this) :
    ¬deed.Takes asset gateway.this u := by
  intro takes
  cases makes with
  | _ =>
    simp only [Call.deeds, List.mem_cons, List.not_mem_nil, or_false] at hdeed
    rcases hdeed with rfl | rfl | rfl | rfl | rfl
    all_goals first | exact takes | exact self takes.2 | exact other takes.2.2

/-- An account that has delegated credit to the gateway is not put into debt for anybody else. -/
theorem GatewayCall.Makes.indebts_nobody_else {gateway : WETHGateway} {msgSender : Address}
    {call : GatewayCall} {made : Call} (makes : GatewayCall.Makes gateway msgSender call made)
    (other : msgSender ≠ u) {deed : Deed} (hdeed : deed ∈ made.deeds pool gateway.this) :
    ¬deed.Indebts asset gateway.this u := by
  intro indebts
  cases makes with
  | _ =>
    simp only [Call.deeds, List.mem_cons, List.not_mem_nil, or_false] at hdeed
    rcases hdeed with rfl | rfl | rfl | rfl | rfl
    all_goals first | exact indebts | exact other indebts.2.1

/-- The account makes no call and nobody liquidates it; what the gateway does, it does in calls of
its own functions. -/
def Rules.trusting (u this : Address) : Rules where
  call pool msgSender call := (Rules.sparing u).call pool msgSender call ∧ msgSender ≠ this
  flashLoan _ msgSender _ := msgSender ≠ u ∧ msgSender ≠ this

theorem trusting_keepsHolding (asset : Address) (self : this ≠ u) (held : Nat) :
    GatewayInvariant (.trusting u this) (· ≠ u) this weth
      fun _ pool => pool.KeepsHolding asset this u held where
  ruled := by
    refine .of_deeds (fun _ _ _ _ spares did keeps => did.keepsHolding spares keeps) ?_ ?_ ?_
    · intro t pool pool' msgSender call allowed _ _ deed hdeed
      exact Call.spares allowed.1.1 allowed.2 allowed.1.2 hdeed
    · rintro pool msgSender receiver _ _ _ _ ⟨_, rfl⟩
      exact id
    · rintro pool msgSender receiver onBehalfOf _ _ _ _ ⟨_, hdeed⟩
      simp only [List.mem_cons, List.not_mem_nil, or_false] at hdeed
      obtain rfl | rfl | rfl | rfl | rfl := hdeed
      all_goals exact id
  wrap _ _ _ keeps := setToken_keepsHolding keeps
  made t pool pool' gateway msgSender call made _ other makes hthis _ success keeps := by
    subst hthis
    exact (Call.exec_deeds success).invariant _
      (fun _ _ _ hdeed holds did => did.keepsHolding (makes.spares other self hdeed) holds) keeps
  pulled _ _ _ _ _ _ _ other pulls success keeps :=
    (Call.exec_deeds success).invariant _ (fun _ _ _ hdeed holds did =>
      did.keepsHolding (pulled_spares pulls other hdeed).1 holds) keeps

theorem trusting_keepsDebt (asset : Address) (owed : Nat) :
    GatewayInvariant (.trusting u this) (· ≠ u) this weth
      fun _ pool => pool.KeepsDebt asset this u owed where
  ruled := by
    refine .of_deeds (fun _ _ _ _ fine did keeps => did.keepsDebt fine keeps) ?_ ?_ ?_
    · intro t pool pool' msgSender call allowed _ _ deed hdeed
      exact Call.indebts_nobody_else allowed.1.1 allowed.2 hdeed
    · rintro pool msgSender receiver _ _ _ _ ⟨_, rfl⟩
      exact id
    · rintro pool msgSender receiver onBehalfOf other _ _ _ ⟨_, hdeed⟩ indebts
      simp only [List.mem_cons, List.not_mem_nil, or_false] at hdeed
      obtain rfl | rfl | rfl | rfl | rfl := hdeed
      all_goals first | exact indebts | exact indebts.2.2.elim other.1 other.2
  wrap _ _ _ keeps := setToken_keepsDebt keeps
  made t pool pool' gateway msgSender call made _ other makes hthis _ success keeps := by
    subst hthis
    exact (Call.exec_deeds success).invariant _
      (fun _ _ _ hdeed holds did => did.keepsDebt (makes.indebts_nobody_else other hdeed) holds)
      keeps
  pulled _ _ _ _ _ _ _ other pulls success keeps :=
    (Call.exec_deeds success).invariant _ (fun _ _ _ hdeed holds did =>
      did.keepsDebt (pulled_spares pulls other hdeed).2 holds) keeps

variable {g g' : OwnedGateway}

/-- Carol owns the gateway that alice has approved and delegated credit to. -/
def trustedGateway : OwnedGateway where
  owner := Market.carol
  gateway := freshGateway.setPool (Market.endState (Market.setup 1000 ++
    [(1, Market.alice, .deposit Market.weth (10 ^ 20) Market.alice),
      (2, Market.alice, .elTokenApprove Market.weth 50 (10 ^ 30)),
      (2, Market.alice, .approveVariableDelegation Market.weth 50 (10 ^ 30))]))

/-- A pool of bob's that names the elToken of weth as its own. -/
def bobsPool : ForeignPool where
  lWETH _ := .ok (.elToken Market.weth)
  getUserCurrentDebtMemory _ := .ok (0, 0)
  execute g := .ok g

end ElectroLend
