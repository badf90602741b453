import ElectroLend.Library.Runs
import ElectroLend.Tokens.StableDebtToken

namespace ElectroLend

open Outcome

inductive StableCall
  | mint (user onBehalfOf : Address) (amount rate : Nat)
  | burn (user : Address) (amount : Nat)

/-- What `rayMul` makes of a rate and an amount of wad precision. -/
def rateMass (rate amount : Nat) : Nat := halfUp (rate * amount) WAD

theorem rayMul_wadToRay {rate amount inRay mass : Nat} (hin : wadToRay amount = .ok inRay)
    (hm : rayMul rate inRay = .ok mass) : rateMass rate amount = mass := by
  obtain ⟨_, rfl⟩ := wadToRay_eq_ok.mp hin
  obtain ⟨_, rfl⟩ := rayMul_eq_ok.mp hm
  unfold rateMass
  rw [← Nat.mul_assoc]
  have ray : RAY = WAD * WAD_RAY_RATIO := by decide
  rw [ray]
  exact (HalfUp.mul_right_cancel (by decide) (by decide) _).symm

theorem weightedRate_eq_ok {rate balance newRate amount total average : Nat}
    (h : weightedRate rate balance newRate amount total = .ok average) :
    0 < total ∧ average = halfUp ((rateMass rate balance + rateMass newRate amount) * RAY)
      (total * WAD_RAY_RATIO) := by
  simp only [weightedRate, bind_eq_ok, SafeMath.add_eq_ok] at h
  obtain ⟨_, hb, _, hfirst, _, ha, _, hsecond, _, ⟨_, rfl⟩, _, ht, h⟩ := h
  obtain ⟨_, rfl⟩ := wadToRay_eq_ok.mp ht
  obtain ⟨⟨hne, _⟩, rfl⟩ := rayDiv_eq_ok.mp h
  rw [rayMul_wadToRay hb hfirst, rayMul_wadToRay ha hsecond]
  exact ⟨Nat.pos_of_ne_zero fun hz => hne (by rw [hz, Nat.zero_mul]), rfl⟩

namespace StableDebtToken

variable {token token' : StableDebtToken} {supply userRate amount average next : Nat}

/-- The two branches of `burn` that reset the supply and the average rate. -/
def BurnResets (token : StableDebtToken) (supply userRate amount : Nat) : Prop :=
  supply ≤ amount ∨ rateMass token.avgStableRate supply ≤ rateMass userRate amount

theorem supplyAfterBurn_eq_ok
    (h : token.supplyAfterBurn supply userRate amount = .ok (average, next)) :
    (token.BurnResets supply userRate amount ∧ average = 0 ∧ next = 0) ∨
      (¬token.BurnResets supply userRate amount ∧ next = supply - amount ∧
        average = halfUp ((rateMass token.avgStableRate supply - rateMass userRate amount) * RAY)
          ((supply - amount) * WAD_RAY_RATIO)) := by
  simp only [supplyAfterBurn, bind_eq_ok, ite_eq_ok, SafeMath.sub_eq_ok, pure_eq_ok,
    Except.ok.injEq, Prod.mk.injEq] at h
  obtain ⟨hle, rfl, rfl⟩ | ⟨hlt, _, ⟨_, rfl⟩, _, hs, _, hfirst, _, ha, _, hsecond, h⟩ := h
  · exact .inl ⟨.inl hle, rfl, rfl⟩
  · rw [BurnResets, rayMul_wadToRay hs hfirst, rayMul_wadToRay ha hsecond]
    obtain ⟨hle, rfl, rfl⟩ | ⟨hlt', _, ⟨_, rfl⟩, _, hn, _, hd, rfl, rfl⟩ := h
    · exact .inl ⟨.inr hle, rfl, rfl⟩
    · obtain ⟨_, rfl⟩ := wadToRay_eq_ok.mp hn
      obtain ⟨_, rfl⟩ := rayDiv_eq_ok.mp hd
      refine .inr ⟨?_, rfl, rfl⟩
      intro resets
      obtain hle | hle := resets
      · exact hlt hle
      · exact hlt' hle

def exec (token : StableDebtToken) (blockTimestamp : Nat) : StableCall → Result StableDebtToken
  | .mint user onBehalfOf amount rate => do
    let (_, token) ← token.mint blockTimestamp user onBehalfOf amount rate
    pure token
  | .burn user amount => token.burn blockTimestamp user amount

theorem exec_mint_eq_ok {t rate : Nat} {user u : Address}
    (h : token.exec t (.mint user u amount rate) = .ok token') :
    ∃ first, token.mint t user u amount rate = .ok (first, token') := by
  simp only [exec, bind_eq_ok, pure_eq_ok] at h
  obtain ⟨⟨first, _⟩, hm, rfl⟩ := h
  exact ⟨first, hm⟩

/-- Borrowers set their allowances as they like between the calls of the pool. -/
def withAllowances (token : StableDebtToken) (allowances : Address → Address → Nat) :
    StableDebtToken :=
  { token with borrowAllowances := allowances }

/-- Which calls a run may make: by the number of calls before, the time, the token and the call. -/
abbrev CallGuard := Nat → Nat → StableDebtToken → StableCall → Prop

/-- One call, at a time not before that of the last one. -/
def CallStep (allowed : CallGuard) (k : Nat) (s s' : StableDebtToken × Nat) : Prop :=
  s.2 ≤ s'.2 ∧ ∃ allowances call, allowed k s'.2 s.1 call ∧
    (s.1.withAllowances allowances).exec s'.2 call = .ok s'.1

/-- The token after `n` calls on the empty one, the last of them at time `t`. -/
def After (allowed : CallGuard) (n t : Nat) (token : StableDebtToken) : Prop :=
  Runs.Steps (CallStep allowed) (empty, 0) n (token, t)

theorem After.invariant {allowed : CallGuard} (P : Nat → StableDebtToken → Prop)
    (start : P 0 empty)
    (next : ∀ k t token allowances call token', P k token → allowed k t token call →
      (token.withAllowances allowances).exec t call = .ok token' → P (k + 1) token')
    {n t : Nat} {token : StableDebtToken} (run : After allowed n t token) : P n token := by
  refine Runs.Steps.invariant (fun k s => P k s.1) start ?_ run
  intro k s s' hs hstep
  obtain ⟨_, allowances, call, hcall, hexec⟩ := hstep
  exact next k s'.2 s.1 allowances call s'.1 hs hcall hexec

theorem After.call {allowed : CallGuard} {n t t' : Nat} {call : StableCall}
    (run : After allowed n t token) (ht : t ≤ t') (hcall : allowed n t' token call)
    (h : token.exec t' call = .ok token') : After allowed (n + 1) t' token' :=
  .tail run ⟨ht, token.borrowAllowances, call, hcall, h⟩

end StableDebtToken

def stableScript (token : StableDebtToken) : List (Nat × StableCall) → Result StableDebtToken
  | [] => .ok token
  | (t, call) :: rest => do
    let token ← token.exec t call
    stableScript token rest

/-- Non-decreasing timestamps from `t` to `last`. -/
def callsOrdered (t last : Nat) : List (Nat × StableCall) → Bool
  | [] => decide (t = last)
  | (t', _) :: rest => decide (t ≤ t') && callsOrdered t' last rest

theorem StableDebtToken.After.script {allowed : CallGuard} {n t last : Nat}
    {token token' : StableDebtToken} {calls : List (Nat × StableCall)}
    (run : After allowed n t token) (ordered : callsOrdered t last calls = true)
    (guarded : ∀ c ∈ calls, ∀ k token, allowed k c.1 token c.2)
    (success : stableScript token calls = .ok token') :
    After allowed (n + calls.length) last token' := by
  induction calls generalizing n t token with
  | nil =>
    cases Except.ok.inj success
    cases of_decide_eq_true ordered
    exact run
  | cons first rest ih =>
    obtain ⟨t', call⟩ := first
    simp only [callsOrdered, Bool.and_eq_true, decide_eq_true_eq] at ordered
    simp only [stableScript, bind_eq_ok] at success
    obtain ⟨middle, hcall, hrest⟩ := success
    have step := run.call ordered.1 (guarded _ List.mem_cons_self n token) hcall
    rw [List.length_cons, Nat.add_comm rest.length, ← Nat.add_assoc]
    exact ih step ordered.2 (fun c hc => guarded c (List.mem_cons_of_mem _ hc)) hrest

end ElectroLend
