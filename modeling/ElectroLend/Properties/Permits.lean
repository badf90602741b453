import ElectroLend.Pool.Scripts
import ElectroLend.Properties.AllowanceSpending

namespace ElectroLend

open Outcome LendingPool

/-- The permits that elTokens have accepted. -/
def permits (events : List AllowanceEvent) : List (Address × PermitMessage) :=
  events.filterMap fun
    | .permitted asset message => some (asset, message)
    | _ => none

/-- The nonces of an owner that an elToken has accepted, in order. -/
def noncesUsed (asset owner : Address) (events : List AllowanceEvent) : List Nat :=
  ((permits events).filter fun p => p.1 = asset ∧ p.2.owner = owner).map (·.2.nonce)

section Order

variable {asset u c : Address} {past events : List AllowanceEvent} {pool pool' : LendingPool}
  {t : Nat} {s s' : SignedPool} {chain : Chain}

theorem permits_append : permits (past ++ events) = permits past ++ permits events :=
  List.filterMap_append

theorem Call.permits_allowanceEvents (msgSender : Address) (call : Call) :
    permits (call.allowanceEvents msgSender) = [] := by
  cases call <;> rfl

theorem noncesUsed_append {owner : Address} :
    noncesUsed asset owner (past ++ events) =
      noncesUsed asset owner past ++ noncesUsed asset owner events := by
  simp [noncesUsed, permits_append]

theorem noncesUsed_permitted {message : PermitMessage} :
    noncesUsed asset message.owner (past ++ [.permitted asset message]) =
      noncesUsed asset message.owner past ++ [message.nonce] := by
  rw [noncesUsed_append]
  simp [noncesUsed, permits]

theorem noncesUsed_other {a owner : Address} {message : PermitMessage}
    (other : ¬(asset = a ∧ owner = message.owner)) :
    noncesUsed asset owner (past ++ [.permitted a message]) = noncesUsed asset owner past := by
  have other' : ¬(a = asset ∧ message.owner = owner) := fun h => other ⟨h.1.symm, h.2.symm⟩
  rw [noncesUsed_append]
  simp [noncesUsed, permits, other']

/-- The domain of an elToken, by where it lives. -/
def Chain.domain (chain : Chain) (asset elTokenAddress : Address) : PermitDomain :=
  ⟨chain.elTokenName asset, "1", chain.chainId, elTokenAddress⟩

/-- Every accepted permit was signed for its elToken, and each elToken has taken the nonces of each
owner in order. -/
structure SignedPool.InOrder (chain : Chain) (events : List AllowanceEvent) (s : SignedPool) : Prop where
  listed : ∀ p ∈ permits events, (s.lendingPool.reserves p.1).elTokenAddress ≠ 0
  signed : ∀ p ∈ permits events, p.2.owner ≠ 0 ∧
    ∃ signature, chain.ecrecover (chain.digest p.2) signature = p.2.owner
  domain : ∀ p ∈ permits events,
    p.2.domain = chain.domain p.1 (s.lendingPool.reserves p.1).elTokenAddress
  separator : ∀ asset, (s.lendingPool.reserves asset).elTokenAddress ≠ 0 →
    (s.storage asset).domainSeparator =
      chain.domain asset (s.lendingPool.reserves asset).elTokenAddress
  next : ∀ asset owner, (s.lendingPool.reserves asset).elTokenAddress ≠ 0 →
    (s.storage asset).nonces owner = wrap (noncesUsed asset owner events).length
  order : ∀ asset owner, noncesUsed asset owner events =
    (List.range (noncesUsed asset owner events).length).map wrap

namespace SignedPool.InOrder

/-- What neither moves an elToken nor uses a permit keeps the order. -/
theorem frame (inv : s.InOrder chain past) (none : permits events = [])
    (address : ∀ asset, (s'.lendingPool.reserves asset).elTokenAddress =
      (s.lendingPool.reserves asset).elTokenAddress)
    (storage : s'.storage = s.storage) : s'.InOrder chain (past ++ events) := by
  have same : permits (past ++ events) = permits past := by
    rw [permits_append, none, List.append_nil]
  have sameNonces : ∀ asset owner, noncesUsed asset owner (past ++ events) =
      noncesUsed asset owner past := fun asset owner => by
    unfold noncesUsed
    rw [same]
  constructor
  · intro p hp
    rw [address]
    exact inv.listed p (same ▸ hp)
  · intro p hp
    exact inv.signed p (same ▸ hp)
  · intro p hp
    rw [address]
    exact inv.domain p (same ▸ hp)
  · intro a ha
    rw [storage, address]
    exact inv.separator a (address a ▸ ha)
  · intro a owner ha
    rw [storage, sameNonces]
    exact inv.next a owner (address a ▸ ha)
  · intro a owner
    rw [sameNonces]
    exact inv.order a owner

theorem unused (inv : s.InOrder chain past)
    (new : (s.lendingPool.reserves asset).elTokenAddress = 0) (owner : Address) :
    noncesUsed asset owner past = [] := by
  have nobody : (permits past).filter (fun p => p.1 = asset ∧ p.2.owner = owner) = [] := by
    rw [List.filter_eq_nil_iff]
    intro p hp
    have elsewhere : p.1 ≠ asset := by
      rintro rfl
      exact inv.listed p hp new
    simp [elsewhere]
  unfold noncesUsed
  rw [nobody, List.map_nil]

theorem list (inv : s.InOrder chain past) {input : InitReserveInput}
    (h : s.lendingPool.listReserve input = .ok pool') :
    (s.afterCall chain pool' (.listReserve input)).InOrder chain past := by
  obtain ⟨new, id, configuration, hreserves⟩ := listReserve_reserves h
  have others : ∀ asset, asset ≠ input.underlyingAsset →
      (pool'.reserves asset).elTokenAddress = (s.lendingPool.reserves asset).elTokenAddress := by
    intro asset ha
    rw [hreserves, Function.update_of_ne ha]
  have listed : (pool'.reserves input.underlyingAsset).elTokenAddress = input.elTokenAddress := by
    rw [hreserves, Function.update_self]
    rfl
  have elsewhere : ∀ p ∈ permits past, p.1 ≠ input.underlyingAsset := by
    intro p hp ha
    exact inv.listed p hp (ha ▸ new)
  constructor
  · intro p hp
    show (pool'.reserves p.1).elTokenAddress ≠ 0
    rw [others _ (elsewhere p hp)]
    exact inv.listed p hp
  · exact inv.signed
  · intro p hp
    show p.2.domain = chain.domain p.1 (pool'.reserves p.1).elTokenAddress
    rw [others _ (elsewhere p hp)]
    exact inv.domain p hp
  · intro a (ha : (pool'.reserves a).elTokenAddress ≠ 0)
    show (Function.update s.storage _ _ a).domainSeparator =
      chain.domain a (pool'.reserves a).elTokenAddress
    by_cases hasset : a = input.underlyingAsset
    · subst hasset
      rw [Function.update_self, listed]
      rfl
    · rw [others a hasset] at ha ⊢
      rw [Function.update_of_ne hasset]
      exact inv.separator a ha
  · intro a owner (ha : (pool'.reserves a).elTokenAddress ≠ 0)
    show (Function.update s.storage _ _ a).nonces owner = _
    by_cases hasset : a = input.underlyingAsset
    · subst hasset
      rw [Function.update_self, inv.unused new]
      rfl
    · rw [others a hasset] at ha
      rw [Function.update_of_ne hasset]
      exact inv.next a owner ha
  · exact inv.order

/-- A permit takes the next nonce of its owner. -/
theorem permit (inv : s.InOrder chain past) {a : Address} {message : PermitMessage}
    (listed : (s.lendingPool.reserves a).elTokenAddress ≠ 0)
    (address : ∀ asset, (s'.lendingPool.reserves asset).elTokenAddress =
      (s.lendingPool.reserves asset).elTokenAddress)
    (domain : message.domain = (s.storage a).domainSeparator)
    (nonce : message.nonce = (s.storage a).nonces message.owner) (owner : message.owner ≠ 0)
    (signed : ∃ signature, chain.ecrecover (chain.digest message) signature = message.owner)
    (storage : s'.storage = Function.update s.storage a { s.storage a with
      nonces := Function.update (s.storage a).nonces message.owner
        (wrap ((s.storage a).nonces message.owner + 1)) }) :
    s'.InOrder chain (past ++ [.permitted a message]) := by
  have mem : ∀ p ∈ permits (past ++ [.permitted a message]), p ∈ permits past ∨ p = (a, message) := by
    intro p hp
    rw [permits_append] at hp
    exact (List.mem_append.mp hp).imp_right List.mem_singleton.mp
  constructor
  · intro p hp
    rw [address]
    obtain hp | rfl := mem p hp
    · exact inv.listed p hp
    · exact listed
  · intro p hp
    obtain hp | rfl := mem p hp
    · exact inv.signed p hp
    · exact ⟨owner, signed⟩
  · intro p hp
    rw [address]
    obtain hp | rfl := mem p hp
    · exact inv.domain p hp
    · exact domain.trans (inv.separator a listed)
  · intro asset ha
    rw [address] at ha ⊢
    rw [storage, ← inv.separator asset ha]
    by_cases hasset : asset = a
    · subst hasset
      rw [Function.update_self]
    · rw [Function.update_of_ne hasset]
  · intro asset u ha
    rw [address] at ha
    rw [storage]
    by_cases hpair : asset = a ∧ u = message.owner
    · obtain ⟨rfl, rfl⟩ := hpair
      rw [noncesUsed_permitted, List.length_append, List.length_singleton, Function.update_self]
      dsimp only
      rw [Function.update_self, inv.next _ _ ha]
      simp [wrap]
    · rw [noncesUsed_other hpair, ← inv.next asset u ha]
      by_cases hasset : asset = a
      · subst hasset
        rw [Function.update_self]
        dsimp only
        rw [Function.update_of_ne (fun hu => hpair ⟨rfl, hu⟩)]
      · rw [Function.update_of_ne hasset]
  · intro asset u
    by_cases hpair : asset = a ∧ u = message.owner
    · obtain ⟨rfl, rfl⟩ := hpair
      rw [noncesUsed_permitted, List.length_append, List.length_singleton, List.range_succ,
        List.map_append, ← inv.order, nonce, inv.next _ _ listed, List.map_singleton]
    · rw [noncesUsed_other hpair]
      exact inv.order asset u

end SignedPool.InOrder

theorem inOrder_invariant (chain : Chain) : SignedInvariant chain fun events s =>
    s.InOrder chain events where
  call t past s pool' msgSender call inv success := by
    by_cases hcall : ∃ input, call = .listReserve input
    · obtain ⟨input, rfl⟩ := hcall
      show (s.afterCall chain pool' (.listReserve input)).InOrder chain (past ++ [])
      rw [List.append_nil]
      exact inv.list success
    · have hlist : ∀ input, call ≠ .listReserve input := fun input he => hcall ⟨input, he⟩
      refine inv.frame (Call.permits_allowanceEvents msgSender call) ?_ ?_
      · intro asset
        rw [SignedPool.afterCall_lendingPool]
        exact ((Call.exec_listFrame hlist success).reserve asset).elToken
      · cases call with
        | listReserve input => exact absurd rfl (hlist input)
        | _ => rfl
  allowance t past s s' msgSender call inv success := by
    obtain ⟨a, owner, spender, amount, elToken, listed, _, hpool, hcase⟩ :=
      SignedPool.exec_eq_ok success
    have address : ∀ asset, (s'.lendingPool.reserves asset).elTokenAddress =
        (s.lendingPool.reserves asset).elTokenAddress := by
      intro asset
      rw [hpool, SignedPool.setELToken]
      by_cases ha : asset = a
      · subst ha
        simp
      · simp [ha]
    obtain ⟨message, hevents, domain, rfl, _, _, nonce, howner, _, signed, storage⟩ |
      ⟨storage, ⟨hevents, _⟩ | ⟨added, hevents, _⟩⟩ := hcase
    · rw [hevents]
      exact inv.permit listed address domain nonce howner signed storage
    · rw [hevents]
      exact inv.frame rfl address storage
    · rw [hevents]
      exact inv.frame rfl address storage
  send past s pool' receiver loans entries inv sending := by
    have kept : SignedPool.InOrder chain (past ++ []) { s with lendingPool := pool' } := by
      refine inv.frame rfl (fun asset => ?_) rfl
      exact ((sendFlashLoan_debtFrame sending).listing.reserve asset).elToken
    rwa [List.append_nil] at kept
  settle t past s pool' msgSender receiver onBehalfOf entries modes inv settling := by
    have kept : SignedPool.InOrder chain (past ++ []) { s with lendingPool := pool' } := by
      refine inv.frame rfl (fun asset => ?_) rfl
      exact ((settleFlashLoan_listFrame settling).reserve asset).elToken
    rwa [List.append_nil] at kept

theorem SignedHistory.inOrder {rules : Rules} (history : SignedHistory chain rules t events s) :
    s.InOrder chain events := by
  refine (inOrder_invariant chain).history ?_ history
  intro this tokens priceOracle lendingRateOracle isContract storage
  exact ⟨by simp [permits], by simp [permits], by simp [permits], fun _ h => (h rfl).elim,
    fun _ _ h => (h rfl).elim, fun _ _ => rfl⟩

theorem wrap_nodup {n : Nat} (few : n ≤ 2 ^ 256) : ((List.range n).map wrap).Nodup := by
  refine List.Nodup.map_on ?_ List.nodup_range
  intro i hi j hj hij
  have hi' := List.mem_range.mp hi
  have hj' := List.mem_range.mp hj
  unfold wrap at hij
  rwa [Nat.mod_eq_of_lt (by omega), Nat.mod_eq_of_lt (by omega)] at hij

/-- A permit that is accepted twice would take its nonce twice. -/
theorem SignedPool.InOrder.nodup (inv : s.InOrder chain events)
    (few : (permits events).length ≤ 2 ^ 256) : (permits events).Nodup := by
  rw [List.nodup_iff_count_le_one]
  intro p
  have bound : (noncesUsed p.1 p.2.owner events).length ≤ 2 ^ 256 := by
    rw [noncesUsed, List.length_map]
    exact (List.length_filter_le _ _).trans few
  have once : (noncesUsed p.1 p.2.owner events).Nodup := by
    rw [inv.order]
    exact wrap_nodup bound
  calc (permits events).count p
      = ((permits events).filter fun q => q.1 = p.1 ∧ q.2.owner = p.2.owner).count p := by
        rw [List.count_filter (by simp)]
    _ ≤ (noncesUsed p.1 p.2.owner events).count p.2.nonce :=
        List.count_le_count_map (f := fun q : Address × PermitMessage => q.2.nonce) (x := p)
    _ ≤ 1 := List.nodup_iff_count_le_one.mp once _

/-- No elToken accepts a permit twice, and every permit that it accepts was signed by its owner for
this elToken on this chain. -/
theorem permits_used_once {rules : Rules} (history : SignedHistory chain rules t events s)
    (few : (permits events).length ≤ 2 ^ 256) :
    (permits events).Nodup ∧ ∀ p ∈ permits events, p.2.owner ≠ 0 ∧
      (∃ signature, chain.ecrecover (chain.digest p.2) signature = p.2.owner) ∧
      p.2.domain = chain.domain p.1 (s.lendingPool.reserves p.1).elTokenAddress :=
  ⟨history.inOrder.nodup few, fun p hp => ⟨(history.inOrder.signed p hp).1,
    (history.inOrder.signed p hp).2, history.inOrder.domain p hp⟩⟩

/-- The permits of `u` for `c` that an elToken has accepted. -/
def permitsFor (asset u c : Address) (events : List AllowanceEvent) : List PermitMessage :=
  ((permits events).filter fun p => p.1 = asset ∧ p.2.owner = u ∧ p.2.spender = c).map (·.2)

theorem mem_permitsFor {message : PermitMessage} : message ∈ permitsFor asset u c events ↔
    (asset, message) ∈ permits events ∧ message.owner = u ∧ message.spender = c := by
  simp only [permitsFor, List.mem_map, List.mem_filter, decide_eq_true_eq, Prod.exists]
  constructor
  · rintro ⟨a, m, ⟨hp, rfl, howner, hspender⟩, rfl⟩
    exact ⟨hp, howner, hspender⟩
  · rintro ⟨hp, howner, hspender⟩
    exact ⟨asset, message, ⟨hp, rfl, howner, hspender⟩, rfl⟩

/-- What an account allows a spender whom it never approves itself is in its permits. -/
theorem allowedIn_eq (silent : ∀ amount, .granted asset u c amount ∉ events) :
    allowedIn asset u c events = ((permitsFor asset u c events).map (·.value)).sum := by
  induction events with
  | nil => rfl
  | cons event events ih =>
    have rest := ih fun amount h => silent amount (List.mem_cons_of_mem _ h)
    have first : allowedIn asset u c (event :: events) =
      event.allowing asset u c + allowedIn asset u c events := by simp [allowedIn]
    rw [first, rest]
    cases event with
    | permitted a message =>
      by_cases hfor : a = asset ∧ message.owner = u ∧ message.spender = c
      · simp [permitsFor, permits, AllowanceEvent.allowing, hfor]
      · simp [permitsFor, permits, AllowanceEvent.allowing, hfor]
    | granted a owner spender amount =>
      have other : ¬(a = asset ∧ owner = u ∧ spender = c) := by
        rintro ⟨rfl, rfl, rfl⟩
        exact silent amount List.mem_cons_self
      simp [permitsFor, permits, AllowanceEvent.allowing, other]
    | spent a owner spender amount =>
      simp [permitsFor, permits, AllowanceEvent.allowing]

theorem SignedPool.InOrder.permitsFor_nodup (inv : s.InOrder chain events)
    (few : (permits events).length ≤ 2 ^ 256) : (permitsFor asset u c events).Nodup := by
  refine List.Nodup.map_on ?_ ((inv.nodup few).filter _)
  intro p hp q hq hpq
  simp only [List.mem_filter, decide_eq_true_eq] at hp hq
  exact Prod.ext (hp.2.1.trans hq.2.1.symm) hpq

/-- What a spender moves out of an account that never approves him itself is covered by messages that
it has signed for him, each counted once. -/
theorem spending_within_permits {rules : Rules} (history : SignedHistory chain rules t events s)
    (few : (permits events).length ≤ 2 ^ 256)
    (silent : ∀ amount, .granted asset u c amount ∉ events) :
    ∃ messages : List PermitMessage, messages.Nodup ∧
      (∀ message ∈ messages, message.owner = u ∧ message.spender = c ∧
        message.domain = chain.domain asset (s.lendingPool.reserves asset).elTokenAddress ∧
        ∃ signature, chain.ecrecover (chain.digest message) signature = u) ∧
      (s.lendingPool.reserves asset).elToken.allowances u c + spentIn asset u c events ≤
        (messages.map (·.value)).sum := by
  refine ⟨permitsFor asset u c events, history.inOrder.permitsFor_nodup few, ?_, ?_⟩
  · intro message hmessage
    obtain ⟨hp, rfl, rfl⟩ := mem_permitsFor.mp hmessage
    exact ⟨rfl, rfl, history.inOrder.domain _ hp, (history.inOrder.signed _ hp).2⟩
  · rw [← allowedIn_eq silent]
    exact history.spendsWithin

end Order

/-- A script of calls in one block, with what happens to the allowances. -/
def SignedPool.runSigned (chain : Chain) (t : Nat) (s : SignedPool) :
    List (Address × (Call ⊕ AllowanceCall)) → PermitResult (List AllowanceEvent × SignedPool)
  | [] => .ok ([], s)
  | (msgSender, .inl call) :: rest => do
    let pool' ← (call.exec t msgSender s.lendingPool).mapError .call
    let (events, s') ← SignedPool.runSigned chain t (s.afterCall chain pool' call) rest
    pure (call.allowanceEvents msgSender ++ events, s')
  | (msgSender, .inr call) :: rest => do
    let next ← s.exec chain t msgSender call
    let (events, s') ← SignedPool.runSigned chain t next rest
    pure (s.allowanceEvents msgSender call ++ events, s')

theorem SignedSteps.runSigned {chain : Chain} {t : Nat} {past events : List AllowanceEvent}
    {start s s' : SignedPool} {calls : List (Address × (Call ⊕ AllowanceCall))}
    (before : SignedSteps chain .any t past start s)
    (h : s.runSigned chain t calls = .ok (events, s')) :
    SignedSteps chain .any t (past ++ events) start s' := by
  induction calls generalizing s past events with
  | nil =>
    cases Except.ok.inj h
    rw [List.append_nil]
    exact before
  | cons first rest ih =>
    obtain ⟨msgSender, call | call⟩ := first
    · simp only [SignedPool.runSigned, bind_eq_ok, mapError_eq_ok, pure_eq_ok, Prod.exists,
        Prod.mk.injEq] at h
      obtain ⟨_, hcall, _, _, hrest, rfl, rfl⟩ := h
      rw [← List.append_assoc]
      exact ih (before.call msgSender call trivial hcall) hrest
    · simp only [SignedPool.runSigned, bind_eq_ok, pure_eq_ok, Prod.exists, Prod.mk.injEq] at h
      obtain ⟨_, hcall, _, _, hrest, rfl, rfl⟩ := h
      rw [← List.append_assoc]
      exact ih (before.allowance msgSender call hcall) hrest

/-- A chain on which `s` is the account that signed the digest `r`. -/
def plainChain : Chain where
  chainId := 1
  elTokenName _ := "ElectroLend interest bearing WETH"
  digest message := message.value + message.nonce
  ecrecover digest signature := if signature.r = digest then signature.s else 0

def undeployed : SignedPool := ⟨Market.genesis, fun _ => .initializer plainChain 0 0⟩

/-- Alice approves carol and signs a permit of five units for bob, who moves four of them. -/
def permittedCalls : List (Address × (Call ⊕ AllowanceCall)) :=
  [(Market.poolAddress, .inl (.listReserve (Market.listing Market.weth))),
    (Market.poolAddress, .inl (.setConfiguration Market.weth (Market.configuration 0))),
    (Market.alice, .inl (.deposit Market.weth 100 Market.alice)),
    (Market.alice, .inl (.elTokenApprove Market.weth Market.carol 7)),
    (Market.bob, .inr (.permit Market.weth Market.alice Market.bob 5 10 ⟨27, 5, Market.alice⟩)),
    (Market.bob, .inl (.elTokenTransferFrom Market.weth Market.alice Market.carol 4))]

theorem permittedCalls_history : ∃ events s, SignedHistory plainChain .any 0 events s ∧
    (permits events).length = 1 ∧ spentIn Market.weth Market.alice Market.bob events = 4 ∧
    ∀ amount, .granted Market.weth Market.alice Market.bob amount ∉ events := by
  have success : succeedsWith (undeployed.runSigned plainChain 0 permittedCalls) (fun result =>
      (permits result.1).length == 1 && spentIn Market.weth Market.alice Market.bob result.1 == 4 &&
        result.1.all fun | .granted _ _ c _ => c != Market.bob | _ => true) = true := by
    decide +kernel
  obtain ⟨⟨events, s⟩, hrun, htest⟩ := succeedsWith_iff.mp success
  simp only [Bool.and_eq_true, beq_iff_eq] at htest
  obtain ⟨⟨hpermits, hspent⟩, hsilent⟩ := htest
  have steps : SignedSteps plainChain .any 0 events undeployed s :=
    SignedSteps.runSigned (.refl undeployed) hrun
  have deployed : SignedHistory plainChain .any 0 [] undeployed := .start 0 _ _ _ _ _ _
  refine ⟨events, s, deployed.block (Nat.le_refl 0) (by decide) steps, hpermits, hspent, ?_⟩
  intro amount hmem
  cases List.all_eq_true.mp hsilent _ hmem

/-- Her one message covers what bob has moved and may still move. -/
theorem permittedCalls_within_permits : ∃ events s, SignedHistory plainChain .any 0 events s ∧
    spentIn Market.weth Market.alice Market.bob events = 4 ∧
    ∃ messages : List PermitMessage, messages.Nodup ∧
      (∀ message ∈ messages, message.owner = Market.alice ∧ message.spender = Market.bob ∧
        message.domain = plainChain.domain Market.weth
          (s.lendingPool.reserves Market.weth).elTokenAddress ∧
        ∃ signature, plainChain.ecrecover (plainChain.digest message) signature = Market.alice) ∧
      (s.lendingPool.reserves Market.weth).elToken.allowances Market.alice Market.bob +
        spentIn Market.weth Market.alice Market.bob events ≤ (messages.map (·.value)).sum := by
  obtain ⟨events, s, history, hpermits, hspent, hsilent⟩ := permittedCalls_history
  have few : (permits events).length ≤ 2 ^ 256 := by
    rw [hpermits]
    exact Nat.one_le_two_pow
  exact ⟨events, s, history, hspent, spending_within_permits history few hsilent⟩

theorem permittedCalls_used_once : ∃ events s, SignedHistory plainChain .any 0 events s ∧
    (permits events).length = 1 ∧ (permits events).Nodup ∧ ∀ p ∈ permits events, p.2.owner ≠ 0 ∧
      (∃ signature, plainChain.ecrecover (plainChain.digest p.2) signature = p.2.owner) ∧
      p.2.domain = plainChain.domain p.1 (s.lendingPool.reserves p.1).elTokenAddress := by
  obtain ⟨events, s, history, hpermits, _, _⟩ := permittedCalls_history
  have few : (permits events).length ≤ 2 ^ 256 := by
    rw [hpermits]
    exact Nat.one_le_two_pow
  exact ⟨events, s, history, hpermits, permits_used_once history few⟩

end ElectroLend
