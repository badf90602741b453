import ElectroLend.Gateway.WETH9

namespace ElectroLend

open Outcome FiniteTotals

namespace WETH9

variable {weth weth' : WETH9} {msgSender : Address} {surplus value : Nat} {wad : BitVec 256}

/-- All balances together and the surplus are the ether that WETH holds, and there is less ether than
fits into a word. -/
structure Balanced (weth : WETH9) (surplus : Nat) : Prop where
  books : ∃ total, wordTotal weth.balanceOf total ∧ total + surplus = weth.ether weth.this
  ether : ∃ supply, SumsTo weth.ether supply ∧ supply < 2 ^ 256

/-- What a call leaves alone. -/
structure SameWorld (weth weth' : WETH9) : Prop where
  this : weth'.this = weth.this
  acceptsEther : weth'.acceptsEther = weth.acceptsEther

theorem Balanced.moved (balanced : weth.Balanced surplus) {sender recipient : Address}
    {ether : Address → Nat} (hmove : moveEther weth.ether sender recipient value = .ok ether) :
    ∃ supply, SumsTo ether supply ∧ supply < 2 ^ 256 := by
  obtain ⟨supply, hsum, fits⟩ := balanced.ether
  exact ⟨supply, moveEther_sums hsum hmove, fits⟩

theorem Balanced.deposit (balanced : weth.Balanced surplus) (outside : msgSender ≠ weth.this)
    (h : weth.deposit msgSender value = .ok weth') :
    weth'.Balanced surplus ∧ weth.SameWorld weth' := by
  obtain ⟨ether, hmove, hpure⟩ := bind_eq_ok.mp h
  obtain rfl := pure_eq_ok.mp hpure
  have after := balanced.moved hmove
  obtain ⟨covered, hether⟩ := (moveEther_eq_ok outside).mp hmove
  obtain ⟨total, hbooks, heq⟩ := balanced.books
  obtain ⟨supply, hsum, fits⟩ := balanced.ether
  have held : ether weth.this = weth.ether weth.this + value := by
    rw [← hether, Function.update_self]
  obtain ⟨supply', hsum', fits'⟩ := after
  have bound : ether weth.this ≤ supply' := hsum'.le_total weth.this
  have hvalue : (BitVec.ofNat 256 value).toNat = value := by
    rw [BitVec.toNat_ofNat, Nat.mod_eq_of_lt (by omega)]
  have added : wordTotal (Function.update weth.balanceOf msgSender
      (weth.balanceOf msgSender + BitVec.ofNat 256 value)) (total + value) := by
    have credited := wordTotal_add (a := msgSender) (x := BitVec.ofNat 256 value) hbooks
      (by rw [hvalue]; omega)
    rwa [hvalue] at credited
  refine ⟨⟨⟨total + value, added, ?_⟩, supply', hsum', fits'⟩, rfl, rfl⟩
  show total + value + surplus = ether weth.this
  omega

theorem withdraw_eq_ok (outside : msgSender ≠ weth.this) (balanced : weth.Balanced surplus) :
    weth.withdraw msgSender wad = .ok weth' ↔
      (wad ≤ weth.balanceOf msgSender ∧ weth.acceptsEther msgSender = true) ∧
      weth' = { weth with
        balanceOf := Function.update weth.balanceOf msgSender (weth.balanceOf msgSender - wad)
        ether := Function.update
          (Function.update weth.ether weth.this (weth.ether weth.this - wad.toNat)) msgSender
          (weth.ether msgSender + wad.toNat) } := by
  simp only [withdraw, bind_eq_ok, require_eq_ok, pure_eq_ok, exists_const]
  constructor
  · rintro ⟨covered, accepts, ether, hmove, rfl⟩
    obtain ⟨_, rfl⟩ := (moveEther_eq_ok outside.symm).mp hmove
    exact ⟨⟨covered, accepts⟩, rfl⟩
  · rintro ⟨⟨covered, accepts⟩, rfl⟩
    obtain ⟨total, hbooks, heq⟩ := balanced.books
    have held : wad.toNat ≤ weth.ether weth.this := by
      have hle := (wordTotal_sub hbooks covered).1
      omega
    exact ⟨covered, accepts, _, (moveEther_eq_ok outside.symm).mpr ⟨held, rfl⟩, rfl⟩

theorem Balanced.withdraw (balanced : weth.Balanced surplus) (outside : msgSender ≠ weth.this)
    (h : weth.withdraw msgSender wad = .ok weth') :
    weth'.Balanced surplus ∧ weth.SameWorld weth' := by
  obtain ⟨⟨covered, _⟩, rfl⟩ := (withdraw_eq_ok outside balanced).mp h
  obtain ⟨total, hbooks, heq⟩ := balanced.books
  obtain ⟨hle, debited⟩ := wordTotal_sub (a := msgSender) hbooks covered
  have hmove : moveEther weth.ether weth.this msgSender wad.toNat = .ok _ :=
    (moveEther_eq_ok outside.symm).mpr ⟨by omega, rfl⟩
  refine ⟨⟨⟨total - wad.toNat, debited, ?_⟩, balanced.moved hmove⟩, rfl, rfl⟩
  simp only [Function.update_of_ne outside.symm, Function.update_self]
  omega

theorem Balanced.transferFrom (balanced : weth.Balanced surplus) {src dst : Address}
    (h : weth.transferFrom msgSender src dst wad = .ok weth') :
    weth'.Balanced surplus ∧ weth.SameWorld weth' := by
  simp only [WETH9.transferFrom, bind_eq_ok, require_eq_ok, pure_eq_ok] at h
  obtain ⟨_, covered, spent, hspend, rfl⟩ := h
  obtain ⟨allowance, rfl⟩ : ∃ allowance, spent = { weth with allowance } := by
    unfold spendAllowance at hspend
    obtain ⟨_, hspend⟩ | ⟨_, hspend⟩ := ite_eq_ok.mp hspend
    · obtain ⟨_, _, hpure⟩ := bind_eq_ok.mp hspend
      exact ⟨_, (pure_eq_ok.mp hpure).symm⟩
    · exact ⟨weth.allowance, (Except.ok.inj hspend).symm⟩
  obtain ⟨total, hbooks, heq⟩ := balanced.books
  obtain ⟨supply, hsum, fits⟩ := balanced.ether
  have bound : weth.ether weth.this ≤ supply := hsum.le_total weth.this
  obtain ⟨hle, debited⟩ := wordTotal_sub (a := src) hbooks covered
  have credited := wordTotal_add (a := dst) (x := wad) debited (by omega)
  rw [Nat.sub_add_cancel hle] at credited
  exact ⟨⟨⟨total, credited, heq⟩, supply, hsum, fits⟩, rfl, rfl⟩

/-- A call keeps the books, and what it forces upon WETH is surplus. -/
theorem Balanced.exec (balanced : weth.Balanced surplus) (outside : msgSender ≠ weth.this)
    {call : WETHCall} (h : weth.exec msgSender call = .ok weth') :
    weth'.Balanced (surplus + call.forces weth.this) ∧ weth.SameWorld weth' := by
  cases call with
  | deposit msgValue => exact balanced.deposit outside h
  | withdraw wad => exact balanced.withdraw outside h
  | approve guy wad =>
    cases Except.ok.inj h
    exact ⟨⟨balanced.books, balanced.ether⟩, rfl, rfl⟩
  | transfer dst wad => exact balanced.transferFrom h
  | transferFrom src dst wad => exact balanced.transferFrom h
  | send recipient value =>
    obtain ⟨_, hdeposit⟩ | ⟨hne, hsend⟩ := ite_eq_ok.mp h
    · exact balanced.deposit outside hdeposit
    · obtain ⟨_, _, hmoved⟩ := bind_eq_ok.mp hsend
      obtain ⟨ether, hmove, hpure⟩ := bind_eq_ok.mp hmoved
      obtain rfl := pure_eq_ok.mp hpure
      obtain ⟨total, hbooks, heq⟩ := balanced.books
      have same : ether weth.this = weth.ether weth.this := by
        simp only [moveEther, bind_eq_ok, require_eq_ok, pure_eq_ok] at hmove
        obtain ⟨_, _, rfl⟩ := hmove
        rw [Function.update_of_ne (Ne.symm hne), Function.update_of_ne outside.symm]
      exact ⟨⟨⟨total, hbooks, heq.trans same.symm⟩, balanced.moved hmove⟩, rfl, rfl⟩
  | force recipient value =>
    obtain ⟨ether, hmove, hpure⟩ := bind_eq_ok.mp h
    obtain rfl := pure_eq_ok.mp hpure
    obtain ⟨total, hbooks, heq⟩ := balanced.books
    have held : ether weth.this = weth.ether weth.this + if recipient = weth.this then value else 0 := by
      simp only [moveEther, bind_eq_ok, require_eq_ok, pure_eq_ok] at hmove
      obtain ⟨_, _, rfl⟩ := hmove
      by_cases hr : weth.this = recipient
      · subst hr
        simp [outside.symm]
      · simp [hr, Ne.symm hr, outside.symm]
    refine ⟨⟨⟨total, hbooks, ?_⟩, balanced.moved hmove⟩, rfl, rfl⟩
    show total + (surplus + if recipient = weth.this then value else 0) = ether weth.this
    omega

theorem Balanced.history {calls : List (Address × WETHCall)} (balanced : weth.Balanced surplus)
    (outside : ∀ entry ∈ calls, entry.1 ≠ weth.this) :
    (weth.history calls).Balanced (surplus + weth.forced calls) ∧
      weth.SameWorld (weth.history calls) := by
  induction calls generalizing weth surplus with
  | nil => exact ⟨balanced, rfl, rfl⟩
  | cons first rest ih =>
    obtain ⟨msgSender, call⟩ := first
    have others := fun entry hentry => outside entry (List.mem_cons_of_mem _ hentry)
    cases hexec : weth.exec msgSender call with
    | error e =>
      simp only [WETH9.history, forced, hexec]
      exact ih balanced others
    | ok next =>
      obtain ⟨after, same⟩ := balanced.exec (outside _ List.mem_cons_self) hexec
      have others' : ∀ entry ∈ rest, entry.1 ≠ next.this := by
        rw [same.this]
        exact others
      obtain ⟨final, world⟩ := ih after others'
      simp only [WETH9.history, forced, hexec]
      rw [← Nat.add_assoc]
      exact ⟨final, world.this.trans same.this, world.acceptsEther.trans same.acceptsEther⟩

variable {this : Address} {ether : Address → Nat} {acceptsEther : Address → Bool} {supply : Nat}

theorem deployed_balanced (finite : SumsTo ether supply) (fits : supply < 2 ^ 256) :
    (deployed this ether acceptsEther).Balanced (ether this) :=
  ⟨⟨0, SumsTo.zero, Nat.zero_add _⟩, supply, finite, fits⟩

/-- Whatever is called, and although no addition is checked: the balances of all accounts, the ether
that was there at the deployment and the ether that was forced upon WETH add up to `totalSupply`. -/
theorem balances_add_up {calls : List (Address × WETHCall)} (finite : SumsTo ether supply)
    (fits : supply < 2 ^ 256) (outside : ∀ entry ∈ calls, entry.1 ≠ this) :
    ∃ total, wordTotal ((deployed this ether acceptsEther).history calls).balanceOf total ∧
      total + ether this + (deployed this ether acceptsEther).forced calls =
        ((deployed this ether acceptsEther).history calls).totalSupply := by
  obtain ⟨balanced, _⟩ := (deployed_balanced finite fits).history outside
  obtain ⟨total, hbooks, heq⟩ := balanced.books
  exact ⟨total, hbooks, by rw [Nat.add_assoc]; exact heq⟩

/-- 100 wei, with the account 10. -/
def someEther : Address → Nat := Function.update (fun _ => 0) 10 100

theorem someEther_sums : SumsTo someEther 100 := SumsTo.zero.update rfl

/-- 10 wraps 40, hands 25 of it to 11 and forces 2 wei upon WETH; 11 unwraps 5. -/
def someCalls : List (Address × WETHCall) :=
  [(10, .deposit 40), (10, .transfer 11 25), (10, .force 1 2), (11, .withdraw 5)]

theorem someCalls_add_up :
    ∃ total, wordTotal ((deployed 1 someEther fun _ => true).history someCalls).balanceOf total ∧
      total + someEther 1 + (deployed 1 someEther fun _ => true).forced someCalls =
        ((deployed 1 someEther fun _ => true).history someCalls).totalSupply :=
  balances_add_up someEther_sums (by decide) (by simp [someCalls])

/-- Everybody in turn withdraws all that he has. -/
def redeemAll (weth : WETH9) : List Address → Result WETH9
  | [] => .ok weth
  | holder :: rest => do
    let weth ← weth.withdraw holder (weth.balanceOf holder)
    redeemAll weth rest

theorem Balanced.redeemAll {holders : List Address} (balanced : weth.Balanced surplus)
    (distinct : holders.Nodup) (outside : ∀ holder ∈ holders, holder ≠ weth.this)
    (accepts : ∀ holder ∈ holders, weth.acceptsEther holder = true) :
    ∃ weth', weth.redeemAll holders = .ok weth' ∧
      (∀ holder ∈ holders, weth'.ether holder =
        weth.ether holder + (weth.balanceOf holder).toNat) ∧
      ∀ a, a ∉ holders → a ≠ weth.this → weth'.ether a = weth.ether a := by
  induction holders generalizing weth with
  | nil => exact ⟨weth, rfl, by simp, fun _ _ _ => rfl⟩
  | cons first rest ih =>
    obtain ⟨notIn, distinct'⟩ := List.nodup_cons.mp distinct
    have first_outside := outside first List.mem_cons_self
    have hwithdraw : weth.withdraw first (weth.balanceOf first) = .ok _ :=
      (withdraw_eq_ok first_outside balanced).mpr
        ⟨⟨BitVec.le_refl _, accepts first List.mem_cons_self⟩, rfl⟩
    obtain ⟨balanced', world⟩ := balanced.withdraw first_outside hwithdraw
    obtain ⟨final, hfinal, paid, others⟩ := ih balanced' distinct'
      (fun holder hholder => outside holder (List.mem_cons_of_mem _ hholder))
      (fun holder hholder => accepts holder (List.mem_cons_of_mem _ hholder))
    refine ⟨final, bind_eq_ok.mpr ⟨_, hwithdraw, hfinal⟩, ?_, ?_⟩
    · intro holder hholder
      obtain rfl | hrest := List.mem_cons.mp hholder
      · rw [others holder notIn first_outside]
        exact Function.update_self _ _ _
      · have hne : holder ≠ first := by
          rintro rfl
          exact notIn hrest
        have hthis := outside holder hholder
        rw [paid holder hrest]
        simp [hne, hthis]
    · intro a ha hthis
      obtain ⟨hne, hrest⟩ := List.ne_and_not_mem_of_not_mem_cons ha
      rw [others a hrest hthis]
      simp [hne, hthis]

/-- After any history, any accounts that take ether can withdraw all they have, one after the other in
any order, and each gets exactly that. -/
theorem everybody_can_redeem {calls : List (Address × WETHCall)} (finite : SumsTo ether supply)
    (fits : supply < 2 ^ 256) (outside : ∀ entry ∈ calls, entry.1 ≠ this) {holders : List Address}
    (distinct : holders.Nodup) (others : ∀ holder ∈ holders, holder ≠ this)
    (accepts : ∀ holder ∈ holders, acceptsEther holder = true) :
    ∃ weth', ((deployed this ether acceptsEther).history calls).redeemAll holders = .ok weth' ∧
      ∀ holder ∈ holders, weth'.ether holder =
        ((deployed this ether acceptsEther).history calls).ether holder +
          (((deployed this ether acceptsEther).history calls).balanceOf holder).toNat := by
  obtain ⟨balanced, world⟩ :=
    (deployed_balanced finite fits).history outside
  obtain ⟨weth', hredeem, paid, _⟩ := balanced.redeemAll distinct
    (by rw [world.this]; exact others) (by rw [world.acceptsEther]; exact accepts)
  exact ⟨weth', hredeem, paid⟩

theorem someCalls_redeemed :
    ∃ weth', ((deployed 1 someEther fun _ => true).history someCalls).redeemAll [11, 10] =
        .ok weth' ∧
      ∀ holder ∈ [11, 10], weth'.ether holder =
        ((deployed 1 someEther fun _ => true).history someCalls).ether holder +
          (((deployed 1 someEther fun _ => true).history someCalls).balanceOf holder).toNat :=
  everybody_can_redeem someEther_sums (by decide) (by simp [someCalls]) (by decide) (by decide)
    (by simp)

end WETH9

end ElectroLend
