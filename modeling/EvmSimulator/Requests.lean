import EvmSimulator.Fork

/-!
# At most one request per fact

The fork record is a cache over the remote source: each hook asks for a fact only when
the record does not cover it (`Interpreter.Covers`), and records what it is answered.
`RequestInv` is the invariant this gives the request log: the answered requests are
pairwise distinct, and the record covers each. A balance counts as covered once its
address's code is recorded, since the call hook returns before its balance top-up for a
recorded callee; the balance set itself gains an address only when the fetched balance
covers the call's value.

What a hook may do is said once (`HookStep`): the record keeps every entry
(`Interpreter.Keeps`); the requests it adds that the source answers are distinct, were
not covered before and leave their fact in the record after (`Interpreter.Holds`); the
balance set gains only addresses whose balance was answered; and it aborts only with a
panic. Every hook is such a step (`preDispatch_step`), so every hook keeps the invariant
(`preDispatch_preserves`), and every run does (`run_preserves`). From an empty log a
successful `Execute` returns a record its requests explain (`Explained`,
`execute_requests_recorded`). Every run also keeps each entry of the record it starts
from, so a successful `Execute` returns a record that keeps the one it was given
(`execute_record_keeps`), and so does a successful `Simulate`, across both passes
(`simulate_record_keeps`).

`Execute` starts from a record that may lack two facts `Simulate` asked for before it:
the sender's balance, which it marks, and the target's code, which it marks unless the
target exists, in which case the target's code is empty and nothing runs
(`execute_settled`). `simulate_requests_nodup` follows: a `Simulate` call in which
every request is answered asks for each fact at most once, across its checks and both
passes, however it ends.
-/

namespace EvmSimulator

/-- A client call that returned a value: it neither panicked nor returned an error. -/
def answered {α : Type} : Except Abort (Except String α) → Bool
  | .ok (.ok _) => true
  | _ => false

/-- Whether the remote source answers a request. -/
def Remote.answers (remote : Remote) : Request → Bool
  | .code a => answered (remote.code a)
  | .balance a => answered (remote.balance a)
  | .storage a slot => answered (remote.storageAt a slot)

/-- The record covers a request: no hook asks for it again. A code or a storage key is
covered once recorded. A balance is covered once its address is in the balance set, or
once its code is, since the call hook returns before its balance top-up for a callee
whose code is recorded. -/
def Interpreter.Covers (i : Interpreter) : Request → Prop
  | .code a => a ∈ i.addressCodeSet
  | .balance a => a ∈ i.addressCodeSet ∨ a ∈ i.addressBalanceSet
  | .storage a slot => i.addressStorageSet.recorded (a, slot)

/-- What an answered request leaves in the record: a code or a storage key, recorded; for
a balance, its address's code, which the call hook fetched just before. The balance set
gains the address only when the balance covers the call's value. -/
def Interpreter.Holds (i : Interpreter) : Request → Prop
  | .code a => a ∈ i.addressCodeSet
  | .balance a => a ∈ i.addressCodeSet
  | .storage a slot => i.addressStorageSet.recorded (a, slot)

theorem Interpreter.Holds.covers {i : Interpreter} : ∀ {q : Request}, i.Holds q → i.Covers q
  | .code _, h => h
  | .balance _, h => .inl h
  | .storage _ _, h => h

/-- `i'` keeps every entry of `i`'s sets, the fetched storage values included. -/
structure Interpreter.Keeps (i' i : Interpreter) : Prop where
  code : i.addressCodeSet ⊆ i'.addressCodeSet
  balance : i.addressBalanceSet ⊆ i'.addressBalanceSet
  storage : i.addressStorageSet ⊆ i'.addressStorageSet
  accessList : i.addressSlotAccessListSet ⊆ i'.addressSlotAccessListSet

/-- The answered requests of `log` are pairwise distinct and covered by `i`. -/
structure RequestInv (remote : Remote) (log : List Request) (i : Interpreter) : Prop where
  nodup : (log.filter remote.answers).Nodup
  covered : ∀ q ∈ log, remote.answers q → i.Covers q

/-- The record as the answered requests of `log` explain it: each answered request left
its fact in `i`, and every address of the balance set beyond `base` had its balance
answered. -/
structure Explained (remote : Remote) (base : List Address) (log : List Request)
    (i : Interpreter) : Prop where
  holds : ∀ q ∈ log, remote.answers q → i.Holds q
  balanceSet : ∀ a ∈ i.addressBalanceSet,
    a ∈ base ∨ (.balance a ∈ log ∧ remote.answers (.balance a))

/-! ## The record only grows -/

namespace Interpreter

variable {i i' i'' : Interpreter} (a : Address)

theorem Keeps.refl (i : Interpreter) : i.Keeps i := ⟨.refl _, .refl _, .refl _, .refl _⟩

theorem Keeps.trans (h : i''.Keeps i') (h' : i'.Keeps i) : i''.Keeps i :=
  ⟨h'.code.trans h.code, h'.balance.trans h.balance, h'.storage.trans h.storage,
    h'.accessList.trans h.accessList⟩

/-- A record that keeps every entry of `i` covers every request `i` covers. -/
theorem Keeps.covers (h : i'.Keeps i) : ∀ {q : Request}, i.Covers q → i'.Covers q
  | .code _, hq => h.code hq
  | .balance _, hq => hq.imp (fun hq => h.code hq) (fun hq => h.balance hq)
  | .storage _ _, hq => List.map_subset _ h.storage hq

theorem Keeps.holds (h : i'.Keeps i) : ∀ {q : Request}, i.Holds q → i'.Holds q
  | .code _, hq => h.code hq
  | .balance _, hq => h.code hq
  | .storage _ _, hq => List.map_subset _ h.storage hq

theorem subset_insertAddr (set : List Address) : set ⊆ insertAddr set a := by
  unfold insertAddr
  split_ifs
  · exact List.Subset.refl _
  · exact List.subset_append_left _ _

variable (i : Interpreter)

theorem keeps_recordCode : (i.recordCode a).Keeps i :=
  ⟨List.subset_append_left _ _, .refl _, .refl _, .refl _⟩

theorem keeps_recordBalance : (i.recordBalance a).Keeps i :=
  ⟨.refl _, List.subset_append_left _ _, .refl _, .refl _⟩

theorem keeps_recordStorage (key : Address × Word) (v : Word)
    (h : ¬i.addressStorageSet.recorded key) : (i.recordStorage key v h).Keeps i :=
  ⟨.refl _, .refl _, List.subset_append_left _ _, .refl _⟩

theorem keeps_markAddressCode : (i.markAddressCode a).Keeps i :=
  ⟨subset_insertAddr a _, .refl _, .refl _, .refl _⟩

theorem keeps_markAddressBalance : (i.markAddressBalance a).Keeps i :=
  ⟨.refl _, subset_insertAddr a _, .refl _, .refl _⟩

end Interpreter

/-- An answered request the record does not cover was never asked for. -/
theorem RequestInv.not_mem {remote : Remote} {log : List Request} {i : Interpreter}
    (h : RequestInv remote log i) {q : Request} (hq : ¬i.Covers q) (ha : remote.answers q) :
    q ∉ log := fun hmem => hq (h.covered q hmem ha)

/-! ## What a hook does -/

/-- What a hook may do, read off the result `r` it gives from the system `e`: the record
keeps every entry; of the requests it adds, those the source answers are distinct, were
not covered before and leave their fact after; the balance set gains only addresses
whose balance was answered; and it aborts only with a panic. -/
structure HookStep (remote : Remote) (e : Evm) (r : EStateM.Result Abort Evm (Option String)) :
    Prop where
  keeps : (stateAfter r).interpreter.Keeps e.interpreter
  requests : ∃ L, (stateAfter r).requests = e.requests ++ L ∧ (L.filter remote.answers).Nodup ∧
    ∀ q ∈ L, remote.answers q → ¬e.interpreter.Covers q ∧ (stateAfter r).interpreter.Holds q
  balanceSet : ∀ a ∈ (stateAfter r).interpreter.addressBalanceSet,
    a ∈ e.interpreter.addressBalanceSet ∨
      (.balance a ∈ (stateAfter r).requests ∧ remote.answers (.balance a))
  panics : ∀ err e', r = .error err e' → err ≠ .outOfFuel

/-- The request invariant of the system. -/
def ForkInv (remote : Remote) (e : Evm) : Prop := RequestInv remote e.requests e.interpreter

namespace HookStep

variable {remote : Remote} {e e' : Evm} {r r₁ : EStateM.Result Abort Evm (Option String)}

/-- A hook that returns and changes nothing. -/
theorem unchanged (a : Option String) (e : Evm) : HookStep remote e (.ok a e) :=
  ⟨.refl _, ⟨[], by simp, by simp, by simp⟩, fun _ h => .inl h, fun _ _ h => nomatch h⟩

/-- One request that, if answered, the record did not cover and now holds, the balance
set unchanged. -/
theorem single {a : Option String} {q : Request} (hreq : e'.requests = e.requests ++ [q])
    (hk : e'.interpreter.Keeps e.interpreter)
    (hbal : e'.interpreter.addressBalanceSet = e.interpreter.addressBalanceSet)
    (hq : remote.answers q → ¬e.interpreter.Covers q ∧ e'.interpreter.Holds q) :
    HookStep remote e (.ok a e') :=
  ⟨hk, ⟨[q], hreq, (List.nodup_singleton q).sublist (List.filter_sublist _), by simpa using hq⟩,
    fun _ h => .inl (hbal ▸ h), fun _ _ h => nomatch h⟩

/-- A request the source does not answer changes nothing else. -/
theorem failed {a : Option String} {q : Request} (ha : remote.answers q = false) :
    HookStep remote e (.ok a (e.log q)) :=
  single rfl (.refl _) rfl fun h => absurd h (by simp [ha])

/-- A request on which the client panics ends the hook and changes nothing else. -/
theorem clientPanic {q : Request} {err : Abort} (ha : remote.answers q = false)
    (herr : err ≠ .outOfFuel) : HookStep remote e (.error err (e.log q)) :=
  ⟨.refl _, ⟨[q], rfl, by simp [ha], by simp [ha]⟩, fun _ h => .inl h,
    fun _ _ h => by cases h; exact herr⟩

/-- A step followed by a change of the record alone that keeps it and its balance set,
and a panic at most. -/
theorem keeping (h : HookStep remote e r₁)
    (hreq : (stateAfter r).requests = (stateAfter r₁).requests)
    (hk : (stateAfter r).interpreter.Keeps (stateAfter r₁).interpreter)
    (hbal : (stateAfter r).interpreter.addressBalanceSet
      = (stateAfter r₁).interpreter.addressBalanceSet)
    (hpanic : ∀ err e', r = .error err e' → err ≠ .outOfFuel) : HookStep remote e r := by
  obtain ⟨L, hL, hnodup, hnew⟩ := h.requests
  exact ⟨hk.trans h.keeps, ⟨L, hreq.trans hL, hnodup,
    fun q hq ha => (hnew q hq ha).imp_right hk.holds⟩,
    fun a ha => (h.balanceSet a (hbal ▸ ha)).imp_right (hreq ▸ id), hpanic⟩

/-- A hook step keeps the request invariant. -/
theorem forkInv (h : HookStep remote e r) (he : ForkInv remote e) :
    ForkInv remote (stateAfter r) := by
  obtain ⟨L, hL, hnodup, hnew⟩ := h.requests
  refine ⟨?_, fun q hq ha => ?_⟩
  · rw [hL, List.filter_append]
    refine List.nodup_append.2 ⟨he.nodup, hnodup, fun q h₁ h₂ => ?_⟩
    obtain ⟨hq, ha⟩ := List.mem_filter.1 h₂
    exact he.not_mem (hnew q hq ha).1 ha (List.mem_filter.1 h₁).1
  · rcases List.mem_append.1 (hL ▸ hq) with hq | hq
    · exact h.keeps.covers (he.covered q hq ha)
    · exact (hnew q hq ha).2.covers

/-- A hook step keeps the record explained. -/
theorem explained {base : List Address} (h : HookStep remote e r)
    (he : Explained remote base e.requests e.interpreter) :
    Explained remote base (stateAfter r).requests (stateAfter r).interpreter := by
  obtain ⟨L, hL, -, hnew⟩ := h.requests
  refine ⟨fun q hq ha => ?_, fun a ha => ?_⟩
  · rcases List.mem_append.1 (hL ▸ hq) with hq | hq
    · exact h.keeps.holds (he.holds q hq ha)
    · exact (hnew q hq ha).2
  · rcases h.balanceSet a ha with ha | ha
    · exact (he.balanceSet a ha).imp_right fun hb => ⟨hL ▸ List.mem_append_left _ hb.1, hb.2⟩
    · exact .inr ha

end HookStep

/-! ## Every hook is a hook step -/

section Hooks

variable {remote : Remote}

theorem storeIndependent_forkInv : StoreIndependent (ForkInv remote) := fun _ _ => Iff.rfl

theorem registerAddressStorage_step (self : Address) (stack : List Word) (e : Evm) :
    HookStep remote e (registerAddressStorage remote self stack e) := by
  unfold registerAddressStorage
  split
  · exact .unchanged _ e
  · split
    · exact .unchanged _ e
    · next loc _ hrec =>
      split
      · next hq =>
        exact .clientPanic (by simp [Remote.answers, hq, answered])
          (by rintro rfl; exact Remote.call_ne_outOfFuel _ _ _ hq)
      · next hq => exact .failed (by simp [Remote.answers, hq, answered])
      · exact .single rfl (Interpreter.keeps_recordStorage _ _ _ hrec) rfl fun _ =>
          ⟨hrec, by simp [Interpreter.Holds, Interpreter.recordStorage, StorageSet.recorded]⟩

theorem fetchCode_step {e : Evm} {addr : Address} (hnew : addr ∉ e.interpreter.addressCodeSet) :
    HookStep remote e (fetchCode remote addr e) := by
  unfold fetchCode
  split
  · next hq =>
    exact .clientPanic (by simp [Remote.answers, hq, answered])
      (by rintro rfl; exact Remote.call_ne_outOfFuel _ _ _ hq)
  · next hq => exact .failed (by simp [Remote.answers, hq, answered])
  · exact .single rfl (Interpreter.keeps_recordCode _ _) rfl fun _ =>
      ⟨hnew, by simp [Interpreter.Holds, Interpreter.recordCode]⟩

/-- The balance top-up keeps the record and aborts only with a panic. It asks at most for
the balance, only when its address is not in the balance set, and the balance set gains
at most that address, only when the source answers. -/
theorem registerBalance_spec (addr : Address) (value : Word) (e : Evm) :
    let e' := stateAfter (registerBalance remote addr value e)
    e'.interpreter.Keeps e.interpreter ∧
      (e'.requests = e.requests ∧
          e'.interpreter.addressBalanceSet = e.interpreter.addressBalanceSet ∨
        e'.requests = e.requests ++ [.balance addr] ∧ addr ∉ e.interpreter.addressBalanceSet ∧
          ∀ a ∈ e'.interpreter.addressBalanceSet,
            a ∈ e.interpreter.addressBalanceSet ∨ a = addr ∧ remote.answers (.balance addr)) ∧
      ∀ err e'', registerBalance remote addr value e = .error err e'' → err ≠ .outOfFuel := by
  by_cases hcond : e.stateDB.getBalance addr < value ∧ addr ∉ e.interpreter.addressBalanceSet
  · dsimp only [registerBalance]
    rw [if_pos hcond]
    have hsame : ∀ a ∈ e.interpreter.addressBalanceSet,
        a ∈ e.interpreter.addressBalanceSet ∨ a = addr ∧ remote.answers (.balance addr) :=
      fun _ => .inl
    rcases hq : remote.balance addr with err | msg | b
    · exact ⟨.refl _, .inr ⟨rfl, hcond.2, hsame⟩, fun _ _ h => by
        cases h; rintro rfl; exact Remote.call_ne_outOfFuel _ _ _ hq⟩
    · exact ⟨.refl _, .inr ⟨rfl, hcond.2, hsame⟩, fun _ _ h => nomatch h⟩
    · dsimp only
      rcases hm : mustFromBig b with err | balance
      · exact ⟨.refl _, .inr ⟨rfl, hcond.2, hsame⟩, fun _ _ h => by
          cases h; rw [mustFromBig_overflow hm]; exact panic_ne_outOfFuel _⟩
      dsimp only
      split_ifs
      · refine ⟨Interpreter.keeps_recordBalance _ _, .inr ⟨rfl, hcond.2, fun a ha => ?_⟩,
          fun _ _ h => nomatch h⟩
        rcases List.mem_append.1 ha with ha | ha
        · exact .inl ha
        · exact .inr ⟨List.mem_singleton.1 ha, by simp [Remote.answers, hq, answered]⟩
      · exact ⟨.refl _, .inr ⟨rfl, hcond.2, hsame⟩, fun _ _ h => nomatch h⟩
  · dsimp only [registerBalance]
    rw [if_neg hcond]
    exact ⟨.refl _, .inl ⟨rfl, rfl⟩, fun _ _ h => nomatch h⟩

/-- The balance top-up right after a first code fetch: its request, if any, asks for a
balance the record did not cover before the fetch, whose code the fetch records. -/
theorem registerBalance_step {e e₁ : Evm} {addr : Address} (h₁ : HookStep remote e (.ok none e₁))
    (hreq₁ : e₁.requests = e.requests ++ [.code addr])
    (hnew : addr ∉ e.interpreter.addressCodeSet) (hcode : addr ∈ e₁.interpreter.addressCodeSet)
    (hbal : e₁.interpreter.addressBalanceSet = e.interpreter.addressBalanceSet) (value : Word) :
    HookStep remote e (registerBalance remote addr value e₁) := by
  obtain ⟨hk, ⟨hreq, hbal'⟩ | ⟨hreq, hb, hset⟩, hpanic⟩ := @registerBalance_spec remote addr value e₁
  · exact h₁.keeping hreq hk hbal' hpanic
  · refine ⟨hk.trans h₁.keeps, ⟨[.code addr, .balance addr], by simp [hreq, hreq₁], ?_, ?_⟩,
      fun a ha => ?_, hpanic⟩
    · exact (List.nodup_cons.2 ⟨by simp, List.nodup_singleton _⟩).sublist
        (List.filter_sublist _)
    · simp only [List.mem_cons, List.mem_singleton, List.not_mem_nil, or_false]
      rintro q (rfl | rfl) -
      · exact ⟨hnew, hk.code hcode⟩
      · exact ⟨not_or.2 ⟨hnew, hbal ▸ hb⟩, hk.code hcode⟩
    · rcases hset a ha with ha | ⟨rfl, hans⟩
      · exact .inl (hbal ▸ ha)
      · exact .inr ⟨by simp [hreq], hans⟩

/-- The call hook asks for the callee's code and then perhaps its balance. -/
theorem registerAddressCodeForCalls_step (op : OpCode) (stack : List Word) (e : Evm) :
    HookStep remote e (registerAddressCodeForCalls remote op stack e) := by
  unfold registerAddressCodeForCalls
  split
  · next addrWord valueWord _ =>
    split
    · exact .unchanged _ e
    · next hnew =>
      have h₁ := @fetchCode_step remote _ _ hnew
      rcases hq : remote.code addrWord.toAddress with err | msg | code
      · simpa only [fetchCode, hq] using h₁
      · simpa only [fetchCode, hq] using h₁
      · simp only [fetchCode, hq] at h₁ ⊢
        split
        · exact registerBalance_step h₁ rfl hnew (by simp [Interpreter.recordCode]) rfl _
        · exact h₁
  · exact .unchanged _ e

theorem registerAddressCodeForExt_step (stack : List Word) (e : Evm) :
    HookStep remote e (registerAddressCodeForExt remote stack e) := by
  unfold registerAddressCodeForExt
  split
  · split
    · exact .unchanged _ e
    · next hnew => exact fetchCode_step hnew
  · exact .unchanged _ e

theorem appendToAccessList_keeps {self : Address} {stack : List Word} {i i' : Interpreter}
    (h : appendToAccessList self stack i = .ok i') :
    i'.Keeps i ∧ i'.addressBalanceSet = i.addressBalanceSet := by
  unfold appendToAccessList at h
  split at h
  · cases h
  · split at h <;> cases h
    · exact ⟨.refl _, rfl⟩
    · exact ⟨⟨.refl _, .refl _, .refl _, List.subset_append_left _ _⟩, rfl⟩

theorem appendToAccessList_error {self : Address} {stack : List Word} {i : Interpreter}
    {err : Abort} (h : appendToAccessList self stack i = .error err) : err ≠ .outOfFuel := by
  unfold appendToAccessList at h
  split at h
  · cases h
    exact panic_ne_outOfFuel _
  · split_ifs at h

theorem registerHooks_step (op : OpCode) (self : Address) (stack : List Word) (e : Evm) :
    HookStep remote e (registerHooks remote op self stack e) := by
  unfold registerHooks
  split_ifs
  · exact registerAddressStorage_step _ _ e
  · exact registerAddressCodeForCalls_step _ _ e
  · exact registerAddressCodeForExt_step _ e
  · exact .unchanged _ e

/-- Every pre-dispatch hook is a hook step. -/
theorem preDispatch_step (op : OpCode) (self : Address) (stack : List Word) (e : Evm) :
    HookStep remote e (preDispatch remote op self stack e) := by
  have hswitch := @registerHooks_step remote op self stack e
  unfold preDispatch
  split
  · next e₁ h =>
    rw [h] at hswitch
    split
    · split
      · next i hi =>
        exact hswitch.keeping rfl (appendToAccessList_keeps hi).1 (appendToAccessList_keeps hi).2
          fun _ _ h => nomatch h
      · next err hi =>
        exact hswitch.keeping rfl (.refl _) rfl fun _ _ h => by
          cases h; exact appendToAccessList_error hi
    · exact hswitch
  · exact hswitch

/-- Every pre-dispatch hook keeps the request invariant. -/
theorem preDispatch_preserves (op : OpCode) (self : Address) (stack : List Word) :
    Preserves (ForkInv remote) (preDispatch remote op self stack) :=
  fun e he => (preDispatch_step op self stack e).forkInv he

/-- Every pre-dispatch hook keeps every entry the record holds. -/
theorem preDispatch_keeps (i : Interpreter) (op : OpCode) (self : Address) (stack : List Word) :
    Preserves (fun e => e.interpreter.Keeps i) (preDispatch remote op self stack) :=
  fun e he => (preDispatch_step op self stack e).keeps.trans he

/-- Every pre-dispatch hook keeps the record explained. -/
theorem preDispatch_explained (base : List Address) (op : OpCode) (self : Address)
    (stack : List Word) :
    Preserves (fun e => Explained remote base e.requests e.interpreter)
      (preDispatch remote op self stack) :=
  fun e he => (preDispatch_step op self stack e).explained he

end Hooks

/-! ## One execution -/

section Execute

variable (remote : Remote) (address : Address)

/-- How `Execute` finds the system before its call: the answered requests are distinct,
and each is recorded or is the target's code while that code is empty. -/
def Ready (e : Evm) : Prop :=
  (e.requests.filter remote.answers).Nodup ∧
  ∀ q ∈ e.requests, remote.answers q →
    e.interpreter.Covers q ∨ (q = .code address ∧ e.stateDB.getCode address = [])

/-- How `Execute` leaves the log: the answered requests are distinct, and each is
recorded or is the target's code. -/
def Settled (log : List Request) (i : Interpreter) : Prop :=
  (log.filter remote.answers).Nodup ∧
  ∀ q ∈ log, remote.answers q → i.Covers q ∨ q = .code address

variable {remote address}

/-- The outermost call from a ready system settles the log: a target without code runs
nothing, and otherwise every answered request is recorded and the run keeps that. -/
theorem ready_callFromOrigin (fuel : Nat) (env : Env) (input : Bytes) (gas : Nat)
    (value : Word) {e : Evm} (he : Ready remote address e) :
    let e' := stateAfter (callFromOrigin (preDispatch remote) fuel env address input gas value e)
    Settled remote address e'.requests e'.interpreter := by
  by_cases hcode : e.stateDB.getCode address = []
  · obtain ⟨r, db', h⟩ := callFromOrigin_of_code_empty (preDispatch remote) fuel env address
      input gas value hcode
    simp only [h, stateAfter_ok, Evm.requests_withStateDB, Evm.interpreter_withStateDB]
    exact ⟨he.1, fun q hq ha => (he.2 q hq ha).imp_right And.left⟩
  · have hinv : ForkInv remote e :=
      ⟨he.1, fun q hq ha => (he.2 q hq ha).resolve_right fun h => hcode h.2⟩
    have h := callFromOrigin_preserves storeIndependent_forkInv preDispatch_preserves fuel env
      address input gas value e hinv
    exact ⟨h.nodup, fun q hq ha => .inl (h.covered q hq ha)⟩

theorem getCode_ensureOrigin (origin : Address) {e : Evm} (h : e.stateDB.getCode address = []) :
    (ensureOrigin origin e).stateDB.getCode address = [] := by
  unfold ensureOrigin; split_ifs <;> simp [Evm.withStateDB, h]

/-- Funding the origin marks its balance and touches no code. -/
theorem fundOrigin_spec {origin : Address} {originBalance : Int} {e e' : Evm}
    (h : fundOrigin origin originBalance e = .ok e') :
    e'.requests = e.requests ∧ e'.interpreter.Keeps e.interpreter ∧
      (0 < originBalance → origin ∈ e'.interpreter.addressBalanceSet) ∧
      ∀ a, e'.stateDB.getCode a = e.stateDB.getCode a := by
  unfold fundOrigin at h
  split_ifs at h with hpos
  · cases hm : mustFromBig originBalance <;> simp only [hm, Except.map] at h <;> cases h
    refine ⟨rfl, Interpreter.keeps_markAddressBalance _ _, fun _ => ?_, by simp⟩
    simp [Interpreter.markAddressBalance, insertAddr]
    split_ifs <;> simp_all
  · cases h
    exact ⟨rfl, .refl _, fun h => absurd h hpos, fun _ => rfl⟩

/-- Installing the target records its code unless it exists, which leaves its code. -/
theorem installTarget_spec (code : Bytes) (e : Evm) :
    (installTarget address code e).interpreter.Keeps e.interpreter ∧
      (address ∈ (installTarget address code e).interpreter.addressCodeSet ∨
        (installTarget address code e).stateDB.getCode address = e.stateDB.getCode address) := by
  unfold installTarget
  split_ifs
  · exact ⟨.refl _, .inr rfl⟩
  · refine ⟨Interpreter.keeps_markAddressCode _ _, .inl ?_⟩
    simp only [Interpreter.markAddressCode, insertAddr]
    split_ifs <;> simp_all

/-- `Execute`'s set-up makes the system ready when every answered request of the log is
recorded, or is the sender's balance it installs, or the target's code while empty. -/
theorem prepareExecution_ready {originBalance : Int} {code : Bytes} {cfg : Config}
    {record : Option RecordToInitiateState} {db : StateDB} {log : List Request}
    (hnodup : (log.filter remote.answers).Nodup)
    (hlog : ∀ q ∈ log, remote.answers q → (Interpreter.new record).Covers q ∨
      (q = .balance cfg.origin ∧ 0 < originBalance) ∨
      (q = .code address ∧ db.getCode address = [])) :
    match prepareExecution address originBalance code cfg record (Evm.init db record log) with
    | .ok _ e => Ready remote address e
    | .error _ e => e.requests = log := by
  rcases hB : fundOrigin cfg.origin originBalance (ensureOrigin cfg.origin (Evm.init db record log))
    with err | eB
  · simp only [prepareExecution, hB]
    simp [Evm.init]
  · simp only [prepareExecution, hB]
    obtain ⟨hreq, hext, hbal, hcode⟩ := fundOrigin_spec hB
    simp only [interpreter_ensureOrigin, requests_ensureOrigin] at hreq hext
    obtain ⟨hext', hinst⟩ := @installTarget_spec address code
      (eB.withStateDB (eB.stateDB.prepare cfg.origin cfg.coinbase address
        ((record.map RecordToInitiateState.accessList).getD [])))
    refine ⟨by simpa [hreq, Evm.init] using hnodup, fun q hq ha => ?_⟩
    simp only [requests_installTarget, Evm.requests_withStateDB, hreq, Evm.init] at hq
    rcases hlog q hq ha with h | ⟨rfl, hpos⟩ | ⟨rfl, hempty⟩
    · exact .inl (hext'.covers (hext.covers h))
    · exact .inl (hext'.covers (.inr (hbal hpos)))
    · rcases hinst with h | h
      · exact .inl h
      · refine .inr ⟨rfl, ?_⟩
        rw [h]
        show (eB.stateDB.prepare _ _ _ _).getCode address = []
        rw [StateDB.getCode_prepare, hcode]
        exact getCode_ensureOrigin cfg.origin hempty

/-- `Execute`'s set-up keeps the record. -/
theorem prepareExecution_keeps {originBalance : Int} {code : Bytes} {cfg : Config}
    {record : Option RecordToInitiateState} {e e' : Evm} {u : Unit}
    (h : prepareExecution address originBalance code cfg record e = .ok u e') :
    e'.interpreter.Keeps e.interpreter := by
  simp only [prepareExecution] at h
  split at h
  · cases h
  · next e₁ hB =>
    cases h
    have hk := (fundOrigin_spec hB).2.1
    rw [interpreter_ensureOrigin] at hk
    exact (installTarget_spec code _).1.trans hk

theorem covers_new_getRecordToInitState (i : Interpreter) (q : Request) :
    (Interpreter.new (some i.getRecordToInitState)).Covers q ↔ i.Covers q := by
  cases q <;> rfl

/-- One `Execute` from a log as `prepareExecution_ready` takes it settles the log: its
answered requests stay distinct however it ends, and a successful run's record holds
every answered fact but perhaps the target's code. -/
theorem execute_settled {fuel : Nat} {originBalance : Int} {code input : Bytes} {cfg : Config}
    {record : Option RecordToInitiateState} {db : StateDB} {log : List Request}
    (hnodup : (log.filter remote.answers).Nodup)
    (hlog : ∀ q ∈ log, remote.answers q → (Interpreter.new record).Covers q ∨
      (q = .balance cfg.origin ∧ 0 < originBalance) ∨
      (q = .code address ∧ db.getCode address = [])) :
    let out := (execute remote fuel address originBalance code input cfg db record).run log
    ((stateAfter out).filter remote.answers).Nodup ∧
      ∀ res db' log', out = .ok (.ok res, db') log' →
        Settled remote address log' (Interpreter.new (some res.record)) := by
  have hprep := @prepareExecution_ready remote address originBalance code cfg.setDefaults record db
    log hnodup (by simpa using hlog)
  simp only [execute, onFork, EStateM.run, bind, EStateM.bind, get, getThe, MonadStateOf.get,
    EStateM.get, pure, EStateM.pure]
  split at hprep
  · next e₁ hp =>
    have hm := stateAfter_mustFromBigM cfg.setDefaults.value e₁
    rcases hv : mustFromBigM cfg.setDefaults.value e₁ with ⟨value, e₂⟩ | ⟨err, e₂⟩ <;>
      simp only [hv, stateAfter_ok, stateAfter_error] at hm <;> subst hm
    · have hs := ready_callFromOrigin fuel cfg.setDefaults.env input cfg.setDefaults.gasLimit
        value hprep
      rcases hc : callFromOrigin (preDispatch remote) fuel cfg.setDefaults.env address input
        cfg.setDefaults.gasLimit value e₂ with ⟨r, e₃⟩ | ⟨err, e₃⟩ <;>
        simp only [hc, stateAfter_ok, stateAfter_error] at hs <;>
        simp only [hp, hv, hc, stateAfter_ok, stateAfter_error]
      · refine ⟨hs.1, fun res db' log' h => ?_⟩
        simp only [EStateM.Result.ok.injEq, Prod.mk.injEq] at h
        obtain ⟨⟨hres, -⟩, rfl⟩ := h
        rw [finishExecution_record hres]
        exact ⟨hs.1, fun q hq ha =>
          (hs.2 q hq ha).imp_left (covers_new_getRecordToInitState _ q).2⟩
      · exact ⟨hs.1, fun _ _ _ h => by cases h⟩
    · simp only [hp, hv, stateAfter_error]
      exact ⟨hprep.1, fun _ _ _ h => by cases h⟩
  · next e₁ hp =>
    simp only [hp]
    exact ⟨by simpa [hprep] using hnodup, fun _ _ _ h => by cases h⟩

/-- Funding the origin adds at most the origin to the balance set. -/
theorem fundOrigin_balanceSet {origin : Address} {originBalance : Int} {e e' : Evm}
    (h : fundOrigin origin originBalance e = .ok e') :
    ∀ a ∈ e'.interpreter.addressBalanceSet, a = origin ∨ a ∈ e.interpreter.addressBalanceSet := by
  unfold fundOrigin at h
  split_ifs at h
  · cases hm : mustFromBig originBalance <;> simp only [hm, Except.map, reduceCtorEq,
      Except.ok.injEq] at h
    subst h
    exact fun a ha => (mem_insertAddr.1 ha).symm
  · cases h
    exact fun _ => .inr

/-- `Execute`'s set-up from an empty log explains the record: it asks for nothing, and
adds at most the origin to the balance set. -/
theorem prepareExecution_explained {originBalance : Int} {code : Bytes} {cfg : Config}
    {record : Option RecordToInitiateState} {db : StateDB} {u : Unit} {e' : Evm}
    (h : prepareExecution address originBalance code cfg record (Evm.init db record []) = .ok u e') :
    Explained remote (cfg.origin :: (Interpreter.new record).addressBalanceSet) e'.requests
      e'.interpreter := by
  simp only [prepareExecution] at h
  split at h
  · cases h
  · next eB hB =>
    cases h
    have hreq := (fundOrigin_spec hB).1
    simp only [requests_ensureOrigin, Evm.init] at hreq
    refine ⟨by simp [hreq], fun a ha => ?_⟩
    have hbal : ∀ e, (installTarget address code e).interpreter.addressBalanceSet
        = e.interpreter.addressBalanceSet := fun e => by
      unfold installTarget; split_ifs <;> rfl
    rw [hbal] at ha
    have h := fundOrigin_balanceSet hB a ha
    simp only [interpreter_ensureOrigin, Evm.init] at h
    exact .inl (List.mem_cons.2 h)

/-- A successful `Execute` from an empty log returns a record its requests explain. -/
theorem execute_explained {fuel : Nat} {originBalance : Int} {code input : Bytes} {cfg : Config}
    {db : StateDB} {record : Option RecordToInitiateState} {res : ExecutionResult}
    {db' : StateDB} {log' : List Request}
    (h : (execute remote fuel address originBalance code input cfg db record).run []
      = .ok (.ok res, db') log') :
    Explained remote (cfg.origin :: (Interpreter.new record).addressBalanceSet) log'
      (Interpreter.new (some res.record)) := by
  simp only [execute, onFork, EStateM.run, bind, EStateM.bind, get, getThe, MonadStateOf.get,
    EStateM.get, pure, EStateM.pure] at h
  rcases hp : prepareExecution address originBalance code cfg.setDefaults record
    (Evm.init db record []) with ⟨u, e₁⟩ | ⟨err, e₁⟩ <;> simp only [hp, reduceCtorEq] at h
  have hm := stateAfter_mustFromBigM cfg.setDefaults.value e₁
  rcases hv : mustFromBigM cfg.setDefaults.value e₁ with ⟨value, e₂⟩ | ⟨err, e₂⟩ <;>
    simp only [hv, stateAfter_ok, stateAfter_error, reduceCtorEq] at hm h
  subst hm
  have he := @callFromOrigin_preserves
    (fun e => Explained remote (cfg.origin :: (Interpreter.new record).addressBalanceSet)
      e.requests e.interpreter) (fun _ _ => Iff.rfl) _ (preDispatch_explained _) fuel
    cfg.setDefaults.env address input cfg.setDefaults.gasLimit value e₂
    (by simpa using prepareExecution_explained hp)
  rcases hc : callFromOrigin (preDispatch remote) fuel cfg.setDefaults.env address input
    cfg.setDefaults.gasLimit value e₂ with ⟨r, e₃⟩ | ⟨err, e₃⟩ <;>
    simp only [hc, stateAfter_ok, EStateM.Result.ok.injEq, Prod.mk.injEq, reduceCtorEq] at he h
  obtain ⟨⟨hres, -⟩, rfl⟩ := h
  rw [finishExecution_record hres]
  exact ⟨fun q hq ha => by cases q <;> exact he.holds _ hq ha, he.balanceSet⟩

end Execute

/-- Every `Execute` run, from any state store and record and for any program, asks the
remote source at most once for each answered fact, however it ends. A successful run's
record holds the code of every address whose code or balance it was answered and every
storage key it was answered; its balance set holds, beyond the given record's and the
origin, only addresses whose balance the run was answered. -/
theorem execute_requests_recorded (remote : Remote) (fuel : Nat) (address : Address)
    (originBalance : Int) (code input : Bytes) (cfg : Config) (db : StateDB)
    (record : Option RecordToInitiateState) :
    let out := (execute remote fuel address originBalance code input cfg db record).run []
    ((stateAfter out).filter remote.answers).Nodup ∧
      ∀ res db' log', out = .ok (.ok res, db') log' →
        (∀ a, .code a ∈ log' → remote.answers (.code a) → a ∈ res.record.addressCodeSet) ∧
        (∀ a slot, .storage a slot ∈ log' → remote.answers (.storage a slot) →
          res.record.addressStorageSet.recorded (a, slot)) ∧
        (∀ a, .balance a ∈ log' → remote.answers (.balance a) → a ∈ res.record.addressCodeSet) ∧
        ∀ a ∈ res.record.addressBalanceSet, a = cfg.origin ∨
          a ∈ (Interpreter.new record).addressBalanceSet ∨
          (.balance a ∈ log' ∧ remote.answers (.balance a)) :=
  ⟨(@execute_settled remote address fuel originBalance code input cfg record db []
    List.nodup_nil fun _ h => absurd h (List.not_mem_nil _)).1, fun _ _ _ hout =>
    have he := execute_explained hout
    ⟨fun _ hq ha => he.holds _ hq ha, fun _ _ hq ha => he.holds _ hq ha,
      fun _ hq ha => he.holds _ hq ha, fun a ha => by simpa [or_assoc] using he.balanceSet a ha⟩⟩

/-! ## The record only grows along a run -/

/-- The outermost call keeps every entry of the record it starts from, whatever the
program, the call tree and the reverts, and however it ends. -/
theorem callFromOrigin_keeps (remote : Remote) (fuel : Nat) (env : Env) (address : Address)
    (input : Bytes) (gas : Nat) (value : Word) (e : Evm) :
    (stateAfter (callFromOrigin (preDispatch remote) fuel env address input gas value e)
      ).interpreter.Keeps e.interpreter :=
  @callFromOrigin_preserves (fun e' => e'.interpreter.Keeps e.interpreter) (fun _ _ => Iff.rfl)
    _ (preDispatch_keeps e.interpreter) fuel env address input gas value e (.refl _)

/-- A successful `Execute` returns a record with every entry of the sets it started from. -/
theorem execute_keeps {remote : Remote} {fuel : Nat} {address : Address} {originBalance : Int}
    {code input : Bytes} {cfg : Config} {db : StateDB} {record : Option RecordToInitiateState}
    {log : List Request} {res : ExecutionResult} {db' : StateDB} {log' : List Request}
    (h : (execute remote fuel address originBalance code input cfg db record).run log
      = .ok (.ok res, db') log') :
    (Interpreter.new record).addressCodeSet ⊆ res.record.addressCodeSet ∧
      (Interpreter.new record).addressBalanceSet ⊆ res.record.addressBalanceSet ∧
      (Interpreter.new record).addressStorageSet ⊆ res.record.addressStorageSet := by
  simp only [execute, onFork, EStateM.run, bind, EStateM.bind, get, getThe, MonadStateOf.get,
    EStateM.get, pure, EStateM.pure] at h
  rcases hp : prepareExecution address originBalance code cfg.setDefaults record
    (Evm.init db record log) with ⟨u, e₁⟩ | ⟨err, e₁⟩ <;> simp only [hp, reduceCtorEq] at h
  have hm := stateAfter_mustFromBigM cfg.setDefaults.value e₁
  rcases hv : mustFromBigM cfg.setDefaults.value e₁ with ⟨value, e₂⟩ | ⟨err, e₂⟩ <;>
    simp only [hv, stateAfter_ok, stateAfter_error, reduceCtorEq] at hm h
  subst hm
  have hk := callFromOrigin_keeps remote fuel cfg.setDefaults.env address input
    cfg.setDefaults.gasLimit value e₂
  rcases hc : callFromOrigin (preDispatch remote) fuel cfg.setDefaults.env address input
    cfg.setDefaults.gasLimit value e₂ with ⟨r, e₃⟩ | ⟨err, e₃⟩ <;>
    simp only [hc, stateAfter_ok, EStateM.Result.ok.injEq, Prod.mk.injEq, reduceCtorEq] at hk h
  rw [finishExecution_record h.1.1]
  have hkeeps := hk.trans (prepareExecution_keeps hp)
  exact ⟨hkeeps.code, hkeeps.balance, hkeeps.storage⟩

/-- A successful `Execute` returns a record that keeps every entry of the record it was
given: no fetched code, balance or storage value is dropped or changed. -/
theorem execute_record_keeps (remote : Remote) (fuel : Nat) (address : Address)
    (originBalance : Int) (code input : Bytes) (cfg : Config) (db : StateDB)
    (record : RecordToInitiateState) (log : List Request) :
    ∀ res db' log',
      (execute remote fuel address originBalance code input cfg db (some record)).run log
        = .ok (.ok res, db') log' →
      record.addressCodeSet ⊆ res.record.addressCodeSet ∧
        record.addressBalanceSet ⊆ res.record.addressBalanceSet ∧
        record.addressStorageSet ⊆ res.record.addressStorageSet :=
  fun _ _ _ h => execute_keeps h

/-- A run that loads a new slot keeps the entries it was given. -/
theorem execute_record_keeps_sload :
    ∃ res db' log', (execute (Remote.ofWorld fun _ => none) 10 0x11 0 [0x5f, 0x54, 0x00] []
        { origin := 0xa, gasLimit := 100000, value := 0 } (StateDB.open fun _ => none)
        (some { addressCodeSet := [0x22], addressBalanceSet := [0x22],
                addressStorageSet := [((0x22, 1), 7)],
                storage_keysUnique := List.nodup_singleton _ })).run []
        = .ok (.ok res, db') log' ∧
      [0x22] ⊆ res.record.addressCodeSet ∧ [0x22] ⊆ res.record.addressBalanceSet ∧
        [((0x22, 1), 7)] ⊆ res.record.addressStorageSet :=
  (fun run => ⟨_, _, _, run, execute_record_keeps _ _ _ _ _ _ _ _ _ _ _ _ _ run⟩) rfl

/-! ## One `Simulate` call -/

section Simulate

variable {remote : Remote} (sim : Simulation) (db : StateDB)

/-- `Simulate`'s code check asks at most for the target's code, and only when it is empty. -/
theorem targetCode_log (log : List Request) :
    ∃ L, stateAfter (targetCode remote sim db log) = log ++ L ∧
      (L = [] ∨ L = [.code sim.toAddr] ∧ db.getCode sim.toAddr = []) := by
  unfold targetCode
  split_ifs with h
  · refine ⟨_, ?_, .inr ⟨rfl, by simpa [StateDB.getCodeSize] using h.2⟩⟩
    unfold fetch; split <;> rfl
  all_goals exact ⟨[], by simp only [List.append_nil]; rfl, .inl rfl⟩

/-- `Simulate`'s balance check asks at most for the sender's balance, and passes on a
positive balance when it does. -/
theorem simulateBalance_log (log : List Request) :
    ∃ L, stateAfter (simulateBalance remote sim db log) = log ++ L ∧
      (L = [] ∨ L = [.balance sim.fromAddr] ∧
        ∀ b s, simulateBalance remote sim db log = .ok (.ok b) s → 0 < b) := by
  unfold simulateBalance
  split_ifs with h
  · simp only [fetch, bind, EStateM.bind, pure, EStateM.pure]
    rcases remote.balance sim.fromAddr with err | msg | b
    · exact ⟨_, rfl, .inr ⟨rfl, fun _ _ h => nomatch h⟩⟩
    · exact ⟨_, rfl, .inr ⟨rfl, fun _ _ h => by cases h⟩⟩
    · refine ⟨_, rfl, .inr ⟨rfl, fun b' _ hb => ?_⟩⟩
      dsimp only at hb
      split_ifs at hb with hle
      · cases hb
      · injection hb with hb
        injection hb with hb
        subst hb
        exact h.1.trans (not_le.1 hle)
  · exact ⟨[], by simp only [List.append_nil]; rfl, .inl rfl⟩

/-- The log `Simulate`'s checks leave holds at most the target's code and the sender's
balance, so its answered requests are distinct. -/
theorem checks_nodup {L₁ L₂ : List Request} {P Q : Prop}
    (hL₁ : L₁ = [] ∨ L₁ = [.code sim.toAddr] ∧ P)
    (hL₂ : L₂ = [] ∨ L₂ = [.balance sim.fromAddr] ∧ Q) :
    ((L₁ ++ L₂).filter remote.answers).Nodup :=
  List.Nodup.filter _ <| by
    rcases hL₁ with rfl | ⟨rfl, -⟩ <;> rcases hL₂ with rfl | ⟨rfl, -⟩ <;> simp

/-- The discovery pass starts from the checks' log: the target's code was asked for only
while empty, the sender's balance only when it passed as positive. -/
theorem discovery_start {L₁ L₂ : List Request} {balance : Int}
    (record : Option RecordToInitiateState)
    (hL₁ : L₁ = [] ∨ L₁ = [.code sim.toAddr] ∧ db.getCode sim.toAddr = [])
    (hL₂ : L₂ = [] ∨ L₂ = [.balance sim.fromAddr] ∧ 0 < balance) :
    ∀ q ∈ L₁ ++ L₂, remote.answers q → (Interpreter.new record).Covers q ∨
      (q = .balance (configFromSimulation sim).origin ∧ 0 < balance) ∨
      (q = .code sim.toAddr ∧ db.getCode sim.toAddr = []) := by
  intro q hq _
  simp only [List.mem_append] at hq
  rcases hq with hq | hq
  · rcases hL₁ with rfl | ⟨rfl, hempty⟩
    · cases hq
    · exact .inr (.inr ⟨List.mem_singleton.1 hq, hempty⟩)
  · rcases hL₂ with rfl | ⟨rfl, hpos⟩
    · cases hq
    · exact .inr (.inl ⟨List.mem_singleton.1 hq, hpos⟩)

/-- The accounting pass starts from the log the discovery pass settled: the target's
code, when the record lacks it, is empty in the ideal state. -/
theorem accounting_start {log : List Request} {record : RecordToInitiateState} {db₁ : StateDB}
    {balance : Int} (hset : Settled remote sim.toAddr log (Interpreter.new (some record))) :
    ∀ q ∈ log, remote.answers q → (Interpreter.new (some record)).Covers q ∨
      (q = .balance (configFromSimulation sim).origin ∧ 0 < balance) ∨
      (q = .code sim.toAddr ∧ (initIdealState db₁ record).getCode sim.toAddr = []) := by
  intro q hq ha
  rcases hset.2 q hq ha with h | rfl
  · exact .inl h
  · by_cases hc : sim.toAddr ∈ record.addressCodeSet
    · exact .inl hc
    · exact .inr (.inr ⟨rfl, by rw [getCode_initIdealState, if_neg hc]⟩)

/-- The answered requests of a `Simulate` call are pairwise distinct, however it ends. -/
theorem simulate_answered_nodup (fuel : Nat) (recordInitializer : Option RecordToInitiateState) :
    ((stateAfter ((simulate remote fuel sim db recordInitializer).run [])).filter
      remote.answers).Nodup := by
  obtain ⟨L₁, h₁, hL₁⟩ := @targetCode_log remote sim db []
  simp only [simulate, EStateM.run, bind, EStateM.bind, pure, EStateM.pure]
  rcases ht : targetCode remote sim db [] with ⟨c, log₁⟩ | ⟨err, log₁⟩ <;>
    simp only [ht, stateAfter_ok, stateAfter_error] at h₁ <;> subst log₁
  case error => simpa using @checks_nodup remote sim L₁ [] _ True hL₁ (.inl rfl)
  cases c with
  | error msg => simpa using @checks_nodup remote sim L₁ [] _ True hL₁ (.inl rfl)
  | ok code =>
    obtain ⟨L₂, h₂, hL₂⟩ := @simulateBalance_log remote sim db L₁
    simp only [List.nil_append, EStateM.bind]
    rcases hb : simulateBalance remote sim db L₁ with ⟨res, log₂⟩ | ⟨err, log₂⟩ <;>
      simp only [hb, stateAfter_ok, stateAfter_error] at h₂ <;> subst log₂
    case error => simpa using checks_nodup sim hL₁ hL₂
    cases res with
    | error msg => simpa [EStateM.pure] using checks_nodup sim hL₁ hL₂
    | ok balance =>
      -- the discovery pass, from the checks' log
      have hex₁ := @execute_settled remote sim.toAddr fuel balance code sim.input
        (configFromSimulation sim) (recordInitializer.map fun r => { r with accessList := [] }) db _
        (checks_nodup sim hL₁ hL₂)
        (discovery_start sim db _ hL₁ (hL₂.imp_right fun h => ⟨h.1, h.2 _ _ hb⟩))
      simp only [EStateM.run] at hex₁
      simp only [EStateM.bind]
      rcases hr₁ : execute remote fuel sim.toAddr balance code sim.input
        (configFromSimulation sim) db
        (recordInitializer.map fun r => { r with accessList := [] }) (L₁ ++ L₂)
        with ⟨⟨res₁, db₁⟩, log₁⟩ | ⟨err, log₁⟩ <;> rw [hr₁] at hex₁
      · cases res₁ with
        | error err => simpa [EStateM.pure] using hex₁.1
        | ok r₁ =>
          -- the accounting pass, on the ideal state, from the discovery pass's log
          have hset := hex₁.2 r₁ db₁ log₁ rfl
          have hex₂ := @execute_settled remote sim.toAddr fuel balance code sim.input
            (configFromSimulation sim) (some r₁.record) (initIdealState db₁ r₁.record) log₁
            hset.1
            (accounting_start sim hset)
          simp only [EStateM.run] at hex₂
          rcases hr₂ : execute remote fuel sim.toAddr balance code sim.input
            (configFromSimulation sim) (initIdealState db₁ r₁.record) (some r₁.record) log₁
            with ⟨res₂, log₂⟩ | ⟨err, log₂⟩ <;>
            rw [hr₂] at hex₂ <;> simpa [EStateM.pure, EStateM.bind, hr₂] using hex₂.1
      · exact hex₁.1

end Simulate

/-- A `Simulate` call in which every request is answered asks the remote source at most
once for each fact, across its checks and both passes. -/
theorem simulate_requests_nodup (remote : Remote) (fuel : Nat) (sim : Simulation) (db : StateDB)
    (recordInitializer : Option RecordToInitiateState)
    (hanswered : ∀ q ∈ stateAfter ((simulate remote fuel sim db recordInitializer).run []),
      remote.answers q) :
    (stateAfter ((simulate remote fuel sim db recordInitializer).run [])).Nodup := by
  have h := @simulate_answered_nodup remote sim db fuel recordInitializer
  rwa [List.filter_eq_self.2 hanswered] at h

/-- `TestSimulate`'s program, which stores its input in slot 0 and loads it back, on a
source that answers everything: the code and the slot are each asked for once. -/
theorem simulate_requests_nodup_testSimulate :
    (∀ q ∈ stateAfter ((simulate (Remote.ofWorld fun a => if a = 0x11 then
        some { storage := fun s => if s = 0 then 5 else 0,
               code := [0x5f, 0x35, 0x5f, 0x55, 0x5f, 0x54, 0x5f, 0x52, 0x60, 0x20, 0x5f, 0xf3] }
        else none) 20
        { fromAddr := 0xa, toAddr := 0x11, gasLimit := 300000, value := 0,
          input := (32 : Word).toBytes32, code := [] } (StateDB.open fun _ => none) none).run []),
      (Remote.ofWorld fun a => if a = 0x11 then
        some { storage := fun s => if s = 0 then 5 else 0,
               code := [0x5f, 0x35, 0x5f, 0x55, 0x5f, 0x54, 0x5f, 0x52, 0x60, 0x20, 0x5f, 0xf3] }
        else none).answers q) ∧
    (stateAfter ((simulate (Remote.ofWorld fun a => if a = 0x11 then
        some { storage := fun s => if s = 0 then 5 else 0,
               code := [0x5f, 0x35, 0x5f, 0x55, 0x5f, 0x54, 0x5f, 0x52, 0x60, 0x20, 0x5f, 0xf3] }
        else none) 20
        { fromAddr := 0xa, toAddr := 0x11, gasLimit := 300000, value := 0,
          input := (32 : Word).toBytes32, code := [] } (StateDB.open fun _ => none) none).run [])).Nodup :=
  ⟨by decide, simulate_requests_nodup _ _ _ _ _ (by decide)⟩

/-- The accounting pass is not free of requests. The target exists in the reference state
without code, so the discovery pass runs nothing and records nothing; the ideal state
lacks the target, so the accounting pass installs the fetched code, runs it and fetches
the slot it loads. -/
theorem simulate_accounting_pass_requests :
    stateAfter ((execute (Remote.ofWorld fun a => if a = 0x11 then some { code := [0x5f, 0x54, 0x00] }
        else none) 20 0x11 0 [0x5f, 0x54, 0x00] [] { origin := 0xa, gasLimit := 300000, value := 0 }
        (StateDB.open fun a => if a = 0x11 then some {} else none) none).run [.code 0x11])
      = [.code 0x11] ∧
    stateAfter ((simulate (Remote.ofWorld fun a => if a = 0x11 then some { code := [0x5f, 0x54, 0x00] }
        else none) 20
        { fromAddr := 0xa, toAddr := 0x11, gasLimit := 300000, value := 0, input := [], code := [] }
        (StateDB.open fun a => if a = 0x11 then some {} else none) none).run [])
      = [.code 0x11, .storage 0x11 0] := by
  decide

/-- A successful `Simulate` returns a record that keeps every entry of the record it was
given, across both passes: the discovery pass keeps it, and the accounting pass keeps
the discovery pass's whole record. -/
theorem simulate_record_keeps (remote : Remote) (fuel : Nat) (sim : Simulation) (db : StateDB)
    (record : RecordToInitiateState) (log : List Request) :
    ∀ res db' log', (simulate remote fuel sim db (some record)).run log = .ok (.ok res, db') log' →
      record.addressCodeSet ⊆ res.record.addressCodeSet ∧
        record.addressBalanceSet ⊆ res.record.addressBalanceSet ∧
        record.addressStorageSet ⊆ res.record.addressStorageSet := by
  intro res db' log' h
  simp only [simulate, EStateM.run, bind, EStateM.bind, pure, EStateM.pure] at h
  rcases ht : targetCode remote sim db log with ⟨_ | code, logT⟩ | ⟨err, logT⟩ <;>
    simp only [ht, EStateM.bind, EStateM.pure, EStateM.Result.ok.injEq, Prod.mk.injEq,
      reduceCtorEq, false_and] at h
  rcases hb : simulateBalance remote sim db logT with ⟨_ | balance, logB⟩ | ⟨err, logB⟩ <;>
    simp only [hb, EStateM.pure, EStateM.Result.ok.injEq, Prod.mk.injEq, reduceCtorEq,
      false_and] at h
  rcases hr₁ : execute remote fuel sim.toAddr balance code sim.input (configFromSimulation sim) db
    ((some record).map fun r => { r with accessList := [] }) logB
    with ⟨⟨err | r₁, db₁⟩, log₁⟩ | ⟨err, log₁⟩ <;>
    simp only [EStateM.bind, EStateM.pure, hr₁, EStateM.Result.ok.injEq, Prod.mk.injEq,
      reduceCtorEq, false_and] at h
  rcases hr₂ : execute remote fuel sim.toAddr balance code sim.input (configFromSimulation sim)
    (initIdealState db₁ r₁.record) (some r₁.record) log₁
    with ⟨⟨err | r₂, db₂⟩, log₂⟩ | ⟨err, log₂⟩ <;>
    simp only [hr₂, EStateM.pure, Except.map, EStateM.Result.ok.injEq, Prod.mk.injEq,
      Except.ok.injEq, reduceCtorEq, false_and] at h
  obtain ⟨⟨rfl, -⟩, -⟩ := h
  -- the discovery pass keeps the given sets, the accounting pass the discovery pass's
  have k₁ := execute_keeps hr₁
  have k₂ := execute_keeps hr₂
  exact ⟨k₁.1.trans k₂.1, k₁.2.1.trans k₂.2.1, k₁.2.2.trans k₂.2.2⟩

/-- Both passes of a call that loads a new slot keep the entries of the given record. -/
theorem simulate_record_keeps_sload :
    ∃ res db' log', (simulate (Remote.ofWorld fun _ => none) 20
        { fromAddr := 0xa, toAddr := 0x11, gasLimit := 100000, value := 0, input := [],
          code := [0x5f, 0x54, 0x00] } (StateDB.open fun _ => none)
        (some { addressCodeSet := [0x22], addressBalanceSet := [0x22],
                addressStorageSet := [((0x22, 1), 7)],
                storage_keysUnique := List.nodup_singleton _ })).run []
        = .ok (.ok res, db') log' ∧
      [0x22] ⊆ res.record.addressCodeSet ∧ [0x22] ⊆ res.record.addressBalanceSet ∧
        [((0x22, 1), 7)] ⊆ res.record.addressStorageSet :=
  (fun run => ⟨_, _, _, run, simulate_record_keeps _ _ _ _ _ _ _ _ _ run⟩) rfl

end EvmSimulator
