import EvmSimulator.RecordShape
import EvmSimulator.Refund
import EvmSimulator.Rpc

/-!
# The lazy fork keeps the refund counter

The storage hook of the lazy fork writes the remote value over the current one, not the
committed one. That keeps the refund invariant of `EvmSimulator.Refund` as long as every
key the record lacks has committed value zero (`Interpreter.UnrecordedZero`), which
recording a key only keeps (`preDispatch_keepsRefund`). The accounting pass of
`Simulate` runs on an ideal state, where this always holds. So `Simulate` on a state that
holds both, a fresh one for instance, aborts only with a Go panic of the lazy fork
(`ForkPanic`): `peek` on an empty stack, a value past 256 bits, or a panic of the client
on a reply (`simulate_forkPanic`). On the RPC client, whose panics are those of
`Client.panicTexts`, none of them is the refund counter's
(`simulate_aborts_only_fork_panics`).

The second condition is needed: on a store whose committed value disagrees with the
remote one at a slot the record lacks, the hook clears the slot behind the refund
counter's back, and `Simulate` panics (`simulate_refund_panic_on_stale_commit`).

The discovery passes of `SimulateBundle` run one after another on the caller's store,
each with the record the one before returned. Each pass leaves the next a store and a
record fit for it (`ReadyForNextPass`, `unoptimalSimulation_ready`), so the whole loop
aborts only with the same panics (`bundleDiscovery_aborts_only_fork_panics`). Its
accounting passes after the first run on the committed result of the pass before. Only
`SLOAD` records its slot (`registerHooks`), so there a slot stored but never loaded holds
a committed value the record lacks, and the second condition can fail.
-/

namespace EvmSimulator

/-! ## The lazy fork's hooks -/

/-- Every storage key the fork record lacks has committed value zero in `b`. The storage
hook writes the remote value over the current one, so then it never clears a slot. -/
def Interpreter.UnrecordedZero (b : World) (i : Interpreter) : Prop :=
  ∀ a slot, ¬i.addressStorageSet.recorded (a, slot) →
    (StateDB.open b).getCommittedState a slot = 0

theorem Interpreter.UnrecordedZero.mono {b : World} {i i' : Interpreter}
    (h : i.UnrecordedZero b) (hk : i'.Keeps i) : i'.UnrecordedZero b :=
  fun a slot ha => h a slot fun hr => ha (hk.covers (show i.Covers (.storage a slot) from hr))

/-- The Go panics of the lazy fork: `peek` on an empty stack in a hook, a value past 256
bits in `MustFromBig`, and the panics the remote's client raises. -/
def ForkPanic (remote : Remote) (err : Abort) : Prop :=
  err = .panic "runtime error: index out of range [-1]" ∨ err = .panic "overflow" ∨
    remote.ClientPanic err

/-- A fork computation that keeps the refund invariant on `b` and `UnrecordedZero b`,
and aborts only out of fuel or with a fork panic. -/
def ForkKeepsRefund {α : Type} (remote : Remote) (b : World) (x : ForkM α) : Prop :=
  ∀ e : Evm, e.interpreter.UnrecordedZero b → e.stateDB.RefundInv b →
    RefundResult b (Interpreter.UnrecordedZero b) (ForkPanic remote) (x e)

section ForkHooks

variable {remote : Remote} {b : World}

theorem forkKeepsRefund_pure {α : Type} (a : α) : ForkKeepsRefund remote b (pure a : ForkM α) :=
  fun _ hQ hinv => ⟨hQ, hinv⟩

theorem forkKeepsRefund_bind {α β : Type} {x : ForkM α} {f : α → ForkM β}
    (hx : ForkKeepsRefund remote b x) (hf : ∀ a, ForkKeepsRefund remote b (f a)) :
    ForkKeepsRefund remote b (x >>= f) := by
  intro e hQ hinv
  have h := hx e hQ hinv
  simp only [bind, EStateM.bind]
  rcases hr : x e with ⟨a, e'⟩ | ⟨err, e'⟩ <;> rw [hr] at h
  · exact hf a e' h.1 h.2
  · exact h

theorem registerAddressStorage_keepsRefund (self : Address) (stack : List Word) :
    ForkKeepsRefund remote b (registerAddressStorage remote self stack) := by
  intro e hQ hinv
  unfold registerAddressStorage
  split
  · exact ⟨hQ, hinv⟩
  · split
    · exact ⟨hQ, hinv⟩
    · next loc _ hrec =>
      split
      · next hq => exact .inr (.inr (.inr (Remote.call_eq_error _ hq).2))
      · exact ⟨hQ, hinv⟩
      · next v _ =>
        refine ⟨hQ.mono (Interpreter.keeps_recordStorage _ _ _ hrec),
          (StateDB.grows_setState ?_ v).refundInv hinv⟩
        exact (@StateDB.getCommittedState_of_base_eq (StateDB.open b) _ hinv.1 self loc).trans
          (hQ self loc hrec)

theorem fetchCode_keepsRefund (addr : Address) :
    ForkKeepsRefund remote b (fetchCode remote addr) := by
  intro e hQ hinv
  unfold fetchCode
  split
  · next hq => exact .inr (.inr (.inr (Remote.call_eq_error _ hq).2))
  · exact ⟨hQ, hinv⟩
  · refine ⟨hQ.mono (Interpreter.keeps_recordCode _ _),
      (StateDB.Grows.trans ?_ (StateDB.grows_setCode _ _)).refundInv hinv⟩
    split_ifs with hex
    · exact .refl
    · exact StateDB.grows_createAccount fun slot =>
        hinv.2.committed_of_not_exist addr slot (Bool.eq_false_iff.2 hex)

theorem registerBalance_keepsRefund (addr : Address) (value : Word) :
    ForkKeepsRefund remote b (registerBalance remote addr value) := by
  intro e hQ hinv
  by_cases hcond : e.stateDB.getBalance addr < value ∧ addr ∉ e.interpreter.addressBalanceSet
  · dsimp only [registerBalance]
    rw [if_pos hcond]
    rcases hq : remote.balance addr with err | msg | bal
    · exact .inr (.inr (.inr (Remote.call_eq_error _ hq).2))
    · exact ⟨hQ, hinv⟩
    · dsimp only
      rcases hm : mustFromBig bal with err | balance
      · exact .inr (.inr (.inl (mustFromBig_overflow hm)))
      dsimp only
      split_ifs
      · exact ⟨hQ.mono (Interpreter.keeps_recordBalance _ _),
          (StateDB.grows_addBalance _ _).refundInv hinv⟩
      · exact ⟨hQ, hinv⟩
  · dsimp only [registerBalance]
    rw [if_neg hcond]
    exact ⟨hQ, hinv⟩

theorem registerAddressCodeForCalls_keepsRefund (op : OpCode) (stack : List Word) :
    ForkKeepsRefund remote b (registerAddressCodeForCalls remote op stack) := by
  intro e hQ hinv
  unfold registerAddressCodeForCalls
  split
  · next addrWord valueWord _ =>
    split
    · exact ⟨hQ, hinv⟩
    · have h₁ := @fetchCode_keepsRefund remote b addrWord.toAddress e hQ hinv
      rcases hf : fetchCode remote addrWord.toAddress e
        with ⟨_ | msg, e₁⟩ | ⟨err, e₁⟩ <;> rw [hf] at h₁
      · dsimp only
        split
        · exact registerBalance_keepsRefund _ _ e₁ h₁.1 h₁.2
        · exact h₁
      · exact h₁
      · exact h₁
  · exact ⟨hQ, hinv⟩

theorem registerAddressCodeForExt_keepsRefund (stack : List Word) :
    ForkKeepsRefund remote b (registerAddressCodeForExt remote stack) := by
  intro e hQ hinv
  unfold registerAddressCodeForExt
  split
  · split
    · exact ⟨hQ, hinv⟩
    · exact fetchCode_keepsRefund _ e hQ hinv
  · exact ⟨hQ, hinv⟩

theorem registerHooks_keepsRefund (op : OpCode) (self : Address) (stack : List Word) :
    ForkKeepsRefund remote b (registerHooks remote op self stack) := by
  unfold registerHooks
  split_ifs
  · exact registerAddressStorage_keepsRefund _ _
  · exact registerAddressCodeForCalls_keepsRefund _ _
  · exact registerAddressCodeForExt_keepsRefund _
  · exact forkKeepsRefund_pure _

theorem appendToAccessList_panic {self : Address} {stack : List Word} {i : Interpreter}
    {err : Abort} (h : appendToAccessList self stack i = .error err) :
    err = .panic "runtime error: index out of range [-1]" := by
  unfold appendToAccessList at h
  split at h
  · cases h
    rfl
  · split_ifs at h

/-- The lazy fork's hooks keep the refund invariant while every key the record lacks has
committed value zero, and abort only with a fork panic. -/
theorem preDispatch_keepsRefund :
    Hook.KeepsRefund b (Interpreter.UnrecordedZero b) (ForkPanic remote) (preDispatch remote) := by
  intro op self stack e hQ hinv
  have hswitch := @registerHooks_keepsRefund remote b op self stack e hQ hinv
  unfold preDispatch
  rcases hr : registerHooks remote op self stack e with ⟨_ | msg, e₁⟩ | ⟨err, e₁⟩ <;>
    rw [hr] at hswitch
  · dsimp only
    split
    · split
      · next i hi => exact ⟨hswitch.1.mono (appendToAccessList_keeps hi).1, hswitch.2⟩
      · next err hi => exact .inr (.inl (appendToAccessList_panic hi))
    · exact hswitch
  · exact hswitch
  · exact hswitch

end ForkHooks

/-! ## Execute and Simulate -/

section Execute

variable {remote : Remote} {b : World}

theorem ensureOrigin_refundInv (origin : Address) {e : Evm} (h : e.stateDB.RefundInv b) :
    (ensureOrigin origin e).stateDB.RefundInv b := by
  unfold ensureOrigin
  split_ifs with hnone
  · refine (StateDB.grows_createAccount fun slot => ?_).refundInv h
    simp [StateDB.getCommittedState, Option.isNone_iff_eq_none.1 hnone]
  · exact h

theorem installTarget_refundInv (address : Address) (code : Bytes) {e : Evm}
    (h : e.stateDB.RefundInv b) : (installTarget address code e).stateDB.RefundInv b := by
  unfold installTarget
  split_ifs with hex
  · exact h
  · exact ((StateDB.grows_createAccount fun slot =>
      h.2.committed_of_not_exist address slot (Bool.eq_false_iff.2 hex)).trans
      (StateDB.grows_setCode _ _)).refundInv h

theorem prepareExecution_keepsRefund (address : Address) (originBalance : Int) (code : Bytes)
    (cfg : Config) (record : Option RecordToInitiateState) :
    ForkKeepsRefund remote b (prepareExecution address originBalance code cfg record) := by
  intro e hQ hinv
  have h₀ := ensureOrigin_refundInv cfg.origin hinv
  have hprep := @prepareExecution_keeps address originBalance code cfg record e
  simp only [prepareExecution]
  split
  · next err hf =>
    unfold fundOrigin at hf
    split_ifs at hf
    · cases hm : mustFromBig originBalance <;> rw [hm] at hf <;> cases hf
      exact .inr (.inr (.inl (mustFromBig_overflow hm)))
    · cases hf
  · next e₁ hf =>
    refine ⟨hQ.mono (@hprep _ () (by simp only [prepareExecution, hf])),
      installTarget_refundInv _ _ ?_⟩
    refine (StateDB.grows_prepare _ _ _ _).refundInv ?_
    unfold fundOrigin at hf
    split_ifs at hf
    · cases hm : mustFromBig originBalance <;> rw [hm] at hf <;> cases hf
      exact (StateDB.grows_setBalance _ _).refundInv h₀
    · cases hf
      exact h₀

theorem mustFromBigM_keepsRefund (x : Int) : ForkKeepsRefund remote b (mustFromBigM x) := by
  intro e hQ hinv
  unfold mustFromBigM
  split
  · exact ⟨hQ, hinv⟩
  · next err hm => exact .inr (.inr (.inl (mustFromBig_overflow hm)))

/-- A computation whose every abort satisfies `E`. -/
def AbortsOnly {σ α : Type} (E : Abort → Prop) (x : EStateM Abort σ α) : Prop :=
  ∀ s err s', x s = .error err s' → E err

/-- The aborts of `Execute` and `Simulate`: out of fuel, or a fork panic. -/
def ForkAbort (remote : Remote) (err : Abort) : Prop := err = .outOfFuel ∨ ForkPanic remote err

/-- `Execute` on a state store that holds the refund invariant, with committed value zero
at every key the record lacks, aborts only out of fuel or with a fork panic. -/
theorem execute_abortsOnly (remote : Remote) (fuel : Nat) (address : Address)
    (originBalance : Int) (code input : Bytes) (cfg : Config) {db : StateDB}
    {record : Option RecordToInitiateState} (hdb : db.RefundCovers)
    (hzero : (Interpreter.new record).UnrecordedZero db.base) :
    AbortsOnly (ForkAbort remote)
      (execute remote fuel address originBalance code input cfg db record) := by
  intro log err log' h
  have hx : ForkKeepsRefund remote db.base
      (prepareExecution address originBalance code cfg.setDefaults record >>= fun _ =>
        mustFromBigM cfg.setDefaults.value >>= fun value =>
        callFromOrigin (preDispatch remote) fuel cfg.setDefaults.env address input
          cfg.setDefaults.gasLimit value >>= fun r =>
        get >>= fun e => pure (finishExecution input cfg.setDefaults r e, e.stateDB)) :=
    forkKeepsRefund_bind (prepareExecution_keepsRefund _ _ _ _ _) fun _ =>
    forkKeepsRefund_bind (mustFromBigM_keepsRefund _) fun _ =>
    forkKeepsRefund_bind (fun e hQ hinv =>
      callFromOrigin_keepsRefund preDispatch_keepsRefund fuel _ _ _ _ _ e hQ hinv) fun _ =>
    forkKeepsRefund_bind (fun _ hQ hinv => ⟨hQ, hinv⟩) fun _ => forkKeepsRefund_pure _
  have hrun := hx (Evm.init db record log) hzero ⟨rfl, hdb⟩
  simp only [execute, onFork, EStateM.run] at h
  split at h
  · cases h
  · next e' hr =>
    cases h
    rw [hr] at hrun
    exact hrun

end Execute

/-! ## Simulate -/

section Simulate

variable {σ α β : Type} {E : Abort → Prop}

theorem abortsOnly_pure (a : α) : AbortsOnly E (pure a : EStateM Abort σ α) :=
  fun _ _ _ h => nomatch h

theorem abortsOnly_bind {x : EStateM Abort σ α} {f : α → EStateM Abort σ β}
    (hx : AbortsOnly E x) (hf : ∀ a, AbortsOnly E (f a)) : AbortsOnly E (x >>= f) := by
  intro s err s' h
  simp only [bind, EStateM.bind] at h
  split at h
  · exact hf _ _ _ _ h
  · cases h
    exact hx _ _ _ (by assumption)

theorem fetch_abortsOnly (r : Request) {answer : Except Abort (Except String α)}
    (h : ∀ err, answer = .error err → E err) : AbortsOnly E (fetch r answer) := by
  intro log err log' hf
  unfold fetch at hf
  split at hf
  · cases hf
  · cases hf
    exact h _ rfl

/-- A client call aborts only with a fork panic. -/
theorem call_forkAbort {remote : Remote} {q : Request} {answer : Except String α} :
    ∀ err, remote.call q answer = .error err → ForkAbort remote err :=
  fun _ h => .inr (.inr (.inr (Remote.call_eq_error _ h).2))

theorem targetCode_abortsOnly (remote : Remote) (sim : Simulation) (db : StateDB) :
    AbortsOnly (ForkAbort remote) (targetCode remote sim db) := by
  unfold targetCode
  split_ifs <;> first | exact fetch_abortsOnly _ call_forkAbort | exact abortsOnly_pure _

theorem simulateBalance_abortsOnly (remote : Remote) (sim : Simulation) (db : StateDB) :
    AbortsOnly (ForkAbort remote) (simulateBalance remote sim db) := by
  unfold simulateBalance
  split_ifs
  · refine abortsOnly_bind (fetch_abortsOnly _ call_forkAbort) fun b => ?_
    cases b <;> exact abortsOnly_pure _
  · exact abortsOnly_pure _

/-- A store opened on a world has every slot's committed value as its current one. -/
theorem getCommittedState_open (w : World) (a : Address) (slot : Word) :
    (StateDB.open w).getCommittedState a slot = (StateDB.open w).getState a slot := by
  cases hw : w a <;> simp [StateDB.open, StateDB.getCommittedState, StateDB.getState,
    StateDB.account, hw]

/-- A freshly opened store holds the refund invariant: it has no cleared slot. -/
theorem refundCovers_open (w : World) : (StateDB.open w).RefundCovers where
  covers T hT := by
    rw [Finset.eq_empty_of_forall_not_mem fun k hk =>
      (hT k hk).1 ((getCommittedState_open w k.1 k.2).trans (hT k hk).2)]
    simp
  committed_of_not_exist a slot ha := by
    cases hw : w a with
    | none => simp [StateDB.open, StateDB.getCommittedState, hw]
    | some acc => simp [StateDB.open, StateDB.exist, hw] at ha

/-- In an ideal state every key its record lacks has committed value zero. -/
theorem unrecordedZero_initIdealState (origin : StateDB) (r : RecordToInitiateState) :
    (Interpreter.new (some r)).UnrecordedZero (initIdealState origin r).base :=
  fun a _ h => (getCommittedState_open _ a _).trans
    (getState_initIdealState_of_not_recorded origin r a h)

/-- A record whose absent keys have committed value zero in `db`, as a fork record. -/
theorem unrecordedZero_new {db : StateDB} {record : Option RecordToInitiateState}
    (hzero : ∀ a slot, (∀ r ∈ record, ¬r.addressStorageSet.recorded (a, slot)) →
      db.getCommittedState a slot = 0) :
    (Interpreter.new record).UnrecordedZero db.base := fun a slot h =>
  hzero a slot fun r hr => by
    cases record <;> cases hr
    exact h

/-- Both passes of `Simulate` on such a state abort only out of fuel or with a fork panic:
the accounting pass runs on an ideal state, which always holds the invariant. -/
theorem simulate_abortsOnly (remote : Remote) (fuel : Nat) (sim : Simulation) {db : StateDB}
    {recordInitializer : Option RecordToInitiateState} (hdb : db.RefundCovers)
    (hzero : ∀ a slot, (∀ r ∈ recordInitializer, ¬r.addressStorageSet.recorded (a, slot)) →
      db.getCommittedState a slot = 0) :
    AbortsOnly (ForkAbort remote) (simulate remote fuel sim db recordInitializer) := by
  have hzero₁ : (Interpreter.new (recordInitializer.map fun r =>
      { r with accessList := [] })).UnrecordedZero db.base :=
    unrecordedZero_new fun a slot h => hzero a slot fun r hr =>
      h { r with accessList := [] } (Option.mem_map_of_mem _ hr)
  unfold simulate
  refine abortsOnly_bind (targetCode_abortsOnly remote sim db) fun c => ?_
  rcases c with _ | code
  · exact abortsOnly_pure _
  refine abortsOnly_bind (simulateBalance_abortsOnly remote sim db) fun bal => ?_
  rcases bal with _ | balance
  · exact abortsOnly_pure _
  refine abortsOnly_bind (execute_abortsOnly remote fuel _ _ _ _ _ hdb hzero₁)
    fun ⟨res₁, db₁⟩ => ?_
  rcases res₁ with _ | r₁
  · exact abortsOnly_pure _
  exact abortsOnly_bind (execute_abortsOnly remote fuel _ _ _ _ _ (refundCovers_open _)
    (unrecordedZero_initIdealState db₁ r₁.record)) fun _ => abortsOnly_pure _

end Simulate

/-- `Simulate` on any remote source, with more fuel than the transaction's gas limit and on
such a state, aborts only with a fork panic. -/
theorem simulate_forkPanic (remote : Remote) {fuel : Nat} {sim : Simulation} {db : StateDB}
    {recordInitializer : Option RecordToInitiateState}
    (hfuel : (configFromSimulation sim).setDefaults.gasLimit < fuel) (hdb : db.RefundCovers)
    (hzero : ∀ a slot, (∀ r ∈ recordInitializer, ¬r.addressStorageSet.recorded (a, slot)) →
      db.getCommittedState a slot = 0)
    {log : List Request} {err : Abort} {log' : List Request}
    (h : (simulate remote fuel sim db recordInitializer).run log = .error err log') :
    ForkPanic remote err :=
  (simulate_abortsOnly remote fuel sim hdb hzero log err log' h).resolve_left
    (simulate_panicsOnly remote hfuel db recordInitializer log err log' h)

/-- The committed-zero hypothesis cannot be dropped. A store whose slot 0 of `0x11` holds 1
where the remote holds 0 keeps the refund invariant, yet its `SLOAD` hook writes the
remote 0 over the current 1, which clears the slot without a refund, and the `SSTORE` of
1 that follows panics in the refund counter. -/
theorem simulate_refund_panic_on_stale_commit :
    let w : World := fun a => if a = 0x11 then
      some { code := [0x5f, 0x54, 0x50, 0x60, 0x01, 0x5f, 0x55, 0x00]
             storage := fun slot => if slot = 0 then 1 else 0 } else none
    (StateDB.open w).RefundCovers ∧
      ∃ log', (simulate (Remote.ofWorld fun _ => none) 20
          { fromAddr := 0xa, toAddr := 0x11, gasLimit := 100000, value := 0, input := [],
            code := [] } (StateDB.open w) none).run [] =
        .error (.panic "Refund counter below zero") log' :=
  ⟨refundCovers_open _, _, rfl⟩

/-! ## The discovery passes of a bundle -/

section Bundle

variable {remote : Remote} {fuel : Nat}

/-- What a pass leaves for the next one on the committed world `b`: a store that holds
the refund invariant, and, if it succeeded, a record whose absent keys have committed
value zero. -/
def ReadyForNextPass {α : Type} (record : α → RecordToInitiateState) (b : World)
    (out : Except SimError α × StateDB) : Prop :=
  out.2.RefundInv b ∧
    ∀ res, out.1 = .ok res → (Interpreter.new (some (record res))).UnrecordedZero b

theorem readyForNextPass_error {α : Type} (record : α → RecordToInitiateState) {b : World}
    (err : SimError) {db : StateDB} (h : db.RefundInv b) :
    ReadyForNextPass record b (.error err, db) :=
  ⟨h, fun _ h => nomatch h⟩

theorem execute_ready {address : Address} {originBalance : Int} {code input : Bytes}
    {cfg : Config} {db : StateDB} {record : Option RecordToInitiateState}
    (hdb : db.RefundCovers) (hzero : (Interpreter.new record).UnrecordedZero db.base) :
    Returns (ReadyForNextPass ExecutionResult.record db.base)
      (execute remote fuel address originBalance code input cfg db record) := by
  intro log out log' h
  obtain ⟨e₁, value, r, e₂, hp, hc, rfl⟩ := execute_inv h
  have h₁ := @prepareExecution_keepsRefund remote _ address originBalance code cfg.setDefaults
    record (Evm.init db record log) hzero ⟨rfl, hdb⟩
  rw [hp] at h₁
  have h₂ := callFromOrigin_keepsRefund (@preDispatch_keepsRefund remote _) fuel
    cfg.setDefaults.env address input cfg.setDefaults.gasLimit value e₁ h₁.1 h₁.2
  rw [hc] at h₂
  exact ⟨h₂.2, fun res hres => by rw [finishExecution_record hres]; exact h₂.1⟩

theorem unoptimalBalance_abortsOnly (sim : Simulation) (db : StateDB) :
    AbortsOnly (ForkAbort remote) (unoptimalBalance remote sim db) := by
  dsimp only [unoptimalBalance]
  split_ifs
  · exact abortsOnly_bind (fetch_abortsOnly _ call_forkAbort) fun b => by
      cases b <;> exact abortsOnly_pure _
  · exact abortsOnly_bind (abortsOnly_pure _) fun b => by cases b <;> exact abortsOnly_pure _

theorem unoptimalSimulation_abortsOnly {sim : Simulation} {db : StateDB}
    {record : Option RecordToInitiateState} (hdb : db.RefundCovers)
    (hzero : (Interpreter.new record).UnrecordedZero db.base) :
    AbortsOnly (ForkAbort remote) (unoptimalSimulation remote fuel sim db record) := by
  unfold unoptimalSimulation
  refine abortsOnly_bind (targetCode_abortsOnly remote sim db) fun c => ?_
  rcases c with _ | code
  · exact abortsOnly_pure _
  refine abortsOnly_bind (unoptimalBalance_abortsOnly sim db) fun bal => ?_
  rcases bal with _ | balance
  · exact abortsOnly_pure _
  exact abortsOnly_bind (execute_abortsOnly remote fuel _ _ _ _ _ hdb hzero) fun _ =>
    abortsOnly_pure _

/-- A pass of a bundle from a store and record fit for it leaves the next pass a store
and a record fit for it, on the same committed world. -/
theorem unoptimalSimulation_ready {sim : Simulation} {db : StateDB}
    {record : Option RecordToInitiateState} (hdb : db.RefundCovers)
    (hzero : (Interpreter.new record).UnrecordedZero db.base) :
    Returns (ReadyForNextPass SimulationResult.record db.base)
      (unoptimalSimulation remote fuel sim db record) := by
  unfold unoptimalSimulation
  refine returns_bind (returns_true _) fun c _ => ?_
  rcases c with msg | code
  · exact returns_pure (readyForNextPass_error _ _ ⟨rfl, hdb⟩)
  refine returns_bind (returns_true _) fun b _ => ?_
  rcases b with msg | balance
  · exact returns_pure (readyForNextPass_error _ _ ⟨rfl, hdb⟩)
  refine returns_bind (execute_ready hdb hzero) fun ⟨res, db'⟩ h => returns_pure ⟨h.1, ?_⟩
  intro r hr
  cases res with
  | error err => cases hr
  | ok r₁ =>
    cases hr
    exact h.2 r₁ rfl

/-- The discovery passes of a bundle, from a store and record fit for the first, abort
only out of fuel or with a fork panic: each pass leaves the next one a store and a record
fit for it. -/
theorem bundleDiscovery_abortsOnly : ∀ (sims : List Simulation) (db : StateDB)
    (record : Option RecordToInitiateState), db.RefundCovers →
    (Interpreter.new record).UnrecordedZero db.base →
    AbortsOnly (ForkAbort remote) (bundleDiscovery remote fuel sims db record)
  | [], _, _, _, _ => fun _ _ _ h => nomatch h
  | sim :: sims, db, record, hdb, hzero => by
    intro log err log' h
    simp only [bundleDiscovery] at h
    rcases hu : unoptimalSimulation remote fuel sim db record log
      with ⟨⟨err₁ | res, db₁⟩, log₁⟩ | ⟨err₁, log₁⟩ <;> rw [hu] at h
    · cases h
    · have hready := unoptimalSimulation_ready hdb hzero log _ _ hu
      have hnext : (Interpreter.new (some { res.record with accessList := [] })).UnrecordedZero
          db₁.base := by
        rw [hready.1.1]
        exact hready.2 res rfl
      rcases hb : bundleDiscovery remote fuel sims db₁ (some { res.record with accessList := [] })
          log₁ with ⟨⟨err₂ | ⟨lists, record₂⟩, db₂⟩, log₂⟩ | ⟨err₂, log₂⟩ <;>
        simp only [hb, EStateM.Result.error.injEq, reduceCtorEq] at h
      obtain ⟨rfl, rfl⟩ := h
      exact bundleDiscovery_abortsOnly sims db₁ _ hready.1.2 hnext _ _ _ hb
    · cases h
      exact unoptimalSimulation_abortsOnly hdb hzero _ _ _ hu

end Bundle

end EvmSimulator
