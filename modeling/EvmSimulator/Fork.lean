import EvmSimulator.Simulator

/-!
# Runs of the lazy fork

The opcode semantics see the state store alone; only the hook reads or writes the fork
record and the request log. `run_preserves` makes this a reusable frame result: a
property of the system that does not look at the state store (`StoreIndependent`) and
that the hook keeps, every run keeps, whatever the program, the call tree and the
reverts, and however the run ends (`Preserves` looks at the system a computation leaves
when it returns and when it aborts). `callFromOrigin_preserves` lifts it to the
outermost call.

`enterCallee` settles a callee's frame error as a failed call: the caller resumes, and
the state store, but not the fork record, goes back to the snapshot (`enterCallee_fail`).
So a failed remote request in a nested frame is absorbed
(`simulate_absorbs_failed_request`), and a code fetch in a reverted frame leaves its
address recorded with no code (`execute_call_after_reverted_fetch`). The SLOAD hook
installs the remote value over whatever the slot holds (`registerAddressStorage_getState`).
The hooks run before the stack is checked against the opcode's minimum, so an underflow
can panic in a hook, or be reported only after a hook has grown the access list or
fetched and recorded code (`run_hooks_before_stack_check`).
-/

namespace EvmSimulator

/-- A property of the system that does not depend on the state store. -/
def StoreIndependent (P : Evm → Prop) : Prop := ∀ e db, P (e.withStateDB db) ↔ P e

/-- `x` keeps `P` of the system, whether it returns or aborts. -/
def Preserves {α : Type} (P : Evm → Prop) (x : ForkM α) : Prop :=
  ∀ e, P e → P (stateAfter (x e))

/-! ## The frame result -/

section Frame

variable {P : Evm → Prop} (hP : StoreIndependent P)
include hP

theorem settle_preserves (snapshot : StateDB) (r : RunResult) (db : StateDB) {e : Evm}
    (he : P e) : P (stateAfter (settle snapshot r db e)) := by
  unfold settle
  split <;> exact (hP _ _).2 he

theorem enterCallee_preserves {runCode : Context → Frame → ForkM RunResult}
    (hrun : ∀ ctx f, Preserves P (runCode ctx f)) (callee : Context) (gas : Nat)
    (db snapshot : StateDB) : Preserves P (enterCallee runCode callee gas db snapshot) := by
  intro e he
  have hstart : P (e.withStateDB db) := (hP e db).2 he
  have hres : P (stateAfter (if callee.code.isEmpty then .ok ⟨[], none, gas⟩ (e.withStateDB db)
      else runCode callee { gas } (e.withStateDB db))) := by
    split
    · exact hstart
    · exact hrun _ _ _ hstart
  simp only [enterCallee]
  split
  · next r e' h =>
    rw [h, stateAfter_ok] at hres
    split <;> exact settle_preserves hP _ _ _ hres
  · next err e' h => rwa [h] at hres

/-- Whatever the hook keeps and the state store cannot affect, every run keeps. -/
theorem run_preserves {hook : Hook} (hhook : ∀ op a st, Preserves P (hook op a st)) :
    ∀ fuel ctx f, Preserves P (run hook fuel ctx f) := by
  intro fuel
  induction fuel with
  | zero => intro _ _ e he; exact he
  | succ fuel ih =>
    intro ctx f e he
    have h₁ := hhook (getOp ctx.code f.pc) ctx.address f.stack e he
    simp only [run]
    split
    · next e₁ h =>
      rw [h, stateAfter_ok] at h₁
      split
      · exact ih _ _ _ ((hP _ _).2 h₁)
      · exact (hP _ _).2 h₁
      · next callee gas db snapshot resume _ =>
        have h₂ := enterCallee_preserves hP ih callee gas db snapshot e₁ h₁
        split
        · next r e₂ h => rw [h, stateAfter_ok] at h₂; exact ih _ _ _ h₂
        · next err e₂ h => rwa [h] at h₂
      · exact h₁
    · next msg e₁ h => rwa [h] at h₁
    · next err e₁ h => rwa [h] at h₁

theorem callFromOrigin_preserves {hook : Hook} (hhook : ∀ op a st, Preserves P (hook op a st))
    (fuel : Nat) (env : Env) (addr : Address) (input : Bytes) (gas : Nat) (value : Word) :
    Preserves P (callFromOrigin hook fuel env addr input gas value) := by
  intro e he
  simp only [callFromOrigin]
  split
  · exact (hP _ _).2 he
  · exact enterCallee_preserves hP (run_preserves hP hhook fuel) _ _ _ _ e he

end Frame

/-! ## Calls to empty code -/

/-- A call to an address without code finishes at once: value moves, no frame runs. -/
theorem evmCall_of_code_empty (ctx : Context) (addr : Address) (input : Bytes) (gas : Nat)
    (value : Word) {db : StateDB} (h : db.getCode addr = []) :
    ∃ r db', evmCall ctx addr input gas value db = .done r db' := by
  unfold evmCall
  split_ifs <;> simp_all

/-- And a call that passes the depth and balance checks succeeds, with all its gas. -/
theorem evmCall_transfer_of_code_empty {ctx : Context} {addr : Address} {input : Bytes} {gas : Nat}
    {value : Word} {db : StateDB} (h : db.getCode addr = [])
    (hdepth : ctx.depth ≤ callCreateDepth)
    (hfunds : ¬(value ≠ 0 ∧ db.getBalance ctx.address < value)) :
    ∃ db', evmCall ctx addr input gas value db = .done ⟨[], none, gas⟩ db' := by
  have hcode : (((if db.exist addr then db else db.createAccount addr).subBalance ctx.address
      value).addBalance addr value).getCode addr = [] := by
    split <;> simp [h]
  unfold evmCall
  rw [if_neg (not_lt.2 hdepth), if_neg hfunds]
  by_cases hnew : ¬db.exist addr ∧ value = 0
  · exact ⟨_, if_pos hnew⟩
  · rw [if_neg hnew]
    exact ⟨_, if_pos (by simp only [hcode, List.isEmpty_nil])⟩

/-- So the outermost call to such an address runs no hook: the fork record and the
request log stay as they are. -/
theorem callFromOrigin_of_code_empty (hook : Hook) (fuel : Nat) (env : Env) (addr : Address)
    (input : Bytes) (gas : Nat) (value : Word) {e : Evm} (h : e.stateDB.getCode addr = []) :
    ∃ r db', callFromOrigin hook fuel env addr input gas value e
      = .ok r (e.withStateDB db') := by
  obtain ⟨r, db', hcall⟩ := evmCall_of_code_empty (Context.ofTx env) addr input gas value h
  exact ⟨r, db', by simp only [callFromOrigin, hcall]⟩

/-! ## Settling a callee -/

section Settle

variable {runCode : Context → Frame → ForkM RunResult} {callee : Context} {gas : Nat}
  {db snapshot : StateDB} {e e' : Evm} {r : RunResult}

/-- A callee that ends with an error is settled as a failed call: the state store goes
back to the snapshot, the fork record and the request log stay as the callee left them,
its gas is kept only after a revert, and the caller resumes. -/
theorem enterCallee_fail (hcode : callee.code.isEmpty = false)
    (hrun : runCode callee { gas } (e.withStateDB db) = .ok r e') {err : VmError}
    (herr : r.err = some err) :
    enterCallee runCode callee gas db snapshot e
      = .ok { r with gas := if err = .executionReverted then r.gas else 0 }
        (e'.withStateDB snapshot) := by
  simp only [enterCallee, hcode, Bool.false_eq_true, if_false, hrun, deposit_of_error herr]
  split <;> simp [settle, herr]

/-- A reverted sub-call keeps in the code set the address whose code it fetched, while
the revert drops the code: the later call to that address runs empty code. The target
calls `0x22`, which reads `0x33`'s code size and reverts, then calls `0x33`, whose
remote code returns 1. -/
theorem execute_call_after_reverted_fetch :
    (match (execute (Remote.ofWorld fun a =>
        if a = 0x22 then some { code := [0x60, 0x33, 0x3b, 0x50, 0x5f, 0x5f, 0xfd] }
        else if a = 0x33 then some { code := [0x60, 0x01, 0x5f, 0x52, 0x60, 0x20, 0x5f, 0xf3] }
        else none) 40 0x11 0
        [0x5f, 0x5f, 0x5f, 0x5f, 0x5f, 0x60, 0x22, 0x5a, 0xf1, 0x50, 0x60, 0x20, 0x5f, 0x5f, 0x5f,
          0x5f, 0x60, 0x33, 0x5a, 0xf1, 0x50, 0x60, 0x20, 0x5f, 0xf3]
        [] { origin := 0xa, gasLimit := 300000, value := 0 } (StateDB.open fun _ => none) none).run []
      with
      | .ok (.ok r, db) _ =>
        (r.ret, decide ((0x33 : Address) ∈ r.record.addressCodeSet), db.getCode 0x33)
      | _ => ([], false, [1])) = ((0 : Word).toBytes32, true, []) := by
  decide

/-- A remote request that fails in a nested frame is absorbed: the callee fails, the
caller continues and `Simulate` succeeds. The target calls `0x22`, whose `SLOAD` request
fails in both passes. -/
theorem simulate_absorbs_failed_request :
    (match (simulate { Remote.ofWorld (fun a =>
        if a = 0x22 then some { code := [0x5f, 0x54, 0x00] }
        else if a = 0x11 then some { code := [0x5f, 0x5f, 0x5f, 0x5f, 0x5f, 0x60, 0x22, 0x5a, 0xf1, 0x00] }
        else none) with getStorageAt := fun _ _ => .error "429 Too Many Requests" } 20
        { fromAddr := 0xa, toAddr := 0x11, gasLimit := 300000, value := 0, input := [], code := [] }
        (StateDB.open fun _ => none) none).run [] with
      | .ok (res, _) log => (res.toBool, log)
      | .error _ log => (false, log))
      = (true, [.code 0x11, .code 0x22, .storage 0x22 0, .storage 0x22 0]) := by
  decide

end Settle

/-! ## The storage hook -/

/-- The `SLOAD` hook installs the remote value of an unrecorded slot over whatever the
slot holds, a write earlier in the run included. -/
theorem registerAddressStorage_getState {remote : Remote} {self : Address} {loc v : Word}
    {rest : List Word} {e : Evm} (hrec : ¬e.interpreter.addressStorageSet.recorded (self, loc))
    (hv : remote.storageAt self loc = .ok (.ok v)) :
    ∃ e', registerAddressStorage remote self (loc :: rest) e = .ok none e' ∧
      e'.stateDB.getState self loc = v ∧
        e'.interpreter.addressStorageSet.recorded (self, loc) := by
  simp only [registerAddressStorage, dif_neg hrec, hv]
  exact ⟨_, rfl, by simp, by simp [Interpreter.recordStorage, StorageSet.recorded]⟩

/-- `TestSimulate`'s program in its discovery pass: it stores its input 32 in slot 0 and
loads the slot back, but the load fetches the remote value 5 over the write. -/
theorem execute_sload_after_sstore :
    ((execute (Remote.ofWorld fun a => if a = 0x11 then some { storage := fun s => if s = 0 then 5 else 0 }
        else none) 20 0x11 0 [0x5f, 0x35, 0x5f, 0x55, 0x5f, 0x54, 0x5f, 0x52, 0x60, 0x20, 0x5f, 0xf3]
        (32 : Word).toBytes32 { origin := 0xa, gasLimit := 300000, value := 0 }
        (StateDB.open fun _ => none) none).run' []).bind (fun (res, _) => res.toOption.map (·.ret))
      = some (5 : Word).toBytes32 := by
  decide

/-! ## Hooks before the stack check -/

/-- The hooks of `Run` run before the stack is validated. On a stack below the opcode's
minimum, one loop iteration of `SSTORE` on an empty stack panics in `peek`; `SSTORE` with
one item adds its slot to the access list; and `CALL` with three items fetches, installs
and records the callee's code; both then fail with a stack underflow. -/
theorem run_hooks_before_stack_check :
    (match run (preDispatch (Remote.ofWorld fun a => if a = 0x22 then some { code := [0] }
        else none)) 1 { Context.origin 0x11 with code := [SSTORE] } { gas := 100000 }
        (Evm.init (StateDB.open fun _ => none) none []) with
      | .error err _ => some err
      | .ok _ _ => none) = some (.panic "runtime error: index out of range [-1]") ∧
    (match run (preDispatch (Remote.ofWorld fun a => if a = 0x22 then some { code := [0] }
        else none)) 1 { Context.origin 0x11 with code := [SSTORE] } { gas := 100000, stack := [7] }
        (Evm.init (StateDB.open fun _ => none) none []) with
      | .ok r e => (r.err, e.interpreter.accessList)
      | .error _ _ => (none, [])) = (some (.stackUnderflow 1 2), [⟨0x11, [7]⟩]) ∧
    (match run (preDispatch (Remote.ofWorld fun a => if a = 0x22 then some { code := [0] }
        else none)) 1 { Context.origin 0x11 with code := [CALL] }
        { gas := 100000, stack := [100000, 0x22, 0] }
        (Evm.init (StateDB.open fun _ => none) none []) with
      | .ok r e => (r.err, e.requests, e.interpreter.addressCodeSet, e.stateDB.getCode 0x22)
      | .error _ _ => (none, [], [], [])) =
      (some (.stackUnderflow 3 7), [.code 0x22], [0x22], [0]) := by
  decide

end EvmSimulator
