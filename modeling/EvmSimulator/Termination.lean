import EvmSimulator.Requests

/-!
# Gas bounds the loop

`run` takes a fuel argument where the source's loop has none: `Run` ends because every
iteration that does not halt spends gas. This module shows that the fuel is never what
stops a run once it exceeds the gas. Every step of `dispatch` that carries on spends at
least one unit of gas, a call forwards no more gas than it charges, a create no more than
the frame has left, and a halting step returns no more than it had
(`dispatch_bounded`); a frame never returns more gas than it was given. So a frame with
less gas than fuel ends with a result or a panic (`run_bounded`), whatever its hook, as
long as the hook itself only panics.

The lazy fork's hooks only panic, as their hook step says (`preDispatch_panicsOnly`,
from `preDispatch_step`), so with more fuel than the gas limit `Execute` never runs out
of fuel (`execute_fuel_sufficient`), and neither do `Simulate` and `SimulateBundle` with
more fuel than each transaction's gas limit (`simulate_fuel_sufficient`,
`simulateBundle_fuel_sufficient`).
-/

namespace EvmSimulator

/-! ## Gas of one step -/

/-- How a step's gas stands to `g`: a step that carries on, or enters a callee and
resumes with no more than the callee was given, leaves less than `g`; a halting step
returns at most `g`. -/
def StepGas (g : Nat) : Step → Prop
  | .next f _ => f.gas < g
  | .halt r _ => r.gas ≤ g
  | .call _ gas _ _ resume => gas < g ∧ ∀ r : RunResult, r.gas ≤ gas → (resume r).gas < g

/-- A step computation that keeps to `g` and aborts only with a panic. -/
def StepBounded (g : Nat) : Except Abort Step → Prop
  | .ok s => StepGas g s
  | .error err => err ≠ .outOfFuel

/-- The gas an entry point's plan carries: the gas a finished call returns, or the gas
the callee is entered with. -/
def CallPlan.gas : CallPlan → Nat
  | .done r _ => r.gas
  | .enter _ gas _ _ => gas

section Step

variable {g : Nat}

@[simp] theorem stepBounded_pure (s : Step) : StepBounded g (pure s) ↔ StepGas g s := Iff.rfl

@[simp] theorem stepGas_next (f : Frame) (db : StateDB) : StepGas g (.next f db) ↔ f.gas < g :=
  Iff.rfl

@[simp] theorem stepGas_halt (r : RunResult) (db : StateDB) :
    StepGas g (.halt r db) ↔ r.gas ≤ g := Iff.rfl

@[simp] theorem stepGas_fail (f : Frame) (db : StateDB) (err : VmError) (ret : Bytes) :
    StepGas g (Step.fail f db err ret) ↔ f.gas ≤ g := Iff.rfl

theorem StepGas.mono {g' : Nat} (h : g ≤ g') : ∀ {s : Step}, StepGas g s → StepGas g' s
  | .next _ _, hs => Nat.lt_of_lt_of_le hs h
  | .halt _ _, hs => Nat.le_trans hs h
  | .call _ _ _ _ _, hs =>
    ⟨Nat.lt_of_lt_of_le hs.1 h, fun r hr => Nat.lt_of_lt_of_le (hs.2 r hr) h⟩

/-- A call opcode's step keeps to `g` when the plan's gas is below `g` and the caller
resumes below `g` with anything up to it. -/
theorem stepGas_ofPlan {resume : RunResult → Frame} {plan : CallPlan} (hplan : plan.gas < g)
    (hresume : ∀ r : RunResult, r.gas ≤ plan.gas → (resume r).gas < g) :
    StepGas g (Step.ofPlan resume plan) := by
  cases plan with
  | done r db => exact hresume r le_rfl
  | enter callee gas db snapshot => exact ⟨hplan, hresume⟩

end Step

/-! ## The gas of calls -/

section Calls

variable (ctx : Context) (addr : Address) (input : Bytes) (gas : Nat) (db : StateDB)

theorem gas_evmCall (value : Word) : (evmCall ctx addr input gas value db).gas = gas := by
  dsimp only [evmCall]; split_ifs <;> rfl

theorem gas_evmCallCode (value : Word) : (evmCallCode ctx addr input gas value db).gas = gas := by
  unfold evmCallCode; split_ifs <;> rfl

theorem gas_evmDelegateCall : (evmDelegateCall ctx addr input gas db).gas = gas := by
  unfold evmDelegateCall; split_ifs <;> rfl

theorem gas_evmStaticCall : (evmStaticCall ctx addr input gas db).gas = gas := by
  dsimp only [evmStaticCall]; split_ifs <;> rfl

/-- A create plan carries at most its gas: a collision keeps none. -/
theorem gas_evmCreate_le (value : Word) : (evmCreate ctx addr input gas value db).gas ≤ gas := by
  dsimp only [evmCreate]; split_ifs <;> simp [CallPlan.gas]

end Calls

@[simp] theorem gas_afterCreate (f : Frame) (rest : List Word) (addr : Address) (r : RunResult) :
    (afterCreate f rest addr r).gas = f.gas + r.gas := rfl

/-- Depositing the code never adds gas. -/
theorem gas_deposit_le (addr : Address) (r : RunResult) (db : StateDB) :
    (deposit addr r db).1.gas ≤ r.gas := by
  unfold deposit
  split
  · exact le_rfl
  · dsimp only
    split_ifs <;> simp

@[simp] theorem gas_afterCall (f : Frame) (rest : List Word) (retOff retSize : Word)
    (r : RunResult) : (afterCall f rest retOff retSize r).gas = f.gas + r.gas := by
  dsimp only [afterCall]; split_ifs <;> rfl

theorem Frame.useGas_eq_some {f f' : Frame} {g : Nat} (h : f.useGas g = some f') :
    g ≤ f.gas ∧ f'.gas = f.gas - g := by
  unfold Frame.useGas at h
  split_ifs at h with hg
  cases h
  exact ⟨hg, rfl⟩

/-- The call opcodes charge at least the gas they forward, the stipend of a value
transfer included. -/
theorem gasCallVariant_forwarded {newAccount : Bool} {addr : Address} {value reqGas : Word}
    {gas fee : Nat} {db db' : StateDB} {cost temp : Nat}
    (h : gasCallVariant newAccount addr value reqGas gas fee db = .ok (some (cost, temp, db'))) :
    temp + (if value ≠ 0 then callStipend else 0) ≤ cost := by
  simp only [gasCallVariant, pure, Except.pure] at h
  split_ifs at h <;> cases h <;> simp_all [callStipend, callValueTransferGas] <;> omega

/-! ## The dynamic gas functions -/

/-- A dynamic gas function aborts only with a panic. -/
def GasFn.PanicsOnly (dyn : GasFn) : Prop := ∀ gas fee db, dyn gas fee db ≠ .error .outOfFuel

theorem memoryOnly_panicsOnly : GasFn.PanicsOnly memoryOnly := fun _ _ _ h => nomatch h

theorem gasAccountCheck_panicsOnly (a : Address) : GasFn.PanicsOnly (gasAccountCheck a) :=
  fun _ _ _ h => nomatch h

theorem gasSLoad_panicsOnly (self : Address) (slot : Word) :
    GasFn.PanicsOnly (gasSLoad self slot) :=
  fun _ _ _ h => nomatch h

theorem gasSStore_panicsOnly (self : Address) (slot value : Word) :
    GasFn.PanicsOnly (gasSStore self slot value) := by
  intro gas _ db h
  unfold gasSStore at h
  split_ifs at h
  · cases h
  all_goals
    simp only at h
    split at h <;> cases h

theorem perWordGas_panicsOnly (perWord : Nat) (len : Word) :
    GasFn.PanicsOnly (perWordGas perWord len) := by
  intro _ _ _ h
  unfold perWordGas at h
  split_ifs at h <;> cases h

theorem gasExp_panicsOnly (exponent : Word) : GasFn.PanicsOnly (gasExp exponent) :=
  fun _ _ _ h => nomatch h

theorem gasCreate_panicsOnly (perWord : Nat) (size : Word) :
    GasFn.PanicsOnly (gasCreate perWord size) := by
  intro _ _ _ h
  unfold gasCreate at h
  split_ifs at h <;> cases h

theorem gasLog_panicsOnly (topics : Nat) (size : Word) : GasFn.PanicsOnly (gasLog topics size) := by
  intro _ _ _ h
  unfold gasLog at h
  split_ifs at h <;> cases h

theorem gasSelfdestruct_panicsOnly (self beneficiary : Address) :
    GasFn.PanicsOnly (gasSelfdestruct self beneficiary) :=
  fun _ _ _ h => nomatch h

theorem gasCallVariant_panicsOnly (newAccount : Bool) (addr : Address) (value reqGas : Word) :
    GasFn.PanicsOnly (gasCallVariant newAccount addr value reqGas) := by
  intro gas fee db h
  simp only [gasCallVariant] at h
  split_ifs at h <;> cases h

theorem sstoreCost_pos (original current value : Word) :
    0 < (sstoreCost original current value).1 := by
  unfold sstoreCost
  split_ifs <;> simp [warmStorageReadCostEIP2929, sstoreSetGasEIP2200, sstoreResetGasEIP2200,
    coldSloadCostEIP2929]

/-- `SLOAD` charges at least the warm read. -/
theorem gasSLoad_pos {self : Address} {slot : Word} {gas fee cost aux : Nat} {db db' : StateDB}
    (h : gasSLoad self slot gas fee db = .ok (some (cost, aux, db'))) : 0 < cost := by
  simp only [gasSLoad, pure, Except.pure] at h
  split_ifs at h <;> cases h <;> simp [warmStorageReadCostEIP2929, coldSloadCostEIP2929]

/-- `EXP` charges at least `ExpGas`. -/
theorem gasExp_pos {exponent : Word} {gas fee cost aux : Nat} {db db' : StateDB}
    (h : gasExp exponent gas fee db = .ok (some (cost, aux, db'))) : 0 < cost := by
  cases h
  simp [expGas]

/-- A `LOG` charges at least `LogGas`. -/
theorem gasLog_pos {topics : Nat} {size : Word} {gas fee cost aux : Nat} {db db' : StateDB}
    (h : gasLog topics size gas fee db = .ok (some (cost, aux, db'))) : 0 < cost := by
  unfold gasLog at h
  split_ifs at h <;> cases h
  simp [logGas]

/-- `SSTORE` charges at least the warm read. -/
theorem gasSStore_pos {self : Address} {slot value : Word} {gas fee cost aux : Nat}
    {db db' : StateDB} (h : gasSStore self slot value gas fee db = .ok (some (cost, aux, db'))) :
    0 < cost := by
  have hpos := sstoreCost_pos (db.getCommittedState self slot) (db.getState self slot) value
  unfold gasSStore at h
  split_ifs at h
  · cases h
  all_goals
    simp only at h
    split at h
    · cases h
    · cases h
      omega

/-! ## Gas of the dynamic stage -/

/-- `withGas` keeps to `g` when its continuation does on the charged frame. -/
theorem withGas_bounded {f : Frame} {db : StateDB} {region : Option Nat} {dyn : GasFn}
    {k : Nat → Frame → StateDB → Except Abort Step} {g : Nat} (hf : f.gas ≤ g)
    (hdyn : GasFn.PanicsOnly dyn)
    (hk : ∀ fee cost aux db' f', dyn f.gas fee db = .ok (some (cost, aux, db')) →
      cost ≤ f.gas → f'.gas = f.gas - cost → StepBounded g (k aux f' db')) :
    StepBounded g (withGas f db region dyn k) := by
  unfold withGas
  split
  · exact hf
  · dsimp only
    split_ifs
    · exact hf
    · split
      · exact hf
      · next fee last _ =>
        rcases hd : dyn f.gas fee db with err | _ | ⟨cost, aux, db'⟩
        · exact fun h => hdyn f.gas fee db (by rw [hd, h])
        · exact hf
        · simp only [bind, Except.bind]
          split
          · exact hf
          · next f' hu =>
            obtain ⟨hcost, hgas⟩ := Frame.useGas_eq_some hu
            exact hk fee cost aux db' _ hd hcost hgas

/-- A call opcode's step, once charged `cost` from a frame with `f₀.gas` gas, keeps below
anything above `f₀.gas` when it forwards no more than it was charged. -/
theorem stepGas_callStep {f f₀ : Frame} {rest : List Word} {inOff inSize retOff retSize : Word}
    {gas cost g : Nat} {plan : Bytes → Nat → CallPlan}
    (hplan : ∀ input, (plan input gas).gas = gas) (hfwd : gas ≤ cost)
    (hcost : cost ≤ f₀.gas) (hf : f.gas = f₀.gas - cost) (hg : f₀.gas < g) :
    StepGas g (callStep f rest inOff inSize retOff retSize gas plan) := by
  refine stepGas_ofPlan (by rw [hplan]; omega) fun r hr => ?_
  rw [hplan] at hr
  rw [gas_afterCall]
  omega

/-- A create opcode's step, charged `cost` from a frame with `f₀.gas` gas, keeps below
anything above `f₀.gas` when its plan returns no more gas than it is given: the caller
keeps a 64th and gets back at most the rest. -/
theorem stepGas_createStep {f f₀ : Frame} {rest : List Word} {addr : Address} {cost g : Nat}
    {plan : Nat → CallPlan} (hplan : ∀ gas, (plan gas).gas ≤ gas) (hcost : cost ≤ f₀.gas)
    (hf : f.gas = f₀.gas - cost) (hg : f₀.gas < g) :
    StepGas g (createStep f rest addr plan) := by
  have hp := hplan (f.gas - f.gas / 64)
  refine stepGas_ofPlan (by omega) fun r hr => ?_
  rw [gas_afterCreate]
  dsimp only
  omega

/-! ## One iteration -/

/-- `executeOp` keeps to the gas it was given plus the constant gas already charged: an
instruction that carries on without dynamic gas has a positive constant gas, `EXP`,
`LOG`, `SLOAD` and `SSTORE` charge dynamic gas, and a call forwards no more gas than it
charges. -/
theorem executeOp_bounded (instr : Instr) (ctx : Context) (f : Frame) (db : StateDB) :
    StepBounded (f.gas + instr.operation.constantGas) (executeOp instr ctx f db) := by
  have hle : f.gas ≤ f.gas + instr.operation.constantGas := Nat.le_add_right _ _
  cases instr
  -- halting at once
  case stop | invalid => exact hle
  -- carrying on at once, on a positive constant gas
  case arith op | env op =>
    have := op.constantGas_pos
    simp [executeOp, pushResult, Frame.advance, Instr.operation, Operation.ofArity]
    omega
  case calldataload | blockhash | blobhash | pop | jumpdest | tload | push | dup | swap =>
    simp [executeOp, pushResult, Frame.advance, Instr.operation, Operation.ofArity,
      warmStorageReadCostEIP2929] <;> split_ifs <;> decide
  case jump | jumpi | tstore =>
    simp only [executeOp]
    split_ifs <;> simp [Frame.advance, Instr.operation, Operation.ofArity,
      warmStorageReadCostEIP2929]
  -- account reads and memory, on a positive constant gas
  case balance | extcodesize | extcodehash | mload | mstore | mstore8 | keccak256
      | calldatacopy | codecopy | mcopy | extcodecopy =>
    simp only [executeOp]
    refine withGas_bounded hle ?_ fun _ _ _ _ f' _ _ hg => ?_
    · first
        | exact gasAccountCheck_panicsOnly _ | exact memoryOnly_panicsOnly
        | exact perWordGas_panicsOnly _ _ | exact fun _ _ _ h => by split_ifs at h <;> cases h
    · simp [pushResult, Frame.advance, Frame.set, hg, Instr.operation, Operation.ofArity,
        warmStorageReadCostEIP2929, keccak256Gas]
      omega
  case returndatacopy =>
    simp only [executeOp]
    refine withGas_bounded hle (perWordGas_panicsOnly _ _) fun _ _ _ _ f' _ _ hg => ?_
    split_ifs <;> simp [Frame.advance, Frame.set, hg, Instr.operation, Operation.ofArity] <;> omega
  -- halting after memory growth
  case ret | revert =>
    simp only [executeOp]
    exact withGas_bounded hle memoryOnly_panicsOnly fun _ _ _ _ f' _ _ hg => by
      simp [Step.fail, hg, Instr.operation, Operation.ofArity]
  case selfdestruct =>
    simp only [executeOp]
    refine withGas_bounded hle (gasSelfdestruct_panicsOnly _ _) fun _ _ _ _ f' _ _ hg => ?_
    split_ifs <;> simp [hg, Instr.operation, Operation.ofArity] <;> omega
  -- no constant gas, a positive dynamic one
  case exp | sload =>
    simp only [executeOp]
    refine withGas_bounded hle ?_ fun _ cost _ _ f' hd _ hg => ?_
    · first | exact gasExp_panicsOnly _ | exact gasSLoad_panicsOnly _ _
    have : 0 < cost := by first | exact gasExp_pos hd | exact gasSLoad_pos hd
    simp [pushResult, Frame.advance, hg, Instr.operation, Operation.ofArity]
    omega
  case log | sstore =>
    simp only [executeOp]
    refine withGas_bounded hle ?_ fun _ cost _ _ f' hd _ hg => ?_
    · first | exact gasLog_panicsOnly _ _ | exact gasSStore_panicsOnly _ _ _
    have : 0 < cost := by first | exact gasLog_pos hd | exact gasSStore_pos hd
    split_ifs
    · show f'.gas ≤ _
      omega
    · simp [Frame.advance, hg, Instr.operation, Operation.ofArity]
      omega
  -- creates: the init code gets no more than the frame keeps
  case create | create2 =>
    simp only [executeOp]
    refine withGas_bounded hle (gasCreate_panicsOnly _ _) fun _ _ _ _ f' _ hc hg => ?_
    split_ifs
    · show f'.gas ≤ _
      omega
    · exact stepGas_createStep (fun _ => gas_evmCreate_le ..) hc hg
        (by simp [Instr.operation, Operation.ofArity, createGas])
  -- calls: the forwarded gas was charged
  case call =>
    simp only [executeOp]
    refine withGas_bounded hle (gasCallVariant_panicsOnly _ _ _ _) fun _ _ _ _ f' hd hc hg => ?_
    split
    · show f'.gas ≤ _
      omega
    · exact stepGas_callStep (fun _ => gas_evmCall ..) (gasCallVariant_forwarded hd) hc hg
        (by simp [Instr.operation, Operation.ofArity, warmStorageReadCostEIP2929])
  case callcode =>
    simp only [executeOp]
    exact withGas_bounded hle (gasCallVariant_panicsOnly _ _ _ _) fun _ _ _ _ f' hd hc hg =>
      stepGas_callStep (fun _ => gas_evmCallCode ..) (gasCallVariant_forwarded hd) hc hg
        (by simp [Instr.operation, Operation.ofArity, warmStorageReadCostEIP2929])
  case delegatecall =>
    simp only [executeOp]
    exact withGas_bounded hle (gasCallVariant_panicsOnly _ _ _ _) fun _ _ _ _ f' hd hc hg =>
      stepGas_callStep (fun _ => gas_evmDelegateCall ..)
        (by simpa using gasCallVariant_forwarded hd) hc hg
        (by simp [Instr.operation, Operation.ofArity, warmStorageReadCostEIP2929])
  case staticcall =>
    simp only [executeOp]
    exact withGas_bounded hle (gasCallVariant_panicsOnly _ _ _ _) fun _ _ _ _ f' hd hc hg =>
      stepGas_callStep (fun _ => gas_evmStaticCall ..)
        (by simpa using gasCallVariant_forwarded hd) hc hg
        (by simp [Instr.operation, Operation.ofArity, warmStorageReadCostEIP2929])

/-- Every iteration of `dispatch` keeps to the frame's gas. -/
theorem dispatch_bounded (op : OpCode) (ctx : Context) (f : Frame) (db : StateDB) :
    StepBounded f.gas (dispatch op ctx f db) := by
  dsimp only [dispatch]
  split_ifs
  · exact le_rfl
  · exact le_rfl
  · split
    · exact le_rfl
    · next f' hu =>
      obtain ⟨hcost, hgas⟩ := Frame.useGas_eq_some hu
      have h := executeOp_bounded (Instr.ofOpCode op) ctx f' db
      rwa [hgas, Nat.sub_add_cancel hcost] at h

/-! ## Computations that only panic -/

/-- A computation that aborts only with a panic, never out of fuel. -/
def PanicsOnly {σ α : Type} (x : EStateM Abort σ α) : Prop :=
  ∀ s err s', x s = .error err s' → err ≠ .outOfFuel

/-- A hook that aborts only with a panic. -/
def Hook.PanicsOnly (hook : Hook) : Prop :=
  ∀ op a stack, EvmSimulator.PanicsOnly (hook op a stack)

section PanicsOnly

variable {σ α β : Type}

theorem panicsOnly_pure (a : α) : PanicsOnly (pure a : EStateM Abort σ α) :=
  fun _ _ _ h => nomatch h

theorem panicsOnly_bind {x : EStateM Abort σ α} {f : α → EStateM Abort σ β}
    (hx : PanicsOnly x) (hf : ∀ a, PanicsOnly (f a)) : PanicsOnly (x >>= f) := by
  intro s err s' h
  simp only [bind, EStateM.bind] at h
  split at h
  · exact hf _ _ _ _ h
  · cases h
    exact hx _ _ _ (by assumption)

end PanicsOnly

/-! ## Whole runs -/

/-- How a run's outcome stands to `g`: it returns at most `g` gas, or aborts with a panic. -/
def RunBounded (g : Nat) : EStateM.Result Abort Evm RunResult → Prop
  | .ok r _ => r.gas ≤ g
  | .error err _ => err ≠ .outOfFuel

theorem RunBounded.mono {g g' : Nat} (h : g ≤ g') :
    ∀ {x : EStateM.Result Abort Evm RunResult}, RunBounded g x → RunBounded g' x
  | .ok _ _, hx => Nat.le_trans hx h
  | .error _ _, hx => hx

theorem settle_bounded {g : Nat} (snapshot : StateDB) {r : RunResult} (db : StateDB) (e : Evm)
    (hr : r.gas ≤ g) : RunBounded g (settle snapshot r db e) := by
  unfold settle
  split
  · exact hr
  · show (if _ then r.gas else 0) ≤ g
    split_ifs
    · exact hr
    · exact Nat.zero_le _

/-- A callee that keeps to its gas keeps to it once settled. -/
theorem enterCallee_bounded {runCode : Context → Frame → ForkM RunResult} {callee : Context}
    {gas : Nat} {db snapshot : StateDB} (hrun : ∀ e, RunBounded gas (runCode callee { gas } e))
    (e : Evm) : RunBounded gas (enterCallee runCode callee gas db snapshot e) := by
  have hres : RunBounded gas (if callee.code.isEmpty then .ok ⟨[], none, gas⟩ (e.withStateDB db)
      else runCode callee { gas } (e.withStateDB db)) := by
    split
    · exact le_rfl
    · exact hrun _
  simp only [enterCallee]
  split
  · next r e' h =>
    rw [h] at hres
    split
    · exact settle_bounded _ _ _ ((gas_deposit_le _ _ _).trans hres)
    · exact settle_bounded _ _ _ hres
  · next err e' h => rwa [h] at hres

section Run

variable {hook : Hook} (hhook : hook.PanicsOnly)
include hhook

/-- A frame with less gas than fuel ends with at most its gas, or with a panic: the fuel
never runs out first. -/
theorem run_bounded : ∀ (fuel : Nat) (ctx : Context) (f : Frame) (e : Evm), f.gas < fuel →
    RunBounded f.gas (run hook fuel ctx f e)
  | 0, _, _, _, h => absurd h (Nat.not_lt_zero _)
  | fuel + 1, ctx, f, e, hfuel => by
    simp only [run]
    rcases hh : hook (getOp ctx.code f.pc) ctx.address f.stack e
      with ⟨_ | msg, e₁⟩ | ⟨err, e₁⟩
    · -- the hook lets the opcode through
      dsimp only
      have hstep := dispatch_bounded (getOp ctx.code f.pc) ctx f e₁.stateDB
      rcases hd : dispatch (getOp ctx.code f.pc) ctx f e₁.stateDB
        with err | ⟨f', db⟩ | ⟨r, db⟩ | ⟨callee, gas, db, snapshot, resume⟩ <;>
        rw [hd] at hstep <;> dsimp only
      · exact hstep
      · have hf' : f'.gas < f.gas := hstep
        exact (run_bounded fuel ctx f' _ (by omega)).mono hf'.le
      · exact hstep
      · obtain ⟨hgas, hresume⟩ := hstep
        have hcallee := @enterCallee_bounded (run hook fuel) callee gas db snapshot
          (fun e => run_bounded fuel callee { gas } e (by show gas < fuel; omega)) e₁
        rcases hc : enterCallee (run hook fuel) callee gas db snapshot e₁
          with ⟨r, e₂⟩ | ⟨err, e₂⟩ <;> rw [hc] at hcallee
        · have hr : (resume r).gas < f.gas := hresume r hcallee
          dsimp only
          exact (run_bounded fuel ctx (resume r) e₂ (by omega)).mono hr.le
        · exact hcallee
    · -- the hook's error ends the frame
      exact le_rfl
    · exact hhook _ _ _ _ _ _ hh

end Run

/-! ## The lazy fork only panics -/

/-- The lazy fork's pre-dispatch hooks abort only with a panic. -/
theorem preDispatch_panicsOnly (remote : Remote) : Hook.PanicsOnly (preDispatch remote) :=
  fun op self stack e => (preDispatch_step op self stack e).panics

/-! ## Execute and the simulator -/

/-- The outermost call, with more fuel than gas, ends with a result or a panic. -/
theorem callFromOrigin_panicsOnly {hook : Hook} (hhook : hook.PanicsOnly) {fuel gas : Nat}
    (hfuel : gas < fuel) (env : Env) (addr : Address) (input : Bytes) (value : Word) :
    PanicsOnly (callFromOrigin hook fuel env addr input gas value) := by
  intro e err e' h
  unfold callFromOrigin at h
  have hplan := gas_evmCall (Context.ofTx env) addr input gas e.stateDB value
  rcases hp : evmCall (Context.ofTx env) addr input gas value e.stateDB
    with ⟨r, db⟩ | ⟨callee, gas', db, snapshot⟩ <;> rw [hp] at h hplan
  · cases h
  · have hcallee := @enterCallee_bounded (run hook fuel) callee gas' db snapshot
      (fun e => run_bounded hhook fuel callee { gas := gas' } e
        (by rw [← hplan] at hfuel; exact hfuel)) e
    dsimp only at h
    rw [h] at hcallee
    exact hcallee

theorem mustFromBig_error {x : Int} {err : Abort} (h : mustFromBig x = .error err) :
    err ≠ .outOfFuel :=
  mustFromBig_overflow h ▸ panic_ne_outOfFuel _

theorem mustFromBigM_panicsOnly (x : Int) : PanicsOnly (mustFromBigM x) := by
  intro e err e' h
  unfold mustFromBigM at h
  split at h
  · cases h
  · next err' hm =>
    cases h
    exact mustFromBig_error hm

theorem prepareExecution_panicsOnly (address : Address) (originBalance : Int) (code : Bytes)
    (cfg : Config) (record : Option RecordToInitiateState) :
    PanicsOnly (prepareExecution address originBalance code cfg record) := by
  intro e err e' h
  dsimp only [prepareExecution] at h
  split at h
  · next err' hf =>
    cases h
    unfold fundOrigin at hf
    split_ifs at hf
    · cases hm : mustFromBig originBalance <;> rw [hm] at hf <;> cases hf
      exact mustFromBig_error hm
    · cases hf
  · cases h

theorem onFork_panicsOnly {α : Type} (db : StateDB) (record : Option RecordToInitiateState)
    {x : ForkM α} (hx : PanicsOnly x) : PanicsOnly (onFork db record x) := by
  intro log err log' h
  unfold onFork at h
  split at h
  · cases h
  · next e hx' =>
    cases h
    exact hx _ _ _ hx'

theorem get_panicsOnly {σ : Type} : PanicsOnly (get : EStateM Abort σ σ) :=
  fun _ _ _ h => nomatch h

section Simulator

variable (remote : Remote) {fuel : Nat}

/-- `Execute`, with more fuel than the gas limit, ends with a result or a panic. -/
theorem execute_panicsOnly (address : Address) (originBalance : Int) (code input : Bytes)
    {cfg : Config} (hfuel : cfg.setDefaults.gasLimit < fuel) (db : StateDB)
    (record : Option RecordToInitiateState) :
    PanicsOnly (execute remote fuel address originBalance code input cfg db record) :=
  onFork_panicsOnly db record <|
    panicsOnly_bind (prepareExecution_panicsOnly _ _ _ _ _) fun _ =>
    panicsOnly_bind (mustFromBigM_panicsOnly _) fun _ =>
    panicsOnly_bind (callFromOrigin_panicsOnly (preDispatch_panicsOnly remote) hfuel _ _ _ _)
      fun _ =>
    panicsOnly_bind get_panicsOnly fun _ => panicsOnly_pure _

/-- A request whose client call cannot run out of fuel. -/
theorem fetch_panicsOnly {α : Type} (r : Request) {answer : Except Abort (Except String α)}
    (h : answer ≠ .error .outOfFuel) : PanicsOnly (fetch r answer) := by
  intro log err log' hf
  unfold fetch at hf
  split at hf
  · cases hf
  · cases hf; rintro rfl; exact h rfl

theorem targetCode_panicsOnly (sim : Simulation) (db : StateDB) :
    PanicsOnly (targetCode remote sim db) := by
  unfold targetCode
  split_ifs
  · exact fetch_panicsOnly _ (Remote.call_ne_outOfFuel _ _ _)
  · exact panicsOnly_pure _
  · exact panicsOnly_pure _

theorem simulateBalance_panicsOnly (sim : Simulation) (db : StateDB) :
    PanicsOnly (simulateBalance remote sim db) := by
  unfold simulateBalance
  split_ifs
  · refine panicsOnly_bind (fetch_panicsOnly _ (Remote.call_ne_outOfFuel _ _ _)) fun b => ?_
    cases b <;> exact panicsOnly_pure _
  · exact panicsOnly_pure _

theorem unoptimalBalance_panicsOnly (sim : Simulation) (db : StateDB) :
    PanicsOnly (unoptimalBalance remote sim db) := by
  dsimp only [unoptimalBalance]
  split_ifs
  · exact panicsOnly_bind (fetch_panicsOnly _ (Remote.call_ne_outOfFuel _ _ _)) fun b => by
      cases b <;> exact panicsOnly_pure _
  · exact panicsOnly_bind (panicsOnly_pure _) fun b => by cases b <;> exact panicsOnly_pure _

/-- `Simulate`, with more fuel than the transaction's gas limit, ends with a result or a
panic. -/
theorem simulate_panicsOnly {sim : Simulation}
    (hfuel : (configFromSimulation sim).setDefaults.gasLimit < fuel) (db : StateDB)
    (recordInitializer : Option RecordToInitiateState) :
    PanicsOnly (simulate remote fuel sim db recordInitializer) := by
  unfold simulate
  refine panicsOnly_bind (targetCode_panicsOnly remote sim db) fun c => ?_
  rcases c with _ | code
  · exact panicsOnly_pure _
  refine panicsOnly_bind (simulateBalance_panicsOnly remote sim db) fun b => ?_
  rcases b with _ | balance
  · exact panicsOnly_pure _
  refine panicsOnly_bind (execute_panicsOnly remote _ _ _ _ hfuel _ _) fun ⟨res₁, db₁⟩ => ?_
  rcases res₁ with _ | r₁
  · exact panicsOnly_pure _
  exact panicsOnly_bind (execute_panicsOnly remote _ _ _ _ hfuel _ _) fun _ => panicsOnly_pure _

theorem unoptimalSimulation_panicsOnly {sim : Simulation}
    (hfuel : (configFromSimulation sim).setDefaults.gasLimit < fuel) (db : StateDB)
    (recordInitializer : Option RecordToInitiateState) :
    PanicsOnly (unoptimalSimulation remote fuel sim db recordInitializer) := by
  unfold unoptimalSimulation
  refine panicsOnly_bind (targetCode_panicsOnly remote sim db) fun c => ?_
  rcases c with _ | code
  · exact panicsOnly_pure _
  refine panicsOnly_bind (unoptimalBalance_panicsOnly remote sim db) fun b => ?_
  rcases b with _ | balance
  · exact panicsOnly_pure _
  exact panicsOnly_bind (execute_panicsOnly remote _ _ _ _ hfuel _ _) fun _ => panicsOnly_pure _

theorem throw_panicsOnly {σ α : Type} (msg : String) :
    PanicsOnly (throw (Abort.panic msg) : EStateM Abort σ α) := fun _ _ _ h => by
  cases h
  exact panic_ne_outOfFuel _

/-- The discovery passes of a bundle whose every gas limit is below the fuel end with a
result or a panic. -/
theorem bundleDiscovery_panicsOnly :
    ∀ (sims : List Simulation),
      (∀ sim ∈ sims, (configFromSimulation sim).setDefaults.gasLimit < fuel) →
      ∀ db record, PanicsOnly (bundleDiscovery remote fuel sims db record)
  | [], _, _, _ => fun _ _ _ h => nomatch h
  | sim :: sims, hfuel, db, record => by
    intro log err log' h
    simp only [bundleDiscovery] at h
    rcases hu : unoptimalSimulation remote fuel sim db record log
      with ⟨⟨_ | res, db₁⟩, log₁⟩ | ⟨err₁, log₁⟩ <;> rw [hu] at h
    · cases h
    · dsimp only at h
      rcases hb :
          bundleDiscovery remote fuel sims db₁ (some { res.record with accessList := [] }) log₁
        with ⟨⟨_ | ⟨lists, record₂⟩, db₂⟩, log₂⟩ | ⟨err₂, log₂⟩ <;>
          rw [hb] at h
      · cases h
      · cases h
      · cases h
        exact bundleDiscovery_panicsOnly sims (fun s hs => hfuel s (.tail _ hs)) _ _ _ _ _ hb
    · cases h
      exact unoptimalSimulation_panicsOnly remote (hfuel sim (.head _)) _ _ _ _ _ hu

/-- The accounting passes of a bundle whose every gas limit is below the fuel end with a
result or a panic. -/
theorem bundleAccounting_panicsOnly :
    ∀ (pairs : List (Simulation × AccessList)),
      (∀ p ∈ pairs, (configFromSimulation p.1).setDefaults.gasLimit < fuel) →
      ∀ db record, PanicsOnly (bundleAccounting remote fuel pairs db record)
  | [], _, _, _ => fun _ _ _ h => nomatch h
  | (sim, accessList) :: rest, hfuel, db, record => by
    intro log err log' h
    simp only [bundleAccounting] at h
    rcases hu : unoptimalSimulation remote fuel sim db (some { record with accessList }) log
      with ⟨⟨_ | res, db₁⟩, log₁⟩ | ⟨err₁, log₁⟩ <;> rw [hu] at h
    · cases h
    · dsimp only at h
      rcases hb : bundleAccounting remote fuel rest (StateDB.open db₁.commit) res.record log₁
        with ⟨⟨_ | results, db₂⟩, log₂⟩ | ⟨err₂, log₂⟩ <;> rw [hb] at h
      · cases h
      · cases h
      · cases h
        exact bundleAccounting_panicsOnly rest (fun p hp => hfuel p (.tail _ hp)) _ _ _ _ _ hb
    · cases h
      exact unoptimalSimulation_panicsOnly remote (hfuel _ (.head _)) _ _ _ _ _ hu

/-- `SimulateBundle`, with more fuel than every transaction's gas limit, ends with a
result or a panic. -/
theorem simulateBundle_panicsOnly {sims : List Simulation}
    (hfuel : ∀ sim ∈ sims, (configFromSimulation sim).setDefaults.gasLimit < fuel)
    (db : StateDB) (recordInitializer : Option RecordToInitiateState) :
    PanicsOnly (simulateBundle remote fuel sims db recordInitializer) := by
  unfold simulateBundle
  refine panicsOnly_bind (bundleDiscovery_panicsOnly remote sims hfuel db recordInitializer)
    fun ⟨res, db₁⟩ => ?_
  rcases res with _ | ⟨lists, _ | record⟩
  · exact panicsOnly_pure _
  · exact throw_panicsOnly _
  · refine panicsOnly_bind (bundleAccounting_panicsOnly remote _ (fun p hp => ?_) _ _)
      fun ⟨res₂, _⟩ => by rcases res₂ <;> exact panicsOnly_pure _
    exact hfuel _ (List.of_mem_zip hp).1

end Simulator

/-! ## Enough fuel -/

/-- `Execute`, given more fuel than its gas limit, never runs out of fuel: from any state,
record and program it ends with a result or a Go panic. -/
theorem execute_fuel_sufficient (remote : Remote) (fuel : Nat) (address : Address)
    (originBalance : Int) (code input : Bytes) (cfg : Config) (db : StateDB)
    (record : Option RecordToInitiateState) (hfuel : cfg.setDefaults.gasLimit < fuel)
    (log log' : List Request) :
    (execute remote fuel address originBalance code input cfg db record).run log
      ≠ .error .outOfFuel log' :=
  fun h => execute_panicsOnly remote address originBalance code input hfuel db record log _ _ h rfl

/-- A gas limit of 300000 and one more unit of fuel. -/
theorem execute_fuel_sufficient_limit :
    (execute (Remote.ofWorld fun _ => none) 300001 0x11 0 [0x5b, 0x5f, 0x56] []
        { origin := 0xa, gasLimit := 300000, value := 0 } (StateDB.open fun _ => none) none).run []
      ≠ .error .outOfFuel [] :=
  execute_fuel_sufficient _ _ _ _ _ _ _ _ _ (by decide) _ _

/-- `Simulate`, given more fuel than the transaction's gas limit, never runs out of fuel:
both passes end with a result or a Go panic. -/
theorem simulate_fuel_sufficient (remote : Remote) (fuel : Nat) (sim : Simulation) (db : StateDB)
    (recordInitializer : Option RecordToInitiateState)
    (hfuel : (configFromSimulation sim).setDefaults.gasLimit < fuel) (log log' : List Request) :
    (simulate remote fuel sim db recordInitializer).run log ≠ .error .outOfFuel log' :=
  fun h => simulate_panicsOnly remote hfuel db recordInitializer log _ _ h rfl

/-- A transaction with a gas limit of 100000 and one more unit of fuel. -/
theorem simulate_fuel_sufficient_limit :
    (simulate (Remote.ofWorld fun _ => none) 100001
        { fromAddr := 0xa, toAddr := 0x11, gasLimit := 100000, value := 0, input := [], code := [] }
        (StateDB.open fun _ => none) none).run [] ≠ .error .outOfFuel [] :=
  simulate_fuel_sufficient _ _ _ _ _ (by decide) _ _

/-- `SimulateBundle`, given more fuel than every transaction's gas limit, never runs out
of fuel: every pass of every transaction ends with a result or a Go panic. -/
theorem simulateBundle_fuel_sufficient (remote : Remote) (fuel : Nat) (sims : List Simulation)
    (db : StateDB) (recordInitializer : Option RecordToInitiateState)
    (hfuel : ∀ sim ∈ sims, (configFromSimulation sim).setDefaults.gasLimit < fuel)
    (log log' : List Request) :
    (simulateBundle remote fuel sims db recordInitializer).run log ≠ .error .outOfFuel log' :=
  fun h => simulateBundle_panicsOnly remote hfuel db recordInitializer log _ _ h rfl

/-- A two-transaction bundle with gas limits of 100000 and 50000 and fuel 100001. -/
theorem simulateBundle_fuel_sufficient_limits :
    (simulateBundle (Remote.ofWorld fun _ => none) 100001
        [{ fromAddr := 0xa, toAddr := 0x11, gasLimit := 100000, value := 0, input := [], code := [] },
          { fromAddr := 0xa, toAddr := 0x11, gasLimit := 50000, value := 0, input := [], code := [] }]
        (StateDB.open fun _ => none) none).run [] ≠ .error .outOfFuel [] :=
  simulateBundle_fuel_sufficient _ _ _ _ _ (by decide) _ _

end EvmSimulator
