import EvmSimulator.Hooks
import EvmSimulator.Gas
import EvmSimulator.Keccak

/-!
# The interpreter loop

`run` is `EVMInterpreter.Run`: fetch the opcode at `pc`, run the pre-dispatch hook,
then `dispatch`: validate the stack against the jump table, charge constant and dynamic
gas, grow memory and execute (`executeOp`).

The opcode semantics work on the state store alone. A call opcode does not run its
callee: `evmCall`, `evmCallCode`, `evmDelegateCall` and `evmStaticCall` (`EVM.Call` and
its variants) either finish at once or plan a callee frame (`CallPlan.enter`), and the
step hands the plan to `run` with the continuation that resumes the caller. `run`
enters the callee on the same hook (`enterCallee`), restores the snapshot when it fails
and resumes. So only the hook reads or writes the interpreter's fork bookkeeping and
the request log, and a revert restores the state store alone.

The hook is a parameter: `preDispatch remote` is the lazy fork, `noHooks` the plain EVM
executing on a complete state. `fuel` bounds the loop iterations along every path;
running out is `Abort.outOfFuel`, never a frame error.

The opcode semantics and the gas schedule are go-ethereum's for Cancun, over every Cancun
opcode (`Instr`). A create opcode plans its init code as a deployment (`evmCreate`), and
once the init code returns, `enterCallee` deposits its output as the new contract's code
(`deposit`). `SELFDESTRUCT` follows EIP-6780: only a contract created in the same
transaction is marked for deletion. The logs `LOG` writes are not kept, since nothing the
simulator returns reads them. The block and transaction context the environment opcodes
read is `Env`, one per transaction.
-/

namespace EvmSimulator

/-- The errors a frame can end with, and a hook's error. -/
inductive VmError where
  | stackUnderflow (stackLen required : Nat)
  | stackOverflow (stackLen limit : Nat)
  | outOfGas
  | gasUintOverflow
  | invalidJump
  | writeProtection
  | executionReverted
  | invalidOpCode (op : OpCode)
  | depth
  | insufficientBalance
  | nonceUintOverflow
  | contractAddressCollision
  | maxCodeSizeExceeded
  | invalidCode
  | codeStoreOutOfGas
  | returnDataOutOfBounds
  | hook (msg : String)
  deriving DecidableEq

/-- The block and transaction context of a run (`vm.BlockContext`, `vm.TxContext`), as
`NewEnv` builds it from the configuration: what the environment opcodes read. -/
structure Env where
  origin : Address := 0
  gasPrice : Nat := 0
  blobHashes : List Word := []
  coinbase : Address := 0
  gasLimit : Nat := 0
  blockNumber : Nat := 0
  time : Nat := 0
  baseFee : Nat := 0
  blobBaseFee : Nat := 0
  random : Word := 0
  getHash : Nat → Word := fun _ => 0
  /-- `ChainConfig.ChainID`. -/
  chainId : Nat := 1

/-- `opBlockhash`: the hash of one of the 256 blocks before the current one, else zero. -/
def Env.blockHash (env : Env) (num : Word) : Word :=
  let upper := env.blockNumber % uint64Size
  let lower := if upper < 257 then 0 else upper - 256
  if uint64Size ≤ num.toNat then 0
  else if lower ≤ num.toNat ∧ num.toNat < upper then env.getHash num.toNat else 0

/-- The immutable part of a call frame (`Contract` and the interpreter's flags). -/
structure Context where
  caller : Address
  /-- The executing address: the storage context. -/
  address : Address
  code : Bytes
  input : Bytes
  value : Word
  readOnly : Bool
  /-- `evm.depth` while the frame runs. -/
  depth : Nat
  /-- The transaction's block and transaction context, shared by all its frames. -/
  env : Env
  /-- `Contract.IsDeployment`: the frame runs init code. -/
  deployment : Bool

/-- The loop's machine state and the contract's gas. -/
structure Frame where
  pc : Nat := 0
  stack : List Word := []
  memory : Bytes := []
  lastGasCost : Nat := 0
  returnData : Bytes := []
  gas : Nat

/-- What `Run` returns: the output, the error and the gas left in the contract. -/
structure RunResult where
  ret : Bytes
  err : Option VmError
  gas : Nat

/-- The pre-dispatch hook `Run` calls before each opcode, with the executing address and
the stack; `some msg` is its error. -/
abbrev Hook := OpCode → Address → List Word → ForkM (Option String)

/-- The plain EVM: no hook. -/
def noHooks : Hook := fun _ _ _ => pure none

/-! ## Instructions and the jump table -/

/-- The opcodes that replace their operands by one value computed from them alone
(`opAdd` to `opSar`, `EXP` apart). -/
inductive ArithOp where
  | add | mul | sub | div | sdiv | mod | smod | addmod | mulmod | signextend
  | lt | gt | slt | sgt | eq | iszero | and | or | xor | not | byte | shl | shr | sar

namespace ArithOp

/-- The operands an arithmetic opcode pops. -/
def arity : ArithOp → Nat
  | .iszero | .not => 1
  | .addmod | .mulmod => 3
  | _ => 2

/-- Its constant gas: `GasFastestStep`, `GasFastStep` or `GasMidStep`. -/
def constantGas : ArithOp → Nat
  | .mul | .div | .sdiv | .mod | .smod | .signextend => 5
  | .addmod | .mulmod => 8
  | _ => 3

theorem constantGas_pos (op : ArithOp) : 0 < op.constantGas := by cases op <;> decide

/-- Its result on the top three stack items, top first, in `uint256` arithmetic: a zero
divisor or modulus gives zero, shifts past 255 saturate. -/
def eval : ArithOp → Word → Word → Word → Word
  | .add, x, y, _ => x + y
  | .mul, x, y, _ => x * y
  | .sub, x, y, _ => x - y
  | .div, x, y, _ => x / y
  | .sdiv, x, y, _ => x.sdiv y
  | .mod, x, y, _ => if y = 0 then 0 else x % y
  | .smod, x, y, _ => if y = 0 then 0 else x.srem y
  | .addmod, x, y, m => if m = 0 then 0 else .ofNat 256 ((x.toNat + y.toNat) % m.toNat)
  | .mulmod, x, y, m => if m = 0 then 0 else .ofNat 256 ((x.toNat * y.toNat) % m.toNat)
  | .signextend, back, num, _ =>
    if back.toNat < 31 then (num.setWidth (8 * back.toNat + 8)).signExtend 256 else num
  | .lt, x, y, _ => if x < y then 1 else 0
  | .gt, x, y, _ => if y < x then 1 else 0
  | .slt, x, y, _ => if x.slt y then 1 else 0
  | .sgt, x, y, _ => if y.slt x then 1 else 0
  | .eq, x, y, _ => if x = y then 1 else 0
  | .iszero, x, _, _ => if x = 0 then 1 else 0
  | .and, x, y, _ => x &&& y
  | .or, x, y, _ => x ||| y
  | .xor, x, y, _ => x ^^^ y
  | .not, x, _, _ => ~~~x
  | .byte, i, v, _ => if i.toNat < 32 then (v >>> (8 * (31 - i.toNat))) &&& 0xff else 0
  | .shl, n, v, _ => if n.toNat < 256 then v <<< n.toNat else 0
  | .shr, n, v, _ => if n.toNat < 256 then v >>> n.toNat else 0
  | .sar, n, v, _ => v.sshiftRight (min n.toNat 256)

end ArithOp

/-- `Exp`: `base ^ exponent` modulo `2 ^ 256`, squaring over the exponent's bits. -/
def Word.exp (base exponent : Word) : Word :=
  ((List.range 256).foldl (fun (acc : Word × Word) i =>
    (if exponent.getLsbD i then acc.1 * acc.2 else acc.1, acc.2 * acc.2)) (1, base)).1

/-- The opcodes that push one value read off the frame, the state or the environment. -/
inductive EnvOp where
  | address | origin | caller | callvalue | calldatasize | codesize | gasprice
  | returndatasize | coinbase | timestamp | number | prevrandao | gaslimit | chainid
  | selfbalance | basefee | blobbasefee | pc | msize | gas

namespace EnvOp

/-- Its constant gas: `GasQuickStep`, `SELFBALANCE`'s `GasFastStep`. -/
def constantGas : EnvOp → Nat
  | .selfbalance => 5
  | _ => 2

theorem constantGas_pos (op : EnvOp) : 0 < op.constantGas := by cases op <;> decide

/-- The value it pushes (`opAddress` … `opGas`). -/
def read : EnvOp → Context → Frame → StateDB → Word
  | .address, ctx, _, _ => ctx.address.toWord
  | .origin, ctx, _, _ => ctx.env.origin.toWord
  | .caller, ctx, _, _ => ctx.caller.toWord
  | .callvalue, ctx, _, _ => ctx.value
  | .calldatasize, ctx, _, _ => .ofNat 256 ctx.input.length
  | .codesize, ctx, _, _ => .ofNat 256 ctx.code.length
  | .gasprice, ctx, _, _ => .ofNat 256 ctx.env.gasPrice
  | .returndatasize, _, f, _ => .ofNat 256 f.returnData.length
  | .coinbase, ctx, _, _ => ctx.env.coinbase.toWord
  | .timestamp, ctx, _, _ => .ofNat 256 ctx.env.time
  | .number, ctx, _, _ => .ofNat 256 ctx.env.blockNumber
  | .prevrandao, ctx, _, _ => ctx.env.random
  | .gaslimit, ctx, _, _ => .ofNat 256 ctx.env.gasLimit
  | .chainid, ctx, _, _ => .ofNat 256 ctx.env.chainId
  | .selfbalance, ctx, _, db => db.getBalance ctx.address
  | .basefee, ctx, _, _ => .ofNat 256 ctx.env.baseFee
  | .blobbasefee, ctx, _, _ => .ofNat 256 ctx.env.blobBaseFee
  | .pc, _, f, _ => .ofNat 256 f.pc
  | .msize, _, f, _ => .ofNat 256 f.memory.length
  | .gas, _, f, _ => .ofNat 256 f.gas

end EnvOp

/-- The Cancun instructions. -/
inductive Instr where
  | stop
  | arith (op : ArithOp)
  | exp | keccak256
  | env (op : EnvOp)
  | balance | calldataload | calldatacopy | codecopy
  | extcodesize | extcodecopy | returndatacopy | extcodehash | blockhash | blobhash
  | pop | mload | mstore | mstore8 | sload | sstore | jump | jumpi | jumpdest
  | tload | tstore | mcopy
  /-- `PUSH0` to `PUSH32`, by immediate width. -/
  | push (width : Nat)
  | dup (n : Nat)
  | swap (n : Nat)
  /-- `LOG0` to `LOG4`, by topic count. -/
  | log (topics : Nat)
  | create | call | callcode | ret | delegatecall | create2 | staticcall | revert | selfdestruct
  | invalid (op : OpCode)

/-- The instruction an opcode byte stands for. -/
def Instr.ofOpCode (op : OpCode) : Instr :=
  match op.toNat with
  | 0x00 => .stop | 0x01 => .arith .add | 0x02 => .arith .mul | 0x03 => .arith .sub
  | 0x04 => .arith .div | 0x05 => .arith .sdiv | 0x06 => .arith .mod | 0x07 => .arith .smod
  | 0x08 => .arith .addmod | 0x09 => .arith .mulmod | 0x0a => .exp
  | 0x0b => .arith .signextend | 0x10 => .arith .lt | 0x11 => .arith .gt
  | 0x12 => .arith .slt | 0x13 => .arith .sgt | 0x14 => .arith .eq | 0x15 => .arith .iszero
  | 0x16 => .arith .and | 0x17 => .arith .or | 0x18 => .arith .xor | 0x19 => .arith .not
  | 0x1a => .arith .byte | 0x1b => .arith .shl | 0x1c => .arith .shr | 0x1d => .arith .sar
  | 0x20 => .keccak256 | 0x30 => .env .address | 0x31 => .balance | 0x32 => .env .origin
  | 0x33 => .env .caller | 0x34 => .env .callvalue | 0x35 => .calldataload
  | 0x36 => .env .calldatasize | 0x37 => .calldatacopy | 0x38 => .env .codesize
  | 0x39 => .codecopy | 0x3a => .env .gasprice | 0x3b => .extcodesize | 0x3c => .extcodecopy
  | 0x3d => .env .returndatasize | 0x3e => .returndatacopy | 0x3f => .extcodehash
  | 0x40 => .blockhash | 0x41 => .env .coinbase | 0x42 => .env .timestamp
  | 0x43 => .env .number | 0x44 => .env .prevrandao | 0x45 => .env .gaslimit
  | 0x46 => .env .chainid | 0x47 => .env .selfbalance | 0x48 => .env .basefee
  | 0x49 => .blobhash | 0x4a => .env .blobbasefee | 0x50 => .pop | 0x51 => .mload
  | 0x52 => .mstore | 0x53 => .mstore8 | 0x54 => .sload | 0x55 => .sstore | 0x56 => .jump
  | 0x57 => .jumpi | 0x58 => .env .pc | 0x59 => .env .msize | 0x5a => .env .gas
  | 0x5b => .jumpdest | 0x5c => .tload | 0x5d => .tstore | 0x5e => .mcopy | 0x5f => .push 0
  | 0xf0 => .create | 0xf1 => .call | 0xf2 => .callcode | 0xf3 => .ret
  | 0xf4 => .delegatecall | 0xf5 => .create2 | 0xfa => .staticcall | 0xfd => .revert
  | 0xff => .selfdestruct
  | n =>
    if 0x60 ≤ n ∧ n ≤ 0x7f then .push (n - 0x5f)
    else if 0x80 ≤ n ∧ n ≤ 0x8f then .dup (n - 0x7f)
    else if 0x90 ≤ n ∧ n ≤ 0x9f then .swap (n - 0x8f)
    else if 0xa0 ≤ n ∧ n ≤ 0xa4 then .log (n - 0xa0)
    else .invalid op

def stackLimit : Nat := 1024

/-- The stack bounds and constant gas of an opcode (`operation`). -/
structure Operation where
  minStack : Nat
  maxStack : Nat
  constantGas : Nat

/-- An opcode popping `pops` items, pushing `pushes`, at constant gas `gas`. -/
def Operation.ofArity (pops pushes gas : Nat) : Operation :=
  ⟨pops, stackLimit + pops - pushes, gas⟩

/-- The Cancun jump table on the modelled instructions; an undefined opcode has no
bounds and no cost. -/
def Instr.operation : Instr → Operation
  | .stop => .ofArity 0 0 0
  | .arith op => .ofArity op.arity 1 op.constantGas
  | .exp => .ofArity 2 1 0
  | .keccak256 => .ofArity 2 1 keccak256Gas
  | .env op => .ofArity 0 1 op.constantGas
  | .balance | .extcodesize | .extcodehash => .ofArity 1 1 warmStorageReadCostEIP2929
  | .calldataload => .ofArity 1 1 3
  | .calldatacopy | .codecopy | .returndatacopy | .mcopy => .ofArity 3 0 3
  | .extcodecopy => .ofArity 4 0 warmStorageReadCostEIP2929
  | .blockhash => .ofArity 1 1 20
  | .blobhash => .ofArity 1 1 3
  | .pop => .ofArity 1 0 2
  | .mload => .ofArity 1 1 3
  | .mstore | .mstore8 => .ofArity 2 0 3
  | .sload => .ofArity 1 1 0
  | .sstore => .ofArity 2 0 0
  | .jump => .ofArity 1 0 8
  | .jumpi => .ofArity 2 0 10
  | .jumpdest => .ofArity 0 0 1
  | .tload => .ofArity 1 1 warmStorageReadCostEIP2929
  | .tstore => .ofArity 2 0 warmStorageReadCostEIP2929
  | .push w => .ofArity 0 1 (if w = 0 then 2 else 3)
  | .dup n => .ofArity n (n + 1) 3
  | .swap n => .ofArity (n + 1) (n + 1) 3
  | .log n => .ofArity (n + 2) 0 0
  | .create => .ofArity 3 1 createGas
  | .create2 => .ofArity 4 1 createGas
  | .call | .callcode => .ofArity 7 1 warmStorageReadCostEIP2929
  | .delegatecall | .staticcall => .ofArity 6 1 warmStorageReadCostEIP2929
  | .ret | .revert => .ofArity 2 0 0
  | .selfdestruct => .ofArity 1 0 selfdestructGasEIP150
  | .invalid _ => .ofArity 0 0 0

/-! ## Frames and steps -/

namespace Frame

/-- Continue at the next opcode with this stack. -/
def advance (f : Frame) (stack : List Word) : Frame := { f with pc := f.pc + 1, stack }

/-- `UseGas`. -/
def useGas (f : Frame) (g : Nat) : Option Frame :=
  if g ≤ f.gas then some { f with gas := f.gas - g } else none

/-- `mem.Resize`: zero-extend memory to `size` bytes. -/
def resize (f : Frame) (size : Nat) : Frame :=
  { f with memory := f.memory ++ List.replicate (size - f.memory.length) 0 }

/-- `memory.GetCopy`: `size` bytes from `off`. -/
def getCopy (f : Frame) (off size : Nat) : Bytes := (f.memory.drop off).take size

/-- `memory.Set`: write the first `size` bytes of `value` at `off`. -/
def set (f : Frame) (off size : Nat) (value : Bytes) : Frame :=
  { f with memory := writeBytes f.memory off (value.take size) }

end Frame

/-- What an `EVM` call entry point does before any callee code runs: finish at once, or
enter a callee frame on a state, with the snapshot to restore if the callee fails. -/
inductive CallPlan where
  | done (r : RunResult) (db : StateDB)
  | enter (callee : Context) (gas : Nat) (db snapshot : StateDB)

/-- One loop iteration: carry on, leave the loop, or enter a planned callee and resume
the caller with its result. -/
inductive Step where
  | next (f : Frame) (db : StateDB)
  | halt (r : RunResult) (db : StateDB)
  | call (callee : Context) (gas : Nat) (db snapshot : StateDB) (resume : RunResult → Frame)

/-- Leave the loop with `(ret, err)`. -/
def Step.fail (f : Frame) (db : StateDB) (err : VmError) (ret : Bytes := []) : Step :=
  .halt ⟨ret, some err, f.gas⟩ db

/-- A call opcode's step: resume at once on a finished plan, else enter the callee. -/
def Step.ofPlan (resume : RunResult → Frame) : CallPlan → Step
  | .done r db => .next (resume r) db
  | .enter callee gas db snapshot => .call callee gas db snapshot resume

/-! ## Calls -/

/-- `EVM.Call` from the frame `ctx` to `addr` (no precompiles). -/
def evmCall (ctx : Context) (addr : Address) (input : Bytes) (gas : Nat) (value : Word)
    (db : StateDB) : CallPlan :=
  if callCreateDepth < ctx.depth then .done ⟨[], some .depth, gas⟩ db
  else if value ≠ 0 ∧ db.getBalance ctx.address < value then
    .done ⟨[], some .insufficientBalance, gas⟩ db
  else if ¬db.exist addr ∧ value = 0 then .done ⟨[], none, gas⟩ db
  else
    let db' := if db.exist addr then db else db.createAccount addr
    let db' := (db'.subBalance ctx.address value).addBalance addr value
    if (db'.getCode addr).isEmpty then .done ⟨[], none, gas⟩ db'
    else .enter ⟨ctx.address, addr, db'.getCode addr, input, value, ctx.readOnly, ctx.depth + 1,
      ctx.env, false⟩ gas db' db

/-- `EVM.CallCode`: `addr`'s code on the caller's own account. -/
def evmCallCode (ctx : Context) (addr : Address) (input : Bytes) (gas : Nat) (value : Word)
    (db : StateDB) : CallPlan :=
  if callCreateDepth < ctx.depth then .done ⟨[], some .depth, gas⟩ db
  else if db.getBalance ctx.address < value then .done ⟨[], some .insufficientBalance, gas⟩ db
  else .enter ⟨ctx.address, ctx.address, db.getCode addr, input, value, ctx.readOnly,
    ctx.depth + 1, ctx.env, false⟩ gas db db

/-- `EVM.DelegateCall`: `addr`'s code with the caller's context. -/
def evmDelegateCall (ctx : Context) (addr : Address) (input : Bytes) (gas : Nat) (db : StateDB) :
    CallPlan :=
  if callCreateDepth < ctx.depth then .done ⟨[], some .depth, gas⟩ db
  else .enter ⟨ctx.caller, ctx.address, db.getCode addr, input, ctx.value, ctx.readOnly,
    ctx.depth + 1, ctx.env, false⟩ gas db db

/-- `EVM.StaticCall`: a read-only call, touching `addr` first. -/
def evmStaticCall (ctx : Context) (addr : Address) (input : Bytes) (gas : Nat) (db : StateDB) :
    CallPlan :=
  if callCreateDepth < ctx.depth then .done ⟨[], some .depth, gas⟩ db
  else
    let db' := db.addBalance addr 0
    .enter ⟨ctx.address, addr, db'.getCode addr, input, 0, true, ctx.depth + 1, ctx.env, false⟩
      gas db' db

/-- `EVM.create` from the frame `ctx` at the derived address `addr`, running `initCode`:
the sender's nonce is bumped and `addr` made warm for good, then an address with a nonce
or code is a collision, which keeps no gas; otherwise the new contract gets nonce 1 and
the value. -/
def evmCreate (ctx : Context) (addr : Address) (initCode : Bytes) (gas : Nat) (value : Word)
    (db : StateDB) : CallPlan :=
  if callCreateDepth < ctx.depth then .done ⟨[], some .depth, gas⟩ db
  else if db.getBalance ctx.address < value then .done ⟨[], some .insufficientBalance, gas⟩ db
  else if uint64Size ≤ db.getNonce ctx.address + 1 then
    .done ⟨[], some .nonceUintOverflow, gas⟩ db
  else
    let db := (db.setNonce ctx.address (db.getNonce ctx.address + 1)).addAddressToAccessList addr
    if db.getNonce addr ≠ 0 ∨ (db.getCode addr).isEmpty = false then
      .done ⟨[], some .contractAddressCollision, 0⟩ db
    else
      let db' := (if db.exist addr then db else db.createAccount addr).createContract addr
      let db' := ((db'.setNonce addr 1).subBalance ctx.address value).addBalance addr value
      .enter ⟨ctx.address, addr, initCode, [], value, ctx.readOnly, ctx.depth + 1, ctx.env,
        true⟩ gas db' db

/-- `initNewContract` once the init code has returned: the code must fit `MaxCodeSize`,
must not start with `0xEF` (EIP-3541) and pays `CreateDataGas` a byte; then `SetCode`. -/
def deposit (addr : Address) (r : RunResult) (db : StateDB) : RunResult × StateDB :=
  match r.err with
  | some _ => (r, db)
  | none =>
    let cost := r.ret.length * createDataGas
    if maxCodeSize < r.ret.length then ({ r with err := some .maxCodeSizeExceeded }, db)
    else if r.ret.head? = some 0xEF then ({ r with err := some .invalidCode }, db)
    else if r.gas < cost then ({ r with err := some .codeStoreOutOfGas }, db)
    else ({ r with gas := r.gas - cost }, db.setCode addr r.ret)

theorem deposit_of_error {addr : Address} {r : RunResult} {err : VmError} (h : r.err = some err)
    (db : StateDB) : deposit addr r db = (r, db) := by
  simp [deposit, h]

/-- `rlp.EncodeToBytes` of an integer. -/
def rlpUint (n : Nat) : Bytes :=
  if n = 0 then [0x80]
  else if n < 128 then [UInt8.ofNat n]
  else
    let bs := Word.significantBytes (.ofNat 256 n)
    UInt8.ofNat (0x80 + bs.length) :: bs

/-- `crypto.CreateAddress`: the address `CREATE` deploys at, from the RLP list of the
sender and its nonce. -/
def createAddress (sender : Address) (nonce : Nat) : Address :=
  let payload := (0x94 :: sender.toWord.toBytes32.drop 12) ++ rlpUint nonce
  (keccak256 (UInt8.ofNat (0xc0 + payload.length) :: payload)).toAddress

/-- `crypto.CreateAddress2`: the address `CREATE2` deploys at, from the sender, the salt
and the init code's hash (EIP-1014). -/
def createAddress2 (sender : Address) (salt : Word) (initCode : Bytes) : Address :=
  (keccak256 (0xff :: sender.toWord.toBytes32.drop 12 ++ salt.toBytes32 ++
    (keccak256 initCode).toBytes32)).toAddress

/-- The caller after a call opcode: the success flag, the return data copied on success
or revert, the callee's gas returned, `returnData` set. -/
def afterCall (f : Frame) (rest : List Word) (retOff retSize : Word) (r : RunResult) : Frame :=
  let ok := r.err = none
  let f := if ok ∨ r.err = some .executionReverted then f.set retOff.toNat retSize.toNat r.ret
    else f
  let f := f.advance ((if ok then 1 else 0) :: rest)
  { f with gas := f.gas + r.gas, returnData := r.ret }

/-- The caller after a create opcode: the new address on success, else zero, the init
code's gas returned, and its output as `returnData` only after a revert. -/
def afterCreate (f : Frame) (rest : List Word) (addr : Address) (r : RunResult) : Frame :=
  let f := f.advance ((if r.err = none then addr.toWord else 0) :: rest)
  { f with
    gas := f.gas + r.gas
    returnData := if r.err = some .executionReverted then r.ret else [] }

/-! ## Gas -/

/-- A dynamic gas function: the frame's gas, the memory fee and the state, to the whole
dynamic cost, an auxiliary value (`callGasTemp`) and the state; `none` is its error. -/
abbrev GasFn := Nat → Nat → StateDB → Except Abort (Option (Nat × Nat × StateDB))

/-- `Run`'s dynamic-gas stage, then the execution `k`: the memory size `region` is
checked for overflow and rounded to words, the gas function runs (its error is reported
as out of gas), then `UseGas` and the resize. -/
def withGas (f : Frame) (db : StateDB) (region : Option Nat) (dyn : GasFn)
    (k : Nat → Frame → StateDB → Except Abort Step) : Except Abort Step :=
  match region with
  | none => pure (Step.fail f db .gasUintOverflow)
  | some size =>
    let memorySize := toWordSize size * 32
    if uint64Size ≤ memorySize then pure (Step.fail f db .gasUintOverflow)
    else
      match memoryGasCost f.memory.length f.lastGasCost memorySize with
      | none => pure (Step.fail f db .outOfGas)
      | some (fee, last) => do
        match ← dyn f.gas fee db with
        | none => pure (Step.fail f db .outOfGas)
        | some (cost, aux, db') =>
          match f.useGas cost with
          | none => pure (Step.fail f db .outOfGas)
          | some f => k aux { f.resize memorySize with lastGasCost := last } db'

/-- `Uint64WithOverflow` on a data offset: past `2 ^ 64 - 1` it is clamped there. -/
def clampUint64 (w : Word) : Nat := if w.toNat < uint64Size then w.toNat else uint64Size - 1

/-- Memory growth only. -/
def memoryOnly : GasFn := fun _ fee db => pure (some (fee, 0, db))

/-- The larger of two memory regions, `none` if either overflows. -/
def maxRegion : Option Nat → Option Nat → Option Nat
  | some a, some b => some (max a b)
  | _, _ => none

/-- The memory a call opcode needs: its return and input regions, from stack item `i`. -/
def callRegion (st : List Word) (i : Nat) : Option Nat :=
  maxRegion (calcMemSize64 (st.getD (i + 2) 0) (st.getD (i + 3) 0))
    (calcMemSize64 (st.getD i 0) (st.getD (i + 1) 0))

/-- The copying opcodes' and `KECCAK256`'s gas (`memoryCopierGas`, `gasKeccak256`):
memory, and `perWord` for every word of `len`. -/
def perWordGas (perWord : Nat) (len : Word) : GasFn := fun _ fee db =>
  if uint64Size ≤ len.toNat then pure none
  else pure (some (fee + toWordSize len.toNat * perWord, 0, db))

/-- `EXP`'s gas (EIP-158): `ExpByteEIP158` for every significant byte of the exponent. -/
def gasExp (exponent : Word) : GasFn := fun _ _ db =>
  pure (some (expGas + exponent.significantBytes.length * expByteEIP158, 0, db))

/-- The create opcodes' gas (`gasCreateEip3860`, `gasCreate2Eip3860`): memory, and
`perWord` for every word of init code, which must fit `MaxInitCodeSize`. -/
def gasCreate (perWord : Nat) (size : Word) : GasFn := fun _ fee db =>
  if uint64Size ≤ size.toNat ∨ maxInitCodeSize < size.toNat then pure none
  else pure (some (fee + toWordSize size.toNat * perWord, 0, db))

/-- `LOG`'s gas (`makeGasLog`): memory, `LogGas`, `LogTopicGas` per topic and
`LogDataGas` per byte logged. -/
def gasLog (topics : Nat) (size : Word) : GasFn := fun _ fee db =>
  if uint64Size ≤ size.toNat then pure none
  else pure (some (fee + logGas + topics * logTopicGas + size.toNat * logDataGas, 0, db))

/-- The EIP-2929 surcharge of an account access, `cold − warm`, making it warm. -/
def accountAccess (a : Address) (db : StateDB) : Nat × StateDB :=
  if db.addressInAccessList a then (0, db)
  else (coldAccountAccessCostEIP2929 - warmStorageReadCostEIP2929, db.addAddressToAccessList a)

/-- `SLOAD`'s gas (EIP-2929). -/
def gasSLoad (self : Address) (slot : Word) : GasFn := fun _ _ db => pure <|
  if db.slotInAccessList self slot then some (warmStorageReadCostEIP2929, 0, db)
  else some (coldSloadCostEIP2929, 0, db.addSlotToAccessList self slot)

/-- `SSTORE`'s gas: the reentrancy sentry, the cold surcharge, then `sstoreCost` with
its refund changes (`SubRefund` below zero panics). -/
def gasSStore (self : Address) (slot value : Word) : GasFn := fun gas _ db =>
  if gas ≤ sstoreSentryGasEIP2200 then pure none
  else
    let (cold, db') := if db.slotInAccessList self slot then (0, db)
      else (coldSloadCostEIP2929, db.addSlotToAccessList self slot)
    let (cost, add, subtract) :=
      sstoreCost (db.getCommittedState self slot) (db.getState self slot) value
    match db'.subRefund subtract with
    | none => .error (.panic "Refund counter below zero")
    | some db' => pure (some (cold + cost, 0, db'.addRefund add))

/-- The gas of an account-reading opcode (EIP-2929). -/
def gasAccountCheck (a : Address) : GasFn := fun _ _ db =>
  let (cold, db) := accountAccess a db
  pure (some (cold, 0, db))

/-- `SELFDESTRUCT`'s gas (EIP-3529): a cold beneficiary, and a balance sent to an empty
one; no refund. -/
def gasSelfdestruct (self beneficiary : Address) : GasFn := fun _ _ db =>
  let (cold, db) := if db.addressInAccessList beneficiary then (0, db)
    else (coldAccountAccessCostEIP2929, db.addAddressToAccessList beneficiary)
  pure (some (cold + (if db.empty beneficiary ∧ db.getBalance self ≠ 0 then
    createBySelfdestructGas else 0), 0, db))

/-- The call opcodes' gas: the cold surcharge first, the new-account (`CALL` only) and
value-transfer costs, memory, and the forwarded gas `callGasTemp` as the auxiliary value. -/
def gasCallVariant (newAccount : Bool) (addr : Address) (value reqGas : Word) : GasFn :=
  fun gas fee db =>
    let (cold, db) := accountAccess addr db
    if gas < cold then pure none
    else
      let base := (if newAccount ∧ value ≠ 0 ∧ db.empty addr then callNewAccountGas else 0) +
        (if value ≠ 0 then callValueTransferGas else 0) + fee
      let temp := callGas (gas - cold) base reqGas
      if uint64Size ≤ base + temp + cold then pure none
      else pure (some (base + temp + cold, temp, db))

/-! ## One iteration -/

/-- Replace the top `k` items by `v`. -/
def pushResult (f : Frame) (db : StateDB) (k : Nat) (v : Word) : Step :=
  .next (f.advance (v :: f.stack.drop k)) db

/-- A call opcode once charged: the plan for the forwarded gas and the input, resumed
with `afterCall`. -/
def callStep (f : Frame) (rest : List Word) (inOff inSize retOff retSize : Word) (gas : Nat)
    (plan : Bytes → Nat → CallPlan) : Step :=
  Step.ofPlan (afterCall f rest retOff retSize) (plan (f.getCopy inOff.toNat inSize.toNat) gas)

/-- A create opcode once charged: the init code gets all but a 64th of the frame's gas
(EIP-150), and the caller resumes with `afterCreate`. -/
def createStep (f : Frame) (rest : List Word) (addr : Address) (plan : Nat → CallPlan) : Step :=
  Step.ofPlan (afterCreate { f with gas := f.gas / 64 } rest addr) (plan (f.gas - f.gas / 64))

/-- The execution of `instr` once the stack is validated and the constant gas charged. -/
def executeOp (instr : Instr) (ctx : Context) (f : Frame) (db : StateDB) : Except Abort Step :=
  let st := f.stack
  let top := st.headD 0
  let second := st.getD 1 0
  let third := st.getD 2 0
  match instr with
  | .stop => pure (.halt ⟨[], none, f.gas⟩ db)
  | .arith op => pure (pushResult f db op.arity (op.eval top second third))
  | .exp => withGas f db (some 0) (gasExp second) fun _ f db =>
      pure (pushResult f db 2 (Word.exp top second))
  | .keccak256 => withGas f db (calcMemSize64 top second) (perWordGas keccak256WordGas second)
      fun _ f db => pure (pushResult f db 2 (keccak256 (f.getCopy top.toNat second.toNat)))
  | .env op => pure (pushResult f db 0 (op.read ctx f db))
  | .balance => withGas f db (some 0) (gasAccountCheck top.toAddress) fun _ f db =>
      pure (pushResult f db 1 (db.getBalance top.toAddress))
  | .calldataload => pure (pushResult f db 1
      (if top.toNat < uint64Size then Word.ofBytes (getData ctx.input top.toNat 32) else 0))
  | .calldatacopy => withGas f db (calcMemSize64 top third) (perWordGas copyGas third)
      fun _ f db => pure (.next ((f.set top.toNat third.toNat
        (getData ctx.input (clampUint64 second) third.toNat)).advance (st.drop 3)) db)
  | .codecopy => withGas f db (calcMemSize64 top third) (perWordGas copyGas third)
      fun _ f db => pure (.next ((f.set top.toNat third.toNat
        (getData ctx.code (clampUint64 second) third.toNat)).advance (st.drop 3)) db)
  | .extcodesize => withGas f db (some 0) (gasAccountCheck top.toAddress) fun _ f db =>
      pure (pushResult f db 1 (BitVec.ofNat 256 (db.getCodeSize top.toAddress)))
  | .extcodecopy =>
    let len := st.getD 3 0
    withGas f db (calcMemSize64 second len)
      (fun _ fee db =>
        if uint64Size ≤ len.toNat then pure none
        else let (cold, db) := accountAccess top.toAddress db
          pure (some (fee + toWordSize len.toNat * copyGas + cold, 0, db)))
      fun _ f db =>
        let copy := getData (db.getCode top.toAddress) (clampUint64 third) len.toNat
        pure (.next ((f.set second.toNat len.toNat copy).advance (st.drop 4)) db)
  | .returndatacopy => withGas f db (calcMemSize64 top third) (perWordGas copyGas third)
      fun _ f db =>
        let stop := second + third
        if uint64Size ≤ second.toNat ∨ uint64Size ≤ stop.toNat ∨
            f.returnData.length < stop.toNat then
          pure (Step.fail f db .returnDataOutOfBounds)
        else pure (.next ((f.set top.toNat third.toNat
          ((f.returnData.drop second.toNat).take third.toNat)).advance (st.drop 3)) db)
  | .extcodehash => withGas f db (some 0) (gasAccountCheck top.toAddress) fun _ f db =>
      pure (pushResult f db 1 (if db.empty top.toAddress then 0
        else keccak256 (db.getCode top.toAddress)))
  | .blockhash => pure (pushResult f db 1 (ctx.env.blockHash top))
  | .blobhash => pure (pushResult f db 1 (ctx.env.blobHashes.getD top.toNat 0))
  | .pop => pure (.next (f.advance (st.drop 1)) db)
  | .mload => withGas f db (calcMemSize64 top 32) memoryOnly fun _ f db =>
      pure (pushResult f db 1 (Word.ofBytes (f.getCopy top.toNat 32)))
  | .mstore => withGas f db (calcMemSize64 top 32) memoryOnly fun _ f db =>
      pure (.next ((f.set top.toNat 32 second.toBytes32).advance (st.drop 2)) db)
  | .mstore8 => withGas f db (calcMemSize64 top 1) memoryOnly fun _ f db =>
      pure (.next ((f.set top.toNat 1 [UInt8.ofNat second.toNat]).advance (st.drop 2)) db)
  | .sload => withGas f db (some 0) (gasSLoad ctx.address top) fun _ f db =>
      pure (pushResult f db 1 (db.getState ctx.address top))
  | .sstore => withGas f db (some 0) (gasSStore ctx.address top second) fun _ f db =>
      if ctx.readOnly then pure (Step.fail f db .writeProtection)
      else pure (.next (f.advance (st.drop 2)) (db.setState ctx.address top second))
  | .jump =>
    if validJumpdest ctx.code top then pure (.next { f with pc := top.toNat, stack := st.drop 1 } db)
    else pure (Step.fail f db .invalidJump)
  | .jumpi =>
    if second = 0 then pure (.next (f.advance (st.drop 2)) db)
    else if validJumpdest ctx.code top then
      pure (.next { f with pc := top.toNat, stack := st.drop 2 } db)
    else pure (Step.fail f db .invalidJump)
  | .jumpdest => pure (.next (f.advance st) db)
  | .tload => pure (pushResult f db 1 (db.getTransientState ctx.address top))
  | .tstore =>
    if ctx.readOnly then pure (Step.fail f db .writeProtection)
    else pure (.next (f.advance (st.drop 2)) (db.setTransientState ctx.address top second))
  | .mcopy => withGas f db (calcMemSize64 (if top < second then second else top) third)
      (perWordGas copyGas third) fun _ f db =>
        pure (.next ((f.set top.toNat third.toNat (f.getCopy second.toNat third.toNat)).advance
          (st.drop 3)) db)
  | .push width =>
    let imm := Word.ofBytes (getData ctx.code (f.pc + 1) width)
    pure (.next { f with pc := f.pc + width + 1, stack := imm :: st } db)
  | .dup n => pure (pushResult f db 0 (st.getD (n - 1) 0))
  | .swap n => pure (.next (f.advance ((st.set 0 (st.getD n 0)).set n top)) db)
  | .log n => withGas f db (calcMemSize64 top second) (gasLog n second) fun _ f db =>
      if ctx.readOnly then pure (Step.fail f db .writeProtection)
      else pure (.next (f.advance (st.drop (n + 2))) db)
  | .call =>
    let value := st.getD 2 0
    withGas f db (callRegion st 3) (gasCallVariant true second.toAddress value top)
      fun temp f db =>
        if ctx.readOnly ∧ value ≠ 0 then pure (Step.fail f db .writeProtection)
        else pure (callStep f (st.drop 7) (st.getD 3 0) (st.getD 4 0) (st.getD 5 0) (st.getD 6 0)
          (temp + if value ≠ 0 then callStipend else 0)
          fun input gas => evmCall ctx second.toAddress input gas value db)
  | .callcode =>
    let value := st.getD 2 0
    withGas f db (callRegion st 3) (gasCallVariant false second.toAddress value top)
      fun temp f db =>
        pure (callStep f (st.drop 7) (st.getD 3 0) (st.getD 4 0) (st.getD 5 0) (st.getD 6 0)
          (temp + if value ≠ 0 then callStipend else 0)
          fun input gas => evmCallCode ctx second.toAddress input gas value db)
  | .delegatecall =>
    withGas f db (callRegion st 2) (gasCallVariant false second.toAddress 0 top) fun temp f db =>
      pure (callStep f (st.drop 6) (st.getD 2 0) (st.getD 3 0) (st.getD 4 0) (st.getD 5 0) temp
        fun input gas => evmDelegateCall ctx second.toAddress input gas db)
  | .staticcall =>
    withGas f db (callRegion st 2) (gasCallVariant false second.toAddress 0 top) fun temp f db =>
      pure (callStep f (st.drop 6) (st.getD 2 0) (st.getD 3 0) (st.getD 4 0) (st.getD 5 0) temp
        fun input gas => evmStaticCall ctx second.toAddress input gas db)
  | .ret => withGas f db (calcMemSize64 top second) memoryOnly fun _ f db =>
      pure (.halt ⟨f.getCopy top.toNat second.toNat, none, f.gas⟩ db)
  | .revert => withGas f db (calcMemSize64 top second) memoryOnly fun _ f db =>
      pure (Step.fail f db .executionReverted (f.getCopy top.toNat second.toNat))
  | .create => withGas f db (calcMemSize64 second third) (gasCreate initCodeWordGas third)
      fun _ f db =>
        if ctx.readOnly then pure (Step.fail f db .writeProtection)
        else
          let addr := createAddress ctx.address (db.getNonce ctx.address)
          pure (createStep f (st.drop 3) addr
            (evmCreate ctx addr (f.getCopy second.toNat third.toNat) · top db))
  | .create2 => withGas f db (calcMemSize64 second third)
      (gasCreate (initCodeWordGas + keccak256WordGas) third) fun _ f db =>
        if ctx.readOnly then pure (Step.fail f db .writeProtection)
        else
          let initCode := f.getCopy second.toNat third.toNat
          let addr := createAddress2 ctx.address (st.getD 3 0) initCode
          pure (createStep f (st.drop 4) addr (evmCreate ctx addr initCode · top db))
  | .selfdestruct => withGas f db (some 0) (gasSelfdestruct ctx.address top.toAddress)
      fun _ f db =>
        if ctx.readOnly then pure (Step.fail f db .writeProtection)
        else
          let balance := db.getBalance ctx.address
          let db := (db.subBalance ctx.address balance).addBalance top.toAddress balance
          pure (.halt ⟨[], none, f.gas⟩ (db.selfDestruct6780 ctx.address))
  | .invalid op => pure (Step.fail f db (.invalidOpCode op))

/-- Stack validation and constant gas, then `executeOp`. -/
def dispatch (op : OpCode) (ctx : Context) (f : Frame) (db : StateDB) : Except Abort Step :=
  let instr := Instr.ofOpCode op
  if f.stack.length < instr.operation.minStack then
    pure (Step.fail f db (.stackUnderflow f.stack.length instr.operation.minStack))
  else if instr.operation.maxStack < f.stack.length then
    pure (Step.fail f db (.stackOverflow f.stack.length instr.operation.maxStack))
  else
    match f.useGas instr.operation.constantGas with
    | none => pure (Step.fail f db .outOfGas)
    | some f => executeOp instr ctx f db

/-! ## The loop -/

/-- Settle a finished callee: on success keep the state `db`, on failure restore the
snapshot, keeping the gas only after a revert. -/
def settle (snapshot : StateDB) (r : RunResult) (db : StateDB) (e : Evm) :
    EStateM.Result Abort Evm RunResult :=
  match r.err with
  | none => .ok r (e.withStateDB db)
  | some err =>
    .ok { r with gas := if err = .executionReverted then r.gas else 0 } (e.withStateDB snapshot)

/-- Enter a planned callee with `runCode` and settle it, a deployment after its code is
deposited. `Run` returns at once on empty code. -/
def enterCallee (runCode : Context → Frame → ForkM RunResult) (callee : Context) (gas : Nat)
    (db snapshot : StateDB) : ForkM RunResult := fun e =>
  let result := if callee.code.isEmpty then .ok ⟨[], none, gas⟩ (e.withStateDB db)
    else runCode callee { gas } (e.withStateDB db)
  match result with
  | .ok r e =>
    if callee.deployment then
      let (r, db) := deposit callee.address r e.stateDB
      settle snapshot r db e
    else settle snapshot r e.stateDB e
  | .error err e => .error err e

/-- `Run` on a frame: the hook, then `dispatch`, until the frame halts. A panic in
`dispatch` leaves the system as it was. -/
def run (hook : Hook) : Nat → Context → Frame → ForkM RunResult
  | 0, _, _, e => .error .outOfFuel e
  | fuel + 1, ctx, f, e =>
    match hook (getOp ctx.code f.pc) ctx.address f.stack e with
    | .ok none e =>
      match dispatch (getOp ctx.code f.pc) ctx f e.stateDB with
      | .ok (.next f db) => run hook fuel ctx f (e.withStateDB db)
      | .ok (.halt r db) => .ok r (e.withStateDB db)
      | .ok (.call callee gas db snapshot resume) =>
        match enterCallee (run hook fuel) callee gas db snapshot e with
        | .ok r e => run hook fuel ctx (resume r) e
        | .error err e => .error err e
      | .error err => .error err e
    | .ok (some msg) e => .ok ⟨[], some (.hook msg), f.gas⟩ e
    | .error err e => .error err e

/-- The context `runtime.Execute` calls from: the transaction's origin, at depth zero. -/
def Context.ofTx (env : Env) : Context :=
  ⟨env.origin, env.origin, [], [], 0, false, 0, env, false⟩

/-- The outermost context of a transaction from `a` in the default environment. -/
def Context.origin (a : Address) : Context := Context.ofTx { origin := a }

/-- The outermost `EVM.Call` of a transaction in `env`, from its origin to `addr`. -/
def callFromOrigin (hook : Hook) (fuel : Nat) (env : Env) (addr : Address) (input : Bytes)
    (gas : Nat) (value : Word) : ForkM RunResult := fun e =>
  match evmCall (Context.ofTx env) addr input gas value e.stateDB with
  | .done r db => .ok r (e.withStateDB db)
  | .enter callee gas db snapshot => enterCallee (run hook fuel) callee gas db snapshot e

end EvmSimulator
