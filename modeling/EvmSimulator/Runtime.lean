import EvmSimulator.Interpreter

/-!
# `runtime.Execute`

One lazy-fork run of a transaction: create the origin's account when the committed
trie lacks it, install a positive origin balance and mark it fetched, `Prepare` the
warm sets with the supplied access list, install the target's code and mark it when
the target does not exist, then the outermost call with the whole gas limit. A failed
call is an error; otherwise the gas used is the gas limit minus what is left, plus the
intrinsic gas of the access list this run built, minus the whole refund counter, in
wrapping `uint64` arithmetic.

`execute` runs on the system `NewEnv` builds over the caller's state store (`onFork`), in
the block and transaction context `NewEnv` builds from the configuration (`Config.env`),
and returns the result with that store as the run leaves it, mutated in place; the
request log runs on through the simulator (`SimM`).
-/

namespace EvmSimulator

/-- The errors of the simulator's entry points: an EVM error, or a text (a remote
request's error, verbatim, or an error the simulator raises). -/
inductive SimError where
  | vm (err : VmError)
  | text (msg : String)
  deriving DecidableEq

/-- The fields of `runtime.Config` that `Execute` reads. -/
structure Config where
  origin : Address
  coinbase : Address := 0
  blockNumber : Nat := 0
  /-- `uint64`. -/
  gasLimit : Nat
  gasPrice : Nat := 0
  value : Int

/-- `SetDefaults` on those fields: a zero gas limit becomes `math.MaxUint64`. -/
def Config.setDefaults (cfg : Config) : Config :=
  if cfg.gasLimit = 0 then { cfg with gasLimit := uint64Size - 1 } else cfg

@[simp] theorem Config.origin_setDefaults (cfg : Config) : cfg.setDefaults.origin = cfg.origin := by
  unfold Config.setDefaults; split_ifs <;> rfl

/-- `SetDefaults`' `GetHashFn`: the hash of block `n` is the Keccak-256 hash of its
decimal digits. -/
def defaultGetHash (n : Nat) : Word := keccak256 ((Nat.toDigits 10 n).map fun c => c.toNat.toUInt8)

/-- The block and transaction context `NewEnv` builds: the configured origin, coinbase,
block number, gas price and gas limit, `SetDefaults`' base fees (`InitialBaseFee`,
`BlobTxMinBlobGasprice`) and `GetHashFn`, a zero time and randomness, no blob hashes. -/
def Config.env (cfg : Config) : Env where
  origin := cfg.origin
  gasPrice := cfg.gasPrice
  coinbase := cfg.coinbase
  gasLimit := cfg.gasLimit
  blockNumber := cfg.blockNumber
  baseFee := 1000000000
  blobBaseFee := 1
  getHash := defaultGetHash

/-- `runtime.ExecutionResult`. -/
structure ExecutionResult where
  ret : Bytes
  gasUsed : Nat
  refund : Nat
  intrinsicGas : Nat
  record : RecordToInitiateState

/-- The system `NewEnv` builds over the caller's state store. -/
def Evm.init (db : StateDB) (record : Option RecordToInitiateState) (requests : List Request) :
    Evm :=
  { stateDB := db, interpreter := Interpreter.new record, requests }

/-- A simulator computation: the request log as state. A panic ends it with the log as
it stands. -/
abbrev SimM := EStateM Abort (List Request)

/-- Run a lazy-fork computation on the system `NewEnv` builds over `db` and the record,
continuing the request log. -/
def onFork {α : Type} (db : StateDB) (record : Option RecordToInitiateState) (x : ForkM α) :
    SimM α := fun log =>
  match x (Evm.init db record log) with
  | .ok a e => .ok a e.requests
  | .error err e => .error err e.requests

/-- Create the origin's account when the committed trie lacks it. -/
def ensureOrigin (origin : Address) (e : Evm) : Evm :=
  if (e.stateDB.base origin).isNone then e.withStateDB (e.stateDB.createAccount origin) else e

/-- Install a positive origin balance and mark it fetched; `MustFromBig` may panic. -/
def fundOrigin (origin : Address) (originBalance : Int) (e : Evm) : Except Abort Evm :=
  if 0 < originBalance then
    (mustFromBig originBalance).map fun balance => { e with
      stateDB := e.stateDB.setBalance origin balance
      interpreter := e.interpreter.markAddressBalance origin }
  else pure e

/-- Install the target's code and mark it, when the target does not exist. -/
def installTarget (address : Address) (code : Bytes) (e : Evm) : Evm :=
  if e.stateDB.exist address then e
  else { e with
    stateDB := (e.stateDB.createAccount address).setCode address code
    interpreter := e.interpreter.markAddressCode address }

@[simp] theorem requests_ensureOrigin (origin : Address) (e : Evm) :
    (ensureOrigin origin e).requests = e.requests := by
  unfold ensureOrigin; split_ifs <;> rfl

@[simp] theorem interpreter_ensureOrigin (origin : Address) (e : Evm) :
    (ensureOrigin origin e).interpreter = e.interpreter := by
  unfold ensureOrigin; split_ifs <;> rfl

@[simp] theorem requests_installTarget (address : Address) (code : Bytes) (e : Evm) :
    (installTarget address code e).requests = e.requests := by
  unfold installTarget; split_ifs <;> rfl

/-- The set-up `Execute` does before the call: the origin's account and balance, the warm
sets, the target's account and code. -/
def prepareExecution (address : Address) (originBalance : Int) (code : Bytes) (cfg : Config)
    (record : Option RecordToInitiateState) : ForkM Unit := fun e =>
  let e := ensureOrigin cfg.origin e
  match fundOrigin cfg.origin originBalance e with
  | .error err => .error err e
  | .ok e =>
    let accessList := (record.map RecordToInitiateState.accessList).getD []
    .ok () (installTarget address code
      (e.withStateDB (e.stateDB.prepare cfg.origin cfg.coinbase address accessList)))

/-- The result of a finished call: an error, or the return data with the gas used. -/
def finishExecution (input : Bytes) (cfg : Config) (r : RunResult) (e : Evm) :
    Except SimError ExecutionResult :=
  match r.err with
  | some err => .error (.vm err)
  | none =>
    match intrinsicGas input e.interpreter.accessList with
    | none => .error (.vm .gasUintOverflow)
    | some ig =>
      let refund := e.stateDB.refund
      let gasUsed := (((cfg.gasLimit : Int) - r.gas + ig - refund) % (uint64Size : Int)).toNat
      .ok ⟨r.ret, gasUsed, refund, ig, e.interpreter.getRecordToInitState⟩

/-- `MustFromBig` inside a computation: its panic aborts it. -/
def mustFromBigM (x : Int) : ForkM Word := fun e =>
  match mustFromBig x with
  | .ok w => .ok w e
  | .error err => .error err e

@[simp] theorem stateAfter_mustFromBigM (x : Int) (e : Evm) :
    stateAfter (mustFromBigM x e) = e := by
  unfold mustFromBigM; split <;> rfl

/-- A successful run's record is the interpreter's, as `GetRecordToInitState` reads it. -/
theorem finishExecution_record {input : Bytes} {cfg : Config} {r : RunResult} {e : Evm}
    {res : ExecutionResult} (h : finishExecution input cfg r e = .ok res) :
    res.record = e.interpreter.getRecordToInitState := by
  unfold finishExecution at h
  split at h
  · cases h
  · split at h <;> cases h; rfl

/-- `runtime.Execute` on the lazy fork of `remote`, with `fuel` loop iterations: the
result and the caller's state store as the run leaves it. -/
def execute (remote : Remote) (fuel : Nat) (address : Address) (originBalance : Int)
    (code input : Bytes) (cfg : Config) (db : StateDB) (record : Option RecordToInitiateState) :
    SimM (Except SimError ExecutionResult × StateDB) :=
  onFork db record do
    let cfg := cfg.setDefaults
    prepareExecution address originBalance code cfg record
    let value ← mustFromBigM cfg.value
    let r ← callFromOrigin (preDispatch remote) fuel cfg.env address input cfg.gasLimit value
    let e ← get
    pure (finishExecution input cfg r e, e.stateDB)

end EvmSimulator
