import EvmSimulator.StateDB

/-!
# The fork record and the pre-dispatch hooks

The lazy-fork interpreter keeps three dedup sets (addresses whose code was fetched,
addresses whose balance was fetched, `(address, slot)` pairs with their fetched values)
and an access list with its own membership set. `RecordToInitiateState` is the part
handed between passes; `Interpreter` is what `NewEVMInterpreter` builds from it.

Before each opcode, `Run` dispatches on the opcode (`preDispatch`):

* `SLOAD` runs `registerAddressStorage`: fetch the slot unless its key is recorded;
* `CALL`, `CALLCODE`, `DELEGATECALL`, `STATICCALL` run `registerAddressCodeForCalls`:
  fetch the callee's code unless recorded and, for `CALL` and `CALLCODE`, top up the
  callee's balance from the remote one when the value exceeds it;
* `EXTCODESIZE`, `EXTCODEHASH`, `EXTCODECOPY` run `registerAddressCodeForExt`;
* `SLOAD` and `SSTORE` then run `appendToAccessList`.

A hook's error ends the frame (`Run` returns it); a Go runtime panic (`peek` on an
empty stack, `MustFromBig` past 256 bits, or one the client raises on a bad reply,
`Remote.call`) ends the whole program, as `Abort.panic`. Every remote request is logged
in `Evm.requests`, whether it is answered or not.

The source keys the storage sets by the string `a.Hex() + ":" + slot.Hex()`; here the
key is the pair `(a, slot)` itself.
-/

namespace EvmSimulator

/-- A fetched-storage set: the value fetched for each `(address, slot)` key. -/
abbrev StorageSet := List ((Address × Word) × Word)

/-- Whether a storage key is recorded (`_, ok := in.addressStorageSet[key]`). -/
def StorageSet.recorded (set : StorageSet) (key : Address × Word) : Prop :=
  key ∈ set.map Prod.fst

instance (set : StorageSet) (key : Address × Word) : Decidable (set.recorded key) :=
  inferInstanceAs (Decidable (key ∈ _))

/-- A Go map holds one value per key. -/
def StorageSet.KeysUnique (set : StorageSet) : Prop := (set.map Prod.fst).Nodup

theorem StorageSet.keysUnique_append {set : StorageSet} (h : set.KeysUnique)
    {key : Address × Word} (hk : ¬set.recorded key) (v : Word) :
    StorageSet.KeysUnique (set ++ [(key, v)]) := by
  simp only [StorageSet.KeysUnique, List.map_append, List.map_cons, List.map_nil,
    List.nodup_append, List.nodup_cons, List.not_mem_nil, not_false_eq_true,
    List.nodup_nil, and_self, true_and, List.disjoint_singleton]
  exact ⟨h, hk⟩

/-- `map[key] = struct{}{}` on an address set. -/
def insertAddr (set : List Address) (a : Address) : List Address :=
  if a ∈ set then set else set ++ [a]

theorem mem_insertAddr {set : List Address} {a b : Address} :
    b ∈ insertAddr set a ↔ b ∈ set ∨ b = a := by
  unfold insertAddr
  split_ifs with ha
  · exact ⟨.inl, fun h => h.elim id (· ▸ ha)⟩
  · simp

theorem nodup_append_singleton {α : Type} {l : List α} {a : α} (h : l.Nodup) (ha : a ∉ l) :
    (l ++ [a]).Nodup := by
  simpa using h.concat ha

theorem nodup_insertAddr {set : List Address} (h : set.Nodup) (a : Address) :
    (insertAddr set a).Nodup := by
  unfold insertAddr
  split_ifs with ha
  · exact h
  · exact nodup_append_singleton h ha

/-- The fork record: `RecordToInitiateState`. -/
structure RecordToInitiateState where
  addressCodeSet : List Address := []
  addressBalanceSet : List Address := []
  addressStorageSet : StorageSet := []
  accessList : AccessList := []
  storage_keysUnique : addressStorageSet.KeysUnique := by exact List.nodup_nil

/-- The fork bookkeeping fields of `EVMInterpreter`. -/
structure Interpreter where
  addressCodeSet : List Address
  addressBalanceSet : List Address
  addressStorageSet : StorageSet
  addressSlotAccessListSet : List (Address × Word)
  accessList : AccessList
  storage_keysUnique : addressStorageSet.KeysUnique

/-- `NewEVMInterpreter`: the record's sets, or empty ones; a fresh access list and
membership set either way. -/
def Interpreter.new (record : Option RecordToInitiateState) : Interpreter :=
  match record with
  | some r => ⟨r.addressCodeSet, r.addressBalanceSet, r.addressStorageSet, [], [],
      r.storage_keysUnique⟩
  | none => ⟨[], [], [], [], [], List.nodup_nil⟩

/-- `GetRecordToInitState`. -/
def Interpreter.getRecordToInitState (i : Interpreter) : RecordToInitiateState :=
  ⟨i.addressCodeSet, i.addressBalanceSet, i.addressStorageSet, i.accessList,
    i.storage_keysUnique⟩

/-- `MarkAddressCode`. -/
def Interpreter.markAddressCode (i : Interpreter) (a : Address) : Interpreter :=
  { i with addressCodeSet := insertAddr i.addressCodeSet a }

/-- `MarkAddressBalance`. -/
def Interpreter.markAddressBalance (i : Interpreter) (a : Address) : Interpreter :=
  { i with addressBalanceSet := insertAddr i.addressBalanceSet a }

/-- A hook's `addressCodeSet[addr] = struct{}{}` after a fetch. -/
def Interpreter.recordCode (i : Interpreter) (a : Address) : Interpreter :=
  { i with addressCodeSet := i.addressCodeSet ++ [a] }

/-- A hook's `addressBalanceSet[addr] = struct{}{}` after a fetch. -/
def Interpreter.recordBalance (i : Interpreter) (a : Address) : Interpreter :=
  { i with addressBalanceSet := i.addressBalanceSet ++ [a] }

/-- `addressStorageSet[key] = storage`, for a key not yet in the map. -/
def Interpreter.recordStorage (i : Interpreter) (key : Address × Word) (v : Word)
    (h : ¬i.addressStorageSet.recorded key) : Interpreter :=
  { i with
    addressStorageSet := i.addressStorageSet ++ [(key, v)]
    storage_keysUnique := StorageSet.keysUnique_append i.storage_keysUnique h v }

/-- What ends a whole program rather than a frame. -/
inductive Abort where
  | panic (msg : String)
  | outOfFuel
  deriving DecidableEq

theorem panic_ne_outOfFuel (msg : String) : Abort.panic msg ≠ .outOfFuel := fun h => nomatch h

/-- `uint256.MustFromBig`: two's complement of a negative value, a panic past 256 bits. -/
def mustFromBig (x : Int) : Except Abort Word :=
  if x.natAbs < 2 ^ 256 then pure (BitVec.ofInt 256 x) else .error (.panic "overflow")

theorem mustFromBig_overflow {x : Int} {err : Abort} (h : mustFromBig x = .error err) :
    err = .panic "overflow" := by
  unfold mustFromBig at h
  split_ifs at h <;> cases h
  rfl

namespace Remote

variable (remote : Remote)

/-- The outcome of the client call behind request `q`: the panic it raises, if any, else
its answer. -/
def call {α : Type} (q : Request) (answer : Except String α) : Except Abort (Except String α) :=
  match remote.panics q with
  | some msg => .error (.panic msg)
  | none => .ok answer

/-- `Client.GetCode`. -/
def code (a : Address) : Except Abort (Except String Bytes) :=
  remote.call (.code a) (remote.getCode a)

/-- `Client.GetStorageAt`. -/
def storageAt (a : Address) (slot : Word) : Except Abort (Except String Word) :=
  remote.call (.storage a slot) (remote.getStorageAt a slot)

/-- `Client.GetBalance`. -/
def balance (a : Address) : Except Abort (Except String Int) :=
  remote.call (.balance a) (remote.getBalance a)

/-- A panic the client raises on one of its requests. -/
def ClientPanic (err : Abort) : Prop := ∃ q msg, remote.panics q = some msg ∧ err = .panic msg

/-- A client call aborts only with the panic its request raises. -/
theorem call_eq_error {α : Type} {q : Request} {answer : Except String α} {err : Abort}
    (h : remote.call q answer = .error err) :
    remote.panics q ≠ none ∧ remote.ClientPanic err := by
  unfold call at h
  split at h <;> cases h
  next msg hq => exact ⟨by simp [hq], q, msg, hq, rfl⟩

theorem call_ne_outOfFuel {α : Type} (q : Request) (answer : Except String α) :
    remote.call q answer ≠ .error .outOfFuel := fun h => by
  obtain ⟨_, _, _, _, ⟨⟩⟩ := (call_eq_error remote h).2

@[simp] theorem call_ofWorld {α : Type} (R : World) (q : Request) (answer : Except String α) :
    (Remote.ofWorld R).call q answer = .ok answer := rfl

end Remote

/-- The mutable system: the state store, the interpreter's fork bookkeeping and the log
of remote requests. -/
structure Evm where
  stateDB : StateDB
  interpreter : Interpreter
  requests : List Request := []

namespace Evm

/-- Log a remote request. -/
def log (e : Evm) (r : Request) : Evm := { e with requests := e.requests ++ [r] }

def withStateDB (e : Evm) (db : StateDB) : Evm := { e with stateDB := db }

def withInterpreter (e : Evm) (i : Interpreter) : Evm := { e with interpreter := i }

@[simp] theorem interpreter_log (e : Evm) (r : Request) : (e.log r).interpreter = e.interpreter :=
  rfl

@[simp] theorem requests_log (e : Evm) (r : Request) : (e.log r).requests = e.requests ++ [r] :=
  rfl

@[simp] theorem interpreter_withStateDB (e : Evm) (db : StateDB) :
    (e.withStateDB db).interpreter = e.interpreter := rfl

@[simp] theorem requests_withStateDB (e : Evm) (db : StateDB) :
    (e.withStateDB db).requests = e.requests := rfl

@[simp] theorem requests_withInterpreter (e : Evm) (i : Interpreter) :
    (e.withInterpreter i).requests = e.requests := rfl

end Evm

/-- A lazy-fork computation on the system. A panic ends it with the system as it stands,
the requests already sent included. -/
abbrev ForkM := EStateM Abort Evm

/-- The system a computation leaves, whether it returns or aborts. -/
def stateAfter {ε σ α : Type} : EStateM.Result ε σ α → σ
  | .ok _ s => s
  | .error _ s => s

@[simp] theorem stateAfter_ok {ε σ α : Type} (a : α) (s : σ) :
    stateAfter (EStateM.Result.ok a s : EStateM.Result ε σ α) = s := rfl

@[simp] theorem stateAfter_error {ε σ α : Type} (err : ε) (s : σ) :
    stateAfter (EStateM.Result.error err s : EStateM.Result ε σ α) = s := rfl

/-! ## The hooks -/

section Hooks

variable (remote : Remote)

def readStorage (op : OpCode) : Bool := op == SLOAD

def interactWithStorage (op : OpCode) : Bool := op == SLOAD || op == SSTORE

def isCall (op : OpCode) : Bool :=
  op == CALL || op == CALLCODE || op == DELEGATECALL || op == STATICCALL

def isExtCode (op : OpCode) : Bool := op == EXTCODECOPY || op == EXTCODEHASH || op == EXTCODESIZE

/-- The error text of a hook that finds too few stack items. -/
def insufficientElements : String := "insufficient elements in stack"

/-- `registerAddressStorage`: fetch and install the slot on top of the stack of the
executing address, unless its key is recorded. -/
def registerAddressStorage (self : Address) (stack : List Word) : ForkM (Option String) :=
  fun e => match stack with
  | [] => .ok (some insufficientElements) e
  | loc :: _ =>
    if h : e.interpreter.addressStorageSet.recorded (self, loc) then .ok none e
    else
      match remote.storageAt self loc with
      | .error err => .error err (e.log (.storage self loc))
      | .ok (.error msg) => .ok (some msg) (e.log (.storage self loc))
      | .ok (.ok v) => .ok none { e.log (.storage self loc) with
          stateDB := e.stateDB.setState self loc v
          interpreter := e.interpreter.recordStorage (self, loc) v h }

/-- Fetch `addr`'s code, create the account if missing, install the code and record
the address: the part the call and external-code hooks share. -/
def fetchCode (addr : Address) : ForkM (Option String) := fun e =>
  match remote.code addr with
  | .error err => .error err (e.log (.code addr))
  | .ok (.error msg) => .ok (some msg) (e.log (.code addr))
  | .ok (.ok code) =>
    let db := if e.stateDB.exist addr then e.stateDB else e.stateDB.createAccount addr
    .ok none { e.log (.code addr) with
      stateDB := db.setCode addr code
      interpreter := e.interpreter.recordCode addr }

/-- The balance top-up of `registerAddressCodeForCalls`: when the call's value exceeds
the callee's local balance and its balance was never fetched, fetch it; if it covers
the value, add the difference and record the address. -/
def registerBalance (addr : Address) (value : Word) : ForkM (Option String) := fun e =>
  let current := e.stateDB.getBalance addr
  if current < value ∧ addr ∉ e.interpreter.addressBalanceSet then
    match remote.balance addr with
    | .error err => .error err (e.log (.balance addr))
    | .ok (.error msg) => .ok (some msg) (e.log (.balance addr))
    | .ok (.ok balanceBig) =>
      match mustFromBig balanceBig with
      | .error err => .error err (e.log (.balance addr))
      | .ok balance =>
        if value ≤ balance then
          .ok none { e.log (.balance addr) with
            stateDB := e.stateDB.addBalance addr (balance - current)
            interpreter := e.interpreter.recordBalance addr }
        else .ok none (e.log (.balance addr))
  else .ok none e

/-- `registerAddressCodeForCalls`: the callee is the second stack item, the value of a
`CALL` or `CALLCODE` the third. A recorded callee returns at once, balance included. -/
def registerAddressCodeForCalls (op : OpCode) (stack : List Word) : ForkM (Option String) :=
  fun e => match stack with
  | _ :: addrWord :: valueWord :: _ =>
    if addrWord.toAddress ∈ e.interpreter.addressCodeSet then .ok none e
    else
      match fetchCode remote addrWord.toAddress e with
      | .ok none e =>
        if op == CALL || op == CALLCODE then registerBalance remote addrWord.toAddress valueWord e
        else .ok none e
      | r => r
  | _ => .ok (some insufficientElements) e

/-- `registerAddressCodeForExt`: the address is the top stack item. -/
def registerAddressCodeForExt (stack : List Word) : ForkM (Option String) := fun e =>
  match stack with
  | addrWord :: _ =>
    if addrWord.toAddress ∈ e.interpreter.addressCodeSet then .ok none e
    else fetchCode remote addrWord.toAddress e
  | [] => .ok (some insufficientElements) e

/-- Append `slot` to `a`'s entry of the access list, or a new entry for `a` at its end. -/
def appendSlot (a : Address) (slot : Word) : AccessList → AccessList
  | [] => [⟨a, [slot]⟩]
  | t :: rest =>
    if t.address = a then { t with storageKeys := t.storageKeys ++ [slot] } :: rest
    else t :: appendSlot a slot rest

/-- `appendToAccessList`: add the slot on top of the stack to the access list unless
the pair is already in it; `peek` on an empty stack panics. -/
def appendToAccessList (self : Address) (stack : List Word) (i : Interpreter) :
    Except Abort Interpreter :=
  match stack with
  | [] => .error (.panic "runtime error: index out of range [-1]")
  | slot :: _ =>
    if (self, slot) ∈ i.addressSlotAccessListSet then .ok i
    else .ok { i with
      accessList := appendSlot self slot i.accessList
      addressSlotAccessListSet := i.addressSlotAccessListSet ++ [(self, slot)] }

/-- The switch of `Run` before stack validation: the storage, call or external-code hook. -/
def registerHooks (op : OpCode) (self : Address) (stack : List Word) : ForkM (Option String) :=
  if readStorage op then registerAddressStorage remote self stack
  else if isCall op then registerAddressCodeForCalls remote op stack
  else if isExtCode op then registerAddressCodeForExt remote stack
  else pure none

/-- The pre-dispatch hooks of `Run`, for the opcode `op` executed at `self`: the switch,
then, unless it failed, the access list for `SLOAD` and `SSTORE`. -/
def preDispatch (op : OpCode) (self : Address) (stack : List Word) : ForkM (Option String) :=
  fun e => match registerHooks remote op self stack e with
  | .ok none e =>
    if interactWithStorage op then
      match appendToAccessList self stack e.interpreter with
      | .ok i => .ok none (e.withInterpreter i)
      | .error err => .error err e
    else .ok none e
  | r => r

end Hooks

end EvmSimulator
