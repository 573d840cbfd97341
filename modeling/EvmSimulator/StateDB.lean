import EvmSimulator.Basic

/-!
# The state store and the remote state source

The two external collaborators of the simulator, at their boundary.

`StateDB` is the state store: live accounts over the committed world it was opened on
(`StateDB.open`, `state.New`), the EIP-2929 warm sets and the EIP-1153 transient storage
that `Prepare` resets, the gas refund counter, and the contracts created and
self-destructed since the store was opened. Every write goes through `StateDB.update`,
which creates a missing account the way `getOrNewStateObject` does; `StateDB.commit`
hands back the live world without the self-destructed accounts. A revert restores a whole
earlier `StateDB` value: the journal undoes every change alike.

`Remote` is the remote state source at the simulation's block: the answers of
`GetCode`, `GetStorageAt` and `GetBalance`, each of which may be an error, and the panic
the client raises instead of answering, where it does (`Remote.ofClient` builds it from
the client's replies). `Remote.ofWorld R` is the source that answers every query from a
chain state `R`. A `Request` names the fact a request asks for; the simulator logs every
request it makes.
-/

namespace EvmSimulator

/-- An account: balance, nonce, code and storage. -/
structure Account where
  balance : Word := 0
  /-- `uint64`. -/
  nonce : Nat := 0
  code : Bytes := []
  storage : Word → Word := fun _ => 0

/-- A world state: the account at each address, if any. -/
abbrev World := Address → Option Account

/-- One entry of an EIP-2930 access list (`types.AccessTuple`). -/
structure AccessTuple where
  address : Address
  storageKeys : List Word
  deriving DecidableEq

/-- An EIP-2930 access list (`types.AccessList`). -/
abbrev AccessList := List AccessTuple

/-- The state store: live accounts over a committed world, warm sets, refund and
transient storage. -/
structure StateDB where
  /-- The committed world the store was opened on. -/
  base : World
  accounts : World
  warmAddrs : List Address := []
  warmSlots : List (Address × Word) := []
  refund : Nat := 0
  transient : Address → Word → Word := fun _ _ => 0
  /-- The accounts `CreateContract` marked as new contracts (`newContract`). -/
  newContracts : List Address := []
  /-- The accounts `SelfDestruct` marked; `Finalise` deletes them. -/
  selfDestructed : List Address := []

attribute [ext] StateDB

namespace StateDB

variable (db : StateDB)

/-- `state.New(root, db)`: a fresh store over a committed world. -/
def «open» (w : World) : StateDB := { base := w, accounts := w }

/-- `Commit`: the live world, its `Finalise` deleting the self-destructed accounts and
keeping the empty ones. -/
def commit : World := fun a => if db.selfDestructed.contains a then none else db.accounts a

/-- The account at `a`, or the empty account. -/
def account (a : Address) : Account := (db.accounts a).getD {}

def exist (a : Address) : Bool := (db.accounts a).isSome

/-- `Empty`: no account, or zero balance and no code. -/
def empty (a : Address) : Bool :=
  match db.accounts a with
  | none => true
  | some acc => acc.balance == 0 && acc.code.isEmpty

def getBalance (a : Address) : Word := (db.account a).balance

def getNonce (a : Address) : Nat := (db.account a).nonce

def getCode (a : Address) : Bytes := (db.account a).code

def getCodeSize (a : Address) : Nat := (db.getCode a).length

def getState (a : Address) (slot : Word) : Word := (db.account a).storage slot

/-- `GetCommittedState`: the slot's value in the committed world. -/
def getCommittedState (a : Address) (slot : Word) : Word :=
  ((db.base a).map fun acc => acc.storage slot).getD 0

/-- Write the account at `a`, creating it when missing. -/
def update (a : Address) (f : Account → Account) : StateDB :=
  { db with accounts := Function.update db.accounts a (some (f (db.account a))) }

/-- `CreateAccount`: a fresh empty account at `a`. -/
def createAccount (a : Address) : StateDB :=
  { db with accounts := Function.update db.accounts a (some {}) }

def setCode (a : Address) (code : Bytes) : StateDB := db.update a fun acc => { acc with code }

def setNonce (a : Address) (n : Nat) : StateDB := db.update a fun acc => { acc with nonce := n }

/-- `CreateContract`: mark the account as a contract created in this transaction. -/
def createContract (a : Address) : StateDB := { db with newContracts := a :: db.newContracts }

def setBalance (a : Address) (v : Word) : StateDB :=
  db.update a fun acc => { acc with balance := v }

def addBalance (a : Address) (v : Word) : StateDB := db.setBalance a (db.getBalance a + v)

def subBalance (a : Address) (v : Word) : StateDB := db.setBalance a (db.getBalance a - v)

def setState (a : Address) (slot v : Word) : StateDB :=
  db.update a fun acc => { acc with storage := Function.update acc.storage slot v }

/-- `SelfDestruct6780`: a contract created in this transaction loses its balance and is
marked for deletion; any other account is left alone. -/
def selfDestruct6780 (a : Address) : StateDB :=
  if db.newContracts.contains a then
    { db.setBalance a 0 with selfDestructed := a :: db.selfDestructed }
  else db

def addRefund (g : Nat) : StateDB := { db with refund := db.refund + g }

/-- `SubRefund`; `none` where geth panics with a refund counter below zero. -/
def subRefund (g : Nat) : Option StateDB :=
  if g ≤ db.refund then some { db with refund := db.refund - g } else none

def getTransientState (a : Address) (key : Word) : Word := db.transient a key

def setTransientState (a : Address) (key v : Word) : StateDB :=
  { db with transient := Function.update db.transient a (Function.update (db.transient a) key v) }

def addressInAccessList (a : Address) : Bool := db.warmAddrs.contains a

def slotInAccessList (a : Address) (slot : Word) : Bool := db.warmSlots.contains (a, slot)

def addAddressToAccessList (a : Address) : StateDB := { db with warmAddrs := a :: db.warmAddrs }

def addSlotToAccessList (a : Address) (slot : Word) : StateDB :=
  { db with warmAddrs := a :: db.warmAddrs, warmSlots := (a, slot) :: db.warmSlots }

/-- The Cancun precompiles, warm from the start of a transaction. -/
def precompiles : List Address := (List.range 10).map fun i => BitVec.ofNat 160 (i + 1)

/-- `Prepare`: reset the warm sets to the sender, destination, precompiles, the access
list's entries and the coinbase, and clear the transient storage. -/
def prepare (sender coinbase dst : Address) (list : AccessList) : StateDB :=
  { db with
    warmAddrs := sender :: dst :: precompiles ++ list.map AccessTuple.address ++ [coinbase]
    warmSlots := list.flatMap fun t => t.storageKeys.map fun k => (t.address, k)
    transient := fun _ _ => 0 }

@[simp] theorem accounts_update (a b : Address) (f : Account → Account) :
    (db.update a f).accounts b = if b = a then some (f (db.account a)) else db.accounts b := by
  simp [update, Function.update_apply]

@[simp] theorem accounts_createAccount (a b : Address) :
    (db.createAccount a).accounts b = if b = a then some {} else db.accounts b := by
  simp [createAccount, Function.update_apply]

@[simp] theorem account_update (a b : Address) (f : Account → Account) :
    (db.update a f).account b = if b = a then f (db.account a) else db.account b := by
  by_cases h : b = a <;> simp [update, account, Function.update_apply, h]

@[simp] theorem account_createAccount (a b : Address) :
    (db.createAccount a).account b = if b = a then {} else db.account b := by
  by_cases h : b = a <;> simp [createAccount, account, Function.update_apply, h]

@[simp] theorem exist_update (a b : Address) (f : Account → Account) :
    (db.update a f).exist b = (b = a ∨ db.exist b) := by
  by_cases h : b = a <;> simp [update, exist, Function.update_apply, h]

@[simp] theorem exist_createAccount (a b : Address) :
    (db.createAccount a).exist b = (b = a ∨ db.exist b) := by
  by_cases h : b = a <;> simp [createAccount, exist, Function.update_apply, h]

@[simp] theorem getState_setState (a b : Address) (slot slot' v : Word) :
    (db.setState a slot v).getState b slot'
      = if b = a ∧ slot' = slot then v else db.getState b slot' := by
  by_cases h : b = a <;> by_cases h' : slot' = slot <;>
    simp [setState, getState, Function.update_apply, h, h']

@[simp] theorem getCode_setBalance (a b : Address) (v : Word) :
    (db.setBalance a v).getCode b = db.getCode b := by
  by_cases h : b = a <;> simp [setBalance, getCode, h]

@[simp] theorem getCode_createAccount (a b : Address) :
    (db.createAccount a).getCode b = if b = a then [] else db.getCode b := by
  by_cases h : b = a <;> simp [getCode, h]

@[simp] theorem getCode_addBalance (a b : Address) (v : Word) :
    (db.addBalance a v).getCode b = db.getCode b := getCode_setBalance _ _ _ _

@[simp] theorem getCode_subBalance (a b : Address) (v : Word) :
    (db.subBalance a v).getCode b = db.getCode b := getCode_setBalance _ _ _ _

@[simp] theorem accounts_prepare (sender coinbase dst : Address) (list : AccessList) :
    (db.prepare sender coinbase dst list).accounts = db.accounts := rfl

@[simp] theorem getCode_prepare (sender coinbase dst : Address) (list : AccessList) (a : Address) :
    (db.prepare sender coinbase dst list).getCode a = db.getCode a := rfl

@[simp] theorem base_update (a : Address) (f : Account → Account) :
    (db.update a f).base = db.base := rfl

@[simp] theorem base_createAccount (a : Address) : (db.createAccount a).base = db.base := rfl

@[simp] theorem accounts_open (w : World) : (StateDB.open w).accounts = w := rfl

@[simp] theorem account_open (w : World) (a : Address) :
    (StateDB.open w).account a = (w a).getD {} := rfl

@[simp] theorem commit_open (w : World) : (StateDB.open w).commit = w := rfl

/-- A store where nothing self-destructed commits its live world. -/
theorem commit_of_selfDestructed_nil (h : db.selfDestructed = []) : db.commit = db.accounts := by
  funext a
  simp [commit, h]

theorem createAccount_eq_update (a : Address) : db.createAccount a = db.update a fun _ => {} :=
  rfl

/-- Two writes at one address are one write. -/
theorem update_update (a : Address) (f g : Account → Account) :
    (db.update a f).update a g = db.update a (g ∘ f) := by
  ext1 <;> try rfl
  funext b
  by_cases h : b = a <;> simp [h]

/-- Writes at two addresses commute. -/
theorem update_comm {a b : Address} (h : a ≠ b) (f g : Account → Account) :
    (db.update a f).update b g = (db.update b g).update a f := by
  ext1 <;> try rfl
  funext c
  by_cases ha : c = a <;> by_cases hb : c = b <;> simp_all [Ne.symm h]

/-- Stores to two storage keys commute. -/
theorem setState_comm {a b : Address} {slot slot' : Word} (h : (a, slot) ≠ (b, slot'))
    (v v' : Word) :
    (db.setState a slot v).setState b slot' v' = (db.setState b slot' v').setState a slot v := by
  by_cases hab : a = b
  · subst hab
    have hs : slot ≠ slot' := fun hs => h (by rw [hs])
    simp only [setState, update_update]
    congr 2
    funext acc
    simp [Function.update_comm hs]
  · exact update_comm _ hab _ _

end StateDB

/-! ## The remote state source -/

/-- The fact a remote request asks for. -/
inductive Request where
  | code (a : Address)
  | balance (a : Address)
  | storage (a : Address) (slot : Word)
  deriving DecidableEq

/-- The remote state source at the simulation's block, as the RPC client meets it: the
answers of `GetCode`, `GetStorageAt` and `GetBalance`, each of which may be an error, and
the Go panic the client raises on a request instead of answering it, if any. -/
structure Remote where
  getCode : Address → Except String Bytes
  getStorageAt : Address → Word → Except String Word
  getBalance : Address → Except String Int
  panics : Request → Option String := fun _ => none

/-- The source that answers every query from the chain state `R`. -/
def Remote.ofWorld (R : World) : Remote where
  getCode a := .ok ((R a).map Account.code |>.getD [])
  getStorageAt a slot := .ok ((R a).map (fun acc => acc.storage slot) |>.getD 0)
  getBalance a := .ok ((R a).map (fun acc => (acc.balance.toNat : Int)) |>.getD 0)

end EvmSimulator
