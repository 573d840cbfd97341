import EvmSimulator.Runtime

/-!
# The ideal-state reconstructor

`initIdealState` is `InitIdealState`: a fresh state holding, for each address of the
record's code set, an account with the code the reference state has; for each address
of the balance set, the balance the reference state has; for each recorded storage key,
the value recorded with it. The state is committed and reopened.

`initIdealState_spec` says what every address, balance, code and slot of the result
reads, for every reference state and every record. Balances and code are read from the
reference state as it is when the reconstruction runs, that is after the discovery
pass; only storage values come from the record itself.

The loops range over Go maps, in an order the runtime picks. Writes at distinct places
commute, so the order does not matter: records whose sets are permutations of each other
give the same state (`initIdealState_perm`).
-/

namespace EvmSimulator

/-- `InitIdealState`. -/
def initIdealState (originState : StateDB) (record : RecordToInitiateState) : StateDB :=
  let tmp := StateDB.open fun _ => none
  let tmp := record.addressCodeSet.foldl
    (fun tmp acc => (tmp.createAccount acc).setCode acc (originState.getCode acc)) tmp
  let tmp := record.addressBalanceSet.foldl
    (fun tmp acc => tmp.setBalance acc (originState.getBalance acc)) tmp
  let tmp := record.addressStorageSet.foldl (fun tmp kv => tmp.setState kv.1.1 kv.1.2 kv.2) tmp
  StateDB.open tmp.commit

/-! ## The three loops -/

section Loops

variable (origin : StateDB)

theorem accounts_foldl_installCode (l : List Address) (db : StateDB) (a : Address) :
    (l.foldl (fun tmp acc => (tmp.createAccount acc).setCode acc (origin.getCode acc))
        db).accounts a
      = if a ∈ l then some { code := origin.getCode a } else db.accounts a := by
  induction l generalizing db with
  | nil => simp
  | cons x rest ih =>
    rw [List.foldl_cons, ih]
    by_cases hr : a ∈ rest <;> by_cases hx : a = x <;>
      simp [hr, hx, StateDB.setCode, StateDB.account]

theorem accounts_foldl_setBalance (l : List Address) (db : StateDB) (a : Address) :
    (l.foldl (fun tmp acc => tmp.setBalance acc (origin.getBalance acc)) db).accounts a
      = if a ∈ l then some { db.account a with balance := origin.getBalance a }
        else db.accounts a := by
  induction l generalizing db with
  | nil => simp
  | cons x rest ih =>
    rw [List.foldl_cons, ih]
    by_cases hr : a ∈ rest <;> by_cases hx : a = x <;>
      simp [hr, hx, StateDB.setBalance, StateDB.account]

end Loops

section StorageLoop

variable (l : StorageSet) (db : StateDB) (a : Address)

theorem exist_foldl_setState :
    (l.foldl (fun tmp kv => tmp.setState kv.1.1 kv.1.2 kv.2) db).exist a
      = (decide (a ∈ l.map (·.1.1)) || db.exist a) := by
  induction l generalizing db with
  | nil => simp
  | cons x rest ih =>
    rw [List.foldl_cons, ih]
    by_cases hx : a = x.1.1 <;> simp [hx, StateDB.setState, StateDB.exist]

theorem account_foldl_setState :
    let tmp := l.foldl (fun tmp kv => tmp.setState kv.1.1 kv.1.2 kv.2) db
    (tmp.account a).balance = (db.account a).balance ∧
      (tmp.account a).code = (db.account a).code := by
  induction l generalizing db with
  | nil => simp
  | cons x rest ih =>
    simp only [List.foldl_cons, (ih _).1, (ih _).2]
    by_cases hx : a = x.1.1 <;> simp [hx, StateDB.setState]

theorem getState_foldl_setState_of_not_recorded (slot : Word) (h : ¬l.recorded (a, slot)) :
    (l.foldl (fun tmp kv => tmp.setState kv.1.1 kv.1.2 kv.2) db).getState a slot
      = db.getState a slot := by
  induction l generalizing db with
  | nil => rfl
  | cons x rest ih =>
    simp only [StorageSet.recorded, List.map_cons, List.mem_cons, not_or] at h
    rw [List.foldl_cons, ih _ h.2]
    by_cases hx : a = x.1.1 <;> by_cases hs : slot = x.1.2 <;>
      simp_all [StateDB.setState, StateDB.getState, Prod.ext_iff]

/-- A recorded key reads its value: the map holds one value per key. -/
theorem getState_foldl_setState_of_mem (hl : l.KeysUnique) (slot v : Word)
    (h : ((a, slot), v) ∈ l) :
    (l.foldl (fun tmp kv => tmp.setState kv.1.1 kv.1.2 kv.2) db).getState a slot = v := by
  induction l generalizing db with
  | nil => simp at h
  | cons x rest ih =>
    simp only [StorageSet.KeysUnique, List.map_cons, List.nodup_cons] at hl
    rw [List.foldl_cons]
    rcases List.mem_cons.1 h with rfl | h
    · rw [getState_foldl_setState_of_not_recorded _ _ _ _ hl.1]
      simp [StateDB.setState, StateDB.getState]
    · exact ih _ hl.2 h

end StorageLoop

/-! ## What the ideal state holds -/

section Ideal

variable (origin : StateDB) (record : RecordToInitiateState) (a : Address)

theorem selfDestructed_foldl {α : Type} {g : StateDB → α → StateDB}
    (hg : ∀ db x, (g db x).selfDestructed = db.selfDestructed) (l : List α) (db : StateDB) :
    (l.foldl g db).selfDestructed = db.selfDestructed := by
  induction l generalizing db with
  | nil => rfl
  | cons x rest ih => rw [List.foldl_cons, ih, hg]

/-- Nothing self-destructs while the state is rebuilt, so the reopened state is the live
world the three loops leave. -/
theorem initIdealState_eq : initIdealState origin record = StateDB.open
    (record.addressStorageSet.foldl (fun tmp kv => tmp.setState kv.1.1 kv.1.2 kv.2)
      (record.addressBalanceSet.foldl (fun tmp acc => tmp.setBalance acc (origin.getBalance acc))
        (record.addressCodeSet.foldl
          (fun tmp acc => (tmp.createAccount acc).setCode acc (origin.getCode acc))
          (StateDB.open fun _ => none)))).accounts :=
  congrArg StateDB.open (StateDB.commit_of_selfDestructed_nil _ (by
    refine (selfDestructed_foldl (fun _ _ => ?_) _ _).trans ((selfDestructed_foldl
      (fun _ _ => ?_) _ _).trans (selfDestructed_foldl (fun _ _ => ?_) _ _)) <;> rfl))

/-- After the code and balance loops, a recorded address holds the reference state's
code and balance, and every other address is absent. -/
theorem accounts_codeBalanceLoops :
    (record.addressBalanceSet.foldl (fun tmp acc => tmp.setBalance acc (origin.getBalance acc))
      (record.addressCodeSet.foldl
        (fun tmp acc => (tmp.createAccount acc).setCode acc (origin.getCode acc))
        (StateDB.open fun _ => none))).accounts a
      = if a ∈ record.addressCodeSet ∨ a ∈ record.addressBalanceSet then
          some { balance := if a ∈ record.addressBalanceSet then origin.getBalance a else 0,
                 code := if a ∈ record.addressCodeSet then origin.getCode a else [] }
        else none := by
  rw [accounts_foldl_setBalance]
  by_cases hb : a ∈ record.addressBalanceSet <;> by_cases hc : a ∈ record.addressCodeSet <;>
    simp [StateDB.account, accounts_foldl_installCode, hb, hc]

theorem exist_initIdealState :
    (initIdealState origin record).exist a ↔ a ∈ record.addressCodeSet ∨
      a ∈ record.addressBalanceSet ∨ a ∈ record.addressStorageSet.map (·.1.1) := by
  rw [initIdealState_eq]
  show StateDB.exist (List.foldl _ _ _) a = true ↔ _
  rw [exist_foldl_setState, Bool.or_eq_true, StateDB.exist, accounts_codeBalanceLoops]
  by_cases h : a ∈ record.addressCodeSet ∨ a ∈ record.addressBalanceSet <;> simp only [h] <;>
    simp <;> tauto

theorem getCode_initIdealState :
    (initIdealState origin record).getCode a
      = if a ∈ record.addressCodeSet then origin.getCode a else [] := by
  rw [initIdealState_eq]
  show (StateDB.account (List.foldl _ _ _) a).code = _
  rw [(account_foldl_setState _ _ a).2, StateDB.account, accounts_codeBalanceLoops]
  split_ifs <;> simp_all

theorem getBalance_initIdealState :
    (initIdealState origin record).getBalance a
      = if a ∈ record.addressBalanceSet then origin.getBalance a else 0 := by
  rw [initIdealState_eq]
  show (StateDB.account (List.foldl _ _ _) a).balance = _
  rw [(account_foldl_setState _ _ a).1, StateDB.account, accounts_codeBalanceLoops]
  split_ifs <;> simp_all

theorem getState_initIdealState_of_mem {slot v : Word}
    (h : ((a, slot), v) ∈ record.addressStorageSet) :
    (initIdealState origin record).getState a slot = v := by
  rw [initIdealState_eq]
  exact getState_foldl_setState_of_mem _ _ _ record.storage_keysUnique _ _ h

theorem getState_initIdealState_of_not_recorded {slot : Word}
    (h : ¬record.addressStorageSet.recorded (a, slot)) :
    (initIdealState origin record).getState a slot = 0 := by
  rw [initIdealState_eq]
  show StateDB.getState (List.foldl _ _ _) a slot = _
  rw [getState_foldl_setState_of_not_recorded _ _ _ _ h, StateDB.getState, StateDB.account,
    accounts_codeBalanceLoops]
  split_ifs <;> rfl

/-- The ideal state has an account exactly at the addresses the record names; the code
and balance of a recorded address are the reference state's, storage holds the recorded
values, and everything else reads empty or zero. -/
theorem initIdealState_spec (slot : Word) :
    let ideal := initIdealState origin record
    (ideal.exist a ↔ a ∈ record.addressCodeSet ∨ a ∈ record.addressBalanceSet ∨
      a ∈ record.addressStorageSet.map (·.1.1)) ∧
    ideal.getCode a = (if a ∈ record.addressCodeSet then origin.getCode a else []) ∧
    ideal.getBalance a = (if a ∈ record.addressBalanceSet then origin.getBalance a else 0) ∧
    (∀ v, ((a, slot), v) ∈ record.addressStorageSet → ideal.getState a slot = v) ∧
    (¬record.addressStorageSet.recorded (a, slot) → ideal.getState a slot = 0) :=
  ⟨exist_initIdealState origin record a, getCode_initIdealState origin record a,
    getBalance_initIdealState origin record a,
    fun _ => getState_initIdealState_of_mem origin record a,
    getState_initIdealState_of_not_recorded origin record a⟩

end Ideal

/-! ## Any iteration order

The three loops range over Go maps, whose iteration order the runtime chooses afresh each
time; the model's lists fix one order. Each loop's step commutes with any other step of
the same loop (distinct addresses are written apart; two storage keys of one map differ),
so every order gives the same state. -/

section Order

variable (origin : StateDB)

theorem foldl_installCode_perm {l l' : List Address} (h : l.Perm l') (db : StateDB) :
    l.foldl (fun tmp acc => (tmp.createAccount acc).setCode acc (origin.getCode acc)) db =
      l'.foldl (fun tmp acc => (tmp.createAccount acc).setCode acc (origin.getCode acc)) db :=
  h.foldl_eq' (fun x _ y _ z => by
    by_cases hxy : x = y
    · rw [hxy]
    · simp only [StateDB.setCode, StateDB.createAccount_eq_update, StateDB.update_update]
      exact StateDB.update_comm _ hxy _ _) db

theorem foldl_setBalance_perm {l l' : List Address} (h : l.Perm l') (db : StateDB) :
    l.foldl (fun tmp acc => tmp.setBalance acc (origin.getBalance acc)) db =
      l'.foldl (fun tmp acc => tmp.setBalance acc (origin.getBalance acc)) db :=
  h.foldl_eq' (fun x _ y _ z => by
    by_cases hxy : x = y
    · rw [hxy]
    · exact StateDB.update_comm _ hxy _ _) db

theorem foldl_setState_perm {l l' : StorageSet} (hl : l.KeysUnique) (h : l.Perm l')
    (db : StateDB) :
    l.foldl (fun tmp kv => tmp.setState kv.1.1 kv.1.2 kv.2) db =
      l'.foldl (fun tmp kv => tmp.setState kv.1.1 kv.1.2 kv.2) db :=
  h.foldl_eq' (fun x hx y hy z => by
    by_cases hxy : x.1 = y.1
    · rw [List.inj_on_of_nodup_map hl hx hy hxy]
    · exact StateDB.setState_comm _ hxy _ _) db

end Order

/-- `InitIdealState` does not depend on the order in which its loops visit the record's
maps: records whose code, balance and storage sets hold the same entries, in any order,
give the same ideal state. -/
theorem initIdealState_perm (origin : StateDB) {record record' : RecordToInitiateState}
    (hcode : record.addressCodeSet.Perm record'.addressCodeSet)
    (hbalance : record.addressBalanceSet.Perm record'.addressBalanceSet)
    (hstorage : record.addressStorageSet.Perm record'.addressStorageSet) :
    initIdealState origin record = initIdealState origin record' := by
  simp only [initIdealState, foldl_installCode_perm origin hcode,
    foldl_setBalance_perm origin hbalance,
    foldl_setState_perm record.storage_keysUnique hstorage]

theorem initIdealState_perm_reversed :
    let record : RecordToInitiateState :=
      { addressCodeSet := [0xa, 0xb], addressBalanceSet := [0xa, 0xc],
        addressStorageSet := [((0xa, 0), 1), ((0xb, 0), 2)],
        storage_keysUnique := by unfold StorageSet.KeysUnique; decide }
    let record' : RecordToInitiateState :=
      { addressCodeSet := [0xb, 0xa], addressBalanceSet := [0xc, 0xa],
        addressStorageSet := [((0xb, 0), 2), ((0xa, 0), 1)],
        storage_keysUnique := by unfold StorageSet.KeysUnique; decide }
    record.addressCodeSet.Perm record'.addressCodeSet ∧
      record.addressBalanceSet.Perm record'.addressBalanceSet ∧
      record.addressStorageSet.Perm record'.addressStorageSet ∧
      initIdealState (StateDB.open fun _ => none) record =
        initIdealState (StateDB.open fun _ => none) record' :=
  have hc : List.Perm [(0xa : Address), 0xb] [0xb, 0xa] := by decide
  have hb : List.Perm [(0xa : Address), 0xc] [0xc, 0xa] := by decide
  have hs : List.Perm ([((0xa, 0), 1), ((0xb, 0), 2)] : StorageSet)
      [((0xb, 0), 2), ((0xa, 0), 1)] := by decide
  ⟨hc, hb, hs, initIdealState_perm _ hc hb hs⟩

/-- Simulate's discovery pass for a transfer of 2 from a sender whose remote balance 3 it
installs: the record names the sender's balance, but the ideal state gives the sender the
balance the transfer left, 1. -/
theorem initIdealState_balance_after_transfer :
    ((execute (Remote.ofWorld fun a => if a = 0xa then some { balance := 3 } else none) 20 0x11 3
        [] [] { origin := 0xa, gasLimit := 100000, value := 2 } (StateDB.open fun _ => none)
        none).run' []).bind (fun (res, db) => res.toOption.map fun r =>
      (decide ((0xa : Address) ∈ r.record.addressBalanceSet),
        (initIdealState db r.record).getBalance 0xa)) = some (true, 1) := by
  decide

end EvmSimulator
