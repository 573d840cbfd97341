import EvmSimulator.IdealState

/-!
# The simulator

`simulate` is `Simulator.Simulate`: resolve the target's code (`targetCode`), check
the sender's balance (`simulateBalance`), run a discovery pass on the caller's state
with the prior record's sets, rebuild the ideal state from its record, and run the
accounting pass there with the whole record, access list included.

`unoptimalSimulation` is the single pass `SimulateBundle` runs for each transaction;
its balance check (`unoptimalBalance`) starts from the local balance and rejects only a
balance below the value. `simulateBundle` runs the discovery passes of all transactions
on the caller's state, carrying the sets and setting each access list aside, rebuilds
one ideal state, then runs the accounting passes in order with each transaction's own
access list, committing and reopening the state after each.

Every entry point returns its result with the caller's state store as it leaves it,
mutated in place; the log of remote requests is the state of `SimM`. The records a bundle
returns alias the carried record, as the source's pointers do (`aliasBundleRecords`).

`Execute` gives execution the whole gas limit and adds the intrinsic gas after it, so the
gas a run reports can exceed its limit (`execute_gasUsed_exceeds_gasLimit`).
-/

namespace EvmSimulator

/-- `Simulation`, the fields the simulator reads. -/
structure Simulation where
  fromAddr : Address
  toAddr : Address
  blockNumber : Nat := 0
  gasLimit : UInt64
  gasPrice : Nat := 0
  value : Int
  input : Bytes
  code : Bytes

/-- `SimulationResult`. -/
structure SimulationResult where
  returnedData : Bytes
  gasUsed : Nat
  record : RecordToInitiateState

/-- `ConfigFromSimulation`. -/
def configFromSimulation (sim : Simulation) : Config :=
  { origin := sim.fromAddr, blockNumber := sim.blockNumber, gasLimit := sim.gasLimit.toNat,
    gasPrice := sim.gasPrice, value := sim.value }

/-- The error text of a rejected balance check. -/
def insufficientBalanceText : String := "insuficient balance to proceed with simulation"

/-- A remote request inside the simulator: logged, then answered, or the client's panic. -/
def fetch {α : Type} (r : Request) (answer : Except Abort (Except String α)) :
    SimM (Except String α) := fun log =>
  match answer with
  | .ok answer => .ok answer (log ++ [r])
  | .error err => .error err (log ++ [r])

section Simulator

variable (remote : Remote) (fuel : Nat)

/-- The target's code, as both entry points resolve it: `Simulation.Code`, else the
local code, fetched when the local code is empty. -/
def targetCode (sim : Simulation) (db : StateDB) : SimM (Except String Bytes) :=
  if sim.code.isEmpty ∧ db.getCodeSize sim.toAddr = 0 then
    fetch (.code sim.toAddr) (remote.code sim.toAddr)
  else if sim.code.isEmpty then pure (.ok (db.getCode sim.toAddr))
  else pure (.ok sim.code)

/-- `Simulate`'s balance check: a positive value from a sender without local balance
fetches the remote balance, which must exceed the value. The origin balance `Execute`
gets, zero when nothing was fetched. -/
def simulateBalance (sim : Simulation) (db : StateDB) : SimM (Except String Int) :=
  if 0 < sim.value ∧ db.getBalance sim.fromAddr = 0 then do
    match ← fetch (.balance sim.fromAddr) (remote.balance sim.fromAddr) with
    | .error msg => pure (.error msg)
    | .ok b => pure (if b ≤ sim.value then .error insufficientBalanceText else .ok b)
  else pure (.ok 0)

/-- `unoptimalSimulation`'s balance check: the local balance, or the remote one when a
positive value meets a zero local balance, which must not be below the value. -/
def unoptimalBalance (sim : Simulation) (db : StateDB) : SimM (Except String Int) := do
  let localBalance : Int := (db.getBalance sim.fromAddr).toNat
  let balance ← if 0 < sim.value ∧ localBalance ≤ 0 then
      fetch (.balance sim.fromAddr) (remote.balance sim.fromAddr)
    else pure (.ok localBalance)
  match balance with
  | .error msg => pure (.error msg)
  | .ok b => pure (if b < sim.value then .error insufficientBalanceText else .ok b)

/-- `Simulator.Simulate`: the result and the caller's state store as it leaves it. -/
def simulate (sim : Simulation) (db : StateDB) (recordInitializer : Option RecordToInitiateState) :
    SimM (Except SimError SimulationResult × StateDB) := do
  let cfg := configFromSimulation sim
  match ← targetCode remote sim db with
  | .error msg => pure (.error (.text msg), db)
  | .ok code =>
    match ← simulateBalance remote sim db with
    | .error msg => pure (.error (.text msg), db)
    | .ok balance =>
      let recordToInit := recordInitializer.map fun r => { r with accessList := [] }
      let (res₁, db₁) ←
        execute remote fuel sim.toAddr balance code sim.input cfg db recordToInit
      match res₁ with
      | .error err => pure (.error err, db₁)
      | .ok r₁ =>
        let (res₂, _) ← execute remote fuel sim.toAddr balance code sim.input cfg
          (initIdealState db₁ r₁.record) (some r₁.record)
        pure (res₂.map (fun r₂ => ⟨r₂.ret, r₂.gasUsed, r₂.record⟩), db₁)

/-- `Simulator.unoptimalSimulation`. -/
def unoptimalSimulation (sim : Simulation) (db : StateDB)
    (recordInitializer : Option RecordToInitiateState) :
    SimM (Except SimError SimulationResult × StateDB) := do
  match ← targetCode remote sim db with
  | .error msg => pure (.error (.text msg), db)
  | .ok code =>
    match ← unoptimalBalance remote sim db with
    | .error msg => pure (.error (.text msg), db)
    | .ok balance =>
      let (res, db) ← execute remote fuel sim.toAddr balance code sim.input
        (configFromSimulation sim) db recordInitializer
      pure (res.map (fun r => ⟨r.ret, r.gasUsed, r.record⟩), db)

/-- The discovery passes of a bundle on one state: each transaction's access list, set
aside, and the carried record, its access list cleared. -/
def bundleDiscovery : List Simulation → StateDB → Option RecordToInitiateState →
    SimM (Except SimError (List AccessList × Option RecordToInitiateState) × StateDB)
  | [], db, record, log => .ok (.ok ([], record), db) log
  | sim :: sims, db, record, log =>
    match unoptimalSimulation remote fuel sim db record log with
    | .ok (.ok res, db) log =>
      match bundleDiscovery sims db (some { res.record with accessList := [] }) log with
      | .ok (.ok (lists, record), db) log =>
        .ok (.ok (res.record.accessList :: lists, record), db) log
      | r => r
    | .ok (.error err, db) log => .ok (.error err, db) log
    | .error err log => .error err log

/-- The accounting passes of a bundle: each transaction with its own access list on the
current state, which is then committed and reopened. -/
def bundleAccounting : List (Simulation × AccessList) → StateDB → RecordToInitiateState →
    SimM (Except SimError (List SimulationResult) × StateDB)
  | [], db, _, log => .ok (.ok [], db) log
  | (sim, accessList) :: rest, db, record, log =>
    match unoptimalSimulation remote fuel sim db (some { record with accessList }) log with
    | .ok (.ok res, db) log =>
      match bundleAccounting rest (StateDB.open db.commit) res.record log with
      | .ok (.ok results, db) log => .ok (.ok (res :: results), db) log
      | r => r
    | .ok (.error err, db) log => .ok (.error err, db) log
    | .error err log => .error err log

end Simulator

/-- The records a bundle returns, as the source's pointers leave them: every record
shares the carried maps, so holds the final sets, and the access list of all but the
last is the next transaction's discovery list, written through the shared pointer. -/
def aliasBundleRecords (final : RecordToInitiateState) (lists : List AccessList) :
    List SimulationResult → List SimulationResult
  | [] => []
  | r :: rs =>
    let accessList := match lists with
      | _ :: next :: _ => next
      | _ => r.record.accessList
    { r with record := { final with accessList } } :: aliasBundleRecords final lists.tail rs

section Simulator

variable (remote : Remote) (fuel : Nat)

/-- `Simulator.SimulateBundle`. An empty bundle without a record dereferences a nil
record in `InitIdealState`. -/
def simulateBundle (sims : List Simulation) (db : StateDB)
    (recordInitializer : Option RecordToInitiateState) :
    SimM (Except SimError (List SimulationResult) × StateDB) := do
  match ← bundleDiscovery remote fuel sims db recordInitializer with
  | (.error err, db) => pure (.error err, db)
  | (.ok (_, none), _) => throw (.panic "invalid memory address or nil pointer dereference")
  | (.ok (lists, some record), db) =>
    match ← bundleAccounting remote fuel (sims.zip lists) (initIdealState db record) record with
    | (.error err, _) => pure (.error err, db)
    | (.ok results, _) =>
      let final := (results.getLast?.map SimulationResult.record).getD record
      pure (.ok (aliasBundleRecords final lists results), db)

end Simulator

/-! ## The records a bundle returns -/

/-- Every aliased record carries the final record's three sets. -/
theorem aliasBundleRecords_sets (final : RecordToInitiateState) (lists : List AccessList)
    (results : List SimulationResult) :
    ∀ r ∈ aliasBundleRecords final lists results,
      r.record.addressCodeSet = final.addressCodeSet ∧
      r.record.addressBalanceSet = final.addressBalanceSet ∧
      r.record.addressStorageSet = final.addressStorageSet := by
  induction results generalizing lists with
  | nil => simp [aliasBundleRecords]
  | cons r rs ih =>
    simp only [aliasBundleRecords, List.mem_cons, forall_eq_or_imp, and_self, true_and]
    exact ih _

/-! ## The two balance checks -/

/-- A transfer of the sender's whole remote balance, 5, to a target without code:
`Simulate` rejects it, `SimulateBundle` of the same transaction accepts it. -/
theorem simulate_rejects_simulateBundle_accepts :
    ((simulate (Remote.ofWorld fun a => if a = 0xa then some { balance := 5 } else none) 20
        { fromAddr := 0xa, toAddr := 0x11, gasLimit := 100000, value := 5, input := [], code := [] }
        (StateDB.open fun _ => none) none).run' []).map (·.1.toBool) = some false ∧
    ((simulateBundle (Remote.ofWorld fun a => if a = 0xa then some { balance := 5 } else none) 20
        [{ fromAddr := 0xa, toAddr := 0x11, gasLimit := 100000, value := 5, input := [], code := [] }]
        (StateDB.open fun _ => none) none).run' []).map (·.1.toBool) = some true := by
  decide

/-- The same bundle on a source that answers everything asks twice for the target's
code and the sender's balance: the checks of each pass sit outside the fork record. -/
theorem simulateBundle_requests_twice :
    stateAfter ((simulateBundle (Remote.ofWorld fun a => if a = 0xa then some { balance := 5 } else none)
        20 [{ fromAddr := 0xa, toAddr := 0x11, gasLimit := 100000, value := 5, input := [], code := [] }]
        (StateDB.open fun _ => none) none).run [])
      = [.code 0x11, .balance 0xa, .code 0x11, .balance 0xa] := by
  decide

/-! ## The gas a simulation reports -/

/-- `Execute` gives the call the whole gas limit and then adds the intrinsic gas, so a
transaction whose gas limit is its intrinsic gas, 21000, and whose program spends 4
(`PUSH0 POP STOP`) is reported to use 21004, more than its gas limit; a transaction
charged as the chain charges it would have had no gas left for execution. `Simulate`
reports the same. -/
theorem execute_gasUsed_exceeds_gasLimit :
    ((execute (Remote.ofWorld fun _ => none) 10 0x11 0 [0x5f, 0x50, 0x00] []
        { origin := 0xa, gasLimit := 21000, value := 0 } (StateDB.open fun _ => none) none).run'
        []).bind (fun (res, _) => res.toOption.map (·.gasUsed)) = some 21004 ∧
    ((simulate (Remote.ofWorld fun _ => none) 10
        { fromAddr := 0xa, toAddr := 0x11, gasLimit := 21000, value := 0, input := [],
          code := [0x5f, 0x50, 0x00] } (StateDB.open fun _ => none) none).run' []).bind
      (fun (res, _) => res.toOption.map (·.gasUsed)) = some 21004 := by
  decide

/-! ## Combining records -/

/-- `v, ok := set[key]`: the value a storage set holds for a key. -/
def StorageSet.lookup (set : StorageSet) (key : Address × Word) : Option Word :=
  match set with
  | [] => none
  | kv :: rest => if kv.1 = key then some kv.2 else StorageSet.lookup rest key

/-- `if _, ok := set[k]; !ok { set[k] = v }`: a key keeps the first value it gets. -/
def StorageSet.insertFirst (set : StorageSet) (kv : (Address × Word) × Word) : StorageSet :=
  if set.recorded kv.1 then set else set ++ [kv]

theorem StorageSet.keysUnique_foldl_insertFirst {acc : StorageSet} (h : acc.KeysUnique) :
    ∀ set : StorageSet, (set.foldl StorageSet.insertFirst acc).KeysUnique
  | [] => h
  | kv :: rest => by
    refine StorageSet.keysUnique_foldl_insertFirst ?_ rest
    unfold StorageSet.insertFirst
    split_ifs with hk
    · exact h
    · exact StorageSet.keysUnique_append h hk kv.2

/-- One iteration of `combineRecordInitializers`' loop: a record that is not `nil` merged
into the combined one, its code and balance sets joined and its storage pairs added where
the key is new. -/
def mergeRecord (record : RecordToInitiateState) :
    Option RecordToInitiateState → RecordToInitiateState
  | some r =>
    { addressCodeSet := r.addressCodeSet.foldl insertAddr record.addressCodeSet
      addressBalanceSet := r.addressBalanceSet.foldl insertAddr record.addressBalanceSet
      addressStorageSet := r.addressStorageSet.foldl StorageSet.insertFirst
        record.addressStorageSet
      storage_keysUnique := StorageSet.keysUnique_foldl_insertFirst record.storage_keysUnique _ }
  | none => record

/-- `combineRecordInitializers`: the records merged in turn into an empty one. -/
def combineRecordInitializers (records : List (Option RecordToInitiateState)) :
    RecordToInitiateState :=
  records.foldl mergeRecord {}

namespace StorageSet

variable (key : Address × Word)

theorem lookup_append : ∀ (set set' : StorageSet),
    (set ++ set').lookup key = (set.lookup key).or (set'.lookup key)
  | [], _ => rfl
  | kv :: rest, set' => by
    simp only [List.cons_append, lookup]
    split_ifs
    · rfl
    · exact lookup_append rest set'

theorem recorded_iff_isSome : ∀ set : StorageSet, set.recorded key ↔ (set.lookup key).isSome
  | [] => by simp [recorded, lookup]
  | kv :: rest => by
    have ih := recorded_iff_isSome rest
    simp only [recorded, List.map_cons, List.mem_cons, lookup] at ih ⊢
    split_ifs with hk
    · simp [hk]
    · simp [Ne.symm hk, ih]

/-- Merging a set into `acc` key by key, first value kept: `acc`'s value where it has
one, else the set's first. -/
theorem lookup_foldl_insertFirst : ∀ (set acc : StorageSet),
    (set.foldl insertFirst acc).lookup key = (acc.lookup key).or (set.lookup key)
  | [], acc => (Option.or_none).symm
  | kv :: rest, acc => by
    rw [List.foldl_cons, lookup_foldl_insertFirst rest, lookup]
    unfold insertFirst
    split_ifs with hrec hk hk
    · subst hk
      obtain ⟨v, hv⟩ := Option.isSome_iff_exists.1 ((recorded_iff_isSome _ acc).1 hrec)
      simp [hv]
    · rfl
    · simp [lookup_append, lookup, hk, Option.or_assoc]
    · simp [lookup_append, lookup, hk]

end StorageSet

theorem mem_foldl_insertAddr {a : Address} :
    ∀ (set acc : List Address), a ∈ set.foldl insertAddr acc ↔ a ∈ acc ∨ a ∈ set
  | [], acc => by simp
  | b :: rest, acc => by
    rw [List.foldl_cons, mem_foldl_insertAddr rest, mem_insertAddr, List.mem_cons, or_assoc]

theorem nodup_foldl_insertAddr {acc : List Address} (h : acc.Nodup) :
    ∀ set : List Address, (set.foldl insertAddr acc).Nodup
  | [] => h
  | b :: rest => nodup_foldl_insertAddr (nodup_insertAddr h b) rest

/-- The storage value a record of `records` holds for `key`: the first record's that
holds one. -/
def firstStorageValue (records : List (Option RecordToInitiateState)) (key : Address × Word) :
    Option Word :=
  records.findSome? fun r => r.bind fun r => r.addressStorageSet.lookup key

/-- The merge loop from any record: what it starts from, joined with what the records hold. -/
theorem foldl_mergeRecord (key : Address × Word) (a : Address) :
    ∀ (records : List (Option RecordToInitiateState)) (acc : RecordToInitiateState),
      (a ∈ (records.foldl mergeRecord acc).addressCodeSet ↔
        a ∈ acc.addressCodeSet ∨ ∃ r, some r ∈ records ∧ a ∈ r.addressCodeSet) ∧
      (a ∈ (records.foldl mergeRecord acc).addressBalanceSet ↔
        a ∈ acc.addressBalanceSet ∨ ∃ r, some r ∈ records ∧ a ∈ r.addressBalanceSet) ∧
      (acc.addressCodeSet.Nodup → (records.foldl mergeRecord acc).addressCodeSet.Nodup) ∧
      (acc.addressBalanceSet.Nodup → (records.foldl mergeRecord acc).addressBalanceSet.Nodup) ∧
      (records.foldl mergeRecord acc).addressStorageSet.lookup key =
        (acc.addressStorageSet.lookup key).or (firstStorageValue records key)
  | [], acc => by simp [firstStorageValue, Option.or_none]
  | none :: rest, acc => by
    obtain ⟨hc, hb, hnc, hnb, hs⟩ := foldl_mergeRecord key a rest acc
    rw [List.foldl_cons]
    refine ⟨?_, ?_, hnc, hnb, ?_⟩
    · rw [mergeRecord, hc]; simp
    · rw [mergeRecord, hb]; simp
    · rw [mergeRecord, hs]; simp [firstStorageValue, List.findSome?_cons]
  | some r :: rest, acc => by
    obtain ⟨hc, hb, hnc, hnb, hs⟩ := foldl_mergeRecord key a rest (mergeRecord acc (some r))
    rw [List.foldl_cons]
    refine ⟨?_, ?_, fun h => hnc (nodup_foldl_insertAddr h _),
      fun h => hnb (nodup_foldl_insertAddr h _), ?_⟩
    · rw [hc, mergeRecord, mem_foldl_insertAddr]
      simp only [List.mem_cons, Option.some.injEq, or_and_right, exists_or, exists_eq_left,
        or_assoc]
    · rw [hb, mergeRecord, mem_foldl_insertAddr]
      simp only [List.mem_cons, Option.some.injEq, or_and_right, exists_or, exists_eq_left,
        or_assoc]
    · rw [hs, mergeRecord, StorageSet.lookup_foldl_insertFirst, Option.or_assoc]
      simp only [firstStorageValue, List.findSome?_cons, Option.some_bind]
      cases r.addressStorageSet.lookup key <;> rfl

/-- `combineRecordInitializers` joins the code and balance sets of the records that are
not `nil`, each address once, and gives every storage key the value of the first record
that holds it. -/
theorem combineRecordInitializers_spec (records : List (Option RecordToInitiateState)) :
    (∀ a, a ∈ (combineRecordInitializers records).addressCodeSet ↔
      ∃ r, some r ∈ records ∧ a ∈ r.addressCodeSet) ∧
    (∀ a, a ∈ (combineRecordInitializers records).addressBalanceSet ↔
      ∃ r, some r ∈ records ∧ a ∈ r.addressBalanceSet) ∧
    (combineRecordInitializers records).addressCodeSet.Nodup ∧
    (combineRecordInitializers records).addressBalanceSet.Nodup ∧
    ∀ key, (combineRecordInitializers records).addressStorageSet.lookup key =
      firstStorageValue records key := by
  have h := fun key a => foldl_mergeRecord key a records {}
  refine ⟨fun a => ?_, fun a => ?_, (h 0 0).2.2.1 List.nodup_nil,
    (h 0 0).2.2.2.1 List.nodup_nil, fun key => ?_⟩
  · simpa using (h 0 a).1
  · simpa using (h 0 a).2.1
  · simpa [StorageSet.lookup] using (h key 0).2.2.2.2

/-- Two records with a value for slot 0 of `0x1`, a `nil` between them: the first's stays. -/
example :
    (combineRecordInitializers
      [some { addressStorageSet := [((0x1, 0), 5)], storage_keysUnique := List.nodup_singleton _ },
       none,
       some { addressStorageSet := [((0x1, 0), 7)], storage_keysUnique := List.nodup_singleton _ }]
      ).addressStorageSet.lookup (0x1, 0) = some 5 := by
  decide

end EvmSimulator
