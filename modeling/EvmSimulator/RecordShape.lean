import EvmSimulator.AccessList
import EvmSimulator.Requests

/-!
# The shape of the fork record

The source keeps the fork record in Go maps: the addresses whose code was fetched, the
addresses whose balance was fetched, and, beside the access list, the `(address, slot)`
pairs it holds. The model keeps them as lists, so a well-formed record holds no address
and no pair twice. `Interpreter.WellFormed` is that shape, and one more fact: the access
list is the first-touch grouping of its membership set, the pairs in the order they
joined it (`firstTouchGrouping`), so it names each address once and each slot once
within its entry.

Every record operation a hook performs keeps the shape under the guard the hook checks
before it (`Interpreter.WellFormed.recordCode`, ..., `.appendToAccessList`), so every
hook keeps it (`preDispatch_wellFormed`) and so does every run, whatever the program, the
call tree and the reverts (`run_wellFormed`). `Execute` starts from the record's sets
and a fresh access list, and its set-up only marks addresses, so from a record whose
sets hold no address twice, every record `Execute`, `Simulate` and `SimulateBundle`
return is well formed (`records_wellFormed`).

The entry points are followed through `Returns`, a postcondition on what a computation
returns, with its `pure` and bind rules.
-/

namespace EvmSimulator

/-! ## The shape -/

/-- The shape of the interpreter's fork bookkeeping (see the module doc). -/
structure Interpreter.WellFormed (i : Interpreter) : Prop where
  code_nodup : i.addressCodeSet.Nodup
  balance_nodup : i.addressBalanceSet.Nodup
  touches_nodup : i.addressSlotAccessListSet.Nodup
  accessList_eq : i.accessList = firstTouchGrouping i.addressSlotAccessListSet

/-- An access list as `appendToAccessList` builds one: the first-touch grouping of the
pairs touched, none twice. -/
def AccessList.FirstTouch (l : AccessList) : Prop :=
  ∃ touches : List (Address × Word), touches.Nodup ∧ l = firstTouchGrouping touches

/-- A record with the shape `Execute` gives it: no address twice in its code and balance
sets, and an access list built by first touch. -/
structure RecordToInitiateState.WellFormed (r : RecordToInitiateState) : Prop where
  code_nodup : r.addressCodeSet.Nodup
  balance_nodup : r.addressBalanceSet.Nodup
  accessList : r.accessList.FirstTouch

/-- An access list built by first touch names each address once. -/
theorem AccessList.FirstTouch.nodup_address {l : AccessList} (h : l.FirstTouch) :
    (l.map AccessTuple.address).Nodup := by
  obtain ⟨touches, -, rfl⟩ := h
  exact nodup_firstTouchGrouping_address touches

/-- An access list built by first touch names each slot once within its entry. -/
theorem AccessList.FirstTouch.nodup_storageKeys {l : AccessList} (h : l.FirstTouch) :
    ∀ t ∈ l, t.storageKeys.Nodup := by
  obtain ⟨touches, -, rfl⟩ := h
  exact fun _ => nodup_storageKeys_of_mem_firstTouchGrouping

namespace Interpreter.WellFormed

variable {i : Interpreter} (h : i.WellFormed)
include h

theorem recordCode {a : Address} (ha : a ∉ i.addressCodeSet) : (i.recordCode a).WellFormed :=
  ⟨nodup_append_singleton h.code_nodup ha, h.balance_nodup, h.touches_nodup, h.accessList_eq⟩

theorem recordBalance {a : Address} (ha : a ∉ i.addressBalanceSet) :
    (i.recordBalance a).WellFormed :=
  ⟨h.code_nodup, nodup_append_singleton h.balance_nodup ha, h.touches_nodup, h.accessList_eq⟩

theorem recordStorage (key : Address × Word) (v : Word)
    (hk : ¬i.addressStorageSet.recorded key) : (i.recordStorage key v hk).WellFormed :=
  ⟨h.code_nodup, h.balance_nodup, h.touches_nodup, h.accessList_eq⟩

theorem markAddressCode (a : Address) : (i.markAddressCode a).WellFormed :=
  ⟨nodup_insertAddr h.code_nodup a, h.balance_nodup, h.touches_nodup, h.accessList_eq⟩

theorem markAddressBalance (a : Address) : (i.markAddressBalance a).WellFormed :=
  ⟨h.code_nodup, nodup_insertAddr h.balance_nodup a, h.touches_nodup, h.accessList_eq⟩

/-- A new pair joins the membership set at its end and the access list by `appendSlot`,
which is what one more touch does to the first-touch grouping. -/
theorem appendToAccessList {self : Address} {stack : List Word} {i' : Interpreter}
    (h' : EvmSimulator.appendToAccessList self stack i = .ok i') : i'.WellFormed := by
  unfold EvmSimulator.appendToAccessList at h'
  split at h'
  · cases h'
  · split_ifs at h' with hmem <;> cases h'
    · exact h
    · exact ⟨h.code_nodup, h.balance_nodup, nodup_append_singleton h.touches_nodup hmem,
        by rw [firstTouchGrouping_append, if_neg hmem, h.accessList_eq]⟩

/-- `GetRecordToInitState` reads a well-formed record off a well-formed interpreter. -/
theorem getRecordToInitState : i.getRecordToInitState.WellFormed :=
  ⟨h.code_nodup, h.balance_nodup, _, h.touches_nodup, h.accessList_eq⟩

end Interpreter.WellFormed

/-- `NewEVMInterpreter` on a record whose sets hold no address twice. -/
theorem Interpreter.new_wellFormed {record : Option RecordToInitiateState}
    (h : ∀ r ∈ record, r.addressCodeSet.Nodup ∧ r.addressBalanceSet.Nodup) :
    (Interpreter.new record).WellFormed := by
  cases record with
  | none => exact ⟨List.nodup_nil, List.nodup_nil, List.nodup_nil, rfl⟩
  | some r => exact ⟨(h r rfl).1, (h r rfl).2, List.nodup_nil, rfl⟩

/-! ## Every hook keeps the shape -/

section Hooks

variable {remote : Remote}

theorem storeIndependent_wellFormed : StoreIndependent fun e => e.interpreter.WellFormed :=
  fun _ _ => Iff.rfl

theorem registerAddressStorage_wellFormed (self : Address) (stack : List Word) :
    Preserves (fun e => e.interpreter.WellFormed) (registerAddressStorage remote self stack) := by
  intro e he
  unfold registerAddressStorage
  split
  · exact he
  · split
    · exact he
    · split
      · exact he
      · exact he
      · exact he.recordStorage _ _ ‹_›

theorem fetchCode_wellFormed {e : Evm} {addr : Address} (he : e.interpreter.WellFormed)
    (hnew : addr ∉ e.interpreter.addressCodeSet) :
    (stateAfter (fetchCode remote addr e)).interpreter.WellFormed := by
  unfold fetchCode
  split
  · exact he
  · exact he
  · exact he.recordCode hnew

theorem registerBalance_wellFormed (addr : Address) (value : Word) :
    Preserves (fun e => e.interpreter.WellFormed) (registerBalance remote addr value) := by
  intro e he
  by_cases hcond : e.stateDB.getBalance addr < value ∧ addr ∉ e.interpreter.addressBalanceSet
  · dsimp only [registerBalance]
    rw [if_pos hcond]
    rcases remote.balance addr with err | msg | b
    · exact he
    · exact he
    · dsimp only
      rcases mustFromBig b with err | balance
      · exact he
      dsimp only
      split_ifs
      · exact he.recordBalance hcond.2
      · exact he
  · dsimp only [registerBalance]
    rw [if_neg hcond]
    exact he

theorem registerAddressCodeForCalls_wellFormed (op : OpCode) (stack : List Word) :
    Preserves (fun e => e.interpreter.WellFormed)
      (registerAddressCodeForCalls remote op stack) := by
  intro e he
  unfold registerAddressCodeForCalls
  split
  · next addrWord valueWord _ =>
    split
    · exact he
    · next hnew =>
      have h₁ := @fetchCode_wellFormed remote _ _ he hnew
      rcases hq : remote.code addrWord.toAddress with err | msg | code
      · simpa only [fetchCode, hq] using h₁
      · simpa only [fetchCode, hq] using h₁
      · simp only [fetchCode, hq] at h₁ ⊢
        split
        · exact registerBalance_wellFormed _ _ _ h₁
        · exact h₁
  · exact he

theorem registerAddressCodeForExt_wellFormed (stack : List Word) :
    Preserves (fun e => e.interpreter.WellFormed) (registerAddressCodeForExt remote stack) := by
  intro e he
  unfold registerAddressCodeForExt
  split
  · split
    · exact he
    · next hnew => exact fetchCode_wellFormed he hnew
  · exact he

theorem registerHooks_wellFormed (op : OpCode) (self : Address) (stack : List Word) :
    Preserves (fun e => e.interpreter.WellFormed) (registerHooks remote op self stack) := by
  unfold registerHooks
  split_ifs
  · exact registerAddressStorage_wellFormed _ _
  · exact registerAddressCodeForCalls_wellFormed _ _
  · exact registerAddressCodeForExt_wellFormed _
  · exact fun _ he => he

/-- Every pre-dispatch hook keeps the shape of the bookkeeping. -/
theorem preDispatch_wellFormed (op : OpCode) (self : Address) (stack : List Word) :
    Preserves (fun e => e.interpreter.WellFormed) (preDispatch remote op self stack) := by
  intro e he
  have hswitch := @registerHooks_wellFormed remote op self stack e he
  unfold preDispatch
  split
  · next e₁ h =>
    rw [h, stateAfter_ok] at hswitch
    split
    · split
      · next i hi => exact hswitch.appendToAccessList hi
      · exact hswitch
    · exact hswitch
  · exact hswitch

/-- Every run keeps the shape of the bookkeeping, whatever the program, the call tree and
the reverts, and however it ends. -/
theorem run_wellFormed (fuel : Nat) (ctx : Context) (f : Frame) :
    Preserves (fun e => e.interpreter.WellFormed) (run (preDispatch remote) fuel ctx f) :=
  run_preserves storeIndependent_wellFormed preDispatch_wellFormed fuel ctx f

end Hooks

/-! ## One execution -/

theorem fundOrigin_wellFormed {origin : Address} {originBalance : Int} {e e' : Evm}
    (h : fundOrigin origin originBalance e = .ok e') (he : e.interpreter.WellFormed) :
    e'.interpreter.WellFormed := by
  unfold fundOrigin at h
  split_ifs at h
  · cases hm : mustFromBig originBalance <;> simp only [hm, Except.map, reduceCtorEq] at h
    cases h
    exact he.markAddressBalance _
  · cases h
    exact he

theorem installTarget_wellFormed (address : Address) (code : Bytes) {e : Evm}
    (he : e.interpreter.WellFormed) : (installTarget address code e).interpreter.WellFormed := by
  unfold installTarget
  split_ifs
  · exact he
  · exact he.markAddressCode _

theorem prepareExecution_wellFormed {address : Address} {originBalance : Int} {code : Bytes}
    {cfg : Config} {record : Option RecordToInitiateState} {e e' : Evm} {u : Unit}
    (h : prepareExecution address originBalance code cfg record e = .ok u e')
    (he : e.interpreter.WellFormed) : e'.interpreter.WellFormed := by
  simp only [prepareExecution] at h
  split at h
  · cases h
  · next e₁ hB =>
    cases h
    have h₁ : e₁.interpreter.WellFormed := fundOrigin_wellFormed hB (by simpa using he)
    exact installTarget_wellFormed _ _ h₁

section Execute

variable {remote : Remote} {fuel : Nat} {address : Address} {originBalance : Int}
  {code input : Bytes} {cfg : Config} {db : StateDB} {record : Option RecordToInitiateState}

/-- What a returning `Execute` did: the set-up, the outermost call on the system it left,
and the result read off the system the call left. -/
theorem execute_inv {log log' : List Request} {out : Except SimError ExecutionResult × StateDB}
    (h : execute remote fuel address originBalance code input cfg db record log = .ok out log') :
    ∃ e₁ value r e₂,
      prepareExecution address originBalance code cfg.setDefaults record
        (Evm.init db record log) = .ok () e₁ ∧
      callFromOrigin (preDispatch remote) fuel cfg.setDefaults.env address input
        cfg.setDefaults.gasLimit value e₁ = .ok r e₂ ∧
      out = (finishExecution input cfg.setDefaults r e₂, e₂.stateDB) := by
  simp only [execute, onFork, bind, EStateM.bind, get, getThe, MonadStateOf.get, EStateM.get,
    pure, EStateM.pure] at h
  rcases hp : prepareExecution address originBalance code cfg.setDefaults record
    (Evm.init db record log) with ⟨⟨⟩, e₁⟩ | ⟨err, e₁⟩ <;> simp only [hp, reduceCtorEq] at h
  have hm := stateAfter_mustFromBigM cfg.setDefaults.value e₁
  rcases hv : mustFromBigM cfg.setDefaults.value e₁ with ⟨value, e₂⟩ | ⟨err, e₂⟩ <;>
    simp only [hv, stateAfter_ok, reduceCtorEq] at hm h
  subst hm
  rcases hc : callFromOrigin (preDispatch remote) fuel cfg.setDefaults.env address input
    cfg.setDefaults.gasLimit value e₂ with ⟨r, e₃⟩ | ⟨err, e₃⟩ <;>
    simp only [hc, reduceCtorEq, EStateM.Result.ok.injEq] at h
  exact ⟨e₂, value, r, e₃, rfl, hc, h.1.symm⟩

end Execute

/-! ## What a computation returns -/

/-- Every value `x` returns satisfies `Q`, from whatever state it starts. -/
def Returns {σ α : Type} (Q : α → Prop) (x : EStateM Abort σ α) : Prop :=
  ∀ s a s', x s = .ok a s' → Q a

section Returns

variable {σ α β : Type} {Q : α → Prop}

theorem returns_true (x : EStateM Abort σ α) : Returns (fun _ => True) x :=
  fun _ _ _ _ => trivial

theorem returns_pure {a : α} (h : Q a) : Returns Q (pure a : EStateM Abort σ α) := by
  intro _ _ _ hx
  cases hx
  exact h

theorem returns_bind {P : α → Prop} {R : β → Prop} {x : EStateM Abort σ α}
    {f : α → EStateM Abort σ β} (hx : Returns P x) (hf : ∀ a, P a → Returns R (f a)) :
    Returns R (x >>= f) := by
  intro s b s' h
  simp only [bind, EStateM.bind] at h
  split at h
  · next a s₁ hs => exact hf a (hx _ _ _ hs) _ _ _ h
  · cases h

end Returns

/-! ## The records the entry points return -/

/-- What an `Execute`, `Simulate` or `unoptimalSimulation` call returns has a well-formed
record when it succeeds. -/
def RecordOk {α : Type} (record : α → RecordToInitiateState) (out : Except SimError α × StateDB) :
    Prop :=
  ∀ res, out.1 = .ok res → (record res).WellFormed

theorem recordOk_error {α : Type} (record : α → RecordToInitiateState) (err : SimError)
    (db : StateDB) : RecordOk record (.error err, db) := fun _ h => nomatch h

section Entry

variable {remote : Remote} {fuel : Nat}

/-- A successful `Execute` from a record whose sets hold no address twice returns a
well-formed record. -/
theorem execute_recordOk {address : Address} {originBalance : Int} {code input : Bytes}
    {cfg : Config} {db : StateDB} {record : Option RecordToInitiateState}
    (hrecord : ∀ r ∈ record, r.addressCodeSet.Nodup ∧ r.addressBalanceSet.Nodup) :
    Returns (RecordOk ExecutionResult.record)
      (execute remote fuel address originBalance code input cfg db record) := by
  intro log out log' h
  obtain ⟨e₁, value, r, e₂, hp, hc, rfl⟩ := execute_inv h
  have h₁ := prepareExecution_wellFormed hp (Interpreter.new_wellFormed hrecord)
  have h₂ := @callFromOrigin_preserves _ storeIndependent_wellFormed (preDispatch remote)
    preDispatch_wellFormed fuel cfg.setDefaults.env address input cfg.setDefaults.gasLimit
    value e₁ h₁
  rw [hc, stateAfter_ok] at h₂
  intro res hres
  rw [finishExecution_record hres]
  exact h₂.getRecordToInitState

/-- The sets of a well-formed record, handed to the next pass. -/
theorem sets_nodup {r : RecordToInitiateState} (h : r.WellFormed) (f : RecordToInitiateState →
    RecordToInitiateState) (hf : (f r).addressCodeSet = r.addressCodeSet ∧
      (f r).addressBalanceSet = r.addressBalanceSet) :
    ∀ r' ∈ some (f r), r'.addressCodeSet.Nodup ∧ r'.addressBalanceSet.Nodup := by
  rintro r' ⟨⟩
  exact ⟨hf.1 ▸ h.code_nodup, hf.2 ▸ h.balance_nodup⟩

/-- A simulator result carries the record of the `Execute` result it is read from. -/
theorem recordOk_map {res : Except SimError ExecutionResult} {db db' : StateDB}
    (h : RecordOk ExecutionResult.record (res, db)) :
    RecordOk SimulationResult.record
      (res.map (fun r => ⟨r.ret, r.gasUsed, r.record⟩), db') := by
  intro r hr
  cases res with
  | error err => cases hr
  | ok r₁ =>
    cases hr
    exact h r₁ rfl

theorem simulate_recordOk {sim : Simulation} {db : StateDB}
    {recordInitializer : Option RecordToInitiateState}
    (hrecord : ∀ r ∈ recordInitializer, r.addressCodeSet.Nodup ∧ r.addressBalanceSet.Nodup) :
    Returns (RecordOk SimulationResult.record) (simulate remote fuel sim db recordInitializer) := by
  unfold simulate
  refine returns_bind (returns_true _) fun c _ => ?_
  rcases c with msg | code
  · exact returns_pure (recordOk_error _ _ _)
  refine returns_bind (returns_true _) fun b _ => ?_
  rcases b with msg | balance
  · exact returns_pure (recordOk_error _ _ _)
  -- the discovery pass, on the given sets with the access list cleared
  refine returns_bind (execute_recordOk ?_) fun ⟨res₁, db₁⟩ h₁ => ?_
  · rintro r hr
    obtain ⟨r₀, hr₀, rfl⟩ := Option.mem_map.1 hr
    exact hrecord r₀ hr₀
  rcases res₁ with err | r₁
  · exact returns_pure (recordOk_error _ _ _)
  -- the accounting pass, on the discovery pass's record
  exact returns_bind (execute_recordOk (sets_nodup (h₁ r₁ rfl) id ⟨rfl, rfl⟩))
    fun _ h₂ => returns_pure (recordOk_map h₂)

theorem unoptimalSimulation_recordOk {sim : Simulation} {db : StateDB}
    {recordInitializer : Option RecordToInitiateState}
    (hrecord : ∀ r ∈ recordInitializer, r.addressCodeSet.Nodup ∧ r.addressBalanceSet.Nodup) :
    Returns (RecordOk SimulationResult.record)
      (unoptimalSimulation remote fuel sim db recordInitializer) := by
  unfold unoptimalSimulation
  refine returns_bind (returns_true _) fun c _ => ?_
  rcases c with msg | code
  · exact returns_pure (recordOk_error _ _ _)
  refine returns_bind (returns_true _) fun b _ => ?_
  rcases b with msg | balance
  · exact returns_pure (recordOk_error _ _ _)
  exact returns_bind (execute_recordOk hrecord) fun _ h => returns_pure (recordOk_map h)

/-! ### Bundles -/

/-- What the discovery passes of a bundle return: access lists built by first touch, and
a carried record whose sets hold no address twice. -/
def DiscoveryOk (out : Except SimError (List AccessList × Option RecordToInitiateState) × StateDB) :
    Prop :=
  ∀ lists record, out.1 = .ok (lists, record) → (∀ l ∈ lists, l.FirstTouch) ∧
    ∀ r ∈ record, r.addressCodeSet.Nodup ∧ r.addressBalanceSet.Nodup

theorem bundleDiscovery_ok : ∀ (sims : List Simulation) (db : StateDB)
    (record : Option RecordToInitiateState),
    (∀ r ∈ record, r.addressCodeSet.Nodup ∧ r.addressBalanceSet.Nodup) →
    Returns DiscoveryOk (bundleDiscovery remote fuel sims db record)
  | [], db, record, hrecord => by
    intro log out log' h
    simp only [bundleDiscovery, EStateM.Result.ok.injEq] at h
    obtain ⟨rfl, -⟩ := h
    rintro lists record' ⟨⟩
    exact ⟨(fun _ h => nomatch h), hrecord⟩
  | sim :: sims, db, record, hrecord => by
    intro log out log' h
    simp only [bundleDiscovery] at h
    rcases hu : unoptimalSimulation remote fuel sim db record log
      with ⟨⟨err | res, db₁⟩, log₁⟩ | ⟨err, log₁⟩ <;> rw [hu] at h
    · cases h
      rintro _ _ ⟨⟩
    · have hres := unoptimalSimulation_recordOk hrecord _ _ _ hu res rfl
      rcases hb : bundleDiscovery remote fuel sims db₁ (some { res.record with accessList := [] })
          log₁ with ⟨⟨err | ⟨lists, record₂⟩, db₂⟩, log₂⟩ | ⟨err, log₂⟩ <;>
        simp only [hb, EStateM.Result.ok.injEq, reduceCtorEq] at h
      · obtain ⟨rfl, -⟩ := h
        rintro _ _ ⟨⟩
      · obtain ⟨rfl, -⟩ := h
        have ih := bundleDiscovery_ok sims db₁ _
          (sets_nodup hres (fun r => { r with accessList := [] }) ⟨rfl, rfl⟩) _ _ _ hb
          lists record₂ rfl
        rintro _ _ ⟨⟩
        refine ⟨fun l hl => ?_, ih.2⟩
        rcases List.mem_cons.1 hl with rfl | hl
        · exact hres.accessList
        · exact ih.1 l hl
    · cases h

/-- Every result of the accounting passes of a bundle carries a well-formed record, from a
carried record whose sets hold no address twice. -/
theorem bundleAccounting_ok : ∀ (pairs : List (Simulation × AccessList)) (db : StateDB)
    (record : RecordToInitiateState),
    record.addressCodeSet.Nodup ∧ record.addressBalanceSet.Nodup →
    Returns (fun out => ∀ results, out.1 = .ok results → ∀ r ∈ results, r.record.WellFormed)
      (bundleAccounting remote fuel pairs db record)
  | [], db, record, _ => by
    intro log out log' h
    simp only [bundleAccounting, EStateM.Result.ok.injEq] at h
    obtain ⟨rfl, -⟩ := h
    rintro _ ⟨⟩ _ hr
    exact nomatch hr
  | (sim, accessList) :: rest, db, record, hrecord => by
    intro log out log' h
    simp only [bundleAccounting] at h
    rcases hu : unoptimalSimulation remote fuel sim db (some { record with accessList }) log
      with ⟨⟨err | res, db₁⟩, log₁⟩ | ⟨err, log₁⟩ <;> rw [hu] at h
    · cases h
      rintro _ ⟨⟩
    · have hres := unoptimalSimulation_recordOk (by rintro r ⟨⟩; exact hrecord) _ _ _ hu res rfl
      rcases hb : bundleAccounting remote fuel rest (StateDB.open db₁.commit) res.record log₁
        with ⟨⟨err | results, db₂⟩, log₂⟩ | ⟨err, log₂⟩ <;>
        simp only [hb, EStateM.Result.ok.injEq, reduceCtorEq] at h
      · obtain ⟨rfl, -⟩ := h
        rintro _ ⟨⟩
      · obtain ⟨rfl, -⟩ := h
        have ih := bundleAccounting_ok rest _ _ ⟨hres.code_nodup, hres.balance_nodup⟩ _ _ _ hb
          results rfl
        rintro _ ⟨⟩ r hr
        rcases List.mem_cons.1 hr with rfl | hr
        · exact hres
        · exact ih r hr
    · cases h

/-- The records a bundle returns alias the final record's sets, each with a discovery
access list or its own: well formed when those are. -/
theorem aliasBundleRecords_wellFormed {final : RecordToInitiateState}
    (hfinal : final.addressCodeSet.Nodup ∧ final.addressBalanceSet.Nodup) :
    ∀ (lists : List AccessList) (results : List SimulationResult),
      (∀ l ∈ lists, l.FirstTouch) → (∀ r ∈ results, r.record.WellFormed) →
      ∀ r ∈ aliasBundleRecords final lists results, r.record.WellFormed
  | _, [], _, _ => fun _ h => nomatch h
  | lists, r :: rs, hl, hr => by
    simp only [aliasBundleRecords, List.mem_cons]
    rintro r' (rfl | hr')
    · refine ⟨hfinal.1, hfinal.2, ?_⟩
      split
      · exact hl _ (by simp)
      · exact (hr r (.head _)).accessList
    · exact aliasBundleRecords_wellFormed hfinal lists.tail rs
        (fun l hl' => hl l (List.mem_of_mem_tail hl')) (fun r hr'' => hr r (.tail _ hr'')) r' hr'

theorem simulateBundle_recordsOk {sims : List Simulation} {db : StateDB}
    {recordInitializer : Option RecordToInitiateState}
    (hrecord : ∀ r ∈ recordInitializer, r.addressCodeSet.Nodup ∧ r.addressBalanceSet.Nodup) :
    Returns (fun out => ∀ results, out.1 = .ok results → ∀ r ∈ results, r.record.WellFormed)
      (simulateBundle remote fuel sims db recordInitializer) := by
  unfold simulateBundle
  refine returns_bind (bundleDiscovery_ok sims db recordInitializer hrecord)
    fun ⟨res, db₁⟩ h₁ => ?_
  rcases res with err | ⟨lists, _ | record⟩
  · exact returns_pure fun _ h => nomatch h
  · exact fun _ _ _ h => nomatch h
  obtain ⟨hlists, hrec⟩ := h₁ lists (some record) rfl
  refine returns_bind (bundleAccounting_ok _ _ _ (hrec record rfl)) fun ⟨res₂, _⟩ h₂ => ?_
  rcases res₂ with err | results
  · exact returns_pure fun _ h => nomatch h
  -- the final record is the last result's, or the carried one for an empty bundle
  have hfinal : ((results.getLast?.map SimulationResult.record).getD record).addressCodeSet.Nodup ∧
      ((results.getLast?.map SimulationResult.record).getD record).addressBalanceSet.Nodup := by
    cases hlast : results.getLast? with
    | none => exact hrec record rfl
    | some r =>
      have := h₂ results rfl r (List.mem_of_getLast?_eq_some hlast)
      exact ⟨this.code_nodup, this.balance_nodup⟩
  refine returns_pure ?_
  rintro _ ⟨⟩
  exact aliasBundleRecords_wellFormed hfinal lists results hlists (h₂ results rfl)

end Entry

/-- From a record whose code and balance sets hold no address twice, every record a
successful `Execute`, `Simulate` or `SimulateBundle` returns is well formed: its code and
balance sets hold no address twice, and its access list is the first-touch grouping of a
duplicate-free list of touched pairs, so it names each address once and each slot once
within its entry. -/
theorem records_wellFormed (remote : Remote) (fuel : Nat) (db : StateDB)
    (record : Option RecordToInitiateState)
    (hrecord : ∀ r ∈ record, r.addressCodeSet.Nodup ∧ r.addressBalanceSet.Nodup)
    (log : List Request) :
    (∀ address originBalance code input cfg res db' log',
      (execute remote fuel address originBalance code input cfg db record).run log =
        .ok (.ok res, db') log' → res.record.WellFormed) ∧
    (∀ sim res db' log', (simulate remote fuel sim db record).run log = .ok (.ok res, db') log' →
      res.record.WellFormed) ∧
    (∀ sims results db' log', (simulateBundle remote fuel sims db record).run log =
      .ok (.ok results, db') log' → ∀ r ∈ results, r.record.WellFormed) :=
  ⟨fun _ _ _ _ _ res _ _ h => execute_recordOk hrecord log _ _ h res rfl,
    fun _ res _ _ h => simulate_recordOk hrecord log _ _ h res rfl,
    fun _ results _ _ h => simulateBundle_recordsOk hrecord log _ _ h results rfl⟩

/-- A call that loads slot 0 and stores slot 1 of its own address: `Simulate` returns the
access list naming the address once with both slots, and a well-formed record. -/
theorem records_wellFormed_sload_sstore :
    ∃ res db' log', (simulate (Remote.ofWorld fun _ => none) 20
        { fromAddr := 0xa, toAddr := 0x11, gasLimit := 100000, value := 0, input := [],
          code := [0x5f, 0x54, 0x50, 0x60, 0x07, 0x60, 0x01, 0x55, 0x00] }
        (StateDB.open fun _ => none) none).run [] = .ok (.ok res, db') log' ∧
      res.record.accessList = [⟨0x11, [0, 1]⟩] ∧ res.record.WellFormed :=
  (fun run => ⟨_, _, _, run, rfl,
    (records_wellFormed _ _ _ _ (fun _ h => by cases h) _).2.1 _ _ _ _ run⟩) rfl

end EvmSimulator
