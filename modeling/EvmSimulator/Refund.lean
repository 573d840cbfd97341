import EvmSimulator.Termination

/-!
# The refund counter never runs below zero

`SSTORE`'s gas function takes a clearing refund back (`SubRefund`) when it sets again a
slot that was cleared earlier in the transaction, and geth panics when the counter is
below it. This is the only abort of `dispatch`.

The refund invariant (`StateDB.RefundCovers`) says that the counter holds one clearing
refund for every cleared slot, one whose committed value is not zero and whose current
value is, and that an address without an account has no committed storage. `SSTORE`
keeps it and never takes back more than the counter holds (`gasSStore_keeps`); every
other write grows the state without clearing a slot (`StateDB.Grows`). So every step of
`dispatch` keeps it on the states it carries on with, enters a callee with or halts
successfully with, and never aborts on a state that holds it (`dispatch_keeps`); a failed
frame's state is dropped for its snapshot. Every run keeps it, for every hook that keeps
it (`run_keepsRefund`). The lazy fork's hooks are such hooks on the states they can
meet (`EvmSimulator.RefundFork`).
-/

namespace EvmSimulator

namespace StateDB

variable (db : StateDB)

/-- A slot cleared in this transaction: its committed value is not zero and its current
value is. Setting it again takes the clearing refund back. -/
def Cleared (k : Address × Word) : Prop :=
  db.getCommittedState k.1 k.2 ≠ 0 ∧ db.getState k.1 k.2 = 0

/-- The refund invariant: one clearing refund in the counter for every cleared slot, and
no committed storage at an address without an account. -/
structure RefundCovers : Prop where
  covers : ∀ T : Finset (Address × Word), (∀ k ∈ T, db.Cleared k) →
    sstoreClearsScheduleRefundEIP3529 * T.card ≤ db.refund
  committed_of_not_exist : ∀ a slot, db.exist a = false → db.getCommittedState a slot = 0

/-- The refund invariant of a run on the committed world `b`. -/
def RefundInv (b : World) : Prop := db.base = b ∧ db.RefundCovers

/-- `db'` keeps `db`'s committed world and accounts, clears no slot that `db` has not
cleared, and holds no smaller refund. -/
structure Grows (db' : StateDB) : Prop where
  base_eq : db'.base = db.base
  exist_mono : ∀ a, db.exist a = true → db'.exist a = true
  cleared_mono : ∀ k, db'.Cleared k → db.Cleared k
  refund_le : db.refund ≤ db'.refund

/-! ## Growing states -/

variable {db}

theorem Grows.refl : db.Grows db := ⟨rfl, fun _ h => h, fun _ h => h, le_rfl⟩

theorem Grows.trans {db₁ db₂ : StateDB} (h₁ : db.Grows db₁) (h₂ : db₁.Grows db₂) :
    db.Grows db₂ :=
  ⟨h₂.base_eq.trans h₁.base_eq, fun a h => h₂.exist_mono a (h₁.exist_mono a h),
    fun k h => h₁.cleared_mono k (h₂.cleared_mono k h), h₁.refund_le.trans h₂.refund_le⟩

theorem getCommittedState_of_base_eq {db' : StateDB} (h : db'.base = db.base) (a : Address)
    (slot : Word) : db'.getCommittedState a slot = db.getCommittedState a slot := by
  simp only [getCommittedState, h]

theorem Grows.refundCovers {db' : StateDB} (hg : db.Grows db') (h : db.RefundCovers) :
    db'.RefundCovers where
  covers T hT := (h.covers T fun k hk => hg.cleared_mono k (hT k hk)).trans hg.refund_le
  committed_of_not_exist a slot ha := by
    rw [getCommittedState_of_base_eq hg.base_eq]
    refine h.committed_of_not_exist a slot ?_
    cases hdb : db.exist a
    · rfl
    · rw [hg.exist_mono a hdb] at ha
      cases ha

theorem Grows.refundInv {b : World} {db' : StateDB} (hg : db.Grows db') (h : db.RefundInv b) :
    db'.RefundInv b :=
  ⟨hg.base_eq.trans h.1, hg.refundCovers h.2⟩

/-- A change of the warm sets or a larger refund grows the state. -/
theorem grows_of_accounts {db' : StateDB} (hb : db'.base = db.base)
    (ha : db'.accounts = db.accounts) (hr : db.refund ≤ db'.refund) : db.Grows db' :=
  ⟨hb, fun a h => by simpa only [exist, ha] using h, fun k h => by
    simpa only [Cleared, getCommittedState, getState, account, hb, ha] using h, hr⟩

/-- A write that keeps the account's storage grows the state. -/
theorem grows_update (a : Address) {f : Account → Account}
    (hf : ∀ acc, (f acc).storage = acc.storage) : db.Grows (db.update a f) := by
  refine ⟨rfl, fun b h => by simp [h], fun k h => ?_, le_rfl⟩
  by_cases hk : k.1 = a
  · simpa [Cleared, getCommittedState, getState, hk, hf] using h
  · simpa [Cleared, getCommittedState, getState, hk] using h

theorem grows_setBalance (a : Address) (v : Word) : db.Grows (db.setBalance a v) :=
  grows_update a fun _ => rfl

theorem grows_addBalance (a : Address) (v : Word) : db.Grows (db.addBalance a v) :=
  grows_setBalance a _

theorem grows_subBalance (a : Address) (v : Word) : db.Grows (db.subBalance a v) :=
  grows_setBalance a _

theorem grows_setCode (a : Address) (code : Bytes) : db.Grows (db.setCode a code) :=
  grows_update a fun _ => rfl

theorem grows_setNonce (a : Address) (n : Nat) : db.Grows (db.setNonce a n) :=
  grows_update a fun _ => rfl

theorem grows_addAddressToAccessList (a : Address) : db.Grows (db.addAddressToAccessList a) :=
  grows_of_accounts rfl rfl le_rfl

theorem grows_createContract (a : Address) : db.Grows (db.createContract a) :=
  grows_of_accounts rfl rfl le_rfl

theorem grows_selfDestruct6780 (a : Address) : db.Grows (db.selfDestruct6780 a) := by
  unfold selfDestruct6780
  split_ifs
  · exact (grows_setBalance a 0).trans (grows_of_accounts rfl rfl le_rfl)
  · exact .refl

theorem grows_setTransientState (a : Address) (key v : Word) :
    db.Grows (db.setTransientState a key v) :=
  grows_of_accounts rfl rfl le_rfl

theorem grows_prepare (sender coinbase dst : Address) (list : AccessList) :
    db.Grows (db.prepare sender coinbase dst list) :=
  grows_of_accounts rfl rfl le_rfl

/-- A fresh account where nothing is committed grows the state. -/
theorem grows_createAccount {a : Address} (h : ∀ slot, db.getCommittedState a slot = 0) :
    db.Grows (db.createAccount a) := by
  refine ⟨rfl, fun b hb => by simp [hb], fun k hk => ?_, le_rfl⟩
  by_cases hka : k.1 = a
  · exact absurd (hka ▸ h k.2) hk.1
  · simpa [Cleared, getCommittedState, getState, hka] using hk

/-- Creating an account where none exists keeps the invariant: a missing account has no
committed storage. -/
theorem RefundCovers.grows_createIfMissing (h : db.RefundCovers) (a : Address) :
    db.Grows (if db.exist a then db else db.createAccount a) := by
  split_ifs with hex
  · exact .refl
  · exact grows_createAccount fun slot => h.committed_of_not_exist a slot (Bool.eq_false_iff.2 hex)

/-- A store over a zero committed value grows the state. -/
theorem grows_setState {a : Address} {slot : Word} (h : db.getCommittedState a slot = 0)
    (v : Word) : db.Grows (db.setState a slot v) := by
  refine ⟨rfl, fun b hb => by simp [setState, hb], fun k hk => ?_, le_rfl⟩
  by_cases hka : k = (a, slot)
  · subst hka
    exact absurd h hk.1
  · have hne : ¬(k.1 = a ∧ k.2 = slot) := fun h' => hka (Prod.ext h'.1 h'.2)
    simpa [Cleared, getCommittedState, hne] using hk

/-! ## `SSTORE` -/

@[simp] theorem base_setState (a : Address) (slot v : Word) :
    (db.setState a slot v).base = db.base := rfl

theorem exist_setState (a b : Address) (slot v : Word) :
    (db.setState a slot v).exist b = (decide (b = a) || db.exist b) := by
  by_cases h : b = a <;> simp [setState, exist, h]

/-- A store changes whether the stored slot is cleared and leaves every other slot. -/
theorem cleared_setState {a : Address} {slot v : Word} {k : Address × Word} :
    (db.setState a slot v).Cleared k ↔
      if k = (a, slot) then db.getCommittedState a slot ≠ 0 ∧ v = 0 else db.Cleared k := by
  by_cases hk : k = (a, slot)
  · subst hk
    simp [Cleared, getCommittedState]
  · have hne : ¬(k.1 = a ∧ k.2 = slot) := fun h' => hk (Prod.ext h'.1 h'.2)
    simp [Cleared, getCommittedState, hk, hne]

/-- A store whose refund change takes back a clearing refund only from the cleared slot
it sets again, and that leaves the slot cleared only if it was or with a clearing refund
added, keeps the invariant and takes back no more than the counter holds. -/
theorem RefundCovers.sstore (h : db.RefundCovers) {a : Address} {slot value : Word}
    {add sub : Nat}
    (hsub : sub = 0 ∨
      sub = sstoreClearsScheduleRefundEIP3529 ∧ db.Cleared (a, slot) ∧ value ≠ 0)
    (hadd : db.getCommittedState a slot ≠ 0 → value = 0 →
      db.Cleared (a, slot) ∨ sstoreClearsScheduleRefundEIP3529 ≤ add) :
    ∃ db₁, db.subRefund sub = some db₁ ∧
      ((db₁.addRefund add).setState a slot value).RefundCovers := by
  have hle : sub ≤ db.refund := by
    rcases hsub with rfl | ⟨rfl, hk, -⟩
    · exact Nat.zero_le _
    · simpa using h.covers {(a, slot)} (by simpa using hk)
  refine ⟨_, if_pos hle, fun T hT => ?_, fun a' slot' ha' => ?_⟩
  · -- every member of `T` other than the stored slot was cleared before
    have hold : ∀ k ∈ T, k ≠ (a, slot) → db.Cleared k := fun k hk hne => by
      simpa [cleared_setState, hne] using hT k hk
    show sstoreClearsScheduleRefundEIP3529 * T.card ≤ db.refund - sub + add
    rcases hsub with rfl | ⟨rfl, hk, hv⟩
    · by_cases hmem : (a, slot) ∈ T
      · have hnew : db.getCommittedState a slot ≠ 0 ∧ value = 0 := by
          simpa [cleared_setState] using hT _ hmem
        rcases hadd hnew.1 hnew.2 with hk | hadd
        · have := h.covers T fun k hkT => by
            by_cases hne : k = (a, slot)
            · exact hne ▸ hk
            · exact hold k hkT hne
          omega
        · have hcard := Finset.card_erase_of_mem hmem
          have hpos := Finset.card_pos.2 ⟨_, hmem⟩
          have := h.covers (T.erase (a, slot)) fun k hkT =>
            hold k (Finset.mem_of_mem_erase hkT) (Finset.ne_of_mem_erase hkT)
          rw [hcard, Nat.mul_sub_one] at this
          omega
      · have := h.covers T fun k hkT => hold k hkT fun hne => hmem (hne ▸ hkT)
        omega
    · have hmem : (a, slot) ∉ T := fun hm => by
        have hnew := hT _ hm
        simp only [cleared_setState, if_true] at hnew
        exact hv hnew.2
      have := h.covers (insert (a, slot) T) fun k hkT => by
        rcases Finset.mem_insert.1 hkT with rfl | hkT
        · exact hk
        · exact hold k hkT fun hne => hmem (hne ▸ hkT)
      rw [Finset.card_insert_of_not_mem hmem, Nat.mul_succ] at this
      omega
  · rw [exist_setState, Bool.or_eq_false_iff] at ha'
    exact h.committed_of_not_exist a' slot' ha'.2

end StateDB

/-- The refund changes of `SSTORE`: it takes a clearing refund back only from a slot that
was cleared and that it sets to a nonzero value, and it leaves a slot with a nonzero
committed value at zero only when it found it at zero or adds a clearing refund. -/
theorem sstoreCost_refund (original current value : Word) :
    ((sstoreCost original current value).2.2 = 0 ∨
      (sstoreCost original current value).2.2 = sstoreClearsScheduleRefundEIP3529 ∧
        (original ≠ 0 ∧ current = 0) ∧ value ≠ 0) ∧
    (original ≠ 0 → value = 0 →
      (original ≠ 0 ∧ current = 0) ∨
        sstoreClearsScheduleRefundEIP3529 ≤ (sstoreCost original current value).2.1) := by
  unfold sstoreCost
  split_ifs <;> simp_all [eq_comm]

/-- A gas function that never aborts from `db`, each of whose states `R` holds of. -/
def GasFn.Keeps (dyn : GasFn) (db : StateDB) (R : StateDB → Prop) : Prop :=
  ∀ gas fee, ∃ r, dyn gas fee db = .ok r ∧
    ∀ cost aux db', r = some (cost, aux, db') → R db'

/-- `SSTORE`'s gas never takes back more refund than the counter holds, and the store
that follows it keeps the invariant. -/
theorem gasSStore_keeps {b : World} {db : StateDB} (h : db.RefundInv b) (self : Address)
    (slot value : Word) :
    (gasSStore self slot value).Keeps db fun db' => (db'.setState self slot value).RefundInv b := by
  intro gas fee
  unfold gasSStore
  by_cases hgas : gas ≤ sstoreSentryGasEIP2200
  · rw [if_pos hgas]
    exact ⟨none, rfl, fun _ _ _ h => nomatch h⟩
  rw [if_neg hgas]
  rcases hp : (if db.slotInAccessList self slot = true then (0, db)
      else (coldSloadCostEIP2929, db.addSlotToAccessList self slot)) with ⟨cold, db₀⟩
  have hg : db.Grows db₀ ∧ db₀.accounts = db.accounts := by
    split_ifs at hp <;> cases hp
    · exact ⟨.refl, rfl⟩
    · exact ⟨StateDB.grows_of_accounts rfl rfl le_rfl, rfl⟩
  have hcl : db₀.Cleared (self, slot) ↔ db.Cleared (self, slot) := by
    simp only [StateDB.Cleared, StateDB.getCommittedState, StateDB.getState, StateDB.account,
      hg.1.base_eq, hg.2]
  obtain ⟨hsub, hadd⟩ := sstoreCost_refund (db.getCommittedState self slot)
    (db.getState self slot) value
  obtain ⟨db₁, hdb₁, hkeep⟩ := @StateDB.RefundCovers.sstore _ (hg.1.refundCovers h.2)
    self slot value _ _ (hsub.imp_right fun ⟨h₁, h₂, h₃⟩ => ⟨h₁, hcl.2 h₂, h₃⟩)
    (fun ho hv => (hadd (by rwa [StateDB.getCommittedState_of_base_eq hg.1.base_eq] at ho)
      hv).imp_left hcl.2)
  refine ⟨_, by dsimp only; rw [hdb₁]; rfl, fun _ _ _ heq => ?_⟩
  cases heq
  refine ⟨?_, hkeep⟩
  have : db₁.base = db₀.base := by
    unfold StateDB.subRefund at hdb₁
    split_ifs at hdb₁
    cases hdb₁
    rfl
  exact this.trans (hg.1.base_eq.trans h.1)

/-! ## One step -/

section Step

variable {b : World}

/-- What a step keeps of the refund invariant on `b`: it holds of the state the step
carries on with or halts successfully with, and of the state it enters a callee with and
the snapshot. A failed halt's state is dropped for the snapshot. -/
def Step.KeepsRefund (b : World) : Step → Prop
  | .next _ db => db.RefundInv b
  | .halt r db => r.err = none → db.RefundInv b
  | .call _ _ db snapshot _ => db.RefundInv b ∧ snapshot.RefundInv b

/-- What a call plan keeps of the refund invariant on `b`. -/
def CallPlan.KeepsRefund (b : World) : CallPlan → Prop
  | .done _ db => db.RefundInv b
  | .enter _ _ db snapshot => db.RefundInv b ∧ snapshot.RefundInv b

theorem keepsRefund_fail (f : Frame) (db : StateDB) (err : VmError) (ret : Bytes) :
    (Step.fail f db err ret).KeepsRefund b := fun h => absurd h (Option.some_ne_none err)

theorem keepsRefund_ofPlan (resume : RunResult → Frame) :
    ∀ {p : CallPlan}, p.KeepsRefund b → (Step.ofPlan resume p).KeepsRefund b
  | .done _ _, h => h
  | .enter _ _ _ _, h => h

theorem accountAccess_grows (a : Address) (db : StateDB) : db.Grows (accountAccess a db).2 := by
  unfold accountAccess
  split_ifs
  · exact .refl
  · exact StateDB.grows_of_accounts rfl rfl le_rfl

theorem memoryOnly_keeps (db : StateDB) : memoryOnly.Keeps db db.Grows :=
  fun _ fee => ⟨_, rfl, fun _ _ _ h => by cases h; exact .refl⟩

theorem gasAccountCheck_keeps (a : Address) (db : StateDB) :
    (gasAccountCheck a).Keeps db db.Grows :=
  fun _ _ => ⟨_, rfl, fun _ _ _ h => by cases h; exact accountAccess_grows a db⟩

theorem gasSLoad_keeps (self : Address) (slot : Word) (db : StateDB) :
    (gasSLoad self slot).Keeps db db.Grows := by
  intro _ _
  refine ⟨_, rfl, fun _ _ _ h => ?_⟩
  split_ifs at h <;> cases h
  · exact .refl
  · exact StateDB.grows_of_accounts rfl rfl le_rfl

theorem perWordGas_keeps (perWord : Nat) (len : Word) (db : StateDB) :
    (perWordGas perWord len).Keeps db db.Grows := by
  intro _ _
  unfold perWordGas
  split_ifs
  · exact ⟨_, rfl, fun _ _ _ h => nomatch h⟩
  · exact ⟨_, rfl, fun _ _ _ h => by cases h; exact .refl⟩

theorem gasExp_keeps (exponent : Word) (db : StateDB) : (gasExp exponent).Keeps db db.Grows :=
  fun _ _ => ⟨_, rfl, fun _ _ _ h => by cases h; exact .refl⟩

theorem gasLog_keeps (topics : Nat) (size : Word) (db : StateDB) :
    (gasLog topics size).Keeps db db.Grows := by
  intro _ _
  unfold gasLog
  split_ifs
  · exact ⟨_, rfl, fun _ _ _ h => nomatch h⟩
  · exact ⟨_, rfl, fun _ _ _ h => by cases h; exact .refl⟩

theorem gasSelfdestruct_keeps (self beneficiary : Address) (db : StateDB) :
    (gasSelfdestruct self beneficiary).Keeps db db.Grows := by
  intro _ _
  unfold gasSelfdestruct
  split_ifs <;> exact ⟨_, rfl, fun _ _ _ h => by
    cases h; first | exact .refl | exact StateDB.grows_of_accounts rfl rfl le_rfl⟩

theorem gasCreate_keeps (perWord : Nat) (size : Word) (db : StateDB) :
    (gasCreate perWord size).Keeps db db.Grows := by
  intro _ _
  unfold gasCreate
  split_ifs
  · exact ⟨_, rfl, fun _ _ _ h => nomatch h⟩
  · exact ⟨_, rfl, fun _ _ _ h => by cases h; exact .refl⟩

theorem gasCallVariant_keeps (newAccount : Bool) (addr : Address) (value reqGas : Word)
    (db : StateDB) : (gasCallVariant newAccount addr value reqGas).Keeps db db.Grows := by
  intro gas fee
  simp only [gasCallVariant]
  split_ifs <;> exact ⟨_, rfl, fun _ _ _ h => by cases h <;> exact accountAccess_grows addr db⟩

/-- `withGas` keeps the invariant when its gas function never aborts and its
continuation keeps it on every state the gas function may return. -/
theorem withGas_keeps {f : Frame} {db : StateDB} {region : Option Nat} {dyn : GasFn}
    {k : Nat → Frame → StateDB → Except Abort Step} {R : StateDB → Prop}
    (hdyn : dyn.Keeps db R)
    (hk : ∀ aux f' db', R db' → ∃ s, k aux f' db' = .ok s ∧ s.KeepsRefund b) :
    ∃ s, withGas f db region dyn k = .ok s ∧ s.KeepsRefund b := by
  unfold withGas
  split
  · exact ⟨_, rfl, keepsRefund_fail _ _ _ _⟩
  · dsimp only
    split_ifs
    · exact ⟨_, rfl, keepsRefund_fail _ _ _ _⟩
    · split
      · exact ⟨_, rfl, keepsRefund_fail _ _ _ _⟩
      · next fee last _ =>
        obtain ⟨r, hr, hR⟩ := hdyn f.gas fee
        simp only [hr, bind, Except.bind]
        rcases r with _ | ⟨cost, aux, db'⟩
        · exact ⟨_, rfl, keepsRefund_fail _ _ _ _⟩
        · dsimp only
          split
          · exact ⟨_, rfl, keepsRefund_fail _ _ _ _⟩
          · exact hk aux _ db' (hR _ _ _ rfl)

section Calls

variable {db : StateDB} (h : db.RefundInv b) (ctx : Context) (addr : Address) (input : Bytes)
  (gas : Nat)
include h

theorem evmCall_keeps (value : Word) : (evmCall ctx addr input gas value db).KeepsRefund b := by
  have hg : (((if db.exist addr then db else db.createAccount addr).subBalance
      ctx.address value).addBalance addr value).RefundInv b :=
    ((h.2.grows_createIfMissing addr).trans ((StateDB.grows_subBalance _ _).trans
      (StateDB.grows_addBalance _ _))).refundInv h
  unfold evmCall
  dsimp only
  split_ifs at hg ⊢
  all_goals first | exact h | exact hg | exact ⟨hg, h⟩

theorem evmCallCode_keeps (value : Word) :
    (evmCallCode ctx addr input gas value db).KeepsRefund b := by
  unfold evmCallCode
  split_ifs <;> first | exact h | exact ⟨h, h⟩

theorem evmDelegateCall_keeps : (evmDelegateCall ctx addr input gas db).KeepsRefund b := by
  unfold evmDelegateCall
  split_ifs <;> first | exact h | exact ⟨h, h⟩

theorem evmStaticCall_keeps : (evmStaticCall ctx addr input gas db).KeepsRefund b := by
  unfold evmStaticCall
  split_ifs
  · exact h
  · exact ⟨(StateDB.grows_addBalance _ _).refundInv h, h⟩

/-- A create keeps the invariant on the state it enters the init code with and on the
snapshot: the sender's nonce and the warm address, then the new account, its nonce and the
value. -/
theorem evmCreate_keeps (value : Word) : (evmCreate ctx addr input gas value db).KeepsRefund b := by
  dsimp only [evmCreate]
  split
  · exact h
  split
  · exact h
  split
  · exact h
  have h₁ := ((StateDB.grows_setNonce ctx.address (db.getNonce ctx.address + 1)).trans
    (StateDB.grows_addAddressToAccessList addr)).refundInv h
  split
  · exact h₁
  · exact ⟨(((h₁.2.grows_createIfMissing addr).trans (StateDB.grows_createContract _)).trans
      ((StateDB.grows_setNonce _ _).trans ((StateDB.grows_subBalance _ _).trans
        (StateDB.grows_addBalance _ _)))).refundInv h₁, h₁⟩

end Calls

/-- Every instruction keeps the refund invariant and never aborts on a state that holds it:
`SSTORE` takes back no more refund than the counter holds. -/
theorem executeOp_keeps (instr : Instr) (ctx : Context) (f : Frame) {db : StateDB}
    (h : db.RefundInv b) : ∃ s, executeOp instr ctx f db = .ok s ∧ s.KeepsRefund b := by
  cases instr <;> dsimp only [executeOp]
  -- carrying on or halting at once
  case stop => exact ⟨_, rfl, fun _ => h⟩
  case invalid => exact ⟨_, rfl, keepsRefund_fail _ _ _ _⟩
  case arith | env | calldataload | blockhash | blobhash | pop | jumpdest | tload | push | dup
      | swap =>
    exact ⟨_, rfl, h⟩
  case jump | jumpi =>
    split_ifs
    all_goals first | exact ⟨_, rfl, h⟩ | exact ⟨_, rfl, keepsRefund_fail _ _ _ _⟩
  case tstore =>
    split_ifs
    · exact ⟨_, rfl, keepsRefund_fail _ _ _ _⟩
    · exact ⟨_, rfl, (StateDB.grows_setTransientState _ _ _).refundInv h⟩
  -- growing the state in the gas function
  case balance | extcodesize | extcodehash =>
    exact withGas_keeps (gasAccountCheck_keeps _ db) fun _ _ _ hg => ⟨_, rfl, hg.refundInv h⟩
  case mload | mstore | mstore8 =>
    exact withGas_keeps (memoryOnly_keeps db) fun _ _ _ hg => ⟨_, rfl, hg.refundInv h⟩
  case keccak256 | calldatacopy | codecopy | mcopy =>
    exact withGas_keeps (perWordGas_keeps _ _ db) fun _ _ _ hg => ⟨_, rfl, hg.refundInv h⟩
  case exp => exact withGas_keeps (gasExp_keeps _ db) fun _ _ _ hg => ⟨_, rfl, hg.refundInv h⟩
  case returndatacopy =>
    refine withGas_keeps (perWordGas_keeps _ _ db) fun _ _ _ hg => ?_
    split_ifs
    · exact ⟨_, rfl, keepsRefund_fail _ _ _ _⟩
    · exact ⟨_, rfl, hg.refundInv h⟩
  case log =>
    refine withGas_keeps (gasLog_keeps _ _ db) fun _ _ _ hg => ?_
    split_ifs
    · exact ⟨_, rfl, keepsRefund_fail _ _ _ _⟩
    · exact ⟨_, rfl, hg.refundInv h⟩
  case ret =>
    exact withGas_keeps (memoryOnly_keeps db) fun _ _ _ hg => ⟨_, rfl, fun _ => hg.refundInv h⟩
  case revert =>
    exact withGas_keeps (memoryOnly_keeps db) fun _ _ _ _ => ⟨_, rfl, keepsRefund_fail _ _ _ _⟩
  case selfdestruct =>
    refine withGas_keeps (gasSelfdestruct_keeps _ _ db) fun _ _ _ hg => ?_
    split_ifs
    · exact ⟨_, rfl, keepsRefund_fail _ _ _ _⟩
    · exact ⟨_, rfl, fun _ => ((StateDB.grows_subBalance _ _).trans
        ((StateDB.grows_addBalance _ _).trans (StateDB.grows_selfDestruct6780 _))).refundInv
        (hg.refundInv h)⟩
  case create | create2 =>
    refine withGas_keeps (gasCreate_keeps _ _ db) fun _ _ _ hg => ?_
    split_ifs
    · exact ⟨_, rfl, keepsRefund_fail _ _ _ _⟩
    · exact ⟨_, rfl, keepsRefund_ofPlan _ (evmCreate_keeps (hg.refundInv h) ..)⟩
  case extcodecopy =>
    refine withGas_keeps (show GasFn.Keeps _ db db.Grows from fun _ _ => ?_)
      fun _ _ _ hg => ⟨_, rfl, hg.refundInv h⟩
    split_ifs
    · exact ⟨_, rfl, fun _ _ _ h => nomatch h⟩
    · exact ⟨_, rfl, fun _ _ _ h => by cases h; exact accountAccess_grows _ db⟩
  case sload =>
    exact withGas_keeps (gasSLoad_keeps _ _ db) fun _ _ _ hg => ⟨_, rfl, hg.refundInv h⟩
  -- storage: the refund counter
  case sstore =>
    refine withGas_keeps (gasSStore_keeps h _ _ _) fun _ _ _ hs => ?_
    split_ifs
    · exact ⟨_, rfl, keepsRefund_fail _ _ _ _⟩
    · exact ⟨_, rfl, hs⟩
  -- calls
  case call =>
    refine withGas_keeps (gasCallVariant_keeps _ _ _ _ db) fun _ _ _ hg => ?_
    split_ifs <;> first
      | exact ⟨_, rfl, keepsRefund_fail _ _ _ _⟩
      | exact ⟨_, rfl, keepsRefund_ofPlan _ (evmCall_keeps (hg.refundInv h) ..)⟩
  case callcode =>
    exact withGas_keeps (gasCallVariant_keeps _ _ _ _ db) fun _ _ _ hg =>
      ⟨_, rfl, keepsRefund_ofPlan _ (evmCallCode_keeps (hg.refundInv h) ..)⟩
  case delegatecall =>
    exact withGas_keeps (gasCallVariant_keeps _ _ _ _ db) fun _ _ _ hg =>
      ⟨_, rfl, keepsRefund_ofPlan _ (evmDelegateCall_keeps (hg.refundInv h) ..)⟩
  case staticcall =>
    exact withGas_keeps (gasCallVariant_keeps _ _ _ _ db) fun _ _ _ hg =>
      ⟨_, rfl, keepsRefund_ofPlan _ (evmStaticCall_keeps (hg.refundInv h) ..)⟩

/-- Every iteration of `dispatch` keeps the refund invariant and never aborts on a state
that holds it. -/
theorem dispatch_keeps (op : OpCode) (ctx : Context) (f : Frame) {db : StateDB}
    (h : db.RefundInv b) : ∃ s, dispatch op ctx f db = .ok s ∧ s.KeepsRefund b := by
  dsimp only [dispatch]
  split_ifs <;> try split
  all_goals first | exact ⟨_, rfl, keepsRefund_fail _ _ _ _⟩ | exact executeOp_keeps _ ctx _ h

end Step

/-! ## Whole runs -/

section Run

variable {b : World} {Q : Interpreter → Prop} {E : Abort → Prop}

/-- How a computation's outcome keeps the refund invariant on `b` and `Q` of the fork
record: when it returns, both hold; it aborts only out of fuel or with an error `E`. -/
def RefundResult (b : World) (Q : Interpreter → Prop) (E : Abort → Prop) {α : Type} :
    EStateM.Result Abort Evm α → Prop
  | .ok _ e => Q e.interpreter ∧ e.stateDB.RefundInv b
  | .error err _ => err = .outOfFuel ∨ E err

/-- A run's outcome: when it returns, `Q` holds and, if the frame succeeded, the refund
invariant; a failed frame's state is dropped for its snapshot. It aborts only out of fuel
or with an error `E`. -/
def RunRefundResult (b : World) (Q : Interpreter → Prop) (E : Abort → Prop) :
    EStateM.Result Abort Evm RunResult → Prop
  | .ok r e => Q e.interpreter ∧ (r.err = none → e.stateDB.RefundInv b)
  | .error err _ => err = .outOfFuel ∨ E err

/-- A hook that keeps the refund invariant on `b` and `Q`, and aborts only with `E`. -/
def Hook.KeepsRefund (b : World) (Q : Interpreter → Prop) (E : Abort → Prop) (hook : Hook) :
    Prop :=
  ∀ op a stack (e : Evm), Q e.interpreter → e.stateDB.RefundInv b →
    RefundResult b Q E (hook op a stack e)

theorem settle_keepsRefund {snapshot : StateDB} (hsnap : snapshot.RefundInv b) (r : RunResult)
    (db : StateDB) {e : Evm} (hQ : Q e.interpreter) (hdb : r.err = none → db.RefundInv b) :
    RefundResult b Q E (settle snapshot r db e) := by
  unfold settle
  split
  · next hnone => exact ⟨hQ, hdb hnone⟩
  · exact ⟨hQ, hsnap⟩

/-- Depositing a deployment's code keeps the invariant of a successful init code. -/
theorem deposit_refundInv (addr : Address) {r : RunResult} {db : StateDB}
    (h : r.err = none → db.RefundInv b) :
    (deposit addr r db).1.err = none → (deposit addr r db).2.RefundInv b := by
  unfold deposit
  split
  · exact h
  · next hnone =>
    dsimp only
    split_ifs
    all_goals first
      | exact fun _ => (StateDB.grows_setCode _ _).refundInv (h hnone)
      | rintro ⟨⟩

/-- A callee whose run keeps the invariant is settled on a state that holds it: its own
on success, the snapshot on failure. -/
theorem enterCallee_keepsRefund {runCode : Context → Frame → ForkM RunResult}
    {callee : Context} {gas : Nat} {db snapshot : StateDB} (hdb : db.RefundInv b)
    (hsnap : snapshot.RefundInv b)
    (hrun : ∀ e : Evm, Q e.interpreter → e.stateDB.RefundInv b →
      RunRefundResult b Q E (runCode callee { gas } e))
    (e : Evm) (he : Q e.interpreter) :
    RefundResult b Q E (enterCallee runCode callee gas db snapshot e) := by
  have hres : RunRefundResult b Q E (if callee.code.isEmpty then
      .ok ⟨[], none, gas⟩ (e.withStateDB db)
    else runCode callee { gas } (e.withStateDB db)) := by
    split
    · exact ⟨he, fun _ => hdb⟩
    · exact hrun _ he hdb
  simp only [enterCallee]
  split
  · next r e' h =>
    rw [h] at hres
    split
    · exact settle_keepsRefund hsnap _ _ hres.1 (deposit_refundInv _ hres.2)
    · exact settle_keepsRefund hsnap _ _ hres.1 hres.2
  · next err e' h => rwa [h] at hres

variable {hook : Hook} (hhook : hook.KeepsRefund b Q E)
include hhook

/-- Every run from a state that holds the refund invariant keeps it, and aborts only out
of fuel or as its hook does: `dispatch` never aborts on such a state. -/
theorem run_keepsRefund : ∀ (fuel : Nat) (ctx : Context) (f : Frame) (e : Evm),
    Q e.interpreter → e.stateDB.RefundInv b → RunRefundResult b Q E (run hook fuel ctx f e)
  | 0, _, _, _, _, _ => .inl rfl
  | fuel + 1, ctx, f, e, hQ, hinv => by
    simp only [run]
    have hh := hhook (getOp ctx.code f.pc) ctx.address f.stack e hQ hinv
    rcases hk : hook (getOp ctx.code f.pc) ctx.address f.stack e
      with ⟨_ | msg, e₁⟩ | ⟨err, e₁⟩ <;> rw [hk] at hh
    · -- the hook lets the opcode through
      obtain ⟨hQ₁, hinv₁⟩ := hh
      obtain ⟨s, hs, hkeep⟩ := dispatch_keeps (getOp ctx.code f.pc) ctx f hinv₁
      dsimp only
      rw [hs]
      rcases s with ⟨f', db⟩ | ⟨r, db⟩ | ⟨callee, gas, db, snapshot, resume⟩
      · exact run_keepsRefund fuel ctx f' _ hQ₁ hkeep
      · exact ⟨hQ₁, hkeep⟩
      · have hcallee := @enterCallee_keepsRefund b Q E (run hook fuel) callee gas db snapshot
          hkeep.1 hkeep.2 (run_keepsRefund fuel callee { gas }) e₁ hQ₁
        dsimp only
        rcases hc : enterCallee (run hook fuel) callee gas db snapshot e₁
          with ⟨r, e₂⟩ | ⟨err, e₂⟩ <;> rw [hc] at hcallee
        · exact run_keepsRefund fuel ctx (resume r) e₂ hcallee.1 hcallee.2
        · exact hcallee
    · -- the hook's error ends the frame
      exact ⟨hh.1, fun h => nomatch h⟩
    · exact hh

/-- The outermost call from a state that holds the refund invariant returns on a state
that holds it, or aborts out of fuel or as its hook does. -/
theorem callFromOrigin_keepsRefund (fuel : Nat) (env : Env) (addr : Address) (input : Bytes)
    (gas : Nat) (value : Word) (e : Evm) (hQ : Q e.interpreter) (hinv : e.stateDB.RefundInv b) :
    RefundResult b Q E (callFromOrigin hook fuel env addr input gas value e) := by
  unfold callFromOrigin
  have hplan := evmCall_keeps hinv (Context.ofTx env) addr input gas value
  rcases hp : evmCall (Context.ofTx env) addr input gas value e.stateDB
    with ⟨r, db⟩ | ⟨callee, gas', db, snapshot⟩ <;> rw [hp] at hplan
  · exact ⟨hQ, hplan⟩
  · exact enterCallee_keepsRefund hplan.1 hplan.2 (run_keepsRefund hhook fuel callee _) e hQ

end Run

end EvmSimulator
