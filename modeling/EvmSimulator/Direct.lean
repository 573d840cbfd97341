import EvmSimulator.Requests

/-!
# The direct execution the simulator predicts

What `Simulate` and `SimulateBundle` are meant to predict: the message call executed
directly on the chain state at the block, by the plain EVM on a complete state (no
hooks), with the value moving along and no gas bought (`directCall`); a bundle is its
calls one after another, each on the state the previous ones left (`directBundle`).

`directCall_transfer` says what the reference does with a plain transfer: a sender that
covers the value pays it, and the call succeeds with all its gas. `Simulate` rejects such
a transfer when the sender's whole balance is sent, and `SimulateBundle` when the
balance is below twice the value: its accounting pass starts from the balance the
discovery pass left. A contract that forwards value from its on-chain balance succeeds
directly, but under `Simulate` its balance is never fetched and the transfer fails
(`simulate_contract_transfer_fails`).
-/

namespace EvmSimulator

/-- The message call of `sim` executed directly on `db` by the plain EVM: the target's
code is `Simulation.Code` when given, the warm sets are the transaction's, the gas is
the simulator's gas limit, the value moves with the call. -/
def directCall (fuel : Nat) (sim : Simulation) (db : StateDB) :
    Except Abort (RunResult × StateDB) :=
  let db := if sim.code.isEmpty then db
    else
      (if db.exist sim.toAddr then db else db.createAccount sim.toAddr).setCode sim.toAddr sim.code
  let db := db.prepare sim.fromAddr 0 sim.toAddr []
  match mustFromBig sim.value with
  | .error err => .error err
  | .ok value =>
    let cfg := (configFromSimulation sim).setDefaults
    match callFromOrigin noHooks fuel cfg.env sim.toAddr sim.input cfg.gasLimit value
        (Evm.init db none []) with
    | .ok r e => .ok (r, e.stateDB)
    | .error err _ => .error err

/-- The calls of a bundle one after another from `db`, each on the committed state the
previous ones left: their return data, or `none` once a call fails. -/
def directBundle (fuel : Nat) : List Simulation → StateDB → Except Abort (Option (List Bytes))
  | [], _ => .ok (some [])
  | sim :: sims, db =>
    match directCall fuel sim db with
    | .error err => .error err
    | .ok (r, db) =>
      if r.err.isSome then .ok none
      else (directBundle fuel sims (StateDB.open db.commit)).map (Option.map (r.ret :: ·))

/-- A plain transfer to an address without code: a sender that covers the value pays it
and the call succeeds, returning nothing and all its gas. -/
theorem directCall_transfer (fuel : Nat) (sim : Simulation) (db : StateDB)
    (hcode : sim.code = []) (hempty : db.getCode sim.toAddr = [])
    (hsmall : sim.value.natAbs < 2 ^ 256)
    (hcovers : BitVec.ofInt 256 sim.value ≤ db.getBalance sim.fromAddr) :
    ∃ db', directCall fuel sim db
      = .ok (⟨[], none, (configFromSimulation sim).setDefaults.gasLimit⟩, db') := by
  have hv : mustFromBig sim.value = .ok (BitVec.ofInt 256 sim.value) := by
    simp only [mustFromBig, hsmall, if_true]; rfl
  obtain ⟨db', hcall⟩ := @evmCall_transfer_of_code_empty
    (Context.ofTx (configFromSimulation sim).setDefaults.env) sim.toAddr sim.input
    (configFromSimulation sim).setDefaults.gasLimit (BitVec.ofInt 256 sim.value)
    (db.prepare sim.fromAddr 0 sim.toAddr []) hempty (by simp [Context.ofTx, callCreateDepth])
    (fun h => absurd hcovers (BitVec.not_le.2 (by simpa [Context.ofTx, Config.env] using h.2)))
  refine ⟨db', ?_⟩
  simp only [directCall, hcode, List.isEmpty_nil, if_true, hv, callFromOrigin, Evm.init]
  rw [hcall]
  rfl

/-- Sending the whole balance, 5, to an address without code: the direct call succeeds,
`Simulate` rejects it. -/
theorem simulate_rejects_direct_transfer :
    (directCall 20
        { fromAddr := 0xa, toAddr := 0x11, gasLimit := 100000, value := 5, input := [], code := [] }
        (StateDB.open fun a => if a = 0xa then some { balance := 5 } else none)).toOption.map
      (·.1.err.isNone) = some true ∧
    ((simulate (Remote.ofWorld fun a => if a = 0xa then some { balance := 5 } else none) 20
        { fromAddr := 0xa, toAddr := 0x11, gasLimit := 100000, value := 5, input := [], code := [] }
        (StateDB.open fun _ => none) none).run' []).map (·.1.toBool) = some false := by
  decide

/-- Sending 2 of a balance of 3 to an address without code, as a one-transaction bundle:
the direct call succeeds, `SimulateBundle` rejects it, its accounting pass seeing the
balance 1 the discovery pass left. -/
theorem simulateBundle_rejects_direct_bundle :
    (directBundle 20
        [{ fromAddr := 0xa, toAddr := 0x11, gasLimit := 100000, value := 2, input := [], code := [] }]
        (StateDB.open fun a => if a = 0xa then some { balance := 3 } else none)).toOption
      = some (some [[]]) ∧
    ((simulateBundle (Remote.ofWorld fun a => if a = 0xa then some { balance := 3 } else none) 20
        [{ fromAddr := 0xa, toAddr := 0x11, gasLimit := 100000, value := 2, input := [], code := [] }]
        (StateDB.open fun _ => none) none).run' []).map (·.1.toBool) = some false := by
  decide

/-- A contract holding 5 on chain forwards 1 to `0x22` and returns the `CALL`'s success
flag. The direct call transfers and returns 1; under `Simulate` the contract's balance is
never fetched (only the origin is funded and only callees are topped up), so its `CALL`
fails for insufficient balance and it returns 0. -/
theorem simulate_contract_transfer_fails :
    (directCall 20
        { fromAddr := 0xa, toAddr := 0x11, gasLimit := 100000, value := 0, input := [], code := [] }
        (StateDB.open fun a => if a = 0x11 then some { balance := 5, code := [0x5f, 0x5f, 0x5f,
          0x5f, 0x60, 0x01, 0x60, 0x22, 0x5a, 0xf1, 0x5f, 0x52, 0x60, 0x20, 0x5f, 0xf3] }
          else none)).toOption.map (·.1.ret) = some (1 : Word).toBytes32 ∧
    ((simulate (Remote.ofWorld fun a => if a = 0x11 then some { balance := 5, code := [0x5f,
          0x5f, 0x5f, 0x5f, 0x60, 0x01, 0x60, 0x22, 0x5a, 0xf1, 0x5f, 0x52, 0x60, 0x20, 0x5f,
          0xf3] } else none) 20
        { fromAddr := 0xa, toAddr := 0x11, gasLimit := 100000, value := 0, input := [], code := [] }
        (StateDB.open fun _ => none) none).run' []).bind
      (fun (res, _) => res.toOption.map (·.returnedData)) = some (0 : Word).toBytes32 := by
  decide

end EvmSimulator
