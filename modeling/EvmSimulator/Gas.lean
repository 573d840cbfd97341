import EvmSimulator.StateDB

/-!
# The gas schedule

The part of the Cancun gas schedule the modelled opcodes use: memory expansion
(`memoryGasCost`), the EIP-2929 warm and cold surcharges, the EIP-2200 storage write
cost with the EIP-3529 refunds (`sstoreCost`), and the EIP-150 all-but-one-64th rule for
the gas a call forwards (`callGas`). `calcMemSize64` is the overflow-checked size of a
memory region read off the stack, and `intrinsicGas` the fixed charge of a transaction.

Gas is `uint64` in the source. The quantities here stay below `2 ^ 64` wherever the
source relies on it; where the source computes with a possible wrap, so does the model
(`callGas`).
-/

namespace EvmSimulator

/-! ## Constants -/

def warmStorageReadCostEIP2929 : Nat := 100
def coldSloadCostEIP2929 : Nat := 2100
def coldAccountAccessCostEIP2929 : Nat := 2600
def sstoreSetGasEIP2200 : Nat := 20000
def sstoreResetGasEIP2200 : Nat := 5000
def sstoreSentryGasEIP2200 : Nat := 2300
def sstoreClearsScheduleRefundEIP3529 : Nat := 4800
def callValueTransferGas : Nat := 9000
def callNewAccountGas : Nat := 25000
def callStipend : Nat := 2300
def copyGas : Nat := 3
def callCreateDepth : Nat := 1024
def txGas : Nat := 21000
def txDataZeroGas : Nat := 4
def txDataNonZeroGasEIP2028 : Nat := 16
def txAccessListAddressGas : Nat := 2400
def txAccessListStorageKeyGas : Nat := 1900
def keccak256Gas : Nat := 30
def keccak256WordGas : Nat := 6
def expGas : Nat := 10
def expByteEIP158 : Nat := 50
def logGas : Nat := 375
def logTopicGas : Nat := 375
def logDataGas : Nat := 8
def selfdestructGasEIP150 : Nat := 5000
def createBySelfdestructGas : Nat := 25000
def createGas : Nat := 32000
def createDataGas : Nat := 200
def initCodeWordGas : Nat := 2
def maxCodeSize : Nat := 24576
def maxInitCodeSize : Nat := 49152

/-- `math.MaxUint64 + 1`. -/
def uint64Size : Nat := 2 ^ 64

/-! ## Memory -/

/-- `toWordSize`: 32-byte words covering `size` bytes. -/
def toWordSize (size : Nat) : Nat := (size + 31) / 32

/-- `calcMemSize64`: the end of the region `[off, off + len)`, `none` on overflow. -/
def calcMemSize64 (off len : Word) : Option Nat :=
  if len = 0 then some 0
  else if off.toNat + len.toNat < uint64Size then some (off.toNat + len.toNat)
  else none

/-- `memoryGasCost`: the fee for growing a memory of `memLen` bytes, of which
`lastGasCost` was paid, to `newMemSize` bytes, and the new `lastGasCost`. -/
def memoryGasCost (memLen lastGasCost newMemSize : Nat) : Option (Nat × Nat) :=
  if newMemSize = 0 then some (0, lastGasCost)
  else if 0x1FFFFFFFE0 < newMemSize then none
  else
    let words := toWordSize newMemSize
    if memLen < words * 32 then
      let total := words * 3 + words * words / 512
      some (total - lastGasCost, total)
    else some (0, lastGasCost)

/-! ## Storage -/

/-- The cost and refund change of an `SSTORE` of `value` over `current`, whose
committed value is `original` (EIP-2200 with the EIP-2929 and EIP-3529 changes), before
the cold surcharge. The refund change is `(add, sub)`. -/
def sstoreCost (original current value : Word) : Nat × Nat × Nat :=
  if current = value then (warmStorageReadCostEIP2929, 0, 0)
  else if original = current then
    if original = 0 then (sstoreSetGasEIP2200, 0, 0)
    else
      (sstoreResetGasEIP2200 - coldSloadCostEIP2929,
        if value = 0 then sstoreClearsScheduleRefundEIP3529 else 0, 0)
  else
    let clears : Nat × Nat :=
      if original ≠ 0 then
        if current = 0 then (0, sstoreClearsScheduleRefundEIP3529)
        else if value = 0 then (sstoreClearsScheduleRefundEIP3529, 0) else (0, 0)
      else (0, 0)
    let restores : Nat :=
      if original = value then
        if original = 0 then sstoreSetGasEIP2200 - warmStorageReadCostEIP2929
        else sstoreResetGasEIP2200 - coldSloadCostEIP2929 - warmStorageReadCostEIP2929
      else 0
    (warmStorageReadCostEIP2929, clears.1 + restores, clears.2)

/-! ## Calls -/

/-- `callGas` (EIP-150): all but one 64th of the gas left after `base`, capped by the
requested amount; the subtraction wraps as the source's `uint64` does. -/
def callGas (availableGas base : Nat) (callCost : Word) : Nat :=
  let available := (availableGas + uint64Size - base) % uint64Size
  let gas := available - available / 64
  if callCost.toNat < uint64Size ∧ callCost.toNat ≤ gas then callCost.toNat else gas

/-! ## Transactions -/

/-- `IntrinsicGas` of a message call: the base fee and the calldata bytes, checked for
`uint64` overflow (`none`, `ErrGasUintOverflow`), then the access list entries, added
unchecked. -/
def intrinsicGas (data : Bytes) (accessList : AccessList) : Option Nat :=
  let nz := (data.filter (· ≠ 0)).length
  let gas := txGas + nz * txDataNonZeroGasEIP2028 + (data.length - nz) * txDataZeroGas
  if uint64Size ≤ gas then none
  else some ((gas + accessList.length * txAccessListAddressGas +
    (accessList.map fun t => t.storageKeys.length).sum * txAccessListStorageKeyGas) % uint64Size)

end EvmSimulator
