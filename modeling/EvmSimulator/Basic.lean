import Mathlib

/-!
# Words, addresses, bytes and opcodes

The value types the simulator passes around. A stack item and a storage slot are
256-bit words (`uint256.Int`, `common.Hash`), an account is a 20-byte address
(`common.Address`), code, call input and return data are byte strings (`[]byte`).

`Word.toAddress` is `common.Address(w.Bytes20())`, the low 20 bytes of a word, which
is how the interpreter hooks read an address off the stack. `Word.toBytes32` and
`Word.ofBytes` are the big-endian conversions of `Bytes32()` and `SetBytes`, and
`getData` is the zero-padded window `CALLDATALOAD` reads. The opcode constants carry
their byte values from the jump table.
-/

namespace EvmSimulator

/-- A 256-bit word: a stack item, a storage slot or value, a balance. -/
abbrev Word := BitVec 256

/-- A 20-byte account address. -/
abbrev Address := BitVec 160

/-- A byte string. -/
abbrev Bytes := List UInt8

/-- `common.Address(w.Bytes20())`: the low 20 bytes of a word. -/
def Word.toAddress (w : Word) : Address := w.setWidth 160

/-- An address as a word, zero-extended. -/
def Address.toWord (a : Address) : Word := a.setWidth 256

@[simp] theorem Word.toAddress_toWord (a : Address) : a.toWord.toAddress = a := by
  apply BitVec.eq_of_toNat_eq
  simp [Word.toAddress, Address.toWord, Nat.mod_eq_of_lt a.isLt]

/-- Big-endian value of a byte string. -/
def bytesToNat (bs : Bytes) : Nat :=
  bs.foldl (fun acc b => acc * 256 + b.toNat) 0

/-- `SetBytes`: the word whose big-endian bytes end in `bs`. -/
def Word.ofBytes (bs : Bytes) : Word := BitVec.ofNat 256 (bytesToNat bs)

/-- `Bytes32()`: the 32 big-endian bytes of a word. -/
def Word.toBytes32 (w : Word) : Bytes :=
  (List.range 32).map fun i => UInt8.ofNat (w.toNat / 256 ^ (31 - i))

/-- The big-endian bytes of a word without its leading zeros (`Bytes()`). -/
def Word.significantBytes (w : Word) : Bytes := w.toBytes32.dropWhile (· == 0)

@[simp] theorem Word.length_toBytes32 (w : Word) : w.toBytes32.length = 32 := by
  simp [Word.toBytes32]

/-- `getData`: `size` bytes of `data` from `start`, zero-padded on the right. -/
def getData (data : Bytes) (start size : Nat) : Bytes :=
  let window := (data.drop start).take size
  window ++ List.replicate (size - window.length) 0

@[simp] theorem length_getData (data : Bytes) (start size : Nat) :
    (getData data start size).length = size := by
  simp only [getData, List.length_append, List.length_replicate]
  have : ((data.drop start).take size).length ≤ size := List.length_take_le _ _
  omega

/-- Overwrite `store` with `bs` from `off`; `store` is long enough after a resize. -/
def writeBytes (store : Bytes) (off : Nat) (bs : Bytes) : Bytes :=
  store.take off ++ bs ++ store.drop (off + bs.length)

/-! ## Opcodes -/

/-- An opcode byte. -/
abbrev OpCode := UInt8

def STOP : OpCode := 0x00
def ADD : OpCode := 0x01
def SUB : OpCode := 0x03
def LT : OpCode := 0x10
def GT : OpCode := 0x11
def EQ : OpCode := 0x14
def ISZERO : OpCode := 0x15
def ADDRESS : OpCode := 0x30
def BALANCE : OpCode := 0x31
def CALLER : OpCode := 0x33
def CALLVALUE : OpCode := 0x34
def CALLDATALOAD : OpCode := 0x35
def CALLDATASIZE : OpCode := 0x36
def EXTCODESIZE : OpCode := 0x3b
def EXTCODECOPY : OpCode := 0x3c
def RETURNDATASIZE : OpCode := 0x3d
def EXTCODEHASH : OpCode := 0x3f
def SELFBALANCE : OpCode := 0x47
def POP : OpCode := 0x50
def MLOAD : OpCode := 0x51
def MSTORE : OpCode := 0x52
def SLOAD : OpCode := 0x54
def SSTORE : OpCode := 0x55
def JUMP : OpCode := 0x56
def JUMPI : OpCode := 0x57
def GAS : OpCode := 0x5a
def JUMPDEST : OpCode := 0x5b
def PUSH0 : OpCode := 0x5f
def PUSH1 : OpCode := 0x60
def PUSH2 : OpCode := 0x61
def PUSH32 : OpCode := 0x7f
def DUP1 : OpCode := 0x80
def SWAP1 : OpCode := 0x90
def CALL : OpCode := 0xf1
def CALLCODE : OpCode := 0xf2
def RETURN : OpCode := 0xf3
def DELEGATECALL : OpCode := 0xf4
def STATICCALL : OpCode := 0xfa
def REVERT : OpCode := 0xfd

/-- Number of immediate bytes of a `PUSHn` (zero for every other opcode). -/
def pushWidth (op : OpCode) : Nat :=
  if PUSH1 ≤ op ∧ op ≤ PUSH32 then op.toNat - PUSH1.toNat + 1 else 0

/-- `contract.GetOp(pc)`: the byte at `pc`, or `STOP` past the end of the code. -/
def getOp (code : Bytes) (pc : Nat) : OpCode := code.getD pc STOP

/-- Offsets of the code that are opcodes rather than `PUSH` immediates, from `pc`. -/
def opcodeOffsets : Nat → Bytes → Nat → List Nat
  | 0, _, _ => []
  | fuel + 1, code, pc =>
    if pc < code.length then
      pc :: opcodeOffsets fuel code (pc + 1 + pushWidth (getOp code pc))
    else []

/-- `validJumpdest`: the destination is a `JUMPDEST` opcode, not push data. -/
def validJumpdest (code : Bytes) (dest : Word) : Bool :=
  getOp code dest.toNat == JUMPDEST && dest.toNat < code.length &&
    (opcodeOffsets code.length code 0).contains dest.toNat

end EvmSimulator
