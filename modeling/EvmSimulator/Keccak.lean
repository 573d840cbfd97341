import EvmSimulator.Basic

/-!
# Keccak-256

`crypto.Keccak256`, the hash behind code hashes and the EIP-55 address checksum: the
Keccak-f[1600] permutation on 25 little-endian 64-bit lanes, absorbing 136-byte blocks
with the original Keccak padding (`0x01 … 0x80`), squeezing the first 32 bytes.
-/

namespace EvmSimulator

namespace Keccak

/-- The round constants of the ι step. -/
def roundConstants : List UInt64 :=
  [0x0000000000000001, 0x0000000000008082, 0x800000000000808A, 0x8000000080008000,
   0x000000000000808B, 0x0000000080000001, 0x8000000080008081, 0x8000000000008009,
   0x000000000000008A, 0x0000000000000088, 0x0000000080008009, 0x000000008000000A,
   0x000000008000808B, 0x800000000000008B, 0x8000000000008089, 0x8000000000008003,
   0x8000000000008002, 0x8000000000000080, 0x000000000000800A, 0x800000008000000A,
   0x8000000080008081, 0x8000000000008080, 0x0000000080000001, 0x8000000080008008]

/-- The ρ rotation of lane `x + 5 y`. -/
def rotationOffsets : List Nat :=
  [0, 1, 62, 28, 27, 36, 44, 6, 55, 20, 3, 10, 43, 25, 39, 41, 45, 15, 21, 8, 18, 2, 61, 56, 14]

/-- Left rotation of a lane. -/
def rotl (v : UInt64) (n : Nat) : UInt64 :=
  if n = 0 then v else (v <<< n.toUInt64) ||| (v >>> (64 - n).toUInt64)

/-- Lane `(x, y)` of the state, coordinates taken mod 5. -/
def lane (s : List UInt64) (x y : Nat) : UInt64 := s.getD (x % 5 + 5 * (y % 5)) 0

def theta (s : List UInt64) : List UInt64 :=
  let c x := lane s x 0 ^^^ lane s x 1 ^^^ lane s x 2 ^^^ lane s x 3 ^^^ lane s x 4
  (List.range 25).map fun i => s.getD i 0 ^^^ c (i % 5 + 4) ^^^ rotl (c (i % 5 + 1)) 1

/-- ρ and π: lane `(x, y)` rotated lands at `(y, 2x + 3y)`. -/
def rhoPi (s : List UInt64) : List UInt64 :=
  (List.range 25).map fun j =>
    let y := j % 5
    let x := (3 * (j / 5) + y) % 5
    rotl (lane s x y) (rotationOffsets.getD (x + 5 * y) 0)

def chi (s : List UInt64) : List UInt64 :=
  (List.range 25).map fun i =>
    lane s (i % 5) (i / 5) ^^^ (~~~lane s (i % 5 + 1) (i / 5) &&& lane s (i % 5 + 2) (i / 5))

/-- Keccak-f[1600]. -/
def permute (s : List UInt64) : List UInt64 :=
  roundConstants.foldl (fun s rc => match chi (rhoPi (theta s)) with
    | a :: rest => (a ^^^ rc) :: rest
    | [] => []) s

/-- Eight little-endian bytes as a lane. -/
def laneOfBytes (bs : Bytes) : UInt64 :=
  bs.foldr (fun b acc => acc <<< 8 ||| b.toUInt64) 0

/-- The bytes of a block as its 17 lanes. -/
def blockLanes (block : Bytes) : List UInt64 :=
  (List.range 17).map fun i => laneOfBytes ((block.drop (8 * i)).take 8)

/-- Absorb whole 136-byte blocks; `fuel` bounds the number of blocks. -/
def absorb : Nat → List UInt64 → Bytes → List UInt64
  | 0, s, _ => s
  | fuel + 1, s, msg =>
    if msg.isEmpty then s
    else
      let s := List.zipWith (· ^^^ ·) s (blockLanes (msg.take 136) ++ List.replicate 8 0)
      absorb fuel (permute s) (msg.drop 136)

/-- The Keccak padding: `0x01`, zeros, and `0x80` in the block's last byte. -/
def pad (msg : Bytes) : Bytes :=
  let k := 135 - msg.length % 136
  if k = 0 then msg ++ [0x81] else msg ++ [0x01] ++ List.replicate (k - 1) 0 ++ [0x80]

end Keccak

open Keccak in
/-- `crypto.Keccak256` as a word (`common.BytesToHash`). -/
def keccak256 (msg : Bytes) : Word :=
  let padded := pad msg
  let s := absorb (padded.length / 136) (List.replicate 25 0) padded
  let out := (s.take 4).flatMap fun l =>
    (List.range 8).map fun i => (l >>> (8 * i).toUInt64).toUInt8
  Word.ofBytes out

end EvmSimulator
