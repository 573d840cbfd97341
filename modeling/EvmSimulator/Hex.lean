import EvmSimulator.Keccak

/-!
# Hex strings

A Go string is a byte string, here `Bytes`. The hex helpers the simulator's storage keys
and its RPC client go through:

* `hexEncode` and `hexDecodeString` are `encoding/hex`'s `Encode` (lower case) and
  `DecodeString`, which stops at the first bad digit, or at an odd last digit, and
  returns the bytes decoded so far with the error;
* `has0xPrefix`, `fromHex`, `hexToHash` and `hexToAddress` are go-ethereum's lenient
  `common` helpers: they drop a `0x`, pad an odd length, ignore what does not decode and
  keep the last 32 (20) bytes;
* `Word.hex` is `common.Hash.Hex()`, and `Address.hex` is `common.Address.Hex()`, the
  EIP-55 checksummed form: a letter digit is upper-cased where the Keccak-256 hash of the
  lower-case digits has a nibble above 7 (`checksumDigit`).

Decoding reads either case, so the checksum never changes what a string decodes to:
`hexToAddress a.hex = a` and `hexToHash w.hex = w` for every address and word, whatever
the hash (`hexDecodeString_checksum`).
-/

namespace EvmSimulator

/-! ## Big-endian bytes -/

/-- `a[:]`: the 20 big-endian bytes of an address. -/
def Address.toBytes20 (a : Address) : Bytes :=
  (List.range 20).map fun i => UInt8.ofNat (a.toNat / 256 ^ (19 - i))

theorem toNat_uint8_ofNat (n : Nat) : (UInt8.ofNat n).toNat = n % 256 := rfl

theorem uint8_ofNat_toNat (b : UInt8) : UInt8.ofNat b.toNat = b :=
  UInt8.ext (by rw [toNat_uint8_ofNat, Nat.mod_eq_of_lt b.toNat_lt])

/-- The `k` big-endian bytes of a number below `256 ^ k` read back as that number. -/
theorem bytesToNat_bigEndian : ∀ (k n : Nat), n < 256 ^ k →
    bytesToNat ((List.range k).map fun i => UInt8.ofNat (n / 256 ^ (k - 1 - i))) = n
  | 0, n, h => by simp_all [bytesToNat]
  | k + 1, n, h => by
    have hdigits : ((List.range k).map fun i => UInt8.ofNat (n / 256 ^ (k - i))) =
        (List.range k).map fun i => UInt8.ofNat (n / 256 / 256 ^ (k - 1 - i)) :=
      List.map_congr_left fun i hi => by
        have hi : k - i = k - 1 - i + 1 := by have := List.mem_range.1 hi; omega
        rw [hi, pow_succ', ← Nat.div_div_eq_div_mul]
    have ih := bytesToNat_bigEndian k (n / 256) (by rw [pow_succ] at h; omega)
    simp only [List.range_succ, List.map_append, List.map_singleton, hdigits, bytesToNat,
      List.foldl_append, List.foldl_cons, List.foldl_nil, Nat.add_sub_cancel, Nat.sub_self,
      pow_zero, Nat.div_one] at ih ⊢
    rw [ih, toNat_uint8_ofNat]
    omega

@[simp] theorem Word.ofBytes_toBytes32 (w : Word) : Word.ofBytes w.toBytes32 = w := by
  apply BitVec.eq_of_toNat_eq
  have h := bytesToNat_bigEndian 32 w.toNat w.isLt
  simp only [Word.ofBytes, Word.toBytes32, BitVec.toNat_ofNat]
  rw [show (32 - 1 : Nat) = 31 from rfl] at h
  rw [h, Nat.mod_eq_of_lt w.isLt]

@[simp] theorem length_toBytes20 (a : Address) : a.toBytes20.length = 20 := by
  simp [Address.toBytes20]

/-! ## `encoding/hex` -/

/-- The lower-case digit of a value below 16 (`hextable`). -/
def hexDigit (n : Nat) : UInt8 := if n < 10 then UInt8.ofNat (48 + n) else UInt8.ofNat (87 + n)

/-- `hex.Encode`: two lower-case digits per byte, high half first. -/
def hexEncode (bs : Bytes) : Bytes :=
  bs.flatMap fun b => [hexDigit (b.toNat / 16), hexDigit (b.toNat % 16)]

@[simp] theorem hexEncode_nil : hexEncode [] = [] := rfl

@[simp] theorem hexEncode_cons (b : UInt8) (bs : Bytes) :
    hexEncode (b :: bs) = hexDigit (b.toNat / 16) :: hexDigit (b.toNat % 16) :: hexEncode bs :=
  rfl

/-- The value of a digit of either case; `none` for any other byte (`reverseHexTable`). -/
def hexValue (c : UInt8) : Option Nat :=
  if 48 ≤ c.toNat ∧ c.toNat ≤ 57 then some (c.toNat - 48)
  else if 97 ≤ c.toNat ∧ c.toNat ≤ 102 then some (c.toNat - 87)
  else if 65 ≤ c.toNat ∧ c.toNat ≤ 70 then some (c.toNat - 55)
  else none

/-- The errors of `hex.DecodeString`: `InvalidByteError` and `ErrLength`. -/
inductive HexError where
  | invalidByte (c : UInt8)
  | length
  deriving DecidableEq

/-- `hex.DecodeString`: the bytes of the digit pairs before the first bad digit or an odd
last digit, and the error that stopped it. -/
def hexDecodeString : Bytes → Bytes × Option HexError
  | [] => ([], none)
  | [p] => ([], some (if (hexValue p).isSome then .length else .invalidByte p))
  | p :: q :: rest =>
    match hexValue p, hexValue q with
    | some a, some b =>
      let r := hexDecodeString rest
      (UInt8.ofNat (16 * a + b) :: r.1, r.2)
    | none, _ => ([], some (.invalidByte p))
    | some _, none => ([], some (.invalidByte q))

/-! ## go-ethereum's `common` helpers -/

/-- `has0xPrefix`: starts with `0x` or `0X`. -/
def has0xPrefix (s : Bytes) : Bool :=
  match s with
  | c₀ :: c₁ :: _ => c₀ == 48 && (c₁ == 120 || c₁ == 88)
  | _ => false

/-- `common.FromHex`: drop a `0x`, pad an odd length with a leading `0`, and keep what
`hex.DecodeString` decodes before any error (`Hex2Bytes`). -/
def fromHex (s : Bytes) : Bytes :=
  let s := if has0xPrefix s then s.drop 2 else s
  let s := if s.length % 2 = 1 then 48 :: s else s
  (hexDecodeString s).1

/-- `common.BytesToHash`: the last 32 bytes, right-aligned. -/
def bytesToHash (b : Bytes) : Word := Word.ofBytes (b.drop (b.length - 32))

/-- `common.BytesToAddress`: the last 20 bytes, right-aligned. -/
def bytesToAddress (b : Bytes) : Address := BitVec.ofNat 160 (bytesToNat (b.drop (b.length - 20)))

/-- `common.HexToHash`. -/
def hexToHash (s : Bytes) : Word := bytesToHash (fromHex s)

/-- `common.HexToAddress`. -/
def hexToAddress (s : Bytes) : Address := bytesToAddress (fromHex s)

/-- `common.Hash.Hex()` (`hexutil.Encode`): `0x` and 64 lower-case digits. -/
def Word.hex (w : Word) : Bytes := [48, 120] ++ hexEncode w.toBytes32

/-- The nibbles of a hash, high half of each byte first. -/
def hashNibbles (hash : Bytes) : List Nat := hash.flatMap fun b => [b.toNat / 16, b.toNat % 16]

/-- EIP-55: a letter digit whose hash nibble is above 7 is upper-cased
(`buf[i] > '9' && hashByte > 7`). -/
def checksumDigit (c : UInt8) (nibble : Nat) : UInt8 := if 57 < c ∧ 7 < nibble then c - 32 else c

/-- `common.Address.Hex()`: `0x` and the 40 digits of the address, checksummed with the
Keccak-256 hash of the lower-case digits. -/
def Address.hex (a : Address) : Bytes :=
  let digits := hexEncode a.toBytes20
  [48, 120] ++ List.zipWith checksumDigit digits (hashNibbles (keccak256 digits).toBytes32)

/-! ## Decoding what was encoded -/

/-- Each digit reads back as its value. -/
theorem hexValue_hexDigit {n : Nat} (hn : n < 16) : hexValue (hexDigit n) = some n := by
  have hlower : ∀ n : Fin 16, hexValue (hexDigit n) = some n := by decide
  exact hlower ⟨n, hn⟩

/-- Each digit reads back as its value, upper-cased or not. -/
theorem hexValue_checksumDigit {n : Nat} (hn : n < 16) (nibble : Nat) :
    hexValue (checksumDigit (hexDigit n) nibble) = some n := by
  have hupper : ∀ n : Fin 16, 57 < hexDigit n → hexValue (hexDigit n - 32) = some n := by
    decide
  unfold checksumDigit
  split_ifs with h
  · exact hupper ⟨n, hn⟩ h.1
  · exact hexValue_hexDigit hn

/-- A byte is sixteen times its high half plus its low half. -/
theorem ofNat_halves (b : UInt8) : UInt8.ofNat (16 * (b.toNat / 16) + b.toNat % 16) = b := by
  rw [show 16 * (b.toNat / 16) + b.toNat % 16 = b.toNat by omega, uint8_ofNat_toNat]

/-- The digits of a byte string, each checksummed against a nibble, read back as the
byte string, whatever the nibbles. -/
theorem hexDecodeString_checksum : ∀ (bs : Bytes) (nibbles : List Nat),
    2 * bs.length ≤ nibbles.length →
      hexDecodeString (List.zipWith checksumDigit (hexEncode bs) nibbles) = (bs, none)
  | [], _, _ => by simp [hexDecodeString]
  | b :: bs, n₁ :: n₂ :: nibbles, h => by
    have hhigh : b.toNat / 16 < 16 := by have := b.toNat_lt; omega
    have hlow : b.toNat % 16 < 16 := Nat.mod_lt _ (by decide)
    have ih := hexDecodeString_checksum bs nibbles (by simp at h; omega)
    simp only [hexEncode_cons, List.zipWith_cons_cons, hexDecodeString.eq_3,
      hexValue_checksumDigit hhigh, hexValue_checksumDigit hlow, ih, ofNat_halves]
  | _ :: _, [], h | _ :: _, [_], h => by simp at h <;> omega

theorem zipWith_checksumDigit_zero : ∀ (l : Bytes),
    List.zipWith checksumDigit l (List.replicate l.length 0) = l
  | [] => rfl
  | c :: l => by
    simp [List.replicate_succ, checksumDigit, zipWith_checksumDigit_zero l]

@[simp] theorem length_hashNibbles (hash : Bytes) :
    (hashNibbles hash).length = 2 * hash.length := by
  induction hash with
  | nil => rfl
  | cons b bs ih => simp [hashNibbles] at ih ⊢; omega

@[simp] theorem length_hexEncode (bs : Bytes) : (hexEncode bs).length = 2 * bs.length := by
  induction bs with
  | nil => rfl
  | cons b bs ih => simp [ih]; omega

theorem hexDecodeString_hexEncode (bs : Bytes) : hexDecodeString (hexEncode bs) = (bs, none) := by
  have h := hexDecodeString_checksum bs (List.replicate (hexEncode bs).length 0) (by simp)
  rwa [zipWith_checksumDigit_zero] at h

/-- `HexToHash` reads back every word from its `Hex()`. -/
@[simp] theorem hexToHash_hex (w : Word) : hexToHash w.hex = w := by
  simp [hexToHash, Word.hex, fromHex, has0xPrefix, hexDecodeString_hexEncode, bytesToHash]

theorem bytesToAddress_toBytes20 (a : Address) : bytesToAddress a.toBytes20 = a := by
  apply BitVec.eq_of_toNat_eq
  have h := bytesToNat_bigEndian 20 a.toNat a.isLt
  simp only [bytesToAddress, length_toBytes20, Nat.sub_self, List.drop_zero, BitVec.toNat_ofNat]
  rw [show (20 - 1 : Nat) = 19 from rfl] at h
  rw [Address.toBytes20, h, Nat.mod_eq_of_lt a.isLt]

/-- `HexToAddress` reads back every address from its checksummed `Hex()`. -/
@[simp] theorem hexToAddress_hex (a : Address) : hexToAddress a.hex = a := by
  have hnib : 2 * a.toBytes20.length ≤
      (hashNibbles (keccak256 (hexEncode a.toBytes20)).toBytes32).length := by
    simp
  simp [hexToAddress, Address.hex, fromHex, has0xPrefix, hexDecodeString_checksum _ _ hnib,
    bytesToAddress_toBytes20]

end EvmSimulator
