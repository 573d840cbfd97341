import EvmSimulator.Hex
import EvmSimulator.Hooks

/-!
# Storage keys

The source keys the fetched-storage map and the access list's membership set by the
string `a.Hex() + ":" + slot.Hex()` (`storageKey`), and `InitIdealState` splits a key at
`:` (`strings.Split`, here `splitOn`) and reads the halves back with `HexToAddress` and
`HexToHash` (`parseStorageKey`). The model keys both maps by the pair itself.

No digit of either half is a colon, so a key splits into exactly its two halves, which
read back as the address and the slot, whatever case the checksum gives the address's
letters (`storageKey_roundTrip`). So the key of a pair determines the pair: two pairs
never share a key, and `InitIdealState`'s storage loop over string keys
(`storageLoopByKey`) installs each recorded value where the model's loop over pairs does
(`storageLoopByKey_map`).
-/

namespace EvmSimulator

/-! ## Keys and their parse -/

/-- `strings.Split(s, sep)` for a one-byte separator: the pieces between separators, an
empty string giving one empty piece. -/
def splitOn (sep : UInt8) : Bytes → List Bytes
  | [] => [[]]
  | c :: cs =>
    if c = sep then [] :: splitOn sep cs
    else match splitOn sep cs with
      | p :: ps => (c :: p) :: ps
      | [] => [[c]]

/-- The ASCII colon. -/
def colon : UInt8 := 58

/-- `a.Hex() + ":" + slot.Hex()`. -/
def storageKey (a : Address) (slot : Word) : Bytes := a.hex ++ colon :: slot.hex

/-- `InitIdealState`'s parse of a key: `split := strings.Split(key, ":")`, then
`HexToAddress(split[0])` and `HexToHash(split[1])`; a key without a colon panics on
`split[1]`. -/
def parseStorageKey (key : Bytes) : Except Abort (Address × Word) :=
  match splitOn colon key with
  | p₀ :: p₁ :: _ => .ok (hexToAddress p₀, hexToHash p₁)
  | [_] => .error (.panic "runtime error: index out of range [1] with length 1")
  | [] => .error (.panic "runtime error: index out of range [0] with length 0")

/-- The storage loop of `InitIdealState` over string keys: each value installed where
its key parses to, from `tmp`. -/
def storageLoopByKey (tmp : StateDB) : List (Bytes × Word) → Except Abort StateDB
  | [] => .ok tmp
  | (key, v) :: rest =>
    match parseStorageKey key with
    | .ok (a, slot) => storageLoopByKey (tmp.setState a slot v) rest
    | .error err => .error err

/-! ## Splitting -/

theorem splitOn_of_not_mem {sep : UInt8} : ∀ {s : Bytes}, sep ∉ s → splitOn sep s = [s]
  | [], _ => rfl
  | c :: cs, h => by
    have hc : c ≠ sep := fun hc => h (hc ▸ List.mem_cons_self _ _)
    simp [splitOn, hc, splitOn_of_not_mem (fun hm => h (List.mem_cons_of_mem _ hm))]

theorem splitOn_append {sep : UInt8} (y : Bytes) : ∀ {x : Bytes}, sep ∉ x →
    splitOn sep (x ++ sep :: y) = x :: splitOn sep y
  | [], _ => by simp [splitOn]
  | c :: cs, h => by
    have hc : c ≠ sep := fun hc => h (hc ▸ List.mem_cons_self _ _)
    simp [splitOn, hc, splitOn_append y (fun hm => h (List.mem_cons_of_mem _ hm))]

/-! ## No digit is a colon -/

theorem isSome_hexValue_of_mem_checksum : ∀ (bs : Bytes) (nibbles : List Nat),
    ∀ c ∈ List.zipWith checksumDigit (hexEncode bs) nibbles, (hexValue c).isSome
  | [], _ => by simp
  | b :: bs, nibbles => by
    have hhigh : b.toNat / 16 < 16 := by have := b.toNat_lt; omega
    have hlow : b.toNat % 16 < 16 := Nat.mod_lt _ (by decide)
    rcases nibbles with _ | ⟨n₁, _ | ⟨n₂, nibbles⟩⟩ <;>
      simp only [hexEncode_cons, List.zipWith_cons_cons, List.zipWith_nil_right,
        List.forall_mem_cons, hexValue_checksumDigit hhigh, hexValue_checksumDigit hlow,
        Option.isSome_some, true_and, List.not_mem_nil, false_imp_iff, implies_true]
    exact isSome_hexValue_of_mem_checksum bs nibbles

/-- A `0x`-prefixed string of digits holds no colon. -/
theorem colon_not_mem_0x {s : Bytes} (h : ∀ c ∈ s, (hexValue c).isSome) :
    colon ∉ [48, 120] ++ s := by
  simp only [List.cons_append, List.nil_append, List.mem_cons, not_or]
  exact ⟨by decide, by decide, fun hm => absurd (h colon hm) (by decide)⟩

theorem colon_not_mem_address_hex (a : Address) : colon ∉ a.hex :=
  colon_not_mem_0x (isSome_hexValue_of_mem_checksum _ _)

theorem colon_not_mem_word_hex (w : Word) : colon ∉ w.hex := by
  have h := isSome_hexValue_of_mem_checksum w.toBytes32 (List.replicate 64 0)
  rw [show 64 = (hexEncode w.toBytes32).length by simp, zipWith_checksumDigit_zero] at h
  exact colon_not_mem_0x h

/-! ## Round trip -/

theorem splitOn_storageKey (a : Address) (slot : Word) :
    splitOn colon (storageKey a slot) = [a.hex, slot.hex] := by
  rw [storageKey, splitOn_append _ (colon_not_mem_address_hex a),
    splitOn_of_not_mem (colon_not_mem_word_hex slot)]

@[simp] theorem parseStorageKey_storageKey (a : Address) (slot : Word) :
    parseStorageKey (storageKey a slot) = .ok (a, slot) := by
  simp [parseStorageKey, splitOn_storageKey]

theorem storageKey_injective {a a' : Address} {slot slot' : Word}
    (h : storageKey a slot = storageKey a' slot') : a = a' ∧ slot = slot' := by
  simpa using congrArg parseStorageKey h

/-- On keys built by `storageKey`, the string-keyed loop installs what the model's loop
over pairs installs. -/
theorem storageLoopByKey_map (tmp : StateDB) : ∀ set : StorageSet,
    storageLoopByKey tmp (set.map fun kv => (storageKey kv.1.1 kv.1.2, kv.2)) =
      .ok (set.foldl (fun tmp kv => tmp.setState kv.1.1 kv.1.2 kv.2) tmp)
  | [] => rfl
  | ((a, slot), v) :: rest => by
    simp only [List.map_cons, storageLoopByKey, parseStorageKey_storageKey, List.foldl_cons]
    exact storageLoopByKey_map _ rest

/-- Every key `a.Hex() + ":" + slot.Hex()` splits at `:` into exactly its two halves,
which `HexToAddress` and `HexToHash` read back as `a` and `slot`. So two pairs never share
a key, and `InitIdealState`'s loop over string keys installs each recorded value at its
own pair, as the model's loop over pairs does. -/
theorem storageKey_roundTrip :
    (∀ a slot, splitOn colon (storageKey a slot) = [a.hex, slot.hex] ∧
      hexToAddress a.hex = a ∧ hexToHash slot.hex = slot) ∧
    (∀ a slot a' slot', storageKey a slot = storageKey a' slot' → a = a' ∧ slot = slot') ∧
    ∀ (tmp : StateDB) (set : StorageSet),
      storageLoopByKey tmp (set.map fun kv => (storageKey kv.1.1 kv.1.2, kv.2)) =
        .ok (set.foldl (fun tmp kv => tmp.setState kv.1.1 kv.1.2 kv.2) tmp) :=
  ⟨fun a slot => ⟨splitOn_storageKey a slot, hexToAddress_hex a, hexToHash_hex slot⟩,
    fun _ _ _ _ => storageKey_injective, storageLoopByKey_map⟩

end EvmSimulator
