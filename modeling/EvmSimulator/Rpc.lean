import EvmSimulator.Hex
import EvmSimulator.Hooks

/-!
# The RPC client

`Client.GetCode`, `GetStorageAt` and `GetBalance` post a JSON-RPC request with `rpcPost`
and read the `result` member of the `RPCResponse` it decodes. The HTTP transport and the
JSON parser are not modelled: each call here starts from `rpcPost`'s outcome, its error or
the response. A Go `error` result is the inner `Except String`; a panic is the outer
`Abort`. The three calls share everything up to reading the result string
(`Client.readResult`) and differ in how they decode it.

On a reply in the node's encoding each call returns the value encoded
(`client_reads_wellFormed_reply`). But the `error` member is never read, and a missing
`result` reads as the empty string, so an error response is never reported as an error:
`GetStorageAt` returns the zero word with a nil error, `GetCode` panics in
`hexutil.MustDecode` and `GetBalance` panics on `result[2:]` (`errorResponse_not_reported`).
-/

namespace EvmSimulator

/-! ## Responses -/

/-- The `result` member as the client reads it through `json.RawMessage`: absent or `null`,
a JSON string (its value), or a value of another JSON kind (`number`, `bool`, `object` or
`array`). -/
inductive RawResult where
  | null
  | string (s : Bytes)
  | other (kind : String)

/-- `ErrResponse`, the `error` member. -/
structure ErrResponse where
  code : Int
  message : String

/-- `RPCResponse` as `rpcPost` decodes it; its `ID` and `JSONRpc` are never read. -/
structure RPCResponse where
  result : RawResult
  err : Option ErrResponse := none

/-- A Go string's bytes as text, one character a byte. -/
def bytesText (bs : Bytes) : String := String.mk (bs.map fun b => Char.ofNat b.toNat)

/-- `resultB, _ := rpcResp.Result.MarshalJSON()` and `json.Unmarshal(resultB, &result)`
into a string: an absent result marshals as `null`, which leaves the string empty, and a
value of another kind is an `UnmarshalTypeError`. -/
def unmarshalString : RawResult → Except String Bytes
  | .null => .ok []
  | .string s => .ok s
  | .other kind => .error ("json: cannot unmarshal " ++ kind ++ " into Go value of type string")

/-! ## Decoding the result string -/

/-- `hexutil.Encode`: `0x` and two lower-case digits a byte. -/
def hexutilEncode (bs : Bytes) : Bytes := [48, 120] ++ hexEncode bs

/-- `hexutil.Decode`: a nonempty, `0x`-prefixed string of an even number of digits. -/
def hexutilDecode (input : Bytes) : Except String Bytes :=
  if input.isEmpty then .error "empty hex string"
  else if !has0xPrefix input then .error "hex string without 0x prefix"
  else match hexDecodeString (input.drop 2) with
    | (b, none) => .ok b
    | (_, some .length) => .error "hex string of odd length"
    | (_, some (.invalidByte _)) => .error "invalid hex string"

/-- `hexutil.MustDecode`: `Decode`, panicking with its error. -/
def mustDecode (input : Bytes) : Except Abort Bytes :=
  match hexutilDecode input with
  | .ok b => .ok b
  | .error err => .error (.panic err)

/-- The digits of `new(big.Int).SetString(s, 16)`: one or more digits of either case and
nothing else, most significant first. -/
def scanHexNat (ds : Bytes) : Option Nat :=
  if ds.isEmpty then none else ds.foldlM (fun acc c => (hexValue c).map (16 * acc + ·)) 0

/-- `new(big.Int).SetString(s, 16)`: an optional sign, then the digits. -/
def bigSetString16 (s : Bytes) : Option Int :=
  match s with
  | c :: ds =>
    if c = 45 then (scanHexNat ds).map fun n => -(n : Int)
    else if c = 43 then (scanHexNat ds).map fun n => (n : Int)
    else (scanHexNat s).map fun n => (n : Int)
  | [] => none

/-! ## The client -/

/-- What the three calls share: `rpcPost`'s error, or the `result` member unmarshalled into
a string (`unmarshalString`), whose error is returned too, and read by `decode`. The
`error` member is not read. -/
def Client.readResult {α : Type} (decode : Bytes → Except Abort (Except String α))
    (post : Except String RPCResponse) : Except Abort (Except String α) :=
  match post with
  | .error err => pure (.error err)
  | .ok rpcResp =>
    match unmarshalString rpcResp.result with
    | .error err => pure (.error err)
    | .ok result => decode result

/-- `Client.GetCode`: `hexutil.MustDecode(result)`. -/
def Client.getCode : Except String RPCResponse → Except Abort (Except String Bytes) :=
  Client.readResult fun result => (mustDecode result).map .ok

/-- `Client.GetStorageAt`: `common.HexToHash(result)`. -/
def Client.getStorageAt : Except String RPCResponse → Except Abort (Except String Word) :=
  Client.readResult fun result => pure (.ok (hexToHash result))

/-- `Client.GetBalance`: `new(big.Int).SetString(result[2:], 16)`, and the error
`invalid balance received in response` when it fails. -/
def Client.getBalance : Except String RPCResponse → Except Abort (Except String Int) :=
  Client.readResult fun result =>
    if result.length < 2 then
      .error (.panic ("runtime error: slice bounds out of range [2:" ++
        toString result.length ++ "]"))
    else match bigSetString16 (result.drop 2) with
      | some balance => pure (.ok balance)
      | none => pure (.error ("invalid balance received in response: " ++ bytesText result))

section ReadResult

variable {α : Type} (decode : Bytes → Except Abort (Except String α))

@[simp] theorem readResult_post_error (err : String) :
    Client.readResult decode (.error err) = pure (.error err) := rfl

/-- A result string is decoded whatever the `error` member holds. -/
@[simp] theorem readResult_string (s : Bytes) (err : Option ErrResponse) :
    Client.readResult decode (.ok ⟨.string s, err⟩) = decode s := rfl

/-- A missing result is decoded as the empty string, whatever the `error` member holds. -/
@[simp] theorem readResult_null (err : Option ErrResponse) :
    Client.readResult decode (.ok ⟨.null, err⟩) = decode [] := rfl

end ReadResult

/-! ## The remote on the client -/

/-- The answer of a client call; a call that panics has none, and `Remote.ofClient` never
reads it. -/
def Client.answer {α : Type} : Except Abort (Except String α) → Except String α
  | .ok answer => answer
  | .error _ => .error ""

/-- The panic of a client call. -/
def Client.panicOf {α : Type} : Except Abort (Except String α) → Option String
  | .error (.panic msg) => some msg
  | _ => none

/-- The remote state source the simulator gets from the client on a node that replies
`node q` to request `q`: the client's answers, and its panics. -/
def Remote.ofClient (node : Request → Except String RPCResponse) : Remote where
  getCode a := Client.answer (Client.getCode (node (.code a)))
  getStorageAt a slot := Client.answer (Client.getStorageAt (node (.storage a slot)))
  getBalance a := Client.answer (Client.getBalance (node (.balance a)))
  panics
    | .code a => Client.panicOf (Client.getCode (node (.code a)))
    | .balance a => Client.panicOf (Client.getBalance (node (.balance a)))
    | .storage a slot => Client.panicOf (Client.getStorageAt (node (.storage a slot)))

/-- The texts the client panics with: `hexutil.Decode`'s errors, which `MustDecode` panics
with, and the slice of a result shorter than two bytes. -/
def Client.panicTexts : List String :=
  ["empty hex string", "hex string without 0x prefix", "hex string of odd length",
    "invalid hex string", "runtime error: slice bounds out of range [2:0]",
    "runtime error: slice bounds out of range [2:1]"]

theorem readResult_panic {α : Type} {decode : Bytes → Except Abort (Except String α)}
    {post : Except String RPCResponse} {err : Abort} (h : Client.readResult decode post = .error err) :
    ∃ s, decode s = .error err := by
  unfold Client.readResult at h
  split at h
  · cases h
  · split at h
    · cases h
    · exact ⟨_, h⟩

theorem hexutilDecode_error {input : Bytes} {msg : String} (h : hexutilDecode input = .error msg) :
    msg ∈ Client.panicTexts := by
  unfold hexutilDecode at h
  split_ifs at h
  · cases h; simp [Client.panicTexts]
  · cases h; simp [Client.panicTexts]
  · split at h <;> cases h <;> simp [Client.panicTexts]

theorem mustDecode_panic {input : Bytes} {err : Abort} (h : mustDecode input = .error err) :
    ∃ msg ∈ Client.panicTexts, err = .panic msg := by
  unfold mustDecode at h
  split at h
  · cases h
  · next msg hm => cases h; exact ⟨msg, hexutilDecode_error hm, rfl⟩

/-- The client aborts only by panicking, and only with one of `Client.panicTexts`. -/
theorem client_panics {post : Except String RPCResponse} {err : Abort} :
    (Client.getCode post = .error err ∨ Client.getStorageAt post = .error err ∨
      Client.getBalance post = .error err) → ∃ msg ∈ Client.panicTexts, err = .panic msg := by
  rintro (h | h | h) <;> obtain ⟨s, hs⟩ := readResult_panic h
  · cases hm : mustDecode s <;> simp only [hm, Except.map, reduceCtorEq, Except.error.injEq] at hs
    exact hs ▸ mustDecode_panic hm
  · cases hs
  · split_ifs at hs with hlen
    · cases hs
      refine ⟨_, ?_, rfl⟩
      obtain h0 | h1 : s.length = 0 ∨ s.length = 1 := by omega
      · rw [h0]; decide
      · rw [h1]; decide
    · split at hs <;> cases hs

theorem call_answer_panicOf {α : Type} (remote : Remote) {q : Request}
    {x : Except Abort (Except String α)} (hq : remote.panics q = Client.panicOf x)
    (hx : ∀ err, x = .error err → ∃ msg ∈ Client.panicTexts, err = .panic msg) :
    remote.call q (Client.answer x) = x := by
  unfold Remote.call
  rw [hq]
  rcases x with err | answer
  · obtain ⟨msg, -, rfl⟩ := hx err rfl
    rfl
  · rfl

/-- The simulator's remote on the client is the client: each request gets the client's
answer on the node's reply, or ends in the client's panic. -/
theorem ofClient_calls (node : Request → Except String RPCResponse) (a : Address) (slot : Word) :
    (Remote.ofClient node).code a = Client.getCode (node (.code a)) ∧
    (Remote.ofClient node).storageAt a slot = Client.getStorageAt (node (.storage a slot)) ∧
    (Remote.ofClient node).balance a = Client.getBalance (node (.balance a)) :=
  ⟨call_answer_panicOf _ rfl fun _ h => client_panics (.inl h),
    call_answer_panicOf _ rfl fun _ h => client_panics (.inr (.inl h)),
    call_answer_panicOf _ rfl fun _ h => client_panics (.inr (.inr h))⟩

/-- Every panic of the remote on the client is one of `Client.panicTexts`. -/
theorem ofClient_clientPanic {node : Request → Except String RPCResponse} {err : Abort}
    (h : (Remote.ofClient node).ClientPanic err) : ∃ msg ∈ Client.panicTexts, err = .panic msg := by
  obtain ⟨q, msg, hq, rfl⟩ := h
  have hpanic : ∀ {α : Type} (x : Except Abort (Except String α)), Client.panicOf x = some msg →
      x = .error (.panic msg) := by
    intro α x hx
    unfold Client.panicOf at hx
    split at hx <;> cases hx
    rfl
  cases q with
  | code a => exact client_panics (.inl (hpanic _ hq))
  | balance a => exact client_panics (.inr (.inr (hpanic _ hq)))
  | storage a slot => exact client_panics (.inr (.inl (hpanic _ hq)))

/-! ## Well-formed replies -/

theorem mustDecode_hexutilEncode (bs : Bytes) : mustDecode (hexutilEncode bs) = .ok bs := by
  simp [mustDecode, hexutilDecode, hexutilEncode, has0xPrefix, hexDecodeString_hexEncode]

theorem foldlM_hexValue_map_hexDigit : ∀ (ds : List Nat), (∀ d ∈ ds, d < 16) → ∀ acc,
    (ds.map hexDigit).foldlM (fun acc c => (hexValue c).map (16 * acc + ·)) acc =
      some (ds.foldl (fun acc d => 16 * acc + d) acc)
  | [], _, _ => rfl
  | d :: ds, h, acc => by
    simp only [List.map_cons, List.foldlM_cons, hexValue_hexDigit (h d (List.mem_cons_self _ _)),
      Option.map_some', Option.bind_eq_bind, Option.some_bind, List.foldl_cons]
    exact foldlM_hexValue_map_hexDigit ds (fun d hd => h d (List.mem_cons_of_mem _ hd)) _

/-- The digits of a nonempty digit string, none of which is a sign, read back as the number
they spell. -/
theorem bigSetString16_map_hexDigit {ds : List Nat} (hne : ds ≠ []) (h : ∀ d ∈ ds, d < 16) :
    bigSetString16 (ds.map hexDigit) = some (ds.foldl (fun acc d => 16 * acc + d) 0 : Nat) := by
  obtain ⟨d, ds', rfl⟩ := List.exists_cons_of_ne_nil hne
  have hsign : ∀ d : Fin 16, hexDigit d ≠ 45 ∧ hexDigit d ≠ 43 := by decide
  have hd := hsign ⟨d, h d (List.mem_cons_self _ _)⟩
  simp only [List.map_cons, bigSetString16, hd.1, hd.2, if_false, scanHexNat, List.isEmpty_cons,
    Bool.false_eq_true]
  rw [← List.map_cons, foldlM_hexValue_map_hexDigit _ h]
  rfl

/-- On a reply with no `error` member whose result is the node's encoding of a value, each
call returns that value with a nil error and does not panic: `GetCode` the bytes of a
`hexutil.Encode` string, `GetStorageAt` the word of a `Hash.Hex()` string, and `GetBalance`
the number a `0x`-prefixed nonempty digit string spells. -/
theorem client_reads_wellFormed_reply (bs : Bytes) (w : Word) {ds : List Nat} (hne : ds ≠ [])
    (hds : ∀ d ∈ ds, d < 16) :
    Client.getCode (.ok ⟨.string (hexutilEncode bs), none⟩) = .ok (.ok bs) ∧
    Client.getStorageAt (.ok ⟨.string w.hex, none⟩) = .ok (.ok w) ∧
    Client.getBalance (.ok ⟨.string ([48, 120] ++ ds.map hexDigit), none⟩) =
      .ok (.ok (ds.foldl (fun acc d => 16 * acc + d) 0 : Nat)) := by
  refine ⟨?_, ?_, ?_⟩
  · simp [Client.getCode, mustDecode_hexutilEncode, Except.map]
  · simp [Client.getStorageAt, pure, Except.pure]
  · simp [Client.getBalance, bigSetString16_map_hexDigit hne hds, pure, Except.pure]

theorem client_reads_balance_0x1f :
    ([1, 15] : List Nat) ≠ [] ∧ (∀ d ∈ ([1, 15] : List Nat), d < 16) ∧
    Client.getBalance (.ok ⟨.string [48, 120, 49, 102], none⟩) = .ok (.ok 31) :=
  ⟨by decide, by decide,
    (@client_reads_wellFormed_reply [] 0 [1, 15] (by decide) (by decide)).2.2⟩

/-! ## Error responses -/

/-- Whatever its `error` member says, a response without a result is never reported as an
error: `GetStorageAt` returns the zero word with a nil error, `GetCode` panics in
`hexutil.MustDecode`, and `GetBalance` panics slicing the empty result. -/
theorem errorResponse_not_reported (e : ErrResponse) :
    Client.getStorageAt (.ok ⟨.null, some e⟩) = .ok (.ok 0) ∧
    Client.getCode (.ok ⟨.null, some e⟩) = .error (.panic "empty hex string") ∧
    Client.getBalance (.ok ⟨.null, some e⟩) =
      .error (.panic "runtime error: slice bounds out of range [2:0]") :=
  ⟨rfl, rfl, rfl⟩

end EvmSimulator
