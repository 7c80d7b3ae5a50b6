import Rundler.Types.Abi

/-! # User operations

`UserOperation` (entry point v0.6) and what `types.rs` computes from it: `pack`, the hash
`op_hash`, the id, and the factory and paymaster addresses at the front of `init_code` and
`paymaster_and_data`; and the kinds of entity an operation names.

`pack` encodes the ten fields other than the signature, then an empty signature, and cuts the
last word off. The results here say why that is the entry point's packing:

* `pack_is_calldata_prefix` — the ABI encoding of all eleven fields is `pack(op)`, then the
  signature's length word, then the padded signature; the signature's head points at the end of
  `pack(op)`, so `op_hash` hashes exactly the calldata before that length word;
* `pack_eq_iff` — `pack` tells apart any two operations that differ outside the signature, and
  the hash never reads the signature;
* `opHash_eq_cases` — for every hash function with 32-byte outputs, equal hashes come from the
  same fields, entry point and chain id, or the hash function collides where `op_hash` applies
  it: on the two packed operations, or on the two outer inputs.

`Entity` and its display and parsing close the module.

The hash function is a parameter: every result holds for any function in its place.
-/

namespace Rundler

open Abi

/-- `UserOperation` (v0.6). -/
structure UserOperation where
  sender : Address
  nonce : U256
  initCode : Bytes
  callData : Bytes
  callGasLimit : U256
  verificationGasLimit : U256
  preVerificationGas : U256
  maxFeePerGas : U256
  maxPriorityFeePerGas : U256
  paymasterAndData : Bytes
  signature : Bytes
deriving DecidableEq

/-- `UserOperationId`: a user operation's sender and nonce. -/
structure UserOperationId where
  sender : Address
  nonce : U256
deriving DecidableEq

/-- `Address::from_slice`: twenty bytes read big-endian. -/
def Address.fromSlice (bytes : List UInt8) : Address :=
  ⟨readBe bytes % 2 ^ 160, Nat.mod_lt _ (by decide)⟩

namespace UserOperation

/-- The ten values `pack` encodes before the signature, in ABI order. -/
def fields (op : UserOperation) : List Token :=
  [.address op.sender, .uint op.nonce, .bytes op.initCode, .bytes op.callData,
    .uint op.callGasLimit, .uint op.verificationGasLimit, .uint op.preVerificationGas,
    .uint op.maxFeePerGas, .uint op.maxPriorityFeePerGas, .bytes op.paymasterAndData]

/-- `pack`: the ABI encoding of the fields with an empty signature, its last word (the
signature's length) cut off. -/
def pack (op : UserOperation) : List UInt8 :=
  let packed := encode
    [.address op.sender, .uint op.nonce, .bytes op.initCode, .bytes op.callData,
      .uint op.callGasLimit, .uint op.verificationGasLimit, .uint op.preVerificationGas,
      .uint op.maxFeePerGas, .uint op.maxPriorityFeePerGas, .bytes op.paymasterAndData,
      .bytes Bytes.empty]
  packed.take (packed.length - 32)

/-- `op_hash`: the hash of the hash of `pack(op)`, the entry point and the chain id, the last
two as ABI words. -/
def opHash (keccak256 : List UInt8 → List UInt8) (op : UserOperation) (entryPoint : Address)
    (chainId : UInt64) : List UInt8 :=
  keccak256 (keccak256 op.pack ++ encode [.address entryPoint] ++
    encode [.uint (U256.ofUInt64 chainId)])

/-- `id`: the operation's sender and nonce. -/
def id (op : UserOperation) : UserOperationId := ⟨op.sender, op.nonce⟩

/-- `get_address_from_field`: the address in the first twenty bytes of a field, if it has
twenty bytes. -/
def getAddressFromField (data : Bytes) : Option Address :=
  if data.data.length < 20 then none else some (Address.fromSlice (data.data.take 20))

/-- `factory`: the address at the front of `init_code`. -/
def factory (op : UserOperation) : Option Address := getAddressFromField op.initCode

/-- `paymaster`: the address at the front of `paymaster_and_data`. -/
def paymaster (op : UserOperation) : Option Address := getAddressFromField op.paymasterAndData

/-- The ABI encoding of all eleven fields, the signature included: how the operation sits in
`handleOps` calldata. -/
def abiEncode (op : UserOperation) : List UInt8 :=
  encode (op.fields ++ [.bytes op.signature])

/-! ## The layout of `pack` -/

@[simp] theorem length_fields (op : UserOperation) : op.fields.length = 10 := rfl

/-- The tails of the ten fields: those of `init_code`, `call_data` and `paymaster_and_data`. -/
theorem fields_tails (op : UserOperation) : (op.fields.map Token.tail).flatten =
    padBytes op.initCode.data ++ padBytes op.callData.data ++
      padBytes op.paymasterAndData.data := by
  simp [fields, Token.tail]

/-- `pack(op)`: the ten heads, the offset where the signature's tail would start, and the ten
tails. -/
theorem pack_eq (op : UserOperation) : op.pack =
    encodeHeads (32 * (op.fields.length + 1)) op.fields ++
      word (32 * (op.fields.length + 1) + (op.fields.map Token.tail).flatten.length) ++
      (op.fields.map Token.tail).flatten := by
  have hfields : [Token.address op.sender, .uint op.nonce, .bytes op.initCode, .bytes op.callData,
      .uint op.callGasLimit, .uint op.verificationGasLimit, .uint op.preVerificationGas,
      .uint op.maxFeePerGas, .uint op.maxPriorityFeePerGas, .bytes op.paymasterAndData,
      .bytes Bytes.empty] = op.fields ++ [.bytes Bytes.empty] := rfl
  simp only [pack, hfields]
  rw [encode_append_bytes, show padBytes Bytes.empty.data = word 0 from rfl, List.length_append,
    length_word, Nat.add_sub_cancel, List.take_left]

/-- The encoding with an empty signature is `pack(op)` and the cut-off length word. -/
theorem encode_fields_empty (op : UserOperation) :
    encode (op.fields ++ [.bytes Bytes.empty]) = op.pack ++ word 0 := by
  rw [encode_append_bytes, pack_eq]; rfl

theorem length_tails_lt (op : UserOperation) :
    (op.fields.map Token.tail).flatten.length < 3 * 2 ^ 64 + 192 := by
  have h₁ := op.initCode.length_lt
  have h₂ := op.callData.length_lt
  have h₃ := op.paymasterAndData.length_lt
  have := padLen_lt op.initCode.data.length
  have := padLen_lt op.callData.data.length
  have := padLen_lt op.paymasterAndData.data.length
  simp only [fields_tails, List.length_append, length_padBytes]
  omega

theorem length_pack (op : UserOperation) :
    op.pack.length = 352 + (op.fields.map Token.tail).flatten.length := by
  simp [pack_eq]; omega

/-- The encoding with an empty signature fits the offsets of a word. -/
theorem length_encode_fields_lt (op : UserOperation) :
    (encode (op.fields ++ [.bytes Bytes.empty])).length < 2 ^ 256 := by
  have := length_tails_lt op
  rw [encode_fields_empty, List.length_append, length_pack, length_word]; omega

/-- `abi.encode` of one address or one number is its word (`AbiEncode::encode`). -/
@[simp] theorem encode_address (a : Address) : encode [.address a] = word a.val := by
  simp [encode, encodeHeads, Token.headValue, Token.tail]

@[simp] theorem encode_uint (v : U256) : encode [.uint v] = word v.val := by
  simp [encode, encodeHeads, Token.headValue, Token.tail]

/-! ## `pack` is the entry point's packing -/

/-- **`pack` is the calldata prefix.** The ABI encoding of all eleven fields is `pack(op)`
followed by the signature's length word and the padded signature; the signature's head word
points at the end of `pack(op)`, where that length word starts; so `op_hash` hashes the
calldata before the signature's length word, for every entry point, chain id and hash
function. -/
theorem pack_is_calldata_prefix (op : UserOperation) :
    op.abiEncode = op.pack ++ padBytes op.signature.data ∧
    wordAt op.abiEncode (32 * 10) = some op.pack.length ∧
    ∀ (keccak256 : List UInt8 → List UInt8) (entryPoint : Address) (chainId : UInt64),
      op.opHash keccak256 entryPoint chainId =
        keccak256 (keccak256 (op.abiEncode.take op.pack.length) ++ word entryPoint.val ++
          word chainId.toNat) := by
  have hencode : op.abiEncode = op.pack ++ padBytes op.signature.data := by
    rw [abiEncode, encode_append_bytes, pack_eq]
  refine ⟨hencode, ?_, fun keccak256 entryPoint chainId => ?_⟩
  · have hfit := length_tails_lt op
    have hhead := wordAt_append_word (encodeHeads (32 * (op.fields.length + 1)) op.fields)
      ((op.fields.map Token.tail).flatten ++ padBytes op.signature.data)
      (32 * (op.fields.length + 1) + (op.fields.map Token.tail).flatten.length)
    rw [length_encodeHeads, ← List.append_assoc, ← pack_eq, ← hencode,
      Nat.mod_eq_of_lt (by simp only [length_fields]; omega)] at hhead
    rw [length_pack]
    simpa using hhead
  · rw [hencode, List.take_left, opHash, encode_address, encode_uint]
    rfl

/-- Two operations with the same `pack` have the same ten fields: `pack` is their encoding with
its last word cut, and that encoding decodes back to the fields. -/
theorem fields_eq_of_pack_eq {op₁ op₂ : UserOperation} (h : op₁.pack = op₂.pack) :
    op₁.fields = op₂.fields := by
  have hdec := decodeFrom_encode _ [] (length_encode_fields_lt op₂) _ 0 (List.drop_zero _)
  rw [encode_fields_empty, ← h, ← encode_fields_empty,
    show (op₂.fields ++ [Token.bytes Bytes.empty]).map Token.kind =
      (op₁.fields ++ [Token.bytes Bytes.empty]).map Token.kind from rfl,
    decodeFrom_encode _ [] (length_encode_fields_lt op₁) _ 0 (List.drop_zero _),
    Option.some.injEq] at hdec
  exact List.append_cancel_right hdec

/-- **`pack` is injective on the fields it encodes.** Two operations have the same `pack` exactly
when they agree on the ten fields other than the signature; hence `op_hash` never reads the
signature. -/
theorem pack_eq_iff (op₁ op₂ : UserOperation) :
    (op₁.pack = op₂.pack ↔
      op₁.sender = op₂.sender ∧ op₁.nonce = op₂.nonce ∧ op₁.initCode = op₂.initCode ∧
      op₁.callData = op₂.callData ∧ op₁.callGasLimit = op₂.callGasLimit ∧
      op₁.verificationGasLimit = op₂.verificationGasLimit ∧
      op₁.preVerificationGas = op₂.preVerificationGas ∧ op₁.maxFeePerGas = op₂.maxFeePerGas ∧
      op₁.maxPriorityFeePerGas = op₂.maxPriorityFeePerGas ∧
      op₁.paymasterAndData = op₂.paymasterAndData) ∧
    ∀ (keccak256 : List UInt8 → List UInt8) (entryPoint : Address) (chainId : UInt64)
      (signature : Bytes),
      { op₁ with signature }.opHash keccak256 entryPoint chainId =
        op₁.opHash keccak256 entryPoint chainId := by
  refine ⟨⟨fun h => ?_, fun h => ?_⟩, fun _ _ _ _ => rfl⟩
  · simpa [fields] using fields_eq_of_pack_eq h
  · obtain ⟨h₁, h₂, h₃, h₄, h₅, h₆, h₇, h₈, h₉, h₁₀⟩ := h
    simp only [pack, h₁, h₂, h₃, h₄, h₅, h₆, h₇, h₈, h₉, h₁₀]

/-! ## The hash binds the operation -/

/-- **`op_hash` binds the operation, the entry point and the chain.** For every hash function
with 32-byte outputs, two operations with the same `op_hash` agree on their ten fields other than
the signature, on the entry point and on the chain id, unless the hash function collides at one
of the two places `op_hash` applies it: on the two packed operations, or on the two inputs of the
outer hash. -/
theorem opHash_eq_cases (keccak256 : List UInt8 → List UInt8)
    (hlen : ∀ x, (keccak256 x).length = 32) (op₁ op₂ : UserOperation) (ep₁ ep₂ : Address)
    (c₁ c₂ : UInt64) (h : op₁.opHash keccak256 ep₁ c₁ = op₂.opHash keccak256 ep₂ c₂) :
    (op₁.fields = op₂.fields ∧ ep₁ = ep₂ ∧ c₁ = c₂) ∨
      (op₁.pack ≠ op₂.pack ∧ keccak256 op₁.pack = keccak256 op₂.pack) ∨
      (keccak256 op₁.pack ++ encode [.address ep₁] ++ encode [.uint (U256.ofUInt64 c₁)] ≠
          keccak256 op₂.pack ++ encode [.address ep₂] ++ encode [.uint (U256.ofUInt64 c₂)] ∧
        keccak256 (keccak256 op₁.pack ++ encode [.address ep₁] ++
            encode [.uint (U256.ofUInt64 c₁)]) =
          keccak256 (keccak256 op₂.pack ++ encode [.address ep₂] ++
            encode [.uint (U256.ofUInt64 c₂)])) := by
  by_cases hin : keccak256 op₁.pack ++ encode [.address ep₁] ++
      encode [.uint (U256.ofUInt64 c₁)] =
    keccak256 op₂.pack ++ encode [.address ep₂] ++ encode [.uint (U256.ofUInt64 c₂)]
  · -- the outer inputs agree: they split into their three words
    simp only [encode_address, encode_uint] at hin
    obtain ⟨hin, hc⟩ := List.append_inj hin (by simp [hlen])
    obtain ⟨hk, he⟩ := List.append_inj hin (by simp [hlen])
    have hep := word_injective (lt_trans ep₁.isLt (by decide)) (lt_trans ep₂.isLt (by decide)) he
    have hc := word_injective (U256.ofUInt64 c₁).isLt (U256.ofUInt64 c₂).isLt hc
    by_cases hpack : op₁.pack = op₂.pack
    · exact .inl ⟨fields_eq_of_pack_eq hpack, Fin.ext hep, UInt64.eq_of_val_eq (Fin.ext hc)⟩
    · exact .inr (.inl ⟨hpack, hk⟩)
  · exact .inr (.inr ⟨hin, h⟩)

/-- A hash function that sends every input to the zero word. -/
def zeroHash (_ : List UInt8) : List UInt8 := List.replicate 32 0

/-- The operation of `test_hash_zeroed`: every field zero or empty. -/
def zeroedOperation : UserOperation :=
  ⟨0, 0, Bytes.empty, Bytes.empty, 0, 0, 0, 0, 0, Bytes.empty, Bytes.empty⟩

theorem opHash_eq_cases_zeroHash :
    (∀ x, (zeroHash x).length = 32) ∧
    zeroedOperation.opHash zeroHash 0 1337 = zeroedOperation.opHash zeroHash 1 1337 ∧
    ((zeroedOperation.fields = zeroedOperation.fields ∧ (0 : Address) = 1 ∧
        (1337 : UInt64) = 1337) ∨
      (zeroedOperation.pack ≠ zeroedOperation.pack ∧
        zeroHash zeroedOperation.pack = zeroHash zeroedOperation.pack) ∨
      (zeroHash zeroedOperation.pack ++ encode [.address 0] ++
          encode [.uint (U256.ofUInt64 1337)] ≠
          zeroHash zeroedOperation.pack ++ encode [.address 1] ++
            encode [.uint (U256.ofUInt64 1337)] ∧
        zeroHash (zeroHash zeroedOperation.pack ++ encode [.address 0] ++
            encode [.uint (U256.ofUInt64 1337)]) =
          zeroHash (zeroHash zeroedOperation.pack ++ encode [.address 1] ++
            encode [.uint (U256.ofUInt64 1337)]))) :=
  have hlen : ∀ x, (zeroHash x).length = 32 := fun _ => List.length_replicate 32 0
  ⟨hlen, rfl, opHash_eq_cases zeroHash hlen zeroedOperation zeroedOperation 0 1 1337 1337 rfl⟩

end UserOperation

/-! ## Entity kinds -/

/-- `Entity`: the kinds of entity of a user operation. -/
inductive Entity
  | account
  | paymaster
  | aggregator
  | factory
deriving DecidableEq, Repr

namespace Entity

/-- `Display` (`#[display(style = "lowercase")]`): the entity's name in lower case. -/
def toString : Entity → String
  | .account => "account"
  | .paymaster => "paymaster"
  | .aggregator => "aggregator"
  | .factory => "factory"

/-- `Entity::from_str`: a displayed name back to its entity; any other string fails with
`Invalid entity: {s}`. -/
def fromStr (s : String) : Except String Entity :=
  match s with
  | "account" => .ok .account
  | "paymaster" => .ok .paymaster
  | "aggregator" => .ok .aggregator
  | "factory" => .ok .factory
  | _ => .error ("Invalid entity: " ++ s)

end Entity

end Rundler
