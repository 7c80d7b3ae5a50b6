import Rundler.Types.UserOperation

/-! # The entry point's `handleOps` gas estimate

`estimate_handle_ops_gas` asks the node to estimate the gas of the `handleOps` call (or
`handleAggregatedOps` when operations are aggregated), and maps the outcome: a gas amount, a
revert whose data is one of the entry point's two errors `FailedOp(uint256,string)` and
`SignatureValidationFailed(address)`, or another error, which is passed on.

* `getHandleOpsCall_userOps` — the call carries every operation of every aggregator, in order;
* `estimateHandleOpsGas_of_revertData` — for every estimate, a revert with an encoded `FailedOp`
  whose index fits a `usize` gives `FailedOp` with its index and its reason decoded lossily, and
  one with an encoded `SignatureValidationFailed` gives `SignatureValidationFailed`;
* `estimateHandleOpsGas_failedOp_overflow` — a `FailedOp` whose index does not fit a `usize`
  makes `op_index.as_usize()` panic.

The node's estimate is a parameter: every result holds for every estimate of every call. The
error decoders are `ethers`' `AbiDecode` for the two errors: the selector, then the ABI encoding
of the error's parameters. `FailedOp`'s reason is a `string`: laid out as `bytes`, and turned
into text by `String::from_utf8_lossy`, so a reason that is not UTF-8 still decodes.
-/

namespace Rundler

open Abi

/-! ## Calls -/

/-- `UserOpsPerAggregator`: the operations of one aggregator, and its signature. -/
structure UserOpsPerAggregator where
  userOps : List UserOperation
  aggregator : Address
  signature : Bytes

/-- The two calls of the entry point that execute a bundle. -/
inductive HandleOpsCall
  | handleOps (ops : List UserOperation) (beneficiary : Address)
  | handleAggregatedOps (opsPerAggregator : List UserOpsPerAggregator) (beneficiary : Address)

/-- The operations a call executes. -/
def HandleOpsCall.userOps : HandleOpsCall → List UserOperation
  | .handleOps ops _ => ops
  | .handleAggregatedOps opsPerAggregator _ => opsPerAggregator.flatMap (·.userOps)

/-- `get_handle_ops_call`: `handleOps` when the only group has no aggregator (the zero
address), `handleAggregatedOps` otherwise. -/
def getHandleOpsCall (opsPerAggregator : List UserOpsPerAggregator) (beneficiary : Address) :
    HandleOpsCall :=
  match opsPerAggregator with
  | [group] =>
    if group.aggregator = 0 then .handleOps group.userOps beneficiary
    else .handleAggregatedOps [group] beneficiary
  | _ => .handleAggregatedOps opsPerAggregator beneficiary

/-- The call carries every operation of every aggregator, in order. -/
theorem getHandleOpsCall_userOps (opsPerAggregator : List UserOpsPerAggregator)
    (beneficiary : Address) :
    (getHandleOpsCall opsPerAggregator beneficiary).userOps =
      opsPerAggregator.flatMap (·.userOps) := by
  unfold getHandleOpsCall
  split
  · split <;> simp [HandleOpsCall.userOps]
  · rfl

/-! ## Outcomes -/

/-- `HandleOpsOut`. -/
inductive HandleOpsOut
  | successWithGas (gas : U256)
  | failedOp (opIndex : Nat) (reason : String)
  | signatureValidationFailed (aggregator : Address)
deriving DecidableEq

/-- `ContractError`: a revert with its data, or another error. -/
inductive ContractError
  | revert (data : List UInt8)
  | other (e : String)
deriving DecidableEq

/-- `FailedOp { op_index, reason }`. -/
structure FailedOp where
  opIndex : U256
  reason : String

/-- `SignatureValidationFailed { aggregator }`. -/
structure SignatureValidationFailed where
  aggregator : Address

/-- The selector of `FailedOp(uint256,string)`. -/
def FailedOp.selector : List UInt8 := [0x22, 0x02, 0x66, 0xb6]

/-- The selector of `SignatureValidationFailed(address)`. -/
def SignatureValidationFailed.selector : List UInt8 := [0x86, 0xa9, 0xf7, 0x50]

/-- `decode_with_selector`: data that starts with `selector`, then the values of `types`. -/
def decodeWithSelector (selector : List UInt8) (types : List ParamType) (data : List UInt8) :
    Option (List Token) :=
  if data.take 4 = selector then decode types (data.drop 4) else none

/-- `FailedOp::decode`: the reason, a `string`, is read as `bytes` and decoded lossily. -/
def FailedOp.decode (data : List UInt8) : Option FailedOp :=
  match decodeWithSelector FailedOp.selector [.uint, .bytes] data with
  | some [.uint opIndex, .bytes reason] => some ⟨opIndex, fromUtf8Lossy reason.data⟩
  | _ => none

/-- `SignatureValidationFailed::decode`. -/
def SignatureValidationFailed.decode (data : List UInt8) : Option SignatureValidationFailed :=
  match decodeWithSelector SignatureValidationFailed.selector [.address] data with
  | some [.address aggregator] => some ⟨aggregator⟩
  | _ => none

/-- `U256::as_usize`: panics (`none`) when the value does not fit a 64-bit `usize`. -/
def U256.asUsize (v : U256) : Option Nat :=
  if v.val < 2 ^ 64 then some v.val else none

/-- `estimate_handle_ops_gas`, the node estimating the gas of each call by `estimateGas`;
`none` is a panic. -/
def estimateHandleOpsGas (estimateGas : HandleOpsCall → Except ContractError U256)
    (opsPerAggregator : List UserOpsPerAggregator) (beneficiary : Address) :
    Option (Except ContractError HandleOpsOut) :=
  match estimateGas (getHandleOpsCall opsPerAggregator beneficiary) with
  | .ok gas => some (.ok (.successWithGas gas))
  | .error error =>
    match error with
    | .revert revertData =>
      match FailedOp.decode revertData with
      | some ⟨opIndex, reason⟩ => (U256.asUsize opIndex).map fun i => .ok (.failedOp i reason)
      | none =>
        match SignatureValidationFailed.decode revertData with
        | some failure => some (.ok (.signatureValidationFailed failure.aggregator))
        | none => some (.error error)
    | .other _ => some (.error error)

/-- `send_bundle`, the node taking each call sent with a gas limit by `send`: the hash of the sent
transaction, or the node's error in the context `should send bundle transaction`. -/
def sendBundle (send : HandleOpsCall → U256 → Except String U256)
    (opsPerAggregator : List UserOpsPerAggregator) (beneficiary : Address) (gas : U256) :
    Except String U256 :=
  match send (getHandleOpsCall opsPerAggregator beneficiary) gas with
  | .ok txHash => .ok txHash
  | .error e => .error ("should send bundle transaction: " ++ e)

/-! ## Decoding the errors -/

/-- The revert data of `FailedOp(opIndex, reason)`, the reason given by its bytes. -/
def FailedOp.encode (opIndex : U256) (reason : Bytes) : List UInt8 :=
  FailedOp.selector ++ Abi.encode [.uint opIndex, .bytes reason]

/-- The revert data of `SignatureValidationFailed(aggregator)`. -/
def SignatureValidationFailed.encode (aggregator : Address) : List UInt8 :=
  SignatureValidationFailed.selector ++ Abi.encode [.address aggregator]

theorem decodeWithSelector_append (selector : List UInt8) (hlen : selector.length = 4)
    (types : List ParamType) (data : List UInt8) :
    decodeWithSelector selector types (selector ++ data) = decode types data := by
  rw [decodeWithSelector, if_pos (List.take_left' hlen), List.drop_left' hlen]

/-- `FailedOp::decode` reads the two values its selector is followed by. -/
theorem FailedOp.decode_of_tokens {data : List UInt8} {opIndex : U256} {reason : Bytes}
    (h : decodeWithSelector FailedOp.selector [.uint, .bytes] data =
      some [.uint opIndex, .bytes reason]) :
    FailedOp.decode data = some ⟨opIndex, fromUtf8Lossy reason.data⟩ := by
  unfold FailedOp.decode
  rw [h]

/-- Data under another selector is no `FailedOp`. -/
theorem FailedOp.decode_of_take_ne {data : List UInt8} (h : data.take 4 ≠ FailedOp.selector) :
    FailedOp.decode data = none := by
  unfold FailedOp.decode
  rw [decodeWithSelector, if_neg h]

/-- `SignatureValidationFailed::decode` reads the address its selector is followed by. -/
theorem SignatureValidationFailed.decode_of_tokens {data : List UInt8} {aggregator : Address}
    (h : decodeWithSelector SignatureValidationFailed.selector [.address] data =
      some [.address aggregator]) :
    SignatureValidationFailed.decode data = some ⟨aggregator⟩ := by
  unfold SignatureValidationFailed.decode
  rw [h]

/-- The encoding of a `FailedOp` decodes back, its reason decoded lossily, whatever follows
it. -/
theorem FailedOp.decode_revertData (opIndex : U256) (reason : Bytes) (rest : List UInt8) :
    FailedOp.decode (FailedOp.encode opIndex reason ++ rest) =
      some ⟨opIndex, fromUtf8Lossy reason.data⟩ := by
  have hfit : (Abi.encode [.uint opIndex, .bytes reason]).length < 2 ^ 256 := by
    have := reason.length_lt
    simp only [Abi.encode, List.length_append, length_encodeHeads, List.map, Token.tail,
      List.flatten, length_padBytes, List.length_cons, List.length_nil]
    have := padLen_lt reason.data.length
    omega
  apply FailedOp.decode_of_tokens
  rw [FailedOp.encode, List.append_assoc, decodeWithSelector_append FailedOp.selector rfl,
    Abi.decode]
  exact decodeFrom_encode _ rest hfit [.uint opIndex, .bytes reason] 0 rfl

/-- The encoding of a `SignatureValidationFailed` decodes back, and is no `FailedOp`. -/
theorem SignatureValidationFailed.decode_revertData (aggregator : Address) (rest : List UInt8) :
    SignatureValidationFailed.decode (SignatureValidationFailed.encode aggregator ++ rest) =
      some ⟨aggregator⟩ ∧
    FailedOp.decode (SignatureValidationFailed.encode aggregator ++ rest) = none := by
  have hfit : (Abi.encode [.address aggregator]).length < 2 ^ 256 := by
    simp [Abi.encode, Token.tail]
  refine ⟨SignatureValidationFailed.decode_of_tokens ?_, FailedOp.decode_of_take_ne ?_⟩
  · rw [SignatureValidationFailed.encode, List.append_assoc,
      decodeWithSelector_append SignatureValidationFailed.selector rfl, Abi.decode]
    exact decodeFrom_encode _ rest hfit [.address aggregator] 0 rfl
  · -- the selectors differ
    rw [show (SignatureValidationFailed.encode aggregator ++ rest).take 4 =
      SignatureValidationFailed.selector from rfl]
    decide

/-! ## The mapping -/

section Revert

variable {estimateGas : HandleOpsCall → Except ContractError U256}
  {opsPerAggregator : List UserOpsPerAggregator} {beneficiary : Address} {data : List UInt8}

/-- A revert that decodes as `FailedOp` gives its index, if it fits a `usize`. -/
theorem estimateHandleOpsGas_of_failedOp {opIndex : U256} {reason : String}
    (h : estimateGas (getHandleOpsCall opsPerAggregator beneficiary) = .error (.revert data))
    (hdec : FailedOp.decode data = some ⟨opIndex, reason⟩) :
    estimateHandleOpsGas estimateGas opsPerAggregator beneficiary =
      (U256.asUsize opIndex).map fun i => .ok (.failedOp i reason) := by
  simp only [estimateHandleOpsGas, h, hdec]

/-- A revert that decodes as `SignatureValidationFailed` and not as `FailedOp` gives its
aggregator. -/
theorem estimateHandleOpsGas_of_signatureValidationFailed {aggregator : Address}
    (h : estimateGas (getHandleOpsCall opsPerAggregator beneficiary) = .error (.revert data))
    (hfailed : FailedOp.decode data = none)
    (hsig : SignatureValidationFailed.decode data = some ⟨aggregator⟩) :
    estimateHandleOpsGas estimateGas opsPerAggregator beneficiary =
      some (.ok (.signatureValidationFailed aggregator)) := by
  simp only [estimateHandleOpsGas, h, hfailed, hsig]

end Revert

/-- **The entry point's errors are recognised.** For every estimate of the call: a revert with
the encoding of `FailedOp(opIndex, reason)`, whatever follows it, gives `FailedOp` with that
index when it fits a `usize`, and with the reason's bytes decoded by `String::from_utf8_lossy`; a
revert with the encoding of `SignatureValidationFailed(aggregator)` gives
`SignatureValidationFailed` with that aggregator. -/
theorem estimateHandleOpsGas_of_revertData
    (estimateGas : HandleOpsCall → Except ContractError U256)
    (opsPerAggregator : List UserOpsPerAggregator) (beneficiary : Address) :
    (∀ opIndex reason rest, opIndex.val < 2 ^ 64 →
      estimateGas (getHandleOpsCall opsPerAggregator beneficiary) =
        .error (.revert (FailedOp.encode opIndex reason ++ rest)) →
      estimateHandleOpsGas estimateGas opsPerAggregator beneficiary =
        some (.ok (.failedOp opIndex.val (fromUtf8Lossy reason.data)))) ∧
    (∀ aggregator rest, estimateGas (getHandleOpsCall opsPerAggregator beneficiary) =
        .error (.revert (SignatureValidationFailed.encode aggregator ++ rest)) →
      estimateHandleOpsGas estimateGas opsPerAggregator beneficiary =
        some (.ok (.signatureValidationFailed aggregator))) := by
  refine ⟨fun opIndex reason rest hfits h => ?_, fun aggregator rest h => ?_⟩
  · rw [estimateHandleOpsGas_of_failedOp h (FailedOp.decode_revertData opIndex reason rest),
      U256.asUsize, if_pos hfits, Option.map_some']
  · obtain ⟨hsig, hfailed⟩ := SignatureValidationFailed.decode_revertData aggregator rest
    exact estimateHandleOpsGas_of_signatureValidationFailed h hfailed hsig

/-- A node that reverts every call with `FailedOp(3, reason)`, the reason the single byte
`0xFF`, which is no UTF-8. -/
def revertsFailedOpThree : HandleOpsCall → Except ContractError U256 :=
  fun _ => .error (.revert (FailedOp.encode 3 ⟨[0xFF], by decide⟩ ++ []))

theorem estimateHandleOpsGas_of_revertData_failedOpThree :
    (3 : U256).val < 2 ^ 64 ∧
    revertsFailedOpThree (getHandleOpsCall [] 0) =
      .error (.revert (FailedOp.encode 3 ⟨[0xFF], by decide⟩ ++ [])) ∧
    estimateHandleOpsGas revertsFailedOpThree [] 0 =
      some (.ok (.failedOp (3 : U256).val (fromUtf8Lossy [0xFF]))) :=
  ⟨by decide, rfl, (estimateHandleOpsGas_of_revertData revertsFailedOpThree [] 0).1 3
    ⟨[0xFF], by decide⟩ [] (by decide) rfl⟩

/-- **An index past `usize` panics.** For every estimate that reverts with a `FailedOp` whose
index does not fit a `usize`, `op_index.as_usize()` panics. -/
theorem estimateHandleOpsGas_failedOp_overflow
    (estimateGas : HandleOpsCall → Except ContractError U256)
    (opsPerAggregator : List UserOpsPerAggregator) (beneficiary : Address)
    (opIndex : U256) (reason : Bytes)
    (rest : List UInt8) (hindex : 2 ^ 64 ≤ opIndex.val)
    (hrevert : estimateGas (getHandleOpsCall opsPerAggregator beneficiary) =
      .error (.revert (FailedOp.encode opIndex reason ++ rest))) :
    estimateHandleOpsGas estimateGas opsPerAggregator beneficiary = none := by
  rw [estimateHandleOpsGas_of_failedOp hrevert (FailedOp.decode_revertData opIndex reason rest),
    U256.asUsize, if_neg (not_lt.mpr hindex), Option.map_none']

/-- A node that reverts every call with `FailedOp(2 ^ 64, "")`. -/
def revertsFailedOpPastUsize : HandleOpsCall → Except ContractError U256 :=
  fun _ => .error (.revert (FailedOp.encode ⟨2 ^ 64, by decide⟩ Bytes.empty ++ []))

theorem estimateHandleOpsGas_failedOp_overflow_pastUsize :
    2 ^ 64 ≤ (⟨2 ^ 64, by decide⟩ : U256).val ∧
    revertsFailedOpPastUsize (getHandleOpsCall [] 0) =
      .error (.revert (FailedOp.encode ⟨2 ^ 64, by decide⟩ Bytes.empty ++ [])) ∧
    estimateHandleOpsGas revertsFailedOpPastUsize [] 0 = none :=
  ⟨le_refl _, rfl, estimateHandleOpsGas_failedOp_overflow revertsFailedOpPastUsize [] 0
    ⟨2 ^ 64, by decide⟩ Bytes.empty [] (le_refl _) rfl⟩

end Rundler
