import Rundler.Sim.StorageAccess

/-! # Simulation results and errors

The parts of the simulator around the storage rules: the staking state of the entities of an
operation, the allow-list that forces an entity to count as staked, and the translation of a
simulation error into the error the pool sees.

* `overrideInfosStaked_eq` — `override_infos_staked` overrides the sender only: it binds the
  factory, the paymaster and the aggregator by copy (`if let Some(mut x) = eis.x`), so their
  overrides are lost (`overrideInfosStaked_factory_lost`);
* `mempoolError_ofSimulationError` — the error carries a least violation of the list, and is
  `Other` when there is none.

`SimulationViolation` is not part of this repository; it is a parameter with a total order, as
its derived `Ord` is.
-/

namespace Rundler.Sim

/-- `entity_type_from_simulation_phase`: the entity whose validation the `i`-th phase of the
simulation trace runs. -/
def entityTypeFromSimulationPhase : Nat → Option EntityType
  | 0 => some .factory
  | 1 => some .account
  | 2 => some .paymaster
  | _ => none

/-! ## Entity staking -/

/-- `EntityInfo`: an entity's address and whether it counts as staked. -/
structure EntityInfo where
  address : Address
  isStaked : Bool
deriving DecidableEq

/-- `EntityInfos`: the entities of one operation. -/
structure EntityInfos where
  factory : Option EntityInfo
  sender : EntityInfo
  paymaster : Option EntityInfo
  aggregator : Option EntityInfo
deriving DecidableEq

/-- `StakeInfo`: an entity's stake and unstake delay at the entry point. -/
structure StakeInfo where
  stake : U256
  unstakeDelaySec : U256

/-- `Settings`: the two simulation settings that decide staking, the only ones `is_staked`
reads. -/
structure Settings where
  minUnstakeDelay : UInt32
  minStakeValue : Fin (2 ^ 128)

/-- `AggregatorInfo`: an aggregator's address and stake. -/
structure AggregatorInfo where
  address : Address
  stakeInfo : StakeInfo

/-- The part of `ValidationOutput` that staking reads. -/
structure ValidationOutput where
  senderInfo : StakeInfo
  factoryInfo : StakeInfo
  paymasterInfo : StakeInfo
  aggregatorInfo : Option AggregatorInfo

/-- `is_staked`: enough stake, locked for long enough. -/
def isStaked (info : StakeInfo) (simSettings : Settings) : Bool :=
  decide (simSettings.minStakeValue.val ≤ info.stake.val) &&
    decide (simSettings.minUnstakeDelay.toNat ≤ info.unstakeDelaySec.val)

/-- `infos_from_validation_output`: the entities of an operation and their staking. -/
def infosFromValidationOutput (factoryAddress : Option Address) (senderAddress : Address)
    (paymasterAddress : Option Address) (entryPointOut : ValidationOutput)
    (simSettings : Settings) : EntityInfos where
  factory := factoryAddress.map fun address =>
    ⟨address, isStaked entryPointOut.factoryInfo simSettings⟩
  sender := ⟨senderAddress, isStaked entryPointOut.senderInfo simSettings⟩
  paymaster := paymasterAddress.map fun address =>
    ⟨address, isStaked entryPointOut.paymasterInfo simSettings⟩
  aggregator := entryPointOut.aggregatorInfo.map fun aggregatorInfo =>
    ⟨aggregatorInfo.address, isStaked aggregatorInfo.stakeInfo simSettings⟩

/-- `override_is_staked`: an allow-listed entity counts as staked. -/
def overrideIsStaked (ei : EntityInfo) (allowUnstakedAddresses : HashSet Address) :
    EntityInfo :=
  { ei with isStaked := allowUnstakedAddresses.contains ei.address || ei.isStaked }

/-- `override_infos_staked`. The sender is overridden in place. `if let Some(mut factory) =
eis.factory` binds a copy of the (`Copy`) entity info, so the override of the factory, the
paymaster and the aggregator changes a copy that is then dropped. -/
def overrideInfosStaked (eis : EntityInfos) (allowUnstakedAddresses : HashSet Address) :
    EntityInfos :=
  let eis := { eis with sender := overrideIsStaked eis.sender allowUnstakedAddresses }
  let _factory := eis.factory.map (overrideIsStaked · allowUnstakedAddresses)
  let _paymaster := eis.paymaster.map (overrideIsStaked · allowUnstakedAddresses)
  let _aggregator := eis.aggregator.map (overrideIsStaked · allowUnstakedAddresses)
  eis

/-- What `override_infos_staked` does, for every entity infos and allow-list: the sender is
overridden and the other three entities are returned as they were. -/
theorem overrideInfosStaked_eq (eis : EntityInfos) (allowUnstakedAddresses : HashSet Address) :
    overrideInfosStaked eis allowUnstakedAddresses =
      { eis with sender := overrideIsStaked eis.sender allowUnstakedAddresses } := rfl

/-- An operation whose factory `2` is unstaked, with an allow-list holding `2`. -/
def unstakedFactoryInfos : EntityInfos :=
  ⟨some ⟨2, false⟩, ⟨1, false⟩, none, none⟩

/-- The allow-list `{2}`. -/
def allowFactory : HashSet Address := ⟨[2], List.nodup_singleton 2⟩

/-- The allow-listed factory stays unstaked. -/
theorem overrideInfosStaked_factory_lost :
    allowFactory.contains 2 = true ∧
      (overrideInfosStaked unstakedFactoryInfos allowFactory).factory = some ⟨2, false⟩ :=
  ⟨by decide, rfl⟩

/-! ## Simulation errors -/

variable {V : Type} [LinearOrder V]

/-- `ViolationError<T>`: violations, or another error. -/
inductive ViolationError (T : Type)
  | violations (vs : List T)
  | other (e : String)
deriving DecidableEq

/-- `SimulationError`. -/
structure SimulationError (V : Type) where
  violationError : ViolationError V
  entityInfos : Option EntityInfos

/-- `From<Error> for SimulationError`. -/
def SimulationError.ofError (error : String) : SimulationError V :=
  ⟨.other error, none⟩

/-- The part of `MempoolError` that a simulation error becomes. -/
inductive MempoolError (V : Type)
  | other (e : ViolationError V)
  | simulationViolation (v : V)
deriving DecidableEq

/-- `Iterator::min`: the first least element; `min_by` keeps the element so far unless the
next one is strictly less. -/
def iterMin : List V → Option V
  | [] => none
  | v :: vs => some (vs.foldl (fun acc w => if w < acc then w else acc) v)

/-- `From<SimulationError> for MempoolError`: the least violation, taken out of the list (the
sentinel `DidNotRevert` is written in its place, in a list that is then dropped), or `Other`
when there is none. -/
def MempoolError.ofSimulationError (error : SimulationError V) : MempoolError V :=
  match error.violationError with
  | .violations violations =>
    match iterMin violations with
    | none => .other error.violationError
    | some violation => .simulationViolation violation
  | .other _ => .other error.violationError

/-- `min_by`'s step is `min`. -/
theorem minStep_eq_min : (fun acc w : V => if w < acc then w else acc) = min := by
  funext acc w
  rw [min_def]
  by_cases h : w < acc
  · rw [if_pos h, if_neg (not_le.mpr h)]
  · rw [if_neg h, if_pos (not_lt.mp h)]

/-- The fold of `min` stays in the list and is below every element it passed. -/
theorem foldl_min_mem_le (vs : List V) : ∀ acc : V,
    vs.foldl min acc ∈ acc :: vs ∧ ∀ w ∈ acc :: vs, vs.foldl min acc ≤ w := by
  induction vs with
  | nil => intro acc; simp
  | cons v vs ih =>
    intro acc
    obtain ⟨hmem, hle⟩ := ih (min acc v)
    have hstep : min acc v ≤ acc ∧ min acc v ≤ v := ⟨min_le_left _ _, min_le_right _ _⟩
    refine ⟨?_, fun w hw => ?_⟩
    · rcases List.mem_cons.mp hmem with h | h
      · rcases min_choice acc v with h' | h' <;> rw [List.foldl_cons, h, h'] <;> simp
      · exact List.mem_cons_of_mem _ (List.mem_cons_of_mem _ h)
    · have hself := hle _ (List.mem_cons_self _ _)
      rcases List.mem_cons.mp hw with rfl | hw
      · exact le_trans hself hstep.1
      · rcases List.mem_cons.mp hw with rfl | hw
        · exact le_trans hself hstep.2
        · exact hle w (List.mem_cons_of_mem _ hw)

/-- `Iterator::min` finds a least element of a non-empty list. -/
theorem iterMin_spec {vs : List V} {v : V} (h : iterMin vs = some v) :
    v ∈ vs ∧ ∀ w ∈ vs, v ≤ w := by
  cases vs with
  | nil => cases h
  | cons a vs =>
    simp only [iterMin, Option.some.injEq, minStep_eq_min] at h
    subst h
    exact foldl_min_mem_le vs a

/-- **The pool sees the most severe violation.** A non-empty list of violations becomes
`SimulationViolation(v)` for a least `v` of the list; an empty list, or another error, becomes
`Other`. -/
theorem mempoolError_ofSimulationError (vs : List V) (entityInfos : Option EntityInfos) :
    (vs ≠ [] → ∃ v ∈ vs, MempoolError.ofSimulationError ⟨.violations vs, entityInfos⟩ =
      .simulationViolation v ∧ ∀ w ∈ vs, v ≤ w) ∧
    MempoolError.ofSimulationError ⟨(.violations [] : ViolationError V), entityInfos⟩ =
      .other (.violations []) ∧
    ∀ e, MempoolError.ofSimulationError ⟨(.other e : ViolationError V), entityInfos⟩ =
      .other (.other e) := by
  refine ⟨fun hne => ?_, rfl, fun _ => rfl⟩
  cases hmin : iterMin vs with
  | none => cases vs with
    | nil => exact absurd rfl hne
    | cons _ _ => cases hmin
  | some v =>
    obtain ⟨hmem, hle⟩ := iterMin_spec hmin
    exact ⟨v, hmem, by simp [MempoolError.ofSimulationError, hmin], hle⟩

theorem mempoolError_ofSimulationError_two_one_three :
    ([2, 1, 3] : List Nat) ≠ [] ∧ ∃ v ∈ ([2, 1, 3] : List Nat),
      MempoolError.ofSimulationError ⟨.violations [2, 1, 3], none⟩ = .simulationViolation v ∧
        ∀ w ∈ ([2, 1, 3] : List Nat), v ≤ w :=
  ⟨by decide, (mempoolError_ofSimulationError [2, 1, 3] none).1 (by decide)⟩

end Rundler.Sim
