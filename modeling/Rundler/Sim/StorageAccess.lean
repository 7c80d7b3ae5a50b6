import Rundler.Sim.AssociatedSlots

/-! # Storage access rules

`parse_storage_accesses` classifies the storage slots that an entity accessed at one address
during validation. It walks the keys of the read map, then the keys of the write map, and for
each slot pushes at most one `StorageRestriction`. The spec gives the rules as a table over the
association of the slot with the sender and with the entity; `storageVerdict` is that table.

* `slotRestriction_spec` — one pass of the loop panics where an association lookup panics, at
  the top slot `2 ^ 256 - 1` (`isAssociatedSlot_max`), and otherwise pushes the table's verdict
  for its slot;
* `pushRestrictions_spec` — the loop panics when one of its slots does, and otherwise pushes the
  verdicts of its slots, in order;
* `parseStorageAccesses_eq` — the whole function below the top slot: nothing for the sender's or
  the entry point's storage, and otherwise the verdicts of the read keys followed by those of the
  write keys;
* `parseStorageAccesses_spec` — the whole function on every input: it panics exactly when the
  top slot is accessed and the sender or the entity has associated slots, and otherwise returns
  the table's verdicts.

A slot that is both read and written is walked twice, so its verdict is pushed twice
(`parseStorageAccesses_read_write_twice`).
-/

namespace Rundler.Sim

/-- `EntityType`. -/
inductive EntityType
  | account
  | paymaster
  | aggregator
  | factory
deriving DecidableEq, Repr

/-- `Entity`: an entity's kind and address. -/
structure Entity where
  kind : EntityType
  address : Address
deriving DecidableEq

/-- `StorageRestriction`: `NeedsStake(entity needing stake, accessing entity type, accessed
entity type, accessed address, accessed slot)`, or `Banned(slot)`. -/
inductive StorageRestriction
  | needsStake (needsStake accessing : EntityType) (accessed : Option EntityType)
      (address : Address) (slot : U256)
  | banned (slot : U256)
deriving DecidableEq

/-- `AccessInfo`: the slots read, each with its value just before the operation, and the slots
written, each with its count of writes. -/
structure AccessInfo where
  reads : HashMap U256 String
  writes : HashMap U256 UInt32

/-- `ParseStorageAccess`: the arguments of `parse_storage_accesses`. -/
structure ParseStorageAccess where
  accessInfo : AccessInfo
  slotsByAddress : AssociatedSlotsByAddress
  address : Address
  sender : Address
  entrypoint : Address
  hasFactory : Bool
  entity : Entity

namespace ParseStorageAccess

variable (args : ParseStorageAccess)

/-- One pass of the loop over the slots: the restriction that `slot` adds, if any; `none` is a
panic. -/
def slotRestriction (slot : U256) : Option (Option StorageRestriction) := do
  let isSenderAssociated ← args.slotsByAddress.isAssociatedSlot args.sender slot
  -- [STO-032]
  let isEntityAssociated ← args.slotsByAddress.isAssociatedSlot args.entity.address slot
  -- [STO-031]
  let isSameAddress := decide (args.address = args.entity.address)
  -- [STO-033]
  let isReadPermission := !args.accessInfo.writes.containsKey slot
  -- STO-021: associated storage on external contracts is allowed
  if isSenderAssociated && !isSameAddress then
    -- STO-022: the factory must be staked to access associated storage in a deploy
    if args.hasFactory then
      match args.entity.kind with
      | .paymaster | .aggregator =>
        pure (some (.needsStake args.entity.kind args.entity.kind (some .account) args.address
          slot))
      | .account | .factory =>
        pure (some (.needsStake .factory args.entity.kind (some .account) args.address slot))
    else pure none
  else if isEntityAssociated || isSameAddress then
    pure (some (.needsStake args.entity.kind args.entity.kind (some args.entity.kind)
      args.address slot))
  else if isReadPermission then
    pure (some (.needsStake args.entity.kind args.entity.kind none args.address slot))
  else pure (some (.banned slot))

/-- `for slot in slots`, pushing each slot's restriction onto `restrictions`. -/
def pushRestrictions : List U256 → List StorageRestriction → Option (List StorageRestriction)
  | [], restrictions => some restrictions
  | slot :: slots, restrictions => do
    let restriction ← args.slotRestriction slot
    pushRestrictions slots (restrictions ++ restriction.toList)

/-- `parse_storage_accesses`; `none` is a panic. The result is never an `Err`. -/
def parseStorageAccesses : Option (Except String (List StorageRestriction)) :=
  -- STO-010: the account's storage is always allowed, and so is the entry point's here
  if args.address = args.sender ∨ args.address = args.entrypoint then some (.ok [])
  else (args.pushRestrictions (args.accessInfo.reads.keys ++ args.accessInfo.writes.keys) []).map
    .ok

/-! ## The spec's table -/

/-- The entity that must be staked for associated storage in a deploy: a paymaster or an
aggregator itself, otherwise the factory. -/
def deployStakedEntity (kind : EntityType) : EntityType :=
  if kind = .paymaster ∨ kind = .aggregator then kind else .factory

/-- The storage rule table: the restriction an access to `slot` yields, none when the access
is allowed. The associations are the spec's (`IsAssociated`). -/
def storageVerdict (slot : U256) : Option StorageRestriction :=
  if args.slotsByAddress.IsAssociated args.sender slot ∧ args.address ≠ args.entity.address then
    if args.hasFactory then
      some (.needsStake (deployStakedEntity args.entity.kind) args.entity.kind (some .account)
        args.address slot)
    else none
  else if args.slotsByAddress.IsAssociated args.entity.address slot ∨
      args.address = args.entity.address then
    some (.needsStake args.entity.kind args.entity.kind (some args.entity.kind) args.address slot)
  else if slot ∉ args.accessInfo.writes.keys then
    some (.needsStake args.entity.kind args.entity.kind none args.address slot)
  else some (.banned slot)

/-! ## The loop computes the table -/

/-- One pass of the loop gives the table's verdict for its slot whenever both association
lookups complete with the spec's association. -/
theorem slotRestriction_of_lookups {slot : U256}
    (hs : args.slotsByAddress.isAssociatedSlot args.sender slot =
      some (decide (args.slotsByAddress.IsAssociated args.sender slot)))
    (he : args.slotsByAddress.isAssociatedSlot args.entity.address slot =
      some (decide (args.slotsByAddress.IsAssociated args.entity.address slot))) :
    args.slotRestriction slot = some (args.storageVerdict slot) := by
  simp only [slotRestriction, hs, he, Option.bind_eq_bind, Option.some_bind, storageVerdict,
    HashMap.containsKey]
  by_cases hs : args.slotsByAddress.IsAssociated args.sender slot ∧
      args.address ≠ args.entity.address
  · -- STO-021, STO-022: storage associated with the sender, at another address
    rw [if_pos (by simpa using hs), if_pos hs]
    cases args.hasFactory <;> cases args.entity.kind <;> rfl
  rw [if_neg (by simpa using hs), if_neg hs]
  by_cases he : args.slotsByAddress.IsAssociated args.entity.address slot ∨
      args.address = args.entity.address
  · -- STO-031, STO-032: the entity's own storage, or storage associated with it
    rw [if_pos (by simpa using he), if_pos he]
    rfl
  rw [if_neg (by simpa using he), if_neg he]
  -- STO-033: any other storage may be read, not written
  by_cases hw : slot ∈ args.accessInfo.writes.keys
  · rw [if_neg (by simpa using hw), if_neg (not_not.mpr hw)]
    rfl
  · rw [if_pos (by simpa using hw), if_pos hw]
    rfl

/-- One pass of the loop gives the table's verdict for its slot, below the top slot. -/
theorem slotRestriction_eq (slot : U256) (h : slot.val + 1 < 2 ^ 256) :
    args.slotRestriction slot = some (args.storageVerdict slot) :=
  args.slotRestriction_of_lookups (AssociatedSlotsByAddress.isAssociatedSlot_of_lt _ _ _ h)
    (AssociatedSlotsByAddress.isAssociatedSlot_of_lt _ _ _ h)

/-! ## The top slot

At the top slot `2 ^ 256 - 1` an association lookup panics (`isAssociatedSlot_max`). -/

/-- Whether probing `slot` panics: it is the top slot, and the sender or the entity has
associated slots (`isAssociatedSlot_max`). -/
def Panics (slot : U256) : Prop :=
  slot = U256.max ∧ (args.slotsByAddress.addresses.contains args.sender ∨
    args.slotsByAddress.addresses.contains args.entity.address)

instance (slot : U256) : Decidable (args.Panics slot) :=
  inferInstanceAs (Decidable (_ ∧ _))

open AssociatedSlotsByAddress in
/-- One pass of the loop panics where a lookup panics, and otherwise gives the table's verdict
for its slot, the top slot included. -/
theorem slotRestriction_spec (slot : U256) :
    args.slotRestriction slot =
      if args.Panics slot then none else some (args.storageVerdict slot) := by
  by_cases hmax : slot = U256.max
  · subst hmax
    cases hs : args.slotsByAddress.addresses.contains args.sender
    · cases he : args.slotsByAddress.addresses.contains args.entity.address
      · -- neither has associated slots: both lookups complete
        rw [if_neg (by simp [Panics, hs, he])]
        exact args.slotRestriction_of_lookups (isAssociatedSlot_max_of_not_contains hs)
          (isAssociatedSlot_max_of_not_contains he)
      · rw [if_pos ⟨rfl, .inr he⟩]
        simp [slotRestriction, isAssociatedSlot_max_of_not_contains hs,
          isAssociatedSlot_max_of_contains he]
    · rw [if_pos ⟨rfl, .inl hs⟩]
      simp [slotRestriction, isAssociatedSlot_max_of_contains hs]
  · have hlt : slot.val + 1 < 2 ^ 256 := by
      have := slot.isLt
      have : slot.val ≠ 2 ^ 256 - 1 := fun h => hmax (Fin.ext h)
      omega
    rw [if_neg (fun h => hmax h.1), slotRestriction_eq args slot hlt]

/-- The loop panics when one of its slots does, and otherwise pushes their verdicts in order. -/
theorem pushRestrictions_spec : ∀ (slots : List U256) (restrictions : List StorageRestriction),
    args.pushRestrictions slots restrictions =
      if ∃ s ∈ slots, args.Panics s then none
      else some (restrictions ++ slots.filterMap args.storageVerdict)
  | [], restrictions => by simp [pushRestrictions]
  | slot :: slots, restrictions => by
    rw [pushRestrictions, slotRestriction_spec]
    simp only [List.mem_cons, exists_eq_or_imp]
    by_cases hp : args.Panics slot
    · rw [if_pos hp, if_pos (.inl hp)]
      rfl
    · rw [if_neg hp, Option.bind_eq_bind, Option.some_bind, pushRestrictions_spec]
      simp only [hp, false_or]
      split_ifs
      · rfl
      · cases hv : args.storageVerdict slot <;> simp [List.filterMap_cons, hv]

/-- Below the top slot the loop pushes the verdicts of its slots, in order. -/
theorem pushRestrictions_eq (slots : List U256) (h : ∀ s ∈ slots, s.val + 1 < 2 ^ 256)
    (restrictions : List StorageRestriction) :
    args.pushRestrictions slots restrictions =
      some (restrictions ++ slots.filterMap args.storageVerdict) := by
  rw [pushRestrictions_spec, if_neg]
  rintro ⟨s, hs, rfl, -⟩
  exact Nat.lt_irrefl _ (h _ hs)

/-- Only a written slot is banned, and it is banned for itself. -/
theorem storageVerdict_eq_banned {slot s : U256}
    (h : args.storageVerdict slot = some (.banned s)) :
    s = slot ∧ slot ∈ args.accessInfo.writes.keys := by
  unfold storageVerdict at h
  split_ifs at h with _ _ _ hw <;> cases h
  exact ⟨rfl, hw⟩

/-- A write to a slot associated neither with the sender nor with the entity, at an address
other than the entity's, is banned. -/
theorem storageVerdict_foreign_write {slot : U256} (hw : slot ∈ args.accessInfo.writes.keys)
    (hs : ¬ args.slotsByAddress.IsAssociated args.sender slot)
    (he : ¬ args.slotsByAddress.IsAssociated args.entity.address slot)
    (hne : args.address ≠ args.entity.address) :
    args.storageVerdict slot = some (.banned slot) := by
  simp [storageVerdict, hw, hs, he, hne]

/-- **`parse_storage_accesses` is the table.** Accesses to the sender's or the entry point's
storage yield nothing. Otherwise, when no slot is the top one, the result is the table's
verdict for each key of the read map and then for each key of the write map, in that order;
in particular a slot is banned only when it is written, and a write to storage associated
neither with the sender nor with the entity, at another address than the entity's, is
banned. -/
theorem parseStorageAccesses_eq :
    (args.address = args.sender ∨ args.address = args.entrypoint →
      args.parseStorageAccesses = some (.ok [])) ∧
    (¬ (args.address = args.sender ∨ args.address = args.entrypoint) →
      (∀ s ∈ args.accessInfo.reads.keys ++ args.accessInfo.writes.keys, s.val + 1 < 2 ^ 256) →
      args.parseStorageAccesses = some (.ok ((args.accessInfo.reads.keys ++
        args.accessInfo.writes.keys).filterMap args.storageVerdict)) ∧
      (∀ s, .banned s ∈ (args.accessInfo.reads.keys ++ args.accessInfo.writes.keys).filterMap
        args.storageVerdict → s ∈ args.accessInfo.writes.keys) ∧
      (∀ s ∈ args.accessInfo.writes.keys, ¬ args.slotsByAddress.IsAssociated args.sender s →
        ¬ args.slotsByAddress.IsAssociated args.entity.address s →
        args.address ≠ args.entity.address →
        .banned s ∈ (args.accessInfo.reads.keys ++ args.accessInfo.writes.keys).filterMap
          args.storageVerdict)) := by
  refine ⟨fun h => if_pos h, fun hown hslots => ⟨?_, fun s hs => ?_, fun s hw hs he hne => ?_⟩⟩
  · rw [parseStorageAccesses, if_neg hown, pushRestrictions_eq args _ hslots, List.nil_append]
    rfl
  · obtain ⟨slot, -, hv⟩ := List.mem_filterMap.mp hs
    obtain ⟨rfl, hw⟩ := storageVerdict_eq_banned args hv
    exact hw
  · exact List.mem_filterMap.mpr ⟨s, List.mem_append_right _ hw,
      storageVerdict_foreign_write args hw hs he hne⟩

/-- **`parse_storage_accesses` on every input.** Accesses to the sender's or the entry point's
storage yield nothing. Otherwise the function panics exactly when the top slot `2 ^ 256 - 1` is
among the accessed slots and the sender or the entity is among `addresses()`; in every other
case it returns the table's verdicts of the read keys and then of the write keys. -/
theorem parseStorageAccesses_spec :
    args.parseStorageAccesses =
      if args.address = args.sender ∨ args.address = args.entrypoint then some (.ok [])
      else if U256.max ∈ args.accessInfo.reads.keys ++ args.accessInfo.writes.keys ∧
          (args.slotsByAddress.addresses.contains args.sender ∨
            args.slotsByAddress.addresses.contains args.entity.address) then none
      else some (.ok ((args.accessInfo.reads.keys ++ args.accessInfo.writes.keys).filterMap
        args.storageVerdict)) := by
  have hpanic : (∃ s ∈ args.accessInfo.reads.keys ++ args.accessInfo.writes.keys,
      args.Panics s) ↔ U256.max ∈ args.accessInfo.reads.keys ++ args.accessInfo.writes.keys ∧
        (args.slotsByAddress.addresses.contains args.sender ∨
          args.slotsByAddress.addresses.contains args.entity.address) :=
    ⟨fun ⟨_, hs, hmax, h⟩ => ⟨hmax ▸ hs, h⟩, fun ⟨hs, h⟩ => ⟨_, hs, rfl, h⟩⟩
  rw [parseStorageAccesses, pushRestrictions_spec]
  by_cases hp : ∃ s ∈ args.accessInfo.reads.keys ++ args.accessInfo.writes.keys, args.Panics s
  · rw [if_pos hp, if_pos (hpanic.mp hp)]
    rfl
  · rw [if_neg hp, if_neg (mt hpanic.mpr hp)]
    rfl

end ParseStorageAccess

/-- An access that reads and writes slot `5` of an address unrelated to the sender, the entry
point and the entity. -/
def readWriteArgs : ParseStorageAccess where
  accessInfo := ⟨⟨[(5, "0x00")], by decide⟩, ⟨[(5, 1)], by decide⟩⟩
  slotsByAddress := ⟨HashMap.empty⟩
  address := 3
  sender := 1
  entrypoint := 2
  hasFactory := false
  entity := ⟨.paymaster, 4⟩

/-- The one slot `5`, both read and written, gets two restrictions. -/
theorem parseStorageAccesses_read_write_twice :
    readWriteArgs.accessInfo.reads.keys ++ readWriteArgs.accessInfo.writes.keys = [5, 5] ∧
      readWriteArgs.parseStorageAccesses = some (.ok [.banned 5, .banned 5]) :=
  ⟨rfl, rfl⟩

theorem parseStorageAccesses_eq_at_readWriteArgs :
    ¬ (readWriteArgs.address = readWriteArgs.sender ∨
        readWriteArgs.address = readWriteArgs.entrypoint) ∧
      readWriteArgs.parseStorageAccesses = some (.ok ((readWriteArgs.accessInfo.reads.keys ++
        readWriteArgs.accessInfo.writes.keys).filterMap readWriteArgs.storageVerdict)) := by
  have hkeys : readWriteArgs.accessInfo.reads.keys ++ readWriteArgs.accessInfo.writes.keys =
      [5, 5] := rfl
  have hown : ¬ (readWriteArgs.address = readWriteArgs.sender ∨
      readWriteArgs.address = readWriteArgs.entrypoint) := by decide
  refine ⟨hown, ((ParseStorageAccess.parseStorageAccesses_eq readWriteArgs).2 hown
    fun s hs => ?_).1⟩
  rw [hkeys, List.mem_cons, List.mem_singleton, or_self] at hs
  subst hs
  decide

end Rundler.Sim
