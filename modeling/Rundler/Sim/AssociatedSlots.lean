import Rundler.Types.Primitives

/-! # Associated storage slots

`AssociatedSlotsByAddress` maps an address to the slots associated with it, and
`is_associated_slot` decides whether a slot is associated with an address. The spec's rule is
an existential over the address's slots (`IsAssociated`): the slot is the address read as a
word, or lies less than 128 above one of its slots. The code looks up a single slot instead,
the greatest one at or below the probe, through `range(..slot + 1).next_back()`.

* `isAssociatedSlot_of_lt` — for every map, address and slot below `2 ^ 256 - 1`, the lookup
  completes and agrees with the existential;
* `isAssociatedSlot_max_eq_none` — at the top slot `2 ^ 256 - 1` the bound `slot + 1`
  overflows and the lookup panics, for every address that has an entry in the map;
* `isAssociatedSlot_spec` — the two together: the lookup panics exactly there, and otherwise
  returns the spec's association.
-/

namespace Rundler.Sim

/-- `AssociatedSlotsByAddress(HashMap<Address, BTreeSet<U256>>)`. -/
structure AssociatedSlotsByAddress where
  slots : HashMap Address (BTreeSet U256)

namespace AssociatedSlotsByAddress

/-- The slots associated with `address`; none when it has no entry. -/
def slotsOf (m : AssociatedSlotsByAddress) (address : Address) : List U256 :=
  match m.slots.get address with
  | none => []
  | some associatedSlots => associatedSlots.elems

/-- `is_associated_slot`; `none` is a panic. -/
def isAssociatedSlot (m : AssociatedSlotsByAddress) (address : Address) (slot : U256) :
    Option Bool :=
  if slot = address.toWord then some true
  else
    match m.slots.get address with
    | none => some false
    | some associatedSlots => do
      let upper ← slot.checkedAdd 1
      match associatedSlots.nextBackBelow upper with
      | none => some false
      | some nextSmallestSlot => do
        let distance ← slot.checkedSub nextSmallestSlot
        -- `128.into()`
        pure (decide (distance.val < 128))

/-- `addresses`: the addresses that have associated slots, the keys of the map. -/
def addresses (m : AssociatedSlotsByAddress) : HashSet Address :=
  ⟨m.slots.keys, m.slots.keys_nodup⟩

/-- An address is among `addresses()` exactly when it has an entry in the map. -/
@[simp] theorem contains_addresses (m : AssociatedSlotsByAddress) (address : Address) :
    m.addresses.contains address = (m.slots.get address).isSome := by
  rw [Bool.eq_iff_iff]
  simp only [HashSet.contains, addresses, HashMap.keys, List.elem_eq_mem, List.mem_map,
    Prod.exists, exists_and_right, exists_eq_right, decide_eq_true_eq, HashMap.get,
    List.lookup_isSome_iff, beq_iff_eq, exists_eq_right']

/-- The spec's association: `slot` is the address as a word, or lies less than 128 above one
of the address's slots. -/
def IsAssociated (m : AssociatedSlotsByAddress) (address : Address) (slot : U256) : Prop :=
  slot = address.toWord ∨ ∃ s ∈ m.slotsOf address, s ≤ slot ∧ slot.val - s.val < 128

instance (m : AssociatedSlotsByAddress) (address : Address) (slot : U256) :
    Decidable (m.IsAssociated address slot) :=
  inferInstanceAs (Decidable (_ ∨ _))

theorem checkedAdd_one {slot : U256} (h : slot.val + 1 < 2 ^ 256) :
    slot.checkedAdd 1 = some ⟨slot.val + 1, h⟩ := by
  have h1 : (1 : U256).val = 1 := rfl
  rw [U256.checkedAdd, dif_pos (by rw [h1]; exact h)]
  exact congrArg some (Fin.ext (show slot.val + (1 : U256).val = slot.val + 1 by rw [h1]))

theorem checkedSub_of_le {a b : U256} (h : b ≤ a) :
    a.checkedSub b = some ⟨a.val - b.val, lt_of_le_of_lt (Nat.sub_le _ _) a.isLt⟩ := by
  simp [U256.checkedSub, Fin.le_def.mp h]

/-- **The lookup is the existential.** Below the top slot, `is_associated_slot` completes and
returns whether the slot is associated in the spec's sense: the greatest slot at or below the
probe is within 128 of it exactly when some slot at or below it is. -/
theorem isAssociatedSlot_of_lt (m : AssociatedSlotsByAddress) (address : Address) (slot : U256)
    (h : slot.val + 1 < 2 ^ 256) :
    m.isAssociatedSlot address slot = some (decide (m.IsAssociated address slot)) := by
  unfold isAssociatedSlot
  by_cases hw : slot = address.toWord
  · simp [hw, IsAssociated]
  rw [if_neg hw]
  cases hget : m.slots.get address with
  | none => simp [IsAssociated, slotsOf, hget, hw]
  | some associatedSlots =>
    simp only [checkedAdd_one h]
    cases hnext : associatedSlots.nextBackBelow ⟨slot.val + 1, h⟩ with
    | none =>
      -- no slot at or below the probe
      have hnone := BTreeSet.nextBackBelow_none hnext
      simp only [Option.bind_eq_bind, Option.some_bind, hnext, IsAssociated, slotsOf, hget, hw,
        false_or, Option.some.injEq]
      rw [eq_comm, decide_eq_false_iff_not]
      rintro ⟨s, hs, hle, -⟩
      exact hnone s hs (Fin.lt_def.mpr (Nat.lt_succ_of_le (Fin.le_def.mp hle)))
    | some p =>
      -- `p` is the greatest slot at or below the probe
      have ⟨hp, hpu, hmax⟩ := BTreeSet.nextBackBelow_some hnext
      have hps : p ≤ slot := Fin.le_def.mpr (Nat.le_of_lt_succ (Fin.lt_def.mp hpu))
      simp only [Option.bind_eq_bind, Option.some_bind, hnext, checkedSub_of_le hps, IsAssociated,
        slotsOf, hget, hw, false_or, Option.some.injEq, decide_eq_decide]
      refine congrArg some (decide_eq_decide.mpr ⟨fun hd => ⟨p, hp, hps, hd⟩, ?_⟩)
      rintro ⟨s, hs, hle, hd⟩
      have hsp := Fin.le_def.mp
        (hmax s hs (Fin.lt_def.mpr (Nat.lt_succ_of_le (Fin.le_def.mp hle))))
      omega

/-- The top slot is no address's word: an address is below `2 ^ 160`. -/
theorem max_ne_toWord (address : Address) : U256.max ≠ address.toWord := by
  intro heq
  have hval := congrArg Fin.val heq
  simp only [U256.max, Address.toWord_val] at hval
  have := address.isLt
  omega

/-- At the top slot the lookup panics when the address has an entry, and returns `false`
otherwise. -/
theorem isAssociatedSlot_max (m : AssociatedSlotsByAddress) (address : Address) :
    m.isAssociatedSlot address U256.max =
      if (m.slots.get address).isSome then none else some false := by
  have hover : U256.max.checkedAdd 1 = none := dif_neg (by decide)
  rw [isAssociatedSlot, if_neg (max_ne_toWord address)]
  cases m.slots.get address <;> simp [hover]

/-- At the top slot, the lookup for an address outside `addresses()` completes, with the spec's
association. -/
theorem isAssociatedSlot_max_of_not_contains {m : AssociatedSlotsByAddress} {address : Address}
    (h : m.addresses.contains address = false) :
    m.isAssociatedSlot address U256.max = some (decide (m.IsAssociated address U256.max)) := by
  rw [contains_addresses] at h
  rw [isAssociatedSlot_max, h]
  cases hget : m.slots.get address
  · simp [IsAssociated, slotsOf, hget, max_ne_toWord address]
  · simp [hget] at h

/-- At the top slot, the lookup for an address in `addresses()` panics. -/
theorem isAssociatedSlot_max_of_contains {m : AssociatedSlotsByAddress} {address : Address}
    (h : m.addresses.contains address = true) : m.isAssociatedSlot address U256.max = none := by
  rw [contains_addresses] at h
  rw [isAssociatedSlot_max, if_pos h]

/-- A map holding the one slot `0` for the address `0`. -/
def zeroSlotMap : AssociatedSlotsByAddress :=
  ⟨⟨[(0, ⟨[0], List.sorted_singleton 0⟩)], by decide⟩⟩

/-- **The top slot overflows.** For every map holding slots for `address`, probing the slot
`2 ^ 256 - 1` computes `slot + 1` past the top of `U256`, and the `uint` addition panics. -/
theorem isAssociatedSlot_max_eq_none (m : AssociatedSlotsByAddress) (address : Address)
    (associatedSlots : BTreeSet U256) (h : m.slots.get address = some associatedSlots) :
    m.isAssociatedSlot address U256.max = none :=
  isAssociatedSlot_max_of_contains (by rw [contains_addresses, h]; rfl)

theorem isAssociatedSlot_max_at_zeroSlotMap :
    zeroSlotMap.slots.get 0 = some ⟨[0], List.sorted_singleton 0⟩ ∧
      zeroSlotMap.isAssociatedSlot 0 U256.max = none :=
  ⟨rfl, isAssociatedSlot_max_eq_none zeroSlotMap 0 _ rfl⟩

/-- **Where the lookup panics.** For every map, address and slot, `is_associated_slot` panics
exactly when the slot is the top one and the address has an entry in the map; otherwise it
returns whether the slot is associated in the spec's sense. -/
theorem isAssociatedSlot_spec (m : AssociatedSlotsByAddress) (address : Address) (slot : U256) :
    m.isAssociatedSlot address slot =
      if slot = U256.max ∧ (m.slots.get address).isSome then none
      else some (decide (m.IsAssociated address slot)) := by
  by_cases hmax : slot = U256.max
  · -- the top slot: associated only through the address's own slots, which the lookup misses
    subst hmax
    rw [isAssociatedSlot_max]
    cases hget : m.slots.get address <;>
      simp [IsAssociated, slotsOf, hget, max_ne_toWord address]
  · have hlt : slot.val + 1 < 2 ^ 256 := by
      have := slot.isLt
      have : slot.val ≠ 2 ^ 256 - 1 := fun h => hmax (Fin.ext h)
      omega
    rw [if_neg (fun h => hmax h.1), isAssociatedSlot_of_lt m address slot hlt]

end AssociatedSlotsByAddress

end Rundler.Sim
