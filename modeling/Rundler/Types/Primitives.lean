import Mathlib

/-! # Primitive types of the bundler

The fixed-width values and the collections that the bundler's types are built from, as
`ethers` and the Rust standard library give them.

* `U256` and `Address` are numbers below `2 ^ 256` and `2 ^ 160`; an address is its twenty
  bytes read big-endian, which is also what `address.as_bytes().into()` reads as a word.
* `Bytes` is a byte string whose length is a `usize`.
* `HashMap` is the list of its entries in iteration order. That order is unspecified, so every
  result over a map holds for every order of its entries.
* `BTreeSet` is the ascending list of its elements.
-/

namespace Rundler

/-- `U256`: an unsigned 256-bit word. -/
abbrev U256 := Fin (2 ^ 256)

/-- `Address` (`H160`): twenty bytes, read as a big-endian number. -/
abbrev Address := Fin (2 ^ 160)

/-- An address read as a 256-bit word (`address.as_bytes().into()`). -/
def Address.toWord (a : Address) : U256 :=
  ⟨a.val, lt_trans a.isLt (by decide)⟩

@[simp] theorem Address.toWord_val (a : Address) : a.toWord.val = a.val := rfl

/-- `a + b` on `U256`: the `uint` crate panics on overflow (`none`). -/
def U256.checkedAdd (a b : U256) : Option U256 :=
  if h : a.val + b.val < 2 ^ 256 then some ⟨a.val + b.val, h⟩ else none

/-- `a - b` on `U256`: the `uint` crate panics on underflow (`none`). -/
def U256.checkedSub (a b : U256) : Option U256 :=
  if b.val ≤ a.val then some ⟨a.val - b.val, lt_of_le_of_lt (Nat.sub_le _ _) a.isLt⟩
  else none

/-- The greatest `U256`, `2 ^ 256 - 1`. -/
def U256.max : U256 := ⟨2 ^ 256 - 1, by decide⟩

/-- `U256::from(u64)`. -/
def U256.ofUInt64 (n : UInt64) : U256 :=
  ⟨n.toNat, lt_trans n.toNat_lt_size (by decide)⟩

/-- `Bytes`: a byte string. Its length is a `usize`, so below `2 ^ 64`. -/
structure Bytes where
  data : List UInt8
  length_lt : data.length < 2 ^ 64
deriving DecidableEq

/-- The empty byte string (`Bytes::default()`, `vec![]`). -/
def Bytes.empty : Bytes := ⟨[], by decide⟩

@[simp] theorem Bytes.empty_data : Bytes.empty.data = [] := rfl

theorem Bytes.ext_iff {a b : Bytes} : a = b ↔ a.data = b.data := by
  cases a; cases b; simp

/-! ## Collections -/

/-- `HashMap<K, V>`: its entries in iteration order, no key twice. -/
structure HashMap (K V : Type) where
  entries : List (K × V)
  nodup : (entries.map Prod.fst).Nodup

namespace HashMap

variable {K V : Type} [DecidableEq K]

/-- `map.keys()`, in iteration order. -/
def keys (m : HashMap K V) : List K := m.entries.map Prod.fst

/-- `map.get(&k)`. -/
def get (m : HashMap K V) (k : K) : Option V := m.entries.lookup k

/-- `map.contains_key(&k)`. -/
def containsKey (m : HashMap K V) (k : K) : Bool := m.keys.contains k

/-- A map with no entries. -/
def empty : HashMap K V := ⟨[], List.nodup_nil⟩

omit [DecidableEq K] in
theorem keys_nodup (m : HashMap K V) : m.keys.Nodup := m.nodup

@[simp] theorem containsKey_iff (m : HashMap K V) (k : K) :
    m.containsKey k = true ↔ k ∈ m.keys := by
  simp [containsKey]

end HashMap

/-- `HashSet<T>`: its elements, none twice. -/
structure HashSet (T : Type) where
  elems : List T
  nodup : elems.Nodup

/-- `set.contains(&x)`. -/
def HashSet.contains {T : Type} [DecidableEq T] (s : HashSet T) (x : T) : Bool := s.elems.contains x

@[simp] theorem HashSet.contains_iff {T : Type} [DecidableEq T] (s : HashSet T) (x : T) :
    s.contains x = true ↔ x ∈ s.elems := by
  simp [HashSet.contains]

/-- `BTreeSet<T>`: its elements in ascending order. -/
structure BTreeSet (T : Type) [LT T] where
  elems : List T
  sorted : elems.Sorted (· < ·)

namespace BTreeSet

variable {T : Type} [LinearOrder T]

/-- `set.range(..upper)`: the elements below `upper`, ascending. -/
def rangeTo (s : BTreeSet T) (upper : T) : List T := s.elems.takeWhile (· < upper)

/-- `iter.next_back()` on `set.range(..upper)`: the last element below `upper`. -/
def nextBackBelow (s : BTreeSet T) (upper : T) : Option T := (s.rangeTo upper).getLast?

/-- On an ascending list, the last element of the prefix below `upper` is the greatest element
below `upper`; an empty prefix means no element is below `upper`. -/
theorem getLast?_takeWhile_lt : ∀ {l : List T}, l.Sorted (· < ·) → ∀ upper : T,
    (∀ p, (l.takeWhile (· < upper)).getLast? = some p →
      p ∈ l ∧ p < upper ∧ ∀ q ∈ l, q < upper → q ≤ p) ∧
    ((l.takeWhile (· < upper)).getLast? = none → ∀ q ∈ l, ¬ q < upper)
  | [], _, _ => by simp
  | a :: l, hl, upper => by
    have ⟨ha, hl'⟩ := List.sorted_cons.mp hl
    have ⟨ih₁, ih₂⟩ := getLast?_takeWhile_lt hl' upper
    by_cases hau : a < upper
    · -- `a` is below `upper`: the prefix is `a` followed by the prefix of the rest
      have htw : (a :: l).takeWhile (· < upper) = a :: l.takeWhile (· < upper) := by
        simp [List.takeWhile_cons, hau]
      rw [htw, List.getLast?_cons]
      cases hrest : (l.takeWhile (· < upper)).getLast? with
      | none =>
        have hnone := ih₂ hrest
        refine ⟨fun p hp => ?_, fun h => by simp at h⟩
        simp only [Option.getD_none, Option.some.injEq] at hp
        subst hp
        refine ⟨List.mem_cons_self _ _, hau, fun q hq hqu => ?_⟩
        rcases List.mem_cons.mp hq with rfl | hq
        · exact le_rfl
        · exact absurd hqu (hnone q hq)
      | some r =>
        have ⟨hr, hru, hmax⟩ := ih₁ r hrest
        refine ⟨fun p hp => ?_, fun h => by simp at h⟩
        simp only [Option.getD_some, Option.some.injEq] at hp
        subst hp
        refine ⟨List.mem_cons_of_mem _ hr, hru, fun q hq hqu => ?_⟩
        rcases List.mem_cons.mp hq with rfl | hq
        · exact le_of_lt (ha _ hr)
        · exact hmax q hq hqu
    · -- `a` is not below `upper`, and every later element is above `a`
      have htw : (a :: l).takeWhile (· < upper) = [] := by simp [List.takeWhile_cons, hau]
      rw [htw, List.getLast?_nil]
      refine ⟨fun p hp => by simp at hp, fun _ q hq hqu => ?_⟩
      rcases List.mem_cons.mp hq with rfl | hq
      · exact hau hqu
      · exact hau (lt_trans (ha q hq) hqu)

/-- `nextBackBelow` finds the greatest element below `upper`. -/
theorem nextBackBelow_some {s : BTreeSet T} {upper p : T} (h : s.nextBackBelow upper = some p) :
    p ∈ s.elems ∧ p < upper ∧ ∀ q ∈ s.elems, q < upper → q ≤ p :=
  (getLast?_takeWhile_lt s.sorted upper).1 p h

/-- `nextBackBelow` finds nothing only when no element is below `upper`. -/
theorem nextBackBelow_none {s : BTreeSet T} {upper : T} (h : s.nextBackBelow upper = none) :
    ∀ q ∈ s.elems, ¬ q < upper :=
  (getLast?_takeWhile_lt s.sorted upper).2 h

end BTreeSet

end Rundler
