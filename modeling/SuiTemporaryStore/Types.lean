import Mathlib.Algebra.BigOperators.Group.Finset
import Mathlib.Data.List.AList
import Mathlib.Data.UInt
import Mathlib.Algebra.Order.Ring.Nat
import Mathlib.Data.Fintype.Card
import Mathlib.Logic.Relation
import Mathlib.Tactic.Set
import Mathlib.Tactic.SplitIfs
import Mathlib.Tactic.Tauto

/-!
# Objects, owners and the collaborators of the temporary store

The data model that `temporary_store.rs` reads. Identifiers, versions and digests
are natural numbers, which the store only compares. Storage rebates and gas amounts
are `UInt64`, whose `+` wraps as Rust's `u64` addition does in a release build.
A `BTreeMap` keyed by `ObjectID` is an `AList`: its iteration order is left open,
so what is proved here holds in particular for the ascending order of the source.
-/
namespace SuiTemporaryStore

abbrev ObjectID := Nat
abbrev SuiAddress := Nat
abbrev SequenceNumber := Nat
abbrev ObjectDigest := Nat
abbrev TransactionDigest := Nat
abbrev VersionDigest := SequenceNumber × ObjectDigest
abbrev ObjectRef := ObjectID × SequenceNumber × ObjectDigest

/-- The id `0x5` of the system state wrapper object. -/
def suiSystemStateObjectId : ObjectID := 5

inductive Owner
  | addressOwner (owner : SuiAddress)
  | objectOwner (parent : SuiAddress)
  | shared (initialSharedVersion : SequenceNumber)
  | immutable
  deriving DecidableEq, Repr

/-- A struct tag, which the store only compares. -/
abbrev StructTag := String

inductive Data
  | move (type : StructTag) (contents : List UInt8)
  | package (serializedModuleMap : List (String × List UInt8))
  deriving DecidableEq, Repr

/-- An object with the fields the store reads. `digest` is the content digest that
`Object::digest` computes. -/
structure Object where
  id : ObjectID
  version : SequenceNumber
  digest : ObjectDigest
  owner : Owner
  previousTransaction : TransactionDigest
  storageRebate : UInt64
  data : Data
  deriving DecidableEq, Repr

namespace Object

def isImmutable (o : Object) : Bool := decide (o.owner = .immutable)

def computeObjectReference (o : Object) : ObjectRef := (o.id, o.version, o.digest)

end Object

/-- `LoadedChildObjectMetadata`: what the store keeps of a child object read through a
dynamic field. -/
structure LoadedChildObjectMetadata where
  version : SequenceNumber
  digest : ObjectDigest
  storageRebate : UInt64
  deriving DecidableEq, Repr

structure GasCostSummary where
  computationCost : UInt64
  storageCost : UInt64
  storageRebate : UInt64
  nonRefundableStorageFee : UInt64
  deriving DecidableEq, Repr

/-- How a call can end other than by returning: a Rust panic with its message, or the
error value of a `Result`. -/
inductive Failure
  | panic (message : String)
  | invariantViolation (message : String)
  | badObjectType (error : String)
  | executionInvariantViolation
  deriving DecidableEq, Repr

/-- `Option::unwrap` on `None`. -/
def unwrapNone : Failure := .panic "called `Option::unwrap()` on a `None` value"

/-- `BTreeMap` indexing on a missing key. -/
def noEntryFound : Failure := .panic "no entry found for key"

theorem bind_eq_ok {α β ε : Type} {x : Except ε α} {f : α → Except ε β} {b : β} :
    x >>= f = .ok b ↔ ∃ a, x = .ok a ∧ f a = .ok b := by
  cases x with
  | error e =>
    constructor
    · intro h; cases h
    · rintro ⟨_, h, _⟩; cases h
  | ok a =>
    constructor
    · intro h; exact ⟨a, rfl, h⟩
    · rintro ⟨_, h, hf⟩; cases h; exact hf

/-- `u64` addition wraps, as `+=` does in a release build. -/
theorem UInt64.toNat_add_wrap (a b : UInt64) : (a + b).toNat = (a.toNat + b.toNat) % 2 ^ 64 := by
  simp [UInt64.add_def, UInt64.toNat, BitVec.toNat_add]

theorem UInt64.toNat_lt_two_pow (a : UInt64) : a.toNat < 2 ^ 64 := a.toNat_lt_size

theorem UInt64.toNat_sub_wrap (a b : UInt64) :
    (a - b).toNat = (2 ^ 64 - b.toNat + a.toNat) % 2 ^ 64 := by
  simp [UInt64.sub_def, UInt64.toNat, BitVec.toNat_sub]

/-- The `u64` difference between a total and its start is what was added to it, wrapped. -/
theorem UInt64.toNat_sub_of_add {a b : UInt64} {x : Nat} (h : b.toNat = (a.toNat + x) % 2 ^ 64) :
    (b - a).toNat = x % 2 ^ 64 := by
  have := UInt64.toNat_lt_two_pow a
  rw [UInt64.toNat_sub_wrap, h]
  omega

/-- A `u64` result in unbounded arithmetic, `0` where the computation failed. -/
def toNatOrZero {ε : Type} : Except ε UInt64 → Nat
  | .ok v => v.toNat
  | .error _ => 0

/-- A `BTreeMap` keyed by object id. -/
abbrev ObjMap (β : Type) := AList (fun _ : ObjectID => β)

/-- `map[id]`: the entry, or the panic of a missing key. -/
def ObjMap.index {β : Type} (m : ObjMap β) (id : ObjectID) : Except Failure β :=
  match m.lookup id with
  | some b => .ok b
  | none => .error noEntryFound

/-- The map with the values `l`, which keeps the keys of `m` in their order: the result
of a loop over `values_mut`. -/
def ObjMap.withEntries {β : Type} (m : ObjMap β) (l : List (Σ _ : ObjectID, β))
    (h : l.keys = m.entries.keys) : ObjMap β :=
  ⟨l, by unfold List.NodupKeys; rw [h]; exact m.nodupKeys⟩

@[simp] theorem ObjMap.withEntries_entries {β : Type} (m : ObjMap β)
    (l : List (Σ _ : ObjectID, β)) (h : l.keys = m.entries.keys) :
    (m.withEntries l h).entries = l := rfl

@[simp] theorem ObjMap.withEntries_keys {β : Type} (m : ObjMap β)
    (l : List (Σ _ : ObjectID, β)) (h : l.keys = m.entries.keys) :
    (m.withEntries l h).keys = m.keys := h

/-- The sum of `f` over the entries of a map, in unbounded arithmetic. -/
def ObjMap.sumBy {β : Type} (m : ObjMap β) (f : ObjectID → β → Nat) : Nat :=
  (m.entries.map fun e => f e.1 e.2).sum

theorem ObjMap.lookup_of_mem_entries {β : Type} {m : ObjMap β} {e : Σ _ : ObjectID, β}
    (he : e ∈ m.entries) : m.lookup e.1 = some e.2 :=
  AList.mem_lookup_iff.mpr he

theorem ObjMap.sumBy_eq_keys {β : Type} (m : ObjMap β) (f : ObjectID → β → Nat) :
    m.sumBy f = (m.keys.map fun k => ((m.lookup k).map (f k)).getD 0).sum := by
  unfold ObjMap.sumBy AList.keys List.keys
  rw [List.map_map]
  congr 1
  exact List.map_congr_left fun e he => by simp [ObjMap.lookup_of_mem_entries he]

/-- Two maps with the same keys and the same summand under each key have the same sum. -/
theorem ObjMap.sumBy_congr {β γ : Type} {m : ObjMap β} {m' : ObjMap γ}
    {f : ObjectID → β → Nat} {g : ObjectID → γ → Nat} (hk : ∀ k, k ∈ m ↔ k ∈ m')
    (hv : ∀ k, ((m.lookup k).map (f k)).getD 0 = ((m'.lookup k).map (g k)).getD 0) :
    m.sumBy f = m'.sumBy g := by
  rw [ObjMap.sumBy_eq_keys, ObjMap.sumBy_eq_keys, List.map_congr_left fun k _ => hv k]
  refine (((List.perm_ext_iff_of_nodup m.keys_nodup m'.keys_nodup).mpr fun k => ?_).map _).sum_eq
  exact hk k

/-- Summing the values of `m` over the keys of `k`, and then over the entries of `m` whose key
`k` lacks, sums each value of `m` once. -/
theorem ObjMap.sum_lookup_add_sum_filter {β γ : Type} (k : ObjMap γ) (m : ObjMap β)
    (f : ObjectID → β → Nat) :
    (k.keys.map fun id => ((m.lookup id).map (f id)).getD 0).sum +
      ((m.entries.filter (·.1 ∉ k)).map fun e => f e.1 e.2).sum = m.sumBy f := by
  set g : ObjectID → Nat := fun id => ((m.lookup id).map (f id)).getD 0
  have hfilter : ((m.entries.filter (·.1 ∉ k)).map fun e => f e.1 e.2) =
      (m.keys.filter (· ∉ k)).map g := by
    rw [AList.keys, List.keys, List.filter_map, List.map_map]
    exact List.map_congr_left fun e he => by
      simp [g, ObjMap.lookup_of_mem_entries (List.mem_of_mem_filter he)]
  have hk : ∑ id ∈ m.keys.toFinset.filter (· ∈ k), g id = ∑ id ∈ k.keys.toFinset, g id := by
    apply Finset.sum_subset_zero_on_sdiff
    · intro id hid
      simp only [Finset.mem_filter, List.mem_toFinset, ← AList.mem_keys] at hid ⊢
      exact hid.2
    · intro id hid
      simp only [Finset.mem_sdiff, Finset.mem_filter, List.mem_toFinset, ← AList.mem_keys] at hid
      simp [g, AList.lookup_eq_none.mpr (fun h => hid.2 ⟨h, hid.1⟩)]
    · intro _ _; rfl
  rw [hfilter, ObjMap.sumBy_eq_keys, ← List.sum_toFinset _ k.keys_nodup,
    ← List.sum_toFinset _ (m.keys_nodup.filter _), ← List.sum_toFinset _ m.keys_nodup, ← hk,
    List.toFinset_filter, ← Finset.sum_filter_add_sum_filter_not m.keys.toFinset (· ∈ k)]
  simp

/-- A map's sum is the summand under one of its keys plus the sum of the rest. -/
theorem ObjMap.sumBy_insert {β : Type} (m : ObjMap β) (f : ObjectID → β → Nat)
    (id : ObjectID) (b : β) :
    ObjMap.sumBy (m.insert id b) f = f id b + ObjMap.sumBy (m.erase id) f := by
  show ((m.insert id b).entries.map fun e => f e.1 e.2).sum =
    f id b + ((m.entries.kerase id).map fun e => f e.1 e.2).sum
  rw [AList.insert_entries, List.map_cons, List.sum_cons]

/-- A map whose every value is the image of the value of `m` under the same key sums as `m`
does with the image. -/
theorem ObjMap.sumBy_lookup_map {β γ : Type} {m : ObjMap β} {m' : ObjMap γ} {φ : β → γ}
    (h : ∀ id, m'.lookup id = (m.lookup id).map φ) (f : ObjectID → γ → Nat) :
    m'.sumBy f = m.sumBy fun id b => f id (φ b) :=
  ObjMap.sumBy_congr
    (fun k => by rw [← AList.lookup_isSome, ← AList.lookup_isSome, h]; cases m.lookup k <;> rfl)
    fun k => by rw [h]; cases m.lookup k <;> rfl

/-- A value under a key after an insert is the inserted one or the old one. -/
theorem ObjMap.lookup_insert_eq_some {β : Type} {m : ObjMap β} {a id : ObjectID} {b b' : β}
    (h : (m.insert a b).lookup id = some b') : (id = a ∧ b' = b) ∨ m.lookup id = some b' := by
  by_cases he : id = a
  · subst he
    rw [AList.lookup_insert, Option.some_inj] at h
    exact .inl ⟨rfl, h.symm⟩
  · rw [AList.lookup_insert_ne he] at h
    exact .inr h

theorem ObjMap.sumBy_eq_zero {β : Type} {m : ObjMap β} {f : ObjectID → β → Nat}
    (h : ∀ e ∈ m.entries, f e.1 e.2 = 0) : m.sumBy f = 0 :=
  List.sum_eq_zero fun _ hx => by
    obtain ⟨e, he, rfl⟩ := List.mem_map.mp hx
    exact h e he

/-- Every object of the map is stored under its own id, as every `insert(obj.id(), obj)`
of the source leaves it. -/
def Keyed (m : ObjMap Object) : Prop := ∀ e ∈ m.entries, e.2.id = e.1

instance (m : ObjMap Object) : Decidable (Keyed m) :=
  inferInstanceAs (Decidable (∀ e ∈ m.entries, e.2.id = e.1))

theorem Keyed.id_eq {m : ObjMap Object} (h : Keyed m) {id : ObjectID} {o : Object}
    (hl : m.lookup id = some o) : o.id = id :=
  h ⟨id, o⟩ (AList.mem_lookup_iff.mp hl)

theorem Keyed.of_lookup {m : ObjMap Object}
    (h : ∀ id o, m.lookup id = some o → o.id = id) : Keyed m :=
  fun e he => h e.1 e.2 (AList.mem_lookup_iff.mpr he)

theorem Keyed.union {m m' : ObjMap Object} (h : Keyed m) (h' : Keyed m') : Keyed (m ∪ m') :=
  Keyed.of_lookup fun _ _ hl => by
    rcases AList.lookup_union_eq_some.mp hl with hl | ⟨-, hl⟩
    exacts [h.id_eq hl, h'.id_eq hl]

theorem Keyed.empty : Keyed (∅ : ObjMap Object) := by
  intro e he; cases he

theorem Keyed.insert {m : ObjMap Object} (h : Keyed m) (o : Object) :
    Keyed (m.insert o.id o) := by
  rintro ⟨id, o'⟩ he
  rcases List.mem_cons.mp he with he | he
  · cases he; rfl
  · exact h _ (List.kerase_sublist _ _ |>.subset he)

/-- The backing store as the temporary store consumes it: lookups that do not fail.
`objects` holds the latest version of each of its finitely many objects. -/
structure BackingStore where
  objects : ObjMap Object
  getObjectByKey : ObjectID → SequenceNumber → Option Object
  getPackageObject : ObjectID → Option Object
  readChildObject : ObjectID → ObjectID → SequenceNumber → Option Object

def BackingStore.getObject (store : BackingStore) (id : ObjectID) : Option Object :=
  store.objects.lookup id

/-- The store that holds no object. -/
def BackingStore.empty : BackingStore :=
  ⟨∅, fun _ _ => none, fun _ => none, fun _ _ _ => none⟩

/-- The part of a `GasCharger` the store calls, over the charger's state `σ`:
`track_storage_mutation(new_size, storage_rebate)` returns the new storage rebate. -/
structure GasCharger (σ : Type) where
  gasCoin : σ → Option ObjectID
  gasCoins : σ → List ObjectRef
  trackStorageMutation : σ → Nat → UInt64 → UInt64 × σ

structure ProtocolConfig where
  version : Nat
  moveBinaryFormatVersion : Nat
  noExtraneousModuleBytes : Bool
  deriving DecidableEq, Repr

end SuiTemporaryStore
