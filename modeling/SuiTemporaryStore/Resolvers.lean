import SuiTemporaryStore.Runs

/-!
# The resolvers the VM reads through

The VM reads child objects, packages, modules and resources through the store. Each read
looks at the transaction's written post-images first, and only then at the inputs or the
backing store, so a package upgraded in the transaction serves its new modules at once.
Only `get_package_object` remembers what it loaded, in `runtime_packages_loaded_from_db`.
No operation writes through to the backing store or changes the inputs
(`Op.apply_frame`), so along every run from `new` that interleaves operations with
package lookups, each remembered package is the one the backing store returns for its id.
-/
namespace SuiTemporaryStore

/-- A module id: the address of its package and its name. -/
structure ModuleId where
  address : ObjectID
  name : String

namespace TemporaryStore

/-- `read_child_object` of `ChildObjectResolver`: the written child, else the store's. -/
def readChildObject (s : TemporaryStore) (parent child : ObjectID)
    (childVersionUpperBound : SequenceNumber) : Option Object :=
  match s.executionResults.writtenObjects.lookup child with
  | some obj => some obj
  | none => s.store.readChildObject parent child childVersionUpperBound

/-- `get_package_object` of `BackingPackageStore`, with the store after it: a package
loaded from the backing store is recorded in `runtime_packages_loaded_from_db`. -/
def getPackageObject (s : TemporaryStore) (packageId : ObjectID) :
    Option Object × TemporaryStore :=
  match s.executionResults.writtenObjects.lookup packageId with
  | some obj => (some obj, s)
  | none =>
    match s.store.getPackageObject packageId with
    | some v => (some v, { s with
        runtimePackagesLoadedFromDb := s.runtimePackagesLoadedFromDb.insert packageId v })
    | none => (none, s)

/-- `get_module` of `ModuleResolver`: the package is read with `read_object`, else from
the backing store without being recorded. -/
def getModule (s : TemporaryStore) (moduleId : ModuleId) : Except Failure (Option (List UInt8)) :=
  let packageId := moduleId.address
  match (s.readObject packageId).or (s.store.getPackageObject packageId) with
  | none => .ok none
  | some package =>
    match package.data with
    | .package c => .ok (c.lookup moduleId.name)
    | _ => .error (.badObjectType "Expected module object")

/-- The contents of the Move object `get_resource` found, which must have the requested
type. -/
def resourceContents (object : Object) (structTag : StructTag) :
    Except Failure (Option (List UInt8)) :=
  match object.data with
  | .move type contents =>
    if type = structTag then .ok (some contents)
    else .error (.panic ("Invariant violation: ill-typed object in storage " ++
      "or bad object request from caller"))
  | other =>
    let otherText := reprStr other
    .error (.panic s!"not implemented: Bad object lookup: expected Move object, but got {otherText}")

/-- `get_resource` of `ResourceResolver`. The fallback repeats the same `read_object`. -/
def getResource (s : TemporaryStore) (address : ObjectID) (structTag : StructTag) :
    Except Failure (Option (List UInt8)) :=
  match s.readObject address with
  | some x => resourceContents x structTag
  | none =>
    match s.readObject address with
    | none => .ok none
    | some x =>
      if !x.isImmutable then .error .executionInvariantViolation
      else resourceContents x structTag

variable (objectSizeForGasMetering : Object → Nat) {σ : Type}

theorem Op.apply_frame {s s' : TemporaryStore} {op : Op σ}
    (h : op.apply objectSizeForGasMetering s = .ok s') :
    ∃ r l, s' = { s with executionResults := r, loadedChildObjects := l } := by
  cases op with
  | createObject o => cases h; exact ⟨_, _, rfl⟩
  | deleteInputObject id => obtain ⟨_, -, rfl⟩ := deleteInputObject_ok h; exact ⟨_, _, rfl⟩
  | mutateInputObject o => obtain ⟨_, -, rfl⟩ := mutateInputObject_ok h; exact ⟨_, _, rfl⟩
  | mutateChildObject o o' => cases h; exact ⟨_, _, rfl⟩
  | upgradeSystemPackage p => obtain ⟨_, -, rfl⟩ := upgradeSystemPackage_ok h; exact ⟨_, _, rfl⟩
  | dropWrites => cases h; exact ⟨_, _, rfl⟩
  | ensureActiveInputsMutated =>
    obtain ⟨r, hr, -⟩ := ensureActiveInputsMutated_eq s
    rw [Op.apply, hr, Except.ok.injEq] at h
    exact ⟨r, _, h.symm⟩
  | conserveUnmeteredStorageRebate amount =>
    rcases @conserveUnmeteredStorageRebate_ok s s' amount h with rfl | ⟨-, _, -, -, hm⟩
    · exact ⟨_, _, rfl⟩
    · obtain ⟨_, -, rfl⟩ := mutateInputObject_ok hm; exact ⟨_, _, rfl⟩
  | saveLoadedChildObjects m => cases h; exact ⟨_, _, rfl⟩
  | collectStorageAndRebate charger g =>
    cases hc : s.collectStorageAndRebate objectSizeForGasMetering charger g with
    | error e => rw [Op.apply, hc] at h; cases h
    | ok p =>
      rw [Op.apply, hc] at h
      cases h
      obtain ⟨_, hp⟩ := collectStorageAndRebate_ok objectSizeForGasMetering charger hc
      exact ⟨_, _, hp⟩

/-- A call on the store during execution: an operation, or a package lookup of the VM. -/
inductive Call (σ : Type)
  | op (op : Op σ)
  | getPackageObject (packageId : ObjectID)

def Call.apply : Call σ → TemporaryStore → Except Failure TemporaryStore
  | .op o, s => o.apply objectSizeForGasMetering s
  | .getPackageObject packageId, s => .ok (s.getPackageObject packageId).2

/-- Every package remembered as loaded from the database is the one the backing store
returns for its id. -/
def PackagesFromStore (s : TemporaryStore) : Prop :=
  ∀ id p, s.runtimePackagesLoadedFromDb.lookup id = some p → s.store.getPackageObject id = some p

theorem getPackageObject_frame (s : TemporaryStore) (packageId : ObjectID) :
    ∃ loaded, (s.getPackageObject packageId).2 = { s with runtimePackagesLoadedFromDb := loaded } := by
  unfold getPackageObject
  split
  · exact ⟨_, rfl⟩
  · split <;> exact ⟨_, rfl⟩

theorem getPackageObject_packagesFromStore {s : TemporaryStore} (h : s.PackagesFromStore)
    (packageId : ObjectID) : (s.getPackageObject packageId).2.PackagesFromStore := by
  unfold getPackageObject
  cases s.executionResults.writtenObjects.lookup packageId with
  | some _ => exact h
  | none =>
    cases hp : s.store.getPackageObject packageId with
    | none => exact h
    | some v =>
      intro id p hid
      by_cases he : id = packageId
      · subst he
        rw [AList.lookup_insert, Option.some_inj] at hid
        rw [← hid]
        exact hp
      · rw [AList.lookup_insert_ne he] at hid
        exact h id p hid

theorem Call.apply_frame {s s' : TemporaryStore} {call : Call σ}
    (hs : call.apply objectSizeForGasMetering s = .ok s') :
    s'.store = s.store ∧ s'.inputObjects = s.inputObjects ∧
      (s.PackagesFromStore → s'.PackagesFromStore) := by
  cases call with
  | op o =>
    obtain ⟨_, _, rfl⟩ := Op.apply_frame objectSizeForGasMetering hs
    exact ⟨rfl, rfl, id⟩
  | getPackageObject packageId =>
    cases hs
    obtain ⟨_, he⟩ := getPackageObject_frame s packageId
    exact ⟨by rw [he], by rw [he], fun h => getPackageObject_packagesFromStore h packageId⟩

end TemporaryStore

end SuiTemporaryStore
