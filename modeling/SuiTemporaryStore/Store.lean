import SuiTemporaryStore.ExecutionResults

/-!
# The temporary store and its write operations

`TemporaryStore` owns the input objects of one transaction, the accumulator of its
effects and the child objects it has loaded. The fields that only `new` sets carry the
two facts `new` establishes: inputs sit under their own ids, and every mutable input
is an input. A call that can panic returns `Except Failure`; the debug assertions of
the source are not executed, as in a release build.
-/
namespace SuiTemporaryStore

/-- `Option::unwrap`. -/
def unwrap {α : Type} : Option α → Except Failure α
  | some a => .ok a
  | none => .error unwrapNone

/-- Modelled from the spec: `InputObjects`, the transaction's input objects, each with
whether it is a mutable input. -/
structure InputObjects where
  objects : List (Bool × Object)

namespace InputObjects

/-- Modelled from the spec: the reference of every mutable input. -/
def mutableInputs (inputs : InputObjects) : ObjMap VersionDigest :=
  inputs.objects.foldl
    (fun m e => if e.1 then m.insert e.2.id (e.2.version, e.2.digest) else m) ∅

/-- Modelled from the spec: the inputs by id. -/
def intoObjectMap (inputs : InputObjects) : ObjMap Object :=
  inputs.objects.foldl (fun m e => m.insert e.2.id e.2) ∅

/-- Modelled from the spec: one more than the highest input version. -/
def lamportTimestamp (inputs : InputObjects) : SequenceNumber :=
  inputs.objects.foldl (fun v e => max v e.2.version) 0 + 1

theorem intoObjectMap_keyed (inputs : InputObjects) : Keyed inputs.intoObjectMap := by
  suffices ∀ (l : List (Bool × Object)) m, Keyed m →
      Keyed (l.foldl (fun m e => m.insert e.2.id e.2) m) from this _ ∅ Keyed.empty
  intro l
  induction l with
  | nil => exact fun _ h => h
  | cons e l ih => exact fun m h => ih _ (h.insert e.2)

theorem mem_mutableInputs (inputs : InputObjects) {id : ObjectID}
    (h : id ∈ inputs.mutableInputs.keys) : id ∈ inputs.intoObjectMap.keys := by
  suffices ∀ (l : List (Bool × Object)) (m : ObjMap VersionDigest) (m' : ObjMap Object),
      (∀ id ∈ m, id ∈ m') →
      ∀ id ∈ l.foldl (fun m e => if e.1 then m.insert e.2.id (e.2.version, e.2.digest)
          else m) m, id ∈ l.foldl (fun m e => m.insert e.2.id e.2) m' by
    simpa only [AList.mem_keys] using this _ ∅ ∅ (by simp) id (AList.mem_keys.mpr h)
  intro l
  induction l with
  | nil => exact fun _ _ h => h
  | cons e l ih =>
    intro m m' h
    apply ih
    intro id hid
    dsimp only at hid ⊢
    split at hid
    · rw [AList.mem_insert] at hid ⊢; exact hid.imp_right (h id)
    · rw [AList.mem_insert]; exact .inr (h id hid)

/-- Modelled from the spec: a mutable reference is the version and digest of a mutable
input. -/
theorem lookup_mutableInputs {inputs : InputObjects} {id : ObjectID} {ref : VersionDigest}
    (h : inputs.mutableInputs.lookup id = some ref) :
    ∃ o, (true, o) ∈ inputs.objects ∧ o.id = id ∧ ref = (o.version, o.digest) := by
  suffices ∀ (l : List (Bool × Object)) (m : ObjMap VersionDigest),
      (l.foldl (fun m e => if e.1 then m.insert e.2.id (e.2.version, e.2.digest) else m)
        m).lookup id = some ref →
      (∃ o, (true, o) ∈ l ∧ o.id = id ∧ ref = (o.version, o.digest)) ∨
        m.lookup id = some ref from
    (this _ ∅ h).resolve_right fun h => by cases h
  intro l
  induction l with
  | nil => exact fun _ h => .inr h
  | cons e l ih =>
    intro m h
    rcases ih _ h with ⟨o, ho, hid, rfl⟩ | h
    · exact .inl ⟨o, List.mem_cons_of_mem _ ho, hid, rfl⟩
    obtain ⟨_ | _, o⟩ := e
    · exact .inr h
    · rcases ObjMap.lookup_insert_eq_some h with ⟨rfl, rfl⟩ | h
      exacts [.inl ⟨o, List.mem_cons_self _ _, rfl, rfl⟩, .inr h]

/-- Modelled from the spec: an input found by id is one of the inputs. -/
theorem lookup_intoObjectMap {inputs : InputObjects} {id : ObjectID} {o : Object}
    (h : inputs.intoObjectMap.lookup id = some o) : ∃ b, (b, o) ∈ inputs.objects := by
  suffices ∀ (l : List (Bool × Object)) (m : ObjMap Object),
      (l.foldl (fun m e => m.insert e.2.id e.2) m).lookup id = some o →
      (∃ b, (b, o) ∈ l) ∨ m.lookup id = some o from
    (this _ ∅ h).resolve_right fun h => by cases h
  intro l
  induction l with
  | nil => exact fun _ h => .inr h
  | cons e l ih =>
    intro m h
    rcases ih _ h with ⟨b, hb⟩ | h
    · exact .inl ⟨b, List.mem_cons_of_mem _ hb⟩
    rcases ObjMap.lookup_insert_eq_some h with ⟨-, rfl⟩ | h
    exacts [.inl ⟨e.1, List.mem_cons_self _ _⟩, .inr h]

/-- When no two inputs share an id, the mutable reference of an input is at the input's
own version. -/
theorem version_of_mutableInputs {inputs : InputObjects}
    (hnodup : (inputs.objects.map (·.2.id)).Nodup) {id : ObjectID} {ref : VersionDigest}
    {o : Object} (href : inputs.mutableInputs.lookup id = some ref)
    (ho : inputs.intoObjectMap.lookup id = some o) : o.version = ref.1 := by
  obtain ⟨o', ho', hid', rfl⟩ := lookup_mutableInputs href
  obtain ⟨b, hb⟩ := lookup_intoObjectMap ho
  have hid : o.id = id := inputs.intoObjectMap_keyed.id_eq ho
  cases List.inj_on_of_nodup_map hnodup hb ho' (hid.trans hid'.symm)
  rfl

end InputObjects

/-- `SequenceNumber::MAX`, the Lamport version of a dry run. Its definition is not in the
repository. -/
def SequenceNumber.max : SequenceNumber := 0x7fffffffffffffff

structure TemporaryStore where
  store : BackingStore
  txDigest : TransactionDigest
  inputObjects : ObjMap Object
  lamportTimestamp : SequenceNumber
  mutableInputRefs : ObjMap VersionDigest
  executionResults : ExecutionResultsV2
  loadedChildObjects : ObjMap LoadedChildObjectMetadata
  protocolConfig : ProtocolConfig
  runtimePackagesLoadedFromDb : ObjMap Object
  inputs_keyed : Keyed inputObjects
  mutable_inputs : ∀ id ∈ mutableInputRefs.keys, id ∈ inputObjects.keys

namespace TemporaryStore

/-- `TemporaryStore::new`. -/
def new (store : BackingStore) (inputObjects : InputObjects) (txDigest : TransactionDigest)
    (protocolConfig : ProtocolConfig) : TemporaryStore where
  store := store
  txDigest := txDigest
  inputObjects := inputObjects.intoObjectMap
  lamportTimestamp := inputObjects.lamportTimestamp
  mutableInputRefs := inputObjects.mutableInputs
  executionResults := .empty
  loadedChildObjects := ∅
  protocolConfig := protocolConfig
  runtimePackagesLoadedFromDb := ∅
  inputs_keyed := inputObjects.intoObjectMap_keyed
  mutable_inputs := fun _ => inputObjects.mem_mutableInputs

/-- `TemporaryStore::new_for_mock_transaction`: `new` with the Lamport version `MAX`. -/
def newForMockTransaction (store : BackingStore) (inputObjects : InputObjects)
    (txDigest : TransactionDigest) (protocolConfig : ProtocolConfig) : TemporaryStore :=
  { new store inputObjects txDigest protocolConfig with
    lamportTimestamp := SequenceNumber.max }

/-- `read_object`: the written post-image, else the input. -/
def readObject (s : TemporaryStore) (id : ObjectID) : Option Object :=
  (s.executionResults.writtenObjects.lookup id).or (s.inputObjects.lookup id)

/-- What `read_object` returns sits under its own id. -/
theorem readObject_id {s : TemporaryStore} {id : ObjectID} {o : Object}
    (h : s.readObject id = some o) : o.id = id := by
  unfold readObject at h
  cases hw : s.executionResults.writtenObjects.lookup id with
  | some o' => rw [hw] at h; cases h; exact s.executionResults.written_keyed.id_eq hw
  | none => rw [hw] at h; exact s.inputs_keyed.id_eq h

/-- `mutate_input_object`. -/
def mutateInputObject (s : TemporaryStore) (object : Object) : Except Failure TemporaryStore := do
  let inputObject ← unwrap (s.mutableInputRefs.lookup object.id)
  pure { s with
    executionResults := (s.executionResults.modifyAt object.id inputObject).writeObject object }

theorem mutateInputObject_of_lookup {s : TemporaryStore} {object : Object} {ref : VersionDigest}
    (h : s.mutableInputRefs.lookup object.id = some ref) :
    s.mutateInputObject object = .ok { s with
      executionResults := (s.executionResults.modifyAt object.id ref).writeObject object } := by
  simp only [mutateInputObject, h, unwrap]; rfl

theorem mutateInputObject_ok {s s' : TemporaryStore} {object : Object}
    (h : s.mutateInputObject object = .ok s') : ∃ ref,
      s.mutableInputRefs.lookup object.id = some ref ∧ s' = { s with
        executionResults := (s.executionResults.modifyAt object.id ref).writeObject object } := by
  cases hl : s.mutableInputRefs.lookup object.id with
  | none => simp [mutateInputObject, hl, unwrap] at h
  | some ref => rw [mutateInputObject_of_lookup hl] at h; exact ⟨ref, rfl, (Except.ok.inj h).symm⟩

/-- `mutate_child_object`. -/
def mutateChildObject (s : TemporaryStore) (oldObject newObject : Object) : TemporaryStore :=
  let oldRef := oldObject.computeObjectReference
  { s with
    loadedChildObjects := s.loadedChildObjects.insert newObject.id
      ⟨oldRef.2.1, oldRef.2.2, oldObject.storageRebate⟩
    executionResults := (s.executionResults.modifyAt newObject.id
      (oldObject.version, oldObject.digest)).writeObject newObject }

/-- `upgrade_system_package`. -/
def upgradeSystemPackage (s : TemporaryStore) (package : Object) :
    Except Failure TemporaryStore :=
  match s.store.getObject package.id with
  | none => .error (.panic "When upgrading a system package, the current version must exists")
  | some oldObj => .ok { s with
      executionResults := (s.executionResults.modifyAt package.id
        (oldObj.version, oldObj.digest)).writeObject package }

theorem upgradeSystemPackage_ok {s s' : TemporaryStore} {package : Object}
    (h : s.upgradeSystemPackage package = .ok s') : ∃ oldObj,
      s.store.getObject package.id = some oldObj ∧ s' = { s with
        executionResults := (s.executionResults.modifyAt package.id
          (oldObj.version, oldObj.digest)).writeObject package } := by
  unfold upgradeSystemPackage at h
  split at h
  · cases h
  · rename_i oldObj hget
    exact ⟨oldObj, hget, (Except.ok.inj h).symm⟩

/-- `create_object`. -/
def createObject (s : TemporaryStore) (object : Object) : TemporaryStore :=
  { s with executionResults := { s.executionResults.writeObject object with
      createdObjectIds := insert object.id s.executionResults.createdObjectIds } }

/-- `delete_input_object`. -/
def deleteInputObject (s : TemporaryStore) (id : ObjectID) : Except Failure TemporaryStore := do
  let inputObject ← unwrap (s.mutableInputRefs.lookup id)
  pure { s with executionResults := { s.executionResults.modifyAt id inputObject with
    deletedObjectIds := insert id s.executionResults.deletedObjectIds } }

theorem deleteInputObject_ok {s s' : TemporaryStore} {id : ObjectID}
    (h : s.deleteInputObject id = .ok s') : ∃ ref,
      s.mutableInputRefs.lookup id = some ref ∧ s' = { s with executionResults :=
        { s.executionResults.modifyAt id ref with
          deletedObjectIds := insert id s.executionResults.deletedObjectIds } } := by
  cases hl : s.mutableInputRefs.lookup id with
  | none => simp [deleteInputObject, hl, unwrap] at h
  | some ref =>
    simp only [deleteInputObject, hl, unwrap] at h
    exact ⟨ref, rfl, (Except.ok.inj h).symm⟩

/-- `drop_writes`, and `reset` of the `Storage` trait. -/
def dropWrites (s : TemporaryStore) : TemporaryStore :=
  { s with executionResults := s.executionResults.dropWrites }

/-- `BTreeMap::extend`: insert the entries of `m` one after another. -/
def extend {β : Type} (l m : ObjMap β) : ObjMap β :=
  m.foldl (fun acc id b => acc.insert id b) l

/-- `save_loaded_child_objects`. -/
def saveLoadedChildObjects (s : TemporaryStore)
    (loadedChildObjects : ObjMap LoadedChildObjectMetadata) : TemporaryStore :=
  { s with loadedChildObjects := extend s.loadedChildObjects loadedChildObjects }

/-- `conserve_unmetered_storage_rebate`: park the unmetered rebate in the `0x5` object. -/
def conserveUnmeteredStorageRebate (s : TemporaryStore) (unmeteredStorageRebate : UInt64) :
    Except Failure TemporaryStore :=
  if unmeteredStorageRebate = 0 then .ok s else
  match s.readObject suiSystemStateObjectId with
  | none => .error (.panic
      "0x5 object must be muated in system tx with unmetered storage rebate")
  | some systemStateWrapper =>
    if systemStateWrapper.storageRebate = 0 then
      s.mutateInputObject { systemStateWrapper with storageRebate := unmeteredStorageRebate }
    else
      let left := systemStateWrapper.storageRebate
      .error (.panic s!"assertion `left == right` failed\n  left: {left}\n right: 0")

theorem conserveUnmeteredStorageRebate_ok {s s' : TemporaryStore} {amount : UInt64}
    (h : s.conserveUnmeteredStorageRebate amount = .ok s') : s' = s ∨ amount ≠ 0 ∧
      ∃ wrapper, s.readObject suiSystemStateObjectId = some wrapper ∧
        wrapper.storageRebate = 0 ∧
        s.mutateInputObject { wrapper with storageRebate := amount } = .ok s' := by
  unfold conserveUnmeteredStorageRebate at h
  split at h
  · exact .inl (Except.ok.inj h).symm
  · rename_i hne
    split at h
    · cases h
    · rename_i wrapper hread
      split at h
      · exact .inr ⟨hne, wrapper, hread, by assumption, h⟩
      · cases h

/-- A nonzero amount is parked in the `0x5` object by `mutate_input_object` when the object
reads with rebate `0`. -/
theorem conserveUnmeteredStorageRebate_of_read {s : TemporaryStore} {amount : UInt64}
    {wrapper : Object} (h0 : amount ≠ 0)
    (hread : s.readObject suiSystemStateObjectId = some wrapper) (hrebate : wrapper.storageRebate = 0) :
    s.conserveUnmeteredStorageRebate amount =
      s.mutateInputObject { wrapper with storageRebate := amount } := by
  simp [conserveUnmeteredStorageRebate, h0, hread, hrebate]

/-- `ensure_active_inputs_mutated`: push every mutable input not yet in
`objects_modified_at` through `mutate_input_object`, unchanged. -/
def ensureActiveInputsMutated (s : TemporaryStore) : Except Failure TemporaryStore := do
  let toBeUpdated ← (s.mutableInputRefs.keys.filter
    (· ∉ s.executionResults.objectsModifiedAt)).mapM s.inputObjects.index
  toBeUpdated.foldlM mutateInputObject s

end TemporaryStore

end SuiTemporaryStore
