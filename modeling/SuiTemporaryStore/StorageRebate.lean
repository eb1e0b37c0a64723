import SuiTemporaryStore.Store

/-!
# Storage gas and rebates

`collect_storage_and_rebate` first stages the pre-image rebate of every written object,
then, in a second loop over `values_mut`, lets the gas charger turn each object's new
size and old rebate into the object's new rebate. `collect_rebate` then credits the
rebate of every modified object that is not written: deleted or wrapped.
-/
namespace SuiTemporaryStore

namespace TemporaryStore

/-- `get_input_storage_rebate`: the rebate of the input, else of the loaded child, else of
the backing store's object at the expected version. -/
def getInputStorageRebate (s : TemporaryStore) (id : ObjectID)
    (expectedVersion : SequenceNumber) : Except Failure UInt64 :=
  match s.inputObjects.lookup id with
  | some oldObj => .ok oldObj.storageRebate
  | none =>
    match s.loadedChildObjects.lookup id with
    | some metadata => .ok metadata.storageRebate
    | none =>
      match s.store.getObjectByKey id expectedVersion with
      | some obj => .ok obj.storageRebate
      | none =>
        .error (.panic s!"Looking up storage rebate of mutated object {id} should not fail")

/-- `get_input_storage_rebate` reads no part of the accumulator. -/
@[simp] theorem getInputStorageRebate_executionResults (s : TemporaryStore)
    (r : ExecutionResultsV2) (id : ObjectID) (v : SequenceNumber) :
    getInputStorageRebate { s with executionResults := r } id v = s.getInputStorageRebate id v :=
  rfl

/-- The pre-image rebate of a written object, `0` for a created one. -/
def oldStorageRebate (s : TemporaryStore) (id : ObjectID) : Except Failure UInt64 :=
  match s.executionResults.objectsModifiedAt.lookup id with
  | some (version, _) => s.getInputStorageRebate id version
  | none => .ok 0

/-- The first loop, over the keys of `written_objects`. -/
def oldStorageRebates (s : TemporaryStore) : Except Failure (List UInt64) :=
  s.executionResults.writtenObjects.keys.mapM s.oldStorageRebate

section Charger

variable (objectSizeForGasMetering : Object → Nat) {σ : Type} (charger : GasCharger σ)

/-- The second loop, `values_mut().zip(old_storage_rebates)`: each written object gets the
rebate the charger returns for its size and old rebate. -/
def trackStorageMutations :
    σ → List (Σ _ : ObjectID, Object) → List UInt64 → List (Σ _ : ObjectID, Object) × σ
  | g, ⟨id, object⟩ :: rest, old :: olds =>
    let tracked := charger.trackStorageMutation g (objectSizeForGasMetering object) old
    let after := trackStorageMutations tracked.2 rest olds
    (⟨id, { object with storageRebate := tracked.1 }⟩ :: after.1, after.2)
  | g, rest, _ => (rest, g)

theorem trackStorageMutations_keys (g : σ) (l : List (Σ _ : ObjectID, Object))
    (olds : List UInt64) :
    (trackStorageMutations objectSizeForGasMetering charger g l olds).1.keys = l.keys := by
  induction l generalizing g olds with
  | nil => cases olds <;> rfl
  | cons e l ih =>
    obtain ⟨id, o⟩ := e
    cases olds with
    | nil => rfl
    | cons old olds => simp only [trackStorageMutations, List.keys_cons, ih]

theorem trackStorageMutations_keyed (g : σ) (l : List (Σ _ : ObjectID, Object))
    (olds : List UInt64) (h : ∀ e ∈ l, e.2.id = e.1) :
    ∀ e ∈ (trackStorageMutations objectSizeForGasMetering charger g l olds).1, e.2.id = e.1 := by
  induction l generalizing g olds with
  | nil => cases olds <;> exact h
  | cons e l ih =>
    obtain ⟨id, o⟩ := e
    cases olds with
    | nil => exact h
    | cons old olds =>
      intro e he
      rcases List.mem_cons.mp he with rfl | he
      · exact h ⟨id, o⟩ (List.mem_cons_self _ _)
      · exact ih _ _ (fun e he => h e (List.mem_cons_of_mem _ he)) e he

/-- The written objects with the rebates the charger returned. -/
def withStorageRebates (r : ExecutionResultsV2) (g : σ) (olds : List UInt64) :
    ExecutionResultsV2 :=
  { r with
    writtenObjects := r.writtenObjects.withEntries
      (trackStorageMutations objectSizeForGasMetering charger g r.writtenObjects.entries olds).1
      (trackStorageMutations_keys _ _ _ _ _)
    written_keyed := trackStorageMutations_keyed _ _ _ _ _ r.written_keyed }

/-- One iteration of `collect_rebate`: a modified object that is not written, deleted or
wrapped, has its whole rebate credited back. -/
def collectRebateStep (s : TemporaryStore) (g : σ) (e : Σ _ : ObjectID, VersionDigest) :
    Except Failure σ :=
  if e.1 ∈ s.executionResults.writtenObjects then .ok g
  else do
    let storageRebate ← s.getInputStorageRebate e.1 e.2.1
    pure (charger.trackStorageMutation g 0 storageRebate).2

/-- `collect_rebate`. -/
def collectRebate (s : TemporaryStore) (g : σ) : Except Failure σ :=
  s.executionResults.objectsModifiedAt.entries.foldlM (s.collectRebateStep charger) g

/-- `collect_storage_and_rebate`. -/
def collectStorageAndRebate (s : TemporaryStore) (g : σ) :
    Except Failure (TemporaryStore × σ) := do
  let olds ← s.oldStorageRebates
  let g₁ := (trackStorageMutations objectSizeForGasMetering charger g
    s.executionResults.writtenObjects.entries olds).2
  let s₁ := { s with executionResults :=
    withStorageRebates objectSizeForGasMetering charger s.executionResults g olds }
  let g₂ ← s₁.collectRebate charger g₁
  pure (s₁, g₂)

@[simp] theorem withStorageRebates_objectsModifiedAt (r : ExecutionResultsV2) (g : σ)
    (olds : List UInt64) :
    (withStorageRebates objectSizeForGasMetering charger r g olds).objectsModifiedAt =
      r.objectsModifiedAt := rfl

@[simp] theorem withStorageRebates_deletedObjectIds (r : ExecutionResultsV2) (g : σ)
    (olds : List UInt64) :
    (withStorageRebates objectSizeForGasMetering charger r g olds).deletedObjectIds =
      r.deletedObjectIds := rfl

@[simp] theorem withStorageRebates_createdObjectIds (r : ExecutionResultsV2) (g : σ)
    (olds : List UInt64) :
    (withStorageRebates objectSizeForGasMetering charger r g olds).createdObjectIds =
      r.createdObjectIds := rfl

@[simp] theorem mem_withStorageRebates_writtenObjects (r : ExecutionResultsV2) (g : σ)
    (olds : List UInt64) (id : ObjectID) :
    id ∈ (withStorageRebates objectSizeForGasMetering charger r g olds).writtenObjects ↔
      id ∈ r.writtenObjects := by
  simp only [AList.mem_keys, AList.keys, withStorageRebates, ObjMap.withEntries_entries,
    trackStorageMutations_keys]

/-- `collect_storage_and_rebate` changes nothing but the rebates of the written objects. -/
theorem collectStorageAndRebate_ok {s : TemporaryStore} {g : σ} {p : TemporaryStore × σ}
    (h : s.collectStorageAndRebate objectSizeForGasMetering charger g = .ok p) :
    ∃ olds, p.1 = { s with executionResults :=
      (withStorageRebates objectSizeForGasMetering charger s.executionResults g olds) } := by
  obtain ⟨olds, -, h⟩ := bind_eq_ok.mp h
  obtain ⟨g₂, -, h⟩ := bind_eq_ok.mp h
  exact ⟨olds, (Except.ok.inj h).symm ▸ rfl⟩

end Charger

end TemporaryStore

end SuiTemporaryStore
