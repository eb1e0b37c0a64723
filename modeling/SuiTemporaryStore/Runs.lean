import SuiTemporaryStore.ActiveInputs
import SuiTemporaryStore.StorageRebate

/-!
# Runs of the store and the written-or-deleted invariant

A run is a sequence of the calls the VM and the execution engine make on one store,
from `new` or `new_for_mock_transaction`; it stops at the first panic. The store
checks only some preconditions itself: the `unwrap` of a mutable input, and the debug
assertions that a deleted id was not written and that no deleted id is read. Nothing
stops a write after a delete, so an id can end both written and deleted. With that one
write excluded, no run reaches such an id.
-/
namespace SuiTemporaryStore

namespace TemporaryStore

section Runs

variable {γ : Type} (apply : γ → TemporaryStore → Except Failure TemporaryStore)

/-- The calls in order, each made by `apply`, up to the first panic. The store's own
operations, the VM's lookups and the merges of a transaction all run this way. -/
def runWith (s : TemporaryStore) (calls : List γ) : Except Failure TemporaryStore :=
  calls.foldlM (fun s call => apply call s) s

/-- Every call of the run satisfies `P` in the state it is made in. -/
def SatisfiesAlong (P : TemporaryStore → γ → Prop) : TemporaryStore → List γ → Prop
  | _, [] => True
  | s, call :: calls => P s call ∧ ∀ s', apply call s = .ok s' → SatisfiesAlong P s' calls

/-- What every call keeps, under its precondition, holds all along a run. -/
theorem runWith_invariant {P : TemporaryStore → γ → Prop} {I : TemporaryStore → Prop}
    (hstep : ∀ {s s' : TemporaryStore} {call : γ}, I s → P s call → apply call s = .ok s' → I s')
    {s s' : TemporaryStore} {calls : List γ} (h : I s) (hr : SatisfiesAlong apply P s calls)
    (hs : runWith apply s calls = .ok s') : I s' := by
  induction calls generalizing s with
  | nil => cases hs; exact h
  | cons call calls ih =>
    rw [runWith, List.foldlM_cons] at hs
    obtain ⟨s₁, h₁, hs⟩ := bind_eq_ok.mp hs
    exact ih (hstep h hr.1 h₁) (hr.2 s₁ h₁) hs

end Runs

/-- A call on the store. -/
inductive Op (σ : Type)
  | createObject (object : Object)
  | deleteInputObject (id : ObjectID)
  | mutateInputObject (object : Object)
  | mutateChildObject (oldObject newObject : Object)
  | upgradeSystemPackage (package : Object)
  | dropWrites
  | ensureActiveInputsMutated
  | conserveUnmeteredStorageRebate (unmeteredStorageRebate : UInt64)
  | saveLoadedChildObjects (loadedChildObjects : ObjMap LoadedChildObjectMetadata)
  | collectStorageAndRebate (charger : GasCharger σ) (state : σ)

variable (objectSizeForGasMetering : Object → Nat) {σ : Type}

def Op.apply : Op σ → TemporaryStore → Except Failure TemporaryStore
  | .createObject object, s => .ok (s.createObject object)
  | .deleteInputObject id, s => s.deleteInputObject id
  | .mutateInputObject object, s => s.mutateInputObject object
  | .mutateChildObject oldObject newObject, s => .ok (s.mutateChildObject oldObject newObject)
  | .upgradeSystemPackage package, s => s.upgradeSystemPackage package
  | .dropWrites, s => .ok s.dropWrites
  | .ensureActiveInputsMutated, s => s.ensureActiveInputsMutated
  | .conserveUnmeteredStorageRebate amount, s => s.conserveUnmeteredStorageRebate amount
  | .saveLoadedChildObjects m, s => .ok (s.saveLoadedChildObjects m)
  | .collectStorageAndRebate charger g, s =>
    (s.collectStorageAndRebate objectSizeForGasMetering charger g).map Prod.fst

/-- The store's operations in order, up to the first panic. -/
def run (s : TemporaryStore) (ops : List (Op σ)) : Except Failure TemporaryStore :=
  runWith (Op.apply objectSizeForGasMetering) s ops

/-- Every operation of the run satisfies `P` in the state it is made in. -/
def RunSatisfies (P : TemporaryStore → Op σ → Prop) : TemporaryStore → List (Op σ) → Prop :=
  SatisfiesAlong (Op.apply objectSizeForGasMetering) P

/-- The preconditions the code states: a created id is fresh, a deleted id was not
written, and the `0x5` object that a nonzero unmetered rebate is parked in is read only
while it is not deleted. -/
def Op.Checked (s : TemporaryStore) : Op σ → Prop
  | .createObject object => object.id ∉ s.inputObjects ∧
      object.id ∉ s.executionResults.writtenObjects ∧
      object.id ∉ s.executionResults.objectsModifiedAt ∧
      object.id ∉ s.executionResults.deletedObjectIds
  | .deleteInputObject id => id ∉ s.executionResults.writtenObjects
  | .conserveUnmeteredStorageRebate amount =>
      amount ≠ 0 → suiSystemStateObjectId ∉ s.executionResults.deletedObjectIds
  | _ => True

/-- The precondition the code does not check: no object is written over a deletion. -/
def Op.WritesUndeleted (s : TemporaryStore) : Op σ → Prop
  | .mutateInputObject object => object.id ∉ s.executionResults.deletedObjectIds
  | .mutateChildObject _ newObject => newObject.id ∉ s.executionResults.deletedObjectIds
  | .upgradeSystemPackage package => package.id ∉ s.executionResults.deletedObjectIds
  | _ => True

/-- No deleted id is written, and every deleted id has its pre-image recorded. -/
structure WrittenNotDeleted (s : TemporaryStore) : Prop where
  disjoint : ∀ id ∈ s.executionResults.deletedObjectIds, id ∉ s.executionResults.writtenObjects
  deleted_modified : ∀ id ∈ s.executionResults.deletedObjectIds,
    id ∈ s.executionResults.objectsModifiedAt

theorem WrittenNotDeleted.of_empty {s : TemporaryStore}
    (h : s.executionResults = .empty) : WrittenNotDeleted s := by
  constructor <;> intro id hid <;> rw [h] at hid <;> exact absurd hid (Finset.not_mem_empty _)

theorem WrittenNotDeleted.write {s : TemporaryStore} (h : WrittenNotDeleted s) (o : Object)
    (ref : VersionDigest) (hd : o.id ∉ s.executionResults.deletedObjectIds) :
    WrittenNotDeleted { s with
      executionResults := (s.executionResults.modifyAt o.id ref).writeObject o } := by
  constructor <;> intro id hid <;>
    simp only [ExecutionResultsV2.writeObject_deletedObjectIds,
      ExecutionResultsV2.modifyAt_deletedObjectIds] at hid <;>
    simp only [ExecutionResultsV2.writeObject_writtenObjects,
      ExecutionResultsV2.modifyAt_writtenObjects, ExecutionResultsV2.writeObject_objectsModifiedAt,
      ExecutionResultsV2.modifyAt_objectsModifiedAt, AList.mem_insert, not_or]
  · exact ⟨fun he => hd (he ▸ hid), h.disjoint id hid⟩
  · exact .inr (h.deleted_modified id hid)

theorem Op.apply_writtenNotDeleted {s s' : TemporaryStore} {op : Op σ}
    (h : WrittenNotDeleted s) (hc : op.Checked s) (hw : op.WritesUndeleted s)
    (hs : op.apply objectSizeForGasMetering s = .ok s') : WrittenNotDeleted s' := by
  cases op with
  | createObject o =>
    simp only [Op.apply, Except.ok.injEq] at hs
    subst hs
    constructor <;> intro id hid
    · show id ∉ s.executionResults.writtenObjects.insert o.id o
      rw [AList.mem_insert, not_or]
      exact ⟨fun he => hc.2.2.2 (he ▸ hid), h.disjoint id hid⟩
    · exact h.deleted_modified id hid
  | deleteInputObject id =>
    obtain ⟨ref, -, rfl⟩ := deleteInputObject_ok hs
    constructor <;> intro x hx <;> rcases Finset.mem_insert.mp hx with rfl | hx
    · exact hc
    · exact h.disjoint x hx
    · exact (AList.mem_insert _).mpr (.inl rfl)
    · exact (AList.mem_insert _).mpr (.inr (h.deleted_modified x hx))
  | mutateInputObject o =>
    obtain ⟨ref, -, rfl⟩ := mutateInputObject_ok hs
    exact h.write o ref hw
  | mutateChildObject oldObject newObject =>
    cases hs
    exact { h.write newObject _ hw with }
  | upgradeSystemPackage p =>
    obtain ⟨oldObj, -, rfl⟩ := upgradeSystemPackage_ok hs
    exact h.write p _ hw
  | dropWrites => cases hs; exact .of_empty rfl
  | ensureActiveInputsMutated =>
    obtain ⟨r, hr, -, hd, hlk⟩ := ensureActiveInputsMutated_eq s
    rw [Op.apply, hr] at hs
    cases hs
    have kept : ∀ id ∈ s.executionResults.deletedObjectIds,
        r.objectsModifiedAt.lookup id = s.executionResults.objectsModifiedAt.lookup id ∧
        r.writtenObjects.lookup id = s.executionResults.writtenObjects.lookup id :=
      fun id hid => (hlk id).2 fun hn => hn.2 (h.deleted_modified id hid)
    constructor <;> intro id hid <;> rw [hd] at hid <;>
      simp only [← AList.lookup_isSome, (kept id hid).1, (kept id hid).2]
    · exact fun hw' => h.disjoint id hid (AList.lookup_isSome.mp hw')
    · exact AList.lookup_isSome.mpr (h.deleted_modified id hid)
  | conserveUnmeteredStorageRebate amount =>
    rcases conserveUnmeteredStorageRebate_ok hs with rfl | ⟨hne, w, hread, -, hm⟩
    · exact h
    obtain ⟨ref, -, rfl⟩ := mutateInputObject_ok hm
    exact h.write _ ref ((readObject_id hread).symm ▸ hc hne)
  | saveLoadedChildObjects m => cases hs; exact ⟨h.disjoint, h.deleted_modified⟩
  | collectStorageAndRebate charger g =>
    obtain ⟨p, hp, rfl⟩ : ∃ p, s.collectStorageAndRebate objectSizeForGasMetering charger g =
        .ok p ∧ p.1 = s' := by
      simp only [Op.apply] at hs
      cases hc' : s.collectStorageAndRebate objectSizeForGasMetering charger g with
      | error e => rw [hc'] at hs; cases hs
      | ok p => rw [hc'] at hs; exact ⟨p, rfl, Except.ok.inj hs⟩
    obtain ⟨olds, hp'⟩ := collectStorageAndRebate_ok objectSizeForGasMetering charger hp
    rw [hp']
    exact ⟨fun id hid => by simpa using h.disjoint id hid, h.deleted_modified⟩

theorem run_writtenNotDeleted {s s' : TemporaryStore} {ops : List (Op σ)}
    (h : WrittenNotDeleted s)
    (hr : RunSatisfies objectSizeForGasMetering
      (fun s op => op.Checked s ∧ op.WritesUndeleted s) s ops)
    (hs : run objectSizeForGasMetering s ops = .ok s') : WrittenNotDeleted s' :=
  runWith_invariant _ (fun h hc hs => Op.apply_writtenNotDeleted _ h hc.1 hc.2 hs) h hr hs

/-- From `new` or `new_for_mock_transaction`, along every run whose calls meet the
preconditions the code states and write over no deletion, no id is both written and
deleted. -/
theorem run_deleted_not_written (store : BackingStore) (inputs : InputObjects)
    (txDigest : TransactionDigest) (protocolConfig : ProtocolConfig) (s₀ : TemporaryStore)
    (hs₀ : s₀ = new store inputs txDigest protocolConfig ∨
      s₀ = newForMockTransaction store inputs txDigest protocolConfig)
    (ops : List (Op σ))
    (hr : RunSatisfies objectSizeForGasMetering
      (fun s op => op.Checked s ∧ op.WritesUndeleted s) s₀ ops)
    {s : TemporaryStore} (hs : run objectSizeForGasMetering s₀ ops = .ok s) :
    ∀ id ∈ s.executionResults.deletedObjectIds, id ∉ s.executionResults.writtenObjects :=
  (run_writtenNotDeleted _ (.of_empty (by rcases hs₀ with rfl | rfl <;> rfl)) hr hs).disjoint

theorem run_deleted_not_written_after_delete :
    let o : Object := ⟨1, 3, 0, .addressOwner 9, 0, 5, .move "coin" []⟩
    let s₀ := new .empty ⟨[(true, o)]⟩ 0 ⟨0, 0, false⟩
    let ops : List (Op Unit) := [.deleteInputObject 1, .ensureActiveInputsMutated]
    ∃ s, run (fun _ => 0) s₀ ops = .ok s ∧
      ∀ id ∈ s.executionResults.deletedObjectIds, id ∉ s.executionResults.writtenObjects :=
  by
  intro o s₀ ops
  exact ⟨_, rfl, run_deleted_not_written (fun _ => 0) .empty ⟨[(true, o)]⟩ 0 ⟨0, 0, false⟩ s₀
    (.inl rfl) ops
    ⟨⟨AList.not_mem_empty _, trivial⟩, fun _ _ => ⟨⟨trivial, trivial⟩, fun _ _ => trivial⟩⟩ rfl⟩

/-- Deleting a mutable input and then mutating it meets every precondition the code
checks, and leaves the id both written and deleted. -/
theorem deleteInputObject_then_mutateInputObject :
    let o : Object := ⟨1, 3, 0, .addressOwner 9, 0, 5, .move "coin" []⟩
    let s₀ := new .empty ⟨[(true, o)]⟩ 0 ⟨0, 0, false⟩
    let ops : List (Op Unit) := [.deleteInputObject 1, .mutateInputObject o]
    RunSatisfies (fun _ => 0) (fun s op => op.Checked s) s₀ ops ∧
      ∃ s, run (fun _ => 0) s₀ ops = .ok s ∧ 1 ∈ s.executionResults.writtenObjects ∧
        1 ∈ s.executionResults.deletedObjectIds :=
  ⟨⟨AList.not_mem_empty _, fun _ _ => ⟨trivial, fun _ _ => trivial⟩⟩, _, rfl, by decide, by decide⟩

end TemporaryStore

end SuiTemporaryStore
