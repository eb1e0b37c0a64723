import SuiTemporaryStore.Types

/-!
# The execution-results accumulator

`ExecutionResultsV2` collects what a transaction does: the objects it writes, the ids
it creates and deletes, the pre-image reference of every object it touches
destructively, and the events the VM emits. Its source is not in the repository;
the three operations the store calls are modelled from the spec.
-/
namespace SuiTemporaryStore

/-- An event the VM emits, carried and concatenated but never read by the store. -/
structure Event where
  packageId : ObjectID
  transactionModule : String
  sender : SuiAddress
  type : StructTag
  contents : List UInt8
  deriving DecidableEq, Repr

/-- Modelled from the spec: the accumulator `ExecutionResultsV2`. Every written object sits
under its own id. -/
structure ExecutionResultsV2 where
  writtenObjects : ObjMap Object
  objectsModifiedAt : ObjMap VersionDigest
  createdObjectIds : Finset ObjectID
  deletedObjectIds : Finset ObjectID
  userEvents : List Event
  written_keyed : Keyed writtenObjects

namespace ExecutionResultsV2

/-- `ExecutionResultsV2::default()`. -/
def empty : ExecutionResultsV2 where
  writtenObjects := ∅
  objectsModifiedAt := ∅
  createdObjectIds := ∅
  deletedObjectIds := ∅
  userEvents := []
  written_keyed := Keyed.empty

/-- `written_objects.insert(object.id(), object)`. -/
def writeObject (r : ExecutionResultsV2) (o : Object) : ExecutionResultsV2 :=
  { r with writtenObjects := r.writtenObjects.insert o.id o
           written_keyed := r.written_keyed.insert o }

/-- `objects_modified_at.insert(id, reference)`. -/
def modifyAt (r : ExecutionResultsV2) (id : ObjectID) (ref : VersionDigest) :
    ExecutionResultsV2 :=
  { r with objectsModifiedAt := r.objectsModifiedAt.insert id ref }

section Projections

variable (r : ExecutionResultsV2) (o : Object) (id : ObjectID) (ref : VersionDigest)

@[simp] theorem writeObject_writtenObjects :
    (r.writeObject o).writtenObjects = r.writtenObjects.insert o.id o := rfl
@[simp] theorem writeObject_objectsModifiedAt :
    (r.writeObject o).objectsModifiedAt = r.objectsModifiedAt := rfl
@[simp] theorem writeObject_createdObjectIds :
    (r.writeObject o).createdObjectIds = r.createdObjectIds := rfl
@[simp] theorem writeObject_deletedObjectIds :
    (r.writeObject o).deletedObjectIds = r.deletedObjectIds := rfl
@[simp] theorem modifyAt_writtenObjects :
    (r.modifyAt id ref).writtenObjects = r.writtenObjects := rfl
@[simp] theorem modifyAt_objectsModifiedAt :
    (r.modifyAt id ref).objectsModifiedAt = r.objectsModifiedAt.insert id ref := rfl
@[simp] theorem modifyAt_createdObjectIds :
    (r.modifyAt id ref).createdObjectIds = r.createdObjectIds := rfl
@[simp] theorem modifyAt_deletedObjectIds :
    (r.modifyAt id ref).deletedObjectIds = r.deletedObjectIds := rfl

end Projections

/-- Modelled from the spec: `drop_writes` clears every field of the accumulator. -/
def dropWrites (_ : ExecutionResultsV2) : ExecutionResultsV2 := empty

/-- Modelled from the spec: `merge_results` lets the incoming written objects overwrite,
unions the id sets, keeps the first pre-image recorded for an id, and appends the
incoming events. -/
def mergeResults (r other : ExecutionResultsV2) : ExecutionResultsV2 where
  writtenObjects := other.writtenObjects ∪ r.writtenObjects
  objectsModifiedAt := r.objectsModifiedAt ∪ other.objectsModifiedAt
  createdObjectIds := r.createdObjectIds ∪ other.createdObjectIds
  deletedObjectIds := r.deletedObjectIds ∪ other.deletedObjectIds
  userEvents := r.userEvents ++ other.userEvents
  written_keyed := other.written_keyed.union r.written_keyed

/-- Modelled from the spec: `update_version_and_previous_tx` stamps every written object
with the transaction's Lamport version and digest. -/
def updateVersionAndPreviousTx (r : ExecutionResultsV2) (lamportVersion : SequenceNumber)
    (prevTx : TransactionDigest) : ExecutionResultsV2 :=
  { r with
    writtenObjects := r.writtenObjects.withEntries
      (r.writtenObjects.entries.map fun e =>
        ⟨e.1, { e.2 with version := lamportVersion, previousTransaction := prevTx }⟩)
      (by simp [List.keys])
    written_keyed := by
      intro e he
      obtain ⟨e', he', rfl⟩ := List.mem_map.mp he
      exact r.written_keyed e' he' }

end ExecutionResultsV2

end SuiTemporaryStore
