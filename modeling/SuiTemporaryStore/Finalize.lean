import SuiTemporaryStore.Runs

/-!
# Stamping the written objects and the debug invariants

`update_object_version_and_prev_tx` gives every written object the transaction's Lamport
version and digest; a debug build then runs `check_invariants`, whose three assertions
panic when an object is both written and deleted, when a mutable input has no pre-image,
or when a written object misses the digest. A run that meets the preconditions the store
relies on, with no write over a deletion, and that ends with
`ensure_active_inputs_mutated`, passes all three.
-/
namespace SuiTemporaryStore

namespace TemporaryStore

/-- `update_object_version_and_prev_tx`, as a release build runs it. -/
def updateObjectVersionAndPrevTx (s : TemporaryStore) : TemporaryStore :=
  { s with executionResults :=
      s.executionResults.updateVersionAndPreviousTx s.lamportTimestamp s.txDigest }

/-- `check_invariants`: the debug assertions in order, the first that fails panicking with
its message. -/
def checkInvariants (s : TemporaryStore) : Except Failure Unit :=
  if !(s.executionResults.writtenObjects.keys.all
      fun id => id ∉ s.executionResults.deletedObjectIds) then
    .error (.panic "Object both written and deleted.")
  else if !(s.mutableInputRefs.keys.all fun id => id ∈ s.executionResults.objectsModifiedAt) then
    .error (.panic "Mutable input not modified.")
  else if !(s.executionResults.writtenObjects.entries.all
      fun e => e.2.previousTransaction = s.txDigest) then
    .error (.panic "Object previous transaction not properly set")
  else .ok ()

/-- Stamping keeps the written ids and every other field, and sets every digest. -/
theorem updateObjectVersionAndPrevTx_spec (s : TemporaryStore) :
    s.updateObjectVersionAndPrevTx.executionResults.writtenObjects.keys =
        s.executionResults.writtenObjects.keys ∧
      s.updateObjectVersionAndPrevTx.executionResults.deletedObjectIds =
        s.executionResults.deletedObjectIds ∧
      s.updateObjectVersionAndPrevTx.executionResults.objectsModifiedAt =
        s.executionResults.objectsModifiedAt ∧
      s.updateObjectVersionAndPrevTx.mutableInputRefs = s.mutableInputRefs ∧
      ∀ e ∈ s.updateObjectVersionAndPrevTx.executionResults.writtenObjects.entries,
        e.2.previousTransaction = s.txDigest := by
  refine ⟨ObjMap.withEntries_keys _ _ (by simp [List.keys]), rfl, rfl, rfl, fun e he => ?_⟩
  obtain ⟨e', -, rfl⟩ := List.mem_map.mp he
  rfl

theorem checkInvariants_of_writtenNotDeleted {s : TemporaryStore} (h : WrittenNotDeleted s)
    (hmod : ∀ id ∈ s.mutableInputRefs, id ∈ s.executionResults.objectsModifiedAt) :
    s.updateObjectVersionAndPrevTx.checkInvariants = .ok () := by
  obtain ⟨hkeys, hdel, hmods, hmut, hprev⟩ := updateObjectVersionAndPrevTx_spec s
  have h₁ : (s.updateObjectVersionAndPrevTx.executionResults.writtenObjects.keys.all
      fun id => id ∉ s.updateObjectVersionAndPrevTx.executionResults.deletedObjectIds) = true := by
    rw [hkeys, hdel, List.all_eq_true]
    exact fun id hid => decide_eq_true fun hd => h.disjoint id hd (AList.mem_keys.mp hid)
  have h₂ : (s.updateObjectVersionAndPrevTx.mutableInputRefs.keys.all fun id =>
      id ∈ s.updateObjectVersionAndPrevTx.executionResults.objectsModifiedAt) = true := by
    rw [hmut, hmods, List.all_eq_true]
    exact fun id hid => decide_eq_true (hmod id (AList.mem_keys.mp hid))
  have h₃ : (s.updateObjectVersionAndPrevTx.executionResults.writtenObjects.entries.all
      fun e => e.2.previousTransaction = s.updateObjectVersionAndPrevTx.txDigest) = true :=
    List.all_eq_true.mpr fun e he => decide_eq_true (hprev e he)
  simp only [checkInvariants, h₁, h₂, h₃, Bool.not_true, Bool.false_eq_true, if_false]

variable (objectSizeForGasMetering : Object → Nat) {σ : Type}

/-- From `new` or `new_for_mock_transaction`, along every run whose calls meet the
preconditions the code states and write over no deletion, and which ends with
`ensure_active_inputs_mutated`, stamping the written objects leaves a store on which none
of the debug assertions of `check_invariants` fires. -/
theorem run_checkInvariants (store : BackingStore) (inputs : InputObjects)
    (txDigest : TransactionDigest) (protocolConfig : ProtocolConfig) (s₀ : TemporaryStore)
    (hs₀ : s₀ = new store inputs txDigest protocolConfig ∨
      s₀ = newForMockTransaction store inputs txDigest protocolConfig)
    (ops : List (Op σ))
    (hr : RunSatisfies objectSizeForGasMetering
      (fun s op => op.Checked s ∧ op.WritesUndeleted s) s₀ ops)
    {s : TemporaryStore}
    (hs : run objectSizeForGasMetering s₀ (ops ++ [.ensureActiveInputsMutated]) = .ok s) :
    s.updateObjectVersionAndPrevTx.checkInvariants = .ok () := by
  rw [run, runWith, List.foldlM_append] at hs
  obtain ⟨s₁, h₁, hs⟩ := bind_eq_ok.mp hs
  simp only [List.foldlM_cons, List.foldlM_nil, bind_pure] at hs
  have hinv₁ := run_writtenNotDeleted objectSizeForGasMetering
    (.of_empty (by rcases hs₀ with rfl | rfl <;> rfl)) hr h₁
  have hinv := @Op.apply_writtenNotDeleted objectSizeForGasMetering σ s₁ s
    .ensureActiveInputsMutated hinv₁ trivial trivial hs
  have hens : s₁.ensureActiveInputsMutated = .ok s := hs
  obtain ⟨r, hr', -⟩ := ensureActiveInputsMutated_eq s₁
  have hmod := ensureActiveInputsMutated_mem hr'
  obtain rfl := Except.ok.inj (hens.symm.trans hr')
  exact checkInvariants_of_writtenNotDeleted hinv hmod

/-- A run that mutates the one mutable input, then forces the active inputs: the debug
check passes after stamping. -/
theorem run_checkInvariants_mutate :
    let o : Object := ⟨1, 3, 0, .addressOwner 9, 0, 5, .move "coin" []⟩
    let s₀ := new .empty ⟨[(true, o)]⟩ 0 ⟨0, 0, false⟩
    let ops : List (Op Unit) := [.mutateInputObject { o with storageRebate := 7 }]
    ∃ s, run (fun _ => 0) s₀ (ops ++ [.ensureActiveInputsMutated]) = .ok s ∧
      s.updateObjectVersionAndPrevTx.checkInvariants = .ok () := by
  intro o s₀ ops
  exact ⟨_, rfl, run_checkInvariants (fun _ => 0) .empty ⟨[(true, o)]⟩ 0 ⟨0, 0, false⟩ s₀
    (.inl rfl) ops ⟨⟨trivial, Finset.not_mem_empty _⟩, fun _ _ => trivial⟩ rfl⟩

end TemporaryStore

end SuiTemporaryStore
