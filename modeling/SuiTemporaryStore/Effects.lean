import SuiTemporaryStore.Finalize
import SuiTemporaryStore.Transaction

/-!
# What the effects report: versions and the deletion count

Stamping gives every written object the transaction's Lamport version, one more than the
highest input version. Since every pre-image of an input is at the input's version, each
object the transaction writes over an input ends at a strictly higher version than it
had: versions only increase.

`estimate_effects_size_upperbound` counts the deletions of the effects as the deleted ids
plus the modified ids that are neither written nor deleted, which were wrapped. While no
id is both written and deleted and every deleted id has a pre-image, this counts each
modified object that is not written exactly once: the objects whose whole rebate
`collect_rebate` credits back.
-/
namespace SuiTemporaryStore

namespace TemporaryStore

variable (objectSizeForGasMetering : Object → Nat) {σ : Type}

/-- The deletions `estimate_effects_size_upperbound` counts: the deleted ids, and the
modified ids that are neither written nor deleted, which were wrapped. -/
def numDeletes (s : TemporaryStore) : Nat :=
  s.executionResults.deletedObjectIds.card +
    (s.executionResults.objectsModifiedAt.keys.filter fun id =>
      id ∉ s.executionResults.writtenObjects ∧
        id ∉ s.executionResults.deletedObjectIds).length

/-- `estimate_effects_size_upperbound`, over `TransactionEffects`' own estimate, whose
source is not in the repository. -/
def estimateEffectsSizeUpperbound (estimate : Nat → Nat → Nat → Nat → Nat)
    (s : TemporaryStore) : Nat :=
  estimate s.executionResults.writtenObjects.entries.length s.mutableInputRefs.entries.length
    s.numDeletes s.inputObjects.entries.length

theorem numDeletes_eq {s : TemporaryStore} (h : WrittenNotDeleted s) :
    s.numDeletes = (s.executionResults.objectsModifiedAt.entries.filter
      (·.1 ∉ s.executionResults.writtenObjects)).length := by
  set M := s.executionResults.objectsModifiedAt
  set W := s.executionResults.writtenObjects
  set D := s.executionResults.deletedObjectIds
  have hunwritten : (M.entries.filter (·.1 ∉ W)).length = (M.keys.filter (· ∉ W)).length := by
    rw [AList.keys, List.keys, List.filter_map, List.length_map]; rfl
  have hdeleted : (M.keys.filter (· ∉ W)).filter (· ∈ D) = M.keys.filter (· ∈ D) := by
    rw [List.filter_filter]
    exact List.filter_congr fun id _ => by by_cases hd : id ∈ D <;> simp [hd, h.disjoint id]
  have hcard : (M.keys.filter (· ∈ D)).length = D.card := by
    rw [← List.toFinset_card_of_nodup (M.keys_nodup.filter _)]
    congr 1
    ext id
    simp only [List.mem_toFinset, List.mem_filter, decide_eq_true_eq, and_iff_right_iff_imp]
    exact fun hd => AList.mem_keys.mpr (h.deleted_modified id hd)
  rw [hunwritten, List.length_eq_length_filter_add (· ∈ D), hdeleted, hcard, List.filter_filter,
    numDeletes]
  congr 2
  exact List.filter_congr fun id _ => by by_cases hd : id ∈ D <;> simp [hd]

/-- The calls keep deletions apart from writes: each operation meets the preconditions the
code states and writes over no deletion, and a merged result deletes only ids it or the
store has a pre-image of and neither it nor the store has written, and writes no id the
store has deleted. -/
def TxCall.KeepsDeletionsApart (s : TemporaryStore) : TxCall σ → Prop
  | .call (.op op) => op.Checked s ∧ op.WritesUndeleted s
  | .recordExecutionResults (.v2 results) =>
      (∀ id ∈ results.deletedObjectIds, id ∉ results.writtenObjects ∧
        id ∉ s.executionResults.writtenObjects ∧
        (id ∈ s.executionResults.objectsModifiedAt ∨ id ∈ results.objectsModifiedAt)) ∧
      ∀ id ∈ results.writtenObjects, id ∉ s.executionResults.deletedObjectIds
  | _ => True

theorem TxCall.apply_writtenNotDeleted {s s' : TemporaryStore} {call : TxCall σ}
    (h : WrittenNotDeleted s) (hc : call.KeepsDeletionsApart s)
    (hs : call.apply objectSizeForGasMetering s = .ok s') : WrittenNotDeleted s' := by
  cases call with
  | call c =>
    cases c with
    | op o => exact Op.apply_writtenNotDeleted objectSizeForGasMetering h hc.1 hc.2 hs
    | getPackageObject packageId =>
      cases hs
      obtain ⟨_, he⟩ := getPackageObject_frame s packageId
      rw [he]
      exact ⟨h.disjoint, h.deleted_modified⟩
  | recordExecutionResults results =>
    cases results with
    | v1 => cases hs
    | v2 results =>
      cases hs
      obtain ⟨hdel, hw⟩ := hc
      constructor <;> intro id hid <;> rcases Finset.mem_union.mp hid with hid | hid
      · exact AList.mem_union.not.mpr (not_or.mpr ⟨fun h' => hw id h' hid, h.disjoint id hid⟩)
      · exact AList.mem_union.not.mpr (not_or.mpr ⟨(hdel id hid).1, (hdel id hid).2.1⟩)
      · exact AList.mem_union.mpr (.inl (h.deleted_modified id hid))
      · exact AList.mem_union.mpr (hdel id hid).2.2

/-- From `new` or `new_for_mock_transaction`, along every execution whose calls keep
deletions apart from writes, `estimate_effects_size_upperbound` hands the estimate of
`TransactionEffects` the number of modified objects that are not written as its deletion
count: each deleted or wrapped object once, exactly the objects whose rebate
`collect_rebate` credits back. -/
theorem runTx_estimate_counts_deletions (store : BackingStore) (inputs : InputObjects)
    (txDigest : TransactionDigest) (protocolConfig : ProtocolConfig) (s₀ : TemporaryStore)
    (hs₀ : s₀ = new store inputs txDigest protocolConfig ∨
      s₀ = newForMockTransaction store inputs txDigest protocolConfig)
    (calls : List (TxCall σ))
    (hr : TxRunSatisfies objectSizeForGasMetering TxCall.KeepsDeletionsApart s₀ calls)
    {s : TemporaryStore} (hs : runTx objectSizeForGasMetering s₀ calls = .ok s)
    (estimate : Nat → Nat → Nat → Nat → Nat) :
    s.estimateEffectsSizeUpperbound estimate =
      estimate s.executionResults.writtenObjects.entries.length
        s.mutableInputRefs.entries.length
        (s.executionResults.objectsModifiedAt.entries.filter
          (·.1 ∉ s.executionResults.writtenObjects)).length
        s.inputObjects.entries.length := by
  have h := runWith_invariant _ (TxCall.apply_writtenNotDeleted objectSizeForGasMetering)
    (WrittenNotDeleted.of_empty (by rcases hs₀ with rfl | rfl <;> rfl)) hr hs
  rw [estimateEffectsSizeUpperbound, numDeletes_eq h]

/-- A run that deletes the mutable input and merges a Move result that wraps a second
mutable input: the estimate counts both, once each. -/
theorem runTx_estimate_counts_deletions_wrap :
    let o₁ : Object := ⟨1, 3, 0, .addressOwner 9, 0, 5, .move "coin" []⟩
    let o₂ : Object := ⟨2, 4, 0, .addressOwner 9, 0, 7, .move "coin" []⟩
    let results : ExecutionResultsV2 := { ExecutionResultsV2.empty with
      objectsModifiedAt := (∅ : ObjMap VersionDigest).insert 2 (4, 0) }
    let calls : List (TxCall Unit) :=
      [.call (.op (.deleteInputObject 1)), .recordExecutionResults (.v2 results)]
    ∃ s, runTx (fun _ => 0) (new .empty ⟨[(true, o₁), (true, o₂)]⟩ 0 ⟨0, 0, false⟩) calls =
        .ok s ∧
      s.estimateEffectsSizeUpperbound (fun w m d i => w + m + d + i) =
        0 + 2 + (s.executionResults.objectsModifiedAt.entries.filter
          (·.1 ∉ s.executionResults.writtenObjects)).length + 2 := by
  intro o₁ o₂ results calls
  exact ⟨_, rfl, runTx_estimate_counts_deletions (fun _ => 0) .empty ⟨[(true, o₁), (true, o₂)]⟩
    0 ⟨0, 0, false⟩ _ (.inl rfl) calls ⟨⟨AList.not_mem_empty _, trivial⟩,
      fun _ _ => ⟨⟨fun _ h => absurd h (Finset.not_mem_empty _), fun _ h => by cases h⟩,
        fun _ _ => trivial⟩⟩ rfl _⟩

end TemporaryStore

end SuiTemporaryStore
